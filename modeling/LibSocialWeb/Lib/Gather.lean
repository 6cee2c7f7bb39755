import LibSocialWeb.Lib.KeySet
import Mathlib.Data.List.Perm.Basic
import Mathlib.Tactic.SplitIfs

/-!
# Gathering the replies to several calls

A party makes several calls and gathers what their replies bring in a set. Whoever takes the last
call off the list passes the set on and starts with an empty one. A reply that brings nothing, be it
an error, only takes its call off the list.

**Rules.** `answers_concat`: when all calls are answered, in any order, the set is passed on exactly
if the last answer brings something, and it has what all of them brought; `round_concat` is the same
from the sending of the calls on.

`Only P Q` says that `P` holds of the calls and `Q` of what was gathered. Giving up the calls
establishes it (`only_restart`), and an answer to one of the calls keeps it if the answer brings
only what satisfies `Q`; the sets that are passed on are then of such objects (`Only.answer`,
`Only.shown_answer`).
-/

namespace Gather

/-- The calls that are out, what was gathered, and the sets that were passed on, in order. -/
structure Gathering (ι : Type*) {α κ : Type*} (key : α → κ) where
  calls : List ι
  set : KeySet key
  shown : List (KeySet key)

namespace Gathering

variable {ι α κ : Type*} [DecidableEq ι] [DecidableEq κ] {key : α → κ}

def init : Gathering ι key := ⟨[], KeySet.empty, []⟩

variable (g : Gathering ι key)

/-- Give up all calls and what they brought. -/
def restart : Gathering ι key := { g with calls := [], set := KeySet.empty }

def send (c : ι) : Gathering ι key := { g with calls := c :: g.calls }

/-- The call is answered. -/
def take (c : ι) : Gathering ι key := { g with calls := g.calls.erase c }

def gather (found : List α) : Gathering ι key := { g with set := g.set.addAll found }

/-- Pass on a set. -/
def pass (set : KeySet key) : Gathering ι key := { g with shown := g.shown ++ [set] }

/-- Pass on what was gathered, unless there is a call left. -/
def showIfDone : Gathering ι key :=
  if g.calls = [] then { g.pass g.set with set := KeySet.empty } else g

/-- The answer to a call; `none` if it brings nothing. -/
def answer (c : ι) : Option (List α) → Gathering ι key
  | none => g.take c
  | some found => ((g.take c).gather found).showIfDone

/-- Answers, one after the other. -/
def answers (l : List (ι × Option (List α))) : Gathering ι key :=
  l.foldl (fun g a => g.answer a.1 a.2) g

/-- What the answers bring. -/
def brought (l : List (ι × Option (List α))) : List α := l.flatMap fun a => a.2.getD []

/-- All calls are answered, the last one with `found`. -/
def finished : Option (List α) → Gathering ι key
  | none => ⟨[], g.set, g.shown⟩
  | some found => ⟨[], KeySet.empty, g.shown ++ [g.set.addAll found]⟩

variable {g} {c : ι} {found : Option (List α)} {l : List (ι × Option (List α))}

/-- As long as there is a call left, what was gathered is kept. -/
theorem answer_of_left (h : g.calls.erase c ≠ []) :
    g.answer c found = ⟨g.calls.erase c, g.set.addAll (found.getD []), g.shown⟩ := by
  cases found with
  | none => rfl
  | some found => exact if_neg h

/-- The answer to the only call. -/
theorem answer_of_only (h : g.calls.erase c = []) : g.answer c found = g.finished found := by
  cases found with
  | none =>
    change (⟨g.calls.erase c, g.set, g.shown⟩ : Gathering ι key) = _
    rw [h]
    rfl
  | some found =>
    have hshow : g.answer c (some found) =
        ⟨g.calls.erase c, KeySet.empty, g.shown ++ [g.set.addAll found]⟩ := if_pos h
    rw [hshow, h]
    rfl

theorem calls_answer : (g.answer c found).calls = g.calls.erase c := by
  by_cases hleft : g.calls.erase c = []
  · rw [answer_of_only hleft, hleft]
    cases found <;> rfl
  · rw [answer_of_left hleft]

theorem mem_calls_answer {c' : ι} (h : c' ∈ (g.answer c found).calls) : c' ∈ g.calls := by
  rw [calls_answer] at h
  exact List.mem_of_mem_erase h

theorem addAll_append (set : KeySet key) (l l' : List α) :
    set.addAll (l ++ l') = (set.addAll l).addAll l' := List.foldl_append

/-- **The last answer decides whether what was gathered is passed on.** -/
theorem answers_concat (hperm : ((l ++ [(c, found)]).map Prod.fst).Perm g.calls) :
    g.answers (l ++ [(c, found)]) = (g.gather (brought l)).finished found := by
  induction l generalizing g with
  | nil =>
    have honly : g.calls.erase c = [] := by
      have herase := hperm.symm.erase c
      rw [List.nil_append, List.map_singleton, List.erase_cons_head] at herase
      exact herase.eq_nil
    exact answer_of_only honly
  | cons a l ih =>
    have herase : ((l ++ [(c, found)]).map Prod.fst).Perm (g.calls.erase a.1) := by
      have herase := hperm.erase a.1
      rw [List.cons_append, List.map_cons, List.erase_cons_head] at herase
      exact herase
    have hleft : g.calls.erase a.1 ≠ [] := by
      intro hnil
      rw [hnil] at herase
      simpa using herase.eq_nil
    have hbrought : g.set.addAll (brought (a :: l)) =
        (g.set.addAll (a.2.getD [])).addAll (brought l) := addAll_append g.set _ _
    have hcalls : ((l ++ [(c, found)]).map Prod.fst).Perm (g.answer a.1 a.2).calls := by
      rw [calls_answer]
      exact herase
    have hrest := ih hcalls
    change (g.answer a.1 a.2).answers (l ++ [(c, found)]) = _
    rw [hrest, answer_of_left hleft]
    cases found with
    | none => exact congrArg (fun set => Gathering.mk [] set g.shown) hbrought.symm
    | some new =>
      exact congrArg (fun set => Gathering.mk [] KeySet.empty (g.shown ++ [set.addAll new]))
        hbrought.symm

/-- Calls that are sent one after the other. -/
def sendAll (g : Gathering ι key) (calls : List ι) : Gathering ι key := calls.foldl send g

omit [DecidableEq ι] [DecidableEq κ] in
theorem sendAll_eq (g : Gathering ι key) (calls : List ι) :
    g.sendAll calls = ⟨calls.reverse ++ g.calls, g.set, g.shown⟩ := by
  induction calls generalizing g with
  | nil => rfl
  | cons c calls ih =>
    change (g.send c).sendAll calls = _
    rw [ih]
    simp [send]

/-- **A round**: all is given up, calls are sent, and all of them are answered. -/
theorem round_concat {calls : List ι} (hall : ((l ++ [(c, found)]).map Prod.fst).Perm calls) :
    (g.restart.sendAll calls).answers (l ++ [(c, found)]) =
      finished ⟨[], KeySet.empty.addAll (brought l), g.shown⟩ found := by
  have hcalls : ((l ++ [(c, found)]).map Prod.fst).Perm (g.restart.sendAll calls).calls := by
    rw [sendAll_eq, restart, List.append_nil]
    exact hall.trans calls.reverse_perm.symm
  rw [answers_concat hcalls, sendAll_eq]
  cases found <;> rfl

/-! ## What is gathered -/

theorem mem_addAll {set : KeySet key} {new : List α} {a : α} (h : a ∈ set.addAll new) :
    a ∈ set ∨ a ∈ new := by
  induction new generalizing set with
  | nil => exact .inl h
  | cons b new ih =>
    have hrest : a ∈ (set.add b).addAll new := h
    rcases ih hrest with h | h
    · rcases List.mem_append.1 h with h | h
      · exact .inl (List.mem_filter.1 h).1
      · exact .inr (List.mem_cons.2 (.inl (List.mem_singleton.1 h)))
    · exact .inr (List.mem_cons_of_mem b h)

/-- The calls satisfy `P`, and what was gathered satisfies `Q`. -/
structure Only (P : ι → Prop) (Q : α → Prop) (g : Gathering ι key) : Prop where
  calls : ∀ c ∈ g.calls, P c
  set : ∀ a ∈ g.set, Q a

variable {P : ι → Prop} {Q : α → Prop}

omit [DecidableEq ι] [DecidableEq κ] in
theorem only_restart : Only P Q g.restart :=
  ⟨fun _ h => (List.not_mem_nil h).elim, fun _ h => (List.not_mem_nil h).elim⟩

omit [DecidableEq ι] [DecidableEq κ] in
theorem Only.sendAll (h : Only P Q g) {calls : List ι} (hcalls : ∀ c ∈ calls, P c) :
    Only P Q (g.sendAll calls) := by
  rw [sendAll_eq]
  refine ⟨fun c hc => ?_, h.set⟩
  rcases List.mem_append.1 hc with hc | hc
  · exact hcalls c (List.mem_reverse.1 hc)
  · exact h.calls c hc

omit [DecidableEq ι] in
theorem Only.addAll (h : Only P Q g) (hnew : ∀ a ∈ found.getD [], Q a) :
    ∀ a ∈ g.set.addAll (found.getD []), Q a :=
  fun a ha => (mem_addAll ha).elim (h.set a) (hnew a)

theorem Only.answer (h : Only P Q g) (hnew : ∀ a ∈ found.getD [], Q a) :
    Only P Q (g.answer c found) := by
  refine ⟨fun c' hc' => h.calls c' (mem_calls_answer hc'), ?_⟩
  by_cases hleft : g.calls.erase c = []
  · rw [answer_of_only hleft]
    cases found with
    | none => exact h.set
    | some new => exact fun _ ha => (List.not_mem_nil ha).elim
  · rw [answer_of_left hleft]
    exact h.addAll hnew

/-- What an answer passes on satisfies `Q`. -/
theorem Only.shown_answer (h : Only P Q g) (hnew : ∀ a ∈ found.getD [], Q a) :
    (g.answer c found).shown = g.shown ∨
      ∃ set, (g.answer c found).shown = g.shown ++ [set] ∧ ∀ a ∈ set, Q a := by
  by_cases hleft : g.calls.erase c = []
  · rw [answer_of_only hleft]
    cases found with
    | none => exact .inl rfl
    | some new => exact .inr ⟨g.set.addAll new, rfl, h.addAll hnew⟩
  · rw [answer_of_left hleft]
    exact .inl rfl

end Gathering

end Gather
