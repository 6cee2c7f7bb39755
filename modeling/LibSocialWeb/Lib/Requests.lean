import Mathlib.Data.List.Nodup
import Mathlib.Data.List.Perm.Basic
import Mathlib.Data.Nat.Basic
import Mathlib.Order.Basic

/-!
# Requests that are answered later

A party takes numbered requests. For a request it may have a call in flight to somebody else, and
goes on when the reply comes in; what it does for the request is put on record under the request's
number.

Along a run the record changes in four ways: a request is `opened` with its first call, `passed` on
to another call, `closed` when a reply comes in and there is nothing more to ask, or `refused` at
once. `WellNumbered` says that a request has at most one call in flight, and nothing on record
while it has.

**Rules.** Each of the four keeps `WellNumbered`. Of a request without a call in flight the record
is final, so a property of all final records (`EachClosed`) has to be checked only where a request
is closed or refused: `eachClosed_opened`, `eachClosed_passed`, `eachClosed_closed`,
`eachClosed_refused`.

**Counting.** `unrecorded` counts the requests with nothing on record. A request that is opened or
refused without an action is one more, one that is closed with an action is one less.
-/

namespace InFlight

/-- Requests, the calls in flight for them and what was done for them. -/
structure Requests (κ α : Type*) where
  made : Nat
  calls : List κ
  log : List (Nat × α)
  deriving DecidableEq, Repr

namespace Requests

variable {κ α : Type*}

/-- No request yet. -/
def none : Requests κ α := ⟨0, [], []⟩

/-- What was done for request `i`, in order. -/
def history (r : Requests κ α) (i : Nat) : List α := (r.log.filter (·.1 = i)).map (·.2)

/-- The next request. -/
def new (r : Requests κ α) : Requests κ α := { r with made := r.made + 1 }

/-- Make a call. -/
def send (r : Requests κ α) (c : κ) : Requests κ α := { r with calls := r.calls ++ [c] }

/-- The reply to a call has come in. -/
def take [DecidableEq κ] (r : Requests κ α) (c : κ) : Requests κ α :=
  { r with calls := r.calls.erase c }

/-- Put an action for request `i` on record. -/
def note (r : Requests κ α) (i : Nat) (a : α) : Requests κ α := { r with log := r.log ++ [(i, a)] }

/-- Actions for request `i`, one after the other. -/
def notes (r : Requests κ α) (i : Nat) (acts : List α) : Requests κ α :=
  { r with log := r.log ++ acts.map ((i, ·)) }

variable {r : Requests κ α} {i j : Nat} {a : α} {acts : List α} {c c' : κ}

theorem note_eq_notes : r.note i a = r.notes i [a] := rfl

theorem note_note : (r.note i a).note i b = r.notes i [a, b] := by
  simp [note, notes]

@[simp] theorem history_new : r.new.history i = r.history i := rfl

@[simp] theorem history_send : (r.send c).history i = r.history i := rfl

@[simp] theorem history_take [DecidableEq κ] : (r.take c).history i = r.history i := rfl

theorem history_notes : (r.notes j acts).history i =
    r.history i ++ if j = i then acts else [] := by
  unfold notes history
  rw [List.filter_append, List.map_append]
  by_cases hji : j = i
  · simp [hji, List.filter_map, Function.comp_def]
  · simp [hji, List.filter_map, Function.comp_def]

@[simp] theorem history_notes_self : (r.notes i acts).history i = r.history i ++ acts := by
  simp [history_notes]

theorem history_notes_of_ne (h : j ≠ i) : (r.notes j acts).history i = r.history i := by
  simp [history_notes, h]

/-! ## The four changes -/

/-- A request starts with a call. -/
def opened (r : Requests κ α) (c : κ) : Requests κ α := r.new.send c

/-- The reply to `c` leads to the call `c'`. -/
def passed [DecidableEq κ] (r : Requests κ α) (c c' : κ) : Requests κ α := (r.take c).send c'

/-- The reply to `c` ends request `i`. -/
def closed [DecidableEq κ] (r : Requests κ α) (c : κ) (i : Nat) (acts : List α) : Requests κ α :=
  (r.take c).notes i acts

/-- A request ends without a call. -/
def refused (r : Requests κ α) (acts : List α) : Requests κ α := r.new.notes r.made acts

variable (owner : κ → Nat)

/-- Request `i` has been made and has no call in flight. -/
def Closed (r : Requests κ α) (i : Nat) : Prop := i < r.made ∧ i ∉ r.calls.map owner

/-- The record of every closed request satisfies `P`. -/
def EachClosed (P : List α → Prop) (r : Requests κ α) : Prop :=
  ∀ i, r.Closed owner i → P (r.history i)

/-- A request has at most one call in flight, and a record only when it has none. -/
structure WellNumbered (r : Requests κ α) : Prop where
  nodup : (r.calls.map owner).Nodup
  made : ∀ i ∈ r.calls.map owner, i < r.made
  calls : ∀ i ∈ r.calls.map owner, r.history i = []
  fresh : ∀ i, r.made ≤ i → r.history i = []

variable {owner}

theorem wellNumbered_none : WellNumbered owner (none : Requests κ α) where
  nodup := List.nodup_nil
  made := fun _ hi => absurd hi List.not_mem_nil
  calls := fun _ hi => absurd hi List.not_mem_nil
  fresh := fun _ _ => rfl

theorem eachClosed_none {P : List α → Prop} : EachClosed owner P (none : Requests κ α) :=
  fun i h => absurd h.1 (Nat.not_lt_zero i)

/-! ### Opened -/

theorem mem_owners_send : i ∈ (r.send c).calls.map owner ↔ i ∈ r.calls.map owner ∨ i = owner c := by
  simp [send, or_comm, eq_comm]

theorem wellNumbered_opened (h : WellNumbered owner r) (hc : owner c = r.made) :
    WellNumbered owner (r.opened c) where
  nodup := by
    have hnew : r.made ∉ r.calls.map owner := fun hm => absurd (h.made _ hm) (lt_irrefl _)
    show ((r.calls ++ [c]).map owner).Nodup
    rw [List.map_append, List.nodup_append]
    refine ⟨h.nodup, List.nodup_singleton _, fun a ha b hb => ?_⟩
    intro heq
    subst heq
    rw [List.map_singleton, List.mem_singleton, hc] at hb
    exact hnew (hb ▸ ha)
  made := by
    intro i hi
    show i < r.made + 1
    rcases mem_owners_send.1 hi with hi | rfl
    · have hlt := h.made i hi
      omega
    · omega
  calls := by
    intro i hi
    rcases mem_owners_send.1 hi with hi | rfl
    · exact h.calls i hi
    · exact h.fresh _ hc.ge
  fresh := by
    intro i hi
    have hle : r.made + 1 ≤ i := hi
    exact h.fresh i (by omega)

theorem eachClosed_opened {P : List α → Prop} (hc : owner c = r.made) :
    EachClosed owner P (r.opened c) ↔ EachClosed owner P r := by
  have hclosed : ∀ i, (r.opened c).Closed owner i ↔ r.Closed owner i := by
    intro i
    show i < r.made + 1 ∧ i ∉ (r.new.send c).calls.map owner ↔ _
    rw [mem_owners_send, hc, not_or]
    exact ⟨fun ⟨hlt, hno, hne⟩ => ⟨by omega, hno⟩, fun ⟨hlt, hno⟩ => ⟨by omega, hno, by omega⟩⟩
  exact forall_congr' fun i => by rw [hclosed]; exact Iff.rfl

/-! ### Refused -/

theorem wellNumbered_refused (h : WellNumbered owner r) : WellNumbered owner (r.refused acts) where
  nodup := h.nodup
  made := by
    intro i hi
    have hlt := h.made i hi
    show i < r.made + 1
    omega
  calls := by
    intro i hi
    have hlt := h.made i hi
    exact (history_notes_of_ne (by omega)).trans (h.calls i hi)
  fresh := by
    intro i hi
    have hlt : r.made + 1 ≤ i := hi
    exact (history_notes_of_ne (by omega)).trans (h.fresh i (by omega))

theorem eachClosed_refused {P : List α → Prop} (h : WellNumbered owner r) :
    EachClosed owner P (r.refused acts) ↔ P acts ∧ EachClosed owner P r := by
  have hself : (r.refused acts).history r.made = acts := by
    simp [refused, h.fresh r.made le_rfl]
  have hother : ∀ i, i ≠ r.made → (r.refused acts).history i = r.history i :=
    fun i hi => history_notes_of_ne hi.symm
  refine ⟨?_, ?_⟩
  · refine fun hP => ⟨?_, fun i hi => ?_⟩
    · have hclosed : (r.refused acts).Closed owner r.made :=
        ⟨Nat.lt_succ_self _, fun hm => absurd (h.made _ hm) (lt_irrefl _)⟩
      exact hself ▸ hP r.made hclosed
    · rw [← hother i hi.1.ne]
      exact hP i ⟨hi.1.trans (Nat.lt_succ_self _), hi.2⟩
  · intro hand i hclosed
    rcases hand with ⟨hacts, hP⟩
    rcases hclosed with ⟨hlt, hno⟩
    by_cases hi : i = r.made
    · rw [hi, hself]
      exact hacts
    · rw [hother i hi]
      have hlt : i < r.made + 1 := hlt
      exact hP i ⟨by omega, hno⟩

/-! ### Closed and passed -/

variable [DecidableEq κ]

/-- With one call each, taking a call takes its owner and no other. -/
theorem mem_owners_take (h : WellNumbered owner r) (hc : c ∈ r.calls) :
    i ∈ (r.take c).calls.map owner ↔ i ∈ r.calls.map owner ∧ i ≠ owner c := by
  have hperm : (r.calls.map owner).Perm (owner c :: (r.calls.erase c).map owner) :=
    (List.perm_cons_erase hc).map owner
  have hnodup : owner c ∉ (r.calls.erase c).map owner :=
    (List.nodup_cons.1 (hperm.nodup_iff.1 h.nodup)).1
  rw [hperm.mem_iff, List.mem_cons]
  refine ⟨?_, ?_⟩
  · intro hi
    refine ⟨Or.inr hi, ?_⟩
    intro heq
    subst heq
    exact hnodup hi
  · intro hand
    rcases hand with ⟨rfl | hi, hne⟩
    · exact absurd rfl hne
    · exact hi

theorem wellNumbered_take (h : WellNumbered owner r) (hc : c ∈ r.calls) :
    WellNumbered owner (r.take c) where
  nodup := h.nodup.sublist (List.Sublist.map owner List.erase_sublist)
  made := fun i hi => h.made i ((mem_owners_take h hc).1 hi).1
  calls := fun i hi => h.calls i ((mem_owners_take h hc).1 hi).1
  fresh := h.fresh

theorem wellNumbered_closed (h : WellNumbered owner r) (hc : c ∈ r.calls) (hi : owner c = i) :
    WellNumbered owner (r.closed c i acts) where
  nodup := (wellNumbered_take h hc).nodup
  made := (wellNumbered_take h hc).made
  calls := by
    intro j hj
    have hne : j ≠ owner c := ((mem_owners_take h hc).1 hj).2
    exact (history_notes_of_ne (hi ▸ hne.symm)).trans ((wellNumbered_take h hc).calls j hj)
  fresh := by
    intro j hj
    have hlt : i < r.made := hi ▸ h.made _ (List.mem_map_of_mem hc)
    have hj : r.made ≤ j := hj
    exact (history_notes_of_ne (by omega)).trans (h.fresh j hj)

theorem eachClosed_closed {P : List α → Prop} (h : WellNumbered owner r) (hc : c ∈ r.calls)
    (hi : owner c = i) :
    EachClosed owner P (r.closed c i acts) ↔ P acts ∧ EachClosed owner P r := by
  subst hi
  have hmem : owner c ∈ r.calls.map owner := List.mem_map_of_mem hc
  have hself : (r.closed c (owner c) acts).history (owner c) = acts := by
    simp [closed, h.calls _ hmem]
  have hother : ∀ j, j ≠ owner c → (r.closed c (owner c) acts).history j = r.history j :=
    fun j hj => history_notes_of_ne hj.symm
  refine ⟨?_, ?_⟩
  · refine fun hP => ⟨?_, fun j hj => ?_⟩
    · have hclosed : (r.closed c (owner c) acts).Closed owner (owner c) :=
        ⟨h.made _ hmem, fun hm => ((mem_owners_take h hc).1 hm).2 rfl⟩
      exact hself ▸ hP _ hclosed
    · have hne : j ≠ owner c := by
        intro heq
        subst heq
        exact hj.2 hmem
      rw [← hother j hne]
      exact hP j ⟨hj.1, fun hm => hj.2 ((mem_owners_take h hc).1 hm).1⟩
  · intro hand j hclosed
    rcases hand with ⟨hacts, hP⟩
    rcases hclosed with ⟨hlt, hno⟩
    by_cases hj : j = owner c
    · rw [hj, hself]
      exact hacts
    · rw [hother j hj]
      exact hP j ⟨hlt, fun hm => hno ((mem_owners_take h hc).2 ⟨hm, hj⟩)⟩

theorem mem_owners_passed (h : WellNumbered owner r) (hc : c ∈ r.calls)
    (hcc' : owner c' = owner c) :
    i ∈ (r.passed c c').calls.map owner ↔ i ∈ r.calls.map owner := by
  have hmem : owner c ∈ r.calls.map owner := List.mem_map_of_mem hc
  unfold passed
  rw [mem_owners_send, mem_owners_take h hc, hcc']
  refine ⟨?_, ?_⟩
  · intro hor
    rcases hor with hi | rfl
    · exact hi.1
    · exact hmem
  · intro hi
    by_cases hic : i = owner c
    · exact Or.inr hic
    · exact Or.inl ⟨hi, hic⟩

theorem wellNumbered_passed (h : WellNumbered owner r) (hc : c ∈ r.calls)
    (hcc' : owner c' = owner c) : WellNumbered owner (r.passed c c') where
  nodup := by
    show ((r.calls.erase c ++ [c']).map owner).Nodup
    rw [List.map_append, List.map_singleton, hcc', List.nodup_append_comm]
    have hperm : (r.calls.map owner).Perm (owner c :: (r.calls.erase c).map owner) :=
      (List.perm_cons_erase hc).map owner
    exact hperm.nodup_iff.1 h.nodup
  made := fun i hi => h.made i ((mem_owners_passed h hc hcc').1 hi)
  calls := fun i hi => h.calls i ((mem_owners_passed h hc hcc').1 hi)
  fresh := h.fresh

theorem eachClosed_passed {P : List α → Prop} (h : WellNumbered owner r) (hc : c ∈ r.calls)
    (hcc' : owner c' = owner c) :
    EachClosed owner P (r.passed c c') ↔ EachClosed owner P r := by
  apply forall_congr'
  intro i
  unfold Closed
  rw [mem_owners_passed h hc hcc']
  exact Iff.rfl

/-! ## Counting -/

section Counting

/-- The number of requests with nothing on record. -/
def unrecorded (r : Requests κ α) : Nat :=
  ((List.range r.made).filter fun i => (r.history i).isEmpty).length

omit [DecidableEq κ] in
theorem unrecorded_refused (h : WellNumbered owner r) :
    (r.refused acts).unrecorded = r.unrecorded + if acts.isEmpty then 1 else 0 := by
  have hsame : ((List.range r.made).filter fun i => ((r.refused acts).history i).isEmpty) =
      (List.range r.made).filter fun i => (r.history i).isEmpty := by
    apply List.filter_congr
    intro i hi
    have hne : r.made ≠ i := (List.mem_range.1 hi).ne'
    exact congrArg List.isEmpty (history_notes_of_ne hne)
  have hself : (r.refused acts).history r.made = acts := by
    simp [refused, h.fresh r.made le_rfl]
  show ((List.range (r.made + 1)).filter _).length = _
  rw [List.range_succ, List.filter_append, hsame, List.length_append]
  congr 1
  cases hacts : acts.isEmpty <;> simp [hself, hacts]

omit [DecidableEq κ] in
theorem unrecorded_opened (h : WellNumbered owner r) :
    (r.opened c).unrecorded = r.unrecorded + 1 := by
  have hcount : (r.refused []).unrecorded = r.unrecorded + 1 := unrecorded_refused h
  have hsame : ∀ i, (r.refused []).history i = (r.opened c).history i := by
    intro i
    simp [refused, history_notes, opened]
  unfold unrecorded at hcount ⊢
  simp only [hsame] at hcount
  exact hcount

theorem unrecorded_closed (h : WellNumbered owner r) (hc : c ∈ r.calls) (hi : owner c = i)
    (hacts : acts ≠ []) : (r.closed c i acts).unrecorded + 1 = r.unrecorded := by
  subst hi
  have hmem : owner c ∈ r.calls.map owner := List.mem_map_of_mem hc
  have hfilter : ((List.range r.made).filter fun j =>
      ((r.closed c (owner c) acts).history j).isEmpty) =
      ((List.range r.made).filter fun j => (r.history j).isEmpty).erase (owner c) := by
    rw [(List.nodup_range.filter _).erase_eq_filter, List.filter_filter]
    apply List.filter_congr
    intro j _
    by_cases hj : j = owner c
    · subst hj
      simp [closed, hacts]
    · have hsame : (r.closed c (owner c) acts).history j = r.history j :=
        history_notes_of_ne (Ne.symm hj)
      simp [hsame, hj]
  have hin : owner c ∈ (List.range r.made).filter fun j => (r.history j).isEmpty := by
    rw [List.mem_filter, List.mem_range, h.calls _ hmem]
    exact ⟨h.made _ hmem, rfl⟩
  show ((List.range r.made).filter _).length + 1 = _
  rw [hfilter]
  exact List.length_erase_add_one hin

omit [DecidableEq κ] in
/-- When no call is in flight and every closed request has a record, nothing is left to count. -/
theorem unrecorded_eq_zero {P : List α → Prop} (hP : ¬ P []) (h : EachClosed owner P r)
    (hcalls : r.calls = []) : r.unrecorded = 0 := by
  rw [unrecorded, List.length_eq_zero_iff, List.filter_eq_nil_iff]
  intro i hi hnil
  have hclosed : r.Closed owner i := by
    refine ⟨List.mem_range.1 hi, ?_⟩
    rw [hcalls]
    exact List.not_mem_nil
  have hrecord := h i hclosed
  rw [List.isEmpty_iff.1 hnil] at hrecord
  exact hP hrecord

end Counting

end Requests

end InFlight
