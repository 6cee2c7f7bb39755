import LibSocialWeb.Lib.Run
import Mathlib.Data.List.Perm.Basic

/-!
# A method on top of a machine

A machine offers a method. A call of it is taken only while a guard allows for it; then it returns,
something that depends on the state is sent, and later, in any order, what was sent is answered and
the answer is signalled. A call that is not taken never returns. Calls and answers come at any time
between the steps of the machine.

**Rules.** `everyState_balanced`: what was taken is what was signalled and what is still out.
`atCalls_iff`: a property of the machine holds at every call of every run exactly when it holds in
every state. `sent_iff`: all that is sent is good, whatever calls are made, exactly when the machine
is good in every state in which it takes calls.
-/

namespace Transition

variable {σ ε κ : Type*}

/-- A machine, the number of its calls, those that were taken with what was sent, those that are
out, and the signals. -/
structure Served (σ κ : Type*) where
  base : σ
  calls : ℕ
  taken : List (ℕ × κ)
  out : List ℕ
  signalled : List (ℕ × Bool)

inductive ServedEvent (ε : Type*) where
  | base (e : ε)
  | call
  | answered (index : ℕ) (success : Bool)

namespace Served

variable (step : σ → ε → σ) (guard : σ → Bool) (sent : σ → κ)

def start (s : σ) : Served σ κ := ⟨s, 0, [], [], []⟩

def onCall (s : Served σ κ) : Served σ κ :=
  if guard s.base then
    { s with
      calls := s.calls + 1
      taken := s.taken ++ [(s.calls, sent s.base)]
      out := s.out ++ [s.calls] }
  else { s with calls := s.calls + 1 }

def next (s : Served σ κ) : ServedEvent ε → Served σ κ
  | .base e => { s with base := step s.base e }
  | .call => s.onCall guard sent
  | .answered index success =>
    match s.out[index]? with
    | none => s
    | some call =>
      { s with out := s.out.eraseIdx index, signalled := s.signalled ++ [(call, success)] }

/-- The steps of the machine. -/
def bases : List (ServedEvent ε) → List ε
  | [] => []
  | .base e :: fs => e :: bases fs
  | .call :: fs | .answered _ _ :: fs => bases fs

variable {step guard sent} {s : Served σ κ}

@[simp] theorem base_onCall : (s.onCall guard sent).base = s.base := by
  unfold onCall
  split_ifs <;> rfl

@[simp] theorem base_answered (index : ℕ) (success : Bool) :
    (s.next step guard sent (.answered index success)).base = s.base := by
  dsimp only [next]
  split <;> rfl

/-! ## Accounts -/

/-- Each call that was taken is one of those before, was taken once, and was signalled once or is
out. -/
structure Balanced (s : Served σ κ) : Prop where
  below : ∀ call ∈ s.taken.map Prod.fst, call < s.calls
  nodup : (s.taken.map Prod.fst).Nodup
  perm : (s.signalled.map Prod.fst ++ s.out).Perm (s.taken.map Prod.fst)

theorem Balanced.onCall (h : Balanced s) : Balanced (s.onCall guard sent) := by
  unfold Served.onCall
  split_ifs
  · have htaken : (s.taken ++ [(s.calls, sent s.base)]).map Prod.fst =
        s.taken.map Prod.fst ++ [s.calls] := List.map_append
    constructor
    · intro call hcall
      rw [htaken, List.mem_append, List.mem_singleton] at hcall
      rcases hcall with hcall | rfl
      · exact Nat.lt_succ_of_lt (h.below call hcall)
      · exact Nat.lt_succ_self _
    · rw [htaken]
      refine List.nodup_append.2 ⟨h.nodup, by simp, fun call hcall new hnew => ?_⟩
      rw [List.mem_singleton.1 hnew]
      exact Nat.ne_of_lt (h.below call hcall)
    · rw [htaken, ← List.append_assoc]
      exact h.perm.append_right [s.calls]
  · exact ⟨fun call hcall => Nat.lt_succ_of_lt (h.below call hcall), h.nodup, h.perm⟩

theorem Balanced.answered (h : Balanced s) (index : ℕ) (success : Bool) :
    Balanced (s.next step guard sent (.answered index success)) := by
  dsimp only [next]
  cases hcall : s.out[index]? with
  | none => exact h
  | some call =>
    refine ⟨h.below, h.nodup, ?_⟩
    obtain ⟨hlt, rfl⟩ := List.getElem?_eq_some_iff.1 hcall
    have hout : (s.out[index] :: s.out.eraseIdx index).Perm s.out :=
      List.getElem_cons_eraseIdx_perm hlt
    show ((s.signalled ++ [(s.out[index], success)]).map Prod.fst ++ s.out.eraseIdx index).Perm _
    rw [List.map_append, List.append_assoc]
    exact (hout.append_left _).trans h.perm

theorem Balanced.next (h : Balanced s) (f : ServedEvent ε) :
    Balanced (s.next step guard sent f) := by
  cases f with
  | base e => exact ⟨h.below, h.nodup, h.perm⟩
  | call => exact h.onCall
  | answered index success => exact h.answered index success

theorem balanced_start (b : σ) : Balanced (start b : Served σ κ) :=
  ⟨List.forall_mem_nil _, List.nodup_nil, List.Perm.refl _⟩

/-- **Every call that is taken is signalled once or is out.** -/
theorem everyState_balanced (b : σ) (fs : List (ServedEvent ε)) :
    EveryState (Served.next step guard sent) Balanced (start b) fs := by
  have hstep : ∀ (s : Served σ κ) (f : ServedEvent ε), Balanced s →
      Balanced (s.next step guard sent f) := fun _ f h => h.next f
  exact everyState_of_step hstep (balanced_start b) fs

/-! ## Calls -/

/-- `P` holds of the machine when the method is called. -/
def AtCalls (P : σ → Prop) (s : Served σ κ) : ServedEvent ε → Prop
  | .call => P s.base
  | _ => True

variable {P : σ → Prop}

theorem everyStep_atCalls {fs : List (ServedEvent ε)} (h : EveryState step P s.base (bases fs)) :
    EveryStep (Served.next step guard sent) (AtCalls P) s fs := by
  induction fs generalizing s with
  | nil => trivial
  | cons f fs ih =>
    cases f with
    | base e => exact ⟨trivial, ih (s := s.next step guard sent (.base e)) h.2⟩
    | call =>
      refine ⟨h.head, ih ?_⟩
      rw [next, base_onCall]
      exact h
    | answered index success =>
      refine ⟨trivial, ih ?_⟩
      rw [base_answered]
      exact h

/-- The run with a call before every step and at the end. -/
def probe : List ε → List (ServedEvent ε)
  | [] => [.call]
  | e :: es => .call :: .base e :: probe es

theorem bases_probe (es : List ε) : bases (probe es) = es := by
  induction es with
  | nil => rfl
  | cons e es ih => rw [probe, bases, bases, ih]

theorem everyState_of_probe {es : List ε}
    (h : EveryStep (Served.next step guard sent) (AtCalls P) s (probe es)) :
    EveryState step P s.base es := by
  induction es generalizing s with
  | nil => exact h.1
  | cons e es ih =>
    refine ⟨h.1, ?_⟩
    have hrest := ih h.2.2
    rwa [show (((s.next step guard sent .call).next step guard sent (.base e)).base) =
      step s.base e from congrArg (step · e) base_onCall] at hrest

/-- **A property holds at every call, whenever calls are made, exactly when it always holds.** -/
theorem atCalls_iff (b : σ) (es : List ε) :
    (∀ fs, bases fs = es → EveryStep (Served.next step guard sent) (AtCalls P) (start b) fs) ↔
      EveryState step P b es := by
  constructor
  · intro h
    exact everyState_of_probe (s := start b) (h (probe es) (bases_probe es))
  · rintro h fs rfl
    exact everyStep_atCalls (s := start b) h

variable {Q : κ → Prop}

/-- A call puts on record what was sent with it, if it is taken. -/
theorem forall_taken_onCall : (∀ t ∈ (s.onCall guard sent).taken, Q t.2) ↔
    (∀ t ∈ s.taken, Q t.2) ∧ (guard s.base = true → Q (sent s.base)) := by
  unfold onCall
  split_ifs with hguard
  · rw [List.forall_mem_append, List.forall_mem_singleton]
    exact and_congr_right fun _ => ⟨fun h _ => h, fun h => h hguard⟩
  · exact ⟨fun h => ⟨h, fun htaken => absurd htaken hguard⟩, fun h => h.1⟩

/-- **All that is sent is good exactly when the machine is good whenever a call is taken.** -/
theorem everyState_sent_iff {fs : List (ServedEvent ε)} (hs : ∀ t ∈ s.taken, Q t.2) :
    EveryState (Served.next step guard sent) (fun s => ∀ t ∈ s.taken, Q t.2) s fs ↔
      EveryStep (Served.next step guard sent)
        (AtCalls fun b => guard b = true → Q (sent b)) s fs := by
  refine everyState_iff_of_step_iff (fun s f hs => ?_) hs
  cases f with
  | base e => exact iff_of_true hs trivial
  | call => exact forall_taken_onCall.trans (and_iff_right hs)
  | answered index success =>
    refine iff_of_true ?_ trivial
    dsimp only [next]
    split <;> exact hs

/-- Whatever calls are made, all that is sent is good, exactly when the machine always is while it
takes calls. -/
theorem sent_iff (b : σ) (es : List ε) :
    (∀ fs, bases fs = es → EveryState (Served.next step guard sent)
        (fun s => ∀ t ∈ s.taken, Q t.2) (start b) fs) ↔
      EveryState step (fun b => guard b = true → Q (sent b)) b es :=
  (forall₂_congr fun _ _ => everyState_sent_iff (List.forall_mem_nil _)).trans (atCalls_iff b es)

end Served

end Transition
