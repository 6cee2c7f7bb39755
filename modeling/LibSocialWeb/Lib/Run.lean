import Mathlib.Data.List.Basic

/-!
# Runs of a labelled state machine

A machine is a step function `σ → ε → σ`; a run is a list of labels. A property of a run is one
of two kinds:

* `EveryState P s es`: every state the run passes through satisfies `P`, the first and the last
  included;
* `EveryStep ok s es`: every label is taken in a state that allows it, as judged by `ok` on the
  state before the step.

**Rules.** `everyState_of_everyStep` turns a conditional step lemma into a statement about runs,
`everyState_of_step` an unconditional one. `everyState_iff_everyStep` is the exact form: when the
step lemma is an equivalence, the runs that keep `P` are the runs whose steps are all allowed. If
`P` needs no other invariant, that is `everyState_iff_of_step_iff`.
-/

namespace Transition

variable {σ ε : Type*} (step : σ → ε → σ)

/-- The state after the labels `es`. -/
def runFrom (s : σ) (es : List ε) : σ := es.foldl step s

/-- Every state passed through from `s` satisfies `P`. -/
def EveryState (P : σ → Prop) : σ → List ε → Prop
  | s, [] => P s
  | s, e :: es => P s ∧ EveryState P (step s e) es

/-- Every label of the run is taken in a state where `ok` allows it. -/
def EveryStep (ok : σ → ε → Prop) : σ → List ε → Prop
  | _, [] => True
  | s, e :: es => ok s e ∧ EveryStep ok (step s e) es

/-- Whether a run stays within `ok` can be computed. -/
instance instDecidableEveryStep (ok : σ → ε → Prop) [∀ s e, Decidable (ok s e)] :
    ∀ s es, Decidable (EveryStep step ok s es)
  | _, [] => isTrue trivial
  | s, e :: es =>
    have : Decidable (EveryStep step ok (step s e) es) := instDecidableEveryStep ok (step s e) es
    inferInstanceAs (Decidable (ok s e ∧ EveryStep step ok (step s e) es))

variable {step}

@[simp] theorem runFrom_nil (s : σ) : runFrom step s [] = s := rfl

@[simp] theorem runFrom_cons (s : σ) (e : ε) (es : List ε) :
    runFrom step s (e :: es) = runFrom step (step s e) es := rfl

theorem runFrom_append (s : σ) (es fs : List ε) :
    runFrom step s (es ++ fs) = runFrom step (runFrom step s es) fs := by
  simp [runFrom, List.foldl_append]

theorem EveryState.head {P : σ → Prop} {s : σ} {es : List ε} (h : EveryState step P s es) :
    P s := by
  cases es with
  | nil => exact h
  | cons e es => exact h.1

theorem EveryState.last {P : σ → Prop} {s : σ} {es : List ε} (h : EveryState step P s es) :
    P (runFrom step s es) := by
  induction es generalizing s with
  | nil => exact h
  | cons e es ih => exact ih h.2

theorem EveryState.mono {P Q : σ → Prop} (hPQ : ∀ s, P s → Q s) {s : σ} {es : List ε}
    (h : EveryState step P s es) : EveryState step Q s es := by
  induction es generalizing s with
  | nil => exact hPQ s h
  | cons e es ih => exact ⟨hPQ s h.1, ih h.2⟩

/-- The last part of a run whose steps are all allowed. -/
theorem EveryStep.of_append {ok : σ → ε → Prop} {s : σ} {es fs : List ε}
    (h : EveryStep step ok s (es ++ fs)) : EveryStep step ok (runFrom step s es) fs := by
  induction es generalizing s with
  | nil => exact h
  | cons e es ih => exact ih h.2

/-- The first part of such a run. -/
theorem EveryStep.of_append_left {ok : σ → ε → Prop} {s : σ} {es fs : List ε}
    (h : EveryStep step ok s (es ++ fs)) : EveryStep step ok s es := by
  induction es generalizing s with
  | nil => trivial
  | cons e es ih => exact ⟨h.1, ih h.2⟩

/-- The labels of a run may be promised to be in `A`. -/
theorem EveryStep.and_of_forall {A : ε → Prop} {ok : σ → ε → Prop} {s : σ} {es : List ε}
    (hes : ∀ e ∈ es, A e) (h : EveryStep step ok s es) :
    EveryStep step (fun s e => A e ∧ ok s e) s es := by
  induction es generalizing s with
  | nil => trivial
  | cons e es ih =>
    obtain ⟨he, hes⟩ := List.forall_mem_cons.1 hes
    exact ⟨⟨he, h.1⟩, ih hes h.2⟩

/-! ## Invariant rules -/

/-- A step lemma under `ok` holds along every run whose steps are all allowed. -/
theorem everyState_of_everyStep {P : σ → Prop} {ok : σ → ε → Prop}
    (hstep : ∀ s e, P s → ok s e → P (step s e)) {s : σ} {es : List ε} (hs : P s)
    (hok : EveryStep step ok s es) : EveryState step P s es := by
  induction es generalizing s with
  | nil => exact hs
  | cons e es ih => exact ⟨hs, ih (hstep s e hs hok.1) hok.2⟩

/-- An unconditional step lemma holds along every run. -/
theorem everyState_of_step {P : σ → Prop} (hstep : ∀ s e, P s → P (step s e)) {s : σ}
    (hs : P s) (es : List ε) : EveryState step P s es := by
  induction es generalizing s with
  | nil => exact hs
  | cons e es ih => exact ⟨hs, ih (hstep s e hs)⟩

/-- A condition on the steps that keeps `I` may be weakened under `I`. -/
theorem everyStep_weaken {I : σ → Prop} {ok ok' : σ → ε → Prop}
    (hkeep : ∀ s e, I s → ok s e → I (step s e)) (hweak : ∀ s e, I s → ok s e → ok' s e) {s : σ}
    {es : List ε} (hs : I s) (h : EveryStep step ok s es) : EveryStep step ok' s es := by
  induction es generalizing s with
  | nil => trivial
  | cons e es ih => exact ⟨hweak s e hs h.1, ih (hkeep s e hs h.1) h.2⟩

/-- Two conditions on the steps that agree under `I`, which the second keeps, allow the same
runs. -/
theorem everyStep_iff {I : σ → Prop} {ok ok' : σ → ε → Prop}
    (hiff : ∀ s e, I s → (ok s e ↔ ok' s e)) (hkeep : ∀ s e, I s → ok' s e → I (step s e)) {s : σ}
    {es : List ε} (hs : I s) : EveryStep step ok s es ↔ EveryStep step ok' s es := by
  induction es generalizing s with
  | nil => exact Iff.rfl
  | cons e es ih =>
    refine ⟨fun h => ?_, fun h => ?_⟩
    · have hok : ok' s e := (hiff s e hs).1 h.1
      exact ⟨hok, (ih (hkeep s e hs hok)).1 h.2⟩
    · exact ⟨(hiff s e hs).2 h.1, (ih (hkeep s e hs h.1)).2 h.2⟩

/-- **Exactness.** If, under the invariant `I`, a step keeps `P` exactly when `ok` allows it, and
an allowed step keeps `I`, then the runs along which `P` holds throughout are exactly the runs
whose steps are all allowed. All labels are in `A`. -/
theorem everyState_iff_everyStep_of_forall {I P : σ → Prop} {A : ε → Prop} {ok : σ → ε → Prop}
    (hIP : ∀ s, I s → P s) (hkeep : ∀ s e, I s → A e → ok s e → I (step s e))
    (hok : ∀ s e, I s → A e → P (step s e) → ok s e) {s : σ} {es : List ε} (hs : I s)
    (hes : ∀ e ∈ es, A e) : EveryState step P s es ↔ EveryStep step ok s es := by
  induction es generalizing s with
  | nil => exact iff_of_true (hIP s hs) trivial
  | cons e es ih =>
    obtain ⟨he, hes⟩ := List.forall_mem_cons.1 hes
    constructor
    · intro h
      have hstep : ok s e := hok s e hs he h.2.head
      exact ⟨hstep, (ih (hkeep s e hs he hstep) hes).1 h.2⟩
    · intro h
      exact ⟨hIP s hs, (ih (hkeep s e hs he h.1) hes).2 h.2⟩

/-- The exact form for all labels. -/
theorem everyState_iff_everyStep {I P : σ → Prop} {ok : σ → ε → Prop} (hIP : ∀ s, I s → P s)
    (hkeep : ∀ s e, I s → ok s e → I (step s e))
    (hok : ∀ s e, I s → P (step s e) → ok s e) {s : σ} {es : List ε} (hs : I s) :
    EveryState step P s es ↔ EveryStep step ok s es :=
  everyState_iff_everyStep_of_forall (A := fun _ => True) hIP (fun s e hs _ => hkeep s e hs)
    (fun s e hs _ => hok s e hs) hs fun _ _ => trivial

/-- The exact form for a property that is its own invariant. -/
theorem everyState_iff_of_step_iff {P : σ → Prop} {ok : σ → ε → Prop}
    (hstep : ∀ s e, P s → (P (step s e) ↔ ok s e)) {s : σ} {es : List ε} (hs : P s) :
    EveryState step P s es ↔ EveryStep step ok s es :=
  everyState_iff_everyStep (fun _ h => h) (fun s e h => (hstep s e h).2)
    (fun s e h => (hstep s e h).1) hs

/-- **Never regained.** A property that a step keeps exactly under `ok`, and never brings back,
holds after a run exactly when it held before and all events are allowed. -/
theorem runFrom_iff_of_step_iff {P : σ → Prop} {ok : ε → Prop}
    (hstep : ∀ s e, P (step s e) ↔ P s ∧ ok e) (s : σ) (es : List ε) :
    P (runFrom step s es) ↔ P s ∧ ∀ e ∈ es, ok e := by
  induction es generalizing s with
  | nil => exact (and_iff_left (List.forall_mem_nil _)).symm
  | cons e es ih => rw [runFrom_cons, ih, hstep, List.forall_mem_cons, and_assoc]

/-! ## Two machines in lockstep -/

/-- **Simulation.** If related steps keep related states related, then related runs do. -/
theorem related_runFrom {τ φ : Type*} {step' : τ → φ → τ} {R : σ → τ → Prop} {C : ε → φ → Prop}
    (hstep : ∀ s t e f, R s t → C e f → R (step s e) (step' t f)) {s : σ} {t : τ} {es : List ε}
    {fs : List φ} (hs : R s t) (h : List.Forall₂ C es fs) :
    R (runFrom step s es) (runFrom step' t fs) := by
  induction h generalizing s t with
  | nil => exact hs
  | cons he _ ih => exact ih (hstep _ _ _ _ hs he)

end Transition
