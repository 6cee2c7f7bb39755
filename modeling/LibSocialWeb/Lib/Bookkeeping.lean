import LibSocialWeb.Lib.Ledger
import LibSocialWeb.Lib.Run

/-!
# Machines that keep a ledger

Each step of a labelled machine takes some references and releases some. `booked` is the machine
with the ledger beside its state. What the machine does is not changed by the ledger.

**Rules.** `everyStep_booked_iff` takes a condition on the steps to the machine itself. Where no
step ever takes a reference, a run releases none that it did not take exactly when it releases none
at all: `everyState_balanced_iff`.
-/

namespace Ledger

open Transition

variable {σ ε ρ : Type*}

/-- References are taken, and others are released. -/
def post (takes releases : List ρ) (l : Ledger ρ) : Ledger ρ :=
  { l with taken := takes ++ l.taken, released := releases ++ l.released }

/-- The machine with its ledger. -/
def booked (step : σ → ε → σ) (takes releases : σ → ε → List ρ) (p : σ × Ledger ρ) (e : ε) :
    σ × Ledger ρ :=
  (step p.1 e, p.2.post (takes p.1 e) (releases p.1 e))

/-- No reference was released more often than it was taken. -/
def Balanced [DecidableEq ρ] (l : Ledger ρ) : Prop := ∀ r, l.released.count r ≤ l.taken.count r

variable {step : σ → ε → σ} {takes releases : σ → ε → List ρ}

/-- A condition on the steps of the machine. -/
theorem everyStep_booked_iff (ok : σ → ε → Prop) {s : σ} {l : Ledger ρ} {es : List ε} :
    EveryStep (booked step takes releases) (fun p e => ok p.1 e) (s, l) es ↔
      EveryStep step ok s es := by
  induction es generalizing s l with
  | nil => exact Iff.rfl
  | cons e es ih => exact and_congr_right fun _ => ih

variable [DecidableEq ρ]

/-- With nothing taken, nothing may be released. -/
theorem balanced_of_taken_nil_iff {l : Ledger ρ} (h : l.taken = []) :
    l.Balanced ↔ l.released = [] := by
  unfold Balanced
  refine ⟨fun hbalanced => ?_, fun hnil r => ?_⟩
  · rw [List.eq_nil_iff_forall_not_mem]
    intro r hr
    have hle := hbalanced r
    have hpos := List.count_pos_iff.2 hr
    rw [h, List.count_nil] at hle
    omega
  · rw [hnil, List.count_nil]
    exact Nat.zero_le _

/-- **A machine that never takes a reference must never release one.** -/
theorem everyState_balanced_iff (htakes : ∀ s e, takes s e = []) {s : σ} {es : List ε} :
    EveryState (booked step takes releases) (fun p => p.2.Balanced) (s, empty) es ↔
      EveryStep step (fun s e => releases s e = []) s es := by
  have hmachine : EveryStep (booked step takes releases) (fun p e => releases p.1 e = []) (s, empty)
      es ↔ EveryStep step (fun s e => releases s e = []) s es :=
    everyStep_booked_iff fun s e => releases s e = []
  rw [← hmachine]
  refine everyState_iff_everyStep (I := fun p => p.2.taken = [] ∧ p.2.released = []) ?_ ?_ ?_
    ⟨rfl, rfl⟩
  · exact fun p hp => (balanced_of_taken_nil_iff hp.1).2 hp.2
  · rintro ⟨s, l⟩ e ⟨htaken, hreleased⟩ hnone
    refine ⟨?_, ?_⟩
    · show takes s e ++ l.taken = []
      rw [htakes, htaken, List.append_nil]
    · show releases s e ++ l.released = []
      rw [hnone, hreleased, List.append_nil]
  · rintro ⟨s, l⟩ e ⟨htaken, hreleased⟩ hbalanced
    have htaken' : takes s e ++ l.taken = [] := by rw [htakes, htaken, List.append_nil]
    have hreleased' : releases s e ++ l.released = [] :=
      (balanced_of_taken_nil_iff htaken').1 hbalanced
    exact (List.append_eq_nil_iff.1 hreleased').1

end Ledger
