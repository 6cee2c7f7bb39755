import Mathlib.Order.WellFounded

/-!
# While loops

A loop is a body `σ → Option σ`: from a state in which its condition holds, the body gives the
state after the turn, and from any other state the loop is left. The loop runs with a bound on its
turns, and whether it ends is a statement of its own.

* `Passes body s t`: from `s`, the loop comes to `t`;
* `Ends body s`: the loop that begins in `s` is left.

**Rules.** `ends_iff_passes` describes the state in which the loop is left. A loop ends if a measure
falls with each turn (`ends_of_measure`), and it does not if an invariant keeps it going
(`not_ends_of_forever`).
-/

namespace Loop

variable {σ : Type*} {body : σ → Option σ} {s t u : σ}

/-- The loop, with at most `fuel` tests of its condition. -/
def run (body : σ → Option σ) : Nat → σ → Option σ
  | 0, _ => none
  | fuel + 1, s =>
    match body s with
    | none => some s
    | some t => run body fuel t

/-- The loop that begins in `s` comes to test its condition in `t`. -/
inductive Passes (body : σ → Option σ) : σ → σ → Prop
  | refl (s : σ) : Passes body s s
  | turn {s t u : σ} : body s = some t → Passes body t u → Passes body s u

/-- The loop that begins in `s` is left in `t`. -/
def EndsIn (body : σ → Option σ) (s t : σ) : Prop := ∃ fuel, run body fuel s = some t

/-- The loop that begins in `s` is left. -/
def Ends (body : σ → Option σ) (s : σ) : Prop := ∃ t, EndsIn body s t

/-! ## Turns -/

theorem Passes.trans (h : Passes body s t) (h' : Passes body t u) : Passes body s u := by
  induction h with
  | refl => exact h'
  | turn hturn _ ih => exact .turn hturn (ih h')

theorem Passes.last (h : Passes body s t) (hturn : body t = some u) : Passes body s u :=
  h.trans (.turn hturn (.refl u))

/-- What every turn keeps holds wherever the loop comes to. -/
theorem Passes.invariant {I : σ → Prop} (hkeep : ∀ s t, I s → body s = some t → I t)
    (h : Passes body s t) (hs : I s) : I t := by
  induction h with
  | refl => exact hs
  | turn hturn _ ih => exact ih (hkeep _ _ hs hturn)

/-- From the state in which the loop is left it goes no further. -/
theorem Passes.eq_of_none (h : Passes body s t) (hs : body s = none) : t = s := by
  cases h with
  | refl => rfl
  | turn hturn _ =>
    rw [hs] at hturn
    cases hturn

/-! ## The end -/

/-- More fuel changes nothing. -/
theorem run_of_le {fuel fuel' : Nat} (h : run body fuel s = some t) (hle : fuel ≤ fuel') :
    run body fuel' s = some t := by
  induction fuel generalizing s fuel' with
  | zero => cases h
  | succ fuel ih =>
    obtain ⟨fuel', rfl⟩ : ∃ n, fuel' = n + 1 := ⟨fuel' - 1, by omega⟩
    rw [run] at h ⊢
    cases hbody : body s with
    | none =>
      rw [hbody] at h
      exact h
    | some s' =>
      rw [hbody] at h
      exact ih h (by omega)

theorem endsIn_of_none (h : body s = none) : EndsIn body s s := ⟨1, by rw [run, h]⟩

theorem endsIn_turn (h : body s = some t) : EndsIn body s u ↔ EndsIn body t u := by
  refine ⟨?_, ?_⟩
  · rintro ⟨fuel, hrun⟩
    cases fuel with
    | zero => cases hrun
    | succ fuel =>
      rw [run, h] at hrun
      exact ⟨fuel, hrun⟩
  · rintro ⟨fuel, hrun⟩
    exact ⟨fuel + 1, by rw [run, h]; exact hrun⟩

theorem ends_turn (h : body s = some t) : Ends body s ↔ Ends body t :=
  exists_congr fun _ => endsIn_turn h

/-- **The loop is left in the state that it comes to and that has no turn.** -/
theorem endsIn_iff_passes : EndsIn body s t ↔ Passes body s t ∧ body t = none := by
  refine ⟨?_, ?_⟩
  · rintro ⟨fuel, hrun⟩
    induction fuel generalizing s with
    | zero => cases hrun
    | succ fuel ih =>
      rw [run] at hrun
      cases hbody : body s with
      | none =>
        rw [hbody] at hrun
        cases hrun
        exact ⟨.refl _, hbody⟩
      | some s' =>
        rw [hbody] at hrun
        obtain ⟨hpasses, hnone⟩ := ih hrun
        exact ⟨.turn hbody hpasses, hnone⟩
  · rintro ⟨hpasses, hnone⟩
    induction hpasses with
    | refl => exact endsIn_of_none hnone
    | turn hturn _ ih => exact (endsIn_turn hturn).2 (ih hnone)

theorem ends_iff_passes : Ends body s ↔ ∃ t, Passes body s t ∧ body t = none :=
  exists_congr fun _ => endsIn_iff_passes

theorem Passes.endsIn_iff (h : Passes body s t) : EndsIn body s u ↔ EndsIn body t u := by
  induction h with
  | refl => rfl
  | turn hturn _ ih => exact (endsIn_turn hturn).trans ih

theorem Passes.ends_iff (h : Passes body s t) : Ends body s ↔ Ends body t :=
  exists_congr fun _ => h.endsIn_iff

/-- A loop is left in one state only. -/
theorem EndsIn.unique (h : EndsIn body s t) (h' : EndsIn body s u) : t = u := by
  rw [endsIn_iff_passes] at h h'
  obtain ⟨hpasses, hnone⟩ := h
  obtain ⟨hpasses', hnone'⟩ := h'
  induction hpasses with
  | refl => exact (hpasses'.eq_of_none hnone).symm
  | turn hturn _ ih =>
    refine ih hnone ?_
    cases hpasses' with
    | refl =>
      rw [hnone'] at hturn
      cases hturn
    | turn hturn' hpasses' =>
      rw [hturn] at hturn'
      cases hturn'
      exact hpasses'

/-- **Termination.** A loop ends if, under an invariant, each turn makes a measure fall. -/
theorem ends_of_measure {μ : Type*} [Preorder μ] [WellFoundedLT μ] {I : σ → Prop}
    (measure : σ → μ)
    (hkeep : ∀ s t, I s → body s = some t → I t ∧ measure t < measure s) (hs : I s) :
    Ends body s := by
  induction hm : measure s using WellFoundedLT.induction generalizing s with
  | _ m ih =>
    cases hbody : body s with
    | none => exact ⟨s, endsIn_of_none hbody⟩
    | some t =>
      obtain ⟨ht, hlt⟩ := hkeep s t hs hbody
      rw [ends_turn hbody]
      exact ih (measure t) (hm ▸ hlt) ht rfl

/-- A number that falls with each turn bounds the turns. -/
theorem exists_run_of_measure {I : σ → Prop} (measure : σ → Nat)
    (hkeep : ∀ s t, I s → body s = some t → I t ∧ measure t < measure s) {n : Nat} (hs : I s)
    (hn : measure s < n) : ∃ t, run body n s = some t := by
  induction n generalizing s with
  | zero => exact absurd hn (Nat.not_lt_zero _)
  | succ n ih =>
    rw [run]
    cases hbody : body s with
    | none => exact ⟨s, rfl⟩
    | some t =>
      obtain ⟨ht, hlt⟩ := hkeep s t hs hbody
      exact ih ht (by omega)

/-- **Divergence.** A loop does not end if an invariant has a turn wherever it holds. -/
theorem not_ends_of_forever {I : σ → Prop} (hturn : ∀ s, I s → ∃ t, body s = some t ∧ I t)
    (hs : I s) : ¬ Ends body s := by
  rw [ends_iff_passes]
  rintro ⟨t, hpasses, hnone⟩
  have ht : I t := by
    refine hpasses.invariant ?_ hs
    intro s t hs hbody
    obtain ⟨t', hbody', ht'⟩ := hturn s hs
    rw [hbody] at hbody'
    cases hbody'
    exact ht'
  obtain ⟨u, hbody, -⟩ := hturn t ht
  rw [hnone] at hbody
  cases hbody

end Loop
