import LibSocialWeb.Lib.Run
import Mathlib.Data.List.Perm.Basic

/-!
# Interleaved components

A machine is made of components that are told apart by an index: `view i s` is what there is of
component `i` in the state `s`. One step moves some of the components and leaves the others alone.

**Rules.** `Interleaves` says that allowed steps move the components one by one along `Moves`. Then
what a move keeps holds of a component in every run (`Interleaves.view_runFrom`), and a component
that cannot move stays as it is whatever the others do (`Interleaves.view_eq_of_stuck`).

**Calls of a component.** The components keep their calls in one list; `perm_filter_of_getElem?`
and `filter_eraseIdx_of_neg` say what becomes of the calls of a component when a call is answered,
`filter_append_of_own` and `filter_append_of_ne` when something of one component is added.
-/

namespace Transition

variable {σ ε ι ν : Type*}

/-- Under `I`, an allowed step moves a component along `Moves` or not at all. -/
structure Interleaves (step : σ → ε → σ) (view : ι → σ → ν) (Moves : ν → ν → Prop)
    (I : σ → Prop) (ok : σ → ε → Prop) : Prop where
  keeps : ∀ s e, I s → ok s e → I (step s e)
  moves : ∀ s e, I s → ok s e → ∀ i, view i (step s e) = view i s ∨
    Moves (view i s) (view i (step s e))

namespace Interleaves

variable {step : σ → ε → σ} {view : ι → σ → ν} {Moves : ν → ν → Prop} {I : σ → Prop}
  {ok : σ → ε → Prop} {s : σ} {e : ε} {es : List ε} {i : ι}

/-- What the moves of a component keep is kept by a step. -/
theorem view_step (h : Interleaves step view Moves I ok) {P : ν → Prop}
    (hmoves : ∀ v v', P v → Moves v v' → P v') (hs : I s) (he : ok s e) (hP : P (view i s)) :
    P (view i (step s e)) := by
  rcases h.moves s e hs he i with hsame | hmove
  · rwa [hsame]
  · exact hmoves _ _ hP hmove

/-- **Components.** What the moves of a component keep holds of it in every run. -/
theorem view_runFrom (h : Interleaves step view Moves I ok) {P : ν → Prop}
    (hmoves : ∀ v v', P v → Moves v v' → P v') (hs : I s) (hes : EveryStep step ok s es)
    (hP : P (view i s)) : P (view i (runFrom step s es)) := by
  induction es generalizing s with
  | nil => exact hP
  | cons e es ih => exact ih (h.keeps s e hs hes.1) hes.2 (h.view_step hmoves hs hes.1 hP)

/-- **Finality.** A component without a move is the same ever after. -/
theorem view_eq_of_stuck (h : Interleaves step view Moves I ok) (hs : I s)
    (hes : EveryStep step ok s es) (hstuck : ∀ v', ¬ Moves (view i s) v') :
    view i (runFrom step s es) = view i s := by
  have hmoves : ∀ v v', v = view i s → Moves v v' → v' = view i s := by
    intro v v' hv hmove
    rw [hv] at hmove
    exact absurd hmove (hstuck v')
  exact h.view_runFrom hmoves hs hes rfl

end Interleaves

/-! ## Calls of a component -/

variable {α : Type*} {p : α → Bool} {l : List α} {n : ℕ} {a : α}

/-- The call that is answered, and the other calls of its component. -/
theorem perm_filter_of_getElem? (hn : l[n]? = some a) (ha : p a = true) :
    (l.filter p).Perm (a :: (l.eraseIdx n).filter p) := by
  obtain ⟨hlt, rfl⟩ := List.getElem?_eq_some_iff.1 hn
  have hperm := (List.getElem_cons_eraseIdx_perm hlt).filter p
  rw [List.filter_cons_of_pos ha] at hperm
  exact hperm.symm

/-- The calls of the other components stay. -/
theorem filter_eraseIdx_of_neg (hn : l[n]? = some a) (ha : p a = false) :
    (l.eraseIdx n).filter p = l.filter p := by
  induction l generalizing n with
  | nil => rfl
  | cons b l ih =>
    cases n with
    | zero =>
      obtain rfl : b = a := Option.some.inj hn
      rw [List.eraseIdx_cons_zero, List.filter_cons_of_neg (by rw [ha]; exact Bool.false_ne_true)]
    | succ n =>
      rw [List.eraseIdx_cons_succ, List.filter_cons, List.filter_cons, ih hn]

/-! ### What a step adds -/

variable {κ : Type*} [DecidableEq κ] {f : α → κ} {m : List α} {k k' : κ}

theorem filter_append_of_own (hm : ∀ a ∈ m, f a = k) :
    (l ++ m).filter (f · = k) = l.filter (f · = k) ++ m := by
  rw [List.filter_append, List.filter_eq_self.2 fun a ha => decide_eq_true (hm a ha)]

theorem filter_append_of_ne (hm : ∀ a ∈ m, f a = k) (hne : k ≠ k') :
    (l ++ m).filter (f · = k') = l.filter (f · = k') := by
  have hnone : m.filter (f · = k') = [] := by
    rw [List.filter_eq_nil_iff]
    intro a ha
    rw [hm a ha, decide_eq_true_iff]
    exact hne
  rw [List.filter_append, hnone, List.append_nil]

end Transition
