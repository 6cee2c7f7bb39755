import Mathlib.Data.List.Basic
import Mathlib.Data.Nat.Notation

/-!
# Batches

A list is cut into batches in one pass: elements gather until there are `max` of them or the list
ends. A batch of texts is sent as one text, with a separator between its elements.

**Main results.**
- `flatten_cut`: the batches, one after the other, are the list.
- `length_of_mem_cut`: a batch has between one and `max` elements.
-/

namespace Batches

variable {α : Type*} {max : ℕ}

/-- The batches of a list, where `gathered` waits for the first of them to be full. -/
def cut (max : ℕ) : List α → List α → List (List α)
  | _, [] => []
  | gathered, x :: rest =>
    if (gathered ++ [x]).length = max ∨ rest = [] then (gathered ++ [x]) :: cut max [] rest
    else cut max (gathered ++ [x]) rest

/-- The text of a batch of texts. -/
def join (sep : α) (batch : List (List α)) : List α := [sep].intercalate batch

theorem cut_nil (gathered : List α) : cut max gathered [] = [] := rfl

theorem flatten_cut_cons (gathered : List α) (x : α) (rest : List α) :
    (cut max gathered (x :: rest)).flatten = gathered ++ x :: rest := by
  induction rest generalizing gathered x with
  | nil => rw [cut, if_pos (Or.inr rfl), cut_nil, List.flatten_singleton]
  | cons y rest ih =>
    by_cases hfull : (gathered ++ [x]).length = max ∨ y :: rest = []
    · rw [cut, if_pos hfull, List.flatten_cons, ih [] y]
      simp
    · rw [cut, if_neg hfull, ih (gathered ++ [x]) y]
      simp

/-- **Nothing is lost, repeated or moved.** -/
theorem flatten_cut (max : ℕ) (l : List α) : (cut max [] l).flatten = l := by
  cases l with
  | nil => rfl
  | cons x rest => exact flatten_cut_cons [] x rest

/-- **The size of a batch.** -/
theorem length_of_mem_cut {gathered l : List α} (hroom : gathered.length < max) {batch : List α}
    (h : batch ∈ cut max gathered l) : 1 ≤ batch.length ∧ batch.length ≤ max := by
  induction l generalizing gathered with
  | nil => exact absurd h List.not_mem_nil
  | cons x rest ih =>
    have hlength : (gathered ++ [x]).length = gathered.length + 1 := List.length_append
    by_cases hfull : (gathered ++ [x]).length = max ∨ rest = []
    · rw [cut, if_pos hfull] at h
      rcases List.mem_cons.1 h with rfl | h
      · omega
      · exact ih (by rw [List.length_nil]; omega) h
    · rw [cut, if_neg hfull] at h
      exact ih (by omega) h

/-! ## Texts -/

theorem join_concat {sep : α} {batch : List (List α)} (hne : batch ≠ []) (x : List α) :
    join sep (batch ++ [x]) = join sep batch ++ sep :: x := by
  induction batch with
  | nil => exact absurd rfl hne
  | cons y batch ih =>
    cases batch with
    | nil => simp [join]
    | cons z batch =>
      have h := ih (List.cons_ne_nil z batch)
      simp only [join, List.cons_append, List.intercalate_cons_cons] at h ⊢
      rw [h]
      simp

end Batches
