import Mathlib.Data.List.Basic
import Mathlib.Logic.Relation

/-!
# Ways to cut a text

A list of strings that is written without separators can be read again in other ways. `Recut` says
that one list comes from another by moving letters over the boundaries between neighbouring strings
and by adding and dropping empty strings.

**Main result.** `recut_iff_flatten_eq`: two lists of strings have the same text exactly when one
comes from the other in this way.
-/

namespace Cuts

variable {α : Type*}

/-- One boundary is moved by one letter, or an empty string is dropped. -/
inductive Shift : List (List α) → List (List α) → Prop
  | letter (before : List (List α)) (s : List α) (c : α) (t : List α) (after : List (List α)) :
      Shift (before ++ (s ++ [c]) :: t :: after) (before ++ s :: (c :: t) :: after)
  | empty (before after : List (List α)) : Shift (before ++ [] :: after) (before ++ after)

/-- The one list is the other, cut in another way. -/
def Recut : List (List α) → List (List α) → Prop := Relation.EqvGen Shift

theorem Shift.flatten_eq {l m : List (List α)} (h : Shift l m) : l.flatten = m.flatten := by
  cases h with
  | letter before s c t after => simp
  | empty before after => simp

theorem Shift.cons {l m : List (List α)} (h : Shift l m) (s : List α) :
    Shift (s :: l) (s :: m) := by
  cases h with
  | letter before t c u after => exact Shift.letter (s :: before) t c u after
  | empty before after => exact Shift.empty (s :: before) after

namespace Recut

variable {l m : List (List α)}

theorem cons (h : Recut l m) (s : List α) : Recut (s :: l) (s :: m) := by
  induction h with
  | rel l m h => exact .rel _ _ (h.cons s)
  | refl l => exact .refl _
  | symm l m _ ih => exact .symm _ _ ih
  | trans l m k _ _ ih ih' => exact .trans _ _ _ ih ih'

/-- The letters of the second string are moved to the first one by one. -/
theorem append (s t : List α) : Recut [s, t] [s ++ t] := by
  induction t generalizing s with
  | nil =>
    rw [List.append_nil]
    exact .rel _ _ (Shift.empty [s] [])
  | cons c t ih =>
    have hmove : Recut [s, c :: t] [s ++ [c], t] := .symm _ _ (.rel _ _ (Shift.letter [] s c t []))
    have happend := ih (s ++ [c])
    rw [List.append_assoc, List.singleton_append] at happend
    exact .trans _ _ _ hmove happend

/-- A list of strings can be cut as one string. -/
theorem flatten (l : List (List α)) : Recut l [l.flatten] := by
  induction l with
  | nil => exact .symm _ _ (.rel _ _ (Shift.empty [] []))
  | cons s l ih => exact .trans _ _ _ (ih.cons s) (append s l.flatten)

end Recut

/-- **Cutting a text in another way leaves the text, and gives every list with that text.** -/
theorem recut_iff_flatten_eq {l m : List (List α)} : Recut l m ↔ l.flatten = m.flatten := by
  refine ⟨?_, ?_⟩
  · intro h
    induction h with
    | rel l m h => exact h.flatten_eq
    | refl l => rfl
    | symm l m _ ih => exact ih.symm
    | trans l m k _ _ ih ih' => exact ih.trans ih'
  · intro h
    refine .trans _ _ _ (Recut.flatten l) ?_
    rw [h]
    exact .symm _ _ (Recut.flatten m)

end Cuts
