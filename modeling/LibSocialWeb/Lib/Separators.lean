import Mathlib.Data.List.TakeWhile

/-!
# Texts with a separator

A text is cut at its first separator, or at its last one. What `takeWhile` and `dropWhile` leave of
it is said here by the two parts of the text.
-/

namespace Separators

variable {α : Type*} [DecidableEq α] {sep : α} {s t : List α}

theorem passes_of_notMem (h : sep ∉ s) : ∀ c ∈ s, decide (c ≠ sep) = true :=
  fun _ hc => decide_eq_true fun heq => h (heq ▸ hc)

theorem takeWhile_eq_self_iff : s.takeWhile (· ≠ sep) = s ↔ sep ∉ s := by
  rw [List.takeWhile_eq_self_iff]
  exact ⟨fun h hmem => of_decide_eq_true (h sep hmem) rfl, passes_of_notMem⟩

theorem dropWhile_eq_nil_iff : s.dropWhile (· ≠ sep) = [] ↔ sep ∉ s := by
  rw [List.dropWhile_eq_nil_iff]
  exact ⟨fun h hmem => of_decide_eq_true (h sep hmem) rfl, passes_of_notMem⟩

/-- What comes before the first separator. -/
theorem takeWhile_append (h : sep ∉ s) : (s ++ sep :: t).takeWhile (· ≠ sep) = s := by
  rw [List.takeWhile_append_of_pos (passes_of_notMem h), List.takeWhile_cons_of_neg (by simp),
    List.append_nil]

/-- The first separator, and what follows it. -/
theorem dropWhile_append (h : sep ∉ s) : (s ++ sep :: t).dropWhile (· ≠ sep) = sep :: t := by
  rw [List.dropWhile_append_of_pos (passes_of_notMem h), List.dropWhile_cons_of_neg (by simp)]

/-- From the back: the last separator, and what comes before it. -/
theorem dropWhile_reverse_append (h : sep ∉ t) :
    (s ++ sep :: t).reverse.dropWhile (· ≠ sep) = sep :: s.reverse := by
  have hreverse : (s ++ sep :: t).reverse = t.reverse ++ sep :: s.reverse := by
    rw [List.reverse_append, List.reverse_cons, List.append_assoc, List.singleton_append]
  rw [hreverse, dropWhile_append (mt List.mem_reverse.1 h)]

end Separators
