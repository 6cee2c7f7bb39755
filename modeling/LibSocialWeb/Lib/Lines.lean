import Mathlib.Data.List.Basic

/-!
# Texts as lines

A list of texts is written one after the other, each followed by a separator (`terminate`), and read
again line by line (`read`). A text that contains the separator is read as several lines, so it does
not come back.

**Main result.** `mem_read_terminate_iff`: the lines are the texts that were written exactly when no
text contains the separator.
-/

namespace Lines

variable {α : Type*} [DecidableEq α] (sep : α)

omit [DecidableEq α] in
/-- Each text followed by the separator. -/
def terminate (texts : List (List α)) : List α := texts.flatMap fun text => text ++ [sep]

/-- The lines of a text, where `piece` has been read of the first one. What follows the last
separator is a line if it is not empty. -/
def read : List α → List α → List (List α)
  | piece, [] => if piece = [] then [] else [piece]
  | piece, c :: cs => if c = sep then piece :: read [] cs else read (piece ++ [c]) cs

omit [DecidableEq α] in
theorem modifyHead_nil_append (lines : List (List α)) : lines.modifyHead ([] ++ ·) = lines :=
  congrFun List.modifyHead_id lines

/-- A text before a separator is read as its pieces. -/
theorem read_append (piece text rest : List α) :
    read sep piece (text ++ sep :: rest) =
      (text.splitOn sep).modifyHead (piece ++ ·) ++ read sep [] rest := by
  induction text generalizing piece with
  | nil =>
    rw [List.nil_append, read, if_pos rfl, List.splitOn_nil]
    simp
  | cons c cs ih =>
    rw [List.cons_append, read, List.splitOn_cons_eq_if_modifyHead]
    by_cases hc : c = sep
    · rw [if_pos hc, if_pos (beq_iff_eq.2 hc), ih [], modifyHead_nil_append]
      simp
    · rw [if_neg hc, if_neg (by simpa using hc), ih (piece ++ [c]), List.modifyHead_modifyHead]
      simp [Function.comp_def]

theorem read_terminate (texts : List (List α)) :
    read sep [] (terminate sep texts) = texts.flatMap fun text => text.splitOn sep := by
  induction texts with
  | nil => rfl
  | cons text texts ih =>
    have hcons : terminate sep (text :: texts) = text ++ sep :: terminate sep texts := by
      simp [terminate]
    rw [hcons, read_append, ih, modifyHead_nil_append, List.flatMap_cons]

/-- No piece contains the separator. -/
theorem notMem_of_mem_splitOn {text piece : List α} (h : piece ∈ text.splitOn sep) :
    sep ∉ piece := by
  induction text generalizing piece with
  | nil =>
    rw [List.splitOn_nil, List.mem_singleton] at h
    exact h ▸ List.not_mem_nil
  | cons c cs ih =>
    rw [List.splitOn_cons_eq_if_modifyHead] at h
    split_ifs at h with hc
    · rcases List.mem_cons.1 h with rfl | h
      · exact List.not_mem_nil
      · exact ih h
    · cases hsplit : cs.splitOn sep with
      | nil => exact absurd hsplit (List.splitOn_ne_nil sep cs)
      | cons first pieces =>
        rw [hsplit, List.modifyHead_cons, List.mem_cons] at h
        have hfirst : sep ∉ first := ih (hsplit ▸ List.mem_cons_self)
        rcases h with rfl | h
        · rw [List.mem_cons, not_or]
          exact ⟨fun heq => hc (beq_iff_eq.2 heq.symm), hfirst⟩
        · exact ih (hsplit ▸ List.mem_cons_of_mem first h)

/-- **The texts come back exactly when none contains the separator.** -/
theorem mem_read_terminate_iff (texts : List (List α)) :
    (∀ text, text ∈ read sep [] (terminate sep texts) ↔ text ∈ texts) ↔
      ∀ text ∈ texts, sep ∉ text := by
  rw [read_terminate]
  refine ⟨?_, ?_⟩
  · intro h text hmem
    obtain ⟨source, -, hpiece⟩ := List.mem_flatMap.1 ((h text).2 hmem)
    exact notMem_of_mem_splitOn sep hpiece
  · intro h text
    rw [List.mem_flatMap]
    refine ⟨?_, fun hmem => ⟨text, hmem, by simp [List.splitOn_eq_singleton (h text hmem)]⟩⟩
    rintro ⟨source, hsource, hpiece⟩
    rw [List.splitOn_eq_singleton (h source hsource), List.mem_singleton] at hpiece
    exact hpiece ▸ hsource

end Lines
