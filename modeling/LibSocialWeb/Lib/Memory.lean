import Mathlib.Data.List.Basic

/-!
# A block of memory

A block is the list of its cells. A read or a write of a range succeeds only if the whole range
lies inside the block; `none` stands for an access out of bounds. Ranges may overlap in `move`, as
they may in `memmove`: all cells are read before any is written.
-/

namespace Memory

variable {α : Type*} {mem mem' cells : List α} {i j n dest src : ℕ}

/-- `n` cells from `i` on. -/
def load (mem : List α) (i n : ℕ) : Option (List α) :=
  if i + n ≤ mem.length then some ((mem.drop i).take n) else none

/-- Writes cells from `i` on. -/
def store (mem : List α) (i : ℕ) (cells : List α) : Option (List α) :=
  if i + cells.length ≤ mem.length then
    some (mem.take i ++ cells ++ mem.drop (i + cells.length))
  else none

/-- `memmove` -/
def move (mem : List α) (dest src n : ℕ) : Option (List α) :=
  (load mem src n).bind (store mem dest)

/-! ## Writes -/

theorem store_of_le (h : i + cells.length ≤ mem.length) :
    store mem i cells = some (mem.take i ++ cells ++ mem.drop (i + cells.length)) := if_pos h

theorem store_of_lt (h : mem.length < i + cells.length) : store mem i cells = none :=
  if_neg (Nat.not_le.2 h)

theorem le_of_store (h : store mem i cells = some mem') : i + cells.length ≤ mem.length := by
  by_contra hlt
  rw [store_of_lt (Nat.not_le.1 hlt)] at h
  cases h

theorem store_length (h : store mem i cells = some mem') : mem'.length = mem.length := by
  have hle := le_of_store h
  rw [store_of_le hle] at h
  cases h
  rw [List.length_append, List.length_append, List.length_take, List.length_drop]
  omega

/-- A write changes nothing before its range. -/
theorem getElem?_store_of_lt (h : store mem i cells = some mem') (hj : j < i) :
    mem'[j]? = mem[j]? := by
  have hle := le_of_store h
  rw [store_of_le hle] at h
  cases h
  rw [List.append_assoc, List.getElem?_append_left (by rw [List.length_take]; omega),
    List.getElem?_take_of_lt hj]

theorem getElem?_store_self {a : α} {rest : List α} (h : store mem i (a :: rest) = some mem') :
    mem'[i]? = some a := by
  have hle := le_of_store h
  have hlength : (mem.take i).length = i := by
    rw [List.length_take]
    rw [List.length_cons] at hle
    omega
  rw [store_of_le hle] at h
  cases h
  rw [List.append_assoc, List.getElem?_append_right (Nat.le_of_eq hlength), hlength, Nat.sub_self,
    List.cons_append, List.getElem?_cons_zero]

/-- As many cells are written over as there are new ones. -/
theorem store_append {before old new after : List α} (h : old.length = new.length) :
    store (before ++ old ++ after) before.length new = some (before ++ new ++ after) := by
  rw [store_of_le (by rw [List.length_append, List.length_append]; omega), ← h,
    ← List.length_append, List.drop_left, List.append_assoc before old, List.take_left]

/-! ## Moves -/

theorem move_of_le (hsrc : src + n ≤ mem.length) :
    move mem dest src n = store mem dest ((mem.drop src).take n) := by
  rw [move, load, if_pos hsrc, Option.bind_some]

theorem le_of_move (h : move mem dest src n = some mem') : src + n ≤ mem.length := by
  by_contra hlt
  rw [move, load, if_neg hlt] at h
  cases h

theorem move_length (h : move mem dest src n = some mem') : mem'.length = mem.length := by
  rw [move_of_le (le_of_move h)] at h
  exact store_length h

/-- A move changes nothing before its destination. -/
theorem getElem?_move_of_lt (h : move mem dest src n = some mem') (hj : j < dest) :
    mem'[j]? = mem[j]? := by
  rw [move_of_le (le_of_move h)] at h
  exact getElem?_store_of_lt h hj

/-- All that lies behind a gap is moved over it. What it leaves behind stays. -/
theorem move_append (before gap after : List α) :
    move (before ++ gap ++ after) before.length (before.length + gap.length) after.length =
      some (before ++ after ++ (gap ++ after).drop after.length) := by
  have hlength : (before ++ gap ++ after).length =
      before.length + gap.length + after.length := by
    rw [List.length_append, List.length_append]
  have hdrop : (before ++ gap ++ after).drop (before.length + gap.length) = after := by
    rw [← List.length_append, List.drop_left]
  rw [move_of_le (by omega), hdrop, List.take_length, store_of_le (by omega),
    List.append_assoc before gap, List.take_left, List.drop_append,
    List.drop_of_length_le (Nat.le_add_right _ _), List.nil_append, Nat.add_sub_cancel_left]

end Memory
