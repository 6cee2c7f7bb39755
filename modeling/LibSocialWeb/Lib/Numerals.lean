import Mathlib.Data.Nat.Digits.Lemmas

/-!
# Numerals

An alphabet has a letter for each digit of a base. The numeral of a number is the list of the
letters of its digits, the most significant one first. Zero has no digits, so that its numeral is
empty and no numeral begins with the letter for zero.

**Main result.** `isNumeral_iff`: the numeral of a number is the only list of letters that has its
value and does not begin with the letter for zero.
-/

/-- The letters for the digits below a base, and the digits that letters stand for. -/
structure Alphabet (α : Type*) where
  base : ℕ
  one_lt_base : 1 < base
  letter : ℕ → α
  digit : α → ℕ
  digit_letter : ∀ d < base, digit (letter d) = d

namespace Alphabet

variable {α : Type*} (A : Alphabet α)

/-- One of the letters. -/
def IsLetter (a : α) : Prop := ∃ d < A.base, a = A.letter d

/-- The number that letters stand for, the most significant one first. -/
def value (s : List α) : ℕ := Nat.ofDigits A.base (s.map A.digit).reverse

def numeral (n : ℕ) : List α := ((Nat.digits A.base n).map A.letter).reverse

structure IsNumeral (s : List α) (n : ℕ) : Prop where
  letters : ∀ a ∈ s, A.IsLetter a
  head : s.head? ≠ some (A.letter 0)
  value : A.value s = n

variable {A} {s : List α} {n : ℕ}

/-! ## From the last digit -/

/-- The value, read from the front. -/
theorem value_eq_foldl (A : Alphabet α) (s : List α) :
    A.value s = s.foldl (fun n a => n * A.base + A.digit a) 0 := by
  rw [value, Nat.ofDigits_eq_foldr, List.foldr_reverse, List.foldl_map]
  simp only [Nat.cast_id, Nat.add_comm, Nat.mul_comm]

theorem numeral_zero (A : Alphabet α) : A.numeral 0 = [] := by simp [numeral]

/-- The last letter is that of the remainder. -/
theorem numeral_of_pos (A : Alphabet α) (h : 0 < n) :
    A.numeral n = A.numeral (n / A.base) ++ [A.letter (n % A.base)] := by
  rw [numeral, Nat.digits_def' A.one_lt_base h, List.map_cons, List.reverse_cons]
  rfl

/-! ## Letters and digits -/

theorem IsLetter.letter_digit {a : α} (h : A.IsLetter a) : A.letter (A.digit a) = a := by
  obtain ⟨d, hd, rfl⟩ := h
  rw [A.digit_letter d hd]

theorem IsLetter.digit_lt {a : α} (h : A.IsLetter a) : A.digit a < A.base := by
  obtain ⟨d, hd, rfl⟩ := h
  rwa [A.digit_letter d hd]

theorem map_letter_map_digit (h : ∀ a ∈ s, A.IsLetter a) :
    (s.map A.digit).map A.letter = s := by
  rw [List.map_map]
  calc s.map (A.letter ∘ A.digit) = s.map id :=
        List.map_congr_left fun a ha => (h a ha).letter_digit
    _ = s := List.map_id s

theorem map_digit_map_letter {ds : List ℕ} (h : ∀ d ∈ ds, d < A.base) :
    (ds.map A.letter).map A.digit = ds := by
  rw [List.map_map]
  calc ds.map (A.digit ∘ A.letter) = ds.map id :=
        List.map_congr_left fun d hd => A.digit_letter d (h d hd)
    _ = ds := List.map_id ds

/-! ## The main result -/

theorem isNumeral_numeral (A : Alphabet α) (n : ℕ) : A.IsNumeral (A.numeral n) n where
  letters := by
    intro a ha
    obtain ⟨d, hd, rfl⟩ := List.mem_map.1 (List.mem_reverse.1 ha)
    exact ⟨d, Nat.digits_lt_base A.one_lt_base hd, rfl⟩
  head := by
    intro hhead
    rw [numeral, List.head?_reverse, List.getLast?_map, Option.map_eq_some_iff] at hhead
    obtain ⟨d, hlast, hletter⟩ := hhead
    have hmem : d ∈ Nat.digits A.base n := List.mem_of_getLast? hlast
    have hd : d < A.base := Nat.digits_lt_base A.one_lt_base hmem
    have hzero : d = 0 := by
      rw [← A.digit_letter d hd, hletter, A.digit_letter 0 (Nat.zero_lt_of_lt A.one_lt_base)]
    have hn : n ≠ 0 := by
      rintro rfl
      rw [Nat.digits_zero] at hmem
      cases hmem
    refine Nat.getLast_digit_ne_zero A.base hn ?_
    exact (Option.some.inj ((List.getLast?_eq_some_getLast _).symm.trans hlast)).trans hzero
  value := by
    have hlt : ∀ d ∈ Nat.digits A.base n, d < A.base := fun d hd =>
      Nat.digits_lt_base A.one_lt_base hd
    rw [value, numeral, List.map_reverse, List.reverse_reverse, map_digit_map_letter hlt,
      Nat.ofDigits_digits]

/-- **There is one numeral for each number.** -/
theorem isNumeral_iff : A.IsNumeral s n ↔ s = A.numeral n := by
  refine ⟨fun h => ?_, fun h => h ▸ A.isNumeral_numeral n⟩
  have hdigits : Nat.digits A.base n = (s.map A.digit).reverse := by
    rw [← h.value, value]
    refine Nat.digits_ofDigits A.base A.one_lt_base _ ?_ ?_
    · intro d hd
      obtain ⟨a, ha, rfl⟩ := List.mem_map.1 (List.mem_reverse.1 hd)
      exact (h.letters a ha).digit_lt
    · intro hne hlast
      cases s with
      | nil => exact hne rfl
      | cons a s =>
        refine h.head ?_
        have hzero : A.digit a = 0 := by simpa using hlast
        rw [List.head?_cons, ← (h.letters a List.mem_cons_self).letter_digit, hzero]
  rw [numeral, hdigits, List.map_reverse, List.reverse_reverse, map_letter_map_digit h.letters]

/-- A number is read from its numeral. -/
theorem numeral_injective (A : Alphabet α) : Function.Injective A.numeral := by
  intro m n h
  rw [← (A.isNumeral_numeral m).value, h]
  exact (A.isNumeral_numeral n).value

end Alphabet
