import LibSocialWeb.Lib.Separators
import Mathlib.Algebra.Group.Int.Defs
import Mathlib.Algebra.Group.Nat.Defs
import Mathlib.Data.Nat.Notation
import Mathlib.Data.List.TakeWhile
import Mathlib.Tactic.SplitIfs

/-!
# C strings and the integer conversions of `scanf`

A C string is the part of a list of bytes before the first NUL. `scanInteger base` is what the
integer conversions of `scanf` match at the beginning of a string: white space, which is skipped, a
sign, and digits, of which there must be one. With base 16 the digits may follow `0x`. What a
conversion stores is up to its type; here it gives the number itself.
-/

namespace Scan

/-- The string that a pointer to these bytes stands for. -/
def cString (s : List UInt8) : List UInt8 := s.takeWhile (· ≠ 0)

/-- `isspace` -/
def isSpace (b : UInt8) : Bool := b == 32 || (9 ≤ b && b ≤ 13)

/-- The value of a digit. -/
def digit (base : ℕ) (b : UInt8) : Option ℕ :=
  let value :=
    if 48 ≤ b ∧ b ≤ 57 then b.toNat - 48
    else if 97 ≤ b ∧ b ≤ 122 then b.toNat - 87
    else if 65 ≤ b ∧ b ≤ 90 then b.toNat - 55
    else base
  if value < base then some value else none

def isDigit (base : ℕ) (b : UInt8) : Bool := (digit base b).isSome

/-- The number that digits stand for. -/
def number (base : ℕ) (digits : List UInt8) : ℕ :=
  digits.foldl (fun n b => n * base + (digit base b).getD 0) 0

/-- What follows `0x`, if digits do. -/
def dropBasePrefix (base : ℕ) (s : List UInt8) : List UInt8 :=
  if base = 16 then
    match s with
    | 48 :: x :: rest => if (x == 120 || x == 88) && (rest.head?.any (isDigit 16)) then rest else s
    | _ => s
  else s

/-- Digits at the beginning of the string. -/
def scanDigits (base : ℕ) (s : List UInt8) : Option ℕ :=
  let digits := (dropBasePrefix base s).takeWhile (isDigit base)
  if digits = [] then none else some (number base digits)

/-- The integer at the beginning of the string. -/
def scanInteger (base : ℕ) (s : List UInt8) : Option ℤ :=
  match (cString s).dropWhile isSpace with
  | 43 :: rest => (scanDigits base rest).map fun n : ℕ => (n : ℤ)
  | 45 :: rest => (scanDigits base rest).map fun n : ℕ => -(n : ℤ)
  | rest => (scanDigits base rest).map fun n : ℕ => (n : ℤ)

/-! ## C strings -/

theorem cString_of_notMem {s : List UInt8} (h : 0 ∉ s) : cString s = s :=
  Separators.takeWhile_eq_self_iff.2 h

theorem cString_append {s t : List UInt8} (h : 0 ∉ s) : cString (s ++ t) = s ++ cString t :=
  List.takeWhile_append_of_pos (Separators.passes_of_notMem h)

theorem cString_isPrefix (s : List UInt8) : cString s <+: s := List.takeWhile_prefix _

theorem cString_head {s : List UInt8} {b : UInt8} (h : (cString s).head? = some b) :
    s.head? = some b := by
  cases s with
  | nil => cases h
  | cons c s =>
    unfold cString at h
    rw [List.takeWhile_cons] at h
    split_ifs at h with hc
    · exact h
    · cases h

/-! ## Digits -/

/-- No digit comes before `0`. -/
theorem le_of_isDigit {base : ℕ} {b : UInt8} (h : isDigit base b = true) : 48 ≤ b := by
  by_contra hlt
  have h48 : ¬ (48 ≤ b ∧ b ≤ 57) := fun hb => hlt hb.1
  have h97 : ¬ (97 ≤ b ∧ b ≤ 122) := fun hb => hlt (UInt8.le_trans (by decide) hb.1)
  have h65 : ¬ (65 ≤ b ∧ b ≤ 90) := fun hb => hlt (UInt8.le_trans (by decide) hb.1)
  unfold isDigit digit at h
  rw [if_neg h48, if_neg h97, if_neg h65] at h
  simp at h

theorem isDigit_lt {base : ℕ} {b : UInt8} (h : b < 48) : isDigit base b = false := by
  rw [← Bool.not_eq_true]
  exact fun hdigit => UInt8.not_lt.2 (le_of_isDigit hdigit) h

theorem not_isSpace_of_isDigit {base : ℕ} {b : UInt8} (h : isDigit base b = true) :
    isSpace b = false := by
  have hle := UInt8.le_iff_toNat_le.1 (le_of_isDigit h)
  have h32 : (b == 32) = false := by
    rw [beq_eq_false_iff_ne]
    rintro rfl
    exact absurd hle (by decide)
  have h13 : decide (b ≤ 13) = false := by
    rw [decide_eq_false_iff_not, UInt8.le_iff_toNat_le]
    exact fun hle' => absurd (hle.trans hle') (by decide)
  rw [isSpace, h32, h13, Bool.and_false, Bool.or_false]

theorem not_mem_of_digits {base : ℕ} {ds : List UInt8} (h : ∀ b ∈ ds, isDigit base b = true)
    {c : UInt8} (hc : c < 48) : c ∉ ds := by
  intro hmem
  have hfalse : isDigit base c = false := isDigit_lt hc
  rw [h c hmem] at hfalse
  cases hfalse

/-! ## Integers at the beginning of a string -/

/-- Digits up to a byte that is none. -/
theorem takeWhile_digits {base : ℕ} {ds rest : List UInt8}
    (hds : ∀ b ∈ ds, isDigit base b = true) (hrest : ∀ b ∈ rest.head?, isDigit base b = false) :
    (ds ++ rest).takeWhile (isDigit base) = ds := by
  rw [List.takeWhile_append_of_pos hds]
  cases rest with
  | nil => rw [List.takeWhile_nil, List.append_nil]
  | cons b rest =>
    have hb : isDigit base b = false := hrest b rfl
    rw [List.takeWhile_cons, hb, if_neg Bool.false_ne_true, List.append_nil]

/-- `0x` is no beginning of digits. -/
theorem dropBasePrefix_digits {base : ℕ} {ds rest : List UInt8}
    (hds : ∀ b ∈ ds, isDigit base b = true) (hrest : base ≠ 16 ∨ rest = []) :
    dropBasePrefix base (ds ++ rest) = ds ++ rest := by
  unfold dropBasePrefix
  split_ifs with hbase
  · subst hbase
    have hnil : rest = [] := hrest.resolve_left (fun h => h rfl)
    subst hnil
    rw [List.append_nil]
    split
    · rename_i x rest
      have hx : isDigit 16 x = true := hds x (by simp)
      have hne : (x == 120 || x == 88) = false := by
        rw [Bool.or_eq_false_iff, beq_eq_false_iff_ne, beq_eq_false_iff_ne]
        constructor
        · rintro rfl
          exact absurd hx (by decide)
        · rintro rfl
          exact absurd hx (by decide)
      rw [hne, Bool.false_and, if_neg Bool.false_ne_true]
    · rfl
  · rfl

/-- Digits are scanned up to a byte that is none. -/
theorem scanInteger_digits {base : ℕ} {ds rest : List UInt8} (hne : ds ≠ [])
    (hds : ∀ b ∈ ds, isDigit base b = true) (hrest : ∀ b ∈ rest.head?, isDigit base b = false)
    (hbase : base ≠ 16 ∨ rest = []) :
    scanInteger base (ds ++ rest) = some (number base ds : ℤ) := by
  obtain ⟨d, ds', rfl⟩ := List.exists_cons_of_ne_nil hne
  have hd : isDigit base d = true := hds d (by simp)
  have hrest' : ∀ b ∈ (cString rest).head?, isDigit base b = false :=
    fun b hb => hrest b (cString_head hb)
  have hbase' : base ≠ 16 ∨ cString rest = [] := by
    refine hbase.imp_right ?_
    rintro rfl
    rfl
  have hscan : scanDigits base (d :: (ds' ++ cString rest)) = some (number base (d :: ds')) := by
    rw [← List.cons_append, scanDigits, dropBasePrefix_digits hds hbase',
      takeWhile_digits hds hrest', if_neg (List.cons_ne_nil d ds')]
  unfold scanInteger
  rw [cString_append (not_mem_of_digits hds (by decide)), List.cons_append,
    List.dropWhile_cons_of_neg (by rw [not_isSpace_of_isDigit hd]; exact Bool.false_ne_true)]
  split
  · rename_i heq
    rw [(List.cons.inj heq).1] at hd
    rw [isDigit_lt (by decide)] at hd
    cases hd
  · rename_i heq
    rw [(List.cons.inj heq).1] at hd
    rw [isDigit_lt (by decide)] at hd
    cases hd
  · rw [hscan]
    rfl

theorem zero_not_mem_of_space {ws : List UInt8} (h : ∀ b ∈ ws, isSpace b = true) : 0 ∉ ws := by
  intro hmem
  exact absurd (h 0 hmem) (by decide)

/-- White space before an integer is skipped. -/
theorem scanInteger_space {base : ℕ} (ws : List UInt8) {s : List UInt8}
    (h : ∀ b ∈ ws, isSpace b = true) :
    scanInteger base (ws ++ s) = scanInteger base s := by
  unfold scanInteger
  rw [cString_append (zero_not_mem_of_space h), List.dropWhile_append_of_pos h]

/-! ## The size of what is scanned -/

theorem getD_digit_lt {base : ℕ} (hbase : 0 < base) (b : UInt8) :
    (digit base b).getD 0 < base := by
  unfold digit
  dsimp only
  split_ifs <;> simp_all

theorem number_lt {base : ℕ} (hbase : 0 < base) (ds : List UInt8) :
    number base ds < base ^ ds.length := by
  have hfold : ∀ (ds : List UInt8) (n : ℕ),
      ds.foldl (fun n b => n * base + (digit base b).getD 0) n < (n + 1) * base ^ ds.length := by
    intro ds
    induction ds with
    | nil => simp
    | cons b ds ih =>
      intro n
      have hb := getD_digit_lt hbase b
      refine (ih _).trans_le ?_
      rw [List.length_cons, Nat.pow_succ', ← Nat.mul_assoc]
      refine Nat.mul_le_mul_right _ ?_
      change n * base + (digit base b).getD 0 + 1 ≤ (n + 1) * base
      rw [Nat.add_mul, Nat.one_mul]
      omega
  have hzero := hfold ds 0
  rw [Nat.zero_add, Nat.one_mul] at hzero
  exact hzero

theorem dropBasePrefix_length_le (base : ℕ) (s : List UInt8) :
    (dropBasePrefix base s).length ≤ s.length := by
  unfold dropBasePrefix
  split_ifs
  · split
    · split_ifs
      · rw [List.length_cons, List.length_cons]
        omega
      · exact Nat.le_refl _
    · exact Nat.le_refl _
  · exact Nat.le_refl _

theorem scanDigits_lt {base : ℕ} (hbase : 0 < base) {s : List UInt8} {n : ℕ}
    (h : scanDigits base s = some n) : n < base ^ s.length := by
  unfold scanDigits at h
  dsimp only at h
  split_ifs at h
  cases h
  refine (number_lt hbase _).trans_le (Nat.pow_le_pow_right hbase ?_)
  exact (List.takeWhile_prefix _).length_le.trans (dropBasePrefix_length_le base s)

theorem scanDigits_nil (base : ℕ) : scanDigits base [] = none := by
  unfold scanDigits dropBasePrefix
  split_ifs <;> simp_all

theorem length_dropWhile_isSpace_le (s : List UInt8) :
    ((cString s).dropWhile isSpace).length ≤ s.length :=
  (List.dropWhile_suffix _).length_le.trans (cString_isPrefix s).length_le

/-- A number below zero was scanned behind a minus sign. -/
theorem minus_of_scanInteger {base : ℕ} {s : List UInt8} {n : ℤ}
    (h : scanInteger base s = some n) (hn : n < 0) :
    ∃ d rest, (cString s).dropWhile isSpace = 45 :: d :: rest := by
  unfold scanInteger at h
  split at h
  · obtain ⟨m, -, rfl⟩ := Option.map_eq_some_iff.1 h
    omega
  · rename_i rest heq
    cases rest with
    | nil =>
      rw [scanDigits_nil] at h
      cases h
    | cons d rest => exact ⟨d, rest, heq⟩
  · obtain ⟨m, -, rfl⟩ := Option.map_eq_some_iff.1 h
    omega

/-- A short string holds a small number. -/
theorem scanInteger_natAbs_lt {base : ℕ} (hbase : 0 < base) {s : List UInt8} {n : ℤ}
    (h : scanInteger base s = some n) : n.natAbs < base ^ s.length := by
  have hle := length_dropWhile_isSpace_le s
  have hrest : ∀ {rest : List UInt8} {m : ℕ}, scanDigits base rest = some m →
      rest.length ≤ s.length → m < base ^ s.length := by
    intro rest m hscan hlength
    exact (scanDigits_lt hbase hscan).trans_le (Nat.pow_le_pow_right hbase hlength)
  unfold scanInteger at h
  split at h
  · rename_i rest heq
    obtain ⟨m, hscan, rfl⟩ := Option.map_eq_some_iff.1 h
    rw [heq, List.length_cons] at hle
    simpa using hrest hscan (by omega)
  · rename_i rest heq
    obtain ⟨m, hscan, rfl⟩ := Option.map_eq_some_iff.1 h
    rw [heq, List.length_cons] at hle
    simpa using hrest hscan (by omega)
  · obtain ⟨m, hscan, rfl⟩ := Option.map_eq_some_iff.1 h
    simpa using hrest hscan hle

end Scan
