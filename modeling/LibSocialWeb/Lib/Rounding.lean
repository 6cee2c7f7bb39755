import Mathlib.Data.Int.Log
import Mathlib.Data.Rat.Floor
import Mathlib.Tactic.FieldSimp
import Mathlib.Tactic.Linarith
import Mathlib.Tactic.NormNum
import Mathlib.Tactic.Positivity
import Mathlib.Tactic.Ring

/-!
# Rounding to a binary precision

`roundTo p x` is the positive rational `x` rounded to nearest, ties to even, with `p` bits after the
leading one and any exponent: what an operation of a binary format returns as long as the result is
neither too large nor subnormal.

* `roundTo_mono`: rounding is monotone;
* `HasPrecision.roundTo_eq`: numbers of that precision stay;
* `HasPrecision.le_of_lt`: between two numbers of that precision there is a gap;
* `roundTo_lt_iff`: what is rounded to less than a given number.
-/

namespace Rounding

/-! ## To an integer -/

/-- The nearest integer; of two, the even one. -/
def roundEven (x : ℚ) : ℤ :=
  if Int.fract x < 1 / 2 then ⌊x⌋
  else if 1 / 2 < Int.fract x then ⌊x⌋ + 1
  else ⌊x⌋ + ⌊x⌋ % 2

theorem floor_le_roundEven (x : ℚ) : ⌊x⌋ ≤ roundEven x := by
  unfold roundEven
  split_ifs <;> omega

theorem roundEven_le_floor_add_one (x : ℚ) : roundEven x ≤ ⌊x⌋ + 1 := by
  unfold roundEven
  split_ifs <;> omega

theorem roundEven_intCast (n : ℤ) : roundEven n = n := by
  rw [roundEven, Int.fract_intCast, if_pos (by norm_num), Int.floor_intCast]

theorem roundEven_mono {x y : ℚ} (h : x ≤ y) : roundEven x ≤ roundEven y := by
  rcases (Int.floor_mono h).lt_or_eq with hlt | heq
  · calc roundEven x ≤ ⌊x⌋ + 1 := roundEven_le_floor_add_one x
      _ ≤ ⌊y⌋ := hlt
      _ ≤ roundEven y := floor_le_roundEven y
  · have hfract : Int.fract x ≤ Int.fract y := by
      rw [Int.fract, Int.fract, heq]
      linarith
    unfold roundEven
    rw [heq]
    split_ifs <;> first | omega | linarith

/-! ## To a precision -/

/-- The exponent of the last place of `x`. -/
def lastPlace (p : ℕ) (x : ℚ) : ℤ := Int.log 2 x - p

/-- The number of precision `p` nearest to `x`. -/
def roundTo (p : ℕ) (x : ℚ) : ℚ := roundEven (x / 2 ^ lastPlace p x) * 2 ^ lastPlace p x

/-- The number has `p` bits after the leading one. -/
def HasPrecision (p : ℕ) (x : ℚ) : Prop :=
  ∃ (m : ℕ) (k : ℤ), 2 ^ p ≤ m ∧ m < 2 ^ (p + 1) ∧ x = m * 2 ^ k

variable {p : ℕ} {x y : ℚ}

theorem two_zpow_pos (k : ℤ) : (0 : ℚ) < 2 ^ k := zpow_pos (by norm_num) k

theorem two_zpow_le {j k : ℤ} (h : j ≤ k) : (2 : ℚ) ^ j ≤ 2 ^ k :=
  zpow_le_zpow_right₀ (by norm_num) h

theorem two_zpow_add (j k : ℤ) : (2 : ℚ) ^ (j + k) = 2 ^ j * 2 ^ k := zpow_add₀ (by norm_num) j k

theorem HasPrecision.pos (hx : HasPrecision p x) : 0 < x := by
  obtain ⟨m, k, hm, -, rfl⟩ := hx
  have hpos : 0 < m := lt_of_lt_of_le (Nat.two_pow_pos p) hm
  exact mul_pos (by exact_mod_cast hpos) (two_zpow_pos k)

/-- The logarithm of a number, from its bounds. -/
theorem log_eq {n : ℤ} (hlo : 2 ^ n ≤ x) (hhi : x < 2 ^ (n + 1)) : Int.log 2 x = n := by
  have hx : 0 < x := lt_of_lt_of_le (two_zpow_pos n) hlo
  have hle : n ≤ Int.log 2 x := (Int.zpow_le_iff_le_log one_lt_two hx).1 (by exact_mod_cast hlo)
  have hlt : Int.log 2 x < n + 1 :=
    (Int.lt_zpow_iff_log_lt one_lt_two hx).1 (by exact_mod_cast hhi)
  omega

theorem two_zpow_log_le (hx : 0 < x) : 2 ^ Int.log 2 x ≤ x := by
  exact_mod_cast Int.zpow_log_le_self one_lt_two hx

theorem lt_two_zpow_log (x : ℚ) : x < 2 ^ (Int.log 2 x + 1) := by
  exact_mod_cast Int.lt_zpow_succ_log_self one_lt_two x

/-- In units of its last place, a number is a significand of `p + 1` bits. -/
theorem le_scaled (hx : 0 < x) : 2 ^ p ≤ x / 2 ^ lastPlace p x := by
  rw [le_div_iff₀ (two_zpow_pos _), ← zpow_natCast, ← two_zpow_add, lastPlace]
  rw [show (p : ℤ) + (Int.log 2 x - p) = Int.log 2 x by ring]
  exact two_zpow_log_le hx

theorem scaled_lt (x : ℚ) : x / 2 ^ lastPlace p x < 2 ^ (p + 1) := by
  rw [div_lt_iff₀ (two_zpow_pos _), ← zpow_natCast, ← two_zpow_add, lastPlace]
  rw [show ((p + 1 : ℕ) : ℤ) + (Int.log 2 x - p) = Int.log 2 x + 1 by push_cast; ring]
  exact lt_two_zpow_log x

theorem le_roundEven_scaled (hx : 0 < x) : 2 ^ p ≤ roundEven (x / 2 ^ lastPlace p x) := by
  have hmono := roundEven_mono (le_scaled (p := p) hx)
  rwa [show (2 : ℚ) ^ p = ((2 ^ p : ℤ) : ℚ) by push_cast; rfl, roundEven_intCast] at hmono

theorem roundEven_scaled_le (x : ℚ) : roundEven (x / 2 ^ lastPlace p x) ≤ 2 ^ (p + 1) := by
  have hmono := roundEven_mono (scaled_lt (p := p) x).le
  rwa [show (2 : ℚ) ^ (p + 1) = ((2 ^ (p + 1) : ℤ) : ℚ) by push_cast; rfl,
    roundEven_intCast] at hmono

theorem two_zpow_log_le_roundTo (hx : 0 < x) : 2 ^ Int.log 2 x ≤ roundTo p x := by
  have hle : (2 : ℚ) ^ p ≤ roundEven (x / 2 ^ lastPlace p x) := by
    exact_mod_cast le_roundEven_scaled hx
  calc (2 : ℚ) ^ Int.log 2 x = 2 ^ p * 2 ^ lastPlace p x := by
        rw [← zpow_natCast, ← two_zpow_add, lastPlace]
        congr 1
        ring
    _ ≤ roundTo p x := mul_le_mul_of_nonneg_right hle (two_zpow_pos _).le

theorem roundTo_le_two_zpow_log (x : ℚ) : roundTo p x ≤ 2 ^ (Int.log 2 x + 1) := by
  have hle : (roundEven (x / 2 ^ lastPlace p x) : ℚ) ≤ 2 ^ (p + 1) := by
    exact_mod_cast roundEven_scaled_le x
  calc roundTo p x ≤ 2 ^ (p + 1) * 2 ^ lastPlace p x :=
        mul_le_mul_of_nonneg_right hle (two_zpow_pos _).le
    _ = (2 : ℚ) ^ (Int.log 2 x + 1) := by
        rw [← zpow_natCast, ← two_zpow_add, lastPlace]
        congr 1
        push_cast
        ring

/-- Rounding is monotone. -/
theorem roundTo_mono (hx : 0 < x) (h : x ≤ y) : roundTo p x ≤ roundTo p y := by
  have hy : 0 < y := hx.trans_le h
  rcases (Int.log_mono_right (b := 2) hx h).lt_or_eq with hlt | heq
  · calc roundTo p x ≤ 2 ^ (Int.log 2 x + 1) := roundTo_le_two_zpow_log x
      _ ≤ 2 ^ Int.log 2 y := two_zpow_le hlt
      _ ≤ roundTo p y := two_zpow_log_le_roundTo hy
  · have hplace : lastPlace p x = lastPlace p y := by rw [lastPlace, lastPlace, heq]
    have hscaled : x / 2 ^ lastPlace p y ≤ y / 2 ^ lastPlace p y :=
      div_le_div_of_nonneg_right h (two_zpow_pos _).le
    rw [roundTo, roundTo, hplace]
    refine mul_le_mul_of_nonneg_right ?_ (two_zpow_pos _).le
    exact_mod_cast roundEven_mono hscaled

/-! ## Numbers of the precision -/

theorem lastPlace_mul {m : ℕ} {k : ℤ} (hlo : 2 ^ p ≤ m) (hhi : m < 2 ^ (p + 1)) :
    lastPlace p (m * 2 ^ k) = k := by
  have hlo' : (2 : ℚ) ^ p ≤ m := by exact_mod_cast hlo
  have hhi' : (m : ℚ) < 2 ^ (p + 1) := by exact_mod_cast hhi
  have hlog : Int.log 2 ((m : ℚ) * 2 ^ k) = p + k := by
    apply log_eq
    · rw [two_zpow_add, zpow_natCast]
      exact mul_le_mul_of_nonneg_right hlo' (two_zpow_pos k).le
    · rw [show (p : ℤ) + k + 1 = ((p + 1 : ℕ) : ℤ) + k by push_cast; ring, two_zpow_add,
        zpow_natCast]
      exact mul_lt_mul_of_pos_right hhi' (two_zpow_pos k)
  rw [lastPlace, hlog]
  ring

/-- Rounding changes no number of the precision. -/
theorem HasPrecision.roundTo_eq (hx : HasPrecision p x) : roundTo p x = x := by
  obtain ⟨m, k, hlo, hhi, rfl⟩ := hx
  rw [roundTo, lastPlace_mul hlo hhi, mul_div_cancel_right₀ _ (two_zpow_pos k).ne']
  rw [show (m : ℚ) = ((m : ℤ) : ℚ) by push_cast; rfl, roundEven_intCast]

theorem hasPrecision_natCast {n : ℕ} (hn : 0 < n) (hlt : n < 2 ^ (p + 1)) : HasPrecision p n := by
  have hlog : n.log2 ≤ p := Nat.lt_succ_iff.1 ((Nat.log2_lt hn.ne').2 hlt)
  obtain ⟨d, hd⟩ := Nat.exists_eq_add_of_le hlog
  refine ⟨n * 2 ^ d, -d, ?_, ?_, ?_⟩
  · rw [hd, pow_add]
    exact Nat.mul_le_mul_right _ (Nat.log2_self_le hn.ne')
  · rw [hd, add_right_comm, pow_add]
    exact Nat.mul_lt_mul_of_pos_right Nat.lt_log2_self (Nat.two_pow_pos d)
  · rw [zpow_neg, zpow_natCast]
    push_cast
    field_simp

theorem hasPrecision_two_zpow (k : ℤ) : HasPrecision p (2 ^ k) := by
  refine ⟨2 ^ p, k - p, le_rfl, Nat.pow_lt_pow_right one_lt_two p.lt_succ_self, ?_⟩
  rw [zpow_sub₀ two_ne_zero, zpow_natCast]
  push_cast
  field_simp

theorem hasPrecision_roundTo (hx : 0 < x) : HasPrecision p (roundTo p x) := by
  obtain ⟨m, hm⟩ := Int.eq_ofNat_of_zero_le
    (le_trans (by positivity) (le_roundEven_scaled (p := p) hx))
  have hlo := le_roundEven_scaled (p := p) hx
  have hhi := roundEven_scaled_le (p := p) x
  rw [hm] at hlo hhi
  rw [roundTo, hm]
  rcases (show m ≤ 2 ^ (p + 1) by exact_mod_cast hhi).lt_or_eq with hlt | heq
  · exact ⟨m, lastPlace p x, by exact_mod_cast hlo, hlt, by push_cast; rfl⟩
  · -- The significand was rounded up to the next power of two.
    refine ⟨2 ^ p, lastPlace p x + 1, le_rfl, Nat.pow_lt_pow_right one_lt_two p.lt_succ_self, ?_⟩
    rw [heq, two_zpow_add]
    push_cast
    ring

/-- Between two numbers of the precision there is a gap. -/
theorem HasPrecision.le_of_lt (hx : HasPrecision p x) (hy : HasPrecision p y) (h : x < y) :
    x ≤ y * (1 - 1 / 2 ^ (p + 1)) := by
  obtain ⟨m, j, -, hm, rfl⟩ := hx
  obtain ⟨n, k, hn, hn', rfl⟩ := hy
  have hpow : (0 : ℚ) < 2 ^ (p + 1) := by positivity
  rcases le_or_gt k j with hkj | hjk
  · -- Both are multiples of `2 ^ k`.
    obtain ⟨d, hd⟩ := Int.eq_ofNat_of_zero_le (sub_nonneg.2 hkj)
    have hj : (2 : ℚ) ^ j = 2 ^ d * 2 ^ k := by
      rw [← zpow_natCast, ← two_zpow_add, ← hd]
      congr 1
      ring
    rw [hj, ← mul_assoc] at h ⊢
    have hlt : m * 2 ^ d < n := by
      exact_mod_cast lt_of_mul_lt_mul_right h (two_zpow_pos k).le
    have hle : (m : ℚ) * 2 ^ d + 1 ≤ n := by exact_mod_cast hlt
    have hfrac : (n : ℚ) * (1 / 2 ^ (p + 1)) ≤ 1 := by
      rw [mul_one_div, div_le_one hpow]
      exact_mod_cast hn'.le
    have hbound : (m : ℚ) * 2 ^ d ≤ n * (1 - 1 / 2 ^ (p + 1)) := by linarith
    calc (m : ℚ) * 2 ^ d * 2 ^ k ≤ n * (1 - 1 / 2 ^ (p + 1)) * 2 ^ k :=
          mul_le_mul_of_nonneg_right hbound (two_zpow_pos k).le
      _ = n * 2 ^ k * (1 - 1 / 2 ^ (p + 1)) := mul_right_comm _ _ _
  · -- `x` is below the power of two that `y` reaches.
    have hx : (m : ℚ) ≤ 2 ^ (p + 1) - 1 := by
      have hle : (m : ℚ) + 1 ≤ 2 ^ (p + 1) := by exact_mod_cast hm
      linarith
    have hy : (2 : ℚ) ^ (p + 1) * 2 ^ j ≤ n * 2 ^ k := by
      calc (2 : ℚ) ^ (p + 1) * 2 ^ j = 2 ^ p * 2 ^ (j + 1) := by
            rw [two_zpow_add, pow_succ, zpow_one]
            ring
        _ ≤ n * 2 ^ k := by
            refine mul_le_mul (by exact_mod_cast hn) (two_zpow_le hjk) (two_zpow_pos _).le ?_
            positivity
    have hone : (0 : ℚ) ≤ 1 - 1 / 2 ^ (p + 1) := by
      rw [sub_nonneg, div_le_one hpow]
      exact one_le_pow₀ (by norm_num)
    calc (m : ℚ) * 2 ^ j ≤ (2 ^ (p + 1) - 1) * 2 ^ j :=
          mul_le_mul_of_nonneg_right hx (two_zpow_pos j).le
      _ = 2 ^ (p + 1) * 2 ^ j * (1 - 1 / 2 ^ (p + 1)) := by
          field_simp
      _ ≤ n * 2 ^ k * (1 - 1 / 2 ^ (p + 1)) := mul_le_mul_of_nonneg_right hy hone

/-! ## Scaling and thresholds -/

theorem log_mul_two_zpow (hx : 0 < x) (j : ℤ) : Int.log 2 (x * 2 ^ j) = Int.log 2 x + j := by
  apply log_eq
  · rw [two_zpow_add]
    exact mul_le_mul_of_nonneg_right (two_zpow_log_le hx) (two_zpow_pos j).le
  · rw [add_right_comm, two_zpow_add]
    exact mul_lt_mul_of_pos_right (lt_two_zpow_log x) (two_zpow_pos j)

/-- A power of two is a factor that rounding leaves alone. -/
theorem roundTo_mul_two_zpow (hx : 0 < x) (j : ℤ) :
    roundTo p (x * 2 ^ j) = roundTo p x * 2 ^ j := by
  have hplace : lastPlace p (x * 2 ^ j) = lastPlace p x + j := by
    rw [lastPlace, log_mul_two_zpow hx, lastPlace]
    ring
  rw [roundTo, hplace, two_zpow_add, mul_div_mul_right _ _ (two_zpow_pos j).ne', roundTo, mul_assoc]

/-- What is rounded to less than an odd significand: the half below it is, by the tie to even. -/
theorem roundEven_lt_iff {m : ℤ} (hodd : m % 2 = 1) : roundEven x < m ↔ x ≤ m - 1 / 2 := by
  refine ⟨?_, ?_⟩
  · intro h
    by_contra hlt
    rw [not_le] at hlt
    have hround : m ≤ roundEven (min x m) := by
      rcases le_total x m with hx | hx
      · rw [min_eq_left hx]
        rcases hx.lt_or_eq with hx | hx
        · have hfloor : ⌊x⌋ = m - 1 := by
            rw [Int.floor_eq_iff]
            push_cast
            exact ⟨by linarith, by linarith⟩
          have hfract : 1 / 2 < Int.fract x := by
            rw [Int.fract, hfloor]
            push_cast
            linarith
          rw [roundEven, if_neg hfract.not_gt, if_pos hfract, hfloor]
          omega
        · rw [hx, roundEven_intCast]
      · rw [min_eq_right hx, roundEven_intCast]
    have hmono := roundEven_mono (min_le_left x m)
    omega
  · intro h
    have hhalf : roundEven ((m : ℚ) - 1 / 2) = m - 1 := by
      have hfloor : ⌊(m : ℚ) - 1 / 2⌋ = m - 1 := by
        rw [Int.floor_eq_iff]
        push_cast
        exact ⟨by linarith, by linarith⟩
      have hfract : Int.fract ((m : ℚ) - 1 / 2) = 1 / 2 := by
        rw [Int.fract, hfloor]
        push_cast
        ring
      rw [roundEven, hfract, if_neg (lt_irrefl _), if_neg (lt_irrefl _), hfloor]
      omega
    have hmono := roundEven_mono h
    omega

/-- What is rounded to less than a number with an odd significand. -/
theorem roundTo_lt_iff {m : ℕ} {k : ℤ} (hlo : 2 ^ p < m) (hhi : m < 2 ^ (p + 1))
    (hodd : m % 2 = 1) (hx : 0 < x) :
    roundTo p x < m * 2 ^ k ↔ x ≤ (m - 1 / 2) * 2 ^ k := by
  have hpos := two_zpow_pos k
  have hlo' : (2 : ℚ) ^ p + 1 ≤ m := by exact_mod_cast hlo
  have hodd' : (m : ℤ) % 2 = 1 := by exact_mod_cast hodd
  -- In the binade of `m * 2 ^ k` rounding is rounding of the significand.
  have hsame : ∀ y : ℚ, 2 ^ p ≤ y → y < 2 ^ (p + 1) →
      roundTo p (y * 2 ^ k) = roundEven y * 2 ^ k := by
    intro y hy hy'
    have hlog : Int.log 2 y = p := log_eq (by rwa [zpow_natCast]) (by exact_mod_cast hy')
    rw [roundTo_mul_two_zpow (lt_of_lt_of_le (by positivity) hy), roundTo, lastPlace, hlog,
      sub_self, zpow_zero, div_one, mul_one]
  have hone : (1 : ℚ) ≤ 2 ^ p := one_le_pow₀ (by norm_num)
  refine ⟨?_, ?_⟩
  · intro h
    by_contra hlt
    rw [not_le] at hlt
    have hhalf : (m : ℚ) - 1 / 2 < x / 2 ^ k := by rwa [lt_div_iff₀ hpos]
    have hmin : roundTo p (min (x / 2 ^ k) m * 2 ^ k) ≤ roundTo p x := by
      refine roundTo_mono (mul_pos (lt_min (by linarith) (by linarith)) hpos) ?_
      calc min (x / 2 ^ k) m * 2 ^ k ≤ x / 2 ^ k * 2 ^ k :=
            mul_le_mul_of_nonneg_right (min_le_left _ _) hpos.le
        _ = x := div_mul_cancel₀ x hpos.ne'
    rw [hsame _ (le_min (by linarith) (by linarith))
      (lt_of_le_of_lt (min_le_right _ _) (by exact_mod_cast hhi))] at hmin
    have hround : (roundEven (min (x / 2 ^ k) m) : ℚ) < ((m : ℤ) : ℚ) := by
      have := hmin.trans_lt h
      exact_mod_cast lt_of_mul_lt_mul_right this hpos.le
    have hle := (roundEven_lt_iff hodd').1 (by exact_mod_cast hround)
    rcases min_choice (x / 2 ^ k) (m : ℚ) with hx' | hx' <;> rw [hx'] at hle <;>
      push_cast at hle <;> linarith
  · intro h
    have hround : roundEven ((m : ℚ) - 1 / 2) < m :=
      (roundEven_lt_iff hodd').2 (by push_cast; exact le_rfl)
    calc roundTo p x ≤ roundTo p ((m - 1 / 2) * 2 ^ k) := roundTo_mono hx h
      _ = roundEven ((m : ℚ) - 1 / 2) * 2 ^ k := by
          refine hsame _ (by linarith) ?_
          have hhi' : (m : ℚ) < 2 ^ (p + 1) := by exact_mod_cast hhi
          linarith
      _ < m * 2 ^ k := mul_lt_mul_of_pos_right (by exact_mod_cast hround) hpos

end Rounding
