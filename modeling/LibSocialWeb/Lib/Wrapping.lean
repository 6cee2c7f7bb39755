import Mathlib.Data.Int.GCD
import Mathlib.Data.Int.ModEq
import Mathlib.Data.Nat.Prime.Basic
import Mathlib.Tactic.Linarith
import Mathlib.Tactic.Positivity
import Mathlib.Tactic.Ring
import Mathlib.Tactic.Zify

/-!
# Counters that wrap around

A counter of which the same amount `s` is taken again and again, modulo `n`. It comes to every
number that differs from its first value by a multiple of `gcd s n` (`Counts.comes_to`).

**Rule.** `Counts.falls_below`: in the range from `-2 ^ w` to `2 ^ w - 1`, a counter grows when a
negative amount is taken of it. It still falls below that amount at some time, unless the amount is
the smallest number of the range.
-/

namespace Wrapping

/-- `s` is taken of the counter in each step. -/
def Counts (n : ℕ) (s : ℤ) (c : ℕ → ℤ) : Prop := ∀ k, c (k + 1) ≡ c k - s [ZMOD n]

variable {n w : ℕ} {c : ℕ → ℤ} {s : ℤ}

theorem Counts.modEq (h : Counts n s c) (k : ℕ) : c k ≡ c 0 - k * s [ZMOD n] := by
  induction k with
  | zero => simp
  | succ k ih =>
    calc c (k + 1) ≡ c k - s [ZMOD n] := h k
      _ ≡ c 0 - k * s - s [ZMOD n] := ih.sub_right s
      _ = c 0 - (k + 1 : ℕ) * s := by push_cast; ring

/-- **A counter comes to every number whose distance `gcd s n` divides.** -/
theorem Counts.comes_to (h : Counts n s c) (hn : 0 < n) {e : ℤ}
    (he : (Int.gcd s n : ℤ) ∣ c 0 - e) : ∃ k, c k ≡ e [ZMOD n] := by
  obtain ⟨x, y, hxy⟩ := Int.gcd_dvd_iff.1 (dvd_refl (Int.gcd s n))
  obtain ⟨q, hq⟩ := he
  have hn' : (n : ℤ) ≠ 0 := by exact_mod_cast hn.ne'
  -- The number of steps is `x * q`, modulo `n`.
  have hk : ((x * q % n).toNat : ℤ) = x * q % n := Int.toNat_of_nonneg (Int.emod_nonneg _ hn')
  have hmod : x * q % n ≡ x * q [ZMOD n] := Int.mod_modEq _ _
  refine ⟨(x * q % n).toNat, (h.modEq _).trans ?_⟩
  rw [hk]
  calc c 0 - x * q % n * s ≡ c 0 - x * q * s [ZMOD n] := (hmod.mul_right s).sub_left (c 0)
    _ = e + n * (y * q) := by
      have hsplit : (Int.gcd s n : ℤ) * q = s * x * q + n * y * q := by rw [hxy]; ring
      linarith
    _ ≡ e [ZMOD n] := Int.modEq_add_fac_self

/-- The divisors that a small number has in common with `2 ^ (w + 1)` divide `2 ^ w`. -/
theorem gcd_dvd_half (hlow : -2 ^ w < s) (hneg : s < 0) :
    (Int.gcd s (2 ^ (w + 1) : ℕ) : ℤ) ∣ 2 ^ w := by
  have hpow : Int.gcd s (2 ^ (w + 1) : ℕ) ∣ 2 ^ (w + 1) := by
    exact_mod_cast Int.gcd_dvd_right s ((2 ^ (w + 1) : ℕ) : ℤ)
  obtain ⟨v, hv, hgcd⟩ := (Nat.dvd_prime_pow Nat.prime_two).1 hpow
  have hle : (Int.gcd s (2 ^ (w + 1) : ℕ) : ℤ) ≤ -s :=
    Int.le_of_dvd (by omega) ((Int.gcd_dvd_left s _).neg_right)
  have hlt : 2 ^ v < 2 ^ (w + 1) := by
    rw [hgcd] at hle
    have hdouble : (2 : ℤ) ^ (w + 1) = 2 * 2 ^ w := by ring
    zify
    push_cast at hle
    linarith
  have hvw : v ≤ w := Nat.lt_succ_iff.1 ((Nat.pow_lt_pow_iff_right Nat.one_lt_two).1 hlt)
  rw [hgcd]
  exact_mod_cast pow_dvd_pow 2 hvw

/-- Numbers of the range that are the same modulo its size are the same. -/
theorem eq_of_modEq {a b : ℤ} (h : a ≡ b [ZMOD (2 ^ (w + 1) : ℕ)])
    (ha : -2 ^ w ≤ a ∧ a < 2 ^ w) (hb : -2 ^ w ≤ b ∧ b < 2 ^ w) : a = b := by
  obtain ⟨q, hq⟩ := h.dvd
  have hwidth : ((2 ^ (w + 1) : ℕ) : ℤ) = 2 * 2 ^ w := by push_cast; ring
  have hw : (0 : ℤ) < 2 ^ w := by positivity
  rw [hwidth] at hq
  rcases lt_trichotomy q 0 with hlt | hzero | hgt
  · nlinarith
  · rw [hzero, mul_zero] at hq
    linarith
  · nlinarith

/-- **A counter that grows falls below what is taken of it**, unless that is the smallest number. -/
theorem Counts.falls_below (h : Counts (2 ^ (w + 1)) s c) (hlow : -2 ^ w < s) (hneg : s < 0)
    (hrange : ∀ k, -2 ^ w ≤ c k ∧ c k < 2 ^ w) : ∃ k, c k < s := by
  set g : ℤ := (Int.gcd s (2 ^ (w + 1) : ℕ) : ℤ) with hg
  have hhalf : g ∣ 2 ^ w := gcd_dvd_half hlow hneg
  have hpos : 0 < g := Int.natCast_pos.2 (Int.gcd_pos_of_ne_zero_left _ hneg.ne)
  -- The counter comes to one of the first `g` numbers of the range.
  have hfar : g ∣ c 0 - (-2 ^ w + (c 0 + 2 ^ w) % g) := by
    have hdiff : c 0 - (-2 ^ w + (c 0 + 2 ^ w) % g) = c 0 + 2 ^ w - (c 0 + 2 ^ w) % g := by ring
    rw [hdiff]
    exact Int.dvd_self_sub_emod
  obtain ⟨k, hk⟩ := h.comes_to (by positivity) hfar
  have hsum : g ≤ 2 ^ w + s := Int.le_of_dvd (by linarith) (dvd_add hhalf (Int.gcd_dvd_left s _))
  have hlt := Int.emod_lt_of_pos (c 0 + 2 ^ w) hpos
  have hnonneg := Int.emod_nonneg (c 0 + 2 ^ w) hpos.ne'
  have heq : c k = -2 ^ w + (c 0 + 2 ^ w) % g :=
    eq_of_modEq hk (hrange k) ⟨by linarith, by linarith⟩
  exact ⟨k, by linarith⟩

end Wrapping
