import LibSocialWeb.Lib.Rounding

/-!
# Positive doubles

The logical model of `Float` computes with mantissas, exponents and residual bits. Here the
operations on positive normal doubles are stated by the rationals that these stand for: an operation
returns the exact result, rounded to 52 bits after the leading one.

* `Approximates`: what a mantissa with its residual bits says of a rational;
* `isNormal_roundWithAccuracy`: rounding such a mantissa is `roundTo 52`;
* `IsDouble`: the double stands for the rational, with a rule for each operation.
-/

namespace Binary64

open Float.Model UnpackedFloat Rounding

/-! ## Residual bits -/

/-- `x` is at the mantissa, or at its half way to the next one, or between these. -/
def Approximates (em : ExtendedMantissa) (x : ℚ) : Prop :=
  match em.roundBit, em.stickyBit with
  | false, false => x = em.mantissa
  | false, true => em.mantissa < x ∧ x < em.mantissa + 1 / 2
  | true, false => x = em.mantissa + 1 / 2
  | true, true => em.mantissa + 1 / 2 < x ∧ x < em.mantissa + 1

variable {em : ExtendedMantissa} {x y : ℚ}

theorem Approximates.bounds (h : Approximates em x) : em.mantissa ≤ x ∧ x < em.mantissa + 1 := by
  obtain ⟨m, roundBit, stickyBit⟩ := em
  cases roundBit <;> cases stickyBit <;> dsimp only [Approximates] at h ⊢
  · exact ⟨h.ge, by linarith⟩
  · exact ⟨h.1.le, by linarith⟩
  · exact ⟨by linarith, by linarith⟩
  · exact ⟨by linarith, h.2⟩

theorem Approximates.floor_eq (h : Approximates em x) : ⌊x⌋ = em.mantissa :=
  Int.floor_eq_iff.2 h.bounds

theorem Approximates.shiftRightOne (h : Approximates em x) :
    Approximates em.shiftRightOne (x / 2) := by
  obtain ⟨m, roundBit, stickyBit⟩ := em
  have hm : (m : ℚ) = 2 * (m / 2 : ℕ) + (m % 2 : ℕ) := by exact_mod_cast (Nat.div_add_mod m 2).symm
  unfold Approximates at h ⊢
  unfold ExtendedMantissa.shiftRightOne
  dsimp only at h ⊢
  -- The lowest bit of the mantissa becomes the round bit.
  generalize m / 2 = half at hm ⊢
  rcases Nat.mod_two_eq_zero_or_one m with hmod | hmod
  · rw [hmod, Nat.cast_zero] at hm
    rw [show (m % 2 != 0) = false by rw [hmod]; rfl]
    cases roundBit <;> cases stickyBit <;>
      simp only [Bool.or_false, Bool.or_true, Bool.or_self] at h ⊢ <;>
      first | linarith | exact ⟨by linarith, by linarith⟩
  · rw [hmod, Nat.cast_one] at hm
    rw [show (m % 2 != 0) = true by rw [hmod]; rfl]
    cases roundBit <;> cases stickyBit <;>
      simp only [Bool.or_false, Bool.or_true, Bool.or_self] at h ⊢ <;>
      first | linarith | exact ⟨by linarith, by linarith⟩

theorem Approximates.shiftRight (h : Approximates em x) (n : ℕ) :
    Approximates (em >>> n) (x / 2 ^ n) := by
  induction n with
  | zero =>
    rw [pow_zero, div_one]
    exact h
  | succ n ih =>
    have hstep := ih.shiftRightOne
    rwa [div_div, ← pow_succ] at hstep

/-- The residual bits say how to round. -/
theorem Approximates.roundedMantissa (h : Approximates em x) :
    (em.roundedMantissa : ℤ) = roundEven x := by
  have hfloor := h.floor_eq
  have hfract : Int.fract x = x - em.mantissa := by rw [Int.fract, hfloor, Int.cast_natCast]
  unfold roundEven
  rw [hfract, hfloor]
  obtain ⟨m, roundBit, stickyBit⟩ := em
  cases roundBit <;> cases stickyBit <;> dsimp only [Approximates] at h ⊢
  · rw [if_pos (by linarith)]
    rfl
  · rw [if_pos (by linarith)]
    rfl
  · rw [if_neg (by linarith), if_neg (by linarith)]
    rfl
  · rw [if_neg (by linarith), if_pos (by linarith)]
    rfl

theorem approximates_exact (m : ℕ) :
    Approximates (ExtendedMantissa.ofMantissaAndAccuracy m .exact) m := rfl

/-- The accuracy of a quotient. -/
theorem approximates_fraction {n d : ℕ} (hd : 0 < d) :
    Approximates (ExtendedMantissa.ofMantissaAndAccuracy (n / d) (accuracyOfFraction (n % d) d))
      (n / d : ℚ) := by
  have hd' : (0 : ℚ) < d := by exact_mod_cast hd
  have hn : (n : ℚ) = d * (n / d : ℕ) + (n % d : ℕ) := by exact_mod_cast (Nat.div_add_mod n d).symm
  have hlt : ((n % d : ℕ) : ℚ) < d := by exact_mod_cast Nat.mod_lt n hd
  have hquot : (n : ℚ) / d = (n / d : ℕ) + (n % d : ℕ) / d := by
    rw [div_eq_iff hd'.ne', add_mul, div_mul_cancel₀ _ hd'.ne', mul_comm, ← hn]
  have hone : ((n % d : ℕ) : ℚ) / d < 1 := (div_lt_one hd').2 hlt
  rw [hquot]
  unfold accuracyOfFraction
  split_ifs with hzero
  · rw [hzero, Nat.cast_zero, zero_div, add_zero]
    rfl
  · have hpos : (0 : ℚ) < (n % d : ℕ) / d :=
      div_pos (by exact_mod_cast Nat.pos_of_ne_zero hzero) hd'
    have hhalf : ((n % d : ℕ) : ℚ) / d < 1 / 2 ↔ 2 * (n % d) < d := by
      rw [div_lt_div_iff₀ hd' two_pos, one_mul, mul_comm]
      exact_mod_cast Iff.rfl
    have hhalf' : 1 / 2 < ((n % d : ℕ) : ℚ) / d ↔ d < 2 * (n % d) := by
      rw [div_lt_div_iff₀ two_pos hd', one_mul, mul_comm]
      exact_mod_cast Iff.rfl
    rcases lt_trichotomy (2 * (n % d)) d with hlt' | heq | hgt
    · rw [compare_lt_iff_lt.2 hlt']
      dsimp only [Approximates, ExtendedMantissa.ofMantissaAndAccuracy]
      exact ⟨lt_add_of_pos_right _ hpos, by linarith [hhalf.2 hlt']⟩
    · rw [compare_eq_iff_eq.2 heq]
      dsimp only [Approximates, ExtendedMantissa.ofMantissaAndAccuracy]
      have hle : ¬ ((n % d : ℕ) : ℚ) / d < 1 / 2 := by rw [hhalf]; omega
      have hge : ¬ 1 / 2 < ((n % d : ℕ) : ℚ) / d := by rw [hhalf']; omega
      linarith
    · rw [compare_gt_iff_gt.2 hgt]
      dsimp only [Approximates, ExtendedMantissa.ofMantissaAndAccuracy]
      exact ⟨by linarith [hhalf'.2 hgt], by linarith⟩

/-! ## Rounding -/

/-- The positive normal value of the unpacked double. -/
def IsNormal (f : UnpackedFloat) (x : ℚ) : Prop :=
  ∃ (m : ℕ) (k : ℤ) (hm : 0 < m), f = .finite .positive m k hm ∧ 2 ^ 52 ≤ m ∧ m < 2 ^ 53 ∧
    -1074 ≤ k ∧ k ≤ 971 ∧ x = m * 2 ^ k

/-- Rounding `x` gives a normal double. -/
def InRange (x : ℚ) : Prop := -1022 ≤ Int.log 2 x ∧ Int.log 2 x ≤ 1022

/-- The logarithm of a number between two powers of two. -/
theorem log_bounds {a b : ℤ} (hlo : 2 ^ a ≤ x) (hhi : x ≤ 2 ^ b) :
    a ≤ Int.log 2 x ∧ Int.log 2 x ≤ b := by
  have hx : 0 < x := (two_zpow_pos a).trans_le hlo
  refine ⟨(Int.zpow_le_iff_le_log one_lt_two hx).1 (by exact_mod_cast hlo), ?_⟩
  calc Int.log 2 x ≤ Int.log 2 ((2 : ℚ) ^ b) := Int.log_mono_right hx hhi
    _ = b := by exact_mod_cast Int.log_zpow (R := ℚ) one_lt_two b

theorem inRange_of_bounds {a b : ℤ} (hlo : 2 ^ a ≤ x) (hhi : x ≤ 2 ^ b) (ha : -1022 ≤ a)
    (hb : b ≤ 1022) : InRange x := by
  obtain ⟨hloglo, hloghi⟩ := log_bounds hlo hhi
  exact ⟨ha.trans hloglo, hloghi.trans hb⟩

theorem targetExponent_binary64 (n : ℤ) :
    Format.binary64.targetExponent n = max (n - 53) (-1074) := rfl

/-- A mantissa shifted to the exponent of the last place. -/
theorem shiftToTargetExponent_eq {m : ℕ} {k : ℤ} {acc : Accuracy} {d : ℕ}
    (hlog : m.log2 = 52 + d) (hlo : -1074 ≤ k + d) :
    shiftToTargetExponent .binary64 m k acc =
      (ExtendedMantissa.ofMantissaAndAccuracy m acc >>> d, k + d) := by
  unfold shiftToTargetExponent shiftToExponent
  dsimp only
  have hshift : (Format.binary64.targetExponent (totalExponent m k) - k).toNat = d := by
    rw [targetExponent_binary64, totalExponent, hlog]
    omega
  rw [hshift]

/-- The exponent of the last place, by the logarithm of the mantissa. -/
theorem lastPlace_eq {m : ℕ} {k : ℤ} {d : ℕ} (hlog : m.log2 = 52 + d)
    (hle : m ≤ x / 2 ^ k) (hlt : x / 2 ^ k < m + 1) : lastPlace 52 x = k + d := by
  have hm : m ≠ 0 := by
    intro hzero
    rw [hzero, Nat.log2_zero] at hlog
    omega
  have hlo : (2 : ℚ) ^ (52 + d) ≤ m := by
    exact_mod_cast hlog ▸ Nat.log2_self_le hm
  have hhi : (m : ℚ) + 1 ≤ 2 ^ (52 + d + 1) := by
    exact_mod_cast hlog ▸ (Nat.lt_log2_self (n := m))
  have hk := two_zpow_pos k
  have hlogx : Int.log 2 x = 52 + d + k := by
    apply log_eq
    · calc (2 : ℚ) ^ ((52 : ℤ) + d + k) = 2 ^ (52 + d) * 2 ^ k := by
            rw [two_zpow_add, ← zpow_natCast]
            push_cast
            rfl
        _ ≤ x := (le_div_iff₀ hk).1 (hlo.trans hle)
    · calc x < 2 ^ (52 + d + 1) * 2 ^ k := (div_lt_iff₀ hk).1 (hlt.trans_le hhi)
        _ = (2 : ℚ) ^ ((52 : ℤ) + d + k + 1) := by
            rw [← zpow_natCast, ← two_zpow_add]
            congr 1
            push_cast
            ring
  rw [lastPlace, hlogx]
  push_cast
  ring

theorem mantissa_ofMantissaAndAccuracy (m : ℕ) (acc : Accuracy) :
    (ExtendedMantissa.ofMantissaAndAccuracy m acc).mantissa = m := by
  unfold ExtendedMantissa.ofMantissaAndAccuracy
  split <;> rfl

theorem log2_eq_of_bounds {m n : ℕ} (hlo : 2 ^ n ≤ m) (hhi : m < 2 ^ (n + 1)) : m.log2 = n := by
  have hm : m ≠ 0 := by
    have := Nat.two_pow_pos n
    omega
  exact (Nat.log2_eq_iff hm).2 ⟨hlo, hhi⟩

/-- **Rounding.** A mantissa of at least 53 bits, with its accuracy, is rounded to the nearest
double. -/
theorem isNormal_roundWithAccuracy {m : ℕ} {k : ℤ} {acc : Accuracy} (hm : 2 ^ 52 ≤ m)
    (h : Approximates (ExtendedMantissa.ofMantissaAndAccuracy m acc) (x / 2 ^ k))
    (hx : 0 < x) (hrange : InRange x) :
    IsNormal (roundWithAccuracy .binary64 .positive m k acc) (roundTo 52 x) := by
  obtain ⟨d, hd⟩ := Nat.exists_eq_add_of_le ((Nat.le_log2 (by omega)).2 hm)
  obtain ⟨hle, hlt⟩ := h.bounds
  rw [mantissa_ofMantissaAndAccuracy] at hle hlt
  have hplace : lastPlace 52 x = k + d := lastPlace_eq hd hle hlt
  obtain ⟨hlo, hhi⟩ : -1074 ≤ k + d ∧ k + d ≤ 970 := by
    obtain ⟨hlo, hhi⟩ := hrange
    rw [lastPlace] at hplace
    push_cast at hplace
    omega
  have happrox := h.shiftRight d
  rw [div_div, ← zpow_natCast, ← two_zpow_add, ← hplace] at happrox
  have hround := happrox.roundedMantissa
  have hfirst : shiftToTargetExponent .binary64 m k acc = _ := shiftToTargetExponent_eq hd hlo
  generalize ExtendedMantissa.ofMantissaAndAccuracy m acc >>> d = em at hround hfirst
  have hvalue : roundTo 52 x = em.roundedMantissa * 2 ^ (k + d) := by
    rw [roundTo, ← hround, hplace, Int.cast_natCast]
  have hmin : 2 ^ 52 ≤ em.roundedMantissa := by
    have := le_roundEven_scaled (p := 52) hx
    omega
  have hmax : em.roundedMantissa ≤ 2 ^ 53 := by
    have := roundEven_scaled_le (p := 52) x
    omega
  unfold roundWithAccuracy
  dsimp only
  rw [hfirst]
  dsimp only
  generalize em.roundedMantissa = n at *
  rcases hmax.lt_or_eq with hsmall | hbig
  · have hsecond : shiftToTargetExponent .binary64 n (k + d) .exact =
        (⟨n, false, false⟩, k + d) := by
      rw [shiftToTargetExponent_eq (d := 0) (log2_eq_of_bounds hmin hsmall) (by omega)]
      rw [Nat.cast_zero, add_zero]
      rfl
    rw [hsecond]
    dsimp only
    rw [dif_neg (by omega)]
    exact ⟨n, k + d, by omega, rfl, hmin, hsmall, hlo, by omega, hvalue⟩
  · -- The mantissa was rounded up to 54 bits, and is shifted once more.
    subst hbig
    have hsecond : shiftToTargetExponent .binary64 (2 ^ 53) (k + d) .exact =
        (⟨2 ^ 52, false, false⟩, k + d + 1) := by
      rw [shiftToTargetExponent_eq (d := 1) Nat.log2_two_pow (by omega)]
      rfl
    rw [hsecond]
    dsimp only
    rw [dif_neg (by norm_num)]
    refine ⟨2 ^ 52, k + d + 1, by norm_num, rfl, le_rfl, by norm_num, by omega, by omega, ?_⟩
    rw [hvalue, two_zpow_add (k + d)]
    push_cast
    ring

/-! ## Packing -/

theorem unpackSign_packComponents {spec : Format} (sign : Sign) (k : BitVec spec.exponentBits)
    (m : BitVec spec.mantissaBitsWithoutImplicit) :
    unpackSign (packComponents spec sign k m) = sign.toBitVec := by
  unfold unpackSign packComponents
  ext i hi
  obtain rfl : i = 0 := by omega
  simp [BitVec.getElem_append, BitVec.getLsbD_append]

/-- The mantissa with its implicit bit. -/
theorem toNat_implicit {m : ℕ} (hlo : 2 ^ 52 ≤ m) (hhi : m < 2 ^ 53) :
    (1#1 ++ BitVec.ofNat 52 m).toNat = m := by
  have hlt : (BitVec.ofNat 52 m).toNat < 2 ^ 52 := (BitVec.ofNat 52 m).isLt
  have hmod : (BitVec.ofNat 52 m).toNat = m - 2 ^ 52 := by
    rw [BitVec.toNat_ofNat, Nat.mod_eq_sub_mod hlo, Nat.mod_eq_of_lt (by omega)]
  rw [BitVec.toNat_append, ← Nat.shiftLeft_add_eq_or_of_lt hlt, hmod, Nat.shiftLeft_eq,
    BitVec.toNat_one (by norm_num)]
  omega

theorem pack_eq {m : ℕ} {k : ℤ} {b : ℕ} (hm : 0 < m) (hlo : 2 ^ 52 ≤ m) (hhi : m < 2 ^ 53)
    (hb : k + 1075 = b) (hmax : b ≤ 2046) :
    UnpackedFloat.pack .binary64 (.finite .positive m k hm) =
      packComponents .binary64 .positive (BitVec.ofNat 11 b) (BitVec.ofNat 52 m) := by
  have hbiased : (k + Format.binary64.exponentBias +
      Format.binary64.mantissaBitsWithoutImplicit).toNat = b := by
    have hbias : (Format.binary64.exponentBias : ℤ) = 1023 := rfl
    have hbits : (Format.binary64.mantissaBitsWithoutImplicit : ℤ) = 52 := rfl
    rw [hbias, hbits]
    omega
  unfold UnpackedFloat.pack
  dsimp only
  have hfinite : ¬ 2 ^ Format.binary64.exponentBits ≤ b + 1 := by
    have hpow : 2 ^ Format.binary64.exponentBits = 2048 := rfl
    omega
  have hnormal : 52 + 1 = Format.binary64.mantissaBits := rfl
  rw [hbiased, log2_eq_of_bounds hlo hhi, if_neg hfinite, if_pos hnormal]

/-- What is unpacked from the bits of a normal double. -/
theorem unpack_eq {b : BitVec Format.binary64.numBits} {m : ℕ} {k : ℤ} (hm : 0 < m)
    (hones : unpackExponent b ≠ -1#_) (hzero : unpackExponent b ≠ 0#_)
    (hsign : Sign.ofBitVec (unpackSign b) = .positive)
    (hmantissa : (1#1 ++ unpackMantissa b).toNat = m)
    (hexponent : ((unpackExponent b).toNat : ℤ) - 1075 = k) :
    UnpackedFloat.unpack .binary64 b = .finite .positive m k hm := by
  have hbias : (Format.binary64.exponentBias + Format.binary64.mantissaBitsWithoutImplicit : ℤ) =
      1075 := rfl
  have hfinite : ∀ s n (j : ℤ) (hn : 0 < n), s = Sign.positive → n = m → j = k →
      UnpackedFloat.finite s n j hn = .finite .positive m k hm := by
    intro s n j hn hs hm hk
    subst hs hm hk
    rfl
  unfold UnpackedFloat.unpack
  dsimp only
  rw [if_neg hones, if_neg hzero]
  exact hfinite _ _ _ _ hsign hmantissa (hbias ▸ hexponent)

theorem unpack_packComponents {m b : ℕ} (hlo : 2 ^ 52 ≤ m) (hhi : m < 2 ^ 53) (hb : 1 ≤ b)
    (hmax : b ≤ 2046) (hm : 0 < m) :
    UnpackedFloat.unpack .binary64
      (packComponents .binary64 .positive (BitVec.ofNat 11 b) (BitVec.ofNat 52 m)) =
      .finite .positive m (b - 1075) hm := by
  have hb' : (BitVec.ofNat 11 b).toNat = b := by
    rw [BitVec.toNat_ofNat, Nat.mod_eq_of_lt (by omega)]
  have hones : BitVec.ofNat 11 b ≠ -1#11 := by
    intro heq
    rw [heq] at hb'
    have hones : (-1#11).toNat = 2047 := by decide
    omega
  have hzero : BitVec.ofNat 11 b ≠ 0#11 := by
    intro heq
    rw [heq] at hb'
    have hzero : (0#11).toNat = 0 := by decide
    omega
  refine unpack_eq hm ?_ ?_ ?_ ?_ ?_
  · rw [unpackExponent_packComponents]
    exact hones
  · rw [unpackExponent_packComponents]
    exact hzero
  · rw [unpackSign_packComponents]
    rfl
  · rw [unpackMantissa_packComponents]
    exact toNat_implicit hlo hhi
  · rw [unpackExponent_packComponents]
    exact congrArg (fun n : ℕ => (n : ℤ) - 1075) hb'

/-- A normal double is kept by packing and unpacking it. -/
theorem IsNormal.unpack_pack {f : UnpackedFloat} (h : IsNormal f x) :
    (Float.Model.pack f).unpack = f := by
  obtain ⟨m, k, hm, rfl, hlo, hhi, hmin, hmax, -⟩ := h
  obtain ⟨b, hb⟩ : ∃ b : ℕ, k + 1075 = b := Int.eq_ofNat_of_zero_le (by omega)
  have hpack := pack_eq hm hlo hhi hb (by omega)
  have hunpack := unpack_packComponents hlo hhi (by omega : 1 ≤ b) (by omega) hm
  rw [← hpack, show (b : ℤ) - 1075 = k by omega] at hunpack
  exact hunpack

/-! ## Operations on unpacked doubles -/

/-- A normal double has one value, and one form. -/
theorem IsNormal.unique {f g : UnpackedFloat} (hf : IsNormal f x) (hg : IsNormal g x) : f = g := by
  obtain ⟨m, k, hm, rfl, hlo, hhi, -, -, hx⟩ := hf
  obtain ⟨n, j, hn, rfl, hlo', hhi', -, -, hx'⟩ := hg
  have hkj : k = j := by
    have hk : lastPlace 52 x = k := hx ▸ lastPlace_mul hlo hhi
    have hj : lastPlace 52 x = j := hx' ▸ lastPlace_mul hlo' hhi'
    exact hk.symm.trans hj
  subst hkj
  have hmn : (m : ℚ) = n := mul_right_cancel₀ (two_zpow_pos k).ne' (hx.symm.trans hx')
  obtain rfl : m = n := by exact_mod_cast hmn
  rfl

theorem IsNormal.value_unique {f : UnpackedFloat} (hx : IsNormal f x) (hy : IsNormal f y) :
    x = y := by
  obtain ⟨m, k, hm, rfl, -, -, -, -, rfl⟩ := hx
  obtain ⟨n, j, hn, heq, -, -, -, -, rfl⟩ := hy
  injection heq with _ hmn hkj
  rw [hmn, hkj]

theorem IsNormal.hasPrecision {f : UnpackedFloat} (h : IsNormal f x) : HasPrecision 52 x := by
  obtain ⟨m, k, hm, -, hlo, hhi, -, -, hx⟩ := h
  exact ⟨m, k, hlo, hhi, hx⟩

theorem isNormal_round {m : ℕ} (hm : 0 < m) (hrange : InRange m) :
    IsNormal (UnpackedFloat.round .binary64 .positive m 0) (roundTo 52 m) := by
  have hpos : (0 : ℚ) < m := by exact_mod_cast hm
  unfold UnpackedFloat.round
  dsimp only
  unfold decreaseExponent
  dsimp only
  -- The mantissa gets at least 53 bits.
  obtain ⟨d, hd⟩ : ∃ d, (0 - Format.binary64.targetExponent (totalExponent m 0)).toNat = d :=
    ⟨_, rfl⟩
  rw [hd, Nat.shiftLeft_eq, zero_sub]
  refine isNormal_roundWithAccuracy ?_ ?_ hpos hrange
  · have hlog : 52 ≤ m.log2 + d := by
      rw [targetExponent_binary64, totalExponent] at hd
      omega
    calc 2 ^ 52 ≤ 2 ^ (m.log2 + d) := Nat.pow_le_pow_right two_pos hlog
      _ = 2 ^ m.log2 * 2 ^ d := pow_add 2 _ _
      _ ≤ m * 2 ^ d := Nat.mul_le_mul_right _ (Nat.log2_self_le hm.ne')
  · have hvalue : (m : ℚ) / 2 ^ (-d : ℤ) = (m * 2 ^ d : ℕ) := by
      rw [zpow_neg, div_inv_eq_mul, zpow_natCast]
      push_cast
      rfl
    rw [hvalue]
    exact approximates_exact _

theorem IsNormal.mul {f g : UnpackedFloat} (hf : IsNormal f x) (hg : IsNormal g y)
    (hrange : InRange (x * y)) :
    IsNormal (UnpackedFloat.mul .binary64 f g) (roundTo 52 (x * y)) := by
  obtain ⟨m, k, hm, rfl, hlo, hhi, -, -, rfl⟩ := hf
  obtain ⟨n, j, hn, rfl, hlo', hhi', -, -, rfl⟩ := hg
  have hpos : (0 : ℚ) < m * 2 ^ k * (n * 2 ^ j) := by
    have hm' : (0 : ℚ) < m := by exact_mod_cast hm
    have hn' : (0 : ℚ) < n := by exact_mod_cast hn
    have hk := two_zpow_pos k
    have hj := two_zpow_pos j
    positivity
  have hvalue : (m : ℚ) * 2 ^ k * (n * 2 ^ j) / 2 ^ (k + j) = (m * n : ℕ) := by
    rw [two_zpow_add]
    have hk := (two_zpow_pos k).ne'
    have hj := (two_zpow_pos j).ne'
    push_cast
    field_simp
  refine isNormal_roundWithAccuracy (le_mul_of_le_of_one_le hlo hn) ?_ hpos hrange
  rw [hvalue]
  exact approximates_exact _

theorem IsNormal.div {f g : UnpackedFloat} (hf : IsNormal f x) (hg : IsNormal g y)
    (hlogs : -1021 ≤ Int.log 2 x - Int.log 2 y) (hrange : InRange (x / y)) :
    IsNormal (UnpackedFloat.div .binary64 f g) (roundTo 52 (x / y)) := by
  obtain ⟨m, k, hm, rfl, hlo, hhi, -, -, rfl⟩ := hf
  obtain ⟨n, j, hn, rfl, hlo', hhi', -, -, rfl⟩ := hg
  have hkj : -1021 ≤ k - j := by
    have hk := lastPlace_mul (k := k) hlo hhi
    have hj := lastPlace_mul (k := j) hlo' hhi'
    rw [lastPlace] at hk hj
    omega
  have hm' : (0 : ℚ) < m := by exact_mod_cast hm
  have hn' : (0 : ℚ) < n := by exact_mod_cast hn
  have hpos : (0 : ℚ) < m * 2 ^ k / (n * 2 ^ j) :=
    div_pos (mul_pos hm' (two_zpow_pos k)) (mul_pos hn' (two_zpow_pos j))
  have htarget : min (k - j)
      (Format.binary64.targetExponent (totalExponent m k - totalExponent n j)) = k - j - 53 := by
    rw [targetExponent_binary64, totalExponent, totalExponent, log2_eq_of_bounds hlo hhi,
      log2_eq_of_bounds hlo' hhi']
    omega
  have hshift : (k - j - (k - j - 53)).toNat = 53 := by omega
  unfold UnpackedFloat.div divCore
  dsimp only
  rw [htarget, hshift, Nat.shiftLeft_eq]
  refine isNormal_roundWithAccuracy ?_ ?_ hpos hrange
  · rw [Nat.le_div_iff_mul_le hn]
    calc 2 ^ 52 * n ≤ 2 ^ 52 * 2 ^ 53 := Nat.mul_le_mul_left _ hhi'.le
      _ ≤ m * 2 ^ 53 := Nat.mul_le_mul_right _ hlo
  · have hvalue : (m : ℚ) * 2 ^ k / (n * 2 ^ j) / 2 ^ (k - j - 53) = (m * 2 ^ 53 : ℕ) / n := by
      have hsplit : (2 : ℚ) ^ k = 2 ^ (k - j - 53) * 2 ^ j * 2 ^ 53 := by
        rw [← two_zpow_add, ← zpow_natCast, ← two_zpow_add]
        congr 1
        push_cast
        ring
      have hpow := (two_zpow_pos (k - j - 53)).ne'
      have hj := (two_zpow_pos j).ne'
      rw [hsplit]
      push_cast
      field_simp
      norm_num
    rw [hvalue]
    exact approximates_fraction hn

/-- The conversion to an integer drops the fraction. -/
theorem IsNormal.toInt {f : UnpackedFloat} (h : IsNormal f x) (lo hi : ℤ) :
    f.toInt lo hi = ⌊x⌋ := by
  obtain ⟨m, k, hm, rfl, -, -, -, -, rfl⟩ := h
  show UnpackedFloat.roundToInt .positive m k = _
  obtain ⟨a, ha⟩ : ∃ a, (k - 0).toNat = a := ⟨_, rfl⟩
  obtain ⟨b, hb⟩ : ∃ b, (0 - (k - a)).toNat = b := ⟨_, rfl⟩
  have hvalue : (m : ℚ) * 2 ^ k = (m * 2 ^ a : ℕ) / 2 ^ b := by
    have hpow : (2 : ℚ) ^ k = 2 ^ (a : ℤ) / 2 ^ (b : ℤ) := by
      rw [eq_div_iff (two_zpow_pos b).ne', ← two_zpow_add]
      congr 1
      omega
    rw [hpow, zpow_natCast, zpow_natCast, mul_div_assoc']
    push_cast
    rfl
  unfold UnpackedFloat.roundToInt decreaseExponent shiftToExponent
  dsimp only
  rw [ha, hb, Nat.shiftLeft_eq, hvalue, ((approximates_exact _).shiftRight b).floor_eq]
  rfl

/-! ## Doubles -/

/-- The double stands for this positive normal number. -/
def IsDouble (f : Float) (x : ℚ) : Prop := IsNormal f.toModel.unpack x

theorem IsNormal.isDouble {f : UnpackedFloat} (h : IsNormal f x) :
    IsDouble (.ofModel (.pack f)) x := by
  unfold IsDouble
  rw [h.unpack_pack]
  exact h

theorem IsDouble.hasPrecision {f : Float} (h : IsDouble f x) : HasPrecision 52 x :=
  IsNormal.hasPrecision h

theorem IsDouble.value_unique {f : Float} (hx : IsDouble f x) (hy : IsDouble f y) : x = y :=
  IsNormal.value_unique hx hy

theorem IsDouble.mul {f g : Float} (hf : IsDouble f x) (hg : IsDouble g y)
    (hrange : InRange (x * y)) : IsDouble (f * g) (roundTo 52 (x * y)) :=
  (IsNormal.mul hf hg hrange).isDouble

theorem IsDouble.div {f g : Float} (hf : IsDouble f x) (hg : IsDouble g y)
    (hlogs : -1021 ≤ Int.log 2 x - Int.log 2 y) (hrange : InRange (x / y)) :
    IsDouble (f / g) (roundTo 52 (x / y)) :=
  (IsNormal.div hf hg hlogs hrange).isDouble

theorem inRange_natCast {n : ℕ} (hn : 0 < n) (hlt : n < 2 ^ 64) : InRange n := by
  have hlog : Int.log 2 (n : ℚ) = (Nat.log 2 n : ℤ) := Int.log_natCast 2 n
  have hlt' : Nat.log 2 n < 64 := Nat.log_lt_of_lt_pow hn.ne' hlt
  unfold InRange
  rw [hlog]
  omega

theorem isNormal_ofUInt64 {n : UInt64} (hn : 0 < n) :
    IsNormal (UnpackedFloat.ofUInt64 .binary64 n) (roundTo 52 n.toNat) := by
  have hn' : 0 < n.toNat := UInt64.lt_iff_toNat_lt.1 hn
  have hround : UnpackedFloat.ofUInt64 .binary64 n =
      UnpackedFloat.round .binary64 .positive n.toNat 0 := by
    unfold UnpackedFloat.ofUInt64 UnpackedFloat.ofNat UnpackedFloat.ofInt UnpackedFloat.normalize
    rw [compare_gt_iff_gt.2 (by omega : (n.toNat : ℤ) > 0)]
    rfl
  rw [hround]
  exact isNormal_round hn' (inRange_natCast hn' n.toNat_lt)

theorem isDouble_toFloat {n : UInt64} (hn : 0 < n) : IsDouble n.toFloat (roundTo 52 n.toNat) :=
  (isNormal_ofUInt64 hn).isDouble

/-- Integers that are rounded to the same number are converted to the same double. -/
theorem toFloat_eq_iff {m n : UInt64} (hm : 0 < m) (hn : 0 < n) :
    m.toFloat = n.toFloat ↔ roundTo 52 m.toNat = roundTo 52 n.toNat := by
  refine ⟨?_, ?_⟩
  · intro heq
    exact (isDouble_toFloat hm).value_unique (heq ▸ isDouble_toFloat hn)
  · intro heq
    have hsame := isNormal_ofUInt64 hm
    rw [heq] at hsame
    show Float.ofModel (.pack (UnpackedFloat.ofUInt64 .binary64 m)) =
      Float.ofModel (.pack (UnpackedFloat.ofUInt64 .binary64 n))
    rw [hsame.unique (isNormal_ofUInt64 hn)]

theorem IsDouble.toInt32 {f : Float} (h : IsDouble f x) (hlt : x < 2 ^ 31) :
    f.toModel.toInt32.toInt = ⌊x⌋ := by
  have hnonneg : 0 ≤ ⌊x⌋ := Int.floor_nonneg.2 h.hasPrecision.pos.le
  have hfloor : ⌊x⌋ < 2 ^ 31 := Int.floor_lt.2 (by exact_mod_cast hlt)
  show (Int32.ofIntClamp (f.toModel.unpack.toInt _ _)).toInt = ⌊x⌋
  rw [IsNormal.toInt h]
  apply Int32.toInt_ofIntClamp
  · rw [Int32.toInt_minValue]
    omega
  · rw [Int32.toInt_maxValue]
    omega

/-! ## Zero -/

/-- The double is positive zero. -/
def IsZero (f : Float) : Prop := f.toModel.unpack = .zero .positive

theorem unpack_pack_zero :
    (Float.Model.pack (.zero .positive)).unpack = .zero .positive := rfl

theorem isZero_toFloat : IsZero (0 : UInt64).toFloat := unpack_pack_zero

theorem IsZero.div {f g : Float} (hf : IsZero f) (hg : IsDouble g y) : IsZero (f / g) := by
  obtain ⟨m, k, hm, hg, -⟩ := hg
  show (Float.Model.pack (UnpackedFloat.div .binary64 f.toModel.unpack g.toModel.unpack)).unpack = _
  rw [hf, hg]
  exact unpack_pack_zero

theorem IsZero.mul {f g : Float} (hf : IsZero f) (hg : IsDouble g y) : IsZero (f * g) := by
  obtain ⟨m, k, hm, hg, -⟩ := hg
  show (Float.Model.pack (UnpackedFloat.mul .binary64 f.toModel.unpack g.toModel.unpack)).unpack = _
  rw [hf, hg]
  exact unpack_pack_zero

theorem IsZero.toInt32 {f : Float} (hf : IsZero f) : f.toModel.toInt32 = 0 := by
  show Int32.ofIntClamp (f.toModel.unpack.toInt _ _) = 0
  rw [hf]
  rfl

end Binary64
