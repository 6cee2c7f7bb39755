import LibSocialWeb.Lib.Numerals
import LibSocialWeb.Rest.Calls
import Mathlib.Data.List.TakeWhile

/-!
# Permalinks of Plurk (`services/plurk/plurk-item-view.c`)

The link of a plurk ends with the id of the plurk in base 36. `base36_encode` reads the id from a
decimal string and puts one digit after the other in front of the text.

**Main result.** `base36Encode_exact`: for a decimal string of a number between 0 and `2 ^ 63` the
text is the base 36 numeral of the number, so that plurks with different ids have different links.
-/

namespace LibSocialWeb

namespace Plurk

/-! ## The encoder -/

/-- The character for a digit; `quotient` is what the source calls the remainder. -/
def digitChar (quotient : ℕ) : Char :=
  if quotient < 10 then Char.ofNat ('0'.toNat + quotient)
  else Char.ofNat ('a'.toNat + quotient - 10)

/-- The loop; `encoded` is NULL until there is a digit. -/
def encodeLoop (dividend : ℤ) (encoded : Option String) : Option String :=
  if 0 < dividend then
    let quotient := dividend.tmod 36
    let c := digitChar quotient.toNat
    encodeLoop (dividend.tdiv 36)
      (match encoded with
        | some encoded => some (String.singleton c ++ encoded)
        | none => some (String.singleton c))
  else encoded
termination_by dividend.toNat
decreasing_by
  rw [Int.tdiv_eq_ediv_of_nonneg (by omega)]
  omega

/-- `base36_encode` -/
def base36Encode (source : String) : Option String := encodeLoop (gAsciiStrtoll source) none

/-- The link that `make_item` makes of the id of a plurk; `g_strconcat` ends at NULL. -/
def plurkUrl (plurkId : ℤ) : String :=
  "http://www.plurk.com/p/" ++ (base36Encode (toString plurkId)).getD ""

/-! ## What should be returned -/

/-- `0-9a-z` -/
def IsBase36Digit (c : Char) : Prop := '0' ≤ c ∧ c ≤ '9' ∨ 'a' ≤ c ∧ c ≤ 'z'

/-- What a digit stands for. -/
def digitValue (c : Char) : ℕ :=
  if c ≤ '9' then c.toNat - '0'.toNat else c.toNat - 'a'.toNat + 10

instance (c : Char) : Decidable (IsBase36Digit c) := inferInstanceAs (Decidable (_ ∨ _))

/-- The number that a text stands for in base 36. -/
def base36Value (s : String) : ℕ := s.toList.foldl (fun n c => n * 36 + digitValue c) 0

/-- The text is a numeral of `n` in base 36, without a zero in front. -/
structure IsBase36 (s : String) (n : ℕ) : Prop where
  digits : ∀ c ∈ s.toList, IsBase36Digit c
  head : s.toList.head? ≠ some '0'
  value : base36Value s = n

/-- A decimal string: digits, behind a plus sign or none. -/
def IsDecimal (source : String) (n : ℕ) : Prop :=
  ∃ digits : List Char, (source.toList = digits ∨ source.toList = '+' :: digits) ∧ digits ≠ [] ∧
    (∀ c ∈ digits, c.isDigit = true) ∧ Nat.ofDigitChars 10 digits 0 = n

/-! ## Digits -/

/-- The digits of base 36. -/
def base36 : Alphabet Char where
  base := 36
  one_lt_base := by decide
  letter := digitChar
  digit := digitValue
  digit_letter := by decide

theorem isBase36Digit_iff {c : Char} : IsBase36Digit c ↔ base36.IsLetter c := by
  refine ⟨fun h => ?_, ?_⟩
  · have hchar : c = Char.ofNat c.toNat := (Char.ofNat_toNat c).symm
    rcases h with ⟨hlo, hhi⟩ | ⟨hlo, hhi⟩
    · have hlo : 48 ≤ c.toNat := hlo
      have hhi : c.toNat ≤ 57 := hhi
      refine ⟨c.toNat - 48, ?_, ?_⟩
      · show c.toNat - 48 < 36
        omega
      · show c = digitChar (c.toNat - 48)
        have hsum : '0'.toNat + (c.toNat - 48) = c.toNat := Nat.add_sub_cancel' hlo
        rw [digitChar, if_pos (by omega), hsum]
        exact hchar
    · have hlo : 97 ≤ c.toNat := hlo
      have hhi : c.toNat ≤ 122 := hhi
      refine ⟨c.toNat - 87, ?_, ?_⟩
      · show c.toNat - 87 < 36
        omega
      · show c = digitChar (c.toNat - 87)
        have hsum : 'a'.toNat + (c.toNat - 87) - 10 = c.toNat := by
          show 97 + (c.toNat - 87) - 10 = c.toNat
          omega
        rw [digitChar, if_neg (by omega), hsum]
        exact hchar
  · rintro ⟨d, hd, rfl⟩
    have hall : ∀ d < 36, '0' ≤ digitChar d ∧ digitChar d ≤ '9' ∨
        'a' ≤ digitChar d ∧ digitChar d ≤ 'z' := by decide
    exact hall d hd

theorem isBase36_iff {s : String} {n : ℕ} :
    IsBase36 s n ↔ s = String.ofList (base36.numeral n) := by
  have hvalue : base36Value s = base36.value s.toList := (base36.value_eq_foldl _).symm
  have hnumeral : IsBase36 s n ↔ base36.IsNumeral s.toList n := by
    refine ⟨fun h => ⟨?_, h.head, hvalue ▸ h.value⟩, fun h => ⟨?_, h.head, hvalue ▸ h.value⟩⟩
    · exact fun c hc => isBase36Digit_iff.1 (h.digits c hc)
    · exact fun c hc => isBase36Digit_iff.2 (h.letters c hc)
  rw [hnumeral, Alphabet.isNumeral_iff, ← String.toList_inj, String.toList_ofList]

/-! ## The loop -/

/-- A turn of the loop. -/
theorem encodeLoop_of_pos {n : ℕ} (h : 0 < n) (encoded : Option String) :
    encodeLoop n encoded = encodeLoop (n / 36 : ℕ)
      (some (String.singleton (digitChar (n % 36)) ++ encoded.getD "")) := by
  have hquotient : ((n : ℤ).tmod 36).toNat = n % 36 := by
    rw [Int.tmod_eq_emod_of_nonneg (by omega)]
    omega
  have hdividend : (n : ℤ).tdiv 36 = (n / 36 : ℕ) := by
    rw [Int.tdiv_eq_ediv_of_nonneg (by omega)]
    omega
  rw [encodeLoop, if_pos (by omega)]
  dsimp only
  rw [hquotient, hdividend]
  cases encoded with
  | none => rw [Option.getD_none, String.append_empty]
  | some encoded => rw [Option.getD_some]

/-- The digits of what is left of the number come in front of those that are there. -/
theorem encodeLoop_some (n : ℕ) (encoded : String) :
    encodeLoop n (some encoded) = some (String.ofList (base36.numeral n) ++ encoded) := by
  induction n using Nat.strong_induction_on generalizing encoded with
  | _ n ih =>
    rcases Nat.eq_zero_or_pos n with rfl | hpos
    · rw [encodeLoop, if_neg (by decide), Alphabet.numeral_zero, String.ofList_nil,
        String.empty_append]
    · have hnumeral : base36.numeral n = base36.numeral (n / 36) ++ [digitChar (n % 36)] :=
        base36.numeral_of_pos hpos
      rw [encodeLoop_of_pos hpos, Option.getD_some, ih _ (Nat.div_lt_self hpos (by decide)),
        hnumeral, String.ofList_append, String.append_assoc]
      rfl

theorem encodeLoop_none {n : ℕ} (h : 0 < n) :
    encodeLoop n none = some (String.ofList (base36.numeral n)) := by
  have hnumeral : base36.numeral n = base36.numeral (n / 36) ++ [digitChar (n % 36)] :=
    base36.numeral_of_pos h
  rw [encodeLoop_of_pos h, Option.getD_none, String.append_empty, encodeLoop_some, hnumeral,
    String.ofList_append]
  rfl

/-! ## The number -/

/-- A digit is no blank and no sign. -/
theorem not_blank_of_isDigit {c : Char} (h : c.isDigit = true) :
    ¬ (c.toNat ∈ [9, 10, 11, 12, 13, 32]) ∧ c ≠ '-' ∧ c ≠ '+' := by
  have hlo : 48 ≤ c.toNat := (Char.isDigit_iff_toNat.1 h).1
  refine ⟨?_, ?_, ?_⟩
  · simp only [List.mem_cons, List.not_mem_nil, or_false]
    omega
  · rintro rfl
    cases h
  · rintro rfl
    cases h

/-- Digits that are a number of 63 bits are not cut off. -/
theorem value_of_digits {digits : List Char} (h : ∀ c ∈ digits, c.isDigit = true)
    (hlt : Nat.ofDigitChars 10 digits 0 < 2 ^ 63) :
    min (((digits.takeWhile Char.isDigit).foldl (fun n c => 10 * n + (c.toNat - '0'.toNat)) 0 : ℕ) :
      ℤ) Int64.maxValue.toInt = Nat.ofDigitChars 10 digits 0 := by
  have hmax : Int64.maxValue.toInt = 2 ^ 63 - 1 := by decide
  rw [List.takeWhile_eq_self_iff.2 h, ← Nat.ofDigitChars_eq_foldl, hmax]
  omega

theorem gAsciiStrtoll_of_isDecimal {source : String} {n : ℕ} (h : IsDecimal source n)
    (hn : n < 2 ^ 63) : gAsciiStrtoll source = n := by
  obtain ⟨digits, hsource, hne, hdigits, rfl⟩ := h
  obtain ⟨d, ds, rfl⟩ := List.exists_cons_of_ne_nil hne
  obtain ⟨hblank, hminus, hplus⟩ := not_blank_of_isDigit (hdigits d List.mem_cons_self)
  unfold gAsciiStrtoll
  rcases hsource with hsource | hsource
  · rw [hsource, List.dropWhile_cons_of_neg (by simpa using hblank)]
    dsimp only
    split
    · rename_i heq
      exact absurd (List.cons.inj heq).1 hminus
    · rename_i heq
      exact absurd (List.cons.inj heq).1 hplus
    · exact value_of_digits hdigits hn
  · rw [hsource, List.dropWhile_cons_of_neg (by decide)]
    exact value_of_digits hdigits hn

/-- A number is printed as a decimal string. -/
theorem isDecimal_toString (n : ℕ) : IsDecimal (toString (n : ℤ)) n := by
  have hprinted : (toString (n : ℤ)).toList = Nat.toDigits 10 n := Nat.toList_repr
  refine ⟨Nat.toDigits 10 n, Or.inl hprinted, Nat.toDigits_ne_nil, ?_,
    Nat.ofDigitChars_ten_toDigits⟩
  intro c hc
  exact Nat.isDigit_of_mem_toDigits (by decide) (by decide) hc

/-! ## The main result -/

theorem base36Encode_eq {source : String} {n : ℕ} (h : IsDecimal source n) (hpos : 0 < n)
    (hn : n < 2 ^ 63) : base36Encode source = some (String.ofList (base36.numeral n)) := by
  rw [base36Encode, gAsciiStrtoll_of_isDecimal h hn]
  exact encodeLoop_none hpos

theorem plurkUrl_eq {n : ℕ} (hpos : 0 < n) (hn : n < 2 ^ 63) :
    plurkUrl n = "http://www.plurk.com/p/" ++ String.ofList (base36.numeral n) := by
  have hencoded : base36Encode (toString (n : ℤ)) = some (String.ofList (base36.numeral n)) :=
    base36Encode_eq (isDecimal_toString n) hpos hn
  unfold plurkUrl
  rw [hencoded]
  rfl

/-- Ids are read from their links. -/
theorem plurkUrl_inj {m n : ℕ} (hm : 0 < m) (hm' : m < 2 ^ 63) (hn : 0 < n) (hn' : n < 2 ^ 63)
    (h : plurkUrl m = plurkUrl n) : m = n := by
  rw [plurkUrl_eq hm hm', plurkUrl_eq hn hn', String.append_right_inj] at h
  exact base36.numeral_injective (String.ofList_injective h)

/-- **The encoder returns the base 36 numeral**, and no other text is one. Plurks with different ids
have different links. -/
theorem base36Encode_exact :
    (∀ source n, IsDecimal source n → 0 < n → n < 2 ^ 63 →
      ∃ encoded, base36Encode source = some encoded ∧ IsBase36 encoded n ∧
        ∀ other, IsBase36 other n → other = encoded) ∧
    ∀ plurkId plurkId' : ℤ, 0 < plurkId → plurkId < 2 ^ 63 → 0 < plurkId' → plurkId' < 2 ^ 63 →
      plurkId ≠ plurkId' → plurkUrl plurkId ≠ plurkUrl plurkId' := by
  refine ⟨?_, ?_⟩
  · intro source n hdecimal hpos hn
    refine ⟨_, base36Encode_eq hdecimal hpos hn, isBase36_iff.2 rfl, ?_⟩
    exact fun other hother => isBase36_iff.1 hother
  · intro plurkId plurkId' hpos hlt hpos' hlt' hne heq
    lift plurkId to ℕ using hpos.le
    lift plurkId' to ℕ using hpos'.le
    norm_cast at hpos hlt hpos' hlt'
    exact hne (congrArg Nat.cast (plurkUrl_inj hpos hlt hpos' hlt' heq))

/-- The plurk 1295 has the link of the text `zz`. -/
theorem base36Encode_exact_zz : base36Encode "1295" = some "zz" ∧ plurkUrl 35 ≠ plurkUrl 36 := by
  have hdecimal : IsDecimal "1295" 1295 :=
    ⟨['1', '2', '9', '5'], Or.inl rfl, by decide, List.all_eq_true.1 (by decide), by decide⟩
  obtain ⟨encoded, hencoded, -, hunique⟩ :=
    base36Encode_exact.1 "1295" 1295 hdecimal (by decide) (by decide)
  have hdigits : ∀ c ∈ ['z', 'z'], IsBase36Digit c := by
    intro c hc
    obtain rfl : c = 'z' := by simpa using hc
    decide
  have hzz : IsBase36 "zz" 1295 := ⟨hdigits, by decide, by decide⟩
  refine ⟨?_, ?_⟩
  · rw [hencoded, hunique "zz" hzz]
  · exact base36Encode_exact.2 35 36 (by decide) (by decide) (by decide) (by decide) (by decide)

end Plurk

end LibSocialWeb
