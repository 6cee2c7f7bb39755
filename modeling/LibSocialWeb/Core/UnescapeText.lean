import LibSocialWeb.Core.Unescape

/-!
# What unescaping makes of a text

While the loop runs, the memory of the string holds the text that has been decoded, the text that is
still to be read up to its NUL, and behind the NUL the bytes that earlier replacements left there
(`UnescapeState.Layout`).

**Main results.** Unescaping inverts escaping, in a single pass (`CText.unescape_inverts_escape`).
-/

namespace LibSocialWeb

open Loop Memory Scan

/-! ## The encoding of a character -/

theorem or_eq_add {x i : ℕ} (a : ℕ) (hx : x < 2 ^ i) : x ||| 2 ^ i * a = x + 2 ^ i * a := by
  rw [Nat.add_comm, Nat.two_pow_add_eq_or_of_lt hx, Nat.or_comm]

/-- A byte behind the first. -/
theorem mod_or (c : ℕ) : c % 64 ||| 0x80 = c % 64 + 0x80 :=
  or_eq_add (i := 7) 1 (by omega)

theorem utf8Tail_one (c : ℕ) : utf8Tail 1 c = [UInt8.ofNat (c % 64 + 0x80)] := by
  rw [utf8Tail, utf8Tail, mod_or, List.nil_append]

theorem utf8Tail_two (c : ℕ) :
    utf8Tail 2 c = [UInt8.ofNat (c / 64 % 64 + 0x80), UInt8.ofNat (c % 64 + 0x80)] := by
  rw [utf8Tail, utf8Tail_one, mod_or]
  rfl

theorem utf8Tail_three (c : ℕ) :
    utf8Tail 3 c = [UInt8.ofNat (c / 4096 % 64 + 0x80), UInt8.ofNat (c / 64 % 64 + 0x80),
      UInt8.ofNat (c % 64 + 0x80)] := by
  rw [utf8Tail, utf8Tail_two, mod_or, Nat.div_div_eq_div_mul]
  rfl

/-- For a character, `g_unichar_to_utf8` gives its UTF-8 encoding. -/
theorem gUnicharToUtf8_toNat (c : Char) : gUnicharToUtf8 c.toNat = String.utf8EncodeChar c := by
  have hc : c.toNat < 0x110000 := by
    have hvalid := c.valid
    unfold UInt32.isValidChar Nat.isValidChar at hvalid
    change c.val.toNat < _
    omega
  have hval : c.val.toNat = c.toNat := rfl
  unfold gUnicharToUtf8 utf8Head String.utf8EncodeChar
  rw [hval]
  generalize c.toNat = v at hc
  dsimp only
  by_cases h1 : v < 0x80
  · rw [if_pos h1, if_pos (by omega)]
    change [UInt8.ofNat (v / 64 ^ 0 ||| 0)] = _
    rw [Nat.pow_zero, Nat.div_one, Nat.or_zero]
  by_cases h2 : v < 0x800
  · have hfirst : v / 64 ||| 0xc0 = v / 64 % 32 + 0xc0 := by
      rw [Nat.mod_eq_of_lt (by omega)]
      exact or_eq_add (i := 6) 3 (by omega)
    rw [if_neg h1, if_pos h2, if_neg (by omega), if_pos (by omega)]
    change UInt8.ofNat (v / 64 ||| 0xc0) :: utf8Tail 1 v = _
    rw [hfirst, utf8Tail_one]
  by_cases h3 : v < 0x10000
  · have hfirst : v / 4096 ||| 0xe0 = v / 4096 % 16 + 0xe0 := by
      rw [Nat.mod_eq_of_lt (by omega)]
      exact or_eq_add (i := 5) 7 (by omega)
    rw [if_neg h1, if_neg h2, if_pos h3, if_neg (by omega), if_neg (by omega), if_pos (by omega)]
    change UInt8.ofNat (v / 4096 ||| 0xe0) :: utf8Tail 2 v = _
    rw [hfirst, utf8Tail_two]
  · have hfirst : v / 262144 ||| 0xf0 = v / 262144 % 8 + 0xf0 := by
      rw [Nat.mod_eq_of_lt (by omega)]
      exact or_eq_add (i := 4) 15 (by omega)
    rw [if_neg h1, if_neg h2, if_neg h3, if_pos (by omega), if_neg (by omega),
      if_neg (by omega), if_neg (by omega)]
    change UInt8.ofNat (v / 262144 ||| 0xf0) :: utf8Tail 3 v = _
    rw [hfirst, utf8Tail_three]

theorem ofNat_ne {n : ℕ} (hn : n < 256) (hnul : n ≠ 0) (hamp : n ≠ 38) :
    UInt8.ofNat n ≠ 0 ∧ UInt8.ofNat n ≠ 38 := by
  have htoNat : (UInt8.ofNat n).toNat = n := UInt8.toNat_ofNat_of_lt' hn
  refine ⟨fun h => hnul ?_, fun h => hamp ?_⟩
  · rw [← htoNat, h]
    rfl
  · rw [← htoNat, h]
    rfl

/-- No byte of a character other than NUL and `&` is one of these. -/
theorem mem_utf8EncodeChar {c : Char} (hnul : c ≠ '\x00') (hamp : c ≠ '&') {b : UInt8}
    (hb : b ∈ String.utf8EncodeChar c) : b ≠ 0 ∧ b ≠ 38 := by
  have hnul' : c.val.toNat ≠ 0 := fun h => hnul (Char.ext (UInt32.toNat_inj.1 h))
  have hamp' : c.val.toNat ≠ 38 := fun h => hamp (Char.ext (UInt32.toNat_inj.1 h))
  unfold String.utf8EncodeChar at hb
  dsimp only at hb
  split_ifs at hb <;> simp only [List.mem_cons, List.not_mem_nil, or_false] at hb
  · subst hb
    exact ofNat_ne (by omega) hnul' hamp'
  · rcases hb with rfl | rfl <;> exact ofNat_ne (by omega) (by omega) (by omega)
  · rcases hb with rfl | rfl | rfl <;> exact ofNat_ne (by omega) (by omega) (by omega)
  · rcases hb with rfl | rfl | rfl | rfl <;> exact ofNat_ne (by omega) (by omega) (by omega)

/-! ## The layout of the memory -/

theorem bucketOf_append_nul (rest stale : List UInt8) :
    bucketOf (rest ++ 0 :: stale) = bucketOf rest := by
  unfold bucketOf
  congr 1
  induction rest with
  | nil => rfl
  | cons b rest ih =>
    rw [List.cons_append, List.takeWhile_cons, List.takeWhile_cons, ih]

/-- The bucket of a reference that is closed. -/
theorem bucketOf_closed {bucket rest : List UInt8} (hlength : bucket.length ≤ 9)
    (hbucket : ∀ b ∈ bucket, b ≠ 59 ∧ b ≠ 0) : bucketOf (bucket ++ 59 :: rest) = bucket := by
  unfold bucketOf
  rw [List.takeWhile_append_of_pos fun b hb => decide_eq_true (hbucket b hb),
    List.takeWhile_cons_of_neg (by decide), List.append_nil, List.take_of_length_le hlength]

namespace UnescapeState

/-- The memory holds what has been decoded, what is to be read, a NUL, and stale bytes. -/
structure Layout (length : ℕ) (s : UnescapeState) (done rest stale : List UInt8) : Prop where
  mem : s.mem = done ++ rest ++ 0 :: stale
  size : s.mem.length = length + 1
  position : s.p = done.length
  nulFree : 0 ∉ rest
  noFault : s.outOfBounds = false

variable {length : ℕ} {s t : UnescapeState} {done rest stale : List UInt8}

theorem Layout.start (s : CText) : Layout s.bytes.length (start s.bytes) [] s.bytes [] :=
  ⟨rfl, by simp [UnescapeState.start], rfl, s.nulFree, rfl⟩

theorem Layout.drop (hs : Layout length s done rest stale) :
    s.mem.drop s.p = rest ++ 0 :: stale := by
  rw [hs.mem, hs.position, List.append_assoc, List.drop_left]

theorem Layout.getElem? (hs : Layout length s done rest stale) :
    s.mem[s.p]? = (rest ++ 0 :: stale).head? := by
  rw [← hs.drop, List.head?_drop]

/-- At the end of the text, the string is what has been decoded. -/
theorem Layout.turn_nil (hs : Layout length s done [] stale) : turn length s = none :=
  turn_nul hs.getElem?

theorem Layout.cString_mem (hs : Layout length s done rest stale) (hdone : 0 ∉ done) :
    cString s.mem = done ++ rest := by
  have hnul : 0 ∉ done ++ rest := by
    rw [List.mem_append]
    exact not_or.2 ⟨hdone, hs.nulFree⟩
  rw [hs.mem, cString_append hnul]
  exact List.append_nil _

section Head

variable {b : UInt8}

theorem Layout.drop_succ (hs : Layout length s done (b :: rest) stale) :
    s.mem.drop (s.p + 1) = rest ++ 0 :: stale := by
  rw [← List.drop_drop, hs.drop]
  rfl

theorem Layout.bucketOf_drop (hs : Layout length s done (b :: rest) stale) :
    bucketOf (s.mem.drop (s.p + 1)) = bucketOf rest := by
  rw [hs.drop_succ, bucketOf_append_nul]

/-- A byte that begins no reference is taken as it is. -/
theorem Layout.skip (hs : Layout length s done (b :: rest) stale)
    (hnone : b = 38 → replacementOf (bucketOf rest) = none) :
    ∃ t, turn length s = some t ∧ Layout length t (done ++ [b]) rest stale := by
  have hb : b ≠ 0 := fun h => hs.nulFree (h ▸ List.mem_cons_self)
  refine ⟨_, turn_skip hs.noFault hs.getElem? hb fun hamp => ⟨?_, ?_⟩, ?_⟩
  · rw [hs.drop_succ]
    simp
  · rw [hs.bucketOf_drop]
    exact hnone hamp
  · exact ⟨by rw [hs.mem]; simp, hs.size, by rw [hs.position]; simp,
      fun h => hs.nulFree (List.mem_cons_of_mem _ h), hs.noFault⟩

end Head

/-- Text without `&` is taken as it is. -/
theorem Layout.skip_all {text : List UInt8} (hs : Layout length s done (text ++ rest) stale)
    (htext : 38 ∉ text) :
    ∃ t, Passes (turn length) s t ∧ Layout length t (done ++ text) rest stale := by
  induction text generalizing s done with
  | nil => exact ⟨s, .refl s, by rw [List.append_nil]; exact hs⟩
  | cons b text ih =>
    have hb : b ≠ 38 := fun h => htext (h ▸ List.mem_cons_self)
    obtain ⟨t, hturn, ht⟩ := Layout.skip hs fun h => absurd h hb
    obtain ⟨u, hpasses, hu⟩ := ih ht fun h => htext (List.mem_cons_of_mem _ h)
    refine ⟨u, .turn hturn hpasses, ?_⟩
    rw [List.append_assoc] at hu
    exact hu

section Reference

variable {bucket : List UInt8} {x : UInt8} {c : ℕ}

/-- The turn that decodes a reference which ends within the text. -/
theorem Layout.turn_decode (hs : Layout length s done (38 :: (bucket ++ x :: rest)) stale)
    (hbucket : bucketOf (bucket ++ x :: rest) = bucket) (hc : replacementOf bucket = some c) :
    turn length s = some (s.decode length bucket.length c) := by
  have hdecodes : s.DecodesTo c := by
    refine ⟨hs.getElem?, ?_⟩
    rw [hs.bucketOf_drop, hbucket]
    exact hc
  have hmem : 0 ∈ s.mem.drop (s.p + 1) := by
    rw [hs.drop_succ]
    simp
  rw [UnescapeState.turn_decode length hs.noFault hmem hdecodes, hs.bucketOf_drop, hbucket]

/-- A reference that is at least as long as its UTF-8 bytes is replaced. -/
theorem Layout.decode (hs : Layout length s done (38 :: (bucket ++ x :: rest)) stale)
    (hfits : length + 1 < 2 ^ 64) (hbucket : bucketOf (bucket ++ x :: rest) = bucket)
    (hc : replacementOf bucket = some c) (hwidth : (gUnicharToUtf8 c).length ≤ bucket.length + 2) :
    ∃ t stale', turn length s = some t ∧
      Layout length t (done ++ gUnicharToUtf8 c) rest stale' := by
  have hmem : s.mem = done ++ (38 :: bucket ++ [x]) ++ (rest ++ 0 :: stale) := by
    rw [hs.mem]
    simp
  have href : (38 :: bucket ++ [x]).length = bucket.length + 2 := by simp
  have hsize := hs.size
  have hturn := hs.turn_decode hbucket hc
  rw [hmem] at hsize
  rw [UnescapeState.decode, hs.position, hmem,
    replaceReference_narrow hsize hfits href (by omega)] at hturn
  refine ⟨_, stale ++ ((38 :: bucket ++ [x]).drop (gUnicharToUtf8 c).length ++
    (rest ++ 0 :: stale)).drop (rest ++ 0 :: stale).length, hturn, ?_, ?_, ?_, ?_, hs.noFault⟩
  · simp
  · simp only [List.length_append, List.length_drop, href] at hsize ⊢
    omega
  · exact List.length_append.symm
  · intro h
    exact hs.nulFree (by simp [h])

end Reference

end UnescapeState

/-! ## References -/

/-- What stands between `&` and `;` in a reference to a code point. -/
inductive ReferenceTo : List UInt8 → ℕ → Prop
  /-- `quot` -/
  | quot : ReferenceTo [113, 117, 111, 116] 0x22
  /-- `amp` -/
  | amp : ReferenceTo [97, 109, 112] 0x26
  /-- `apos` -/
  | apos : ReferenceTo [97, 112, 111, 115] 0x27
  /-- `lt` -/
  | lt : ReferenceTo [108, 116] 0x3c
  /-- `gt` -/
  | gt : ReferenceTo [103, 116] 0x3e
  /-- `#` and decimal digits -/
  | decimal {digits : List UInt8} : digits ≠ [] → (∀ b ∈ digits, isDigit 10 b = true) →
      ReferenceTo (35 :: digits) (number 10 digits)
  /-- `#x` and hexadecimal digits -/
  | hex {digits : List UInt8} : digits ≠ [] → (∀ b ∈ digits, isDigit 16 b = true) →
      ReferenceTo (35 :: 120 :: digits) (number 16 digits)

theorem scanUnsigned_digits {base : ℕ} {digits : List UInt8} (hbase : 0 < base)
    (hne : digits ≠ []) (hdigits : ∀ b ∈ digits, isDigit base b = true)
    (hsmall : base ^ digits.length ≤ 2 ^ 28) : scanUnsigned base digits = number base digits := by
  have hscan : scanInteger base (digits ++ []) = some (number base digits : ℤ) :=
    scanInteger_digits hne hdigits (by simp) (.inr rfl)
  have hlt := number_lt hbase digits
  rw [List.append_nil] at hscan
  rw [scanUnsigned, hscan, Option.getD_some]
  omega

theorem lookup_hash (rest : List UInt8) : namedReferences.lookup (35 :: rest) = none := rfl

/-- A reference that fits into the bucket is understood. -/
theorem ReferenceTo.replacementOf {bucket : List UInt8} {c : ℕ} (h : ReferenceTo bucket c)
    (hlength : bucket.length ≤ 9) : replacementOf bucket = some c := by
  cases h with
  | quot => rfl
  | amp => rfl
  | apos => rfl
  | lt => rfl
  | gt => rfl
  | @decimal digits hne hdigits =>
    have hx : ¬ ((35 :: digits)[0]? = some 35 ∧ (35 :: digits)[1]? = some 120) := by
      rintro ⟨-, hx⟩
      have hdigit := hdigits 120 (List.mem_of_getElem? hx)
      exact absurd hdigit (by decide)
    have hsmall : 10 ^ digits.length ≤ 2 ^ 28 :=
      (Nat.pow_le_pow_right (by decide) (Nat.le_of_succ_le_succ hlength)).trans (by decide)
    rw [LibSocialWeb.replacementOf, lookup_hash]
    dsimp only
    rw [if_neg hx, if_pos (show (35 :: digits)[0]? = some 35 from rfl)]
    exact congrArg some (scanUnsigned_digits (by decide) hne hdigits hsmall)
  | @hex digits hne hdigits =>
    have hsmall : 16 ^ digits.length ≤ 2 ^ 28 :=
      (Nat.pow_le_pow_right (by decide)
        (Nat.le_of_succ_le_succ (Nat.le_of_succ_le_succ hlength))).trans (by decide)
    rw [LibSocialWeb.replacementOf, lookup_hash]
    dsimp only
    rw [if_pos (show (35 :: 120 :: digits)[0]? = some 35 ∧ (35 :: 120 :: digits)[1]? = some 120
      from ⟨rfl, rfl⟩)]
    exact congrArg some (scanUnsigned_digits (by decide) hne hdigits hsmall)

/-- A reference has neither `;` nor NUL nor `&` nor a minus sign. -/
theorem ReferenceTo.mem {bucket : List UInt8} {c : ℕ} (h : ReferenceTo bucket c) {b : UInt8}
    (hb : b ∈ bucket) : b ≠ 59 ∧ b ≠ 0 ∧ b ≠ 38 ∧ b ≠ 45 := by
  have hnamed : ∀ reference ∈ namedReferences, ∀ b ∈ reference.1,
      b ≠ 59 ∧ b ≠ 0 ∧ b ≠ 38 ∧ b ≠ 45 := by decide +kernel
  have hdigit : ∀ {base : ℕ}, base = 10 ∨ base = 16 → isDigit base b = true →
      b ≠ 59 ∧ b ≠ 0 ∧ b ≠ 38 ∧ b ≠ 45 := by
    rintro base (rfl | rfl) hb <;>
      refine ⟨?_, ?_, ?_, ?_⟩ <;> rintro rfl <;> exact absurd hb (by decide)
  cases h with
  | quot => exact hnamed ([113, 117, 111, 116], 0x22) (by decide) b hb
  | amp => exact hnamed ([97, 109, 112], 0x26) (by decide) b hb
  | apos => exact hnamed ([97, 112, 111, 115], 0x27) (by decide) b hb
  | lt => exact hnamed ([108, 116], 0x3c) (by decide) b hb
  | gt => exact hnamed ([103, 116], 0x3e) (by decide) b hb
  | decimal hne hdigits =>
    rcases List.mem_cons.1 hb with rfl | hb
    · decide
    · exact hdigit (.inl rfl) (hdigits b hb)
  | hex hne hdigits =>
    rcases List.mem_cons.1 hb with rfl | hb
    · decide
    · rcases List.mem_cons.1 hb with rfl | hb
      · decide
      · exact hdigit (.inr rfl) (hdigits b hb)

theorem ReferenceTo.bucketOf {bucket : List UInt8} {c : ℕ} (h : ReferenceTo bucket c)
    (hlength : bucket.length ≤ 9) (rest : List UInt8) :
    bucketOf (bucket ++ 59 :: rest) = bucket :=
  bucketOf_closed hlength fun _ hb => ⟨(h.mem hb).1, (h.mem hb).2.1⟩

/-- A reference is longer than what it stands for. -/
theorem ReferenceTo.width {bucket : List UInt8} {c : ℕ} (h : ReferenceTo bucket c)
    (hlength : bucket.length ≤ 9) : (gUnicharToUtf8 c).length ≤ bucket.length + 1 :=
  (utf8_length_le hlength (h.replacementOf hlength)).resolve_right fun hwide =>
    (h.mem hwide.2.1).2.2.2 rfl

/-! ## Unescaping inverts escaping -/

/-- The ways to write a character: as it is, unless it is `&`, or as a reference of at most nine
characters between `&` and `;`. -/
inductive RendersAs : Char → List UInt8 → Prop
  | literal {c : Char} : c ≠ '&' → RendersAs c (String.utf8EncodeChar c)
  | reference {c : Char} {bucket : List UInt8} : ReferenceTo bucket c.toNat →
      bucket.length ≤ 9 → RendersAs c (38 :: (bucket ++ [59]))

/-- `e` is a text with its characters written in any of these ways. -/
inductive Escapes : List Char → List UInt8 → Prop
  | nil : Escapes [] []
  | cons {c : Char} {text : List Char} {piece e : List UInt8} : RendersAs c piece →
      Escapes text e → Escapes (c :: text) (piece ++ e)

/-- The bytes of a text. -/
def utf8 (text : List Char) : List UInt8 := text.flatMap String.utf8EncodeChar

/-- Escaping with the five named references. -/
def escape (text : List Char) : List Char :=
  text.flatMap fun c =>
    match c with
    | '&' => ['&', 'a', 'm', 'p', ';']
    | '<' => ['&', 'l', 't', ';']
    | '>' => ['&', 'g', 't', ';']
    | '"' => ['&', 'q', 'u', 'o', 't', ';']
    | '\'' => ['&', 'a', 'p', 'o', 's', ';']
    | c => [c]

theorem zero_not_mem_utf8EncodeChar {c : Char} (h : c ≠ '\x00') :
    0 ∉ String.utf8EncodeChar c := by
  by_cases hamp : c = '&'
  · subst hamp
    decide
  · exact fun hmem => (mem_utf8EncodeChar h hamp hmem).1 rfl

theorem zero_not_mem_utf8 {text : List Char} (h : '\x00' ∉ text) : 0 ∉ utf8 text := by
  intro hmem
  obtain ⟨c, hc, hb⟩ := List.mem_flatMap.1 hmem
  exact zero_not_mem_utf8EncodeChar (fun hnul => h (hnul ▸ hc)) hb

theorem rendersAs_of_utf8 {c : Char} {bucket : List UInt8} {piece : List Char}
    (href : ReferenceTo bucket c.toNat) (hlength : bucket.length ≤ 9)
    (hpiece : utf8 piece = 38 :: (bucket ++ [59])) : RendersAs c (utf8 piece) :=
  hpiece ▸ .reference href hlength

theorem nul_not_mem_escape {text : List Char} (h : '\x00' ∉ text) : '\x00' ∉ escape text := by
  intro hmem
  obtain ⟨c, hc, hnul⟩ := List.mem_flatMap.1 hmem
  split at hnul
  · exact absurd hnul (by decide)
  · exact absurd hnul (by decide)
  · exact absurd hnul (by decide)
  · exact absurd hnul (by decide)
  · exact absurd hnul (by decide)
  · exact h (List.mem_singleton.1 hnul ▸ hc)

namespace UnescapeState

variable {length : ℕ} {s : UnescapeState} {done rest stale : List UInt8}

/-- One character is read, in whichever way it is written. -/
theorem Layout.read (hfits : length + 1 < 2 ^ 64) {c : Char} {piece : List UInt8}
    (hpiece : RendersAs c piece) (hc : c ≠ '\x00')
    (hs : Layout length s done (piece ++ rest) stale) :
    ∃ t stale', Passes (turn length) s t ∧
      Layout length t (done ++ String.utf8EncodeChar c) rest stale' := by
  cases hpiece with
  | literal hamp =>
    obtain ⟨t, hpasses, ht⟩ := hs.skip_all fun h => (mem_utf8EncodeChar hc hamp h).2 rfl
    exact ⟨t, stale, hpasses, ht⟩
  | @reference bucket href hlength =>
    rw [List.cons_append, List.append_assoc] at hs
    obtain ⟨t, stale', hturn, ht⟩ := Layout.decode hs hfits (href.bucketOf hlength rest)
      (href.replacementOf hlength) ((href.width hlength).trans (Nat.le_succ _))
    rw [gUnicharToUtf8_toNat] at ht
    exact ⟨t, stale', .turn hturn (.refl t), ht⟩

/-- **The run.** A text that is read in pieces is decoded piece by piece. -/
theorem Layout.read_all (hfits : length + 1 < 2 ^ 64) {text : List Char} {e : List UInt8}
    (h : Escapes text e) (htext : '\x00' ∉ text) (hs : Layout length s done e stale) :
    ∃ t stale', Passes (turn length) s t ∧ Layout length t (done ++ utf8 text) [] stale' := by
  induction h generalizing s done stale with
  | nil => exact ⟨s, stale, .refl s, by rw [utf8, List.flatMap_nil, List.append_nil]; exact hs⟩
  | @cons c text piece e hpiece _ ih =>
    rw [List.mem_cons, not_or] at htext
    obtain ⟨t, stale', hpasses, ht⟩ := Layout.read hfits hpiece (Ne.symm htext.1) hs
    obtain ⟨u, stale'', hpasses', hu⟩ := ih htext.2 ht
    refine ⟨u, stale'', hpasses.trans hpasses', ?_⟩
    rw [List.append_assoc] at hu
    exact hu

end UnescapeState

theorem CText.unescapes_of_escapes {text : List Char} {s : CText} (htext : '\x00' ∉ text)
    (h : Escapes text s.bytes) : s.Unescapes (utf8 text) := by
  obtain ⟨t, stale, hpasses, ht⟩ :=
    UnescapeState.Layout.read_all s.fits h htext (UnescapeState.Layout.start s)
  refine ⟨t, endsIn_iff_passes.2 ⟨hpasses, ht.turn_nil⟩, ht.noFault, ?_⟩
  rw [ht.cString_mem (zero_not_mem_utf8 htext), List.append_nil, List.nil_append]

theorem escapes_escape (text : List Char) : Escapes text (utf8 (escape text)) := by
  induction text with
  | nil => exact .nil
  | cons c text ih =>
    have hsplit : ∀ piece : List Char, utf8 (piece ++ escape text) =
        utf8 piece ++ utf8 (escape text) := fun piece => List.flatMap_append
    rw [escape, List.flatMap_cons, ← escape, hsplit]
    refine .cons ?_ ih
    split
    · exact rendersAs_of_utf8 .amp (by decide) (by decide)
    · exact rendersAs_of_utf8 .lt (by decide) (by decide)
    · exact rendersAs_of_utf8 .gt (by decide) (by decide)
    · exact rendersAs_of_utf8 .quot (by decide) (by decide)
    · exact rendersAs_of_utf8 .apos (by decide) (by decide)
    · rename_i hamp _ _ _ _
      rw [utf8, List.flatMap_singleton]
      exact .literal hamp

/-- **A single pass.** Unescaping inverts escaping, in whichever way the characters were escaped.
What a reference stands for is not decoded again, so a text that was escaped twice is unescaped
once. -/
theorem CText.unescape_inverts_escape (text : List Char) (htext : '\x00' ∉ text) (s : CText) :
    (Escapes text s.bytes → s.Unescapes (utf8 text)) ∧
      (s.bytes = utf8 (escape (escape text)) → s.Unescapes (utf8 (escape text))) := by
  refine ⟨unescapes_of_escapes htext, fun hs => ?_⟩
  refine unescapes_of_escapes (nul_not_mem_escape htext) ?_
  rw [hs]
  exact escapes_escape _

/-- `a&lt;&#x26;` is `a<&`, and `&amp;lt;` is `&lt;`. -/
theorem CText.unescape_inverts_escape_samples :
    (⟨[97, 38, 108, 116, 59, 38, 35, 120, 50, 54, 59], by decide, by decide⟩ : CText).Unescapes
        (utf8 ['a', '<', '&']) ∧
      (⟨[38, 97, 109, 112, 59, 108, 116, 59], by decide, by decide⟩ : CText).Unescapes
        (utf8 (escape ['<'])) := by
  have hand : ReferenceTo (35 :: 120 :: [50, 54]) (number 16 [50, 54]) :=
    .hex (by decide) (by decide +kernel)
  have hescapes : Escapes ['a', '<', '&'] (String.utf8EncodeChar 'a' ++
      (38 :: ([108, 116] ++ [59]) ++ (38 :: ([35, 120, 50, 54] ++ [59]) ++ []))) :=
    .cons (.literal (by decide)) (.cons (.reference .lt (by decide))
      (.cons (.reference hand (by decide)) .nil))
  exact ⟨(unescape_inverts_escape ['a', '<', '&'] (by decide) _).1 hescapes,
    (unescape_inverts_escape ['<'] (by decide) _).2 (by decide)⟩

end LibSocialWeb
