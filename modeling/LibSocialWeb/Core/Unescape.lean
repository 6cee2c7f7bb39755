import LibSocialWeb.Lib.Loop
import LibSocialWeb.Lib.Memory
import LibSocialWeb.Lib.Scan
import Mathlib.Tactic.Push

/-!
# Replacing entity references

`sw_unescape_entities` replaces the entity references of a string in the string's own memory. Its
loop is modelled turn by turn, with the memory that the string occupies as a list of bytes. Every
access to that memory and to the bucket is checked, and an access out of bounds is recorded in the
state, which the loop then does not leave any more but by its end.

**Main result.** `CText.unescapesInBounds_iff`: the function stays inside the memory of the string
exactly if, at every reference that it comes to decode, the UTF-8 bytes of the code point end before
the last byte of that memory. Only negative numbers have more bytes than their reference
(`utf8_length_le`), so a text without a minus sign is safe (`CText.unescapesInBounds_of_no_minus`).
-/

namespace LibSocialWeb

open Loop Memory Scan

/-- A string that fits into memory with its NUL. -/
structure CText where
  bytes : List UInt8
  nulFree : 0 ∉ bytes
  fits : bytes.length + 1 < 2 ^ 64

/-! ## The bucket -/

/-- `bucket[bucket_i] = b`, of `gchar bucket[10]` -/
def putBucket (bucket : List UInt8) (b : UInt8) : Option (List UInt8) :=
  if bucket.length < 10 then some (bucket ++ [b]) else none

/-- Collects what follows `&`, up to `;`, the end of the string or the ninth character. `none` is an
access out of bounds, of the string or the bucket. -/
def fillBucket : List UInt8 → List UInt8 → Option (List UInt8)
  | [], _ => none
  | b :: rest, bucket =>
    if b ≠ 59 ∧ b ≠ 0 ∧ bucket.length < 9 then (putBucket bucket b).bind (fillBucket rest)
    else (putBucket bucket 0).map fun _ => bucket

/-- `quot`, `amp`, `apos`, `lt` and `gt` -/
def namedReferences : List (List UInt8 × ℕ) :=
  [([113, 117, 111, 116], 0x22), ([97, 109, 112], 0x26), ([97, 112, 111, 115], 0x27),
    ([108, 116], 0x3c), ([103, 116], 0x3e)]

/-- `sscanf` with `%x` or `%u`, into a `gunichar` that is zero. -/
def scanUnsigned (base : ℕ) (s : List UInt8) : ℕ :=
  ((scanInteger base s).getD 0 % 2 ^ 32).toNat

/-- The code point that a bucket stands for. -/
def replacementOf (bucket : List UInt8) : Option ℕ :=
  match namedReferences.lookup bucket with
  | some c => some c
  | none =>
    if bucket[0]? = some 35 ∧ bucket[1]? = some 120 then some (scanUnsigned 16 (bucket.drop 2))
    else if bucket[0]? = some 35 then some (scanUnsigned 10 (bucket.drop 1))
    else none

/-! ## UTF-8 -/

/-- The length of `g_unichar_to_utf8`'s encoding, and the marker bits of its first byte. -/
def utf8Head (c : ℕ) : ℕ × ℕ :=
  if c < 0x80 then (1, 0)
  else if c < 0x800 then (2, 0xc0)
  else if c < 0x10000 then (3, 0xe0)
  else if c < 0x200000 then (4, 0xf0)
  else if c < 0x4000000 then (5, 0xf8)
  else (6, 0xfc)

/-- The bytes behind the first, six bits in each. -/
def utf8Tail : ℕ → ℕ → List UInt8
  | 0, _ => []
  | n + 1, c => utf8Tail n (c / 64) ++ [UInt8.ofNat (c % 64 ||| 0x80)]

/-- `g_unichar_to_utf8` -/
def gUnicharToUtf8 (c : ℕ) : List UInt8 :=
  let (len, first) := utf8Head c
  UInt8.ofNat (c / 64 ^ (len - 1) ||| first) :: utf8Tail (len - 1) c

/-! ## The loop -/

/-- The memory of the string, and the loop's position in it. -/
structure UnescapeState where
  mem : List UInt8
  p : ℕ
  outOfBounds : Bool
deriving DecidableEq

/-- The difference of two values of type `size_t`. -/
def sizeSub (a b : ℕ) : ℕ := (a + (2 ^ 64 - b % 2 ^ 64)) % 2 ^ 64

/-- Writes the UTF-8 bytes over the reference and moves what follows. `length` is the length that
the string had at the start. -/
def replaceReference (length : ℕ) (mem : List UInt8) (p bucketI : ℕ) (utf8 : List UInt8) :
    Option (List UInt8) :=
  (store mem p utf8).bind fun mem =>
    if utf8.length < bucketI + 2 then
      -- the number of bytes until the end, without the NUL
      let len := sizeSub length (p + bucketI + 2)
      move mem (p + utf8.length) (p + bucketI + 2) ((len + 1) % 2 ^ 64)
    else some mem

namespace UnescapeState

/-- The string before the first turn. -/
def start (bytes : List UInt8) : UnescapeState := ⟨bytes ++ [0], 0, false⟩

/-- The access that could not be made. -/
def fault (s : UnescapeState) : UnescapeState := { s with outOfBounds := true }

/-- Replaces the reference at the position, and goes behind its UTF-8 bytes. -/
def decode (length : ℕ) (s : UnescapeState) (bucketI c : ℕ) : UnescapeState :=
  match replaceReference length s.mem s.p bucketI (gUnicharToUtf8 c) with
  | none => s.fault
  | some mem => { s with mem := mem, p := s.p + (gUnicharToUtf8 c).length }

/-- One turn of the loop. There is none at the end of the string, and none after a fault. -/
def turn (length : ℕ) (s : UnescapeState) : Option UnescapeState :=
  if s.outOfBounds then none
  else
    match s.mem[s.p]? with
    | none => some s.fault
    | some b =>
      if b = 0 then none
      else if b = 38 then
        match fillBucket (s.mem.drop (s.p + 1)) [] with
        | none => some s.fault
        | some bucket =>
          match replacementOf bucket with
          | none => some { s with p := s.p + 1 }
          | some c => some (s.decode length bucket.length c)
      else some { s with p := s.p + 1 }

end UnescapeState

open UnescapeState

/-- `sw_unescape_entities` returns, without a fault, the string `result`. -/
def CText.Unescapes (s : CText) (result : List UInt8) : Prop :=
  ∃ t, EndsIn (turn s.bytes.length) (start s.bytes) t ∧ t.outOfBounds = false ∧
    cString t.mem = result

/-! ## The bucket is a part of the string -/

/-- What the bucket holds in front of these bytes. -/
def bucketOf (rest : List UInt8) : List UInt8 := (rest.takeWhile fun b => b ≠ 59 ∧ b ≠ 0).take 9

theorem bucketOf_length_le (rest : List UInt8) : (bucketOf rest).length ≤ 9 :=
  List.length_take_le _ _

theorem bucketOf_isPrefix (rest : List UInt8) : bucketOf rest <+: rest :=
  (List.take_prefix _ _).trans (List.takeWhile_prefix _)

theorem mem_bucketOf {rest : List UInt8} {b : UInt8} (h : b ∈ bucketOf rest) : b ≠ 59 ∧ b ≠ 0 := by
  simpa using List.mem_takeWhile_imp (List.mem_of_mem_take h)

/-- The bucket ends before the string does. -/
theorem eq_bucketOf_append {rest : List UInt8} (h : 0 ∈ rest) :
    ∃ x after, rest = bucketOf rest ++ x :: after := by
  obtain ⟨after, hafter⟩ := bucketOf_isPrefix rest
  cases after with
  | nil =>
    rw [List.append_nil] at hafter
    rw [← hafter] at h
    exact absurd rfl (mem_bucketOf h).2
  | cons x after => exact ⟨x, after, hafter.symm⟩

/-- Nothing is read behind the NUL, and nothing is written behind the bucket. -/
theorem fillBucket_eq {rest : List UInt8} (h : 0 ∈ rest) :
    fillBucket rest [] = some (bucketOf rest) := by
  have hfill : ∀ (rest bucket : List UInt8), 0 ∈ rest → bucket.length ≤ 9 →
      fillBucket rest bucket =
        some (bucket ++ (rest.takeWhile fun b => b ≠ 59 ∧ b ≠ 0).take (9 - bucket.length)) := by
    intro rest
    induction rest with
    | nil =>
      intro bucket h
      cases h
    | cons b rest ih =>
      intro bucket h hlength
      rw [fillBucket, List.takeWhile_cons]
      by_cases hb : b ≠ 59 ∧ b ≠ 0
      · have hmem : 0 ∈ rest := (List.mem_cons.1 h).resolve_left fun h0 => hb.2 h0.symm
        rw [if_pos (decide_eq_true hb)]
        by_cases hroom : bucket.length < 9
        · obtain ⟨room, hroom'⟩ : ∃ room, 9 - bucket.length = room + 1 :=
            ⟨8 - bucket.length, by omega⟩
          have hput : (bucket ++ [b]).length = bucket.length + 1 := by simp
          rw [if_pos ⟨hb.1, hb.2, hroom⟩, putBucket, if_pos (by omega), Option.bind_some,
            ih _ hmem (by omega), hput, hroom', List.take_succ_cons, List.append_assoc,
            List.singleton_append, show 9 - (bucket.length + 1) = room by omega]
        · rw [if_neg fun hc => hroom hc.2.2, putBucket, if_pos (by omega),
            show 9 - bucket.length = 0 by omega, List.take_zero, List.append_nil]
          rfl
      · rw [if_neg fun hc => hb ⟨hc.1, hc.2.1⟩, if_neg (by simpa using hb), putBucket,
          if_pos (by omega), List.take_nil, List.append_nil]
        rfl
  simpa [bucketOf] using hfill rest [] h (by decide)

/-! ## The number of UTF-8 bytes -/

theorem utf8Tail_length (n c : ℕ) : (utf8Tail n c).length = n := by
  induction n generalizing c with
  | zero => rfl
  | succ n ih => rw [utf8Tail, List.length_append, ih, List.length_singleton]

theorem gUnicharToUtf8_length (c : ℕ) : (gUnicharToUtf8 c).length = (utf8Head c).1 := by
  have hpos : 1 ≤ (utf8Head c).1 := by
    unfold utf8Head
    split_ifs <;> decide
  change (utf8Tail ((utf8Head c).1 - 1) c).length + 1 = (utf8Head c).1
  rw [utf8Tail_length]
  omega

theorem gUnicharToUtf8_length_pos (c : ℕ) : 0 < (gUnicharToUtf8 c).length := Nat.succ_pos _

theorem gUnicharToUtf8_length_le (c : ℕ) : (gUnicharToUtf8 c).length ≤ 6 := by
  rw [gUnicharToUtf8_length]
  unfold utf8Head
  split_ifs <;> decide

theorem gUnicharToUtf8_length_le_two {c : ℕ} (h : c < 0x800) :
    (gUnicharToUtf8 c).length ≤ 2 := by
  rw [gUnicharToUtf8_length]
  unfold utf8Head
  rw [if_pos h]
  split_ifs <;> decide

theorem gUnicharToUtf8_length_ascii {c : ℕ} (h : c < 0x80) : (gUnicharToUtf8 c).length = 1 := by
  rw [gUnicharToUtf8_length]
  unfold utf8Head
  rw [if_pos h]

theorem namedReferences_lt {bucket : List UInt8} {c : ℕ}
    (h : namedReferences.lookup bucket = some c) : c < 0x80 := by
  have hmem : ∀ reference ∈ namedReferences, reference.2 < 0x80 := by decide
  obtain ⟨before, after, heq, -⟩ := List.lookup_eq_some_iff.1 h
  exact hmem (bucket, c) (by rw [heq]; simp)

/-- A reference is named, or its number is scanned behind `#` or `#x`. -/
theorem replacementOf_cases {bucket : List UInt8} {c : ℕ} (h : replacementOf bucket = some c) :
    c < 0x80 ∨ ∃ (base : ℕ) (marks digits : List UInt8), bucket = marks ++ digits ∧
      (marks = [35] ∧ base = 10 ∨ marks = [35, 120] ∧ base = 16) ∧
      c = scanUnsigned base digits := by
  unfold replacementOf at h
  split at h
  · rename_i hnamed
    cases h
    exact .inl (namedReferences_lt hnamed)
  · right
    split_ifs at h with hx hd
    · cases h
      refine ⟨16, [35, 120], bucket.drop 2, ?_, .inr ⟨rfl, rfl⟩, rfl⟩
      match bucket, hx with
      | b :: x :: digits, ⟨hb, hx⟩ =>
        cases hb
        cases hx
        rfl
    · cases h
      refine ⟨10, [35], bucket.drop 1, ?_, .inl ⟨rfl, rfl⟩, rfl⟩
      match bucket, hd with
      | b :: digits, hb =>
        cases hb
        rfl

/-- The number that was scanned is the code point, or it is negative, and the code point is too
large by far. -/
theorem scanUnsigned_cases {base : ℕ} (hbase : 0 < base) {digits : List UInt8}
    (hsmall : base ^ digits.length ≤ 2 ^ 28) :
    scanUnsigned base digits < base ^ digits.length ∨
      0x4000000 ≤ scanUnsigned base digits ∧
        ∃ d rest, (cString digits).dropWhile isSpace = 45 :: d :: rest := by
  unfold scanUnsigned
  cases hscan : scanInteger base digits with
  | none => exact .inl (by simpa using Nat.pow_pos hbase)
  | some n =>
    have hlt := scanInteger_natAbs_lt hbase hscan
    rw [Option.getD_some]
    by_cases hn : n < 0
    · exact .inr ⟨by omega, minus_of_scanInteger hscan hn⟩
    · exact .inl (by omega)

/-- What the two notations of a number allow: few digits, or enough of them for six bytes. -/
theorem digits_cases {base : ℕ} {marks digits : List UInt8}
    (hlength : marks.length + digits.length ≤ 9)
    (hmarks : marks = [35] ∧ base = 10 ∨ marks = [35, 120] ∧ base = 16) :
    0 < base ∧ base ^ digits.length ≤ 2 ^ 28 ∧
      (base ^ digits.length ≤ 0x800 ∧ 1 ≤ marks.length ∨
        6 ≤ marks.length + digits.length + 1) := by
  rcases hmarks with ⟨rfl, rfl⟩ | ⟨rfl, rfl⟩ <;>
    simp only [List.length_cons, List.length_nil] at hlength
  · refine ⟨by decide, (Nat.pow_le_pow_right (by decide)
      (show digits.length ≤ 8 by omega)).trans (by decide), ?_⟩
    by_cases hfew : digits.length ≤ 3
    · exact .inl ⟨(Nat.pow_le_pow_right (by decide) hfew).trans (by decide), by decide⟩
    · exact .inr (by simp only [List.length_cons, List.length_nil]; omega)
  · refine ⟨by decide, (Nat.pow_le_pow_right (by decide)
      (show digits.length ≤ 7 by omega)).trans (by decide), ?_⟩
    by_cases hfew : digits.length ≤ 2
    · exact .inl ⟨(Nat.pow_le_pow_right (by decide) hfew).trans (by decide), by decide⟩
    · exact .inr (by simp only [List.length_cons, List.length_nil]; omega)

/-- **The width of a code point.** The UTF-8 bytes are fewer than the bytes of the reference, unless
the number is negative. -/
theorem utf8_length_le {bucket : List UInt8} {c : ℕ} (hbucket : bucket.length ≤ 9)
    (h : replacementOf bucket = some c) :
    (gUnicharToUtf8 c).length ≤ bucket.length + 1 ∨
      0x4000000 ≤ c ∧ 45 ∈ bucket ∧ 3 ≤ bucket.length ∧
        (bucket.length = 3 → ∃ d, bucket = [35, 45, d]) := by
  obtain hascii | ⟨base, marks, digits, rfl, hmarks, rfl⟩ := replacementOf_cases h
  · exact .inl (by rw [gUnicharToUtf8_length_ascii hascii]; omega)
  rw [List.length_append] at hbucket ⊢
  obtain ⟨hbase, hsmall, hdigits⟩ := digits_cases hbucket hmarks
  obtain hlt | ⟨hle, d, rest, hminus⟩ := scanUnsigned_cases hbase hsmall
  · left
    rcases hdigits with ⟨hfew, hone⟩ | hmany
    · have htwo := gUnicharToUtf8_length_le_two (hlt.trans_le hfew)
      omega
    · exact (gUnicharToUtf8_length_le _).trans hmany
  · right
    have hsub : List.Sublist (45 :: d :: rest) digits :=
      hminus ▸ (List.dropWhile_suffix _).sublist.trans (cString_isPrefix digits).sublist
    have hlength := hsub.length_le
    rw [List.length_cons, List.length_cons] at hlength
    refine ⟨hle, List.mem_append_right _ (hsub.subset (by simp)), ?_, ?_⟩
    · rcases hmarks with ⟨rfl, -⟩ | ⟨rfl, -⟩ <;>
        simp only [List.length_cons, List.length_nil] <;> omega
    · intro hthree
      rcases hmarks with ⟨rfl, -⟩ | ⟨rfl, -⟩ <;>
        simp only [List.length_cons, List.length_nil] at hthree
      · obtain rfl : rest = [] := List.eq_nil_of_length_eq_zero (by omega)
        exact ⟨d, by rw [← hsub.eq_of_length (by simp; omega)]; rfl⟩
      · omega

/-! ## The replacement -/

theorem sizeSub_add_one {a b : ℕ} (ha : a + 1 < 2 ^ 64) (hb : b ≤ a + 1) :
    (sizeSub a b + 1) % 2 ^ 64 = a + 1 - b := by
  unfold sizeSub
  omega

/-- **Replacement.** Fewer bytes than the reference has take its place, and everything behind it is
moved. -/
theorem replaceReference_narrow {length : ℕ} {before ref after utf8 : List UInt8}
    (hmem : (before ++ ref ++ after).length = length + 1) (hfits : length + 1 < 2 ^ 64)
    {bucketI : ℕ} (href : ref.length = bucketI + 2) (hutf8 : utf8.length ≤ ref.length) :
    replaceReference length (before ++ ref ++ after) before.length bucketI utf8 =
      some (before ++ utf8 ++ after ++ (ref.drop utf8.length ++ after).drop after.length) := by
  have hstore : store (before ++ ref ++ after) before.length utf8 =
      some ((before ++ utf8) ++ ref.drop utf8.length ++ after) := by
    have hsplit := List.take_append_drop utf8.length ref
    rw [← hsplit, List.append_assoc, List.append_assoc, ← List.append_assoc before,
      store_append (by rw [List.length_take]; omega), hsplit]
    simp only [List.append_assoc]
  rw [List.length_append, List.length_append] at hmem
  rw [replaceReference, hstore, Option.bind_some]
  split_ifs with hnarrow
  · have hsrc : before.length + bucketI + 2 =
        (before ++ utf8).length + (ref.drop utf8.length).length := by
      rw [List.length_append, List.length_drop]
      omega
    have hlen : (sizeSub length (before.length + bucketI + 2) + 1) % 2 ^ 64 = after.length := by
      rw [sizeSub_add_one hfits (by omega)]
      omega
    dsimp only
    rw [hlen, hsrc, ← List.length_append, move_append]
  · have hdrop : ref.drop utf8.length = [] := List.drop_of_length_le (by omega)
    rw [hdrop, List.append_nil, List.nil_append, List.drop_length, List.append_nil]

/-- Nothing is moved if the UTF-8 bytes are as many as those of the reference, or more. -/
theorem replaceReference_wide {length : ℕ} {mem utf8 : List UInt8} {p bucketI : ℕ}
    (hutf8 : bucketI + 2 ≤ utf8.length) :
    replaceReference length mem p bucketI utf8 = store mem p utf8 := by
  rw [replaceReference]
  cases store mem p utf8 with
  | none => rfl
  | some mem => rw [Option.bind_some, if_neg (Nat.not_lt.2 hutf8)]

theorem store_of_replaceReference {length : ℕ} {mem mem' utf8 : List UInt8} {p bucketI : ℕ}
    (h : replaceReference length mem p bucketI utf8 = some mem') :
    ∃ written, store mem p utf8 = some written ∧
      (mem' = written ∨ ∃ src n, move written (p + utf8.length) src n = some mem') := by
  obtain ⟨written, hstore, hmove⟩ := Option.bind_eq_some_iff.1 h
  refine ⟨written, hstore, ?_⟩
  split_ifs at hmove
  · exact .inr ⟨_, _, hmove⟩
  · cases hmove
    exact .inl rfl

theorem replaceReference_length {length : ℕ} {mem mem' utf8 : List UInt8} {p bucketI : ℕ}
    (h : replaceReference length mem p bucketI utf8 = some mem') :
    mem'.length = mem.length ∧ p + utf8.length ≤ mem.length := by
  obtain ⟨written, hstore, rfl | ⟨src, n, hmove⟩⟩ := store_of_replaceReference h
  · exact ⟨store_length hstore, le_of_store hstore⟩
  · exact ⟨(move_length hmove).trans (store_length hstore), le_of_store hstore⟩

/-- What the loop has passed is never changed again. -/
theorem getElem?_replaceReference {length : ℕ} {mem mem' utf8 : List UInt8} {p bucketI j : ℕ}
    (h : replaceReference length mem p bucketI utf8 = some mem') (hj : j < p) :
    mem'[j]? = mem[j]? := by
  obtain ⟨written, hstore, rfl | ⟨src, n, hmove⟩⟩ := store_of_replaceReference h
  · exact getElem?_store_of_lt hstore hj
  · exact (getElem?_move_of_lt hmove (by omega)).trans (getElem?_store_of_lt hstore hj)

/-! ## Turns -/

namespace UnescapeState

variable {length : ℕ} {s t : UnescapeState}

/-- The loop stands at a reference to `c`. -/
def DecodesTo (s : UnescapeState) (c : ℕ) : Prop :=
  s.mem[s.p]? = some 38 ∧ replacementOf (bucketOf (s.mem.drop (s.p + 1))) = some c

instance (s : UnescapeState) (c : ℕ) : Decidable (s.DecodesTo c) :=
  inferInstanceAs (Decidable (_ ∧ _))

/-- The string ends somewhere in its memory, and the position is not behind it. -/
structure InBuffer (length : ℕ) (s : UnescapeState) : Prop where
  size : s.mem.length = length + 1
  nul : [0] <:+ s.mem
  position : s.p ≤ length
  noFault : s.outOfBounds = false

theorem turn_nul (h : s.mem[s.p]? = some 0) : turn length s = none := by
  unfold turn
  rw [h]
  split_ifs <;> rfl

theorem turn_skip (hfault : s.outOfBounds = false) {b : UInt8} (hb : s.mem[s.p]? = some b)
    (hnul : b ≠ 0) (hnone : b = 38 → 0 ∈ s.mem.drop (s.p + 1) ∧
      replacementOf (bucketOf (s.mem.drop (s.p + 1))) = none) :
    turn length s = some { s with p := s.p + 1 } := by
  unfold turn
  rw [hfault, if_neg Bool.false_ne_true, hb]
  dsimp only
  rw [if_neg hnul]
  split_ifs with hamp
  · obtain ⟨hmem, hreplacement⟩ := hnone hamp
    rw [fillBucket_eq hmem]
    dsimp only
    rw [hreplacement]
  · rfl

theorem turn_decode (length : ℕ) (hfault : s.outOfBounds = false)
    (hmem : 0 ∈ s.mem.drop (s.p + 1)) {c : ℕ} (h : s.DecodesTo c) :
    turn length s = some (s.decode length (bucketOf (s.mem.drop (s.p + 1))).length c) := by
  unfold turn
  rw [hfault, if_neg Bool.false_ne_true, h.1]
  dsimp only
  rw [if_neg (by decide), if_pos rfl, fillBucket_eq hmem]
  dsimp only
  rw [h.2]

theorem turn_fault (h : s.outOfBounds = true) : turn length s = none := by
  unfold turn
  rw [if_pos h]

theorem InBuffer.start (s : CText) : InBuffer s.bytes.length (start s.bytes) :=
  ⟨by simp [UnescapeState.start], List.suffix_append _ _, Nat.zero_le _, rfl⟩

theorem InBuffer.getElem?_last (hs : InBuffer length s) : s.mem[length]? = some 0 := by
  obtain ⟨before, hbefore⟩ := hs.nul
  have hlength := hs.size
  rw [← hbefore, List.length_append, List.length_singleton] at hlength
  rw [← hbefore, List.getElem?_append_right (by omega)]
  obtain rfl : before.length = length := by omega
  rw [Nat.sub_self]
  rfl

/-- Where the loop does not stand at a NUL, the string goes on. -/
theorem InBuffer.zero_mem_drop (hs : InBuffer length s) {b : UInt8} (hb : s.mem[s.p]? = some b)
    (hnul : b ≠ 0) : s.p < length ∧ 0 ∈ s.mem.drop (s.p + 1) := by
  have hp : s.p < length := by
    refine lt_of_le_of_ne hs.position ?_
    intro hp
    rw [hp, hs.getElem?_last] at hb
    cases hb
    exact hnul rfl
  refine ⟨hp, List.mem_of_getElem? (i := length - (s.p + 1)) ?_⟩
  rw [List.getElem?_drop, Nat.add_sub_cancel' hp, hs.getElem?_last]

/-- The memory around a reference. -/
theorem InBuffer.reference (hs : InBuffer length s) (hb : s.mem[s.p]? = some 38) :
    ∃ before x after, before.length = s.p ∧
      s.mem = before ++ (38 :: bucketOf (s.mem.drop (s.p + 1)) ++ [x]) ++ after := by
  obtain ⟨hp, hmem⟩ := hs.zero_mem_drop hb (by decide)
  obtain ⟨x, after, hafter⟩ := eq_bucketOf_append hmem
  have hsize := hs.size
  refine ⟨s.mem.take s.p, x, after, List.length_take_of_le (by omega), ?_⟩
  have hcons : s.mem.drop s.p = 38 :: s.mem.drop (s.p + 1) := by
    obtain ⟨hlt, hget⟩ := List.getElem?_eq_some_iff.1 hb
    rw [List.drop_eq_getElem_cons hlt, hget]
  calc s.mem = s.mem.take s.p ++ s.mem.drop s.p := (List.take_append_drop _ _).symm
    _ = s.mem.take s.p ++ 38 :: (bucketOf (s.mem.drop (s.p + 1)) ++ x :: after) := by
        rw [hcons, ← hafter]
    _ = _ := by simp only [List.append_assoc, List.cons_append, List.nil_append]

/-- **What a turn does**: it finds the end of the string, it skips a byte, or it comes to decode a
reference. -/
theorem InBuffer.turn_cases (hs : InBuffer length s) :
    s.mem[s.p]? = some 0 ∧ turn length s = none ∨
      s.p < length ∧ (∀ c, ¬ s.DecodesTo c) ∧ s.mem[s.p]? ≠ some 0 ∧
        turn length s = some { s with p := s.p + 1 } ∨
      ∃ c, s.DecodesTo c ∧ s.p < length ∧
        turn length s = some (s.decode length (bucketOf (s.mem.drop (s.p + 1))).length c) := by
  obtain ⟨b, hb⟩ : ∃ b, s.mem[s.p]? = some b :=
    ⟨_, List.getElem?_eq_getElem (by rw [hs.size]; exact Nat.lt_succ_of_le hs.position)⟩
  by_cases hnul : b = 0
  · subst hnul
    exact .inl ⟨hb, turn_nul hb⟩
  obtain ⟨hp, hmem⟩ := hs.zero_mem_drop hb hnul
  have hne : s.mem[s.p]? ≠ some 0 := fun h => hnul (Option.some.inj (hb.symm.trans h))
  by_cases hdecodes : ∃ c, s.DecodesTo c
  · obtain ⟨c, hc⟩ := hdecodes
    exact .inr (.inr ⟨c, hc, hp, turn_decode length hs.noFault hmem hc⟩)
  · refine .inr (.inl ⟨hp, not_exists.1 hdecodes, hne, turn_skip hs.noFault hb hnul ?_⟩)
    rintro rfl
    refine ⟨hmem, Option.eq_none_iff_forall_ne_some.2 fun c hc => ?_⟩
    exact hdecodes ⟨c, hb, hc⟩

/-- The NUL at the end of the memory survives every replacement that ends before it. -/
theorem InBuffer.replaceReference (hs : InBuffer length s) (hfits : length + 1 < 2 ^ 64)
    (hb : s.mem[s.p]? = some 38) {utf8 : List UInt8} (hroom : s.p + utf8.length ≤ length) :
    ∃ mem, replaceReference length s.mem s.p (bucketOf (s.mem.drop (s.p + 1))).length utf8 =
      some mem ∧ [0] <:+ mem := by
  obtain ⟨before, x, after, hp, hmem⟩ := hs.reference hb
  have hsize := hs.size
  have hnul := hs.nul
  generalize bucketOf (s.mem.drop (s.p + 1)) = bucket at hmem ⊢
  rw [hmem] at hsize hnul ⊢
  rw [← hp] at hroom ⊢
  have hlength : before.length + (bucket.length + 2) + after.length = length + 1 := by
    rw [← hsize]
    simp
    omega
  -- whatever ends the memory, and is not empty, ends with the NUL
  have hlast : ∀ {mem : List UInt8}, mem <:+ before ++ (38 :: bucket ++ [x]) ++ after →
      mem ≠ [] → [0] <:+ mem := fun hsuffix hne =>
    List.suffix_of_suffix_length_le hnul hsuffix (List.length_pos_iff.2 hne)
  by_cases hwide : bucket.length + 2 ≤ utf8.length
  · rw [replaceReference_wide hwide, store_of_le (by omega)]
    refine ⟨_, rfl, (hlast (List.drop_suffix _ _) ?_).trans (List.suffix_append _ _)⟩
    rw [Ne, List.drop_eq_nil_iff]
    omega
  · have href : (38 :: bucket ++ [x]).length = bucket.length + 2 := by simp
    rw [replaceReference_narrow hsize hfits href (by omega)]
    refine ⟨_, rfl, (hlast ?_ ?_).trans (List.suffix_append _ _)⟩
    · refine (List.drop_suffix _ _).trans ?_
      rw [List.append_assoc before]
      refine List.IsSuffix.trans ?_ (List.suffix_append before _)
      obtain ⟨gap, hgap⟩ := List.drop_suffix utf8.length (38 :: bucket ++ [x])
      refine ⟨gap, ?_⟩
      rw [← List.append_assoc, hgap]
    · rw [Ne, List.drop_eq_nil_iff, List.length_append, List.length_drop, href]
      omega

/-- **A turn that decodes nothing too wide keeps the string in its memory.** -/
theorem InBuffer.turn (hs : InBuffer length s) (hfits : length + 1 < 2 ^ 64)
    (hroom : ∀ c, s.DecodesTo c → s.p + (gUnicharToUtf8 c).length ≤ length)
    (ht : turn length s = some t) : InBuffer length t ∧ s.p < t.p := by
  obtain ⟨-, hturn⟩ | ⟨hp, -, -, hturn⟩ | ⟨c, hc, hp, hturn⟩ := hs.turn_cases
  · rw [hturn] at ht
    cases ht
  · rw [hturn] at ht
    cases ht
    exact ⟨⟨hs.size, hs.nul, hp, hs.noFault⟩, Nat.lt_succ_self _⟩
  · obtain ⟨mem, hreplace, hnul⟩ := hs.replaceReference hfits hc.1 (hroom c hc)
    rw [hturn, decode, hreplace] at ht
    cases ht
    refine ⟨⟨(replaceReference_length hreplace).1.trans hs.size, hnul, hroom c hc, hs.noFault⟩, ?_⟩
    have hpos := gUnicharToUtf8_length_pos c
    exact Nat.lt_add_of_pos_right hpos

/-- **A code point that is too wide ends in a fault**: in the write, or in the next test of the
loop's condition, behind the memory. -/
theorem InBuffer.fault (hs : InBuffer length s) {c : ℕ} (hc : s.DecodesTo c)
    (hwide : length < s.p + (gUnicharToUtf8 c).length) :
    ∃ t, EndsIn (UnescapeState.turn length) s t ∧ t.outOfBounds = true := by
  have hfaulty : ∀ t : UnescapeState, EndsIn (UnescapeState.turn length) t.fault t.fault := fun t =>
    endsIn_of_none (turn_fault rfl)
  have hmem := (hs.zero_mem_drop hc.1 (by decide)).2
  have hturn := turn_decode length hs.noFault hmem hc
  unfold decode at hturn
  cases hreplace : LibSocialWeb.replaceReference length s.mem s.p
    (bucketOf (s.mem.drop (s.p + 1))).length (gUnicharToUtf8 c) with
  | none =>
    rw [hreplace] at hturn
    exact ⟨s.fault, (endsIn_turn hturn).2 (hfaulty s), rfl⟩
  | some mem =>
    rw [hreplace] at hturn
    obtain ⟨hlength, -⟩ := replaceReference_length hreplace
    have hbehind : mem[s.p + (gUnicharToUtf8 c).length]? = none :=
      List.getElem?_eq_none (by rw [hlength, hs.size]; exact hwide)
    let behind : UnescapeState := { s with mem := mem, p := s.p + (gUnicharToUtf8 c).length }
    have hread : UnescapeState.turn length behind = some behind.fault := by
      unfold UnescapeState.turn
      rw [if_neg (by rw [show behind.outOfBounds = false from hs.noFault]; decide),
        show behind.mem[behind.p]? = none from hbehind]
    exact ⟨behind.fault, (endsIn_turn hturn).2 ((endsIn_turn hread).2 (hfaulty behind)), rfl⟩

theorem InBuffer.fault_of_passes (hs : InBuffer length s) (hfits : length + 1 < 2 ^ 64)
    (hpasses : Passes (UnescapeState.turn length) s t) {c : ℕ} (hc : t.DecodesTo c)
    (hwide : length < t.p + (gUnicharToUtf8 c).length) :
    ∃ u, EndsIn (UnescapeState.turn length) s u ∧ u.outOfBounds = true := by
  induction hpasses with
  | refl => exact hs.fault hc hwide
  | @turn s s' t hturn _ ih =>
    by_cases hroom : ∀ c, s.DecodesTo c → s.p + (gUnicharToUtf8 c).length ≤ length
    · obtain ⟨u, hends, hfault⟩ := ih (hs.turn hfits hroom hturn).1 hc hwide
      exact ⟨u, (endsIn_turn hturn).2 hends, hfault⟩
    · push Not at hroom
      obtain ⟨c', hc', hwide'⟩ := hroom
      exact hs.fault hc' hwide'

/-- A loop that ends without a fault had room for every reference. -/
theorem InBuffer.room (hs : InBuffer length s) (hfits : length + 1 < 2 ^ 64)
    (hends : EndsIn (UnescapeState.turn length) s t) (hfault : t.outOfBounds = false) :
    ∀ u, Passes (UnescapeState.turn length) s u → ∀ c, u.DecodesTo c →
      u.p + (gUnicharToUtf8 c).length ≤ length := by
  intro u hpasses c hc
  by_contra hwide
  obtain ⟨t', hends', hfault'⟩ := hs.fault_of_passes hfits hpasses hc (Nat.lt_of_not_le hwide)
  rw [hends.unique hends', hfault'] at hfault
  cases hfault

section Room

variable (hfits : length + 1 < 2 ^ 64)
  (hroom : ∀ t, Passes (UnescapeState.turn length) s t → ∀ c, t.DecodesTo c →
    t.p + (gUnicharToUtf8 c).length ≤ length)
include hfits hroom

/-- Where every reference has room, the string stays in its memory. -/
theorem InBuffer.of_passes (hs : InBuffer length s)
    (hpasses : Passes (UnescapeState.turn length) s t) : InBuffer length t := by
  refine (hpasses.invariant
    (I := fun t => Passes (UnescapeState.turn length) s t ∧ InBuffer length t) ?_
    ⟨.refl s, hs⟩).2
  rintro t u ⟨hpasses, ht⟩ hturn
  exact ⟨hpasses.last hturn, (ht.turn hfits (hroom t hpasses) hturn).1⟩

/-- Where every reference has room, the loop ends. -/
theorem InBuffer.ends (hs : InBuffer length s) :
    ∃ t, EndsIn (UnescapeState.turn length) s t ∧ InBuffer length t := by
  have hkeep : ∀ t u, Passes (UnescapeState.turn length) s t →
      UnescapeState.turn length t = some u →
      Passes (UnescapeState.turn length) s u ∧ length - u.p < length - t.p := by
    intro t u hpasses hturn
    have ht := hs.of_passes hfits hroom hpasses
    obtain ⟨hu, hlt⟩ := ht.turn hfits (hroom t hpasses) hturn
    have hle := hu.position
    exact ⟨hpasses.last hturn, by omega⟩
  obtain ⟨t, hends⟩ := ends_of_measure (fun t : UnescapeState => length - t.p) hkeep (.refl s)
  exact ⟨t, hends, hs.of_passes hfits hroom (endsIn_iff_passes.1 hends).1⟩

end Room

/-- The memory around a reference, in numbers. -/
theorem InBuffer.bucket_le (hs : InBuffer length s) (hb : s.mem[s.p]? = some 38) :
    s.p + (bucketOf (s.mem.drop (s.p + 1))).length + 1 ≤ length := by
  obtain ⟨before, x, after, hp, hmem⟩ := hs.reference hb
  have hsize := congrArg List.length hmem
  simp only [List.length_append, List.length_cons, List.length_nil] at hsize
  rw [hs.size] at hsize
  omega

/-- What has not been passed is a part of what was there before. -/
theorem InBuffer.drop_subset (hs : InBuffer length s) (hfits : length + 1 < 2 ^ 64)
    (hb : s.mem[s.p]? = some 38) {utf8 mem : List UInt8}
    (hutf8 : utf8.length ≤ (bucketOf (s.mem.drop (s.p + 1))).length + 2)
    (h : LibSocialWeb.replaceReference length s.mem s.p
      (bucketOf (s.mem.drop (s.p + 1))).length utf8 = some mem) :
    mem.drop (s.p + utf8.length) ⊆ s.mem.drop s.p := by
  obtain ⟨before, x, after, hp, hmem⟩ := hs.reference hb
  have hsize := hs.size
  generalize bucketOf (s.mem.drop (s.p + 1)) = bucket at hmem hutf8 h
  have href : (38 :: bucket ++ [x]).length = bucket.length + 2 := by simp
  rw [hmem] at hsize h ⊢
  rw [← hp] at h ⊢
  rw [replaceReference_narrow hsize hfits href (by omega)] at h
  cases h
  rw [← List.length_append, List.append_assoc, List.drop_left, List.append_assoc, List.drop_left]
  refine List.append_subset.2 ⟨List.subset_append_right _ _, ?_⟩
  refine List.Subset.trans (List.drop_subset _ _)
    (List.append_subset.2 ⟨?_, List.subset_append_right _ _⟩)
  exact List.Subset.trans (List.drop_subset _ _) (List.subset_append_left _ _)

/-- Without a minus sign, there is room for every code point, and no minus sign turns up. -/
theorem InBuffer.no_minus (hs : InBuffer length s) (hfits : length + 1 < 2 ^ 64)
    (hminus : 45 ∉ s.mem.drop s.p) :
    (∀ c, s.DecodesTo c → s.p + (gUnicharToUtf8 c).length ≤ length) ∧
      ∀ t, UnescapeState.turn length s = some t → 45 ∉ t.mem.drop t.p := by
  have hrest : s.mem.drop (s.p + 1) ⊆ s.mem.drop s.p := by
    rw [← List.drop_drop]
    exact List.drop_subset _ _
  have hnarrow : ∀ c, s.DecodesTo c →
      (gUnicharToUtf8 c).length ≤ (bucketOf (s.mem.drop (s.p + 1))).length + 1 := by
    intro c hc
    refine (utf8_length_le (bucketOf_length_le _) hc.2).resolve_right fun hwide => ?_
    exact hminus (hrest ((bucketOf_isPrefix _).subset hwide.2.1))
  refine ⟨fun c hc => ?_, fun t ht => ?_⟩
  · have hle := hs.bucket_le hc.1
    have hlength := hnarrow c hc
    omega
  · obtain ⟨-, hturn⟩ | ⟨-, -, -, hturn⟩ | ⟨c, hc, -, hturn⟩ := hs.turn_cases
    · rw [hturn] at ht
      cases ht
    · rw [hturn] at ht
      cases ht
      exact fun h => hminus (hrest h)
    · rw [hturn, decode] at ht
      split at ht
      · cases ht
        exact hminus
      · rename_i mem hreplace
        cases ht
        have hlength := hnarrow c hc
        exact fun h => hminus (hs.drop_subset hfits hc.1 (by omega) hreplace h)

end UnescapeState

/-! ## Staying in the memory -/

namespace CText

/-- `sw_unescape_entities` returns, no access was out of bounds, of the string or of the bucket, and
the string ends within the memory that it had. -/
def UnescapesInBounds (s : CText) : Prop :=
  ∃ t, EndsIn (turn s.bytes.length) (start s.bytes) t ∧ t.outOfBounds = false ∧
    t.mem.length = s.bytes.length + 1 ∧ 0 ∈ t.mem

theorem inBounds_of_room (s : CText)
    (hroom : ∀ t, Passes (turn s.bytes.length) (start s.bytes) t → ∀ c, t.DecodesTo c →
      t.p + (gUnicharToUtf8 c).length ≤ s.bytes.length) : s.UnescapesInBounds := by
  obtain ⟨t, hends, ht⟩ := InBuffer.ends s.fits hroom (InBuffer.start s)
  exact ⟨t, hends, ht.noFault, ht.size, ht.nul.subset (by simp)⟩

/-- **Bounds.** The function stays in the memory of the string exactly if the UTF-8 bytes of every
code point that its loop comes to decode end before the last byte of that memory. -/
theorem unescapesInBounds_iff (s : CText) :
    s.UnescapesInBounds ↔
      ∀ t, Passes (turn s.bytes.length) (start s.bytes) t → ∀ c, t.DecodesTo c →
        t.p + (gUnicharToUtf8 c).length ≤ s.bytes.length := by
  refine ⟨?_, ?_⟩
  · rintro ⟨t, hends, hfault, -, -⟩
    exact (InBuffer.start s).room s.fits hends hfault
  · exact inBounds_of_room s

/-- `&#-1;` -/
def minusOne : CText := ⟨[38, 35, 45, 49, 59], by decide, by decide⟩

theorem minusOne_not_inBounds : ¬ minusOne.UnescapesInBounds := by
  rintro ⟨t, hends, hfault, -⟩
  have hends' : EndsIn (turn minusOne.bytes.length) (start minusOne.bytes)
      ⟨[255, 191, 191, 191, 191, 191], 6, true⟩ := ⟨3, by decide +kernel⟩
  rw [hends.unique hends'] at hfault
  cases hfault

/-- A text without a minus sign is safe. -/
theorem unescapesInBounds_of_no_minus (s : CText) (h : 45 ∉ s.bytes) : s.UnescapesInBounds := by
  refine inBounds_of_room s fun t hpasses => ?_
  have ht : InBuffer s.bytes.length t ∧ 45 ∉ t.mem.drop t.p := by
    refine hpasses.invariant (I := fun t => InBuffer s.bytes.length t ∧ 45 ∉ t.mem.drop t.p) ?_
      ⟨InBuffer.start s, ?_⟩
    · rintro t u ⟨ht, hminus⟩ hturn
      obtain ⟨hroom, hkeep⟩ := ht.no_minus s.fits hminus
      exact ⟨(ht.turn s.fits hroom hturn).1, hkeep u hturn⟩
    · simpa [start] using h
  exact (ht.1.no_minus s.fits ht.2).1

end CText

/-! ## The function -/

/-- `sw_unescape_entities`: the string that is there afterwards, or `none` if an access is out of
bounds. -/
def swUnescapeEntities (bytes : List UInt8) : Option (List UInt8) :=
  (run (turn bytes.length) (bytes.length + 3) (start bytes)).bind fun t =>
    if t.outOfBounds then none else some (cString t.mem)

namespace UnescapeState

/-- A turn leaves the size of the memory as it is and goes on in it, or it faults. -/
theorem turn_goes_on {length : ℕ} {s t : UnescapeState} (h : turn length s = some t) :
    t.mem.length = s.mem.length ∧ s.outOfBounds = false ∧
      (t.outOfBounds = true ∨ s.p < t.p ∧ t.p ≤ t.mem.length) := by
  unfold turn at h
  cases hfault : s.outOfBounds with
  | true =>
    rw [hfault] at h
    cases h
  | false =>
    rw [hfault, if_neg Bool.false_ne_true] at h
    cases hb : s.mem[s.p]? with
    | none =>
      rw [hb] at h
      cases h
      exact ⟨rfl, rfl, .inl rfl⟩
    | some b =>
      have hp : s.p < s.mem.length := (List.getElem?_eq_some_iff.1 hb).1
      have hskip : s.p < s.p + 1 ∧ s.p + 1 ≤ s.mem.length := ⟨Nat.lt_succ_self _, hp⟩
      rw [hb] at h
      dsimp only at h
      split_ifs at h with hnul hamp
      · split at h
        · cases h
          exact ⟨rfl, rfl, .inl rfl⟩
        · rename_i bucket _
          split at h
          · cases h
            exact ⟨rfl, rfl, .inr hskip⟩
          · rename_i c _
            obtain rfl := Option.some.inj h
            unfold decode
            cases hreplace : replaceReference length s.mem s.p bucket.length
              (gUnicharToUtf8 c) with
            | none => exact ⟨rfl, rfl, .inl rfl⟩
            | some mem =>
              obtain ⟨hlength, hle⟩ := replaceReference_length hreplace
              have hpos := gUnicharToUtf8_length_pos c
              exact ⟨hlength, rfl, .inr ⟨Nat.lt_add_of_pos_right hpos, hlength ▸ hle⟩⟩
      · cases h
        exact ⟨rfl, rfl, .inr hskip⟩

/-- The turns that are left at most. -/
def turnsLeft (s : UnescapeState) : ℕ :=
  if s.outOfBounds then 0 else s.mem.length + 1 - s.p

theorem turnsLeft_turn {length : ℕ} {s t : UnescapeState} (hs : s.p ≤ s.mem.length)
    (h : turn length s = some t) : t.turnsLeft < s.turnsLeft := by
  obtain ⟨hmem, hfault, hgoes⟩ := turn_goes_on h
  unfold turnsLeft
  rw [hfault, if_neg Bool.false_ne_true]
  rcases hgoes with hfaulty | ⟨hlt, hle⟩
  · rw [if_pos hfaulty]
    omega
  · split_ifs <;> omega

theorem exists_run (bytes : List UInt8) :
    ∃ t, run (turn bytes.length) (bytes.length + 3) (start bytes) = some t := by
  have hkeep : ∀ s t : UnescapeState, s.outOfBounds = true ∨ s.p ≤ s.mem.length →
      turn bytes.length s = some t →
      (t.outOfBounds = true ∨ t.p ≤ t.mem.length) ∧ t.turnsLeft < s.turnsLeft := by
    intro s t hs h
    obtain ⟨-, hfault, hgoes⟩ := turn_goes_on h
    have hp := hs.resolve_left (by rw [hfault]; exact Bool.false_ne_true)
    exact ⟨hgoes.imp id And.right, turnsLeft_turn hp h⟩
  refine exists_run_of_measure turnsLeft hkeep (.inr (Nat.zero_le _)) ?_
  show bytes.length + 3 > (bytes ++ [0]).length + 1 - 0
  rw [List.length_append, List.length_singleton]
  omega

end UnescapeState

namespace CText

/-- **The function** is what the loop does. -/
theorem swUnescapeEntities_eq_some_iff (s : CText) {result : List UInt8} :
    swUnescapeEntities s.bytes = some result ↔ s.Unescapes result := by
  obtain ⟨t, hrun⟩ := exists_run s.bytes
  unfold swUnescapeEntities Unescapes
  rw [hrun, Option.bind_some]
  constructor
  · intro h
    split_ifs at h with hfault
    exact ⟨t, ⟨_, hrun⟩, eq_false_of_ne_true hfault, Option.some.inj h⟩
  · rintro ⟨t', hends, hfault, rfl⟩
    obtain rfl := EndsIn.unique ⟨_, hrun⟩ hends
    rw [hfault]
    rfl

/-- It returns exactly if it stays in the memory of the string. -/
theorem isSome_swUnescapeEntities_iff (s : CText) :
    (swUnescapeEntities s.bytes).isSome = true ↔ s.UnescapesInBounds := by
  rw [Option.isSome_iff_exists]
  simp only [swUnescapeEntities_eq_some_iff]
  constructor
  · rintro ⟨_, t, hends, hfault, -⟩
    exact s.inBounds_of_room ((InBuffer.start s).room s.fits hends hfault)
  · rintro ⟨t, hends, hfault, -, -⟩
    exact ⟨_, t, hends, hfault, rfl⟩

end CText

end LibSocialWeb
