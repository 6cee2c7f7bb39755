import LibSocialWeb.Core.UnescapeText
import Mathlib.Data.List.Infix

/-!
# Text that unescaping ought to leave alone

A `&` that begins no complete reference ought to stand for itself. The loop decodes its bucket all
the same, whether a `;` ended it or not, and takes everything behind `#` for a number.

**Main result.** `CText.leftAlone_of_undisturbed`: a string is left alone where no bucket but that
of a complete reference decodes. For text without references the condition is exact; there the proof
rests on `UnescapeState.Marred`: once the loop has put another byte in the place of one that it
passed, or a NUL before the end, one of these can be seen until it ends.
-/

namespace LibSocialWeb

open Loop Memory Scan

/-! ## Complete references -/

/-- These bytes, behind `&`, complete a reference. -/
def CompletesReference (rest : List UInt8) : Prop :=
  ∃ bucket c after, ReferenceTo bucket c ∧ rest = bucket ++ 59 :: after

/-- No `&` begins a complete reference. -/
def NoReference (text : List UInt8) : Prop :=
  ∀ before rest, text = before ++ 38 :: rest → ¬ CompletesReference rest

/-- A complete reference ends the text. -/
def EndsWithReference (text : List UInt8) : Prop :=
  ∃ before bucket c, ReferenceTo bucket c ∧ text = before ++ 38 :: (bucket ++ [59])

/-- Behind `&`, these bytes decode to nothing, or to `&` at the end of the string. -/
def Harmless (rest : List UInt8) : Prop :=
  replacementOf (bucketOf rest) = none ∨
    replacementOf (bucketOf rest) = some 38 ∧ bucketOf rest = rest

/-- Text without references is returned as it is, and of any string, what stands behind the last
complete reference ends the result. -/
def CText.LeftAlone (s : CText) : Prop :=
  (NoReference s.bytes → s.Unescapes s.bytes) ∧
    ∀ before after, s.bytes = before ++ after → EndsWithReference before → NoReference after →
      ∃ result, s.Unescapes result ∧ after <:+ result

/-- In text without references, no `&` decodes to anything but itself at the end. Behind the last
reference, if there is anything, no `&` decodes, and no `&` before decodes to NUL. -/
def CText.Undisturbed (s : CText) : Prop :=
  (NoReference s.bytes → ∀ before rest, s.bytes = before ++ 38 :: rest → Harmless rest) ∧
    ∀ before after, s.bytes = before ++ after → EndsWithReference before → NoReference after →
      after ≠ [] →
        (∀ front rest, after = front ++ 38 :: rest → replacementOf (bucketOf rest) = none) ∧
          ∀ front rest, before = front ++ 38 :: rest → replacementOf (bucketOf rest) ≠ some 0

/-! ## Where nothing is decoded -/

namespace UnescapeState

variable {length : ℕ} {s t : UnescapeState} {done rest stale : List UInt8}

/-- `&` that decodes to `&` at the end of the string, of which nothing has been moved yet. -/
theorem Layout.decode_amp (hs : Layout length s done (38 :: rest) [])
    (hfits : length + 1 < 2 ^ 64) (hc : replacementOf (bucketOf rest) = some 38)
    (hbucket : bucketOf rest = rest) :
    ∃ t, turn length s = some t ∧ Layout length t (done ++ [38]) rest [] := by
  have hmem : s.mem = done ++ (38 :: rest ++ [0]) ++ [] := by
    rw [hs.mem]
    simp
  have hdecodes : s.DecodesTo 38 := by
    refine ⟨hs.getElem?, ?_⟩
    rw [hs.bucketOf_drop]
    exact hc
  have hnul : 0 ∈ s.mem.drop (s.p + 1) := by
    rw [hs.drop_succ]
    simp
  have hsize := hs.size
  have hturn := UnescapeState.turn_decode length hs.noFault hnul hdecodes
  rw [hmem] at hsize
  rw [hs.bucketOf_drop, hbucket, UnescapeState.decode, hs.position, hmem,
    replaceReference_narrow hsize hfits (by simp) (by simp [gUnicharToUtf8_length_ascii])] at hturn
  refine ⟨_, hturn, ?_, ?_, ?_, ?_, hs.noFault⟩
  · simp [gUnicharToUtf8, utf8Head, utf8Tail]
  · simp [gUnicharToUtf8, utf8Head, utf8Tail] at hsize ⊢
    omega
  · simp [gUnicharToUtf8, utf8Head, utf8Tail]
  · exact fun h => hs.nulFree (List.mem_cons_of_mem _ h)

/-- A byte that does no harm is taken as it is. -/
theorem Layout.harmless {b : UInt8} (hs : Layout length s done (b :: rest) [])
    (hfits : length + 1 < 2 ^ 64) (hb : b = 38 → Harmless rest) :
    ∃ t, turn length s = some t ∧ Layout length t (done ++ [b]) rest [] := by
  by_cases hnone : b = 38 → replacementOf (bucketOf rest) = none
  · exact Layout.skip hs hnone
  · push Not at hnone
    obtain ⟨rfl, hne⟩ := hnone
    obtain ⟨hc, hbucket⟩ := (hb rfl).resolve_left hne
    exact hs.decode_amp hfits hc hbucket

/-- **The run over text that does no harm.** -/
theorem Layout.harmless_all (hfits : length + 1 < 2 ^ 64) {text : List UInt8}
    (hs : Layout length s done text [])
    (htext : ∀ before rest, text = before ++ 38 :: rest → Harmless rest) :
    ∃ t, Passes (turn length) s t ∧ Layout length t (done ++ text) [] [] := by
  induction text generalizing s done with
  | nil => exact ⟨s, .refl s, by rw [List.append_nil]; exact hs⟩
  | cons b text ih =>
    obtain ⟨t, hturn, ht⟩ := Layout.harmless hs hfits fun hb => htext [] text (by rw [hb]; rfl)
    obtain ⟨u, hpasses, hu⟩ := ih ht fun before rest heq =>
      htext (b :: before) rest (by rw [heq]; rfl)
    refine ⟨u, .turn hturn hpasses, ?_⟩
    rw [List.append_assoc] at hu
    exact hu

/-- Text in which nothing decodes is taken as it is, whatever stands behind its NUL. -/
theorem Layout.skip_none {text : List UInt8} (hs : Layout length s done text stale)
    (htext : ∀ before rest, text = before ++ 38 :: rest → replacementOf (bucketOf rest) = none) :
    ∃ t, Passes (turn length) s t ∧ Layout length t (done ++ text) [] stale := by
  induction text generalizing s done with
  | nil => exact ⟨s, .refl s, by rw [List.append_nil]; exact hs⟩
  | cons b text ih =>
    obtain ⟨t, hturn, ht⟩ := Layout.skip hs fun hb => htext [] text (by rw [hb]; rfl)
    obtain ⟨u, hpasses, hu⟩ := ih ht fun before rest heq =>
      htext (b :: before) rest (by rw [heq]; rfl)
    refine ⟨u, .turn hturn hpasses, ?_⟩
    rw [List.append_assoc] at hu
    exact hu

end UnescapeState

/-! ## The bytes of any code point -/

theorem replacementOf_lt {bucket : List UInt8} {c : ℕ} (h : replacementOf bucket = some c) :
    c < 2 ^ 32 := by
  obtain hascii | ⟨base, marks, digits, -, -, rfl⟩ := replacementOf_cases h
  · omega
  · unfold scanUnsigned
    omega

/-- The first byte of a code point that is not ASCII. -/
theorem utf8Head_range {c : ℕ} (hc : c < 2 ^ 32) (hascii : 0x80 ≤ c) :
    0xc0 ≤ c / 64 ^ ((utf8Head c).1 - 1) ||| (utf8Head c).2 ∧
      c / 64 ^ ((utf8Head c).1 - 1) ||| (utf8Head c).2 < 256 ∧
      (0x4000000 ≤ c → 0xfc ≤ c / 64 ^ ((utf8Head c).1 - 1) ||| (utf8Head c).2) := by
  have hor : ∀ {x m : ℕ} (i a : ℕ), x < 2 ^ i → m = 2 ^ i * a → 0xc0 ≤ m → x + m < 256 →
      (0x4000000 ≤ c → 0xfc ≤ m) →
      0xc0 ≤ x ||| m ∧ x ||| m < 256 ∧ (0x4000000 ≤ c → 0xfc ≤ x ||| m) := by
    rintro x m i a hx rfl hm hlt hsix
    rw [or_eq_add a hx]
    exact ⟨by omega, hlt, fun h => (hsix h).trans (by omega)⟩
  unfold utf8Head
  rw [if_neg (by omega)]
  split_ifs <;> simp only [Nat.reduceSub, Nat.reducePow]
  · exact hor 6 3 (by omega) rfl (by decide) (by omega) (by omega)
  · exact hor 5 7 (by omega) rfl (by decide) (by omega) (by omega)
  · exact hor 4 15 (by omega) rfl (by decide) (by omega) (by omega)
  · exact hor 3 31 (by omega) rfl (by decide) (by omega) (by omega)
  · exact hor 2 63 (by omega) rfl (by decide) (by omega) (by omega)

theorem zero_not_mem_utf8Tail (n c : ℕ) : 0 ∉ utf8Tail n c := by
  induction n generalizing c with
  | zero => exact List.not_mem_nil
  | succ n ih =>
    rw [utf8Tail, List.mem_append, List.mem_singleton, mod_or]
    rintro (h | h)
    · exact ih _ h
    · exact (ofNat_ne (by omega) (by omega) (by omega)).1 h.symm

/-- Only NUL has a byte zero. -/
theorem zero_not_mem_gUnicharToUtf8 {c : ℕ} (hc : c < 2 ^ 32) (hnul : c ≠ 0) :
    0 ∉ gUnicharToUtf8 c := by
  intro h
  rcases List.mem_cons.1 h with h | h
  · by_cases hascii : c < 0x80
    · have hfirst : 0 = UInt8.ofNat (c / 64 ^ ((utf8Head c).1 - 1) ||| (utf8Head c).2) := h
      rw [show utf8Head c = (1, 0) from if_pos hascii, Nat.sub_self, Nat.pow_zero, Nat.div_one,
        Nat.or_zero] at hfirst
      have htoNat := congrArg UInt8.toNat hfirst
      rw [UInt8.toNat_ofNat_of_lt' (show c < 256 by omega)] at htoNat
      exact hnul htoNat.symm
    · obtain ⟨hle, hlt, -⟩ := utf8Head_range hc (by omega)
      exact (ofNat_ne hlt (by omega) (by omega)).1 h.symm
  · exact zero_not_mem_utf8Tail _ _ h

/-! ## Up to the last reference -/

/-- A bucket that a `;` ends does not depend on what follows. -/
theorem bucketOf_append_of_mem {rest : List UInt8} (h : 59 ∈ rest) (after : List UInt8) :
    bucketOf (rest ++ after) = bucketOf rest := by
  unfold bucketOf
  rw [List.takeWhile_append, if_neg]
  intro hlength
  have hprefix := List.takeWhile_prefix (fun b : UInt8 => decide (b ≠ 59 ∧ b ≠ 0)) (l := rest)
  have hall := hprefix.eq_of_length hlength
  rw [← hall] at h
  have h59 := List.mem_takeWhile_imp h
  exact absurd h59 (by decide)

theorem eq_bucketOf_append_of_mem {rest : List UInt8} (h : 59 ∈ rest) :
    ∃ x after, rest = bucketOf rest ++ x :: after := by
  obtain ⟨after, hafter⟩ := bucketOf_isPrefix rest
  cases after with
  | nil =>
    rw [List.append_nil] at hafter
    rw [← hafter] at h
    exact absurd rfl (mem_bucketOf h).1
  | cons x after => exact ⟨x, after, hafter.symm⟩

theorem EndsWithReference.mem_suffix {before rest : List UInt8} (h : EndsWithReference before)
    (hsuffix : rest <:+ before) (hne : rest ≠ []) : [59] <:+ rest := by
  obtain ⟨front, bucket, c, -, rfl⟩ := h
  refine List.suffix_of_suffix_length_le ?_ hsuffix (List.length_pos_iff.2 hne)
  exact ⟨front ++ 38 :: bucket, by simp⟩

/-- The last reference is not `&#-` and one more character. -/
theorem EndsWithReference.not_minus {before : List UInt8} (h : EndsWithReference before)
    (d x : UInt8) : ¬ [38, 35, 45, d, x] <:+ before := by
  obtain ⟨front, bucket, c, href, rfl⟩ := h
  have hminus : 45 ∉ 38 :: (bucket ++ [59]) := by
    intro h
    simp only [List.mem_cons, List.mem_append, List.not_mem_nil, or_false] at h
    rcases h with h | h | h
    · cases h
    · exact (href.mem h).2.2.2 rfl
    · cases h
  intro hsuffix
  rcases List.suffix_or_suffix_of_suffix hsuffix (List.suffix_append front _) with h | h
  · exact hminus (h.subset (by simp))
  · simp only [List.suffix_cons_iff, List.suffix_nil] at h
    rcases h with h | h | h | h | h | h
    · exact hminus (by rw [h]; simp)
    · cases (List.cons.inj h).1
    · cases (List.cons.inj h).1
    · have hlength := congrArg List.length (List.cons.inj h).2
      rw [List.length_append, List.length_singleton, List.length_singleton] at hlength
      rw [List.eq_nil_of_length_eq_zero (show bucket.length = 0 by omega)] at href
      cases href
    · exact absurd (List.cons.inj h).2 (by simp)
    · cases h

namespace UnescapeState

variable {length : ℕ} {s t : UnescapeState} {done rest stale : List UInt8}

/-- A reference whose UTF-8 bytes are one too many takes the next byte with it. -/
theorem Layout.decode_wide {bucket : List UInt8} {x y : UInt8} {c : ℕ}
    (hs : Layout length s done (38 :: (bucket ++ x :: y :: rest)) stale)
    (hbucket : bucketOf (bucket ++ x :: y :: rest) = bucket) (hc : replacementOf bucket = some c)
    (hwidth : (gUnicharToUtf8 c).length = bucket.length + 3) :
    ∃ t, turn length s = some t ∧ Layout length t (done ++ gUnicharToUtf8 c) rest stale := by
  have hmem : s.mem = done ++ (38 :: bucket ++ [x, y]) ++ (rest ++ 0 :: stale) := by
    rw [hs.mem]
    simp
  have hlength : (38 :: bucket ++ [x, y]).length = (gUnicharToUtf8 c).length := by
    rw [hwidth]
    simp
  have hsize := hs.size
  have hturn := hs.turn_decode hbucket hc
  rw [hmem] at hsize
  rw [UnescapeState.decode, hs.position, hmem, replaceReference_wide (by omega),
    store_append hlength] at hturn
  refine ⟨_, hturn, ?_, ?_, ?_, ?_, hs.noFault⟩
  · simp
  · rw [← hsize]
    simp only [List.length_append, hlength]
  · exact List.length_append.symm
  · intro h
    exact hs.nulFree (by simp [h])

/-- A decoding before the last reference ends before it. A six-byte number has room there: the
last reference holds no minus sign. -/
theorem Layout.decode_before (hfits : length + 1 < 2 ^ 64) {x : UInt8} {c : ℕ}
    {before after bucket unread unread' : List UInt8} (hends : EndsWithReference before)
    (hsuffix : 38 :: unread <:+ before) (hunread : unread = bucket ++ x :: unread')
    (hbucketOf : bucketOf (bucket ++ x :: (unread' ++ after)) = bucket)
    (hc : replacementOf bucket = some c)
    (hs : Layout length s done (38 :: (bucket ++ x :: (unread' ++ after))) stale) :
    ∃ t stale' rest, turn length s = some t ∧
      Layout length t (done ++ gUnicharToUtf8 c) (rest ++ after) stale' ∧ rest <:+ unread := by
  have hbucket : bucket.length ≤ 9 := hbucketOf ▸ bucketOf_length_le _
  have hrest : unread' <:+ unread := hunread ▸ ⟨bucket ++ [x], by simp⟩
  by_cases hwide : (gUnicharToUtf8 c).length ≤ bucket.length + 2
  · obtain ⟨t, stale', hturn, ht⟩ := Layout.decode hs hfits hbucketOf hc hwide
    exact ⟨t, stale', unread', hturn, ht, hrest⟩
  · have hsix := gUnicharToUtf8_length_le c
    obtain hle | ⟨-, -, hthree, hminus⟩ := utf8_length_le hbucket hc
    · omega
    obtain ⟨d, hd⟩ := hminus (by omega)
    cases unread' with
    | nil =>
      rw [hunread, hd] at hsuffix
      exact absurd hsuffix (hends.not_minus d x)
    | cons y unread' =>
      obtain ⟨t, hturn, ht⟩ := Layout.decode_wide hs hbucketOf hc (by omega)
      exact ⟨t, stale, unread', hturn, ht, hunread ▸ ⟨bucket ++ [x, y], by simp⟩⟩

/-- One turn before the last reference ends before it too. -/
theorem Layout.read_before_turn (hfits : length + 1 < 2 ^ 64) {b : UInt8}
    {before after unread : List UInt8} (hends : EndsWithReference before)
    (hsuffix : b :: unread <:+ before)
    (hs : Layout length s done (b :: (unread ++ after)) stale) :
    ∃ t done' stale' unread', turn length s = some t ∧
      Layout length t done' (unread' ++ after) stale' ∧ unread' <:+ unread ∧
      ((∀ front rest, before = front ++ 38 :: rest → replacementOf (bucketOf rest) ≠ some 0) →
        0 ∉ done → 0 ∉ done') := by
  have hb : b ≠ 0 := fun h => hs.nulFree (h ▸ List.mem_cons_self)
  by_cases hskip : b = 38 → replacementOf (bucketOf (unread ++ after)) = none
  · obtain ⟨t, hturn, ht⟩ := Layout.skip hs hskip
    refine ⟨t, done ++ [b], stale, unread, hturn, ht, List.suffix_rfl, fun _ hdone => ?_⟩
    rw [List.mem_append, List.mem_singleton, not_or]
    exact ⟨hdone, Ne.symm hb⟩
  push Not at hskip
  obtain ⟨rfl, hsome⟩ := hskip
  obtain ⟨c, hc⟩ := Option.ne_none_iff_exists'.1 hsome
  have hunread : 59 ∈ unread := by
    have hlast := (hends.mem_suffix hsuffix (List.cons_ne_nil _ _)).subset
      (List.mem_singleton_self _)
    exact (List.mem_cons.1 hlast).resolve_left (by decide)
  obtain ⟨x, unread', hunread'⟩ := eq_bucketOf_append_of_mem hunread
  rw [bucketOf_append_of_mem hunread] at hc
  have hbucketOf : bucketOf (bucketOf unread ++ x :: (unread' ++ after)) = bucketOf unread := by
    rw [← List.cons_append, ← List.append_assoc, ← hunread', bucketOf_append_of_mem hunread]
  have hnul : (∀ front rest, before = front ++ 38 :: rest →
      replacementOf (bucketOf rest) ≠ some 0) → 0 ∉ done → 0 ∉ done ++ gUnicharToUtf8 c := by
    intro hzero hdone
    obtain ⟨front, hfront⟩ := hsuffix
    rw [List.mem_append, not_or]
    refine ⟨hdone, zero_not_mem_gUnicharToUtf8 (replacementOf_lt hc) ?_⟩
    rintro rfl
    exact hzero front unread hfront.symm hc
  rw [hunread', List.append_assoc, List.cons_append] at hs
  obtain ⟨t, stale', rest, hturn, ht, hrest⟩ :=
    Layout.decode_before hfits hends hsuffix hunread' hbucketOf hc hs
  exact ⟨t, _, stale', rest, hturn, ht, hrest, hnul⟩

/-- **The run up to the last reference.** The loop comes to what stands behind it. -/
theorem Layout.read_before (hfits : length + 1 < 2 ^ 64) {before after : List UInt8}
    (hends : EndsWithReference before) {unread : List UInt8} (hsuffix : unread <:+ before)
    (hs : Layout length s done (unread ++ after) stale) :
    ∃ t done' stale', Passes (turn length) s t ∧ Layout length t done' after stale' ∧
      ((∀ front rest, before = front ++ 38 :: rest → replacementOf (bucketOf rest) ≠ some 0) →
        0 ∉ done → 0 ∉ done') := by
  induction hn : unread.length using Nat.strong_induction_on generalizing s done stale unread with
  | _ n ih =>
    cases unread with
    | nil => exact ⟨s, done, stale, .refl s, hs, fun _ hdone => hdone⟩
    | cons b unread =>
      obtain ⟨t, done', stale', unread', hturn, ht, hsuffix', hnul⟩ :=
        Layout.read_before_turn hfits hends hsuffix hs
      have hshort : unread'.length < n := by
        rw [← hn, List.length_cons]
        exact Nat.lt_succ_of_le hsuffix'.length_le
      obtain ⟨u, done'', stale'', hpasses, hu, hnul'⟩ := ih unread'.length hshort
        (hsuffix'.trans ((List.suffix_cons b unread).trans hsuffix)) ht rfl
      exact ⟨u, done'', stale'', .turn hturn hpasses, hu, fun hzero hdone =>
        hnul' hzero (hnul hzero hdone)⟩

end UnescapeState

/-- An undisturbed string is left alone. -/
theorem CText.Undisturbed.leftAlone {s : CText} (h : s.Undisturbed) : s.LeftAlone := by
  refine ⟨fun hnone => ?_, fun before after hsplit hends hnone => ?_⟩
  · obtain ⟨t, hpasses, ht⟩ := (UnescapeState.Layout.start s).harmless_all s.fits (h.1 hnone)
    refine ⟨t, endsIn_iff_passes.2 ⟨hpasses, ht.turn_nil⟩, ht.noFault, ?_⟩
    rw [ht.cString_mem s.nulFree, List.append_nil, List.nil_append]
  · have hstart := UnescapeState.Layout.start s
    rw [hsplit] at hstart
    obtain ⟨t, done, stale, hpasses, ht, hnul⟩ :=
      UnescapeState.Layout.read_before (hsplit ▸ s.fits) hends List.suffix_rfl hstart
    rw [← hsplit] at hpasses ht
    cases hafter : after with
    | nil =>
      subst hafter
      exact ⟨_, ⟨t, endsIn_iff_passes.2 ⟨hpasses, ht.turn_nil⟩, ht.noFault, rfl⟩, List.nil_suffix⟩
    | cons b rest =>
      obtain ⟨hskip, hzero⟩ := h.2 before after hsplit hends hnone (by rw [hafter]; simp)
      obtain ⟨u, hpasses', hu⟩ := ht.skip_none hskip
      rw [← hafter]
      refine ⟨_, ⟨u, endsIn_iff_passes.2 ⟨hpasses.trans hpasses', hu.turn_nil⟩, hu.noFault, rfl⟩,
        ?_⟩
      have hdone : 0 ∉ done ++ after := by
        rw [List.mem_append, not_or]
        exact ⟨hnul hzero List.not_mem_nil, ht.nulFree⟩
      rw [hu.cString_mem hdone, List.append_nil]
      exact List.suffix_append _ _

/-! ## What cannot be undone -/

/-- The first byte of a code point is that of `&` for `&` only, and large for a number that is too
wide for its reference. -/
theorem gUnicharToUtf8_head {c : ℕ} (hc : c < 2 ^ 32) :
    ∃ first rest, gUnicharToUtf8 c = first :: rest ∧ (first = 38 → c = 38) ∧
      (0x4000000 ≤ c → 0xfc ≤ first) := by
  refine ⟨UInt8.ofNat (c / 64 ^ ((utf8Head c).1 - 1) ||| (utf8Head c).2),
    utf8Tail ((utf8Head c).1 - 1) c, rfl, ?_, ?_⟩
  · intro hfirst
    by_cases hascii : c < 0x80
    · rw [show utf8Head c = (1, 0) from if_pos hascii, Nat.sub_self, Nat.pow_zero, Nat.div_one,
        Nat.or_zero] at hfirst
      have htoNat := congrArg UInt8.toNat hfirst
      rw [UInt8.toNat_ofNat_of_lt' (show c < 256 by omega)] at htoNat
      exact htoNat
    · obtain ⟨hle, hlt, -⟩ := utf8Head_range hc (by omega)
      exact absurd hfirst (ofNat_ne hlt (by omega) (by omega)).2
  · intro hwide
    obtain ⟨-, hlt, hle⟩ := utf8Head_range hc (by omega)
    rw [UInt8.le_iff_toNat_le, UInt8.toNat_ofNat_of_lt' hlt]
    exact hle hwide

namespace UnescapeState

variable {length : ℕ} {bytes : List UInt8} {s t : UnescapeState}

/-- A byte that the loop has passed is not the one that was there, or a NUL stands before the
end. -/
def Marred (length : ℕ) (bytes : List UInt8) (s : UnescapeState) : Prop :=
  (∃ i < s.p, i < length ∧ s.mem[i]? ≠ bytes[i]?) ∨
    ∃ z, s.p ≤ z ∧ z < length ∧ s.mem[z]? = some 0

/-- A NUL ahead stands behind the bucket. -/
theorem InBuffer.bucket_lt (hs : InBuffer length s) (hb : s.mem[s.p]? = some 38) {z : ℕ}
    (hz : s.p ≤ z) (hzero : s.mem[z]? = some 0) :
    s.p + (bucketOf (s.mem.drop (s.p + 1))).length < z := by
  obtain ⟨before, x, after, hp, hmem⟩ := hs.reference hb
  have hbucket : 0 ∉ 38 :: bucketOf (s.mem.drop (s.p + 1)) := by
    rw [List.mem_cons, not_or]
    exact ⟨by decide, fun h => (mem_bucketOf h).2 rfl⟩
  by_contra hle
  generalize bucketOf (s.mem.drop (s.p + 1)) = bucket at hmem hbucket hle
  rw [hmem, List.append_assoc before, List.getElem?_append_right (by omega), List.append_assoc,
    List.getElem?_append_left (by rw [List.length_cons]; omega)] at hzero
  exact hbucket (List.mem_of_getElem? hzero)

/-- A reference that is longer than its UTF-8 bytes brings the NUL nearer. -/
theorem InBuffer.nul_nearer (hs : InBuffer length s) (hfits : length + 1 < 2 ^ 64)
    (hb : s.mem[s.p]? = some 38) {utf8 mem : List UInt8}
    (hnarrow : utf8.length ≤ (bucketOf (s.mem.drop (s.p + 1))).length + 1)
    (hroom : s.p + (bucketOf (s.mem.drop (s.p + 1))).length + 2 ≤ length)
    (h : LibSocialWeb.replaceReference length s.mem s.p
      (bucketOf (s.mem.drop (s.p + 1))).length utf8 = some mem) :
    ∃ z, s.p + utf8.length ≤ z ∧ z < length ∧ mem[z]? = some 0 := by
  obtain ⟨before, x, after, hp, hmem⟩ := hs.reference hb
  have hsize := hs.size
  have hnul := hs.nul
  generalize bucketOf (s.mem.drop (s.p + 1)) = bucket at hmem hnarrow hroom h
  have href : (38 :: bucket ++ [x]).length = bucket.length + 2 := by simp
  rw [hmem] at hsize hnul h
  rw [← hp] at h hroom ⊢
  rw [replaceReference_narrow hsize hfits href (by omega)] at h
  cases h
  rw [List.length_append, List.length_append, href] at hsize
  obtain ⟨front, hfront⟩ : [0] <:+ after :=
    List.suffix_of_suffix_length_le hnul (List.suffix_append _ _)
      (by rw [List.length_singleton]; omega)
  rw [← hfront, List.length_append, List.length_singleton] at hsize
  refine ⟨(before ++ utf8 ++ front).length, ?_, ?_, ?_⟩
  · simp only [List.length_append]
    omega
  · simp only [List.length_append]
    omega
  · rw [← hfront, ← List.append_assoc (before ++ utf8), List.append_assoc (before ++ utf8 ++ front),
      List.getElem?_append_right (Nat.le_refl _), Nat.sub_self]
    rfl

/-- What is written stands at the position. -/
theorem getElem?_replaceReference_self {mem mem' rest : List UInt8} {p bucketI : ℕ} {first : UInt8}
    (h : LibSocialWeb.replaceReference length mem p bucketI (first :: rest) = some mem') :
    mem'[p]? = some first := by
  obtain ⟨written, hstore, rfl | ⟨src, n, hmove⟩⟩ := store_of_replaceReference h
  · exact getElem?_store_self hstore
  · rw [getElem?_move_of_lt hmove (by rw [List.length_cons]; omega)]
    exact getElem?_store_self hstore

/-- **A turn undoes no mark**, in a text without the bytes `0xfc` to `0xff`. -/
theorem Marred.turn (h : Marred length bytes s) (hs : InBuffer length s)
    (hfits : length + 1 < 2 ^ 64) (hbytes : ∀ b ∈ bytes, b < 0xfc)
    (hroom : ∀ c, s.DecodesTo c → s.p + (gUnicharToUtf8 c).length ≤ length)
    (ht : turn length s = some t) : Marred length bytes t := by
  obtain ⟨-, hturn⟩ | ⟨hp, -, hnul, hturn⟩ | ⟨c, hc, hp, hturn⟩ := hs.turn_cases
  · rw [hturn] at ht
    cases ht
  · rw [hturn] at ht
    cases ht
    rcases h with ⟨i, hi, hlt, hne⟩ | ⟨z, hz, hlt, hzero⟩
    · exact .inl ⟨i, Nat.lt_succ_of_lt hi, hlt, hne⟩
    · refine .inr ⟨z, Nat.lt_of_le_of_ne hz ?_, hlt, hzero⟩
      rintro rfl
      exact hnul hzero
  · obtain ⟨mem, hreplace, -⟩ := hs.replaceReference hfits hc.1 (hroom c hc)
    have hpos := gUnicharToUtf8_length_pos c
    rw [hturn, decode, hreplace] at ht
    cases ht
    rcases h with ⟨i, hi, hlt, hne⟩ | ⟨z, hz, hlt, hzero⟩
    · refine .inl ⟨i, Nat.lt_add_right _ hi, hlt, ?_⟩
      change mem[i]? ≠ _
      rw [getElem?_replaceReference hreplace hi]
      exact hne
    · obtain hnarrow | ⟨hwide, -⟩ := utf8_length_le (bucketOf_length_le _) hc.2
      · have hbucket := hs.bucket_lt hc.1 hz hzero
        exact .inr (hs.nul_nearer hfits hc.1 hnarrow (by omega) hreplace)
      · obtain ⟨first, rest, heq, -, hfirst⟩ := gUnicharToUtf8_head (replacementOf_lt hc.2)
        refine .inl ⟨s.p, Nat.lt_add_of_pos_right hpos, hp, ?_⟩
        change mem[s.p]? ≠ _
        rw [heq] at hreplace
        rw [getElem?_replaceReference_self hreplace]
        intro hsame
        exact UInt8.not_lt.2 (hfirst hwide) (hbytes first (List.mem_of_getElem? hsame.symm))

/-- A mark is seen in the string. -/
theorem Marred.cString_ne (h : Marred length bytes s) (hlength : bytes.length = length)
    (hnul : 0 ∉ bytes) : cString s.mem ≠ bytes := by
  intro heq
  obtain ⟨rest, hrest⟩ := cString_isPrefix s.mem
  rw [heq] at hrest
  rcases h with ⟨i, -, hlt, hne⟩ | ⟨z, -, hlt, hzero⟩
  · rw [← hrest, List.getElem?_append_left (by omega)] at hne
    exact hne rfl
  · rw [← hrest, List.getElem?_append_left (by omega)] at hzero
    exact hnul (List.mem_of_getElem? hzero)

/-- A `&` that does harm leaves a mark. -/
theorem Layout.marred {done rest : List UInt8} {length : ℕ}
    (hs : Layout length s done (38 :: rest) []) (hin : InBuffer length s)
    (hfits : length + 1 < 2 ^ 64) (hbytes : bytes = done ++ 38 :: rest)
    (hroom : ∀ c, s.DecodesTo c → s.p + (gUnicharToUtf8 c).length ≤ length)
    (hharm : ¬ Harmless rest) (ht : turn length s = some t) : Marred length bytes t := by
  unfold Harmless at hharm
  push Not at hharm
  obtain ⟨c, hc⟩ := Option.ne_none_iff_exists'.1 hharm.1
  have hdecodes : s.DecodesTo c := by
    refine ⟨hs.getElem?, ?_⟩
    rw [hs.bucketOf_drop]
    exact hc
  have hlength : done.length + rest.length + 1 = length := by
    have hsize := hs.size
    rw [hs.mem] at hsize
    simp only [List.length_append, List.length_cons, List.length_nil] at hsize
    omega
  have hmem := (hin.zero_mem_drop hdecodes.1 (by decide)).2
  obtain ⟨mem, hreplace, -⟩ := hin.replaceReference hfits hdecodes.1 (hroom c hdecodes)
  have hturn := UnescapeState.turn_decode length hs.noFault hmem hdecodes
  rw [UnescapeState.decode, hreplace, ht] at hturn
  cases hturn
  by_cases hamp : c = 38
  · -- the bucket ends before the string, so the string gets shorter
    subst hamp
    obtain ⟨after, hafter⟩ := bucketOf_isPrefix rest
    have hafter' : after ≠ [] := by
      intro hnil
      rw [hnil, List.append_nil] at hafter
      exact hharm.2 hc hafter
    have hshort := congrArg List.length hafter
    rw [List.length_append] at hshort
    have hpos := List.length_pos_iff.2 hafter'
    refine .inr (hin.nul_nearer hfits hdecodes.1 ?_ ?_ hreplace)
    · rw [gUnicharToUtf8_length_ascii (by decide)]
      omega
    · rw [hs.bucketOf_drop, hs.position]
      omega
  · -- another byte takes the place of `&`
    obtain ⟨first, tail, heq, hfirst, -⟩ := gUnicharToUtf8_head (replacementOf_lt hc)
    refine .inl ⟨s.p, Nat.lt_add_of_pos_right (gUnicharToUtf8_length_pos c), ?_, ?_⟩
    · rw [hs.position]
      omega
    · change mem[s.p]? ≠ _
      rw [heq] at hreplace
      rw [getElem?_replaceReference_self hreplace, hbytes, hs.position,
        List.getElem?_append_right (Nat.le_refl _), Nat.sub_self, List.getElem?_cons_zero]
      exact fun h => hamp (hfirst (Option.some.inj h))

theorem InBuffer.exists_turn (hs : InBuffer length s) (hb : s.mem[s.p]? ≠ some 0) :
    ∃ t, UnescapeState.turn length s = some t := by
  obtain ⟨hnul, -⟩ | ⟨-, -, -, hturn⟩ | ⟨c, -, -, hturn⟩ := hs.turn_cases
  · exact absurd hnul hb
  · exact ⟨_, hturn⟩
  · exact ⟨_, hturn⟩

section Unchanged

variable (hfits : length + 1 < 2 ^ 64) (hlength : bytes.length = length) (hnul : 0 ∉ bytes)
  (hsmall : ∀ b ∈ bytes, b < 0xfc) (hends : EndsIn (UnescapeState.turn length) s t)
  (hfault : t.outOfBounds = false)
include hfits hlength hnul hsmall hends hfault

/-- **A mark stays.** A loop that ends after it has left a mark has changed the string. -/
theorem Marred.of_ends (h : Marred length bytes s) (hs : InBuffer length s) :
    cString t.mem ≠ bytes := by
  have hroom := hs.room hfits hends hfault
  have hmarred : Passes (UnescapeState.turn length) s t ∧ Marred length bytes t := by
    refine (endsIn_iff_passes.1 hends).1.invariant
      (I := fun t => Passes (UnescapeState.turn length) s t ∧ Marred length bytes t) ?_
      ⟨.refl s, h⟩
    rintro t u ⟨hpasses, ht⟩ hturn
    exact ⟨hpasses.last hturn,
      ht.turn (hs.of_passes hfits hroom hpasses) hfits hsmall (hroom t hpasses) hturn⟩
  exact hmarred.2.cString_ne hlength hnul

/-- **Only harmless text comes back unchanged.** -/
theorem Layout.harmless_of_ends {done text : List UInt8} (hs : Layout length s done text [])
    (hin : InBuffer length s) (hbytes : bytes = done ++ text) (hsame : cString t.mem = bytes) :
    ∀ before rest, text = before ++ 38 :: rest → Harmless rest := by
  induction text generalizing s done with
  | nil =>
    intro before rest heq
    exact absurd heq (by simp)
  | cons b text ih =>
    have hroom := hin.room hfits hends hfault
    have hne : s.mem[s.p]? ≠ some 0 := by
      rw [hs.getElem?]
      exact fun h => hs.nulFree (Option.some.inj h ▸ List.mem_cons_self)
    obtain ⟨u, hturn⟩ := hin.exists_turn hne
    have hin' := (hin.turn hfits (hroom s (.refl s)) hturn).1
    have hends' := (endsIn_turn hturn).1 hends
    have hb : b = 38 → Harmless text := by
      rintro rfl
      by_contra hharm
      have hmarred := Layout.marred hs hin hfits hbytes (hroom s (.refl s)) hharm hturn
      exact hmarred.of_ends hfits hlength hnul hsmall hends' hfault hin' hsame
    obtain ⟨u', hturn', hu⟩ := hs.harmless hfits hb
    obtain rfl : u = u' := Option.some.inj (hturn.symm.trans hturn')
    have hrest := ih hends' hu hin' (by rw [hbytes]; simp)
    intro before rest heq
    rcases List.cons_eq_append_iff.1 heq with ⟨-, heq⟩ | ⟨before', -, heq⟩
    · exact (List.cons.inj heq).2 ▸ hb (List.cons.inj heq).1.symm
    · exact hrest before' rest heq

end Unchanged

end UnescapeState

namespace CText

/-- **Text without references.** An undisturbed string is left alone. Where the string has no
reference, and no byte from `0xfc` on, which no UTF-8 text has, no other string is. -/
theorem leftAlone_of_undisturbed (s : CText) :
    (s.Undisturbed → s.LeftAlone) ∧
      (NoReference s.bytes → (∀ b ∈ s.bytes, b < 0xfc) → s.LeftAlone → s.Undisturbed) := by
  refine ⟨Undisturbed.leftAlone, fun hnone hsmall h => ⟨fun _ => ?_, ?_⟩⟩
  · obtain ⟨t, hends, hfault, hsame⟩ := h.1 hnone
    exact UnescapeState.Layout.harmless_of_ends s.fits rfl s.nulFree hsmall hends hfault
      (UnescapeState.Layout.start s) (UnescapeState.InBuffer.start s) rfl hsame
  · rintro before after hsplit ⟨front, bucket, c, href, rfl⟩
    refine absurd ⟨bucket, c, after, href, rfl⟩ (hnone front (bucket ++ 59 :: after) ?_)
    rw [hsplit]
    simp

theorem noReference_of_no_semicolon {text : List UInt8} (h : 59 ∉ text) : NoReference text := by
  rintro before rest rfl ⟨bucket, c, after, -, rfl⟩
  exact h (by simp)

theorem not_endsWithReference {before after : List UInt8} (h : 59 ∉ before ++ after) :
    ¬ EndsWithReference before := by
  rintro ⟨front, bucket, c, -, rfl⟩
  exact h (by simp)

/-- `a&b` is left alone. -/
theorem leftAlone_sample : (⟨[97, 38, 98], by decide, by decide⟩ : CText).LeftAlone := by
  refine (leftAlone_of_undisturbed _).1 ⟨fun _ before rest heq => ?_, ?_⟩
  · obtain ⟨rfl, rfl⟩ : before = [97] ∧ rest = [98] := by
      simpa [List.cons_eq_append_iff] using heq
    exact .inl (by decide)
  · intro before after hsplit hends
    exact absurd hends (not_endsWithReference (by rw [← hsplit]; decide))

/-- `&lt` becomes `<lt`. -/
theorem truncated_not_leftAlone :
    ¬ (⟨[38, 108, 116], by decide, by decide⟩ : CText).LeftAlone := by
  intro h
  obtain ⟨t, hends, -, hsame⟩ := h.1 (noReference_of_no_semicolon (by decide))
  have hends' : EndsIn (UnescapeState.turn 3) (UnescapeState.start [38, 108, 116])
      ⟨[60, 108, 116, 0], 3, false⟩ := ⟨4, by decide +kernel⟩
  rw [hends.unique hends'] at hsame
  exact absurd hsame (by decide)

end CText

end LibSocialWeb
