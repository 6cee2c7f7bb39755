import LibSocialWeb.Twitter.Framing

/-!
# The two lengths of the buffer (`services/twitter/twitter-item-stream.c`)

The length of what is buffered is kept twice: `cur_buffer` is a `GString`, which knows its own
length, and `buf_size` is a counter. The second loop compares with the counter and hands to the
parser what the string has, so the parser reads past the string if the counter is too large.

`drift` is how much larger it is. A sound turn takes as much from the one as from the other, unless
the message is longer than what is there. The first loop takes an empty line from the string and
leaves the counter alone, so that the drift grows by its two bytes.

**Main result.** `everyCall_accounted`: the two are equal after every call and the parser stays
inside the string, as long as no call begins with an empty line at the front of the buffer and every
turn finds its line feed, and a length that is not negative and does not make the sum overflow.
-/

namespace LibSocialWeb

/-! ## The property and the condition -/

/-- `buf_size` is the length of `cur_buffer`. -/
def SizeExact (s : SwTwitterItemStream) : Prop :=
  s.bufSize.toInt = ((s.curBuffer.getD []).length : ℤ)

/-- The length that the parser gets is at most the number of bytes at the pointer. -/
def HandedMessage.Fits (m : HandedMessage) : Prop := m.length.toInt ≤ m.data.length

variable (lib : StreamLibrary)

/-- Whatever the parser is given in the call fits, and `buf_size` is right when the call returns. -/
def CallAccounted (s : SwTwitterItemStream) (c : StreamChunk) : Prop :=
  (∀ r, Loop.Passes (messageTurn lib c.nullDiff) (s.reader c.buf) r →
    ∀ m ∈ r.handed, m.Fits) ∧
  ∀ s', s.ReturnsIn lib c.call s' → SizeExact s'

/-- If a message is taken, its line feed was found, its length is not negative, and the sum of the
test does not overflow. -/
def TurnSound (nullDiff : Int32) (r : StreamReader) : Prop :=
  ∀ messageLength, scanMessageLength lib.overflow r.buffer = some messageLength →
    newlinePos nullDiff r.buffer r.bufSize + 1 + messageLength ≤ r.bufSize →
    0 ≤ messageLength.toInt ∧ ∃ i, gUtf8Strchr r.buffer r.bufSize.toInt LF = some i ∧
      (i : ℤ) + 1 + messageLength.toInt < 2 ^ 31

/-- What is buffered has a length that is a `gint`, and no empty line at its front; every message
that is taken is taken soundly. -/
structure CallKept (s : SwTwitterItemStream) (c : StreamChunk) : Prop where
  size : (s.append c.buf).buffer.length < 2 ^ 31
  front : ∀ b rest, (s.append c.buf).buffer ≠ CR :: b :: rest
  turns : ∀ r, Loop.Passes (messageTurn lib c.nullDiff) (s.reader c.buf) r →
    TurnSound lib c.nullDiff r

/-! ## One turn -/

/-- How much larger `buf_size` is than what is buffered. -/
def drift (r : StreamReader) : ℤ := r.bufSize.toInt - r.buffer.length

section Turns

variable {lib : StreamLibrary} {nullDiff : Int32} {r r' : StreamReader}

/-- What a sound turn does, with its line feed at `i`. -/
structure TakenAt (r r' : StreamReader) (i : ℕ) (messageLength : Int32) : Prop where
  nonneg : 0 ≤ messageLength.toInt
  inside : i < r.buffer.length
  test : (i : ℤ) + 1 + messageLength.toInt ≤ r.bufSize.toInt
  buffer : r'.buffer = gStringErase (r.buffer.drop (i + 1)) 0 messageLength.toInt
  size : r'.bufSize.toInt = r.bufSize.toInt - (i + 1 + messageLength.toInt)
  handed : r'.handed = r.handed ++ [⟨r.buffer.drop (i + 1), messageLength⟩]

theorem takenAt_of_turn (hsound : TurnSound lib nullDiff r)
    (hturn : messageTurn lib nullDiff r = some r') :
    ∃ i messageLength, TakenAt r r' i messageLength := by
  obtain ⟨messageLength, ⟨-, hscan, htaken⟩, rfl⟩ := of_turn_some hturn
  obtain ⟨hnonneg, i, hfound, hsum⟩ := hsound messageLength hscan htaken
  obtain ⟨hheader, htotal⟩ := toInt_newlinePos_of_lt nullDiff hfound hnonneg hsum
  have hinside := gUtf8Strchr_lt hfound
  have hlt := Int32.toInt_lt r.bufSize
  have herased : gStringErase r.buffer 0 (newlinePos nullDiff r.buffer r.bufSize + 1).toInt =
      r.buffer.drop (i + 1) := by
    rw [hheader, gStringErase_of_le (by omega) (by omega)]
    rfl
  rw [Int32.le_iff_toInt_le, htotal] at htaken
  refine ⟨i, messageLength, hnonneg, hinside, htaken, ?_, ?_, ?_⟩
  · show gStringErase (gStringErase _ 0 _) 0 _ = _
    rw [herased]
  · show (r.bufSize - _).toInt = _
    rw [toInt_sub_eq (by omega) (by omega), htotal]
  · show _ ++ [HandedMessage.mk _ _] = _
    rw [herased]

/-- A message that fits is taken from both lengths. -/
theorem drift_of_takenAt {i : ℕ} {messageLength : Int32} (h : TakenAt r r' i messageLength)
    (hfits : ∀ m ∈ r'.handed, m.Fits) : drift r' = drift r := by
  have hfits' : messageLength.toInt ≤ (r.buffer.drop (i + 1)).length :=
    hfits ⟨_, messageLength⟩ (by rw [h.handed]; exact List.mem_append_right _ List.mem_cons_self)
  have hinside := h.inside
  have hnonneg := h.nonneg
  unfold drift
  rw [h.size, h.buffer, gStringErase_of_le h.nonneg hfits', List.length_drop]
  rw [List.length_drop] at hfits' ⊢
  omega

/-- Without a drift the test is the right one. -/
theorem fits_of_takenAt {i : ℕ} {messageLength : Int32} (h : TakenAt r r' i messageLength)
    (hdrift : drift r = 0) (hfits : ∀ m ∈ r.handed, m.Fits) : ∀ m ∈ r'.handed, m.Fits := by
  intro m hm
  rw [h.handed] at hm
  rcases List.mem_append.1 hm with hm | hm
  · exact hfits m hm
  · obtain rfl := List.mem_singleton.1 hm
    have htest := h.test
    have hinside := h.inside
    unfold drift at hdrift
    show messageLength.toInt ≤ (r.buffer.drop (i + 1)).length
    rw [List.length_drop]
    omega

/-! ## The second loop -/

/-- Without a drift at the beginning there is none at the end. -/
theorem accounted_of_passes (hpasses : Loop.Passes (messageTurn lib nullDiff) r r')
    (hsound : ∀ t, Loop.Passes (messageTurn lib nullDiff) r t → TurnSound lib nullDiff t)
    (hdrift : drift r = 0) (hfits : ∀ m ∈ r.handed, m.Fits) :
    drift r' = 0 ∧ ∀ m ∈ r'.handed, m.Fits := by
  induction hpasses with
  | refl => exact ⟨hdrift, hfits⟩
  | turn hturn _ ih =>
    obtain ⟨i, messageLength, htaken⟩ := takenAt_of_turn (hsound _ (.refl _)) hturn
    have hfits' := fits_of_takenAt htaken hdrift hfits
    exact ih (fun t hpasses => hsound t (.turn hturn hpasses))
      ((drift_of_takenAt htaken hfits').trans hdrift) hfits'

/-- The drift stays what it is while the messages fit. -/
theorem drift_of_passes (hpasses : Loop.Passes (messageTurn lib nullDiff) r r')
    (hsound : ∀ t, Loop.Passes (messageTurn lib nullDiff) r t → TurnSound lib nullDiff t)
    (hfits : ∀ t, Loop.Passes (messageTurn lib nullDiff) r t → ∀ m ∈ t.handed, m.Fits) :
    drift r' = drift r := by
  induction hpasses with
  | refl => rfl
  | turn hturn _ ih =>
    obtain ⟨i, messageLength, htaken⟩ := takenAt_of_turn (hsound _ (.refl _)) hturn
    have hdrift := drift_of_takenAt htaken (hfits _ (.turn hturn (.refl _)))
    exact (ih (fun t hpasses => hsound t (.turn hturn hpasses))
      (fun t hpasses => hfits t (.turn hturn hpasses))).trans hdrift

end Turns

/-! ## One call -/

section Calls

variable {lib : StreamLibrary} {s s' : SwTwitterItemStream} {c : StreamChunk}

/-- The bytes of the chunk are counted. -/
theorem drift_append (hexact : SizeExact s) (hsize : (s.append c.buf).buffer.length < 2 ^ 31) :
    drift (s.append c.buf) = 0 := by
  unfold SizeExact at hexact
  unfold drift
  unfold SwTwitterItemStream.append at hsize ⊢
  cases hbuffer : s.curBuffer with
  | none =>
    rw [hbuffer] at hsize
    have hlength : (Int32.ofNat c.buf.length).toInt = c.buf.length :=
      Int32.toInt_ofNat_of_lt hsize
    show (0 + Int32.ofNat c.buf.length).toInt - (c.buf.length : ℤ) = 0
    rw [Int32.zero_add, hlength, Int.sub_self]
  | some curBuffer =>
    rw [hbuffer] at hsize hexact
    dsimp only [Option.getD_some] at hsize hexact ⊢
    rw [List.length_append] at hsize ⊢
    have hlength : (Int32.ofNat c.buf.length).toInt = c.buf.length :=
      Int32.toInt_ofNat_of_lt (by omega)
    rw [toInt_add_eq (by omega) (by omega), hlength]
    omega

/-- The first loop leaves a buffer without an empty line at its front alone. -/
theorem dropKeepAlives_eq_self {buffer : List UInt8} (h : ∀ b rest, buffer ≠ CR :: b :: rest) :
    dropKeepAlives buffer = buffer := by
  match buffer, h with
  | [], _ => rfl
  | [b], _ => rfl
  | b :: b' :: rest, h =>
    rw [dropKeepAlives, if_neg]
    rintro rfl
    exact h b' rest rfl

theorem length_dropKeepAlives_le (buffer : List UInt8) :
    (dropKeepAlives buffer).length ≤ buffer.length := by
  induction buffer using dropKeepAlives.induct with
  | case1 => exact le_rfl
  | case2 b => exact le_rfl
  | case3 b' rest ih =>
    rw [dropKeepAlives, if_pos rfl, List.length_cons, List.length_cons]
    omega
  | case4 b b' rest hne => rw [dropKeepAlives, if_neg hne]

/-- What the first loop removes is the drift. -/
theorem drift_reader (hexact : SizeExact s) (hsize : (s.append c.buf).buffer.length < 2 ^ 31) :
    drift (s.reader c.buf) =
      (s.append c.buf).buffer.length - (dropKeepAlives (s.append c.buf).buffer).length := by
  have hdrift := drift_append hexact hsize
  unfold drift at hdrift
  show (s.append c.buf).bufSize.toInt - ((dropKeepAlives (s.append c.buf).buffer).length : ℤ) = _
  omega

theorem reader_handed (s : SwTwitterItemStream) (buf : List UInt8) :
    (s.reader buf).handed = s.handed := (append_buffer s buf).2

/-- A call that meets the condition keeps both lengths equal, and the parser inside the string. -/
theorem CallKept.accounted (h : CallKept lib s c) (hexact : SizeExact s)
    (hfits : ∀ m ∈ s.handed, m.Fits) {r : StreamReader}
    (hpasses : Loop.Passes (messageTurn lib c.nullDiff) (s.reader c.buf) r) :
    drift r = 0 ∧ ∀ m ∈ r.handed, m.Fits := by
  refine accounted_of_passes hpasses h.turns ?_ ?_
  · rw [drift_reader hexact h.size, dropKeepAlives_eq_self h.front, Int.sub_self]
  · rw [reader_handed]
    exact hfits

theorem sizeExact_of_drift {r : StreamReader} (h : drift r = 0) :
    SizeExact ⟨some r.buffer, r.bufSize, r.handed⟩ := by
  unfold drift at h
  show r.bufSize.toInt = (r.buffer.length : ℤ)
  omega

theorem CallKept.returns (h : CallKept lib s c) (hexact : SizeExact s)
    (hfits : ∀ m ∈ s.handed, m.Fits) (hreturns : s.ReturnsIn lib c.call s') :
    SizeExact s' ∧ ∀ m ∈ s'.handed, m.Fits := by
  obtain ⟨-, r, hends, -, rfl⟩ :=
    (SwTwitterItemStream.returnsIn_chunk_iff c.buf c.nullDiff).1 hreturns
  obtain ⟨hdrift, hfits'⟩ := h.accounted hexact hfits (Loop.endsIn_iff_passes.1 hends).1
  exact ⟨sizeExact_of_drift hdrift, hfits'⟩

/-- **An empty line at the front is never accounted for**, however sound the turns are. -/
theorem not_callAccounted_of_keepAlive (hexact : SizeExact s)
    (hsize : (s.append c.buf).buffer.length < 2 ^ 31)
    (hturns : ∀ r, Loop.Passes (messageTurn lib c.nullDiff) (s.reader c.buf) r →
      TurnSound lib c.nullDiff r)
    {b : UInt8} {rest : List UInt8} (hfront : (s.append c.buf).buffer = CR :: b :: rest)
    (hreturns : s.Returns lib c.call) : ¬ CallAccounted lib s c := by
  rintro ⟨hfits, hexact'⟩
  obtain ⟨s', hreturns⟩ := hreturns
  obtain ⟨-, r, hends, -, rfl⟩ :=
    (SwTwitterItemStream.returnsIn_chunk_iff c.buf c.nullDiff).1 hreturns
  have hdrift := drift_of_passes (Loop.endsIn_iff_passes.1 hends).1 hturns hfits
  have hshorter := length_dropKeepAlives_le rest
  rw [drift_reader hexact hsize, hfront, dropKeepAlives, if_pos rfl, List.length_cons,
    List.length_cons] at hdrift
  have hsizes : r.bufSize.toInt = (r.buffer.length : ℤ) := hexact' _ hreturns
  unfold drift at hdrift
  omega

end Calls

/-! ## The main result -/

theorem everyCall_accounted_from {lib : StreamLibrary} {chunks : List StreamChunk}
    {s : SwTwitterItemStream} (hexact : SizeExact s) (hfits : ∀ m ∈ s.handed, m.Fits)
    (h : EveryCall lib (CallKept lib) s chunks) :
    EveryCall lib (CallAccounted lib) s chunks := by
  induction chunks generalizing s with
  | nil => trivial
  | cons c chunks ih =>
    obtain ⟨hkept, hcalls⟩ := h
    refine ⟨⟨fun r hpasses => (hkept.accounted hexact hfits hpasses).2, ?_⟩, ?_⟩
    · exact fun s' hreturns => (hkept.returns hexact hfits hreturns).1
    · intro s' hreturns
      obtain ⟨hexact', hfits'⟩ := hkept.returns hexact hfits hreturns
      exact ih hexact' hfits' (hcalls s' hreturns)

/-- **The two lengths stay equal along every run whose calls meet the condition.** -/
theorem everyCall_accounted (lib : StreamLibrary) (chunks : List StreamChunk)
    (h : EveryCall lib (CallKept lib) .init chunks) :
    EveryCall lib (CallAccounted lib) .init chunks :=
  everyCall_accounted_from rfl nofun h

/-- One tweet in one chunk. -/
theorem everyCall_accounted_oneMessage :
    EveryCall leanParser (CallAccounted leanParser) .init [⟨leanTweet.encode, 0⟩] := by
  refine everyCall_accounted leanParser _ ⟨⟨by decide +kernel, ?_, ?_⟩, fun _ _ => trivial⟩
  · intro b rest hfront
    have hhead : leanTweet.encode.head? = some CR := congrArg List.head? hfront
    exact absurd hhead (by decide +kernel)
  have hscan : scanMessageLength Int32.ofInt leanTweet.encode = some 68 := by decide +kernel
  have hturn : messageTurn leanParser 0 (SwTwitterItemStream.init.reader leanTweet.encode) =
      some ⟨[], 0, [⟨leanTweet.payload, 68⟩], true⟩ := by decide +kernel
  intro r hpasses
  cases hpasses with
  | refl =>
    intro messageLength hscan' _
    obtain rfl := Option.some.inj (hscan.symm.trans hscan')
    exact ⟨by decide, 3, by decide +kernel, by decide⟩
  | turn hturn' hpasses =>
    obtain rfl := Option.some.inj (hturn.symm.trans hturn')
    obtain rfl := hpasses.eq_of_none rfl
    exact fun messageLength hscan' => nomatch hscan'

/-- An empty line leaves `buf_size` at 2 with nothing buffered. With the first bytes of the message
`{}` behind it, the parser is given a length of 2 where one byte is left. -/
theorem keepAlive_not_accounted :
    ¬ (∀ (lib : StreamLibrary) (items : List StreamItem) (chunks : List StreamChunk),
      chunks.flatMap StreamChunk.buf <+: encode items →
        EveryCall lib (CallAccounted lib) .init chunks) ∧
    ¬ CallAccounted leanParser .init ⟨[13, 10, 50, 13, 10, 123], 0⟩ := by
  refine ⟨?_, ?_⟩
  · intro hall
    have hcall := (hall leanParser [.keepAlive] [⟨[13, 10], 0⟩] (List.prefix_refl _)).1
    have hreturns : SwTwitterItemStream.init.ReturnsIn leanParser (.chunk [13, 10] 0)
        ⟨some [], 2, []⟩ := ⟨2, by decide +kernel⟩
    have hexact : SizeExact ⟨some [], 2, []⟩ := hcall.2 _ hreturns
    exact absurd hexact (by unfold SizeExact; decide)
  · intro hcall
    have hturn : messageTurn leanParser 0
        (SwTwitterItemStream.init.reader [13, 10, 50, 13, 10, 123]) =
        some ⟨[123], 1, [⟨[123], 2⟩], true⟩ := by decide +kernel
    have hfits := hcall.1 _ (.turn hturn (.refl _)) ⟨[123], 2⟩ List.mem_cons_self
    exact absurd hfits (by unfold HandedMessage.Fits; decide)

end LibSocialWeb
