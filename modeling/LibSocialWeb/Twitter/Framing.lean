import LibSocialWeb.Twitter.Stream

/-!
# Messages on the Twitter stream (`services/twitter/twitter-item-stream.c`)

The server sends messages, each after its length and a line end, and empty lines in between to keep
the connection alive. The network cuts this stream into chunks as it likes.

The callback should hand each message to the parser in the call that brings its last byte, however
the stream is cut, and go on after it. Its test for a whole message goes wrong in three ways:
`buf_size` still counts the bytes of the empty lines that were removed; a length without its line
feed is taken with a `newline_pos` that means nothing; and `sscanf` skips empty lines before a
length, of which the first line feed is then taken for the one after the length.

**Main result.** `framed_iff`: the messages are handed over as they should be, in every call,
exactly when no call leaves a single `\\r` at the front and no turn of the second loop takes a
message whose length, line feed and bytes are not at the front of the buffer, or one that ends the
process.
-/

namespace LibSocialWeb

open Scan

/-! ## Streams -/

/-- A message of the stream: its length in decimal digits, and its bytes. -/
structure Frame where
  digits : List UInt8
  payload : List UInt8
  digits_ne_nil : digits ≠ []
  isDigit : ∀ b ∈ digits, isDigit 10 b = true
  number_eq : number 10 digits = payload.length
  isObject : payload.head? = some 123

inductive StreamItem where
  | keepAlive
  | frame (f : Frame)

def Frame.encode (f : Frame) : List UInt8 := f.digits ++ CR :: LF :: f.payload

def StreamItem.encode : StreamItem → List UInt8
  | keepAlive => [CR, LF]
  | frame f => f.encode

/-- The bytes of the stream. -/
def encode (items : List StreamItem) : List UInt8 := items.flatMap StreamItem.encode

/-- The messages that are wholly among the first `n` bytes. -/
def wholeFrames : List StreamItem → Nat → List (List UInt8)
  | [], _ => []
  | .keepAlive :: items, n => wholeFrames items (n - 2)
  | .frame f :: items, n =>
    if f.encode.length ≤ n then f.payload :: wholeFrames items (n - f.encode.length) else []

/-- The messages of the stream. -/
def payloads : List StreamItem → List (List UInt8)
  | [] => []
  | .keepAlive :: items => payloads items
  | .frame f :: items => f.payload :: payloads items

/-! ## The property and the condition -/

/-- A chunk, with the value of `NULL - str` in its call. -/
structure StreamChunk where
  buf : List UInt8
  nullDiff : Int32

def StreamChunk.call (c : StreamChunk) : StreamCall := .chunk c.buf c.nullDiff

/-- The parser was given the messages that are wholly among the first `n` bytes. -/
def HandedOver (items : List StreamItem) (n : Nat) (s : SwTwitterItemStream) : Prop :=
  s.handed.map HandedMessage.contents = (wholeFrames items n).map some

variable (lib : StreamLibrary)

/-- Every call returns, and after every call the parser was given the messages that are there. -/
def Framed (items : List StreamItem) : Nat → SwTwitterItemStream → List StreamChunk → Prop
  | n, s, [] => HandedOver items n s
  | n, s, c :: chunks =>
    HandedOver items n s ∧
      ∃ s', s.ReturnsIn lib c.call s' ∧ Framed items (n + c.buf.length) s' chunks

/-- Every call is made in a state that allows it, as judged by `ok`. -/
def EveryCall (ok : SwTwitterItemStream → StreamChunk → Prop) :
    SwTwitterItemStream → List StreamChunk → Prop
  | _, [] => True
  | s, c :: chunks => ok s c ∧ ∀ s', s.ReturnsIn lib c.call s' → EveryCall ok s' chunks

/-- A message is taken only if its length is at the front, with its line feed and its bytes, and the
process goes on after it. -/
def TurnOk (nullDiff : Int32) (r : StreamReader) : Prop :=
  ∀ messageLength, scanMessageLength lib.overflow r.buffer = some messageLength →
    newlinePos nullDiff r.buffer r.bufSize + 1 + messageLength ≤ r.bufSize →
    r.buffer.head? ≠ some CR ∧
      (∃ i, gUtf8Strchr r.buffer r.bufSize.toInt LF = some i ∧
        (i : Int) + 1 + messageLength.toInt ≤ r.buffer.length) ∧
      lib.goesOn (r.message nullDiff messageLength) = true

/-- No single `\r` is left at the front, and no turn takes what is not a message. -/
def CallOk (s : SwTwitterItemStream) (c : StreamChunk) : Prop :=
  dropKeepAlives (s.append c.buf).buffer ≠ [CR] ∧
    ∀ r, Loop.Passes (messageTurn lib c.nullDiff) (s.reader c.buf) r →
      TurnOk lib c.nullDiff r

/-- `buf_size` does not overflow. -/
def SizeFits (s : SwTwitterItemStream) (c : StreamChunk) : Prop :=
  s.bufSize.toInt + c.buf.length < 2 ^ 31

/-- The length of every message is a `gint`. -/
def LengthsFit (items : List StreamItem) : Prop :=
  ∀ payload ∈ payloads items, payload.length < 2 ^ 31

/-! ## The stream from the front -/

theorem encode_cons (item : StreamItem) (items : List StreamItem) :
    encode (item :: items) = item.encode ++ encode items := List.flatMap_cons

theorem encode_append (items items' : List StreamItem) :
    encode (items ++ items') = encode items ++ encode items' := List.flatMap_append

theorem wholeFrames_zero (items : List StreamItem) : wholeFrames items 0 = [] := by
  induction items with
  | nil => rfl
  | cons item items ih =>
    cases item with
    | keepAlive => exact ih
    | frame f =>
      rw [wholeFrames, if_neg]
      simp [Frame.encode]

theorem payloads_append (items items' : List StreamItem) :
    payloads (items ++ items') = payloads items ++ payloads items' := by
  induction items with
  | nil => rfl
  | cons item items ih =>
    cases item with
    | keepAlive => exact ih
    | frame f => rw [List.cons_append, payloads, payloads, ih, List.cons_append]

/-- What is wholly there is what comes first and what is wholly there of the rest. -/
theorem wholeFrames_append (items items' : List StreamItem) (n : Nat) :
    wholeFrames (items ++ items') ((encode items).length + n) =
      payloads items ++ wholeFrames items' n := by
  induction items with
  | nil => rw [List.nil_append, payloads, List.nil_append, encode, List.flatMap_nil,
      List.length_nil, Nat.zero_add]
  | cons item items ih =>
    have hlength : (encode (item :: items)).length + n =
        item.encode.length + ((encode items).length + n) := by
      rw [encode_cons, List.length_append, Nat.add_assoc]
    rw [List.cons_append, hlength]
    cases item with
    | keepAlive =>
      rw [wholeFrames, payloads, ← ih]
      congr 1
      show 2 + ((encode items).length + n) - 2 = _
      exact Nat.add_sub_cancel_left ..
    | frame f =>
      have hle : f.encode.length ≤ f.encode.length + ((encode items).length + n) :=
        Nat.le_add_right _ _
      rw [wholeFrames, payloads, StreamItem.encode, if_pos hle, Nat.add_sub_cancel_left, ih,
        List.cons_append]

/-- A frame is at the front of the bytes: only a part of its length and `\r`, or more. -/
theorem frame_split {f : Frame} {buffer later rest : List UInt8}
    (h : buffer ++ later = f.encode ++ rest) :
    (∃ more, buffer ++ more = f.digits ++ [CR]) ∨
      ∃ tail, buffer = f.digits ++ CR :: LF :: tail ∧ tail ++ later = f.payload ++ rest := by
  have h' : buffer ++ later = (f.digits ++ [CR]) ++ LF :: (f.payload ++ rest) := by
    rw [h, Frame.encode]
    simp
  rcases List.append_eq_append_iff.1 h' with ⟨more, hmore, -⟩ | ⟨tail, hbuffer, htail⟩
  · exact Or.inl ⟨more, hmore.symm⟩
  · cases tail with
    | nil => exact Or.inl ⟨[], by rw [List.append_nil, hbuffer, List.append_nil]⟩
    | cons b tail =>
      obtain ⟨hb, hrest⟩ := List.cons.inj htail
      refine Or.inr ⟨tail, ?_, hrest.symm⟩
      rw [hbuffer, ← hb, List.append_assoc, List.singleton_append]

/-- An empty line is at the front of the bytes: nothing of it, or `\r`, or both bytes. -/
theorem keepAlive_split {buffer later rest : List UInt8}
    (h : buffer ++ later = CR :: LF :: rest) :
    buffer = [] ∨ buffer = [CR] ∨ ∃ tail, buffer = CR :: LF :: tail ∧ tail ++ later = rest := by
  match buffer, h with
  | [], _ => exact Or.inl rfl
  | [b], h =>
    rw [List.cons_append] at h
    exact Or.inr (Or.inl (by rw [(List.cons.inj h).1]))
  | b :: b' :: tail, h =>
    obtain ⟨hb, hrest⟩ := List.cons.inj h
    obtain ⟨hb', htail⟩ := List.cons.inj hrest
    exact Or.inr (Or.inr ⟨tail, by rw [hb, hb'], htail⟩)

/-! ## Looking at the front -/

theorem cr_not_digit : isDigit 10 CR = false := by decide

theorem lf_not_mem_digits (f : Frame) : LF ∉ f.digits := not_mem_of_digits f.isDigit (by decide)

theorem scanInteger_frame (f : Frame) (tail : List UInt8) :
    scanInteger 10 (f.digits ++ CR :: tail) = some (f.payload.length : ℤ) := by
  rw [scanInteger_digits f.digits_ne_nil f.isDigit _ (Or.inl (by decide)), f.number_eq]
  intro b hb
  cases hb
  exact cr_not_digit

theorem scanInteger_keepAlive (tail : List UInt8) :
    scanInteger 10 (CR :: LF :: tail) = scanInteger 10 tail :=
  scanInteger_space [CR, LF] (by decide +kernel)

/-- Where `g_utf8_strchr` finds the character, if the length covers the buffer. -/
theorem gUtf8Strchr_eq {buffer : List UInt8} {len : Int} (h : (buffer.length : Int) ≤ len)
    (c : UInt8) : gUtf8Strchr buffer len c = (cString buffer).findIdx? (· == c) := by
  have hlength := (cString_isPrefix buffer).length_le
  unfold gUtf8Strchr
  rw [if_neg (by omega), List.take_of_length_le (by omega)]

theorem findIdx_append_of_not_mem {s t : List UInt8} {c : UInt8} (h : c ∉ s) :
    (s ++ c :: t).findIdx? (· == c) = some s.length := by
  induction s with
  | nil =>
    rw [List.nil_append, List.findIdx?_cons, beq_self_eq_true, if_pos rfl]
    rfl
  | cons b s ih =>
    rw [List.mem_cons, not_or] at h
    have hb : (b == c) = false := beq_eq_false_iff_ne.2 (Ne.symm h.1)
    rw [List.cons_append, List.findIdx?_cons, hb, if_neg Bool.false_ne_true, ih h.2]
    rfl

theorem strchr_frame (f : Frame) {tail : List UInt8} {len : Int}
    (h : ((f.digits ++ CR :: LF :: tail).length : Int) ≤ len) :
    gUtf8Strchr (f.digits ++ CR :: LF :: tail) len LF = some (f.digits.length + 1) := by
  have hzero : (0 : UInt8) ∉ f.digits ++ [CR, LF] := by
    rw [List.mem_append, not_or]
    exact ⟨not_mem_of_digits f.isDigit (by decide), by decide⟩
  have hsplit : f.digits ++ CR :: LF :: tail = (f.digits ++ [CR, LF]) ++ tail := by simp
  have hlf : LF ∉ f.digits ++ [CR] := by
    rw [List.mem_append, not_or]
    exact ⟨lf_not_mem_digits f, by decide⟩
  rw [gUtf8Strchr_eq h, hsplit, cString_append hzero,
    show (f.digits ++ [CR, LF]) ++ cString tail = (f.digits ++ [CR]) ++ LF :: cString tail by simp,
    findIdx_append_of_not_mem hlf, List.length_append, List.length_singleton]

theorem strchr_keepAlive {tail : List UInt8} {len : Int}
    (h : ((CR :: LF :: tail).length : Int) ≤ len) :
    gUtf8Strchr (CR :: LF :: tail) len LF = some 1 := by
  have hzero : (0 : UInt8) ∉ [CR, LF] := by decide
  have hcString : cString (CR :: LF :: tail) = CR :: LF :: cString tail :=
    cString_append (s := [CR, LF]) hzero
  rw [gUtf8Strchr_eq h, hcString]
  exact findIdx_append_of_not_mem (s := [CR]) (by decide)

/-- Nothing is found where there is no line feed. -/
theorem strchr_none {buffer : List UInt8} (len : Int) {c : UInt8} (h : c ∉ buffer) :
    gUtf8Strchr buffer len c = none :=
  gUtf8Strchr_none (fun hmem => h ((cString_isPrefix buffer).subset hmem)) len

/-! ## One turn -/

section Turns

variable {lib : StreamLibrary} {nullDiff : Int32} {r r' : StreamReader}
  {items rest : List StreamItem} {later : List UInt8}

/-- The buffer is at the front of the rest of the stream, and `buf_size` counts all its bytes. -/
structure Reading (rest : List StreamItem) (later : List UInt8) (r : StreamReader) : Prop where
  bytes : r.buffer ++ later = encode rest
  size : (r.buffer.length : Int) ≤ r.bufSize.toInt

theorem scanMessageLength_of_scan (overflow : Int → Int32) {str : List UInt8} {n : Nat}
    (h : scanInteger 10 str = some (n : ℤ)) (hn : n < 2 ^ 31) :
    ∃ messageLength, scanMessageLength overflow str = some messageLength ∧
      messageLength.toInt = n := by
  refine ⟨Int32.ofInt n, ?_, Int32.toInt_ofInt_of_le (by omega) (by omega)⟩
  rw [scanMessageLength, h, Option.map_some, toGint, if_pos ⟨by omega, by omega⟩]

/-- The sums of the test, when the line feed is found and they do not overflow. -/
theorem toInt_newlinePos_of_lt (nullDiff : Int32) {buffer : List UInt8}
    {bufSize messageLength : Int32} {i : Nat}
    (hfound : gUtf8Strchr buffer bufSize.toInt LF = some i) (hnonneg : 0 ≤ messageLength.toInt)
    (hsum : (i : ℤ) + 1 + messageLength.toInt < 2 ^ 31) :
    (newlinePos nullDiff buffer bufSize + 1).toInt = i + 1 ∧
      (newlinePos nullDiff buffer bufSize + 1 + messageLength).toInt =
        i + 1 + messageLength.toInt := by
  have hpos : newlinePos nullDiff buffer bufSize = Int32.ofNat i := by rw [newlinePos, hfound]
  have hone := toInt_ofNat_add_one (i := i) (by omega)
  rw [hpos]
  refine ⟨hone, ?_⟩
  rw [toInt_add_eq (by omega) (by omega), hone]

/-- A message that is there is taken, with its length. -/
theorem toInt_newlinePos (nullDiff : Int32) {buffer : List UInt8} {bufSize messageLength : Int32}
    {i n : Nat}
    (hfound : gUtf8Strchr buffer bufSize.toInt LF = some i) (hn : messageLength.toInt = n)
    (hle : i + 1 + n ≤ buffer.length) (hsize : (buffer.length : Int) ≤ bufSize.toInt) :
    (newlinePos nullDiff buffer bufSize + 1).toInt = i + 1 ∧
      (newlinePos nullDiff buffer bufSize + 1 + messageLength).toInt = i + 1 + n := by
  have hlt := Int32.toInt_lt bufSize
  rw [← hn]
  exact toInt_newlinePos_of_lt nullDiff hfound (by omega) (by omega)

/-- Where a message is wholly there, some number and some line feed are found. -/
theorem front_of_wholeFrames {buffer : List UInt8} (h : buffer ++ later = encode rest)
    (hfit : LengthsFit rest) (hwhole : wholeFrames rest buffer.length ≠ []) {len : Int}
    (hlen : (buffer.length : Int) ≤ len) :
    ∃ n i : Nat, n < 2 ^ 31 ∧ scanInteger 10 buffer = some (n : ℤ) ∧
      gUtf8Strchr buffer len LF = some i ∧ i + 1 + n ≤ buffer.length := by
  induction rest generalizing buffer len with
  | nil => exact absurd rfl hwhole
  | cons item rest ih =>
    rw [encode_cons] at h
    cases item with
    | keepAlive =>
      rw [wholeFrames] at hwhole
      rcases keepAlive_split h with rfl | rfl | ⟨tail, rfl, htail⟩
      · exact absurd (wholeFrames_zero rest) hwhole
      · exact absurd (wholeFrames_zero rest) hwhole
      · obtain ⟨n, i, hn, hscan, -, hle⟩ := ih htail hfit hwhole le_rfl
        refine ⟨n, 1, hn, (scanInteger_keepAlive tail).trans hscan, strchr_keepAlive hlen, ?_⟩
        simp only [List.length_cons]
        omega
    | frame f =>
      have hf : f.encode.length ≤ buffer.length := by
        by_contra hlt
        rw [wholeFrames, if_neg hlt] at hwhole
        exact hwhole rfl
      rcases frame_split h with ⟨more, hmore⟩ | ⟨tail, rfl, -⟩
      · have hlength := congrArg List.length hmore
        simp only [Frame.encode, List.length_append, List.length_cons, List.length_nil]
          at hf hlength
        omega
      · refine ⟨f.payload.length, f.digits.length + 1, hfit _ (by simp [payloads]),
          scanInteger_frame f _, strchr_frame f hlen, ?_⟩
        simp only [Frame.encode, List.length_append, List.length_cons] at hf ⊢
        omega

/-- The loop is left when no message is wholly there. -/
theorem wholeFrames_of_turn_none (h : Reading rest later r) (hfit : LengthsFit rest)
    (hrunning : r.running = true)
    (hturn : messageTurn lib nullDiff r = none) : wholeFrames rest r.buffer.length = [] := by
  by_contra hwhole
  obtain ⟨n, i, hn, hscan, hfound, hle⟩ := front_of_wholeFrames h.bytes hfit hwhole h.size
  obtain ⟨messageLength, hscan', hlength⟩ := scanMessageLength_of_scan lib.overflow hscan hn
  have hsum := (toInt_newlinePos nullDiff hfound hlength hle h.size).2
  have hsize := h.size
  have htest : newlinePos nullDiff r.buffer r.bufSize + 1 + messageLength ≤ r.bufSize := by
    rw [Int32.le_iff_toInt_le, hsum]
    omega
  rw [messageTurn_takes ⟨hrunning, hscan', htest⟩] at hturn
  cases hturn

/-- Only a length can be at the front where the loop takes a message. -/
theorem not_nil_of_scan {messageLength : Int32} (h : r.buffer ++ later = encode [])
    (hscan : scanMessageLength lib.overflow r.buffer = some messageLength) : False :=
  buffer_ne_nil hscan (List.append_eq_nil_iff.1 h).1

/-- A message begins with a digit. -/
theorem head_frame_ne (f : Frame) {b : UInt8} (hb : isDigit 10 b = false) (tail : List UInt8) :
    (f.digits ++ tail).head? ≠ some b := by
  obtain ⟨d, ds, hds⟩ := List.exists_cons_of_ne_nil f.digits_ne_nil
  have hdigit : isDigit 10 d = true := f.isDigit d (by rw [hds]; exact List.mem_cons_self)
  rw [hds]
  intro heq
  rw [Option.some.inj heq, hb] at hdigit
  cases hdigit

/-- A buffer that ends inside a length has its digits and `\\r` only. -/
theorem not_mem_part_of_length {f : Frame} {buffer more : List UInt8}
    (h : buffer ++ more = f.digits ++ [CR]) {b : UInt8} (hb : isDigit 10 b = false)
    (hcr : b ≠ CR) : b ∉ buffer := by
  intro hmem
  rcases List.mem_append.1 (h ▸ List.mem_append_left more hmem) with hdigit | hlast
  · rw [f.isDigit b hdigit] at hb
    cases hb
  · exact hcr (List.mem_singleton.1 hlast)

/-- The number that is found at a message is its length. -/
theorem toInt_of_scan_frame {f : Frame} {tail : List UInt8} {messageLength : Int32}
    (hfit : f.payload.length < 2 ^ 31)
    (hscan : scanMessageLength lib.overflow (f.digits ++ CR :: LF :: tail) = some messageLength) :
    messageLength.toInt = f.payload.length := by
  obtain ⟨messageLength', hscan', hlength⟩ :=
    scanMessageLength_of_scan lib.overflow (scanInteger_frame f (LF :: tail)) hfit
  rw [hscan] at hscan'
  rw [Option.some.inj hscan', hlength]

/-- The length and its line end are erased. -/
theorem gStringErase_frame (f : Frame) (tail : List UInt8) :
    gStringErase (f.digits ++ CR :: LF :: tail) 0 (((f.digits.length + 1 : Nat) : Int) + 1) =
      tail := by
  have hlength : (f.digits ++ CR :: LF :: tail).length = f.digits.length + 2 + tail.length := by
    simp only [List.length_append, List.length_cons]
    omega
  rw [gStringErase_of_le (by omega) (by omega)]
  show (f.digits ++ ([CR, LF] ++ tail)).drop (f.digits.length + 2) = tail
  rw [← List.append_assoc]
  exact List.drop_left' (by simp)

/-- Where the length of a message is in the buffer, its line feed is found, and what is erased first
is the length. -/
theorem Reading.front_frame (h : Reading rest later r) (nullDiff : Int32) {f : Frame}
    {tail : List UInt8} (hbuffer : r.buffer = f.digits ++ CR :: LF :: tail) :
    gUtf8Strchr r.buffer r.bufSize.toInt LF = some (f.digits.length + 1) ∧
      r.buffer.length = f.digits.length + 2 + tail.length ∧
      ∀ messageLength, (r.message nullDiff messageLength).data = tail := by
  have hsize := h.size
  have hlt := Int32.toInt_lt r.bufSize
  have hfound : gUtf8Strchr r.buffer r.bufSize.toInt LF = some (f.digits.length + 1) := by
    rw [hbuffer] at hsize ⊢
    exact strchr_frame f hsize
  have hlength : r.buffer.length = f.digits.length + 2 + tail.length := by
    rw [hbuffer]
    simp only [List.length_append, List.length_cons]
    omega
  have hone : (newlinePos nullDiff r.buffer r.bufSize + 1).toInt =
      ((f.digits.length + 1 : Nat) : Int) + 1 := by
    rw [newlinePos, hfound]
    exact toInt_ofNat_add_one (by omega)
  refine ⟨hfound, hlength, fun messageLength => ?_⟩
  rw [StreamReader.message, hone, hbuffer]
  exact gStringErase_frame f tail

/-- The message that a turn takes is the next one of the stream. -/
theorem Reading.turn (h : Reading rest later r) (hfit : LengthsFit rest)
    (hok : TurnOk lib nullDiff r) (hturn : messageTurn lib nullDiff r = some r') :
    ∃ f rest', rest = .frame f :: rest' ∧ Reading rest' later r' ∧
      r'.handed.map HandedMessage.contents =
        r.handed.map HandedMessage.contents ++ [some f.payload] := by
  obtain ⟨messageLength, ⟨-, hscan, htaken⟩, rfl⟩ := of_turn_some hturn
  obtain ⟨hhead, ⟨i, hfound, hle⟩, -⟩ := hok messageLength hscan htaken
  have hbytes := h.bytes
  cases rest with
  | nil => exact (not_nil_of_scan hbytes hscan).elim
  | cons item rest =>
    rw [encode_cons] at hbytes
    cases item with
    | keepAlive =>
      rcases keepAlive_split hbytes with hnil | hcr | ⟨tail, hbuffer, -⟩
      · exact absurd hnil (buffer_ne_nil hscan)
      · rw [hcr] at hhead
        exact absurd rfl hhead
      · rw [hbuffer] at hhead
        exact absurd rfl hhead
    | frame f =>
      rcases frame_split hbytes with ⟨more, hmore⟩ | ⟨tail, hbuffer, htail⟩
      · have hlf : LF ∉ r.buffer := not_mem_part_of_length hmore (by decide) (by decide)
        rw [strchr_none _ hlf] at hfound
        cases hfound
      · have hsize := h.size
        rw [hbuffer] at hscan
        have hlength := toInt_of_scan_frame (hfit _ (by simp [payloads])) hscan
        obtain ⟨hfound', hbufferLength, hheader⟩ := h.front_frame nullDiff hbuffer
        obtain rfl : i = f.digits.length + 1 := Option.some.inj (hfound.symm.trans hfound')
        have hsum := (toInt_newlinePos nullDiff hfound hlength (by omega) hsize).2
        obtain ⟨tail', rfl⟩ : f.payload <+: tail :=
          List.prefix_of_prefix_length_le ⟨encode rest, htail.symm⟩ ⟨later, rfl⟩ (by omega)
        have hmessage : gStringErase (f.payload ++ tail') 0 messageLength.toInt = tail' := by
          rw [hlength, gStringErase_of_le (by omega) (by rw [List.length_append]; omega)]
          exact List.drop_left
        refine ⟨f, rest, rfl, ⟨?_, ?_⟩, ?_⟩
        · rw [hheader, hmessage]
          rw [List.append_assoc] at htail
          exact List.append_cancel_left htail
        · have hlt := Int32.toInt_lt r.bufSize
          dsimp only
          rw [hheader, hmessage]
          show (tail'.length : Int) ≤ (r.bufSize - _).toInt
          rw [toInt_sub_eq (by omega) (by omega), hsum]
          simp only [List.length_append] at hbufferLength
          omega
        · have hcontents : (r.message nullDiff messageLength).contents = some f.payload := by
            rw [HandedMessage.contents, hheader]
            show (if 0 ≤ messageLength.toInt ∧ messageLength.toInt ≤ _ then
              some (List.take messageLength.toInt.toNat _) else none) = _
            rw [if_pos, hlength, Int.toNat_natCast, List.take_left]
            rw [hlength, List.length_append]
            omega
          rw [List.map_append, List.map_singleton, hcontents]

/-! ## A turn that goes wrong -/

/-- The parser reads an object that is in the buffer. -/
def IsObject (m : HandedMessage) : Prop :=
  ∃ contents, m.contents = some contents ∧ contents.head? = some 123

theorem head_of_isObject {m : HandedMessage} (h : IsObject m) : m.data.head? = some 123 := by
  obtain ⟨contents, hcontents, hhead⟩ := h
  unfold HandedMessage.contents at hcontents
  split_ifs at hcontents
  rw [← Option.some.inj hcontents] at hhead
  cases hdata : m.data with
  | nil =>
    rw [hdata, List.take_nil] at hhead
    cases hhead
  | cons b data =>
    cases hn : m.length.toInt.toNat with
    | zero =>
      rw [hn, List.take_zero] at hhead
      cases hhead
    | succ n =>
      rw [hdata, hn, List.take_succ_cons] at hhead
      exact hhead

/-- No item of the stream begins as an object. -/
theorem head_encode {buffer : List UInt8} (h : buffer ++ later = encode rest) :
    buffer.head? ≠ some 123 := by
  intro hhead
  have hstream : (encode rest).head? = some 123 := by
    rw [← h, List.head?_append, hhead]
    rfl
  cases rest with
  | nil => cases hstream
  | cons item rest =>
    rw [encode_cons, List.head?_append] at hstream
    cases item with
    | keepAlive =>
      exact absurd (Option.some.inj hstream) (by decide)
    | frame f =>
      rw [← List.head?_append, StreamItem.encode, Frame.encode, List.append_assoc] at hstream
      exact head_frame_ne f (by decide) _ hstream

theorem mem_of_mem_gStringErase {string : List UInt8} {len : Int} {b : UInt8}
    (h : b ∈ gStringErase string 0 len) : b ∈ string := by
  rw [gStringErase_zero] at h
  split_ifs at h
  · cases h
  · exact h
  · exact List.mem_of_mem_drop h

/-- An empty line at the front is erased as if it were a length. -/
theorem Reading.front_keepAlive (h : Reading rest later r) (nullDiff : Int32) {tail : List UInt8}
    (hbuffer : r.buffer = CR :: LF :: tail) (messageLength : Int32) :
    (r.message nullDiff messageLength).data = tail := by
  have hsize := h.size
  have hfound : gUtf8Strchr r.buffer r.bufSize.toInt LF = some 1 := by
    rw [hbuffer] at hsize ⊢
    exact strchr_keepAlive hsize
  have hpos : newlinePos nullDiff r.buffer r.bufSize = 1 := by
    rw [newlinePos, hfound]
    rfl
  have htwo : (1 + 1 : Int32).toInt = 2 := by decide
  have hlength : (2 : Int) ≤ r.buffer.length := by
    rw [hbuffer]
    simp only [List.length_cons]
    omega
  rw [StreamReader.message, hpos, htwo, gStringErase_of_le (by decide) hlength, hbuffer]
  rfl

/-- **A turn that is not allowed gives the parser something that is no object of the stream, or ends
the process.** -/
theorem Reading.bad_turn (h : Reading rest later r) (hfit : LengthsFit rest)
    (hrunning : r.running = true) (hbad : ¬ TurnOk lib nullDiff r) :
    ∃ r' m, messageTurn lib nullDiff r = some r' ∧ r'.handed = r.handed ++ [m] ∧
      (IsObject m → r'.running = false) := by
  unfold TurnOk at hbad
  push Not at hbad
  obtain ⟨messageLength, hscan, htaken, hbad⟩ := hbad
  refine ⟨_, _, messageTurn_takes ⟨hrunning, hscan, htaken⟩, rfl, ?_⟩
  intro hobject
  have hhead := head_of_isObject hobject
  have hbytes := h.bytes
  cases rest with
  | nil => exact (not_nil_of_scan hbytes hscan).elim
  | cons item rest =>
    rw [encode_cons] at hbytes
    cases item with
    | keepAlive =>
      rcases keepAlive_split hbytes with hnil | hcr | ⟨tail, hbuffer, htail⟩
      · exact absurd hnil (buffer_ne_nil hscan)
      · rw [hcr] at hscan
        cases hscan
      · -- What is behind the empty line comes as the message.
        rw [h.front_keepAlive nullDiff hbuffer] at hhead
        exact absurd hhead (head_encode htail)
    | frame f =>
      rcases frame_split hbytes with ⟨more, hmore⟩ | ⟨tail, hbuffer, htail⟩
      · -- Only a part of the length is there, and no byte of it begins an object.
        exact absurd (mem_of_mem_gStringErase (List.mem_of_mem_head? hhead))
          (not_mem_part_of_length hmore (by decide) (by decide))
      · obtain ⟨hfound, hbufferLength, hdata⟩ := h.front_frame nullDiff hbuffer
        have hcr : r.buffer.head? ≠ some CR := by
          rw [hbuffer]
          exact head_frame_ne f (by decide) _
        refine Bool.eq_false_iff.2 (hbad hcr ⟨_, hfound, ?_⟩)
        -- The message is not cut short.
        rw [hbuffer] at hscan
        have hlength := toInt_of_scan_frame (hfit _ (by simp [payloads])) hscan
        obtain ⟨contents, hcontents, -⟩ := hobject
        unfold HandedMessage.contents at hcontents
        split_ifs at hcontents with hinside
        rw [hdata] at hinside
        have hle : messageLength.toInt ≤ tail.length := hinside.2
        omega

/-! ## The loops -/

/-- Nothing that was given to the parser is taken back. -/
theorem handed_isPrefix (h : Loop.Passes (messageTurn lib nullDiff) r r') :
    r.handed <+: r'.handed := by
  induction h with
  | refl => exact List.prefix_rfl
  | turn hturn _ ih =>
    obtain ⟨messageLength, -, rfl⟩ := of_turn_some hturn
    exact (List.prefix_append _ _).trans ih

theorem lengthsFit_of_append (done : List StreamItem) (h : LengthsFit (done ++ rest)) :
    LengthsFit rest := by
  intro payload hmem
  refine h payload ?_
  rw [payloads_append]
  exact List.mem_append_right _ hmem

/-- The second loop takes the messages that are wholly there. -/
theorem Reading.loop (h : Reading rest later r) (hfit : LengthsFit rest)
    (hends : Loop.EndsIn (messageTurn lib nullDiff) r r') (hrunning : r'.running = true)
    (hok : ∀ r'', Loop.Passes (messageTurn lib nullDiff) r r'' →
      TurnOk lib nullDiff r'') :
    ∃ done rest', rest = done ++ rest' ∧ Reading rest' later r' ∧
      r'.handed.map HandedMessage.contents =
        r.handed.map HandedMessage.contents ++ (payloads done).map some ∧
      wholeFrames rest' r'.buffer.length = [] := by
  obtain ⟨hpasses, hnone⟩ := Loop.endsIn_iff_passes.1 hends
  clear hends
  induction hpasses generalizing rest with
  | refl =>
    exact ⟨[], rest, rfl, h, (List.append_nil _).symm,
      wholeFrames_of_turn_none h hfit hrunning hnone⟩
  | @turn s t u hturn hpasses ih =>
    obtain ⟨f, rest', rfl, hreading, hhanded⟩ := h.turn hfit (hok s (.refl s)) hturn
    have hfit' : LengthsFit rest' := lengthsFit_of_append [.frame f] hfit
    obtain ⟨done, rest'', rfl, hreading', hhanded', hwhole⟩ := ih hreading hfit' hrunning
      (fun r'' hr'' => hok r'' (.turn hturn hr'')) hnone
    refine ⟨.frame f :: done, rest'', rfl, hreading', ?_, hwhole⟩
    rw [hhanded', hhanded, payloads, List.map_cons, List.append_assoc, List.singleton_append]

/-- A loop that is left in a running process has been running before. -/
theorem running_of_endsIn {t : StreamReader}
    (hends : Loop.EndsIn (messageTurn lib nullDiff) r t) (ht : t.running = true) :
    r.running = true := by
  by_contra hended
  have hnone : messageTurn lib nullDiff r = none := messageTurn_ended (Bool.eq_false_iff.2 hended)
  rw [(Loop.endsIn_of_none hnone).unique hends] at hended
  exact hended ht

/-- A loop at whose end the process runs and the parser was given objects only has made allowed
turns. -/
theorem Reading.turnOk (h : Reading rest later r) (hfit : LengthsFit rest) {t : StreamReader}
    (hends : Loop.EndsIn (messageTurn lib nullDiff) r t) (ht : t.running = true)
    (hobjects : ∀ m ∈ t.handed, IsObject m)
    (hpasses : Loop.Passes (messageTurn lib nullDiff) r r') :
    TurnOk lib nullDiff r' := by
  have hfirst : ∀ {rest : List StreamItem} {r : StreamReader}, Reading rest later r →
      LengthsFit rest → Loop.EndsIn (messageTurn lib nullDiff) r t →
      TurnOk lib nullDiff r := by
    intro rest r h hfit hends
    by_contra hbad
    obtain ⟨r₁, m, hturn, hhanded, hends'⟩ :=
      h.bad_turn hfit (running_of_endsIn hends ht) hbad
    have hrest := (Loop.endsIn_turn hturn).1 hends
    have hpasses₁ := (Loop.endsIn_iff_passes.1 hrest).1
    have hobject : IsObject m := by
      refine hobjects m ((handed_isPrefix hpasses₁).subset ?_)
      rw [hhanded]
      exact List.mem_append_right _ (List.mem_singleton_self m)
    exact absurd (running_of_endsIn hrest ht) (by rw [hends' hobject]; decide)
  induction hpasses generalizing rest with
  | refl => exact hfirst h hfit hends
  | turn hturn _ ih =>
    obtain ⟨f, rest', rfl, hreading, -⟩ := h.turn hfit (hfirst h hfit hends) hturn
    exact ih hreading (lengthsFit_of_append [.frame f] hfit)
      ((Loop.endsIn_turn hturn).1 hends)

end Turns

/-- The first loop removes empty lines. -/
theorem dropKeepAlives_encode {rest : List StreamItem} {buffer later : List UInt8}
    (h : buffer ++ later = encode rest) (hne : dropKeepAlives buffer ≠ [CR]) :
    ∃ lines rest', rest = lines ++ rest' ∧ payloads lines = [] ∧
      dropKeepAlives buffer ++ later = encode rest' ∧
      buffer.length = (encode lines).length + (dropKeepAlives buffer).length := by
  induction rest generalizing buffer with
  | nil =>
    obtain ⟨rfl, rfl⟩ := List.append_eq_nil_iff.1 h
    exact ⟨[], [], rfl, rfl, rfl, rfl⟩
  | cons item rest ih =>
    cases item with
    | keepAlive =>
      have h' := h
      rw [encode_cons] at h'
      rcases keepAlive_split h' with rfl | rfl | ⟨tail, rfl, htail⟩
      · exact ⟨[], _, rfl, rfl, h, rfl⟩
      · exact absurd rfl hne
      · have hdrop : dropKeepAlives (CR :: LF :: tail) = dropKeepAlives tail := if_pos rfl
        rw [hdrop] at hne ⊢
        obtain ⟨lines, rest', rfl, hlines, hbytes, hlength⟩ := ih htail hne
        refine ⟨.keepAlive :: lines, rest', rfl, hlines, hbytes, ?_⟩
        rw [encode_cons, List.length_append, List.length_cons, List.length_cons, hlength,
          StreamItem.encode]
        simp only [List.length_cons, List.length_nil]
        omega
    | frame f =>
      have hsame : dropKeepAlives buffer = buffer := by
        obtain ⟨d, ds, hds⟩ := List.exists_cons_of_ne_nil f.digits_ne_nil
        have hd : d ≠ CR := by
          rintro rfl
          have hdigit : isDigit 10 CR = true :=
            f.isDigit CR (by rw [hds]; exact List.mem_cons_self)
          exact absurd hdigit (by decide)
        rw [encode_cons, StreamItem.encode, Frame.encode, hds] at h
        match buffer, h with
        | [], _ => rfl
        | [b], _ => rfl
        | b :: b' :: tail, h =>
          have hb : b ≠ CR := by
            rw [(List.cons.inj h).1]
            exact hd
          exact if_neg hb
      exact ⟨[], _, rfl, rfl, by rw [hsame]; exact h, by rw [hsame]; exact (Nat.zero_add _).symm⟩

/-! ## Calls -/

section Calls

variable {lib : StreamLibrary} {items : List StreamItem} {n : Nat} {later : List UInt8}
  {s s' : SwTwitterItemStream} {c : StreamChunk}

/-- Between two calls, after `n` bytes: what is buffered follows messages that were handed over. -/
structure Between (items : List StreamItem) (n : Nat) (later : List UInt8)
    (s : SwTwitterItemStream) (done rest : List StreamItem) : Prop where
  items : items = done ++ rest
  bytes : s.curBuffer.getD [] ++ later = encode rest
  count : (encode done).length + (s.curBuffer.getD []).length = n
  size : ((s.curBuffer.getD []).length : Int) ≤ s.bufSize.toInt
  new : s.curBuffer = none → s.bufSize = 0
  handed : s.handed.map HandedMessage.contents = (payloads done).map some
  whole : wholeFrames rest (s.curBuffer.getD []).length = []

theorem Between.handedOver {done rest : List StreamItem} (h : Between items n later s done rest) :
    HandedOver items n s := by
  unfold HandedOver
  rw [h.handed, h.items, ← h.count, wholeFrames_append, h.whole, List.append_nil]

/-- The chunk is appended, and its bytes are counted. -/
theorem append_buffer (s : SwTwitterItemStream) (buf : List UInt8) :
    (s.append buf).buffer = s.curBuffer.getD [] ++ buf ∧ (s.append buf).handed = s.handed := by
  unfold SwTwitterItemStream.append
  cases s.curBuffer with
  | none => exact ⟨rfl, rfl⟩
  | some curBuffer => exact ⟨rfl, rfl⟩

theorem append_size {done rest : List StreamItem} (h : Between items n later s done rest)
    (hfits : SizeFits s c) :
    ((s.append c.buf).buffer.length : Int) ≤ (s.append c.buf).bufSize.toInt := by
  have hsize := h.size
  have hfits' : s.bufSize.toInt + c.buf.length < 2 ^ 31 := hfits
  have hlength : (Int32.ofNat c.buf.length).toInt = c.buf.length :=
    Int32.toInt_ofNat_of_lt (by omega)
  have hsum : (s.bufSize + Int32.ofNat c.buf.length).toInt = s.bufSize.toInt + c.buf.length := by
    rw [toInt_add_eq (by omega) (by omega), hlength]
  have hbufSize : (s.append c.buf).bufSize = s.bufSize + Int32.ofNat c.buf.length := by
    unfold SwTwitterItemStream.append
    cases hbuffer : s.curBuffer with
    | none =>
      rw [h.new hbuffer]
    | some curBuffer => rfl
  rw [hbufSize, hsum, (append_buffer s c.buf).1, List.length_append]
  omega

/-- The second loop begins at the front of the rest of the stream. -/
theorem Between.reader {done rest : List StreamItem}
    (h : Between items n (c.buf ++ later) s done rest) (hfits : SizeFits s c)
    (hne : dropKeepAlives (s.append c.buf).buffer ≠ [CR]) :
    ∃ lines rest', rest = lines ++ rest' ∧ payloads lines = [] ∧
      Reading rest' later (s.reader c.buf) ∧
      (encode (done ++ lines)).length + (s.reader c.buf).buffer.length = n + c.buf.length := by
  obtain ⟨hbuffer, -⟩ := append_buffer s c.buf
  have hbytes : (s.append c.buf).buffer ++ later = encode rest := by
    rw [hbuffer, List.append_assoc]
    exact h.bytes
  obtain ⟨lines, rest', hrest, hlines, hbytes', hlength⟩ := dropKeepAlives_encode hbytes hne
  have hsize := append_size h hfits
  refine ⟨lines, rest', hrest, hlines, ⟨hbytes', ?_⟩, ?_⟩
  · show ((dropKeepAlives (s.append c.buf).buffer).length : Int) ≤ (s.append c.buf).bufSize.toInt
    omega
  · show _ + (dropKeepAlives (s.append c.buf).buffer).length = _
    have hcount := h.count
    rw [hbuffer, List.length_append] at hlength
    rw [encode_append, List.length_append, hbuffer]
    omega

/-- A call that is allowed returns and hands over the messages that it completes. -/
theorem Between.call {done rest : List StreamItem}
    (h : Between items n (c.buf ++ later) s done rest) (hfit : LengthsFit items)
    (hfits : SizeFits s c) (hok : CallOk lib s c)
    (hreturns : s.ReturnsIn lib c.call s') :
    ∃ done' rest', Between items (n + c.buf.length) later s' done' rest' := by
  obtain ⟨lines, rest', rfl, hlines, hreading, hcount⟩ := h.reader hfits hok.1
  obtain ⟨-, r, hends, hrunning, rfl⟩ :=
    (SwTwitterItemStream.returnsIn_chunk_iff c.buf c.nullDiff).1 hreturns
  have hitems := h.items
  rw [← List.append_assoc] at hitems
  rw [hitems] at hfit
  obtain ⟨done', rest'', rfl, hreading', hhanded, hwhole⟩ :=
    hreading.loop (lengthsFit_of_append _ hfit) hends hrunning hok.2
  have hpayloads : payloads (done ++ lines ++ done') = payloads done ++ payloads done' := by
    rw [payloads_append, payloads_append, hlines, List.append_nil]
  refine ⟨done ++ lines ++ done', rest'', ?_, hreading'.bytes, ?_, hreading'.size,
    (fun hnew => nomatch hnew), ?_, hwhole⟩
  · rw [hitems, List.append_assoc (done ++ lines)]
  · have hbytes := congrArg List.length hreading.bytes
    have hbytes' := congrArg List.length hreading'.bytes
    show (encode (done ++ lines ++ done')).length + r.buffer.length = n + c.buf.length
    rw [encode_append (done ++ lines), List.length_append]
    rw [encode_append done', List.length_append, List.length_append] at hbytes
    rw [List.length_append] at hbytes'
    omega
  · show r.handed.map HandedMessage.contents = _
    rw [hhanded, hpayloads, List.map_append]
    congr 1
    show (s.append c.buf).handed.map HandedMessage.contents = _
    rw [(append_buffer s c.buf).2, h.handed]

/-- An allowed turn makes the buffer shorter, so that it is not stuck. -/
theorem Reading.turnSettles {rest : List StreamItem} {nullDiff : Int32} {r : StreamReader}
    (h : Reading rest later r) (hfit : LengthsFit rest) (hrunning : r.running = true)
    (hok : TurnOk lib nullDiff r) : TurnSettles lib nullDiff r := by
  intro messageLength hscan htest
  refine ⟨fun hstuck => ?_, (hok messageLength hscan htest).2.2⟩
  obtain ⟨f, rest', rfl, hreading, -⟩ :=
    h.turn hfit hok (messageTurn_idle ⟨hrunning, hscan, htest⟩ (hstuck.idle htest))
  have hbytes := congrArg List.length h.bytes
  have hbytes' := congrArg List.length hreading.bytes
  rw [encode_cons] at hbytes
  simp only [List.length_append, StreamItem.encode, Frame.encode, List.length_cons]
    at hbytes hbytes'
  omega

/-- After allowed turns the reader is still at the front of the rest, in a running process. -/
theorem Reading.of_passes {rest : List StreamItem} {nullDiff : Int32} {r r' : StreamReader}
    (hpasses : Loop.Passes (messageTurn lib nullDiff) r r') (h : Reading rest later r)
    (hfit : LengthsFit rest) (hrunning : r.running = true)
    (hok : ∀ r', Loop.Passes (messageTurn lib nullDiff) r r' → TurnOk lib nullDiff r') :
    ∃ rest', Reading rest' later r' ∧ LengthsFit rest' ∧ r'.running = true := by
  induction hpasses generalizing rest with
  | refl => exact ⟨rest, h, hfit, hrunning⟩
  | @turn s t u hturn _ ih =>
    have hok' := hok s (.refl s)
    obtain ⟨f, rest', rfl, hreading, -⟩ := h.turn hfit hok' hturn
    obtain ⟨messageLength, htakes, rfl⟩ := of_turn_some hturn
    exact ih hreading (lengthsFit_of_append [.frame f] hfit)
      (hok' messageLength htakes.scan htakes.test).2.2
      fun r'' hpasses' => hok r'' (.turn hturn hpasses')

/-- A call that is allowed returns. -/
theorem Between.returns {done rest : List StreamItem}
    (h : Between items n (c.buf ++ later) s done rest) (hfit : LengthsFit items)
    (hfits : SizeFits s c) (hok : CallOk lib s c) : s.Returns lib c.call := by
  obtain ⟨lines, rest', rfl, -, hreading, -⟩ := h.reader hfits hok.1
  have hitems := h.items
  rw [← List.append_assoc] at hitems
  rw [hitems] at hfit
  refine SwTwitterItemStream.returns_of_settles ⟨hok.1, fun r hpasses => ?_⟩
  obtain ⟨rest, hr, hfit', hrunning⟩ :=
    Reading.of_passes hpasses hreading (lengthsFit_of_append _ hfit) (s.reader_running c.buf) hok.2
  exact hr.turnSettles hfit' hrunning (hok.2 r hpasses)

theorem isObject_of_mem_wholeFrames {payload : List UInt8} (h : payload ∈ wholeFrames items n) :
    payload.head? = some 123 := by
  induction items generalizing n with
  | nil => cases h
  | cons item items ih =>
    cases item with
    | keepAlive => exact ih h
    | frame f =>
      rw [wholeFrames] at h
      split_ifs at h
      · rcases List.mem_cons.1 h with rfl | h
        · exact f.isObject
        · exact ih h
      · cases h

/-- A call after which the parser was given the right messages is allowed. -/
theorem Between.callOk {done rest : List StreamItem}
    (h : Between items n (c.buf ++ later) s done rest) (hfit : LengthsFit items)
    (hfits : SizeFits s c) (hreturns : s.ReturnsIn lib c.call s') {m : Nat}
    (hhanded : HandedOver items m s') : CallOk lib s c := by
  obtain ⟨hne, r, hends, hrunning, rfl⟩ :=
    (SwTwitterItemStream.returnsIn_chunk_iff c.buf c.nullDiff).1 hreturns
  obtain ⟨lines, rest', rfl, -, hreading, -⟩ := h.reader hfits hne
  have hitems := h.items
  rw [← List.append_assoc] at hitems
  have hobjects : ∀ m ∈ r.handed, IsObject m := by
    intro message hmem
    have hmem' : message.contents ∈ (wholeFrames items m).map some := by
      rw [← hhanded]
      exact List.mem_map_of_mem hmem
    obtain ⟨payload, hpayload, heq⟩ := List.mem_map.1 hmem'
    exact ⟨payload, heq.symm, isObject_of_mem_wholeFrames hpayload⟩
  refine ⟨hne, ?_⟩
  intro r' hpasses
  rw [hitems] at hfit
  exact hreading.turnOk (lengthsFit_of_append _ hfit) hends hrunning hobjects hpasses

theorem between_start (items : List StreamItem) :
    Between items 0 (encode items) .init [] items where
  items := rfl
  bytes := rfl
  count := rfl
  size := by decide
  new := fun _ => rfl
  handed := rfl
  whole := wholeFrames_zero items

end Calls

/-! ## The main result -/

theorem framed_of_between {lib : StreamLibrary} {items : List StreamItem}
    (hfit : LengthsFit items) {chunks : List StreamChunk} {n : Nat} {later : List UInt8}
    {s : SwTwitterItemStream} {done rest : List StreamItem}
    (h : Between items n (chunks.flatMap StreamChunk.buf ++ later) s done rest)
    (hsizes : EveryCall lib SizeFits s chunks) :
    Framed lib items n s chunks ↔ EveryCall lib (CallOk lib) s chunks := by
  induction chunks generalizing n s done rest with
  | nil => exact iff_of_true h.handedOver trivial
  | cons c chunks ih =>
    rw [List.flatMap_cons, List.append_assoc] at h
    obtain ⟨hfits, hsizes⟩ := hsizes
    refine ⟨?_, ?_⟩
    · rintro ⟨-, s', hreturns, hframed⟩
      have hhanded : HandedOver items (n + c.buf.length) s' := by
        cases chunks with
        | nil => exact hframed
        | cons c' chunks => exact hframed.1
      have hok := h.callOk hfit hfits hreturns hhanded
      refine ⟨hok, ?_⟩
      intro s'' hreturns'
      obtain ⟨done', rest', hbetween⟩ := h.call hfit hfits hok hreturns'
      have heq : s'' = s' := hreturns'.unique hreturns
      rw [heq] at hbetween ⊢
      exact (ih hbetween (hsizes s' hreturns)).1 hframed
    · rintro ⟨hok, hcalls⟩
      obtain ⟨s', hreturns⟩ := h.returns hfit hfits hok
      obtain ⟨done', rest', hbetween⟩ := h.call hfit hfits hok hreturns
      exact ⟨h.handedOver, s', hreturns,
        (ih hbetween (hsizes s' hreturns)).2 (hcalls s' hreturns)⟩

/-- **Main result.** However a stream is cut, every message is handed over in the call that brings
its last byte, and nothing else is, exactly when every call is allowed. -/
theorem framed_iff (lib : StreamLibrary) (items : List StreamItem)
    (chunks : List StreamChunk) (hstream : chunks.flatMap StreamChunk.buf <+: encode items)
    (hfit : LengthsFit items) (hsizes : EveryCall lib SizeFits .init chunks) :
    Framed lib items 0 .init chunks ↔
      EveryCall lib (CallOk lib) .init chunks := by
  obtain ⟨later, hlater⟩ := hstream
  have hstart := between_start items
  rw [← hlater] at hstart
  exact framed_of_between hfit hstart hsizes

/-! ## A message with a date and a text -/

/-- A tweet. -/
def leanTweet : Frame where
  digits := [54, 56]
  payload := ("\x7b\"created_at\":\"Fri Jan 01 00:00:00 +0000 2010\"" ++
    ",\"text\":\"lean\",\"id\":1\x7d").toList.map fun c => UInt8.ofNat c.toNat
  digits_ne_nil := by decide
  isDigit := by decide +kernel
  number_eq := by decide +kernel
  isObject := by decide +kernel

/-- What the parser makes of it. A text that is cut short is an error. -/
def leanParser : StreamLibrary where
  overflow := Int32.ofInt
  parse bytes :=
    if bytes = leanTweet.payload then
      some (.object [("created_at", .value (some "Fri Jan 01 00:00:00 +0000 2010") 0),
        ("text", .value (some "lean") 0), ("id", .value none 1)])
    else none
  parseOutside _ := some none

/-- Two messages that arrive at once. -/
theorem framed_iff_twoAtOnce :
    Framed leanParser [.frame leanTweet, .frame leanTweet] 0 .init
        [⟨encode [.frame leanTweet, .frame leanTweet], 0⟩] ↔
      EveryCall leanParser (CallOk leanParser) .init
        [⟨encode [.frame leanTweet, .frame leanTweet], 0⟩] := by
  refine framed_iff leanParser _ _ ⟨[], rfl⟩ ?_ ⟨?_, fun _ _ => trivial⟩
  · unfold LengthsFit
    decide +kernel
  · unfold SizeFits
    decide +kernel

/-- An empty line and a message, of which the last byte comes in a second chunk: the message is
handed over without that byte, since the bytes of the empty line still count. -/
theorem staleSize_not_framed :
    ¬ ∀ (lib : StreamLibrary) (items : List StreamItem) (chunks : List StreamChunk),
      chunks.flatMap StreamChunk.buf = encode items →
        Framed lib items 0 .init chunks := by
  intro hall
  obtain ⟨-, s', hreturns, hframed⟩ := hall leanParser [.keepAlive, .frame leanTweet]
    [⟨(encode [.keepAlive, .frame leanTweet]).take 73, 0⟩, ⟨[125], 0⟩] (by decide +kernel)
  have hcomputed : SwTwitterItemStream.init.ReturnsIn leanParser
      (.chunk ((encode [.keepAlive, .frame leanTweet]).take 73) 0)
      ⟨some (leanTweet.payload.take 67), 1, [⟨leanTweet.payload.take 67, 68⟩]⟩ :=
    ⟨4, by decide +kernel⟩
  have heq := hreturns.unique hcomputed
  have hhanded := hframed.1
  rw [heq] at hhanded
  exact absurd hhanded (by unfold HandedOver; decide +kernel)

end LibSocialWeb
