import LibSocialWeb.Facebook.Util
import LibSocialWeb.Lib.Loop
import LibSocialWeb.Lib.Scan
import LibSocialWeb.Lib.Wrapping
import Mathlib.Data.Nat.Find
import Mathlib.Tactic.SplitIfs

/-!
# The Twitter stream (`services/twitter/twitter-item-stream.c`)

`_call_continous_cb` is called with each chunk that arrives. It appends the chunk to `cur_buffer`
and counts its bytes in `buf_size`. A first loop removes the empty lines at the front, a second one
takes messages, each of which is a number, a line feed, and as many bytes as the number says.

**Numbers.** A `gint` is an `Int32`, and its sums wrap around. `sscanf` stores a number that is no
`int` as it likes; that is the parameter `overflow`.

**The line feed.** Where `g_utf8_strchr` finds none it returns NULL, and `newline_pos` becomes the
difference between NULL and the buffer's address. That is `nullDiff`, which comes with the chunk:
`g_string_erase` does not move the buffer.

**Faults.** A message that is JSON is made into an item. `strptime` and `strstr` take no NULL, so a
message without the string member `created_at` or `text` ends the process, and the call does not
return. This is so for the notices about deleted tweets that are on the same stream.

**Main result.** `returns_iff`: when a call of the callback returns. It does not when the buffer is
down to a single `\\r`, which the first loop tries to remove two bytes of, when a message ends the
process, or when a turn of the second loop is `Stuck`.
-/

namespace LibSocialWeb

open Scan

/-! ## Strings -/

def CR : UInt8 := 13

def LF : UInt8 := 10

/-- `g_string_erase` -/
def gStringErase (string : List UInt8) (pos : Nat) (len : Int) : List UInt8 :=
  if string.length < pos then string
  else if len < 0 then string.take pos
  else if string.length < pos + len then string
  else string.take pos ++ string.drop (pos + len.toNat)

/-- `g_utf8_strchr`, for a character of one byte: where it is found. -/
def gUtf8Strchr (p : List UInt8) (len : Int) (c : UInt8) : Option Nat :=
  let searched := if len < 0 then cString p else (cString p).take len.toNat
  searched.findIdx? (· == c)

/-! ## The callback -/

/-- A message for `json_parser_load_from_data`: what is at the pointer, and the length. -/
structure HandedMessage where
  data : List UInt8
  length : Int32
  deriving DecidableEq

/-- The stream, with what the parser was given. -/
structure SwTwitterItemStream where
  curBuffer : Option (List UInt8)
  bufSize : Int32
  handed : List HandedMessage
  deriving DecidableEq

/-- `sw_twitter_item_stream_init` -/
def SwTwitterItemStream.init : SwTwitterItemStream := ⟨none, 0, []⟩

/-- The arguments of a call. -/
inductive StreamCall where
  | failed (message : String)
  | chunk (buf : List UInt8) (nullDiff : Int32)
  deriving DecidableEq

/-- What the second loop works on, until a message ends the process. -/
structure StreamReader where
  buffer : List UInt8
  bufSize : Int32
  handed : List HandedMessage
  running : Bool
  deriving DecidableEq

/-- The bytes that the parser reads, if they are in the buffer. -/
def HandedMessage.contents (m : HandedMessage) : Option (List UInt8) :=
  if 0 ≤ m.length.toInt ∧ m.length.toInt ≤ m.data.length then
    some (m.data.take m.length.toInt.toNat)
  else none

/-- What the libraries make of their input: `overflow` is what `sscanf` stores for a number that is
no `int`, and `parse` the root of a JSON text. A root that is NULL is read like a null node.
`parseOutside` is for a length that is not in the buffer; it is `none` if that ends the process. -/
structure StreamLibrary where
  overflow : Int → Int32
  parse : List UInt8 → Option JsonNode
  parseOutside : HandedMessage → Option (Option JsonNode)

variable (overflow : Int → Int32)

/-- What `%d` stores for a number. -/
def toGint (n : Int) : Int32 :=
  if -2 ^ 31 ≤ n ∧ n < 2 ^ 31 then Int32.ofInt n else overflow n

/-- `sscanf (str, "%d\r\n", &message_length)`; white space at the end matches anything. -/
def scanMessageLength (str : List UInt8) : Option Int32 :=
  (scanInteger 10 str).map (toGint overflow)

/-- A turn of the first loop: `while (str[0] == '\r')`. -/
def keepAliveTurn (buffer : List UInt8) : Option (List UInt8) :=
  if buffer.head? = some CR then some (gStringErase buffer 0 2) else none

/-- `message_buf - priv->cur_buffer->str` -/
def newlinePos (nullDiff : Int32) (buffer : List UInt8) (bufSize : Int32) : Int32 :=
  match gUtf8Strchr buffer bufSize.toInt LF with
  | some i => Int32.ofNat i
  | none => nullDiff

namespace StreamLibrary

variable (lib : StreamLibrary)

/-- `json_parser_load_from_data` -/
def loadFromData (m : HandedMessage) : Option (Option JsonNode) :=
  match m.contents with
  | some bytes => some (lib.parse bytes)
  | none => lib.parseOutside m

/-- The process goes on after a message: there is a warning, or `strptime` gets a date and `strstr`
a text. -/
def goesOn (m : HandedMessage) : Bool :=
  match lib.loadFromData m with
  | none => false
  | some none => true
  | some (some node) =>
    (JsonObject.getStringMember node.getObject "created_at").isSome &&
      (JsonObject.getStringMember node.getObject "text").isSome

end StreamLibrary

variable (lib : StreamLibrary)

/-- What a turn of the second loop hands to the parser: the length is erased before that. -/
def StreamReader.message (nullDiff messageLength : Int32) (r : StreamReader) : HandedMessage :=
  ⟨gStringErase r.buffer 0 (newlinePos nullDiff r.buffer r.bufSize + 1).toInt, messageLength⟩

/-- A turn of the second loop. There is none after the process has ended. -/
def messageTurn (nullDiff : Int32) (r : StreamReader) : Option StreamReader :=
  if r.running then
    match scanMessageLength lib.overflow r.buffer with
    | none => none
    | some messageLength =>
      let newlinePos := newlinePos nullDiff r.buffer r.bufSize
      if newlinePos + 1 + messageLength ≤ r.bufSize then
        let message := r.message nullDiff messageLength
        some
          { buffer := gStringErase message.data 0 messageLength.toInt
            bufSize := r.bufSize - (newlinePos + 1 + messageLength)
            handed := r.handed ++ [message]
            running := lib.goesOn message }
      else none
  else none

namespace SwTwitterItemStream

/-- The buffer and its size after the chunk is appended. -/
def append (s : SwTwitterItemStream) (buf : List UInt8) : StreamReader :=
  match s.curBuffer with
  | none => ⟨buf, 0 + Int32.ofNat buf.length, s.handed, true⟩
  | some curBuffer => ⟨curBuffer ++ buf, s.bufSize + Int32.ofNat buf.length, s.handed, true⟩

/-- `_call_continous_cb`, with a bound on the turns of each loop. A call in which the process ends
does not return. -/
def callContinousCb (fuel : Nat) (s : SwTwitterItemStream) :
    StreamCall → Option SwTwitterItemStream
  | .failed _ => some s
  | .chunk buf nullDiff =>
    let r := s.append buf
    (Loop.run keepAliveTurn fuel r.buffer).bind fun buffer =>
      (Loop.run (messageTurn lib nullDiff) fuel { r with buffer := buffer }).bind fun r =>
        if r.running then some ⟨some r.buffer, r.bufSize, r.handed⟩ else none

/-- The call returns, with this state. -/
def ReturnsIn (s : SwTwitterItemStream) (call : StreamCall) (s' : SwTwitterItemStream) : Prop :=
  ∃ fuel, s.callContinousCb lib fuel call = some s'

/-- The call returns. -/
def Returns (s : SwTwitterItemStream) (call : StreamCall) : Prop :=
  ∃ s', s.ReturnsIn lib call s'

end SwTwitterItemStream

/-! ## Sums that do not overflow -/

theorem toInt_add_eq {a b : Int32} (hlo : -2 ^ 31 ≤ a.toInt + b.toInt)
    (hhi : a.toInt + b.toInt < 2 ^ 31) : (a + b).toInt = a.toInt + b.toInt := by
  rw [Int32.toInt_add]
  exact Int.bmod_eq_of_le (by omega) (by omega)

theorem toInt_sub_eq {a b : Int32} (hlo : -2 ^ 31 ≤ a.toInt - b.toInt)
    (hhi : a.toInt - b.toInt < 2 ^ 31) : (a - b).toInt = a.toInt - b.toInt := by
  rw [Int32.toInt_sub]
  exact Int.bmod_eq_of_le (by omega) (by omega)

/-- The position after the one that was found. -/
theorem toInt_ofNat_add_one {i : Nat} (h : i + 1 < 2 ^ 31) :
    (Int32.ofNat i + 1).toInt = i + 1 := by
  have hi : (Int32.ofNat i).toInt = i := Int32.toInt_ofNat_of_lt (by omega)
  have hone : (1 : Int32).toInt = 1 := by decide
  rw [toInt_add_eq (by omega) (by omega), hi, hone]

/-! ## Strings, from the front -/

theorem gStringErase_zero (string : List UInt8) (len : Int) :
    gStringErase string 0 len =
      if len < 0 then [] else if (string.length : Int) < len then string
      else string.drop len.toNat := by
  unfold gStringErase
  rw [if_neg (Nat.not_lt_zero _)]
  simp

/-- Bytes that are there are erased. -/
theorem gStringErase_of_le {string : List UInt8} {len : Int} (h : 0 ≤ len)
    (hle : len ≤ string.length) : gStringErase string 0 len = string.drop len.toNat := by
  rw [gStringErase_zero, if_neg (by omega), if_neg (by omega)]

theorem gStringErase_of_lt {string : List UInt8} {len : Int} (h : (string.length : Int) < len) :
    gStringErase string 0 len = string := by
  rw [gStringErase_zero, if_neg (by omega), if_pos h]

theorem length_gStringErase_le (string : List UInt8) (len : Int) :
    (gStringErase string 0 len).length ≤ string.length := by
  rw [gStringErase_zero]
  split_ifs
  · exact Nat.zero_le _
  · exact le_rfl
  · rw [List.length_drop]
    omega

/-- Erasing changes nothing exactly when there is nothing to erase or more than there is. -/
theorem gStringErase_eq_self_iff {string : List UInt8} (hne : string ≠ []) (len : Int) :
    (gStringErase string 0 len).length = string.length ↔
      len = 0 ∨ (string.length : Int) < len := by
  have hpos := List.length_pos_iff.2 hne
  rw [gStringErase_zero]
  split_ifs with hneg hlt
  · simp only [List.length_nil]
    omega
  · exact iff_of_true rfl (Or.inr hlt)
  · rw [List.length_drop]
    omega

theorem gUtf8Strchr_lt {p : List UInt8} {len : Int} {c : UInt8} {i : Nat}
    (h : gUtf8Strchr p len c = some i) : i < p.length := by
  unfold gUtf8Strchr at h
  have hlt := (List.findIdx?_eq_some_iff_findIdx_eq.1 h).1
  have hle := (cString_isPrefix p).length_le
  split_ifs at hlt
  · omega
  · rw [List.length_take] at hlt
    omega

/-! ## The first loop -/

/-- The buffer without the lines at its front that begin with `\r`. -/
def dropKeepAlives : List UInt8 → List UInt8
  | [] => []
  | [b] => [b]
  | b :: b' :: rest => if b = CR then dropKeepAlives rest else b :: b' :: rest

theorem keepAliveTurn_pair (b : UInt8) (rest : List UInt8) :
    keepAliveTurn (CR :: b :: rest) = some rest := by
  rw [keepAliveTurn, List.head?_cons, if_pos rfl, gStringErase_of_le (by decide)]
  · rfl
  · simp only [List.length_cons]
    omega

theorem keepAliveTurn_single : keepAliveTurn [CR] = some [CR] := by decide

theorem keepAliveTurn_none {buffer : List UInt8} (h : buffer.head? ≠ some CR) :
    keepAliveTurn buffer = none := by
  rw [keepAliveTurn, if_neg h]

theorem passes_dropKeepAlives (buffer : List UInt8) :
    Loop.Passes keepAliveTurn buffer (dropKeepAlives buffer) := by
  induction buffer using dropKeepAlives.induct with
  | case1 => exact .refl _
  | case2 b => exact .refl _
  | case3 b' rest ih =>
    rw [dropKeepAlives, if_pos rfl]
    exact .turn (keepAliveTurn_pair b' rest) ih
  | case4 b b' rest hne =>
    rw [dropKeepAlives, if_neg hne]
    exact .refl _

theorem dropKeepAlives_turn (buffer : List UInt8) :
    keepAliveTurn (dropKeepAlives buffer) = none ∨ dropKeepAlives buffer = [CR] := by
  induction buffer using dropKeepAlives.induct with
  | case1 => exact Or.inl rfl
  | case2 b =>
    rw [dropKeepAlives]
    by_cases hb : b = CR
    · exact Or.inr (by rw [hb])
    · exact Or.inl (keepAliveTurn_none (by simpa using hb))
  | case3 b' rest ih =>
    rw [dropKeepAlives, if_pos rfl]
    exact ih
  | case4 b b' rest hne =>
    rw [dropKeepAlives, if_neg hne]
    exact Or.inl (keepAliveTurn_none (by simpa using hne))

/-- The first loop removes the empty lines, unless it comes to a single `\r`. -/
theorem keepAlive_ends_iff (buffer : List UInt8) :
    Loop.Ends keepAliveTurn buffer ↔ dropKeepAlives buffer ≠ [CR] := by
  rw [(passes_dropKeepAlives buffer).ends_iff]
  refine ⟨?_, ?_⟩
  · intro hends heq
    rw [heq] at hends
    refine Loop.not_ends_of_forever (I := fun b => b = [CR]) ?_ rfl hends
    rintro s rfl
    exact ⟨_, keepAliveTurn_single, rfl⟩
  · intro hne
    exact ⟨_, Loop.endsIn_of_none ((dropKeepAlives_turn buffer).resolve_right hne)⟩

theorem keepAlive_endsIn {buffer : List UInt8} (h : dropKeepAlives buffer ≠ [CR]) :
    Loop.EndsIn keepAliveTurn buffer (dropKeepAlives buffer) :=
  Loop.endsIn_iff_passes.2
    ⟨passes_dropKeepAlives buffer, (dropKeepAlives_turn buffer).resolve_right h⟩

/-! ## The second loop -/

section Messages

variable {lib : StreamLibrary} {nullDiff messageLength : Int32} {buffer : List UInt8}
  {r r' : StreamReader}

/-- The number at the front of the buffer, and the test for a message of this length. -/
structure Takes (lib : StreamLibrary) (nullDiff messageLength : Int32) (r : StreamReader) :
    Prop where
  running : r.running = true
  scan : scanMessageLength lib.overflow r.buffer = some messageLength
  test : newlinePos nullDiff r.buffer r.bufSize + 1 + messageLength ≤ r.bufSize

theorem messageTurn_takes (h : Takes lib nullDiff messageLength r) :
    messageTurn lib nullDiff r = some
      { buffer := gStringErase (r.message nullDiff messageLength).data 0 messageLength.toInt
        bufSize := r.bufSize - (newlinePos nullDiff r.buffer r.bufSize + 1 + messageLength)
        handed := r.handed ++ [r.message nullDiff messageLength]
        running := lib.goesOn (r.message nullDiff messageLength) } := by
  rw [messageTurn, if_pos h.running, h.scan]
  exact if_pos h.test

/-- What a turn finds, and what it leaves. -/
theorem of_turn_some (hturn : messageTurn lib nullDiff r = some r') :
    ∃ messageLength, Takes lib nullDiff messageLength r ∧
      r' =
        { buffer := gStringErase (r.message nullDiff messageLength).data 0 messageLength.toInt
          bufSize := r.bufSize - (newlinePos nullDiff r.buffer r.bufSize + 1 + messageLength)
          handed := r.handed ++ [r.message nullDiff messageLength]
          running := lib.goesOn (r.message nullDiff messageLength) } := by
  unfold messageTurn at hturn
  split_ifs at hturn with hrunning
  cases hscan : scanMessageLength lib.overflow r.buffer with
  | none =>
    rw [hscan] at hturn
    cases hturn
  | some messageLength =>
    rw [hscan] at hturn
    dsimp only at hturn
    split_ifs at hturn with htest
    exact ⟨messageLength, ⟨hrunning, hscan, htest⟩, (Option.some.inj hturn).symm⟩

/-- The loop is left where no message is taken. -/
theorem messageTurn_none (h : ∀ messageLength, ¬ Takes lib nullDiff messageLength r) :
    messageTurn lib nullDiff r = none := by
  cases hturn : messageTurn lib nullDiff r with
  | none => rfl
  | some r' =>
    obtain ⟨messageLength, htakes, -⟩ := of_turn_some hturn
    exact absurd htakes (h messageLength)

theorem messageTurn_ended (h : r.running = false) : messageTurn lib nullDiff r = none := by
  rw [messageTurn, if_neg (by rw [h]; decide)]

/-- There is no number in an empty buffer. -/
theorem scanMessageLength_nil {overflow : Int → Int32} : scanMessageLength overflow [] = none := rfl

theorem buffer_ne_nil {overflow : Int → Int32}
    (h : scanMessageLength overflow buffer = some messageLength) : buffer ≠ [] := by
  intro heq
  rw [heq, scanMessageLength_nil] at h
  cases h

/-! ## Turns that remove nothing -/

/-- Erasing so many bytes removes nothing. -/
def ErasesNothing (buffer : List UInt8) (len : Int32) : Prop :=
  len.toInt = 0 ∨ (buffer.length : Int) < len.toInt

theorem gStringErase_of_erasesNothing {len : Int32} (h : ErasesNothing buffer len) :
    gStringErase buffer 0 len.toInt = buffer := by
  rcases h with h | h
  · rw [h, gStringErase_of_le (by decide) (by omega)]
    rfl
  · exact gStringErase_of_lt h

/-- A turn for a message of this length is made and removes nothing. -/
structure IdleTurn (nullDiff messageLength : Int32) (buffer : List UInt8) (bufSize : Int32) :
    Prop where
  taken : newlinePos nullDiff buffer bufSize + 1 + messageLength ≤ bufSize
  header : ErasesNothing buffer (newlinePos nullDiff buffer bufSize + 1)
  message : ErasesNothing buffer messageLength

/-- `buf_size` after a turn. -/
def nextSize (nullDiff messageLength : Int32) (buffer : List UInt8) (bufSize : Int32) : Int32 :=
  bufSize - (newlinePos nullDiff buffer bufSize + 1 + messageLength)

/-- A turn that removes nothing, and after which the test holds again: there is nothing to erase, or
there is no line feed and both lengths are more than what is there, with a sum that wraps around to
the smallest `gint`. -/
def Stuck (nullDiff messageLength : Int32) (buffer : List UInt8) (bufSize : Int32) : Prop :=
  newlinePos nullDiff buffer bufSize + 1 = 0 ∧ messageLength = 0 ∨
    LF ∉ cString buffer ∧ (buffer.length : Int) < (nullDiff + 1).toInt ∧
      (buffer.length : Int) < messageLength.toInt ∧
      (nullDiff + 1).toInt + messageLength.toInt = 2 ^ 31

/-- An idle turn leaves the buffer as it is. -/
theorem messageTurn_idle (h : Takes lib nullDiff messageLength r)
    (hidle : IdleTurn nullDiff messageLength r.buffer r.bufSize) :
    messageTurn lib nullDiff r = some
      ⟨r.buffer, nextSize nullDiff messageLength r.buffer r.bufSize,
        r.handed ++ [⟨r.buffer, messageLength⟩], lib.goesOn ⟨r.buffer, messageLength⟩⟩ := by
  rw [messageTurn_takes h, StreamReader.message, gStringErase_of_erasesNothing hidle.header,
    gStringErase_of_erasesNothing hidle.message]
  rfl

/-- A turn that is not idle makes the buffer shorter. -/
theorem messageTurn_shorter (h : Takes lib nullDiff messageLength r)
    (hidle : ¬ IdleTurn nullDiff messageLength r.buffer r.bufSize)
    (hturn : messageTurn lib nullDiff r = some r') : r'.buffer.length < r.buffer.length := by
  rw [messageTurn_takes h] at hturn
  cases hturn
  show (gStringErase (gStringErase _ 0 _) 0 _).length < _
  have hne := buffer_ne_nil h.scan
  have hheader := length_gStringErase_le r.buffer
    (newlinePos nullDiff r.buffer r.bufSize + 1).toInt
  have hmessage := length_gStringErase_le
    (gStringErase r.buffer 0 (newlinePos nullDiff r.buffer r.bufSize + 1).toInt)
    messageLength.toInt
  rcases hheader.lt_or_eq with hlt | heq
  · exact hmessage.trans_lt hlt
  · -- The header is not erased, so the message must be.
    have hnothing : ErasesNothing r.buffer (newlinePos nullDiff r.buffer r.bufSize + 1) :=
      (gStringErase_eq_self_iff hne _).1 heq
    rw [gStringErase_of_erasesNothing hnothing] at hmessage ⊢
    refine hmessage.lt_of_ne fun heq' => hidle ⟨h.test, hnothing, ?_⟩
    exact (gStringErase_eq_self_iff hne _).1 heq'

/-- A line feed that is found is erased. -/
theorem newlinePos_of_erasesNothing {bufSize : Int32} (hsmall : buffer.length < 2 ^ 31)
    (h : ErasesNothing buffer (newlinePos nullDiff buffer bufSize + 1)) :
    gUtf8Strchr buffer bufSize.toInt LF = none := by
  cases hfound : gUtf8Strchr buffer bufSize.toInt LF with
  | none => rfl
  | some i =>
    have hlt := gUtf8Strchr_lt hfound
    have hpos := toInt_ofNat_add_one (i := i) (by omega)
    rw [newlinePos, hfound] at h
    dsimp only at h
    rw [ErasesNothing, hpos] at h
    omega

theorem newlinePos_of_none {bufSize : Int32} (h : gUtf8Strchr buffer bufSize.toInt LF = none) :
    newlinePos nullDiff buffer bufSize = nullDiff := by rw [newlinePos, h]

/-- Where there is no line feed, none is found. -/
theorem gUtf8Strchr_none {c : UInt8} (h : c ∉ cString buffer) (len : Int) :
    gUtf8Strchr buffer len c = none := by
  unfold gUtf8Strchr
  rw [List.findIdx?_eq_none_iff]
  intro b hb
  rw [beq_eq_false_iff_ne]
  rintro rfl
  split_ifs at hb
  · exact h hb
  · exact h (List.mem_of_mem_take hb)

/-- A negative length is for the whole string. -/
theorem not_mem_of_gUtf8Strchr {c : UInt8} {len : Int} (hneg : len < 0)
    (h : gUtf8Strchr buffer len c = none) : c ∉ cString buffer := by
  unfold gUtf8Strchr at h
  rw [if_pos hneg, List.findIdx?_eq_none_iff] at h
  intro hmem
  exact absurd (h c hmem) (by rw [beq_self_eq_true]; decide)

/-! ## Idle turns, one after another -/

/-- A sum that is too large wraps around. -/
theorem toInt_add_wraps {a b : Int32} (h : 2 ^ 31 ≤ a.toInt + b.toInt) :
    (a + b).toInt = a.toInt + b.toInt - 2 ^ 32 := by
  have ha := Int32.toInt_lt a
  have hb := Int32.toInt_lt b
  have hwrap := Int.sub_bmod_right (a.toInt + b.toInt) (2 ^ 32)
  rw [Int32.toInt_add, ← hwrap]
  exact Int.bmod_eq_of_le (by omega) (by omega)

theorem toInt_sub_wraps {a b : Int32} (h : 2 ^ 31 ≤ a.toInt - b.toInt) :
    (a - b).toInt = a.toInt - b.toInt - 2 ^ 32 := by
  have ha := Int32.toInt_lt a
  have hb := Int32.le_toInt b
  have hwrap := Int.sub_bmod_right (a.toInt - b.toInt) (2 ^ 32)
  rw [Int32.toInt_sub, ← hwrap]
  exact Int.bmod_eq_of_le (by omega) (by omega)

/-- A stuck turn is idle. -/
theorem Stuck.idle {bufSize : Int32} (h : Stuck nullDiff messageLength buffer bufSize)
    (htest : newlinePos nullDiff buffer bufSize + 1 + messageLength ≤ bufSize) :
    IdleTurn nullDiff messageLength buffer bufSize := by
  rcases h with ⟨hheader, rfl⟩ | ⟨hlf, hheader, hmessage, -⟩
  · exact ⟨htest, Or.inl (by rw [hheader]; rfl), Or.inl rfl⟩
  · refine ⟨htest, Or.inr ?_, Or.inr hmessage⟩
    rwa [newlinePos_of_none (gUtf8Strchr_none hlf _)]

/-- After a stuck turn comes another one. -/
theorem Stuck.next {bufSize : Int32} (h : Stuck nullDiff messageLength buffer bufSize)
    (htest : newlinePos nullDiff buffer bufSize + 1 + messageLength ≤ bufSize) :
    Stuck nullDiff messageLength buffer (nextSize nullDiff messageLength buffer bufSize) ∧
      newlinePos nullDiff buffer (nextSize nullDiff messageLength buffer bufSize) + 1 +
        messageLength ≤ nextSize nullDiff messageLength buffer bufSize := by
  rcases h with ⟨hheader, rfl⟩ | ⟨hlf, hheader, hmessage, hsum⟩
  · have hsame : nextSize nullDiff 0 buffer bufSize = bufSize := by
      rw [nextSize, hheader]
      exact Int32.sub_zero _
    rw [hsame]
    exact ⟨Or.inl ⟨hheader, rfl⟩, htest⟩
  · refine ⟨Or.inr ⟨hlf, hheader, hmessage, hsum⟩, ?_⟩
    rw [newlinePos_of_none (gUtf8Strchr_none hlf _), Int32.le_iff_toInt_le,
      toInt_add_wraps hsum.ge, hsum]
    exact Int32.le_toInt _

section Forever

variable {bufSize : Int32}
  (hall : ∀ k : Nat, IdleTurn nullDiff messageLength buffer
    ((nextSize nullDiff messageLength buffer)^[k] bufSize))
include hall

/-- Without a line feed the same sum is taken of `buf_size` in every turn. -/
theorem counts_of_idle (hsmall : buffer.length < 2 ^ 31) :
    Wrapping.Counts (2 ^ 32) (nullDiff + 1 + messageLength).toInt
      fun k => ((nextSize nullDiff messageLength buffer)^[k] bufSize).toInt := by
  intro k
  have hnone := newlinePos_of_erasesNothing hsmall (hall k).header
  show ((nextSize nullDiff messageLength buffer)^[k + 1] bufSize).toInt ≡ _ [ZMOD _]
  rw [Function.iterate_succ_apply', nextSize, newlinePos_of_none hnone, Int32.toInt_sub]
  exact Int.bmod_emod

theorem le_of_idle (hsmall : buffer.length < 2 ^ 31) (k : Nat) :
    (nullDiff + 1 + messageLength).toInt ≤
      ((nextSize nullDiff messageLength buffer)^[k] bufSize).toInt := by
  have htaken := (hall k).taken
  have hnone := newlinePos_of_erasesNothing hsmall (hall k).header
  rwa [newlinePos_of_none hnone, Int32.le_iff_toInt_le] at htaken

/-- A sum that is positive makes `buf_size` smaller until the turn is not taken. -/
theorem sum_nonpos_of_idle (hsmall : buffer.length < 2 ^ 31) :
    (nullDiff + 1 + messageLength).toInt ≤ 0 := by
  by_contra hpos
  have hfall : ∀ k : Nat, ((nextSize nullDiff messageLength buffer)^[k] bufSize).toInt ≤
      bufSize.toInt - k := by
    intro k
    induction k with
    | zero => simp
    | succ k ih =>
      have hle := le_of_idle hall hsmall k
      have hlt := Int32.toInt_lt ((nextSize nullDiff messageLength buffer)^[k] bufSize)
      have hnone := newlinePos_of_erasesNothing hsmall (hall k).header
      rw [Function.iterate_succ_apply', nextSize, newlinePos_of_none hnone,
        toInt_sub_eq (by omega) (by omega)]
      omega
  have hlast := hfall bufSize.toInt.toNat
  have hle := le_of_idle hall hsmall bufSize.toInt.toNat
  omega

/-- The smallest `gint` is taken of one number that is negative and one that is not. -/
theorem not_mem_of_idle (hsmall : buffer.length < 2 ^ 31)
    (hsum : (nullDiff + 1 + messageLength).toInt = -2 ^ 31) : LF ∉ cString buffer := by
  have hnone : ∀ k : Nat, gUtf8Strchr buffer
      ((nextSize nullDiff messageLength buffer)^[k] bufSize).toInt LF = none :=
    fun k => newlinePos_of_erasesNothing hsmall (hall k).header
  by_cases hneg : bufSize.toInt < 0
  · exact not_mem_of_gUtf8Strchr hneg (hnone 0)
  · have hzero : gUtf8Strchr buffer bufSize.toInt LF = none := hnone 0
    have hlt := Int32.toInt_lt bufSize
    have hnext : (nextSize nullDiff messageLength buffer bufSize).toInt =
        bufSize.toInt - 2 ^ 31 := by
      rw [nextSize, newlinePos_of_none hzero, toInt_sub_wraps (by omega), hsum]
      omega
    have hneg' : (nextSize nullDiff messageLength buffer bufSize).toInt < 0 := by omega
    exact not_mem_of_gUtf8Strchr hneg' (hnone 1)

/-- **Turns are idle for ever only if they are stuck.** -/
theorem stuck_of_idle : Stuck nullDiff messageLength buffer bufSize := by
  have hzero : IdleTurn nullDiff messageLength buffer bufSize := hall 0
  have hlengths : messageLength.toInt < 2 ^ 31 := Int32.toInt_lt messageLength
  have hheaderLt := Int32.toInt_lt (newlinePos nullDiff buffer bufSize + 1)
  have hmessage := hzero.message
  rcases hzero.header with hheader | hheader
  · have hheader' : newlinePos nullDiff buffer bufSize + 1 = 0 := Int32.toInt_inj.1 hheader
    rcases hmessage with hmessage | hmessage
    · exact Or.inl ⟨hheader', Int32.toInt_inj.1 hmessage⟩
    · have hsmall : buffer.length < 2 ^ 31 := by omega
      have hnone := newlinePos_of_erasesNothing hsmall hzero.header
      rw [newlinePos_of_none hnone] at hheader'
      have hnonpos := sum_nonpos_of_idle hall hsmall
      rw [hheader', Int32.zero_add] at hnonpos
      omega
  · have hsmall : buffer.length < 2 ^ 31 := by omega
    have hnone := newlinePos_of_erasesNothing hsmall hzero.header
    rw [newlinePos_of_none hnone] at hheader hheaderLt
    have hnonpos := sum_nonpos_of_idle hall hsmall
    rcases lt_trichotomy ((nullDiff + 1).toInt + messageLength.toInt) (2 ^ 31) with hlt | heq | hgt
    · have hmessage' : 0 ≤ messageLength.toInt := by
        unfold ErasesNothing at hmessage
        omega
      rw [toInt_add_eq (by omega) hlt] at hnonpos
      omega
    · have hsum := toInt_add_wraps heq.ge
      have hlf := not_mem_of_idle hall hsmall (by rw [hsum, heq]; rfl)
      have hmessage' : (buffer.length : Int) < messageLength.toInt :=
        hmessage.resolve_left (by omega)
      exact Or.inr ⟨hlf, hheader, hmessage', heq⟩
    · have hsum := toInt_add_wraps hgt.le
      obtain ⟨k, hk⟩ := (counts_of_idle hall hsmall).falls_below (w := 31) (by omega) (by omega)
        fun k => ⟨Int32.le_toInt _, Int32.toInt_lt _⟩
      exact absurd (le_of_idle hall hsmall k) (Int.not_le.2 hk)

end Forever

/-- As long as the turns are idle and the process goes on after their message, the loop comes to the
same buffer again. -/
theorem passes_idle (h : Takes lib nullDiff messageLength r)
    (hgoesOn : lib.goesOn (r.message nullDiff messageLength) = true) {k : Nat}
    (hidle : ∀ j < k, IdleTurn nullDiff messageLength r.buffer
      ((nextSize nullDiff messageLength r.buffer)^[j] r.bufSize)) :
    ∃ handed, Loop.Passes (messageTurn lib nullDiff) r
      ⟨r.buffer, (nextSize nullDiff messageLength r.buffer)^[k] r.bufSize, handed, true⟩ := by
  induction k with
  | zero =>
    refine ⟨r.handed, ?_⟩
    rw [← h.running]
    exact .refl r
  | succ k ih =>
    obtain ⟨handed, hpasses⟩ := ih fun j hj => hidle j (Nat.lt_succ_of_lt hj)
    have hfirst : IdleTurn nullDiff messageLength r.buffer r.bufSize := hidle 0 (Nat.succ_pos k)
    have hlast := hidle k (Nat.lt_succ_self k)
    have htakes : Takes lib nullDiff messageLength ⟨r.buffer,
        (nextSize nullDiff messageLength r.buffer)^[k] r.bufSize, handed, true⟩ :=
      ⟨rfl, h.scan, hlast.taken⟩
    rw [StreamReader.message, gStringErase_of_erasesNothing hfirst.header] at hgoesOn
    refine ⟨handed ++ [⟨r.buffer, messageLength⟩], hpasses.last ?_⟩
    rw [Function.iterate_succ_apply', messageTurn_idle htakes hlast, hgoesOn]

/-- A turn that is not stuck is repeated until it is not idle. -/
theorem exists_passes_not_idle (h : Takes lib nullDiff messageLength r)
    (hgoesOn : lib.goesOn (r.message nullDiff messageLength) = true)
    (hstuck : ¬ Stuck nullDiff messageLength r.buffer r.bufSize) :
    ∃ bufSize handed,
      Loop.Passes (messageTurn lib nullDiff) r ⟨r.buffer, bufSize, handed, true⟩ ∧
        ¬ IdleTurn nullDiff messageLength r.buffer bufSize := by
  have hbusy : ∃ k : Nat, ¬ IdleTurn nullDiff messageLength r.buffer
      ((nextSize nullDiff messageLength r.buffer)^[k] r.bufSize) := by
    by_contra hall
    exact hstuck (stuck_of_idle fun k => Classical.byContradiction fun hk => hall ⟨k, hk⟩)
  classical
  have hfirst : ∀ j < Nat.find hbusy, IdleTurn nullDiff messageLength r.buffer
      ((nextSize nullDiff messageLength r.buffer)^[j] r.bufSize) := by
    intro j hj
    exact Decidable.not_not.1 (Nat.find_min hbusy hj)
  obtain ⟨handed, hpasses⟩ := passes_idle h hgoesOn hfirst
  exact ⟨_, handed, hpasses, Nat.find_spec hbusy⟩

/-! ## The end of the second loop -/

/-- A turn that takes a message is not stuck, and the process goes on after the message. -/
def TurnSettles (lib : StreamLibrary) (nullDiff : Int32) (r : StreamReader) : Prop :=
  ∀ messageLength, scanMessageLength lib.overflow r.buffer = some messageLength →
    newlinePos nullDiff r.buffer r.bufSize + 1 + messageLength ≤ r.bufSize →
    ¬ Stuck nullDiff messageLength r.buffer r.bufSize ∧
      lib.goesOn (r.message nullDiff messageLength) = true

/-- A loop that is left in a running process has no stuck turn, and no message has ended it. -/
theorem turnSettles_of_endsIn (hrunning : r.running = true)
    (hends : Loop.EndsIn (messageTurn lib nullDiff) r r') (hrunning' : r'.running = true) :
    TurnSettles lib nullDiff r := by
  intro messageLength hscan htest
  have htakes : Takes lib nullDiff messageLength r := ⟨hrunning, hscan, htest⟩
  have hgoesOn : lib.goesOn (r.message nullDiff messageLength) = true := by
    by_contra hfault
    have hlast := (Loop.endsIn_turn (messageTurn_takes htakes)).1 hends
    have hended := (Loop.endsIn_of_none (messageTurn_ended (Bool.eq_false_iff.2 hfault))).unique
      hlast
    rw [← hended] at hrunning'
    exact hfault hrunning'
  refine ⟨fun hstuck => ?_, hgoesOn⟩
  -- The stuck turns hand over the same message again and again.
  refine Loop.not_ends_of_forever (s := r) (I := fun t => t.buffer = r.buffer ∧
    Takes lib nullDiff messageLength t ∧ Stuck nullDiff messageLength t.buffer t.bufSize) ?_
    ⟨rfl, htakes, hstuck⟩ ⟨r', hends⟩
  rintro t ⟨hbuffer, htakes', hstuck'⟩
  have hidle := hstuck.idle htest
  refine ⟨_, messageTurn_idle htakes' (hstuck'.idle htakes'.test), hbuffer, ⟨?_, htakes'.scan, ?_⟩,
    (hstuck'.next htakes'.test).1⟩
  · show lib.goesOn ⟨t.buffer, messageLength⟩ = true
    rw [hbuffer]
    rwa [StreamReader.message, gStringErase_of_erasesNothing hidle.header] at hgoesOn
  · exact (hstuck'.next htakes'.test).2

/-- **The second loop is left, and the process still runs, unless it comes to a turn that is stuck
or takes a message that ends the process.** -/
theorem messages_ends_iff (r : StreamReader) (hrunning : r.running = true) :
    (∃ r', Loop.EndsIn (messageTurn lib nullDiff) r r' ∧ r'.running = true) ↔
      ∀ r', Loop.Passes (messageTurn lib nullDiff) r r' → TurnSettles lib nullDiff r' := by
  refine ⟨?_, ?_⟩
  · rintro ⟨t, hends, ht⟩ r' hpasses
    induction hpasses with
    | refl => exact turnSettles_of_endsIn hrunning hends ht
    | @turn s s' u hturn _ ih =>
      obtain ⟨messageLength, htakes, rfl⟩ := of_turn_some hturn
      have hsettles := turnSettles_of_endsIn hrunning hends ht messageLength htakes.scan htakes.test
      exact ih hsettles.2 ((Loop.endsIn_turn hturn).1 hends)
  · intro hsettles
    -- Induction on the buffer's length: a turn that is not idle makes it shorter.
    induction hn : r.buffer.length using Nat.strong_induction_on generalizing r with
    | _ n ih =>
      by_cases htakes : ∃ messageLength, Takes lib nullDiff messageLength r
      · obtain ⟨messageLength, htakes⟩ := htakes
        obtain ⟨hstuck, hgoesOn⟩ :=
          hsettles r (.refl r) messageLength htakes.scan htakes.test
        obtain ⟨bufSize, handed, hpasses, hbusy⟩ := exists_passes_not_idle htakes hgoesOn hstuck
        by_cases htest : Takes lib nullDiff messageLength ⟨r.buffer, bufSize, handed, true⟩
        · have hturn := messageTurn_takes htest
          have hshorter := messageTurn_shorter htest hbusy hturn
          obtain ⟨-, hgoesOn'⟩ := hsettles _ hpasses messageLength htest.scan htest.test
          obtain ⟨t, hends, ht⟩ := ih _ (hn ▸ hshorter) _ hgoesOn' (fun r'' hpasses' =>
            hsettles r'' ((hpasses.last hturn).trans hpasses')) rfl
          have hends' := (Loop.endsIn_turn hturn).2 hends
          exact ⟨t, hpasses.endsIn_iff.2 hends', ht⟩
        · refine ⟨_, hpasses.endsIn_iff.2 (Loop.endsIn_of_none (messageTurn_none ?_)), rfl⟩
          rintro messageLength' ⟨-, hscan', htest'⟩
          obtain rfl := Option.some.inj (htakes.scan.symm.trans hscan')
          exact htest ⟨rfl, hscan', htest'⟩
      · exact ⟨r, Loop.endsIn_of_none (messageTurn_none fun messageLength h =>
          htakes ⟨messageLength, h⟩), hrunning⟩

end Messages

/-! ## The main result -/

namespace SwTwitterItemStream

variable {lib : StreamLibrary} {s s' : SwTwitterItemStream}

/-- What the second loop begins with. -/
def reader (s : SwTwitterItemStream) (buf : List UInt8) : StreamReader :=
  { s.append buf with buffer := dropKeepAlives (s.append buf).buffer }

theorem reader_running (s : SwTwitterItemStream) (buf : List UInt8) :
    (s.reader buf).running = true := by
  show (s.append buf).running = true
  unfold append
  cases s.curBuffer <;> rfl

/-- A call returns when both loops are left in a running process, and with what the second one
leaves. -/
theorem returnsIn_chunk_iff (buf : List UInt8) (nullDiff : Int32) :
    s.ReturnsIn lib (.chunk buf nullDiff) s' ↔
      dropKeepAlives (s.append buf).buffer ≠ [CR] ∧
        ∃ r, Loop.EndsIn (messageTurn lib nullDiff) (s.reader buf) r ∧ r.running = true ∧
          s' = ⟨some r.buffer, r.bufSize, r.handed⟩ := by
  refine ⟨?_, ?_⟩
  · rintro ⟨fuel, h⟩
    rw [callContinousCb, Option.bind_eq_some_iff] at h
    obtain ⟨buffer, hfirst, h⟩ := h
    obtain ⟨r, hsecond, h⟩ := Option.bind_eq_some_iff.1 h
    have hne := (keepAlive_ends_iff _).1 ⟨buffer, fuel, hfirst⟩
    have heq := Loop.EndsIn.unique ⟨fuel, hfirst⟩ (keepAlive_endsIn hne)
    rw [heq] at hsecond
    split_ifs at h with hrunning
    exact ⟨hne, r, ⟨fuel, hsecond⟩, hrunning, (Option.some.inj h).symm⟩
  · rintro ⟨hne, r, ⟨fuel, hsecond⟩, hrunning, rfl⟩
    obtain ⟨fuel', hfirst⟩ := keepAlive_endsIn hne
    refine ⟨max fuel fuel', ?_⟩
    rw [callContinousCb, Loop.run_of_le hfirst (le_max_right _ _), Option.bind_some]
    exact Option.bind_eq_some_iff.2
      ⟨r, Loop.run_of_le hsecond (le_max_left _ _), if_pos hrunning⟩

/-- A call returns with one state. -/
theorem ReturnsIn.unique {call : StreamCall} {s'' : SwTwitterItemStream}
    (h : s.ReturnsIn lib call s') (h' : s.ReturnsIn lib call s'') : s' = s'' := by
  cases call with
  | failed message =>
    obtain ⟨fuel, h⟩ := h
    obtain ⟨fuel', h'⟩ := h'
    exact (Option.some.inj h).symm.trans (Option.some.inj h')
  | chunk buf nullDiff =>
    obtain ⟨-, r, hends, -, rfl⟩ := (returnsIn_chunk_iff buf nullDiff).1 h
    obtain ⟨-, r', hends', -, rfl⟩ := (returnsIn_chunk_iff buf nullDiff).1 h'
    rw [hends.unique hends']

/-- The buffer with the chunk does not come down to a single `\r`, and no turn of the second loop is
stuck or takes a message that ends the process. -/
def Settles (lib : StreamLibrary) (s : SwTwitterItemStream) : StreamCall → Prop
  | .failed _ => True
  | .chunk buf nullDiff =>
    dropKeepAlives (s.append buf).buffer ≠ [CR] ∧
      ∀ r, Loop.Passes (messageTurn lib nullDiff) (s.reader buf) r → TurnSettles lib nullDiff r

variable {call : StreamCall}

theorem settles_of_returns (h : s.Returns lib call) : s.Settles lib call := by
  cases call with
  | failed message => trivial
  | chunk buf nullDiff =>
    obtain ⟨s', hreturns⟩ := h
    obtain ⟨hne, r, hends, hrunning, -⟩ := (returnsIn_chunk_iff buf nullDiff).1 hreturns
    exact ⟨hne, (messages_ends_iff _ (s.reader_running buf)).1 ⟨r, hends, hrunning⟩⟩

theorem returns_of_settles (h : s.Settles lib call) : s.Returns lib call := by
  cases call with
  | failed message => exact ⟨s, 0, rfl⟩
  | chunk buf nullDiff =>
    obtain ⟨hne, hsettles⟩ := h
    obtain ⟨r, hends, hrunning⟩ := (messages_ends_iff _ (s.reader_running buf)).2 hsettles
    exact ⟨_, (returnsIn_chunk_iff buf nullDiff).2 ⟨hne, r, hends, hrunning, rfl⟩⟩

/-- **Main result.** A call returns exactly when it settles. -/
theorem returns_iff (lib : StreamLibrary) (s : SwTwitterItemStream) (call : StreamCall) :
    s.Returns lib call ↔ s.Settles lib call :=
  ⟨settles_of_returns, returns_of_settles⟩

/-- A chunk that ends between the two bytes of an empty line. -/
theorem singleCR_not_returns :
    ¬ ∀ (lib : StreamLibrary) (s : SwTwitterItemStream) (call : StreamCall),
      s.Returns lib call := by
  intro hall
  have hreturns := hall ⟨Int32.ofInt, fun _ => none, fun _ => none⟩ init (.chunk [CR] 0)
  exact (settles_of_returns hreturns).1 rfl

end SwTwitterItemStream

end LibSocialWeb
