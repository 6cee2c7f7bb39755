import LibSocialWeb.Lib.Scan
import LibSocialWeb.Lib.Separators
import Mathlib.Data.List.DropRight

/-!
# A key and its secret (`libsocialweb-keystore/sw-keystore.c`)

The keystore has the key of a service and its secret from a key file or from the keyring of the
kernel. Both hold a text, with the key on the first line and the secret on the second, and each is
read by code of its own: `load_keys_from_dir` reads two lines and strips them;
`lookup_key_in_kernel` cuts the text at the first line break and takes what it finds.

**Main result.** `sameReading_iff`: the two read the same from a text exactly when neither the part
before its first line break nor the part after it begins or ends with a blank, and there is no other
line break.
-/

namespace LibSocialWeb

open Scan

/-- `KeyData` -/
structure KeyData where
  key : Option (List UInt8)
  secret : Option (List UInt8)
  deriving DecidableEq

/-- `g_ascii_isspace`, which does not know the vertical tab. -/
def gAsciiIsspace (b : UInt8) : Bool := b == 32 || b == 9 || b == 10 || b == 12 || b == 13

/-- `g_strstrip` -/
def gStrstrip (s : List UInt8) : List UInt8 :=
  (s.dropWhile gAsciiIsspace).rdropWhile gAsciiIsspace

/-- The bytes before the first line break, or all. -/
def firstLine (s : List UInt8) : List UInt8 := s.takeWhile (· ≠ 10)

/-- The bytes after the first line break. -/
def afterLine (s : List UInt8) : List UInt8 := (s.dropWhile (· ≠ 10)).tail

/-- `g_data_input_stream_read_line`: the line, which is NULL at the end of the stream, and what is
left of the stream. -/
def readLine (stream : List UInt8) : Option (List UInt8) × List UInt8 :=
  if stream = [] then (none, []) else (some (firstLine stream), afterLine stream)

/-- A line that was read: it is stripped, and NULL if nothing is left of it. -/
def strippedLine (line : Option (List UInt8)) : Option (List UInt8) :=
  match line with
  | none => none
  | some line => if gStrstrip (cString line) = [] then none else some (gStrstrip (cString line))

/-- What `load_keys_from_dir` makes of a file. -/
def readKeyFile (contents : List UInt8) : KeyData :=
  let (key, rest) := readLine contents
  let (secret, _) := readLine rest
  ⟨strippedLine key, strippedLine secret⟩

/-- What `lookup_key_in_kernel` makes of the buffer that `keyctl_read_alloc` returns. -/
def readKernelKey (buffer : List UInt8) : KeyData where
  key := if firstLine buffer = [] then none else some (cString (firstLine buffer))
  secret :=
    match buffer.dropWhile (· ≠ 10) with
    | [] => none
    | _ :: line => if line = [] then none else some (cString line)

/-! ## Parts of a text -/

/-- No blank at either end. -/
def NoBlankEnds (s : List UInt8) : Prop :=
  ∀ b, s.head? = some b ∨ s.getLast? = some b → gAsciiIsspace b = false

theorem dropWhile_eq_self_iff_head {p : UInt8 → Bool} {s : List UInt8} :
    s.dropWhile p = s ↔ ∀ b, s.head? = some b → p b = false := by
  cases s with
  | nil => simp
  | cons c cs =>
    rw [List.dropWhile_eq_self_iff]
    simp

theorem rdropWhile_eq_self_iff_getLast {p : UInt8 → Bool} {s : List UInt8} :
    s.rdropWhile p = s ↔ ∀ b, s.getLast? = some b → p b = false := by
  rw [← List.reverse_inj, List.rdropWhile, List.reverse_reverse, dropWhile_eq_self_iff_head,
    List.head?_reverse]

theorem length_gStrstrip_le (s : List UInt8) : (gStrstrip s).length ≤ s.length :=
  (List.rdropWhile_prefix _ _).length_le.trans (List.dropWhile_suffix _).length_le

/-- Nothing is stripped from a string without blanks at its ends, and only from such a one. -/
theorem gStrstrip_eq_self_iff {s : List UInt8} : gStrstrip s = s ↔ NoBlankEnds s := by
  have hsplit : gStrstrip s = s ↔
      s.dropWhile gAsciiIsspace = s ∧ s.rdropWhile gAsciiIsspace = s := by
    refine ⟨?_, fun h => by rw [gStrstrip, h.1, h.2]⟩
    intro h
    have hdrop : s.dropWhile gAsciiIsspace = s := by
      have hle := (List.rdropWhile_prefix gAsciiIsspace (s.dropWhile gAsciiIsspace)).length_le
      have hlength : s.length ≤ (s.dropWhile gAsciiIsspace).length :=
        (congrArg List.length h).ge.trans hle
      exact (List.dropWhile_suffix _).eq_of_length_le hlength
    rw [gStrstrip, hdrop] at h
    exact ⟨hdrop, h⟩
  rw [hsplit, dropWhile_eq_self_iff_head, rdropWhile_eq_self_iff_getLast, ← forall_and]
  exact forall_congr' fun b => or_imp.symm

instance (s : List UInt8) : Decidable (NoBlankEnds s) :=
  decidable_of_iff (gStrstrip s = s) gStrstrip_eq_self_iff

theorem firstLine_isPrefix (s : List UInt8) : firstLine s <+: s := List.takeWhile_prefix _

theorem afterLine_isSuffix (s : List UInt8) : afterLine s <:+ s :=
  (List.tail_suffix _).trans (List.dropWhile_suffix _)

theorem firstLine_eq_self_iff {s : List UInt8} : firstLine s = s ↔ 10 ∉ s :=
  Separators.takeWhile_eq_self_iff

/-! ## The two readings -/

/-- A string, which is NULL if it is empty. -/
def nonEmpty (s : List UInt8) : Option (List UInt8) := if s = [] then none else some s

theorem nonEmpty_inj {s t : List UInt8} : nonEmpty s = nonEmpty t ↔ s = t := by
  unfold nonEmpty
  split_ifs with hs ht ht
  · exact iff_of_true rfl (hs.trans ht.symm)
  · exact iff_of_false (fun h => nomatch h) fun h => ht (h ▸ hs)
  · exact iff_of_false (fun h => nomatch h) fun h => hs (h ▸ ht)
  · exact Option.some_inj

/-- A line of a stream without NULs. -/
theorem strippedLine_readLine {stream : List UInt8} (hnul : 0 ∉ stream) :
    strippedLine (readLine stream).1 = nonEmpty (gStrstrip (firstLine stream)) := by
  have hline : cString (firstLine stream) = firstLine stream :=
    cString_of_notMem fun h => hnul ((firstLine_isPrefix stream).subset h)
  unfold readLine
  split_ifs with hnil
  · rw [hnil]
    rfl
  · rw [strippedLine, hline]
    rfl

theorem readLine_snd (stream : List UInt8) : (readLine stream).2 = afterLine stream := by
  unfold readLine
  split_ifs with hnil
  · rw [hnil]
    rfl
  · rfl

theorem readKeyFile_eq {blob : List UInt8} (hnul : 0 ∉ blob) :
    readKeyFile blob = ⟨nonEmpty (gStrstrip (firstLine blob)),
      nonEmpty (gStrstrip (firstLine (afterLine blob)))⟩ := by
  have hrest : 0 ∉ afterLine blob := fun h => hnul ((afterLine_isSuffix blob).subset h)
  rw [← strippedLine_readLine hnul, ← strippedLine_readLine hrest, ← readLine_snd]
  rfl

theorem readKernelKey_eq {blob : List UInt8} (hnul : 0 ∉ blob) :
    readKernelKey blob = ⟨nonEmpty (firstLine blob), nonEmpty (afterLine blob)⟩ := by
  have hline : cString (firstLine blob) = firstLine blob :=
    cString_of_notMem fun h => hnul ((firstLine_isPrefix blob).subset h)
  have hrest : cString (afterLine blob) = afterLine blob :=
    cString_of_notMem fun h => hnul ((afterLine_isSuffix blob).subset h)
  rw [readKernelKey, hline, nonEmpty, nonEmpty]
  unfold afterLine at hrest ⊢
  cases hdrop : blob.dropWhile (· ≠ 10) with
  | nil => rfl
  | cons c line =>
    rw [hdrop, List.tail_cons] at hrest
    dsimp only [List.tail_cons]
    rw [hrest]
    rfl

/-- The first line of a text, stripped, is the text exactly when there is nothing to strip and no
other line. -/
theorem gStrstrip_firstLine_eq_iff {s : List UInt8} :
    gStrstrip (firstLine s) = s ↔ NoBlankEnds s ∧ 10 ∉ s := by
  refine ⟨?_, ?_⟩
  · intro h
    have hline : firstLine s = s := by
      refine (firstLine_isPrefix s).eq_of_length_le ?_
      exact (congrArg List.length h).ge.trans (length_gStrstrip_le (firstLine s))
    rw [hline] at h
    exact ⟨gStrstrip_eq_self_iff.1 h, firstLine_eq_self_iff.1 hline⟩
  · rintro ⟨hends, hbreak⟩
    rw [firstLine_eq_self_iff.2 hbreak]
    exact gStrstrip_eq_self_iff.2 hends

/-- **When a key file and the keyring of the kernel are read alike.** -/
theorem sameReading_iff {blob : List UInt8} (hnul : 0 ∉ blob) :
    readKeyFile blob = readKernelKey blob ↔
      NoBlankEnds (firstLine blob) ∧ NoBlankEnds (afterLine blob) ∧ 10 ∉ afterLine blob := by
  rw [readKeyFile_eq hnul, readKernelKey_eq hnul, KeyData.mk.injEq, nonEmpty_inj, nonEmpty_inj,
    gStrstrip_eq_self_iff, gStrstrip_firstLine_eq_iff]

/-- The text `k`, line break, `s`. -/
theorem sameReading_twoLines : readKeyFile [107, 10, 115] = readKernelKey [107, 10, 115] :=
  (sameReading_iff (by decide)).2 (by decide)

/-- With a line break after the secret, the kernel gives a secret that ends with it. -/
theorem not_sameReading_of_lineBreak :
    ¬ ∀ blob : List UInt8, 0 ∉ blob → readKeyFile blob = readKernelKey blob := by
  intro h
  have heq := h [107, 10, 115, 10] (by decide)
  revert heq
  decide

end LibSocialWeb
