import Mathlib.Data.List.Basic

/-!
# Escaped text

A file with one value on each line cannot hold every string as it is. A value is escaped when it is
written and unescaped when it is read: a line break, a tab, a backslash or a blank at the front is
written as a backslash and a letter. A list of strings is one value in which each string is followed
by a separator, and a separator inside a string is escaped as well.

**Main results.** `unescape_escape`: a string comes back as it was. `unescapeList_escapeList`: so
does a list of strings, for every separator that has no other meaning.
-/

namespace KeyText

/-- The letter that stands for a character after a backslash. -/
def letterOf (c : Char) : Option Char :=
  if c = ' ' then some 's'
  else if c = '\t' then some 't'
  else if c = '\n' then some 'n'
  else if c = '\r' then some 'r'
  else if c = '\\' then some '\\'
  else none

/-- The character that a letter stands for after a backslash. -/
def charOf (letter : Char) : Option Char :=
  if letter = 's' then some ' '
  else if letter = 't' then some '\t'
  else if letter = 'n' then some '\n'
  else if letter = 'r' then some '\r'
  else if letter = '\\' then some '\\'
  else none

/-- Blanks are escaped at the front only. -/
def isBlank (c : Char) : Bool := c = ' ' || c = '\t'

/-- Escape a string, and the separator in it if there is one; `leading` says that nothing but blanks
came before. -/
def escape (sep : Option Char) : Bool → List Char → List Char
  | _, [] => []
  | leading, c :: cs =>
    match letterOf c with
    | some letter =>
      if isBlank c && !leading then c :: escape sep leading cs
      else '\\' :: letter :: escape sep (leading && c ≠ '\\') cs
    | none =>
      if sep = some c then '\\' :: c :: escape sep true cs else c :: escape sep false cs

/-- Read a string. The flag says that a backslash came before; one without a meaning stays. -/
def unescape : Bool → List Char → List Char
  | _, [] => []
  | false, c :: cs => if c = '\\' then unescape true cs else c :: unescape false cs
  | true, c :: cs =>
    match charOf c with
    | some d => d :: unescape false cs
    | none => '\\' :: c :: unescape false cs

/-- Each string escaped and followed by the separator. -/
def escapeList (sep : Char) (strings : List (List Char)) : List Char :=
  strings.flatMap fun s => escape (some sep) true s ++ [sep]

/-- Read a list of strings; `piece` is what has been read of the next one. A backslash without a
meaning makes the whole value invalid. -/
def unescapeList (sep : Char) : Bool → List Char → List Char → Option (List (List Char))
  | true, _, [] => none
  | false, piece, [] => some (if piece = [] then [] else [piece])
  | false, piece, c :: cs =>
    if c = '\\' then unescapeList sep true piece cs
    else if c = sep then (unescapeList sep false [] cs).map (piece :: ·)
    else unescapeList sep false (piece ++ [c]) cs
  | true, piece, c :: cs =>
    match charOf c with
    | some d => unescapeList sep false (piece ++ [d]) cs
    | none => if c = sep then unescapeList sep false (piece ++ [sep]) cs else none

/-! ## Letters -/

theorem charOf_letterOf {c letter : Char} (h : letterOf c = some letter) :
    charOf letter = some c := by
  unfold letterOf at h
  split_ifs at h with h1 h2 h3 h4 h5 <;> obtain rfl := Option.some.inj h <;> subst c <;> rfl

theorem ne_backslash_of_isBlank {c : Char} (h : isBlank c = true) : c ≠ '\\' := by
  intro heq
  subst heq
  cases h

theorem ne_backslash_of_letterOf {c : Char} (h : letterOf c = none) : c ≠ '\\' := by
  intro heq
  subst heq
  cases h

/-! ## One string -/

/-- **A string is read back as it was written.** -/
theorem unescape_escape (leading : Bool) (s : List Char) :
    unescape false (escape none leading s) = s := by
  induction s generalizing leading with
  | nil => rfl
  | cons c s ih =>
    unfold escape
    cases hl : letterOf c with
    | none => simp [unescape, ne_backslash_of_letterOf hl, ih]
    | some letter =>
      dsimp only
      split_ifs with hb
      · have hne := ne_backslash_of_isBlank (Bool.and_eq_true_iff.1 hb).1
        simp [unescape, hne, ih]
      · simp [unescape, charOf_letterOf hl, ih]

/-! ## A list of strings -/

section List

variable {sep : Char}

/-- The separator stands for itself, and its escape for nothing else. -/
structure Separates (sep : Char) : Prop where
  plain : letterOf sep = none
  unused : charOf sep = none

instance (sep : Char) : Decidable (Separates sep) :=
  decidable_of_iff (letterOf sep = none ∧ charOf sep = none)
    ⟨fun h => ⟨h.1, h.2⟩, fun h => ⟨h.plain, h.unused⟩⟩

theorem ne_sep_of_letterOf (hsep : Separates sep) {c letter : Char}
    (h : letterOf c = some letter) : c ≠ sep := by
  intro heq
  subst heq
  rw [hsep.plain] at h
  cases h

/-- The next string of a list. -/
theorem unescapeList_append (hsep : Separates sep) (leading : Bool) (piece s rest : List Char) :
    unescapeList sep false piece (escape (some sep) leading s ++ sep :: rest) =
      (unescapeList sep false [] rest).map ((piece ++ s) :: ·) := by
  induction s generalizing leading piece with
  | nil => simp [escape, unescapeList, ne_backslash_of_letterOf hsep.plain]
  | cons c s ih =>
    unfold escape
    cases hl : letterOf c with
    | none =>
      dsimp only
      split_ifs with hc
      · obtain rfl := Option.some.inj hc
        simp [unescapeList, hsep.unused, ih]
      · have hne : c ≠ sep := fun heq => hc (congrArg some heq.symm)
        simp [unescapeList, ne_backslash_of_letterOf hl, hne, ih]
    | some letter =>
      dsimp only
      split_ifs with hb
      · have hne := ne_backslash_of_isBlank (Bool.and_eq_true_iff.1 hb).1
        simp [unescapeList, hne, ne_sep_of_letterOf hsep hl, ih]
      · simp [unescapeList, charOf_letterOf hl, ih]

/-- **A list of strings is read back as it was written.** -/
theorem unescapeList_escapeList (hsep : Separates sep) (strings : List (List Char)) :
    unescapeList sep false [] (escapeList sep strings) = some strings := by
  induction strings with
  | nil => rfl
  | cons s strings ih =>
    show unescapeList sep false []
      ((escape (some sep) true s ++ [sep]) ++ escapeList sep strings) = _
    rw [List.append_assoc, List.singleton_append, unescapeList_append hsep, ih]
    rfl

/-! ## A list read as one string -/

/-- What is read of an escaped string does not depend on what follows. -/
theorem unescape_append (leading : Bool) (s rest : List Char) :
    ∃ front, unescape false (escape (some sep) leading s ++ rest) =
      front ++ unescape false rest := by
  induction s generalizing leading with
  | nil => exact ⟨[], rfl⟩
  | cons c s ih =>
    unfold escape
    cases hl : letterOf c with
    | none =>
      dsimp only
      split_ifs with hc
      · obtain ⟨front, hfront⟩ := ih true
        cases hd : charOf c with
        | none => exact ⟨'\\' :: c :: front, by simp [unescape, hd, hfront]⟩
        | some d => exact ⟨d :: front, by simp [unescape, hd, hfront]⟩
      · obtain ⟨front, hfront⟩ := ih false
        exact ⟨c :: front, by simp [unescape, ne_backslash_of_letterOf hl, hfront]⟩
    | some letter =>
      dsimp only
      split_ifs with hb
      · have hne := ne_backslash_of_isBlank (Bool.and_eq_true_iff.1 hb).1
        obtain ⟨front, hfront⟩ := ih leading
        exact ⟨c :: front, by simp [unescape, hne, hfront]⟩
      · obtain ⟨front, hfront⟩ := ih (leading && c ≠ '\\')
        exact ⟨c :: front, by simpa [unescape, charOf_letterOf hl] using hfront⟩

/-- A list that is read as one string shows a separator, unless it is empty. -/
theorem sep_mem_unescape_escapeList (hsep : Separates sep) {strings : List (List Char)}
    (hne : strings ≠ []) : sep ∈ unescape false (escapeList sep strings) := by
  cases strings with
  | nil => exact absurd rfl hne
  | cons s strings =>
    obtain ⟨front, hfront⟩ := unescape_append true s ([sep] ++ escapeList sep strings)
    have heq : escapeList sep (s :: strings) =
        escape (some sep) true s ++ ([sep] ++ escapeList sep strings) := by
      simp [escapeList]
    rw [heq, hfront]
    simp [unescape, ne_backslash_of_letterOf hsep.plain]

end List

end KeyText
