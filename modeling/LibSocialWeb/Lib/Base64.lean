import Mathlib.Algebra.Group.Nat.Defs
import Mathlib.Data.List.Basic
import Mathlib.Data.Nat.Notation

/-!
# Base 64

Three bytes are written as four letters of six bits each. Where the bytes end early, `=` stands for
the missing letters. The reader is a fold over the text that shifts the letters into a register and
gives out three bytes with every fourth letter; it skips what is not a letter.

**Main results.** `decode_encode`: the bytes come back. `letter_or_pad`: the text has only letters
and `=`.
-/

namespace Base64

/-- The letter for six bits. -/
def letter (n : ℕ) : UInt8 :=
  if n < 26 then UInt8.ofNat (n + 65)
  else if n < 52 then UInt8.ofNat (n + 71)
  else if n < 62 then UInt8.ofNat (n - 4)
  else if n = 62 then 43
  else 47

/-- `=` -/
def pad : UInt8 := 61

def encode : List UInt8 → List UInt8
  | [] => []
  | [a] => [letter (a.toNat / 4), letter (a.toNat % 4 * 16), pad, pad]
  | [a, b] =>
    [letter (a.toNat / 4), letter (a.toNat % 4 * 16 + b.toNat / 16), letter (b.toNat % 16 * 4), pad]
  | a :: b :: c :: rest =>
    letter (a.toNat / 4) :: letter (a.toNat % 4 * 16 + b.toNat / 16) ::
      letter (b.toNat % 16 * 4 + c.toNat / 64) :: letter (c.toNat % 64) :: encode rest

/-- The six bits of a letter. `=` counts as zero, and other bytes are skipped. -/
def rank (c : UInt8) : Option ℕ :=
  if 65 ≤ c ∧ c ≤ 90 then some (c.toNat - 65)
  else if 97 ≤ c ∧ c ≤ 122 then some (c.toNat - 71)
  else if 48 ≤ c ∧ c ≤ 57 then some (c.toNat + 4)
  else if c = 43 then some 62
  else if c = 47 then some 63
  else if c = pad then some 0
  else none

/-- The reader: a register of 32 bits, the count of letters in it, the last two letters and the
bytes so far. -/
structure Reader where
  v : ℕ
  i : ℕ
  last : UInt8 × UInt8
  out : List UInt8

namespace Reader

def init : Reader := ⟨0, 0, (0, 0), []⟩

/-- A letter is shifted into the register. -/
def shift (r : Reader) (c : UInt8) (bits : ℕ) : Reader :=
  ⟨(r.v * 64 + bits) % 4294967296, r.i + 1, (c, r.last.1), r.out⟩

/-- The bytes of a full register. -/
def flush (r : Reader) : Reader :=
  { r with
    i := 0
    out := r.out ++ [UInt8.ofNat (r.v / 65536)] ++
      (if r.last.2 = pad then [] else [UInt8.ofNat (r.v / 256)]) ++
      (if r.last.1 = pad then [] else [UInt8.ofNat r.v]) }

def step (r : Reader) (c : UInt8) : Reader :=
  match rank c with
  | none => r
  | some bits => if (r.shift c bits).i = 4 then (r.shift c bits).flush else r.shift c bits

end Reader

def decode (text : List UInt8) : List UInt8 := (text.foldl Reader.step Reader.init).out

/-! ## Letters -/

theorem rank_letter : ∀ n < 64, rank (letter n) = some n := by decide

theorem letter_ne_pad : ∀ n < 64, letter n ≠ pad := by decide

/-- A letter or `=`. -/
def isLetterOrPad (c : UInt8) : Bool := (rank c).isSome

theorem isLetterOrPad_letter {n : ℕ} (h : n < 64) : isLetterOrPad (letter n) = true := by
  rw [isLetterOrPad, rank_letter n h]
  rfl

/-- **What the text consists of.** -/
theorem letter_or_pad (bytes : List UInt8) : ∀ c ∈ encode bytes, isLetterOrPad c = true := by
  have hpad : isLetterOrPad pad = true := rfl
  induction bytes using encode.induct with
  | case1 => exact List.forall_mem_nil _
  | case2 a =>
    have ha := a.toNat_lt
    simp only [encode, List.forall_mem_cons]
    exact ⟨isLetterOrPad_letter (by omega), isLetterOrPad_letter (by omega), hpad, hpad,
      List.forall_mem_nil _⟩
  | case3 a b =>
    have ha := a.toNat_lt
    have hb := b.toNat_lt
    simp only [encode, List.forall_mem_cons]
    exact ⟨isLetterOrPad_letter (by omega), isLetterOrPad_letter (by omega),
      isLetterOrPad_letter (by omega), hpad, List.forall_mem_nil _⟩
  | case4 a b c rest ih =>
    have ha := a.toNat_lt
    have hb := b.toNat_lt
    have hc := c.toNat_lt
    simp only [encode, List.forall_mem_cons]
    exact ⟨isLetterOrPad_letter (by omega), isLetterOrPad_letter (by omega),
      isLetterOrPad_letter (by omega), isLetterOrPad_letter (by omega), ih⟩

/-! ## The bytes come back -/

theorem ofNat_eq {n : ℕ} {a : UInt8} (h : n % 256 = a.toNat) : UInt8.ofNat n = a := by
  apply UInt8.toNat_inj.1
  rw [UInt8.toNat_ofNat', h]

namespace Reader

variable {r : Reader} {c : UInt8} {n : ℕ}

theorem step_shift (hrank : rank c = some n) (hi : r.i + 1 ≠ 4) : r.step c = r.shift c n := by
  rw [step, hrank]
  exact if_neg hi

theorem step_flush (hrank : rank c = some n) (hi : r.i + 1 = 4) :
    r.step c = (r.shift c n).flush := by
  rw [step, hrank]
  exact if_pos hi

/-- The reader after four letters. -/
def four (r : Reader) (c₀ c₁ c₂ c₃ : UInt8) (n₀ n₁ n₂ n₃ : ℕ) : Reader :=
  ((((r.shift c₀ n₀).shift c₁ n₁).shift c₂ n₂).shift c₃ n₃).flush

theorem foldl_step_four (hi : r.i = 0) {c₀ c₁ c₂ c₃ : UInt8} {n₀ n₁ n₂ n₃ : ℕ}
    (h₀ : rank c₀ = some n₀) (h₁ : rank c₁ = some n₁) (h₂ : rank c₂ = some n₂)
    (h₃ : rank c₃ = some n₃) (text : List UInt8) :
    (c₀ :: c₁ :: c₂ :: c₃ :: text).foldl step r =
      text.foldl step (r.four c₀ c₁ c₂ c₃ n₀ n₁ n₂ n₃) := by
  have hcount : ∀ (r : Reader) c n, (r.shift c n).i = r.i + 1 := fun _ _ _ => rfl
  rw [List.foldl_cons, step_shift h₀ (by rw [hi]; decide),
    List.foldl_cons, step_shift h₁ (by rw [hcount, hi]; decide),
    List.foldl_cons, step_shift h₂ (by rw [hcount, hcount, hi]; decide),
    List.foldl_cons, step_flush h₃ (by rw [hcount, hcount, hcount, hi])]
  rfl

/-- Four letters leave the register empty. What they give out are the three bytes of their bits, as
far as the last letters are no `=`. -/
theorem four_out {c₀ c₁ c₂ c₃ : UInt8} {n₀ n₁ n₂ n₃ : ℕ} {x y z : UInt8}
    (hx : n₀ * 4 + n₁ / 16 = x.toNat) (hy : n₁ % 16 * 16 + n₂ / 4 = y.toNat)
    (hz : n₂ % 4 * 64 + n₃ = z.toNat) (hn₂ : n₂ < 64) (hn₃ : n₃ < 64) :
    (r.four c₀ c₁ c₂ c₃ n₀ n₁ n₂ n₃).out = r.out ++ [x] ++ (if c₂ = pad then [] else [y]) ++
      (if c₃ = pad then [] else [z]) := by
  have hx' := x.toNat_lt
  simp only [four, flush, shift]
  rw [ofNat_eq (a := x) (by omega), ofNat_eq (a := y) (by omega), ofNat_eq (a := z) (by omega)]
  rfl

end Reader

/-- What a reader with an empty register makes of the text. -/
theorem foldl_step_encode (bytes : List UInt8) (r : Reader) (hi : r.i = 0) :
    ((encode bytes).foldl Reader.step r).out = r.out ++ bytes := by
  have hpad : rank pad = some 0 := rfl
  induction bytes using encode.induct generalizing r with
  | case1 => simp [encode]
  | case2 a =>
    have ha := a.toNat_lt
    rw [encode, Reader.foldl_step_four hi (rank_letter _ (by omega)) (rank_letter _ (by omega)) hpad
      hpad, List.foldl_nil, Reader.four_out (x := a) (y := 0) (z := 0) (by omega) (by simp)
      (by simp) (by omega) (by omega), if_pos rfl]
    simp
  | case3 a b =>
    have ha := a.toNat_lt
    have hb := b.toNat_lt
    rw [encode, Reader.foldl_step_four hi (rank_letter _ (by omega)) (rank_letter _ (by omega))
      (rank_letter _ (by omega)) hpad, List.foldl_nil, Reader.four_out (x := a) (y := b) (z := 0)
      (by omega) (by omega) (by simp) (by omega) (by omega), if_pos rfl,
      if_neg (letter_ne_pad _ (by omega))]
    simp
  | case4 a b c rest ih =>
    have ha := a.toNat_lt
    have hb := b.toNat_lt
    have hc := c.toNat_lt
    rw [encode, Reader.foldl_step_four hi (rank_letter _ (by omega)) (rank_letter _ (by omega))
      (rank_letter _ (by omega)) (rank_letter _ (by omega)), ih _ rfl, Reader.four_out (x := a)
      (y := b) (z := c) (by omega) (by omega) (by omega) (by omega) (by omega),
      if_neg (letter_ne_pad _ (by omega)), if_neg (letter_ne_pad _ (by omega))]
    simp

/-- **The bytes come back.** -/
theorem decode_encode (bytes : List UInt8) : decode (encode bytes) = bytes :=
  foldl_step_encode bytes Reader.init rfl

end Base64
