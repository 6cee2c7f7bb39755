import Mathlib.Data.List.Basic

/-!
# Answers that are kept

A loop asks for the values of keys. An answer with a value goes into a table, and its key is not
asked for again; a key whose answer has no value is asked for each time. `asked` is the log of the
questions, which the loop itself does not read, except for their number.

**Main result.** `Sound.get`: the table and the log agree, no key is asked for after it was answered
with a value, and what a lookup returns is in the log.
-/

/-- A table of values, and the questions with their answers. -/
structure Memo (κ β : Type*) where
  table : List (κ × β)
  asked : List (κ × Option β)

namespace Memo

variable {κ β : Type*}

def empty : Memo κ β := ⟨[], []⟩

/-- The answer to the next question. -/
def enter (m : Memo κ β) (k : κ) (answer : Option β) : Memo κ β where
  table := (answer.map fun b => (k, b)).toList ++ m.table
  asked := m.asked ++ [(k, answer)]

variable [BEq κ] (ask : ℕ → κ → Option (Option β))

/-- Look a key up, in the table or with a question; `none` is a question that does not return. -/
def get (m : Memo κ β) (k : κ) : Option (Option β × Memo κ β) :=
  match m.table.lookup k with
  | some b => some (some b, m)
  | none => (ask m.asked.length k).map fun answer => (answer, m.enter k answer)

/-- The log has the answers, the table has those with a value, and no key is asked for again after
such an answer. -/
structure Sound (m : Memo κ β) : Prop where
  answered : ∀ i p, m.asked[i]? = some p → ask i p.1 = some p.2
  table_iff : ∀ k b, m.table.lookup k = some b ↔ (k, some b) ∈ m.asked
  once : m.asked.Pairwise fun p p' => p'.1 = p.1 → p.2 = none

variable {ask} {m : Memo κ β} {k : κ}

theorem sound_empty : (empty : Memo κ β).Sound ask :=
  ⟨nofun, fun _ _ => iff_of_false nofun nofun, List.Pairwise.nil⟩

/-- A lookup that does not return has asked a question that does not. -/
theorem exists_ask_eq_none (h : m.get ask k = none) : ∃ i, ask i k = none := by
  unfold get at h
  cases hlookup : m.table.lookup k with
  | some b =>
    rw [hlookup] at h
    cases h
  | none =>
    rw [hlookup] at h
    exact ⟨m.asked.length, Option.map_eq_none_iff.1 h⟩

/-- The questions of a lookup are for its key. -/
theorem key_of_mem_asked {answer : Option β} {m' : Memo κ β} (h : m.get ask k = some (answer, m'))
    {p : κ × Option β} (hp : p ∈ m'.asked) : p ∈ m.asked ∨ p.1 = k := by
  unfold get at h
  cases hlookup : m.table.lookup k with
  | some b =>
    rw [hlookup] at h
    obtain ⟨-, rfl⟩ := Prod.mk.inj (Option.some.inj h)
    exact Or.inl hp
  | none =>
    rw [hlookup] at h
    obtain ⟨answer', -, hpair⟩ := Option.map_eq_some_iff.1 h
    obtain ⟨-, rfl⟩ := Prod.mk.inj hpair
    rcases List.mem_append.1 hp with hp | hp
    · exact Or.inl hp
    · exact Or.inr (congrArg Prod.fst (List.mem_singleton.1 hp))

variable [LawfulBEq κ]

theorem lookup_enter (m : Memo κ β) (k : κ) (answer : Option β) (hmiss : m.table.lookup k = none)
    (k' : κ) (b : β) : (m.enter k answer).table.lookup k' = some b ↔
      m.table.lookup k' = some b ∨ k' = k ∧ answer = some b := by
  cases answer with
  | none => simp [enter]
  | some b' =>
    show List.lookup k' ((k, b') :: m.table) = some b ↔ _
    by_cases hk : k' = k
    · subst hk
      simp [hmiss]
    · have hne : (k' == k) = false := by simpa using hk
      simp [List.lookup_cons, hne, hk]

theorem Sound.enter (h : m.Sound ask) {answer : Option β} (hmiss : m.table.lookup k = none)
    (hask : ask m.asked.length k = some answer) : (m.enter k answer).Sound ask where
  answered i p hp := by
    change (m.asked ++ [(k, answer)])[i]? = some p at hp
    rcases Nat.lt_trichotomy i m.asked.length with hi | rfl | hi
    · rw [List.getElem?_append_left hi] at hp
      exact h.answered i p hp
    · rw [List.getElem?_concat_length] at hp
      obtain rfl := Option.some.inj hp
      exact hask
    · rw [List.getElem?_eq_none (by simp; omega)] at hp
      cases hp
  table_iff k' b := by
    rw [lookup_enter m k answer hmiss, h.table_iff]
    show _ ↔ (k', some b) ∈ m.asked ++ [(k, answer)]
    rw [List.mem_append, List.mem_singleton, Prod.mk.injEq, eq_comm (a := answer)]
  once := by
    refine List.pairwise_append.2 ⟨h.once, List.pairwise_singleton _ _, fun p hp p' hp' hk => ?_⟩
    obtain rfl := List.mem_singleton.1 hp'
    obtain ⟨k', answer'⟩ := p
    obtain rfl : k = k' := hk
    cases answer' with
    | none => rfl
    | some b =>
      -- a value would be in the table
      cases hmiss.symm.trans ((h.table_iff k b).2 hp)

/-- **A lookup.** -/
theorem Sound.get (h : m.Sound ask) {answer : Option β} {m' : Memo κ β}
    (hget : m.get ask k = some (answer, m')) :
    m'.Sound ask ∧ (k, answer) ∈ m'.asked ∧ m.asked <+: m'.asked := by
  unfold Memo.get at hget
  cases hlookup : m.table.lookup k with
  | some b =>
    rw [hlookup] at hget
    obtain ⟨rfl, rfl⟩ := Prod.mk.inj (Option.some.inj hget)
    exact ⟨h, (h.table_iff k b).1 hlookup, List.prefix_rfl⟩
  | none =>
    rw [hlookup] at hget
    obtain ⟨answer', hask, hpair⟩ := Option.map_eq_some_iff.1 hget
    obtain ⟨rfl, rfl⟩ := Prod.mk.inj hpair
    exact ⟨h.enter hlookup hask, List.mem_append_right _ (List.mem_singleton_self _),
      List.prefix_append _ _⟩

end Memo
