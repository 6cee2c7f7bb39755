import Mathlib.Data.List.Induction
import Mathlib.Tactic.SplitIfs

/-!
# Announcement logs

A publisher tells its listeners about a changing collection by notices: these keys were added,
these were changed, these were removed. A listener that knows only the log knows a key to be
present when the last notice that added or removed it added it.

`LastAdded log k` is that knowledge, `present log k` computes it, and `ChangesAnnounced log` says
that the log never reports a change of a key the listener does not know of.
-/

/-- A notice about some keys of a collection. -/
inductive Notice (κ : Type*) where
  | added (ks : List κ)
  | changed (ks : List κ)
  | removed (ks : List κ)

namespace Notice

variable {κ : Type*}

/-! ## What a log says -/

/-- `n` adds or removes `k`. -/
def Names (k : κ) : Notice κ → Prop
  | added ks => k ∈ ks
  | changed _ => False
  | removed ks => k ∈ ks

/-- The last notice of the log that adds or removes `k` adds it. -/
def LastAdded (log : List (Notice κ)) (k : κ) : Prop :=
  ∃ pre ks post, log = pre ++ added ks :: post ∧ k ∈ ks ∧ ∀ n ∈ post, ¬ Names k n

/-- Every reported change names keys known at that point of the log. -/
def ChangesAnnounced (log : List (Notice κ)) : Prop :=
  ∀ pre ks post, log = pre ++ changed ks :: post → ∀ k ∈ ks, LastAdded pre k

theorem changesAnnounced_nil : ChangesAnnounced ([] : List (Notice κ)) := by
  intro pre ks post h
  simp at h

/-- Where a notice of `log ++ [n]` stands: it is `n`, or it is in `log`. -/
theorem split_snoc {log pre post : List (Notice κ)} {n m : Notice κ}
    (h : log ++ [n] = pre ++ m :: post) :
    (pre = log ∧ m = n ∧ post = []) ∨ ∃ post', post = post' ++ [n] ∧ log = pre ++ m :: post' := by
  rcases List.eq_nil_or_concat post with rfl | ⟨post', l, rfl⟩
  · obtain ⟨hlog, hn⟩ := List.append_inj' h rfl
    exact Or.inl ⟨hlog.symm, (List.singleton_inj.1 hn).symm, rfl⟩
  · rw [List.concat_eq_append, ← List.cons_append, ← List.append_assoc] at h
    obtain ⟨hlog, hn⟩ := List.append_inj' h rfl
    exact Or.inr ⟨post', by rw [List.concat_eq_append, hn], hlog⟩

/-! ## Computing it -/

variable [DecidableEq κ]

/-- What a notice does to the listener's knowledge of `k`. -/
def update (k : κ) (b : Bool) : Notice κ → Bool
  | added ks => if k ∈ ks then true else b
  | changed _ => b
  | removed ks => if k ∈ ks then false else b

/-- What the log says of `k`. -/
def present (log : List (Notice κ)) (k : κ) : Bool := log.foldl (update k) false

@[simp] theorem present_nil (k : κ) : present [] k = false := rfl

theorem present_append (log more : List (Notice κ)) (k : κ) :
    present (log ++ more) k = more.foldl (update k) (present log k) := by
  simp [present, List.foldl_append]

@[simp] theorem present_added (log : List (Notice κ)) (ks : List κ) (k : κ) :
    present (log ++ [added ks]) k = if k ∈ ks then true else present log k := by
  simp [present_append, update]

@[simp] theorem present_changed (log : List (Notice κ)) (ks : List κ) (k : κ) :
    present (log ++ [changed ks]) k = present log k := by
  simp [present_append, update]

@[simp] theorem present_removed (log : List (Notice κ)) (ks : List κ) (k : κ) :
    present (log ++ [removed ks]) k = if k ∈ ks then false else present log k := by
  simp [present_append, update]

/-- `present` is the verdict of the most recent notice that adds or removes the key. -/
theorem present_iff {log : List (Notice κ)} {k : κ} : present log k = true ↔ LastAdded log k := by
  unfold LastAdded
  induction log using List.reverseRec with
  | nil => simp
  | append_singleton log n ih =>
    have hlast : (∃ pre ks post, log ++ [n] = pre ++ added ks :: post ∧ k ∈ ks ∧
        ∀ m ∈ post, ¬ Names k m) ↔ (∃ ks, n = added ks ∧ k ∈ ks) ∨
        (¬ Names k n ∧ present log k = true) := by
      rw [ih]
      refine ⟨?_, ?_⟩
      · intro hex
        rcases hex with ⟨pre, ks, post, h, hk, hpost⟩
        rcases split_snoc h with ⟨-, hn, -⟩ | ⟨post', rfl, hlog⟩
        · exact Or.inl ⟨ks, hn.symm, hk⟩
        · exact Or.inr ⟨hpost n (by simp), pre, ks, post', hlog, hk,
            fun m hm => hpost m (by simp [hm])⟩
      · intro hor
        rcases hor with ⟨ks, rfl, hk⟩ | ⟨hn, pre, ks, post, rfl, hk, hpost⟩
        · exact ⟨log, ks, [], rfl, hk, by simp⟩
        · refine ⟨pre, ks, post ++ [n], by simp, hk, fun m hm => ?_⟩
          rcases List.mem_append.1 hm with hm | hm
          · exact hpost m hm
          · rw [List.mem_singleton.1 hm]; exact hn
    rw [hlast]
    cases n with
    | added ks => by_cases hk : k ∈ ks <;> simp [hk, Names]
    | changed ks => simp [Names]
    | removed ks => by_cases hk : k ∈ ks <;> simp [hk, Names]

theorem changesAnnounced_append {log : List (Notice κ)} {n : Notice κ} :
    ChangesAnnounced (log ++ [n]) ↔
      ChangesAnnounced log ∧ ∀ ks, n = changed ks → ∀ k ∈ ks, present log k = true := by
  simp only [present_iff]
  refine ⟨?_, ?_⟩
  · intro h
    refine ⟨fun pre ks post hl => h pre ks (post ++ [n]) (by simp [hl]), ?_⟩
    intro ks heq
    subst heq
    exact h log ks [] rfl
  · intro hand pre ks post h
    rcases hand with ⟨hlog, hn⟩
    rcases split_snoc h with ⟨rfl, hm, -⟩ | ⟨post', -, hlog'⟩
    · exact hn ks hm.symm
    · exact hlog pre ks post' hlog'

end Notice
