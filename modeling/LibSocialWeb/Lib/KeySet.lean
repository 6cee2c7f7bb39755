import Mathlib.Data.List.Nodup
import Mathlib.Data.List.Perm.Basic
import Mathlib.Data.Set.Insert

/-!
# Sets of objects told apart by a key

A hash table used as a set compares its members through a key (a name, or the address itself).
It holds at most one object for each key, and adding an object whose key is present replaces the
old object. `KeySet key` is such a set: its members in some order, with distinct keys.

The set is the same thing as a finite partial map `k ↦ s.find k` from keys to the object that
represents them, and every operation is described by what it does to that map.
-/

/-- A set of objects with at most one object for each key. -/
structure KeySet {α κ : Type*} (key : α → κ) where
  members : List α
  nodup : (members.map key).Nodup

namespace KeySet

variable {α κ : Type*} [DecidableEq κ] {key : α → κ}

/-- The first object of a list with key `k`. -/
def findKey (key : α → κ) (l : List α) (k : κ) : Option α := l.find? fun a => key a = k

@[simp] theorem findKey_nil (k : κ) : findKey key [] k = none := rfl

theorem findKey_cons (a : α) (l : List α) (k : κ) :
    findKey key (a :: l) k = if key a = k then some a else findKey key l k := by
  by_cases h : key a = k <;> simp [findKey, h]

theorem findKey_some {l : List α} {k : κ} {a : α} (h : findKey key l k = some a) :
    a ∈ l ∧ key a = k :=
  ⟨List.mem_of_find?_eq_some h, by simpa using List.find?_some h⟩

theorem findKey_eq_none {l : List α} {k : κ} : findKey key l k = none ↔ ∀ a ∈ l, key a ≠ k := by
  simp [findKey, List.find?_eq_none]

theorem findKey_isSome {l : List α} {k : κ} :
    (findKey key l k).isSome ↔ ∃ a ∈ l, key a = k := by
  simp [findKey, List.find?_isSome]

theorem findKey_iff {l : List α} (hl : (l.map key).Nodup) {k : κ} {a : α} :
    findKey key l k = some a ↔ a ∈ l ∧ key a = k := by
  refine ⟨findKey_some, ?_⟩
  intro h
  rcases h with ⟨ha, hk⟩
  cases hf : findKey key l k with
  | none => exact absurd hk (findKey_eq_none.1 hf a ha)
  | some b =>
    obtain ⟨hb, hbk⟩ := findKey_some hf
    rw [List.inj_on_of_nodup_map hl hb ha (hbk.trans hk.symm)]

theorem findKey_perm {l l' : List α} (hp : l.Perm l') (hl : (l.map key).Nodup) (k : κ) :
    findKey key l k = findKey key l' k := by
  have hl' : (l'.map key).Nodup := (hp.map key).nodup_iff.1 hl
  ext a
  rw [findKey_iff hl, findKey_iff hl', hp.mem_iff]

/-- Filtering a list with distinct keys filters what is found in it. -/
theorem findKey_filter {l : List α} (hl : (l.map key).Nodup) (p : α → Bool) (k : κ) :
    findKey key (l.filter p) k = (findKey key l k).filter p := by
  ext a
  rw [findKey_iff (hl.sublist (List.filter_sublist.map key)), Option.filter_eq_some_iff,
    findKey_iff hl, List.mem_filter]
  tauto

/-! ## Operations -/

instance : Membership α (KeySet key) := ⟨fun s a => a ∈ s.members⟩

omit [DecidableEq κ] in
theorem mem_def {s : KeySet key} {a : α} : a ∈ s ↔ a ∈ s.members := Iff.rfl

instance [DecidableEq α] (a : α) (s : KeySet key) : Decidable (a ∈ s) :=
  inferInstanceAs (Decidable (a ∈ s.members))

instance (s : KeySet key) (p : α → Prop) [DecidablePred p] : Decidable (∀ a ∈ s, p a) :=
  inferInstanceAs (Decidable (∀ a ∈ s.members, p a))

/-- The object that represents the key `k`. -/
def find (s : KeySet key) (k : κ) : Option α := findKey key s.members k

/-- An object with the key of `a` is present. -/
def has (s : KeySet key) (a : α) : Bool := (s.find (key a)).isSome

def isEmpty (s : KeySet key) : Bool := s.members.isEmpty

def empty : KeySet key := ⟨[], List.nodup_nil⟩

omit [DecidableEq κ] in
theorem nodup_filter (s : KeySet key) (p : α → Bool) : ((s.members.filter p).map key).Nodup :=
  s.nodup.sublist (List.filter_sublist.map key)

/-- Remove the object with the key of `a`. -/
def remove (s : KeySet key) (a : α) : KeySet key :=
  ⟨s.members.filter fun b => key b ≠ key a, s.nodup_filter _⟩

/-- Add `a`, in place of an object with the same key. -/
def add (s : KeySet key) (a : α) : KeySet key where
  members := (s.members.filter fun b => key b ≠ key a) ++ [a]
  nodup := by
    rw [List.map_append, List.map_singleton, List.nodup_append]
    refine ⟨s.nodup_filter _, List.nodup_singleton _, ?_⟩
    intro k hk k' hk'
    obtain ⟨b, hb, rfl⟩ := List.mem_map.1 hk
    rw [List.mem_singleton.1 hk']
    simpa using (List.mem_filter.1 hb).2

def addAll (s : KeySet key) (l : List α) : KeySet key := l.foldl add s

def removeAll (s : KeySet key) (l : List α) : KeySet key := l.foldl remove s

/-! ## What is found after each operation -/

theorem find_some {s : KeySet key} {k : κ} {a : α} (h : s.find k = some a) : a ∈ s ∧ key a = k :=
  findKey_some h

theorem find_iff {s : KeySet key} {k : κ} {a : α} : s.find k = some a ↔ a ∈ s ∧ key a = k :=
  findKey_iff s.nodup

theorem mem_iff_find {s : KeySet key} {a : α} : a ∈ s ↔ s.find (key a) = some a := by
  simp [find_iff]

theorem find_eq_none {s : KeySet key} {k : κ} : s.find k = none ↔ ∀ a ∈ s, key a ≠ k :=
  findKey_eq_none

theorem find_isSome {s : KeySet key} {k : κ} : (s.find k).isSome ↔ ∃ a ∈ s, key a = k :=
  findKey_isSome

@[simp] theorem find_empty (k : κ) : (empty : KeySet key).find k = none := rfl

theorem isEmpty_iff {s : KeySet key} : s.isEmpty = true ↔ ∀ k, s.find k = none := by
  refine ⟨?_, ?_⟩
  · intro h k
    rw [find_eq_none]
    intro a ha
    rw [mem_def, List.isEmpty_iff.1 h] at ha
    cases ha
  · intro h
    rw [isEmpty, List.isEmpty_iff, List.eq_nil_iff_forall_not_mem]
    intro a ha
    exact find_eq_none.1 (h (key a)) a ha rfl

theorem find_remove (s : KeySet key) (a : α) (k : κ) :
    (s.remove a).find k = if key a = k then none else s.find k := by
  rw [find, remove, findKey_filter s.nodup, ← find]
  split_ifs with h
  · rw [Option.filter_eq_none_iff]
    intro b hb
    simp [(find_some hb).2, h]
  · cases hf : s.find k with
    | none => rfl
    | some b => simp [Option.filter, (find_some hf).2, Ne.symm h]

theorem find_add (s : KeySet key) (a : α) (k : κ) :
    (s.add a).find k = if key a = k then some a else s.find k := by
  have hr : findKey key (s.members.filter fun b => key b ≠ key a) k =
      if key a = k then none else s.find k := find_remove s a k
  rw [find, add, findKey, List.find?_append, ← findKey, hr]
  split_ifs with h
  · simp [h]
  · simp [h]

theorem find_addAll (s : KeySet key) {l : List α} (hl : (l.map key).Nodup) (k : κ) :
    (s.addAll l).find k = (findKey key l k).or (s.find k) := by
  induction l generalizing s with
  | nil => rfl
  | cons a l ih =>
    rw [List.map_cons, List.nodup_cons] at hl
    show ((s.add a).addAll l).find k = _
    rw [ih (s.add a) hl.2, find_add, findKey_cons]
    split_ifs with h
    · have hn : findKey key l k = none := findKey_eq_none.2 fun b hb hbk =>
        hl.1 (List.mem_map.2 ⟨b, hb, hbk.trans h.symm⟩)
      simp [hn]
    · rfl

theorem find_removeAll (s : KeySet key) (l : List α) (k : κ) :
    (s.removeAll l).find k = if (findKey key l k).isSome then none else s.find k := by
  induction l generalizing s with
  | nil => simp [removeAll]
  | cons a l ih =>
    show ((s.remove a).removeAll l).find k = _
    rw [ih (s.remove a), find_remove, findKey_cons]
    by_cases h : key a = k <;> simp [h]

/-- Adding objects with new keys puts them at the end. -/
theorem members_addAll (s : KeySet key) {l : List α} (hl : (l.map key).Nodup)
    (hnew : ∀ a ∈ l, ∀ b ∈ s.members, key b ≠ key a) :
    (s.addAll l).members = s.members ++ l := by
  induction l generalizing s with
  | nil => simp [addAll]
  | cons a l ih =>
    rw [List.map_cons, List.nodup_cons] at hl
    have hadd : (s.add a).members = s.members ++ [a] := by
      have hfilter : s.members.filter (fun b => key b ≠ key a) = s.members := by
        rw [List.filter_eq_self]
        intro b hb
        simpa using hnew a (by simp) b hb
      show s.members.filter (fun b => key b ≠ key a) ++ [a] = _
      rw [hfilter]
    show ((s.add a).addAll l).members = _
    rw [ih (s.add a) hl.2, hadd, List.append_assoc, List.singleton_append]
    intro x hx b hb
    rw [hadd, List.mem_append, List.mem_singleton] at hb
    rcases hb with hb | rfl
    · exact hnew x (by simp [hx]) b hb
    · exact fun heq => hl.1 (List.mem_map.2 ⟨x, hx, heq.symm⟩)

/-! ## The keys of a set

When objects with the same key are not told apart, a `KeySet` is a set of keys, and the operations
are those of set algebra. -/

/-- The keys of the objects in the set. -/
def keys (s : KeySet key) : Set κ := {k | ∃ a ∈ s, key a = k}

omit [DecidableEq κ] in
theorem mem_keys {s : KeySet key} {k : κ} : k ∈ s.keys ↔ ∃ a ∈ s, key a = k := Iff.rfl

theorem mem_keys_iff_find {s : KeySet key} {k : κ} : k ∈ s.keys ↔ (s.find k).isSome :=
  find_isSome.symm

theorem has_iff_mem_keys {s : KeySet key} {a : α} : s.has a = true ↔ key a ∈ s.keys :=
  find_isSome

omit [DecidableEq κ] in
@[simp] theorem keys_empty : (empty : KeySet key).keys = ∅ := by
  ext k
  simp [keys, empty, mem_def]

theorem keys_add (s : KeySet key) (a : α) : (s.add a).keys = insert (key a) s.keys := by
  ext k
  rw [Set.mem_insert_iff, mem_keys_iff_find, mem_keys_iff_find, find_add]
  split_ifs with h
  · simp [h]
  · simp [Ne.symm h]

theorem keys_remove (s : KeySet key) (a : α) : (s.remove a).keys = s.keys \ {key a} := by
  ext k
  rw [Set.mem_sdiff, Set.mem_singleton_iff, mem_keys_iff_find, mem_keys_iff_find, find_remove]
  split_ifs with h
  · simp [h]
  · simp [Ne.symm h]

theorem keys_addAll (s : KeySet key) (l : List α) :
    (s.addAll l).keys = s.keys ∪ {k | ∃ a ∈ l, key a = k} := by
  induction l generalizing s with
  | nil => simp [addAll]
  | cons a l ih =>
    show ((s.add a).addAll l).keys = _
    rw [ih, keys_add]
    ext k
    simp only [Set.mem_union, Set.mem_insert_iff, Set.mem_ofPred_eq, List.exists_mem_cons_iff,
      eq_comm (a := k)]
    tauto

theorem keys_removeAll (s : KeySet key) (l : List α) :
    (s.removeAll l).keys = s.keys \ {k | ∃ a ∈ l, key a = k} := by
  induction l generalizing s with
  | nil =>
    ext k
    simp [removeAll]
  | cons a l ih =>
    show ((s.remove a).removeAll l).keys = _
    rw [ih, keys_remove]
    ext k
    simp only [Set.mem_sdiff, Set.mem_singleton_iff, Set.mem_ofPred_eq, List.exists_mem_cons_iff,
      eq_comm (a := k)]
    rw [not_or, and_assoc]

omit [DecidableEq κ] in
/-- No two members have the same key. -/
theorem eq_of_key_eq (s : KeySet key) {a b : α} (ha : a ∈ s) (hb : b ∈ s) (h : key a = key b) :
    a = b :=
  List.inj_on_of_nodup_map s.nodup ha hb h

/-! ## Images

`f` renames the objects; two objects have the same key exactly when their images have. -/

section Image

variable {β κ' : Type*} [DecidableEq κ'] {key' : β → κ'} {f : α → β} {s : KeySet key}
  {s' : KeySet key'}

/-- The members of `s'` are those of `s`, renamed. -/
def Image (f : α → β) (s : KeySet key) (s' : KeySet key') : Prop := s'.members = s.members.map f

omit [DecidableEq κ] [DecidableEq κ'] in
theorem Image.isEmpty (h : Image f s s') : s'.isEmpty = s.isEmpty := by
  unfold Image at h
  rw [KeySet.isEmpty, KeySet.isEmpty, h, List.isEmpty_map]

variable (hf : ∀ a b, key' (f b) = key' (f a) ↔ key b = key a)

include hf

theorem Image.remove (h : Image f s s') (a : α) : Image f (s.remove a) (s'.remove (f a)) := by
  show s'.members.filter _ = (s.members.filter _).map f
  rw [h, List.filter_map]
  congr 1
  apply List.filter_congr
  intro b _
  simp [hf]

theorem Image.add (h : Image f s s') (a : α) : Image f (s.add a) (s'.add (f a)) := by
  have hremove := h.remove hf a
  show s'.members.filter _ ++ [f a] = (s.members.filter _ ++ [a]).map f
  rw [List.map_append, List.map_singleton]
  exact congrArg (· ++ [f a]) hremove

theorem Image.addAll (h : Image f s s') (l : List α) :
    Image f (s.addAll l) (s'.addAll (l.map f)) := by
  induction l generalizing s s' with
  | nil => exact h
  | cons a l ih => exact ih (h.add hf a)

theorem Image.removeAll (h : Image f s s') (l : List α) :
    Image f (s.removeAll l) (s'.removeAll (l.map f)) := by
  induction l generalizing s s' with
  | nil => exact h
  | cons a l ih => exact ih (h.remove hf a)

theorem Image.has (h : Image f s s') (a : α) : s'.has (f a) = s.has a := by
  rw [Bool.eq_iff_iff, KeySet.has, KeySet.has, find_isSome, find_isSome]
  simp only [mem_def]
  rw [h]
  simp [hf]

end Image

end KeySet
