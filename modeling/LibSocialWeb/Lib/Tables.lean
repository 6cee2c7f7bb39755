import Mathlib.Data.List.AList
import Mathlib.Tactic.SplitIfs

/-!
# Tables filled from tables

A table (`AList`) is filled from the entries of another one: each key and each value is translated
on the way. `lookup_fill` says what is found under a translated key, `length_fill` how large the
table becomes. `mapValues` translates the values in place, and `lookup_replace` says what is found
after the value of one key was replaced. `values` lists the values with their multiplicities.

**Sizes.** Two tables are often compared by their sizes and one inclusion. `lookup_eq_of_length_le`
says when that is enough, and `length_filter_mem_comm` counts the keys that two tables share.
-/

namespace Tables

variable {α γ β δ : Type*} [DecidableEq α] [DecidableEq γ]

/-- Insert the translated entries one after the other. -/
def fill (g : α → γ) (f : α → β → δ) (entries : List (Sigma fun _ : α => β))
    (table : AList fun _ : γ => δ) : AList fun _ : γ => δ :=
  entries.foldl (fun t e => t.insert (g e.1) (f e.1 e.2)) table

variable (g : α → γ) (f : α → β → δ)

omit [DecidableEq α] in
@[simp] theorem fill_cons (e : Sigma fun _ : α => β) (entries : List (Sigma fun _ : α => β))
    (table : AList fun _ : γ => δ) :
    fill g f (e :: entries) table = fill g f entries (table.insert (g e.1) (f e.1 e.2)) := rfl

/-- **A filled table holds the translation of what the other table holds.** -/
theorem lookup_fill {entries : List (Sigma fun _ : α => β)} (hnodup : entries.NodupKeys) {a : α}
    (ha : ∀ b ∈ entries.keys, g b = g a → b = a) (table : AList fun _ : γ => δ) :
    (fill g f entries table).lookup (g a) =
      ((entries.dlookup a).map (f a)).or (table.lookup (g a)) := by
  induction entries generalizing table with
  | nil => rfl
  | cons e entries ih =>
    obtain ⟨hnot, hnodup⟩ := List.nodupKeys_cons.1 hnodup
    have ha' : ∀ b ∈ entries.keys, g b = g a → b = a :=
      fun b hb => ha b (by simp [List.keys_cons, hb])
    rw [fill_cons, ih hnodup ha']
    by_cases he : a = e.1
    · subst he
      rw [List.dlookup_eq_none.2 hnot, List.dlookup_cons_eq, AList.lookup_insert]
      rfl
    · have hne : g a ≠ g e.1 := fun heq => he (ha e.1 (by simp [List.keys_cons]) heq.symm).symm
      rw [List.dlookup_cons_ne _ _ he, AList.lookup_insert_ne hne]

omit [DecidableEq α] in
/-- Every entry is one more, when no two are translated to one key and none to a key that is
there. -/
theorem length_fill {entries : List (Sigma fun _ : α => β)} (hnodup : entries.NodupKeys)
    (hg : ∀ a ∈ entries.keys, ∀ b ∈ entries.keys, g a = g b → a = b)
    {table : AList fun _ : γ => δ} (hfresh : ∀ a ∈ entries.keys, g a ∉ table) :
    (fill g f entries table).entries.length = table.entries.length + entries.length := by
  induction entries generalizing table with
  | nil => rfl
  | cons e entries ih =>
    obtain ⟨hnot, hnodup⟩ := List.nodupKeys_cons.1 hnodup
    have hmem : ∀ a ∈ entries.keys, a ∈ (e :: entries).keys := fun a ha => by
      simp [List.keys_cons, ha]
    have he : e.1 ∈ (e :: entries).keys := by simp [List.keys_cons]
    have hfresh' : ∀ a ∈ entries.keys, g a ∉ table.insert (g e.1) (f e.1 e.2) := by
      intro a ha hin
      rcases (AList.mem_insert _).1 hin with heq | hin
      · exact hnot (hg a (hmem a ha) e.1 he heq ▸ ha)
      · exact hfresh a (hmem a ha) hin
    rw [fill_cons, ih hnodup (fun a ha b hb => hg a (hmem a ha) b (hmem b hb)) hfresh',
      AList.entries_insert_of_notMem (hfresh e.1 he)]
    simp only [List.length_cons]
    omega

/-! ## Translated values -/

/-- The same keys with translated values. -/
def mapValues (v : β → δ) (table : AList fun _ : α => β) : AList fun _ : α => δ :=
  ⟨table.entries.map fun e => ⟨e.1, v e.2⟩, List.NodupKeys.map₂ (fun _ => v) _ table.nodupKeys⟩

variable (v : β → δ)

@[simp] theorem lookup_mapValues (table : AList fun _ : α => β) (a : α) :
    (mapValues v table).lookup a = (table.lookup a).map v :=
  List.dlookup_map₂ (f := fun _ => v) a

theorem mapValues_insert (table : AList fun _ : α => β) (a : α) (b : β) :
    mapValues v (table.insert a b) = (mapValues v table).insert a (v b) := by
  apply AList.ext
  simp only [mapValues, AList.entries_insert, List.map_cons, List.kerase, List.eraseP_map,
    Function.comp_def]

/-! ## Replaced values -/

omit [DecidableEq γ] in
/-- A value is replaced only under a key that is there. -/
theorem lookup_replace (table : AList fun _ : α => β) (a : α) (b : β) (a' : α) :
    (table.replace a b).lookup a' =
      if a' = a then (table.lookup a).map fun _ => b else table.lookup a' := by
  show (table.entries.kreplace a b).dlookup a' =
    if a' = a then (table.entries.dlookup a).map fun _ => b else table.entries.dlookup a'
  induction table.entries with
  | nil => split_ifs <;> rfl
  | cons e entries ih =>
    by_cases he : a = e.1
    · subst he
      have hcons : List.kreplace e.1 b (e :: entries) = ⟨e.1, b⟩ :: entries := by
        simp [List.kreplace]
      rw [hcons]
      split_ifs with ha
      · subst ha
        rw [List.dlookup_cons_eq, List.dlookup_cons_eq]
        rfl
      · rw [List.dlookup_cons_ne entries e ha]
        exact List.dlookup_cons_ne entries ⟨e.1, b⟩ ha
    · have hcons : List.kreplace a b (e :: entries) = e :: List.kreplace a b entries := by
        simp [List.kreplace, he]
      rw [hcons, List.dlookup_cons_ne _ _ he]
      by_cases ha : a' = e.1
      · subst ha
        rw [if_neg (Ne.symm he), List.dlookup_cons_eq, List.dlookup_cons_eq]
      · rw [List.dlookup_cons_ne _ _ ha, List.dlookup_cons_ne _ _ ha, ih]

/-! ## The values -/

/-- The values, as often as they occur. -/
def values (table : AList fun _ : α => β) : List β := table.entries.map Sigma.snd

omit [DecidableEq α] in
theorem mem_values_of_lookup [DecidableEq α] {table : AList fun _ : α => β} {a : α} {b : β}
    (h : table.lookup a = some b) : b ∈ values table :=
  List.mem_map.2 ⟨⟨a, b⟩, AList.mem_lookup_iff.1 h, rfl⟩

theorem values_insert (table : AList fun _ : α => β) (a : α) (b : β) :
    values (table.insert a b) = b :: values (table.erase a) := by
  rw [values, AList.entries_insert, List.map_cons]
  rfl

theorem values_erase_of_none {table : AList fun _ : α => β} {a : α} (h : table.lookup a = none) :
    values (table.erase a) = values table := by
  have hnot : a ∉ table.entries.keys := fun hin => AList.lookup_eq_none.1 h (AList.mem_keys.2 hin)
  show (table.entries.kerase a).map Sigma.snd = table.entries.map Sigma.snd
  rw [List.kerase_of_notMem_keys hnot]

/-- The value of a key is one of the values. -/
theorem perm_values {table : AList fun _ : α => β} {a : α} {b : β} (h : table.lookup a = some b) :
    (values table).Perm (b :: values (table.erase a)) := by
  have hin : a ∈ table.entries.keys :=
    AList.mem_keys.1 (AList.lookup_isSome.1 (Option.isSome_iff_exists.2 ⟨b, h⟩))
  obtain ⟨b', front, back, hfront, hentries, herase⟩ := List.exists_of_kerase hin
  have hb : b' = b := by
    have hmem : b' ∈ table.lookup a := AList.mem_lookup_iff.2 (by rw [hentries]; simp)
    exact Option.some.inj (hmem.symm.trans h)
  show (table.entries.map Sigma.snd).Perm (b :: (table.entries.kerase a).map Sigma.snd)
  rw [herase, hentries, hb, List.map_append, List.map_cons, List.map_append]
  exact List.perm_middle

/-! ## Sizes -/

section Sizes

variable {a b : AList fun _ : α => β}

omit [DecidableEq α] in
theorem length_keys (a : AList fun _ : α => β) : a.keys.length = a.entries.length :=
  List.length_map _

theorem keys_subset_of_lookup (hsub : ∀ k v, a.lookup k = some v → b.lookup k = some v) :
    a.keys ⊆ b.keys := by
  intro k hk
  obtain ⟨v, hv⟩ := Option.isSome_iff_exists.1 (AList.lookup_isSome.2 (AList.mem_keys.2 hk))
  exact AList.mem_keys.1 (AList.lookup_isSome.1 (hsub k v hv ▸ rfl))

theorem length_le_of_lookup (hsub : ∀ k v, a.lookup k = some v → b.lookup k = some v) :
    a.entries.length ≤ b.entries.length := by
  rw [← length_keys, ← length_keys]
  exact (List.subperm_of_subset a.keys_nodup (keys_subset_of_lookup hsub)).length_le

/-- **A table that has the entries of another one, and no more entries, is that table.** -/
theorem lookup_eq_of_length_le (hsub : ∀ k v, a.lookup k = some v → b.lookup k = some v)
    (hlength : b.entries.length ≤ a.entries.length) (k : α) : a.lookup k = b.lookup k := by
  have hperm : a.keys.Perm b.keys :=
    (List.subperm_of_subset a.keys_nodup (keys_subset_of_lookup hsub)).perm_of_length_le
      (by rwa [length_keys, length_keys])
  cases ha : a.lookup k with
  | some v => exact (hsub k v ha).symm
  | none =>
    symm
    rw [AList.lookup_eq_none] at ha ⊢
    exact fun hk => ha (AList.mem_keys.2 (hperm.mem_iff.2 (AList.mem_keys.1 hk)))

/-- Tables with the same entries have the same size. -/
theorem length_eq_of_lookup_eq (h : ∀ k, a.lookup k = b.lookup k) :
    a.entries.length = b.entries.length := by
  have hperm : a.keys.Perm b.keys := by
    refine (List.perm_ext_iff_of_nodup a.keys_nodup b.keys_nodup).2 fun k => ?_
    rw [← AList.mem_keys, ← AList.mem_keys, ← AList.lookup_isSome, h, AList.lookup_isSome]
  rw [← length_keys, ← length_keys, hperm.length_eq]

theorem length_erase (a : AList fun _ : α => β) (k : α) :
    (a.erase k).entries.length + (if k ∈ a then 1 else 0) = a.entries.length := by
  rw [← length_keys, ← length_keys, AList.keys_erase]
  split_ifs with hk
  · exact List.length_erase_add_one (AList.mem_keys.1 hk)
  · rw [List.erase_of_not_mem fun h => hk (AList.mem_keys.2 h), Nat.add_zero]

/-- The keys that two tables share can be counted in either. -/
theorem length_filter_mem_comm (a b : AList fun _ : α => β) :
    (a.keys.filter (· ∈ b)).length = (b.keys.filter (· ∈ a)).length := by
  refine List.Perm.length_eq ?_
  refine (List.perm_ext_iff_of_nodup (a.keys_nodup.filter _) (b.keys_nodup.filter _)).2 fun k => ?_
  simp [AList.mem_keys, and_comm]

end Sizes

end Tables
