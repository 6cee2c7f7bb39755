import LibSocialWeb.Core.CacheReload

/-!
# What `sw_item_equal` compares

Two items should be equal when they have the same service, the same number of fetches and the same
values under every key other than `cached`. The code goes through the entries of one item, and
concludes from the sizes of the two tables that the other has no more.

The sizes should leave the key `cached` out. But `sw_item_equal` looks the literal `"cached"` up in
a table that hashes the addresses of interned strings, so that the key is never found and always
counted (`equal_iff`).

**Main result.** `equalIsDataEquality_iff`: the result is right exactly when both items have the key
`cached` or neither does, or when something else tells the items apart.
-/

namespace LibSocialWeb

/-! ## Items with interned keys -/

/-- The same data: the tables agree, in whatever order they list their keys. -/
structure SwItem.SameData (a b : SwItem) : Prop where
  service : a.service = b.service
  remainingFetches : a.remainingFetches = b.remainingFetches
  hash : ∀ k, a.hash.lookup k = b.hash.lookup k

namespace SwItem

theorem SameData.refl (item : SwItem) : item.SameData item := ⟨rfl, rfl, fun _ => rfl⟩

theorem SameData.length {a b : SwItem} (h : a.SameData b) :
    a.hash.entries.length = b.hash.entries.length :=
  Tables.length_eq_of_lookup_eq h.hash

/-- No literal is a key of the table. -/
theorem lookup_literal {item : SwItem} (h : item.Interned) (s : String) :
    item.hash.lookup (.literal s) = none := by
  rw [AList.lookup_eq_none]
  intro hmem
  obtain ⟨s', heq⟩ := h _ hmem
  cases heq

theorem SameData.interned {a b : SwItem} (h : a.SameData b) (hb : b.Interned) : a.Interned := by
  intro k hk
  have hk : k ∈ a.hash := hk
  rw [← AList.lookup_isSome, h.hash k, AList.lookup_isSome] at hk
  exact hb k hk

/-! ## The data that is compared -/

/-- The table without the key `cached`. -/
def data (item : SwItem) : AList fun _ : KeyPtr => String := item.hash.erase (.interned "cached")

def isCached (item : SwItem) : Bool := (item.get "cached").isSome

/-- Same service, same number of fetches, and the same values under all keys but `cached`. -/
structure SameApartFromCached (a b : SwItem) : Prop where
  service : a.service = b.service
  remainingFetches : a.remainingFetches = b.remainingFetches
  data : ∀ k, a.data.lookup k = b.data.lookup k

/-- `b` has everything that `a` has. -/
structure Covers (a b : SwItem) : Prop where
  service : a.service = b.service
  remainingFetches : a.remainingFetches = b.remainingFetches
  data : ∀ k v, a.data.lookup k = some v → b.data.lookup k = some v

variable {a b : SwItem}

theorem length_data (item : SwItem) :
    item.data.entries.length + (if item.isCached = true then 1 else 0) =
      item.hash.entries.length := by
  rw [← Tables.length_erase item.hash (.interned "cached")]
  simp only [← AList.lookup_isSome]
  rfl

/-- What the loop of `sw_item_equal` asks of one entry. -/
theorem entry_iff (b : SwItem) (k : KeyPtr) (v : String) :
    (if k.str = "cached" then true
      else match b.hash.lookup k with
        | none => false
        | some valueB => v == valueB) = true ↔
      (k.str ≠ "cached" → b.hash.lookup k = some v) := by
  split_ifs with hstr
  · exact iff_of_true rfl fun h => absurd hstr h
  · cases b.hash.lookup k with
    | none => exact iff_of_false Bool.false_ne_true fun h => by cases h hstr
    | some w =>
      refine beq_iff_eq.trans ⟨fun heq _ => congrArg some heq.symm, fun h => ?_⟩
      exact (Option.some.inj (h hstr)).symm

/-- The loop of `sw_item_equal` looks for the entries of one item in the other one. -/
theorem all_entries_iff (ha : a.Interned) :
    (a.hash.entries.all fun ⟨keyA, valueA⟩ =>
      if keyA.str = "cached" then true
      else match b.hash.lookup keyA with
        | none => false
        | some valueB => valueA == valueB) = true ↔
      ∀ k v, a.data.lookup k = some v → b.data.lookup k = some v := by
  rw [List.all_eq_true]
  refine ⟨?_, ?_⟩
  · intro hall k v hk
    have hne : k ≠ .interned "cached" := by
      intro heq
      rw [heq, data, AList.lookup_erase] at hk
      cases hk
    rw [data, AList.lookup_erase_ne hne] at hk ⊢
    have hmem := AList.mem_lookup_iff.1 hk
    refine (entry_iff b k v).1 (hall ⟨k, v⟩ hmem) fun heq => hne ?_
    exact eq_of_str_eq ha (List.mem_map_of_mem hmem) heq
  · intro hsub entry hmem
    obtain ⟨k, v⟩ := entry
    refine (entry_iff b k v).2 fun hstr => ?_
    have hne : k ≠ .interned "cached" := fun heq => hstr (heq ▸ rfl)
    have hk := hsub k v
    rw [data, data, AList.lookup_erase_ne hne, AList.lookup_erase_ne hne] at hk
    exact hk (AList.mem_lookup_iff.2 hmem)

/-- **What `sw_item_equal` computes.** The sizes count the key `cached`. -/
theorem equal_iff (ha : a.Interned) (hb : b.Interned) :
    a.equal b = true ↔ Covers a b ∧ a.hash.entries.length = b.hash.entries.length := by
  unfold equal
  simp only [lookup_literal ha, lookup_literal hb, Option.isSome_none, Bool.false_eq_true, if_false]
  split_ifs with hservice hfetches hlength
  · exact iff_of_false id fun h => hservice h.1.service
  · exact iff_of_false id fun h => hfetches h.1.remainingFetches
  · exact iff_of_false id fun h => hlength h.2
  · refine (all_entries_iff ha).trans ?_
    exact ⟨fun h => ⟨⟨not_not.1 hservice, not_not.1 hfetches, h⟩, not_not.1 hlength⟩,
      fun h => h.1.data⟩

/-- Items of different size are not equal, whether they are cached or not. -/
theorem equal_of_length (ha : a.Interned) (hb : b.Interned)
    (hlength : a.hash.entries.length ≠ b.hash.entries.length) : a.equal b = false := by
  rw [Bool.eq_false_iff, Ne, equal_iff ha hb]
  exact fun h => hlength h.2

/-- Two items agree when one covers the other and has as much data. -/
theorem sameApartFromCached_iff :
    SameApartFromCached a b ↔
      Covers a b ∧ a.data.entries.length = b.data.entries.length := by
  refine ⟨?_, ?_⟩
  · intro h
    exact ⟨⟨h.service, h.remainingFetches, fun k v hk => (h.data k).symm.trans hk⟩,
      Tables.length_eq_of_lookup_eq h.data⟩
  · intro h
    exact ⟨h.1.service, h.1.remainingFetches,
      Tables.lookup_eq_of_length_le h.1.data (Nat.le_of_eq h.2.symm)⟩

/-! ## Items that are built -/

/-- The items that the code builds. `sw_item_take` puts as `sw_item_put` does. -/
inductive Built : SwItem → Prop where
  | new (service : SwService) : Built ⟨service, ∅, 0⟩
  | put {item : SwItem} (h : Built item) (key : String) (value : Option String) :
      Built (item.put key value)
  | pushPending {item : SwItem} (h : Built item) : Built item.pushPending
  | popPending {item : SwItem} (h : Built item) : Built item.popPending.1

theorem Built.interned {item : SwItem} (h : Built item) : item.Interned := by
  induction h with
  | new service => exact interned_new service
  | put _ key value ih => exact interned_put ih key value
  | pushPending _ ih => exact ih
  | popPending _ ih => exact ih

/-- Loading puts the entries of the group one after the other. -/
theorem built_itemFromGroup (service : SwService) (thumbnails : String) (group : CacheGroup) :
    Built (itemFromGroup service thumbnails group) := by
  have hfold : ∀ (entries : List (Sigma fun _ : String => String)) (item : SwItem), Built item →
      Built (entries.foldl (fun item e =>
        item.put e.1 (some ((makeAbsolutePath thumbnails e.1 e.2).getD e.2))) item) := by
    intro entries
    induction entries with
    | nil => intro item h; exact h
    | cons e entries ih => intro item h; exact ih _ (h.put _ _)
  exact hfold _ _ (.new service)

/-! ## The main result -/

/-- Both items have the key `cached` or neither does, or something else tells them apart: the second
item has not everything that the first one has, or it has more data than the first one has keys. -/
def EqualOk (a b : SwItem) : Prop :=
  Covers a b → a.isCached = b.isCached ∨ a.hash.entries.length < b.data.entries.length

/-- One pair of items. -/
theorem equal_iff_sameApartFromCached (ha : Built a) (hb : Built b) :
    (a.equal b = true ↔ SameApartFromCached a b) ↔ EqualOk a b := by
  rw [equal_iff ha.interned hb.interned, sameApartFromCached_iff, EqualOk]
  by_cases hcovers : Covers a b
  · have hle := Tables.length_le_of_lookup hcovers.data
    have hlengthA := length_data a
    have hlengthB := length_data b
    simp only [hcovers, true_and, true_imp_iff]
    cases hcachedA : a.isCached <;> cases hcachedB : b.isCached <;>
      simp only [hcachedA, hcachedB, if_true, Bool.false_eq_true, if_false] at hlengthA hlengthB <;>
      simp <;> omega
  · simp [hcovers]

theorem SameApartFromCached.refl (a : SwItem) : SameApartFromCached a a := ⟨rfl, rfl, fun _ => rfl⟩

theorem SameApartFromCached.symm (h : SameApartFromCached a b) : SameApartFromCached b a :=
  ⟨h.service.symm, h.remainingFetches.symm, fun k => (h.data k).symm⟩

theorem SameApartFromCached.trans {c : SwItem} (h : SameApartFromCached a b)
    (h' : SameApartFromCached b c) : SameApartFromCached a c :=
  ⟨h.service.trans h'.service, h.remainingFetches.trans h'.remainingFetches,
    fun k => (h.data k).trans (h'.data k)⟩

/-- **`sw_item_equal` is data equality exactly when the key `cached` makes no difference.** It is an
equivalence relation on every class of items where this is so. -/
theorem equalIsDataEquality_iff {P : SwItem → Prop} (hbuilt : ∀ item, P item → Built item) :
    (∀ a b, P a → P b → ((a.equal b = true ↔ SameApartFromCached a b) ↔ EqualOk a b)) ∧
      ((∀ a b, P a → P b → EqualOk a b) →
        Equivalence fun a b : {item // P item} => a.1.equal b.1 = true) := by
  refine ⟨fun a b ha hb => equal_iff_sameApartFromCached (hbuilt a ha) (hbuilt b hb), ?_⟩
  intro hok
  have hequal : ∀ a b : {item // P item}, a.1.equal b.1 = true ↔ SameApartFromCached a.1 b.1 :=
    fun a b => (equal_iff_sameApartFromCached (hbuilt a a.2) (hbuilt b b.2)).2 (hok a b a.2 b.2)
  refine ⟨?_, ?_, ?_⟩
  · intro a
    exact (hequal a a).2 (.refl a.1)
  · intro a b h
    exact (hequal b a).2 ((hequal a b).1 h).symm
  · intro a b c h h'
    exact (hequal a c).2 (((hequal a b).1 h).trans ((hequal b c).1 h'))

/-- Items of the cache: they all have the key, so equality is an equivalence relation on them. -/
theorem equalIsDataEquality_cached :
    let item := ((SwItem.mk ⟨1, "flickr"⟩ ∅ 0).put "id" (some "1")).put "cached" (some "1")
    let titled := item.put "title" (some "Sea")
    (item.equal titled = true ↔ SameApartFromCached item titled) ∧
      Equivalence fun a b : {item // Built item ∧ item.isCached = true} =>
        a.1.equal b.1 = true := by
  intro item titled
  have hitem : Built item := ((Built.new _).put _ _).put _ _
  have hok : ∀ a b : SwItem, Built a ∧ a.isCached = true → Built b ∧ b.isCached = true →
      EqualOk a b := fun a b ha hb _ => Or.inl (ha.2.trans hb.2.symm)
  have h := equalIsDataEquality_iff (P := fun i => Built i ∧ i.isCached = true) fun i hi => hi.1
  have hcached : Built item ∧ item.isCached = true := ⟨hitem, by decide⟩
  have htitled : Built titled ∧ titled.isCached = true := ⟨hitem.put _ _, by decide⟩
  exact ⟨(h.1 _ _ hcached htitled).2 (hok _ _ hcached htitled), h.2 hok⟩

/-- **An item does not equal the same item with the key `cached`.** Nor is equality symmetric when
the key makes up for another one. -/
theorem cached_not_equal :
    let item := (SwItem.mk ⟨1, "flickr"⟩ ∅ 0).put "id" (some "1")
    let cached := item.put "cached" (some "1")
    let titled := item.put "title" (some "Sea")
    Built item ∧ Built cached ∧ SameApartFromCached item cached ∧ item.equal cached = false ∧
      Built titled ∧ cached.equal titled = true ∧ titled.equal cached = false := by
  intro item cached titled
  have hitem : Built item := (Built.new _).put _ _
  refine ⟨hitem, hitem.put _ _, ⟨rfl, rfl, ?_⟩, by decide, hitem.put _ _, by decide, by decide⟩
  intro k
  by_cases hk : k = .interned "cached"
  · rw [hk, data, data, AList.lookup_erase, AList.lookup_erase]
  · rw [data, data, AList.lookup_erase_ne hk, AList.lookup_erase_ne hk]
    exact (AList.lookup_insert_ne hk).symm

end SwItem

end LibSocialWeb
