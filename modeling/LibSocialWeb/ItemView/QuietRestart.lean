import LibSocialWeb.Core.ItemEquality
import LibSocialWeb.ItemView.Emissions

/-!
# Starting from the cache

A view is started with the items of the cache and gets the same items again from the service.
Nothing has changed, so nothing should be announced: `sw_item_view_update_existing` compares each
new item with the current one, and `sw_item_equal` leaves the key `cached` out.

It does not leave it out of the sizes, since it looks the literal `"cached"` up among interned keys,
and it does not know of the key `type`, which the cache adds too. So a loaded item has two keys more
than the item that was saved, and no item equals its copy.

**Main result.** `quiet_iff`: the second call announces nothing exactly when there is no item.
-/

namespace LibSocialWeb

/-! ## An item and its copy -/

/-- **A loaded item has two keys more than the item that was saved.** -/
theorem SwItem.length_reloaded {item : SwItem} (h : item.Interned)
    (hcache : ∀ key, isCacheKey key = true → item.get key = none) (service : SwService)
    (thumbnails group : String) :
    (itemFromGroup service thumbnails (item.saveIntoCache group)).hash.entries.length =
      item.hash.entries.length + 2 := by
  have hinj : ∀ a ∈ item.hash.entries.keys, ∀ b ∈ item.hash.entries.keys, a.str = b.str →
      a = b := by
    intro a ha b hb heq
    obtain ⟨s, rfl⟩ := h b hb
    exact eq_of_str_eq h ha heq
  have hfresh : ∀ a ∈ item.hash.entries.keys, a.str ∉ cacheKeys := by
    intro a ha hmem
    obtain ⟨s, rfl⟩ := h a ha
    by_cases hs : isCacheKey s = true
    · have hnone : item.hash.lookup (.interned s) = none := hcache s hs
      exact AList.lookup_eq_none.1 hnone ha
    · exact AList.lookup_eq_none.1 (lookup_cacheKeys (Bool.eq_false_iff.2 hs)) hmem
  have hsaved : (item.saveIntoCache group).keys.entries.length =
      cacheKeys.entries.length + item.hash.entries.length := by
    rw [keys_saveIntoCache]
    exact Tables.length_fill _ _ item.hash.nodupKeys hinj hfresh
  have hloaded : (itemFromGroup service thumbnails (item.saveIntoCache group)).hash.entries.length =
      (item.saveIntoCache group).keys.entries.length := by
    rw [hash_itemFromGroup, Tables.length_fill _ _ (AList.nodupKeys _)
      (fun a _ b _ heq => KeyPtr.interned.inj heq) (fun a _ => AList.notMem_empty _)]
    exact Nat.zero_add _
  rw [hloaded, hsaved, Nat.add_comm]
  rfl

/-- **No item equals its copy.** -/
theorem SwItem.not_equal_reloaded {item fresh : SwItem} (h : item.Interned)
    (hcache : ∀ key, isCacheKey key = true → item.get key = none) (hfresh : fresh.SameData item)
    (service : SwService) (thumbnails group : String) :
    fresh.equal (itemFromGroup service thumbnails (item.saveIntoCache group)) = false := by
  apply equal_of_length (hfresh.interned h) (built_itemFromGroup _ _ _).interned
  rw [length_reloaded h hcache, hfresh.length]
  omega

/-! ## The set that is loaded -/

/-- Every id that passes is in the set. -/
theorem Store.find_collect (keep : String → Bool) (ns : List NewItem) (s : Store) {n : NewItem}
    (hn : n ∈ ns) (hkeep : keep n.uid = true) :
    ((s.collect keep ns).1.find n.uid).isSome = true := by
  have hfold : ∀ (ns : List NewItem) (acc : ItemSet × Store),
      (n ∈ ns ∨ (acc.1.find n.uid).isSome = true) →
      ((ns.foldl (collectOne keep) acc).1.find n.uid).isSome = true := by
    intro ns
    induction ns with
    | nil =>
      intro acc h
      rcases h with h | h
      · cases h
      · exact h
    | cons m ns ih =>
      intro acc h
      rw [List.foldl_cons]
      apply ih
      rw [List.mem_cons] at h
      by_cases hin : n ∈ ns
      · exact Or.inl hin
      · right
        rcases h with (rfl | h) | h
        · simp [collectOne, hkeep, KeySet.find_add, make]
        · exact absurd h hin
        · unfold collectOne
          split_ifs
          · show ((acc.1.add _).find n.uid).isSome = true
            rw [KeySet.find_add]
            split_ifs <;> [rfl; exact h]
          · exact h
  exact hfold ns _ (Or.inl hn)

/-- What the cache can represent of an item: it is ready and not banned, its id is a group name, its
image paths are in the directory of the thumbnails, and it has no key of the cache. -/
structure Cached (h : Heap) (isUidBanned : String → Bool) (thumbnails : String) (o : ItemRef) :
    Prop where
  ready : h.ready o = true
  notBanned : isUidBanned o.uid = false
  name : isGroupName o.uid = true
  interned : (h.item o).Interned
  paths : ∀ key value, isPathKey key = true → (h.item o).get key = some value →
    InThumbnails thumbnails value
  cacheKeys : ∀ key, isCacheKey key = true → (h.item o).get key = none

section Load

variable {s : Store} {isUidBanned : String → Bool} {thumbnails : String} (service : SwService)

/-- The item that is loaded of a saved one. -/
def reloadedItem (h : Heap) (thumbnails : String) (o : ItemRef) : SwItem :=
  itemFromGroup service thumbnails ((h.item o).saveIntoCache o.uid)

theorem Cached.load {h : Heap} {o : ItemRef} (ho : Cached h isUidBanned thumbnails o) :
    ∃ n, (cacheableSaveIntoCache h o).bind (loadItemFromKeyfile service isUidBanned thumbnails) =
      some n ∧ n.uid = o.uid ∧ n.item = reloadedItem service h thumbnails o := by
  have hid : (reloadedItem service h thumbnails o).get "id" = some o.uid := by
    rw [reloadedItem, SwItem.get_reloaded ho.interned ho.paths service o.uid rfl]
    exact h.id_eq o
  have htype : ((h.item o).saveIntoCache o.uid).keys.lookup "type" = some "item" := by
    rw [SwItem.lookup_saveIntoCache ho.interned, ho.cacheKeys "type" rfl]
    exact AList.lookup_insert _
  have hsave : cacheableSaveIntoCache h o = some ((h.item o).saveIntoCache o.uid) := by
    simp [cacheableSaveIntoCache, ho.ready, ho.name]
  refine ⟨⟨o.uid, reloadedItem service h thumbnails o, hid⟩, ?_, rfl, rfl⟩
  rw [hsave, Option.bind_some, loadItemFromKeyfile, htype, if_neg (by decide)]
  split
  · rename_i hnone
    rw [reloadedItem, hnone] at hid
    cases hid
  · rename_i uid huid
    obtain rfl : uid = o.uid := by
      rw [reloadedItem, huid] at hid
      exact Option.some.inj hid
    rw [if_neg (by simp [ho.notBanned])]
    rfl

/-- The set that `sw_cache_load` gives after `sw_cache_save`, as entries to be made. -/
def cacheReload (isUidBanned : String → Bool) (thumbnails : String) (h : Heap)
    (order : KeyOrder ItemRef) (set : ItemSet) : Option (List NewItem) :=
  (cacheSave h order set).bind (cacheLoad service isUidBanned thumbnails)

theorem mem_cacheReload {h : Heap} {order : KeyOrder ItemRef} {set : ItemSet}
    {ns : List NewItem} (hns : cacheReload service isUidBanned thumbnails h order set = some ns)
    {n : NewItem} : n ∈ ns ↔ ∃ o ∈ set, (cacheableSaveIntoCache h o).bind
      (loadItemFromKeyfile service isUidBanned thumbnails) = some n := by
  unfold cacheReload cacheSave cacheLoad at hns
  split_ifs at hns with hempty
  · cases hns
  · rw [Option.bind_some] at hns
    split_ifs at hns
    obtain rfl := Option.some.inj hns
    rw [List.filterMap_filterMap, List.mem_filterMap]
    simp only [SwSet.mem_asList]

/-- A set with an item that the cache represents leaves a file that can be loaded. -/
theorem exists_cacheReload {h : Heap} (order : KeyOrder ItemRef) {set : ItemSet} {o : ItemRef}
    (hmem : o ∈ set) (ho : Cached h isUidBanned thumbnails o) :
    ∃ ns, cacheReload service isUidBanned thumbnails h order set = some ns := by
  have hgroup : (h.item o).saveIntoCache o.uid ∈
      (SwSet.asList order set).filterMap (cacheableSaveIntoCache h) := by
    refine List.mem_filterMap.2 ⟨o, SwSet.mem_asList.2 hmem, ?_⟩
    simp [cacheableSaveIntoCache, ho.ready, ho.name]
  have hempty : set.isEmpty = false := by
    rw [Bool.eq_false_iff]
    intro hnil
    rw [KeySet.mem_def, List.isEmpty_iff.1 hnil] at hmem
    cases hmem
  refine ⟨((SwSet.asList order set).filterMap (cacheableSaveIntoCache h)).filterMap
    (loadItemFromKeyfile service isUidBanned thumbnails), ?_⟩
  rw [cacheReload, cacheSave, hempty, if_neg Bool.false_ne_true, Option.bind_some, cacheLoad,
    if_neg (by simpa only [List.isEmpty_iff] using List.ne_nil_of_mem hgroup)]

end Load

/-! ## The view -/

/-- `_load_from_cache`, with the entries that the cache gives. -/
def SwItemView.loadFromCache (order : KeyOrder ItemRef) (entries : Option (List NewItem))
    (s : Store) (v : SwItemView) : SwItemView × Store :=
  match entries with
  | none => (v, s)
  | some ns =>
    let (set, s) := s.collect (fun _ => true) ns
    (v.setFromSet s.heap order set, s)

/-- The items of `fresh` carry the ids and the data of those of `set`. -/
structure Refetched (s t : Store) (set fresh : ItemSet) : Prop where
  ids : ∀ u, (fresh.find u).isSome = (set.find u).isSome
  data : ∀ o ∈ set, ∀ o' ∈ fresh, o'.uid = o.uid → (t.heap.item o').SameData (s.heap.item o)

namespace SwItemView

variable {service : SwService} {isUidBanned : String → Bool} {thumbnails : String} {s : Store}
  {set : ItemSet} {v : SwItemView}

variable (service) in
/-- After `_load_from_cache` the current item of a saved id is the copy. -/
theorem current_loadFromCache (order : KeyOrder ItemRef) (hv : v.Indexed)
    (hempty : v.currentItemsSet.isEmpty = true)
    (hset : ∀ o ∈ set, Cached s.heap isUidBanned thumbnails o) {o : ItemRef} (ho : o ∈ set) :
    let loaded := v.loadFromCache order
      (cacheReload service isUidBanned thumbnails s.heap order set) s
    loaded.1.Indexed ∧ ∃ c, loaded.1.currentItemsSet.find o.uid = some c ∧ loaded.2.Made c ∧
      loaded.2.heap.item c = reloadedItem service s.heap thumbnails o := by
  obtain ⟨ns, hns⟩ := exists_cacheReload service order ho (hset o ho)
  obtain ⟨n, hload, huid, -⟩ := (hset o ho).load service
  have hn : n ∈ ns := (mem_cacheReload service hns).2 ⟨o, ho, hload⟩
  have hsome := Store.find_collect (fun _ => true) ns s hn rfl
  rw [huid] at hsome
  obtain ⟨c, hc⟩ := Option.isSome_iff_exists.1 hsome
  rw [hns]
  refine ⟨indexed_setFromSet _ order _ hv, c, ?_, ?_⟩
  · -- The view is empty, so the loaded set becomes the set of current items.
    have hslot := slot_setFromSet (s.collect (fun _ => true) ns).2.heap order
      (s.collect (fun _ => true) ns).1 hv o.uid
    have hnone : (v.slot o.uid).current = none := KeySet.isEmpty_iff.1 hempty o.uid
    rw [Slot.set_of_none hnone, hc] at hslot
    have hcur := congrArg Slot.current hslot
    simp only [Slot.add] at hcur
    split_ifs at hcur <;> exact hcur
  · obtain ⟨hmem, hcu⟩ := KeySet.find_some hc
    obtain ⟨-, hmade, m, hm, -, hmu, hitem⟩ := Store.fresh_of_mem_collect hmem
    obtain ⟨o', ho', hload'⟩ := (mem_cacheReload service hns).1 hm
    obtain ⟨m', hm', huid', hdata'⟩ := (hset o' ho').load service
    obtain rfl : m = m' := Option.some.inj (hload'.symm.trans hm')
    have heq : o' = o := by
      have hu : o'.uid = o.uid := huid'.symm.trans (hmu.trans hcu)
      have h' := KeySet.mem_iff_find.1 ho'
      rw [hu, KeySet.mem_iff_find.1 ho] at h'
      exact (Option.some.inj h').symm
    subst heq
    exact ⟨hmade, hitem.trans hdata'⟩

/-- `sw_item_view_set_from_set` replaces a current item by an unequal one and reports it. -/
theorem exists_itemsChanged_setFromSet (h : Heap) (order : KeyOrder ItemRef) {fresh : ItemSet}
    (hv : v.Indexed) {o c : ItemRef} (ho : o ∈ fresh) (hc : v.currentItemsSet.find o.uid = some c)
    (hready : h.ready o = true) (hequal : h.equal o c = false) :
    ∃ before items after, (v.setFromSet h order fresh).emitted =
      v.emitted ++ (before ++ .itemsChanged items :: after) ∧
        o.uid ∈ items.map ItemStruct.uuid := by
  have hne : ¬ v.currentItemsSet.isEmpty = true := by
    intro hempty
    rw [KeySet.isEmpty_iff.1 hempty] at hc
    cases hc
  -- The item is still current after the removals, so it is replaced.
  have hkept : (setRemoved h order fresh v).uidToItems.lookup o.uid = some c := by
    have hslot := congrArg Slot.current (slot_setRemoved h order fresh v o.uid)
    have hnot : ¬ ((v.slot o.uid).current.isSome = true ∧ fresh.find o.uid = none) := by
      intro hand
      rw [KeySet.mem_iff_find.1 ho] at hand
      cases hand.2
    rw [if_neg hnot] at hslot
    exact (indexed_setRemoved h order fresh hv o.uid).trans (hslot.trans hc)
  have hreplaced : o ∈ replacements h order fresh (setRemoved h order fresh v) := by
    refine List.mem_filter.2 ⟨SwSet.mem_asList.2 ho, ?_⟩
    rw [replaces, hkept]
    show (!h.equal o c) = true
    rw [hequal]
    rfl
  have hnamed : h.toValueArray o ∈ ((replacements h order fresh (setRemoved h order fresh v)).filter
      h.ready).map h.toValueArray :=
    List.mem_map_of_mem (List.mem_filter.2 ⟨hreplaced, hready⟩)
  have hchanged : (updateExisting h order fresh (setRemoved h order fresh v)).emitted =
      (setRemoved h order fresh v).emitted ++ [.itemsChanged
        (((replacements h order fresh (setRemoved h order fresh v)).filter h.ready).map
          h.toValueArray)] := by
    rw [updateExisting_eq, updateItems, if_pos (List.length_pos_of_mem hnamed)]
    rfl
  obtain ⟨before, hbefore, -⟩ : Shows h v (setRemoved h order fresh v) fun _ => True :=
    shows_setRemoved h order fresh v
  obtain ⟨after, hafter, -⟩ : Shows h (updateExisting h order fresh (setRemoved h order fresh v))
      (setAdded h order fresh v.currentItemsSet
        (updateExisting h order fresh (setRemoved h order fresh v))) fun _ => True := by
    unfold setAdded
    split_ifs
    · exact (shows_addFromSet h order _ _).mono fun _ _ => trivial
    · exact shows_same rfl
  refine ⟨before, _, after, ?_, List.mem_map_of_mem hnamed⟩
  rw [setFromSet_eq, if_neg hne, hafter, hchanged, hbefore]
  simp only [List.append_assoc, List.singleton_append]

/-- A saved item that comes again is announced. -/
theorem not_quiet {t : Store} {fresh : ItemSet} (order : KeyOrder ItemRef) (hv : v.Indexed)
    (hempty : v.currentItemsSet.isEmpty = true)
    (hset : ∀ o ∈ set, Cached s.heap isUidBanned thumbnails o)
    (hfetched : Refetched s t set fresh)
    (ht : Store.Extends (v.loadFromCache order
      (cacheReload service isUidBanned thumbnails s.heap order set) s).2 t) {o : ItemRef}
    (ho : o ∈ set) :
    ¬ Quiet (v.loadFromCache order
        (cacheReload service isUidBanned thumbnails s.heap order set) s).1
      ((v.loadFromCache order
        (cacheReload service isUidBanned thumbnails s.heap order set) s).1.setFromSet
          t.heap order fresh) := by
  intro hquiet
  obtain ⟨hindexed, c, hc, hmade, hitem⟩ :=
    current_loadFromCache service order hv hempty hset ho
  have hsome : (fresh.find o.uid).isSome = true := by
    rw [hfetched.ids, KeySet.mem_iff_find.1 ho]
    rfl
  obtain ⟨o', ho'⟩ := Option.isSome_iff_exists.1 hsome
  obtain ⟨hmem, hu⟩ := KeySet.find_some ho'
  have hdata := hfetched.data o ho o' hmem hu
  have hready : t.heap.ready o' = true := by
    rw [Heap.ready, SwItem.getReady_iff, hdata.remainingFetches, ← SwItem.getReady_iff]
    exact (hset o ho).ready
  have hequal : t.heap.equal o' c = false := by
    rw [Heap.equal, ht.item c hmade, hitem]
    exact SwItem.not_equal_reloaded (hset o ho).interned (hset o ho).cacheKeys hdata _ _ _
  rw [← hu] at hc
  obtain ⟨before, items, after, hemitted, hnamed⟩ :=
    exists_itemsChanged_setFromSet t.heap order hindexed hmem hc hready hequal
  obtain ⟨new, hnew, hids⟩ := hquiet
  obtain rfl := List.append_cancel_left (hnew.symm.trans hemitted)
  have hnil : items.map ItemStruct.uuid = [] := hids (.itemsChanged items) (by simp)
  rw [hnil] at hnamed
  cases hnamed

/-- **Starting from the cache is quiet only when there is nothing to start with.** The second call
of `sw_item_view_set_from_set`, with the same items as were saved, announces nothing exactly when no
item was saved. -/
theorem quiet_iff {t : Store} {fresh : ItemSet} (order : KeyOrder ItemRef) (hv : v.Indexed)
    (hempty : v.currentItemsSet.isEmpty = true)
    (hset : ∀ o ∈ set, Cached s.heap isUidBanned thumbnails o)
    (hfetched : Refetched s t set fresh)
    (ht : Store.Extends (v.loadFromCache order
      (cacheReload service isUidBanned thumbnails s.heap order set) s).2 t) :
    Quiet (v.loadFromCache order
        (cacheReload service isUidBanned thumbnails s.heap order set) s).1
      ((v.loadFromCache order
        (cacheReload service isUidBanned thumbnails s.heap order set) s).1.setFromSet
          t.heap order fresh) ↔ ∀ o, o ∉ set := by
  refine ⟨?_, ?_⟩
  · intro hquiet o ho
    exact not_quiet order hv hempty hset hfetched ht ho hquiet
  · intro hnone
    -- Nothing is saved, so nothing is loaded, and the view is filled with nothing.
    have hset : set.isEmpty = true := by
      rw [KeySet.isEmpty_iff]
      intro u
      rw [KeySet.find_eq_none]
      exact fun o ho => absurd ho (hnone o)
    have hfresh : fresh.isEmpty = true := by
      rw [KeySet.isEmpty_iff]
      intro u
      have hids := hfetched.ids u
      rw [KeySet.isEmpty_iff.1 hset u] at hids
      exact Option.isSome_eq_false_iff.1 hids |> Option.isNone_iff_eq_none.1
    have hload : cacheReload service isUidBanned thumbnails s.heap order set = none := by
      rw [cacheReload, cacheSave, if_pos hset]
      rfl
    rw [hload]
    show Quiet v (v.setFromSet t.heap order fresh)
    rw [setFromSet, if_pos hempty, addFromSet_eq, addItems_eq,
      SwSet.asList_eq_nil order hfresh]
    refine ⟨[.itemsAdded []], rfl, ?_⟩
    intro signal hsignal
    rw [List.mem_singleton.1 hsignal]
    rfl

/-! ## One item -/

/-- The saved item, and the item of the same id that is fetched later. -/
def savedItem : ItemRef := ⟨0, "1"⟩

def fetchedItem : ItemRef := ⟨2, "1"⟩

/-- The store when the item is saved. -/
def savedStore : Store := ⟨Heap.plain ⟨0, "flickr"⟩, 1⟩

/-- A fresh view after `_load_from_cache`. -/
def started : SwItemView × Store :=
  init.loadFromCache (KeyOrder.stored _) (cacheReload ⟨0, "flickr"⟩ (fun _ => false) "/thumbnails"
    savedStore.heap (KeyOrder.stored _) (KeySet.empty.add savedItem)) savedStore

/-- The store with the item that is fetched. -/
def fetchedStore : Store := (started.2.make (.plain ⟨0, "flickr"⟩ "1")).2

theorem cached_savedItem : ∀ o ∈ (KeySet.empty.add savedItem : ItemSet),
    Cached savedStore.heap (fun _ => false) "/thumbnails" o := by
  intro o ho
  obtain rfl := List.mem_singleton.1 ho
  have hget : ∀ key, key ≠ "id" → (savedStore.heap.item savedItem).get key = none := by
    intro key hkey
    rw [SwItem.get, AList.lookup_eq_none]
    intro hmem
    exact hkey (KeyPtr.interned.inj (List.mem_singleton.1 hmem))
  exact {
    ready := rfl
    notBanned := rfl
    name := by decide
    interned := fun k hk => ⟨"id", List.mem_singleton.1 hk⟩
    paths := by
      intro key value hpath hvalue
      rw [hget key (by intro heq; subst heq; cases hpath)] at hvalue
      cases hvalue
    cacheKeys := by
      intro key hcache
      exact hget key (by intro heq; subst heq; cases hcache) }

theorem refetched_fetchedItem :
    Refetched savedStore fetchedStore (KeySet.empty.add savedItem)
      (KeySet.empty.add fetchedItem) where
  ids u := by
    rw [KeySet.find_add, KeySet.find_add]
    show (if "1" = u then some fetchedItem else none).isSome =
      (if "1" = u then some savedItem else none).isSome
    split_ifs <;> rfl
  data o ho o' ho' _ := by
    obtain rfl := List.mem_singleton.1 ho
    obtain rfl := List.mem_singleton.1 ho'
    have hitem : fetchedStore.heap.item fetchedItem = .plain ⟨0, "flickr"⟩ "1" :=
      Store.make_item _ started.2
    rw [hitem]
    exact SwItem.SameData.refl _

/-- One item is saved and fetched again, and the view announces it again. -/
theorem quiet_iff_savedItem :
    Quiet started.1 (started.1.setFromSet fetchedStore.heap (KeyOrder.stored _)
      (KeySet.empty.add fetchedItem)) ↔ ∀ o, o ∉ (KeySet.empty.add savedItem : ItemSet) :=
  quiet_iff (KeyOrder.stored _) (fun _ => rfl) rfl cached_savedItem refetched_fetchedItem
    (Store.make_extends _ _)

/-- A start from the cache need not be quiet. -/
theorem savedItem_announcedAgain :
    ¬ ∀ (service : SwService) (isUidBanned : String → Bool) (thumbnails : String) (s t : Store)
      (order : KeyOrder ItemRef) (set fresh : ItemSet),
      (∀ o ∈ set, Cached s.heap isUidBanned thumbnails o) → Refetched s t set fresh →
      Store.Extends (init.loadFromCache order
        (cacheReload service isUidBanned thumbnails s.heap order set) s).2 t →
      Quiet (init.loadFromCache order
          (cacheReload service isUidBanned thumbnails s.heap order set) s).1
        ((init.loadFromCache order
          (cacheReload service isUidBanned thumbnails s.heap order set) s).1.setFromSet
            t.heap order fresh) := by
  intro hall
  have hquiet := hall ⟨0, "flickr"⟩ (fun _ => false) "/thumbnails" savedStore fetchedStore
    (KeyOrder.stored _) (KeySet.empty.add savedItem) (KeySet.empty.add fetchedItem)
    cached_savedItem refetched_fetchedItem (Store.make_extends _ _)
  exact not_quiet (KeyOrder.stored _) (fun _ => rfl) rfl cached_savedItem refetched_fetchedItem
    (Store.make_extends _ _) (List.mem_singleton.2 rfl : savedItem ∈ [savedItem]) hquiet

end SwItemView

end LibSocialWeb
