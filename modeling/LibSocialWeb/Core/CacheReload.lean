import LibSocialWeb.Core.CacheFile

/-!
# Saving and loading one item or contact

An item is saved with its own keys and the two that the cache adds, `cached` and `type`; it is
loaded with all of them. The paths of `thumbnail` and `authoricon` are saved relative to the
directory of the thumbnails and come back when they were files in it. A contact is saved and loaded
in the same way, with a list under each key.

**Main results.** `SwItem.get_reloaded` and `SwContact.getAll_reloaded`: every other key is loaded
as it was saved.
-/

namespace LibSocialWeb

/-! ## Keys -/

/-- The keys that the cache adds to a group. -/
def isCacheKey (key : String) : Bool := key = "cached" || key = "type"

/-- Every key is interned, as `sw_item_put` and `sw_item_take` leave it. -/
def SwItem.Interned (item : SwItem) : Prop := ∀ k ∈ item.hash.keys, ∃ s, k = KeyPtr.interned s

def SwContact.Interned (contact : SwContact) : Prop :=
  ∀ k ∈ contact.hash.keys, ∃ s, k = KeyPtr.interned s

theorem SwItem.interned_new (service : SwService) : (SwItem.mk service ∅ 0).Interned :=
  fun _ hk => absurd hk List.not_mem_nil

theorem SwItem.interned_put {item : SwItem} (h : item.Interned) (key : String)
    (value : Option String) : (item.put key value).Interned := by
  intro k hk
  cases value with
  | none =>
    have hk : k ∈ item.hash.erase (.interned key) := hk
    exact h k (AList.mem_erase.1 hk).2
  | some v =>
    have hk : k ∈ item.hash.insert (.interned key) v := hk
    rcases (AList.mem_insert _).1 hk with rfl | hk
    · exact ⟨key, rfl⟩
    · exact h k hk

theorem SwContact.interned_new (service : SwService) : (SwContact.new service).Interned :=
  fun _ hk => absurd hk List.not_mem_nil

theorem SwContact.interned_put {contact : SwContact} (h : contact.Interned) (key : String)
    (value : Option String) : (contact.put key value).Interned := by
  intro k hk
  have hk : k ∈ contact.hash.insert (.interned key) _ := hk
  rcases (AList.mem_insert _).1 hk with rfl | hk
  · exact ⟨key, rfl⟩
  · exact h k hk

/-- Interned keys are told apart by their strings. -/
theorem eq_of_str_eq {keys : List KeyPtr} (h : ∀ k ∈ keys, ∃ s, k = KeyPtr.interned s)
    {key : String} {k : KeyPtr} (hk : k ∈ keys) (heq : k.str = key) : k = .interned key := by
  obtain ⟨s, rfl⟩ := h k hk
  exact congrArg KeyPtr.interned heq

/-! ## Paths -/

/-- The path of a file in the directory of the thumbnails. -/
def InThumbnails (thumbnails path : String) : Prop :=
  ∃ name : String, name ≠ "" ∧ '/' ∉ name.toList ∧ path = thumbnails ++ "/" ++ name

theorem pathGetBasename_inThumbnails (thumbnails : String) {name : String} (hne : name ≠ "")
    (hslash : '/' ∉ name.toList) : pathGetBasename (thumbnails ++ "/" ++ name) = name := by
  have hlist : (thumbnails ++ "/" ++ name).toList.reverse =
      name.toList.reverse ++ '/' :: thumbnails.toList.reverse := by
    simp
  have hnil : name.toList.reverse ≠ [] := by simpa using hne
  have hall : ∀ c ∈ name.toList.reverse, c ≠ '/' := by
    intro c hc heq
    exact hslash (heq ▸ List.mem_reverse.1 hc)
  obtain ⟨c, cs, hcs⟩ := List.exists_cons_of_ne_nil hnil
  have hc : c ≠ '/' := hall c (by simp [hcs])
  have hdrop : (name.toList.reverse ++ '/' :: thumbnails.toList.reverse).dropWhile (· = '/') =
      name.toList.reverse ++ '/' :: thumbnails.toList.reverse := by
    rw [hcs, List.cons_append, List.dropWhile_cons_of_neg (by simpa using hc)]
  have htake : (name.toList.reverse ++ '/' :: thumbnails.toList.reverse).takeWhile (· ≠ '/') =
      name.toList.reverse := by
    rw [List.takeWhile_append_of_pos (by simpa using hall)]
    simp
  have hpath : thumbnails ++ "/" ++ name ≠ "" := by
    intro heq
    have := congrArg String.toList heq
    simp at this
  unfold pathGetBasename
  rw [if_neg hpath, hlist, hdrop]
  simp only [htake, List.append_eq_nil_iff, reduceCtorEq, and_false, if_false,
    List.reverse_reverse, String.ofList_toList]

/-- A path in the directory of the thumbnails survives being made relative and absolute. -/
theorem makeAbsolutePath_makeRelativePath {thumbnails key value : String}
    (h : isPathKey key = true → InThumbnails thumbnails value) :
    let saved := (makeRelativePath key value).getD value
    (makeAbsolutePath thumbnails key saved).getD saved = value := by
  unfold makeRelativePath makeAbsolutePath
  by_cases hkey : isPathKey key = true
  · obtain ⟨name, hne, hslash, rfl⟩ := h hkey
    have hdrop : name.toList.dropWhile (· = '/') = name.toList := by
      obtain ⟨c, cs, hcs⟩ := List.exists_cons_of_ne_nil (l := name.toList) (by simpa using hne)
      have hc : c ≠ '/' := by
        intro heq
        exact hslash (by simp [hcs, heq])
      rw [hcs, List.dropWhile_cons_of_neg (by simpa using hc)]
    simp [hkey, pathGetBasename_inThumbnails thumbnails hne hslash, hne, hdrop]
  · simp [hkey]

/-! ## Items -/

/-- What `sw_item_save_into_cache` adds before the keys of the item. -/
def cacheKeys : AList fun _ : String => String :=
  (AList.singleton "cached" "1").insert "type" "item"

theorem SwItem.keys_saveIntoCache (item : SwItem) (group : String) :
    (item.saveIntoCache group).keys =
      Tables.fill KeyPtr.str (fun k v => (makeRelativePath k.str v).getD v) item.hash.entries
        cacheKeys := rfl

theorem hash_itemFromGroup (service : SwService) (thumbnails : String) (group : CacheGroup) :
    (itemFromGroup service thumbnails group).hash =
      Tables.fill KeyPtr.interned (fun k v => (makeAbsolutePath thumbnails k v).getD v)
        group.keys.entries ∅ := by
  have hfold : ∀ (entries : List (Sigma fun _ : String => String)) (item : SwItem),
      (entries.foldl (fun item e =>
        item.put e.1 (some ((makeAbsolutePath thumbnails e.1 e.2).getD e.2))) item).hash =
      Tables.fill KeyPtr.interned (fun k v => (makeAbsolutePath thumbnails k v).getD v)
        entries item.hash := by
    intro entries
    induction entries with
    | nil => intro item; rfl
    | cons e entries ih => intro item; exact ih _
  exact hfold _ _

theorem itemFromGroup_frame (service : SwService) (thumbnails : String) (group : CacheGroup) :
    (itemFromGroup service thumbnails group).service = service ∧
      (itemFromGroup service thumbnails group).remainingFetches = 0 := by
  have hfold : ∀ (entries : List (Sigma fun _ : String => String)) (item : SwItem),
      let loaded := entries.foldl (fun item e =>
        item.put e.1 (some ((makeAbsolutePath thumbnails e.1 e.2).getD e.2))) item
      loaded.service = item.service ∧ loaded.remainingFetches = item.remainingFetches := by
    intro entries
    induction entries with
    | nil => intro item; exact ⟨rfl, rfl⟩
    | cons e entries ih => intro item; exact ih _
  exact hfold _ _

/-- A key of a loaded item is the string of the group, as a path if it is one. -/
theorem get_itemFromGroup (service : SwService) (thumbnails : String) (group : CacheGroup)
    (key : String) : (itemFromGroup service thumbnails group).get key =
      (group.keys.lookup key).map fun v => (makeAbsolutePath thumbnails key v).getD v := by
  have hinj : ∀ k ∈ group.keys.keys, KeyPtr.interned k = KeyPtr.interned key → k = key :=
    fun k _ heq => KeyPtr.interned.inj heq
  show (itemFromGroup service thumbnails group).hash.lookup (.interned key) = _
  rw [hash_itemFromGroup, Tables.lookup_fill _ _ group.keys.nodupKeys hinj]
  exact Option.or_none

/-- A string of a saved item: its own, or one that the cache adds. -/
theorem SwItem.lookup_saveIntoCache {item : SwItem} (h : item.Interned) (group key : String) :
    (item.saveIntoCache group).keys.lookup key =
      ((item.get key).map fun v => (makeRelativePath key v).getD v).or
        (cacheKeys.lookup key) := by
  have hinj : ∀ k ∈ item.hash.entries.keys, k.str = (KeyPtr.interned key).str →
      k = .interned key := fun k hk heq => eq_of_str_eq h hk heq
  rw [keys_saveIntoCache]
  exact Tables.lookup_fill KeyPtr.str _ item.hash.nodupKeys hinj _

theorem lookup_cacheKeys {key : String} (h : isCacheKey key = false) :
    cacheKeys.lookup key = none := by
  have hne : key ≠ "cached" ∧ key ≠ "type" := by simpa [isCacheKey] using h
  rw [cacheKeys, AList.lookup_insert_ne hne.2, ← AList.insert_empty,
    AList.lookup_insert_ne hne.1]
  rfl

/-- **An item is loaded as it was saved.** -/
theorem SwItem.get_reloaded {item : SwItem} (h : item.Interned) {thumbnails : String}
    (hpath : ∀ key value, isPathKey key = true → item.get key = some value →
      InThumbnails thumbnails value) (service : SwService) (group : String) {key : String}
    (hkey : isCacheKey key = false) :
    (itemFromGroup service thumbnails (item.saveIntoCache group)).get key = item.get key := by
  rw [get_itemFromGroup, lookup_saveIntoCache h, lookup_cacheKeys hkey, Option.or_none]
  cases hv : item.get key with
  | none => rfl
  | some value =>
    exact congrArg some (makeAbsolutePath_makeRelativePath fun hk => hpath key value hk hv)

/-! ### The text of an item -/

theorem decoded_saveIntoKeyFile (item : SwItem) (group : String) :
    (item.saveIntoKeyFile group).decoded = item.saveIntoCache group := by
  have hfold : ∀ (entries : List (Sigma fun _ : KeyPtr => String)) (g : KeyFileGroup),
      (entries.foldl (fun keys e =>
        keys.setString e.1.str ((makeRelativePath e.1.str e.2).getD e.2)) g).decoded =
      ⟨g.name, Tables.fill KeyPtr.str (fun k v => (makeRelativePath k.str v).getD v) entries
        g.decoded.keys⟩ := by
    intro entries
    induction entries with
    | nil => intro g; rfl
    | cons e entries ih =>
      intro g
      rw [List.foldl_cons, ih]
      simp [KeyFileGroup.setString, KeyFileGroup.decoded, Tables.mapValues_insert]
  unfold SwItem.saveIntoKeyFile
  rw [hfold]
  rfl

theorem itemFromKeyFile_eq (service : SwService) (thumbnails : String) (group : KeyFileGroup) :
    itemFromKeyFile service thumbnails group = itemFromGroup service thumbnails group.decoded := by
  unfold itemFromKeyFile itemFromGroup KeyFileGroup.decoded Tables.mapValues
  rw [List.foldl_map]

theorem KeyFileGroup.getString_eq (group : KeyFileGroup) (key : String) :
    group.getString key = group.decoded.keys.lookup key :=
  (Tables.lookup_mapValues _ _ _).symm

/-! ## Contacts -/

/-- What `sw_contact_save_into_cache` adds before the keys of the contact. -/
def contactCacheKeys (group : String) : KeyFileGroup :=
  ((⟨group, ∅⟩ : KeyFileGroup).setString "cached" "1").setString "type" "contact"

theorem SwContact.keys_saveIntoKeyFile (contact : SwContact) (group : String) :
    (contact.saveIntoKeyFile group).keys =
      Tables.fill KeyPtr.str (fun _ v => KeyFileGroup.parseListAsValue v) contact.hash.entries
        (contactCacheKeys group).keys := by
  have hfold : ∀ (entries : List (Sigma fun _ : KeyPtr => List String)) (g : KeyFileGroup),
      (entries.foldl (fun keys e => keys.setStringList e.1.str e.2) g).keys =
      Tables.fill KeyPtr.str (fun _ v => KeyFileGroup.parseListAsValue v) entries g.keys := by
    intro entries
    induction entries with
    | nil => intro g; rfl
    | cons e entries ih => intro g; exact ih _
  exact hfold _ _

/-- The text under a key of a saved contact: its own list, or what the cache adds. -/
theorem SwContact.lookup_saveIntoKeyFile {contact : SwContact} (h : contact.Interned)
    (group key : String) : (contact.saveIntoKeyFile group).keys.lookup key =
      ((contact.getAll key).map KeyFileGroup.parseListAsValue).or
        ((contactCacheKeys group).keys.lookup key) := by
  have hinj : ∀ k ∈ contact.hash.entries.keys, k.str = (KeyPtr.interned key).str →
      k = .interned key := fun k hk heq => eq_of_str_eq h hk heq
  rw [keys_saveIntoKeyFile]
  exact Tables.lookup_fill KeyPtr.str _ contact.hash.nodupKeys hinj _

theorem lookup_contactCacheKeys (group : String) {key : String} (h : isCacheKey key = false) :
    (contactCacheKeys group).keys.lookup key = none := by
  have hne : key ≠ "cached" ∧ key ≠ "type" := by simpa [isCacheKey] using h
  show ((AList.insert "cached" _ ∅).insert "type" _).lookup key = none
  rw [AList.lookup_insert_ne hne.2, AList.lookup_insert_ne hne.1]
  rfl

theorem SwContact.getAll_putList (contact : SwContact) (key value k : String) :
    (contact.putList key value).getAll k =
      if k = key ∧ (KeyFileGroup.parseValueAsList value).getD [] ≠ [] then
        some ((contact.getAll key).getD [] ++ (KeyFileGroup.parseValueAsList value).getD [])
      else contact.getAll k := by
  unfold putList
  by_cases hnil : (KeyFileGroup.parseValueAsList value).getD [] = []
  · rw [hnil]; simp
  · rw [getAll_foldl_put _ _ _ hnil]
    simp [hnil]

/-- Entries with other keys leave the list of a key alone. -/
theorem SwContact.getAll_foldl_putList_of_notMem (contact : SwContact) {key : String}
    {entries : List (Sigma fun _ : String => String)} (hnot : key ∉ entries.keys) :
    (entries.foldl (fun contact e => contact.putList e.1 e.2) contact).getAll key =
      contact.getAll key := by
  induction entries generalizing contact with
  | nil => rfl
  | cons e entries ih =>
    rw [List.keys_cons, List.mem_cons, not_or] at hnot
    rw [List.foldl_cons, ih _ hnot.2, getAll_putList, if_neg fun h => hnot.1 h.1]

theorem SwContact.getAll_foldl_putList {contact : SwContact} {key : String}
    (hnone : contact.getAll key = none) {entries : List (Sigma fun _ : String => String)}
    (hnodup : entries.NodupKeys) :
    (entries.foldl (fun contact e => contact.putList e.1 e.2) contact).getAll key =
      let list := ((entries.dlookup key).bind KeyFileGroup.parseValueAsList).getD []
      if list = [] then none else some list := by
  induction entries generalizing contact with
  | nil => exact hnone
  | cons e entries ih =>
    obtain ⟨hnot, hnodup⟩ := List.nodupKeys_cons.1 hnodup
    rw [List.foldl_cons]
    by_cases he : key = e.1
    · -- The list of this entry is put; no later entry has the key.
      subst he
      rw [getAll_foldl_putList_of_notMem _ hnot, getAll_putList, hnone, List.dlookup_cons_eq]
      by_cases hnil : (KeyFileGroup.parseValueAsList e.2).getD [] = [] <;> simp [hnil]
    · have hnone' : (contact.putList e.1 e.2).getAll key = none := by
        rw [getAll_putList, if_neg fun h => he h.1, hnone]
      rw [ih hnone' hnodup, List.dlookup_cons_ne _ _ he]

/-- The keys of a loaded contact: every list of the group that is not empty. -/
theorem getAll_contactFromKeyFile (service : SwService) (group : KeyFileGroup) {key : String}
    {list : List String} (hlist : (group.getStringList key).getD [] = list) :
    (contactFromKeyFile service group).getAll key = if list = [] then none else some list := by
  subst hlist
  exact SwContact.getAll_foldl_putList rfl group.keys.nodupKeys

theorem contactFromKeyFile_frame (service : SwService) (group : KeyFileGroup) :
    (contactFromKeyFile service group).service = service ∧
      (contactFromKeyFile service group).remainingFetches = 0 := by
  have hfold : ∀ (entries : List (Sigma fun _ : String => String)) (contact : SwContact),
      let loaded := entries.foldl (fun contact e => contact.putList e.1 e.2) contact
      loaded.service = contact.service ∧ loaded.remainingFetches = contact.remainingFetches := by
    intro entries
    induction entries with
    | nil => intro contact; exact ⟨rfl, rfl⟩
    | cons e entries ih =>
      intro contact
      obtain ⟨hservice, hfetches⟩ := ih (contact.putList e.1 e.2)
      exact ⟨hservice.trans (SwContact.service_foldl_put _ _ _),
        hfetches.trans (SwContact.remainingFetches_foldl_put _ _ _)⟩
  exact hfold _ _

/-- **A contact is loaded as it was saved.** -/
theorem SwContact.getAll_reloaded {contact : SwContact} (h : contact.Interned)
    (hlists : ∀ key, contact.getAll key ≠ some []) (service : SwService) (group : String)
    {key : String} (hkey : isCacheKey key = false) :
    (contactFromKeyFile service (contact.saveIntoKeyFile group)).getAll key =
      contact.getAll key := by
  have hlist : ((contact.saveIntoKeyFile group).getStringList key).getD [] =
      (contact.getAll key).getD [] := by
    unfold KeyFileGroup.getStringList
    rw [lookup_saveIntoKeyFile h, lookup_contactCacheKeys group hkey, Option.or_none]
    cases contact.getAll key with
    | none => rfl
    | some list => simp
  rw [getAll_contactFromKeyFile service _ hlist]
  cases hl : contact.getAll key with
  | none => rfl
  | some list =>
    have hne : list ≠ [] := fun hnil => hlists key (hnil ▸ hl)
    simp [hne]

end LibSocialWeb
