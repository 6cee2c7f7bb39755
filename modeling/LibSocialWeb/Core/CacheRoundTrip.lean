import LibSocialWeb.Core.CacheReload

/-!
# What comes back from the cache

An object that is ready and not banned is loaded again as it was saved, up to the keys of the cache.

The round trip fails for one kind of object. A contact with a key `type` of its own writes a list
over the tag that says that it is a contact; the tag is read as a string, and the semicolon in it
makes it an unknown kind, so the contact is dropped.

**Main result.** `roundTrip_iff`: a set comes back exactly when it has no such contact.
-/

namespace LibSocialWeb

/-! ## Objects -/

/-- An item whose data a key file can hold. -/
structure SwItem.Representable (thumbnails : String) (item : SwItem) : Prop where
  interned : item.Interned
  id : ∃ id, item.get "id" = some id ∧ isGroupName id = true
  type : ∀ type, item.get "type" = some type → type = "item"
  paths : ∀ key value, isPathKey key = true → item.get key = some value →
    InThumbnails thumbnails value

/-- A contact whose data a key file can hold. -/
structure SwContact.Representable (contact : SwContact) : Prop where
  interned : contact.Interned
  id : ∃ id, contact.get "id" = some id ∧ isGroupName id = true
  type : ∀ type, contact.get "type" = some type → type = "contact"
  lists : ∀ key, contact.getAll key ≠ some []

namespace Cacheable

def Representable (thumbnails : String) : Cacheable → Prop
  | item i => i.Representable thumbnails
  | contact c => c.Representable

/-- The object is to come back: it is ready and its id is not banned. -/
def isKept (isUidBanned : String → Bool) (cacheable : Cacheable) : Bool :=
  cacheable.isReady && cacheable.getId.all fun uid => !isUidBanned uid

/-- A contact with a key `type`. -/
def isTypedContact : Cacheable → Bool
  | item _ => false
  | contact c => (c.getAll "type").isSome

/-- `b` is `a` of the given service, up to the keys of the cache. -/
def CopyOf (service : SwService) : Cacheable → Cacheable → Prop
  | item a, item b => b.service = service ∧ ∀ key, isCacheKey key = false → b.get key = a.get key
  | contact a, contact b =>
    b.service = service ∧ ∀ key, isCacheKey key = false → b.getAll key = a.getAll key
  | _, _ => False

/-- What is loaded of the group of an object, before the ban list is asked. -/
def reload (service : SwService) (thumbnails : String) (group : String) : Cacheable → Cacheable
  | item i => item (itemFromKeyFile service thumbnails (i.saveIntoKeyFile group))
  | contact c => contact (contactFromKeyFile service (c.saveIntoKeyFile group))

variable {service : SwService} {thumbnails : String} {cacheable : Cacheable}

theorem Representable.getId (h : cacheable.Representable thumbnails) :
    ∃ id, cacheable.getId = some id ∧ isGroupName id = true := by
  cases cacheable with
  | item i => exact h.id
  | contact c => exact h.id

theorem copyOf_reload (h : cacheable.Representable thumbnails) (group : String) :
    CopyOf service cacheable (cacheable.reload service thumbnails group) := by
  cases cacheable with
  | item i =>
    refine ⟨?_, fun key hkey => ?_⟩
    · rw [itemFromKeyFile_eq]
      exact (itemFromGroup_frame _ _ _).1
    · rw [itemFromKeyFile_eq, decoded_saveIntoKeyFile]
      exact SwItem.get_reloaded h.interned h.paths service group hkey
  | contact c =>
    refine ⟨(contactFromKeyFile_frame _ _).1, fun key hkey => ?_⟩
    exact SwContact.getAll_reloaded h.interned h.lists service group hkey

theorem getId_reload (h : cacheable.Representable thumbnails) (group : String) :
    (cacheable.reload service thumbnails group).getId = cacheable.getId := by
  have hcopy : CopyOf service cacheable _ := copyOf_reload h group
  cases cacheable with
  | item i => exact hcopy.2 "id" rfl
  | contact c => exact congrArg (fun list => list.bind List.head?) (hcopy.2 "id" rfl)

/-! ## The tag -/

theorem getString_type_item {i : SwItem} (h : i.Representable thumbnails) (group : String) :
    (i.saveIntoKeyFile group).getString "type" = some "item" := by
  have hcache : cacheKeys.lookup "type" = some "item" := AList.lookup_insert _
  rw [KeyFileGroup.getString_eq, decoded_saveIntoKeyFile, SwItem.lookup_saveIntoCache h.interned]
  cases ht : i.get "type" with
  | none => exact hcache
  | some type =>
    obtain rfl := h.type type ht
    rfl

theorem getString_type_contact {c : SwContact} (h : c.Representable)
    (hnone : c.getAll "type" = none) (group : String) :
    (c.saveIntoKeyFile group).getString "type" = some "contact" := by
  have hcache : (contactCacheKeys group).keys.lookup "type" =
      some (KeyFileGroup.parseStringAsValue "contact") := AList.lookup_insert _
  rw [KeyFileGroup.getString, SwContact.lookup_saveIntoKeyFile h.interned, hnone, Option.map_none,
    Option.none_or, hcache]
  simp

/-- A list under `type` is read as a string that names no kind of object. -/
theorem getString_type_list {c : SwContact} (h : c.Representable) {list : List String}
    (hlist : c.getAll "type" = some list) (group : String) :
    ∃ type, (c.saveIntoKeyFile group).getString "type" = some type ∧ type ≠ "item" ∧
      type ≠ "contact" := by
  have hne : list ≠ [] := fun hnil => h.lists "type" (hnil ▸ hlist)
  have hmem := KeyFileGroup.semicolon_mem_parseListAsValue hne
  refine ⟨KeyFileGroup.parseValueAsString (KeyFileGroup.parseListAsValue list), ?_, ?_, ?_⟩
  · rw [KeyFileGroup.getString, SwContact.lookup_saveIntoKeyFile h.interned, hlist]
    rfl
  · intro heq
    rw [heq] at hmem
    exact absurd hmem (by decide)
  · intro heq
    rw [heq] at hmem
    exact absurd hmem (by decide)

theorem makeCacheable_saved (h : cacheable.Representable thumbnails) (group : String) :
    CacheFile.makeCacheable service thumbnails (cacheable.saveIntoKeyFile group) =
      if cacheable.isTypedContact then none
      else some (cacheable.reload service thumbnails group) := by
  unfold CacheFile.makeCacheable
  cases cacheable with
  | item i =>
    have htype : (saveIntoKeyFile group (item i)).getString "type" = some "item" :=
      getString_type_item h group
    simp only [htype]
    rfl
  | contact c =>
    cases hl : c.getAll "type" with
    | none =>
      have htype : (saveIntoKeyFile group (contact c)).getString "type" = some "contact" :=
        getString_type_contact h hl group
      simp only [htype, isTypedContact, hl]
      rfl
    | some list =>
      obtain ⟨type, htype, hitem, hcontact⟩ := getString_type_list h hl group
      have htype : (saveIntoKeyFile group (contact c)).getString "type" = some type := htype
      simp [htype, hitem, hcontact, isTypedContact, hl]

/-- What an object that is saved is loaded as. -/
def copy (service : SwService) (thumbnails : String) (cacheable : Cacheable) : Cacheable :=
  cacheable.reload service thumbnails (cacheable.getId.getD "")

/-- **Of one object: what is loaded of what is saved.** -/
theorem loadItem_saveIntoCache (h : cacheable.Representable thumbnails)
    (isUidBanned : String → Bool) :
    cacheable.saveIntoCache.bind (CacheFile.loadItemFromKeyfile service isUidBanned thumbnails) =
      if cacheable.isKept isUidBanned && !cacheable.isTypedContact then
        some (cacheable.copy service thumbnails) else none := by
  obtain ⟨id, hid, hname⟩ := h.getId
  have hcopy : cacheable.copy service thumbnails = cacheable.reload service thumbnails id := by
    simp [copy, hid]
  have hcopyId : (cacheable.copy service thumbnails).getId = some id := by
    rw [hcopy, getId_reload h, hid]
  have hload : CacheFile.loadItemFromKeyfile service isUidBanned thumbnails
      (cacheable.saveIntoKeyFile id) = if !isUidBanned id && !cacheable.isTypedContact then
        some (cacheable.copy service thumbnails) else none := by
    unfold CacheFile.loadItemFromKeyfile
    rw [makeCacheable_saved h, ← hcopy]
    by_cases ht : cacheable.isTypedContact = true
    · simp [ht]
    · cases hb : isUidBanned id <;> simp [ht, hcopyId, hb]
  unfold saveIntoCache isKept
  rw [hid]
  cases cacheable.isReady with
  | false => simp
  | true => simpa [hname] using hload

end Cacheable

/-! ## Sets -/

namespace CacheFile

variable (service : SwService) (isUidBanned : String → Bool) (thumbnails : String)

/-- The members of the set that is loaded after the set was saved; none if there is no set. -/
def reloaded (order : KeyOrder Cacheable) (set : Set) : List Cacheable :=
  (((save order set).bind (load service isUidBanned thumbnails)).map KeySet.members).getD []

/-- One copy of each member that is to come back, and nothing else. -/
def RoundTrip (order : KeyOrder Cacheable) (set : Set) : Prop :=
  ∃ copies, List.Forall₂ (Cacheable.CopyOf service)
    (set.members.filter (Cacheable.isKept isUidBanned)) copies ∧
    copies.Perm (reloaded service isUidBanned thumbnails order set)

variable {service isUidBanned thumbnails}

/-- Of a list of objects: what is loaded of what is saved. -/
theorem filterMap_saveIntoCache {list : List Cacheable}
    (hlist : ∀ c ∈ list, c.Representable thumbnails) :
    (list.filterMap Cacheable.saveIntoCache).filterMap
      (loadItemFromKeyfile service isUidBanned thumbnails) =
      (list.filter fun c => c.isKept isUidBanned && !c.isTypedContact).map
        (Cacheable.copy service thumbnails) := by
  rw [List.filterMap_filterMap, ← List.filterMap_eq_map, ← List.filterMap_eq_filter,
    List.filterMap_filterMap]
  apply List.filterMap_congr
  intro c hc
  rw [Cacheable.loadItem_saveIntoCache (hlist c hc)]
  by_cases hk : (c.isKept isUidBanned && !c.isTypedContact) = true <;> simp [Option.guard, hk]

/-- **What is loaded is a copy of each object that is kept and is no contact with a type.** -/
theorem reloaded_eq {order : KeyOrder Cacheable} {set : Set}
    (hset : ∀ c ∈ set, c.Representable thumbnails) :
    reloaded service isUidBanned thumbnails order set =
      ((SwSet.asList order set).filter fun c => c.isKept isUidBanned && !c.isTypedContact).map
        (Cacheable.copy service thumbnails) := by
  have hrep : ∀ c ∈ SwSet.asList order set, c.Representable thumbnails :=
    fun c hc => hset c (SwSet.mem_asList.1 hc)
  have hlist : ((SwSet.asList order set).filterMap Cacheable.saveIntoCache).filterMap
      (loadItemFromKeyfile service isUidBanned thumbnails) = _ := filterMap_saveIntoCache hrep
  have hids : (((SwSet.asList order set).filter fun c =>
      c.isKept isUidBanned && !c.isTypedContact).map
        (Cacheable.copy service thumbnails)).map Cacheable.getId =
      ((SwSet.asList order set).filter fun c =>
        c.isKept isUidBanned && !c.isTypedContact).map Cacheable.getId := by
    rw [List.map_map]
    apply List.map_congr_left
    intro c hc
    exact Cacheable.getId_reload (hrep c (List.mem_filter.1 hc).1) _
  have hnodup : ((((SwSet.asList order set).filter fun c =>
      c.isKept isUidBanned && !c.isTypedContact).map
        (Cacheable.copy service thumbnails)).map Cacheable.getId).Nodup := by
    rw [hids]
    exact (SwSet.nodup_asList order set.nodup).sublist (List.filter_sublist.map _)
  unfold reloaded save
  split_ifs with hempty
  · -- An empty set leaves no file.
    rw [SwSet.asList_eq_nil order hempty]
    rfl
  · rw [Option.bind_some]
    by_cases hgroups : (SwSet.asList order set).filterMap Cacheable.saveIntoCache = []
    · rw [← hlist, hgroups]
      rfl
    · rw [load_eq _ _ _ hgroups, hlist]
      show ((KeySet.empty : Set).addAll _).members = _
      rw [KeySet.members_addAll _ hnodup (fun _ _ b hb => absurd hb List.not_mem_nil)]
      rfl

/-- The copies that come back, when every object that is to come back does. -/
theorem roundTrip_of_reloaded {order : KeyOrder Cacheable} {set : Set}
    (hset : ∀ c ∈ set, c.Representable thumbnails)
    (htyped : ∀ c ∈ set, c.isKept isUidBanned = true → c.isTypedContact = false) :
    RoundTrip service isUidBanned thumbnails order set := by
  refine ⟨(set.members.filter (Cacheable.isKept isUidBanned)).map
    (Cacheable.copy service thumbnails), ?_, ?_⟩
  · rw [List.forall₂_map_right_iff, List.forall₂_same]
    intro c hc
    exact Cacheable.copyOf_reload (hset c (List.mem_filter.1 hc).1) _
  · have hfilter : set.members.filter (Cacheable.isKept isUidBanned) =
        set.members.filter fun c => c.isKept isUidBanned && !c.isTypedContact := by
      apply List.filter_congr
      intro c hc
      cases hk : c.isKept isUidBanned with
      | false => rfl
      | true => rw [htyped c hc hk]; rfl
    rw [reloaded_eq hset, hfilter]
    exact (((set.asList_perm order).filter _).map _).symm

/-- **A set comes back from the cache exactly when no contact that is to come back has a key
`type`.** -/
theorem roundTrip_iff (order : KeyOrder Cacheable) {set : Set}
    (hset : ∀ c ∈ set, c.Representable thumbnails) :
    RoundTrip service isUidBanned thumbnails order set ↔
      ∀ c ∈ set, c.isKept isUidBanned = true → c.isTypedContact = false := by
  refine ⟨?_, roundTrip_of_reloaded hset⟩
  intro h c hc hk
  obtain ⟨copies, hcopies, hperm⟩ := h
  have hlength : ((set.members.filter (Cacheable.isKept isUidBanned)).filter
      fun c => !c.isTypedContact).length =
      (set.members.filter (Cacheable.isKept isUidBanned)).length := by
    rw [hcopies.length_eq, hperm.length_eq, reloaded_eq hset, List.length_map,
      ((set.asList_perm order).filter _).length_eq, List.filter_filter]
    exact congrArg List.length (List.filter_congr fun _ _ => Bool.and_comm _ _)
  have hall := List.length_filter_eq_length_iff.1 hlength c (List.mem_filter.2 ⟨hc, hk⟩)
  simpa using hall

/-! ## Examples -/

/-- A set of one object. -/
def oneObject (c : Cacheable) : Set := KeySet.empty.add c

/-- An item with an image in the directory of the thumbnails. -/
def picture (service : SwService) : SwItem :=
  (SwItem.plain service "1").put "thumbnail" (some "/thumbnails/a.jpg")

theorem representable_picture (service : SwService) :
    (picture service).Representable "/thumbnails" where
  interned := by
    apply SwItem.interned_put
    intro k hk
    obtain rfl := List.mem_singleton.1 hk
    exact ⟨"id", rfl⟩
  id := ⟨"1", rfl, by decide⟩
  type := fun type h => by cases h
  paths := by
    intro key value hkey hvalue
    have hkeys : key = "authoricon" ∨ key = "thumbnail" := by simpa [isPathKey] using hkey
    rcases hkeys with rfl | rfl
    · cases hvalue
    · obtain rfl := Option.some.inj hvalue
      exact ⟨"a.jpg", by decide, by decide, by decide⟩

/-- The picture comes back. -/
theorem roundTrip_picture :
    RoundTrip ⟨0, "flickr"⟩ (fun _ => false) "/thumbnails" (KeyOrder.stored _)
      (oneObject (.item (picture ⟨0, "flickr"⟩))) :=
  (roundTrip_iff (KeyOrder.stored _) (by
    intro c hc
    obtain rfl := List.mem_singleton.1 hc
    exact representable_picture _)).2 (by
    intro c hc _
    obtain rfl := List.mem_singleton.1 hc
    rfl)

/-- A contact with a key `type` that says what it is. -/
def typedContact (service : SwService) : SwContact :=
  (SwContact.plain service "1").put "type" (some "contact")

theorem representable_typedContact (service : SwService) :
    (typedContact service).Representable where
  interned := by
    apply SwContact.interned_put
    intro k hk
    obtain rfl := List.mem_singleton.1 hk
    exact ⟨"id", rfl⟩
  id := ⟨"1", rfl, by decide⟩
  type := fun type h => (Option.some.inj h).symm
  lists := by
    intro key hnil
    by_cases hkey : key = "type"
    · subst hkey
      cases hnil
    · have hplain : (typedContact service).getAll key = (SwContact.plain service "1").getAll key :=
        SwContact.getAll_put_of_ne hkey _
      rw [hplain] at hnil
      by_cases hid : key = "id"
      · subst hid
        cases hnil
      · have hne : KeyPtr.interned key ≠ KeyPtr.interned "id" :=
          fun heq => hid (KeyPtr.interned.inj heq)
        have hnone : (SwContact.plain service "1").getAll key = none :=
          AList.lookup_eq_none.2 fun hin => hne (List.mem_singleton.1 hin)
        rw [hnone] at hnil
        cases hnil

/-- **A contact that says that it is a contact is lost.** It is ready and not banned, its data can
be held by a key file, and nothing is loaded. -/
theorem typedContact_lost :
    let service : SwService := ⟨0, "flickr"⟩
    let set := oneObject (.contact (typedContact service))
    (∀ c ∈ set, c.Representable "/thumbnails" ∧ c.isKept (fun _ => false) = true) ∧
      ¬ RoundTrip service (fun _ => false) "/thumbnails" (KeyOrder.stored _) set := by
  intro service set
  have hset : ∀ c ∈ set, c.Representable "/thumbnails" := by
    intro c hc
    obtain rfl := List.mem_singleton.1 hc
    exact representable_typedContact service
  refine ⟨fun c hc => ⟨hset c hc, ?_⟩, ?_⟩
  · obtain rfl := List.mem_singleton.1 hc
    rfl
  · intro h
    obtain ⟨copies, hcopies, hperm⟩ := h
    rw [reloaded_eq hset] at hperm
    have hlength := hcopies.length_eq.trans hperm.length_eq
    cases hlength

end CacheFile

end LibSocialWeb
