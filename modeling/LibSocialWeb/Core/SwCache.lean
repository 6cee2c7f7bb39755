import LibSocialWeb.Core.Store

/-!
# The item cache (`libsocialweb/sw-cache.c`)

A cache file is a key file with one group for each item. `sw_cache_save` writes the ready items of
a set and removes the file when the set is empty; `sw_cache_load` makes an item of each group
whose id is not banned.

A group is named by the id of its item. `g_key_file_set_string` ignores a group name with a
bracket or a control character in it. The keys of items are fixed names that are valid in a key
file.
-/

namespace LibSocialWeb

structure CacheGroup where
  name : String
  keys : AList fun _ : String => String

/-- `g_path_get_basename` -/
def pathGetBasename (path : String) : String :=
  if path = "" then "." else
    let trimmed := path.toList.reverse.dropWhile (· = '/')
    if trimmed = [] then "/" else String.ofList (trimmed.takeWhile (· ≠ '/')).reverse

/-- `g_key_file_is_group_name` -/
def isGroupName (name : String) : Bool :=
  name ≠ "" && name.toList.all fun c => c ≠ '[' && c ≠ ']' && 32 ≤ c.toNat && c.toNat ≠ 127

/-- The keys whose value is a path. -/
def isPathKey (key : String) : Bool := key = "authoricon" || key = "thumbnail"

/-- `make_relative_path` -/
def makeRelativePath (key value : String) : Option String :=
  if isPathKey key then some (pathGetBasename value) else none

/-- `make_absolute_path`, where `thumbnails` is the directory of the thumbnails. -/
def makeAbsolutePath (thumbnails key value : String) : Option String :=
  if isPathKey key then
    some (if value = "" then thumbnails
      else thumbnails ++ "/" ++ String.ofList (value.toList.dropWhile (· = '/')))
  else none

/-- `sw_item_save_into_cache` -/
def SwItem.saveIntoCache (item : SwItem) (group : String) : CacheGroup where
  name := group
  keys := item.hash.entries.foldl
    (fun keys e => keys.insert e.1.str ((makeRelativePath e.1.str e.2).getD e.2))
    ((AList.singleton "cached" "1").insert "type" "item")

/-- `sw_cacheable_save_into_cache`: items that are not ready are skipped. -/
def cacheableSaveIntoCache (h : Heap) (o : ItemRef) : Option CacheGroup :=
  if !h.ready o then none
  else if isGroupName o.uid then some ((h.item o).saveIntoCache o.uid) else none

/-- `sw_cache_save`: the file after it. -/
def cacheSave (h : Heap) (order : KeyOrder ItemRef) (set : ItemSet) : Option (List CacheGroup) :=
  if set.isEmpty then none else some ((SwSet.asList order set).filterMap (cacheableSaveIntoCache h))

/-- The item that `load_item_from_keyfile` fills from a group. -/
def itemFromGroup (service : SwService) (thumbnails : String) (group : CacheGroup) : SwItem :=
  group.keys.entries.foldl
    (fun item e => item.put e.1 (some ((makeAbsolutePath thumbnails e.1 e.2).getD e.2)))
    ⟨service, ∅, 0⟩

/-- `load_item_from_keyfile`, for files of items. -/
def loadItemFromKeyfile (service : SwService) (isUidBanned : String → Bool) (thumbnails : String)
    (group : CacheGroup) : Option NewItem :=
  if (group.keys.lookup "type").getD "item" ≠ "item" then none
  else match hid : (itemFromGroup service thumbnails group).get "id" with
    | none => none
    | some uid => if isUidBanned uid then none
      else some ⟨uid, itemFromGroup service thumbnails group, hid⟩

/-- The entries of the set that `sw_cache_load` makes of a file; a file without groups gives no
set. -/
def cacheLoad (service : SwService) (isUidBanned : String → Bool) (thumbnails : String)
    (groups : List CacheGroup) : Option (List NewItem) :=
  if groups.isEmpty then none
  else some (groups.filterMap (loadItemFromKeyfile service isUidBanned thumbnails))

/-- A banned item is not loaded. -/
theorem not_banned_of_loadItem {service : SwService} {isUidBanned : String → Bool}
    {thumbnails : String} {group : CacheGroup} {n : NewItem}
    (h : loadItemFromKeyfile service isUidBanned thumbnails group = some n) :
    isUidBanned n.uid = false := by
  unfold loadItemFromKeyfile at h
  split_ifs at h
  split at h
  · cases h
  · split_ifs at h with hb
    obtain rfl := Option.some.inj h
    simpa using hb

theorem not_banned_of_mem_cacheLoad {service : SwService} {isUidBanned : String → Bool}
    {thumbnails : String} {groups : List CacheGroup} {ns : List NewItem}
    (h : cacheLoad service isUidBanned thumbnails groups = some ns) {n : NewItem} (hn : n ∈ ns) :
    isUidBanned n.uid = false := by
  unfold cacheLoad at h
  split_ifs at h
  obtain rfl := Option.some.inj h
  obtain ⟨group, -, hg⟩ := List.mem_filterMap.1 hn
  exact not_banned_of_loadItem hg

/-- A file with a group comes from a set with an item. -/
theorem exists_mem_of_cacheSave {h : Heap} {order : KeyOrder ItemRef} {set : ItemSet}
    {groups : List CacheGroup} (hsave : cacheSave h order set = some groups) (hne : groups ≠ []) :
    ∃ o, o ∈ set := by
  unfold cacheSave at hsave
  split_ifs at hsave with hempty
  obtain rfl := Option.some.inj hsave
  obtain ⟨group, hg⟩ := List.exists_mem_of_ne_nil _ hne
  obtain ⟨o, ho, -⟩ := List.mem_filterMap.1 hg
  exact ⟨o, SwSet.mem_asList.1 ho⟩

theorem groups_ne_of_mem_cacheLoad {service : SwService} {isUidBanned : String → Bool}
    {thumbnails : String} {groups : List CacheGroup} {ns : List NewItem}
    (h : cacheLoad service isUidBanned thumbnails groups = some ns) : groups ≠ [] := by
  intro heq
  subst heq
  cases h

end LibSocialWeb
