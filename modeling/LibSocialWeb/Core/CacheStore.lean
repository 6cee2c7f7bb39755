import LibSocialWeb.Core.CacheNames
import LibSocialWeb.Core.CacheRoundTrip
import LibSocialWeb.Lib.Run
import LibSocialWeb.Lib.Separators

/-!
# The cache directory (`libsocialweb/sw-cache.c`)

All services keep their files in one directory. `sw_cache_save` and `sw_cache_drop` touch the file
of one service, query and checksum of parameters; `sw_cache_drop_all` removes what `g_dir_read_name`
lists with the name of the service and a dash in front. Writing or removing a file can fail, which
leaves the old file in place, and so can opening the directory.

`Op.onEntry` says what an operation does to one entry of the cache, if the entries did not share a
directory. They are kept apart by their names as long as no service has a dash in its name and
neither services nor queries have a slash (the name of an entry ends in a dash and a checksum).

**Main results.** `lookup_run`: after any run of operations the file of an entry is what the
operations on this entry alone make of it. `load_after_save`: what is loaded is a copy of what was
last saved for the entry, whatever was done to the others in between. `load_after_dropAll`: once a
service dropped all it has, and the directory could be opened and its files removed, nothing of it
is loaded until it saves again.
-/

namespace LibSocialWeb

open Transition

namespace CacheStore

/-- The files of the cache, by their full names. -/
abbrev Files := AList fun _ : String => List KeyFileGroup

/-- A call of a function of `sw-cache.c`. `written` says whether the file can be written, or removed
if there is nothing to write; `opened` whether `g_dir_open` succeeds, and `removed` which files
`g_remove` removes. -/
inductive Op where
  | save (service : SwService) (query : Option String) (params : StringDict)
      (order : KeyOrder Cacheable) (set : Option CacheFile.Set) (written : Bool)
  | drop (service : SwService) (query : Option String) (params : StringDict) (removed : Bool)
  | dropAll (service : SwService) (opened : Bool) (removed : String → Bool)

section

variable (md5 : List UInt8 → String) (path : String)

/-- The name of the file of a service, a query and parameters. Without a query it is `feed`. -/
def filename (service : SwService) (query : Option String) (params : StringDict) : String :=
  getCacheFilename md5 path service.name (query.getD "feed") params

/-- The name that `g_dir_read_name` gives for the file `full`, if it is in the directory. -/
def readName (path full : String) : Option (List Char) :=
  let name := full.toList.drop (path.length + 1)
  if (path ++ "/").toList.isPrefixOf full.toList ∧ '/' ∉ name then some name else none

/-- `sw_cache_drop_all` removes the file. -/
def isDropped (service : SwService) (full : String) : Bool :=
  (readName path full).any fun name => (service.name ++ "-").toList.isPrefixOf name

/-- What the functions do to the directory. -/
def step (files : Files) : Op → Files
  | .save service query params order set written =>
    if written then
      match set.bind (CacheFile.save order) with
      | none => files.erase (filename md5 path service query params)
      | some data => files.insert (filename md5 path service query params) data
    else files
  | .drop service query params removed =>
    if removed then files.erase (filename md5 path service query params) else files
  | .dropAll service opened removed =>
    if opened then
      (files.keys.filter fun name => isDropped path service name && removed name).foldl
        (fun files name => files.erase name) files
    else files

/-- `sw_cache_load` -/
def load (isUidBanned : String → Bool) (thumbnails : String) (files : Files) (service : SwService)
    (query : Option String) (params : StringDict) : Option CacheFile.Set :=
  (files.lookup (filename md5 path service query params)).bind
    (CacheFile.load service isUidBanned thumbnails)

end

/-! ## One entry -/

/-- An entry of the cache: the names of the service and the query, and the checksum of the
parameters. -/
structure Entry where
  service : String
  query : String
  hash : String
  deriving DecidableEq

/-- The names do not run into each other. -/
structure Entry.Plain (entry : Entry) : Prop where
  service_dash : '-' ∉ entry.service.toList
  service_slash : '/' ∉ entry.service.toList
  query_slash : '/' ∉ entry.query.toList
  hash_dash : '-' ∉ entry.hash.toList
  hash_slash : '/' ∉ entry.hash.toList

/-- The name of the file in the directory. -/
def Entry.name (entry : Entry) : String := entry.service ++ "-" ++ entry.query ++ "-" ++ entry.hash

section

variable (md5 : List UInt8 → String) (path : String)

def entryOf (service : SwService) (query : Option String) (params : StringDict) : Entry :=
  ⟨service.name, query.getD "feed", swHashStringDict md5 params⟩

/-- What an operation does to the file of one entry, the others aside. -/
def Op.onEntry (entry : Entry) : Op → Option (List KeyFileGroup) → Option (List KeyFileGroup)
  | .save service query params order set written, file =>
    if written ∧ entryOf md5 service query params = entry then set.bind (CacheFile.save order)
    else file
  | .drop service query params removed, file =>
    if removed ∧ entryOf md5 service query params = entry then none else file
  | .dropAll service opened removed, file =>
    if opened ∧ service.name = entry.service ∧ removed (path ++ "/" ++ entry.name) then none
    else file

/-- The names of an operation are plain. -/
def Op.Plain : Op → Prop
  | .save service query params _ _ _ => (entryOf md5 service query params).Plain
  | .drop service query params _ => (entryOf md5 service query params).Plain
  | .dropAll service _ _ => '-' ∉ service.name.toList

end

/-! ## Names -/

variable {entry other : Entry}

theorem Entry.name_toList (entry : Entry) : entry.name.toList =
    entry.service.toList ++ '-' :: (entry.query.toList ++ '-' :: entry.hash.toList) := by
  simp [name]

/-- **Plain entries have different names**: the service is before the first dash, the checksum
after the last one. -/
theorem Entry.Plain.name_inj (h : entry.Plain) (h' : other.Plain)
    (heq : entry.name = other.name) : entry = other := by
  have hlist := congrArg String.toList heq
  rw [name_toList, name_toList] at hlist
  have hservice : entry.service.toList = other.service.toList := by
    have htake := congrArg (List.takeWhile (· ≠ '-')) hlist
    rwa [Separators.takeWhile_append h.service_dash,
      Separators.takeWhile_append h'.service_dash] at htake
  rw [hservice] at hlist
  have hrest := (List.cons.inj (List.append_cancel_left hlist)).2
  have hquery : entry.query.toList = other.query.toList := by
    have hdrop := congrArg (fun s => s.reverse.dropWhile (· ≠ '-')) hrest
    rw [Separators.dropWhile_reverse_append h.hash_dash,
      Separators.dropWhile_reverse_append h'.hash_dash] at hdrop
    exact List.reverse_injective (List.cons.inj hdrop).2
  rw [hquery] at hrest
  have hhash := (List.cons.inj (List.append_cancel_left hrest)).2
  rcases entry with ⟨service, query, hash⟩
  rcases other with ⟨service', query', hash'⟩
  rw [Entry.mk.injEq]
  exact ⟨String.toList_inj.1 hservice, String.toList_inj.1 hquery, String.toList_inj.1 hhash⟩

theorem Entry.Plain.slash_not_mem_name (h : entry.Plain) : '/' ∉ entry.name.toList := by
  rw [name_toList]
  simp [h.service_slash, h.query_slash, h.hash_slash]

variable {md5 : List UInt8 → String} {path : String} {service : SwService} {query : Option String}
  {params : StringDict}

theorem filename_eq (h : (entryOf md5 service query params).Plain) :
    filename md5 path service query params =
      path ++ "/" ++ (entryOf md5 service query params).name := by
  have hslash := h.slash_not_mem_name
  have hdrop : (entryOf md5 service query params).name.toList.dropWhile (· = '/') =
      (entryOf md5 service query params).name.toList := by
    rw [List.dropWhile_eq_self_iff]
    intro hlen heq
    exact hslash (of_decide_eq_true heq ▸ List.getElem_mem hlen)
  show path ++ "/" ++ String.ofList ((entryOf md5 service query params).name.toList.dropWhile _) = _
  rw [hdrop, String.ofList_toList]

theorem filename_inj (h : (entryOf md5 service query params).Plain) (h' : entry.Plain) :
    filename md5 path service query params = path ++ "/" ++ entry.name ↔
      entryOf md5 service query params = entry := by
  rw [filename_eq h]
  constructor
  · intro heq
    refine h.name_inj h' ?_
    have hlist := congrArg String.toList heq
    simp only [String.toList_append] at hlist
    exact String.toList_inj.1 (List.append_cancel_left hlist)
  · rintro rfl
    rfl

theorem readName_name (h : entry.Plain) :
    readName path (path ++ "/" ++ entry.name) = some entry.name.toList := by
  have hdrop : (path ++ "/" ++ entry.name).toList.drop (path.length + 1) = entry.name.toList := by
    have hlen : (path ++ "/").toList.length = path.length + 1 := by
      rw [String.length_toList, String.length_append]
      rfl
    rw [String.toList_append, ← hlen, List.drop_left]
  have hpre : (path ++ "/").toList.isPrefixOf (path ++ "/" ++ entry.name).toList = true := by
    have hfull : (path ++ "/" ++ entry.name).toList =
        (path ++ "/").toList ++ entry.name.toList := String.toList_append
    rw [List.isPrefixOf_iff_prefix, hfull]
    exact List.prefix_append _ _
  rw [readName]
  simp only [hdrop]
  rw [if_pos ⟨hpre, h.slash_not_mem_name⟩]

/-- **`sw_cache_drop_all` removes the files of its service and no others.** -/
theorem isDropped_name (h : entry.Plain) (hdash : '-' ∉ service.name.toList) :
    isDropped path service (path ++ "/" ++ entry.name) = true ↔ service.name = entry.service := by
  have hstart : (service.name ++ "-").toList = service.name.toList ++ ['-'] := by simp
  rw [isDropped, readName_name h, Option.any_some, List.isPrefixOf_iff_prefix, hstart,
    Entry.name_toList]
  constructor
  · intro hpre
    obtain ⟨rest, hrest⟩ := hpre
    have htake := congrArg (List.takeWhile (· ≠ '-')) hrest
    rw [List.append_assoc, List.singleton_append, Separators.takeWhile_append hdash,
      Separators.takeWhile_append h.service_dash] at htake
    exact String.toList_inj.1 htake
  · intro heq
    exact ⟨entry.query.toList ++ '-' :: entry.hash.toList, by rw [heq]; simp⟩

/-! ## Runs -/

theorem lookup_foldl_erase (names : List String) (files : Files) (name : String) :
    (names.foldl (fun files name => files.erase name) files).lookup name =
      if name ∈ names then none else files.lookup name := by
  induction names generalizing files with
  | nil => simp
  | cons head names ih =>
    rw [List.foldl_cons, ih]
    by_cases hn : name = head
    · subst hn; simp
    · simp [hn, AList.lookup_erase_ne hn]

/-- **Refinement.** An operation acts on the file of each entry on its own. -/
theorem lookup_step (h : entry.Plain) (files : Files) {op : Op} (hop : op.Plain md5) :
    (step md5 path files op).lookup (path ++ "/" ++ entry.name) =
      op.onEntry md5 path entry (files.lookup (path ++ "/" ++ entry.name)) := by
  have herase : ∀ name, (files.erase name).lookup (path ++ "/" ++ entry.name) =
      if name = path ++ "/" ++ entry.name then none
      else files.lookup (path ++ "/" ++ entry.name) := by
    intro name
    split_ifs with hname
    · rw [hname, AList.lookup_erase]
    · exact AList.lookup_erase_ne (Ne.symm hname)
  cases op with
  | save service query params order set written =>
    have hname : filename md5 path service query params = path ++ "/" ++ entry.name ↔ _ :=
      filename_inj hop h
    dsimp only [step, Op.onEntry]
    simp only [← hname]
    cases written with
    | false => simp
    | true =>
      simp only [if_true, true_and]
      cases set.bind (CacheFile.save order) with
      | none => exact herase _
      | some data =>
        dsimp only
        split_ifs with heq
        · rw [heq, AList.lookup_insert]
        · exact AList.lookup_insert_ne (Ne.symm heq)
  | drop service query params removed =>
    have hname : filename md5 path service query params = path ++ "/" ++ entry.name ↔ _ :=
      filename_inj hop h
    dsimp only [step, Op.onEntry]
    simp only [← hname]
    cases removed with
    | false => simp
    | true =>
      simp only [if_true, true_and]
      exact herase _
  | dropAll service opened removed =>
    have hdropped : isDropped path service (path ++ "/" ++ entry.name) = true ↔ _ :=
      isDropped_name h hop
    dsimp only [step, Op.onEntry]
    cases opened with
    | false => simp
    | true =>
      simp only [if_true, true_and]
      rw [lookup_foldl_erase]
      simp only [List.mem_filter, Bool.and_eq_true, hdropped]
      by_cases heq : service.name = entry.service ∧ removed (path ++ "/" ++ entry.name) = true
      · simp only [heq, and_true, if_true]
        split_ifs with hmem
        · rfl
        · rw [AList.lookup_eq_none]
          exact fun hin => hmem (AList.mem_keys.1 hin)
      · rw [if_neg heq, if_neg fun hand => heq hand.2]

/-- **After any run of operations, the file of an entry is what the operations on this entry make
of it.** -/
theorem lookup_run (h : entry.Plain) (files : Files) (ops : List Op)
    (hops : ∀ op ∈ ops, op.Plain md5) :
    (runFrom (step md5 path) files ops).lookup (path ++ "/" ++ entry.name) =
      ops.foldl (fun file op => op.onEntry md5 path entry file)
        (files.lookup (path ++ "/" ++ entry.name)) := by
  induction ops generalizing files with
  | nil => rfl
  | cons op ops ih =>
    rw [runFrom_cons, ih _ fun o ho => hops o (List.mem_cons_of_mem _ ho),
      lookup_step h files (hops op List.mem_cons_self)]
    rfl

/-- The operation is about this entry. -/
def Op.Touches (md5 : List UInt8 → String) (entry : Entry) : Op → Prop
  | .save service query params _ _ _ => entryOf md5 service query params = entry
  | .drop service query params _ => entryOf md5 service query params = entry
  | .dropAll service _ _ => service.name = entry.service

theorem onEntry_of_not_touches {op : Op} (h : ¬ op.Touches md5 entry)
    (file : Option (List KeyFileGroup)) : op.onEntry md5 path entry file = file := by
  cases op with
  | save service query params order set written => exact if_neg fun hand => h hand.2
  | drop service query params removed => exact if_neg fun hand => h hand.2
  | dropAll service opened removed => exact if_neg fun hand => h hand.2.1

/-- **What is loaded is a copy of what was last saved**, whatever was done to the other entries
since. -/
theorem load_after_save {isUidBanned : String → Bool} {thumbnails : String} {files : Files}
    {before after : List Op} {order : KeyOrder Cacheable} {set : CacheFile.Set}
    (hplain : ∀ op ∈ before ++ .save service query params order (some set) true :: after,
      op.Plain md5)
    (hafter : ∀ op ∈ after, ¬ op.Touches md5 (entryOf md5 service query params))
    (hset : ∀ c ∈ set, c.Representable thumbnails)
    (htyped : ∀ c ∈ set, c.isKept isUidBanned = true → c.isTypedContact = false) :
    ∃ copies, List.Forall₂ (Cacheable.CopyOf service)
      (set.members.filter (Cacheable.isKept isUidBanned)) copies ∧
      copies.Perm (((load md5 path isUidBanned thumbnails (runFrom (step md5 path) files
        (before ++ .save service query params order (some set) true :: after))
          service query params).map KeySet.members).getD []) := by
  have hentry : (entryOf md5 service query params).Plain := hplain
    (.save service query params order (some set) true)
    (List.mem_append_right _ List.mem_cons_self)
  have hkept : ∀ (ops : List Op) (file : Option (List KeyFileGroup)),
      (∀ op ∈ ops, ¬ op.Touches md5 (entryOf md5 service query params)) →
      ops.foldl (fun file op => op.onEntry md5 path (entryOf md5 service query params) file) file =
        file := by
    intro ops
    induction ops with
    | nil => exact fun _ _ => rfl
    | cons op ops ih =>
      intro file hops
      rw [List.foldl_cons, onEntry_of_not_touches (hops op List.mem_cons_self)]
      exact ih file fun o ho => hops o (List.mem_cons_of_mem _ ho)
  -- The file is the one that the save leaves.
  have hfile : (runFrom (step md5 path) files
      (before ++ .save service query params order (some set) true :: after)).lookup
        (filename md5 path service query params) = CacheFile.save order set := by
    rw [filename_eq hentry, lookup_run hentry files _ hplain, List.foldl_append, List.foldl_cons,
      hkept after _ hafter]
    dsimp only [Op.onEntry]
    rw [if_pos ⟨rfl, rfl⟩, Option.bind_some]
  rw [load, hfile]
  exact CacheFile.roundTrip_of_reloaded hset htyped

/-- The operation saves this entry. -/
def Op.Saves (md5 : List UInt8 → String) (entry : Entry) : Op → Prop
  | .save service query params _ _ _ => entryOf md5 service query params = entry
  | .drop _ _ _ _ => False
  | .dropAll _ _ _ => False

theorem onEntry_none {op : Op} (h : ¬ op.Saves md5 entry) :
    op.onEntry md5 path entry none = none := by
  cases op with
  | save service query params order set written => exact if_neg fun hand => h hand.2
  | drop service query params removed => exact ite_self none
  | dropAll service opened removed => exact ite_self none

/-- **Nothing of a service is loaded after it dropped all it has**, until it saves again, if the
directory could be opened and the files of the service removed. -/
theorem load_after_dropAll {isUidBanned : String → Bool} {thumbnails : String} {files : Files}
    {before after : List Op} {removed : String → Bool}
    (hentry : (entryOf md5 service query params).Plain)
    (hplain : ∀ op ∈ before ++ .dropAll service true removed :: after, op.Plain md5)
    (hremoved : ∀ name, isDropped path service name = true → removed name = true)
    (hafter : ∀ op ∈ after, ¬ op.Saves md5 (entryOf md5 service query params)) :
    load md5 path isUidBanned thumbnails
      (runFrom (step md5 path) files (before ++ .dropAll service true removed :: after))
        service query params = none := by
  have hnone : ∀ ops : List Op,
      (∀ op ∈ ops, ¬ op.Saves md5 (entryOf md5 service query params)) →
      ops.foldl (fun file op => op.onEntry md5 path (entryOf md5 service query params) file) none =
        none := by
    intro ops
    induction ops with
    | nil => exact fun _ => rfl
    | cons op ops ih =>
      intro hops
      rw [List.foldl_cons, onEntry_none (hops op List.mem_cons_self)]
      exact ih fun o ho => hops o (List.mem_cons_of_mem _ ho)
  have hdash : '-' ∉ service.name.toList := hplain (.dropAll service true removed)
    (List.mem_append_right _ List.mem_cons_self)
  have hdrop : ∀ file, (Op.dropAll service true removed).onEntry md5 path
      (entryOf md5 service query params) file = none :=
    fun _ => if_pos ⟨rfl, rfl, hremoved _ ((isDropped_name hentry hdash).2 rfl)⟩
  rw [load, filename_eq hentry, lookup_run hentry files _ hplain, List.foldl_append,
    List.foldl_cons, hdrop, hnone after hafter, Option.bind_none]

/-- The checksum of the empty text as it is. -/
def emptyMd5 (text : List UInt8) : String :=
  if text = [] then "d41d8cd98f00b204e9800998ecf8427e" else "0"

/-- One service cannot open the directory and saves a picture, another one saves nothing and drops
all it has. -/
def savedOps : List Op :=
  [.dropAll ⟨0, "flickr"⟩ false fun _ => true] ++
    .save ⟨0, "flickr"⟩ none ∅ (KeyOrder.stored _)
      (some (CacheFile.oneObject (.item (CacheFile.picture ⟨0, "flickr"⟩)))) true ::
    [.save ⟨1, "twitter"⟩ (some "own") ∅ (KeyOrder.stored _) none true,
      .dropAll ⟨1, "twitter"⟩ true fun _ => true]

theorem swHashStringDict_emptyMd5 :
    swHashStringDict emptyMd5 ∅ = "d41d8cd98f00b204e9800998ecf8427e" := by
  rw [swHashStringDict, checksumStrings_empty]
  rfl

theorem hash_emptyMd5 : '-' ∉ (swHashStringDict emptyMd5 ∅).toList ∧
    '/' ∉ (swHashStringDict emptyMd5 ∅).toList := by
  rw [swHashStringDict_emptyMd5]
  exact ⟨by decide, by decide⟩

theorem plain_savedOps : ∀ op ∈ savedOps, op.Plain emptyMd5 := by
  intro op hop
  simp only [savedOps, List.cons_append, List.nil_append, List.mem_cons, List.not_mem_nil,
    or_false] at hop
  rcases hop with rfl | rfl | rfl | rfl
  · exact (by decide : '-' ∉ "flickr".toList)
  · exact ⟨by decide, by decide, by decide, hash_emptyMd5.1, hash_emptyMd5.2⟩
  · exact ⟨by decide, by decide, by decide, hash_emptyMd5.1, hash_emptyMd5.2⟩
  · exact (by decide : '-' ∉ "twitter".toList)

/-- The picture comes back. -/
theorem load_picture : ∃ copies, List.Forall₂ (Cacheable.CopyOf ⟨0, "flickr"⟩)
    ((CacheFile.oneObject (.item (CacheFile.picture ⟨0, "flickr"⟩))).members.filter
      (Cacheable.isKept fun _ => false)) copies ∧
    copies.Perm (((load emptyMd5 "/cache" (fun _ => false) "/thumbnails"
      (runFrom (step emptyMd5 "/cache") ∅ savedOps) ⟨0, "flickr"⟩ none ∅).map
        KeySet.members).getD []) := by
  refine load_after_save ?_ ?_ ?_ ?_
  · exact plain_savedOps
  · intro op hop
    simp only [List.mem_cons, List.not_mem_nil, or_false] at hop
    rcases hop with rfl | rfl
    · exact fun heq => absurd (congrArg Entry.service heq) (by decide)
    · exact (by decide : "twitter" ≠ "flickr")
  · intro c hc
    obtain rfl := List.mem_singleton.1 hc
    exact CacheFile.representable_picture _
  · intro c hc _
    obtain rfl := List.mem_singleton.1 hc
    rfl

/-- The other service has nothing. -/
theorem load_dropped : load emptyMd5 "/cache" (fun _ => false) "/thumbnails"
    (runFrom (step emptyMd5 "/cache") ∅ savedOps) ⟨1, "twitter"⟩ (some "own") ∅ = none := by
  have hops : savedOps = savedOps.take 3 ++ .dropAll ⟨1, "twitter"⟩ true (fun _ => true) :: [] :=
    rfl
  rw [hops]
  refine load_after_dropAll ?_ ?_ (fun _ _ => rfl) fun _ hop => absurd hop List.not_mem_nil
  · exact ⟨by decide, by decide, by decide, hash_emptyMd5.1, hash_emptyMd5.2⟩
  · rw [← hops]
    exact plain_savedOps

end CacheStore

end LibSocialWeb
