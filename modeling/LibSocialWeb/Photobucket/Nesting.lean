import LibSocialWeb.Lib.Separators
import LibSocialWeb.Photobucket.Collections
import LibSocialWeb.Service.CollectionIds

/-!
# Albums in albums at Photobucket (`services/photobucket/photobucket.c`)

The server names an album by the names of the albums around it, the album of the user first, with a
slash between them. `_photobucket_collections_create` puts such a name together, and
`_extract_collection_details_from_xml` takes it apart: what comes before its last slash is the
parent, and if there is no slash in that, it is the album of the user, which has the empty id.

Abstractly an album is its path, the list of the names from the album of the user down, and its
parent is the path without the last name. `pathId` is the id of a path.

**Main result.** `createdAlbum_nests`: an album that is created in an album, at any depth, is
decoded to the id that was returned and to the id of the album it was created in.
-/

namespace LibSocialWeb

namespace Photobucket

/-! ## Paths -/

/-- The name that the server has for an album. -/
def serverName (uid : String) (path : List String) : String :=
  path.foldl (fun name child => name ++ "/" ++ child) uid

/-- The id of an album; the album of the user has the empty one. -/
def pathId (uid : String) (path : List String) : String :=
  if path = [] then "" else ALBUM_PREFIX ++ serverName uid path

theorem serverName_concat (uid : String) (path : List String) (name : String) :
    serverName uid (path ++ [name]) = serverName uid path ++ "/" ++ name := by
  unfold serverName
  rw [List.foldl_concat]

theorem pathId_concat (uid : String) (path : List String) (name : String) :
    pathId uid (path ++ [name]) = ALBUM_PREFIX ++ (serverName uid path ++ "/" ++ name) := by
  rw [pathId, if_neg (List.append_ne_nil_of_right_ne_nil path (List.cons_ne_nil name [])),
    serverName_concat]

/-- Only the album of the user has a name without a slash. -/
theorem slash_mem_serverName_iff {uid : String} (huid : '/' ∉ uid.toList) (path : List String) :
    '/' ∈ (serverName uid path).toList ↔ path ≠ [] := by
  rcases List.eq_nil_or_concat' path with rfl | ⟨path, name, rfl⟩
  · exact iff_of_false huid (not_not_intro rfl)
  · refine iff_of_true ?_ (List.append_ne_nil_of_right_ne_nil path (List.cons_ne_nil name []))
    rw [serverName_concat, String.toList_append, String.toList_append]
    exact List.mem_append_left _ (List.mem_append_right _ (List.mem_singleton_self '/'))

/-! ## Creating an album -/

/-- A call of `Create` gets the reply `id`. -/
def Creates (libs : NullHandling) (uid parent name id : String) : Prop :=
  ∃ error call,
    (collectionsCreate libs true (some uid) name parent).outcome error call = some [.created id]

/-- The parents: the empty one, and what is created in a parent. -/
inductive IsParent (libs : NullHandling) (uid : String) : String → Prop where
  | empty : IsParent libs uid ""
  | created {parent name id : String} : IsParent libs uid parent → '/' ∉ name.toList →
      Creates libs uid parent name id → IsParent libs uid id

variable {libs : NullHandling} {uid : String}

/-- The reply is the id that was put together before the call. -/
theorem createAlbumCb_created {albumId id : String} {error : Option String}
    {call : RestProxyCall XmlNode} (h : createAlbumCb albumId error call = some [.created id]) :
    id = albumId := by
  unfold createAlbumCb at h
  rcases hroot : rootFromCall error call with _ | message | root
  · rw [hroot] at h
    cases h
  · rw [hroot] at h
    cases h
  · rw [hroot] at h
    injection h with h
    injection h with h
    injection h with h
    exact h.symm

/-- The server is asked for an album in the album of the path. -/
theorem collectionsCreate_pathId (path : List String) (name : String) :
    collectionsCreate libs true (some uid) name (pathId uid path) =
      .called ⟨some "album/!", [("id", some (serverName uid path)), ("name", some name)], true⟩
        (createAlbumCb (pathId uid (path ++ [name]))) := by
  have hid : ALBUM_PREFIX ++ printed (some (serverName uid path)) ++ "/" ++ name =
      pathId uid (path ++ [name]) := by
    rw [pathId_concat, String.append_assoc, String.append_assoc, String.append_assoc]
    rfl
  rw [← hid]
  unfold collectionsCreate
  rw [if_neg (by decide)]
  dsimp only
  by_cases hpath : path = []
  · have hparent : pathId uid path = "" := if_pos hpath
    rw [if_pos hparent, hpath]
    rfl
  · have hparent : pathId uid path = ALBUM_PREFIX ++ serverName uid path := if_neg hpath
    have hne : pathId uid path ≠ "" := by
      rw [hparent]
      exact fun h => absurd (String.append_eq_empty_iff.1 h).1 (by decide)
    rw [if_neg hne, hparent, hasPrefix_iff.2 ⟨_, rfl⟩, if_neg (by decide), afterPrefix_append]
    rfl

/-- A reply that the service takes. -/
def okReply : RestProxyCall XmlNode :=
  { statusCode := 200
    statusMessage := "OK"
    payload := ""
    parsed := some
      { name := "response"
        content := none
        attrs := []
        children := [("status", [{
          name := "status", content := some "OK", attrs := [], children := [], found := [] }])]
        found := [] } }

theorem creates_iff {path : List String} {name id : String} :
    Creates libs uid (pathId uid path) name id ↔ id = pathId uid (path ++ [name]) := by
  unfold Creates
  rw [collectionsCreate_pathId]
  refine ⟨?_, ?_⟩
  · rintro ⟨error, call, h⟩
    exact createAlbumCb_created h
  · rintro rfl
    exact ⟨none, okReply, rfl⟩

/-- The parents are the ids of paths. -/
theorem IsParent.exists_path {parent : String} (h : IsParent libs uid parent) :
    ∃ path, parent = pathId uid path := by
  induction h with
  | empty => exact ⟨[], rfl⟩
  | @created parent name id _ _ hcreates ih =>
    obtain ⟨path, rfl⟩ := ih
    exact ⟨path ++ [name], creates_iff.1 hcreates⟩

/-! ## Decoding an album -/

/-- The last slash is the one in front of the name. -/
theorem parentId_child {before name : String} (h : '/' ∉ name.toList) :
    parentId (some (before ++ "/" ++ name)) =
      if '/' ∈ before.toList then ALBUM_PREFIX ++ before else "" := by
  have htext : (before ++ "/" ++ name).toList = before.toList ++ '/' :: name.toList := by
    rw [String.toList_append, String.toList_append, List.append_assoc]
    rfl
  unfold parentId
  rw [Option.getD_some, htext]
  dsimp only
  rw [Separators.dropWhile_reverse_append h, List.tail_cons, List.reverse_reverse,
    String.ofList_toList]

/-- The parent of a path is the path without the last name. -/
theorem parentId_serverName (huid : '/' ∉ uid.toList) {path : List String} {name : String}
    (h : '/' ∉ name.toList) :
    parentId (some (serverName uid (path ++ [name]))) = pathId uid path := by
  rw [serverName_concat, parentId_child h, pathId]
  by_cases hpath : path = []
  · rw [if_neg (mt (slash_mem_serverName_iff huid path).1 (not_not_intro hpath)), if_pos hpath]
  · rw [if_pos ((slash_mem_serverName_iff huid path).2 hpath), if_neg hpath]

/-- With a slash in the name of the user, the albums of the user do not have the empty parent. -/
theorem parentId_topLevel_iff {name : String} (h : '/' ∉ name.toList) :
    parentId (some (serverName uid [name])) = "" ↔ '/' ∉ uid.toList := by
  show parentId (some (uid ++ "/" ++ name)) = "" ↔ _
  rw [parentId_child h]
  by_cases huid : '/' ∈ uid.toList
  · refine iff_of_false ?_ (not_not_intro huid)
    rw [if_pos huid]
    exact fun hempty => absurd (String.append_eq_empty_iff.1 hempty).1 (by decide)
  · exact iff_of_true (if_neg huid) huid

/-! ## The main result -/

/-- **Created albums nest.** In a parent there is one id that `Create` can return, and an album
whose name attribute is that id without the prefix is decoded to the id and the parent. -/
theorem createdAlbum_nests (libs : NullHandling) (uid parent name : String)
    (huid : '/' ∉ uid.toList) (hparent : IsParent libs uid parent) (hname : '/' ∉ name.toList) :
    ∃ id, (∀ id', Creates libs uid parent name id' ↔ id' = id) ∧
      hasPrefix id ALBUM_PREFIX = true ∧
      ∀ album : XmlNode, album.attr "name" = some (afterPrefix id ALBUM_PREFIX) →
        (extractCollectionDetailsFromXml (some album)).id = id ∧
          (extractCollectionDetailsFromXml (some album)).parent = parent := by
  obtain ⟨path, rfl⟩ := hparent.exists_path
  have hid : pathId uid (path ++ [name]) = ALBUM_PREFIX ++ serverName uid (path ++ [name]) := by
    rw [pathId_concat, serverName_concat]
  refine ⟨pathId uid (path ++ [name]), fun id' => creates_iff, ?_, ?_⟩
  · exact hasPrefix_iff.2 ⟨_, hid⟩
  · intro album hattr
    rw [hid, afterPrefix_append] at hattr
    refine ⟨?_, ?_⟩
    · show ALBUM_PREFIX ++ printed (album.attr "name") = _
      rw [hattr, hid]
      rfl
    · show parentId (album.attr "name") = _
      rw [hattr, parentId_serverName huid hname]

/-- An album `b` in an album `a` of the user `u`. -/
theorem createdAlbum_nests_twice :
    ∃ id, Creates .strict "u" "photobucket-u/a" "b" id ∧
      ∀ album : XmlNode, album.attr "name" = some (afterPrefix id ALBUM_PREFIX) →
        (extractCollectionDetailsFromXml (some album)).parent = "photobucket-u/a" := by
  have hparent : IsParent .strict "u" "photobucket-u/a" :=
    .created .empty (show '/' ∉ "a".toList by decide) ⟨none, okReply, rfl⟩
  obtain ⟨id, hcreates, -, hdecoded⟩ := createdAlbum_nests .strict "u"
    "photobucket-u/a" "b" (by decide) hparent (by decide)
  exact ⟨id, (hcreates id).2 rfl, fun album hattr => (hdecoded album hattr).2⟩

end Photobucket

end LibSocialWeb
