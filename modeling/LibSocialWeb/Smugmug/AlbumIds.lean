import LibSocialWeb.Lib.Separators
import LibSocialWeb.Smugmug.Proxies

/-!
# Album ids of SmugMug (`services/smugmug/smugmug.c`)

An album of SmugMug has a key and an id, and a call for the album needs both. The id of the
collection has the two with an underscore between them. It is put together for the details of an
album and for the reply to `Create`. `_upload_file` looks for the first underscore of the whole
string and takes what follows; `GetDetails` takes the prefix off and splits the rest in two.

Abstractly a collection id is `IsCollectionId`, with a key without an underscore. Both decoders
accept the strings that are one, and the album id that they send is the one of the string.

**Main result.** `albumIds_agree`: what the service puts together is decoded to the album it is for,
and the two decoders accept the same strings, with the same album id.
-/

namespace LibSocialWeb

namespace Smugmug

/-- The prefix, a key without an underscore, an underscore and an album id. -/
structure IsCollectionId (collectionId key number : String) : Prop where
  noUnderscore : '_' ∉ key.toList
  eq : collectionId = ALBUM_PREFIX ++ key ++ "_" ++ number

/-! ## Encoding and decoding -/

/-- The collection ids that the service puts together for an album. -/
inductive Built (album : XmlNode) : String → Prop where
  | details : Built album (extractCollectionDetailsFromXml album).id
  | created {error : Option String} {call : RestProxyCall XmlNode} {root : XmlNode} {id : String} :
      rootFromCall error call = .ok root → root.find "Album" = some album →
      createAlbumCb error call = some [.created id] → Built album id

/-- The request of an upload to a collection, with a file that can be read. -/
def UploadsTo (request : UploadRequest) (collectionId : String) : Prop :=
  (∃ contents, request.contents = .ok contents) ∧
    request.fields.lookup "collection" = some collectionId

/-- The album id goes to the server. -/
def SendsAlbumId (number : String) (answer : Answer) : Prop :=
  ∃ request, answer = .asked request ∧ request.params.lookup "AlbumID" = some (some number)

/-- Nothing goes to the server. -/
def Refuses (answer : Answer) : Prop := ∀ request, answer ≠ .asked request

/-! ## Collection ids -/

variable {collectionId key number : String}

/-- What follows the prefix. -/
theorem afterPrefix_of_isCollectionId (h : IsCollectionId collectionId key number) :
    hasPrefix collectionId ALBUM_PREFIX = true ∧
      (afterPrefix collectionId ALBUM_PREFIX).toList = key.toList ++ '_' :: number.toList := by
  have heq : collectionId = ALBUM_PREFIX ++ (key ++ "_" ++ number) := by
    rw [h.eq, String.append_assoc, String.append_assoc, String.append_assoc]
  refine ⟨hasPrefix_iff.2 ⟨_, heq⟩, ?_⟩
  rw [heq, afterPrefix_append, String.toList_append, String.toList_append, List.append_assoc]
  rfl

/-- The first underscore of a collection id is the one behind the key. -/
theorem toList_of_isCollectionId (h : IsCollectionId collectionId key number) :
    ∃ start, '_' ∉ start ∧ collectionId.toList = start ++ '_' :: number.toList := by
  refine ⟨ALBUM_PREFIX.toList ++ key.toList, ?_, ?_⟩
  · rw [List.mem_append, not_or]
    exact ⟨by decide, h.noUnderscore⟩
  · rw [h.eq, String.toList_append, String.toList_append, String.toList_append, List.append_assoc]
    rfl

/-- A string with the prefix and an underscore behind it is a collection id. -/
theorem exists_isCollectionId (hstart : hasPrefix collectionId ALBUM_PREFIX = true)
    (hmem : '_' ∈ (afterPrefix collectionId ALBUM_PREFIX).toList) :
    ∃ key number, IsCollectionId collectionId key number := by
  obtain ⟨rest, rfl⟩ := hasPrefix_iff.1 hstart
  rw [afterPrefix_append] at hmem
  obtain ⟨key, number, hrest, hkey⟩ := List.eq_append_cons_of_mem hmem
  refine ⟨String.ofList key, String.ofList number, ?_, ?_⟩
  · rw [String.toList_ofList]
    exact hkey
  · have htext : rest = String.ofList key ++ ("_" ++ String.ofList number) := by
      have hunderscore : "_".toList = ['_'] := rfl
      rw [← String.toList_inj, hrest, String.toList_append, String.toList_append, hunderscore,
        String.toList_ofList, String.toList_ofList, List.singleton_append]
    rw [htext, String.append_assoc, String.append_assoc]

/-- The prefix has no underscore. -/
theorem mem_afterPrefix_iff (hstart : hasPrefix collectionId ALBUM_PREFIX = true) :
    '_' ∈ (afterPrefix collectionId ALBUM_PREFIX).toList ↔ '_' ∈ collectionId.toList := by
  obtain ⟨rest, rfl⟩ := hasPrefix_iff.1 hstart
  rw [afterPrefix_append, String.toList_append, List.mem_append]
  exact (or_iff_right (by decide)).symm

/-- A string that is no collection id lacks the prefix or the underscore. -/
theorem not_mem_of_not_isCollectionId
    (h : ¬ ∃ key number, IsCollectionId collectionId key number)
    (hstart : hasPrefix collectionId ALBUM_PREFIX = true) :
    '_' ∉ (afterPrefix collectionId ALBUM_PREFIX).toList :=
  fun hmem => h (exists_isCollectionId hstart hmem)

/-! ## The upload -/

variable {md5 : List UInt8 → String} {proxy : Nat} {request : UploadRequest}

theorem sendsAlbumId_upload (hrequest : UploadsTo request collectionId)
    (h : IsCollectionId collectionId key number) :
    SendsAlbumId number (uploadFile md5 (some proxy) request).answer := by
  obtain ⟨⟨contents, hcontents⟩, hfield⟩ := hrequest
  obtain ⟨start, hnone, htext⟩ := toList_of_isCollectionId h
  have hmem : '_' ∈ collectionId.toList := by
    rw [htext]
    exact List.mem_append_right _ List.mem_cons_self
  have haccepted :
      ¬ (!hasPrefix collectionId ALBUM_PREFIX || decide ('_' ∉ collectionId.toList)) = true := by
    rw [(afterPrefix_of_isCollectionId h).1, decide_eq_false (not_not_intro hmem)]
    decide
  have hnumber : String.ofList (collectionId.toList.dropWhile (· ≠ '_')).tail = number := by
    rw [htext, Separators.dropWhile_append hnone, List.tail_cons, String.ofList_toList]
  unfold uploadFile
  rw [if_neg (Option.some_ne_none proxy), hcontents]
  dsimp only
  rw [hfield]
  dsimp only
  rw [if_neg haccepted, hnumber]
  exact ⟨_, rfl, rfl⟩

theorem refuses_upload (hrequest : UploadsTo request collectionId)
    (h : ¬ ∃ key number, IsCollectionId collectionId key number) :
    Refuses (uploadFile md5 (some proxy) request).answer := by
  obtain ⟨⟨contents, hcontents⟩, hfield⟩ := hrequest
  have hrefused :
      (!hasPrefix collectionId ALBUM_PREFIX || decide ('_' ∉ collectionId.toList)) = true := by
    cases hstart : hasPrefix collectionId ALBUM_PREFIX with
    | false => rfl
    | true =>
      have hmem := mt (mem_afterPrefix_iff hstart).2 (not_mem_of_not_isCollectionId h hstart)
      rw [decide_eq_true hmem]
      rfl
  unfold uploadFile
  rw [if_neg (Option.some_ne_none proxy), hcontents]
  dsimp only
  rw [hfield]
  dsimp only
  rw [if_pos hrefused]
  exact fun _ => nofun

/-! ## The details -/

theorem getDetails_of_isCollectionId (h : IsCollectionId collectionId key number) :
    (collectionsGetDetails .live collectionId).answer =
      .asked ⟨none, [("method", some "smugmug.albums.getInfo"), ("AlbumID", some number),
        ("AlbumKey", some key)], false⟩ := by
  obtain ⟨hstart, htext⟩ := afterPrefix_of_isCollectionId h
  have hmem : '_' ∈ (afterPrefix collectionId ALBUM_PREFIX).toList := by
    rw [htext]
    exact List.mem_append_right _ List.mem_cons_self
  have hne : afterPrefix collectionId ALBUM_PREFIX ≠ "" := by
    rintro heq
    rw [heq] at hmem
    cases hmem
  have hsplit : gStrsplit (afterPrefix collectionId ALBUM_PREFIX) = [key, number] := by
    rw [gStrsplit, if_neg hne, if_pos hmem, htext, Separators.takeWhile_append h.noUnderscore,
      Separators.dropWhile_append h.noUnderscore, List.tail_cons, String.ofList_toList,
      String.ofList_toList]
  unfold collectionsGetDetails
  rw [if_neg (by decide), hstart, if_neg (by decide), hsplit]
  rfl

theorem refuses_getDetails (h : ¬ ∃ key number, IsCollectionId collectionId key number) :
    Refuses (collectionsGetDetails .live collectionId).answer := by
  unfold collectionsGetDetails
  rw [if_neg (by decide)]
  cases hstart : hasPrefix collectionId ALBUM_PREFIX with
  | false => exact fun _ => nofun
  | true =>
    rcases gStrsplit_cases (afterPrefix collectionId ALBUM_PREFIX) with
      ⟨_, _, _, hmem⟩ | ⟨hsplit, -⟩
    · exact absurd hmem (not_mem_of_not_isCollectionId h hstart)
    · rw [if_neg (by decide)]
      rcases hsplit with hsplit | hsplit <;> rw [hsplit] <;> exact fun _ => nofun

/-! ## The main result -/

/-- What the service puts together is a collection id. -/
theorem isCollectionId_of_built {album : XmlNode} (hkey : album.attr "Key" = some key)
    (hkeyUnderscore : '_' ∉ key.toList) (hnumber : album.attr "id" = some number)
    (h : Built album collectionId) : IsCollectionId collectionId key number := by
  have halbum : IsCollectionId (albumId album) key number := by
    refine ⟨hkeyUnderscore, ?_⟩
    rw [albumId, hkey, hnumber]
    rfl
  cases h with
  | details => exact halbum
  | created hroot hfound hcreated =>
    rw [createAlbumCb, hroot] at hcreated
    dsimp only at hcreated
    rw [hfound] at hcreated
    injection hcreated with hcreated
    injection hcreated with hcreated
    injection hcreated with hcreated
    exact hcreated ▸ halbum

/-- **The encoding of album ids agrees with both decoders**, and the decoders agree on every
string. -/
theorem albumIds_agree (md5 : List UInt8 → String) (proxy : Nat) :
    (∀ album key number collectionId, album.attr "Key" = some key → '_' ∉ key.toList →
      album.attr "id" = some number → Built album collectionId →
        (∀ request, UploadsTo request collectionId →
          SendsAlbumId number (uploadFile md5 (some proxy) request).answer) ∧
        ∃ request, (collectionsGetDetails .live collectionId).answer = .asked request ∧
          request.params.lookup "AlbumID" = some (some number) ∧
          request.params.lookup "AlbumKey" = some (some key)) ∧
    ∀ collectionId request, UploadsTo request collectionId →
      (∃ number, SendsAlbumId number (uploadFile md5 (some proxy) request).answer ∧
        SendsAlbumId number (collectionsGetDetails .live collectionId).answer) ∨
      Refuses (uploadFile md5 (some proxy) request).answer ∧
        Refuses (collectionsGetDetails .live collectionId).answer := by
  refine ⟨?_, ?_⟩
  · intro album key number collectionId hkey hkeyUnderscore hnumber hbuilt
    have hid := isCollectionId_of_built hkey hkeyUnderscore hnumber hbuilt
    refine ⟨fun request hrequest => sendsAlbumId_upload hrequest hid, ?_⟩
    exact ⟨_, getDetails_of_isCollectionId hid, rfl, rfl⟩
  · intro collectionId request hrequest
    by_cases hid : ∃ key number, IsCollectionId collectionId key number
    · obtain ⟨key, number, hid⟩ := hid
      refine Or.inl ⟨number, sendsAlbumId_upload hrequest hid, ?_⟩
      exact ⟨_, getDetails_of_isCollectionId hid, rfl⟩
    · exact Or.inr ⟨refuses_upload hrequest hid, refuses_getDetails hid⟩

/-- The album `7` with the key `K`, and an upload to it. -/
theorem albumIds_agree_seven :
    SendsAlbumId "7" (uploadFile (fun _ => "") (some 0)
      ⟨"a.jpg", .ok [], [("collection", "smugmug-K_7")]⟩).answer ∧
    ∃ request, (collectionsGetDetails .live "smugmug-K_7").answer = .asked request ∧
      request.params.lookup "AlbumID" = some (some "7") ∧
      request.params.lookup "AlbumKey" = some (some "K") := by
  have hagree := (albumIds_agree (fun _ => "") 0).1
    ⟨"Album", none, [("id", "7"), ("Key", "K")], [], []⟩ "K" "7" "smugmug-K_7" rfl (by decide) rfl
    .details
  exact ⟨hagree.1 _ ⟨⟨[], rfl⟩, rfl⟩, hagree.2⟩

end Smugmug

end LibSocialWeb
