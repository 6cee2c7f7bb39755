import LibSocialWeb.Service.CollectionIds
import LibSocialWeb.Vimeo.Albums

/-!
# Collection ids at Vimeo (`services/vimeo/vimeo.c`)

Vimeo has no method for one album, so `GetDetails` asks for all albums and looks for the one with
the number in the id. The number is where `ALBUM_PREFIX` ends; neither `GetDetails` nor an upload
looks whether the id begins with it. The ids that the service makes itself, of placeholders and of
the albums behind them, do.

**Main result.** `stripped_reply`: when the ids of all uploads have the prefix, the album step sends
the number in the id, or in the id of the album behind the placeholder.
-/

namespace LibSocialWeb

/-! ## The details of an album -/

namespace Vimeo

/-- `get_child_contents` -/
def getChildContents (root : XmlNode) (elementName : String) : Option String :=
  (root.find elementName).bind (·.content)

/-- `node_from_call`; `none` is the end of the process at a NULL node. -/
def nodeFromCall (libs : NullHandling) (call : RestProxyCall XmlNode) :
    Option (Except String XmlNode) :=
  if !call.isSuccessful then
    some (.error ("HTTP error: " ++ call.statusMessage ++ " (" ++ toString call.statusCode ++ ")"))
  else
    match call.parsed with
    | none => if libs.find && libs.unref then some (.error "remote Vimeo error: unknown") else none
    | some node =>
      if node.name = "rsp" ∧ node.attr "stat" ≠ some "ok" then
        some (.error ("remote Vimeo error: " ++
          match node.find "err" with
          | some err => printed (err.attr "msg")
          | none => "unknown"))
      else some (.ok node)

/-- `_extract_collection_details_from_xml` -/
def extractCollectionDetailsFromXml (album : XmlNode) : CollectionDetails where
  id := ALBUM_PREFIX ++ printed (getChildContents album "id")
  title := getChildContents album "title"
  parent := ""
  mediaTypes := VIDEO
  count := asGint (((getChildContents album "total_videos").map gAsciiStrtoll).getD 0)
  attribs := [("description", getChildContents album "description"),
    ("url", getChildContents album "url"),
    ("x-vimeo-created-on", getChildContents album "created_on"),
    ("x-vimeo-last-modified", getChildContents album "last_modified"),
    ("x-vimeo-thumbnail-small", getChildContents album "thumbnail_small"),
    ("x-vimeo-thumbnail-medium", getChildContents album "thumbnail_medium"),
    ("x-vimeo-thumbnail-large", getChildContents album "thumbnail_large")]

/-- `_create_collection_details_from_placeholder` -/
def createCollectionDetailsFromPlaceholder (placeholderId : String)
    (placeholder : VimeoAlbumPlaceholder) : CollectionDetails where
  id := placeholderId
  title := some placeholder.title
  parent := ""
  mediaTypes := VIDEO
  count := 0
  attribs := [("description", placeholder.description)]

/-- What ends the process: a pointer past the end of an id, an album without an id, or a NULL
node. -/
inductive IdFault where
  | pastEnd
  | noId
  | nullNode
  deriving DecidableEq

/-- `album_id + strlen (ALBUM_PREFIX)` -/
def albumNumber (albumId : String) : Except IdFault String :=
  if ALBUM_PREFIX.utf8ByteSize ≤ albumId.utf8ByteSize then .ok (afterPrefix albumId ALBUM_PREFIX)
  else .error .pastEnd

/-- The loop of `_get_album_details_cb` -/
def lookForAlbum (albumId : String) : List XmlNode → Except IdFault (Option CollectionDetails)
  | [] => .ok none
  | album :: rest =>
    match album.find "id" with
    | none => .error .noId
    | some idNode =>
      match albumNumber albumId with
      | .error fault => .error fault
      | .ok number =>
        if idNode.content = some number then .ok (some (extractCollectionDetailsFromXml album))
        else lookForAlbum albumId rest

/-- `_get_album_details_cb`; `albumId` is in the user data. -/
def getAlbumDetailsCb (libs : NullHandling) (albumId : String) (error : Option String)
    (call : RestProxyCall XmlNode) : Except IdFault (List CollectionsReply) :=
  match error with
  | some message => .ok [.error ("rest call failed: " ++ message)]
  | none =>
    match nodeFromCall libs call with
    | none => .error .nullNode
    | some (.error message) => .ok [.error message]
    | some (.ok root) =>
      match lookForAlbum albumId (root.findAll "album") with
      | .error fault => .error fault
      | .ok none => .ok [.error ("Album id '" ++ albumId ++ "' not found")]
      | .ok (some details) => .ok [.details (some details)]

/-- The call of `GetDetails`. -/
def askForAlbums (libs : NullHandling) (albumId : String) : Began XmlNode :=
  .called ⟨some "albums.xml", [], false⟩ fun error call =>
    (getAlbumDetailsCb libs albumId error call).toOption

/-- `_vimeo_collections_get_details` -/
def collectionsGetDetails (libs : NullHandling)
    (placeholders : AList fun _ : String => VimeoAlbumPlaceholder) (hasSimpleProxy : Bool)
    (collectionId : String) : Began XmlNode :=
  if !hasSimpleProxy then .over (some [])
  else
    match placeholders.lookup collectionId with
    | none => askForAlbums libs collectionId
    | some placeholder =>
      match placeholder.realId with
      | none =>
        .over (some [.details
          (some (createCollectionDetailsFromPlaceholder collectionId placeholder))])
      | some realId => askForAlbums libs realId

/-- The album id in the user data of the call, if there is one. -/
def albumOpCtx (placeholders : AList fun _ : String => VimeoAlbumPlaceholder)
    (hasSimpleProxy : Bool) (collectionId : String) : Option String :=
  if !hasSimpleProxy then none
  else
    match placeholders.lookup collectionId with
    | none => some collectionId
    | some placeholder => placeholder.realId

/-- An id with the prefix is long enough. -/
theorem lookForAlbum_ne_pastEnd {albumId : String} (hid : hasPrefix albumId ALBUM_PREFIX = true)
    (albums : List XmlNode) : lookForAlbum albumId albums ≠ .error .pastEnd := by
  have hnumber : ∃ number, albumNumber albumId = .ok number := by
    obtain ⟨rest, heq⟩ := hasPrefix_iff.1 hid
    exact ⟨_, if_pos (stripped_of_eq heq).inside⟩
  obtain ⟨number, hnumber⟩ := hnumber
  induction albums with
  | nil => exact nofun
  | cons album rest ih =>
    unfold lookForAlbum
    cases album.find "id" with
    | none => exact nofun
    | some idNode =>
      rw [hnumber]
      dsimp only
      split_ifs
      · exact nofun
      · exact ih

theorem getAlbumDetailsCb_ne_pastEnd (libs : NullHandling) {albumId : String}
    (hid : hasPrefix albumId ALBUM_PREFIX = true) (error : Option String)
    (call : RestProxyCall XmlNode) :
    getAlbumDetailsCb libs albumId error call ≠ .error .pastEnd := by
  unfold getAlbumDetailsCb
  cases error with
  | some message => exact nofun
  | none =>
    cases nodeFromCall libs call with
    | none => exact nofun
    | some result =>
      cases result with
      | error message => exact nofun
      | ok root =>
        dsimp only
        cases hfound : lookForAlbum albumId (root.findAll "album") with
        | error fault =>
          intro heq
          obtain rfl := Except.error.inj heq
          exact lookForAlbum_ne_pastEnd hid _ hfound
        | ok details => cases details <;> exact nofun

/-- What `_vimeo_upload_video` leads to: the error of the file, or the first call of the chain. -/
def uploadAnswer (file : Except String Nat) : Answer :=
  match file with
  | .error message => .error message
  | .ok _ => .asked ⟨some "api/rest/v2", [("method", some "vimeo.videos.upload.getQuota")], false⟩

end Vimeo

/-! ## The album step -/

namespace SwServiceVimeo

/-- The id that `_add_video_to_album` strips: that of the collection, or of the album behind it. -/
def strippedId (s : SwServiceVimeo) (collectionId : String) : String :=
  (s.realIdOf collectionId).getD collectionId

/-- The calls that the reply to a call leads to. -/
def callsAfter (libs : NullHandling) (s : SwServiceVimeo) (i : Nat) (reply : RestReply) :
    List VimeoCall :=
  (s.handle libs (.reply i reply)).calls.drop (s.calls.eraseIdx i).length

/-- What a reply leads to: calls for the same collection, which send the stripped id if they are for
an album. The placeholder of the collection may get an album. -/
structure Follows (s t : SwServiceVimeo) (collectionId : Option String) (new : List VimeoCall) :
    Prop where
  calls : t.calls = s.calls ++ new
  placeholders : t.albumPlaceholders = s.albumPlaceholders ∨ ∃ albumId,
    t.albumPlaceholders = setRealId collectionId (ALBUM_PREFIX ++ albumId) s.albumPlaceholders
  collection : ∀ d ∈ new, d.ctx.collectionId = collectionId
  album : ∀ d ∈ new, ∀ albumId, d.method = .addVideo albumId → ∀ id, collectionId = some id →
    albumId = stripPrefix (s.strippedId id)

variable {libs : NullHandling} {s : SwServiceVimeo}

theorem follows_none {t : SwServiceVimeo} (collectionId : Option String)
    (hcalls : t.calls = s.calls) (hplaceholders : t.albumPlaceholders = s.albumPlaceholders) :
    ∃ new, s.Follows t collectionId new :=
  ⟨[], hcalls.trans (List.append_nil _).symm, Or.inl hplaceholders, List.forall_mem_nil _,
    List.forall_mem_nil _⟩

theorem follows_simpleRestAsyncRun {method : VimeoMethod} {ctx : VimeoUploadCtx}
    (halbum : ∀ albumId, method = .addVideo albumId → ∀ id, ctx.collectionId = some id →
      albumId = stripPrefix (s.strippedId id)) :
    ∃ new, s.Follows (s.simpleRestAsyncRun libs method ctx) ctx.collectionId new := by
  rcases simpleRestAsyncRun_cases libs method ctx s with heq | heq
  · rw [heq]
    exact follows_none _ rfl rfl
  · rw [heq]
    exact ⟨[⟨method, ctx⟩], rfl, Or.inl rfl, List.forall_mem_singleton.2 rfl,
      List.forall_mem_singleton.2 halbum⟩

theorem follows_addVideoToAlbum (ctx : VimeoUploadCtx) :
    ∃ new, s.Follows (s.addVideoToAlbum libs ctx) ctx.collectionId new := by
  unfold addVideoToAlbum
  cases hid : ctx.collectionId with
  | none => exact follows_none _ rfl rfl
  | some id =>
    -- What is sent is the id that was stripped.
    have hsent : ∀ stripped, s.strippedId id = stripped →
        ∃ new, s.Follows (s.simpleRestAsyncRun libs (.addVideo (stripPrefix stripped)) ctx)
          (some id) new := by
      intro stripped hstripped
      rw [← hid]
      refine follows_simpleRestAsyncRun fun albumId hm id' hid' => ?_
      obtain rfl := Option.some.inj (hid.symm.trans hid')
      rw [hstripped]
      exact (VimeoMethod.addVideo.inj hm).symm
    dsimp only
    cases hlookup : s.albumPlaceholders.lookup id with
    | none =>
      refine hsent id ?_
      rw [strippedId, realIdOf, hlookup]
      rfl
    | some placeholder =>
      dsimp only
      cases hreal : placeholder.realId with
      | some realId =>
        refine hsent realId ?_
        rw [strippedId, realIdOf, hlookup, Option.bind_some, hreal]
        rfl
      | none =>
        dsimp only
        split
        · exact follows_none _ rfl rfl
        · refine ⟨[⟨.createAlbum placeholder.title placeholder.description, ctx⟩], rfl, Or.inl rfl,
            List.forall_mem_singleton.2 hid, List.forall_mem_singleton.2 ?_⟩
          intro albumId hm
          cases hm

theorem follows_outcome {c : VimeoCall} {reply : RestReply} {t : SwServiceVimeo}
    (h : Outcome libs s c reply t) : ∃ new, s.Follows t c.ctx.collectionId new := by
  cases h with
  | ended => exact follows_none _ rfl rfl
  | failed ctx message => exact follows_none _ rfl rfl
  | passed method ctx hplain hsame =>
    rw [← hsame.collectionId]
    refine follows_simpleRestAsyncRun ?_
    rintro albumId rfl
    cases hplain
  | album ctx hsame => exact hsame.collectionId ▸ follows_addVideoToAlbum ctx
  | completed ctx => exact follows_none _ rfl rfl
  | added albumId => exact follows_none _ rfl rfl

theorem follows_createAlbumCb (call : RestReply) (ctx : VimeoUploadCtx) :
    ∃ new, s.Follows (s.createAlbumCb libs call ctx) ctx.collectionId new := by
  unfold createAlbumCb
  split
  · exact follows_none _ rfl rfl
  · exact follows_none _ rfl rfl
  · split
    · exact follows_none _ rfl rfl
    · exact ⟨[], (List.append_nil _).symm, Or.inr ⟨_, rfl⟩, List.forall_mem_nil _,
        List.forall_mem_nil _⟩

/-- The reply to a call. -/
theorem follows_reply {i : Nat} {c : VimeoCall} (hi : s.calls[i]? = some c) (reply : RestReply) :
    ∃ new, { s with calls := s.calls.eraseIdx i }.Follows (s.handle libs (.reply i reply))
      c.ctx.collectionId new := by
  have hhandle : s.handle libs (.reply i reply) =
      onReply libs c reply { s with calls := s.calls.eraseIdx i } := by
    rw [handle, hi]
  rw [hhandle]
  by_cases hcreate : ∃ title description, c.method = .createAlbum title description
  · obtain ⟨title, description, hm⟩ := hcreate
    rw [onReply, hm]
    exact follows_createAlbumCb reply c.ctx
  · have houtcome : Outcome libs { s with calls := s.calls.eraseIdx i } c reply
        (onReply libs c reply { s with calls := s.calls.eraseIdx i }) :=
      outcome_onReply fun title description hm => hcreate ⟨title, description, hm⟩
    exact follows_outcome houtcome

/-! ## The ids of the service -/

/-- The ids of placeholders, of the albums behind them and of the uploads in progress have the
prefix. -/
structure IdsPrefixed (s : SwServiceVimeo) : Prop where
  placeholders : ∀ id placeholder, s.albumPlaceholders.lookup id = some placeholder →
    hasPrefix id ALBUM_PREFIX = true ∧
      ∀ realId, placeholder.realId = some realId → hasPrefix realId ALBUM_PREFIX = true
  calls : ∀ c ∈ s.calls, ∀ id, c.ctx.collectionId = some id → hasPrefix id ALBUM_PREFIX = true

theorem idsPrefixed_init : init.IdsPrefixed where
  placeholders id placeholder hlookup := by cases hlookup
  calls := List.forall_mem_nil _

/-- The id of an upload in progress, and the id of the album behind it. -/
theorem IdsPrefixed.strippedId (hs : s.IdsPrefixed) {id : String}
    (hid : hasPrefix id ALBUM_PREFIX = true) :
    hasPrefix (s.strippedId id) ALBUM_PREFIX = true := by
  unfold SwServiceVimeo.strippedId realIdOf
  cases hlookup : s.albumPlaceholders.lookup id with
  | none => exact hid
  | some placeholder =>
    rw [Option.bind_some]
    cases hreal : placeholder.realId with
    | none => exact hid
    | some realId => exact (hs.placeholders id placeholder hlookup).2 realId hreal

theorem IdsPrefixed.of_insert (hs : s.IdsPrefixed) {t : SwServiceVimeo} {id : String}
    {placeholder : VimeoAlbumPlaceholder}
    (hinsert : t.albumPlaceholders = s.albumPlaceholders.insert id placeholder)
    (hid : hasPrefix id ALBUM_PREFIX = true)
    (hreal : ∀ realId, placeholder.realId = some realId → hasPrefix realId ALBUM_PREFIX = true)
    (hcalls : ∀ c ∈ t.calls, ∀ id, c.ctx.collectionId = some id →
      hasPrefix id ALBUM_PREFIX = true) : t.IdsPrefixed where
  placeholders := by
    intro id' placeholder' hlookup
    rw [hinsert] at hlookup
    by_cases heq : id' = id
    · subst heq
      rw [AList.lookup_insert] at hlookup
      obtain rfl := Option.some.inj hlookup
      exact ⟨hid, hreal⟩
    · rw [AList.lookup_insert_ne heq] at hlookup
      exact hs.placeholders id' placeholder' hlookup
  calls := hcalls

theorem hasPrefix_append (rest : String) :
    hasPrefix (ALBUM_PREFIX ++ rest) ALBUM_PREFIX = true :=
  hasPrefix_iff.2 ⟨rest, rfl⟩

theorem idsPrefixed_follows {t : SwServiceVimeo} {collectionId : Option String}
    {new : List VimeoCall} (hs : s.IdsPrefixed) (h : s.Follows t collectionId new)
    (hid : ∀ id, collectionId = some id → hasPrefix id ALBUM_PREFIX = true) : t.IdsPrefixed := by
  have hcalls : ∀ c ∈ t.calls, ∀ id, c.ctx.collectionId = some id →
      hasPrefix id ALBUM_PREFIX = true := by
    intro c hc id heq
    rw [h.calls] at hc
    rcases List.mem_append.1 hc with hc | hc
    · exact hs.calls c hc id heq
    · exact hid id ((h.collection c hc).symm.trans heq)
  have hsame : t.albumPlaceholders = s.albumPlaceholders → t.IdsPrefixed := fun heq =>
    ⟨heq ▸ hs.placeholders, hcalls⟩
  rcases h.placeholders with heq | ⟨albumId, heq⟩
  · exact hsame heq
  · unfold setRealId at heq
    cases hcollection : collectionId with
    | none =>
      rw [hcollection] at heq
      exact hsame heq
    | some id =>
      rw [hcollection] at heq
      dsimp only at heq
      cases hlookup : s.albumPlaceholders.lookup id with
      | none =>
        rw [hlookup] at heq
        exact hsame heq
      | some placeholder =>
        rw [hlookup] at heq
        refine hs.of_insert heq (hid id hcollection) ?_ hcalls
        intro realId hreal
        obtain rfl := Option.some.inj hreal
        exact hasPrefix_append albumId

theorem idsPrefixed_eraseIdx (hs : s.IdsPrefixed) (i : Nat) :
    IdsPrefixed { s with calls := s.calls.eraseIdx i } :=
  ⟨hs.placeholders, fun c hc => hs.calls c (List.mem_of_mem_eraseIdx hc)⟩

theorem idsPrefixed_reply (hs : s.IdsPrefixed) (i : Nat) (reply : RestReply) :
    (s.handle libs (.reply i reply)).IdsPrefixed := by
  cases hi : s.calls[i]? with
  | none =>
    rw [handle, hi]
    exact hs
  | some c =>
    obtain ⟨new, hnew⟩ := follows_reply hi reply
    exact idsPrefixed_follows (idsPrefixed_eraseIdx hs i) hnew
      (hs.calls c (List.mem_of_getElem? hi))

theorem idsPrefixed_collectionsCreate (hs : s.IdsPrefixed) (random : Nat) (collectionName : String)
    (description : Option String) :
    (s.collectionsCreate random collectionName description).IdsPrefixed := by
  refine hs.of_insert rfl ?_ nofun hs.calls
  rw [placeholderId, String.append_assoc]
  exact hasPrefix_append _

theorem idsPrefixed_uploadVideo (hs : s.IdsPrefixed) {file : Except String Nat}
    {title description collection : Option String}
    (hok : ∀ id, collection = some id → file.isOk = true → hasPrefix id ALBUM_PREFIX = true) :
    (s.uploadVideo libs file title description collection).IdsPrefixed := by
  cases file with
  | error message => exact hs
  | ok fileLength =>
    refine ⟨hs.placeholders, ?_⟩
    intro c hc id hid
    rcases List.mem_append.1 hc with hc | hc
    · exact hs.calls c hc id hid
    · obtain rfl := List.mem_singleton.1 hc
      exact hok id hid rfl

/-- The album step strips an id that has the prefix. -/
theorem stripped_reply (hs : s.IdsPrefixed) {i : Nat} {reply : RestReply} {d : VimeoCall}
    (hd : d ∈ s.callsAfter libs i reply) {albumId : String} (hm : d.method = .addVideo albumId)
    {id : String} (hid : d.ctx.collectionId = some id) :
    Stripped ALBUM_PREFIX (s.strippedId id) albumId := by
  unfold callsAfter at hd
  cases hi : s.calls[i]? with
  | none =>
    rw [handle, hi, List.eraseIdx_of_length_le (List.getElem?_eq_none_iff.1 hi),
      List.drop_length] at hd
    exact absurd hd List.not_mem_nil
  | some c =>
    obtain ⟨new, hnew⟩ := follows_reply hi reply
    have hcalls : (s.handle libs (.reply i reply)).calls = s.calls.eraseIdx i ++ new := hnew.calls
    rw [hcalls, List.drop_left] at hd
    have hcollection : c.ctx.collectionId = some id := (hnew.collection d hd).symm.trans hid
    have halbum : albumId = stripPrefix (s.strippedId id) :=
      hnew.album d hd albumId hm id hcollection
    obtain ⟨rest, hrest⟩ := hasPrefix_iff.1 (hs.strippedId
      (hs.calls c (List.mem_of_getElem? hi) id hcollection))
    refine stripped_of_eq ?_
    rw [halbum, hrest, stripPrefix_append]

end SwServiceVimeo

end LibSocialWeb
