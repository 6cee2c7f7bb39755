import LibSocialWeb.Service.Collections
import Mathlib.Tactic.SplitIfs

/-!
# The collections of SmugMug (`services/smugmug/smugmug.c`)

`rest_proxy` is NULL until the keyring has returned tokens. `got_tokens_cb` releases it without
setting it to NULL, so that it points to an object that is gone when no tokens are found later.

A method without a proxy returns without a reply, and so does `GetDetails` for a collection id
without an underscore. The callbacks of `Create` and `GetDetails` read the attributes of the album
in the reply without a check that there is one.

**Main result.** `answersOnce_iff`: a method call gets exactly one reply exactly when it is
`CollectionsOk`.
-/

namespace LibSocialWeb

namespace Smugmug

def ALBUM_PREFIX : String := "smugmug-"

/-- What `rest_proxy` points to. -/
inductive RestProxyPointer where
  | null
  | live
  | released
  deriving DecidableEq, Repr

/-- `node_from_call` -/
def nodeFromCall (call : RestProxyCall XmlNode) : Except String XmlNode :=
  match call.acceptedRoot fun node => node.name == "rsp" with
  | .error message => .error message
  | .ok node =>
    if node.attr "stat" = some "ok" then .ok node
    else
      .error ("remote SmugMug error: " ++
        match node.find "err" with
        | some err => printed (err.attr "msg")
        | none => "unknown")

/-- What every callback starts with: the error of the call, then `node_from_call`. -/
def rootFromCall (error : Option String) (call : RestProxyCall XmlNode) : Except String XmlNode :=
  match error with
  | some message => .error ("rest call failed: " ++ message)
  | none => nodeFromCall call

/-- The id of an album: its key and its number. -/
def albumId (album : XmlNode) : String :=
  ALBUM_PREFIX ++ printed (album.attr "Key") ++ "_" ++ printed (album.attr "id")

/-- `_extract_collection_details_from_xml` -/
def extractCollectionDetailsFromXml (album : XmlNode) : CollectionDetails where
  id := albumId album
  title := album.attr "Title"
  parent := ""
  mediaTypes := PHOTO + VIDEO
  count :=
    match album.attr "ImageCount" with
    | some countString => asGint (gAsciiStrtoll countString)
    | none => 0
  attribs := [("description", album.attr "Description"), ("url", album.attr "URL")]

/-- `_list_albums_cb` -/
def listAlbumsCb (error : Option String) (call : RestProxyCall XmlNode) : Outcome :=
  match rootFromCall error call with
  | .error message => some [.error message]
  | .ok root =>
    some [.list ((root.findAll "Album").map (some ∘ extractCollectionDetailsFromXml))]

/-- `_create_album_cb` -/
def createAlbumCb (error : Option String) (call : RestProxyCall XmlNode) : Outcome :=
  match rootFromCall error call with
  | .error message => some [.error message]
  | .ok root =>
    match root.find "Album" with
    | none => none
    | some album => some [.created (albumId album)]

/-- `_get_album_details_cb` -/
def getAlbumDetailsCb (error : Option String) (call : RestProxyCall XmlNode) : Outcome :=
  match rootFromCall error call with
  | .error message => some [.error message]
  | .ok root =>
    match root.find "Album" with
    | none => none
    | some album => some [.details (some (extractCollectionDetailsFromXml album))]

/-- `g_strsplit` at underscores, in at most two parts. -/
def gStrsplit (s : String) : List String :=
  if s = "" then []
  else if '_' ∈ s.toList then
    [String.ofList (s.toList.takeWhile (· ≠ '_')),
      String.ofList (s.toList.dropWhile (· ≠ '_')).tail]
  else [s]

/-! ## The methods -/

/-- `rest_proxy_new_call`, and the call that follows; the proxy is not NULL. -/
def newCall (restProxy : RestProxyPointer) (request : RestRequest)
    (callback : Option String → RestProxyCall XmlNode → Outcome) : Began XmlNode :=
  if restProxy = .live then .called request callback else .over none

/-- `_smugmug_collections_get_list` -/
def collectionsGetList (restProxy : RestProxyPointer) : Began XmlNode :=
  if restProxy = .null then .over (some [])
  else
    newCall restProxy
      ⟨none, [("method", some "smugmug.albums.get"), ("Extras", some "Description,URL,ImageCount")],
        false⟩
      listAlbumsCb

/-- `_smugmug_collections_create` -/
def collectionsCreate (restProxy : RestProxyPointer) (collectionName collectionParent : String) :
    Began XmlNode :=
  if restProxy = .null then .over (some [])
  else if collectionParent ≠ "" then
    .over (some [.error "SmugMug does not support nested albums."])
  else
    newCall restProxy
      ⟨none, [("method", some "smugmug.albums.create"), ("Title", some collectionName)], true⟩
      createAlbumCb

/-- `_smugmug_collections_get_details` -/
def collectionsGetDetails (restProxy : RestProxyPointer) (collectionId : String) : Began XmlNode :=
  if restProxy = .null then .over (some [])
  else if !hasPrefix collectionId ALBUM_PREFIX then
    .over (some [.error ("SmugMug collection ID (" ++ collectionId ++ ") must start with '" ++
      ALBUM_PREFIX ++ "'")])
  else
    match gStrsplit (afterPrefix collectionId ALBUM_PREFIX) with
    | [albumKey, albumNumber] =>
      newCall restProxy
        ⟨none, [("method", some "smugmug.albums.getInfo"), ("AlbumID", some albumNumber),
          ("AlbumKey", some albumKey)], false⟩
        getAlbumDetailsCb
    -- A warning in the log, and no reply.
    | _ => .over (some [])

/-- The methods of the interface. -/
def collections (restProxy : RestProxyPointer) : CollectionsMethod → Began XmlNode
  | .getList => collectionsGetList restProxy
  | .getDetails collectionId => collectionsGetDetails restProxy collectionId
  | .create name _ parent _ => collectionsCreate restProxy name parent

/-! ## One reply -/

variable {restProxy : RestProxyPointer} {error : Option String} {call : RestProxyCall XmlNode}

/-- The document of a reply that is no error has an album. -/
def HasAlbum (error : Option String) (call : RestProxyCall XmlNode) : Prop :=
  ∀ root, rootFromCall error call = .ok root → (root.find "Album").isSome

/-- The method calls that get one reply. There is a proxy. When it is used it is not one that was
released; the id of a collection then has an underscore, and the reply to a call for one album has
an album. -/
def CollectionsOk (restProxy : RestProxyPointer) (method : CollectionsMethod)
    (error : Option String) (call : RestProxyCall XmlNode) : Prop :=
  restProxy ≠ .null ∧
    match method with
    | .getList => restProxy = .live
    | .getDetails collectionId => hasPrefix collectionId ALBUM_PREFIX →
        '_' ∈ (afterPrefix collectionId ALBUM_PREFIX).toList ∧ restProxy = .live ∧
          HasAlbum error call
    | .create _ _ parent _ => parent = "" → restProxy = .live ∧ HasAlbum error call

theorem answersOnce_listAlbumsCb (error : Option String) (call : RestProxyCall XmlNode) :
    AnswersOnce (listAlbumsCb error call) := by
  unfold listAlbumsCb
  cases rootFromCall error call <;> exact answersOnce_one _

/-- The callbacks for one album answer unless there is none. -/
theorem answersOnce_album_iff (reply : XmlNode → CollectionsReply) :
    AnswersOnce (match rootFromCall error call with
      | .error message => some [.error message]
      | .ok root =>
        match root.find "Album" with
        | none => none
        | some album => some [reply album]) ↔ HasAlbum error call := by
  unfold HasAlbum
  cases rootFromCall error call with
  | error message => exact iff_of_true (answersOnce_one _) (by simp)
  | ok root =>
    dsimp only
    cases halbum : root.find "Album" with
    | none =>
      refine iff_of_false not_answersOnce_none fun h => ?_
      simp [halbum] at h
    | some album =>
      refine iff_of_true (answersOnce_one _) fun root' h => ?_
      obtain rfl := Except.ok.inj h
      simp [halbum]

theorem answersOnce_createAlbumCb_iff :
    AnswersOnce (createAlbumCb error call) ↔ HasAlbum error call :=
  answersOnce_album_iff fun album => .created (albumId album)

theorem answersOnce_getAlbumDetailsCb_iff :
    AnswersOnce (getAlbumDetailsCb error call) ↔ HasAlbum error call :=
  answersOnce_album_iff fun album => .details (some (extractCollectionDetailsFromXml album))

theorem answersOnce_newCall_iff {request : RestRequest}
    {callback : Option String → RestProxyCall XmlNode → Outcome} :
    AnswersOnce ((newCall restProxy request callback).outcome error call) ↔
      restProxy = .live ∧ AnswersOnce (callback error call) := by
  unfold newCall
  split_ifs with h <;> simp [Began.outcome, h]

theorem answersOnce_getList_iff :
    AnswersOnce ((collectionsGetList restProxy).outcome error call) ↔ restProxy = .live := by
  unfold collectionsGetList
  split_ifs with hnull
  · simp [Began.outcome, hnull]
  · rw [answersOnce_newCall_iff]
    exact and_iff_left (answersOnce_listAlbumsCb error call)

theorem answersOnce_create_iff {name parent : String} :
    AnswersOnce ((collectionsCreate restProxy name parent).outcome error call) ↔
      restProxy ≠ .null ∧ (parent = "" → restProxy = .live ∧ HasAlbum error call) := by
  unfold collectionsCreate
  split_ifs with hnull hparent
  · simp [Began.outcome, hnull]
  · simp [Began.outcome, hnull, hparent]
  · have hempty : parent = "" := Decidable.not_not.1 hparent
    rw [answersOnce_newCall_iff, answersOnce_createAlbumCb_iff]
    simp [hnull, hempty]

/-- A text without an underscore is not split. -/
theorem gStrsplit_cases (s : String) :
    (∃ key number, gStrsplit s = [key, number] ∧ '_' ∈ s.toList) ∨
      ((gStrsplit s = [] ∨ gStrsplit s = [s]) ∧ '_' ∉ s.toList) := by
  unfold gStrsplit
  split_ifs with hempty hmem
  · subst hempty
    exact .inr ⟨.inl rfl, by simp⟩
  · exact .inl ⟨_, _, rfl, hmem⟩
  · exact .inr ⟨.inr rfl, hmem⟩

theorem answersOnce_getDetails_iff {collectionId : String} :
    AnswersOnce ((collectionsGetDetails restProxy collectionId).outcome error call) ↔
      restProxy ≠ .null ∧ (hasPrefix collectionId ALBUM_PREFIX →
        '_' ∈ (afterPrefix collectionId ALBUM_PREFIX).toList ∧ restProxy = .live ∧
          HasAlbum error call) := by
  unfold collectionsGetDetails
  split_ifs with hnull hprefix
  · simp [Began.outcome, hnull]
  · simp only [Bool.not_eq_true'] at hprefix
    simp [Began.outcome, hnull, hprefix]
  · simp only [Bool.not_eq_true', Bool.not_eq_false] at hprefix
    rcases gStrsplit_cases (afterPrefix collectionId ALBUM_PREFIX) with
      ⟨key, number, hsplit, hmem⟩ | ⟨hsplit, hmem⟩
    · rw [hsplit]
      dsimp only
      rw [answersOnce_newCall_iff, answersOnce_getAlbumDetailsCb_iff]
      simp [hnull, hprefix, hmem]
    · have hnoReply : ¬ '_' ∈ (afterPrefix collectionId ALBUM_PREFIX).toList := hmem
      rcases hsplit with hsplit | hsplit <;> rw [hsplit] <;>
        simp [Began.outcome, hprefix, hnoReply]

/-- **A SmugMug method call gets exactly one reply exactly when it is allowed.** -/
theorem answersOnce_iff (restProxy : RestProxyPointer) (method : CollectionsMethod)
    (error : Option String) (call : RestProxyCall XmlNode) :
    AnswersOnce ((collections restProxy method).outcome error call) ↔
      CollectionsOk restProxy method error call := by
  cases method with
  | getList =>
    refine answersOnce_getList_iff.trans ⟨fun h => ⟨?_, h⟩, fun h => h.2⟩
    rw [h]
    decide
  | getDetails collectionId => exact answersOnce_getDetails_iff
  | create name supportedTypes parent extraParameters => exact answersOnce_create_iff

end Smugmug

end LibSocialWeb
