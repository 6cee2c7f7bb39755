import LibSocialWeb.Photobucket.Service
import LibSocialWeb.Service.Collections

/-!
# The collections of Photobucket (`services/photobucket/photobucket.c`)

The albums of a user are in the album of the user, which is named like the user. Three things that
may be missing are handed to librest as NULL: the user, in a call that names the album of the user;
the album of the user in the reply to `GetList`; and the album in the reply to `GetDetails`. A reply
that is not `OK` and has no `message` ends the process in `node_from_call`.

**Main result.** `answersOnce_iff`: a method call gets exactly one reply exactly when it is
`CollectionsOk`.
-/

namespace LibSocialWeb

namespace Photobucket

open SwServicePhotobucket (nodeFromCall)

def ALBUM_PREFIX : String := "photobucket-"

/-- The id of the album that holds an album: what comes before the last slash of its name, unless
that is the album of the user. -/
def parentId (id : Option String) : String :=
  let before := (((id.getD "").toList.reverse.dropWhile (· ≠ '/')).tail).reverse
  if '/' ∈ before then ALBUM_PREFIX ++ String.ofList before else ""

/-- `_extract_collection_details_from_xml`; the album may be NULL. -/
def extractCollectionDetailsFromXml (album : Option XmlNode) : CollectionDetails :=
  let attr := fun name => album.bind fun node => node.attr name
  let optional := fun (key name : String) => (attr name).map fun value => (key, some value)
  { id := ALBUM_PREFIX ++ printed (attr "name")
    title := attr "title"
    parent := parentId (attr "name")
    mediaTypes := PHOTO + VIDEO + COLLECTION
    count := asGint (((attr "photo_count").map gAsciiStrtoll).getD 0 +
      ((attr "video_count").map gAsciiStrtoll).getD 0)
    attribs := [optional "x-photobucket-photo-count" "photo_count",
      optional "x-photobucket-video-count" "video_count", optional "x-photobucket-thumb" "thumb",
      optional "x-photobucket-privacy" "privacy"].filterMap id }

/-- What every callback starts with: the error of the call, then `node_from_call`. -/
def rootFromCall (error : Option String) (call : RestProxyCall XmlNode) :
    Option (Except String XmlNode) :=
  match error with
  | some message => some (.error ("rest call failed: " ++ message))
  | none => nodeFromCall call

variable (libs : NullHandling)

/-- `_list_albums_cb` -/
def listAlbumsCb (error : Option String) (call : RestProxyCall XmlNode) : Outcome :=
  match rootFromCall error call with
  | none => none
  | some (.error message) => some [.error message]
  | some (.ok root) =>
    let user := root.find "album"
    let albums := user.elim [] fun album => album.findAll "album"
    if user.isSome ∨ libs.find then
      some [.list (albums.map fun album => some (extractCollectionDetailsFromXml (some album)))]
    else none

/-- `_create_album_cb`; `albumId` is in the user data. -/
def createAlbumCb (albumId : String) (error : Option String) (call : RestProxyCall XmlNode) :
    Outcome :=
  match rootFromCall error call with
  | none => none
  | some (.error message) => some [.error message]
  | some (.ok _) => some [.created albumId]

/-- `_get_album_details_cb` -/
def getAlbumDetailsCb (error : Option String) (call : RestProxyCall XmlNode) : Outcome :=
  match rootFromCall error call with
  | none => none
  | some (.error message) => some [.error message]
  | some (.ok root) =>
    let album := root.find "album"
    if album.isSome ∨ libs.getAttr then
      some [.details (some (extractCollectionDetailsFromXml album))]
    else none

/-! ## The methods -/

/-- A call with the id of an album, which may be NULL, as its first parameter. -/
def callWithId (id : Option String) (params : List (String × Option String)) (isPost : Bool)
    (callback : Option String → RestProxyCall XmlNode → Outcome) : Began XmlNode :=
  if id.isSome ∨ libs.addParam then .called ⟨some "album/!", ("id", id) :: params, isPost⟩ callback
  else .over none

/-- The error for an id without the prefix. -/
def prefixError (collectionId : String) : CollectionsReply :=
  .error ("Photobucket collection ID " ++ collectionId ++ " must start with '" ++ ALBUM_PREFIX ++
    "'")

/-- `_photobucket_collections_get_list` -/
def collectionsGetList (hasSiloProxy : Bool) (uid : Option String) : Began XmlNode :=
  if !hasSiloProxy then .over (some [])
  else
    callWithId libs uid [("recurse", some "true"), ("view", some "flat"), ("media", some "none")]
      false (listAlbumsCb libs)

/-- `_photobucket_collections_create` -/
def collectionsCreate (hasSiloProxy : Bool) (uid : Option String)
    (collectionName collectionParent : String) : Began XmlNode :=
  if !hasSiloProxy then .over (some [])
  else
    let create := fun id =>
      callWithId libs id [("name", some collectionName)] true
        (createAlbumCb (ALBUM_PREFIX ++ printed id ++ "/" ++ collectionName))
    if collectionParent = "" then create uid
    else if !hasPrefix collectionParent ALBUM_PREFIX then
      .over (some [prefixError collectionParent])
    else create (some (afterPrefix collectionParent ALBUM_PREFIX))

/-- `_photobucket_collections_get_details`, which looks at the id before it looks at the proxy. -/
def collectionsGetDetails (hasSiloProxy : Bool) (collectionId : String) : Began XmlNode :=
  if !hasPrefix collectionId ALBUM_PREFIX then .over (some [prefixError collectionId])
  else if !hasSiloProxy then .over (some [])
  else
    callWithId libs (some (afterPrefix collectionId ALBUM_PREFIX)) [("media", some "none")] false
      (getAlbumDetailsCb libs)

/-- The methods of the interface. -/
def collections (hasSiloProxy : Bool) (uid : Option String) : CollectionsMethod → Began XmlNode
  | .getList => collectionsGetList libs hasSiloProxy uid
  | .getDetails collectionId => collectionsGetDetails libs hasSiloProxy collectionId
  | .create name _ parent _ => collectionsCreate libs hasSiloProxy uid name parent

/-! ## One reply -/

variable {libs} {hasSiloProxy : Bool} {uid : Option String} {error : Option String}
  {call : RestProxyCall XmlNode}

/-- The callback gets past `node_from_call`, and the document has an album if `needed`. -/
def Readable (needed : Prop) (error : Option String) (call : RestProxyCall XmlNode) : Prop :=
  (rootFromCall error call).isSome ∧
    ∀ root, rootFromCall error call = some (.ok root) → needed → (root.find "album").isSome

/-- The method calls that get one reply. There is a proxy, and a user if the call names the album of
the user; the reply can be read, and has an album for `GetList` and `GetDetails`. What librest
takes NULL for may be missing. -/
def CollectionsOk (libs : NullHandling) (hasSiloProxy : Bool) (uid : Option String)
    (method : CollectionsMethod) (error : Option String) (call : RestProxyCall XmlNode) : Prop :=
  match method with
  | .getList => hasSiloProxy ∧ (uid.isSome ∨ libs.addParam) ∧
      Readable (libs.find = false) error call
  | .getDetails collectionId => hasPrefix collectionId ALBUM_PREFIX →
      hasSiloProxy ∧ Readable (libs.getAttr = false) error call
  | .create _ _ parent _ => hasSiloProxy ∧ (parent = "" → uid.isSome ∨ libs.addParam) ∧
      (parent = "" ∨ hasPrefix parent ALBUM_PREFIX → Readable False error call)

/-- A callback that answers a document if it has an album, or if NULL is as good. -/
theorem answersOnce_album_iff (nullOk : Bool) (reply : XmlNode → CollectionsReply) :
    AnswersOnce (match rootFromCall error call with
      | none => none
      | some (.error message) => some [.error message]
      | some (.ok root) =>
        if (root.find "album").isSome ∨ nullOk then some [reply root] else none) ↔
      Readable (nullOk = false) error call := by
  unfold Readable
  rcases rootFromCall error call with _ | message | root
  · exact iff_of_false not_answersOnce_none (by simp)
  · exact iff_of_true (answersOnce_one _) (by simp)
  · dsimp only
    rw [answersOnce_ite, and_iff_left (answersOnce_one _)]
    cases nullOk <;> simp

theorem answersOnce_listAlbumsCb_iff (error : Option String) (call : RestProxyCall XmlNode) :
    AnswersOnce (listAlbumsCb libs error call) ↔ Readable (libs.find = false) error call :=
  answersOnce_album_iff libs.find _

theorem answersOnce_getAlbumDetailsCb_iff (error : Option String) (call : RestProxyCall XmlNode) :
    AnswersOnce (getAlbumDetailsCb libs error call) ↔ Readable (libs.getAttr = false) error call :=
  answersOnce_album_iff libs.getAttr _

theorem answersOnce_createAlbumCb_iff (albumId : String) (error : Option String)
    (call : RestProxyCall XmlNode) :
    AnswersOnce (createAlbumCb albumId error call) ↔ Readable False error call := by
  unfold createAlbumCb Readable
  rcases rootFromCall error call with _ | message | root
  · exact iff_of_false not_answersOnce_none (by simp)
  · exact iff_of_true (answersOnce_one _) (by simp)
  · exact iff_of_true (answersOnce_one _) (by simp)

theorem answersOnce_callWithId_iff {id : Option String} {params : List (String × Option String)}
    {isPost : Bool} {callback : Option String → RestProxyCall XmlNode → Outcome} :
    AnswersOnce ((callWithId libs id params isPost callback).outcome error call) ↔
      (id.isSome ∨ libs.addParam) ∧ AnswersOnce (callback error call) := by
  unfold callWithId
  split_ifs with h <;> simp [Began.outcome, h]

theorem answersOnce_getList_iff :
    AnswersOnce ((collectionsGetList libs hasSiloProxy uid).outcome error call) ↔
      hasSiloProxy ∧ (uid.isSome ∨ libs.addParam) ∧ Readable (libs.find = false) error call := by
  unfold collectionsGetList
  cases hasSiloProxy with
  | false => simp [Began.outcome]
  | true =>
    refine answersOnce_callWithId_iff.trans ?_
    rw [answersOnce_listAlbumsCb_iff]
    simp

theorem answersOnce_create_iff {name parent : String} :
    AnswersOnce ((collectionsCreate libs hasSiloProxy uid name parent).outcome error call) ↔
      hasSiloProxy ∧ (parent = "" → uid.isSome ∨ libs.addParam) ∧
        (parent = "" ∨ hasPrefix parent ALBUM_PREFIX → Readable False error call) := by
  unfold collectionsCreate
  cases hasSiloProxy with
  | false => simp [Began.outcome]
  | true =>
    rw [if_neg (by decide)]
    dsimp only
    split_ifs with hparent hprefix
    · rw [answersOnce_callWithId_iff, answersOnce_createAlbumCb_iff]
      simp [hparent]
    · simp only [Bool.not_eq_true'] at hprefix
      simp [Began.outcome, hparent, hprefix]
    · simp only [Bool.not_eq_true', Bool.not_eq_false] at hprefix
      rw [answersOnce_callWithId_iff, answersOnce_createAlbumCb_iff]
      simp [hparent, hprefix]

theorem answersOnce_getDetails_iff {collectionId : String} :
    AnswersOnce ((collectionsGetDetails libs hasSiloProxy collectionId).outcome error call) ↔
      (hasPrefix collectionId ALBUM_PREFIX →
        hasSiloProxy ∧ Readable (libs.getAttr = false) error call) := by
  unfold collectionsGetDetails
  cases hprefix : hasPrefix collectionId ALBUM_PREFIX with
  | false => exact iff_of_true (answersOnce_one _) (by simp)
  | true =>
    cases hasSiloProxy with
    | false => simp [Began.outcome]
    | true =>
      rw [if_neg (by decide), if_neg (by decide), answersOnce_callWithId_iff,
        answersOnce_getAlbumDetailsCb_iff]
      simp

/-- **A Photobucket method call gets exactly one reply exactly when it is allowed.** -/
theorem answersOnce_iff (libs : NullHandling) (hasSiloProxy : Bool) (uid : Option String)
    (method : CollectionsMethod) (error : Option String) (call : RestProxyCall XmlNode) :
    AnswersOnce ((collections libs hasSiloProxy uid method).outcome error call) ↔
      CollectionsOk libs hasSiloProxy uid method error call := by
  cases method with
  | getList => exact answersOnce_getList_iff
  | getDetails collectionId => exact answersOnce_getDetails_iff
  | create name supportedTypes parent extraParameters => exact answersOnce_create_iff

end Photobucket

end LibSocialWeb
