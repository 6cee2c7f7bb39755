import LibSocialWeb.Facebook.Util
import LibSocialWeb.Service.Collections
import Mathlib.Tactic.SplitIfs

/-!
# The collections of Facebook (`services/facebook/facebook.c`)

The callbacks do not look at the error of a call: `json_node_from_call` finds one in the status.

`_list_albums_cb` returns without a reply when the root of a document has no array `data`. An album
that is not an object is described by NULL, which goes out in the reply of `GetList` or
`GetDetails`. `Create` takes whatever comes and answers.

**Main result.** `answersOnce_iff`: a method call gets exactly one reply exactly when it is
`CollectionsOk`.
-/

namespace LibSocialWeb

namespace Facebook

def ALBUM_PREFIX : String := "facebook-"

def albumCreateParams : List (String × String) := [("x-facebook-privacy", "privacy")]

/-- `_extract_collection_details_from_json` -/
def extractCollectionDetailsFromJson (node : JsonNode) : Option CollectionDetails :=
  match node with
  | .object members =>
    let obj : JsonObject := some members
    some {
      id := ALBUM_PREFIX ++ printed (obj.getStringMember "id")
      title := obj.getStringMember "name"
      parent := ""
      mediaTypes := PHOTO
      count := asGint (obj.getIntMember "count")
      attribs := [("x-facebook-privacy", obj.getStringMember "privacy"),
        ("url", obj.getStringMember "link")] }
  | _ => none

/-- A reply with structs goes out, unless one of them is NULL and D-Bus does not take that. -/
def returnStructs (libs : NullHandling) (structs : List (Option CollectionDetails))
    (reply : CollectionsReply) : Outcome :=
  if libs.methodReturn ∨ ∀ struct ∈ structs, struct.isSome then some [reply] else none

variable (libs : NullHandling)

/-- `_list_albums_cb` -/
def listAlbumsCb (_error : Option String) (call : RestProxyCall (Option JsonNode)) : Outcome :=
  match jsonNodeFromCall call with
  | .error message => some [.error message]
  | .ok node =>
    match JsonObject.getArrayMember node.getObject "data" with
    | none => some []
    | some array =>
      let rv := array.map extractCollectionDetailsFromJson
      returnStructs libs rv (.list rv)

/-- `_create_album_cb` -/
def createAlbumCb (_error : Option String) (call : RestProxyCall (Option JsonNode)) : Outcome :=
  match jsonNodeFromCall call with
  | .error message => some [.error message]
  | .ok node =>
    some [.created (ALBUM_PREFIX ++ toString (JsonObject.getIntMember node.getObject "id"))]

/-- `_get_album_details_cb` -/
def getAlbumDetailsCb (_error : Option String) (call : RestProxyCall (Option JsonNode)) : Outcome :=
  match jsonNodeFromCall call with
  | .error message => some [.error message]
  | .ok node =>
    let collectionDetails := extractCollectionDetailsFromJson node
    returnStructs libs [collectionDetails] (.details collectionDetails)

/-! ## The methods -/

/-- `_facebook_collections_get_list` -/
def collectionsGetList (hasProxy : Bool) : Began (Option JsonNode) :=
  if !hasProxy then .over (some []) else .called ⟨some "me/albums", [], false⟩ (listAlbumsCb libs)

/-- `_facebook_collections_create` -/
def collectionsCreate (hasProxy : Bool) (collectionName : String) (supportedTypes : Nat)
    (collectionParent : String) (extraFields : List (String × String)) :
    Began (Option JsonNode) :=
  if !hasProxy then .over (some [])
  else if collectionParent ≠ "" then
    .over (some [.error "Facebook does not support nested albums."])
  else if supportedTypes ≠ PHOTO then
    .over (some [.error "Facebook albums can only contain photos."])
  else
    .called ⟨some "me/albums",
      mapParams albumCreateParams extraFields ++ [("name", some collectionName)], true⟩
      createAlbumCb

/-- `_facebook_collections_get_details` -/
def collectionsGetDetails (hasProxy : Bool) (collectionId : String) : Began (Option JsonNode) :=
  if !hasProxy then .over (some [])
  else if !hasPrefix collectionId ALBUM_PREFIX then
    .over (some [.error ("Facebook collection ID (" ++ collectionId ++ ") must start with '" ++
      ALBUM_PREFIX ++ "'")])
  else .called ⟨some (afterPrefix collectionId ALBUM_PREFIX), [], false⟩ (getAlbumDetailsCb libs)

/-- The methods of the interface. -/
def collections (hasProxy : Bool) : CollectionsMethod → Began (Option JsonNode)
  | .getList => collectionsGetList libs hasProxy
  | .getDetails collectionId => collectionsGetDetails libs hasProxy collectionId
  | .create name supportedTypes parent extraFields =>
    collectionsCreate hasProxy name supportedTypes parent extraFields

/-! ## One reply -/

variable {libs} {hasProxy : Bool} {error : Option String}
  {call : RestProxyCall (Option JsonNode)}

/-- D-Bus takes the descriptions of these nodes. -/
def Sendable (libs : NullHandling) (nodes : List JsonNode) : Prop :=
  libs.methodReturn ∨ ∀ node ∈ nodes, node.getObject.isSome

/-- The method calls that get one reply. There is a proxy; the document with the list of the albums
has an array `data`; and albums are objects, unless D-Bus takes NULL. -/
def CollectionsOk (libs : NullHandling) (hasProxy : Bool) (method : CollectionsMethod)
    (call : RestProxyCall (Option JsonNode)) : Prop :=
  hasProxy ∧
    match method with
    | .getList => ∀ root, jsonNodeFromCall call = .ok root →
        ∃ array, JsonObject.getArrayMember root.getObject "data" = some array ∧ Sendable libs array
    | .getDetails collectionId => hasPrefix collectionId ALBUM_PREFIX →
        ∀ root, jsonNodeFromCall call = .ok root → Sendable libs [root]
    | .create .. => True

theorem isSome_extractCollectionDetailsFromJson (node : JsonNode) :
    (extractCollectionDetailsFromJson node).isSome = node.getObject.isSome := by
  cases node <;> rfl

theorem answersOnce_returnStructs_iff {nodes : List JsonNode} {reply : CollectionsReply} :
    AnswersOnce (returnStructs libs (nodes.map extractCollectionDetailsFromJson) reply) ↔
      Sendable libs nodes := by
  unfold returnStructs Sendable
  rw [answersOnce_ite, and_iff_left (answersOnce_one reply)]
  simp [isSome_extractCollectionDetailsFromJson]

theorem answersOnce_listAlbumsCb_iff (error : Option String) :
    AnswersOnce (listAlbumsCb libs error call) ↔
      ∀ root, jsonNodeFromCall call = .ok root →
        ∃ array, JsonObject.getArrayMember root.getObject "data" = some array ∧
          Sendable libs array := by
  unfold listAlbumsCb
  cases jsonNodeFromCall call with
  | error message => exact iff_of_true (answersOnce_one _) (by simp)
  | ok root =>
    dsimp only
    cases hdata : JsonObject.getArrayMember root.getObject "data" with
    | none =>
      refine iff_of_false not_answersOnce_nil fun h => ?_
      obtain ⟨array, harray, -⟩ := h root rfl
      simp [hdata] at harray
    | some array =>
      refine answersOnce_returnStructs_iff.trans ⟨fun h root' hroot => ?_, fun h => ?_⟩
      · obtain rfl := Except.ok.inj hroot
        exact ⟨array, hdata, h⟩
      · obtain ⟨array', harray, h'⟩ := h root rfl
        obtain rfl : array = array' := Option.some.inj (hdata.symm.trans harray)
        exact h'

theorem answersOnce_createAlbumCb (error : Option String)
    (call : RestProxyCall (Option JsonNode)) : AnswersOnce (createAlbumCb error call) := by
  unfold createAlbumCb
  cases jsonNodeFromCall call <;> exact answersOnce_one _

theorem answersOnce_getAlbumDetailsCb_iff (error : Option String) :
    AnswersOnce (getAlbumDetailsCb libs error call) ↔
      ∀ root, jsonNodeFromCall call = .ok root → Sendable libs [root] := by
  unfold getAlbumDetailsCb
  cases jsonNodeFromCall call with
  | error message => exact iff_of_true (answersOnce_one _) (by simp)
  | ok root =>
    have hroot : AnswersOnce (returnStructs libs
        ([root].map extractCollectionDetailsFromJson)
        (.details (extractCollectionDetailsFromJson root))) ↔ Sendable libs [root] :=
      answersOnce_returnStructs_iff
    refine hroot.trans ?_
    simp

theorem answersOnce_getList_iff :
    AnswersOnce ((collectionsGetList libs hasProxy).outcome error call) ↔
      hasProxy ∧ ∀ root, jsonNodeFromCall call = .ok root →
        ∃ array, JsonObject.getArrayMember root.getObject "data" = some array ∧
          Sendable libs array := by
  unfold collectionsGetList
  cases hasProxy with
  | false => simp [Began.outcome]
  | true => exact (answersOnce_listAlbumsCb_iff error).trans (by simp)

theorem answersOnce_create_iff {name parent : String} {supportedTypes : Nat}
    {extraFields : List (String × String)} :
    AnswersOnce ((collectionsCreate hasProxy name supportedTypes parent extraFields).outcome error
      call) ↔ hasProxy := by
  unfold collectionsCreate
  cases hasProxy with
  | false => simp [Began.outcome]
  | true =>
    refine iff_of_true ?_ rfl
    split_ifs
    · contradiction
    · exact answersOnce_one _
    · exact answersOnce_one _
    · exact answersOnce_createAlbumCb error call

theorem answersOnce_getDetails_iff {collectionId : String} :
    AnswersOnce ((collectionsGetDetails libs hasProxy collectionId).outcome error call) ↔
      hasProxy ∧ (hasPrefix collectionId ALBUM_PREFIX →
        ∀ root, jsonNodeFromCall call = .ok root → Sendable libs [root]) := by
  unfold collectionsGetDetails
  cases hasProxy with
  | false => simp [Began.outcome]
  | true =>
    cases hprefix : hasPrefix collectionId ALBUM_PREFIX with
    | false => exact iff_of_true (answersOnce_one _) (by simp)
    | true => exact (answersOnce_getAlbumDetailsCb_iff error).trans (by simp)

/-- **A Facebook method call gets exactly one reply exactly when it is allowed.** -/
theorem answersOnce_iff (libs : NullHandling) (hasProxy : Bool) (method : CollectionsMethod)
    (error : Option String) (call : RestProxyCall (Option JsonNode)) :
    AnswersOnce ((collections libs hasProxy method).outcome error call) ↔
      CollectionsOk libs hasProxy method call := by
  cases method with
  | getList => exact answersOnce_getList_iff
  | getDetails collectionId => exact answersOnce_getDetails_iff
  | create name supportedTypes parent extraFields =>
    exact answersOnce_create_iff.trans (and_iff_left trivial).symm

end Facebook

end LibSocialWeb
