import LibSocialWeb.Plurk.Permalinks
import LibSocialWeb.Plurk.Service
import LibSocialWeb.Service.Entries

/-!
# Plurks in the item view of Plurk (`services/plurk/plurk-item-view.c`)

A reply has an array of plurks and an object of the users, whose members are named by the ids of the
users. A plurk without an owner, or by a user who is not in the reply, is skipped. A plurk without a
date ends the process.
-/

namespace LibSocialWeb

namespace SwPlurkItemView

/-- The owner of a plurk and what the reply says about this user. -/
structure PlurkUser where
  uid : String
  user : List (String × JsonNode)

/-- The user that `make_item` finds, or NULL. -/
def findUser (plurkUsers : JsonObject) (plurk : JsonObject) : Option PlurkUser :=
  if plurk.hasMember "owner_id" then
    let uid := toString (plurk.getIntMember "owner_id")
    (plurkUsers.getObjectMember uid).map fun user => ⟨uid, user⟩
  else none

def plurkId (plurk : JsonObject) : String := "plurk-" ++ toString (plurk.getIntMember "plurk_id")

/-- The content of a plurk. -/
def plurkContent (plurk : JsonObject) : String :=
  let qualifier := if plurk.hasMember "qualifier_translated" then
    plurk.getStringMember "qualifier_translated" else plurk.getStringMember "qualifier"
  printed qualifier ++ " " ++ printed (plurk.getStringMember "content_raw")

variable (lib : EntryLibrary) (service : SwService)

/-- What `make_item` does to the item after it has put the id. -/
def events (plurk : JsonObject) (owner : PlurkUser) (posted : String) : List FetchEvent :=
  let user : JsonObject := some owner.user
  [.put "author" (user.getStringMember "full_name"),
    .requestImageFetch false "authoricon" (some (Plurk.constructImageUrl owner.uid
      (user.getIntMember "avatar") (user.getIntMember "has_profile_image"))),
    .put "content" (some (plurkContent plurk)), .put "date" (some (lib.makeDate posted)),
    .put "url" (some (Plurk.plurkUrl (plurk.getIntMember "plurk_id")))]

/-- `make_item`; the outer `none` is the date that is NULL, the inner one the NULL that is
returned. -/
def makeItem (plurkUsers : JsonObject) (node : JsonNode) : Option (Option SwItem) :=
  let plurk := node.getObject
  match findUser plurkUsers plurk with
  | none => some none
  | some owner =>
    (plurk.getStringMember "posted").map fun posted =>
      some (lib.make service ([.put "authorid" (some owner.uid)] ++
        .put "id" (some (plurkId plurk)) :: events lib plurk owner posted))

/-- `json_node_from_call` -/
def jsonNodeFromCall (reply : ItemReply) : Option JsonNode :=
  if reply.xml.isSuccessful then reply.json else none

/-- The plurks of a reply; there is none if the member is no array. -/
def plurks (object : JsonObject) : List JsonNode := (object.getArrayMember "plurks").getD []

/-- `_got_status_updates_cb`, up to the items: the inner `none` is a return without any. -/
def gotStatusUpdatesCb (reply : ItemReply) : Option (Option (List NewItem)) :=
  if reply.error.isSome then some none
  else
    let object : JsonObject := (jsonNodeFromCall reply).bind (·.getObject)
    if object.hasMember "plurks" && object.hasMember "plurk_users" then
      (readEntries (makeItem lib service (object.getObjectMember "plurk_users"))
        (plurks object)).map some
    else some none

/-! ## Which plurks are read -/

/-- A plurk whose owner is in the reply has a date. -/
def PlurkComplete (plurkUsers : JsonObject) (node : JsonNode) : Prop :=
  (findUser plurkUsers node.getObject).isSome → (node.getObject.getStringMember "posted").isSome

/-- The id of the item of a plurk. -/
def plurkIdOf (plurkUsers : JsonObject) (node : JsonNode) : Option String :=
  (findUser plurkUsers node.getObject).map fun _ => plurkId node.getObject

variable {lib} {service}

/-- **The reader of the plurks.** -/
theorem entrySpec_plurk (plurkUsers : JsonObject) :
    EntrySpec (makeItem lib service plurkUsers) (PlurkComplete plurkUsers)
      (plurkIdOf plurkUsers) := by
  have hid : ∀ (plurk : JsonObject) (owner : PlurkUser) (posted : String),
      (lib.make service ([.put "authorid" (some owner.uid)] ++ .put "id" (some (plurkId plurk)) ::
        events lib plurk owner posted)).get "id" = some (plurkId plurk) := fun _ _ _ =>
    lib.get_id_make service _ _ _ (by simp [events, ImageFetches.touched])
  refine ⟨fun node => ?_, fun node made hmade => ?_⟩
  · unfold EntryRead makeItem PlurkComplete
    dsimp only
    cases findUser plurkUsers node.getObject with
    | none => exact iff_of_true ⟨none, rfl, nofun⟩ nofun
    | some owner =>
      dsimp only
      cases node.getObject.getStringMember "posted" with
      | none => simp
      | some posted =>
        refine iff_of_true ⟨_, rfl, fun item hitem => ?_⟩ fun _ => rfl
        obtain rfl := Option.some.inj hitem
        rw [hid]
        rfl
  · unfold makeItem at hmade
    unfold plurkIdOf
    dsimp only at hmade
    cases hfound : findUser plurkUsers node.getObject with
    | none =>
      rw [hfound] at hmade
      obtain rfl := Option.some.inj hmade
      rfl
    | some owner =>
      rw [hfound] at hmade
      obtain ⟨posted, -, rfl⟩ := Option.map_eq_some_iff.1 hmade
      exact hid _ owner posted

end SwPlurkItemView

end LibSocialWeb
