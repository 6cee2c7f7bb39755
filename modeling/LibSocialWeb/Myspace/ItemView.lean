import LibSocialWeb.Service.Entries

/-!
# Moods in the item view of MySpace (`services/myspace/myspace-item-view.c`)

An entry of a reply brings an item whatever it is: json-glib answers NULL for members that are not
there, and the id is then `myspace-`. But `sw_unescape_entities` and `strptime` take no NULL, so
that an entry without a text or without a date ends the process. The last line of the callback is
`g_object_unref (root)`, although the root is a `JsonNode`.
-/

namespace LibSocialWeb

namespace SwMySpaceItemView

/-- `g_strconcat ("myspace-", statusId, NULL)` ends at NULL. -/
def moodId (entry : JsonObject) : String :=
  "myspace-" ++ (entry.getStringMember "statusId").getD ""

variable (lib : EntryLibrary) (service : SwService)

/-- What `make_item` does to the item after it has put the id. -/
def events (entry : JsonObject) (content updated : String) : List FetchEvent :=
  let author := entry.getObjectMember "author"
  [.put "authorid" (entry.getStringMember "userId"),
    .put "author" (author.getStringMember "displayName"),
    .requestImageFetch false "authoricon" (author.getStringMember "thumbnailUrl"),
    .put "content" (some content), .put "date" (some (lib.makeDate updated)),
    .put "url" (author.getStringMember "profileUrl")]

/-- `make_item`; `none` is a NULL that is read. -/
def makeItem (node : JsonNode) : Option SwItem := do
  let entry := node.getObject
  let status ← entry.getStringMember "status"
  let content ← lib.unescape status
  let updated ← entry.getStringMember "moodStatusLastUpdated"
  some (lib.make service
    ([] ++ .put "id" (some (moodId entry)) :: events lib entry content updated))

/-- `json_node_from_call` -/
def jsonNodeFromCall (reply : ItemReply) : Option JsonNode :=
  if reply.xml.isSuccessful then reply.json else none

/-- The entries that `_populate_set_from_node` walks over. -/
def moods (root : JsonNode) : List JsonNode :=
  (JsonObject.getArrayMember root.getObject "entry").getD []

/-- `_got_status_cb`, up to the items: the inner `none` is a return without any. -/
def gotStatusCb (reply : ItemReply) : Option (Option (List NewItem)) :=
  if reply.error.isSome then some none
  else
    match jsonNodeFromCall reply with
    | none => some none
    | some root =>
      (readEntries (fun node => (makeItem lib service node).map some) (moods root)).map some

/-! ## Which entries are read -/

/-- `g_object_unref (root)` at the end of `_got_status_cb`, if there is a root. -/
def unrefsRoot (reply : ItemReply) : Bool := (jsonNodeFromCall reply).all lib.unrefJson

/-- An entry with a text and a date. -/
structure MoodComplete (node : JsonNode) : Prop where
  status : ∃ status, JsonObject.getStringMember node.getObject "status" = some status ∧
    HasRoom status
  updated : (JsonObject.getStringMember node.getObject "moodStatusLastUpdated").isSome

/-- The id of the item of an entry. -/
def moodIdOf (node : JsonNode) : Option String := some (moodId node.getObject)

variable {lib} {service}

theorem id_of_makeItem {node : JsonNode} {item : SwItem}
    (h : makeItem lib service node = some item) : item.get "id" = moodIdOf node := by
  unfold makeItem at h
  obtain ⟨status, -, h⟩ := Option.bind_eq_some_iff.1 h
  obtain ⟨content, -, h⟩ := Option.bind_eq_some_iff.1 h
  obtain ⟨updated, -, h⟩ := Option.bind_eq_some_iff.1 h
  obtain rfl := Option.some.inj h
  exact lib.get_id_make service _ _ _ (by simp [events, ImageFetches.touched])

theorem isSome_makeItem (node : JsonNode) :
    (makeItem lib service node).isSome ↔ MoodComplete node := by
  unfold makeItem
  simp only [isSome_bind_iff, Option.isSome_some, and_true, exists_and_right,
    ← Option.isSome_iff_exists, lib.isSome_unescape]
  constructor
  · rintro ⟨status, hstatus, hroom, hupdated⟩
    exact ⟨⟨status, hstatus, hroom⟩, hupdated⟩
  · rintro ⟨⟨status, hstatus, hroom⟩, hupdated⟩
    exact ⟨status, hstatus, hroom, hupdated⟩

/-- **The reader of the moods.** -/
theorem entrySpec_mood : EntrySpec (fun node => (makeItem lib service node).map some) MoodComplete
    moodIdOf :=
  entrySpec_of_named isSome_makeItem fun _ _ h => ⟨id_of_makeItem h, rfl⟩

end SwMySpaceItemView

end LibSocialWeb
