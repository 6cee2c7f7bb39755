import LibSocialWeb.Service.Entries

/-!
# Statuses in the item view of Sina (`services/sina/sina-item-view.c`)

The query `feed` asks for the statuses of the friends first and then for those of the user; the set
goes on with the second call. `_populate_set_from_node` takes NULL for a root and then reads
nothing, so that a reply that is no success or no XML is read as one without statuses.
-/

namespace LibSocialWeb

namespace SwSinaItemView

/-- `g_strconcat ("sina-", id, NULL)` ends at NULL. -/
def statusUid (node : XmlNode) : String := "sina-" ++ (node.childNodeValue "id").getD ""

variable (lib : EntryLibrary) (service : SwService)

/-- What `_populate_set_from_node` does to the item after it has put the id. -/
def events (node user : XmlNode) (date : String) : List FetchEvent :=
  [.put "date" (some (lib.makeDate date)), .put "author" (user.childNodeValue "screen_name"),
    .requestImageFetch false "authoricon" (user.childNodeValue "profile_image_url"),
    .put "content" (node.childNodeValue "text"),
    .put "url" (some ("http://t.sina.com.cn/" ++ (user.childNodeValue "id").getD ""))]

/-- The item of a status; `none` is a user that is asserted, or a date that is NULL. -/
def makeItem (node : XmlNode) : Option SwItem := do
  let user ← node.find "user"
  let date ← node.childNodeValue "created_at"
  some (lib.make service ([] ++ .put "id" (some (statusUid node)) :: events lib node user date))

/-- `xml_node_from_call` -/
def xmlNodeFromCall (call : RestProxyCall XmlNode) : Option XmlNode := call.successfulRoot

/-- The statuses of a root, which may be NULL. -/
def statuses (root : Option XmlNode) : List XmlNode := root.elim [] (·.findAll "status")

/-- `_got_friends_status_cb` and `_got_user_status_cb`, up to the items: the inner `none` is a
return without any. -/
def gotStatusCb (reply : ItemReply) : Option (Option (List NewItem)) :=
  if reply.error.isSome then some none
  else
    (readEntries (fun node => (makeItem lib service node).map some)
      (statuses (xmlNodeFromCall reply.xml))).map some

/-! ## Which statuses are read -/

/-- A status with a user and a date. -/
structure StatusComplete (node : XmlNode) : Prop where
  user : (node.find "user").isSome
  date : (node.childNodeValue "created_at").isSome

/-- The id of the item of a status. -/
def statusId (node : XmlNode) : Option String := some (statusUid node)

variable {lib} {service}

theorem id_of_makeItem {node : XmlNode} {item : SwItem}
    (h : makeItem lib service node = some item) : item.get "id" = statusId node := by
  unfold makeItem at h
  obtain ⟨user, -, h⟩ := Option.bind_eq_some_iff.1 h
  obtain ⟨date, -, h⟩ := Option.bind_eq_some_iff.1 h
  obtain rfl := Option.some.inj h
  exact lib.get_id_make service _ _ _ (by simp [events, ImageFetches.touched])

theorem isSome_makeItem (node : XmlNode) :
    (makeItem lib service node).isSome ↔ StatusComplete node := by
  unfold makeItem
  simp only [isSome_bind_iff, Option.isSome_some, and_true, exists_and_right,
    ← Option.isSome_iff_exists]
  exact ⟨fun h => ⟨h.1, h.2⟩, fun h => ⟨h.user, h.date⟩⟩

/-- **The reader of the statuses.** -/
theorem entrySpec_status : EntrySpec (fun node => (makeItem lib service node).map some)
    StatusComplete statusId :=
  entrySpec_of_named isSome_makeItem fun _ _ h => ⟨id_of_makeItem h, rfl⟩

end SwSinaItemView

end LibSocialWeb
