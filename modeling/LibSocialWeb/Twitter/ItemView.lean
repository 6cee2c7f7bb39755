import LibSocialWeb.Service.Entries
import LibSocialWeb.Twitter.Lookups
import LibSocialWeb.Twitter.Tweets
import Mathlib.Data.List.DropRight

/-!
# Tweets and trends in the item view of Twitter (`services/twitter/twitter-item-view.c`)

A timeline is XML and brings an item for each status. A tweet with the URL of a picture on Twitpic
is taken for the picture: the text without the URL becomes the title, and the item waits for the
thumbnail. The trending topics are JSON and bring an item for each trend, whether or not it is
banned; a reply that cannot be parsed brings none of them, but is shown.
-/

namespace LibSocialWeb

namespace SwTwitterItemView

/-! ## Timelines -/

/-- `g_ascii_isspace`, or a hyphen. -/
def isSpaceOrHyphen (c : Char) : Bool := c ∈ [' ', '\t', '\n', '\x0c', '\r', '-']

/-- `_cleanup_twitpic` -/
def cleanupTwitpic (string : String) : String :=
  String.ofList ((string.toList.dropWhile isSpaceOrHyphen).rdropWhile isSpaceOrHyphen)

/-- `g_strsplit (content, " ", 2)`, if it has two pieces. -/
def splitPoint (content : String) : Option (String × String) :=
  match content.toList.dropWhile (· ≠ ' ') with
  | [] => none
  | _ :: rest => some (String.ofList (content.toList.takeWhile (· ≠ ' ')), String.ofList rest)

/-- What `_make_item` reads of a status. -/
structure TimelineStatus where
  userId : Option String
  postId : Option String
  userName : Option String
  content : String
  createdAt : String
  location : Option String
  point : Option (String × String)
  placeName : Option String
  placeFullName : Option String
  profileImageUrl : Option String

/-- The reading of a status; `none` is a NULL that is dereferenced, searched or read as a date. -/
def readStatus (node : XmlNode) : Option TimelineStatus := do
  let user ← node.find "user"
  let userId ← user.foundContent "screen_name"
  let postId ← node.foundContent "id"
  let userName ← user.foundContent "name"
  let content ← (node.find "text").bind (·.content)
  let createdAt ← (node.find "created_at").bind (·.content)
  let place := node.find "place"
  some
    { userId, postId, userName, content, createdAt
      location := (user.find "location").bind (·.content)
      point := (((node.find "geo").bind (·.find "georss:point")).bind (·.content)).bind splitPoint
      placeName := (place.bind (·.find "name")).bind (·.content)
      placeFullName := (place.bind (·.find "full_name")).bind (·.content)
      profileImageUrl := (user.find "profile_image_url").bind (·.content) }

namespace TimelineStatus

variable (lib : EntryLibrary) (t : TimelineStatus)

def url : String :=
  "http://twitter.com/" ++ printed t.userId ++ "/statuses/" ++ printed t.postId

/-- What is done for a picture on Twitpic. -/
def twitpicEvents : List FetchEvent :=
  match lib.twitpic t.content with
  | none => []
  | some (twitpicId, newContent) =>
    [.requestImageFetch true "thumbnail" (some ("http://twitpic.com/show/thumb/" ++ twitpicId)),
      .put "title" (some (cleanupTwitpic newContent)),
      .put "url" (some ("http://twitpic.com/" ++ twitpicId))]

/-- A key that is put if there is a value for it. -/
def putSome (key : String) (value : Option String) : List FetchEvent :=
  value.toList.map fun text => .put key (some text)

/-- What `_make_item` does to the item after it has put the id. -/
def events (content : String) : List FetchEvent :=
  [.put "url" (some t.url), .put "author" t.userName] ++ t.twitpicEvents lib ++
    [.put "content" (some content), .put "date" (some (lib.makeDate t.createdAt))] ++
    putSome "location" t.location ++
    putSome "latitude" (t.point.map Prod.fst) ++ putSome "longitude" (t.point.map Prod.snd) ++
    putSome "place_name" t.placeName ++ putSome "place_full_name" t.placeFullName ++
    t.profileImageUrl.toList.map fun image => .requestImageFetch false "authoricon" (some image)

end TimelineStatus

variable (lib : EntryLibrary) (service : SwService)

/-- `_make_item` -/
def makeItem (node : XmlNode) : Option SwItem := do
  let t ← readStatus node
  let content ← lib.unescape t.content
  some (lib.make service
    ([.put "authorid" t.userId] ++ .put "id" (some t.url) :: t.events lib content))

/-- `_got_status_updates_cb`, up to the items: the inner `none` is a return without any. -/
def gotStatusUpdatesCb (reply : ItemReply) : Option (Option (List NewItem)) :=
  if reply.error.isSome then some none
  else
    match makeNodeFromCall reply.xml with
    | none => some none
    | some root =>
      (readEntries (fun node => (makeItem lib service node).map some) (root.findAll "status")).map
        some

/-! ## Trending topics -/

/-- The array of the trends, if there is the one member that it is taken from. -/
def trends (root : Option JsonNode) : List JsonNode :=
  match JsonObject.getObjectMember (root.bind (·.getObject)) "trends" with
  | some [(_, .array trends)] => trends
  | _ => []

def trendItem (node : JsonNode) : SwItem :=
  let name := JsonObject.getStringMember node.getObject "name"
  lib.make service ([.put "date" (some (swTimeTToString lib.soupDateToString lib.now))] ++
    .put "id" name :: [.put "content" name])

/-- `_got_trending_topic_updates_cb`, up to the items. -/
def gotTrendingTopicUpdatesCb (reply : ItemReply) : Option (Option (List NewItem)) :=
  if reply.error.isSome then some none
  else
    (readEntries (fun node => some (some (trendItem lib service node))) (trends reply.json)).map
      some

/-! ## Which entries are read -/

/-- A status that has all that its reader needs. -/
structure StatusComplete (node : XmlNode) : Prop where
  user : ∃ user, node.find "user" = some user ∧ (user.find "screen_name").isSome ∧
    (user.find "name").isSome
  id : (node.find "id").isSome
  text : ∃ text, (node.find "text").bind (·.content) = some text ∧ HasRoom text
  date : ((node.find "created_at").bind (·.content)).isSome

/-- The id of the item of a status. -/
def statusId (node : XmlNode) : Option String := (readStatus node).map (·.url)


namespace TimelineStatus

theorem touched_putSome {key : String} (hkey : key ≠ "id") (value : Option String) :
    ∀ e ∈ putSome key value, ImageFetches.touched e ≠ some "id" := by
  intro e he
  obtain ⟨text, -, rfl⟩ := List.mem_map.1 he
  exact fun heq => hkey (Option.some.inj heq)

theorem touched_twitpicEvents (t : TimelineStatus) :
    ∀ e ∈ t.twitpicEvents lib, ImageFetches.touched e ≠ some "id" := by
  unfold twitpicEvents
  split
  · exact List.forall_mem_nil _
  · simp [ImageFetches.touched]

/-- The id is put once. -/
theorem touched_events (t : TimelineStatus) (content : String) :
    ∀ e ∈ t.events lib content, ImageFetches.touched e ≠ some "id" := by
  unfold events
  simp only [List.forall_mem_append]
  refine ⟨⟨⟨⟨⟨⟨⟨⟨by simp [ImageFetches.touched], t.touched_twitpicEvents lib⟩,
    by simp [ImageFetches.touched]⟩, touched_putSome (by decide) _⟩,
    touched_putSome (by decide) _⟩, touched_putSome (by decide) _⟩,
    touched_putSome (by decide) _⟩, touched_putSome (by decide) _⟩, ?_⟩
  simp [ImageFetches.touched]

end TimelineStatus

variable {lib} {service}

theorem id_of_makeItem {node : XmlNode} {item : SwItem}
    (h : makeItem lib service node = some item) :
    item.get "id" = statusId node ∧ (statusId node).isSome := by
  unfold makeItem at h
  obtain ⟨t, ht, h⟩ := Option.bind_eq_some_iff.1 h
  obtain ⟨content, -, h⟩ := Option.bind_eq_some_iff.1 h
  obtain rfl := Option.some.inj h
  unfold statusId
  rw [ht]
  exact ⟨lib.get_id_make service _ _ _ (t.touched_events lib content), rfl⟩

theorem isSome_makeItem (node : XmlNode) :
    (makeItem lib service node).isSome ↔ StatusComplete node := by
  unfold makeItem readStatus
  simp only [Option.bind_eq_bind, Option.bind_assoc, Option.bind_some]
  simp only [← Option.bind_eq_bind, isSome_bind_iff, Option.isSome_some, and_true,
    exists_and_right, ← Option.isSome_iff_exists, lib.isSome_unescape,
    XmlNode.isSome_foundContent]
  refine ⟨?_, fun h => ?_⟩
  · rintro ⟨user, huser, hscreen, hid, hname, textNode, htextNode, text, htext, dateNode, hdateNode,
      hdate, hroom⟩
    refine ⟨⟨user, huser, hscreen, hname⟩, hid, ⟨text, ?_, hroom⟩, ?_⟩
    · rw [htextNode]
      exact htext
    · rw [hdateNode]
      exact hdate
  · obtain ⟨user, huser, hscreen, hname⟩ := h.user
    obtain ⟨text, hfound, hroom⟩ := h.text
    obtain ⟨textNode, htextNode, htext⟩ := Option.bind_eq_some_iff.1 hfound
    obtain ⟨date, hfound⟩ := Option.isSome_iff_exists.1 h.date
    obtain ⟨dateNode, hdateNode, hdate⟩ := Option.bind_eq_some_iff.1 hfound
    exact ⟨user, huser, hscreen, h.id, hname, textNode, htextNode, text, htext, dateNode, hdateNode,
      Option.isSome_of_eq_some hdate, hroom⟩

/-- **The reader of a timeline.** -/
theorem entrySpec_status : EntrySpec (fun node => (makeItem lib service node).map some)
    StatusComplete statusId :=
  entrySpec_of_named isSome_makeItem fun _ _ h => id_of_makeItem h

/-- The id of the item of a trend. -/
def trendId (node : JsonNode) : Option String := JsonObject.getStringMember node.getObject "name"

theorem id_trendItem (node : JsonNode) : (trendItem lib service node).get "id" = trendId node :=
  lib.get_id_make service _ _ _ (by simp [ImageFetches.touched])

/-- **The reader of the trends.** -/
theorem entrySpec_trend : EntrySpec (fun node => some (some (trendItem lib service node)))
    (fun node => (trendId node).isSome) trendId where
  read_iff node := by
    unfold EntryRead
    simp only [Option.some.injEq, exists_eq_left', forall_eq', id_trendItem]
  id_eq node made hmade := by
    obtain rfl := Option.some.inj hmade
    exact id_trendItem node

end SwTwitterItemView

end LibSocialWeb
