import LibSocialWeb.Lib.Memo
import LibSocialWeb.Service.Entries

/-!
# Videos in the item view of YouTube (`services/youtube/youtube-item-view.c`)

A video names its author but not the author's icon, which is asked for with a call of its own while
the reply is read. `thumb_map` keeps the icons of one reply.

**Main result.** `videos_read`: the reader goes through exactly when every video is complete. Then
there is an item for each video, in order, its icon is what came for its author while this reply was
read, and no author is asked for again once an icon has come.
-/

namespace LibSocialWeb

namespace SwYoutubeItemView

/-- `xml_node_from_call (call, "Youtube")`; the outer `none` is an error response without a message,
which is dereferenced. -/
def xmlNodeFromCall (call : RestProxyCall XmlNode) : Option (Option XmlNode) :=
  match call.successfulRoot with
  | none => some none
  | some root =>
    if root.name = "error_response" then (root.find "error_msg").map fun _ => none
    else some (some root)

/-- What `get_author_icon_url` makes of the answer to `users/<author>`. -/
def authorIcon (call : RestProxyCall XmlNode) : Option (Option String) :=
  (xmlNodeFromCall call).map fun root =>
    (root.bind (·.find "media:thumbnail")).bind (·.attr "url")

variable (lib : EntryLibrary) (service : SwService) (users : ℕ → String → RestProxyCall XmlNode)

/-- The calls that a reader makes: `users` has the answer to each. -/
def askIcon (index : ℕ) (author : String) : Option (Option String) :=
  authorIcon (users index author)

/-- `get_author_icon_url` -/
def getAuthorIconUrl (author : String) (thumbMap : Memo String String) :
    Option (Option String × Memo String String) := thumbMap.get (askIcon users) author

/-- What is done for the `media:group`. A group without a thumbnail gives `rest_xml_node_get_attr` a
NULL node; `none` if that ends the process. -/
def thumbnailEvents (node : XmlNode) : Option (List FetchEvent) :=
  match node.find "media:group" with
  | none => some []
  | some group =>
    match group.find "media:thumbnail" with
    | none =>
      if lib.libs.getAttr then some [.requestImageFetch true "thumbnail" none] else none
    | some thumb => some [.requestImageFetch true "thumbnail" (thumb.attr "url")]

/-- What `make_item` does to the item after it has put the id. -/
def events (node : XmlNode) (author : String) (thumbnail : List FetchEvent)
    (icon : Option String) : List FetchEvent :=
  ((node.childNodeValue "atom:updated").toList.map fun date =>
    .put "date" (some (lib.makeDate date))) ++
    [.put "title" (node.childNodeValue "title"), .put "url" (node.childNodeValue "link"),
      .put "author" (some author)] ++
    thumbnail ++ [.requestImageFetch false "authoricon" icon]

/-- The item of a video by `author` with this icon. -/
def videoItem (node : XmlNode) (author : String) (thumbnail : List FetchEvent)
    (icon : Option String) : SwItem :=
  lib.make service
    ([] ++ .put "id" (node.childNodeValue "guid") :: events lib node author thumbnail icon)

/-- `make_item`; `none` is a thumbnail or an author that is NULL, or a call that ends the
process. -/
def makeItem (node : XmlNode) (thumbMap : Memo String String) :
    Option (SwItem × Memo String String) := do
  let thumbnail ← thumbnailEvents lib node
  let author ← node.childNodeValue "author"
  let (icon, thumbMap) ← getAuthorIconUrl users author thumbMap
  some (videoItem lib service node author thumbnail icon, thumbMap)

/-- The loop over the videos. -/
def readVideos : List XmlNode → Memo String String → Option (List NewItem × Memo String String)
  | [], thumbMap => some ([], thumbMap)
  | node :: nodes, thumbMap =>
    match makeItem lib service users node thumbMap with
    | none => none
    | some (item, thumbMap) =>
      match hid : item.get "id" with
      | none => none
      | some uid => (readVideos nodes thumbMap).map fun (ns, thumbMap) =>
          (⟨uid, item, hid⟩ :: ns, thumbMap)

/-- `_got_videos_cb`, up to the items: the inner `none` is a return without any. -/
def gotVideosCb (reply : ItemReply) : Option (Option (List NewItem × Memo String String)) :=
  if reply.error.isSome then some none
  else
    (xmlNodeFromCall reply.xml).bind fun root =>
      match root.bind (·.find "channel") with
      | none => some none
      | some channel => (readVideos lib service users (channel.findAll "item") .empty).map some

/-! ## Which videos are read -/

/-- The channel of a reply. -/
def channel (reply : ItemReply) : Option XmlNode :=
  (xmlNodeFromCall reply.xml).join.bind (·.find "channel")

def videos (reply : ItemReply) : List XmlNode := (channel reply).elim [] (·.findAll "item")

/-- A video with an id, an author and, in a group, a thumbnail or a librest that takes NULL. -/
structure VideoComplete (node : XmlNode) : Prop where
  guid : (node.childNodeValue "guid").isSome
  author : (node.childNodeValue "author").isSome
  thumbnail : (thumbnailEvents lib node).isSome

/-- A video at which the process can end: something is missing, or an answer to the call for its
author is an error response without a message. -/
def Lacks (node : XmlNode) : Prop :=
  VideoComplete lib node → ∃ author i, node.childNodeValue "author" = some author ∧
    askIcon users i author = none

/-- The item of a video, with an icon that came for its author. -/
def MadeOf (asked : List (String × Option String)) (node : XmlNode) (n : NewItem) : Prop :=
  ∃ author thumbnail icon, node.childNodeValue "author" = some author ∧
    thumbnailEvents lib node = some thumbnail ∧ (author, icon) ∈ asked ∧
    node.childNodeValue "guid" = some n.uid ∧
    n.item = videoItem lib service node author thumbnail icon

/-- Every video is complete and brings an item. The calls that were made are for authors of the
videos, and none is for an author whose icon had come. -/
structure VideosRead (nodes : List XmlNode) (ns : List NewItem) (thumbMap : Memo String String) :
    Prop where
  complete : ∀ node ∈ nodes, VideoComplete lib node
  items : List.Forall₂ (MadeOf lib service thumbMap.asked) nodes ns
  calls : ∀ p ∈ thumbMap.asked, ∃ node ∈ nodes, node.childNodeValue "author" = some p.1
  sound : thumbMap.Sound (askIcon users)

variable {lib} {service} {users}

theorem touched_thumbnailEvents {node : XmlNode} {thumbnail : List FetchEvent}
    (h : thumbnailEvents lib node = some thumbnail) :
    ∀ e ∈ thumbnail, ImageFetches.touched e ≠ some "id" := by
  unfold thumbnailEvents at h
  split at h
  · obtain rfl := Option.some.inj h
    exact List.forall_mem_nil _
  · split at h
    · split_ifs at h
      obtain rfl := Option.some.inj h
      simp [ImageFetches.touched]
    · obtain rfl := Option.some.inj h
      simp [ImageFetches.touched]

theorem id_videoItem {node : XmlNode} {thumbnail : List FetchEvent}
    (h : thumbnailEvents lib node = some thumbnail) (author : String) (icon : Option String) :
    (videoItem lib service node author thumbnail icon).get "id" = node.childNodeValue "guid" := by
  refine lib.get_id_make service _ _ _ fun e he => ?_
  unfold events at he
  simp only [List.mem_append, List.mem_map] at he
  rcases he with ((⟨date, -, rfl⟩ | he) | he) | he
  · simp [ImageFetches.touched]
  · revert e
    simp [ImageFetches.touched]
  · exact touched_thumbnailEvents h e he
  · revert e
    simp [ImageFetches.touched]

theorem exists_of_makeItem {node : XmlNode} {thumbMap thumbMap' : Memo String String}
    {item : SwItem} (h : makeItem lib service users node thumbMap = some (item, thumbMap')) :
    ∃ author thumbnail icon, node.childNodeValue "author" = some author ∧
      thumbnailEvents lib node = some thumbnail ∧
      getAuthorIconUrl users author thumbMap = some (icon, thumbMap') ∧
      item = videoItem lib service node author thumbnail icon := by
  unfold makeItem at h
  obtain ⟨thumbnail, hthumbnail, h⟩ := Option.bind_eq_some_iff.1 h
  obtain ⟨author, hauthor, h⟩ := Option.bind_eq_some_iff.1 h
  obtain ⟨⟨icon, map⟩, hicon, h⟩ := Option.bind_eq_some_iff.1 h
  obtain ⟨rfl, rfl⟩ := Prod.mk.inj (Option.some.inj h)
  exact ⟨author, thumbnail, icon, hauthor, hthumbnail, hicon, rfl⟩

theorem lacks_of_makeItem {node : XmlNode} {thumbMap : Memo String String}
    (h : makeItem lib service users node thumbMap = none) : Lacks lib users node := by
  intro hcomplete
  obtain ⟨thumbnail, hthumbnail⟩ := Option.isSome_iff_exists.1 hcomplete.thumbnail
  obtain ⟨author, hauthor⟩ := Option.isSome_iff_exists.1 hcomplete.author
  have hicon : getAuthorIconUrl users author thumbMap = none := by
    cases hicon : getAuthorIconUrl users author thumbMap with
    | none => rfl
    | some found =>
      unfold makeItem at h
      rw [hthumbnail, hauthor] at h
      simp [hicon] at h
  obtain ⟨i, hask⟩ := Memo.exists_ask_eq_none hicon
  exact ⟨author, i, hauthor, hask⟩

/-- The loop ends the process at a video that lacks something. -/
theorem exists_lacks_of_readVideos {nodes : List XmlNode} {thumbMap : Memo String String}
    (h : readVideos lib service users nodes thumbMap = none) :
    ∃ node ∈ nodes, Lacks lib users node := by
  induction nodes generalizing thumbMap with
  | nil => cases h
  | cons node nodes ih =>
    unfold readVideos at h
    split at h
    · next hmake => exact ⟨node, List.mem_cons_self, lacks_of_makeItem hmake⟩
    · next item map hmake =>
      split at h
      · next hid =>
        obtain ⟨author, thumbnail, icon, -, hthumbnail, -, rfl⟩ := exists_of_makeItem hmake
        rw [id_videoItem hthumbnail] at hid
        refine ⟨node, List.mem_cons_self, fun hcomplete => ?_⟩
        exact absurd hcomplete.guid (by rw [hid]; nofun)
      · obtain ⟨node', hmem, hlacks⟩ := ih (Option.map_eq_none_iff.1 h)
        exact ⟨node', List.mem_cons_of_mem _ hmem, hlacks⟩

/-- One round of the loop. -/
theorem exists_of_readVideos_cons {node : XmlNode} {nodes : List XmlNode} {ns : List NewItem}
    {thumbMap thumbMap' : Memo String String}
    (h : readVideos lib service users (node :: nodes) thumbMap = some (ns, thumbMap')) :
    ∃ author thumbnail icon map n ms, node.childNodeValue "author" = some author ∧
      thumbnailEvents lib node = some thumbnail ∧
      getAuthorIconUrl users author thumbMap = some (icon, map) ∧
      node.childNodeValue "guid" = some n.uid ∧
      n.item = videoItem lib service node author thumbnail icon ∧
      readVideos lib service users nodes map = some (ms, thumbMap') ∧ ns = n :: ms := by
  unfold readVideos at h
  split at h
  · cases h
  · next item map hmake =>
    obtain ⟨author, thumbnail, icon, hauthor, hthumbnail, hicon, rfl⟩ := exists_of_makeItem hmake
    split at h
    · cases h
    · next uid hid =>
      obtain ⟨⟨ms, map'⟩, hrest, hpair⟩ := Option.map_eq_some_iff.1 h
      obtain ⟨rfl, rfl⟩ := Prod.mk.inj hpair
      refine ⟨author, thumbnail, icon, map, ⟨uid, _, hid⟩, ms, hauthor, hthumbnail, hicon, ?_,
        rfl, hrest, rfl⟩
      rw [← id_videoItem hthumbnail author icon]
      exact hid

theorem MadeOf.mono {asked asked' : List (String × Option String)} (h : asked ⊆ asked')
    {node : XmlNode} {n : NewItem} (hmade : MadeOf lib service asked node n) :
    MadeOf lib service asked' node n := by
  obtain ⟨author, thumbnail, icon, hauthor, hthumbnail, hicon, hguid, hitem⟩ := hmade
  exact ⟨author, thumbnail, icon, hauthor, hthumbnail, h hicon, hguid, hitem⟩

theorem MadeOf.complete {asked : List (String × Option String)} {node : XmlNode} {n : NewItem}
    (h : MadeOf lib service asked node n) : VideoComplete lib node := by
  obtain ⟨author, thumbnail, icon, hauthor, hthumbnail, -, hguid, -⟩ := h
  exact ⟨Option.isSome_of_eq_some hguid, Option.isSome_of_eq_some hauthor,
    Option.isSome_of_eq_some hthumbnail⟩

section Loop

variable {nodes : List XmlNode} {ns : List NewItem} {thumbMap thumbMap' : Memo String String}

/-- The map stays sound, and the calls that were made stay in its log. -/
theorem sound_readVideos (hsound : thumbMap.Sound (askIcon users))
    (h : readVideos lib service users nodes thumbMap = some (ns, thumbMap')) :
    thumbMap'.Sound (askIcon users) ∧ thumbMap.asked <+: thumbMap'.asked := by
  induction nodes generalizing thumbMap ns with
  | nil =>
    obtain ⟨-, rfl⟩ := Prod.mk.inj (Option.some.inj h)
    exact ⟨hsound, List.prefix_rfl⟩
  | cons node nodes ih =>
    obtain ⟨author, -, icon, map, -, ms, -, -, hicon, -, -, hrest, -⟩ :=
      exists_of_readVideos_cons h
    obtain ⟨hmap, -, hprefix⟩ := hsound.get hicon
    obtain ⟨hsound', hprefix'⟩ := ih hmap hrest
    exact ⟨hsound', hprefix.trans hprefix'⟩

theorem items_readVideos (hsound : thumbMap.Sound (askIcon users))
    (h : readVideos lib service users nodes thumbMap = some (ns, thumbMap')) :
    List.Forall₂ (MadeOf lib service thumbMap'.asked) nodes ns := by
  induction nodes generalizing thumbMap ns with
  | nil =>
    obtain ⟨rfl, -⟩ := Prod.mk.inj (Option.some.inj h)
    exact List.Forall₂.nil
  | cons node nodes ih =>
    obtain ⟨author, thumbnail, icon, map, n, ms, hauthor, hthumbnail, hicon, hguid, hitem, hrest,
      rfl⟩ := exists_of_readVideos_cons h
    obtain ⟨hmap, hasked, -⟩ := hsound.get hicon
    have hprefix := (sound_readVideos hmap hrest).2
    exact List.Forall₂.cons
      ⟨author, thumbnail, icon, hauthor, hthumbnail, hprefix.subset hasked, hguid, hitem⟩
      (ih hmap hrest)

/-- The calls are for authors of the videos. -/
theorem calls_readVideos (h : readVideos lib service users nodes thumbMap = some (ns, thumbMap'))
    {p : String × Option String} (hp : p ∈ thumbMap'.asked) :
    p ∈ thumbMap.asked ∨ ∃ node ∈ nodes, node.childNodeValue "author" = some p.1 := by
  induction nodes generalizing thumbMap ns with
  | nil =>
    obtain ⟨-, rfl⟩ := Prod.mk.inj (Option.some.inj h)
    exact Or.inl hp
  | cons node nodes ih =>
    obtain ⟨author, -, icon, map, -, ms, hauthor, -, hicon, -, -, hrest, -⟩ :=
      exists_of_readVideos_cons h
    rcases ih hrest with hp | ⟨node', hmem, hnode⟩
    · rcases Memo.key_of_mem_asked hicon hp with hp | rfl
      · exact Or.inl hp
      · exact Or.inr ⟨node, List.mem_cons_self, hauthor⟩
    · exact Or.inr ⟨node', List.mem_cons_of_mem _ hmem, hnode⟩

/-- The map is empty when a reply comes. -/
theorem videosRead_of_readVideos
    (h : readVideos lib service users nodes .empty = some (ns, thumbMap')) :
    VideosRead lib service users nodes ns thumbMap' where
  complete := by
    have hitems := items_readVideos Memo.sound_empty h
    exact ((List.forall₂_and_left _ _).1 (hitems.imp fun _ _ hmade => ⟨hmade.complete, hmade⟩)).1
  items := items_readVideos Memo.sound_empty h
  calls p hp := (calls_readVideos h hp).resolve_left List.not_mem_nil
  sound := (sound_readVideos Memo.sound_empty h).1

end Loop

/-- **A reply is read.** A reply that ends the process is an error response without a message or has
a video that lacks something, one that brings nothing is an error or has no channel, and of one that
brings items every video is read. -/
theorem videos_read (lib : EntryLibrary) (service : SwService)
    (users : ℕ → String → RestProxyCall XmlNode) (reply : ItemReply) :
    (gotVideosCb lib service users reply = none →
      xmlNodeFromCall reply.xml = none ∨ ∃ node ∈ videos reply, Lacks lib users node) ∧
    (gotVideosCb lib service users reply = some none →
      reply.error.isSome ∨ channel reply = none) ∧
    ∀ ns thumbMap, gotVideosCb lib service users reply = some (some (ns, thumbMap)) →
      VideosRead lib service users (videos reply) ns thumbMap := by
  unfold gotVideosCb videos channel
  cases reply.error.isSome with
  | true => exact ⟨nofun, fun _ => Or.inl rfl, nofun⟩
  | false =>
    cases xmlNodeFromCall reply.xml with
    | none => exact ⟨fun _ => Or.inl rfl, nofun, nofun⟩
    | some root =>
      simp only [Bool.false_eq_true, if_false, Option.bind_some, Option.join_some]
      cases root.bind (·.find "channel") with
      | none => exact ⟨nofun, fun _ => Or.inr rfl, nofun⟩
      | some channel =>
        refine ⟨fun h => Or.inr ?_, fun h => ?_, fun ns thumbMap h => ?_⟩
        · exact exists_lacks_of_readVideos (Option.map_eq_none_iff.1 h)
        · obtain ⟨read, -, hread⟩ := Option.map_eq_some_iff.1 h
          cases hread
        · obtain ⟨read, hread, hpair⟩ := Option.map_eq_some_iff.1 h
          obtain rfl := Option.some.inj hpair
          exact videosRead_of_readVideos hread

end SwYoutubeItemView

end LibSocialWeb
