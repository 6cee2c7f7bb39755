import LibSocialWeb.Service.Entries

/-!
# Videos in the item view of Vimeo (`services/vimeo/vimeo-item-view.c`)

Vimeo answers with an empty `video` if there is none, so that a video without `url` is skipped. Of
the others every element is taken to be there.
-/

namespace LibSocialWeb

namespace SwVimeoItemView

variable (lib : EntryLibrary) (service : SwService)

/-- What `make_item` does to the item after it has put the id. -/
def events (url title author : Option String) (date : String) (thumbnail icon : Option String) :
    List FetchEvent :=
  [.put "url" url, .put "title" title, .put "author" author,
    .put "date" (some (lib.makeDate date)), .requestImageFetch false "thumbnail" thumbnail,
    .requestImageFetch false "authoricon" icon]

/-- `make_item`; `none` is a NULL that is dereferenced or read as a date. -/
def makeItem (video : XmlNode) : Option SwItem := do
  let url ← video.foundContent "url"
  let title ← video.foundContent "title"
  let author ← video.foundContent "user_name"
  let date ← (video.find "upload_date").bind (·.content)
  let thumbnail ← video.foundContent "thumbnail_medium"
  let icon ← video.foundContent "user_portrait_medium"
  some (lib.make service ([] ++ .put "id" url :: events lib url title author date thumbnail icon))

/-- The body of the loop: a video without `url` is skipped. -/
def readVideo (video : XmlNode) : Option (Option SwItem) :=
  if (video.find "url").isNone then some none else (makeItem lib service video).map some

/-- `node_from_call` -/
def nodeFromCall (call : RestProxyCall XmlNode) : Option XmlNode := call.successfulRoot

/-- `_got_videos_cb`, up to the items: the inner `none` is a return without any. -/
def gotVideosCb (reply : ItemReply) : Option (Option (List NewItem)) :=
  if reply.error.isSome then some none
  else
    match nodeFromCall reply.xml with
    | none => some none
    | some root => (readEntries (readVideo lib service) (root.findAll "video")).map some

/-! ## Which videos are read -/

/-- The elements of a video that is not skipped. -/
structure VideoElements (video : XmlNode) : Prop where
  url : ((video.find "url").bind (·.content)).isSome
  title : (video.find "title").isSome
  author : (video.find "user_name").isSome
  date : ((video.find "upload_date").bind (·.content)).isSome
  thumbnail : (video.find "thumbnail_medium").isSome
  icon : (video.find "user_portrait_medium").isSome

def VideoComplete (video : XmlNode) : Prop := (video.find "url").isSome → VideoElements video

/-- The id of the item of a video. -/
def videoId (video : XmlNode) : Option String := (video.find "url").bind (·.content)

variable {lib} {service}

theorem id_of_makeItem {video : XmlNode} {item : SwItem}
    (h : makeItem lib service video = some item) : item.get "id" = videoId video := by
  unfold makeItem at h
  obtain ⟨url, hurl, h⟩ := Option.bind_eq_some_iff.1 h
  obtain ⟨title, -, h⟩ := Option.bind_eq_some_iff.1 h
  obtain ⟨author, -, h⟩ := Option.bind_eq_some_iff.1 h
  obtain ⟨date, -, h⟩ := Option.bind_eq_some_iff.1 h
  obtain ⟨thumbnail, -, h⟩ := Option.bind_eq_some_iff.1 h
  obtain ⟨icon, -, h⟩ := Option.bind_eq_some_iff.1 h
  obtain rfl := Option.some.inj h
  obtain ⟨node, hnode, rfl⟩ := Option.map_eq_some_iff.1 hurl
  unfold videoId
  rw [hnode]
  exact lib.get_id_make service _ _ _ (by simp [events, ImageFetches.touched])

/-- An item is made and has an id. -/
theorem exists_makeItem (video : XmlNode) :
    (∃ item, makeItem lib service video = some item ∧ (item.get "id").isSome) ↔
      VideoElements video := by
  have hmade : (makeItem lib service video).isSome ↔ (video.find "url").isSome ∧
      (video.find "title").isSome ∧ (video.find "user_name").isSome ∧
      ((video.find "upload_date").bind (·.content)).isSome ∧
      (video.find "thumbnail_medium").isSome ∧ (video.find "user_portrait_medium").isSome := by
    unfold makeItem
    simp only [isSome_bind_iff, Option.isSome_some, and_true, exists_and_right,
      ← Option.isSome_iff_exists, XmlNode.isSome_foundContent]
  refine ⟨?_, fun h => ?_⟩
  · rintro ⟨item, hitem, hnamed⟩
    rw [id_of_makeItem hitem] at hnamed
    obtain ⟨-, htitle, hauthor, hdate, hthumbnail, hicon⟩ := hmade.1 (by rw [hitem]; rfl)
    exact ⟨hnamed, htitle, hauthor, hdate, hthumbnail, hicon⟩
  · have hurl : (video.find "url").isSome := Option.isSome_of_isSome_bind h.url
    obtain ⟨item, hitem⟩ := Option.isSome_iff_exists.1
      (hmade.2 ⟨hurl, h.title, h.author, h.date, h.thumbnail, h.icon⟩)
    refine ⟨item, hitem, ?_⟩
    rw [id_of_makeItem hitem]
    exact h.url

/-- **The reader of the videos.** -/
theorem entrySpec_video : EntrySpec (readVideo lib service) VideoComplete videoId := by
  have hspec : EntrySpec (fun video => (makeItem lib service video).map some) VideoElements
      videoId := entrySpec_of_item exists_makeItem fun _ _ h => id_of_makeItem h
  refine ⟨fun video => ?_, fun video made hmade => ?_⟩
  · unfold VideoComplete
    cases hurl : video.find "url" with
    | none =>
      refine iff_of_true ⟨none, ?_, nofun⟩ nofun
      rw [readVideo, hurl]
      rfl
    | some node =>
      have hread : readVideo lib service video = (makeItem lib service video).map some := by
        rw [readVideo, hurl]
        rfl
      rw [EntryRead, hread]
      exact (hspec.read_iff video).trans ⟨fun h _ => h, fun h => h rfl⟩
  · cases hurl : video.find "url" with
    | none =>
      rw [readVideo, hurl] at hmade
      obtain rfl := Option.some.inj hmade
      rw [videoId, hurl]
      rfl
    | some node =>
      rw [readVideo, hurl] at hmade
      exact hspec.id_eq video made hmade

end SwVimeoItemView

end LibSocialWeb
