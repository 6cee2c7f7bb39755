import LibSocialWeb.Core.SwItem
import LibSocialWeb.Lib.Requests
import LibSocialWeb.Lib.Run

/-!
# Image fetches and readiness (`libsocialweb/sw-item.c`, `libsocialweb/sw-web.c`)

`sw_item_request_image_fetch` has an image downloaded to the directory of the thumbnails and puts
the path of the file under a key of the item. A fetch may delay the readiness of the item: then
`remaining_fetches` is raised at once and lowered in the callback, on which
`sw_web_download_image_async` decides. The callback runs at once for a file that is there, and when
the download has completed or failed otherwise.

**No callback.** It never runs for a NULL URL, which `g_return_if_fail` refuses, nor for a URL that
libsoup cannot parse: `soup_message_new` returns NULL, and `soup_session_queue_message` refuses
that.

**System.** One item, with the fetches that delay it as `fetches` and the downloads of the others as
`icons`. `pushes` and `pops` count what services do to the count themselves. What else happens in
the directory is an event.

**Main result.** `accounted_iff`: the count is always right, and every delaying fetch is popped once
exactly when no delaying fetch is requested with a URL that is NULL, or that is neither cached nor
parsable.
-/

namespace LibSocialWeb

open InFlight Transition

/-- What the libraries make of a URL: the path of its thumbnail, named by a checksum, and whether
`soup_message_new` can parse it. -/
structure WebLibrary where
  filename : String → String
  parses : String → Bool

/-- What `sw_web_download_image_async` does with its callback: drop it, call it with the path of a
file that is there, or keep it for the download to a path. -/
inductive Download where
  | ignored
  | cached (file : String)
  | queued (filename : String)
  deriving DecidableEq

/-- `sw_web_download_image_async`, where `files` are the files that exist. -/
def swWebDownloadImageAsync (lib : WebLibrary) (files : List String) : Option String → Download
  | none => .ignored
  | some url =>
    if lib.filename url ∈ files then .cached (lib.filename url)
    else if lib.parses url then .queued (lib.filename url)
    else .ignored

/-- `RequestImageFetchClosure`. A fetch that delays the item has a number. -/
structure RequestImageFetchClosure where
  key : String
  delaysReady : Option Nat
  deriving DecidableEq

/-- `AsyncData`: a download in flight. -/
structure AsyncData where
  filename : String
  closure : RequestImageFetchClosure
  deriving DecidableEq

/-- The path that `async_download_cb` passes on. That the file could not be written is not
noticed. -/
def asyncDownloadCb (ok : Bool) (data : AsyncData) : Option String :=
  if ok then some data.filename else none

/-- `_image_download_cb` -/
def imageDownloadCb (file : Option String) (closure : RequestImageFetchClosure) (item : SwItem) :
    SwItem :=
  let item := item.put closure.key file
  if closure.delaysReady.isSome then item.popPending.1 else item

/-- What is recorded of a delaying fetch. -/
inductive FetchRecord where
  | popped
  deriving DecidableEq

structure ImageFetches where
  item : SwItem
  fetches : Requests AsyncData FetchRecord
  icons : List AsyncData
  files : List String
  pushes : Nat
  pops : Nat

inductive FetchEvent where
  | requestImageFetch (delaysReady : Bool) (key : String) (url : Option String)
  | downloaded (data : AsyncData) (ok : Bool)
  | pushPending
  | popPending
  | put (key : String) (value : Option String)
  | filesChanged (files : List String)
  deriving DecidableEq

namespace ImageFetches

/-- `sw_item_new`, with the service and the thumbnails that are there. -/
def init (service : SwService) (files : List String) : ImageFetches :=
  ⟨⟨service, ∅, 0⟩, .none, [], files, 0, 0⟩

variable (lib : WebLibrary)

/-- The fetch of a delaying request. -/
def requestDelaying (key : String) (url : Option String) (s : ImageFetches) : ImageFetches :=
  let item := s.item.pushPending
  let closure : RequestImageFetchClosure := ⟨key, some s.fetches.made⟩
  match swWebDownloadImageAsync lib s.files url with
  | .ignored => { s with item := item, fetches := s.fetches.refused [] }
  | .cached file =>
    { s with
      item := imageDownloadCb (some file) closure item
      fetches := s.fetches.refused [.popped] }
  | .queued filename => { s with item := item, fetches := s.fetches.opened ⟨filename, closure⟩ }

/-- The fetch of any other request. -/
def requestIcon (key : String) (url : Option String) (s : ImageFetches) : ImageFetches :=
  let closure : RequestImageFetchClosure := ⟨key, none⟩
  match swWebDownloadImageAsync lib s.files url with
  | .ignored => s
  | .cached file => { s with item := imageDownloadCb (some file) closure s.item }
  | .queued filename => { s with icons := s.icons ++ [⟨filename, closure⟩] }

/-- A download completes or fails. -/
def downloaded (data : AsyncData) (ok : Bool) (s : ImageFetches) : ImageFetches :=
  let item := imageDownloadCb (asyncDownloadCb ok data) data.closure s.item
  match data.closure.delaysReady with
  | some i =>
    if data ∈ s.fetches.calls then
      { s with item := item, fetches := s.fetches.closed data i [.popped] }
    else s
  | none => if data ∈ s.icons then { s with item := item, icons := s.icons.erase data } else s

def step (s : ImageFetches) : FetchEvent → ImageFetches
  | .requestImageFetch delaysReady key url =>
    if delaysReady then s.requestDelaying lib key url else s.requestIcon lib key url
  | .downloaded data ok => s.downloaded data ok
  | .pushPending => { s with item := s.item.pushPending, pushes := s.pushes + 1 }
  | .popPending => { s with item := s.item.popPending.1, pops := s.pops + 1 }
  | .put key value => { s with item := s.item.put key value }
  | .filesChanged files => { s with files := files }

/-! ## The accounting -/

/-- The request that a download is for. -/
def owner (data : AsyncData) : Nat := data.closure.delaysReady.getD 0

/-- The count is the number of delaying fetches whose callback has not run, and of the pushes that
have not been popped. -/
def Counted (s : ImageFetches) : Prop :=
  s.item.remainingFetches = s.fetches.unrecorded + s.pushes - s.pops

/-- The count is right; a delaying fetch with no download in flight has been popped once; and when
all downloads are done and all pushes popped the item is ready. -/
structure Accounted (s : ImageFetches) : Prop where
  counted : s.Counted
  popped : s.fetches.EachClosed owner (· = [.popped])
  ready : s.fetches.calls = [] → s.pushes = s.pops → s.item.getReady = true

/-- A delaying fetch is requested with a URL that is cached or can be parsed. -/
def FetchOk (s : ImageFetches) : FetchEvent → Prop
  | .requestImageFetch true _ none => False
  | .requestImageFetch true _ (some url) =>
    lib.filename url ∈ s.files ∨ lib.parses url = true
  | _ => True

/-- The downloads of delaying fetches are numbered, and the count is right. -/
structure Numbered (s : ImageFetches) : Prop where
  counted : s.Counted
  wellNumbered : s.fetches.WellNumbered owner
  delaying : ∀ data ∈ s.fetches.calls, data.closure.delaysReady = some (owner data)

theorem remaining_imageDownloadCb (file : Option String) (closure : RequestImageFetchClosure)
    (item : SwItem) : (imageDownloadCb file closure item).remainingFetches =
      item.remainingFetches - if closure.delaysReady.isSome then 1 else 0 := by
  unfold imageDownloadCb
  split_ifs
  · rfl
  · exact (Int.sub_zero _).symm

variable {lib} {s : ImageFetches}

/-! ## Requests -/

theorem numbered_requestDelaying (h : s.Numbered) (key : String) (url : Option String) :
    (s.requestDelaying lib key url).Numbered := by
  have hcount : s.item.remainingFetches = s.fetches.unrecorded + s.pushes - s.pops := h.counted
  unfold requestDelaying
  dsimp only
  cases swWebDownloadImageAsync lib s.files url with
  | ignored =>
    refine ⟨?_, Requests.wellNumbered_refused h.wellNumbered, h.delaying⟩
    have hrefused : (s.fetches.refused []).unrecorded = s.fetches.unrecorded + 1 :=
      Requests.unrecorded_refused h.wellNumbered
    show s.item.remainingFetches + 1 = ((s.fetches.refused []).unrecorded : Int) +
      s.pushes - s.pops
    omega
  | cached file =>
    refine ⟨?_, Requests.wellNumbered_refused h.wellNumbered, h.delaying⟩
    have hrefused : (s.fetches.refused [FetchRecord.popped]).unrecorded = s.fetches.unrecorded :=
      Requests.unrecorded_refused h.wellNumbered
    show (imageDownloadCb (some file) _ _).remainingFetches =
      ((s.fetches.refused [FetchRecord.popped]).unrecorded : Int) + s.pushes - s.pops
    rw [remaining_imageDownloadCb, hrefused]
    show s.item.remainingFetches + 1 - 1 = _
    omega
  | queued filename =>
    refine ⟨?_, Requests.wellNumbered_opened h.wellNumbered rfl, ?_⟩
    · have hopened := Requests.unrecorded_opened h.wellNumbered
        (c := (⟨filename, ⟨key, some s.fetches.made⟩⟩ : AsyncData))
      show s.item.remainingFetches + 1 = ((s.fetches.opened _).unrecorded : Int) +
        s.pushes - s.pops
      rw [hopened]
      omega
    · intro data hdata
      rcases List.mem_append.1 hdata with hdata | hdata
      · exact h.delaying data hdata
      · rw [List.mem_singleton.1 hdata]
        rfl

theorem popped_requestDelaying_iff (h : s.Numbered)
    (hpopped : s.fetches.EachClosed owner (· = [.popped])) (key : String) (url : Option String) :
    (s.requestDelaying lib key url).fetches.EachClosed owner (· = [.popped]) ↔
      swWebDownloadImageAsync lib s.files url ≠ .ignored := by
  unfold requestDelaying
  dsimp only
  cases swWebDownloadImageAsync lib s.files url with
  | ignored =>
    refine iff_of_false ?_ (fun hne => hne rfl)
    intro hclosed
    cases ((Requests.eachClosed_refused h.wellNumbered).1 hclosed).1
  | cached file =>
    exact iff_of_true ((Requests.eachClosed_refused h.wellNumbered).2 ⟨rfl, hpopped⟩) nofun
  | queued filename =>
    exact iff_of_true ((Requests.eachClosed_opened rfl).2 hpopped) nofun

/-- A request for an icon leaves the count and the delaying fetches alone. -/
theorem requestIcon_frame (lib : WebLibrary) (s : ImageFetches) (key : String)
    (url : Option String) :
    (s.requestIcon lib key url).item.remainingFetches = s.item.remainingFetches ∧
      (s.requestIcon lib key url).fetches = s.fetches ∧
      (s.requestIcon lib key url).pushes = s.pushes ∧
      (s.requestIcon lib key url).pops = s.pops := by
  unfold requestIcon
  dsimp only
  cases swWebDownloadImageAsync lib s.files url <;> exact ⟨rfl, rfl, rfl, rfl⟩

/-! ## Downloads -/

theorem numbered_downloaded (h : s.Numbered) (data : AsyncData) (ok : Bool) :
    (s.downloaded data ok).Numbered := by
  have hcount : s.item.remainingFetches = s.fetches.unrecorded + s.pushes - s.pops := h.counted
  unfold downloaded
  dsimp only
  split
  · rename_i i hdelays
    split_ifs with hmem
    · have howner : owner data = i := by
        rw [owner, hdelays]
        rfl
      refine ⟨?_, Requests.wellNumbered_closed h.wellNumbered hmem howner,
        fun other hother => h.delaying other (List.mem_of_mem_erase hother)⟩
      have hclosed := Requests.unrecorded_closed h.wellNumbered hmem howner
        (List.cons_ne_nil FetchRecord.popped [])
      show (imageDownloadCb _ _ _).remainingFetches =
        ((s.fetches.closed data i [.popped]).unrecorded : Int) + s.pushes - s.pops
      rw [remaining_imageDownloadCb, hdelays, Option.isSome_some, if_pos rfl]
      omega
    · exact h
  · rename_i hicon
    split_ifs with hmem
    · refine ⟨?_, h.wellNumbered, h.delaying⟩
      show (imageDownloadCb _ _ _).remainingFetches = _
      rw [remaining_imageDownloadCb, hicon]
      exact (Int.sub_zero _).trans hcount
    · exact h

theorem popped_downloaded (h : s.Numbered)
    (hpopped : s.fetches.EachClosed owner (· = [.popped])) (data : AsyncData) (ok : Bool) :
    (s.downloaded data ok).fetches.EachClosed owner (· = [.popped]) := by
  unfold downloaded
  dsimp only
  split
  · rename_i i hdelays
    split_ifs with hmem
    · have howner : owner data = i := by
        rw [owner, hdelays]
        rfl
      exact (Requests.eachClosed_closed h.wellNumbered hmem howner).2 ⟨rfl, hpopped⟩
    · exact hpopped
  · split_ifs <;> exact hpopped

/-! ## The main result -/

theorem numbered_step (s : ImageFetches) (e : FetchEvent) (h : s.Numbered) :
    (step lib s e).Numbered := by
  have hcount : s.item.remainingFetches = s.fetches.unrecorded + s.pushes - s.pops := h.counted
  cases e with
  | requestImageFetch delaysReady key url =>
    rw [step]
    split_ifs
    · exact numbered_requestDelaying h key url
    · obtain ⟨hremaining, hfetches, hpushes, hpops⟩ := requestIcon_frame lib s key url
      refine ⟨?_, hfetches ▸ h.wellNumbered, hfetches ▸ h.delaying⟩
      rw [Counted, hremaining, hfetches, hpushes, hpops]
      exact hcount
  | downloaded data ok => exact numbered_downloaded h data ok
  | pushPending =>
    refine ⟨?_, h.wellNumbered, h.delaying⟩
    show s.item.remainingFetches + 1 = (s.fetches.unrecorded : Int) +
      ((s.pushes + 1 : Nat) : Int) - s.pops
    omega
  | popPending =>
    refine ⟨?_, h.wellNumbered, h.delaying⟩
    show s.item.remainingFetches - 1 = (s.fetches.unrecorded : Int) + s.pushes -
      ((s.pops + 1 : Nat) : Int)
    omega
  | put key value => exact ⟨hcount, h.wellNumbered, h.delaying⟩
  | filesChanged files => exact ⟨hcount, h.wellNumbered, h.delaying⟩

theorem download_ne_ignored_iff (files : List String) (url : Option String) :
    swWebDownloadImageAsync lib files url ≠ .ignored ↔
      ∃ u, url = some u ∧ (lib.filename u ∈ files ∨ lib.parses u = true) := by
  cases url with
  | none => simp [swWebDownloadImageAsync]
  | some u =>
    unfold swWebDownloadImageAsync
    dsimp only
    split_ifs with hcached hparses
    · simp [hcached]
    · simp [hparses]
    · simp [hcached, hparses]

/-- **A step keeps every fetch popped once exactly when it is allowed.** -/
theorem popped_step_iff (s : ImageFetches) (e : FetchEvent) (h : s.Numbered)
    (hpopped : s.fetches.EachClosed owner (· = [.popped])) :
    (step lib s e).fetches.EachClosed owner (· = [.popped]) ↔ FetchOk lib s e := by
  cases e with
  | requestImageFetch delaysReady key url =>
    cases delaysReady with
    | true =>
      refine (popped_requestDelaying_iff h hpopped key url).trans ?_
      rw [download_ne_ignored_iff]
      cases url with
      | none => simp [FetchOk]
      | some u => simp [FetchOk]
    | false =>
      refine iff_of_true ?_ trivial
      have hfetches := (requestIcon_frame lib s key url).2.1
      exact hfetches.symm ▸ hpopped
  | downloaded data ok => exact iff_of_true (popped_downloaded h hpopped data ok) trivial
  | pushPending => exact iff_of_true hpopped trivial
  | popPending => exact iff_of_true hpopped trivial
  | put key value => exact iff_of_true hpopped trivial
  | filesChanged files => exact iff_of_true hpopped trivial

/-- When every fetch has been popped, the item is ready as soon as nothing is outstanding. -/
theorem accounted_of_popped (h : s.Numbered)
    (hpopped : s.fetches.EachClosed owner (· = [.popped])) : s.Accounted := by
  refine ⟨h.counted, hpopped, ?_⟩
  intro hcalls hpushes
  have hcount : s.item.remainingFetches = s.fetches.unrecorded + s.pushes - s.pops := h.counted
  have hzero := Requests.unrecorded_eq_zero nofun hpopped hcalls
  rw [SwItem.getReady_iff]
  omega

theorem numbered_init (service : SwService) (files : List String) :
    (init service files).Numbered :=
  ⟨rfl, Requests.wellNumbered_none, fun _ hdata => absurd hdata List.not_mem_nil⟩

/-- **The count is right along every run, and the accounting exactly when no delaying fetch is
requested with a URL that is refused.** -/
theorem accounted_iff (lib : WebLibrary) (service : SwService) (files : List String)
    (es : List FetchEvent) :
    EveryState (step lib) Counted (init service files) es ∧
      (EveryState (step lib) Accounted (init service files) es ↔
        EveryStep (step lib) (FetchOk lib) (init service files) es) := by
  refine ⟨?_, ?_⟩
  · exact (everyState_of_step numbered_step (numbered_init service files) es).mono
      fun _ h => h.counted
  · refine everyState_iff_everyStep
      (I := fun s : ImageFetches => s.Numbered ∧ s.fetches.EachClosed owner (· = [.popped]))
      (fun s hs => accounted_of_popped hs.1 hs.2) ?_ ?_
      ⟨numbered_init service files, Requests.eachClosed_none⟩
    · intro s e hs hok
      exact ⟨numbered_step s e hs.1, (popped_step_iff s e hs.1 hs.2).2 hok⟩
    · intro s e hs hnext
      exact (popped_step_iff s e hs.1 hs.2).1 hnext.popped

/-! ## Other keys -/

/-- The key that an event may change. -/
def touched : FetchEvent → Option String
  | .requestImageFetch _ key _ => some key
  | .downloaded data _ => some data.closure.key
  | .put key _ => some key
  | _ => none

theorem get_imageDownloadCb_of_ne {file : Option String} {closure : RequestImageFetchClosure}
    {item : SwItem} {key : String} (h : key ≠ closure.key) :
    (imageDownloadCb file closure item).get key = item.get key := by
  unfold imageDownloadCb
  split_ifs
  · exact SwItem.get_put_of_ne h file
  · exact SwItem.get_put_of_ne h file

theorem get_requestDelaying_of_ne {key key' : String} (h : key' ≠ key) (url : Option String) :
    (s.requestDelaying lib key url).item.get key' = s.item.get key' := by
  unfold requestDelaying
  cases swWebDownloadImageAsync lib s.files url with
  | ignored => rfl
  | queued filename => rfl
  | cached file =>
    refine (get_imageDownloadCb_of_ne ?_).trans (SwItem.get_pushPending s.item key')
    exact h

theorem get_requestIcon_of_ne {key key' : String} (h : key' ≠ key) (url : Option String) :
    (s.requestIcon lib key url).item.get key' = s.item.get key' := by
  unfold requestIcon
  cases swWebDownloadImageAsync lib s.files url with
  | ignored => rfl
  | queued filename => rfl
  | cached file =>
    refine get_imageDownloadCb_of_ne ?_
    exact h

theorem get_downloaded_of_ne {data : AsyncData} {key : String} (h : key ≠ data.closure.key)
    (ok : Bool) : (s.downloaded data ok).item.get key = s.item.get key := by
  unfold downloaded
  dsimp only
  split <;> split_ifs <;> first | exact get_imageDownloadCb_of_ne h | rfl

theorem get_step_of_ne {e : FetchEvent} {key : String} (h : touched e ≠ some key) :
    (s.step lib e).item.get key = s.item.get key := by
  have hne : ∀ {key' : String}, some key' ≠ some key → key ≠ key' :=
    fun hsome heq => hsome (congrArg some heq.symm)
  cases e with
  | requestImageFetch delaysReady key' url =>
    cases delaysReady with
    | true => exact get_requestDelaying_of_ne (hne h) url
    | false => exact get_requestIcon_of_ne (hne h) url
  | downloaded data ok => exact get_downloaded_of_ne (hne h) ok
  | put key' value => exact SwItem.get_put_of_ne (hne h) value
  | pushPending => rfl
  | popPending => rfl
  | filesChanged files => rfl

/-- A run that leaves a key alone. -/
theorem get_runFrom_of_ne {key : String} {es : List FetchEvent}
    (h : ∀ e ∈ es, touched e ≠ some key) :
    (runFrom (step lib) s es).item.get key = s.item.get key := by
  induction es generalizing s with
  | nil => rfl
  | cons e es ih =>
    rw [runFrom_cons, ih (List.forall_mem_of_forall_mem_cons h),
      get_step_of_ne (h e List.mem_cons_self)]

/-! ## A photo without an image -/

/-- The fetches of `_flickr_item_from_from_photo_node`: the image is the attribute `url_m` as it
stands, NULL if the node has none; `construct_buddy_icon_url` always makes a URL. -/
def photoFetches (attr : String → Option String) (iconUrl : String) : List FetchEvent :=
  [.requestImageFetch true "thumbnail" (attr "url_m"),
    .requestImageFetch false "authoricon" (some iconUrl)]

/-- A photo is waited for in vain unless its image has a URL that is cached or can be parsed. -/
theorem accounted_photoFetches_iff (lib : WebLibrary) (service : SwService) (files : List String)
    (attr : String → Option String) (iconUrl : String) :
    EveryStep (step lib) (FetchOk lib) (init service files) (photoFetches attr iconUrl) ↔
      ∃ url, attr "url_m" = some url ∧ (lib.filename url ∈ files ∨ lib.parses url = true) := by
  unfold photoFetches
  cases attr "url_m" with
  | none => simp [EveryStep, FetchOk]
  | some url => simp [EveryStep, FetchOk, init]

/-- A library that parses every URL, and names the file after it. -/
def plainLibrary : WebLibrary := ⟨fun url => "/thumbnails/" ++ url, fun _ => true⟩

/-- The item of a photo without `url_m` stays unready, with no download in flight that could change
it. -/
theorem photoWithoutImage_not_accounted :
    let es := photoFetches (fun _ => none) "http://www.flickr.com/images/buddyicon.jpg"
    let s := runFrom (step plainLibrary) (init ⟨1, "flickr"⟩ []) es
    ¬ EveryState (step plainLibrary) Accounted (init ⟨1, "flickr"⟩ []) es ∧
      s.fetches.calls = [] ∧ s.pushes = s.pops ∧ s.item.getReady = false := by
  intro es s
  have hready : s.item.getReady = false := by decide
  refine ⟨?_, by decide, by decide, hready⟩
  intro h
  have hlast := h.last.ready (by decide) (by decide)
  rw [hready] at hlast
  cases hlast

end ImageFetches

end LibSocialWeb
