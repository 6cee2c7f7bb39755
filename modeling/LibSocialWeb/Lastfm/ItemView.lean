import LibSocialWeb.Core.SwItem
import LibSocialWeb.Lib.Run
import LibSocialWeb.Rest.Calls

/-!
# `SwLastfmItemView` (`services/lastfm/lastfm-item-view.c`)

A refresh asks for the friends, then for the recent tracks of each friend, and for the artist of
each track that has no image. The calls are kept in a list, and whoever finds the list empty passes
the items on to the view.

The REST layer answers each call once, later, in any order. `inFlight` are the calls that it still
has to answer. A cancelled call is answered with an error, on which every callback returns as soon
as it has found that the call is not in the list; the model drops it.

A payload that lacks a node or an attribute that the code reads makes it dereference NULL: the
process ends, and `running` becomes false. So it does when librest is handed a NULL that it does not
take, as the text of a friend's name.

**Main result.** `refreshed_iff`: a refresh completes once, with the items that it found, exactly
when there is a friend, every call for an artist succeeds, the last answer is no failed call for
tracks, and no payload ends the process.
-/

namespace LibSocialWeb

open Transition

/-! ## The data -/

/-- The callback of a call, and its `user_data`. -/
inductive LastfmCallback where
  | getFriends
  | getTracks (user : XmlNode)
  | getArtistInfo (item : ItemRef)

/-- A call, with its address. -/
structure LastfmCall where
  addr : Nat
  params : List (String × Option String)
  callback : LastfmCallback

/-- What a refresh does, in order. `made` is an item as `make_item` fills it in, and whether the
service has banned its id. -/
inductive LastfmEffect where
  | completed (call : Nat)
  | made (o : ItemRef) (item : SwItem) (banned : Bool)
  | requestImageFetch (o : ItemRef) (delaysReady : Bool) (key url : String)
  | pushPending (o : ItemRef)
  | popPending (o : ItemRef)
  | setFromSet (set : ItemSet)
  | cacheSave (set : ItemSet)

/-- `calls` is `priv->calls`. `log` is what happened since the refresh began. -/
structure SwLastfmItemView where
  running : Bool
  calls : List Nat
  inFlight : List LastfmCall
  nextCall : Nat
  nextItem : Nat
  set : ItemSet
  log : List LastfmEffect

/-- What the view reads elsewhere: its service, the key of the application, without which there is
no service, and the libraries. `soupDateToString` is what libsoup writes for a time. -/
structure LastfmContext where
  service : SwService
  apiKey : String
  libs : NullHandling
  soupDateToString : Int → String

/-- The answer to a call: an error, or what librest makes of the payload. `banned` and `now` are
what `sw_service_is_uid_banned` and `time` give meanwhile. -/
structure LastfmReply where
  call : Nat
  result : Option (RestProxyCall XmlNode)
  banned : String → Bool
  now : Int

namespace SwLastfmItemView

/-! ## Reading payloads

In this section `none` stands for a NULL that ends the process. -/

/-- `node_from_call`; inside, `none` is the NULL that it returns. -/
def nodeFromCall (call : RestProxyCall XmlNode) : Option (Option XmlNode) :=
  match call.successfulRoot with
  | none => some none
  | some node =>
    if node.name ≠ "lfm" then some none
    else
      (node.attr "status").bind fun status =>
        if status ≠ "ok" then (node.find "error").map fun _ => none
        else some (some node)

/-- The root of a reply that is no error. -/
def rootOf (r : LastfmReply) : Option (Option XmlNode) :=
  match r.result with
  | none => some none
  | some call => nodeFromCall call

/-- The loop of `get_image_url`. -/
def imageUrlIn (size : String) : List XmlNode → Option (Option String)
  | [] => some none
  | node :: nodes =>
    (node.attr "size").bind fun s => if s ≠ size then imageUrlIn size nodes else some node.content

/-- `get_image_url` -/
def getImageUrl (node : XmlNode) (size : String) : Option (Option String) :=
  imageUrlIn size (node.findAll "image")

/-- `rest_xml_node_find (node, tag)->content` -/
def contentOf (node : XmlNode) (tag : String) : Option (Option String) :=
  (node.find tag).map (·.content)

/-- `make_title` -/
def makeTitle (node : XmlNode) : Option String := do
  let track ← contentOf node "name"
  let artist ← contentOf node "artist"
  match track, artist with
  | some track, some artist => some (track ++ " by " ++ artist)
  | some track, none => some track
  | none, _ => some "Unknown"

/-- The parameters of the call for the artist of a track. -/
def artistParams (ctx : LastfmContext) (track : XmlNode) :
    Option (List (String × Option String)) := do
  let params ← ctx.libs.addParams [("method", some "artist.getInfo"), ("api_key", some ctx.apiKey)]
  let artist ← track.find "artist"
  let mbid := artist.attr "mbid"
  let last ← ctx.libs.addParams
    [if mbid.isSome && mbid ≠ some "" then ("mbid", mbid) else ("artist", artist.content)]
  some (params ++ last)

/-- Where the thumbnail of an item comes from: the image of the album, or a call for the artist. -/
inductive Thumbnail where
  | album (url : String)
  | artist (params : List (String × Option String))

/-- What `get_thumbnail` finds in the track. -/
def thumbnailOf (ctx : LastfmContext) (track : XmlNode) : Option Thumbnail := do
  match ← getImageUrl track "large" with
  | some url => some (.album url)
  | none => (artistParams ctx track).map .artist

/-- What `make_item` reads of a user and a track. -/
structure TrackData where
  uid : String
  item : SwItem
  thumbnail : Thumbnail
  icon : Option String
  iconLarge : Option String

/-- The date of a track. A track that is playing has none. -/
def trackDate (ctx : LastfmContext) (now : Int) (track : XmlNode) : Option String :=
  match track.find "date" with
  | some date => (date.attr "uts").map fun uts =>
      swTimeTToString ctx.soupDateToString (asGint (gAsciiStrtoll uts))
  | none => some (swTimeTToString ctx.soupDateToString now)

/-- The data of `make_item`. -/
def trackData (ctx : LastfmContext) (now : Int) (user track : XmlNode) : Option TrackData := do
  let url ← contentOf track "url"
  let name ← contentOf user "name"
  let title ← makeTitle track
  let album ← contentOf track "album"
  let thumbnail ← thumbnailOf ctx track
  let date ← trackDate ctx now track
  let realname ← contentOf user "realname"
  let icon ← getImageUrl user "medium"
  let iconLarge ← getImageUrl user "large"
  let uid := printed url ++ " " ++ printed name
  let item : SwItem := ⟨ctx.service, ∅, 0⟩
  let item := (item.put "id" (some uid)).put "url" url
  let item := (item.put "title" (some title)).put "album" album
  let item := item.put "date" (some date)
  let item := (item.put "author" (if realname.isSome then realname else name)).put "authorid" name
  some ⟨uid, item, thumbnail, icon, iconLarge⟩

/-! ## The callbacks -/

variable (s : SwLastfmItemView)

def note (effects : List LastfmEffect) : SwLastfmItemView := { s with log := s.log ++ effects }

/-- `sw_call_list_add` and `rest_proxy_call_async` -/
def send (params : List (String × Option String)) (callback : LastfmCallback) : SwLastfmItemView :=
  { s with
    calls := s.nextCall :: s.calls
    inFlight := s.inFlight ++ [⟨s.nextCall, params, callback⟩]
    nextCall := s.nextCall + 1 }

/-- The call has been answered: the callback begins with `sw_call_list_remove`. -/
def complete (call : LastfmCall) : SwLastfmItemView :=
  { s with
    calls := s.calls.erase call.addr
    inFlight := s.inFlight.eraseP (·.addr == call.addr)
    log := s.log ++ [.completed call.addr] }

/-- The process has ended. -/
def crash : SwLastfmItemView := { s with running := false }

/-- `_update_if_done` -/
def updateIfDone : SwLastfmItemView :=
  if s.calls = [] then
    { s with
      set := KeySet.empty
      log := s.log ++ [.setFromSet s.set, .cacheSave s.set] }
  else s

/-- `sw_item_request_image_fetch`, if there is a URL. -/
def fetchIcon (o : ItemRef) (key : String) : Option String → SwLastfmItemView
  | some url => s.note [.requestImageFetch o false key url]
  | none => s

/-- `get_thumbnail` -/
def getThumbnail (o : ItemRef) : Thumbnail → SwLastfmItemView
  | .album url => s.note [.requestImageFetch o true "thumbnail" url]
  | .artist params => (s.note [.pushPending o]).send params (.getArtistInfo o)

/-- A turn of the loop of `_get_tracks_cb`: `make_item`, and `sw_set_add` unless the id is
banned. -/
def addTrack (banned : String → Bool) (data : TrackData) : SwLastfmItemView :=
  let o : ItemRef := ⟨s.nextItem, data.uid⟩
  let s := { s with nextItem := s.nextItem + 1 }
  let s := s.getThumbnail o data.thumbnail
  let s := s.fetchIcon o "authoricon" data.icon
  let s := s.fetchIcon o "authoricon_large" data.iconLarge
  let s := s.note [.made o data.item (banned data.uid)]
  if banned data.uid then s else { s with set := s.set.add o }

/-- The tracks that `_get_tracks_cb` reads. -/
def tracksOf (ctx : LastfmContext) (now : Int) (user root : XmlNode) : Option (List TrackData) :=
  (root.findAll "track").mapM (trackData ctx now user)

/-- `_get_tracks_cb` -/
def getTracksCb (ctx : LastfmContext) (user : XmlNode) (r : LastfmReply) : SwLastfmItemView :=
  match rootOf r with
  | none => s.crash
  | some none => s
  | some (some root) =>
    match tracksOf ctx r.now user root with
    | none => s.crash
    | some tracks => (tracks.foldl (·.addTrack r.banned ·) s).updateIfDone

/-- The image that `get_artist_info_cb` reads. -/
def artistImage (root : XmlNode) : Option (Option String) :=
  (root.find "artist").bind (getImageUrl · "large")

/-- `get_artist_info_cb` -/
def getArtistInfoCb (o : ItemRef) (r : LastfmReply) : SwLastfmItemView :=
  match rootOf r with
  | none => s.crash
  | some none => s
  | some (some root) =>
    match artistImage root with
    | none => s.crash
    | some url =>
      let s :=
        match url with
        | some url => s.note [.requestImageFetch o true "thumbnail" url]
        | none => s
      (s.note [.popPending o]).updateIfDone

/-- The parameters of the calls for the tracks of the friends. -/
def friendsOf (ctx : LastfmContext) (root : XmlNode) :
    Option (List (XmlNode × List (String × Option String))) :=
  (root.findAll "user").mapM fun user => do
    let name ← contentOf user "name"
    let params ← ctx.libs.addParams [("api_key", some ctx.apiKey),
      ("method", some "user.getRecentTracks"), ("user", name), ("limit", some "1")]
    some (user, params)

/-- `_get_friends_cb` -/
def getFriendsCb (ctx : LastfmContext) (r : LastfmReply) : SwLastfmItemView :=
  match rootOf r with
  | none => s.crash
  | some none => s
  | some (some root) =>
    match friendsOf ctx root with
    | none => s.crash
    | some friends => friends.foldl (fun s (user, params) => s.send params (.getTracks user)) s

/-- `_get_status_updates`, for a query that is `feed`. -/
def getStatusUpdates (ctx : LastfmContext) (userId : Option String) : SwLastfmItemView :=
  let s := { s with calls := [], inFlight := [], set := KeySet.empty, log := [] }
  match userId with
  | none => { s with calls := [s.nextCall], nextCall := s.nextCall + 1 }
  | some userId =>
    match ctx.libs.addParams [("api_key", some ctx.apiKey), ("user", some userId),
        ("method", some "user.getFriends")] with
    | none => s.crash
    | some params => s.send params .getFriends

/-- The callback of a call. -/
def onReply (ctx : LastfmContext) (call : LastfmCall) (r : LastfmReply) : SwLastfmItemView :=
  match call.callback with
  | .getFriends => (s.complete call).getFriendsCb ctx r
  | .getTracks user => (s.complete call).getTracksCb ctx user r
  | .getArtistInfo o => (s.complete call).getArtistInfoCb o r

/-- The call that a reply answers. -/
def answered (r : LastfmReply) : Option LastfmCall := s.inFlight.find? (·.addr == r.call)

/-- A reply comes in. There is none to a call that is not in flight. -/
def step (ctx : LastfmContext) (s : SwLastfmItemView) (r : LastfmReply) : SwLastfmItemView :=
  if s.running then
    match s.answered r with
    | none => s
    | some call => s.onReply ctx call r
  else s

/-! ## The property -/

/-- The items that are not banned, in the order in which they were made. -/
def shown (log : List LastfmEffect) : List ItemRef :=
  log.filterMap fun
    | .made o _ false => some o
    | _ => none

/-- The sets that were passed to `sw_item_view_set_from_set`. -/
def updates (log : List LastfmEffect) : List ItemSet :=
  log.filterMap fun
    | .setFromSet set => some set
    | _ => none

/-- How often `sw_item_push_pending` was called for the item. -/
def pushes (o : ItemRef) (log : List LastfmEffect) : Nat :=
  log.countP fun
    | .pushPending o' => o' = o
    | _ => false

/-- How often `sw_item_pop_pending` was called for the item. -/
def pops (o : ItemRef) (log : List LastfmEffect) : Nat :=
  log.countP fun
    | .popPending o' => o' = o
    | _ => false

/-- The refresh has completed once: the last thing it did was to pass on the items that are not
banned, it had not done so before, the set is empty, and every push has been matched by a pop. -/
structure RefreshDone : Prop where
  running : s.running = true
  update : ∃ before set, s.log = before ++ [.setFromSet set, .cacheSave set] ∧
    updates before = [] ∧ set = KeySet.empty.addAll (shown s.log)
  empty : s.set.members = []
  matched : ∀ o, pushes o s.log = pops o s.log

/-- The reply does what the refresh relies on: it tells of a friend, or of the image of an artist,
or it has the tracks of a friend; instead of tracks it may bring an error if there is another call
in flight. -/
def AnsweredWell (ctx : LastfmContext) (r : LastfmReply) : Prop :=
  s.running = true → ∀ call, s.answered r = some call →
    match call.callback with
    | .getFriends => ∃ root friends, rootOf r = some (some root) ∧
        friendsOf ctx root = some friends ∧ friends ≠ []
    | .getTracks user => rootOf r = some none ∧ s.inFlight.length ≠ 1 ∨
        ∃ root tracks, rootOf r = some (some root) ∧ tracksOf ctx r.now user root = some tracks
    | .getArtistInfo _ => ∃ root url, rootOf r = some (some root) ∧ artistImage root = some url

/-! ## The books -/

/-- The call is for the artist of the item. -/
def asksFor (o : ItemRef) (call : LastfmCall) : Bool :=
  match call.callback with
  | .getArtistInfo o' => decide (o' = o)
  | _ => false

/-- The call is for the friends. -/
def isFriendsCall (call : LastfmCall) : Bool :=
  match call.callback with
  | .getFriends => true
  | _ => false

/-- The pushes of the item for which neither a pop was done nor a call is in flight. -/
def owed (o : ItemRef) : Int :=
  pushes o s.log - pops o s.log - (s.inFlight.countP (asksFor o) : Nat)

/-- The list has the calls in flight, the view was not told yet, and the set has the items. -/
structure Books : Prop where
  calls : s.calls.Perm (s.inFlight.map (·.addr))
  quiet : updates s.log = []
  items : s.set = KeySet.empty.addAll (shown s.log)

/-- An effect that tells the view nothing and makes no item that is shown. -/
def isPlain : LastfmEffect → Bool
  | .made _ _ banned => banned
  | .setFromSet _ => false
  | _ => true

variable {s} {ctx : LastfmContext} {r : LastfmReply} {o : ItemRef}

theorem updates_append (log log' : List LastfmEffect) :
    updates (log ++ log') = updates log ++ updates log' := List.filterMap_append

theorem shown_append (log log' : List LastfmEffect) :
    shown (log ++ log') = shown log ++ shown log' := List.filterMap_append

theorem pushes_append (log log' : List LastfmEffect) :
    pushes o (log ++ log') = pushes o log + pushes o log' := List.countP_append

theorem pops_append (log log' : List LastfmEffect) :
    pops o (log ++ log') = pops o log + pops o log' := List.countP_append

theorem of_isPlain {effect : LastfmEffect} (h : isPlain effect = true) :
    updates [effect] = [] ∧ shown [effect] = [] := by
  cases effect with
  | made o item banned =>
    cases banned with
    | false => cases h
    | true => exact ⟨rfl, rfl⟩
  | setFromSet set => cases h
  | completed call => exact ⟨rfl, rfl⟩
  | requestImageFetch o delays key url => exact ⟨rfl, rfl⟩
  | pushPending o => exact ⟨rfl, rfl⟩
  | popPending o => exact ⟨rfl, rfl⟩
  | cacheSave set => exact ⟨rfl, rfl⟩

theorem Books.note (h : Books s) {effect : LastfmEffect} (hplain : isPlain effect = true) :
    Books (s.note [effect]) := by
  obtain ⟨hupdates, hshown⟩ := of_isPlain hplain
  refine ⟨h.calls, ?_, ?_⟩
  · change updates (s.log ++ [effect]) = []
    rw [updates_append, h.quiet, hupdates, List.append_nil]
  · change s.set = KeySet.empty.addAll (shown (s.log ++ [effect]))
    rw [shown_append, hshown, List.append_nil]
    exact h.items

theorem Books.send (h : Books s) (params : List (String × Option String))
    (callback : LastfmCallback) : Books (s.send params callback) := by
  refine ⟨?_, h.quiet, h.items⟩
  change (s.nextCall :: s.calls).Perm
    ((s.inFlight ++ [LastfmCall.mk s.nextCall params callback]).map LastfmCall.addr)
  rw [List.map_append]
  exact (h.calls.cons _).trans (List.perm_append_singleton _ _).symm

theorem owed_send (params : List (String × Option String)) (callback : LastfmCallback) :
    (s.send params callback).owed o =
      s.owed o - if asksFor o ⟨s.nextCall, params, callback⟩ then 1 else 0 := by
  unfold owed send
  dsimp only
  rw [List.countP_append, List.countP_singleton]
  split_ifs <;> omega

theorem owed_note (effects : List LastfmEffect) :
    (s.note effects).owed o = s.owed o + (pushes o effects - pops o effects) := by
  unfold owed note
  dsimp only
  rw [pushes_append, pops_append]
  omega

/-! ## What a call leaves when it is answered -/

theorem find?_perm_eraseP {α : Type} {p : α → Bool} {l : List α} {a : α} (h : l.find? p = some a) :
    l.Perm (a :: l.eraseP p) := by
  induction l with
  | nil => cases h
  | cons b l ih =>
    by_cases hb : p b = true
    · rw [List.find?_cons_of_pos hb] at h
      cases h
      rw [List.eraseP_cons_of_pos hb]
    · rw [List.find?_cons_of_neg hb] at h
      rw [List.eraseP_cons_of_neg hb]
      exact ((ih h).cons b).trans (List.Perm.swap a b _)

theorem answered_perm {call : LastfmCall} (h : s.answered r = some call) :
    s.inFlight.Perm (call :: (s.complete call).inFlight) := by
  have haddr : call.addr = r.call := by simpa using List.find?_some h
  unfold complete
  dsimp only
  rw [haddr]
  exact find?_perm_eraseP h

theorem Books.complete (h : Books s) {call : LastfmCall} (hcall : s.answered r = some call) :
    Books (s.complete call) := by
  have hperm := ((answered_perm hcall).map (·.addr)).symm.trans h.calls.symm
  refine ⟨?_, ?_, ?_⟩
  · change (s.calls.erase call.addr).Perm _
    have herase := (hperm.erase call.addr).symm
    rw [List.map_cons, List.erase_cons_head] at herase
    exact herase
  · change updates (s.log ++ [.completed call.addr]) = []
    rw [updates_append, h.quiet]
    rfl
  · change s.set = KeySet.empty.addAll (shown (s.log ++ [.completed call.addr]))
    rw [shown_append, h.items]
    simp [shown]

theorem owed_complete {call : LastfmCall} (hcall : s.answered r = some call) :
    (s.complete call).owed o = s.owed o + if asksFor o call then 1 else 0 := by
  have hcount := (answered_perm hcall).countP_eq (asksFor o)
  have hpushes : pushes o [.completed call.addr] = 0 := rfl
  have hpops : pops o [.completed call.addr] = 0 := rfl
  rw [List.countP_cons] at hcount
  unfold owed
  change (pushes o (s.log ++ [.completed call.addr]) : Int) -
    pops o (s.log ++ [.completed call.addr]) - _ = _
  rw [pushes_append, pops_append, hpushes, hpops]
  split_ifs with hasks
  · rw [if_pos hasks] at hcount
    omega
  · rw [if_neg hasks] at hcount
    omega

/-! ## A track -/

theorem owed_fetchIcon (key : String) (url : Option String) (o' : ItemRef) :
    (s.fetchIcon o' key url).owed o = s.owed o := by
  cases url with
  | none => rfl
  | some url => exact (owed_note _).trans (Int.add_zero _)

/-- A push comes with a call. -/
theorem owed_getThumbnail (thumbnail : Thumbnail) (o' : ItemRef) :
    (s.getThumbnail o' thumbnail).owed o = s.owed o := by
  cases thumbnail with
  | album url => exact (owed_note _).trans (Int.add_zero _)
  | artist params =>
    have hasks : ∀ addr, asksFor o ⟨addr, params, .getArtistInfo o'⟩ = decide (o' = o) :=
      fun _ => rfl
    have hpushes : pushes o [.pushPending o'] = if o' = o then 1 else 0 := by
      simp [pushes, List.countP_singleton]
    have hpops : pops o [.pushPending o'] = 0 := rfl
    rw [getThumbnail, owed_send, owed_note, hasks, hpushes, hpops]
    split_ifs <;> simp_all

theorem owed_addTrack (banned : String → Bool) (data : TrackData) :
    (s.addTrack banned data).owed o = s.owed o := by
  unfold addTrack
  dsimp only
  have hset : ∀ (t : SwLastfmItemView) (set : ItemSet), owed { t with set := set } o = t.owed o :=
    fun _ _ => rfl
  have hnext : ∀ (t : SwLastfmItemView) (n : Nat), owed { t with nextItem := n } o = t.owed o :=
    fun _ _ => rfl
  have hmade : ∀ (t : SwLastfmItemView) (o' : ItemRef) (item : SwItem) (b : Bool),
      (t.note [.made o' item b]).owed o = t.owed o :=
    fun t _ _ _ => (owed_note _).trans (Int.add_zero _)
  split_ifs
  · rw [hmade, owed_fetchIcon, owed_fetchIcon, owed_getThumbnail, hnext]
  · rw [hset, hmade, owed_fetchIcon, owed_fetchIcon, owed_getThumbnail, hnext]

/-- Between two callbacks, or within one, all is in order, and nothing is out but calls for tracks
and artists. -/
structure Sound (s : SwLastfmItemView) : Prop where
  running : s.running = true
  books : Books s
  balance : ∀ o, s.owed o = 0
  noFriends : ∀ call ∈ s.inFlight, isFriendsCall call = false

theorem Sound.fetchIcon (h : Sound s) (o : ItemRef) (key : String) (url : Option String) :
    Sound (s.fetchIcon o key url) := by
  cases url with
  | none => exact h
  | some url =>
    exact ⟨h.running, h.books.note rfl,
      fun o' => (owed_fetchIcon key (some url) o).trans (h.balance o'), h.noFriends⟩

theorem Sound.getThumbnail (h : Sound s) (o : ItemRef) (thumbnail : Thumbnail) :
    Sound (s.getThumbnail o thumbnail) := by
  have howed := fun o' => (owed_getThumbnail (o := o') thumbnail o).trans (h.balance o')
  cases thumbnail with
  | album url => exact ⟨h.running, h.books.note rfl, howed, h.noFriends⟩
  | artist params =>
    refine ⟨h.running, (h.books.note rfl).send _ _, howed, ?_⟩
    exact List.forall_mem_append.2 ⟨h.noFriends, List.forall_mem_singleton.2 rfl⟩

/-- **A track.** Its item is in the set unless it is banned, and its call is in the list. -/
theorem Sound.addTrack (h : Sound s) (banned : String → Bool) (data : TrackData) :
    Sound (s.addTrack banned data) := by
  have howed := fun o => (owed_addTrack (o := o) banned data).trans (h.balance o)
  have hbefore : Sound ((({ s with nextItem := s.nextItem + 1 }.getThumbnail ⟨s.nextItem, data.uid⟩
      data.thumbnail).fetchIcon ⟨s.nextItem, data.uid⟩ "authoricon" data.icon).fetchIcon
      ⟨s.nextItem, data.uid⟩ "authoricon_large" data.iconLarge) := by
    have hnext : Sound { s with nextItem := s.nextItem + 1 } :=
      ⟨h.running, ⟨h.books.calls, h.books.quiet, h.books.items⟩, h.balance, h.noFriends⟩
    exact ((hnext.getThumbnail _ _).fetchIcon _ _ _).fetchIcon _ _ _
  unfold SwLastfmItemView.addTrack at howed ⊢
  dsimp only at howed ⊢
  generalize (({ s with nextItem := s.nextItem + 1 }.getThumbnail ⟨s.nextItem, data.uid⟩
    data.thumbnail).fetchIcon ⟨s.nextItem, data.uid⟩ "authoricon" data.icon).fetchIcon
    ⟨s.nextItem, data.uid⟩ "authoricon_large" data.iconLarge = t at hbefore howed ⊢
  by_cases hbanned : banned data.uid = true
  · rw [if_pos hbanned] at howed ⊢
    exact ⟨hbefore.running, hbefore.books.note hbanned, howed, hbefore.noFriends⟩
  · rw [if_neg hbanned] at howed ⊢
    refine ⟨hbefore.running, ⟨hbefore.books.calls, ?_, ?_⟩, howed, hbefore.noFriends⟩
    · change updates (t.log ++ [.made _ _ _]) = []
      rw [updates_append, hbefore.books.quiet]
      rfl
    · change t.set.add _ = KeySet.empty.addAll (shown (t.log ++ [.made _ _ _]))
      rw [Bool.not_eq_true] at hbanned
      rw [shown_append, KeySet.addAll, List.foldl_append, hbanned, hbefore.books.items]
      rfl

theorem Sound.addTracks (h : Sound s) (banned : String → Bool) (tracks : List TrackData) :
    Sound (tracks.foldl (·.addTrack banned ·) s) := by
  induction tracks generalizing s with
  | nil => exact h
  | cons data tracks ih => exact ih (h.addTrack banned data)

theorem owed_addTracks (banned : String → Bool) (tracks : List TrackData) :
    (tracks.foldl (·.addTrack banned ·) s).owed o = s.owed o := by
  induction tracks generalizing s with
  | nil => rfl
  | cons data tracks ih => exact ih.trans (owed_addTrack banned data)

theorem owed_updateIfDone : s.updateIfDone.owed o = s.owed o := by
  unfold updateIfDone
  split_ifs
  · unfold owed
    dsimp only
    have hpushes : pushes o [.setFromSet s.set, .cacheSave s.set] = 0 := rfl
    have hpops : pops o [.setFromSet s.set, .cacheSave s.set] = 0 := rfl
    rw [pushes_append, pops_append, hpushes, hpops]
    rfl
  · rfl

/-! ## The end of the refresh -/

/-- There is a call in flight, and if it is the one for the friends there is no other. -/
structure Working (s : SwLastfmItemView) : Prop where
  running : s.running = true
  books : Books s
  balance : ∀ o, s.owed o = 0
  busy : s.inFlight ≠ []
  friends : (∃ call, s.inFlight = [call] ∧ isFriendsCall call = true) ∨
    ∀ call ∈ s.inFlight, isFriendsCall call = false

/-- The refresh has completed, and nothing is in flight. -/
structure Over (s : SwLastfmItemView) : Prop where
  idle : s.inFlight = []
  done : s.RefreshDone

theorem Sound.updateIfDone (h : Sound s) : Working s.updateIfDone ∨ Over s.updateIfDone := by
  unfold SwLastfmItemView.updateIfDone
  by_cases hcalls : s.calls = []
  · right
    have hidle : s.inFlight = [] := by
      have hperm := h.books.calls
      rw [hcalls] at hperm
      exact List.map_eq_nil_iff.1 hperm.symm.eq_nil
    rw [if_pos hcalls]
    refine ⟨hidle, h.running, ⟨s.log, s.set, rfl, h.books.quiet, ?_⟩, rfl, fun o => ?_⟩
    · change s.set = KeySet.empty.addAll (shown (s.log ++ [.setFromSet _, .cacheSave _]))
      rw [shown_append, h.books.items]
      simp [shown]
    · have howed := (owed_updateIfDone (o := o)).trans (h.balance o)
      unfold SwLastfmItemView.updateIfDone at howed
      rw [if_pos hcalls] at howed
      unfold owed at howed
      dsimp only at howed ⊢
      rw [hidle, List.countP_nil] at howed
      omega
  · left
    rw [if_neg hcalls]
    refine ⟨h.running, h.books, h.balance, ?_, .inr h.noFriends⟩
    intro hidle
    have hperm := h.books.calls
    rw [hidle] at hperm
    exact hcalls hperm.eq_nil

/-! ## A reply that keeps the refresh going -/

variable {call : LastfmCall}

theorem step_of_answered (hrunning : s.running = true) (hcall : s.answered r = some call) :
    step ctx s r = s.onReply ctx call r := by
  unfold step
  rw [if_pos hrunning, hcall]

theorem step_of_not_answered (hcall : s.answered r = none) : step ctx s r = s := by
  unfold step
  rw [hcall]
  exact ite_self _

theorem answered_of_idle (hidle : s.inFlight = []) : s.answered r = none := by
  unfold answered
  rw [hidle]
  rfl

/-- Once a call for tracks or an artist is answered, no call for the friends is out. -/
theorem Working.noFriends (h : Working s) (hcall : s.answered r = some call)
    (hkind : isFriendsCall call = false) :
    ∀ c ∈ (s.complete call).inFlight, isFriendsCall c = false := by
  have hperm := answered_perm hcall
  obtain ⟨c, hc, hfriends⟩ | hnone := h.friends
  · have hmem : call ∈ s.inFlight := hperm.mem_iff.2 List.mem_cons_self
    rw [hc, List.mem_singleton] at hmem
    rw [hmem, hfriends] at hkind
    cases hkind
  · exact fun c hc => hnone c (hperm.mem_iff.2 (List.mem_cons_of_mem _ hc))

theorem Working.complete_tracks (h : Working s) (hcall : s.answered r = some call)
    {user : XmlNode} (hkind : call.callback = .getTracks user) : Sound (s.complete call) := by
  have hfriends : isFriendsCall call = false := by
    unfold isFriendsCall
    rw [hkind]
  refine ⟨h.running, h.books.complete hcall, fun o => ?_, h.noFriends hcall hfriends⟩
  have hasks : asksFor o call = false := by
    unfold asksFor
    rw [hkind]
  rw [owed_complete hcall, h.balance, hasks, if_neg Bool.false_ne_true, Int.add_zero]

theorem Working.complete_friends (h : Working s) (hcall : s.answered r = some call)
    (hkind : call.callback = .getFriends) :
    Sound (s.complete call) ∧ (s.complete call).inFlight = [] := by
  have hfriends : isFriendsCall call = true := by
    unfold isFriendsCall
    rw [hkind]
  have hperm := answered_perm hcall
  have hidle : (s.complete call).inFlight = [] := by
    obtain ⟨c, hc, -⟩ | hnone := h.friends
    · have hlength := hperm.length_eq
      rw [hc, List.length_singleton, List.length_cons] at hlength
      exact List.eq_nil_of_length_eq_zero (by omega)
    · rw [hnone call (hperm.mem_iff.2 List.mem_cons_self)] at hfriends
      cases hfriends
  refine ⟨⟨h.running, h.books.complete hcall, fun o => ?_, ?_⟩, hidle⟩
  · have hasks : asksFor o call = false := by
      unfold asksFor
      rw [hkind]
    rw [owed_complete hcall, h.balance, hasks, if_neg Bool.false_ne_true, Int.add_zero]
  · rw [hidle]
    exact fun _ hc => absurd hc List.not_mem_nil

/-- The pop for an item comes when its call has been answered. -/
theorem Working.complete_artist (h : Working s) (hcall : s.answered r = some call)
    {o : ItemRef} (hkind : call.callback = .getArtistInfo o) (url : Option String) :
    Sound (SwLastfmItemView.note (match url with
      | some url => (s.complete call).note [.requestImageFetch o true "thumbnail" url]
      | none => s.complete call) [.popPending o]) := by
  have hfriends : isFriendsCall call = false := by
    unfold isFriendsCall
    rw [hkind]
  have hnone := h.noFriends hcall hfriends
  have hbooks := h.books.complete hcall
  have hasks : ∀ o', asksFor o' call = decide (o = o') := by
    intro o'
    unfold asksFor
    rw [hkind]
  have hpop : ∀ o', pushes o' [.popPending o] = 0 ∧
      pops o' [.popPending o] = if o = o' then 1 else 0 :=
    fun o' => ⟨rfl, by simp [pops, List.countP_singleton]⟩
  have hbalance : ∀ o', (s.complete call).owed o' +
      ((pushes o' [.popPending o] : Nat) - (pops o' [.popPending o] : Nat) : Int) = 0 := by
    intro o'
    rw [owed_complete hcall, h.balance, hasks, (hpop o').1, (hpop o').2]
    split_ifs <;> simp_all
  cases url with
  | none =>
    exact ⟨h.running, hbooks.note rfl, fun o' => (owed_note _).trans (hbalance o'), hnone⟩
  | some url =>
    refine ⟨h.running, (hbooks.note rfl).note rfl, fun o' => ?_, hnone⟩
    rw [owed_note, owed_note]
    exact (congrArg (· + _) (Int.add_zero _)).trans (hbalance o')

theorem Sound.sendTracks (h : Sound s) (friends : List (XmlNode × List (String × Option String))) :
    Sound (friends.foldl (fun s (user, params) => s.send params (.getTracks user)) s) ∧
      (friends.foldl (fun s (user, params) => s.send params (.getTracks user)) s).inFlight.length =
        s.inFlight.length + friends.length := by
  induction friends generalizing s with
  | nil => exact ⟨h, rfl⟩
  | cons friend friends ih =>
    have hsend : Sound (s.send friend.2 (.getTracks friend.1)) := by
      refine ⟨h.running, h.books.send _ _, fun o => ?_, ?_⟩
      · exact (owed_send _ _).trans ((Int.sub_zero _).trans (h.balance o))
      · exact List.forall_mem_append.2 ⟨h.noFriends, List.forall_mem_singleton.2 rfl⟩
    obtain ⟨hsound, hlength⟩ := ih hsend
    refine ⟨hsound, hlength.trans ?_⟩
    change (s.inFlight ++ [_]).length + friends.length = _
    rw [List.length_append, List.length_singleton, List.length_cons]
    omega

theorem Sound.working (h : Sound s) (hbusy : s.inFlight ≠ []) : Working s :=
  ⟨h.running, h.books, h.balance, hbusy, .inr h.noFriends⟩

/-- **A good reply** keeps the refresh going, or completes it. -/
theorem Working.step (h : Working s) (hwell : s.AnsweredWell ctx r) :
    Working (step ctx s r) ∨ Over (step ctx s r) := by
  cases hcall : s.answered r with
  | none =>
    rw [step_of_not_answered hcall]
    exact .inl h
  | some call =>
    have hkind := hwell h.running call hcall
    rw [step_of_answered h.running hcall, onReply]
    cases hcallback : call.callback with
    | getFriends =>
      rw [hcallback] at hkind
      obtain ⟨root, friends, hroot, hfriends, hne⟩ := hkind
      obtain ⟨hsound, hidle⟩ := h.complete_friends hcall hcallback
      obtain ⟨hsound', hlength⟩ := hsound.sendTracks friends
      have hpos := List.length_pos_iff.2 hne
      dsimp only
      rw [getFriendsCb, hroot]
      dsimp only
      rw [hfriends]
      exact .inl (hsound'.working (List.length_pos_iff.1 (by omega)))
    | getTracks user =>
      rw [hcallback] at hkind
      have hsound := h.complete_tracks hcall hcallback
      dsimp only
      rw [getTracksCb]
      rcases hkind with ⟨hroot, hother⟩ | ⟨root, tracks, hroot, htracks⟩
      · rw [hroot]
        refine .inl (hsound.working ?_)
        intro hidle
        have hlength := (answered_perm hcall).length_eq
        rw [hidle, List.length_singleton] at hlength
        exact hother hlength
      · rw [hroot]
        dsimp only
        rw [htracks]
        exact (hsound.addTracks r.banned tracks).updateIfDone
    | getArtistInfo o =>
      rw [hcallback] at hkind
      obtain ⟨root, url, hroot, hurl⟩ := hkind
      dsimp only
      rw [getArtistInfoCb, hroot]
      dsimp only
      rw [hurl]
      exact (h.complete_artist hcall hcallback url).updateIfDone

/-! ## A reply that ends it -/

/-- The process has ended, a push will not be matched any more, or nothing is in flight that could
tell the view. -/
def Broken (s : SwLastfmItemView) : Prop :=
  s.running = false ∨ (∃ o, 0 < s.owed o) ∨ s.inFlight = [] ∧ updates s.log = []

theorem Broken.not_done (h : Broken s) : ¬ s.RefreshDone := by
  intro hdone
  rcases h with hcrash | ⟨o, howed⟩ | ⟨-, hquiet⟩
  · rw [hdone.running] at hcrash
    cases hcrash
  · unfold owed at howed
    rw [hdone.matched o] at howed
    omega
  · obtain ⟨before, set, hlog, -, -⟩ := hdone.update
    rw [hlog, updates_append, List.append_eq_nil_iff] at hquiet
    cases hquiet.2

theorem owed_sendTracks (friends : List (XmlNode × List (String × Option String))) :
    (friends.foldl (fun s (user, params) => s.send params (.getTracks user)) s).owed o =
      s.owed o := by
  induction friends generalizing s with
  | nil => rfl
  | cons friend friends ih => exact ih.trans ((owed_send _ _).trans (Int.sub_zero _))

theorem owed_crash : s.crash.owed o = s.owed o := rfl

theorem owed_getFriendsCb : (s.getFriendsCb ctx r).owed o = s.owed o := by
  unfold getFriendsCb
  split
  · exact owed_crash
  · rfl
  · split
    · exact owed_crash
    · exact owed_sendTracks _

theorem owed_getTracksCb (user : XmlNode) : (s.getTracksCb ctx user r).owed o = s.owed o := by
  unfold getTracksCb
  split
  · exact owed_crash
  · rfl
  · split
    · exact owed_crash
    · exact owed_updateIfDone.trans (owed_addTracks _ _)

theorem owed_popPending (o' : ItemRef) :
    (s.note [.popPending o']).owed o = s.owed o - if o' = o then 1 else 0 := by
  have hpushes : pushes o [.popPending o'] = 0 := rfl
  have hpops : pops o [.popPending o'] = if o' = o then 1 else 0 := by
    simp [pops, List.countP_singleton]
  rw [owed_note, hpushes, hpops]
  split_ifs <;> omega

/-- A reply for an artist matches one push at most. -/
theorem owed_getArtistInfoCb (o' : ItemRef) :
    s.owed o - (if o' = o then 1 else 0) ≤ (s.getArtistInfoCb o' r).owed o := by
  generalize hn : (if o' = o then (1 : Int) else 0) = n
  have hle : 0 ≤ n := by
    rw [← hn]
    split_ifs <;> decide
  unfold getArtistInfoCb
  split
  · rw [owed_crash]
    omega
  · omega
  · split
    · rw [owed_crash]
      omega
    · rename_i url _
      rw [owed_updateIfDone, owed_popPending, hn]
      cases url with
      | none => exact le_refl _
      | some url => exact (congrArg (· - n) ((owed_note _).trans (Int.add_zero _))).ge

theorem asksFor_getArtistInfo {call : LastfmCall} {o' : ItemRef}
    (hcallback : call.callback = .getArtistInfo o') : asksFor o call = decide (o' = o) := by
  unfold asksFor
  rw [hcallback]

/-- No step makes up for a push that lacks its pop. -/
theorem owed_step : s.owed o ≤ (step ctx s r).owed o := by
  by_cases hrunning : s.running = true
  · cases hcall : s.answered r with
    | none => rw [step_of_not_answered hcall]
    | some call =>
      have hcomplete := owed_complete (o := o) hcall
      rw [step_of_answered hrunning hcall, onReply]
      cases hcallback : call.callback with
      | getFriends =>
        dsimp only
        rw [owed_getFriendsCb, hcomplete]
        split_ifs <;> omega
      | getTracks user =>
        dsimp only
        rw [owed_getTracksCb, hcomplete]
        split_ifs <;> omega
      | getArtistInfo o' =>
        have hasks := asksFor_getArtistInfo (o := o) hcallback
        have hartist := owed_getArtistInfoCb (s := s.complete call) (r := r) (o := o) o'
        rw [hcomplete, hasks] at hartist
        simp only [decide_eq_true_eq] at hartist
        dsimp only
        omega
  · unfold step
    rw [if_neg hrunning]

theorem Broken.step (h : Broken s) (ctx : LastfmContext) (r : LastfmReply) :
    Broken (step ctx s r) := by
  rcases h with hcrash | ⟨o, howed⟩ | ⟨hidle, hquiet⟩
  · unfold SwLastfmItemView.step
    rw [if_neg (by rw [hcrash]; exact Bool.false_ne_true)]
    exact .inl hcrash
  · exact .inr (.inl ⟨o, howed.trans_le owed_step⟩)
  · rw [step_of_not_answered (answered_of_idle hidle)]
    exact .inr (.inr ⟨hidle, hquiet⟩)

theorem Broken.run (h : Broken s) (ctx : LastfmContext) (replies : List LastfmReply) :
    Broken (runFrom (SwLastfmItemView.step ctx) s replies) :=
  (everyState_of_step (fun _ r hs => hs.step ctx r) h replies).last

section broken

variable {call : LastfmCall}

theorem Working.broken_friends (h : Working s) (hcall : s.answered r = some call)
    (hcallback : call.callback = .getFriends)
    (hnot : ¬ ∃ root friends, rootOf r = some (some root) ∧ friendsOf ctx root = some friends ∧
      friends ≠ []) :
    Broken ((s.complete call).getFriendsCb ctx r) := by
  obtain ⟨hsound, hidle⟩ := h.complete_friends hcall hcallback
  have hover : Broken (s.complete call) := .inr (.inr ⟨hidle, hsound.books.quiet⟩)
  unfold getFriendsCb
  split
  · exact .inl rfl
  · exact hover
  · rename_i root hroot
    split
    · exact .inl rfl
    · rename_i friends hfriends
      obtain rfl : friends = [] := by
        by_contra hne
        exact hnot ⟨root, friends, hroot, hfriends, hne⟩
      exact hover

theorem Working.broken_tracks (h : Working s) (hcall : s.answered r = some call) {user : XmlNode}
    (hcallback : call.callback = .getTracks user)
    (hnot : ¬ (rootOf r = some none ∧ s.inFlight.length ≠ 1 ∨
      ∃ root tracks, rootOf r = some (some root) ∧ tracksOf ctx r.now user root = some tracks)) :
    Broken ((s.complete call).getTracksCb ctx user r) := by
  have hsound := h.complete_tracks hcall hcallback
  unfold getTracksCb
  split
  · exact .inl rfl
  · rename_i hroot
    refine .inr (.inr ⟨?_, hsound.books.quiet⟩)
    have hone : s.inFlight.length = 1 := by
      by_contra hother
      exact hnot (.inl ⟨hroot, hother⟩)
    have hlength := (answered_perm hcall).length_eq
    rw [hone, List.length_cons] at hlength
    exact List.eq_nil_of_length_eq_zero (by omega)
  · rename_i root hroot
    split
    · exact .inl rfl
    · rename_i tracks htracks
      exact absurd (.inr ⟨root, tracks, hroot, htracks⟩) hnot

theorem Working.broken_artist (h : Working s) (hcall : s.answered r = some call) {o : ItemRef}
    (hcallback : call.callback = .getArtistInfo o)
    (hnot : ¬ ∃ root url, rootOf r = some (some root) ∧ artistImage root = some url) :
    Broken ((s.complete call).getArtistInfoCb o r) := by
  unfold getArtistInfoCb
  split
  · exact .inl rfl
  · refine .inr (.inl ⟨o, ?_⟩)
    rw [owed_complete hcall, h.balance, asksFor_getArtistInfo hcallback]
    simp
  · rename_i root hroot
    split
    · exact .inl rfl
    · rename_i url hurl
      exact absurd ⟨root, url, hroot, hurl⟩ hnot

/-- **Any other reply** ends it. -/
theorem Working.broken (h : Working s) (hnot : ¬ s.AnsweredWell ctx r) :
    Broken (SwLastfmItemView.step ctx s r) := by
  unfold AnsweredWell at hnot
  push Not at hnot
  obtain ⟨hrunning, call, hcall, hkind⟩ := hnot
  rw [step_of_answered hrunning hcall, onReply]
  cases hcallback : call.callback with
  | getFriends =>
    rw [hcallback] at hkind
    exact h.broken_friends hcall hcallback hkind
  | getTracks user =>
    rw [hcallback] at hkind
    exact h.broken_tracks hcall hcallback hkind
  | getArtistInfo o =>
    rw [hcallback] at hkind
    exact h.broken_artist hcall hcallback hkind

end broken

/-! ## Refreshes -/

theorem working_getStatusUpdates (s : SwLastfmItemView) (hrunning : s.running = true)
    (userId : String) : Working (s.getStatusUpdates ctx (some userId)) :=
  ⟨hrunning, ⟨List.Perm.refl _, rfl, rfl⟩, fun _ => rfl, List.cons_ne_nil _ _,
    .inl ⟨_, rfl, rfl⟩⟩

theorem Over.step (h : Over s) : Over (SwLastfmItemView.step ctx s r) := by
  rw [step_of_not_answered (answered_of_idle h.idle)]
  exact h

theorem Over.answeredWell (h : Over s) : s.AnsweredWell ctx r := by
  intro _ call hcall
  rw [answered_of_idle h.idle] at hcall
  cases hcall

/-- **The run.** -/
theorem done_iff_of_working (h : Working s ∨ Over s) (replies : List LastfmReply)
    (hend : (runFrom (SwLastfmItemView.step ctx) s replies).running = false ∨
      (runFrom (SwLastfmItemView.step ctx) s replies).inFlight = []) :
    (runFrom (SwLastfmItemView.step ctx) s replies).RefreshDone ↔
      EveryStep (SwLastfmItemView.step ctx) (fun s r => s.AnsweredWell ctx r) s replies := by
  induction replies generalizing s with
  | nil =>
    rcases h with h | h
    · rcases hend with hend | hend
      · rw [runFrom_nil, h.running] at hend
        cases hend
      · exact absurd hend h.busy
    · exact iff_of_true h.done trivial
  | cons r replies ih =>
    by_cases hwell : s.AnsweredWell ctx r
    · have hnext : Working (SwLastfmItemView.step ctx s r) ∨ Over (SwLastfmItemView.step ctx s r) :=
        h.elim (·.step hwell) fun hover => .inr hover.step
      exact (ih hnext hend).trans (and_iff_right hwell).symm
    · have hworking : Working s := h.resolve_right fun hover => hwell hover.answeredWell
      refine iff_of_false ?_ fun hsteps => hwell hsteps.1
      exact ((hworking.broken hwell).run ctx replies).not_done

/-- **Refreshes.** When nothing is in flight any more, the refresh has completed once, with the
items that are not banned and all pushes matched, exactly if every reply was good: the one for the
friends told of a friend, those for artists were no errors, the last one was no failed reply for
tracks, and none lacked what the code or librest reads. -/
theorem refreshed_iff (ctx : LastfmContext) (s : SwLastfmItemView) (userId : String)
    (replies : List LastfmReply) (hrunning : s.running = true)
    (hend : (runFrom (step ctx) (s.getStatusUpdates ctx (some userId)) replies).running = false ∨
      (runFrom (step ctx) (s.getStatusUpdates ctx (some userId)) replies).inFlight = []) :
    (runFrom (step ctx) (s.getStatusUpdates ctx (some userId)) replies).RefreshDone ↔
      EveryStep (step ctx) (fun s r => s.AnsweredWell ctx r)
        (s.getStatusUpdates ctx (some userId)) replies :=
  done_iff_of_working (.inl (working_getStatusUpdates s hrunning userId)) replies hend

/-! ## Two refreshes -/

/-- A view that was just made. -/
def idle : SwLastfmItemView := ⟨true, [], [], 0, 0, KeySet.empty, []⟩

def sampleContext : LastfmContext :=
  ⟨⟨0, "lastfm"⟩, "key", .strict, fun _ => "today"⟩

/-- A node with a content and children that `rest_xml_node_find` finds. -/
def sampleNode (name : String) (content : Option String) (found : List (String × List XmlNode)) :
    XmlNode :=
  ⟨name, content, [("status", "ok")], [], found⟩

/-- A good reply with these nodes. -/
def sampleReply (call : Nat) (found : List (String × List XmlNode)) : LastfmReply where
  call := call
  result := some ⟨200, "OK", "", some (sampleNode "lfm" none found)⟩
  banned := fun _ => false
  now := 0

/-- One friend, one track without an image, and an artist without one. -/
def sampleReplies : List LastfmReply :=
  let text (name content : String) := (name, [sampleNode name (some content) []])
  [sampleReply 0 [("user", [sampleNode "user" none [text "name" "ann", text "realname" "Ann"]])],
    sampleReply 1 [("track", [sampleNode "track" none [text "url" "u", text "name" "Song",
      text "album" "Album", text "artist" "Band"]])],
    sampleReply 2 [text "artist" "Band"]]

theorem refreshed_sample : (runFrom (step sampleContext)
    (idle.getStatusUpdates sampleContext (some "me")) sampleReplies).RefreshDone := by
  refine (refreshed_iff sampleContext idle "me" sampleReplies rfl (.inr rfl)).2
    ⟨?_, ?_, ?_, trivial⟩
  · rintro - call hcall
    cases hcall
    exact ⟨_, _, rfl, rfl, List.cons_ne_nil _ _⟩
  · rintro - call hcall
    cases hcall
    exact .inr ⟨_, _, rfl, rfl⟩
  · rintro - call hcall
    cases hcall
    exact ⟨_, _, rfl, rfl⟩

/-- A user without friends: the only call has been answered, and nothing was passed on. -/
theorem noFriends_not_done :
    (runFrom (step sampleContext) (idle.getStatusUpdates sampleContext (some "me"))
      [sampleReply 0 []]).inFlight = [] ∧
      ¬ (runFrom (step sampleContext) (idle.getStatusUpdates sampleContext (some "me"))
        [sampleReply 0 []]).RefreshDone :=
  ⟨rfl, Broken.not_done (.inr (.inr ⟨rfl, rfl⟩))⟩

end SwLastfmItemView

end LibSocialWeb
