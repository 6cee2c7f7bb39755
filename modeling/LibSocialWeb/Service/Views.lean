import LibSocialWeb.Core.SwCache
import LibSocialWeb.ItemView.System

/-!
# The item views of a service

`SwFlickrItemView` (`services/flickr/flickr-item-view.c`) and `SwFacebookItemView`
(`services/facebook/facebook-item-view.c`) fill an `SwItemView` from the cache and from the
replies of the remote service. All views of a service share the items, the cache and the list of
banned ids (`sw-service.c`).

**Requests.** A Flickr view first loads the credentials and asks for the photos when they are
found; a Facebook view asks at once. Loads and requests are answered later, in any order, or never.
A reply is what the reader of the payload makes of it: the contents of the items, in order.

**Views.** The views of a run are there from its start. One that is opened later is one to which
nothing happened before.

**Tags.** `userChanges` counts the `user-changed` signals. Each request, each cache file and each
item made (`origin`) is tagged with the count at the time of the request it goes back to. No
function reads the tags.
-/

namespace LibSocialWeb

inductive ServiceKind where
  | flickr
  | facebook
  deriving DecidableEq

/-- A cache file and the tag of the request whose reply it holds. -/
structure CacheFile where
  groups : List CacheGroup
  asked : Nat

/-- The private data of a view: `timeoutId` is Flickr's `timeout_id` or Facebook's `running`, `file`
is the name of the cache file of its query and parameters. -/
structure ServiceView where
  base : SwItemView
  file : String
  timeoutId : Bool
  loads : Nat
  requests : List Nat

structure ServiceState where
  service : SwService
  kind : ServiceKind
  thumbnails : String
  store : Store
  bannedUids : List String
  facebookUid : Option String
  files : String → Option CacheFile
  views : List ServiceView
  userChanges : Nat
  origin : Nat → Nat

def ServiceView.open (file : String) : ServiceView := ⟨SwItemView.init, file, false, 0, []⟩

namespace ServiceState

variable (s : ServiceState)

/-- `sw_service_is_uid_banned` -/
def isUidBanned (uid : String) : Bool := uid ∈ s.bannedUids

/-- Make a set of new items, and tag them. -/
def collect (keep : String → Bool) (ns : List NewItem) (asked : Nat) : ItemSet × ServiceState :=
  let (set, store) := s.store.collect keep ns
  (set, { s with
    store := store
    origin := fun addr => if s.store.next ≤ addr then asked else s.origin addr })

def setView (i : Nat) (v : ServiceView) : ServiceState := { s with views := s.views.set i v }

/-! ## Requests -/

/-- `_make_request` (Flickr), and the call of `get_status_updates` (Facebook). -/
def makeRequest (v : ServiceView) : ServiceView :=
  { v with requests := v.requests ++ [s.userChanges] }

/-- `_get_status_updates` (Flickr): load the credentials. `get_status_updates` (Facebook): ask, if
the user is known and the view is running. -/
def getStatusUpdates (v : ServiceView) : ServiceView :=
  match s.kind with
  | .flickr => { v with loads := v.loads + 1 }
  | .facebook => if s.facebookUid.isNone || !v.timeoutId then v else s.makeRequest v

/-- `_on_credentials_loaded` -/
def onCredentialsLoaded (found : Bool) (v : ServiceView) : ServiceView :=
  if found then s.makeRequest v else v

/-! ## Replies -/

/-- The end of a successful reply: set the view, and save the set. -/
def showAndSave (i : Nat) (v : ServiceView) (order : KeyOrder ItemRef) (asked : Nat)
    (set : ItemSet) :
    ServiceState :=
  { s.setView i { v with base := v.base.setFromSet s.store.heap order set } with
    files := Function.update s.files v.file
      ((cacheSave s.store.heap order set).map fun groups => ⟨groups, asked⟩) }

/-- `_photos_received_cb`: banned photos are left out. -/
def photosReceivedCb (i : Nat) (v : ServiceView) (order : KeyOrder ItemRef) (asked : Nat)
    (reply : Option (List NewItem)) : ServiceState :=
  match reply with
  | none => s
  | some photos =>
    let (set, s) := s.collect (fun uid => !s.isUidBanned uid) photos asked
    s.showAndSave i v order asked set

/-- `got_status_cb` -/
def gotStatusCb (i : Nat) (v : ServiceView) (order : KeyOrder ItemRef) (asked : Nat)
    (reply : Option (List NewItem)) : ServiceState :=
  match reply with
  | none => s
  | some statuses =>
    let (set, s) := s.collect (fun _ => true) statuses asked
    s.showAndSave i v order asked set

/-- The reply to request `k` of view `i`. -/
def received (i k : Nat) (order : KeyOrder ItemRef) (reply : Option (List NewItem)) :
    ServiceState :=
  match s.views[i]? with
  | none => s
  | some v => match v.requests[k]? with
    | none => s
    | some asked =>
      let v := { v with requests := v.requests.eraseIdx k }
      let s := s.setView i v
      match s.kind with
      | .flickr => s.photosReceivedCb i v order asked reply
      | .facebook => s.gotStatusCb i v order asked reply

/-! ## Start and stop -/

/-- `_load_from_cache`, `load_from_cache` -/
def loadFromCache (i : Nat) (v : ServiceView) (order : KeyOrder ItemRef) :
    ServiceState × ServiceView :=
  match s.files v.file with
  | none => (s, v)
  | some file => match cacheLoad s.service s.isUidBanned s.thumbnails file.groups with
    | none => (s, v)
    | some ns =>
      let (set, s) := s.collect (fun _ => true) ns file.asked
      let v := { v with base := v.base.setFromSet s.store.heap order set }
      (s.setView i v, v)

/-- `flickr_item_view_start`, `facebook_item_view_start` -/
def startView (i : Nat) (order : KeyOrder ItemRef) (v : ServiceView) : ServiceState :=
  if v.timeoutId then s
  else
    let v := { v with timeoutId := true }
    let (s, v) := (s.setView i v).loadFromCache i v order
    s.setView i (s.getStatusUpdates v)

/-- `flickr_item_view_stop`, `facebook_item_view_stop` -/
def stopView (v : ServiceView) : ServiceView := { v with timeoutId := false }

/-- `_update_timeout_cb`, while the timeout is armed. -/
def updateTimeoutCb (v : ServiceView) : ServiceView :=
  if v.timeoutId then s.getStatusUpdates v else v

/-! ## Signals of the service -/

/-- `_service_user_changed_cb`, `_service_user_changed`, in every view: empty the view and drop the
cache. -/
def userChanged (order : KeyOrder ItemRef) : ServiceState :=
  { s with
    views := s.views.map fun v =>
      { v with base := v.base.setFromSet s.store.heap order KeySet.empty }
    files := if s.views.isEmpty then s.files else fun _ => none
    userChanges := s.userChanges + 1 }

/-- `_service_capabilities_changed_cb`, `_service_capabilities_changed` -/
def capabilitiesChanged (credentialsValid : Bool) (v : ServiceView) : ServiceView :=
  match s.kind with
  | .flickr =>
    if credentialsValid then
      let v := s.getStatusUpdates v
      if !v.timeoutId then { v with timeoutId := true } else v
    else { v with timeoutId := false }
  | .facebook => if credentialsValid then s.getStatusUpdates v else v

/-- `banishable_hide_item`: ban the id, and `_service_item_hidden_cb` in every view. -/
def hideItem (uid : String) : ServiceState :=
  { s with
    bannedUids := if uid ∈ s.bannedUids then s.bannedUids else s.bannedUids ++ [uid]
    views := s.views.map fun v => { v with base := v.base.removeByUid s.store.heap uid } }

/-! ## The transition system -/

/-- Change one view by a function of it. -/
def onView (i : Nat) (f : ServiceView → ServiceView) : ServiceState :=
  match s.views[i]? with
  | none => s
  | some v => s.setView i (f v)

end ServiceState

inductive ServiceEvent where
  | start (i : Nat) (order : KeyOrder ItemRef)
  | stop (i : Nat)
  | refresh (i : Nat)
  | updateTimeout (i : Nat)
  | credentialsLoaded (i : Nat) (found : Bool)
  | received (i k : Nat) (order : KeyOrder ItemRef) (reply : Option (List NewItem))
  | userChanged (order : KeyOrder ItemRef)
  | capabilitiesChanged (credentialsValid : Bool)
  | gotUserInfo (uid : Option String)
  | hideItem (uid : String)
  | item (e : ItemEvent)
  | pendingTimeout (i : Nat) (order : KeyOrder ItemRef)
  | refreshTimeout (i : Nat)

namespace ServiceState

/-- What an item view sees of the service. -/
def sys (s : ServiceState) (v : ServiceView) : Sys := ⟨s.store.heap, v.base⟩

/-- One event. A timer fires only while it is armed, a load is answered only while it is
outstanding. -/
def step (s : ServiceState) : ServiceEvent → ServiceState
  | .start i order => match s.views[i]? with
    | none => s
    | some v => s.startView i order v
  | .stop i => s.onView i stopView
  | .refresh i => s.onView i s.getStatusUpdates
  | .updateTimeout i => s.onView i s.updateTimeoutCb
  | .credentialsLoaded i found => s.onView i fun v =>
      if v.loads = 0 then v else s.onCredentialsLoaded found { v with loads := v.loads - 1 }
  | .received i k order reply => s.received i k order reply
  | .userChanged order => s.userChanged order
  | .capabilitiesChanged valid => { s with views := s.views.map (s.capabilitiesChanged valid) }
  | .gotUserInfo uid => { s with facebookUid := uid }
  | .hideItem uid => s.hideItem uid
  | .item e =>
      { s with
        store := { s.store with heap := e.heap s.store.heap }
        views := s.views.map fun v => { v with base := v.base.onItemEvent s.store.heap e } }
  | .pendingTimeout i order =>
    s.onView i fun v => { v with base := ((s.sys v).step (.pendingTimeout order)).view }
  | .refreshTimeout i =>
    s.onView i fun v => { v with base := ((s.sys v).step .refreshTimeout).view }

/-- A service with fresh views, one for each cache file name, over any items, cache and ban list. -/
def start (service : SwService) (kind : ServiceKind) (thumbnails : String) (store : Store)
    (bannedUids : List String) (cache : String → Option (List CacheGroup)) (names : List String) :
    ServiceState where
  service := service
  kind := kind
  thumbnails := thumbnails
  store := store
  bannedUids := bannedUids
  facebookUid := none
  files name := (cache name).map fun groups => ⟨groups, 0⟩
  views := names.map ServiceView.open
  userChanges := 0
  origin _ := 0

end ServiceState

/-! ## What the steps do to views and items -/

namespace ServiceState

variable {s : ServiceState}

theorem getStatusUpdates_base (s : ServiceState) (v : ServiceView) :
    (s.getStatusUpdates v).base = v.base := by
  unfold getStatusUpdates makeRequest
  cases s.kind with
  | flickr => rfl
  | facebook => dsimp only; split_ifs <;> rfl

theorem capabilitiesChanged_base (s : ServiceState) (valid : Bool) (v : ServiceView) :
    (s.capabilitiesChanged valid v).base = v.base := by
  unfold capabilitiesChanged
  cases s.kind with
  | flickr => dsimp only; split_ifs <;> first | exact getStatusUpdates_base s v | rfl
  | facebook => dsimp only; split_ifs <;> first | exact getStatusUpdates_base s v | rfl

/-! The parts of the state that the operations on one view leave alone. -/

theorem onView_frame (i : Nat) (f : ServiceView → ServiceView) :
    (s.onView i f).bannedUids = s.bannedUids ∧ (s.onView i f).userChanges = s.userChanges ∧
      (s.onView i f).origin = s.origin := by
  unfold onView
  cases s.views[i]? <;> exact ⟨rfl, rfl, rfl⟩

theorem loadFromCache_frame (i : Nat) (v : ServiceView) (order : KeyOrder ItemRef) :
    (s.loadFromCache i v order).1.bannedUids = s.bannedUids ∧
      (s.loadFromCache i v order).1.userChanges = s.userChanges := by
  unfold loadFromCache
  cases s.files v.file with
  | none => exact ⟨rfl, rfl⟩
  | some file =>
    dsimp only
    cases cacheLoad s.service s.isUidBanned s.thumbnails file.groups <;> exact ⟨rfl, rfl⟩

theorem start_frame (i : Nat) (order : KeyOrder ItemRef) :
    (s.step (.start i order)).bannedUids = s.bannedUids ∧
      (s.step (.start i order)).userChanges = s.userChanges := by
  dsimp only [step]
  cases s.views[i]? with
  | none => exact ⟨rfl, rfl⟩
  | some v =>
    dsimp only [startView]
    split_ifs
    · exact ⟨rfl, rfl⟩
    · exact loadFromCache_frame i _ order

theorem received_frame (i k : Nat) (order : KeyOrder ItemRef) (reply : Option (List NewItem)) :
    (s.received i k order reply).bannedUids = s.bannedUids ∧
      (s.received i k order reply).userChanges = s.userChanges := by
  unfold received
  cases s.views[i]? with
  | none => exact ⟨rfl, rfl⟩
  | some v => cases hk : v.requests[k]? with
    | none => simp [hk]
    | some asked =>
      simp only [hk]
      cases hkind : s.kind <;> simp only [setView, hkind] <;> cases reply <;> exact ⟨rfl, rfl⟩

theorem mem_setView {i : Nat} {v w : ServiceView} (hw : w ∈ (s.setView i v).views) :
    w ∈ s.views ∨ w = v := List.mem_or_eq_of_mem_set hw

/-- Making items leaves the items made before and their tags as they were. -/
theorem collect_extends (keep : String → Bool) (ns : List NewItem) (asked : Nat) :
    Store.Extends s.store (s.collect keep ns asked).2.store := Store.collect_extends keep ns s.store

theorem collect_origin (keep : String → Bool) (ns : List NewItem) (asked : Nat) {o : ItemRef}
    (ho : s.store.Made o) : (s.collect keep ns asked).2.origin o.addr = s.origin o.addr :=
  if_neg (Nat.not_le.2 ho)

/-- A collected item is tagged, and made of an entry that passes. -/
theorem mem_collect {keep : String → Bool} {ns : List NewItem} {asked : Nat} {o : ItemRef}
    (ho : o ∈ (s.collect keep ns asked).1) : (s.collect keep ns asked).2.store.Made o ∧
      (s.collect keep ns asked).2.origin o.addr = asked ∧ ∃ n ∈ ns, keep n.uid = true ∧
        n.uid = o.uid ∧ (s.collect keep ns asked).2.store.heap.ready o = n.item.getReady := by
  obtain ⟨hlow, hmade, n, hn, hk, hu, hitem⟩ := Store.fresh_of_mem_collect ho
  refine ⟨hmade, if_pos hlow, n, hn, hk, hu, ?_⟩
  rw [Heap.ready]
  exact congrArg SwItem.getReady hitem

end ServiceState

/-! ## Where the current items come from -/

theorem SwItemView.mem_setFromSet {h : Heap} {order : KeyOrder ItemRef} {set : ItemSet}
    {v : SwItemView} (hv : v.Indexed) {o : ItemRef}
    (ho : o ∈ (setFromSet h order set v).currentItemsSet) : o ∈ v.currentItemsSet ∨ o ∈ set := by
  rw [SwItemView.mem_current, slot_setFromSet h order set hv] at ho
  cases hc : (v.slot o.uid).current with
  | none =>
    rw [Slot.set_of_none hc] at ho
    cases hf : set.find o.uid with
    | none => simp [Slot.add, hf, hc] at ho
    | some x =>
      have hx : x = o := by
        rw [hf] at ho
        dsimp only [Slot.add] at ho
        split_ifs at ho <;> exact Option.some.inj ho
      exact Or.inr (hx ▸ (KeySet.find_some hf).1)
  | some old =>
    cases hf : set.find o.uid with
    | none => simp [Slot.set, hc, hf, Slot.drop] at ho
    | some x =>
      by_cases he : h.equal x old = true
      · simp only [Slot.set, hc, hf, he, if_true, Option.some.injEq] at ho
        exact Or.inl (SwItemView.mem_current.2 (hc.trans (congrArg some ho)))
      · simp only [Slot.set, hc, hf, he, Bool.false_eq_true, if_false, Option.some.injEq] at ho
        exact Or.inr (ho ▸ (KeySet.find_some hf).1)

/-- An empty set empties the view. -/
theorem SwItemView.not_mem_setFromSet_empty {h : Heap} {order : KeyOrder ItemRef} {v : SwItemView}
    (hv : v.Indexed) (o : ItemRef) : o ∉ (setFromSet h order KeySet.empty v).currentItemsSet := by
  rw [SwItemView.mem_current, slot_setFromSet h order _ hv, KeySet.find_empty]
  cases hc : (v.slot o.uid).current with
  | none => simp [Slot.set_of_none hc, Slot.add, hc]
  | some old => simp [Slot.set, hc, Slot.drop]

theorem SwItemView.mem_removeByUid {h : Heap} {uid : String} {v : SwItemView} (hv : v.Indexed)
    {o : ItemRef} (ho : o ∈ (removeByUid h uid v).currentItemsSet) :
    o ∈ v.currentItemsSet ∧ o.uid ≠ uid := by
  rw [SwItemView.mem_current, slot_removeByUid h uid hv] at ho
  split_ifs at ho with hu
  · cases ho
  · refine ⟨SwItemView.mem_current.2 ho, fun he => hu ⟨he, ?_⟩⟩
    rw [ho]
    rfl

end LibSocialWeb
