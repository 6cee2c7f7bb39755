import LibSocialWeb.Flickr.CredentialsObject
import LibSocialWeb.Flickr.Service

/-!
# Load callbacks and the views they are for

The item views and the contact views of Flickr (`services/flickr/flickr-item-view.c`,
`services/flickr/flickr-contact-view.c`) load the credentials in the same way: on start, on
refresh, on their timer and when the capabilities of the service change. A view passes itself as the
user data of `_on_credentials_loaded`, as a plain pointer. When the client closes the view or leaves
the bus, the only reference is dropped; `dispose` removes the timer and the handlers, but nothing
takes the view out of the loads that are still to be answered.

**System.** The credentials object is any `CredentialsObject`. `userData` lists the user data of all
loads by number: a view, or the service itself. `ran` lists the callbacks that ran for views, and
whether the view had been disposed by then.

**Main result.** `noStaleCallback`: with either manager, no callback runs for a disposed view along
a run in which a view is finalized only while none of its loads is to be answered.
-/

namespace LibSocialWeb

open InFlight Transition

/-- A `SwFlickrItemView` or a `SwFlickrContactView`. -/
structure FlickrView where
  timeoutId : Bool
  disposed : Bool
  deriving DecidableEq

/-- A callback that ran for a view. -/
structure RanCallback where
  view : Nat
  disposed : Bool
  deriving DecidableEq

structure ViewSys (C : CredentialsObject) where
  credentials : C.State
  views : List FlickrView
  userData : List (Option Nat)
  ran : List RanCallback

inductive ViewEvent (C : CredentialsObject) where
  | opened
  | start (v : Nat) (l : C.Load)
  | stop (v : Nat)
  | refresh (v : Nat) (l : C.Load)
  | timeout (v : Nat) (l : C.Load)
  | capabilitiesChanged (v : Nat) (caps : List String) (l : C.Load)
  | close (v : Nat)
  | disconnect (v : Nat)
  | serviceLoad (l : C.Load)
  | reply (r : C.Reply)

namespace ViewSys

variable {C : CredentialsObject}

/-- No view yet. -/
def init (C : CredentialsObject) : ViewSys C := ⟨C.init, [], [], []⟩

def requests (s : ViewSys C) : Requests C.Call (LoadAction C.Data) := C.requests s.credentials

def isDisposed (s : ViewSys C) (v : Nat) : Bool :=
  match s.views[v]? with
  | some view => view.disposed
  | none => true

/-- `_on_credentials_loaded`, for each load that was answered since `before`. -/
def onCredentialsLoaded (before : Requests C.Call (LoadAction C.Data)) (s : ViewSys C) :
    ViewSys C :=
  { s with ran := s.ran ++ (callbacksSince before s.requests).filterMap fun i =>
      s.userData[i]?.join.map fun v => ⟨v, s.isDisposed v⟩ }

/-- `flickr_credentials_load` -/
def credentialsLoad (userData : Option Nat) (l : C.Load) (s : ViewSys C) : ViewSys C :=
  onCredentialsLoaded s.requests { s with
    credentials := C.load s.credentials l
    userData := s.userData ++ [userData] }

/-- `_get_status_updates` -/
def getStatusUpdates (v : Nat) (l : C.Load) (s : ViewSys C) : ViewSys C :=
  s.credentialsLoad (some v) l

/-- `g_timeout_add_seconds` and `g_source_remove` on the timer of a view. -/
def setTimeout (v : Nat) (armed : Bool) (s : ViewSys C) : ViewSys C :=
  { s with views := s.views.modify v fun view => { view with timeoutId := armed } }

/-- `flickr_item_view_start` and `flickr_contact_view_start` -/
def start (v : Nat) (l : C.Load) (view : FlickrView) (s : ViewSys C) : ViewSys C :=
  if view.timeoutId then s else (s.setTimeout v true).getStatusUpdates v l

/-- `flickr_item_view_stop` and `flickr_contact_view_stop` -/
def stop (v : Nat) (view : FlickrView) (s : ViewSys C) : ViewSys C :=
  if !view.timeoutId then s else s.setTimeout v false

/-- `flickr_item_view_refresh` and `flickr_contact_view_refresh` -/
def refresh (v : Nat) (l : C.Load) (s : ViewSys C) : ViewSys C := s.getStatusUpdates v l

/-- `_update_timeout_cb` -/
def updateTimeoutCb (v : Nat) (l : C.Load) (s : ViewSys C) : ViewSys C := s.getStatusUpdates v l

/-- `_service_capabilities_changed_cb` -/
def serviceCapabilitiesChangedCb (v : Nat) (caps : List String) (l : C.Load) (view : FlickrView)
    (s : ViewSys C) : ViewSys C :=
  if CREDENTIALS_VALID ∈ caps then
    let s := s.refresh v l
    if !view.timeoutId then s.setTimeout v true else s
  else if view.timeoutId then s.setTimeout v false
  else s

/-- `sw_flickr_item_view_dispose` and `sw_flickr_contact_view_dispose` -/
def dispose (v : Nat) (s : ViewSys C) : ViewSys C :=
  { s with views := s.views.modify v fun _ => ⟨false, true⟩ }

/-- A view that was disposed is off the bus and has no timer and no handlers. -/
def onView (v : Nat) (f : FlickrView → ViewSys C → ViewSys C) (s : ViewSys C) : ViewSys C :=
  match s.views[v]? with
  | some view => if view.disposed then s else f view s
  | none => s

def step (s : ViewSys C) : ViewEvent C → ViewSys C
  | .opened => { s with views := s.views ++ [⟨false, false⟩] }
  | .start v l => s.onView v (start v l)
  | .stop v => s.onView v (stop v)
  | .refresh v l => s.onView v fun _ => refresh v l
  | .timeout v l =>
    s.onView v fun view s => if view.timeoutId then s.updateTimeoutCb v l else s
  | .capabilitiesChanged v caps l => s.onView v (serviceCapabilitiesChangedCb v caps l)
  | .close v => s.onView v fun _ => dispose v
  | .disconnect v => s.onView v fun _ => dispose v
  | .serviceLoad l => s.credentialsLoad none l
  | .reply r => onCredentialsLoaded s.requests { s with credentials := C.reply s.credentials r }

/-! ## The property and the condition -/

/-- Every callback ran while its view was not disposed. -/
def NoStaleCallback (s : ViewSys C) : Prop := ∀ r ∈ s.ran, r.disposed = false

/-- No load of the view is to be answered. -/
def Idle (s : ViewSys C) (v : Nat) : Prop :=
  ∀ c ∈ s.requests.calls, s.userData[C.owner c]? ≠ some (some v)

/-- A view is finalized only while none of its loads is to be answered. -/
def FinalizedIdle (s : ViewSys C) : ViewEvent C → Prop
  | .close v => s.Idle v
  | .disconnect v => s.Idle v
  | _ => True

/-! ## The invariant -/

/-- The loads in flight are for views that are not disposed. -/
structure Live (s : ViewSys C) : Prop where
  numbered : s.userData.length = s.requests.made
  made : ∀ c ∈ s.requests.calls, C.owner c < s.requests.made
  live : ∀ c ∈ s.requests.calls, ∀ v, s.userData[C.owner c]? = some (some v) →
    s.isDisposed v = false
  ran : s.NoStaleCallback

theorem live_init : Live (init C) := by
  have hnone : (init C).requests = .none := C.init_requests
  refine ⟨?_, ?_, ?_, fun r hr => absurd hr List.not_mem_nil⟩
  · rw [hnone]
    rfl
  · intro c hc
    rw [hnone] at hc
    cases hc
  · intro c hc
    rw [hnone] at hc
    cases hc

/-- `onCredentialsLoaded` runs callbacks for views that are not disposed when the loads answered
since `before` are for such views. -/
theorem ran_onCredentialsLoaded {s : ViewSys C} {before : Requests C.Call (LoadAction C.Data)}
    (hran : ∀ r ∈ s.ran, r.disposed = false)
    (hlive : ∀ i ∈ callbacksSince before s.requests, ∀ v, s.userData[i]? = some (some v) →
      s.isDisposed v = false) : (s.onCredentialsLoaded before).NoStaleCallback := by
  intro r hr
  rcases List.mem_append.1 hr with hr | hr
  · exact hran r hr
  · obtain ⟨i, hi, hsome⟩ := List.mem_filterMap.1 hr
    obtain ⟨v, hv, rfl⟩ := Option.map_eq_some_iff.1 hsome
    exact hlive i hi v (Option.join_eq_some_iff.1 hv)

/-! ## Loads and replies -/

/-- One load is made, for user data of its own: it has the new calls and is the only one that is
answered. -/
theorem live_of_made {s : ViewSys C} (hs : Live s) {userData : Option Nat}
    (hud : ∀ v, userData = some v → s.isDisposed v = false) {credentials : C.State}
    (hmade : (C.requests credentials).made = s.requests.made + 1)
    (hcalls : ∀ c ∈ (C.requests credentials).calls,
      c ∈ s.requests.calls ∨ C.owner c = s.requests.made)
    (hcallbacks : ∀ i ∈ callbacksSince s.requests (C.requests credentials), i = s.requests.made) :
    Live (onCredentialsLoaded s.requests
      { s with credentials := credentials, userData := s.userData ++ [userData] }) := by
  have hold : ∀ c ∈ s.requests.calls,
      (s.userData ++ [userData])[C.owner c]? = s.userData[C.owner c]? := by
    intro c hc
    exact List.getElem?_append_left (hs.numbered ▸ hs.made c hc)
  have hnew : ∀ v, (s.userData ++ [userData])[s.requests.made]? = some (some v) →
      s.isDisposed v = false := by
    intro v hv
    rw [← hs.numbered, List.getElem?_concat_length] at hv
    exact hud v (Option.some.inj hv)
  refine ⟨?_, ?_, ?_, ?_⟩
  · show (s.userData ++ [userData]).length = (C.requests credentials).made
    rw [List.length_append, hs.numbered, hmade]
    rfl
  · intro c hc
    show C.owner c < (C.requests credentials).made
    rw [hmade]
    rcases hcalls c hc with hc | howner
    · exact Nat.lt_succ_of_lt (hs.made c hc)
    · exact howner ▸ Nat.lt_succ_self _
  · intro c hc v hv
    rcases hcalls c hc with hc | howner
    · exact hs.live c hc v ((hold c hc).symm.trans hv)
    · exact hnew v (howner ▸ hv)
  · refine ran_onCredentialsLoaded hs.ran ?_
    intro i hi v hv
    exact hnew v (hcallbacks i hi ▸ hv)

theorem live_credentialsLoad {s : ViewSys C} (hs : Live s) {userData : Option Nat}
    (hud : ∀ v, userData = some v → s.isDisposed v = false) (l : C.Load) :
    Live (s.credentialsLoad userData l) := by
  rcases C.load_cases s.credentials l with ⟨c, howner, hreq⟩ | ⟨acts, hreq⟩
  · -- The load is in flight.
    apply live_of_made hs hud
    · rw [hreq]
      rfl
    · intro c' hc'
      rw [hreq] at hc'
      rcases List.mem_append.1 hc' with hc' | hc'
      · exact Or.inl hc'
      · exact Or.inr (List.mem_singleton.1 hc' ▸ howner)
    · intro i hi
      exact absurd hi (notMem_callbacksSince (by rw [hreq]; rfl) i)
  · -- The load is answered at once.
    apply live_of_made hs hud
    · rw [hreq]
      rfl
    · intro c' hc'
      rw [hreq] at hc'
      exact Or.inl hc'
    · intro i hi
      exact mem_callbacksSince_notes (by rw [hreq]; rfl) hi

/-- A reply that makes no load of its own, and answers a load that has a call in flight. -/
theorem live_of_answered {s : ViewSys C} (hs : Live s) {credentials : C.State}
    (hmade : (C.requests credentials).made = s.requests.made)
    (hcalls : ∀ c' ∈ (C.requests credentials).calls, ∃ c ∈ s.requests.calls,
      C.owner c' = C.owner c)
    (hcallbacks : ∀ i ∈ callbacksSince s.requests (C.requests credentials),
      ∃ c ∈ s.requests.calls, i = C.owner c) :
    Live (onCredentialsLoaded s.requests { s with credentials := credentials }) where
  numbered := hs.numbered.trans hmade.symm
  made := by
    intro c' hc'
    obtain ⟨c, hc, howner⟩ := hcalls c' hc'
    show C.owner c' < (C.requests credentials).made
    rw [hmade, howner]
    exact hs.made c hc
  live := by
    intro c' hc' v hv
    obtain ⟨c, hc, howner⟩ := hcalls c' hc'
    rw [howner] at hv
    exact hs.live c hc v hv
  ran := by
    refine ran_onCredentialsLoaded hs.ran ?_
    intro i hi v hv
    obtain ⟨c, hc, rfl⟩ := hcallbacks i hi
    exact hs.live c hc v hv

theorem live_reply {s : ViewSys C} (hs : Live s) (r : C.Reply) :
    Live (onCredentialsLoaded s.requests { s with credentials := C.reply s.credentials r }) := by
  have herase : ∀ {c c' : C.Call}, c' ∈ s.requests.calls.erase c → c' ∈ s.requests.calls :=
    List.mem_of_mem_erase
  rcases C.reply_cases s.credentials r with hreq | ⟨c, hc, ⟨c', howner, hreq⟩ | ⟨acts, hreq⟩⟩
  · apply live_of_answered hs
    · rw [hreq]
      rfl
    · intro c hc
      rw [hreq] at hc
      exact ⟨c, hc, rfl⟩
    · intro i hi
      exact absurd hi (notMem_callbacksSince (by rw [hreq]; rfl) i)
  · apply live_of_answered hs
    · rw [hreq]
      rfl
    · intro c₁ hc₁
      rw [hreq] at hc₁
      rcases List.mem_append.1 hc₁ with hc₁ | hc₁
      · exact ⟨c₁, herase hc₁, rfl⟩
      · obtain rfl := List.mem_singleton.1 hc₁
        exact ⟨c, hc, howner⟩
    · intro i hi
      exact absurd hi (notMem_callbacksSince (by rw [hreq]; rfl) i)
  · apply live_of_answered hs
    · rw [hreq]
      rfl
    · intro c₁ hc₁
      rw [hreq] at hc₁
      exact ⟨c₁, herase hc₁, rfl⟩
    · intro i hi
      exact ⟨c, hc, mem_callbacksSince_notes (by rw [hreq]; rfl) hi⟩

/-! ## Views -/

theorem isDisposed_modify (s : ViewSys C) (v w : Nat) (f : FlickrView → FlickrView) :
    isDisposed { s with views := s.views.modify v f } w =
      match s.views[w]? with
      | some view => if v = w then (f view).disposed else view.disposed
      | none => true := by
  unfold isDisposed
  dsimp only
  rw [List.getElem?_modify]
  cases s.views[w]? with
  | none => rfl
  | some view =>
    dsimp only [Option.map_some]
    split_ifs <;> rfl

/-- Changes of the views that dispose of no view with a load in flight. -/
theorem Live.views {s : ViewSys C} (hs : Live s) {views : List FlickrView}
    (hviews : ∀ c ∈ s.requests.calls, ∀ v, s.userData[C.owner c]? = some (some v) →
      s.isDisposed v = false → isDisposed { s with views := views } v = false) :
    Live { s with views := views } where
  numbered := hs.numbered
  made := hs.made
  live c hc v hv := hviews c hc v hv (hs.live c hc v hv)
  ran := hs.ran

theorem live_setTimeout {s : ViewSys C} (hs : Live s) (v : Nat) (armed : Bool) :
    Live (s.setTimeout v armed) := by
  apply hs.views
  intro c _ w _ hw
  rw [isDisposed_modify]
  unfold isDisposed at hw
  cases hview : s.views[w]? with
  | none =>
    rw [hview] at hw
    cases hw
  | some view =>
    rw [hview] at hw
    dsimp only
    split_ifs <;> exact hw

theorem isDisposed_setTimeout (s : ViewSys C) (v w : Nat) (armed : Bool) :
    (s.setTimeout v armed).isDisposed w = s.isDisposed w := by
  rw [setTimeout, isDisposed_modify, isDisposed]
  cases s.views[w]? with
  | none => rfl
  | some view =>
    dsimp only
    split_ifs <;> rfl

theorem live_opened {s : ViewSys C} (hs : Live s) :
    Live { s with views := s.views ++ [⟨false, false⟩] } := by
  apply hs.views
  intro c _ v _ hv
  unfold isDisposed at hv ⊢
  cases hview : s.views[v]? with
  | none =>
    rw [hview] at hv
    cases hv
  | some view =>
    rw [hview] at hv
    dsimp only
    rw [List.getElem?_append_left (List.getElem?_eq_some_iff.1 hview).1, hview]
    exact hv

theorem live_dispose {s : ViewSys C} (hs : Live s) {v : Nat} (hidle : s.Idle v) :
    Live (s.dispose v) := by
  apply hs.views
  intro c hc w hw hlive
  have hne : v ≠ w := by
    intro heq
    subst heq
    exact hidle c hc hw
  rw [isDisposed_modify]
  unfold isDisposed at hlive
  cases hview : s.views[w]? with
  | none =>
    rw [hview] at hlive
    cases hlive
  | some view =>
    rw [hview] at hlive
    dsimp only
    rw [if_neg hne]
    exact hlive

theorem live_getStatusUpdates {s : ViewSys C} (hs : Live s) {v : Nat} (hv : s.isDisposed v = false)
    (l : C.Load) : Live (s.getStatusUpdates v l) := by
  apply live_credentialsLoad hs
  intro w hw
  rw [← Option.some.inj hw]
  exact hv

/-! ## Runs -/

/-- A view that was disposed gets no events. -/
theorem live_onView {s : ViewSys C} (hs : Live s) {v : Nat}
    {f : FlickrView → ViewSys C → ViewSys C}
    (hf : ∀ view, s.isDisposed v = false → Live (f view s)) : Live (s.onView v f) := by
  unfold onView
  cases hview : s.views[v]? with
  | none => exact hs
  | some view =>
    dsimp only
    split_ifs with hdisposed
    · exact hs
    · apply hf
      rw [isDisposed, hview]
      exact Bool.eq_false_iff.2 hdisposed

theorem live_step (s : ViewSys C) (e : ViewEvent C) (hs : Live s) (hok : s.FinalizedIdle e) :
    Live (s.step e) := by
  cases e with
  | opened => exact live_opened hs
  | start v l =>
    apply live_onView hs
    intro view hv
    unfold start
    split_ifs
    · exact hs
    · apply live_getStatusUpdates (live_setTimeout hs v true)
      rwa [isDisposed_setTimeout]
  | stop v =>
    apply live_onView hs
    intro view _
    unfold stop
    split_ifs
    · exact hs
    · exact live_setTimeout hs v false
  | refresh v l => exact live_onView hs fun _ hv => live_getStatusUpdates hs hv l
  | timeout v l =>
    apply live_onView hs
    intro view hv
    split_ifs
    · exact live_getStatusUpdates hs hv l
    · exact hs
  | capabilitiesChanged v caps l =>
    apply live_onView hs
    intro view hv
    unfold serviceCapabilitiesChangedCb
    dsimp only
    split_ifs
    · exact live_setTimeout (live_getStatusUpdates hs hv l) v true
    · exact live_getStatusUpdates hs hv l
    · exact live_setTimeout hs v false
    · exact hs
  | close v => exact live_onView hs fun _ _ => live_dispose hs hok
  | disconnect v => exact live_onView hs fun _ _ => live_dispose hs hok
  | serviceLoad l => exact live_credentialsLoad hs (fun v hv => by cases hv) l
  | reply r => exact live_reply hs r

/-- Views that are finalized idle are never called back after that, whatever the credentials
object. -/
theorem everyState_noStaleCallback {es : List (ViewEvent C)}
    (hok : EveryStep step FinalizedIdle (init C) es) :
    EveryState step NoStaleCallback (init C) es :=
  (everyState_of_everyStep live_step live_init hok).mono fun _ hs => hs.ran

/-- **No load callback runs for a disposed view**, with either manager, along a run in which a view
is finalized only while none of its loads is to be answered. -/
theorem noStaleCallback (base64Decode : String → String) :
    (∀ es, EveryStep step FinalizedIdle (init (keyringObject base64Decode)) es →
      EveryState step NoStaleCallback (init (keyringObject base64Decode)) es) ∧
    ∀ es, EveryStep step FinalizedIdle (init goaObject) es →
      EveryState step NoStaleCallback (init goaObject) es :=
  ⟨fun _ => everyState_noStaleCallback, fun _ => everyState_noStaleCallback⟩

/-- The lookup that a load with these keys makes first. -/
def firstLookup : TokenLookup := ⟨0, .new (some "key") (some "secret")⟩

/-- A view is closed after the keyring has answered. -/
def closedAfterReply : List (ViewEvent (keyringObject id)) :=
  [.opened, .start 0 (some "key", some "secret"), .reply (firstLookup, some "token secret"),
    .close 0]

/-- The client leaves after the bus has answered. -/
def leftAfterReply : List (ViewEvent goaObject) :=
  [.opened, .refresh 0 (true, true), .reply (.inl (0, none, true)), .disconnect 0]

theorem noStaleCallback_afterReply :
    EveryState step NoStaleCallback (init (keyringObject id)) closedAfterReply ∧
      EveryState step NoStaleCallback (init goaObject) leftAfterReply := by
  refine ⟨(noStaleCallback id).1 _ ⟨trivial, trivial, trivial, ?_, trivial⟩,
    (noStaleCallback id).2 _ ⟨trivial, trivial, trivial, ?_, trivial⟩⟩
  · intro c hc
    exact (List.not_mem_nil hc).elim
  · intro c hc
    exact (List.not_mem_nil hc).elim

/-- A view is closed before the keyring has answered. -/
def closedBeforeReply : List (ViewEvent (keyringObject id)) :=
  [.opened, .start 0 (some "key", some "secret"), .close 0,
    .reply (firstLookup, some "token secret")]

/-- The callback of the load then runs for the closed view. -/
theorem closedBeforeReply_stale :
    ¬ ∀ es : List (ViewEvent (keyringObject id)),
      EveryState step NoStaleCallback (init (keyringObject id)) es := by
  intro hall
  have hlast := (hall closedBeforeReply).last
  have hran : (runFrom step (init (keyringObject id)) closedBeforeReply).ran = [⟨0, true⟩] := by
    decide
  have hfalse := hlast ⟨0, true⟩ (hran ▸ List.mem_singleton_self _)
  cases hfalse

end ViewSys

end LibSocialWeb
