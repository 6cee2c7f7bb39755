import LibSocialWeb.Flickr.ViewLifetime

/-!
# When the Flickr views poll

A view polls through a timer that loads the credentials; when they are found, a request is made.
`timeout_id` is the timer, and the code also takes it for the sign that the view was started:
`start` arms it and `stop` removes it. `_service_capabilities_changed_cb` arms it as well, whether
or not the view was started, and `stop` leaves the loads alone that the timer has already made.

**System.** The views of `ViewSys`. `started` says for each view whether a Start came after the last
Stop, `timerLoads` numbers the loads that a timer made, and `polls` lists those loads and the
requests that came of them, with whether the view was started by then.

**Main result.** `pollsWhileStarted_iff`: timers are armed and poll only for started views, along
a run, exactly when the credentials are not announced to be valid, and no answer to a load of the
timer finds them, while a view is stopped.
-/

namespace LibSocialWeb

open InFlight Transition

/-- The loads that were answered since `before` and have found the credentials. -/
def foundSince {κ δ : Type} (before after : Requests κ (LoadAction δ)) : List Nat :=
  (after.log.drop before.log.length).filterMap fun entry =>
    match entry.2 with
    | .callback true _ _ => some entry.1
    | _ => none

/-- A load that a timer made, or a request that came of it. -/
structure Poll where
  view : Nat
  started : Bool
  deriving DecidableEq

structure PolledSys (C : CredentialsObject) where
  sys : ViewSys C
  started : List Bool
  timerLoads : List Nat
  polls : List Poll

namespace PolledSys

variable {C : CredentialsObject}

def init (C : CredentialsObject) : PolledSys C := ⟨ViewSys.init C, [], [], []⟩

variable (s : PolledSys C)

def isStarted (v : Nat) : Bool := s.started[v]?.getD false

/-- The view whose timer fires. -/
def fires : ViewEvent C → Option Nat
  | .timeout v _ =>
    match s.sys.views[v]? with
    | some view => if !view.disposed && view.timeoutId then some v else none
    | none => none
  | _ => none

def startedAfter : ViewEvent C → List Bool
  | .opened => s.started ++ [false]
  | .start v _ => s.started.set v true
  | .stop v => s.started.set v false
  | _ => s.started

def timerLoadsAfter (e : ViewEvent C) : List Nat :=
  match s.fires e with
  | some _ => s.timerLoads ++ [s.sys.requests.made]
  | none => s.timerLoads

/-- The views that a load is made for by their timer, or a request after such a load. -/
def polledViews (e : ViewEvent C) : List Nat :=
  (s.fires e).toList ++ (foundSince s.sys.requests (s.sys.step e).requests).filterMap fun i =>
    if i ∈ s.timerLoadsAfter e then (s.sys.step e).userData[i]?.join else none

def step (s : PolledSys C) (e : ViewEvent C) : PolledSys C where
  sys := s.sys.step e
  started := s.startedAfter e
  timerLoads := s.timerLoadsAfter e
  polls := s.polls ++ (s.polledViews e).map fun v => ⟨v, (s.startedAfter e)[v]?.getD false⟩

/-! ## The property and the condition -/

/-- A timer is armed only for a started view, and all polls were made for such a view. -/
def PollsWhileStarted (s : PolledSys C) : Prop :=
  (∀ v view, s.sys.views[v]? = some view → view.timeoutId = true → s.isStarted v = true) ∧
    ∀ p ∈ s.polls, p.started = true

/-- A stopped view is not told that the credentials are valid, and no load of its timer finds
them. -/
def QuietWhileStopped (s : PolledSys C) : ViewEvent C → Prop
  | .capabilitiesChanged v caps _ =>
    CREDENTIALS_VALID ∈ caps → s.sys.isDisposed v = false → s.isStarted v = true
  | .reply r =>
    ∀ i ∈ foundSince s.sys.requests (C.requests (C.reply s.sys.credentials r)), i ∈ s.timerLoads →
      ∀ v, s.sys.userData[i]? = some (some v) → s.isStarted v = true
  | _ => True

/-! ## The views after a step -/

/-- A view after an event. -/
def viewAfter (e : ViewEvent C) (v : Nat) (view : FlickrView) : FlickrView :=
  if view.disposed then view
  else
    match e with
    | .start w _ => if w = v then { view with timeoutId := true } else view
    | .stop w => if w = v then { view with timeoutId := false } else view
    | .capabilitiesChanged w caps _ =>
      if w = v then { view with timeoutId := CREDENTIALS_VALID ∈ caps } else view
    | .close w | .disconnect w => if w = v then ⟨false, true⟩ else view
    | _ => view

end PolledSys

namespace ViewSys

variable {C : CredentialsObject}

/-- A handler that changes its own view only. -/
theorem getElem?_views_onView {s : ViewSys C} {w : Nat} {f : FlickrView → ViewSys C → ViewSys C}
    {g : FlickrView → FlickrView}
    (hf : ∀ view, s.views[w]? = some view → view.disposed = false → ∀ v,
      (f view s).views[v]? = if w = v then some (g view) else s.views[v]?) (v : Nat) :
    (s.onView w f).views[v]? = (s.views[v]?).map fun view =>
      if view.disposed then view else if w = v then g view else view := by
  by_cases heq : w = v
  · subst heq
    unfold onView
    cases hview : s.views[w]? with
    | none => exact hview
    | some view =>
      dsimp only
      by_cases hdisposed : view.disposed = true
      · rw [if_pos hdisposed, hview, Option.map_some, if_pos hdisposed]
      · rw [if_neg hdisposed, hf view hview (Bool.eq_false_iff.2 hdisposed), if_pos rfl,
          Option.map_some, if_neg hdisposed, if_pos rfl]
  · have hother : (s.onView w f).views[v]? = s.views[v]? := by
      unfold onView
      cases hview : s.views[w]? with
      | none => rfl
      | some view =>
        dsimp only
        by_cases hdisposed : view.disposed = true
        · rw [if_pos hdisposed]
        · rw [if_neg hdisposed, hf view hview (Bool.eq_false_iff.2 hdisposed), if_neg heq]
    rw [hother]
    simp [heq]

theorem views_onView_of_eq {s : ViewSys C} {w : Nat} {f : FlickrView → ViewSys C → ViewSys C}
    (hf : ∀ view, (f view s).views = s.views) : (s.onView w f).views = s.views := by
  unfold onView
  cases s.views[w]? with
  | none => rfl
  | some view =>
    dsimp only
    split_ifs
    · rfl
    · exact hf view

/-- Changing a view in place. -/
theorem getElem?_modify_of_some {views : List FlickrView} {w : Nat} {view : FlickrView}
    (hview : views[w]? = some view) (g : FlickrView → FlickrView) (v : Nat) :
    (views.modify w g)[v]? = if w = v then some (g view) else views[v]? := by
  rw [List.getElem?_modify]
  split_ifs with heq
  · rw [← heq, hview]
    rfl
  · exact congrFun Option.map_id _

/-- Leaving a view as it is. -/
theorem getElem?_of_eq {views : List FlickrView} {w : Nat} {view view' : FlickrView}
    (hview : views[w]? = some view) (heq : view' = view) (v : Nat) :
    views[v]? = if w = v then some view' else views[v]? := by
  split_ifs with hw
  · rw [← hw, hview, heq]
  · rfl

/-- The view after a step; a new view comes after the others. -/
theorem getElem?_views_step (s : ViewSys C) {e : ViewEvent C} (hopened : e ≠ .opened) (v : Nat) :
    (s.step e).views[v]? = (s.views[v]?).map (PolledSys.viewAfter e v) := by
  have hkept : s.views[v]? =
      (s.views[v]?).map fun view => if view.disposed then view else view := by
    simp
  cases e with
  | opened => exact absurd rfl hopened
  | start w l =>
    refine getElem?_views_onView (g := fun view => { view with timeoutId := true }) ?_ v
    intro view hview _
    unfold start
    split_ifs with harmed
    · exact getElem?_of_eq hview (by rw [← harmed])
    · exact getElem?_modify_of_some hview _
  | stop w =>
    refine getElem?_views_onView (g := fun view => { view with timeoutId := false }) ?_ v
    intro view hview _
    unfold stop
    split_ifs with harmed
    · have hfalse : view.timeoutId = false := by simpa using harmed
      exact getElem?_of_eq hview (by rw [← hfalse])
    · exact getElem?_modify_of_some hview _
  | refresh w l =>
    rw [step, views_onView_of_eq fun _ => rfl]
    exact hkept
  | timeout w l =>
    rw [step, views_onView_of_eq fun view => by split_ifs <;> rfl]
    exact hkept
  | capabilitiesChanged w caps l =>
    refine getElem?_views_onView (g := fun view =>
      { view with timeoutId := CREDENTIALS_VALID ∈ caps }) ?_ v
    intro view hview _
    unfold serviceCapabilitiesChangedCb
    by_cases hcaps : CREDENTIALS_VALID ∈ caps
    · rw [if_pos hcaps, decide_eq_true hcaps]
      dsimp only
      split_ifs with harmed
      · exact getElem?_modify_of_some hview _
      · have htrue : view.timeoutId = true := by simpa using harmed
        exact getElem?_of_eq hview (by rw [← htrue])
    · rw [if_neg hcaps, decide_eq_false hcaps]
      split_ifs with harmed
      · exact getElem?_modify_of_some hview _
      · exact getElem?_of_eq hview (by rw [← Bool.eq_false_iff.2 harmed])
  | close w => exact getElem?_views_onView (fun view hview _ => getElem?_modify_of_some hview _) v
  | disconnect w =>
    exact getElem?_views_onView (fun view hview _ => getElem?_modify_of_some hview _) v
  | serviceLoad l => exact hkept
  | reply r => exact hkept

/-! ## The loads of a step -/

/-- A load, or none. -/
def LoadsOnce (s t : ViewSys C) : Prop :=
  (t.userData = s.userData ∧ t.requests = s.requests) ∨
    ∃ ud l, t.userData = s.userData ++ [ud] ∧ t.requests = C.requests (C.load s.credentials l)

theorem loadsOnce_onView {s : ViewSys C} {w : Nat} {f : FlickrView → ViewSys C → ViewSys C}
    (hf : ∀ view, LoadsOnce s (f view s)) : LoadsOnce s (s.onView w f) := by
  unfold onView
  cases s.views[w]? with
  | none => exact Or.inl ⟨rfl, rfl⟩
  | some view =>
    dsimp only
    split_ifs
    · exact Or.inl ⟨rfl, rfl⟩
    · exact hf view

/-- All loads but those of a reply are new. -/
theorem loadsOnce_step (s : ViewSys C) {e : ViewEvent C} (hreply : ∀ r, e ≠ .reply r) :
    LoadsOnce s (s.step e) := by
  cases e with
  | opened => exact Or.inl ⟨rfl, rfl⟩
  | start w l =>
    refine loadsOnce_onView fun view => ?_
    unfold start
    split_ifs
    · exact Or.inl ⟨rfl, rfl⟩
    · exact Or.inr ⟨_, l, rfl, rfl⟩
  | stop w =>
    refine loadsOnce_onView fun view => ?_
    unfold stop
    split_ifs <;> exact Or.inl ⟨rfl, rfl⟩
  | refresh w l => exact loadsOnce_onView fun _ => Or.inr ⟨_, l, rfl, rfl⟩
  | timeout w l =>
    refine loadsOnce_onView fun view => ?_
    split_ifs
    · exact Or.inr ⟨_, l, rfl, rfl⟩
    · exact Or.inl ⟨rfl, rfl⟩
  | capabilitiesChanged w caps l =>
    refine loadsOnce_onView fun view => ?_
    unfold serviceCapabilitiesChangedCb
    dsimp only
    split_ifs
    · exact Or.inr ⟨_, l, rfl, rfl⟩
    · exact Or.inr ⟨_, l, rfl, rfl⟩
    · exact Or.inl ⟨rfl, rfl⟩
    · exact Or.inl ⟨rfl, rfl⟩
  | close w => exact loadsOnce_onView fun _ => Or.inl ⟨rfl, rfl⟩
  | disconnect w => exact loadsOnce_onView fun _ => Or.inl ⟨rfl, rfl⟩
  | serviceLoad l => exact Or.inr ⟨none, l, rfl, rfl⟩
  | reply r => exact absurd rfl (hreply r)

theorem made_reply (s : ViewSys C) (r : C.Reply) :
    (C.requests (C.reply s.credentials r)).made = s.requests.made := by
  rcases C.reply_cases s.credentials r with hreq | ⟨c, -, ⟨c', -, hreq⟩ | ⟨acts, hreq⟩⟩ <;>
    rw [hreq] <;> rfl

theorem made_load (s : ViewSys C) (l : C.Load) :
    (C.requests (C.load s.credentials l)).made = s.requests.made + 1 := by
  rcases C.load_cases s.credentials l with ⟨c, -, hreq⟩ | ⟨acts, hreq⟩ <;> rw [hreq] <;> rfl

theorem notMem_foundSince {κ δ : Type} {before after : Requests κ (LoadAction δ)}
    (h : after.log = before.log) (i : Nat) : i ∉ foundSince before after := by
  rw [foundSince, h, List.drop_length]
  exact List.not_mem_nil

/-- Only the load itself is answered with it. -/
theorem eq_of_mem_foundSince_load {s : ViewSys C} {l : C.Load} {i : Nat}
    (hi : i ∈ foundSince s.requests (C.requests (C.load s.credentials l))) :
    i = s.requests.made := by
  rcases C.load_cases s.credentials l with ⟨c, -, hreq⟩ | ⟨acts, hreq⟩
  · exact absurd hi (notMem_foundSince (by rw [hreq]; rfl) i)
  · have hlog : (C.requests (C.load s.credentials l)).log =
        s.requests.log ++ acts.map ((s.requests.made, ·)) := by
      rw [hreq]
      rfl
    rw [foundSince, hlog, List.drop_left] at hi
    obtain ⟨entry, hentry, hsome⟩ := List.mem_filterMap.1 hi
    obtain ⟨act, -, rfl⟩ := List.mem_map.1 hentry
    cases act with
    | free => cases hsome
    | callback available error holds =>
      cases available with
      | false => cases hsome
      | true => exact (Option.some.inj hsome).symm

theorem isDisposed_eq_false_iff {s : ViewSys C} {v : Nat} :
    s.isDisposed v = false ↔ ∃ view, s.views[v]? = some view ∧ view.disposed = false := by
  unfold isDisposed
  cases s.views[v]? with
  | none => simp
  | some view => simp

/-- Views come, but none goes. -/
theorem length_views_step (s : ViewSys C) {e : ViewEvent C} (hopened : e ≠ .opened) :
    (s.step e).views.length = s.views.length := by
  have hviews : (s.step e).views = s.views.mapIdx (PolledSys.viewAfter e) := by
    refine List.ext_getElem? fun v => ?_
    rw [getElem?_views_step s hopened, List.getElem?_mapIdx]
  rw [hviews, List.length_mapIdx]

end ViewSys

namespace PolledSys

variable {C : CredentialsObject} {s : PolledSys C}

/-! ## The invariant -/

/-- What holds in every state of a run that keeps the condition. -/
structure Polls (s : PolledSys C) : Prop where
  numbered : s.sys.userData.length = s.sys.requests.made
  loads : ∀ i ∈ s.timerLoads, i < s.sys.requests.made
  views : s.started.length = s.sys.views.length
  armed : ∀ v view, s.sys.views[v]? = some view → view.timeoutId = true →
    view.disposed = false ∧ s.isStarted v = true
  polls : ∀ p ∈ s.polls, p.started = true

theorem Polls.pollsWhileStarted (h : Polls s) : s.PollsWhileStarted :=
  ⟨fun v view hview harmed => (h.armed v view hview harmed).2, h.polls⟩

theorem polls_init : Polls (init C) where
  numbered := by
    have hnone : (ViewSys.init C).requests = .none := C.init_requests
    show 0 = (ViewSys.init C).requests.made
    rw [hnone]
    rfl
  loads := List.forall_mem_nil _
  views := rfl
  armed v view hview := by cases hview
  polls := List.forall_mem_nil _

/-! ## Which views are polled -/

theorem fires_eq_some {e : ViewEvent C} {v : Nat} (h : s.fires e = some v) :
    ∃ l view, e = .timeout v l ∧ s.sys.views[v]? = some view ∧ view.disposed = false ∧
      view.timeoutId = true := by
  cases e with
  | timeout w l =>
    unfold fires at h
    dsimp only at h
    cases hview : s.sys.views[w]? with
    | none =>
      rw [hview] at h
      cases h
    | some view =>
      rw [hview] at h
      dsimp only at h
      split_ifs at h with hfires
      obtain rfl := Option.some.inj h
      rw [Bool.and_eq_true, Bool.not_eq_true'] at hfires
      exact ⟨l, view, rfl, hview, hfires.1, hfires.2⟩
  | _ => cases h

/-- A timer that fires makes a load for its view. -/
theorem step_of_fires {v : Nat} {l : C.Load} {view : FlickrView}
    (hview : s.sys.views[v]? = some view) (hlive : view.disposed = false)
    (harmed : view.timeoutId = true) :
    s.sys.step (.timeout v l) = s.sys.credentialsLoad (some v) l := by
  show s.sys.onView v _ = _
  unfold ViewSys.onView
  rw [hview]
  dsimp only
  rw [if_neg (Bool.eq_false_iff.1 hlive), if_pos harmed]
  rfl

/-- Without a reply, only the view whose timer fires is polled. -/
theorem fires_of_mem_polledViews (h : Polls s) {e : ViewEvent C} (hreply : ∀ r, e ≠ .reply r)
    {v : Nat} (hv : v ∈ s.polledViews e) : s.fires e = some v := by
  rcases List.mem_append.1 hv with hv | hv
  · exact Option.mem_toList.1 hv
  · obtain ⟨i, hi, hsome⟩ := List.mem_filterMap.1 hv
    split_ifs at hsome with hload
    rcases ViewSys.loadsOnce_step s.sys hreply with ⟨-, hreq⟩ | ⟨ud, l, -, hreq⟩
    · exact absurd hi (ViewSys.notMem_foundSince (by rw [hreq]) i)
    · rw [hreq] at hi
      obtain rfl := ViewSys.eq_of_mem_foundSince_load hi
      unfold timerLoadsAfter at hload
      cases hfires : s.fires e with
      | none =>
        rw [hfires] at hload
        exact absurd (h.loads _ hload) (lt_irrefl _)
      | some w =>
        obtain ⟨l', view, rfl, hview, hlive, harmed⟩ := fires_eq_some hfires
        have hud : (s.sys.step (.timeout w l')).userData = s.sys.userData ++ [some w] := by
          rw [step_of_fires hview hlive harmed]
          rfl
        rw [hud, ← h.numbered, List.getElem?_concat_length] at hsome
        exact hsome

/-! ## What one step keeps -/

theorem made_step (s : PolledSys C) (e : ViewEvent C) :
    s.sys.requests.made ≤ (s.sys.step e).requests.made := by
  by_cases hreply : ∃ r, e = .reply r
  · obtain ⟨r, rfl⟩ := hreply
    exact (ViewSys.made_reply s.sys r).ge
  · rcases ViewSys.loadsOnce_step s.sys (not_exists.1 hreply) with ⟨-, hreq⟩ | ⟨ud, l, -, hreq⟩
    · rw [hreq]
    · rw [hreq, ViewSys.made_load]
      exact Nat.le_succ _

theorem numbered_step (h : Polls s) (e : ViewEvent C) :
    (s.sys.step e).userData.length = (s.sys.step e).requests.made := by
  by_cases hreply : ∃ r, e = .reply r
  · obtain ⟨r, rfl⟩ := hreply
    exact h.numbered.trans (ViewSys.made_reply s.sys r).symm
  · rcases ViewSys.loadsOnce_step s.sys (not_exists.1 hreply) with
      ⟨hud, hreq⟩ | ⟨ud, l, hud, hreq⟩
    · rw [hud, hreq]
      exact h.numbered
    · rw [hud, hreq, ViewSys.made_load, List.length_append, h.numbered]
      rfl

theorem loads_step (h : Polls s) (e : ViewEvent C) :
    ∀ i ∈ s.timerLoadsAfter e, i < (s.sys.step e).requests.made := by
  intro i hi
  unfold timerLoadsAfter at hi
  cases hfires : s.fires e with
  | none =>
    rw [hfires] at hi
    exact (h.loads i hi).trans_le (made_step s e)
  | some w =>
    rw [hfires] at hi
    rcases List.mem_append.1 hi with hi | hi
    · exact (h.loads i hi).trans_le (made_step s e)
    · obtain ⟨l, view, rfl, hview, hlive, harmed⟩ := fires_eq_some hfires
      have hmade : (s.sys.step (.timeout w l)).requests.made = s.sys.requests.made + 1 := by
        rw [step_of_fires hview hlive harmed]
        exact ViewSys.made_load s.sys l
      rw [hmade, List.mem_singleton.1 hi]
      exact Nat.lt_succ_self _

theorem length_startedAfter (h : Polls s) (e : ViewEvent C) :
    (s.startedAfter e).length = (s.sys.step e).views.length := by
  by_cases hopened : e = .opened
  · subst hopened
    show (s.started ++ [false]).length = (s.sys.views ++ [_]).length
    rw [List.length_append, List.length_append, h.views]
    rfl
  · rw [ViewSys.length_views_step s.sys hopened, ← h.views]
    cases e with
    | opened => exact absurd rfl hopened
    | start v l => exact List.length_set
    | stop v => exact List.length_set
    | _ => rfl

/-- The view whose timer an event may change. -/
def target : ViewEvent C → Option Nat
  | .start w _ | .stop w | .capabilitiesChanged w _ _ | .close w | .disconnect w => some w
  | _ => none

theorem viewAfter_of_ne {e : ViewEvent C} {v : Nat} (h : target e ≠ some v) (view : FlickrView) :
    viewAfter e v view = view := by
  unfold viewAfter
  by_cases hdisposed : view.disposed = true
  · rw [if_pos hdisposed]
  · rw [if_neg hdisposed]
    cases e with
    | start w l => exact if_neg fun heq => h (congrArg some heq)
    | stop w => exact if_neg fun heq => h (congrArg some heq)
    | capabilitiesChanged w caps l => exact if_neg fun heq => h (congrArg some heq)
    | close w => exact if_neg fun heq => h (congrArg some heq)
    | disconnect w => exact if_neg fun heq => h (congrArg some heq)
    | _ => rfl

theorem startedAfter_of_ne {e : ViewEvent C} (hopened : e ≠ .opened) {v : Nat}
    (h : target e ≠ some v) : (s.startedAfter e)[v]?.getD false = s.isStarted v := by
  cases e with
  | opened => exact absurd rfl hopened
  | start w l =>
    have hset : (s.started.set w true)[v]? = s.started[v]? :=
      List.getElem?_set_ne fun heq => h (congrArg some heq)
    exact congrArg (Option.getD · false) hset
  | stop w =>
    have hset : (s.started.set w false)[v]? = s.started[v]? :=
      List.getElem?_set_ne fun heq => h (congrArg some heq)
    exact congrArg (Option.getD · false) hset
  | _ => rfl

/-- The timer of a view that an event leaves armed. -/
theorem armed_viewAfter {e : ViewEvent C} (hopened : e ≠ .opened) (hok : s.QuietWhileStopped e)
    {v : Nat} {view : FlickrView} (hview : s.sys.views[v]? = some view)
    (hsize : v < s.started.length)
    (harmed : view.timeoutId = true → view.disposed = false ∧ s.isStarted v = true)
    (hafter : (viewAfter e v view).timeoutId = true) :
    (viewAfter e v view).disposed = false ∧ (s.startedAfter e)[v]?.getD false = true := by
  by_cases htarget : target e = some v
  · unfold viewAfter at hafter ⊢
    by_cases hdisposed : view.disposed = true
    · rw [if_pos hdisposed] at hafter
      rw [(harmed hafter).1] at hdisposed
      cases hdisposed
    · have hlive : view.disposed = false := Bool.eq_false_iff.2 hdisposed
      rw [if_neg hdisposed] at hafter ⊢
      cases e with
      | start w l =>
        obtain rfl := Option.some.inj htarget
        dsimp only
        rw [if_pos rfl]
        refine ⟨hlive, ?_⟩
        show (s.started.set w true)[w]?.getD false = true
        rw [List.getElem?_set_self hsize]
        rfl
      | capabilitiesChanged w caps l =>
        obtain rfl := Option.some.inj htarget
        dsimp only at hafter ⊢
        rw [if_pos rfl] at hafter ⊢
        exact ⟨hlive, hok (of_decide_eq_true hafter)
          (ViewSys.isDisposed_eq_false_iff.2 ⟨view, hview, hlive⟩)⟩
      | stop w =>
        dsimp only at hafter
        rw [if_pos (Option.some.inj htarget)] at hafter
        cases hafter
      | close w =>
        dsimp only at hafter
        rw [if_pos (Option.some.inj htarget)] at hafter
        cases hafter
      | disconnect w =>
        dsimp only at hafter
        rw [if_pos (Option.some.inj htarget)] at hafter
        cases hafter
      | _ => cases htarget
  · rw [viewAfter_of_ne htarget] at hafter ⊢
    rw [startedAfter_of_ne hopened htarget]
    exact harmed hafter

theorem armed_step (h : Polls s) {e : ViewEvent C} (hok : s.QuietWhileStopped e) (v : Nat)
    (view : FlickrView) (hview : (s.step e).sys.views[v]? = some view)
    (harmed : view.timeoutId = true) :
    view.disposed = false ∧ (s.step e).isStarted v = true := by
  by_cases hopened : e = .opened
  · subst hopened
    have hview : (s.sys.views ++ [⟨false, false⟩])[v]? = some view := hview
    show view.disposed = false ∧ (s.started ++ [false])[v]?.getD false = true
    by_cases hv : v < s.sys.views.length
    · rw [List.getElem?_append_left hv] at hview
      rw [List.getElem?_append_left (h.views ▸ hv)]
      exact h.armed v view hview harmed
    · -- The new view, whose timer is not armed.
      rw [List.getElem?_append_right (not_lt.1 hv)] at hview
      obtain rfl := List.mem_singleton.1 (List.mem_of_getElem? hview)
      cases harmed
  · have hview : (s.sys.step e).views[v]? = some view := hview
    rw [ViewSys.getElem?_views_step s.sys hopened] at hview
    obtain ⟨view₀, hview₀, rfl⟩ := Option.map_eq_some_iff.1 hview
    have hsize : v < s.started.length := h.views ▸ (List.getElem?_eq_some_iff.1 hview₀).1
    exact armed_viewAfter hopened hok hview₀ hsize (h.armed v view₀ hview₀) harmed

/-- A view that is polled at a reply has a load of its timer that was found. -/
theorem mem_polledViews_reply {r : C.Reply} {v : Nat} :
    v ∈ s.polledViews (.reply r) ↔
      ∃ i ∈ foundSince s.sys.requests (C.requests (C.reply s.sys.credentials r)),
        i ∈ s.timerLoads ∧ s.sys.userData[i]? = some (some v) := by
  show v ∈ [] ++ _ ↔ _
  rw [List.nil_append, List.mem_filterMap]
  refine exists_congr fun i => and_congr_right fun _ => ?_
  show (if i ∈ s.timerLoads then s.sys.userData[i]?.join else none) = some v ↔ _
  split_ifs with hload
  · rw [Option.join_eq_some_iff]
    exact (and_iff_right hload).symm
  · simp [hload]

theorem polls_step (h : Polls s) {e : ViewEvent C} (hok : s.QuietWhileStopped e) :
    ∀ p ∈ (s.step e).polls, p.started = true := by
  intro p hp
  rcases List.mem_append.1 hp with hp | hp
  · exact h.polls p hp
  · obtain ⟨v, hv, rfl⟩ := List.mem_map.1 hp
    by_cases hreply : ∃ r, e = .reply r
    · obtain ⟨r, rfl⟩ := hreply
      obtain ⟨i, hi, hload, hud⟩ := mem_polledViews_reply.1 hv
      exact hok i hi hload v hud
    · obtain ⟨l, view, rfl, hview, -, harmed⟩ :=
        fires_eq_some (fires_of_mem_polledViews h (not_exists.1 hreply) hv)
      exact (h.armed v view hview harmed).2

theorem Polls.step (h : Polls s) {e : ViewEvent C} (hok : s.QuietWhileStopped e) :
    Polls (s.step e) where
  numbered := numbered_step h e
  loads := loads_step h e
  views := length_startedAfter h e
  armed := armed_step h hok
  polls := polls_step h hok

/-! ## What a step outside the condition breaks -/

theorem quietWhileStopped_of_step {e : ViewEvent C} (h : (s.step e).PollsWhileStarted) :
    s.QuietWhileStopped e := by
  cases e with
  | capabilitiesChanged v caps l =>
    intro hcaps hlive
    obtain ⟨view, hview, hdisposed⟩ := ViewSys.isDisposed_eq_false_iff.1 hlive
    have hafter : (s.sys.step (.capabilitiesChanged v caps l)).views[v]? =
        some { view with timeoutId := CREDENTIALS_VALID ∈ caps } := by
      have hopened : ViewEvent.capabilitiesChanged v caps l ≠ .opened := nofun
      rw [ViewSys.getElem?_views_step s.sys hopened, hview, Option.map_some, viewAfter,
        if_neg (Bool.eq_false_iff.1 hdisposed)]
      exact congrArg some (if_pos rfl)
    exact h.1 v _ hafter (decide_eq_true hcaps)
  | reply r =>
    intro i hi hload v hud
    have hpolled : v ∈ s.polledViews (.reply r) := mem_polledViews_reply.2 ⟨i, hi, hload, hud⟩
    exact h.2 _ (List.mem_append_right _ (List.mem_map_of_mem hpolled))
  | _ => trivial

/-- Views are polled only while they are started, along exactly the runs in which a stopped view is
neither told that the credentials are valid nor answered for its timer. -/
theorem pollsWhileStarted_iff (C : CredentialsObject) (es : List (ViewEvent C)) :
    EveryState step PollsWhileStarted (init C) es ↔ EveryStep step QuietWhileStopped (init C) es :=
  everyState_iff_everyStep (fun _ => Polls.pollsWhileStarted) (fun _ _ h hok => h.step hok)
    (fun _ _ _ h => quietWhileStopped_of_step h) polls_init

/-- A view that nobody started begins to poll when the service finds its credentials. -/
theorem not_pollsWhileStarted_capabilitiesChanged :
    ¬ ∀ (C : CredentialsObject) (es : List (ViewEvent C)),
      EveryState step PollsWhileStarted (init C) es := by
  intro hall
  have hrun := hall (keyringObject id)
    [.opened, .capabilitiesChanged 0 [CREDENTIALS_VALID] (none, none)]
  have hstarted : false = true :=
    quietWhileStopped_of_step hrun.2.2 (List.mem_singleton.2 rfl) rfl
  cases hstarted

end PolledSys

end LibSocialWeb
