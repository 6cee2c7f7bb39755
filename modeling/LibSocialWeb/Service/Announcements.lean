import LibSocialWeb.ItemView.Emissions
import LibSocialWeb.Service.Views

/-!
# What the views of a service announce

Only four kinds of events make a view announce items: a start, which may load the cache, a reply,
and the two timers of the view. `Source` says where the announced items come from.

**Main result.** `tells_step`: what the views announce in a step comes from such a source.
-/

namespace LibSocialWeb

namespace ServiceState

/-- An item that the step from `s` to `t` can announce. -/
inductive Source (s t : ServiceState) (o : ItemRef) : ServiceEvent → Prop
  | cached {i : Nat} {order : KeyOrder ItemRef} {v : ServiceView} {file : CacheFile}
      (view : s.views[i]? = some v) (saved : s.files v.file = some file)
      (nonempty : file.groups ≠ []) (allowed : s.isUidBanned o.uid = false)
      (tag : t.origin o.addr = file.asked) : Source s t o (.start i order)
  | replied {i k asked : Nat} {order : KeyOrder ItemRef} {v : ServiceView} {ns : List NewItem}
      {n : NewItem} (view : s.views[i]? = some v) (request : v.requests[k]? = some asked)
      (mem : n ∈ ns) (kept : s.kind = .flickr → s.isUidBanned n.uid = false)
      (uid : n.uid = o.uid) (ready : n.item.getReady = true) (tag : t.origin o.addr = asked) :
      Source s t o (.received i k order (some ns))
  | pending {i : Nat} {order : KeyOrder ItemRef} {v : ServiceView} (view : s.views[i]? = some v)
      (armed : v.base.pendingTimeoutId = true) (mem : o ∈ v.base.pendingItemsSet)
      (ready : s.store.heap.ready o = true) (tag : t.origin o.addr = s.origin o.addr) :
      Source s t o (.pendingTimeout i order)
  | changed {i : Nat} {v : ServiceView} (view : s.views[i]? = some v)
      (armed : v.base.refreshTimeoutId = true) (mem : o ∈ v.base.changedItems)
      (ready : s.store.heap.ready o = true) (tag : t.origin o.addr = s.origin o.addr) :
      Source s t o (.refreshTimeout i)

/-- The user does not change in a step that has a source. -/
theorem Source.userChanges {s t : ServiceState} {o : ItemRef} {e : ServiceEvent}
    (h : Source s t o e) : (s.step e).userChanges = s.userChanges := by
  cases h with
  | cached => exact (start_frame _ _).2
  | replied => exact (received_frame _ _ _ _).2
  | pending => exact (onView_frame _ _).2.1
  | changed => exact (onView_frame _ _).2.1

/-- Every view of `t` is a view of `s` that went on to announce only items in `Q`. -/
def Tells (s t : ServiceState) (Q : ItemRef → Prop) : Prop :=
  ∀ (i : Nat) (w : ServiceView), t.views[i]? = some w →
    ∃ v : ServiceView, s.views[i]? = some v ∧ v.base.Shows t.store.heap w.base Q

variable {s t : ServiceState} {Q : ItemRef → Prop}

/-! ## Views one by one -/

theorem tells_same (hviews : t.views = s.views) : Tells s t Q := by
  intro i w hw
  exact ⟨w, hviews ▸ hw, SwItemView.shows_same rfl⟩

theorem tells_set {i : Nat} {v w : ServiceView} (hv : s.views[i]? = some v)
    (ht : t.views = s.views.set i w) (hw : v.base.Shows t.store.heap w.base Q) : Tells s t Q := by
  intro j x hx
  rw [ht, List.getElem?_set] at hx
  split_ifs at hx with hij hlen
  · obtain rfl := Option.some.inj hx
    exact ⟨v, hij ▸ hv, hw⟩
  · exact ⟨x, hx, SwItemView.shows_same rfl⟩

theorem tells_onView {i : Nat} {f : ServiceView → ServiceView}
    (hf : ∀ v, s.views[i]? = some v → v.base.Shows s.store.heap (f v).base Q) :
    Tells s (s.onView i f) Q := by
  unfold onView
  cases hv : s.views[i]? with
  | none => exact tells_same rfl
  | some v => exact tells_set hv rfl (hf v hv)

theorem tells_map {f : ServiceView → ServiceView} (ht : t.views = s.views.map f)
    (hf : ∀ v : ServiceView, v.base.Shows t.store.heap (f v).base Q) : Tells s t Q := by
  intro i w hw
  rw [ht, List.getElem?_map] at hw
  obtain ⟨v, hv, rfl⟩ := Option.map_eq_some_iff.1 hw
  exact ⟨v, hv, hf v⟩

/-! ## Starts and replies -/

/-- What a start leaves in the list of views. -/
theorem loadFromCache_setView (i : Nat) (v w : ServiceView) (order : KeyOrder ItemRef) :
    ((s.loadFromCache i v order).1.setView i w).views = s.views.set i w := by
  unfold loadFromCache
  cases s.files v.file with
  | none => rfl
  | some file =>
    dsimp only
    cases cacheLoad s.service s.isUidBanned s.thumbnails file.groups with
    | none => rfl
    | some ns => exact List.set_set ..

/-- The cache brings items that are not banned, with the tag of the file. -/
theorem shows_loadFromCache (i : Nat) (v : ServiceView) (order : KeyOrder ItemRef) :
    v.base.Shows (s.loadFromCache i v order).1.store.heap (s.loadFromCache i v order).2.base
      fun o => ∃ file, s.files v.file = some file ∧ file.groups ≠ [] ∧
        s.isUidBanned o.uid = false ∧ (s.loadFromCache i v order).1.origin o.addr = file.asked := by
  unfold loadFromCache
  cases hf : s.files v.file with
  | none => exact SwItemView.shows_same rfl
  | some file =>
    dsimp only
    cases hl : cacheLoad s.service s.isUidBanned s.thumbnails file.groups with
    | none => exact SwItemView.shows_same rfl
    | some ns =>
      refine (SwItemView.shows_setFromSet _ order _ v.base).mono fun o ho => ?_
      obtain ⟨-, horigin, n, hn, -, hu, -⟩ := mem_collect ho.1
      refine ⟨file, rfl, groups_ne_of_mem_cacheLoad hl, ?_, horigin⟩
      rw [← hu]
      exact not_banned_of_mem_cacheLoad hl hn

theorem tells_startView {i : Nat} {v : ServiceView} (hv : s.views[i]? = some v)
    (order : KeyOrder ItemRef) :
    Tells s (s.startView i order v) fun o =>
      Source s (s.startView i order v) o (.start i order) := by
  unfold startView
  split_ifs
  · exact tells_same rfl
  · apply tells_set hv ((loadFromCache_setView i _ _ order).trans (List.set_set ..))
    rw [getStatusUpdates_base]
    refine (shows_loadFromCache i { v with timeoutId := true } order).mono fun o ho => ?_
    obtain ⟨file, hfile, hne, hallowed, htag⟩ := ho
    exact .cached hv hfile hne hallowed htag

/-- A reply makes its view announce only items that the reader kept. -/
theorem tells_showAndSave {i : Nat} {v w : ServiceView} (hv : s.views[i]? = some v)
    (hbase : w.base = v.base) (ht : t.views = s.views.set i w) (order : KeyOrder ItemRef)
    (asked : Nat) (keep : String → Bool) (ns : List NewItem) :
    Tells s ((t.collect keep ns asked).2.showAndSave i w order asked (t.collect keep ns asked).1)
      fun o => (t.collect keep ns asked).2.origin o.addr = asked ∧
        ∃ n ∈ ns, keep n.uid = true ∧ n.uid = o.uid ∧ n.item.getReady = true := by
  have hviews : ((t.collect keep ns asked).2.showAndSave i w order asked
      (t.collect keep ns asked).1).views = s.views.set i { w with
        base := w.base.setFromSet (t.collect keep ns asked).2.store.heap order
          (t.collect keep ns asked).1 } := by
    show t.views.set i _ = _
    rw [ht, List.set_set]
  apply tells_set hv hviews
  rw [← hbase]
  refine (SwItemView.shows_setFromSet _ order _ w.base).mono fun o ho => ?_
  obtain ⟨-, horigin, n, hn, hk, hu, hready⟩ := mem_collect ho.1
  exact ⟨horigin, n, hn, hk, hu, hready ▸ ho.2⟩

theorem Tells.mono {P : ItemRef → Prop} (h : Tells s t P) (hPQ : ∀ o, P o → Q o) :
    Tells s t Q := by
  intro i w hw
  obtain ⟨v, hv, hshows⟩ := h i w hw
  exact ⟨v, hv, hshows.mono hPQ⟩

theorem tells_received (i k : Nat) (order : KeyOrder ItemRef) (reply : Option (List NewItem)) :
    Tells s (s.received i k order reply) fun o =>
      Source s (s.received i k order reply) o (.received i k order reply) := by
  unfold received
  cases hv : s.views[i]? with
  | none => exact tells_same rfl
  | some v => cases hk : v.requests[k]? with
    | none => simpa [hk] using tells_same rfl
    | some asked =>
      simp only [hk]
      cases hkind : s.kind with
      | flickr =>
        simp only [setView, hkind]
        cases reply with
        | none => exact tells_set hv rfl (SwItemView.shows_same rfl)
        | some photos =>
          -- `_photos_received_cb` leaves out what is banned.
          refine (tells_showAndSave hv (by rfl) rfl order asked _ photos).mono fun o ho => ?_
          obtain ⟨htag, n, hn, hkeep, hu, hready⟩ := ho
          refine .replied hv hk hn (fun _ => ?_) hu hready htag
          simpa [isUidBanned] using hkeep
      | facebook =>
        simp only [setView, hkind]
        cases reply with
        | none => exact tells_set hv rfl (SwItemView.shows_same rfl)
        | some statuses =>
          refine (tells_showAndSave hv (by rfl) rfl order asked _ statuses).mono fun o ho => ?_
          obtain ⟨htag, n, hn, -, hu, hready⟩ := ho
          exact .replied hv hk hn (fun hflickr => absurd (hkind.symm.trans hflickr) (by decide))
            hu hready htag

/-- **What the views announce in a step.** -/
theorem tells_step (e : ServiceEvent) :
    Tells s (s.step e) fun o => Source s (s.step e) o e := by
  cases e with
  | start i order =>
    dsimp only [step]
    cases hv : s.views[i]? with
    | none => exact tells_same rfl
    | some v => exact tells_startView hv order
  | stop i => exact tells_onView fun v _ => SwItemView.shows_same rfl
  | refresh i =>
    exact tells_onView fun v _ => SwItemView.shows_same (by rw [getStatusUpdates_base])
  | updateTimeout i =>
    refine tells_onView fun v _ => SwItemView.shows_same ?_
    unfold updateTimeoutCb
    split_ifs
    · rw [getStatusUpdates_base]
    · rfl
  | credentialsLoaded i found =>
    refine tells_onView fun v _ => SwItemView.shows_same ?_
    unfold onCredentialsLoaded makeRequest
    split_ifs <;> rfl
  | received i k order reply => exact tells_received i k order reply
  | userChanged order =>
    apply tells_map rfl
    intro v
    exact (SwItemView.shows_setFromSet _ order _ v.base).mono fun o ho =>
      absurd ho.1 List.not_mem_nil
  | capabilitiesChanged valid =>
    exact tells_map rfl fun v => SwItemView.shows_same (by rw [capabilitiesChanged_base])
  | gotUserInfo uid => exact tells_same rfl
  | hideItem uid => exact tells_map rfl fun v => SwItemView.shows_removeByUid _ uid v.base
  | item e => exact tells_map rfl fun v => SwItemView.shows_onItemEvent _ _ e v.base
  | pendingTimeout i order =>
    have htag : (s.step (.pendingTimeout i order)).origin = s.origin := (onView_frame i _).2.2
    apply tells_onView
    intro v hv
    dsimp only [Sys.step, sys]
    split_ifs with ht
    · refine (SwItemView.shows_handleReadyPendingCb _ order v.base).mono fun p hp => ?_
      exact .pending hv ht hp.1 hp.2 (congrFun htag p.addr)
    · exact SwItemView.shows_same rfl
  | refreshTimeout i =>
    have htag : (s.step (.refreshTimeout i)).origin = s.origin := (onView_frame i _).2.2
    apply tells_onView
    intro v hv
    dsimp only [Sys.step, sys]
    split_ifs with ht
    · refine (SwItemView.shows_itemChangedTimeoutCb _ v.base).mono fun o ho => ?_
      exact .changed hv ht ho.1 ho.2 (congrFun htag o.addr)
    · exact SwItemView.shows_same rfl

end ServiceState

end LibSocialWeb
