import LibSocialWeb.Service.Announcements

/-!
# A change of the user in the Flickr item views

When the account changes, the views are emptied and the cache is dropped. From then on they should
show and cache photos of the new account only: `Isolated`.

Requests that are still out at that moment are answered later, and `_photos_received_cb` does not
know that their reply is about the old account. Photos that wait to be announced stay in
`pending_items_set` and `changed_items` when the view is emptied. `StaleOk` asks that such a reply
brings nothing, and that no such photo is ready when the timer that sends it fires.

**Main result.** `isolated_of_staleOk`: along a run whose events are all `StaleOk`, every state is
isolated, and every step announces photos of the present account only.
-/

namespace LibSocialWeb

open Transition

namespace ServiceState

/-- No current item and no cached item goes back to a request from before the last change of the
user. -/
def Isolated (s : ServiceState) : Prop :=
  (∀ v ∈ s.views, ∀ o ∈ v.base.currentItemsSet, s.userChanges ≤ s.origin o.addr) ∧
    ∀ name file, s.files name = some file → file.groups ≠ [] → s.userChanges ≤ file.asked

/-- What the views announce in a step goes back to no request from before the last change of the
user. -/
def ShowsPresent (s : ServiceState) (e : ServiceEvent) : Prop :=
  ∀ (i : Nat) (v w : ServiceView), s.views[i]? = some v → (s.step e).views[i]? = some w →
    ∀ signal ∈ w.base.emitted.drop v.base.emitted.length, ∀ x ∈ signal.shown,
      ∃ o : ItemRef, (s.step e).userChanges ≤ (s.step e).origin o.addr ∧
        x = (s.step e).store.heap.toValueArray o

/-- A reply to a request from before the last change of the user brings banned photos only, and no
timer fires while a ready photo of such a request waits for it. -/
def StaleOk (s : ServiceState) : ServiceEvent → Prop
  | .received i k _ reply => ∀ v ∈ s.views[i]?, ∀ asked ∈ v.requests[k]?, ∀ photos ∈ reply,
      asked < s.userChanges → ∀ n ∈ photos, s.isUidBanned n.uid = true
  | .pendingTimeout i _ => ∀ v ∈ s.views[i]?, v.base.pendingTimeoutId = true →
      ∀ p ∈ v.base.pendingItemsSet, s.store.heap.ready p = true → s.userChanges ≤ s.origin p.addr
  | .refreshTimeout i => ∀ v ∈ s.views[i]?, v.base.refreshTimeoutId = true →
      ∀ o ∈ v.base.changedItems, s.store.heap.ready o = true → s.userChanges ≤ s.origin o.addr
  | _ => True

instance (s : ServiceState) : (e : ServiceEvent) → Decidable (StaleOk s e)
  | .received .. | .pendingTimeout .. | .refreshTimeout .. => by
    dsimp only [StaleOk]
    infer_instance
  | .start .. | .stop .. | .refresh .. | .updateTimeout .. | .credentialsLoaded .. | .userChanged ..
  | .capabilitiesChanged .. | .gotUserInfo .. | .hideItem .. | .item .. => .isTrue trivial

/-- After a change of the user nothing of an earlier user is shown, cached or announced. -/
def Forgets (s : ServiceState) (es : List ServiceEvent) : Prop :=
  EveryState step Isolated s es ∧ EveryStep step ShowsPresent s es

/-- The view's current items exist and go back to the present user. -/
structure Owns (s : ServiceState) (b : SwItemView) : Prop where
  indexed : b.Indexed
  made : ∀ o ∈ b.currentItemsSet, s.store.Made o
  present : ∀ o ∈ b.currentItemsSet, s.userChanges ≤ s.origin o.addr

structure IsolatedInv (s : ServiceState) : Prop where
  flickr : s.kind = .flickr
  views_ne : s.views ≠ []
  owns : ∀ v ∈ s.views, s.Owns v.base
  files : ∀ name file, s.files name = some file → file.groups ≠ [] → s.userChanges ≤ file.asked

theorem IsolatedInv.isolated {s : ServiceState} (hs : IsolatedInv s) : Isolated s :=
  ⟨fun v hv => (hs.owns v hv).present, hs.files⟩

variable {s : ServiceState}

theorem Owns.congr {t : ServiceState} {b : SwItemView} (hb : s.Owns b) (hstore : t.store = s.store)
    (hchanges : t.userChanges = s.userChanges) (horigin : t.origin = s.origin) : t.Owns b where
  indexed := hb.indexed
  made o ho := hstore ▸ hb.made o ho
  present o ho := hchanges ▸ horigin ▸ hb.present o ho

theorem isolatedInv_setView (hs : IsolatedInv s) (i : Nat) {v : ServiceView} (hv : s.Owns v.base) :
    IsolatedInv (s.setView i v) where
  flickr := hs.flickr
  views_ne := by simpa [setView] using hs.views_ne
  owns w hw := by
    rcases mem_setView hw with hw | rfl
    · exact (hs.owns w hw).congr rfl rfl rfl
    · exact hv.congr rfl rfl rfl
  files := hs.files

theorem isolatedInv_onView (hs : IsolatedInv s) (i : Nat) {f : ServiceView → ServiceView}
    (hf : ∀ v, s.Owns v.base → s.Owns (f v).base) : IsolatedInv (s.onView i f) := by
  unfold onView
  cases hv : s.views[i]? with
  | none => exact hs
  | some v => exact isolatedInv_setView hs i (hf v (hs.owns v (List.mem_of_getElem? hv)))

/-! ## New items -/

/-- New items change nothing for the views. -/
theorem Owns.collect {b : SwItemView} (hb : s.Owns b) (keep : String → Bool) (ns : List NewItem)
    (asked : Nat) : (s.collect keep ns asked).2.Owns b where
  indexed := hb.indexed
  made o ho := (collect_extends keep ns asked).made (hb.made o ho)
  present o ho := by
    rw [collect_origin keep ns asked (hb.made o ho)]
    exact hb.present o ho

theorem isolatedInv_collect (hs : IsolatedInv s) (keep : String → Bool) (ns : List NewItem)
    (asked : Nat) : IsolatedInv (s.collect keep ns asked).2 where
  flickr := hs.flickr
  views_ne := hs.views_ne
  owns v hv := (hs.owns v hv).collect keep ns asked
  files := hs.files

/-- A view may be set from items that go back to the present user. -/
theorem Owns.setFromSet {b : SwItemView} (hb : s.Owns b) (order : KeyOrder ItemRef) {set : ItemSet}
    (hset : ∀ o ∈ set, s.store.Made o ∧ s.userChanges ≤ s.origin o.addr) :
    s.Owns (b.setFromSet s.store.heap order set) where
  indexed := SwItemView.indexed_setFromSet s.store.heap order set hb.indexed
  made o ho := (SwItemView.mem_setFromSet hb.indexed ho).elim (hb.made o) fun h => (hset o h).1
  present o ho :=
    (SwItemView.mem_setFromSet hb.indexed ho).elim (hb.present o) fun h => (hset o h).2

/-- Collected items go back to the present user, if their request does or there are none. -/
theorem present_of_mem_collect {keep : String → Bool} {ns : List NewItem} {asked : Nat}
    (hns : ∀ n ∈ ns, keep n.uid = true → s.userChanges ≤ asked) {o : ItemRef}
    (ho : o ∈ (s.collect keep ns asked).1) : (s.collect keep ns asked).2.store.Made o ∧
      s.userChanges ≤ (s.collect keep ns asked).2.origin o.addr := by
  obtain ⟨hmade, horigin, n, hn, hk, -⟩ := mem_collect ho
  exact ⟨hmade, by rw [horigin]; exact hns n hn hk⟩

theorem isolatedInv_showAndSave (hs : IsolatedInv s) (i : Nat) {v : ServiceView}
    (hv : s.Owns v.base)
    (order : KeyOrder ItemRef) {asked : Nat} {set : ItemSet}
    (hset : ∀ o ∈ set, s.store.Made o ∧ s.userChanges ≤ s.origin o.addr)
    (hasked : ∀ o ∈ set, s.userChanges ≤ asked) :
    IsolatedInv (s.showAndSave i v order asked set) := by
  have hshow : IsolatedInv (s.setView i { v with
      base := v.base.setFromSet s.store.heap order set }) :=
    isolatedInv_setView hs i (hv.setFromSet order hset)
  refine ⟨hshow.flickr, hshow.views_ne, fun w hw => (hshow.owns w hw).congr rfl rfl rfl,
    fun name file hfile hne => ?_⟩
  by_cases hname : name = v.file
  · subst hname
    have hsave : (cacheSave s.store.heap order set).map (fun groups => CacheFile.mk groups asked) =
        some file := by
      rw [← hfile]
      exact (Function.update_self v.file _ s.files).symm
    obtain ⟨groups, hgroups, rfl⟩ := Option.map_eq_some_iff.1 hsave
    -- A group was written, so the set has an item.
    obtain ⟨o, ho⟩ := exists_mem_of_cacheSave hgroups hne
    exact hasked o ho
  · refine hs.files name file ?_ hne
    rw [← hfile]
    exact (Function.update_of_ne hname _ s.files).symm

/-! ## One lemma for each kind of step -/

/-- The photos of a reply may be shown if the reply is about the present user or they are banned. -/
theorem isolatedInv_photosReceivedCb (hs : IsolatedInv s) (i : Nat) {v : ServiceView}
    (hv : s.Owns v.base) (order : KeyOrder ItemRef) {asked : Nat} {reply : Option (List NewItem)}
    (hok : ∀ photos ∈ reply, asked < s.userChanges → ∀ n ∈ photos, s.isUidBanned n.uid = true) :
    IsolatedInv (s.photosReceivedCb i v order asked reply) := by
  cases reply with
  | none => exact hs
  | some photos =>
    have hns : ∀ n ∈ photos, (!s.isUidBanned n.uid) = true → s.userChanges ≤ asked := by
      intro n hn hb
      by_contra hlt
      have hbanned := hok photos rfl (Nat.lt_of_not_le hlt) n hn
      simp [hbanned] at hb
    have hasked : ∀ o ∈ (s.collect (fun uid => !s.isUidBanned uid) photos asked).1,
        s.userChanges ≤ asked := by
      intro o ho
      obtain ⟨-, -, n, hn, hb, -⟩ := mem_collect ho
      exact hns n hn hb
    exact isolatedInv_showAndSave (isolatedInv_collect hs _ photos asked) i
      (hv.collect _ photos asked) order (fun o ho => present_of_mem_collect hns ho) hasked

theorem isolatedInv_received (hs : IsolatedInv s) (i k : Nat) (order : KeyOrder ItemRef)
    (reply : Option (List NewItem)) (hok : StaleOk s (.received i k order reply)) :
    IsolatedInv (s.received i k order reply) := by
  unfold received
  cases hv : s.views[i]? with
  | none => exact hs
  | some v => cases hk : v.requests[k]? with
    | none => simpa [hk] using hs
    | some asked =>
      have hown := hs.owns v (List.mem_of_getElem? hv)
      have hset : IsolatedInv (s.setView i { v with requests := v.requests.eraseIdx k }) :=
        isolatedInv_setView hs i hown
      simp only [hk, hset.flickr]
      refine isolatedInv_photosReceivedCb hset i ?_ order (hok v hv asked hk)
      exact hown.congr rfl rfl rfl

theorem isolatedInv_loadFromCache (hs : IsolatedInv s) (i : Nat) (order : KeyOrder ItemRef)
    {v : ServiceView} (hown : s.Owns v.base) : IsolatedInv (s.loadFromCache i v order).1 ∧
      (s.loadFromCache i v order).1.Owns (s.loadFromCache i v order).2.base := by
  unfold loadFromCache
  cases hf : s.files v.file with
  | none => exact ⟨hs, hown⟩
  | some file =>
    dsimp only
    cases hl : cacheLoad s.service s.isUidBanned s.thumbnails file.groups with
    | none => exact ⟨hs, hown⟩
    | some ns =>
      have hfile := hs.files v.file file hf (groups_ne_of_mem_cacheLoad hl)
      have hbase := (hown.collect (fun _ => true) ns file.asked).setFromSet order
        fun o ho => present_of_mem_collect (fun _ _ _ => hfile) ho
      exact ⟨isolatedInv_setView (isolatedInv_collect hs _ ns file.asked) i hbase,
        hbase.congr rfl rfl rfl⟩

theorem isolatedInv_startView (hs : IsolatedInv s) (i : Nat) (order : KeyOrder ItemRef)
    {v : ServiceView} (hown : s.Owns v.base) : IsolatedInv (s.startView i order v) := by
  unfold startView
  split_ifs
  · exact hs
  · have hset : IsolatedInv (s.setView i { v with timeoutId := true }) :=
      isolatedInv_setView hs i hown
    have hown' : (s.setView i { v with timeoutId := true }).Owns v.base := hown.congr rfl rfl rfl
    obtain ⟨hload, hbase⟩ := isolatedInv_loadFromCache hset i order
      (show Owns _ ({ v with timeoutId := true } : ServiceView).base from hown')
    apply isolatedInv_setView hload i
    rw [getStatusUpdates_base]
    exact hbase

theorem isolatedInv_userChanged (hs : IsolatedInv s) (order : KeyOrder ItemRef) :
    IsolatedInv (s.userChanged order) where
  flickr := hs.flickr
  views_ne := by simpa [userChanged] using hs.views_ne
  owns w hw := by
    obtain ⟨v, hv, rfl⟩ := List.mem_map.1 hw
    have hx := (hs.owns v hv).indexed
    have hempty : ∀ o, o ∉ (v.base.setFromSet s.store.heap order KeySet.empty).currentItemsSet :=
      SwItemView.not_mem_setFromSet_empty hx
    exact ⟨SwItemView.indexed_setFromSet s.store.heap order _ hx,
      fun o ho => absurd ho (hempty o), fun o ho => absurd ho (hempty o)⟩
  files name file hfile := by
    have hdrop : (s.userChanged order).files = fun _ => none := by
      simp [userChanged, hs.views_ne]
    rw [hdrop] at hfile
    cases hfile

/-- Views whose bases hold fewer items own them still. -/
theorem isolatedInv_map (hs : IsolatedInv s) {t : ServiceState} (hkind : t.kind = s.kind)
    {f : ServiceView → ServiceView} (hviews : t.views = s.views.map f)
    (hnext : t.store.next = s.store.next) (hchanges : t.userChanges = s.userChanges)
    (horigin : t.origin = s.origin) (hfiles : t.files = s.files)
    (hx : ∀ v, v.base.Indexed → (f v).base.Indexed)
    (hcur : ∀ v, v.base.Indexed → ∀ o ∈ (f v).base.currentItemsSet, o ∈ v.base.currentItemsSet) :
    IsolatedInv t where
  flickr := hkind.trans hs.flickr
  views_ne := by simpa [hviews] using hs.views_ne
  owns w hw := by
    rw [hviews] at hw
    obtain ⟨v, hv, rfl⟩ := List.mem_map.1 hw
    have hown := hs.owns v hv
    refine ⟨hx v hown.indexed, fun o ho => ?_, fun o ho => ?_⟩
    · show o.addr < t.store.next
      rw [hnext]
      exact hown.made o (hcur v hown.indexed o ho)
    · rw [hchanges, horigin]
      exact hown.present o (hcur v hown.indexed o ho)
  files := hfiles ▸ hchanges ▸ hs.files

/-- A timer of a view moves no current item. -/
theorem Owns.timeout {b : SwItemView} (hb : s.Owns b) {e : Event}
    (he : ((⟨s.store.heap, b⟩ : Sys).step e).view.currentItemsSet = b.currentItemsSet) :
    s.Owns ((⟨s.store.heap, b⟩ : Sys).step e).view where
  indexed := Sys.indexed_step hb.indexed e
  made o ho := hb.made o (he ▸ ho)
  present o ho := hb.present o (he ▸ ho)

theorem isolatedInv_step (hs : IsolatedInv s) (e : ServiceEvent) (hok : StaleOk s e) :
    IsolatedInv (s.step e) := by
  cases e with
  | start i order =>
    dsimp only [step]
    cases hv : s.views[i]? with
    | none => exact hs
    | some v => exact isolatedInv_startView hs i order (hs.owns v (List.mem_of_getElem? hv))
  | stop i => exact isolatedInv_onView hs i fun v hv => hv
  | refresh i =>
    apply isolatedInv_onView hs i
    intro v hv
    rw [getStatusUpdates_base]
    exact hv
  | updateTimeout i =>
    apply isolatedInv_onView hs i
    intro v hv
    unfold updateTimeoutCb
    split_ifs
    · rw [getStatusUpdates_base]
      exact hv
    · exact hv
  | credentialsLoaded i found =>
    apply isolatedInv_onView hs i
    intro v hv
    unfold onCredentialsLoaded makeRequest
    split_ifs <;> exact hv
  | received i k order reply => exact isolatedInv_received hs i k order reply hok
  | userChanged order => exact isolatedInv_userChanged hs order
  | capabilitiesChanged valid =>
    have hbase := capabilitiesChanged_base s valid
    exact isolatedInv_map hs rfl rfl rfl rfl rfl rfl (fun v hv => (hbase v).symm ▸ hv)
      fun v _ o ho => (hbase v) ▸ ho
  | gotUserInfo uid =>
    exact ⟨hs.flickr, hs.views_ne, fun v hv => (hs.owns v hv).congr rfl rfl rfl, hs.files⟩
  | hideItem uid =>
    exact isolatedInv_map hs rfl rfl rfl rfl rfl rfl
      (fun v hv => SwItemView.indexed_removeByUid s.store.heap uid hv)
      fun v hv o ho => (SwItemView.mem_removeByUid hv ho).1
  | item e =>
    refine isolatedInv_map hs rfl rfl rfl rfl rfl rfl ?_ ?_
    · intro v hv
      have hv' : (⟨s.store.heap, v.base⟩ : Sys).view.Indexed := hv
      exact Sys.indexed_step hv' (.item e)
    · intro v _ o ho
      exact (SwItemView.onItemEvent_frame s.store.heap e v.base).1 ▸ ho
  | pendingTimeout i order =>
    exact isolatedInv_onView hs i fun v hv => hv.timeout (Sys.pendingTimeout_frame _ order).1
  | refreshTimeout i =>
    exact isolatedInv_onView hs i fun v hv => hv.timeout (Sys.refreshTimeout_frame _).1

/-! ## What is announced -/

/-- A source of an allowed step is not stale. -/
theorem present_of_source (hs : IsolatedInv s) {e : ServiceEvent} (hok : StaleOk s e)
    {t : ServiceState} {o : ItemRef} (ho : Source s t o e) : s.userChanges ≤ t.origin o.addr := by
  cases ho with
  | cached _ hsaved hne _ htag =>
    rw [htag]
    exact hs.files _ _ hsaved hne
  | replied hv hk hn hkept _ _ htag =>
    rw [htag]
    by_contra hlt
    have hbanned := hok _ hv _ hk _ rfl (Nat.lt_of_not_le hlt) _ hn
    rw [hkept hs.flickr] at hbanned
    cases hbanned
  | pending hv harmed hmem hready htag =>
    rw [htag]
    exact hok _ hv harmed o hmem hready
  | changed hv harmed hmem hready htag =>
    rw [htag]
    exact hok _ hv harmed o hmem hready

theorem showsPresent_step (hs : IsolatedInv s) (e : ServiceEvent) (hok : StaleOk s e) :
    ShowsPresent s e := by
  intro i v w hv hw signal hsignal x hx
  obtain ⟨v', hv', new, hnew, hshown⟩ := tells_step e i w hw
  obtain rfl : v = v' := Option.some.inj (hv.symm.trans hv')
  rw [hnew, List.drop_left] at hsignal
  obtain ⟨o, ho, hxo⟩ := hshown signal hsignal x hx
  refine ⟨o, ?_, hxo⟩
  rw [ho.userChanges]
  exact present_of_source hs hok ho

theorem isolatedInv_start (service : SwService) (thumbnails : String) (store : Store)
    (bannedUids : List String) (cache : String → Option (List CacheGroup)) (name : String)
    (names : List String) : IsolatedInv
      (start service .flickr thumbnails store bannedUids cache (name :: names)) where
  flickr := rfl
  views_ne := by simp [start]
  owns v hv := by
    obtain ⟨n, -, rfl⟩ := List.mem_map.1 hv
    exact ⟨SwItemView.indexed_init, fun _ ho => absurd ho List.not_mem_nil,
      fun _ ho => absurd ho List.not_mem_nil⟩
  files _ _ _ _ := Nat.zero_le _

/-- A started view over an empty cache. -/
def oneView (es : List ServiceEvent) : List ServiceEvent :=
  [.start 0 (.stored _), .credentialsLoaded 0 true] ++ es

/-- A photo arrives, the user changes, and a photo of the new user arrives. -/
def askedAgain : List ServiceEvent :=
  oneView
    [.received 0 0 (.stored _) (some [.plain ⟨0, "flickr"⟩ "http://www.flickr.com/photos/a/1/"]),
    .userChanged (.stored _), .updateTimeout 0, .credentialsLoaded 0 true,
    .received 0 0 (.stored _) (some [.plain ⟨0, "flickr"⟩ "http://www.flickr.com/photos/b/2/"])]

/-- A photo of the old user arrives after the user changed. -/
def answeredLate : List ServiceEvent :=
  oneView [.userChanged (.stored _),
    .received 0 0 (.stored _) (some [.plain ⟨0, "flickr"⟩ "http://www.flickr.com/photos/a/1/"])]

end ServiceState

end LibSocialWeb
