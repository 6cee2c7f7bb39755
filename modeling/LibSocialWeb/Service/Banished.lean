import LibSocialWeb.Service.Announcements

/-!
# Hidden items

After `HideItem(uid)` no view of the service should announce the id again: `StaysHidden`.

The cache loader and the Flickr reader ask for the ban list, but the Facebook reader does not, and
`sw_item_view_remove_by_uid` takes the item out of the current set only. `HiddenOk` asks that these
ways back stay unused: no ready banned item in a Facebook reply, and none among the items that a
flush announces.

**Main result.** `staysHidden_of_hiddenOk`: along a run whose steps are all `HiddenOk`, what is
hidden stays hidden in every view.
-/

namespace LibSocialWeb

open Transition

namespace ServiceState

/-- Whenever the run hides `uid`, no signal that a view emits later announces `uid`. -/
def StaysHidden (s : ServiceState) (es : List ServiceEvent) : Prop :=
  ∀ before uid after, es = before ++ .hideItem uid :: after → ∀ (i : Nat) (v w : ServiceView),
    (runFrom step s (before ++ [.hideItem uid])).views[i]? = some v →
    (runFrom step s es).views[i]? = some w →
    ∀ signal ∈ w.base.emitted.drop v.base.emitted.length, ¬ signal.Announces uid

/-- The steps that announce no banned id. -/
def HiddenOk (s : ServiceState) : ServiceEvent → Prop
  | .received i k _ reply => s.kind = .facebook → ∀ v ∈ s.views[i]?, v.requests[k]?.isSome →
      ∀ statuses ∈ reply, ∀ n ∈ statuses, n.item.getReady = true → s.isUidBanned n.uid = false
  | .pendingTimeout i _ => ∀ v ∈ s.views[i]?, v.base.pendingTimeoutId = true →
      ∀ p ∈ v.base.pendingItemsSet, s.store.heap.ready p = true → s.isUidBanned p.uid = false
  | .refreshTimeout i => ∀ v ∈ s.views[i]?, v.base.refreshTimeoutId = true →
      ∀ o ∈ v.base.changedItems, s.store.heap.ready o = true → s.isUidBanned o.uid = false
  | _ => True

instance (s : ServiceState) : (e : ServiceEvent) → Decidable (HiddenOk s e)
  | .received .. | .pendingTimeout .. | .refreshTimeout .. => by
    dsimp only [HiddenOk]
    infer_instance
  | .start .. | .stop .. | .refresh .. | .updateTimeout .. | .credentialsLoaded .. | .userChanged ..
  | .capabilitiesChanged .. | .gotUserInfo .. | .hideItem .. | .item .. => .isTrue trivial

variable {s t : ServiceState} {Q : String → Prop}

/-! ## What a step makes the views announce -/

/-- Every view of `t` is a view of `s` that went on to announce only ids in `Q`. -/
def Silent (s t : ServiceState) (Q : String → Prop) : Prop :=
  ∀ (i : Nat) (w : ServiceView), t.views[i]? = some w →
    ∃ v : ServiceView, s.views[i]? = some v ∧ v.base.Emits w.base Q

theorem silent_same (hviews : t.views = s.views) : Silent s t Q := by
  intro i w hw
  exact ⟨w, hviews ▸ hw, SwItemView.emits_same rfl⟩

/-- **An allowed step makes no view announce a banned id.** -/
theorem silent_step (e : ServiceEvent) (hok : HiddenOk s e) :
    Silent s (s.step e) fun u => s.isUidBanned u = false := by
  have hsource : ∀ o, Source s (s.step e) o e → s.isUidBanned o.uid = false := by
    intro o ho
    cases ho with
    | cached _ _ _ hallowed _ => exact hallowed
    | replied hv hk hn hkept hu hready _ =>
      rw [← hu]
      cases hkind : s.kind with
      | flickr => exact hkept hkind
      | facebook => exact hok hkind _ hv (Option.isSome_of_eq_some hk) _ rfl _ hn hready
    | pending hv harmed hmem hready _ => exact hok _ hv harmed o hmem hready
    | changed hv harmed hmem hready _ => exact hok _ hv harmed o hmem hready
  intro i w hw
  obtain ⟨v, hv, hshows⟩ := tells_step e i w hw
  exact ⟨v, hv, hshows.emits hsource⟩

/-! ## Runs -/

theorem isUidBanned_iff {uid : String} : s.isUidBanned uid = true ↔ uid ∈ s.bannedUids :=
  decide_eq_true_iff

theorem isUidBanned_hideItem {uid other : String} :
    (s.step (.hideItem other)).isUidBanned uid = true ↔ s.isUidBanned uid = true ∨ uid = other := by
  rw [isUidBanned_iff, isUidBanned_iff]
  dsimp only [step, hideItem]
  split_ifs with h
  · exact ⟨Or.inl, fun hu => hu.elim id fun he => he ▸ h⟩
  · simp

/-- A banned id stays banned. -/
theorem isUidBanned_step (e : ServiceEvent) {uid : String} (h : s.isUidBanned uid = true) :
    (s.step e).isUidBanned uid = true := by
  have hkeep : (s.step e).bannedUids = s.bannedUids → (s.step e).isUidBanned uid = true := by
    intro hsame
    rwa [isUidBanned, hsame]
  cases e with
  | start i order => exact hkeep (start_frame i order).1
  | stop i => exact hkeep (onView_frame i _).1
  | refresh i => exact hkeep (onView_frame i _).1
  | updateTimeout i => exact hkeep (onView_frame i _).1
  | credentialsLoaded i found => exact hkeep (onView_frame i _).1
  | received i k order reply => exact hkeep (received_frame i k order reply).1
  | userChanged order => exact h
  | capabilitiesChanged valid => exact h
  | gotUserInfo uid => exact h
  | hideItem other => exact isUidBanned_hideItem.2 (Or.inl h)
  | item e => exact h
  | pendingTimeout i order => exact hkeep (onView_frame i _).1
  | refreshTimeout i => exact hkeep (onView_frame i _).1

/-- From the state `s` on, no view has announced `uid`, and `uid` is banned. -/
structure Hushed (s : ServiceState) (uid : String) (t : ServiceState) : Prop where
  banned : t.isUidBanned uid = true
  silent : Silent s t fun u => u ≠ uid

theorem Silent.trans {r : ServiceState} (h : Silent s t Q) (h' : Silent t r Q) : Silent s r Q := by
  intro i w hw
  obtain ⟨v, hv, hvw⟩ := h' i w hw
  obtain ⟨u, hu, huv⟩ := h i v hv
  exact ⟨u, hu, huv.trans hvw⟩

theorem Silent.mono {P : String → Prop} (h : Silent s t P) (hPQ : ∀ u, P u → Q u) :
    Silent s t Q := by
  intro i w hw
  obtain ⟨v, hv, new, hnew, hall⟩ := h i w hw
  exact ⟨v, hv, new, hnew, fun signal hs u hu => hPQ u (hall signal hs u hu)⟩

theorem hushed_step {uid : String} (h : Hushed s uid t) (e : ServiceEvent) (hok : HiddenOk t e) :
    Hushed s uid (t.step e) := by
  refine ⟨isUidBanned_step e h.banned, h.silent.trans ((silent_step e hok).mono ?_)⟩
  intro u hu heq
  subst heq
  rw [h.banned] at hu
  cases hu

/-- **If no reply and no flush brings a ready banned item, what is hidden stays hidden.** -/
theorem staysHidden_of_hiddenOk (s : ServiceState) (es : List ServiceEvent)
    (hok : EveryStep step HiddenOk s es) : StaysHidden s es := by
  intro before uid after heq i v w hv hw signal hsignal hu
  subst heq
  have hsplit : before ++ .hideItem uid :: after = (before ++ [.hideItem uid]) ++ after := by simp
  rw [hsplit] at hok hw
  rw [runFrom_append] at hw
  have hban : (runFrom step s (before ++ [.hideItem uid])).isUidBanned uid = true := by
    rw [runFrom_append]
    exact isUidBanned_hideItem.2 (Or.inr rfl)
  have hrun : EveryState step (Hushed (runFrom step s (before ++ [.hideItem uid])) uid)
      (runFrom step s (before ++ [.hideItem uid])) after :=
    everyState_of_everyStep (fun t e ht he => hushed_step ht e he) ⟨hban, silent_same rfl⟩
      hok.of_append
  obtain ⟨v', hv', new, hnew, hall⟩ := hrun.last.silent i w hw
  obtain rfl : v = v' := Option.some.inj (hv.symm.trans hv')
  rw [hnew, List.drop_left] at hsignal
  exact hall signal hsignal uid hu rfl

/-- A Flickr service with one view over no cache. -/
def oneFlickrView : ServiceState :=
  start ⟨0, "flickr"⟩ .flickr "thumbnails" ⟨Heap.plain ⟨0, "flickr"⟩, 0⟩ [] (fun _ => none)
    ["flickr-feed"]

/-- A photo is shown and hidden, and the next reply has it again. -/
def hiddenWhenShown : List ServiceEvent :=
  [.start 0 (.stored _), .credentialsLoaded 0 true,
    .received 0 0 (.stored _) (some [.plain ⟨0, "flickr"⟩ "1"]), .hideItem "1",
    .updateTimeout 0, .credentialsLoaded 0 true,
    .received 0 0 (.stored _) (some [.plain ⟨0, "flickr"⟩ "1"]),
    .pendingTimeout 0 (.stored _), .refreshTimeout 0]

theorem staysHidden_hiddenWhenShown : StaysHidden oneFlickrView hiddenWhenShown :=
  staysHidden_of_hiddenOk _ _ (by decide)

/-- A photo is hidden while its thumbnail is fetched. -/
def hiddenWhenWaiting : List ServiceEvent :=
  [.start 0 (.stored _), .credentialsLoaded 0 true,
    .received 0 0 (.stored _) (some [.waiting ⟨0, "flickr"⟩ "1"]), .hideItem "1",
    .item (.popPending ⟨0, "1"⟩), .pendingTimeout 0 (.stored _)]

/-- It is announced when the thumbnail has arrived. -/
theorem hiddenWhenWaiting_announced :
    ¬ ∀ (service : SwService) (kind : ServiceKind) (thumbnails : String) (store : Store)
      (bannedUids : List String) (cache : String → Option (List CacheGroup)) (names : List String)
      (es : List ServiceEvent),
      StaysHidden (start service kind thumbnails store bannedUids cache names) es := by
  intro hall
  have hrun : StaysHidden oneFlickrView hiddenWhenWaiting := hall _ _ _ _ _ _ _ _
  exact hrun (hiddenWhenWaiting.take 3) "1" (hiddenWhenWaiting.drop 4) rfl 0 _ _ rfl rfl
    (.itemsAdded [⟨"flickr", "1", none, [("id", "1")]⟩]) (by decide) (by decide)

end ServiceState

end LibSocialWeb
