import LibSocialWeb.ItemView.System

/-!
# `ItemsChanged` after `ItemsAdded`

`sw_item_view_update_items` should name an item only after it was added, and its comment says
that it checks the pending set for that. It checks the readiness only.

What does hold on every run is `Told`: an item that is current and not pending has been
announced. So the missing check would have been enough, and it is what `ChangeOk` asks of a step.

**Main result.** `changesAnnounced_of_changeOk`: along a run whose steps are all `ChangeOk`, no
`ItemsChanged` names an id before an `ItemsAdded` does.
-/

namespace LibSocialWeb

open Transition

/-! ## Every current item that does not wait is announced -/

namespace Slot

variable {α : Type*} {ready : α → Bool} {equal : α → α → Bool} {s : Slot α}

/-- The id is announced if it is current and nothing waits. -/
def Told (s : Slot α) : Prop := s.current.isSome → s.waiting = none → s.announced = true

theorem told_drop : s.drop.Told := by simp [Told, drop]

theorem told_add (hs : s.Told) (new : Option α) : (s.add ready new).Told := by
  cases new with
  | none => exact hs
  | some o => by_cases ho : ready o = true <;> simp [Told, add, ho]

theorem told_set (hs : s.Told) (new : Option α) : (s.set ready equal new).Told := by
  cases hc : s.current with
  | none => rw [set_of_none hc]; exact told_add hs new
  | some old =>
    cases new with
    | none => simpa [set, hc] using told_drop
    | some o =>
      by_cases he : equal o old = true
      · simpa [set, hc, he] using hs
      · simpa [Told, set, hc, he] using hs

theorem told_flush (hs : s.Told) : (s.flush ready).Told := by
  cases hw : s.waiting with
  | none => simpa [flush, hw] using hs
  | some p =>
    by_cases hp : ready p = true
    · simp [Told, flush, hw, hp]
    · simpa [flush, hw, hp] using hs

end Slot

namespace SwItemView

/-! ## What each emission does to the log -/

/-- No `ItemsChanged` came before the `ItemsAdded` of an id it names. -/
def Truthful (v : SwItemView) : Prop := Notice.ChangesAnnounced v.notices

theorem truthful_init : init.Truthful := Notice.changesAnnounced_nil

/-- A signal that changes no item is always truthful. -/
theorem truthful_emit {v w : SwItemView} (hv : v.Truthful) {signal : Signal}
    (hw : w.emitted = v.emitted ++ [signal]) (hs : ∀ ks, signal.notice ≠ .changed ks) :
    w.Truthful := by
  unfold Truthful notices
  rw [hw, List.map_append, List.map_singleton]
  exact Notice.changesAnnounced_append.2 ⟨hv, fun ks hks => absurd hks (hs ks)⟩

theorem truthful_congr {v w : SwItemView} (hv : v.Truthful) (hw : w.emitted = v.emitted) :
    w.Truthful := by
  unfold Truthful notices
  rwa [hw]

theorem truthful_addItems (h : Heap) (items : List ItemRef) {v : SwItemView} (hv : v.Truthful) :
    (addItems h items v).Truthful :=
  truthful_emit hv (by rw [addItems_eq]) (by simp)

theorem truthful_addFromSet {κ : Type} {key : ItemRef → κ} (h : Heap) (order : KeyOrder ItemRef)
    (set : SwSet key) {v : SwItemView} (hv : v.Truthful) : (addFromSet h order set v).Truthful := by
  rw [addFromSet_eq]
  exact truthful_addItems h _ (truthful_congr hv rfl)

theorem truthful_removeFromSet {κ : Type} {key : ItemRef → κ} (h : Heap) (order : KeyOrder ItemRef)
    (set : SwSet key) {v : SwItemView} (hv : v.Truthful) :
    (removeFromSet h order set v).Truthful :=
  truthful_emit hv rfl (by simp)

theorem truthful_removeByUid (h : Heap) (uid : String) {v : SwItemView} (hv : v.Truthful) :
    (removeByUid h uid v).Truthful := by
  unfold removeByUid
  cases v.uidToItems.lookup uid with
  | none => exact hv
  | some item => exact truthful_emit hv rfl (by simp)

theorem truthful_handleReadyPendingCb (h : Heap) (order : KeyOrder ItemRef) {v : SwItemView}
    (hv : v.Truthful) : (handleReadyPendingCb h order v).Truthful := by
  rw [handleReadyPendingCb_eq]
  exact truthful_emit hv rfl (by simp)

/-- `sw_item_view_update_items` is truthful about items that were announced. -/
theorem truthful_updateItems (h : Heap) (items : List ItemRef) {v : SwItemView} (hv : v.Truthful)
    (hitems : ∀ o ∈ items, h.ready o = true → v.announced o.uid = true) :
    (updateItems h items v).Truthful := by
  unfold Truthful notices
  dsimp only [updateItems]
  split_ifs
  · rw [emit, List.map_append, List.map_singleton]
    refine Notice.changesAnnounced_append.2 ⟨hv, fun ks hks u hu => ?_⟩
    obtain rfl := Notice.changed.inj hks
    obtain ⟨o, ho, rfl⟩ := (mem_uuids h _ u).1 hu
    exact hitems o (List.mem_filter.1 ho).1 (List.mem_filter.1 ho).2
  · exact hv

/-- `sw_item_view_set_from_set` is truthful when the ready replacements were announced before. -/
theorem truthful_setFromSet (h : Heap) (order : KeyOrder ItemRef) (set : ItemSet) {v : SwItemView}
    (hx : v.Indexed) (hv : v.Truthful)
    (hset : ∀ o ∈ set, ∀ old, v.currentItemsSet.find o.uid = some old → h.equal o old = false →
      h.ready o = true → v.announced o.uid = true) : (setFromSet h order set v).Truthful := by
  rw [setFromSet_eq]
  split_ifs
  · exact truthful_addFromSet h order set hv
  · have hrem : (setRemoved h order set v).Truthful := by
      unfold setRemoved
      split_ifs
      · exact truthful_removeFromSet h order _ hv
      · exact hv
    have hupd : (updateExisting h order set (setRemoved h order set v)).Truthful := by
      rw [updateExisting_eq]
      refine truthful_updateItems h _ (truthful_congr hrem rfl) fun o ho hr => ?_
      obtain ⟨hmem, old, hold, hne⟩ := (mem_replacements (indexed_setRemoved h order set hx)).1 ho
      -- The set has `o`, so the removals left its id alone.
      have hslot : (setRemoved h order set v).slot o.uid = v.slot o.uid := by
        rw [slot_setRemoved, KeySet.mem_iff_find.1 hmem, if_neg (by simp)]
      have hcur : v.currentItemsSet.find o.uid = some old :=
        (congrArg Slot.current hslot).symm.trans hold
      exact (congrArg Slot.announced hslot).trans (hset o hmem old hcur hne hr)
    unfold setAdded
    split_ifs
    · exact truthful_addFromSet h order _ hupd
    · exact hupd

end SwItemView

/-! ## Runs -/

namespace Sys

/-- The steps that change only items which are current and not pending. -/
def ChangeOk (s : Sys) : Event → Prop
  | .setFromSet _ set => ∀ o ∈ set.members, ∀ old ∈ s.view.currentItemsSet.find o.uid,
      s.heap.equal o old = false → s.heap.ready o = true → s.view.pendingItemsSet.has o = false
  | .refreshTimeout => s.view.refreshTimeoutId = true → ∀ o ∈ s.view.changedItems,
      s.heap.ready o = true →
        s.view.currentItemsSet.has o = true ∧ s.view.pendingItemsSet.has o = false
  | _ => True

instance (s : Sys) : (e : Event) → Decidable (ChangeOk s e)
  | .setFromSet .. | .refreshTimeout => by
    dsimp only [ChangeOk]
    infer_instance
  | .addFromSet .. | .removeFromSet .. | .removeByUid .. | .item .. | .pendingTimeout .. =>
    .isTrue trivial

structure ChangeInv (s : Sys) : Prop where
  indexed : s.view.Indexed
  told : ∀ u, (s.view.slot u).Told
  truthful : s.view.Truthful

theorem changeInv_start (h : Heap) : ChangeInv (Sys.start h) where
  indexed := SwItemView.indexed_init
  told u := by simp [Slot.Told, start, SwItemView.slot, SwItemView.init]
  truthful := SwItemView.truthful_init

/-- `Told` holds along every run. -/
theorem told_step {s : Sys} (hx : s.view.Indexed) (hs : ∀ u, (s.view.slot u).Told) (e : Event)
    (u : String) : ((s.step e).view.slot u).Told := by
  rw [slot_step hx]
  cases e with
  | addFromSet order set => exact Slot.told_add (hs u) _
  | setFromSet order set => exact Slot.told_set (hs u) _
  | removeFromSet order set =>
    dsimp only [Event.onSlot]
    split_ifs <;> [exact Slot.told_drop; exact hs u]
  | removeByUid uid => dsimp only [Event.onSlot]; split_ifs <;> [exact Slot.told_drop; exact hs u]
  | pendingTimeout order =>
    dsimp only [Event.onSlot]
    split_ifs <;> [exact Slot.told_flush (hs u); exact hs u]
  | refreshTimeout => exact hs u
  | item e => exact hs u

theorem ChangeInv.announced {s : Sys} (hs : ChangeInv s) {o : ItemRef}
    (hc : s.view.currentItemsSet.has o = true) (hp : s.view.pendingItemsSet.has o = false) :
    s.view.announced o.uid = true :=
  hs.told o.uid hc (SwItemView.not_pending_has.1 hp)

theorem changeInv_step {s : Sys} (hs : ChangeInv s) (e : Event) (hok : ChangeOk s e) :
    ChangeInv (s.step e) := by
  refine ⟨indexed_step hs.indexed e, told_step hs.indexed hs.told e, ?_⟩
  cases e with
  | addFromSet order set => exact SwItemView.truthful_addFromSet s.heap order set hs.truthful
  | removeFromSet order set => exact SwItemView.truthful_removeFromSet s.heap order set hs.truthful
  | setFromSet order set =>
    apply SwItemView.truthful_setFromSet s.heap order set hs.indexed hs.truthful
    intro o ho old hold hne hr
    have hc : s.view.currentItemsSet.has o = true := by simp [KeySet.has, hold]
    exact hs.announced hc (hok o ho old hold hne hr)
  | removeByUid uid => exact SwItemView.truthful_removeByUid s.heap uid hs.truthful
  | item e =>
    obtain ⟨-, -, -, -, he⟩ := SwItemView.onItemEvent_frame s.heap e s.view
    exact SwItemView.truthful_congr hs.truthful he
  | pendingTimeout order =>
    dsimp only [step]
    split_ifs
    · exact SwItemView.truthful_handleReadyPendingCb s.heap order hs.truthful
    · exact hs.truthful
  | refreshTimeout =>
    dsimp only [step]
    split_ifs with ht
    · refine SwItemView.truthful_congr (SwItemView.truthful_updateItems s.heap _ hs.truthful ?_) rfl
      intro o ho hr
      obtain ⟨hc, hp⟩ := hok ht o ho hr
      exact hs.announced hc hp
    · exact hs.truthful

/-- **If a run changes only items that are current and not pending, then each `ItemsChanged` comes
after the `ItemsAdded` of the ids it names.** -/
theorem changesAnnounced_of_changeOk (h : Heap) (es : List Event)
    (hok : EveryStep step ChangeOk (Sys.start h) es) :
    EveryState step (fun s => Notice.ChangesAnnounced s.view.notices) (Sys.start h) es := by
  refine EveryState.mono (fun s (hs : ChangeInv s) => hs.truthful) ?_
  exact everyState_of_everyStep (fun _ e hs he => changeInv_step hs e he) (changeInv_start h) hok

/-- An item becomes ready and is announced by the flush; then a ready version replaces it. -/
def replacedAfterFlush : List Event :=
  let item : ItemRef := ⟨1, "1"⟩
  let newer : ItemRef := ⟨2, "1"⟩
  [.item (.pushPending item), .setFromSet (.stored _) (KeySet.empty.add item),
    .item (.popPending item), .pendingTimeout (.stored _), .item (.setTitle newer "t"),
    .setFromSet (.stored _) (KeySet.empty.add newer), .refreshTimeout]

theorem changesAnnounced_replacedAfterFlush :
    EveryState step (fun s => Notice.ChangesAnnounced s.view.notices)
      (Sys.start (Heap.plain ⟨0, "flickr"⟩)) replacedAfterFlush :=
  changesAnnounced_of_changeOk _ _ (by decide)

/-- A ready version replaces an item that was never announced. -/
def replacedWhileWaiting : List Event :=
  let item : ItemRef := ⟨1, "1"⟩
  let newer : ItemRef := ⟨2, "1"⟩
  [.item (.pushPending item), .setFromSet (.stored _) (KeySet.empty.add item),
    .setFromSet (.stored _) (KeySet.empty.add newer)]

/-- The client is then told of a change of an item that it does not know. -/
theorem replacedWhileWaiting_not_announced :
    ¬ ∀ (h : Heap) (es : List Event),
      EveryState step (fun s => Notice.ChangesAnnounced s.view.notices) (Sys.start h) es := by
  intro hall
  have hlast := (hall (Heap.plain ⟨0, "flickr"⟩) replacedWhileWaiting).last
  have hlog : (runFrom step (Sys.start (Heap.plain ⟨0, "flickr"⟩))
      replacedWhileWaiting).view.notices = [.added []] ++ .changed ["1"] :: [] := by rfl
  have hpresent := Notice.present_iff.2 (hlast _ _ _ hlog "1" (by simp))
  exact absurd hpresent (by decide)

end Sys

end LibSocialWeb
