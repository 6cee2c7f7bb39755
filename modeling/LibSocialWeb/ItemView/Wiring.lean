import LibSocialWeb.ItemView.System

/-!
# Queues, timers and handlers

What each function of a view does to the parts that no slot shows: the list of changed items, the
two timers, and the connections of the two handlers.

The operations on sets leave the changed items and the timers alone (`deferred`), and connect
handlers only for the items they add. Item events fill the list of changed items and arm the
timers.
-/

namespace LibSocialWeb

namespace SwItemView

/-- The work a view has put off: the changed items and the two timers. -/
def deferred (v : SwItemView) : List ItemRef × Bool × Bool :=
  (v.changedItems, v.refreshTimeoutId, v.pendingTimeoutId)

theorem pendingTimeoutId_of_deferred {v w : SwItemView} (hw : w.deferred = v.deferred) :
    w.pendingTimeoutId = v.pendingTimeoutId := congrArg (fun d => d.2.2) hw

/-- The connections of both handlers. -/
def handlers (v : SwItemView) : List ItemRef × List ItemRef := (v.readyHandlers, v.changedHandlers)

theorem readyHandlers_of_handlers {v w : SwItemView} (hw : w.handlers = v.handlers) :
    w.readyHandlers = v.readyHandlers := congrArg Prod.fst hw

theorem changedHandlers_of_handlers {v w : SwItemView} (hw : w.handlers = v.handlers) :
    w.changedHandlers = v.changedHandlers := congrArg Prod.snd hw

/-! ## Operations on sets -/

section

variable {κ : Type} {key : ItemRef → κ} (h : Heap) (order : KeyOrder ItemRef) {set : SwSet key}
  {v : SwItemView}

theorem deferred_addFromSet : (addFromSet h order set v).deferred = v.deferred := by
  rw [addFromSet_eq, addItems_eq]
  rfl

theorem mem_changedHandlers_addFromSet {o : ItemRef} :
    o ∈ (addFromSet h order set v).changedHandlers ↔ o ∈ set ∨ o ∈ v.changedHandlers := by
  rw [addFromSet_eq, addItems_eq]
  simp

theorem mem_readyHandlers_addFromSet {o : ItemRef} :
    o ∈ (addFromSet h order set v).readyHandlers ↔
      (o ∈ set ∧ h.ready o = false) ∨ o ∈ v.readyHandlers := by
  rw [addFromSet_eq, addItems_eq]
  simp

end

section

variable (h : Heap) (order : KeyOrder ItemRef) (set : ItemSet) (v : SwItemView)

theorem deferred_setRemoved : (setRemoved h order set v).deferred = v.deferred := by
  unfold setRemoved
  split_ifs <;> rfl

theorem deferred_updateExisting : (updateExisting h order set v).deferred = v.deferred := by
  rw [updateExisting_eq, updateItems_eq]
  rfl

theorem deferred_setAdded (before : ItemSet) :
    (setAdded h order set before v).deferred = v.deferred := by
  unfold setAdded
  split_ifs
  · exact deferred_addFromSet h order
  · rfl

theorem deferred_setFromSet : (setFromSet h order set v).deferred = v.deferred := by
  rw [setFromSet_eq]
  split_ifs
  · exact deferred_addFromSet h order
  · rw [deferred_setAdded, deferred_updateExisting, deferred_setRemoved]

theorem handlers_setRemoved : (setRemoved h order set v).handlers = v.handlers := by
  unfold setRemoved
  split_ifs <;> rfl

/-- **`sw_item_view_update_existing` connects no handler.** -/
theorem handlers_updateExisting : (updateExisting h order set v).handlers = v.handlers := by
  rw [updateExisting_eq, updateItems_eq]
  rfl

/-- What the removals and replacements of `sw_item_view_set_from_set` leave connected. -/
theorem handlers_replaced :
    (updateExisting h order set (setRemoved h order set v)).handlers = v.handlers :=
  (handlers_updateExisting h order set _).trans (handlers_setRemoved h order set v)

/-- `sw_item_view_set_from_set` connects the handlers of the items whose id is new. -/
theorem mem_handlers_setFromSet {o : ItemRef} :
    (o ∈ (setFromSet h order set v).changedHandlers ↔
      (o ∈ set ∧ v.currentItemsSet.find o.uid = none) ∨ o ∈ v.changedHandlers) ∧
    (o ∈ (setFromSet h order set v).readyHandlers ↔
      ((o ∈ set ∧ v.currentItemsSet.find o.uid = none) ∧ h.ready o = false) ∨
        o ∈ v.readyHandlers) := by
  have hsame := handlers_replaced h order set v
  rw [setFromSet_eq]
  split_ifs with hempty
  · rw [mem_changedHandlers_addFromSet, mem_readyHandlers_addFromSet,
      KeySet.isEmpty_iff.1 hempty o.uid]
    simp
  · rw [← mem_difference]
    unfold setAdded
    split_ifs with hne
    · rw [mem_changedHandlers_addFromSet, mem_readyHandlers_addFromSet,
        changedHandlers_of_handlers hsame, readyHandlers_of_handlers hsame]
      exact ⟨Iff.rfl, Iff.rfl⟩
    · rw [changedHandlers_of_handlers hsame, readyHandlers_of_handlers hsame]
      simp only [Bool.not_eq_true', Bool.not_eq_false] at hne
      simp [KeySet.mem_def, List.isEmpty_iff.1 hne]

end

theorem deferred_removeByUid (h : Heap) (uid : String) (v : SwItemView) :
    (removeByUid h uid v).deferred = v.deferred := by
  unfold removeByUid
  cases v.uidToItems.lookup uid <;> rfl

theorem handlers_removeByUid (h : Heap) (uid : String) (v : SwItemView) :
    (removeByUid h uid v).handlers = v.handlers := by
  unfold removeByUid
  cases v.uidToItems.lookup uid <;> rfl

/-! ## Item events -/

section

variable (h : Heap) (e : ItemEvent) (v : SwItemView)

/-- The changed items gain the item of the event, when it is ready and its `changed` reaches the
view. -/
theorem mem_changedItems_onItemEvent {o : ItemRef} :
    o ∈ (onItemEvent h e v).changedItems ↔ o ∈ v.changedItems ∨
      (o = e.ref ∧ e.emitsChanged = true ∧ e.ref ∈ v.changedHandlers ∧
        (e.heap h).ready e.ref = true) := by
  dsimp only [onItemEvent]
  simp only [onNotifyReady_eq, onChanged_eq, itemChangedCb_eq]
  by_cases hc : e.emitsChanged = true <;> by_cases hr : (e.heap h).ready e.ref = true <;>
    by_cases hm : e.ref ∈ v.changedHandlers <;> by_cases hi : e.ref ∈ v.changedItems <;>
    split_ifs <;> simp_all

/-- A notification that finds its handler connected arms the pending timer. -/
theorem pendingTimeoutId_onItemEvent :
    (onItemEvent h e v).pendingTimeoutId = (v.pendingTimeoutId ||
      (e.notifiesReady h && decide (e.ref ∈ v.readyHandlers) && (e.heap h).ready e.ref)) := by
  dsimp only [onItemEvent]
  simp only [onNotifyReady_eq, onChanged_eq, itemChangedCb_eq]
  split_ifs <;> simp_all

theorem mem_readyHandlers_onItemEvent {o : ItemRef} (ho : (e.heap h).ready o = false) :
    o ∈ (onItemEvent h e v).readyHandlers ↔ o ∈ v.readyHandlers := by
  have hne : (e.heap h).ready e.ref = true → o ≠ e.ref := by
    intro hr heq
    subst heq
    rw [ho] at hr
    cases hr
  dsimp only [onItemEvent]
  simp only [onNotifyReady_eq, onChanged_eq, itemChangedCb_eq]
  split_ifs <;> simp_all

end

end SwItemView

/-! ## The queue of changed items -/

/-- The list of changed items and its timer. -/
def SwItemView.refreshQueue (v : SwItemView) : List ItemRef × Bool :=
  (v.changedItems, v.refreshTimeoutId)

theorem SwItemView.refreshQueue_of_deferred {v w : SwItemView} (hw : w.deferred = v.deferred) :
    w.refreshQueue = v.refreshQueue := congrArg (fun d => (d.1, d.2.1)) hw

/-- Only item events and the refresh timer touch the queue. -/
theorem Sys.refreshQueue_step (s : Sys) {e : Event} (he : ∀ i, e ≠ .item i)
    (hr : e ≠ .refreshTimeout) : (s.step e).view.refreshQueue = s.view.refreshQueue := by
  cases e with
  | addFromSet order set =>
    exact SwItemView.refreshQueue_of_deferred (SwItemView.deferred_addFromSet s.heap order)
  | removeFromSet order set => rfl
  | setFromSet order set =>
    exact SwItemView.refreshQueue_of_deferred
      (SwItemView.deferred_setFromSet s.heap order set s.view)
  | removeByUid uid =>
    exact SwItemView.refreshQueue_of_deferred (SwItemView.deferred_removeByUid s.heap uid s.view)
  | item e => exact absurd rfl (he e)
  | pendingTimeout order =>
    dsimp only [step]
    split_ifs
    · rw [SwItemView.handleReadyPendingCb_eq]
      rfl
    · rfl
  | refreshTimeout => exact absurd rfl hr

end LibSocialWeb
