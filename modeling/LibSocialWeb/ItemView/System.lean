import LibSocialWeb.ItemView.Slot
import LibSocialWeb.Lib.Run

/-!
# Runs of an item view

The system is the heap of items together with one view. A run starts with a fresh view over any
heap and takes events in any order: the four operations on sets, events on any item, and the two
timeouts, which do nothing unless their timer is armed. The order in which the hash tables are
listed is part of each event.

`slot_step` is the refinement: each event acts on the slot of each id by `Event.onSlot`.

**Main result.** `indexAgrees`: the index of a view and its set of current items hold the same
objects under the same ids, in every state of every run.
-/

namespace LibSocialWeb

structure Sys where
  heap : Heap
  view : SwItemView

/-- The view is fresh. -/
def Sys.start (h : Heap) : Sys := ⟨h, SwItemView.init⟩

inductive Event where
  | addFromSet (order : KeyOrder ItemRef) (set : ItemSet)
  | removeFromSet (order : KeyOrder ItemRef) (set : ItemSet)
  | setFromSet (order : KeyOrder ItemRef) (set : ItemSet)
  | removeByUid (uid : String)
  | item (e : ItemEvent)
  | pendingTimeout (order : KeyOrder ItemRef)
  | refreshTimeout

namespace Sys

def step (s : Sys) : Event → Sys
  | .addFromSet order set => { s with view := s.view.addFromSet s.heap order set }
  | .removeFromSet order set => { s with view := s.view.removeFromSet s.heap order set }
  | .setFromSet order set => { s with view := s.view.setFromSet s.heap order set }
  | .removeByUid uid => { s with view := s.view.removeByUid s.heap uid }
  | .item e => ⟨e.heap s.heap, s.view.onItemEvent s.heap e⟩
  | .pendingTimeout order =>
    if s.view.pendingTimeoutId then { s with view := s.view.handleReadyPendingCb s.heap order }
    else s
  | .refreshTimeout =>
    if s.view.refreshTimeoutId then { s with view := s.view.itemChangedTimeoutCb s.heap } else s

end Sys

namespace SwItemView

/-! ## Item events and the refresh timer leave the slots alone -/

/-- The parts of a view that an item event cannot touch. -/
theorem onItemEvent_frame (h : Heap) (e : ItemEvent) (v : SwItemView) :
    (onItemEvent h e v).currentItemsSet = v.currentItemsSet ∧
      (onItemEvent h e v).pendingItemsSet = v.pendingItemsSet ∧
      (onItemEvent h e v).uidToItems = v.uidToItems ∧
      (onItemEvent h e v).changedHandlers = v.changedHandlers ∧
      (onItemEvent h e v).emitted = v.emitted := by
  dsimp only [onItemEvent]
  simp only [onNotifyReady_eq, onChanged_eq, itemChangedCb_eq]
  split_ifs <;> exact ⟨rfl, rfl, rfl, rfl, rfl⟩

/-- The parts of a view that the flush of the pending items cannot touch. -/
theorem handleReadyPendingCb_frame (h : Heap) (order : KeyOrder ItemRef) (v : SwItemView) :
    (handleReadyPendingCb h order v).currentItemsSet = v.currentItemsSet ∧
      (handleReadyPendingCb h order v).uidToItems = v.uidToItems ∧
      (handleReadyPendingCb h order v).readyHandlers = v.readyHandlers := by
  rw [handleReadyPendingCb_eq]
  exact ⟨rfl, rfl, rfl⟩

/-- The parts of a view that the refresh timer cannot touch. -/
theorem itemChangedTimeoutCb_frame (h : Heap) (v : SwItemView) :
    (itemChangedTimeoutCb h v).currentItemsSet = v.currentItemsSet ∧
      (itemChangedTimeoutCb h v).uidToItems = v.uidToItems ∧
      (itemChangedTimeoutCb h v).readyHandlers = v.readyHandlers ∧
      (itemChangedTimeoutCb h v).changedHandlers = v.changedHandlers ∧
      (itemChangedTimeoutCb h v).pendingTimeoutId = v.pendingTimeoutId := by
  dsimp only [itemChangedTimeoutCb]
  rw [updateItems_eq]
  exact ⟨rfl, rfl, rfl, rfl, rfl⟩

theorem Indexed.congr {v w : SwItemView} (hv : v.Indexed)
    (hc : w.currentItemsSet = v.currentItemsSet) (hx : w.uidToItems = v.uidToItems) :
    w.Indexed := by
  intro u
  rw [hx, hv u]
  exact congrArg (fun set => KeySet.find set u) hc.symm

theorem slot_onItemEvent (h : Heap) (e : ItemEvent) (v : SwItemView) (u : String) :
    (onItemEvent h e v).slot u = v.slot u := by
  obtain ⟨hc, hp, -, -, he⟩ := onItemEvent_frame h e v
  exact slot_congr hc hp he u

theorem slot_itemChangedTimeoutCb (h : Heap) (v : SwItemView) (u : String) :
    (itemChangedTimeoutCb h v).slot u = v.slot u := by
  have hu : (itemChangedTimeoutCb h v).slot u = (updateItems h v.changedItems v).slot u :=
    slot_congr rfl rfl rfl u
  rw [hu, slot_updateItems]

end SwItemView

/-! ## The refinement -/

/-- What an event does to the slot of `u`. -/
def Event.onSlot (s : Sys) (u : String) : Event → Slot ItemRef → Slot ItemRef
  | .addFromSet _ set, t => t.add s.heap.ready (set.find u)
  | .removeFromSet _ set, t => if (set.find u).isSome then t.drop else t
  | .setFromSet _ set, t => t.set s.heap.ready s.heap.equal (set.find u)
  | .removeByUid uid, t => if u = uid ∧ t.current.isSome then t.drop else t
  | .pendingTimeout _, t => if s.view.pendingTimeoutId then t.flush s.heap.ready else t
  | .item _, t => t
  | .refreshTimeout, t => t

namespace Sys

/-- **Refinement.** Every event acts on each id by its slot action. -/
theorem slot_step {s : Sys} (hs : s.view.Indexed) (e : Event) (u : String) :
    (s.step e).view.slot u = e.onSlot s u (s.view.slot u) := by
  cases e with
  | addFromSet order set => exact SwItemView.slot_addFromSet s.heap order set.nodup s.view u
  | removeFromSet order set =>
    show (SwItemView.removeFromSet s.heap order set s.view).slot u = _
    rw [SwItemView.slot_removeFromSet]
    simp only [← KeySet.find_isSome]
    rfl
  | setFromSet order set => exact SwItemView.slot_setFromSet s.heap order set hs u
  | removeByUid uid => exact SwItemView.slot_removeByUid s.heap uid hs u
  | item e => exact SwItemView.slot_onItemEvent s.heap e s.view u
  | pendingTimeout order =>
    dsimp only [step, Event.onSlot]
    split_ifs
    · exact SwItemView.slot_handleReadyPendingCb s.heap order s.view u
    · rfl
  | refreshTimeout =>
    dsimp only [step, Event.onSlot]
    split_ifs
    · exact SwItemView.slot_itemChangedTimeoutCb s.heap s.view u
    · rfl

theorem pendingTimeout_frame (s : Sys) (order : KeyOrder ItemRef) :
    (s.step (.pendingTimeout order)).view.currentItemsSet = s.view.currentItemsSet ∧
      (s.step (.pendingTimeout order)).view.uidToItems = s.view.uidToItems ∧
      (s.step (.pendingTimeout order)).view.readyHandlers = s.view.readyHandlers := by
  dsimp only [step]
  split_ifs
  · exact SwItemView.handleReadyPendingCb_frame s.heap order s.view
  · exact ⟨rfl, rfl, rfl⟩

theorem refreshTimeout_frame (s : Sys) :
    (s.step .refreshTimeout).view.currentItemsSet = s.view.currentItemsSet ∧
      (s.step .refreshTimeout).view.uidToItems = s.view.uidToItems ∧
      (s.step .refreshTimeout).view.readyHandlers = s.view.readyHandlers ∧
      (s.step .refreshTimeout).view.changedHandlers = s.view.changedHandlers ∧
      (s.step .refreshTimeout).view.pendingTimeoutId = s.view.pendingTimeoutId := by
  dsimp only [step]
  split_ifs
  · exact SwItemView.itemChangedTimeoutCb_frame s.heap s.view
  · exact ⟨rfl, rfl, rfl, rfl, rfl⟩

theorem indexed_step {s : Sys} (hs : s.view.Indexed) (e : Event) : (s.step e).view.Indexed := by
  cases e with
  | addFromSet order set => exact SwItemView.indexed_addFromSet s.heap order set.nodup s.view hs
  | removeFromSet order set =>
    exact SwItemView.indexed_removeFromSet s.heap order s.view set.nodup hs
  | setFromSet order set => exact SwItemView.indexed_setFromSet s.heap order set hs
  | removeByUid uid => exact SwItemView.indexed_removeByUid s.heap uid hs
  | item e =>
    obtain ⟨hc, -, hx, -, -⟩ := SwItemView.onItemEvent_frame s.heap e s.view
    exact hs.congr hc hx
  | pendingTimeout order =>
    obtain ⟨hc, hx, -⟩ := pendingTimeout_frame s order
    exact hs.congr hc hx
  | refreshTimeout =>
    obtain ⟨hc, hx, -⟩ := refreshTimeout_frame s
    exact hs.congr hc hx

theorem step_heap (s : Sys) (e : Event) :
    (s.step e).heap = match e with
      | .item e => e.heap s.heap
      | _ => s.heap := by
  cases e <;> dsimp only [step] <;> split_ifs <;> rfl

end Sys

/-! ## The index -/

/-- `uid_to_items` has exactly the ids of the current items, and for each the same object. -/
structure SwItemView.IndexAgrees (v : SwItemView) : Prop where
  ids : ∀ u, u ∈ v.uidToItems ↔ ∃ o ∈ v.currentItemsSet, o.uid = u
  object : ∀ u o, v.uidToItems.lookup u = some o → o ∈ v.currentItemsSet ∧ o.uid = u

theorem SwItemView.Indexed.agrees {v : SwItemView} (h : v.Indexed) : v.IndexAgrees where
  ids u := by
    rw [← AList.lookup_isSome, h u]
    exact KeySet.find_isSome
  object u o ho := by
    rw [h u] at ho
    exact KeySet.find_some ho

/-- **The two indexes agree**, in every state of every run. -/
theorem Sys.indexAgrees (h : Heap) (es : List Event) :
    Transition.EveryState step (fun s => s.view.IndexAgrees) (start h) es := by
  have hindexed : Transition.EveryState step (fun s => s.view.Indexed) (start h) es :=
    Transition.everyState_of_step (fun _ e hs => indexed_step hs e) (fun _ => rfl) es
  exact hindexed.mono fun _ hs => hs.agrees

end LibSocialWeb
