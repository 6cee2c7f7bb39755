import LibSocialWeb.ItemView.Ops

/-!
# `SwItemStream` (`libsocialweb/sw-item-stream.c`)

A stream is a view that items are only ever added to: it has the announcing half of an item view,
that is the set of items that wait to become ready, the list of items that changed, the handlers
and the two timers, but no set of current items and no index.

`asView` fills in the missing half. The `asView_*` lemmas say that each function of the stream does
what the function of the same name does to a view, so that the equations of the view hold of the
stream.
-/

namespace LibSocialWeb

structure SwItemStream where
  pendingItemsSet : ItemSet
  pendingTimeoutId : Bool
  refreshTimeoutId : Bool
  changedItems : List ItemRef
  readyHandlers : List ItemRef
  changedHandlers : List ItemRef
  emitted : List Signal

namespace SwItemStream

/-- `sw_item_stream_init` -/
def init : SwItemStream where
  pendingItemsSet := KeySet.empty
  pendingTimeoutId := false
  refreshTimeoutId := false
  changedItems := []
  readyHandlers := []
  changedHandlers := []
  emitted := []

def emit (signal : Signal) (s : SwItemStream) : SwItemStream :=
  { s with emitted := s.emitted ++ [signal] }

def setupReadyHandler (item : ItemRef) (s : SwItemStream) : SwItemStream :=
  { s with readyHandlers := item :: s.readyHandlers }

def setupChangedHandler (item : ItemRef) (s : SwItemStream) : SwItemStream :=
  { s with changedHandlers := item :: s.changedHandlers }

/-! ## Adding items -/

/-- The loop body of `sw_item_stream_add_items`. -/
def addItemsStep (h : Heap) : SwItemStream × List ItemStruct → ItemRef →
    SwItemStream × List ItemStruct
  | (s, ptrArray), item =>
    if h.ready item then (s.setupChangedHandler item, ptrArray ++ [h.toValueArray item])
    else
      let s := s.setupReadyHandler item
      let s := { s with pendingItemsSet := s.pendingItemsSet.add item }
      (s.setupChangedHandler item, ptrArray)

/-- `sw_item_stream_add_items` -/
def addItems (h : Heap) (items : List ItemRef) (s : SwItemStream) : SwItemStream :=
  let (s, ptrArray) := items.foldl (addItemsStep h) (s, [])
  s.emit (.itemsAdded ptrArray)

/-- `sw_item_stream_add_item` -/
def addItem (h : Heap) (item : ItemRef) (s : SwItemStream) : SwItemStream :=
  let (s, ptrArray) :=
    if h.ready item then (s, [h.toValueArray item])
    else
      let s := s.setupReadyHandler item
      ({ s with pendingItemsSet := s.pendingItemsSet.add item }, [])
  let s := s.setupChangedHandler item
  s.emit (.itemsAdded ptrArray)

/-- `sw_item_stream_update_items` -/
def updateItems (h : Heap) (items : List ItemRef) (s : SwItemStream) : SwItemStream :=
  let ptrArray := (items.filter h.ready).map h.toValueArray
  if 0 < ptrArray.length then s.emit (.itemsChanged ptrArray) else s

/-! ## Handlers and timers -/

/-- The loop body of `_handle_ready_pending_cb`. -/
def takeReady (h : Heap) : List ItemRef × ItemSet → ItemRef → List ItemRef × ItemSet
  | (itemsToSend, pending), item =>
    if h.ready item then (item :: itemsToSend, pending.remove item) else (itemsToSend, pending)

/-- `_handle_ready_pending_cb`: the pending timer fires. -/
def handleReadyPendingCb (h : Heap) (order : KeyOrder ItemRef) (s : SwItemStream) :
    SwItemStream :=
  let pendingItems := SwSet.asList order s.pendingItemsSet
  let (itemsToSend, pending) := pendingItems.foldl (takeReady h) ([], s.pendingItemsSet)
  let s := addItems h itemsToSend { s with pendingItemsSet := pending }
  { s with pendingTimeoutId := false }

/-- `_item_ready_notify_cb` -/
def itemReadyNotifyCb (h : Heap) (item : ItemRef) (s : SwItemStream) : SwItemStream :=
  if h.ready item then
    let s := { s with readyHandlers := s.readyHandlers.filter (· ≠ item) }
    if !s.pendingTimeoutId then { s with pendingTimeoutId := true } else s
  else s

/-- `_item_changed_cb` -/
def itemChangedCb (h : Heap) (item : ItemRef) (s : SwItemStream) : SwItemStream :=
  if !h.ready item then s
  else
    let s := if item ∈ s.changedItems then s
      else { s with changedItems := s.changedItems ++ [item] }
    if !s.refreshTimeoutId then { s with refreshTimeoutId := true } else s

/-- `_item_changed_timeout_cb`: the refresh timer fires. -/
def itemChangedTimeoutCb (h : Heap) (s : SwItemStream) : SwItemStream :=
  let s := updateItems h s.changedItems s
  { s with changedItems := [], refreshTimeoutId := false }

/-- `notify::ready` on an item. -/
def onNotifyReady (h : Heap) (item : ItemRef) (s : SwItemStream) : SwItemStream :=
  if item ∈ s.readyHandlers then itemReadyNotifyCb h item s else s

/-- `changed` on an item: the handler runs once for each connection. -/
def onChanged (h : Heap) (item : ItemRef) (s : SwItemStream) : SwItemStream :=
  (s.changedHandlers.filter (· = item)).foldl (fun s item => itemChangedCb h item s) s

/-- The stream's part in an item event: `h` is the heap before it. -/
def onItemEvent (h : Heap) (e : ItemEvent) (s : SwItemStream) : SwItemStream :=
  let s := if e.notifiesReady h then s.onNotifyReady (e.heap h) e.ref else s
  if e.emitsChanged then s.onChanged (e.heap h) e.ref else s

/-! ## The view of a stream -/

/-- A view without current items that announces what the stream announces. -/
def asView (s : SwItemStream) : SwItemView :=
  { SwItemView.init with
    pendingItemsSet := s.pendingItemsSet
    pendingTimeoutId := s.pendingTimeoutId
    refreshTimeoutId := s.refreshTimeoutId
    changedItems := s.changedItems
    readyHandlers := s.readyHandlers
    changedHandlers := s.changedHandlers
    emitted := s.emitted }

theorem asView_addItems (h : Heap) (items : List ItemRef) (s : SwItemStream) :
    (s.addItems h items).asView = s.asView.addItems h items := by
  have hfold : ∀ (s : SwItemStream) (ptrArray : List ItemStruct),
      items.foldl (SwItemView.addItem h) (s.asView, ptrArray) =
        ((items.foldl (addItemsStep h) (s, ptrArray)).1.asView,
          (items.foldl (addItemsStep h) (s, ptrArray)).2) := by
    induction items with
    | nil => intro s ptrArray; rfl
    | cons item items ih =>
      intro s ptrArray
      rw [List.foldl_cons, List.foldl_cons, SwItemView.addItem, addItemsStep]
      split_ifs
      · exact ih (s.setupChangedHandler item) _
      · exact ih (setupChangedHandler item { s.setupReadyHandler item with
          pendingItemsSet := s.pendingItemsSet.add item }) _
  have hrun := hfold s []
  unfold addItems SwItemView.addItems
  dsimp only
  rw [hrun]
  rfl

/-- Adding one item is adding a list of one item. -/
theorem addItem_eq (h : Heap) (item : ItemRef) (s : SwItemStream) :
    s.addItem h item = s.addItems h [item] := by
  unfold addItem addItems
  rw [List.foldl_cons, List.foldl_nil, addItemsStep]
  split_ifs <;> rfl

theorem asView_handleReadyPendingCb (h : Heap) (order : KeyOrder ItemRef) (s : SwItemStream) :
    (s.handleReadyPendingCb h order).asView = s.asView.handleReadyPendingCb h order := by
  have hadd := asView_addItems h
    ((SwSet.asList order s.pendingItemsSet).foldl (takeReady h) ([], s.pendingItemsSet)).1
    { s with pendingItemsSet :=
      ((SwSet.asList order s.pendingItemsSet).foldl (takeReady h) ([], s.pendingItemsSet)).2 }
  exact congrArg (fun v : SwItemView => { v with pendingTimeoutId := false }) hadd

theorem asView_itemReadyNotifyCb (h : Heap) (item : ItemRef) (s : SwItemStream) :
    (s.itemReadyNotifyCb h item).asView = s.asView.itemReadyNotifyCb h item := by
  unfold itemReadyNotifyCb SwItemView.itemReadyNotifyCb
  by_cases hready : h.ready item = true
  · rw [if_pos hready, if_pos hready]
    cases hp : s.pendingTimeoutId <;> simp [asView, hp]
  · rw [if_neg hready, if_neg hready]

theorem asView_onNotifyReady (h : Heap) (item : ItemRef) (s : SwItemStream) :
    (s.onNotifyReady h item).asView = s.asView.onNotifyReady h item := by
  unfold onNotifyReady SwItemView.onNotifyReady
  by_cases hin : item ∈ s.readyHandlers
  · rw [if_pos hin, if_pos (show item ∈ s.asView.readyHandlers from hin)]
    exact asView_itemReadyNotifyCb h item s
  · rw [if_neg hin, if_neg (show item ∉ s.asView.readyHandlers from hin)]

theorem asView_itemChangedCb (h : Heap) (item : ItemRef) (s : SwItemStream) :
    (s.itemChangedCb h item).asView = s.asView.itemChangedCb h item := by
  unfold itemChangedCb SwItemView.itemChangedCb
  by_cases hready : h.ready item = true
  · by_cases hin : item ∈ s.changedItems <;> cases hr : s.refreshTimeoutId <;>
      simp [asView, hready, hin, hr]
  · simp [hready]

theorem asView_onChanged (h : Heap) (item : ItemRef) (s : SwItemStream) :
    (s.onChanged h item).asView = s.asView.onChanged h item := by
  have hfold : ∀ (handlers : List ItemRef) (s : SwItemStream),
      (handlers.foldl (fun s item => itemChangedCb h item s) s).asView =
        handlers.foldl (fun v item => SwItemView.itemChangedCb h item v) s.asView := by
    intro handlers
    induction handlers with
    | nil => intro s; rfl
    | cons o handlers ih =>
      intro s
      rw [List.foldl_cons, List.foldl_cons, ih, asView_itemChangedCb]
  exact hfold _ s

theorem asView_onItemEvent (h : Heap) (e : ItemEvent) (s : SwItemStream) :
    (s.onItemEvent h e).asView = s.asView.onItemEvent h e := by
  dsimp only [onItemEvent, SwItemView.onItemEvent]
  split_ifs
  · rw [asView_onChanged, asView_onNotifyReady]
  · rw [asView_onChanged]
  · rw [asView_onNotifyReady]
  · rfl

/-! ## The equations of the view -/

theorem asView_injective {s t : SwItemStream} (h : s.asView = t.asView) : s = t := by
  cases s
  cases t
  simpa [asView] using h

/-- `sw_item_stream_add_items` announces the ready items and waits for the others. -/
theorem addItems_eq (h : Heap) (items : List ItemRef) (s : SwItemStream) :
    s.addItems h items =
      { s with
        pendingItemsSet := s.pendingItemsSet.addAll (items.filter fun o => !h.ready o)
        readyHandlers := (items.filter fun o => !h.ready o).reverse ++ s.readyHandlers
        changedHandlers := items.reverse ++ s.changedHandlers
        emitted := s.emitted ++ [.itemsAdded ((items.filter h.ready).map h.toValueArray)] } :=
  asView_injective ((asView_addItems h items s).trans (SwItemView.addItems_eq h items s.asView))

/-- `_handle_ready_pending_cb` announces the pending items that are ready and keeps the others. -/
theorem handleReadyPendingCb_eq (h : Heap) (order : KeyOrder ItemRef) (s : SwItemStream) :
    s.handleReadyPendingCb h order =
      { s with
        pendingItemsSet :=
          s.pendingItemsSet.removeAll (SwItemView.flushed h order s.asView).reverse
        pendingTimeoutId := false
        changedHandlers := (SwItemView.flushed h order s.asView).reverse ++ s.changedHandlers
        emitted := s.emitted ++
          [.itemsAdded ((SwItemView.flushed h order s.asView).map h.toValueArray)] } :=
  asView_injective ((asView_handleReadyPendingCb h order s).trans
    (SwItemView.handleReadyPendingCb_eq h order s.asView))

end SwItemStream

end LibSocialWeb
