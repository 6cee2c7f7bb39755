import LibSocialWeb.Core.SwItem
import LibSocialWeb.Lib.Presence

/-!
# `SwItemView` (`libsocialweb/sw-item-view.c`)

A view keeps the set of current items, the set of items that wait to become ready, the list of
items that changed, and an index of the current items by id. It tells its client about them by
the `ItemsAdded`, `ItemsChanged` and `ItemsRemoved` signals; `emitted` is the list of all signals
so far.

**Handlers.** `readyHandlers` and `changedHandlers` list the connections of this view's
`_item_ready_notify_cb` and `_item_changed_cb`, one entry for each `g_signal_connect`.

**Timers.** A timeout id is nonzero while the timer is armed; only that is kept. The pending
timer runs for 1 s, the refresh timer for 10 s; when an armed timer fires is up to the run.

Each function takes the heap, reads the items in it and returns the new view.
-/

namespace LibSocialWeb

/-- What `_sw_item_to_value_array` packs for the bus. The third element of the struct is the
time that libsoup reads from `date`. -/
structure ItemStruct where
  service : String
  uuid : String
  date : Option String
  props : List (String × String)
  deriving DecidableEq

/-- `_sw_item_to_value_array` -/
def Heap.toValueArray (h : Heap) (o : ItemRef) : ItemStruct where
  service := (h.item o).service.name
  uuid := o.uid
  date := (h.item o).get "date"
  props := (h.item o).hash.entries.map fun e => (e.1.str, e.2)

/-- The signals of the item view interface. `ItemsRemoved` carries service name and id. -/
inductive Signal where
  | itemsAdded (items : List ItemStruct)
  | itemsChanged (items : List ItemStruct)
  | itemsRemoved (items : List (String × String))
  deriving DecidableEq

/-- The ids a signal names. -/
@[simp] def Signal.notice : Signal → Notice String
  | itemsAdded items => .added (items.map ItemStruct.uuid)
  | itemsChanged items => .changed (items.map ItemStruct.uuid)
  | itemsRemoved items => .removed (items.map Prod.snd)

structure SwItemView where
  currentItemsSet : ItemSet
  pendingItemsSet : ItemSet
  pendingTimeoutId : Bool
  refreshTimeoutId : Bool
  uidToItems : AList fun _ : String => ItemRef
  changedItems : List ItemRef
  readyHandlers : List ItemRef
  changedHandlers : List ItemRef
  emitted : List Signal

namespace SwItemView

/-- `sw_item_view_init` -/
def init : SwItemView where
  currentItemsSet := KeySet.empty
  pendingItemsSet := KeySet.empty
  pendingTimeoutId := false
  refreshTimeoutId := false
  uidToItems := ∅
  changedItems := []
  readyHandlers := []
  changedHandlers := []
  emitted := []

def emit (signal : Signal) (v : SwItemView) : SwItemView :=
  { v with emitted := v.emitted ++ [signal] }

/-! ## Handlers and signals -/

def setupReadyHandler (item : ItemRef) (v : SwItemView) : SwItemView :=
  { v with readyHandlers := item :: v.readyHandlers }

def setupChangedHandler (item : ItemRef) (v : SwItemView) : SwItemView :=
  { v with changedHandlers := item :: v.changedHandlers }

/-- The loop body of `sw_item_view_add_items`. -/
def addItem (h : Heap) : SwItemView × List ItemStruct → ItemRef → SwItemView × List ItemStruct
  | (v, ptrArray), item =>
    if h.ready item then (v.setupChangedHandler item, ptrArray ++ [h.toValueArray item])
    else
      let v := v.setupReadyHandler item
      let v := { v with pendingItemsSet := v.pendingItemsSet.add item }
      (v.setupChangedHandler item, ptrArray)

/-- `sw_item_view_add_items`: announce the ready items and wait for the others. -/
def addItems (h : Heap) (items : List ItemRef) (v : SwItemView) : SwItemView :=
  let (v, ptrArray) := items.foldl (addItem h) (v, [])
  v.emit (.itemsAdded ptrArray)

/-- `sw_item_view_update_items` -/
def updateItems (h : Heap) (items : List ItemRef) (v : SwItemView) : SwItemView :=
  let ptrArray := (items.filter h.ready).map h.toValueArray
  if 0 < ptrArray.length then v.emit (.itemsChanged ptrArray) else v

/-- `sw_item_view_remove_items` -/
def removeItems (h : Heap) (items : List ItemRef) (v : SwItemView) : SwItemView :=
  v.emit (.itemsRemoved (items.map fun item => ((h.item item).service.name, item.uid)))

/-- The loop body of `_handle_ready_pending_cb`. -/
def takeReady (h : Heap) : List ItemRef × ItemSet → ItemRef → List ItemRef × ItemSet
  | (itemsToSend, pending), item =>
    if h.ready item then (item :: itemsToSend, pending.remove item) else (itemsToSend, pending)

/-- `_handle_ready_pending_cb`: the pending timer fires. -/
def handleReadyPendingCb (h : Heap) (order : KeyOrder ItemRef) (v : SwItemView) : SwItemView :=
  let pendingItems := SwSet.asList order v.pendingItemsSet
  let (itemsToSend, pending) := pendingItems.foldl (takeReady h) ([], v.pendingItemsSet)
  let v := addItems h itemsToSend { v with pendingItemsSet := pending }
  { v with pendingTimeoutId := false }

/-- `_item_ready_notify_cb`: `g_signal_handlers_disconnect_by_func` drops every connection of the
handler to the item. -/
def itemReadyNotifyCb (h : Heap) (item : ItemRef) (v : SwItemView) : SwItemView :=
  if h.ready item then
    let v := { v with readyHandlers := v.readyHandlers.filter (· ≠ item) }
    if !v.pendingTimeoutId then { v with pendingTimeoutId := true } else v
  else v

/-- `_item_changed_cb` -/
def itemChangedCb (h : Heap) (item : ItemRef) (v : SwItemView) : SwItemView :=
  if !h.ready item then v
  else
    let v := if item ∈ v.changedItems then v
      else { v with changedItems := v.changedItems ++ [item] }
    if !v.refreshTimeoutId then { v with refreshTimeoutId := true } else v

/-- `_item_changed_timeout_cb`: the refresh timer fires. -/
def itemChangedTimeoutCb (h : Heap) (v : SwItemView) : SwItemView :=
  let v := updateItems h v.changedItems v
  { v with changedItems := [], refreshTimeoutId := false }

/-- `notify::ready` on an item: the first connected handler that finds the item ready drops the
other connections, so it runs at most once. -/
def onNotifyReady (h : Heap) (item : ItemRef) (v : SwItemView) : SwItemView :=
  if item ∈ v.readyHandlers then itemReadyNotifyCb h item v else v

/-- `changed` on an item: the handler runs once for each connection. -/
def onChanged (h : Heap) (item : ItemRef) (v : SwItemView) : SwItemView :=
  (v.changedHandlers.filter (· = item)).foldl (fun v item => itemChangedCb h item v) v

/-- The view's part in an item event: `h` is the heap before it. -/
def onItemEvent (h : Heap) (e : ItemEvent) (v : SwItemView) : SwItemView :=
  let v := if e.notifiesReady h then v.onNotifyReady (e.heap h) e.ref else v
  if e.emitsChanged then v.onChanged (e.heap h) e.ref else v

/-! ## Operations on sets -/

/-- `g_hash_table_replace` on the index for each item of a list. -/
def indexItems (items : List ItemRef) (v : SwItemView) : SwItemView :=
  { v with uidToItems := items.foldl (fun table item => table.insert item.uid item) v.uidToItems }

/-- `sw_item_view_add_from_set` -/
def addFromSet {κ : Type} {key : ItemRef → κ} (h : Heap) (order : KeyOrder ItemRef)
    (set : SwSet key) (v : SwItemView) : SwItemView :=
  let v := { v with currentItemsSet := SwSet.addFrom v.currentItemsSet set }
  let items := SwSet.asList order set
  addItems h items (v.indexItems items)

/-- `sw_item_view_remove_from_set` -/
def removeFromSet {κ : Type} {key : ItemRef → κ} (h : Heap) (order : KeyOrder ItemRef)
    (set : SwSet key) (v : SwItemView) : SwItemView :=
  let v := { v with currentItemsSet := SwSet.removeFrom v.currentItemsSet set }
  let items := SwSet.asList order set
  let v := { v with
    uidToItems := items.foldl (fun table item => table.erase item.uid) v.uidToItems }
  removeItems h items v

/-- The loop body of `sw_item_view_update_existing`. -/
def updateItem (h : Heap) : SwItemView × List ItemRef → ItemRef → SwItemView × List ItemRef
  | (v, itemsToSend), newItem =>
    match v.uidToItems.lookup newItem.uid with
    | none => (v, itemsToSend)
    | some oldItem =>
      if !h.equal newItem oldItem then
        ({ v with
            uidToItems := v.uidToItems.insert newItem.uid newItem
            currentItemsSet := v.currentItemsSet.add newItem },
          itemsToSend ++ [newItem])
      else (v, itemsToSend)

/-- `sw_item_view_update_existing`: replace the items that the set has an unequal version of. -/
def updateExisting (h : Heap) (order : KeyOrder ItemRef) (set : ItemSet) (v : SwItemView) :
    SwItemView :=
  let items := SwSet.asList order set
  let (v, itemsToSend) := items.foldl (updateItem h) (v, [])
  updateItems h itemsToSend v

/-- `sw_item_view_set_from_set` -/
def setFromSet (h : Heap) (order : KeyOrder ItemRef) (set : ItemSet) (v : SwItemView) :
    SwItemView :=
  if v.currentItemsSet.isEmpty then addFromSet h order set v
  else
    let removedItems := SwSet.difference v.currentItemsSet set
    let addedItems := SwSet.difference set v.currentItemsSet
    let v := if !removedItems.isEmpty then removeFromSet h order removedItems v else v
    let v := updateExisting h order set v
    if !addedItems.isEmpty then addFromSet h order addedItems v else v

/-- `sw_item_view_remove_item` -/
def removeItem (h : Heap) (item : ItemRef) (v : SwItemView) : SwItemView :=
  v.emit (.itemsRemoved [((h.item item).service.name, item.uid)])

/-- `sw_item_view_remove_by_uid`: an unknown id is only reported on the console. -/
def removeByUid (h : Heap) (uid : String) (v : SwItemView) : SwItemView :=
  match v.uidToItems.lookup uid with
  | some item =>
    let v := v.removeItem h item
    { v with
      currentItemsSet := v.currentItemsSet.remove item
      uidToItems := v.uidToItems.erase uid }
  | none => v

end SwItemView

end LibSocialWeb
