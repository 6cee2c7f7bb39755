import LibSocialWeb.ItemView.View

/-!
# `SwClientItemView` (`libsocialweb-client/sw-client-item-view.c`)

The client keeps a table of the items it was told of, by uuid. `_proxy_items_added_cb` inserts,
`_proxy_items_changed_cb` updates the items it knows and complains about the others,
`_proxy_items_removed_cb` drops the items it knows. A client item is a copy of the struct from
the bus.

**Delivery.** D-Bus delivers the signals of one sender in order, so the client's table is the
fold of the emitted signals. `mem_deliverAll`: its keys are the ids that the log of signals leaves
present.
-/

namespace LibSocialWeb

structure SwClientItemView where
  uuidToItems : AList fun _ : String => ItemStruct

namespace SwClientItemView

def init : SwClientItemView := ⟨∅⟩

/-- `_proxy_items_added_cb` -/
def proxyItemsAddedCb (items : List ItemStruct) (c : SwClientItemView) : SwClientItemView :=
  items.foldl (fun c varray => ⟨c.uuidToItems.insert varray.uuid varray⟩) c

/-- `_proxy_items_changed_cb`: an item that was not added before is left out. -/
def proxyItemsChangedCb (items : List ItemStruct) (c : SwClientItemView) : SwClientItemView :=
  items.foldl (fun c varray =>
    match c.uuidToItems.lookup varray.uuid with
    | some _ => ⟨c.uuidToItems.replace varray.uuid varray⟩
    | none => c) c

/-- `_proxy_items_removed_cb` -/
def proxyItemsRemovedCb (items : List (String × String)) (c : SwClientItemView) :
    SwClientItemView :=
  items.foldl (fun c varray =>
    match c.uuidToItems.lookup varray.2 with
    | some _ => ⟨c.uuidToItems.erase varray.2⟩
    | none => c) c

/-- The callback of a signal. -/
def deliver (c : SwClientItemView) : Signal → SwClientItemView
  | .itemsAdded items => c.proxyItemsAddedCb items
  | .itemsChanged items => c.proxyItemsChangedCb items
  | .itemsRemoved items => c.proxyItemsRemovedCb items

def deliverAll (c : SwClientItemView) (signals : List Signal) : SwClientItemView :=
  signals.foldl deliver c

/-! ## The keys of the table -/

theorem mem_proxyItemsAddedCb (items : List ItemStruct) (c : SwClientItemView) (u : String) :
    u ∈ (c.proxyItemsAddedCb items).uuidToItems ↔
      u ∈ items.map ItemStruct.uuid ∨ u ∈ c.uuidToItems := by
  induction items generalizing c with
  | nil => simp [proxyItemsAddedCb]
  | cons varray items ih =>
    show u ∈ (proxyItemsAddedCb items ⟨c.uuidToItems.insert varray.uuid varray⟩).uuidToItems ↔ _
    rw [ih, AList.mem_insert, List.map_cons, List.mem_cons]
    tauto

theorem mem_proxyItemsChangedCb (items : List ItemStruct) (c : SwClientItemView) (u : String) :
    u ∈ (c.proxyItemsChangedCb items).uuidToItems ↔ u ∈ c.uuidToItems := by
  induction items generalizing c with
  | nil => simp [proxyItemsChangedCb]
  | cons varray items ih =>
    simp only [proxyItemsChangedCb, List.foldl_cons] at ih ⊢
    rw [ih]
    cases c.uuidToItems.lookup varray.uuid with
    | none => rfl
    | some _ => exact AList.mem_replace

theorem mem_proxyItemsRemovedCb (items : List (String × String)) (c : SwClientItemView)
    (u : String) :
    u ∈ (c.proxyItemsRemovedCb items).uuidToItems ↔
      u ∉ items.map Prod.snd ∧ u ∈ c.uuidToItems := by
  induction items generalizing c with
  | nil => simp [proxyItemsRemovedCb]
  | cons varray items ih =>
    simp only [proxyItemsRemovedCb, List.foldl_cons] at ih ⊢
    rw [ih, List.map_cons, List.mem_cons, not_or]
    cases hl : c.uuidToItems.lookup varray.2 with
    | none =>
      have hne : u ∈ c.uuidToItems → u ≠ varray.2 := by
        intro hu heq
        subst heq
        exact AList.lookup_eq_none.1 hl hu
      tauto
    | some _ =>
      show _ ∧ u ∈ c.uuidToItems.erase varray.2 ↔ _
      rw [AList.mem_erase]
      tauto

/-- **The client's keys are the ids that the signals leave present.** -/
theorem mem_deliverAll (signals : List Signal) (u : String) :
    u ∈ (init.deliverAll signals).uuidToItems ↔
      Notice.present (signals.map Signal.notice) u = true := by
  induction signals using List.reverseRec with
  | nil => exact iff_of_false (AList.notMem_empty u) (by simp)
  | append_singleton signals signal ih =>
    have hlast : init.deliverAll (signals ++ [signal]) =
        (init.deliverAll signals).deliver signal := by
      simp [deliverAll]
    rw [hlast, List.map_append, List.map_singleton]
    cases signal with
    | itemsAdded items =>
      show u ∈ ((init.deliverAll signals).proxyItemsAddedCb items).uuidToItems ↔ _
      rw [mem_proxyItemsAddedCb, ih, Signal.notice, Notice.present_added]
      split_ifs with hu <;> simp [hu]
    | itemsChanged items =>
      show u ∈ ((init.deliverAll signals).proxyItemsChangedCb items).uuidToItems ↔ _
      rw [mem_proxyItemsChangedCb, ih, Signal.notice, Notice.present_changed]
    | itemsRemoved items =>
      show u ∈ ((init.deliverAll signals).proxyItemsRemovedCb items).uuidToItems ↔ _
      rw [mem_proxyItemsRemovedCb, ih, Signal.notice, Notice.present_removed]
      split_ifs with hu <;> simp [hu]

end SwClientItemView

end LibSocialWeb
