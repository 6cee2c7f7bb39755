import LibSocialWeb.Client.ItemView
import LibSocialWeb.ItemView.System
import LibSocialWeb.Lib.Tables

/-!
# The data the client shows

The client shows the data of each item, as of the last signal that carried it. `shown v u` is the
struct the client has for `u` when everything the view `v` emitted has arrived.

**Main result.** `shown_step`: every event acts on what is shown for each id by `Event.onShown`.
Additions and flushes send the object of the id if it is ready, removals withdraw it, and changes
take effect only where something is shown.
-/

namespace LibSocialWeb

/-! ## The client's table after a signal -/

namespace SwClientItemView

/-- The last struct of a message that is about `u`. -/
def lastOf (items : List ItemStruct) (u : String) : Option ItemStruct :=
  KeySet.findKey ItemStruct.uuid items.reverse u

theorem lastOf_cons (varray : ItemStruct) (items : List ItemStruct) (u : String) :
    lastOf (varray :: items) u =
      (lastOf items u).or (if varray.uuid = u then some varray else none) := by
  rw [lastOf, List.reverse_cons, KeySet.findKey, List.find?_append]
  by_cases hu : varray.uuid = u <;> simp [lastOf, KeySet.findKey, hu]

theorem lookup_proxyItemsAddedCb (items : List ItemStruct) (c : SwClientItemView) (u : String) :
    (c.proxyItemsAddedCb items).uuidToItems.lookup u =
      (lastOf items u).or (c.uuidToItems.lookup u) := by
  induction items generalizing c with
  | nil => rfl
  | cons varray items ih =>
    show (proxyItemsAddedCb items ⟨c.uuidToItems.insert varray.uuid varray⟩).uuidToItems.lookup u =
      _
    rw [ih, lastOf_cons, Option.or_assoc]
    by_cases hu : varray.uuid = u
    · subst hu; simp
    · rw [AList.lookup_insert_ne (Ne.symm hu), if_neg hu, Option.none_or]

theorem lookup_proxyItemsChangedCb (items : List ItemStruct) (c : SwClientItemView) (u : String) :
    (c.proxyItemsChangedCb items).uuidToItems.lookup u =
      (c.uuidToItems.lookup u).map fun old => (lastOf items u).getD old := by
  induction items generalizing c with
  | nil => simp [proxyItemsChangedCb, lastOf]
  | cons varray items ih =>
    simp only [proxyItemsChangedCb, List.foldl_cons] at ih ⊢
    rw [ih, lastOf_cons]
    cases hl : c.uuidToItems.lookup varray.uuid with
    | none =>
      by_cases hu : varray.uuid = u
      · subst hu; simp [hl]
      · simp [hu]
    | some old =>
      rw [Tables.lookup_replace]
      by_cases hu : varray.uuid = u
      · subst hu
        cases lastOf items varray.uuid <;> simp [hl]
      · simp [hu, Ne.symm hu]

theorem lookup_proxyItemsRemovedCb (items : List (String × String)) (c : SwClientItemView)
    (u : String) :
    (c.proxyItemsRemovedCb items).uuidToItems.lookup u =
      if u ∈ items.map Prod.snd then none else c.uuidToItems.lookup u := by
  induction items generalizing c with
  | nil => simp [proxyItemsRemovedCb]
  | cons varray items ih =>
    have hone : (c.proxyItemsRemovedCb [varray]).uuidToItems.lookup u =
        if u = varray.2 then none else c.uuidToItems.lookup u := by
      simp only [proxyItemsRemovedCb, List.foldl_cons, List.foldl_nil]
      cases hl : c.uuidToItems.lookup varray.2 <;> split_ifs with hu
      · rw [hu, hl]
      · rfl
      · rw [hu, AList.lookup_erase]
      · rw [AList.lookup_erase_ne hu]
    show (proxyItemsRemovedCb items (c.proxyItemsRemovedCb [varray])).uuidToItems.lookup u = _
    rw [ih, hone]
    have hcons : u ∈ (varray :: items).map Prod.snd ↔
        u = varray.2 ∨ u ∈ items.map Prod.snd := List.mem_cons
    by_cases hu : u = varray.2 <;> by_cases hm : u ∈ items.map Prod.snd
    · rw [if_pos hm, if_pos (hcons.2 (Or.inl hu))]
    · rw [if_neg hm, if_pos hu, if_pos (hcons.2 (Or.inl hu))]
    · rw [if_pos hm, if_pos (hcons.2 (Or.inr hm))]
    · rw [if_neg hm, if_neg hu, if_neg fun hin => (hcons.1 hin).elim hu hm]

end SwClientItemView

/-! ## What is shown for one id -/

/-- The struct of an object, if it is ready. -/
def Heap.packed (h : Heap) (o : Option ItemRef) : Option ItemStruct :=
  (o.filter h.ready).map h.toValueArray

@[simp] theorem Heap.packed_none (h : Heap) : h.packed none = none := rfl

theorem Heap.packed_some (h : Heap) (o : ItemRef) :
    h.packed (some o) = if h.ready o then some (h.toValueArray o) else none := by
  by_cases ho : h.ready o = true <;> simp [packed, Option.filter, ho]

/-- A message made from objects: the last object of the id that is ready is packed. -/
theorem lastOf_packed (h : Heap) (items : List ItemRef) (u : String) :
    SwClientItemView.lastOf ((items.filter h.ready).map h.toValueArray) u =
      (KeySet.findKey ItemRef.uid (items.filter h.ready).reverse u).map h.toValueArray := by
  rw [SwClientItemView.lastOf, ← List.map_reverse, KeySet.findKey, List.find?_map]
  rfl

/-- With one object for each id, it does not matter which is last. -/
theorem lastOf_packed_nodup (h : Heap) {items : List ItemRef}
    (hitems : (items.map ItemRef.uid).Nodup) (u : String) :
    SwClientItemView.lastOf ((items.filter h.ready).map h.toValueArray) u =
      h.packed (KeySet.findKey ItemRef.uid items u) := by
  have hnodup : ((items.filter h.ready).map ItemRef.uid).Nodup :=
    hitems.sublist (List.filter_sublist.map ItemRef.uid)
  have hrev : (((items.filter h.ready).reverse).map ItemRef.uid).Nodup :=
    (((List.reverse_perm _).map ItemRef.uid).nodup_iff).2 hnodup
  rw [lastOf_packed, KeySet.findKey_perm (List.reverse_perm _) hrev,
    KeySet.findKey_filter hitems]
  rfl

namespace SwItemView

/-- What the client has for `u` when everything emitted has arrived. -/
def shown (v : SwItemView) (u : String) : Option ItemStruct :=
  (SwClientItemView.init.deliverAll v.emitted).uuidToItems.lookup u

theorem shown_isSome {v : SwItemView} {u : String} :
    (v.shown u).isSome = true ↔ v.announced u = true := by
  rw [shown, AList.lookup_isSome, SwClientItemView.mem_deliverAll]
  rfl

theorem shown_congr {v w : SwItemView} (he : w.emitted = v.emitted) (u : String) :
    w.shown u = v.shown u := by
  rw [shown, shown, he]

section Emitted

variable {v w : SwItemView} {signal : Signal}

theorem deliverAll_emitted (he : w.emitted = v.emitted ++ [signal]) :
    SwClientItemView.init.deliverAll w.emitted =
      (SwClientItemView.init.deliverAll v.emitted).deliver signal := by
  rw [he]
  simp [SwClientItemView.deliverAll]

theorem shown_added {items : List ItemStruct}
    (he : w.emitted = v.emitted ++ [.itemsAdded items]) (u : String) :
    w.shown u = (SwClientItemView.lastOf items u).or (v.shown u) := by
  rw [shown, deliverAll_emitted he]
  exact SwClientItemView.lookup_proxyItemsAddedCb items _ u

theorem shown_changed {items : List ItemStruct}
    (he : w.emitted = v.emitted ++ [.itemsChanged items]) (u : String) :
    w.shown u = (v.shown u).map fun old => (SwClientItemView.lastOf items u).getD old := by
  rw [shown, deliverAll_emitted he]
  exact SwClientItemView.lookup_proxyItemsChangedCb items _ u

theorem shown_removed {items : List (String × String)}
    (he : w.emitted = v.emitted ++ [.itemsRemoved items]) (u : String) :
    w.shown u = if u ∈ items.map Prod.snd then none else v.shown u := by
  rw [shown, deliverAll_emitted he]
  exact SwClientItemView.lookup_proxyItemsRemovedCb items _ u

end Emitted

/-! ### Each operation, at one id -/

section Operations

variable (h : Heap) (order : KeyOrder ItemRef) (v : SwItemView) (u : String)

theorem shown_addItems {items : List ItemRef} (hitems : (items.map ItemRef.uid).Nodup) :
    (addItems h items v).shown u =
      (h.packed (KeySet.findKey ItemRef.uid items u)).or (v.shown u) := by
  rw [shown_added (by rw [addItems_eq]), lastOf_packed_nodup h hitems]

/-- `ItemsChanged` is not emitted when it would be empty, which changes nothing. -/
theorem shown_updateItems (items : List ItemRef) :
    (updateItems h items v).shown u = (v.shown u).map fun old =>
      ((KeySet.findKey ItemRef.uid (items.filter h.ready).reverse u).map h.toValueArray).getD
        old := by
  dsimp only [updateItems]
  split_ifs with hlen
  · rw [shown_changed rfl, lastOf_packed]
  · have hnil : items.filter h.ready = [] := by simpa using hlen
    simp [hnil]

theorem shown_addFromSet {κ : Type} {key : ItemRef → κ} {set : SwSet key}
    (hset : (set.members.map ItemRef.uid).Nodup) :
    (addFromSet h order set v).shown u =
      (h.packed (KeySet.findKey ItemRef.uid set.members u)).or (v.shown u) := by
  rw [addFromSet_eq, shown_addItems h _ u (SwSet.nodup_asList order hset),
    SwSet.findKey_asList order hset]
  rfl

theorem shown_removeFromSet {κ : Type} {key : ItemRef → κ} {set : SwSet key} :
    (removeFromSet h order set v).shown u =
      if ∃ o ∈ set, o.uid = u then none else v.shown u := by
  have hnamed : u ∈ ((SwSet.asList order set).map fun item =>
      ((h.item item).service.name, item.uid)).map Prod.snd ↔ ∃ o ∈ set, o.uid = u := by
    simp
  rw [shown_removed (w := removeFromSet h order set v) (v := v) rfl]
  simp only [hnamed]

theorem shown_removeByUid (uid : String) {v : SwItemView} (hv : v.Indexed) :
    (removeByUid h uid v).shown u =
      if u = uid ∧ (v.slot u).current.isSome then none else v.shown u := by
  unfold removeByUid
  rw [hv uid]
  cases hf : v.currentItemsSet.find uid with
  | none =>
    rw [if_neg]
    intro hand
    rcases hand with ⟨rfl, hs⟩
    simp [slot, hf] at hs
  | some item =>
    obtain ⟨-, rfl⟩ := KeySet.find_some hf
    show shown (v.removeItem h item) u = _
    rw [shown_removed (w := v.removeItem h item) (v := v) rfl]
    by_cases hu : u = item.uid
    · subst hu
      have hs : (v.slot item.uid).current.isSome := by simp [slot, hf]
      rw [if_pos (by simp), if_pos ⟨rfl, hs⟩]
    · rw [if_neg (by simpa using hu), if_neg fun hc => hu hc.1]

/-- The replacement of a current object is sent if it is ready and not equal to the old one. -/
theorem shown_updateExisting (set : ItemSet) {v : SwItemView} (hv : v.Indexed) :
    (updateExisting h order set v).shown u =
      match (v.slot u).current, set.find u with
      | some old, some o =>
        if h.equal o old then v.shown u else (v.shown u).map fun s => (h.packed (some o)).getD s
      | _, _ => v.shown u := by
  have hnodup : (((replacements h order set v).filter h.ready).reverse.map ItemRef.uid).Nodup := by
    rw [List.map_reverse, List.nodup_reverse]
    exact (nodup_replacements h order set v).sublist (List.filter_sublist.map ItemRef.uid)
  have hlast : KeySet.findKey ItemRef.uid ((replacements h order set v).filter h.ready).reverse u =
      ((set.find u).filter (replaces h v)).filter h.ready := by
    rw [KeySet.findKey_perm (List.reverse_perm _) hnodup,
      KeySet.findKey_filter (nodup_replacements h order set v), findKey_replacements]
  rw [updateExisting_eq, shown_updateItems, hlast]
  show (v.shown u).map _ = _
  cases hs : set.find u with
  | none => cases (v.slot u).current <;> simp
  | some o =>
    have hlookup : v.uidToItems.lookup o.uid = (v.slot u).current := by
      rw [(KeySet.find_some hs).2, hv u]
      rfl
    cases hc : (v.slot u).current with
    | none =>
      have hrep : replaces h v o = false := by simp [replaces, hlookup, hc]
      simp [Option.filter, hrep]
    | some old =>
      have hrep : replaces h v o = !h.equal o old := by simp [replaces, hlookup, hc]
      by_cases he : h.equal o old = true <;> simp [Option.filter, hrep, he, Heap.packed]

theorem shown_setRemoved (set : ItemSet) :
    (setRemoved h order set v).shown u =
      if (v.slot u).current.isSome ∧ set.find u = none then none else v.shown u := by
  have hmem : (∃ o ∈ SwSet.difference v.currentItemsSet set, o.uid = u) ↔
      (v.slot u).current.isSome ∧ set.find u = none := by
    show (∃ o ∈ (SwSet.difference v.currentItemsSet set).members, o.uid = u) ↔ _
    rw [← KeySet.findKey_isSome, SwSet.findKey_difference]
    show _ ↔ (v.currentItemsSet.find u).isSome ∧ _
    cases set.find u <;> simp
  unfold setRemoved
  simp only [← hmem]
  split_ifs with hne hex hex
  · rw [shown_removeFromSet, if_pos hex]
  · rw [shown_removeFromSet, if_neg hex]
  · obtain ⟨o, ho, -⟩ := hex
    simp only [Bool.not_eq_true', Bool.not_eq_false] at hne
    rw [KeySet.mem_def, List.isEmpty_iff.1 hne] at ho
    cases ho
  · rfl

theorem shown_setAdded (set before : ItemSet) :
    (setAdded h order set before v).shown u =
      if (before.find u).isSome then v.shown u
      else (h.packed (set.find u)).or (v.shown u) := by
  have hfind := SwSet.findKey_difference set before u
  unfold setAdded
  split_ifs with hne hb hb
  · rw [shown_addFromSet h order v u (SwSet.nodup_difference set before), hfind, if_pos hb]
    rfl
  · rw [shown_addFromSet h order v u (SwSet.nodup_difference set before), hfind, if_neg hb]
  · rfl
  · -- Nothing is new, so nothing is sent for this id.
    simp only [Bool.not_eq_true', Bool.not_eq_false] at hne
    rw [if_neg hb, List.isEmpty_iff.1 hne] at hfind
    rw [← hfind]
    rfl

/-- **`sw_item_view_set_from_set`**, as far as the client sees it. -/
theorem shown_setFromSet (set : ItemSet) {v : SwItemView} (hv : v.Indexed) :
    (setFromSet h order set v).shown u =
      match (v.slot u).current, set.find u with
      | none, new => (h.packed new).or (v.shown u)
      | some _, none => none
      | some old, some o =>
        if h.equal o old then v.shown u
        else (v.shown u).map fun s => (h.packed (some o)).getD s := by
  have hc : (v.slot u).current = v.currentItemsSet.find u := rfl
  rw [setFromSet_eq]
  split_ifs with hempty
  · have hnone : (v.slot u).current = none := KeySet.isEmpty_iff.1 hempty u
    rw [shown_addFromSet h order v u set.nodup, hnone]
    rfl
  · rw [shown_setAdded, shown_updateExisting h order u set (indexed_setRemoved h order set hv),
      slot_setRemoved, shown_setRemoved]
    cases hcur : v.currentItemsSet.find u with
    | none => cases set.find u <;> simp [hc, hcur]
    | some old => cases set.find u <;> simp [hc, hcur, Slot.drop]

theorem shown_handleReadyPendingCb :
    (handleReadyPendingCb h order v).shown u =
      (h.packed (v.slot u).waiting).or (v.shown u) := by
  have hnodup : ((flushed h order v).map ItemRef.uid).Nodup := by
    rw [flushed, List.map_reverse, List.nodup_reverse]
    exact (SwSet.nodup_asList order v.pendingItemsSet.nodup).sublist
      (List.filter_sublist.map ItemRef.uid)
  have hall : (flushed h order v).filter h.ready = flushed h order v := by
    rw [List.filter_eq_self]
    intro o ho
    exact (mem_flushed.1 ho).2
  have hfind : KeySet.findKey ItemRef.uid (flushed h order v) u =
      (v.pendingItemsSet.find u).filter h.ready := by
    rw [flushed, KeySet.findKey_perm (List.reverse_perm _) (by rwa [← flushed]),
      KeySet.findKey_filter (SwSet.nodup_asList order v.pendingItemsSet.nodup),
      SwSet.findKey_asList order v.pendingItemsSet.nodup]
    rfl
  have hlast := lastOf_packed_nodup h hnodup u
  rw [hall, hfind] at hlast
  rw [shown_added (by rw [handleReadyPendingCb_eq]), hlast]
  cases hw : v.pendingItemsSet.find u with
  | none => simp [slot, hw]
  | some p => by_cases hp : h.ready p = true <;> simp [slot, hw, Heap.packed, Option.filter, hp]

end Operations

/-- The refresh timer is armed by an item event that queues its item. -/
theorem refreshTimeoutId_onItemEvent (h : Heap) (e : ItemEvent) (v : SwItemView) :
    (onItemEvent h e v).refreshTimeoutId = (v.refreshTimeoutId ||
      (e.emitsChanged && decide (e.ref ∈ v.changedHandlers) && (e.heap h).ready e.ref)) := by
  dsimp only [onItemEvent]
  simp only [onNotifyReady_eq, onChanged_eq, itemChangedCb_eq]
  split_ifs <;> simp_all

end SwItemView

/-! ## The refinement -/

/-- What an event does to what the client shows for `u`. -/
def Event.onShown (s : Sys) (u : String) : Event → Option ItemStruct → Option ItemStruct
  | .addFromSet _ set, t => (s.heap.packed (set.find u)).or t
  | .removeFromSet _ set, t => if (set.find u).isSome then none else t
  | .setFromSet _ set, t =>
    match (s.view.slot u).current, set.find u with
    | none, new => (s.heap.packed new).or t
    | some _, none => none
    | some old, some o =>
      if s.heap.equal o old then t else t.map fun d => (s.heap.packed (some o)).getD d
  | .removeByUid uid, t => if u = uid ∧ (s.view.slot u).current.isSome then none else t
  | .pendingTimeout _, t =>
    if s.view.pendingTimeoutId then (s.heap.packed (s.view.slot u).waiting).or t else t
  | .refreshTimeout, t =>
    if s.view.refreshTimeoutId then t.map fun d =>
      ((KeySet.findKey ItemRef.uid (s.view.changedItems.filter s.heap.ready).reverse u).map
        s.heap.toValueArray).getD d
    else t
  | .item _, t => t

namespace Sys

/-- **Refinement.** Every event acts on what is shown for each id on its own. -/
theorem shown_step {s : Sys} (hs : s.view.Indexed) (e : Event) (u : String) :
    (s.step e).view.shown u = e.onShown s u (s.view.shown u) := by
  cases e with
  | addFromSet order set =>
    exact SwItemView.shown_addFromSet s.heap order s.view u set.nodup
  | removeFromSet order set =>
    show (SwItemView.removeFromSet s.heap order set s.view).shown u = _
    rw [SwItemView.shown_removeFromSet]
    simp only [← KeySet.find_isSome]
    rfl
  | setFromSet order set => exact SwItemView.shown_setFromSet s.heap order u set hs
  | removeByUid uid => exact SwItemView.shown_removeByUid s.heap u uid hs
  | item e =>
    obtain ⟨-, -, -, -, he⟩ := SwItemView.onItemEvent_frame s.heap e s.view
    exact SwItemView.shown_congr he u
  | pendingTimeout order =>
    dsimp only [step, Event.onShown]
    split_ifs
    · exact SwItemView.shown_handleReadyPendingCb s.heap order s.view u
    · rfl
  | refreshTimeout =>
    dsimp only [step, Event.onShown]
    split_ifs
    · have hsame : (s.view.itemChangedTimeoutCb s.heap).emitted =
          (SwItemView.updateItems s.heap s.view.changedItems s.view).emitted := rfl
      show (s.view.itemChangedTimeoutCb s.heap).shown u = _
      rw [SwItemView.shown_congr hsame, SwItemView.shown_updateItems]
    · rfl

end Sys

end LibSocialWeb
