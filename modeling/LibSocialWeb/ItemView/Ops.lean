import LibSocialWeb.ItemView.View

/-!
# What each view function does

One equation for each function of `sw-item-view.c` that loops: the loop is replaced by what it
computes, so that later proofs never unfold a loop.
-/

namespace LibSocialWeb

/-! ## Tables filled and cleared in a loop -/

theorem lookup_foldl_insert {items : List ItemRef} (hitems : (items.map ItemRef.uid).Nodup)
    (table : AList fun _ : String => ItemRef) (u : String) :
    (items.foldl (fun t item => t.insert item.uid item) table).lookup u =
      (KeySet.findKey ItemRef.uid items u).or (table.lookup u) := by
  induction items generalizing table with
  | nil => rfl
  | cons o items ih =>
    rw [List.map_cons, List.nodup_cons] at hitems
    rw [List.foldl_cons, ih hitems.2, KeySet.findKey_cons]
    by_cases hu : o.uid = u
    · subst hu
      have hn : KeySet.findKey ItemRef.uid items o.uid = none :=
        KeySet.findKey_eq_none.2 fun b hb hbu => hitems.1 (List.mem_map.2 ⟨b, hb, hbu⟩)
      simp [hn]
    · rw [if_neg hu, AList.lookup_insert_ne (Ne.symm hu)]

theorem lookup_foldl_erase (items : List ItemRef) (table : AList fun _ : String => ItemRef)
    (u : String) :
    (items.foldl (fun t item => t.erase item.uid) table).lookup u =
      if (KeySet.findKey ItemRef.uid items u).isSome then none else table.lookup u := by
  induction items generalizing table with
  | nil => simp
  | cons o items ih =>
    rw [List.foldl_cons, ih, KeySet.findKey_cons]
    by_cases hu : o.uid = u
    · subst hu; simp
    · rw [if_neg hu, AList.lookup_erase_ne (Ne.symm hu)]

namespace SwItemView

/-! ## Announcing items -/

theorem foldl_addItem (h : Heap) (items : List ItemRef) (v : SwItemView)
    (ptrArray : List ItemStruct) :
    items.foldl (addItem h) (v, ptrArray) =
      ({ v with
          pendingItemsSet := v.pendingItemsSet.addAll (items.filter fun o => !h.ready o)
          readyHandlers := (items.filter fun o => !h.ready o).reverse ++ v.readyHandlers
          changedHandlers := items.reverse ++ v.changedHandlers },
        ptrArray ++ (items.filter h.ready).map h.toValueArray) := by
  induction items generalizing v ptrArray with
  | nil => simp [KeySet.addAll]
  | cons o items ih =>
    rw [List.foldl_cons, addItem]
    by_cases ho : h.ready o = true
    · rw [if_pos ho, ih]
      simp [ho, setupChangedHandler]
    · rw [if_neg ho, ih]
      simp [ho, setupChangedHandler, setupReadyHandler, KeySet.addAll]

/-- `sw_item_view_add_items` announces the ready items and waits for the others. -/
theorem addItems_eq (h : Heap) (items : List ItemRef) (v : SwItemView) :
    addItems h items v =
      { v with
        pendingItemsSet := v.pendingItemsSet.addAll (items.filter fun o => !h.ready o)
        readyHandlers := (items.filter fun o => !h.ready o).reverse ++ v.readyHandlers
        changedHandlers := items.reverse ++ v.changedHandlers
        emitted := v.emitted ++ [.itemsAdded ((items.filter h.ready).map h.toValueArray)] } := by
  simp [addItems, foldl_addItem, emit]

theorem foldl_takeReady (h : Heap) (items sent : List ItemRef) (pending : ItemSet) :
    items.foldl (takeReady h) (sent, pending) =
      ((items.filter h.ready).reverse ++ sent, pending.removeAll (items.filter h.ready)) := by
  induction items generalizing sent pending with
  | nil => simp [KeySet.removeAll]
  | cons o items ih =>
    rw [List.foldl_cons, takeReady]
    by_cases ho : h.ready o = true
    · rw [if_pos ho, ih]; simp [ho, KeySet.removeAll]
    · rw [if_neg ho, ih]; simp [ho]

/-- The pending items that the flush announces, in the order of the message. -/
def flushed (h : Heap) (order : KeyOrder ItemRef) (v : SwItemView) : List ItemRef :=
  ((SwSet.asList order v.pendingItemsSet).filter h.ready).reverse

theorem mem_flushed {h : Heap} {order : KeyOrder ItemRef} {v : SwItemView} {o : ItemRef} :
    o ∈ flushed h order v ↔ o ∈ v.pendingItemsSet ∧ h.ready o = true := by
  simp [flushed]

/-- `_handle_ready_pending_cb` announces the pending items that are ready and keeps the others. -/
theorem handleReadyPendingCb_eq (h : Heap) (order : KeyOrder ItemRef) (v : SwItemView) :
    handleReadyPendingCb h order v =
      { v with
        pendingItemsSet := v.pendingItemsSet.removeAll (flushed h order v).reverse
        pendingTimeoutId := false
        changedHandlers := (flushed h order v).reverse ++ v.changedHandlers
        emitted := v.emitted ++ [.itemsAdded ((flushed h order v).map h.toValueArray)] } := by
  have hnone : (flushed h order v).filter (fun o => !h.ready o) = [] := by
    rw [List.filter_eq_nil_iff]
    intro o ho
    simp [(mem_flushed.1 ho).2]
  have hall : (flushed h order v).filter h.ready = flushed h order v := by
    rw [List.filter_eq_self]
    intro o ho
    exact (mem_flushed.1 ho).2
  simp only [handleReadyPendingCb, foldl_takeReady, addItems_eq, List.append_nil]
  rw [← flushed, hnone, hall]
  simp [flushed, KeySet.addAll]

/-! ## Handlers -/

theorem itemChangedCb_eq (h : Heap) (o : ItemRef) (v : SwItemView) :
    itemChangedCb h o v =
      if h.ready o then
        { v with
          changedItems := if o ∈ v.changedItems then v.changedItems else v.changedItems ++ [o]
          refreshTimeoutId := true }
      else v := by
  unfold itemChangedCb
  by_cases ho : h.ready o = true
  · by_cases hm : o ∈ v.changedItems <;> cases ht : v.refreshTimeoutId <;> simp [ho, hm, ht]
    rw [← ht]
  · simp [ho]

/-- A second run of `_item_changed_cb` changes nothing. -/
theorem itemChangedCb_idem (h : Heap) (o : ItemRef) (v : SwItemView) :
    itemChangedCb h o (itemChangedCb h o v) = itemChangedCb h o v := by
  simp only [itemChangedCb_eq]
  by_cases ho : h.ready o = true
  · by_cases hm : o ∈ v.changedItems <;> simp [ho, hm]
  · simp [ho]

/-- However often the handler is connected, `changed` has the effect of one run of it. -/
theorem onChanged_eq (h : Heap) (o : ItemRef) (v : SwItemView) :
    onChanged h o v = if o ∈ v.changedHandlers then itemChangedCb h o v else v := by
  have hrun : ∀ (l : List ItemRef) (w : SwItemView), (∀ x ∈ l, x = o) → l ≠ [] →
      l.foldl (fun v item => itemChangedCb h item v) w = itemChangedCb h o w := by
    intro l
    induction l with
    | nil => intro w _ hne; exact absurd rfl hne
    | cons x l ih =>
      intro w hl _
      obtain rfl : x = o := hl x (by simp)
      rw [List.foldl_cons]
      by_cases hnil : l = []
      · rw [hnil]; rfl
      · rw [ih _ (fun y hy => hl y (by simp [hy])) hnil, itemChangedCb_idem]
  unfold onChanged
  by_cases ho : o ∈ v.changedHandlers
  · rw [if_pos ho]
    refine hrun _ v (fun x hx => by simpa using (List.mem_filter.1 hx).2) ?_
    exact List.ne_nil_of_mem (List.mem_filter.2 ⟨ho, by simp⟩)
  · have hnil : v.changedHandlers.filter (· = o) = [] := by
      rw [List.filter_eq_nil_iff]
      intro x hx
      simpa using fun hxo : x = o => ho (hxo ▸ hx)
    rw [if_neg ho, hnil]; rfl

theorem onNotifyReady_eq (h : Heap) (o : ItemRef) (v : SwItemView) :
    onNotifyReady h o v =
      if o ∈ v.readyHandlers ∧ h.ready o = true then
        { v with readyHandlers := v.readyHandlers.filter (· ≠ o), pendingTimeoutId := true }
      else v := by
  unfold onNotifyReady itemReadyNotifyCb
  by_cases hm : o ∈ v.readyHandlers <;> by_cases ho : h.ready o = true <;>
    cases v.pendingTimeoutId <;> simp [hm, ho]

/-! ## Operations on sets -/

theorem updateItems_eq (h : Heap) (items : List ItemRef) (v : SwItemView) :
    updateItems h items v = { v with emitted := (updateItems h items v).emitted } := by
  dsimp only [updateItems]
  split_ifs <;> rfl

theorem addFromSet_eq {κ : Type} {key : ItemRef → κ} (h : Heap) (order : KeyOrder ItemRef)
    (set : SwSet key) (v : SwItemView) :
    addFromSet h order set v = addItems h (SwSet.asList order set)
      { v with
        currentItemsSet := v.currentItemsSet.addAll set.members
        uidToItems := (SwSet.asList order set).foldl
          (fun table item => table.insert item.uid item) v.uidToItems } := rfl

/-- An item whose id is indexed and which is not equal to the indexed item. -/
def replaces (h : Heap) (v : SwItemView) (o : ItemRef) : Bool :=
  match v.uidToItems.lookup o.uid with
  | none => false
  | some oldItem => !h.equal o oldItem

theorem foldl_updateItem (h : Heap) {items : List ItemRef} (hitems : (items.map ItemRef.uid).Nodup)
    (v : SwItemView) (sent : List ItemRef) :
    items.foldl (updateItem h) (v, sent) =
      ({ v with
          uidToItems := (items.filter (replaces h v)).foldl
            (fun table item => table.insert item.uid item) v.uidToItems
          currentItemsSet := v.currentItemsSet.addAll (items.filter (replaces h v)) },
        sent ++ items.filter (replaces h v)) := by
  induction items generalizing v sent with
  | nil => simp [KeySet.addAll]
  | cons o items ih =>
    rw [List.map_cons, List.nodup_cons] at hitems
    rw [List.foldl_cons]
    by_cases ho : replaces h v o = true
    · -- The index changes at the id of `o` only, and no later item has that id.
      have hsame : ∀ w : SwItemView, w.uidToItems = v.uidToItems.insert o.uid o →
          items.filter (replaces h w) = items.filter (replaces h v) := by
        intro w hw
        apply List.filter_congr
        intro x hx
        have hne : x.uid ≠ o.uid := fun he => hitems.1 (List.mem_map.2 ⟨x, hx, he⟩)
        rw [replaces, replaces, hw, AList.lookup_insert_ne hne]
      have hstep : updateItem h (v, sent) o =
          ({ v with
              uidToItems := v.uidToItems.insert o.uid o
              currentItemsSet := v.currentItemsSet.add o }, sent ++ [o]) := by
        unfold replaces at ho
        cases hl : v.uidToItems.lookup o.uid with
        | none => simp [hl] at ho
        | some old => simp only [hl] at ho; simp [updateItem, hl, ho]
      rw [hstep, ih hitems.2, hsame _ rfl]
      simp [ho, KeySet.addAll]
    · have hstep : updateItem h (v, sent) o = (v, sent) := by
        unfold replaces at ho
        cases hl : v.uidToItems.lookup o.uid with
        | none => simp [updateItem, hl]
        | some old => simp only [hl] at ho; simp [updateItem, hl, ho]
      rw [hstep, ih hitems.2]
      simp [ho]

/-- The items of the set that `sw_item_view_update_existing` puts in place of current ones. -/
def replacements (h : Heap) (order : KeyOrder ItemRef) (set : ItemSet) (v : SwItemView) :
    List ItemRef :=
  (SwSet.asList order set).filter (replaces h v)

/-- `sw_item_view_update_existing` installs the replacements and reports the ready ones. -/
theorem updateExisting_eq (h : Heap) (order : KeyOrder ItemRef) (set : ItemSet) (v : SwItemView) :
    updateExisting h order set v = updateItems h (replacements h order set v)
      { v with
        uidToItems := (replacements h order set v).foldl
          (fun table item => table.insert item.uid item) v.uidToItems
        currentItemsSet := v.currentItemsSet.addAll (replacements h order set v) } := by
  simp only [updateExisting, foldl_updateItem h (SwSet.nodup_asList order set.nodup),
    List.nil_append]
  rfl

end SwItemView

end LibSocialWeb
