import LibSocialWeb.ItemView.System

/-!
# What a view announces

A signal announces an item when it reports it as added or changed. `Shows h v w Q` says that the
view `w` has emitted what `v` has and then signals that announce only items in `Q`, with the data
they have in `h`; `Emits v w Q` says as much about the ids. There is one lemma for each operation
of a view; the removals announce nothing.
-/

namespace LibSocialWeb

/-- The signal reports `u` as added or changed. -/
def Signal.Announces (u : String) : Signal → Prop
  | itemsAdded items => u ∈ items.map ItemStruct.uuid
  | itemsChanged items => u ∈ items.map ItemStruct.uuid
  | itemsRemoved _ => False

instance (u : String) : (signal : Signal) → Decidable (signal.Announces u)
  | .itemsAdded items => inferInstanceAs (Decidable (u ∈ items.map ItemStruct.uuid))
  | .itemsChanged items => inferInstanceAs (Decidable (u ∈ items.map ItemStruct.uuid))
  | .itemsRemoved _ => .isFalse id

/-- The items that a signal reports as added or changed. -/
def Signal.shown : Signal → List ItemStruct
  | itemsAdded items => items
  | itemsChanged items => items
  | itemsRemoved _ => []

theorem Signal.announces_iff {u : String} (signal : Signal) :
    signal.Announces u ↔ u ∈ signal.shown.map ItemStruct.uuid := by
  cases signal with
  | itemsAdded items => exact Iff.rfl
  | itemsChanged items => exact Iff.rfl
  | itemsRemoved items => exact iff_of_false id List.not_mem_nil

/-- The ids a signal names. -/
def Signal.ids : Signal → List String
  | itemsAdded items => items.map ItemStruct.uuid
  | itemsChanged items => items.map ItemStruct.uuid
  | itemsRemoved items => items.map Prod.snd

namespace SwItemView

/-- What `w` emitted after `v` announces only ids in `Q`. -/
def Emits (v w : SwItemView) (Q : String → Prop) : Prop :=
  ∃ new, w.emitted = v.emitted ++ new ∧ ∀ signal ∈ new, ∀ u, signal.Announces u → Q u

/-- What `w` emitted after `v` announces only items in `Q`, as they are in `h`. -/
def Shows (h : Heap) (v w : SwItemView) (Q : ItemRef → Prop) : Prop :=
  ∃ new, w.emitted = v.emitted ++ new ∧
    ∀ signal ∈ new, ∀ x ∈ signal.shown, ∃ o, Q o ∧ x = h.toValueArray o

/-- What `w` emitted after `v` names no item. -/
def Quiet (v w : SwItemView) : Prop :=
  ∃ new, w.emitted = v.emitted ++ new ∧ ∀ signal ∈ new, signal.ids = []

variable {h : Heap} {v w : SwItemView} {Q : String → Prop} {P P' : ItemRef → Prop}

/-! ## Items -/

theorem shows_same (hw : w.emitted = v.emitted) : Shows h v w P :=
  ⟨[], by simpa using hw, by simp⟩

theorem shows_one {signal : Signal} (hw : w.emitted = v.emitted ++ [signal])
    (hs : ∀ x ∈ signal.shown, ∃ o, P o ∧ x = h.toValueArray o) : Shows h v w P :=
  ⟨[signal], hw, by simpa using hs⟩

theorem Shows.trans {x : SwItemView} (hvw : Shows h v w P) (hwx : Shows h w x P) :
    Shows h v x P := by
  obtain ⟨new, hw, hnew⟩ := hvw
  obtain ⟨more, hx, hmore⟩ := hwx
  refine ⟨new ++ more, by rw [hx, hw, List.append_assoc], fun signal hs => ?_⟩
  rcases List.mem_append.1 hs with hs | hs
  · exact hnew signal hs
  · exact hmore signal hs

theorem Shows.mono (hvw : Shows h v w P) (hP : ∀ o, P o → P' o) : Shows h v w P' := by
  obtain ⟨new, hw, hnew⟩ := hvw
  refine ⟨new, hw, fun signal hs x hx => ?_⟩
  obtain ⟨o, ho, hxo⟩ := hnew signal hs x hx
  exact ⟨o, hP o ho, hxo⟩

/-- The ids of the items that are announced. -/
theorem Shows.emits (hvw : Shows h v w P) (hPQ : ∀ o, P o → Q o.uid) : Emits v w Q := by
  obtain ⟨new, hw, hnew⟩ := hvw
  refine ⟨new, hw, fun signal hs u hu => ?_⟩
  obtain ⟨x, hx, rfl⟩ := List.mem_map.1 (signal.announces_iff.1 hu)
  obtain ⟨o, ho, rfl⟩ := hnew signal hs x hx
  exact hPQ o ho

/-- The data of a list of ready items. -/
theorem exists_of_mem_values {items : List ItemRef} {x : ItemStruct}
    (hx : x ∈ (items.filter h.ready).map h.toValueArray) :
    ∃ o, (o ∈ items ∧ h.ready o = true) ∧ x = h.toValueArray o := by
  obtain ⟨o, ho, rfl⟩ := List.mem_map.1 hx
  exact ⟨o, List.mem_filter.1 ho, rfl⟩

theorem shows_addItems (h : Heap) (items : List ItemRef) (v : SwItemView) :
    Shows h v (addItems h items v) fun o => o ∈ items ∧ h.ready o = true :=
  shows_one (by rw [addItems_eq]) fun _ => exists_of_mem_values

theorem shows_updateItems (h : Heap) (items : List ItemRef) (v : SwItemView) :
    Shows h v (updateItems h items v) fun o => o ∈ items ∧ h.ready o = true := by
  dsimp only [updateItems]
  split_ifs
  · exact shows_one rfl fun _ => exists_of_mem_values
  · exact shows_same rfl

theorem shows_addFromSet {κ : Type} {key : ItemRef → κ} (h : Heap) (order : KeyOrder ItemRef)
    (set : SwSet key) (v : SwItemView) :
    Shows h v (addFromSet h order set v) fun o => o ∈ set ∧ h.ready o = true := by
  rw [addFromSet_eq]
  refine (shows_same rfl).trans ((shows_addItems h _ _).mono fun o ho => ?_)
  exact ⟨SwSet.mem_asList.1 ho.1, ho.2⟩

theorem shows_setRemoved (h : Heap) (order : KeyOrder ItemRef) (set : ItemSet) (v : SwItemView) :
    Shows h v (setRemoved h order set v) P := by
  unfold setRemoved
  split_ifs
  · exact shows_one rfl (List.forall_mem_nil _)
  · exact shows_same rfl

theorem shows_updateExisting (h : Heap) (order : KeyOrder ItemRef) (set : ItemSet)
    (v : SwItemView) :
    Shows h v (updateExisting h order set v) fun o => o ∈ set ∧ h.ready o = true := by
  rw [updateExisting_eq]
  refine (shows_same rfl).trans ((shows_updateItems h _ _).mono fun o ho => ?_)
  exact ⟨SwSet.mem_asList.1 (List.mem_filter.1 ho.1).1, ho.2⟩

/-- `sw_item_view_set_from_set` announces ready items of the set. -/
theorem shows_setFromSet (h : Heap) (order : KeyOrder ItemRef) (set : ItemSet) (v : SwItemView) :
    Shows h v (setFromSet h order set v) fun o => o ∈ set ∧ h.ready o = true := by
  rw [setFromSet_eq]
  split_ifs
  · exact shows_addFromSet h order set v
  · refine ((shows_setRemoved h order set v).trans (shows_updateExisting h order set _)).trans ?_
    unfold setAdded
    split_ifs
    · refine (shows_addFromSet h order _ _).mono fun o ho => ⟨?_, ho.2⟩
      have hmem := ho.1
      rw [KeySet.mem_def, SwSet.difference_members] at hmem
      exact (List.mem_filter.1 hmem).1
    · exact shows_same rfl

theorem shows_removeByUid (h : Heap) (uid : String) (v : SwItemView) :
    Shows h v (removeByUid h uid v) P := by
  unfold removeByUid
  cases v.uidToItems.lookup uid with
  | none => exact shows_same rfl
  | some item => exact shows_one rfl nofun

theorem shows_handleReadyPendingCb (h : Heap) (order : KeyOrder ItemRef) (v : SwItemView) :
    Shows h v (handleReadyPendingCb h order v) fun p =>
      p ∈ v.pendingItemsSet ∧ h.ready p = true := by
  rw [handleReadyPendingCb_eq]
  refine shows_one rfl fun x hx => ?_
  obtain ⟨p, hp, rfl⟩ := List.mem_map.1 hx
  exact ⟨p, mem_flushed.1 hp, rfl⟩

theorem shows_itemChangedTimeoutCb (h : Heap) (v : SwItemView) :
    Shows h v (itemChangedTimeoutCb h v) fun o => o ∈ v.changedItems ∧ h.ready o = true :=
  (shows_updateItems h v.changedItems v).trans (shows_same rfl)

theorem shows_onItemEvent (h h' : Heap) (e : ItemEvent) (v : SwItemView) :
    Shows h' v (onItemEvent h e v) P :=
  shows_same (onItemEvent_frame h e v).2.2.2.2

/-! ## Ids -/

theorem emits_same (hw : w.emitted = v.emitted) : Emits v w Q :=
  ⟨[], by simpa using hw, by simp⟩

theorem Emits.trans {x : SwItemView} (h : Emits v w Q) (h' : Emits w x Q) : Emits v x Q := by
  obtain ⟨new, hw, hnew⟩ := h
  obtain ⟨more, hx, hmore⟩ := h'
  refine ⟨new ++ more, by rw [hx, hw, List.append_assoc], fun signal hs => ?_⟩
  rcases List.mem_append.1 hs with hs | hs
  · exact hnew signal hs
  · exact hmore signal hs

end SwItemView

end LibSocialWeb
