import LibSocialWeb.ItemView.Ops

/-!
# A view seen through one id

The operations of a view treat the ids independently of each other. `Slot` is the abstract state
of one id: the object that is current, the object that waits to become ready, and whether the
client has been told of the id. `Slot.add`, `Slot.drop`, `Slot.set` and `Slot.flush` say what the
view is for, one id at a time.

`SwItemView.slot v u` projects a view to the id `u`. The `slot_*` lemmas say that each operation
of the view acts on every slot by one of these actions, whatever the order in which the hash
tables are listed.
-/

namespace LibSocialWeb

/-- What a view knows of one id. -/
@[ext] structure Slot (α : Type*) where
  current : Option α
  waiting : Option α
  announced : Bool

namespace Slot

variable {α : Type*} (ready : α → Bool) (equal : α → α → Bool)

/-- An object of this id is handed in as new: announce it, or wait for it. -/
def add (new : Option α) (s : Slot α) : Slot α :=
  match new with
  | none => s
  | some o =>
    if ready o then { s with current := some o, announced := true }
    else { s with current := some o, waiting := some o }

/-- The id leaves the view. -/
def drop (s : Slot α) : Slot α := { s with current := none, announced := false }

/-- The view becomes a set whose object of this id is `new`. -/
def set (new : Option α) (s : Slot α) : Slot α :=
  match s.current, new with
  | none, new => s.add ready new
  | some _, none => s.drop
  | some old, some o => if equal o old then s else { s with current := some o }

/-- The waiting object is announced if it is ready. -/
def flush (s : Slot α) : Slot α :=
  match s.waiting with
  | none => s
  | some p => if ready p then { s with waiting := none, announced := true } else s

variable {ready equal}

theorem set_of_none {s : Slot α} (h : s.current = none) (new : Option α) :
    s.set ready equal new = s.add ready new := by
  simp [set, h]

/-- What waits is not affected where there is a current object. -/
theorem waiting_set_of_some {s : Slot α} {old : α} (h : s.current = some old) (new : Option α) :
    (s.set ready equal new).waiting = s.waiting := by
  cases new with
  | none => simp [set, drop, h]
  | some o => by_cases ho : equal o old = true <;> simp [set, h, ho]

@[simp] theorem current_flush (s : Slot α) : (s.flush ready).current = s.current := by
  unfold flush
  split
  · rfl
  · split_ifs <;> rfl

/-- What waits after a flush waited before, and is not ready. -/
theorem waiting_flush {s : Slot α} {p : α} :
    (s.flush ready).waiting = some p ↔ s.waiting = some p ∧ ready p = false := by
  unfold flush
  split
  · rename_i hw
    simp [hw]
  · rename_i q hw
    rw [hw, Option.some.injEq]
    split_ifs with hq
    · refine iff_of_false (fun h => by cases h) ?_
      rintro ⟨rfl, hp⟩
      rw [hq] at hp
      cases hp
    · rw [hw, Option.some.injEq]
      refine ⟨?_, And.left⟩
      rintro rfl
      exact ⟨rfl, Bool.eq_false_iff.2 hq⟩

end Slot

namespace SwItemView

/-- What the client has been told. -/
def notices (v : SwItemView) : List (Notice String) := v.emitted.map Signal.notice

/-- The client has been told of `u`, and not of its removal since. -/
def announced (v : SwItemView) (u : String) : Bool := Notice.present v.notices u

def slot (v : SwItemView) (u : String) : Slot ItemRef where
  current := v.currentItemsSet.find u
  waiting := v.pendingItemsSet.find u
  announced := v.announced u

/-- The index holds the current items. -/
def Indexed (v : SwItemView) : Prop := ∀ u, v.uidToItems.lookup u = v.currentItemsSet.find u

theorem indexed_init : init.Indexed := fun _ => rfl

theorem mem_current {v : SwItemView} {o : ItemRef} :
    o ∈ v.currentItemsSet ↔ (v.slot o.uid).current = some o := KeySet.mem_iff_find

theorem mem_waiting {v : SwItemView} {o : ItemRef} :
    o ∈ v.pendingItemsSet ↔ (v.slot o.uid).waiting = some o := KeySet.mem_iff_find

theorem current_uid {v : SwItemView} {u : String} {o : ItemRef} (h : (v.slot u).current = some o) :
    o.uid = u := (KeySet.find_some h).2

theorem waiting_uid {v : SwItemView} {u : String} {o : ItemRef} (h : (v.slot u).waiting = some o) :
    o.uid = u := (KeySet.find_some h).2

theorem pending_has {v : SwItemView} {o : ItemRef} :
    v.pendingItemsSet.has o = (v.slot o.uid).waiting.isSome := rfl

theorem not_pending_has {v : SwItemView} {o : ItemRef} :
    v.pendingItemsSet.has o = false ↔ (v.slot o.uid).waiting = none := by
  rw [pending_has, Option.isSome_eq_false_iff, Option.isNone_iff_eq_none]

/-- Fields that no slot depends on. -/
theorem slot_congr {v w : SwItemView} (hc : w.currentItemsSet = v.currentItemsSet)
    (hp : w.pendingItemsSet = v.pendingItemsSet) (he : w.emitted = v.emitted) (u : String) :
    w.slot u = v.slot u := by
  simp [slot, announced, notices, hc, hp, he]

/-! ## Ids named in a message -/

theorem mem_uuids (h : Heap) (items : List ItemRef) (u : String) :
    u ∈ (items.map h.toValueArray).map ItemStruct.uuid ↔ ∃ o ∈ items, o.uid = u := by
  simp [Heap.toValueArray]

theorem announced_added (v : SwItemView) (items : List ItemStruct) (u : String) :
    Notice.present ((v.emitted ++ [Signal.itemsAdded items]).map Signal.notice) u =
      if u ∈ items.map ItemStruct.uuid then true else v.announced u := by
  simp [announced, notices]

theorem announced_removed (v : SwItemView) (items : List (String × String)) (u : String) :
    Notice.present ((v.emitted ++ [Signal.itemsRemoved items]).map Signal.notice) u =
      if u ∈ items.map Prod.snd then false else v.announced u := by
  simp [announced, notices]

/-- `ItemsChanged` leaves every slot as it is. -/
theorem slot_updateItems (h : Heap) (items : List ItemRef) (v : SwItemView) (u : String) :
    (updateItems h items v).slot u = v.slot u := by
  dsimp only [updateItems]
  split_ifs
  · simp [slot, emit, announced, notices]
  · rfl

/-! ## Adding -/

theorem slot_addItems (h : Heap) {items : List ItemRef} (hitems : (items.map ItemRef.uid).Nodup)
    (v : SwItemView) (u : String) :
    (addItems h items v).slot u =
      match KeySet.findKey ItemRef.uid items u with
      | none => v.slot u
      | some o =>
        if h.ready o then { v.slot u with announced := true }
        else { v.slot u with waiting := some o } := by
  have hwait : (v.pendingItemsSet.addAll (items.filter fun o => !h.ready o)).find u =
      ((KeySet.findKey ItemRef.uid items u).filter fun o => !h.ready o).or
        (v.pendingItemsSet.find u) := by
    rw [KeySet.find_addAll _ (hitems.sublist (List.filter_sublist.map ItemRef.uid)),
      KeySet.findKey_filter hitems]
  have hann : u ∈ ((items.filter h.ready).map h.toValueArray).map ItemStruct.uuid ↔
      ∃ o, KeySet.findKey ItemRef.uid items u = some o ∧ h.ready o = true := by
    simp only [mem_uuids, List.mem_filter, KeySet.findKey_iff hitems]
    tauto
  rw [addItems_eq]
  ext1
  · cases hf : KeySet.findKey ItemRef.uid items u with
    | none => rfl
    | some o => simp only; split_ifs <;> rfl
  · show (v.pendingItemsSet.addAll _).find u = _
    rw [hwait]
    cases hf : KeySet.findKey ItemRef.uid items u with
    | none => simp [slot]
    | some o => by_cases ho : h.ready o = true <;> simp [ho, slot, Option.filter]
  · show Notice.present ((v.emitted ++ _).map Signal.notice) u = _
    rw [announced_added]
    simp only [hann]
    cases hf : KeySet.findKey ItemRef.uid items u with
    | none => simp [slot]
    | some o => by_cases ho : h.ready o = true <;> simp [ho, slot]

section AddFromSet

variable {κ : Type} {key : ItemRef → κ} (h : Heap) (order : KeyOrder ItemRef) {set : SwSet key}
  (hset : (set.members.map ItemRef.uid).Nodup) (v : SwItemView)

include hset

theorem slot_addFromSet (u : String) :
    (addFromSet h order set v).slot u =
      (v.slot u).add h.ready (KeySet.findKey ItemRef.uid set.members u) := by
  rw [addFromSet_eq, slot_addItems h (SwSet.nodup_asList order hset),
    SwSet.findKey_asList order hset]
  have hcur : (v.currentItemsSet.addAll set.members).find u =
      (KeySet.findKey ItemRef.uid set.members u).or (v.currentItemsSet.find u) :=
    KeySet.find_addAll _ hset u
  cases hf : KeySet.findKey ItemRef.uid set.members u with
  | none =>
    rw [hf] at hcur
    simp only [Slot.add, slot, hcur, Option.none_or]
    rfl
  | some o =>
    rw [hf] at hcur
    simp only [Slot.add, slot, hcur, Option.some_or]
    rfl

theorem indexed_addFromSet (hv : v.Indexed) : (addFromSet h order set v).Indexed := by
  intro u
  rw [addFromSet_eq, addItems_eq]
  show ((SwSet.asList order set).foldl (fun table item => table.insert item.uid item)
    v.uidToItems).lookup u = (v.currentItemsSet.addAll set.members).find u
  rw [lookup_foldl_insert (SwSet.nodup_asList order hset), SwSet.findKey_asList order hset,
    KeySet.find_addAll _ hset, hv u]

end AddFromSet

/-! ## Removing -/

section RemoveFromSet

variable {κ : Type} {key : ItemRef → κ} (h : Heap) (order : KeyOrder ItemRef) {set : SwSet key}
  (v : SwItemView)

theorem slot_removeFromSet (u : String) :
    (removeFromSet h order set v).slot u =
      if ∃ o ∈ set, o.uid = u then (v.slot u).drop else v.slot u := by
  have hcur : (v.currentItemsSet.removeAll set.members).find u =
      if ∃ o ∈ set, o.uid = u then none else v.currentItemsSet.find u := by
    rw [KeySet.find_removeAll]
    simp only [KeySet.findKey_isSome]
    rfl
  have hann : u ∈ ((SwSet.asList order set).map fun item =>
      ((h.item item).service.name, item.uid)).map Prod.snd ↔ ∃ o ∈ set, o.uid = u := by
    simp
  ext1
  · show (v.currentItemsSet.removeAll set.members).find u = _
    rw [hcur]
    split_ifs <;> rfl
  · split_ifs <;> rfl
  · show Notice.present ((v.emitted ++ _).map Signal.notice) u = _
    rw [announced_removed]
    split_ifs with h1 h2 h2
    · rfl
    · exact absurd (hann.1 h1) h2
    · exact absurd (hann.2 h2) h1
    · rfl

theorem indexed_removeFromSet (hset : (set.members.map ItemRef.uid).Nodup) (hv : v.Indexed) :
    (removeFromSet h order set v).Indexed := by
  intro u
  show ((SwSet.asList order set).foldl (fun table item => table.erase item.uid)
    v.uidToItems).lookup u = (v.currentItemsSet.removeAll set.members).find u
  rw [lookup_foldl_erase, KeySet.find_removeAll, SwSet.findKey_asList order hset, hv u]

end RemoveFromSet

theorem slot_removeByUid (h : Heap) (uid : String) {v : SwItemView} (hv : v.Indexed) (u : String) :
    (removeByUid h uid v).slot u =
      if u = uid ∧ (v.slot u).current.isSome then (v.slot u).drop else v.slot u := by
  unfold removeByUid
  rw [hv uid]
  cases hf : v.currentItemsSet.find uid with
  | none =>
    rw [if_neg]
    intro hand
    rcases hand with ⟨rfl, hs⟩
    simp [slot, hf] at hs
  | some item =>
    obtain ⟨-, rfl⟩ := KeySet.find_some hf
    by_cases hu : u = item.uid
    · subst hu
      have hs : (v.slot item.uid).current.isSome := by simp [slot, hf]
      rw [if_pos ⟨rfl, hs⟩]
      ext1
      · show (v.currentItemsSet.remove item).find item.uid = none
        rw [KeySet.find_remove, if_pos rfl]
      · rfl
      · show Notice.present ((v.emitted ++ _).map Signal.notice) item.uid = false
        rw [announced_removed, if_pos (by simp)]
    · rw [if_neg fun hc => hu hc.1]
      ext1
      · show (v.currentItemsSet.remove item).find u = _
        rw [KeySet.find_remove, if_neg (Ne.symm hu)]
        rfl
      · rfl
      · show Notice.present ((v.emitted ++ _).map Signal.notice) u = _
        rw [announced_removed, if_neg (by simpa using hu)]
        rfl

theorem indexed_removeByUid (h : Heap) (uid : String) {v : SwItemView} (hv : v.Indexed) :
    (removeByUid h uid v).Indexed := by
  intro u
  unfold removeByUid
  rw [hv uid]
  cases hf : v.currentItemsSet.find uid with
  | none => exact hv u
  | some item =>
    obtain ⟨-, rfl⟩ := KeySet.find_some hf
    show (v.uidToItems.erase item.uid).lookup u = (v.currentItemsSet.remove item).find u
    rw [KeySet.find_remove]
    split_ifs with hu
    · rw [← hu, AList.lookup_erase]
    · rw [AList.lookup_erase_ne (Ne.symm hu), hv u]

/-! ## Replacing -/

theorem findKey_replacements (h : Heap) (order : KeyOrder ItemRef) (set : ItemSet)
    (v : SwItemView) (u : String) :
    KeySet.findKey ItemRef.uid (replacements h order set v) u =
      (set.find u).filter (replaces h v) := by
  rw [replacements, KeySet.findKey_filter (SwSet.nodup_asList order set.nodup),
    SwSet.findKey_asList order set.nodup]
  rfl

theorem nodup_replacements (h : Heap) (order : KeyOrder ItemRef) (set : ItemSet)
    (v : SwItemView) : ((replacements h order set v).map ItemRef.uid).Nodup :=
  (SwSet.nodup_asList order set.nodup).sublist (List.filter_sublist.map ItemRef.uid)

theorem mem_replacements {h : Heap} {order : KeyOrder ItemRef} {set : ItemSet} {v : SwItemView}
    (hv : v.Indexed) {o : ItemRef} : o ∈ replacements h order set v ↔
      o ∈ set ∧ ∃ old, v.currentItemsSet.find o.uid = some old ∧ h.equal o old = false := by
  rw [replacements, List.mem_filter, SwSet.mem_asList, replaces, hv o.uid]
  cases v.currentItemsSet.find o.uid <;> simp

theorem slot_updateExisting (h : Heap) (order : KeyOrder ItemRef) (set : ItemSet)
    {v : SwItemView} (hv : v.Indexed) (u : String) :
    (updateExisting h order set v).slot u =
      match (v.slot u).current, set.find u with
      | some old, some o =>
        if h.equal o old then v.slot u else { v.slot u with current := some o }
      | _, _ => v.slot u := by
  rw [updateExisting_eq, slot_updateItems]
  have hcur : (v.currentItemsSet.addAll (replacements h order set v)).find u =
      ((set.find u).filter (replaces h v)).or (v.currentItemsSet.find u) := by
    rw [KeySet.find_addAll _ (nodup_replacements h order set v), findKey_replacements]
  have hrep : ∀ o, set.find u = some o → replaces h v o =
      match v.currentItemsSet.find u with
      | none => false
      | some old => !h.equal o old := by
    intro o ho
    have hlookup : v.uidToItems.lookup o.uid = v.currentItemsSet.find u := by
      rw [(KeySet.find_some ho).2, hv u]
    exact congrArg (fun found => match found with
      | none => false
      | some old => !h.equal o old) hlookup
  have hrest : ∀ c, c = (v.currentItemsSet.addAll (replacements h order set v)).find u →
      SwItemView.slot { v with
        uidToItems := (replacements h order set v).foldl
          (fun table item => table.insert item.uid item) v.uidToItems
        currentItemsSet := v.currentItemsSet.addAll (replacements h order set v) } u =
        { v.slot u with current := c } := by
    intro c heq
    subst heq
    rfl
  rw [hrest _ rfl, hcur]
  cases hs : set.find u with
  | none => cases hc : v.currentItemsSet.find u <;> simp [slot, hc]
  | some o =>
    cases hc : v.currentItemsSet.find u with
    | none => simp [slot, hc, hrep o hs, Option.filter]
    | some old =>
      by_cases he : h.equal o old = true <;> simp [slot, hc, hrep o hs, he, Option.filter]

theorem indexed_updateExisting (h : Heap) (order : KeyOrder ItemRef) (set : ItemSet)
    {v : SwItemView} (hv : v.Indexed) : (updateExisting h order set v).Indexed := by
  intro u
  rw [updateExisting_eq, updateItems_eq]
  show ((replacements h order set v).foldl (fun table item => table.insert item.uid item)
    v.uidToItems).lookup u = (v.currentItemsSet.addAll (replacements h order set v)).find u
  rw [lookup_foldl_insert (nodup_replacements h order set v),
    KeySet.find_addAll _ (nodup_replacements h order set v), hv u]

/-! ## The three phases of `sw_item_view_set_from_set` -/

section SetFromSet

variable (h : Heap) (order : KeyOrder ItemRef) (set : ItemSet)

/-- The removals of `sw_item_view_set_from_set`. -/
def setRemoved (v : SwItemView) : SwItemView :=
  if !(SwSet.difference v.currentItemsSet set).isEmpty then
    removeFromSet h order (SwSet.difference v.currentItemsSet set) v
  else v

/-- The additions of `sw_item_view_set_from_set`; `before` is the set of current items at its
start. -/
def setAdded (before : ItemSet) (v : SwItemView) : SwItemView :=
  if !(SwSet.difference set before).isEmpty then
    addFromSet h order (SwSet.difference set before) v
  else v

theorem setFromSet_eq (v : SwItemView) :
    setFromSet h order set v =
      if v.currentItemsSet.isEmpty then addFromSet h order set v
      else setAdded h order set v.currentItemsSet
        (updateExisting h order set (setRemoved h order set v)) := rfl

theorem mem_difference {a b : ItemSet} {o : ItemRef} :
    o ∈ SwSet.difference a b ↔ o ∈ a ∧ b.find o.uid = none := by
  rw [KeySet.mem_def, SwSet.difference_members, List.mem_filter, ← KeySet.mem_def]
  simp [KeySet.has]

theorem slot_setRemoved (v : SwItemView) (u : String) :
    (setRemoved h order set v).slot u =
      if (v.slot u).current.isSome ∧ set.find u = none then (v.slot u).drop else v.slot u := by
  have hmem : (∃ o ∈ SwSet.difference v.currentItemsSet set, o.uid = u) ↔
      (v.slot u).current.isSome ∧ set.find u = none := by
    show (∃ o ∈ (SwSet.difference v.currentItemsSet set).members, o.uid = u) ↔ _
    rw [← KeySet.findKey_isSome, SwSet.findKey_difference]
    show _ ↔ (v.currentItemsSet.find u).isSome ∧ _
    cases set.find u <;> simp
  unfold setRemoved
  simp only [← hmem]
  split_ifs with hne hex hex
  · rw [slot_removeFromSet, if_pos hex]
  · rw [slot_removeFromSet, if_neg hex]
  · obtain ⟨o, ho, -⟩ := hex
    simp only [Bool.not_eq_true', Bool.not_eq_false] at hne
    rw [KeySet.mem_def, List.isEmpty_iff.1 hne] at ho
    cases ho
  · rfl

theorem indexed_setRemoved {v : SwItemView} (hv : v.Indexed) :
    (setRemoved h order set v).Indexed := by
  unfold setRemoved
  split_ifs
  · exact indexed_removeFromSet h order v (SwSet.nodup_difference _ _) hv
  · exact hv

theorem slot_setAdded (before : ItemSet) (v : SwItemView) (u : String) :
    (setAdded h order set before v).slot u =
      if (before.find u).isSome then v.slot u else (v.slot u).add h.ready (set.find u) := by
  have hfind := SwSet.findKey_difference set before u
  have hadd : (v.slot u).add h.ready
      (KeySet.findKey ItemRef.uid (SwSet.difference set before).members u) =
      if (before.find u).isSome then v.slot u else (v.slot u).add h.ready (set.find u) := by
    rw [hfind]
    split_ifs <;> rfl
  unfold setAdded
  split_ifs with hne hb hb
  · rw [slot_addFromSet h order (SwSet.nodup_difference set before), hadd, if_pos hb]
  · rw [slot_addFromSet h order (SwSet.nodup_difference set before), hadd, if_neg hb]
  · rfl
  · -- Nothing is new, so nothing is added at this id.
    simp only [Bool.not_eq_true', Bool.not_eq_false] at hne
    rw [if_neg hb, List.isEmpty_iff.1 hne] at hfind
    rw [← hfind]
    rfl

theorem indexed_setAdded (before : ItemSet) {v : SwItemView} (hv : v.Indexed) :
    (setAdded h order set before v).Indexed := by
  unfold setAdded
  split_ifs
  · exact indexed_addFromSet h order (SwSet.nodup_difference set before) v hv
  · exact hv

/-- **`sw_item_view_set_from_set` sets every slot to the set's object of that id.** -/
theorem slot_setFromSet {v : SwItemView} (hv : v.Indexed) (u : String) :
    (setFromSet h order set v).slot u = (v.slot u).set h.ready h.equal (set.find u) := by
  rw [setFromSet_eq]
  split_ifs with hempty
  · have hnone : (v.slot u).current = none := KeySet.isEmpty_iff.1 hempty u
    rw [Slot.set_of_none hnone, slot_addFromSet h order set.nodup]
    rfl
  · rw [slot_setAdded, slot_updateExisting h order set (indexed_setRemoved h order set hv),
      slot_setRemoved]
    have hc : (v.slot u).current = v.currentItemsSet.find u := rfl
    cases hcur : v.currentItemsSet.find u with
    | none => cases set.find u <;> simp [hc, hcur, Slot.set]
    | some old => cases set.find u <;> simp [hc, hcur, Slot.set, Slot.drop]

theorem indexed_setFromSet {v : SwItemView} (hv : v.Indexed) :
    (setFromSet h order set v).Indexed := by
  rw [setFromSet_eq]
  split_ifs
  · exact indexed_addFromSet h order set.nodup v hv
  · exact indexed_setAdded h order set _
      (indexed_updateExisting h order set (indexed_setRemoved h order set hv))

end SetFromSet

/-! ## Flushing -/

theorem slot_handleReadyPendingCb (h : Heap) (order : KeyOrder ItemRef) (v : SwItemView)
    (u : String) : (handleReadyPendingCb h order v).slot u = (v.slot u).flush h.ready := by
  have hmem : ∀ o, o ∈ (flushed h order v).reverse ↔ o ∈ v.pendingItemsSet ∧ h.ready o = true := by
    intro o
    rw [List.mem_reverse, mem_flushed]
  have hnamed : (KeySet.findKey ItemRef.uid (flushed h order v).reverse u).isSome ↔
      ∃ p, v.pendingItemsSet.find u = some p ∧ h.ready p = true := by
    rw [KeySet.findKey_isSome]
    simp only [hmem, KeySet.find_iff]
    tauto
  have hann : u ∈ ((flushed h order v).map h.toValueArray).map ItemStruct.uuid ↔
      ∃ p, v.pendingItemsSet.find u = some p ∧ h.ready p = true := by
    simp only [mem_uuids, mem_flushed, KeySet.find_iff]
    tauto
  rw [handleReadyPendingCb_eq]
  ext1
  · show v.currentItemsSet.find u = _
    unfold Slot.flush
    split <;> [rfl; split_ifs <;> rfl]
  · show (v.pendingItemsSet.removeAll _).find u = _
    rw [KeySet.find_removeAll]
    simp only [hnamed]
    cases hf : v.pendingItemsSet.find u with
    | none => simp [Slot.flush, slot, hf]
    | some p => by_cases hp : h.ready p = true <;> simp [Slot.flush, slot, hf, hp]
  · show Notice.present ((v.emitted ++ _).map Signal.notice) u = _
    rw [announced_added]
    simp only [hann]
    cases hf : v.pendingItemsSet.find u with
    | none => simp [Slot.flush, slot, hf]
    | some p => by_cases hp : h.ready p = true <;> simp [Slot.flush, slot, hf, hp]

end SwItemView

end LibSocialWeb
