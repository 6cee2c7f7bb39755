import LibSocialWeb.ItemView.Emissions

/-!
# The difference that `sw_item_view_set_from_set` makes

The view is compared with a set: what the set lacks is removed, what the view lacks is added, and of
an id that both have the view keeps its object if the set's object is equal, and takes the set's
object otherwise. The signals report exactly this, in the order removed, changed, added
(`difference_setFromSet`), and a second call finds nothing to report (`quiet_setFromSet_again`).

**Unready objects.** An object that is not ready is in no signal. `sw_item_view_add_items` keeps the
object of a new id as pending, to be announced later; `sw_item_view_update_existing` does not, so
that an unready object which replaces another one is neither announced nor pending.

**Main result.** `exactDifference_iff`: the view treats the set as it should exactly when no unready
object replaces another one without being pending already.
-/

namespace LibSocialWeb

namespace SwItemView

/-! ## What a call reports -/

/-- Up to three signals, in the order removed, changed, added; a signal that is left out would name
nothing. -/
def Reports (h : Heap) (removed changed added : List ItemRef) (signals : List Signal) : Prop :=
  ∃ removals changes additions, signals = removals ++ changes ++ additions ∧
    (removals = [.itemsRemoved (removed.map fun o => ((h.item o).service.name, o.uid))] ∨
      removals = [] ∧ removed = []) ∧
    (changes = [.itemsChanged (changed.map h.toValueArray)] ∨ changes = [] ∧ changed = []) ∧
    (additions = [.itemsAdded (added.map h.toValueArray)] ∨ additions = [] ∧ added = [])

/-- `w` is what the view `v` should become, and it reports what changes. -/
structure Difference (h : Heap) (set : ItemSet) (v w : SwItemView) : Prop where
  indexed : w.Indexed
  ids : ∀ u, (w.currentItemsSet.find u).isSome = (set.find u).isSome
  keeps : ∀ u old new, v.currentItemsSet.find u = some old → set.find u = some new →
    w.currentItemsSet.find u = some (if h.equal new old then old else new)
  adds : ∀ u new, v.currentItemsSet.find u = none → set.find u = some new →
    w.currentItemsSet.find u = some new
  waits : ∀ u new, v.currentItemsSet.find u = none → set.find u = some new →
    h.ready new = false → w.pendingItemsSet.find u = some new
  reports : ∃ removed changed added signals, w.emitted = v.emitted ++ signals ∧
    Reports h removed changed added signals ∧
    ((removed.map ItemRef.uid).Nodup ∧
      ∀ o, o ∈ removed ↔ o ∈ v.currentItemsSet ∧ set.find o.uid = none) ∧
    ((changed.map ItemRef.uid).Nodup ∧ ∀ o, o ∈ changed ↔ o ∈ set ∧ h.ready o = true ∧
      ∃ old, v.currentItemsSet.find o.uid = some old ∧ h.equal o old = false) ∧
    ((added.map ItemRef.uid).Nodup ∧ ∀ o, o ∈ added ↔ o ∈ set ∧ h.ready o = true ∧
      v.currentItemsSet.find o.uid = none)

/-! ## The three phases -/

section Phases

variable (h : Heap) (order : KeyOrder ItemRef) (set : ItemSet)

/-- The current items that the set lacks. -/
def removedItems (v : SwItemView) : List ItemRef :=
  SwSet.asList order (SwSet.difference v.currentItemsSet set)

/-- The items of the set that the view lacks. -/
def addedItems (before : ItemSet) : List ItemRef :=
  SwSet.asList order (SwSet.difference set before)

theorem nodup_asList_difference (a b : ItemSet) :
    ((SwSet.asList order (SwSet.difference a b)).map ItemRef.uid).Nodup :=
  SwSet.nodup_asList order (SwSet.nodup_difference a b)

theorem emitted_setRemoved (v : SwItemView) : ∃ removals,
    (setRemoved h order set v).emitted = v.emitted ++ removals ∧
    (removals = [.itemsRemoved ((removedItems order set v).map fun o =>
      ((h.item o).service.name, o.uid))] ∨ removals = [] ∧ removedItems order set v = []) := by
  unfold setRemoved
  split_ifs with hne
  · exact ⟨_, rfl, Or.inl rfl⟩
  · simp only [Bool.not_eq_true', Bool.not_eq_false] at hne
    exact ⟨[], (List.append_nil _).symm, Or.inr ⟨rfl, SwSet.asList_eq_nil order hne⟩⟩

theorem emitted_updateExisting (v : SwItemView) : ∃ changes,
    (updateExisting h order set v).emitted = v.emitted ++ changes ∧
    (changes = [.itemsChanged (((replacements h order set v).filter h.ready).map h.toValueArray)] ∨
      changes = [] ∧ (replacements h order set v).filter h.ready = []) := by
  rw [updateExisting_eq]
  dsimp only [updateItems]
  split_ifs with hpos
  · exact ⟨_, rfl, Or.inl rfl⟩
  · rw [List.length_map, Nat.not_lt, Nat.le_zero, List.length_eq_zero_iff] at hpos
    exact ⟨[], (List.append_nil _).symm, Or.inr ⟨rfl, hpos⟩⟩

theorem emitted_setAdded (before : ItemSet) (v : SwItemView) : ∃ additions,
    (setAdded h order set before v).emitted = v.emitted ++ additions ∧
    (additions = [.itemsAdded (((addedItems order set before).filter h.ready).map
      h.toValueArray)] ∨ additions = [] ∧ (addedItems order set before).filter h.ready = []) := by
  unfold setAdded
  split_ifs with hne
  · rw [addFromSet_eq, addItems_eq]
    exact ⟨_, rfl, Or.inl rfl⟩
  · simp only [Bool.not_eq_true', Bool.not_eq_false] at hne
    have hnil : addedItems order set before = [] := SwSet.asList_eq_nil order hne
    rw [hnil]
    exact ⟨[], (List.append_nil _).symm, Or.inr ⟨rfl, rfl⟩⟩

/-- After the removals, the objects of the set that replace another one are those that are unequal
to the current object. -/
theorem mem_replacements_setRemoved {v : SwItemView} (hv : v.Indexed) {o : ItemRef} :
    o ∈ replacements h order set (setRemoved h order set v) ↔
      o ∈ set ∧ ∃ old, v.currentItemsSet.find o.uid = some old ∧ h.equal o old = false := by
  rw [mem_replacements (indexed_setRemoved h order set hv)]
  refine and_congr_right fun hmem => ?_
  have hslot : (setRemoved h order set v).slot o.uid = v.slot o.uid := by
    rw [slot_setRemoved, KeySet.mem_iff_find.1 hmem, if_neg (by simp)]
  have hcurrent : (setRemoved h order set v).currentItemsSet.find o.uid =
      v.currentItemsSet.find o.uid := congrArg Slot.current hslot
  rw [hcurrent]

end Phases

/-! ## The difference -/

variable {v : SwItemView}

/-- The shortcut of the empty view: every ready item of the set is new, and no other item is
reported. -/
theorem reports_addFromSet (h : Heap) (order : KeyOrder ItemRef) (set : ItemSet)
    (hnone : ∀ u, v.currentItemsSet.find u = none) :
    ∃ added signals,
      (addFromSet h order set v).emitted = v.emitted ++ signals ∧
      Reports h [] [] added signals ∧
      (added.map ItemRef.uid).Nodup ∧ ∀ o, o ∈ added ↔ o ∈ set ∧ h.ready o = true ∧
        v.currentItemsSet.find o.uid = none := by
  refine ⟨(SwSet.asList order set).filter h.ready, _, ?_,
    ⟨[], [], _, rfl, Or.inr ⟨rfl, rfl⟩, Or.inr ⟨rfl, rfl⟩, Or.inl rfl⟩, ?_, fun o => ?_⟩
  · rw [addFromSet_eq, addItems_eq]
    rfl
  · exact (SwSet.nodup_asList order set.nodup).sublist (List.filter_sublist.map ItemRef.uid)
  · rw [List.mem_filter, SwSet.mem_asList, hnone]
    simp

theorem reports_setFromSet (h : Heap) (order : KeyOrder ItemRef) (set : ItemSet) (hv : v.Indexed) :
    ∃ removed changed added signals,
      (setFromSet h order set v).emitted = v.emitted ++ signals ∧
      Reports h removed changed added signals ∧
      ((removed.map ItemRef.uid).Nodup ∧
        ∀ o, o ∈ removed ↔ o ∈ v.currentItemsSet ∧ set.find o.uid = none) ∧
      ((changed.map ItemRef.uid).Nodup ∧ ∀ o, o ∈ changed ↔ o ∈ set ∧ h.ready o = true ∧
        ∃ old, v.currentItemsSet.find o.uid = some old ∧ h.equal o old = false) ∧
      ((added.map ItemRef.uid).Nodup ∧ ∀ o, o ∈ added ↔ o ∈ set ∧ h.ready o = true ∧
        v.currentItemsSet.find o.uid = none) := by
  rw [setFromSet_eq]
  split_ifs with hempty
  · have hnone := KeySet.isEmpty_iff.1 hempty
    obtain ⟨added, signals, hemitted, hreports, hadded⟩ := reports_addFromSet h order set hnone
    refine ⟨[], [], added, signals, hemitted, hreports, ?_, ?_, hadded⟩
    · refine ⟨List.nodup_nil, fun o => iff_of_false List.not_mem_nil ?_⟩
      intro hand
      have hfind := KeySet.mem_iff_find.1 hand.1
      rw [hnone] at hfind
      cases hfind
    · refine ⟨List.nodup_nil, fun o => iff_of_false List.not_mem_nil ?_⟩
      rintro ⟨-, -, old, hold, -⟩
      rw [hnone] at hold
      cases hold
  · obtain ⟨removals, hremovals, hremoved⟩ := emitted_setRemoved h order set v
    obtain ⟨changes, hchanges, hchanged⟩ := emitted_updateExisting h order set
      (setRemoved h order set v)
    obtain ⟨additions, hadditions, hadded⟩ := emitted_setAdded h order set v.currentItemsSet
      (updateExisting h order set (setRemoved h order set v))
    refine ⟨_, _, _, removals ++ changes ++ additions, ?_,
      ⟨removals, changes, additions, rfl, hremoved, hchanged, hadded⟩, ?_, ?_, ?_⟩
    · rw [hadditions, hchanges, hremovals, List.append_assoc, List.append_assoc, List.append_assoc]
    · exact ⟨nodup_asList_difference order _ _, fun o =>
        SwSet.mem_asList.trans mem_difference⟩
    · refine ⟨(nodup_replacements h order set _).sublist
        (List.filter_sublist.map ItemRef.uid), fun o => ?_⟩
      rw [List.mem_filter, mem_replacements_setRemoved h order set hv]
      tauto
    · refine ⟨(nodup_asList_difference order _ _).sublist
        (List.filter_sublist.map ItemRef.uid), fun o => ?_⟩
      rw [List.mem_filter, addedItems, SwSet.mem_asList, mem_difference]
      tauto

/-- **`sw_item_view_set_from_set` makes and reports the difference.** -/
theorem difference_setFromSet (h : Heap) (order : KeyOrder ItemRef) (set : ItemSet)
    (hv : v.Indexed) : Difference h set v (setFromSet h order set v) := by
  have hcurrent : ∀ u, (setFromSet h order set v).currentItemsSet.find u =
      ((v.slot u).set h.ready h.equal (set.find u)).current :=
    fun u => congrArg Slot.current (slot_setFromSet h order set hv u)
  have hslot : ∀ u, (v.slot u).current = v.currentItemsSet.find u := fun _ => rfl
  refine ⟨indexed_setFromSet h order set hv, ?_, ?_, ?_, ?_, reports_setFromSet h order set hv⟩
  · intro u
    rw [hcurrent]
    cases hold : v.currentItemsSet.find u with
    | none =>
      rw [Slot.set_of_none (hold ▸ hslot u)]
      cases set.find u with
      | none => rw [Slot.add, hslot, hold]
      | some new => by_cases hready : h.ready new = true <;> simp [Slot.add, hready]
    | some old =>
      cases set.find u with
      | none => simp [Slot.set, Slot.drop, hslot, hold]
      | some new => by_cases heq : h.equal new old = true <;> simp [Slot.set, hslot, hold, heq]
  · intro u old new hold hnew
    rw [hcurrent, hnew]
    by_cases heq : h.equal new old = true <;> simp [Slot.set, hslot, hold, heq]
  · intro u new hold hnew
    rw [hcurrent, hnew, Slot.set_of_none (hold ▸ hslot u)]
    by_cases hready : h.ready new = true <;> simp [Slot.add, hready]
  · intro u new hold hnew hready
    have hwaiting := congrArg Slot.waiting (slot_setFromSet h order set hv u)
    rw [hnew, Slot.set_of_none (hold ▸ hslot u)] at hwaiting
    refine hwaiting.trans ?_
    simp [Slot.add, hready]

/-! ## A second call -/

/-- The view holds an equal object for each id of the set, and no other ids. -/
structure Holds (h : Heap) (set : ItemSet) (w : SwItemView) : Prop where
  ids : ∀ u, (w.currentItemsSet.find u).isSome = (set.find u).isSome
  equal : ∀ u old new, w.currentItemsSet.find u = some old → set.find u = some new →
    h.equal new old = true

/-- After the call the view holds what it was set to. -/
theorem Difference.holds {h : Heap} {set : ItemSet} {w : SwItemView} (hd : Difference h set v w) :
    Holds h set w := by
  refine ⟨hd.ids, ?_⟩
  intro u held new hheld hnew
  cases hold : v.currentItemsSet.find u with
  | none =>
    rw [hd.adds u new hold hnew, Option.some.injEq] at hheld
    exact hheld ▸ h.equal_self new
  | some old =>
    rw [hd.keeps u old new hold hnew, Option.some.injEq] at hheld
    split_ifs at hheld with heq
    · exact hheld ▸ heq
    · exact hheld ▸ h.equal_self new

section Again

variable {h : Heap} (order : KeyOrder ItemRef) {set : ItemSet} {w : SwItemView}

theorem isEmpty_difference {a b : ItemSet} (hab : ∀ u, (a.find u).isSome = (b.find u).isSome) :
    (SwSet.difference a b).isEmpty = true := by
  rw [KeySet.isEmpty, List.isEmpty_iff, SwSet.difference_members, List.filter_eq_nil_iff]
  intro o ho
  have hfind : (b.find o.uid).isSome = true := by
    rw [← hab, KeySet.mem_iff_find.1 ho]
    rfl
  simp [KeySet.has, hfind]

theorem Holds.replacements_eq_nil (hw : Holds h set w) (hindexed : w.Indexed) :
    replacements h order set w = [] := by
  rw [replacements, List.filter_eq_nil_iff]
  intro o ho
  have hset : set.find o.uid = some o := KeySet.mem_iff_find.1 (SwSet.mem_asList.1 ho)
  unfold replaces
  rw [hindexed o.uid]
  cases hheld : w.currentItemsSet.find o.uid with
  | none => simp
  | some held => simp [hw.equal o.uid held o hheld hset]

/-- **A view that holds what it is set to stays as it is**, and no item is reported. -/
theorem Holds.setFromSet (hw : Holds h set w) (hindexed : w.Indexed) :
    (setFromSet h order set w).currentItemsSet = w.currentItemsSet ∧
      (setFromSet h order set w).pendingItemsSet = w.pendingItemsSet ∧
      (setFromSet h order set w).uidToItems = w.uidToItems ∧
      Quiet w (setFromSet h order set w) := by
  rw [setFromSet_eq]
  split_ifs with hempty
  · have hset : set.isEmpty = true := by
      rw [KeySet.isEmpty_iff] at hempty ⊢
      intro u
      rw [← Option.not_isSome_iff_eq_none, ← hw.ids, hempty]
      exact Bool.false_ne_true
    have hmembers : set.members = [] := List.isEmpty_iff.1 hset
    rw [addFromSet_eq, addItems_eq, SwSet.asList_eq_nil order hset, hmembers]
    exact ⟨rfl, rfl, rfl, _, rfl, by simp [Signal.ids]⟩
  · have hremoved : setRemoved h order set w = w := by
      rw [setRemoved, isEmpty_difference hw.ids]
      rfl
    have hupdated : updateExisting h order set w = w := by
      rw [updateExisting_eq, hw.replacements_eq_nil order hindexed]
      rfl
    rw [hremoved, hupdated, setAdded, isEmpty_difference fun u => (hw.ids u).symm]
    exact ⟨rfl, rfl, rfl, [], (List.append_nil _).symm, by simp⟩

end Again

/-! ## The main result -/

/-- The view becomes the set: the difference is made and reported, an unready object of the set that
the view takes is pending, and a second call, in whatever order the set is listed, changes and
reports nothing. -/
structure ExactDifference (h : Heap) (order : KeyOrder ItemRef) (set : ItemSet) (v : SwItemView) :
    Prop where
  difference : Difference h set v (setFromSet h order set v)
  waits : ∀ u old new, v.currentItemsSet.find u = some old → set.find u = some new →
    h.equal new old = false → h.ready new = false →
    (setFromSet h order set v).pendingItemsSet.find u = some new
  again : ∀ order', Holds h set (setFromSet h order set v) ∧
    (setFromSet h order' set (setFromSet h order set v)).currentItemsSet =
      (setFromSet h order set v).currentItemsSet ∧
    (setFromSet h order' set (setFromSet h order set v)).pendingItemsSet =
      (setFromSet h order set v).pendingItemsSet ∧
    (setFromSet h order' set (setFromSet h order set v)).uidToItems =
      (setFromSet h order set v).uidToItems ∧
    Quiet (setFromSet h order set v) (setFromSet h order' set (setFromSet h order set v))

/-- An unready object of the set that replaces an unequal one is pending already. -/
def DifferenceOk (h : Heap) (set : ItemSet) (v : SwItemView) : Prop :=
  ∀ u old new, v.currentItemsSet.find u = some old → set.find u = some new →
    h.equal new old = false → h.ready new = false → v.pendingItemsSet.find u = some new

/-- `sw_item_view_update_existing` leaves the pending object of an id as it is. -/
theorem pending_setFromSet_of_some (h : Heap) (order : KeyOrder ItemRef) (set : ItemSet)
    (hv : v.Indexed) {u : String} {old : ItemRef} (hold : v.currentItemsSet.find u = some old) :
    (setFromSet h order set v).pendingItemsSet.find u = v.pendingItemsSet.find u := by
  have hwaiting := congrArg Slot.waiting (slot_setFromSet h order set hv u)
  have hcurrent : (v.slot u).current = some old := hold
  exact hwaiting.trans (Slot.waiting_set_of_some hcurrent _)

/-- **`sw_item_view_set_from_set` makes and reports the difference and is quiet the second time; no
unready object is forgotten exactly when none replaces another one.** -/
theorem exactDifference_iff (h : Heap) (order : KeyOrder ItemRef) (set : ItemSet)
    (hv : v.Indexed) :
    (Difference h set v (setFromSet h order set v) ∧
      ∀ order', Quiet (setFromSet h order set v)
        (setFromSet h order' set (setFromSet h order set v))) ∧
      (ExactDifference h order set v ↔ DifferenceOk h set v) := by
  have hdifference := difference_setFromSet h order set hv
  have hholds := hdifference.holds
  have hagain := fun order' => hholds.setFromSet order' hdifference.indexed
  refine ⟨⟨hdifference, fun order' => (hagain order').2.2.2⟩, ?_⟩
  refine ⟨?_, ?_⟩
  · intro hexact u old new hold hnew hequal hready
    rw [← pending_setFromSet_of_some h order set hv hold]
    exact hexact.waits u old new hold hnew hequal hready
  · intro hok
    refine ⟨hdifference, ?_, fun order' => ⟨hholds, hagain order'⟩⟩
    intro u old new hold hnew hequal hready
    rw [pending_setFromSet_of_some h order set hv hold]
    exact hok u old new hold hnew hequal hready

/-- A view of two items gets one of them with a title, and a third one. -/
theorem exactDifference_titled :
    let h := (ItemEvent.setTitle ⟨4, "1"⟩ "Sea").heap (.plain ⟨1, "flickr"⟩)
    let order := KeyOrder.stored ItemRef
    let v := setFromSet h order ((KeySet.empty.add ⟨1, "1"⟩).add ⟨2, "2"⟩) init
    ExactDifference h order ((KeySet.empty.add ⟨4, "1"⟩).add ⟨3, "3"⟩) v := by
  intro h order v
  have hindexed : v.Indexed := indexed_setFromSet h order _ indexed_init
  refine (exactDifference_iff h order _ hindexed).2.2 ?_
  intro u old new _ _ _ hready
  have hready' : h.ready new = true := ItemEvent.ready_put _ _ _ _ _ _
  rw [hready'] at hready
  cases hready

/-- **An unready object that replaces another one is neither announced nor pending.** -/
theorem unreadyReplacement_forgotten :
    let h := (ItemEvent.pushPending ⟨2, "1"⟩).heap (.plain ⟨1, "flickr"⟩)
    let order := KeyOrder.stored ItemRef
    let v := setFromSet h order (KeySet.empty.add ⟨1, "1"⟩) init
    let w := setFromSet h order (KeySet.empty.add ⟨2, "1"⟩) v
    v.Indexed ∧ ¬ ExactDifference h order (KeySet.empty.add ⟨2, "1"⟩) v ∧
      w.currentItemsSet.members = [⟨2, "1"⟩] ∧ w.pendingItemsSet.members = [] ∧
      w.emitted = v.emitted := by
  intro h order v w
  have hindexed : v.Indexed := indexed_setFromSet h order _ indexed_init
  refine ⟨hindexed, ?_, by decide, by decide, by decide⟩
  intro hexact
  have hwaits := hexact.waits "1" ⟨1, "1"⟩ ⟨2, "1"⟩ (by decide) (by decide) (by decide) (by decide)
  exact absurd hwaits (by decide)

end SwItemView

end LibSocialWeb
