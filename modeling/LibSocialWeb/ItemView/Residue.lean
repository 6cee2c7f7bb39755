import LibSocialWeb.ItemView.Wiring

/-!
# Objects left in the queues

An object in the pending set or in the list of changed items should be the one the current set
holds for its id, so that no flush announces an object that was removed or replaced.

The operations that remove or replace items do not look at the two queues, so this holds only as
long as they are handed ids with nothing queued. `ResidueOk` says so step by step.

**Main result.** `noResidue_iff`: along a run the queues hold current objects in every state
exactly when every step is `ResidueOk`.
-/

namespace LibSocialWeb

open Transition

/-! ## Queued objects of one id -/

namespace Slot

variable {α : Type*} {ready : α → Bool} {equal : α → α → Bool}

/-- `o` is queued: it waits, or it is among the `changed` objects. -/
def Queued (changed : α → Prop) (s : Slot α) (o : α) : Prop := s.waiting = some o ∨ changed o

/-- The queued objects are the current one. -/
def Clean (changed : α → Prop) (s : Slot α) : Prop := ∀ p, s.Queued changed p → s.current = some p

variable {changed : α → Prop} {s : Slot α}

theorem clean_drop_iff : s.drop.Clean changed ↔ ∀ p, ¬ s.Queued changed p := by
  simp [Clean, Queued, drop]

/-- Over a queued object only that very object may be added, unless the object waits and the new one
takes its place in the queue. -/
theorem clean_add_iff (hs : s.Clean changed) {new : Option α} :
    (s.add ready new).Clean changed ↔ ∀ o, new = some o →
      (ready o = true → ∀ p, s.waiting = some p → p = o) ∧ ∀ p, changed p → p = o := by
  cases new with
  | none => exact iff_of_true hs (by simp)
  | some o =>
    by_cases hr : ready o = true <;>
      simp only [Clean, Queued, add, hr, Option.some.injEq, if_true, if_false, Bool.false_eq_true,
        forall_eq', true_implies, false_implies, true_and]
    · refine ⟨?_, ?_⟩
      · exact fun hc => ⟨fun p hp => (hc p (Or.inl hp)).symm, fun p hp => (hc p (Or.inr hp)).symm⟩
      · intro h p hor
        rcases h with ⟨hw, hch⟩
        rcases hor with hp | hp
        · exact (hw p hp).symm
        · exact (hch p hp).symm
    · refine ⟨?_, ?_⟩
      · exact fun hc p hp => (hc p (Or.inr hp)).symm
      · intro hch p h
        rcases h with hp | hp
        · exact hp
        · exact (hch p hp).symm

/-- A queued object stays current exactly when the set has an equal object for it. -/
theorem clean_set_iff (hs : s.Clean changed) (hequal : ∀ o, equal o o = true) {new : Option α} :
    (s.set ready equal new).Clean changed ↔
      ∀ p, s.Queued changed p → ∃ o, new = some o ∧ equal o p = true := by
  cases hc : s.current with
  | none =>
    have hnone : ∀ p, ¬ s.Queued changed p := fun p hp => by simpa [hc] using hs p hp
    rw [set_of_none hc, clean_add_iff hs]
    refine iff_of_true (fun o _ => ?_) fun p hp => absurd hp (hnone p)
    exact ⟨fun _ p hp => absurd (Or.inl hp) (hnone p), fun p hp => absurd (Or.inr hp) (hnone p)⟩
  | some old =>
    have hold : ∀ p, s.Queued changed p → old = p := fun p hp => by simpa [hc] using hs p hp
    cases new with
    | none =>
      have hdrop : s.set ready equal none = s.drop := by simp [set, hc]
      rw [hdrop, clean_drop_iff]
      simp
    | some o =>
      by_cases he : equal o old = true
      · have hset : s.set ready equal (some o) = s := by simp [set, hc, he]
        rw [hset]
        exact iff_of_true hs fun p hp => ⟨o, rfl, hold p hp ▸ he⟩
      · have hset : s.set ready equal (some o) = { s with current := some o } := by
          simp [set, hc, he]
        rw [hset]
        refine ⟨?_, ?_⟩
        · -- A queued object would be both `o` and the old one.
          intro hclean p hp
          have ho : o = p := by simpa using hclean p hp
          exact ⟨o, rfl, ho ▸ hequal o⟩
        · intro hex p hp
          obtain ⟨x, hx, hep⟩ := hex p hp
          cases hx
          exact absurd (hold p hp ▸ hep) he

theorem clean_flush (hs : s.Clean changed) : (s.flush ready).Clean changed := by
  cases hw : s.waiting with
  | none => simpa [flush, hw] using hs
  | some w =>
    by_cases hr : ready w = true
    · have hflush : s.flush ready = { s with waiting := none, announced := true } := by
        simp [flush, hw, hr]
      rw [hflush]
      exact fun p hp => hs p (Or.inr (by simpa [Queued] using hp))
    · simpa [flush, hw, hr] using hs

end Slot

/-! ## Runs -/

namespace Sys

/-- Every queued object is the one the current set holds for its id. -/
def NoResidue (s : Sys) : Prop :=
  (∀ p ∈ s.view.pendingItemsSet, s.view.currentItemsSet.find p.uid = some p) ∧
    ∀ o ∈ s.view.changedItems, s.view.currentItemsSet.find o.uid = some o

/-- `p` is in the pending set or among the changed items. -/
def Queued (s : Sys) (p : ItemRef) : Prop := p ∈ s.view.pendingItemsSet ∨ p ∈ s.view.changedItems

/-- The steps that leave no object in the queues. -/
def ResidueOk (s : Sys) : Event → Prop
  | .addFromSet _ set => ∀ o ∈ set,
      (s.heap.ready o = true → ∀ p ∈ s.view.pendingItemsSet, p.uid = o.uid → p = o) ∧
        ∀ p ∈ s.view.changedItems, p.uid = o.uid → p = o
  | .removeFromSet _ set => ∀ p, s.Queued p → ∀ o ∈ set, o.uid ≠ p.uid
  | .setFromSet _ set => ∀ p, s.Queued p → ∃ o ∈ set, o.uid = p.uid ∧ s.heap.equal o p = true
  | .removeByUid uid => ∀ p, s.Queued p → p.uid ≠ uid
  | .item e => e.emitsChanged = true → e.ref ∈ s.view.changedHandlers →
      (e.heap s.heap).ready e.ref = true → s.view.currentItemsSet.find e.ref.uid = some e.ref
  | .pendingTimeout _ => True
  | .refreshTimeout => True

/-- The changed items of the id `u`. -/
def ChangedAt (s : Sys) (u : String) (o : ItemRef) : Prop := o ∈ s.view.changedItems ∧ o.uid = u

/-- The invariant: the index is right and the queues of every id are clean. -/
structure ResidueInv (s : Sys) : Prop where
  indexed : s.view.Indexed
  clean : ∀ u, (s.view.slot u).Clean (s.ChangedAt u)

theorem queued_iff {s : Sys} {p : ItemRef} :
    s.Queued p ↔ (s.view.slot p.uid).Queued (s.ChangedAt p.uid) p := by
  simp [Queued, Slot.Queued, ChangedAt, SwItemView.mem_waiting]

theorem slot_queued_uid {s : Sys} {u : String} {p : ItemRef}
    (hp : (s.view.slot u).Queued (s.ChangedAt u) p) : p.uid = u :=
  hp.elim SwItemView.waiting_uid And.right

theorem noResidue_iff_clean {s : Sys} :
    NoResidue s ↔ ∀ u, (s.view.slot u).Clean (s.ChangedAt u) := by
  refine ⟨?_, ?_⟩
  · intro hand u p hq
    rcases hand with ⟨hp, hc⟩
    obtain rfl := slot_queued_uid hq
    rcases queued_iff.2 hq with h | h
    · exact hp p h
    · exact hc p h
  · intro h
    exact ⟨fun p hp => h p.uid p (queued_iff.1 (Or.inl hp)),
      fun o ho => h o.uid o (queued_iff.1 (Or.inr ho))⟩

theorem residueInv_start (h : Heap) : ResidueInv (Sys.start h) where
  indexed := SwItemView.indexed_init
  clean := noResidue_iff_clean.1 ⟨by simp [start, SwItemView.init, KeySet.mem_def, KeySet.empty],
    by simp [start, SwItemView.init]⟩

/-- Clean queues after a step that leaves the changed items alone. -/
theorem noResidue_step_iff {s : Sys} (hx : s.view.Indexed) {e : Event}
    (hsame : (s.step e).view.changedItems = s.view.changedItems) :
    NoResidue (s.step e) ↔ ∀ u, (e.onSlot s u (s.view.slot u)).Clean (s.ChangedAt u) := by
  rw [noResidue_iff_clean]
  apply forall_congr'
  intro u
  rw [slot_step hx]
  have hch : (s.step e).ChangedAt u = s.ChangedAt u := by
    funext o
    simp only [ChangedAt, hsame]
  rw [hch]

theorem changedItems_step (s : Sys) {e : Event} (he : ∀ i, e ≠ .item i) (hr : e ≠ .refreshTimeout) :
    (s.step e).view.changedItems = s.view.changedItems :=
  congrArg Prod.fst (refreshQueue_step s he hr)

/-! ### One step -/

section Step

variable {s : Sys}

theorem noResidue_addFromSet (hs : ResidueInv s) (order : KeyOrder ItemRef) (set : ItemSet) :
    NoResidue (s.step (.addFromSet order set)) ↔ ResidueOk s (.addFromSet order set) := by
  rw [noResidue_step_iff hs.indexed (changedItems_step s (by simp) (by simp))]
  simp only [Event.onSlot, Slot.clean_add_iff (hs.clean _)]
  refine ⟨?_, ?_⟩
  · intro h o ho
    obtain ⟨hw, hc⟩ := h o.uid o (KeySet.mem_iff_find.1 ho)
    refine ⟨fun hr p hp hu => hw hr p ?_, fun p hp hu => hc p ⟨hp, hu⟩⟩
    rw [← hu]
    exact SwItemView.mem_waiting.1 hp
  · intro h u o ho
    obtain ⟨hmem, rfl⟩ := KeySet.find_some ho
    obtain ⟨hw, hc⟩ := h o hmem
    refine ⟨fun hr p hp => ?_, fun p hp => hc p hp.1 hp.2⟩
    have hu := SwItemView.waiting_uid hp
    rw [← hu] at hp
    exact hw hr p (SwItemView.mem_waiting.2 hp) hu

theorem noResidue_removeFromSet (hs : ResidueInv s) (order : KeyOrder ItemRef) (set : ItemSet) :
    NoResidue (s.step (.removeFromSet order set)) ↔ ResidueOk s (.removeFromSet order set) := by
  rw [noResidue_step_iff hs.indexed (changedItems_step s (by simp) (by simp))]
  refine ⟨?_, ?_⟩
  · intro h p hp o ho hu
    have hdrop := h p.uid
    rw [Event.onSlot, if_pos (KeySet.find_isSome.2 ⟨o, ho, hu⟩), Slot.clean_drop_iff] at hdrop
    exact hdrop p (queued_iff.1 hp)
  · intro h u
    dsimp only [Event.onSlot]
    split_ifs with hset
    · rw [Slot.clean_drop_iff]
      intro p hp
      obtain rfl := slot_queued_uid hp
      obtain ⟨o, ho, hu⟩ := KeySet.find_isSome.1 hset
      exact h p (queued_iff.2 hp) o ho hu
    · exact hs.clean u

theorem noResidue_setFromSet (hs : ResidueInv s) (order : KeyOrder ItemRef) (set : ItemSet) :
    NoResidue (s.step (.setFromSet order set)) ↔ ResidueOk s (.setFromSet order set) := by
  rw [noResidue_step_iff hs.indexed (changedItems_step s (by simp) (by simp))]
  simp only [Event.onSlot, Slot.clean_set_iff (hs.clean _) s.heap.equal_self]
  refine ⟨?_, ?_⟩
  · intro h p hp
    obtain ⟨o, ho, he⟩ := h p.uid p (queued_iff.1 hp)
    exact ⟨o, (KeySet.find_some ho).1, (KeySet.find_some ho).2, he⟩
  · intro h u p hp
    obtain rfl := slot_queued_uid hp
    obtain ⟨o, ho, hu, he⟩ := h p (queued_iff.2 hp)
    exact ⟨o, hu ▸ KeySet.mem_iff_find.1 ho, he⟩

theorem noResidue_removeByUid (hs : ResidueInv s) (uid : String) :
    NoResidue (s.step (.removeByUid uid)) ↔ ResidueOk s (.removeByUid uid) := by
  rw [noResidue_step_iff hs.indexed (changedItems_step s (by simp) (by simp))]
  refine ⟨?_, ?_⟩
  · intro h p hp heq
    subst heq
    have hq := queued_iff.1 hp
    have hcur : (s.view.slot p.uid).current.isSome := by rw [hs.clean _ p hq]; rfl
    have hdrop := h p.uid
    rw [Event.onSlot, if_pos ⟨rfl, hcur⟩, Slot.clean_drop_iff] at hdrop
    exact hdrop p hq
  · intro h u
    dsimp only [Event.onSlot]
    split_ifs with hu
    · rw [Slot.clean_drop_iff]
      intro p hp
      exact h p (queued_iff.2 (slot_queued_uid hp ▸ hp)) ((slot_queued_uid hp).trans hu.1)
    · exact hs.clean u

theorem noResidue_item (hs : ResidueInv s) (e : ItemEvent) :
    NoResidue (s.step (.item e)) ↔ ResidueOk s (.item e) := by
  obtain ⟨hc, hp, -, -, -⟩ := SwItemView.onItemEvent_frame s.heap e s.view
  have hold := noResidue_iff_clean.2 hs.clean
  show (∀ p ∈ (s.view.onItemEvent s.heap e).pendingItemsSet,
    (s.view.onItemEvent s.heap e).currentItemsSet.find p.uid = some p) ∧
    (∀ o ∈ (s.view.onItemEvent s.heap e).changedItems,
      (s.view.onItemEvent s.heap e).currentItemsSet.find o.uid = some o) ↔ _
  simp only [hc, hp, SwItemView.mem_changedItems_onItemEvent]
  refine ⟨?_, ?_⟩
  · exact fun h hem hm hr => h.2 e.ref (Or.inr ⟨rfl, hem, hm, hr⟩)
  · intro h
    refine ⟨hold.1, ?_⟩
    intro o hor
    rcases hor with ho | ⟨rfl, hem, hm, hr⟩
    · exact hold.2 o ho
    · exact h hem hm hr

/-- **A step leaves nothing in the queues exactly when it is allowed.** -/
theorem noResidue_step (hs : ResidueInv s) (e : Event) : NoResidue (s.step e) ↔ ResidueOk s e := by
  cases e with
  | addFromSet order set => exact noResidue_addFromSet hs order set
  | removeFromSet order set => exact noResidue_removeFromSet hs order set
  | setFromSet order set => exact noResidue_setFromSet hs order set
  | removeByUid uid => exact noResidue_removeByUid hs uid
  | item e => exact noResidue_item hs e
  | pendingTimeout order =>
    rw [noResidue_step_iff hs.indexed (changedItems_step s (by simp) (by simp))]
    refine iff_of_true (fun u => ?_) trivial
    dsimp only [Event.onSlot]
    split_ifs
    · exact Slot.clean_flush (hs.clean u)
    · exact hs.clean u
  | refreshTimeout =>
    have hold := noResidue_iff_clean.2 hs.clean
    refine iff_of_true ?_ trivial
    dsimp only [step]
    split_ifs
    · dsimp only [SwItemView.itemChangedTimeoutCb]
      rw [SwItemView.updateItems_eq]
      exact ⟨hold.1, by simp⟩
    · exact hold

end Step

/-- **No object is left in the queues of any state of a run exactly when every step is allowed.** -/
theorem noResidue_iff (h : Heap) (es : List Event) :
    EveryState step NoResidue (Sys.start h) es ↔ EveryStep step ResidueOk (Sys.start h) es :=
  everyState_iff_everyStep (fun _ (hs : ResidueInv _) => noResidue_iff_clean.2 hs.clean)
    (fun _ e hs hok => ⟨indexed_step hs.indexed e,
      noResidue_iff_clean.1 ((noResidue_step hs e).2 hok)⟩)
    (fun _ e hs h => (noResidue_step hs e).1 h) (residueInv_start h)

/-- An item is removed while it waits. -/
def removedInQueue : List Event :=
  let item : ItemRef := ⟨1, "1"⟩
  [.item (.pushPending item), .setFromSet (.stored _) (KeySet.empty.add item), .removeByUid "1"]

/-- The object is then still pending. -/
theorem removedInQueue_residue :
    ¬ ∀ (h : Heap) (es : List Event), EveryState step NoResidue (Sys.start h) es := by
  intro hall
  have hlast := (hall (Heap.plain ⟨0, "flickr"⟩) removedInQueue).last
  exact absurd (hlast.1 ⟨1, "1"⟩ (by decide)) (by decide)

end Sys

end LibSocialWeb
