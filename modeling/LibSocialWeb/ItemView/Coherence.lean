import LibSocialWeb.ItemView.Contents
import LibSocialWeb.ItemView.Mirror
import LibSocialWeb.ItemView.Residue
import LibSocialWeb.ItemView.WakeUp

/-!
# Coherence of the client's data

`Mirrors` compares the ids of the client's table with the view. The data should be right too. An
item that changes is not announced at once: it is queued and the refresh timer armed. So what is
shown should be the present data of the current object, or that object should be scheduled: `Fresh`.
This fails when an item changes unheard, because no `changed` handler is connected to it.

**Main results.** `coherent_iff`: along a run the client's table has the right ids, the queues hold
current objects and everything shown is fresh, in every state, exactly when every step is
`CoherentOk`. `upToDate_of_coherentOk`: in every state of such a run, the firing of the refresh
timer makes the client's table the table of the ready current items with their present data.
-/

namespace LibSocialWeb

open Transition

namespace Sys

/-! ## Fresh data -/

/-- The object is queued and the timer that sends it is armed. -/
def Scheduled (s : Sys) (o : ItemRef) : Prop :=
  o ∈ s.view.changedItems ∧ s.view.refreshTimeoutId = true

/-- `d` is the present data of the current object, or that object is scheduled to be sent. -/
def FreshFor (s : Sys) (current : Option ItemRef) (d : ItemStruct) : Prop :=
  ∃ o, current = some o ∧ (d = s.heap.toValueArray o ∨ s.Scheduled o)

/-- Everything the client shows is fresh. -/
def Fresh (s : Sys) : Prop :=
  ∀ u d, s.view.shown u = some d → s.FreshFor (s.view.currentItemsSet.find u) d

/-- The ids, the queues and the data are right. -/
structure Coherent (s : Sys) : Prop where
  mirrors : Mirrors s
  noResidue : NoResidue s
  fresh : Fresh s

/-- A shown item that changes has its `changed` handler connected, or is scheduled already. -/
def HeardOk (s : Sys) : Event → Prop
  | .item e => e.ref ∈ s.view.currentItemsSet → (s.view.shown e.ref.uid).isSome = true →
      (e.heap s.heap).toValueArray e.ref ≠ s.heap.toValueArray e.ref →
        e.ref ∈ s.view.changedHandlers ∨ s.Scheduled e.ref
  | _ => True

/-- The steps that keep the client's table coherent. -/
structure CoherentOk (s : Sys) (e : Event) : Prop where
  mirror : MirrorOk s e
  residue : ResidueOk s e
  heard : HeardOk s e

structure CoherentInv (s : Sys) : Prop where
  mirror : MirrorInv s
  residue : ResidueInv s
  fresh : Fresh s

variable {s : Sys}

theorem CoherentInv.coherent (hs : CoherentInv s) : Coherent s where
  mirrors := hs.mirror.mirrors
  noResidue := noResidue_iff_clean.2 hs.residue.clean
  fresh := hs.fresh

theorem coherentInv_start (h : Heap) : CoherentInv (Sys.start h) where
  mirror := mirrorInv_start h
  residue := residueInv_start h
  fresh u d hd := by
    have hnone : (Sys.start h).view.shown u = none := rfl
    rw [hnone] at hd
    cases hd

/-- What is shown has a current object that is ready, and nothing waits at its id. -/
theorem CoherentInv.of_shown (hs : CoherentInv s) {u : String} {d : ItemStruct}
    (hd : s.view.shown u = some d) :
    ∃ o, (s.view.slot u).current = some o ∧ s.heap.ready o = true ∧
      (s.view.slot u).waiting = none := by
  have hann : (s.view.slot u).announced = true := SwItemView.shown_isSome.1 (by rw [hd]; rfl)
  obtain ⟨hc, hw⟩ := (hs.mirror.synced u).announced.1 hann
  obtain ⟨o, ho⟩ := Option.isSome_iff_exists.1 hc
  exact ⟨o, ho, (hs.mirror.synced u).ready o ho hw, hw⟩

/-- **The refresh timer sends what is queued**: afterwards everything shown is present data. -/
theorem CoherentInv.shown_refreshed (hs : CoherentInv s) {u : String} {d : ItemStruct}
    (hd : (s.step .refreshTimeout).view.shown u = some d) :
    ∃ o, s.view.currentItemsSet.find u = some o ∧ d = s.heap.toValueArray o := by
  rw [shown_step hs.mirror.indexed, Event.onShown] at hd
  split_ifs at hd with ht
  · obtain ⟨d₀, hd₀, rfl⟩ := Option.map_eq_some_iff.1 hd
    obtain ⟨o, ho, hfresh⟩ := hs.fresh u d₀ hd₀
    obtain ⟨o', ho', hr, -⟩ := hs.of_shown hd₀
    obtain rfl : o = o' := Option.some.inj (ho.symm.trans ho')
    refine ⟨o, ho, ?_⟩
    cases hf : KeySet.findKey ItemRef.uid (s.view.changedItems.filter s.heap.ready).reverse u with
    | some p =>
      -- A queued object of this id is the current one.
      obtain ⟨hp, rfl⟩ := KeySet.findKey_some hf
      have hmem : p ∈ s.view.changedItems := (List.mem_filter.1 (List.mem_reverse.1 hp)).1
      have hcur : s.view.currentItemsSet.find p.uid = some p := hs.coherent.noResidue.2 p hmem
      obtain rfl : o = p := Option.some.inj (ho.symm.trans hcur)
      rfl
    | none =>
      rcases hfresh with hval | ⟨hmem, -⟩
      · exact hval
      · have hin : o ∈ (s.view.changedItems.filter s.heap.ready).reverse :=
          List.mem_reverse.2 (List.mem_filter.2 ⟨hmem, hr⟩)
        exact absurd (SwItemView.current_uid ho) (KeySet.findKey_eq_none.1 hf o hin)
  · obtain ⟨o, ho, hval | ⟨-, harmed⟩⟩ := hs.fresh u d hd
    · exact ⟨o, ho, hval⟩
    · exact absurd harmed ht

/-! ### One step -/

/-- Fresh data after a step that leaves the heap and the queue alone. -/
theorem fresh_step_of_kept (hx : s.view.Indexed) {e : Event} (hheap : (s.step e).heap = s.heap)
    (hqueue : (s.step e).view.refreshQueue = s.view.refreshQueue)
    (h : ∀ u d, e.onShown s u (s.view.shown u) = some d →
      s.FreshFor (e.onSlot s u (s.view.slot u)).current d) : Fresh (s.step e) := by
  intro u d hd
  rw [shown_step hx] at hd
  obtain ⟨o, ho, hfresh⟩ := h u d hd
  rw [← slot_step hx] at ho
  have hitems : (s.step e).view.changedItems = s.view.changedItems := congrArg Prod.fst hqueue
  have htimer : (s.step e).view.refreshTimeoutId = s.view.refreshTimeoutId :=
    congrArg Prod.snd hqueue
  refine ⟨o, ho, ?_⟩
  rw [hheap, Scheduled, hitems, htimer]
  exact hfresh

theorem fresh_addFromSet (hs : CoherentInv s) {order : KeyOrder ItemRef} {set : ItemSet}
    (hok : MirrorOk s (.addFromSet order set)) : Fresh (s.step (.addFromSet order set)) := by
  refine fresh_step_of_kept hs.mirror.indexed (step_heap s _)
    (refreshQueue_step s (by simp) (by simp)) fun u d hd => ?_
  rw [Event.onShown] at hd
  rw [Event.onSlot]
  cases hf : set.find u with
  | none =>
    rw [hf] at hd
    exact hs.fresh u d (by simpa using hd)
  | some o =>
    rw [hf, Heap.packed_some] at hd
    by_cases hr : s.heap.ready o = true
    · refine ⟨o, by simp [Slot.add, hr], Or.inl ?_⟩
      simpa [hr, eq_comm] using hd
    · -- An object that is not ready may only be added where nothing is shown.
      obtain ⟨hmem, rfl⟩ := KeySet.find_some hf
      have hshown : s.view.shown o.uid = some d := by simpa [hr] using hd
      obtain ⟨x, hx, -, hw⟩ := hs.of_shown hshown
      have hadd := hok o hmem
      simp [Slot.AddOk, hr, hx, hw] at hadd

theorem fresh_setFromSet (hs : CoherentInv s) {order : KeyOrder ItemRef} {set : ItemSet}
    (hok : MirrorOk s (.setFromSet order set)) : Fresh (s.step (.setFromSet order set)) := by
  refine fresh_step_of_kept hs.mirror.indexed (step_heap s _)
    (refreshQueue_step s (by simp) (by simp)) fun u d hd => ?_
  rw [Event.onShown] at hd
  rw [Event.onSlot]
  cases hc : (s.view.slot u).current with
  | none =>
    -- Nothing is shown, so what is shown now was just added.
    have hnone : s.view.shown u = none := by
      rw [Option.eq_none_iff_forall_ne_some]
      intro d₀ hd₀
      obtain ⟨x, hx, -⟩ := hs.of_shown hd₀
      rw [hc] at hx
      cases hx
    rw [Slot.set_of_none hc]
    simp only [hc, hnone, Option.or_none] at hd
    cases hf : set.find u with
    | none => simp [hf] at hd
    | some o =>
      rw [hf, Heap.packed_some] at hd
      split_ifs at hd with hr
      exact ⟨o, by simp [Slot.add, hr], Or.inl (Option.some.inj hd).symm⟩
  | some old =>
    cases hf : set.find u with
    | none => simp [hc, hf] at hd
    | some o =>
      simp only [hc, hf] at hd
      split_ifs at hd with he
      · have hkept : s.FreshFor (s.view.slot u).current d := hs.fresh u d hd
        rw [hc] at hkept
        simpa [Slot.set, hc, hf, he] using hkept
      · obtain ⟨d₀, hd₀, rfl⟩ := Option.map_eq_some_iff.1 hd
        obtain ⟨hmem, rfl⟩ := KeySet.find_some hf
        obtain ⟨x, -, -, hw⟩ := hs.of_shown hd₀
        have hset := hok o hmem
        simp only [Slot.SetOk, hc, he, hw, Option.isSome_none, Bool.false_eq_true, or_false,
          false_or] at hset
        refine ⟨o, by simp [Slot.set, hc, he], Or.inl ?_⟩
        rw [Heap.packed_some, if_pos hset]
        rfl

/-- Where nothing is removed all stays, and elsewhere nothing is shown. -/
theorem fresh_drop (hs : CoherentInv s) {e : Event} (hheap : (s.step e).heap = s.heap)
    (hqueue : (s.step e).view.refreshQueue = s.view.refreshQueue)
    (hkept : ∀ u, (e.onSlot s u (s.view.slot u) = s.view.slot u ∧
        e.onShown s u (s.view.shown u) = s.view.shown u) ∨
      e.onShown s u (s.view.shown u) = none) : Fresh (s.step e) := by
  refine fresh_step_of_kept hs.mirror.indexed hheap hqueue fun u d hd => ?_
  rcases hkept u with ⟨hslot, hshown⟩ | hnone
  · rw [hshown] at hd
    rw [hslot]
    exact hs.fresh u d hd
  · rw [hnone] at hd
    cases hd

/-- The flush sends a waiting object that is ready, and that is the current one. -/
theorem fresh_pendingTimeout (hs : CoherentInv s) (order : KeyOrder ItemRef) :
    Fresh (s.step (.pendingTimeout order)) := by
  refine fresh_step_of_kept hs.mirror.indexed (step_heap s _)
    (refreshQueue_step s (by simp) (by simp)) fun u d hd => ?_
  rw [Event.onShown] at hd
  rw [Event.onSlot]
  split_ifs at hd ⊢ with ht
  · rw [Slot.current_flush]
    cases hw : (s.view.slot u).waiting with
    | none =>
      rw [hw] at hd
      exact hs.fresh u d (by simpa using hd)
    | some p =>
      rw [hw, Heap.packed_some] at hd
      by_cases hr : s.heap.ready p = true
      · have hcur := hs.residue.clean u p (Or.inl hw)
        refine ⟨p, hcur, Or.inl ?_⟩
        simpa [hr, eq_comm] using hd
      · exact hs.fresh u d (by simpa [hr] using hd)
  · exact hs.fresh u d hd

theorem fresh_refreshTimeout (hs : CoherentInv s) : Fresh (s.step .refreshTimeout) := by
  intro u d hd
  obtain ⟨o, ho, hval⟩ := hs.shown_refreshed hd
  obtain ⟨hc, -⟩ := refreshTimeout_frame s
  refine ⟨o, by rw [hc]; exact ho, Or.inl ?_⟩
  rw [step_heap]
  exact hval

theorem toValueArray_of_ne {h : Heap} {e : ItemEvent} {o : ItemRef} (ho : o ≠ e.ref) :
    (e.heap h).toValueArray o = h.toValueArray o := by
  have hitem : (e.heap h).item o = h.item o := by
    cases e <;> simp_all [ItemEvent.heap, ItemEvent.ref, Heap.set]
  simp [Heap.toValueArray, hitem]

/-- Counting fetches does not change the data of an item. -/
theorem toValueArray_of_not_emitsChanged {h : Heap} {e : ItemEvent} (o : ItemRef)
    (he : e.emitsChanged = false) : (e.heap h).toValueArray o = h.toValueArray o := by
  cases e with
  | pushPending o' =>
    by_cases ho : o = o'
    · subst ho
      simp [Heap.toValueArray, ItemEvent.heap, Heap.set, SwItem.pushPending, SwItem.get]
    · exact toValueArray_of_ne ho
  | popPending o' => cases he
  | put o' key value hkey => cases he
  | touch o' => cases he

/-- What an item event does to the schedule. -/
theorem scheduled_item (s : Sys) (e : ItemEvent) :
    (∀ o, s.Scheduled o → (s.step (.item e)).Scheduled o) ∧
      (e.emitsChanged = true → e.ref ∈ s.view.changedHandlers →
        (e.heap s.heap).ready e.ref = true → (s.step (.item e)).Scheduled e.ref) ∧
      (e.ref ∉ s.view.changedHandlers →
        ∀ o, (s.step (.item e)).Scheduled o → s.Scheduled o) := by
  have hsched : ∀ o, (s.step (.item e)).Scheduled o ↔
      (o ∈ s.view.changedItems ∨ (o = e.ref ∧ e.emitsChanged = true ∧
        e.ref ∈ s.view.changedHandlers ∧ (e.heap s.heap).ready e.ref = true)) ∧
      (s.view.refreshTimeoutId || (e.emitsChanged && decide (e.ref ∈ s.view.changedHandlers) &&
        (e.heap s.heap).ready e.ref)) = true := by
    intro o
    rw [← SwItemView.mem_changedItems_onItemEvent, ← SwItemView.refreshTimeoutId_onItemEvent]
    rfl
  refine ⟨?_, ?_, ?_⟩
  · exact fun o ho => (hsched o).2 ⟨Or.inl ho.1, by rw [ho.2, Bool.true_or]⟩
  · exact fun he hh hr => (hsched e.ref).2 ⟨Or.inr ⟨rfl, he, hh, hr⟩, by simp [he, hh, hr]⟩
  · intro hh o ho
    simpa [hh, Scheduled] using (hsched o).1 ho

theorem heardOk_of_fresh_item (hs : CoherentInv s) {e : ItemEvent}
    (hfresh : Fresh (s.step (.item e))) : HeardOk s (.item e) := by
  intro hcur hshown hne
  obtain ⟨hc, -, -, -, he⟩ := SwItemView.onItemEvent_frame s.heap e s.view
  obtain ⟨d, hd⟩ := Option.isSome_iff_exists.1 hshown
  obtain ⟨o, ho, hval⟩ := hfresh e.ref.uid d ((SwItemView.shown_congr he _).trans hd)
  obtain ⟨o', ho', hold⟩ := hs.fresh e.ref.uid d hd
  have hfind := KeySet.mem_iff_find.1 hcur
  obtain rfl : e.ref = o' := Option.some.inj (hfind.symm.trans ho')
  obtain rfl : e.ref = o := Option.some.inj (hfind.symm.trans (hc ▸ ho))
  by_cases hsched : s.Scheduled e.ref
  · exact Or.inr hsched
  · left
    have hnow : d = s.heap.toValueArray e.ref := hold.resolve_right hsched
    rcases hval with hval | hafter
    · exact absurd (hval.symm.trans hnow) hne
    · by_contra hhandler
      exact hsched ((scheduled_item s e).2.2 hhandler _ hafter)

theorem fresh_item (hs : CoherentInv s) {e : ItemEvent} (hok : MirrorOk s (.item e))
    (hheard : HeardOk s (.item e)) : Fresh (s.step (.item e)) := by
  obtain ⟨hc, -, -, -, he⟩ := SwItemView.onItemEvent_frame s.heap e s.view
  obtain ⟨hkept, hqueue, -⟩ := scheduled_item s e
  have hmirror := mirrorInv_step hs.mirror (.item e) hok
  intro u d hd
  have hbefore : s.view.shown u = some d := (SwItemView.shown_congr he u).symm.trans hd
  obtain ⟨o, ho, hval⟩ := hs.fresh u d hbefore
  have hcur' : (s.step (.item e)).view.currentItemsSet.find u = some o := by
    show (s.view.onItemEvent s.heap e).currentItemsSet.find u = some o
    rw [hc]
    exact ho
  refine ⟨o, hcur', ?_⟩
  by_cases hsame : (e.heap s.heap).toValueArray o = s.heap.toValueArray o
  · exact hval.imp (fun hval => hval.trans hsame.symm) (hkept o)
  · right
    obtain rfl : o = e.ref := by
      by_contra hne
      exact hsame (toValueArray_of_ne hne)
    obtain ⟨hcur, rfl⟩ := KeySet.find_some ho
    have hemits : e.emitsChanged = true := by
      by_contra hno
      exact hsame (toValueArray_of_not_emitsChanged _ (by simpa using hno))
    rcases hheard hcur (by rw [hbefore]; rfl) hsame with hhandler | hsched
    · -- The item is still ready, so its change is queued.
      have hafter : (s.step (.item e)).view.announced e.ref.uid = true :=
        SwItemView.shown_isSome.1 (by rw [hd]; rfl)
      obtain ⟨-, hw⟩ := (hmirror.synced e.ref.uid).announced.1 hafter
      exact hqueue hemits hhandler ((hmirror.synced e.ref.uid).ready e.ref hcur' hw)
    · exact hkept _ hsched

/-- **A step keeps the client's table coherent exactly when it is allowed.** -/
theorem fresh_step_iff (hs : CoherentInv s) (e : Event) (hmirror : MirrorOk s e) :
    Fresh (s.step e) ↔ HeardOk s e := by
  cases e with
  | addFromSet order set => exact iff_of_true (fresh_addFromSet hs hmirror) trivial
  | setFromSet order set => exact iff_of_true (fresh_setFromSet hs hmirror) trivial
  | pendingTimeout order => exact iff_of_true (fresh_pendingTimeout hs order) trivial
  | refreshTimeout => exact iff_of_true (fresh_refreshTimeout hs) trivial
  | item e => exact ⟨heardOk_of_fresh_item hs, fresh_item hs hmirror⟩
  | removeFromSet order set =>
    refine iff_of_true (fresh_drop hs (step_heap s _)
      (refreshQueue_step s (by simp) (by simp)) fun u => ?_) trivial
    dsimp only [Event.onSlot, Event.onShown]
    split_ifs <;> simp
  | removeByUid uid =>
    refine iff_of_true (fresh_drop hs (step_heap s _)
      (refreshQueue_step s (by simp) (by simp)) fun u => ?_) trivial
    dsimp only [Event.onSlot, Event.onShown]
    split_ifs <;> simp

/-! ## Runs -/

theorem coherentInv_step (hs : CoherentInv s) (e : Event) (hok : CoherentOk s e) :
    CoherentInv (s.step e) where
  mirror := mirrorInv_step hs.mirror e hok.mirror
  residue := ⟨indexed_step hs.residue.indexed e,
    noResidue_iff_clean.1 ((noResidue_step hs.residue e).2 hok.residue)⟩
  fresh := (fresh_step_iff hs e hok.mirror).2 hok.heard

theorem coherentOk_of_coherent (hs : CoherentInv s) (e : Event) (h : Coherent (s.step e)) :
    CoherentOk s e := by
  have hmirror := mirrorOk_of_mirrors hs.mirror e h.mirrors
  exact ⟨hmirror, (noResidue_step hs.residue e).1 h.noResidue,
    (fresh_step_iff hs e hmirror).1 h.fresh⟩

/-- **The client's table is coherent along a run exactly when every step is allowed.** -/
theorem coherent_iff (h : Heap) (es : List Event) :
    EveryState step Coherent (Sys.start h) es ↔ EveryStep step CoherentOk (Sys.start h) es :=
  everyState_iff_everyStep (fun _ => CoherentInv.coherent)
    (fun _ e hs => coherentInv_step hs e) (fun _ e hs => coherentOk_of_coherent hs e)
    (coherentInv_start h)

/-- A run that loses no wake-up hears of every change. -/
theorem heardOk_of_wakeUp (hs : WakeUp s) (e : Event) : HeardOk s e := by
  cases e with
  | item e => exact fun hcur _ _ => Or.inl (hs.1 e.ref hcur).1
  | _ => trivial

/-- The client's table is the table of the ready current items with their present data. -/
def UpToDate (s : Sys) : Prop :=
  ∀ u, (SwClientItemView.init.deliverAll s.view.emitted).uuidToItems.lookup u =
    ((s.view.currentItemsSet.find u).filter fun o =>
      s.heap.ready o && !s.view.pendingItemsSet.has o).map s.heap.toValueArray

theorem CoherentInv.upToDate_refreshed (hs : CoherentInv s) :
    UpToDate (s.step .refreshTimeout) := by
  have hs' : CoherentInv (s.step .refreshTimeout) :=
    coherentInv_step hs .refreshTimeout ⟨trivial, trivial, trivial⟩
  intro u
  show (s.step .refreshTimeout).view.shown u = _
  cases hd : (s.step .refreshTimeout).view.shown u with
  | some d =>
    obtain ⟨o, ho, hval⟩ := hs.shown_refreshed hd
    obtain ⟨o', ho', hr, hw⟩ := hs'.of_shown hd
    have hcur : (s.step .refreshTimeout).view.currentItemsSet.find u = some o' := ho'
    have hsame : s.view.currentItemsSet.find u = some o' :=
      (refreshTimeout_frame s).1 ▸ hcur
    obtain rfl : o = o' := Option.some.inj (ho.symm.trans hsame)
    obtain rfl := SwItemView.current_uid ho'
    rw [hcur, Option.filter_some, if_pos (by simp [hr, SwItemView.not_pending_has.2 hw]),
      Option.map_some, hval, step_heap]
  | none =>
    symm
    rw [Option.map_eq_none_iff, Option.filter_eq_none_iff]
    intro o ho hand
    obtain rfl := (KeySet.find_some ho).2
    rw [Bool.and_eq_true, Bool.not_eq_true'] at hand
    have hmem := (hs'.mirror.mirrors o.uid).2
      ⟨o, (KeySet.find_some ho).1, rfl, hand.1, hand.2⟩
    rw [← AList.lookup_isSome] at hmem
    exact absurd (hd ▸ hmem : (none : Option ItemStruct).isSome = true) (by simp)

/-- **In every state of such a run, the refresh timer brings the client up to date.** -/
theorem upToDate_of_coherentOk (h : Heap) (es : List Event)
    (hok : EveryStep step CoherentOk (Sys.start h) es) :
    EveryState step (fun s => UpToDate (s.step .refreshTimeout)) (Sys.start h) es := by
  have hinv : EveryState step CoherentInv (Sys.start h) es :=
    everyState_of_everyStep (fun _ e hs => coherentInv_step hs e) (coherentInv_start h) hok
  exact hinv.mono fun _ hs => hs.upToDate_refreshed

/-- An item is shown and then gets a title. -/
def retitled : List Event :=
  let item : ItemRef := ⟨1, "1"⟩
  [.setFromSet (.stored _) (KeySet.empty.add item), .item (.setTitle item "t")]

theorem coherentOk_retitled :
    EveryStep step CoherentOk (Sys.start (Heap.plain ⟨0, "flickr"⟩)) retitled := by
  refine ⟨⟨?_, ?_, trivial⟩, ⟨trivial, ?_, ?_⟩, trivial⟩
  · exact fun o _ => (rfl : (none : Option ItemRef) = none)
  · intro p hp
    exact hp.elim (fun h => by cases h) (fun h => by cases h)
  · exact fun _ _ _ => by decide
  · exact fun _ _ _ => Or.inl (by decide)

/-- The refresh timer then brings the title to the client. -/
theorem retitled_upToDate :
    UpToDate ((runFrom step (Sys.start (Heap.plain ⟨0, "flickr"⟩)) retitled).step
      .refreshTimeout) :=
  (upToDate_of_coherentOk (Heap.plain ⟨0, "flickr"⟩) retitled coherentOk_retitled).last

end Sys

end LibSocialWeb
