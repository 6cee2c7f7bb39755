import LibSocialWeb.ItemView.Wiring

/-!
# Lost wake-ups

A current item should be wired: its `changed` handler is connected, and while it is not ready it is
pending with its `notify::ready` handler connected. And a ready item that is pending should have
the pending timer armed.

`sw_item_view_add_items` sets this up for the items it adds. `sw_item_view_update_existing` does
not for the items it puts in, and an item that becomes unready after it was announced is not put
back. `WakeUpOk` lists the steps that keep everything wired.

**Main result.** `wakeUp_iff`: along a run every state is wired exactly when every step is
`WakeUpOk`.
-/

namespace LibSocialWeb

open Transition

namespace Sys

/-- What a current item needs so that the view hears of it. -/
def Wired (s : Sys) (o : ItemRef) : Prop :=
  o ∈ s.view.changedHandlers ∧
    (s.heap.ready o = false → o ∈ s.view.pendingItemsSet ∧ o ∈ s.view.readyHandlers)

/-- Every current item is wired, and the pending timer is armed whenever it has work. -/
def WakeUp (s : Sys) : Prop :=
  (∀ o ∈ s.view.currentItemsSet, s.Wired o) ∧
    ((∃ p ∈ s.view.pendingItemsSet, s.heap.ready p = true) → s.view.pendingTimeoutId = true)

/-- The steps that lose no wake-up: a replacement is wired already, an item that stops being ready
is wired, and an item that becomes ready while it is pending finds the timer armed or arms it. -/
def WakeUpOk (s : Sys) : Event → Prop
  | .setFromSet _ set => ∀ o ∈ set, ∀ old, s.view.currentItemsSet.find o.uid = some old →
      s.heap.equal o old = false → s.Wired o
  | .item e =>
      (e.ref ∈ s.view.currentItemsSet → s.heap.ready e.ref = true →
        (e.heap s.heap).ready e.ref = false →
          e.ref ∈ s.view.pendingItemsSet ∧ e.ref ∈ s.view.readyHandlers) ∧
      (e.ref ∈ s.view.pendingItemsSet → s.heap.ready e.ref = false →
        (e.heap s.heap).ready e.ref = true → s.view.pendingTimeoutId = true ∨
          (e.notifiesReady s.heap = true ∧ e.ref ∈ s.view.readyHandlers))
  | _ => True

structure WakeUpInv (s : Sys) : Prop where
  indexed : s.view.Indexed
  wakeUp : WakeUp s

theorem wakeUpInv_start (h : Heap) : WakeUpInv (Sys.start h) where
  indexed := SwItemView.indexed_init
  wakeUp := by simp [WakeUp, start, SwItemView.init, KeySet.mem_def, KeySet.empty]

/-! ## One id at a time -/

/-- `WakeUp`, as far as the objects of the id `u` go. -/
structure WakesAt (s : Sys) (u : String) : Prop where
  wired : ∀ o, (s.view.slot u).current = some o → s.Wired o
  timer : ∀ p, (s.view.slot u).waiting = some p → s.heap.ready p = true →
    s.view.pendingTimeoutId = true

theorem wakeUp_iff_at {s : Sys} : WakeUp s ↔ ∀ u, s.WakesAt u := by
  refine ⟨?_, ?_⟩
  · intro hand u
    rcases hand with ⟨hw, ht⟩
    refine ⟨fun o ho => hw o ?_, fun p hp hr => ht ⟨p, ?_, hr⟩⟩
    · exact SwItemView.mem_current.2 ((SwItemView.current_uid ho).symm ▸ ho)
    · exact SwItemView.mem_waiting.2 ((SwItemView.waiting_uid hp).symm ▸ hp)
  · intro h
    refine ⟨fun o ho => (h o.uid).wired o (SwItemView.mem_current.1 ho), ?_⟩
    intro hex
    rcases hex with ⟨p, hp, hr⟩
    exact (h p.uid).timer p (SwItemView.mem_waiting.1 hp) hr

/-- `t` comes from `s` by a step that drops no connection, keeps the heap and the pending timer. -/
structure Grows (s t : Sys) : Prop where
  heap : t.heap = s.heap
  ready : ∀ o ∈ s.view.readyHandlers, o ∈ t.view.readyHandlers
  changed : ∀ o ∈ s.view.changedHandlers, o ∈ t.view.changedHandlers
  timer : t.view.pendingTimeoutId = s.view.pendingTimeoutId

variable {s t : Sys} {u : String}

/-- A wired object stays wired while the same object waits. -/
theorem Wired.mono {o : ItemRef} (hg : Grows s t)
    (hwait : (t.view.slot o.uid).waiting = (s.view.slot o.uid).waiting) (ho : s.Wired o) :
    t.Wired o := by
  refine ⟨hg.changed o ho.1, fun hr => ?_⟩
  rw [hg.heap] at hr
  obtain ⟨hp, hh⟩ := ho.2 hr
  refine ⟨SwItemView.mem_waiting.2 ?_, hg.ready o hh⟩
  rw [hwait]
  exact SwItemView.mem_waiting.1 hp

/-- Nothing is lost at an id whose current object was wired before. -/
theorem WakesAt.mono (hs : s.WakesAt u) (hg : Grows s t)
    (hcur : ∀ o, (t.view.slot u).current = some o → s.Wired o)
    (hwait : (t.view.slot u).waiting = (s.view.slot u).waiting) : t.WakesAt u := by
  refine ⟨fun o ho => ?_, fun p hp hr => ?_⟩
  · obtain rfl := SwItemView.current_uid ho
    exact (hcur o ho).mono hg hwait
  · rw [hg.timer]
    exact hs.timer p (hwait ▸ hp) (hg.heap ▸ hr)

/-- Nothing is lost at an id where an object is added with its handlers. -/
theorem WakesAt.add (hs : s.WakesAt u) (hg : Grows s t) {new : Option ItemRef}
    (hadd : t.view.slot u = (s.view.slot u).add s.heap.ready new)
    (hchanged : ∀ o ∈ new, o ∈ t.view.changedHandlers)
    (hready : ∀ o ∈ new, s.heap.ready o = false → o ∈ t.view.readyHandlers) : t.WakesAt u := by
  cases new with
  | none =>
    have hsame : t.view.slot u = s.view.slot u := hadd
    exact hs.mono hg (fun o ho => hs.wired o (hsame ▸ ho)) (by rw [hsame])
  | some o =>
    have hcur : (t.view.slot u).current = some o := by
      rw [hadd, Slot.add]
      split_ifs <;> rfl
    by_cases hr : s.heap.ready o = true
    · have hwait : (t.view.slot u).waiting = (s.view.slot u).waiting := by
        simp [hadd, Slot.add, hr]
      refine ⟨fun x hx => ?_, fun p hp hpr => ?_⟩
      · obtain rfl : o = x := by simpa [hcur] using hx
        exact ⟨hchanged o rfl, fun hn => absurd hr (by simp [← hg.heap, hn])⟩
      · rw [hg.timer]
        exact hs.timer p (hwait ▸ hp) (hg.heap ▸ hpr)
    · have hwait : (t.view.slot u).waiting = some o := by simp [hadd, Slot.add, hr]
      refine ⟨fun x hx => ?_, fun p hp hpr => ?_⟩
      · obtain rfl : o = x := by simpa [hcur] using hx
        obtain rfl := SwItemView.current_uid hcur
        exact ⟨hchanged o rfl, fun _ => ⟨SwItemView.mem_waiting.2 hwait,
          hready o rfl (by simpa using hr)⟩⟩
      · obtain rfl : o = p := by simpa [hwait] using hp
        exact absurd (hg.heap ▸ hpr) hr

/-! ## One lemma for each kind of step -/

theorem wakeUp_addFromSet (hs : ∀ u, s.WakesAt u) (order : KeyOrder ItemRef) (set : ItemSet)
    (u : String) : (s.step (.addFromSet order set)).WakesAt u := by
  have hg : Grows s (s.step (.addFromSet order set)) := by
    refine ⟨rfl, fun o ho => ?_, fun o ho => ?_, ?_⟩
    · exact (SwItemView.mem_readyHandlers_addFromSet s.heap order).2 (Or.inr ho)
    · exact (SwItemView.mem_changedHandlers_addFromSet s.heap order).2 (Or.inr ho)
    · exact SwItemView.pendingTimeoutId_of_deferred (SwItemView.deferred_addFromSet s.heap order)
  apply (hs u).add hg (SwItemView.slot_addFromSet s.heap order set.nodup s.view u)
  · intro o ho
    have hmem : o ∈ set := (KeySet.findKey_some ho).1
    exact (SwItemView.mem_changedHandlers_addFromSet s.heap order).2 (Or.inl hmem)
  · intro o ho hr
    have hmem : o ∈ set := (KeySet.findKey_some ho).1
    exact (SwItemView.mem_readyHandlers_addFromSet s.heap order).2 (Or.inl ⟨hmem, hr⟩)

theorem grows_setFromSet (s : Sys) (order : KeyOrder ItemRef) (set : ItemSet) :
    Grows s (s.step (.setFromSet order set)) := by
  refine ⟨rfl, fun o ho => ?_, fun o ho => ?_, ?_⟩
  · exact (SwItemView.mem_handlers_setFromSet s.heap order set s.view).2.2 (Or.inr ho)
  · exact (SwItemView.mem_handlers_setFromSet s.heap order set s.view).1.2 (Or.inr ho)
  · exact SwItemView.pendingTimeoutId_of_deferred
      (SwItemView.deferred_setFromSet s.heap order set s.view)

/-- The items that `sw_item_view_set_from_set` puts in place of others must be wired already. -/
theorem wakeUp_setFromSet (hx : s.view.Indexed) (hs : ∀ u, s.WakesAt u) (order : KeyOrder ItemRef)
    (set : ItemSet) : (∀ u, (s.step (.setFromSet order set)).WakesAt u) ↔
      WakeUpOk s (.setFromSet order set) := by
  have hg := grows_setFromSet s order set
  have hslot := slot_step hx (.setFromSet order set)
  simp only [Event.onSlot] at hslot
  refine ⟨?_, ?_⟩
  · intro h o ho old hold hne
    have hcur : (s.view.slot o.uid).current = some old := hold
    have hset : (s.step (.setFromSet order set)).view.slot o.uid =
        { s.view.slot o.uid with current := some o } := by
      simp [hslot, Slot.set, hcur, KeySet.mem_iff_find.1 ho, hne]
    -- A replacement gains no handler, so what it has now it had before.
    have hw := (h o.uid).wired o (by rw [hset])
    refine ⟨?_, fun hr => ?_⟩
    · rcases (SwItemView.mem_handlers_setFromSet s.heap order set s.view).1.1 hw.1 with hn | hc
      · simp [hold] at hn
      · exact hc
    · obtain ⟨hp, hh⟩ := hw.2 hr
      rw [SwItemView.mem_waiting, hset] at hp
      refine ⟨SwItemView.mem_waiting.2 hp, ?_⟩
      rcases (SwItemView.mem_handlers_setFromSet s.heap order set s.view).2.1 hh with hn | hc
      · simp [hold] at hn
      · exact hc
  · intro hok u
    have hu := hslot u
    cases hc : (s.view.slot u).current with
    | none =>
      rw [Slot.set_of_none hc] at hu
      apply (hs u).add hg hu
      · intro o ho
        obtain ⟨hmem, rfl⟩ := KeySet.find_some ho
        exact (SwItemView.mem_handlers_setFromSet s.heap order set s.view).1.2
          (Or.inl ⟨hmem, hc⟩)
      · intro o ho hr
        obtain ⟨hmem, rfl⟩ := KeySet.find_some ho
        exact (SwItemView.mem_handlers_setFromSet s.heap order set s.view).2.2
          (Or.inl ⟨⟨hmem, hc⟩, hr⟩)
    | some old =>
      refine (hs u).mono hg (fun o ho => ?_) ?_
      · cases hf : set.find u with
        | none => simp [hu, Slot.set, hc, hf, Slot.drop] at ho
        | some x =>
          obtain ⟨hmem, rfl⟩ := KeySet.find_some hf
          by_cases he : s.heap.equal x old = true
          · simp [hu, Slot.set, hc, hf, he] at ho
            exact (hs x.uid).wired o (hc.trans (congrArg some ho))
          · simp [hu, Slot.set, hc, hf, he] at ho
            exact ho ▸ hok x hmem old hc (by simpa using he)
      · rw [hu]
        cases set.find u with
        | none => simp [Slot.set, hc, Slot.drop]
        | some x => by_cases he : s.heap.equal x old = true <;> simp [Slot.set, hc, he]

/-- Nothing is lost when objects leave the current set and all else stays. -/
theorem wakeUp_drop (hx : s.view.Indexed) (hs : ∀ u, s.WakesAt u) {e : Event}
    (hg : Grows s (s.step e))
    (hslot : ∀ u, e.onSlot s u (s.view.slot u) = s.view.slot u ∨
      e.onSlot s u (s.view.slot u) = (s.view.slot u).drop) (u : String) : (s.step e).WakesAt u := by
  have hu := slot_step hx e u
  rcases hslot u with h | h
  · rw [h] at hu
    exact (hs u).mono hg (fun o ho => (hs u).wired o (hu ▸ ho)) (by rw [hu])
  · rw [h] at hu
    exact (hs u).mono hg (fun o ho => by simp [hu, Slot.drop] at ho) (by rw [hu]; rfl)

/-- The flush leaves no ready item pending. -/
theorem wakeUp_pendingTimeout (hx : s.view.Indexed) (hs : ∀ u, s.WakesAt u)
    (order : KeyOrder ItemRef) (u : String) : (s.step (.pendingTimeout order)).WakesAt u := by
  have hu := slot_step hx (.pendingTimeout order) u
  rw [Event.onSlot] at hu
  by_cases ht : s.view.pendingTimeoutId = true
  · rw [if_pos ht] at hu
    have hstep : s.step (.pendingTimeout order) =
        { s with view := s.view.handleReadyPendingCb s.heap order } := if_pos ht
    have hready : (s.step (.pendingTimeout order)).view.readyHandlers = s.view.readyHandlers :=
      (pendingTimeout_frame s order).2.2
    have hchanged : ∀ o ∈ s.view.changedHandlers,
        o ∈ (s.step (.pendingTimeout order)).view.changedHandlers := by
      intro o ho
      rw [hstep, SwItemView.handleReadyPendingCb_eq]
      exact List.mem_append_right _ ho
    have hheap : (s.step (.pendingTimeout order)).heap = s.heap := by rw [hstep]
    have hcur : ((s.step (.pendingTimeout order)).view.slot u).current =
        (s.view.slot u).current := by
      rw [hu, Slot.current_flush]
    have hwait : ∀ p, ((s.step (.pendingTimeout order)).view.slot u).waiting = some p ↔
        (s.view.slot u).waiting = some p ∧ s.heap.ready p = false := by
      intro p
      rw [hu, Slot.waiting_flush]
    refine ⟨fun o ho => ?_, fun p hp hr => ?_⟩
    · obtain rfl := SwItemView.current_uid ho
      have hw := (hs o.uid).wired o (hcur ▸ ho)
      refine ⟨hchanged o hw.1, fun hr => ?_⟩
      rw [hheap] at hr
      obtain ⟨hp, hh⟩ := hw.2 hr
      exact ⟨SwItemView.mem_waiting.2 ((hwait o).2 ⟨SwItemView.mem_waiting.1 hp, hr⟩), hready ▸ hh⟩
    · rw [hheap, ((hwait p).1 hp).2] at hr
      cases hr
  · have hstep : s.step (.pendingTimeout order) = s := if_neg ht
    rw [hstep]
    exact hs u

/-- An item event must not make a wired item unready or a pending one ready unnoticed. -/
theorem wakeUp_item (hs : WakeUp s) (e : ItemEvent) :
    WakeUp (s.step (.item e)) ↔ WakeUpOk s (.item e) := by
  obtain ⟨hc, hp, -, hch, -⟩ := SwItemView.onItemEvent_frame s.heap e s.view
  have hwired : ∀ o, (s.step (.item e)).Wired o ↔ o ∈ s.view.changedHandlers ∧
      ((e.heap s.heap).ready o = false →
        o ∈ s.view.pendingItemsSet ∧ o ∈ s.view.readyHandlers) := by
    intro o
    show (o ∈ (s.view.onItemEvent s.heap e).changedHandlers ∧ ((e.heap s.heap).ready o = false →
      o ∈ (s.view.onItemEvent s.heap e).pendingItemsSet ∧
        o ∈ (s.view.onItemEvent s.heap e).readyHandlers)) ↔ _
    rw [hch, hp]
    refine and_congr_right fun _ => forall_congr' fun hr => ?_
    rw [SwItemView.mem_readyHandlers_onItemEvent s.heap e s.view hr]
  have htimer := SwItemView.pendingTimeoutId_onItemEvent s.heap e s.view
  show (∀ o ∈ (s.view.onItemEvent s.heap e).currentItemsSet, (s.step (.item e)).Wired o) ∧
    ((∃ p ∈ (s.view.onItemEvent s.heap e).pendingItemsSet, (e.heap s.heap).ready p = true) →
      (s.view.onItemEvent s.heap e).pendingTimeoutId = true) ↔ _
  simp only [hc, hp, hwired, htimer, Bool.or_eq_true, Bool.and_eq_true, decide_eq_true_eq]
  refine ⟨?_, ?_⟩
  · intro hand
    rcases hand with ⟨hw, ht⟩
    refine ⟨fun hcur _ hr => (hw e.ref hcur).2 hr, fun hpend _ hr => ?_⟩
    exact (ht ⟨e.ref, hpend, hr⟩).imp_right And.left
  · intro hand
    rcases hand with ⟨hun, hre⟩
    refine ⟨fun o ho => ⟨(hs.1 o ho).1, fun hr => ?_⟩, ?_⟩
    · by_cases hn : s.heap.ready o = false
      · exact (hs.1 o ho).2 hn
      · obtain rfl : o = e.ref := by
          by_contra hne
          exact hn (by rwa [ItemEvent.ready_of_ne hne] at hr)
        exact hun ho (by simpa using hn) hr
    · intro hex
      rcases hex with ⟨p, hpend, hr⟩
      by_cases hn : s.heap.ready p = true
      · exact Or.inl (hs.2 ⟨p, hpend, hn⟩)
      · obtain rfl : p = e.ref := by
          by_contra hne
          exact hn (by rwa [ItemEvent.ready_of_ne hne] at hr)
        exact (hre hpend (by simpa using hn) hr).imp_right fun h => ⟨h, hr⟩

/-- **A step loses no wake-up exactly when it is allowed.** -/
theorem wakeUp_step (hs : WakeUpInv s) (e : Event) : WakeUp (s.step e) ↔ WakeUpOk s e := by
  have hat := wakeUp_iff_at.1 hs.wakeUp
  cases e with
  | addFromSet order set =>
    exact iff_of_true (wakeUp_iff_at.2 (wakeUp_addFromSet hat order set)) trivial
  | setFromSet order set => rw [wakeUp_iff_at, wakeUp_setFromSet hs.indexed hat]
  | item e => exact wakeUp_item hs.wakeUp e
  | removeFromSet order set =>
    refine iff_of_true (wakeUp_iff_at.2 (wakeUp_drop hs.indexed hat
      ⟨rfl, fun _ ho => ho, fun _ ho => ho, rfl⟩ fun u => ?_)) trivial
    dsimp only [Event.onSlot]
    split_ifs <;> simp
  | removeByUid uid =>
    have hhandlers := SwItemView.handlers_removeByUid s.heap uid s.view
    have hg : Grows s (s.step (.removeByUid uid)) := by
      refine ⟨rfl, fun o ho => ?_, fun o ho => ?_, ?_⟩
      · exact (SwItemView.readyHandlers_of_handlers hhandlers).symm ▸ ho
      · exact (SwItemView.changedHandlers_of_handlers hhandlers).symm ▸ ho
      · exact SwItemView.pendingTimeoutId_of_deferred
          (SwItemView.deferred_removeByUid s.heap uid s.view)
    refine iff_of_true (wakeUp_iff_at.2 (wakeUp_drop hs.indexed hat hg fun u => ?_)) trivial
    dsimp only [Event.onSlot]
    split_ifs <;> simp
  | pendingTimeout order =>
    exact iff_of_true (wakeUp_iff_at.2 (wakeUp_pendingTimeout hs.indexed hat order)) trivial
  | refreshTimeout =>
    obtain ⟨-, -, hready, hchanged, htimer⟩ := refreshTimeout_frame s
    have hg : Grows s (s.step .refreshTimeout) :=
      ⟨step_heap s .refreshTimeout, fun _ ho => hready ▸ ho, fun _ ho => hchanged ▸ ho, htimer⟩
    exact iff_of_true (wakeUp_iff_at.2 (wakeUp_drop hs.indexed hat hg fun u => Or.inl rfl)) trivial

/-- **Every state of a run is wired exactly when every step is allowed.** -/
theorem wakeUp_iff (h : Heap) (es : List Event) :
    EveryState step WakeUp (Sys.start h) es ↔ EveryStep step WakeUpOk (Sys.start h) es :=
  everyState_iff_everyStep (fun _ (hs : WakeUpInv _) => hs.wakeUp)
    (fun _ e hs hok => ⟨indexed_step hs.indexed e, (wakeUp_step hs e).2 hok⟩)
    (fun _ e hs h => (wakeUp_step hs e).1 h) (wakeUpInv_start h)

/-- An item is replaced by another version of it. -/
def replaced : List Event :=
  let newer : ItemRef := ⟨2, "1"⟩
  [.setFromSet (.stored _) (KeySet.empty.add ⟨1, "1"⟩), .item (.setTitle newer "t"),
    .setFromSet (.stored _) (KeySet.empty.add newer)]

/-- The new version has no `changed` handler. -/
theorem replaced_not_wakeUp :
    ¬ ∀ (h : Heap) (es : List Event), EveryState step WakeUp (Sys.start h) es := by
  intro hall
  have hlast := (hall (Heap.plain ⟨0, "flickr"⟩) replaced).last
  exact absurd (hlast.1 ⟨2, "1"⟩ (by decide)).1 (by decide)

end Sys

end LibSocialWeb
