import LibSocialWeb.ItemStream.Stream
import LibSocialWeb.ItemView.Wiring

/-!
# A stream announces every item exactly once

The system is the heap, one stream and the list of the items handed to it. The service hands every
item over once, under an id of its own, and starts no fetch for an item that it has handed over; a
fetch is completed only if it was started.

An item that was handed over is announced, or waits to become ready with the handler connected, or
is ready and waits for the timer. `Tracked` says so, together with what makes it inductive: what
waits was handed over and has not been announced.

**Main result.** `announcedOnce`: in every state of every run, no id was announced twice, every
announced item is ready, and every item is in one of the three places.
-/

namespace LibSocialWeb

structure StreamSys where
  heap : Heap
  stream : SwItemStream
  added : List ItemRef

/-- The stream is fresh. -/
def StreamSys.start (h : Heap) : StreamSys := ⟨h, SwItemStream.init, []⟩

inductive StreamEvent where
  | addItem (item : ItemRef)
  | addItems (items : List ItemRef)
  | item (e : ItemEvent)
  | pendingTimeout (order : KeyOrder ItemRef)
  | refreshTimeout

/-- The ids of the `ItemsAdded` entries of a signal. -/
def Signal.addedIds : Signal → List String
  | itemsAdded items => items.map ItemStruct.uuid
  | itemsChanged _ => []
  | itemsRemoved _ => []

/-- The ids of all `ItemsAdded` entries, one for each entry. -/
def SwItemStream.announcedIds (s : SwItemStream) : List String := s.emitted.flatMap Signal.addedIds

namespace StreamSys

def step (s : StreamSys) : StreamEvent → StreamSys
  | .addItem item =>
    { s with stream := s.stream.addItem s.heap item, added := s.added ++ [item] }
  | .addItems items =>
    { s with stream := s.stream.addItems s.heap items, added := s.added ++ items }
  | .item e => { s with heap := e.heap s.heap, stream := s.stream.onItemEvent s.heap e }
  | .pendingTimeout order =>
    if s.stream.pendingTimeoutId then
      { s with stream := s.stream.handleReadyPendingCb s.heap order }
    else s
  | .refreshTimeout =>
    if s.stream.refreshTimeoutId then
      { s with stream := s.stream.itemChangedTimeoutCb s.heap }
    else s

/-- The items are handed over for the first time, under ids that no other item has. -/
def FirstAdded (s : StreamSys) (items : List ItemRef) : Prop :=
  ((s.added ++ items).map ItemRef.uid).Nodup

instance (s : StreamSys) (items : List ItemRef) : Decidable (s.FirstAdded items) :=
  inferInstanceAs (Decidable (List.Nodup _))

/-- What the service does to its items: every fetch is started before the item is added, and
completed at most once. -/
def Allowed (s : StreamSys) : StreamEvent → Prop
  | .addItem item => s.FirstAdded [item]
  | .addItems items => s.FirstAdded items
  | .item (.pushPending o) => o ∉ s.added
  | .item (.popPending o) => 0 < (s.heap.item o).remainingFetches
  | .item (.put _ _ _ _) => True
  | .item (.touch _) => True
  | .pendingTimeout _ => True
  | .refreshTimeout => True

/-- Where an item is that was handed over. -/
inductive Place (s : StreamSys) (o : ItemRef) : Prop where
  | announced (h : o.uid ∈ s.stream.announcedIds)
  | waiting (hready : s.heap.ready o = false) (hpending : o ∈ s.stream.pendingItemsSet)
      (hhandler : o ∈ s.stream.readyHandlers)
  | queued (hready : s.heap.ready o = true) (hpending : o ∈ s.stream.pendingItemsSet)
      (htimer : s.stream.pendingTimeoutId = true)

/-- Every item is announced once, when it is ready, and none is lost. -/
structure AnnouncedOnce (s : StreamSys) : Prop where
  once : s.stream.announcedIds.Nodup
  ready : ∀ o ∈ s.added, o.uid ∈ s.stream.announcedIds → s.heap.ready o = true
  handedOver : ∀ u ∈ s.stream.announcedIds, ∃ o ∈ s.added, o.uid = u
  place : ∀ o ∈ s.added, Place s o
  flushed : ∀ o ∈ s.added, s.heap.ready o = true → ∀ order,
    o.uid ∈ (s.step (.pendingTimeout order)).stream.announcedIds

/-- What every state of a run satisfies. -/
structure Tracked (s : StreamSys) : Prop where
  distinct : (s.added.map ItemRef.uid).Nodup
  once : s.stream.announcedIds.Nodup
  ready : ∀ o ∈ s.added, o.uid ∈ s.stream.announcedIds → s.heap.ready o = true
  handedOver : ∀ u ∈ s.stream.announcedIds, ∃ o ∈ s.added, o.uid = u
  pending : ∀ o ∈ s.stream.pendingItemsSet, o ∈ s.added ∧ o.uid ∉ s.stream.announcedIds
  place : ∀ o ∈ s.added, Place s o

theorem tracked_start (h : Heap) : Tracked (start h) where
  distinct := List.nodup_nil
  once := List.nodup_nil
  ready _ ho := absurd ho List.not_mem_nil
  handedOver _ hu := absurd hu List.not_mem_nil
  pending _ ho := absurd ho List.not_mem_nil
  place _ ho := absurd ho List.not_mem_nil

/-- Two items that were handed over under one id are the same item. -/
theorem Tracked.eq_of_uid {s : StreamSys} (hs : Tracked s) {a b : ItemRef} (ha : a ∈ s.added)
    (hb : b ∈ s.added) (h : a.uid = b.uid) : a = b :=
  List.inj_on_of_nodup_map hs.distinct ha hb h

/-! ## Signals -/

/-- The ids that a list of items adds to the announced ones. -/
theorem announcedIds_append {stream : SwItemStream} {emitted : List Signal} {h : Heap}
    {items : List ItemRef}
    (he : stream.emitted = emitted ++ [.itemsAdded (items.map h.toValueArray)]) :
    stream.announcedIds = emitted.flatMap Signal.addedIds ++ items.map ItemRef.uid := by
  rw [SwItemStream.announcedIds, he, List.flatMap_append, List.flatMap_singleton]
  congr 1
  rw [Signal.addedIds, List.map_map]
  rfl

theorem announcedIds_itemChangedTimeoutCb (h : Heap) (stream : SwItemStream) :
    (stream.itemChangedTimeoutCb h).announcedIds = stream.announcedIds := by
  dsimp only [SwItemStream.itemChangedTimeoutCb, SwItemStream.updateItems]
  split_ifs
  · show (stream.emitted ++ [_]).flatMap Signal.addedIds = _
    rw [List.flatMap_append, List.flatMap_singleton, Signal.addedIds, List.append_nil]
    rfl
  · rfl

/-! ## Adding items -/

section Adding

variable {s : StreamSys} {items : List ItemRef}

theorem FirstAdded.nodup (hfirst : s.FirstAdded items) : (items.map ItemRef.uid).Nodup := by
  have hnodup : (s.added.map ItemRef.uid ++ items.map ItemRef.uid).Nodup := by
    rw [← List.map_append]
    exact hfirst
  exact (List.nodup_append.1 hnodup).2.1

/-- A new item has none of the ids that are taken. -/
theorem FirstAdded.uid_ne (hfirst : s.FirstAdded items) {a b : ItemRef} (ha : a ∈ s.added)
    (hb : b ∈ items) : a.uid ≠ b.uid := by
  have hnodup : (s.added.map ItemRef.uid ++ items.map ItemRef.uid).Nodup := by
    rw [← List.map_append]
    exact hfirst
  exact (List.nodup_append.1 hnodup).2.2 _ (List.mem_map_of_mem ha) _ (List.mem_map_of_mem hb)

theorem Tracked.notMem_announcedIds (hs : Tracked s) (hfirst : s.FirstAdded items) {b : ItemRef}
    (hb : b ∈ items) : b.uid ∉ s.stream.announcedIds := by
  intro hu
  obtain ⟨a, ha, heq⟩ := hs.handedOver _ hu
  exact hfirst.uid_ne ha hb heq

theorem announcedIds_addItems (h : Heap) (stream : SwItemStream) (items : List ItemRef) :
    (stream.addItems h items).announcedIds =
      stream.announcedIds ++ (items.filter h.ready).map ItemRef.uid :=
  announcedIds_append (by rw [SwItemStream.addItems_eq])

theorem mem_announcedIds_addItems (h : Heap) (stream : SwItemStream) (items : List ItemRef)
    (u : String) :
    u ∈ (stream.addItems h items).announcedIds ↔
      u ∈ stream.announcedIds ∨ ∃ b ∈ items, h.ready b = true ∧ b.uid = u := by
  rw [announcedIds_addItems, List.mem_append, List.mem_map]
  simp only [List.mem_filter, and_assoc]

theorem mem_readyHandlers_addItems (h : Heap) (stream : SwItemStream) (items : List ItemRef)
    (o : ItemRef) :
    o ∈ (stream.addItems h items).readyHandlers ↔
      o ∈ items ∧ h.ready o = false ∨ o ∈ stream.readyHandlers := by
  rw [SwItemStream.addItems_eq]
  simp

/-- The new items that are not ready are the last ones in the set, which holds none of their ids
before. -/
theorem Tracked.mem_pendingItemsSet_addItems (hs : Tracked s) (hfirst : s.FirstAdded items)
    (o : ItemRef) :
    o ∈ (s.stream.addItems s.heap items).pendingItemsSet ↔
      o ∈ s.stream.pendingItemsSet ∨ o ∈ items ∧ s.heap.ready o = false := by
  have hmembers : (s.stream.addItems s.heap items).pendingItemsSet.members =
      s.stream.pendingItemsSet.members ++ items.filter fun o => !s.heap.ready o := by
    rw [SwItemStream.addItems_eq]
    apply KeySet.members_addAll
    · exact hfirst.nodup.sublist (List.filter_sublist.map _)
    · intro a ha b hb
      exact hfirst.uid_ne (hs.pending b hb).1 (List.mem_filter.1 ha).1
  rw [KeySet.mem_def, hmembers, List.mem_append, List.mem_filter, Bool.not_eq_true']
  rfl

theorem tracked_addItems (hs : Tracked s) (hfirst : s.FirstAdded items) :
    Tracked (s.step (.addItems items)) := by
  have hmem := hs.mem_pendingItemsSet_addItems hfirst
  have hhandlers := mem_readyHandlers_addItems s.heap s.stream items
  have hids := mem_announcedIds_addItems s.heap s.stream items
  have htimer : (s.stream.addItems s.heap items).pendingTimeoutId = s.stream.pendingTimeoutId := by
    rw [SwItemStream.addItems_eq]
  exact {
    distinct := hfirst
    once := by
      show (s.stream.addItems s.heap items).announcedIds.Nodup
      rw [announcedIds_addItems]
      refine List.nodup_append.2 ⟨hs.once, hfirst.nodup.sublist (List.filter_sublist.map _), ?_⟩
      intro u hu u' hu' heq
      obtain ⟨b, hb, rfl⟩ := List.mem_map.1 hu'
      exact hs.notMem_announcedIds hfirst (List.mem_filter.1 hb).1 (heq ▸ hu)
    ready := by
      intro o ho hu
      rcases (hids o.uid).1 hu with hu | ⟨b, hb, hready, heq⟩
      · rcases List.mem_append.1 ho with ho | ho
        · exact hs.ready o ho hu
        · exact absurd hu (hs.notMem_announcedIds hfirst ho)
      · obtain rfl : b = o :=
          List.inj_on_of_nodup_map hfirst (List.mem_append_right _ hb) ho heq
        exact hready
    handedOver := by
      intro u hu
      rcases (hids u).1 hu with hu | ⟨b, hb, -, heq⟩
      · obtain ⟨a, ha, heq⟩ := hs.handedOver u hu
        exact ⟨a, List.mem_append_left _ ha, heq⟩
      · exact ⟨b, List.mem_append_right _ hb, heq⟩
    pending := by
      intro o ho
      rcases (hmem o).1 ho with ho | ⟨ho, hready⟩
      · obtain ⟨hadded, hnot⟩ := hs.pending o ho
        refine ⟨List.mem_append_left _ hadded, ?_⟩
        intro hu
        rcases (hids o.uid).1 hu with hu | ⟨b, hb, -, heq⟩
        · exact hnot hu
        · exact hfirst.uid_ne hadded hb heq.symm
      · refine ⟨List.mem_append_right _ ho, ?_⟩
        intro hu
        rcases (hids o.uid).1 hu with hu | ⟨b, hb, hb', heq⟩
        · exact hs.notMem_announcedIds hfirst ho hu
        · obtain rfl : b = o := List.inj_on_of_nodup_map hfirst.nodup hb ho heq
          rw [hready] at hb'
          cases hb'
    place := by
      intro o ho
      rcases List.mem_append.1 ho with ho | ho
      · cases hs.place o ho with
        | announced hu => exact .announced ((hids o.uid).2 (Or.inl hu))
        | waiting hready hin hhandler =>
          exact .waiting hready ((hmem o).2 (Or.inl hin)) ((hhandlers o).2 (Or.inr hhandler))
        | queued hready hin hset =>
          exact .queued hready ((hmem o).2 (Or.inl hin)) (htimer.trans hset)
      · cases hready : s.heap.ready o with
        | true => exact .announced ((hids o.uid).2 (Or.inr ⟨o, ho, hready, rfl⟩))
        | false =>
          exact .waiting hready ((hmem o).2 (Or.inr ⟨ho, hready⟩))
            ((hhandlers o).2 (Or.inl ⟨ho, hready⟩)) }

end Adding

/-! ## Items that become ready -/

/-- An item that was handed over stays ready, for no fetch is started for it any more. -/
theorem ready_of_allowed {s : StreamSys} {e : ItemEvent} (hok : s.Allowed (.item e)) {o : ItemRef}
    (ho : o ∈ s.added) (hready : s.heap.ready o = true) : (e.heap s.heap).ready o = true := by
  cases e with
  | pushPending o' =>
    have hne : o ≠ o' := fun heq => hok (heq ▸ ho)
    rwa [ItemEvent.ready_of_ne hne]
  | popPending o' =>
    -- A ready item has no fetch to complete.
    have hpos : 0 < (s.heap.item o').remainingFetches := hok
    have hzero : (s.heap.item o).remainingFetches = 0 := SwItem.getReady_iff.1 hready
    have hne : o ≠ o' := by
      intro heq
      subst heq
      omega
    rwa [ItemEvent.ready_of_ne hne]
  | put o' key value hkey => rwa [ItemEvent.ready_put]
  | touch o' => exact hready

/-- An item that was handed over becomes ready by its last fetch, which notifies. -/
theorem notifies_of_ready {s : StreamSys} {e : ItemEvent} (hok : s.Allowed (.item e)) {o : ItemRef}
    (ho : o ∈ s.added) (hbefore : s.heap.ready o = false)
    (hafter : (e.heap s.heap).ready o = true) :
    e.ref = o ∧ e.notifiesReady s.heap = true := by
  have hsame : ∀ e : ItemEvent, (e.heap s.heap).ready o = s.heap.ready o →
      (e.heap s.heap).ready o = true → False := by
    intro e heq h
    rw [heq, hbefore] at h
    cases h
  cases e with
  | pushPending o' =>
    have hne : o ≠ o' := fun heq => hok (heq ▸ ho)
    exact (hsame (.pushPending o') (ItemEvent.ready_of_ne hne) hafter).elim
  | popPending o' =>
    by_cases hne : o = o'
    · subst hne
      refine ⟨rfl, ?_⟩
      have hzero : ((ItemEvent.popPending o).heap s.heap |>.item o).remainingFetches = 0 :=
        SwItem.getReady_iff.1 hafter
      rw [ItemEvent.remaining_popPending] at hzero
      exact SwItem.getReady_iff.2 hzero
    · exact (hsame (.popPending o') (ItemEvent.ready_of_ne hne) hafter).elim
  | put o' key value hkey => exact (hsame _ (ItemEvent.ready_put _ _ _ _ _ _) hafter).elim
  | touch o' => exact (hsame _ rfl hafter).elim

theorem tracked_item {s : StreamSys} (hs : Tracked s) {e : ItemEvent}
    (hok : s.Allowed (.item e)) : Tracked (s.step (.item e)) := by
  have hview := SwItemStream.asView_onItemEvent s.heap e s.stream
  obtain ⟨-, hpending, -, -, hemitted⟩ := SwItemView.onItemEvent_frame s.heap e s.stream.asView
  rw [← hview] at hpending hemitted
  have hann : (s.stream.onItemEvent s.heap e).announcedIds = s.stream.announcedIds :=
    congrArg (List.flatMap Signal.addedIds) hemitted
  have hmem : ∀ o, o ∈ (s.stream.onItemEvent s.heap e).pendingItemsSet ↔
      o ∈ s.stream.pendingItemsSet := fun o => by
    rw [show (s.stream.onItemEvent s.heap e).pendingItemsSet = _ from hpending]
    rfl
  have htimer := SwItemView.pendingTimeoutId_onItemEvent s.heap e s.stream.asView
  rw [← hview] at htimer
  exact {
    distinct := hs.distinct
    once := by rw [show (s.step (.item e)).stream.announcedIds = _ from hann]; exact hs.once
    ready := by
      intro o ho hu
      rw [show (s.step (.item e)).stream.announcedIds = _ from hann] at hu
      exact ready_of_allowed hok ho (hs.ready o ho hu)
    handedOver := by
      intro u hu
      rw [show (s.step (.item e)).stream.announcedIds = _ from hann] at hu
      exact hs.handedOver u hu
    pending := by
      intro o ho
      rw [show (s.step (.item e)).stream.announcedIds = _ from hann]
      exact hs.pending o ((hmem o).1 ho)
    place := by
      intro o ho
      cases hs.place o ho with
      | announced hu => exact .announced (hann ▸ hu)
      | waiting hbefore hin hhandler =>
        cases hafter : (e.heap s.heap).ready o with
        | false =>
          refine .waiting hafter ((hmem o).2 hin) ?_
          have hkept := SwItemView.mem_readyHandlers_onItemEvent s.heap e s.stream.asView hafter
          rw [← hview] at hkept
          exact hkept.2 hhandler
        | true =>
          -- The notification finds the handler connected, which arms the timer.
          obtain ⟨rfl, hnotifies⟩ := notifies_of_ready hok ho hbefore hafter
          refine .queued hafter ((hmem e.ref).2 hin) (htimer.trans ?_)
          rw [hnotifies, hafter, decide_eq_true (show e.ref ∈ s.stream.asView.readyHandlers from
            hhandler)]
          exact Bool.or_true _
      | queued hready hin hset =>
        refine .queued (ready_of_allowed hok ho hready) ((hmem o).2 hin) (htimer.trans ?_)
        rw [show s.stream.asView.pendingTimeoutId = true from hset]
        exact Bool.true_or _ }

/-! ## The flush -/

theorem mem_pending_flush (h : Heap) (order : KeyOrder ItemRef) (stream : SwItemStream)
    (o : ItemRef) : o ∈ (stream.handleReadyPendingCb h order).pendingItemsSet ↔
      o ∈ stream.pendingItemsSet ∧ h.ready o = false := by
  have hslot := congrArg Slot.waiting
    (SwItemView.slot_handleReadyPendingCb h order stream.asView o.uid)
  rw [← SwItemStream.asView_handleReadyPendingCb] at hslot
  have hfind : (stream.handleReadyPendingCb h order).pendingItemsSet.find o.uid = _ := hslot
  rw [KeySet.mem_iff_find, KeySet.mem_iff_find, hfind, Slot.waiting_flush]
  rfl

theorem mem_announcedIds_flush {h : Heap} {order : KeyOrder ItemRef} {stream : SwItemStream}
    {u : String} : u ∈ (stream.handleReadyPendingCb h order).announcedIds ↔
      u ∈ stream.announcedIds ∨ ∃ o ∈ stream.pendingItemsSet, h.ready o = true ∧ o.uid = u := by
  rw [announcedIds_append (by rw [SwItemStream.handleReadyPendingCb_eq]), List.mem_append,
    List.mem_map]
  simp only [SwItemView.mem_flushed, and_assoc]
  rfl

theorem tracked_flush {s : StreamSys} (hs : Tracked s) (order : KeyOrder ItemRef) :
    Tracked { s with stream := s.stream.handleReadyPendingCb s.heap order } where
  distinct := hs.distinct
  once := by
    show (s.stream.handleReadyPendingCb s.heap order).announcedIds.Nodup
    rw [announcedIds_append (by rw [SwItemStream.handleReadyPendingCb_eq])]
    refine List.nodup_append.2 ⟨hs.once, ?_, ?_⟩
    · have hlist := SwSet.nodup_asList order s.stream.pendingItemsSet.nodup
      rw [SwItemView.flushed, List.map_reverse, List.nodup_reverse]
      exact hlist.sublist (List.filter_sublist.map _)
    · intro u hu u' hu' heq
      obtain ⟨o, ho, rfl⟩ := List.mem_map.1 hu'
      exact (hs.pending o (SwItemView.mem_flushed.1 ho).1).2 (heq ▸ hu)
  ready := by
    intro o ho hu
    rcases mem_announcedIds_flush.1 hu with hu | ⟨p, hp, hready, heq⟩
    · exact hs.ready o ho hu
    · obtain rfl := hs.eq_of_uid (hs.pending p hp).1 ho heq
      exact hready
  handedOver := by
    intro u hu
    rcases mem_announcedIds_flush.1 hu with hu | ⟨p, hp, -, heq⟩
    · exact hs.handedOver u hu
    · exact ⟨p, (hs.pending p hp).1, heq⟩
  pending := by
    intro o ho
    obtain ⟨hin, hready⟩ := (mem_pending_flush _ _ _ _).1 ho
    obtain ⟨hadded, hnot⟩ := hs.pending o hin
    refine ⟨hadded, ?_⟩
    intro hu
    rcases mem_announcedIds_flush.1 hu with hu | ⟨p, hp, hready', heq⟩
    · exact hnot hu
    · obtain rfl := hs.eq_of_uid (hs.pending p hp).1 hadded heq
      rw [hready] at hready'
      cases hready'
  place := by
    intro o ho
    cases hs.place o ho with
    | announced hu => exact .announced (mem_announcedIds_flush.2 (Or.inl hu))
    | waiting hready hin hhandler =>
      refine .waiting hready ((mem_pending_flush _ _ _ _).2 ⟨hin, hready⟩) ?_
      show o ∈ (s.stream.handleReadyPendingCb s.heap order).readyHandlers
      rw [SwItemStream.handleReadyPendingCb_eq]
      exact hhandler
    | queued hready hin _ =>
      exact .announced (mem_announcedIds_flush.2 (Or.inr ⟨o, hin, hready, rfl⟩))

theorem tracked_refresh {s : StreamSys} (hs : Tracked s) :
    Tracked { s with stream := s.stream.itemChangedTimeoutCb s.heap } := by
  have hann := announcedIds_itemChangedTimeoutCb s.heap s.stream
  have hupdate : (s.stream.itemChangedTimeoutCb s.heap).pendingItemsSet =
        s.stream.pendingItemsSet ∧
      (s.stream.itemChangedTimeoutCb s.heap).readyHandlers = s.stream.readyHandlers ∧
      (s.stream.itemChangedTimeoutCb s.heap).pendingTimeoutId = s.stream.pendingTimeoutId := by
    dsimp only [SwItemStream.itemChangedTimeoutCb, SwItemStream.updateItems]
    split_ifs <;> exact ⟨rfl, rfl, rfl⟩
  obtain ⟨hpending, hhandlers, htimer⟩ := hupdate
  exact {
    distinct := hs.distinct
    once := hann ▸ hs.once
    ready := by rw [hann]; exact hs.ready
    handedOver := by rw [hann]; exact hs.handedOver
    pending := by
      rw [hann, hpending]
      exact hs.pending
    place := by
      intro o ho
      cases hs.place o ho with
      | announced hu => exact .announced (hann ▸ hu)
      | waiting hready hin hhandler =>
        exact .waiting hready (hpending ▸ hin) (hhandlers ▸ hhandler)
      | queued hready hin hset => exact .queued hready (hpending ▸ hin) (htimer ▸ hset) }

/-! ## Runs -/

theorem tracked_step (s : StreamSys) (e : StreamEvent) (hs : Tracked s) (hok : s.Allowed e) :
    Tracked (s.step e) := by
  cases e with
  | addItem item =>
    dsimp only [step]
    rw [SwItemStream.addItem_eq]
    exact tracked_addItems hs hok
  | addItems items => exact tracked_addItems hs hok
  | item e => exact tracked_item hs hok
  | pendingTimeout order =>
    dsimp only [step]
    split_ifs
    · exact tracked_flush hs order
    · exact hs
  | refreshTimeout =>
    dsimp only [step]
    split_ifs
    · exact tracked_refresh hs
    · exact hs

theorem Tracked.toAnnouncedOnce {s : StreamSys} (hs : Tracked s) : AnnouncedOnce s where
  once := hs.once
  ready := hs.ready
  handedOver := hs.handedOver
  place := hs.place
  flushed := by
    intro o ho hready order
    dsimp only [step]
    split_ifs with htimer
    · rw [mem_announcedIds_flush]
      cases hs.place o ho with
      | announced hu => exact Or.inl hu
      | waiting hbefore _ _ =>
        rw [hready] at hbefore
        cases hbefore
      | queued _ hin _ => exact Or.inr ⟨o, hin, hready, rfl⟩
    · cases hs.place o ho with
      | announced hu => exact hu
      | waiting hbefore _ _ =>
        rw [hready] at hbefore
        cases hbefore
      | queued _ _ hset => exact absurd hset htimer

/-- **A stream announces every item exactly once**, when it is ready, and loses none. -/
theorem announcedOnce (h : Heap) {es : List StreamEvent}
    (hok : Transition.EveryStep step Allowed (start h) es) :
    Transition.EveryState step AnnouncedOnce (start h) es :=
  (Transition.everyState_of_everyStep tracked_step (tracked_start h) hok).mono
    fun _ hs => hs.toAnnouncedOnce

/-- One item waits for a fetch and another one is ready when they are handed over. -/
def oneWaiting : List StreamEvent :=
  [.item (.pushPending ⟨0, "1"⟩), .addItem ⟨0, "1"⟩, .addItems [⟨1, "2"⟩],
    .item (.popPending ⟨0, "1"⟩), .pendingTimeout (KeyOrder.stored _)]

theorem announcedOnce_oneWaiting : Transition.EveryState step AnnouncedOnce
    (start (Heap.plain ⟨0, "flickr"⟩)) oneWaiting :=
  announcedOnce (Heap.plain ⟨0, "flickr"⟩)
    ⟨List.not_mem_nil, show FirstAdded _ _ by decide, show FirstAdded _ _ by decide,
      show (0 : Int) < _ by decide, trivial, trivial⟩

end StreamSys

end LibSocialWeb
