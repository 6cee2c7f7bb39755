import LibSocialWeb.ContactView.View
import LibSocialWeb.ItemView.View
import LibSocialWeb.Lib.Run

/-!
# A contact view behaves as an item view

The two views take corresponding steps: the objects of one are renamed to those of the other, with
the same ids, and at each step the two heaps agree on which objects are ready and which are equal.
`Corr` relates the two views field by field; the signals are related after those with an empty
array are dropped, since only the item view emits them.

**Main result.** `corr_run`: corresponding runs of two fresh views end in corresponding views.
-/

namespace LibSocialWeb

/-! ## Corresponding objects -/

/-- Which contact stands for which item. -/
structure Renaming where
  ref : ItemRef → ContactRef
  uid : ∀ o, (ref o).uid = o.uid
  injective : Function.Injective ref

/-- Corresponding objects are equally ready, and equal to each other or not alike. -/
structure Agreeing (ren : Renaming) (h : Heap) (k : ContactHeap) : Prop where
  ready : ∀ o, k.ready (ren.ref o) = h.ready o
  equal : ∀ a b, k.equal (ren.ref a) (ren.ref b) = h.equal a b

/-- Corresponding tables are listed in corresponding orders. -/
def OrdersAgree (ren : Renaming) (order : KeyOrder ItemRef) (order' : KeyOrder ContactRef) : Prop :=
  ∀ l, order'.list (l.map ren.ref) = (order.list l).map ren.ref

/-- What happens to a view of objects with the given ids. -/
inductive ViewOp {α : Type} (key : α → String) where
  | addFromSet (order : KeyOrder α) (set : SwSet key)
  | removeFromSet (order : KeyOrder α) (set : SwSet key)
  | setFromSet (order : KeyOrder α) (set : SwSet key)
  | notifyReady (o : α)
  | changed (o : α)
  | pendingTimeout (order : KeyOrder α)
  | refreshTimeout

/-- The same operation, on corresponding sets listed in corresponding orders. -/
inductive OpMatch (ren : Renaming) : ViewOp ItemRef.uid → ViewOp ContactRef.uid → Prop where
  | addFromSet {order order' set set'} : OrdersAgree ren order order' →
      KeySet.Image ren.ref set set' → OpMatch ren (.addFromSet order set) (.addFromSet order' set')
  | removeFromSet {order order' set set'} : OrdersAgree ren order order' →
      KeySet.Image ren.ref set set' →
      OpMatch ren (.removeFromSet order set) (.removeFromSet order' set')
  | setFromSet {order order' set set'} : OrdersAgree ren order order' →
      KeySet.Image ren.ref set set' → OpMatch ren (.setFromSet order set) (.setFromSet order' set')
  | notifyReady (o : ItemRef) : OpMatch ren (.notifyReady o) (.notifyReady (ren.ref o))
  | changed (o : ItemRef) : OpMatch ren (.changed o) (.changed (ren.ref o))
  | pendingTimeout {order order'} : OrdersAgree ren order order' →
      OpMatch ren (.pendingTimeout order) (.pendingTimeout order')
  | refreshTimeout : OpMatch ren .refreshTimeout .refreshTimeout

/-- Corresponding steps: the heaps of the moment agree, and the operations are the same. -/
structure StepMatch (ren : Renaming) (e : Heap × ViewOp ItemRef.uid)
    (f : ContactHeap × ViewOp ContactRef.uid) : Prop where
  heaps : Agreeing ren e.1 f.1
  op : OpMatch ren e.2 f.2

/-- One step of an item view; a timer fires only if it is armed. -/
def SwItemView.step (v : SwItemView) : Heap × ViewOp ItemRef.uid → SwItemView
  | (h, .addFromSet order set) => v.addFromSet h order set
  | (h, .removeFromSet order set) => v.removeFromSet h order set
  | (h, .setFromSet order set) => v.setFromSet h order set
  | (h, .notifyReady o) => v.onNotifyReady h o
  | (h, .changed o) => v.onChanged h o
  | (h, .pendingTimeout order) => if v.pendingTimeoutId then v.handleReadyPendingCb h order else v
  | (h, .refreshTimeout) => if v.refreshTimeoutId then v.itemChangedTimeoutCb h else v

/-- One step of a contact view. -/
def SwContactView.step (w : SwContactView) : ContactHeap × ViewOp ContactRef.uid → SwContactView
  | (k, .addFromSet order set) => w.addFromSet k order set
  | (k, .removeFromSet order set) => w.removeFromSet k order set
  | (k, .setFromSet order set) => w.setFromSet k order set
  | (k, .notifyReady o) => w.onNotifyReady k o
  | (k, .changed o) => w.onChanged k o
  | (k, .pendingTimeout order) => if w.pendingTimeoutId then w.handleReadyPendingCb k order else w
  | (k, .refreshTimeout) => if w.refreshTimeoutId then w.contactChangedTimeoutCb k else w

/-! ## Corresponding signals -/

/-- Signals of the same kind that pack corresponding objects in the same order. -/
inductive Matches (ren : Renaming) : Signal → ContactSignal → Prop where
  | added {h k} (hk : Agreeing ren h k) (items : List ItemRef) : Matches ren
      (.itemsAdded (items.map h.toValueArray))
      (.contactsAdded ((items.map ren.ref).map k.toValueArray))
  | changed {h k} (hk : Agreeing ren h k) (items : List ItemRef) : Matches ren
      (.itemsChanged (items.map h.toValueArray))
      (.contactsChanged ((items.map ren.ref).map k.toValueArray))
  | removed {h k} (hk : Agreeing ren h k) (items : List ItemRef) : Matches ren
      (.itemsRemoved (items.map fun o => ((h.item o).service.name, o.uid)))
      (.contactsRemoved ((items.map ren.ref).map fun o => ((k.contact o).service.name, o.uid)))

/-- The signal carries something. -/
def Signal.nonEmpty : Signal → Bool
  | itemsAdded items => !items.isEmpty
  | itemsChanged items => !items.isEmpty
  | itemsRemoved items => !items.isEmpty

def ContactSignal.nonEmpty : ContactSignal → Bool
  | contactsAdded contacts => !contacts.isEmpty
  | contactsChanged contacts => !contacts.isEmpty
  | contactsRemoved contacts => !contacts.isEmpty

/-- What a contact signal tells its client. -/
def ContactSignal.notice : ContactSignal → Notice String
  | contactsAdded contacts => .added (contacts.map ContactStruct.uuid)
  | contactsChanged contacts => .changed (contacts.map ContactStruct.uuid)
  | contactsRemoved contacts => .removed (contacts.map Prod.snd)

variable {ren : Renaming}

theorem Matches.nonEmpty {s : Signal} {s' : ContactSignal} (h : Matches ren s s') :
    s'.nonEmpty = s.nonEmpty := by
  cases h <;> simp [Signal.nonEmpty, ContactSignal.nonEmpty]

/-- Corresponding signals tell the same ids. -/
theorem Matches.notice {s : Signal} {s' : ContactSignal} (h : Matches ren s s') :
    s'.notice = s.notice := by
  cases h with
  | added hk items =>
    simp [ContactSignal.notice, Function.comp_def, Heap.toValueArray, ContactHeap.toValueArray,
      ren.uid]
  | changed hk items =>
    simp [ContactSignal.notice, Function.comp_def, Heap.toValueArray, ContactHeap.toValueArray,
      ren.uid]
  | removed hk items => simp [ContactSignal.notice, Function.comp_def, ren.uid]

/-! ## Corresponding views -/

/-- The two indexes hold corresponding objects. -/
def IndexMatch (ren : Renaming) (table : AList fun _ : String => ItemRef)
    (table' : AList fun _ : String => ContactRef) : Prop :=
  ∀ u, table'.lookup u = (table.lookup u).map ren.ref

theorem IndexMatch.insert {table : AList fun _ : String => ItemRef}
    {table' : AList fun _ : String => ContactRef} (ht : IndexMatch ren table table')
    (o : ItemRef) :
    IndexMatch ren (table.insert o.uid o) (table'.insert (ren.ref o).uid (ren.ref o)) := by
  intro u
  rw [ren.uid]
  by_cases hu : u = o.uid
  · subst hu
    rw [AList.lookup_insert, AList.lookup_insert]
    rfl
  · rw [AList.lookup_insert_ne hu, AList.lookup_insert_ne hu]
    exact ht u

theorem IndexMatch.erase {table : AList fun _ : String => ItemRef}
    {table' : AList fun _ : String => ContactRef} (ht : IndexMatch ren table table')
    (o : ItemRef) : IndexMatch ren (table.erase o.uid) (table'.erase (ren.ref o).uid) := by
  intro u
  rw [ren.uid]
  by_cases hu : u = o.uid
  · subst hu
    rw [AList.lookup_erase, AList.lookup_erase]
    rfl
  · rw [AList.lookup_erase_ne hu, AList.lookup_erase_ne hu]
    exact ht u

/-- The two views have corresponding collections, handlers and timers, and have told their clients
the same. -/
structure Corr (ren : Renaming) (v : SwItemView) (w : SwContactView) : Prop where
  current : KeySet.Image ren.ref v.currentItemsSet w.currentContactsSet
  pending : KeySet.Image ren.ref v.pendingItemsSet w.pendingContactsSet
  pendingTimeout : w.pendingTimeoutId = v.pendingTimeoutId
  refreshTimeout : w.refreshTimeoutId = v.refreshTimeoutId
  index : IndexMatch ren v.uidToItems w.uidToContacts
  changed : w.changedContacts = v.changedItems.map ren.ref
  readyHandlers : w.readyHandlers = v.readyHandlers.map ren.ref
  changedHandlers : w.changedHandlers = v.changedHandlers.map ren.ref
  emitted : List.Forall₂ (Matches ren) (v.emitted.filter Signal.nonEmpty)
    (w.emitted.filter ContactSignal.nonEmpty)

theorem corr_init : Corr ren .init .init where
  current := rfl
  pending := rfl
  pendingTimeout := rfl
  refreshTimeout := rfl
  index _ := rfl
  changed := rfl
  readyHandlers := rfl
  changedHandlers := rfl
  emitted := .nil

theorem Renaming.keepsIds (ren : Renaming) (a b : ItemRef) :
    (ren.ref b).uid = (ren.ref a).uid ↔ b.uid = a.uid := by
  rw [ren.uid, ren.uid]

theorem Renaming.ref_inj (ren : Renaming) {a b : ItemRef} : ren.ref a = ren.ref b ↔ a = b :=
  ren.injective.eq_iff

namespace Corr

variable {v : SwItemView} {w : SwContactView} {h : Heap} {k : ContactHeap}

/-! ## Signals -/

theorem emit (hc : Corr ren v w) {s : Signal} {s' : ContactSignal} (hm : Matches ren s s') :
    Corr ren (v.emit s) (w.emit s') := by
  refine { hc with emitted := ?_ }
  show List.Forall₂ (Matches ren) ((v.emitted ++ [s]).filter _) ((w.emitted ++ [s']).filter _)
  rw [List.filter_append, List.filter_append]
  apply List.rel_append hc.emitted
  by_cases hs : s.nonEmpty = true
  · rw [List.filter_cons_of_pos hs, List.filter_cons_of_pos (hm.nonEmpty.trans hs)]
    exact .cons hm .nil
  · rw [List.filter_cons_of_neg hs, List.filter_cons_of_neg (by rwa [hm.nonEmpty])]
    exact .nil

/-- A signal with an empty array may be left out by the contact view. -/
theorem emit_empty (hc : Corr ren v w) {s : Signal} (hs : s.nonEmpty = false) :
    Corr ren (v.emit s) w := by
  refine { hc with emitted := ?_ }
  show List.Forall₂ (Matches ren) ((v.emitted ++ [s]).filter _) _
  rw [List.filter_append, List.filter_cons_of_neg (by rw [hs]; exact Bool.false_ne_true),
    List.filter_nil, List.append_nil]
  exact hc.emitted

/-- The guard of the contact view, whose array is as long as that of the item view. -/
theorem emit_guarded (hc : Corr ren v w) {s : Signal} {s' : ContactSignal} (hm : Matches ren s s')
    {n : Nat} (hn : s.nonEmpty = false ↔ n = 0) :
    Corr ren (v.emit s) (if 0 < n then w.emit s' else w) := by
  split_ifs with h0
  · exact hc.emit hm
  · exact hc.emit_empty (hn.2 (by omega))

/-! ## Adding objects -/

/-- The two loops have packed corresponding objects so far. -/
def Packed (ren : Renaming) (h : Heap) (k : ContactHeap) (p : SwItemView × List ItemStruct)
    (q : SwContactView × List ContactStruct) : Prop :=
  Corr ren p.1 q.1 ∧ ∃ items : List ItemRef, p.2 = items.map h.toValueArray ∧
    q.2 = (items.map ren.ref).map k.toValueArray

theorem packed_addItem (hk : Agreeing ren h k) (o : ItemRef) {p : SwItemView × List ItemStruct}
    {q : SwContactView × List ContactStruct} (hp : Packed ren h k p q) :
    Packed ren h k (SwItemView.addItem h p o) (SwContactView.addContact k q (ren.ref o)) := by
  obtain ⟨hc, items, hp, hq⟩ := hp
  rw [SwItemView.addItem, SwContactView.addContact, hk.ready]
  split_ifs
  · refine ⟨{ hc with changedHandlers := ?_ }, items ++ [o], ?_, ?_⟩
    · exact congrArg (ren.ref o :: ·) hc.changedHandlers
    · rw [hp, List.map_append, List.map_singleton]
    · rw [hq, List.map_append, List.map_append, List.map_singleton, List.map_singleton]
  · refine ⟨{ hc with pending := ?_, readyHandlers := ?_, changedHandlers := ?_ }, items, hp, hq⟩
    · exact hc.pending.add ren.keepsIds o
    · exact congrArg (ren.ref o :: ·) hc.readyHandlers
    · exact congrArg (ren.ref o :: ·) hc.changedHandlers

theorem addItems (hc : Corr ren v w) (hk : Agreeing ren h k) (items : List ItemRef) :
    Corr ren (v.addItems h items) (w.addContacts k (items.map ren.ref)) := by
  have hfold : Packed ren h k (items.foldl (SwItemView.addItem h) (v, []))
      ((items.map ren.ref).foldl (SwContactView.addContact k) (w, [])) := by
    rw [List.foldl_map]
    exact List.foldl_rel ⟨hc, [], rfl, rfl⟩ fun o _ p q hp => packed_addItem hk o hp
  obtain ⟨hc', sent, hp, hq⟩ := hfold
  show Corr ren (SwItemView.emit (.itemsAdded _) _)
    (if _ then SwContactView.emit (.contactsAdded _) _ else _)
  rw [hp, hq]
  exact hc'.emit_guarded (.added hk sent) (by simp [Signal.nonEmpty])

theorem updateItems (hc : Corr ren v w) (hk : Agreeing ren h k) (items : List ItemRef) :
    Corr ren (v.updateItems h items) (w.updateContacts k (items.map ren.ref)) := by
  have hfilter : (items.map ren.ref).filter k.ready = (items.filter h.ready).map ren.ref := by
    rw [List.filter_map]
    congr 1
    exact List.filter_congr fun o _ => hk.ready o
  dsimp only [SwItemView.updateItems, SwContactView.updateContacts]
  rw [hfilter, List.length_map, List.length_map, List.length_map]
  split_ifs
  · exact hc.emit (.changed hk _)
  · exact hc

theorem removeItems (hc : Corr ren v w) (hk : Agreeing ren h k) (items : List ItemRef) :
    Corr ren (v.removeItems h items) (w.removeContacts k (items.map ren.ref)) :=
  hc.emit_guarded (.removed hk items) (by simp [Signal.nonEmpty])

/-! ## Handlers and timers -/

theorem asList {κ κ' : Type} {key : ItemRef → κ} {key' : ContactRef → κ'} {set : SwSet key}
    {set' : SwSet key'} {order : KeyOrder ItemRef} {order' : KeyOrder ContactRef}
    (ho : OrdersAgree ren order order') (hset : KeySet.Image ren.ref set set') :
    SwSet.asList order' set' = (SwSet.asList order set).map ren.ref := by
  rw [SwSet.asList, SwSet.asList, hset]
  exact ho _

/-- The two flushes have taken corresponding objects so far. -/
def Taken (ren : Renaming) (p : List ItemRef × ItemSet) (q : List ContactRef × ContactSet) : Prop :=
  q.1 = p.1.map ren.ref ∧ KeySet.Image ren.ref p.2 q.2

theorem taken_takeReady (hk : Agreeing ren h k) (o : ItemRef) {p : List ItemRef × ItemSet}
    {q : List ContactRef × ContactSet} (hp : Taken ren p q) :
    Taken ren (SwItemView.takeReady h p o) (SwContactView.takeReady k q (ren.ref o)) := by
  obtain ⟨hsent, hpending⟩ := hp
  rw [SwItemView.takeReady, SwContactView.takeReady, hk.ready]
  split_ifs
  · exact ⟨congrArg (ren.ref o :: ·) hsent, hpending.remove ren.keepsIds o⟩
  · exact ⟨hsent, hpending⟩

theorem setPending (hc : Corr ren v w) {set : ItemSet} {set' : ContactSet}
    (hset : KeySet.Image ren.ref set set') :
    Corr ren { v with pendingItemsSet := set } { w with pendingContactsSet := set' } :=
  { hc with pending := hset }

theorem handleReadyPendingCb (hc : Corr ren v w) (hk : Agreeing ren h k)
    {order : KeyOrder ItemRef} {order' : KeyOrder ContactRef} (ho : OrdersAgree ren order order') :
    Corr ren (v.handleReadyPendingCb h order) (w.handleReadyPendingCb k order') := by
  have hfold : Taken ren
      ((SwSet.asList order v.pendingItemsSet).foldl (SwItemView.takeReady h)
        ([], v.pendingItemsSet))
      ((SwSet.asList order' w.pendingContactsSet).foldl (SwContactView.takeReady k)
        ([], w.pendingContactsSet)) := by
    rw [asList ho hc.pending, List.foldl_map]
    exact List.foldl_rel ⟨rfl, hc.pending⟩ fun o _ p q hp => taken_takeReady hk o hp
  obtain ⟨hsent, hpending⟩ := hfold
  have hadded := (hc.setPending hpending).addItems hk ((SwSet.asList order v.pendingItemsSet).foldl
    (SwItemView.takeReady h) ([], v.pendingItemsSet)).1
  rw [← hsent] at hadded
  exact { hadded with pendingTimeout := rfl }

theorem contactReadyNotifyCb (hc : Corr ren v w) (hk : Agreeing ren h k) (o : ItemRef) :
    Corr ren (v.itemReadyNotifyCb h o) (w.contactReadyNotifyCb k (ren.ref o)) := by
  have hhandlers : w.readyHandlers.filter (· ≠ ren.ref o) =
      (v.readyHandlers.filter (· ≠ o)).map ren.ref := by
    rw [hc.readyHandlers, List.filter_map]
    congr 1
    apply List.filter_congr
    intro x _
    simp [ren.ref_inj]
  unfold SwItemView.itemReadyNotifyCb SwContactView.contactReadyNotifyCb
  dsimp only
  rw [hk.ready, hc.pendingTimeout]
  split_ifs
  · exact { hc with readyHandlers := hhandlers, pendingTimeout := rfl }
  · exact { hc with readyHandlers := hhandlers, pendingTimeout := rfl }
  · exact hc

theorem onNotifyReady (hc : Corr ren v w) (hk : Agreeing ren h k) (o : ItemRef) :
    Corr ren (v.onNotifyReady h o) (w.onNotifyReady k (ren.ref o)) := by
  have hmem : ren.ref o ∈ w.readyHandlers ↔ o ∈ v.readyHandlers := by
    rw [hc.readyHandlers, List.mem_map_of_injective ren.injective]
  unfold SwItemView.onNotifyReady SwContactView.onNotifyReady
  by_cases hin : o ∈ v.readyHandlers
  · rw [if_pos hin, if_pos (hmem.2 hin)]
    exact hc.contactReadyNotifyCb hk o
  · rw [if_neg hin, if_neg (mt hmem.1 hin)]
    exact hc

theorem contactChangedCb (hc : Corr ren v w) (hk : Agreeing ren h k) (o : ItemRef) :
    Corr ren (v.itemChangedCb h o) (w.contactChangedCb k (ren.ref o)) := by
  have hmem : ren.ref o ∈ w.changedContacts ↔ o ∈ v.changedItems := by
    rw [hc.changed, List.mem_map_of_injective ren.injective]
  have happend : w.changedContacts ++ [ren.ref o] = (v.changedItems ++ [o]).map ren.ref := by
    rw [hc.changed, List.map_append, List.map_singleton]
  have htimer := hc.refreshTimeout
  unfold SwItemView.itemChangedCb SwContactView.contactChangedCb
  dsimp only
  rw [hk.ready]
  by_cases hin : o ∈ v.changedItems
  · rw [if_pos hin, if_pos (hmem.2 hin), htimer]
    split_ifs
    · exact hc
    · exact { hc with refreshTimeout := rfl }
    · exact hc
  · rw [if_neg hin, if_neg (mt hmem.1 hin), htimer]
    split_ifs
    · exact hc
    · exact { hc with changed := happend, refreshTimeout := rfl }
    · exact { hc with changed := happend, refreshTimeout := rfl }

theorem onChanged (hc : Corr ren v w) (hk : Agreeing ren h k) (o : ItemRef) :
    Corr ren (v.onChanged h o) (w.onChanged k (ren.ref o)) := by
  have hhandlers : w.changedHandlers.filter (· = ren.ref o) =
      (v.changedHandlers.filter (· = o)).map ren.ref := by
    rw [hc.changedHandlers, List.filter_map]
    congr 1
    apply List.filter_congr
    intro x _
    simp [ren.ref_inj]
  unfold SwItemView.onChanged SwContactView.onChanged
  rw [hhandlers, List.foldl_map]
  exact List.foldl_rel hc fun x _ v w hc => hc.contactChangedCb hk x

theorem contactChangedTimeoutCb (hc : Corr ren v w) (hk : Agreeing ren h k) :
    Corr ren (v.itemChangedTimeoutCb h) (w.contactChangedTimeoutCb k) := by
  have hupdated := hc.updateItems hk v.changedItems
  rw [← hc.changed] at hupdated
  exact { hupdated with changed := rfl, refreshTimeout := rfl }

/-! ## Operations on sets -/

theorem setCurrent (hc : Corr ren v w) {set : ItemSet} {set' : ContactSet}
    {table : AList fun _ : String => ItemRef} {table' : AList fun _ : String => ContactRef}
    (hset : KeySet.Image ren.ref set set') (htable : IndexMatch ren table table') :
    Corr ren { v with currentItemsSet := set, uidToItems := table }
      { w with currentContactsSet := set', uidToContacts := table' } :=
  { hc with current := hset, index := htable }

section Sets

variable {κ κ' : Type} {key : ItemRef → κ} {key' : ContactRef → κ'} {set : SwSet key}
  {set' : SwSet key'} {order : KeyOrder ItemRef} {order' : KeyOrder ContactRef}

theorem addFromSet (hc : Corr ren v w) (hk : Agreeing ren h k) (ho : OrdersAgree ren order order')
    (hset : KeySet.Image ren.ref set set') :
    Corr ren (v.addFromSet h order set) (w.addFromSet k order' set') := by
  have hcurrent : KeySet.Image ren.ref (SwSet.addFrom v.currentItemsSet set)
      (SwSet.addFrom w.currentContactsSet set') := by
    rw [SwSet.addFrom, SwSet.addFrom, hset]
    exact hc.current.addAll ren.keepsIds _
  have hindex : IndexMatch ren
      ((SwSet.asList order set).foldl (fun t o => t.insert o.uid o) v.uidToItems)
      (((SwSet.asList order set).map ren.ref).foldl (fun t o => t.insert o.uid o)
        w.uidToContacts) := by
    rw [List.foldl_map]
    exact List.foldl_rel hc.index fun o _ t t' ht => ht.insert o
  unfold SwItemView.addFromSet SwContactView.addFromSet
  dsimp only
  rw [asList ho hset]
  exact (hc.setCurrent hcurrent hindex).addItems hk _

theorem removeFromSet (hc : Corr ren v w) (hk : Agreeing ren h k)
    (ho : OrdersAgree ren order order') (hset : KeySet.Image ren.ref set set') :
    Corr ren (v.removeFromSet h order set) (w.removeFromSet k order' set') := by
  have hcurrent : KeySet.Image ren.ref (SwSet.removeFrom v.currentItemsSet set)
      (SwSet.removeFrom w.currentContactsSet set') := by
    rw [SwSet.removeFrom, SwSet.removeFrom, hset]
    exact hc.current.removeAll ren.keepsIds _
  have hindex : IndexMatch ren
      ((SwSet.asList order set).foldl (fun t o => t.erase o.uid) v.uidToItems)
      (((SwSet.asList order set).map ren.ref).foldl (fun t o => t.erase o.uid)
        w.uidToContacts) := by
    rw [List.foldl_map]
    exact List.foldl_rel hc.index fun o _ t t' ht => ht.erase o
  unfold SwItemView.removeFromSet SwContactView.removeFromSet
  dsimp only
  rw [asList ho hset]
  exact (hc.setCurrent hcurrent hindex).removeItems hk _

end Sets

variable {set : ItemSet} {set' : ContactSet} {order : KeyOrder ItemRef}
  {order' : KeyOrder ContactRef}

/-- The two loops of `update_existing` have replaced corresponding objects so far. -/
def Updated (ren : Renaming) (p : SwItemView × List ItemRef)
    (q : SwContactView × List ContactRef) : Prop :=
  Corr ren p.1 q.1 ∧ q.2 = p.2.map ren.ref

theorem updated_updateItem (hk : Agreeing ren h k) (o : ItemRef) {p : SwItemView × List ItemRef}
    {q : SwContactView × List ContactRef} (hp : Updated ren p q) :
    Updated ren (SwItemView.updateItem h p o) (SwContactView.updateContact k q (ren.ref o)) := by
  obtain ⟨hc, hsent⟩ := hp
  have hlookup := hc.index o.uid
  rw [SwItemView.updateItem, SwContactView.updateContact, ren.uid, hlookup]
  cases p.1.uidToItems.lookup o.uid with
  | none => exact ⟨hc, hsent⟩
  | some old =>
    dsimp only [Option.map_some]
    rw [hk.equal]
    split_ifs
    · refine ⟨{ hc with index := ?_, current := hc.current.add ren.keepsIds o }, ?_⟩
      · have hinsert := hc.index.insert o
        rwa [ren.uid] at hinsert
      · rw [hsent, List.map_append, List.map_singleton]
    · exact ⟨hc, hsent⟩

theorem updateExisting (hc : Corr ren v w) (hk : Agreeing ren h k)
    (ho : OrdersAgree ren order order') (hset : KeySet.Image ren.ref set set') :
    Corr ren (v.updateExisting h order set) (w.updateExisting k order' set') := by
  have hfold : Updated ren ((SwSet.asList order set).foldl (SwItemView.updateItem h) (v, []))
      ((SwSet.asList order' set').foldl (SwContactView.updateContact k) (w, [])) := by
    rw [asList ho hset, List.foldl_map]
    exact List.foldl_rel ⟨hc, rfl⟩ fun o _ p q hp => updated_updateItem hk o hp
  obtain ⟨hc', hsent⟩ := hfold
  have hupdated := hc'.updateItems hk
    ((SwSet.asList order set).foldl (SwItemView.updateItem h) (v, [])).2
  rw [← hsent] at hupdated
  exact hupdated

/-- Corresponding sets have corresponding differences. -/
theorem difference {a b : ItemSet} {a' b' : ContactSet} (ha : KeySet.Image ren.ref a a')
    (hb : KeySet.Image ren.ref b b') :
    KeySet.Image ren.ref (SwSet.difference a b) (SwSet.difference a' b') := by
  unfold KeySet.Image
  rw [SwSet.difference_members, SwSet.difference_members, ha, List.filter_map]
  congr 1
  apply List.filter_congr
  intro o _
  show (!b'.has (ren.ref o)) = !b.has o
  rw [hb.has ren.keepsIds]

theorem setFromSet (hc : Corr ren v w) (hk : Agreeing ren h k) (ho : OrdersAgree ren order order')
    (hset : KeySet.Image ren.ref set set') :
    Corr ren (v.setFromSet h order set) (w.setFromSet k order' set') := by
  have hremoved := difference hc.current hset
  have hadded := difference hset hc.current
  unfold SwItemView.setFromSet SwContactView.setFromSet
  dsimp only
  rw [hc.current.isEmpty, hremoved.isEmpty, hadded.isEmpty]
  by_cases hempty : v.currentItemsSet.isEmpty = true
  · rw [if_pos hempty, if_pos hempty]
    exact hc.addFromSet hk ho hset
  · rw [if_neg hempty, if_neg hempty]
    -- The removals, the replacements and the additions follow each other in both views.
    have hc₁ : Corr ren
        (if !(SwSet.difference v.currentItemsSet set).isEmpty then
          v.removeFromSet h order (SwSet.difference v.currentItemsSet set) else v)
        (if !(SwSet.difference v.currentItemsSet set).isEmpty then
          w.removeFromSet k order' (SwSet.difference w.currentContactsSet set') else w) := by
      split_ifs
      · exact hc.removeFromSet hk ho hremoved
      · exact hc
    have hc₂ := hc₁.updateExisting hk ho hset
    by_cases hnone : (!(SwSet.difference set v.currentItemsSet).isEmpty) = true
    · rw [if_pos hnone, if_pos hnone]
      exact hc₂.addFromSet hk ho hadded
    · rw [if_neg hnone, if_neg hnone]
      exact hc₂

end Corr

/-! ## Runs -/

theorem corr_step (v : SwItemView) (w : SwContactView) (e : Heap × ViewOp ItemRef.uid)
    (f : ContactHeap × ViewOp ContactRef.uid) (hc : Corr ren v w) (hm : StepMatch ren e f) :
    Corr ren (v.step e) (w.step f) := by
  rcases e with ⟨h, op⟩
  rcases f with ⟨k, op'⟩
  obtain ⟨hk, hop⟩ := hm
  cases hop with
  | addFromSet ho hset => exact hc.addFromSet hk ho hset
  | removeFromSet ho hset => exact hc.removeFromSet hk ho hset
  | setFromSet ho hset => exact hc.setFromSet hk ho hset
  | notifyReady o => exact hc.onNotifyReady hk o
  | changed o => exact hc.onChanged hk o
  | pendingTimeout ho =>
    dsimp only [SwItemView.step, SwContactView.step]
    rw [hc.pendingTimeout]
    split_ifs
    · exact hc.handleReadyPendingCb hk ho
    · exact hc
  | refreshTimeout =>
    dsimp only [SwItemView.step, SwContactView.step]
    rw [hc.refreshTimeout]
    split_ifs
    · exact hc.contactChangedTimeoutCb hk
    · exact hc

/-- **A contact view behaves as an item view.** Two fresh views that take corresponding steps are in
corresponding states after them, and have emitted corresponding signals. -/
theorem corr_run {es : List (Heap × ViewOp ItemRef.uid)}
    {fs : List (ContactHeap × ViewOp ContactRef.uid)} (h : List.Forall₂ (StepMatch ren) es fs) :
    Corr ren (Transition.runFrom SwItemView.step .init es)
      (Transition.runFrom SwContactView.step .init fs) :=
  Transition.related_runFrom corr_step corr_init h

/-- The contact at the address of the item. -/
def sameAddress : Renaming where
  ref o := ⟨o.addr, o.uid⟩
  uid _ := rfl
  injective a b h := by
    cases a
    cases b
    simpa using h

/-- Every item carries its id and waits for `n` fetches. -/
def itemsWaiting (n : Int) : Heap where
  item o := { SwItem.plain ⟨0, "flickr"⟩ o.uid with remainingFetches := n }
  id_eq := (Heap.plain ⟨0, "flickr"⟩).id_eq

def contactsWaiting (n : Int) : ContactHeap where
  contact o := { SwContact.plain ⟨0, "flickr"⟩ o.uid with remainingFetches := n }
  id_eq := (ContactHeap.plain ⟨0, "flickr"⟩).id_eq

theorem agreeing_waiting (n : Int) : Agreeing sameAddress (itemsWaiting n) (contactsWaiting n) where
  ready _ := rfl
  equal a b := by
    have hitem : (itemsWaiting n).equal a b = (a.uid == b.uid) := by
      simp [Heap.equal, itemsWaiting, SwItem.equal, AList.lookup, KeyPtr.str]
    have hcontact : (contactsWaiting n).equal (sameAddress.ref a) (sameAddress.ref b) =
        (a.uid == b.uid) := by
      simp [ContactHeap.equal, contactsWaiting, SwContact.equal, SwContact.get, SwContact.getAll,
        AList.lookup, KeyPtr.str, sameAddress]
    rw [hitem, hcontact]

/-- One object is added, becomes ready, is announced, changes and leaves. -/
theorem corr_run_oneObject :
    Corr sameAddress
      (Transition.runFrom SwItemView.step .init
        [(itemsWaiting 1, .addFromSet (KeyOrder.stored _) (KeySet.empty.add ⟨0, "1"⟩)),
          (itemsWaiting 0, .notifyReady ⟨0, "1"⟩),
          (itemsWaiting 0, .pendingTimeout (KeyOrder.stored _)),
          (itemsWaiting 0, .changed ⟨0, "1"⟩), (itemsWaiting 0, .refreshTimeout),
          (itemsWaiting 0, .setFromSet (KeyOrder.stored _) KeySet.empty)])
      (Transition.runFrom SwContactView.step .init
        [(contactsWaiting 1, .addFromSet (KeyOrder.stored _) (KeySet.empty.add ⟨0, "1"⟩)),
          (contactsWaiting 0, .notifyReady ⟨0, "1"⟩),
          (contactsWaiting 0, .pendingTimeout (KeyOrder.stored _)),
          (contactsWaiting 0, .changed ⟨0, "1"⟩), (contactsWaiting 0, .refreshTimeout),
          (contactsWaiting 0, .setFromSet (KeyOrder.stored _) KeySet.empty)]) :=
  corr_run (.cons ⟨agreeing_waiting 1, .addFromSet (fun _ => rfl) rfl⟩
    (.cons ⟨agreeing_waiting 0, .notifyReady _⟩
    (.cons ⟨agreeing_waiting 0, .pendingTimeout fun _ => rfl⟩
    (.cons ⟨agreeing_waiting 0, .changed _⟩
    (.cons ⟨agreeing_waiting 0, .refreshTimeout⟩
    (.cons ⟨agreeing_waiting 0, .setFromSet (fun _ => rfl) rfl⟩ .nil))))))

end LibSocialWeb
