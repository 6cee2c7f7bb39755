import LibSocialWeb.ContactView.Simulation
import LibSocialWeb.ItemView.Wiring
import LibSocialWeb.Lib.Bookkeeping

/-!
# References of the changed objects (`libsocialweb/sw-item-view.c`, `sw-contact-view.c`)

`_item_changed_cb` appends the item to `changed_items` as it is. `_item_changed_timeout_cb` releases
a reference of every item in the list and empties it. The contact view does the same with
`changed_contacts`. The reference that is released belongs to someone else: a set, or the closure
that disconnects the handler.

The ledger beside each view has the references that were taken for the list and those that were
released from it. The timer is armed exactly when the list is not empty (`QueueArmed`), so that
whenever it fires there is something to release.

**Main result.** `changedReferences_balanced_iff`: along a run of either view, no object is released
more often than it was referenced for the list exactly when the refresh timer never fires.
-/

namespace LibSocialWeb

open Transition

/-- The timer of a queue is armed exactly when the queue is not empty. -/
def QueueArmed {α : Type} (queue : List α × Bool) : Prop := queue.2 = true ↔ queue.1 ≠ []

theorem queueArmed_empty {α : Type} : QueueArmed (([], false) : List α × Bool) :=
  iff_of_false Bool.false_ne_true (not_not_intro rfl)

/-- Whenever the timer can fire, the queue has something. -/
theorem QueueArmed.flushed_eq_nil_iff {α : Type} {queue : List α × Bool} (h : QueueArmed queue) :
    (if queue.2 then queue.1 else []) = [] ↔ queue.2 = false := by
  split_ifs with htimer
  · exact iff_of_false (h.1 htimer) (by simp [htimer])
  · exact iff_of_true rfl (Bool.not_eq_true _ ▸ htimer)

/-! ## Item views -/

namespace Sys

/-- The references that an event takes for `changed_items`: none, as `g_list_append` takes none. -/
def takes (_ : Sys) (_ : Event) : List ItemRef := []

/-- The references that `_item_changed_timeout_cb` releases. -/
def releases (s : Sys) : Event → List ItemRef
  | .refreshTimeout => if s.view.refreshTimeoutId then s.view.changedItems else []
  | _ => []

/-- The refresh timer does not fire. -/
def NoRefresh (s : Sys) : Event → Prop
  | .refreshTimeout => s.view.refreshTimeoutId = false
  | _ => True

end Sys

namespace SwItemView

/-- A changed item is queued once, and the timer is armed. -/
theorem queueArmed_itemChangedCb {h : Heap} {o : ItemRef} {v : SwItemView}
    (hv : QueueArmed v.refreshQueue) : QueueArmed (itemChangedCb h o v).refreshQueue := by
  rw [itemChangedCb_eq]
  split_ifs with hready hmem
  · exact iff_of_true rfl (List.ne_nil_of_mem hmem)
  · exact iff_of_true rfl (List.append_ne_nil_of_right_ne_nil _ (List.cons_ne_nil o []))
  · exact hv

theorem queueArmed_onItemEvent {h : Heap} {e : ItemEvent} {v : SwItemView}
    (hv : QueueArmed v.refreshQueue) : QueueArmed (onItemEvent h e v).refreshQueue := by
  have hnotified : ∀ h' : Heap, QueueArmed (v.onNotifyReady h' e.ref).refreshQueue := by
    intro h'
    rw [onNotifyReady_eq]
    split_ifs
    · exact hv
    · exact hv
  have hchanged : ∀ w : SwItemView, QueueArmed w.refreshQueue →
      QueueArmed (w.onChanged (e.heap h) e.ref).refreshQueue := by
    intro w hw
    rw [onChanged_eq]
    split_ifs
    · exact queueArmed_itemChangedCb hw
    · exact hw
  unfold onItemEvent
  dsimp only
  split_ifs
  · exact hchanged _ (hnotified _)
  · exact hchanged v hv
  · exact hnotified _
  · exact hv

end SwItemView

namespace Sys

theorem queueArmed_step {s : Sys} (hs : QueueArmed s.view.refreshQueue) (e : Event) :
    QueueArmed (s.step e).view.refreshQueue := by
  cases e with
  | item e => exact SwItemView.queueArmed_onItemEvent hs
  | refreshTimeout =>
    dsimp only [step]
    split_ifs
    · exact queueArmed_empty
    · exact hs
  | _ =>
    rw [refreshQueue_step s (by simp) (by simp)]
    exact hs

/-- Something is released whenever the timer fires. -/
theorem releases_eq_nil_iff {s : Sys} (hs : QueueArmed s.view.refreshQueue) (e : Event) :
    s.releases e = [] ↔ s.NoRefresh e := by
  cases e with
  | refreshTimeout => exact hs.flushed_eq_nil_iff
  | _ => exact iff_of_true rfl trivial

theorem balanced_iff (h : Heap) (es : List Event) :
    EveryState (Ledger.booked step takes releases) (fun p => p.2.Balanced)
        (start h, Ledger.empty) es ↔
      EveryStep step NoRefresh (start h) es := by
  have htakes : ∀ s e, takes s e = [] := fun _ _ => rfl
  rw [Ledger.everyState_balanced_iff htakes]
  exact everyStep_iff (I := fun s => QueueArmed s.view.refreshQueue)
    (fun _ e hs => releases_eq_nil_iff hs e) (fun _ e hs _ => queueArmed_step hs e)
    queueArmed_empty

end Sys

/-! ## Contact views -/

namespace SwContactView

/-- The references that an operation takes for `changed_contacts`. -/
def takes (_ : SwContactView) (_ : ContactHeap × ViewOp ContactRef.uid) : List ContactRef := []

/-- The references that `_contact_changed_timeout_cb` releases. -/
def releases (w : SwContactView) : ContactHeap × ViewOp ContactRef.uid → List ContactRef
  | (_, .refreshTimeout) => if w.refreshTimeoutId then w.changedContacts else []
  | _ => []

/-- The refresh timer does not fire. -/
def NoRefresh (w : SwContactView) : ContactHeap × ViewOp ContactRef.uid → Prop
  | (_, .refreshTimeout) => w.refreshTimeoutId = false
  | _ => True

/-- The list of changed contacts and its timer. -/
def refreshQueue (w : SwContactView) : List ContactRef × Bool :=
  (w.changedContacts, w.refreshTimeoutId)

section

variable (k : ContactHeap) (order : KeyOrder ContactRef) (contacts : List ContactRef)
  (w : SwContactView)

/-- A loop that leaves the queue alone in each turn. -/
theorem refreshQueue_foldl {β : Type}
    {body : SwContactView × β → ContactRef → SwContactView × β}
    (hbody : ∀ p contact, (body p contact).1.refreshQueue = p.1.refreshQueue)
    (p : SwContactView × β) : (contacts.foldl body p).1.refreshQueue = p.1.refreshQueue := by
  induction contacts generalizing p with
  | nil => rfl
  | cons contact contacts ih =>
    rw [List.foldl_cons, ih, hbody]

theorem refreshQueue_addContacts : (w.addContacts k contacts).refreshQueue = w.refreshQueue := by
  have hbody : ∀ p contact, (addContact k p contact).1.refreshQueue = p.1.refreshQueue := by
    rintro ⟨v, ptrArray⟩ contact
    dsimp only [addContact]
    split_ifs <;> rfl
  have hloop := refreshQueue_foldl contacts hbody (w, [])
  unfold addContacts
  dsimp only
  split_ifs
  · exact hloop
  · exact hloop

theorem refreshQueue_updateContacts :
    (w.updateContacts k contacts).refreshQueue = w.refreshQueue := by
  unfold updateContacts
  dsimp only
  split_ifs <;> rfl

theorem refreshQueue_updateExisting (set : ContactSet) :
    (w.updateExisting k order set).refreshQueue = w.refreshQueue := by
  have hbody : ∀ p contact, (updateContact k p contact).1.refreshQueue = p.1.refreshQueue := by
    rintro ⟨v, contactsToSend⟩ contact
    dsimp only [updateContact]
    cases v.uidToContacts.lookup contact.uid with
    | none => rfl
    | some oldContact =>
      dsimp only
      split_ifs <;> rfl
  have hloop := refreshQueue_foldl (SwSet.asList order set) hbody (w, [])
  exact (refreshQueue_updateContacts k _ _).trans hloop

theorem refreshQueue_addFromSet {κ : Type} {key : ContactRef → κ} (set : SwSet key) :
    (w.addFromSet k order set).refreshQueue = w.refreshQueue :=
  refreshQueue_addContacts k _ _

theorem refreshQueue_removeFromSet {κ : Type} {key : ContactRef → κ} (set : SwSet key) :
    (w.removeFromSet k order set).refreshQueue = w.refreshQueue := by
  unfold removeFromSet removeContacts
  dsimp only
  split_ifs <;> rfl

theorem refreshQueue_setFromSet (set : ContactSet) :
    (w.setFromSet k order set).refreshQueue = w.refreshQueue := by
  unfold setFromSet
  dsimp only
  split_ifs <;>
    simp only [refreshQueue_addFromSet, refreshQueue_updateExisting, refreshQueue_removeFromSet]

theorem refreshQueue_handleReadyPendingCb :
    (w.handleReadyPendingCb k order).refreshQueue = w.refreshQueue :=
  refreshQueue_addContacts k _ _

theorem refreshQueue_onNotifyReady (contact : ContactRef) :
    (w.onNotifyReady k contact).refreshQueue = w.refreshQueue := by
  unfold onNotifyReady contactReadyNotifyCb
  dsimp only
  split_ifs <;> rfl

end

/-- A changed contact is queued once, and the timer is armed. -/
theorem queueArmed_contactChangedCb {k : ContactHeap} {contact : ContactRef} {w : SwContactView}
    (hw : QueueArmed w.refreshQueue) : QueueArmed (contactChangedCb k contact w).refreshQueue := by
  have hqueued : w.changedContacts ++ [contact] ≠ [] :=
    List.append_ne_nil_of_right_ne_nil _ (List.cons_ne_nil contact [])
  unfold contactChangedCb
  dsimp only
  split_ifs with hready hmem htimer htimer
  · exact hw
  · exact iff_of_true rfl (List.ne_nil_of_mem hmem)
  · exact hw
  · exact iff_of_true rfl hqueued
  · have harmed : w.refreshTimeoutId = true := by simpa using htimer
    exact iff_of_true harmed hqueued

theorem queueArmed_onChanged {k : ContactHeap} {contact : ContactRef} {w : SwContactView}
    (hw : QueueArmed w.refreshQueue) : QueueArmed (w.onChanged k contact).refreshQueue := by
  unfold onChanged
  generalize w.changedHandlers.filter (· = contact) = connections
  induction connections generalizing w with
  | nil => exact hw
  | cons connection connections ih => exact ih (queueArmed_contactChangedCb hw)

theorem queueArmed_step {w : SwContactView} (hw : QueueArmed w.refreshQueue)
    (e : ContactHeap × ViewOp ContactRef.uid) : QueueArmed (w.step e).refreshQueue := by
  obtain ⟨k, op⟩ := e
  cases op with
  | addFromSet order set => exact (refreshQueue_addFromSet k order w set).symm ▸ hw
  | removeFromSet order set => exact (refreshQueue_removeFromSet k order w set).symm ▸ hw
  | setFromSet order set => exact (refreshQueue_setFromSet k order w set).symm ▸ hw
  | notifyReady contact => exact (refreshQueue_onNotifyReady k w contact).symm ▸ hw
  | changed contact => exact queueArmed_onChanged hw
  | pendingTimeout order =>
    dsimp only [step]
    split_ifs
    · exact (refreshQueue_handleReadyPendingCb k order w).symm ▸ hw
    · exact hw
  | refreshTimeout =>
    dsimp only [step]
    split_ifs
    · exact queueArmed_empty
    · exact hw

theorem releases_eq_nil_iff {w : SwContactView} (hw : QueueArmed w.refreshQueue)
    (e : ContactHeap × ViewOp ContactRef.uid) : w.releases e = [] ↔ w.NoRefresh e := by
  obtain ⟨k, op⟩ := e
  cases op with
  | refreshTimeout => exact hw.flushed_eq_nil_iff
  | _ => exact iff_of_true rfl trivial

theorem balanced_iff (es : List (ContactHeap × ViewOp ContactRef.uid)) :
    EveryState (Ledger.booked step takes releases) (fun p => p.2.Balanced) (init, Ledger.empty)
        es ↔
      EveryStep step NoRefresh init es := by
  have htakes : ∀ w e, takes w e = [] := fun _ _ => rfl
  rw [Ledger.everyState_balanced_iff htakes]
  exact everyStep_iff (I := fun w => QueueArmed w.refreshQueue)
    (fun _ e hw => releases_eq_nil_iff hw e) (fun _ e hw _ => queueArmed_step hw e)
    queueArmed_empty

end SwContactView

/-! ## The main result -/

/-- **The references of the changed objects are balanced exactly in the runs in which the refresh
timer never fires**, in an item view and in a contact view. -/
theorem changedReferences_balanced_iff (h : Heap) (es : List Event)
    (fs : List (ContactHeap × ViewOp ContactRef.uid)) :
    (EveryState (Ledger.booked Sys.step Sys.takes Sys.releases) (fun p => p.2.Balanced)
        (Sys.start h, Ledger.empty) es ↔
      EveryStep Sys.step Sys.NoRefresh (Sys.start h) es) ∧
    (EveryState (Ledger.booked SwContactView.step SwContactView.takes SwContactView.releases)
        (fun p => p.2.Balanced) (SwContactView.init, Ledger.empty) fs ↔
      EveryStep SwContactView.step SwContactView.NoRefresh SwContactView.init fs) :=
  ⟨Sys.balanced_iff h es, SwContactView.balanced_iff fs⟩

/-- An item is added and changes, and the timer fires. -/
def changedOnce : List Event :=
  let item : ItemRef := ⟨1, "1"⟩
  [.addFromSet (.stored _) (KeySet.empty.add item), .item (.touch item), .refreshTimeout]

/-- The item is then released once, and was never referenced for the list. -/
theorem changedOnce_not_balanced :
    ¬ ∀ (h : Heap) (es : List Event),
      EveryState (Ledger.booked Sys.step Sys.takes Sys.releases) (fun p => p.2.Balanced)
        (Sys.start h, Ledger.empty) es := by
  intro hall
  have hlast := (hall (Heap.plain ⟨0, "flickr"⟩) changedOnce).last ⟨1, "1"⟩
  exact absurd hlast (by decide)

end LibSocialWeb
