import LibSocialWeb.Core.SwContact

/-!
# `SwContactView` (`libsocialweb/sw-contact-view.c`)

The view of contacts was copied from the view of items and is maintained by hand. It has the same
collections, handlers and timers. It has drifted in two places: no signal with an empty array is
emitted, and there is no `remove_by_uid`.
-/

namespace LibSocialWeb

/-- What `_sw_contact_to_value_array` packs for the bus. The third element of the struct is the
time that libsoup reads from `date`. -/
structure ContactStruct where
  service : String
  uuid : String
  date : Option String
  props : List (String × List String)
  deriving DecidableEq

/-- `_sw_contact_to_value_array` -/
def ContactHeap.toValueArray (h : ContactHeap) (o : ContactRef) : ContactStruct where
  service := (h.contact o).service.name
  uuid := o.uid
  date := (h.contact o).get "date"
  props := (h.contact o).hash.entries.map fun e => (e.1.str, e.2)

/-- The signals of the contact view interface. `ContactsRemoved` carries service name and id. -/
inductive ContactSignal where
  | contactsAdded (contacts : List ContactStruct)
  | contactsChanged (contacts : List ContactStruct)
  | contactsRemoved (contacts : List (String × String))
  deriving DecidableEq

structure SwContactView where
  currentContactsSet : ContactSet
  pendingContactsSet : ContactSet
  pendingTimeoutId : Bool
  refreshTimeoutId : Bool
  uidToContacts : AList fun _ : String => ContactRef
  changedContacts : List ContactRef
  readyHandlers : List ContactRef
  changedHandlers : List ContactRef
  emitted : List ContactSignal

namespace SwContactView

/-- `sw_contact_view_init` -/
def init : SwContactView where
  currentContactsSet := KeySet.empty
  pendingContactsSet := KeySet.empty
  pendingTimeoutId := false
  refreshTimeoutId := false
  uidToContacts := ∅
  changedContacts := []
  readyHandlers := []
  changedHandlers := []
  emitted := []

def emit (signal : ContactSignal) (v : SwContactView) : SwContactView :=
  { v with emitted := v.emitted ++ [signal] }

/-! ## Handlers and signals -/

def setupReadyHandler (contact : ContactRef) (v : SwContactView) : SwContactView :=
  { v with readyHandlers := contact :: v.readyHandlers }

def setupChangedHandler (contact : ContactRef) (v : SwContactView) : SwContactView :=
  { v with changedHandlers := contact :: v.changedHandlers }

/-- The loop body of `sw_contact_view_add_contacts`. -/
def addContact (h : ContactHeap) :
    SwContactView × List ContactStruct → ContactRef → SwContactView × List ContactStruct
  | (v, contactsPtrArray), contact =>
    if h.ready contact then
      (v.setupChangedHandler contact, contactsPtrArray ++ [h.toValueArray contact])
    else
      let v := v.setupReadyHandler contact
      let v := { v with pendingContactsSet := v.pendingContactsSet.add contact }
      (v.setupChangedHandler contact, contactsPtrArray)

/-- `sw_contact_view_add_contacts`: unlike with items, an empty array is not emitted. -/
def addContacts (h : ContactHeap) (contacts : List ContactRef) (v : SwContactView) :
    SwContactView :=
  let (v, contactsPtrArray) := contacts.foldl (addContact h) (v, [])
  if 0 < contactsPtrArray.length then v.emit (.contactsAdded contactsPtrArray) else v

/-- `sw_contact_view_update_contacts` -/
def updateContacts (h : ContactHeap) (contacts : List ContactRef) (v : SwContactView) :
    SwContactView :=
  let contactsPtrArray := (contacts.filter h.ready).map h.toValueArray
  if 0 < contactsPtrArray.length then v.emit (.contactsChanged contactsPtrArray) else v

/-- `sw_contact_view_remove_contacts`: unlike with items, an empty array is not emitted. -/
def removeContacts (h : ContactHeap) (contacts : List ContactRef) (v : SwContactView) :
    SwContactView :=
  let contactsPtrArray :=
    contacts.map fun contact => ((h.contact contact).service.name, contact.uid)
  if 0 < contactsPtrArray.length then v.emit (.contactsRemoved contactsPtrArray) else v

/-- The loop body of `_handle_ready_pending_cb`. -/
def takeReady (h : ContactHeap) :
    List ContactRef × ContactSet → ContactRef → List ContactRef × ContactSet
  | (contactsToSend, pending), contact =>
    if h.ready contact then (contact :: contactsToSend, pending.remove contact)
    else (contactsToSend, pending)

/-- `_handle_ready_pending_cb`: the pending timer fires. -/
def handleReadyPendingCb (h : ContactHeap) (order : KeyOrder ContactRef) (v : SwContactView) :
    SwContactView :=
  let pendingContacts := SwSet.asList order v.pendingContactsSet
  let (contactsToSend, pending) :=
    pendingContacts.foldl (takeReady h) ([], v.pendingContactsSet)
  let v := addContacts h contactsToSend { v with pendingContactsSet := pending }
  { v with pendingTimeoutId := false }

/-- `_contact_ready_notify_cb` -/
def contactReadyNotifyCb (h : ContactHeap) (contact : ContactRef) (v : SwContactView) :
    SwContactView :=
  if h.ready contact then
    let v := { v with readyHandlers := v.readyHandlers.filter (· ≠ contact) }
    if !v.pendingTimeoutId then { v with pendingTimeoutId := true } else v
  else v

/-- `_contact_changed_cb` -/
def contactChangedCb (h : ContactHeap) (contact : ContactRef) (v : SwContactView) :
    SwContactView :=
  if !h.ready contact then v
  else
    let v := if contact ∈ v.changedContacts then v
      else { v with changedContacts := v.changedContacts ++ [contact] }
    if !v.refreshTimeoutId then { v with refreshTimeoutId := true } else v

/-- `_contact_changed_timeout_cb`: the refresh timer fires. -/
def contactChangedTimeoutCb (h : ContactHeap) (v : SwContactView) : SwContactView :=
  let v := updateContacts h v.changedContacts v
  { v with changedContacts := [], refreshTimeoutId := false }

/-- `notify::ready` on a contact. -/
def onNotifyReady (h : ContactHeap) (contact : ContactRef) (v : SwContactView) : SwContactView :=
  if contact ∈ v.readyHandlers then contactReadyNotifyCb h contact v else v

/-- `changed` on a contact: the handler runs once for each connection. -/
def onChanged (h : ContactHeap) (contact : ContactRef) (v : SwContactView) : SwContactView :=
  (v.changedHandlers.filter (· = contact)).foldl (fun v contact => contactChangedCb h contact v) v

/-! ## Operations on sets -/

/-- `g_hash_table_replace` on the index for each contact of a list. -/
def indexContacts (contacts : List ContactRef) (v : SwContactView) : SwContactView :=
  { v with uidToContacts :=
      contacts.foldl (fun table contact => table.insert contact.uid contact) v.uidToContacts }

/-- `sw_contact_view_add_from_set` -/
def addFromSet {κ : Type} {key : ContactRef → κ} (h : ContactHeap) (order : KeyOrder ContactRef)
    (set : SwSet key) (v : SwContactView) : SwContactView :=
  let v := { v with currentContactsSet := SwSet.addFrom v.currentContactsSet set }
  let contacts := SwSet.asList order set
  addContacts h contacts (v.indexContacts contacts)

/-- `sw_contact_view_remove_from_set` -/
def removeFromSet {κ : Type} {key : ContactRef → κ} (h : ContactHeap)
    (order : KeyOrder ContactRef) (set : SwSet key) (v : SwContactView) : SwContactView :=
  let v := { v with currentContactsSet := SwSet.removeFrom v.currentContactsSet set }
  let contacts := SwSet.asList order set
  let v := { v with
    uidToContacts := contacts.foldl (fun table contact => table.erase contact.uid)
      v.uidToContacts }
  removeContacts h contacts v

/-- The loop body of `sw_contact_view_update_existing`. -/
def updateContact (h : ContactHeap) :
    SwContactView × List ContactRef → ContactRef → SwContactView × List ContactRef
  | (v, contactsToSend), newContact =>
    match v.uidToContacts.lookup newContact.uid with
    | none => (v, contactsToSend)
    | some oldContact =>
      if !h.equal newContact oldContact then
        ({ v with
            uidToContacts := v.uidToContacts.insert newContact.uid newContact
            currentContactsSet := v.currentContactsSet.add newContact },
          contactsToSend ++ [newContact])
      else (v, contactsToSend)

/-- `sw_contact_view_update_existing` -/
def updateExisting (h : ContactHeap) (order : KeyOrder ContactRef) (set : ContactSet)
    (v : SwContactView) : SwContactView :=
  let contacts := SwSet.asList order set
  let (v, contactsToSend) := contacts.foldl (updateContact h) (v, [])
  updateContacts h contactsToSend v

/-- `sw_contact_view_set_from_set` -/
def setFromSet (h : ContactHeap) (order : KeyOrder ContactRef) (set : ContactSet)
    (v : SwContactView) : SwContactView :=
  if v.currentContactsSet.isEmpty then addFromSet h order set v
  else
    let removedContacts := SwSet.difference v.currentContactsSet set
    let addedContacts := SwSet.difference set v.currentContactsSet
    let v := if !removedContacts.isEmpty then removeFromSet h order removedContacts v else v
    let v := updateExisting h order set v
    if !addedContacts.isEmpty then addFromSet h order addedContacts v else v

end SwContactView

end LibSocialWeb
