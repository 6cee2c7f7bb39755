import LibSocialWeb.Core.SwItem

/-!
# `SwContact` (`libsocialweb/sw-contact.c`)

A contact is an item with a list of strings for each key: `sw_contact_put` appends a value,
`sw_contact_get` returns the first one. As with items, the table hashes the addresses of its keys,
a `ContactRef` is the address of a contact with the id that it keeps, and a `ContactHeap` gives
the current data of every contact.
-/

namespace LibSocialWeb

structure SwContact where
  service : SwService
  hash : AList fun _ : KeyPtr => List String
  remainingFetches : Int
  deriving DecidableEq

namespace SwContact

/-- `sw_contact_new` and `sw_contact_set_service` -/
def new (service : SwService) : SwContact := ⟨service, ∅, 0⟩

/-- `sw_contact_get_all` -/
def getAll (contact : SwContact) (key : String) : Option (List String) :=
  contact.hash.lookup (.interned key)

/-- `sw_contact_get`: the first value, NULL if the list is empty. -/
def get (contact : SwContact) (key : String) : Option String :=
  (contact.getAll key).bind List.head?

/-- The table of `sw_contact_put` and `sw_contact_take`. A NULL value ends the new list. -/
def put (contact : SwContact) (key : String) (value : Option String) : SwContact :=
  { contact with
    hash := contact.hash.insert (.interned key) ((contact.getAll key).getD [] ++ value.toList) }

def getReady (contact : SwContact) : Bool := contact.remainingFetches == 0

def pushPending (contact : SwContact) : SwContact :=
  { contact with remainingFetches := contact.remainingFetches + 1 }

/-- The contact after `sw_contact_pop_pending`. -/
def popPending (contact : SwContact) : SwContact :=
  { contact with remainingFetches := contact.remainingFetches - 1 }

/-- `sw_contact_equal`; the length of a NULL list is 0. -/
def equal (a b : SwContact) : Bool :=
  if a.service ≠ b.service then false
  else if a.remainingFetches ≠ b.remainingFetches then false
  else
    let sizeOf (contact : SwContact) : Nat :=
      if (contact.get "cached").isSome then contact.hash.entries.length - 1
      else contact.hash.entries.length
    if sizeOf a ≠ sizeOf b then false
    else a.hash.entries.all fun ⟨keyA, valueA⟩ =>
      if keyA.str = "cached" then true
      else valueA == (b.getAll keyA.str).getD []

/-- A ready contact that carries nothing but its id. -/
def plain (service : SwService) (uid : String) : SwContact :=
  ⟨service, AList.singleton (.interned "id") [uid], 0⟩

@[simp] theorem plain_service (service : SwService) (uid : String) :
    (plain service uid).service = service := rfl

@[simp] theorem plain_entries (service : SwService) (uid : String) :
    (plain service uid).hash.entries = [⟨.interned "id", [uid]⟩] := rfl

@[simp] theorem getAll_put_self (contact : SwContact) (key : String) (value : Option String) :
    (contact.put key value).getAll key = some ((contact.getAll key).getD [] ++ value.toList) :=
  AList.lookup_insert _

theorem getAll_put_of_ne {contact : SwContact} {key key' : String} (h : key' ≠ key)
    (value : Option String) : (contact.put key value).getAll key' = contact.getAll key' :=
  AList.lookup_insert_ne fun he => h (KeyPtr.interned.inj he)

theorem get_put_of_ne {contact : SwContact} {key key' : String} (h : key' ≠ key)
    (value : Option String) : (contact.put key value).get key' = contact.get key' := by
  rw [get, getAll_put_of_ne h]
  rfl

/-- Putting the values of a list one after the other appends the list. -/
theorem getAll_foldl_put (contact : SwContact) (key : String) (values : List String)
    (hne : values ≠ []) (k : String) :
    (values.foldl (fun c value => c.put key (some value)) contact).getAll k =
      if k = key then some ((contact.getAll key).getD [] ++ values) else contact.getAll k := by
  induction values generalizing contact with
  | nil => exact absurd rfl hne
  | cons value values ih =>
    rw [List.foldl_cons]
    by_cases hnil : values = []
    · subst hnil
      split_ifs with hk
      · subst hk
        exact getAll_put_self _ _ _
      · exact getAll_put_of_ne hk _
    · rw [ih _ hnil, getAll_put_self]
      split_ifs with hk
      · simp
      · exact getAll_put_of_ne hk _

theorem service_foldl_put (contact : SwContact) (key : String) (values : List String) :
    (values.foldl (fun c value => c.put key (some value)) contact).service = contact.service := by
  induction values generalizing contact with
  | nil => rfl
  | cons value values ih => exact ih _

theorem remainingFetches_foldl_put (contact : SwContact) (key : String) (values : List String) :
    (values.foldl (fun c value => c.put key (some value)) contact).remainingFetches =
      contact.remainingFetches := by
  induction values generalizing contact with
  | nil => rfl
  | cons value values ih => exact ih _

end SwContact

/-! ## References and the heap -/

/-- A contact object: its address and its id. -/
structure ContactRef where
  addr : Nat
  uid : String
  deriving DecidableEq, Repr

/-- The sets `sw_contact_set_new` makes: contacts are compared by id. -/
abbrev ContactSet := SwSet ContactRef.uid

/-- The data of every contact. -/
structure ContactHeap where
  contact : ContactRef → SwContact
  id_eq : ∀ o, (contact o).get "id" = some o.uid

namespace ContactHeap

def ready (h : ContactHeap) (o : ContactRef) : Bool := (h.contact o).getReady

/-- `sw_contact_equal` on two references. -/
def equal (h : ContactHeap) (a b : ContactRef) : Bool := (h.contact a).equal (h.contact b)

/-- Every contact is ready and carries nothing but its id. -/
def plain (service : SwService) : ContactHeap where
  contact o := .plain service o.uid
  id_eq o := by
    have h : (SwContact.plain service o.uid).getAll "id" = some [o.uid] := AList.lookup_insert ∅
    rw [SwContact.get, h]
    rfl

end ContactHeap

end LibSocialWeb
