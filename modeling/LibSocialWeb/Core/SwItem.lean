import LibSocialWeb.Core.SwSet
import Mathlib.Data.List.AList

/-!
# `SwItem` (`libsocialweb/sw-item.c`)

An item is a table of strings with a service and a count of the fetches that delay its
readiness.

**Keys.** The table hashes the addresses of its keys. `sw_item_put`, `sw_item_take` and
`sw_item_get` intern the key first; `sw_item_equal` looks up the literal `"cached"` as it stands.
`KeyPtr` keeps the two apart.

**References.** An `ItemRef` is the address of an item together with the id it carries. A view
compares items by id (`item_hash`, `item_equal`), and an item keeps its id once a view has it, so
the id belongs to the reference. A `Heap` gives the current data of every item, and its data
agrees with the ids of the references.

**Signals.** `sw_item_touch` emits `changed`; `sw_item_pop_pending` notifies `ready` when the
count reaches zero and then touches the item. `ItemEvent` lists what can happen to an item.
-/

namespace LibSocialWeb

/-- A service object and the name its class gives it. -/
structure SwService where
  addr : Nat
  name : String
  deriving DecidableEq, Repr

/-- The address of a key: the one `g_intern_string` returns, or that of a string literal. -/
inductive KeyPtr where
  | interned (s : String)
  | literal (s : String)
  deriving DecidableEq, Repr

/-- The string at the address. -/
def KeyPtr.str : KeyPtr → String
  | interned s => s
  | literal s => s

structure SwItem where
  service : SwService
  hash : AList fun _ : KeyPtr => String
  remainingFetches : Int
  deriving DecidableEq

namespace SwItem

/-- The table of `sw_item_put` and `sw_item_take` (which differ in who owns the string). -/
def put (item : SwItem) (key : String) (value : Option String) : SwItem :=
  { item with hash := match value with
      | some v => item.hash.insert (.interned key) v
      | none => item.hash.erase (.interned key) }

def get (item : SwItem) (key : String) : Option String := item.hash.lookup (.interned key)

def getReady (item : SwItem) : Bool := item.remainingFetches == 0

def pushPending (item : SwItem) : SwItem :=
  { item with remainingFetches := item.remainingFetches + 1 }

/-- The item after `sw_item_pop_pending`, and whether `ready` is notified. -/
def popPending (item : SwItem) : SwItem × Bool :=
  let item := { item with remainingFetches := item.remainingFetches - 1 }
  (item, item.remainingFetches == 0)

/-- `sw_item_equal` -/
def equal (a b : SwItem) : Bool :=
  if a.service ≠ b.service then false
  else if a.remainingFetches ≠ b.remainingFetches then false
  else
    let sizeOf (item : SwItem) : Nat :=
      if (item.hash.lookup (.literal "cached")).isSome then item.hash.entries.length - 1
      else item.hash.entries.length
    if sizeOf a ≠ sizeOf b then false
    else a.hash.entries.all fun ⟨keyA, valueA⟩ =>
      if keyA.str = "cached" then true
      else match b.hash.lookup keyA with
        | none => false
        | some valueB => valueA == valueB

/-- A ready item that carries nothing but its id. -/
def plain (service : SwService) (uid : String) : SwItem :=
  ⟨service, AList.singleton (.interned "id") uid, 0⟩

@[simp] theorem plain_service (service : SwService) (uid : String) :
    (plain service uid).service = service := rfl

@[simp] theorem plain_entries (service : SwService) (uid : String) :
    (plain service uid).hash.entries = [⟨.interned "id", uid⟩] := rfl

theorem get_put_self (item : SwItem) (key : String) (value : Option String) :
    (item.put key value).get key = value := by
  cases value with
  | none => exact AList.lookup_erase _ _
  | some v => exact AList.lookup_insert _

theorem get_put_of_ne {item : SwItem} {key key' : String} (h : key' ≠ key) (value : Option String) :
    (item.put key value).get key' = item.get key' := by
  have hne : KeyPtr.interned key' ≠ KeyPtr.interned key := fun he => h (KeyPtr.interned.inj he)
  cases value with
  | none => exact AList.lookup_erase_ne hne
  | some v => exact AList.lookup_insert_ne hne

@[simp] theorem get_pushPending (item : SwItem) (key : String) :
    item.pushPending.get key = item.get key := rfl

@[simp] theorem get_popPending (item : SwItem) (key : String) :
    item.popPending.1.get key = item.get key := rfl

@[simp] theorem getReady_put (item : SwItem) (key : String) (value : Option String) :
    (item.put key value).getReady = item.getReady := rfl

theorem getReady_iff {item : SwItem} : item.getReady = true ↔ item.remainingFetches = 0 := by
  simp [getReady]

@[simp] theorem popPending_snd (item : SwItem) :
    item.popPending.2 = item.popPending.1.getReady := rfl

/-- An item equals itself. -/
theorem equal_self (item : SwItem) : item.equal item = true := by
  unfold equal
  simp only [ne_eq, not_true_eq_false, if_false, List.all_eq_true]
  intro entry hmem
  rcases entry with ⟨key, value⟩
  split_ifs
  · rfl
  · rw [AList.mem_lookup_iff.2 hmem]
    exact beq_self_eq_true value

end SwItem

/-! ## References and the heap -/

/-- An item object: its address and its id. -/
structure ItemRef where
  addr : Nat
  uid : String
  deriving DecidableEq, Repr

/-- The sets `sw_item_set_new` makes: items are compared by id. -/
abbrev ItemSet := SwSet ItemRef.uid

/-- The data of every item. -/
structure Heap where
  item : ItemRef → SwItem
  id_eq : ∀ o, (item o).get "id" = some o.uid

namespace Heap

/-- Change the data of one item, but not its id. -/
def set (h : Heap) (o : ItemRef) (item : SwItem) (hid : item.get "id" = some o.uid) : Heap where
  item := Function.update h.item o item
  id_eq o' := by
    by_cases ho : o' = o
    · subst ho; simpa using hid
    · simpa [ho] using h.id_eq o'

def ready (h : Heap) (o : ItemRef) : Bool := (h.item o).getReady

/-- `sw_item_equal` on two references. -/
def equal (h : Heap) (a b : ItemRef) : Bool := (h.item a).equal (h.item b)

theorem equal_self (h : Heap) (o : ItemRef) : h.equal o o = true := (h.item o).equal_self

/-- Every item is ready and carries nothing but its id. -/
def plain (service : SwService) : Heap where
  item o := .plain service o.uid
  id_eq _ := AList.lookup_insert ∅

end Heap

/-- What can happen to an item outside of a view. `put` is `sw_item_put` or `sw_item_take`, which
never change the id of an item that a view has; `touch` is a bare `sw_item_touch`. -/
inductive ItemEvent where
  | pushPending (o : ItemRef)
  | popPending (o : ItemRef)
  | put (o : ItemRef) (key : String) (value : Option String) (hkey : key ≠ "id")
  | touch (o : ItemRef)

namespace ItemEvent

/-- The item gets a title. -/
def setTitle (o : ItemRef) (title : String) : ItemEvent := .put o "title" title (by decide)

/-- The item it happens to. -/
def ref : ItemEvent → ItemRef
  | pushPending o => o
  | popPending o => o
  | put o _ _ _ => o
  | touch o => o

/-- The heap after the event. -/
def heap (h : Heap) : ItemEvent → Heap
  | pushPending o => h.set o (h.item o).pushPending (by simpa using h.id_eq o)
  | popPending o => h.set o (h.item o).popPending.1 (by simpa using h.id_eq o)
  | put o key value hkey =>
      h.set o ((h.item o).put key value) (by
        rw [SwItem.get_put_of_ne (Ne.symm hkey)]; exact h.id_eq o)
  | touch _ => h

/-- The event notifies `ready` on its item. -/
def notifiesReady (h : Heap) : ItemEvent → Bool
  | popPending o => (h.item o).popPending.2
  | _ => false

/-- The event emits `changed` on its item. -/
def emitsChanged : ItemEvent → Bool
  | pushPending _ => false
  | _ => true

@[simp] theorem ready_of_ne {h : Heap} {e : ItemEvent} {o : ItemRef} (ho : o ≠ e.ref) :
    (e.heap h).ready o = h.ready o := by
  cases e <;> simp_all [heap, ref, Heap.set, Heap.ready]

/-- `put` and `touch` leave every item as ready as it was. -/
@[simp] theorem ready_put (h : Heap) (o o' : ItemRef) (key : String) (value : Option String)
    (hkey : key ≠ "id") : ((put o key value hkey).heap h).ready o' = h.ready o' := by
  by_cases ho : o' = o
  · subst ho; simp [heap, Heap.set, Heap.ready]
  · exact ready_of_ne ho

@[simp] theorem ready_touch (h : Heap) (o o' : ItemRef) :
    ((touch o).heap h).ready o' = h.ready o' :=
  rfl

@[simp] theorem remaining_pushPending (h : Heap) (o : ItemRef) :
    (((pushPending o).heap h).item o).remainingFetches = (h.item o).remainingFetches + 1 := by
  simp [heap, Heap.set, SwItem.pushPending]

@[simp] theorem remaining_popPending (h : Heap) (o : ItemRef) :
    (((popPending o).heap h).item o).remainingFetches = (h.item o).remainingFetches - 1 := by
  simp [heap, Heap.set, SwItem.popPending]

end ItemEvent

end LibSocialWeb
