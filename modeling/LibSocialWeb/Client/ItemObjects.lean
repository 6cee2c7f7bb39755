import LibSocialWeb.Client.ItemView
import LibSocialWeb.ItemView.Coherence
import LibSocialWeb.Lib.RefCount

/-!
# The client's item objects (`libsocialweb-client/sw-client-item-view.c`, `sw-item.c`)

`SwClientItemView` has the data the client knows. In memory this is a table of counted objects: the
table has one reference to each, each signal handler is shown a list that has another one, and the
application may take and drop references of its own. `ItemsChanged` writes to the object that the
table has, so an application that kept a reference sees the new data.

`held` lists the references the application has taken and not dropped. An application may take a
reference to an object it is shown or has one to, and drops only what it has taken: `ActOk`.

**Main results.** `owned_run`: along every run no object is used after it was freed, and an object
lives exactly as long as the table or the application refers to it. `application_upToDate`: what the
application finds in the table is what the view has, with its present data.
-/

namespace LibSocialWeb

open Transition

structure ClientItems where
  memory : RefCount ItemStruct
  uuidToItems : AList fun _ : String => ℕ
  held : List ℕ
  disposed : Bool

namespace ClientItems

/-- `sw_client_item_view_init` -/
def init : ClientItems := ⟨RefCount.empty, ∅, [], false⟩

/-- `g_hash_table_insert`, which drops the reference to the object it replaces. -/
def insertItem (uuid : String) (item : ℕ) (s : ClientItems) : ClientItems :=
  match s.uuidToItems.lookup uuid with
  | some old => { s with
      uuidToItems := s.uuidToItems.insert uuid item
      memory := s.memory.unref old }
  | none => { s with uuidToItems := s.uuidToItems.insert uuid item }

/-- The loop body of `_proxy_items_added_cb`. -/
def addItem : ClientItems × List ℕ → ItemStruct → ClientItems × List ℕ
  | (s, itemsList), varray =>
    let (item, memory) := s.memory.alloc varray
    (insertItem varray.uuid item { s with memory := memory.ref item }, itemsList ++ [item])

/-- The loop body of `_proxy_items_changed_cb`. -/
def changeItem : ClientItems × List ℕ → ItemStruct → ClientItems × List ℕ
  | (s, itemsList), varray =>
    match s.uuidToItems.lookup varray.uuid with
    | some item =>
      ({ s with memory := (s.memory.write item varray).ref item }, itemsList ++ [item])
    | none => (s, itemsList)

/-- The loop body of `_proxy_items_removed_cb`. -/
def removeItem : ClientItems × List ℕ → String × String → ClientItems × List ℕ
  | (s, itemsList), varray =>
    match s.uuidToItems.lookup varray.2 with
    | some item =>
      ({ s with
          memory := (s.memory.ref item).unref item
          uuidToItems := s.uuidToItems.erase varray.2 }, itemsList ++ [item])
    | none => (s, itemsList)

/-- The callback of a signal, up to the emission of its own signal: the list it emits. -/
def prepare (s : ClientItems) : Signal → ClientItems × List ℕ
  | .itemsAdded items => items.foldl addItem (s, [])
  | .itemsChanged items => items.foldl changeItem (s, [])
  | .itemsRemoved items => items.foldl removeItem (s, [])

/-- What the application does with references. -/
inductive Act where
  | ref (item : ℕ)
  | unref (item : ℕ)

def act (s : ClientItems) : Act → ClientItems
  | .ref item => { s with memory := s.memory.ref item, held := item :: s.held }
  | .unref item => { s with memory := s.memory.unref item, held := s.held.erase item }

/-- The callback of a signal: emit, let the handlers act, free the list. -/
def deliver (signal : Signal) (acts : List Act) (s : ClientItems) : ClientItems :=
  let (s, itemsList) := s.prepare signal
  let s := acts.foldl act s
  { s with memory := itemsList.foldl (fun memory item => memory.unref item) s.memory }

/-- `sw_client_item_view_dispose` -/
def dispose (s : ClientItems) : ClientItems :=
  { s with
    memory := (Tables.values s.uuidToItems).foldl (fun memory item => memory.unref item) s.memory
    uuidToItems := ∅
    disposed := true }

/-- What happens to a client view: a signal arrives while it has its proxy, the application acts
outside of a handler, or it disposes of the view. -/
inductive ClientEvent where
  | signal (signal : Signal) (acts : List Act)
  | app (a : Act)
  | dispose

def step (s : ClientItems) : ClientEvent → ClientItems
  | .signal signal acts => if s.disposed then s else s.deliver signal acts
  | .app a => s.act a
  | .dispose => s.dispose

/-- References are taken to what is shown or held, and dropped if held. -/
def ActOk (shown : List ℕ) (s : ClientItems) : Act → Prop
  | .ref item => item ∈ shown ∨ item ∈ s.held
  | .unref item => item ∈ s.held

/-- The application keeps to the rules, in its handlers too. -/
def EventOk (s : ClientItems) : ClientEvent → Prop
  | .signal signal acts => s.disposed = false →
      EveryStep act (ActOk (s.prepare signal).2) (s.prepare signal).1 acts
  | .app a => ActOk [] s a
  | .dispose => True

/-! ## Owners -/

/-- The references of the table and of the application. -/
def owners (s : ClientItems) : List ℕ := Tables.values s.uuidToItems ++ s.held

/-- What the table shows. -/
def lookup (s : ClientItems) (u : String) : Option ItemStruct :=
  (s.uuidToItems.lookup u).bind s.memory.data

/-- During a callback: the list has its references, and the table shows what `c` has. -/
structure Good (s : ClientItems) (itemsList : List ℕ) (c : SwClientItemView) : Prop where
  owned : s.memory.Owned (itemsList ++ s.owners)
  shows : ∀ u, s.lookup u = c.uuidToItems.lookup u
  keyed : ∀ u d, c.uuidToItems.lookup u = some d → d.uuid = u

variable {s : ClientItems} {itemsList : List ℕ} {c : SwClientItemView}

theorem mem_owners_of_lookup {u : String} {item : ℕ} (h : s.uuidToItems.lookup u = some item) :
    item ∈ s.owners :=
  List.mem_append_left _ (Tables.mem_values_of_lookup h)

/-- An object in the table has the data that is shown. -/
theorem Good.data (h : Good s itemsList c) {u : String} {item : ℕ}
    (hitem : s.uuidToItems.lookup u = some item) :
    ∃ d, s.memory.data item = some d ∧ c.uuidToItems.lookup u = some d ∧ d.uuid = u := by
  obtain ⟨d, hd⟩ := h.owned.exists_object (List.mem_append_right _ (mem_owners_of_lookup hitem))
  have hdata : s.memory.data item = some d := by rw [RefCount.data, hd]; rfl
  have hshown : c.uuidToItems.lookup u = some d := by
    rw [← h.shows u, lookup, hitem, Option.bind_some, hdata]
  exact ⟨d, hdata, hshown, h.keyed u d hshown⟩

theorem Good.lookup_none (h : Good s itemsList c) {u : String}
    (hu : s.uuidToItems.lookup u = none) : c.uuidToItems.lookup u = none := by
  rw [← h.shows u, lookup, hu, Option.bind_none]

/-! ## The callbacks -/

theorem good_addItem (h : Good s itemsList c) (varray : ItemStruct) :
    Good (addItem (s, itemsList) varray).1 (addItem (s, itemsList) varray).2
      ⟨c.uuidToItems.insert varray.uuid varray⟩ := by
  have hnew : s.memory.next ∉ itemsList ++ s.owners := h.owned.next_not_mem
  have howned := (h.owned.alloc varray).ref List.mem_cons_self
  have hdata : ∀ b, ((s.memory.alloc varray).2.ref s.memory.next).data b =
      if b = s.memory.next then some varray else s.memory.data b := by
    intro b
    rw [RefCount.data_ref, RefCount.data_alloc]
  have hkeyed : ∀ u d, (c.uuidToItems.insert varray.uuid varray).lookup u = some d →
      d.uuid = u := by
    intro u d hd
    by_cases hu : u = varray.uuid
    · subst hu
      rw [AList.lookup_insert] at hd
      exact Option.some.inj hd ▸ rfl
    · rw [AList.lookup_insert_ne hu] at hd
      exact h.keyed u d hd
  -- What the table shows, with a memory that keeps the data of the owned objects.
  have hshows : ∀ m : RefCount ItemStruct,
      (∀ b ∈ s.memory.next :: Tables.values (s.uuidToItems.erase varray.uuid),
        m.data b = ((s.memory.alloc varray).2.ref s.memory.next).data b) →
      ∀ u, ((s.uuidToItems.insert varray.uuid s.memory.next).lookup u).bind m.data =
        (c.uuidToItems.insert varray.uuid varray).lookup u := by
    intro m hm u
    by_cases hu : u = varray.uuid
    · subst hu
      rw [AList.lookup_insert, AList.lookup_insert, Option.bind_some, hm _ List.mem_cons_self,
        hdata, if_pos rfl]
    · rw [AList.lookup_insert_ne hu, AList.lookup_insert_ne hu, ← h.shows u, lookup]
      cases hb : s.uuidToItems.lookup u with
      | none => rfl
      | some b =>
        have hkept : (s.uuidToItems.erase varray.uuid).lookup u = some b := by
          rw [AList.lookup_erase_ne hu, hb]
        have hne : b ≠ s.memory.next := fun heq =>
          hnew (heq ▸ List.mem_append_right _ (mem_owners_of_lookup hb))
        rw [Option.bind_some, Option.bind_some,
          hm b (List.mem_cons_of_mem _ (Tables.mem_values_of_lookup hkept)), hdata, if_neg hne]
  dsimp only [addItem, insertItem]
  cases hold : s.uuidToItems.lookup varray.uuid with
  | none =>
    refine ⟨?_, hshows _ fun _ _ => rfl, hkeyed⟩
    refine howned.perm (List.perm_iff_count.2 fun b => ?_)
    simp only [owners, RefCount.alloc_fst, Tables.values_insert,
      Tables.values_erase_of_none hold, List.count_append, List.count_cons, List.count_nil]
    omega
  | some old =>
    have hunref : ((s.memory.alloc varray).2.ref s.memory.next).Owned (old ::
        (itemsList ++ [s.memory.next] ++
          (s.memory.next :: Tables.values (s.uuidToItems.erase varray.uuid) ++ s.held))) := by
      refine howned.perm (List.perm_iff_count.2 fun b => ?_)
      have hperm := (Tables.perm_values hold).count_eq b
      simp only [owners, List.count_append, List.count_cons, List.count_nil] at hperm ⊢
      omega
    refine ⟨?_, hshows _ fun b hb => ?_, hkeyed⟩
    · have hafter := hunref.unref
      rwa [← Tables.values_insert] at hafter
    · refine RefCount.data_unref hunref (List.mem_append_right _ (List.mem_append_left _ hb))

theorem good_changeItem (h : Good s itemsList c) (varray : ItemStruct) :
    Good (changeItem (s, itemsList) varray).1 (changeItem (s, itemsList) varray).2
      (match c.uuidToItems.lookup varray.uuid with
        | some _ => ⟨c.uuidToItems.replace varray.uuid varray⟩
        | none => c) := by
  dsimp only [changeItem]
  cases hitem : s.uuidToItems.lookup varray.uuid with
  | none =>
    rw [h.lookup_none hitem]
    exact h
  | some item =>
    obtain ⟨d, hdata, hshown, hd⟩ := h.data hitem
    have hmem : item ∈ itemsList ++ s.owners :=
      List.mem_append_right _ (mem_owners_of_lookup hitem)
    rw [hshown]
    refine ⟨?_, fun u => ?_, fun u d' hu => ?_⟩
    · refine ((h.owned.write hmem varray).ref hmem).perm (List.perm_iff_count.2 fun b => ?_)
      simp only [owners, List.count_append, List.count_cons, List.count_nil]
      omega
    · show (s.uuidToItems.lookup u).bind _ = (c.uuidToItems.replace varray.uuid varray).lookup u
      rw [Tables.lookup_replace]
      by_cases hu : u = varray.uuid
      · subst hu
        rw [if_pos rfl, hitem, hshown, Option.bind_some, RefCount.data_ref,
          RefCount.data_write h.owned hmem, if_pos rfl]
        rfl
      · rw [if_neg hu, ← h.shows u, lookup]
        cases hb : s.uuidToItems.lookup u with
        | none => rfl
        | some b =>
          -- Another id has another object: the data of this one has the id of the change.
          have hne : b ≠ item := by
            rintro rfl
            obtain ⟨d', hdata', -, hd'⟩ := h.data hb
            rw [hdata] at hdata'
            exact hu (hd'.symm.trans (Option.some.inj hdata' ▸ hd))
          rw [Option.bind_some, Option.bind_some, RefCount.data_ref,
            RefCount.data_write h.owned hmem, if_neg hne]
    · rw [Tables.lookup_replace] at hu
      by_cases huv : u = varray.uuid
      · rw [if_pos huv, hshown] at hu
        obtain rfl : varray = d' := Option.some.inj hu
        exact huv.symm
      · rw [if_neg huv] at hu
        exact h.keyed u d' hu

theorem good_removeItem (h : Good s itemsList c) (varray : String × String) :
    Good (removeItem (s, itemsList) varray).1 (removeItem (s, itemsList) varray).2
      (match c.uuidToItems.lookup varray.2 with
        | some _ => ⟨c.uuidToItems.erase varray.2⟩
        | none => c) := by
  dsimp only [removeItem]
  cases hitem : s.uuidToItems.lookup varray.2 with
  | none =>
    rw [h.lookup_none hitem]
    exact h
  | some item =>
    obtain ⟨d, -, hshown, -⟩ := h.data hitem
    have hmem : item ∈ itemsList ++ s.owners :=
      List.mem_append_right _ (mem_owners_of_lookup hitem)
    have hunref : (s.memory.ref item).Owned (item :: (itemsList ++ [item] ++
        (Tables.values (s.uuidToItems.erase varray.2) ++ s.held))) := by
      refine (h.owned.ref hmem).perm (List.perm_iff_count.2 fun b => ?_)
      have hperm := (Tables.perm_values hitem).count_eq b
      simp only [owners, List.count_append, List.count_cons, List.count_nil] at hperm ⊢
      omega
    rw [hshown]
    refine ⟨hunref.unref, fun u => ?_, fun u d' hu => ?_⟩
    · show ((s.uuidToItems.erase varray.2).lookup u).bind _ =
        (c.uuidToItems.erase varray.2).lookup u
      by_cases hu : u = varray.2
      · rw [hu, AList.lookup_erase, AList.lookup_erase]
        rfl
      · rw [AList.lookup_erase_ne hu, AList.lookup_erase_ne hu, ← h.shows u, lookup]
        cases hb : s.uuidToItems.lookup u with
        | none => rfl
        | some b =>
          have hkept : (s.uuidToItems.erase varray.2).lookup u = some b := by
            rw [AList.lookup_erase_ne hu, hb]
          have hin : b ∈ itemsList ++ [item] ++
              (Tables.values (s.uuidToItems.erase varray.2) ++ s.held) :=
            List.mem_append_right _ (List.mem_append_left _ (Tables.mem_values_of_lookup hkept))
          rw [Option.bind_some, Option.bind_some, RefCount.data_unref hunref hin,
            RefCount.data_ref]
    · by_cases huv : u = varray.2
      · rw [huv, AList.lookup_erase] at hu
        cases hu
      · rw [AList.lookup_erase_ne huv] at hu
        exact h.keyed u d' hu

/-- A callback that is right for one struct of the message is right for the message. -/
theorem good_foldl {α : Type} {f : ClientItems × List ℕ → α → ClientItems × List ℕ}
    {g : SwClientItemView → α → SwClientItemView}
    (hstep : ∀ s itemsList c x, Good s itemsList c →
      Good (f (s, itemsList) x).1 (f (s, itemsList) x).2 (g c x)) (items : List α)
    (h : Good s itemsList c) :
    Good (items.foldl f (s, itemsList)).1 (items.foldl f (s, itemsList)).2 (items.foldl g c) := by
  induction items generalizing s itemsList c with
  | nil => exact h
  | cons x items ih => exact ih (hstep s itemsList c x h)

/-- **The objects show what the abstract table has when the handlers run.** -/
theorem good_prepare (h : Good s [] c) (signal : Signal) :
    Good (s.prepare signal).1 (s.prepare signal).2 (c.deliver signal) := by
  cases signal with
  | itemsAdded items => exact good_foldl (fun _ _ _ varray h => good_addItem h varray) items h
  | itemsChanged items =>
    exact good_foldl (fun _ _ _ varray h => good_changeItem h varray) items h
  | itemsRemoved items =>
    exact good_foldl (fun _ _ _ varray h => good_removeItem h varray) items h

theorem good_act (h : Good s itemsList c) {a : Act} (ha : ActOk itemsList s a) :
    Good (s.act a) itemsList c := by
  cases a with
  | ref item =>
    have hmem : item ∈ itemsList ++ s.owners :=
      ha.elim (List.mem_append_left _) fun hheld =>
        List.mem_append_right _ (List.mem_append_right _ hheld)
    refine ⟨?_, fun u => ?_, h.keyed⟩
    · refine (h.owned.ref hmem).perm (List.perm_iff_count.2 fun b => ?_)
      simp only [owners, act, List.count_append, List.count_cons]
      omega
    · rw [← h.shows u, lookup, lookup]
      exact congrArg _ (funext fun b => RefCount.data_ref s.memory item b)
  | unref item =>
    have hperm : (itemsList ++ s.owners).Perm
        (item :: (itemsList ++ (Tables.values s.uuidToItems ++ s.held.erase item))) := by
      refine List.perm_iff_count.2 fun b => ?_
      have hheld := (List.perm_cons_erase ha).count_eq b
      simp only [owners, List.count_append, List.count_cons] at hheld ⊢
      omega
    have hunref := h.owned.perm hperm
    refine ⟨hunref.unref, fun u => ?_, h.keyed⟩
    rw [← h.shows u, lookup, lookup]
    show (s.uuidToItems.lookup u).bind (s.memory.unref item).data = _
    cases hb : s.uuidToItems.lookup u with
    | none => rfl
    | some b =>
      exact RefCount.data_unref hunref
        (List.mem_append_right _ (List.mem_append_left _ (Tables.mem_values_of_lookup hb)))

theorem good_acts {acts : List Act} (h : Good s itemsList c)
    (hacts : EveryStep act (ActOk itemsList) s acts) :
    Good (acts.foldl act s) itemsList c := by
  have hgood : EveryState act (fun s => Good s itemsList c) s acts :=
    everyState_of_everyStep (fun _ _ h ha => good_act h ha) h hacts
  exact hgood.last

/-- The list is freed. -/
theorem good_finish (h : Good s itemsList c) :
    Good { s with memory := itemsList.foldl (fun memory item => memory.unref item) s.memory } []
      c := by
  refine ⟨h.owned.unrefAll, fun u => ?_, h.keyed⟩
  rw [← h.shows u, lookup, lookup]
  show (s.uuidToItems.lookup u).bind _ = (s.uuidToItems.lookup u).bind _
  cases hb : s.uuidToItems.lookup u with
  | none => rfl
  | some b => exact RefCount.data_unrefAll h.owned (mem_owners_of_lookup hb)

theorem good_deliver (h : Good s [] c) {signal : Signal} {acts : List Act}
    (hacts : EveryStep act (ActOk (s.prepare signal).2) (s.prepare signal).1 acts) :
    Good (s.deliver signal acts) [] (c.deliver signal) :=
  good_finish (good_acts (good_prepare h signal) hacts)

theorem good_dispose (h : Good s [] c) : Good s.dispose [] SwClientItemView.init where
  owned := by
    have howned : s.memory.Owned (Tables.values s.uuidToItems ++ s.held) := h.owned
    exact howned.unrefAll
  shows _ := rfl
  keyed _ _ hd := by cases hd

theorem good_init : Good init [] SwClientItemView.init :=
  ⟨RefCount.owned_empty, fun _ => rfl, fun _ _ hd => by cases hd⟩

/-! ## Runs -/

/-- No object was used after it was freed, every object is counted by the table and the application,
and it lives as long as one of them refers to it. -/
structure Safe (s : ClientItems) : Prop where
  noFault : s.memory.fault = false
  count : ∀ item, s.memory.count item =
    (Tables.values s.uuidToItems).count item + s.held.count item
  live : ∀ item, (s.memory.objects item).isSome = true ↔
    item ∈ Tables.values s.uuidToItems ∨ item ∈ s.held

theorem Good.safe (h : Good s [] c) : Safe s where
  noFault := h.owned.noFault
  count item := by rw [h.owned.count item, List.nil_append, owners, List.count_append]
  live item := by rw [h.owned.isSome_iff, List.nil_append, owners, List.mem_append]

theorem good_step {e : ClientEvent} (h : ∃ c, Good s [] c) (he : EventOk s e) :
    ∃ c, Good (s.step e) [] c := by
  obtain ⟨c, h⟩ := h
  cases e with
  | signal signal acts =>
    dsimp only [step]
    split_ifs with hd
    · exact ⟨c, h⟩
    · exact ⟨_, good_deliver h (he (by simpa using hd))⟩
  | app a => exact ⟨c, good_act h he⟩
  | dispose => exact ⟨_, good_dispose h⟩

/-- **No object is used after it was freed, and none is kept without an owner.** -/
theorem owned_run (es : List ClientEvent) (hok : EveryStep step EventOk init es) :
    EveryState step Safe init es := by
  have hstep : ∀ s e, (∃ c, Good s [] c) → EventOk s e → ∃ c, Good (step s e) [] c :=
    fun _ _ h he => good_step h he
  have hgood : EveryState step (fun s => ∃ c, Good s [] c) init es :=
    everyState_of_everyStep hstep ⟨_, good_init⟩ hok
  refine hgood.mono fun s h => ?_
  obtain ⟨c, h⟩ := h
  exact h.safe

/-- The application keeps the item it is shown, the item is removed, and the application drops
it. -/
def keptItem : List ClientEvent :=
  [.signal (.itemsAdded [⟨"flickr", "1", none, []⟩]) [.ref 0],
    .signal (.itemsRemoved [("flickr", "1")]) [], .app (.unref 0), .dispose]

theorem keptItem_safe : EveryState step Safe init keptItem := by
  refine owned_run keptItem ⟨fun _ => ⟨Or.inl ?_, trivial⟩, fun _ => trivial, ?_, trivial, trivial⟩
  · exact List.mem_singleton.2 rfl
  · exact List.mem_singleton.2 rfl

/-- The signals that arrive. -/
def signals (es : List ClientEvent) : List Signal :=
  es.filterMap fun e => match e with
    | .signal signal _ => some signal
    | .app _ => none
    | .dispose => none

theorem disposed_foldl {α : Type} {f : ClientItems × List ℕ → α → ClientItems × List ℕ}
    (hf : ∀ p x, (f p x).1.disposed = p.1.disposed) (items : List α) (p : ClientItems × List ℕ) :
    (items.foldl f p).1.disposed = p.1.disposed := by
  induction items generalizing p with
  | nil => rfl
  | cons x items ih => exact (ih (f p x)).trans (hf p x)

/-- A signal does not dispose of the view. -/
theorem disposed_deliver (s : ClientItems) (signal : Signal) (acts : List Act) :
    (s.deliver signal acts).disposed = s.disposed := by
  have hprepare : (s.prepare signal).1.disposed = s.disposed := by
    cases signal with
    | itemsAdded items =>
      refine disposed_foldl (fun p varray => ?_) items _
      dsimp only [addItem, insertItem]
      cases p.1.uuidToItems.lookup varray.uuid <;> rfl
    | itemsChanged items =>
      refine disposed_foldl (fun p varray => ?_) items _
      dsimp only [changeItem]
      cases p.1.uuidToItems.lookup varray.uuid <;> rfl
    | itemsRemoved items =>
      refine disposed_foldl (fun p varray => ?_) items _
      dsimp only [removeItem]
      cases p.1.uuidToItems.lookup varray.2 <;> rfl
  have hacts : ∀ t : ClientItems, (acts.foldl act t).disposed = t.disposed := by
    induction acts with
    | nil => exact fun _ => rfl
    | cons a acts ih => exact fun t => (ih (t.act a)).trans (by cases a <;> rfl)
  exact (hacts _).trans hprepare

/-- **Refinement.** Until it is disposed of, the view shows what the abstract table has. -/
theorem good_run {es : List ClientEvent} (h : Good s [] c) (hlive : s.disposed = false)
    (hok : EveryStep step EventOk s es) (hes : ClientEvent.dispose ∉ es) :
    Good (runFrom step s es) [] (c.deliverAll (signals es)) := by
  induction es generalizing s c with
  | nil => exact h
  | cons e es ih =>
    obtain ⟨he, hrest⟩ := hok
    have hes' : ClientEvent.dispose ∉ es := fun hin => hes (List.mem_cons_of_mem _ hin)
    cases e with
    | signal signal acts =>
      have hstep : s.step (.signal signal acts) = s.deliver signal acts := by
        simp [step, hlive]
      rw [hstep] at hrest
      rw [runFrom_cons, hstep]
      exact ih (good_deliver h (he hlive)) ((disposed_deliver s signal acts).trans hlive) hrest hes'
    | app a =>
      have hlive' : (s.act a).disposed = false := by cases a <;> exact hlive
      exact ih (good_act h he) hlive' hrest hes'
    | dispose => exact absurd List.mem_cons_self hes

/-- **From the service to the application.** The view takes a run that keeps the client coherent,
its refresh timer fires, and the client receives what was emitted. Then the objects in the client's
table are those of the ready current items, with their present data. -/
theorem application_upToDate (h : Heap) (es : List Event) (ces : List ClientEvent)
    (hok : EveryStep Sys.step Sys.CoherentOk (Sys.start h) es)
    (hclient : EveryStep step EventOk init ces) (hlive : ClientEvent.dispose ∉ ces)
    (hsignals : signals ces =
      ((runFrom Sys.step (Sys.start h) es).step .refreshTimeout).view.emitted) (u : String) :
    let s := (runFrom Sys.step (Sys.start h) es).step .refreshTimeout
    (runFrom step init ces).lookup u = ((s.view.currentItemsSet.find u).filter fun o =>
      s.heap.ready o && !s.view.pendingItemsSet.has o).map s.heap.toValueArray := by
  have hinv : EveryState Sys.step Sys.CoherentInv (Sys.start h) es :=
    everyState_of_everyStep (fun _ e hs => Sys.coherentInv_step hs e) (Sys.coherentInv_start h) hok
  have hgood := good_run good_init rfl hclient hlive
  intro s
  rw [hgood.shows u, hsignals]
  exact hinv.last.upToDate_refreshed u

/-- Signals that arrive while the application does nothing. -/
def quietly (signals : List Signal) : List ClientEvent := signals.map fun s => .signal s []

theorem signals_quietly (ss : List Signal) : signals (quietly ss) = ss := by
  induction ss with
  | nil => rfl
  | cons signal ss ih => exact congrArg (signal :: ·) ih

theorem eventOk_quietly (s : ClientItems) (ss : List Signal) :
    EveryStep step EventOk s (quietly ss) := by
  induction ss generalizing s with
  | nil => trivial
  | cons signal ss ih => exact ⟨fun _ => trivial, ih _⟩

/-- The application sees the title. -/
theorem retitled_application :
    let s := (runFrom Sys.step (Sys.start (Heap.plain ⟨0, "flickr"⟩)) Sys.retitled).step
      .refreshTimeout
    (runFrom step init (quietly s.view.emitted)).lookup "1" =
      ((s.view.currentItemsSet.find "1").filter fun o =>
        s.heap.ready o && !s.view.pendingItemsSet.has o).map s.heap.toValueArray := by
  refine application_upToDate (Heap.plain ⟨0, "flickr"⟩) Sys.retitled _
    Sys.coherentOk_retitled (eventOk_quietly _ _) ?_ (signals_quietly _) "1"
  intro hin
  obtain ⟨signal, -, hsignal⟩ := List.mem_map.1 hin
  cases hsignal

end ClientItems

end LibSocialWeb
