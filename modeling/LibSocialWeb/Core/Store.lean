import LibSocialWeb.Core.SwItem

/-!
# New items

`sw_item_new` makes an object at an address that no other object has. A `Store` is a heap together
with the first address that is still free, and `NewItem` is what a caller puts into a new item.

`collect` is the loop of every reader of items: make an item of each entry, and add it to the set
if it passes a test on its id. The lemmas say where its objects come from and that it leaves the
objects made before as they were.
-/

namespace LibSocialWeb

/-- The contents of an item to be made. -/
structure NewItem where
  uid : String
  item : SwItem
  id_eq : item.get "id" = some uid

def NewItem.plain (service : SwService) (uid : String) : NewItem :=
  ⟨uid, .plain service uid, AList.lookup_insert ∅⟩

/-- The same, with one fetch to wait for. -/
def NewItem.waiting (service : SwService) (uid : String) : NewItem :=
  ⟨uid, (SwItem.plain service uid).pushPending, AList.lookup_insert ∅⟩

structure Store where
  heap : Heap
  next : Nat

namespace Store

/-- `sw_item_new`, with the contents the caller gives it. -/
def make (n : NewItem) (s : Store) : ItemRef × Store :=
  let o : ItemRef := ⟨s.next, n.uid⟩
  (o, ⟨s.heap.set o n.item n.id_eq, s.next + 1⟩)

/-- The loop body of `collect`. -/
def collectOne (keep : String → Bool) (acc : ItemSet × Store) (n : NewItem) : ItemSet × Store :=
  let (item, s) := acc.2.make n
  if keep n.uid then (acc.1.add item, s) else (acc.1, s)

/-- Make an item of each entry and gather those whose id passes `keep`. -/
def collect (keep : String → Bool) (ns : List NewItem) (s : Store) : ItemSet × Store :=
  ns.foldl (collectOne keep) (KeySet.empty, s)

/-- The object was made. -/
def Made (s : Store) (o : ItemRef) : Prop := o.addr < s.next

/-- `t` comes from `s` by making objects. -/
structure Extends (s t : Store) : Prop where
  next : s.next ≤ t.next
  item : ∀ o, s.Made o → t.heap.item o = s.heap.item o

theorem Extends.refl (s : Store) : Extends s s := ⟨le_rfl, fun _ _ => rfl⟩

theorem Extends.made {s t : Store} (h : Extends s t) {o : ItemRef} (ho : s.Made o) : t.Made o :=
  lt_of_lt_of_le ho h.next

theorem Extends.trans {s t r : Store} (h : Extends s t) (h' : Extends t r) : Extends s r :=
  ⟨Nat.le_trans h.next h'.next, fun o ho => (h'.item o (h.made ho)).trans (h.item o ho)⟩

theorem Extends.ready {s t : Store} (h : Extends s t) {o : ItemRef} (ho : s.Made o) :
    t.heap.ready o = s.heap.ready o := by
  simp [Heap.ready, h.item o ho]

theorem make_extends (n : NewItem) (s : Store) : Extends s (s.make n).2 := by
  refine ⟨Nat.le_succ _, fun o ho => ?_⟩
  have hne : o ≠ ⟨s.next, n.uid⟩ := by
    intro heq
    subst heq
    exact absurd ho (lt_irrefl _)
  exact Function.update_of_ne hne _ _

theorem make_item (n : NewItem) (s : Store) : (s.make n).2.heap.item (s.make n).1 = n.item :=
  Function.update_self _ _ _

theorem make_made (n : NewItem) (s : Store) : (s.make n).2.Made (s.make n).1 := Nat.lt_succ_self _

/-- `o` is one of the objects that were made of `ns` between `s` and `t`, of an entry that passes
`keep`. -/
def Fresh (keep : String → Bool) (ns : List NewItem) (s t : Store) (o : ItemRef) : Prop :=
  s.next ≤ o.addr ∧ t.Made o ∧ ∃ n ∈ ns, keep n.uid = true ∧ n.uid = o.uid ∧ t.heap.item o = n.item

theorem foldl_collectOne (keep : String → Bool) (ns : List NewItem) (acc : ItemSet × Store) :
    Extends acc.2 (ns.foldl (collectOne keep) acc).2 ∧
      ∀ o ∈ (ns.foldl (collectOne keep) acc).1, o ∈ acc.1 ∨
        Fresh keep ns acc.2 (ns.foldl (collectOne keep) acc).2 o := by
  induction ns generalizing acc with
  | nil => exact ⟨Extends.refl _, fun o ho => Or.inl ho⟩
  | cons n ns ih =>
    obtain ⟨hext, hmem⟩ := ih (collectOne keep acc n)
    have hmake := make_extends n acc.2
    have hsnd : (collectOne keep acc n).2 = (acc.2.make n).2 := by
      unfold collectOne
      split_ifs <;> rfl
    rw [List.foldl_cons]
    rw [hsnd] at hext hmem
    refine ⟨hmake.trans hext, fun o ho => ?_⟩
    rcases hmem o ho with h | ⟨hlow, hhigh, m, hm, hk, hu, hi⟩
    · by_cases hk : keep n.uid = true
      · have hadd : (collectOne keep acc n).1 = acc.1.add (acc.2.make n).1 := by
          simp [collectOne, hk]
        rw [hadd, KeySet.mem_iff_find, KeySet.find_add] at h
        split_ifs at h with hu
        · -- `o` is the object just made.
          obtain rfl := Option.some.inj h
          refine Or.inr ⟨le_rfl, hext.made (make_made n acc.2), n, by simp, hk, rfl, ?_⟩
          rw [hext.item _ (make_made n acc.2), make_item]
        · exact Or.inl (KeySet.mem_iff_find.2 h)
      · have hadd : (collectOne keep acc n).1 = acc.1 := by simp [collectOne, hk]
        exact Or.inl (hadd ▸ h)
    · exact Or.inr ⟨Nat.le_trans hmake.next hlow, hhigh, m, by simp [hm], hk, hu, hi⟩

theorem collect_extends (keep : String → Bool) (ns : List NewItem) (s : Store) :
    Extends s (s.collect keep ns).2 := (foldl_collectOne keep ns (KeySet.empty, s)).1

/-- Every collected object is new and was made of an entry that passes. -/
theorem fresh_of_mem_collect {keep : String → Bool} {ns : List NewItem} {s : Store} {o : ItemRef}
    (ho : o ∈ (s.collect keep ns).1) : Fresh keep ns s (s.collect keep ns).2 o := by
  rcases (foldl_collectOne keep ns (KeySet.empty, s)).2 o ho with h | h
  · cases h
  · exact h

theorem mem_keys_foldl_collectOne (keep : String → Bool) (ns : List NewItem)
    (acc : ItemSet × Store) (uid : String) :
    uid ∈ (ns.foldl (collectOne keep) acc).1.keys ↔
      uid ∈ acc.1.keys ∨ keep uid = true ∧ uid ∈ ns.map NewItem.uid := by
  induction ns generalizing acc with
  | nil => simp
  | cons n ns ih =>
    rw [List.foldl_cons, ih, List.map_cons, List.mem_cons]
    by_cases hk : keep n.uid = true
    · have hadd : (collectOne keep acc n).1 = acc.1.add (acc.2.make n).1 := by
        simp [collectOne, hk]
      rw [hadd, KeySet.keys_add, Set.mem_insert_iff]
      have huid : (acc.2.make n).1.uid = n.uid := rfl
      rw [huid]
      refine ⟨?_, ?_⟩
      · rintro ((rfl | hold) | ⟨hkeep, hmem⟩)
        · exact Or.inr ⟨hk, Or.inl rfl⟩
        · exact Or.inl hold
        · exact Or.inr ⟨hkeep, Or.inr hmem⟩
      · rintro (hold | ⟨hkeep, heq | hmem⟩)
        · exact Or.inl (Or.inr hold)
        · exact Or.inl (Or.inl heq)
        · exact Or.inr ⟨hkeep, hmem⟩
    · have hskip : (collectOne keep acc n).1 = acc.1 := by simp [collectOne, hk]
      rw [hskip]
      refine or_congr_right (and_congr_right fun hkeep => ?_)
      have hne : uid ≠ n.uid := fun heq => hk (heq ▸ hkeep)
      exact (or_iff_right hne).symm

/-- The ids that are collected are those of the entries that pass. -/
theorem mem_keys_collect (keep : String → Bool) (ns : List NewItem) (s : Store) (uid : String) :
    uid ∈ (s.collect keep ns).1.keys ↔ keep uid = true ∧ uid ∈ ns.map NewItem.uid := by
  rw [collect, mem_keys_foldl_collectOne]
  simp

end Store

end LibSocialWeb
