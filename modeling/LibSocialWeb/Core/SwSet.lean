import LibSocialWeb.Lib.KeySet
import Mathlib.Tactic.SplitIfs

/-!
# `SwSet` (`libsocialweb/sw-set.c`)

An `SwSet` is a hash table whose keys are the objects of the set. `sw_set_new_full` takes the
hash and equality functions of the table; here the equality is given by the key it compares, so
`SwSet key` compares two objects by `key`. `sw_set_new` passes no functions and compares
addresses.

`add` uses `g_hash_table_replace`: a newly added object takes the place of an equal one.

`g_hash_table_get_keys` lists the objects in no specified order. `asList` takes the order as an
argument, so that a statement about every order quantifies over it.
-/

namespace LibSocialWeb

/-- The type of sets that `sw_set_new_full` makes for the equality on `key`. -/
abbrev SwSet {α κ : Type*} (key : α → κ) := KeySet key

/-- The order in which a hash table lists its keys. -/
structure KeyOrder (α : Type*) where
  list : List α → List α
  perm : ∀ l, (list l).Perm l

/-- The order in which the members are stored. -/
def KeyOrder.stored (α : Type*) : KeyOrder α := ⟨id, fun l => List.Perm.refl l⟩

namespace SwSet

variable {α κ κ' : Type*} [DecidableEq κ] [DecidableEq κ'] {key : α → κ} {key' : α → κ'}

/-- `sw_set_new`: objects are compared by address. -/
def new : SwSet (id : α → α) := KeySet.empty

/-- `sw_set_as_list` -/
def asList (order : KeyOrder α) (set : SwSet key) : List α := order.list set.members

/-- `sw_set_difference`: a new set, compared by address, with the members of `a` that `b` does
not have. -/
def difference [DecidableEq α] (a : SwSet key) (b : SwSet key') : SwSet (id : α → α) :=
  a.members.foldl (fun set object => if b.has object then set else set.add object) new

/-- `sw_set_add_from` -/
def addFrom (set : SwSet key) (src : SwSet key') : SwSet key := set.addAll src.members

/-- `sw_set_remove_from`, of two different sets -/
def removeFrom (set : SwSet key) (src : SwSet key') : SwSet key := set.removeAll src.members

/-! ## Listing -/

omit [DecidableEq κ] in
theorem asList_perm (order : KeyOrder α) (set : SwSet key) :
    (set.asList order).Perm set.members := order.perm set.members

omit [DecidableEq κ] in
@[simp] theorem mem_asList {order : KeyOrder α} {set : SwSet key} {a : α} :
    a ∈ set.asList order ↔ a ∈ set := (set.asList_perm order).mem_iff

omit [DecidableEq κ] in
theorem asList_eq_nil (order : KeyOrder α) {set : SwSet key} (h : set.isEmpty = true) :
    set.asList order = [] := by
  have hperm := asList_perm order set
  rw [List.isEmpty_iff.1 h] at hperm
  exact hperm.eq_nil

omit [DecidableEq κ] in
theorem nodup_asList {κ₀ : Type*} {k : α → κ₀} {set : SwSet key} (order : KeyOrder α)
    (h : (set.members.map k).Nodup) : ((set.asList order).map k).Nodup :=
  (((set.asList_perm order).map k).nodup_iff).2 h

omit [DecidableEq κ] in
theorem findKey_asList {κ₀ : Type*} [DecidableEq κ₀] {k : α → κ₀} {set : SwSet key}
    (order : KeyOrder α) (h : (set.members.map k).Nodup) (x : κ₀) :
    KeySet.findKey k (set.asList order) x = KeySet.findKey k set.members x :=
  KeySet.findKey_perm (set.asList_perm order) (nodup_asList order h) x

/-! ## Differences -/

theorem foldl_difference [DecidableEq α] (b : SwSet key') (l : List α) (acc : SwSet (id : α → α))
    (hl : l.Nodup) (hacc : ∀ x ∈ l, x ∉ acc.members) :
    (l.foldl (fun set object => if b.has object then set else set.add object) acc).members =
      acc.members ++ l.filter fun object => !b.has object := by
  induction l generalizing acc with
  | nil => simp
  | cons x l ih =>
    rw [List.nodup_cons] at hl
    rw [List.foldl_cons]
    by_cases hx : b.has x
    · rw [if_pos hx, ih acc hl.2 fun y hy => hacc y (by simp [hy])]
      simp [hx]
    · have hadd : (acc.add x).members = acc.members ++ [x] := by
        have hne : ∀ y ∈ acc.members, ¬ y = x := by
          intro y hy heq
          subst heq
          exact hacc y (by simp) hy
        simpa [KeySet.add, List.filter_eq_self] using hne
      rw [if_neg hx, ih (acc.add x) hl.2, hadd]
      · simp [hx]
      · intro y hy hmem
        rw [hadd, List.mem_append, List.mem_singleton] at hmem
        rcases hmem with hmem | rfl
        · exact hacc y (by simp [hy]) hmem
        · exact hl.1 hy

omit [DecidableEq κ] in
/-- The members of a difference are the members of `a` that `b` lacks, in the order of `a`. -/
theorem difference_members [DecidableEq α] (a : SwSet key) (b : SwSet key') :
    (a.difference b).members = a.members.filter fun object => !b.has object := by
  have h := foldl_difference b a.members new (List.Nodup.of_map key a.nodup)
    (by simp [new, KeySet.empty])
  simpa [difference, new, KeySet.empty] using h

omit [DecidableEq κ] in
theorem nodup_difference [DecidableEq α] (a : SwSet key) (b : SwSet key') :
    ((a.difference b).members.map key).Nodup := by
  rw [difference_members]
  exact a.nodup_filter _

theorem findKey_difference [DecidableEq α] (a b : SwSet key) (k : κ) :
    KeySet.findKey key (a.difference b).members k =
      if (b.find k).isSome then none else a.find k := by
  rw [difference_members, KeySet.findKey_filter a.nodup]
  show (a.find k).filter _ = _
  cases hf : a.find k with
  | none => split_ifs <;> rfl
  | some x => cases hb : b.find k <;> simp [Option.filter, KeySet.has, (KeySet.find_some hf).2, hb]

end SwSet

end LibSocialWeb
