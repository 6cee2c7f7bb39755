import LibSocialWeb.Core.SwSet

/-!
# The algebra of `SwSet` (`libsocialweb/sw-set.c`)

`sw_set_new_full` is given the equality under which a set tells its members apart. Here that
equality is "has the same `key`", which is every equivalence relation: the key of an object may be
its class. So two sets made with the same functions are two values of the same `SwSet key`, and an
object is an address (`DecidableEq α` compares addresses).

`sw_set_add_from`, `sw_set_remove_from` and `sw_set_filter` keep the equality of the set. But
`sw_set_union` and `sw_set_difference` make their result with `sw_set_new`, which compares
addresses. Such a result has the right members, yet it answers `sw_set_has` only for those very
objects, and it may hold equal objects side by side.

**One set twice.** The two sets of an operation may be one and the same, `Operands.twice`. Only
`sw_set_remove_from` tells the difference: it removes from the table that `g_hash_table_foreach`
lists, which returns as soon as that table has changed. Adding to itself changes no table.

**Main result.** `algebraAt_iff`: two sets obey the laws at an object exactly when they store the
same object wherever they store equal ones, the object asked for is itself a member of one of them
or equal to no member, and, if the two are one set, nothing equal to it is listed but first.
-/

namespace LibSocialWeb

namespace SwSet

variable {α κ κ' : Type*} [DecidableEq κ] [DecidableEq κ'] {key : α → κ} {key' : α → κ'}

/-- `sw_set_union`: a new set, compared by address, to which the members of `a` and then those of
`b` are added. -/
def union [DecidableEq α] (a : SwSet key) (b : SwSet key') : SwSet (id : α → α) :=
  addFrom (addFrom new a) b

/-- `sw_set_filter`: a new set with the functions of `set_in`, to which the members that pass
`func` are added. -/
def filter (setIn : SwSet key) (func : α → Bool) : SwSet key :=
  setIn.members.foldl (fun set object => if func object then set.add object else set)
    KeySet.empty

/-- The sets that an operation is called with: two sets, or one set twice. -/
inductive Operands (key : α → κ) where
  | two (a b : SwSet key)
  | twice (a : SwSet key)

namespace Operands

def fst : Operands key → SwSet key
  | two a _ => a
  | twice a => a

def snd : Operands key → SwSet key
  | two _ b => b
  | twice a => a

/-- `sw_set_remove_from`: a set that is removed from itself loses the member that is listed first,
if there is one. -/
def removeFrom (order : KeyOrder α) : Operands key → SwSet key
  | two a b => SwSet.removeFrom a b
  | twice a => a.removeAll ((a.asList order).take 1)

/-- Where `sw_set_remove_from` removes `x`, it is not left in the set. -/
def RemovedAt (order : KeyOrder α) (x : α) : Operands key → Prop
  | two _ _ => True
  | twice a => a.has x = true → ∃ y ∈ (a.asList order).head?, key y = key x

end Operands

/-! ## What each operation does to the keys -/

theorem keys_addFrom (set src : SwSet key) : (addFrom set src).keys = set.keys ∪ src.keys :=
  KeySet.keys_addAll set src.members

theorem keys_removeFrom (set src : SwSet key) :
    (removeFrom set src).keys = set.keys \ src.keys :=
  KeySet.keys_removeAll set src.members

theorem foldl_filter (func : α → Bool) (l : List α) (acc : SwSet key) :
    l.foldl (fun set object => if func object then set.add object else set) acc =
      acc.addAll (l.filter func) := by
  induction l generalizing acc with
  | nil => rfl
  | cons x l ih =>
    rw [List.foldl_cons, ih]
    cases hx : func x with
    | true => rw [if_pos rfl, List.filter_cons_of_pos hx]; rfl
    | false => rw [if_neg (by simp), List.filter_cons_of_neg (by simp [hx])]

theorem keys_filter (setIn : SwSet key) (func : α → Bool) :
    (setIn.filter func).keys = {k | ∃ y ∈ setIn, key y = k ∧ func y = true} := by
  rw [filter, foldl_filter, KeySet.keys_addAll, KeySet.keys_empty, Set.empty_union]
  ext k
  simp only [Set.mem_ofPred_eq, List.mem_filter, KeySet.mem_def]
  tauto

/-! ## The results that are compared by address -/

section Address

variable [DecidableEq α]

/-- Compared by address, the keys are the members. -/
theorem has_address {set : SwSet (id : α → α)} {x : α} : set.has x = true ↔ x ∈ set := by
  rw [KeySet.has_iff_mem_keys, KeySet.mem_keys]
  simp

omit [DecidableEq κ] in
theorem mem_addFrom_address {set : SwSet (id : α → α)} {src : SwSet key} {x : α} :
    x ∈ addFrom set src ↔ x ∈ set ∨ x ∈ src := by
  rw [← has_address, KeySet.has_iff_mem_keys, addFrom, KeySet.keys_addAll, Set.mem_union,
    ← KeySet.has_iff_mem_keys, has_address]
  simp [KeySet.mem_def]

omit [DecidableEq κ] [DecidableEq κ'] in
theorem mem_union {a : SwSet key} {b : SwSet key'} {x : α} : x ∈ a.union b ↔ x ∈ a ∨ x ∈ b := by
  rw [union, mem_addFrom_address, mem_addFrom_address]
  simp [new, KeySet.empty, KeySet.mem_def]

omit [DecidableEq κ] in
theorem mem_difference {a : SwSet key} {b : SwSet key'} {x : α} :
    x ∈ a.difference b ↔ x ∈ a ∧ ¬ b.has x = true := by
  rw [KeySet.mem_def, difference_members, List.mem_filter, Bool.not_eq_true', ← KeySet.mem_def,
    Bool.not_eq_true]

end Address

/-! ## The laws -/

/-- At most one member of `set` in each class of the equality on `key`. -/
def OnePerClass {κ₀ : Type*} {k₀ : α → κ₀} (key : α → κ) (set : SwSet k₀) : Prop :=
  ∀ y ∈ set, ∀ z ∈ set, key y = key z → y = z

/-- The set algebra of two sets, asked for the object `x`, with the order in which a table is
listed. -/
structure AlgebraAt [DecidableEq α] (order : KeyOrder α) (sets : Operands key) (x : α) : Prop where
  union : (sets.fst.union sets.snd).has x = true ↔ sets.fst.has x = true ∨ sets.snd.has x = true
  difference : (sets.fst.difference sets.snd).has x = true ↔
    sets.fst.has x = true ∧ ¬ sets.snd.has x = true
  filter : ∀ func : α → Bool,
    (sets.fst.filter func).has x = true ↔ ∃ y ∈ sets.fst, key y = key x ∧ func y = true
  addFrom : (sets.fst.addFrom sets.snd).has x = true ↔
    sets.fst.has x = true ∨ sets.snd.has x = true
  removeFrom : (sets.removeFrom order).has x = true ↔
    sets.fst.has x = true ∧ ¬ sets.snd.has x = true
  onePerClass_union : OnePerClass key (sets.fst.union sets.snd)
  onePerClass_difference : OnePerClass key (sets.fst.difference sets.snd)
  onePerClass_filter : ∀ func : α → Bool, OnePerClass key (sets.fst.filter func)
  onePerClass_addFrom : OnePerClass key (sets.fst.addFrom sets.snd)
  onePerClass_removeFrom : OnePerClass key (sets.removeFrom order)
  representative : (sets.fst.add x).find (key x) = some x
  representative_addFrom : ∀ y ∈ sets.snd, (sets.fst.addFrom sets.snd).find (key y) = some y

omit [DecidableEq κ] in
theorem onePerClass (set : SwSet key) : OnePerClass key set := by
  intro y hy z hz h
  exact set.eq_of_key_eq hy hz h

/-- **`sw_set_add_from` obeys the law of unions, for every equality.** -/
theorem has_addFrom (a b : SwSet key) (x : α) :
    (a.addFrom b).has x = true ↔ a.has x = true ∨ b.has x = true := by
  rw [KeySet.has_iff_mem_keys, keys_addFrom, Set.mem_union, KeySet.has_iff_mem_keys,
    KeySet.has_iff_mem_keys]

theorem has_removeFrom (a b : SwSet key) (x : α) :
    (a.removeFrom b).has x = true ↔ a.has x = true ∧ ¬ b.has x = true := by
  rw [KeySet.has_iff_mem_keys, keys_removeFrom, Set.mem_sdiff, KeySet.has_iff_mem_keys,
    KeySet.has_iff_mem_keys]

/-- A set that is removed from itself keeps all but the member that is listed first. -/
theorem has_removeFrom_twice (order : KeyOrder α) (a : SwSet key) (x : α) :
    ((Operands.twice a).removeFrom order).has x = true ↔
      a.has x = true ∧ ¬ ∃ y ∈ (a.asList order).head?, key y = key x := by
  rw [KeySet.has_iff_mem_keys, Operands.removeFrom, KeySet.keys_removeAll, Set.mem_sdiff,
    KeySet.has_iff_mem_keys, List.take_one]
  simp

/-- **`sw_set_remove_from` obeys the law of differences for two sets, and for one set where it
removes what it should.** -/
theorem has_removeFrom_iff (order : KeyOrder α) (sets : Operands key) (x : α) :
    ((sets.removeFrom order).has x = true ↔
      sets.fst.has x = true ∧ ¬ sets.snd.has x = true) ↔ sets.RemovedAt order x := by
  cases sets with
  | two a b => exact iff_true_intro (has_removeFrom a b x)
  | twice a =>
    rw [has_removeFrom_twice]
    simp only [Operands.fst, Operands.snd, Operands.RemovedAt, and_not_self, iff_false, not_and,
      not_not]

theorem has_filter (a : SwSet key) (func : α → Bool) (x : α) :
    (a.filter func).has x = true ↔ ∃ y ∈ a, key y = key x ∧ func y = true := by
  rw [KeySet.has_iff_mem_keys, keys_filter]
  exact Iff.rfl

/-- The objects of `src` take the place of equal ones. -/
theorem find_addFrom_of_mem (set src : SwSet key) {y : α} (hy : y ∈ src) :
    (addFrom set src).find (key y) = some y := by
  have hfind : KeySet.findKey key src.members (key y) = some y :=
    (KeySet.findKey_iff src.nodup).2 ⟨hy, rfl⟩
  rw [addFrom, KeySet.find_addAll set src.nodup, hfind, Option.some_or]

section Address

variable [DecidableEq α]

omit [DecidableEq κ] in
/-- A union has one member for each class when equal members of `a` and `b` are one object. -/
theorem onePerClass_union_iff (a b : SwSet key) :
    OnePerClass key (a.union b) ↔ ∀ y ∈ a, ∀ z ∈ b, key y = key z → y = z := by
  refine ⟨?_, ?_⟩
  · intro h y hy z hz hkey
    exact h y (mem_union.2 (Or.inl hy)) z (mem_union.2 (Or.inr hz)) hkey
  · intro h y hy z hz hkey
    rcases mem_union.1 hy with hy | hy <;> rcases mem_union.1 hz with hz | hz
    · exact a.eq_of_key_eq hy hz hkey
    · exact h y hy z hz hkey
    · exact (h z hz y hy hkey.symm).symm
    · exact b.eq_of_key_eq hy hz hkey

theorem onePerClass_difference (a b : SwSet key) : OnePerClass key (a.difference b) := by
  intro y hy z hz hkey
  exact a.eq_of_key_eq (mem_difference.1 hy).1 (mem_difference.1 hz).1 hkey

omit [DecidableEq α] in
theorem has_of_mem {set : SwSet key} {x : α} (h : x ∈ set) : set.has x = true :=
  KeySet.has_iff_mem_keys.2 ⟨x, h, rfl⟩

/-- Two sets that store the same object wherever they store equal ones obey the laws at their
members, and at objects that neither of them has an equal of. -/
theorem algebraAt_of_same {order : KeyOrder α} {sets : Operands key} {x : α}
    (hsame : ∀ y ∈ sets.fst, ∀ z ∈ sets.snd, key y = key z → y = z)
    (hmem : sets.fst.has x = true ∨ sets.snd.has x = true → x ∈ sets.fst ∨ x ∈ sets.snd)
    (hremoved : sets.RemovedAt order x) : AlgebraAt order sets x := by
  refine
    { union := ?_
      difference := ?_
      filter := fun func => has_filter sets.fst func x
      addFrom := has_addFrom sets.fst sets.snd x
      removeFrom := (has_removeFrom_iff order sets x).2 hremoved
      onePerClass_union := (onePerClass_union_iff sets.fst sets.snd).2 hsame
      onePerClass_difference := onePerClass_difference sets.fst sets.snd
      onePerClass_filter := fun func => onePerClass _
      onePerClass_addFrom := onePerClass _
      onePerClass_removeFrom := onePerClass _
      representative := ?_
      representative_addFrom := fun y hy => find_addFrom_of_mem sets.fst sets.snd hy }
  · rw [has_address, mem_union]
    exact ⟨Or.imp has_of_mem has_of_mem, hmem⟩
  · rw [has_address, mem_difference]
    refine ⟨fun hx => ⟨has_of_mem hx.1, hx.2⟩, ?_⟩
    intro hx
    -- `x` is a member of one of the two, and not of the second, which has nothing equal to it
    rcases hmem (Or.inl hx.1) with ha | hb
    · exact ⟨ha, hx.2⟩
    · exact absurd (has_of_mem hb) hx.2
  · rw [KeySet.find_add, if_pos rfl]

/-- **When the laws hold.** The operations made with `sw_set_new` go wrong exactly where an object
is equal to a member without being one, and `sw_set_remove_from` where it meets one set twice. -/
theorem algebraAt_iff (order : KeyOrder α) (sets : Operands key) (x : α) :
    AlgebraAt order sets x ↔
      (∀ y ∈ sets.fst, ∀ z ∈ sets.snd, key y = key z → y = z) ∧
        (sets.fst.has x = true ∨ sets.snd.has x = true → x ∈ sets.fst ∨ x ∈ sets.snd) ∧
          sets.RemovedAt order x := by
  refine ⟨?_, ?_⟩
  · intro h
    refine ⟨(onePerClass_union_iff sets.fst sets.snd).1 h.onePerClass_union, ?_,
      (has_removeFrom_iff order sets x).1 h.removeFrom⟩
    intro hx
    exact mem_union.1 (has_address.1 (h.union.2 hx))
  · intro h
    exact algebraAt_of_same h.1 h.2.1 h.2.2

/-- The sets of `sw_set_new`, which compare addresses from the start, obey all laws, two at a
time. -/
theorem algebraAt_address (order : KeyOrder α) (a b : SwSet (id : α → α)) (x : α) :
    AlgebraAt order (.two a b) x := by
  refine algebraAt_of_same (fun y _ z _ h => h) ?_ trivial
  rw [has_address, has_address]
  exact id

end Address

/-- Two contacts, say, with the same identifier: the pair `(id, address)`, compared by `id`. -/
theorem equalObject_not_in_union :
    ¬ ∀ (order : KeyOrder (Nat × Nat)) (sets : Operands (Prod.fst : Nat × Nat → Nat))
        (x : Nat × Nat),
      AlgebraAt order sets x := by
  intro h
  have hunion := (h (KeyOrder.stored _) (.two (KeySet.empty.add (7, 1)) KeySet.empty) (7, 2)).union
  revert hunion
  decide

end SwSet

end LibSocialWeb
