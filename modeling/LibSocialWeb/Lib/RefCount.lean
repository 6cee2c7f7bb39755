import Mathlib.Data.List.Count
import Mathlib.Data.List.Perm.Basic
import Mathlib.Logic.Function.Basic

/-!
# Counted objects

A memory of objects with reference counts. `alloc` makes an object with count one, `ref` and `unref`
move its count, and the object is freed when the count reaches zero. Using an object that is not
there is a `fault`; an address is not used again.

`Owned m owners` says that the count of every object is the number of times it occurs in the list
of its owners' references, and that there was no fault. An owner who takes a reference adds it to
the list, one who drops a reference removes it, and an address in the list is that of a live object.

**Rules.** `Owned.alloc`, `Owned.ref`, `Owned.unref` and `Owned.write` keep the list in step with
the memory; the `data_*` lemmas say what the objects hold.
-/

structure RefCount (δ : Type*) where
  objects : ℕ → Option (ℕ × δ)
  next : ℕ
  fault : Bool

namespace RefCount

variable {δ : Type*}

def empty : RefCount δ := ⟨fun _ => none, 0, false⟩

/-- Change what is at one address. -/
def put (a : ℕ) (o : Option (ℕ × δ)) (m : RefCount δ) : RefCount δ :=
  { m with objects := Function.update m.objects a o }

/-- A new object, with one reference. -/
def alloc (d : δ) (m : RefCount δ) : ℕ × RefCount δ :=
  (m.next, { m.put m.next (some (1, d)) with next := m.next + 1 })

def ref (a : ℕ) (m : RefCount δ) : RefCount δ :=
  match m.objects a with
  | some (n, d) => m.put a (some (n + 1, d))
  | none => { m with fault := true }

def unref (a : ℕ) (m : RefCount δ) : RefCount δ :=
  match m.objects a with
  | some (n, d) => m.put a (if n = 1 then none else some (n - 1, d))
  | none => { m with fault := true }

def write (a : ℕ) (d : δ) (m : RefCount δ) : RefCount δ :=
  match m.objects a with
  | some (n, _) => m.put a (some (n, d))
  | none => { m with fault := true }

/-- What a live object holds. -/
def data (m : RefCount δ) (a : ℕ) : Option δ := (m.objects a).map Prod.snd

/-- The count of an object; zero if it is not there. -/
def count (m : RefCount δ) (a : ℕ) : ℕ := ((m.objects a).map Prod.fst).getD 0

/-- Every object is counted by its owners. -/
structure Owned (m : RefCount δ) (owners : List ℕ) : Prop where
  count : ∀ a, m.count a = owners.count a
  live : ∀ a n d, m.objects a = some (n, d) → 0 < n
  fresh : ∀ a, m.next ≤ a → m.objects a = none
  noFault : m.fault = false

variable {m : RefCount δ} {owners owners' : List ℕ} {a b n : ℕ} {d : δ}

theorem owned_empty : Owned (empty : RefCount δ) [] where
  count _ := rfl
  live _ _ _ h := by cases h
  fresh _ _ := rfl
  noFault := rfl

theorem Owned.perm (h : Owned m owners) (hperm : owners.Perm owners') : Owned m owners' :=
  ⟨fun a => (h.count a).trans (hperm.count_eq a), h.live, h.fresh, h.noFault⟩

/-- **An object is there exactly when it has an owner.** -/
theorem Owned.isSome_iff (h : Owned m owners) : (m.objects a).isSome = true ↔ a ∈ owners := by
  rw [← List.count_pos_iff, ← h.count a, RefCount.count]
  cases ho : m.objects a with
  | none => simp
  | some o =>
    obtain ⟨n, d⟩ := o
    simpa using h.live a n d ho

theorem Owned.exists_object (h : Owned m owners) (ha : a ∈ owners) :
    ∃ d, m.objects a = some (owners.count a, d) := by
  obtain ⟨o, ho⟩ := Option.isSome_iff_exists.1 (h.isSome_iff.2 ha)
  obtain ⟨n, d⟩ := o
  have hn : n = owners.count a := by
    rw [← h.count a, RefCount.count, ho]
    rfl
  exact ⟨d, by rw [ho, hn]⟩

theorem count_put (m : RefCount δ) (a : ℕ) (o : Option (ℕ × δ)) (b : ℕ) :
    (m.put a o).count b = if b = a then (o.map Prod.fst).getD 0 else m.count b := by
  unfold count put
  split_ifs with hb
  · subst hb; simp
  · simp [hb]

/-- Changing the count of an object that is there, or freeing it. -/
theorem Owned.put (h : Owned m owners) (ha : a ∈ owners) {o : Option (ℕ × δ)}
    (hlive : ∀ n d, o = some (n, d) → 0 < n)
    (hcount : ∀ b, owners'.count b = if b = a then (o.map Prod.fst).getD 0 else owners.count b) :
    Owned (m.put a o) owners' where
  count b := by rw [count_put, hcount b, h.count b]
  live b n d hb := by
    by_cases hba : b = a
    · subst hba
      exact hlive n d (by simpa [RefCount.put] using hb)
    · exact h.live b n d (by simpa [RefCount.put, hba] using hb)
  fresh b hb := by
    have hba : b ≠ a := by
      intro heq
      subst heq
      have hsome := h.isSome_iff.2 ha
      rw [h.fresh b hb] at hsome
      cases hsome
    simpa [RefCount.put, hba] using h.fresh b hb
  noFault := h.noFault

@[simp] theorem alloc_fst (m : RefCount δ) (d : δ) : (m.alloc d).1 = m.next := rfl

theorem Owned.next_not_mem (h : Owned m owners) : m.next ∉ owners := by
  rw [← h.isSome_iff, h.fresh m.next (Nat.le_refl _)]
  simp

theorem Owned.alloc (h : Owned m owners) (d : δ) : Owned (m.alloc d).2 (m.next :: owners) where
  count b := by
    have hzero : m.count m.next = 0 := by
      rw [RefCount.count, h.fresh m.next (Nat.le_refl _)]
      rfl
    show (m.put m.next (some (1, d))).count b = _
    rw [count_put, List.count_cons, ← h.count b]
    by_cases hb : b = m.next
    · subst hb; simp [hzero]
    · simp [hb, Ne.symm hb]
  live b n d' hb := by
    have hb : (m.put m.next (some (1, d))).objects b = some (n, d') := hb
    by_cases hbn : b = m.next
    · subst hbn
      have heq : (1, d) = (n, d') := by simpa [RefCount.put] using hb
      cases heq
      exact Nat.one_pos
    · exact h.live b n d' (by simpa [RefCount.put, hbn] using hb)
  fresh b hb := by
    have hlt : m.next + 1 ≤ b := hb
    have hne : b ≠ m.next := by omega
    show Function.update m.objects m.next _ b = none
    rw [Function.update_of_ne hne]
    exact h.fresh b (by omega)
  noFault := h.noFault

theorem ref_eq (h : m.objects a = some (n, d)) : m.ref a = m.put a (some (n + 1, d)) := by
  simp [ref, h]

theorem unref_eq (h : m.objects a = some (n + 1, d)) :
    m.unref a = m.put a (if n = 0 then none else some (n, d)) := by
  simp [unref, h]

theorem write_eq {old : δ} (h : m.objects a = some (n, old)) :
    m.write a d = m.put a (some (n, d)) := by
  simp [write, h]

theorem Owned.ref (h : Owned m owners) (ha : a ∈ owners) : Owned (m.ref a) (a :: owners) := by
  obtain ⟨d, hd⟩ := h.exists_object ha
  rw [ref_eq hd]
  refine h.put ha ?_ fun b => ?_
  · intro n d' heq
    cases heq
    exact Nat.succ_pos _
  · by_cases hba : b = a
    · subst hba; simp
    · simp [hba, Ne.symm hba]

/-- The object of the first owner. -/
theorem Owned.head_object (h : Owned m (a :: owners)) :
    ∃ d, m.objects a = some (owners.count a + 1, d) := by
  obtain ⟨d, hd⟩ := h.exists_object List.mem_cons_self
  exact ⟨d, by rwa [List.count_cons_self] at hd⟩

theorem Owned.unref (h : Owned m (a :: owners)) : Owned (m.unref a) owners := by
  obtain ⟨d, hd⟩ := h.head_object
  rw [unref_eq hd]
  refine h.put List.mem_cons_self ?_ fun b => ?_
  · intro n d' heq
    split_ifs at heq with hzero
    cases heq
    exact Nat.pos_of_ne_zero hzero
  · by_cases hba : b = a
    · subst hba
      rw [if_pos rfl]
      split_ifs with hzero
      · exact hzero
      · rfl
    · simp [hba, Ne.symm hba]

theorem Owned.write (h : Owned m owners) (ha : a ∈ owners) (d : δ) :
    Owned (m.write a d) owners := by
  obtain ⟨old, hold⟩ := h.exists_object ha
  rw [write_eq hold]
  refine h.put ha ?_ fun b => ?_
  · intro n d' heq
    cases heq
    exact List.count_pos_iff.2 ha
  · split_ifs with hba
    · subst hba; rfl
    · rfl

/-- References dropped one after the other. -/
theorem Owned.unrefAll {dropped : List ℕ} (h : Owned m (dropped ++ owners)) :
    Owned (dropped.foldl (fun m a => m.unref a) m) owners := by
  induction dropped generalizing m with
  | nil => exact h
  | cons a dropped ih => exact ih h.unref

/-! ## What the objects hold -/

theorem data_put (m : RefCount δ) (a : ℕ) (o : Option (ℕ × δ)) (b : ℕ) :
    (m.put a o).data b = if b = a then o.map Prod.snd else m.data b := by
  unfold data put
  split_ifs with hb
  · subst hb; simp
  · simp [hb]

theorem data_alloc (m : RefCount δ) (d : δ) (b : ℕ) :
    (m.alloc d).2.data b = if b = m.next then some d else m.data b :=
  data_put m m.next (some (1, d)) b

@[simp] theorem data_ref (m : RefCount δ) (a b : ℕ) : (m.ref a).data b = m.data b := by
  cases ha : m.objects a with
  | none => simp [ref, ha, data]
  | some o =>
    rw [ref_eq ha, data_put]
    split_ifs with hb
    · subst hb; simp [data, ha]
    · rfl

/-- Who drops a reference leaves the data of the objects that are still owned alone. -/
theorem data_unref (h : Owned m (a :: owners)) (hb : b ∈ owners) :
    (m.unref a).data b = m.data b := by
  obtain ⟨d, hd⟩ := h.head_object
  rw [unref_eq hd, data_put]
  split_ifs with hba hzero
  · subst hba
    exact absurd hzero (Nat.pos_iff_ne_zero.1 (List.count_pos_iff.2 hb))
  · subst hba; simp [data, hd]
  · rfl

theorem data_unrefAll {dropped : List ℕ} (h : Owned m (dropped ++ owners)) (hb : b ∈ owners) :
    (dropped.foldl (fun m a => m.unref a) m).data b = m.data b := by
  induction dropped generalizing m with
  | nil => rfl
  | cons a dropped ih =>
    exact (ih h.unref).trans (data_unref h (List.mem_append_right _ hb))

theorem data_write (h : Owned m owners) (ha : a ∈ owners) (d : δ) (b : ℕ) :
    (m.write a d).data b = if b = a then some d else m.data b := by
  obtain ⟨old, hold⟩ := h.exists_object ha
  rw [write_eq hold, data_put]
  rfl

end RefCount
