import LibSocialWeb.Core.CacheReload

/-!
# What `sw_contact_equal` compares

Two contacts should be equal when they have the same service, the same number of fetches and the
same lists under every key other than `cached`. As with items, the code goes through the entries of
one contact and compares the sizes of the two tables.

**Absent lists.** A key that the other contact does not have is compared as an empty list, since
`g_strv_length` returns 0 for NULL. So an empty list, which a failed image download leaves, equals
one that is not there, and the sizes need not notice: another key of the other contact, or an empty
list under `cached`, can make up for it. `sw_contact_get` does not find an empty list, so that only
then the key `cached` is counted.

**Main result.** `contactEqualIsDataEquality_iff`: the result is right exactly when the keys are the
same and both contacts have an empty `cached` or neither does, or the keys differ and so do their
numbers. An absent list is never read.
-/

namespace LibSocialWeb

namespace SwContact

/-! ## The data that is compared -/

/-- The table without the key `cached`. -/
def data (contact : SwContact) : AList fun _ : KeyPtr => List String :=
  contact.hash.erase (.interned "cached")

/-- The key `cached` with an empty list. -/
def emptyCached (contact : SwContact) : Bool := contact.getAll "cached" == some []

/-- Same service, same number of fetches, and the same lists under all keys but `cached`. -/
structure SameApartFromCached (a b : SwContact) : Prop where
  service : a.service = b.service
  remainingFetches : a.remainingFetches = b.remainingFetches
  data : ∀ k, a.data.lookup k = b.data.lookup k

/-- The lists of `a` are those of `b`, where a list that `b` does not have counts as empty. -/
structure Covers (a b : SwContact) : Prop where
  service : a.service = b.service
  remainingFetches : a.remainingFetches = b.remainingFetches
  data : ∀ k v, a.data.lookup k = some v → (b.data.lookup k).getD [] = v

/-- The same keys apart from `cached`. -/
def SameKeys (a b : SwContact) : Prop := ∀ k, k ∈ a.data ↔ k ∈ b.data

/-- The number of keys that only `a` has. -/
def only (a b : SwContact) : Nat := (a.data.keys.filter (· ∉ b.data)).length

/-- The size that is compared: the key `cached` is left out if its list has a value. -/
def countedSize (contact : SwContact) : Nat :=
  if (contact.get "cached").isSome then contact.hash.entries.length - 1
  else contact.hash.entries.length

theorem countedSize_eq (contact : SwContact) :
    contact.countedSize = contact.data.entries.length + contact.emptyCached.toNat := by
  have hlength := Tables.length_erase contact.hash (.interned "cached")
  simp only [← AList.lookup_isSome] at hlength
  unfold countedSize emptyCached get getAll data
  cases hcached : contact.hash.lookup (.interned "cached") with
  | none =>
    simp only [hcached, Option.isSome_none, Bool.false_eq_true, if_false] at hlength
    exact hlength.symm
  | some list =>
    simp only [hcached, Option.isSome_some, if_true] at hlength
    cases list with
    | nil => exact hlength.symm
    | cons v vs => exact Nat.sub_eq_of_eq_add hlength.symm

variable {a b : SwContact}

/-- The loop of `sw_contact_equal` looks for the lists of one contact in the other one. -/
theorem all_entries_iff (ha : a.Interned) :
    (a.hash.entries.all fun ⟨keyA, valueA⟩ =>
      if keyA.str = "cached" then true else valueA == (b.getAll keyA.str).getD []) = true ↔
      ∀ k v, a.data.lookup k = some v → (b.data.lookup k).getD [] = v := by
  rw [List.all_eq_true]
  refine ⟨?_, ?_⟩
  · intro hall k v hk
    have hne : k ≠ .interned "cached" := by
      intro heq
      rw [heq, data, AList.lookup_erase] at hk
      cases hk
    rw [data, AList.lookup_erase_ne hne] at hk ⊢
    have hmem : k ∈ a.hash.keys := List.mem_map_of_mem (AList.mem_lookup_iff.1 hk)
    obtain ⟨s, rfl⟩ := ha k hmem
    have hentry := hall ⟨.interned s, v⟩ (AList.mem_lookup_iff.1 hk)
    have hstr : (KeyPtr.interned s).str ≠ "cached" :=
      fun heq => hne (congrArg KeyPtr.interned heq)
    dsimp only at hentry
    rw [if_neg hstr] at hentry
    exact (eq_of_beq hentry).symm
  · intro hsub entry hmem
    obtain ⟨k, v⟩ := entry
    obtain ⟨s, rfl⟩ := ha k (List.mem_map_of_mem hmem)
    dsimp only
    split_ifs with hstr
    · rfl
    · have hne : KeyPtr.interned s ≠ .interned "cached" := by
        intro heq
        exact hstr (KeyPtr.interned.inj heq)
      have hk := hsub (.interned s) v
      rw [data, data, AList.lookup_erase_ne hne, AList.lookup_erase_ne hne] at hk
      exact beq_iff_eq.2 (hk (AList.mem_lookup_iff.2 hmem)).symm

/-- **What `sw_contact_equal` computes.** -/
theorem equal_iff (ha : a.Interned) :
    a.equal b = true ↔ Covers a b ∧ a.countedSize = b.countedSize := by
  show (if a.service ≠ b.service then false else if a.remainingFetches ≠ b.remainingFetches then
    false else if a.countedSize ≠ b.countedSize then false else _) = true ↔ _
  split_ifs with hservice hfetches hsize
  · exact iff_of_false id fun h => hservice h.1.service
  · exact iff_of_false id fun h => hfetches h.1.remainingFetches
  · exact iff_of_false id fun h => hsize h.2
  · refine (all_entries_iff ha).trans ?_
    exact ⟨fun h => ⟨⟨not_not.1 hservice, not_not.1 hfetches, h⟩, not_not.1 hsize⟩,
      fun h => h.1.data⟩

/-! ## Counting the keys -/

theorem length_data (a b : SwContact) : a.data.entries.length =
    (a.data.keys.filter (· ∈ b.data)).length + a.only b := by
  have hsplit := List.length_eq_length_filter_add (l := a.data.keys) fun k => decide (k ∈ b.data)
  rw [← Tables.length_keys, hsplit, only]
  simp only [decide_not]

/-- The sizes are the same when each contact has as many keys for itself as the other one. -/
theorem length_data_add_only (a b : SwContact) :
    a.data.entries.length + b.only a = b.data.entries.length + a.only b := by
  have hcomm := Tables.length_filter_mem_comm a.data b.data
  have hlengthA := length_data a b
  have hlengthB := length_data b a
  omega

theorem only_eq_zero_iff : a.only b = 0 ↔ ∀ k ∈ a.data, k ∈ b.data := by
  rw [only, List.length_eq_zero_iff, List.filter_eq_nil_iff]
  simp only [decide_not, Bool.not_eq_true', decide_eq_false_iff_not, not_not, AList.mem_keys]

theorem sameKeys_iff : SameKeys a b ↔ a.only b = 0 ∧ b.only a = 0 := by
  rw [only_eq_zero_iff, only_eq_zero_iff]
  exact ⟨fun h => ⟨fun k => (h k).1, fun k => (h k).2⟩, fun h k => ⟨h.1 k, h.2 k⟩⟩

/-- Two contacts agree when one covers the other and their keys are the same. -/
theorem sameApartFromCached_iff : SameApartFromCached a b ↔ Covers a b ∧ SameKeys a b := by
  refine ⟨?_, ?_⟩
  · intro h
    refine ⟨⟨h.service, h.remainingFetches, ?_⟩, ?_⟩
    · intro k v hk
      rw [← h.data k, hk]
      rfl
    · intro k
      rw [← AList.lookup_isSome, h.data k, AList.lookup_isSome]
  · intro h
    refine ⟨h.1.service, h.1.remainingFetches, fun k => ?_⟩
    cases hk : a.data.lookup k with
    | none => exact (AList.lookup_eq_none.2 fun hb => AList.lookup_eq_none.1 hk ((h.2 k).2 hb)).symm
    | some v =>
      have hmem : k ∈ b.data := (h.2 k).1 (AList.lookup_isSome.1 (hk ▸ rfl))
      obtain ⟨w, hw⟩ := Option.isSome_iff_exists.1 (AList.lookup_isSome.2 hmem)
      have hcover := h.1.data k v hk
      rw [hw] at hcover ⊢
      exact congrArg some hcover.symm

/-! ## Reading the lists -/

/-- `g_strv_length` -/
def strvLength (value : Option (List String)) : Nat := (value.getD []).length

/-- `value[i]`, if there is a list to read and a string to compare. -/
def readAt (value : Option (List String)) (i : Nat) : Option String := value.bind (·[i]?)

/-- The inner loop, from the index `i` on. It fails if it reads what is not there. -/
def compareFrom (valueB : Option (List String)) : List String → Nat → Option Bool
  | [], _ => some true
  | v :: vs, i => (readAt valueB i).bind fun w =>
      if v = w then compareFrom valueB vs (i + 1) else some false

def compareValues (valueA : List String) (valueB : Option (List String)) : Option Bool :=
  if valueA.length ≠ strvLength valueB then some false else compareFrom valueB valueA 0

/-- The outer loop. -/
def compareEntries (b : SwContact) : List (Sigma fun _ : KeyPtr => List String) → Option Bool
  | [] => some true
  | ⟨keyA, valueA⟩ :: entries =>
      if keyA.str = "cached" then compareEntries b entries
      else (compareValues valueA (b.getAll keyA.str)).bind fun same =>
        if same then compareEntries b entries else some false

/-- `sw_contact_equal` with each read of a list, none if it reads what is not there. -/
def equalReading (a b : SwContact) : Option Bool :=
  if a.service ≠ b.service then some false
  else if a.remainingFetches ≠ b.remainingFetches then some false
  else if a.countedSize ≠ b.countedSize then some false
  else compareEntries b a.hash.entries

theorem compareFrom_eq (list vs : List String) (i : Nat) (hi : i + vs.length = list.length) :
    compareFrom (some list) vs i = some (vs == list.drop i) := by
  induction vs generalizing i with
  | nil =>
    have hdrop : list.drop i = [] := List.drop_eq_nil_of_le (Nat.le_of_eq hi.symm)
    rw [hdrop]
    rfl
  | cons v vs ih =>
    rw [List.length_cons] at hi
    have hlt : i < list.length := by omega
    have hread : readAt (some list) i = some list[i] := List.getElem?_eq_getElem hlt
    rw [compareFrom, hread, Option.bind_some, List.drop_eq_getElem_cons hlt]
    split_ifs with hv
    · rw [ih (i + 1) (by omega), List.cons_beq_cons, beq_iff_eq.2 hv, Bool.true_and]
    · rw [List.cons_beq_cons, beq_eq_false_iff_ne.2 hv, Bool.false_and]

theorem compareValues_eq (valueA : List String) (valueB : Option (List String)) :
    compareValues valueA valueB = some (valueA == valueB.getD []) := by
  unfold compareValues
  split_ifs with hlength
  · have hne : valueA ≠ valueB.getD [] := fun heq => hlength (congrArg List.length heq)
    rw [beq_eq_false_iff_ne.2 hne]
  · have hlength := not_not.1 hlength
    cases valueB with
    | none =>
      rw [List.eq_nil_of_length_eq_zero hlength]
      rfl
    | some list => exact compareFrom_eq list valueA 0 ((Nat.zero_add _).trans hlength)

theorem compareEntries_eq (b : SwContact) (entries : List (Sigma fun _ : KeyPtr => List String)) :
    compareEntries b entries = some (entries.all fun ⟨keyA, valueA⟩ =>
      if keyA.str = "cached" then true else valueA == (b.getAll keyA.str).getD []) := by
  induction entries with
  | nil => rfl
  | cons entry entries ih =>
    obtain ⟨keyA, valueA⟩ := entry
    rw [compareEntries, List.all_cons, compareValues_eq, ih]
    dsimp only
    split_ifs with hcached
    · rw [Bool.true_and]
    · cases valueA == (b.getAll keyA.str).getD [] <;> rfl

/-- **No list is read that is not there.** -/
theorem equalReading_eq (a b : SwContact) : a.equalReading b = some (a.equal b) := by
  show _ = some (if a.service ≠ b.service then false else if a.remainingFetches ≠ b.remainingFetches
    then false else if a.countedSize ≠ b.countedSize then false else _)
  unfold equalReading
  split_ifs
  · rfl
  · rfl
  · rfl
  · exact compareEntries_eq b _

/-! ## Contacts that are built -/

/-- The contacts that the code builds. `sw_contact_take` puts as `sw_contact_put` does. -/
inductive Built : SwContact → Prop where
  | new (service : SwService) : Built (new service)
  | put {contact : SwContact} (h : Built contact) (key : String) (value : Option String) :
      Built (contact.put key value)
  | pushPending {contact : SwContact} (h : Built contact) : Built contact.pushPending
  | popPending {contact : SwContact} (h : Built contact) : Built contact.popPending

theorem Built.interned {contact : SwContact} (h : Built contact) : contact.Interned := by
  induction h with
  | new service => exact interned_new service
  | put _ key value ih => exact interned_put ih key value
  | pushPending _ ih => exact ih
  | popPending _ ih => exact ih

/-! ## The main result -/

/-- Where `b` covers `a`: if the keys are the same, both have an empty `cached` or neither does; if
they are not, the numbers of keys that one contact has for itself differ, counting `cached` when its
list is empty. -/
def EqualOk (a b : SwContact) : Prop :=
  Covers a b →
    (SameKeys a b → a.emptyCached = b.emptyCached) ∧
    (¬ SameKeys a b → a.only b + a.emptyCached.toNat ≠ b.only a + b.emptyCached.toNat)

/-- One pair of contacts. -/
theorem equal_iff_sameApartFromCached (ha : Built a) :
    (a.equal b = true ↔ SameApartFromCached a b) ↔ EqualOk a b := by
  rw [equal_iff ha.interned, sameApartFromCached_iff, EqualOk, countedSize_eq, countedSize_eq]
  by_cases hcovers : Covers a b
  · have hlength := length_data_add_only a b
    have hkeys := sameKeys_iff (a := a) (b := b)
    simp only [hcovers, true_and, true_imp_iff]
    by_cases hsame : SameKeys a b
    · have honly := hkeys.1 hsame
      simp only [hsame, iff_true, true_imp_iff, not_true_eq_false, false_imp_iff, and_true]
      cases a.emptyCached <;> cases b.emptyCached <;> simp <;> omega
    · simp only [hsame, iff_false, false_imp_iff, not_false_eq_true, true_imp_iff, true_and]
      omega
  · simp [hcovers]

theorem SameApartFromCached.refl (a : SwContact) : SameApartFromCached a a :=
  ⟨rfl, rfl, fun _ => rfl⟩

theorem SameApartFromCached.symm (h : SameApartFromCached a b) : SameApartFromCached b a :=
  ⟨h.service.symm, h.remainingFetches.symm, fun k => (h.data k).symm⟩

theorem SameApartFromCached.trans {c : SwContact} (h : SameApartFromCached a b)
    (h' : SameApartFromCached b c) : SameApartFromCached a c :=
  ⟨h.service.trans h'.service, h.remainingFetches.trans h'.remainingFetches,
    fun k => (h.data k).trans (h'.data k)⟩

/-- **`sw_contact_equal` reads no absent list, and it is data equality exactly when no empty list is
taken for an absent one.** It is an equivalence relation on every class of contacts where this is
so. -/
theorem contactEqualIsDataEquality_iff {P : SwContact → Prop}
    (hbuilt : ∀ contact, P contact → Built contact) :
    (∀ a b, P a → P b → a.equalReading b = some (a.equal b) ∧
      ((a.equal b = true ↔ SameApartFromCached a b) ↔ EqualOk a b)) ∧
      ((∀ a b, P a → P b → EqualOk a b) →
        Equivalence fun a b : {contact // P contact} => a.1.equal b.1 = true) := by
  refine ⟨?_, ?_⟩
  · intro a b ha _
    exact ⟨equalReading_eq a b, equal_iff_sameApartFromCached (hbuilt a ha)⟩
  · intro hok
    have hequal : ∀ a b : {contact // P contact},
        a.1.equal b.1 = true ↔ SameApartFromCached a.1 b.1 :=
      fun a b => (equal_iff_sameApartFromCached (hbuilt a a.2)).2 (hok a b a.2 b.2)
    refine ⟨?_, ?_, ?_⟩
    · intro a
      exact (hequal a a).2 (.refl a.1)
    · intro a b h
      exact (hequal b a).2 ((hequal a b).1 h).symm
    · intro a b c h h'
      exact (hequal a c).2 (((hequal a b).1 h).trans ((hequal b c).1 h'))

/-- Without empty lists nothing can be taken for an absent list. -/
theorem equalOk_of_noEmptyList (ha : ∀ key, a.getAll key ≠ some [])
    (hb : ∀ key, b.getAll key ≠ some []) (hinterned : a.Interned) : EqualOk a b := by
  intro hcovers
  have hcachedA : a.emptyCached = false := beq_eq_false_iff_ne.2 (ha "cached")
  have hcachedB : b.emptyCached = false := beq_eq_false_iff_ne.2 (hb "cached")
  have honly : a.only b = 0 := by
    rw [only_eq_zero_iff]
    intro k hk
    obtain ⟨v, hv⟩ := Option.isSome_iff_exists.1 (AList.lookup_isSome.2 hk)
    have hcover := hcovers.data k v hv
    by_contra hnot
    rw [AList.lookup_eq_none.2 hnot] at hcover
    have hmem := (AList.mem_erase.1 hk)
    obtain ⟨s, rfl⟩ := hinterned k hmem.2
    rw [data, AList.lookup_erase_ne hmem.1, ← hcover] at hv
    exact ha s hv
  refine ⟨fun _ => hcachedA.trans hcachedB.symm, ?_⟩
  intro hkeys
  rw [sameKeys_iff] at hkeys
  rw [hcachedA, hcachedB]
  omega

/-- Contacts whose downloads have not failed: equality is an equivalence relation on them. -/
theorem contactEqualIsDataEquality_noEmptyList :
    let contact := (new ⟨1, "flickr"⟩).put "id" (some "1")
    let named := contact.put "name" (some "Ann")
    (contact.equal named = true ↔ SameApartFromCached contact named) ∧
      Equivalence fun a b : {contact // Built contact ∧ ∀ key, contact.getAll key ≠ some []} =>
        a.1.equal b.1 = true := by
  intro contact named
  have hcontact : Built contact := (Built.new _).put _ _
  have hok : ∀ a b : SwContact, (Built a ∧ ∀ key, a.getAll key ≠ some []) →
      (Built b ∧ ∀ key, b.getAll key ≠ some []) → EqualOk a b :=
    fun a b ha hb => equalOk_of_noEmptyList ha.2 hb.2 ha.1.interned
  have h := contactEqualIsDataEquality_iff
    (P := fun c => Built c ∧ ∀ key, c.getAll key ≠ some []) fun c hc => hc.1
  have hput : ∀ c : SwContact, (∀ key, c.getAll key ≠ some []) → ∀ key v,
      ∀ key', (c.put key (some v)).getAll key' ≠ some [] := by
    intro c hc key v key'
    by_cases hkey : key' = key
    · rw [hkey, getAll_put_self]
      simp
    · rw [getAll_put_of_ne hkey]
      exact hc key'
  have hlists := hput (new ⟨1, "flickr"⟩) (fun key heq => nomatch heq) "id" "1"
  exact ⟨((h.1 _ _ ⟨hcontact, hlists⟩ ⟨hcontact.put _ _, hput _ hlists _ _⟩).2).2
    (hok _ _ ⟨hcontact, hlists⟩ ⟨hcontact.put _ _, hput _ hlists _ _⟩), h.2 hok⟩

/-- **A contact whose icon could not be fetched equals one that has a name instead**, but not the
other way round. -/
theorem failedDownload_equal :
    let contact := (new ⟨1, "flickr"⟩).put "id" (some "1")
    let failed := contact.put "icon" none
    let named := contact.put "name" (some "Ann")
    Built failed ∧ Built named ∧ ¬ SameApartFromCached failed named ∧
      failed.equal named = true ∧ named.equal failed = false := by
  intro contact failed named
  have hcontact : Built contact := (Built.new _).put _ _
  refine ⟨hcontact.put _ _, hcontact.put _ _, ?_, by decide, by decide⟩
  intro h
  exact absurd (h.data (.interned "name")) (by decide)

end SwContact

end LibSocialWeb
