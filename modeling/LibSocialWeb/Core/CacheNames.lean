import LibSocialWeb.Lib.Cuts
import Mathlib.Data.List.AList
import Mathlib.Data.List.Lex
import Mathlib.Data.Nat.Notation
import Mathlib.Order.Nat
import Mathlib.Tactic.SplitIfs

/-!
# Names of cache files (`libsocialweb/sw-utils.c`, `libsocialweb/sw-cache.c`)

The cache of a view is a file whose name has the service, the query and a hash of the parameters in
it. `sw_hash_string_dict` feeds the keys, in order, and their values to a checksum. Nothing stands
between them, so that the checksum does not see where one string ends and the next begins.

Strings are lists of bytes here. `md5` stands for the checksum as it is printed.

**Main results.** `cacheFile_iff`: two tables have different hashes and files unless one is the
other with its keys and values cut in another way. `exists_cacheFile_shared`: for every table there
is such another one.
-/

namespace LibSocialWeb

open Cuts

/-- A hash table of strings. -/
abbrev StringDict := AList fun _ : List UInt8 => List UInt8

/-- `strcmp (s, t) <= 0` -/
def strcmpLe (s t : List UInt8) : Bool := s.map UInt8.toNat ≤ t.map UInt8.toNat

/-- `g_hash_table_get_keys`, sorted. -/
def sortedKeys (hash : StringDict) : List (List UInt8) := hash.keys.mergeSort strcmpLe

/-- The strings that the checksum is updated with. -/
def checksumStrings (hash : StringDict) : List (List UInt8) :=
  (sortedKeys hash).flatMap fun key => [key, (hash.lookup key).getD []]

variable (md5 : List UInt8 → String)

/-- `sw_hash_string_dict` -/
def swHashStringDict (hash : StringDict) : String := md5 (checksumStrings hash).flatten

/-- `get_cache_filename`, where `path` is the directory of the cache. -/
def getCacheFilename (path service query : String) (params : StringDict) : String :=
  let filename := service ++ "-" ++ query ++ "-" ++ swHashStringDict md5 params
  path ++ "/" ++ String.ofList (filename.toList.dropWhile (· = '/'))

/-- The tables have the same entries. -/
def SameEntries (p q : StringDict) : Prop := ∀ key, p.lookup key = q.lookup key

/-! ## The strings of a table -/

theorem strcmpLe_antisymm {s t : List UInt8} (h : strcmpLe s t = true) (h' : strcmpLe t s = true) :
    s = t := by
  have heq := le_antisymm (of_decide_eq_true h) (of_decide_eq_true h')
  exact List.map_injective_iff.2 (fun _ _ => UInt8.toNat_inj.1) heq

theorem pairwise_sortedKeys (hash : StringDict) :
    (sortedKeys hash).Pairwise fun s t => strcmpLe s t = true := by
  refine List.pairwise_mergeSort ?_ ?_ _
  · intro s t u hst htu
    exact decide_eq_true ((of_decide_eq_true hst).trans (of_decide_eq_true htu))
  · intro s t
    rw [Bool.or_eq_true]
    exact (le_total _ _).imp decide_eq_true decide_eq_true

theorem mem_sortedKeys {hash : StringDict} {key : List UInt8} :
    key ∈ sortedKeys hash ↔ key ∈ hash :=
  (List.mergeSort_perm _ _).mem_iff

theorem sortedKeys_eq {p q : StringDict} (h : SameEntries p q) : sortedKeys p = sortedKeys q := by
  have hmem : ∀ key, key ∈ p.keys ↔ key ∈ q.keys := by
    intro key
    have hiff := not_congr (AList.lookup_eq_none (a := key) (s := p))
    rw [h key, AList.lookup_eq_none, not_not, not_not] at hiff
    exact hiff.symm
  have hperm : (sortedKeys p).Perm (sortedKeys q) :=
    (List.mergeSort_perm _ _).trans
      (((List.perm_ext_iff_of_nodup p.nodupKeys q.nodupKeys).2 hmem).trans
        (List.mergeSort_perm _ _).symm)
  exact hperm.eq_of_pairwise (fun _ _ _ _ => strcmpLe_antisymm) (pairwise_sortedKeys p)
    (pairwise_sortedKeys q)

/-- A list of keys with a value after each tells the keys and the values. -/
theorem flatMap_pair_inj {α : Type*} {f g : α → α} {l m : List α}
    (h : (l.flatMap fun a => [a, f a]) = m.flatMap fun a => [a, g a]) :
    l = m ∧ ∀ a ∈ l, f a = g a := by
  induction l generalizing m with
  | nil =>
    cases m with
    | nil => exact ⟨rfl, List.forall_mem_nil _⟩
    | cons b m => cases h
  | cons a l ih =>
    cases m with
    | nil => cases h
    | cons b m =>
      simp only [List.flatMap_cons, List.cons_append, List.nil_append, List.cons.injEq] at h
      obtain ⟨rfl, hvalue, hrest⟩ := h
      obtain ⟨rfl, hvalues⟩ := ih hrest
      exact ⟨rfl, List.forall_mem_cons.2 ⟨hvalue, hvalues⟩⟩

/-- The strings tell the table. -/
theorem checksumStrings_eq_iff {p q : StringDict} :
    checksumStrings p = checksumStrings q ↔ SameEntries p q := by
  refine ⟨?_, ?_⟩
  · intro h key
    obtain ⟨hkeys, hvalues⟩ := flatMap_pair_inj h
    have hmem : key ∈ p ↔ key ∈ q := by rw [← mem_sortedKeys, hkeys, mem_sortedKeys]
    by_cases hkey : key ∈ p
    · obtain ⟨v, hv⟩ := Option.isSome_iff_exists.1 (AList.lookup_isSome.2 hkey)
      obtain ⟨w, hw⟩ := Option.isSome_iff_exists.1 (AList.lookup_isSome.2 (hmem.1 hkey))
      have hvalue := hvalues key (mem_sortedKeys.2 hkey)
      rw [hv, hw] at hvalue ⊢
      exact congrArg some hvalue
    · rw [AList.lookup_eq_none.2 hkey, AList.lookup_eq_none.2 (mt hmem.2 hkey)]
  · intro h
    rw [checksumStrings, checksumStrings, sortedKeys_eq h]
    refine List.flatMap_congr fun key _ => ?_
    rw [h key]

/-! ## Hashes and files -/

variable {md5}

/-- The hash comes after a dash, so that no part of it is taken for separators at the front. -/
theorem dropWhile_append_dash (front hash : List Char) :
    (front ++ '-' :: hash).dropWhile (· = '/') = front.dropWhile (· = '/') ++ '-' :: hash := by
  have hdash : ('-' :: hash).dropWhile (· = '/') = '-' :: hash := rfl
  rw [List.dropWhile_append, hdash]
  split_ifs with hempty
  · rw [List.isEmpty_iff.1 hempty, List.nil_append]
  · rfl

theorem getCacheFilename_eq_iff {path service query : String} {p q : StringDict} :
    getCacheFilename md5 path service query p = getCacheFilename md5 path service query q ↔
      swHashStringDict md5 p = swHashStringDict md5 q := by
  have hname : ∀ params, (getCacheFilename md5 path service query params).toList =
      (path.toList ++ '/' :: (service ++ "-" ++ query).toList.dropWhile (· = '/') ++ ['-']) ++
        (swHashStringDict md5 params).toList := by
    intro params
    have hfilename : (service ++ "-" ++ query ++ "-" ++ swHashStringDict md5 params).toList =
        (service ++ "-" ++ query).toList ++ '-' :: (swHashStringDict md5 params).toList := by
      simp
    rw [getCacheFilename, hfilename, dropWhile_append_dash]
    simp
  rw [← String.toList_inj, hname, hname, List.append_right_inj, String.toList_inj]

/-- **Which tables share a hash and a file.** -/
theorem cacheFile_iff (hmd5 : Function.Injective md5) (p q : StringDict) :
    ((swHashStringDict md5 p = swHashStringDict md5 q ↔ SameEntries p q) ∧
      ∀ path service query, getCacheFilename md5 path service query p =
        getCacheFilename md5 path service query q ↔ SameEntries p q) ↔
      (Recut (checksumStrings p) (checksumStrings q) → SameEntries p q) := by
  have hhash : swHashStringDict md5 p = swHashStringDict md5 q ↔
      Recut (checksumStrings p) (checksumStrings q) := by
    rw [recut_iff_flatten_eq]
    exact hmd5.eq_iff
  have hsame : SameEntries p q → Recut (checksumStrings p) (checksumStrings q) := by
    intro h
    rw [checksumStrings_eq_iff.2 h]
    exact .refl _
  simp only [getCacheFilename_eq_iff, hhash]
  exact ⟨fun h => h.1.1, fun h => ⟨⟨h, hsame⟩, fun _ _ _ => ⟨h, hsame⟩⟩⟩

/-! ## Every table has a double -/

theorem checksumStrings_empty : checksumStrings ∅ = [] := by
  have hkeys : sortedKeys ∅ = [] := List.mergeSort_nil
  rw [checksumStrings, hkeys, List.flatMap_nil]

/-- A table with one entry. -/
def oneEntry (key value : List UInt8) : StringDict := AList.singleton key value

theorem lookup_oneEntry (key value other : List UInt8) :
    (oneEntry key value).lookup other = if other = key then some value else none := by
  split_ifs with heq
  · subst heq
    exact List.dlookup_cons_eq _ _ _
  · exact List.dlookup_cons_ne _ _ heq

theorem flatten_checksumStrings_oneEntry (key value : List UInt8) :
    (checksumStrings (oneEntry key value)).flatten = key ++ value := by
  have hkeys : sortedKeys (oneEntry key value) = [key] := List.mergeSort_singleton key
  rw [checksumStrings, hkeys, List.flatMap_singleton, lookup_oneEntry, if_pos rfl]
  simp

/-- Of two tables, one differs from `p`. -/
theorem exists_of_two {p : StringDict} (q q' : StringDict) (hdiffer : ¬ SameEntries q q')
    {text : List UInt8} (hq : (checksumStrings q).flatten = text)
    (hq' : (checksumStrings q').flatten = text) :
    ∃ r, ¬ SameEntries p r ∧ (checksumStrings r).flatten = text := by
  by_cases hsame : SameEntries p q
  · exact ⟨q', fun h => hdiffer fun key => (hsame key).symm.trans (h key), hq'⟩
  · exact ⟨q, hsame, hq⟩

/-- **For every table there is another with the same hash.** Its text may be a key without a value
or a value without a key. -/
theorem exists_cacheFile_shared (md5 : List UInt8 → String) (p : StringDict) :
    ∃ q, ¬ SameEntries p q ∧ swHashStringDict md5 p = swHashStringDict md5 q := by
  have hdouble : ∃ q, ¬ SameEntries p q ∧
      (checksumStrings q).flatten = (checksumStrings p).flatten := by
    by_cases htext : (checksumStrings p).flatten = []
    · refine exists_of_two ∅ (oneEntry [] []) ?_ ?_ ?_
      · intro h
        have hlookup := h []
        rw [lookup_oneEntry, if_pos rfl] at hlookup
        cases hlookup
      · rw [htext, checksumStrings_empty]
        rfl
      · rw [htext]
        exact flatten_checksumStrings_oneEntry [] []
    · refine exists_of_two (oneEntry (checksumStrings p).flatten [])
        (oneEntry [] (checksumStrings p).flatten) ?_ ?_ ?_
      · intro h
        have hlookup := h []
        rw [lookup_oneEntry, lookup_oneEntry, if_neg (Ne.symm htext), if_pos rfl] at hlookup
        cases hlookup
      · rw [flatten_checksumStrings_oneEntry, List.append_nil]
      · exact flatten_checksumStrings_oneEntry _ _
  obtain ⟨q, hdiffer, htext⟩ := hdouble
  exact ⟨q, hdiffer, congrArg md5 htext.symm⟩

/-! ## A collision -/

/-- The checksum of `abc` as it is. Other texts are printed in place of their checksums. -/
def abcMd5 (text : List UInt8) : String :=
  if text = [97, 98, 99] then "900150983cd24fb0d6963f7d28e17f72"
  else String.ofList ('-' :: text.map fun b => Char.ofNat b.toNat)

theorem abcMd5_injective : Function.Injective abcMd5 := by
  have hletter : Function.LeftInverse (fun c : Char => UInt8.ofNat c.toNat)
      fun b : UInt8 => Char.ofNat b.toNat := by
    intro b
    have hb := b.toNat_lt
    have hvalid : b.toNat.isValidChar := Or.inl (by omega)
    dsimp only
    rw [Char.ofNat, dif_pos hvalid]
    exact UInt8.ofNat_toNat
  have hother : ∀ text : List UInt8, "900150983cd24fb0d6963f7d28e17f72" ≠
      String.ofList ('-' :: text.map fun b => Char.ofNat b.toNat) := by
    intro text heq
    have hhead := congrArg (fun s => s.toList.head?) heq
    rw [String.toList_ofList] at hhead
    revert hhead
    simp
  intro s t h
  unfold abcMd5 at h
  split_ifs at h with hs ht ht
  · exact hs.trans ht.symm
  · exact absurd h (hother t)
  · exact absurd h.symm (hother s)
  · have htail := (List.cons.inj (String.ofList_injective h)).2
    exact List.map_injective_iff.2 hletter.injective htail

/-- The key `a` with the value `bc`. -/
def aBc : StringDict := oneEntry [97] [98, 99]

/-- The key `ab` with the value `c`. -/
def abC : StringDict := oneEntry [97, 98] [99]

theorem cacheFile_abc :
    ((swHashStringDict abcMd5 aBc = swHashStringDict abcMd5 abC ↔ SameEntries aBc abC) ∧
      ∀ path service query, getCacheFilename abcMd5 path service query aBc =
        getCacheFilename abcMd5 path service query abC ↔ SameEntries aBc abC) ↔
      (Recut (checksumStrings aBc) (checksumStrings abC) → SameEntries aBc abC) :=
  cacheFile_iff abcMd5_injective aBc abC

theorem not_cacheFile_abc : ¬ ∀ md5 : List UInt8 → String, Function.Injective md5 → ∀ p q,
    (swHashStringDict md5 p = swHashStringDict md5 q ↔ SameEntries p q) := by
  intro h
  have htext : (checksumStrings aBc).flatten = (checksumStrings abC).flatten := by
    rw [aBc, abC, flatten_checksumStrings_oneEntry, flatten_checksumStrings_oneEntry]
    rfl
  have hsame := (h abcMd5 abcMd5_injective aBc abC).1 (congrArg abcMd5 htext)
  have hlookup := hsame [97]
  rw [aBc, abC, lookup_oneEntry, lookup_oneEntry, if_pos rfl, if_neg (by decide)] at hlookup
  cases hlookup

end LibSocialWeb
