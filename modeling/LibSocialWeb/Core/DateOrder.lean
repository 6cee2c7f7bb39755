import LibSocialWeb.Core.SwItem
import LibSocialWeb.Lib.Run
import Mathlib.Algebra.Group.Int.Defs
import Mathlib.Algebra.Group.Basic
import Mathlib.Logic.Function.Basic
import Mathlib.Tactic.SplitIfs

/-!
# The order of items by date (`libsocialweb/sw-item.c`)

`sw_item_compare_date_older` and `sw_item_compare_date_newer` compare two items by the time their
date stands for. Each item remembers that time once it has been asked for. Two things go wrong: a
remembered time stays when the date is changed, and the difference of two times, which has 64 bits,
is returned as an `int`.

`timeFromString` stands for `sw_time_t_from_string`, which is libsoup's parser.

**System.** The items are numbered. In a run their entries are changed and they are compared, in any
order.

**Main result.** `datesOrdered`: in every state of a run in which no remembered date is changed,
both functions order the items whose dates are less than `2 ^ 31` seconds apart.
-/

namespace LibSocialWeb

open Transition

/-- An item with the time it remembers; 0 stands for none. -/
structure DatedItem where
  item : SwItem
  cachedDate : Int64

abbrev DatedItems := ℕ → DatedItem

inductive DateEvent where
  | put (i : ℕ) (key : String) (value : Option String)
  | take (i : ℕ) (key : String) (value : Option String)
  | compareOlder (a b : ℕ)
  | compareNewer (a b : ℕ)

variable (timeFromString : String → Int64)

/-- `cache_date` -/
def DatedItem.cacheDate (x : DatedItem) : DatedItem :=
  if x.cachedDate ≠ 0 then x
  else
    match x.item.get "date" with
    | none => x
    | some s => { x with cachedDate := timeFromString s }

/-- The time of the date that the item holds; 0 if it holds none. -/
def DatedItem.date (x : DatedItem) : Int64 := ((x.item.get "date").map timeFromString).getD 0

namespace DatedItems

variable (s : DatedItems)

/-- `sw_item_put` and `sw_item_take` -/
def put (i : ℕ) (key : String) (value : Option String) : DatedItems :=
  Function.update s i { s i with item := (s i).item.put key value }

/-- `cache_date`, for the items that are compared. -/
def cacheDates (a b : ℕ) : DatedItems :=
  let s := Function.update s a ((s a).cacheDate timeFromString)
  Function.update s b ((s b).cacheDate timeFromString)

/-- `sw_item_compare_date_older` -/
def compareDateOlder (a b : ℕ) : Int32 × DatedItems :=
  let s := s.cacheDates timeFromString a b
  (((s a).cachedDate - (s b).cachedDate).toInt32, s)

/-- `sw_item_compare_date_newer` -/
def compareDateNewer (a b : ℕ) : Int32 × DatedItems :=
  let s := s.cacheDates timeFromString a b
  (((s b).cachedDate - (s a).cachedDate).toInt32, s)

def step (s : DatedItems) : DateEvent → DatedItems
  | .put i key value => s.put i key value
  | .take i key value => s.put i key value
  | .compareOlder a b => (s.compareDateOlder timeFromString a b).2
  | .compareNewer a b => (s.compareDateNewer timeFromString a b).2

/-- New items. -/
def init (service : ℕ → SwService) : DatedItems := fun i => ⟨⟨service i, ∅, 0⟩, 0⟩

/-! ## The property and the condition -/

/-- The seconds from the date of `b` to the date of `a`. -/
def difference (a b : ℕ) : ℤ :=
  ((s a).date timeFromString).toInt - ((s b).date timeFromString).toInt

/-- The dates are less than `2 ^ 31` seconds apart. -/
def Near (a b : ℕ) : Prop := (s.difference timeFromString a b).natAbs < 2147483648

/-- The functions tell which of two dates is later, and they are each other's negation. -/
def Compares (a b : ℕ) : Prop :=
  (s.compareDateOlder timeFromString a b).1.toInt.sign = (s.difference timeFromString a b).sign ∧
    (s.compareDateNewer timeFromString a b).1.toInt =
      -(s.compareDateOlder timeFromString a b).1.toInt

instance (s : DatedItems) (a b : ℕ) : Decidable (s.Compares timeFromString a b) :=
  inferInstanceAs (Decidable (_ ∧ _))

/-- What a sort takes for granted of its comparison. -/
def Transitive (compare : ℕ → ℕ → Int32) (a b c : ℕ) : Prop :=
  (compare a b).toInt ≤ 0 → (compare b c).toInt ≤ 0 → (compare a c).toInt ≤ 0

/-- Items are ordered by their dates. -/
def Ordered (s : DatedItems) : Prop :=
  (∀ a b, s.Near timeFromString a b → s.Compares timeFromString a b) ∧
    ∀ a b c, s.Near timeFromString a b → s.Near timeFromString b c → s.Near timeFromString a c →
      Transitive (fun a b => (s.compareDateOlder timeFromString a b).1) a b c ∧
        Transitive (fun a b => (s.compareDateNewer timeFromString a b).1) a b c

/-- No date is changed that the item remembers the time of. -/
def DateKept (s : DatedItems) : DateEvent → Prop
  | .put i key value | .take i key value =>
    key = "date" → (s i).cachedDate ≠ 0 →
      (value.map timeFromString).getD 0 = (s i).date timeFromString
  | _ => True

instance (s : DatedItems) : ∀ e, Decidable (s.DateKept timeFromString e)
  | .put _ _ _ | .take _ _ _ => inferInstanceAs (Decidable (_ → _ → _))
  | .compareOlder _ _ | .compareNewer _ _ => isTrue trivial

/-! ## What the items remember -/

/-- Every item remembers the time of its date, if any. -/
def Fresh (s : DatedItems) : Prop :=
  ∀ i, (s i).cachedDate ≠ 0 → (s i).cachedDate = (s i).date timeFromString

variable {s} {timeFromString}

theorem date_cacheDate (x : DatedItem) :
    (x.cacheDate timeFromString).date timeFromString = x.date timeFromString := by
  unfold DatedItem.cacheDate
  split_ifs
  · rfl
  · cases x.item.get "date" <;> rfl

/-- Once it has been asked, an item remembers the time of its date. -/
theorem cachedDate_cacheDate {x : DatedItem}
    (h : x.cachedDate ≠ 0 → x.cachedDate = x.date timeFromString) :
    (x.cacheDate timeFromString).cachedDate = x.date timeFromString := by
  unfold DatedItem.cacheDate
  split_ifs with hcached
  · exact h hcached
  · unfold DatedItem.date
    cases x.item.get "date" with
    | none => exact not_not.1 hcached
    | some text => rfl

theorem fresh_update {i : ℕ} {x : DatedItem} (hs : s.Fresh timeFromString)
    (hx : x.cachedDate ≠ 0 → x.cachedDate = x.date timeFromString) :
    Fresh timeFromString (Function.update s i x) := by
  intro j
  by_cases hj : j = i
  · rw [hj, Function.update_self]
    exact hx
  · rw [Function.update_of_ne hj]
    exact hs j

theorem fresh_cacheDate (hs : s.Fresh timeFromString) (i : ℕ) :
    Fresh timeFromString (Function.update s i ((s i).cacheDate timeFromString)) :=
  fresh_update hs fun _ => (cachedDate_cacheDate (hs i)).trans (date_cacheDate (s i)).symm

theorem fresh_put {i : ℕ} {key : String} {value : Option String} (hs : s.Fresh timeFromString)
    (hkept : s.DateKept timeFromString (.put i key value)) :
    (s.put i key value).Fresh timeFromString := by
  refine fresh_update hs fun hcached => ?_
  by_cases hkey : key = "date"
  · have hdate := hkept hkey hcached
    subst hkey
    rw [DatedItem.date, SwItem.get_put_self, hdate]
    exact hs i hcached
  · rw [DatedItem.date, SwItem.get_put_of_ne (Ne.symm hkey)]
    exact hs i hcached

theorem fresh_step (s : DatedItems) (e : DateEvent) (hs : s.Fresh timeFromString)
    (hkept : s.DateKept timeFromString e) : (s.step timeFromString e).Fresh timeFromString := by
  cases e with
  | put i key value => exact fresh_put hs hkept
  | take i key value => exact fresh_put hs hkept
  | compareOlder a b => exact fresh_cacheDate (fresh_cacheDate hs a) b
  | compareNewer a b => exact fresh_cacheDate (fresh_cacheDate hs a) b

/-! ## Comparing -/

/-- The two times that are subtracted are those of the dates. -/
theorem cachedDate_cacheDates (hs : s.Fresh timeFromString) (a b : ℕ) :
    (s.cacheDates timeFromString a b a).cachedDate = (s a).date timeFromString ∧
      (s.cacheDates timeFromString a b b).cachedDate = (s b).date timeFromString := by
  have hfirst := fresh_cacheDate hs a
  have hdate : ∀ i, (Function.update s a ((s a).cacheDate timeFromString) i).date timeFromString =
      (s i).date timeFromString := by
    intro i
    by_cases hi : i = a
    · rw [hi, Function.update_self, date_cacheDate]
    · rw [Function.update_of_ne hi]
  have hlast : (s.cacheDates timeFromString a b b).cachedDate = (s b).date timeFromString := by
    rw [cacheDates, Function.update_self, cachedDate_cacheDate (hfirst b), hdate]
  refine ⟨?_, hlast⟩
  by_cases hab : a = b
  · rw [hab] at hlast ⊢
    exact hlast
  · rw [cacheDates, Function.update_of_ne hab, Function.update_self, cachedDate_cacheDate (hs a)]

/-- A difference of less than `2 ^ 31` survives as an `int`. -/
theorem toInt_toInt32_sub {x y : Int64} (h : (x.toInt - y.toInt).natAbs < 2147483648) :
    (x - y).toInt32.toInt = x.toInt - y.toInt := by
  have hlong : (x - y).toInt = x.toInt - y.toInt := by
    rw [Int64.toInt_sub, Int.bmod_eq_of_le (by omega) (by omega)]
  rw [Int64.toInt_toInt32, hlong, Int.bmod_eq_of_le (by omega) (by omega)]

theorem toInt_compareDateOlder (hs : s.Fresh timeFromString) {a b : ℕ}
    (hnear : s.Near timeFromString a b) :
    (s.compareDateOlder timeFromString a b).1.toInt = s.difference timeFromString a b := by
  obtain ⟨ha, hb⟩ := cachedDate_cacheDates hs a b
  dsimp only [compareDateOlder]
  rw [ha, hb]
  exact toInt_toInt32_sub hnear

theorem toInt_compareDateNewer (hs : s.Fresh timeFromString) {a b : ℕ}
    (hnear : s.Near timeFromString a b) :
    (s.compareDateNewer timeFromString a b).1.toInt = -s.difference timeFromString a b := by
  obtain ⟨ha, hb⟩ := cachedDate_cacheDates hs a b
  have hnear' : (((s b).date timeFromString).toInt - ((s a).date timeFromString).toInt).natAbs <
      2147483648 := by
    rw [Near, difference] at hnear
    omega
  dsimp only [compareDateNewer]
  rw [ha, hb, toInt_toInt32_sub hnear', difference, neg_sub]

theorem ordered_of_fresh (hs : s.Fresh timeFromString) : s.Ordered timeFromString := by
  refine ⟨?_, ?_⟩
  · intro a b hnear
    rw [Compares, toInt_compareDateOlder hs hnear, toInt_compareDateNewer hs hnear]
    exact ⟨rfl, rfl⟩
  · intro a b c hab hbc hac
    have hsum : s.difference timeFromString a c =
        s.difference timeFromString a b + s.difference timeFromString b c := by
      rw [difference, difference, difference]
      omega
    refine ⟨?_, ?_⟩
    · dsimp only [Transitive]
      rw [toInt_compareDateOlder hs hab, toInt_compareDateOlder hs hbc,
        toInt_compareDateOlder hs hac]
      omega
    · dsimp only [Transitive]
      rw [toInt_compareDateNewer hs hab, toInt_compareDateNewer hs hbc,
        toInt_compareDateNewer hs hac]
      omega

/-- **Items are ordered by their dates, in every state of the run.** -/
theorem datesOrdered (service : ℕ → SwService) {es : List DateEvent}
    (h : EveryStep (step timeFromString) (DateKept timeFromString) (init service) es) :
    EveryState (step timeFromString) (Ordered timeFromString) (init service) es := by
  have hinit : (init service).Fresh timeFromString := fun _ hcached => absurd rfl hcached
  exact (everyState_of_everyStep fresh_step hinit h).mono fun _ => ordered_of_fresh

/-! ## Dates that are changed or far apart -/

/-- What `sw_time_t_from_string` makes of two dates. -/
def twoDates (s : String) : Int64 :=
  if s = "Thu, 01 Jan 1970 00:01:40 GMT" then 100
  else if s = "Thu, 01 Jan 2065 00:00:00 GMT" then 2997993600
  else 0

/-- An item gets a date, and is compared with one that has none. -/
def datedOnce : List DateEvent :=
  [.put 0 "date" (some "Thu, 01 Jan 1970 00:01:40 GMT"), .compareOlder 0 1, .compareNewer 1 0]

theorem datesOrdered_datedOnce :
    EveryState (step twoDates) (Ordered twoDates) (init fun _ => ⟨0, "flickr"⟩) datedOnce :=
  datesOrdered _ (by decide)

/-- An item of 2065 is found to be earlier than one without a date. -/
theorem not_datesOrdered :
    ¬ ∀ es : List DateEvent, EveryState (step twoDates) (fun s => ∀ a b, s.Compares twoDates a b)
      (init fun _ => ⟨0, "flickr"⟩) es := by
  intro h
  have hfar := (h [.put 0 "date" (some "Thu, 01 Jan 2065 00:00:00 GMT")]).last 0 1
  revert hfar
  decide

/-- A date that was removed is still compared. -/
example : ¬ (runFrom (step twoDates) (init fun _ => ⟨0, "flickr"⟩)
    (datedOnce ++ [.put 0 "date" none])).Compares twoDates 0 1 := by decide

end DatedItems

end LibSocialWeb
