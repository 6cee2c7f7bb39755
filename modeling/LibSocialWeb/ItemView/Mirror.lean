import LibSocialWeb.Client.ItemView
import LibSocialWeb.ItemView.System

/-!
# The client's copy of a view

When the client has received everything the view emitted, its table should have the ids of the
current items that are ready and not pending: `Mirrors`.

The view does not keep this along every run. An object that left the current set, or was replaced
in it, stays pending and is announced by a later flush; a replacement that is not ready is not
made pending; and an announced item that is delayed again by a new fetch stays announced.
`MirrorOk` lists the steps on which none of this happens.

**Main result.** `mirrors_iff`: along a run the client's table is right in every state exactly
when every step of the run is `MirrorOk`.

The proof works at one id. `Slot.Synced` is the invariant, and `Slot.AddOk`, `Slot.SetOk` and
`Slot.FlushOk` are the weakest conditions under which the slot actions keep it.
-/

namespace LibSocialWeb

open Transition

/-! ## Agreement at one id -/

namespace Slot

variable {α : Type*} (ready : α → Bool) (equal : α → α → Bool)

/-- The client has the id exactly when its current object is ready and nothing waits. -/
def Mirrors (s : Slot α) : Prop :=
  s.announced = true ↔ ∃ o, s.current = some o ∧ ready o = true ∧ s.waiting = none

/-- The invariant: the id is announced when it is current and nothing waits, and then the current
object is ready. -/
structure Synced (s : Slot α) : Prop where
  announced : s.announced = true ↔ s.current.isSome ∧ s.waiting = none
  ready : ∀ o, s.current = some o → s.waiting = none → ready o = true

/-- A ready object may be added when nothing waits, any other object unless the id is announced. -/
def AddOk (s : Slot α) (o : α) : Prop :=
  if ready o then s.waiting = none else s.current.isSome → s.waiting.isSome

/-- A current object may be replaced by an equal one, by a ready one, or while something waits. -/
def SetOk (s : Slot α) (o : α) : Prop :=
  match s.current with
  | none => s.AddOk ready o
  | some old => equal o old = true ∨ ready o = true ∨ s.waiting.isSome

/-- A waiting object that is ready may be announced when the current object is ready. -/
def FlushOk (s : Slot α) : Prop :=
  ∀ p, s.waiting = some p → ready p = true → ∃ o, s.current = some o ∧ ready o = true

variable {ready equal} {s : Slot α}

theorem Synced.mirrors (hs : s.Synced ready) : s.Mirrors ready := by
  refine hs.announced.trans ⟨fun ⟨hc, hw⟩ => ?_, fun ⟨o, hc, _, hw⟩ => ⟨by simp [hc], hw⟩⟩
  obtain ⟨o, ho⟩ := Option.isSome_iff_exists.1 hc
  exact ⟨o, ho, hs.ready o ho hw, hw⟩

theorem synced_drop : s.drop.Synced ready := ⟨by simp [drop], by simp [drop]⟩

theorem synced_add (hs : s.Synced ready) {new : Option α}
    (hok : ∀ o, new = some o → s.AddOk ready o) :
    (s.add ready new).Synced ready := by
  cases new with
  | none => exact hs
  | some o =>
    have ho := hok o rfl
    unfold AddOk at ho
    by_cases hr : ready o = true
    · rw [if_pos hr] at ho
      constructor <;> simp [add, hr, ho]
    · rw [if_neg hr] at ho
      have hann : s.announced = false := by
        rw [Bool.eq_false_iff, Ne, hs.announced]
        intro h
        rcases h with ⟨hc, hw⟩
        simp [hw] at ho
        simp [ho] at hc
      constructor <;> simp [add, hr, hann]

theorem addOk_of_mirrors (hs : s.Synced ready) {o : α} (hm : (s.add ready (some o)).Mirrors ready) :
    s.AddOk ready o := by
  unfold AddOk
  by_cases hr : ready o = true
  · rw [if_pos hr]
    simpa [Mirrors, add, hr] using hm
  · rw [if_neg hr]
    intro hc
    have hann : s.announced = false := by simpa [Mirrors, add, hr] using hm
    rw [Option.isSome_iff_ne_none]
    intro hw
    rw [hs.announced.2 ⟨hc, hw⟩] at hann
    cases hann

theorem synced_set (hs : s.Synced ready) {new : Option α}
    (hok : ∀ o, new = some o → s.SetOk ready equal o) : (s.set ready equal new).Synced ready := by
  cases hc : s.current with
  | none =>
    rw [set_of_none hc]
    apply synced_add hs
    intro o ho
    simpa [SetOk, hc] using hok o ho
  | some old =>
    cases new with
    | none => simpa [set, hc] using synced_drop
    | some o =>
      by_cases he : equal o old = true
      · simpa [set, hc, he] using hs
      · have ho : ready o = true ∨ s.waiting.isSome := by simpa [SetOk, hc, he] using hok o rfl
        have hann := hs.announced
        rw [hc] at hann
        refine ⟨?_, ?_⟩
        · simpa [set, hc, he] using hann
        · intro x hx hw
          simp only [set, hc, he, Bool.false_eq_true, if_false, Option.some.injEq] at hx hw
          subst hx
          simpa [hw] using ho

theorem setOk_of_mirrors (hs : s.Synced ready) {o : α}
    (hm : (s.set ready equal (some o)).Mirrors ready) : s.SetOk ready equal o := by
  unfold SetOk
  cases hc : s.current with
  | none =>
    rw [set_of_none hc] at hm
    exact addOk_of_mirrors hs hm
  | some old =>
    by_cases he : equal o old = true
    · exact Or.inl he
    · right
      by_cases hw : s.waiting = none
      · have hann : s.announced = true := hs.announced.2 ⟨by simp [hc], hw⟩
        left
        simpa [Mirrors, set, hc, he, hann, hw] using hm
      · exact Or.inr (Option.isSome_iff_ne_none.2 hw)

theorem synced_flush (hs : s.Synced ready) (hok : s.FlushOk ready) :
    (s.flush ready).Synced ready := by
  cases hw : s.waiting with
  | none => simpa [flush, hw] using hs
  | some p =>
    by_cases hp : ready p = true
    · obtain ⟨o, hc, ho⟩ := hok p hw hp
      constructor <;> simp [flush, hw, hp, hc, ho]
    · simpa [flush, hw, hp] using hs

theorem flushOk_of_mirrors (hm : (s.flush ready).Mirrors ready) : s.FlushOk ready := by
  intro p hw hp
  simpa [Mirrors, flush, hw, hp] using hm

end Slot

/-! ## Agreement along a run -/

namespace Sys

/-- The client's table has the ids of the current items that are ready and not pending. -/
def Mirrors (s : Sys) : Prop :=
  ∀ u, u ∈ (SwClientItemView.init.deliverAll s.view.emitted).uuidToItems ↔
    ∃ o ∈ s.view.currentItemsSet, o.uid = u ∧ s.heap.ready o = true ∧
      s.view.pendingItemsSet.has o = false

/-- The steps that keep the client's table right. -/
def MirrorOk (s : Sys) : Event → Prop
  | .addFromSet _ set => ∀ o ∈ set, (s.view.slot o.uid).AddOk s.heap.ready o
  | .setFromSet _ set => ∀ o ∈ set, (s.view.slot o.uid).SetOk s.heap.ready s.heap.equal o
  | .item (.pushPending o) => o ∈ s.view.currentItemsSet → s.view.pendingItemsSet.has o = true
  | .item (.popPending o) => o ∈ s.view.currentItemsSet → s.view.pendingItemsSet.has o = true
  | .pendingTimeout _ => s.view.pendingTimeoutId = true → ∀ u, (s.view.slot u).FlushOk s.heap.ready
  | _ => True

/-- The index is right and every slot is synced. -/
structure MirrorInv (s : Sys) : Prop where
  indexed : s.view.Indexed
  synced : ∀ u, (s.view.slot u).Synced s.heap.ready

theorem mirrors_iff_slots {s : Sys} : Mirrors s ↔ ∀ u, (s.view.slot u).Mirrors s.heap.ready := by
  apply forall_congr'
  intro u
  rw [SwClientItemView.mem_deliverAll]
  refine iff_congr Iff.rfl ⟨?_, ?_⟩
  · intro h
    rcases h with ⟨o, ho, rfl, hr, hp⟩
    exact ⟨o, SwItemView.mem_current.1 ho, hr, SwItemView.not_pending_has.1 hp⟩
  · intro h
    rcases h with ⟨o, ho, hr, hp⟩
    obtain rfl := SwItemView.current_uid ho
    exact ⟨o, SwItemView.mem_current.2 ho, rfl, hr, SwItemView.not_pending_has.2 hp⟩

theorem mirrorInv_start (h : Heap) : MirrorInv (Sys.start h) where
  indexed := SwItemView.indexed_init
  synced u := by constructor <;> simp [start, SwItemView.slot, SwItemView.init,
    SwItemView.announced, SwItemView.notices]

theorem MirrorInv.mirrors {s : Sys} (hs : MirrorInv s) : Mirrors s :=
  mirrors_iff_slots.2 fun u => (hs.synced u).mirrors

/-- A push or a pop on an announced item leaves it not ready. -/
theorem not_ready_of_count {s : Sys} (hs : MirrorInv s) {o : ItemRef}
    (ho : o ∈ s.view.currentItemsSet)
    (hp : s.view.pendingItemsSet.has o = false) {n : Int} (hn : n ≠ 0) :
    (s.heap.item o).remainingFetches + n ≠ 0 := by
  have hr := (hs.synced o.uid).ready o (SwItemView.mem_current.1 ho)
    (SwItemView.not_pending_has.1 hp)
  rw [Heap.ready, SwItem.getReady_iff] at hr
  omega

theorem mirrorInv_step {s : Sys} (hs : MirrorInv s) (e : Event) (hok : MirrorOk s e) :
    MirrorInv (s.step e) := by
  refine ⟨indexed_step hs.indexed e, fun u => ?_⟩
  have hu := hs.synced u
  rw [slot_step hs.indexed, step_heap]
  cases e with
  | addFromSet order set =>
    exact Slot.synced_add hu fun o ho => by
      obtain ⟨hmem, rfl⟩ := KeySet.find_some ho
      exact hok o hmem
  | setFromSet order set =>
    exact Slot.synced_set hu fun o ho => by
      obtain ⟨hmem, rfl⟩ := KeySet.find_some ho
      exact hok o hmem
  | removeFromSet order set =>
    dsimp only [Event.onSlot]
    split_ifs
    · exact Slot.synced_drop
    · exact hu
  | removeByUid uid =>
    dsimp only [Event.onSlot]
    split_ifs
    · exact Slot.synced_drop
    · exact hu
  | pendingTimeout order =>
    dsimp only [Event.onSlot]
    split_ifs with ht
    · exact Slot.synced_flush hu (hok ht u)
    · exact hu
  | refreshTimeout => exact hu
  | item e =>
    refine ⟨hu.announced, fun o hc hw => ?_⟩
    have hr := hu.ready o hc hw
    by_cases hne : o = e.ref
    · obtain rfl := SwItemView.current_uid hc
      have hcur : o ∈ s.view.currentItemsSet := SwItemView.mem_current.2 hc
      have hpend : s.view.pendingItemsSet.has o ≠ true := by
        rw [SwItemView.not_pending_has.2 hw]
        decide
      cases e with
      | pushPending o' => cases hne; exact absurd (hok hcur) hpend
      | popPending o' => cases hne; exact absurd (hok hcur) hpend
      | put o' key value hkey => rwa [ItemEvent.ready_put]
      | touch o' => exact hr
    · rwa [ItemEvent.ready_of_ne hne]

/-- A step that leaves the client's table right is allowed. -/
theorem mirrorOk_of_mirrors {s : Sys} (hs : MirrorInv s) (e : Event) (hm : Mirrors (s.step e)) :
    MirrorOk s e := by
  rw [mirrors_iff_slots] at hm
  simp only [slot_step hs.indexed, step_heap] at hm
  cases e with
  | addFromSet order set =>
    intro o ho
    have hu := hm o.uid
    rw [Event.onSlot, KeySet.mem_iff_find.1 ho] at hu
    exact Slot.addOk_of_mirrors (hs.synced o.uid) hu
  | setFromSet order set =>
    intro o ho
    have hu := hm o.uid
    rw [Event.onSlot, KeySet.mem_iff_find.1 ho] at hu
    exact Slot.setOk_of_mirrors (hs.synced o.uid) hu
  | removeFromSet order set => trivial
  | removeByUid uid => trivial
  | pendingTimeout order =>
    intro ht u
    have hu := hm u
    rw [Event.onSlot, if_pos ht] at hu
    exact Slot.flushOk_of_mirrors hu
  | refreshTimeout => trivial
  | item e =>
    have hcount : ∀ o n, n ≠ 0 → o ∈ s.view.currentItemsSet →
        ((e.heap s.heap).item o).remainingFetches = (s.heap.item o).remainingFetches + n →
        s.view.pendingItemsSet.has o = true := by
      intro o n hn ho hrem
      by_contra hp
      rw [Bool.not_eq_true] at hp
      have hann : (s.view.slot o.uid).announced = true := (hs.synced o.uid).announced.2
        ⟨by rw [SwItemView.mem_current.1 ho]; rfl, SwItemView.not_pending_has.1 hp⟩
      obtain ⟨x, hx, hr, -⟩ := (hm o.uid).1 hann
      rw [Event.onSlot, SwItemView.mem_current.1 ho, Option.some.injEq] at hx
      rw [← hx, Heap.ready, SwItem.getReady_iff, hrem] at hr
      exact not_ready_of_count hs ho hp hn hr
    cases e with
    | pushPending o => exact fun ho => hcount o 1 (by decide) ho (by simp)
    | popPending o => exact fun ho => hcount o (-1) (by decide) ho (by simp [Int.sub_eq_add_neg])
    | put o key value hkey => trivial
    | touch o => trivial

/-- **The client's table is right in every state of a run exactly when every step is allowed.** -/
theorem mirrors_iff (h : Heap) (es : List Event) :
    EveryState step Mirrors (Sys.start h) es ↔ EveryStep step MirrorOk (Sys.start h) es :=
  everyState_iff_everyStep (fun _ => MirrorInv.mirrors) (fun _ e hs => mirrorInv_step hs e)
    (fun _ e hs => mirrorOk_of_mirrors hs e) (mirrorInv_start h)

/-- An item is removed while it waits, becomes ready and is announced. -/
def removedWhileWaiting : List Event :=
  let item : ItemRef := ⟨1, "1"⟩
  [.item (.pushPending item), .addFromSet (.stored _) (KeySet.empty.add item), .removeByUid "1",
    .item (.popPending item), .pendingTimeout (.stored _)]

/-- The client then has an item that the view does not. -/
theorem removedWhileWaiting_not_mirrors :
    ¬ ∀ (h : Heap) (es : List Event), EveryState step Mirrors (Sys.start h) es := by
  intro hall
  have hlast := (hall (Heap.plain ⟨0, "flickr"⟩) removedWhileWaiting).last "1"
  obtain ⟨o, ho, -⟩ := hlast.1 (by decide)
  have hempty : (runFrom step (Sys.start (Heap.plain ⟨0, "flickr"⟩))
      removedWhileWaiting).view.currentItemsSet.members = [] := by decide
  rw [KeySet.mem_def, hempty] at ho
  cases ho

end Sys

end LibSocialWeb
