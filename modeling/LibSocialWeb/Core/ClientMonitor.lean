import LibSocialWeb.Lib.Run
import Mathlib.Data.List.AList
import Mathlib.Tactic.SplitIfs

/-!
# The client monitor (`libsocialweb/sw-client-monitor.c`)

Every view that a client opens is entered in the list of the client's unique bus name. The view
starts with one reference. `Close` drops it, and when the client leaves the bus the monitor drops it
for every view in the client's list. A view that is finalized notifies the monitor, which removes it
from the list of its client (`_view_weak_notify`).

**The loop.** `name_owner_changed` takes the list out of the table and then drops the references one
after the other; each time the weak notification edits the table while the loop runs. `handler` is
the client whose list it goes through and what is left of the list. Each turn of the loop is a step,
and other messages wait until it is done.

**System.** Views are numbered as they are opened. `unrefs` lists for each view why its reference
was dropped, and `gone` lists the clients that have left; no code reads them. A client that has left
opens no view, since unique names are not used again.

**Main result.** `releasedOnce`: the lists hold exactly the views that are alive, each once, and the
reference of a view is dropped once, by `Close` or when the client leaves.
-/

namespace LibSocialWeb

open Transition

/-- Who drops the reference of a view. -/
inductive Release where
  | close
  | disconnect
  deriving DecidableEq, Repr

/-- A view as the monitor and the bus see it. `sender` is the user data of its weak reference. -/
structure MonitoredView where
  sender : String
  refCount : Nat
  registered : Bool
  unrefs : List Release
  deriving DecidableEq

/-- A view is on the bus with its reference, or the reference has been dropped once. -/
def MonitoredView.ReleasedOnce (v : MonitoredView) : Prop :=
  (v.refCount = 1 ∧ v.registered = true ∧ v.unrefs = []) ∨
    (v.refCount = 0 ∧ v.registered = false ∧ ∃ cause, v.unrefs = [cause])

structure SwClientMonitor where
  clients : AList fun _ : String => List Nat
  views : List MonitoredView
  handler : Option (String × List Nat)
  gone : List String

inductive MonitorEvent where
  | openView (sender : String)
  | close (view : Nat)
  | nameOwnerChanged (name prevOwner newOwner : String)
  | nextLink

namespace SwClientMonitor

/-- `sw_client_monitor_init` -/
def init : SwClientMonitor := ⟨∅, [], none, []⟩

/-- The list that is stored for a client. -/
def list (s : SwClientMonitor) (sender : String) : List Nat := (s.clients.lookup sender).getD []

/-- What is left of the list that the loop has taken out of the table. -/
def taken (s : SwClientMonitor) (sender : String) : List Nat :=
  match s.handler with
  | some (name, list) => if name = sender then list else []
  | none => []

/-- `sw_client_monitor_add` -/
def add (sender : String) (view : Nat) (s : SwClientMonitor) : SwClientMonitor :=
  { s with clients := s.clients.insert sender (view :: s.list sender) }

/-- `sw_client_monitor_remove` -/
def remove (sender : String) (view : Nat) (s : SwClientMonitor) : SwClientMonitor :=
  { s with clients := s.clients.insert sender ((s.list sender).erase view) }

/-- A service opens a view for a client: a new object with one reference, registered on the bus. -/
def openView (sender : String) (s : SwClientMonitor) : SwClientMonitor :=
  add sender s.views.length { s with views := s.views ++ [⟨sender, 1, true, []⟩] }

/-- `g_object_unref`. With its last reference a view leaves the bus and notifies the monitor. -/
def unref (cause : Release) (view : Nat) (s : SwClientMonitor) : SwClientMonitor :=
  match s.views[view]? with
  | none => s
  | some v =>
    let rest := { v with refCount := v.refCount - 1, unrefs := v.unrefs ++ [cause] }
    if v.refCount = 1 then
      remove v.sender view { s with views := s.views.set view { rest with registered := false } }
    else { s with views := s.views.set view rest }

/-- `sw_item_view_default_close`. Only a view that is on the bus gets the call. -/
def close (view : Nat) (s : SwClientMonitor) : SwClientMonitor :=
  match s.views[view]? with
  | none => s
  | some v =>
    if v.registered then
      unref .close view { s with views := s.views.set view { v with registered := false } }
    else s

/-- `name_owner_changed`, up to its loop. -/
def nameOwnerChanged (name prevOwner newOwner : String) (s : SwClientMonitor) : SwClientMonitor :=
  if newOwner = "" ∧ name = prevOwner then
    { s with
      clients := s.clients.erase prevOwner
      handler := some (prevOwner, s.list prevOwner)
      gone := prevOwner :: s.gone }
  else s

/-- One turn of the loop of `name_owner_changed`. -/
def nextLink (s : SwClientMonitor) : SwClientMonitor :=
  match s.handler with
  | none => s
  | some (_, []) => { s with handler := none }
  | some (name, view :: list) => { s.unref .disconnect view with handler := some (name, list) }

def step (s : SwClientMonitor) : MonitorEvent → SwClientMonitor
  | .openView sender => if s.handler = none ∧ sender ∉ s.gone then s.openView sender else s
  | .close view => if s.handler = none then s.close view else s
  | .nameOwnerChanged name prevOwner newOwner =>
    if s.handler = none then s.nameOwnerChanged name prevOwner newOwner else s
  | .nextLink => s.nextLink

/-! ## What the lists hold -/

/-- A view of the client that has not been finalized. -/
def IsAliveViewOf (s : SwClientMonitor) (view : Nat) (sender : String) : Prop :=
  ∃ v, s.views[view]? = some v ∧ v.sender = sender ∧ 0 < v.refCount

/-- The list of a client, with what the loop has taken out of the table, holds the client's views
that are alive; of a client that has left only the loop still has views. -/
structure Tracked (s : SwClientMonitor) : Prop where
  nodup : ∀ sender, (s.list sender ++ s.taken sender).Nodup
  mem : ∀ sender view, view ∈ s.list sender ++ s.taken sender ↔ s.IsAliveViewOf view sender
  released : ∀ (view : Nat) (v : MonitoredView), s.views[view]? = some v → v.ReleasedOnce
  gone : ∀ view, ∀ sender ∈ s.gone, s.IsAliveViewOf view sender → view ∈ s.taken sender

/-- While no loop runs, nothing is taken out of the table. -/
theorem taken_of_idle {s : SwClientMonitor} (h : s.handler = none) (sender : String) :
    s.taken sender = [] := by
  rw [taken, h]

@[simp] theorem list_insert (s : SwClientMonitor) (sender key : String) (l : List Nat) :
    ({ s with clients := s.clients.insert sender l } : SwClientMonitor).list key =
      if key = sender then l else s.list key := by
  unfold list
  by_cases hkey : key = sender
  · rw [if_pos hkey, hkey, AList.lookup_insert]
    rfl
  · rw [if_neg hkey, AList.lookup_insert_ne hkey]

theorem list_erase (s : SwClientMonitor) (sender key : String) :
    ((s.clients.erase sender).lookup key).getD [] = if key = sender then [] else s.list key := by
  unfold list
  by_cases hkey : key = sender
  · rw [if_pos hkey, hkey, AList.lookup_erase]
    rfl
  · rw [if_neg hkey, AList.lookup_erase_ne hkey]

variable {s s' : SwClientMonitor}

theorem not_alive_of_length (s : SwClientMonitor) (sender : String) :
    ¬ s.IsAliveViewOf s.views.length sender := by
  rintro ⟨v, hv, -⟩
  rw [List.getElem?_eq_none (Nat.le_refl _)] at hv
  cases hv

/-! ## Opening -/

theorem alive_openView (sender key : String) (view : Nat) :
    (s.openView sender).IsAliveViewOf view key ↔
      s.IsAliveViewOf view key ∨ (view = s.views.length ∧ key = sender) := by
  have hviews : (s.openView sender).views = s.views ++ [⟨sender, 1, true, []⟩] := rfl
  unfold IsAliveViewOf
  rw [hviews]
  rcases Nat.lt_trichotomy view s.views.length with hlt | rfl | hgt
  · rw [List.getElem?_append_left hlt]
    exact ⟨Or.inl, fun h => h.resolve_right fun h => absurd h.1 (Nat.ne_of_lt hlt)⟩
  · rw [List.getElem?_concat_length]
    simp [eq_comm]
  · have hnone : (s.views ++ [⟨sender, 1, true, []⟩])[view]? = none :=
      List.getElem?_eq_none (by rw [List.length_append]; exact hgt)
    have hnone' : s.views[view]? = none := List.getElem?_eq_none (Nat.le_of_lt hgt)
    rw [hnone, hnone']
    simp [Nat.ne_of_gt hgt]

/-- A client that is still there opens a view. -/
theorem tracked_openView (h : s.Tracked) {sender : String} (hthere : sender ∉ s.gone) :
    (s.openView sender).Tracked := by
  have hlist : ∀ key, (s.openView sender).list key =
      if key = sender then s.views.length :: s.list sender else s.list key :=
    fun key => list_insert _ sender key _
  have htaken : ∀ key, (s.openView sender).taken key = s.taken key := fun _ => rfl
  have hfresh : ∀ key, s.views.length ∉ s.list key ++ s.taken key := by
    intro key hmem
    exact not_alive_of_length s key ((h.mem key _).1 hmem)
  refine ⟨?_, ?_, ?_, ?_⟩
  · intro key
    rw [hlist, htaken]
    split_ifs with hkey
    · rw [List.cons_append, List.nodup_cons]
      exact hkey ▸ ⟨hfresh key, h.nodup key⟩
    · exact h.nodup key
  · intro key view
    rw [alive_openView, ← h.mem, hlist, htaken]
    split_ifs with hkey
    · subst hkey
      simp [or_comm]
    · simp [hkey]
  · intro view v hv
    have hv : (s.views ++ [⟨sender, 1, true, []⟩])[view]? = some v := hv
    rw [List.getElem?_append] at hv
    split_ifs at hv
    · exact h.released view v hv
    · rw [List.getElem?_singleton] at hv
      split_ifs at hv
      obtain rfl := Option.some.inj hv
      exact Or.inl ⟨rfl, rfl, rfl⟩
  · intro view key hkey halive
    rw [alive_openView] at halive
    rcases halive with halive | ⟨-, rfl⟩
    · exact h.gone view key hkey halive
    · exact absurd hkey hthere

/-! ## Releasing -/

/-- The reference of a view is dropped, and the view leaves both lists. -/
theorem tracked_release (h : s.Tracked) {view : Nat} {v : MonitoredView}
    (hv : s.views[view]? = some v) (cause : Release)
    (hviews : s'.views = s.views.set view ⟨v.sender, 0, false, [cause]⟩)
    (hlist : ∀ sender, s'.list sender = (s.list sender).erase view)
    (htaken : ∀ sender, s'.taken sender = (s.taken sender).erase view)
    (hgone : s'.gone = s.gone) : s'.Tracked := by
  have hlt : view < s.views.length := (List.getElem?_eq_some_iff.1 hv).1
  have halive : ∀ other sender,
      s'.IsAliveViewOf other sender ↔ other ≠ view ∧ s.IsAliveViewOf other sender := by
    intro other sender
    unfold IsAliveViewOf
    rw [hviews]
    by_cases hother : other = view
    · subst hother
      rw [List.getElem?_set_self hlt]
      simp
    · rw [List.getElem?_set_ne (Ne.symm hother)]
      simp [hother]
  refine ⟨?_, ?_, ?_, ?_⟩
  · intro sender
    rw [hlist, htaken]
    exact (h.nodup sender).sublist (List.erase_sublist.append List.erase_sublist)
  · intro sender other
    obtain ⟨hstored, hloop, -⟩ := List.nodup_append.1 (h.nodup sender)
    rw [halive, ← h.mem, hlist, htaken, List.mem_append, List.mem_append,
      hstored.mem_erase_iff, hloop.mem_erase_iff]
    tauto
  · intro other w hw
    rw [hviews] at hw
    by_cases hother : other = view
    · subst hother
      rw [List.getElem?_set_self hlt] at hw
      obtain rfl := Option.some.inj hw
      exact Or.inr ⟨rfl, rfl, cause, rfl⟩
    · rw [List.getElem?_set_ne (Ne.symm hother)] at hw
      exact h.released other w hw
  · intro other sender hsender hother
    rw [halive] at hother
    rw [hgone] at hsender
    have hmem := h.gone other sender hsender hother.2
    obtain ⟨-, hloop, -⟩ := List.nodup_append.1 (h.nodup sender)
    rw [htaken, hloop.mem_erase_iff]
    exact ⟨hother.1, hmem⟩

/-- A view is in the list of its own client only. -/
theorem notMem_of_ne (h : s.Tracked) {view : Nat} {v : MonitoredView}
    (hv : s.views[view]? = some v) {sender : String} (hne : sender ≠ v.sender) :
    view ∉ s.list sender ++ s.taken sender := by
  intro hmem
  obtain ⟨w, hw, hsender, -⟩ := (h.mem sender view).1 hmem
  rw [hv] at hw
  obtain rfl := Option.some.inj hw
  exact hne hsender.symm

/-- A view in the lists of a client is one of the client's, with its one reference. -/
theorem alive_of_mem (h : s.Tracked) {sender : String} {view : Nat}
    (hmem : view ∈ s.list sender ++ s.taken sender) :
    ∃ v, s.views[view]? = some v ∧ v.sender = sender ∧ v.refCount = 1 ∧ v.unrefs = [] := by
  obtain ⟨v, hv, hsender, hpos⟩ := (h.mem sender view).1 hmem
  rcases h.released view v hv with ⟨hone, -, hunrefs⟩ | hdead
  · exact ⟨v, hv, hsender, hone, hunrefs⟩
  · exact absurd hdead.1 (Nat.ne_of_gt hpos)

/-- Taking a view out of the list of its client takes it out of every list. -/
theorem erase_of_own (h : s.Tracked) {view : Nat} {v : MonitoredView}
    (hv : s.views[view]? = some v) (sender : String) :
    (if sender = v.sender then (s.list v.sender).erase view else s.list sender) =
      (s.list sender).erase view := by
  split_ifs with hsender
  · rw [hsender]
  · refine (List.erase_of_not_mem fun hmem => ?_).symm
    exact notMem_of_ne h hv hsender (List.mem_append_left _ hmem)

/-- What `g_object_unref` does to a view that is alive. -/
theorem unref_eq {view : Nat} {v : MonitoredView} (hv : s.views[view]? = some v)
    (halive : v.refCount = 1) (cause : Release) :
    s.unref cause view = remove v.sender view
      { s with views := s.views.set view ⟨v.sender, 0, false, v.unrefs ++ [cause]⟩ } := by
  simp [unref, hv, halive]

/-- `Close` releases the view. -/
theorem tracked_close (h : s.Tracked) (hidle : s.handler = none) (view : Nat) :
    (s.close view).Tracked := by
  unfold close
  cases hv : s.views[view]? with
  | none => exact h
  | some v =>
    dsimp only
    split_ifs with hregistered
    · have hlt : view < s.views.length := (List.getElem?_eq_some_iff.1 hv).1
      rcases h.released view v hv with ⟨halive, -, hunrefs⟩ | ⟨-, hnot, -⟩
      · have hv' : (s.views.set view { v with registered := false })[view]? =
            some { v with registered := false } := List.getElem?_set_self hlt
        rw [unref_eq (s := { s with views := s.views.set view { v with registered := false } })
          hv' halive]
        refine tracked_release h hv .close ?_ ?_ ?_ rfl
        · show (s.views.set view _).set view _ = _
          rw [List.set_set, hunrefs]
          rfl
        · intro sender
          exact (list_insert _ v.sender sender _).trans (erase_of_own h hv sender)
        · intro sender
          rw [taken_of_idle hidle]
          exact taken_of_idle hidle sender
      · rw [hnot] at hregistered
        cases hregistered
    · exact h

/-! ## A client leaves -/

/-- The list is taken out of the table. -/
theorem tracked_nameOwnerChanged (h : s.Tracked) (hidle : s.handler = none)
    (name prevOwner newOwner : String) :
    (s.nameOwnerChanged name prevOwner newOwner).Tracked := by
  unfold nameOwnerChanged
  split_ifs with hleaves
  · have hlist : ∀ sender, ((s.clients.erase prevOwner).lookup sender).getD [] =
        if sender = prevOwner then [] else s.list sender := list_erase s prevOwner
    have hboth : ∀ sender, ((s.clients.erase prevOwner).lookup sender).getD [] ++
          (if prevOwner = sender then s.list prevOwner else []) =
        s.list sender ++ s.taken sender := by
      intro sender
      rw [hlist, taken_of_idle hidle, List.append_nil]
      by_cases hsender : sender = prevOwner
      · rw [if_pos hsender, if_pos hsender.symm, hsender, List.nil_append]
      · rw [if_neg hsender, if_neg (Ne.symm hsender), List.append_nil]
    refine ⟨fun sender => ?_, fun sender view => ?_, h.released, ?_⟩
    · exact (hboth sender).symm ▸ h.nodup sender
    · exact (hboth sender).symm ▸ h.mem sender view
    · intro view sender hsender halive
      have hmem : view ∈ s.list sender ++ s.taken sender := (h.mem sender view).2 halive
      show view ∈ if prevOwner = sender then s.list prevOwner else []
      rcases List.mem_cons.1 hsender with rfl | hsender
      · rw [if_pos rfl]
        rwa [taken_of_idle hidle, List.append_nil] at hmem
      · have hold := h.gone view sender hsender halive
        rw [taken_of_idle hidle] at hold
        cases hold
  · exact h

/-- The loop is over when its list is. -/
theorem tracked_loopOver (h : s.Tracked) (hnil : ∀ sender, s.taken sender = []) :
    { s with handler := none }.Tracked := by
  refine ⟨fun sender => ?_, fun sender view => ?_, h.released, ?_⟩
  · have hnodup := h.nodup sender
    rw [hnil] at hnodup
    exact hnodup
  · have hmem := h.mem sender view
    rw [hnil] at hmem
    exact hmem
  · intro view sender hsender halive
    have hmem := h.gone view sender hsender halive
    rw [hnil] at hmem
    exact hmem

/-- A turn of the loop releases one view. -/
theorem tracked_nextLink (h : s.Tracked) : s.nextLink.Tracked := by
  unfold nextLink
  cases hhandler : s.handler with
  | none => exact h
  | some loop =>
    obtain ⟨name, links⟩ := loop
    have htaken : ∀ sender, s.taken sender = if name = sender then links else [] := by
      intro sender
      rw [taken, hhandler]
    cases links with
    | nil =>
      refine tracked_loopOver h fun sender => ?_
      rw [htaken, ite_self]
    | cons view links =>
      have hmem : view ∈ s.list name ++ s.taken name := by
        rw [htaken, if_pos rfl]
        exact List.mem_append_right _ List.mem_cons_self
      obtain ⟨v, hv, rfl, halive, hunrefs⟩ := alive_of_mem h hmem
      dsimp only
      rw [unref_eq hv halive]
      refine tracked_release h hv .disconnect ?_ ?_ ?_ rfl
      · show s.views.set view _ = _
        rw [hunrefs]
        rfl
      · intro sender
        exact (list_insert _ v.sender sender _).trans (erase_of_own h hv sender)
      · intro sender
        rw [htaken]
        show (if v.sender = sender then links else []) = _
        split_ifs with hsender
        · rw [List.erase_cons_head]
        · rfl

/-! ## The main result -/

theorem tracked_init : init.Tracked := by
  refine ⟨fun _ => List.nodup_nil, fun sender view => iff_of_false List.not_mem_nil ?_, ?_, ?_⟩
  · rintro ⟨v, hv, -⟩
    cases hv
  · intro view v hv
    cases hv
  · intro view sender hsender
    cases hsender

theorem tracked_step (s : SwClientMonitor) (e : MonitorEvent) (h : s.Tracked) :
    (s.step e).Tracked := by
  cases e with
  | openView sender =>
    rw [step]
    split_ifs with hthere
    · exact tracked_openView h hthere.2
    · exact h
  | close view =>
    rw [step]
    split_ifs with hidle
    · exact tracked_close h hidle view
    · exact h
  | nameOwnerChanged name prevOwner newOwner =>
    rw [step]
    split_ifs with hidle
    · exact tracked_nameOwnerChanged h hidle name prevOwner newOwner
    · exact h
  | nextLink => exact tracked_nextLink h

/-- The loop goes through its list. -/
def finish (s : SwClientMonitor) : SwClientMonitor :=
  match s.handler with
  | none => s
  | some (_, links) => runFrom step s (List.replicate (links.length + 1) .nextLink)

/-- The loop comes to its end. -/
theorem handler_finish (s : SwClientMonitor) : s.finish.handler = none := by
  have hloop : ∀ (links : List Nat) (s : SwClientMonitor) (name : String),
      s.handler = some (name, links) →
      (runFrom step s (List.replicate (links.length + 1) .nextLink)).handler = none := by
    intro links
    induction links with
    | nil =>
      intro s name hs
      show s.nextLink.handler = none
      rw [nextLink, hs]
    | cons view links ih =>
      intro s name hs
      rw [List.length_cons, List.replicate_succ, runFrom_cons]
      refine ih _ name ?_
      show s.nextLink.handler = _
      rw [nextLink, hs]
  unfold finish
  split
  · assumption
  · exact hloop _ s _ ‹_›

/-- **Every view is released once**, along every run, and when a client has left and the loop is
done none of its views is alive. -/
theorem releasedOnce (es : List MonitorEvent) :
    EveryState step Tracked init es ∧
      ∀ sender ∈ (runFrom step init es).finish.gone, ∀ view,
        ¬ (runFrom step init es).finish.IsAliveViewOf view sender := by
  have hrun : EveryState step Tracked init es := everyState_of_step tracked_step tracked_init es
  refine ⟨hrun, ?_⟩
  have hfinish : (runFrom step init es).finish.Tracked := by
    unfold finish
    split
    · exact hrun.last
    · exact (everyState_of_step tracked_step hrun.last _).last
  intro sender hsender view halive
  have hmem := hfinish.gone view sender hsender halive
  rw [taken_of_idle (handler_finish _)] at hmem
  cases hmem

/-- Two clients open views; one view is closed, and then its client leaves. -/
def twoClients : List MonitorEvent :=
  [.openView ":1.1", .openView ":1.2", .openView ":1.1", .close 0,
    .nameOwnerChanged ":1.1" ":1.1" ""]

theorem releasedOnce_twoClients :
    EveryState step Tracked init twoClients ∧
      (runFrom step init twoClients).finish.list ":1.2" = [1] ∧
      (runFrom step init twoClients).finish.views.map (fun v => v.unrefs) =
        [[.close], [], [.disconnect]] ∧
      ¬ (runFrom step init twoClients).finish.IsAliveViewOf 2 ":1.1" := by
  have h := releasedOnce twoClients
  exact ⟨h.1, by decide, by decide, h.2 ":1.1" (by decide) 2⟩

end SwClientMonitor

end LibSocialWeb
