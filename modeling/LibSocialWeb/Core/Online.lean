import LibSocialWeb.Lib.Run
import Mathlib.Data.Nat.Notation
import Mathlib.Tactic.SplitIfs

/-!
# The state of the network (`libsocialweb/sw-online.c`)

Listeners are called when the network comes up or goes down. What a listener was told since it was
added is kept with it.

**NetworkManager.** `state_changed` runs when the client notifies of its property, which may be some
time after the property has changed. It tells the listeners at once that the network is down, but
waits 1.5 s before it tells them that it is up; several such timeouts may be pending, and each asks
again for the state when it fires.

**ConnMan.** The state is asked for once and its changes come as signals. The bus delivers both in
the order in which they were sent. If the request fails nothing is known until the next change.

**Main results.** `NMOnline.nm_settled_run`: what a listener was told last is the state of the
network, except while a notification is due or the network is up and a timeout is pending.
`ConnmanOnline.connman_settled_run`: when no message is in flight and one has told the state, the
listeners were told the state of the manager.
-/

namespace LibSocialWeb

open Transition

/-! ## Listeners -/

/-- A callback with its data, and what it was told since it was added. -/
structure ListenerData where
  callback : ℕ
  userData : ℕ
  told : List Bool
  deriving DecidableEq

namespace ListenerData

/-- `sw_online_add_notify` -/
def addNotify (callback userData : ℕ) (listeners : List ListenerData) : List ListenerData :=
  ⟨callback, userData, []⟩ :: listeners

/-- `sw_online_remove_notify` removes every listener with the callback and the data. -/
def removeNotify (callback userData : ℕ) (listeners : List ListenerData) : List ListenerData :=
  listeners.filter fun data => !(data.callback = callback && data.userData = userData)

/-- `emit_notify` -/
def emitNotify (online : Bool) (listeners : List ListenerData) : List ListenerData :=
  listeners.map fun data => { data with told := data.told ++ [online] }

/-- Whoever was told something was told `online` last. -/
def AllTold (online : Bool) (listeners : List ListenerData) : Prop :=
  ∀ data ∈ listeners, ∀ b ∈ data.told.getLast?, b = online

variable {callback userData : ℕ} {online : Bool} {listeners : List ListenerData}

theorem allTold_addNotify (h : AllTold online listeners) :
    AllTold online (addNotify callback userData listeners) := by
  intro data hdata b hb
  rcases List.mem_cons.1 hdata with rfl | hdata
  · cases hb
  · exact h data hdata b hb

theorem allTold_removeNotify (h : AllTold online listeners) :
    AllTold online (removeNotify callback userData listeners) :=
  fun data hdata => h data (List.mem_filter.1 hdata).1

theorem allTold_emitNotify (online : Bool) (listeners : List ListenerData) :
    AllTold online (emitNotify online listeners) := by
  intro data hdata b hb
  obtain ⟨before, -, rfl⟩ := List.mem_map.1 hdata
  rw [List.getLast?_append_of_ne_nil _ (List.cons_ne_nil _ _)] at hb
  exact (Option.some.inj hb).symm

end ListenerData

open ListenerData

/-! ## NetworkManager -/

inductive NMState where
  | UNKNOWN
  | ASLEEP
  | DISCONNECTED
  | DISCONNECTING
  | CONNECTING
  | CONNECTED_LOCAL
  | CONNECTED_SITE
  | CONNECTED_GLOBAL
  deriving DecidableEq

/-- `sw_is_online` for a state of NetworkManager. -/
def NMState.isOnline : NMState → Bool
  | CONNECTED_LOCAL | CONNECTED_SITE | CONNECTED_GLOBAL => true
  | UNKNOWN | ASLEEP | DISCONNECTED | DISCONNECTING | CONNECTING => false

/-- `notifyDue`: the property of the client has changed, and the client has not notified of it yet.
`timeouts` is the number of pending calls of `we_are_online`. -/
structure NMOnline where
  state : NMState
  notifyDue : Bool
  timeouts : ℕ
  listeners : List ListenerData

inductive NMEvent where
  | addNotify (callback userData : ℕ)
  | removeNotify (callback userData : ℕ)
  | becomes (state : NMState)
  | notify
  | timeout

namespace NMOnline

def start (state : NMState) : NMOnline := ⟨state, false, 0, []⟩

/-- `sw_is_online` -/
def isOnline (s : NMOnline) : Bool := s.state.isOnline

/-- `state_changed` -/
def stateChanged (s : NMOnline) : NMOnline :=
  if s.isOnline then { s with timeouts := s.timeouts + 1 }
  else { s with listeners := emitNotify false s.listeners }

/-- `we_are_online`, which does not run again. -/
def weAreOnline (s : NMOnline) : NMOnline :=
  { s with timeouts := s.timeouts - 1, listeners := emitNotify s.isOnline s.listeners }

def step (s : NMOnline) : NMEvent → NMOnline
  | .addNotify callback userData =>
    { s with listeners := ListenerData.addNotify callback userData s.listeners }
  | .removeNotify callback userData =>
    { s with listeners := ListenerData.removeNotify callback userData s.listeners }
  | .becomes state => { s with state := state, notifyDue := true }
  | .notify => if s.notifyDue then { s with notifyDue := false }.stateChanged else s
  | .timeout => if 0 < s.timeouts then s.weAreOnline else s

/-- The listeners know the state of the network, or it is up and they will be told. -/
def Settled (s : NMOnline) : Prop :=
  AllTold s.isOnline s.listeners ∨ s.isOnline = true ∧ 0 < s.timeouts

theorem settled_step {s : NMOnline} (h : s.notifyDue = false → s.Settled) (e : NMEvent) :
    (s.step e).notifyDue = false → (s.step e).Settled := by
  intro hdue
  cases e with
  | addNotify callback userData =>
    rcases h hdue with htold | hup
    · exact Or.inl (allTold_addNotify htold)
    · exact Or.inr hup
  | removeNotify callback userData =>
    rcases h hdue with htold | hup
    · exact Or.inl (allTold_removeNotify htold)
    · exact Or.inr hup
  | becomes state => cases hdue
  | notify =>
    dsimp only [step] at hdue ⊢
    split_ifs at hdue ⊢ with hbefore
    · by_cases honline : s.isOnline = true
      · have hsame : ({ s with notifyDue := false } : NMOnline).stateChanged =
            { s with notifyDue := false, timeouts := s.timeouts + 1 } := if_pos honline
        rw [hsame]
        exact Or.inr ⟨honline, Nat.succ_pos _⟩
      · have hsame : ({ s with notifyDue := false } : NMOnline).stateChanged =
            { s with notifyDue := false, listeners := emitNotify false s.listeners } :=
          if_neg honline
        have hdown : s.isOnline = false := by simpa using honline
        rw [hsame]
        left
        show AllTold s.isOnline (emitNotify false s.listeners)
        rw [hdown]
        exact allTold_emitNotify false s.listeners
    · exact h hdue
  | timeout =>
    dsimp only [step] at hdue ⊢
    split_ifs at hdue ⊢ with hpending
    · exact Or.inl (allTold_emitNotify s.isOnline s.listeners)
    · exact h hdue

/-- **The listeners know the state of the network**, unless a notification is due or the network is
up and a timeout is pending. -/
theorem nm_settled_run (state : NMState) (es : List NMEvent) :
    EveryState step (fun s => s.notifyDue = false →
      ∀ data ∈ s.listeners, ∀ b ∈ data.told.getLast?,
        b = s.isOnline ∨ b = false ∧ s.isOnline = true ∧ 0 < s.timeouts) (start state) es := by
  have hstart : (start state).notifyDue = false → (start state).Settled :=
    fun _ => Or.inl fun data hdata => absurd hdata List.not_mem_nil
  have hstep : ∀ (s : NMOnline) (e : NMEvent), (s.notifyDue = false → s.Settled) →
      (s.step e).notifyDue = false → (s.step e).Settled := fun _ e h => settled_step h e
  have hsettled : EveryState step (fun s => s.notifyDue = false → s.Settled) (start state) es :=
    everyState_of_step hstep hstart es
  refine hsettled.mono fun s h hdue data hdata b hb => ?_
  rcases h hdue with htold | ⟨hup, hpending⟩
  · exact Or.inl (htold data hdata b hb)
  · rw [hup]
    cases b with
    | true => exact Or.inl rfl
    | false => exact Or.inr ⟨rfl, rfl, hpending⟩

end NMOnline

/-! ## ConnMan -/

/-- A message from the manager: a change of its state, or the answer to the request for it, which
may be an error. -/
inductive ConnmanMessage where
  | stateChanged (newState : String)
  | gotState (state : Option String)

/-- The state a message tells. -/
def ConnmanMessage.tells : ConnmanMessage → Option String
  | stateChanged newState => some newState
  | gotState state => state

theorem tells_concat {message : ConnmanMessage} {state : String} (h : message.tells = some state)
    (messages : List ConnmanMessage) :
    (messages ++ [message]).filterMap ConnmanMessage.tells =
      messages.filterMap ConnmanMessage.tells ++ [state] := by
  simp [h]

/-- The manager with its state, the messages in flight, and the process with `current_state`.
`heard`: some message has told the state. -/
structure ConnmanOnline where
  manager : String
  asked : Bool
  inFlight : List ConnmanMessage
  currentState : Bool
  heard : Bool
  listeners : List ListenerData

inductive ConnmanEvent where
  | addNotify (callback userData : ℕ)
  | removeNotify (callback userData : ℕ)
  | becomes (state : String)
  | answers (error : Bool)
  | deliver

namespace ConnmanOnline

/-- The request for the state is in flight. -/
def start (manager : String) : ConnmanOnline := ⟨manager, true, [], false, false, []⟩

/-- The body that `state_changed` and `got_state_cb` share. -/
def setState (s : ConnmanOnline) (state : String) : ConnmanOnline :=
  let currentState := state == "online"
  { s with
    currentState := currentState
    heard := true
    listeners := emitNotify currentState s.listeners }

/-- `state_changed` and `got_state_cb`: an error leaves all as it is. -/
def receive (s : ConnmanOnline) (message : ConnmanMessage) : ConnmanOnline :=
  match message.tells with
  | some state => s.setState state
  | none => s

def step (s : ConnmanOnline) : ConnmanEvent → ConnmanOnline
  | .addNotify callback userData =>
    { s with listeners := ListenerData.addNotify callback userData s.listeners }
  | .removeNotify callback userData =>
    { s with listeners := ListenerData.removeNotify callback userData s.listeners }
  | .becomes state =>
    { s with manager := state, inFlight := s.inFlight ++ [.stateChanged state] }
  | .answers error =>
    if s.asked then
      { s with
        asked := false
        inFlight := s.inFlight ++ [.gotState (if error then none else some s.manager)] }
    else s
  | .deliver =>
    match s.inFlight with
    | [] => s
    | message :: inFlight => { s with inFlight := inFlight }.receive message

/-- The states that are told in flight end with that of the manager; if there are none, what was
told is that of the manager. -/
structure Inv (s : ConnmanOnline) : Prop where
  told : AllTold s.currentState s.listeners
  last : ∀ state ∈ (s.inFlight.filterMap ConnmanMessage.tells).getLast?, state = s.manager
  current : s.inFlight.filterMap ConnmanMessage.tells = [] → s.heard = true →
    s.currentState = (s.manager == "online")

theorem inv_deliver {s : ConnmanOnline} (h : s.Inv) : (s.step .deliver).Inv := by
  have hlast := h.last
  have hcurrent := h.current
  dsimp only [step]
  cases hf : s.inFlight with
  | nil => exact h
  | cons message inFlight =>
    rw [hf, List.filterMap_cons] at hlast hcurrent
    show (ConnmanOnline.receive { s with inFlight := inFlight } message).Inv
    unfold receive
    cases ht : message.tells with
    | none =>
      simp only [ht] at hlast hcurrent
      exact ⟨h.told, hlast, hcurrent⟩
    | some state =>
      simp only [ht] at hlast
      refine ⟨allTold_emitNotify _ _, fun state' hstate' => ?_, fun hnil _ => ?_⟩
      · have hstate' : state' ∈ (inFlight.filterMap ConnmanMessage.tells).getLast? := hstate'
        refine hlast state' ?_
        rw [List.getLast?_cons_of_ne_nil]
        · exact hstate'
        · intro hnil
          rw [hnil] at hstate'
          cases hstate'
      · -- The message was the last one.
        have hstate : state = s.manager := by
          refine hlast state ?_
          have hnil : inFlight.filterMap ConnmanMessage.tells = [] := hnil
          rw [hnil]
          rfl
        show (state == "online") = (s.manager == "online")
        rw [hstate]

theorem inv_step {s : ConnmanOnline} (h : s.Inv) (e : ConnmanEvent) : (s.step e).Inv := by
  cases e with
  | addNotify callback userData => exact ⟨allTold_addNotify h.told, h.last, h.current⟩
  | removeNotify callback userData => exact ⟨allTold_removeNotify h.told, h.last, h.current⟩
  | becomes state =>
    have htells := tells_concat (rfl : (ConnmanMessage.stateChanged state).tells = _) s.inFlight
    refine ⟨h.told, fun state' hstate' => ?_, fun hnil => ?_⟩
    · rw [step, htells, List.getLast?_concat] at hstate'
      exact (Option.some.inj hstate').symm
    · rw [step, htells] at hnil
      cases (List.append_eq_nil_iff.1 hnil).2
  | answers error =>
    dsimp only [step]
    split_ifs with hasked herror
    · refine ⟨h.told, ?_, ?_⟩
      · simpa [ConnmanMessage.tells] using h.last
      · simpa [ConnmanMessage.tells] using h.current
    · have htells := tells_concat (rfl : (ConnmanMessage.gotState (some s.manager)).tells = _)
        s.inFlight
      refine ⟨h.told, fun state' hstate' => ?_, fun hnil => ?_⟩
      · rw [htells, List.getLast?_concat] at hstate'
        exact (Option.some.inj hstate').symm
      · rw [htells] at hnil
        cases (List.append_eq_nil_iff.1 hnil).2
    · exact h
  | deliver => exact inv_deliver h

theorem inv_start (manager : String) : (start manager).Inv where
  told data hdata := absurd hdata List.not_mem_nil
  last _ hstate := by cases hstate
  current _ hheard := by cases hheard

/-- **When no message is in flight and one has told the state, `sw_is_online` and the listeners have
the state of the manager.** -/
theorem connman_settled_run (manager : String) (es : List ConnmanEvent) :
    EveryState step (fun s => s.inFlight = [] → s.heard = true →
      s.currentState = (s.manager == "online") ∧
        ∀ data ∈ s.listeners, ∀ b ∈ data.told.getLast?, b = (s.manager == "online"))
      (start manager) es := by
  have hstep : ∀ (s : ConnmanOnline) (e : ConnmanEvent), s.Inv → (s.step e).Inv :=
    fun _ e h => inv_step h e
  have hinv : EveryState step Inv (start manager) es :=
    everyState_of_step hstep (inv_start manager) es
  refine hinv.mono fun s h hempty hheard => ?_
  have hcurrent : s.currentState = (s.manager == "online") :=
    h.current (by rw [hempty]; rfl) hheard
  exact ⟨hcurrent, fun data hdata b hb => (h.told data hdata b hb).trans hcurrent⟩

end ConnmanOnline

end LibSocialWeb
