import LibSocialWeb.Lib.Run
import LibSocialWeb.Rest.Calls
import LibSocialWeb.Service.Signals
import Mathlib.Tactic.SplitIfs

/-!
# `SwServiceLastfm` (`services/lastfm/lastfm.c`)

The service takes a user name and a password from the keyring and asks the server for a session
key. `checked_with_server` tells that the server has answered; without a key the credentials are
then invalid. The service has no `online_notify`.

`_mobile_session_cb` sets `checked_with_server` first, and on a reply that is not an error but
cannot be used it returns without a word.

**Main result.** `runAnnounced_iff`: along a run the last announcement is right in every state
exactly when such a reply comes only while it changes nothing (`CapsOk`).
-/

namespace LibSocialWeb

open Transition

/-- `lookups` and `sessionCalls` count the lookups in the keyring and the calls for a session key
that are out. -/
structure SwServiceLastfm where
  username : Option String
  password : Option String
  sessionKey : Option String
  checkedWithServer : Bool
  emitted : List ServiceSignal
  lookups : Nat
  sessionCalls : Nat
  deriving DecidableEq, Repr

namespace SwServiceLastfm

/-- `node_from_call` -/
def nodeFromCall (call : RestProxyCall XmlNode) : Option XmlNode := call.successfulRoot

variable (s : SwServiceLastfm)

/-- `get_dynamic_caps` -/
def getDynamicCaps : List String :=
  if s.username.isNone then []
  else if !s.checkedWithServer then [IS_CONFIGURED]
  else if s.sessionKey.isSome then [IS_CONFIGURED, CREDENTIALS_VALID]
  else [IS_CONFIGURED, CREDENTIALS_INVALID]

def emitUserChanged : SwServiceLastfm := { s with emitted := s.emitted ++ [.userChanged] }

def emitCapabilitiesChanged : SwServiceLastfm :=
  { s with emitted := s.emitted ++ [.capabilitiesChanged s.getDynamicCaps] }

/-- The session key of a reply, when `_mobile_session_cb` takes one from it. -/
def takeSessionKey (node : XmlNode) : SwServiceLastfm :=
  if node.attr "status" = some "ok" then
    match node.find "key" with
    | some sessionKey => { s with sessionKey := sessionKey.content }
    | none => s
  else s

/-- `_mobile_session_cb` -/
def mobileSessionCb (error : Option String) (call : RestProxyCall XmlNode) : SwServiceLastfm :=
  let s := { s with checkedWithServer := true }
  match error with
  | some _ => s.emitCapabilitiesChanged
  | none =>
    match nodeFromCall call with
    | none => s
    | some node => (s.takeSessionKey node).emitCapabilitiesChanged

/-- `verify_user` -/
def verifyUser : SwServiceLastfm := { s with sessionCalls := s.sessionCalls + 1 }

/-- `found_password_cb`; `found` is the user and the password of the first entry of a successful
lookup, and `isOnline` what `sw_is_online` returns. -/
def foundPasswordCb (found : Option (Option String × Option String)) (isOnline : Bool) :
    SwServiceLastfm :=
  let s := { s with sessionKey := none, username := none, password := none,
                    checkedWithServer := false }
  let s :=
    match found with
    | some (user, password) =>
      let s := { s with username := user, password := password }
      if isOnline then s.verifyUser else s
    | none => s
  s.emitUserChanged.emitCapabilitiesChanged

/-- `credentials_updated`, which is `refresh_credentials`. -/
def credentialsUpdated : SwServiceLastfm := { s with lookups := s.lookups + 1 }

end SwServiceLastfm

/-! ## The transition system -/

inductive LastfmEvent where
  | credentialsUpdated
  | foundPassword (found : Option (Option String × Option String)) (isOnline : Bool)
  | mobileSession (error : Option String) (call : RestProxyCall XmlNode)

namespace SwServiceLastfm

/-- One event: a lookup or a call is answered only while one is out. -/
def step (s : SwServiceLastfm) : LastfmEvent → SwServiceLastfm
  | .credentialsUpdated => s.credentialsUpdated
  | .foundPassword found isOnline =>
    if s.lookups = 0 then s
    else { s with lookups := s.lookups - 1 }.foundPasswordCb found isOnline
  | .mobileSession error call =>
    if s.sessionCalls = 0 then s
    else { s with sessionCalls := s.sessionCalls - 1 }.mobileSessionCb error call

/-- `sw_service_lastfm_initable`, which ends with `refresh_credentials`. -/
def start : SwServiceLastfm := ⟨none, none, none, false, [], 1, 0⟩

/-! ## The capabilities a client knows -/

variable {s : SwServiceLastfm}

/-- The last announced capabilities, if any were announced, are the present ones. -/
def Announced (s : SwServiceLastfm) : Prop := ToldLast s.emitted s.getDynamicCaps

/-- A reply that is no error and cannot be used must come when there is nothing to take back. -/
def CapsOk (s : SwServiceLastfm) : LastfmEvent → Prop
  | .mobileSession none call => s.sessionCalls ≠ 0 → nodeFromCall call = none →
      lastCaps s.emitted = none ∨ s.username = none ∨ s.checkedWithServer = true
  | _ => True

theorem announced_emitCapabilitiesChanged (s : SwServiceLastfm) :
    Announced s.emitCapabilitiesChanged :=
  toldLast_append_caps s.emitted s.getDynamicCaps

/-- The answer of the server shows in the capabilities of a service with a user that was not
checked before. -/
theorem getDynamicCaps_checked_iff (s : SwServiceLastfm) :
    s.getDynamicCaps = { s with checkedWithServer := true }.getDynamicCaps ↔
      s.username = none ∨ s.checkedWithServer = true := by
  unfold getDynamicCaps
  cases s.username with
  | none => simp
  | some username =>
    cases s.checkedWithServer with
    | true => simp
    | false => cases s.sessionKey <;> simp

/-- `_mobile_session_cb` is right after an unusable reply only if there is nothing to take back. -/
theorem announced_mobileSessionCb (hs : Announced s) (error : Option String)
    (call : RestProxyCall XmlNode) :
    Announced (s.mobileSessionCb error call) ↔
      (error = none → nodeFromCall call = none →
        lastCaps s.emitted = none ∨ s.username = none ∨ s.checkedWithServer = true) := by
  unfold mobileSessionCb
  cases error with
  | some message => exact iff_of_true (announced_emitCapabilitiesChanged _) (by simp)
  | none =>
    dsimp only
    cases nodeFromCall call with
    | some node => exact iff_of_true (announced_emitCapabilitiesChanged _) (by simp)
    | none =>
      rw [← getDynamicCaps_checked_iff, ← toldLast_iff_of_quiet hs]
      exact ⟨fun h _ _ => h, fun h => h rfl rfl⟩

/-- A handler leaves the right announcement exactly when it is allowed. -/
theorem announced_step (hs : Announced s) (e : LastfmEvent) :
    Announced (s.step e) ↔ CapsOk s e := by
  cases e with
  | credentialsUpdated => exact iff_of_true hs trivial
  | foundPassword found isOnline =>
    refine iff_of_true ?_ trivial
    dsimp only [step]
    split_ifs
    · exact hs
    · exact announced_emitCapabilitiesChanged _
  | mobileSession error call =>
    dsimp only [step]
    split_ifs with hcalls
    · refine iff_of_true hs ?_
      cases error with
      | some message => trivial
      | none => exact fun h => absurd hcalls h
    · refine (announced_mobileSessionCb (s := { s with
        sessionCalls := s.sessionCalls - 1 }) hs error call).trans ?_
      cases error with
      | some message => exact iff_of_true (by simp) trivial
      | none => exact ⟨fun h _ => h rfl, fun h _ => h hcalls⟩

/-- **A Last.fm client has the right capabilities in every state of a run exactly when no unusable
reply is the first answer of the server about a user.** -/
theorem runAnnounced_iff (es : List LastfmEvent) :
    EveryState step Announced start es ↔ EveryStep step CapsOk start es :=
  everyState_iff_of_step_iff (fun _ e hs => announced_step hs e) (toldLast_nil _)

end SwServiceLastfm

end LibSocialWeb
