import LibSocialWeb.Lib.Run
import LibSocialWeb.Rest.Calls
import LibSocialWeb.Service.Signals
import Mathlib.Tactic.SplitIfs

/-!
# `SwServicePhotobucket` (`services/photobucket/photobucket.c`)

The service is configured when the keyring has tokens, and authorised when it knows the user, whose
name a call returns together with the silo, the host of the albums.

`_check_access_token_cb` forgets the user first, and when the reply is an error it returns without
a word. A reply that is not `OK` and brings no `message` makes `node_from_call` dereference NULL:
the process ends, and `running` becomes false.

**Main result.** `runAnnounced_iff`: along a run the last announcement is right in every state
exactly when an error comes only while there is no user to forget (`CapsOk`).
-/

namespace LibSocialWeb

open Transition

/-- `silo` is what the URL of `silo_proxy` is bound to. `lookups` and `accessCalls` count the
lookups of the tokens and the calls for the user that are out. -/
structure SwServicePhotobucket where
  running : Bool
  proxy : OAuthProxy
  siloProxy : OAuthProxy
  silo : Option String
  uid : Option String
  configured : Bool
  emitted : List ServiceSignal
  lookups : Nat
  accessCalls : Nat
  deriving DecidableEq, Repr

namespace SwServicePhotobucket

/-- `node_from_call`; `none` if it dereferences NULL. -/
def nodeFromCall (call : RestProxyCall XmlNode) : Option (Except String XmlNode) :=
  match call.acceptedRoot fun node => node.name == "response" && (node.child "status").isSome with
  | .error message => some (.error message)
  | .ok node =>
    if (node.child "status").bind (·.content) = some "OK" then some (.ok node)
    else
      (node.find "message").map fun msg =>
        .error ("remote Photobucket error: " ++ printed msg.content)

variable (s : SwServicePhotobucket)

/-- `get_dynamic_caps` -/
def getDynamicCaps : List String :=
  if s.uid.isSome then [IS_CONFIGURED, CREDENTIALS_VALID]
  else if s.configured then [IS_CONFIGURED]
  else []

def emitUserChanged : SwServicePhotobucket := { s with emitted := s.emitted ++ [.userChanged] }

def emitCapabilitiesChanged : SwServicePhotobucket :=
  { s with emitted := s.emitted ++ [.capabilitiesChanged s.getDynamicCaps] }

/-- What `_check_access_token_cb` takes from a reply: the silo and the user. -/
def takeUser (root : XmlNode) : SwServicePhotobucket :=
  let s :=
    match root.find "api" with
    | some api => { s with silo := some (printed api.content) }
    | none => s
  match root.find "username" with
  | some username => { s with uid := username.content }
  | none => s

/-- `_check_access_token_cb` -/
def checkAccessTokenCb (call : RestProxyCall XmlNode) : SwServicePhotobucket :=
  match nodeFromCall call with
  | none => { s with running := false }
  | some (.error _) => { s with uid := none }
  | some (.ok root) => ({ s with uid := none }.takeUser root).emitCapabilitiesChanged

/-- `got_tokens_cb` -/
def gotTokensCb (gotTokens : Bool) : SwServicePhotobucket :=
  let s := { s with configured := gotTokens }
  let s :=
    if gotTokens then
      { s with
        siloProxy := { s.siloProxy with token := s.proxy.token, tokenSecret := s.proxy.tokenSecret }
        accessCalls := s.accessCalls + 1 }
    else s
  s.emitCapabilitiesChanged

/-- `online_notify` -/
def onlineNotify (online : Bool) : SwServicePhotobucket :=
  if online then { s with lookups := s.lookups + 1 }
  else ({ s with uid := none }).emitCapabilitiesChanged

/-- `credentials_updated`, which is `refresh_credentials`. -/
def refreshCredentials : SwServicePhotobucket :=
  let s := ({ s with configured := false }).emitUserChanged
  (s.onlineNotify false).onlineNotify true

end SwServicePhotobucket

/-! ## The transition system -/

/-- The events; a lookup that finds tokens has set them on the proxy. -/
inductive PhotobucketEvent where
  | credentialsUpdated
  | onlineNotify (online : Bool)
  | gotTokens (tokens : Option (String × String))
  | accessChecked (call : RestProxyCall XmlNode)

namespace SwServicePhotobucket

/-- One event of a service that runs: a lookup or a call is answered only while one is out. -/
def handle (s : SwServicePhotobucket) : PhotobucketEvent → SwServicePhotobucket
  | .credentialsUpdated => s.refreshCredentials
  | .onlineNotify online => s.onlineNotify online
  | .gotTokens tokens =>
    if s.lookups = 0 then s
    else
      let s := { s with lookups := s.lookups - 1 }
      match tokens with
      | some (token, tokenSecret) =>
        { s with proxy := { s.proxy with token := some token, tokenSecret := some tokenSecret } }
          |>.gotTokensCb true
      | none => s.gotTokensCb false
  | .accessChecked call =>
    if s.accessCalls = 0 then s
    else { s with accessCalls := s.accessCalls - 1 }.checkAccessTokenCb call

def step (s : SwServicePhotobucket) (e : PhotobucketEvent) : SwServicePhotobucket :=
  if s.running then s.handle e else s

/-- `sw_service_photobucket_initable` -/
def start (apiKey apiSecret : String) : SwServicePhotobucket :=
  let proxy : OAuthProxy := .new (some apiKey) (some apiSecret)
  (⟨true, proxy, proxy, none, none, false, [], 0, 0⟩ : SwServicePhotobucket).refreshCredentials

/-! ## The capabilities a client knows -/

variable {s : SwServicePhotobucket}

/-- The last announced capabilities, if any were announced, are the present ones. -/
def Announced (s : SwServicePhotobucket) : Prop := ToldLast s.emitted s.getDynamicCaps

/-- A reply that is an error must come while there is no user to forget. -/
def CapsOk (s : SwServicePhotobucket) : PhotobucketEvent → Prop
  | .accessChecked call => s.running = true → s.accessCalls ≠ 0 →
      (∃ message, nodeFromCall call = some (.error message)) →
      lastCaps s.emitted = none ∨ s.uid = none
  | _ => True

theorem announced_emitCapabilitiesChanged (s : SwServicePhotobucket) :
    Announced s.emitCapabilitiesChanged :=
  toldLast_append_caps s.emitted s.getDynamicCaps

/-- Forgetting the user shows in the capabilities of a service that has one. -/
theorem getDynamicCaps_forgotten_iff (s : SwServicePhotobucket) :
    s.getDynamicCaps = { s with uid := none }.getDynamicCaps ↔ s.uid = none := by
  unfold getDynamicCaps
  cases s.uid with
  | none => simp
  | some uid => cases s.configured <;> simp

/-- `_check_access_token_cb` is right after an error only if there is no user to forget. -/
theorem announced_checkAccessTokenCb (hs : Announced s) (call : RestProxyCall XmlNode) :
    Announced (s.checkAccessTokenCb call) ↔
      ((∃ message, nodeFromCall call = some (.error message)) →
        lastCaps s.emitted = none ∨ s.uid = none) := by
  unfold checkAccessTokenCb
  rcases nodeFromCall call with _ | message | root
  · exact iff_of_true hs (by simp)
  · rw [← getDynamicCaps_forgotten_iff, ← toldLast_iff_of_quiet hs]
    exact ⟨fun h _ => h, fun h => h ⟨message, rfl⟩⟩
  · exact iff_of_true (announced_emitCapabilitiesChanged _) (by simp)

theorem announced_onlineNotify (hs : Announced s) (online : Bool) :
    Announced (s.onlineNotify online) := by
  cases online with
  | false => exact announced_emitCapabilitiesChanged _
  | true => exact hs

theorem announced_refreshCredentials (s : SwServicePhotobucket) :
    Announced s.refreshCredentials := by
  have hdown : Announced (({ s with configured := false }).emitUserChanged.onlineNotify false) :=
    announced_emitCapabilitiesChanged _
  exact announced_onlineNotify hdown true

/-- A handler leaves the right announcement exactly when it is allowed. -/
theorem announced_step (hs : Announced s) (e : PhotobucketEvent) :
    Announced (s.step e) ↔ CapsOk s e := by
  unfold step
  cases hrunning : s.running with
  | false =>
    refine iff_of_true hs ?_
    unfold CapsOk
    split <;> simp [hrunning]
  | true =>
    rw [if_pos rfl]
    cases e with
    | credentialsUpdated => exact iff_of_true (announced_refreshCredentials s) trivial
    | onlineNotify online => exact iff_of_true (announced_onlineNotify hs online) trivial
    | gotTokens tokens =>
      refine iff_of_true ?_ trivial
      dsimp only [handle]
      split_ifs
      · exact hs
      · rcases tokens with _ | tokens <;> exact announced_emitCapabilitiesChanged _
    | accessChecked call =>
      dsimp only [handle]
      split_ifs with hcalls
      · exact iff_of_true hs fun _ h => absurd hcalls h
      · refine (announced_checkAccessTokenCb (s := { s with
          accessCalls := s.accessCalls - 1 }) hs call).trans ?_
        exact ⟨fun h _ _ => h, fun h => h hrunning hcalls⟩

/-- **A Photobucket client has the right capabilities in every state of a run exactly when no error
is the reply about a user that is known.** -/
theorem runAnnounced_iff (apiKey apiSecret : String) (es : List PhotobucketEvent) :
    EveryState step Announced (start apiKey apiSecret) es ↔
      EveryStep step CapsOk (start apiKey apiSecret) es :=
  everyState_iff_of_step_iff (fun _ e hs => announced_step hs e) (announced_refreshCredentials _)

end SwServicePhotobucket

end LibSocialWeb
