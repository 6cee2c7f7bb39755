import LibSocialWeb.Lib.Run
import LibSocialWeb.Facebook.Util
import LibSocialWeb.Service.Signals
import Mathlib.Tactic.SplitIfs

/-!
# `SwServiceFacebook` (`services/facebook/facebook.c`)

The service is configured when it knows the user, whose id a call to `me` returns, and offers its
capabilities while it is online.

`online_notify` gets the announcement wrong both ways. When the network comes up it sets `online`
and says nothing, and when it goes down it first announces and then forgets the id.

**Main result.** `runAnnounced_iff`: along a run the last announcement is right in every state
exactly when no notification changes what there is to offer (`CapsOk`).
-/

namespace LibSocialWeb

open Transition Facebook

/-- `lookups` and `infoCalls` count the lookups of the token and the calls to `me` that are out.
`graphUrl` is the URL of the proxy. -/
structure SwServiceFacebook where
  online : Bool
  graphUrl : String
  uid : Option String
  displayName : Option String
  profileUrl : Option String
  picSquare : Option String
  emitted : List ServiceSignal
  lookups : Nat
  infoCalls : Nat
  deriving DecidableEq, Repr

namespace SwServiceFacebook

variable (s : SwServiceFacebook)

/-- `get_dynamic_caps` -/
def getDynamicCaps : List String :=
  if s.uid.isNone then []
  else if s.online then [CAN_UPDATE_STATUS, CAN_REQUEST_AVATAR, IS_CONFIGURED, CREDENTIALS_VALID]
  else [IS_CONFIGURED]

def emitUserChanged : SwServiceFacebook := { s with emitted := s.emitted ++ [.userChanged] }

def emitCapabilitiesChanged : SwServiceFacebook :=
  { s with emitted := s.emitted ++ [.capabilitiesChanged s.getDynamicCaps] }

def clearUserInfo : SwServiceFacebook :=
  { s with uid := none, displayName := none, profileUrl := none, picSquare := none }

/-- `_facebook_extract_user_info`; its result is not used here. -/
def extractUserInfo (node : JsonNode) : SwServiceFacebook :=
  let s := s.clearUserInfo
  let s := { s with
    uid := getChildNodeValue node "id"
    displayName := getChildNodeValue node "name"
    profileUrl := getChildNodeValue node "link" }
  match s.uid, s.displayName with
  | some uid, some _ =>
    { s with picSquare := some (buildPictureUrl s.graphUrl uid FB_PICTURE_SIZE_SQUARE) }
  | _, _ => s.clearUserInfo

/-- `got_user_info_cb` -/
def gotUserInfoCb (error : Option String) (call : RestProxyCall (Option JsonNode)) :
    SwServiceFacebook :=
  match error with
  | some _ => s
  | none =>
    match jsonNodeFromCall call with
    | .error _ => s
    | .ok node => (s.extractUserInfo node).emitCapabilitiesChanged

/-- `got_tokens_cb` -/
def gotTokensCb (authorised : Bool) : SwServiceFacebook :=
  if authorised then { s with infoCalls := s.infoCalls + 1 } else s

/-- `online_notify` -/
def onlineNotify (online : Bool) : SwServiceFacebook :=
  let s := { s with online := online }
  if online then { s with lookups := s.lookups + 1 }
  else { s.emitCapabilitiesChanged with uid := none }

/-- `_credentials_updated_func` -/
def credentialsUpdatedFunc : SwServiceFacebook :=
  let s := s.onlineNotify false
  let s := { s with picSquare := none }
  (s.onlineNotify true).emitUserChanged.emitCapabilitiesChanged

/-- `credentials_updated`; `isOnline` is what `sw_is_online` returns. -/
def credentialsUpdated (isOnline : Bool) : SwServiceFacebook :=
  if isOnline then s.credentialsUpdatedFunc else s

end SwServiceFacebook

/-! ## The transition system -/

inductive FacebookEvent where
  | credentialsUpdated (isOnline : Bool)
  | onlineNotify (online : Bool)
  | gotTokens (authorised : Bool)
  | gotUserInfo (error : Option String) (call : RestProxyCall (Option JsonNode))

namespace SwServiceFacebook

/-- One event: a lookup or a call is answered only while one is out. -/
def step (s : SwServiceFacebook) : FacebookEvent → SwServiceFacebook
  | .credentialsUpdated isOnline => s.credentialsUpdated isOnline
  | .onlineNotify online => s.onlineNotify online
  | .gotTokens authorised =>
    if s.lookups = 0 then s else { s with lookups := s.lookups - 1 }.gotTokensCb authorised
  | .gotUserInfo error call =>
    if s.infoCalls = 0 then s else { s with infoCalls := s.infoCalls - 1 }.gotUserInfoCb error call

/-- `sw_service_facebook_initable` -/
def start (graphUrl : String) (isOnline : Bool) : SwServiceFacebook :=
  let s : SwServiceFacebook := ⟨false, graphUrl, none, none, none, none, [], 0, 0⟩
  if isOnline then s.onlineNotify true else s

/-! ## The capabilities a client knows -/

variable {s : SwServiceFacebook}

/-- The last announced capabilities, if any were announced, are the present ones. -/
def Announced (s : SwServiceFacebook) : Prop := ToldLast s.emitted s.getDynamicCaps

/-- The network must not go down while there is an id to forget. It must not come up while a client
was told that there is an id but no network. -/
def CapsOk (s : SwServiceFacebook) : FacebookEvent → Prop
  | .onlineNotify false => s.uid = none
  | .onlineNotify true => lastCaps s.emitted = none ∨ s.uid = none ∨ s.online = true
  | _ => True

theorem announced_emitCapabilitiesChanged (s : SwServiceFacebook) :
    Announced s.emitCapabilitiesChanged :=
  toldLast_append_caps s.emitted s.getDynamicCaps

theorem getDynamicCaps_online_iff (s : SwServiceFacebook) :
    s.getDynamicCaps = { s with online := true }.getDynamicCaps ↔
      s.uid = none ∨ s.online = true := by
  unfold getDynamicCaps
  cases s.uid with
  | none => simp
  | some uid => cases s.online <;> simp

/-- A notification that the network is up is right only if it is no news. -/
theorem announced_onlineNotify_true (hs : Announced s) :
    Announced (s.onlineNotify true) ↔
      lastCaps s.emitted = none ∨ s.uid = none ∨ s.online = true := by
  rw [← getDynamicCaps_online_iff, ← toldLast_iff_of_quiet hs]
  exact Iff.rfl

/-- A notification that the network is down is right only if there is no id to forget: what it
announces is the state before the id goes. -/
theorem announced_onlineNotify_false (s : SwServiceFacebook) :
    Announced (s.onlineNotify false) ↔ s.uid = none := by
  have htold : lastCaps (s.onlineNotify false).emitted =
      some { s with online := false }.getDynamicCaps := lastCaps_append_caps _ _
  have hnow : (s.onlineNotify false).getDynamicCaps = [] := rfl
  unfold Announced ToldLast
  rw [htold, hnow]
  cases s.uid <;> simp [getDynamicCaps]

/-- A handler leaves the right announcement exactly when it is allowed. -/
theorem announced_step (hs : Announced s) (e : FacebookEvent) :
    Announced (s.step e) ↔ CapsOk s e := by
  cases e with
  | credentialsUpdated isOnline =>
    refine iff_of_true ?_ trivial
    cases isOnline with
    | false => exact hs
    | true => exact announced_emitCapabilitiesChanged _
  | onlineNotify online =>
    cases online with
    | false => exact announced_onlineNotify_false s
    | true => exact announced_onlineNotify_true hs
  | gotTokens authorised =>
    refine iff_of_true ?_ trivial
    dsimp only [step, gotTokensCb]
    split_ifs <;> exact hs
  | gotUserInfo error call =>
    refine iff_of_true ?_ trivial
    dsimp only [step, gotUserInfoCb]
    split_ifs
    · exact hs
    · cases error with
      | some message => exact hs
      | none =>
        dsimp only
        cases jsonNodeFromCall call with
        | error message => exact hs
        | ok node => exact announced_emitCapabilitiesChanged _

theorem announced_start (graphUrl : String) (isOnline : Bool) :
    Announced (start graphUrl isOnline) := by
  cases isOnline <;> exact toldLast_nil _

/-- **A Facebook client has the right capabilities in every state of a run exactly when the network
goes down only without an id, and comes up only without an id or when it was up already, or before
anything was announced.** -/
theorem runAnnounced_iff (graphUrl : String) (isOnline : Bool) (es : List FacebookEvent) :
    EveryState step Announced (start graphUrl isOnline) es ↔
      EveryStep step CapsOk (start graphUrl isOnline) es :=
  everyState_iff_of_step_iff (fun _ e hs => announced_step hs e)
    (announced_start graphUrl isOnline)

end SwServiceFacebook

end LibSocialWeb
