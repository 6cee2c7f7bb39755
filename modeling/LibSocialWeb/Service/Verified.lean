import LibSocialWeb.Lib.Run
import LibSocialWeb.Rest.Calls
import LibSocialWeb.Service.Signals
import Mathlib.Tactic.SplitIfs

/-!
# Services that ask who they are (`services/sina/sina.c`, `services/myspace/myspace.c`)

Sina and MySpace keep the same machine. The tokens come from the keyring, are set on the one proxy,
and a call signed with them asks for the user. The id of the user stands for everything that the
service can do: it is what the capabilities depend on and what `UpdateStatus` checks. What differs
is how a reply is read.

**Calls.** Neither a lookup nor a call is cancelled. `userCalls` lists the calls for the user that
are out, each with the tokens that signed it.

**Keyring.** `account_is_configured` asks the keyring whenever capabilities are announced without a
user; `configured` is what it says then.

**Records.** `userTokens` are the tokens of the call whose reply was read last; no code reads them.

**Main results.** `everyState_told`: a client was told that it can update the status exactly when
there is a user. `verified_iff`: the user is that of the tokens in use in every state exactly when
no tokens are changed under a user, and no reply about other tokens brings one.
-/

namespace LibSocialWeb

open Transition

namespace Verified

/-- A token and its secret. -/
abbrev Tokens := Option String × Option String

/-- What a reply tells about the user; `none` if the callback returns without a word. -/
abbrev Reader (R : Type) := R → Option (Option String × Option String)

structure VerifiedService where
  proxy : OAuthProxy
  userId : Option String
  imageUrl : Option String
  emitted : List ServiceSignal
  lookups : Nat
  userCalls : List Tokens
  userTokens : Option Tokens
  deriving DecidableEq, Repr

/-- The events; a lookup that finds tokens has set them on the proxy. -/
inductive VerifiedEvent (R : Type) where
  | credentialsUpdated (configured configured' : Bool)
  | onlineNotify (online configured : Bool)
  | gotTokens (tokens : Option (String × String))
  | gotUser (index : Nat) (reply : R) (configured : Bool)

namespace VerifiedService

variable {R : Type} (readUser : Reader R) (s : VerifiedService)

/-- The tokens in use. -/
def tokens : Tokens := (s.proxy.token, s.proxy.tokenSecret)

/-- `get_dynamic_caps` -/
def getDynamicCaps (configured : Bool) : List String :=
  if s.userId.isSome then
    [IS_CONFIGURED, CREDENTIALS_VALID, CAN_UPDATE_STATUS, CAN_REQUEST_AVATAR]
  else if configured then [IS_CONFIGURED]
  else []

def emitUserChanged : VerifiedService := { s with emitted := s.emitted ++ [.userChanged] }

def emitCapabilitiesChanged (configured : Bool) : VerifiedService :=
  { s with emitted := s.emitted ++ [.capabilitiesChanged (s.getDynamicCaps configured)] }

/-- `got_user_cb`, of a call that was signed with `signed`. -/
def gotUserCb (signed : Tokens) (reply : R) (configured : Bool) : VerifiedService :=
  match readUser reply with
  | none => s
  | some (userId, imageUrl) =>
    { s with userId := userId, imageUrl := imageUrl, userTokens := some signed }
      |>.emitCapabilitiesChanged configured

/-- `got_tokens_cb` -/
def gotTokensCb (authorised : Bool) : VerifiedService :=
  if authorised then { s with userCalls := s.userCalls ++ [s.tokens] } else s

/-- `online_notify` -/
def onlineNotify (online configured : Bool) : VerifiedService :=
  if online then { s with lookups := s.lookups + 1 }
  else { s with userId := none, imageUrl := none }.emitCapabilitiesChanged configured

/-- `refresh_credentials` -/
def refreshCredentials (configured : Bool) : VerifiedService :=
  (s.onlineNotify false configured).onlineNotify true configured

/-- `credentials_updated` -/
def credentialsUpdated (configured configured' : Bool) : VerifiedService :=
  (s.refreshCredentials configured).emitUserChanged.emitCapabilitiesChanged configured'

/-- One event: a lookup or a call is answered only while it is out. -/
def step (s : VerifiedService) : VerifiedEvent R → VerifiedService
  | .credentialsUpdated configured configured' => s.credentialsUpdated configured configured'
  | .onlineNotify online configured => s.onlineNotify online configured
  | .gotTokens tokens =>
    if s.lookups = 0 then s
    else
      let s := { s with lookups := s.lookups - 1 }
      match tokens with
      | some (token, tokenSecret) =>
        { s with proxy := { s.proxy with token := some token, tokenSecret := some tokenSecret } }
          |>.gotTokensCb true
      | none => s.gotTokensCb false
  | .gotUser index reply configured =>
    match s.userCalls[index]? with
    | none => s
    | some signed =>
      { s with userCalls := s.userCalls.eraseIdx index }.gotUserCb readUser signed reply configured

/-- The `initable` functions, which end with `refresh_credentials`. -/
def start (key secret : String) (configured : Bool) : VerifiedService :=
  (⟨.new (some key) (some secret), none, none, [], 0, [], none⟩ : VerifiedService)
    |>.refreshCredentials configured

/-! ## What the clients are told -/

variable {readUser} {s}

/-- A client was told that it can update the status exactly when there is a user. -/
def Told (s : VerifiedService) : Prop :=
  ∀ told, lastCaps s.emitted = some told → (CAN_UPDATE_STATUS ∈ told ↔ s.userId.isSome = true)

theorem mem_getDynamicCaps_iff (s : VerifiedService) (configured : Bool) :
    CAN_UPDATE_STATUS ∈ s.getDynamicCaps configured ↔ s.userId.isSome = true := by
  unfold getDynamicCaps
  cases s.userId with
  | none => cases configured <;> decide
  | some userId =>
    rw [Option.isSome_some, if_pos rfl]
    exact iff_of_true (by decide) rfl

theorem told_emitCapabilitiesChanged (s : VerifiedService) (configured : Bool) :
    Told (s.emitCapabilitiesChanged configured) := by
  intro told htold
  have hcaps : told = s.getDynamicCaps configured :=
    Option.some.inj (htold.symm.trans (lastCaps_append_caps _ _))
  rw [hcaps]
  exact mem_getDynamicCaps_iff s configured

theorem told_refreshCredentials (s : VerifiedService) (configured : Bool) :
    Told (s.refreshCredentials configured) :=
  told_emitCapabilitiesChanged { s with userId := none, imageUrl := none } configured

theorem told_step (hs : Told s) (e : VerifiedEvent R) : Told (s.step readUser e) := by
  cases e with
  | credentialsUpdated configured configured' => exact told_emitCapabilitiesChanged _ _
  | onlineNotify online configured =>
    cases online with
    | false => exact told_emitCapabilitiesChanged _ _
    | true => exact hs
  | gotTokens tokens =>
    dsimp only [step]
    split_ifs
    · exact hs
    · cases tokens <;> exact hs
  | gotUser index reply configured =>
    dsimp only [step]
    split
    · exact hs
    · unfold gotUserCb
      split
      · exact hs
      · exact told_emitCapabilitiesChanged _ _

theorem everyState_told (readUser : Reader R) (key secret : String) (configured : Bool)
    (es : List (VerifiedEvent R)) :
    EveryState (step readUser) Told (start key secret configured) es := by
  have hstep : ∀ (s : VerifiedService) (e : VerifiedEvent R), Told s → Told (s.step readUser e) :=
    fun _ e hs => told_step hs e
  exact everyState_of_step hstep (told_refreshCredentials _ _) es

/-! ## The tokens of the user -/

/-- A user that is known is that of the tokens in use. -/
def UserVerified (s : VerifiedService) : Prop :=
  s.userId.isSome = true → s.userTokens = some s.tokens

/-- The steps that keep the user that of the tokens. New tokens must come while there is no user, or
be those in use; a reply that brings a user must be about the tokens in use. -/
def VerifiedOk (readUser : Reader R) (s : VerifiedService) : VerifiedEvent R → Prop
  | .gotTokens (some (token, tokenSecret)) => s.lookups ≠ 0 → s.userId.isSome = true →
      s.tokens = (some token, some tokenSecret)
  | .gotUser index reply _ => ∀ signed, s.userCalls[index]? = some signed →
      ∀ userId imageUrl, readUser reply = some (some userId, imageUrl) → s.tokens = signed
  | _ => True

theorem userVerified_of_none (h : s.userId = none) : UserVerified s := by
  intro hsome
  rw [h] at hsome
  cases hsome

theorem userVerified_gotUserCb (hs : UserVerified s) (signed : Tokens) (reply : R)
    (configured : Bool) : UserVerified (s.gotUserCb readUser signed reply configured) ↔
      ∀ userId imageUrl, readUser reply = some (some userId, imageUrl) → s.tokens = signed := by
  unfold gotUserCb
  rcases hread : readUser reply with _ | ⟨_ | userId, imageUrl⟩
  · exact iff_of_true hs (by simp)
  · exact iff_of_true (userVerified_of_none rfl) (by simp)
  · constructor
    · intro h _ _ _
      exact (Option.some.inj (h rfl)).symm
    · intro h _
      exact congrArg some (h userId imageUrl rfl).symm

/-- A lookup that finds tokens. -/
theorem userVerified_setToken (hs : UserVerified s) (token tokenSecret : String) :
    UserVerified ({ s with
        proxy := { s.proxy with token := some token, tokenSecret := some tokenSecret } }
      |>.gotTokensCb true) ↔
      (s.userId.isSome = true → s.tokens = (some token, some tokenSecret)) := by
  constructor
  · intro h hsome
    exact Option.some.inj ((hs hsome).symm.trans (h hsome))
  · intro h hsome
    exact (hs hsome).trans (congrArg some (h hsome))

/-- A handler keeps the user that of the tokens exactly when it is allowed. -/
theorem userVerified_step (hs : UserVerified s) (e : VerifiedEvent R) :
    UserVerified (s.step readUser e) ↔ VerifiedOk readUser s e := by
  cases e with
  | credentialsUpdated configured configured' =>
    exact iff_of_true (userVerified_of_none rfl) trivial
  | onlineNotify online configured =>
    cases online with
    | false => exact iff_of_true (userVerified_of_none rfl) trivial
    | true => exact iff_of_true hs trivial
  | gotTokens tokens =>
    dsimp only [step]
    split_ifs with hlookups
    · refine iff_of_true hs ?_
      cases tokens with
      | none => trivial
      | some tokens => exact fun h => absurd hlookups h
    · cases tokens with
      | none => exact iff_of_true hs trivial
      | some tokens =>
        refine (userVerified_setToken (s := { s with lookups := s.lookups - 1 }) hs tokens.1
          tokens.2).trans ?_
        exact ⟨fun h _ => h, fun h => h hlookups⟩
  | gotUser index reply configured =>
    dsimp only [step]
    cases hcall : s.userCalls[index]? with
    | none => exact iff_of_true hs fun signed h => by simp [hcall] at h
    | some signed =>
      refine (userVerified_gotUserCb (s := { s with
        userCalls := s.userCalls.eraseIdx index }) hs signed reply configured).trans ?_
      constructor
      · intro h signed' hcall'
        rw [hcall] at hcall'
        exact Option.some.inj hcall' ▸ h
      · exact fun h => h signed hcall

theorem verified_iff (readUser : Reader R) (key secret : String) (configured : Bool)
    (es : List (VerifiedEvent R)) :
    EveryState (step readUser) UserVerified (start key secret configured) es ↔
      EveryStep (step readUser) (VerifiedOk readUser) (start key secret configured) es :=
  everyState_iff_of_step_iff (fun _ e hs => userVerified_step hs e) (userVerified_of_none rfl)

end VerifiedService

end Verified

end LibSocialWeb
