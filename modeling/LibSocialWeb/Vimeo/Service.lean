import LibSocialWeb.Service.Verified
import LibSocialWeb.Vimeo.Collections

/-!
# The account of Vimeo (`services/vimeo/vimeo.c`)

The service has three proxies. `proxy` gets the tokens of the keyring and signs the methods of the
API, `upload_proxy` gets the same tokens and signs the uploads, and `simple_proxy` signs nothing:
the name of the user is part of its URL. The name is what `vimeo.test.login` answers, and it stands
for valid credentials.

**Calls.** Neither a lookup nor a call is cancelled. `loginCalls` lists the calls of
`vimeo.test.login` that are out, each with the tokens that signed it.

**Records.** `userTokens` are the tokens of the call whose reply was read last; no code reads them.
`running` is false once a reply was no XML and librest did not take the NULL node.

**Main result.** `vimeo_account`: in every state the clients have the right capabilities, uploads
are signed like the other calls, and the simple proxy is bound to the user. The user is that of the
tokens in use in every state exactly when no tokens are changed under a user, and no reply about
other tokens brings one: as far as the user goes, each event is one of a `VerifiedService`.
-/

namespace LibSocialWeb

open Transition Verified

namespace Vimeo

/-- `simpleProxy` is what its URL is bound to: a host and a user. -/
structure VimeoService where
  running : Bool
  proxy : OAuthProxy
  uploadProxy : OAuthProxy
  simpleProxy : Option (String × Option String)
  username : Option String
  configured : Bool
  emitted : List ServiceSignal
  lookups : Nat
  loginCalls : List Tokens
  userTokens : Option Tokens

/-- The events; a lookup that finds tokens has set them on the proxy. -/
inductive VimeoLoginEvent where
  | credentialsUpdated
  | onlineNotify (online : Bool)
  | gotTokens (tokens : Option (String × String))
  | accessChecked (index : Nat) (call : RestProxyCall XmlNode)

namespace VimeoService

variable (libs : NullHandling) (localHost : Option String) (s : VimeoService)

def tokens : Tokens := (s.proxy.token, s.proxy.tokenSecret)

/-- `get_dynamic_caps` -/
def getDynamicCaps : List String :=
  if s.username.isSome then [IS_CONFIGURED, CREDENTIALS_VALID]
  else if s.configured then [IS_CONFIGURED]
  else []

def emitUserChanged : VimeoService := { s with emitted := s.emitted ++ [.userChanged] }

def emitCapabilitiesChanged : VimeoService :=
  { s with emitted := s.emitted ++ [.capabilitiesChanged s.getDynamicCaps] }

/-- What `_check_access_token_cb` takes from a reply to a call that was signed with `signed`.
`localHost` is the variable `SW_LOCAL_VIMEO` of the environment. -/
def takeUser (signed : Tokens) (root : XmlNode) : VimeoService :=
  match root.find "username" with
  | none => s
  | some username =>
    { s with
      username := username.content
      simpleProxy := some (localHost.getD "vimeo.com", username.content)
      userTokens := some signed }

/-- `_check_access_token_cb` -/
def checkAccessTokenCb (signed : Tokens) (call : RestProxyCall XmlNode) : VimeoService :=
  match nodeFromCall libs call with
  | none => { s with running := false }
  | some (.error _) => s.emitCapabilitiesChanged
  | some (.ok root) => (s.takeUser localHost signed root).emitCapabilitiesChanged

/-- `got_tokens_cb` -/
def gotTokensCb (gotTokens : Bool) : VimeoService :=
  let s := { s with configured := gotTokens }
  let s :=
    if gotTokens then
      { s with
        uploadProxy :=
          { s.uploadProxy with token := s.proxy.token, tokenSecret := s.proxy.tokenSecret }
        loginCalls := s.loginCalls ++ [s.tokens] }
    else s
  s.emitCapabilitiesChanged

/-- `online_notify` -/
def onlineNotify (online : Bool) : VimeoService :=
  if online then { s with lookups := s.lookups + 1 }
  else ({ s with username := none }).emitCapabilitiesChanged

/-- `credentials_updated`, which is `refresh_credentials`. -/
def refreshCredentials : VimeoService :=
  let s := ({ s with configured := false }).emitUserChanged
  (s.onlineNotify false).onlineNotify true

/-- What the process does at an event: a lookup or a call is answered only while it is out. -/
def handle (s : VimeoService) : VimeoLoginEvent → VimeoService
  | .credentialsUpdated => s.refreshCredentials
  | .onlineNotify online => s.onlineNotify online
  | .gotTokens tokens =>
    if s.lookups = 0 then s
    else
      let s := { s with lookups := s.lookups - 1 }
      match tokens with
      | some (token, tokenSecret) =>
        { s with proxy := { s.proxy with token := some token, tokenSecret := some tokenSecret } }
          |>.gotTokensCb true
      | none => s.gotTokensCb false
  | .accessChecked index call =>
    match s.loginCalls[index]? with
    | none => s
    | some signed =>
      { s with loginCalls := s.loginCalls.eraseIdx index }.checkAccessTokenCb libs localHost signed
        call

/-- One event; there are none after the end of the process. -/
def step (s : VimeoService) (e : VimeoLoginEvent) : VimeoService :=
  if s.running then s.handle libs localHost e else s

/-- `sw_service_vimeo_initable` -/
def start (apiKey apiSecret : String) : VimeoService :=
  let proxy : OAuthProxy := .new (some apiKey) (some apiSecret)
  (⟨true, proxy, proxy, none, none, false, [], 0, [], none⟩ : VimeoService).refreshCredentials

/-! ## What holds in every state -/

variable {libs} {localHost} {s}

/-- The clients have the right capabilities, uploads are signed like the other calls, and the simple
proxy is bound to the user. -/
structure Sound (localHost : Option String) (s : VimeoService) : Prop where
  told : lastCaps s.emitted = some s.getDynamicCaps
  upload : (s.uploadProxy.token, s.uploadProxy.tokenSecret) = s.tokens
  bound : ∀ user, s.username = some user →
    s.simpleProxy = some (localHost.getD "vimeo.com", some user)

/-- An announcement tells the clients what the capabilities are. -/
theorem sound_emitCapabilitiesChanged
    (hupload : (s.uploadProxy.token, s.uploadProxy.tokenSecret) = s.tokens)
    (hbound : ∀ user, s.username = some user →
      s.simpleProxy = some (localHost.getD "vimeo.com", some user)) :
    Sound localHost s.emitCapabilitiesChanged :=
  ⟨lastCaps_append_caps _ _, hupload, hbound⟩

theorem sound_offline (hupload : (s.uploadProxy.token, s.uploadProxy.tokenSecret) = s.tokens) :
    Sound localHost (s.onlineNotify false) :=
  sound_emitCapabilitiesChanged hupload (by rintro _ ⟨⟩)

theorem sound_refreshCredentials
    (hupload : (s.uploadProxy.token, s.uploadProxy.tokenSecret) = s.tokens) :
    Sound localHost s.refreshCredentials := by
  have hoffline : Sound localHost ((({ s with configured := false }).emitUserChanged).onlineNotify
      false) := sound_offline hupload
  exact ⟨hoffline.told, hoffline.upload, hoffline.bound⟩

theorem Sound.gotTokensCb (h : Sound localHost s) (proxy : OAuthProxy) (gotTokens : Bool)
    (hproxy : gotTokens = false → proxy = s.proxy) :
    Sound localHost ({ s with proxy := proxy }.gotTokensCb gotTokens) := by
  cases gotTokens with
  | true => exact sound_emitCapabilitiesChanged rfl h.bound
  | false =>
    rw [hproxy rfl]
    exact sound_emitCapabilitiesChanged h.upload h.bound

theorem Sound.checkAccessTokenCb (h : Sound localHost s) (signed : Tokens)
    (call : RestProxyCall XmlNode) :
    Sound localHost (s.checkAccessTokenCb libs localHost signed call) := by
  unfold VimeoService.checkAccessTokenCb
  rcases nodeFromCall libs call with _ | message | root
  · exact ⟨h.told, h.upload, h.bound⟩
  · exact sound_emitCapabilitiesChanged h.upload h.bound
  · change Sound localHost (s.takeUser localHost signed root).emitCapabilitiesChanged
    unfold takeUser
    cases root.find "username" with
    | none => exact sound_emitCapabilitiesChanged h.upload h.bound
    | some username =>
      refine sound_emitCapabilitiesChanged h.upload fun user huser => ?_
      exact congrArg (fun user => some (localHost.getD "vimeo.com", user)) huser

theorem Sound.handle (h : Sound localHost s) (e : VimeoLoginEvent) :
    Sound localHost (s.handle libs localHost e) := by
  cases e with
  | credentialsUpdated => exact sound_refreshCredentials h.upload
  | onlineNotify online =>
    cases online with
    | true => exact ⟨h.told, h.upload, h.bound⟩
    | false => exact sound_offline h.upload
  | gotTokens tokens =>
    dsimp only [VimeoService.handle]
    have hfewer : Sound localHost { s with lookups := s.lookups - 1 } :=
      ⟨h.told, h.upload, h.bound⟩
    split_ifs
    · exact h
    · cases tokens with
      | none => exact hfewer.gotTokensCb s.proxy false fun _ => rfl
      | some tokens => exact hfewer.gotTokensCb _ true (by rintro ⟨⟩)
  | accessChecked index call =>
    dsimp only [VimeoService.handle]
    split
    · exact h
    · exact (⟨h.told, h.upload, h.bound⟩ : Sound localHost
        { s with loginCalls := s.loginCalls.eraseIdx index }).checkAccessTokenCb _ call

theorem Sound.step (h : Sound localHost s) (e : VimeoLoginEvent) :
    Sound localHost (s.step libs localHost e) := by
  unfold VimeoService.step
  split_ifs
  · exact h.handle e
  · exact h

/-! ## The user and the tokens -/

/-- What `_check_access_token_cb` reads. -/
def readUser (libs : NullHandling) : Reader (RestProxyCall XmlNode) := fun call =>
  match nodeFromCall libs call with
  | some (.ok root) => (root.find "username").map fun username => (username.content, none)
  | _ => none

/-- The event as one of a `VerifiedService`. -/
def verifiedEvent : VimeoLoginEvent → VerifiedEvent (RestProxyCall XmlNode)
  | .credentialsUpdated => .credentialsUpdated false false
  | .onlineNotify online => .onlineNotify online false
  | .gotTokens tokens => .gotTokens tokens
  | .accessChecked index call => .gotUser index call false

/-- The services have the same user and the same tokens, and wait for the same answers. -/
structure Follows (s : VimeoService) (t : VerifiedService) : Prop where
  proxy : t.proxy = s.proxy
  userId : t.userId = s.username
  lookups : t.lookups = s.lookups
  userCalls : t.userCalls = s.loginCalls
  userTokens : t.userTokens = s.userTokens

/-- A user that is known is that of the tokens in use. -/
def UserVerified (s : VimeoService) : Prop :=
  s.username.isSome = true → s.userTokens = some s.tokens

/-- The events that keep the user that of the tokens. -/
def VerifiedOk (libs : NullHandling) (s : VimeoService) : VimeoLoginEvent → Prop
  | .gotTokens (some (token, tokenSecret)) => s.lookups ≠ 0 → s.username.isSome = true →
      s.tokens = (some token, some tokenSecret)
  | .accessChecked index call => ∀ signed, s.loginCalls[index]? = some signed →
      ∀ user image, readUser libs call = some (some user, image) → s.tokens = signed
  | _ => True

variable {t : VerifiedService}

theorem Follows.offline (h : Follows s t) (configured : Bool) :
    Follows (s.onlineNotify false) (t.onlineNotify false configured) :=
  ⟨h.proxy, rfl, h.lookups, h.userCalls, h.userTokens⟩

theorem Follows.online (h : Follows s t) (configured : Bool) :
    Follows (s.onlineNotify true) (t.onlineNotify true configured) :=
  ⟨h.proxy, h.userId, congrArg (· + 1) h.lookups, h.userCalls, h.userTokens⟩

theorem Follows.tokens (h : Follows s t) : t.tokens = s.tokens := by
  unfold VerifiedService.tokens VimeoService.tokens
  rw [h.proxy]

theorem Follows.gotTokensCb (h : Follows s t) (gotTokens : Bool) :
    Follows (s.gotTokensCb gotTokens) (t.gotTokensCb gotTokens) := by
  cases gotTokens with
  | true =>
    refine ⟨h.proxy, h.userId, h.lookups, ?_, h.userTokens⟩
    change t.userCalls ++ [t.tokens] = s.loginCalls ++ [s.tokens]
    rw [h.userCalls, h.tokens]
  | false => exact ⟨h.proxy, h.userId, h.lookups, h.userCalls, h.userTokens⟩

theorem Follows.checkAccessTokenCb (h : Follows s t) (signed : Tokens)
    (call : RestProxyCall XmlNode) :
    Follows (s.checkAccessTokenCb libs localHost signed call)
      (t.gotUserCb (readUser libs) signed call false) := by
  unfold VimeoService.checkAccessTokenCb VerifiedService.gotUserCb readUser
  rcases nodeFromCall libs call with _ | message | root
  · exact ⟨h.proxy, h.userId, h.lookups, h.userCalls, h.userTokens⟩
  · exact ⟨h.proxy, h.userId, h.lookups, h.userCalls, h.userTokens⟩
  · dsimp only
    unfold takeUser
    cases root.find "username" with
    | none => exact ⟨h.proxy, h.userId, h.lookups, h.userCalls, h.userTokens⟩
    | some username => exact ⟨h.proxy, rfl, h.lookups, h.userCalls, rfl⟩

/-- **As far as the user goes, the service is a `VerifiedService`** while the process runs. -/
theorem Follows.handle (h : Follows s t) (e : VimeoLoginEvent) :
    Follows (s.handle libs localHost e) (t.step (readUser libs) (verifiedEvent e)) := by
  cases e with
  | credentialsUpdated =>
    have hforgot : Follows ({ s with configured := false }).emitUserChanged t :=
      ⟨h.proxy, h.userId, h.lookups, h.userCalls, h.userTokens⟩
    have hrefreshed := (hforgot.offline false).online false
    exact ⟨hrefreshed.proxy, hrefreshed.userId, hrefreshed.lookups, hrefreshed.userCalls,
      hrefreshed.userTokens⟩
  | onlineNotify online =>
    cases online with
    | true => exact h.online false
    | false => exact h.offline false
  | gotTokens tokens =>
    dsimp only [VimeoService.handle, verifiedEvent, VerifiedService.step]
    rw [h.lookups, h.proxy]
    split_ifs
    · exact h
    · cases tokens with
      | none =>
        have hfewer : Follows { s with lookups := s.lookups - 1 }
            { t with lookups := s.lookups - 1, proxy := s.proxy } :=
          ⟨rfl, h.userId, rfl, h.userCalls, h.userTokens⟩
        exact hfewer.gotTokensCb false
      | some tokens =>
        let proxy : OAuthProxy :=
          { s.proxy with token := some tokens.1, tokenSecret := some tokens.2 }
        have hset : Follows { s with lookups := s.lookups - 1, proxy := proxy }
            { t with lookups := s.lookups - 1, proxy := proxy } :=
          ⟨rfl, h.userId, rfl, h.userCalls, h.userTokens⟩
        exact hset.gotTokensCb true
  | accessChecked index call =>
    dsimp only [VimeoService.handle, verifiedEvent, VerifiedService.step]
    rw [h.userCalls]
    cases s.loginCalls[index]? with
    | none => exact h
    | some signed =>
      have htaken : Follows { s with loginCalls := s.loginCalls.eraseIdx index }
          { t with userCalls := s.loginCalls.eraseIdx index } :=
        ⟨h.proxy, h.userId, h.lookups, rfl, h.userTokens⟩
      exact htaken.checkAccessTokenCb signed call

theorem Follows.userVerified_iff (h : Follows s t) : UserVerified s ↔ t.UserVerified := by
  unfold UserVerified VerifiedService.UserVerified
  rw [h.userId, h.userTokens, h.tokens]

theorem Follows.verifiedOk_iff (h : Follows s t) (e : VimeoLoginEvent) :
    VerifiedOk libs s e ↔ t.VerifiedOk (readUser libs) (verifiedEvent e) := by
  unfold VerifiedOk VerifiedService.VerifiedOk
  cases e with
  | credentialsUpdated => exact Iff.rfl
  | onlineNotify online => exact Iff.rfl
  | gotTokens tokens =>
    cases tokens with
    | none => exact Iff.rfl
    | some tokens =>
      dsimp only [verifiedEvent]
      rw [h.lookups, h.userId, h.tokens]
  | accessChecked index call =>
    dsimp only [verifiedEvent]
    rw [h.userCalls, h.tokens]

/-- The service without what only Vimeo has. -/
def asVerified (s : VimeoService) : VerifiedService :=
  ⟨s.proxy, s.username, none, s.emitted, s.lookups, s.loginCalls, s.userTokens⟩

theorem follows_asVerified (s : VimeoService) : Follows s s.asVerified := ⟨rfl, rfl, rfl, rfl, rfl⟩

/-- An event keeps the user that of the tokens exactly when it is allowed or comes too late. -/
theorem userVerified_step (hs : UserVerified s) (e : VimeoLoginEvent) :
    UserVerified (s.step libs localHost e) ↔ (s.running = true → VerifiedOk libs s e) := by
  have hfollows := follows_asVerified s
  unfold VimeoService.step
  split_ifs with hrunning
  · rw [(hfollows.handle e).userVerified_iff, hfollows.verifiedOk_iff,
      VerifiedService.userVerified_step (hfollows.userVerified_iff.1 hs)]
    exact ⟨fun h _ => h, fun h => h hrunning⟩
  · exact iff_of_true hs fun h => absurd h hrunning

/-- **The account of Vimeo.** What is announced, how uploads are signed and whose pages are read is
right in every state; the user is that of the tokens in use exactly in the runs whose steps keep it
so. -/
theorem vimeo_account (libs : NullHandling) (localHost : Option String)
    (apiKey apiSecret : String) (es : List VimeoLoginEvent) :
    EveryState (step libs localHost) (Sound localHost) (start apiKey apiSecret) es ∧
      (EveryState (step libs localHost) UserVerified (start apiKey apiSecret) es ↔
        EveryStep (step libs localHost) (fun s e => s.running = true → VerifiedOk libs s e)
          (start apiKey apiSecret) es) := by
  constructor
  · exact everyState_of_step (fun _ e h => h.step e) (sound_refreshCredentials rfl) es
  · exact everyState_iff_of_step_iff (fun _ e hs => userVerified_step hs e)
      (VerifiedService.userVerified_of_none rfl : VerifiedService.UserVerified
        (start apiKey apiSecret).asVerified)

end VimeoService

end Vimeo

end LibSocialWeb
