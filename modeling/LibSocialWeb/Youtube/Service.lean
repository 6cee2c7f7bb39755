import LibSocialWeb.Service.Login
import LibSocialWeb.Youtube.ClientLogin

/-!
# `SwServiceYoutube` (`services/youtube/youtube.c`)

YouTube answers a login with a token, which the views send with their requests and the upload proxy
with the uploads. The service never forgets the token: `sw_service_youtube_get_user_auth` gives it
out when the service is offline, and when the keyring has another account or none.
-/

namespace LibSocialWeb

namespace Youtube

open Login

/-- `proxyUserAuth` is what the upload proxy was told last. -/
structure YoutubeUser where
  userAuth : Option (List UInt8)
  nickname : Option (List UInt8)
  proxyUserAuth : Option (List UInt8)
  deriving DecidableEq, Repr

/-- What `_got_user_auth` makes of a reply. -/
def loginAnswer (reply : Option String × Option (List UInt8)) : LoginAnswer YoutubeUser :=
  match reply.1, reply.2 with
  | some _, _ => .refused
  | none, none => .fault
  | none, some message =>
    match readTokens (gStrsplitSet message) with
    | .error _ => .fault
    | .ok (some (userAuth, nickname)) => .learnt ⟨userAuth, nickname, userAuth⟩
    | .ok none => .refused

theorem userAuth_of_readTokens {tokens : List (List UInt8)}
    {userAuth nickname : Option (List UInt8)}
    (h : readTokens tokens = .ok (some (userAuth, nickname))) : userAuth.isSome = true := by
  rw [(values_of_readTokens h).1]
  rcases tokens with _ | ⟨first, _ | ⟨second, rest⟩⟩
  · cases h
  · by_cases hfirst : first = AUTH
    · subst hfirst
      cases h
    · rw [readTokens_of_ne_auth hfirst] at h
      cases h
  · rfl

theorem known_loginAnswer (reply : Option String × Option (List UInt8)) (user : YoutubeUser)
    (h : loginAnswer reply = .learnt user) : user.userAuth.isSome = true := by
  unfold loginAnswer at h
  split at h
  · cases h
  · cases h
  · split at h
    · cases h
    · next htokens =>
      rw [LoginAnswer.learnt.injEq] at h
      exact h ▸ userAuth_of_readTokens htokens
    · cases h

def kind : LoginKind YoutubeUser (Option String × Option (List UInt8)) where
  fullCaps := [IS_CONFIGURED, CREDENTIALS_VALID]
  answer := loginAnswer
  goneOffline := id
  forgets := false
  known user := user.userAuth.isSome
  valid_mem := by decide
  known_of_learnt := known_loginAnswer
  known_goneOffline _ := by simp

abbrev step : LoginService YoutubeUser → LoginEvent (Option String × Option (List UInt8)) →
    LoginService YoutubeUser := LoginService.step kind

/-- `sw_service_youtube_initable` -/
def start : LoginService YoutubeUser := LoginService.start ⟨none, none, none⟩

/-! ## The callback of the login -/

def ofLogin : Login.Credentials → Credentials
  | .offline => .offline
  | .credsInvalid => .credsInvalid
  | .credsValid => .credsValid

/-- The fields that `_got_user_auth` knows. -/
def ofService (s : LoginService YoutubeUser) : SwServiceYoutube where
  credentials := ofLogin s.credentials
  username := s.username
  password := s.password
  userAuth := s.data.userAuth
  nickname := s.data.nickname
  proxyUserAuth := s.data.proxyUserAuth
  emitted := s.emitted

theorem ofService_emitCapabilitiesChanged (s : LoginService YoutubeUser) :
    ofService (s.emitCapabilitiesChanged kind) = (ofService s).emitCapabilitiesChanged := by
  have hcaps : s.getDynamicCaps kind = (ofService s).getDynamicCaps := by
    unfold LoginService.getDynamicCaps SwServiceYoutube.getDynamicCaps ofService
    cases s.credentials with
    | offline =>
      simp only [ofLogin, LoginService.account, isSome_accountOf]
    | credsInvalid => rfl
    | credsValid => rfl
  show (⟨_, _, _, _, _, _, s.emitted ++ [.capabilitiesChanged (s.getDynamicCaps kind)]⟩ :
    SwServiceYoutube) = _
  rw [hcaps]
  rfl

/-- **The callback of the machine is `_got_user_auth`**, wherever that reads inside its vector. -/
theorem ofService_gotLogin {s : LoginService YoutubeUser} {error : Option String}
    {message : Option (List UInt8)} {t : SwServiceYoutube}
    (h : gotUserAuth (ofService s) error message = .ok t) (account : Account) :
    ofService (s.gotLogin kind account (error, message)) = t := by
  have hanswer : kind.answer (error, message) = loginAnswer (error, message) := rfl
  unfold gotUserAuth at h
  unfold LoginService.gotLogin
  rw [hanswer]
  unfold loginAnswer
  rcases error with _ | error
  · rcases message with _ | message
    · cases h
    · dsimp only at h ⊢
      rcases htokens : readTokens (gStrsplitSet message) with fault | _ | ⟨userAuth, nickname⟩
      · rw [htokens] at h
        cases h
      · rw [htokens] at h
        rw [← Except.ok.inj h]
        exact ofService_emitCapabilitiesChanged _
      · rw [htokens] at h
        rw [← Except.ok.inj h]
        exact ofService_emitCapabilitiesChanged _
  · rw [← Except.ok.inj h]
    exact ofService_emitCapabilitiesChanged _

end Youtube

end LibSocialWeb
