import LibSocialWeb.Lib.Run
import LibSocialWeb.Service.Signals
import LibSocialWeb.Flickr.Credentials
import Mathlib.Tactic.SplitIfs

/-!
# `SwServiceFlickr` (`services/flickr/flickr.c`)

The service keeps two flags, `configured` (there are user tokens) and `authorised` (the tokens are
valid), and the proxies for its calls. Four handlers change them: `credentials_updated`,
`online_notify`, and the callbacks of a load and of a check of the credentials.

**Calls.** `flickr_credentials_load` and `flickr_credentials_check` either fail at once, and then
the callback runs inside the call, or are answered later. Which of the two is up to the
credentials object, so it is part of the event (`CallMode`); so are the keys and tokens that the
object holds when a handler reads them, since the views load on the same object.

**Records.** `emitted` lists the signals of the service. `lastOnline` is the last online
notification, and `nullTokenSet` tells whether a token was ever set on a proxy that is NULL; the
code reads neither.
-/

namespace LibSocialWeb

/-! ## The service -/

/-- A call to the credentials object fails at once or is answered later. -/
inductive CallMode where
  | fails
  | deferred
  deriving DecidableEq, Repr

structure SwServiceFlickr where
  proxy : Option OAuthProxy
  uploadProxy : Option OAuthProxy
  configured : Bool
  authorised : Bool
  loads : Nat
  checks : Nat
  emitted : List ServiceSignal
  lastOnline : Option Bool
  nullTokenSet : Bool
  deriving DecidableEq, Repr

namespace SwServiceFlickr

/-- `sw_service_flickr_init` -/
def init : SwServiceFlickr := ⟨none, none, false, false, 0, 0, [], none, false⟩

/-- `get_dynamic_caps`, of the two flags. -/
def dynamicCaps (configured authorised : Bool) : List String :=
  if configured then
    if authorised then [IS_CONFIGURED, CREDENTIALS_VALID] else [IS_CONFIGURED, CREDENTIALS_INVALID]
  else []

variable (s : SwServiceFlickr)

def getDynamicCaps : List String := dynamicCaps s.configured s.authorised

def emit (signal : ServiceSignal) : SwServiceFlickr := { s with emitted := s.emitted ++ [signal] }

def emitUserChanged : SwServiceFlickr := s.emit .userChanged

def emitCapabilitiesChanged : SwServiceFlickr := s.emit (.capabilitiesChanged s.getDynamicCaps)

/-- Set token and token secret on a proxy. -/
def setTokens (creds : FlickrCredentials) : Option OAuthProxy → Option OAuthProxy :=
  Option.map fun proxy => { proxy with token := creds.token, tokenSecret := creds.tokenSecret }

/-- `_on_credentials_checked` -/
def onCredentialsChecked (creds : FlickrCredentials) (credentialsOk : Bool) : SwServiceFlickr :=
  let s := { s with authorised := credentialsOk }
  let s :=
    if credentialsOk then
      { s with
        proxy := setTokens creds s.proxy
        uploadProxy := setTokens creds s.uploadProxy
        nullTokenSet := s.nullTokenSet || s.proxy.isNone || s.uploadProxy.isNone }
    else s
  s.emitCapabilitiesChanged

/-- `flickr_credentials_check`, with `_on_credentials_checked`. -/
def check (creds : FlickrCredentials) (mode : CallMode) : SwServiceFlickr :=
  match mode with
  | .fails => s.onCredentialsChecked creds false
  | .deferred => { s with checks := s.checks + 1 }

/-- `_on_credentials_available`; `isOnline` is what `sw_is_online` returns. -/
def onCredentialsAvailable (creds : FlickrCredentials) (isOnline : Bool) (mode : CallMode)
    (available : Bool) : SwServiceFlickr :=
  let s :=
    if s.configured ≠ available then
      ({ s with configured := available }).emitUserChanged.emitCapabilitiesChanged
    else s
  let s :=
    if available then
      { s with
        proxy := some (.new creds.consumerKey creds.consumerSecret)
        uploadProxy := some (.new creds.consumerKey creds.consumerSecret) }
    else s
  let s := { s with authorised := false }
  if s.configured && isOnline then s.check creds mode else s

/-- `flickr_credentials_load`, with `_on_credentials_available`. A load that fails makes no check,
so the mode of the check is of no account. -/
def load (creds : FlickrCredentials) (mode : CallMode) : SwServiceFlickr :=
  match mode with
  | .fails => s.onCredentialsAvailable creds false .deferred false
  | .deferred => { s with loads := s.loads + 1 }

/-- `credentials_updated` -/
def credentialsUpdated (creds : FlickrCredentials) (mode : CallMode) : SwServiceFlickr :=
  let s :=
    if s.configured || s.authorised then
      ({ s with configured := false, authorised := false }).emitUserChanged.emitCapabilitiesChanged
    else s
  s.load creds mode

/-- `online_notify`; the mode is that of the load or of the check it makes. -/
def onlineNotify (creds : FlickrCredentials) (mode : CallMode) (online : Bool) : SwServiceFlickr :=
  let s := { s with lastOnline := some online }
  if online then
    if s.configured then s.load creds mode else s.check creds mode
  else ({ s with authorised := false }).emitCapabilitiesChanged

end SwServiceFlickr

/-! ## The transition system -/

inductive FlickrEvent where
  | credentialsUpdated (creds : FlickrCredentials) (load : CallMode)
  | onlineNotify (creds : FlickrCredentials) (call : CallMode) (online : Bool)
  | credentialsAvailable (creds : FlickrCredentials) (isOnline : Bool) (check : CallMode)
      (available : Bool)
  | credentialsChecked (creds : FlickrCredentials) (credentialsOk : Bool)

namespace SwServiceFlickr

/-- One event: a load or a check is answered only while one is outstanding. -/
def step (s : SwServiceFlickr) : FlickrEvent → SwServiceFlickr
  | .credentialsUpdated creds load => s.credentialsUpdated creds load
  | .onlineNotify creds call online => s.onlineNotify creds call online
  | .credentialsAvailable creds isOnline check available =>
    if s.loads = 0 then s
    else { s with loads := s.loads - 1 }.onCredentialsAvailable creds isOnline check available
  | .credentialsChecked creds credentialsOk =>
    if s.checks = 0 then s
    else { s with checks := s.checks - 1 }.onCredentialsChecked creds credentialsOk

/-- `sw_service_flickr_initable` ends with `credentials_updated`. -/
def start (creds : FlickrCredentials) (load : CallMode) : SwServiceFlickr :=
  init.credentialsUpdated creds load

end SwServiceFlickr

end LibSocialWeb
