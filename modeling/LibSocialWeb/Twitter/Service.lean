import LibSocialWeb.Rest.Calls
import LibSocialWeb.Service.Signals

/-!
# `SwServiceTwitter` (`services/twitter/twitter.c`)

The service knows one user name and password, and one of three things about them: nothing yet
(`offline`), that they are wrong, that they are right. To find out it makes two calls: one for an
access token, and one with that token for the user.

**Calls.** Neither a lookup in the keyring nor a call is ever cancelled. `tokenCalls` lists the
token calls that are out, each with the account it asks for, and `verifyCalls` the calls for the
user, each with the account its token was given to.

**Replies.** `verify_cb` reads three nodes of the reply without a check that they are there; a NULL
among them ends the process, and `running` becomes false.

**Records.** `lastOnline` is the argument of the last `online_notify`, and `verified` the account of
the reply that last made the credentials valid; no code reads either.
-/

namespace LibSocialWeb

inductive TwitterCredentials where
  | offline
  | credsInvalid
  | credsValid
  deriving DecidableEq, Repr

/-- A user name and a password. -/
structure TwitterAccount where
  username : String
  password : String
  deriving DecidableEq, Repr

/-- What `verify_cb` keeps of a reply. -/
structure TwitterUser where
  userId : Option String
  imageUrl : Option String
  geotagEnabled : Bool
  deriving DecidableEq, Repr

structure SwServiceTwitter where
  running : Bool
  credentials : TwitterCredentials
  proxy : OAuthProxy
  twitpicProxy : Option OAuthProxy
  userId : Option String
  imageUrl : Option String
  username : Option String
  password : Option String
  geotagEnabled : Bool
  emitted : List ServiceSignal
  lookups : Nat
  tokenCalls : List TwitterAccount
  verifyCalls : List TwitterAccount
  lastOnline : Option Bool
  verified : Option TwitterAccount
  deriving DecidableEq, Repr

namespace SwServiceTwitter

/-- `node_from_call` -/
def nodeFromCall (call : RestProxyCall XmlNode) : Option XmlNode := call.successfulRoot

/-- The three nodes that `verify_cb` reads; `none` if it dereferences NULL. `g_str_equal` needs a
text, the two copies do not. -/
def userFromNode (node : XmlNode) : Option TwitterUser :=
  match node.find "id", node.find "profile_image_url",
      (node.find "geo_enabled").bind (·.content) with
  | some id, some imageUrl, some geoEnabled =>
    some ⟨id.content, imageUrl.content, geoEnabled == "true"⟩
  | _, _, _ => none

variable (s : SwServiceTwitter)

/-- The user name and the password, when both are there. -/
def account : Option TwitterAccount :=
  match s.username, s.password with
  | some username, some password => some ⟨username, password⟩
  | _, _ => none

/-- `get_dynamic_caps` -/
def getDynamicCaps : List String :=
  match s.credentials with
  | .credsValid =>
    if s.geotagEnabled then
      [IS_CONFIGURED, CREDENTIALS_VALID, CAN_UPDATE_STATUS, CAN_REQUEST_AVATAR,
        CAN_UPDATE_STATUS_WITH_GEOTAG, CAN_GEOTAG]
    else [IS_CONFIGURED, CREDENTIALS_VALID, CAN_UPDATE_STATUS, CAN_REQUEST_AVATAR]
  | .credsInvalid => [IS_CONFIGURED, CREDENTIALS_INVALID]
  | .offline => if s.account.isSome then [IS_CONFIGURED] else []

def emitUserChanged : SwServiceTwitter := { s with emitted := s.emitted ++ [.userChanged] }

def emitCapabilitiesChanged : SwServiceTwitter :=
  { s with emitted := s.emitted ++ [.capabilitiesChanged s.getDynamicCaps] }

/-- `verify_cb`, of a call with the token of `account`. -/
def verifyCb (account : TwitterAccount) (call : RestProxyCall XmlNode) : SwServiceTwitter :=
  match nodeFromCall call with
  | none => s
  | some node =>
    match userFromNode node with
    | none => { s with running := false }
    | some user =>
      ({ s with
        credentials := .credsValid
        userId := user.userId
        imageUrl := user.imageUrl
        geotagEnabled := user.geotagEnabled
        verified := some account }).emitCapabilitiesChanged

/-- `_oauth_access_token_cb`; a reply without error brings a token and its secret, or NULL. -/
def oauthAccessTokenCb (account : TwitterAccount)
    (reply : Except String (Option String × Option String)) : SwServiceTwitter :=
  match reply with
  | .error _ => ({ s with credentials := .credsInvalid }).emitCapabilitiesChanged
  | .ok (token, tokenSecret) =>
    let proxy := { s.proxy with token := token, tokenSecret := tokenSecret }
    { s with
      proxy := proxy
      twitpicProxy := some proxy
      verifyCalls := s.verifyCalls ++ [account] }

/-- `online_notify` -/
def onlineNotify (online : Bool) : SwServiceTwitter :=
  let s := { s with
    proxy := { s.proxy with token := none, tokenSecret := none }
    lastOnline := some online }
  if online then
    match s.account with
    | some account =>
      { s with tokenCalls := s.tokenCalls ++ [account], credentials := .offline }
    | none => { s with credentials := .offline }
  else
    { s with userId := none, twitpicProxy := none, credentials := .offline }
      |>.emitCapabilitiesChanged

/-- `found_password_cb`; `found` is the user and the password of the first entry of a successful
lookup, and `isOnline` what `sw_is_online` returns. -/
def foundPasswordCb (found : Option (Option String × Option String)) (isOnline : Bool) :
    SwServiceTwitter :=
  let s :=
    match found with
    | some (user, password) =>
      let s := { s with username := user, password := password }
      if isOnline then (s.onlineNotify false).onlineNotify true else s
    | none => { s with username := none, password := none, credentials := .offline }
  s.emitUserChanged.emitCapabilitiesChanged

/-- `credentials_updated`, which is `refresh_credentials`. -/
def credentialsUpdated : SwServiceTwitter := { s with lookups := s.lookups + 1 }

/-- The capabilities of a service that waits to be verified. -/
theorem getDynamicCaps_of_offline {s : SwServiceTwitter} (h : s.credentials = .offline) :
    s.getDynamicCaps = if s.account.isSome then [IS_CONFIGURED] else [] := by
  rw [getDynamicCaps, h]

@[simp] theorem credentials_onlineNotify (online : Bool) :
    (s.onlineNotify online).credentials = .offline := by
  unfold onlineNotify
  cases online with
  | false => rfl
  | true =>
    rw [if_pos rfl]
    dsimp only
    split <;> rfl

@[simp] theorem account_onlineNotify (online : Bool) :
    (s.onlineNotify online).account = s.account := by
  unfold onlineNotify
  cases online with
  | false => rfl
  | true =>
    rw [if_pos rfl]
    dsimp only
    split <;> rfl

@[simp] theorem emitted_onlineNotify_true : (s.onlineNotify true).emitted = s.emitted := by
  unfold onlineNotify
  rw [if_pos rfl]
  dsimp only
  split <;> rfl

end SwServiceTwitter

/-! ## The transition system -/

/-- The events; a reply says which of the outstanding calls it belongs to. -/
inductive TwitterEvent where
  | credentialsUpdated
  | foundPassword (found : Option (Option String × Option String)) (isOnline : Bool)
  | onlineNotify (online : Bool)
  | accessToken (index : Nat) (reply : Except String (Option String × Option String))
  | verified (index : Nat) (call : RestProxyCall XmlNode)

namespace SwServiceTwitter

/-- One event of a service that runs: a lookup or a call is answered only while it is out. -/
def handle (s : SwServiceTwitter) : TwitterEvent → SwServiceTwitter
  | .credentialsUpdated => s.credentialsUpdated
  | .foundPassword found isOnline =>
    if s.lookups = 0 then s
    else { s with lookups := s.lookups - 1 }.foundPasswordCb found isOnline
  | .onlineNotify online => s.onlineNotify online
  | .accessToken index reply =>
    match s.tokenCalls[index]? with
    | none => s
    | some account =>
      { s with tokenCalls := s.tokenCalls.eraseIdx index }.oauthAccessTokenCb account reply
  | .verified index call =>
    match s.verifyCalls[index]? with
    | none => s
    | some account =>
      { s with verifyCalls := s.verifyCalls.eraseIdx index }.verifyCb account call

def step (s : SwServiceTwitter) (e : TwitterEvent) : SwServiceTwitter :=
  if s.running then s.handle e else s

/-- `sw_service_twitter_initable`, which ends with `refresh_credentials`. -/
def start (key secret : String) : SwServiceTwitter where
  running := true
  credentials := .offline
  proxy := .new (some key) (some secret)
  twitpicProxy := none
  userId := none
  imageUrl := none
  username := none
  password := none
  geotagEnabled := false
  emitted := []
  lookups := 1
  tokenCalls := []
  verifyCalls := []
  lastOnline := none
  verified := none

/-- A reply with the three nodes. -/
def userReply : RestProxyCall XmlNode where
  statusCode := 200
  statusMessage := "OK"
  payload := "<user><id>1</id><profile_image_url>http://a/1.png</profile_image_url>" ++
    "<geo_enabled>false</geo_enabled></user>"
  parsed :=
    let children := [("id", [⟨"id", some "1", [], [], []⟩]),
      ("profile_image_url", [⟨"profile_image_url", some "http://a/1.png", [], [], []⟩]),
      ("geo_enabled", [⟨"geo_enabled", some "false", [], [], []⟩])]
    some ⟨"user", none, [], children, children⟩

end SwServiceTwitter

end LibSocialWeb
