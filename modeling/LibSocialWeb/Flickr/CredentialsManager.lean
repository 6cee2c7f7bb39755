import LibSocialWeb.Flickr.Credentials
import LibSocialWeb.Lib.Run

/-!
# Keys from the keystore, tokens from the keyring
(`services/flickr/flickr-credentials-manager.c`, `libsocialweb-keyfob/sw-keyfob-oauth.c`)

`FlickrCredentialsManager` takes the consumer keys from the keystore and then asks the keyring for
the token. The keyring answers later, and the keyfob hands the tokens over in the proxy of the
lookup.

**Events.** `load keys` is a call of `flickr_credentials_load` that finds `keys` in the keystore;
`tokenLookedUp lookup password` is the answer of the keyring, with no password when there is none.
`base64Decode` stands for GLib's `g_base64_decode`.

**Main result.** `honest`: along every run the manager says that the credentials are available only
while it holds all four.
-/

namespace LibSocialWeb

open InFlight Transition

/-! ## The keyfob -/

/-- `g_strsplit (string, " ", 2)`, when it gives two parts. -/
def splitPair (string : String) : Option (String × String) :=
  match string.toList.dropWhile (· ≠ ' ') with
  | [] => none
  | _ :: rest => some (String.ofList (string.toList.takeWhile (· ≠ ' ')), String.ofList rest)

variable (base64Decode : String → String)

/-- `decode` -/
def decode (string : String) : Option (String × String) :=
  (splitPair string).map fun (token, tokenSecret) => (base64Decode token, base64Decode tokenSecret)

/-- `find_oauth_key_cb`: the proxy and the flag that its callback gets. -/
def findOauthKeyCb (proxy : OAuthProxy) (password : Option String) : OAuthProxy × Bool :=
  match password.bind (decode base64Decode) with
  | some (token, tokenSecret) =>
    ({ proxy with token := some token, tokenSecret := some tokenSecret }, true)
  | none => (proxy, false)

/-- A proxy said to have tokens has them. -/
theorem findOauthKeyCb_found {proxy : OAuthProxy} {password : Option String}
    (h : (findOauthKeyCb base64Decode proxy password).2 = true) :
    (findOauthKeyCb base64Decode proxy password).1.token.isSome ∧
      (findOauthKeyCb base64Decode proxy password).1.tokenSecret.isSome := by
  unfold findOauthKeyCb at h ⊢
  split at h
  · exact ⟨rfl, rfl⟩
  · cases h

/-! ## The manager -/

/-- A lookup in the keyring, with the closure it was made for. -/
structure TokenLookup where
  closure : Nat
  proxy : OAuthProxy
  deriving DecidableEq, Repr

structure FlickrCredentialsManager extends FlickrCredentials where
  requests : Requests TokenLookup (LoadAction FlickrCredentials)
  deriving DecidableEq, Repr

inductive CredentialsEvent where
  | load (keys : Option String × Option String)
  | tokenLookedUp (lookup : TokenLookup) (password : Option String)

namespace FlickrCredentialsManager

/-- `flickr_credentials_mgr_instance_init` -/
def init : FlickrCredentialsManager := ⟨⟨none, none, none, none⟩, .none⟩

variable (self : FlickrCredentialsManager)

/-- Call the callback of a load. -/
def callback (closure : Nat) (available : Bool) (error : Option GError) :
    FlickrCredentialsManager :=
  { self with
    requests := self.requests.note closure (.callback available error self.toFlickrCredentials) }

/-- `flickr_credentials_load_closure_free` -/
def freeClosure (closure : Nat) : FlickrCredentialsManager :=
  { self with requests := self.requests.note closure .free }

/-- `flickr_credentials_mgr_load_im`. Without keys it calls the callback and makes no closure. -/
def load (keys : Option String × Option String) : FlickrCredentialsManager :=
  let closure := self.requests.made
  let self := { self with requests := self.requests.new }
  match keys with
  | (some consumerKey, some consumerSecret) =>
    let self := { self with
      consumerKey := some consumerKey
      consumerSecret := some consumerSecret
      token := none
      tokenSecret := none }
    let proxy := OAuthProxy.new self.consumerKey self.consumerSecret
    { self with requests := self.requests.send ⟨closure, proxy⟩ }
  | _ => self.callback closure false (some ⟨.noKeysProvided, ": no consumer key has been provided"⟩)

/-- `flickr_credentials_mgr_on_token_looked_up` -/
def onTokenLookedUp (proxy : OAuthProxy) (found : Bool) (closure : Nat) :
    FlickrCredentialsManager :=
  let (self, error) :=
    if found then ({ self with token := proxy.token, tokenSecret := proxy.tokenSecret }, none)
    else (self, some (GError.mk .noKeysProvided
      ": no access token could be found for Flickr service"))
  (self.callback closure found error).freeClosure closure

/-- One event: a lookup is answered only while it is out. -/
def step (s : FlickrCredentialsManager) : CredentialsEvent → FlickrCredentialsManager
  | .load keys => s.load keys
  | .tokenLookedUp lookup password =>
    if lookup ∈ s.requests.calls then
      let (proxy, found) := findOauthKeyCb base64Decode lookup.proxy password
      { s with requests := s.requests.take lookup }.onTokenLookedUp proxy found lookup.closure
    else s

/-- The answer of the keyring ends the load. -/
theorem requests_onTokenLookedUp (c : TokenLookup) (proxy : OAuthProxy) (found : Bool)
    (closure : Nat) : ∃ error holds,
      ({ self with
          requests := self.requests.take c }.onTokenLookedUp proxy found closure).requests =
        self.requests.closed c closure [.callback found error holds, .free] := by
  cases found with
  | true => exact ⟨_, _, Requests.note_note⟩
  | false => exact ⟨_, _, Requests.note_note⟩

/-! ## The contract -/

variable {self : FlickrCredentialsManager} {base64Decode}

/-- While a lookup is out the consumer keys are there. -/
structure HonestInv (s : FlickrCredentialsManager) : Prop where
  honest : Honest FlickrCredentials.Complete s.requests
  keys : s.requests.calls ≠ [] → s.consumerKey.isSome ∧ s.consumerSecret.isSome

theorem honestInv_load (h : HonestInv self) (keys : Option String × Option String) :
    HonestInv (self.load keys) := by
  unfold load
  split
  · exact ⟨h.honest, fun _ => ⟨rfl, rfl⟩⟩
  · exact ⟨honest_refusal h.honest, h.keys⟩

theorem honestInv_onTokenLookedUp {proxy : OAuthProxy} {found : Bool} {closure : Nat}
    (h : Honest FlickrCredentials.Complete self.requests)
    (hkeys : self.consumerKey.isSome ∧ self.consumerSecret.isSome)
    (hproxy : found = true → proxy.token.isSome ∧ proxy.tokenSecret.isSome) :
    HonestInv (self.onTokenLookedUp proxy found closure) := by
  unfold onTokenLookedUp
  cases found with
  | false => exact ⟨honest_free.2 (honest_refusal h), fun _ => hkeys⟩
  | true =>
    refine ⟨honest_free.2 (honest_callback.2 ⟨fun _ => ?_, h⟩), fun _ => hkeys⟩
    simp [FlickrCredentials.Complete, hkeys, hproxy rfl]

theorem honestInv_step (s : FlickrCredentialsManager) (e : CredentialsEvent) (h : HonestInv s) :
    HonestInv (s.step base64Decode e) := by
  cases e with
  | load keys => exact honestInv_load h keys
  | tokenLookedUp lookup password =>
    dsimp only [step]
    split
    · rename_i hlookup
      have hkeys := h.keys (List.ne_nil_of_mem hlookup)
      exact honestInv_onTokenLookedUp h.honest hkeys (findOauthKeyCb_found base64Decode)
    · exact h

theorem honestInv_init : HonestInv init := ⟨honest_none, fun h => absurd rfl h⟩

/-- **Along every run, available credentials are complete.** -/
theorem honest (es : List CredentialsEvent) :
    EveryState (step base64Decode)
      (fun s => Honest FlickrCredentials.Complete s.requests) init es :=
  (everyState_of_step honestInv_step honestInv_init es).mono fun _ h => h.honest

end FlickrCredentialsManager

end LibSocialWeb
