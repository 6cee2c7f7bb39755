import LibSocialWeb.Flickr.CredentialsManager
import LibSocialWeb.Flickr.Authorised

/-!
# The tokens in use are the verified ones

The service and its views share one manager and, as long as a view is not older than the proxies of
the service, one proxy. A check is signed with the tokens that the manager holds when it is made
(`flickr_credentials_mgr_check_im`), and when its good answer comes in the proxies get what the
manager holds by then (`_on_credentials_checked`). In between any load clears the tokens of the
manager, and another lookup may bring other ones. A view that finds a token compares it with the
token of its proxy, and sets the address of a local variable as the new one if they differ
(`_adapt_proxy`).

**System.** `generation` numbers the proxies of the service, and `views` lists the proxy that each
view was opened with. `userData` lists the user data of all loads by number. `checks` lists what the
checks in flight were signed with, and `verified` is the pair of the last good answer; no code reads
it. An emission of `capabilities-changed` with `credentials-valid` makes the views load inside of
it: `nested` lists these loads.

**Main result.** `tokensVerified`: while the service is authorised, both proxies hold the verified
pair, along every run in which a good answer finds the proxies there and in the manager the pair it
was signed with, and a view that shares the proxy of an authorised service finds the pair that the
proxy holds.
-/

namespace LibSocialWeb

open InFlight Transition

/-- The user data of a load. -/
inductive LoadOwner where
  | service
  | view (v : Nat)
  deriving DecidableEq

/-- The keys that a load finds in the keystore. -/
abbrev StoredKeys := Option String × Option String

structure TokenSys where
  manager : FlickrCredentialsManager
  service : SwServiceFlickr
  generation : Nat
  views : List (Option Nat)
  userData : List LoadOwner
  checks : List FlickrCredentials
  verified : Option FlickrCredentials

inductive TokenEvent where
  | credentialsUpdated (keys : StoredKeys)
  | onlineNotify (keys : StoredKeys) (restFails online : Bool)
  | openView
  | viewLoad (v : Nat) (keys : StoredKeys)
  | tokenLookedUp (lookup : TokenLookup) (password : Option String) (isOnline restFails : Bool)
      (nested : List (Nat × StoredKeys)) (garbage : String × String)
  | credentialsChecked (i : Nat) (credentialsOk : Bool) (nested : List (Nat × StoredKeys))

/-- Whether a load with these keys fails at once. -/
def loadMode : StoredKeys → CallMode
  | (some _, some _) => .deferred
  | _ => .fails

/-- Whether `flickr_credentials_mgr_check_im` fails at once: something is NULL, or librest fails. -/
def checkMode (creds : FlickrCredentials) (restFails : Bool) : CallMode :=
  if creds.consumerKey.isNone || creds.consumerSecret.isNone || creds.token.isNone ||
      creds.tokenSecret.isNone || restFails then .fails
  else .deferred

/-- `_adapt_proxy`. The new values are the bytes at the address of a local variable, `garbage`. -/
def adaptProxy (creds : FlickrCredentials) (garbage : String × String) (proxy : OAuthProxy) :
    OAuthProxy :=
  if proxy.token ≠ creds.token ∨ proxy.tokenSecret ≠ creds.tokenSecret then
    { proxy with token := some garbage.1, tokenSecret := some garbage.2 }
  else proxy

namespace TokenSys

def init : TokenSys := ⟨.init, .init, 0, [], [], [], none⟩

/-- `flickr_credentials_load`; what its callback does is up to the caller. -/
def load (owner : LoadOwner) (keys : StoredKeys) (s : TokenSys) : TokenSys :=
  { s with manager := s.manager.load keys, userData := s.userData ++ [owner] }

/-- The loads of the views that see `credentials-valid` in an emission. -/
def reloadViews (caps : List String) (nested : List (Nat × StoredKeys)) (s : TokenSys) : TokenSys :=
  if CREDENTIALS_VALID ∈ caps then nested.foldl (fun s l => s.load (.view l.1) l.2) s else s

/-- The service after a handler. A check that the handler has made is signed with what the manager
holds. -/
def withService (service : SwServiceFlickr) (s : TokenSys) : TokenSys :=
  { s with
    service := service
    checks := if s.service.checks < service.checks then
      s.checks ++ [s.manager.toFlickrCredentials] else s.checks }

/-- `_on_credentials_available`. The capabilities are emitted before the keys are read. -/
def onCredentialsAvailable (isOnline restFails found : Bool) (nested : List (Nat × StoredKeys))
    (s : TokenSys) : TokenSys :=
  let s := if s.service.configured ≠ found then
    s.reloadViews (SwServiceFlickr.dynamicCaps found s.service.authorised) nested else s
  let creds := s.manager.toFlickrCredentials
  let mode := checkMode creds restFails
  let s := s.withService (s.service.onCredentialsAvailable creds isOnline mode found)
  if found then { s with generation := s.generation + 1 } else s

/-- `_on_credentials_checked`, for a check that was made with the pair of `signed`. -/
def onCredentialsChecked (signed : FlickrCredentials) (credentialsOk : Bool)
    (nested : List (Nat × StoredKeys)) (s : TokenSys) : TokenSys :=
  let service := { s.service with checks := s.service.checks - 1 }.onCredentialsChecked
    s.manager.toFlickrCredentials credentialsOk
  let verified := if credentialsOk then some signed else s.verified
  { s with service := service, verified := verified }.reloadViews service.getDynamicCaps nested

/-- `_on_credentials_loaded` of a view. -/
def onCredentialsLoaded (v : Nat) (found : Bool) (garbage : String × String) (s : TokenSys) :
    TokenSys :=
  if found then
    -- An older proxy is no longer one of the service.
    if s.views[v]? = some (some s.generation) then
      { s with service := { s.service with
          proxy := s.service.proxy.map (adaptProxy s.manager.toFlickrCredentials garbage) } }
    else s
  else s

variable (base64Decode : String → String)

def step (s : TokenSys) : TokenEvent → TokenSys
  | .credentialsUpdated keys =>
    let s := s.load .service keys
    s.withService (s.service.credentialsUpdated s.manager.toFlickrCredentials (loadMode keys))
  | .onlineNotify keys restFails online =>
    if online && s.service.configured then
      let s := s.load .service keys
      s.withService (s.service.onlineNotify s.manager.toFlickrCredentials (loadMode keys) online)
    else
      let creds := s.manager.toFlickrCredentials
      s.withService (s.service.onlineNotify creds (checkMode creds restFails) online)
  | .openView => { s with views := s.views ++ [s.service.proxy.map fun _ => s.generation] }
  | .viewLoad v keys => s.load (.view v) keys
  | .tokenLookedUp lookup password isOnline restFails nested garbage =>
    if lookup ∈ s.manager.requests.calls then
      let found := (findOauthKeyCb base64Decode lookup.proxy password).2
      let s := { s with manager := s.manager.step base64Decode (.tokenLookedUp lookup password) }
      match (s.userData[lookup.closure]? : Option LoadOwner) with
      | some .service =>
        { s with service := { s.service with loads := s.service.loads - 1 } }.onCredentialsAvailable
          isOnline restFails found nested
      | some (.view v) => s.onCredentialsLoaded v found garbage
      | none => s
    else s
  | .credentialsChecked i credentialsOk nested =>
    match s.checks[i]? with
    | none => s
    | some signed =>
      { s with checks := s.checks.eraseIdx i }.onCredentialsChecked signed credentialsOk nested

/-- `sw_service_flickr_initable` ends with `credentials_updated`. -/
def start (keys : StoredKeys) : TokenSys := init.step base64Decode (.credentialsUpdated keys)

/-! ## The property and the condition -/

/-- The proxy is there and holds the pair. -/
def Holds (proxy : Option OAuthProxy) (token tokenSecret : String) : Prop :=
  ∃ p, proxy = some p ∧ p.token = some token ∧ p.tokenSecret = some tokenSecret

/-- While the service is authorised, both proxies hold the pair of the last good answer. -/
def TokensVerified (s : TokenSys) : Prop :=
  s.service.authorised = true → ∃ signed token tokenSecret, s.verified = some signed ∧
    signed.token = some token ∧ signed.tokenSecret = some tokenSecret ∧
    Holds s.service.proxy token tokenSecret ∧ Holds s.service.uploadProxy token tokenSecret

/-- A good answer finds both proxies, and in the manager what it was signed with. A view that shares
the proxy of an authorised service finds the pair that this proxy holds. -/
def PairKept (s : TokenSys) : TokenEvent → Prop
  | .credentialsChecked i true _ => ∀ signed, s.checks[i]? = some signed →
    s.manager.token = signed.token ∧ s.manager.tokenSecret = signed.tokenSecret ∧
      s.service.proxy.isSome ∧ s.service.uploadProxy.isSome
  | .tokenLookedUp lookup password _ _ _ _ => lookup ∈ s.manager.requests.calls →
    s.service.authorised = true → ∀ v p, s.userData[lookup.closure]? = some (.view v) →
    s.views[v]? = some (some s.generation) → s.service.proxy = some p →
    (findOauthKeyCb base64Decode lookup.proxy password).2 = true →
    (findOauthKeyCb base64Decode lookup.proxy password).1.token = p.token ∧
      (findOauthKeyCb base64Decode lookup.proxy password).1.tokenSecret = p.tokenSecret
  | _ => True

/-! ## What the handlers of the service do -/

/-- A handler leaves the service unauthorised, or its flag and its proxies as they were. -/
def Careful (before after : SwServiceFlickr) : Prop :=
  after.authorised = false ∨ after.authorised = before.authorised ∧ after.proxy = before.proxy ∧
    after.uploadProxy = before.uploadProxy

variable (service : SwServiceFlickr) (creds : FlickrCredentials) (mode : CallMode)

theorem careful_check : Careful service (service.check creds mode) ∧
    (service.checks < (service.check creds mode).checks → mode = .deferred) := by
  cases mode with
  | fails => exact ⟨Or.inl rfl, fun h => absurd h (lt_irrefl _)⟩
  | deferred => exact ⟨Or.inr ⟨rfl, rfl, rfl⟩, fun _ => rfl⟩

theorem careful_onCredentialsAvailable (isOnline found : Bool) :
    (service.onCredentialsAvailable creds isOnline mode found).authorised = false ∧
      (service.checks < (service.onCredentialsAvailable creds isOnline mode found).checks →
        mode = .deferred) := by
  rw [SwServiceFlickr.onCredentialsAvailable_eq]
  split_ifs
  · cases mode with
    | fails => exact ⟨rfl, fun h => absurd h (lt_irrefl _)⟩
    | deferred => exact ⟨rfl, fun _ => rfl⟩
  · exact ⟨rfl, fun h => absurd h (lt_irrefl _)⟩

theorem careful_load :
    Careful service (service.load creds mode) ∧
      (service.load creds mode).checks = service.checks := by
  cases mode with
  | fails =>
    refine ⟨Or.inl (careful_onCredentialsAvailable service creds .deferred false false).1, ?_⟩
    show (service.onCredentialsAvailable creds false .deferred false).checks = _
    rw [SwServiceFlickr.onCredentialsAvailable_eq]
    rfl
  | deferred => exact ⟨Or.inr ⟨rfl, rfl, rfl⟩, rfl⟩

theorem careful_credentialsUpdated :
    (service.credentialsUpdated creds mode).authorised = false ∧
      (service.credentialsUpdated creds mode).checks = service.checks := by
  have hload : ∀ t : SwServiceFlickr, t.authorised = false → t.checks = service.checks →
      (t.load creds mode).authorised = false ∧ (t.load creds mode).checks = service.checks := by
    intro t ha hc
    obtain ⟨hcareful, hchecks⟩ := careful_load t creds mode
    refine ⟨?_, hchecks.trans hc⟩
    rcases hcareful with h | ⟨h, -, -⟩
    · exact h
    · exact h.trans ha
  unfold SwServiceFlickr.credentialsUpdated
  split_ifs with hflags
  · exact hload _ rfl rfl
  · refine hload _ ?_ rfl
    rw [Bool.or_eq_true, not_or, Bool.not_eq_true, Bool.not_eq_true] at hflags
    exact hflags.2

theorem careful_onlineNotify (online : Bool) :
    Careful service (service.onlineNotify creds mode online) ∧
      (service.checks < (service.onlineNotify creds mode online).checks →
        (online && service.configured) = false ∧ mode = .deferred) := by
  cases online with
  | false => exact ⟨Or.inl rfl, fun h => absurd h (lt_irrefl _)⟩
  | true =>
    have hload := careful_load { service with lastOnline := some true } creds mode
    have hcheck := careful_check { service with lastOnline := some true } creds mode
    dsimp only [SwServiceFlickr.onlineNotify]
    rw [if_pos rfl]
    split_ifs with hconfigured
    · exact ⟨hload.1, fun h => absurd h (by rw [hload.2]; exact lt_irrefl _)⟩
    · refine ⟨hcheck.1, fun h => ⟨?_, hcheck.2 h⟩⟩
      exact Bool.eq_false_iff.2 hconfigured

variable {service creds mode}

theorem complete_of_checkMode {restFails : Bool} (h : checkMode creds restFails = .deferred) :
    creds.token.isSome ∧ creds.tokenSecret.isSome := by
  unfold checkMode at h
  split_ifs at h with hnone
  simp only [Bool.or_eq_true, not_or, Option.isNone_iff_eq_none, ← Option.isSome_iff_ne_none]
    at hnone
  exact ⟨hnone.1.1.2, hnone.1.2⟩

/-! ## The invariant -/

/-- Besides, every check in flight was signed with a token and a secret. -/
structure Signed (s : TokenSys) : Prop where
  verified : s.TokensVerified
  checks : ∀ signed ∈ s.checks, signed.token.isSome ∧ signed.tokenSecret.isSome

variable {s : TokenSys} {base64Decode}

theorem tokensVerified_of_unauthorised (h : s.service.authorised = false) : s.TokensVerified := by
  intro ha
  rw [h] at ha
  cases ha

theorem Signed.withManager (hs : Signed s) (manager : FlickrCredentialsManager) :
    Signed { s with manager := manager } := ⟨hs.verified, hs.checks⟩

theorem Signed.withLoads (hs : Signed s) (loads : Nat) :
    Signed { s with service := { s.service with loads := loads } } := ⟨hs.verified, hs.checks⟩

theorem signed_load (hs : Signed s) (owner : LoadOwner) (keys : StoredKeys) :
    Signed (s.load owner keys) := ⟨hs.verified, hs.checks⟩

theorem signed_reloadViews (hs : Signed s) (caps : List String) (nested : List (Nat × StoredKeys)) :
    Signed (s.reloadViews caps nested) := by
  unfold reloadViews
  split_ifs
  · induction nested generalizing s with
    | nil => exact hs
    | cons l nested ih => exact ih (signed_load hs _ _)
  · exact hs

theorem signed_withService (hs : Signed s) (hcareful : Careful s.service service)
    (hchecks : s.service.checks < service.checks →
      s.manager.token.isSome ∧ s.manager.tokenSecret.isSome) : Signed (s.withService service) where
  verified := by
    rcases hcareful with h | ⟨ha, hp, hu⟩
    · exact tokensVerified_of_unauthorised h
    · intro hauthorised
      have hbefore := hs.verified (ha.symm.trans hauthorised)
      show ∃ signed token tokenSecret, s.verified = some signed ∧ signed.token = some token ∧
        signed.tokenSecret = some tokenSecret ∧ Holds service.proxy token tokenSecret ∧
        Holds service.uploadProxy token tokenSecret
      rw [hp, hu]
      exact hbefore
  checks := by
    show ∀ signed ∈ (if s.service.checks < service.checks then
      s.checks ++ [s.manager.toFlickrCredentials] else s.checks), _
    split_ifs with hlt
    · intro signed hsigned
      rcases List.mem_append.1 hsigned with h | h
      · exact hs.checks signed h
      · rw [List.mem_singleton.1 h]
        exact hchecks hlt
    · exact hs.checks

theorem signed_onCredentialsAvailable (hs : Signed s) (isOnline restFails found : Bool)
    (nested : List (Nat × StoredKeys)) :
    Signed (s.onCredentialsAvailable isOnline restFails found nested) := by
  have hmade : ∀ t : TokenSys, Signed t → Signed (t.withService
      (t.service.onCredentialsAvailable t.manager.toFlickrCredentials isOnline
        (checkMode t.manager.toFlickrCredentials restFails) found)) := by
    intro t ht
    obtain ⟨ha, hc⟩ := careful_onCredentialsAvailable t.service t.manager.toFlickrCredentials
      (checkMode t.manager.toFlickrCredentials restFails) isOnline found
    exact signed_withService ht (Or.inl ha) fun hlt => complete_of_checkMode (hc hlt)
  have hreloaded : Signed (if s.service.configured ≠ found then
      s.reloadViews (SwServiceFlickr.dynamicCaps found s.service.authorised) nested else s) := by
    split_ifs
    · exact signed_reloadViews hs _ _
    · exact hs
  have hdone := hmade _ hreloaded
  unfold onCredentialsAvailable
  dsimp only
  by_cases hfound : found = true
  · rw [if_pos hfound]
    exact ⟨hdone.verified, hdone.checks⟩
  · rw [if_neg hfound]
    exact hdone

/-- `_adapt_proxy` does nothing to a proxy that holds the tokens of the manager. -/
theorem adaptProxy_self {garbage : String × String} {proxy : OAuthProxy}
    (ht : creds.token = proxy.token) (hs : creds.tokenSecret = proxy.tokenSecret) :
    adaptProxy creds garbage proxy = proxy := by
  rw [adaptProxy, ht, hs, if_neg]
  simp

theorem signed_onCredentialsLoaded (hs : Signed s) (v : Nat) (found : Bool)
    (garbage : String × String)
    (hkept : s.service.authorised = true → ∀ p, s.views[v]? = some (some s.generation) →
      s.service.proxy = some p → found = true →
      s.manager.token = p.token ∧ s.manager.tokenSecret = p.tokenSecret) :
    Signed (s.onCredentialsLoaded v found garbage) := by
  unfold onCredentialsLoaded
  split_ifs with hfound hview
  · refine ⟨?_, hs.checks⟩
    intro ha
    obtain ⟨signed, token, tokenSecret, hv, ht, hts, ⟨p, hp, hpt, hps⟩, hupload⟩ := hs.verified ha
    obtain ⟨htoken, hsecret⟩ := hkept ha p hview hp hfound
    refine ⟨signed, token, tokenSecret, hv, ht, hts, ⟨p, ?_, hpt, hps⟩, hupload⟩
    show s.service.proxy.map _ = some p
    rw [hp, Option.map_some, adaptProxy_self htoken hsecret]
  · exact hs
  · exact hs

/-- A lookup that finds a token leaves it in the manager. -/
theorem token_of_found {lookup : TokenLookup} {password : Option String}
    (hlookup : lookup ∈ s.manager.requests.calls)
    (hfound : (findOauthKeyCb base64Decode lookup.proxy password).2 = true) :
    (s.manager.step base64Decode (.tokenLookedUp lookup password)).token =
        (findOauthKeyCb base64Decode lookup.proxy password).1.token ∧
      (s.manager.step base64Decode (.tokenLookedUp lookup password)).tokenSecret =
        (findOauthKeyCb base64Decode lookup.proxy password).1.tokenSecret := by
  dsimp only [FlickrCredentialsManager.step, FlickrCredentialsManager.onTokenLookedUp]
  rw [if_pos hlookup, hfound]
  exact ⟨rfl, rfl⟩

/-- `_on_credentials_checked` gives both proxies the pair of the manager. -/
theorem holds_setTokens {proxy : Option OAuthProxy} (hp : proxy.isSome) {token tokenSecret : String}
    (ht : creds.token = some token) (hts : creds.tokenSecret = some tokenSecret) :
    Holds (SwServiceFlickr.setTokens creds proxy) token tokenSecret := by
  obtain ⟨p, rfl⟩ := Option.isSome_iff_exists.1 hp
  exact ⟨_, rfl, ht, hts⟩

theorem signed_onCredentialsChecked (hs : Signed s) {signed : FlickrCredentials}
    (hsigned : signed.token.isSome ∧ signed.tokenSecret.isSome) (credentialsOk : Bool)
    (nested : List (Nat × StoredKeys))
    (hkept : credentialsOk = true → s.manager.token = signed.token ∧
      s.manager.tokenSecret = signed.tokenSecret ∧ s.service.proxy.isSome ∧
      s.service.uploadProxy.isSome) :
    Signed (s.onCredentialsChecked signed credentialsOk nested) := by
  apply signed_reloadViews
  cases credentialsOk with
  | false => exact ⟨tokensVerified_of_unauthorised rfl, hs.checks⟩
  | true =>
    obtain ⟨ht, hts, hp, hu⟩ := hkept rfl
    obtain ⟨token, htoken⟩ := Option.isSome_iff_exists.1 hsigned.1
    obtain ⟨tokenSecret, hsecret⟩ := Option.isSome_iff_exists.1 hsigned.2
    have htoken' := ht.trans htoken
    have hsecret' := hts.trans hsecret
    refine ⟨fun _ => ⟨signed, token, tokenSecret, rfl, htoken, hsecret, ?_, ?_⟩, hs.checks⟩
    · exact holds_setTokens hp htoken' hsecret'
    · exact holds_setTokens hu htoken' hsecret'

/-! ## Runs -/

theorem signed_step (s : TokenSys) (e : TokenEvent) (hs : Signed s)
    (hok : s.PairKept base64Decode e) : Signed (s.step base64Decode e) := by
  cases e with
  | credentialsUpdated keys =>
    obtain ⟨ha, hc⟩ := careful_credentialsUpdated s.service
      (s.manager.load keys).toFlickrCredentials (loadMode keys)
    exact signed_withService (signed_load hs _ _) (Or.inl ha) fun hlt =>
      absurd hlt hc.le.not_gt
  | onlineNotify keys restFails online =>
    dsimp only [step]
    split_ifs with hload
    · obtain ⟨hcareful, hc⟩ := careful_onlineNotify s.service
        (s.manager.load keys).toFlickrCredentials (loadMode keys) online
      refine signed_withService (signed_load hs _ _) hcareful fun hlt => ?_
      rw [(hc hlt).1] at hload
      cases hload
    · obtain ⟨hcareful, hc⟩ := careful_onlineNotify s.service s.manager.toFlickrCredentials
        (checkMode s.manager.toFlickrCredentials restFails) online
      exact signed_withService hs hcareful fun hlt => complete_of_checkMode (hc hlt).2
  | openView => exact ⟨hs.verified, hs.checks⟩
  | viewLoad v keys => exact signed_load hs _ _
  | tokenLookedUp lookup password isOnline restFails nested garbage =>
    dsimp only [step]
    split_ifs with hlookup
    · split
      · exact signed_onCredentialsAvailable ((hs.withManager _).withLoads _) _ _ _ _
      · rename_i v howner
        refine signed_onCredentialsLoaded (hs.withManager _) _ _ _ ?_
        intro ha p hview hp hfound
        obtain ⟨ht, hts⟩ := token_of_found hlookup hfound
        obtain ⟨hpt, hpts⟩ := hok hlookup ha v p howner hview hp hfound
        exact ⟨ht.trans hpt, hts.trans hpts⟩
      · exact hs.withManager _
    · exact hs
  | credentialsChecked i credentialsOk nested =>
    dsimp only [step]
    cases hi : s.checks[i]? with
    | none => exact hs
    | some signed =>
      have herased : Signed { s with checks := s.checks.eraseIdx i } :=
        ⟨hs.verified, fun c hc => hs.checks c (List.mem_of_mem_eraseIdx hc)⟩
      apply signed_onCredentialsChecked herased (hs.checks signed (List.mem_of_getElem? hi))
      intro hgood
      subst hgood
      exact hok signed hi

theorem signed_start (keys : StoredKeys) : Signed (start base64Decode keys) := by
  have hinit : Signed init :=
    ⟨tokensVerified_of_unauthorised rfl, fun signed h => absurd h List.not_mem_nil⟩
  exact signed_step init (.credentialsUpdated keys) hinit trivial

/-- **The tokens in use are the verified ones** along every run whose steps keep the pair. -/
theorem tokensVerified (keys : StoredKeys) {es : List TokenEvent}
    (hok : EveryStep (step base64Decode) (PairKept base64Decode) (start base64Decode keys) es) :
    EveryState (step base64Decode) TokensVerified (start base64Decode keys) es :=
  (everyState_of_everyStep signed_step (signed_start keys) hok).mono fun _ hs => hs.verified

/-- Both keys are in the keystore. -/
def someKeys : StoredKeys := (some "key", some "secret")

/-- The lookup of the load with number `i`. -/
def lookupOf (i : Nat) : TokenLookup := ⟨i, .new (some "key") (some "secret")⟩

/-- The service loads its token and checks it, a view is opened, and its lookup finds the token of
the service. -/
def checkedAlone : List TokenEvent :=
  [.tokenLookedUp (lookupOf 0) (some "token secret") true false [] ("", ""),
    .credentialsChecked 0 true [], .openView, .viewLoad 0 someKeys,
    .tokenLookedUp (lookupOf 1) (some "token secret") true false [] ("", "")]

theorem tokensVerified_checkedAlone :
    EveryState (step id) TokensVerified (start id someKeys) checkedAlone := by
  refine tokensVerified someKeys ⟨?_, ?_, trivial, trivial, ?_, trivial⟩
  · intro _ ha
    cases ha
  · intro signed hsigned
    obtain rfl := Option.some.inj hsigned
    exact ⟨rfl, rfl, rfl, rfl⟩
  · intro _ _ v p _ _ hp _
    obtain rfl := Option.some.inj hp
    exact ⟨rfl, rfl⟩

/-- A view loads the credentials while the check of the service is out. -/
def clearedWhileChecked : List TokenEvent :=
  [.openView, .tokenLookedUp (lookupOf 0) (some "token secret") true false [] ("", ""),
    .viewLoad 0 someKeys, .credentialsChecked 0 true []]

/-- The service is then authorised, and its proxies have no token. -/
theorem clearedWhileChecked_not_verified :
    ¬ ∀ (keys : StoredKeys) (es : List TokenEvent),
      EveryState (step id) TokensVerified (start id keys) es := by
  intro hall
  have hlast := (hall someKeys clearedWhileChecked).last
  have hproxy : (runFrom (step id) (start id someKeys) clearedWhileChecked).service.proxy =
      some (.new (some "key") (some "secret")) := by decide
  obtain ⟨_, _, _, -, -, -, ⟨p, hp, ht, -⟩, -⟩ := hlast (by decide)
  rw [hproxy] at hp
  rw [← Option.some.inj hp] at ht
  cases ht

end TokenSys

end LibSocialWeb
