import LibSocialWeb.Lib.Ledger
import LibSocialWeb.Lib.Run
import LibSocialWeb.Service.CollectionIds
import LibSocialWeb.Service.Signals
import LibSocialWeb.Smugmug.Collections
import Mathlib.Order.Basic

/-!
# The proxies of SmugMug (`services/smugmug/smugmug.c`)

The service looks its tokens up in the keyring whenever it comes online and whenever its credentials
change. `got_tokens_cb` drops the proxies that it has and makes new ones, if tokens were found. If
none were found, `rest_proxy` and `upload_proxy` keep pointing to what was dropped; the next lookup,
`dispose` and every method take them for proxies.

**System.** Proxies are numbered in the order they are made. The ledger has the references of the
service and those of its lookups, each of which holds the proxy that it is for. What librest holds
for its own calls is left out: whoever uses a proxy must hold a reference of his own.

**Main result.** `proxiesOwned_iff`: along a run, both fields are NULL or owned, no reference is
released twice and no proxy is used after it, exactly when no lookup fails while there are proxies.
-/

namespace LibSocialWeb

namespace Smugmug

open Transition

def OAUTH_URL : String := "http://api.smugmug.com/services/oauth/"

def REST_URL : String := "https://secure.smugmug.com/services/api/rest/1.2.2/"

def UPLOAD_URL : String := "http://upload.smugmug.com/photos/xmladd.mg"

/-- Who holds a reference. -/
inductive Holder where
  | service
  | lookup
  deriving DecidableEq, Repr

structure SmugmugService where
  apiKey : Option String
  apiSecret : Option String
  restProxy : Option Nat
  uploadProxy : Option Nat
  authProxy : Option Nat
  configured : Bool
  authorized : Bool
  inited : Bool
  /-- All proxies that were made, with their URL. -/
  proxies : List (String × OAuthProxy)
  /-- The lookups in the keyring that are to be answered, by the proxy that they are for. -/
  lookups : List (Option Nat)
  references : Ledger (Holder × Nat)
  emitted : List ServiceSignal

inductive SmugmugEvent where
  | initable (apiKey apiSecret : Option String)
  /-- The keyring answers a lookup for a proxy, with a token and its secret. -/
  | tokensLookedUp (proxy : Option Nat) (tokens : Option (String × String))
  | accessTokenChecked (call : RestProxyCall XmlNode)
  | onlineNotify (online : Bool)
  | credentialsUpdated
  | collections (method : CollectionsMethod)
  | upload (request : UploadRequest)
  | dispose

def uploadParams : List (String × String) :=
  [("title", "Caption"), ("x-smugmug-hidden", "Hidden"), ("x-smugmug-altitude", "Altitude"),
    ("x-smugmug-latitude", "Latitude"), ("x-smugmug-longitude", "Longitude"),
    ("x-smugmug-keywords", "Keywords")]

/-- `_upload_file`, with the checksum of the contents -/
def uploadFile (md5 : List UInt8 → String) (uploadProxy : Option Nat) (request : UploadRequest) :
    UploadBegan :=
  if uploadProxy = none then .returned none
  else
    match request.contents with
    | .error message => .returned (some message)
    | .ok contents =>
      match request.fields.lookup "collection" with
      | none => .failed "must provide a collection ID"
      | some collectionId =>
        if !hasPrefix collectionId ALBUM_PREFIX || '_' ∉ collectionId.toList then
          .failed ("collection (" ++ collectionId ++ ") must be in the format: " ++ ALBUM_PREFIX ++
            "albumkey_albumid")
        else
          .sent ⟨none,
            [("MD5Sum", some (md5 contents)), ("ResponseType", some "REST"),
              -- The format is "%lud".
              ("ByteCount", some (toString contents.length ++ "d")),
              ("AlbumID", some (String.ofList (collectionId.toList.dropWhile (· ≠ '_')).tail))] ++
            mapParams uploadParams request.fields, true⟩ contents

/-! ## References -/

abbrev References := Ledger (Holder × Nat)

/-- `g_object_ref`; NULL stays NULL. -/
def refProxy (holder : Holder) (proxy : Option Nat) (references : References) : References :=
  proxy.elim references fun proxy => references.take (holder, proxy)

/-- `g_object_unref` -/
def unrefProxy (holder : Holder) (proxy : Option Nat) (references : References) : References :=
  proxy.elim references fun proxy => references.release (holder, proxy)

/-- A function of librest or of GObject is called on a proxy. With NULL it returns. -/
def useProxy (holder : Holder) (proxy : Option Nat) (references : References) : References :=
  proxy.elim references fun proxy => references.use (holder, proxy)

namespace SmugmugService

def init : SmugmugService where
  apiKey := none
  apiSecret := none
  restProxy := none
  uploadProxy := none
  authProxy := none
  configured := false
  authorized := false
  inited := false
  proxies := []
  lookups := []
  references := .empty
  emitted := []

variable (s : SmugmugService)

/-! ## The service -/

def getDynamicCaps : List String :=
  if s.authorized then [IS_CONFIGURED, CREDENTIALS_VALID]
  else if s.configured then [IS_CONFIGURED]
  else []

/-- `sw_service_emit_capabilities_changed` with the dynamic capabilities -/
def emitCapabilitiesChanged : SmugmugService :=
  { s with emitted := s.emitted ++ [.capabilitiesChanged s.getDynamicCaps] }

/-- A proxy is made for the service. -/
def newProxy (url : String) (proxy : OAuthProxy) : SmugmugService :=
  { s with
    proxies := s.proxies ++ [(url, proxy)]
    references := s.references.take (.service, s.proxies.length) }

/-- The proxies that `got_tokens_cb` makes, and the call that checks the tokens. -/
def newProxies (token tokenSecret : Option String) : SmugmugService :=
  let proxy : OAuthProxy := ⟨s.apiKey, s.apiSecret, token, tokenSecret⟩
  let s := { s.newProxy REST_URL proxy with restProxy := some s.proxies.length }
  let s := { s.newProxy UPLOAD_URL proxy with uploadProxy := some s.proxies.length }
  { s with references := useProxy .service s.restProxy s.references }

/-- `got_tokens_cb` -/
def gotTokensCb (proxy : Option Nat) (gotTokens : Bool) : SmugmugService :=
  let s := { s with configured := gotTokens }
  let s := { s with references := unrefProxy .service s.restProxy s.references }
  let s := { s with references := unrefProxy .service s.uploadProxy s.references }
  let s :=
    if gotTokens then
      let s := { s with references := useProxy .lookup proxy s.references }
      let tokens := (proxy.bind (s.proxies[·]?)).map (·.2)
      s.newProxies (tokens.bind (·.token)) (tokens.bind (·.tokenSecret))
    else s
  s.emitCapabilitiesChanged

/-- `oauth_proxy_set_token` and `oauth_proxy_set_token_secret` -/
def setToken (proxy : Option Nat) (token tokenSecret : String) : SmugmugService :=
  { s with
    proxies := proxy.elim s.proxies (s.proxies.modify · fun (url, p) =>
      (url, { p with token := some token, tokenSecret := some tokenSecret }))
    references := useProxy .lookup proxy s.references }

/-- `find_oauth_key_cb`, and the release of its data -/
def findOauthKeyCb (proxy : Option Nat) (tokens : Option (String × String)) : SmugmugService :=
  let s :=
    match tokens with
    | some (token, tokenSecret) => (s.setToken proxy token tokenSecret).gotTokensCb proxy true
    | none => s.gotTokensCb proxy false
  { s with
    lookups := s.lookups.erase proxy
    references := unrefProxy .lookup proxy s.references }

/-- `sw_keyfob_oauth` -/
def keyfobOauth (proxy : Option Nat) : SmugmugService :=
  { s with
    lookups := proxy :: s.lookups
    references := refProxy .lookup proxy (useProxy .service proxy s.references) }

/-- `online_notify` -/
def onlineNotify (online : Bool) : SmugmugService :=
  if online then s.keyfobOauth s.authProxy
  else { s with authorized := false }.emitCapabilitiesChanged

/-- `refresh_credentials` -/
def refreshCredentials : SmugmugService :=
  let s := { s with configured := false, emitted := s.emitted ++ [ServiceSignal.userChanged] }
  (s.onlineNotify false).onlineNotify true

/-- `sw_service_smugmug_initable` -/
def initable (apiKey apiSecret : Option String) : SmugmugService :=
  if s.inited then s
  else
    let s := { s with apiKey := apiKey, apiSecret := apiSecret }
    if apiKey = none ∨ apiSecret = none then s
    else
      let s := { s with inited := true }
      let s := { s.newProxy OAUTH_URL (.new apiKey apiSecret) with
        authProxy := some s.proxies.length }
      s.refreshCredentials

/-- `_check_access_token_cb` -/
def checkAccessTokenCb (call : RestProxyCall XmlNode) : SmugmugService :=
  { s with authorized := (nodeFromCall call).isOk }.emitCapabilitiesChanged

/-- `sw_service_smugmug_dispose` -/
def dispose : SmugmugService :=
  let s := { s with
    references := unrefProxy .service s.authProxy s.references
    authProxy := none }
  let s := { s with
    references := unrefProxy .service s.restProxy s.references
    restProxy := none }
  { s with
    references := unrefProxy .service s.uploadProxy s.references
    uploadProxy := none }

/-- What `rest_proxy` is to the methods of the collections. -/
def restProxyPointer : RestProxyPointer :=
  match s.restProxy with
  | none => .null
  | some proxy => if s.references.Holds (.service, proxy) then .live else .released

/-- A method that goes as far as `rest_proxy_new_call` uses the proxy. -/
def collections (method : CollectionsMethod) : SmugmugService :=
  match Smugmug.collections s.restProxyPointer method with
  | .called _ _ | .over none =>
    { s with references := useProxy .service s.restProxy s.references }
  | .over (some _) => s

/-- `_upload_file` uses the proxy as soon as the file is open. -/
def upload (md5 : List UInt8 → String) (request : UploadRequest) : SmugmugService :=
  match uploadFile md5 s.uploadProxy request with
  | .returned _ => s
  | .failed _ | .sent _ _ =>
    { s with references := useProxy .service s.uploadProxy s.references }

def step (md5 : List UInt8 → String) (s : SmugmugService) : SmugmugEvent → SmugmugService
  | .initable apiKey apiSecret => s.initable apiKey apiSecret
  | .tokensLookedUp proxy tokens => if proxy ∈ s.lookups then s.findOauthKeyCb proxy tokens else s
  | .accessTokenChecked call => s.checkAccessTokenCb call
  | .onlineNotify online => s.onlineNotify online
  | .credentialsUpdated => s.refreshCredentials
  | .collections method => s.collections method
  | .upload request => s.upload md5 request
  | .dispose => s.dispose

/-! ## The property and the condition -/

/-- Each of the two proxies is NULL or one that the service holds, and the references were sound. -/
structure ProxiesOwned (s : SmugmugService) : Prop where
  rest : ∀ proxy, s.restProxy = some proxy → s.references.Holds (.service, proxy)
  upload : ∀ proxy, s.uploadProxy = some proxy → s.references.Holds (.service, proxy)
  sound : s.references.Sound

/-- No lookup fails while there are proxies. -/
def FailsWithoutProxies (s : SmugmugService) : SmugmugEvent → Prop
  | .tokensLookedUp proxy none => proxy ∈ s.lookups → s.restProxy = none ∧ s.uploadProxy = none
  | _ => True

/-! ## The references that are accounted for -/

section References

open Ledger

variable {l : References} {ps : List (Holder × Nat)} {holder : Holder} {proxy : Option Nat}

theorem accounts_refProxy (h : Accounts l ps) :
    Accounts (refProxy holder proxy l) (proxy.toList.map (holder, ·) ++ ps) := by
  cases proxy with
  | none => exact h
  | some o => exact accounts_take h _

theorem accounts_unrefProxy (h : Accounts l (proxy.toList.map (holder, ·) ++ ps)) :
    Accounts (unrefProxy holder proxy l) ps := by
  cases proxy with
  | none => exact h
  | some o => exact accounts_release h

theorem accounts_useProxy (h : Accounts l ps) (hmem : ∀ o, proxy = some o → (holder, o) ∈ ps) :
    Accounts (useProxy holder proxy l) ps := by
  cases proxy with
  | none => exact h
  | some o => exact accounts_use h (hmem o rfl)

end References

/-! ## The invariant -/

/-- The proxies in the fields of the service. -/
def fields : List Nat := s.restProxy.toList ++ s.uploadProxy.toList ++ s.authProxy.toList

/-- The references of the lookups. -/
def lookupRefs (lookups : List (Option Nat)) : List (Holder × Nat) :=
  lookups.flatMap fun proxy => proxy.toList.map (.lookup, ·)

/-- The service owns the proxies `ps`, each lookup its own, and there are no other references. -/
structure Owns (s : SmugmugService) (ps : List Nat) : Prop where
  accounts : s.references.Accounts (ps.map (.service, ·) ++ lookupRefs s.lookups)
  nodup : ps.Nodup
  made : ∀ o ∈ ps, o < s.proxies.length

/-- The service owns what is in its fields. -/
structure Owned (s : SmugmugService) : Prop where
  owns : s.Owns s.fields
  inited : s.inited = false → s.authProxy = none

variable {s}

theorem owned_init : Owned init :=
  ⟨⟨Ledger.accounts_empty, List.nodup_nil, List.forall_mem_nil _⟩, fun _ => rfl⟩

theorem notMem_lookupRefs (o : Nat) (lookups : List (Option Nat)) :
    (Holder.service, o) ∉ lookupRefs lookups := by
  intro hmem
  obtain ⟨proxy, -, hproxy⟩ := List.mem_flatMap.1 hmem
  obtain ⟨o', -, heq⟩ := List.mem_map.1 hproxy
  cases heq

theorem Owns.holds_iff {ps : List Nat} (h : s.Owns ps) {o : Nat} :
    s.references.Holds (.service, o) ↔ o ∈ ps := by
  rw [h.accounts.holds_iff, List.mem_append, or_iff_left (notMem_lookupRefs o _)]
  exact List.mem_map_of_injective fun _ _ heq => (Prod.mk.inj heq).2

theorem mem_fields_rest {o : Nat} (h : s.restProxy = some o) : o ∈ s.fields :=
  List.mem_append_left _ (List.mem_append_left _ (Option.mem_toList.2 h))

theorem mem_fields_upload {o : Nat} (h : s.uploadProxy = some o) : o ∈ s.fields :=
  List.mem_append_left _ (List.mem_append_right _ (Option.mem_toList.2 h))

theorem mem_fields_auth {o : Nat} (h : s.authProxy = some o) : o ∈ s.fields :=
  List.mem_append_right _ (Option.mem_toList.2 h)

theorem Owned.proxiesOwned (h : Owned s) : ProxiesOwned s where
  rest _ ho := h.owns.holds_iff.2 (mem_fields_rest ho)
  upload _ ho := h.owns.holds_iff.2 (mem_fields_upload ho)
  sound := h.owns.accounts.sound

/-- The methods of the collections then find a proxy that is alive, or none. -/
theorem ProxiesOwned.restProxyPointer_ne (h : ProxiesOwned s) : s.restProxyPointer ≠ .released := by
  unfold restProxyPointer
  cases hrest : s.restProxy with
  | none => exact nofun
  | some o =>
    dsimp only
    rw [if_pos (h.rest o hrest)]
    exact nofun

section Owns

variable {ps qs : List Nat} {proxy : Option Nat}

theorem Owns.perm (h : s.Owns ps) (hperm : ps.Perm qs) : s.Owns qs where
  accounts := h.accounts.perm ((hperm.map _).append_right _)
  nodup := hperm.nodup_iff.1 h.nodup
  made o ho := h.made o (hperm.mem_iff.2 ho)

/-- A proxy of the service is used. -/
theorem Owns.use (h : s.Owns ps) (hmem : ∀ o, proxy = some o → o ∈ ps) :
    Owns { s with references := useProxy .service proxy s.references } ps where
  accounts := accounts_useProxy h.accounts fun o ho =>
    List.mem_append_left _ (List.mem_map_of_mem (hmem o ho))
  nodup := h.nodup
  made := h.made

theorem Owns.use_held {o : Nat} (h : s.Owns ps) (ho : o ∈ ps) :
    Owns { s with references := useProxy .service (some o) s.references } ps := by
  refine h.use ?_
  rintro _ ⟨⟩
  exact ho

/-- The proxy of a lookup is used. -/
theorem Owns.use_lookup (h : s.Owns ps) (hmem : proxy ∈ s.lookups) :
    Owns { s with references := useProxy .lookup proxy s.references } ps where
  accounts := by
    refine accounts_useProxy h.accounts fun o ho => List.mem_append_right _ ?_
    subst ho
    exact List.mem_flatMap.2 ⟨some o, hmem, List.mem_singleton.2 rfl⟩
  nodup := h.nodup
  made := h.made

theorem Owns.unref (h : s.Owns (proxy.toList ++ ps)) :
    Owns { s with references := unrefProxy .service proxy s.references } ps where
  accounts := by
    refine accounts_unrefProxy ?_
    have haccounts := h.accounts
    rw [List.map_append, List.append_assoc] at haccounts
    exact haccounts
  nodup := (List.nodup_append.1 h.nodup).2.1
  made o ho := h.made o (List.mem_append_right _ ho)

theorem Owns.newProxy (h : s.Owns ps) (url : String) (p : OAuthProxy) :
    (s.newProxy url p).Owns (s.proxies.length :: ps) where
  accounts := Ledger.accounts_take h.accounts _
  nodup := List.nodup_cons.2 ⟨fun ho => Nat.lt_irrefl _ (h.made _ ho), h.nodup⟩
  made := by
    intro o ho
    show o < (s.proxies ++ [(url, p)]).length
    rw [List.length_append]
    rcases List.mem_cons.1 ho with rfl | ho
    · exact Nat.lt_succ_self _
    · exact Nat.lt_succ_of_lt (h.made o ho)

/-- A lookup begins, and takes a reference of its own. -/
theorem Owns.keyfobOauth (h : s.Owns ps) (hmem : ∀ o, proxy = some o → o ∈ ps) :
    (s.keyfobOauth proxy).Owns ps where
  accounts :=
    (accounts_refProxy (h.use hmem).accounts).perm (List.perm_append_comm_assoc _ _ _)
  nodup := h.nodup
  made := h.made

/-- A lookup is over, and its reference is released. -/
theorem Owns.answered (h : s.Owns ps) (hmem : proxy ∈ s.lookups) :
    Owns { s with
      lookups := s.lookups.erase proxy
      references := unrefProxy .lookup proxy s.references } ps where
  accounts := by
    refine accounts_unrefProxy (h.accounts.perm ?_)
    have hperm : (lookupRefs s.lookups).Perm
        (proxy.toList.map (.lookup, ·) ++ lookupRefs (s.lookups.erase proxy)) :=
      (List.perm_cons_erase hmem).flatMap_right _
    exact (hperm.append_left _).trans (List.perm_append_comm_assoc _ _ _)
  nodup := h.nodup
  made := h.made

end Owns

/-! ## Lookups begin -/

theorem owned_emitCapabilitiesChanged (h : Owned s) : Owned s.emitCapabilitiesChanged :=
  ⟨⟨h.owns.accounts, h.owns.nodup, h.owns.made⟩, h.inited⟩

theorem owned_onlineNotify (h : Owned s) (online : Bool) : Owned (s.onlineNotify online) := by
  cases online with
  | true => exact ⟨h.owns.keyfobOauth fun o ho => mem_fields_auth ho, h.inited⟩
  | false => exact ⟨⟨h.owns.accounts, h.owns.nodup, h.owns.made⟩, h.inited⟩

theorem owned_refreshCredentials (h : Owned s) : Owned s.refreshCredentials := by
  have hcleared : Owned { s with
      configured := false, emitted := s.emitted ++ [ServiceSignal.userChanged] } :=
    ⟨⟨h.owns.accounts, h.owns.nodup, h.owns.made⟩, h.inited⟩
  exact owned_onlineNotify (owned_onlineNotify hcleared false) true

theorem owned_initable (h : Owned s) (apiKey apiSecret : Option String) :
    Owned (s.initable apiKey apiSecret) := by
  unfold initable
  by_cases hinited : s.inited = true
  · rw [if_pos hinited]
    exact h
  · rw [if_neg hinited]
    dsimp only
    split_ifs with hkeys
    · exact ⟨⟨h.owns.accounts, h.owns.nodup, h.owns.made⟩, h.inited⟩
    · have hauth : s.authProxy = none := h.inited (Bool.eq_false_iff.2 hinited)
      have hfields : s.fields = s.restProxy.toList ++ s.uploadProxy.toList := by
        rw [fields, hauth]
        exact List.append_nil _
      have hnew := h.owns.newProxy OAUTH_URL (.new apiKey apiSecret)
      have hperm := hnew.perm (List.perm_append_singleton _ _).symm
      rw [hfields] at hperm
      exact owned_refreshCredentials
        ⟨⟨hperm.accounts, hperm.nodup, hperm.made⟩, fun hfalse => by cases hfalse⟩

/-! ## Lookups end -/

/-- What `got_tokens_cb` does before it looks at the result. -/
theorem Owned.dropped (h : Owned s) :
    Owns { s with
      references := unrefProxy .service s.uploadProxy
        (unrefProxy .service s.restProxy s.references) } s.authProxy.toList := by
  have howns : s.Owns (s.restProxy.toList ++ (s.uploadProxy.toList ++ s.authProxy.toList)) :=
    (List.append_assoc _ _ _) ▸ h.owns
  have hrest := howns.unref
  exact hrest.unref

/-- `got_tokens_cb` makes two proxies in place of those that it dropped. -/
theorem owned_newProxies (h : s.Owns s.authProxy.toList) (hinited : s.inited = false →
    s.authProxy = none) (token tokenSecret : Option String) :
    Owned (s.newProxies token tokenSecret) := by
  have hmade := (h.newProxy REST_URL ⟨s.apiKey, s.apiSecret, token, tokenSecret⟩).newProxy
    UPLOAD_URL ⟨s.apiKey, s.apiSecret, token, tokenSecret⟩
  have hfields := hmade.perm (List.Perm.swap _ _ _)
  have hused := hfields.use_held List.mem_cons_self
  exact ⟨⟨hused.accounts, hused.nodup, hused.made⟩, hinited⟩

theorem owned_gotTokensCb_true (h : Owned s) {proxy : Option Nat} (hmem : proxy ∈ s.lookups) :
    Owned (s.gotTokensCb proxy true) := by
  have hused := h.dropped.use_lookup hmem
  refine owned_emitCapabilitiesChanged (owned_newProxies ?_ ?_ _ _)
  · exact ⟨hused.accounts, hused.nodup, hused.made⟩
  · exact h.inited

theorem owned_setToken (h : Owned s) {proxy : Option Nat} (hmem : proxy ∈ s.lookups)
    (token tokenSecret : String) : Owned (s.setToken proxy token tokenSecret) := by
  have hlength : (s.setToken proxy token tokenSecret).proxies.length = s.proxies.length := by
    cases proxy with
    | none => rfl
    | some o => exact List.length_modify _ _ _
  have hused := h.owns.use_lookup hmem
  exact ⟨⟨hused.accounts, hused.nodup, fun o ho => (hused.made o ho).trans_eq hlength.symm⟩,
    h.inited⟩

/-- Without tokens and without proxies, `got_tokens_cb` leaves the references alone. -/
theorem owned_gotTokensCb_false (h : Owned s) (proxy : Option Nat) (hrest : s.restProxy = none)
    (hupload : s.uploadProxy = none) : Owned (s.gotTokensCb proxy false) := by
  have hsame : unrefProxy .service s.uploadProxy (unrefProxy .service s.restProxy s.references) =
      s.references := by
    rw [hrest, hupload]
    rfl
  refine owned_emitCapabilitiesChanged ⟨⟨?_, h.owns.nodup, h.owns.made⟩, h.inited⟩
  show (unrefProxy .service s.uploadProxy (unrefProxy .service s.restProxy s.references)).Accounts _
  rw [hsame]
  exact h.owns.accounts

theorem lookups_gotTokensCb (s : SmugmugService) (proxy : Option Nat) (gotTokens : Bool) :
    (s.gotTokensCb proxy gotTokens).lookups = s.lookups := by
  cases gotTokens <;> rfl

/-- The lookup is over after the callback. -/
theorem Owned.answered (h : Owned s) {proxy : Option Nat} (hmem : proxy ∈ s.lookups) :
    Owned { s with
      lookups := s.lookups.erase proxy
      references := unrefProxy .lookup proxy s.references } :=
  ⟨h.owns.answered hmem, h.inited⟩

theorem owned_findOauthKeyCb (h : Owned s) {proxy : Option Nat} {tokens : Option (String × String)}
    (hmem : proxy ∈ s.lookups) (hok : s.FailsWithoutProxies (.tokensLookedUp proxy tokens)) :
    Owned (s.findOauthKeyCb proxy tokens) := by
  cases tokens with
  | some tokens =>
    have hset := owned_setToken h hmem tokens.1 tokens.2
    have hlookup :
        proxy ∈ ((s.setToken proxy tokens.1 tokens.2).gotTokensCb proxy true).lookups := by
      rw [lookups_gotTokensCb]
      exact hmem
    exact (owned_gotTokensCb_true hset hmem).answered hlookup
  | none =>
    obtain ⟨hrest, hupload⟩ := hok hmem
    have hlookup : proxy ∈ (s.gotTokensCb proxy false).lookups := by
      rw [lookups_gotTokensCb]
      exact hmem
    exact (owned_gotTokensCb_false h proxy hrest hupload).answered hlookup

/-- A lookup that fails while there is a proxy leaves the field with what was released. -/
theorem fails_of_proxiesOwned (h : Owned s) {proxy : Option Nat} (hmem : proxy ∈ s.lookups)
    (hafter : ProxiesOwned (s.findOauthKeyCb proxy none)) :
    s.restProxy = none ∧ s.uploadProxy = none := by
  have howns : Owns (s.findOauthKeyCb proxy none) s.authProxy.toList := by
    have hdone := h.dropped.answered hmem
    exact ⟨hdone.accounts, hdone.nodup, hdone.made⟩
  have hdisjoint := (List.nodup_append.1 h.owns.nodup).2.2
  refine ⟨?_, ?_⟩
  · cases hrest : s.restProxy with
    | none => rfl
    | some o =>
      have hauth : o ∈ s.authProxy.toList := howns.holds_iff.1 (hafter.rest o hrest)
      refine absurd rfl (hdisjoint o (List.mem_append_left _ ?_) o hauth)
      exact Option.mem_toList.2 hrest
  · cases hupload : s.uploadProxy with
    | none => rfl
    | some o =>
      have hauth : o ∈ s.authProxy.toList := howns.holds_iff.1 (hafter.upload o hupload)
      refine absurd rfl (hdisjoint o (List.mem_append_right _ ?_) o hauth)
      exact Option.mem_toList.2 hupload

/-! ## The other steps -/

theorem owned_dispose (h : Owned s) : Owned s.dispose := by
  have hauth : s.Owns (s.authProxy.toList ++ (s.restProxy.toList ++ s.uploadProxy.toList)) :=
    h.owns.perm List.perm_append_comm
  have hnone := (List.append_nil s.uploadProxy.toList).symm ▸ hauth.unref.unref
  have hdone := hnone.unref
  exact ⟨⟨hdone.accounts, hdone.nodup, hdone.made⟩, fun _ => rfl⟩

theorem owned_collections (h : Owned s) (method : CollectionsMethod) :
    Owned (s.collections method) := by
  have hused := h.owns.use fun o ho => mem_fields_rest ho
  unfold collections
  split
  · exact ⟨⟨hused.accounts, hused.nodup, hused.made⟩, h.inited⟩
  · exact ⟨⟨hused.accounts, hused.nodup, hused.made⟩, h.inited⟩
  · exact h

theorem owned_upload (h : Owned s) (md5 : List UInt8 → String) (request : UploadRequest) :
    Owned (s.upload md5 request) := by
  have hused := h.owns.use fun o ho => mem_fields_upload ho
  unfold upload
  split
  · exact h
  · exact ⟨⟨hused.accounts, hused.nodup, hused.made⟩, h.inited⟩
  · exact ⟨⟨hused.accounts, hused.nodup, hused.made⟩, h.inited⟩

/-! ## Runs -/

theorem owned_step (md5 : List UInt8 → String) (h : Owned s) {e : SmugmugEvent}
    (hok : s.FailsWithoutProxies e) : Owned (s.step md5 e) := by
  cases e with
  | initable apiKey apiSecret => exact owned_initable h apiKey apiSecret
  | tokensLookedUp proxy tokens =>
    show Owned (if proxy ∈ s.lookups then s.findOauthKeyCb proxy tokens else s)
    split_ifs with hmem
    · exact owned_findOauthKeyCb h hmem hok
    · exact h
  | accessTokenChecked call =>
    exact owned_emitCapabilitiesChanged ⟨⟨h.owns.accounts, h.owns.nodup, h.owns.made⟩, h.inited⟩
  | onlineNotify online => exact owned_onlineNotify h online
  | credentialsUpdated => exact owned_refreshCredentials h
  | collections method => exact owned_collections h method
  | upload request => exact owned_upload h md5 request
  | dispose => exact owned_dispose h

theorem failsWithoutProxies_of_step (md5 : List UInt8 → String) (h : Owned s) {e : SmugmugEvent}
    (hafter : ProxiesOwned (s.step md5 e)) : s.FailsWithoutProxies e := by
  cases e with
  | tokensLookedUp proxy tokens =>
    cases tokens with
    | some tokens => trivial
    | none =>
      intro hmem
      have hstep : s.step md5 (.tokensLookedUp proxy none) = s.findOauthKeyCb proxy none :=
        if_pos hmem
      exact fails_of_proxiesOwned h hmem (hstep ▸ hafter)
  | _ => trivial

/-- **The proxies are owned along a run** exactly when no lookup fails while there are proxies. -/
theorem proxiesOwned_iff (md5 : List UInt8 → String) (es : List SmugmugEvent) :
    EveryState (step md5) ProxiesOwned init es ↔ EveryStep (step md5) FailsWithoutProxies init es :=
  everyState_iff_everyStep (fun _ => Owned.proxiesOwned) (fun _ _ h hok => owned_step md5 h hok)
    (fun _ _ h hafter => failsWithoutProxies_of_step md5 h hafter) owned_init

/-- The tokens are found, and are not found the next time the service comes online. -/
theorem not_proxiesOwned_tokensLost :
    ¬ ∀ (md5 : List UInt8 → String) (es : List SmugmugEvent),
      EveryState (step md5) ProxiesOwned init es := by
  intro hall
  have hrun := hall (fun _ => "") [.initable (some "key") (some "secret"),
    .tokensLookedUp (some 0) (some ("token", "token secret")), .onlineNotify true,
    .tokensLookedUp (some 0) none]
  exact absurd (hrun.2.2.2.2.rest 1 rfl) (by decide)

end SmugmugService

end Smugmug

end LibSocialWeb
