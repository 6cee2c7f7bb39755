import LibSocialWeb.Flickr.Credentials
import LibSocialWeb.Lib.Run

/-!
# Credentials from GNOME Online Accounts (`services/flickr/flickr-credentials-manager-goa.c`)

A load asks the object manager of GNOME Online Accounts for its objects, takes the consumer keys
from the first Flickr account among them, and asks this account for an access token. The closure of
the load is handed on from the first D-Bus call to the second.

**D-Bus.** A call in flight belongs to a closure; it gets one reply, in any order. Whether a proxy
can be made is up to the bus, so it is part of the event. A property has a value of any type, and
`g_variant_get_string` gives NULL for one that is no string.

**Tags.** A string read from an account object is stored with the path of the object. The path is
for the contract only, no code reads it.
-/

namespace LibSocialWeb

open InFlight

/-! ## What comes over the bus -/

/-- The value of a property: a string, or something else. -/
inductive GVariant where
  | string (s : String)
  | other
  deriving DecidableEq, Repr

/-- `g_variant_get_string` -/
def GVariant.getString : GVariant → Option String
  | string s => some s
  | other => none

/-- An entry of the reply to `GetManagedObjects`: the properties of each interface of an object. -/
structure ManagedObject where
  path : String
  interfaces : List (String × List (String × GVariant))
  deriving DecidableEq, Repr

/-- Whether the loop of `on_managed_objects` stops at the object. -/
def ManagedObject.isFlickr (object : ManagedObject) : Bool :=
  match object.interfaces.lookup "org.gnome.OnlineAccounts.Account" with
  | none => false
  | some account =>
    match account.lookup "ProviderType" with
    | none => false
    | some providerType => providerType.getString == some "flickr"

structure GDBusProxy where
  objectPath : String
  deriving DecidableEq, Repr

inductive DBusCall where
  | getManagedObjects (closure : Nat)
  | getAccessToken (closure : Nat) (proxy : GDBusProxy)
  deriving DecidableEq, Repr

/-- The closure that a call was made for. -/
def DBusCall.closure : DBusCall → Nat
  | getManagedObjects closure => closure
  | getAccessToken closure _ => closure

/-! ## The manager -/

/-- A string read from the account object at path `account`. -/
structure AccountString where
  text : String
  account : String
  deriving DecidableEq, Repr

/-- The fields that `clear` resets. -/
structure AccountData where
  objectPath : Option String
  consumerKey : Option AccountString
  consumerSecret : Option AccountString
  token : Option AccountString
  tokenSecret : Option AccountString
  deriving DecidableEq, Repr

structure FlickrCredentialsManagerGOA extends AccountData where
  connection : Bool
  requests : Requests DBusCall (LoadAction AccountData)
  deriving DecidableEq, Repr

inductive GoaEvent where
  | load (bus mgrProxy : Bool)
  | managedObjects (closure : Nat) (resultData : Option (List ManagedObject)) (proxy : Bool)
  | accessToken (closure : Nat) (proxy : GDBusProxy) (data : Option (GVariant × GVariant))

namespace FlickrCredentialsManagerGOA

/-- `flickr_credentials_mgr_goa_instance_init` -/
def init : FlickrCredentialsManagerGOA := ⟨⟨none, none, none, none, none⟩, false, .none⟩

variable (self : FlickrCredentialsManagerGOA)

/-- `flickr_credentials_mgr_goa_init_dbus` -/
def initDbus (bus : Bool) : FlickrCredentialsManagerGOA := { self with connection := bus }

/-- `flickr_credentials_mgr_goa_clear` -/
def clear : FlickrCredentialsManagerGOA :=
  { self with toAccountData := ⟨none, none, none, none, none⟩ }

/-- `flickr_credentials_mgr_goa_create_proxy_sync`: NULL without a connection or a path. -/
def createProxySync (objectPath : Option String) (made : Bool) : Option GDBusProxy :=
  if self.connection && made then objectPath.map .mk else none

/-- Call the callback of a load. -/
def callback (closure : Nat) (available : Bool) (error : Option GError) :
    FlickrCredentialsManagerGOA :=
  { self with
    requests := self.requests.note closure (.callback available error self.toAccountData) }

/-- `flickr_credentials_load_closure_free` -/
def freeClosure (closure : Nat) : FlickrCredentialsManagerGOA :=
  { self with requests := self.requests.note closure .free }

/-- `g_dbus_proxy_call` -/
def call (c : DBusCall) : FlickrCredentialsManagerGOA :=
  { self with requests := self.requests.send c }

/-- `flickr_credentials_mgr_goa_find_account` -/
def findAccount (bus mgrProxy : Bool) (closure : Nat) : FlickrCredentialsManagerGOA :=
  let self := if self.connection then self else self.initDbus bus
  match self.createProxySync (some "/org/gnome/OnlineAccounts") mgrProxy with
  | some _ => self.call (.getManagedObjects closure)
  | none => self.callback closure false none

/-- `flickr_credentials_mgr_goa_load_im` -/
def load (bus mgrProxy : Bool) : FlickrCredentialsManagerGOA :=
  let closure := self.requests.made
  let self := { self with requests := self.requests.new }
  self.clear.findAccount bus mgrProxy closure

/-- The error of `flickr_credentials_mgr_goa_get_access_data`. -/
def noAccess : GError := ⟨.failure, ": access token cannot be read"⟩

/-- `flickr_credentials_mgr_goa_get_access_data`, with the error it sets. -/
def getAccessData (object : ManagedObject) (closure : Nat) (made : Bool) :
    FlickrCredentialsManagerGOA × Option GError :=
  match object.interfaces.lookup "org.gnome.OnlineAccounts.OAuthBased" with
  | none => (self, some noAccess)
  | some oauth =>
    match oauth.lookup "ConsumerKey" with
    | none => (self, some noAccess)
    | some consumerKey =>
      match oauth.lookup "ConsumerSecret" with
      | none => (self, some noAccess)
      | some consumerSecret =>
        let self := { self with
          consumerKey := consumerKey.getString.map (⟨·, object.path⟩)
          consumerSecret := consumerSecret.getString.map (⟨·, object.path⟩) }
        match self.createProxySync self.objectPath made with
        | none => (self, some noAccess)
        | some proxy => (self.call (.getAccessToken closure proxy), none)

/-- `flickr_credentials_mgr_goa_on_managed_objects`. The loop ends at the first Flickr account. -/
def onManagedObjects (closure : Nat) (resultData : Option (List ManagedObject)) (made : Bool) :
    FlickrCredentialsManagerGOA :=
  match resultData with
  | none => (self.callback closure false none).freeClosure closure
  | some content =>
    match content.find? ManagedObject.isFlickr with
    -- no error occurred, and there is no call either
    | none => self
    | some object =>
      match { self with objectPath := some object.path }.getAccessData object closure made with
      | (self, some error) => (self.callback closure false (some error)).freeClosure closure
      | (self, none) => self

/-- `flickr_credentials_mgr_goa_on_access_token` -/
def onAccessToken (closure : Nat) (proxy : GDBusProxy) (data : Option (GVariant × GVariant)) :
    FlickrCredentialsManagerGOA :=
  let self :=
    match data with
    | none => self
    | some (token, tokenSecret) =>
      { self with
        token := token.getString.map (⟨·, proxy.objectPath⟩)
        tokenSecret := tokenSecret.getString.map (⟨·, proxy.objectPath⟩) }
  (self.callback closure data.isSome none).freeClosure closure

/-- The reply to a call is in. -/
def take (c : DBusCall) : FlickrCredentialsManagerGOA :=
  { self with requests := self.requests.take c }

/-- One event: a reply comes in only while its call is in flight. -/
def step (s : FlickrCredentialsManagerGOA) : GoaEvent → FlickrCredentialsManagerGOA
  | .load bus mgrProxy => s.load bus mgrProxy
  | .managedObjects closure resultData proxy =>
    if .getManagedObjects closure ∈ s.requests.calls then
      (s.take (.getManagedObjects closure)).onManagedObjects closure resultData proxy
    else s
  | .accessToken closure proxy data =>
    if .getAccessToken closure proxy ∈ s.requests.calls then
      (s.take (.getAccessToken closure proxy)).onAccessToken closure proxy data
    else s

/-! ## What the handlers do -/

variable {self : FlickrCredentialsManagerGOA} {closure : Nat} {bus mgrProxy made : Bool}

/-- The bus as a load finds it. -/
def hasMgrProxy (s : FlickrCredentialsManagerGOA) (bus mgrProxy : Bool) : Bool :=
  (s.connection || bus) && mgrProxy

/-- A load starts a call, or is refused by the callback alone. -/
theorem requests_load (self : FlickrCredentialsManagerGOA) (bus mgrProxy : Bool) :
    (self.load bus mgrProxy).requests =
    if self.hasMgrProxy bus mgrProxy then
      self.requests.opened (.getManagedObjects self.requests.made)
    else self.requests.refused [.callback false none self.clear.toAccountData] := by
  unfold load findAccount createProxySync hasMgrProxy
  cases hc : self.connection <;> cases bus <;> cases mgrProxy <;>
    simp [clear, initDbus, call, callback, Requests.opened, Requests.refused, hc] <;> rfl

/-- The loop stops at `object`. -/
def foundAccount (s : FlickrCredentialsManagerGOA) (object : ManagedObject) :
    FlickrCredentialsManagerGOA :=
  { s with objectPath := some object.path }

theorem onManagedObjects_none {content : List ManagedObject}
    (h : content.find? ManagedObject.isFlickr = none) :
    self.onManagedObjects closure (some content) made = self := by
  simp only [onManagedObjects, h]

theorem onManagedObjects_some {content : List ManagedObject} {object : ManagedObject}
    (h : content.find? ManagedObject.isFlickr = some object) :
    self.onManagedObjects closure (some content) made =
      match (self.foundAccount object).getAccessData object closure made with
      | (self, some error) => (self.callback closure false (some error)).freeClosure closure
      | (self, none) => self := by
  simp only [onManagedObjects, h]
  rfl

variable (self closure made)

/-- `get_access_data` sets `error` and makes no call, or it stores what the account offers as keys
and asks for the token of the account at `object_path`. -/
theorem getAccessData_cases (object : ManagedObject) :
    (∃ self', self.getAccessData object closure made = (self', some noAccess) ∧
        self'.requests = self.requests) ∨
      ∃ oauth consumerKey consumerSecret proxy,
        object.interfaces.lookup "org.gnome.OnlineAccounts.OAuthBased" = some oauth ∧
        oauth.lookup "ConsumerKey" = some consumerKey ∧
        oauth.lookup "ConsumerSecret" = some consumerSecret ∧
        self.objectPath = some proxy.objectPath ∧
        self.getAccessData object closure made =
          ({ self with
              consumerKey := consumerKey.getString.map (⟨·, object.path⟩)
              consumerSecret := consumerSecret.getString.map (⟨·, object.path⟩) }.call
            (.getAccessToken closure proxy), none) := by
  unfold getAccessData
  split
  · exact Or.inl ⟨_, rfl, rfl⟩
  rename_i oauth hoauth
  split
  · exact Or.inl ⟨_, rfl, rfl⟩
  rename_i consumerKey hkey
  split
  · exact Or.inl ⟨_, rfl, rfl⟩
  rename_i consumerSecret hsecret
  dsimp only
  split
  · exact Or.inl ⟨_, rfl, rfl⟩
  · rename_i proxy hproxy
    refine Or.inr ⟨oauth, consumerKey, consumerSecret, proxy, hoauth, hkey, hsecret, ?_, rfl⟩
    unfold createProxySync at hproxy
    split at hproxy
    · obtain ⟨path, hpath, rfl⟩ := Option.map_eq_some_iff.1 hproxy
      exact hpath
    · cases hproxy

/-! ## The fate of a closure -/

variable {s : FlickrCredentialsManagerGOA} {self closure made}

/-- An error ends the load. -/
theorem requests_onManagedObjects_error (c : DBusCall) :
    ((s.take c).onManagedObjects closure none made).requests =
      s.requests.closed c closure [.callback false none s.toAccountData, .free] := by
  simp [onManagedObjects, callback, freeClosure, take, Requests.closed, Requests.note_note]

/-- A list without a Flickr account drops the closure. -/
theorem requests_onManagedObjects_none {content : List ManagedObject} (c : DBusCall)
    (h : content.find? ManagedObject.isFlickr = none) :
    ((s.take c).onManagedObjects closure (some content) made).requests =
      s.requests.closed c closure [] := by
  rw [onManagedObjects_none h]
  simp [take, Requests.closed, Requests.notes]

/-- A Flickr account ends the load or is asked for its token. -/
theorem requests_onManagedObjects_some {content : List ManagedObject} {object : ManagedObject}
    (c : DBusCall) (h : content.find? ManagedObject.isFlickr = some object) :
    (∃ holds, ((s.take c).onManagedObjects closure (some content) made).requests =
        s.requests.closed c closure [.callback false (some noAccess) holds, .free]) ∨
      ∃ proxy, ((s.take c).onManagedObjects closure (some content) made).requests =
        s.requests.passed c (.getAccessToken closure proxy) := by
  rw [onManagedObjects_some h]
  rcases getAccessData_cases ((s.take c).foundAccount object) closure made object with
    ⟨self, hdata, hreq⟩ | ⟨oauth, consumerKey, consumerSecret, proxy, -, -, -, -, hdata⟩
  · left
    refine ⟨self.toAccountData, ?_⟩
    rw [hdata]
    show (self.requests.note closure _).note closure _ = _
    rw [Requests.note_note, hreq]
    rfl
  · refine Or.inr ⟨proxy, ?_⟩
    rw [hdata]
    rfl

/-- The data with the tokens that the account at the proxy's path gave. -/
def withTokens (d : AccountData) (proxy : GDBusProxy) (data : Option (GVariant × GVariant)) :
    AccountData :=
  match data with
  | none => d
  | some (token, tokenSecret) =>
    { d with
      token := token.getString.map (⟨·, proxy.objectPath⟩)
      tokenSecret := tokenSecret.getString.map (⟨·, proxy.objectPath⟩) }

/-- The reply with the token ends the load. -/
theorem requests_onAccessToken (s : FlickrCredentialsManagerGOA) (closure : Nat) (c : DBusCall)
    (proxy : GDBusProxy) (data : Option (GVariant × GVariant)) :
    ((s.take c).onAccessToken closure proxy data).requests = s.requests.closed c closure
      [.callback data.isSome none (withTokens s.toAccountData proxy data), .free] := by
  cases data with
  | none => exact Requests.note_note
  | some data => exact Requests.note_note

end FlickrCredentialsManagerGOA

end LibSocialWeb
