import LibSocialWeb.Flickr.CredentialsManager
import LibSocialWeb.Flickr.CredentialsManagerGOA

/-!
# A credentials object as its callers see it

The callers of `flickr_credentials_load` know one of the two managers through the interface alone.
`CredentialsObject` is what they rely on: a load is numbered and either starts a call or is refused
at once, and a reply ends a load, or passes it on to another call, or belongs to no load.

Both managers are such objects: `keyringObject` and `goaObject`.
-/

namespace LibSocialWeb

open InFlight

/-- An implementation of `FlickrCredentials`. `Load` and `Reply` are what the outside decides at a
load and at a reply. -/
structure CredentialsObject where
  State : Type
  Call : Type
  Data : Type
  Load : Type
  Reply : Type
  [decEq : DecidableEq Call]
  owner : Call → Nat
  init : State
  requests : State → Requests Call (LoadAction Data)
  load : State → Load → State
  reply : State → Reply → State
  init_requests : requests init = .none
  load_cases : ∀ s l,
    (∃ c, owner c = (requests s).made ∧ requests (load s l) = (requests s).opened c) ∨
      ∃ acts, requests (load s l) = (requests s).refused acts
  reply_cases : ∀ s r, requests (reply s r) = requests s ∨ ∃ c ∈ (requests s).calls,
    (∃ c', owner c' = owner c ∧ requests (reply s r) = (requests s).passed c c') ∨
      ∃ acts, requests (reply s r) = (requests s).closed c (owner c) acts

instance (C : CredentialsObject) : DecidableEq C.Call := C.decEq

/-- The manager with tokens from the keyring. -/
def keyringObject (base64Decode : String → String) : CredentialsObject where
  State := FlickrCredentialsManager
  Call := TokenLookup
  Data := FlickrCredentials
  Load := Option String × Option String
  Reply := TokenLookup × Option String
  owner := TokenLookup.closure
  init := .init
  requests := FlickrCredentialsManager.requests
  load s keys := s.step base64Decode (.load keys)
  reply s r := s.step base64Decode (.tokenLookedUp r.1 r.2)
  init_requests := rfl
  load_cases := by
    intro s keys
    dsimp only [FlickrCredentialsManager.step, FlickrCredentialsManager.load]
    split
    · exact Or.inl ⟨_, rfl, rfl⟩
    · exact Or.inr ⟨[_], rfl⟩
  reply_cases := by
    intro s r
    dsimp only [FlickrCredentialsManager.step]
    split_ifs with hc
    · obtain ⟨error, holds, hreq⟩ := FlickrCredentialsManager.requests_onTokenLookedUp s r.1
        (findOauthKeyCb base64Decode r.1.proxy r.2).1 (findOauthKeyCb base64Decode r.1.proxy r.2).2
        r.1.closure
      exact Or.inr ⟨r.1, hc, Or.inr ⟨_, hreq⟩⟩
    · exact Or.inl rfl

/-- The manager for GNOME Online Accounts. -/
def goaObject : CredentialsObject where
  State := FlickrCredentialsManagerGOA
  Call := DBusCall
  Data := AccountData
  Load := Bool × Bool
  Reply := (Nat × Option (List ManagedObject) × Bool) ⊕
    (Nat × GDBusProxy × Option (GVariant × GVariant))
  owner := DBusCall.closure
  init := .init
  requests := FlickrCredentialsManagerGOA.requests
  load s l := s.step (.load l.1 l.2)
  reply s r :=
    match r with
    | .inl (closure, resultData, proxy) => s.step (.managedObjects closure resultData proxy)
    | .inr (closure, proxy, data) => s.step (.accessToken closure proxy data)
  init_requests := rfl
  load_cases := by
    intro s l
    dsimp only [FlickrCredentialsManagerGOA.step]
    rw [FlickrCredentialsManagerGOA.requests_load]
    split_ifs
    · exact Or.inl ⟨_, rfl, rfl⟩
    · exact Or.inr ⟨_, rfl⟩
  reply_cases := by
    intro s r
    rcases r with ⟨closure, resultData, proxy⟩ | ⟨closure, proxy, data⟩
    · dsimp only [FlickrCredentialsManagerGOA.step]
      split_ifs with hc
      · refine Or.inr ⟨_, hc, ?_⟩
        cases resultData with
        | none =>
          rw [FlickrCredentialsManagerGOA.requests_onManagedObjects_error]
          exact Or.inr ⟨_, rfl⟩
        | some content =>
          cases hfind : content.find? ManagedObject.isFlickr with
          | none =>
            rw [FlickrCredentialsManagerGOA.requests_onManagedObjects_none _ hfind]
            exact Or.inr ⟨_, rfl⟩
          | some object =>
            rcases FlickrCredentialsManagerGOA.requests_onManagedObjects_some
              (.getManagedObjects closure) hfind with ⟨holds, hreq⟩ | ⟨account, hreq⟩
            · rw [hreq]
              exact Or.inr ⟨_, rfl⟩
            · rw [hreq]
              exact Or.inl ⟨.getAccessToken closure account, rfl, rfl⟩
      · exact Or.inl rfl
    · dsimp only [FlickrCredentialsManagerGOA.step]
      split_ifs with hc
      · exact Or.inr ⟨_, hc, Or.inr
          ⟨_, FlickrCredentialsManagerGOA.requests_onAccessToken s closure _ proxy data⟩⟩
      · exact Or.inl rfl

/-! ## Callbacks -/

/-- The loads whose callback ran since `before`, in order. -/
def callbacksSince {κ δ : Type} (before after : Requests κ (LoadAction δ)) : List Nat :=
  (after.log.drop before.log.length).filterMap fun entry =>
    match entry.2 with
    | .callback _ _ _ => some entry.1
    | .free => none

variable {κ δ : Type} {before after : Requests κ (LoadAction δ)}

theorem notMem_callbacksSince (h : after.log = before.log) (i : Nat) :
    i ∉ callbacksSince before after := by
  rw [callbacksSince, h, List.drop_length]
  exact List.not_mem_nil

/-- Only the load that is answered has its callback run. -/
theorem mem_callbacksSince_notes {i j : Nat} {acts : List (LoadAction δ)}
    (h : after.log = before.log ++ acts.map ((i, ·))) (hj : j ∈ callbacksSince before after) :
    j = i := by
  rw [callbacksSince, h, List.drop_left] at hj
  obtain ⟨entry, hentry, hsome⟩ := List.mem_filterMap.1 hj
  obtain ⟨act, -, rfl⟩ := List.mem_map.1 hentry
  cases act with
  | callback available error holds => exact (Option.some.inj hsome).symm
  | free => cases hsome

end LibSocialWeb
