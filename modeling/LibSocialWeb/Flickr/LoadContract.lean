import LibSocialWeb.Flickr.CredentialsManager
import LibSocialWeb.Flickr.CredentialsManagerGOA

/-!
# The contract of a load

Both implementations of `FlickrCredentials` share their fields among all loads: a load clears them,
and the replies fill them again. The contract is that credentials said to be available are all there
at that moment, and, for GNOME Online Accounts, all from the account at `object_path`.

The keyring manager sets the keys at once and the two tokens together, so any overlap is harmless.
The other one sets the keys with the first reply and the tokens with the second. In between another
load may clear the keys, or find another account; the second reply then sets the tokens and reports
success all the same. `TokenOk` asks that a reply with the token finds the path and the keys of the
account that it comes from.

**Main results.** `loads_honest_iff`: the keyring manager keeps the contract along every run, the
other one exactly when every token is `TokenOk`. `tokenOk_of_oneAtATime`: every token is, when
loads do not overlap and the bus delivers strings.
-/

namespace LibSocialWeb

open InFlight Transition

/-! ## The data of an account -/

namespace AccountData

/-- Keys and tokens are there, from the account at `object_path`. -/
def Complete (d : AccountData) : Prop :=
  ∀ field ∈ [d.consumerKey, d.consumerSecret, d.token, d.tokenSecret],
    field.isSome ∧ field.map (·.account) = d.objectPath

/-- The keys are there, from the account at `path`, which is `object_path`. -/
structure HoldsKeysOf (d : AccountData) (path : String) : Prop where
  objectPath : d.objectPath = some path
  consumerKey : d.consumerKey.map (·.account) = some path
  consumerSecret : d.consumerSecret.map (·.account) = some path

variable {d : AccountData} {path : String}

theorem complete_iff : d.Complete ↔ ∃ path, d.HoldsKeysOf path ∧
    d.token.map (·.account) = some path ∧ d.tokenSecret.map (·.account) = some path := by
  unfold Complete
  simp only [List.forall_mem_cons, List.not_mem_nil, false_imp_iff, implies_true, and_true]
  refine ⟨?_, ?_⟩
  · intro h
    rcases h with ⟨⟨hkey, hk⟩, ⟨-, hs⟩, ⟨-, ht⟩, ⟨-, hts⟩⟩
    obtain ⟨key, hkey⟩ := Option.isSome_iff_exists.1 hkey
    have hpath : d.objectPath = some key.account := by rw [← hk, hkey]; rfl
    rw [hpath] at hk hs ht hts
    exact ⟨key.account, ⟨hpath, hk, hs⟩, ht, hts⟩
  · intro h
    rcases h with ⟨path, ⟨hpath, hk, hs⟩, ht, hts⟩
    have hsome : ∀ {field : Option AccountString}, field.map (·.account) = some path →
        field.isSome ∧ field.map (·.account) = d.objectPath := by
      intro field hfield
      exact ⟨by simpa using congrArg Option.isSome hfield, hfield.trans hpath.symm⟩
    exact ⟨hsome hk, hsome hs, hsome ht, hsome hts⟩

end AccountData

/-- The consumer keys of an account, where it has them, are strings. -/
def ManagedObject.KeysAreStrings (object : ManagedObject) : Prop :=
  ∀ oauth, object.interfaces.lookup "org.gnome.OnlineAccounts.OAuthBased" = some oauth →
    ∀ name ∈ ["ConsumerKey", "ConsumerSecret"], ∀ value, oauth.lookup name = some value →
      value.getString.isSome

namespace FlickrCredentialsManagerGOA

variable {s : FlickrCredentialsManagerGOA} {d : AccountData} {proxy : GDBusProxy}

/-- The tokens of an account complete the data of this account, and of no other. -/
theorem complete_withTokens {token tokenSecret : GVariant} :
    (withTokens d proxy (some (token, tokenSecret))).Complete ↔ d.HoldsKeysOf proxy.objectPath ∧
      token.getString.isSome ∧ tokenSecret.getString.isSome := by
  have hmap : ∀ (value : GVariant) (path : String),
      (value.getString.map (AccountString.mk · proxy.objectPath)).map (·.account) = some path ↔
        value.getString.isSome ∧ proxy.objectPath = path := by
    intro value path
    cases value.getString <;> simp
  have hkeys : ∀ path, (withTokens d proxy (some (token, tokenSecret))).HoldsKeysOf path ↔
      d.HoldsKeysOf path :=
    fun path => ⟨fun h => ⟨h.1, h.2, h.3⟩, fun h => ⟨h.1, h.2, h.3⟩⟩
  rw [AccountData.complete_iff]
  simp only [withTokens, hmap] at hkeys ⊢
  refine ⟨?_, ?_⟩
  · intro hex
    rcases hex with ⟨path, hd, ⟨ht, rfl⟩, ⟨hts, -⟩⟩
    exact ⟨(hkeys _).1 hd, ht, hts⟩
  · intro hand
    rcases hand with ⟨hd, ht, hts⟩
    exact ⟨_, (hkeys _).2 hd, ⟨ht, rfl⟩, ⟨hts, rfl⟩⟩

/-! ## Steps and runs -/

/-- A reply with the token finds the path and the keys of its account, and brings strings. -/
def TokenOk (s : FlickrCredentialsManagerGOA) : GoaEvent → Prop
  | .accessToken closure proxy (some (token, tokenSecret)) =>
    .getAccessToken closure proxy ∈ s.requests.calls →
      s.toAccountData.HoldsKeysOf proxy.objectPath ∧
        token.getString.isSome ∧ tokenSecret.getString.isSome
  | _ => True

/-- A step keeps the record honest exactly when it is allowed. -/
theorem honest_step (s : FlickrCredentialsManagerGOA) (e : GoaEvent) :
    Honest AccountData.Complete (s.step e).requests ↔
      TokenOk s e ∧ Honest AccountData.Complete s.requests := by
  cases e with
  | load bus mgrProxy =>
    show _ ↔ True ∧ _
    dsimp only [step]
    rw [requests_load, true_and]
    split
    · exact Iff.rfl
    · exact honest_notes_unavailable (by simp)
  | managedObjects closure resultData proxy =>
    show _ ↔ True ∧ _
    dsimp only [step]
    rw [true_and]
    split
    · cases resultData with
      | none =>
        rw [requests_onManagedObjects_error]
        exact honest_notes_unavailable (by simp)
      | some content =>
        cases hfind : content.find? ManagedObject.isFlickr with
        | none =>
          rw [requests_onManagedObjects_none _ hfind]
          exact honest_notes_unavailable (by simp)
        | some object =>
          rcases requests_onManagedObjects_some (.getManagedObjects closure) hfind with
            ⟨holds, hreq⟩ | ⟨account, hreq⟩
          · rw [hreq]
            exact honest_notes_unavailable (by simp)
          · rw [hreq]
            exact Iff.rfl
    · exact Iff.rfl
  | accessToken closure proxy data =>
    dsimp only [step]
    by_cases hc : .getAccessToken closure proxy ∈ s.requests.calls
    · rw [if_pos hc, requests_onAccessToken]
      refine honest_notes.trans (and_congr ?_ Iff.rfl)
      cases data with
      | none => simp [TokenOk]
      | some data =>
        obtain ⟨token, tokenSecret⟩ := data
        simp [TokenOk, hc, complete_withTokens]
    · rw [if_neg hc]
      cases data <;> simp [TokenOk, hc]

/-- **The contract of `FlickrCredentials`.** The keyring manager keeps it along every run. The
manager for GNOME Online Accounts keeps it exactly when every reply with a token finds the path and
the keys of its account. -/
theorem loads_honest_iff (base64Decode : String → String) :
    (∀ es, EveryState (FlickrCredentialsManager.step base64Decode)
      (fun s => Honest FlickrCredentials.Complete s.requests) .init es) ∧
    ∀ es, EveryState step (fun s => Honest AccountData.Complete s.requests) init es ↔
      EveryStep step TokenOk init es :=
  ⟨FlickrCredentialsManager.honest,
    fun _ => everyState_iff_everyStep (fun _ hs => hs)
      (fun s e hs hok => (honest_step s e).2 ⟨hok, hs⟩)
      (fun s e _ hP => ((honest_step s e).1 hP).1) honest_none⟩

/-- A Flickr account. -/
def flickrAccount : ManagedObject where
  path := "/account"
  interfaces :=
    [("org.gnome.OnlineAccounts.Account", [("ProviderType", .string "flickr")]),
      ("org.gnome.OnlineAccounts.OAuthBased",
        [("ConsumerKey", .string "key"), ("ConsumerSecret", .string "secret")])]

/-- A second load begins between the two replies of the first. -/
def clearedBetween : List GoaEvent :=
  [.load true true, .managedObjects 0 (some [flickrAccount]) true, .load true true,
    .accessToken 0 ⟨"/account"⟩ (some (.string "token", .string "token secret"))]

/-- The first load is then told that the credentials are available, and there are no keys. -/
theorem clearedBetween_not_honest :
    ¬ ∀ es : List GoaEvent,
      EveryState step (fun s => Honest AccountData.Complete s.requests) init es := by
  intro hall
  have hhonest := (hall clearedBetween).last
  have hcomplete := hhonest
    (0, .callback true none ⟨none, none, none, some ⟨"token", "/account"⟩,
      some ⟨"token secret", "/account"⟩⟩) (by decide) _ _ rfl
  exact absurd (hcomplete none List.mem_cons_self).1 (by decide)

/-! ## One load at a time -/

/-- No load begins while another one waits for a reply, and keys and tokens are strings. -/
def OneAtATime (s : FlickrCredentialsManagerGOA) : GoaEvent → Prop
  | .load _ _ => s.requests.calls = []
  | .managedObjects _ (some content) _ => ∀ object ∈ content, object.KeysAreStrings
  | .accessToken _ _ (some (token, tokenSecret)) =>
    token.getString.isSome ∧ tokenSecret.getString.isSome
  | _ => True

/-- What a manager holds whose loads do not overlap: nothing is in flight, or the first call, or the
second with the keys it goes with. -/
inductive Alone (s : FlickrCredentialsManagerGOA) : Prop where
  | idle (h : s.requests.calls = [])
  | finding (closure : Nat) (h : s.requests.calls = [.getManagedObjects closure])
  | asking (closure : Nat) (proxy : GDBusProxy)
      (h : s.requests.calls = [.getAccessToken closure proxy])
      (hkeys : s.toAccountData.HoldsKeysOf proxy.objectPath)

theorem alone_load (h : s.requests.calls = []) (bus mgrProxy : Bool) :
    Alone (s.load bus mgrProxy) := by
  have hcalls := congrArg Requests.calls (requests_load s bus mgrProxy)
  split at hcalls
  · exact .finding s.requests.made (by simpa [Requests.opened, Requests.send, Requests.new, h]
      using hcalls)
  · exact .idle (by simpa [Requests.refused, Requests.notes, Requests.new, h] using hcalls)

theorem alone_onManagedObjects {closure : Nat} {resultData : Option (List ManagedObject)}
    {made : Bool} (h : s.requests.calls = [])
    (hstrings : ∀ content, resultData = some content → ∀ object ∈ content, object.KeysAreStrings) :
    Alone (s.onManagedObjects closure resultData made) := by
  cases resultData with
  | none => exact .idle h
  | some content =>
    cases hfind : content.find? ManagedObject.isFlickr with
    | none => exact .idle (by rw [onManagedObjects_none hfind, h])
    | some object =>
      rw [onManagedObjects_some hfind]
      rcases getAccessData_cases (s.foundAccount object) closure made object with
        ⟨self, hdata, hreq⟩ |
          ⟨oauth, consumerKey, consumerSecret, proxy, hoauth, hkey, hsecret, hpath, hdata⟩
      · rw [hdata]
        exact .idle ((congrArg Requests.calls hreq).trans h)
      · have hstring := hstrings content rfl object (List.mem_of_find?_eq_some hfind) oauth hoauth
        have htag : ∀ {value : GVariant}, value.getString.isSome →
            (value.getString.map (AccountString.mk · object.path)).map (·.account) =
              some proxy.objectPath := by
          intro value hvalue
          obtain ⟨text, htext⟩ := Option.isSome_iff_exists.1 hvalue
          rw [htext]
          exact hpath
        rw [hdata]
        have hcalls : s.requests.calls ++ [DBusCall.getAccessToken closure proxy] =
            [.getAccessToken closure proxy] := by rw [h]; rfl
        refine .asking closure proxy hcalls ⟨hpath, ?_, ?_⟩
        · exact htag (hstring "ConsumerKey" (by simp) consumerKey hkey)
        · exact htag (hstring "ConsumerSecret" (by simp) consumerSecret hsecret)

/-- A call in flight of a manager whose loads do not overlap is the only one. -/
theorem Alone.calls_eq {c : DBusCall} (h : Alone s) (hc : c ∈ s.requests.calls) :
    s.requests.calls = [c] := by
  have hone : ∀ c', s.requests.calls = [c'] → s.requests.calls = [c] := by
    intro c' hc'
    rw [hc', List.mem_singleton] at hc
    rw [hc', hc]
  cases h with
  | idle h => exact absurd hc (h ▸ List.not_mem_nil)
  | finding closure h => exact hone _ h
  | asking closure proxy h _ => exact hone _ h

theorem Alone.take_calls {c : DBusCall} (h : Alone s) (hc : c ∈ s.requests.calls) :
    (s.take c).requests.calls = [] := by
  show s.requests.calls.erase c = []
  rw [h.calls_eq hc]
  simp

theorem alone_step (s : FlickrCredentialsManagerGOA) (e : GoaEvent) (h : Alone s)
    (hok : OneAtATime s e) : Alone (s.step e) := by
  cases e with
  | load bus mgrProxy => exact alone_load hok bus mgrProxy
  | managedObjects closure resultData proxy =>
    dsimp only [step]
    split
    · rename_i hc
      apply alone_onManagedObjects (h.take_calls hc)
      intro content heq
      subst heq
      exact hok
    · exact h
  | accessToken closure proxy data =>
    dsimp only [step]
    split
    · rename_i hc
      have hreq := requests_onAccessToken s closure (.getAccessToken closure proxy) proxy data
      exact .idle ((congrArg Requests.calls hreq).trans (h.take_calls hc))
    · exact h

/-- The reply with the token finds the keys that were stored when it was asked for. -/
theorem tokenOk_of_alone (s : FlickrCredentialsManagerGOA) (e : GoaEvent) (h : Alone s)
    (hok : OneAtATime s e) : TokenOk s e := by
  cases e with
  | load bus mgrProxy => trivial
  | managedObjects closure resultData proxy => trivial
  | accessToken closure proxy data =>
    cases data with
    | none => trivial
    | some data =>
      intro hc
      have hcalls := h.calls_eq hc
      cases h with
      | idle h => cases hcalls.symm.trans h
      | finding _ h => cases hcalls.symm.trans h
      | asking _ _ h hkeys =>
        cases hcalls.symm.trans h
        exact ⟨hkeys, hok⟩

/-- **A manager whose loads do not overlap keeps the contract**, given that keys and tokens are
strings. -/
theorem tokenOk_of_oneAtATime {es : List GoaEvent} (h : EveryStep step OneAtATime init es) :
    EveryStep step TokenOk init es :=
  everyStep_weaken alone_step tokenOk_of_alone (.idle rfl) h

end FlickrCredentialsManagerGOA

end LibSocialWeb
