import LibSocialWeb.Lib.Run
import LibSocialWeb.Twitter.Service

/-!
# What valid Twitter credentials mean

`CREDS_VALID` should say something about the present: `CredentialsSound` asks that there are a user
name and a password, that the service is online, and that the reply was about this user name and
this password.

Replies to abandoned calls are not told from the others. `verify_cb` takes any reply with the three
nodes it reads, also one that comes after the service went offline or after the account changed.
`found_password_cb` does not touch `credentials` when it puts in a new account while the service is
offline. `CredsOk` says when neither happens.

**Main result.** `credentialsSound_iff`: along a run valid credentials are sound in every state
exactly when every step is `CredsOk`.
-/

namespace LibSocialWeb

open Transition

namespace SwServiceTwitter

variable {s : SwServiceTwitter} {account : TwitterAccount}

/-- Valid credentials are those of the present account, and the service is online. -/
def CredentialsSound (s : SwServiceTwitter) : Prop :=
  s.credentials = .credsValid →
    s.lastOnline = some true ∧
    ∃ username password, s.username = some username ∧ s.password = some password ∧
      s.verified = some ⟨username, password⟩

/-- A reply that makes the credentials valid. -/
def Verifies (call : RestProxyCall XmlNode) : Prop :=
  ∃ node, nodeFromCall call = some node ∧ (userFromNode node).isSome

/-- The steps that keep valid credentials sound. A reply that verifies must come while the service
is online, for the present account. A result of the keyring that comes while `sw_is_online` returns
FALSE must bring the account that is there, if its credentials are valid. -/
def CredsOk (s : SwServiceTwitter) : TwitterEvent → Prop
  | .verified index call => s.running = true → Verifies call →
      ∀ account, s.verifyCalls[index]? = some account →
        s.lastOnline = some true ∧ s.account = some account
  | .foundPassword (some (user, password)) false => s.running = true → s.lookups ≠ 0 →
      s.credentials = .credsValid → user = s.username ∧ password = s.password
  | _ => True

theorem account_eq_some_iff :
    s.account = some account ↔
      s.username = some account.username ∧ s.password = some account.password := by
  obtain ⟨username, password⟩ := account
  unfold SwServiceTwitter.account
  cases s.username <;> cases s.password <;> simp

theorem credentialsSound_of_not_valid (h : s.credentials ≠ .credsValid) : CredentialsSound s :=
  fun hvalid => absurd hvalid h

/-- Valid credentials are sound exactly when the account of the reply is the present one. -/
theorem credentialsSound_iff_account (hvalid : s.credentials = .credsValid)
    (hverified : s.verified = some account) :
    CredentialsSound s ↔ s.lastOnline = some true ∧ s.account = some account := by
  rw [account_eq_some_iff]
  refine ⟨fun h => ?_, fun h _ => ⟨h.1, _, _, h.2.1, h.2.2, hverified⟩⟩
  obtain ⟨honline, username, password, hu, hp, hv⟩ := h hvalid
  obtain rfl : account = ⟨username, password⟩ := Option.some.inj (hverified.symm.trans hv)
  exact ⟨honline, hu, hp⟩

/-! ## The callbacks -/

theorem credentialsSound_onlineNotify (s : SwServiceTwitter) (online : Bool) :
    CredentialsSound (s.onlineNotify online) :=
  credentialsSound_of_not_valid (by simp)

/-- A token makes nothing valid: there is a call to come. -/
theorem credentialsSound_oauthAccessTokenCb (hs : CredentialsSound s)
    (reply : Except String (Option String × Option String)) :
    CredentialsSound (s.oauthAccessTokenCb account reply) := by
  cases reply with
  | error message => exact credentialsSound_of_not_valid (by simp [oauthAccessTokenCb,
      emitCapabilitiesChanged])
  | ok tokens => exact hs

/-- A reply that verifies leaves sound credentials exactly when the service is online and the
account is the present one. -/
theorem credentialsSound_verifyCb (hs : CredentialsSound s) (call : RestProxyCall XmlNode) :
    CredentialsSound (s.verifyCb account call) ↔
      (Verifies call → s.lastOnline = some true ∧ s.account = some account) := by
  unfold verifyCb Verifies
  cases hnode : nodeFromCall call with
  | none => exact iff_of_true hs (by simp)
  | some node =>
    dsimp only
    cases huser : userFromNode node with
    | none =>
      refine iff_of_true hs ?_
      rintro ⟨node', hnode', hsome⟩
      obtain rfl := Option.some.inj hnode'
      simp [huser] at hsome
    | some user =>
      have hverifies : ∃ node', some node = some node' ∧ (userFromNode node').isSome :=
        ⟨node, rfl, by simp [huser]⟩
      refine (credentialsSound_iff_account rfl rfl).trans ?_
      exact ⟨fun h _ => h, fun h => h hverifies⟩

/-- A new account that is put in offline keeps valid credentials sound only if it is the old
one. -/
theorem credentialsSound_foundPasswordCb (hs : CredentialsSound s)
    (found : Option (Option String × Option String)) (isOnline : Bool) :
    CredentialsSound (s.foundPasswordCb found isOnline) ↔
      ∀ user password, found = some (user, password) → isOnline = false →
        s.credentials = .credsValid → user = s.username ∧ password = s.password := by
  cases found with
  | none => exact iff_of_true (credentialsSound_of_not_valid (by simp [foundPasswordCb,
      emitCapabilitiesChanged, emitUserChanged])) (by simp)
  | some data =>
    obtain ⟨user, password⟩ := data
    cases isOnline with
    | true =>
      refine iff_of_true (credentialsSound_of_not_valid ?_) (by simp)
      simp [foundPasswordCb, emitCapabilitiesChanged, emitUserChanged]
    | false =>
      by_cases hvalid : s.credentials = .credsValid
      · obtain ⟨honline, u, p, hu, hp, hv⟩ := hs hvalid
        have hnow : CredentialsSound (s.foundPasswordCb (some (user, password)) false) ↔
            (s.foundPasswordCb (some (user, password)) false).lastOnline = some true ∧
              (s.foundPasswordCb (some (user, password)) false).account = some ⟨u, p⟩ :=
          credentialsSound_iff_account hvalid hv
        rw [hnow, account_eq_some_iff]
        have hl : (s.foundPasswordCb (some (user, password)) false).lastOnline = some true :=
          honline
        have huser : (s.foundPasswordCb (some (user, password)) false).username = user := rfl
        have hpass : (s.foundPasswordCb (some (user, password)) false).password = password := rfl
        rw [hl, huser, hpass, hu, hp]
        simp [hvalid]
      · exact iff_of_true (credentialsSound_of_not_valid hvalid) fun _ _ _ _ h => absurd h hvalid

/-! ## Runs -/

/-- A step leaves sound credentials exactly when it is allowed. -/
theorem credentialsSound_step (hs : CredentialsSound s) (e : TwitterEvent) :
    CredentialsSound (s.step e) ↔ CredsOk s e := by
  unfold step
  cases hrunning : s.running with
  | false =>
    refine iff_of_true hs ?_
    unfold CredsOk
    split <;> simp [hrunning]
  | true =>
    simp only [if_true]
    cases e with
    | credentialsUpdated => exact iff_of_true hs trivial
    | onlineNotify online => exact iff_of_true (credentialsSound_onlineNotify s online) trivial
    | accessToken index reply =>
      refine iff_of_true ?_ trivial
      dsimp only [handle]
      split
      · exact hs
      · exact credentialsSound_oauthAccessTokenCb (s := { s with
          tokenCalls := s.tokenCalls.eraseIdx index }) hs reply
    | verified index call =>
      dsimp only [handle, CredsOk]
      cases hcall : s.verifyCalls[index]? with
      | none => exact iff_of_true hs (by simp)
      | some account =>
        refine (credentialsSound_verifyCb (s := { s with
          verifyCalls := s.verifyCalls.eraseIdx index }) hs call).trans ?_
        simp only [hrunning, Option.some.injEq, forall_const, forall_eq']
        exact Iff.rfl
    | foundPassword found isOnline =>
      dsimp only [handle]
      by_cases hlookups : s.lookups = 0
      · rw [if_pos hlookups]
        refine iff_of_true hs ?_
        rcases found with _ | ⟨user, password⟩
        · trivial
        · cases isOnline with
          | false => exact fun _ h => absurd hlookups h
          | true => trivial
      · rw [if_neg hlookups, credentialsSound_foundPasswordCb (s := { s with
          lookups := s.lookups - 1 }) hs found isOnline]
        rcases found with _ | ⟨user, password⟩
        · exact iff_of_true (by simp) trivial
        · cases isOnline with
          | false => simp [CredsOk, hrunning, hlookups]
          | true => exact iff_of_true (by simp) trivial

/-- **Valid credentials are those of the present account of an online service, in every state of a
run, exactly when no reply verifies them offline or for an account of the past, and no other
account is put in offline while they are valid.** -/
theorem credentialsSound_iff (key secret : String) (es : List TwitterEvent) :
    EveryState step CredentialsSound (start key secret) es ↔
      EveryStep step CredsOk (start key secret) es :=
  everyState_iff_of_step_iff (fun _ e hs => credentialsSound_step hs e)
    (credentialsSound_of_not_valid (by simp [start]))

/-- The user changes the account while the old one is being verified. -/
def changedWhileVerified : List TwitterEvent :=
  [.foundPassword (some (some "alice", some "a")) true, .accessToken 0 (.ok (some "t", some "s")),
    .credentialsUpdated, .foundPassword (some (some "bob", some "b")) true, .verified 0 userReply]

/-- The reply about the old account then makes the credentials of the new one valid. -/
theorem changedWhileVerified_not_sound :
    ¬ ∀ (key secret : String) (es : List TwitterEvent),
      EveryState step CredentialsSound (start key secret) es := by
  intro hall
  have hlast := (hall "key" "secret" changedWhileVerified).last
  obtain ⟨-, username, password, hu, -, hv⟩ := hlast (by decide)
  have hnow : (runFrom step (start "key" "secret") changedWhileVerified).username = some "bob" := by
    decide
  have hthen : (runFrom step (start "key" "secret") changedWhileVerified).verified =
      some ⟨"alice", "a"⟩ := by
    decide
  rw [hnow, Option.some.injEq] at hu
  rw [hthen, Option.some.injEq, TwitterAccount.mk.injEq] at hv
  exact absurd (hu.trans hv.1.symm) (by decide)

end SwServiceTwitter

end LibSocialWeb
