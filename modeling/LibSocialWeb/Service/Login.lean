import LibSocialWeb.Lib.Run
import LibSocialWeb.Service.Signals
import Mathlib.Tactic.SplitIfs

/-!
# Services that log in (`services/plurk/plurk.c`, `services/youtube/youtube.c`)

Plurk and YouTube keep the same machine: a user name and a password from the keyring, and one of
three things about them. What differs is told by a `LoginKind`: the capabilities of a valid account,
what the service makes of the answer to a login, and what it forgets when it goes offline.

**Calls.** Neither a lookup in the keyring nor a login is ever cancelled, and an answer does not say
which account it is about. `loginCalls` lists the logins that are out, each with its account.

**Records.** `learntFor` is the account of the answer that the private data come from; no code reads
it.

**Main results.** `told_iff`: the last announcement is right in every state exactly when the
network comes up only while there is nothing to take back. `present_iff`: what the service knows is
about the present account in every state exactly when no answer about another account is taken, and
no result of the keyring changes the account under what is known. `promised_iff`: a capability that
needs the data is promised only while they are there, exactly when no login is accepted without
them.
-/

namespace LibSocialWeb

open Transition

namespace Login

inductive Credentials where
  | offline
  | credsInvalid
  | credsValid
  deriving DecidableEq, Repr

/-- A user name and a password. -/
structure Account where
  username : String
  password : String
  deriving DecidableEq, Repr

/-- What a service makes of the answer to a login. -/
inductive LoginAnswer (D : Type) where
  | refused
  /-- The account is valid, and the private data stay. -/
  | accepted
  /-- The account is valid, and the answer brings the private data. -/
  | learnt (data : D)
  /-- The answer is read where there is nothing, and the process ends. -/
  | fault

/-- What one service has of its own. -/
structure LoginKind (D R : Type) where
  fullCaps : List String
  answer : R → LoginAnswer D
  goneOffline : D → D
  /-- Whether going offline forgets the user. -/
  forgets : Bool
  /-- Whether the private data tell the user. -/
  known : D → Bool
  valid_mem : CREDENTIALS_VALID ∈ fullCaps
  known_of_learnt : ∀ r data, answer r = .learnt data → known data = true
  known_goneOffline : ∀ data, known (goneOffline data) = (known data && !forgets)

/-- `data` are the private data of the service. `lookups` counts the lookups in the keyring that are
out. -/
structure LoginService (D : Type) where
  running : Bool
  credentials : Credentials
  username : Option String
  password : Option String
  data : D
  emitted : List ServiceSignal
  lookups : Nat
  loginCalls : List Account
  learntFor : Option Account

/-- The account of a user name and a password, when both are there. -/
def accountOf (username password : Option String) : Option Account :=
  match username, password with
  | some username, some password => some ⟨username, password⟩
  | _, _ => none

theorem isSome_accountOf (username password : Option String) :
    (accountOf username password).isSome = (username.isSome && password.isSome) := by
  cases username <;> cases password <;> rfl

inductive LoginEvent (R : Type) where
  | credentialsUpdated
  | foundPassword (found : Option (Option String × Option String)) (isOnline : Bool)
  | onlineNotify (online : Bool)
  | answered (index : Nat) (reply : R)

namespace LoginService

variable {D R : Type} (kind : LoginKind D R) (s : LoginService D)

def account : Option Account := accountOf s.username s.password

/-- `get_dynamic_caps` -/
def getDynamicCaps : List String :=
  match s.credentials with
  | .credsValid => kind.fullCaps
  | .credsInvalid => [IS_CONFIGURED, CREDENTIALS_INVALID]
  | .offline => if s.account.isSome then [IS_CONFIGURED] else []

def emitUserChanged : LoginService D := { s with emitted := s.emitted ++ [.userChanged] }

def emitCapabilitiesChanged : LoginService D :=
  { s with emitted := s.emitted ++ [.capabilitiesChanged (s.getDynamicCaps kind)] }

/-- The callback of a login for `account`. -/
def gotLogin (account : Account) (reply : R) : LoginService D :=
  match kind.answer reply with
  | .refused => { s with credentials := .credsInvalid }.emitCapabilitiesChanged kind
  | .accepted => { s with credentials := .credsValid }.emitCapabilitiesChanged kind
  | .learnt data =>
    { s with credentials := .credsValid, data := data, learntFor := some account }
      |>.emitCapabilitiesChanged kind
  | .fault => { s with running := false }

/-- `online_notify` -/
def onlineNotify (online : Bool) : LoginService D :=
  let s := { s with credentials := .offline }
  if online then
    match s.account with
    | some account => { s with loginCalls := s.loginCalls ++ [account] }
    | none => s
  else { s with data := kind.goneOffline s.data }.emitCapabilitiesChanged kind

/-- `found_password_cb`; `found` is the user and the password of the first entry of a successful
lookup, and `isOnline` what `sw_is_online` returns. -/
def foundPasswordCb (found : Option (Option String × Option String)) (isOnline : Bool) :
    LoginService D :=
  let s :=
    match found with
    | some (user, password) =>
      let s := { s with username := user, password := password }
      if isOnline then (s.onlineNotify kind false).onlineNotify kind true else s
    | none => { s with username := none, password := none, credentials := .offline }
  s.emitUserChanged.emitCapabilitiesChanged kind

/-- `credentials_updated`, which is `refresh_credentials`. -/
def credentialsUpdated : LoginService D := { s with lookups := s.lookups + 1 }

/-- One event of a service that runs: a lookup or a login is answered only while it is out. -/
def handle (s : LoginService D) : LoginEvent R → LoginService D
  | .credentialsUpdated => s.credentialsUpdated
  | .foundPassword found isOnline =>
    if s.lookups = 0 then s
    else { s with lookups := s.lookups - 1 }.foundPasswordCb kind found isOnline
  | .onlineNotify online => s.onlineNotify kind online
  | .answered index reply =>
    match s.loginCalls[index]? with
    | none => s
    | some account =>
      { s with loginCalls := s.loginCalls.eraseIdx index }.gotLogin kind account reply

def step (s : LoginService D) (e : LoginEvent R) : LoginService D :=
  if s.running then s.handle kind e else s

/-- The `initable` functions, which end with `refresh_credentials`. -/
def start (data : D) : LoginService D where
  running := true
  credentials := .offline
  username := none
  password := none
  data := data
  emitted := []
  lookups := 1
  loginCalls := []
  learntFor := none

/-! ## What the handlers leave -/

variable {kind} {s}

@[simp] theorem credentials_onlineNotify (online : Bool) :
    (s.onlineNotify kind online).credentials = .offline := by
  unfold onlineNotify
  cases online with
  | false => rfl
  | true =>
    rw [if_pos rfl]
    dsimp only
    split <;> rfl

@[simp] theorem account_onlineNotify (online : Bool) :
    (s.onlineNotify kind online).account = s.account := by
  unfold onlineNotify
  cases online with
  | false => rfl
  | true =>
    rw [if_pos rfl]
    dsimp only
    split <;> rfl

@[simp] theorem learntFor_onlineNotify (online : Bool) :
    (s.onlineNotify kind online).learntFor = s.learntFor := by
  unfold onlineNotify
  cases online with
  | false => rfl
  | true =>
    rw [if_pos rfl]
    dsimp only
    split <;> rfl

@[simp] theorem data_onlineNotify (online : Bool) :
    (s.onlineNotify kind online).data = if online then s.data else kind.goneOffline s.data := by
  unfold onlineNotify
  cases online with
  | false => rfl
  | true =>
    rw [if_pos rfl, if_pos rfl]
    dsimp only
    split <;> rfl

@[simp] theorem emitted_onlineNotify_true :
    (s.onlineNotify kind true).emitted = s.emitted := by
  unfold onlineNotify
  rw [if_pos rfl]
  dsimp only
  split <;> rfl

variable {found : Option (Option String × Option String)} {isOnline : Bool}

/-- The account that a lookup brings. -/
def foundAccount (found : Option (Option String × Option String)) : Option Account :=
  found.bind fun data => accountOf data.1 data.2

@[simp] theorem account_foundPasswordCb :
    (s.foundPasswordCb kind found isOnline).account = foundAccount found := by
  cases found with
  | none => rfl
  | some data =>
    cases isOnline with
    | false => rfl
    | true =>
      show ((({ s with username := data.1, password := data.2 } : LoginService D).onlineNotify kind
        false).onlineNotify kind true).account = _
      rw [account_onlineNotify, account_onlineNotify]
      rfl

@[simp] theorem learntFor_foundPasswordCb :
    (s.foundPasswordCb kind found isOnline).learntFor = s.learntFor := by
  cases found with
  | none => rfl
  | some data =>
    cases isOnline with
    | false => rfl
    | true =>
      show ((({ s with username := data.1, password := data.2 } : LoginService D).onlineNotify kind
        false).onlineNotify kind true).learntFor = _
      rw [learntFor_onlineNotify, learntFor_onlineNotify]

/-- Only a new account that comes while the service is online makes it forget. -/
@[simp] theorem data_foundPasswordCb :
    (s.foundPasswordCb kind found isOnline).data =
      if found.isSome && isOnline then kind.goneOffline s.data else s.data := by
  cases found with
  | none => rfl
  | some data =>
    cases isOnline with
    | false => rfl
    | true =>
      show ((({ s with username := data.1, password := data.2 } : LoginService D).onlineNotify kind
        false).onlineNotify kind true).data = _
      rw [data_onlineNotify, data_onlineNotify]
      rfl

/-! ## The announcement -/

/-- The last announced capabilities, if any were announced, are the present ones. -/
def Announced (kind : LoginKind D R) (s : LoginService D) : Prop :=
  ToldLast s.emitted (s.getDynamicCaps kind)

/-- The network must come up only while there is nothing to take back. -/
def CapsOk (s : LoginService D) : LoginEvent R → Prop
  | .onlineNotify true => s.running = true →
      lastCaps s.emitted = none ∨ s.credentials = .offline
  | _ => True

theorem announced_emitCapabilitiesChanged (s : LoginService D) :
    Announced kind (s.emitCapabilitiesChanged kind) :=
  toldLast_append_caps s.emitted (s.getDynamicCaps kind)

theorem getDynamicCaps_of_offline (h : s.credentials = .offline) :
    s.getDynamicCaps kind = if s.account.isSome then [IS_CONFIGURED] else [] := by
  rw [getDynamicCaps, h]

/-- Only an offline service has the capabilities of one that never logged in. -/
theorem getDynamicCaps_eq_offline_iff (s : LoginService D) :
    s.getDynamicCaps kind = (if s.account.isSome then [IS_CONFIGURED] else []) ↔
      s.credentials = .offline := by
  unfold getDynamicCaps
  cases s.credentials with
  | offline => simp
  | credsInvalid => split_ifs <;> simp
  | credsValid =>
    refine iff_of_false (fun heq => ?_) (by simp)
    have hmem : CREDENTIALS_VALID ∈ if s.account.isSome then [IS_CONFIGURED] else [] :=
      heq ▸ kind.valid_mem
    split_ifs at hmem
    · exact absurd hmem (by decide)
    · exact absurd hmem List.not_mem_nil

/-- **The handler that says nothing** is right only if `credentials` was `OFFLINE` before. -/
theorem announced_onlineNotify_true (hs : Announced kind s) :
    Announced kind (s.onlineNotify kind true) ↔
      lastCaps s.emitted = none ∨ s.credentials = .offline := by
  unfold Announced
  rw [emitted_onlineNotify_true, getDynamicCaps_of_offline (credentials_onlineNotify true),
    account_onlineNotify, toldLast_iff_of_quiet hs, getDynamicCaps_eq_offline_iff]

theorem announced_gotLogin (hs : Announced kind s) (account : Account) (reply : R) :
    Announced kind (s.gotLogin kind account reply) := by
  unfold gotLogin
  cases kind.answer reply with
  | refused => exact announced_emitCapabilitiesChanged _
  | accepted => exact announced_emitCapabilitiesChanged _
  | learnt data => exact announced_emitCapabilitiesChanged _
  | fault => exact hs

/-- A handler leaves the right announcement exactly when it is allowed. -/
theorem announced_step (hs : Announced kind s) (e : LoginEvent R) :
    Announced kind (s.step kind e) ↔ CapsOk s e := by
  unfold step
  cases hrunning : s.running with
  | false =>
    refine iff_of_true hs ?_
    unfold CapsOk
    split <;> simp [hrunning]
  | true =>
    rw [if_pos rfl]
    cases e with
    | credentialsUpdated => exact iff_of_true hs trivial
    | foundPassword found isOnline =>
      refine iff_of_true ?_ trivial
      dsimp only [handle]
      split_ifs
      · exact hs
      · exact announced_emitCapabilitiesChanged _
    | onlineNotify online =>
      cases online with
      | false => exact iff_of_true (announced_emitCapabilitiesChanged _) trivial
      | true =>
        refine (announced_onlineNotify_true hs).trans ?_
        exact ⟨fun h _ => h, fun h => h hrunning⟩
    | answered index reply =>
      refine iff_of_true ?_ trivial
      dsimp only [handle]
      split
      · exact hs
      · exact announced_gotLogin (s := { s with
          loginCalls := s.loginCalls.eraseIdx index }) hs _ reply

theorem told_iff (kind : LoginKind D R) (data : D) (es : List (LoginEvent R)) :
    EveryState (step kind) (Announced kind) (start data) es ↔
      EveryStep (step kind) CapsOk (start data) es :=
  everyState_iff_of_step_iff (fun _ e hs => announced_step hs e) (toldLast_nil _)

/-! ## The account that the data are about -/

/-- What is known is about the present account. -/
def Present (kind : LoginKind D R) (s : LoginService D) : Prop :=
  kind.known s.data = true → ∃ account, s.account = some account ∧ s.learntFor = some account

/-- The steps that keep what is known about the present account. An answer that is taken must be
about it. A result of the keyring must bring it again, or come while there is nothing known, or make
the service forget. -/
def PresentOk (kind : LoginKind D R) (s : LoginService D) : LoginEvent R → Prop
  | .foundPassword found isOnline => s.running = true → s.lookups ≠ 0 →
      kind.known s.data = true →
        foundAccount found = s.account ∨
          found.isSome = true ∧ isOnline = true ∧ kind.forgets = true
  | .answered index reply => s.running = true → ∀ account, s.loginCalls[index]? = some account →
      ∀ data, kind.answer reply = .learnt data → s.account = some account
  | _ => True

/-- The service knows something that it does not forget on a result of the keyring. -/
theorem known_foundPasswordCb :
    kind.known (s.foundPasswordCb kind found isOnline).data = true ↔
      kind.known s.data = true ∧
        ¬ (found.isSome = true ∧ isOnline = true ∧ kind.forgets = true) := by
  rw [data_foundPasswordCb]
  split_ifs with hgone
  · obtain ⟨hfound, honline⟩ := Bool.and_eq_true_iff.1 hgone
    rw [kind.known_goneOffline]
    cases kind.known s.data <;> cases kind.forgets <;> simp [hfound, honline]
  · rw [Bool.and_eq_true] at hgone
    exact ⟨fun h => ⟨h, fun hall => hgone ⟨hall.1, hall.2.1⟩⟩, fun h => h.1⟩

theorem present_foundPasswordCb (hs : Present kind s) :
    Present kind (s.foundPasswordCb kind found isOnline) ↔
      (kind.known s.data = true → foundAccount found = s.account ∨
        found.isSome = true ∧ isOnline = true ∧ kind.forgets = true) := by
  unfold Present
  rw [known_foundPasswordCb, account_foundPasswordCb, learntFor_foundPasswordCb]
  constructor
  · intro h hknown
    by_cases hforgets : found.isSome = true ∧ isOnline = true ∧ kind.forgets = true
    · exact Or.inr hforgets
    · obtain ⟨account, hfound, hlearnt⟩ := h ⟨hknown, hforgets⟩
      obtain ⟨before, hbefore, hlearnt'⟩ := hs hknown
      obtain rfl : account = before := Option.some.inj (hlearnt.symm.trans hlearnt')
      exact Or.inl (hfound.trans hbefore.symm)
  · rintro h ⟨hknown, hkept⟩
    obtain ⟨account, haccount, hlearnt⟩ := hs hknown
    rcases h hknown with hsame | hforgets
    · exact ⟨account, hsame.trans haccount, hlearnt⟩
    · exact absurd hforgets hkept

theorem present_onlineNotify (hs : Present kind s) (online : Bool) :
    Present kind (s.onlineNotify kind online) := by
  unfold Present
  rw [data_onlineNotify, account_onlineNotify, learntFor_onlineNotify]
  cases online with
  | true => exact hs
  | false =>
    intro hknown
    rw [if_neg Bool.false_ne_true, kind.known_goneOffline, Bool.and_eq_true] at hknown
    exact hs hknown.1

theorem present_gotLogin (hs : Present kind s) (account : Account) (reply : R) :
    Present kind (s.gotLogin kind account reply) ↔
      ∀ data, kind.answer reply = .learnt data → s.account = some account := by
  unfold gotLogin
  cases hanswer : kind.answer reply with
  | refused => exact iff_of_true hs (by simp)
  | accepted => exact iff_of_true hs (by simp)
  | fault => exact iff_of_true hs (by simp)
  | learnt data =>
    constructor
    · intro h _ _
      obtain ⟨present, hpresent, hlearnt⟩ := h (kind.known_of_learnt reply data hanswer)
      obtain rfl : account = present := Option.some.inj hlearnt
      exact hpresent
    · intro h _
      exact ⟨account, h data rfl, rfl⟩

/-- A handler keeps what is known about the present account exactly when it is allowed. -/
theorem present_step (hs : Present kind s) (e : LoginEvent R) :
    Present kind (s.step kind e) ↔ PresentOk kind s e := by
  unfold step
  cases hrunning : s.running with
  | false =>
    refine iff_of_true hs ?_
    unfold PresentOk
    split <;> simp [hrunning]
  | true =>
    rw [if_pos rfl]
    cases e with
    | credentialsUpdated => exact iff_of_true hs trivial
    | foundPassword found isOnline =>
      dsimp only [handle]
      split_ifs with hlookups
      · exact iff_of_true hs fun _ h => absurd hlookups h
      · refine (present_foundPasswordCb (s := { s with lookups := s.lookups - 1 }) hs).trans ?_
        exact ⟨fun h _ _ => h, fun h => h hrunning hlookups⟩
    | onlineNotify online => exact iff_of_true (present_onlineNotify hs online) trivial
    | answered index reply =>
      dsimp only [handle]
      cases hcall : s.loginCalls[index]? with
      | none => exact iff_of_true hs fun _ account h => by simp [hcall] at h
      | some account =>
        refine (present_gotLogin (s := { s with
          loginCalls := s.loginCalls.eraseIdx index }) hs account reply).trans ?_
        constructor
        · intro h _ account' hcall' data hdata
          rw [hcall] at hcall'
          exact Option.some.inj hcall' ▸ h data hdata
        · intro h data hdata
          exact h hrunning account hcall data hdata

theorem present_iff (kind : LoginKind D R) {data : D} (hdata : kind.known data = false)
    (es : List (LoginEvent R)) :
    EveryState (step kind) (Present kind) (start data) es ↔
      EveryStep (step kind) (PresentOk kind) (start data) es := by
  refine everyState_iff_of_step_iff (fun _ e hs => present_step hs e) fun hknown => ?_
  rw [show (start data).data = data from rfl, hdata] at hknown
  cases hknown

/-! ## Capabilities that need the data -/

variable {cap : String}

/-- A client that was told `cap` last finds the data there. -/
def Promised (kind : LoginKind D R) (cap : String) (s : LoginService D) : Prop :=
  ∀ told, lastCaps s.emitted = some told → cap ∈ told → kind.known s.data = true

/-- No login is accepted without the data. -/
def PromiseOk (kind : LoginKind D R) (s : LoginService D) : LoginEvent R → Prop
  | .answered index reply => s.running = true → ∀ account, s.loginCalls[index]? = some account →
      kind.answer reply = .accepted → kind.known s.data = true
  | _ => True

/-- A capability that only valid accounts have. -/
structure OfValid (kind : LoginKind D R) (cap : String) : Prop where
  mem : cap ∈ kind.fullCaps
  ne_configured : cap ≠ IS_CONFIGURED
  ne_invalid : cap ≠ CREDENTIALS_INVALID

theorem mem_getDynamicCaps_iff (hcap : OfValid kind cap) (s : LoginService D) :
    cap ∈ s.getDynamicCaps kind ↔ s.credentials = .credsValid := by
  unfold getDynamicCaps
  cases s.credentials with
  | offline => split_ifs <;> simp [hcap.ne_configured]
  | credsInvalid => simp [hcap.ne_configured, hcap.ne_invalid]
  | credsValid => simp [hcap.mem]

/-- Valid credentials were announced. -/
def ValidTold (kind : LoginKind D R) (s : LoginService D) : Prop :=
  s.credentials = .credsValid → lastCaps s.emitted = some kind.fullCaps

theorem validTold_of_offline (h : s.credentials = .offline) : ValidTold kind s := by
  intro hvalid
  rw [h] at hvalid
  cases hvalid

theorem validTold_emitCapabilitiesChanged (s : LoginService D) :
    ValidTold kind (s.emitCapabilitiesChanged kind) := by
  intro hvalid
  have hvalid : s.credentials = .credsValid := hvalid
  show lastCaps (s.emitted ++ [.capabilitiesChanged (s.getDynamicCaps kind)]) = _
  rw [lastCaps_append_caps, getDynamicCaps, hvalid]

theorem validTold_gotLogin (hs : ValidTold kind s) (account : Account) (reply : R) :
    ValidTold kind (s.gotLogin kind account reply) := by
  unfold gotLogin
  cases kind.answer reply with
  | refused => exact validTold_emitCapabilitiesChanged _
  | accepted => exact validTold_emitCapabilitiesChanged _
  | learnt data => exact validTold_emitCapabilitiesChanged _
  | fault => exact hs

theorem validTold_step (hs : ValidTold kind s) (e : LoginEvent R) :
    ValidTold kind (s.step kind e) := by
  unfold step
  split_ifs
  · cases e with
    | credentialsUpdated => exact hs
    | foundPassword found isOnline =>
      dsimp only [handle]
      split_ifs
      · exact hs
      · exact validTold_emitCapabilitiesChanged _
    | onlineNotify online => exact validTold_of_offline (credentials_onlineNotify online)
    | answered index reply =>
      dsimp only [handle]
      split
      · exact hs
      · exact validTold_gotLogin (s := { s with
          loginCalls := s.loginCalls.eraseIdx index }) hs _ reply
  · exact hs

/-- What a client that was just told the capabilities may rely on. -/
theorem promised_emitCapabilitiesChanged (hcap : OfValid kind cap) (s : LoginService D) :
    Promised kind cap (s.emitCapabilitiesChanged kind) ↔
      (s.credentials = .credsValid → kind.known s.data = true) := by
  have htold : lastCaps (s.emitCapabilitiesChanged kind).emitted =
      some (s.getDynamicCaps kind) := lastCaps_append_caps _ _
  unfold Promised
  rw [htold, ← mem_getDynamicCaps_iff hcap s]
  constructor
  · exact fun h => h _ rfl
  · intro h told htold'
    obtain rfl := Option.some.inj htold'
    exact h

theorem promised_gotLogin (hcap : OfValid kind cap) (hs : Promised kind cap s)
    (account : Account) (reply : R) : Promised kind cap (s.gotLogin kind account reply) ↔
      (kind.answer reply = .accepted → kind.known s.data = true) := by
  unfold gotLogin
  cases hanswer : kind.answer reply with
  | refused =>
    refine iff_of_true ((promised_emitCapabilitiesChanged hcap _).2 fun hvalid => ?_) (by simp)
    cases hvalid
  | accepted =>
    refine (promised_emitCapabilitiesChanged hcap _).trans ?_
    exact ⟨fun h _ => h rfl, fun h _ => h rfl⟩
  | learnt data =>
    refine iff_of_true ((promised_emitCapabilitiesChanged hcap _).2 fun _ => ?_) (by simp)
    exact kind.known_of_learnt reply data hanswer
  | fault => exact iff_of_true hs (by simp)

/-- What is known of a valid account stays when the keyring brings another one offline. -/
theorem promised_foundPasswordCb (hcap : OfValid kind cap)
    (hknown : s.credentials = .credsValid → kind.known s.data = true) :
    Promised kind cap (s.foundPasswordCb kind found isOnline) := by
  refine (promised_emitCapabilitiesChanged hcap _).2 ?_
  cases found with
  | none =>
    intro hvalid
    cases hvalid
  | some data =>
    cases isOnline with
    | false => exact hknown
    | true =>
      intro hvalid
      have hoffline : ((({ s with username := data.1, password := data.2 } :
        LoginService D).onlineNotify kind false).onlineNotify kind true).credentials = .offline :=
        credentials_onlineNotify true
      exact absurd (hoffline.symm.trans hvalid) (by decide)

theorem promised_onlineNotify (hcap : OfValid kind cap) (hs : Promised kind cap s)
    (online : Bool) : Promised kind cap (s.onlineNotify kind online) := by
  cases online with
  | false =>
    refine (promised_emitCapabilitiesChanged hcap _).2 fun hvalid => ?_
    cases hvalid
  | true =>
    unfold Promised
    rw [emitted_onlineNotify_true, data_onlineNotify]
    exact hs

/-- A handler keeps the promise exactly when it is allowed. -/
theorem promised_step (hcap : OfValid kind cap) (hs : Promised kind cap s)
    (htold : ValidTold kind s) (e : LoginEvent R) :
    Promised kind cap (s.step kind e) ↔ PromiseOk kind s e := by
  have hknown : s.credentials = .credsValid → kind.known s.data = true := fun hvalid =>
    hs kind.fullCaps (htold hvalid) hcap.mem
  unfold step
  cases hrunning : s.running with
  | false =>
    refine iff_of_true hs ?_
    unfold PromiseOk
    split <;> simp [hrunning]
  | true =>
    rw [if_pos rfl]
    cases e with
    | credentialsUpdated => exact iff_of_true hs trivial
    | foundPassword found isOnline =>
      refine iff_of_true ?_ trivial
      dsimp only [handle]
      split_ifs
      · exact hs
      · exact promised_foundPasswordCb (s := { s with lookups := s.lookups - 1 }) hcap hknown
    | onlineNotify online => exact iff_of_true (promised_onlineNotify hcap hs online) trivial
    | answered index reply =>
      dsimp only [handle]
      cases hcall : s.loginCalls[index]? with
      | none => exact iff_of_true hs fun _ account h => by simp [hcall] at h
      | some account =>
        refine (promised_gotLogin (s := { s with
          loginCalls := s.loginCalls.eraseIdx index }) hcap hs account reply).trans ?_
        exact ⟨fun h _ _ _ => h, fun h => h hrunning account hcall⟩

theorem promised_iff (hcap : OfValid kind cap) (data : D) (es : List (LoginEvent R)) :
    EveryState (step kind) (Promised kind cap) (start data) es ↔
      EveryStep (step kind) (PromiseOk kind) (start data) es := by
  refine everyState_iff_everyStep (I := fun s => Promised kind cap s ∧ ValidTold kind s)
    (fun _ h => h.1) (fun s e h hok => ?_) (fun s e h => (promised_step hcap h.1 h.2 e).1) ?_
  · exact ⟨(promised_step hcap h.1 h.2 e).2 hok, validTold_step h.2 e⟩
  · refine ⟨fun told htold => ?_, validTold_of_offline rfl⟩
    cases htold

end LoginService

end Login

end LibSocialWeb
