import LibSocialWeb.Flickr.Service

/-!
# The state of the Flickr service

The service should be authorised only while it is configured, has its proxies and was not told that
the network is gone, and it should never set a token on a proxy that is not there: `Sound`.

A check is answered some time after it was made. `_on_credentials_checked` takes a good answer as it
is, also when the keys were changed meanwhile, when the network went away, or when
`online_notify` made the check for a service without keys. `CheckOk` asks that a good answer finds
the service configured and not offline.

**Main result.** `sound_iff`: along a run every state is sound exactly when every good answer of a
check is `CheckOk`.
-/

namespace LibSocialWeb

open Transition

namespace SwServiceFlickr

variable {s : SwServiceFlickr} {creds : FlickrCredentials} {mode : CallMode}
  {isOnline available : Bool}

/-! ## What the handlers do -/

/-- The state in which `_on_credentials_available` makes its check. -/
def beforeCheck (s : SwServiceFlickr) (creds : FlickrCredentials) (available : Bool) :
    SwServiceFlickr :=
  { s with
    configured := available
    authorised := false
    proxy := if available then some (.new creds.consumerKey creds.consumerSecret) else s.proxy
    uploadProxy :=
      if available then some (.new creds.consumerKey creds.consumerSecret) else s.uploadProxy
    emitted := if s.configured = available then s.emitted else
      s.emitted ++ [.userChanged, .capabilitiesChanged (dynamicCaps available s.authorised)] }

theorem onCredentialsAvailable_eq :
    s.onCredentialsAvailable creds isOnline mode available =
      if available && isOnline then (s.beforeCheck creds available).check creds mode
      else s.beforeCheck creds available := by
  have hbefore : ∀ t : SwServiceFlickr, t = s.beforeCheck creds available →
      (if t.configured && isOnline then t.check creds mode else t) =
        if available && isOnline then (s.beforeCheck creds available).check creds mode
        else s.beforeCheck creds available := by
    intro t heq
    subst heq
    rfl
  apply hbefore _
  by_cases hc : s.configured = available
  · subst hc
    cases hc : s.configured <;> simp [beforeCheck, hc]
  · cases available <;>
      simp [beforeCheck, hc, emitUserChanged, emitCapabilitiesChanged, emit, getDynamicCaps]

@[simp] theorem check_fails : s.check creds .fails = s.onCredentialsChecked creds false := rfl

@[simp] theorem onCredentialsChecked_false : s.onCredentialsChecked creds false =
    { s with
      authorised := false
      emitted := s.emitted ++ [.capabilitiesChanged (dynamicCaps s.configured false)] } := rfl

/-! ## The invariant -/

/-- What being authorised promises. -/
structure Sound (s : SwServiceFlickr) : Prop where
  configured : s.authorised = true → s.configured = true
  proxies : s.authorised = true → s.proxy.isSome ∧ s.uploadProxy.isSome
  online : s.authorised = true → s.lastOnline ≠ some false
  tokens : s.nullTokenSet = false

/-- A good answer of a check must find the service configured and not offline. -/
def CheckOk (s : SwServiceFlickr) : FlickrEvent → Prop
  | .credentialsChecked _ true => s.checks ≠ 0 → s.configured = true ∧ s.lastOnline ≠ some false
  | _ => True

structure SoundInv (s : SwServiceFlickr) : Prop where
  sound : Sound s
  proxies : s.configured = true → s.proxy.isSome ∧ s.uploadProxy.isSome

/-- An unauthorised service is sound. -/
theorem soundInv_of_unauthorised (ha : s.authorised = false) (ht : s.nullTokenSet = false)
    (hp : s.configured = true → s.proxy.isSome ∧ s.uploadProxy.isSome) : SoundInv s where
  sound := ⟨by simp [ha], by simp [ha], by simp [ha], ht⟩
  proxies := hp

theorem soundInv_check (hs : SoundInv s) (creds : FlickrCredentials) (mode : CallMode) :
    SoundInv (s.check creds mode) := by
  cases mode with
  | fails => exact soundInv_of_unauthorised rfl hs.sound.tokens hs.proxies
  | deferred =>
    exact ⟨⟨hs.sound.configured, hs.sound.proxies, hs.sound.online, hs.sound.tokens⟩, hs.proxies⟩

theorem soundInv_onCredentialsAvailable (ht : s.nullTokenSet = false) :
    SoundInv (s.onCredentialsAvailable creds isOnline mode available) := by
  have hbefore : SoundInv (s.beforeCheck creds available) := by
    refine soundInv_of_unauthorised rfl ht fun hc => ?_
    have hav : available = true := hc
    simp [beforeCheck, hav]
  rw [onCredentialsAvailable_eq]
  split_ifs
  · exact soundInv_check hbefore creds mode
  · exact hbefore

theorem soundInv_load (hs : SoundInv s) (creds : FlickrCredentials) (mode : CallMode) :
    SoundInv (s.load creds mode) := by
  cases mode with
  | fails => exact soundInv_onCredentialsAvailable hs.sound.tokens
  | deferred =>
    exact ⟨⟨hs.sound.configured, hs.sound.proxies, hs.sound.online, hs.sound.tokens⟩, hs.proxies⟩

theorem soundInv_credentialsUpdated (hs : SoundInv s) (creds : FlickrCredentials)
    (mode : CallMode) :
    SoundInv (s.credentialsUpdated creds mode) := by
  unfold credentialsUpdated
  refine soundInv_load ?_ creds mode
  split_ifs
  · exact soundInv_of_unauthorised rfl hs.sound.tokens (by simp [emitCapabilitiesChanged,
      emitUserChanged, emit])
  · exact hs

theorem soundInv_onlineNotify (hs : SoundInv s) (creds : FlickrCredentials) (mode : CallMode)
    (online : Bool) : SoundInv (s.onlineNotify creds mode online) := by
  unfold onlineNotify
  cases online with
  | false => exact soundInv_of_unauthorised rfl hs.sound.tokens hs.proxies
  | true =>
    have hnow : SoundInv { s with lastOnline := some true } :=
      ⟨⟨hs.sound.configured, hs.sound.proxies, by simp, hs.sound.tokens⟩, hs.proxies⟩
    simp only [if_true]
    split_ifs
    · exact soundInv_load hnow creds mode
    · exact soundInv_check hnow creds mode

/-- **A good answer of a check keeps the service sound exactly when it finds it configured and not
offline.** -/
theorem sound_onCredentialsChecked (hs : SoundInv s) :
    SoundInv (s.onCredentialsChecked creds true) ↔
      s.configured = true ∧ s.lastOnline ≠ some false := by
  refine ⟨?_, ?_⟩
  · exact fun h => ⟨h.sound.configured rfl, h.sound.online rfl⟩
  · intro hand
    rcases hand with ⟨hc, ho⟩
    obtain ⟨hp, hu⟩ := hs.proxies hc
    have hset : ∀ p : Option OAuthProxy, (setTokens creds p).isSome = p.isSome := by
      intro p
      cases p <;> rfl
    refine ⟨⟨fun _ => hc, fun _ => ?_, fun _ => ho, ?_⟩, fun _ => ?_⟩
    · exact ⟨(hset _).trans hp, (hset _).trans hu⟩
    · show (s.nullTokenSet || s.proxy.isNone || s.uploadProxy.isNone) = false
      rw [hs.sound.tokens]
      simp [hp, hu]
    · exact ⟨(hset _).trans hp, (hset _).trans hu⟩

/-- A step keeps the service sound exactly when it is allowed. -/
theorem soundInv_step (hs : SoundInv s) (e : FlickrEvent) :
    (CheckOk s e → SoundInv (s.step e)) ∧ (Sound (s.step e) → CheckOk s e) := by
  cases e with
  | credentialsUpdated creds load =>
    exact ⟨fun _ => soundInv_credentialsUpdated hs creds load, fun _ => trivial⟩
  | onlineNotify creds call online =>
    exact ⟨fun _ => soundInv_onlineNotify hs creds call online, fun _ => trivial⟩
  | credentialsAvailable creds isOnline check available =>
    refine ⟨fun _ => ?_, fun _ => trivial⟩
    dsimp only [step]
    split_ifs
    · exact hs
    · exact soundInv_onCredentialsAvailable hs.sound.tokens
  | credentialsChecked creds credentialsOk =>
    have hcount : SoundInv { s with checks := s.checks - 1 } :=
      ⟨⟨hs.sound.configured, hs.sound.proxies, hs.sound.online, hs.sound.tokens⟩, hs.proxies⟩
    dsimp only [step]
    by_cases hchecks : s.checks = 0
    · rw [if_pos hchecks]
      refine ⟨fun _ => hs, fun _ => ?_⟩
      cases credentialsOk with
      | false => trivial
      | true => exact fun h => absurd hchecks h
    · rw [if_neg hchecks]
      cases credentialsOk with
      | false =>
        exact ⟨fun _ => soundInv_of_unauthorised rfl hs.sound.tokens hs.proxies, fun _ => trivial⟩
      | true =>
        exact ⟨fun hok => (sound_onCredentialsChecked hcount).2 (hok hchecks),
          fun h _ => ⟨h.configured rfl, h.online rfl⟩⟩

theorem soundInv_start (creds : FlickrCredentials) (load : CallMode) :
    SoundInv (start creds load) :=
  soundInv_credentialsUpdated (soundInv_of_unauthorised rfl rfl (by simp [init])) creds load

/-- **The service is sound in every state of a run exactly when every good answer of a check finds
it configured and not offline.** -/
theorem sound_iff (creds : FlickrCredentials) (load : CallMode) (es : List FlickrEvent) :
    EveryState step Sound (start creds load) es ↔ EveryStep step CheckOk (start creds load) es :=
  everyState_iff_everyStep (fun _ (hs : SoundInv _) => hs.sound)
    (fun _ e hs => (soundInv_step hs e).1) (fun _ e hs => (soundInv_step hs e).2)
    (soundInv_start creds load)

/-- Keys and tokens. -/
def someCreds : FlickrCredentials := ⟨some "key", some "secret", some "token", some "token secret"⟩

/-- The keys are changed while a check is out, and then its good answer comes in. -/
def checkedLate : List FlickrEvent :=
  [.credentialsAvailable someCreds true .deferred true, .credentialsUpdated someCreds .deferred,
    .credentialsChecked someCreds true]

/-- The service is then authorised but not configured. -/
theorem checkedLate_not_sound :
    ¬ ∀ (creds : FlickrCredentials) (load : CallMode) (es : List FlickrEvent),
      EveryState step Sound (start creds load) es := by
  intro hall
  have hlast := (hall someCreds .deferred checkedLate).last
  exact absurd (hlast.configured (by decide)) (by decide)

end SwServiceFlickr

end LibSocialWeb
