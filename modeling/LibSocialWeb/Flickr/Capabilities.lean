import LibSocialWeb.Flickr.Authorised

/-!
# The capabilities a Flickr client knows

The payload of the last `CapabilitiesChanged` should be what `get_dynamic_caps` returns now:
`Announced`.

`_on_credentials_available` clears `authorised` after it has emitted, and emits nothing more unless
its check fails at once. `CapsOk` asks that keys become available to an authorised service only
when that happens.

**Main result.** `announced_iff`: along a run the last announcement is right in every state exactly
when every step is `CapsOk`.
-/

namespace LibSocialWeb

open Transition

namespace SwServiceFlickr

variable {s t : SwServiceFlickr} {creds : FlickrCredentials} {mode : CallMode}

/-- The last announced capabilities, if any were announced, are the present ones. -/
def Announced (s : SwServiceFlickr) : Prop :=
  ∀ caps, lastCaps s.emitted = some caps → caps = s.getDynamicCaps

/-- Keys that become available to an authorised service must lead to a check that fails at once. -/
def CapsOk (s : SwServiceFlickr) : FlickrEvent → Prop
  | .credentialsAvailable _ isOnline check true => s.loads ≠ 0 → s.authorised = true →
      isOnline = true ∧ check = .fails
  | _ => True

/-- The invariant: an authorised service has announced something. -/
structure CapsInv (s : SwServiceFlickr) : Prop where
  announced : Announced s
  spoken : s.authorised = true → (lastCaps s.emitted).isSome

/-- A state that was just announced. -/
theorem capsInv_of_last (hlast : lastCaps s.emitted = some s.getDynamicCaps) : CapsInv s where
  announced caps h := Option.some.inj (h.symm.trans hlast)
  spoken _ := by simp [hlast]

/-- A step that leaves the flags and the signals alone. -/
theorem CapsInv.congr (hs : CapsInv s) (hc : t.configured = s.configured)
    (ha : t.authorised = s.authorised) (he : t.emitted = s.emitted) : CapsInv t where
  announced caps h := by
    rw [getDynamicCaps, hc, ha]
    exact hs.announced caps (he ▸ h)
  spoken h := by
    rw [he]
    exact hs.spoken (ha ▸ h)

theorem capsInv_onCredentialsChecked (s : SwServiceFlickr) (creds : FlickrCredentials) (ok : Bool) :
    CapsInv (s.onCredentialsChecked creds ok) :=
  capsInv_of_last (by cases ok <;> simp [onCredentialsChecked, emitCapabilitiesChanged, emit,
    getDynamicCaps])

theorem capsInv_check (hs : CapsInv s) (creds : FlickrCredentials) (mode : CallMode) :
    CapsInv (s.check creds mode) := by
  cases mode with
  | fails => exact capsInv_onCredentialsChecked s creds false
  | deferred => exact hs.congr rfl rfl rfl

/-- Clearing `authorised` after the announcement makes it wrong for an authorised service only. -/
theorem announced_beforeCheck (hs : CapsInv s) (creds : FlickrCredentials) (available : Bool) :
    Announced (s.beforeCheck creds available) ↔ (available = true → s.authorised = false) := by
  have hnow : (s.beforeCheck creds available).getDynamicCaps = dynamicCaps available false := rfl
  have hlast : lastCaps (s.beforeCheck creds available).emitted =
      if s.configured = available then lastCaps s.emitted
      else some (dynamicCaps available s.authorised) := by
    simp only [beforeCheck]
    split_ifs <;> simp
  unfold Announced
  rw [hnow, hlast]
  cases ha : s.authorised with
  | false =>
    refine iff_of_true (fun caps h => ?_) fun _ => rfl
    split_ifs at h with hc
    · rw [hs.announced caps h, getDynamicCaps, hc, ha]
    · exact (Option.some.inj h).symm
  | true =>
    cases available with
    | false =>
      refine iff_of_true (fun caps h => ?_) (by simp)
      split_ifs at h with hc
      · rw [hs.announced caps h, getDynamicCaps, hc]
        rfl
      · exact (Option.some.inj h).symm
    | true =>
      -- The client was told, now or before, that the credentials are valid.
      refine iff_of_false (fun h => ?_) (by simp)
      have htold : (if s.configured = true then lastCaps s.emitted else
          some (dynamicCaps true true)) = some (dynamicCaps true true) := by
        split_ifs with hc
        · obtain ⟨caps, hcaps⟩ := Option.isSome_iff_exists.1 (hs.spoken ha)
          rw [hcaps, hs.announced caps hcaps, getDynamicCaps, hc, ha]
        · rfl
      exact absurd (h _ htold) (by decide)

/-- `_on_credentials_available` ends with the right announcement if its check fails at once, if the
keys are gone, or if the service was not authorised. -/
theorem announced_onCredentialsAvailable (hs : CapsInv s) (isOnline available : Bool) :
    Announced (s.onCredentialsAvailable creds isOnline mode available) ↔
      (available = true → s.authorised = true → isOnline = true ∧ mode = .fails) := by
  have hbefore := announced_beforeCheck hs creds available
  rw [onCredentialsAvailable_eq]
  cases mode with
  | fails =>
    cases isOnline with
    | false => cases available <;> simp [hbefore]
    | true =>
      cases available with
      | false => simp [hbefore]
      | true =>
        exact iff_of_true (capsInv_onCredentialsChecked _ creds false).announced (by simp)
  | deferred =>
    have hcheck : Announced ((s.beforeCheck creds available).check creds .deferred) ↔
        Announced (s.beforeCheck creds available) := Iff.rfl
    split_ifs
    · rw [hcheck, hbefore]
      simp
    · rw [hbefore]
      simp

theorem capsInv_onCredentialsAvailable (hs : CapsInv s) (isOnline available : Bool)
    (hok : available = true → s.authorised = true → isOnline = true ∧ mode = .fails) :
    CapsInv (s.onCredentialsAvailable creds isOnline mode available) where
  announced := (announced_onCredentialsAvailable hs isOnline available).2 hok
  spoken := by
    rw [onCredentialsAvailable_eq]
    split_ifs
    · cases mode with
      | fails => exact (capsInv_onCredentialsChecked _ creds false).spoken
      | deferred => intro h; cases h
    · intro h; cases h

theorem capsInv_load (hs : CapsInv s) (creds : FlickrCredentials) (mode : CallMode) :
    CapsInv (s.load creds mode) := by
  cases mode with
  | fails => exact capsInv_onCredentialsAvailable hs false false (by simp)
  | deferred => exact hs.congr rfl rfl rfl

theorem capsInv_credentialsUpdated (hs : CapsInv s) (creds : FlickrCredentials) (mode : CallMode) :
    CapsInv (s.credentialsUpdated creds mode) := by
  unfold credentialsUpdated
  refine capsInv_load ?_ creds mode
  split_ifs
  · exact capsInv_of_last (by simp [emitCapabilitiesChanged, emitUserChanged, emit, getDynamicCaps])
  · exact hs

theorem capsInv_onlineNotify (hs : CapsInv s) (creds : FlickrCredentials) (mode : CallMode)
    (online : Bool) : CapsInv (s.onlineNotify creds mode online) := by
  unfold onlineNotify
  cases online with
  | false => exact capsInv_of_last (by simp [emitCapabilitiesChanged, emit, getDynamicCaps])
  | true =>
    have hnow : CapsInv { s with lastOnline := some true } := hs.congr rfl rfl rfl
    simp only [if_true]
    split_ifs
    · exact capsInv_load hnow creds mode
    · exact capsInv_check hnow creds mode

/-- A handler leaves the right announcement exactly when it is allowed. -/
theorem capsInv_step (hs : CapsInv s) (e : FlickrEvent) :
    (CapsOk s e → CapsInv (s.step e)) ∧ (Announced (s.step e) → CapsOk s e) := by
  cases e with
  | credentialsUpdated creds load =>
    exact ⟨fun _ => capsInv_credentialsUpdated hs creds load, fun _ => trivial⟩
  | onlineNotify creds call online =>
    exact ⟨fun _ => capsInv_onlineNotify hs creds call online, fun _ => trivial⟩
  | credentialsAvailable creds isOnline check available =>
    have hcount : CapsInv { s with loads := s.loads - 1 } := hs.congr rfl rfl rfl
    dsimp only [step]
    by_cases hloads : s.loads = 0
    · rw [if_pos hloads]
      refine ⟨fun _ => hs, fun _ => ?_⟩
      cases available with
      | false => trivial
      | true => exact fun h => absurd hloads h
    · rw [if_neg hloads]
      refine ⟨fun hok => capsInv_onCredentialsAvailable hcount isOnline available ?_, fun h => ?_⟩
      · intro heq
        subst heq
        exact hok hloads
      · cases available with
        | false => trivial
        | true => exact fun _ => (announced_onCredentialsAvailable hcount isOnline true).1 h rfl
  | credentialsChecked creds credentialsOk =>
    refine ⟨fun _ => ?_, fun _ => trivial⟩
    dsimp only [step]
    split_ifs
    · exact hs
    · exact capsInv_onCredentialsChecked _ creds credentialsOk

theorem capsInv_start (creds : FlickrCredentials) (load : CallMode) : CapsInv (start creds load) :=
  capsInv_credentialsUpdated ⟨fun _ h => (by cases h), fun h => (by cases h)⟩ creds load

/-- **The client's capabilities are right in every state of a run exactly when no keys become
available to an authorised service, or the check they lead to fails at once.** -/
theorem announced_iff (creds : FlickrCredentials) (load : CallMode) (es : List FlickrEvent) :
    EveryState step Announced (start creds load) es ↔ EveryStep step CapsOk (start creds load) es :=
  everyState_iff_everyStep (fun _ (hs : CapsInv _) => hs.announced)
    (fun _ e hs => (capsInv_step hs e).1) (fun _ e hs => (capsInv_step hs e).2)
    (capsInv_start creds load)

/-- An authorised service is told that it is online, and the keys become available again. -/
def availableAgain : List FlickrEvent :=
  [.credentialsAvailable someCreds true .deferred true, .credentialsChecked someCreds true,
    .onlineNotify someCreds .deferred true, .credentialsAvailable someCreds true .deferred true]

/-- The client then holds that the credentials are valid, and the service that they are not. -/
theorem availableAgain_not_announced :
    ¬ ∀ (creds : FlickrCredentials) (load : CallMode) (es : List FlickrEvent),
      EveryState step Announced (start creds load) es := by
  intro hall
  have hlast := (hall someCreds .deferred availableAgain).last
  exact absurd (hlast [IS_CONFIGURED, CREDENTIALS_VALID] (by decide)) (by decide)

end SwServiceFlickr

end LibSocialWeb
