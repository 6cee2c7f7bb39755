import LibSocialWeb.Lib.Run
import LibSocialWeb.Twitter.Service
import Mathlib.Tactic.SplitIfs

/-!
# The capabilities a Twitter client knows

Every handler that changes the state behind `get_dynamic_caps` announces it at its end, but for
`online_notify` when the network comes up: it sets `credentials` to `OFFLINE` to wait for the token
and says nothing.

**Main result.** `runAnnounced_iff`: along a run the last announcement is right in every state
exactly when the network comes up only while `credentials` is `OFFLINE` or nothing was announced.
-/

namespace LibSocialWeb

open Transition

namespace SwServiceTwitter

variable {s : SwServiceTwitter}

/-- The last announced capabilities, if any were announced, are the present ones. -/
def Announced (s : SwServiceTwitter) : Prop := ToldLast s.emitted s.getDynamicCaps

/-- The network must come up only while there is nothing to take back. -/
def CapsOk (s : SwServiceTwitter) : TwitterEvent → Prop
  | .onlineNotify true => s.running = true →
      lastCaps s.emitted = none ∨ s.credentials = .offline
  | _ => True

theorem announced_emitCapabilitiesChanged (s : SwServiceTwitter) :
    Announced s.emitCapabilitiesChanged :=
  toldLast_append_caps s.emitted s.getDynamicCaps

/-! ## The handlers -/

theorem announced_verifyCb (hs : Announced s) (account : TwitterAccount)
    (call : RestProxyCall XmlNode) : Announced (s.verifyCb account call) := by
  unfold verifyCb
  split
  · exact hs
  · split
    · exact hs
    · exact announced_emitCapabilitiesChanged _

theorem announced_oauthAccessTokenCb (hs : Announced s) (account : TwitterAccount)
    (reply : Except String (Option String × Option String)) :
    Announced (s.oauthAccessTokenCb account reply) := by
  cases reply with
  | error message => exact announced_emitCapabilitiesChanged _
  | ok tokens => exact hs

theorem announced_foundPasswordCb (s : SwServiceTwitter)
    (found : Option (Option String × Option String)) (isOnline : Bool) :
    Announced (s.foundPasswordCb found isOnline) :=
  announced_emitCapabilitiesChanged _

/-- Only an offline service has the capabilities of one that was never verified. -/
theorem getDynamicCaps_eq_offline_iff (s : SwServiceTwitter) :
    s.getDynamicCaps = (if s.account.isSome then [IS_CONFIGURED] else []) ↔
      s.credentials = .offline := by
  unfold getDynamicCaps
  cases s.credentials with
  | offline => simp
  | credsInvalid => split_ifs <;> simp
  | credsValid => split_ifs <;> simp

/-- **The handler that says nothing** is right only if `credentials` was `OFFLINE` before. -/
theorem announced_onlineNotify_true (hs : Announced s) :
    Announced (s.onlineNotify true) ↔
      lastCaps s.emitted = none ∨ s.credentials = .offline := by
  unfold Announced
  rw [emitted_onlineNotify_true, getDynamicCaps_of_offline (credentials_onlineNotify s true),
    account_onlineNotify, toldLast_iff_of_quiet hs, getDynamicCaps_eq_offline_iff]

theorem announced_onlineNotify_false (s : SwServiceTwitter) : Announced (s.onlineNotify false) :=
  announced_emitCapabilitiesChanged _

/-! ## Runs -/

/-- A handler leaves the right announcement exactly when it is allowed. -/
theorem announced_step (hs : Announced s) (e : TwitterEvent) :
    Announced (s.step e) ↔ CapsOk s e := by
  unfold step
  cases hrunning : s.running with
  | false =>
    refine iff_of_true hs ?_
    unfold CapsOk
    split <;> simp [hrunning]
  | true =>
    rw [if_pos rfl]
    cases e with
    | credentialsUpdated => exact iff_of_true hs trivial
    | foundPassword found isOnline =>
      refine iff_of_true ?_ trivial
      dsimp only [handle]
      split_ifs
      · exact hs
      · exact announced_foundPasswordCb _ found isOnline
    | onlineNotify online =>
      cases online with
      | false => exact iff_of_true (announced_onlineNotify_false s) trivial
      | true =>
        refine (announced_onlineNotify_true hs).trans ?_
        exact ⟨fun h _ => h, fun h => h hrunning⟩
    | accessToken index reply =>
      refine iff_of_true ?_ trivial
      dsimp only [handle]
      split
      · exact hs
      · exact announced_oauthAccessTokenCb (s := { s with
          tokenCalls := s.tokenCalls.eraseIdx index }) hs _ reply
    | verified index call =>
      refine iff_of_true ?_ trivial
      dsimp only [handle]
      split
      · exact hs
      · exact announced_verifyCb (s := { s with
          verifyCalls := s.verifyCalls.eraseIdx index }) hs _ call

/-- **A Twitter client has the right capabilities in every state of a run exactly when the network
comes up only while `credentials` is `OFFLINE` or nothing was announced.** -/
theorem runAnnounced_iff (key secret : String) (es : List TwitterEvent) :
    EveryState step Announced (start key secret) es ↔
      EveryStep step CapsOk (start key secret) es :=
  everyState_iff_of_step_iff (fun _ e hs => announced_step hs e) (toldLast_nil _)

end SwServiceTwitter

end LibSocialWeb
