import LibSocialWeb.Facebook.Service
import LibSocialWeb.Lib.Method
import LibSocialWeb.Myspace.Service
import LibSocialWeb.Plurk.Service
import LibSocialWeb.Sina.Service
import LibSocialWeb.Twitter.Service

/-!
# Updates of the status

Five services implement `UpdateStatus`. The method first checks whether it can do anything; if not,
it returns without an answer, and the D-Bus call stays open for ever. Otherwise it posts the
message, answers the call, and signals `StatusUpdated` when the server has answered.

A client is told that it may call the method by the capability `can-update-status`. What the method
checks is something else: in Plurk and Twitter the id of the user, where the capability depends on
the credentials; in Sina and MySpace the id, which is also what the capability depends on; in
Facebook the proxy, which is there from the start.

**Main results.** `statusUpdates_honoured`: when a call by a client that was told so is answered in
all circumstances. `statusUpdates_balanced`: what is posted is signalled once.
`statusUpdates_verified`: when all that Sina and MySpace post is signed with the tokens of the user
that they know.
-/

namespace LibSocialWeb

open Transition Served

/-- The client was told last that it can update the status. -/
def MayUpdate (emitted : List ServiceSignal) : Prop :=
  ∃ told, lastCaps emitted = some told ∧ CAN_UPDATE_STATUS ∈ told

/-! ## Plurk -/

namespace Plurk

/-- What `_plurk_status_update_update_status` checks. -/
def updateStatus (s : SwServicePlurk) : Bool := s.data.userId.isSome

theorem ofValid_canUpdateStatus : Login.LoginService.OfValid kind CAN_UPDATE_STATUS :=
  ⟨by decide, by decide, by decide⟩

/-- A client that may call is answered. -/
def Honours (s : SwServicePlurk) : Prop := MayUpdate s.emitted → updateStatus s = true

theorem honours_iff_promised (s : SwServicePlurk) :
    Honours s ↔ Login.LoginService.Promised kind CAN_UPDATE_STATUS s :=
  ⟨fun h told htold hmem => h ⟨told, htold, hmem⟩, fun h ⟨told, htold, hmem⟩ => h told htold hmem⟩

end Plurk

/-! ## Twitter -/

namespace SwServiceTwitter

variable {s : SwServiceTwitter}

/-- What `_twitter_status_update_update_status` checks. -/
def updateStatus (s : SwServiceTwitter) : Bool := s.userId.isSome

def Honours (s : SwServiceTwitter) : Prop := MayUpdate s.emitted → s.updateStatus = true

/-- The document about a user has an id that is not empty. -/
def HonoursOk (s : SwServiceTwitter) : TwitterEvent → Prop
  | .verified index call => s.running = true → ∀ account, s.verifyCalls[index]? = some account →
      ∀ node user, nodeFromCall call = some node → userFromNode node = some user →
        user.userId.isSome = true
  | _ => True

theorem mem_getDynamicCaps_iff (s : SwServiceTwitter) :
    CAN_UPDATE_STATUS ∈ s.getDynamicCaps ↔ s.credentials = .credsValid := by
  unfold getDynamicCaps
  cases s.credentials with
  | offline => split_ifs <;> decide
  | credsInvalid =>
    show CAN_UPDATE_STATUS ∈ [IS_CONFIGURED, CREDENTIALS_INVALID] ↔ _
    decide
  | credsValid => split_ifs <;> decide

/-- Valid credentials were announced. -/
def ValidTold (s : SwServiceTwitter) : Prop :=
  s.credentials = .credsValid → MayUpdate s.emitted

theorem mayUpdate_emitCapabilitiesChanged (s : SwServiceTwitter) :
    MayUpdate s.emitCapabilitiesChanged.emitted ↔ s.credentials = .credsValid := by
  have htold : lastCaps s.emitCapabilitiesChanged.emitted = some s.getDynamicCaps :=
    lastCaps_append_caps _ _
  rw [MayUpdate, htold, ← mem_getDynamicCaps_iff]
  constructor
  · rintro ⟨told, heq, hmem⟩
    exact Option.some.inj heq ▸ hmem
  · exact fun hmem => ⟨_, rfl, hmem⟩

theorem validTold_emitCapabilitiesChanged (s : SwServiceTwitter) :
    ValidTold s.emitCapabilitiesChanged := (mayUpdate_emitCapabilitiesChanged s).2

theorem validTold_of_offline (h : s.credentials = .offline) : ValidTold s := by
  intro hvalid
  rw [h] at hvalid
  cases hvalid

theorem validTold_step (hs : ValidTold s) (e : TwitterEvent) : ValidTold (s.step e) := by
  unfold step
  split_ifs
  · cases e with
    | credentialsUpdated => exact hs
    | foundPassword found isOnline =>
      dsimp only [handle]
      split_ifs
      · exact hs
      · exact validTold_emitCapabilitiesChanged _
    | onlineNotify online => exact validTold_of_offline (credentials_onlineNotify s online)
    | accessToken index reply =>
      dsimp only [handle]
      split
      · exact hs
      · cases reply with
        | error message => exact validTold_emitCapabilitiesChanged _
        | ok tokens => exact hs
    | verified index call =>
      dsimp only [handle, verifyCb]
      split
      · exact hs
      · split
        · exact hs
        · split
          · exact hs
          · exact validTold_emitCapabilitiesChanged _
  · exact hs

/-- What a client that was just told the capabilities may rely on. -/
theorem honours_emitCapabilitiesChanged (s : SwServiceTwitter) :
    Honours s.emitCapabilitiesChanged ↔
      (s.credentials = .credsValid → s.userId.isSome = true) := by
  rw [Honours, mayUpdate_emitCapabilitiesChanged]
  exact Iff.rfl

theorem honours_verifyCb (hs : Honours s) (account : TwitterAccount)
    (call : RestProxyCall XmlNode) : Honours (s.verifyCb account call) ↔
      ∀ node user, nodeFromCall call = some node → userFromNode node = some user →
        user.userId.isSome = true := by
  unfold verifyCb
  cases hnode : nodeFromCall call with
  | none => exact iff_of_true hs (by simp)
  | some node =>
    dsimp only
    cases huser : userFromNode node with
    | none =>
      refine iff_of_true hs ?_
      intro node' user hnode' huser'
      rw [← Option.some.inj hnode', huser] at huser'
      cases huser'
    | some user =>
      refine (honours_emitCapabilitiesChanged _).trans ?_
      constructor
      · intro h node' user' hnode' huser'
        rw [← Option.some.inj hnode', huser] at huser'
        exact Option.some.inj huser' ▸ h rfl
      · exact fun h _ => h node user rfl huser

theorem honours_foundPasswordCb (hknown : s.credentials = .credsValid → s.userId.isSome = true)
    (found : Option (Option String × Option String)) (isOnline : Bool) :
    Honours (s.foundPasswordCb found isOnline) := by
  refine (honours_emitCapabilitiesChanged _).2 ?_
  cases found with
  | none =>
    intro hvalid
    cases hvalid
  | some data =>
    cases isOnline with
    | false => exact hknown
    | true =>
      intro hvalid
      have hoffline : ((({ s with username := data.1, password := data.2 } :
        SwServiceTwitter).onlineNotify false).onlineNotify true).credentials = .offline :=
        credentials_onlineNotify _ true
      exact absurd (hoffline.symm.trans hvalid) (by decide)

theorem userId_onlineNotify_true (s : SwServiceTwitter) :
    (s.onlineNotify true).userId = s.userId := by
  unfold onlineNotify
  rw [if_pos rfl]
  dsimp only
  split <;> rfl

theorem honours_onlineNotify (hs : Honours s) (online : Bool) :
    Honours (s.onlineNotify online) := by
  cases online with
  | false =>
    refine (honours_emitCapabilitiesChanged _).2 fun hvalid => ?_
    cases hvalid
  | true =>
    rw [Honours, emitted_onlineNotify_true, updateStatus, userId_onlineNotify_true]
    exact hs

/-- A handler keeps the word given to the clients exactly when it is allowed. -/
theorem honours_step (hs : Honours s) (htold : ValidTold s) (e : TwitterEvent) :
    Honours (s.step e) ↔ HonoursOk s e := by
  unfold step
  cases hrunning : s.running with
  | false =>
    refine iff_of_true hs ?_
    unfold HonoursOk
    split <;> simp [hrunning]
  | true =>
    rw [if_pos rfl]
    cases e with
    | credentialsUpdated => exact iff_of_true hs trivial
    | foundPassword found isOnline =>
      refine iff_of_true ?_ trivial
      dsimp only [handle]
      split_ifs
      · exact hs
      · exact honours_foundPasswordCb (s := { s with lookups := s.lookups - 1 })
          (fun hvalid => hs (htold hvalid)) found isOnline
    | onlineNotify online => exact iff_of_true (honours_onlineNotify hs online) trivial
    | accessToken index reply =>
      refine iff_of_true ?_ trivial
      dsimp only [handle]
      split
      · exact hs
      · cases reply with
        | error message =>
          refine (honours_emitCapabilitiesChanged _).2 fun hvalid => ?_
          cases hvalid
        | ok tokens => exact hs
    | verified index call =>
      dsimp only [handle]
      cases hcall : s.verifyCalls[index]? with
      | none => exact iff_of_true hs fun _ account h => by simp [hcall] at h
      | some account =>
        refine (honours_verifyCb (s := { s with
          verifyCalls := s.verifyCalls.eraseIdx index }) hs account call).trans ?_
        exact ⟨fun h _ _ _ => h, fun h => h hrunning account hcall⟩

theorem honours_iff (key secret : String) (es : List TwitterEvent) :
    EveryState step Honours (start key secret) es ↔
      EveryStep step HonoursOk (start key secret) es := by
  refine everyState_iff_everyStep (I := fun s => Honours s ∧ ValidTold s) (fun _ h => h.1)
    (fun s e h hok => ?_) (fun s e h => (honours_step h.1 h.2 e).1) ?_
  · exact ⟨(honours_step h.1 h.2 e).2 hok, validTold_step h.2 e⟩
  · refine ⟨fun htold => ?_, validTold_of_offline rfl⟩
    obtain ⟨told, hlast, -⟩ := htold
    cases hlast

end SwServiceTwitter

/-! ## Facebook -/

namespace SwServiceFacebook

/-- `_facebook_status_update_update_status` checks the proxy, which is made before the first event
and kept. -/
def updateStatus (_ : SwServiceFacebook) : Bool := true

def Honours (s : SwServiceFacebook) : Prop := MayUpdate s.emitted → s.updateStatus = true

end SwServiceFacebook

/-! ## Sina and MySpace -/

namespace Verified.VerifiedService

variable {R : Type}

/-- What `_sina_status_update_update_status` and `_myspace_status_update_update_status` check. -/
def updateStatus (s : VerifiedService) : Bool := s.userId.isSome

/-- The tokens of the user, and those that sign a post. -/
def signedFor (s : VerifiedService) : Option Tokens × Tokens := (s.userTokens, s.tokens)

def Honours (s : VerifiedService) : Prop := MayUpdate s.emitted → s.updateStatus = true

theorem everyState_honours (readUser : Reader R) (key secret : String) (configured : Bool)
    (es : List (VerifiedEvent R)) :
    EveryState (step readUser) Honours (start key secret configured) es := by
  refine (everyState_told readUser key secret configured es).mono ?_
  rintro s htold ⟨told, hlast, hmem⟩
  exact (htold told hlast).1 hmem

/-- Whatever calls are made, every post is signed with the tokens of the user, exactly when the run
keeps the user that of the tokens. -/
theorem posts_iff (readUser : Reader R) (key secret : String) (configured : Bool)
    (es : List (VerifiedEvent R)) :
    (∀ fs, bases fs = es → EveryState (Served.next (step readUser) updateStatus signedFor)
        (fun s => ∀ post ∈ s.taken, post.2.1 = some post.2.2)
        (Served.start (start key secret configured)) fs) ↔
      EveryStep (step readUser) (VerifiedOk readUser) (start key secret configured) es := by
  refine Iff.trans ?_ (verified_iff readUser key secret configured es)
  exact sent_iff (Q := fun signed : Option Tokens × Tokens => signed.1 = some signed.2) _ es

end Verified.VerifiedService

/-! ## Main results -/

/-- **Whoever was told that it can update the status is answered.** In Facebook, Sina and MySpace
this is so in every run. In Plurk it is so, whenever the calls are made, exactly when no login is
accepted without a user while there is none; in Twitter exactly when every verified user has an
id. -/
theorem statusUpdates_honoured (key secret : String) :
    (∀ es, (∀ fs, bases fs = es → EveryStep
        (Served.next Plurk.step Plurk.updateStatus fun _ => ()) (AtCalls Plurk.Honours)
        (Served.start Plurk.start) fs) ↔
      EveryStep Plurk.step (Login.LoginService.PromiseOk Plurk.kind) Plurk.start es) ∧
    (∀ es, (∀ fs, bases fs = es → EveryStep
        (Served.next SwServiceTwitter.step SwServiceTwitter.updateStatus fun _ => ())
        (AtCalls SwServiceTwitter.Honours) (Served.start (.start key secret)) fs) ↔
      EveryStep SwServiceTwitter.step SwServiceTwitter.HonoursOk (.start key secret) es) ∧
    (∀ graphUrl isOnline fs, EveryStep
      (Served.next SwServiceFacebook.step SwServiceFacebook.updateStatus fun _ => ())
      (AtCalls SwServiceFacebook.Honours) (Served.start (.start graphUrl isOnline)) fs) ∧
    (∀ configured fs, EveryStep
      (Served.next Sina.step Verified.VerifiedService.updateStatus
        Verified.VerifiedService.signedFor)
      (AtCalls Verified.VerifiedService.Honours) (Served.start (.start key secret configured)) fs) ∧
    ∀ configured fs, EveryStep
      (Served.next Myspace.step Verified.VerifiedService.updateStatus
        Verified.VerifiedService.signedFor)
      (AtCalls Verified.VerifiedService.Honours) (Served.start (.start key secret configured))
      fs := by
  refine ⟨fun es => ?_, fun es => ?_, fun graphUrl isOnline fs => ?_, fun configured fs => ?_,
    fun configured fs => ?_⟩
  · rw [atCalls_iff, funext fun s => propext (Plurk.honours_iff_promised s)]
    exact Login.LoginService.promised_iff Plurk.ofValid_canUpdateStatus _ es
  · rw [atCalls_iff]
    exact SwServiceTwitter.honours_iff key secret es
  · have hstep : ∀ (s : SwServiceFacebook) (e : FacebookEvent), s.Honours → (s.step e).Honours :=
      fun _ _ _ _ => rfl
    exact everyStep_atCalls (everyState_of_step hstep (fun _ => rfl) (bases fs))
  · exact everyStep_atCalls (Verified.VerifiedService.everyState_honours _ key secret configured _)
  · exact everyStep_atCalls (Verified.VerifiedService.everyState_honours _ key secret configured _)

/-- **Each message that is posted is signalled once or is under way**, in all five services. -/
theorem statusUpdates_balanced (key secret : String) :
    (∀ fs, EveryState (Served.next Plurk.step Plurk.updateStatus fun _ => ()) Balanced
      (Served.start Plurk.start) fs) ∧
    (∀ fs, EveryState (Served.next SwServiceTwitter.step SwServiceTwitter.updateStatus fun _ => ())
      Balanced (Served.start (.start key secret)) fs) ∧
    (∀ graphUrl isOnline fs, EveryState
      (Served.next SwServiceFacebook.step SwServiceFacebook.updateStatus fun _ => ()) Balanced
      (Served.start (.start graphUrl isOnline)) fs) ∧
    (∀ configured fs, EveryState
      (Served.next Sina.step Verified.VerifiedService.updateStatus
        Verified.VerifiedService.signedFor) Balanced
      (Served.start (.start key secret configured)) fs) ∧
    ∀ configured fs, EveryState
      (Served.next Myspace.step Verified.VerifiedService.updateStatus
        Verified.VerifiedService.signedFor) Balanced
      (Served.start (.start key secret configured)) fs :=
  ⟨everyState_balanced _, everyState_balanced _, fun _ _ => everyState_balanced _,
    fun _ => everyState_balanced _, fun _ => everyState_balanced _⟩

/-- **Sina and MySpace post in the name of the user that they know**, whenever the calls are made,
exactly when no tokens are changed under a user and no reply about other tokens brings one. -/
theorem statusUpdates_verified (key secret : String) (configured : Bool) :
    (∀ es, (∀ fs, bases fs = es → EveryState
        (Served.next Sina.step Verified.VerifiedService.updateStatus
          Verified.VerifiedService.signedFor)
        (fun s => ∀ post ∈ s.taken, post.2.1 = some post.2.2)
        (Served.start (.start key secret configured)) fs) ↔
      EveryStep Sina.step (Verified.VerifiedService.VerifiedOk Sina.readUser)
        (.start key secret configured) es) ∧
    ∀ es, (∀ fs, bases fs = es → EveryState
        (Served.next Myspace.step Verified.VerifiedService.updateStatus
          Verified.VerifiedService.signedFor)
        (fun s => ∀ post ∈ s.taken, post.2.1 = some post.2.2)
        (Served.start (.start key secret configured)) fs) ↔
      EveryStep Myspace.step (Verified.VerifiedService.VerifiedOk Myspace.readUser)
        (.start key secret configured) es :=
  ⟨Verified.VerifiedService.posts_iff _ key secret configured,
    Verified.VerifiedService.posts_iff _ key secret configured⟩

end LibSocialWeb
