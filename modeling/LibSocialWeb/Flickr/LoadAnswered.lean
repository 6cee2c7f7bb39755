import LibSocialWeb.Flickr.CredentialsManagerGOA

/-!
# Every load is answered once

A load from GNOME Online Accounts should end with one call of its callback and the release of its
closure, whatever the replies are. Two ends of the code miss that. `find_account` calls the callback
when there is no proxy of the object manager, and leaves the closure to nobody, although
`load_im` counts on it to be freed. `on_managed_objects` takes a list without a Flickr account for
no error, so that the callback is never called.

**Main result.** `answered_iff`: along a run every load without a call in flight has been answered
once and its closure released after that, exactly when every load finds the object manager and every
list of objects has a Flickr account.
-/

namespace LibSocialWeb

open InFlight Transition

namespace FlickrCredentialsManagerGOA

variable {s : FlickrCredentialsManagerGOA}

/-- Loads without a call in flight have been answered once. -/
def Answered (s : FlickrCredentialsManagerGOA) : Prop :=
  s.requests.EachClosed DBusCall.closure AnsweredOnce

/-- A load finds the object manager, and a list of objects has a Flickr account. -/
def AnswerOk (s : FlickrCredentialsManagerGOA) : GoaEvent → Prop
  | .load bus mgrProxy => s.hasMgrProxy bus mgrProxy = true
  | .managedObjects closure (some content) _ =>
    .getManagedObjects closure ∈ s.requests.calls →
      ∃ object ∈ content, object.isFlickr = true
  | _ => True

/-! ## Steps and runs -/

/-- The reply with the objects closes the load, or asks for the token of a Flickr account. -/
theorem answered_managedObjects (h : s.requests.WellNumbered DBusCall.closure) {closure : Nat}
    (hc : .getManagedObjects closure ∈ s.requests.calls)
    (resultData : Option (List ManagedObject)) (proxy : Bool) :
    (s.step (.managedObjects closure resultData proxy)).requests.WellNumbered DBusCall.closure ∧
      (Answered (s.step (.managedObjects closure resultData proxy)) ↔
        AnswerOk s (.managedObjects closure resultData proxy) ∧ Answered s) := by
  have hi : (DBusCall.getManagedObjects closure).closure = closure := rfl
  unfold Answered
  dsimp only [step]
  rw [if_pos hc]
  cases resultData with
  | none =>
    rw [requests_onManagedObjects_error]
    refine ⟨Requests.wellNumbered_closed h hc hi, ?_⟩
    rw [Requests.eachClosed_closed h hc hi]
    simp [AnswerOk, answeredOnce_pair]
  | some content =>
    cases hfind : content.find? ManagedObject.isFlickr with
    | none =>
      rw [requests_onManagedObjects_none _ hfind]
      refine ⟨Requests.wellNumbered_closed h hc hi, ?_⟩
      rw [Requests.eachClosed_closed h hc hi]
      have hno : ¬ ∃ object ∈ content, object.isFlickr = true := by
        simpa using List.find?_eq_none.1 hfind
      simp only [not_answeredOnce_nil, false_and, false_iff, not_and]
      exact fun hok => absurd (hok hc) hno
    | some object =>
      have hok : AnswerOk s (.managedObjects closure (some content) proxy) :=
        fun _ => ⟨object, List.mem_of_find?_eq_some hfind, List.find?_some hfind⟩
      rcases requests_onManagedObjects_some (.getManagedObjects closure) hfind with
        ⟨holds, hreq⟩ | ⟨account, hreq⟩
      · rw [hreq]
        refine ⟨Requests.wellNumbered_closed h hc hi, ?_⟩
        rw [Requests.eachClosed_closed h hc hi]
        simp [hok, answeredOnce_pair]
      · have hcc : (DBusCall.getAccessToken closure account).closure =
            (DBusCall.getManagedObjects closure).closure := rfl
        rw [hreq]
        refine ⟨Requests.wellNumbered_passed h hc hcc, ?_⟩
        rw [Requests.eachClosed_passed h hc hcc]
        simp [hok]

/-- A step keeps the requests in order, and the loads answered exactly when it is allowed. -/
theorem answered_step (h : s.requests.WellNumbered DBusCall.closure) (e : GoaEvent) :
    (s.step e).requests.WellNumbered DBusCall.closure ∧
      (Answered (s.step e) ↔ AnswerOk s e ∧ Answered s) := by
  cases e with
  | load bus mgrProxy =>
    unfold Answered
    dsimp only [step, AnswerOk]
    rw [requests_load]
    split
    · rename_i hmgr
      refine ⟨Requests.wellNumbered_opened h rfl, ?_⟩
      rw [Requests.eachClosed_opened rfl]
      simp [hmgr]
    · rename_i hmgr
      refine ⟨Requests.wellNumbered_refused h, ?_⟩
      rw [Requests.eachClosed_refused h]
      simp [hmgr, not_answeredOnce_callback]
  | managedObjects closure resultData proxy =>
    by_cases hc : .getManagedObjects closure ∈ s.requests.calls
    · exact answered_managedObjects h hc resultData proxy
    · dsimp only [step]
      rw [if_neg hc]
      refine ⟨h, ?_⟩
      cases resultData <;> simp [AnswerOk, hc]
  | accessToken closure proxy data =>
    have hi : (DBusCall.getAccessToken closure proxy).closure = closure := rfl
    unfold Answered
    dsimp only [step]
    by_cases hc : .getAccessToken closure proxy ∈ s.requests.calls
    · rw [if_pos hc]
      rw [requests_onAccessToken]
      refine ⟨Requests.wellNumbered_closed h hc hi, ?_⟩
      rw [Requests.eachClosed_closed h hc hi]
      simp [AnswerOk, answeredOnce_pair]
    · rw [if_neg hc]
      exact ⟨h, by simp [AnswerOk]⟩

theorem wellNumbered_init : init.requests.WellNumbered DBusCall.closure :=
  Requests.wellNumbered_none

theorem answered_init : Answered init := Requests.eachClosed_none

/-- **Every load is answered once, and its closure released after that, exactly when every load
finds the object manager and every list of objects has a Flickr account.** -/
theorem answered_iff (es : List GoaEvent) :
    EveryState step Answered init es ↔ EveryStep step AnswerOk init es :=
  everyState_iff_everyStep
    (fun s (hs : s.requests.WellNumbered DBusCall.closure ∧ Answered s) => hs.2)
    (fun _ e hs hok => ⟨(answered_step hs.1 e).1, (answered_step hs.1 e).2.2 ⟨hok, hs.2⟩⟩)
    (fun _ e hs hP => ((answered_step hs.1 e).2.1 hP).1)
    ⟨wellNumbered_init, answered_init⟩

/-- A user without a Flickr account. -/
def noAccount : List GoaEvent := [.load true true, .managedObjects 0 (some []) true]

/-- Nothing is in flight then, and the load has not been answered. -/
theorem noAccount_not_answered :
    ¬ ∀ es : List GoaEvent, (runFrom step init es).requests.calls = [] →
      Answered (runFrom step init es) := by
  intro hall
  have hanswered := hall noAccount (by decide) 0 ⟨by decide, by decide⟩
  have hhistory : (runFrom step init noAccount).requests.history 0 = [] := by decide
  rw [hhistory] at hanswered
  exact not_answeredOnce_nil hanswered

end FlickrCredentialsManagerGOA

end LibSocialWeb
