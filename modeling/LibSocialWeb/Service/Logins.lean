import LibSocialWeb.Plurk.Service
import LibSocialWeb.Youtube.Service

/-!
# What Plurk and YouTube know and say about the user

Both services run the same machine. They differ in what happens to what they learnt from a login:
Plurk forgets the id of the user when it goes offline, YouTube never forgets its token.

**Main results.** `loginsAnnounced_iff`: when the clients have the right capabilities in every state
of a run. `loginsPresent_iff`: when the id of Plurk and the token of YouTube, which goes out with
every request and every upload, are those of the present account in every state of a run.
-/

namespace LibSocialWeb

open Transition Login

/-- **Plurk and YouTube.** The clients have the right capabilities in every state exactly when the
network comes up only while there is nothing to take back. -/
theorem loginsAnnounced_iff :
    (∀ es, EveryState Plurk.step (LoginService.Announced Plurk.kind) Plurk.start es ↔
      EveryStep Plurk.step LoginService.CapsOk Plurk.start es) ∧
    ∀ es, EveryState Youtube.step (LoginService.Announced Youtube.kind) Youtube.start es ↔
      EveryStep Youtube.step LoginService.CapsOk Youtube.start es :=
  ⟨LoginService.told_iff Plurk.kind _, LoginService.told_iff Youtube.kind _⟩

/-- **Plurk and YouTube.** What is known of the user is about the present account in every state
exactly when every answer that is taken is about it, and every result of the keyring brings it
again, or comes while nothing is known, or, in Plurk, brings an account while the service is
online. -/
theorem loginsPresent_iff :
    (∀ es, EveryState Plurk.step (LoginService.Present Plurk.kind) Plurk.start es ↔
      EveryStep Plurk.step (LoginService.PresentOk Plurk.kind) Plurk.start es) ∧
    ∀ es, EveryState Youtube.step (LoginService.Present Youtube.kind) Youtube.start es ↔
      EveryStep Youtube.step (LoginService.PresentOk Youtube.kind) Youtube.start es :=
  ⟨LoginService.present_iff Plurk.kind rfl, LoginService.present_iff Youtube.kind rfl⟩

end LibSocialWeb
