import LibSocialWeb.Facebook.Service
import LibSocialWeb.Lastfm.Service
import LibSocialWeb.Photobucket.Service
import LibSocialWeb.Twitter.Capabilities

/-!
# What the clients of four services are told

Facebook, Last.fm, Twitter and Photobucket each have their own machine of credentials, and each has
a handler that changes the state behind `get_dynamic_caps` and does not say so.

**Main result.** `servicesAnnounced_iff`: for each service, along a run the last announced
capabilities are the present ones in every state exactly when every step is `CapsOk`.
-/

namespace LibSocialWeb

open Transition

/-- **The four services.** The clients of each have the right capabilities in every state of a run
exactly when the run keeps clear of what the service does not announce. -/
theorem servicesAnnounced_iff (graphUrl : String) (isOnline : Bool)
    (facebookEvents : List FacebookEvent) (lastfmEvents : List LastfmEvent) (key secret : String)
    (twitterEvents : List TwitterEvent) (photobucketEvents : List PhotobucketEvent) :
    (EveryState SwServiceFacebook.step SwServiceFacebook.Announced
        (.start graphUrl isOnline) facebookEvents ↔
      EveryStep SwServiceFacebook.step SwServiceFacebook.CapsOk
        (.start graphUrl isOnline) facebookEvents) ∧
    (EveryState SwServiceLastfm.step SwServiceLastfm.Announced .start lastfmEvents ↔
      EveryStep SwServiceLastfm.step SwServiceLastfm.CapsOk .start lastfmEvents) ∧
    (EveryState SwServiceTwitter.step SwServiceTwitter.Announced
        (.start key secret) twitterEvents ↔
      EveryStep SwServiceTwitter.step SwServiceTwitter.CapsOk
        (.start key secret) twitterEvents) ∧
    (EveryState SwServicePhotobucket.step SwServicePhotobucket.Announced
        (.start key secret) photobucketEvents ↔
      EveryStep SwServicePhotobucket.step SwServicePhotobucket.CapsOk
        (.start key secret) photobucketEvents) := by
  refine ⟨?_, ?_, ?_, ?_⟩
  · exact SwServiceFacebook.runAnnounced_iff graphUrl isOnline facebookEvents
  · exact SwServiceLastfm.runAnnounced_iff lastfmEvents
  · exact SwServiceTwitter.runAnnounced_iff key secret twitterEvents
  · exact SwServicePhotobucket.runAnnounced_iff key secret photobucketEvents

/-! ## A run of each service that misleads its clients -/

/-- The network goes down under a Facebook service that knows the user. -/
def facebookGoesDown : List FacebookEvent :=
  [.gotTokens true,
    .gotUserInfo none ⟨200, "OK", "\x7b\"id\":\"1\",\"name\":\"Ann\"\x7d",
      some (some (.object [("id", .value (some "1") 0), ("name", .value (some "Ann") 0)]))⟩,
    .onlineNotify false]

/-- The first answer of the Last.fm server is empty. -/
def lastfmAnswersNothing : List LastfmEvent :=
  [.foundPassword (some (some "ann", some "a")) true, .mobileSession none ⟨200, "OK", "", none⟩]

/-- A Twitter service whose account was verified is told that the network is up. -/
def twitterComesUp : List TwitterEvent :=
  [.foundPassword (some (some "ann", some "a")) true, .accessToken 0 (.ok (some "t", some "s")),
    .verified 0 SwServiceTwitter.userReply, .onlineNotify true]

/-- A Photobucket reply that tells the user. -/
def photobucketReply : RestProxyCall XmlNode where
  statusCode := 200
  statusMessage := "OK"
  payload := "<response><status>OK</status><username>ann</username></response>"
  parsed :=
    let children := [("status", [⟨"status", some "OK", [], [], []⟩]),
      ("username", [⟨"username", some "ann", [], [], []⟩])]
    some ⟨"response", none, [], children, children⟩

/-- The second check of the tokens of a Photobucket service fails. -/
def photobucketCheckFails : List PhotobucketEvent :=
  [.gotTokens (some ("t", "s")), .accessChecked photobucketReply, .onlineNotify true,
    .gotTokens (some ("t", "s")),
    .accessChecked ⟨500, "Internal Server Error", "", none⟩]

/-- None of the four services keeps its clients informed in every run. -/
theorem servicesAnnounced_not :
    (¬ ∀ graphUrl isOnline es, EveryState SwServiceFacebook.step SwServiceFacebook.Announced
      (.start graphUrl isOnline) es) ∧
    (¬ ∀ es, EveryState SwServiceLastfm.step SwServiceLastfm.Announced .start es) ∧
    (¬ ∀ key secret es, EveryState SwServiceTwitter.step SwServiceTwitter.Announced
      (.start key secret) es) ∧
    ¬ ∀ apiKey apiSecret es, EveryState SwServicePhotobucket.step
      SwServicePhotobucket.Announced (.start apiKey apiSecret) es := by
  refine ⟨fun hall => ?_, fun hall => ?_, fun hall => ?_, fun hall => ?_⟩
  · have hlast := (hall "https://graph" true facebookGoesDown).last
    exact absurd (hlast [IS_CONFIGURED] (by decide)) (by decide)
  · have hlast := (hall lastfmAnswersNothing).last
    exact absurd (hlast [IS_CONFIGURED] (by decide)) (by decide)
  · have hlast := (hall "key" "secret" twitterComesUp).last
    have htold := hlast [IS_CONFIGURED, CREDENTIALS_VALID, CAN_UPDATE_STATUS, CAN_REQUEST_AVATAR]
      (by decide)
    exact absurd htold (by decide)
  · have hlast := (hall "key" "secret" photobucketCheckFails).last
    exact absurd (hlast [IS_CONFIGURED, CREDENTIALS_VALID] (by decide)) (by decide)

end LibSocialWeb
