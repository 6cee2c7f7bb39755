import LibSocialWeb.Facebook.Collections
import LibSocialWeb.Photobucket.Collections
import LibSocialWeb.Smugmug.Collections

/-!
# One reply for each call of the `Collections` interface

A missing reply leaves the client waiting. Each of the three services has method calls that get
none: SmugMug for an id without an underscore, Facebook for a document without a list, Photobucket
for a failure without a message, which ends the process.

**Main result.** `collectionsAnswered_iff`: for each service, a method call gets exactly one reply
exactly when it is `CollectionsOk`.
-/

namespace LibSocialWeb

/-- **The three services.** Whatever the arguments, the reply of the server and the libraries' use
of NULL: there is one reply exactly when the call keeps clear of what its service leaves
unanswered. -/
theorem collectionsAnswered_iff (libs : NullHandling) (restProxy : Smugmug.RestProxyPointer)
    (hasProxy hasSiloProxy : Bool) (uid : Option String) (method : CollectionsMethod)
    (error : Option String) (xmlCall : RestProxyCall XmlNode)
    (jsonCall : RestProxyCall (Option JsonNode)) :
    (AnswersOnce ((Smugmug.collections restProxy method).outcome error xmlCall) ↔
      Smugmug.CollectionsOk restProxy method error xmlCall) ∧
    (AnswersOnce ((Facebook.collections libs hasProxy method).outcome error jsonCall) ↔
      Facebook.CollectionsOk libs hasProxy method jsonCall) ∧
    (AnswersOnce ((Photobucket.collections libs hasSiloProxy uid method).outcome error xmlCall) ↔
      Photobucket.CollectionsOk libs hasSiloProxy uid method error xmlCall) := by
  refine ⟨?_, ?_, ?_⟩
  · exact Smugmug.answersOnce_iff restProxy method error xmlCall
  · exact Facebook.answersOnce_iff libs hasProxy method error jsonCall
  · exact Photobucket.answersOnce_iff libs hasSiloProxy uid method error xmlCall

/-- A Facebook document with no list. -/
def facebookNoData : RestProxyCall (Option JsonNode) :=
  ⟨200, "OK", "\x7b\x7d", some (some (.object []))⟩

/-- A Photobucket document that says that something went wrong, and not what. -/
def photobucketFailure : RestProxyCall XmlNode where
  statusCode := 200
  statusMessage := "OK"
  payload := "<response><status>Exception</status></response>"
  parsed :=
    let children := [("status", [⟨"status", some "Exception", [], [], []⟩])]
    some ⟨"response", none, [], children, children⟩

/-- Each of the three services leaves a method call without a reply. -/
theorem collectionsAnswered_not :
    (¬ ∀ method error call,
      AnswersOnce ((Smugmug.collections .live method).outcome error call)) ∧
    (¬ ∀ libs method error call,
      AnswersOnce ((Facebook.collections libs true method).outcome error call)) ∧
    ¬ ∀ libs uid method error call,
      AnswersOnce ((Photobucket.collections libs true uid method).outcome error call) := by
  have hnone : ∀ outcome : Outcome, outcome = some [] ∨ outcome = none → ¬ AnswersOnce outcome := by
    rintro outcome (rfl | rfl)
    · exact not_answersOnce_nil
    · exact not_answersOnce_none
  refine ⟨fun hall => ?_, fun hall => ?_, fun hall => ?_⟩
  · exact hnone _ (.inl (by decide))
      (hall (.getDetails "smugmug-1") none ⟨200, "OK", "", none⟩)
  · exact hnone _ (.inl (by decide))
      (hall ⟨true, true, true, true, true⟩ .getList none facebookNoData)
  · exact hnone _ (.inr (by decide))
      (hall ⟨true, true, true, true, true⟩ (some "ann") .getList none photobucketFailure)

end LibSocialWeb
