import LibSocialWeb.Facebook.Collections
import LibSocialWeb.Service.CollectionIds

/-!
# Uploads to Facebook (`services/facebook/facebook.c`)

A photo goes to the album of the field `collection`, or to `me/photos`. The field is not read for a
video: there is no album in the request, whatever the client wrote there.

**Main results.** `idChecked_getDetails_iff`, `idChecked_uploadPhoto_iff`,
`idChecked_uploadVideo_iff`: when the ids of a client are checked.
-/

namespace LibSocialWeb

namespace Facebook

def photoUploadParams : List (String × String) := [("title", "message")]

def videoUploadParams : List (String × String) :=
  [("title", "title"), ("description", "description"), ("x-facebook-privacy", "privacy")]

/-- `_upload_file` -/
def uploadFile (hasProxy : Bool) (accessToken : Option String) (uploadType : Nat)
    (request : UploadRequest) : UploadBegan :=
  if !hasProxy then .returned none
  else
    match request.contents with
    | .error message => .returned (some message)
    | .ok contents =>
      if uploadType = PHOTO then
        match request.fields.lookup "collection" with
        | some album =>
          if !hasPrefix album ALBUM_PREFIX then
            .failed ("Facebook collection ID " ++ album ++ " must start with '" ++ ALBUM_PREFIX ++
              "'")
          else
            .sent ⟨some (afterPrefix album ALBUM_PREFIX ++ "/photos"),
              mapParams photoUploadParams request.fields, true⟩ contents
        | none =>
          .sent ⟨some "me/photos", mapParams photoUploadParams request.fields, true⟩ contents
      else if uploadType = VIDEO then
        .sent ⟨some "restserver.php?method=video.upload",
          [("access_token", accessToken), ("format", some "json")] ++
            mapParams videoUploadParams request.fields, true⟩ contents
      else .returned none

/-! ## The ids of a client -/

variable {hasProxy : Bool} {id : String}

/-- `GetDetails` checks the id once it has looked at the proxy. -/
theorem idChecked_getDetails_iff (libs : NullHandling) :
    IdChecked ALBUM_PREFIX id (fun albumId request => request.function = some albumId)
      (collectionsGetDetails libs hasProxy id).answer ↔
        hasProxy = true ∨ hasPrefix id ALBUM_PREFIX = true := by
  unfold collectionsGetDetails
  cases hasProxy with
  | false => exact idChecked_nothing_iff.trans (or_iff_right Bool.false_ne_true).symm
  | true =>
    cases hid : hasPrefix id ALBUM_PREFIX with
    | false => exact iff_of_true (idChecked_error _) (Or.inl rfl)
    | true =>
      refine iff_of_true ((idChecked_asked_iff ?_).2 hid) (Or.inl rfl)
      intro albumId heq
      rw [heq, afterPrefix_append]

/-- So does the upload of a photo. -/
theorem idChecked_uploadPhoto_iff {accessToken : Option String} {request : UploadRequest}
    (hid : request.fields.lookup "collection" = some id) :
    IdChecked ALBUM_PREFIX id
      (fun albumId request => request.function = some (albumId ++ "/photos"))
      (uploadFile hasProxy accessToken PHOTO request).answer ↔
        hasProxy = true ∨ hasPrefix id ALBUM_PREFIX = true := by
  unfold uploadFile
  cases hasProxy with
  | false => exact idChecked_nothing_iff.trans (or_iff_right Bool.false_ne_true).symm
  | true =>
    refine iff_of_true ?_ (Or.inl rfl)
    cases hcontents : request.contents with
    | error message => exact idChecked_error message
    | ok contents =>
      simp only [hid, Bool.not_true, Bool.false_eq_true, if_false, if_true]
      cases hprefix : hasPrefix id ALBUM_PREFIX with
      | false => exact idChecked_error _
      | true =>
        refine (idChecked_asked_iff ?_).2 hprefix
        intro albumId heq
        rw [heq, afterPrefix_append]

/-- The upload of a video checks nothing; only a file that cannot be opened ends it with an
error. -/
theorem idChecked_uploadVideo_iff {accessToken : Option String} {request : UploadRequest} :
    IdChecked ALBUM_PREFIX id (fun _ _ => True)
      (uploadFile hasProxy accessToken VIDEO request).answer ↔
        (hasProxy = true ∧ request.contents.isOk = false) ∨ hasPrefix id ALBUM_PREFIX = true := by
  unfold uploadFile
  cases hasProxy with
  | false =>
    refine idChecked_nothing_iff.trans (or_iff_right ?_).symm
    exact fun h => Bool.false_ne_true h.1
  | true =>
    cases hcontents : request.contents with
    | error message => exact iff_of_true (idChecked_error message) (Or.inl ⟨rfl, rfl⟩)
    | ok contents =>
      refine (idChecked_asked_iff fun _ _ => trivial).trans (or_iff_right ?_).symm
      exact fun h => Bool.noConfusion h.2

end Facebook

end LibSocialWeb
