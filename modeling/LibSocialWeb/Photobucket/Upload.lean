import LibSocialWeb.Photobucket.Collections
import LibSocialWeb.Service.CollectionIds

/-!
# Uploads to Photobucket (`services/photobucket/photobucket.c`)

Photos and videos go to the album of the field `collection`, or to the album of the user.

**Main results.** `idChecked_getDetails`, `idChecked_upload_iff`: when the ids of a client are
checked.
-/

namespace LibSocialWeb

namespace Photobucket

def uploadParams : List (String × String) :=
  [("title", "title"), ("description", "description"), ("x-photobucket-scramble", "scramble"),
    ("x-photobucket-degrees", "degrees"), ("x-photobucket-size", "size"),
    ("x-photobucket-read-geo-exif", "read_geo_exif"), ("x-photobucket-latitude", "latitude"),
    ("x-photobucket-longitude", "longitude"), ("x-photobucket-altitude", "altitude"),
    ("x-photobucket-compass", "compass"), ("x-photobucket-gps-timestamp", "gps_timestamp")]

/-- What `_upload_file` sends to the album `id`, which is NULL if there is no user. -/
def sendTo (id : Option String) (uploadType : Nat) (request : UploadRequest)
    (contents : List UInt8) : UploadBegan :=
  .sent ⟨some "album/!/upload",
    [("id", id), ("type", some (if uploadType = VIDEO then "video" else "image"))] ++
      mapParams uploadParams request.fields, true⟩ contents

/-- `_upload_file` -/
def uploadFile (hasSiloProxy : Bool) (uid : Option String) (uploadType : Nat)
    (request : UploadRequest) : UploadBegan :=
  if !hasSiloProxy then .returned none
  else
    match request.contents with
    | .error message => .returned (some message)
    | .ok contents =>
      match request.fields.lookup "collection" with
      | none => sendTo uid uploadType request contents
      | some collectionId =>
        if !hasPrefix collectionId ALBUM_PREFIX then
          .failed ("collection (" ++ collectionId ++ ") must be in the format: " ++ ALBUM_PREFIX ++
            "albumid")
        else sendTo (some (afterPrefix collectionId ALBUM_PREFIX)) uploadType request contents

/-! ## The ids of a client -/

variable {hasSiloProxy : Bool} {id : String}

/-- The request has the parameter `id`. -/
def CarriesId (albumId : String) (request : RestRequest) : Prop :=
  request.params.lookup "id" = some (some albumId)

/-- `GetDetails` checks the id before anything else. -/
theorem idChecked_getDetails (libs : NullHandling) :
    IdChecked ALBUM_PREFIX id CarriesId (collectionsGetDetails libs hasSiloProxy id).answer := by
  unfold collectionsGetDetails
  cases hid : hasPrefix id ALBUM_PREFIX with
  | false => exact idChecked_error _
  | true =>
    cases hasSiloProxy with
    | false => exact idChecked_nothing_iff.2 hid
    | true =>
      refine (idChecked_asked_iff ?_).2 hid
      intro albumId heq
      rw [heq, afterPrefix_append]
      rfl

/-- An upload checks the id once it has looked at the proxy. -/
theorem idChecked_upload_iff {uid : Option String} {uploadType : Nat} {request : UploadRequest}
    (hid : request.fields.lookup "collection" = some id) :
    IdChecked ALBUM_PREFIX id CarriesId (uploadFile hasSiloProxy uid uploadType request).answer ↔
      hasSiloProxy = true ∨ hasPrefix id ALBUM_PREFIX = true := by
  unfold uploadFile
  cases hasSiloProxy with
  | false => exact idChecked_nothing_iff.trans (or_iff_right Bool.false_ne_true).symm
  | true =>
    refine iff_of_true ?_ (Or.inl rfl)
    cases hcontents : request.contents with
    | error message => exact idChecked_error message
    | ok contents =>
      simp only [hid, Bool.not_true, Bool.false_eq_true, if_false]
      cases hprefix : hasPrefix id ALBUM_PREFIX with
      | false => exact idChecked_error _
      | true =>
        refine (idChecked_asked_iff ?_).2 hprefix
        intro albumId heq
        rw [heq, afterPrefix_append]
        rfl

end Photobucket

end LibSocialWeb
