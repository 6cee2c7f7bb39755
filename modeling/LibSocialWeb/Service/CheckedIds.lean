import LibSocialWeb.Facebook.Upload
import LibSocialWeb.Photobucket.Upload
import LibSocialWeb.Vimeo.Collections

/-!
# Are the ids of a client checked?

A client gives a collection id to `GetDetails` or writes it into the field `collection` of an
upload. Facebook and Photobucket check the prefix before they strip it, except that Facebook does
not read the field for a video; Vimeo checks nothing.

**System.** Vimeo keeps the ids for later: those of its uploads, and those of its `GetDetails`
calls, which are in `details`. The operations of the other two are over with their request.

**Main result.** `idsChecked_iff`: along a run, no pointer leaves an id, the requests carry the
album ids that are in the ids, and the other ids get errors, exactly when each operation is `IdOk`.
-/

namespace LibSocialWeb

open Transition

structure IdServices where
  vimeo : SwServiceVimeo
  details : List String

/-- The operations that take a collection id, and the events that Vimeo goes on at. -/
inductive IdEvent where
  | facebookGetDetails (hasProxy : Bool) (collectionId : String)
  | facebookUploadPhoto (hasProxy : Bool) (accessToken : Option String) (request : UploadRequest)
  | facebookUploadVideo (hasProxy : Bool) (accessToken : Option String) (request : UploadRequest)
  | photobucketGetDetails (hasSiloProxy : Bool) (collectionId : String)
  | photobucketUpload (hasSiloProxy : Bool) (uid : Option String) (uploadType : Nat)
      (request : UploadRequest)
  | vimeoGetDetails (hasSimpleProxy : Bool) (collectionId : String)
  | vimeoDetailsReply (i : Nat) (error : Option String) (call : RestProxyCall XmlNode)
  | vimeo (e : VimeoEvent)

namespace IdServices

def init : IdServices := ⟨.init, []⟩

def step (libs : NullHandling) (s : IdServices) : IdEvent → IdServices
  | .vimeoGetDetails hasSimpleProxy collectionId =>
    { s with details := s.details ++
        (Vimeo.albumOpCtx s.vimeo.albumPlaceholders hasSimpleProxy collectionId).toList }
  | .vimeoDetailsReply i _ _ => { s with details := s.details.eraseIdx i }
  | .vimeo e => { s with vimeo := s.vimeo.step libs e }
  | _ => s

/-! ## The property and the condition -/

/-- The id of an operation is checked, and so are the ids that Vimeo strips at a reply. -/
def IdsChecked (libs : NullHandling) (s : IdServices) : IdEvent → Prop
  | .facebookGetDetails hasProxy collectionId =>
    IdChecked Facebook.ALBUM_PREFIX collectionId
      (fun albumId request => request.function = some albumId)
      (Facebook.collectionsGetDetails libs hasProxy collectionId).answer
  | .facebookUploadPhoto hasProxy accessToken request =>
    ∀ id, request.fields.lookup "collection" = some id →
      IdChecked Facebook.ALBUM_PREFIX id
        (fun albumId request => request.function = some (albumId ++ "/photos"))
        (Facebook.uploadFile hasProxy accessToken PHOTO request).answer
  | .facebookUploadVideo hasProxy accessToken request =>
    ∀ id, request.fields.lookup "collection" = some id →
      IdChecked Facebook.ALBUM_PREFIX id (fun _ _ => True)
        (Facebook.uploadFile hasProxy accessToken VIDEO request).answer
  | .photobucketGetDetails hasSiloProxy collectionId =>
    IdChecked Photobucket.ALBUM_PREFIX collectionId Photobucket.CarriesId
      (Photobucket.collectionsGetDetails libs hasSiloProxy collectionId).answer
  | .photobucketUpload hasSiloProxy uid uploadType request =>
    ∀ id, request.fields.lookup "collection" = some id →
      IdChecked Photobucket.ALBUM_PREFIX id Photobucket.CarriesId
        (Photobucket.uploadFile hasSiloProxy uid uploadType request).answer
  | .vimeoGetDetails hasSimpleProxy collectionId =>
    IdChecked ALBUM_PREFIX collectionId (fun _ _ => True)
      (Vimeo.collectionsGetDetails libs s.vimeo.albumPlaceholders hasSimpleProxy
        collectionId).answer
  | .vimeoDetailsReply i error call =>
    ∀ albumId, s.details[i]? = some albumId →
      Vimeo.getAlbumDetailsCb libs albumId error call ≠ .error .pastEnd
  | .vimeo (.uploadVideo file _ _ collection) =>
    ∀ id, collection = some id →
      IdChecked ALBUM_PREFIX id (fun _ _ => True) (Vimeo.uploadAnswer file)
  | .vimeo (.reply i reply) =>
    ∀ c ∈ s.vimeo.callsAfter libs i reply, ∀ albumId, c.method = .addVideo albumId →
      ∀ id, c.ctx.collectionId = some id → Stripped ALBUM_PREFIX (s.vimeo.strippedId id) albumId
  | .vimeo _ => True

/-- The id has the prefix, or the operation refuses it: at Facebook and Photobucket if there is a
proxy, for a video at Facebook and for an upload to Vimeo only if the file cannot be opened. -/
def IdOk (_ : IdServices) : IdEvent → Prop
  | .facebookGetDetails hasProxy collectionId =>
    hasProxy = true ∨ hasPrefix collectionId Facebook.ALBUM_PREFIX = true
  | .facebookUploadPhoto hasProxy _ request =>
    ∀ id, request.fields.lookup "collection" = some id →
      hasProxy = true ∨ hasPrefix id Facebook.ALBUM_PREFIX = true
  | .facebookUploadVideo hasProxy _ request =>
    ∀ id, request.fields.lookup "collection" = some id →
      (hasProxy = true ∧ request.contents.isOk = false) ∨
        hasPrefix id Facebook.ALBUM_PREFIX = true
  | .photobucketUpload hasSiloProxy _ _ request =>
    ∀ id, request.fields.lookup "collection" = some id →
      hasSiloProxy = true ∨ hasPrefix id Photobucket.ALBUM_PREFIX = true
  | .vimeoGetDetails _ collectionId => hasPrefix collectionId ALBUM_PREFIX = true
  | .vimeo (.uploadVideo file _ _ collection) =>
    ∀ id, collection = some id → file.isOk = true → hasPrefix id ALBUM_PREFIX = true
  | _ => True

/-! ## The ids that Vimeo keeps -/

structure KeptIds (s : IdServices) : Prop where
  vimeo : s.vimeo.IdsPrefixed
  details : ∀ albumId ∈ s.details, hasPrefix albumId ALBUM_PREFIX = true

theorem keptIds_init : KeptIds init := ⟨SwServiceVimeo.idsPrefixed_init, List.forall_mem_nil _⟩

variable {libs : NullHandling} {s : IdServices}

/-- The id in the user data of a `GetDetails` call. -/
theorem hasPrefix_albumOpCtx (hs : KeptIds s) {hasSimpleProxy : Bool}
    {collectionId albumId : String} (hid : hasPrefix collectionId ALBUM_PREFIX = true)
    (halbum : Vimeo.albumOpCtx s.vimeo.albumPlaceholders hasSimpleProxy collectionId =
      some albumId) : hasPrefix albumId ALBUM_PREFIX = true := by
  unfold Vimeo.albumOpCtx at halbum
  cases hasSimpleProxy with
  | false => cases halbum
  | true =>
    cases hlookup : s.vimeo.albumPlaceholders.lookup collectionId with
    | none =>
      rw [hlookup] at halbum
      obtain rfl := Option.some.inj halbum
      exact hid
    | some placeholder =>
      rw [hlookup] at halbum
      exact (hs.vimeo.placeholders collectionId placeholder hlookup).2 albumId halbum

theorem keptIds_step (hs : KeptIds s) {e : IdEvent} (hok : s.IdOk e) : KeptIds (s.step libs e) := by
  cases e with
  | vimeoGetDetails hasSimpleProxy collectionId =>
    refine ⟨hs.vimeo, ?_⟩
    intro albumId hmem
    rcases List.mem_append.1 hmem with hmem | hmem
    · exact hs.details albumId hmem
    · exact hasPrefix_albumOpCtx hs hok (Option.mem_toList.1 hmem)
  | vimeoDetailsReply i error call =>
    exact ⟨hs.vimeo, fun albumId hmem => hs.details albumId (List.mem_of_mem_eraseIdx hmem)⟩
  | vimeo e =>
    refine ⟨?_, hs.details⟩
    dsimp only [step, SwServiceVimeo.step]
    split_ifs
    · cases e with
      | collectionsCreate random collectionName description =>
        exact SwServiceVimeo.idsPrefixed_collectionsCreate hs.vimeo random collectionName
          description
      | uploadVideo file title description collection =>
        exact SwServiceVimeo.idsPrefixed_uploadVideo hs.vimeo hok
      | otherUpload => exact ⟨hs.vimeo.placeholders, hs.vimeo.calls⟩
      | reply i reply => exact SwServiceVimeo.idsPrefixed_reply hs.vimeo i reply
    · exact hs.vimeo
  | _ => exact hs

/-! ## One step -/

/-- `GetDetails` of Vimeo makes a request for every id that is not that of a placeholder. -/
theorem idChecked_vimeoGetDetails_iff {hasSimpleProxy : Bool} {id : String} :
    IdChecked ALBUM_PREFIX id (fun _ _ => True)
      (Vimeo.collectionsGetDetails libs s.vimeo.albumPlaceholders hasSimpleProxy id).answer ↔
        hasPrefix id ALBUM_PREFIX = true := by
  unfold Vimeo.collectionsGetDetails
  cases hasSimpleProxy with
  | false => exact idChecked_nothing_iff
  | true =>
    cases hlookup : s.vimeo.albumPlaceholders.lookup id with
    | none => exact idChecked_asked_iff fun _ _ => trivial
    | some placeholder =>
      cases hreal : placeholder.realId with
      | none =>
        dsimp only
        rw [hreal]
        exact idChecked_nothing_iff
      | some realId =>
        dsimp only
        rw [hreal]
        exact idChecked_asked_iff fun _ _ => trivial

/-- An upload to Vimeo starts for every id. -/
theorem idChecked_vimeoUpload_iff {file : Except String Nat} {id : String} :
    IdChecked ALBUM_PREFIX id (fun _ _ => True) (Vimeo.uploadAnswer file) ↔
      (file.isOk = true → hasPrefix id ALBUM_PREFIX = true) := by
  cases file with
  | error message => exact iff_of_true (idChecked_error message) fun h => Bool.noConfusion h
  | ok fileLength =>
    refine (idChecked_asked_iff fun _ _ => trivial).trans ?_
    exact ⟨fun hid _ => hid, fun hid => hid rfl⟩

theorem idsChecked_step_iff (hs : KeptIds s) (e : IdEvent) :
    s.IdsChecked libs e ↔ s.IdOk e := by
  cases e with
  | facebookGetDetails hasProxy collectionId => exact Facebook.idChecked_getDetails_iff libs
  | facebookUploadPhoto hasProxy accessToken request =>
    exact forall₂_congr fun id hid => Facebook.idChecked_uploadPhoto_iff hid
  | facebookUploadVideo hasProxy accessToken request =>
    exact forall₂_congr fun id _ => Facebook.idChecked_uploadVideo_iff
  | photobucketGetDetails hasSiloProxy collectionId =>
    exact iff_of_true (Photobucket.idChecked_getDetails libs) trivial
  | photobucketUpload hasSiloProxy uid uploadType request =>
    exact forall₂_congr fun id hid => Photobucket.idChecked_upload_iff hid
  | vimeoGetDetails hasSimpleProxy collectionId => exact idChecked_vimeoGetDetails_iff
  | vimeoDetailsReply i error call =>
    refine iff_of_true (fun albumId hi => ?_) trivial
    have hid := hs.details albumId (List.mem_of_getElem? hi)
    exact Vimeo.getAlbumDetailsCb_ne_pastEnd libs hid error call
  | vimeo e =>
    cases e with
    | collectionsCreate random collectionName description => exact Iff.rfl
    | uploadVideo file title description collection =>
      exact forall₂_congr fun id _ => idChecked_vimeoUpload_iff
    | otherUpload => exact Iff.rfl
    | reply i reply =>
      refine iff_of_true (fun c hc albumId hm id hid => ?_) trivial
      exact SwServiceVimeo.stripped_reply hs.vimeo hc hm hid

/-- **The ids of clients are checked along a run** exactly when every operation with an id that has
no prefix is one that refuses it. -/
theorem idsChecked_iff (libs : NullHandling) (es : List IdEvent) :
    EveryStep (step libs) (IdsChecked libs) init es ↔ EveryStep (step libs) IdOk init es :=
  everyStep_iff (fun _ e hs => idsChecked_step_iff hs e)
    (fun _ _ hs hok => keptIds_step hs hok) keptIds_init

/-- A short id goes to Vimeo with an upload. -/
theorem not_idsChecked_vimeoUpload :
    ¬ ∀ (libs : NullHandling) (es : List IdEvent),
      EveryStep (step libs) (IdsChecked libs) init es := by
  intro hall
  have hrun := hall ⟨true, true, true, true, true⟩
    [.vimeo (.uploadVideo (.ok 1) none none (some "abc"))]
  have hprefix := idChecked_vimeoUpload_iff.1 (hrun.1 "abc" rfl) rfl
  exact absurd hprefix (by decide)

end IdServices

end LibSocialWeb
