import LibSocialWeb.Flickr.Service
import LibSocialWeb.Flickr.UploadProgress
import LibSocialWeb.Service.Collections

/-!
# Uploads to Flickr (`services/flickr/flickr.c`)

`UploadPhoto` and `UploadVideo` open the file, make a call on `upload_proxy` and answer with the
call's opid; a file that cannot be opened is answered with an error.

An `SwServiceFlickr` has its private data twice: most functions take it from `GET_PRIVATE`, while
`_create_upload_call` and `sw_service_flickr_dispose` read the field `priv` of the instance.
`sw_service_flickr_init` fills the private data but never sets the field, so that it stays the NULL
of a new instance.

`g_mapped_file_new` and what GLib tells of the file are part of the event. A step that reads
through NULL ends the process.

**Main result.** `uploadsTotal_iff`: every method is answered once, with an opid only for a call
that was started, and nothing is read through NULL, exactly along the runs in which no file can be
opened, the service is never disposed, and no good answer of a check meets a NULL proxy.
-/

namespace LibSocialWeb

open Transition

/-! ## The instance -/

/-- The field `priv`: NULL, or what `GET_PRIVATE` returns. -/
inductive PrivPointer where
  | NULL
  | GET_PRIVATE
  deriving DecidableEq, Repr

/-- An instance, with its private data. `inited` is for `GInitable`. -/
structure SwServiceFlickrInstance where
  priv : PrivPointer
  service : SwServiceFlickr
  inited : Bool
  deriving DecidableEq

namespace SwServiceFlickrInstance

/-- `g_object_new`: memory filled with zeros, and `sw_service_flickr_init`. -/
def new : SwServiceFlickrInstance := ⟨.NULL, .init, false⟩

/-- `self->priv`, followed. -/
def deref (self : SwServiceFlickrInstance) : Option SwServiceFlickr :=
  match self.priv with
  | .NULL => none
  | .GET_PRIVATE => some self.service

/-- `sw_service_flickr_initable` -/
def initable (creds : FlickrCredentials) (load : CallMode) (self : SwServiceFlickrInstance) :
    SwServiceFlickrInstance :=
  if self.inited then self
  else { self with service := self.service.credentialsUpdated creds load, inited := true }

end SwServiceFlickrInstance

/-! ## An upload -/

/-- What a step reads through NULL. -/
inductive NullRead where
  | priv
  | uploadProxy
  deriving DecidableEq, Repr

/-- A mapped file, with what `g_content_type_guess` and `g_path_get_basename` say of it. -/
structure MappedFile where
  contents : List UInt8
  contentType : String
  basename : String
  deriving DecidableEq

structure RestParam where
  name : String
  contents : List UInt8
  contentType : String
  filename : String
  deriving DecidableEq

/-- A `RestProxyCall` that sends a file. -/
structure FileCall where
  proxy : OAuthProxy
  method : String
  file : RestParam
  params : List (String × Option String)
  deriving DecidableEq

/-- The callbacks that a call is started with. -/
inductive UploadKind where
  | photo
  | video
  deriving DecidableEq

def UploadKind.callback : UploadKind → Int32 → UploadCallback → ProgressSignal
  | photo => onPhotoUploadCb
  | video => onVideoUploadCb

/-- A call that `rest_proxy_call_upload` has started. -/
structure StartedUpload where
  call : FileCall
  kind : UploadKind
  opid : Int32
  deriving DecidableEq

inductive UploadReply where
  | error (message : Option String)
  | opid (opid : Int32)
  deriving DecidableEq

/-- What a method has done: its replies to the context, and the call it started. -/
structure UploadRecord where
  replies : List UploadReply
  started : Option StartedUpload
  deriving DecidableEq

/-- `upload_params` -/
def uploadParams : List (String × String) :=
  [("title", "title"), ("description", "description"), ("x-flickr-is-public", "is_public"),
    ("x-flickr-is-friend", "is_friend"), ("x-flickr-is-family", "is_family"),
    ("x-flickr-safety-level", "safety_level"), ("x-flickr-content-type", "content_type"),
    ("x-flickr-hidden", "hidden"), ("x-flickr-tags", "tags")]

namespace SwServiceFlickrInstance

/-- `_create_upload_call`; `file` is what `g_mapped_file_new` returns, and the inner error is the
one that is propagated. -/
def createUploadCall (self : SwServiceFlickrInstance) (file : Except String MappedFile) :
    Except NullRead (Except String FileCall) :=
  match file with
  | .error message => .ok (.error message)
  | .ok map =>
    match self.deref with
    | none => .error .priv
    | some priv =>
      match priv.uploadProxy with
      | none => .error .uploadProxy
      | some proxy =>
        .ok (.ok ⟨proxy, "POST", ⟨"photo", map.contents, map.contentType, map.basename⟩, []⟩)

/-- `_flickr_upload`: the opid or -1, the error, and the call that was started. `nextOpid` is what
`sw_next_opid` returns. -/
def flickrUpload (self : SwServiceFlickrInstance) (nextOpid : Int32)
    (paramsIn : List (String × String)) (file : Except String MappedFile) (kind : UploadKind) :
    Except NullRead (Int32 × Option String × Option StartedUpload) :=
  match self.createUploadCall file with
  | .error null => .error null
  | .ok (.error message) => .ok (-1, some message, none)
  | .ok (.ok call) =>
    let call := { call with params := call.params ++ mapParams uploadParams paramsIn }
    .ok (nextOpid, none, some ⟨call, kind, nextOpid⟩)

/-- What `_flickr_upload_photo` and `_flickr_upload_video` have in common. -/
def flickrUploadMethod (kind : UploadKind) (self : SwServiceFlickrInstance) (nextOpid : Int32)
    (paramsIn : List (String × String)) (file : Except String MappedFile) :
    Except NullRead UploadRecord :=
  match self.flickrUpload nextOpid paramsIn file kind with
  | .error null => .error null
  | .ok (opid, error, started) =>
    .ok ⟨[if opid = -1 then .error error else .opid opid], started⟩

/-- `_flickr_upload_photo` -/
def flickrUploadPhoto : SwServiceFlickrInstance → Int32 → List (String × String) →
    Except String MappedFile → Except NullRead UploadRecord :=
  flickrUploadMethod .photo

/-- `_flickr_upload_video` -/
def flickrUploadVideo : SwServiceFlickrInstance → Int32 → List (String × String) →
    Except String MappedFile → Except NullRead UploadRecord :=
  flickrUploadMethod .video

/-- `sw_service_flickr_dispose` reads `priv->credentials` first. -/
def dispose (self : SwServiceFlickrInstance) : Except NullRead SwServiceFlickrInstance :=
  match self.deref with
  | none => .error .priv
  | some priv => .ok { self with service := { priv with proxy := none, uploadProxy := none } }

end SwServiceFlickrInstance

/-! ## The process -/

/-- The process: the instance, the next opid, how often a method was called and what the methods
have done, and whether something was read through NULL. -/
structure FlickrProcess where
  self : SwServiceFlickrInstance
  opid : Int32
  called : Nat
  uploads : List UploadRecord
  nullRead : Option NullRead
  deriving DecidableEq

inductive FlickrProcessEvent where
  | initable (creds : FlickrCredentials) (load : CallMode)
  | service (e : FlickrEvent)
  | uploadPhoto (filename : String) (paramsIn : List (String × String))
      (file : Except String MappedFile)
  | uploadVideo (filename : String) (paramsIn : List (String × String))
      (file : Except String MappedFile)
  | otherOpid
  | dispose

namespace FlickrProcess

/-- `g_object_new`, in a process that has given out no opid. -/
def start : FlickrProcess := ⟨.new, 1, 0, [], none⟩

/-- A method call, with what it returns. `sw_next_opid` is called for a call that is made. -/
def upload (p : FlickrProcess) (result : Except NullRead UploadRecord) : FlickrProcess :=
  match result with
  | .error null => { p with called := p.called + 1, nullRead := some null }
  | .ok record =>
    { p with
      called := p.called + 1
      opid := if record.started.isSome then p.opid + 1 else p.opid
      uploads := p.uploads ++ [record] }

/-- One event. Nothing happens in a process that has ended, and the credentials, the network and the
clients reach a service that is initialised. `otherOpid` is an upload of another service. -/
def step (p : FlickrProcess) (e : FlickrProcessEvent) : FlickrProcess :=
  if p.nullRead.isSome then p
  else
    match e with
    | .initable creds load => { p with self := p.self.initable creds load }
    | .service e =>
      if p.self.inited then { p with self := { p.self with service := p.self.service.step e } }
      else p
    | .uploadPhoto _ paramsIn file =>
      if p.self.inited then p.upload (p.self.flickrUploadPhoto p.opid paramsIn file) else p
    | .uploadVideo _ paramsIn file =>
      if p.self.inited then p.upload (p.self.flickrUploadVideo p.opid paramsIn file) else p
    | .otherOpid => { p with opid := p.opid + 1 }
    | .dispose =>
      match p.self.dispose with
      | .error null => { p with nullRead := some null }
      | .ok self => { p with self := self }

/-! ## The property and the condition -/

/-- The context has got one reply, and an opid only for a call that was started on a proxy. -/
def AnsweredOnce (record : UploadRecord) : Prop :=
  ∃ reply, record.replies = [reply] ∧
    ∀ opid, reply = .opid opid → ∃ upload, record.started = some upload ∧ upload.opid = opid

/-- Every method call was answered once, and nothing was read or set through NULL. -/
structure UploadsTotal (p : FlickrProcess) : Prop where
  all : p.uploads.length = p.called
  answered : ∀ record ∈ p.uploads, AnsweredOnce record
  nullRead : p.nullRead = none
  tokens : p.self.service.nullTokenSet = false

/-- The file of an upload cannot be opened, the service is not disposed, and a good answer finds the
two proxies there. -/
def Allowed (p : FlickrProcess) : FlickrProcessEvent → Prop
  | .uploadPhoto _ _ file => p.self.inited = true → ∃ message, file = .error message
  | .uploadVideo _ _ file => p.self.inited = true → ∃ message, file = .error message
  | .dispose => False
  | .service (.credentialsChecked _ true) =>
    p.self.inited = true → p.self.service.checks ≠ 0 →
      p.self.service.proxy.isSome = true ∧ p.self.service.uploadProxy.isSome = true
  | _ => True

/-! ## Tokens on proxies -/

section Tokens

variable (s : SwServiceFlickr) (creds : FlickrCredentials)

theorem nullTokenSet_onCredentialsChecked (credentialsOk : Bool) :
    (s.onCredentialsChecked creds credentialsOk).nullTokenSet =
      (s.nullTokenSet || credentialsOk && (s.proxy.isNone || s.uploadProxy.isNone)) := by
  cases credentialsOk with
  | false => simp [SwServiceFlickr.onCredentialsChecked, SwServiceFlickr.emitCapabilitiesChanged,
      SwServiceFlickr.emit]
  | true => simp [SwServiceFlickr.onCredentialsChecked, SwServiceFlickr.emitCapabilitiesChanged,
      SwServiceFlickr.emit, Bool.or_assoc]

theorem nullTokenSet_check (mode : CallMode) :
    (s.check creds mode).nullTokenSet = s.nullTokenSet := by
  cases mode with
  | fails =>
    rw [SwServiceFlickr.check, nullTokenSet_onCredentialsChecked, Bool.false_and, Bool.or_false]
  | deferred => rfl

theorem nullTokenSet_onCredentialsAvailable (isOnline : Bool) (mode : CallMode)
    (available : Bool) :
    (s.onCredentialsAvailable creds isOnline mode available).nullTokenSet = s.nullTokenSet := by
  unfold SwServiceFlickr.onCredentialsAvailable SwServiceFlickr.emitUserChanged
    SwServiceFlickr.emitCapabilitiesChanged SwServiceFlickr.emit
  dsimp only
  split_ifs <;> first | rfl | rw [nullTokenSet_check]

theorem nullTokenSet_load (mode : CallMode) :
    (s.load creds mode).nullTokenSet = s.nullTokenSet := by
  cases mode with
  | fails => exact nullTokenSet_onCredentialsAvailable s creds false .deferred false
  | deferred => rfl

theorem nullTokenSet_credentialsUpdated (mode : CallMode) :
    (s.credentialsUpdated creds mode).nullTokenSet = s.nullTokenSet := by
  unfold SwServiceFlickr.credentialsUpdated
  rw [nullTokenSet_load]
  split_ifs <;> rfl

theorem nullTokenSet_onlineNotify (mode : CallMode) (online : Bool) :
    (s.onlineNotify creds mode online).nullTokenSet = s.nullTokenSet := by
  unfold SwServiceFlickr.onlineNotify
  dsimp only
  split_ifs
  · exact nullTokenSet_load _ creds mode
  · exact nullTokenSet_check _ creds mode
  · rfl

/-- Only a good answer sets tokens. -/
theorem nullTokenSet_step (e : FlickrEvent) :
    (s.step e).nullTokenSet =
      (s.nullTokenSet || match e with
        | .credentialsChecked _ true =>
          !decide (s.checks = 0) && (s.proxy.isNone || s.uploadProxy.isNone)
        | _ => false) := by
  cases e with
  | credentialsUpdated creds load =>
    exact (nullTokenSet_credentialsUpdated s creds load).trans (Bool.or_false _).symm
  | onlineNotify creds call online =>
    exact (nullTokenSet_onlineNotify s creds call online).trans (Bool.or_false _).symm
  | credentialsAvailable creds isOnline check available =>
    dsimp only [SwServiceFlickr.step]
    rw [Bool.or_false]
    split_ifs
    · rfl
    · exact nullTokenSet_onCredentialsAvailable _ creds isOnline check available
  | credentialsChecked creds credentialsOk =>
    dsimp only [SwServiceFlickr.step]
    by_cases hchecks : s.checks = 0
    · cases credentialsOk <;> simp [hchecks]
    · rw [if_neg hchecks, nullTokenSet_onCredentialsChecked]
      cases credentialsOk <;> simp [hchecks]

end Tokens

/-! ## One method call -/

variable {self : SwServiceFlickrInstance} {nextOpid : Int32}
  {paramsIn : List (String × String)} {file : Except String MappedFile} {kind : UploadKind}

/-- A file that cannot be opened is answered with its error. -/
theorem flickrUploadMethod_error (message : String) :
    self.flickrUploadMethod kind nextOpid paramsIn (.error message) =
      .ok ⟨[.error (some message)], none⟩ := rfl

/-- With the field unset, an upload of a file that can be opened reads through NULL. -/
theorem flickrUploadMethod_null (h : self.priv = .NULL) (map : MappedFile) :
    self.flickrUploadMethod kind nextOpid paramsIn (.ok map) = .error .priv := by
  unfold SwServiceFlickrInstance.flickrUploadMethod SwServiceFlickrInstance.flickrUpload
    SwServiceFlickrInstance.createUploadCall SwServiceFlickrInstance.deref
  rw [h]

theorem answeredOnce_error (message : Option String) : AnsweredOnce ⟨[.error message], none⟩ := by
  refine ⟨_, rfl, ?_⟩
  intro opid h
  cases h

/-- Were the field set, an upload would need the proxy, and an opid that is not -1. -/
theorem flickrUploadMethod_set (h : self.priv = .GET_PRIVATE) {proxy : OAuthProxy}
    (hproxy : self.service.uploadProxy = some proxy) (hopid : nextOpid ≠ -1) (map : MappedFile) :
    ∃ record, self.flickrUploadMethod kind nextOpid paramsIn (.ok map) = .ok record ∧
      AnsweredOnce record := by
  unfold SwServiceFlickrInstance.flickrUploadMethod SwServiceFlickrInstance.flickrUpload
    SwServiceFlickrInstance.createUploadCall SwServiceFlickrInstance.deref
  rw [h]
  dsimp only
  rw [hproxy]
  refine ⟨_, rfl, _, rfl, ?_⟩
  intro opid heq
  rw [if_neg hopid] at heq
  cases heq
  exact ⟨_, rfl, rfl⟩

/-! ## Runs -/

/-- What every reachable state satisfies as long as the process lives. -/
structure UploadsInv (p : FlickrProcess) : Prop where
  total : UploadsTotal p
  priv : p.self.priv = .NULL

variable {p : FlickrProcess}

theorem initable_priv (creds : FlickrCredentials) (load : CallMode) :
    (self.initable creds load).priv = self.priv := by
  unfold SwServiceFlickrInstance.initable
  split_ifs <;> rfl

theorem initable_nullTokenSet (creds : FlickrCredentials) (load : CallMode) :
    (self.initable creds load).service.nullTokenSet = self.service.nullTokenSet := by
  unfold SwServiceFlickrInstance.initable
  split_ifs
  · rfl
  · exact nullTokenSet_credentialsUpdated self.service creds load

/-- A method call keeps the property exactly when the file cannot be opened. -/
theorem uploadsInv_upload (hp : UploadsInv p) (kind : UploadKind)
    (paramsIn : List (String × String)) (file : Except String MappedFile) :
    ((∃ message, file = .error message) →
      UploadsInv (p.upload (p.self.flickrUploadMethod kind p.opid paramsIn file))) ∧
    (UploadsTotal (p.upload (p.self.flickrUploadMethod kind p.opid paramsIn file)) →
      ∃ message, file = .error message) := by
  refine ⟨?_, ?_⟩
  · rintro ⟨message, rfl⟩
    rw [flickrUploadMethod_error]
    refine ⟨⟨?_, ?_, hp.total.nullRead, hp.total.tokens⟩, hp.priv⟩
    · show (p.uploads ++ [_]).length = p.called + 1
      rw [List.length_append, hp.total.all, List.length_singleton]
    · intro record hmem
      rcases List.mem_append.1 hmem with hmem | hmem
      · exact hp.total.answered record hmem
      · rw [List.mem_singleton.1 hmem]
        exact answeredOnce_error (some message)
  · intro h
    cases file with
    | error message => exact ⟨message, rfl⟩
    | ok map =>
      rw [flickrUploadMethod_null hp.priv] at h
      cases h.nullRead

/-- The methods, which need an instance that is initialised. -/
theorem uploadsInv_method (hp : UploadsInv p) (kind : UploadKind)
    (paramsIn : List (String × String)) (file : Except String MappedFile) :
    ((p.self.inited = true → ∃ message, file = .error message) →
      UploadsInv (if p.self.inited then
        p.upload (p.self.flickrUploadMethod kind p.opid paramsIn file) else p)) ∧
    (UploadsTotal (if p.self.inited then
        p.upload (p.self.flickrUploadMethod kind p.opid paramsIn file) else p) →
      p.self.inited = true → ∃ message, file = .error message) := by
  by_cases hinited : p.self.inited = true
  · rw [if_pos hinited]
    obtain ⟨hkeep, hneed⟩ := uploadsInv_upload hp kind paramsIn file
    exact ⟨fun hok => hkeep (hok hinited), fun h _ => hneed h⟩
  · rw [if_neg hinited]
    exact ⟨fun _ => hp, fun _ h => absurd h hinited⟩

theorem uploadsInv_dispose (hp : UploadsInv p) : p.self.dispose = .error .priv := by
  unfold SwServiceFlickrInstance.dispose SwServiceFlickrInstance.deref
  rw [hp.priv]

/-- An event of the credentials or the network keeps the property exactly when it is allowed. -/
theorem uploadsInv_service (hp : UploadsInv p) (hinited : p.self.inited = true) (e : FlickrEvent) :
    (p.self.service.step e).nullTokenSet = false ↔ Allowed p (.service e) := by
  rw [nullTokenSet_step, hp.total.tokens, Bool.false_or]
  cases e with
  | credentialsChecked creds credentialsOk =>
    cases credentialsOk with
    | false => exact iff_of_true rfl trivial
    | true =>
      have hnone : ∀ o : Option OAuthProxy, o.isNone = false ↔ o.isSome = true := by
        intro o
        cases o <;> simp
      show (!decide (p.self.service.checks = 0) && _) = false ↔
        (p.self.inited = true → p.self.service.checks ≠ 0 → _)
      rw [Bool.and_eq_false_imp, Bool.or_eq_false_iff, hnone, hnone, Bool.not_eq_true',
        decide_eq_false_iff_not]
      exact ⟨fun h _ => h, fun h => h hinited⟩
  | credentialsUpdated => exact iff_of_true rfl trivial
  | onlineNotify => exact iff_of_true rfl trivial
  | credentialsAvailable => exact iff_of_true rfl trivial

/-- A step keeps the property exactly when it is allowed. -/
theorem uploadsInv_step (hp : UploadsInv p) (e : FlickrProcessEvent) :
    (Allowed p e → UploadsInv (p.step e)) ∧ (UploadsTotal (p.step e) → Allowed p e) := by
  have halive : ¬ p.nullRead.isSome = true := by
    rw [hp.total.nullRead]
    exact Bool.false_ne_true
  unfold step
  rw [if_neg halive]
  cases e with
  | initable creds load =>
    refine ⟨fun _ => ⟨⟨hp.total.all, hp.total.answered, hp.total.nullRead, ?_⟩, ?_⟩,
      fun _ => trivial⟩
    · exact (initable_nullTokenSet creds load).trans hp.total.tokens
    · exact (initable_priv creds load).trans hp.priv
  | service e =>
    dsimp only
    by_cases hinited : p.self.inited = true
    · rw [if_pos hinited]
      refine ⟨?_, ?_⟩
      · intro hok
        exact ⟨⟨hp.total.all, hp.total.answered, hp.total.nullRead,
          (uploadsInv_service hp hinited e).2 hok⟩, hp.priv⟩
      · intro h
        exact (uploadsInv_service hp hinited e).1 h.tokens
    · rw [if_neg hinited]
      refine ⟨fun _ => hp, fun _ => ?_⟩
      unfold Allowed
      split <;> first | trivial | exact fun h => absurd h hinited
  | uploadPhoto filename paramsIn file => exact uploadsInv_method hp .photo paramsIn file
  | uploadVideo filename paramsIn file => exact uploadsInv_method hp .video paramsIn file
  | otherOpid =>
    exact ⟨fun _ => ⟨⟨hp.total.all, hp.total.answered, hp.total.nullRead, hp.total.tokens⟩,
      hp.priv⟩, fun _ => trivial⟩
  | dispose =>
    dsimp only
    rw [uploadsInv_dispose hp]
    refine ⟨fun h => absurd h id, ?_⟩
    intro h
    cases h.nullRead

theorem uploadsInv_start : UploadsInv start := by
  refine ⟨⟨rfl, ?_, rfl, rfl⟩, rfl⟩
  intro record hmem
  cases hmem

/-- **Main result.** Uploads are total exactly along the runs whose steps are all allowed. -/
theorem uploadsTotal_iff (es : List FlickrProcessEvent) :
    EveryState step UploadsTotal start es ↔ EveryStep step Allowed start es :=
  everyState_iff_everyStep (fun _ h => h.total) (fun _ e h => (uploadsInv_step h e).1)
    (fun _ e h => (uploadsInv_step h e).2) uploadsInv_start

/-- The credentials are loaded and checked, and a photo is uploaded. -/
def photoAfterCheck : List FlickrProcessEvent :=
  [.initable ⟨some "key", some "secret", some "token", some "tokenSecret"⟩ .deferred,
    .service (.credentialsAvailable ⟨some "key", some "secret", some "token", some "tokenSecret"⟩
      true .deferred true),
    .service (.credentialsChecked ⟨some "key", some "secret", some "token", some "tokenSecret"⟩
      true),
    .uploadPhoto "/home/me/photo.jpg" [("title", "Me")]
      (.ok ⟨[0xff, 0xd8], "image/jpeg", "photo.jpg"⟩)]

/-- The upload of an authorised service reads through NULL. -/
theorem photoAfterCheck_readsNull :
    ¬ ∀ es : List FlickrProcessEvent, EveryState step UploadsTotal start es := by
  intro hall
  have hnull : (runFrom step start photoAfterCheck).nullRead = some .priv := by decide +kernel
  have hnone := (hall photoAfterCheck).last.nullRead
  rw [hnull] at hnone
  cases hnone

end FlickrProcess

end LibSocialWeb
