import LibSocialWeb.Vimeo.Upload
import Mathlib.Algebra.Group.Int.Defs
import Mathlib.Algebra.Group.Nat.Defs

/-!
# The stages of an upload

An upload to Vimeo asks for the quota and a ticket, posts the file, has the chunks checked and the
upload completed, and then sets the title, sets the description and puts the video into an album if
the caller gave them. What comes next is decided in three callbacks, and each can end the chain.

**One reply.** `ChainOutcome` says what the reply to a call does to its chain: the next call of the
plan, or a report. `Reacts` says when it does so: a call that has succeeded goes on to the next
stage or, after the last one, to the report of 100, and one that has not to the report of -1.

**What goes wrong.** `_upload_complete_cb` does not look whether the reply has a `video_id`, which
the calls for title, description and album are given; and a payload that is no XML gives
`node_from_call` a NULL node. If librest does not take NULL, the process ends there, and the upload
has no report.

**Main results.** `reacted_onReply`: a reply that is `ReplyOk` has its outcome.
`onReply_of_not_replyOk`: one that is not ends the process.
-/

namespace LibSocialWeb

/-! ## The plan -/

/-- What `Upload` was called with, and the opid it returned. -/
structure VimeoUpload where
  opid : Int32
  fileLength : Nat
  title : Option String
  description : Option String
  collectionId : Option String
  deriving DecidableEq

inductive VimeoStage where
  | quota
  | ticket
  | file
  | chunks
  | complete
  | title
  | description
  | album
  deriving DecidableEq

namespace VimeoStage

/-- The callback of the stage makes a call with the ticket of its context. -/
def needsTicket : VimeoStage → Bool
  | .file | .chunks => true
  | _ => false

/-- The callback of the stage makes a call with the video of its context. -/
def needsVideo : VimeoStage → Bool
  | .title | .description => true
  | _ => false

end VimeoStage

namespace VimeoUpload

variable (u : VimeoUpload)

def albumPart : List VimeoStage := if u.collectionId.isSome then [.album] else []

def descriptionPart : List VimeoStage :=
  (if u.description.isSome then [.description] else []) ++ u.albumPart

def titlePart : List VimeoStage :=
  (if u.title.isSome then [.title] else []) ++ u.descriptionPart

/-- The stages of a whole upload. -/
def plan : List VimeoStage := [.quota, .ticket, .file, .chunks, .complete] ++ u.titlePart

/-- The stages that are left after one. -/
def after : VimeoStage → List VimeoStage
  | .quota => [.ticket, .file, .chunks, .complete] ++ u.titlePart
  | .ticket => [.file, .chunks, .complete] ++ u.titlePart
  | .file => [.chunks, .complete] ++ u.titlePart
  | .chunks => .complete :: u.titlePart
  | .complete => u.titlePart
  | .title => u.descriptionPart
  | .description => u.albumPart
  | .album => []

end VimeoUpload

/-- The upload of a context. -/
def VimeoUploadCtx.upload (ctx : VimeoUploadCtx) : VimeoUpload :=
  ⟨ctx.opid, ctx.fileLength, ctx.title, ctx.description, ctx.collectionId⟩

def VimeoMethod.stage : VimeoMethod → VimeoStage
  | .getQuota => .quota
  | .getTicket => .ticket
  | .uploadFile _ => .file
  | .verifyChunks => .chunks
  | .complete => .complete
  | .setTitle _ => .title
  | .setDescription _ => .description
  | .addVideo _ => .album
  | .createAlbum _ _ => .album

/-! ## Calls and their replies -/

/-- What librest promises of a call that failed on the way. -/
def RestReply.StatusTells (reply : RestReply) : Prop :=
  reply.error.isSome = true → ¬ (200 ≤ reply.statusCode ∧ reply.statusCode < 300)

instance (reply : RestReply) : Decidable reply.StatusTells :=
  inferInstanceAs (Decidable (_ → _))

/-- What a reply does to a chain. -/
inductive ChainOutcome where
  | next (c : VimeoCall)
  | failed (message : String)
  | completed (ctx : VimeoUploadCtx)

namespace ChainOutcome

def calls : ChainOutcome → List VimeoCall
  | .next c => [c]
  | _ => []

def reports (opid : Int32) : ChainOutcome → List VideoUploadProgress
  | .next _ => []
  | .failed message => [⟨opid, -1, message⟩]
  | .completed _ => [⟨opid, 100, ""⟩]

def freed : ChainOutcome → List VimeoUploadCtx
  | .completed ctx => [ctx]
  | _ => []

end ChainOutcome

namespace VimeoCall

/-- The payload has what the chain needs: room for the file, a ticket and where to post to, a chunk
of the length of the file. -/
def accepts (c : VimeoCall) (root : RestXmlNode) : Bool :=
  match c.method with
  | .getQuota => (getChildAttribute root "upload_space" "free").any fun free =>
      decide (c.ctx.fileLength ≤ asGsize (gAsciiStrtoll free))
  | .getTicket => (getChildAttribute root "ticket" "id").isSome &&
      (getChildAttribute root "ticket" "endpoint").isSome
  | .verifyChunks => (getChildAttribute root "chunk" "size").any fun size =>
      decide (asGsize (gAsciiStrtoll size) = c.ctx.fileLength)
  | _ => true

/-- The call has succeeded: it came through, and the payload is good. Of the POST of the file only
the error is looked at, which librest sets for every status outside 2xx. -/
def succeeded (c : VimeoCall) (reply : RestReply) : Bool :=
  reply.error.isNone &&
    match c.method with
    | .uploadFile _ => true
    | _ => reply.accepted.any c.accepts

/-- The call is one of the upload, with its title or description. -/
structure AskedFor (c : VimeoCall) (u : VimeoUpload) : Prop where
  upload : c.ctx.upload = u
  title : ∀ title, c.method = .setTitle title → u.title = some title
  description : ∀ description, c.method = .setDescription description →
    u.description = some description

/-- When a reply has the outcome: the chain goes on with the next stage or is completed after the
last one if the call succeeded, and has failed otherwise. -/
inductive Reacts (c : VimeoCall) (reply : RestReply) : ChainOutcome → Prop where
  | next (c' : VimeoCall) (hok : c.succeeded reply = true) (hasked : c'.AskedFor c.ctx.upload)
      (hafter : c.ctx.upload.after c.method.stage =
        c'.method.stage :: c.ctx.upload.after c'.method.stage) : Reacts c reply (.next c')
  | failed (message : String) (hno : c.succeeded reply = false) : Reacts c reply (.failed message)
  | completed (ctx : VimeoUploadCtx) (hok : c.succeeded reply = true)
      (hupload : ctx.upload = c.ctx.upload) (hafter : c.ctx.upload.after c.method.stage = []) :
      Reacts c reply (.completed ctx)

end VimeoCall

/-! ### NULL -/

namespace VimeoCall

/-- The reply gives librest no NULL that it does not take: the payload is XML where it is looked
at, and a completed upload that goes on has a video. -/
def ReplyOk (libs : NullHandling) (c : VimeoCall) (reply : RestReply) : Prop :=
  (c.method.stage ≠ .file → reply.Unreadable → (libs.find && libs.unref) = true) ∧
    (c.method = .complete → c.ctx.upload.titlePart ≠ [] → ∀ root ∈ reply.accepted,
      (getChildAttribute root "ticket" "video_id").isSome = true ∨ libs.addParam = true)

instance (libs : NullHandling) (c : VimeoCall) (reply : RestReply) :
    Decidable (c.ReplyOk libs reply) :=
  inferInstanceAs (Decidable (_ ∧ _))

/-- The context has what the callback of the call hands to librest, and the placeholder that it
writes to is there. -/
structure Ready (libs : NullHandling) (s : SwServiceVimeo) (c : VimeoCall) : Prop where
  ticketId : c.method.stage.needsTicket = true → c.ctx.ticketId.isSome = true
  videoId : c.method.stage.needsVideo = true → c.ctx.videoId.isSome = true ∨ libs.addParam = true
  placeholder : ∀ title description, c.method = .createAlbum title description →
    ∃ id, c.ctx.collectionId = some id ∧ (s.albumPlaceholders.lookup id).isSome = true

theorem Ready.mono {libs : NullHandling} {s t : SwServiceVimeo} {c : VimeoCall}
    (h : c.Ready libs s) (hplaceholders : ∀ id, (s.albumPlaceholders.lookup id).isSome = true →
      (t.albumPlaceholders.lookup id).isSome = true) : c.Ready libs t where
  ticketId := h.ticketId
  videoId := h.videoId
  placeholder title description hm := by
    obtain ⟨id, hid, hsome⟩ := h.placeholder title description hm
    exact ⟨id, hid, hplaceholders id hsome⟩

end VimeoCall

namespace SwServiceVimeo

open VimeoCall (Reacts)

/-- The service has done what the outcome of a reply asks for. -/
structure Effect (libs : NullHandling) (s : SwServiceVimeo) (c : VimeoCall) (o : ChainOutcome)
    (t : SwServiceVimeo) : Prop where
  calls : t.calls = s.calls ++ o.calls
  emitted : t.emitted = s.emitted ++ o.reports c.ctx.opid
  completed : t.completed = s.completed ++ o.freed
  running : t.running = s.running
  opid : t.opid = s.opid
  ready : ∀ d ∈ o.calls, d.Ready libs t
  placeholders : ∀ id, (s.albumPlaceholders.lookup id).isSome = true →
    (t.albumPlaceholders.lookup id).isSome = true

/-- The callback has taken its chain one stage on or ended it. -/
def Reacted (libs : NullHandling) (s : SwServiceVimeo) (c : VimeoCall) (reply : RestReply)
    (t : SwServiceVimeo) : Prop :=
  ∃ o, Reacts c reply o ∧ Effect libs s c o t

variable {libs : NullHandling} {s s' t : SwServiceVimeo} {c : VimeoCall} {reply : RestReply}
  {ctx : VimeoUploadCtx}

/-! ## The callbacks -/

/-- What becomes of the albums does not matter, as long as no placeholder goes away. -/
theorem Reacted.congr (h : Reacted libs s' c reply t) (hcalls : s'.calls = s.calls)
    (hemitted : s'.emitted = s.emitted) (hcompleted : s'.completed = s.completed)
    (hrunning : s'.running = s.running) (hopid : s'.opid = s.opid)
    (hplaceholders : ∀ id, (s.albumPlaceholders.lookup id).isSome = true →
      (s'.albumPlaceholders.lookup id).isSome = true) : Reacted libs s c reply t := by
  obtain ⟨o, ho, heffect⟩ := h
  refine ⟨o, ho, ?_, ?_, ?_, ?_, ?_, heffect.ready, ?_⟩
  · rw [heffect.calls, hcalls]
  · rw [heffect.emitted, hemitted]
  · rw [heffect.completed, hcompleted]
  · rw [heffect.running, hrunning]
  · rw [heffect.opid, hopid]
  · exact fun id hsome => heffect.placeholders id (hplaceholders id hsome)

theorem reacted_uploadError (hno : c.succeeded reply = false) (hopid : ctx.opid = c.ctx.opid)
    (message : String) : Reacted libs s c reply (s.uploadError ctx message) := by
  refine ⟨.failed message, .failed message hno, (List.append_nil _).symm, ?_,
    (List.append_nil _).symm, rfl, rfl, List.forall_mem_nil _, fun _ h => h⟩
  unfold uploadError
  rw [hopid]
  rfl

theorem reacted_callAsync {method : VimeoMethod} (hok : c.succeeded reply = true)
    (hasked : VimeoCall.AskedFor ⟨method, ctx⟩ c.ctx.upload)
    (hafter : c.ctx.upload.after c.method.stage =
      method.stage :: c.ctx.upload.after method.stage)
    (hready : VimeoCall.Ready libs s ⟨method, ctx⟩) :
    Reacted libs s c reply (s.callAsync method ctx) :=
  ⟨.next ⟨method, ctx⟩, .next _ hok hasked hafter, rfl, (List.append_nil _).symm,
    (List.append_nil _).symm, rfl, rfl, List.forall_mem_singleton.2 (hready.mono fun _ h => h),
    fun _ h => h⟩

/-- A call whose parameters librest takes. -/
theorem reacted_simpleRestAsyncRun {method : VimeoMethod} (hok : c.succeeded reply = true)
    (hasked : VimeoCall.AskedFor ⟨method, ctx⟩ c.ctx.upload)
    (hafter : c.ctx.upload.after c.method.stage =
      method.stage :: c.ctx.upload.after method.stage)
    (hgiven : method.given ctx = true ∨ libs.addParam = true)
    (hready : VimeoCall.Ready libs s ⟨method, ctx⟩) :
    Reacted libs s c reply (s.simpleRestAsyncRun libs method ctx) := by
  rw [simpleRestAsyncRun_eq, if_pos (Bool.or_eq_true_iff.2 hgiven)]
  exact reacted_callAsync hok hasked hafter hready

theorem reacted_uploadCompleted (hok : c.succeeded reply = true)
    (hupload : ctx.upload = c.ctx.upload) (hafter : c.ctx.upload.after c.method.stage = []) :
    Reacted libs s c reply (s.uploadCompleted ctx) := by
  have hopid : ctx.opid = c.ctx.opid := congrArg VimeoUpload.opid hupload
  refine ⟨.completed ctx, .completed ctx hok hupload hafter, (List.append_nil _).symm, ?_, rfl, rfl,
    rfl, List.forall_mem_nil _, fun _ h => h⟩
  unfold uploadCompleted
  rw [hopid]
  rfl

/-- A call without a title or a description. -/
theorem askedFor_of_upload {method : VimeoMethod} (hupload : ctx.upload = c.ctx.upload)
    (htitle : method.stage ≠ .title) (hdescription : method.stage ≠ .description) :
    VimeoCall.AskedFor ⟨method, ctx⟩ c.ctx.upload := by
  refine ⟨hupload, ?_, ?_⟩
  · rintro title rfl
    exact absurd rfl htitle
  · rintro description rfl
    exact absurd rfl hdescription

/-- A call that creates no album, with its ticket and its video. -/
theorem ready_of_given {method : VimeoMethod}
    (hcreate : ∀ title description, method ≠ .createAlbum title description)
    (hticket : method.stage.needsTicket = true → ctx.ticketId.isSome = true)
    (hvideo : method.stage.needsVideo = true →
      ctx.videoId.isSome = true ∨ libs.addParam = true) :
    VimeoCall.Ready libs s ⟨method, ctx⟩ where
  ticketId := hticket
  videoId := hvideo
  placeholder title description hm := absurd hm (hcreate title description)

/-- A call whose callback hands nothing of its context to librest. -/
theorem ready_of_free {method : VimeoMethod}
    (hcreate : ∀ title description, method ≠ .createAlbum title description)
    (hticket : method.stage.needsTicket = false)
    (hvideo : method.stage.needsVideo = false) :
    VimeoCall.Ready libs s ⟨method, ctx⟩ :=
  ready_of_given hcreate (fun hneeds => absurd (hticket.symm.trans hneeds) (by decide))
    fun hneeds => absurd (hvideo.symm.trans hneeds) (by decide)

theorem reacted_addVideoToAlbum (hok : c.succeeded reply = true)
    (hupload : ctx.upload = c.ctx.upload) (hcollection : ctx.collectionId.isSome = true)
    (hafter : c.ctx.upload.after c.method.stage = [.album])
    (hvideo : ctx.videoId.isSome = true ∨ libs.addParam = true) :
    Reacted libs s c reply (s.addVideoToAlbum libs ctx) := by
  obtain ⟨collectionId, hid⟩ := Option.isSome_iff_exists.1 hcollection
  have hasked : ∀ {method : VimeoMethod}, method.stage = .album →
      VimeoCall.AskedFor ⟨method, ctx⟩ c.ctx.upload := by
    intro method hstage
    exact askedFor_of_upload hupload (by rw [hstage]; decide) (by rw [hstage]; decide)
  have hadd : ∀ albumId, VimeoCall.Ready libs s ⟨.addVideo albumId, ctx⟩ :=
    fun _ => ready_of_free (by intro _ _ h; cases h) rfl rfl
  unfold addVideoToAlbum
  rw [hid]
  dsimp only
  cases hlookup : s.albumPlaceholders.lookup collectionId with
  | none => exact reacted_simpleRestAsyncRun hok (hasked rfl) hafter hvideo (hadd _)
  | some placeholder =>
    dsimp only
    cases placeholder.realId with
    | some realId => exact reacted_simpleRestAsyncRun hok (hasked rfl) hafter hvideo (hadd _)
    | none =>
      dsimp only
      rw [addParams_params, VimeoMethod.given, if_pos (Bool.or_eq_true_iff.2 hvideo)]
      have hplaceholder : (s.albumPlaceholders.lookup collectionId).isSome = true := by
        rw [hlookup]
        rfl
      have hcall : Reacted libs { s with creates := s.creates ++ [collectionId] } c reply
          ({ s with creates := s.creates ++ [collectionId] }.callAsync
            (.createAlbum placeholder.title placeholder.description) ctx) :=
        reacted_callAsync hok (hasked rfl) hafter
          ⟨(by intro h; cases h), (by intro h; cases h),
            fun _ _ _ => ⟨collectionId, hid, hplaceholder⟩⟩
      exact hcall.congr rfl rfl rfl rfl rfl fun _ h => h

theorem reacted_afterDescription (hok : c.succeeded reply = true)
    (hupload : ctx.upload = c.ctx.upload)
    (hafter : c.ctx.upload.after c.method.stage = c.ctx.upload.albumPart)
    (hvideo : ctx.upload.albumPart ≠ [] → ctx.videoId.isSome = true ∨ libs.addParam = true) :
    Reacted libs s c reply (s.afterDescription libs ctx) := by
  rw [← hupload, VimeoUpload.albumPart] at hafter
  unfold VimeoUpload.albumPart at hvideo
  have hcollection : ctx.upload.collectionId = ctx.collectionId := rfl
  rw [hcollection] at hafter hvideo
  unfold afterDescription
  split_ifs with hsome
  · rw [if_pos hsome] at hafter hvideo
    rw [hupload] at hafter
    exact reacted_addVideoToAlbum hok hupload hsome hafter (hvideo nofun)
  · rw [if_neg hsome, hupload] at hafter
    exact reacted_uploadCompleted hok hupload hafter

theorem reacted_afterTitle (hok : c.succeeded reply = true) (hupload : ctx.upload = c.ctx.upload)
    (hafter : c.ctx.upload.after c.method.stage = c.ctx.upload.descriptionPart)
    (hvideo : ctx.upload.descriptionPart ≠ [] →
      ctx.videoId.isSome = true ∨ libs.addParam = true) :
    Reacted libs s c reply (s.afterTitle libs ctx) := by
  have hdescription : c.ctx.upload.description = ctx.description :=
    (congrArg VimeoUpload.description hupload).symm
  rw [hupload, VimeoUpload.descriptionPart, hdescription] at hvideo
  rw [VimeoUpload.descriptionPart, hdescription] at hafter
  unfold afterTitle
  cases hd : ctx.description with
  | some description =>
    rw [hd] at hafter hdescription hvideo
    refine reacted_simpleRestAsyncRun hok ⟨hupload, nofun, ?_⟩ hafter (hvideo nofun)
      (ready_of_given nofun nofun fun _ => hvideo nofun)
    rintro description' h
    obtain rfl := VimeoMethod.setDescription.inj h
    exact hdescription
  | none =>
    rw [hd] at hafter hvideo
    exact reacted_afterDescription hok hupload hafter (hupload ▸ hvideo)

/-- A good root means that the call came through. -/
theorem error_isNone_of_accepted {root : RestXmlNode} (hreply : reply.StatusTells)
    (hroot : reply.accepted = some root) : reply.error.isNone = true := by
  rw [Option.isNone_iff_eq_none, ← Option.not_isSome_iff_eq_none]
  intro hsome
  unfold RestReply.accepted at hroot
  rw [if_neg (hreply hsome)] at hroot
  cases hroot

theorem succeeded_eq_accepts {root : RestXmlNode} (hreply : reply.StatusTells)
    (hroot : reply.accepted = some root) (hfile : c.method.stage ≠ .file) :
    c.succeeded reply = c.accepts root := by
  rw [VimeoCall.succeeded, error_isNone_of_accepted hreply hroot, hroot, Bool.true_and]
  cases hm : c.method with
  | uploadFile endpoint =>
    rw [hm] at hfile
    exact absurd rfl hfile
  | _ => rfl

theorem succeeded_eq_false (hroot : reply.accepted = none) (hfile : c.method.stage ≠ .file) :
    c.succeeded reply = false := by
  rw [VimeoCall.succeeded, hroot, Bool.and_eq_false_iff]
  right
  cases hm : c.method with
  | uploadFile endpoint =>
    rw [hm] at hfile
    exact absurd rfl hfile
  | _ => rfl

/-- The first lines of a callback that asks for the root. -/
theorem reacted_root {good : RestXmlNode → SwServiceVimeo} (hreply : reply.StatusTells)
    (hfile : c.method.stage ≠ .file) (hok : c.ReplyOk libs reply)
    (hgood : ∀ root, reply.accepted = some root → c.succeeded reply = c.accepts root →
      Reacted libs s c reply (good root)) :
    Reacted libs s c reply (match nodeFromCall libs reply with
      | none => s.crash
      | some (.error err) => s.uploadError c.ctx err
      | some (.ok root) => good root) := by
  rcases hnode : nodeFromCall libs reply with _ | err | root
  · obtain ⟨hunreadable, hlibs⟩ := nodeFromCall_eq_none_iff.1 hnode
    rw [hok.1 hfile hunreadable] at hlibs
    cases hlibs
  · have hnone : reply.accepted = none := by
      rw [Option.eq_none_iff_forall_ne_some]
      intro root hroot
      have hgood : nodeFromCall libs reply = some (.ok root) := nodeFromCall_eq_ok_iff.2 hroot
      rw [hnode] at hgood
      cases hgood
    exact reacted_uploadError (succeeded_eq_false hnone hfile) rfl err
  · have hroot := nodeFromCall_eq_ok_iff.1 hnode
    exact hgood root hroot (succeeded_eq_accepts hreply hroot hfile)

theorem reacted_uploadGetQuotaCb (hreply : reply.StatusTells) (hok : c.ReplyOk libs reply)
    (hm : c.method = .getQuota) : Reacted libs s c reply (s.uploadGetQuotaCb libs reply c.ctx) := by
  unfold uploadGetQuotaCb
  cases herror : reply.error with
  | some error =>
    refine reacted_uploadError ?_ rfl _
    rw [VimeoCall.succeeded, herror]
    rfl
  | none =>
    refine reacted_root hreply (by rw [hm]; decide) hok fun root _ hsucceeded => ?_
    rw [VimeoCall.accepts, hm] at hsucceeded
    cases hfree : getChildAttribute root "upload_space" "free" with
    | none =>
      rw [hfree] at hsucceeded
      exact reacted_uploadError hsucceeded rfl _
    | some free =>
      rw [hfree, Option.any_some] at hsucceeded
      dsimp only
      split_ifs with hlt
      · exact reacted_uploadError (hsucceeded.trans (decide_eq_false (not_le.2 hlt))) rfl _
      · refine reacted_simpleRestAsyncRun (hsucceeded.trans (decide_eq_true (not_lt.1 hlt)))
          (askedFor_of_upload rfl nofun nofun) ?_ (Or.inl rfl) (ready_of_free nofun rfl rfl)
        rw [hm]
        rfl

theorem reacted_uploadGetTicketCb (hreply : reply.StatusTells) (hok : c.ReplyOk libs reply)
    (hm : c.method = .getTicket) :
    Reacted libs s c reply (s.uploadGetTicketCb libs reply c.ctx) := by
  refine reacted_root hreply (by rw [hm]; decide) hok fun root _ hsucceeded => ?_
  rw [VimeoCall.accepts, hm] at hsucceeded
  cases hid : getChildAttribute root "ticket" "id" with
  | none =>
    rw [hid] at hsucceeded
    exact reacted_uploadError hsucceeded rfl _
  | some id =>
    cases hendpoint : getChildAttribute root "ticket" "endpoint" with
    | none =>
      rw [hid, hendpoint] at hsucceeded
      exact reacted_uploadError hsucceeded rfl _
    | some endpoint =>
      rw [hid, hendpoint] at hsucceeded
      change Reacted libs s c reply (s.simpleRestAsyncRun libs (.uploadFile endpoint)
        { c.ctx with ticketId := some id })
      refine reacted_simpleRestAsyncRun hsucceeded (askedFor_of_upload rfl nofun nofun) ?_
        (Or.inl rfl) (ready_of_given nofun (fun _ => rfl) nofun)
      rw [hm]
      rfl

theorem reacted_uploadFileCb {endpoint : String} (hready : c.Ready libs s)
    (hm : c.method = .uploadFile endpoint) :
    Reacted libs s c reply (s.uploadFileCb libs reply c.ctx) := by
  have hticket : c.ctx.ticketId.isSome = true := hready.ticketId (by rw [hm]; rfl)
  have hsucceeded : c.succeeded reply = reply.error.isNone := by
    rw [VimeoCall.succeeded, hm]
    exact Bool.and_true _
  unfold uploadFileCb
  cases herror : reply.error with
  | some error =>
    rw [herror] at hsucceeded
    exact reacted_uploadError hsucceeded rfl _
  | none =>
    rw [herror] at hsucceeded
    refine reacted_simpleRestAsyncRun hsucceeded (askedFor_of_upload rfl nofun nofun) ?_
      (Or.inl hticket) (ready_of_given nofun (fun _ => hticket) nofun)
    rw [hm]
    rfl

theorem reacted_uploadVerifyCb (hreply : reply.StatusTells) (hok : c.ReplyOk libs reply)
    (hready : c.Ready libs s) (hm : c.method = .verifyChunks) :
    Reacted libs s c reply (s.uploadVerifyCb libs reply c.ctx) := by
  have hticket : c.ctx.ticketId.isSome = true := hready.ticketId (by rw [hm]; rfl)
  refine reacted_root hreply (by rw [hm]; decide) hok fun root _ hsucceeded => ?_
  rw [VimeoCall.accepts, hm] at hsucceeded
  cases hsize : getChildAttribute root "chunk" "size" with
  | none =>
    rw [hsize] at hsucceeded
    exact reacted_uploadError hsucceeded rfl _
  | some size =>
    rw [hsize, Option.any_some] at hsucceeded
    dsimp only
    split_ifs with hne
    · exact reacted_uploadError (hsucceeded.trans (decide_eq_false hne)) rfl _
    · refine reacted_simpleRestAsyncRun (hsucceeded.trans (decide_eq_true (not_not.1 hne)))
        (askedFor_of_upload rfl nofun nofun) ?_ (Or.inl hticket)
        (ready_of_given nofun (fun _ => hticket) nofun)
      rw [hm]
      rfl

theorem reacted_uploadCompleteCb (hreply : reply.StatusTells) (hok : c.ReplyOk libs reply)
    (hm : c.method = .complete) :
    Reacted libs s c reply (s.uploadCompleteCb libs reply c.ctx) := by
  have hafter : c.ctx.upload.after c.method.stage = c.ctx.upload.titlePart := by rw [hm]; rfl
  refine reacted_root hreply (by rw [hm]; decide) hok fun root hroot hsucceeded => ?_
  rw [VimeoCall.accepts, hm] at hsucceeded
  have hvideo : c.ctx.upload.titlePart ≠ [] →
      (getChildAttribute root "ticket" "video_id").isSome = true ∨ libs.addParam = true :=
    fun hmore => hok.2 hm hmore root hroot
  rw [VimeoUpload.titlePart] at hafter hvideo
  cases htitle : c.ctx.upload.title with
  | some title =>
    have htitle' : c.ctx.title = some title := htitle
    rw [htitle] at hafter hvideo
    dsimp only
    rw [htitle']
    refine reacted_simpleRestAsyncRun hsucceeded ⟨by rw [← htitle']; rfl, ?_, nofun⟩ hafter
      (hvideo nofun) (ready_of_given nofun nofun fun _ => hvideo nofun)
    rintro title' h
    obtain rfl := VimeoMethod.setTitle.inj h
    exact htitle
  | none =>
    have htitle' : c.ctx.title = none := htitle
    rw [htitle] at hafter hvideo
    dsimp only
    rw [htitle']
    have hupload : VimeoUploadCtx.upload { c.ctx with
        videoId := getChildAttribute root "ticket" "video_id", title := none } = c.ctx.upload := by
      rw [← htitle']
      rfl
    exact reacted_afterTitle hsucceeded hupload hafter (hupload ▸ hvideo)

theorem reacted_setTitleCb {title : String} (hreply : reply.StatusTells)
    (hok : c.ReplyOk libs reply) (hready : c.Ready libs s) (hm : c.method = .setTitle title) :
    Reacted libs s c reply (s.setTitleCb libs reply c.ctx) := by
  have hvideo := hready.videoId (by rw [hm]; rfl)
  refine reacted_root hreply (by rw [hm]; exact nofun) hok fun root _ hsucceeded => ?_
  rw [VimeoCall.accepts, hm] at hsucceeded
  exact reacted_afterTitle hsucceeded rfl (by rw [hm]; rfl) fun _ => hvideo

theorem reacted_setDescriptionCb {description : String} (hreply : reply.StatusTells)
    (hok : c.ReplyOk libs reply) (hready : c.Ready libs s)
    (hm : c.method = .setDescription description) :
    Reacted libs s c reply (s.setDescriptionCb libs reply c.ctx) := by
  have hvideo := hready.videoId (by rw [hm]; rfl)
  refine reacted_root hreply (by rw [hm]; exact nofun) hok fun root _ hsucceeded => ?_
  rw [VimeoCall.accepts, hm] at hsucceeded
  exact reacted_afterDescription hsucceeded rfl (by rw [hm]; rfl) fun _ => hvideo

theorem reacted_addToAlbumCb {albumId : String} (hreply : reply.StatusTells)
    (hok : c.ReplyOk libs reply) (hm : c.method = .addVideo albumId) :
    Reacted libs s c reply (s.addToAlbumCb libs albumId reply c.ctx) := by
  refine reacted_root hreply (by rw [hm]; exact nofun) hok fun root _ hsucceeded => ?_
  rw [VimeoCall.accepts, hm] at hsucceeded
  exact (reacted_uploadCompleted hsucceeded rfl (by rw [hm]; rfl)).congr rfl rfl rfl rfl rfl
    fun _ h => h

theorem reacted_createAlbumCb {title : String} {description : Option String}
    (hreply : reply.StatusTells) (hok : c.ReplyOk libs reply) (hready : c.Ready libs s)
    (hm : c.method = .createAlbum title description) :
    Reacted libs s c reply (s.createAlbumCb libs reply c.ctx) := by
  obtain ⟨id, hid, hplaceholder⟩ := hready.placeholder title description hm
  obtain ⟨placeholder, hlookup⟩ := Option.isSome_iff_exists.1 hplaceholder
  refine reacted_root hreply (by rw [hm]; exact nofun) hok fun root _ hsucceeded => ?_
  rw [VimeoCall.accepts, hm] at hsucceeded
  rw [hid, Option.bind_some, hlookup]
  exact (reacted_uploadCompleted hsucceeded rfl (by rw [hm]; rfl)).congr rfl rfl rfl rfl rfl
    fun _ => isSome_lookup_setRealId

/-- **One reply.** It takes its chain one stage on or ends it. -/
theorem reacted_onReply (hreply : reply.StatusTells) (hok : c.ReplyOk libs reply)
    (hready : c.Ready libs s) : Reacted libs s c reply (s.onReply libs c reply) := by
  unfold onReply
  cases hm : c.method with
  | getQuota => exact reacted_uploadGetQuotaCb hreply hok hm
  | getTicket => exact reacted_uploadGetTicketCb hreply hok hm
  | uploadFile endpoint => exact reacted_uploadFileCb hready hm
  | verifyChunks => exact reacted_uploadVerifyCb hreply hok hready hm
  | complete => exact reacted_uploadCompleteCb hreply hok hm
  | setTitle title => exact reacted_setTitleCb hreply hok hready hm
  | setDescription description => exact reacted_setDescriptionCb hreply hok hready hm
  | addVideo albumId => exact reacted_addToAlbumCb hreply hok hm
  | createAlbum title description => exact reacted_createAlbumCb hreply hok hready hm

/-! ### The end of the process -/

/-- A payload that is no XML, in every callback that looks at it. -/
theorem onReply_of_unreadable (hreply : reply.StatusTells) (hfile : c.method.stage ≠ .file)
    (hunreadable : reply.Unreadable) (hlibs : (libs.find && libs.unref) = false) :
    s.onReply libs c reply = s.crash := by
  have hnone : nodeFromCall libs reply = none := nodeFromCall_eq_none_iff.2 ⟨hunreadable, hlibs⟩
  have herror : reply.error = none := by
    rw [← Option.not_isSome_iff_eq_none]
    exact fun hsome => hreply hsome hunreadable.1
  unfold onReply
  cases hm : c.method with
  | getQuota =>
    dsimp only
    rw [uploadGetQuotaCb, herror, hnone]
  | getTicket =>
    dsimp only
    rw [uploadGetTicketCb, hnone]
  | uploadFile endpoint =>
    rw [hm] at hfile
    exact absurd rfl hfile
  | verifyChunks =>
    dsimp only
    rw [uploadVerifyCb, hnone]
  | complete =>
    dsimp only
    rw [uploadCompleteCb, hnone]
  | setTitle title =>
    dsimp only
    rw [setTitleCb, hnone]
  | setDescription description =>
    dsimp only
    rw [setDescriptionCb, hnone]
  | addVideo albumId =>
    dsimp only
    rw [addToAlbumCb, hnone]
  | createAlbum title description =>
    dsimp only
    rw [createAlbumCb, hnone]

theorem addVideoToAlbum_of_noVideo (hlibs : libs.addParam = false) (hvideo : ctx.videoId = none)
    (hcollection : ctx.collectionId.isSome = true) : s.addVideoToAlbum libs ctx = s.crash := by
  obtain ⟨collectionId, hid⟩ := Option.isSome_iff_exists.1 hcollection
  unfold addVideoToAlbum
  rw [hid]
  dsimp only
  cases s.albumPlaceholders.lookup collectionId with
  | none =>
    dsimp only
    rw [simpleRestAsyncRun_eq, hlibs, VimeoMethod.given, hvideo]
    rfl
  | some placeholder =>
    dsimp only
    cases placeholder.realId with
    | some realId =>
      dsimp only
      rw [simpleRestAsyncRun_eq, hlibs, VimeoMethod.given, hvideo]
      rfl
    | none =>
      dsimp only
      rw [addParams_params, hlibs, VimeoMethod.given, hvideo]
      rfl

/-- A call for the title, the description or the album is given no video. -/
theorem afterTitle_of_noVideo (hlibs : libs.addParam = false) (hvideo : ctx.videoId = none)
    (hmore : ctx.upload.descriptionPart ≠ []) : s.afterTitle libs ctx = s.crash := by
  unfold afterTitle
  cases hd : ctx.description with
  | some description =>
    dsimp only
    rw [simpleRestAsyncRun_eq, hlibs, VimeoMethod.given, hvideo]
    rfl
  | none =>
    have hcollection : ctx.collectionId.isSome = true := by
      have hdescription : ctx.upload.description = none := hd
      rw [VimeoUpload.descriptionPart, hdescription] at hmore
      by_contra hno
      exact hmore (if_neg hno)
    dsimp only
    rw [afterDescription, if_pos hcollection]
    exact addVideoToAlbum_of_noVideo hlibs hvideo hcollection

theorem uploadCompleteCb_of_noVideo {root : RestXmlNode} (hlibs : libs.addParam = false)
    (hroot : reply.accepted = some root)
    (hvideo : getChildAttribute root "ticket" "video_id" = none)
    (hmore : ctx.upload.titlePart ≠ []) : s.uploadCompleteCb libs reply ctx = s.crash := by
  unfold uploadCompleteCb
  rw [nodeFromCall_eq_ok_iff.2 hroot]
  dsimp only
  cases htitle : ctx.title with
  | some title =>
    dsimp only
    rw [simpleRestAsyncRun_eq, hlibs, VimeoMethod.given, hvideo]
    rfl
  | none =>
    have htitle' : ctx.upload.title = none := htitle
    rw [VimeoUpload.titlePart, htitle'] at hmore
    exact afterTitle_of_noVideo hlibs hvideo hmore

/-- **A bad reply** ends the process. -/
theorem onReply_of_not_replyOk (hreply : reply.StatusTells) (hbad : ¬ c.ReplyOk libs reply) :
    s.onReply libs c reply = s.crash := by
  by_cases hreadable :
      c.method.stage ≠ .file → reply.Unreadable → (libs.find && libs.unref) = true
  · rw [VimeoCall.ReplyOk, not_and] at hbad
    have hvideo := hbad hreadable
    push Not at hvideo
    obtain ⟨hm, hmore, root, hroot, hnone, hlibs⟩ := hvideo
    rw [onReply, hm]
    exact uploadCompleteCb_of_noVideo (eq_false_of_ne_true hlibs) hroot
      (Option.not_isSome_iff_eq_none.1 hnone) hmore
  · push Not at hreadable
    obtain ⟨hfile, hunreadable, hlibs⟩ := hreadable
    exact onReply_of_unreadable hreply hfile hunreadable (eq_false_of_ne_true hlibs)

end SwServiceVimeo

/-! ## The chunk size -/

namespace VimeoCall

theorem clamped_bounds (negative : Prop) [Decidable negative] (value : Nat) :
    -2 ^ 63 ≤ (if negative then max (-(value : Int)) Int64.minValue.toInt
      else min (value : Int) Int64.maxValue.toInt) ∧
    (if negative then max (-(value : Int)) Int64.minValue.toInt
      else min (value : Int) Int64.maxValue.toInt) < 2 ^ 63 := by
  have hmin : Int64.minValue.toInt = -2 ^ 63 := by decide
  have hmax : Int64.maxValue.toInt = 2 ^ 63 - 1 := by decide
  rw [hmin, hmax]
  split_ifs <;> omega

theorem gAsciiStrtoll_bounds (nptr : String) :
    -2 ^ 63 ≤ gAsciiStrtoll nptr ∧ gAsciiStrtoll nptr < 2 ^ 63 :=
  clamped_bounds _ _

theorem eq_of_asGsize_eq {n : Int} {fileLength : Nat} (hn : -2 ^ 63 ≤ n ∧ n < 2 ^ 63)
    (hlength : fileLength < 2 ^ 63) (h : asGsize n = fileLength) : n = fileLength := by
  have hmod : ((asGsize n : Nat) : Int) = n % 2 ^ 64 := by
    unfold asGsize UInt64.ofInt
    rw [UInt64.toNat_ofNat']
    omega
  rw [h] at hmod
  omega

/-- C compares the chunk size as an unsigned number. For the length of a file, which is below 2^63,
the two are equal as integers. -/
theorem chunkSize_of_succeeded {c : VimeoCall} {reply : RestReply} (hm : c.method = .verifyChunks)
    (hlength : c.ctx.fileLength < 2 ^ 63) (h : c.succeeded reply = true) :
    ∃ root size, reply.accepted = some root ∧
      getChildAttribute root "chunk" "size" = some size ∧
      gAsciiStrtoll size = c.ctx.fileLength := by
  rw [succeeded, hm, Bool.and_eq_true] at h
  obtain ⟨root, hroot, haccepts⟩ := (Option.any_eq_true _ _).1 h.2
  rw [accepts, hm] at haccepts
  obtain ⟨size, hsize, heq⟩ := (Option.any_eq_true _ _).1 haccepts
  exact ⟨root, size, hroot, hsize,
    eq_of_asGsize_eq (gAsciiStrtoll_bounds size) hlength (of_decide_eq_true heq)⟩

end VimeoCall

end LibSocialWeb
