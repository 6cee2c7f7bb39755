import LibSocialWeb.Lib.Interleaving
import LibSocialWeb.Vimeo.Stages

/-!
# The chain of an upload

**What is watched.** `Watched` is the service with the uploads that were begun and the calls that
were answered. `chain` takes out of it what there is of one opid: calls in flight, answered calls,
reports and freed contexts. `_upload_completed` is the one caller of `vimeo_upload_context_free`, so
`completed` lists the freed contexts.

**Interleaving.** A reply moves the chain of its opid, and the chains of other opids do not notice
(`interleaves`).

**Opids.** They are a `gint` that wraps, so one may be given out again. That takes `2 ^ 32` events:
in a run that is not longer, the replies alone decide (`everyStep_eventOk_iff`).

**Main result.** `uploadReports_iff`: an upload has one call in flight and no report, or it has
stopped for good with one report, in every state exactly if each reply is `ReplyOk` and each upload
gets an opid that no other has. The report is 100, with one freed context, if all calls of its
`plan` were made in order and succeeded, and -1 if they succeeded up to one that did not.
-/

namespace LibSocialWeb

open Transition

/-! ## Watching the service -/

namespace SwServiceVimeo

/-- The uploads for which the event returns an opid. -/
def begun (s : SwServiceVimeo) : VimeoEvent → List VimeoUpload
  | .uploadVideo (.ok fileLength) title description collection =>
    [⟨s.opid, fileLength, title, description, collection⟩]
  | _ => []

/-- The calls that the event answers. -/
def answered (s : SwServiceVimeo) : VimeoEvent → List (VimeoCall × RestReply)
  | .reply i reply => (s.calls[i]?.map fun c => (c, reply)).toList
  | _ => []

end SwServiceVimeo

/-- The replies of the event are as librest promises. -/
def VimeoEvent.StatusTells : VimeoEvent → Prop
  | .reply _ r => r.StatusTells
  | _ => True

instance : ∀ e : VimeoEvent, Decidable e.StatusTells
  | .reply _ r => inferInstanceAs (Decidable r.StatusTells)
  | .collectionsCreate _ _ _ => isTrue trivial
  | .uploadVideo _ _ _ _ => isTrue trivial
  | .otherUpload => isTrue trivial

/-- The service, the uploads that were begun, and the calls that were answered, in order. -/
structure Watched where
  service : SwServiceVimeo
  uploads : List VimeoUpload
  answers : List (VimeoCall × RestReply)

/-- What there is of one opid. -/
structure UploadChain where
  uploads : List VimeoUpload
  inFlight : List VimeoCall
  answers : List (VimeoCall × RestReply)
  reports : List VideoUploadProgress
  freed : List VimeoUploadCtx

namespace Watched

def init : Watched := ⟨SwServiceVimeo.init, [], []⟩

def step (libs : NullHandling) (w : Watched) (e : VimeoEvent) : Watched :=
  if w.service.running then
    ⟨w.service.handle libs e, w.uploads ++ w.service.begun e, w.answers ++ w.service.answered e⟩
  else w

/-- The run of the events from the start. -/
def run (libs : NullHandling) (es : List VimeoEvent) : Watched := runFrom (step libs) init es

/-- Watching changes nothing. -/
theorem service_run (libs : NullHandling) (es : List VimeoEvent) :
    (run libs es).service = runFrom (SwServiceVimeo.step libs) SwServiceVimeo.init es := by
  refine related_runFrom (R := fun (w : Watched) s => w.service = s) (C := Eq) ?_ rfl ?_
  · rintro w s e f rfl rfl
    unfold step SwServiceVimeo.step
    split_ifs <;> rfl
  · exact List.forall₂_same.2 fun _ _ => rfl

def chain (opid : Int32) (w : Watched) : UploadChain where
  uploads := w.uploads.filter (·.opid = opid)
  inFlight := w.service.calls.filter (·.ctx.opid = opid)
  answers := w.answers.filter (·.1.ctx.opid = opid)
  reports := w.service.emitted.filter (·.opid = opid)
  freed := w.service.completed.filter (·.opid = opid)

end Watched

namespace UploadChain

open VimeoCall (Reacts)

def empty : UploadChain := ⟨[], [], [], [], []⟩

/-- A chain begins with the call for the quota, and a reply to one of its calls moves it on. -/
inductive Moves (v : UploadChain) : UploadChain → Prop where
  | begun (ctx : VimeoUploadCtx) (hnew : v = empty) :
      Moves v ⟨[ctx.upload], [⟨.getQuota, ctx⟩], [], [], []⟩
  | answered (c : VimeoCall) (reply : RestReply) (others : List VimeoCall) (o : ChainOutcome)
      (hcall : v.inFlight.Perm (c :: others)) (ho : Reacts c reply o) :
      Moves v ⟨v.uploads, others ++ o.calls, v.answers ++ [(c, reply)],
        v.reports ++ o.reports c.ctx.opid, v.freed ++ o.freed⟩

/-- The stages that were answered. -/
def stages (v : UploadChain) : List VimeoStage := v.answers.map fun a => a.1.method.stage

/-- The call was one of the upload, and succeeded. -/
def Good (u : VimeoUpload) (a : VimeoCall × RestReply) : Prop :=
  a.1.AskedFor u ∧ a.1.succeeded a.2 = true

/-- One call of the upload is in flight, and those before it succeeded. -/
structure Going (u : VimeoUpload) (v : UploadChain) : Prop where
  uploads : v.uploads = [u]
  reports : v.reports = []
  freed : v.freed = []
  answers : ∀ a ∈ v.answers, Good u a
  inFlight : ∃ c, v.inFlight = [c] ∧ c.AskedFor u ∧
    v.stages ++ c.method.stage :: u.after c.method.stage = u.plan

/-- Progress 100: the calls of the plan were made in order and succeeded, and the context was
freed. -/
structure Completed (u : VimeoUpload) (v : UploadChain) (p : VideoUploadProgress) : Prop where
  progress : p.progress = 100
  stages : v.stages = u.plan
  answers : ∀ a ∈ v.answers, Good u a
  freed : ∃ ctx, v.freed = [ctx] ∧ ctx.upload = u

/-- Progress -1: the calls were made in the order of the plan, and the last of them is the one that
did not succeed. -/
structure Failed (u : VimeoUpload) (v : UploadChain) (p : VideoUploadProgress) : Prop where
  progress : p.progress = -1
  stages : v.stages <+: u.plan
  answers : ∃ before c reply, v.answers = before ++ [(c, reply)] ∧ (∀ a ∈ before, Good u a) ∧
    c.AskedFor u ∧ c.succeeded reply = false
  freed : v.freed = []

/-- The upload has no call in flight, and one report. -/
structure Stopped (u : VimeoUpload) (v : UploadChain) : Prop where
  uploads : v.uploads = [u]
  inFlight : v.inFlight = []
  report : ∃ p, v.reports = [p] ∧ (Completed u v p ∨ Failed u v p)

/-! ## One chain -/

variable {v v' : UploadChain} {u : VimeoUpload}

/-- Nothing moves a chain that has stopped. -/
theorem Stopped.not_moves (h : Stopped u v) : ¬ Moves v v' := by
  intro hmove
  cases hmove with
  | begun ctx hnew =>
    have huploads := h.uploads
    rw [hnew] at huploads
    cases huploads
  | answered c reply others o hcall ho =>
    rw [h.inFlight] at hcall
    exact List.cons_ne_nil _ _ hcall.symm.eq_nil

theorem going_begun (ctx : VimeoUploadCtx) :
    Going ctx.upload ⟨[ctx.upload], [⟨.getQuota, ctx⟩], [], [], []⟩ where
  uploads := rfl
  reports := rfl
  freed := rfl
  answers := List.forall_mem_nil _
  inFlight := ⟨⟨.getQuota, ctx⟩, rfl, ⟨rfl, nofun, nofun⟩, rfl⟩

/-- A reply to the call in flight takes the chain on or stops it. -/
theorem Going.answered {c : VimeoCall} {reply : RestReply} {others : List VimeoCall}
    {o : ChainOutcome} (h : Going u v) (hcall : v.inFlight.Perm (c :: others))
    (ho : Reacts c reply o)
    (hv' : v' = ⟨v.uploads, others ++ o.calls, v.answers ++ [(c, reply)],
      v.reports ++ o.reports c.ctx.opid, v.freed ++ o.freed⟩) : Going u v' ∨ Stopped u v' := by
  obtain ⟨d, hd, hasked, hplan⟩ := h.inFlight
  rw [hd] at hcall
  obtain ⟨rfl, rfl⟩ : d = c ∧ others = [] := by
    have heq := hcall.symm.eq_singleton
    rw [List.cons.injEq] at heq
    exact ⟨heq.1.symm, heq.2⟩
  rw [h.reports, h.freed] at hv'
  subst hv'
  have hstages : ∀ inFlight reports freed, stages ⟨v.uploads, inFlight, v.answers ++ [(d, reply)],
      reports, freed⟩ = v.stages ++ [d.method.stage] := by
    intro _ _ _
    exact List.map_append
  cases ho with
  | next c' hok hasked' hafter =>
    refine Or.inl ⟨h.uploads, rfl, rfl, ?_, c', rfl, ?_, ?_⟩
    · exact List.forall_mem_append.2 ⟨h.answers, List.forall_mem_singleton.2 ⟨hasked, hok⟩⟩
    · rwa [hasked.upload] at hasked'
    · rw [hasked.upload] at hafter
      rw [hstages, List.append_assoc, List.singleton_append, ← hafter]
      exact hplan
  | failed message hno =>
    refine Or.inr ⟨h.uploads, rfl, _, rfl, Or.inr ⟨rfl, ?_, ?_, rfl⟩⟩
    · rw [hstages]
      refine ⟨u.after d.method.stage, ?_⟩
      rw [List.append_assoc]
      exact hplan
    · exact ⟨v.answers, d, reply, rfl, h.answers, hasked, hno⟩
  | completed ctx hok hupload hafter =>
    refine Or.inr ⟨h.uploads, rfl, _, rfl, Or.inl ⟨rfl, ?_, ?_, ctx, rfl, ?_⟩⟩
    · rw [hasked.upload] at hafter
      rw [hafter] at hplan
      rw [hstages]
      exact hplan
    · exact List.forall_mem_append.2 ⟨h.answers, List.forall_mem_singleton.2 ⟨hasked, hok⟩⟩
    · exact hupload.trans hasked.upload

/-- Not begun, going or stopped. -/
def Sound (v : UploadChain) : Prop := v = empty ∨ ∃ u, Going u v ∨ Stopped u v

theorem sound_moves (h : Sound v) (hmove : Moves v v') : Sound v' := by
  cases hmove with
  | begun ctx hnew => exact Or.inr ⟨ctx.upload, Or.inl (going_begun ctx)⟩
  | answered c reply others o hcall ho =>
    rcases h with rfl | ⟨u, hgoing | hstopped⟩
    · exact absurd hcall.symm.eq_nil (List.cons_ne_nil _ _)
    · exact Or.inr ⟨u, hgoing.answered hcall ho rfl⟩
    · exact absurd (.answered c reply others o hcall ho) hstopped.not_moves

end UploadChain

/-! ## All chains -/

namespace VimeoCall

variable {c : VimeoCall} {reply : RestReply} {o : ChainOutcome}

/-! What an outcome adds is of the opid of its call. -/

theorem Reacts.calls_opid (h : Reacts c reply o) : ∀ d ∈ o.calls, d.ctx.opid = c.ctx.opid := by
  cases h with
  | next c' hok hasked hafter =>
    exact List.forall_mem_singleton.2 (congrArg VimeoUpload.opid hasked.upload)
  | failed message hno => exact List.forall_mem_nil _
  | completed ctx hok hupload hafter => exact List.forall_mem_nil _

theorem Reacts.reports_opid (h : Reacts c reply o) :
    ∀ p ∈ o.reports c.ctx.opid, p.opid = c.ctx.opid := by
  cases h with
  | next c' hok hasked hafter => exact List.forall_mem_nil _
  | failed message hno => exact List.forall_mem_singleton.2 rfl
  | completed ctx hok hupload hafter => exact List.forall_mem_singleton.2 rfl

theorem Reacts.freed_opid (h : Reacts c reply o) : ∀ ctx ∈ o.freed, ctx.opid = c.ctx.opid := by
  cases h with
  | next c' hok hasked hafter => exact List.forall_mem_nil _
  | failed message hno => exact List.forall_mem_nil _
  | completed ctx hok hupload hafter =>
    exact List.forall_mem_singleton.2 (congrArg VimeoUpload.opid hupload)

end VimeoCall

namespace Watched

open UploadChain (Moves Going Stopped Sound)
open VimeoCall (Reacts)

variable (libs : NullHandling)

/-! ### The condition -/

/-- An upload gets an opid that no other has, and a reply gives librest no NULL that it does not
take. -/
def EventOk (w : Watched) : VimeoEvent → Prop
  | .uploadVideo (.ok _) _ _ _ => w.service.opid ∉ w.uploads.map (·.opid)
  | .reply i reply => ∀ c ∈ w.service.calls[i]?, c.ReplyOk libs reply
  | _ => True

instance (w : Watched) : ∀ e, Decidable (w.EventOk libs e)
  | .uploadVideo (.ok _) _ _ _ =>
    inferInstanceAs (Decidable (w.service.opid ∉ w.uploads.map (·.opid)))
  | .uploadVideo (.error _) _ _ _ => isTrue trivial
  | .reply i reply => inferInstanceAs (Decidable (∀ c ∈ w.service.calls[i]?, c.ReplyOk libs reply))
  | .collectionsCreate _ _ _ => isTrue trivial
  | .otherUpload => isTrue trivial

/-! ### What holds of all chains -/

/-- The process runs, an opid that no upload has has nothing, and the calls in flight are ready for
their replies. -/
structure Kept (w : Watched) : Prop where
  running : w.service.running = true
  fresh : ∀ opid, opid ∉ w.uploads.map (·.opid) → w.chain opid = UploadChain.empty
  ready : ∀ c ∈ w.service.calls, c.Ready libs w.service

variable {libs} {w : Watched} {opid : Int32}

theorem step_of_running (hrunning : w.service.running = true) (e : VimeoEvent) :
    w.step libs e = ⟨w.service.handle libs e, w.uploads ++ w.service.begun e,
      w.answers ++ w.service.answered e⟩ :=
  if_pos hrunning

/-- A call in flight is of an upload that was begun. -/
theorem Kept.opid_mem (h : Kept libs w) {c : VimeoCall} (hc : c ∈ w.service.calls) :
    c.ctx.opid ∈ w.uploads.map (·.opid) := by
  by_contra hnot
  have hmem : c ∈ (w.chain c.ctx.opid).inFlight := List.mem_filter.2 ⟨hc, decide_eq_true rfl⟩
  rw [h.fresh _ hnot] at hmem
  cases hmem

/-- An event that begins no upload, answers no call and takes no placeholder away. -/
structure Idle (w : Watched) (t : SwServiceVimeo) : Prop where
  calls : t.calls = w.service.calls
  emitted : t.emitted = w.service.emitted
  completed : t.completed = w.service.completed
  running : t.running = w.service.running
  placeholders : ∀ id, (w.service.albumPlaceholders.lookup id).isSome = true →
    (t.albumPlaceholders.lookup id).isSome = true

theorem Idle.chain {t : SwServiceVimeo} (h : Idle w t) :
    chain opid ⟨t, w.uploads ++ [], w.answers ++ []⟩ = w.chain opid := by
  simp only [Watched.chain, h.calls, h.emitted, h.completed, List.append_nil]

theorem Idle.kept {t : SwServiceVimeo} (h : Idle w t) (hw : Kept libs w) :
    Kept libs ⟨t, w.uploads ++ [], w.answers ++ []⟩ where
  running := h.running.trans hw.running
  fresh opid hnot := h.chain.trans (hw.fresh opid (List.append_nil w.uploads ▸ hnot))
  ready c hc := (hw.ready c (h.calls ▸ hc)).mono h.placeholders

theorem idle_collectionsCreate (random : Nat) (collectionName : String)
    (description : Option String) :
    Idle w (w.service.collectionsCreate random collectionName description) := by
  refine ⟨rfl, rfl, rfl, rfl, fun id hsome => ?_⟩
  unfold SwServiceVimeo.collectionsCreate
  dsimp only
  by_cases heq : id = SwServiceVimeo.placeholderId random
  · rw [heq, AList.lookup_insert]
    rfl
  · rwa [AList.lookup_insert_ne heq]

section uploadVideo

variable {fileLength : Nat} {title description collection : Option String}

/-- The call that begins an upload. -/
theorem exists_step_uploadVideo (libs : NullHandling) (hrunning : w.service.running = true) :
    ∃ ctx : VimeoUploadCtx, ctx.opid = w.service.opid ∧
      w.step libs (.uploadVideo (.ok fileLength) title description collection) =
        ⟨{ w.service with
            opid := w.service.opid + 1
            calls := w.service.calls ++ [⟨.getQuota, ctx⟩] },
          w.uploads ++ [ctx.upload], w.answers ++ []⟩ := by
  refine ⟨⟨w.service.opid, fileLength, none, none, title, description, collection,
    collection.any fun id => id ∈ w.service.albumPlaceholders⟩, rfl, ?_⟩
  rw [step_of_running hrunning]
  rfl

theorem chain_uploadVideo_of_ne (hrunning : w.service.running = true)
    (hne : w.service.opid ≠ opid) :
    (w.step libs (.uploadVideo (.ok fileLength) title description collection)).chain opid =
      w.chain opid := by
  obtain ⟨ctx, hopid, hstep⟩ := exists_step_uploadVideo libs hrunning
  have hupload : ∀ u ∈ [ctx.upload], u.opid = w.service.opid := List.forall_mem_singleton.2 hopid
  have hcall : ∀ c ∈ [VimeoCall.mk .getQuota ctx], c.ctx.opid = w.service.opid :=
    List.forall_mem_singleton.2 hopid
  rw [hstep]
  unfold chain
  dsimp only
  rw [filter_append_of_ne hupload hne, filter_append_of_ne hcall hne, List.append_nil]

theorem chain_uploadVideo_self (hw : Kept libs w)
    (hfresh : w.service.opid ∉ w.uploads.map (·.opid)) :
    Moves (w.chain w.service.opid)
      ((w.step libs (.uploadVideo (.ok fileLength) title description collection)).chain
        w.service.opid) := by
  have hempty := hw.fresh w.service.opid hfresh
  obtain ⟨ctx, hopid, hstep⟩ := exists_step_uploadVideo libs hw.running
  have hupload : ∀ u ∈ [ctx.upload], u.opid = w.service.opid := List.forall_mem_singleton.2 hopid
  have hcall : ∀ c ∈ [VimeoCall.mk .getQuota ctx], c.ctx.opid = w.service.opid :=
    List.forall_mem_singleton.2 hopid
  have hchain : (w.step libs (.uploadVideo (.ok fileLength) title description collection)).chain
      w.service.opid = ⟨[ctx.upload], [⟨.getQuota, ctx⟩], [], [], []⟩ := by
    obtain ⟨huploads, hcalls, hanswers, hreports, hfreed⟩ := UploadChain.mk.inj hempty
    rw [hstep]
    unfold chain
    dsimp only
    rw [filter_append_of_own hupload, filter_append_of_own hcall, List.append_nil, huploads, hcalls,
      hanswers, hreports, hfreed]
    rfl
  rw [hchain]
  exact .begun ctx hempty

theorem kept_uploadVideo (hw : Kept libs w) :
    Kept libs (w.step libs (.uploadVideo (.ok fileLength) title description collection)) := by
  obtain ⟨ctx, hopid, hstep⟩ := exists_step_uploadVideo libs hw.running
  refine ⟨?_, ?_, ?_⟩
  · rw [hstep]
    exact hw.running
  · intro opid hnot
    rw [hstep, List.map_append, List.mem_append, not_or] at hnot
    refine (chain_uploadVideo_of_ne hw.running ?_).trans (hw.fresh opid hnot.1)
    rintro rfl
    exact hnot.2 (List.mem_singleton.2 hopid.symm)
  · rw [hstep]
    refine List.forall_mem_append.2 ⟨fun c hc => (hw.ready c hc).mono fun _ h => h, ?_⟩
    exact List.forall_mem_singleton.2 (SwServiceVimeo.ready_of_free nofun rfl rfl)

end uploadVideo

section reply

variable {i : Nat} {reply : RestReply} {c : VimeoCall}

/-- A reply to no call. -/
theorem idle_reply_of_none (libs : NullHandling) (reply : RestReply)
    (hi : w.service.calls[i]? = none) :
    w.service.handle libs (.reply i reply) = w.service ∧
      w.service.answered (.reply i reply) = [] := by
  unfold SwServiceVimeo.handle SwServiceVimeo.answered
  dsimp only
  rw [hi]
  exact ⟨rfl, rfl⟩

theorem step_reply (libs : NullHandling) (reply : RestReply)
    (hrunning : w.service.running = true) (hi : w.service.calls[i]? = some c) :
    w.step libs (.reply i reply) =
      ⟨{ w.service with calls := w.service.calls.eraseIdx i }.onReply libs c reply,
        w.uploads ++ [], w.answers ++ [(c, reply)]⟩ := by
  rw [step_of_running hrunning]
  unfold SwServiceVimeo.handle SwServiceVimeo.begun SwServiceVimeo.answered
  dsimp only
  rw [hi]
  rfl

/-- A reply that is `ReplyOk` has an outcome. -/
theorem exists_step_reply (hw : Kept libs w) (hreply : reply.StatusTells)
    (hi : w.service.calls[i]? = some c) (hok : c.ReplyOk libs reply) :
    ∃ o t, Reacts c reply o ∧
      w.step libs (.reply i reply) = ⟨t, w.uploads ++ [], w.answers ++ [(c, reply)]⟩ ∧
      SwServiceVimeo.Effect libs { w.service with calls := w.service.calls.eraseIdx i } c o t := by
  have hready := (hw.ready c (List.mem_of_getElem? hi)).mono
    (t := { w.service with calls := w.service.calls.eraseIdx i }) fun _ h => h
  obtain ⟨o, ho, heffect⟩ := SwServiceVimeo.reacted_onReply hreply hok hready
  exact ⟨o, _, ho, step_reply libs reply hw.running hi, heffect⟩

theorem chain_reply_of_ne (hw : Kept libs w) (hreply : reply.StatusTells)
    (hi : w.service.calls[i]? = some c) (hok : c.ReplyOk libs reply) (hne : c.ctx.opid ≠ opid) :
    (w.step libs (.reply i reply)).chain opid = w.chain opid := by
  obtain ⟨o, t, ho, hstep, heffect⟩ := exists_step_reply hw hreply hi hok
  have hanswer : ∀ a ∈ [(c, reply)], a.1.ctx.opid = c.ctx.opid := List.forall_mem_singleton.2 rfl
  rw [hstep]
  unfold chain
  dsimp only
  rw [heffect.calls, heffect.emitted, heffect.completed, List.append_nil,
    filter_append_of_ne hanswer hne, filter_append_of_ne ho.calls_opid hne,
    filter_append_of_ne ho.reports_opid hne, filter_append_of_ne ho.freed_opid hne,
    filter_eraseIdx_of_neg hi (decide_eq_false hne)]

theorem chain_reply_self (hw : Kept libs w) (hreply : reply.StatusTells)
    (hi : w.service.calls[i]? = some c) (hok : c.ReplyOk libs reply) :
    Moves (w.chain c.ctx.opid) ((w.step libs (.reply i reply)).chain c.ctx.opid) := by
  obtain ⟨o, t, ho, hstep, heffect⟩ := exists_step_reply hw hreply hi hok
  have hperm := perm_filter_of_getElem? (p := fun d => d.ctx.opid = c.ctx.opid) hi
    (decide_eq_true rfl)
  have hanswer : ∀ a ∈ [(c, reply)], a.1.ctx.opid = c.ctx.opid := List.forall_mem_singleton.2 rfl
  have hmove := Moves.answered (v := w.chain c.ctx.opid) c reply _ o hperm ho
  rw [hstep]
  unfold chain at hmove ⊢
  dsimp only at hmove ⊢
  rw [heffect.calls, heffect.emitted, heffect.completed, List.append_nil,
    filter_append_of_own hanswer, filter_append_of_own ho.calls_opid,
    filter_append_of_own ho.reports_opid, filter_append_of_own ho.freed_opid]
  exact hmove

theorem kept_reply (hw : Kept libs w) (hreply : reply.StatusTells)
    (hi : w.service.calls[i]? = some c) (hok : c.ReplyOk libs reply) :
    Kept libs (w.step libs (.reply i reply)) := by
  obtain ⟨o, t, -, hstep, heffect⟩ := exists_step_reply hw hreply hi hok
  refine ⟨?_, ?_, ?_⟩
  · rw [hstep]
    exact heffect.running.trans hw.running
  · intro opid hnot
    rw [hstep, List.append_nil] at hnot
    refine (chain_reply_of_ne hw hreply hi hok ?_).trans (hw.fresh opid hnot)
    rintro rfl
    exact hnot (hw.opid_mem (List.mem_of_getElem? hi))
  · rw [hstep]
    dsimp only
    rw [heffect.calls]
    refine List.forall_mem_append.2 ⟨fun d hd => ?_, heffect.ready⟩
    exact (hw.ready d (List.mem_of_mem_eraseIdx hd)).mono heffect.placeholders

end reply

/-- An event moves the chain of one opid at most. -/
theorem chain_step (hw : Kept libs w) {e : VimeoEvent} (hreply : e.StatusTells)
    (hok : w.EventOk libs e) :
    (w.step libs e).chain opid = w.chain opid ∨
      Moves (w.chain opid) ((w.step libs e).chain opid) := by
  cases e with
  | collectionsCreate random name description =>
    rw [step_of_running hw.running]
    exact Or.inl (idle_collectionsCreate random name description).chain
  | uploadVideo file title description collection =>
    cases file with
    | error message =>
      rw [step_of_running hw.running]
      exact Or.inl (Idle.chain ⟨rfl, rfl, rfl, rfl, fun _ h => h⟩)
    | ok fileLength =>
      by_cases hopid : w.service.opid = opid
      · subst hopid
        exact Or.inr (chain_uploadVideo_self hw hok)
      · exact Or.inl (chain_uploadVideo_of_ne hw.running hopid)
  | otherUpload =>
    rw [step_of_running hw.running]
    exact Or.inl (Idle.chain ⟨rfl, rfl, rfl, rfl, fun _ h => h⟩)
  | reply i reply =>
    cases hi : w.service.calls[i]? with
    | none =>
      obtain ⟨hhandle, hanswered⟩ := idle_reply_of_none libs reply hi
      rw [step_of_running hw.running, hhandle, hanswered]
      exact Or.inl (Idle.chain ⟨rfl, rfl, rfl, rfl, fun _ h => h⟩)
    | some c =>
      by_cases hopid : c.ctx.opid = opid
      · subst hopid
        exact Or.inr (chain_reply_self hw hreply hi (hok c hi))
      · exact Or.inl (chain_reply_of_ne hw hreply hi (hok c hi) hopid)

theorem kept_step (hw : Kept libs w) {e : VimeoEvent} (hreply : e.StatusTells)
    (hok : w.EventOk libs e) : Kept libs (w.step libs e) := by
  cases e with
  | collectionsCreate random name description =>
    rw [step_of_running hw.running]
    exact (idle_collectionsCreate random name description).kept hw
  | uploadVideo file title description collection =>
    cases file with
    | error message =>
      rw [step_of_running hw.running]
      exact Idle.kept ⟨rfl, rfl, rfl, rfl, fun _ h => h⟩ hw
    | ok fileLength => exact kept_uploadVideo hw
  | otherUpload =>
    rw [step_of_running hw.running]
    exact Idle.kept ⟨rfl, rfl, rfl, rfl, fun _ h => h⟩ hw
  | reply i reply =>
    cases hi : w.service.calls[i]? with
    | none =>
      obtain ⟨hhandle, hanswered⟩ := idle_reply_of_none libs reply hi
      rw [step_of_running hw.running, hhandle, hanswered]
      exact Idle.kept ⟨rfl, rfl, rfl, rfl, fun _ h => h⟩ hw
    | some c => exact kept_reply hw hreply hi (hok c hi)

/-- **Interleaving.** The chains of the opids move on their own. -/
theorem interleaves (libs : NullHandling) :
    Interleaves (step libs) chain Moves (Kept libs)
      fun w e => e.StatusTells ∧ w.EventOk libs e where
  keeps _ _ hw hok := kept_step hw hok.1 hok.2
  moves _ _ hw hok _ := chain_step hw hok.1 hok.2

/-- What holds along the runs whose events are allowed. -/
def Good (libs : NullHandling) (w : Watched) : Prop := Kept libs w ∧ ∀ opid, Sound (w.chain opid)

theorem good_init (libs : NullHandling) : Good libs init :=
  ⟨⟨rfl, fun _ _ => rfl, List.forall_mem_nil _⟩, fun _ => Or.inl rfl⟩

theorem good_step {e : VimeoEvent} (hw : Good libs w) (hreply : e.StatusTells)
    (hok : w.EventOk libs e) : Good libs (w.step libs e) := by
  refine ⟨kept_step hw.1 hreply hok, fun opid => ?_⟩
  exact (interleaves libs).view_step (fun _ _ => UploadChain.sound_moves) hw.1 ⟨hreply, hok⟩
    (hw.2 opid)

/-! ### What is reported -/

/-- An upload that was begun has one call in flight and no report yet, or it has stopped with one
report. -/
def Told (w : Watched) : Prop :=
  ∀ u ∈ w.uploads, Going u (w.chain u.opid) ∨ Stopped u (w.chain u.opid)

theorem mem_chain_uploads {u : VimeoUpload} (hu : u ∈ w.uploads) :
    u ∈ (w.chain u.opid).uploads :=
  List.mem_filter.2 ⟨hu, decide_eq_true rfl⟩

theorem Good.told (hw : Good libs w) : Told w := by
  intro u hu
  have hmem := mem_chain_uploads hu
  rcases hw.2 u.opid with hempty | ⟨u', hsound⟩
  · rw [hempty] at hmem
    cases hmem
  · have huploads : (w.chain u.opid).uploads = [u'] :=
      hsound.elim UploadChain.Going.uploads UploadChain.Stopped.uploads
    rw [huploads, List.mem_singleton] at hmem
    subst hmem
    exact hsound

/-- An opid that is given out again has two uploads. -/
theorem not_told_uploadVideo (hw : Kept libs w) {fileLength : Nat}
    {title description collection : Option String}
    (hused : w.service.opid ∈ w.uploads.map (·.opid)) :
    ¬ Told (w.step libs (.uploadVideo (.ok fileLength) title description collection)) := by
  intro htold
  obtain ⟨u, hu, hopid⟩ := List.mem_map.1 hused
  obtain ⟨ctx, hctx, hstep⟩ := exists_step_uploadVideo libs hw.running
  have hnew := htold ctx.upload (by
    rw [hstep]
    exact List.mem_append_right _ (List.mem_singleton_self _))
  have hone := hnew.elim UploadChain.Going.uploads UploadChain.Stopped.uploads
  have hupload : ∀ u ∈ [ctx.upload], u.opid = ctx.upload.opid := List.forall_mem_singleton.2 rfl
  rw [hstep] at hone
  unfold chain at hone
  dsimp only at hone
  rw [filter_append_of_own hupload, List.append_eq_singleton_iff] at hone
  have hmem : u ∈ w.uploads.filter (·.opid = ctx.upload.opid) :=
    List.mem_filter.2 ⟨hu, decide_eq_true (hopid.trans hctx.symm)⟩
  rcases hone with ⟨hnone, -⟩ | ⟨-, hnil⟩
  · rw [hnone] at hmem
    cases hmem
  · cases hnil

/-- The upload of a reply that ends the process has no call in flight and no report. -/
theorem not_told_reply (hw : Good libs w) {i : Nat} {reply : RestReply} {c : VimeoCall}
    (hreply : reply.StatusTells) (hi : w.service.calls[i]? = some c)
    (hbad : ¬ c.ReplyOk libs reply) : ¬ Told (w.step libs (.reply i reply)) := by
  intro htold
  have hc := List.mem_of_getElem? hi
  have hinFlight : c ∈ (w.chain c.ctx.opid).inFlight := List.mem_filter.2 ⟨hc, decide_eq_true rfl⟩
  obtain ⟨u, hu, hopid⟩ := List.mem_map.1 (hw.1.opid_mem hc)
  -- The chain of the call was going.
  have hgoing : Going u (w.chain u.opid) := by
    refine (hw.told u hu).resolve_right fun hstopped => ?_
    rw [← hopid, hstopped.inFlight] at hinFlight
    cases hinFlight
  obtain ⟨d, hd, -, -⟩ := hgoing.inFlight
  have hperm := perm_filter_of_getElem? (p := fun d => d.ctx.opid = u.opid) hi
    (decide_eq_true hopid.symm)
  have hnone : (w.service.calls.eraseIdx i).filter (·.ctx.opid = u.opid) = [] := by
    have hlength := hperm.length_eq
    have hone : (w.service.calls.filter (·.ctx.opid = u.opid)).length = 1 := by
      have hfilter : w.service.calls.filter (·.ctx.opid = u.opid) = [d] := hd
      rw [hfilter]
      rfl
    rw [hone, List.length_cons] at hlength
    exact List.length_eq_zero_iff.1 (by omega)
  have hstep := step_reply libs reply hw.1.running hi
  rw [SwServiceVimeo.onReply_of_not_replyOk hreply hbad] at hstep
  have hu' : u ∈ (w.step libs (.reply i reply)).uploads := by
    rw [hstep, List.append_nil]
    exact hu
  rcases htold u hu' with hgoing' | hstopped
  · obtain ⟨d', hd', -, -⟩ := hgoing'.inFlight
    rw [hstep] at hd'
    exact List.cons_ne_nil _ _ (hd'.symm.trans hnone)
  · obtain ⟨p, hp, -⟩ := hstopped.report
    rw [hstep] at hp
    exact List.cons_ne_nil _ _ (hp.symm.trans hgoing.reports)

/-- **Exactness of a step.** -/
theorem eventOk_of_told (hw : Good libs w) {e : VimeoEvent} (hreply : e.StatusTells)
    (htold : Told (w.step libs e)) : w.EventOk libs e := by
  cases e with
  | uploadVideo file title description collection =>
    cases file with
    | error message => trivial
    | ok fileLength => exact fun hused => not_told_uploadVideo hw.1 hused htold
  | reply i reply =>
    intro c hi
    by_contra hbad
    exact not_told_reply hw hreply hi hbad htold
  | _ => trivial

/-! ### The opids -/

/-- A reply gives librest no NULL that it does not take. -/
def RepliesOk (libs : NullHandling) (w : Watched) : VimeoEvent → Prop
  | .reply i reply => ∀ c ∈ w.service.calls[i]?, c.ReplyOk libs reply
  | _ => True

theorem repliesOk_of_eventOk {e : VimeoEvent} (h : w.EventOk libs e) : w.RepliesOk libs e := by
  cases e with
  | reply i reply => exact h
  | _ => trivial

/-- The opids that were given out are among the first `n`. -/
def Drawn (n : Nat) (w : Watched) : Prop :=
  ∃ m ≤ n, w.service.opid = 1 + Int32.ofNat m ∧
    ∀ u ∈ w.uploads, ∃ k < m, u.opid = 1 + Int32.ofNat k

variable {n : Nat}

theorem drawn_init : Drawn 0 init := ⟨0, le_rfl, rfl, List.forall_mem_nil _⟩

/-- The first `2 ^ 32` opids are different. -/
theorem Drawn.fresh (h : Drawn n w) (hn : n < 2 ^ 32) :
    w.service.opid ∉ w.uploads.map (·.opid) := by
  obtain ⟨m, hm, hopid, hall⟩ := h
  intro hmem
  obtain ⟨u, hu, heq⟩ := List.mem_map.1 hmem
  obtain ⟨k, hk, hopid'⟩ := hall u hu
  have hsame : Int32.ofNat k = Int32.ofNat m :=
    (Int32.add_right_inj 1).1 (hopid'.symm.trans (heq.trans hopid))
  have hmod := congrArg (fun a : Int32 => a.toBitVec.toNat) hsame
  simp only [Int32.toBitVec_ofNat', BitVec.toNat_ofNat] at hmod
  omega

theorem Drawn.keep (h : Drawn n w) {t : SwServiceVimeo} (hopid : t.opid = w.service.opid)
    {answers : List (VimeoCall × RestReply)} : Drawn (n + 1) ⟨t, w.uploads ++ [], answers⟩ := by
  obtain ⟨m, hm, hopid', hall⟩ := h
  exact ⟨m, Nat.le_succ_of_le hm, hopid.trans hopid', (List.append_nil w.uploads).symm ▸ hall⟩

/-- The next opid is given out. -/
theorem Drawn.next (h : Drawn n w) {t : SwServiceVimeo} (hopid : t.opid = w.service.opid + 1)
    {begun : List VimeoUpload} (hbegun : ∀ u ∈ begun, u.opid = w.service.opid)
    {answers : List (VimeoCall × RestReply)} : Drawn (n + 1) ⟨t, w.uploads ++ begun, answers⟩ := by
  obtain ⟨m, hm, hopid', hall⟩ := h
  refine ⟨m + 1, Nat.succ_le_succ hm, ?_, List.forall_mem_append.2 ⟨fun u hu => ?_, fun u hu => ?_⟩⟩
  · show t.opid = 1 + Int32.ofNat (m + 1)
    rw [hopid, hopid', Int32.ofNat_add, Int32.add_assoc]
    rfl
  · obtain ⟨k, hk, hopidu⟩ := hall u hu
    exact ⟨k, Nat.lt_succ_of_lt hk, hopidu⟩
  · exact ⟨m, Nat.lt_succ_self m, (hbegun u hu).trans hopid'⟩

theorem drawn_step (h : Drawn n w) (hw : Kept libs w) {e : VimeoEvent} (hreply : e.StatusTells)
    (hok : w.RepliesOk libs e) : Drawn (n + 1) (w.step libs e) := by
  cases e with
  | collectionsCreate random name description =>
    rw [step_of_running hw.running]
    exact h.keep (t := w.service.collectionsCreate random name description) rfl
  | uploadVideo file title description collection =>
    cases file with
    | error message =>
      rw [step_of_running hw.running]
      exact h.keep rfl
    | ok fileLength =>
      obtain ⟨ctx, hctx, hstep⟩ := exists_step_uploadVideo libs hw.running
      rw [hstep]
      exact h.next rfl (List.forall_mem_singleton.2 hctx)
  | otherUpload =>
    rw [step_of_running hw.running]
    exact h.next rfl (List.forall_mem_nil _)
  | reply i reply =>
    cases hi : w.service.calls[i]? with
    | none =>
      obtain ⟨hhandle, -⟩ := idle_reply_of_none libs reply hi
      rw [step_of_running hw.running, hhandle]
      exact h.keep rfl
    | some c =>
      obtain ⟨o, t, -, hstep, heffect⟩ := exists_step_reply hw hreply hi (hok c hi)
      rw [hstep]
      exact h.keep heffect.opid

theorem everyStep_eventOk {es : List VimeoEvent} (hreplies : ∀ e ∈ es, e.StatusTells)
    (hfew : n + es.length ≤ 2 ^ 32) (hw : Kept libs w) (hdrawn : Drawn n w)
    (hok : EveryStep (step libs) (RepliesOk libs) w es) :
    EveryStep (step libs) (EventOk libs) w es := by
  induction es generalizing w n with
  | nil => trivial
  | cons e es ih =>
    rw [List.forall_mem_cons] at hreplies
    rw [List.length_cons] at hfew
    have hevent : w.EventOk libs e := by
      cases e with
      | uploadVideo file title description collection =>
        cases file with
        | error message => trivial
        | ok fileLength => exact hdrawn.fresh (by omega)
      | reply i reply => exact hok.1
      | _ => trivial
    exact ⟨hevent, ih hreplies.2 (by omega) (kept_step hw hreplies.1 hevent)
      (drawn_step hdrawn hw hreplies.1 hok.1) hok.2⟩

/-- **The replies alone decide** about a run of up to `2 ^ 32` events, as no opid comes again. -/
theorem everyStep_eventOk_iff (libs : NullHandling) {es : List VimeoEvent}
    (hreplies : ∀ e ∈ es, e.StatusTells) (hfew : es.length ≤ 2 ^ 32) :
    EveryStep (step libs) (EventOk libs) init es ↔
      EveryStep (step libs) (RepliesOk libs) init es := by
  refine ⟨fun hok => ?_, everyStep_eventOk hreplies (by omega) (good_init libs).1 drawn_init⟩
  exact everyStep_weaken (I := fun _ => True) (fun _ _ _ _ => trivial)
    (fun _ _ _ hevent => repliesOk_of_eventOk hevent) trivial hok

end Watched

/-! ## The main result -/

namespace SwServiceVimeo

open UploadChain (Going Stopped)

/-- In every state of the run, an upload that was begun has one call in flight and no report yet, or
it has stopped with one report; then its calls, its report and its freed context stay what they
are. -/
structure Reports (libs : NullHandling) (es : List VimeoEvent) : Prop where
  told : EveryState (Watched.step libs) Watched.Told Watched.init es
  final : ∀ before after, es = before ++ after → ∀ u ∈ (Watched.run libs before).uploads,
    Stopped u ((Watched.run libs before).chain u.opid) →
      (Watched.run libs es).chain u.opid = (Watched.run libs before).chain u.opid

/-- A chain that has stopped stays as it is. -/
theorem final_of_eventOk {libs : NullHandling} {before after : List VimeoEvent}
    (hreplies : ∀ e ∈ before ++ after, e.StatusTells)
    (hok : EveryStep (Watched.step libs) (Watched.EventOk libs) Watched.init (before ++ after))
    {u : VimeoUpload} (hstopped : Stopped u ((Watched.run libs before).chain u.opid)) :
    (Watched.run libs (before ++ after)).chain u.opid =
      (Watched.run libs before).chain u.opid := by
  have hsteps := hok.and_of_forall hreplies
  have hkept := everyState_of_everyStep (Watched.interleaves libs).keeps
    (Watched.good_init libs).1 hsteps.of_append_left
  unfold Watched.run
  rw [runFrom_append]
  exact (Watched.interleaves libs).view_eq_of_stuck hkept.last hsteps.of_append
    fun _ => hstopped.not_moves

/-- **Main result.** Each upload stops once and with a true report exactly if librest is handed no
NULL that it does not take, and no opid is given out while an upload has it. -/
theorem uploadReports_iff (libs : NullHandling) {es : List VimeoEvent}
    (hreplies : ∀ e ∈ es, e.StatusTells) :
    Reports libs es ↔
      EveryStep (Watched.step libs) (Watched.EventOk libs) Watched.init es := by
  have htold : EveryState (Watched.step libs) Watched.Told Watched.init es ↔
      EveryStep (Watched.step libs) (Watched.EventOk libs) Watched.init es := by
    refine everyState_iff_everyStep_of_forall (I := Watched.Good libs) (fun _ hw => hw.told) ?_ ?_
      (Watched.good_init libs) hreplies
    · exact fun _ _ hw hreply hok => Watched.good_step hw hreply hok
    · exact fun _ _ hw hreply htold => Watched.eventOk_of_told hw hreply htold
  refine ⟨fun h => htold.1 h.told, fun hok => ⟨htold.2 hok, ?_⟩⟩
  rintro before after rfl u - hstopped
  exact final_of_eventOk hreplies hok hstopped

end SwServiceVimeo

namespace SwServiceVimeo

/-- A good reply with one node. -/
def replyWith (name : String) (attrs : List (String × String)) : RestReply :=
  ⟨none, 200, "OK", "", some ⟨"rsp", [("stat", "ok")], [(name, attrs)]⟩⟩

/-- A reply that did not come. -/
def noReply : RestReply := ⟨some "Connection terminated", 7, "", "", none⟩

/-- Of two uploads, one gets a title and a place in a new album, the other loses its ticket. -/
def twoUploads : List VimeoEvent :=
  [.collectionsCreate 7 "Holidays" none,
    .uploadVideo (.ok 1000) (some "Sunset") none (some (placeholderId 7)),
    .uploadVideo (.ok 2000) none (some "At the lake") none,
    .reply 0 (replyWith "upload_space" [("free", "5000")]),
    .reply 0 (replyWith "upload_space" [("free", "5000")]),
    .reply 0 (replyWith "ticket" [("id", "t"), ("endpoint", "e")]),
    .reply 0 noReply,
    .reply 0 (replyWith "ok" []),
    .reply 0 (replyWith "chunk" [("size", "1000")]),
    .reply 0 (replyWith "ticket" [("video_id", "v")]),
    .reply 0 (replyWith "ok" []),
    .reply 0 (replyWith "album" [("id", "12")])]

theorem uploadReports_twoUploads : Reports .strict twoUploads :=
  (uploadReports_iff .strict (by decide +kernel)).2 (by decide +kernel)

/-- The reports of this run: the second upload failed at the ticket. -/
example : (Watched.run .strict twoUploads).service.emitted.map (fun p => (p.opid, p.progress)) =
    [(2, -1), (1, 100)] := by
  decide +kernel

/-- An upload with a title, and the reply to its completion does not tell the video. -/
def withoutVideo : List VimeoEvent :=
  [.uploadVideo (.ok 1000) (some "Sunset") none none,
    .reply 0 (replyWith "upload_space" [("free", "5000")]),
    .reply 0 (replyWith "ticket" [("id", "t"), ("endpoint", "e")]),
    .reply 0 (replyWith "ok" []),
    .reply 0 (replyWith "chunk" [("size", "1000")]),
    .reply 0 (replyWith "ticket" [])]

/-- The process ends at `vimeo.videos.setTitle`, without a report. -/
theorem withoutVideo_not_reports : ¬ ∀ (libs : NullHandling) (es : List VimeoEvent),
    (∀ e ∈ es, e.StatusTells) → Reports libs es := by
  intro hall
  have hlast : Watched.Told (Watched.run .strict withoutVideo) :=
    (hall .strict withoutVideo (by decide +kernel)).told.last
  have hmem : ⟨1, 1000, some "Sunset", none, none⟩ ∈
      (Watched.run .strict withoutVideo).uploads := by decide +kernel
  have hnone : ((Watched.run .strict withoutVideo).chain 1).inFlight = [] := by decide +kernel
  have hsilent : ((Watched.run .strict withoutVideo).chain 1).reports = [] := by decide +kernel
  rcases hlast _ hmem with hgoing | hstopped
  · obtain ⟨c, hc, -, -⟩ := hgoing.inFlight
    exact List.cons_ne_nil _ _ (hc.symm.trans hnone)
  · obtain ⟨p, hp, -⟩ := hstopped.report
    exact List.cons_ne_nil _ _ (hp.symm.trans hsilent)

end SwServiceVimeo

end LibSocialWeb
