import LibSocialWeb.Vimeo.Upload
import LibSocialWeb.Lib.Run
import Mathlib.Data.List.Perm.Basic

/-!
# One album for each placeholder

The uploads that name one placeholder should share one album. `_add_video_to_album` decides by
`real_id` whether the album is still to be created, but `real_id` is set only when the reply to
`vimeo.albums.create` comes in. A second chain that gets there in the meantime creates another
album, and then the video of the first is not in the album that the placeholder stands for.

**Main result.** `oneAlbum`: along every run in which the calls to create albums succeed, each
placeholder is created once and has the videos of all uploads that name it, provided that no chain
reaches the album step of a placeholder while a call to create its album is out, and that no
placeholder id is drawn again after that.
-/

namespace LibSocialWeb

open Transition

namespace SwServiceVimeo

/-! ## The property -/

/-- The `real_id` of the placeholder. -/
def realIdOf (s : SwServiceVimeo) (id : String) : Option String :=
  (s.albumPlaceholders.lookup id).bind VimeoAlbumPlaceholder.realId

/-- `vimeo.albums.create` was called at most once for each placeholder, and the uploads that named a
placeholder and reported 100 have their video in the album of its `real_id`. -/
structure OneAlbum (s : SwServiceVimeo) : Prop where
  once : ∀ id, s.creates.count id ≤ 1
  videos : ∀ ctx ∈ s.completed, ctx.named = true → ∀ id, ctx.collectionId = some id →
    ∃ realId, s.realIdOf id = some realId ∧ (stripPrefix realId, ctx.videoId) ∈ s.albumVideos

/-! ## The condition -/

/-- The call is to create the album of the placeholder. -/
def isCreateFor (id : String) (c : VimeoCall) : Bool :=
  match c.method with
  | .createAlbum _ _ => decide (c.ctx.collectionId = some id)
  | _ => false

/-- The calls in flight that create the album of the placeholder. -/
def creating (s : SwServiceVimeo) (id : String) : Nat := s.calls.countP (isCreateFor id)

/-- The album step is next in the chain. -/
def beforeAlbum (c : VimeoCall) : Bool :=
  match c.method with
  | .complete => c.ctx.title.isNone && c.ctx.description.isNone
  | .setTitle _ => c.ctx.description.isNone
  | .setDescription _ => true
  | _ => false

/-- The call is to create an album. -/
def isCreate (c : VimeoCall) : Bool :=
  match c.method with
  | .createAlbum _ _ => true
  | _ => false

/-- The id of the album that the reply tells of. -/
def createdAlbum (reply : RestReply) : Option String :=
  reply.accepted.bind fun root => getChildAttribute root "album" "id"

/-- The server creates the album, and tells its id. -/
def CreatesSucceed (s : SwServiceVimeo) : VimeoEvent → Prop
  | .reply i reply => ∀ c ∈ s.calls[i]?, isCreate c = true → (createdAlbum reply).isSome = true
  | _ => True

/-- A chain that reaches the album step finds no call to create the album out, and the id of a
placeholder is not drawn again once such a call was made. -/
def NoneCreating (s : SwServiceVimeo) : VimeoEvent → Prop
  | .reply i reply => ∀ c ∈ s.calls[i]?, beforeAlbum c = true → reply.accepted.isSome = true →
    ∀ id ∈ c.ctx.collectionId, s.realIdOf id = none → s.creating id = 0
  | .collectionsCreate random _ _ => placeholderId random ∉ s.creates
  | _ => True

instance (s : SwServiceVimeo) : ∀ e, Decidable (s.CreatesSucceed e)
  | .reply i reply => inferInstanceAs (Decidable (∀ c ∈ s.calls[i]?, isCreate c = true →
    (createdAlbum reply).isSome = true))
  | .collectionsCreate _ _ _ => isTrue trivial
  | .uploadVideo _ _ _ _ => isTrue trivial
  | .otherUpload => isTrue trivial

instance (s : SwServiceVimeo) : ∀ e, Decidable (s.NoneCreating e)
  | .reply i reply => inferInstanceAs (Decidable (∀ c ∈ s.calls[i]?, beforeAlbum c = true →
    reply.accepted.isSome = true → ∀ id ∈ c.ctx.collectionId, s.realIdOf id = none →
    s.creating id = 0))
  | .collectionsCreate random _ _ => inferInstanceAs (Decidable (placeholderId random ∉ s.creates))
  | .uploadVideo _ _ _ _ => isTrue trivial
  | .otherUpload => isTrue trivial

/-! ## What a reply does -/

/-- The same upload, later in its chain. -/
structure SameUpload (a b : VimeoUploadCtx) : Prop where
  collectionId : a.collectionId = b.collectionId
  named : a.named = b.named

/-- The methods before the album step. -/
def isPlain : VimeoMethod → Bool
  | .addVideo _ => false
  | .createAlbum _ _ => false
  | _ => true

/-- What becomes of a chain by the reply to a call that does not create an album. -/
inductive Outcome (libs : NullHandling) (s : SwServiceVimeo) (c : VimeoCall) (reply : RestReply) :
    SwServiceVimeo → Prop where
  | ended : Outcome libs s c reply s.crash
  | failed (ctx : VimeoUploadCtx) (message : String) :
      Outcome libs s c reply (s.uploadError ctx message)
  | passed (method : VimeoMethod) (ctx : VimeoUploadCtx) (hplain : isPlain method = true)
      (hsame : SameUpload ctx c.ctx) :
      Outcome libs s c reply (s.simpleRestAsyncRun libs method ctx)
  | album (ctx : VimeoUploadCtx) (hsame : SameUpload ctx c.ctx) (hbefore : beforeAlbum c = true)
      (hok : reply.accepted.isSome = true) :
      Outcome libs s c reply (s.addVideoToAlbum libs ctx)
  | completed (ctx : VimeoUploadCtx) (hnone : ctx.collectionId = none) :
      Outcome libs s c reply (s.uploadCompleted ctx)
  | added (albumId : String) (hmethod : c.method = .addVideo albumId) :
      Outcome libs s c reply
        ({ s with albumVideos := s.albumVideos ++ [(albumId, c.ctx.videoId)] }.uploadCompleted
          c.ctx)

variable {libs : NullHandling} {s : SwServiceVimeo} {c : VimeoCall} {reply : RestReply}

theorem outcome_afterDescription {ctx : VimeoUploadCtx} (hsame : SameUpload ctx c.ctx)
    (hbefore : beforeAlbum c = true) (hok : reply.accepted.isSome = true) :
    Outcome libs s c reply (s.afterDescription libs ctx) := by
  unfold afterDescription
  split_ifs with hcollection
  · exact .album ctx hsame hbefore hok
  · exact .completed ctx (by simpa using hcollection)

theorem outcome_afterTitle {ctx : VimeoUploadCtx} (hsame : SameUpload ctx c.ctx)
    (hbefore : ctx.description = none → beforeAlbum c = true)
    (hok : reply.accepted.isSome = true) : Outcome libs s c reply (s.afterTitle libs ctx) := by
  unfold afterTitle
  split
  · exact .passed _ ctx rfl hsame
  · rename_i hnone
    exact outcome_afterDescription hsame (hbefore hnone) hok

/-- The first lines of a callback that asks for the root. -/
theorem outcome_root {good : RestXmlNode → SwServiceVimeo}
    (hgood : ∀ root, reply.accepted.isSome = true → Outcome libs s c reply (good root)) :
    Outcome libs s c reply (match nodeFromCall libs reply with
      | none => s.crash
      | some (.error err) => s.uploadError c.ctx err
      | some (.ok root) => good root) := by
  cases hnode : nodeFromCall libs reply with
  | none => exact .ended
  | some result =>
    cases result with
    | error err => exact .failed c.ctx err
    | ok root => exact hgood root (Option.isSome_of_eq_some (nodeFromCall_eq_ok_iff.1 hnode))

theorem outcome_uploadGetQuotaCb :
    Outcome libs s c reply (s.uploadGetQuotaCb libs reply c.ctx) := by
  unfold uploadGetQuotaCb
  split
  · exact .failed _ _
  · refine outcome_root fun root _ => ?_
    split
    · exact .failed _ _
    · dsimp only
      split_ifs
      · exact .failed _ _
      · exact .passed _ _ rfl ⟨rfl, rfl⟩

theorem outcome_uploadGetTicketCb :
    Outcome libs s c reply (s.uploadGetTicketCb libs reply c.ctx) := by
  refine outcome_root fun root _ => ?_
  dsimp only
  split_ifs
  · exact .failed _ _
  · split
    · exact .failed _ _
    · exact .passed _ _ rfl ⟨rfl, rfl⟩

theorem outcome_uploadVerifyCb : Outcome libs s c reply (s.uploadVerifyCb libs reply c.ctx) := by
  refine outcome_root fun root _ => ?_
  split
  · exact .failed _ _
  · split_ifs
    · exact .failed _ _
    · exact .passed _ _ rfl ⟨rfl, rfl⟩

theorem outcome_uploadCompleteCb (hm : c.method = .complete) :
    Outcome libs s c reply (s.uploadCompleteCb libs reply c.ctx) := by
  refine outcome_root fun root hok => ?_
  dsimp only
  split
  · exact .passed _ _ rfl ⟨rfl, rfl⟩
  · rename_i htitle
    refine outcome_afterTitle ⟨rfl, rfl⟩ (fun hdescription => ?_) hok
    rw [beforeAlbum, hm]
    dsimp only at htitle hdescription ⊢
    rw [htitle, hdescription]
    rfl

theorem outcome_onReply (hcreate : ∀ title description, c.method ≠ .createAlbum title description) :
    Outcome libs s c reply (s.onReply libs c reply) := by
  have hself : SameUpload c.ctx c.ctx := ⟨rfl, rfl⟩
  unfold onReply
  cases hm : c.method with
  | getQuota => exact outcome_uploadGetQuotaCb
  | getTicket => exact outcome_uploadGetTicketCb
  | uploadFile endpoint =>
    dsimp only [uploadFileCb]
    split
    · exact .failed _ _
    · exact .passed _ _ rfl hself
  | verifyChunks => exact outcome_uploadVerifyCb
  | complete => exact outcome_uploadCompleteCb hm
  | setTitle title =>
    refine outcome_root fun root hok => outcome_afterTitle hself (fun hdescription => ?_) hok
    rw [beforeAlbum, hm]
    dsimp only
    rw [hdescription]
    rfl
  | setDescription description =>
    exact outcome_root fun root hok => outcome_afterDescription hself (by rw [beforeAlbum, hm]) hok
  | addVideo albumId => exact outcome_root fun root _ => .added albumId hm
  | createAlbum title description => exact absurd hm (hcreate title description)

/-! ## The invariant -/

/-- The album of the placeholder is there. -/
def created (s : SwServiceVimeo) (id : String) : Nat := if (s.realIdOf id).isSome then 1 else 0

/-- What holds of a call in flight: its placeholder is there, and a video is added to the album of
its placeholder. -/
structure CallOk (s : SwServiceVimeo) (c : VimeoCall) : Prop where
  placeholder : ∀ id, (c.ctx.named = true ∧ c.ctx.collectionId = some id) ∨
    isCreateFor id c = true → (s.albumPlaceholders.lookup id).isSome = true
  album : ∀ albumId, c.method = .addVideo albumId → c.ctx.named = true →
    ∀ id, c.ctx.collectionId = some id → ∃ realId, s.realIdOf id = some realId ∧
      albumId = stripPrefix realId

/-- Each call to create an album is in flight or has been answered, and `out` gives the number of
the calls in flight. -/
structure Balanced (s : SwServiceVimeo) (out : String → Nat) : Prop where
  balance : ∀ id, s.creates.count id = out id + s.created id
  albums : s.OneAlbum
  calls : ∀ c ∈ s.calls, s.CallOk c

/-- A call keeps what holds of it while placeholders stay and keep their albums. -/
theorem CallOk.of_realIdOf {t : SwServiceVimeo} (hc : s.CallOk c)
    (hlookup : ∀ id, (s.albumPlaceholders.lookup id).isSome = true →
      (t.albumPlaceholders.lookup id).isSome = true)
    (hreal : ∀ id realId, s.realIdOf id = some realId → t.realIdOf id = some realId) :
    t.CallOk c where
  placeholder id hor := hlookup id (hc.placeholder id hor)
  album := by
    intro albumId hm hnamed id hid
    obtain ⟨realId, hsome, heq⟩ := hc.album albumId hm hnamed id hid
    exact ⟨realId, hreal id realId hsome, heq⟩

/-- A step that creates no album and answers no call to do so. -/
theorem Balanced.congr {out out' : String → Nat} {t : SwServiceVimeo} (h : Balanced s out)
    (hout : ∀ id, out' id = out id) (hreal : ∀ id, t.realIdOf id = s.realIdOf id)
    (hlookup : ∀ id, (s.albumPlaceholders.lookup id).isSome = true →
      (t.albumPlaceholders.lookup id).isSome = true)
    (hcreates : t.creates = s.creates) (hvideos : ∀ v ∈ s.albumVideos, v ∈ t.albumVideos)
    (hcompleted : ∀ ctx ∈ t.completed, ctx ∈ s.completed ∨ ∀ id, ctx.named = true →
      ctx.collectionId = some id → ∃ realId, s.realIdOf id = some realId ∧
        (stripPrefix realId, ctx.videoId) ∈ t.albumVideos)
    (hcalls : ∀ c ∈ t.calls, s.CallOk c) : Balanced t out' where
  balance := by
    intro id
    rw [hcreates, h.balance, hout, created, created, hreal]
  albums := by
    refine ⟨fun id => hcreates ▸ h.albums.once id, ?_⟩
    intro ctx hctx hnamed id hid
    rw [hreal]
    rcases hcompleted ctx hctx with hctx | hctx
    · obtain ⟨realId, hsome, hmem⟩ := h.albums.videos ctx hctx hnamed id hid
      exact ⟨realId, hsome, hvideos _ hmem⟩
    · exact hctx id hnamed hid
  calls c hc := (hcalls c hc).of_realIdOf hlookup fun id _ hsome => (hreal id).trans hsome

theorem callOk_of_same {ctx : VimeoUploadCtx} {method : VimeoMethod} (hc : s.CallOk c)
    (hsame : SameUpload ctx c.ctx) (hplain : isPlain method = true) : s.CallOk ⟨method, ctx⟩ where
  placeholder := by
    intro id hor
    have hno : isCreateFor id ⟨method, ctx⟩ = false := by
      cases method <;> first | rfl | cases hplain
    rw [hno, hsame.named, hsame.collectionId] at hor
    exact hc.placeholder id (Or.inl (hor.resolve_right Bool.false_ne_true))
  album := by
    intro albumId hm
    rw [show method = .addVideo albumId from hm] at hplain
    cases hplain

/-- The calls in flight of a state, one of them apart. -/
theorem creating_eraseIdx {i : Nat} (hi : s.calls[i]? = some c) (id : String) :
    s.creating id = (if isCreateFor id c = true then 1 else 0) +
      (s.calls.eraseIdx i).countP (isCreateFor id) := by
  obtain ⟨hlt, rfl⟩ := List.getElem?_eq_some_iff.1 hi
  rw [creating, ← (List.getElem_cons_eraseIdx_perm hlt).countP_eq, List.countP_cons, Nat.add_comm]

theorem creating_append (id : String) (calls : List VimeoCall) (c : VimeoCall) :
    (calls ++ [c]).countP (isCreateFor id) =
      calls.countP (isCreateFor id) + if isCreateFor id c = true then 1 else 0 := by
  rw [List.countP_append, List.countP_singleton]

/-! ## The album step -/

theorem creating_same {calls : List VimeoCall} {method : VimeoMethod} {ctx : VimeoUploadCtx}
    (hno : ∀ id, isCreateFor id ⟨method, ctx⟩ = false) (id : String) :
    (calls ++ [VimeoCall.mk method ctx]).countP (isCreateFor id) =
      calls.countP (isCreateFor id) := by
  rw [creating_append, hno id]
  rfl

/-- The end of the process leaves everything as it is. -/
theorem balanced_crash {out : String → Nat} (hs : Balanced s out) : Balanced s.crash out :=
  hs.congr (fun _ => rfl) (fun _ => rfl) (fun _ h => h) rfl (fun _ h => h) (fun _ h => Or.inl h)
    hs.calls

/-- A call is made that creates no album. -/
theorem balanced_simpleRestAsyncRun (hs : Balanced s s.creating) {method : VimeoMethod}
    {ctx : VimeoUploadCtx} (hno : ∀ id, isCreateFor id ⟨method, ctx⟩ = false)
    (hc : s.CallOk ⟨method, ctx⟩) :
    Balanced (s.simpleRestAsyncRun libs method ctx)
      (s.simpleRestAsyncRun libs method ctx).creating := by
  rcases simpleRestAsyncRun_cases libs method ctx s with heq | heq
  · rw [heq]
    exact balanced_crash hs
  · rw [heq]
    refine hs.congr (creating_same hno) (fun _ => rfl) (fun _ h => h) rfl (fun _ h => h)
      (fun _ h => Or.inl h) ?_
    exact List.forall_mem_append.2 ⟨hs.calls, List.forall_mem_singleton.2 hc⟩

/-- The video is added to the album of its placeholder. -/
theorem balanced_addVideo (hs : Balanced s s.creating) {ctx : VimeoUploadCtx} {albumId : String}
    (hnamed : ctx.named = true → ∀ id, ctx.collectionId = some id →
      (s.albumPlaceholders.lookup id).isSome = true)
    (halbum : ctx.named = true → ∀ id, ctx.collectionId = some id →
      ∃ realId, s.realIdOf id = some realId ∧ albumId = stripPrefix realId) :
    Balanced (s.simpleRestAsyncRun libs (.addVideo albumId) ctx)
      (s.simpleRestAsyncRun libs (.addVideo albumId) ctx).creating := by
  refine balanced_simpleRestAsyncRun hs (fun _ => rfl) ⟨?_, ?_⟩
  · intro id hor
    obtain ⟨hn, hid⟩ := hor.resolve_right Bool.false_ne_true
    exact hnamed hn id hid
  · intro albumId' hm hn id hid
    obtain rfl := VimeoMethod.addVideo.inj hm
    exact halbum hn id hid

theorem isCreateFor_iff {title : String} {description : Option String}
    (hm : c.method = .createAlbum title description) (id : String) :
    isCreateFor id c = true ↔ c.ctx.collectionId = some id := by
  rw [isCreateFor, hm]
  exact decide_eq_true_iff

/-- The placeholder of the album to be created is there. -/
theorem callOk_createAlbum {ctx : VimeoUploadCtx} {id : String}
    (hcollection : ctx.collectionId = some id)
    (hplaceholder : (s.albumPlaceholders.lookup id).isSome = true) (title : String)
    (description : Option String) : s.CallOk ⟨.createAlbum title description, ctx⟩ where
  placeholder := by
    intro id' hor
    obtain rfl : id = id' := by
      rcases hor with hand | hcreate
      · exact Option.some.inj (hcollection.symm.trans hand.2)
      · exact Option.some.inj (hcollection.symm.trans ((isCreateFor_iff rfl id').1 hcreate))
    exact hplaceholder
  album albumId hm := by cases hm

/-- The album of the placeholder is created: no call to do so is out, and none was ever made. -/
theorem balanced_createAlbum (hs : Balanced s s.creating) {ctx : VimeoUploadCtx} {id : String}
    (hcollection : ctx.collectionId = some id)
    (hplaceholder : (s.albumPlaceholders.lookup id).isSome = true) (hnone : s.realIdOf id = none)
    (hfree : s.creating id = 0) (title : String) (description : Option String)
    {t : SwServiceVimeo} (ht : t = callAsync (.createAlbum title description) ctx
      { s with creates := s.creates ++ [id] }) :
    Balanced t t.creating := by
  have hzero : s.creates.count id = 0 := by
    rw [hs.balance, hfree, created, hnone]
    rfl
  have hcount : ∀ id', t.creates.count id' = s.creates.count id' + if id = id' then 1 else 0 := by
    intro id'
    rw [ht]
    show (s.creates ++ [id]).count id' = _
    rw [List.count_append, List.count_singleton]
    simp
  have hfor : ∀ id', isCreateFor id' ⟨.createAlbum title description, ctx⟩ = true ↔ id = id' := by
    intro id'
    rw [isCreateFor_iff rfl, hcollection, Option.some_inj]
  have hcreating : ∀ id', t.creating id' = s.creating id' + if id = id' then 1 else 0 := by
    intro id'
    rw [ht]
    refine (creating_append id' s.calls _).trans ?_
    simp only [hfor]
    rfl
  refine ⟨?_, ⟨?_, ?_⟩, ?_⟩
  · intro id'
    have hcreated : t.created id' = s.created id' := by rw [ht]; rfl
    rw [hcount, hs.balance, hcreating, hcreated]
    omega
  · intro id'
    rw [hcount]
    split_ifs with heq
    · subst heq
      omega
    · exact hs.albums.once id'
  · rw [ht]
    exact hs.albums.videos
  · have hcalls : ∀ d ∈ t.calls, s.CallOk d := by
      rw [ht]
      exact List.forall_mem_append.2 ⟨hs.calls, List.forall_mem_singleton.2
        (callOk_createAlbum hcollection hplaceholder title description)⟩
    intro d hd
    refine (hcalls d hd).of_realIdOf ?_ ?_
    · rw [ht]
      exact fun _ h => h
    · rw [ht]
      exact fun _ _ h => h

theorem balanced_addVideoToAlbum (hs : Balanced s s.creating) {ctx : VimeoUploadCtx}
    (hnamed : ctx.named = true → ∀ id, ctx.collectionId = some id →
      (s.albumPlaceholders.lookup id).isSome = true)
    (hfree : ∀ id, ctx.collectionId = some id → s.realIdOf id = none → s.creating id = 0) :
    Balanced (s.addVideoToAlbum libs ctx) (s.addVideoToAlbum libs ctx).creating := by
  unfold addVideoToAlbum
  cases hcollection : ctx.collectionId with
  | none => exact hs
  | some id =>
    dsimp only
    cases hlookup : s.albumPlaceholders.lookup id with
    | none =>
      refine balanced_addVideo hs hnamed ?_
      intro hn
      have hsome := hnamed hn id hcollection
      rw [hlookup] at hsome
      cases hsome
    | some placeholder =>
      have hreal : s.realIdOf id = placeholder.realId := by
        rw [realIdOf, hlookup]
        rfl
      dsimp only
      cases hid : placeholder.realId with
      | some realId =>
        refine balanced_addVideo hs hnamed ?_
        intro _ id' hid'
        obtain rfl : id = id' := Option.some.inj (hcollection.symm.trans hid')
        exact ⟨realId, hreal.trans hid, rfl⟩
      | none =>
        have hnone : s.realIdOf id = none := hreal.trans hid
        dsimp only
        split
        · exact balanced_crash hs
        · refine balanced_createAlbum hs hcollection ?_ hnone (hfree id hcollection hnone)
            placeholder.title placeholder.description rfl
          rw [hlookup]
          rfl

/-! ## The reply that creates an album -/

theorem exists_of_createdAlbum (h : (createdAlbum reply).isSome = true) :
    ∃ root albumId, reply.accepted = some root ∧
      getChildAttribute root "album" "id" = some albumId := by
  obtain ⟨albumId, hbind⟩ := Option.isSome_iff_exists.1 h
  obtain ⟨root, hok, halbum⟩ := Option.bind_eq_some_iff.1 hbind
  exact ⟨root, albumId, hok, halbum⟩

theorem stripPrefix_append (albumId : String) :
    stripPrefix (ALBUM_PREFIX ++ albumId) = albumId := by
  rw [stripPrefix, String.toList_append, ← String.length_toList, List.drop_left]
  exact String.ofList_toList

theorem realIdOf_setRealId {id : String} {placeholder : VimeoAlbumPlaceholder} (realId : String)
    (hlookup : s.albumPlaceholders.lookup id = some placeholder) (id' : String) :
    realIdOf { s with
      albumPlaceholders := setRealId (some id) realId s.albumPlaceholders } id' =
      if id' = id then some realId else s.realIdOf id' := by
  unfold setRealId realIdOf
  dsimp only
  rw [hlookup]
  dsimp only
  split_ifs with heq
  · subst heq
    rw [AList.lookup_insert]
    rfl
  · rw [AList.lookup_insert_ne heq]

/-- The placeholder gets its first album. -/
theorem created_setRealId {id : String} {placeholder : VimeoAlbumPlaceholder} (realId : String)
    (hlookup : s.albumPlaceholders.lookup id = some placeholder) (hnone : s.realIdOf id = none)
    (id' : String) :
    created { s with albumPlaceholders := setRealId (some id) realId s.albumPlaceholders } id' =
      s.created id' + if id' = id then 1 else 0 := by
  rw [created, realIdOf_setRealId realId hlookup, created]
  by_cases heq : id' = id
  · subst heq
    rw [if_pos rfl, if_pos rfl, hnone]
    rfl
  · rw [if_neg heq, if_neg heq, Nat.add_zero]

/-- A placeholder that keeps its album, since its `real_id` is not set yet when the reply comes. -/
theorem realIdOf_setRealId_of_some {id id' realId realId' : String}
    {placeholder : VimeoAlbumPlaceholder}
    (hlookup : s.albumPlaceholders.lookup id = some placeholder) (hnone : s.realIdOf id = none)
    (hsome : s.realIdOf id' = some realId') :
    realIdOf { s with albumPlaceholders := setRealId (some id) realId s.albumPlaceholders } id' =
      some realId' := by
  rw [realIdOf_setRealId realId hlookup, if_neg, hsome]
  intro heq
  rw [heq, hnone] at hsome
  cases hsome

/-- A call to create an album was the only one for its placeholder, so there is no album before the
reply. -/
theorem realIdOf_eq_none
    (hs : Balanced s fun id => (if isCreateFor id c = true then 1 else 0) + s.creating id)
    {id : String} (hfor : isCreateFor id c = true) : s.realIdOf id = none := by
  have honce := hs.albums.once id
  have hbalance := hs.balance id
  rw [if_pos hfor] at hbalance
  rw [← Option.not_isSome_iff_eq_none]
  intro hsome
  rw [created, if_pos hsome] at hbalance
  omega

/-- The reply to a call that creates no album leaves the albums as they are. -/
theorem balanced_created_none
    (hs : Balanced s fun id => (if isCreateFor id c = true then 1 else 0) + s.creating id)
    (hno : ∀ id, ¬ isCreateFor id c = true) : Balanced s s.creating := by
  refine hs.congr ?_ (fun _ => rfl) (fun _ h => h) rfl (fun _ h => h) (fun _ h => Or.inl h) hs.calls
  intro id
  rw [if_neg (hno id), Nat.zero_add]

theorem balanced_createAlbumCb
    (hs : Balanced s fun id => (if isCreateFor id c = true then 1 else 0) + s.creating id)
    (hc : s.CallOk c) {title : String} {description : Option String}
    (hm : c.method = .createAlbum title description) {root : RestXmlNode} {albumId : String}
    (hok : reply.accepted = some root)
    (halbum : getChildAttribute root "album" "id" = some albumId) :
    Balanced (s.createAlbumCb libs reply c.ctx) (s.createAlbumCb libs reply c.ctx).creating := by
  have hfor := isCreateFor_iff hm
  unfold createAlbumCb
  rw [nodeFromCall_eq_ok_iff.2 hok]
  dsimp only
  rw [halbum, Option.getD_some]
  cases hcollection : c.ctx.collectionId with
  | none =>
    refine balanced_crash (balanced_created_none hs fun id h => ?_)
    have hid := (hfor id).1 h
    rw [hcollection] at hid
    cases hid
  | some id =>
    obtain ⟨placeholder, hlookup⟩ := Option.isSome_iff_exists.1
      (hc.placeholder id (Or.inr ((hfor id).2 hcollection)))
    rw [Option.bind_some, hlookup]
    have hnone := realIdOf_eq_none hs ((hfor id).2 hcollection)
    have hreal := realIdOf_setRealId (ALBUM_PREFIX ++ albumId) hlookup
    refine ⟨?_, ⟨hs.albums.once, ?_⟩, ?_⟩
    · intro id'
      have hiff : isCreateFor id' c = true ↔ id' = id := by
        rw [hfor, hcollection, Option.some_inj, eq_comm]
      refine (hs.balance id').trans ?_
      show (if isCreateFor id' c = true then 1 else 0) + s.creating id' + s.created id' =
        s.creating id' + created { s with
          albumPlaceholders := setRealId (some id) (ALBUM_PREFIX ++ albumId) s.albumPlaceholders }
          id'
      rw [created_setRealId _ hlookup hnone, if_congr hiff rfl rfl]
      omega
    · intro ctx hctx hnamed id' hid
      rcases List.mem_append.1 hctx with hctx | hctx
      · obtain ⟨realId', hsome, hmem⟩ := hs.albums.videos ctx hctx hnamed id' hid
        exact ⟨realId', realIdOf_setRealId_of_some hlookup hnone hsome,
          List.mem_append_left _ hmem⟩
      · obtain rfl := List.mem_singleton.1 hctx
        obtain rfl : id = id' := Option.some.inj (hcollection.symm.trans hid)
        refine ⟨ALBUM_PREFIX ++ albumId, ?_, ?_⟩
        · exact (hreal id).trans (if_pos rfl)
        · rw [stripPrefix_append]
          exact List.mem_append_right _ (List.mem_singleton_self _)
    · intro d hd
      exact (hs.calls d hd).of_realIdOf (fun _ => isSome_lookup_setRealId)
        fun _ _ => realIdOf_setRealId_of_some hlookup hnone

/-! ## Steps -/

/-- A chain goes on to a call before the album step. -/
theorem balanced_passed (hs : Balanced s s.creating) (hc : s.CallOk c) {ctx : VimeoUploadCtx}
    {method : VimeoMethod} (hsame : SameUpload ctx c.ctx) (hplain : isPlain method = true) :
    Balanced (s.simpleRestAsyncRun libs method ctx)
      (s.simpleRestAsyncRun libs method ctx).creating := by
  have hno : ∀ id, isCreateFor id ⟨method, ctx⟩ = false := by
    intro id
    cases method <;> first | rfl | cases hplain
  exact balanced_simpleRestAsyncRun hs hno (callOk_of_same hc hsame hplain)

/-- A chain ends with progress 100. -/
theorem balanced_uploadCompleted (hs : Balanced s s.creating) {t : SwServiceVimeo}
    {ctx : VimeoUploadCtx} (ht : t = { s with albumVideos := t.albumVideos })
    (hvideos : ∀ v ∈ s.albumVideos, v ∈ t.albumVideos)
    (hctx : ∀ id, ctx.named = true → ctx.collectionId = some id →
      ∃ realId, s.realIdOf id = some realId ∧ (stripPrefix realId, ctx.videoId) ∈ t.albumVideos) :
    Balanced (t.uploadCompleted ctx) (t.uploadCompleted ctx).creating := by
  rw [ht] at hvideos hctx ⊢
  refine hs.congr (fun _ => rfl) (fun _ => rfl) (fun _ h => h) rfl hvideos ?_ hs.calls
  intro d hd
  rcases List.mem_append.1 hd with hd | hd
  · exact Or.inl hd
  · obtain rfl := List.mem_singleton.1 hd
    exact Or.inr hctx

theorem balanced_outcome {t : SwServiceVimeo} (hs : Balanced s s.creating) (hc : s.CallOk c)
    (hfree : ∀ id, beforeAlbum c = true → reply.accepted.isSome = true →
      c.ctx.collectionId = some id → s.realIdOf id = none → s.creating id = 0)
    (h : Outcome libs s c reply t) : Balanced t t.creating := by
  cases h with
  | ended => exact balanced_crash hs
  | failed ctx message =>
    exact hs.congr (fun _ => rfl) (fun _ => rfl) (fun _ h => h) rfl (fun _ h => h)
      (fun _ h => Or.inl h) hs.calls
  | passed method ctx hplain hsame => exact balanced_passed hs hc hsame hplain
  | album ctx hsame hbefore hok =>
    refine balanced_addVideoToAlbum hs ?_ ?_
    · intro hnamed id hid
      rw [hsame.named] at hnamed
      rw [hsame.collectionId] at hid
      exact hc.placeholder id (Or.inl ⟨hnamed, hid⟩)
    · intro id hid
      rw [hsame.collectionId] at hid
      exact hfree id hbefore hok hid
  | completed ctx hnone =>
    refine balanced_uploadCompleted hs rfl (fun _ h => h) ?_
    intro id _ hid
    rw [hnone] at hid
    cases hid
  | added albumId hmethod =>
    refine balanced_uploadCompleted hs rfl (fun _ h => List.mem_append_left _ h) ?_
    intro id hnamed hid
    obtain ⟨realId, hsome, rfl⟩ := hc.album albumId hmethod hnamed id hid
    exact ⟨realId, hsome, List.mem_append_right _ (List.mem_singleton_self _)⟩

/-- The state in which a reply is handled: its call is no longer in flight. -/
theorem balanced_eraseIdx (hs : Balanced s s.creating) {i : Nat} (hi : s.calls[i]? = some c) :
    Balanced { s with calls := s.calls.eraseIdx i } fun id =>
      (if isCreateFor id c = true then 1 else 0) + (s.calls.eraseIdx i).countP (isCreateFor id) :=
  hs.congr (fun id => (creating_eraseIdx hi id).symm) (fun _ => rfl) (fun _ h => h) rfl
    (fun _ h => h) (fun _ h => Or.inl h) fun d hd => hs.calls d (List.mem_of_mem_eraseIdx hd)

theorem balanced_reply (hs : Balanced s s.creating) {i : Nat}
    (hcreate : s.CreatesSucceed (.reply i reply)) (hnone : s.NoneCreating (.reply i reply)) :
    Balanced (s.handle libs (.reply i reply)) (s.handle libs (.reply i reply)).creating := by
  unfold handle
  dsimp only
  cases hi : s.calls[i]? with
  | none => exact hs
  | some c =>
    dsimp only
    have herased := balanced_eraseIdx hs hi
    have hc : ({ s with calls := s.calls.eraseIdx i } : SwServiceVimeo).CallOk c :=
      (hs.calls c (List.mem_of_getElem? hi)).of_realIdOf (fun _ h => h) fun _ _ h => h
    by_cases hm : ∃ title description, c.method = .createAlbum title description
    · obtain ⟨title, description, hm⟩ := hm
      obtain ⟨root, albumId, hok, halbum⟩ := exists_of_createdAlbum
        (hcreate c hi (by rw [isCreate, hm]))
      rw [onReply, hm]
      exact balanced_createAlbumCb herased hc hm hok halbum
    · have hno : ∀ id, isCreateFor id c = false := by
        intro id
        cases hmethod : c.method with
        | createAlbum title description => exact absurd ⟨title, description, hmethod⟩ hm
        | _ => rw [isCreateFor, hmethod]
      have hsame : ∀ id, s.creating id =
          ({ s with calls := s.calls.eraseIdx i } : SwServiceVimeo).creating id := by
        intro id
        rw [creating_eraseIdx hi, hno id]
        exact Nat.zero_add _
      simp only [hno, Bool.false_eq_true, if_false, Nat.zero_add] at herased
      refine balanced_outcome herased hc ?_
        (outcome_onReply fun title description h => hm ⟨title, description, h⟩)
      intro id hbefore hok hid hreal
      exact (hsame id).symm.trans (hnone c hi hbefore hok id hid hreal)

theorem balanced_collectionsCreate (hs : Balanced s s.creating) {random : Nat}
    (hfresh : placeholderId random ∉ s.creates) (name : String) (description : Option String) :
    Balanced (s.collectionsCreate random name description)
      (s.collectionsCreate random name description).creating := by
  -- Nothing was created for this id, so the placeholder that it replaces had no album.
  have hold : s.realIdOf (placeholderId random) = none := by
    have hbalance := hs.balance (placeholderId random)
    rw [List.count_eq_zero.2 hfresh] at hbalance
    rw [← Option.not_isSome_iff_eq_none]
    intro hsome
    rw [created, if_pos hsome] at hbalance
    omega
  refine hs.congr (fun _ => rfl) ?_ ?_ rfl (fun _ h => h) (fun _ h => Or.inl h) hs.calls
  · intro id
    unfold realIdOf collectionsCreate
    dsimp only
    by_cases heq : id = placeholderId random
    · rw [heq, AList.lookup_insert]
      exact hold.symm
    · rw [AList.lookup_insert_ne heq]
  · intro id hsome
    unfold collectionsCreate
    dsimp only
    by_cases heq : id = placeholderId random
    · rw [heq, AList.lookup_insert]
      rfl
    · rwa [AList.lookup_insert_ne heq]

theorem balanced_uploadVideo (hs : Balanced s s.creating) (file : Except String Nat)
    (title description collection : Option String) :
    Balanced (s.uploadVideo libs file title description collection)
      (s.uploadVideo libs file title description collection).creating := by
  unfold uploadVideo
  cases file with
  | error message => exact hs
  | ok fileLength =>
    refine hs.congr (creating_same fun _ => rfl) (fun _ => rfl) (fun _ h => h) rfl (fun _ h => h)
      (fun _ h => Or.inl h) ?_
    intro d hd
    rcases List.mem_append.1 hd with hd | hd
    · exact hs.calls d hd
    · obtain rfl := List.mem_singleton.1 hd
      refine ⟨?_, fun albumId hm => by cases hm⟩
      intro id hor
      obtain ⟨hnamed, hid⟩ := hor.resolve_right Bool.false_ne_true
      obtain rfl : collection = some id := hid
      rw [AList.lookup_isSome]
      exact of_decide_eq_true hnamed

theorem balanced_handle (hs : Balanced s s.creating) {e : VimeoEvent}
    (hcreate : s.CreatesSucceed e) (hnone : s.NoneCreating e) :
    Balanced (s.handle libs e) (s.handle libs e).creating := by
  cases e with
  | collectionsCreate random name description =>
    exact balanced_collectionsCreate hs hnone name description
  | uploadVideo file title description collection =>
    exact balanced_uploadVideo hs file title description collection
  | otherUpload =>
    exact hs.congr (fun _ => rfl) (fun _ => rfl) (fun _ h => h) rfl (fun _ h => h)
      (fun _ h => Or.inl h) hs.calls
  | reply i reply => exact balanced_reply hs hcreate hnone

theorem balanced_step (hs : Balanced s s.creating) {e : VimeoEvent}
    (hcreate : s.CreatesSucceed e) (hnone : s.NoneCreating e) :
    Balanced (s.step libs e) (s.step libs e).creating := by
  unfold step
  split_ifs
  · exact balanced_handle hs hcreate hnone
  · exact hs

theorem balanced_init : Balanced init init.creating where
  balance _ := rfl
  albums := ⟨fun _ => Nat.zero_le _, fun _ h => by cases h⟩
  calls _ h := by cases h

end SwServiceVimeo

/-! ## The main result -/

/-- **Main result.** While the calls to create albums succeed, a placeholder becomes one album with
the videos of all uploads that name it, if no chain gets to the album step between the call to
create the album and its reply. -/
theorem SwServiceVimeo.oneAlbum (libs : NullHandling) {es : List VimeoEvent}
    (hok : EveryStep (step libs) (fun s e => s.CreatesSucceed e ∧ s.NoneCreating e) init es) :
    EveryState (step libs) OneAlbum init es := by
  have hstep : ∀ s e, Balanced s s.creating → s.CreatesSucceed e ∧ s.NoneCreating e →
      Balanced (s.step libs e) (s.step libs e).creating := by
    intro s e hs hok
    exact balanced_step hs hok.1 hok.2
  exact (everyState_of_everyStep hstep balanced_init hok).mono fun _ hs => hs.albums

namespace SwServiceVimeo

/-- A good reply with these nodes. -/
def goodReply (nodes : List (String × List (String × String))) : RestReply :=
  ⟨none, 200, "OK", "", some ⟨"rsp", [("stat", "ok")], nodes⟩⟩

/-- A good reply says that the album is there. -/
def albumReply (albumId : String) : RestReply := goodReply [("album", [("id", albumId)])]

/-- A file of 1000 bytes is uploaded to the placeholder 7; call `i` becomes the chain of this
upload, which gets as far as the album step. -/
def uploadToPlaceholder (i : Nat) (videoId : String) : List VimeoEvent :=
  [.uploadVideo (.ok 1000) none none (some (placeholderId 7)),
    .reply i (goodReply [("upload_space", [("free", "5000")])]),
    .reply i (goodReply [("ticket", [("id", "t"), ("endpoint", "e")])]),
    .reply i (goodReply []),
    .reply i (goodReply [("chunk", [("size", "1000")])]),
    .reply i (goodReply [("ticket", [("video_id", videoId)])])]

/-- The second upload begins after the album is created. -/
def oneAfterTheOther : List VimeoEvent :=
  .collectionsCreate 7 "Holidays" none :: uploadToPlaceholder 0 "v1" ++
    .reply 0 (albumReply "1") :: uploadToPlaceholder 0 "v2" ++ [.reply 0 (goodReply [])]

theorem oneAlbum_oneAfterTheOther : EveryState (step .strict) OneAlbum init oneAfterTheOther :=
  oneAlbum .strict (by decide +kernel)

/-- The second upload is at the album step before the album is created. -/
def bothBeforeReply : List VimeoEvent :=
  .collectionsCreate 7 "Holidays" none :: uploadToPlaceholder 0 "v1" ++
    uploadToPlaceholder 1 "v2" ++ [.reply 0 (albumReply "1"), .reply 0 (albumReply "2")]

/-- Both calls create an album, and the video of the first upload is not in that of `real_id`. -/
theorem bothBeforeReply_twoAlbums : ¬ ∀ (libs : NullHandling) (es : List VimeoEvent),
    EveryStep (step libs) CreatesSucceed init es → EveryState (step libs) OneAlbum init es := by
  intro hall
  have hlast := (hall .strict bothBeforeReply (by decide +kernel)).last
  have htwo :
      (runFrom (step .strict) init bothBeforeReply).creates.count (placeholderId 7) = 2 := by
    decide +kernel
  have hone := hlast.once (placeholderId 7)
  rw [htwo] at hone
  omega

end SwServiceVimeo

end LibSocialWeb
