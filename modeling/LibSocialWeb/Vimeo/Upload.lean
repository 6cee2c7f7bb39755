import LibSocialWeb.Rest.Calls
import Mathlib.Data.List.AList
import Mathlib.Tactic.SplitIfs

/-!
# Uploads to Vimeo (`services/vimeo/vimeo.c`)

An upload is a chain of calls: quota, ticket, file, chunks, completion, title, description, album.
Each reply makes the next call or ends the chain, with progress 100 or with -1 and a message.

**Albums.** Vimeo creates no album without a video. So `Collections.Create` returns a placeholder,
and the first video that is added to it creates the album: `real_id` is NULL until the reply to
`vimeo.albums.create` comes in. The two fields `creates` and `albumVideos` record the collections
that `vimeo.albums.create` was called for and the videos that the server has put in an album;
`completed` lists the uploads that reported 100, and `named` tells of an upload whether its
collection was a placeholder when it began. No code reads these four.

**Replies.** librest hands a reply over with its status and payload; `root` is what its XML parser
makes of the payload. A payload that is no XML gives `node_from_call` a NULL node to search, and a
completed upload without a `video_id` gives the later calls a NULL parameter. Where the library does
not take NULL, the process ends: `running` is false from then on, and nothing happens any more.
-/

namespace LibSocialWeb

def ALBUM_PREFIX : String := "vimeo-"

/-! ## Replies -/

/-- The root of a parsed reply; `nodes` lists the names and attributes of all nodes in the order of
`rest_xml_node_find`. -/
structure RestXmlNode where
  name : String
  attrs : List (String × String)
  nodes : List (String × List (String × String))
  deriving DecidableEq

structure RestReply where
  error : Option String
  statusCode : Nat
  statusMessage : String
  payload : String
  root : Option RestXmlNode
  deriving DecidableEq

/-- `node_from_call`: the root of the reply, or the message of the error. A NULL node is handed to
`rest_xml_node_find` and `rest_xml_node_unref`; `none` if that ends the process. -/
def nodeFromCall (libs : NullHandling) (call : RestReply) : Option (Except String RestXmlNode) :=
  if ¬ (200 ≤ call.statusCode ∧ call.statusCode < 300) then
    some (.error ("HTTP error: " ++ call.statusMessage ++ " (" ++ toString call.statusCode ++ ")"))
  else
    match call.root with
    | none => if libs.find && libs.unref then some (.error "remote Vimeo error: unknown") else none
    | some node =>
      if node.name = "rsp" ∧ node.attrs.lookup "stat" ≠ some "ok" then
        some (.error ("remote Vimeo error: " ++
          match node.nodes.lookup "err" with
          | some err => (err.lookup "msg").getD "(null)"
          | none => "unknown"))
      else some (.ok node)

/-- The root that `node_from_call` accepts. -/
def RestReply.accepted (call : RestReply) : Option RestXmlNode :=
  if 200 ≤ call.statusCode ∧ call.statusCode < 300 then
    call.root.filter fun node => ¬ (node.name = "rsp" ∧ node.attrs.lookup "stat" ≠ some "ok")
  else none

/-- A good status, and a payload that is no XML. -/
def RestReply.Unreadable (call : RestReply) : Prop :=
  (200 ≤ call.statusCode ∧ call.statusCode < 300) ∧ call.root = none

instance (call : RestReply) : Decidable call.Unreadable :=
  inferInstanceAs (Decidable (_ ∧ _))

theorem nodeFromCall_eq_ok_iff {libs : NullHandling} {call : RestReply} {root : RestXmlNode} :
    nodeFromCall libs call = some (.ok root) ↔ call.accepted = some root := by
  unfold nodeFromCall RestReply.accepted
  by_cases hstatus : 200 ≤ call.statusCode ∧ call.statusCode < 300
  · rw [if_neg (not_not.2 hstatus), if_pos hstatus]
    cases call.root with
    | none => cases libs.find && libs.unref <;> exact iff_of_false nofun nofun
    | some node =>
      rw [Option.filter_some]
      dsimp only
      split_ifs <;> simp_all
  · rw [if_pos hstatus, if_neg hstatus]
    exact iff_of_false nofun nofun

theorem nodeFromCall_eq_none_iff {libs : NullHandling} {call : RestReply} :
    nodeFromCall libs call = none ↔ call.Unreadable ∧ (libs.find && libs.unref) = false := by
  unfold nodeFromCall RestReply.Unreadable
  by_cases hstatus : 200 ≤ call.statusCode ∧ call.statusCode < 300
  · rw [if_neg (not_not.2 hstatus)]
    cases call.root with
    | none => cases libs.find && libs.unref <;> simp [hstatus]
    | some node =>
      dsimp only
      split_ifs <;> simp
  · rw [if_pos hstatus]
    exact iff_of_false nofun fun h => hstatus h.1.1

def getChildAttribute (root : RestXmlNode) (elementName attrName : String) : Option String :=
  (root.nodes.lookup elementName).bind fun attrs => attrs.lookup attrName

/-- A `gint64` that C compares with a `gsize`. -/
def asGsize (n : Int) : Nat := (UInt64.ofInt n).toNat

/-! ## The service -/

structure VimeoAlbumPlaceholder where
  title : String
  description : Option String
  realId : Option String
  deriving DecidableEq

structure VimeoUploadCtx where
  opid : Int32
  fileLength : Nat
  ticketId : Option String
  videoId : Option String
  title : Option String
  description : Option String
  collectionId : Option String
  named : Bool
  deriving DecidableEq

/-- The methods that an upload calls. -/
inductive VimeoMethod where
  | getQuota
  | getTicket
  | uploadFile (endpoint : String)
  | verifyChunks
  | complete
  | setTitle (title : String)
  | setDescription (description : String)
  | addVideo (albumId : String)
  | createAlbum (title : String) (description : Option String)
  deriving DecidableEq

/-- The parameters that a call is given, up to the contents of the file. -/
def VimeoMethod.params (ctx : VimeoUploadCtx) : VimeoMethod → List (String × Option String)
  | .getQuota => [("method", some "vimeo.videos.upload.getQuota")]
  | .getTicket => [("method", some "vimeo.videos.upload.getTicket")]
  | .uploadFile _ => [("chunk_id", some "0"), ("ticket_id", ctx.ticketId)]
  | .verifyChunks =>
    [("method", some "vimeo.videos.upload.verifyChunks"), ("ticket_id", ctx.ticketId)]
  | .complete => [("method", some "vimeo.videos.upload.complete"), ("ticket_id", ctx.ticketId)]
  | .setTitle title =>
    [("method", some "vimeo.videos.setTitle"), ("title", some title), ("video_id", ctx.videoId)]
  | .setDescription description =>
    [("method", some "vimeo.videos.setDescription"), ("description", some description),
      ("video_id", ctx.videoId)]
  | .addVideo albumId =>
    [("method", some "vimeo.albums.addVideo"), ("album_id", some albumId),
      ("video_id", ctx.videoId)]
  | .createAlbum title description =>
    [("method", some "vimeo.albums.create"), ("title", some title), ("video_id", ctx.videoId)] ++
      (description.map fun description => ("description", some description)).toList

/-- The parameters are all there: the ticket up to the end of the upload, the video after it. -/
def VimeoMethod.given (ctx : VimeoUploadCtx) : VimeoMethod → Bool
  | .getQuota => true
  | .getTicket => true
  | .uploadFile _ => ctx.ticketId.isSome
  | .verifyChunks => ctx.ticketId.isSome
  | .complete => ctx.ticketId.isSome
  | .setTitle _ => ctx.videoId.isSome
  | .setDescription _ => ctx.videoId.isSome
  | .addVideo _ => ctx.videoId.isSome
  | .createAlbum _ _ => ctx.videoId.isSome

theorem VimeoMethod.all_params (ctx : VimeoUploadCtx) (method : VimeoMethod) :
    (method.params ctx).all (·.2.isSome) = method.given ctx := by
  cases method with
  | createAlbum title description => cases description <;> simp [params, given]
  | _ => simp [params, given]

theorem addParams_params (libs : NullHandling) (ctx : VimeoUploadCtx) (method : VimeoMethod) :
    libs.addParams (method.params ctx) =
      if method.given ctx || libs.addParam then some (method.params ctx) else none := by
  rw [NullHandling.addParams, VimeoMethod.all_params]

/-- A call in flight, with its user data. -/
structure VimeoCall where
  method : VimeoMethod
  ctx : VimeoUploadCtx
  deriving DecidableEq

structure VideoUploadProgress where
  opid : Int32
  progress : Int
  message : String
  deriving DecidableEq

/-- `opid` is the `gint` of `sw_next_opid`, which all services draw from. -/
structure SwServiceVimeo where
  running : Bool
  albumPlaceholders : AList fun _ : String => VimeoAlbumPlaceholder
  opid : Int32
  calls : List VimeoCall
  emitted : List VideoUploadProgress
  creates : List String
  albumVideos : List (String × Option String)
  completed : List VimeoUploadCtx

namespace SwServiceVimeo

/-- `sw_service_vimeo_initable` -/
def init : SwServiceVimeo := ⟨true, ∅, 1, [], [], [], [], []⟩

/-- The end of the process. -/
def crash (self : SwServiceVimeo) : SwServiceVimeo := { self with running := false }

/-- `rest_proxy_call_async` -/
def callAsync (method : VimeoMethod) (ctx : VimeoUploadCtx) (self : SwServiceVimeo) :
    SwServiceVimeo := { self with calls := self.calls ++ [⟨method, ctx⟩] }

/-- `_simple_rest_async_run` -/
def simpleRestAsyncRun (libs : NullHandling) (method : VimeoMethod) (ctx : VimeoUploadCtx)
    (self : SwServiceVimeo) : SwServiceVimeo :=
  match libs.addParams (method.params ctx) with
  | none => self.crash
  | some _ => self.callAsync method ctx

theorem simpleRestAsyncRun_eq (libs : NullHandling) (method : VimeoMethod) (ctx : VimeoUploadCtx)
    (self : SwServiceVimeo) : self.simpleRestAsyncRun libs method ctx =
      if method.given ctx || libs.addParam then self.callAsync method ctx else self.crash := by
  rw [simpleRestAsyncRun, addParams_params]
  split_ifs <;> rfl

theorem simpleRestAsyncRun_cases (libs : NullHandling) (method : VimeoMethod)
    (ctx : VimeoUploadCtx) (self : SwServiceVimeo) :
    self.simpleRestAsyncRun libs method ctx = self.crash ∨
      self.simpleRestAsyncRun libs method ctx = self.callAsync method ctx := by
  rw [simpleRestAsyncRun_eq]
  split_ifs
  · exact Or.inr rfl
  · exact Or.inl rfl

/-- `sw_next_opid` -/
def nextOpid (self : SwServiceVimeo) : SwServiceVimeo := { self with opid := self.opid + 1 }

/-- `UPLOAD_ERROR` -/
def uploadError (ctx : VimeoUploadCtx) (message : String) (self : SwServiceVimeo) :
    SwServiceVimeo := { self with emitted := self.emitted ++ [⟨ctx.opid, -1, message⟩] }

/-- `_upload_completed` -/
def uploadCompleted (ctx : VimeoUploadCtx) (self : SwServiceVimeo) : SwServiceVimeo :=
  { self with
    emitted := self.emitted ++ [⟨ctx.opid, 100, ""⟩]
    completed := self.completed ++ [ctx] }

/-! ## Albums -/

/-- The id that `_vimeo_collections_create` makes of a random number. -/
def placeholderId (random : Nat) : String := ALBUM_PREFIX ++ "placeholder-" ++ toString random

/-- `_vimeo_collections_create` -/
def collectionsCreate (random : Nat) (collectionName : String) (description : Option String)
    (self : SwServiceVimeo) : SwServiceVimeo :=
  let placeholder : VimeoAlbumPlaceholder := ⟨collectionName, description, none⟩
  { self with
    albumPlaceholders := self.albumPlaceholders.insert (placeholderId random) placeholder }

variable (libs : NullHandling)

/-- The id without `ALBUM_PREFIX`. -/
def stripPrefix (collectionId : String) : String :=
  String.ofList (collectionId.toList.drop ALBUM_PREFIX.length)

/-- `_add_video_to_album` -/
def addVideoToAlbum (ctx : VimeoUploadCtx) (self : SwServiceVimeo) : SwServiceVimeo :=
  match ctx.collectionId with
  | none => self
  | some collectionId =>
    match self.albumPlaceholders.lookup collectionId with
    | none => self.simpleRestAsyncRun libs (.addVideo (stripPrefix collectionId)) ctx
    | some placeholder =>
      match placeholder.realId with
      | some realId => self.simpleRestAsyncRun libs (.addVideo (stripPrefix realId)) ctx
      | none =>
        let method : VimeoMethod := .createAlbum placeholder.title placeholder.description
        match libs.addParams (method.params ctx) with
        | none => self.crash
        | some _ => { self with creates := self.creates ++ [collectionId] }.callAsync method ctx

/-- `_add_to_album_cb`: a good reply says that the video is in the album. -/
def addToAlbumCb (albumId : String) (call : RestReply) (ctx : VimeoUploadCtx)
    (self : SwServiceVimeo) : SwServiceVimeo :=
  match nodeFromCall libs call with
  | none => self.crash
  | some (.error err) => self.uploadError ctx err
  | some (.ok _) =>
    { self with albumVideos := self.albumVideos ++ [(albumId, ctx.videoId)] }.uploadCompleted ctx

/-- `placeholder->real_id = ...` -/
def setRealId (collectionId : Option String) (realId : String)
    (table : AList fun _ : String => VimeoAlbumPlaceholder) :
    AList fun _ : String => VimeoAlbumPlaceholder :=
  match collectionId with
  | none => table
  | some id =>
    match table.lookup id with
    | none => table
    | some placeholder => table.insert id { placeholder with realId := some realId }

/-- No placeholder goes away. -/
theorem isSome_lookup_setRealId {collectionId : Option String} {id realId : String}
    {table : AList fun _ : String => VimeoAlbumPlaceholder}
    (h : (table.lookup id).isSome = true) :
    ((setRealId collectionId realId table).lookup id).isSome = true := by
  cases collectionId with
  | none => exact h
  | some id' =>
    unfold setRealId
    dsimp only
    split
    · exact h
    · by_cases heq : id = id'
      · subst heq
        rw [AList.lookup_insert]
        rfl
      · rwa [AList.lookup_insert_ne heq]

/-- `_create_album_cb`: a good reply says that there is an album with the video. Its `real_id` is
written to the placeholder without a look whether there is one. -/
def createAlbumCb (call : RestReply) (ctx : VimeoUploadCtx) (self : SwServiceVimeo) :
    SwServiceVimeo :=
  match nodeFromCall libs call with
  | none => self.crash
  | some (.error err) => self.uploadError ctx err
  | some (.ok root) =>
    match ctx.collectionId.bind fun id => self.albumPlaceholders.lookup id with
    | none => self.crash
    | some _ =>
      let albumId := (getChildAttribute root "album" "id").getD "(null)"
      { self with
        albumPlaceholders := setRealId ctx.collectionId (ALBUM_PREFIX ++ albumId)
          self.albumPlaceholders
        albumVideos := self.albumVideos ++ [(albumId, ctx.videoId)] }.uploadCompleted ctx

/-! ## The chain -/

/-- `_vimeo_upload_video`; `file` is the length of the mapped file, or the error of mapping it. -/
def uploadVideo (file : Except String Nat) (title description collection : Option String)
    (self : SwServiceVimeo) : SwServiceVimeo :=
  match file with
  | .error _ => self
  | .ok fileLength =>
    let named := collection.any fun id => id ∈ self.albumPlaceholders
    let ctx : VimeoUploadCtx :=
      ⟨self.opid, fileLength, none, none, title, description, collection, named⟩
    self.nextOpid.simpleRestAsyncRun libs .getQuota ctx

/-- `_upload_get_quota_cb` -/
def uploadGetQuotaCb (call : RestReply) (ctx : VimeoUploadCtx) (self : SwServiceVimeo) :
    SwServiceVimeo :=
  match call.error with
  | some error => self.uploadError ctx error
  | none =>
    match nodeFromCall libs call with
    | none => self.crash
    | some (.error err) => self.uploadError ctx err
    | some (.ok root) =>
      match getChildAttribute root "upload_space" "free" with
      | none => self.uploadError ctx
          ("Malformed respose, can't get free space: \n" ++ call.payload)
      | some freeSpace =>
        let freeQuota := gAsciiStrtoll freeSpace
        if asGsize freeQuota < ctx.fileLength then
          self.uploadError ctx ("The file is larger than the user's remaining quota, " ++
            "need " ++ toString ctx.fileLength ++ ", but only have " ++ toString freeQuota ++
            " left in quota")
        else self.simpleRestAsyncRun libs .getTicket ctx

/-- `_upload_get_ticket_cb` -/
def uploadGetTicketCb (call : RestReply) (ctx : VimeoUploadCtx) (self : SwServiceVimeo) :
    SwServiceVimeo :=
  match nodeFromCall libs call with
  | none => self.crash
  | some (.error err) => self.uploadError ctx err
  | some (.ok root) =>
    let ctx := { ctx with ticketId := getChildAttribute root "ticket" "id" }
    if ctx.ticketId.isNone then
      self.uploadError ctx ("Malformed respose, expected ticket id: \n" ++ call.payload)
    else
      match getChildAttribute root "ticket" "endpoint" with
      | none => self.uploadError ctx
          ("Malformed respose, expected upload_endpoint: \n" ++ call.payload)
      | some uploadEndpoint => self.simpleRestAsyncRun libs (.uploadFile uploadEndpoint) ctx

/-- `_upload_file_cb` -/
def uploadFileCb (call : RestReply) (ctx : VimeoUploadCtx) (self : SwServiceVimeo) :
    SwServiceVimeo :=
  match call.error with
  | some error => self.uploadError ctx error
  | none => self.simpleRestAsyncRun libs .verifyChunks ctx

/-- `_upload_verify_cb` -/
def uploadVerifyCb (call : RestReply) (ctx : VimeoUploadCtx) (self : SwServiceVimeo) :
    SwServiceVimeo :=
  match nodeFromCall libs call with
  | none => self.crash
  | some (.error err) => self.uploadError ctx err
  | some (.ok root) =>
    match getChildAttribute root "chunk" "size" with
    | none => self.uploadError ctx
        ("Malformed respose, expected chunk_size: \n" ++ call.payload)
    | some chunkSize =>
      if asGsize (gAsciiStrtoll chunkSize) ≠ ctx.fileLength then
        self.uploadError ctx ("Expected upload size is " ++ toString ctx.fileLength ++
          ", but got " ++ toString (gAsciiStrtoll chunkSize) ++ " instead")
      else self.simpleRestAsyncRun libs .complete ctx

/-- The last part of `_upload_complete_cb`, `_set_title_cb` and `_set_description_cb`. -/
def afterDescription (ctx : VimeoUploadCtx) (self : SwServiceVimeo) : SwServiceVimeo :=
  if ctx.collectionId.isSome then self.addVideoToAlbum libs ctx else self.uploadCompleted ctx

/-- The last part of `_upload_complete_cb` and `_set_title_cb`. -/
def afterTitle (ctx : VimeoUploadCtx) (self : SwServiceVimeo) : SwServiceVimeo :=
  match ctx.description with
  | some description => self.simpleRestAsyncRun libs (.setDescription description) ctx
  | none => self.afterDescription libs ctx

/-- `_upload_complete_cb` -/
def uploadCompleteCb (call : RestReply) (ctx : VimeoUploadCtx) (self : SwServiceVimeo) :
    SwServiceVimeo :=
  match nodeFromCall libs call with
  | none => self.crash
  | some (.error err) => self.uploadError ctx err
  | some (.ok root) =>
    let ctx := { ctx with videoId := getChildAttribute root "ticket" "video_id" }
    match ctx.title with
    | some title => self.simpleRestAsyncRun libs (.setTitle title) ctx
    | none => self.afterTitle libs ctx

/-- `_set_title_cb` -/
def setTitleCb (call : RestReply) (ctx : VimeoUploadCtx) (self : SwServiceVimeo) :
    SwServiceVimeo :=
  match nodeFromCall libs call with
  | none => self.crash
  | some (.error err) => self.uploadError ctx err
  | some (.ok _) => self.afterTitle libs ctx

/-- `_set_description_cb` -/
def setDescriptionCb (call : RestReply) (ctx : VimeoUploadCtx) (self : SwServiceVimeo) :
    SwServiceVimeo :=
  match nodeFromCall libs call with
  | none => self.crash
  | some (.error err) => self.uploadError ctx err
  | some (.ok _) => self.afterDescription libs ctx

/-- The callback of a call. -/
def onReply (c : VimeoCall) (reply : RestReply) (self : SwServiceVimeo) : SwServiceVimeo :=
  match c.method with
  | .getQuota => self.uploadGetQuotaCb libs reply c.ctx
  | .getTicket => self.uploadGetTicketCb libs reply c.ctx
  | .uploadFile _ => self.uploadFileCb libs reply c.ctx
  | .verifyChunks => self.uploadVerifyCb libs reply c.ctx
  | .complete => self.uploadCompleteCb libs reply c.ctx
  | .setTitle _ => self.setTitleCb libs reply c.ctx
  | .setDescription _ => self.setDescriptionCb libs reply c.ctx
  | .addVideo albumId => self.addToAlbumCb libs albumId reply c.ctx
  | .createAlbum _ _ => self.createAlbumCb libs reply c.ctx

end SwServiceVimeo

/-! ## The transition system -/

/-- `otherUpload` is an upload or an update of another service, which draws an opid too. -/
inductive VimeoEvent where
  | collectionsCreate (random : Nat) (collectionName : String) (description : Option String)
  | uploadVideo (file : Except String Nat) (title description collection : Option String)
  | otherUpload
  | reply (i : Nat) (reply : RestReply)

namespace SwServiceVimeo

variable (libs : NullHandling)

/-- What the process does at an event: a reply is to one of the calls in flight. -/
def handle (s : SwServiceVimeo) : VimeoEvent → SwServiceVimeo
  | .collectionsCreate random collectionName description =>
    s.collectionsCreate random collectionName description
  | .uploadVideo file title description collection =>
    s.uploadVideo libs file title description collection
  | .otherUpload => s.nextOpid
  | .reply i reply =>
    match s.calls[i]? with
    | none => s
    | some c => { s with calls := s.calls.eraseIdx i }.onReply libs c reply

/-- One event; there are none after the end of the process. -/
def step (s : SwServiceVimeo) (e : VimeoEvent) : SwServiceVimeo :=
  if s.running then s.handle libs e else s

end SwServiceVimeo

end LibSocialWeb
