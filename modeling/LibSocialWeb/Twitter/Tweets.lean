import LibSocialWeb.ItemStream.Announced
import LibSocialWeb.Service.Entries
import LibSocialWeb.Twitter.Framing

/-!
# Tweets on the Twitter stream (`services/twitter/twitter-item-stream.c`)

What `_call_continous_cb` does with a message that it hands to the parser: a message that is JSON is
made into an item, whose author's picture is fetched and delays it; the item is added to the stream
if the text has the keywords in it. The server is asked for tweets with any of the words, since it
takes no spaces, so that the others are dropped here.

**Faults.** What `StreamLibrary.goesOn` says of a message is here read off the making of its item:
no date or no text ends the process.

**Model.** The loop hands over the messages of a call one after another and adds an item after each.
Nothing that the loop reads depends on the items, so the model takes the messages of the call first
and makes the items of them after it, in the same order.
-/

namespace LibSocialWeb

/-! ## Reading a tweet -/

/-- What the libraries make of their input besides the framing: `parseDate` is the time that
`strptime` and `timegm` make of a text, `soupDateToString` what libsoup writes for a time, and
`printDouble` the value that `json_array_get_double_element` has for an element or for none, with
`%f`. -/
structure TweetLibrary extends StreamLibrary where
  parseDate : String → Int
  soupDateToString : Int → String
  printDouble : Option JsonNode → String
  web : WebLibrary

/-- `_make_date` -/
def TweetLibrary.makeDate (lib : TweetLibrary) (s : String) : String :=
  swTimeTToString lib.soupDateToString (lib.parseDate s)

/-- `strstr (content, track_params)` is not NULL. -/
def strstr (content keywords : String) : Bool :=
  content.toList.tails.any fun rest => keywords.toList.isPrefixOf rest

/-- What `_create_item_from_node` reads of a message. `image` is there if the author has the member
for it, which may have no string. -/
structure Tweet where
  authorid : Option String
  url : String
  author : Option String
  content : Option String
  date : String
  image : Option (Option String)
  coordinates : Option (String × String)
  deriving DecidableEq

/-- An item that is not in a view yet, with its id. -/
structure TweetItem where
  uid : String
  item : SwItem
  id_eq : item.get "id" = some uid

namespace TweetItem

/-- `sw_item_put` of a key that is not the id. -/
def put (new : TweetItem) (key : String) (value : Option String) (hkey : key ≠ "id") :
    TweetItem where
  uid := new.uid
  item := new.item.put key value
  id_eq := by rw [SwItem.get_put_of_ne (Ne.symm hkey)]; exact new.id_eq

@[simp] theorem item_put (new : TweetItem) (key : String) (value : Option String)
    (hkey : key ≠ "id") : (new.put key value hkey).item = new.item.put key value := rfl

/-- `sw_item_request_image_fetch` for the picture of the author, which delays the item. -/
def requestImageFetch (lib : WebLibrary) (files : List String) (url : Option String)
    (new : TweetItem) : TweetItem × Download :=
  let new : TweetItem := { new with item := new.item.pushPending }
  let download := swWebDownloadImageAsync lib files url
  match download with
  | .cached file =>
    let new := new.put "authoricon" (some file) (by decide)
    ({ new with item := new.item.popPending.1 }, download)
  | _ => (new, download)

end TweetItem

namespace TweetLibrary

variable (lib : TweetLibrary)

/-- What is read of a node. A NULL is not a date. -/
def readTweet (node : JsonNode) : Option Tweet :=
  let root := node.getObject
  let user := root.getObjectMember "user"
  let geo := if root.hasMember "geo" && !root.getNullMember "geo" then
    root.getObjectMember "geo" else none
  let screenName := user.getStringMember "screen_name"
  (root.getStringMember "created_at").map fun createdAt =>
    { authorid := screenName
      url := "http://twitter.com/" ++ screenName.getD "(null)" ++ "/statuses/" ++
        toString (root.getIntMember "id")
      author := user.getStringMember "name"
      content := root.getStringMember "text"
      date := lib.makeDate createdAt
      image := if user.hasMember "profile_image_url" then
        some (user.getStringMember "profile_image_url") else none
      coordinates := geo.map fun _ =>
        let coords := (geo.getArrayMember "coordinates").getD []
        (lib.printDouble coords[0]?, lib.printDouble coords[1]?) }

end TweetLibrary

namespace Tweet

variable (lib : WebLibrary) (files : List String) (service : SwService) (t : Tweet)

/-- The item with what is put before the fetch. `sw_item_new` gives it no service; it gets that of
the stream before it is added. -/
def newItem : TweetItem :=
  let item : SwItem := (SwItem.put ⟨service, ∅, 0⟩ "authorid" t.authorid).put "id" (some t.url)
  (((TweetItem.mk t.url item (SwItem.get_put_self _ _ _)).put "url" (some t.url)
    (by decide)).put "author" t.author (by decide)).put "content" t.content (by decide)
    |>.put "date" (some t.date) (by decide)

/-- The item of a tweet and what becomes of its fetch, if it has one; `files` are the pictures that
are there. -/
def createItem : TweetItem × Option Download :=
  let (new, download) := match t.image with
    | some url =>
      let (new, download) := (t.newItem service).requestImageFetch lib files url
      (new, some download)
    | none => (t.newItem service, none)
  match t.coordinates with
  | some (latitude, longitude) =>
    ((new.put "latitude" (some latitude) (by decide)).put "longitude" (some longitude) (by decide),
      download)
  | none => (new, download)

/-- The tweet has the keywords in its text. -/
def Matches (keywords : String) : Bool :=
  match t.content with
  | some content => strstr content keywords
  | none => false

end Tweet

/-! ## The stream with its items -/

/-- The stream of the messages and the stream of the items, with the fetches that are out. `next` is
the address of the next item. -/
structure TweetStream where
  reader : SwTwitterItemStream
  sys : StreamSys
  next : Nat
  fetches : List (ItemRef × String)
  running : Bool

/-- What the main loop runs besides the reading. -/
inductive TweetTurn where
  | failed (message : String)
  | downloaded (index : Nat) (ok : Bool)
  | pendingTimeout (order : KeyOrder ItemRef)
  | refreshTimeout

/-- A chunk comes when certain pictures are there. -/
inductive TweetEvent where
  | chunk (c : StreamChunk) (files : List String)
  | turn (t : TweetTurn)

/-- The chunks of a run. -/
def TweetEvent.chunks (es : List TweetEvent) : List StreamChunk :=
  es.filterMap fun
    | .chunk c _ => some c
    | .turn _ => none

namespace TweetStream

def start (h : Heap) : TweetStream := ⟨.init, .start h, 0, [], true⟩

variable (lib : TweetLibrary) (keywords : String) (service : SwService)

/-- A new item is there, and its fetch may be out. -/
def create (new : TweetItem) (download : Option Download) (s : TweetStream) : TweetStream :=
  { s with
    sys.heap := s.sys.heap.set ⟨s.next, new.uid⟩ new.item new.id_eq
    next := s.next + 1
    fetches := match download with
      | some (.queued filename) => s.fetches ++ [(⟨s.next, new.uid⟩, filename)]
      | _ => s.fetches }

/-- `sw_item_stream_add_item` -/
def add (o : ItemRef) (s : TweetStream) : TweetStream :=
  { s with sys := s.sys.step (.addItem o) }

/-- An item is made of a tweet, and added if the tweet has the keywords in its text. -/
def onTweet (files : List String) (s : TweetStream) (t : Tweet) : TweetStream :=
  let (new, download) := t.createItem lib.web files service
  let o : ItemRef := ⟨s.next, new.uid⟩
  let s := s.create new download
  match t.content with
  | none => { s with running := false }
  | some content => if strstr content keywords then s.add o else s

/-- A message is handed over. -/
def onMessage (files : List String) (s : TweetStream) (m : HandedMessage) : TweetStream :=
  if s.running then
    match lib.loadFromData m with
    | none => { s with running := false }
    | some none => s
    | some (some node) =>
      match lib.readTweet node with
      | none => { s with running := false }
      | some t => s.onTweet lib keywords service files t
  else s

/-- `_call_continous_cb` has returned with `reader`. -/
def received (files : List String) (s : TweetStream) (reader : SwTwitterItemStream) : TweetStream :=
  (reader.handed.drop s.reader.handed.length).foldl (onMessage lib keywords service files)
    { s with reader := reader }

/-- `async_download_cb` and `_image_download_cb` -/
def downloaded (index : Nat) (ok : Bool) (s : TweetStream) : TweetStream :=
  match s.fetches[index]? with
  | none => s
  | some (o, filename) =>
    let icon := if ok then some filename else none
    { s with
      sys := (s.sys.step (.item (.put o "authoricon" icon (by decide)))).step
        (.item (.popPending o))
      fetches := s.fetches.eraseIdx index }

def step (s : TweetStream) : TweetTurn → TweetStream
  | .failed _ => s
  | .downloaded index ok => s.downloaded index ok
  | .pendingTimeout order => { s with sys := s.sys.step (.pendingTimeout order) }
  | .refreshTimeout => { s with sys := s.sys.step .refreshTimeout }

/-- Every call returns, and `P` holds after every event, `n` being the number of bytes so far. -/
def Throughout (P : Nat → TweetStream → Prop) : Nat → TweetStream → List TweetEvent → Prop
  | n, s, [] => P n s
  | n, s, .chunk c files :: es =>
    P n s ∧ ∃ reader, s.reader.ReturnsIn lib.toStreamLibrary c.call reader ∧
      Throughout P (n + c.buf.length) (s.received lib keywords service files reader) es
  | n, s, .turn t :: es => P n s ∧ Throughout P n (s.step t) es

/-- Every chunk comes in a state that allows it, as judged by `ok`. -/
def EveryChunk (ok : Nat → TweetStream → StreamChunk → List String → Prop) :
    Nat → TweetStream → List TweetEvent → Prop
  | _, _, [] => True
  | n, s, .chunk c files :: es =>
    ok n s c files ∧ ∀ reader, s.reader.ReturnsIn lib.toStreamLibrary c.call reader →
      EveryChunk ok (n + c.buf.length) (s.received lib keywords service files reader) es
  | n, s, .turn t :: es => EveryChunk ok n (s.step t) es

/-! ## The property and the condition -/

end TweetStream

namespace TweetLibrary

variable (lib : TweetLibrary) (keywords : String)

/-- The id of the item that a message should lead to. -/
def matchingId (payload : List UInt8) : Option String :=
  ((lib.parse payload).bind lib.readTweet).bind fun t =>
    if t.Matches keywords then some t.url else none

/-- A message is not JSON, or a tweet with a date and a text; and if it has the keywords in it, then
its picture can be fetched. -/
def MessageOk (files : List String) (payload : List UInt8) : Prop :=
  ∀ node, lib.parse payload = some node → ∃ t, lib.readTweet node = some t ∧
    t.content.isSome = true ∧ (t.Matches keywords = true → ∀ url, t.image = some url →
      swWebDownloadImageAsync lib.web files url ≠ .ignored)

end TweetLibrary

namespace TweetStream

variable (lib : TweetLibrary) (keywords : String)

/-- No item waits for a fetch that never ends. -/
def Awaited (s : TweetStream) : Prop :=
  ∀ o ∈ s.sys.added, s.sys.heap.ready o = false → o ∈ s.fetches.map Prod.fst

/-- The messages that are wholly among the first `n` bytes were handed over. Those that match, and
no others, have an item each, in their order. Each item is announced once, when it is ready, and
waits for nothing but a fetch that is out. -/
structure Delivered (items : List StreamItem) (n : Nat) (s : TweetStream) : Prop where
  running : s.running = true
  handed : HandedOver items n s.reader
  added : s.sys.added.map ItemRef.uid = (wholeFrames items n).filterMap (lib.matchingId keywords)
  once : s.sys.AnnouncedOnce
  awaited : s.Awaited

/-- The call hands over the messages that it completes, and these can be made into items. -/
structure ChunkOk (items : List StreamItem) (n : Nat) (s : TweetStream) (c : StreamChunk)
    (files : List String) : Prop where
  call : CallOk lib.toStreamLibrary s.reader c
  messages : ∀ payload ∈ (wholeFrames items (n + c.buf.length)).drop (wholeFrames items n).length,
    lib.MessageOk keywords files payload

end TweetStream

end LibSocialWeb
