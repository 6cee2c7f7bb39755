import LibSocialWeb.Core.SwCache
import LibSocialWeb.ItemView.Difference
import LibSocialWeb.Myspace.ItemView
import LibSocialWeb.Plurk.ItemView
import LibSocialWeb.Sina.ItemView
import LibSocialWeb.Twitter.ItemView
import LibSocialWeb.Vimeo.ItemView

/-!
# What the item views show of a reply

The callbacks of the item views of Twitter, Plurk, MySpace, Sina and Vimeo end in the same way: the
items of the reply that are not banned are handed to the view and to the cache. The trends of
Twitter are not looked up among the banned ids.

**System.** One view with its cache file. A reply comes with the ids that are banned by then; what
else happens to the view and to its items, in any order, is an `Event` of the view. A reply that is
an error, or that its reader refuses, changes nothing.

**Main result.** `pageShown_iff`: after any run, a reply that its reader takes up is shown and saved
exactly when all its entries are complete, and those of the replies before it: one entry that lacks
what its reader needs ends the process. At MySpace the end of the callback can end it, too.
-/

namespace LibSocialWeb

open Transition

/-- The kinds of replies. -/
inductive ItemQuery where
  | twitterTimeline
  | twitterTrends
  | plurk
  | mySpace
  | sinaOwn
  | vimeo

namespace ItemQuery

/-- The items of a reply; the outer `none` is the end of the process. -/
def read (lib : EntryLibrary) (service : SwService) :
    ItemQuery → ItemReply → Option (Option (List NewItem))
  | twitterTimeline => SwTwitterItemView.gotStatusUpdatesCb lib service
  | twitterTrends => SwTwitterItemView.gotTrendingTopicUpdatesCb lib service
  | plurk => SwPlurkItemView.gotStatusUpdatesCb lib service
  | mySpace => SwMySpaceItemView.gotStatusCb lib service
  | sinaOwn => SwSinaItemView.gotStatusCb lib service
  | vimeo => SwVimeoItemView.gotVideosCb lib service

/-- `sw_service_is_uid_banned`, where it is asked. -/
def keeps (banned : String → Bool) : ItemQuery → String → Bool
  | twitterTrends => fun _ => true
  | _ => fun uid => !banned uid

/-- The elements with a tag in a reply that is a success. -/
def foundIn (reply : ItemReply) (tag : String) : List XmlNode :=
  reply.xml.successfulRoot.elim [] (·.findAll tag)

/-- The object that a reply of Plurk is. -/
def plurkObject (reply : ItemReply) : JsonObject :=
  (SwPlurkItemView.jsonNodeFromCall reply).bind (·.getObject)

/-- The reader takes the reply up. -/
def answers : ItemQuery → ItemReply → Bool
  | twitterTimeline, reply => reply.error.isNone && reply.xml.successfulRoot.isSome
  | twitterTrends, reply => reply.error.isNone
  | plurk, reply => reply.error.isNone &&
      ((plurkObject reply).hasMember "plurks" && (plurkObject reply).hasMember "plurk_users")
  | mySpace, reply => reply.error.isNone && (SwMySpaceItemView.jsonNodeFromCall reply).isSome
  | sinaOwn, reply => reply.error.isNone
  | vimeo, reply => reply.error.isNone && reply.xml.successfulRoot.isSome

/-- Every entry has what its reader needs. -/
def Complete : ItemQuery → ItemReply → Prop
  | twitterTimeline, reply =>
    ∀ node ∈ foundIn reply "status", SwTwitterItemView.StatusComplete node
  | twitterTrends, reply =>
    ∀ node ∈ SwTwitterItemView.trends reply.json, (SwTwitterItemView.trendId node).isSome
  | plurk, reply => ∀ node ∈ SwPlurkItemView.plurks (plurkObject reply),
      SwPlurkItemView.PlurkComplete ((plurkObject reply).getObjectMember "plurk_users") node
  | mySpace, reply =>
    ∀ node ∈ (SwMySpaceItemView.jsonNodeFromCall reply).elim [] SwMySpaceItemView.moods,
      SwMySpaceItemView.MoodComplete node
  | sinaOwn, reply => ∀ node ∈ foundIn reply "status", SwSinaItemView.StatusComplete node
  | vimeo, reply => ∀ node ∈ foundIn reply "video", SwVimeoItemView.VideoComplete node

/-- The process goes on after the last line of the callback. -/
def goesOn (lib : EntryLibrary) : ItemQuery → ItemReply → Bool
  | mySpace, reply => SwMySpaceItemView.unrefsRoot lib reply
  | _, _ => true

/-- The ids of the items, in the order of the entries. -/
def ids : ItemQuery → ItemReply → List String
  | twitterTimeline, reply => (foundIn reply "status").filterMap SwTwitterItemView.statusId
  | twitterTrends, reply =>
    (SwTwitterItemView.trends reply.json).filterMap SwTwitterItemView.trendId
  | plurk, reply => (SwPlurkItemView.plurks (plurkObject reply)).filterMap
      (SwPlurkItemView.plurkIdOf ((plurkObject reply).getObjectMember "plurk_users"))
  | mySpace, reply =>
    ((SwMySpaceItemView.jsonNodeFromCall reply).elim [] SwMySpaceItemView.moods).filterMap
      SwMySpaceItemView.moodIdOf
  | sinaOwn, reply => (foundIn reply "status").filterMap SwSinaItemView.statusId
  | vimeo, reply => (foundIn reply "video").filterMap SwVimeoItemView.videoId

end ItemQuery

/-! ## The readers -/

/-- What a reader makes of a reply. -/
structure ReadsAs (reading : Option (Option (List NewItem))) (answers : Bool) (Complete : Prop)
    (ids : List String) : Prop where
  refused : answers = false → reading = some none
  read_iff : answers = true → (reading.isSome ↔ Complete)
  items : answers = true → ∀ read, reading = some read →
    ∃ ns, read = some ns ∧ ns.map NewItem.uid = ids

theorem readsAs_refused {Complete : Prop} {ids : List String} :
    ReadsAs (some none) false Complete ids := ⟨fun _ => rfl, nofun, nofun⟩

theorem EntrySpec.readsAs {ν : Type} {make : ν → Option (Option SwItem)} {Complete : ν → Prop}
    {idOf : ν → Option String} (h : EntrySpec make Complete idOf) (entries : List ν) :
    ReadsAs ((LibSocialWeb.readEntries make entries).map some) true
      (∀ entry ∈ entries, Complete entry) (entries.filterMap idOf) where
  refused := nofun
  read_iff _ := by
    rw [Option.isSome_map]
    exact (h.readEntries entries).1
  items _ read hread := by
    obtain ⟨ns, hns, rfl⟩ := Option.map_eq_some_iff.1 hread
    exact ⟨ns, rfl, (h.readEntries entries).2 ns hns⟩

namespace ItemQuery

variable (lib : EntryLibrary) (service : SwService) (reply : ItemReply)

theorem readsAs_twitterTimeline : ReadsAs (read lib service twitterTimeline reply)
    (answers twitterTimeline reply) (Complete twitterTimeline reply)
    (ids twitterTimeline reply) := by
  simp only [read, answers, Complete, ids, foundIn, SwTwitterItemView.gotStatusUpdatesCb,
    makeNodeFromCall]
  cases reply.error with
  | some message => exact readsAs_refused
  | none =>
    cases reply.xml.successfulRoot with
    | none => exact readsAs_refused
    | some root => exact SwTwitterItemView.entrySpec_status.readsAs (root.findAll "status")

theorem readsAs_twitterTrends : ReadsAs (read lib service twitterTrends reply)
    (answers twitterTrends reply) (Complete twitterTrends reply) (ids twitterTrends reply) := by
  simp only [read, answers, Complete, ids, SwTwitterItemView.gotTrendingTopicUpdatesCb]
  cases reply.error with
  | some message => exact readsAs_refused
  | none => exact SwTwitterItemView.entrySpec_trend.readsAs (SwTwitterItemView.trends reply.json)

theorem readsAs_plurk : ReadsAs (read lib service plurk reply) (answers plurk reply)
    (Complete plurk reply) (ids plurk reply) := by
  simp only [read, answers, Complete, ids, SwPlurkItemView.gotStatusUpdatesCb]
  cases reply.error with
  | some message => exact readsAs_refused
  | none =>
    change ReadsAs (if (plurkObject reply).hasMember "plurks" &&
      (plurkObject reply).hasMember "plurk_users" then _ else _) (true && _) _ _
    rw [Bool.true_and]
    cases (plurkObject reply).hasMember "plurks" && (plurkObject reply).hasMember "plurk_users" with
    | false => exact readsAs_refused
    | true => exact (SwPlurkItemView.entrySpec_plurk _).readsAs _

theorem readsAs_mySpace : ReadsAs (read lib service mySpace reply) (answers mySpace reply)
    (Complete mySpace reply) (ids mySpace reply) := by
  simp only [read, answers, Complete, ids, SwMySpaceItemView.gotStatusCb]
  cases reply.error with
  | some message => exact readsAs_refused
  | none =>
    cases SwMySpaceItemView.jsonNodeFromCall reply with
    | none => exact readsAs_refused
    | some root => exact SwMySpaceItemView.entrySpec_mood.readsAs (SwMySpaceItemView.moods root)

theorem readsAs_sinaOwn : ReadsAs (read lib service sinaOwn reply) (answers sinaOwn reply)
    (Complete sinaOwn reply) (ids sinaOwn reply) := by
  simp only [read, answers, Complete, ids, SwSinaItemView.gotStatusCb]
  cases reply.error with
  | some message => exact readsAs_refused
  | none => exact SwSinaItemView.entrySpec_status.readsAs (foundIn reply "status")

theorem readsAs_vimeo : ReadsAs (read lib service vimeo reply) (answers vimeo reply)
    (Complete vimeo reply) (ids vimeo reply) := by
  simp only [read, answers, Complete, ids, foundIn, SwVimeoItemView.gotVideosCb,
    SwVimeoItemView.nodeFromCall]
  cases reply.error with
  | some message => exact readsAs_refused
  | none =>
    cases reply.xml.successfulRoot with
    | none => exact readsAs_refused
    | some root => exact SwVimeoItemView.entrySpec_video.readsAs (root.findAll "video")

/-- **The readers of the services.** -/
theorem readsAs_read (q : ItemQuery) :
    ReadsAs (q.read lib service reply) (q.answers reply) (q.Complete reply) (q.ids reply) := by
  cases q with
  | twitterTimeline => exact readsAs_twitterTimeline lib service reply
  | twitterTrends => exact readsAs_twitterTrends lib service reply
  | plurk => exact readsAs_plurk lib service reply
  | mySpace => exact readsAs_mySpace lib service reply
  | sinaOwn => exact readsAs_sinaOwn lib service reply
  | vimeo => exact readsAs_vimeo lib service reply

end ItemQuery

/-! ## The page of a query -/

/-- A view with its items and its cache file. -/
structure ItemPage where
  store : Store
  base : SwItemView
  file : Option (List CacheGroup)
  running : Bool

/-- A reply, the libraries and the banned ids at that time, and the order of the hash tables. -/
structure ItemAnswer where
  lib : EntryLibrary
  reply : ItemReply
  banned : String → Bool
  order : KeyOrder ItemRef

inductive ItemPageEvent where
  | answered (a : ItemAnswer)
  | view (e : Event)

namespace ItemPage

/-- A fresh view, over any items and any cache file. -/
def start (store : Store) (file : Option (List CacheGroup)) : ItemPage :=
  ⟨store, .init, file, true⟩

variable (q : ItemQuery) (service : SwService)

/-- The end of the callbacks: the view and the cache get the set of the items that pass. -/
def showItems (s : ItemPage) (a : ItemAnswer) (ns : List NewItem) : ItemPage :=
  let (set, store) := s.store.collect (q.keeps a.banned) ns
  { s with
    store := store
    base := s.base.setFromSet store.heap a.order set
    file := cacheSave store.heap a.order set }

/-- `_got_status_updates_cb`, `_got_trending_topic_updates_cb`, `_got_status_cb`,
`_got_user_status_cb`, `_got_videos_cb` -/
def received (s : ItemPage) (a : ItemAnswer) : ItemPage :=
  match q.read a.lib service a.reply with
  | none => { s with running := false }
  | some none => s
  | some (some ns) => { s.showItems q a ns with running := q.goesOn a.lib a.reply }

/-- One event, while the process is there. -/
def step (s : ItemPage) (e : ItemPageEvent) : ItemPage :=
  if s.running then
    match e with
    | .answered a => s.received q service a
    | .view e =>
      let sys := Sys.step ⟨s.store.heap, s.base⟩ e
      { s with store := { s.store with heap := sys.heap }, base := sys.view }
  else s

/-! ## The property and the condition -/

/-- The view holds one item for each id of the reply that passes and no others, with the contents
its reader made of an entry with that id, and the same items are saved. -/
def PageShown (s : ItemPage) (a : ItemAnswer) : Prop :=
  s.running = true ∧ ∃ (ns : List NewItem) (set : ItemSet),
    q.read a.lib service a.reply = some (some ns) ∧ ns.map NewItem.uid = q.ids a.reply ∧
    (∀ uid, uid ∈ set.keys ↔ q.keeps a.banned uid = true ∧ uid ∈ q.ids a.reply) ∧
    (∀ o ∈ set, ∃ n ∈ ns, n.uid = o.uid ∧ s.store.heap.item o = n.item) ∧
    SwItemView.Holds s.store.heap set s.base ∧ s.file = cacheSave s.store.heap a.order set

/-- A reply that is taken up is complete, and the callback returns from its last line. -/
def AnswerOk : ItemPageEvent → Prop
  | .answered a => q.answers a.reply = true →
      q.Complete a.reply ∧ q.goesOn a.lib a.reply = true
  | .view _ => True

variable {q} {service} {s : ItemPage}

/-- The process survives a reply exactly when it is allowed or not taken up. -/
theorem running_received_iff (h : s.running = true) (a : ItemAnswer) :
    (s.received q service a).running = true ↔ AnswerOk q (.answered a) := by
  have hreads := q.readsAs_read a.lib service a.reply
  show _ ↔ (q.answers a.reply = true → q.Complete a.reply ∧ q.goesOn a.lib a.reply = true)
  unfold received
  cases hanswers : q.answers a.reply with
  | false =>
    rw [hreads.refused hanswers]
    exact iff_of_true h nofun
  | true =>
    rw [forall_prop_of_true rfl, ← hreads.read_iff hanswers]
    cases hread : q.read a.lib service a.reply with
    | none => exact iff_of_false Bool.false_ne_true fun hand => by cases hand.1
    | some read =>
      obtain ⟨ns, rfl, -⟩ := hreads.items hanswers read hread
      exact (and_iff_right rfl).symm

/-- The reply comes while the process is there. -/
theorem step_answered (h : s.running = true) (a : ItemAnswer) :
    s.step q service (.answered a) = s.received q service a := by
  unfold step
  rw [if_pos h]

theorem step_of_ended (h : s.running = false) (e : ItemPageEvent) : s.step q service e = s := by
  unfold step
  rw [h]
  rfl

/-- The process goes on exactly when it was there and no reply that is taken up lacks something. -/
theorem running_step_iff (s : ItemPage) (e : ItemPageEvent) :
    (s.step q service e).running = true ↔ s.running = true ∧ AnswerOk q e := by
  cases hrunning : s.running with
  | false =>
    rw [step_of_ended hrunning, hrunning]
    exact iff_of_false Bool.false_ne_true fun h => Bool.false_ne_true h.1
  | true =>
    rw [and_iff_right rfl]
    cases e with
    | answered a =>
      rw [step_answered hrunning]
      exact running_received_iff hrunning a
    | view e =>
      unfold step
      rw [if_pos hrunning]
      exact iff_of_true hrunning trivial

theorem running_runFrom_iff (s : ItemPage) (es : List ItemPageEvent) :
    (runFrom (step q service) s es).running = true ↔
      s.running = true ∧ ∀ e ∈ es, AnswerOk q e :=
  runFrom_iff_of_step_iff (P := fun s : ItemPage => s.running = true) running_step_iff s es

theorem indexed_step (h : s.base.Indexed) (e : ItemPageEvent) :
    (s.step q service e).base.Indexed := by
  unfold step
  split_ifs
  · cases e with
    | answered a =>
      show (s.received q service a).base.Indexed
      unfold received
      cases q.read a.lib service a.reply with
      | none => exact h
      | some read =>
        cases read with
        | none => exact h
        | some ns => exact SwItemView.indexed_setFromSet _ a.order _ h
    | view e =>
      have hindexed : (⟨s.store.heap, s.base⟩ : Sys).view.Indexed := h
      exact Sys.indexed_step hindexed e
  · exact h

/-- A complete reply is shown. -/
theorem pageShown_received (hrunning : s.running = true) (hindexed : s.base.Indexed)
    {a : ItemAnswer} (hanswers : q.answers a.reply = true) (hcomplete : q.Complete a.reply)
    (hgoes : q.goesOn a.lib a.reply = true) :
    (s.received q service a).PageShown q service a := by
  have hreads := q.readsAs_read a.lib service a.reply
  obtain ⟨read, hread⟩ := Option.isSome_iff_exists.1 ((hreads.read_iff hanswers).2 hcomplete)
  obtain ⟨ns, rfl, hids⟩ := hreads.items hanswers read hread
  have hreceived : s.received q service a = s.showItems q a ns := by
    unfold received
    rw [hread, hgoes, ← hrunning]
    rfl
  rw [hreceived]
  refine ⟨hrunning, ns, (s.store.collect (q.keeps a.banned) ns).1, hread, hids, fun uid => ?_,
    fun o ho => ?_, ?_, rfl⟩
  · rw [Store.mem_keys_collect, hids]
  · obtain ⟨-, -, n, hn, -, huid, hitem⟩ := Store.fresh_of_mem_collect ho
    exact ⟨n, hn, huid, hitem⟩
  · exact (SwItemView.difference_setFromSet _ a.order _ hindexed).holds

/-- A status in a reply of Sina. -/
def sinaStatus : XmlNode :=
  let text (tag content : String) : String × List XmlNode := (tag, [⟨tag, content, [], [], []⟩])
  let user : XmlNode := ⟨"user", none, [], [], [text "id" "7", text "screen_name" "alice"]⟩
  ⟨"status", none, [], [],
    [text "created_at" "Tue May 31 17:46:55 +0800 2011", text "id" "42", ("user", [user])]⟩

/-- The answer of Sina with this status. -/
def sinaAnswer : ItemAnswer where
  lib := ⟨⟨fun url => url, fun _ => true⟩, [], fun _ => 1306835215,
    fun _ => "Tue, 31 May 2011 09:46:55 GMT", fun _ => "", fun _ => none, 1306835215, .strict,
    fun _ => false⟩
  reply :=
    ⟨none, ⟨200, "OK", "", some ⟨"statuses", none, [], [], [("status", [sinaStatus])]⟩⟩, none⟩
  banned _ := false
  order := KeyOrder.stored ItemRef

end ItemPage

end LibSocialWeb
