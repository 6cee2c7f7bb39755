import LibSocialWeb.Twitter.Tweets

/-!
# Tweets from the network to the clients

From the bytes of the stream to the signals of its items, with the fetches of the pictures and the
timers in any order in between.

A call is judged by what it makes of its messages. `Sound` holds in every state: what the stream of
the items needs, and that a fetch which is out is the only one of its item. `good_foldl` says when
the messages of a call leave the process running and no item waiting in vain.

**Main result.** `delivered_iff`: in every state of a run, the tweets that have arrived as a whole
and match are in the stream, in their order and each announced once, exactly when every call hands
over the messages that it completes and these can be made into items.
-/

namespace LibSocialWeb

open StreamSys

/-! ## Items of tweets -/

/-- The fetches that a request leaves with the item. -/
def Download.remaining : Download → Int
  | cached _ => 0
  | ignored | queued _ => 1

namespace Tweet

variable (lib : WebLibrary) (files : List String) (service : SwService) (t : Tweet)

section Fetch

variable (url : Option String) (new : TweetItem)

theorem download_requestImageFetch :
    (new.requestImageFetch lib files url).2 = swWebDownloadImageAsync lib files url := by
  unfold TweetItem.requestImageFetch
  cases swWebDownloadImageAsync lib files url <;> rfl

theorem uid_requestImageFetch : (new.requestImageFetch lib files url).1.uid = new.uid := by
  unfold TweetItem.requestImageFetch
  cases swWebDownloadImageAsync lib files url <;> rfl

theorem remaining_requestImageFetch :
    (new.requestImageFetch lib files url).1.item.remainingFetches =
      new.item.remainingFetches + (swWebDownloadImageAsync lib files url).remaining := by
  unfold TweetItem.requestImageFetch
  cases swWebDownloadImageAsync lib files url <;>
    simp [SwItem.pushPending, SwItem.popPending, SwItem.put, Download.remaining]

end Fetch

theorem uid_createItem : (t.createItem lib files service).1.uid = t.url := by
  unfold createItem
  cases t.image with
  | none => cases t.coordinates <;> rfl
  | some url =>
    have huid := uid_requestImageFetch lib files url (t.newItem service)
    cases t.coordinates <;> exact huid

theorem download_createItem : (t.createItem lib files service).2 =
    t.image.map (swWebDownloadImageAsync lib files) := by
  unfold createItem
  cases t.image with
  | none => cases t.coordinates <;> rfl
  | some url =>
    have hfetch := congrArg some (download_requestImageFetch lib files url (t.newItem service))
    cases t.coordinates <;> exact hfetch

/-- Only its fetch delays an item. -/
theorem remaining_createItem : (t.createItem lib files service).1.item.remainingFetches =
    ((t.createItem lib files service).2.map Download.remaining).getD 0 := by
  rw [download_createItem]
  unfold createItem
  cases t.image with
  | none => cases t.coordinates <;> rfl
  | some url =>
    have hcount := remaining_requestImageFetch lib files url (t.newItem service)
    have hnew : (t.newItem service).item.remainingFetches = 0 := rfl
    rw [hnew, Int.zero_add] at hcount
    cases t.coordinates <;> exact hcount

end Tweet

namespace TweetStream

/-! ## Sound states -/

/-- What the stream of the items needs; every item is at an address of its own, and a fetch that is
out is the only one of its item. -/
structure Sound (s : TweetStream) : Prop where
  tracked : s.sys.Tracked
  addedBelow : ∀ o ∈ s.sys.added, o.addr < s.next
  fetchBelow : ∀ f ∈ s.fetches, f.1.addr < s.next
  fetchNodup : (s.fetches.map Prod.fst).Nodup
  fetching : ∀ f ∈ s.fetches, (s.sys.heap.item f.1).remainingFetches = 1

/-- The process runs, and no item waits in vain. -/
def Good (s : TweetStream) : Prop := s.running = true ∧ s.Awaited

variable {s : TweetStream} {new : TweetItem} {download : Option Download} {o : ItemRef}

theorem sound_start (h : Heap) : Sound (start h) where
  tracked := tracked_start h
  addedBelow _ ho := absurd ho List.not_mem_nil
  fetchBelow _ hf := absurd hf List.not_mem_nil
  fetchNodup := List.nodup_nil
  fetching _ hf := absurd hf List.not_mem_nil

/-! ## A new item -/

/-- What the stream says of its items is about these only. -/
theorem tracked_heap {sys : StreamSys} (hs : sys.Tracked) {h : Heap}
    (hsame : ∀ o ∈ sys.added, h.ready o = sys.heap.ready o) : Tracked { sys with heap := h } where
  distinct := hs.distinct
  once := hs.once
  ready o ho hu := (hsame o ho).trans (hs.ready o ho hu)
  handedOver := hs.handedOver
  pending := hs.pending
  place o ho := by
    cases hs.place o ho with
    | announced hu => exact .announced hu
    | waiting hready hpending hhandler =>
      exact .waiting ((hsame o ho).trans hready) hpending hhandler
    | queued hready hpending htimer => exact .queued ((hsame o ho).trans hready) hpending htimer

theorem item_create (ho : o.addr ≠ s.next) :
    (s.create new download).sys.heap.item o = s.sys.heap.item o := by
  have hne : o ≠ ⟨s.next, new.uid⟩ := fun heq => ho (congrArg ItemRef.addr heq)
  exact Function.update_of_ne hne _ _

theorem item_create_self :
    (s.create new download).sys.heap.item ⟨s.next, new.uid⟩ = new.item :=
  Function.update_self _ _ _

theorem ready_create (ho : o.addr ≠ s.next) :
    (s.create new download).sys.heap.ready o = s.sys.heap.ready o :=
  congrArg SwItem.getReady (item_create ho)

/-- The fetches are those from before, and that of the new item. -/
theorem mem_fetches_create {f : ItemRef × String} : f ∈ (s.create new download).fetches ↔
    f ∈ s.fetches ∨ f.1 = ⟨s.next, new.uid⟩ ∧ download = some (.queued f.2) := by
  rcases f with ⟨o, filename⟩
  unfold create
  rcases download with _ | _ | _ | filename' <;> simp [eq_comm]

theorem Sound.create (hs : Sound s)
    (hnew : new.item.remainingFetches = (download.map Download.remaining).getD 0) :
    Sound (s.create new download) where
  tracked := tracked_heap (h := (s.create new download).sys.heap) hs.tracked fun _ ho =>
    ready_create (hs.addedBelow _ ho).ne
  addedBelow o ho := Nat.lt_succ_of_lt (hs.addedBelow o ho)
  fetchBelow f hf := by
    rcases mem_fetches_create.1 hf with hf | ⟨heq, -⟩
    · exact Nat.lt_succ_of_lt (hs.fetchBelow f hf)
    · rw [heq]
      exact Nat.lt_succ_self _
  fetchNodup := by
    unfold TweetStream.create
    rcases download with _ | _ | _ | filename
    · exact hs.fetchNodup
    · exact hs.fetchNodup
    · exact hs.fetchNodup
    · simp only [List.map_append, List.map_cons, List.map_nil]
      refine List.nodup_append.2 ⟨hs.fetchNodup, List.nodup_singleton _, ?_⟩
      intro o ho o' ho' heq
      obtain ⟨f, hf, rfl⟩ := List.mem_map.1 ho
      rw [List.mem_singleton.1 ho'] at heq
      have hbelow := hs.fetchBelow f hf
      rw [heq] at hbelow
      exact Nat.lt_irrefl _ hbelow
  fetching f hf := by
    rcases mem_fetches_create.1 hf with hf | ⟨heq, hdownload⟩
    · rw [item_create (hs.fetchBelow f hf).ne]
      exact hs.fetching f hf
    · rw [heq, item_create_self, hnew, hdownload]
      rfl

/-- A new item changes nothing for those that are there. -/
theorem awaited_create (hs : Sound s) : (s.create new download).Awaited ↔ s.Awaited := by
  unfold Awaited
  refine forall₂_congr fun o ho => ?_
  have hne := (hs.addedBelow o ho).ne
  rw [ready_create hne, List.mem_map, List.mem_map]
  refine imp_congr_right fun _ => ⟨?_, ?_⟩
  · rintro ⟨f, hf, rfl⟩
    rcases mem_fetches_create.1 hf with hf | ⟨heq, -⟩
    · exact ⟨f, hf, rfl⟩
    · exact absurd (congrArg ItemRef.addr heq) hne
  · rintro ⟨f, hf, rfl⟩
    exact ⟨f, mem_fetches_create.2 (Or.inl hf), rfl⟩

theorem Sound.add (hs : Sound s) (ho : o.addr < s.next) (hfirst : s.sys.FirstAdded [o]) :
    Sound (s.add o) where
  tracked := tracked_step s.sys (.addItem o) hs.tracked hfirst
  addedBelow o' ho' := by
    rcases List.mem_append.1 ho' with ho' | ho'
    · exact hs.addedBelow o' ho'
    · rw [List.mem_singleton.1 ho']
      exact ho
  fetchBelow := hs.fetchBelow
  fetchNodup := hs.fetchNodup
  fetching := hs.fetching

theorem awaited_add : (s.add o).Awaited ↔
    s.Awaited ∧ (s.sys.heap.ready o = false → o ∈ s.fetches.map Prod.fst) :=
  List.forall_mem_append.trans (and_congr_right fun _ => List.forall_mem_singleton)

/-- A new item waits in vain exactly if its fetch is ignored. -/
theorem awaited_new (hs : Sound s)
    (hnew : new.item.remainingFetches = (download.map Download.remaining).getD 0) :
    ((s.create new download).sys.heap.ready ⟨s.next, new.uid⟩ = false →
        ⟨s.next, new.uid⟩ ∈ (s.create new download).fetches.map Prod.fst) ↔
      download ≠ some .ignored := by
  have hready : (s.create new download).sys.heap.ready ⟨s.next, new.uid⟩ = new.item.getReady :=
    congrArg SwItem.getReady item_create_self
  have hfetch : ⟨s.next, new.uid⟩ ∈ (s.create new download).fetches.map Prod.fst ↔
      ∃ filename, download = some (.queued filename) := by
    rw [List.mem_map]
    constructor
    · rintro ⟨f, hf, heq⟩
      rcases mem_fetches_create.1 hf with hf | ⟨-, hdownload⟩
      · exact absurd (congrArg ItemRef.addr heq) (hs.fetchBelow f hf).ne
      · exact ⟨f.2, hdownload⟩
    · rintro ⟨filename, hdownload⟩
      exact ⟨(_, filename), mem_fetches_create.2 (Or.inr ⟨rfl, hdownload⟩), rfl⟩
  rw [hready, hfetch, SwItem.getReady, hnew]
  rcases download with _ | _ | _ | filename <;> simp [Download.remaining]

/-! ## Messages -/

section Messages

variable {lib : TweetLibrary} {keywords : String} {service : SwService} {files : List String}
  {t : Tweet}

/-- The id that a tweet adds. -/
def idOf (keywords : String) (t : Tweet) : List String :=
  if t.Matches keywords then [t.url] else []

/-- A sound stream takes messages that should add items with these ids. It adds some of them, and
all if the process still runs; and it is good if it was and the messages are. -/
structure Taken (s s' : TweetStream) (ids : List String) (Ok : Prop) : Prop where
  sound : Sound s'
  added : ∃ ids', ids'.Sublist ids ∧
    s'.sys.added.map ItemRef.uid = s.sys.added.map ItemRef.uid ++ ids' ∧
      (s'.running = true → ids' = ids)
  running : s'.running = true → s.running = true
  good : Good s' ↔ Good s ∧ Ok
  reader : s'.reader = s.reader

theorem taken_self {ids : List String} (hs : Sound s) (hids : s.running = true → ids = []) :
    Taken s s ids True where
  sound := hs
  added := ⟨[], List.nil_sublist _, (List.append_nil _).symm,
    fun hrunning => (hids hrunning).symm⟩
  running := id
  good := (and_iff_left trivial).symm
  reader := rfl

theorem Taken.trans {s' s'' : TweetStream} {ids ids' : List String} {Ok Ok' : Prop}
    (h : Taken s s' ids Ok) (h' : Taken s' s'' ids' Ok') :
    Taken s s'' (ids ++ ids') (Ok ∧ Ok') where
  sound := h'.sound
  added := by
    obtain ⟨done, hdone, hadded, hall⟩ := h.added
    obtain ⟨done', hdone', hadded', hall'⟩ := h'.added
    refine ⟨done ++ done', hdone.append hdone', ?_, fun hrunning => ?_⟩
    · rw [hadded', hadded, List.append_assoc]
    · rw [hall (h'.running hrunning), hall' hrunning]
  running hrunning := h.running (h'.running hrunning)
  good := by rw [h'.good, h.good, and_assoc]
  reader := h'.reader.trans h.reader

/-- The process ends. -/
theorem taken_fault {ids : List String} {s' : TweetStream} {Ok : Prop} (hs : Sound s')
    (hadded : s'.sys.added = s.sys.added) (hreader : s'.reader = s.reader) (hok : ¬ Ok) :
    Taken s { s' with running := false } ids Ok where
  sound := ⟨hs.tracked, hs.addedBelow, hs.fetchBelow, hs.fetchNodup, hs.fetching⟩
  added := ⟨[], List.nil_sublist _, by rw [hadded, List.append_nil], fun h => nomatch h⟩
  running h := nomatch h
  good := iff_of_false (fun h => nomatch h.1) fun h => hok h.2
  reader := hreader

/-- A tweet is judged by its text and, if it matches, by its picture. -/
theorem taken_onTweet (hs : Sound s)
    (hdistinct : (s.sys.added.map ItemRef.uid ++ idOf keywords t).Nodup) :
    Taken s (s.onTweet lib keywords service files t) (idOf keywords t)
      (t.content.isSome = true ∧ (t.Matches keywords = true → ∀ url, t.image = some url →
        swWebDownloadImageAsync lib.web files url ≠ .ignored)) := by
  have hnew := t.remaining_createItem lib.web files service
  have huid := t.uid_createItem lib.web files service
  have hdownload := t.download_createItem lib.web files service
  unfold onTweet
  generalize t.createItem lib.web files service = created at hnew huid hdownload ⊢
  obtain ⟨new, download⟩ := created
  dsimp only at hnew huid hdownload ⊢
  have hcreate := hs.create hnew
  cases hcontent : t.content with
  | none => exact taken_fault hcreate rfl rfl fun hok => absurd hok.1 (by simp)
  | some content =>
    have hmatches : t.Matches keywords = strstr content keywords := by
      rw [Tweet.Matches, hcontent]
    dsimp only
    by_cases hstr : strstr content keywords = true
    · have hids : idOf keywords t = [t.url] := by rw [idOf, hmatches, if_pos hstr]
      rw [if_pos hstr]
      have hfirst : (s.create new download).sys.FirstAdded [⟨s.next, new.uid⟩] := by
        show (List.map ItemRef.uid (s.sys.added ++ [⟨s.next, new.uid⟩])).Nodup
        rw [List.map_append, List.map_singleton, huid]
        exact hids ▸ hdistinct
      refine ⟨hcreate.add (Nat.lt_succ_self _) hfirst, ⟨[t.url], ?_, ?_, ?_⟩, id, ?_, rfl⟩
      · rw [hids]
      · show List.map ItemRef.uid (s.sys.added ++ [⟨s.next, new.uid⟩]) = _
        rw [List.map_append, List.map_singleton, huid]
      · exact fun _ => hids.symm
      · have hvain : download ≠ some .ignored ↔ ∀ url, t.image = some url →
            swWebDownloadImageAsync lib.web files url ≠ .ignored := by
          rw [hdownload]
          cases t.image with
          | none => simp
          | some url => simp
        show s.running = true ∧ ((s.create new download).add ⟨s.next, new.uid⟩).Awaited ↔ _
        rw [awaited_add, awaited_create hs, awaited_new hs hnew, hvain, Good, hmatches, and_assoc]
        simp [hstr]
    · have hids : idOf keywords t = [] := by rw [idOf, hmatches, if_neg hstr]
      rw [if_neg hstr]
      refine ⟨hcreate, ⟨[], List.nil_sublist _, (List.append_nil _).symm, fun _ => hids.symm⟩, id,
        ?_, rfl⟩
      show s.running = true ∧ (s.create new download).Awaited ↔ _
      rw [awaited_create hs, Good, hmatches]
      simp [hstr]

/-- A message is judged by the tweet in it. -/
theorem taken_onMessage {m : HandedMessage} {payload : List UInt8}
    (hcontents : m.contents = some payload) (hs : Sound s)
    (hdistinct : (s.sys.added.map ItemRef.uid ++ (lib.matchingId keywords payload).toList).Nodup) :
    Taken s (s.onMessage lib keywords service files m) (lib.matchingId keywords payload).toList
      (s.running = true → lib.MessageOk keywords files payload) := by
  unfold onMessage
  by_cases hrunning : s.running = true
  · rw [if_pos hrunning, StreamLibrary.loadFromData, hcontents, imp_iff_right hrunning]
    unfold TweetLibrary.MessageOk
    unfold TweetLibrary.matchingId at hdistinct ⊢
    dsimp only
    generalize lib.parse payload = root at hdistinct ⊢
    cases root with
    | none => simpa using taken_self hs fun _ => rfl
    | some node =>
      simp only [Option.bind_some, Option.some.injEq, forall_eq'] at hdistinct ⊢
      cases hread : lib.readTweet node with
      | none => exact taken_fault hs rfl rfl (by simp)
      | some t =>
        have hids : (if t.Matches keywords = true then some t.url else none).toList =
            idOf keywords t := by
          rw [idOf]
          split_ifs <;> rfl
        rw [hread, Option.bind_some, hids] at hdistinct
        simpa [hids] using taken_onTweet hs hdistinct
  · rw [if_neg hrunning]
    simpa [hrunning] using taken_self hs fun h => absurd h hrunning

/-- The messages of a call, one after another. -/
theorem taken_foldl {messages : List HandedMessage} {payloads : List (List UInt8)}
    (hcontents : messages.map HandedMessage.contents = payloads.map some) (hs : Sound s)
    (hdistinct : (s.sys.added.map ItemRef.uid ++
      payloads.filterMap (lib.matchingId keywords)).Nodup) :
    Taken s (messages.foldl (onMessage lib keywords service files) s)
      (payloads.filterMap (lib.matchingId keywords))
      (s.running = true → ∀ payload ∈ payloads, lib.MessageOk keywords files payload) := by
  induction payloads generalizing messages s with
  | nil =>
    obtain rfl := List.map_eq_nil_iff.1 hcontents
    simpa using taken_self hs fun _ => rfl
  | cons payload payloads ih =>
    obtain ⟨m, messages, rfl, hm, hmessages⟩ := List.map_eq_cons_iff.1 hcontents
    have hcons : (payload :: payloads).filterMap (lib.matchingId keywords) =
        (lib.matchingId keywords payload).toList ++
          payloads.filterMap (lib.matchingId keywords) := by
      rw [List.filterMap_cons]
      cases lib.matchingId keywords payload <;> rfl
    rw [hcons] at hdistinct ⊢
    rw [← List.append_assoc] at hdistinct
    have hone : Taken s (s.onMessage lib keywords service files m)
        (lib.matchingId keywords payload).toList _ :=
      taken_onMessage hm hs (hdistinct.sublist (List.sublist_append_left _ _))
    obtain ⟨ids, hids, hadded, hall⟩ := hone.added
    have hrest := ih hmessages hone.sound (by
      rw [hadded]
      exact hdistinct.sublist ((hids.append_left _).append_right _))
    have hboth := hone.trans hrest
    refine ⟨hboth.sound, hboth.added, hboth.running, hboth.good.trans ?_, hboth.reader⟩
    rw [List.forall_mem_cons]
    constructor
    · rintro ⟨hgood, hfirst, hlast⟩
      exact ⟨hgood, fun hrunning =>
        ⟨hfirst hrunning, hlast (hone.good.2 ⟨hgood, hfirst⟩).1⟩⟩
    · rintro ⟨hgood, hall⟩
      exact ⟨hgood, fun hrunning => (hall hrunning).1, fun hrunning =>
        (hall (hone.running hrunning)).2⟩

end Messages

/-! ## Turns of the main loop -/

/-- An event leaves the other items alone. -/
theorem item_heap_of_ne {h : Heap} {e : ItemEvent} (ho : o ≠ e.ref) :
    (e.heap h).item o = h.item o := by
  cases e <;> simp_all [ItemEvent.heap, ItemEvent.ref, Heap.set]

/-- The download of an item ends: its fetch is over, and the others are as before. -/
theorem downloaded_eq {index : Nat} {filename : String} (hs : Sound s)
    (hfetch : s.fetches[index]? = some (o, filename)) (ok : Bool) :
    ∃ sys : StreamSys, s.downloaded index ok =
        { s with sys := sys, fetches := s.fetches.eraseIdx index } ∧ sys.Tracked ∧
      sys.added = s.sys.added ∧ sys.heap.ready o = true ∧
        ∀ o' ≠ o, sys.heap.item o' = s.sys.heap.item o' := by
  let icon : ItemEvent := .put o "authoricon" (if ok then some filename else none) (by decide)
  let pop : ItemEvent := .popPending o
  have hone := hs.fetching (o, filename) (List.mem_of_getElem? hfetch)
  have hremaining : ((icon.heap s.sys.heap).item o).remainingFetches = 1 := by
    rw [← hone]
    simp [icon, ItemEvent.heap, Heap.set, SwItem.put]
  refine ⟨(s.sys.step (.item icon)).step (.item pop), ?_, ?_, rfl, ?_, ?_⟩
  · unfold downloaded
    rw [hfetch]
  · have hicon : Tracked (s.sys.step (.item icon)) := tracked_step _ _ hs.tracked trivial
    refine tracked_step _ _ hicon ?_
    show 0 < ((icon.heap s.sys.heap).item o).remainingFetches
    rw [hremaining]
    decide
  · have hpopped := ItemEvent.remaining_popPending (icon.heap s.sys.heap) o
    rw [hremaining] at hpopped
    exact SwItem.getReady_iff.2 hpopped
  · intro o' hne
    exact (item_heap_of_ne (e := pop) hne).trans (item_heap_of_ne (e := icon) hne)

/-- What a turn of the main loop keeps. -/
structure Kept (s s' : TweetStream) : Prop where
  sound : Sound s'
  added : s'.sys.added = s.sys.added
  running : s'.running = s.running
  awaited : s.Awaited → s'.Awaited
  reader : s'.reader = s.reader

theorem kept_downloaded (hs : Sound s) (index : Nat) (ok : Bool) :
    Kept s (s.downloaded index ok) := by
  cases hfetch : s.fetches[index]? with
  | none =>
    have hsame : s.downloaded index ok = s := by
      unfold downloaded
      rw [hfetch]
    rw [hsame]
    exact ⟨hs, rfl, rfl, id, rfl⟩
  | some f =>
    obtain ⟨o, filename⟩ := f
    obtain ⟨sys, heq, htracked, hadded, hready, hsame⟩ := downloaded_eq hs hfetch ok
    rw [heq]
    have hperm : (o :: (s.fetches.eraseIdx index).map Prod.fst).Perm (s.fetches.map Prod.fst) := by
      obtain ⟨hlt, hget⟩ := List.getElem?_eq_some_iff.1 hfetch
      have hcons := (List.getElem_cons_eraseIdx_perm hlt).map Prod.fst
      rwa [hget] at hcons
    have hnodup := hperm.nodup_iff.2 hs.fetchNodup
    have hmem : ∀ f ∈ s.fetches.eraseIdx index, f.1 ≠ o ∧ f ∈ s.fetches := by
      intro f hf
      refine ⟨fun hf' => (List.nodup_cons.1 hnodup).1 (hf' ▸ List.mem_map_of_mem hf), ?_⟩
      exact List.mem_of_mem_eraseIdx hf
    refine ⟨⟨htracked, ?_, ?_, (List.nodup_cons.1 hnodup).2, ?_⟩, hadded, rfl, ?_, rfl⟩
    · intro o' ho'
      exact hs.addedBelow o' (hadded ▸ ho')
    · exact fun f hf => hs.fetchBelow f (hmem f hf).2
    · intro f hf
      show (sys.heap.item f.1).remainingFetches = 1
      rw [hsame f.1 (hmem f hf).1]
      exact hs.fetching f (hmem f hf).2
    · intro hawaited o' ho' hwaits
      have hne : o' ≠ o := by
        rintro rfl
        exact absurd (hready.symm.trans hwaits) (by decide)
      have hbefore : s.sys.heap.ready o' = false := by
        rw [← hwaits]
        exact congrArg SwItem.getReady (hsame o' hne).symm
      have hin := hperm.mem_iff.2 (hawaited o' (hadded ▸ ho') hbefore)
      exact (List.mem_cons.1 hin).resolve_left hne

/-- The timers announce items, and nothing else. -/
theorem kept_timer (hs : Sound s) {sys : StreamSys} (htracked : sys.Tracked)
    (hadded : sys.added = s.sys.added) (hheap : sys.heap = s.sys.heap) :
    Kept s { s with sys := sys } where
  sound := by
    refine ⟨htracked, ?_, hs.fetchBelow, hs.fetchNodup, ?_⟩
    · show ∀ o ∈ sys.added, _
      rw [hadded]
      exact hs.addedBelow
    · show ∀ f ∈ s.fetches, (sys.heap.item f.1).remainingFetches = 1
      rw [hheap]
      exact hs.fetching
  added := hadded
  running := rfl
  awaited h := by
    show ∀ o ∈ sys.added, sys.heap.ready o = false → _
    rw [hadded, hheap]
    exact h
  reader := rfl

theorem kept_step (hs : Sound s) (t : TweetTurn) : Kept s (s.step t) := by
  cases t with
  | failed message => exact ⟨hs, rfl, rfl, id, rfl⟩
  | downloaded index ok => exact kept_downloaded hs index ok
  | pendingTimeout order =>
    refine kept_timer hs (tracked_step _ (.pendingTimeout order) hs.tracked trivial) ?_ ?_
    all_goals
      dsimp only [StreamSys.step]
      split_ifs <;> rfl
  | refreshTimeout =>
    refine kept_timer hs (tracked_step _ .refreshTimeout hs.tracked trivial) ?_ ?_
    all_goals
      dsimp only [StreamSys.step]
      split_ifs <;> rfl

end TweetStream

/-! ## Messages that are there -/

theorem wholeFrames_isPrefix (items : List StreamItem) {n m : Nat} (h : n ≤ m) :
    wholeFrames items n <+: wholeFrames items m := by
  induction items generalizing n m with
  | nil => exact List.prefix_rfl
  | cons item items ih =>
    cases item with
    | keepAlive => exact ih (Nat.sub_le_sub_right h 2)
    | frame f =>
      unfold wholeFrames
      by_cases hn : f.encode.length ≤ n
      · rw [if_pos hn, if_pos (hn.trans h)]
        exact (List.prefix_cons_inj _).2 (ih (Nat.sub_le_sub_right h _))
      · rw [if_neg hn]
        exact List.nil_prefix

theorem wholeFrames_isPrefix_payloads (items : List StreamItem) (n : Nat) :
    wholeFrames items n <+: payloads items := by
  induction items generalizing n with
  | nil => exact List.prefix_rfl
  | cons item items ih =>
    cases item with
    | keepAlive => exact ih _
    | frame f =>
      unfold wholeFrames payloads
      split_ifs
      · exact (List.prefix_cons_inj _).2 (ih _)
      · exact List.nil_prefix

namespace TweetStream

variable {lib : TweetLibrary} {keywords : String} {service : SwService}
  {items : List StreamItem} {n : Nat} {s : TweetStream}

theorem reader_onTweet (files : List String) (t : Tweet) :
    (s.onTweet lib keywords service files t).reader = s.reader := by
  unfold onTweet
  cases t.content with
  | none => rfl
  | some content =>
    dsimp only
    split_ifs <;> rfl

theorem reader_onMessage (files : List String) (m : HandedMessage) :
    (s.onMessage lib keywords service files m).reader = s.reader := by
  unfold onMessage
  by_cases hrunning : s.running = true
  · rw [if_pos hrunning]
    rcases lib.loadFromData m with _ | _ | node
    · rfl
    · rfl
    · dsimp only
      cases lib.readTweet node with
      | none => rfl
      | some t => exact reader_onTweet files t
  · rw [if_neg hrunning]

theorem isSome_readTweet (lib : TweetLibrary) (node : JsonNode) : (lib.readTweet node).isSome =
    (JsonObject.getStringMember node.getObject "created_at").isSome := Option.isSome_map

theorem content_of_readTweet {node : JsonNode} {t : Tweet} (h : lib.readTweet node = some t) :
    t.content = JsonObject.getStringMember node.getObject "text" := by
  obtain ⟨_, -, rfl⟩ := Option.map_eq_some_iff.1 h
  rfl

theorem running_onTweet (files : List String) (t : Tweet) (hrunning : s.running = true) :
    (s.onTweet lib keywords service files t).running = t.content.isSome := by
  unfold onTweet
  cases t.content with
  | none => rfl
  | some content =>
    dsimp only
    split_ifs <;> exact hrunning

/-- **A message ends the process here if and only if it does so in the loop.** -/
theorem running_onMessage (files : List String) (m : HandedMessage) (hrunning : s.running = true) :
    (s.onMessage lib keywords service files m).running = lib.goesOn m := by
  unfold onMessage StreamLibrary.goesOn
  rw [if_pos hrunning]
  rcases lib.loadFromData m with _ | _ | node
  · rfl
  · exact hrunning
  · dsimp only
    rw [← isSome_readTweet lib]
    cases hread : lib.readTweet node with
    | none => rfl
    | some t =>
      rw [← content_of_readTweet hread]
      exact running_onTweet files t hrunning

theorem reader_received (files : List String) (reader : SwTwitterItemStream) :
    (s.received lib keywords service files reader).reader = reader := by
  unfold received
  generalize reader.handed.drop s.reader.handed.length = messages
  have hfold : ∀ s : TweetStream,
      (messages.foldl (onMessage lib keywords service files) s).reader = s.reader := by
    induction messages with
    | nil => exact fun _ => rfl
    | cons m messages ih => exact fun s => (ih _).trans (reader_onMessage files m)
  exact hfold { s with reader := reader }

/-- **A call delivers exactly if its messages can be made into items.** -/
theorem delivered_received {reader : SwTwitterItemStream} {m : Nat} (files : List String)
    (hdistinct : ((payloads items).filterMap (lib.matchingId keywords)).Nodup) (hs : Sound s)
    (hdelivered : Delivered lib keywords items n s) (hle : n ≤ m)
    (hhanded : HandedOver items m reader) :
    Sound (s.received lib keywords service files reader) ∧
      (Delivered lib keywords items m (s.received lib keywords service files reader) ↔
        ∀ payload ∈ (wholeFrames items m).drop (wholeFrames items n).length,
          lib.MessageOk keywords files payload) := by
  have hlength : s.reader.handed.length = (wholeFrames items n).length := by
    have hmap := congrArg List.length hdelivered.handed
    rwa [List.length_map, List.length_map] at hmap
  have hcontents : (reader.handed.drop s.reader.handed.length).map HandedMessage.contents =
      ((wholeFrames items m).drop (wholeFrames items n).length).map some := by
    rw [List.map_drop, List.map_drop, hlength, show reader.handed.map _ = _ from hhanded]
  have hwhole : wholeFrames items n ++ (wholeFrames items m).drop (wholeFrames items n).length =
      wholeFrames items m := by
    obtain ⟨rest, hrest⟩ := wholeFrames_isPrefix items hle
    rw [← hrest, List.drop_left]
  have hids : s.sys.added.map ItemRef.uid ++
      ((wholeFrames items m).drop (wholeFrames items n).length).filterMap
        (lib.matchingId keywords) = (wholeFrames items m).filterMap (lib.matchingId keywords) := by
    rw [hdelivered.added, ← List.filterMap_append, hwhole]
  have hnodup : ((wholeFrames items m).filterMap (lib.matchingId keywords)).Nodup :=
    hdistinct.sublist ((wholeFrames_isPrefix_payloads items m).sublist.filterMap _)
  have hsound : Sound { s with reader := reader } :=
    ⟨hs.tracked, hs.addedBelow, hs.fetchBelow, hs.fetchNodup, hs.fetching⟩
  have htaken : Taken { s with reader := reader }
      (s.received lib keywords service files reader) _ _ :=
    taken_foldl hcontents hsound (by rw [hids]; exact hnodup)
  have hgood : Good { s with reader := reader } := ⟨hdelivered.running, hdelivered.awaited⟩
  refine ⟨htaken.sound, ?_⟩
  constructor
  · intro h
    exact (htaken.good.1 ⟨h.running, h.awaited⟩).2 hdelivered.running
  · intro hok
    obtain ⟨hrunning, hawaited⟩ := htaken.good.2 ⟨hgood, fun _ => hok⟩
    obtain ⟨ids, -, hadded, hall⟩ := htaken.added
    refine ⟨hrunning, ?_, ?_, htaken.sound.tracked.toAnnouncedOnce, hawaited⟩
    · unfold HandedOver
      rw [reader_received]
      exact hhanded
    · rw [← hids, ← hall hrunning]
      exact hadded

theorem Delivered.step (h : Delivered lib keywords items n s) (hs : Sound s) (t : TweetTurn) :
    Delivered lib keywords items n (s.step t) := by
  have hkept := kept_step hs t
  refine ⟨hkept.running.trans h.running, ?_, ?_, hkept.sound.tracked.toAnnouncedOnce,
    hkept.awaited h.awaited⟩
  · unfold HandedOver
    rw [hkept.reader]
    exact h.handed
  · rw [hkept.added]
    exact h.added

/-! ## Runs -/

theorem Throughout.head {P : Nat → TweetStream → Prop} {es : List TweetEvent}
    (h : Throughout lib keywords service P n s es) : P n s := by
  cases es with
  | nil => exact h
  | cons e es =>
    cases e with
    | chunk c files => exact h.1
    | turn t => exact h.1

theorem delivered_from (hfit : LengthsFit items)
    (hdistinct : ((payloads items).filterMap (lib.matchingId keywords)).Nodup)
    {es : List TweetEvent} {later : List UInt8} {done rest : List StreamItem}
    (h : Between items n ((TweetEvent.chunks es).flatMap StreamChunk.buf ++ later) s.reader done
      rest) (hs : Sound s) (hdelivered : Delivered lib keywords items n s)
    (hsizes : EveryChunk lib keywords service (fun _ s c _ => SizeFits s.reader c) n s
      es) :
    Throughout lib keywords service (Delivered lib keywords items) n s es ↔
      EveryChunk lib keywords service (ChunkOk lib keywords items) n s es := by
  induction es generalizing n s done rest with
  | nil => exact iff_of_true hdelivered trivial
  | cons e es ih =>
    cases e with
    | turn t =>
      have hkept := kept_step hs t
      have hbytes : Between items n ((TweetEvent.chunks es).flatMap StreamChunk.buf ++ later)
          (s.step t).reader done rest := by
        rw [hkept.reader]
        exact h
      exact (and_iff_right hdelivered).trans
        (ih hbytes hkept.sound (hdelivered.step hs t) hsizes)
    | chunk c files =>
      obtain ⟨hfits, hsizes⟩ := hsizes
      have hbytes : Between items n (c.buf ++ ((TweetEvent.chunks es).flatMap StreamChunk.buf ++
          later)) s.reader done rest := by
        rw [← List.append_assoc]
        exact h
      have hcall : ∀ reader, s.reader.ReturnsIn lib.toStreamLibrary c.call reader →
          CallOk lib.toStreamLibrary s.reader c → ∃ done' rest', Between items (n + c.buf.length)
              ((TweetEvent.chunks es).flatMap StreamChunk.buf ++ later)
              (s.received lib keywords service files reader).reader done' rest' := by
        intro reader hreturns hok
        rw [reader_received]
        exact hbytes.call hfit hfits hok hreturns
      have hreceived : ∀ reader, HandedOver items (n + c.buf.length) reader →
          Sound (s.received lib keywords service files reader) ∧ (Delivered lib keywords items _ _ ↔
            _) := fun _ =>
        delivered_received files hdistinct hs hdelivered (Nat.le_add_right n c.buf.length)
      constructor
      · rintro ⟨-, reader, hreturns, hrest⟩
        have hhanded := hrest.head.handed
        rw [reader_received] at hhanded
        have hok := hbytes.callOk hfit hfits hreturns hhanded
        obtain ⟨hsound, hiff⟩ := hreceived reader hhanded
        refine ⟨⟨hok, hiff.1 hrest.head⟩, fun reader' hreturns' => ?_⟩
        obtain rfl := hreturns'.unique hreturns
        obtain ⟨done', rest', hbetween⟩ := hcall _ hreturns hok
        exact (ih hbetween hsound hrest.head (hsizes _ hreturns)).1 hrest
      · rintro ⟨hok, hcalls⟩
        obtain ⟨reader, hreturns⟩ := hbytes.returns hfit hfits hok.call
        obtain ⟨done', rest', hbetween⟩ := hcall reader hreturns hok.call
        have hhanded := hbetween.handedOver
        rw [reader_received] at hhanded
        obtain ⟨hsound, hiff⟩ := hreceived reader hhanded
        exact ⟨hdelivered, reader, hreturns,
          (ih hbetween hsound (hiff.2 hok.messages) (hsizes _ hreturns)).2 (hcalls _ hreturns)⟩

/-- **Main result.** However the stream is cut, and whenever the fetches end and the timers fire,
the tweets that have arrived and match are in the stream of items, in their order and announced
once, exactly when every call hands over the messages that it completes and these can be made into
items. -/
theorem delivered_iff (lib : TweetLibrary) (keywords : String) (service : SwService)
    (h : Heap) (items : List StreamItem) (es : List TweetEvent)
    (hstream : (TweetEvent.chunks es).flatMap StreamChunk.buf <+: encode items)
    (hfit : LengthsFit items)
    (hdistinct : ((payloads items).filterMap (lib.matchingId keywords)).Nodup)
    (hsizes : EveryChunk lib keywords service (fun _ s c _ => SizeFits s.reader c) 0
      (start h) es) :
    Throughout lib keywords service (Delivered lib keywords items) 0 (start h) es ↔
      EveryChunk lib keywords service (ChunkOk lib keywords items) 0 (start h)
        es := by
  obtain ⟨later, hlater⟩ := hstream
  have hstart := between_start items
  rw [← hlater] at hstart
  have hdelivered : Delivered lib keywords items 0 (start h) := by
    refine ⟨rfl, hstart.handedOver, ?_, (tracked_start h).toAnnouncedOnce, ?_⟩
    · rw [wholeFrames_zero]
      rfl
    · exact fun o ho => absurd ho List.not_mem_nil
  exact delivered_from hfit hdistinct hstart (sound_start h) hdelivered hsizes

/-! ## One tweet -/

/-- What the libraries make of it. -/
def leanLibrary : TweetLibrary where
  toStreamLibrary := leanParser
  parseDate _ := 1262304000
  soupDateToString _ := "Fri, 01 Jan 2010 00:00:00 GMT"
  printDouble _ := "0.000000"
  web := ⟨id, fun _ => true⟩

theorem delivered_iff_leanTweet :
    Throughout leanLibrary "lean" ⟨0, "twitter"⟩
        (Delivered leanLibrary "lean" [.frame leanTweet]) 0 (start (Heap.plain ⟨0, "twitter"⟩))
        [.chunk ⟨encode [.frame leanTweet], 0⟩ []] ↔
      EveryChunk leanLibrary "lean" ⟨0, "twitter"⟩
        (ChunkOk leanLibrary "lean" [.frame leanTweet]) 0
        (start (Heap.plain ⟨0, "twitter"⟩)) [.chunk ⟨encode [.frame leanTweet], 0⟩ []] := by
  refine delivered_iff leanLibrary "lean" _ _ _ _ ⟨[], rfl⟩ ?_ ?_ ⟨?_, fun _ _ => trivial⟩
  · unfold LengthsFit
    decide +kernel
  · show ([leanTweet.payload].filterMap _).Nodup
    rw [List.filterMap_cons]
    cases leanLibrary.matchingId "lean" leanTweet.payload <;> simp
  · unfold SizeFits
    decide +kernel

end TweetStream

end LibSocialWeb
