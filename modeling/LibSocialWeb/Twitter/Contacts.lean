import LibSocialWeb.Core.ImageFetch
import LibSocialWeb.Core.SwContact
import LibSocialWeb.Lib.Gather
import LibSocialWeb.Lib.Run
import LibSocialWeb.Twitter.Lookups

/-!
# `SwTwitterContactView` (`services/twitter/twitter-contact-view.c`)

A refresh asks for the ids of the friends and then looks up each of them. The calls of
`users/lookup` are in the call list, and whoever finds it empty passes the contacts on to the view.
The call of `friends/ids` is not in the list, so that the next refresh does not cancel it.

The REST layer answers each call once, later, in any order. A cancelled call is answered with an
error, on which the callback returns at once; the model drops it. The root of a document has no
siblings, so the loop of `_got_contacts_updates_cb` reads one contact.

A payload that lacks a node that is read makes the code dereference NULL: the process ends, and
`running` becomes false. `refresh` and `refreshes` tell which refresh a call and a contact go back
to; no code reads them.

**Main results.** `refresh_shown_iff`: when all lookups of a refresh are answered, in any order,
contacts are passed on exactly if the answer that came last can be read, and then they are those of
all the answers that can be read. `newestOnly_iff`: everything that is out or gathered goes back to
the newest refresh exactly when no ids come in for an older one.
-/

namespace LibSocialWeb

open Transition Gather

/-! ## The data -/

/-- A call that was sent, with its address. -/
structure SentCall where
  addr : Nat
  call : TwitterCall
  refresh : Nat
  deriving DecidableEq

/-- A contact that was made, with its id and its content. -/
structure FoundContact where
  uid : String
  contact : SwContact
  refresh : Nat

structure SwTwitterContactView where
  running : Bool
  timeoutId : Bool
  gathering : Gathering SentCall FoundContact.uid
  idsCalls : List SentCall
  refreshes : Nat
  nextCall : Nat

/-- What the view uses: its service, the download library, and what libsoup writes for a
time. -/
structure TwitterContext where
  service : SwService
  web : WebLibrary
  soupDateToString : Int → String

/-- The answer to a lookup: an error, or what librest makes of the payload; and what
`sw_service_is_uid_banned`, the file system and `time` give meanwhile. -/
structure LookupReply where
  result : Option (RestProxyCall XmlNode)
  banned : String → Bool
  files : List String
  now : Int

namespace SwTwitterContactView

def init : SwTwitterContactView := ⟨true, false, Gathering.init, [], 0, 0⟩

variable (ctx : TwitterContext)

/-! ## Reading a contact

In this section the outer `none` stands for a NULL that is dereferenced. -/

/-- `rest_xml_node_find (node, tag)->content` -/
def contentOf (node : XmlNode) (tag : String) : Option (Option String) :=
  (node.find tag).map (·.content)

/-- `sw_contact_request_image_fetch` of the icon, which delays nothing, up to its return. -/
def requestIcon (files : List String) (contact : SwContact) (url : Option String) : SwContact :=
  match url with
  | none => contact
  | some url =>
    match swWebDownloadImageAsync ctx.web files (some url) with
    | .cached file => contact.put "icon" (some file)
    | _ => contact

/-- The contact of a user with a name. -/
def contactOf (reply : LookupReply) (userId : String) (url name icon : Option String) :
    SwContact :=
  let contact := (SwContact.new ctx.service).put "id" (some userId)
  let contact := if url.isSome then contact.put "url" url else contact
  let contact := if name.isSome then contact.put "name" name else contact
  let contact := contact.put "date" (some (swTimeTToString ctx.soupDateToString reply.now))
  requestIcon ctx reply.files contact icon

/-- `_make_contact`; inside, `none` is the NULL that it returns. -/
def makeContact (refresh : Nat) (reply : LookupReply) (node : XmlNode) :
    Option (Option FoundContact) := do
  match ← contentOf node "screen_name" with
  | none => some none
  | some userId =>
    let url ← contentOf node "url"
    let name ← contentOf node "name"
    let icon := (node.find "profile_image_url").bind (·.content)
    some (some ⟨userId, contactOf ctx reply userId url name icon, refresh⟩)

/-- What an answer brings: nothing if it is an error, and no contact that is banned. -/
def lookedUp (refresh : Nat) (reply : LookupReply) : Option (Option (List FoundContact)) :=
  match reply.result.bind makeNodeFromCall with
  | none => some none
  | some root =>
    (makeContact ctx refresh reply root).map fun made =>
      some (made.toList.filter fun contact => !reply.banned contact.uid)

/-! ## The callbacks -/

variable (s : SwTwitterContactView)

/-- `_got_contacts_updates_cb` -/
def gotContactsUpdatesCb (c : SentCall) (reply : LookupReply) : SwTwitterContactView :=
  match lookedUp ctx c.refresh reply with
  | none => { s with running := false }
  | some found => { s with gathering := s.gathering.answer c found }

/-- Calls that are sent one after the other, with their addresses. -/
def sent (addr refresh : Nat) : List TwitterCall → List SentCall
  | [] => []
  | call :: calls => ⟨addr, call, refresh⟩ :: sent (addr + 1) refresh calls

/-- `_got_ids_cb`, for an answer that leads to the calls `lookups`. -/
def sendLookups (lookups : List TwitterCall) (refresh : Nat) : SwTwitterContactView :=
  { s with
    gathering := s.gathering.sendAll (sent s.nextCall refresh lookups)
    nextCall := s.nextCall + lookups.length }

/-- `_get_ids`. `valid` is whether the service has `CREDENTIALS_VALID`. -/
def getIds (valid : Bool) (username : Option String) : SwTwitterContactView :=
  if !valid then s
  else
    { s with
      gathering := s.gathering.restart
      idsCalls := s.idsCalls ++
        [⟨s.nextCall, ⟨"friends/ids.xml", [("screen_name", username)]⟩, s.refreshes + 1⟩]
      refreshes := s.refreshes + 1
      nextCall := s.nextCall + 1 }

/-- `_load_from_cache`, for what `sw_cache_load` gives. -/
def loadFromCache (cached : Option (List (String × SwContact))) : SwTwitterContactView :=
  match cached with
  | none => s
  | some contacts =>
    let set : SwSet FoundContact.uid := KeySet.empty.addAll
      (contacts.map fun (uid, contact) => ⟨uid, contact, s.refreshes⟩)
    { s with gathering := s.gathering.pass set }

/-- `twitter_contact_view_start` -/
def startView (valid : Bool) (username : Option String)
    (cached : Option (List (String × SwContact))) : SwTwitterContactView :=
  if s.timeoutId then s
  else ({ s with timeoutId := true }.loadFromCache cached).getIds valid username

/-- `twitter_contact_view_stop` -/
def stopView : SwTwitterContactView := { s with timeoutId := false }

/-- `_update_timeout_cb`, while the timeout is armed. -/
def updateTimeoutCb (valid : Bool) (username : Option String) : SwTwitterContactView :=
  if s.timeoutId then s.getIds valid username else s

/-- `_service_user_changed_cb` -/
def userChanged : SwTwitterContactView := { s with gathering := s.gathering.pass KeySet.empty }

/-- `_service_capabilities_changed_cb` -/
def capabilitiesChanged (valid : Bool) (username : Option String) : SwTwitterContactView :=
  if valid then { s.getIds valid username with timeoutId := true }
  else { s with timeoutId := false }

end SwTwitterContactView

inductive TwitterContactEvent where
  | start (valid : Bool) (username : Option String) (cached : Option (List (String × SwContact)))
  | stop
  | refresh (valid : Bool) (username : Option String)
  | updateTimeout (valid : Bool) (username : Option String)
  | capabilitiesChanged (valid : Bool) (username : Option String)
  | userChanged
  | gotIds (index : Nat) (error : Option String) (call : RestProxyCall XmlNode)
  | gotContacts (c : SentCall) (reply : LookupReply)

namespace SwTwitterContactView

variable (ctx : TwitterContext)

/-- The process goes on with an event. There is no answer to a call that is not out. -/
def handle (s : SwTwitterContactView) : TwitterContactEvent → SwTwitterContactView
  | .start valid username cached => s.startView valid username cached
  | .stop => s.stopView
  | .refresh valid username => s.getIds valid username
  | .updateTimeout valid username => s.updateTimeoutCb valid username
  | .capabilitiesChanged valid username => s.capabilitiesChanged valid username
  | .userChanged => s.userChanged
  | .gotIds index error call =>
    match s.idsCalls[index]? with
    | none => s
    | some c => { s with idsCalls := s.idsCalls.eraseIdx index }.sendLookups
        (gotIdsCb error call) c.refresh
  | .gotContacts c reply => if c ∈ s.gathering.calls then s.gotContactsUpdatesCb ctx c reply else s

def step (s : SwTwitterContactView) (e : TwitterContactEvent) : SwTwitterContactView :=
  if s.running then s.handle ctx e else s

/-! ## A refresh is answered -/

/-- What the answer to a lookup brings. -/
def brings (a : SentCall × LookupReply) : Option (List FoundContact) :=
  (lookedUp ctx a.1.refresh a.2).join

variable {ctx} {s : SwTwitterContactView}

/-- The lookups that are out are answered. -/
theorem runFrom_gotContacts {answers : List (SentCall × LookupReply)} (hrunning : s.running = true)
    (hread : ∀ a ∈ answers, (lookedUp ctx a.1.refresh a.2).isSome)
    (hall : (answers.map Prod.fst).Perm s.gathering.calls) :
    runFrom (step ctx) s (answers.map fun a => .gotContacts a.1 a.2) =
      { s with gathering := s.gathering.answers (answers.map fun a => (a.1, brings ctx a)) } := by
  induction answers generalizing s with
  | nil => rfl
  | cons a answers ih =>
    obtain ⟨hsome, hrest⟩ := List.forall_mem_cons.1 hread
    obtain ⟨found, hfound⟩ := Option.isSome_iff_exists.1 hsome
    have hbrings : brings ctx a = found := congrArg Option.join hfound
    have hmem : a.1 ∈ s.gathering.calls := hall.mem_iff.1 (List.mem_map_of_mem List.mem_cons_self)
    have hstep : step ctx s (.gotContacts a.1 a.2) =
        { s with gathering := s.gathering.answer a.1 (brings ctx a) } := by
      rw [step, if_pos hrunning, handle, if_pos hmem, gotContactsUpdatesCb, hfound, hbrings]
    have herase : (answers.map Prod.fst).Perm (s.gathering.answer a.1 (brings ctx a)).calls := by
      have herase := hall.erase a.1
      rw [List.map_cons, List.erase_cons_head] at herase
      rw [Gathering.calls_answer]
      exact herase
    rw [List.map_cons, runFrom_cons, hstep]
    exact ih hrunning hrest herase

/-- The lookups of the next refresh. -/
def nextLookups (s : SwTwitterContactView) (ids : RestProxyCall XmlNode) : List SentCall :=
  sent (s.nextCall + 1) (s.refreshes + 1) (gotIdsCb none ids)

/-- The view after a refresh and the ids that it asks for. -/
def afterIds (s : SwTwitterContactView) (ids : RestProxyCall XmlNode) : SwTwitterContactView :=
  { s with
    gathering := s.gathering.restart.sendAll (s.nextLookups ids)
    refreshes := s.refreshes + 1
    nextCall := s.nextCall + 1 + (gotIdsCb none ids).length }

theorem runFrom_refresh (hrunning : s.running = true) (username : Option String)
    (ids : RestProxyCall XmlNode) :
    runFrom (step ctx) s [.refresh true username, .gotIds s.idsCalls.length none ids] =
      s.afterIds ids := by
  have hrefresh : step ctx s (.refresh true username) = s.getIds true username := if_pos hrunning
  have hget : s.getIds true username =
      { s with
        gathering := s.gathering.restart
        idsCalls := s.idsCalls ++
          [⟨s.nextCall, ⟨"friends/ids.xml", [("screen_name", username)]⟩, s.refreshes + 1⟩]
        refreshes := s.refreshes + 1
        nextCall := s.nextCall + 1 } := rfl
  rw [runFrom_cons, hrefresh, hget, runFrom_cons, runFrom_nil, step, if_pos hrunning]
  simp [handle, sendLookups, afterIds, nextLookups, List.eraseIdx_append_of_length_le]

/-- **When all the lookups of a refresh are answered, in any order, the last answer decides whether
contacts are passed on**; they are those that the answers bring. -/
theorem refresh_shown_iff (ctx : TwitterContext) (s : SwTwitterContactView)
    (username : Option String) (ids : RestProxyCall XmlNode)
    (answers : List (SentCall × LookupReply)) (last : SentCall × LookupReply)
    (hrunning : s.running = true)
    (hall : ((answers ++ [last]).map Prod.fst).Perm (s.nextLookups ids))
    (hread : ∀ a ∈ answers ++ [last], (lookedUp ctx a.1.refresh a.2).isSome) :
    let after := runFrom (step ctx) s (.refresh true username ::
      .gotIds s.idsCalls.length none ids ::
        (answers ++ [last]).map fun a => .gotContacts a.1 a.2)
    after.gathering.calls = [] ∧
      after.gathering.shown = s.gathering.shown ++
        if (brings ctx last).isSome then
          [KeySet.empty.addAll ((answers ++ [last]).flatMap fun a => (brings ctx a).getD [])]
        else [] := by
  intro after
  let brought : List (SentCall × Option (List FoundContact)) :=
    answers.map fun a => (a.1, brings ctx a)
  have hmap : (answers ++ [last]).map (fun a => (a.1, brings ctx a)) =
      brought ++ [(last.1, brings ctx last)] := List.map_append
  have hfirst : ((brought ++ [(last.1, brings ctx last)]).map Prod.fst).Perm
      (s.nextLookups ids) := by
    rw [← hmap, List.map_map]
    exact hall
  have hout : ((answers ++ [last]).map Prod.fst).Perm (s.afterIds ids).gathering.calls := by
    rw [afterIds, Gathering.sendAll_eq, Gathering.restart, List.append_nil]
    exact hall.trans (List.reverse_perm _).symm
  have hrunning' : (s.afterIds ids).running = true := hrunning
  have hgathering : after.gathering = Gathering.finished
      ⟨[], KeySet.empty.addAll (Gathering.brought brought), s.gathering.shown⟩
        (brings ctx last) := by
    rw [← Gathering.round_concat hfirst, ← hmap]
    change (runFrom (step ctx) (runFrom (step ctx) s [.refresh true username,
      .gotIds s.idsCalls.length none ids])
        ((answers ++ [last]).map fun a => .gotContacts a.1 a.2)).gathering = _
    rw [runFrom_refresh hrunning, runFrom_gotContacts hrunning' hread hout]
    rfl
  have hbrought : (answers ++ [last]).flatMap (fun a => (brings ctx a).getD []) =
      Gathering.brought brought ++ (brings ctx last).getD [] := by
    simp [Gathering.brought, brought, List.flatMap_map]
  rw [hgathering, hbrought]
  cases brings ctx last with
  | none => exact ⟨rfl, (List.append_nil _).symm⟩
  | some found =>
    refine ⟨rfl, ?_⟩
    change s.gathering.shown ++ [(KeySet.empty.addAll (Gathering.brought brought)).addAll found] = _
    rw [← Gathering.addAll_append]
    rfl

/-- The answer to the lookup of a user. -/
def userReply (name : String) : LookupReply where
  result := some ⟨200, "OK", "", some ⟨"users", none, [], [], [
    ("screen_name", [⟨"screen_name", some name, [], [], []⟩]),
    ("url", [⟨"url", none, [], [], []⟩]),
    ("name", [⟨"name", none, [], [], []⟩])]⟩⟩
  banned _ := false
  files := []
  now := 0

def failedLookup : LookupReply := { userReply "" with result := none }

def plainContext : TwitterContext := ⟨⟨1, "twitter"⟩, ⟨id, fun _ => true⟩, toString⟩

/-- Of two friends, the one whose lookup is answered last cannot be looked up. -/
theorem refresh_shown_failed :
    (runFrom (step plainContext) init [.refresh true (some "me"),
      .gotIds 0 none (idsReply ["12", "7"]),
      .gotContacts ⟨1, usersLookup (some "12"), 1⟩ (userReply "twelve"),
      .gotContacts ⟨2, usersLookup (some "7"), 1⟩ failedLookup]).gathering.shown = [] := by
  have hread : ∀ a ∈ [((⟨1, usersLookup (some "12"), 1⟩ : SentCall), userReply "twelve")] ++
      [(⟨2, usersLookup (some "7"), 1⟩, failedLookup)],
      (lookedUp plainContext a.1.refresh a.2).isSome := by
    intro a ha
    rcases List.mem_pair.1 ha with rfl | rfl
    · rfl
    · rfl
  exact (refresh_shown_iff plainContext init (some "me") (idsReply ["12", "7"]) _ _ rfl
    (List.Perm.refl _) hread).2

/-! ## The newest refresh -/

/-- What is out or gathered goes back to the newest refresh, and the contacts of a set that was
passed on all go back to one. -/
structure NewestOnly (s : SwTwitterContactView) : Prop where
  gathering : s.gathering.Only (·.refresh = s.refreshes) (·.refresh = s.refreshes)
  shown : ∀ set ∈ s.gathering.shown, ∃ refresh, ∀ contact ∈ set, contact.refresh = refresh

/-- Ids that lead to lookups come in for the newest refresh. -/
def NewestOk (s : SwTwitterContactView) : TwitterContactEvent → Prop
  | .gotIds index error call => s.running = true → ∀ c, s.idsCalls[index]? = some c →
      gotIdsCb error call ≠ [] → c.refresh = s.refreshes
  | _ => True

theorem newestOnly_init : NewestOnly init :=
  ⟨⟨fun _ h => (List.not_mem_nil h).elim, fun _ h => (List.not_mem_nil h).elim⟩,
    fun _ h => (List.not_mem_nil h).elim⟩

theorem NewestOnly.getIds (h : NewestOnly s) (valid : Bool) (username : Option String) :
    NewestOnly (s.getIds valid username) := by
  unfold SwTwitterContactView.getIds
  split_ifs
  · exact h
  · exact ⟨Gathering.only_restart, h.shown⟩

theorem NewestOnly.pass (h : NewestOnly s) {set : SwSet FoundContact.uid} {refresh : Nat}
    (hset : ∀ contact ∈ set, contact.refresh = refresh) :
    NewestOnly { s with gathering := s.gathering.pass set } := by
  refine ⟨⟨h.gathering.calls, h.gathering.set⟩, ?_⟩
  exact List.forall_mem_append.2 ⟨h.shown, List.forall_mem_singleton.2 ⟨refresh, hset⟩⟩

theorem NewestOnly.loadFromCache (h : NewestOnly s)
    (cached : Option (List (String × SwContact))) : NewestOnly (s.loadFromCache cached) := by
  cases cached with
  | none => exact h
  | some contacts =>
    have hset : ∀ contact ∈ (KeySet.empty.addAll (contacts.map fun (uid, contact) =>
        ⟨uid, contact, s.refreshes⟩) : SwSet FoundContact.uid), contact.refresh = s.refreshes := by
      intro contact hcontact
      rcases Gathering.mem_addAll hcontact with hmem | hmem
      · exact (List.not_mem_nil hmem).elim
      · obtain ⟨_, _, rfl⟩ := List.mem_map.1 hmem
        rfl
    exact h.pass hset

theorem refresh_of_mem_sent {addr refresh : Nat} {calls : List TwitterCall} {c : SentCall}
    (h : c ∈ sent addr refresh calls) : c.refresh = refresh := by
  induction calls generalizing addr with
  | nil => cases h
  | cons call calls ih =>
    rcases List.mem_cons.1 h with rfl | h
    · rfl
    · exact ih h

/-- A contact goes back to the refresh of its lookup. -/
theorem refresh_of_lookedUp {refresh : Nat} {reply : LookupReply}
    {found : Option (List FoundContact)} (h : lookedUp ctx refresh reply = some found) :
    ∀ contact ∈ found.getD [], contact.refresh = refresh := by
  intro contact hcontact
  unfold lookedUp at h
  cases hroot : reply.result.bind makeNodeFromCall with
  | none =>
    rw [hroot] at h
    obtain rfl := Option.some.inj h
    exact (List.not_mem_nil hcontact).elim
  | some root =>
    rw [hroot] at h
    obtain ⟨made, hmade, rfl⟩ := Option.map_eq_some_iff.1 h
    obtain ⟨hmem, -⟩ := List.mem_filter.1 hcontact
    obtain rfl := Option.mem_toList.1 hmem
    unfold makeContact at hmade
    obtain ⟨screenName, -, hmade⟩ := Option.bind_eq_some_iff.1 hmade
    cases screenName with
    | none => cases hmade
    | some userId =>
      obtain ⟨url, -, hmade⟩ := Option.bind_eq_some_iff.1 hmade
      obtain ⟨name, -, hmade⟩ := Option.bind_eq_some_iff.1 hmade
      obtain rfl := Option.some.inj (Option.some.inj hmade)
      rfl

theorem NewestOnly.gotContacts (h : NewestOnly s) {c : SentCall} (hc : c ∈ s.gathering.calls)
    (reply : LookupReply) : NewestOnly (s.gotContactsUpdatesCb ctx c reply) := by
  unfold gotContactsUpdatesCb
  cases hfound : lookedUp ctx c.refresh reply with
  | none => exact ⟨h.gathering, h.shown⟩
  | some found =>
    have hrefresh : ∀ contact ∈ found.getD [], contact.refresh = s.refreshes :=
      fun contact hcontact => (refresh_of_lookedUp hfound contact hcontact).trans
        (h.gathering.calls c hc)
    refine ⟨h.gathering.answer hrefresh, ?_⟩
    rcases h.gathering.shown_answer (c := c) hrefresh with hsame | ⟨set, hset, hall⟩
    · change ∀ set ∈ (s.gathering.answer c found).shown, _
      rw [hsame]
      exact h.shown
    · change ∀ set ∈ (s.gathering.answer c found).shown, _
      rw [hset]
      exact List.forall_mem_append.2 ⟨h.shown, List.forall_mem_singleton.2 ⟨s.refreshes, hall⟩⟩

/-- Ids that come in. -/
theorem newestOnly_sendLookups_iff (h : NewestOnly s) (lookups : List TwitterCall) (refresh : Nat) :
    NewestOnly (s.sendLookups lookups refresh) ↔ (lookups ≠ [] → refresh = s.refreshes) := by
  refine ⟨fun hafter hne => ?_, fun hrefresh => ⟨?_, ?_⟩⟩
  · obtain ⟨call, calls, rfl⟩ := List.exists_cons_of_ne_nil hne
    have hsent : (⟨s.nextCall, call, refresh⟩ : SentCall) ∈
        (s.gathering.sendAll (sent s.nextCall refresh (call :: calls))).calls := by
      rw [Gathering.sendAll_eq]
      exact List.mem_append_left _ (List.mem_reverse.2 List.mem_cons_self)
    exact hafter.gathering.calls _ hsent
  · refine h.gathering.sendAll fun c hc => ?_
    have hne : lookups ≠ [] := by
      rintro rfl
      exact List.not_mem_nil hc
    exact (refresh_of_mem_sent hc).trans (hrefresh hne)
  · change ∀ set ∈ (s.gathering.sendAll (sent s.nextCall refresh lookups)).shown, _
    rw [Gathering.sendAll_eq]
    exact h.shown

theorem newestOnly_step_iff (h : NewestOnly s) (e : TwitterContactEvent) :
    NewestOnly (step ctx s e) ↔ NewestOk s e := by
  unfold step
  split_ifs with hrunning
  · cases e with
    | start valid username cached =>
      refine iff_of_true ?_ trivial
      change NewestOnly (s.startView valid username cached)
      unfold startView
      split_ifs
      · exact h
      · have harmed : NewestOnly { s with timeoutId := true } := ⟨h.gathering, h.shown⟩
        exact (harmed.loadFromCache cached).getIds valid username
    | stop => exact iff_of_true ⟨h.gathering, h.shown⟩ trivial
    | refresh valid username => exact iff_of_true (h.getIds valid username) trivial
    | updateTimeout valid username =>
      refine iff_of_true ?_ trivial
      change NewestOnly (s.updateTimeoutCb valid username)
      unfold updateTimeoutCb
      split_ifs
      · exact h.getIds valid username
      · exact h
    | capabilitiesChanged valid username =>
      refine iff_of_true ?_ trivial
      change NewestOnly (s.capabilitiesChanged valid username)
      have hget := h.getIds valid username
      unfold capabilitiesChanged
      split_ifs
      · exact ⟨hget.gathering, hget.shown⟩
      · exact ⟨h.gathering, h.shown⟩
    | userChanged =>
      have hempty : ∀ contact ∈ (KeySet.empty : SwSet FoundContact.uid), contact.refresh = 0 :=
        fun _ hcontact => (List.not_mem_nil hcontact).elim
      exact iff_of_true (h.pass hempty) trivial
    | gotIds index error call =>
      cases hasked : s.idsCalls[index]? with
      | none =>
        simp [handle, NewestOk, hasked, h]
      | some c =>
        have htaken : NewestOnly { s with idsCalls := s.idsCalls.eraseIdx index } :=
          ⟨h.gathering, h.shown⟩
        have hiff := newestOnly_sendLookups_iff htaken (gotIdsCb error call) c.refresh
        simp only [handle, NewestOk, hasked]
        rw [hiff]
        exact ⟨fun hrefresh _ c' hc' => Option.some.inj hc' ▸ hrefresh,
          fun hok => hok hrunning c rfl⟩
    | gotContacts c reply =>
      refine iff_of_true ?_ trivial
      change NewestOnly (if c ∈ s.gathering.calls then s.gotContactsUpdatesCb ctx c reply else s)
      split_ifs with hc
      · exact h.gotContacts hc reply
      · exact h
  · refine iff_of_true h ?_
    cases e with
    | gotIds index error call => exact fun hrun => absurd hrun hrunning
    | start valid username cached => trivial
    | stop => trivial
    | refresh valid username => trivial
    | updateTimeout valid username => trivial
    | capabilitiesChanged valid username => trivial
    | userChanged => trivial
    | gotContacts c reply => trivial

/-- **All that is out or gathered goes back to the newest refresh exactly when no ids come in for an
older one.** -/
theorem newestOnly_iff (ctx : TwitterContext) (es : List TwitterContactEvent) :
    EveryState (step ctx) NewestOnly init es ↔ EveryStep (step ctx) NewestOk init es :=
  everyState_iff_of_step_iff (fun _ e h => newestOnly_step_iff h e) newestOnly_init

end SwTwitterContactView

end LibSocialWeb
