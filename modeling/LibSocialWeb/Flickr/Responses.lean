import LibSocialWeb.Core.ImageFetch
import LibSocialWeb.Core.SwBanned
import LibSocialWeb.Core.SwContact
import LibSocialWeb.Service.Collections

/-!
# The responses that the Flickr views read

`_photos_received_cb` and `_contacts_received_cb` walk over the elements of a response, make an
object of each one, drop those that are banned, and hand the set to the view and to the cache. An
element may lack any attribute. A contact without `nsid` is skipped. A photo without `owner` or `id`
becomes an item without an id, whose missing id is then looked up among the banned ones; and a
missing `dateupload` goes to `atoi`.

**Main result.** `responsesRead_iff`: both responses are read, with one object for each id that is
not banned, exactly when every photo has the three attributes and librest finds nothing below NULL.
-/

namespace LibSocialWeb

open Transition

/-- What the readers ask of the service, of the libraries and of the clock. -/
structure ResponseContext where
  service : SwService
  banned : BanTable
  web : WebLibrary
  thumbnails : List String
  soupDateToString : Int → String
  now : Int
  libs : NullHandling

/-- What ends the process: a NULL handed to librest, to `atoi`, or to `g_str_hash`. -/
inductive ReadFault where
  | findNull
  | atoiNull
  | hashNull
  deriving DecidableEq

/-- What a view does with the set that was read. -/
inductive SetEffect (σ : Type) where
  | setFromSet (set : σ)
  | cacheSave (set : σ)

variable (ctx : ResponseContext)

/-! ## Walking over a response -/

/-- `rest_xml_node_find` and the siblings of what it finds; the node may be NULL. -/
def findBelow (node : Option XmlNode) (tag : String) : Except ReadFault (List XmlNode) :=
  match node with
  | some node => .ok (node.findAll tag)
  | none => if ctx.libs.find then .ok [] else .error .findNull

section Walk

variable {α : Type} (key : α → Option String) (fromNode : XmlNode → Except ReadFault (Option α))

/-- The loop of both callbacks. The element is skipped if there is no object for it. The ban list
and the set hash the id of the object. -/
def readNodes : List XmlNode → SwSet key → Except ReadFault (SwSet key)
  | [], set => .ok set
  | node :: nodes, set =>
    match fromNode node with
    | .error fault => .error fault
    | .ok none => readNodes nodes set
    | .ok (some object) =>
      match key object with
      | none => .error .hashNull
      | some uid =>
        if (ctx.banned.find uid).isSome then readNodes nodes set
        else readNodes nodes (set.add object)

/-- A callback, for the elements `tag` below the first `parent` of a response. -/
def receivedCb (parent tag : String) (error : Option String) (root : XmlNode) :
    Except ReadFault (List (SetEffect (SwSet key))) :=
  match error with
  | some _ => .ok []
  | none =>
    match findBelow ctx (root.find parent) tag with
    | .error fault => .error fault
    | .ok nodes =>
      match readNodes ctx key fromNode nodes KeySet.empty with
      | .error fault => .error fault
      | .ok set => .ok [.setFromSet set, .cacheSave set]

end Walk

/-! ## Photos -/

/-- `atoi` -/
def atoi (nptr : String) : Int := asGint (gAsciiStrtoll nptr)

/-- `check_attrs` -/
def checkAttrs (node : XmlNode) (names : List String) : Bool :=
  names.all fun name => (node.attr name).isSome

/-- `construct_photo_page_url` -/
def constructPhotoPageUrl (node : XmlNode) : Option String :=
  if !checkAttrs node ["owner", "id"] then none
  else
    some ("http://www.flickr.com/photos/" ++ printed (node.attr "owner") ++ "/" ++
      printed (node.attr "id") ++ "/")

def BUDDY_ICON : String := "http://www.flickr.com/images/buddyicon.jpg"

/-- `construct_buddy_icon_url` -/
def constructBuddyIconUrl (node : XmlNode) : String :=
  match node.attr "iconfarm", node.attr "iconserver", node.attr "owner" with
  | some iconfarm, some iconserver, some owner =>
    if atoi iconserver = 0 then BUDDY_ICON
    else
      "http://farm" ++ iconfarm ++ ".static.flickr.com/" ++ iconserver ++ "/buddyicons/" ++ owner ++
        ".jpg"
  | _, _, _ => BUDDY_ICON

/-- `extract_location` -/
def extractLocation (node : XmlNode) : List FetchEvent :=
  match node.attr "accuracy" with
  | none => []
  | some acc =>
    if atoi acc = 0 then []
    else
      match node.attr "latitude", node.attr "longitude" with
      | some lat, some lon =>
        if lat = "" ∨ lon = "" then []
        else [.put "latitude" (some lat), .put "longitude" (some lon)]
      | _, _ => []

/-- What `_flickr_item_from_from_photo_node` does to a new item once it has put the id. -/
def photoEvents (node : XmlNode) (dateupload : String) : List FetchEvent :=
  [.put "title" (node.attr "title"), .put "authorid" (node.attr "owner"),
    .put "author" (node.attr "username"), .put "url" (constructPhotoPageUrl node),
    .put "x-flickr-photo-url" (node.attr "url_o" <|> node.attr "url_l" <|> node.attr "url_m"),
    .put "date" (some (swTimeTToString ctx.soupDateToString (atoi dateupload)))] ++
  ImageFetches.photoFetches node.attr (constructBuddyIconUrl node) ++ extractLocation node

/-- `_flickr_item_from_from_photo_node` -/
def flickrItemFromPhotoNode (node : XmlNode) : Except ReadFault SwItem :=
  match node.attr "dateupload" with
  | none => .error .atoiNull
  | some dateupload =>
    let new := ImageFetches.init ctx.service ctx.thumbnails
    let named := ImageFetches.step ctx.web new (.put "id" (constructPhotoPageUrl node))
    .ok (runFrom (ImageFetches.step ctx.web) named (photoEvents ctx node dateupload)).item

/-- `item_hash` and `item_equal` -/
abbrev itemId (item : SwItem) : Option String := item.get "id"

/-- `_photos_received_cb` -/
def photosReceivedCb (error : Option String) (root : XmlNode) :
    Except ReadFault (List (SetEffect (SwSet itemId))) :=
  receivedCb ctx itemId (fun node => (flickrItemFromPhotoNode ctx node).map some) "photos" "photo"
    error root

/-! ## Contacts -/

/-- `sw_contact_request_image_fetch`, up to its return -/
def SwContact.requestImageFetch (contact : SwContact) (key : String) (url : Option String) :
    SwContact :=
  let contact := contact.pushPending
  match swWebDownloadImageAsync ctx.web ctx.thumbnails url with
  | .cached file => (contact.put key (some file)).popPending
  | _ => contact

/-- The icon of a contact. -/
def contactIconUrl (node : XmlNode) (nsid : String) : String :=
  match node.attr "iconserver", node.attr "iconfarm" with
  | some iconserver, some iconfarm =>
    if iconserver ≠ "0" then
      "http://farm" ++ iconfarm ++ ".static.flickr.com/" ++ iconserver ++ "/buddyicons/" ++ nsid ++
        ".jpg"
    else BUDDY_ICON
  | _, _ => BUDDY_ICON

/-- `sw_contact_put`, if there is a value -/
def SwContact.putSome (contact : SwContact) (key : String) (value : Option String) : SwContact :=
  if value.isSome then contact.put key value else contact

/-- `_flickr_contact_from_node` -/
def flickrContactFromNode (node : XmlNode) : Option SwContact :=
  match node.attr "nsid" with
  | none => none
  | some nsid =>
    let contact := (SwContact.new ctx.service).put "id" (some nsid)
    let contact := contact.putSome "fn" (node.attr "realname")
    let contact := contact.putSome "name" (node.attr "username")
    let contact := contact.put "date" (some (swTimeTToString ctx.soupDateToString ctx.now))
    some (contact.requestImageFetch ctx "icon" (some (contactIconUrl node nsid)))

/-- `contact_hash` and `contact_equal` -/
abbrev contactId (contact : SwContact) : Option String := contact.get "id"

/-- `_contacts_received_cb` -/
def contactsReceivedCb (error : Option String) (root : XmlNode) :
    Except ReadFault (List (SetEffect (SwSet contactId))) :=
  receivedCb ctx contactId (fun node => .ok (flickrContactFromNode ctx node)) "contacts" "contact"
    error root

/-! ## The property and the condition -/

/-- The elements of a response. -/
def elements (parent tag : String) (root : XmlNode) : List XmlNode :=
  (root.find parent).elim [] (·.findAll tag)

/-- The set that should be read from elements with these ids: no object without an id, one object
for each id that is not banned, and no others. -/
structure ReadSet {α : Type} (key : α → Option String) (ids : List (Option String))
    (set : SwSet key) : Prop where
  named : ∀ object ∈ set, (key object).isSome
  ids : ∀ uid, (∃ object ∈ set, key object = some uid) ↔
    (ctx.banned.find uid).isSome = false ∧ some uid ∈ ids
  once : ∀ object ∈ set, ∀ object' ∈ set, key object = key object' → object = object'

/-- The view and the cache get the set that should be read. -/
def Delivers {α : Type} (key : α → Option String) (ids : List (Option String))
    (result : Except ReadFault (List (SetEffect (SwSet key)))) : Prop :=
  ∃ set, result = .ok [.setFromSet set, .cacheSave set] ∧ ReadSet ctx key ids set

/-- What is below the parent can be found. -/
def Findable (parent : String) (root : XmlNode) : Prop :=
  (root.find parent).isSome ∨ ctx.libs.find = true

/-- A photo that has all that its reader needs. -/
def PhotoComplete (node : XmlNode) : Prop :=
  (node.attr "owner").isSome ∧ (node.attr "id").isSome ∧ (node.attr "dateupload").isSome

/-! ## One loop for both -/

section Walk

variable {ctx} {α : Type} {key : α → Option String}
  {fromNode : XmlNode → Except ReadFault (Option α)}

/-- There is no fault in the making of an object, and the object has an id. -/
def NodeRead (key : α → Option String) (fromNode : XmlNode → Except ReadFault (Option α))
    (node : XmlNode) : Prop :=
  ∃ object, fromNode node = .ok object ∧ ∀ a, object = some a → (key a).isSome

/-- The id of the object that is made of an element. -/
def MakesId (key : α → Option String) (fromNode : XmlNode → Except ReadFault (Option α))
    (idOf : XmlNode → Option String) : Prop :=
  ∀ node object, fromNode node = .ok object → object.bind key = idOf node

/-- An id that is banned is not let in by an element that has it. -/
theorem admitted_cons_of_banned {uid : String} (h : (ctx.banned.find uid).isSome = true)
    {ids : List (Option String)} {k : Option String} :
    (∃ uid', k = some uid' ∧ (ctx.banned.find uid').isSome = false ∧ some uid' ∈ some uid :: ids) ↔
      ∃ uid', k = some uid' ∧ (ctx.banned.find uid').isSome = false ∧ some uid' ∈ ids := by
  refine exists_congr fun uid' => and_congr_right fun _ => and_congr_right fun hfree => ?_
  have hne : some uid' ≠ some uid := by
    intro heq
    obtain rfl := Option.some.inj heq
    rw [h] at hfree
    cases hfree
  rw [List.mem_cons, or_iff_right hne]

theorem admitted_cons_of_free {uid : String} (h : (ctx.banned.find uid).isSome = false)
    {ids : List (Option String)} {k : Option String} :
    (∃ uid', k = some uid' ∧ (ctx.banned.find uid').isSome = false ∧ some uid' ∈ some uid :: ids) ↔
      k = some uid ∨
        ∃ uid', k = some uid' ∧ (ctx.banned.find uid').isSome = false ∧ some uid' ∈ ids := by
  refine ⟨?_, ?_⟩
  · rintro ⟨uid', rfl, hfree, hmem⟩
    rcases List.mem_cons.1 hmem with heq | hmem
    · exact Or.inl heq
    · exact Or.inr ⟨uid', rfl, hfree, hmem⟩
  · rintro (rfl | ⟨uid', rfl, hfree, hmem⟩)
    · exact ⟨uid, rfl, h, List.mem_cons_self⟩
    · exact ⟨uid', rfl, hfree, List.mem_cons_of_mem _ hmem⟩

/-- The loop goes through if every element can be read, and adds the ids that are not banned. -/
theorem exists_readNodes (ctx : ResponseContext) {idOf : XmlNode → Option String}
    (hid : MakesId key fromNode idOf) {nodes : List XmlNode}
    (hread : ∀ node ∈ nodes, NodeRead key fromNode node) (set : SwSet key) :
    ∃ set', readNodes ctx key fromNode nodes set = .ok set' ∧
      ∀ k, k ∈ set'.keys ↔ k ∈ set.keys ∨
        ∃ uid, k = some uid ∧ (ctx.banned.find uid).isSome = false ∧ some uid ∈ nodes.map idOf := by
  induction nodes generalizing set with
  | nil => exact ⟨set, rfl, fun k => by simp⟩
  | cons node nodes ih =>
    obtain ⟨object, hfrom, hnamed⟩ := hread node List.mem_cons_self
    have hnode : object.bind key = idOf node := hid node object hfrom
    have ih := ih (List.forall_mem_of_forall_mem_cons hread)
    unfold readNodes
    rw [hfrom]
    cases object with
    | none =>
      obtain ⟨set', hset', hkeys⟩ := ih set
      refine ⟨set', hset', fun k => ?_⟩
      rw [hkeys k, List.map_cons, ← hnode]
      simp
    | some a =>
      obtain ⟨uid, huid⟩ := Option.isSome_iff_exists.1 (hnamed a rfl)
      have hnode : idOf node = some uid := hnode.symm.trans huid
      dsimp only
      rw [huid]
      dsimp only
      by_cases hbanned : (ctx.banned.find uid).isSome = true
      · rw [if_pos hbanned]
        obtain ⟨set', hset', hkeys⟩ := ih set
        refine ⟨set', hset', fun k => ?_⟩
        rw [hkeys k, List.map_cons, hnode, admitted_cons_of_banned hbanned]
      · rw [if_neg hbanned]
        obtain ⟨set', hset', hkeys⟩ := ih (set.add a)
        refine ⟨set', hset', fun k => ?_⟩
        have hfree : (ctx.banned.find uid).isSome = false := Bool.eq_false_iff.2 hbanned
        rw [hkeys k, KeySet.keys_add, Set.mem_insert_iff, huid, List.map_cons, hnode,
          admitted_cons_of_free hfree]
        exact or_assoc.trans or_left_comm

/-- An element that cannot be read ends the loop. -/
theorem nodeRead_of_readNodes {nodes : List XmlNode} {set set' : SwSet key}
    (h : readNodes ctx key fromNode nodes set = .ok set') :
    ∀ node ∈ nodes, NodeRead key fromNode node := by
  induction nodes generalizing set with
  | nil => exact List.forall_mem_nil _
  | cons node nodes ih =>
    unfold readNodes at h
    cases hfrom : fromNode node with
    | error fault =>
      rw [hfrom] at h
      cases h
    | ok object =>
      rw [hfrom] at h
      cases object with
      | none => exact List.forall_mem_cons.2 ⟨⟨none, hfrom, nofun⟩, ih h⟩
      | some a =>
        dsimp only at h
        cases hkey : key a with
        | none =>
          rw [hkey] at h
          cases h
        | some uid =>
          rw [hkey] at h
          dsimp only at h
          have hnode : NodeRead key fromNode node := by
            refine ⟨some a, hfrom, fun a' ha' => ?_⟩
            obtain rfl := Option.some.inj ha'
            rw [hkey]
            rfl
          refine List.forall_mem_cons.2 ⟨hnode, ?_⟩
          split_ifs at h
          · exact ih h
          · exact ih h

theorem findBelow_eq_ok_iff {parent tag : String} {root : XmlNode} {nodes : List XmlNode} :
    findBelow ctx (root.find parent) tag = .ok nodes ↔
      Findable ctx parent root ∧ elements parent tag root = nodes := by
  unfold findBelow Findable elements
  cases root.find parent with
  | some node => simp
  | none =>
    dsimp only
    split_ifs with hfind
    · simp [hfind]
    · simp [hfind]

/-- A response is read when its elements can be found and each of them can be read. -/
theorem delivers_receivedCb_iff {idOf : XmlNode → Option String} (hid : MakesId key fromNode idOf)
    (parent tag : String) (root : XmlNode) :
    Delivers ctx key ((elements parent tag root).map idOf)
      (receivedCb ctx key fromNode parent tag none root) ↔
        Findable ctx parent root ∧
          ∀ node ∈ elements parent tag root, NodeRead key fromNode node := by
  unfold receivedCb
  refine ⟨?_, ?_⟩
  · rintro ⟨set, hresult, -⟩
    dsimp only at hresult
    cases hfind : findBelow ctx (root.find parent) tag with
    | error fault =>
      rw [hfind] at hresult
      cases hresult
    | ok nodes =>
      obtain ⟨hfindable, rfl⟩ := findBelow_eq_ok_iff.1 hfind
      refine ⟨hfindable, ?_⟩
      rw [hfind] at hresult
      dsimp only at hresult
      cases hnodes : readNodes ctx key fromNode (elements parent tag root) KeySet.empty with
      | error fault =>
        rw [hnodes] at hresult
        cases hresult
      | ok set' => exact nodeRead_of_readNodes hnodes
  · rintro ⟨hfindable, hread⟩
    obtain ⟨set, hset, hkeys⟩ := exists_readNodes ctx hid hread KeySet.empty
    dsimp only
    rw [findBelow_eq_ok_iff.2 ⟨hfindable, rfl⟩]
    dsimp only
    rw [hset]
    simp only [KeySet.keys_empty, Set.mem_empty_iff_false, false_or] at hkeys
    refine ⟨set, rfl, ?_, ?_, fun a ha b hb heq => set.eq_of_key_eq ha hb heq⟩
    · intro a ha
      obtain ⟨uid, heq, -⟩ := (hkeys (key a)).1 ⟨a, ha, rfl⟩
      rw [heq]
      rfl
    · intro uid
      refine (hkeys (some uid)).trans ⟨?_, fun h => ⟨uid, rfl, h⟩⟩
      rintro ⟨uid', heq, h⟩
      obtain rfl := Option.some.inj heq
      exact h

end Walk

/-! ## The photos -/

section Photos

variable {ctx} {node : XmlNode}

theorem isSome_constructPhotoPageUrl :
    (constructPhotoPageUrl node).isSome ↔ (node.attr "owner").isSome ∧ (node.attr "id").isSome := by
  unfold constructPhotoPageUrl checkAttrs
  cases howner : node.attr "owner" <;> cases hid : node.attr "id" <;> simp [howner, hid]

theorem touched_extractLocation :
    ∀ e ∈ extractLocation node, ImageFetches.touched e ≠ some "id" := by
  unfold extractLocation
  split
  · exact List.forall_mem_nil _
  · split_ifs
    · exact List.forall_mem_nil _
    · split
      · split_ifs
        · exact List.forall_mem_nil _
        · simp [ImageFetches.touched]
      · exact List.forall_mem_nil _

/-- The id is put once. -/
theorem touched_photoEvents (dateupload : String) :
    ∀ e ∈ photoEvents ctx node dateupload, ImageFetches.touched e ≠ some "id" := by
  unfold photoEvents
  rw [List.forall_mem_append, List.forall_mem_append]
  refine ⟨⟨?_, ?_⟩, touched_extractLocation⟩
  · simp [ImageFetches.touched]
  · simp [ImageFetches.touched, ImageFetches.photoFetches]

theorem itemId_of_flickrItemFromPhotoNode {item : SwItem}
    (h : flickrItemFromPhotoNode ctx node = .ok item) :
    itemId item = constructPhotoPageUrl node := by
  unfold flickrItemFromPhotoNode at h
  cases hdate : node.attr "dateupload" with
  | none =>
    rw [hdate] at h
    cases h
  | some dateupload =>
    rw [hdate] at h
    obtain rfl := Except.ok.inj h
    rw [itemId, ImageFetches.get_runFrom_of_ne (touched_photoEvents dateupload)]
    exact SwItem.get_put_self _ _ _

theorem makesId_photo : MakesId itemId
    (fun node => (flickrItemFromPhotoNode ctx node).map some) constructPhotoPageUrl := by
  intro node object h
  dsimp only at h
  cases hitem : flickrItemFromPhotoNode ctx node with
  | error fault =>
    rw [hitem] at h
    cases h
  | ok item =>
    rw [hitem] at h
    obtain rfl := Except.ok.inj h
    exact itemId_of_flickrItemFromPhotoNode hitem

theorem nodeRead_photo_iff :
    NodeRead itemId (fun node => (flickrItemFromPhotoNode ctx node).map some) node ↔
      PhotoComplete node := by
  unfold NodeRead PhotoComplete
  rw [← and_assoc, ← isSome_constructPhotoPageUrl]
  cases hdate : node.attr "dateupload" with
  | none => simp [flickrItemFromPhotoNode, hdate, Except.map]
  | some dateupload =>
    obtain ⟨item, hitem⟩ : ∃ item, flickrItemFromPhotoNode ctx node = .ok item := by
      unfold flickrItemFromPhotoNode
      rw [hdate]
      exact ⟨_, rfl⟩
    have hid := itemId_of_flickrItemFromPhotoNode hitem
    dsimp only
    rw [hitem]
    refine ⟨?_, fun h => ⟨some item, rfl, fun a ha => ?_⟩⟩
    · rintro ⟨object, hobject, hnamed⟩
      obtain rfl := Except.ok.inj hobject
      exact ⟨hid ▸ hnamed item rfl, rfl⟩
    · obtain rfl := Option.some.inj ha
      exact hid ▸ h.1

end Photos

/-! ## The contacts -/

section Contacts

variable {ctx} {node : XmlNode} {contact : SwContact}

theorem SwContact.get_putSome_of_ne {key key' : String} (h : key' ≠ key) (value : Option String) :
    (contact.putSome key value).get key' = contact.get key' := by
  unfold SwContact.putSome
  split_ifs
  · exact SwContact.get_put_of_ne h value
  · rfl

theorem SwContact.get_requestImageFetch_of_ne {key key' : String} (h : key' ≠ key)
    (url : Option String) :
    (contact.requestImageFetch ctx key url).get key' = contact.get key' := by
  unfold SwContact.requestImageFetch
  dsimp only
  split
  · exact (SwContact.get_put_of_ne h _).trans rfl
  · rfl

theorem contactId_of_flickrContactFromNode (ctx : ResponseContext) (node : XmlNode) :
    (flickrContactFromNode ctx node).bind contactId = node.attr "nsid" := by
  unfold flickrContactFromNode
  cases node.attr "nsid" with
  | none => rfl
  | some nsid =>
    dsimp only
    rw [Option.bind_some, contactId, SwContact.get_requestImageFetch_of_ne (by decide),
      SwContact.get_put_of_ne (by decide), SwContact.get_putSome_of_ne (by decide),
      SwContact.get_putSome_of_ne (by decide), SwContact.get, SwContact.getAll_put_self]
    rfl

theorem makesId_contact : MakesId contactId
    (fun node => .ok (flickrContactFromNode ctx node)) (·.attr "nsid") := by
  intro node object h
  obtain rfl := Except.ok.inj h
  exact contactId_of_flickrContactFromNode ctx node

/-- Every contact can be read. -/
theorem nodeRead_contact :
    NodeRead contactId (fun node => .ok (flickrContactFromNode ctx node)) node := by
  refine ⟨_, rfl, fun contact hcontact => ?_⟩
  have hid := contactId_of_flickrContactFromNode ctx node
  rw [hcontact, Option.bind_some] at hid
  rw [hid]
  unfold flickrContactFromNode at hcontact
  cases hnsid : node.attr "nsid" with
  | none =>
    rw [hnsid] at hcontact
    cases hcontact
  | some nsid => rfl

end Contacts

/-! ## Both responses -/

/-- The response with photos, and the response with contacts. -/
def ResponsesRead (photos contacts : XmlNode) : Prop :=
  Delivers ctx itemId ((elements "photos" "photo" photos).map constructPhotoPageUrl)
      (photosReceivedCb ctx none photos) ∧
    Delivers ctx contactId ((elements "contacts" "contact" contacts).map (·.attr "nsid"))
      (contactsReceivedCb ctx none contacts)

/-- **The responses are read** exactly when every photo has its owner, its id and its date, and
librest finds nothing below NULL if there are no photos or no contacts. -/
theorem responsesRead_iff (photos contacts : XmlNode) :
    ResponsesRead ctx photos contacts ↔
      (Findable ctx "photos" photos ∧ ∀ node ∈ elements "photos" "photo" photos,
        PhotoComplete node) ∧ Findable ctx "contacts" contacts := by
  refine and_congr ?_ ?_
  · refine (delivers_receivedCb_iff makesId_photo "photos" "photo" photos).trans ?_
    exact and_congr_right fun _ => forall₂_congr fun node _ => nodeRead_photo_iff
  · refine (delivers_receivedCb_iff makesId_contact "contacts" "contact" contacts).trans ?_
    exact and_iff_left fun node _ => nodeRead_contact

/-- A photo without an attribute. -/
def barePhoto : XmlNode := ⟨"photo", none, [], [], []⟩

/-- A response with one photo, which has no attribute. -/
def bareResponse : XmlNode :=
  ⟨"rsp", none, [], [], [("photos", [⟨"photos", none, [], [], [("photo", [barePhoto])]⟩])]⟩

theorem not_responsesRead_barePhoto :
    ¬ ∀ (ctx : ResponseContext) (photos contacts : XmlNode), ResponsesRead ctx photos contacts := by
  intro hall
  have hread := hall ⟨⟨1, "flickr"⟩, KeySet.empty, ImageFetches.plainLibrary, [], toString, 0,
    ⟨true, true, true, true, true⟩⟩ bareResponse bareResponse
  have hnodes := ((delivers_receivedCb_iff makesId_photo "photos" "photo" bareResponse).1 hread.1).2
  have hcomplete := nodeRead_photo_iff.1 (hnodes barePhoto (List.mem_singleton.2 rfl))
  cases hcomplete.1

end LibSocialWeb
