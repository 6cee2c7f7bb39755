import LibSocialWeb.Core.ImageFetch
import LibSocialWeb.Core.Store
import LibSocialWeb.Core.UnescapeText
import LibSocialWeb.Facebook.Util

/-!
# Items made of the entries of a reply

The item views of Twitter, Plurk, MySpace, Sina, YouTube and Vimeo read a reply in one loop: an item
is made of each entry, some entries are skipped, and the id of the item is hashed. This file has the
loop, `readEntries`, and what there is to show of a function that makes the items, `EntrySpec`.

**NULL.** A member of a node that was not found, a date that is NULL and an id that is NULL end the
process; then the reader returns `none`. So does a text that `sw_unescape_entities` replaces beyond
its memory.

**Main result.** `EntrySpec.readEntries`: the loop goes through exactly when every entry is
complete, and then there is one item for each entry that is not skipped, with its id, in order.
-/

namespace LibSocialWeb

open Transition

namespace JsonObject

variable (object : JsonObject) (name : String)

/-- `json_object_get_object_member` -/
def getObjectMember : JsonObject := (getMember object name).bind JsonNode.getObject

def hasMember : Bool := (getMember object name).isSome

/-- `json_object_get_null_member` -/
def getNullMember : Bool :=
  match getMember object name with
  | some .null => true
  | _ => false

end JsonObject

/-- What the readers ask of the libraries. `files` are the pictures that are there, `parseDate` the
time that `strptime` and `timegm`, or `mktime`, make of a date of the service, `soupDateToString`
what libsoup writes for a time, `ofBytes` the text for the bytes of a string, which need not be
UTF-8 any more once references are replaced, `twitpic` what the expression of Twitter matches: its
first group, and the text without the matches. `now` is the present time. `unrefJson` says whether
`g_object_unref` returns from a `JsonNode`, which is no object. -/
structure EntryLibrary where
  web : WebLibrary
  files : List String
  parseDate : String → Int
  soupDateToString : Int → String
  ofBytes : List UInt8 → String
  twitpic : String → Option (String × String)
  now : Int
  libs : NullHandling
  unrefJson : JsonNode → Bool

/-- `make_date` of a view -/
def EntryLibrary.makeDate (lib : EntryLibrary) (s : String) : String :=
  swTimeTToString lib.soupDateToString (lib.parseDate s)

/-- `sw_unescape_entities` stays in the memory of the text. -/
def HasRoom (content : String) : Prop := (swUnescapeEntities (utf8 content.toList)).isSome = true

instance (content : String) : Decidable (HasRoom content) :=
  inferInstanceAs (Decidable (_ = true))

/-- What `sw_unescape_entities` makes of a text; `none` if it leaves the memory of the text. -/
def EntryLibrary.unescape (lib : EntryLibrary) (content : String) : Option String :=
  (swUnescapeEntities (utf8 content.toList)).map lib.ofBytes

theorem EntryLibrary.isSome_unescape (lib : EntryLibrary) (content : String) :
    (lib.unescape content).isSome = true ↔ HasRoom content := by
  rw [unescape, Option.isSome_map, HasRoom]

/-- A reply: the error of the call, and what librest and json-glib make of it. -/
structure ItemReply where
  error : Option String
  xml : RestProxyCall XmlNode
  json : Option JsonNode

namespace XmlNode

/-- `rest_xml_node_find (node, tag)->content` -/
def foundContent (node : XmlNode) (tag : String) : Option (Option String) :=
  (node.find tag).map (·.content)

/-- `xml_get_child_node_value`: a text that is not empty. -/
def childNodeValue (node : XmlNode) (tag : String) : Option String :=
  ((node.find tag).bind (·.content)).filter (· ≠ "")

theorem isSome_foundContent (node : XmlNode) (tag : String) :
    (node.foundContent tag).isSome = (node.find tag).isSome := Option.isSome_map

end XmlNode

/-- A reader goes through its first step and then the others. -/
theorem isSome_bind_iff {α β : Type} {o : Option α} {f : α → Option β} :
    (o >>= f).isSome ↔ ∃ a, o = some a ∧ (f a).isSome := by
  cases o with
  | none => simp
  | some a => simp

/-- An item on which all of these were done, up to the return of the last. -/
def EntryLibrary.make (lib : EntryLibrary) (service : SwService) (script : List FetchEvent) :
    SwItem :=
  (runFrom (ImageFetches.step lib.web) (ImageFetches.init service lib.files) script).item

section Loop

variable {ν : Type} (make : ν → Option (Option SwItem))

/-- The loop of the readers; the outer `none` is the end of the process, the inner one an entry that
is skipped. -/
def readEntries : List ν → Option (List NewItem)
  | [] => some []
  | entry :: entries =>
    match make entry with
    | none => none
    | some none => readEntries entries
    | some (some item) =>
      match hid : item.get "id" with
      | none => none
      | some uid => (readEntries entries).map fun ns => ⟨uid, item, hid⟩ :: ns

/-- The entry is made into an item with an id, or skipped. -/
def EntryRead (entry : ν) : Prop :=
  ∃ made, make entry = some made ∧ ∀ item, made = some item → (item.get "id").isSome

/-- What is shown of a function that makes the items: which entries it reads, and the ids. -/
structure EntrySpec (Complete : ν → Prop) (idOf : ν → Option String) : Prop where
  read_iff : ∀ entry, EntryRead make entry ↔ Complete entry
  id_eq : ∀ entry made, make entry = some made → made.bind (·.get "id") = idOf entry

variable {make}

theorem entryRead_of_readEntries {entries : List ν} {ns : List NewItem}
    (h : readEntries make entries = some ns) : ∀ entry ∈ entries, EntryRead make entry := by
  induction entries generalizing ns with
  | nil => exact List.forall_mem_nil _
  | cons entry entries ih =>
    unfold readEntries at h
    split at h
    · cases h
    · next hmake => exact List.forall_mem_cons.2 ⟨⟨none, hmake, nofun⟩, ih h⟩
    · next item hmake =>
      split at h
      · cases h
      · next uid hid =>
        obtain ⟨ms, hms, -⟩ := Option.map_eq_some_iff.1 h
        refine List.forall_mem_cons.2 ⟨⟨some item, hmake, fun item' hitem' => ?_⟩, ih hms⟩
        obtain rfl := Option.some.inj hitem'
        rw [hid]
        rfl

theorem readEntries_skipped {entry : ν} (hmake : make entry = some none) (entries : List ν) :
    readEntries make (entry :: entries) = readEntries make entries := by
  conv_lhs => unfold readEntries
  split
  · next hnone => exact absurd (hnone.symm.trans hmake) nofun
  · rfl
  · next hsome => exact absurd (hsome.symm.trans hmake) nofun

theorem readEntries_item {entry : ν} {n : NewItem} (hmake : make entry = some (some n.item))
    (entries : List ν) :
    readEntries make (entry :: entries) = (readEntries make entries).map fun ns => n :: ns := by
  conv_lhs => unfold readEntries
  split
  · next hnone => exact absurd (hnone.symm.trans hmake) nofun
  · next hnone => exact absurd (hnone.symm.trans hmake) nofun
  · next item hsome =>
    obtain rfl : item = n.item := Option.some.inj (Option.some.inj (hsome.symm.trans hmake))
    split
    · next hnone => exact absurd (hnone.symm.trans n.id_eq) nofun
    · next uid huid =>
      obtain rfl : uid = n.uid := Option.some.inj (huid.symm.trans n.id_eq)
      rfl

/-- What the loop makes of entries that can be read. -/
theorem exists_readEntries {idOf : ν → Option String}
    (hid : ∀ entry made, make entry = some made → made.bind (·.get "id") = idOf entry)
    {entries : List ν} (hread : ∀ entry ∈ entries, EntryRead make entry) :
    ∃ ns, readEntries make entries = some ns ∧ ns.map (·.uid) = entries.filterMap idOf := by
  induction entries with
  | nil => exact ⟨[], rfl, rfl⟩
  | cons entry entries ih =>
    obtain ⟨ns, hns, huids⟩ := ih (List.forall_mem_of_forall_mem_cons hread)
    obtain ⟨made, hmake, hnamed⟩ := hread entry List.mem_cons_self
    have hidOf := hid entry made hmake
    cases made with
    | none =>
      have hidOf : idOf entry = none := hidOf.symm
      exact ⟨ns, (readEntries_skipped hmake entries).trans hns, by
        rw [List.filterMap_cons, hidOf, huids]⟩
    | some item =>
      obtain ⟨uid, huid⟩ := Option.isSome_iff_exists.1 (hnamed item rfl)
      have hidOf : idOf entry = some uid := hidOf.symm.trans huid
      let n : NewItem := ⟨uid, item, huid⟩
      refine ⟨n :: ns, ?_, by rw [List.map_cons, List.filterMap_cons, hidOf, huids]⟩
      rw [readEntries_item (n := n) hmake, hns]
      rfl

/-- **The loop goes through exactly when every entry is complete.** -/
theorem EntrySpec.readEntries {Complete : ν → Prop} {idOf : ν → Option String}
    (h : EntrySpec make Complete idOf) (entries : List ν) :
    ((readEntries make entries).isSome ↔ ∀ entry ∈ entries, Complete entry) ∧
      ∀ ns, LibSocialWeb.readEntries make entries = some ns →
        ns.map (·.uid) = entries.filterMap idOf := by
  have hread : (∀ entry ∈ entries, EntryRead make entry) ↔ ∀ entry ∈ entries, Complete entry :=
    forall₂_congr fun entry _ => h.read_iff entry
  refine ⟨?_, fun ns hns => ?_⟩
  · rw [← hread]
    refine ⟨fun hsome => ?_, fun hall => ?_⟩
    · obtain ⟨ns, hns⟩ := Option.isSome_iff_exists.1 hsome
      exact entryRead_of_readEntries hns
    · obtain ⟨ns, hns, -⟩ := exists_readEntries h.id_eq hall
      exact Option.isSome_iff_exists.2 ⟨ns, hns⟩
  · obtain ⟨ns', hns', huids⟩ := exists_readEntries h.id_eq (entryRead_of_readEntries hns)
    obtain rfl := Option.some.inj (hns'.symm.trans hns)
    exact huids

/-- A reader that skips no entry. -/
theorem entrySpec_of_item {item : ν → Option SwItem} {Complete : ν → Prop}
    {idOf : ν → Option String}
    (hread : ∀ entry, (∃ i, item entry = some i ∧ (i.get "id").isSome) ↔ Complete entry)
    (hid : ∀ entry i, item entry = some i → i.get "id" = idOf entry) :
    EntrySpec (fun entry => (item entry).map some) Complete idOf where
  read_iff entry := by
    rw [← hread entry]
    unfold EntryRead
    dsimp only
    cases item entry with
    | none => simp
    | some i => simp
  id_eq entry made hmade := by
    obtain ⟨i, hitem, rfl⟩ := Option.map_eq_some_iff.1 hmade
    exact hid entry i hitem

/-- A reader that skips no entry and names every item. -/
theorem entrySpec_of_named {item : ν → Option SwItem} {Complete : ν → Prop}
    {idOf : ν → Option String} (hread : ∀ entry, (item entry).isSome ↔ Complete entry)
    (hid : ∀ entry i, item entry = some i → i.get "id" = idOf entry ∧ (idOf entry).isSome) :
    EntrySpec (fun entry => (item entry).map some) Complete idOf := by
  refine entrySpec_of_item (fun entry => ?_) fun entry i hitem => (hid entry i hitem).1
  rw [← hread entry, Option.isSome_iff_exists]
  refine exists_congr fun i => and_iff_left_of_imp fun hitem => ?_
  rw [(hid entry i hitem).1]
  exact (hid entry i hitem).2

end Loop

/-! ## The id of an item -/

/-- A script that puts the id once. -/
theorem EntryLibrary.get_id_make (lib : EntryLibrary) (service : SwService)
    (before after : List FetchEvent) (id : Option String)
    (h : ∀ e ∈ after, ImageFetches.touched e ≠ some "id") :
    (lib.make service (before ++ .put "id" id :: after)).get "id" = id := by
  unfold make
  rw [runFrom_append, runFrom_cons, ImageFetches.get_runFrom_of_ne h]
  exact SwItem.get_put_self _ _ _

end LibSocialWeb
