import LibSocialWeb.Lib.Batches
import LibSocialWeb.Rest.Calls
import Mathlib.Tactic.SplitIfs

/-!
# Looking up the contacts of Twitter (`services/twitter/twitter-contact-view.c`)

`friends/ids` answers with a list of ids. `_got_ids_cb` gathers them in a text, with commas between
them, and makes a call of `users/lookup` when the text has `TWITTER_LOOKUP_MAX` ids or the list
ends.

**Main result.** `idsLookedUp`: the calls look up the ids of the reply, each once and in order, and
no call has none or too many.
-/

namespace LibSocialWeb

/-- A call that the view makes. A parameter may be NULL. -/
structure TwitterCall where
  function : String
  params : List (String × Option String)
  deriving DecidableEq

/-- `TWITTER_LOOKUP_MAX`: the service allows for more, but that does not work. -/
def TWITTER_LOOKUP_MAX : ℕ := 1

/-- `_make_node_from_call` -/
def makeNodeFromCall (call : RestProxyCall XmlNode) : Option XmlNode := call.successfulRoot

def usersLookup (ids : Option String) : TwitterCall := ⟨"users/lookup.xml", [("user_id", ids)]⟩

/-- The text of the ids, with one more. `g_strdup` copies NULL to NULL. -/
def addId (ids : Option String) (node : XmlNode) : Option String :=
  match ids with
  | none => node.content
  | some ids => some (ids ++ "," ++ printed node.content)

/-- The loop of `_got_ids_cb`: the calls that are made from a node on. -/
def lookupLoop (i : ℕ) (ids : Option String) : List XmlNode → List TwitterCall
  | [] => []
  | node :: next =>
    if i + 1 = TWITTER_LOOKUP_MAX ∨ next = [] then
      usersLookup (addId ids node) :: lookupLoop 0 none next
    else lookupLoop (i + 1) (addId ids node) next

/-- `_got_ids_cb`: the calls that it makes. -/
def gotIdsCb (error : Option String) (call : RestProxyCall XmlNode) : List TwitterCall :=
  match error with
  | some _ => []
  | none =>
    match makeNodeFromCall call with
    | none => []
    | some root => lookupLoop 0 none (root.findAll "id")

/-! ## The loop cuts batches -/

/-- The text of a batch of ids. -/
def idsText (batch : List String) : String :=
  String.ofList (Batches.join ',' (batch.map String.toList))

theorem idsText_concat {batch : List String} (hne : batch ≠ []) (id : String) :
    idsText (batch ++ [id]) = idsText batch ++ "," ++ id := by
  have hmap : batch.map String.toList ≠ [] := fun h => hne (List.map_eq_nil_iff.1 h)
  apply String.toList_inj.1
  rw [idsText, List.map_append, List.map_singleton, Batches.join_concat hmap]
  simp [idsText]

/-- `ids` holds the ids that were gathered. -/
def gatheredText (gathered : List String) : Option String :=
  if gathered = [] then none else some (idsText gathered)

theorem addId_gathered (gathered : List String) {node : XmlNode} {id : String}
    (hcontent : node.content = some id) :
    addId (gatheredText gathered) node = some (idsText (gathered ++ [id])) := by
  unfold gatheredText
  split_ifs with hnil
  · rw [hnil, addId, hcontent]
    simp [idsText, Batches.join]
  · rw [addId, hcontent, idsText_concat hnil]
    rfl

/-- **The loop makes one call for each batch.** The counter counts the ids that were gathered. -/
theorem lookupLoop_eq {nodes : List XmlNode} {ids : List String}
    (hids : nodes.map XmlNode.content = ids.map some) (gathered : List String) :
    lookupLoop gathered.length (gatheredText gathered) nodes =
      (Batches.cut TWITTER_LOOKUP_MAX gathered ids).map fun batch =>
        usersLookup (some (idsText batch)) := by
  induction nodes generalizing ids gathered with
  | nil =>
    obtain rfl := List.map_eq_nil_iff.1 hids.symm
    rfl
  | cons node next ih =>
    obtain ⟨id, rest, rfl, hid, hrest⟩ := List.map_eq_cons_iff.1 hids.symm
    have hlength : (gathered ++ [id]).length = gathered.length + 1 := List.length_append
    have hnext : rest = [] ↔ next = [] := by
      rw [← List.map_eq_nil_iff (f := some), hrest, List.map_eq_nil_iff]
    by_cases hfull : gathered.length + 1 = TWITTER_LOOKUP_MAX ∨ next = []
    · have hcut : (gathered ++ [id]).length = TWITTER_LOOKUP_MAX ∨ rest = [] := by
        rwa [hlength, hnext]
      rw [lookupLoop, Batches.cut, addId_gathered gathered hid.symm, if_pos hfull, if_pos hcut,
        List.map_cons]
      exact congrArg _ (ih hrest.symm [])
    · have hcut : ¬ ((gathered ++ [id]).length = TWITTER_LOOKUP_MAX ∨ rest = []) := by
        rwa [hlength, hnext]
      rw [lookupLoop, Batches.cut, addId_gathered gathered hid.symm, if_neg hfull, if_neg hcut,
        ← hlength, ← ih hrest.symm (gathered ++ [id]), gatheredText, if_neg (by simp)]

/-! ## What the service gets -/

/-- The ids that the service reads in a call of `users/lookup`. -/
def TwitterCall.userIds (call : TwitterCall) : List String :=
  match call.params.lookup "user_id" with
  | some (some ids) => (ids.toList.splitOn ',').map String.ofList
  | _ => []

theorem userIds_usersLookup {batch : List String} (hne : batch ≠ [])
    (hcomma : ∀ id ∈ batch, ',' ∉ id.toList) :
    (usersLookup (some (idsText batch))).userIds = batch := by
  have hsplit : (Batches.join ',' (batch.map String.toList)).splitOn ',' =
      batch.map String.toList := by
    refine List.splitOn_intercalate ',' ?_ fun h => hne (List.map_eq_nil_iff.1 h)
    intro text htext
    obtain ⟨id, hid, rfl⟩ := List.mem_map.1 htext
    exact hcomma id hid
  rw [TwitterCall.userIds, usersLookup, List.lookup_cons_self]
  dsimp only
  rw [idsText, String.toList_ofList, hsplit]
  simp

/-- **The ids of the reply are looked up, each once and in order, in calls of a good size.** -/
theorem idsLookedUp {call : RestProxyCall XmlNode} {root : XmlNode} {ids : List String}
    (hroot : makeNodeFromCall call = some root)
    (hids : (root.findAll "id").map XmlNode.content = ids.map some)
    (hcomma : ∀ id ∈ ids, ',' ∉ id.toList) :
    (gotIdsCb none call).flatMap TwitterCall.userIds = ids ∧
      (∀ lookup ∈ gotIdsCb none call, lookup.function = "users/lookup.xml" ∧
        1 ≤ lookup.userIds.length ∧ lookup.userIds.length ≤ TWITTER_LOOKUP_MAX) ∧
      (ids = [] → gotIdsCb none call = []) := by
  have hcalls : gotIdsCb none call = (Batches.cut TWITTER_LOOKUP_MAX [] ids).map fun batch =>
      usersLookup (some (idsText batch)) := by
    rw [gotIdsCb, hroot]
    exact lookupLoop_eq hids []
  have hsize : ∀ batch ∈ Batches.cut TWITTER_LOOKUP_MAX [] ids,
      1 ≤ batch.length ∧ batch.length ≤ TWITTER_LOOKUP_MAX := fun batch hbatch =>
    Batches.length_of_mem_cut Nat.one_pos hbatch
  have hread : ∀ batch ∈ Batches.cut TWITTER_LOOKUP_MAX [] ids,
      (usersLookup (some (idsText batch))).userIds = batch := by
    intro batch hbatch
    refine userIds_usersLookup (List.ne_nil_of_length_pos (hsize batch hbatch).1) ?_
    intro id hmem
    apply hcomma
    rw [← Batches.flatten_cut TWITTER_LOOKUP_MAX ids]
    exact List.mem_flatten.2 ⟨batch, hbatch, hmem⟩
  rw [hcalls]
  refine ⟨?_, ?_, ?_⟩
  · rw [List.flatMap_map, List.flatMap_def, List.map_congr_left hread, List.map_id',
      Batches.flatten_cut]
  · intro lookup hlookup
    obtain ⟨batch, hbatch, rfl⟩ := List.mem_map.1 hlookup
    rw [hread batch hbatch]
    exact ⟨rfl, hsize batch hbatch⟩
  · rintro rfl
    rfl

def idNode (id : String) : XmlNode := ⟨"id", some id, [], [], []⟩

/-- A reply to `friends/ids`. -/
def idsReply (ids : List String) : RestProxyCall XmlNode where
  statusCode := 200
  statusMessage := "OK"
  payload := ""
  parsed := some ⟨"ids", none, [], [("id", ids.map idNode)], [("id", ids.map idNode)]⟩

theorem idsLookedUp_two :
    (gotIdsCb none (idsReply ["12", "7"])).flatMap TwitterCall.userIds = ["12", "7"] :=
  (idsLookedUp rfl rfl (by decide)).1

end LibSocialWeb
