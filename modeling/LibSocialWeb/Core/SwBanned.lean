import LibSocialWeb.Core.SwSet
import LibSocialWeb.Lib.Lines
import LibSocialWeb.Lib.Run

/-!
# The ban list (`libsocialweb/sw-banned.c`)

A service keeps the ids that were hidden in a table. `HideItem` inserts the id and saves the table,
one id on each line of a file; when the service is constructed again it loads the table from the
file. `g_data_input_stream_read_line` ends a line at a line feed.

**System.** `file` is what the last `sw_ban_save` wrote, and `hidden` lists the ids of all calls of
`HideItem`; no code reads it.

**Main result.** `banListSurvives_iff`: the banned ids are those that were hidden, along a run with
restarts, exactly when no id with a line feed is hidden before a restart. Such an id comes back in
pieces.
-/

namespace LibSocialWeb

open Transition

/-- The table of `banned_uids`, a hash table of strings. -/
abbrev BanTable := KeySet (id : String → String)

/-- `sw_ban_save`: the text that is written, for the order in which the table lists its keys. -/
def banSave (order : KeyOrder String) (hash : BanTable) : String :=
  (order.list hash.members).foldl (fun file key => file ++ key ++ "\n") ""

/-- `sw_ban_load`: the table is empty if there is no file. -/
def banLoad : Option String → BanTable
  | none => KeySet.empty
  | some file =>
    (Lines.read '\n' [] file.toList).foldl (fun hash line => hash.add (String.ofList line))
      KeySet.empty

/-- What a service keeps of its ban list. -/
structure SwBanned where
  bannedUids : BanTable
  file : Option String
  hidden : List String

inductive BanEvent where
  | hideItem (uid : String) (order : KeyOrder String)
  | restart

namespace SwBanned

/-- A service that is constructed without a file. -/
def init : SwBanned := ⟨banLoad none, none, []⟩

/-- `banishable_hide_item` -/
def hideItem (uid : String) (order : KeyOrder String) (s : SwBanned) : SwBanned :=
  let bannedUids := s.bannedUids.add uid
  { bannedUids := bannedUids, file := some (banSave order bannedUids), hidden := s.hidden ++ [uid] }

/-- `sw_service_constructed` -/
def restart (s : SwBanned) : SwBanned := { s with bannedUids := banLoad s.file }

/-- `sw_service_is_uid_banned` -/
def isUidBanned (s : SwBanned) (uid : String) : Bool := (s.bannedUids.find uid).isSome

def step (s : SwBanned) : BanEvent → SwBanned
  | .hideItem uid order => s.hideItem uid order
  | .restart => s.restart

/-! ## Tables and files -/

theorem mem_iff_isSome {hash : BanTable} {uid : String} :
    (hash.find uid).isSome = true ↔ uid ∈ hash := by
  rw [KeySet.find_isSome]
  simp

theorem mem_add {hash : BanTable} {uid key : String} :
    key ∈ hash.add uid ↔ key ∈ hash ∨ key = uid := by
  rw [← mem_iff_isSome, KeySet.find_add, ← mem_iff_isSome]
  split_ifs with hkey
  · exact iff_of_true rfl (Or.inr hkey.symm)
  · exact ⟨Or.inl, fun h => h.resolve_right fun heq => hkey heq.symm⟩

theorem toList_banSave (order : KeyOrder String) (hash : BanTable) :
    (banSave order hash).toList =
      Lines.terminate '\n' ((order.list hash.members).map String.toList) := by
  have hfold : ∀ (keys : List String) (file : String),
      (keys.foldl (fun file key => file ++ key ++ "\n") file).toList =
        file.toList ++ Lines.terminate '\n' (keys.map String.toList) := by
    intro keys
    induction keys with
    | nil => intro file; simp [Lines.terminate]
    | cons key keys ih =>
      intro file
      rw [List.foldl_cons, ih]
      simp [Lines.terminate]
  exact hfold _ _

/-- The loaded ids are the lines of the file. -/
theorem mem_banLoad {file uid : String} :
    uid ∈ banLoad (some file) ↔ uid.toList ∈ Lines.read '\n' [] file.toList := by
  have hfold : ∀ (lines : List (List Char)) (hash : BanTable),
      uid ∈ lines.foldl (fun hash line => hash.add (String.ofList line)) hash ↔
        uid ∈ hash ∨ uid.toList ∈ lines := by
    intro lines
    induction lines with
    | nil => intro hash; simp
    | cons line lines ih =>
      intro hash
      have hline : uid = String.ofList line ↔ uid.toList = line :=
        ⟨fun h => by rw [h, String.toList_ofList], fun h => by rw [← h, String.ofList_toList]⟩
      rw [List.foldl_cons, ih, mem_add, hline, List.mem_cons]
      tauto
  refine (hfold _ KeySet.empty).trans ?_
  simp [KeySet.mem_def, KeySet.empty]

/-- What is loaded of a saved table is the table, exactly when no id has a line feed. -/
theorem mem_banLoad_banSave_iff (order : KeyOrder String) (hash : BanTable) :
    (∀ uid, uid ∈ banLoad (some (banSave order hash)) ↔ uid ∈ hash) ↔
      ∀ uid ∈ hash, '\n' ∉ uid.toList := by
  have hlisted : ∀ uid : String,
      uid.toList ∈ (order.list hash.members).map String.toList ↔ uid ∈ hash := by
    intro uid
    rw [List.mem_map_of_injective fun _ _ => String.toList_injective, (order.perm _).mem_iff]
    rfl
  have hlines := Lines.mem_read_terminate_iff '\n' ((order.list hash.members).map String.toList)
  simp only [mem_banLoad, toList_banSave, ← hlisted]
  refine ⟨?_, ?_⟩
  · intro h uid huid
    refine hlines.1 (fun text => ?_) uid.toList huid
    rw [← String.toList_ofList (l := text)]
    exact h _
  · intro h uid
    refine hlines.2 (fun text htext => ?_) uid.toList
    rw [← String.toList_ofList (l := text)] at htext ⊢
    exact h _ htext

/-! ## The invariant -/

/-- The banned ids are those that were hidden. -/
def Survives (s : SwBanned) : Prop := ∀ uid, s.isUidBanned uid = true ↔ uid ∈ s.hidden

/-- The file is what some table with the hidden ids leaves, or nothing was hidden. -/
def Saved (s : SwBanned) : Prop :=
  (s.file = none ∧ s.hidden = []) ∨
    ∃ order hash, s.file = some (banSave order hash) ∧ ∀ uid, uid ∈ hash ↔ uid ∈ s.hidden

/-- At a restart no hidden id has a line feed. -/
def RestartOk (s : SwBanned) : BanEvent → Prop
  | .hideItem _ _ => True
  | .restart => ∀ uid ∈ s.hidden, '\n' ∉ uid.toList

instance (s : SwBanned) : (e : BanEvent) → Decidable (s.RestartOk e)
  | .hideItem _ _ => .isTrue trivial
  | .restart => inferInstanceAs (Decidable (∀ uid ∈ s.hidden, '\n' ∉ uid.toList))

theorem survives_iff {s : SwBanned} : s.Survives ↔ ∀ uid, uid ∈ s.bannedUids ↔ uid ∈ s.hidden := by
  simp only [Survives, isUidBanned, mem_iff_isSome]

theorem survives_hideItem {s : SwBanned} (h : s.Survives) (uid : String) (order : KeyOrder String) :
    (s.hideItem uid order).Survives ∧ (s.hideItem uid order).Saved := by
  rw [survives_iff] at h
  have hmem : ∀ key, key ∈ s.bannedUids.add uid ↔ key ∈ s.hidden ++ [uid] := by
    intro key
    rw [mem_add, h, List.mem_append, List.mem_singleton]
  exact ⟨survives_iff.2 hmem, Or.inr ⟨order, _, rfl, hmem⟩⟩

/-- **A restart keeps the ban list exactly when no hidden id has a line feed.** -/
theorem survives_restart_iff {s : SwBanned} (hsaved : s.Saved) :
    s.restart.Survives ↔ ∀ uid ∈ s.hidden, '\n' ∉ uid.toList := by
  rw [survives_iff]
  show (∀ uid, uid ∈ banLoad s.file ↔ uid ∈ s.hidden) ↔ _
  rcases hsaved with ⟨hfile, hnil⟩ | ⟨order, hash, hfile, hhash⟩
  · rw [hfile, hnil]
    exact iff_of_true (fun uid => iff_of_false List.not_mem_nil List.not_mem_nil)
      fun uid huid => absurd huid List.not_mem_nil
  · have hload := mem_banLoad_banSave_iff order hash
    simp only [hhash] at hload
    rw [hfile]
    exact hload

/-! ## The main result -/

/-- **The ban list survives a run exactly when no id with a line feed is hidden before a
restart.** -/
theorem banListSurvives_iff (es : List BanEvent) :
    EveryState step Survives init es ↔ EveryStep step RestartOk init es := by
  refine everyState_iff_everyStep (I := fun s : SwBanned => s.Survives ∧ s.Saved)
    (fun s hs => hs.1) ?_ ?_ ?_
  · intro s e hs hok
    cases e with
    | hideItem uid order => exact survives_hideItem hs.1 uid order
    | restart => exact ⟨(survives_restart_iff hs.2).2 hok, hs.2⟩
  · intro s e hs hnext
    cases e with
    | hideItem uid order => trivial
    | restart => exact (survives_restart_iff hs.2).1 hnext
  · refine ⟨survives_iff.2 fun uid => ?_, Or.inl ⟨rfl, rfl⟩⟩
    exact iff_of_false List.not_mem_nil List.not_mem_nil

/-- An id with a line feed is hidden, and the service is started again. -/
def hiddenWithLineFeed : List BanEvent := [.hideItem "1\n2" (KeyOrder.stored String), .restart]

/-- Its two pieces are banned then, and it is not. -/
theorem hiddenWithLineFeed_not_survives :
    ¬ EveryState step Survives init hiddenWithLineFeed ∧
      (runFrom step init hiddenWithLineFeed).isUidBanned "1\n2" = false ∧
      (runFrom step init hiddenWithLineFeed).isUidBanned "1" = true := by
  have hbanned : (runFrom step init hiddenWithLineFeed).isUidBanned "1\n2" = false := by decide
  refine ⟨?_, hbanned, by decide⟩
  intro h
  have hlast := (h.last "1\n2").2 (by decide)
  rw [hbanned] at hlast
  cases hlast

end SwBanned

end LibSocialWeb
