import LibSocialWeb.Keystore.KeyData
import Mathlib.Data.List.AList

/-!
# Loading the key files (`libsocialweb-keystore/sw-keystore.c`)

A directory of keys has one file for each service. `load_keys_from_dir` goes through the children of
the directory, leaves out what is not a regular file or is a backup, and puts the key and the secret
of the others into a table.

**Errors.** `g_file_read` sets `error` when it fails. The loop goes on with the next child, but
nothing ever clears the variable, and it is tested again after the next call.

**Main result.** `keysLoaded_iff`: the table has the keys of all files that can be read, and no
others, exactly when no such file is listed after a key file that cannot be read.
`lookup_loadKeys`: of several directories the last one that has a service decides.
-/

namespace LibSocialWeb

/-- The keys of the services. -/
abbrev KeyTable := AList fun _ : String => KeyData

/-- A child of the directory; `contents` is what `g_file_read` gives access to. -/
structure KeyFileInfo where
  name : String
  isRegular : Bool
  isBackup : Bool
  contents : Except String (List UInt8)

/-- The variables of the loop. -/
structure KeyLoop where
  hash : KeyTable
  error : Option String

/-- The body of the loop. `g_file_read` leaves an error that is already set. -/
def KeyLoop.turn (s : KeyLoop) (info : KeyFileInfo) : KeyLoop :=
  if !info.isRegular || info.isBackup then s
  else
    match info.contents with
    | .error e => { s with error := some (s.error.getD e) }
    | .ok contents =>
      if s.error.isSome then s
      else { s with hash := s.hash.insert info.name (readKeyFile contents) }

/-- `load_keys_from_dir`, where `fenum` is what `g_file_enumerate_children` gives. -/
def loadKeysFromDir (hash : KeyTable) (fenum : Except String (List KeyFileInfo)) : KeyTable :=
  match fenum with
  | .error _ => hash
  | .ok children => (children.foldl KeyLoop.turn ⟨hash, none⟩).hash

/-! ## What should be loaded -/

namespace KeyFileInfo

variable (info : KeyFileInfo)

def isKeyFile : Bool := info.isRegular && !info.isBackup

/-- The key and the secret of a key file that can be read. -/
def keyData : Option KeyData :=
  if info.isKeyFile then info.contents.toOption.map readKeyFile else none

/-- A key file that cannot be read. -/
def Unreadable : Prop := info.isKeyFile = true ∧ info.contents.toOption = none

instance : Decidable info.Unreadable := inferInstanceAs (Decidable (_ ∧ _))

end KeyFileInfo

/-- The table has the keys of the files that can be read, under their names, and no others. -/
def KeysLoaded (children : List KeyFileInfo) (hash : KeyTable) : Prop :=
  (∀ info ∈ children, hash.lookup info.name = info.keyData) ∧
    ∀ name ∉ children.map KeyFileInfo.name, hash.lookup name = none

/-! ## One turn -/

namespace KeyLoop

variable {s : KeyLoop} {info : KeyFileInfo}

theorem skip_eq (info : KeyFileInfo) : (!info.isRegular || info.isBackup) = !info.isKeyFile := by
  rw [KeyFileInfo.isKeyFile, Bool.not_and, Bool.not_not]

/-- A key file that cannot be read leaves an error. -/
theorem turn_of_unreadable (h : info.Unreadable) :
    (s.turn info).hash = s.hash ∧ (s.turn info).error.isSome = true := by
  obtain ⟨hfile, hcontents⟩ := h
  rw [turn, skip_eq, hfile, if_neg (by decide)]
  cases hread : info.contents with
  | error e => exact ⟨rfl, rfl⟩
  | ok contents =>
    rw [hread] at hcontents
    cases hcontents

/-- Once there is an error, the table stays as it is. -/
theorem turn_of_error (info : KeyFileInfo) (h : s.error.isSome = true) :
    (s.turn info).hash = s.hash ∧ (s.turn info).error.isSome = true := by
  rw [turn]
  split_ifs
  · exact ⟨rfl, h⟩
  · cases info.contents with
    | error e => exact ⟨rfl, rfl⟩
    | ok contents => exact ⟨rfl, h⟩

/-- A turn without an error, before it or in it. -/
theorem turn_of_readable (hash : KeyTable) (h : ¬ info.Unreadable) :
    turn ⟨hash, none⟩ info = ⟨(info.keyData.map (hash.insert info.name)).getD hash, none⟩ := by
  rw [turn, skip_eq, KeyFileInfo.keyData]
  cases hfile : info.isKeyFile with
  | false => rfl
  | true =>
    cases hread : info.contents with
    | error e => exact absurd ⟨hfile, by rw [hread]; rfl⟩ h
    | ok contents => rfl

/-! ## The loop -/

theorem foldl_turn_of_error (children : List KeyFileInfo) (h : s.error.isSome = true) :
    (children.foldl turn s).hash = s.hash := by
  induction children generalizing s with
  | nil => rfl
  | cons info children ih =>
    obtain ⟨hhash, herror⟩ := turn_of_error info h
    rw [List.foldl_cons, ih herror, hhash]

/-- A turn changes nothing but the entry of its file. -/
theorem lookup_turn_of_ne {name : String} (hne : name ≠ info.name) :
    (s.turn info).hash.lookup name = s.hash.lookup name := by
  rw [turn]
  split_ifs with _ herror
  · rfl
  · cases info.contents <;> rfl
  · cases info.contents with
    | error e => rfl
    | ok contents => exact AList.lookup_insert_ne hne

theorem lookup_foldl_turn {children : List KeyFileInfo} {name : String}
    (h : name ∉ children.map KeyFileInfo.name) :
    (children.foldl turn s).hash.lookup name = s.hash.lookup name := by
  induction children generalizing s with
  | nil => rfl
  | cons info children ih =>
    rw [List.map_cons, List.mem_cons, not_or] at h
    rw [List.foldl_cons, ih h.2, lookup_turn_of_ne h.1]

end KeyLoop

open KeyLoop

/-- A turn without an error fills the entry of its file and leaves those of the others. -/
theorem lookup_keyData (hash : KeyTable) {info : KeyFileInfo}
    (hfresh : hash.lookup info.name = none) :
    ((info.keyData.map (hash.insert info.name)).getD hash).lookup info.name = info.keyData := by
  cases info.keyData with
  | none => exact hfresh
  | some data => exact AList.lookup_insert _

theorem lookup_keyData_of_ne (hash : KeyTable) {info : KeyFileInfo} {name : String}
    (hne : name ≠ info.name) :
    ((info.keyData.map (hash.insert info.name)).getD hash).lookup name = hash.lookup name := by
  cases info.keyData with
  | none => rfl
  | some data => exact AList.lookup_insert_ne hne

/-- The induction is on the listing. At a file that cannot be read the loop stops to fill the table,
so that no file after it may be one that can. -/
theorem lookup_foldl_turn_iff {children : List KeyFileInfo} (hash : KeyTable)
    (hnames : (children.map KeyFileInfo.name).Nodup)
    (hfresh : ∀ info ∈ children, hash.lookup info.name = none) :
    (∀ info ∈ children, (children.foldl turn ⟨hash, none⟩).hash.lookup info.name = info.keyData) ↔
      children.Pairwise fun earlier later => earlier.Unreadable → later.keyData = none := by
  induction children generalizing hash with
  | nil => exact iff_of_true (List.forall_mem_nil _) List.Pairwise.nil
  | cons info children ih =>
    rw [List.map_cons, List.nodup_cons] at hnames
    rw [List.forall_mem_cons] at hfresh
    rw [List.pairwise_cons, List.foldl_cons, List.forall_mem_cons]
    by_cases hunreadable : info.Unreadable
    · obtain ⟨hhash, herror⟩ := turn_of_unreadable (s := ⟨hash, none⟩) hunreadable
      have hnone : info.keyData = none := by
        rw [KeyFileInfo.keyData, hunreadable.2, Option.map_none, ite_self]
      rw [foldl_turn_of_error children herror, hhash]
      refine ⟨?_, ?_⟩
      · rintro ⟨-, hlookup⟩
        have hall : ∀ later ∈ children, later.keyData = none := fun later hmem =>
          (hlookup later hmem).symm.trans (hfresh.2 later hmem)
        exact ⟨fun later hmem _ => hall later hmem,
          List.pairwise_of_forall_mem_list fun _ _ later hmem _ => hall later hmem⟩
      · rintro ⟨hlater, -⟩
        refine ⟨hfresh.1.trans hnone.symm, ?_⟩
        intro later hmem
        rw [hfresh.2 later hmem, hlater later hmem hunreadable]
    · have hother : ∀ later ∈ children, later.name ≠ info.name := fun later hmem heq =>
        hnames.1 (heq ▸ List.mem_map_of_mem hmem)
      have hfresh' : ∀ later ∈ children,
          ((info.keyData.map (hash.insert info.name)).getD hash).lookup later.name = none :=
        fun later hmem =>
          (lookup_keyData_of_ne hash (hother later hmem)).trans (hfresh.2 later hmem)
      rw [turn_of_readable hash hunreadable, lookup_foldl_turn hnames.1, ih _ hnames.2 hfresh']
      exact and_congr
        (iff_of_true (lookup_keyData hash hfresh.1) fun _ _ h => absurd h hunreadable) Iff.rfl

/-- **The files that cannot be read must come last.** -/
theorem keysLoaded_iff {children : List KeyFileInfo}
    (hnames : (children.map KeyFileInfo.name).Nodup) :
    KeysLoaded children (loadKeysFromDir ∅ (.ok children)) ↔
      children.Pairwise fun earlier later => earlier.Unreadable → later.keyData = none := by
  rw [← lookup_foldl_turn_iff ∅ hnames fun _ _ => AList.lookup_empty _]
  refine and_iff_left ?_
  intro name hname
  exact (lookup_foldl_turn hname).trans (AList.lookup_empty name)

/-! ## All directories -/

/-- `load_keys`: the directories fill one table. -/
def loadKeys (dirs : List (Except String (List KeyFileInfo))) : KeyTable :=
  dirs.foldl loadKeysFromDir ∅

/-- The children of a directory that is there. -/
def listed : Except String (List KeyFileInfo) → List KeyFileInfo
  | .error _ => []
  | .ok children => children

/-- What a file says about a service. -/
def KeyFileInfo.keysOf (service : String) (info : KeyFileInfo) : Option KeyData :=
  if info.name = service then info.keyData else none

/-- Without errors a loop lets the last file of a service decide. -/
theorem lookup_foldl_turn_of_readable (service : String) {children : List KeyFileInfo}
    (hash : KeyTable) (hreadable : ∀ info ∈ children, ¬ info.Unreadable) :
    (children.foldl turn ⟨hash, none⟩).hash.lookup service =
      (children.reverse.findSome? (KeyFileInfo.keysOf service)).or (hash.lookup service) := by
  induction children generalizing hash with
  | nil => rfl
  | cons info children ih =>
    rw [List.forall_mem_cons] at hreadable
    have hturn : ((info.keyData.map (hash.insert info.name)).getD hash).lookup service =
        (info.keysOf service).or (hash.lookup service) := by
      unfold KeyFileInfo.keysOf
      split_ifs with hname
      · subst hname
        cases info.keyData with
        | none => rfl
        | some data => exact AList.lookup_insert _
      · exact lookup_keyData_of_ne hash (Ne.symm hname)
    rw [List.foldl_cons, turn_of_readable hash hreadable.1, ih _ hreadable.2, hturn,
      List.reverse_cons, List.findSome?_append, List.findSome?_singleton, Option.or_assoc]

theorem lookup_loadKeysFromDir (service : String) {fenum : Except String (List KeyFileInfo)}
    (hash : KeyTable) (hreadable : ∀ info ∈ listed fenum, ¬ info.Unreadable) :
    (loadKeysFromDir hash fenum).lookup service =
      ((listed fenum).reverse.findSome? (KeyFileInfo.keysOf service)).or (hash.lookup service) := by
  cases fenum with
  | error e => rfl
  | ok children => exact lookup_foldl_turn_of_readable service hash hreadable

/-- **The user's keys come before those of the system.** If every key file can be read, a service
has the keys of the last file for it, and the directory of the user is the last one. -/
theorem lookup_loadKeys (service : String) {dirs : List (Except String (List KeyFileInfo))}
    (hreadable : ∀ fenum ∈ dirs, ∀ info ∈ listed fenum, ¬ info.Unreadable) :
    (loadKeys dirs).lookup service =
      (dirs.flatMap listed).reverse.findSome? (KeyFileInfo.keysOf service) := by
  have hfold : ∀ hash : KeyTable, (dirs.foldl loadKeysFromDir hash).lookup service =
      ((dirs.flatMap listed).reverse.findSome? (KeyFileInfo.keysOf service)).or
        (hash.lookup service) := by
    induction dirs with
    | nil => exact fun _ => rfl
    | cons fenum dirs ih =>
      intro hash
      rw [List.forall_mem_cons] at hreadable
      rw [List.foldl_cons, ih hreadable.2, lookup_loadKeysFromDir service hash hreadable.1,
        List.flatMap_cons, List.reverse_append, List.findSome?_append, Option.or_assoc]
  exact (hfold ∅).trans (Option.or_none)

/-! ## Looking up a service -/

/-- `lookup_key_in_kernel`, where `blob` is what the keyring holds. The table keeps the answer. -/
def lookupKeyInKernel (hash : KeyTable) (service : String) (blob : Option (List UInt8)) :
    Option KeyData × KeyTable :=
  match blob with
  | none => (none, hash)
  | some buffer => (some (readKernelKey buffer), hash.insert service (readKernelKey buffer))

/-- `sw_keystore_get_key_secret`: the key and the secret, if there are any, and the table. -/
def getKeySecret (hash : KeyTable) (service : String) (blob : Option (List UInt8)) :
    Option KeyData × KeyTable :=
  match hash.lookup service with
  | some data => (some data, hash)
  | none => lookupKeyInKernel hash service blob

/-- A service gets the same answer again, whatever the keyring holds by then. -/
theorem getKeySecret_again {hash : KeyTable} {service : String} {blob : Option (List UInt8)}
    {data : KeyData} (h : (getKeySecret hash service blob).1 = some data)
    (later : Option (List UInt8)) :
    getKeySecret (getKeySecret hash service blob).2 service later =
      (some data, (getKeySecret hash service blob).2) := by
  cases hlookup : hash.lookup service with
  | some found =>
    simp only [getKeySecret, hlookup] at h ⊢
    rw [h]
  | none =>
    cases blob with
    | none =>
      simp only [getKeySecret, hlookup, lookupKeyInKernel] at h
      cases h
    | some buffer =>
      simp only [getKeySecret, hlookup, lookupKeyInKernel, AList.lookup_insert] at h ⊢
      rw [h]

/-! ## A directory with a file that cannot be read -/

/-- The file of Flickr can be read, and the one of Facebook cannot. -/
def flickrKeys : KeyFileInfo := ⟨"flickr", true, false, .ok [107, 10, 115, 10]⟩

def facebookKeys : KeyFileInfo := ⟨"facebook", true, false, .error "Permission denied"⟩

theorem keysLoaded_flickrFirst :
    KeysLoaded [flickrKeys, facebookKeys] (loadKeysFromDir ∅ (.ok [flickrKeys, facebookKeys])) :=
  (keysLoaded_iff (by decide)).2 (by decide)

/-- In the other order the key of Flickr is lost. -/
theorem not_keysLoaded_facebookFirst :
    ¬ ∀ children : List KeyFileInfo, (children.map KeyFileInfo.name).Nodup →
      KeysLoaded children (loadKeysFromDir ∅ (.ok children)) := by
  intro h
  have hlookup := (h [facebookKeys, flickrKeys] (by decide)).1 flickrKeys (by simp)
  revert hlookup
  decide

end LibSocialWeb
