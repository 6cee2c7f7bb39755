import LibSocialWeb.Lib.Run
import Mathlib.Data.List.Forall2
import Mathlib.Tactic.SplitIfs

/-!
# Uploads of the client library (`libsocialweb-client/sw-client-service.c`)

`_sw_client_service_upload` asks for the size of the file. `got_file_size_cb` then connects to the
progress signal and calls the method; from there one closure serves the reply to the method and the
handler of the signal. What completes the upload frees the closure, and the handler stays connected.

A handler reads the closure before it frees it. So a use of the freed closure begins with a read,
except in `_upload_file_cb`, which only writes the opid when the reply is good. What is read from
the freed closure is not known, and the model does not go on from there.

**Main result.** `completedOnce_iff`: an upload is completed once, and its closure is left alone
afterwards, exactly when nothing that reads the closure comes after the first completion, or, where
the handler could not be connected, when no terminal progress is sent for the upload.

`dbus_g_proxy_connect_signal` belongs to dbus-glib. It is the parameter `connects`: whether a
handler is connected, by the signals that were added to the proxy and the signal's name.
-/

namespace LibSocialWeb

open Transition

/-! ## The closure -/

/-- The two interfaces to upload with. -/
inductive SwServiceIface where
  | PHOTO_UPLOAD_IFACE
  | VIDEO_UPLOAD_IFACE
  deriving DecidableEq

inductive GFileType where
  | UNKNOWN
  | REGULAR
  | DIRECTORY
  | SYMBOLIC_LINK
  | SPECIAL
  | SHORTCUT
  | MOUNTABLE
  deriving DecidableEq

structure GFileInfo where
  fileType : GFileType
  size : UInt64
  deriving DecidableEq

/-- What the caller's `GAsyncReadyCallback` is scheduled with. -/
inductive UploadResult where
  | error (message : String)
  | done (sourceTag : SwServiceIface)
  deriving DecidableEq

inductive FreedUse where
  | read
  | write
  deriving DecidableEq

structure SwClientServiceCallClosure where
  iface : SwServiceIface
  filesize : UInt64
  opid : Int32
  deriving DecidableEq

/-- One upload: its closure and whether it is freed, the handler and the call that hold it, the
calls of `cb` and of `progress_cb`, and the uses of the freed closure. -/
structure ClientUpload where
  closure : SwClientServiceCallClosure
  freed : Bool
  connected : Bool
  called : Bool
  scheduled : List UploadResult
  progressed : List (Int64 × Int64)
  freedUses : List FreedUse
  deriving DecidableEq

namespace ClientUpload

/-- `_sw_client_service_upload` -/
def start (iface : SwServiceIface) : ClientUpload :=
  ⟨⟨iface, 0, 0⟩, false, false, false, [], [], []⟩

/-- `g_simple_async_*_in_idle` and `g_slice_free` -/
def complete (result : UploadResult) (u : ClientUpload) : ClientUpload :=
  { u with
    scheduled := u.scheduled ++ [result]
    freed := true }

def useFreed (use : FreedUse) (u : ClientUpload) : ClientUpload :=
  { u with freedUses := u.freedUses ++ [use] }

/-! ## The file -/

/-- The signals that `_sw_client_service_setup` adds to the proxy of the interface. -/
def addedSignals : SwServiceIface → List String
  | .PHOTO_UPLOAD_IFACE => ["PhotoUploadProgress"]
  | .VIDEO_UPLOAD_IFACE => []

def progressSignal : SwServiceIface → String
  | .PHOTO_UPLOAD_IFACE => "PhotoUploadProgress"
  | .VIDEO_UPLOAD_IFACE => "VideoUploadProgress"

/-- The handler of the progress signal is connected. -/
def canConnect (connects : List String → String → Bool) (iface : SwServiceIface) : Bool :=
  connects (addedSignals iface) (progressSignal iface)

/-- `got_file_size_cb` -/
def gotFileSizeCb (connects : List String → String → Bool) (info : Option GFileInfo)
    (u : ClientUpload) : ClientUpload :=
  match info with
  | none => u.complete (.error "Could not get file size information for file")
  | some info =>
    if info.fileType ≠ .REGULAR then
      u.complete (.error "File to upload is not a regular file")
    else
      { u with
        closure := { u.closure with filesize := info.size }
        connected := canConnect connects u.closure.iface
        called := true }

/-! ## The handlers -/

/-- The bytes that `_upload_file_progress_cb` reports: `(float) progress * closure->filesize` -/
def currentNumBytes (progress : Int32) (filesize : UInt64) : Int64 :=
  (Float32.ofInt progress.toInt * filesize.toFloat32).toModel.toInt64

/-- `_upload_file_progress_cb` -/
def uploadFileProgressCb (opid progress : Int32) (errorMessage : String) (u : ClientUpload) :
    ClientUpload :=
  if u.freed then u.useFreed .read
  else if opid ≠ u.closure.opid then u
  else if progress = -1 then u.complete (.error errorMessage)
  else
    let u := { u with
      progressed := u.progressed ++
        [(currentNumBytes progress u.closure.filesize, u.closure.filesize.toInt64)] }
    if progress = 100 then u.complete (.done u.closure.iface) else u

/-- `_upload_file_cb` -/
def uploadFileCb (reply : Except String Int32) (u : ClientUpload) : ClientUpload :=
  match reply with
  | .error message => if u.freed then u.useFreed .read else u.complete (.error message)
  | .ok opid =>
    if u.freed then u.useFreed .write
    else { u with closure := { u.closure with opid := opid } }

end ClientUpload

/-! ## The transition system -/

structure UploadProgress where
  opid : Int32
  progress : Int32
  errorMessage : String
  deriving DecidableEq

inductive UploadEvent where
  | reply (reply : Except String Int32)
  | progress (p : UploadProgress)

/-- One event: a reply needs a call, and a signal reaches a handler that is connected. -/
def ClientUpload.step (u : ClientUpload) : UploadEvent → ClientUpload
  | .reply reply => if u.called then u.uploadFileCb reply else u
  | .progress p =>
    if u.connected then u.uploadFileProgressCb p.opid p.progress p.errorMessage else u

/-- What comes from the proxy: signals before the reply, the reply, and signals after it. -/
inductive UploadTrace where
  | unanswered (before : List UploadProgress)
  | answered (before : List UploadProgress) (reply : Except String Int32)
      (after : List UploadProgress)

namespace UploadTrace

def events : UploadTrace → List UploadEvent
  | unanswered before => before.map .progress
  | answered before reply after => before.map .progress ++ .reply reply :: after.map .progress

end UploadTrace

/-- An upload from the file's size on. -/
def uploadRun (connects : List String → String → Bool) (iface : SwServiceIface)
    (info : Option GFileInfo) (trace : UploadTrace) : ClientUpload :=
  runFrom ClientUpload.step ((ClientUpload.start iface).gotFileSizeCb connects info) trace.events

/-! ## The property and the condition -/

/-- A terminal value for this opid. -/
def UploadProgress.TerminalFor (opid : Int32) (p : UploadProgress) : Prop :=
  p.opid = opid ∧ (p.progress = -1 ∨ p.progress = 100)

instance (opid : Int32) (p : UploadProgress) : Decidable (p.TerminalFor opid) :=
  inferInstanceAs (Decidable (_ ∧ _))

/-- No signal of the list is terminal for the opid. -/
def NoTerminal (opid : Int32) (ps : List UploadProgress) : Prop := ∀ p ∈ ps, ¬ p.TerminalFor opid

instance (opid : Int32) (ps : List UploadProgress) : Decidable (NoTerminal opid ps) :=
  inferInstanceAs (Decidable (∀ p ∈ ps, _))

/-- No signal of the list comes after one that is terminal for the opid. -/
def EndsAtTerminal (opid : Int32) : List UploadProgress → Prop
  | [] => True
  | p :: ps => if p.TerminalFor opid then ps = [] else EndsAtTerminal opid ps

instance instDecidableEndsAtTerminal (opid : Int32) :
    ∀ ps, Decidable (EndsAtTerminal opid ps)
  | [] => isTrue trivial
  | p :: ps =>
    have : Decidable (EndsAtTerminal opid ps) := instDecidableEndsAtTerminal opid ps
    inferInstanceAs (Decidable (if p.TerminalFor opid then ps = [] else EndsAtTerminal opid ps))

/-- The upload is to be completed: there is an error reply, or a terminal value for the opid of the
reply after it. -/
def UploadTrace.Due : UploadTrace → Prop
  | unanswered _ => False
  | answered _ (.error _) _ => True
  | answered _ (.ok opid) after => ¬ NoTerminal opid after

/-- The callback is scheduled at most once, and once when it is due, and no handler reads or frees
the closure after it has been freed. -/
structure CompletedOnce (trace : UploadTrace) (u : ClientUpload) : Prop where
  atMostOnce : u.scheduled.length ≤ 1
  whenDue : trace.Due → u.scheduled.length = 1
  untouched : ∀ use ∈ u.freedUses, use = .write

/-- Nothing that reads the closure comes after what completes the upload. Before the reply the
closure's opid is 0. -/
def UploadTrace.Settles (connected : Bool) : UploadTrace → Prop
  | unanswered before => connected = true → EndsAtTerminal 0 before
  | answered before (.error _) after => connected = true → NoTerminal 0 before ∧ after = []
  | answered before (.ok opid) after =>
    if connected then
      NoTerminal 0 before ∧ EndsAtTerminal opid after ∨ EndsAtTerminal 0 before ∧ after = []
    else NoTerminal opid after

/-- The file to upload is there. -/
def IsRegular (info : Option GFileInfo) : Prop := ∃ i, info = some i ∧ i.fileType = .REGULAR

/-! ## Phases -/

/-- An upload waits for a terminal value of its opid, or is completed, or its closure was read after
that. -/
inductive UploadPhase where
  | waiting (opid : Int32)
  | done
  | spoiled
  deriving DecidableEq

namespace UploadPhase

def step (connected : Bool) : UploadPhase → UploadEvent → UploadPhase
  | waiting opid, .progress p => if connected ∧ p.TerminalFor opid then done else waiting opid
  | waiting _, .reply (.error _) => done
  | waiting _, .reply (.ok opid) => waiting opid
  | done, .progress _ => if connected then spoiled else done
  | done, .reply (.error _) => spoiled
  | done, .reply (.ok _) => done
  | spoiled, _ => spoiled

/-- The states of each phase. -/
def Holds : UploadPhase → ClientUpload → Prop
  | waiting opid, u =>
    u.freed = false ∧ u.closure.opid = opid ∧ u.scheduled = [] ∧ u.freedUses = []
  | done, u => u.freed = true ∧ u.scheduled.length = 1 ∧ ∀ use ∈ u.freedUses, use = .write
  | spoiled, u => u.freed = true ∧ .read ∈ u.freedUses

end UploadPhase

/-- The upload is in the phase, its call was made, and the handler is connected or not. -/
structure InPhase (connected : Bool) (u : ClientUpload) (phase : UploadPhase) : Prop where
  connected : u.connected = connected
  called : u.called = true
  holds : phase.Holds u

open UploadPhase ClientUpload

variable {connected : Bool} {u : ClientUpload}

/-- An upload that waits is completed. -/
theorem holds_complete {opid : Int32} (h : (waiting opid).Holds u) (result : UploadResult) :
    done.Holds (u.complete result) := by
  obtain ⟨-, -, hscheduled, huses⟩ := h
  refine ⟨rfl, ?_, ?_⟩
  · show (u.scheduled ++ [result]).length = 1
    rw [hscheduled]
    rfl
  · intro use hmem
    have hmem : use ∈ u.freedUses := hmem
    rw [huses] at hmem
    cases hmem

/-- The freed closure is read. -/
theorem holds_read (hfreed : u.freed = true) : spoiled.Holds (u.useFreed .read) :=
  ⟨hfreed, List.mem_append_right _ (List.mem_singleton_self _)⟩

theorem inPhase_progress {phase : UploadPhase} (h : InPhase true u phase) (p : UploadProgress) :
    InPhase true (u.uploadFileProgressCb p.opid p.progress p.errorMessage)
      (phase.step true (.progress p)) := by
  obtain ⟨hconnected, hcalled, hholds⟩ := h
  unfold uploadFileProgressCb
  cases phase with
  | waiting opid =>
    have hwaiting := hholds
    obtain ⟨hfreed, rfl, hscheduled, huses⟩ := hholds
    rw [if_neg (by rw [hfreed]; exact Bool.false_ne_true), UploadPhase.step]
    by_cases hne : p.opid ≠ u.closure.opid
    · rw [if_pos hne, if_neg fun hand => hne hand.2.1]
      exact ⟨hconnected, hcalled, hwaiting⟩
    · have heq : p.opid = u.closure.opid := not_not.1 hne
      rw [if_neg hne]
      by_cases herror : p.progress = -1
      · rw [if_pos herror, if_pos ⟨rfl, heq, Or.inl herror⟩]
        exact ⟨hconnected, hcalled, holds_complete hwaiting _⟩
      · rw [if_neg herror]
        dsimp only
        by_cases hdone : p.progress = 100
        · rw [if_pos hdone, if_pos ⟨rfl, heq, Or.inr hdone⟩]
          exact ⟨hconnected, hcalled, holds_complete ⟨hfreed, rfl, hscheduled, huses⟩ _⟩
        · rw [if_neg hdone, if_neg fun hand => hand.2.2.elim herror hdone]
          exact ⟨hconnected, hcalled, hfreed, rfl, hscheduled, huses⟩
  | done =>
    obtain ⟨hfreed, -, -⟩ := hholds
    rw [if_pos hfreed]
    exact ⟨hconnected, hcalled, holds_read hfreed⟩
  | spoiled =>
    obtain ⟨hfreed, -⟩ := hholds
    rw [if_pos hfreed]
    exact ⟨hconnected, hcalled, holds_read hfreed⟩

theorem inPhase_reply {phase : UploadPhase} (h : InPhase connected u phase)
    (reply : Except String Int32) :
    InPhase connected (u.uploadFileCb reply) (phase.step connected (.reply reply)) := by
  obtain ⟨hconnected, hcalled, hholds⟩ := h
  unfold uploadFileCb
  cases phase with
  | waiting opid =>
    have hno : ¬ u.freed = true := by
      rw [hholds.1]
      exact Bool.false_ne_true
    cases reply with
    | error message =>
      dsimp only
      rw [if_neg hno]
      exact ⟨hconnected, hcalled, holds_complete hholds _⟩
    | ok opid' =>
      obtain ⟨hfreed, -, hscheduled, huses⟩ := hholds
      dsimp only
      rw [if_neg hno]
      exact ⟨hconnected, hcalled, hfreed, rfl, hscheduled, huses⟩
  | done =>
    obtain ⟨hfreed, hlength, hwrites⟩ := hholds
    cases reply with
    | error message =>
      dsimp only
      rw [if_pos hfreed]
      exact ⟨hconnected, hcalled, holds_read hfreed⟩
    | ok opid' =>
      dsimp only
      rw [if_pos hfreed]
      refine ⟨hconnected, hcalled, hfreed, hlength, ?_⟩
      intro use hmem
      rcases List.mem_append.1 hmem with hmem | hmem
      · exact hwrites use hmem
      · exact List.mem_singleton.1 hmem
  | spoiled =>
    obtain ⟨hfreed, hread⟩ := hholds
    cases reply with
    | error message =>
      dsimp only
      rw [if_pos hfreed]
      exact ⟨hconnected, hcalled, holds_read hfreed⟩
    | ok opid' =>
      dsimp only
      rw [if_pos hfreed]
      exact ⟨hconnected, hcalled, hfreed, List.mem_append_left _ hread⟩

theorem inPhase_step {phase : UploadPhase} (h : InPhase connected u phase) (e : UploadEvent) :
    InPhase connected (u.step e) (phase.step connected e) := by
  unfold ClientUpload.step
  cases e with
  | reply reply =>
    dsimp only
    rw [if_pos h.called]
    exact inPhase_reply h reply
  | progress p =>
    dsimp only
    cases connected with
    | true =>
      rw [if_pos h.connected]
      exact inPhase_progress h p
    | false =>
      rw [h.connected, if_neg Bool.false_ne_true]
      cases phase with
      | waiting opid =>
        rw [UploadPhase.step, if_neg fun hand => Bool.false_ne_true hand.1]
        exact h
      | done => exact h
      | spoiled => exact h

/-- The phases are those of the upload, along every run. -/
theorem inPhase_run {phase : UploadPhase} (h : InPhase connected u phase) (es : List UploadEvent) :
    InPhase connected (runFrom ClientUpload.step u es)
      (runFrom (UploadPhase.step connected) phase es) := by
  refine related_runFrom ?_ h (List.forall₂_same.2 fun e _ => rfl)
  intro u phase e f h heq
  rw [← heq]
  exact inPhase_step h e

theorem inPhase_start {connects : List String → String → Bool} {iface : SwServiceIface}
    {info : GFileInfo} (hregular : info.fileType = .REGULAR) :
    InPhase (canConnect connects iface) ((start iface).gotFileSizeCb connects (some info))
      (.waiting 0) := by
  unfold gotFileSizeCb
  dsimp only
  rw [if_neg (not_not.2 hregular)]
  exact ⟨rfl, rfl, rfl, rfl, rfl, rfl⟩

/-! ## The last phase -/

/-- The phases after which the property holds. -/
def Good (trace : UploadTrace) (phase : UploadPhase) : Prop :=
  phase = .done ∨ (∃ opid, phase = .waiting opid) ∧ ¬ trace.Due

theorem good_waiting {trace : UploadTrace} {opid : Int32} :
    Good trace (.waiting opid) ↔ ¬ trace.Due := by
  simp [Good]

theorem good_done {trace : UploadTrace} : Good trace .done := Or.inl rfl

theorem not_good_spoiled {trace : UploadTrace} : ¬ Good trace .spoiled := by
  simp [Good]

/-- The property, read off the last phase. -/
theorem completedOnce_iff_phase {trace : UploadTrace} {phase : UploadPhase}
    (h : InPhase connected u phase) : CompletedOnce trace u ↔ Good trace phase := by
  cases phase with
  | waiting opid =>
    obtain ⟨-, -, hscheduled, huses⟩ := h.holds
    refine ⟨?_, ?_⟩
    · intro honce
      refine Or.inr ⟨⟨opid, rfl⟩, fun hdue => ?_⟩
      have hlength := honce.whenDue hdue
      rw [hscheduled] at hlength
      cases hlength
    · intro hor
      rcases hor with hor | hor
      · cases hor
      · refine ⟨?_, fun hdue => absurd hdue hor.2, ?_⟩
        · rw [hscheduled]
          exact Nat.zero_le 1
        · intro use hmem
          rw [huses] at hmem
          cases hmem
  | done =>
    obtain ⟨-, hlength, hwrites⟩ := h.holds
    exact ⟨fun _ => Or.inl rfl, fun _ => ⟨Nat.le_of_eq hlength, fun _ => hlength, hwrites⟩⟩
  | spoiled =>
    refine ⟨?_, ?_⟩
    · intro honce
      cases honce.untouched _ h.holds.2
    · intro hor
      rcases hor with hor | ⟨⟨opid, hor⟩, -⟩ <;> cases hor

theorem run_spoiled (es : List UploadEvent) :
    runFrom (UploadPhase.step connected) .spoiled es = .spoiled := by
  induction es with
  | nil => rfl
  | cons e es ih => exact ih

theorem run_done (ps : List UploadProgress) :
    runFrom (UploadPhase.step true) .done (ps.map .progress) =
      if ps = [] then .done else .spoiled := by
  cases ps with
  | nil => rfl
  | cons p ps =>
    rw [if_neg (List.cons_ne_nil p ps)]
    exact run_spoiled _

theorem noTerminal_cons {opid : Int32} {p : UploadProgress} {ps : List UploadProgress} :
    NoTerminal opid (p :: ps) ↔ ¬ p.TerminalFor opid ∧ NoTerminal opid ps :=
  List.forall_mem_cons

theorem run_waiting (opid : Int32) (ps : List UploadProgress) :
    runFrom (UploadPhase.step true) (.waiting opid) (ps.map .progress) =
      if NoTerminal opid ps then .waiting opid
      else if EndsAtTerminal opid ps then .done else .spoiled := by
  induction ps with
  | nil => rfl
  | cons p ps ih =>
    rw [List.map_cons, runFrom_cons, UploadPhase.step]
    by_cases hp : p.TerminalFor opid
    · rw [if_pos ⟨rfl, hp⟩, run_done]
      simp only [noTerminal_cons, EndsAtTerminal, hp, not_true_eq_false, false_and, if_false,
        if_true]
    · rw [if_neg fun hand => hp hand.2, ih]
      simp only [noTerminal_cons, EndsAtTerminal, hp, not_false_eq_true, true_and, if_false]

/-- Without a handler, signals change nothing. -/
theorem run_unconnected (phase : UploadPhase) (ps : List UploadProgress) :
    runFrom (UploadPhase.step false) phase (ps.map .progress) = phase := by
  induction ps with
  | nil => rfl
  | cons p ps ih =>
    rw [List.map_cons, runFrom_cons]
    have hstep : phase.step false (.progress p) = phase := by
      cases phase with
      | waiting opid =>
        rw [UploadPhase.step, if_neg fun hand => Bool.false_ne_true hand.1]
      | done => rfl
      | spoiled => rfl
    rw [hstep, ih]

theorem endsAtTerminal_of_noTerminal {opid : Int32} {ps : List UploadProgress}
    (h : NoTerminal opid ps) : EndsAtTerminal opid ps := by
  induction ps with
  | nil => trivial
  | cons p ps ih =>
    obtain ⟨hp, hps⟩ := noTerminal_cons.1 h
    rw [EndsAtTerminal, if_neg hp]
    exact ih hps

theorem good_unanswered (before : List UploadProgress) :
    Good (.unanswered before)
      (runFrom (UploadPhase.step connected) (.waiting 0) (UploadTrace.unanswered before).events) ↔
      (UploadTrace.unanswered before).Settles connected := by
  unfold UploadTrace.events UploadTrace.Settles
  dsimp only
  cases connected with
  | true =>
    rw [run_waiting]
    split_ifs with hno hends
    · exact iff_of_true (good_waiting.2 id) fun _ => endsAtTerminal_of_noTerminal hno
    · exact iff_of_true good_done fun _ => hends
    · exact iff_of_false not_good_spoiled fun h => hends (h rfl)
  | false =>
    rw [run_unconnected]
    exact iff_of_true (good_waiting.2 id) fun h => absurd h Bool.false_ne_true

theorem good_error (before : List UploadProgress) (message : String)
    (after : List UploadProgress) :
    Good (.answered before (.error message) after) (runFrom (UploadPhase.step connected)
      (.waiting 0) (UploadTrace.answered before (.error message) after).events) ↔
      (UploadTrace.answered before (.error message) after).Settles connected := by
  unfold UploadTrace.events UploadTrace.Settles
  dsimp only
  rw [runFrom_append, runFrom_cons]
  cases connected with
  | true =>
    rw [run_waiting]
    split_ifs with hno hends
    · show Good _ (runFrom _ UploadPhase.done _) ↔ _
      rw [run_done]
      split_ifs with hafter
      · exact iff_of_true good_done fun _ => ⟨hno, hafter⟩
      · exact iff_of_false not_good_spoiled fun h => hafter (h rfl).2
    · show Good _ (runFrom _ UploadPhase.spoiled _) ↔ _
      rw [run_spoiled]
      exact iff_of_false not_good_spoiled fun h => hno (h rfl).1
    · show Good _ (runFrom _ UploadPhase.spoiled _) ↔ _
      rw [run_spoiled]
      exact iff_of_false not_good_spoiled fun h => hno (h rfl).1
  | false =>
    rw [run_unconnected, run_unconnected]
    exact iff_of_true good_done fun h => absurd h Bool.false_ne_true

theorem good_ok (before : List UploadProgress) (opid : Int32) (after : List UploadProgress) :
    Good (.answered before (.ok opid) after) (runFrom (UploadPhase.step connected)
      (.waiting 0) (UploadTrace.answered before (.ok opid) after).events) ↔
      (UploadTrace.answered before (.ok opid) after).Settles connected := by
  unfold UploadTrace.events UploadTrace.Settles
  dsimp only
  rw [runFrom_append, runFrom_cons]
  cases connected with
  | true =>
    rw [run_waiting, if_pos rfl]
    split_ifs with hno hends
    · -- The signals before the reply complete nothing: it depends on those after it.
      show Good _ (runFrom _ (UploadPhase.waiting opid) _) ↔ _
      rw [run_waiting]
      split_ifs with hno' hends'
      · exact iff_of_true (good_waiting.2 (not_not.2 hno'))
          (Or.inl ⟨hno, endsAtTerminal_of_noTerminal hno'⟩)
      · exact iff_of_true good_done (Or.inl ⟨hno, hends'⟩)
      · refine iff_of_false not_good_spoiled ?_
        intro h
        rcases h with h | h
        · exact hends' h.2
        · rw [h.2] at hends'
          exact hends' trivial
    · show Good _ (runFrom _ UploadPhase.done _) ↔ _
      rw [run_done]
      split_ifs with hafter
      · exact iff_of_true good_done (Or.inr ⟨hends, hafter⟩)
      · refine iff_of_false not_good_spoiled ?_
        intro h
        rcases h with h | h
        · exact hno h.1
        · exact hafter h.2
    · show Good _ (runFrom _ UploadPhase.spoiled _) ↔ _
      rw [run_spoiled]
      refine iff_of_false not_good_spoiled ?_
      intro h
      rcases h with h | h
      · exact hno h.1
      · exact hends h.1
  | false =>
    rw [run_unconnected, run_unconnected, if_neg Bool.false_ne_true]
    exact good_waiting.trans not_not

/-! ## The main result -/

/-- Where there is no file to upload, the upload is completed at once, and there is no call. -/
theorem completedOnce_of_not_isRegular {connects : List String → String → Bool}
    {iface : SwServiceIface} {info : Option GFileInfo} (hno : ¬ IsRegular info)
    (trace : UploadTrace) : CompletedOnce trace (uploadRun connects iface info trace) := by
  have hcompleted : ∃ result,
      (start iface).gotFileSizeCb connects info = (start iface).complete result := by
    unfold gotFileSizeCb
    cases info with
    | none => exact ⟨_, rfl⟩
    | some i =>
      dsimp only
      rw [if_pos fun hregular => hno ⟨i, rfl, hregular⟩]
      exact ⟨_, rfl⟩
  obtain ⟨result, hcompleted⟩ := hcompleted
  have hstep : ∀ es : List UploadEvent,
      runFrom ClientUpload.step ((start iface).complete result) es =
        (start iface).complete result := by
    intro es
    induction es with
    | nil => rfl
    | cons e es ih => cases e <;> exact ih
  unfold uploadRun
  rw [hcompleted, hstep]
  exact ⟨Nat.le_refl 1, fun _ => rfl, fun use hmem => by cases hmem⟩

/-- **Main result.** For every order of reply and signals, the upload is completed once, and its
closure not used after that, exactly when there is no file to upload or the trace settles. -/
theorem completedOnce_iff (connects : List String → String → Bool) (iface : SwServiceIface)
    (info : Option GFileInfo) (trace : UploadTrace) :
    CompletedOnce trace (uploadRun connects iface info trace) ↔
      (IsRegular info → trace.Settles (canConnect connects iface)) := by
  by_cases hregular : IsRegular info
  · obtain ⟨i, rfl, htype⟩ := hregular
    refine (completedOnce_iff_phase (inPhase_run (inPhase_start htype) trace.events)).trans ?_
    refine Iff.trans ?_ (forall_prop_of_true ⟨i, rfl, htype⟩).symm
    cases trace with
    | unanswered before => exact good_unanswered before
    | answered before reply after =>
      cases reply with
      | error message => exact good_error before message after
      | ok opid => exact good_ok before opid after
  · exact iff_of_true (completedOnce_of_not_isRegular hregular trace)
      fun h => absurd h hregular

/-- dbus-glib connects handlers to the signals that were added. -/
def connectsAdded (added : List String) (signalName : String) : Bool := decide (signalName ∈ added)

/-- The upload is completed, and another upload has got to 10 percent. -/
def otherAfterwards : UploadTrace := .answered [] (.ok 1) [⟨1, 100, ""⟩, ⟨2, 10, ""⟩]

/-- The signal of the other upload is compared with the opid in the freed closure. -/
theorem otherAfterwards_readsFreed :
    ¬ ∀ (iface : SwServiceIface) (info : Option GFileInfo) (trace : UploadTrace),
      CompletedOnce trace (uploadRun connectsAdded iface info trace) := by
  intro hall
  have hread : FreedUse.read ∈ (uploadRun connectsAdded .PHOTO_UPLOAD_IFACE
      (some ⟨.REGULAR, 1000⟩) otherAfterwards).freedUses := by decide +kernel
  cases (hall _ _ _).untouched _ hread

end LibSocialWeb
