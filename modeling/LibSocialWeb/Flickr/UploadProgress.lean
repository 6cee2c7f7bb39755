import LibSocialWeb.Lib.Binary64

/-!
# Progress of uploads to Flickr (`services/flickr/flickr.c`)

librest calls the callback of an upload for each chunk that it has sent, and once more at the end.
The callbacks for photos and videos report the share that was sent, as a percentage, or -1 and the
message of an error. To clients 100 means that the upload is complete.

**Percentages.** `gint percent = (gdouble) uploaded / (gdouble) total * 100` is computed in doubles
and truncated. It is monotone in `uploaded`, and it is 100 exactly when `uploaded` and `total` are
converted to the same double.

**Main result.** `endsOnce_iff`: the values that are emitted end with the one terminal value exactly
when no chunk is reported whose `uploaded` is converted to the same double as `total`.
-/

namespace LibSocialWeb

open Rounding Binary64

/-! ## The callbacks -/

/-- The arguments of a `RestProxyCallUploadCallback`. -/
structure UploadCallback where
  total : UInt64
  uploaded : UInt64
  error : Option String
  deriving DecidableEq

inductive ProgressSignal where
  | photoUploadProgress (opid progress : Int32) (errorMessage : String)
  | videoUploadProgress (opid progress : Int32) (errorMessage : String)
  deriving DecidableEq

namespace ProgressSignal

def opid : ProgressSignal → Int32
  | photoUploadProgress opid _ _ => opid
  | videoUploadProgress opid _ _ => opid

def progress : ProgressSignal → Int32
  | photoUploadProgress _ progress _ => progress
  | videoUploadProgress _ progress _ => progress

end ProgressSignal

/-- `gint percent = (gdouble) uploaded / (gdouble) total * 100;` -/
def percent (uploaded total : UInt64) : Int32 :=
  (uploaded.toFloat / total.toFloat * 100).toModel.toInt32

/-- What `on_photo_upload_cb` and `on_video_upload_cb` have in common. -/
def onUploadCb (emitUploadProgress : Int32 → Int32 → String → ProgressSignal) (opid : Int32)
    (call : UploadCallback) : ProgressSignal :=
  match call.error with
  | some error => emitUploadProgress opid (-1) error
  | none => emitUploadProgress opid (percent call.uploaded call.total) ""

/-- `on_photo_upload_cb` -/
def onPhotoUploadCb : Int32 → UploadCallback → ProgressSignal :=
  onUploadCb .photoUploadProgress

/-- `on_video_upload_cb` -/
def onVideoUploadCb : Int32 → UploadCallback → ProgressSignal :=
  onUploadCb .videoUploadProgress

/-! ## Runs of the callback -/

/-- How librest's upload ends. -/
inductive UploadOutcome where
  | failed (uploaded : UInt64) (message : String)
  | complete
  deriving DecidableEq

/-- One upload of librest: the chunks that it reports, and how it ends. -/
structure RestUpload where
  total : UInt64
  chunks : List UInt64
  outcome : UploadOutcome
  total_pos : 0 < total
  chunks_le : ∀ c ∈ chunks, c ≤ total
  chunks_mono : chunks.Pairwise (· ≤ ·)

namespace RestUpload

/-- The last call of the callback. -/
def finalCall (u : RestUpload) : UploadCallback :=
  match u.outcome with
  | .failed uploaded message => ⟨u.total, uploaded, some message⟩
  | .complete => ⟨u.total, u.total, none⟩

/-- The calls of the callback. -/
def calls (u : RestUpload) : List UploadCallback :=
  u.chunks.map (fun uploaded => ⟨u.total, uploaded, none⟩) ++ [u.finalCall]

/-- The value that tells how the upload ended. -/
def terminal (u : RestUpload) : Int32 :=
  match u.outcome with
  | .failed _ _ => -1
  | .complete => 100

end RestUpload

/-- The progress values for the opid among the signals. -/
def progressValues (opid : Int32) (signals : List ProgressSignal) : List Int32 :=
  (signals.filter fun s => s.opid = opid).map ProgressSignal.progress

/-- One terminal value comes, at the end, and tells how the upload ended; the values before it do
not fall and are from 0 to 99. -/
def EndsOnce (u : RestUpload) (values : List Int32) : Prop :=
  ∃ before, values = before ++ [u.terminal] ∧ before.Pairwise (· ≤ ·) ∧
    ∀ value ∈ before, 0 ≤ value ∧ value ≤ 99

/-! ## Percentages -/

variable {uploaded uploaded' total : UInt64}

/-- The double that the integer is converted to. -/
def double (n : UInt64) : ℚ := roundTo 52 n.toNat

theorem toNat_pos (h : 0 < uploaded) : (0 : ℚ) < uploaded.toNat := by
  exact_mod_cast UInt64.lt_iff_toNat_lt.1 h

theorem one_le_double (h : 0 < uploaded) : 1 ≤ double uploaded := by
  have hone : (1 : ℚ) ≤ uploaded.toNat := by
    exact_mod_cast UInt64.lt_iff_toNat_lt.1 h
  calc (1 : ℚ) = roundTo 52 1 := (hasPrecision_two_zpow 0).roundTo_eq.symm
    _ ≤ double uploaded := roundTo_mono one_pos hone

theorem double_le (h : 0 < uploaded) : double uploaded ≤ 2 ^ 64 := by
  have hle : (uploaded.toNat : ℚ) ≤ 2 ^ 64 := by
    exact_mod_cast uploaded.toNat_lt.le
  calc double uploaded ≤ roundTo 52 (2 ^ 64) := roundTo_mono (toNat_pos h) hle
    _ = 2 ^ 64 := (hasPrecision_two_zpow 64).roundTo_eq

theorem double_mono (h : 0 < uploaded) (hle : uploaded ≤ uploaded') :
    double uploaded ≤ double uploaded' := by
  refine roundTo_mono (toNat_pos h) ?_
  exact_mod_cast UInt64.le_iff_toNat_le.1 hle

/-- The share that was sent, before it is multiplied by 100. -/
def share (uploaded total : UInt64) : ℚ := roundTo 52 (double uploaded / double total)

theorem double_pos (h : 0 < uploaded) : 0 < double uploaded := one_pos.trans_le (one_le_double h)

theorem ratio_pos (h : 0 < uploaded) (hle : uploaded ≤ total) :
    0 < double uploaded / double total :=
  div_pos (double_pos h) (double_pos (UInt64.lt_of_lt_of_le h hle))

theorem ratio_le_one (h : 0 < uploaded) (hle : uploaded ≤ total) :
    double uploaded / double total ≤ 1 :=
  (div_le_one (double_pos (UInt64.lt_of_lt_of_le h hle))).2 (double_mono h hle)

theorem le_ratio (h : 0 < uploaded) (hle : uploaded ≤ total) :
    2 ^ (-64 : ℤ) ≤ double uploaded / double total := by
  have htotal := UInt64.lt_of_lt_of_le h hle
  rw [le_div_iff₀ (double_pos htotal)]
  calc (2 : ℚ) ^ (-64 : ℤ) * double total ≤ 2 ^ (-64 : ℤ) * 2 ^ 64 :=
        mul_le_mul_of_nonneg_left (double_le htotal) (two_zpow_pos _).le
    _ = 1 := by norm_num
    _ ≤ double uploaded := one_le_double h

theorem share_le_one (h : 0 < uploaded) (hle : uploaded ≤ total) : share uploaded total ≤ 1 := by
  calc share uploaded total ≤ roundTo 52 1 :=
        roundTo_mono (ratio_pos h hle) (ratio_le_one h hle)
    _ = 1 := (hasPrecision_two_zpow 0).roundTo_eq

theorem le_share (h : 0 < uploaded) (hle : uploaded ≤ total) :
    2 ^ (-64 : ℤ) ≤ share uploaded total := by
  calc (2 : ℚ) ^ (-64 : ℤ) = roundTo 52 (2 ^ (-64 : ℤ)) :=
        (hasPrecision_two_zpow _).roundTo_eq.symm
    _ ≤ share uploaded total := roundTo_mono (two_zpow_pos _) (le_ratio h hle)

theorem share_pos (h : 0 < uploaded) (hle : uploaded ≤ total) : 0 < share uploaded total :=
  (two_zpow_pos _).trans_le (le_share h hle)

theorem isDouble_hundred : IsDouble 100 100 := by
  have hsame : (100 : Float) = (100 : UInt64).toFloat := by decide +kernel
  have hprecision : HasPrecision 52 (100 : ℚ) := by
    exact_mod_cast hasPrecision_natCast (p := 52) (n := 100) (by norm_num) (by norm_num)
  have hdouble := isDouble_toFloat (n := 100) (by decide)
  rwa [← hsame, show (((100 : UInt64).toNat : ℕ) : ℚ) = 100 from rfl,
    hprecision.roundTo_eq] at hdouble

theorem isDouble_share (h : 0 < uploaded) (hle : uploaded ≤ total) :
    IsDouble (uploaded.toFloat / total.toFloat) (share uploaded total) := by
  have htotal := UInt64.lt_of_lt_of_le h hle
  have hone : (2 : ℚ) ^ (0 : ℤ) = 1 := zpow_zero 2
  have huploaded := log_bounds (hone.le.trans (one_le_double h))
    ((double_le h).trans_eq (zpow_natCast 2 64).symm)
  have htotal' := log_bounds (hone.le.trans (one_le_double htotal))
    ((double_le htotal).trans_eq (zpow_natCast 2 64).symm)
  refine (isDouble_toFloat h).div (isDouble_toFloat htotal) ?_ ?_
  · show -1021 ≤ Int.log 2 (double uploaded) - Int.log 2 (double total)
    push_cast at huploaded htotal'
    omega
  · exact inRange_of_bounds (le_ratio h hle) ((ratio_le_one h hle).trans hone.ge) (by norm_num)
      (by norm_num)

/-- The percentage, by the share. -/
theorem toInt_percent (h : 0 < uploaded) (hle : uploaded ≤ total) :
    (percent uploaded total).toInt = ⌊roundTo 52 (share uploaded total * 100)⌋ := by
  have hlo : (2 : ℚ) ^ (-64 : ℤ) ≤ share uploaded total * 100 := by
    linarith [le_share h hle, share_pos h hle]
  have hhi : share uploaded total * 100 ≤ 2 ^ (7 : ℤ) := by
    have hseven : (2 : ℚ) ^ (7 : ℤ) = 128 := by norm_num
    linarith [share_le_one h hle]
  have hdouble := (isDouble_share h hle).mul isDouble_hundred
    (inRange_of_bounds hlo hhi (by norm_num) (by norm_num))
  refine hdouble.toInt32 ?_
  calc roundTo 52 (share uploaded total * 100) ≤ roundTo 52 (2 ^ (7 : ℤ)) :=
        roundTo_mono ((two_zpow_pos _).trans_le hlo) hhi
    _ = 2 ^ (7 : ℤ) := (hasPrecision_two_zpow 7).roundTo_eq
    _ < 2 ^ 31 := by norm_num

theorem percent_zero (h : 0 < total) : percent 0 total = 0 :=
  ((isZero_toFloat.div (isDouble_toFloat h)).mul isDouble_hundred).toInt32

theorem zero_or_pos (n : UInt64) : n = 0 ∨ 0 < n := by
  rcases Nat.eq_zero_or_pos n.toNat with hzero | hpos
  · exact Or.inl (UInt64.toNat_inj.1 hzero)
  · exact Or.inr (UInt64.lt_iff_toNat_lt.2 hpos)

theorem percent_nonneg (htotal : 0 < total) (hle : uploaded ≤ total) :
    0 ≤ (percent uploaded total).toInt := by
  rcases zero_or_pos uploaded with rfl | h
  · rw [percent_zero htotal]
    exact le_rfl
  · rw [toInt_percent h hle]
    exact Int.floor_nonneg.2
      (hasPrecision_roundTo (mul_pos (share_pos h hle) (by norm_num))).pos.le

/-- The percentage does not fall. -/
theorem percent_mono (htotal : 0 < total) (hle : uploaded ≤ uploaded')
    (hle' : uploaded' ≤ total) :
    (percent uploaded total).toInt ≤ (percent uploaded' total).toInt := by
  rcases zero_or_pos uploaded with rfl | h
  · rw [percent_zero htotal]
    exact percent_nonneg htotal hle'
  · have hle'' := UInt64.le_trans hle hle'
    have hratio : double uploaded / double total ≤ double uploaded' / double total :=
      div_le_div_of_nonneg_right (double_mono h hle) (double_pos htotal).le
    have hshare : share uploaded total ≤ share uploaded' total :=
      roundTo_mono (ratio_pos h hle'') hratio
    rw [toInt_percent h hle'', toInt_percent (UInt64.lt_of_lt_of_le h hle) hle']
    refine Int.floor_mono (roundTo_mono (mul_pos (share_pos h hle'') (by norm_num)) ?_)
    exact mul_le_mul_of_nonneg_right hshare (by norm_num)

/-! ## The percentage 100 -/

/-- The largest share below 1 gives a percentage below 100. -/
theorem roundTo_share_lt : roundTo 52 ((1 - 1 / 2 ^ 53) * 100) < 100 := by
  have hlog : Int.log 2 ((1 - 1 / 2 ^ 53) * 100 : ℚ) = 6 := log_eq (by norm_num) (by norm_num)
  have hplace : lastPlace 52 ((1 - 1 / 2 ^ 53) * 100 : ℚ) = -46 := by
    rw [lastPlace, hlog]
    norm_num
  have hfloor : ⌊((1 - 1 / 2 ^ 53) * 100 / 2 ^ (-46 : ℤ) : ℚ)⌋ = 100 * 2 ^ 46 - 1 := by
    rw [Int.floor_eq_iff]
    norm_num
  have hround : roundEven ((1 - 1 / 2 ^ 53) * 100 / 2 ^ (-46 : ℤ) : ℚ) = 100 * 2 ^ 46 - 1 := by
    rw [roundEven, Int.fract, hfloor, if_pos (by norm_num)]
  rw [roundTo, hplace, hround]
  norm_num

theorem percent_lt_hundred (h : 0 < uploaded) (hle : uploaded ≤ total)
    (hlt : double uploaded < double total) : (percent uploaded total).toInt ≤ 99 := by
  have hpos := double_pos (UInt64.lt_of_lt_of_le h hle)
  have hgap : double uploaded ≤ double total * (1 - 1 / 2 ^ 53) :=
    (isDouble_toFloat h).hasPrecision.le_of_lt
      (isDouble_toFloat (UInt64.lt_of_lt_of_le h hle)).hasPrecision hlt
  have hratio : double uploaded / double total ≤ 1 - 1 / 2 ^ 53 := by
    rw [div_le_iff₀ hpos, mul_comm]
    exact hgap
  have hprecision : HasPrecision 52 (1 - 1 / 2 ^ 53 : ℚ) :=
    ⟨2 ^ 53 - 1, -53, by norm_num, by norm_num, by norm_num⟩
  have hshare : share uploaded total ≤ 1 - 1 / 2 ^ 53 := by
    calc share uploaded total ≤ roundTo 52 (1 - 1 / 2 ^ 53) :=
          roundTo_mono (ratio_pos h hle) hratio
      _ = 1 - 1 / 2 ^ 53 := hprecision.roundTo_eq
  have hround : roundTo 52 (share uploaded total * 100) < 100 := by
    calc roundTo 52 (share uploaded total * 100) ≤ roundTo 52 ((1 - 1 / 2 ^ 53) * 100) :=
          roundTo_mono (mul_pos (share_pos h hle) (by norm_num))
            (mul_le_mul_of_nonneg_right hshare (by norm_num))
      _ < 100 := roundTo_share_lt
  rw [toInt_percent h hle]
  have hfloor : ⌊roundTo 52 (share uploaded total * 100)⌋ < 100 :=
    Int.floor_lt.2 (by exact_mod_cast hround)
  omega

theorem percent_eq_hundred (h : 0 < uploaded) (hle : uploaded ≤ total)
    (heq : double uploaded = double total) : (percent uploaded total).toInt = 100 := by
  have hprecision : HasPrecision 52 (100 : ℚ) := isDouble_hundred.hasPrecision
  have hshare : share uploaded total = 1 := by
    rw [share, heq, div_self (double_pos (UInt64.lt_of_lt_of_le h hle)).ne']
    exact (hasPrecision_two_zpow 0).roundTo_eq
  rw [toInt_percent h hle, hshare, one_mul, hprecision.roundTo_eq]
  norm_num

/-- The percentage is 100 exactly when the two counts are converted to the same double. -/
theorem percent_le_iff (htotal : 0 < total) (hle : uploaded ≤ total) :
    (percent uploaded total).toInt ≤ 99 ↔ uploaded.toFloat ≠ total.toFloat := by
  rcases zero_or_pos uploaded with rfl | h
  · refine iff_of_true ?_ ?_
    · rw [percent_zero htotal]
      decide
    · intro heq
      obtain ⟨m, k, hm, hfinite, -⟩ := isDouble_toFloat htotal
      have hzero := isZero_toFloat
      rw [heq] at hzero
      cases hzero.symm.trans hfinite
  · rw [Ne, toFloat_eq_iff h htotal]
    refine ⟨?_, ?_⟩
    · intro hpercent heq
      rw [percent_eq_hundred h hle heq] at hpercent
      omega
    · intro hne
      exact percent_lt_hundred h hle ((double_mono h hle).lt_of_ne hne)

/-! ## The main result -/

namespace RestUpload

/-- No chunk is reported that is converted to the same double as the total. -/
def ChunksBelow (u : RestUpload) : Prop := ∀ c ∈ u.chunks, c.toFloat ≠ u.total.toFloat

instance (u : RestUpload) : Decidable u.ChunksBelow :=
  List.decidableBAll (fun c : UInt64 => c.toFloat ≠ u.total.toFloat) u.chunks

variable {u : RestUpload} {emitUploadProgress : Int32 → Int32 → String → ProgressSignal}

/-- The last value tells how the upload ended. -/
theorem progress_finalCall
    (hprogress : ∀ opid progress message,
      (emitUploadProgress opid progress message).progress = progress) (opid : Int32) :
    (onUploadCb emitUploadProgress opid u.finalCall).progress = u.terminal := by
  unfold finalCall terminal onUploadCb
  cases u.outcome with
  | failed uploaded message => exact hprogress _ _ _
  | complete =>
    dsimp only
    rw [hprogress]
    exact Int32.toInt_inj.1 (percent_eq_hundred u.total_pos (UInt64.le_refl _) rfl)

theorem progressValues_calls
    (hopid : ∀ opid progress message, (emitUploadProgress opid progress message).opid = opid)
    (hprogress : ∀ opid progress message,
      (emitUploadProgress opid progress message).progress = progress) (opid : Int32) :
    progressValues opid (u.calls.map (onUploadCb emitUploadProgress opid)) =
      u.chunks.map (fun c => percent c u.total) ++ [u.terminal] := by
  have hopid' : ∀ call, (onUploadCb emitUploadProgress opid call).opid = opid := by
    intro call
    unfold onUploadCb
    split <;> exact hopid _ _ _
  have hall : (u.calls.map (onUploadCb emitUploadProgress opid)).filter
      (fun s => s.opid = opid) = u.calls.map (onUploadCb emitUploadProgress opid) := by
    refine List.filter_eq_self.2 fun s hs => ?_
    obtain ⟨call, -, rfl⟩ := List.mem_map.1 hs
    exact decide_eq_true (hopid' call)
  unfold progressValues
  rw [hall, List.map_map, calls, List.map_append, List.map_map, List.map_singleton]
  rw [Function.comp_apply, progress_finalCall hprogress]
  congr 1
  refine List.map_congr_left fun c _ => ?_
  exact hprogress _ _ _

theorem endsOnce_chunks :
    EndsOnce u (u.chunks.map (fun c => percent c u.total) ++ [u.terminal]) ↔ u.ChunksBelow := by
  refine ⟨?_, ?_⟩
  · intro hends c hc
    obtain ⟨before, hvalues, -, hbounds⟩ := hends
    have hbefore := List.append_cancel_right hvalues
    have hmem : percent c u.total ∈ before := hbefore ▸ List.mem_map_of_mem hc
    exact (percent_le_iff u.total_pos (u.chunks_le c hc)).1
      (Int32.le_iff_toInt_le.1 (hbounds _ hmem).2)
  · intro hbelow
    refine ⟨_, rfl, ?_, ?_⟩
    · rw [List.pairwise_map]
      refine u.chunks_mono.imp_of_mem ?_
      intro c c' _ hc' hle
      exact Int32.le_iff_toInt_le.2 (percent_mono u.total_pos hle (u.chunks_le c' hc'))
    · intro value hvalue
      obtain ⟨c, hc, rfl⟩ := List.mem_map.1 hvalue
      refine ⟨Int32.le_iff_toInt_le.2 (percent_nonneg u.total_pos (u.chunks_le c hc)), ?_⟩
      exact Int32.le_iff_toInt_le.2
        ((percent_le_iff u.total_pos (u.chunks_le c hc)).2 (hbelow c hc))

/-- Below `2 ^ 53` bytes this means that no chunk is reported as the last one. -/
theorem chunksBelow_iff_lt (hsmall : u.total.toNat < 2 ^ 53) :
    u.ChunksBelow ↔ ∀ c ∈ u.chunks, c < u.total := by
  refine forall₂_congr fun c hc => ?_
  have hle := UInt64.le_iff_toNat_le.1 (u.chunks_le c hc)
  rw [UInt64.lt_iff_toNat_lt]
  rcases zero_or_pos c with rfl | hpos
  · refine iff_of_true ?_ (UInt64.lt_iff_toNat_lt.1 u.total_pos)
    refine (percent_le_iff u.total_pos (u.chunks_le 0 hc)).1 ?_
    rw [percent_zero u.total_pos]
    decide
  · have hpos' := UInt64.lt_iff_toNat_lt.1 hpos
    rw [Ne, toFloat_eq_iff hpos u.total_pos,
      (hasPrecision_natCast (p := 52) hpos' (hle.trans_lt hsmall)).roundTo_eq,
      (hasPrecision_natCast (p := 52) (hpos'.trans_le hle) hsmall).roundTo_eq, Nat.cast_inj]
    omega

/-- **Main result.** The progress of a photo or video upload ends with the one terminal value
exactly when no chunk counts, as a double, as the whole upload. -/
theorem endsOnce_iff (u : RestUpload) (opid : Int32) :
    (EndsOnce u (progressValues opid (u.calls.map (onPhotoUploadCb opid))) ↔ u.ChunksBelow) ∧
      (EndsOnce u (progressValues opid (u.calls.map (onVideoUploadCb opid))) ↔ u.ChunksBelow) := by
  refine ⟨?_, ?_⟩
  · rw [onPhotoUploadCb, progressValues_calls (fun _ _ _ => rfl) (fun _ _ _ => rfl)]
    exact endsOnce_chunks
  · rw [onVideoUploadCb, progressValues_calls (fun _ _ _ => rfl) (fun _ _ _ => rfl)]
    exact endsOnce_chunks

/-- All of the file is sent, and then the server answers with an error. -/
def sentThenFailed : RestUpload where
  total := 1000
  chunks := [500, 1000]
  outcome := .failed 1000 "Service Unavailable"
  total_pos := by decide
  chunks_le := List.forall_mem_cons.2 ⟨by decide, List.forall_mem_singleton.2 (by decide)⟩
  chunks_mono := List.pairwise_cons.2
    ⟨List.forall_mem_singleton.2 (by decide), List.pairwise_singleton _ _⟩

/-- The photo is reported as complete before the error is. -/
theorem sentThenFailed_completes : ¬ ∀ (u : RestUpload) (opid : Int32),
    EndsOnce u (progressValues opid (u.calls.map (onPhotoUploadCb opid))) := by
  intro hall
  obtain ⟨before, hvalues, -, hbounds⟩ := hall sentThenFailed 1
  have hrun : progressValues 1 (sentThenFailed.calls.map (onPhotoUploadCb 1)) =
      [50, 100] ++ [-1] := by decide +kernel
  have hbefore : [50, 100] = before := List.append_cancel_right (hrun.symm.trans hvalues)
  have hmem : (100 : Int32) ∈ before := hbefore ▸ by decide
  exact absurd (hbounds 100 hmem).2 (by decide)

end RestUpload

end LibSocialWeb
