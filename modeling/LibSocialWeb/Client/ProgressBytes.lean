import LibSocialWeb.Client.Upload
import LibSocialWeb.Flickr.UploadProgress

/-!
# Upload progress in bytes, from the service to the client

The service reports the share that was sent as a percentage (`on_photo_upload_cb` of
`services/flickr/flickr.c`). The client turns it into the number of bytes for the caller's
`GFileProgressCallback` (`_upload_file_progress_cb` of `libsocialweb-client/sw-client-service.c`).

The client multiplies the percentage by the file's size and does not divide by 100. So 1 percent is
reported as the whole file, and more as a multiple of it. Here the product is taken exactly;
`ClientUpload.currentNumBytes` computes it in single precision.

**Main result.** `isByteCount_iff`: what the client reports is a byte count exactly when the file is
empty, or when less than 2 percent are ever sent and a share of 1 percent is not followed by less.
-/

namespace LibSocialWeb

open Rounding Binary64 Transition

/-! ## What the client reports -/

/-- `progress * closure->filesize`, as an exact number. -/
def exactNumBytes (progress : Int32) (filesize : UInt64) : ℚ :=
  progress.toInt * filesize.toNat

/-- The percentages that `_upload_file_progress_cb` hands on for the opid. The first terminal value
completes the upload. -/
def delivered (opid : Int32) : List UploadProgress → List Int32
  | [] => []
  | p :: ps =>
    if p.opid ≠ opid then delivered opid ps
    else if p.progress = -1 then []
    else p.progress :: if p.progress = 100 then [] else delivered opid ps

/-- The handler ignores what comes after the closure is freed. -/
theorem progressed_freed {u : ClientUpload} (hfreed : u.freed = true)
    (ps : List UploadProgress) :
    (runFrom ClientUpload.step u (ps.map .progress)).progressed = u.progressed := by
  induction ps generalizing u with
  | nil => rfl
  | cons p ps ih =>
    rw [List.map_cons, runFrom_cons]
    unfold ClientUpload.step ClientUpload.uploadFileProgressCb
    dsimp only
    rw [if_pos hfreed]
    split_ifs
    · exact ih hfreed
    · exact ih hfreed

/-- The calls of `progress_cb` are those for the percentages that are handed on. -/
theorem progressed_eq {u : ClientUpload} (hconnected : u.connected = true)
    (hfreed : u.freed = false) (ps : List UploadProgress) :
    (runFrom ClientUpload.step u (ps.map .progress)).progressed =
      u.progressed ++ (delivered u.closure.opid ps).map fun progress =>
        (ClientUpload.currentNumBytes progress u.closure.filesize,
          u.closure.filesize.toInt64) := by
  induction ps generalizing u with
  | nil => simp [delivered]
  | cons p ps ih =>
    have hstep : u.step (.progress p) =
        u.uploadFileProgressCb p.opid p.progress p.errorMessage := if_pos hconnected
    rw [List.map_cons, runFrom_cons, hstep, delivered]
    unfold ClientUpload.uploadFileProgressCb
    rw [if_neg (by rw [hfreed]; exact Bool.false_ne_true)]
    by_cases hopid : p.opid ≠ u.closure.opid
    · rw [if_pos hopid, if_pos hopid]
      exact ih hconnected hfreed
    · rw [if_neg hopid, if_neg hopid]
      by_cases herror : p.progress = -1
      · rw [if_pos herror, if_pos herror, progressed_freed rfl]
        simp [ClientUpload.complete]
      · rw [if_neg herror, if_neg herror]
        dsimp only
        by_cases hdone : p.progress = 100
        · rw [if_pos hdone, if_pos hdone, progressed_freed rfl]
          rfl
        · rw [if_neg hdone, if_neg hdone]
          refine Eq.trans (ih ?_ ?_) ?_
          · exact hconnected
          · exact hfreed
          · rw [List.map_cons, List.append_assoc, List.singleton_append]

/-! ## What the service sends -/

/-- A share of an upload that was sent: the arguments of a callback without error. -/
structure SentPart where
  uploaded : UInt64
  total : UInt64
  le : uploaded ≤ total
  total_pos : 0 < total
  deriving DecidableEq

namespace SentPart

def callback (part : SentPart) : UploadCallback := ⟨part.total, part.uploaded, none⟩

def percent (part : SentPart) : Int32 := LibSocialWeb.percent part.uploaded part.total

/-- As doubles, `uploaded` is so small a part of `total` that less than `2 ^ j` percent are
reported. The factor is a hundredth of `2 ^ j`, less half a last place of a double. -/
def Below (j : ℕ) (part : SentPart) : Prop :=
  double part.uploaded ≤ 11529215046068469 * 2 ^ (j - 60 : ℤ) * double part.total

end SentPart

/-- The signal, as it arrives at the client. -/
def ProgressSignal.toProgress : ProgressSignal → UploadProgress
  | photoUploadProgress opid progress message => ⟨opid, progress, message⟩
  | videoUploadProgress opid progress message => ⟨opid, progress, message⟩

/-- The percentages that reach the caller of an upload of which these parts are reported. -/
def reported (opid : Int32) (parts : List SentPart) : List Int32 :=
  delivered opid (parts.map fun part => (onPhotoUploadCb opid part.callback).toProgress)

/-- The bytes for these percentages are a byte count: they never exceed the size of the file, do not
fall, and are the size of the file at 100 percent. -/
structure IsByteCount (filesize : UInt64) (percentages : List Int32) : Prop where
  le : ∀ q ∈ percentages, exactNumBytes q filesize ≤ filesize.toNat
  mono : percentages.Pairwise fun q r => exactNumBytes q filesize ≤ exactNumBytes r filesize
  complete : ∀ q ∈ percentages, q = 100 → exactNumBytes q filesize = filesize.toNat

/-! ## Small percentages -/

/-- A hundredth of `2 ^ j`, rounded to a double, is the first share that counts as `2 ^ j` percent.
-/
theorem roundTo_hundred_lt_iff {s : ℚ} (hs : HasPrecision 52 s) (j : ℕ) :
    roundTo 52 (s * 100) < 2 ^ j ↔ s < (5764607523034235 : ℕ) * 2 ^ (j - 59 : ℤ) := by
  have hj : (2 : ℚ) ^ j = 2 ^ 59 * 2 ^ (j - 59 : ℤ) := by
    rw [← zpow_natCast, ← zpow_natCast, ← two_zpow_add]
    congr 1
    push_cast
    ring
  have hpos := two_zpow_pos (j - 59 : ℤ)
  have hhundred : (0 : ℚ) < s * 100 := mul_pos hs.pos (by norm_num)
  refine ⟨?_, ?_⟩
  · intro h
    by_contra hle
    rw [not_lt] at hle
    have hshare : (2 : ℚ) ^ j ≤ s * 100 := by
      calc (2 : ℚ) ^ j = 2 ^ 59 * 2 ^ (j - 59 : ℤ) := hj
        _ ≤ (5764607523034235 : ℕ) * 2 ^ (j - 59 : ℤ) * 100 := by
            push_cast
            linarith
        _ ≤ s * 100 := mul_le_mul_of_nonneg_right hle (by norm_num)
    have hround : (2 : ℚ) ^ j ≤ roundTo 52 (s * 100) := by
      calc (2 : ℚ) ^ j = roundTo 52 (2 ^ (j : ℤ)) := by
            rw [(hasPrecision_two_zpow (j : ℤ)).roundTo_eq, zpow_natCast]
        _ ≤ roundTo 52 (s * 100) := roundTo_mono (two_zpow_pos _) (by rwa [zpow_natCast])
    linarith
  · intro h
    have hprecision : HasPrecision 52 ((5764607523034235 : ℕ) * 2 ^ (j - 59 : ℤ) : ℚ) :=
      ⟨5764607523034235, j - 59, by norm_num, by norm_num, rfl⟩
    have hgap := hs.le_of_lt hprecision h
    -- A multiple of the last place of `2 ^ j` lies between.
    have hle : s * 100 ≤ (2 ^ 59 - 48) * 2 ^ (j - 59 : ℤ) := by
      push_cast at hgap
      linarith
    have hlog : Int.log 2 ((2 ^ 59 - 48 : ℚ)) = 58 := log_eq (by norm_num) (by norm_num)
    have hround : roundTo 52 ((2 ^ 59 - 48 : ℚ)) ≤ 2 ^ 59 - 48 := by
      rw [roundTo, lastPlace, hlog]
      norm_num [roundEven]
    calc roundTo 52 (s * 100) ≤ roundTo 52 ((2 ^ 59 - 48) * 2 ^ (j - 59 : ℤ)) :=
          roundTo_mono hhundred hle
      _ = roundTo 52 (2 ^ 59 - 48) * 2 ^ (j - 59 : ℤ) :=
          roundTo_mul_two_zpow (by norm_num) _
      _ ≤ (2 ^ 59 - 48) * 2 ^ (j - 59 : ℤ) := mul_le_mul_of_nonneg_right hround hpos.le
      _ < 2 ^ j := by
          rw [hj]
          linarith

namespace SentPart

variable {part : SentPart}

/-- Less than `2 ^ j` percent are reported. -/
theorem percent_lt_iff (part : SentPart) (j : ℕ) : part.percent.toInt < 2 ^ j ↔ part.Below j := by
  have htotal := double_pos part.total_pos
  unfold Below percent
  rcases zero_or_pos part.uploaded with hzero | h
  · have hdouble : double 0 = 0 := by decide +kernel
    rw [hzero, percent_zero part.total_pos, hdouble]
    exact iff_of_true (Int.pow_pos (by decide))
      (mul_nonneg (mul_nonneg (by norm_num) (two_zpow_pos _).le) htotal.le)
  · have hratio := ratio_pos h part.le
    have hfactor : (((5764607523034235 : ℕ) : ℚ) - 1 / 2) * 2 ^ (j - 59 : ℤ) =
        11529215046068469 * 2 ^ (j - 60 : ℤ) := by
      rw [show (j - 59 : ℤ) = j - 60 + 1 by ring, two_zpow_add]
      push_cast
      ring
    rw [toInt_percent h part.le, Int.floor_lt, Int.cast_pow, Int.cast_ofNat, share,
      roundTo_hundred_lt_iff (hasPrecision_roundTo hratio),
      roundTo_lt_iff (by norm_num) (by norm_num) (by norm_num) hratio, hfactor,
      div_le_iff₀ htotal]

/-- For an upload of less than `2 ^ 53` bytes, this is the exact share. -/
theorem below_iff (hsmall : part.total.toNat < 2 ^ 53) {j : ℕ} (hj : j ≤ 1) :
    part.Below j ↔ 100 * part.uploaded.toNat < 2 ^ j * part.total.toNat := by
  have hexact : ∀ n : UInt64, n ≤ part.total → double n = n.toNat := by
    intro n hn
    rcases zero_or_pos n with rfl | hpos
    · decide +kernel
    · have hlt := (UInt64.le_iff_toNat_le.1 hn).trans_lt hsmall
      exact (hasPrecision_natCast (UInt64.lt_iff_toNat_lt.1 hpos) hlt).roundTo_eq
  rw [Below, hexact _ part.le, hexact _ (UInt64.le_refl _)]
  have hpos : 0 < part.total.toNat := UInt64.lt_iff_toNat_lt.1 part.total_pos
  have hcast : ((part.uploaded.toNat : ℚ) ≤
      11529215046068469 * 2 ^ (j - 60 : ℤ) * part.total.toNat) ↔
      part.uploaded.toNat * 2 ^ 60 ≤ 11529215046068469 * 2 ^ j * part.total.toNat := by
    have hsixty : (2 : ℚ) ^ (j - 60 : ℤ) = 2 ^ j / 2 ^ 60 := by
      rw [zpow_sub₀ two_ne_zero, zpow_natCast]
      norm_num
    rw [hsixty, ← mul_div_assoc, div_mul_eq_mul_div, le_div_iff₀ (by norm_num)]
    exact_mod_cast Iff.rfl
  rw [hcast]
  rcases Nat.le_one_iff_eq_zero_or_eq_one.1 hj with rfl | rfl <;> omega

/-- A larger part of the same upload is not below what a smaller part is above. -/
theorem Below.of_le {part' : SentPart} {j : ℕ} (hle : part.uploaded ≤ part'.uploaded)
    (htotal : part.total = part'.total) (h : part'.Below j) : part.Below j := by
  rw [← percent_lt_iff] at h ⊢
  refine lt_of_le_of_lt ?_ h
  unfold percent
  rw [htotal]
  exact percent_mono part'.total_pos hle part'.le

end SentPart

/-! ## What reaches the caller -/

theorem percent_ne_neg_one (part : SentPart) : part.percent ≠ -1 := by
  intro heq
  have hnonneg : 0 ≤ part.percent.toInt := percent_nonneg part.total_pos part.le
  rw [heq] at hnonneg
  exact absurd hnonneg (by decide)

theorem reported_cons (opid : Int32) (part : SentPart) (parts : List SentPart) :
    reported opid (part :: parts) =
      part.percent :: if part.percent = 100 then [] else reported opid parts := by
  show delivered opid (⟨opid, part.percent, ""⟩ :: _) = _
  rw [delivered, if_neg (by simp), if_neg (percent_ne_neg_one part)]
  rfl

/-- As long as less than 2 percent are sent, every part is reported. -/
theorem reported_of_below {parts : List SentPart} (opid : Int32)
    (h : ∀ part ∈ parts, part.Below 1) : reported opid parts = parts.map SentPart.percent := by
  induction parts with
  | nil => rfl
  | cons part parts ih =>
    have hlt := (part.percent_lt_iff 1).2 (h part (by simp))
    have hne : part.percent ≠ 100 := by
      intro heq
      rw [heq] at hlt
      exact absurd hlt (by decide)
    rw [reported_cons, if_neg hne, ih fun part' hmem => h part' (by simp [hmem]), List.map_cons]

/-- The first part that is not below 2 percent is reported. -/
theorem below_of_reported {parts : List SentPart} {opid : Int32}
    (h : ∀ q ∈ reported opid parts, q.toInt < 2) : ∀ part ∈ parts, part.Below 1 := by
  induction parts with
  | nil => simp
  | cons part parts ih =>
    rw [reported_cons] at h
    have hlt : part.percent.toInt < 2 := h _ (by simp)
    have hne : part.percent ≠ 100 := by
      intro heq
      rw [heq] at hlt
      exact absurd hlt (by decide)
    rw [if_neg hne] at h
    intro part' hmem
    rcases List.mem_cons.1 hmem with rfl | hmem
    · exact (part'.percent_lt_iff 1).1 hlt
    · exact ih (fun q hq => h q (by simp [hq])) part' hmem

/-! ## The main result -/

theorem exactNumBytes_le_iff {filesize : UInt64} (hpos : 0 < filesize) (q r : Int32) :
    exactNumBytes q filesize ≤ exactNumBytes r filesize ↔ q.toInt ≤ r.toInt := by
  unfold exactNumBytes
  rw [mul_le_mul_iff_left₀ (toNat_pos hpos)]
  exact Int.cast_le

theorem exactNumBytes_one (filesize : UInt64) : exactNumBytes 1 filesize = filesize.toNat := by
  unfold exactNumBytes
  rw [show (1 : Int32).toInt = 1 by decide, Int.cast_one, one_mul]

/-- An empty file has no bytes at any percentage. -/
theorem isByteCount_zero (percentages : List Int32) : IsByteCount 0 percentages := by
  have hzero : ∀ q, exactNumBytes q 0 = 0 := by
    intro q
    unfold exactNumBytes
    simp
  refine ⟨?_, ?_, ?_⟩
  · intro q _
    simp [hzero]
  · simp [hzero, List.pairwise_iff_forall_sublist]
  · intro q _ _
    simp [hzero]

/-- While every part is below 2 percent, what is reported grows where 1 percent is not followed by
less. -/
theorem pairwise_exactNumBytes_iff {filesize : UInt64} (hpos : 0 < filesize)
    {parts : List SentPart} (hbelow : ∀ part ∈ parts, part.Below 1) :
    ((parts.map SentPart.percent).Pairwise
        fun q r => exactNumBytes q filesize ≤ exactNumBytes r filesize) ↔
      parts.Pairwise fun part part' => part'.Below 0 → part.Below 0 := by
  rw [List.pairwise_map]
  refine List.Pairwise.iff_of_mem fun {part part'} hmem hmem' => ?_
  rw [exactNumBytes_le_iff hpos, ← SentPart.percent_lt_iff, ← SentPart.percent_lt_iff]
  have hlt := (part.percent_lt_iff 1).2 (hbelow part hmem)
  have hlt' := (part'.percent_lt_iff 1).2 (hbelow part' hmem')
  have hnonneg : 0 ≤ part.percent.toInt := percent_nonneg part.total_pos part.le
  have hnonneg' : 0 ≤ part'.percent.toInt := percent_nonneg part'.total_pos part'.le
  omega

theorem exactNumBytes_le_filesize_iff {filesize : UInt64} (hpos : 0 < filesize) (q : Int32) :
    exactNumBytes q filesize ≤ filesize.toNat ↔ q.toInt < 2 := by
  rw [← exactNumBytes_one filesize, exactNumBytes_le_iff hpos,
    show (1 : Int32).toInt = 1 by decide]
  omega

/-- A file that is not empty. -/
theorem isByteCount_reported_iff {filesize : UInt64} (hpos : 0 < filesize) (opid : Int32)
    (parts : List SentPart) :
    IsByteCount filesize (reported opid parts) ↔
      (∀ part ∈ parts, part.Below 1) ∧
        parts.Pairwise fun part part' => part'.Below 0 → part.Below 0 := by
  refine ⟨?_, ?_⟩
  · intro h
    have hbelow := below_of_reported fun q hq =>
      (exactNumBytes_le_filesize_iff hpos q).1 (h.le q hq)
    have hpairwise := h.mono
    rw [reported_of_below opid hbelow, pairwise_exactNumBytes_iff hpos hbelow] at hpairwise
    exact ⟨hbelow, hpairwise⟩
  · intro h
    obtain ⟨hbelow, hpairwise⟩ := h
    rw [reported_of_below opid hbelow]
    have hlt : ∀ q ∈ parts.map SentPart.percent, q.toInt < 2 := by
      intro q hq
      obtain ⟨part, hmem, rfl⟩ := List.mem_map.1 hq
      exact (part.percent_lt_iff 1).2 (hbelow part hmem)
    refine ⟨fun q hq => (exactNumBytes_le_filesize_iff hpos q).2 (hlt q hq),
      (pairwise_exactNumBytes_iff hpos hbelow).2 hpairwise, ?_⟩
    intro q hq heq
    have := hlt q hq
    rw [heq] at this
    exact absurd this (by decide)

/-- **Main result.** The client reports a byte count exactly when the file is empty, or when every
part is below 2 percent and none that has reached 1 percent is followed by one below. -/
theorem isByteCount_iff (filesize : UInt64) (opid : Int32) (parts : List SentPart) :
    IsByteCount filesize (reported opid parts) ↔
      filesize = 0 ∨ (∀ part ∈ parts, part.Below 1) ∧
        parts.Pairwise fun part part' => part'.Below 0 → part.Below 0 := by
  rcases zero_or_pos filesize with rfl | hpos
  · exact iff_of_true (isByteCount_zero _) (Or.inl rfl)
  have hne : filesize ≠ 0 := by
    rintro rfl
    exact absurd hpos (by decide)
  rw [or_iff_right hne]
  exact isByteCount_reported_iff hpos opid parts

/-- In an upload of one total, the parts only grow, and it is enough that they stay below 2 percent.
-/
theorem isByteCount_iff_of_growing {filesize : UInt64} (hpos : 0 < filesize) (opid : Int32)
    {parts : List SentPart}
    (h : parts.Pairwise fun part part' =>
      part.uploaded ≤ part'.uploaded ∧ part.total = part'.total) :
    IsByteCount filesize (reported opid parts) ↔ ∀ part ∈ parts, part.Below 1 := by
  rw [isByteCount_reported_iff hpos]
  refine and_iff_left ?_
  exact h.imp fun hgrow => SentPart.Below.of_le hgrow.1 hgrow.2

/-- Half of a file of 1000 bytes: the client reports 50000 bytes. -/
theorem half_exceedsFile :
    ¬ ∀ (filesize : UInt64) (opid : Int32) (parts : List SentPart),
      IsByteCount filesize (reported opid parts) := by
  intro hall
  have hle := (hall 1000 1 [⟨500, 1000, by decide, by decide⟩]).le 50 (by decide +kernel)
  revert hle
  decide +kernel

end LibSocialWeb
