import Mathlib.Data.List.Basic

/-!
# Capabilities and the signals of a service (`libsocialweb/sw-service.c`)

A service tells its clients what it can do with `CapabilitiesChanged`. What a client holds is the
payload of the last one: `lastCaps`. It is right as long as the service either says nothing and
keeps its capabilities, or says what they have become.

**Main result.** `toldLast_iff_of_quiet`: after a handler that emits nothing, the client is right
exactly when it was told nothing at all or the capabilities are what they were.
-/

namespace LibSocialWeb

/-! ## Capabilities -/

def IS_CONFIGURED : String := "is-configured"

def CREDENTIALS_VALID : String := "credentials-valid"

def CREDENTIALS_INVALID : String := "credentials-invalid"

def CAN_UPDATE_STATUS : String := "can-update-status"

def CAN_REQUEST_AVATAR : String := "can-request-avatar"

def CAN_UPDATE_STATUS_WITH_GEOTAG : String := "can-update-status-with-geotag"

def CAN_GEOTAG : String := "can-geotag"

/-! ## Signals -/

inductive ServiceSignal where
  | userChanged
  | capabilitiesChanged (caps : List String)
  deriving DecidableEq, Repr

/-- The payload of the last `CapabilitiesChanged`, if there was one. -/
def lastCaps : List ServiceSignal → Option (List String) :=
  List.foldl (fun last signal => match signal with
    | .capabilitiesChanged caps => some caps
    | .userChanged => last) none

@[simp] theorem lastCaps_append_caps (l : List ServiceSignal) (caps : List String) :
    lastCaps (l ++ [.capabilitiesChanged caps]) = some caps := by
  simp [lastCaps]

@[simp] theorem lastCaps_append_user (l : List ServiceSignal) (caps : List String) :
    lastCaps (l ++ [.userChanged, .capabilitiesChanged caps]) = some caps := by
  simp [lastCaps]

/-- The last announced capabilities, if any were announced, are `caps`. -/
def ToldLast (emitted : List ServiceSignal) (caps : List String) : Prop :=
  ∀ told, lastCaps emitted = some told → told = caps

variable {emitted : List ServiceSignal} {caps caps' : List String}

theorem toldLast_nil (caps : List String) : ToldLast [] caps := by
  intro told h
  cases h

theorem toldLast_of_last (hlast : lastCaps emitted = some caps) : ToldLast emitted caps := by
  intro told h
  exact Option.some.inj (h.symm.trans hlast)

theorem toldLast_append_caps (emitted : List ServiceSignal) (caps : List String) :
    ToldLast (emitted ++ [.capabilitiesChanged caps]) caps :=
  toldLast_of_last (lastCaps_append_caps emitted caps)

/-- **A handler that emits nothing** leaves a client with the right capabilities exactly when the
client was told nothing or the capabilities stay. -/
theorem toldLast_iff_of_quiet (h : ToldLast emitted caps) :
    ToldLast emitted caps' ↔ lastCaps emitted = none ∨ caps = caps' := by
  cases htold : lastCaps emitted with
  | none =>
    refine iff_of_true (fun told h' => ?_) (.inl rfl)
    rw [htold] at h'
    cases h'
  | some told =>
    have hcaps : told = caps := h told htold
    simp [ToldLast, htold, hcaps]

end LibSocialWeb
