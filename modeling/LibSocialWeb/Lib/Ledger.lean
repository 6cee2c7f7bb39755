import Mathlib.Data.List.Count
import Mathlib.Data.List.Perm.Basic

/-!
# A ledger of references

Counted objects are kept alive by the references that parties hold to them. The ledger has every
reference that was ever taken and every release, and whether each use was made by a party that held
the reference then. A reference may be taken more than once; it is held as long as it was taken more
often than released.

**Rules.** `Accounts l ps` says that the references held are those in the list `ps`, as often as
they occur there. A reference taken goes into the list, one released out of it, and those in the
list may be used: `accounts_take`, `accounts_release`, `accounts_use`. A ledger that accounts for
some list is `Sound`.
-/

structure Ledger (ρ : Type*) where
  taken : List ρ
  released : List ρ
  uses : List (ρ × Bool)

namespace Ledger

variable {ρ : Type*} [DecidableEq ρ]

def empty : Ledger ρ := ⟨[], [], []⟩

def Holds (l : Ledger ρ) (r : ρ) : Prop := l.released.count r < l.taken.count r

instance (l : Ledger ρ) (r : ρ) : Decidable (l.Holds r) :=
  inferInstanceAs (Decidable (l.released.count r < l.taken.count r))

omit [DecidableEq ρ] in
def take (r : ρ) (l : Ledger ρ) : Ledger ρ := { l with taken := r :: l.taken }

def release (r : ρ) (l : Ledger ρ) : Ledger ρ := { l with released := r :: l.released }

def use (r : ρ) (l : Ledger ρ) : Ledger ρ := { l with uses := (r, l.Holds r) :: l.uses }

/-- No reference was released more often than it was taken, and none was used that was not held. -/
structure Sound (l : Ledger ρ) : Prop where
  released : ∀ r, l.released.count r ≤ l.taken.count r
  used : ∀ u ∈ l.uses, u.2 = true

/-- The references held are those in `ps`, and none was used that was not held. -/
structure Accounts (l : Ledger ρ) (ps : List ρ) : Prop where
  balance : ∀ r, l.taken.count r = l.released.count r + ps.count r
  used : ∀ u ∈ l.uses, u.2 = true

variable {l : Ledger ρ} {ps qs : List ρ} {r : ρ}

/-- What is accounted for is held, and nothing else. -/
theorem Accounts.holds_iff (h : Accounts l ps) : l.Holds r ↔ r ∈ ps := by
  unfold Holds
  rw [h.balance r, ← List.count_pos_iff]
  omega

theorem Accounts.sound (h : Accounts l ps) : Sound l where
  released r := (h.balance r).symm ▸ Nat.le_add_right _ _
  used := h.used

theorem Accounts.perm (h : Accounts l ps) (hperm : ps.Perm qs) : Accounts l qs where
  balance r := (h.balance r).trans (congrArg _ (hperm.count_eq r))
  used := h.used

theorem accounts_empty : Accounts (empty : Ledger ρ) [] := ⟨fun _ => rfl, List.forall_mem_nil _⟩

theorem accounts_take (h : Accounts l ps) (r : ρ) : Accounts (l.take r) (r :: ps) where
  balance := by
    intro r'
    have hbefore := h.balance r'
    show (r :: l.taken).count r' = l.released.count r' + (r :: ps).count r'
    rw [List.count_cons, List.count_cons]
    omega
  used := h.used

theorem accounts_release (h : Accounts l (r :: ps)) : Accounts (l.release r) ps where
  balance := by
    intro r'
    have hbefore := h.balance r'
    show l.taken.count r' = (r :: l.released).count r' + ps.count r'
    rw [List.count_cons] at hbefore ⊢
    omega
  used := h.used

theorem accounts_use (h : Accounts l ps) (hr : r ∈ ps) : Accounts (l.use r) ps where
  balance := h.balance
  used := by
    intro u hu
    rcases List.mem_cons.1 hu with rfl | hu
    · exact decide_eq_true (h.holds_iff.2 hr)
    · exact h.used u hu

end Ledger
