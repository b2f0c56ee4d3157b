import Mathlib.Algebra.GroupWithZero.Nat
import Mathlib.Data.Option.Basic
import Mathlib.Logic.Function.Iterate

/-!
# `Lib.Checked` — checked unsigned arithmetic

Operations on machine words of `w` bits that trap instead of wrapping: `none` is the trap. A value is a natural number,
and an operation that does not trap gives the value it has on the naturals.
-/

namespace Checked

variable {w a b : Nat}

def add? (w a b : Nat) : Option Nat := if a + b < 2 ^ w then some (a + b) else none

def sub? (a b : Nat) : Option Nat := if b ≤ a then some (a - b) else none

def mul? (w a b : Nat) : Option Nat := if a * b < 2 ^ w then some (a * b) else none

@[simp] theorem add?_of_lt (h : a + b < 2 ^ w) : add? w a b = some (a + b) := if_pos h

@[simp] theorem sub?_of_le (h : b ≤ a) : sub? a b = some (a - b) := if_pos h

@[simp] theorem sub?_of_lt (h : a < b) : sub? a b = none := if_neg (Nat.not_le.mpr h)

@[simp] theorem mul?_of_lt (h : a * b < 2 ^ w) : mul? w a b = some (a * b) := if_pos h

section Loops

variable {σ : Type*} {checked : σ → Option σ}

/-- A loop of checked steps none of which traps. -/
theorem iterate_bind (P : σ → Prop) (step : σ → σ) (h : ∀ s, P s → checked s = some (step s) ∧ P (step s)) (n : Nat)
    {s : σ} (hs : P s) :
    (fun o : Option σ => o.bind checked)^[n] (some s) = some (step^[n] s) := by
  induction n generalizing s with
  | zero => rfl
  | succ n ih =>
      obtain ⟨hstep, hnext⟩ := h s hs
      rw [Function.iterate_succ_apply, Function.iterate_succ_apply, Option.bind_some, hstep]
      exact ih hnext

end Loops

end Checked
