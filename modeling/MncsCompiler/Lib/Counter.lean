import Mathlib.Algebra.Order.Group.Multiset
import Mathlib.Order.Interval.Multiset
import Mathlib.Order.Interval.Finset.Nat

/-!
# `Lib.Counter` — numbers drawn from a counter

A program takes numbers from a counter and keeps those in use in several places. A step from the numbers `held` and the
counter `next` to `held'` and `next'` draws when it holds no number that it neither held before nor took from the
counter, and none twice. Steps that draw compose, and leave alone what they do not touch (`Draws.frame`). When the first
of them starts without a number held twice, no number is ever held twice.
-/

namespace Counter

open Multiset

/-- What is held after a step was held before it, or has been handed out on the way. -/
structure Draws (held : Multiset Nat) (next : Nat) (held' : Multiset Nat) (next' : Nat) : Prop where
  counter : next ≤ next'
  bound : held' ≤ held + Ico next next'

theorem Ico_succ (n : Nat) : Ico n (n + 1) = {n} := congrArg Finset.val (Nat.Ico_succ_singleton n)

theorem Ico_eq_add {a b : Nat} (h : a < b) : Ico a b = {a} + Ico (a + 1) b := by
  rw [← Ico_add_Ico_eq_Ico (Nat.le_succ a) h, Ico_succ]

theorem Ico_succ_right {a b : Nat} (h : a ≤ b) : Ico a (b + 1) = {b} + Ico a b := by
  rw [← Ico_add_Ico_eq_Ico h (Nat.le_succ b), Ico_succ, add_comm]

namespace Draws

variable {held held' held'' : Multiset Nat} {next next' next'' : Nat}

/-- A step without the counter. -/
theorem of_le (h : held' ≤ held) : Draws held next held' next where
  counter := Nat.le_refl next
  bound := by rwa [Ico_self, add_zero]

theorem refl : Draws held next held next := of_le (le_refl held)

theorem trans (h : Draws held next held' next') (h' : Draws held' next' held'' next'') :
    Draws held next held'' next'' where
  counter := Nat.le_trans h.counter h'.counter
  bound := by
    calc held'' ≤ held' + Ico next' next'' := h'.bound
      _ ≤ held + Ico next next' + Ico next' next'' := add_le_add_left h.bound _
      _ = held + Ico next next'' := by rw [add_assoc, Ico_add_Ico_eq_Ico h.counter h'.counter]

/-- Numbers may be dropped, and numbers of the counter skipped. -/
theorem weaken (h : Draws held next held' next') (hheld : held'' ≤ held') (hnext : next' ≤ next'') :
    Draws held next held'' next'' :=
  h.trans ⟨hnext, hheld.trans (Multiset.le_add_right _ _)⟩

/-- What a step does not touch. -/
theorem frame (h : Draws held next held' next') (rest : Multiset Nat) :
    Draws (held + rest) next (held' + rest) next' where
  counter := h.counter
  bound := by
    rw [add_right_comm]
    exact add_le_add_left h.bound rest

/-- One number from the counter. -/
theorem one (held : Multiset Nat) (next : Nat) : Draws held next (next ::ₘ held) (next + 1) where
  counter := Nat.le_succ next
  bound := by
    rw [Ico_succ, add_comm, singleton_add]

/-- Numbers below the counter, none of them twice, stay so. -/
theorem within (h : Draws held next held' next') (hheld : held ≤ Ico 0 next) : held' ≤ Ico 0 next' := by
  calc held' ≤ held + Ico next next' := h.bound
    _ ≤ Ico 0 next + Ico next next' := add_le_add_left hheld _
    _ = Ico 0 next' := Ico_add_Ico_eq_Ico (Nat.zero_le next) h.counter

theorem card_le (h : Draws held next held' next') : card held' + next ≤ card held + next' := by
  have hcard : card (Ico next next') = next' - next := Nat.card_Ico next next'
  have hle := card_le_card h.bound
  have hnext := h.counter
  rw [card_add, hcard] at hle
  omega

/-- A step that holds as many numbers as it can holds all of them. -/
theorem eq_of_card (h : Draws held next held' next') (hcard : card held + next' ≤ card held' + next) :
    held' = held + Ico next next' := by
  have hinterval : card (Ico next next') = next' - next := Nat.card_Ico next next'
  have hnext := h.counter
  refine eq_of_le_of_card_le h.bound ?_
  rw [card_add, hinterval]
  omega

end Draws

theorem nodup_of_within {held : Multiset Nat} {next : Nat} (h : held ≤ Ico 0 next) : held.Nodup :=
  nodup_of_le h nodup_Ico

/-- All numbers below the counter. -/
theorem perm_range {ids : List Nat} {next : Nat} (h : (ids : Multiset Nat) ≤ Ico 0 next) (hlength : ids.length = next) :
    ids.Perm (List.range next) := by
  have hinterval : Ico 0 next = (List.range next : Multiset Nat) := by
    rw [List.range_eq_range']
    rfl
  rw [hinterval] at h
  rw [← coe_eq_coe]
  refine eq_of_le_of_card_le h ?_
  rw [coe_card, coe_card, List.length_range, hlength]

/-- The numbers in the order in which they were handed out, the last one first. -/
def Logs (ids : List Nat) (next : Nat) : Prop := ids = (List.range next).reverse

theorem logs_zero : Logs [] 0 := rfl

theorem Logs.cons {ids : List Nat} {next : Nat} (h : Logs ids next) : Logs (next :: ids) (next + 1) := by
  rw [Logs, h, List.range_succ, List.reverse_append]
  rfl

theorem Logs.append {ids : List Nat} {next : Nat} (h : Logs ids next) (n : Nat) :
    Logs ((List.range' next n).reverse ++ ids) (next + n) := by
  rw [Logs, h, ← List.reverse_append, List.range_eq_range', List.range_eq_range', ← List.range'_append_1,
    Nat.zero_add]

end Counter
