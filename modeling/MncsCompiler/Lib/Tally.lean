import Mathlib.Algebra.GroupWithZero.Nat
import MncsCompiler.Lib.Sweep

/-!
# `Lib.Tally` — counting over a list

A sweep that takes every element of its list is a fold, and a field of what it makes is a sum over the list, or what the
first element with something to hold has given it.
-/

namespace BoundedLoop

variable {α γ ρ : Type}

/-- **A sweep to the end of its list**: the body goes on at every element, and there are passes enough. -/
theorem Sweep.iterate_whole {b : Nat → Sweep α γ → Pass ρ (Sweep α γ)} {f : γ → α → γ} {k : Sweep α γ → ρ} {n : Nat}
    {st : Sweep α γ} (hend : ∀ i st, st.rest = [] → b i st = .ret (k st))
    (hstep : ∀ i l a t, st.rest = l ++ a :: t →
      b i { rest := a :: t, acc := l.foldl f st.acc } = .next { rest := t, acc := f (l.foldl f st.acc) a })
    (hn : st.rest.length ≤ n) (i : Nat) :
    (iterate b i n st).after k = k { rest := [], acc := st.rest.foldl f st.acc } := by
  induction n generalizing i st with
  | zero =>
      obtain ⟨rest, acc⟩ := st
      obtain rfl : rest = [] := List.eq_nil_of_length_eq_zero (Nat.le_zero.mp hn)
      rfl
  | succ n ih =>
      obtain ⟨rest, acc⟩ := st
      rw [iterate_succ]
      cases rest with
      | nil =>
          rw [hend i _ rfl]
          rfl
      | cons a t =>
          have hfirst := hstep i [] a t rfl
          rw [List.foldl_nil] at hfirst
          rw [hfirst, Pass.bind_next]
          refine ih ?_ (Nat.le_of_succ_le_succ hn) (i + 1)
          intro j l x u hsplit
          exact hstep j (a :: l) x u (congrArg (a :: ·) hsplit)

/-! ## What a fold counts -/

/-- What a fold adds up. -/
theorem foldl_sum {f : γ → α → γ} (field : γ → Nat) (weight : α → Nat) (h : ∀ c a, field (f c a) = field c + weight a)
    (l : List α) (c : γ) : field (l.foldl f c) = field c + (l.map weight).sum := by
  induction l generalizing c with
  | nil => rfl
  | cons a t ih =>
      rw [List.foldl_cons, ih, h, List.map_cons, List.sum_cons, Nat.add_assoc]

/-- What a fold keeps of the first element that has something to keep. -/
theorem foldl_or {β : Type} {f : γ → α → γ} (field : γ → Option β) (pick : α → Option β)
    (h : ∀ c a, field (f c a) = (field c).or (pick a)) (l : List α) (c : γ) :
    field (l.foldl f c) = (field c).or (l.findSome? pick) := by
  induction l generalizing c with
  | nil => exact (Option.or_none).symm
  | cons a t ih =>
      rw [List.foldl_cons, ih, h, Option.or_assoc, List.findSome?_cons]
      cases pick a with
      | none => rfl
      | some b => rfl

theorem findSome?_congr_left {β : Type} {pick other : α → Option β} {l : List α} (h : ∀ a ∈ l, pick a = other a) :
    l.findSome? pick = l.findSome? other := by
  induction l with
  | nil => rfl
  | cons a t ih =>
      rw [List.findSome?_cons, List.findSome?_cons, h a List.mem_cons_self,
        ih fun b hb => h b (List.mem_cons_of_mem a hb)]

theorem findSome?_flatMap {β : Type} (pick : γ → Option β) (f : α → List γ) (l : List α) :
    (l.flatMap f).findSome? pick = l.findSome? fun a => (f a).findSome? pick := by
  induction l with
  | nil => rfl
  | cons a t ih =>
      rw [List.flatMap_cons, List.findSome?_append, ih, List.findSome?_cons]
      cases (f a).findSome? pick with
      | none => rfl
      | some b => rfl

/-- A sum of flags is a count. -/
theorem sum_flags (p : α → Bool) (l : List α) : (l.map fun a => if p a then 1 else 0).sum = l.countP p := by
  induction l with
  | nil => rfl
  | cons a t ih =>
      rw [List.map_cons, List.sum_cons, ih, List.countP_cons, Nat.add_comm]

end BoundedLoop
