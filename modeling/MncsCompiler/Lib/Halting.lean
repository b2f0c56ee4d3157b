import Mathlib.Data.Nat.Find
import Mathlib.Logic.Function.Iterate

/-!
# `Lib.Halting` — step functions that halt

A machine is a step function `f` with a predicate `p` of the halted states, on which it stays. What a run has reached
when it halts does not depend on the steps that are left over, nor on how they are cut into batches. A machine may
also run inside another one: as long as it has not halted, its steps are steps of the outer machine.
-/

namespace Halting

variable {α σ τ ρ : Type} {f : σ → σ} {p : σ → Bool}

/-- Halted states stay. -/
def Stays (f : σ → σ) (p : σ → Bool) : Prop := ∀ s, p s = true → f s = s

theorem Stays.iterate (h : Stays f p) {s : σ} (hs : p s = true) (n : Nat) : f^[n] s = s :=
  Function.iterate_fixed (h s hs) n

/-- Steps after the halt do nothing. -/
theorem Stays.iterate_of_le (h : Stays f p) {s : σ} {m n : Nat} (hmn : m ≤ n) (hm : p (f^[m] s) = true) :
    f^[n] s = f^[m] s := by
  obtain ⟨d, rfl⟩ := Nat.exists_eq_add_of_le hmn
  rw [Nat.add_comm, Function.iterate_add_apply, h.iterate hm]

/-- At most `n` steps, which end with the first halted state. -/
def run (p : σ → Bool) (f : σ → σ) : Nat → σ → σ
  | 0, s => s
  | n + 1, s => if p s then s else run p f n (f s)

/-- The steps that are left over need not be taken. -/
theorem Stays.iterate_eq_run (h : Stays f p) (n : Nat) (s : σ) : f^[n] s = run p f n s := by
  induction n generalizing s with
  | zero => rfl
  | succ n ih =>
      rw [run]
      split
      · next hs => exact h.iterate hs (n + 1)
      · rw [Function.iterate_succ_apply, ih]

/-- A step function with a test for its halted states, by which its steps are evaluated. -/
class Halts (f : σ → σ) (p : outParam (σ → Bool)) : Prop where
  stays : Stays f p

theorem iterate_eq_run [h : Halts f p] (n : Nat) (s : σ) : f^[n] s = run p (fun s => f s) n s :=
  h.stays.iterate_eq_run n s

/-- A machine that takes from a list halts with the list. -/
theorem Halts.of_rest {rest : σ → List α} (h : ∀ s, rest s = [] → f s = s) : Halts f fun s => (rest s).isEmpty :=
  ⟨fun s hs => h s (List.isEmpty_iff.mp hs)⟩

/-- A machine that takes from a list until it is done. -/
theorem Halts.of_done {done : σ → Bool} {rest : σ → List α} (hdone : ∀ s, done s = true → f s = s)
    (hrest : ∀ s, rest s = [] → f s = s) : Halts f fun s => done s || (rest s).isEmpty := by
  constructor
  intro s hs
  rcases (Bool.or_eq_true _ _).mp hs with hs | hs
  · exact hdone s hs
  · exact hrest s (List.isEmpty_iff.mp hs)

/-- Two batches of steps, the second left out after a halt. -/
theorem Stays.batches (h : Stays f p) (k : σ → ρ) (m n : Nat) (s : σ) :
    (if p (f^[m] s) = true then k (f^[m] s) else k (f^[n] (f^[m] s))) = k (f^[n + m] s) := by
  rw [Function.iterate_add_apply]
  split
  · rename_i hm
    rw [h.iterate hm]
  · rfl

/-- The first halted state of a run. -/
theorem exists_first {s : σ} {n : Nat} (hn : p (f^[n] s) = true) :
    ∃ j, j ≤ n ∧ p (f^[j] s) = true ∧ ∀ k, k < j → p (f^[k] s) = false := by
  have hex : ∃ j, p (f^[j] s) = true := ⟨n, hn⟩
  refine ⟨Nat.find hex, Nat.find_min' hex hn, Nat.find_spec hex, ?_⟩
  intro k hk
  exact eq_false_of_ne_true (Nat.find_min hex hk)

/-- **A machine inside another one.** Until the inner machine halts, the outer one does the same steps. -/
theorem iterate_embed {g : τ → τ} {e : σ → τ} (he : ∀ s, p s = false → p (f s) = false → g (e s) = e (f s)) {s : σ}
    {n : Nat} (hrun : ∀ k, k ≤ n → p (f^[k] s) = false) : g^[n] (e s) = e (f^[n] s) := by
  induction n with
  | zero => rfl
  | succ n ih =>
      rw [Function.iterate_succ_apply', ih fun k hk => hrun k (Nat.le_succ_of_le hk), Function.iterate_succ_apply']
      apply he
      · exact hrun n (Nat.le_succ n)
      · rw [← Function.iterate_succ_apply' f n s]
        exact hrun (n + 1) (Nat.le_refl _)

end Halting
