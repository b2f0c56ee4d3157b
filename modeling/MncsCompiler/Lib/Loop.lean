import Mathlib.Logic.Function.Iterate

/-!
# `Lib.Loop` — bounded loops with a carried value and an early return

A loop of this shape runs a body a fixed number of times. Each pass sees the pass index and the carried
value, and leaves in one of two ways: with the *next* carried value, or with an early *return* that ends
the enclosing function. Nothing here names a particular program; clients instantiate the body.

## Contents
- **The loop.** `Pass`, `iterate`, and the index-free, return-free special case `carry`.
- **Rules.** `iterate_add` (a loop of `m + n` passes is two loops), `iterate_rel` (two loops whose bodies
  take related values to related values), `iterate_post` (what a loop answers),
  `after_iterate_again` (a loop in two chunks), `carry_split`, `carry_invariant`.
- **Loops over lists.** `carry_entries`, `carry_entries_from`, `carry_groups`: a return-free loop that reads a list
  entry by entry, from some entry on, or several entries a pass, is a fold.
- **Settling loops.** A body that returns as soon as a test holds computes the guarded iterate
  `(settle p f)^[n]` (`iterate_settle`, `iterate_exit`, `iterate_guard`); `settle_done` says when enough passes
  have been spent, and `settle_unique` that the settled value does not depend on how many.
-/

namespace BoundedLoop

variable {ρ ρ' σ τ : Type}

/-- How one pass of a body leaves: an early return, or the next carried value. -/
inductive Pass (ρ σ : Type) where
  | ret (r : ρ)
  | next (s : σ)
  deriving DecidableEq, Repr

namespace Pass

/-- The code after a loop: a pending return wins, otherwise `k` runs on the carried value. -/
def after (p : Pass ρ σ) (k : σ → ρ) : ρ :=
  match p with
  | .ret r => r
  | .next s => k s

/-- The code after an *inner* loop: a pending return leaves the outer body as well. -/
def bind (p : Pass ρ σ) (k : σ → Pass ρ τ) : Pass ρ τ :=
  match p with
  | .ret r => .ret r
  | .next s => k s

@[simp] theorem after_ret (r : ρ) (k : σ → ρ) : (Pass.ret r).after k = r := rfl
@[simp] theorem after_next (s : σ) (k : σ → ρ) : (Pass.next s).after k = k s := rfl
@[simp] theorem bind_ret (r : ρ) (k : σ → Pass ρ τ) : (Pass.ret r).bind k = .ret r := rfl
@[simp] theorem bind_next (s : σ) (k : σ → Pass ρ τ) : (Pass.next s).bind k = k s := rfl

/-- Two passes leave the same way: returns related by `Q`, or carried values related by `R`. -/
inductive Rel (Q : ρ → ρ' → Prop) (R : σ → τ → Prop) : Pass ρ σ → Pass ρ' τ → Prop
  | ret {r : ρ} {r' : ρ'} (h : Q r r') : Rel Q R (.ret r) (.ret r')
  | next {s : σ} {t : τ} (h : R s t) : Rel Q R (.next s) (.next t)

theorem Rel.of_ret {Q : ρ → ρ' → Prop} {R : σ → τ → Prop} {p : Pass ρ σ} {r' : ρ'} (h : Rel Q R p (.ret r')) :
    ∃ r, p = .ret r ∧ Q r r' := by
  cases h with
  | ret h => exact ⟨_, rfl, h⟩

theorem Rel.of_next {Q : ρ → ρ' → Prop} {R : σ → τ → Prop} {p : Pass ρ σ} {t : τ} (h : Rel Q R p (.next t)) :
    ∃ s, p = .next s ∧ R s t := by
  cases h with
  | next h => exact ⟨_, rfl, h⟩

theorem Rel.after {Q : ρ → ρ' → Prop} {R : σ → τ → Prop} {p : Pass ρ σ} {q : Pass ρ' τ} (h : Rel Q R p q)
    {k : σ → ρ} {l : τ → ρ'} (hk : ∀ s t, R s t → Q (k s) (l t)) : Q (p.after k) (q.after l) := by
  cases h with
  | ret h => exact h
  | next h => exact hk _ _ h

end Pass

/-- `iterate body i n s`: `n` passes of `body`, numbered from `i`, carrying `s`. -/
def iterate (body : Nat → σ → Pass ρ σ) : Nat → Nat → σ → Pass ρ σ
  | _, 0, s => .next s
  | i, n + 1, s => (body i s).bind (iterate body (i + 1) n)

/-- `carry f i n s`: `n` passes that never return early. -/
def carry (f : Nat → σ → σ) : Nat → Nat → σ → σ
  | _, 0, s => s
  | i, n + 1, s => carry f (i + 1) n (f i s)

@[simp] theorem iterate_zero (body : Nat → σ → Pass ρ σ) (i : Nat) (s : σ) :
    iterate body i 0 s = .next s := rfl

theorem iterate_succ (body : Nat → σ → Pass ρ σ) (i n : Nat) (s : σ) :
    iterate body i (n + 1) s = (body i s).bind (iterate body (i + 1) n) := rfl

@[simp] theorem carry_zero (f : Nat → σ → σ) (i : Nat) (s : σ) : carry f i 0 s = s := rfl

theorem carry_succ (f : Nat → σ → σ) (i n : Nat) (s : σ) :
    carry f i (n + 1) s = carry f (i + 1) n (f i s) := rfl

/-- A loop of `m + n` passes is a loop of `m` followed by one of `n`. -/
theorem iterate_add (body : Nat → σ → Pass ρ σ) (i m n : Nat) (s : σ) :
    iterate body i (m + n) s = (iterate body i m s).bind (iterate body (i + m) n) := by
  induction m generalizing i s with
  | zero => simp
  | succ m ih =>
      rw [show m + 1 + n = (m + n) + 1 by omega, iterate_succ, iterate_succ]
      cases body i s with
      | ret r => rfl
      | next s' => rw [Pass.bind_next, Pass.bind_next, ih, show i + 1 + m = i + (m + 1) by omega]

/-- The last pass of a return-free loop, split off. -/
theorem carry_succ_last (f : Nat → σ → σ) (i n : Nat) (s : σ) :
    carry f i (n + 1) s = f (i + n) (carry f i n s) := by
  induction n generalizing i s with
  | zero => rfl
  | succ n ih => rw [carry_succ, ih, carry_succ, show i + 1 + n = i + (n + 1) by omega]

/-- A return-free loop of `m + n` passes is a loop of `m` followed by one of `n` that numbers its passes anew. -/
theorem carry_split (f : Nat → σ → σ) (m n : Nat) (s : σ) :
    carry f 0 (m + n) s = carry (fun i => f (m + i)) 0 n (carry f 0 m s) := by
  induction n with
  | zero => rfl
  | succ n ih => rw [← Nat.add_assoc, carry_succ_last, ih, carry_succ_last, Nat.zero_add, Nat.zero_add]

/-- Passes at the end of a loop that change nothing. -/
theorem carry_of_stays {f : Nat → σ → σ} {m n : Nat} (hmn : m ≤ n) (hstays : ∀ i s, m ≤ i → f i s = s) (s : σ) :
    carry f 0 n s = carry f 0 m s := by
  obtain ⟨k, rfl⟩ := Nat.exists_eq_add_of_le hmn
  clear hmn
  induction k with
  | zero => rfl
  | succ k ih => rw [← Nat.add_assoc, carry_succ_last, Nat.zero_add, hstays _ _ (Nat.le_add_right m k), ih]

/-- A return-free loop that ignores its index is function iteration. -/
theorem carry_const (f : σ → σ) (i n : Nat) (s : σ) : carry (fun _ => f) i n s = f^[n] s := by
  induction n generalizing i s with
  | zero => rfl
  | succ n ih => rw [carry_succ, ih, Function.iterate_succ_apply]

/-- Bodies that agree on the passes taken make equal loops. -/
theorem carry_congr {f g : Nat → σ → σ} {i n : Nat} (s : σ)
    (h : ∀ j s, i ≤ j → j < i + n → f j s = g j s) : carry f i n s = carry g i n s := by
  induction n with
  | zero => rfl
  | succ n ih =>
      rw [carry_succ_last, carry_succ_last, ih (fun j s hj hjn => h j s hj (by omega)),
        h (i + n) _ (by omega) (by omega)]

/-- A value kept by every pass is kept by a return-free loop. -/
theorem carry_invariant {f : Nat → σ → σ} {P : Nat → σ → Prop} {i n : Nat} {s : σ} (h0 : P i s)
    (hstep : ∀ j s, i ≤ j → j < i + n → P j s → P (j + 1) (f j s)) : P (i + n) (carry f i n s) := by
  induction n with
  | zero => exact h0
  | succ n ih =>
      rw [carry_succ_last]
      exact hstep (i + n) _ (by omega) (by omega)
        (ih (fun j s hj hjn => hstep j s hj (by omega)))

/-- A return-free loop over the first `n` entries of a list is a fold over them. -/
theorem carry_entries {α : Type} (g : α → σ → σ) (d : α) {l : List α} {n : Nat} (hn : n ≤ l.length) (s : σ) :
    carry (fun i cur => g (l.getD i d) cur) 0 n s = (l.take n).foldl (fun cur a => g a cur) s := by
  induction n with
  | zero => simp
  | succ n ih =>
      have hlt : n < l.length := hn
      rw [carry_succ_last, ih (by omega), List.take_add_one, List.foldl_append, Nat.zero_add,
        List.getD_eq_getElem?_getD, List.getElem?_eq_getElem hlt]
      rfl

/-- The same loop over the entries from `b` on. -/
theorem carry_entries_from {α : Type} (g : α → σ → σ) (d : α) {l : List α} {b n : Nat} (hn : b + n ≤ l.length)
    (s : σ) : carry (fun i cur => g (l.getD (b + i) d) cur) 0 n s =
      ((l.drop b).take n).foldl (fun cur a => g a cur) s := by
  have hread : ∀ i, l.getD (b + i) d = (l.drop b).getD i d := by
    intro i
    rw [List.getD_eq_getElem?_getD, List.getD_eq_getElem?_getD, List.getElem?_drop]
  simp only [hread]
  exact carry_entries g d (by rw [List.length_drop]; omega) s

/-- A loop that takes `k` entries a pass is a fold over all of them, when each pass is the fold over its own. -/
theorem carry_groups {α : Type} {f : Nat → σ → σ} {g : σ → α → σ} {l : List α} {k n : Nat}
    (hf : ∀ j s, j < n → f j s = ((l.drop (j * k)).take k).foldl g s) (s : σ) :
    carry f 0 n s = (l.take (n * k)).foldl g s := by
  induction n with
  | zero => simp
  | succ n ih =>
      rw [carry_succ_last, ih (fun j s hj => hf j s (by omega)), Nat.zero_add, hf n _ (by omega),
        ← List.foldl_append, ← List.take_add, Nat.succ_mul]

/-- **Relational rule.** Bodies that take related carried values to related passes make related loops. -/
theorem iterate_rel {Q : ρ → ρ' → Prop} {R : σ → τ → Prop} {f : Nat → σ → Pass ρ σ}
    {g : Nat → τ → Pass ρ' τ} (hstep : ∀ i s t, R s t → Pass.Rel Q R (f i s) (g i t)) (i n : Nat)
    {s : σ} {t : τ} (h : R s t) : Pass.Rel Q R (iterate f i n s) (iterate g i n t) := by
  induction n generalizing i s t with
  | zero => exact .next h
  | succ n ih =>
      rw [iterate_succ, iterate_succ]
      have hs := hstep i s t h
      generalize f i s = p, g i t = q at hs
      cases hs with
      | ret h => exact .ret h
      | next h' => exact ih (i + 1) h'

/-- **Postcondition rule.** A property of the answer is carried back from where the loop leaves: an early return, or
    the code `k` after the last pass. -/
theorem iterate_post {body : Nat → σ → Pass ρ σ} {k : σ → ρ} (post : Nat → σ → ρ → Prop)
    (hret : ∀ j s r, body j s = .ret r → post j s r)
    (hnext : ∀ j s s' r, body j s = .next s' → post (j + 1) s' r → post j s r) (i n : Nat) (s : σ)
    (hend : ∀ s, post (i + n) s (k s)) : post i s ((iterate body i n s).after k) := by
  induction n generalizing i s with
  | zero => exact hend s
  | succ n ih =>
      rw [iterate_succ]
      cases hb : body i s with
      | ret r => exact hret i s r hb
      | next s' =>
          apply hnext i s s' _ hb
          apply ih
          intro s
          rw [show i + 1 + n = i + (n + 1) by omega]
          exact hend s

/-- What holds of the carried value when a loop and the code `k` after it answer yes. -/
theorem iterate_accepts {body : Nat → σ → Pass Bool σ} {k : σ → Bool} (good : Nat → σ → Prop)
    (hret : ∀ j s, body j s = .ret true → good j s)
    (hnext : ∀ j s s', body j s = .next s' → good (j + 1) s' → good j s) {i n : Nat} {s : σ}
    (hend : ∀ s, k s = true → good (i + n) s) (h : (iterate body i n s).after k = true) : good i s := by
  refine iterate_post (fun j s r => r = true → good j s) ?_ ?_ i n s hend h
  · rintro j s r hb rfl
    exact hret j s hb
  · intro j s s' r hb hgood hr
    exact hnext j s s' hb (hgood hr)

/-- The number of the first pass does not matter to a body that ignores it. -/
theorem iterate_const (b : σ → Pass ρ σ) (i j n : Nat) (s : σ) :
    iterate (fun _ => b) i n s = iterate (fun _ => b) j n s := by
  induction n generalizing i j s with
  | zero => rfl
  | succ n ih =>
      rw [iterate_succ, iterate_succ]
      cases b s with
      | ret r => rfl
      | next s' => exact ih (i + 1) (j + 1) s'

/-- Two loops over one body are one longer loop, when the code between them leaves only where the body does. -/
theorem after_iterate_again {b : σ → Pass ρ σ} {stop : σ → Bool} {answer k : σ → ρ}
    (hstop : ∀ s, stop s = true → b s = .ret (answer s)) (m n : Nat) (s : σ) :
    ((iterate (fun _ => b) 0 m s).after fun first =>
        if stop first then answer first else (iterate (fun _ => b) 0 (n + 1) first).after k) =
      (iterate (fun _ => b) 0 (m + (n + 1)) s).after k := by
  rw [iterate_add]
  cases iterate (fun _ => b) 0 m s with
  | ret r => rfl
  | next first =>
      rw [Pass.after_next, Pass.bind_next, iterate_const b (0 + m) 0]
      cases hs : stop first with
      | true => rw [if_pos rfl, iterate_succ, hstop first hs, Pass.bind_ret, Pass.after_ret]
      | false => rw [if_neg Bool.false_ne_true]

/-! ## Loops that stop as soon as a test holds -/

/-- One pass of `f`, skipped once `p` holds. -/
def settle (p : σ → Bool) (f : σ → σ) (s : σ) : σ := if p s then s else f s

theorem settle_of_fin {p : σ → Bool} {s : σ} (f : σ → σ) (h : p s = true) : settle p f s = s :=
  if_pos h

theorem settle_of_not_fin {p : σ → Bool} {s : σ} (f : σ → σ) (h : p s = false) :
    settle p f s = f s := by
  simp [settle, h]

/-- A step that leaves settled values alone needs no guard. -/
theorem settle_eq_self {p : σ → Bool} {f : σ → σ} (hfix : ∀ s, p s = true → f s = s) : settle p f = f := by
  funext s
  cases hs : p s with
  | true => rw [settle_of_fin f hs, hfix s hs]
  | false => rw [settle_of_not_fin f hs]

/-- A settled value stays put. -/
theorem iterate_settle_of_fin {p : σ → Bool} {s : σ} (f : σ → σ) (h : p s = true) (n : Nat) :
    (settle p f)^[n] s = s :=
  Function.iterate_fixed (settle_of_fin f h) n

/-- A loop whose body returns `k s` when the carried value is settled on entry or after `f`. -/
theorem iterate_settle {p : σ → Bool} {f : σ → σ} {k : σ → ρ} {b : Nat → σ → Pass ρ σ}
    (hb : ∀ i s, b i s =
      if p s then .ret (k s) else if p (f s) then .ret (k (f s)) else .next (f s))
    (i n : Nat) {s : σ} (hs : n ≠ 0 ∨ p s = false) :
    iterate b i n s =
      if p ((settle p f)^[n] s) then .ret (k ((settle p f)^[n] s))
      else .next ((settle p f)^[n] s) := by
  induction n generalizing i s with
  | zero =>
      have hf : p s = false := hs.resolve_left (fun h => h rfl)
      simp [hf]
  | succ n ih =>
      rw [iterate_succ, hb]
      cases hf : p s with
      | true => simp [iterate_settle_of_fin f hf, hf]
      | false =>
          rw [Function.iterate_succ_apply, settle_of_not_fin f hf]
          cases hf' : p (f s) with
          | true => simp [iterate_settle_of_fin f hf', hf']
          | false => simpa using ih (i + 1) (Or.inr hf')

/-- A loop whose body tests after `f` only, where `f` leaves settled values alone. -/
theorem iterate_exit {p : σ → Bool} {f : σ → σ} {b : Nat → σ → Pass σ σ} (hfix : ∀ s, p s = true → f s = s)
    (hb : ∀ i s, b i s = if p (f s) then .ret (f s) else .next (f s)) (i n : Nat) {s : σ}
    (hs : n ≠ 0 ∨ p s = false) :
    iterate b i n s = if p (f^[n] s) then .ret (f^[n] s) else .next (f^[n] s) := by
  have hentry : ∀ i s, b i s =
      if p s then .ret (id s) else if p (f s) then .ret (id (f s)) else .next (f s) := by
    intro i s
    rw [hb]
    cases hf : p s with
    | true => simp [hfix s hf, hf]
    | false => simp
  rw [iterate_settle hentry i n hs, settle_eq_self hfix]
  rfl

/-- A loop whose body tests on entry only. -/
theorem iterate_guard {p : σ → Bool} {f : σ → σ} {k : σ → ρ} {b : Nat → σ → Pass ρ σ}
    (hb : ∀ i s, b i s = if p s then .ret (k s) else .next (f s)) (i n : Nat) (s : σ) :
    (iterate b i n s).after k = k ((settle p f)^[n] s) := by
  induction n generalizing i s with
  | zero => rfl
  | succ n ih =>
      rw [iterate_succ, hb]
      cases hf : p s with
      | true => simp [iterate_settle_of_fin f hf]
      | false =>
          rw [Function.iterate_succ_apply, settle_of_not_fin f hf]
          simpa using ih (i + 1) (f s)

/-- A loop over chunks, each a loop of its own, that both test on entry. -/
theorem iterate_chunks {p : σ → Bool} {f chunk : σ → σ} (k : σ → ρ) (hfix : ∀ s, p s = true → f s = s) {n : Nat}
    (hchunk : ∀ s, chunk s = (iterate (fun _ s => if p s then .ret s else .next (f s)) 0 n s).after id) (m : Nat)
    (s : σ) :
    (iterate (fun _ s => if p s then .ret (k s) else .next (chunk s)) 0 m s).after k = k (f^[n * m] s) := by
  have hrun : chunk = f^[n] := by
    funext s
    have hguard := iterate_guard (p := p) (f := f) (k := id)
      (b := fun _ s => if p s then .ret s else .next (f s)) (fun _ _ => rfl) 0 n s
    rw [hchunk, hguard, settle_eq_self hfix]
    rfl
  have hstop : ∀ s, p s = true → chunk s = s := by
    intro s hs
    rw [hrun]
    exact Function.iterate_fixed (hfix s hs) n
  rw [iterate_guard (fun _ _ => rfl), settle_eq_self hstop, hrun, Function.iterate_mul]

/-- One batch of a loop over batches that test in every pass and once more at the end. -/
theorem iterate_batch {p : σ → Bool} {f : σ → σ} (k : σ → ρ) (hfix : ∀ s, p s = true → f s = s) (i n : Nat) (s : σ) :
    ((iterate (fun _ inner => if p inner then .ret (k inner) else .next (f inner)) i n s).bind fun inner =>
        if p inner then .ret (k inner) else .next inner) =
      if p (f^[n] s) then .ret (k (f^[n] s)) else Pass.next (f^[n] s) := by
  induction n generalizing i s with
  | zero => rfl
  | succ n ih =>
      rw [iterate_succ, Function.iterate_succ_apply]
      cases hp : p s with
      | true =>
          rw [hfix s hp, Function.iterate_fixed (hfix s hp), hp]
          rfl
      | false => exact ih (i + 1) (f s)

/-- A loop over such batches. -/
theorem iterate_batches {p : σ → Bool} {f : σ → σ} (k : σ → ρ) (hfix : ∀ s, p s = true → f s = s) (m n : Nat) (s : σ) :
    (iterate (fun _ outer =>
          (iterate (fun _ inner => if p inner then .ret (k inner) else .next (f inner)) 0 n outer).bind fun inner =>
            if p inner then .ret (k inner) else .next inner)
        0 m s).after k = k (f^[n * m] s) := by
  simp only [iterate_batch k hfix]
  generalize 0 = i
  induction m generalizing i s with
  | zero => rfl
  | succ m ih =>
      have hsplit : f^[n * (m + 1)] s = f^[n * m] (f^[n] s) := by
        rw [Nat.mul_succ, Function.iterate_add_apply]
      rw [iterate_succ, hsplit]
      cases hp : p (f^[n] s) with
      | true =>
          rw [Function.iterate_fixed (hfix _ hp)]
          rfl
      | false => exact ih (f^[n] s) (i + 1)

theorem iterate_chunks_id {p : σ → Bool} {f chunk : σ → σ} (hfix : ∀ s, p s = true → f s = s) {n : Nat}
    (hchunk : ∀ s, chunk s = (iterate (fun _ s => if p s then .ret s else .next (f s)) 0 n s).after id) (m : Nat)
    (s : σ) :
    (iterate (fun _ s => if p s then .ret s else .next (chunk s)) 0 m s).after id = f^[n * m] s :=
  iterate_chunks id hfix hchunk m s

/-- A loop over chunks whose body may move past the end: it settles. -/
theorem iterate_chunks_settle {p : σ → Bool} {f chunk : σ → σ} (k : σ → ρ) {n : Nat}
    (hchunk : ∀ s, chunk s = (iterate (fun _ s => if p s then .ret s else .next (f s)) 0 n s).after id) (m : Nat)
    (s : σ) :
    (iterate (fun _ s => if p s then .ret (k s) else .next (chunk s)) 0 m s).after k =
      k ((settle p f)^[n * m] s) := by
  refine iterate_chunks k (fun s hs => settle_of_fin f hs) ?_ m s
  intro s
  rw [hchunk]
  have hbody : (fun (_ : Nat) s => if p s then Pass.ret s else .next (f s)) =
      fun _ s => if p s then Pass.ret s else .next (settle p f s) := by
    funext _ s
    cases hs : p s with
    | true => rfl
    | false => rw [settle_of_not_fin f hs]
  rw [hbody]

/-- Enough passes settle: `w` bounds the number of unsettled passes left. -/
theorem settle_done {p : σ → Bool} {f : σ → σ} {P : σ → Prop} {w : σ → Nat}
    (hP : ∀ s, P s → p s = false → P (f s))
    (hdec : ∀ s, P s → p s = false → p (f s) = true ∨ w (f s) < w s)
    (hpos : ∀ s, P s → p s = false → 0 < w s)
    {n : Nat} {s : σ} (hs : P s) (hn : w s ≤ n) : p ((settle p f)^[n] s) = true := by
  induction n generalizing s with
  | zero =>
      cases hf : p s with
      | true => exact hf
      | false => have := hpos s hs hf; omega
  | succ n ih =>
      rw [Function.iterate_succ_apply]
      cases hf : p s with
      | true => rw [settle_of_fin f hf, iterate_settle_of_fin f hf]; exact hf
      | false =>
          rw [settle_of_not_fin f hf]
          rcases hdec s hs hf with h | h
          · rw [iterate_settle_of_fin f h]; exact h
          · exact ih (hP s hs hf) (by omega)

/-- Two counts of passes that both settle give the same value. -/
theorem settle_unique {f : σ → σ} {p : σ → Bool} (hfix : ∀ s, p s = true → f s = s)
    {m n : Nat} {s : σ} (hm : p (f^[m] s) = true) (hn : p (f^[n] s) = true) :
    f^[m] s = f^[n] s := by
  rcases Nat.le_total m n with h | h
  · obtain ⟨k, rfl⟩ := Nat.exists_eq_add_of_le h
    rw [Nat.add_comm m k, Function.iterate_add_apply, Function.iterate_fixed (hfix _ hm)]
  · obtain ⟨k, rfl⟩ := Nat.exists_eq_add_of_le h
    rw [Nat.add_comm n k, Function.iterate_add_apply, Function.iterate_fixed (hfix _ hn)]

end BoundedLoop
