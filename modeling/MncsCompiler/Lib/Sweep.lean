import MncsCompiler.Lib.Loop

/-!
# `Lib.Sweep` — bounded passes over a list

Loops with a fixed number of passes that take one element of a list a pass: folding what they take (`Sweep`),
checking it until a check fails (`Audit`), or looking for an element (`Search`). Each lemma says what `n` passes
have done; a bound at least as long as the list does it all. The `iterate_…` lemmas are about any
loop state that holds such a list among other things.
-/

namespace BoundedLoop

variable {α γ ε ρ σ : Type}

/-! ## Folds -/

/-- The elements still to take, and what the taken ones have made. -/
structure Sweep (α γ : Type) where
  rest : List α
  acc : γ

def Sweep.step (f : γ → α → γ) (st : Sweep α γ) : Sweep α γ :=
  match st.rest with
  | [] => st
  | h :: t => { rest := t, acc := f st.acc h }

/-- `n` passes fold the first `n` elements. -/
theorem Sweep.iterate_step (f : γ → α → γ) (n : Nat) (st : Sweep α γ) :
    (Sweep.step f)^[n] st = { rest := st.rest.drop n, acc := (st.rest.take n).foldl f st.acc } := by
  induction n generalizing st with
  | zero => rfl
  | succ n ih =>
      rw [Function.iterate_succ_apply, ih]
      obtain ⟨rest, acc⟩ := st
      cases rest with
      | nil => simp [Sweep.step]
      | cons h t => rfl

/-- The reversal that `n` passes make. -/
def reverseWithin (n : Nat) (list : List α) : List α :=
  ((Sweep.step (fun acc h => h :: acc))^[n] { rest := list, acc := [] }).acc

theorem reverseWithin_eq {n : Nat} {list : List α} : reverseWithin n list = (list.take n).reverse := by
  rw [reverseWithin, Sweep.iterate_step, List.foldl_flip_cons_eq_append']
  simp

/-- What `n` passes put before a list, the last element first. -/
def prependWithin (n : Nat) (list second : List α) : List α :=
  ((Sweep.step (fun acc h => h :: acc))^[n] { rest := list, acc := second }).acc

theorem prependWithin_eq {n : Nat} {list second : List α} :
    prependWithin n list second = (list.take n).reverse ++ second := by
  rw [prependWithin, Sweep.iterate_step, List.foldl_flip_cons_eq_append']

/-- What `n` passes read off the elements, the last one first. -/
def collectWithin (n : Nat) (f : α → γ) (list : List α) : List γ :=
  ((Sweep.step (fun acc h => f h :: acc))^[n] { rest := list, acc := [] }).acc

theorem collectWithin_eq {n : Nat} {f : α → γ} {list : List α} :
    collectWithin n f list = ((list.take n).map f).reverse := by
  rw [collectWithin, Sweep.iterate_step]
  exact (List.foldl_map (g := fun acc h => h :: acc)).symm.trans (by
    rw [List.foldl_flip_cons_eq_append', List.append_nil])

/-- The reversal that `m` batches of `n` passes make, which stops when the list is used up. -/
def reverseBatches (m n : Nat) (list : List α) : List α :=
  (iterate (fun _ (outer : Sweep α (List α)) =>
        (iterate (fun _ (inner : Sweep α (List α)) =>
              if inner.rest.isEmpty then .ret inner.acc
              else .next (Sweep.step (fun acc h => h :: acc) inner))
            0 n outer).bind fun inner =>
          if inner.rest.isEmpty then .ret inner.acc
          else .next inner)
      0 m { rest := list, acc := [] }).after Sweep.acc

/-- What `m` batches of `n` passes put before a list, the last element first. -/
def prependBatches (m n : Nat) (list second : List α) : List α :=
  (iterate (fun _ (outer : Sweep α (List α)) =>
        (iterate (fun _ (inner : Sweep α (List α)) =>
              if inner.rest.isEmpty then .ret inner.acc
              else .next (Sweep.step (fun acc h => h :: acc) inner))
            0 n outer).bind fun inner =>
          if inner.rest.isEmpty then .ret inner.acc
          else .next inner)
      0 m { rest := list, acc := second }).after Sweep.acc

theorem Sweep.step_nil {f : γ → α → γ} (st : Sweep α γ) (h : st.rest.isEmpty = true) : Sweep.step f st = st := by
  obtain ⟨rest, acc⟩ := st
  obtain rfl := List.isEmpty_iff.mp h
  rfl

/-- A sweep that stops after `n` elements, when the list has no more. -/
theorem Sweep.iterate_limited (f : γ → α → γ) {n m i : Nat} {st : Sweep α γ} (hm : st.rest.length ≤ m)
    (hn : i + st.rest.length ≤ n) :
    (iterate (fun i (st : Sweep α γ) =>
        if i ≥ n || st.rest.isEmpty then .ret st.acc else .next (Sweep.step f st)) i m st).after (fun st => st.acc) =
      st.rest.foldl f st.acc := by
  induction m generalizing i st with
  | zero =>
      rw [List.eq_nil_of_length_eq_zero (Nat.le_zero.mp hm)]
      rfl
  | succ m ih =>
      rw [iterate_succ]
      obtain ⟨rest, acc⟩ := st
      cases rest with
      | nil => simp
      | cons a rest =>
          rw [List.length_cons] at hm hn
          rw [if_neg (by simp; omega), Pass.bind_next]
          exact @ih (i + 1) { rest := rest, acc := f acc a } (Nat.le_of_succ_le_succ hm) (by simp only; omega)

theorem prependBatches_eq {m n : Nat} {list second : List α} :
    prependBatches m n list second = (list.take (n * m)).reverse ++ second := by
  rw [prependBatches, iterate_batches Sweep.acc Sweep.step_nil, Sweep.iterate_step, List.foldl_flip_cons_eq_append']

theorem reverseBatches_eq {m n : Nat} {list : List α} : reverseBatches m n list = (list.take (n * m)).reverse := by
  rw [reverseBatches, iterate_batches Sweep.acc Sweep.step_nil, Sweep.iterate_step, List.foldl_flip_cons_eq_append',
    List.append_nil]

/-- The count that `n` passes make. -/
def countWithin (n : Nat) (list : List α) : Nat :=
  ((Sweep.step (fun count (_ : α) => count + 1))^[n] { rest := list, acc := 0 }).acc

theorem foldl_succ (l : List α) (k : Nat) : l.foldl (fun count (_ : α) => count + 1) k = k + l.length := by
  induction l generalizing k with
  | nil => rfl
  | cons h t ih => rw [List.foldl_cons, ih, List.length_cons, Nat.add_assoc, Nat.add_comm 1]

theorem countWithin_eq {n : Nat} {list : List α} : countWithin n list = min n list.length := by
  rw [countWithin, Sweep.iterate_step, foldl_succ, Nat.zero_add, List.length_take]

/-- What any loop makes that takes one element a pass: the fold of what it took. -/
theorem iterate_foldl {step : σ → σ} (rest : σ → List α) (acc : σ → γ) (f : γ → α → γ)
    (hnil : ∀ s, rest s = [] → step s = s)
    (hcons : ∀ s a t, rest s = a :: t → rest (step s) = t ∧ acc (step s) = f (acc s) a) (n : Nat) (s : σ) :
    acc (step^[n] s) = ((rest s).take n).foldl f (acc s) := by
  induction n generalizing s with
  | zero => simp
  | succ n ih =>
      rw [Function.iterate_succ_apply, ih]
      cases hrest : rest s with
      | nil =>
          rw [hnil s hrest, hrest]
          simp
      | cons a t =>
          obtain ⟨htail, hacc⟩ := hcons s a t hrest
          rw [htail, hacc]
          rfl

/-- What is made by such a loop that runs in chunks and stops when the list is used up. -/
theorem iterate_chunks_foldl {step : σ → σ} (chunk : σ → σ) (rest : σ → List α) (acc : σ → γ) (f : γ → α → γ) (k : σ → ρ)
    (made : ρ → ε) (out : γ → ε) (hnil : ∀ s, rest s = [] → step s = s)
    (hcons : ∀ s a t, rest s = a :: t → rest (step s) = t ∧ acc (step s) = f (acc s) a)
    (hk : ∀ s, made (k s) = out (acc s)) {n : Nat}
    (hchunk : ∀ s, chunk s = (iterate (fun _ s => if (rest s).isEmpty then .ret s else .next (step s)) 0 n s).after id)
    (m : Nat) (s : σ) :
    made ((iterate (fun _ s => if (rest s).isEmpty then .ret (k s) else .next (chunk s)) 0 m s).after k) =
      out (((rest s).take (n * m)).foldl f (acc s)) := by
  rw [iterate_chunks k (fun s hs => hnil s (List.isEmpty_iff.mp hs)) hchunk, hk, iterate_foldl rest acc f hnil hcons]

/-- The count of any loop that counts one element a pass. -/
theorem iterate_count {step : σ → σ} (rest : σ → List α) (count : σ → Nat) (hnil : ∀ s, rest s = [] → step s = s)
    (hcons : ∀ s a t, rest s = a :: t → rest (step s) = t ∧ count (step s) = count s + 1) (n : Nat) (s : σ) :
    count (step^[n] s) = count s + min n (rest s).length := by
  rw [iterate_foldl rest count (fun count _ => count + 1) hnil hcons, foldl_succ, List.length_take]

/-- The count of a loop that stops early at a limit is exact when neither its limit nor its passes run out. -/
theorem iterate_tally {b : σ → Pass Nat σ} {k : σ → Nat} {step : σ → σ} (rest : σ → List α) (count seen limit : σ → Nat)
    (test : σ → α → Bool)
    (hb : ∀ s, b s = if (rest s).isEmpty then .ret (count s)
      else if seen s ≥ limit s then .ret (limit s + 1) else .next (step s))
    (hk : ∀ s, rest s = [] → k s = count s)
    (hcons : ∀ s a t, rest s = a :: t → rest (step s) = t ∧ count (step s) = count s + (if test s a then 1 else 0) ∧
      seen (step s) = seen s + 1 ∧ limit (step s) = limit s ∧ test (step s) = test s)
    {n : Nat} {s : σ} (hn : (rest s).length ≤ n) (hlimit : seen s + (rest s).length ≤ limit s) :
    (iterate (fun _ => b) 0 n s).after k = count s + (rest s).countP (test s) := by
  induction n generalizing s with
  | zero =>
      have hnil : rest s = [] := List.length_eq_zero_iff.mp (Nat.le_zero.mp hn)
      rw [iterate_zero, Pass.after_next, hk s hnil, hnil]
      rfl
  | succ n ih =>
      rw [iterate_succ, hb]
      cases hrest : rest s with
      | nil => rfl
      | cons a t =>
          obtain ⟨htail, hcount, hseen, hlim, htest⟩ := hcons s a t hrest
          rw [hrest, List.length_cons] at hn hlimit
          rw [if_neg (by simp), if_neg (by omega), Pass.bind_next, iterate_const b (0 + 1) 0,
            ih (by rw [htail]; omega) (by rw [htail, hseen, hlim]; omega), htail, hcount, htest,
            List.countP_cons]
          omega

/-! ## Checks -/

/-- The elements still to check, and whether all checks so far succeeded. -/
structure Audit (α : Type) where
  rest : List α
  ok : Bool

def Audit.step (check : α → Bool) (st : Audit α) : Audit α :=
  if !st.ok then st
  else
    match st.rest with
    | [] => st
    | h :: t => { rest := t, ok := check h }

/-- Every element was taken and none failed. -/
def Audit.passed (st : Audit α) : Bool := st.ok && st.rest.isEmpty

/-- **An audit passes** exactly when its passes are enough and every check succeeds. -/
theorem Audit.passed_iff (check : α → Bool) (n : Nat) (list : List α) :
    ((Audit.step check)^[n] { rest := list, ok := true }).passed = true ↔
      list.length ≤ n ∧ ∀ h ∈ list, check h = true := by
  induction n generalizing list with
  | zero => cases list <;> simp [Audit.passed]
  | succ n ih =>
      rw [Function.iterate_succ_apply]
      cases list with
      | nil => simpa [Audit.step] using ih []
      | cons h t =>
          cases hc : check h with
          | true =>
              have hstep : Audit.step check { rest := h :: t, ok := true } = { rest := t, ok := true } := by
                simp [Audit.step, hc]
              rw [hstep, ih]
              simp [hc]
          | false =>
              have hfix : Audit.step check { rest := t, ok := false } = { rest := t, ok := false } := rfl
              have hstep : Audit.step check { rest := h :: t, ok := true } = { rest := t, ok := false } := by
                simp [Audit.step, hc]
              rw [hstep, Function.iterate_fixed hfix]
              simp [Audit.passed, hc]

theorem Audit.passed_eq {check : α → Bool} {n : Nat} {list : List α} :
    ((Audit.step check)^[n] { rest := list, ok := true }).passed = (decide (list.length ≤ n) && list.all check) := by
  rw [Bool.eq_iff_iff, Audit.passed_iff, Bool.and_eq_true, decide_eq_true_eq, List.all_eq_true]

/-- What a loop has checked that takes one element a pass while all is well: `env` is what it keeps, and the pass over
    `a` ends well only if `check` holds. -/
theorem iterate_checked {step : σ → σ} (rest : σ → List α) (ok : σ → Bool) (env : σ → ε) (check : ε → α → Prop)
    (hstop : ∀ s, ok s = false → step s = s) (hnil : ∀ s, rest s = [] → step s = s)
    (hcons : ∀ s a t, ok s = true → rest s = a :: t →
      rest (step s) = t ∧ env (step s) = env s ∧ (ok (step s) = true → check (env s) a))
    {n : Nat} {s : σ} (h : ok (step^[n] s) = true) :
    rest (step^[n] s) = (rest s).drop n ∧ ∀ a ∈ (rest s).take n, check (env s) a := by
  induction n generalizing s with
  | zero => simp
  | succ n ih =>
      rw [Function.iterate_succ_apply] at h ⊢
      cases hok : ok s with
      | false =>
          -- a failed loop stays where it is
          rw [hstop s hok, Function.iterate_fixed (hstop s hok), hok] at h
          cases h
      | true =>
          obtain ⟨hrest, hchecked⟩ := ih h
          cases hs : rest s with
          | nil =>
              rw [hnil s hs, hs] at hrest
              rw [hnil s hs, hrest]
              simp
          | cons a t =>
              obtain ⟨htail, henv, hcheck⟩ := hcons s a t hok hs
              rw [htail] at hrest hchecked
              refine ⟨hrest, ?_⟩
              intro b hb
              rcases List.mem_cons.mp hb with rfl | hb
              · apply hcheck
                cases hstep : ok (step s) with
                | true => rfl
                | false =>
                    rw [Function.iterate_fixed (hstop _ hstep), hstep] at h
                    cases h
              · rw [← henv]
                exact hchecked b hb

/-- Such a loop that has come to the end of its list has checked all of it. -/
theorem iterate_checked_all {step : σ → σ} (rest : σ → List α) (ok : σ → Bool) (env : σ → ε) (check : ε → α → Prop)
    (hstop : ∀ s, ok s = false → step s = s) (hnil : ∀ s, rest s = [] → step s = s)
    (hcons : ∀ s a t, ok s = true → rest s = a :: t →
      rest (step s) = t ∧ env (step s) = env s ∧ (ok (step s) = true → check (env s) a))
    {n : Nat} {s : σ} (h : (ok (step^[n] s) && (rest (step^[n] s)).isEmpty) = true) :
    ∀ a ∈ rest s, check (env s) a := by
  rw [Bool.and_eq_true, List.isEmpty_iff] at h
  obtain ⟨hrest, hchecked⟩ := iterate_checked rest ok env check hstop hnil hcons h.1
  rw [h.2] at hrest
  rwa [List.take_of_length_le (List.drop_eq_nil_iff.mp hrest.symm)] at hchecked

/-- What has been established when a loop answers yes that takes one element a pass, gives up on a failed check, and
    gives up when elements are left at its limit. -/
theorem iterate_audited {body : Nat → σ → Pass Bool σ} {k : σ → Bool} {step : σ → σ} {spent : Nat → σ → Prop}
    [∀ i s, Decidable (spent i s)] (rest : σ → List α) (ok answer : σ → Bool) (good : Nat → σ → Prop)
    (hb : ∀ i s, body i s = if !ok s then .ret false else if (rest s).isEmpty then .ret (answer s)
      else if spent i s then .ret false else .next (step s))
    (hk : ∀ s, k s = true → ok s = true ∧ (rest s).isEmpty = true ∧ answer s = true)
    (hempty : ∀ i s, rest s = [] → ok s = true → answer s = true → good i s)
    (hstep : ∀ i s a t, rest s = a :: t → ok s = true → ¬ spent i s → good (i + 1) (step s) → good i s)
    {i n : Nat} {s : σ} (h : (iterate body i n s).after k = true) : good i s := by
  refine iterate_accepts good ?_ ?_ ?_ h
  · intro i s hret
    rw [hb] at hret
    split at hret
    · cases hret
    · next hok =>
        split at hret
        · next hrest =>
            exact hempty i s (List.isEmpty_iff.mp hrest) (by simpa using hok) (Pass.ret.inj hret)
        · split at hret <;> cases hret
  · intro i s s' hnext hgood
    rw [hb] at hnext
    split at hnext
    · cases hnext
    · next hok =>
        split at hnext
        · cases hnext
        · next hrest =>
            split at hnext <;> cases hnext
            next hspent =>
              obtain ⟨a, t, hcons⟩ := List.exists_cons_of_ne_nil (fun hnil => hrest (List.isEmpty_iff.mpr hnil))
              exact hstep i s a t hcons (by simpa using hok) hspent hgood
  · intro s hs
    obtain ⟨hok, hrest, hanswer⟩ := hk s hs
    exact hempty (i + n) s (List.isEmpty_iff.mp hrest) hok hanswer

/-- Such a loop answers yes only when it has a pass for every element. -/
theorem iterate_takes {body : Nat → σ → Pass Bool σ} {k : σ → Bool} {step : σ → σ} {spent : Nat → σ → Prop}
    [∀ i s, Decidable (spent i s)] (rest : σ → List α) (ok answer : σ → Bool)
    (hb : ∀ i s, body i s = if !ok s then .ret false else if (rest s).isEmpty then .ret (answer s)
      else if spent i s then .ret false else .next (step s))
    (hk : ∀ s, k s = true → (rest s).isEmpty = true) (hstep : ∀ s, (rest s).length ≤ (rest (step s)).length + 1)
    {i n : Nat} {s : σ} (h : (iterate body i n s).after k = true) : (rest s).length ≤ n := by
  induction n generalizing i s with
  | zero => exact Nat.le_of_eq (congrArg List.length (List.isEmpty_iff.mp (hk s h)))
  | succ n ih =>
      rw [iterate_succ, hb] at h
      split at h
      · cases h
      · split at h
        · next hempty =>
            rw [List.isEmpty_iff.mp hempty]
            exact Nat.zero_le _
        · split at h
          · cases h
          · exact Nat.le_trans (hstep s) (Nat.succ_le_succ (ih h))

/-- Such a loop with a pass for every element decides `good` when each pass reduces `good` to what is left, in the
    states that `inv` describes. -/
theorem iterate_decides {body : Nat → σ → Pass Bool σ} {k : σ → Bool} {step : σ → σ} (rest : σ → List α)
    (ok answer : σ → Bool) (spent : σ → Prop) [DecidablePred spent] (inv good : σ → Prop)
    (hb : ∀ i s, body i s = if !ok s then .ret false else if (rest s).isEmpty then .ret (answer s)
      else if spent s then .ret false else .next (step s))
    (hk : ∀ s, k s = true ↔ ok s = true ∧ rest s = [] ∧ answer s = true) (hbad : ∀ s, good s → ok s = true)
    (hempty : ∀ s, inv s → ok s = true → rest s = [] → (answer s = true ↔ good s))
    (hstep : ∀ s a t, inv s → ok s = true → rest s = a :: t →
      rest (step s) = t ∧ inv (step s) ∧ (good s ↔ ¬ spent s ∧ good (step s)))
    {i n : Nat} {s : σ} (hinv : inv s) (hn : (rest s).length ≤ n) : (iterate body i n s).after k = true ↔ good s := by
  induction n generalizing i s with
  | zero =>
      have hnil : rest s = [] := List.eq_nil_of_length_eq_zero (Nat.le_zero.mp hn)
      rw [iterate_zero, Pass.after_next, hk]
      constructor
      · rintro ⟨hok, hrest, hanswer⟩
        exact (hempty s hinv hok hrest).mp hanswer
      · intro hgood
        exact ⟨hbad s hgood, hnil, (hempty s hinv (hbad s hgood) hnil).mpr hgood⟩
  | succ n ih =>
      rw [iterate_succ, hb]
      cases hok : ok s with
      | false => simpa using fun hgood => absurd (hbad s hgood) (Bool.eq_false_iff.mp hok)
      | true =>
          cases hrest : rest s with
          | nil => simpa using hempty s hinv hok hrest
          | cons a t =>
              obtain ⟨htail, hinv', hgood⟩ := hstep s a t hinv hok hrest
              rw [hrest, List.length_cons] at hn
              rw [hgood, if_neg (by decide), List.isEmpty_cons, if_neg (by decide)]
              by_cases hspent : spent s
              · simp [hspent]
              · rw [if_neg hspent, Pass.bind_next, ih hinv' (by rw [htail]; omega)]
                exact (and_iff_right hspent).symm

/-! ## Searches -/

/-- The elements still to look at, and whether one has been found. -/
structure Search (α : Type) where
  rest : List α
  found : Bool

def Search.step (test : α → Bool) (st : Search α) : Search α :=
  if st.found then st
  else
    match st.rest with
    | [] => st
    | h :: t => { rest := t, found := test h }

/-- What a search finds is there. -/
theorem Search.exists_of_found {test : α → Bool} {n : Nat} {list : List α}
    (h : ((Search.step test)^[n] { rest := list, found := false }).found = true) : ∃ a ∈ list, test a = true := by
  induction n generalizing list with
  | zero => cases h
  | succ n ih =>
      rw [Function.iterate_succ_apply] at h
      cases list with
      | nil => exact ih h
      | cons a t =>
          cases ht : test a with
          | true => exact ⟨a, List.mem_cons_self, ht⟩
          | false =>
              have hstep : Search.step test { rest := a :: t, found := false } = { rest := t, found := false } := by
                simp [Search.step, ht]
              rw [hstep] at h
              obtain ⟨b, hb, htb⟩ := ih h
              exact ⟨b, List.mem_cons_of_mem a hb, htb⟩

/-- What any search has found that looks at one element a pass and holds on to the one it looked at last. -/
theorem iterate_found {step : σ → σ} (rest : σ → List α) (found : σ → Bool) (held : σ → α) (test : σ → α → Bool)
    (hstop : ∀ s, found s = true → step s = s) (hnil : ∀ s, rest s = [] → step s = s)
    (hcons : ∀ s a t, found s = false → rest s = a :: t →
      rest (step s) = t ∧ found (step s) = test s a ∧ held (step s) = a ∧ test (step s) = test s)
    {n : Nat} {s : σ} (hs : found s = false) (h : found (step^[n] s) = true) :
    held (step^[n] s) ∈ rest s ∧ test s (held (step^[n] s)) = true := by
  induction n generalizing s with
  | zero =>
      rw [Function.iterate_zero_apply, hs] at h
      cases h
  | succ n ih =>
      rw [Function.iterate_succ_apply] at h ⊢
      cases hrest : rest s with
      | nil =>
          rw [hnil s hrest, Function.iterate_fixed (hnil s hrest), hs] at h
          cases h
      | cons a t =>
          obtain ⟨htail, hhit, hheld, htest⟩ := hcons s a t hs hrest
          cases hfound : found (step s) with
          | true =>
              rw [Function.iterate_fixed (hstop _ hfound), hheld]
              exact ⟨List.mem_cons_self, hhit.symm.trans hfound⟩
          | false =>
              obtain ⟨hmem, htested⟩ := ih hfound h
              rw [htail] at hmem
              rw [htest] at htested
              exact ⟨List.mem_cons_of_mem a hmem, htested⟩

/-- A search with a pass for every element finds exactly what is there. -/
theorem iterate_search {step : σ → σ} (rest : σ → List α) (found : σ → Bool) (test : σ → α → Bool)
    (hstop : ∀ s, found s = true → step s = s)
    (hcons : ∀ s a t, found s = false → rest s = a :: t →
      rest (step s) = t ∧ found (step s) = test s a ∧ test (step s) = test s)
    {n : Nat} {s : σ} (hs : found s = false) (hnil : ∀ s, rest s = [] → step s = s) (hn : (rest s).length ≤ n) :
    found (step^[n] s) = (rest s).any (test s) := by
  induction n generalizing s with
  | zero =>
      have hrest : rest s = [] := List.eq_nil_of_length_eq_zero (Nat.le_zero.mp hn)
      rw [Function.iterate_zero_apply, hs, hrest, List.any_nil]
  | succ n ih =>
      rw [Function.iterate_succ_apply]
      cases hrest : rest s with
      | nil => rw [hnil s hrest, Function.iterate_fixed (hnil s hrest), hs, List.any_nil]
      | cons a t =>
          obtain ⟨htail, hhit, htest⟩ := hcons s a t hs hrest
          rw [List.any_cons, ← hhit]
          cases hfound : found (step s) with
          | true => rw [Function.iterate_fixed (hstop _ hfound), hfound, Bool.true_or]
          | false =>
              rw [hrest, List.length_cons] at hn
              rw [Bool.false_or, ih hfound (by rw [htail]; omega), htail, htest]

/-- A search over the states `seed`: `n` passes come to the state that the first element in reach picks, if one picks
    one. -/
theorem iterate_first (step : σ → σ) (seed : List α → σ) (pick : α → Option σ) (hnil : step (seed []) = seed [])
    (hcons : ∀ a t, step (seed (a :: t)) = (pick a).getD (seed t)) (hpick : ∀ a s, pick a = some s → step s = s)
    (n : Nat) (list : List α) :
    step^[n] (seed list) = ((list.take n).findSome? pick).getD (seed (list.drop n)) := by
  induction n generalizing list with
  | zero => rfl
  | succ n ih =>
      cases list with
      | nil => rw [Function.iterate_fixed hnil, List.take_nil, List.drop_nil, List.findSome?_nil, Option.getD_none]
      | cons a t =>
          rw [Function.iterate_succ_apply, hcons, List.take_succ_cons, List.findSome?_cons, List.drop_succ_cons]
          cases hfound : pick a with
          | some s => rw [Option.getD_some, Function.iterate_fixed (hpick a s hfound), Option.getD_some]
          | none => rw [Option.getD_none, ih]

/-- A search over the states `seed` for the first element that passes a test, which `picked` takes up. -/
theorem iterate_find (step : σ → σ) (seed : List α → σ) (test : α → Bool) (picked : α → σ)
    (hnil : step (seed []) = seed []) (hcons : ∀ a t, step (seed (a :: t)) = if test a then picked a else seed t)
    (hpicked : ∀ a, step (picked a) = picked a) (n : Nat) (list : List α) :
    step^[n] (seed list) = (((list.take n).find? test).map picked).getD (seed (list.drop n)) := by
  have hscan := iterate_first step seed (fun a => if test a then some (picked a) else none) hnil ?_ ?_ n list
  · rw [hscan]
    congr 1
    induction list.take n with
    | nil => rfl
    | cons a t ih =>
        rw [List.findSome?_cons, List.find?_cons]
        cases htest : test a with
        | true => rfl
        | false => exact ih
  · intro a t
    rw [hcons]
    cases test a <;> rfl
  · intro a s hpick
    split at hpick
    · rw [← Option.some.inj hpick, hpicked]
    · cases hpick

/-- A search that stops early at a limit and answers that nothing was found has looked at every element, when neither
    its limit nor its passes run out. -/
theorem iterate_absent {b : σ → Pass Bool σ} {k : σ → Bool} {step : σ → σ} (rest : σ → List α) (found : σ → Bool)
    (seen limit : σ → Nat) (test : σ → α → Bool)
    (hb : ∀ s, b s = if found s || (rest s).isEmpty || decide (seen s ≥ limit s) then .ret (found s)
      else .next (step s))
    (hcons : ∀ s a t, found s = false → rest s = a :: t → rest (step s) = t ∧ found (step s) = test s a ∧
      seen (step s) = seen s + 1 ∧ limit (step s) = limit s ∧ test (step s) = test s)
    {n : Nat} {s : σ} (hn : (rest s).length < n) (hlimit : seen s + (rest s).length ≤ limit s)
    (h : (iterate (fun _ => b) 0 n s).after k = false) : ∀ a ∈ rest s, test s a = false := by
  induction n generalizing s with
  | zero => omega
  | succ n ih =>
      rw [iterate_succ, hb] at h
      cases hrest : rest s with
      | nil => exact fun _ ha => (List.not_mem_nil ha).elim
      | cons a t =>
          rw [hrest, List.length_cons] at hn hlimit
          cases hfound : found s with
          | true =>
              rw [if_pos (by simp [hfound]), Pass.bind_ret, Pass.after_ret, hfound] at h
              cases h
          | false =>
              obtain ⟨htail, hhit, hseen, hlim, htest⟩ := hcons s a t hfound hrest
              have hgo : (found s || (rest s).isEmpty || decide (seen s ≥ limit s)) = false := by
                simp only [hfound, hrest, List.isEmpty_cons, Bool.false_or, decide_eq_false_iff_not]
                omega
              rw [hgo, if_neg Bool.false_ne_true, Pass.bind_next, iterate_const b (0 + 1) 0] at h
              have hrec := ih (by rw [htail]; omega) (by rw [htail, hseen, hlim]; omega) h
              rw [htail, htest] at hrec
              intro c hc
              rcases List.mem_cons.mp hc with rfl | hc
              · cases ht : test s c with
                | false => rfl
                | true =>
                    -- a hit is answered by the next pass, and one is left
                    obtain ⟨m, rfl⟩ : ∃ m, n = m + 1 := ⟨n - 1, by omega⟩
                    rw [iterate_succ, hb, hhit, ht, Bool.true_or, Bool.true_or, if_pos rfl] at h
                    cases h
              · exact hrec c hc

end BoundedLoop
