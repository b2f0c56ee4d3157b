import MncsCompiler.Decl.Equality
import MncsCompiler.Ssa.Scopes

/-!
# `Ssa.Variables` — variables and their names

A binding carries the span of the name where its variable is declared, so two bindings with one span are of the same
variable. The lowering finds a variable by its spelling instead: the first binding within reach that is spelled alike.
This module says when the two agree, and what rebinding and projection do to a variable.
-/

namespace MncsCompiler.Ssa

open BoundedLoop Decl

variable {src : Source}

/-! ## Spelling -/

/-- Spelling alike asks the same of every binding when the spans themselves are alike. -/
theorem Binding.spells_congr {aStart aStop bStart bStop : Nat} (h : spansEqual src aStart aStop bStart bStop = true)
    (b : Binding) : b.Spells src aStart aStop = b.Spells src bStart bStop := by
  rw [Bool.eq_iff_iff]
  exact ⟨fun hb => spansEqual_trans hb h, fun hb => spansEqual_trans hb (spansEqual_symm h)⟩

/-! ## Variables -/

/-- A binding of the variable that is declared there. -/
def Binding.IsOf (start stop : Nat) (b : Binding) : Bool := b.nameStart = start && b.nameStop = stop

/-- The value that a variable has in a scope. -/
def valueOf (env : List Binding) (start stop : Nat) : Option Nat :=
  (env.find? (Binding.IsOf start stop)).map Binding.value

/-- The binding that a spelling stands for: the first within reach that is spelled alike. -/
def named (src : Source) (env : List Binding) (start stop : Nat) : Option Binding :=
  (env.take 1024).find? (Binding.Spells src start stop)

theorem Binding.isOf_iff {b : Binding} {start stop : Nat} :
    b.IsOf start stop = true ↔ b.nameStart = start ∧ b.nameStop = stop := by
  rw [Binding.IsOf, Bool.and_eq_true, decide_eq_true_eq, decide_eq_true_eq]

/-- Of one variable, if of the other. -/
theorem Binding.spells_of_isOf {b c : Binding} {start stop : Nat} (hb : b.IsOf start stop = true)
    (hc : c.IsOf start stop = true) (hspells : b.Spells src start stop = true) : c.Spells src start stop = true := by
  obtain ⟨hstart, hstop⟩ := Binding.isOf_iff.mp hb
  obtain ⟨hstart', hstop'⟩ := Binding.isOf_iff.mp hc
  rw [Binding.Spells, hstart', hstop', ← hstart, ← hstop]
  rw [Binding.Spells, ← hstart, ← hstop] at hspells
  exact hspells

theorem lookupBinding_of_named {env : List Binding} {start stop : Nat} {b : Binding}
    (h : named src env start stop = some b) : lookupBinding src env start stop = { found := true, binding := b } := by
  unfold lookupBinding
  dsimp only
  obtain ⟨hfound, hbinding⟩ := iterate_bindingScanStep src start stop 1024 env
    { nameStart := 0, nameStop := 0, value := 0, ty := .tPoison }
  rw [named] at h
  rw [hfound, hbinding, h]
  rfl

/-- A name that stands for its own variable gives the value of the variable. -/
theorem valueOf_of_named {env : List Binding} {start stop : Nat} {b : Binding}
    (h : named src env start stop = some b) (hb : b.IsOf start stop = true) : valueOf env start stop = some b.value := by
  obtain ⟨hspells, before, after, hreach, hbefore⟩ := List.find?_eq_some_iff_append.mp h
  have henv : env = before ++ b :: (after ++ env.drop 1024) := by
    rw [← List.cons_append, ← List.append_assoc, ← hreach, List.take_append_drop]
  have hfirst : env.find? (Binding.IsOf start stop) = some b := by
    refine List.find?_eq_some_iff_append.mpr ⟨hb, before, _, henv, ?_⟩
    intro c hc
    -- what is spelled otherwise is of another variable
    rw [Bool.not_eq_true', Bool.eq_false_iff]
    intro hof
    have hother := hbefore c hc
    rw [Binding.spells_of_isOf hb hof hspells] at hother
    cases hother
  rw [valueOf, hfirst]
  rfl

/-! ## Rebinding a variable -/

theorem find?_replaceF_of_not_spells {r : Binding} {start stop : Nat} (hne : r.Spells src start stop = false)
    (env : List Binding) :
    (env.replaceF (r.rebound src)).find? (Binding.Spells src start stop) =
      env.find? (Binding.Spells src start stop) := by
  induction env with
  | nil => rfl
  | cons c rest ih =>
      rw [List.replaceF_cons, Binding.rebound]
      cases hspells : c.Spells src r.nameStart r.nameStop with
      | true =>
          have hother : c.Spells src start stop = false := by
            rw [Bool.eq_false_iff] at hne ⊢
            exact fun hc => hne (spansEqual_trans (spansEqual_symm hspells) hc)
          rw [if_pos rfl]
          dsimp only
          rw [List.find?_cons, List.find?_cons, hne, hother]
      | false =>
          rw [if_neg Bool.false_ne_true]
          dsimp only
          rw [List.find?_cons, List.find?_cons, ih]

theorem find?_replaceF_of_spells {r : Binding} {start stop : Nat} (heq : r.Spells src start stop = true)
    {env : List Binding} (hany : env.any (Binding.Spells src r.nameStart r.nameStop) = true) :
    (env.replaceF (r.rebound src)).find? (Binding.Spells src start stop) = some r := by
  induction env with
  | nil => cases hany
  | cons c rest ih =>
      rw [List.replaceF_cons, Binding.rebound]
      cases hspells : c.Spells src r.nameStart r.nameStop with
      | true =>
          rw [if_pos rfl]
          dsimp only
          rw [List.find?_cons, heq]
      | false =>
          have hother : c.Spells src start stop = false := by
            rw [Bool.eq_false_iff] at hspells ⊢
            exact fun hc => hspells (spansEqual_trans hc (spansEqual_symm heq))
          rw [List.any_cons, hspells, Bool.false_or] at hany
          rw [if_neg Bool.false_ne_true]
          dsimp only
          rw [List.find?_cons, hother]
          exact ih hany

theorem take_replaceF {r : Binding} (env : List Binding) :
    ((env.take 1024).replaceF (r.rebound src)).take 1024 = (env.take 1024).replaceF (r.rebound src) := by
  rw [List.take_of_length_le]
  rw [List.length_replaceF, List.length_take]
  exact Nat.min_le_left 1024 env.length

/-- After a rebinding the name stands for its replacement. -/
theorem named_rebindName_of_spells {r : Binding} {env : List Binding} {start stop : Nat}
    (heq : r.Spells src start stop = true) : named src (rebindName src env r) start stop = some r := by
  rw [named, rebindName_eq]
  split
  · next hany =>
      rw [take_replaceF]
      exact find?_replaceF_of_spells heq hany
  · rw [List.take_succ_cons, List.find?_cons, heq]

/-- The other names stand for what they did, when the name was there. -/
theorem named_rebindName_of_not_spells {r b : Binding} {env : List Binding} {start stop : Nat}
    (hb : named src env r.nameStart r.nameStop = some b) (hne : r.Spells src start stop = false) :
    named src (rebindName src env r) start stop = named src env start stop := by
  have hany : (env.take 1024).any (Binding.Spells src r.nameStart r.nameStop) = true := by
    rw [List.any_eq_true]
    exact ⟨b, List.mem_of_find?_eq_some hb, List.find?_some hb⟩
  rw [named, rebindName_eq, if_pos hany, take_replaceF]
  exact find?_replaceF_of_not_spells hne _

/-- What stands for another variable after a rebinding did so before. -/
theorem named_of_rebindName {r b : Binding} {env : List Binding} {start stop : Nat}
    (h : named src (rebindName src env r) start stop = some b) (hb : b.IsOf start stop = true)
    (hother : r.IsOf start stop = false) : named src env start stop = some b := by
  have hne : r.Spells src start stop = false := by
    rw [Bool.eq_false_iff]
    intro heq
    rw [named_rebindName_of_spells heq] at h
    rw [Option.some.inj h, hb] at hother
    cases hother
  rw [named, rebindName_eq] at h
  split at h
  · rw [take_replaceF, find?_replaceF_of_not_spells hne] at h
    exact h
  · rw [List.take_succ_cons, List.find?_cons, hne] at h
    have hreach : env.take (1023 + 1) = env.take 1023 ++ (env.drop 1023).take 1 := List.take_add
    rw [named, show 1024 = 1023 + 1 from rfl, hreach, List.find?_append]
    dsimp only at h
    rw [h]
    rfl

/-! ## Projection -/

/-- What a projection passes for a binding: the value that the name stands for. -/
def Binding.carried (src : Source) (env : List Binding) (wanted : Binding) : Binding :=
  match named src env wanted.nameStart wanted.nameStop with
  | some b => { wanted with value := b.value, ty := b.ty }
  | none => wanted

/-- The name of a binding stands for one of its type. -/
def Binding.Carries (src : Source) (env : List Binding) (wanted : Binding) : Prop :=
  ∃ b, named src env wanted.nameStart wanted.nameStop = some b ∧ semEq src b.ty wanted.ty = true

instance (env : List Binding) (wanted : Binding) : Decidable (wanted.Carries src env) :=
  inferInstanceAs (Decidable (∃ b ∈ named src env wanted.nameStart wanted.nameStop, semEq src b.ty wanted.ty = true))

theorem projectEnvironmentBinding_ok {st : EnvironmentProjectScan} {wanted : Binding} {rest : List Binding} :
    (projectEnvironmentBinding src st wanted rest).ok = true ↔ wanted.Carries src st.source := by
  unfold projectEnvironmentBinding
  dsimp only
  rw [Bool.and_eq_true]
  constructor
  · rintro ⟨hfound, htype⟩
    exact ⟨_, lookupBinding_of_found hfound, htype⟩
  · rintro ⟨b, hnamed, htype⟩
    rw [lookupBinding_of_named hnamed]
    exact ⟨rfl, htype⟩

theorem projectEnvironmentBinding_of_carries {st : EnvironmentProjectScan} {wanted : Binding} (rest : List Binding)
    (h : wanted.Carries src st.source) :
    projectEnvironmentBinding src st wanted rest =
      { rest := rest, source := st.source, acc := wanted.carried src st.source :: st.acc, ok := true } := by
  obtain ⟨b, hnamed, htype⟩ := h
  unfold projectEnvironmentBinding
  rw [lookupBinding_of_named hnamed, Binding.carried, hnamed]
  dsimp only
  rw [htype]
  rfl

theorem iterate_projectEnvironmentStep (n : Nat) (shape source acc : List Binding)
    (h : ∀ w ∈ shape.take n, w.Carries src source) :
    (projectEnvironmentStep src)^[n] { rest := shape, source := source, acc := acc, ok := true } =
      { rest := shape.drop n, source := source
        acc := ((shape.take n).map (Binding.carried src source)).reverse ++ acc, ok := true } := by
  induction n generalizing shape acc with
  | zero => rfl
  | succ n ih =>
      rw [Function.iterate_succ_apply, projectEnvironmentStep, if_neg (by simp)]
      cases shape with
      | nil =>
          dsimp only
          rw [ih [] acc (by rw [List.take_nil]; exact fun _ hw => (List.not_mem_nil hw).elim)]
          simp
      | cons w rest =>
          rw [List.take_succ_cons] at h ⊢
          dsimp only
          rw [projectEnvironmentBinding_of_carries rest (h w List.mem_cons_self),
            ih rest _ fun v hv => h v (List.mem_cons_of_mem w hv)]
          simp

/-- **A projection** passes for each binding what its name stands for. -/
theorem projectEnvironment_eq {source shape : List Binding} (hlength : shape.length ≤ 1024)
    (h : ∀ w ∈ shape, w.Carries src source) :
    projectEnvironment src source shape = { bindings := shape.map (Binding.carried src source), ok := true } := by
  unfold projectEnvironment
  rw [iterate_projectEnvironmentStep 1024 shape source [] fun w hw => h w (List.mem_of_mem_take hw)]
  dsimp only
  rw [List.take_of_length_le hlength, List.drop_of_length_le hlength, List.append_nil, reverseEnvironment,
    reverseWithin_eq, take_reverse_of_length_le (by rwa [List.length_map])]
  rfl

theorem projectEnvironment_ok {source shape : List Binding} (hok : (projectEnvironment src source shape).ok = true) :
    shape.length ≤ 1024 ∧ ∀ w ∈ shape, w.Carries src source := by
  unfold projectEnvironment at hok
  dsimp only at hok
  rw [Bool.and_eq_true] at hok
  obtain ⟨hok, hrest⟩ := hok
  have hsource : ∀ n (st : EnvironmentProjectScan), ((projectEnvironmentStep src)^[n] st).ok = true →
      ((projectEnvironmentStep src)^[n] st).rest = st.rest.drop n ∧
        ∀ w ∈ st.rest.take n, w.Carries src st.source := by
    intro n st
    refine iterate_checked EnvironmentProjectScan.rest EnvironmentProjectScan.ok EnvironmentProjectScan.source
      (fun source w => w.Carries src source) ?_ ?_ ?_
    · intro st hst
      rw [projectEnvironmentStep, hst]
      rfl
    · intro st hst
      rw [projectEnvironmentStep, hst]
      split <;> rfl
    · intro st w rest hst hst'
      have hstep : projectEnvironmentStep src st = projectEnvironmentBinding src st w rest := by
        rw [projectEnvironmentStep, hst, hst']
        rfl
      rw [hstep]
      exact ⟨rfl, rfl, projectEnvironmentBinding_ok.mp⟩
  obtain ⟨hleft, hcarries⟩ := hsource 1024 _ hok
  rw [hleft, List.isEmpty_iff, List.drop_eq_nil_iff] at hrest
  rw [List.take_of_length_le hrest] at hcarries
  exact ⟨hrest, hcarries⟩

end MncsCompiler.Ssa
