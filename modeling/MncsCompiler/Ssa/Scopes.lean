import Mathlib.Data.List.Basic
import MncsCompiler.Ssa.Environments

/-!
# `Ssa.Scopes` — what the environment operations compute

The bounded loops of `Ssa.Environments` in closed form: parameters are numbered in the order of what they stand for,
a name is rebound in its place, and a projection follows the shape that asks for it. All of them see the first 1024
entries of a list.
-/

namespace MncsCompiler.Ssa

open BoundedLoop Decl

/-- Reversing twice within a bound. -/
theorem take_reverse_of_length_le {α : Type} {n : Nat} {l : List α} (h : l.length ≤ n) :
    (l.reverse.take n).reverse = l := by
  rw [List.take_of_length_le (by rwa [List.length_reverse]), List.reverse_reverse]

/-! ## Parameters -/

/-- The parameters of a block for what is in scope. -/
def scopeParams (env : List Binding) (block next : Nat) : List Value :=
  (env.take 1024).mapIdx fun i b => { id := next + i, ty := b.ty, ownerBlock := block, kind := 1, index := i }

/-- What is in scope, read from those parameters. -/
def scopeEnv (env : List Binding) (next : Nat) : List Binding :=
  (env.take 1024).mapIdx fun i b => { b with value := next + i }

/-- The parameters of a block for pending operands. -/
def operandParams (stack : List Value) (block next index : Nat) : List Value :=
  (stack.take 1024).mapIdx fun i v =>
    { id := next + i, ty := v.ty, ownerBlock := block, kind := 1, index := index + i }

theorem scopeEnv_length (env : List Binding) (next : Nat) : (scopeEnv env next).length = min 1024 env.length := by
  rw [scopeEnv, List.length_mapIdx, List.length_take]

theorem scopeEnv_mem {env : List Binding} {block next : Nat} {b : Binding} (h : b ∈ scopeEnv env next) :
    ∃ v ∈ scopeParams env block next, v.id = b.value := by
  rw [scopeEnv, List.mem_mapIdx] at h
  obtain ⟨i, hi, rfl⟩ := h
  exact ⟨_, List.mem_mapIdx.mpr ⟨i, hi, rfl⟩, rfl⟩

section Loops

variable {src : Source}

theorem iterate_blockParameterStep (n : Nat) (st : BlockParamBuild) :
    (blockParameterStep src)^[n] st =
      { rest := st.rest.drop n
        env := ((st.rest.take n).mapIdx fun i b => { b with value := st.nextValue + i }).reverse ++ st.env
        params := ((st.rest.take n).mapIdx fun i b =>
          { id := st.nextValue + i, ty := b.ty, ownerBlock := st.block, kind := 1
            index := st.parameterIndex + i }).reverse ++ st.params
        values := ((st.rest.take n).mapIdx fun i b =>
          { id := st.nextValue + i, ty := b.ty, ownerBlock := st.block, kind := 1
            index := st.parameterIndex + i }).reverse ++ st.values
        nextValue := st.nextValue + (st.rest.take n).length
        parameterIndex := st.parameterIndex + (st.rest.take n).length
        block := st.block, nominals := st.nominals
        ok := st.ok && (st.rest.take n).all fun b => supportedValueType src b.ty st.nominals } := by
  induction n generalizing st with
  | zero => simp
  | succ n ih =>
      rw [Function.iterate_succ_apply, ih]
      obtain ⟨rest, env, params, values, nextValue, parameterIndex, block, nominals, ok⟩ := st
      cases rest with
      | nil => simp [blockParameterStep]
      | cons b rest =>
          simp [blockParameterStep, addBlockParameter, List.mapIdx_cons, Nat.add_comm, Nat.add_left_comm,
            Bool.and_assoc]

theorem iterate_matchStackParameterStep (n : Nat) (st : StackParamBuild) :
    (matchStackParameterStep src)^[n] st =
      { rest := st.rest.drop n
        parametersRev := ((st.rest.take n).mapIdx fun i v =>
          { id := st.nextValue + i, ty := v.ty, ownerBlock := st.block, kind := 1
            index := st.index + i }).reverse ++ st.parametersRev
        stackRev := ((st.rest.take n).mapIdx fun i v =>
          { id := st.nextValue + i, ty := v.ty, ownerBlock := st.block, kind := 1
            index := st.index + i }).reverse ++ st.stackRev
        values := ((st.rest.take n).mapIdx fun i v =>
          { id := st.nextValue + i, ty := v.ty, ownerBlock := st.block, kind := 1
            index := st.index + i }).reverse ++ st.values
        nextValue := st.nextValue + (st.rest.take n).length
        index := st.index + (st.rest.take n).length
        block := st.block, nominals := st.nominals
        ok := st.ok && (st.rest.take n).all fun v => supportedValueType src v.ty st.nominals } := by
  induction n generalizing st with
  | zero => simp
  | succ n ih =>
      rw [Function.iterate_succ_apply, ih]
      obtain ⟨rest, parametersRev, stackRev, values, nextValue, index, block, nominals, ok⟩ := st
      cases rest with
      | nil => simp [matchStackParameterStep]
      | cons v rest =>
          simp [matchStackParameterStep, matchStackParameterOne, List.mapIdx_cons, Nat.add_comm, Nat.add_left_comm,
            Bool.and_assoc]

end Loops

/-- **The block of some predecessor**: a parameter for each binding of the first edge. -/
theorem prepareBlockEnvironment_eq {src : Source} {block : Nat} {incoming : Incoming} {next : Nat}
    {values : List Value} {nominals : List NominalTypeIdentity} (hfound : incoming.found = true)
    (hok : incoming.ok = true) :
    prepareBlockEnvironment src block incoming next values nominals =
      { rest := incoming.bindings.drop 1024, env := scopeEnv incoming.bindings next
        params := (scopeParams incoming.bindings block next).reverse
        values := (scopeParams incoming.bindings block next).reverse ++ values
        nextValue := next + min 1024 incoming.bindings.length
        parameterIndex := min 1024 incoming.bindings.length, block := block, nominals := nominals
        ok := (incoming.bindings.take 1024).all fun b => supportedValueType src b.ty nominals } := by
  unfold prepareBlockEnvironment
  rw [hfound, hok, iterate_blockParameterStep]
  simp only [reverseEnvironment, reverseWithin_eq, scopeEnv, scopeParams, List.append_nil]
  rw [take_reverse_of_length_le (by simp [Nat.min_le_left])]
  simp

/-- **The context of a match**: a parameter for each binding, then one for each pending operand. -/
theorem matchContextParameters_eq {src : Source} {env : List Binding} {stack : List Value} {block next : Nat}
    {values : List Value} {nominals : List NominalTypeIdentity} :
    matchContextParameters src env stack block next values nominals =
      { env := scopeEnv env next
        stack := operandParams stack block (next + min 1024 env.length) (min 1024 env.length)
        parameters := (operandParams stack block (next + min 1024 env.length) (min 1024 env.length)).reverse ++
          (scopeParams env block next).reverse
        values := (operandParams stack block (next + min 1024 env.length) (min 1024 env.length)).reverse ++
          ((scopeParams env block next).reverse ++ values)
        nextValue := next + min 1024 env.length + min 1024 stack.length
        parameterIndex := min 1024 env.length + min 1024 stack.length, block := block, nominals := nominals
        ok := ((env.take 1024).all fun b => supportedValueType src b.ty nominals) &&
          (stack.take 1024).all fun v => supportedValueType src v.ty nominals } := by
  unfold matchContextParameters
  dsimp only
  rw [prepareBlockEnvironment_eq rfl rfl, iterate_matchStackParameterStep]
  simp only [reverseWithin_eq, operandParams, List.append_nil]
  rw [take_reverse_of_length_le (by simp [Nat.min_le_left])]
  simp

theorem appendIds_eq (left right : List Id) : appendIds left right = left.take 1024 ++ right := by
  rw [appendIds, reverseIdList, reverseWithin_eq, prependWithin_eq, take_reverse_of_length_le (by simp [Nat.min_le_left])]

/-- The arguments for a context: the operands before the bindings, each reversed. -/
theorem matchContextIds_eq (env : List Binding) (stack : List Value) :
    matchContextIds env stack =
      ((stack.take 1024).map fun v => ({ value := v.id } : Id)).reverse ++
        ((env.take 1024).map fun b => ({ value := b.value } : Id)).reverse := by
  rw [matchContextIds, appendIds_eq, reverseIdList, valueStackIds, reverseIdList, bindingIds, collectWithin_eq,
    collectWithin_eq, reverseWithin_eq, reverseWithin_eq, take_reverse_of_length_le (by simp [Nat.min_le_left]),
    List.take_of_length_le (by simp [Nat.min_le_left]), List.take_of_length_le (by simp [Nat.min_le_left])]

/-! ## Rebinding -/

/-- A binding that spells the name of the replacement gives way to it. -/
def Binding.rebound (src : Source) (replacement b : Binding) : Option Binding :=
  if b.Spells src replacement.nameStart replacement.nameStop then some replacement else none

theorem iterate_rebindNameTail {src : Source} (n : Nat) {st : RebindScan} (hfound : st.found = true) :
    (rebindNameStep src)^[n] st =
      { st with rest := st.rest.drop n, acc := (st.rest.take n).reverse ++ st.acc } := by
  induction n generalizing st with
  | zero => simp
  | succ n ih =>
      obtain ⟨rest, replacement, acc, found⟩ := st
      rw [Function.iterate_succ_apply, rebindNameStep, if_pos hfound]
      cases rest with
      | nil =>
          rw [rebindNameTail, ih hfound]
          simp
      | cons b rest =>
          rw [rebindNameTail, ih rfl]
          simpa using hfound.symm

/-- A scan replaces the first binding with the name, and keeps the others in order. -/
theorem iterate_rebindNameStep {src : Source} {replacement : Binding} (n : Nat) (env acc : List Binding) :
    (rebindNameStep src)^[n] { rest := env, replacement := replacement, acc := acc, found := false } =
      { rest := env.drop n, replacement := replacement
        acc := ((env.take n).replaceF (replacement.rebound src)).reverse ++ acc
        found := (env.take n).any (Binding.Spells src replacement.nameStart replacement.nameStop) } := by
  induction n generalizing env acc with
  | zero => simp
  | succ n ih =>
      rw [Function.iterate_succ_apply]
      cases env with
      | nil =>
          rw [rebindNameStep, if_neg Bool.false_ne_true, ih]
          simp
      | cons b rest =>
          rw [rebindNameStep, if_neg Bool.false_ne_true, List.take_succ_cons, List.replaceF_cons, List.any_cons,
            Binding.rebound]
          dsimp only
          rw [rebindNameCons]
          cases hspells : Binding.Spells src replacement.nameStart replacement.nameStop b with
          | true =>
              have hsame : spansEqual src b.nameStart b.nameStop replacement.nameStart replacement.nameStop = true :=
                hspells
              rw [hsame, if_pos rfl, if_pos rfl, iterate_rebindNameTail n rfl]
              simp
          | false =>
              have hother : spansEqual src b.nameStart b.nameStop replacement.nameStart replacement.nameStop = false :=
                hspells
              rw [hother, if_neg Bool.false_ne_true, if_neg Bool.false_ne_true, ih]
              simp

/-- **Rebinding a name** changes the first binding with that name, in its place, or adds one in front. -/
theorem rebindName_eq (src : Source) (env : List Binding) (replacement : Binding) :
    rebindName src env replacement =
      if (env.take 1024).any (Binding.Spells src replacement.nameStart replacement.nameStop) then
        (env.take 1024).replaceF (replacement.rebound src)
      else replacement :: env := by
  unfold rebindName
  rw [iterate_rebindNameStep]
  dsimp only
  rw [List.append_nil, reverseEnvironment, reverseWithin_eq]
  split
  · rw [take_reverse_of_length_le]
    rw [List.length_replaceF, List.length_take]
    exact Nat.min_le_left 1024 env.length
  · rfl

theorem mem_replaceF_rebound {src : Source} {replacement b : Binding} {env : List Binding}
    (h : b ∈ env.replaceF (replacement.rebound src)) :
    b = replacement ∨ b ∈ env.eraseP (Binding.Spells src replacement.nameStart replacement.nameStop) := by
  induction env with
  | nil => cases h
  | cons c rest ih =>
      rw [List.replaceF_cons, Binding.rebound] at h
      rw [List.eraseP_cons]
      cases hspells : Binding.Spells src replacement.nameStart replacement.nameStop c with
      | true =>
          rw [hspells, if_pos rfl] at h
          exact List.mem_cons.mp h
      | false =>
          rw [hspells, if_neg Bool.false_ne_true] at h
          rcases List.mem_cons.mp h with rfl | h
          · exact .inr List.mem_cons_self
          · exact (ih h).imp_right (List.mem_cons_of_mem c)

end MncsCompiler.Ssa
