import MncsCompiler.Ssa.Evaluation
import MncsCompiler.Ssa.WellFormed
import Mathlib.Logic.Relation

/-!
# `Ssa.Run` — runs of functions, and the values they read

A run starts in block 0 with the inputs assigned, executes the instructions of a block in sequence, and passes
arguments to the parameters of the block that its terminator selects. The values, what an instruction computes and
which case a switch takes are parameters. A verified function reads only values that its run has assigned, but for one
gap: the verifier does not ask that block 0 have no parameters, and no edge passes arguments to it when a run starts.
-/

namespace MncsCompiler.Ssa

open BoundedLoop Decl Halting

variable {V : Type}

/-! ## Runs -/

/-- What the run-time system adds: `apply` is `none` where an instruction fails. -/
structure Interp (V : Type) where
  apply : Instruction → List V → Option V
  truth : V → Bool
  choose : Terminator → V → Nat

/-- The values assigned so far on a run. -/
abbrev Env (V : Type) := Nat → Option V

def Env.assign (env : Env V) (id : Nat) (v : V) : Env V := fun n => if n = id then some v else env n

def Env.assignAll (env : Env V) : List Value → List V → Env V
  | p :: params, v :: args => (env.assign p.id v).assignAll params args
  | _, _ => env

def Env.readAll (env : Env V) (ids : List Id) : Option (List V) := ids.mapM fun id => env id.value

structure Config (V : Type) where
  block : Nat
  position : Nat
  env : Env V

/-- The edge that a terminator selects, once its scrutinee is known. -/
def Terminator.select (interp : Interp V) (env : Env V) (term : Terminator) : Option (Nat × List Id) :=
  match term with
  | .branch condition yes no yesArgs noArgs =>
      (env condition).map fun v => if interp.truth v then (yes, yesArgs) else (no, noArgs)
  | .jump target arguments => some (target, arguments)
  | .ret _ => none
  | .fail => none
  | .finiteSwitch subject _ _ _ _ _ _ _ _ => (env subject).bind fun v => term.edges[interp.choose term v]?
  | .scalarSwitch subject _ _ _ _ _ _ _ _ => (env subject).bind fun v => term.edges[interp.choose term v]?

inductive Step (function : Function) (interp : Interp V) : Config V → Config V → Prop
  | instruction {b : SsaBlock} {position : Nat} {env : Env V} {inst : Instruction} {args : List V} {v : V}
      (hb : b ∈ function.blocks) (hinst : b.instructions[position]? = some inst)
      (hargs : env.readAll inst.inputs = some args) (happly : interp.apply inst args = some v) :
      Step function interp ⟨b.id, position, env⟩ ⟨b.id, position + 1, env.assign inst.result v⟩
  | failure {b : SsaBlock} {position : Nat} {env : Env V} {inst : Instruction} {args : List V}
      (hb : b ∈ function.blocks) (hinst : b.instructions[position]? = some inst)
      (hargs : env.readAll inst.inputs = some args) (happly : interp.apply inst args = none) :
      Step function interp ⟨b.id, position, env⟩ ⟨b.failureTarget, 0, env⟩
  | edge {b target : SsaBlock} {env : Env V} {ids : List Id} {args : List V} (hb : b ∈ function.blocks)
      (ht : target ∈ function.blocks) (hedge : b.terminator.select interp env = some (target.id, ids))
      (hargs : env.readAll ids = some args) :
      Step function interp ⟨b.id, b.instructions.length, env⟩ ⟨target.id, 0, env.assignAll target.parameters args⟩

/-- A run starts in block 0 with a value for each input and for nothing else. -/
def start (function : Function) (input : Nat → V) : Config V :=
  { block := 0, position := 0
    env := fun id => if id ∈ function.inputs.map Value.id then some (input id) else none }

def Reaches (function : Function) (interp : Interp V) (input : Nat → V) (c : Config V) : Prop :=
  Relation.ReflTransGen (Step function interp) (start function input) c

/-- The next step of a block at a position reads `id`: as an operand of the instruction there, or behind the last
    instruction as the scrutinee of the terminator or an argument of the edge that it selects. -/
inductive NextReads (interp : Interp V) (b : SsaBlock) (c : Config V) (id : Nat) : Prop
  | operand {inst : Instruction} (h : b.instructions[c.position]? = some inst) {arg : Id} (harg : arg ∈ inst.inputs)
      (hid : arg.value = id)
  | scrutinee (h : c.position = b.instructions.length) (hid : b.terminator.scrutinee? = some id)
  | argument (h : c.position = b.instructions.length) {edge : Nat × List Id}
      (hedge : b.terminator.select interp c.env = some edge) {arg : Id} (harg : arg ∈ edge.2) (hid : arg.value = id)

/-- **No undefined reads.** On every run, every value that the next step reads has been assigned. -/
def ReadsAssigned (function : Function) : Prop :=
  ∀ (V : Type) (interp : Interp V) (input : Nat → V) (c : Config V), Reaches function interp input c →
    ∀ b ∈ function.blocks, b.id = c.block → ∀ id, NextReads interp b c id → (c.env id).isSome = true

/-- Block 0 reads none of its own parameters. -/
def EntryReadsNoParameter (function : Function) : Prop :=
  ∀ b ∈ function.blocks, b.id = 0 → ∀ p ∈ b.parameters,
    (∀ inst ∈ b.instructions, ∀ arg ∈ inst.inputs, arg.value ≠ p.id) ∧ ¬ b.terminator.Reads p.id

/-! ## Assignments -/

theorem Env.assign_isSome {env : Env V} {id n : Nat} {v : V} (h : (env n).isSome = true) :
    (env.assign id v n).isSome = true := by
  rw [Env.assign]
  split
  · rfl
  · exact h

@[simp] theorem Env.assign_self (env : Env V) (id : Nat) (v : V) : env.assign id v id = some v := if_pos rfl

theorem Env.assign_of_ne {env : Env V} {id n : Nat} {v : V} (h : n ≠ id) : env.assign id v n = env n := if_neg h

theorem Env.assignAll_isSome {env : Env V} {params : List Value} {args : List V} {n : Nat}
    (h : (env n).isSome = true) : (env.assignAll params args n).isSome = true := by
  induction params generalizing env args with
  | nil => exact h
  | cons p ps ih =>
      cases args with
      | nil => exact h
      | cons v vs => exact ih (Env.assign_isSome h)

/-- Parameters that are passed as many arguments are all assigned. -/
theorem Env.assignAll_params {env : Env V} {params : List Value} {args : List V} (h : params.length = args.length)
    {p : Value} (hp : p ∈ params) : (env.assignAll params args p.id).isSome = true := by
  induction params generalizing env args with
  | nil => cases hp
  | cons q ps ih =>
      cases args with
      | nil => cases h
      | cons v vs =>
          rcases List.mem_cons.mp hp with rfl | hp
          · have hassigned : (env.assign p.id v p.id).isSome = true := by rw [Env.assign_self, Option.isSome_some]
            rw [Env.assignAll]
            exact Env.assignAll_isSome hassigned
          · exact ih (Nat.succ.inj h) hp

theorem Env.readAll_length {env : Env V} {ids : List Id} {args : List V} (h : env.readAll ids = some args) :
    args.length = ids.length := by
  induction ids generalizing args with
  | nil =>
      cases h
      rfl
  | cons id ids ih =>
      rw [Env.readAll, List.mapM_cons] at h
      cases hid : env id.value with
      | none =>
          rw [hid] at h
          cases h
      | some v =>
          rw [hid] at h
          cases hrest : ids.mapM fun id => env id.value with
          | none =>
              rw [hrest] at h
              cases h
          | some vs =>
              rw [hrest] at h
              cases h
              rw [List.length_cons, List.length_cons, ih hrest]

theorem Env.exists_readAll {env : Env V} {ids : List Id} (h : ∀ id ∈ ids, (env id.value).isSome = true) :
    ∃ args, env.readAll ids = some args := by
  induction ids with
  | nil => exact ⟨[], rfl⟩
  | cons id ids ih =>
      obtain ⟨v, hv⟩ := Option.isSome_iff_exists.mp (h id List.mem_cons_self)
      obtain ⟨vs, hvs⟩ := ih (fun a ha => h a (List.mem_cons_of_mem id ha))
      refine ⟨v :: vs, ?_⟩
      rw [Env.readAll] at hvs
      rw [Env.readAll, List.mapM_cons, hv, hvs]
      rfl

/-! ## What a run has assigned -/

section Verified

variable {src : Source} {function : Function}

/-- At a position of block `b`: the inputs, the results before the position and, but for block 0, the parameters. -/
structure Assigned (function : Function) (b : SsaBlock) (c : Config V) : Prop where
  block : b.id = c.block
  inputs : ∀ v ∈ function.inputs, (c.env v.id).isSome = true
  parameters : b.id ≠ 0 → ∀ p ∈ b.parameters, (c.env p.id).isSome = true
  results : ∀ j inst, b.instructions[j]? = some inst → j < c.position → (c.env inst.result).isSome = true

/-- A value that a block may read has been assigned, unless it is a parameter of block 0. -/
theorem Assigned.readable {b : SsaBlock} {c : Config V} (h : Assigned function b c) {id : Nat}
    (hreadable : Readable function b c.position id) (hentry : b.id = 0 → ∀ p ∈ b.parameters, id ≠ p.id) :
    (c.env id).isSome = true := by
  cases hreadable with
  | input hv hid =>
      rw [← hid]
      exact h.inputs _ hv
  | parameter hp hid =>
      rw [← hid]
      refine h.parameters ?_ _ hp
      intro hzero
      exact hentry hzero _ hp hid.symm
  | result hj hlt hid =>
      rw [← hid]
      exact h.results _ _ hj hlt

theorem Terminator.select_mem {interp : Interp V} {env : Env V} {term : Terminator} {edge : Nat × List Id}
    (h : term.select interp env = some edge) : edge ∈ term.edges := by
  cases term with
  | branch condition yes no yesArgs noArgs =>
      obtain ⟨v, -, rfl⟩ := Option.map_eq_some_iff.mp h
      rw [Terminator.edges, List.mem_pair]
      split
      · exact .inl rfl
      · exact .inr rfl
  | jump target arguments =>
      cases h
      exact List.mem_singleton_self _
  | ret value => cases h
  | fail => cases h
  | finiteSwitch subject subjectTy nominal resultType start stop armCount join cases =>
      obtain ⟨v, -, hv⟩ := Option.bind_eq_some_iff.mp h
      exact List.mem_of_getElem? hv
  | scalarSwitch subject subjectTy resultType start stop armCount default join cases =>
      obtain ⟨v, -, hv⟩ := Option.bind_eq_some_iff.mp h
      exact List.mem_of_getElem? hv

theorem Checked.failure_block (h : Checked src function) {b : SsaBlock} (hb : b ∈ function.blocks) :
    if b.id = function.blockCount - 1 then b.parameters = [] ∧ b.instructions = []
    else b.failureTarget = function.blockCount - 1 := by
  have hone := h.blocks b hb
  simp only [verifyOneBlock, verifyFailureTarget, Bool.and_eq_true] at hone
  have hfailure := hone.2
  split
  · next hlast =>
      simp only [if_pos hlast, Bool.and_eq_true, List.isEmpty_iff] at hfailure
      obtain ⟨⟨⟨⟨-, hparams⟩, hinsts⟩, -⟩, -⟩ := hfailure
      exact ⟨hparams, hinsts⟩
  · next hlast =>
      simp only [if_neg hlast, Bool.and_eq_true, decide_eq_true_eq] at hfailure
      exact hfailure.2

/-- A block with instructions fails to the last block, which has no parameters. -/
theorem Checked.failure_target (h : Checked src function) {b : SsaBlock} (hb : b ∈ function.blocks)
    (hinsts : b.instructions ≠ []) :
    ∃ target ∈ function.blocks, target.id = b.failureTarget ∧ target.parameters = [] := by
  have hfailure := h.failure_block hb
  have hpos : function.blockCount - 1 < function.blockCount := Nat.sub_one_lt_of_lt (h.blockIds.2 b hb)
  have hmem : function.blockCount - 1 ∈ function.blocks.map SsaBlock.id :=
    h.wellFormed.blockIds.mem_iff.mpr (List.mem_range.mpr hpos)
  obtain ⟨target, ht, hid⟩ := List.mem_map.mp hmem
  have hlast := h.failure_block ht
  rw [if_pos hid] at hlast
  split at hfailure
  · exact (hinsts hfailure.2).elim
  · exact ⟨target, ht, hid.trans hfailure.symm, hlast.1⟩

theorem Checked.next_assigned (h : Checked src function) {interp : Interp V} {b : SsaBlock} {c c' : Config V}
    (hb : b ∈ function.blocks) (hassigned : Assigned function b c) (hstep : Step function interp c c') :
    ∃ b' ∈ function.blocks, Assigned function b' c' := by
  have hsame : ∀ b' ∈ function.blocks, b'.id = c.block → b' = b := fun b' hb' hid =>
    List.inj_on_of_nodup_map h.blockIds.1 hb' hb (hid.trans hassigned.block.symm)
  cases hstep with
  | @instruction b₁ position env inst args v hb₁ hinst hargs happly =>
      obtain rfl := hsame b₁ hb₁ rfl
      refine ⟨b₁, hb₁, rfl, ?_, ?_, ?_⟩
      · intro v hv
        exact Env.assign_isSome (hassigned.inputs v hv)
      · intro hne p hp
        exact Env.assign_isSome (hassigned.parameters hne p hp)
      · intro j other hj hlt
        rcases Nat.lt_succ_iff_lt_or_eq.mp hlt with hlt | rfl
        · exact Env.assign_isSome (hassigned.results j other hj hlt)
        · obtain rfl := Option.some.inj (hinst.symm.trans hj)
          dsimp only
          rw [Env.assign_self]
          rfl
  | @failure b₁ position env inst args hb₁ hinst hargs happly =>
      obtain rfl := hsame b₁ hb₁ rfl
      have hinsts : b₁.instructions ≠ [] := by
        intro hnil
        rw [hnil] at hinst
        cases hinst
      obtain ⟨target, ht, hid, hparams⟩ := h.failure_target hb₁ hinsts
      refine ⟨target, ht, hid, hassigned.inputs, ?_, ?_⟩
      · rw [hparams]
        intro _ p hp
        cases hp
      · intro j inst _ hlt
        cases hlt
  | @edge b₁ target env ids args hb₁ ht hedge hargs =>
      obtain rfl := hsame b₁ hb₁ rfl
      refine ⟨target, ht, rfl, ?_, ?_, ?_⟩
      · intro v hv
        exact Env.assignAll_isSome (hassigned.inputs v hv)
      · intro _ p hp
        obtain ⟨target', ht', hid, hpassed⟩ := h.wellFormed.edges b₁ hb₁ _ (Terminator.select_mem hedge)
        obtain rfl := List.inj_on_of_nodup_map h.blockIds.1 ht' ht hid
        exact Env.assignAll_params (hpassed.length_eq.symm.trans (Env.readAll_length hargs).symm) hp
      · intro j inst _ hlt
        cases hlt

theorem Checked.start_assigned (h : Checked src function) (input : Nat → V) :
    ∃ b ∈ function.blocks, Assigned function b (start function input) := by
  have hmem : 0 ∈ function.blocks.map SsaBlock.id := h.wellFormed.blockIds.mem_iff.mpr (List.mem_range.mpr h.blockPos)
  obtain ⟨b, hb, hid⟩ := List.mem_map.mp hmem
  refine ⟨b, hb, hid, ?_, fun hne => (hne hid).elim, ?_⟩
  · intro v hv
    dsimp only [start]
    rw [if_pos (List.mem_map_of_mem hv)]
    rfl
  · intro j inst _ hlt
    cases hlt

theorem Checked.run_assigned (h : Checked src function) {interp : Interp V}
    {input : Nat → V} {c : Config V} (hrun : Reaches function interp input c) :
    ∃ b ∈ function.blocks, Assigned function b c := by
  induction hrun with
  | refl => exact h.start_assigned input
  | tail _ hstep ih =>
      obtain ⟨b, hb, hassigned⟩ := ih
      exact h.next_assigned hb hassigned hstep

theorem Checked.readsAssigned (h : Checked src function)
    (hparams : EntryReadsNoParameter function) : ReadsAssigned function := by
  intro V interp input c hrun b hb hblock id hreads
  obtain ⟨b', hb', hassigned⟩ := h.run_assigned hrun
  obtain rfl := List.inj_on_of_nodup_map h.blockIds.1 hb' hb (hassigned.block.trans hblock.symm)
  cases hreads with
  | operand hinst harg hid =>
      subst hid
      refine hassigned.readable (h.wellFormed.operands b' hb _ _ hinst _ harg) ?_
      intro hzero p hp
      exact (hparams b' hb hzero p hp).1 _ (List.mem_of_getElem? hinst) _ harg
  | scrutinee hend hid =>
      have hread : b'.terminator.Reads id := .inl hid
      refine hassigned.readable (hend ▸ h.wellFormed.reads b' hb id hread) ?_
      rintro hzero p hp rfl
      exact (hparams b' hb hzero p hp).2 hread
  | argument hend hedge harg hid =>
      have hread : b'.terminator.Reads id := .inr ⟨_, Terminator.select_mem hedge, _, harg, hid⟩
      refine hassigned.readable (hend ▸ h.wellFormed.reads b' hb id hread) ?_
      rintro hzero p hp rfl
      exact (hparams b' hb hzero p hp).2 hread

/-! ## The gap -/

/-- Instructions never fail, branches all go one way and switches all take one case. -/
def uniform (truth : Bool) (choice : Nat) : Interp PUnit where
  apply := fun _ _ => some ⟨⟩
  truth := fun _ => truth
  choose := fun _ _ => choice

/-- Any edge is the one selected under some uniform interpretation. -/
theorem Terminator.exists_select {term : Terminator} {edge : Nat × List Id} (h : edge ∈ term.edges) :
    ∃ truth choice, ∀ env : Env PUnit, (∀ id, term.scrutinee? = some id → (env id).isSome = true) →
      term.select (uniform truth choice) env = some edge := by
  cases term with
  | branch condition yes no yesArgs noArgs =>
      rcases List.mem_pair.mp h with rfl | rfl
      · refine ⟨true, 0, fun env henv => ?_⟩
        obtain ⟨v, hv⟩ := Option.isSome_iff_exists.mp (henv condition rfl)
        rw [Terminator.select, hv]
        rfl
      · refine ⟨false, 0, fun env henv => ?_⟩
        obtain ⟨v, hv⟩ := Option.isSome_iff_exists.mp (henv condition rfl)
        rw [Terminator.select, hv]
        rfl
  | jump target arguments =>
      rw [List.mem_singleton.mp h]
      exact ⟨true, 0, fun _ _ => rfl⟩
  | ret value => cases h
  | fail => cases h
  | finiteSwitch subject subjectTy nominal resultType start stop armCount join cases =>
      obtain ⟨i, hi⟩ := List.getElem?_of_mem h
      refine ⟨true, i, fun env henv => ?_⟩
      obtain ⟨v, hv⟩ := Option.isSome_iff_exists.mp (henv subject rfl)
      rw [Terminator.select, hv]
      exact hi
  | scalarSwitch subject subjectTy resultType start stop armCount default join cases =>
      obtain ⟨i, hi⟩ := List.getElem?_of_mem h
      refine ⟨true, i, fun env henv => ?_⟩
      obtain ⟨v, hv⟩ := Option.isSome_iff_exists.mp (henv subject rfl)
      rw [Terminator.select, hv]
      exact hi

theorem Checked.parameter_kind (h : Checked src function) {b : SsaBlock} (hb : b ∈ function.blocks) {p : Value}
    (hp : p ∈ b.parameters) {v : Value} (hv : v ∈ function.values) (hid : v.id = p.id) : v.kind = 1 := by
  obtain ⟨w, hw, hwid, hkind, -⟩ := h.parameters_recorded.value b hb p hp
  obtain rfl := List.inj_on_of_nodup_map h.nodup_values hv hw (hid.trans hwid.symm)
  exact hkind

theorem Checked.parameter_not_input (h : Checked src function) {b : SsaBlock} (hb : b ∈ function.blocks) {p : Value}
    (hp : p ∈ b.parameters) : p.id ∉ function.inputs.map Value.id := by
  intro hmem
  obtain ⟨v, hv, hid⟩ := List.mem_map.mp hmem
  obtain ⟨w, hw, hwid, hkind⟩ := h.inputs.2 v hv
  have hone := h.parameter_kind hb hp hw (hwid.trans hid)
  rw [hkind] at hone
  cases hone

theorem Checked.parameter_not_result (h : Checked src function) {b : SsaBlock} (hb : b ∈ function.blocks) {p : Value}
    (hp : p ∈ b.parameters) {inst : Instruction} (hinst : inst ∈ b.instructions) : p.id ≠ inst.result := by
  intro hid
  obtain ⟨w, hw, hwid, hkind, -⟩ := h.results_recorded.value b hb inst hinst
  have hone := h.parameter_kind hb hp hw (hwid.trans hid.symm)
  rw [hkind] at hone
  cases hone

/-- A run comes to every position of block 0 with none of its parameters assigned. -/
theorem Checked.entry_run (h : Checked src function) (hreads : ReadsAssigned function) {b : SsaBlock}
    (hb : b ∈ function.blocks) (hid : b.id = 0) (truth : Bool) (choice : Nat) {k : Nat}
    (hk : k ≤ b.instructions.length) :
    ∃ env : Env PUnit, Reaches function (uniform truth choice) (fun _ => ⟨⟩) ⟨b.id, k, env⟩ ∧
      ∀ p ∈ b.parameters, env p.id = none := by
  induction k with
  | zero =>
      refine ⟨(start function fun _ => ⟨⟩).env, ?_, ?_⟩
      · rw [hid]
        exact .refl
      · intro p hp
        exact if_neg (h.parameter_not_input hb hp)
  | succ k ih =>
      obtain ⟨env, hrun, hnone⟩ := ih (Nat.le_of_succ_le hk)
      obtain ⟨inst, hinst⟩ : ∃ inst, b.instructions[k]? = some inst := ⟨_, List.getElem?_eq_getElem hk⟩
      obtain ⟨args, hargs⟩ := Env.exists_readAll (fun id hmem =>
        hreads PUnit _ _ _ hrun b hb rfl id.value (.operand hinst hmem rfl))
      refine ⟨env.assign inst.result ⟨⟩, hrun.tail (.instruction hb hinst hargs rfl), ?_⟩
      intro p hp
      rw [Env.assign_of_ne (h.parameter_not_result hb hp (List.mem_of_getElem? hinst))]
      exact hnone p hp

theorem Checked.entryReadsNoParameter (h : Checked src function) (hreads : ReadsAssigned function) :
    EntryReadsNoParameter function := by
  intro b hb hid p hp
  have hunread : ∀ truth choice (k : Nat) env, Reaches function (uniform truth choice) (fun _ => ⟨⟩) ⟨b.id, k, env⟩ →
      (∀ p ∈ b.parameters, env p.id = none) → ¬ NextReads (uniform truth choice) b ⟨b.id, k, env⟩ p.id := by
    intro truth choice k env hrun hnone hnext
    have hsome := hreads PUnit _ _ _ hrun b hb rfl p.id hnext
    dsimp only at hsome
    rw [hnone p hp] at hsome
    cases hsome
  refine ⟨?_, ?_⟩
  · intro inst hinst arg harg heq
    obtain ⟨k, hk⟩ := List.getElem?_of_mem hinst
    obtain ⟨hlt, -⟩ := List.getElem?_eq_some_iff.mp hk
    obtain ⟨env, hrun, hnone⟩ := h.entry_run hreads hb hid true 0 (Nat.le_of_lt hlt)
    exact hunread _ _ _ _ hrun hnone (.operand hk harg heq)
  · rintro (hscrutinee | ⟨edge, hedge, arg, harg, heq⟩)
    · obtain ⟨env, hrun, hnone⟩ := h.entry_run hreads hb hid true 0 (Nat.le_refl _)
      exact hunread _ _ _ _ hrun hnone (.scrutinee rfl hscrutinee)
    · obtain ⟨truth, choice, hselect⟩ := Terminator.exists_select hedge
      obtain ⟨env, hrun, hnone⟩ := h.entry_run hreads hb hid truth choice (Nat.le_refl _)
      have hedge := hselect env (fun id hs => hreads PUnit _ _ _ hrun b hb rfl id (.scrutinee rfl hs))
      exact hunread _ _ _ _ hrun hnone (.argument rfl hedge harg heq)

end Verified

theorem verifyFunctionBase_of_verifyFunction {src : Source} {function : Function}
    (h : verifyFunction src function = true) : verifyFunctionBase src function = true := by
  rw [verifyFunction, Bool.if_false_left, Bool.and_eq_true, Bool.not_eq_true', decide_eq_false_iff_not,
    Bool.not_eq_true', Bool.not_eq_false] at h
  exact h.1

/-- **Undefined reads.** A verified function reads no unassigned value on any run exactly when its entry block reads
    none of its own parameters. -/
theorem verifyFunction_readsAssigned_iff {src : Source} {function : Function}
    (h : verifyFunction src function = true) : ReadsAssigned function ↔ EntryReadsNoParameter function := by
  have hchecked := checked_of_verify (verifyFunctionBase_of_verifyFunction h)
  constructor
  · exact hchecked.entryReadsNoParameter
  · exact hchecked.readsAssigned

/-- `mncs 0.10;module m;fn f(x:bool)->(r:bool){return x;}` on one page. -/
def returnSource : Source where
  pages := [[109, 110, 99, 115, 32, 48, 46, 49, 48, 59, 109, 111, 100, 117, 108, 101, 32, 109, 59, 102, 110, 32, 102, 40,
    120, 58, 98, 111, 111, 108, 41, 45, 62, 40, 114, 58, 98, 111, 111, 108, 41, 123, 114, 101, 116, 117, 114, 110, 32,
    120, 59, 125]]
  stride := 1024
  total := 52

/-- A record for the function `f` of `returnSource` with the one value `v`, which its entry block returns. -/
def returning (inputs params : List Value) (v : Value) : Function :=
  let block (id : Nat) (params : List Value) (term : Terminator) : SsaBlock :=
    { id := id, parameters := params, parameterBindings := [], instructions := [], terminator := term
      reachable := id = 0, hasFailureTarget := id = 0, failureTarget := 1, loweringOk := true, loweringFailureKind := 0 }
  { identity := canonicalFunctionIdentity returnSource 17 18 22 23, nominals := [], importedRecords := []
    importedEnums := [], inputs := inputs, resultType := .tBool, blocks := [block 0 params (.ret v.id), block 1 [] .fail]
    blockCount := 2, values := [v], valueCount := 1, supported := true, verified := false }

/-- The value is the input `x`. -/
def returnsInput : Function :=
  let x : Value := { id := 0, ty := .tBool, ownerBlock := 0, kind := 0, index := 0 }
  returning [x] [] x

/-- A parameter of block 0 in the place of the input. -/
def returnsParameter : Function :=
  let p : Value := { id := 0, ty := .tBool, ownerBlock := 0, kind := 1, index := 0 }
  returning [] [p] p

set_option maxRecDepth 10000 in
theorem returnSource_accepts :
    verifyFunction returnSource returnsInput = true ∧ verifyFunction returnSource returnsParameter = true := by
  -- the loops are put in their short form before the source and the identity are known
  suffices h : ∀ src, src = returnSource → ∀ identity, identity = canonicalFunctionIdentity src 17 18 22 23 →
      verifyFunction src { returnsInput with identity := identity } = true ∧
        verifyFunction src { returnsParameter with identity := identity } = true from h _ rfl _ rfl
  intro src hsrc identity hidentity
  simp only [canonicalFunctionIdentity, callableIdentitySpan, ↓run_callableIdentitySpanStep] at hidentity
  simp only [↓iterate_eq_run, verifyFunction, verifyFunctionBase, verifyFunctionInputs, verifyInputList,
    verifyInputStep, verifyInputOne, findValue, verifyBlocks, verifyBlockStep, verifyOneBlock, verifyTerminator,
    verifyReturnTerm, valueAvailable, verifyParameters, verifyParameterStep, parameterIsDefined, locateSourceFunction,
    locateSourceFunctionStep, locateSourceFunctionItem, canonicalFunctionIdentity, callableIdentitySpan,
    ↓run_callableIdentitySpanStep]
  subst hsrc hidentity
  decide +kernel

theorem verifyFunction_readsAssigned_input : ReadsAssigned returnsInput := by
  refine (verifyFunction_readsAssigned_iff returnSource_accepts.1).mpr ?_
  intro b hb _ p hp
  simp only [returnsInput, returning, List.mem_cons, List.not_mem_nil, or_false] at hb
  rcases hb with rfl | rfl <;> cases hp

/-- The parameter is not assigned when the run starts, and the first step returns it. -/
theorem not_verifyFunction_readsAssigned :
    ¬ ∀ (src : Source) (function : Function), verifyFunction src function = true → ReadsAssigned function := by
  intro hall
  have h := returnSource_accepts.2
  have hchecked := checked_of_verify (verifyFunctionBase_of_verifyFunction h)
  have hentry := hchecked.entryReadsNoParameter (hall _ _ h)
  exact (hentry _ List.mem_cons_self rfl _ List.mem_cons_self).2 (.inl rfl)

end MncsCompiler.Ssa
