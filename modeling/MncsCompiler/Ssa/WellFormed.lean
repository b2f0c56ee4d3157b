import MncsCompiler.Ssa.Evaluation
import MncsCompiler.Ssa.Scans
import Mathlib.Data.List.Nodup
import Mathlib.Data.List.Perm.Subperm

/-!
# `Ssa.WellFormed` — single definitions and definition before use

`WellFormed` says of a function record what the verifier is for: ids that count values and blocks without gaps, one
place of definition for each parameter and result, operands that are defined where they are read, and edges that fit
the blocks they go to. The verifier never looks for two definitions of one value. It checks that each definition is
recorded under its own block and index, and that there are as many definitions as values of the kind; that these two
leave no room for a second definition is a counting argument over all blocks (`Recorded.perm`).
-/

namespace MncsCompiler.Ssa

open BoundedLoop Decl Halting

/-! ## What a terminator reads and where it goes -/

/-- The targets of a terminator, each with the arguments passed to it. -/
def Terminator.edges : Terminator → List (Nat × List Id)
  | .branch _ yes no yesArgs noArgs => [(yes, yesArgs), (no, noArgs)]
  | .jump target arguments => [(target, arguments)]
  | .ret _ => []
  | .fail => []
  | .finiteSwitch _ _ _ _ _ _ _ _ cases => cases.map fun case => (case.target, case.arguments)
  | .scalarSwitch _ _ _ _ _ _ _ _ cases => cases.map fun case => (case.target, case.arguments)

/-- The condition, the subject or the returned value. -/
def Terminator.scrutinee? : Terminator → Option Nat
  | .branch condition _ _ _ _ => some condition
  | .jump _ _ => none
  | .ret value => some value
  | .fail => none
  | .finiteSwitch subject _ _ _ _ _ _ _ _ => some subject
  | .scalarSwitch subject _ _ _ _ _ _ _ _ => some subject

/-- The values that a terminator reads on some path: its scrutinee and the arguments of its edges. -/
def Terminator.Reads (term : Terminator) (id : Nat) : Prop :=
  term.scrutinee? = some id ∨ ∃ edge ∈ term.edges, ∃ arg ∈ edge.2, arg.value = id

/-! ## Well-formed functions -/

/-- Instruction `before` of a block may read `id`: an input of the function, a parameter of the block, or the result
    of an earlier instruction of the block. -/
inductive Readable (function : Function) (block : SsaBlock) (before id : Nat) : Prop
  | input {value : Value} (h : value ∈ function.inputs) (hid : value.id = id)
  | parameter {value : Value} (h : value ∈ block.parameters) (hid : value.id = id)
  | result {j : Nat} {inst : Instruction} (h : block.instructions[j]? = some inst) (hj : j < before)
      (hid : inst.result = id)

/-- `id` stands at exactly one place of the lists that `items` gives the blocks. -/
def DefinedOnce (function : Function) (items : SsaBlock → List Nat) (id : Nat) : Prop :=
  ∃! place : SsaBlock × Nat, place.1 ∈ function.blocks ∧ (items place.1)[place.2]? = some id

def SsaBlock.parameterIds (block : SsaBlock) : List Nat := block.parameters.map Value.id

def SsaBlock.resultIds (block : SsaBlock) : List Nat := block.instructions.map Instruction.result

structure WellFormed (src : Source) (function : Function) : Prop where
  valueIds : (function.values.map Value.id).Perm (List.range function.valueCount)
  blockIds : (function.blocks.map SsaBlock.id).Perm (List.range function.blockCount)
  parameterOnce : ∀ v ∈ function.values, v.kind = 1 → DefinedOnce function SsaBlock.parameterIds v.id
  resultOnce : ∀ v ∈ function.values, v.kind = 2 → DefinedOnce function SsaBlock.resultIds v.id
  operands : ∀ b ∈ function.blocks, ∀ j inst, b.instructions[j]? = some inst →
    ∀ id ∈ inst.inputs, Readable function b j id.value
  reads : ∀ b ∈ function.blocks, ∀ id, b.terminator.Reads id → Readable function b b.instructions.length id
  edges : ∀ b ∈ function.blocks, ∀ edge ∈ b.terminator.edges, ∃ target ∈ function.blocks,
    target.id = edge.1 ∧ List.Forall₂ (PassedFor src function.values) edge.2 target.parameters

/-! ## One definition per value -/

section Definitions

variable {α : Type} {values : List Value} {blocks : List SsaBlock} {items : SsaBlock → List α} {id slot : α → Nat}
  {kind : Nat}

/-- The items of each block are recorded as values of a kind, under the block and a slot of their own. -/
structure Recorded (values : List Value) (blocks : List SsaBlock) (items : SsaBlock → List α) (id slot : α → Nat)
    (kind : Nat) : Prop where
  slots : ∀ b ∈ blocks, ((items b).map slot).Nodup
  value : ∀ b ∈ blocks, ∀ a ∈ items b, ∃ v ∈ values, v.id = id a ∧ v.kind = kind ∧ v.ownerBlock = b.id ∧
    v.index = slot a

/-- What two items under one id share: the block and the slot. -/
theorem Recorded.same (h : Recorded values blocks items id slot kind) (hvalues : (values.map Value.id).Nodup)
    {b c : SsaBlock} (hb : b ∈ blocks) (hc : c ∈ blocks) {x y : α} (hx : x ∈ items b) (hy : y ∈ items c)
    (hid : id x = id y) : b.id = c.id ∧ slot x = slot y := by
  obtain ⟨v, hv, hvid, -, hvowner, hvslot⟩ := h.value b hb x hx
  obtain ⟨w, hw, hwid, -, hwowner, hwslot⟩ := h.value c hc y hy
  have hvw : v = w := List.inj_on_of_nodup_map hvalues hv hw (hvid.trans (hid.trans hwid.symm))
  subst hvw
  exact ⟨hvowner.symm.trans hwowner, hvslot.symm.trans hwslot⟩

theorem Recorded.nodup_items (h : Recorded values blocks items id slot kind) (hvalues : (values.map Value.id).Nodup)
    {b : SsaBlock} (hb : b ∈ blocks) : ((items b).map id).Nodup := by
  have hslots := h.slots b hb
  refine List.Nodup.map_on ?_ (List.Nodup.of_map slot hslots)
  intro x hx y hy hid
  exact List.inj_on_of_nodup_map hslots hx hy (h.same hvalues hb hb hx hy hid).2

theorem Recorded.nodup (h : Recorded values blocks items id slot kind) (hvalues : (values.map Value.id).Nodup)
    (hblocks : (blocks.map SsaBlock.id).Nodup) : (blocks.flatMap fun b => (items b).map id).Nodup := by
  rw [List.nodup_flatMap]
  refine ⟨fun b hb => h.nodup_items hvalues hb, ?_⟩
  refine (List.pairwise_map.mp hblocks).imp_of_mem ?_
  intro b c hb hc hne n hnb hnc
  obtain ⟨x, hx, rfl⟩ := List.mem_map.mp hnb
  obtain ⟨y, hy, hid⟩ := List.mem_map.mp hnc
  exact hne (h.same hvalues hb hc hx hy hid.symm).1

/-- **The counting argument.** As many items as values of the kind: every such value is an item. -/
theorem Recorded.perm (h : Recorded values blocks items id slot kind) (hvalues : (values.map Value.id).Nodup)
    (hblocks : (blocks.map SsaBlock.id).Nodup)
    (hcount : (blocks.map fun b => (items b).length).sum = values.countP fun v => decide (v.kind = kind)) :
    (blocks.flatMap fun b => (items b).map id).Perm
      ((values.filter fun v => decide (v.kind = kind)).map Value.id) := by
  have hsub : (blocks.flatMap fun b => (items b).map id) ⊆
      (values.filter fun v => decide (v.kind = kind)).map Value.id := by
    intro n hn
    obtain ⟨b, hb, hnb⟩ := List.mem_flatMap.mp hn
    obtain ⟨a, ha, rfl⟩ := List.mem_map.mp hnb
    obtain ⟨v, hv, hid, hkind, -⟩ := h.value b hb a ha
    exact List.mem_map.mpr ⟨v, List.mem_filter.mpr ⟨hv, decide_eq_true hkind⟩, hid⟩
  refine (List.subperm_of_subset (h.nodup hvalues hblocks) hsub).perm_of_length_le ?_
  rw [List.length_map, ← List.countP_eq_length_filter, ← hcount, List.length_flatMap]
  simp

/-- A value of the kind is the item at one place, under the block and slot that the value records. -/
theorem Recorded.exists_item (h : Recorded values blocks items id slot kind) (hvalues : (values.map Value.id).Nodup)
    (hblocks : (blocks.map SsaBlock.id).Nodup)
    (hcount : (blocks.map fun b => (items b).length).sum = values.countP fun v => decide (v.kind = kind))
    {v : Value} (hv : v ∈ values) (hkind : v.kind = kind) :
    ∃ b ∈ blocks, ∃ a ∈ items b, id a = v.id ∧ v.ownerBlock = b.id ∧ v.index = slot a := by
  have hmem : v.id ∈ blocks.flatMap fun b => (items b).map id :=
    (h.perm hvalues hblocks hcount).mem_iff.mpr
      (List.mem_map_of_mem (List.mem_filter.mpr ⟨hv, decide_eq_true hkind⟩))
  obtain ⟨b, hb, hvb⟩ := List.mem_flatMap.mp hmem
  obtain ⟨a, ha, hid⟩ := List.mem_map.mp hvb
  obtain ⟨w, hw, hwid, -, howner, hslot⟩ := h.value b hb a ha
  have hvw : w = v := List.inj_on_of_nodup_map hvalues hw hv (hwid.trans hid)
  subst hvw
  exact ⟨b, hb, a, ha, hid, howner, hslot⟩

theorem Recorded.once (h : Recorded values blocks items id slot kind) (hvalues : (values.map Value.id).Nodup)
    (hblocks : (blocks.map SsaBlock.id).Nodup)
    (hcount : (blocks.map fun b => (items b).length).sum = values.countP fun v => decide (v.kind = kind))
    {v : Value} (hv : v ∈ values) (hkind : v.kind = kind) :
    ∃! place : SsaBlock × Nat, place.1 ∈ blocks ∧ ((items place.1).map id)[place.2]? = some v.id := by
  obtain ⟨b, hb, a, ha, hid, -⟩ := h.exists_item hvalues hblocks hcount hv hkind
  obtain ⟨j, hj⟩ := List.getElem?_of_mem (List.mem_map_of_mem (f := id) ha)
  rw [hid] at hj
  refine ⟨(b, j), ⟨hb, hj⟩, ?_⟩
  rintro ⟨c, k⟩ ⟨hc, hk⟩
  dsimp only at hc hk
  obtain ⟨x, hx, hxid⟩ := List.mem_map.mp (List.mem_of_getElem? hk)
  have hcb : c = b :=
    List.inj_on_of_nodup_map hblocks hc hb (h.same hvalues hc hb hx ha (hxid.trans hid.symm)).1
  subst hcb
  obtain ⟨hlt, -⟩ := List.getElem?_eq_some_iff.mp hk
  rw [(List.getElem?_inj hlt (h.nodup_items hvalues hc)).mp (hk.trans hj.symm)]

end Definitions

/-! ## What the verifier establishes -/

theorem verifyInstruction_defines {src : Source} {function : Function} {block sequence : Nat} {inst : Instruction}
    (h : verifyInstruction src function block inst sequence = true) :
    inst.sequence = sequence ∧
      (∀ id ∈ inst.inputs, ∃ v ∈ function.values, v.id = id.value ∧ v.VisibleIn block sequence) ∧
      ∃ v ∈ function.values, v.id = inst.result ∧ v.kind = 2 ∧ v.ownerBlock = block ∧ v.index = inst.sequence := by
  rw [verifyInstruction, Bool.if_false_left, Bool.and_eq_true, Bool.if_false_left, Bool.and_eq_true] at h
  obtain ⟨hoperands, hresult, -⟩ := h
  simp only [Bool.not_eq_true', decide_eq_false_iff_not, Bool.or_eq_true, not_or, decide_eq_true_eq, not_not,
    Bool.not_eq_false] at hoperands hresult
  obtain ⟨hseq, havailable⟩ := hoperands
  obtain ⟨⟨⟨⟨hfound, hkind⟩, howner⟩, hindex⟩, -⟩ := hresult
  obtain ⟨hmem, hid⟩ := findValue_mem hfound
  exact ⟨hseq, availableValues_visible havailable, _, hmem, hid, hkind, howner, hindex.trans hseq.symm⟩

theorem verifyTerminator_passed {src : Source} {function : Function} {block : SsaBlock} {term : Terminator}
    {instructions : List Instruction} (h : verifyTerminator src function block term instructions = true) :
    (∀ id, term.scrutinee? = some id → valueAvailable function.values id block.id
      (instructionCount instructions function.valueCount) = true) ∧
    ∀ edge ∈ term.edges, verifyEdge src function block.id edge.1 edge.2
      (instructionCount instructions function.valueCount) = true := by
  cases term with
  | branch condition yes no yesArgs noArgs =>
      simp only [verifyTerminator, verifyBranchTerm, Bool.and_eq_true] at h
      obtain ⟨⟨⟨⟨-, havailable⟩, hyes⟩, hno⟩, -⟩ := h
      refine ⟨?_, ?_⟩
      · rintro id ⟨⟩
        exact havailable
      · intro edge hedge
        rcases List.mem_pair.mp hedge with rfl | rfl
        · exact hyes
        · exact hno
  | jump target arguments =>
      refine ⟨nofun, ?_⟩
      intro edge hedge
      rw [List.mem_singleton.mp hedge]
      exact h
  | ret value =>
      simp only [verifyTerminator, verifyReturnTerm, Bool.and_eq_true] at h
      refine ⟨?_, nofun⟩
      rintro id ⟨⟩
      exact h.2
  | fail => exact ⟨nofun, nofun⟩
  | finiteSwitch subject subjectTy nominal resultType start stop armCount join cases =>
      simp only [verifyTerminator, verifyFiniteSwitch, Bool.and_eq_true, and_assoc] at h
      obtain ⟨-, havailable, -, -, -, -, -, -, -, -, hcases, -⟩ := h
      refine ⟨?_, ?_⟩
      · rintro id ⟨⟩
        exact havailable
      · intro edge hedge
        obtain ⟨case, hcase, rfl⟩ := List.mem_map.mp hedge
        exact verifyFiniteSwitchCases_edges hcases case hcase
  | scalarSwitch subject subjectTy resultType start stop armCount default join cases =>
      simp only [verifyTerminator, verifyScalarSwitch, Bool.and_eq_true, and_assoc] at h
      obtain ⟨-, havailable, -, -, -, -, -, -, -, -, hcases, -⟩ := h
      refine ⟨?_, ?_⟩
      · rintro id ⟨⟩
        exact havailable
      · intro edge hedge
        obtain ⟨case, hcase, rfl⟩ := List.mem_map.mp hedge
        exact verifyScalarSwitchCases_edges hcases case hcase

section Verified

variable {src : Source} {function : Function}

/-- The checks of `verify_function_base` that bear on the shape of a function. -/
structure Checked (src : Source) (function : Function) : Prop where
  valueLimit : function.valueCount ≤ 2048
  valueIds : function.values.map Value.id = (List.range function.valueCount).reverse
  inputs : (function.inputs.map Value.id).Nodup ∧
    ∀ v ∈ function.inputs, ∃ w ∈ function.values, w.id = v.id ∧ w.kind = 0
  inputCount : function.inputs.length = function.values.countP fun v => decide (v.kind = 0)
  blockPos : 0 < function.blockCount
  blockCount : function.blocks.length = function.blockCount
  blockIds : (function.blocks.map SsaBlock.id).Nodup ∧ ∀ b ∈ function.blocks, b.id < function.blockCount
  blocks : ∀ b ∈ function.blocks, verifyOneBlock src function b = true
  counts : verifyDefinitionCounts function = true

theorem checked_of_verify (h : verifyFunctionBase src function = true) : Checked src function := by
  rw [verifyFunctionBase] at h
  simp only [Bool.if_false_left, Bool.and_eq_true, Bool.not_eq_true', decide_eq_false_iff_not, Bool.or_eq_true,
    not_or, decide_eq_true_eq, Bool.not_eq_false, not_lt] at h
  obtain ⟨-, ⟨⟨⟨⟨-, hzero⟩, hblockLimit⟩, -⟩, hlimit⟩, ⟨hids, hinputs⟩, ⟨hpassed, hcounts⟩, -⟩ := h
  have hvalueIds := verifyValueIds_ids hids
  have hlength : function.values.length = function.valueCount := by simpa using congrArg List.length hvalueIds
  rw [verifyFunctionInputs, Bool.and_eq_true, decide_eq_true_eq] at hinputs
  obtain ⟨hinputLength, hinputNodup, hinputKind⟩ := verifyInputList_distinct hlimit hinputs.1
  have hinputCount := hinputs.2
  rw [valueCount_eq hlimit hinputLength, valueKindCount_eq hlimit hlength.le] at hinputCount
  obtain ⟨hblockIds, hone⟩ := verifyBlocks_passed hpassed
  obtain ⟨hblockCount, hnodup, hbelow⟩ := verifyBlockIds_distinct hblockLimit hblockIds
  exact
    { valueLimit := hlimit
      valueIds := hvalueIds
      inputs := ⟨hinputNodup, hinputKind⟩
      inputCount := hinputCount
      blockPos := Nat.pos_of_ne_zero hzero
      blockCount := hblockCount
      blockIds := ⟨hnodup, hbelow⟩
      blocks := hone
      counts := hcounts }

namespace Checked

variable (h : Checked src function)
include h

theorem nodup_values : (function.values.map Value.id).Nodup := by
  rw [h.valueIds, List.nodup_reverse]
  exact List.nodup_range

theorem values_length : function.values.length = function.valueCount := by
  simpa using congrArg List.length h.valueIds

theorem block_parts {b : SsaBlock} (hb : b ∈ function.blocks) :
    verifyParameters src function b.id b.parameters = true ∧
      verifyInstructions src function b b.instructions = true ∧
      verifyTerminator src function b b.terminator b.instructions = true := by
  have hone := h.blocks b hb
  simp only [verifyOneBlock, Bool.and_eq_true] at hone
  exact ⟨hone.1.1.1.2, hone.1.1.2, hone.1.2⟩

theorem parameters_recorded :
    Recorded function.values function.blocks SsaBlock.parameters Value.id Value.index 1 where
  slots := by
    intro b hb
    rw [(verifyParameters_numbered h.valueLimit (h.block_parts hb).1).2.1, List.nodup_reverse]
    exact List.nodup_range
  value := by
    intro b hb p hp
    exact (verifyParameters_numbered h.valueLimit (h.block_parts hb).1).2.2 p hp

/-- The instruction at position `j` has sequence number `j`. -/
theorem sequence_eq {b : SsaBlock} (hb : b ∈ function.blocks) :
    b.instructions.map Instruction.sequence = List.range b.instructions.length := by
  obtain ⟨-, hall⟩ := verifyInstructions_passed (h.block_parts hb).2.1
  apply List.ext_getElem?
  intro j
  rw [List.getElem?_map]
  cases hj : b.instructions[j]? with
  | none =>
      rw [List.getElem?_eq_none_iff] at hj
      rw [Option.map_none, List.getElem?_eq_none (by simpa using hj)]
  | some inst =>
      obtain ⟨hlt, -⟩ := List.getElem?_eq_some_iff.mp hj
      rw [Option.map_some, (verifyInstruction_defines (hall j inst hj)).1, List.getElem?_range hlt]

theorem results_recorded :
    Recorded function.values function.blocks SsaBlock.instructions Instruction.result Instruction.sequence 2 where
  slots := by
    intro b hb
    rw [h.sequence_eq hb]
    exact List.nodup_range
  value := by
    intro b hb inst hinst
    obtain ⟨j, hj⟩ := List.getElem?_of_mem hinst
    exact (verifyInstruction_defines ((verifyInstructions_passed (h.block_parts hb).2.1).2 j inst hj)).2.2

theorem parameter_count : (function.blocks.map fun b => b.parameters.length).sum =
    function.values.countP fun v => decide (v.kind = 1) := by
  rw [← valueKindCount_eq h.valueLimit h.values_length.le, ← (verifyDefinitionCounts_sums h.counts).1]
  congr 1
  apply List.map_congr_left
  intro b hb
  exact (valueCount_eq h.valueLimit (verifyParameters_numbered h.valueLimit (h.block_parts hb).1).1).symm

theorem result_count : (function.blocks.map fun b => b.instructions.length).sum =
    function.values.countP fun v => decide (v.kind = 2) := by
  rw [← valueKindCount_eq h.valueLimit h.values_length.le, ← (verifyDefinitionCounts_sums h.counts).2]
  congr 1
  apply List.map_congr_left
  intro b hb
  exact (instructionCount_eq h.valueLimit (verifyInstructions_passed (h.block_parts hb).2.1).1).symm

/-- The inputs are the values of kind 0. -/
theorem inputs_perm : (function.inputs.map Value.id).Perm
    ((function.values.filter fun v => decide (v.kind = 0)).map Value.id) := by
  have hsub : function.inputs.map Value.id ⊆ (function.values.filter fun v => decide (v.kind = 0)).map Value.id := by
    intro n hn
    obtain ⟨v, hv, rfl⟩ := List.mem_map.mp hn
    obtain ⟨w, hw, hid, hkind⟩ := h.inputs.2 v hv
    exact List.mem_map.mpr ⟨w, List.mem_filter.mpr ⟨hw, decide_eq_true hkind⟩, hid⟩
  refine (List.subperm_of_subset h.inputs.1 hsub).perm_of_length_le ?_
  rw [List.length_map, List.length_map, h.inputCount, List.countP_eq_length_filter]

/-- A value that the verifier lets a block read is defined where the block can read it. -/
theorem readable {b : SsaBlock} (hb : b ∈ function.blocks) {before id : Nat}
    (hvisible : ∃ v ∈ function.values, v.id = id ∧ v.VisibleIn b.id before) : Readable function b before id := by
  obtain ⟨v, hv, rfl, hvisible⟩ := hvisible
  rcases hvisible with hinput | ⟨howner, hparameter | ⟨hresult, hbefore⟩⟩
  · have hmem : v.id ∈ function.inputs.map Value.id :=
      h.inputs_perm.mem_iff.mpr (List.mem_map_of_mem (List.mem_filter.mpr ⟨hv, decide_eq_true hinput⟩))
    obtain ⟨w, hw, hid⟩ := List.mem_map.mp hmem
    exact .input hw hid
  · obtain ⟨c, hc, p, hp, hid, hvc, -⟩ :=
      h.parameters_recorded.exists_item h.nodup_values h.blockIds.1 h.parameter_count hv hparameter
    have hbc : c = b := List.inj_on_of_nodup_map h.blockIds.1 hc hb (hvc.symm.trans howner)
    subst hbc
    exact .parameter hp hid
  · obtain ⟨c, hc, inst, hinst, hid, hvc, hindex⟩ :=
      h.results_recorded.exists_item h.nodup_values h.blockIds.1 h.result_count hv hresult
    have hbc : c = b := List.inj_on_of_nodup_map h.blockIds.1 hc hb (hvc.symm.trans howner)
    subst hbc
    obtain ⟨j, hj⟩ := List.getElem?_of_mem hinst
    have hseq := (verifyInstruction_defines ((verifyInstructions_passed (h.block_parts hb).2.1).2 j inst hj)).1
    exact .result hj (by omega) hid

theorem wellFormed : WellFormed src function where
  valueIds := by
    rw [h.valueIds]
    exact List.reverse_perm _
  blockIds := by
    have hsub : function.blocks.map SsaBlock.id ⊆ List.range function.blockCount := by
      intro n hn
      obtain ⟨b, hb, rfl⟩ := List.mem_map.mp hn
      exact List.mem_range.mpr (h.blockIds.2 b hb)
    refine (List.subperm_of_subset h.blockIds.1 hsub).perm_of_length_le ?_
    rw [List.length_range, List.length_map, h.blockCount]
  parameterOnce := fun _ hv hkind =>
    h.parameters_recorded.once h.nodup_values h.blockIds.1 h.parameter_count hv hkind
  resultOnce := fun _ hv hkind =>
    h.results_recorded.once h.nodup_values h.blockIds.1 h.result_count hv hkind
  operands := by
    intro b hb j inst hj id hid
    have hinst := (verifyInstructions_passed (h.block_parts hb).2.1).2 j inst hj
    exact h.readable hb ((verifyInstruction_defines hinst).2.1 id hid)
  reads := by
    intro b hb id hreads
    obtain ⟨hscrutinee, hedges⟩ := verifyTerminator_passed (h.block_parts hb).2.2
    rw [instructionCount_eq h.valueLimit (verifyInstructions_passed (h.block_parts hb).2.1).1] at hscrutinee hedges
    rcases hreads with hscrut | ⟨edge, hedge, arg, harg, rfl⟩
    · exact h.readable hb (valueAvailable_visible (hscrutinee id hscrut))
    · exact h.readable hb ((verifyEdge_passed (hedges edge hedge)).1 arg harg)
  edges := by
    intro b hb edge hedge
    exact (verifyEdge_passed ((verifyTerminator_passed (h.block_parts hb).2.2).2 edge hedge)).2

end Checked

/-- **Verified functions are well formed**, however their records were built. -/
theorem verifyFunctionBase_wellFormed (h : verifyFunctionBase src function = true) : WellFormed src function :=
  (checked_of_verify h).wellFormed

end Verified

/-- A value computed in the entry block reaches the return through both arms of a branch. -/
def diamond : Function :=
  let value (id owner kind : Nat) : Value := { id := id, ty := .tBool, ownerBlock := owner, kind := kind, index := 0 }
  let constant : Instruction :=
    { id := 0, sequence := 0, kind := 1, op := 1, result := 1, ty := .tBool, inputs := [], argc := 0, params := []
      identity := invalidSemanticIdentity, nominalIdentity := invalidSemanticIdentity, variantStart := 0
      variantStop := 0, bindingStart := 0, bindingStop := 0, effects := [], capabilities := [], start := 0, stop := 0 }
  let block (id : Nat) (params : List Value) (instructions : List Instruction) (term : Terminator) : SsaBlock :=
    { id := id, parameters := params, parameterBindings := [], instructions := instructions, terminator := term
      reachable := id ≠ 3, hasFailureTarget := id ≠ 3, failureTarget := 3, loweringOk := true, loweringFailureKind := 0 }
  { identity := { invalidSemanticIdentity with len := 1, valid := true }, nominals := [], importedRecords := []
    importedEnums := [], inputs := [value 0 0 0], resultType := .tBool
    blocks :=
      [block 0 [] [constant] (.branch 0 1 2 [⟨1⟩] [⟨0⟩]), block 1 [value 2 1 1] [] (.jump 2 [⟨2⟩]),
        block 2 [value 3 2 1] [] (.ret 3), block 3 [] [] .fail]
    blockCount := 4, values := [value 3 2 1, value 2 1 1, value 1 0 2, value 0 0 0], valueCount := 4
    supported := true, verified := false }

theorem diamond_accepted : verifyFunctionBase { pages := [], stride := 1024, total := 0 } diamond = true := by
  simp -zeta only [↓iterate_eq_run, verifyFunctionBase, verifyFunctionInputs, verifyInputList, verifyInputStep,
    verifyInputOne, findValue, findBlock, verifyBlocks, verifyBlockStep, verifyOneBlock, verifyParameters,
    verifyParameterStep, parameterIsDefined, verifyInstructions, verifyInstructionStep, verifyInstruction,
    verifyTerminator, verifyBranchTerm, verifyReturnTerm, verifyEdge, valueAvailable, availableValues, availableStep,
    availableOne, argumentTypesMatch, argumentTypeStep, argumentParam, argumentValueType]
  decide +kernel

theorem verifyFunctionBase_wellFormed_diamond : WellFormed { pages := [], stride := 1024, total := 0 } diamond :=
  verifyFunctionBase_wellFormed diamond_accepted

end MncsCompiler.Ssa
