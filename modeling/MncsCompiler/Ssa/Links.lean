import MncsCompiler.Ssa.Source
import MncsCompiler.Ssa.WellFormed

/-!
# `Ssa.Links` — loop operations against the control-flow graph

A graph asks for one loop operation in each preheader, header and back edge of a loop, and for none elsewhere.
`LoopLinked` says that a record carries exactly these; for a record that the base checks accept,
`verify_flow_loop_links` decides it (`verifyFlowLoopLinks_iff`).
-/

namespace MncsCompiler.Ssa

open BoundedLoop Decl Flow

/-- A loop guard, a loop advance or an index initialization. -/
def Instruction.loopOperation (inst : Instruction) : Bool := inst.kind = 13 || inst.kind = 14 || inst.kind = 15

def SsaBlock.loopOperations (block : SsaBlock) : List Instruction :=
  block.instructions.filter Instruction.loopOperation

/-- The loop operations of a block are those that the graph asks for. -/
structure Affine (loop : LoopMeta) (ops : List Instruction) : Prop where
  count : ops.length = if expectedLoopInstructionKind loop.role = 0 then 0 else 1
  kinds : ∀ inst ∈ ops,
    inst.kind = expectedLoopInstructionKind loop.role ∧ loopInstructionMatchesMeta inst loop = true

/-- The blocks of the graph are blocks of the record with the loop operations that the graph asks for, and no other
    block of the record has any. The record has a block more, the failure block. -/
structure LoopLinked (function : Function) (cfg : FunctionFlow TOp) : Prop where
  room : cfg.blockCount < function.blockCount
  count : cfg.blocks.length = cfg.blockCount
  linked : ∀ b ∈ cfg.blocks, ∃ s ∈ function.blocks, s.id = b.id ∧ Affine b.iteration s.loopOperations
  unmapped : ∀ s ∈ function.blocks, cfg.blockCount ≤ s.id → s.loopOperations = []

theorem SsaBlock.loopOperations_eq_nil {block : SsaBlock} :
    block.loopOperations = [] ↔ ∀ inst ∈ block.instructions, inst.loopOperation = false := by
  rw [SsaBlock.loopOperations, List.filter_eq_nil_iff]
  simp only [Bool.not_eq_true]

/-! ## One block -/

theorem blockHasLoopOperation_eq {instructions : List Instruction} (h : instructions.length ≤ 1024) :
    blockHasLoopOperation instructions = instructions.any Instruction.loopOperation := by
  have hloop : ∀ n i (l : List Instruction), l.length ≤ n →
      (iterate (fun _ (st : BlockLoopOperationProbe) =>
            if st.found || st.rest.isEmpty then .ret st.found
            else .next (blockLoopOperationProbeStep st))
          i n { rest := l, found := false }).after (fun st => st.found || !st.rest.isEmpty) =
        l.any Instruction.loopOperation := by
    intro n
    induction n with
    | zero =>
        intro i l hl
        obtain rfl := List.eq_nil_of_length_eq_zero (Nat.le_zero.mp hl)
        rfl
    | succ n ih =>
        intro i l hl
        rw [iterate_succ]
        cases l with
        | nil => rfl
        | cons inst t =>
            rw [if_neg (by simp), Pass.bind_next, List.any_cons]
            have hstep : blockLoopOperationProbeStep { rest := inst :: t, found := false } =
                { rest := t, found := inst.loopOperation } := rfl
            rw [hstep]
            cases hop : inst.loopOperation with
            | true =>
                -- the next pass, or the end of the loop, answers with what was found
                cases n <;> rfl
            | false => exact ih (i + 1) t (Nat.le_of_succ_le_succ hl)
  exact hloop 1024 0 instructions h

/-- A state of the affinity scan that the operations still to come can complete. -/
structure Completes (loop : LoopMeta) (st : LoopInstructionAffinityScan) : Prop where
  ok : st.ok = true
  count : (st.rest.filter Instruction.loopOperation).length + st.matched =
    if expectedLoopInstructionKind loop.role = 0 then 0 else 1
  kinds : ∀ inst ∈ st.rest.filter Instruction.loopOperation,
    inst.kind = expectedLoopInstructionKind loop.role ∧ loopInstructionMatchesMeta inst loop = true

/-- One instruction: no loop operation, or the one that is asked for. -/
theorem completes_item {st : LoopInstructionAffinityScan} {inst : Instruction} {t : List Instruction}
    (hok : st.ok = true) (hrest : st.rest = inst :: t)
    (hkind : st.expectedKind = expectedLoopInstructionKind st.loop.role) :
    Completes st.loop st ↔ Completes st.loop (verifyLoopInstructionAffinityItem st inst t) := by
  have hlimit : (if expectedLoopInstructionKind st.loop.role = 0 then 0 else 1) ≤ 1 := by split <;> decide
  have hop : (decide (inst.kind = 13) || decide (inst.kind = 14) || decide (inst.kind = 15)) = inst.loopOperation := rfl
  unfold verifyLoopInstructionAffinityItem
  dsimp only
  rw [hop]
  cases hloop : inst.loopOperation with
  | false =>
      have hfilter : st.rest.filter Instruction.loopOperation = t.filter Instruction.loopOperation := by
        rw [hrest, List.filter_cons_of_neg (by simp [hloop])]
      constructor
      · rintro ⟨-, hcount, hkinds⟩
        rw [hfilter] at hcount hkinds
        exact ⟨hok, hcount, hkinds⟩
      · rintro ⟨-, hcount, hkinds⟩
        exact ⟨hok, hfilter ▸ hcount, hfilter ▸ hkinds⟩
  | true =>
      have hfilter : st.rest.filter Instruction.loopOperation = inst :: t.filter Instruction.loopOperation := by
        rw [hrest, List.filter_cons_of_pos hloop]
      constructor
      · rintro ⟨-, hcount, hkinds⟩
        rw [hfilter] at hcount hkinds
        rw [List.length_cons] at hcount
        obtain ⟨hinst, hall⟩ := List.forall_mem_cons.mp hkinds
        refine ⟨?_, ?_, hall⟩
        · have hfirst : st.matched = 0 := by omega
          simp [hok, hkind, hinst, hfirst]
        · show (t.filter Instruction.loopOperation).length + (st.matched + 1) = _
          omega
      · rintro ⟨hvalid, hcount, hall⟩
        simp only [hok, hkind, Bool.not_true, Bool.false_eq_true, if_false, Bool.true_and, Bool.and_eq_true,
          decide_eq_true_eq] at hvalid hcount hall
        refine ⟨hok, ?_, ?_⟩
        · rw [hfilter, List.length_cons]
          omega
        · rw [hfilter]
          exact List.forall_mem_cons.mpr ⟨hvalid.1, hall⟩

theorem verifyLoopInstructionAffinity_iff {loop : LoopMeta} {instructions : List Instruction}
    (h : instructions.length ≤ 1024) :
    verifyLoopInstructionAffinity loop instructions = true ↔
      Affine loop (instructions.filter Instruction.loopOperation) := by
  refine (iterate_decides LoopInstructionAffinityScan.rest LoopInstructionAffinityScan.ok
    (fun st => decide (st.matched = if st.expectedKind = 0 then 0 else 1)) (fun _ => False)
    (fun st => st.expectedKind = expectedLoopInstructionKind loop.role ∧ st.loop = loop) (Completes loop)
    (fun _ _ => rfl) ?_ ?_ ?_ ?_ ⟨rfl, rfl⟩ h).trans ?_
  · intro st
    simp only [Bool.and_eq_true, List.isEmpty_iff, and_assoc]
  · intro st hgood
    exact hgood.ok
  · rintro st ⟨hkind, -⟩ hok hrest
    rw [decide_eq_true_eq, hkind]
    constructor
    · intro hmatched
      exact ⟨hok, by rw [hrest, hmatched]; exact Nat.zero_add _, by simp [hrest]⟩
    · rintro ⟨-, hcount, -⟩
      rw [hrest] at hcount
      exact (Nat.zero_add _).symm.trans hcount
  · rintro st inst t ⟨hkind, rfl⟩ hok hrest
    have hstep : verifyLoopInstructionAffinityStep st = verifyLoopInstructionAffinityItem st inst t := by
      rw [verifyLoopInstructionAffinityStep, hrest]
    rw [hstep, completes_item hok hrest hkind]
    unfold verifyLoopInstructionAffinityItem
    dsimp only
    split
    · exact ⟨rfl, ⟨hkind, rfl⟩, (and_iff_right not_false).symm⟩
    · exact ⟨rfl, ⟨hkind, rfl⟩, (and_iff_right not_false).symm⟩
  · constructor
    · rintro ⟨-, hcount, hkinds⟩
      exact ⟨hcount, hkinds⟩
    · rintro ⟨hcount, hkinds⟩
      exact ⟨rfl, hcount, hkinds⟩

/-! ## The blocks -/

theorem verifyUnmappedLoopOperations_iff {blocks : List SsaBlock} {limit : Nat} (h : blocks.length ≤ 1024)
    (hinsts : ∀ b ∈ blocks, b.instructions.length ≤ 1024) :
    verifyUnmappedLoopOperations blocks limit = true ↔ ∀ b ∈ blocks, limit ≤ b.id → b.loopOperations = [] := by
  refine (iterate_decides UnmappedLoopOperationScan.rest UnmappedLoopOperationScan.ok (fun _ => true) (fun _ => False)
    (fun st => st.limit = limit ∧ ∀ b ∈ st.rest, b.instructions.length ≤ 1024)
    (fun st => st.ok = true ∧ ∀ b ∈ st.rest, limit ≤ b.id → b.loopOperations = []) (fun _ _ => rfl) ?_ ?_ ?_ ?_
    ⟨rfl, hinsts⟩ h).trans (and_iff_right rfl)
  · intro st
    simp
  · intro st hgood
    exact hgood.1
  · intro st _ hok hrest
    simp [hok, hrest]
  · rintro st b t ⟨rfl, hlengths⟩ hok hrest
    rw [hrest] at hlengths
    obtain ⟨hb, ht⟩ := List.forall_mem_cons.mp hlengths
    have hstep : verifyUnmappedLoopOperationStep st = verifyUnmappedLoopOperationItem st b t := by
      rw [verifyUnmappedLoopOperationStep, hrest]
    rw [hstep, hrest]
    refine ⟨rfl, ⟨rfl, ht⟩, ?_⟩
    have hhas : blockHasLoopOperation b.instructions = false ↔ b.loopOperations = [] := by
      rw [blockHasLoopOperation_eq hb, SsaBlock.loopOperations_eq_nil, List.any_eq_false]
      simp only [Bool.not_eq_true]
    have hvalid : (verifyUnmappedLoopOperationItem st b t).ok = true ↔ (st.limit ≤ b.id → b.loopOperations = []) := by
      simp only [verifyUnmappedLoopOperationItem, hok, Bool.true_and, Bool.or_eq_true, decide_eq_true_eq,
        Bool.not_eq_true', hhas, or_iff_not_imp_left, Nat.not_lt]
    rw [List.forall_mem_cons, and_iff_right not_false, hvalid]
    simp [hok, verifyUnmappedLoopOperationItem]

theorem verifyInstructions_length {src : Source} {function : Function} {block : SsaBlock}
    {instructions : List Instruction} (h : verifyInstructions src function block instructions = true) :
    instructions.length ≤ 1024 := by
  refine iterate_takes InstructionCheck.rest InstructionCheck.ok (fun _ => true) (fun _ _ => rfl) ?_ ?_ h
  · intro st hk
    rw [Bool.and_eq_true] at hk
    exact hk.2
  · intro st
    rw [verifyInstructionStep]
    split
    · exact Nat.le_succ _
    · split
      · exact Nat.le_succ _
      · next hrest => exact (congrArg List.length hrest).le

/-- A block is found under an id that a block has. -/
theorem findBlock_found {blocks : List SsaBlock} (hlength : blocks.length ≤ 1024) {b : SsaBlock} (hb : b ∈ blocks) :
    (findBlock blocks b.id).found = true := by
  have hsearch : ∀ n, blocks.length ≤ n → ∀ st : BlockScan, st.rest = blocks → st.id = b.id → st.found = false →
      (blockScanStep^[n] st).found = true := by
    rintro n hn st rfl hid hst
    rw [iterate_search BlockScan.rest BlockScan.found (fun st c => decide (c.id = st.id)) ?_ ?_ hst ?_ hn, hid]
    · exact List.any_eq_true.mpr ⟨b, hb, decide_eq_true rfl⟩
    · intro st hst
      rw [blockScanStep, if_pos hst]
    · intro st c t hst hrest
      simp [blockScanStep, hst, hrest]
    · intro st hrest
      simp [blockScanStep, hrest]
  rw [findBlock]
  dsimp only
  apply hsearch 1024 hlength
  · rfl
  · rfl
  · rfl

theorem blockCount_le {src : Source} {function : Function} (h : verifyFunctionBase src function = true) :
    function.blockCount ≤ 1024 := by
  rw [verifyFunctionBase] at h
  simp only [Bool.if_false_left, Bool.and_eq_true, Bool.not_eq_true', decide_eq_false_iff_not, Bool.or_eq_true,
    not_or, decide_eq_true_eq, Bool.not_eq_false, not_lt] at h
  exact h.2.1.1.1.2

/-- A state of the link scan from which the rest of the graph goes through. -/
structure Links (function : Function) (cfg : FunctionFlow TOp) (st : FlowLoopLinkScan) : Prop where
  ok : st.ok = true
  count : st.seen + st.rest.length = cfg.blockCount
  linked : ∀ b ∈ st.rest, ∃ s ∈ function.blocks, s.id = b.id ∧ Affine b.iteration s.loopOperations
  unmapped : ∀ s ∈ function.blocks, cfg.blockCount ≤ s.id → s.loopOperations = []

/-- The blocks of a record can be told by their ids as far as the loops of a graph are concerned, and are short enough to
    be scanned. -/
structure Uniform (function : Function) (cfg : FunctionFlow TOp) : Prop where
  length : function.blocks.length ≤ 1024
  count : function.blockCount ≤ 1024
  instructions : ∀ s ∈ function.blocks, s.instructions.length ≤ 1024
  alike : ∀ b ∈ cfg.blocks, ∀ s ∈ function.blocks, ∀ t ∈ function.blocks, s.id = b.id → t.id = b.id →
    Affine b.iteration s.loopOperations → Affine b.iteration t.loopOperations

section Uniform

variable {function : Function} {cfg : FunctionFlow TOp} (h : Uniform function cfg)
include h

/-- One block of the graph. -/
theorem verifyFlowLoopLinkItem_ok {st : FlowLoopLinkScan} (hfunction : st.function = function) {b : Block TOp}
    (hb : b ∈ cfg.blocks) {t : List (Block TOp)} :
    (verifyFlowLoopLinkItem st b t).ok = true ↔
      ∃ s ∈ function.blocks, s.id = b.id ∧ Affine b.iteration s.loopOperations := by
  have haffine : ∀ s ∈ function.blocks,
      verifyLoopInstructionAffinity b.iteration s.instructions = true ↔ Affine b.iteration s.loopOperations :=
    fun s hs => verifyLoopInstructionAffinity_iff (h.instructions s hs)
  simp only [verifyFlowLoopLinkItem, hfunction, Bool.and_eq_true, decide_eq_true_eq]
  constructor
  · rintro ⟨⟨hfound, hid⟩, hops⟩
    have hmem := (findBlock_mem hfound).1
    exact ⟨_, hmem, hid, (haffine _ hmem).mp hops⟩
  · rintro ⟨s, hs, hid, hops⟩
    have hfound := findBlock_found h.length hs
    rw [hid] at hfound
    obtain ⟨hmem, hsame⟩ := findBlock_mem hfound
    exact ⟨⟨hfound, hsame⟩, (haffine _ hmem).mpr (h.alike b hb s hs _ hmem hid hsame hops)⟩

/-- **Links.** A uniform record passes the flow check exactly when its loop operations are the ones that the graph asks
    for. -/
theorem Uniform.verifyFlowLoopLinks_iff : verifyFlowLoopLinks function cfg = true ↔ LoopLinked function cfg := by
  have hunmapped : verifyUnmappedLoopOperations function.blocks cfg.blockCount = true ↔
      ∀ s ∈ function.blocks, cfg.blockCount ≤ s.id → s.loopOperations = [] :=
    verifyUnmappedLoopOperations_iff h.length h.instructions
  rw [verifyFlowLoopLinks]
  split
  · next hroom =>
      simp only [Bool.false_eq_true, false_iff]
      exact fun hlinked => absurd hlinked.room (Nat.not_lt.mpr hroom)
  · next hroom =>
      by_cases hlong : cfg.blocks.length ≤ 1024
      · refine (iterate_decides FlowLoopLinkScan.rest FlowLoopLinkScan.ok
          (fun st => decide (st.seen = cfg.blockCount) && verifyUnmappedLoopOperations function.blocks cfg.blockCount)
          (fun st => st.seen ≥ cfg.blockCount) (fun st => st.function = function ∧ st.rest ⊆ cfg.blocks)
          (Links function cfg) (fun _ _ => rfl) ?_ ?_ ?_ ?_ ⟨rfl, List.Subset.refl _⟩ hlong).trans ?_
        · intro st
          simp only [Bool.and_eq_true, List.isEmpty_iff, and_assoc]
        · exact fun st hgood => hgood.ok
        · intro st _ hok hrest
          rw [Bool.and_eq_true, decide_eq_true_eq, hunmapped]
          constructor
          · rintro ⟨hseen, hnone⟩
            exact ⟨hok, by rw [hrest]; exact hseen, by simp [hrest], hnone⟩
          · rintro ⟨-, hcount, -, hnone⟩
            rw [hrest] at hcount
            exact ⟨hcount, hnone⟩
        · rintro st b t ⟨hfunction, hsub⟩ hok hrest
          have hstep : verifyFlowLoopLinkStep st = verifyFlowLoopLinkItem st b t := by
            rw [verifyFlowLoopLinkStep, hrest]
          rw [hrest, List.cons_subset] at hsub
          rw [hstep]
          refine ⟨rfl, ⟨hfunction, hsub.2⟩, ?_⟩
          have hitem := verifyFlowLoopLinkItem_ok h hfunction hsub.1 (t := t)
          rw [Nat.not_le]
          constructor
          · rintro ⟨-, hcount, hlinked, hnone⟩
            rw [hrest] at hcount hlinked
            obtain ⟨hb, ht⟩ := List.forall_mem_cons.mp hlinked
            rw [List.length_cons] at hcount
            refine ⟨by omega, hitem.mpr hb, ?_, ht, hnone⟩
            show st.seen + 1 + t.length = _
            omega
          · rintro ⟨-, hlinkedOk, hcount, ht, hnone⟩
            change st.seen + 1 + t.length = _ at hcount
            refine ⟨hok, ?_, ?_, hnone⟩
            · rw [hrest, List.length_cons]
              omega
            · rw [hrest]
              exact List.forall_mem_cons.mpr ⟨hitem.mp hlinkedOk, ht⟩
        · constructor
          · rintro ⟨-, hcount, hlinked, hnone⟩
            exact ⟨Nat.not_le.mp hroom, (Nat.zero_add _).symm.trans hcount, hlinked, hnone⟩
          · rintro ⟨-, hcount, hlinked, hnone⟩
            exact ⟨rfl, (Nat.zero_add _).trans hcount, hlinked, hnone⟩
      · -- a graph that is longer than the loop is longer than its own count
        constructor
        · intro hpassed
          refine absurd (iterate_takes FlowLoopLinkScan.rest FlowLoopLinkScan.ok _ (fun _ _ => rfl) ?_ ?_ hpassed)
            hlong
          · intro st hk
            simp only [Bool.and_eq_true] at hk
            exact hk.1.1.2
          · intro st
            rw [verifyFlowLoopLinkStep]
            split
            · exact Nat.le_succ _
            · next hrest => exact (congrArg List.length hrest).le
        · rintro ⟨hroom', hcount, -, -⟩
          have hlimit := h.count
          omega

end Uniform

/-- The base checks see to it that a record is uniform. -/
theorem uniform_of_verify {src : Source} {function : Function} (h : verifyFunctionBase src function = true)
    (cfg : FunctionFlow TOp) : Uniform function cfg := by
  have hchecked := checked_of_verify h
  refine ⟨hchecked.blockCount.trans_le (blockCount_le h), blockCount_le h, ?_, ?_⟩
  · intro s hs
    exact verifyInstructions_length (hchecked.block_parts hs).2.1
  · intro b _ s hs t ht hid hid' hops
    rwa [List.inj_on_of_nodup_map hchecked.blockIds.1 ht hs (hid'.trans hid.symm)]

/-- A record that the base checks accept passes the flow check exactly when its loop operations are the ones that the
    graph asks for. -/
theorem verifyFlowLoopLinks_iff {src : Source} {function : Function} {cfg : FunctionFlow TOp}
    (h : verifyFunctionBase src function = true) :
    verifyFlowLoopLinks function cfg = true ↔ LoopLinked function cfg :=
  (uniform_of_verify h cfg).verifyFlowLoopLinks_iff

end MncsCompiler.Ssa
