import MncsCompiler.Flow.Units
import MncsCompiler.Ssa.Verify

/-!
# `Ssa.Source` — functions against their source

`verify_function` of `ssa.mncs` finds the source function that a record claims to be by its identity. When that
function has a loop, the loop operations of the record have to be the ones that its control-flow graph asks for;
`verify_function_with_flow` makes this check against a graph that the caller has at hand.
-/

namespace MncsCompiler.Ssa

open BoundedLoop Decl Flow

/-! ## Loops of the source -/

/-- The statements at hand and the lists still to look through. -/
structure SourceStatementScan where
  current : List Stmt
  pending : List (List Stmt)
  found : Bool

def sourceStatementScanPop (st : SourceStatementScan) : SourceStatementScan :=
  match st.pending with
  | [] => st
  | statements :: rest => { st with current := statements, pending := rest }

def sourceStatementScanItem (st : SourceStatementScan) (statement : Stmt) (rest : List Stmt) : SourceStatementScan :=
  match statement with
  | .iterateStmt _ _ _ _ _ _ _ _ _ _ _ _ _ _ _ _ _ _ => { st with found := true }
  | .ifStmt _ thenBody elseBody _ _ => { st with current := rest, pending := thenBody :: elseBody :: st.pending }
  | _ => { st with current := rest }

def sourceStatementScanStep (st : SourceStatementScan) : SourceStatementScan :=
  if st.found then st
  else
    match st.current with
    | [] => sourceStatementScanPop st
    | statement :: rest => sourceStatementScanItem st statement rest

def sourceStatementsContainIteration (statements : List Stmt) : Bool :=
  (iterate (fun _ (st : SourceStatementScan) =>
        if st.found then .ret true
        else if st.current.isEmpty && st.pending.isEmpty then .ret false
        else .next (sourceStatementScanStep st))
      0 1024 { current := statements, pending := [], found := false }).after fun st =>
    st.found || !(st.current.isEmpty && st.pending.isEmpty)

structure SourceFunctionLocator where
  rest : List FnDecl
  header : Parser.Header
  wanted : SemanticIdentity
  index : Nat
  found : Bool
  matchedIndex : Nat
  containsIteration : Bool

def locateSourceFunctionItem (src : Source) (st : SourceFunctionLocator) (fnDecl : FnDecl) (rest : List FnDecl)
    : SourceFunctionLocator :=
  let identity :=
    canonicalFunctionIdentity src st.header.moduleStart st.header.moduleStop fnDecl.sig.nameStart fnDecl.sig.nameStop
  let same := semanticIdentityEqual identity st.wanted
  { st with
    rest := rest, index := st.index + 1, found := same, matchedIndex := st.index
    containsIteration := same && sourceStatementsContainIteration fnDecl.body.body }

def locateSourceFunctionStep (src : Source) (st : SourceFunctionLocator) : SourceFunctionLocator :=
  match st.rest with
  | [] => st
  | fnDecl :: rest => locateSourceFunctionItem src st fnDecl rest

def locateSourceFunction (src : Source) (functions : List FnDecl) (header : Parser.Header) (wanted : SemanticIdentity)
    : SourceFunctionLocator :=
  (iterate (fun _ (st : SourceFunctionLocator) =>
        if st.found || st.rest.isEmpty then .ret st
        else .next (locateSourceFunctionStep src st))
      0 1024
      { rest := functions, header := header, wanted := wanted, index := 0, found := false, matchedIndex := 0
        containsIteration := false }).after fun st =>
    st

/-! ## Loops of the graph -/

structure BlockLoopOperationProbe where
  rest : List Instruction
  found : Bool

def blockLoopOperationProbeStep (st : BlockLoopOperationProbe) : BlockLoopOperationProbe :=
  match st.rest with
  | [] => st
  | inst :: rest => { rest := rest, found := inst.kind = 13 || inst.kind = 14 || inst.kind = 15 }

def blockHasLoopOperation (instructions : List Instruction) : Bool :=
  (iterate (fun _ (st : BlockLoopOperationProbe) =>
        if st.found || st.rest.isEmpty then .ret st.found
        else .next (blockLoopOperationProbeStep st))
      0 1024 { rest := instructions, found := false }).after fun st =>
    st.found || !st.rest.isEmpty

structure UnmappedLoopOperationScan where
  rest : List SsaBlock
  limit : Nat
  ok : Bool

def verifyUnmappedLoopOperationItem (st : UnmappedLoopOperationScan) (block : SsaBlock) (rest : List SsaBlock)
    : UnmappedLoopOperationScan :=
  let hasLoopOperation := blockHasLoopOperation block.instructions
  let valid : Bool := block.id < st.limit || !hasLoopOperation
  { st with rest := rest, ok := st.ok && valid }

def verifyUnmappedLoopOperationStep (st : UnmappedLoopOperationScan) : UnmappedLoopOperationScan :=
  match st.rest with
  | [] => st
  | block :: rest => verifyUnmappedLoopOperationItem st block rest

def verifyUnmappedLoopOperations (blocks : List SsaBlock) (flowBlockCount : Nat) : Bool :=
  (iterate (fun _ (st : UnmappedLoopOperationScan) =>
        if !st.ok then .ret false
        else if st.rest.isEmpty then .ret true
        else .next (verifyUnmappedLoopOperationStep st))
      0 1024 { rest := blocks, limit := flowBlockCount, ok := true }).after fun st =>
    st.ok && st.rest.isEmpty

def expectedLoopInstructionKind (role : Nat) : Nat :=
  if role = 1 then 15 else if role = 2 then 13 else if role = 4 then 14 else 0

def loopInstructionMatchesMeta (inst : Instruction) (loop : LoopMeta) : Bool :=
  let common : Bool :=
    loop.mode > 0 && loop.indexStop > loop.indexStart && loop.statementStop > loop.statementStart &&
      inst.start = loop.statementStart && inst.stop = loop.statementStop && inst.bindingStart = loop.indexStart &&
      inst.bindingStop = loop.indexStop
  if inst.kind = 13 then
    common && loop.role = 2 &&
      (loop.mode = 1 && inst.op = 1 && inst.variantStart = loop.boundStart &&
          inst.variantStop = loop.boundStop || loop.mode = 2 && inst.op = 2 &&
              inst.variantStart = loop.sourceStart && inst.variantStop = loop.sourceStop)
  else if inst.kind = 14 then common && loop.role = 4 && inst.op = 0 && inst.variantStart = 0 && inst.variantStop = 0
  else if inst.kind = 15 then common && loop.role = 1 && inst.op = 0 && inst.variantStart = 0 && inst.variantStop = 0
  else false

structure LoopInstructionAffinityScan where
  rest : List Instruction
  loop : LoopMeta
  expectedKind : Nat
  matched : Nat
  ok : Bool

def verifyLoopInstructionAffinityItem (st : LoopInstructionAffinityScan) (inst : Instruction)
    (rest : List Instruction) : LoopInstructionAffinityScan :=
  let loopOperation : Bool := inst.kind = 13 || inst.kind = 14 || inst.kind = 15
  if !loopOperation then { st with rest := rest }
  else
    let valid : Bool := inst.kind = st.expectedKind && loopInstructionMatchesMeta inst st.loop
    { st with rest := rest, matched := st.matched + 1, ok := st.ok && valid && st.matched = 0 }

def verifyLoopInstructionAffinityStep (st : LoopInstructionAffinityScan) : LoopInstructionAffinityScan :=
  match st.rest with
  | [] => st
  | inst :: rest => verifyLoopInstructionAffinityItem st inst rest

def verifyLoopInstructionAffinity (loop : LoopMeta) (instructions : List Instruction) : Bool :=
  let expectedKind := expectedLoopInstructionKind loop.role
  (iterate (fun _ (st : LoopInstructionAffinityScan) =>
        if !st.ok then .ret false
        else if st.rest.isEmpty then .ret (st.matched = (if st.expectedKind = 0 then 0 else 1))
        else .next (verifyLoopInstructionAffinityStep st))
      0 1024 { rest := instructions, loop := loop, expectedKind := expectedKind, matched := 0
               ok := true }).after fun st =>
    st.ok && st.rest.isEmpty && st.matched = (if st.expectedKind = 0 then 0 else 1)

structure FlowLoopLinkScan where
  rest : List (Block TOp)
  function : Function
  seen : Nat
  ok : Bool

def verifyFlowLoopLinkItem (st : FlowLoopLinkScan) (flowBlock : (Block TOp)) (rest : List (Block TOp))
    : FlowLoopLinkScan :=
  let sourceBlock := findBlock st.function.blocks flowBlock.id
  let linked : Bool :=
    sourceBlock.found && sourceBlock.block.id = flowBlock.id &&
      verifyLoopInstructionAffinity flowBlock.iteration sourceBlock.block.instructions
  { rest := rest, function := st.function, seen := st.seen + 1, ok := linked }

def verifyFlowLoopLinkStep (st : FlowLoopLinkScan) : FlowLoopLinkScan :=
  match st.rest with
  | [] => st
  | flowBlock :: rest => verifyFlowLoopLinkItem st flowBlock rest

def verifyFlowLoopLinks (function : Function) (cfg : (FunctionFlow TOp)) : Bool :=
  if cfg.blockCount ≥ function.blockCount then false
  else
    (iterate (fun _ (st : FlowLoopLinkScan) =>
          if !st.ok then .ret false
          else if st.rest.isEmpty then
            .ret (st.seen = cfg.blockCount && verifyUnmappedLoopOperations function.blocks cfg.blockCount)
          else if st.seen ≥ cfg.blockCount then .ret false
          else .next (verifyFlowLoopLinkStep st))
        0 1024 { rest := cfg.blocks, function := function, seen := 0, ok := true }).after fun st =>
      st.ok && st.rest.isEmpty && st.seen = cfg.blockCount &&
        verifyUnmappedLoopOperations function.blocks cfg.blockCount

/-! ## Entry points -/

def verifyFunctionWithFlow (src : Source) (function : Function) (cfg : (FunctionFlow TOp)) : Bool :=
  if !verifyFunctionBase src function || !cfg.verified || cfg.blockCount = 0 then false
  else verifyFlowLoopLinks function cfg

def verifyFunctionSourceFlow (src : Source) (function : Function) (targetIndex : Nat) : Bool :=
  let proof := proveUnit src
  if !proof.ok || targetIndex ≥ proof.fnCount then false
  else
    let lowered := lowerProvenUnit src proof
    if !lowered.valid then false
    else
      let cfg := ssaFunctionAt lowered targetIndex
      verifyFunctionWithFlow src function cfg

def verifyFunction (src : Source) (function : Function) : Bool :=
  if !verifyFunctionBase src function then false
  else
    let unit := parseUnit src
    if !unit.ok then false
    else
      let located := locateSourceFunction src unit.fns unit.header function.identity
      if !located.found then false
      else if !located.containsIteration then true else verifyFunctionSourceFlow src function located.matchedIndex

end MncsCompiler.Ssa
