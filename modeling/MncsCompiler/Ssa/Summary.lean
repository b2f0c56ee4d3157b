import MncsCompiler.Flow.LoopFree
import MncsCompiler.Lib.Tally
import MncsCompiler.Ssa.Evaluation
import MncsCompiler.Ssa.WellFormed

/-!
# `Ssa.Summary` — the value SSA form of a unit

`lower_value_ssa_with_imported_schemas` lowers the functions of a unit one after the other, each with the flow graph of
its index, and counts in bounded scans what it has made. A count that runs into a bound is off by design; the bounds are
those of the verifier, so the counts of a summary that says it is valid are those of its functions (`Sums`).
-/

namespace MncsCompiler.Ssa

open BoundedLoop Decl Flow Halting

/-! ## Counts of one function -/

/-- What a scan of instructions has counted. -/
structure InstructionShape where
  instructions : Nat
  calls : Nat
  hasCall : Bool
  firstIdentity : SemanticIdentity
  deriving DecidableEq, Repr

def selectIdentity (already : Bool) (prior candidate : SemanticIdentity) : SemanticIdentity :=
  if already then prior else candidate

def Instruction.isCall (instruction : Instruction) : Bool := instruction.kind = 3

def noInstructions : InstructionShape :=
  { instructions := 0, calls := 0, hasCall := false, firstIdentity := invalidSemanticIdentity }

def summarizeInstruction (st : InstructionShape) (instruction : Instruction) : InstructionShape :=
  let isCall := instruction.isCall
  let first := selectIdentity st.hasCall st.firstIdentity instruction.identity
  { instructions := st.instructions + 1, calls := st.calls + (if isCall then 1 else 0)
    hasCall := st.hasCall || isCall, firstIdentity := first }

def summarizeInstructions (instructions : List Instruction) (limit : Nat) : InstructionShape :=
  (iterate (fun _ (first : Sweep Instruction InstructionShape) =>
        if first.rest.isEmpty then .ret first.acc
        else if first.acc.instructions ≥ limit then .ret { first.acc with instructions := limit + 1 }
        else .next (Sweep.step summarizeInstruction first))
      0 1024 { rest := instructions, acc := noInstructions }).after fun first =>
    if first.rest.isEmpty then first.acc
    else
      (iterate (fun _ (second : Sweep Instruction InstructionShape) =>
            if second.rest.isEmpty then .ret second.acc
            else if second.acc.instructions ≥ limit then .ret { second.acc with instructions := limit + 1 }
            else .next (Sweep.step summarizeInstruction second))
          0 1024 first).after fun second =>
        if second.rest.isEmpty then second.acc else { second.acc with instructions := limit + 1 }

structure TerminatorShape where
  branches : Nat
  jumps : Nat
  returns : Nat
  failures : Nat
  switches : Nat

def summarizeTerminator : Terminator → TerminatorShape
  | .branch _ _ _ _ _ => { branches := 1, jumps := 0, returns := 0, failures := 0, switches := 0 }
  | .jump _ _ => { branches := 0, jumps := 1, returns := 0, failures := 0, switches := 0 }
  | .ret _ => { branches := 0, jumps := 0, returns := 1, failures := 0, switches := 0 }
  | .fail => { branches := 0, jumps := 0, returns := 0, failures := 1, switches := 0 }
  | .finiteSwitch _ _ _ _ _ _ _ _ _ => { branches := 0, jumps := 0, returns := 0, failures := 0, switches := 1 }
  | .scalarSwitch _ _ _ _ _ _ _ _ _ => { branches := 0, jumps := 0, returns := 0, failures := 0, switches := 1 }

structure FunctionShape where
  blocks : Nat
  branches : Nat
  jumps : Nat
  returns : Nat
  failures : Nat
  switches : Nat
  parameters : Nat
  instructions : Nat
  calls : Nat
  hasCall : Bool
  firstIdentity : SemanticIdentity
  unsupported : Nat
  firstBadBlock : Nat
  firstBadKind : Nat
  deriving DecidableEq, Repr

def noBlocks : FunctionShape :=
  { blocks := 0, branches := 0, jumps := 0, returns := 0, failures := 0, switches := 0, parameters := 0
    instructions := 0, calls := 0, hasCall := false, firstIdentity := invalidSemanticIdentity, unsupported := 0
    firstBadBlock := 0, firstBadKind := 0 }

def summarizeBlock (valueLimit : Nat) (st : FunctionShape) (block : SsaBlock) : FunctionShape :=
  let instructionShape := summarizeInstructions block.instructions valueLimit
  let terminatorShape := summarizeTerminator block.terminator
  let first := selectIdentity st.hasCall st.firstIdentity instructionShape.firstIdentity
  let isBad := !block.loweringOk
  let firstBad : Bool := st.unsupported = 0 && isBad
  { blocks := st.blocks + 1, branches := st.branches + terminatorShape.branches
    jumps := st.jumps + terminatorShape.jumps, returns := st.returns + terminatorShape.returns
    failures := st.failures + terminatorShape.failures, switches := st.switches + terminatorShape.switches
    parameters := st.parameters + valueCount block.parameters valueLimit
    instructions := st.instructions + instructionShape.instructions, calls := st.calls + instructionShape.calls
    hasCall := st.hasCall || instructionShape.hasCall, firstIdentity := first
    unsupported := st.unsupported + (if isBad then 1 else 0)
    firstBadBlock := if firstBad then block.id else st.firstBadBlock
    firstBadKind := if firstBad then block.loweringFailureKind else st.firstBadKind }

def summarizeBlocks (blocks : List SsaBlock) (valueLimit : Nat) : FunctionShape :=
  (iterate (fun _ (st : Sweep SsaBlock FunctionShape) =>
        if st.rest.isEmpty then .ret st.acc else .next (Sweep.step (summarizeBlock valueLimit) st))
      0 1024 { rest := blocks, acc := noBlocks }).after fun st =>
    st.acc

/-! ## Counts of a unit -/

/-- What a scan of functions has counted. -/
structure FunctionSummary where
  valid : Bool
  functions : Nat
  supported : Nat
  verified : Nat
  values : Nat
  instructions : Nat
  blocks : Nat
  branches : Nat
  jumps : Nat
  returns : Nat
  failures : Nat
  switches : Nat
  parameters : Nat
  calls : Nat
  hasCall : Bool
  firstIdentity : SemanticIdentity
  unsupported : Nat
  firstBadFunction : Nat
  firstBadBlock : Nat
  firstBadKind : Nat
  deriving DecidableEq, Repr

def noFunctions (sourceOk : Bool) : FunctionSummary :=
  { valid := sourceOk, functions := 0, supported := 0, verified := 0, values := 0, instructions := 0, blocks := 0
    branches := 0, jumps := 0, returns := 0, failures := 0, switches := 0, parameters := 0, calls := 0
    hasCall := false, firstIdentity := invalidSemanticIdentity, unsupported := 0, firstBadFunction := 0
    firstBadBlock := 0, firstBadKind := 0 }

def summarizeFunction (st : FunctionSummary) (function : Function) : FunctionSummary :=
  let shape := summarizeBlocks function.blocks function.valueCount
  let hasCall := st.hasCall || shape.hasCall
  let first := selectIdentity st.hasCall st.firstIdentity shape.firstIdentity
  let firstBad : Bool := st.unsupported = 0 && shape.unsupported > 0
  { valid := st.valid && function.verified && shape.blocks = function.blockCount, functions := st.functions + 1
    supported := st.supported + (if function.supported then 1 else 0)
    verified := st.verified + (if function.verified then 1 else 0), values := st.values + function.valueCount
    instructions := st.instructions + shape.instructions, blocks := st.blocks + shape.blocks
    branches := st.branches + shape.branches, jumps := st.jumps + shape.jumps, returns := st.returns + shape.returns
    failures := st.failures + shape.failures, switches := st.switches + shape.switches
    parameters := st.parameters + shape.parameters, calls := st.calls + shape.calls, hasCall := hasCall
    firstIdentity := first, unsupported := st.unsupported + shape.unsupported
    firstBadBlock := if firstBad then shape.firstBadBlock else st.firstBadBlock
    firstBadKind := if firstBad then shape.firstBadKind else st.firstBadKind
    firstBadFunction := if firstBad then st.functions else st.firstBadFunction }

/-- The last check of a scan: it has seen as many functions as there are. -/
def FunctionSummary.finish (functionCount : Nat) (st : Sweep Function FunctionSummary) : FunctionSummary :=
  { st.acc with valid := st.acc.valid && st.acc.functions = functionCount && st.rest.isEmpty }

def summarizeFunctions (functions : List Function) (functionCount : Nat) (sourceOk : Bool) : FunctionSummary :=
  (iterate (fun _ (st : Sweep Function FunctionSummary) =>
        if st.rest.isEmpty || st.acc.functions ≥ functionCount then .ret (FunctionSummary.finish functionCount st)
        else .next (Sweep.step summarizeFunction st))
      0 1024 { rest := functions, acc := noFunctions sourceOk }).after fun st =>
    FunctionSummary.finish functionCount st

/-! ## Lowering -/

structure ValueSsaSummary where
  functions : List Function
  valid : Bool
  functionCount : Nat
  supportedFunctionCount : Nat
  verifiedFunctionCount : Nat
  valueCount : Nat
  instructionCount : Nat
  blockCount : Nat
  branchCount : Nat
  jumpCount : Nat
  returnCount : Nat
  failureCount : Nat
  switchCount : Nat
  blockParameterCount : Nat
  unsupportedBlockCount : Nat
  firstUnsupportedFunction : Nat
  firstUnsupportedBlock : Nat
  firstUnsupportedKind : Nat
  callCount : Nat
  hasCall : Bool
  firstCallIdentity : SemanticIdentity
  deriving DecidableEq, Repr

def emptySsaSummary (valid : Bool) : ValueSsaSummary :=
  { functions := [], valid := valid, functionCount := 0, supportedFunctionCount := 0, verifiedFunctionCount := 0
    valueCount := 0, instructionCount := 0, blockCount := 0, branchCount := 0, jumpCount := 0, returnCount := 0
    failureCount := 0, switchCount := 0, blockParameterCount := 0, unsupportedBlockCount := 0
    firstUnsupportedFunction := 0, firstUnsupportedBlock := 0, firstUnsupportedKind := 0, callCount := 0
    hasCall := false, firstCallIdentity := invalidSemanticIdentity }

/-- The declarations still to lower, and the functions made so far, last first. -/
structure FunctionWalk where
  fns : List FnDecl
  index : Nat
  acc : List Function
  count : Nat
  ok : Bool

section Unit

variable (src : Source) (lowered : LoweredUnit) (nominals : List NominalTypeIdentity)
  (importedRecords : List ImportedRecordSchema) (importedEnums : List ImportedEnumSchema)

/-- The value SSA form of one declaration of a unit. -/
def lowerUnitFunction (fnDecl : FnDecl) (cfg : FunctionFlow TOp) : Function :=
  lowerFunction src lowered.proof.unit.header fnDecl cfg lowered.proof.unit.records lowered.proof.unit.enums nominals
    importedRecords importedEnums

def finishFunctionStep (st : FunctionWalk) (fnDecl : FnDecl) (fns : List FnDecl) (cfg : FunctionFlow TOp)
    : FunctionWalk :=
  let made := lowerUnitFunction src lowered nominals importedRecords importedEnums fnDecl cfg
  { fns := fns, index := st.index + 1, acc := made :: st.acc, count := st.count + 1, ok := st.ok && made.verified }

def lowerFlowStep (st : FunctionWalk) (fnDecl : FnDecl) (fns : List FnDecl) : FunctionWalk :=
  let cfg := ssaFunctionAt lowered st.index
  finishFunctionStep src lowered nominals importedRecords importedEnums st fnDecl fns cfg

def lowerFunctionStep (st : FunctionWalk) : FunctionWalk :=
  match st.fns with
  | [] => st
  | fnDecl :: fns => lowerFlowStep src lowered nominals importedRecords importedEnums st fnDecl fns

def lowerSsaFunctions : FunctionWalk :=
  (iterate (fun _ (st : FunctionWalk) =>
        if st.count ≥ lowered.proof.fnCount || st.fns.isEmpty then .ret st
        else .next (lowerFunctionStep src lowered nominals importedRecords importedEnums st))
      0 1024 { fns := lowered.proof.unit.fns, index := 0, acc := [], count := 0, ok := true }).after id

end Unit

def ssaFunctionCount (lowered : LoweredUnit) : Nat :=
  (iterate (fun _ (st : Sweep (FunctionFlow TOp) Nat) =>
        if st.acc ≥ lowered.proof.fnCount || st.rest.isEmpty then .ret st.acc
        else .next (Sweep.step (fun count _ => count + 1) st))
      0 1024 { rest := lowered.functions, acc := 0 }).after fun st =>
    st.acc

def functionListEnded (lowered : LoweredUnit) (st : FunctionWalk) : Bool :=
  match st.fns with
  | [] => st.index = ssaFunctionCount lowered
  | _ :: _ => false

def reverseFunctions (functions : List Function) (functionCount : Nat) : List Function :=
  (iterate (fun i (st : Sweep Function (List Function)) =>
        if i ≥ functionCount || st.rest.isEmpty then .ret st.acc
        else .next (Sweep.step (fun acc h => h :: acc) st))
      0 1024 { rest := functions, acc := [] }).after fun st =>
    st.acc

def ssaFlowValid (lowered : LoweredUnit) : Bool := lowered.valid && lowered.graphOk

def lowerValueSsaWithImportedSchemas (src : Source) (lowered : LoweredUnit) (nominals : List NominalTypeIdentity)
    (importedRecords : List ImportedRecordSchema) (importedEnums : List ImportedEnumSchema) : ValueSsaSummary :=
  if !ssaFlowValid lowered then emptySsaSummary false
  else
    let st := lowerSsaFunctions src lowered nominals importedRecords importedEnums
    let functions := reverseFunctions st.acc st.count
    let summary :=
      summarizeFunctions functions st.count (st.ok && st.count = lowered.proof.fnCount && functionListEnded lowered st)
    { functions := functions, valid := summary.valid, functionCount := summary.functions
      supportedFunctionCount := summary.supported, verifiedFunctionCount := summary.verified
      valueCount := summary.values, instructionCount := summary.instructions, blockCount := summary.blocks
      branchCount := summary.branches, jumpCount := summary.jumps, returnCount := summary.returns
      failureCount := summary.failures, switchCount := summary.switches, blockParameterCount := summary.parameters
      unsupportedBlockCount := summary.unsupported, firstUnsupportedFunction := summary.firstBadFunction
      firstUnsupportedBlock := summary.firstBadBlock, firstUnsupportedKind := summary.firstBadKind
      callCount := summary.calls, hasCall := summary.hasCall, firstCallIdentity := summary.firstIdentity }

/-! ## Loop operations -/

structure LoopInstructionCounts where
  indexInitCount : Nat
  guardCount : Nat
  indexAdvanceCount : Nat
  complete : Bool
  deriving DecidableEq, Repr

def loopInstructionCountStep (counts : LoopInstructionCounts) (instruction : Instruction) : LoopInstructionCounts :=
  { indexInitCount := counts.indexInitCount + (if instruction.kind = 15 then 1 else 0)
    guardCount := counts.guardCount + (if instruction.kind = 13 then 1 else 0)
    indexAdvanceCount := counts.indexAdvanceCount + (if instruction.kind = 14 then 1 else 0)
    complete := counts.complete }

def loopInstructionCountsInBlock (instructions : List Instruction) (counts : LoopInstructionCounts)
    : LoopInstructionCounts :=
  (iterate (fun _ (first : Sweep Instruction LoopInstructionCounts) =>
        if first.rest.isEmpty then .ret first.acc else .next (Sweep.step loopInstructionCountStep first))
      0 1024 { rest := instructions, acc := counts }).after fun first =>
    if first.rest.isEmpty then first.acc
    else
      (iterate (fun _ (second : Sweep Instruction LoopInstructionCounts) =>
            if second.rest.isEmpty then .ret second.acc else .next (Sweep.step loopInstructionCountStep second))
          0 1024 first).after fun second =>
        { second.acc with complete := second.acc.complete && second.rest.isEmpty }

def loopInstructionCountsInBlocks (blocks : List SsaBlock) (counts : LoopInstructionCounts) : LoopInstructionCounts :=
  (iterate (fun _ (st : Sweep SsaBlock LoopInstructionCounts) =>
        if st.rest.isEmpty then .ret st.acc
        else .next (Sweep.step (fun counts block => loopInstructionCountsInBlock block.instructions counts) st))
      0 1024 { rest := blocks, acc := counts }).after fun st =>
    { st.acc with complete := st.acc.complete && st.rest.isEmpty }

def valueSsaLoopInstructionCounts (summary : ValueSsaSummary) : LoopInstructionCounts :=
  (iterate (fun _ (st : Sweep Function LoopInstructionCounts) =>
        if st.rest.isEmpty then .ret st.acc
        else .next (Sweep.step (fun counts function => loopInstructionCountsInBlocks function.blocks counts) st))
      0 1024
      { rest := summary.functions
        acc := { indexInitCount := 0, guardCount := 0, indexAdvanceCount := 0, complete := true } }).after fun st =>
    { st.acc with complete := st.acc.complete && st.rest.isEmpty }

/-! ## Status of a function -/

structure ValueSsaFunctionStatus where
  found : Bool
  supported : Bool
  verified : Bool
  identity : SemanticIdentity
  deriving DecidableEq, Repr

/-- What is said of a function that is not there. -/
def absentStatus : ValueSsaFunctionStatus :=
  { found := false, supported := false, verified := false, identity := invalidSemanticIdentity }

structure FunctionStatusWalk where
  rest : List Function
  index : Nat
  target : Nat
  status : ValueSsaFunctionStatus
  done : Bool

def valueSsaFunctionStatusItem (st : FunctionStatusWalk) (function : Function) (rest : List Function)
    : FunctionStatusWalk :=
  if st.index = st.target then
    { st with
      status :=
        { found := true, supported := function.supported, verified := function.verified
          identity := function.identity }
      done := true }
  else { st with rest := rest, index := st.index + 1 }

def valueSsaFunctionStatusStep (st : FunctionStatusWalk) : FunctionStatusWalk :=
  match st.rest with
  | [] => { st with done := true }
  | function :: rest => valueSsaFunctionStatusItem st function rest

def valueSsaFunctionStatus (summary : ValueSsaSummary) (target : Nat) : ValueSsaFunctionStatus :=
  (iterate (fun _ (st : FunctionStatusWalk) =>
        if st.done || st.rest.isEmpty then .ret st.status else .next (valueSsaFunctionStatusStep st))
      0 1024
      { rest := summary.functions, index := 0, target := target, status := absentStatus, done := false }).after
        fun st =>
    st.status

/-! ## What a verified function fits -/

theorem Readable.mark {function : Function} {block : SsaBlock} {before id : Nat} (verified : Bool)
    (h : Readable function block before id) : Readable { function with verified := verified } block before id := by
  cases h with
  | input hvalue hid => exact .input hvalue hid
  | parameter hvalue hid => exact .parameter hvalue hid
  | result hinst hbefore hid => exact .result hinst hbefore hid

/-- The verdict is not part of what is well formed. -/
theorem WellFormed.mark {src : Source} {function : Function} (verified : Bool) (h : WellFormed src function) :
    WellFormed src { function with verified := verified } where
  valueIds := h.valueIds
  blockIds := h.blockIds
  parameterOnce := h.parameterOnce
  resultOnce := h.resultOnce
  operands := fun b hb j inst hinst id hid => (h.operands b hb j inst hinst id hid).mark verified
  reads := fun b hb id hid => (h.reads b hb id hid).mark verified
  edges := h.edges

/-- A function whose counts no bound of the scans cuts. -/
structure Fits (function : Function) : Prop where
  valueLimit : function.valueCount ≤ 2048
  blockLimit : function.blockCount ≤ 1024
  blockCount : function.blocks.length = function.blockCount
  parameters : ∀ b ∈ function.blocks, b.parameters.length ≤ function.valueCount
  instructions : ∀ b ∈ function.blocks, b.instructions.length ≤ function.valueCount

theorem fits_of_verify {src : Source} {function : Function} (h : verifyFunctionBase src function = true) :
    Fits function := by
  have hchecked := checked_of_verify h
  refine ⟨hchecked.valueLimit, ?_, hchecked.blockCount, ?_, ?_⟩
  · rw [verifyFunctionBase] at h
    simp only [Bool.if_false_left, Bool.and_eq_true, Bool.not_eq_true', decide_eq_false_iff_not, Bool.or_eq_true,
      not_or, decide_eq_true_eq, Bool.not_eq_false, not_lt] at h
    exact h.2.1.1.1.2
  · intro b hb
    exact (verifyParameters_numbered hchecked.valueLimit (hchecked.block_parts hb).1).1
  · intro b hb
    exact (verifyInstructions_passed (hchecked.block_parts hb).2.1).1

/-- What the lowering of a function says when it calls it verified. -/
structure Accepted (src : Source) (function : Function) : Prop where
  supported : function.supported = true
  wellFormed : WellFormed src function
  fits : Fits function
  lowered : ∀ b ∈ function.blocks, b.loweringOk = true

theorem lowerFunction_accepted {src : Source} {header : Parser.Header} {fnDecl : FnDecl} {cfg : FunctionFlow TOp}
    {records : List RecordDecl} {enums : List EnumDecl} {nominals : List NominalTypeIdentity}
    {importedRecords : List ImportedRecordSchema} {importedEnums : List ImportedEnumSchema}
    (h : (lowerFunction src header fnDecl cfg records enums nominals importedRecords importedEnums).verified = true) :
    Accepted src (lowerFunction src header fnDecl cfg records enums nominals importedRecords importedEnums) := by
  obtain ⟨candidate, hmade⟩ : ∃ candidate : Function,
      lowerFunction src header fnDecl cfg records enums nominals importedRecords importedEnums =
        { candidate with verified := candidate.supported && verifyFunctionWithFlow src candidate cfg } := ⟨_, rfl⟩
  rw [hmade] at h ⊢
  generalize hverdict : (candidate.supported && verifyFunctionWithFlow src candidate cfg) = verdict at h ⊢
  have hpassed : candidate.supported = true ∧ verifyFunctionWithFlow src candidate cfg = true := by
    rw [← Bool.and_eq_true]
    exact hverdict.trans h
  obtain ⟨hsupported, hflow⟩ := hpassed
  have hbase : verifyFunctionBase src candidate = true := by
    rw [verifyFunctionWithFlow] at hflow
    split at hflow
    · cases hflow
    · next hopen =>
        rw [Bool.or_eq_true, Bool.or_eq_true, not_or, not_or] at hopen
        simpa using hopen.1.1
  have hfits := fits_of_verify hbase
  refine ⟨hsupported, (checked_of_verify hbase).wellFormed.mark verdict, ⟨hfits.1, hfits.2, hfits.3, hfits.4, hfits.5⟩,
    ?_⟩
  intro b hb
  have hone := (checked_of_verify hbase).blocks b hb
  simp only [verifyOneBlock, Bool.and_eq_true] at hone
  exact hone.1.1.1.1

/-! ## The counts of a function -/

theorem summarizeInstructions_eq {instructions : List Instruction} {limit : Nat} (hlimit : limit ≤ 2048)
    (h : instructions.length ≤ limit) :
    summarizeInstructions instructions limit = instructions.foldl summarizeInstruction noInstructions := by
  refine (after_iterate_again (fun st hst => if_pos hst) 1024 1023 _).trans ?_
  refine (Sweep.iterate_whole (f := summarizeInstruction) (fun i st hst => ?_) ?_ ?_ 0).trans ?_
  · simp [hst]
  · intro i l a t hsplit
    have hcount := foldl_sum (f := summarizeInstruction) InstructionShape.instructions (fun _ => 1) (fun _ _ => rfl) l
      noInstructions
    dsimp only at hsplit
    rw [if_neg (by simp), if_neg]
    · rfl
    · rw [hcount, Nat.not_le]
      rw [hsplit] at h
      simp [noInstructions] at h ⊢
      omega
  · exact h.trans hlimit
  · rfl

/-- The identity that a scan of instructions holds for the first call. -/
def InstructionShape.call? (shape : InstructionShape) : Option SemanticIdentity :=
  if shape.hasCall then some shape.firstIdentity else none

def FunctionShape.call? (shape : FunctionShape) : Option SemanticIdentity :=
  if shape.hasCall then some shape.firstIdentity else none

/-- The block and the kind that a scan of blocks holds for the first block that was not lowered. -/
def FunctionShape.bad? (shape : FunctionShape) : Option (Nat × Nat) :=
  if shape.unsupported = 0 then none else some (shape.firstBadBlock, shape.firstBadKind)

/-- The identity of the first call. -/
def firstCall (instructions : List Instruction) : Option SemanticIdentity :=
  instructions.findSome? fun instruction => if instruction.isCall then some instruction.identity else none

/-- The first block that was not lowered, and what it failed at. -/
def SsaBlock.bad? (block : SsaBlock) : Option (Nat × Nat) :=
  if block.loweringOk then none else some (block.id, block.loweringFailureKind)

theorem summarizeInstruction_call (c : InstructionShape) (a : Instruction) :
    (summarizeInstruction c a).call? = c.call?.or (if a.isCall then some a.identity else none) := by
  cases hc : c.hasCall <;> cases ha : a.isCall <;>
    simp [summarizeInstruction, InstructionShape.call?, selectIdentity, hc, ha]

theorem summarizeBlock_call (limit : Nat) (c : FunctionShape) (b : SsaBlock) :
    (summarizeBlock limit c b).call? = c.call?.or (summarizeInstructions b.instructions limit).call? := by
  cases hc : c.hasCall <;> cases hb : (summarizeInstructions b.instructions limit).hasCall <;>
    simp [summarizeBlock, FunctionShape.call?, InstructionShape.call?, selectIdentity, hc, hb]

theorem summarizeBlock_bad (limit : Nat) (c : FunctionShape) (b : SsaBlock) :
    (summarizeBlock limit c b).bad? = c.bad?.or b.bad? := by
  by_cases hc : c.unsupported = 0
  · cases hb : b.loweringOk <;> simp [summarizeBlock, FunctionShape.bad?, SsaBlock.bad?, hc, hb]
  · cases hb : b.loweringOk <;> simp [summarizeBlock, FunctionShape.bad?, SsaBlock.bad?, hc, hb]

theorem foldl_summarizeInstruction (instructions : List Instruction) :
    (instructions.foldl summarizeInstruction noInstructions).instructions = instructions.length ∧
      (instructions.foldl summarizeInstruction noInstructions).calls = instructions.countP Instruction.isCall ∧
      (instructions.foldl summarizeInstruction noInstructions).call? = firstCall instructions := by
  have hcount := foldl_sum (f := summarizeInstruction) InstructionShape.instructions (fun _ => 1) (fun _ _ => rfl)
    instructions noInstructions
  have hcalls := foldl_sum (f := summarizeInstruction) InstructionShape.calls
    (fun instruction => if instruction.isCall then 1 else 0) (fun _ _ => rfl) instructions noInstructions
  refine ⟨?_, ?_, foldl_or InstructionShape.call? _ summarizeInstruction_call instructions noInstructions⟩
  · rw [hcount, List.map_const', List.sum_replicate_nat, Nat.mul_one]
    exact Nat.zero_add _
  · rw [hcalls, sum_flags]
    exact Nat.zero_add _

theorem summarizeBlocks_eq {blocks : List SsaBlock} (valueLimit : Nat) (h : blocks.length ≤ 1024) :
    summarizeBlocks blocks valueLimit = blocks.foldl (summarizeBlock valueLimit) noBlocks := by
  refine Sweep.iterate_whole (fun i st hst => ?_) ?_ h 0
  · rw [hst]
    rfl
  · intro i l a t _
    rfl

/-! ## The counts of a unit -/

/-- The blocks of some functions, one after the other. -/
def blocksOf (functions : List Function) : List SsaBlock := functions.flatMap Function.blocks

def instructionsOf (functions : List Function) : List Instruction :=
  (blocksOf functions).flatMap SsaBlock.instructions

def parametersOf (functions : List Function) : List Value := (blocksOf functions).flatMap SsaBlock.parameters

/-- How a block ends. -/
inductive Ending where
  | branch
  | jump
  | ret
  | fail
  | switch
  deriving DecidableEq, Repr

def Terminator.ending : Terminator → Ending
  | .branch _ _ _ _ _ => .branch
  | .jump _ _ => .jump
  | .ret _ => .ret
  | .fail => .fail
  | .finiteSwitch _ _ _ _ _ _ _ _ _ => .switch
  | .scalarSwitch _ _ _ _ _ _ _ _ _ => .switch

def SsaBlock.endsIn (ending : Ending) (block : SsaBlock) : Bool := block.terminator.ending = ending

theorem sum_blocksOf (weight : SsaBlock → Nat) (functions : List Function) :
    ((blocksOf functions).map weight).sum = (functions.map fun f => (f.blocks.map weight).sum).sum := by
  induction functions with
  | nil => rfl
  | cons f rest ih =>
      rw [List.map_cons, List.sum_cons, ← ih, blocksOf, List.flatMap_cons, List.map_append, List.sum_append]
      rfl

section Counters

variable {functions : List Function}

/-- **A counter of a unit** adds up, over all its blocks, what a scan takes of one. -/
theorem foldl_counter (hfits : ∀ f ∈ functions, Fits f) (ofShape : FunctionShape → Nat) (field : FunctionSummary → Nat)
    (taken : Nat → SsaBlock → Nat) (weight : SsaBlock → Nat)
    (hblock : ∀ limit c b, ofShape (summarizeBlock limit c b) = ofShape c + taken limit b)
    (hnone : ofShape noBlocks = 0)
    (hfunction : ∀ c f, field (summarizeFunction c f) = field c + ofShape (summarizeBlocks f.blocks f.valueCount))
    (hweight : ∀ f ∈ functions, ∀ b ∈ f.blocks, taken f.valueCount b = weight b) (c : FunctionSummary) :
    field (functions.foldl summarizeFunction c) = field c + ((blocksOf functions).map weight).sum := by
  have hall : ∀ f ∈ functions, ofShape (summarizeBlocks f.blocks f.valueCount) = (f.blocks.map weight).sum := by
    intro f hf
    have hlength : f.blocks.length ≤ 1024 := (hfits f hf).blockCount.trans_le (hfits f hf).blockLimit
    rw [summarizeBlocks_eq _ hlength, foldl_sum ofShape (taken f.valueCount) (hblock f.valueCount), hnone, Nat.zero_add,
      List.map_congr_left (hweight f hf)]
  rw [foldl_sum field _ hfunction, List.map_congr_left hall, sum_blocksOf]

/-- A count of the blocks that pass a test. -/
theorem foldl_tally (hfits : ∀ f ∈ functions, Fits f) (ofShape : FunctionShape → Nat) (field : FunctionSummary → Nat)
    (test : SsaBlock → Bool)
    (hblock : ∀ limit c b, ofShape (summarizeBlock limit c b) = ofShape c + (if test b then 1 else 0))
    (hnone : ofShape noBlocks = 0)
    (hfunction : ∀ c f, field (summarizeFunction c f) = field c + ofShape (summarizeBlocks f.blocks f.valueCount))
    (c : FunctionSummary) :
    field (functions.foldl summarizeFunction c) = field c + (blocksOf functions).countP test := by
  rw [foldl_counter hfits ofShape field (fun _ b => if test b then 1 else 0) _ hblock hnone hfunction
    (fun _ _ _ _ => rfl) c, sum_flags]

/-- What the summary of a unit holds for its first call. -/
def FunctionSummary.call? (summary : FunctionSummary) : Option SemanticIdentity :=
  if summary.hasCall then some summary.firstIdentity else none

/-- What it holds for the first block that was not lowered: the function, the block and the kind. -/
def FunctionSummary.bad? (summary : FunctionSummary) : Option (Nat × Nat × Nat) :=
  if summary.unsupported = 0 then none
  else some (summary.firstBadFunction, summary.firstBadBlock, summary.firstBadKind)

theorem summarizeFunction_call (c : FunctionSummary) (f : Function) :
    (summarizeFunction c f).call? = c.call?.or (summarizeBlocks f.blocks f.valueCount).call? := by
  generalize hshape : summarizeBlocks f.blocks f.valueCount = shape
  cases hc : c.hasCall <;> cases hf : shape.hasCall <;>
    simp [summarizeFunction, FunctionSummary.call?, FunctionShape.call?, selectIdentity, hshape, hc, hf]

theorem summarizeFunction_bad (c : FunctionSummary) (f : Function) :
    (summarizeFunction c f).bad? =
      c.bad?.or ((summarizeBlocks f.blocks f.valueCount).bad?.map fun place => (c.functions, place)) := by
  generalize hshape : summarizeBlocks f.blocks f.valueCount = shape
  by_cases hc : c.unsupported = 0 <;> by_cases hf : shape.unsupported = 0 <;>
    simp [summarizeFunction, FunctionSummary.bad?, FunctionShape.bad?, hshape, hc, hf, Nat.pos_iff_ne_zero]

/-- The first call of a unit. -/
theorem foldl_call (hfits : ∀ f ∈ functions, Fits f) (c : FunctionSummary) :
    (functions.foldl summarizeFunction c).call? = c.call?.or (firstCall (instructionsOf functions)) := by
  have hall : ∀ f ∈ functions, (summarizeBlocks f.blocks f.valueCount).call? =
      firstCall (f.blocks.flatMap SsaBlock.instructions) := by
    intro f hf
    have hlength : f.blocks.length ≤ 1024 := (hfits f hf).blockCount.trans_le (hfits f hf).blockLimit
    rw [summarizeBlocks_eq _ hlength, foldl_or FunctionShape.call? _ (summarizeBlock_call f.valueCount), firstCall,
      findSome?_flatMap]
    show f.blocks.findSome? _ = _
    apply findSome?_congr_left
    intro b hb
    rw [summarizeInstructions_eq (hfits f hf).valueLimit ((hfits f hf).instructions b hb)]
    exact (foldl_summarizeInstruction b.instructions).2.2
  rw [foldl_or FunctionSummary.call? _ summarizeFunction_call, findSome?_congr_left hall, instructionsOf, blocksOf,
    List.flatMap_assoc, firstCall, findSome?_flatMap]
  rfl

/-- The first block of some functions that was not lowered, with the index of its function counted from `start`. -/
def firstBad (start : Nat) (functions : List Function) : Option (Nat × Nat × Nat) :=
  (functions.zipIdx start).findSome? fun place => (place.1.blocks.findSome? SsaBlock.bad?).map fun bad => (place.2, bad)

/-- The first block of a unit that was not lowered. -/
theorem foldl_bad (hsmall : ∀ f ∈ functions, f.blocks.length ≤ 1024) (c : FunctionSummary) :
    (functions.foldl summarizeFunction c).bad? = c.bad?.or (firstBad c.functions functions) := by
  induction functions generalizing c with
  | nil => exact Option.or_none.symm
  | cons f rest ih =>
      have hshape : (summarizeBlocks f.blocks f.valueCount).bad? = f.blocks.findSome? SsaBlock.bad? := by
        rw [summarizeBlocks_eq _ (hsmall f List.mem_cons_self),
          foldl_or FunctionShape.bad? _ (summarizeBlock_bad f.valueCount)]
        rfl
      rw [List.foldl_cons, ih fun g hg => hsmall g (List.mem_cons_of_mem f hg), summarizeFunction_bad, hshape,
        Option.or_assoc]
      congr 1
      rw [firstBad, firstBad, List.zipIdx_cons, List.findSome?_cons]
      cases f.blocks.findSome? SsaBlock.bad? with
      | none => rfl
      | some bad => rfl

theorem foldl_unsupported (hsmall : ∀ f ∈ functions, f.blocks.length ≤ 1024) (c : FunctionSummary) :
    (functions.foldl summarizeFunction c).unsupported =
      c.unsupported + (blocksOf functions).countP fun b => !b.loweringOk := by
  have hall : ∀ f ∈ functions, (summarizeBlocks f.blocks f.valueCount).unsupported =
      (f.blocks.map fun b => if !b.loweringOk then 1 else 0).sum := by
    intro f hf
    rw [summarizeBlocks_eq _ (hsmall f hf), foldl_sum FunctionShape.unsupported _ fun _ _ => rfl]
    exact Nat.zero_add _
  rw [foldl_sum FunctionSummary.unsupported _ fun _ _ => rfl, List.map_congr_left hall, ← sum_blocksOf, sum_flags]

/-- A scan of functions keeps its verdict as long as every function is verified and shows all its blocks. -/
theorem foldl_valid (c : FunctionSummary) :
    (functions.foldl summarizeFunction c).valid = true ↔ c.valid = true ∧
      ∀ f ∈ functions, f.verified = true ∧ (summarizeBlocks f.blocks f.valueCount).blocks = f.blockCount := by
  induction functions generalizing c with
  | nil => simp
  | cons f rest ih =>
      rw [List.foldl_cons, ih, List.forall_mem_cons]
      show (c.valid && f.verified && _) = true ∧ _ ↔ _
      rw [Bool.and_eq_true, Bool.and_eq_true, decide_eq_true_eq, and_assoc, and_assoc, and_assoc]

theorem summarizeFunctions_eq {n : Nat} (hlength : functions.length = n) (hn : n ≤ 1024) (sourceOk : Bool) :
    summarizeFunctions functions n sourceOk = functions.foldl summarizeFunction (noFunctions sourceOk) := by
  have hseen : ∀ l : List Function, (l.foldl summarizeFunction (noFunctions sourceOk)).functions = l.length := by
    intro l
    rw [foldl_sum FunctionSummary.functions (fun _ => 1) fun _ _ => rfl, List.map_const', List.sum_replicate_nat,
      Nat.mul_one]
    exact Nat.zero_add _
  have hend : ∀ st : Sweep Function FunctionSummary, st.rest = [] →
      (st.rest.isEmpty || decide (st.acc.functions ≥ n)) = true := by
    intro st hst
    rw [hst, List.isEmpty_nil, Bool.true_or]
  refine (Sweep.iterate_whole (f := summarizeFunction) (fun i st hst => if_pos (hend st hst)) ?_
    (hlength.trans_le hn) 0).trans ?_
  · intro i l a t hsplit
    have hfewer : l.length < n := by
      dsimp only at hsplit
      rw [← hlength, hsplit, List.length_append, List.length_cons]
      omega
    rw [if_neg (by simp [hseen]; omega)]
    rfl
  · have hmade := (hseen functions).trans hlength
    dsimp only
    generalize functions.foldl summarizeFunction (noFunctions sourceOk) = made at hmade ⊢
    subst hmade
    show ({ made with valid := made.valid && decide (made.functions = made.functions) && true } : FunctionSummary) =
        made
    rw [decide_eq_true rfl, Bool.and_true, Bool.and_true]

end Counters

/-! ## The functions of a unit -/

section Unit

variable {src : Source} {lowered : LoweredUnit} {nominals : List NominalTypeIdentity}
  {importedRecords : List ImportedRecordSchema} {importedEnums : List ImportedEnumSchema}

/-- One declaration for each graph, as many as the unit proves. -/
structure Matched (lowered : LoweredUnit) : Prop where
  declarations : lowered.proof.unit.fns.length = lowered.proof.fnCount
  graphs : lowered.functions.length = lowered.proof.fnCount
  bounded : lowered.proof.fnCount ≤ 1024

/-- The value SSA forms of the declarations of a unit, each with its own graph. -/
def unitFunctions (src : Source) (lowered : LoweredUnit) (nominals : List NominalTypeIdentity)
    (importedRecords : List ImportedRecordSchema) (importedEnums : List ImportedEnumSchema) : List Function :=
  List.zipWith (lowerUnitFunction src lowered nominals importedRecords importedEnums) lowered.proof.unit.fns
    lowered.functions

theorem Matched.length (h : Matched lowered) :
    (unitFunctions src lowered nominals importedRecords importedEnums).length = lowered.proof.fnCount := by
  rw [unitFunctions, List.length_zipWith, h.declarations, h.graphs, Nat.min_self]

/-- The walk over the functions after `n` of them. -/
def walkAt (src : Source) (lowered : LoweredUnit) (nominals : List NominalTypeIdentity)
    (importedRecords : List ImportedRecordSchema) (importedEnums : List ImportedEnumSchema) (n : Nat) : FunctionWalk :=
  let made := (unitFunctions src lowered nominals importedRecords importedEnums).take n
  { fns := lowered.proof.unit.fns.drop n, index := n, acc := made.reverse, count := n
    ok := made.all Function.verified }

theorem Matched.step (h : Matched lowered) {n : Nat} (hn : n < lowered.proof.fnCount) :
    lowerFunctionStep src lowered nominals importedRecords importedEnums
        (walkAt src lowered nominals importedRecords importedEnums n) =
      walkAt src lowered nominals importedRecords importedEnums (n + 1) := by
  obtain ⟨fnDecl, hfn⟩ : ∃ fnDecl, lowered.proof.unit.fns[n]? = some fnDecl :=
    ⟨_, List.getElem?_eq_getElem (h.declarations ▸ hn)⟩
  obtain ⟨cfg, hcfg⟩ : ∃ cfg, lowered.functions[n]? = some cfg := ⟨_, List.getElem?_eq_getElem (h.graphs ▸ hn)⟩
  have hat : ssaFunctionAt lowered n = cfg := ssaFunctionAt_eq hcfg h.graphs.le (h.graphs.trans_le h.bounded)
  have hdrop : lowered.proof.unit.fns.drop n = fnDecl :: lowered.proof.unit.fns.drop (n + 1) := by
    rw [List.drop_eq_getElem_cons (h.declarations ▸ hn)]
    congr 1
    exact Option.some.inj ((List.getElem?_eq_getElem _).symm.trans hfn)
  have hmade : (unitFunctions src lowered nominals importedRecords importedEnums)[n]? =
      some (lowerUnitFunction src lowered nominals importedRecords importedEnums fnDecl cfg) := by
    rw [unitFunctions, List.getElem?_zipWith_eq_some]
    exact ⟨fnDecl, cfg, hfn, hcfg, rfl⟩
  have htake := List.take_add_one (l := unitFunctions src lowered nominals importedRecords importedEnums) (i := n)
  rw [hmade, Option.toList_some] at htake
  rw [walkAt, walkAt, htake, List.reverse_append, List.all_append]
  simp only [lowerFunctionStep, hdrop, lowerFlowStep, finishFunctionStep, hat]
  simp

theorem Matched.walk (h : Matched lowered) :
    lowerSsaFunctions src lowered nominals importedRecords importedEnums =
      walkAt src lowered nominals importedRecords importedEnums lowered.proof.fnCount := by
  have hloop := iterate_guard (p := fun st : FunctionWalk =>
      decide (st.count ≥ lowered.proof.fnCount) || st.fns.isEmpty)
    (f := lowerFunctionStep src lowered nominals importedRecords importedEnums) (k := id)
    (b := fun _ st => if decide (st.count ≥ lowered.proof.fnCount) || st.fns.isEmpty then .ret st
      else .next (lowerFunctionStep src lowered nominals importedRecords importedEnums st)) (fun _ _ => rfl) 0 1024
    (walkAt src lowered nominals importedRecords importedEnums 0)
  have hat : ∀ n, (settle (fun st : FunctionWalk => decide (st.count ≥ lowered.proof.fnCount) || st.fns.isEmpty)
      (lowerFunctionStep src lowered nominals importedRecords importedEnums))^[n]
        (walkAt src lowered nominals importedRecords importedEnums 0) =
      walkAt src lowered nominals importedRecords importedEnums (min n lowered.proof.fnCount) := by
    intro n
    induction n with
    | zero => rw [Nat.zero_min]; rfl
    | succ n ih =>
        rw [Function.iterate_succ_apply', ih]
        by_cases hlt : n < lowered.proof.fnCount
        · rw [Nat.min_eq_left (Nat.le_of_lt hlt), Nat.min_eq_left hlt, settle_of_not_fin, h.step hlt]
          have hfns : lowered.proof.unit.fns.drop n ≠ [] := by
            rw [Ne, List.drop_eq_nil_iff, h.declarations]
            omega
          simp [walkAt, hfns, hlt]
        · rw [Nat.min_eq_right (Nat.not_lt.mp hlt), Nat.min_eq_right (by omega), settle_of_fin]
          simp [walkAt]
  rw [hat, Nat.min_eq_right h.bounded] at hloop
  exact hloop

/-- A unit that the flow lowering calls valid has one graph for each declaration. -/
theorem matched_of_valid {proof : UnitProve} (h : (lowerProvenUnit src proof).valid = true) :
    Matched (lowerProvenUnit src proof) ∧ ssaFlowValid (lowerProvenUnit src proof) = true := by
  have hproof : (lowerProvenUnit src proof).proof = proof := by
    unfold lowerProvenUnit
    split <;> rfl
  obtain ⟨hlowered, hbound⟩ := @lowerFunctions_lowered src proof.unit.fns proof.tops proof.fnCount
  cases hok : proof.ok with
  | false => simp [lowerProvenUnit, hok] at h
  | true =>
      have hgraphs : (lowerProvenUnit src proof).functions =
          (lowerFunctions src proof.unit.fns proof.tops proof.fnCount).acc.reverse := by
        rw [lowerProvenUnit, if_neg (by simp [hok])]
        show Flow.reverseFunctions _ _ = _
        rw [hlowered.count, reverseFunctions_eq (Nat.le_refl _) hbound]
      have hflow : (lowerProvenUnit src proof).graphOk =
          ((lowerFunctions src proof.unit.fns proof.tops proof.fnCount).ok &&
            (lowerFunctions src proof.unit.fns proof.tops proof.fnCount).typedRest.isEmpty) := by
        rw [lowerProvenUnit, if_neg (by simp [hok])]
      have hvalid := h
      rw [lowerProvenUnit, if_neg (by simp [hok])] at hvalid
      simp only [Bool.and_eq_true, decide_eq_true_eq, List.isEmpty_iff] at hvalid
      obtain ⟨⟨⟨⟨hall, hcount⟩, hrest⟩, htyped⟩, -⟩ := hvalid
      have hmade := hlowered.count.symm.trans hcount
      refine ⟨⟨?_, ?_, ?_⟩, ?_⟩
      · rw [hlowered.rest, hmade, List.drop_eq_nil_iff] at hrest
        rw [hproof]
        -- no graph is made without a declaration
        by_contra hne
        have hless :
            proof.unit.fns.length < (lowerFunctions src proof.unit.fns proof.tops proof.fnCount).acc.length := by
          omega
        obtain ⟨fnDecl, hfn, -⟩ := hlowered.graphs proof.unit.fns.length _
          (List.getElem?_eq_getElem (by rwa [List.length_reverse]))
        rw [List.getElem?_eq_none (Nat.le_refl _)] at hfn
        cases hfn
      · rw [hgraphs, List.length_reverse, hmade, hproof]
      · rw [hproof, ← hmade]
        exact hbound
      · rw [ssaFlowValid, h, hflow, hall, htyped]
        rfl

theorem ssaFunctionCount_eq (h : Matched lowered) : ssaFunctionCount lowered = lowered.proof.fnCount := by
  have hend : ∀ st : Sweep (FunctionFlow TOp) Nat, st.rest = [] →
      (decide (st.acc ≥ lowered.proof.fnCount) || st.rest.isEmpty) = true := by
    intro st hst
    rw [hst, List.isEmpty_nil, Bool.or_true]
  refine (Sweep.iterate_whole (f := fun count _ => count + 1) (fun i st hst => if_pos (hend st hst)) ?_
    (h.graphs.trans_le h.bounded) 0).trans ?_
  · intro i l a t hsplit
    dsimp only at hsplit ⊢
    have hfewer : l.length < lowered.proof.fnCount := by
      rw [← h.graphs, hsplit, List.length_append, List.length_cons]
      omega
    rw [foldl_succ, if_neg (by simp; omega)]
    rfl
  · show lowered.functions.foldl (fun count _ => count + 1) 0 = _
    rw [foldl_succ, h.graphs, Nat.zero_add]

theorem reverseFunctions_made {functions : List Function} (h : functions.length ≤ 1024) :
    reverseFunctions functions.reverse functions.length = functions := by
  have hfold := @Sweep.iterate_limited Function _ (fun acc h => h :: acc) functions.length 1024 0
    { rest := functions.reverse, acc := [] } (by simpa using h) (by simp)
  rw [reverseFunctions, hfold, List.foldl_flip_cons_eq_append', List.append_nil, List.reverse_reverse]

/-- The summary that the value SSA lowering of a unit reads its counts from. -/
def unitSummary (functions : List Function) : FunctionSummary :=
  functions.foldl summarizeFunction (noFunctions (functions.all Function.verified))

theorem Matched.summary (h : Matched lowered) (hvalid : ssaFlowValid lowered = true) :
    let functions := unitFunctions src lowered nominals importedRecords importedEnums
    let summary := unitSummary functions
    lowerValueSsaWithImportedSchemas src lowered nominals importedRecords importedEnums =
      { functions := functions, valid := summary.valid, functionCount := summary.functions
        supportedFunctionCount := summary.supported, verifiedFunctionCount := summary.verified
        valueCount := summary.values, instructionCount := summary.instructions, blockCount := summary.blocks
        branchCount := summary.branches, jumpCount := summary.jumps, returnCount := summary.returns
        failureCount := summary.failures, switchCount := summary.switches, blockParameterCount := summary.parameters
        unsupportedBlockCount := summary.unsupported, firstUnsupportedFunction := summary.firstBadFunction
        firstUnsupportedBlock := summary.firstBadBlock, firstUnsupportedKind := summary.firstBadKind
        callCount := summary.calls, hasCall := summary.hasCall, firstCallIdentity := summary.firstIdentity } := by
  have hlength := @Matched.length src lowered nominals importedRecords importedEnums h
  have hwalk := @Matched.walk src lowered nominals importedRecords importedEnums h
  have htake : (unitFunctions src lowered nominals importedRecords importedEnums).take lowered.proof.fnCount =
      unitFunctions src lowered nominals importedRecords importedEnums := List.take_of_length_le hlength.le
  have hfns : lowered.proof.unit.fns.drop lowered.proof.fnCount = [] :=
    List.drop_eq_nil_iff.mpr h.declarations.le
  have hended : functionListEnded lowered
      (walkAt src lowered nominals importedRecords importedEnums lowered.proof.fnCount) = true := by
    simp [functionListEnded, walkAt, hfns, ssaFunctionCount_eq h]
  intro functions summary
  rw [lowerValueSsaWithImportedSchemas, if_neg (by simp [hvalid])]
  dsimp only
  rw [hwalk, hended]
  simp only [walkAt, htake]
  rw [← hlength, reverseFunctions_made (hlength.trans_le h.bounded),
    summarizeFunctions_eq rfl (hlength.trans_le h.bounded),
    decide_true, Bool.and_true, Bool.and_true]
  rfl

theorem lowerValueSsa_of_invalid (h : ssaFlowValid lowered = false) :
    lowerValueSsaWithImportedSchemas src lowered nominals importedRecords importedEnums = emptySsaSummary false := by
  rw [lowerValueSsaWithImportedSchemas, if_pos (by rw [h]; rfl)]

theorem mem_unitFunctions {f : Function} (h : f ∈ unitFunctions src lowered nominals importedRecords importedEnums) :
    ∃ fnDecl cfg, f = lowerUnitFunction src lowered nominals importedRecords importedEnums fnDecl cfg := by
  rw [unitFunctions, ← List.map_uncurry_zip_eq_zipWith] at h
  obtain ⟨place, -, rfl⟩ := List.mem_map.mp h
  exact ⟨place.1, place.2, rfl⟩

theorem unitFunctions_accepted {f : Function}
    (h : f ∈ unitFunctions src lowered nominals importedRecords importedEnums) (hverified : f.verified = true) :
    Accepted src f := by
  obtain ⟨fnDecl, cfg, rfl⟩ := mem_unitFunctions h
  exact lowerFunction_accepted hverified

theorem length_reverseBlocks_le (blocks : List SsaBlock) (n : Nat) : (reverseBlocks blocks n).length ≤ 1024 := by
  have hloop : ∀ m i (st : Sweep SsaBlock (List SsaBlock)),
      ((iterate (fun i (st : Sweep SsaBlock (List SsaBlock)) =>
          if i ≥ n || st.rest.isEmpty then .ret st.acc
          else .next (Sweep.step (fun acc h => h :: acc) st)) i m st).after fun st => st.acc).length ≤
        st.acc.length + m := by
    intro m
    induction m with
    | zero => exact fun _ _ => Nat.le_refl _
    | succ m ih =>
        intro i st
        rw [iterate_succ]
        split
        · exact Nat.le_add_right _ _
        · obtain ⟨rest, acc⟩ := st
          rw [Pass.bind_next]
          refine (ih (i + 1) _).trans ?_
          cases rest with
          | nil =>
              show acc.length + m ≤ _
              exact Nat.add_le_add_left (Nat.le_succ m) _
          | cons a t =>
              show (a :: acc).length + m ≤ _
              rw [List.length_cons, Nat.add_assoc, Nat.add_comm 1]
  rw [reverseBlocks]
  split
  · exact Nat.zero_le _
  · exact (hloop 1024 0 _).trans_eq (Nat.zero_add _)

theorem unitFunctions_small {f : Function}
    (h : f ∈ unitFunctions src lowered nominals importedRecords importedEnums) : f.blocks.length ≤ 1024 := by
  obtain ⟨fnDecl, cfg, rfl⟩ := mem_unitFunctions h
  exact length_reverseBlocks_le _ _

/-- The verdict of a unit is that of its functions. -/
theorem unitSummary_valid (functions : List Function) (haccepted : ∀ f ∈ functions, f.verified = true → Fits f) :
    (unitSummary functions).valid = true ↔ ∀ f ∈ functions, f.verified = true := by
  rw [unitSummary, foldl_valid]
  constructor
  · rintro ⟨-, hall⟩ f hf
    exact (hall f hf).1
  · intro hall
    refine ⟨?_, ?_⟩
    · show functions.all Function.verified = true
      exact List.all_eq_true.mpr hall
    · intro f hf
      have hfits := haccepted f hf (hall f hf)
      have hlength : f.blocks.length ≤ 1024 := hfits.blockCount.trans_le hfits.blockLimit
      refine ⟨hall f hf, ?_⟩
      rw [summarizeBlocks_eq _ hlength, foldl_sum FunctionShape.blocks (fun _ => 1) fun _ _ => rfl, List.map_const',
        List.sum_replicate_nat, Nat.mul_one, hfits.blockCount]
      exact Nat.zero_add _

/-- A unit whose value SSA form is valid has only verified functions. -/
theorem unitFunctions_verified {proof : UnitProve}
    (h : (lowerValueSsaWithImportedSchemas src (lowerProvenUnit src proof) nominals importedRecords
      importedEnums).valid = true) :
    (lowerProvenUnit src proof).valid = true ∧
      ∀ f ∈ unitFunctions src (lowerProvenUnit src proof) nominals importedRecords importedEnums,
        f.verified = true := by
  cases hvalid : (lowerProvenUnit src proof).valid with
  | false =>
      rw [lowerValueSsa_of_invalid (by rw [ssaFlowValid, hvalid, Bool.false_and])] at h
      cases h
  | true =>
      obtain ⟨hmatched, hflow⟩ := matched_of_valid hvalid
      rw [hmatched.summary hflow] at h
      refine ⟨rfl, ?_⟩
      exact (unitSummary_valid _ fun f hf hverified => (unitFunctions_accepted hf hverified).fits).mp h

/-- **The value SSA form of a unit** has one function for each declaration, in order, made from the declaration and its
    own flow graph. It is valid when the flow graphs are and every function passed its verifier, and then every function
    is well formed. -/
theorem lowerValueSsa_functions (src : Source) (proof : UnitProve) (nominals : List NominalTypeIdentity)
    (importedRecords : List ImportedRecordSchema) (importedEnums : List ImportedEnumSchema) :
    let lowered := lowerProvenUnit src proof
    let summary := lowerValueSsaWithImportedSchemas src lowered nominals importedRecords importedEnums
    (lowered.valid = true → summary.functions.length = proof.unit.fns.length ∧
      summary.functions = unitFunctions src lowered nominals importedRecords importedEnums) ∧
    (summary.valid = true ↔ lowered.valid = true ∧ ∀ f ∈ summary.functions, f.verified = true) ∧
    (summary.valid = true → ∀ f ∈ summary.functions, Accepted src f) := by
  intro lowered summary
  cases hvalid : lowered.valid with
  | false =>
      have hempty : summary = emptySsaSummary false :=
        lowerValueSsa_of_invalid (by rw [ssaFlowValid, hvalid, Bool.false_and])
      rw [hempty]
      refine ⟨?_, ⟨?_, ?_⟩, ?_⟩
      · intro h
        cases h
      · intro h
        cases h
      · intro h
        cases h.1
      · intro h
        cases h
  | true =>
      obtain ⟨hmatched, hflow⟩ := matched_of_valid hvalid
      have hsummary := @Matched.summary src lowered nominals importedRecords importedEnums hmatched hflow
      have hfunctions : summary.functions = unitFunctions src lowered nominals importedRecords importedEnums :=
        congrArg ValueSsaSummary.functions hsummary
      have hverdict : summary.valid = (unitSummary summary.functions).valid := by
        rw [hfunctions]
        exact congrArg ValueSsaSummary.valid hsummary
      have haccepted : ∀ f ∈ summary.functions, f.verified = true → Accepted src f := by
        intro f hf hverified
        rw [hfunctions] at hf
        exact unitFunctions_accepted hf hverified
      have hiff := unitSummary_valid summary.functions fun f hf hverified => (haccepted f hf hverified).fits
      have hproof : lowered.proof = proof := by
        show (lowerProvenUnit src proof).proof = proof
        unfold lowerProvenUnit
        split <;> rfl
      refine ⟨fun _ => ⟨?_, hfunctions⟩, ?_, ?_⟩
      · rw [hfunctions, hmatched.length, ← hmatched.declarations, hproof]
      · rw [hverdict, hiff]
        exact ⟨fun hall => ⟨rfl, hall⟩, fun hall => hall.2⟩
      · intro hyes f hf
        exact haccepted f hf (hiff.mp (hverdict.symm.trans hyes) f hf)

/-- What a summary counts is what its functions hold. -/
structure ValueSsaSummary.Sums (summary : ValueSsaSummary) : Prop where
  functions : summary.functionCount = summary.functions.length
  supported : summary.supportedFunctionCount = summary.functions.length
  verified : summary.verifiedFunctionCount = summary.functions.length
  values : summary.valueCount = (summary.functions.map fun f => f.values.length).sum
  blocks : summary.blockCount = (blocksOf summary.functions).length
  instructions : summary.instructionCount = (instructionsOf summary.functions).length
  parameters : summary.blockParameterCount = (parametersOf summary.functions).length
  branches : summary.branchCount = (blocksOf summary.functions).countP (SsaBlock.endsIn .branch)
  jumps : summary.jumpCount = (blocksOf summary.functions).countP (SsaBlock.endsIn .jump)
  returns : summary.returnCount = (blocksOf summary.functions).countP (SsaBlock.endsIn .ret)
  failures : summary.failureCount = (blocksOf summary.functions).countP (SsaBlock.endsIn .fail)
  switches : summary.switchCount = (blocksOf summary.functions).countP (SsaBlock.endsIn .switch)
  calls : summary.callCount = (instructionsOf summary.functions).countP Instruction.isCall
  firstCall : (if summary.hasCall then some summary.firstCallIdentity else none) =
    firstCall (instructionsOf summary.functions)
  lowered : summary.unsupportedBlockCount = 0

theorem unitSummary_flags {functions : List Function} (field : FunctionSummary → Nat) (flag : Function → Bool)
    (hfield : ∀ c f, field (summarizeFunction c f) = field c + (if flag f then 1 else 0))
    (hnone : ∀ ok, field (noFunctions ok) = 0) (hall : ∀ f ∈ functions, flag f = true) :
    field (unitSummary functions) = functions.length := by
  rw [unitSummary, foldl_sum field _ hfield, hnone, Nat.zero_add, sum_flags, List.countP_eq_length]
  exact hall

theorem unitSummary_tally {functions : List Function} (hfits : ∀ f ∈ functions, Fits f)
    (ofShape : FunctionShape → Nat) (field : FunctionSummary → Nat) (test : SsaBlock → Bool)
    (hblock : ∀ limit c b, ofShape (summarizeBlock limit c b) = ofShape c + (if test b then 1 else 0))
    (hnone : ofShape noBlocks = 0)
    (hfunction : ∀ c f, field (summarizeFunction c f) = field c + ofShape (summarizeBlocks f.blocks f.valueCount))
    (hzero : ∀ ok, field (noFunctions ok) = 0) :
    field (unitSummary functions) = (blocksOf functions).countP test := by
  rw [unitSummary, foldl_tally hfits ofShape field test hblock hnone hfunction, hzero, Nat.zero_add]

/-- A block adds to the counter of its ending. -/
theorem summarizeTerminator_ending (b : SsaBlock) :
    (summarizeTerminator b.terminator).branches = (if b.endsIn .branch then 1 else 0) ∧
      (summarizeTerminator b.terminator).jumps = (if b.endsIn .jump then 1 else 0) ∧
      (summarizeTerminator b.terminator).returns = (if b.endsIn .ret then 1 else 0) ∧
      (summarizeTerminator b.terminator).failures = (if b.endsIn .fail then 1 else 0) ∧
      (summarizeTerminator b.terminator).switches = (if b.endsIn .switch then 1 else 0) := by
  unfold SsaBlock.endsIn
  cases b.terminator <;> exact ⟨rfl, rfl, rfl, rfl, rfl⟩

/-- **The counts of a valid summary are exact**: no bound of the scans has cut one of them. -/
theorem lowerValueSsa_sums (src : Source) (proof : UnitProve) (nominals : List NominalTypeIdentity)
    (importedRecords : List ImportedRecordSchema) (importedEnums : List ImportedEnumSchema)
    (h : (lowerValueSsaWithImportedSchemas src (lowerProvenUnit src proof) nominals importedRecords
      importedEnums).valid = true) :
    (lowerValueSsaWithImportedSchemas src (lowerProvenUnit src proof) nominals importedRecords importedEnums).Sums := by
  obtain ⟨hvalid, hverified⟩ := unitFunctions_verified h
  obtain ⟨hmatched, hflow⟩ := matched_of_valid hvalid
  have hsummary := @Matched.summary src _ nominals importedRecords importedEnums hmatched hflow
  dsimp only at hsummary
  rw [hsummary]
  have haccepted : ∀ f ∈ unitFunctions src (lowerProvenUnit src proof) nominals importedRecords importedEnums,
      Accepted src f := fun f hf => unitFunctions_accepted hf (hverified f hf)
  generalize unitFunctions src (lowerProvenUnit src proof) nominals importedRecords importedEnums = functions
    at hverified haccepted ⊢
  have hfits : ∀ f ∈ functions, Fits f := fun f hf => (haccepted f hf).fits
  have hsmall : ∀ f ∈ functions, f.blocks.length ≤ 1024 := by
    intro f hf
    exact (hfits f hf).blockCount.trans_le (hfits f hf).blockLimit
  have hscan : ∀ f ∈ functions, ∀ b ∈ f.blocks,
      summarizeInstructions b.instructions f.valueCount = b.instructions.foldl summarizeInstruction noInstructions := by
    intro f hf b hb
    exact summarizeInstructions_eq (hfits f hf).valueLimit ((hfits f hf).instructions b hb)
  have hinstructions : ∀ f ∈ functions, ∀ b ∈ f.blocks,
      (summarizeInstructions b.instructions f.valueCount).instructions = b.instructions.length := by
    intro f hf b hb
    rw [hscan f hf b hb, (foldl_summarizeInstruction b.instructions).1]
  have hcalls : ∀ f ∈ functions, ∀ b ∈ f.blocks,
      (summarizeInstructions b.instructions f.valueCount).calls = b.instructions.countP Instruction.isCall := by
    intro f hf b hb
    rw [hscan f hf b hb, (foldl_summarizeInstruction b.instructions).2.1]
  have hparameters : ∀ f ∈ functions, ∀ b ∈ f.blocks,
      valueCount b.parameters f.valueCount = b.parameters.length := by
    intro f hf b hb
    exact valueCount_eq (hfits f hf).valueLimit ((hfits f hf).parameters b hb)
  refine
    { functions := ?_, supported := ?_, verified := ?_, values := ?_, blocks := ?_, instructions := ?_
      parameters := ?_, branches := ?_, jumps := ?_, returns := ?_, failures := ?_, switches := ?_, calls := ?_
      firstCall := ?_, lowered := ?_ }
  · exact unitSummary_flags FunctionSummary.functions (fun _ => true) (fun _ _ => rfl) (fun _ => rfl) fun _ _ => rfl
  · exact unitSummary_flags FunctionSummary.supported Function.supported (fun _ _ => rfl) (fun _ => rfl)
      fun f hf => (haccepted f hf).supported
  · exact unitSummary_flags FunctionSummary.verified Function.verified (fun _ _ => rfl) (fun _ => rfl) hverified
  · show (unitSummary functions).values = _
    rw [unitSummary, foldl_sum FunctionSummary.values Function.valueCount fun _ _ => rfl]
    have hlength : ∀ f ∈ functions, f.valueCount = f.values.length := by
      intro f hf
      have hperm := (haccepted f hf).wellFormed.valueIds.length_eq
      rw [List.length_map, List.length_range] at hperm
      exact hperm.symm
    rw [List.map_congr_left hlength]
    exact Nat.zero_add _
  · exact (unitSummary_tally hfits FunctionShape.blocks FunctionSummary.blocks (fun _ => true) (fun _ _ _ => rfl) rfl
      (fun _ _ => rfl) fun _ => rfl).trans (congrFun List.countP_true _)
  · show (unitSummary functions).instructions = _
    rw [unitSummary, foldl_counter hfits FunctionShape.instructions FunctionSummary.instructions
      (fun limit b => (summarizeInstructions b.instructions limit).instructions) (fun b => b.instructions.length)
      (fun _ _ _ => rfl) rfl (fun _ _ => rfl) hinstructions, instructionsOf, List.length_flatMap]
    exact Nat.zero_add _
  · show (unitSummary functions).parameters = _
    rw [unitSummary, foldl_counter hfits FunctionShape.parameters FunctionSummary.parameters
      (fun limit b => valueCount b.parameters limit) (fun b => b.parameters.length) (fun _ _ _ => rfl) rfl
      (fun _ _ => rfl) hparameters, parametersOf, List.length_flatMap]
    exact Nat.zero_add _
  · exact unitSummary_tally hfits FunctionShape.branches FunctionSummary.branches _
      (fun _ _ b => congrArg _ (summarizeTerminator_ending b).1) rfl (fun _ _ => rfl) fun _ => rfl
  · exact unitSummary_tally hfits FunctionShape.jumps FunctionSummary.jumps _
      (fun _ _ b => congrArg _ (summarizeTerminator_ending b).2.1) rfl (fun _ _ => rfl) fun _ => rfl
  · exact unitSummary_tally hfits FunctionShape.returns FunctionSummary.returns _
      (fun _ _ b => congrArg _ (summarizeTerminator_ending b).2.2.1) rfl (fun _ _ => rfl) fun _ => rfl
  · exact unitSummary_tally hfits FunctionShape.failures FunctionSummary.failures _
      (fun _ _ b => congrArg _ (summarizeTerminator_ending b).2.2.2.1) rfl (fun _ _ => rfl) fun _ => rfl
  · exact unitSummary_tally hfits FunctionShape.switches FunctionSummary.switches _
      (fun _ _ b => congrArg _ (summarizeTerminator_ending b).2.2.2.2) rfl (fun _ _ => rfl) fun _ => rfl
  · show (unitSummary functions).calls = _
    rw [unitSummary, foldl_counter hfits FunctionShape.calls FunctionSummary.calls
      (fun limit b => (summarizeInstructions b.instructions limit).calls)
      (fun b => b.instructions.countP Instruction.isCall) (fun _ _ _ => rfl) rfl (fun _ _ => rfl) hcalls,
      instructionsOf,
      List.countP_flatMap]
    exact Nat.zero_add _
  · exact foldl_call hfits _
  · show (unitSummary functions).unsupported = 0
    rw [unitSummary, foldl_unsupported hsmall]
    have hnone : (blocksOf functions).countP (fun b => !b.loweringOk) = 0 := by
      rw [List.countP_eq_zero]
      intro b hb
      obtain ⟨f, hf, hbf⟩ := List.mem_flatMap.mp hb
      rw [(haccepted f hf).lowered b hbf]
      exact Bool.false_ne_true
    rw [hnone]
    rfl

end Unit

/-! ## A unit of one function

`mncs 0.18;module m;fn f(x:u64)->(r:u64){return x;}` -/

def returningSource : Source :=
  { pages :=
      [[109, 110, 99, 115, 32, 48, 46, 49, 56, 59, 109, 111, 100, 117, 108, 101, 32, 109, 59, 102, 110, 32, 102, 40,
        120, 58, 117, 54, 52, 41, 45, 62, 40, 114, 58, 117, 54, 52, 41, 123, 114, 101, 116, 117, 114, 110, 32, 120,
        59, 125]]
    stride := 1024, total := 50 }

def returningFn : FnDecl :=
  { ok := true, errStart := 0, errStop := 0
    sig :=
      { nameStart := 22, nameStop := 23, generics := []
        params := [{ nameStart := 24, nameStop := 25, typeStart := 26, typeStop := 29, typeKind := 1 }]
        results := [{ nameStart := 33, nameStop := 34, typeStart := 35, typeStop := 38, typeKind := 1 }]
        contracts := [], effects := [], capabilities := [] }
    body := { body := [], ret := .name 47 48, hasRet := true }
    fnStart := 19, fnStop := 50, cursor := 50 }

def returningProof : UnitProve :=
  { ok := true, errStart := 0, errStop := 0
    unit :=
      { ok := true, errStart := 0, errStop := 0
        header :=
          { code := 0, start := 0, stop := 0, versionStart := 5, versionStop := 9, moduleStart := 17, moduleStop := 18
            nextOffset := 19, state := 8 }
        uses := [], records := [], enums := [], fns := [returningFn], cursor := 50 }
    obls := [], tops := [[.tName loopIntegerType 47 48]], fnCount := 1 }

def returningSummary : ValueSsaSummary :=
  lowerValueSsaWithImportedSchemas returningSource (lowerProvenUnit returningSource returningProof) [] [] []

set_option maxRecDepth 100000 in
theorem returningSummary_valid : returningSummary.valid = true := by
  -- the loops are put in their short form before the source and the unit are known
  suffices h : ∀ src proof, src = returningSource → proof = returningProof → ∀ lowered,
      lowered = lowerProvenUnit src proof → (lowerValueSsaWithImportedSchemas src lowered [] [] []).valid = true from
    h returningSource returningProof rfl rfl _ rfl
  intro src proof hsrc hproof lowered hlowered
  simp -zeta only [↓iterate_eq_run, lowerProvenUnit, lowerFunctions, lowerFnStep, lowerOneFn, functionFlow,
    Flow.reverseBlocks, reverseTypedExpressions, reverseWithin_eq, blockCount, countWithin_eq, diagnosticCount,
    verifyTargets_eq, walk, step, stepEmpty, finishTail, attachExpression, attachExpressionAt, attachTypedOps,
    Flow.countTops, appendDiagnostics, reverseDiagnostics, Sweep.iterate_step, Flow.initialBuild] at hlowered
  simp -zeta only [↓iterate_eq_run, lowerValueSsaWithImportedSchemas, lowerSsaFunctions, lowerFunctionStep, lowerFlowStep,
    finishFunctionStep, lowerUnitFunction, lowerFunction, lowerFlowBlocks, lowerFlowBlockStep, lowerBlockStep,
    lowerOneBlock, expressionSeed, incomingFor, prepareBlockEnvironment, lowerExpressionStep, lowerExpression,
    lowerOperationStep, initialBuild, canonicalFunctionIdentity, callableIdentitySpan, ↓run_callableIdentitySpanStep,
    lowerOperation, lowerArmOperation, lowerName, lookupBinding, ExpressionBuild.after, reverseEnvironment,
    reverseInstructions, prependGeneratedBlocks, reverseWithin_eq, prependWithin_eq, makeTerminator, addBlockEdgesFrom,
    verifyFunctionWithFlow, verifyFunctionBase, verifyFunctionInputs, verifyInputList, verifyInputStep, verifyInputOne,
    findValue, verifyBlocks, verifyBlockStep, verifyOneBlock, verifyTerminator, verifyReturnTerm, valueAvailable,
    verifyFlowLoopLinks, verifyFlowLoopLinkStep, verifyFlowLoopLinkItem, findBlock]
  subst hsrc hproof hlowered
  decide +kernel

theorem lowerValueSsa_sums_returning : returningSummary.Sums :=
  lowerValueSsa_sums returningSource returningProof [] [] [] returningSummary_valid

/-- The counts after some more instructions, of a scan that is complete if `ok`. -/
def LoopInstructionCounts.after (counts : LoopInstructionCounts) (instructions : List Instruction) (ok : Bool)
    : LoopInstructionCounts :=
  { indexInitCount := counts.indexInitCount + instructions.countP (fun instruction => instruction.kind = 15)
    guardCount := counts.guardCount + instructions.countP (fun instruction => instruction.kind = 13)
    indexAdvanceCount := counts.indexAdvanceCount + instructions.countP (fun instruction => instruction.kind = 14)
    complete := counts.complete && ok }

theorem LoopInstructionCounts.after_after (counts : LoopInstructionCounts) (first second : List Instruction)
    (a b : Bool) : (counts.after first a).after second b = counts.after (first ++ second) (a && b) := by
  simp only [LoopInstructionCounts.after, List.countP_append, Nat.add_assoc, Bool.and_assoc]

/-- A scan of parts that each add some instructions to the counts. -/
theorem iterate_complete {α : Type} {f : LoopInstructionCounts → α → LoopInstructionCounts}
    (part : α → List Instruction) (ok : α → Bool) (hf : ∀ c a, f c a = c.after (part a) (ok a)) (n : Nat)
    (l : List α) (counts : LoopInstructionCounts) :
    ((iterate (fun _ (st : Sweep α LoopInstructionCounts) =>
          if st.rest.isEmpty then .ret st.acc else .next (Sweep.step f st))
        0 n { rest := l, acc := counts }).after fun st =>
      { st.acc with complete := st.acc.complete && st.rest.isEmpty }) =
      counts.after ((l.take n).flatMap part) ((l.take n).all ok && decide (l.length ≤ n)) := by
  have hfold : ∀ (m : List α) (c : LoopInstructionCounts), m.foldl f c = c.after (m.flatMap part) (m.all ok) := by
    intro m
    induction m with
    | nil =>
        intro c
        simp [LoopInstructionCounts.after]
    | cons a t ih =>
        intro c
        rw [List.foldl_cons, ih, hf, LoopInstructionCounts.after_after, List.flatMap_cons, List.all_cons]
  -- a pass that ends the scan returns what the code after the loop would
  have hloop := iterate_guard (p := fun st : Sweep α LoopInstructionCounts => st.rest.isEmpty) (f := Sweep.step f)
    (k := fun st => { st.acc with complete := st.acc.complete && st.rest.isEmpty })
    (b := fun _ st => if st.rest.isEmpty then .ret st.acc else .next (Sweep.step f st)) ?_ 0 n
    { rest := l, acc := counts }
  · rw [hloop, settle_eq_self Sweep.step_nil, Sweep.iterate_step]
    dsimp only
    rw [hfold]
    have hempty : (l.drop n).isEmpty = decide (l.length ≤ n) := by
      rw [Bool.eq_iff_iff, List.isEmpty_iff, List.drop_eq_nil_iff, decide_eq_true_eq]
    simp only [LoopInstructionCounts.after, hempty, Bool.and_assoc]
  · intro i st
    dsimp only
    cases hst : st.rest.isEmpty with
    | false => rfl
    | true => simp

theorem loopInstructionCountStep_after (counts : LoopInstructionCounts) (instruction : Instruction) :
    loopInstructionCountStep counts instruction = counts.after [instruction] true := by
  simp [loopInstructionCountStep, LoopInstructionCounts.after, List.countP_singleton]

theorem loopInstructionCountsInBlock_after (instructions : List Instruction) (counts : LoopInstructionCounts) :
    loopInstructionCountsInBlock instructions counts =
      counts.after (instructions.take 2048) (decide (instructions.length ≤ 2048)) := by
  refine (after_iterate_again (fun st hst => if_pos hst) 1024 1023 _).trans ?_
  rw [iterate_complete (fun instruction => [instruction]) (fun _ => true) loopInstructionCountStep_after]
  have hall : ((instructions.take (1024 + (1023 + 1))).all fun _ => true) = true := List.all_eq_true.mpr fun _ _ => rfl
  rw [hall, Bool.true_and, List.flatMap_singleton']

/-- Whether a block fits the scan of its instructions. -/
def SsaBlock.scanned (block : SsaBlock) : Bool := block.instructions.length ≤ 2048

/-- Whether a function fits the scan of its blocks. -/
def Function.scanned (function : Function) : Bool :=
  (function.blocks.take 1024).all SsaBlock.scanned && decide (function.blocks.length ≤ 1024)

theorem loopInstructionCountsInBlocks_after (blocks : List SsaBlock) (counts : LoopInstructionCounts) :
    loopInstructionCountsInBlocks blocks counts =
      counts.after ((blocks.take 1024).flatMap fun b => b.instructions.take 2048)
        ((blocks.take 1024).all SsaBlock.scanned && decide (blocks.length ≤ 1024)) :=
  iterate_complete _ _ (fun c b => loopInstructionCountsInBlock_after b.instructions c) 1024 blocks counts

theorem flatMap_take_scanned {blocks : List SsaBlock} (h : ∀ b ∈ blocks, b.scanned = true) :
    (blocks.flatMap fun b => b.instructions.take 2048) = blocks.flatMap SsaBlock.instructions := by
  apply List.flatMap_congr
  intro b hb
  exact List.take_of_length_le (of_decide_eq_true (h b hb))

theorem Function.scanned_iff {function : Function} : function.scanned = true ↔
    function.blocks.length ≤ 1024 ∧ ∀ b ∈ function.blocks, b.instructions.length ≤ 2048 := by
  rw [Function.scanned, Bool.and_eq_true, decide_eq_true_eq, List.all_eq_true, and_comm]
  refine and_congr_right ?_
  intro hlength
  rw [List.take_of_length_le hlength]
  simp only [SsaBlock.scanned, decide_eq_true_eq]

/-- **Loop operations are counted to the end or reported incomplete**: the scan of a summary is complete exactly when
    none of its bounds cuts a list of the summary, and then its counts are those of all instructions. -/
theorem valueSsaLoopInstructionCounts_complete (summary : ValueSsaSummary) :
    ((valueSsaLoopInstructionCounts summary).complete = true ↔ summary.functions.length ≤ 1024 ∧
      ∀ f ∈ summary.functions, f.blocks.length ≤ 1024 ∧ ∀ b ∈ f.blocks, b.instructions.length ≤ 2048) ∧
    ((valueSsaLoopInstructionCounts summary).complete = true →
      (valueSsaLoopInstructionCounts summary).indexInitCount =
          (instructionsOf summary.functions).countP (fun instruction => instruction.kind = 15) ∧
        (valueSsaLoopInstructionCounts summary).guardCount =
          (instructionsOf summary.functions).countP (fun instruction => instruction.kind = 13) ∧
        (valueSsaLoopInstructionCounts summary).indexAdvanceCount =
          (instructionsOf summary.functions).countP (fun instruction => instruction.kind = 14)) := by
  have hscan : valueSsaLoopInstructionCounts summary = _ := iterate_complete _ _
    (fun c f => loopInstructionCountsInBlocks_after f.blocks c) 1024 summary.functions
      { indexInitCount := 0, guardCount := 0, indexAdvanceCount := 0, complete := true }
  have hcomplete : (valueSsaLoopInstructionCounts summary).complete = true ↔ summary.functions.length ≤ 1024 ∧
      ∀ f ∈ summary.functions, f.blocks.length ≤ 1024 ∧ ∀ b ∈ f.blocks, b.instructions.length ≤ 2048 := by
    rw [hscan]
    show (true && ((summary.functions.take 1024).all Function.scanned && decide (summary.functions.length ≤ 1024))) =
        true ↔ _
    rw [Bool.true_and, Bool.and_eq_true, decide_eq_true_eq, List.all_eq_true, and_comm]
    refine and_congr_right ?_
    intro hlength
    rw [List.take_of_length_le hlength]
    exact forall₂_congr fun f _ => Function.scanned_iff
  refine ⟨hcomplete, ?_⟩
  intro h
  obtain ⟨hlength, hfunctions⟩ := hcomplete.mp h
  have hall : ((summary.functions.take 1024).flatMap fun f =>
      (f.blocks.take 1024).flatMap fun b => b.instructions.take 2048) = instructionsOf summary.functions := by
    rw [List.take_of_length_le hlength, instructionsOf, blocksOf, List.flatMap_assoc]
    apply List.flatMap_congr
    intro f hf
    rw [List.take_of_length_le (hfunctions f hf).1]
    exact flatMap_take_scanned fun b hb => decide_eq_true ((hfunctions f hf).2 b hb)
  rw [hscan, hall]
  exact ⟨Nat.zero_add _, Nat.zero_add _, Nat.zero_add _⟩

/-! ## The status of a function -/

def Function.status (f : Function) : ValueSsaFunctionStatus :=
  { found := true, supported := f.supported, verified := f.verified, identity := f.identity }

/-- **The status of a function** is that of the function at its index, among the first 1024. -/
theorem valueSsaFunctionStatus_eq (summary : ValueSsaSummary) (target : Nat) :
    valueSsaFunctionStatus summary target =
      (((summary.functions.take 1024)[target]?).map Function.status).getD absentStatus := by
  have hloop : ∀ n i (l : List Function) (j : Nat), j ≤ target →
      (iterate (fun _ (st : FunctionStatusWalk) =>
          if st.done || st.rest.isEmpty then .ret st.status else .next (valueSsaFunctionStatusStep st)) i n
        { rest := l, index := j, target := target, status := absentStatus, done := false }).after
          (fun st => st.status) =
        (((l.take n)[target - j]?).map Function.status).getD absentStatus := by
    intro n
    induction n with
    | zero => exact fun _ _ _ _ => rfl
    | succ n ih =>
        intro i l j hj
        cases l with
        | nil => rfl
        | cons f rest =>
            rw [iterate_succ, if_neg (by simp), Pass.bind_next, List.take_succ_cons]
            by_cases hhere : j = target
            · -- the next pass, or the end of the loop, answers with it
              subst hhere
              rw [Nat.sub_self, List.getElem?_cons_zero]
              have hstep : valueSsaFunctionStatusStep
                  { rest := f :: rest, index := j, target := j, status := absentStatus, done := false } =
                    { rest := f :: rest, index := j, target := j, status := f.status, done := true } := if_pos rfl
              rw [hstep]
              cases n with
              | zero => rfl
              | succ n => rfl
            · have hstep : valueSsaFunctionStatusStep
                  { rest := f :: rest, index := j, target := target, status := absentStatus, done := false } =
                    { rest := rest, index := j + 1, target := target, status := absentStatus, done := false } :=
                if_neg hhere
              rw [hstep, ih (i + 1) rest (j + 1) (by omega), show target - j = target - (j + 1) + 1 by omega,
                List.getElem?_cons_succ]
  exact hloop 1024 0 summary.functions 0 (Nat.zero_le target)

end MncsCompiler.Ssa
