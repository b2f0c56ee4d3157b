import MncsCompiler.Ssa.Matches
import MncsCompiler.Ssa.Source

/-!
# `Ssa.Lower` — from control-flow graphs to value SSA

`lower_function` of `ssa.mncs`: the blocks of a flow graph one after another. A block takes what is in scope from the
first edge into it, lowers its expressions, appends the operation of its loop role, and leaves edges with the bindings
that its successors find. A back edge passes what its loop header asks for, found by name.
-/

namespace MncsCompiler.Ssa

open BoundedLoop Decl Flow

/-! ## Expressions -/

/-- The expressions of a block. The roles of an expression are 1 `let`, 2 condition, 3 return value, 4 sequence of a
    loop, 5 initial state, 6 next state. -/
structure ExpressionBuild where
  rest : List (TypedExpr TOp)
  env : List Binding
  instructions : List Instruction
  values : List Value
  nextValue : Nat
  nextInstruction : Nat
  sequence : Nat
  block : Nat
  parameters : List Value
  generatedBlocks : List SsaBlock
  nextBlockId : Nat
  branchValue : Nat
  returnValue : Nat
  hasBranch : Bool
  hasReturn : Bool
  nominals : List NominalTypeIdentity
  ok : Bool
  failureOp : Nat

def bindLetResult (src : Source) (expression : TypedExpr TOp) (env : List Binding) (value : Value) : List Binding :=
  let binding : Binding :=
    { nameStart := expression.bindingStart, nameStop := expression.bindingStop, value := value.id, ty := value.ty }
  if expression.role = 6 then rebindName src env binding
  else if expression.role ≠ 1 && expression.role ≠ 4 && expression.role ≠ 5 then env
  else binding :: env

/-- The operations of an expression start in the block at hand with an empty stack. -/
def ExpressionBuild.seed (st : ExpressionBuild) (expression : TypedExpr TOp) : ExprBuild :=
  { rest := expression.ops, env := st.env, stack := [], instructions := st.instructions, values := st.values
    nextValue := st.nextValue, nextInstruction := st.nextInstruction, sequence := st.sequence, block := st.block
    parameters := st.parameters, generatedBlocks := st.generatedBlocks, nextBlockId := st.nextBlockId
    nominals := st.nominals, ok := st.ok, failureOp := 0 }

/-- The block after an expression, whose operations have become `built`. -/
def ExpressionBuild.after (src : Source) (st : ExpressionBuild) (expression : TypedExpr TOp)
    (rest : List (TypedExpr TOp)) (built : ExprBuild) : ExpressionBuild :=
  let value := expressionValue built.stack
  let oneValue := expressionStackSingle built.stack
  let env := bindLetResult src expression st.env value
  { rest := rest, env := env, instructions := built.instructions, values := built.values
    nextValue := built.nextValue, nextInstruction := built.nextInstruction, sequence := built.sequence
    block := built.block, branchValue := if expression.role = 2 then value.id else st.branchValue
    returnValue := if expression.role = 3 then value.id else st.returnValue
    hasBranch := st.hasBranch || expression.role = 2, hasReturn := st.hasReturn || expression.role = 3
    parameters := built.parameters, generatedBlocks := built.generatedBlocks, nextBlockId := built.nextBlockId
    nominals := st.nominals
    ok := built.ok && oneValue && (expression.role ≠ 1 || expression.bindingStop > expression.bindingStart)
    failureOp := if st.failureOp > 0 then st.failureOp else built.failureOp }

def lowerExpression (src : Source) (st : ExpressionBuild) (expression : TypedExpr TOp) (rest : List (TypedExpr TOp))
    : ExpressionBuild :=
  let built := (lowerOperationStep src)^[1024] (st.seed expression)
  st.after src expression rest built

def lowerExpressionStep (src : Source) (st : ExpressionBuild) : ExpressionBuild :=
  match st.rest with
  | [] => st
  | expression :: rest => lowerExpression src st expression rest

/-! ## Loop operations -/

def loopIntegerType : SemType := .tInt 64 false

/-- The next instruction of a block, for its loop. -/
def ExpressionBuild.loopInstruction (st : ExpressionBuild) (loop : LoopMeta) (kind op : Nat) (ty : SemType)
    (inputs : List Id) (argc variantStart variantStop : Nat) : Instruction :=
  { id := st.nextInstruction, sequence := st.sequence, kind := kind, op := op, result := st.nextValue, ty := ty
    inputs := inputs, argc := argc, params := [], identity := invalidIdentity, nominalIdentity := invalidIdentity
    variantStart := variantStart, variantStop := variantStop, bindingStart := loop.indexStart
    bindingStop := loop.indexStop, effects := [], capabilities := [], start := loop.statementStart
    stop := loop.statementStop }

/-- Appends an instruction of the loop. -/
def ExpressionBuild.emitLoop (st : ExpressionBuild) (inst : Instruction) (ok : Bool) : ExpressionBuild :=
  let value : Value := { id := st.nextValue, ty := inst.ty, ownerBlock := st.block, kind := 2, index := st.sequence }
  { st with
    instructions := inst :: st.instructions, values := value :: st.values, nextValue := st.nextValue + 1
    nextInstruction := st.nextInstruction + 1, sequence := st.sequence + 1, ok := st.ok && ok }

/-- The index of a loop takes the value of the next instruction. -/
def ExpressionBuild.rebindIndex (src : Source) (st : ExpressionBuild) (loop : LoopMeta) : List Binding :=
  rebindName src st.env
    { nameStart := loop.indexStart, nameStop := loop.indexStop, value := st.nextValue, ty := loopIntegerType }

def emitLoopIndexInit (src : Source) (loop : LoopMeta) (st : ExpressionBuild) : ExpressionBuild :=
  { st.emitLoop (st.loopInstruction loop 15 0 loopIntegerType [] 0 0 0)
      (loop.mode > 0 && loop.indexStop > loop.indexStart) with
    env := st.rebindIndex src loop }

def emitSequenceLoopGuard (src : Source) (loop : LoopMeta) (st : ExpressionBuild) (index : Binding)
    : ExpressionBuild :=
  let source := lookupBinding src st.env loop.statementStart loop.statementStop
  let args : List Id := [{ value := index.value }, { value := source.binding.value }]
  let valid : Bool := source.found && sequenceValueType source.binding.ty && loop.sourceStop > loop.sourceStart
  { st.emitLoop (st.loopInstruction loop 13 2 .tBool args 2 loop.sourceStart loop.sourceStop) valid with
    branchValue := st.nextValue, hasBranch := true }

def emitLoopGuard (src : Source) (loop : LoopMeta) (st : ExpressionBuild) : ExpressionBuild :=
  let index := lookupBinding src st.env loop.indexStart loop.indexStop
  if !index.found || !isU64Ty index.binding.ty then { st with ok := false }
  else if loop.mode = 2 then emitSequenceLoopGuard src loop st index.binding
  else
    { st.emitLoop
        (st.loopInstruction loop 13 1 .tBool [{ value := index.binding.value }] 1 loop.boundStart loop.boundStop)
        true with
      branchValue := st.nextValue, hasBranch := true }

def emitLoopIndexAdvance (src : Source) (loop : LoopMeta) (st : ExpressionBuild) : ExpressionBuild :=
  let index := lookupBinding src st.env loop.indexStart loop.indexStop
  if !index.found || !isU64Ty index.binding.ty then { st with ok := false }
  else
    { st.emitLoop (st.loopInstruction loop 14 0 loopIntegerType [{ value := index.binding.value }] 1 0 0) true with
      env := st.rebindIndex src loop }

def finishLoopBlock (src : Source) (block : Block TOp) (st : ExpressionBuild) : ExpressionBuild :=
  if block.iteration.role = 1 then emitLoopIndexInit src block.iteration st
  else if block.iteration.role = 2 then emitLoopGuard src block.iteration st
  else if block.iteration.role = 4 then emitLoopIndexAdvance src block.iteration st
  else st

/-! ## Edges -/

structure LoopEnvironmentFilter where
  rest : List Binding
  loop : LoopMeta
  acc : List Binding
  index : Nat

def filterLoopBindingOne (src : Source) (st : LoopEnvironmentFilter) (binding : Binding) (rest : List Binding)
    : LoopEnvironmentFilter :=
  let indexName := spansEqual src binding.nameStart binding.nameStop st.loop.indexStart st.loop.indexStop
  let sourceMarker : Bool :=
    st.loop.mode = 2 &&
      spansEqual src binding.nameStart binding.nameStop st.loop.statementStart st.loop.statementStop
  { rest := rest, loop := st.loop, acc := if indexName || sourceMarker then st.acc else binding :: st.acc
    index := st.index + 1 }

def filterLoopBindingStep (src : Source) (st : LoopEnvironmentFilter) : LoopEnvironmentFilter :=
  match st.rest with
  | [] => st
  | binding :: rest => filterLoopBindingOne src st binding rest

def filterLoopBindings (src : Source) (env : List Binding) (loop : LoopMeta) (acc : List Binding) (index : Nat)
    : List Binding :=
  let st := (filterLoopBindingStep src)^[1024] { rest := env, loop := loop, acc := acc, index := index }
  reverseEnvironment st.acc

/-- What the exit of a loop finds in scope: neither the index nor the iterated sequence. -/
def selectLoopExitEnv (src : Source) (block : Block TOp) (env : List Binding) : List Binding :=
  if block.iteration.role ≠ 2 then env else filterLoopBindings src env block.iteration [] 0

/-- What a back edge passes: the bindings that the first edge to the header has left there, by name. -/
def selectBackedgeEnv (src : Source) (block : Block TOp) (env : List Binding) (edges : List Edge) : List Binding :=
  if block.iteration.role ≠ 4 then env
  else
    let shape := findTargetBindingShape edges block.succ0
    let projected := projectEnvironment src env shape.bindings
    if !shape.found || !projected.ok then [] else projected.bindings

def makeTerminator (src : Source) (block : Block TOp) (exprs : ExpressionBuild) (edges : List Edge) : Terminator :=
  if block.kind = 1 then
    let noEnv := selectLoopExitEnv src block exprs.env
    .branch exprs.branchValue block.succ0 block.succ1 (bindingIds exprs.env) (bindingIds noEnv)
  else if block.kind = 2 then
    let jumpEnv := selectBackedgeEnv src block exprs.env edges
    .jump block.succ0 (bindingIds jumpEnv)
  else if block.kind = 3 then .ret exprs.returnValue
  else .fail

def terminatorShape (block : Block TOp) (term : Terminator) : Bool :=
  if block.kind = 1 then
    match term with
    | .branch _ y n _ _ => block.succCount = 2 && y = block.succ0 && n = block.succ1
    | _ => false
  else if block.kind = 2 then
    match term with
    | .jump t _ => block.succCount = 1 && t = block.succ0
    | _ => false
  else if block.kind = 3 then
    match term with
    | .ret _ => block.succCount = 0
    | _ => false
  else if block.kind = 4 then
    match term with
    | .fail => block.succCount = 0
    | _ => false
  else false

def addIterationBranchEdges (src : Source) (edges : List Edge) (source : Nat) (block : Block TOp) (env : List Binding)
    (yes no : Nat) (yesArgs noArgs : List Id) : List Edge :=
  let exitEnv := selectLoopExitEnv src block env
  { source := source, target := no, bindings := exitEnv, arguments := noArgs } ::
    { source := source, target := yes, bindings := env, arguments := yesArgs } :: edges

def addLoopHeaderEdges (src : Source) (edges : List Edge) (source : Nat) (block : Block TOp) (term : Terminator)
    (env : List Binding) : List Edge :=
  match term with
  | .branch _ y n ya na => addIterationBranchEdges src edges source block env y n ya na
  | _ => edges

def addProjectedBackedge (src : Source) (edges : List Edge) (source target : Nat) (env : List Binding)
    (arguments : List Id) : List Edge :=
  let shape := findTargetBindingShape edges target
  let projected := projectEnvironment src env shape.bindings
  { source := source, target := target, bindings := projected.bindings, arguments := arguments } :: edges

def addLoopBackedge (src : Source) (edges : List Edge) (source : Nat) (term : Terminator) (env : List Binding)
    : List Edge :=
  match term with
  | .jump target arguments => addProjectedBackedge src edges source target env arguments
  | _ => edges

def addBlockEdgesFrom (src : Source) (edges : List Edge) (source : Nat) (block : Block TOp) (term : Terminator)
    (env : List Binding) : List Edge :=
  if block.iteration.role = 2 then addLoopHeaderEdges src edges source block term env
  else if block.iteration.role = 4 then addLoopBackedge src edges source term env
  else
    match term with
    | .branch _ y n ya na =>
        { source := source, target := n, bindings := env, arguments := na } ::
          { source := source, target := y, bindings := env, arguments := ya } :: edges
    | .jump target args => { source := source, target := target, bindings := env, arguments := args } :: edges
    | _ => edges

/-! ## Blocks -/

structure SsaBuild where
  rest : List (Block TOp)
  edges : List Edge
  blocks : List SsaBlock
  values : List Value
  inputs : List Value
  entryEnv : List Binding
  nextValue : Nat
  nextInstruction : Nat
  nextBlockId : Nat
  resultType : SemType
  identity : SemanticIdentity
  nominals : List NominalTypeIdentity
  entry : Nat
  supported : Bool
  initialFailureKind : Nat

/-- Why a block failed: 1 missing incoming edge, 2 bad incoming edges, 3 an expression, 4 terminator shape, 5 an earlier
    block, 6 repeat literal, 7 scalar match, 8 projection, 9 finite match, 10 enum construction. -/
def classifyBlockFailure (block : Block TOp) (entry : Nat) (incoming : Incoming) (exprs : ExpressionBuild)
    (term : Terminator) (priorSupported : Bool) : Nat :=
  if !priorSupported then 5
  else if block.id ≠ entry && !incoming.found then 1
  else if block.id ≠ entry && !incoming.ok then 2
  else if !exprs.ok then if exprs.failureOp > 0 then 5 + exprs.failureOp else 3
  else if !terminatorShape block term then 4
  else 0

def selectBlockParameters (block entry : Nat) (params : List Value) : List Value :=
  if block = entry then [] else params

def entryOrParameters (block entry : Nat) (entryEnv : List Binding) (incoming : Incoming) (env : List Binding)
    : List Binding :=
  if block = entry then entryEnv else if !incoming.found || !incoming.ok then [] else env

/-- The expressions of a block before the first of them. -/
def expressionSeed (src : Source) (st : SsaBuild) (block : Block TOp) : ExpressionBuild :=
  let incoming := incomingFor src block.id st.edges
  let prepared := prepareBlockEnvironment src block.id incoming st.nextValue st.values st.nominals
  { rest := block.expressions
    env := entryOrParameters block.id st.entry st.entryEnv incoming prepared.env
    instructions := [], values := prepared.values, nextValue := prepared.nextValue
    nextInstruction := st.nextInstruction, sequence := 0, block := block.id, branchValue := 0, returnValue := 0
    hasBranch := false, hasReturn := false, parameters := selectBlockParameters block.id st.entry prepared.params
    generatedBlocks := [], nextBlockId := st.nextBlockId, nominals := st.nominals
    ok := st.supported && (block.id = st.entry || incoming.found && incoming.ok), failureOp := 0 }

def lowerOneBlock (src : Source) (st : SsaBuild) (block : Block TOp) (rest : List (Block TOp)) : SsaBuild :=
  let incoming := incomingFor src block.id st.edges
  let seed := expressionSeed src st block
  let lowered := (lowerExpressionStep src)^[1024] seed
  let exprs := finishLoopBlock src block lowered
  let term := makeTerminator src block exprs st.edges
  let edges := addBlockEdgesFrom src st.edges exprs.block block term exprs.env
  let blockOk := exprs.ok && terminatorShape block term
  let localFailure := classifyBlockFailure block st.entry incoming exprs term st.supported
  let failureKind := if st.initialFailureKind > 0 then st.initialFailureKind else localFailure
  let ssaBlock : SsaBlock :=
    { id := exprs.block, parameters := exprs.parameters, parameterBindings := seed.env
      instructions := reverseInstructions exprs.instructions, terminator := term, reachable := block.reachable
      hasFailureTarget := false, failureTarget := 0, loweringOk := blockOk, loweringFailureKind := failureKind }
  { st with
    rest := rest, edges := edges, blocks := ssaBlock :: prependGeneratedBlocks exprs.generatedBlocks st.blocks
    values := exprs.values, nextValue := exprs.nextValue, nextInstruction := exprs.nextInstruction
    nextBlockId := exprs.nextBlockId, supported := blockOk }

def lowerBlockStep (src : Source) (st : SsaBuild) : SsaBuild :=
  match st.rest with
  | [] => st
  | block :: rest => lowerOneBlock src st block rest

structure SsaBlockWalk where
  build : SsaBuild
  processed : Nat

def lowerFlowBlockStep (src : Source) (walk : SsaBlockWalk) : SsaBlockWalk :=
  { build := lowerBlockStep src walk.build, processed := walk.processed + 1 }

def lowerFlowBlocks (src : Source) (expected : Nat) (initial : SsaBuild) : SsaBlockWalk :=
  (iterate (fun i (walk : SsaBlockWalk) =>
        if i ≥ expected || walk.build.rest.isEmpty then .ret walk else .next (lowerFlowBlockStep src walk))
      0 1024 { build := initial, processed := 0 }).after fun walk =>
    walk

/-! ## Functions -/

structure ParamBuild where
  rest : List Field
  env : List Binding
  inputs : List Value
  values : List Value
  nextValue : Nat
  ok : Bool

section Functions

variable (src : Source) (generics : List GenericParam) (records : List RecordDecl) (enums : List EnumDecl)
  (nominals : List NominalTypeIdentity)

def ssaSignatureFieldType (field : Field) : SemType :=
  let resolved :=
    resolveSignatureType src field.typeKind field.typeStart field.typeStop records enums nominals generics
  resolved.ty

def addFunctionParameter (st : ParamBuild) (field : Field) (rest : List Field) : ParamBuild :=
  let ty := ssaSignatureFieldType src generics records enums nominals field
  let value : Value := { id := st.nextValue, ty := ty, ownerBlock := 0, kind := 0, index := 0 }
  let binding : Binding := { nameStart := field.nameStart, nameStop := field.nameStop, value := value.id, ty := ty }
  { rest := rest, env := binding :: st.env, inputs := value :: st.inputs, values := value :: st.values
    nextValue := st.nextValue + 1, ok := st.ok && supportedValueType src ty nominals }

def functionParameterStep (st : ParamBuild) : ParamBuild :=
  match st.rest with
  | [] => st
  | field :: rest => addFunctionParameter src generics records enums nominals st field rest

def functionParameters (fields : List Field) : ParamBuild :=
  (iterate (fun _ (st : ParamBuild) =>
        if st.rest.isEmpty then .ret st
        else .next (functionParameterStep src generics records enums nominals st))
      0 1024 { rest := fields, env := [], inputs := [], values := [], nextValue := 0, ok := true }).after fun st =>
    st

def functionResultType (fields : List Field) : SemType :=
  match fields with
  | [] => .tPoison
  | field :: _ => ssaSignatureFieldType src generics records enums nominals field

end Functions

def functionSupportFailure (cfgOk parametersOk resultOk identityOk : Bool) : Nat :=
  if !cfgOk then 6 else if !parametersOk then 7 else if !resultOk then 8 else if !identityOk then 9 else 0

/-- The lowering before the first block. -/
def initialBuild (src : Source) (header : Parser.Header) (fnDecl : FnDecl) (cfg : FunctionFlow TOp)
    (records : List RecordDecl) (enums : List EnumDecl) (nominals : List NominalTypeIdentity) : SsaBuild :=
  let identity :=
    canonicalFunctionIdentity src header.moduleStart header.moduleStop fnDecl.sig.nameStart fnDecl.sig.nameStop
  let parameters := functionParameters src fnDecl.sig.generics records enums nominals fnDecl.sig.params
  let resultType := functionResultType src fnDecl.sig.generics records enums nominals fnDecl.sig.results
  let cfgOk := cfg.verified
  let resultOk := supportedValueType src resultType nominals
  { rest := cfg.blocks, edges := [], blocks := [], values := parameters.values, inputs := parameters.inputs
    entryEnv := parameters.env, nextValue := parameters.nextValue, nextInstruction := 0
    nextBlockId := cfg.blockCount, resultType := resultType, identity := identity, nominals := nominals
    entry := cfg.entry, supported := cfgOk && parameters.ok && resultOk && identity.valid
    initialFailureKind := functionSupportFailure cfgOk parameters.ok resultOk identity.valid }

def reverseBlocks (blocks : List SsaBlock) (blockCount : Nat) : List SsaBlock :=
  if blockCount > 1024 then []
  else
    (iterate (fun i (st : Sweep SsaBlock (List SsaBlock)) =>
          if i ≥ blockCount || st.rest.isEmpty then .ret st.acc
          else .next (Sweep.step (fun acc h => h :: acc) st))
        0 1024 { rest := blocks, acc := [] }).after fun st =>
      st.acc

def bindFailureTargets (blocks : List SsaBlock) (target : Nat) : List SsaBlock :=
  (iterate (fun _ (st : Sweep SsaBlock (List SsaBlock)) =>
        if st.rest.isEmpty then .ret st.acc
        else
          .next (Sweep.step (fun acc h => { h with hasFailureTarget := true, failureTarget := target } :: acc) st))
      0 1024 { rest := blocks, acc := [] }).after fun st =>
    st.acc

structure BlockLengthCheck where
  rest : List SsaBlock
  seen : Nat

def ssaBlockLengthStep (st : BlockLengthCheck) : BlockLengthCheck :=
  match st.rest with
  | [] => st
  | _ :: rest => { rest := rest, seen := st.seen + 1 }

def ssaBlockListExact (blocks : List SsaBlock) (expected : Nat) : Bool :=
  if expected > 1024 then false
  else
    (iterate (fun _ (st : BlockLengthCheck) =>
          if st.rest.isEmpty then .ret (st.seen = expected : Bool)
          else if st.seen ≥ expected then .ret false
          else .next (ssaBlockLengthStep st))
        0 1024 { rest := blocks, seen := 0 }).after fun st =>
      st.seen = expected && st.rest.isEmpty

def failureBlock (id : Nat) : SsaBlock :=
  { id := id, parameters := [], parameterBindings := [], instructions := [], terminator := .fail, reachable := false
    hasFailureTarget := false, failureTarget := 0, loweringOk := true, loweringFailureKind := 0 }

def lowerFunction (src : Source) (header : Parser.Header) (fnDecl : FnDecl) (cfg : FunctionFlow TOp)
    (records : List RecordDecl) (enums : List EnumDecl) (nominals : List NominalTypeIdentity)
    (importedRecords : List ImportedRecordSchema) (importedEnums : List ImportedEnumSchema) : Function :=
  let blockWalk := lowerFlowBlocks src cfg.blockCount (initialBuild src header fnDecl cfg records enums nominals)
  let st := blockWalk.build
  let normalBlockCount := st.nextBlockId
  let blockCount := if normalBlockCount < 1024 then normalBlockCount + 1 else 0
  let blocksComplete : Bool :=
    blockCount > 0 && blockWalk.processed = cfg.blockCount && st.rest.isEmpty &&
      ssaBlockListExact st.blocks normalBlockCount
  let normalBlocks := reverseBlocks st.blocks normalBlockCount
  let failureId := normalBlockCount
  let boundReversed := bindFailureTargets normalBlocks failureId
  let allReversed := failureBlock failureId :: boundReversed
  let blocks := reverseBlocks allReversed blockCount
  let candidate : Function :=
    { identity := st.identity, nominals := st.nominals, importedRecords := importedRecords
      importedEnums := importedEnums, inputs := st.inputs, resultType := st.resultType, blocks := blocks
      blockCount := blockCount, values := st.values, valueCount := st.nextValue
      supported := st.supported && blocksComplete, verified := false }
  let verified := candidate.supported && verifyFunctionWithFlow src candidate cfg
  { candidate with verified := verified }

end MncsCompiler.Ssa
