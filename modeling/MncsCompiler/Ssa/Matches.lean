import MncsCompiler.Ssa.Operations

/-!
# `Ssa.Matches` — lowering of matches

A match ends the block at hand with a switch and goes on in a join block of its own. Each arm starts in a fresh block
that takes what is in scope and the pending operands as parameters; its last block jumps to the join with the result
and that context. Finite and scalar matches differ in a few places, which `Form` collects.

Matches inside an arm are lowered by a driver with explicit frames: a match suspends the operations at hand, lowers
its arms, and resumes them in its join.
-/

namespace MncsCompiler.Ssa

open BoundedLoop Decl

/-! ## The two forms -/

inductive Form where
  | finite
  | scalar
  deriving DecidableEq, Repr

@[reducible] def Form.Arm : Form → Type
  | .finite => TypedFiniteMatchArm
  | .scalar => TypedScalarMatchArm

@[reducible] def Form.Case : Form → Type
  | .finite => FiniteMatchCase
  | .scalar => ScalarMatchCase

/-- What a match under construction keeps of its own: the identity of its enum, or its default target so far. -/
@[reducible] def Form.Own : Form → Type
  | .finite => SemanticIdentity
  | .scalar => Nat

/-- The operation that a failed match names. -/
def Form.failureOp : Form → Nat
  | .finite => 4
  | .scalar => 2

def Form.ops : (f : Form) → f.Arm → List TOp
  | .finite => TypedFiniteMatchArm.ops
  | .scalar => TypedScalarMatchArm.ops

/-- The arguments of every edge from the switch: a finite arm takes the subject besides the context. -/
def Form.sourceArguments (f : Form) (subject : Value) (env : List Binding) (stack : List Value) : List Id :=
  match f with
  | .finite => appendIds [{ value := subject.id }] (matchContextIds env stack)
  | .scalar => matchContextIds env stack

def Form.edgeCase : (f : Form) → f.Arm → Nat → List Id → f.Case
  | .finite, arm, target, arguments =>
      { variantStart := arm.pattern.variantStart, variantStop := arm.pattern.variantStop, target := target
        arguments := arguments }
  | .scalar, .mk isDefault negative value overflow patternStart patternStop _ _, target, arguments =>
      { isDefault := isDefault, negative := negative, value := value, overflow := overflow
        patternStart := patternStart, patternStop := patternStop, target := target, arguments := arguments }

def Form.ownAfter : (f : Form) → f.Own → f.Arm → Nat → f.Own
  | .finite, nominal, _, _ => nominal
  | .scalar, defaultTarget, arm, entry => if TypedScalarMatchArm.isDefault arm then entry else defaultTarget

/-- A match whose arms are being lowered. -/
structure ArmBuild (f : Form) where
  rest : List f.Arm
  source : ExprBuild
  cases : List f.Case
  armBlocks : List SsaBlock
  armIndex : Nat
  armCount : Nat
  joinId : Nat
  joinEnv : List Binding
  joinStack : List Value
  joinParams : List Value
  joinResult : Value
  sourceArguments : List Id
  own : f.Own
  subject : Value
  subjectTy : SemType
  resultTy : SemType
  matchStart : Nat
  matchStop : Nat
  nextValue : Nat
  nextInstruction : Nat
  nextBlock : Nat
  ok : Bool

abbrev FiniteArmBuild := ArmBuild .finite

abbrev ScalarArmBuild := ArmBuild .scalar

def Form.switch : (f : Form) → ArmBuild f → List f.Case → Terminator
  | .finite, ctx, cases =>
      .finiteSwitch ctx.subject.id ctx.subjectTy ctx.own ctx.resultTy ctx.matchStart ctx.matchStop ctx.armCount
        ctx.joinId cases
  | .scalar, ctx, cases =>
      .scalarSwitch ctx.subject.id ctx.subjectTy ctx.resultTy ctx.matchStart ctx.matchStop ctx.armCount ctx.own
        ctx.joinId cases

/-! ## Payloads -/

structure PayloadFieldFind where
  rest : List Bind
  start : Nat
  stop : Nat
  found : Bool
  field : Bind

def findMatchPayloadFieldStep (src : Source) (st : PayloadFieldFind) : PayloadFieldFind :=
  if st.found then st
  else
    match st.rest with
    | [] => st
    | field :: rest =>
        { rest := rest, start := st.start, stop := st.stop
          found := spansEqual src field.start field.stop st.start st.stop, field := field }

def findMatchPayloadField (src : Source) (fields : List Bind) (start stop : Nat) : PayloadFieldFind :=
  (findMatchPayloadFieldStep src)^[1024]
    { rest := fields, start := start, stop := stop, found := false
      field := { start := 0, stop := 0, ty := .tPoison } }

structure PayloadLowerBuild where
  rest : List PayloadBinding
  fields : List Bind
  env : List Binding
  subject : Nat
  variantStart : Nat
  variantStop : Nat
  nominal : SemanticIdentity
  matchStart : Nat
  matchStop : Nat
  instructions : List Instruction
  values : List Value
  nextValue : Nat
  nextInstruction : Nat
  sequence : Nat
  block : Nat
  nominals : List NominalTypeIdentity
  ok : Bool

def lowerMatchPayloadOne (src : Source) (st : PayloadLowerBuild) (binding : PayloadBinding)
    (rest : List PayloadBinding) : PayloadLowerBuild :=
  let field := findMatchPayloadField src st.fields binding.fieldStart binding.fieldStop
  if !field.found then { st with rest := rest, ok := false }
  else if matchPayloadWildcard src binding.nameStart binding.nameStop then { st with rest := rest }
  else
    let value : Value :=
      { id := st.nextValue, ty := field.field.ty, ownerBlock := st.block, kind := 2, index := st.sequence }
    let inst : Instruction :=
      { id := st.nextInstruction, sequence := st.sequence, kind := 6, op := 0, result := value.id, ty := value.ty
        inputs := [{ value := st.subject }], argc := 1, params := [field.field], identity := invalidIdentity
        nominalIdentity := st.nominal, variantStart := st.variantStart, variantStop := st.variantStop
        bindingStart := binding.nameStart, bindingStop := binding.nameStop, effects := [], capabilities := []
        start := st.matchStart, stop := st.matchStop }
    let mapped : Binding :=
      { nameStart := binding.nameStart, nameStop := binding.nameStop, value := value.id, ty := value.ty }
    { st with
      rest := rest, env := mapped :: st.env, instructions := inst :: st.instructions, values := value :: st.values
      nextValue := st.nextValue + 1, nextInstruction := st.nextInstruction + 1, sequence := st.sequence + 1
      ok := supportedValueType src value.ty st.nominals }

def lowerMatchPayloadStep (src : Source) (st : PayloadLowerBuild) : PayloadLowerBuild :=
  if !st.ok then st
  else
    match st.rest with
    | [] => st
    | binding :: rest => lowerMatchPayloadOne src st binding rest

def lowerMatchPayloads (src : Source) (initial : PayloadLowerBuild) : PayloadLowerBuild :=
  (lowerMatchPayloadStep src)^[1024] initial

/-! ## Arms -/

def expressionStackSingle (stack : List Value) : Bool :=
  match stack with
  | [_] => true
  | _ => false

def expressionValue (stack : List Value) : Value :=
  match stack with
  | [] => { id := 0, ty := .tPoison, ownerBlock := 0, kind := 0, index := 0 }
  | h :: _ => h

def expressionStackTail (stack : List Value) : List Value :=
  match stack with
  | [] => []
  | _ :: t => t

structure ArmJumpArguments where
  arguments : List Id
  ok : Bool

/-- An arm that has moved to the join of a nested match finds the context that it was prepared with by name. -/
def armJumpArgs (src : Source) (moved currentOk : Bool) (currentEnv : List Binding) (currentStack : List Value)
    (resultId : Nat) (preparedEnv : List Binding) (preparedStack : List Value) : ArmJumpArguments :=
  if moved && currentOk then
    let projected := projectEnvironment src currentEnv preparedEnv
    { arguments :=
        appendIds [{ value := resultId }] (matchContextIds projected.bindings (expressionStackTail currentStack))
      ok := projected.ok }
  else
    { arguments := appendIds [{ value := resultId }] (matchContextIds preparedEnv preparedStack), ok := currentOk }

def prependGeneratedBlocks (generated blocks : List SsaBlock) : List SsaBlock := prependWithin 1024 generated blocks

def reverseInstructions (instructions : List Instruction) : List Instruction := reverseWithin 1024 instructions

/-- The context that an arm's block is prepared with. -/
def ArmBuild.prepared (src : Source) {f : Form} (ctx : ArmBuild f) (entry : Nat) : MatchContextBuild :=
  matchContextParameters src ctx.source.env ctx.source.stack entry ctx.nextValue ctx.source.values
    ctx.source.nominals

/-- The block of an arm before its operations. A finite arm takes the subject as well, and extracts the payloads that
    its pattern names. -/
def ArmBuild.enterArm (src : Source) : {f : Form} → ArmBuild f → f.Arm → Nat → MatchContextBuild → ExprBuild
  | .finite, ctx, arm, entry, prepared =>
      let subjectParam : Value :=
        { id := prepared.nextValue, ty := ctx.subjectTy, ownerBlock := entry, kind := 1
          index := prepared.parameterIndex }
      let payloads := lowerMatchPayloads src
        { rest := arm.pattern.bindings, fields := arm.payloadFields, env := prepared.env, subject := subjectParam.id
          variantStart := arm.pattern.variantStart, variantStop := arm.pattern.variantStop, nominal := ctx.own
          matchStart := ctx.matchStart, matchStop := ctx.matchStop, instructions := []
          values := subjectParam :: prepared.values, nextValue := prepared.nextValue + 1
          nextInstruction := ctx.nextInstruction, sequence := 0, block := entry, nominals := ctx.source.nominals
          ok := prepared.ok }
      { rest := arm.ops, env := payloads.env, stack := [], instructions := payloads.instructions
        values := payloads.values, nextValue := payloads.nextValue, nextInstruction := payloads.nextInstruction
        sequence := payloads.sequence, block := entry, parameters := subjectParam :: prepared.parameters
        generatedBlocks := [], nextBlockId := ctx.nextBlock, nominals := ctx.source.nominals, ok := payloads.ok
        failureOp := 0 }
  | .scalar, ctx, arm, entry, prepared =>
      { rest := arm.ops, env := prepared.env, stack := [], instructions := [], values := prepared.values
        nextValue := prepared.nextValue, nextInstruction := ctx.nextInstruction, sequence := 0, block := entry
        parameters := prepared.parameters, generatedBlocks := [], nextBlockId := ctx.nextBlock
        nominals := ctx.source.nominals, ok := prepared.ok, failureOp := 0 }

/-- The arm after its operations: its last block jumps to the join. -/
def ArmBuild.closeArm (src : Source) {f : Form} (ctx : ArmBuild f) (arm : f.Arm) (entry : Nat)
    (preparedOk seedOk : Bool) (preparedEnv : List Binding) (preparedStack : List Value) (lowered : ExprBuild)
    : ArmBuild f :=
  let result := expressionValue lowered.stack
  let resultOk := expressionStackSingle lowered.stack && semEq src result.ty ctx.resultTy
  let jump :=
    armJumpArgs src (lowered.block ≠ entry) (preparedOk && lowered.ok && resultOk) lowered.env lowered.stack result.id
      preparedEnv preparedStack
  let armOk := lowered.ok && resultOk && preparedOk && jump.ok
  let armBlock : SsaBlock :=
    { id := lowered.block, parameters := lowered.parameters, parameterBindings := lowered.env
      instructions := reverseInstructions lowered.instructions, terminator := .jump ctx.joinId jump.arguments
      reachable := true, hasFailureTarget := false, failureTarget := 0, loweringOk := armOk
      loweringFailureKind := if armOk then 0 else 9 }
  { ctx with
    source :=
      { ctx.source with
        values := lowered.values, nextValue := lowered.nextValue, nextInstruction := lowered.nextInstruction }
    cases := f.edgeCase arm entry ctx.sourceArguments :: ctx.cases
    armBlocks := prependGeneratedBlocks (armBlock :: lowered.generatedBlocks) ctx.armBlocks
    armIndex := ctx.armIndex + 1
    own := f.ownAfter ctx.own arm entry
    nextValue := lowered.nextValue
    nextInstruction := lowered.nextInstruction
    nextBlock := if lowered.nextBlockId > ctx.nextBlock then lowered.nextBlockId else ctx.nextBlock
    ok := ctx.ok && preparedOk && seedOk && armOk }

/-! ## Matches -/

def finiteBasicOk (src : Source) (st : ExprBuild) (resultTy subjectTy : SemType) (arms : List TypedFiniteMatchArm)
    (armCount : Nat) (subject : Value) : Bool :=
  let nominal := nominalIdentityForType src st.nominals subjectTy
  let actualCount := typedFiniteMatchCount arms
  nominal.valid && actualCount = armCount && armCount > 0 && semEq src subject.ty subjectTy &&
    supportedValueType src resultTy st.nominals

def typedScalarMatchArmTotal (arms : List TypedScalarMatchArm) : Nat :=
  let count := typedScalarMatchCount arms
  count.n

def scalarBasicOk (src : Source) (st : ExprBuild) (resultTy subjectTy : SemType) (arms : List TypedScalarMatchArm)
    (armCount defaultCount : Nat) (subject : Value) : Bool :=
  let actualCount := typedScalarMatchArmTotal arms
  isIntTy subjectTy && actualCount = armCount && armCount > 0 && defaultCount = 1 &&
    semEq src subject.ty subjectTy && supportedValueType src resultTy st.nominals

/-- A match before its arms: the join comes after one block for each arm, and its context is prepared first. -/
def openMatch (src : Source) {f : Form} (st : ExprBuild) (rest : List TOp) (resultTy subjectTy : SemType)
    (arms : List f.Arm) (armCount start stop : Nat) (subject : Value) (baseStack : List Value) (own : f.Own)
    : ArmBuild f :=
  let joinId := st.nextBlockId + armCount
  let joinContext := matchContextParameters src st.env baseStack joinId st.nextValue st.values st.nominals
  let joinResult : Value :=
    { id := joinContext.nextValue, ty := resultTy, ownerBlock := joinId, kind := 1
      index := joinContext.parameterIndex }
  let source : ExprBuild :=
    { st with
      rest := rest, stack := baseStack, values := joinResult :: joinContext.values
      nextValue := joinContext.nextValue + 1 }
  { rest := arms, source := source, cases := [], armBlocks := [], armIndex := 0, armCount := armCount
    joinId := joinId, joinEnv := joinContext.env, joinStack := joinContext.stack
    joinParams := joinResult :: joinContext.parameters, joinResult := joinResult
    sourceArguments := f.sourceArguments subject st.env baseStack, own := own, subject := subject
    subjectTy := subjectTy, resultTy := resultTy, matchStart := start, matchStop := stop
    nextValue := joinContext.nextValue + 1, nextInstruction := st.nextInstruction, nextBlock := joinId + 1
    ok := joinContext.ok }

/-- A match after its arms: the block of `source` ends in the switch, and lowering goes on in the join. -/
def assembleMatch {f : Form} (source : ExprBuild) (ctx : ArmBuild f) : ExprBuild :=
  let matchOk := source.ok && ctx.ok
  let sourceBlock : SsaBlock :=
    { id := source.block, parameters := source.parameters, parameterBindings := source.env
      instructions := reverseInstructions source.instructions
      terminator := f.switch ctx (reverseWithin 1024 ctx.cases), reachable := true, hasFailureTarget := false
      failureTarget := 0, loweringOk := matchOk, loweringFailureKind := if matchOk then 0 else 9 }
  { rest := source.rest, env := ctx.joinEnv, stack := ctx.joinResult :: ctx.joinStack, instructions := []
    values := ctx.source.values, nextValue := ctx.nextValue, nextInstruction := ctx.nextInstruction, sequence := 0
    block := ctx.joinId, parameters := ctx.joinParams
    generatedBlocks := prependGeneratedBlocks (sourceBlock :: ctx.armBlocks) source.generatedBlocks
    nextBlockId := ctx.nextBlock, nominals := source.nominals, ok := matchOk
    failureOp := if source.failureOp > 0 then source.failureOp else if ctx.ok then 0 else f.failureOp }

/-! ## The driver of nested matches -/

/-- An arm under way, with the match it belongs to and the context it was prepared with. -/
structure NestFrame where
  form : Form
  ctx : ArmBuild form
  arm : form.Arm
  preparedEnv : List Binding
  preparedStack : List Value

structure NestDriver where
  build : ExprBuild
  frames : List NestFrame
  done : Bool

def nestArmStart (src : Source) {f : Form} (st : NestDriver) (ctx : ArmBuild f) (arm : f.Arm) (restArms : List f.Arm)
    : NestDriver :=
  let entryId := ctx.source.nextBlockId + ctx.armIndex
  let prepared := ctx.prepared src entryId
  let seed := ctx.enterArm src arm entryId prepared
  let frame : NestFrame :=
    { form := f, ctx := { ctx with rest := restArms }, arm := arm, preparedEnv := prepared.env
      preparedStack := prepared.stack }
  { build := seed, frames := frame :: st.frames, done := false }

def nestAssemble {f : Form} (ctx : ArmBuild f) (restFrames : List NestFrame) : NestDriver :=
  { build := assembleMatch ctx.source ctx, frames := restFrames, done := false }

def nestArmDone (src : Source) (st : NestDriver) (frame : NestFrame) (restFrames : List NestFrame) : NestDriver :=
  let entryId := frame.ctx.source.nextBlockId + frame.ctx.armIndex
  let ctx := frame.ctx.closeArm src frame.arm entryId true true frame.preparedEnv frame.preparedStack st.build
  match frame.ctx.rest with
  | [] => nestAssemble ctx restFrames
  | nextArm :: restArms =>
      nestArmStart src { build := st.build, frames := restFrames, done := false } { ctx with rest := restArms }
        nextArm restArms

def nestFail (st : NestDriver) (f : Form) : NestDriver :=
  { build := st.build.failWith st.build.rest f.failureOp, frames := st.frames, done := false }

/-- A match whose subject and count have been checked (`basicOk`). -/
def nestSetupSubject (src : Source) {f : Form} (st : NestDriver) (rest : List TOp) (resultTy subjectTy : SemType)
    (arms : List f.Arm) (armCount start stop : Nat) (subject : Value) (baseStack : List Value) (own : f.Own)
    (basicOk : Bool) : NestDriver :=
  if !basicOk then nestFail st f
  else
    match arms with
    | [] => nestFail st f
    | arm :: restArms =>
        nestArmStart src st
          (openMatch src st.build rest resultTy subjectTy arms armCount start stop subject baseStack own) arm restArms

def nestFiniteSetup (src : Source) (st : NestDriver) (rest : List TOp) (resultTy subjectTy : SemType)
    (arms : List TypedFiniteMatchArm) (armCount start stop : Nat) : NestDriver :=
  match st.build.stack with
  | [] => nestFail st .finite
  | subject :: baseStack =>
      nestSetupSubject (f := .finite) src st rest resultTy subjectTy arms armCount start stop subject baseStack
        (nominalIdentityForType src st.build.nominals subjectTy)
        (finiteBasicOk src st.build resultTy subjectTy arms armCount subject)

def nestScalarSetup (src : Source) (st : NestDriver) (rest : List TOp) (resultTy subjectTy : SemType)
    (arms : List TypedScalarMatchArm) (armCount defaultCount start stop : Nat) : NestDriver :=
  match st.build.stack with
  | [] => nestFail st .scalar
  | subject :: baseStack =>
      nestSetupSubject (f := .scalar) src st rest resultTy subjectTy arms armCount start stop subject baseStack 0
        (scalarBasicOk src st.build resultTy subjectTy arms armCount defaultCount subject)

def nestDriverOp (src : Source) (st : NestDriver) (operation : TOp) (rest : List TOp) : NestDriver :=
  match operation with
  | .tMatch ty subjectTy arms armCount defaultCount start stop =>
      nestScalarSetup src st rest ty subjectTy arms armCount defaultCount start stop
  | .tFiniteMatch ty subjectTy arms armCount start stop =>
      nestFiniteSetup src st rest ty subjectTy arms armCount start stop
  | operation => { build := lowerArmOperation src st.build operation rest, frames := st.frames, done := false }

def nestDriverPop (src : Source) (st : NestDriver) : NestDriver :=
  match st.frames with
  | [] => { st with done := true }
  | frame :: rest => nestArmDone src st frame rest

def nestDriverStep (src : Source) (st : NestDriver) : NestDriver :=
  if !st.build.ok || st.done then st
  else
    match st.build.rest with
    | [] => nestDriverPop src st
    | operation :: rest => nestDriverOp src st operation rest

def nestDriverResult (st : NestDriver) : ExprBuild := if st.done then st.build else { st.build with ok := false }

def lowerNestedArmOps (src : Source) (seed : ExprBuild) : ExprBuild :=
  nestDriverResult ((nestDriverStep src)^[1024] { build := seed, frames := [], done := false })

/-! ## Matches of an expression -/

def lowerArm (src : Source) {f : Form} (st : ArmBuild f) (arm : f.Arm) (rest : List f.Arm) : ArmBuild f :=
  let armId := st.source.nextBlockId + st.armIndex
  let prepared := st.prepared src armId
  let seed := st.enterArm src arm armId prepared
  let lowered := lowerNestedArmOps src seed
  { st with rest := rest }.closeArm src arm armId prepared.ok seed.ok prepared.env prepared.stack lowered

def lowerFiniteArm (src : Source) (st : FiniteArmBuild) (arm : TypedFiniteMatchArm) (rest : List TypedFiniteMatchArm)
    : FiniteArmBuild :=
  lowerArm src st arm rest

def lowerScalarArm (src : Source) (st : ScalarArmBuild) (arm : TypedScalarMatchArm) (rest : List TypedScalarMatchArm)
    : ScalarArmBuild :=
  lowerArm src st arm rest

def armStep (src : Source) {f : Form} (st : ArmBuild f) : ArmBuild f :=
  match st.rest with
  | [] => st
  | arm :: rest => lowerArm src st arm rest

def lowerMatchSubject (src : Source) {f : Form} (st : ExprBuild) (rest : List TOp) (resultTy subjectTy : SemType)
    (arms : List f.Arm) (armCount start stop : Nat) (subject : Value) (baseStack : List Value) (own : f.Own)
    (basicOk : Bool) : ExprBuild :=
  if !basicOk then st.failWith rest f.failureOp
  else
    let initial := openMatch src st rest resultTy subjectTy arms armCount start stop subject baseStack own
    let built := (armStep src)^[1024] initial
    assembleMatch { st with rest := rest } built

def lowerFiniteMatch (src : Source) (st : ExprBuild) (rest : List TOp) (resultTy subjectTy : SemType)
    (arms : List TypedFiniteMatchArm) (armCount start stop : Nat) : ExprBuild :=
  match st.stack with
  | [] => st.failWith rest 4
  | subject :: baseStack =>
      lowerMatchSubject (f := .finite) src st rest resultTy subjectTy arms armCount start stop subject baseStack
        (nominalIdentityForType src st.nominals subjectTy)
        (finiteBasicOk src st resultTy subjectTy arms armCount subject)

def lowerScalarMatch (src : Source) (st : ExprBuild) (rest : List TOp) (resultTy subjectTy : SemType)
    (arms : List TypedScalarMatchArm) (armCount defaultCount start stop : Nat) : ExprBuild :=
  match st.stack with
  | [] => st.failWith rest 2
  | subject :: baseStack =>
      lowerMatchSubject (f := .scalar) src st rest resultTy subjectTy arms armCount start stop subject baseStack 0
        (scalarBasicOk src st resultTy subjectTy arms armCount defaultCount subject)

/-- All but the matches are lowered as in an arm. -/
def lowerOperation (src : Source) (st : ExprBuild) (operation : TOp) (rest : List TOp) : ExprBuild :=
  match operation with
  | .tMatch ty subjectTy arms armCount defaultCount start stop =>
      lowerScalarMatch src st rest ty subjectTy arms armCount defaultCount start stop
  | .tFiniteMatch ty subjectTy arms armCount start stop =>
      lowerFiniteMatch src st rest ty subjectTy arms armCount start stop
  | operation => lowerArmOperation src st operation rest

def lowerOperationStep (src : Source) (st : ExprBuild) : ExprBuild :=
  match st.rest with
  | [] => st
  | operation :: rest => lowerOperation src st operation rest

end MncsCompiler.Ssa
