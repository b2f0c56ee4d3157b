import MncsCompiler.Ssa.Instructions

/-!
# `Ssa.Verify` — the verifier of functions

`verify_function_base` of `ssa.mncs` accepts a function record when its values are numbered in order, its inputs,
parameters and results are the values of their kind, and every block, terminator and edge passes its own check.
-/

namespace MncsCompiler.Ssa

open BoundedLoop Decl

/-! ## Edges and terminators -/

structure ArgumentTypeCheck where
  args : List Id
  params : List Value
  values : List Value
  ok : Bool

def argumentValueType (src : Source) (st : ArgumentTypeCheck) (arg : Id) (args : List Id) (param : Value)
    (params : List Value) : ArgumentTypeCheck :=
  let found := findValue st.values arg.value
  { args := args, params := params, values := st.values, ok := found.found && semEq src found.value.ty param.ty }

def argumentParam (src : Source) (st : ArgumentTypeCheck) (arg : Id) (args : List Id) : ArgumentTypeCheck :=
  match st.params with
  | [] => { st with args := args, ok := false }
  | param :: params => argumentValueType src st arg args param params

def argumentTypeStep (src : Source) (st : ArgumentTypeCheck) : ArgumentTypeCheck :=
  if !st.ok then st
  else
    match st.args with
    | [] => { st with ok := st.params.isEmpty }
    | arg :: args => argumentParam src st arg args

def argumentTypesMatch (src : Source) (values : List Value) (args : List Id) (params : List Value) : Bool :=
  let st := (argumentTypeStep src)^[1024] { args := args, params := params, values := values, ok := true }
  st.ok && st.args.isEmpty && st.params.isEmpty

def verifyEdge (src : Source) (function : Function) (source target : Nat) (args : List Id) (before : Nat) : Bool :=
  let targetBlock := findBlock function.blocks target
  if !targetBlock.found || !availableValues function.values args source before then false
  else argumentTypesMatch src function.values args targetBlock.block.parameters

def verifyBranchTerm (src : Source) (function : Function) (block condition yes no : Nat) (yesArgs noArgs : List Id)
    (before : Nat) : Bool :=
  let cond := findValue function.values condition
  let a := verifyEdge src function block yes yesArgs before
  let b := verifyEdge src function block no noArgs before
  cond.found && semEq src cond.value.ty .tBool && valueAvailable function.values condition block before && a && b &&
    yes ≠ no

def verifyReturnTerm (src : Source) (function : Function) (block value before : Nat) : Bool :=
  let found := findValue function.values value
  found.found && semEq src found.value.ty function.resultType && valueAvailable function.values value block before

/-! ## Switches -/

def leftmostMatchStep (node : Expr) : Expr :=
  match node with
  | .binary _ left _ _ _ => left
  | .project base _ _ _ _ _ => base
  | _ => node

def leftmostMatchAtom (node : Expr) : Expr := leftmostMatchStep^[1024] node

structure SourceFiniteCasePair where
  arms : List FiniteMatchArm
  cases : List FiniteMatchCase
  count : Nat
  ok : Bool

def finiteMatchSourcePairCase (st : SourceFiniteCasePair) (arm : FiniteMatchArm) (rest : List FiniteMatchArm)
    : SourceFiniteCasePair :=
  match st.cases with
  | [] => { st with arms := rest, ok := false }
  | case :: cases =>
      { arms := rest, cases := cases, count := st.count + 1
        ok := st.ok && arm.pattern.variantStart = case.variantStart && arm.pattern.variantStop = case.variantStop }

def finiteMatchSourcePairStep (st : SourceFiniteCasePair) : SourceFiniteCasePair :=
  match st.arms with
  | [] => { st with ok := st.ok && st.cases.isEmpty }
  | arm :: rest => finiteMatchSourcePairCase st arm rest

def finiteMatchSourceArmPairs (arms : List FiniteMatchArm) (cases : List FiniteMatchCase) (count : Nat) : Bool :=
  let st := finiteMatchSourcePairStep^[1024] { arms := arms, cases := cases, count := 0, ok := true }
  st.ok && st.count = count && st.arms.isEmpty && st.cases.isEmpty

def finiteMatchSourceCasesValid (src : Source) (start stop : Nat) (cases : List FiniteMatchCase) (count : Nat)
    : Bool :=
  let parsed := parseExpr src start true
  if !parsed.ok || parsed.start ≠ start then false
  else
    let atom := leftmostMatchAtom parsed.node
    match atom with
    | .finiteMatch _ arms sourceStart sourceStop =>
        sourceStart = start && sourceStop = stop && finiteMatchSourceArmPairs arms cases count
    | _ => false

structure DuplicateFiniteCaseScan where
  rest : List FiniteMatchCase
  variantStart : Nat
  variantStop : Nat
  target : Nat
  found : Bool

def finiteMatchDuplicateStep (st : DuplicateFiniteCaseScan) : DuplicateFiniteCaseScan :=
  if st.found then st
  else
    match st.rest with
    | [] => st
    | case :: rest =>
        { st with
          rest := rest
          found := case.target = st.target || case.variantStart = st.variantStart &&
              case.variantStop = st.variantStop }

def finiteMatchCaseDuplicate (cases : List FiniteMatchCase) (candidate : FiniteMatchCase) : Bool :=
  let st := finiteMatchDuplicateStep^[1024]
    { rest := cases, variantStart := candidate.variantStart, variantStop := candidate.variantStop
      target := candidate.target, found := false }
  st.found

def firstArgumentType (src : Source) (values : List Value) (id : Id) (want : SemType) : Bool :=
  let found := findValue values id.value
  found.found && semEq src found.value.ty want

def firstArgumentHasType (src : Source) (values : List Value) (args : List Id) (want : SemType) : Bool :=
  match args with
  | [] => false
  | id :: _ => firstArgumentType src values id want

def nestedJoinJumpsToJoin (src : Source) (function : Function) (inner join : Nat) (resultTy : SemType) : Bool :=
  let found := findBlock function.blocks inner
  if !found.found then false
  else
    match found.block.terminator with
    | .jump target args =>
        target = join &&
          verifyEdge src function inner join args (instructionCount found.block.instructions function.valueCount) &&
          firstArgumentHasType src function.values args resultTy
    | _ => false

def matchArmJumpsToJoin (src : Source) (function : Function) (block : SsaBlock) (join : Nat) (resultTy : SemType)
    : Bool :=
  match block.terminator with
  | .jump target args =>
      target = join &&
        verifyEdge src function block.id target args (instructionCount block.instructions function.valueCount) &&
        firstArgumentHasType src function.values args resultTy
  | .finiteSwitch _ _ _ _ _ _ _ target _ => nestedJoinJumpsToJoin src function target join resultTy
  | .scalarSwitch _ _ _ _ _ _ _ target _ => nestedJoinJumpsToJoin src function target join resultTy
  | _ => false

structure FiniteSwitchCaseScan where
  rest : List FiniteMatchCase
  function : Function
  source : Nat
  join : Nat
  resultTy : SemType
  before : Nat
  ok : Bool

def verifyFiniteSwitchCase (src : Source) (st : FiniteSwitchCaseScan) (case : FiniteMatchCase)
    (rest : List FiniteMatchCase) : FiniteSwitchCaseScan :=
  let target := findBlock st.function.blocks case.target
  let unique : Bool := !finiteMatchCaseDuplicate rest case
  let edgeOk := verifyEdge src st.function st.source case.target case.arguments st.before
  let targetTermOk : Bool := target.found && matchArmJumpsToJoin src st.function target.block st.join st.resultTy
  { st with
    rest := rest
    ok :=
      unique && case.target ≠ st.source && case.target ≠ st.join && case.variantStop > case.variantStart && edgeOk &&
        targetTermOk }

def verifyFiniteSwitchCaseStep (src : Source) (st : FiniteSwitchCaseScan) : FiniteSwitchCaseScan :=
  if !st.ok then st
  else
    match st.rest with
    | [] => st
    | case :: rest => verifyFiniteSwitchCase src st case rest

def verifyFiniteSwitchCases (src : Source) (function : Function) (source join : Nat) (resultTy : SemType)
    (cases : List FiniteMatchCase) (before : Nat) : Bool :=
  let st := (verifyFiniteSwitchCaseStep src)^[1024]
    { rest := cases, function := function, source := source, join := join, resultTy := resultTy, before := before
      ok := true }
  st.ok && st.rest.isEmpty

structure FiniteCaseCount where
  rest : List FiniteMatchCase
  count : Nat

def finiteCaseCountStep (st : FiniteCaseCount) : FiniteCaseCount :=
  match st.rest with
  | [] => st
  | _ :: rest => { rest := rest, count := st.count + 1 }

def finiteCaseCount (cases : List FiniteMatchCase) : Nat :=
  let st := finiteCaseCountStep^[1024] { rest := cases, count := 0 }
  st.count

def matchJoinResultType (src : Source) (params : List Value) (want : SemType) : Bool :=
  match params with
  | [] => false
  | value :: _ => semEq src value.ty want

def verifyFiniteSwitch (src : Source) (function : Function) (block : SsaBlock) (subject : Nat) (subjectTy : SemType)
    (nominal : SemanticIdentity) (resultTy : SemType) (start stop armCount join : Nat) (cases : List FiniteMatchCase)
    (before : Nat) : Bool :=
  let subjectValue := findValue function.values subject
  let expectedNominal := nominalIdentityForType src function.nominals subjectTy
  let joinBlock := findBlock function.blocks join
  let sourceOk := finiteMatchSourceCasesValid src start stop cases armCount
  let casesOk := verifyFiniteSwitchCases src function block.id join resultTy cases before
  subjectValue.found && valueAvailable function.values subject block.id before && isNamedType subjectTy &&
    semEq src subjectValue.value.ty subjectTy && expectedNominal.valid &&
    semanticIdentityEqual expectedNominal nominal && supportedValueType src resultTy function.nominals &&
    armCount > 0 && finiteCaseCount cases = armCount && sourceOk && casesOk && joinBlock.found &&
    matchJoinResultType src joinBlock.block.parameters resultTy

structure SourceScalarCasePair where
  arms : List ScalarMatchArm
  cases : List ScalarMatchCase
  count : Nat
  ok : Bool

def scalarMatchSourcePairCase (st : SourceScalarCasePair) (arm : ScalarMatchArm) (rest : List ScalarMatchArm)
    : SourceScalarCasePair :=
  match st.cases with
  | [] => { st with arms := rest, ok := false }
  | case :: cases =>
      { arms := rest, cases := cases, count := st.count + 1
        ok :=
          st.ok && arm.isDefault = case.isDefault && arm.negative = case.negative && arm.value = case.value &&
            arm.patternStart = case.patternStart && arm.patternStop = case.patternStop }

def scalarMatchSourcePairStep (st : SourceScalarCasePair) : SourceScalarCasePair :=
  match st.arms with
  | [] => { st with ok := st.ok && st.cases.isEmpty }
  | arm :: rest => scalarMatchSourcePairCase st arm rest

def scalarMatchSourceArmPairs (arms : List ScalarMatchArm) (cases : List ScalarMatchCase) (count : Nat) : Bool :=
  let st := scalarMatchSourcePairStep^[1024] { arms := arms, cases := cases, count := 0, ok := true }
  st.ok && st.count = count && st.arms.isEmpty && st.cases.isEmpty

def scalarMatchSourceCasesValid (src : Source) (start stop : Nat) (cases : List ScalarMatchCase) (count : Nat)
    : Bool :=
  let parsed := parseExpr src start true
  if !parsed.ok || parsed.start ≠ start then false
  else
    let atom := leftmostMatchAtom parsed.node
    match atom with
    | .scalarMatch _ arms sourceStart sourceStop =>
        sourceStart = start && sourceStop = stop && scalarMatchSourceArmPairs arms cases count
    | _ => false

structure DuplicateScalarCaseScan where
  rest : List ScalarMatchCase
  payload : Nat
  isDefault : Bool
  target : Nat
  found : Bool

def scalarMatchDuplicateOne (st : DuplicateScalarCaseScan) (case : ScalarMatchCase) (rest : List ScalarMatchCase)
    : DuplicateScalarCaseScan :=
  let payload : Nat := if case.negative then negativePayload case.value else case.value
  let clash : Bool := case.target = st.target || !st.isDefault && !case.isDefault && payload = st.payload
  { st with rest := rest, found := clash }

def scalarMatchDuplicateStep (st : DuplicateScalarCaseScan) : DuplicateScalarCaseScan :=
  if st.found then st
  else
    match st.rest with
    | [] => st
    | case :: rest => scalarMatchDuplicateOne st case rest

def scalarMatchCaseDuplicate (cases : List ScalarMatchCase) (candidate : ScalarMatchCase) : Bool :=
  let payload : Nat := if candidate.negative then negativePayload candidate.value else candidate.value
  let st := scalarMatchDuplicateStep^[1024]
    { rest := cases, payload := payload, isDefault := candidate.isDefault, target := candidate.target
      found := false }
  st.found

structure ScalarSwitchCaseScan where
  rest : List ScalarMatchCase
  function : Function
  source : Nat
  join : Nat
  resultTy : SemType
  before : Nat
  ok : Bool

def verifyScalarSwitchCase (src : Source) (st : ScalarSwitchCaseScan) (case : ScalarMatchCase)
    (rest : List ScalarMatchCase) : ScalarSwitchCaseScan :=
  let target := findBlock st.function.blocks case.target
  let unique : Bool := !scalarMatchCaseDuplicate rest case
  let edgeOk := verifyEdge src st.function st.source case.target case.arguments st.before
  let targetTermOk : Bool := target.found && matchArmJumpsToJoin src st.function target.block st.join st.resultTy
  { st with
    rest := rest
    ok :=
      unique && case.target ≠ st.source && case.target ≠ st.join && case.patternStop > case.patternStart && edgeOk &&
        targetTermOk }

def verifyScalarSwitchCaseStep (src : Source) (st : ScalarSwitchCaseScan) : ScalarSwitchCaseScan :=
  if !st.ok then st
  else
    match st.rest with
    | [] => st
    | case :: rest => verifyScalarSwitchCase src st case rest

def verifyScalarSwitchCases (src : Source) (function : Function) (source join : Nat) (resultTy : SemType)
    (cases : List ScalarMatchCase) (before : Nat) : Bool :=
  let st := (verifyScalarSwitchCaseStep src)^[1024]
    { rest := cases, function := function, source := source, join := join, resultTy := resultTy, before := before
      ok := true }
  st.ok && st.rest.isEmpty

structure ScalarDefaultScan where
  rest : List ScalarMatchCase
  defaultTarget : Nat
  count : Nat
  targetOk : Bool

def scalarSwitchDefaultStep (st : ScalarDefaultScan) : ScalarDefaultScan :=
  match st.rest with
  | [] => st
  | case :: rest =>
      { rest := rest, defaultTarget := st.defaultTarget, count := st.count + (if case.isDefault then 1 else 0)
        targetOk := st.targetOk && (if case.isDefault then case.target = st.defaultTarget else true) }

def scalarSwitchDefaultScan (cases : List ScalarMatchCase) (defaultTarget : Nat) : ScalarDefaultScan :=
  scalarSwitchDefaultStep^[1024]
    { rest := cases, defaultTarget := defaultTarget, count := 0, targetOk := true }

structure ScalarCaseCount where
  rest : List ScalarMatchCase
  count : Nat

def scalarCaseCountStep (st : ScalarCaseCount) : ScalarCaseCount :=
  match st.rest with
  | [] => st
  | _ :: rest => { rest := rest, count := st.count + 1 }

def scalarCaseCount (cases : List ScalarMatchCase) : Nat :=
  let st := scalarCaseCountStep^[1024] { rest := cases, count := 0 }
  st.count

def verifyScalarSwitch (src : Source) (function : Function) (block : SsaBlock) (subject : Nat)
    (subjectTy resultTy : SemType) (start stop armCount defaultTarget join : Nat) (cases : List ScalarMatchCase)
    (before : Nat) : Bool :=
  let subjectValue := findValue function.values subject
  let joinBlock := findBlock function.blocks join
  let sourceOk := scalarMatchSourceCasesValid src start stop cases armCount
  let casesOk := verifyScalarSwitchCases src function block.id join resultTy cases before
  let defaults := scalarSwitchDefaultScan cases defaultTarget
  subjectValue.found && valueAvailable function.values subject block.id before && isIntTy subjectTy &&
    semEq src subjectValue.value.ty subjectTy && supportedValueType src resultTy function.nominals && armCount > 0 &&
    scalarCaseCount cases = armCount && defaults.count = 1 && defaults.targetOk && sourceOk && casesOk &&
    joinBlock.found && matchJoinResultType src joinBlock.block.parameters resultTy

def verifyTerminator (src : Source) (function : Function) (block : SsaBlock) (term : Terminator)
    (instructions : List Instruction) : Bool :=
  let instructionTotal := instructionCount instructions function.valueCount
  match term with
  | .branch condition yes no ya na => verifyBranchTerm src function block.id condition yes no ya na instructionTotal
  | .jump target args => verifyEdge src function block.id target args instructionTotal
  | .finiteSwitch subject subjectTy nominal resultType start stop armCount joinTarget cases =>
      verifyFiniteSwitch src function block subject subjectTy nominal resultType start stop armCount joinTarget cases
        instructionTotal
  | .scalarSwitch subject subjectTy resultType start stop armCount defaultTarget joinTarget cases =>
      verifyScalarSwitch src function block subject subjectTy resultType start stop armCount defaultTarget joinTarget
        cases instructionTotal
  | .ret value => verifyReturnTerm src function block.id value instructionTotal
  | .fail =>
      block.id = function.blockCount - 1 && !block.reachable && !block.hasFailureTarget && block.parameters.isEmpty &&
        instructions.isEmpty && block.loweringOk && block.loweringFailureKind = 0

/-! ## Values, inputs and blocks -/

structure ValueIdCheck where
  rest : List Value
  seen : Nat
  ok : Bool
  count : Nat
  nominals : List NominalTypeIdentity

def valueIdStep (src : Source) (st : ValueIdCheck) : ValueIdCheck :=
  if !st.ok then st
  else
    match st.rest with
    | [] => st
    | h :: t =>
        { st with
          rest := t, seen := st.seen + 1
          ok := h.id = st.count - 1 - st.seen && h.kind < 3 && supportedValueType src h.ty st.nominals }

def verifyValueIds (src : Source) (function : Function) : Bool :=
  if function.valueCount = 0 || function.valueCount > 2048 then false
  else
    (iterate (fun _ (first : ValueIdCheck) =>
          if first.rest.isEmpty then .ret (first.ok && first.seen = first.count)
          else if first.seen ≥ first.count then .ret false
          else .next (valueIdStep src first))
        0 1024
        { rest := function.values, seen := 0, ok := true, count := function.valueCount
          nominals := function.nominals }).after fun first =>
      if first.rest.isEmpty then first.ok && first.seen = first.count
      else
        (iterate (fun _ (second : ValueIdCheck) =>
              if second.rest.isEmpty then .ret (second.ok && second.seen = second.count)
              else if second.seen ≥ second.count then .ret false
              else .next (valueIdStep src second))
            0 1024 first).after fun second =>
          second.ok && second.seen = second.count && second.rest.isEmpty

structure ValueIdLookup where
  rest : List Value
  id : Nat
  found : Bool
  limit : Nat
  seen : Nat

def valueIdLookupStep (st : ValueIdLookup) : ValueIdLookup :=
  if st.found then st
  else
    match st.rest with
    | [] => st
    | h :: t => { st with rest := t, found := h.id = st.id, seen := st.seen + 1 }

def valueIdIn (values : List Value) (id limit : Nat) : Bool :=
  (iterate (fun _ (first : ValueIdLookup) =>
        if first.found || first.rest.isEmpty || first.seen ≥ first.limit then .ret first.found
        else .next (valueIdLookupStep first))
      0 1024 { rest := values, id := id, found := false, limit := limit, seen := 0 }).after fun first =>
    if first.found || first.rest.isEmpty || first.seen ≥ first.limit then first.found
    else
      (iterate (fun _ (second : ValueIdLookup) =>
            if second.found || second.rest.isEmpty || second.seen ≥ second.limit then .ret second.found
            else .next (valueIdLookupStep second))
          0 1024 first).after fun second =>
        second.found

structure InputCheck where
  rest : List Value
  values : List Value
  ok : Bool
  limit : Nat
  seen : Nat

def verifyInputOne (src : Source) (st : InputCheck) (value : Value) (rest : List Value) : InputCheck :=
  let found := findValue st.values value.id
  let same : Bool :=
    found.found && found.value.kind = 0 && found.value.id = value.id && semEq src found.value.ty value.ty
  { st with
    rest := rest
    ok := value.kind = 0 && value.ownerBlock = 0 && value.index = 0 && same && !valueIdIn rest value.id st.limit
    seen := st.seen + 1 }

def verifyInputStep (src : Source) (st : InputCheck) : InputCheck :=
  if !st.ok then st
  else
    match st.rest with
    | [] => st
    | value :: rest => verifyInputOne src st value rest

def verifyInputList (src : Source) (values inputs : List Value) (limit : Nat) : Bool :=
  (iterate (fun _ (st : InputCheck) =>
        if st.rest.isEmpty then .ret st.ok
        else if st.seen ≥ st.limit then .ret false
        else .next (verifyInputStep src st))
      0 1024 { rest := inputs, values := values, ok := true, limit := limit, seen := 0 }).after fun st =>
    st.ok && st.rest.isEmpty

structure ValueKindCount where
  rest : List Value
  kind : Nat
  count : Nat
  limit : Nat
  seen : Nat

def valueKindCountStep (st : ValueKindCount) : ValueKindCount :=
  match st.rest with
  | [] => st
  | value :: rest =>
      { st with rest := rest, count := st.count + (if value.kind = st.kind then 1 else 0), seen := st.seen + 1 }

def valueKindCount (values : List Value) (kind limit : Nat) : Nat :=
  (iterate (fun _ (first : ValueKindCount) =>
        if first.rest.isEmpty then .ret first.count
        else if first.seen ≥ first.limit then .ret (first.limit + 1)
        else .next (valueKindCountStep first))
      0 1024 { rest := values, kind := kind, count := 0, limit := limit, seen := 0 }).after fun first =>
    if first.rest.isEmpty then first.count
    else
      (iterate (fun _ (second : ValueKindCount) =>
            if second.rest.isEmpty then .ret second.count
            else if second.seen ≥ second.limit then .ret (second.limit + 1)
            else .next (valueKindCountStep second))
          0 1024 first).after fun second =>
        if second.rest.isEmpty then second.count else second.limit + 1

def verifyFunctionInputs (src : Source) (function : Function) : Bool :=
  let inputsOk := verifyInputList src function.values function.inputs function.valueCount
  inputsOk && valueCount function.inputs function.valueCount = valueKindCount function.values 0 function.valueCount

structure BlockIdLookup where
  rest : List SsaBlock
  id : Nat
  found : Bool
  limit : Nat
  seen : Nat

def blockIdLookupStep (st : BlockIdLookup) : BlockIdLookup :=
  if st.found then st
  else
    match st.rest with
    | [] => st
    | block :: rest => { st with rest := rest, found := block.id = st.id, seen := st.seen + 1 }

def blockIdIn (blocks : List SsaBlock) (id limit : Nat) : Bool :=
  (iterate (fun _ (st : BlockIdLookup) =>
        if st.found || st.rest.isEmpty || st.seen ≥ st.limit then .ret st.found
        else .next (blockIdLookupStep st))
      0 1024 { rest := blocks, id := id, found := false, limit := limit, seen := 0 }).after fun st =>
    st.found

structure BlockIdCheck where
  rest : List SsaBlock
  total : Nat
  seen : Nat
  ok : Bool

def verifyBlockIdStep (st : BlockIdCheck) : BlockIdCheck :=
  if !st.ok then st
  else
    match st.rest with
    | [] => st
    | block :: rest =>
        { rest := rest, total := st.total, seen := st.seen + 1
          ok := block.id < st.total && !blockIdIn rest block.id st.total }

def verifyBlockIds (blocks : List SsaBlock) (expected : Nat) : Bool :=
  (iterate (fun _ (st : BlockIdCheck) =>
        if !st.ok then .ret false
        else if st.rest.isEmpty then .ret (st.seen = expected)
        else if st.seen ≥ expected then .ret false
        else .next (verifyBlockIdStep st))
      0 1024 { rest := blocks, total := expected, seen := 0, ok := true }).after fun st =>
    st.ok && st.seen = expected && st.rest.isEmpty

def predecessorOrZero (value : Nat) : Nat := if value = 0 then 0 else value - 1

structure ParameterCheck where
  rest : List Value
  function : Function
  block : Nat
  index : Nat
  ok : Bool

def parameterIsDefined (src : Source) (st : ParameterCheck) (value : Value) (rest : List Value) : ParameterCheck :=
  let found := findValue st.function.values value.id
  let same : Bool :=
    found.found && found.value.kind = value.kind && found.value.ownerBlock = value.ownerBlock &&
      found.value.index = value.index && semEq src found.value.ty value.ty
  let nextIndex := predecessorOrZero st.index
  { st with
    rest := rest, index := nextIndex
    ok := value.kind = 1 && value.ownerBlock = st.block && value.index = st.index && same }

def verifyParameterStep (src : Source) (st : ParameterCheck) : ParameterCheck :=
  if !st.ok then st
  else
    match st.rest with
    | [] => st
    | v :: t => parameterIsDefined src st v t

def verifyParameters (src : Source) (function : Function) (blockId : Nat) (params : List Value) : Bool :=
  let lastIndex := valueCount params function.valueCount
  let firstIndex := predecessorOrZero lastIndex
  if lastIndex > function.valueCount then false
  else
    (iterate (fun i (st : ParameterCheck) =>
          if !st.ok then .ret false
          else if st.rest.isEmpty then .ret true
          else if i ≥ function.valueCount then .ret false
          else .next (verifyParameterStep src st))
        0 1024 { rest := params, function := function, block := blockId, index := firstIndex
                 ok := true }).after fun st =>
      st.ok && st.rest.isEmpty

structure InstructionCheck where
  rest : List Instruction
  function : Function
  block : Nat
  ok : Bool
  sequence : Nat

def verifyInstructionStep (src : Source) (st : InstructionCheck) : InstructionCheck :=
  if !st.ok then st
  else
    match st.rest with
    | [] => st
    | inst :: rest =>
        { st with
          rest := rest, ok := verifyInstruction src st.function st.block inst st.sequence
          sequence := st.sequence + 1 }

def verifyInstructions (src : Source) (function : Function) (block : SsaBlock) (instructions : List Instruction)
    : Bool :=
  (iterate (fun i (st : InstructionCheck) =>
        if !st.ok then .ret false
        else if st.rest.isEmpty then .ret true
        else if i ≥ function.valueCount then .ret false
        else .next (verifyInstructionStep src st))
      0 1024 { rest := instructions, function := function, block := block.id, ok := true
               sequence := 0 }).after fun st =>
    st.ok && st.rest.isEmpty

def verifyFailureTarget (function : Function) (block : SsaBlock) : Bool :=
  let failureId : Nat := function.blockCount - 1
  if block.id = failureId then
    !block.hasFailureTarget && !block.reachable && block.parameters.isEmpty && block.instructions.isEmpty &&
      block.loweringOk && block.loweringFailureKind = 0
  else block.hasFailureTarget && block.failureTarget = failureId

def verifyOneBlock (src : Source) (function : Function) (block : SsaBlock) : Bool :=
  let paramsOk := verifyParameters src function block.id block.parameters
  let instructionsOk := verifyInstructions src function block block.instructions
  let termOk := verifyTerminator src function block block.terminator block.instructions
  block.loweringOk && paramsOk && instructionsOk && termOk && verifyFailureTarget function block

structure BlockCheck where
  rest : List SsaBlock
  function : Function
  ok : Bool
  count : Nat

def verifyBlockStep (src : Source) (st : BlockCheck) : BlockCheck :=
  if !st.ok then st
  else
    match st.rest with
    | [] => st
    | block :: rest =>
        { rest := rest, function := st.function, ok := verifyOneBlock src st.function block, count := st.count + 1 }

def verifyBlocks (src : Source) (function : Function) (blocks : List SsaBlock) : Bool :=
  (iterate (fun _ (st : BlockCheck) =>
        if !st.ok then .ret false
        else if st.rest.isEmpty then .ret (st.count = function.blockCount &&
            verifyBlockIds blocks function.blockCount)
        else if st.count ≥ function.blockCount then .ret false
        else .next (verifyBlockStep src st))
      0 1024 { rest := blocks, function := function, ok := true, count := 0 }).after fun st =>
    st.ok && st.rest.isEmpty && st.count = function.blockCount && verifyBlockIds blocks function.blockCount

structure DefinitionCountScan where
  rest : List SsaBlock
  parameters : Nat
  instructions : Nat
  valueLimit : Nat

def definitionCountsMatch (function : Function) (st : DefinitionCountScan) : Bool :=
  st.parameters = valueKindCount function.values 1 function.valueCount &&
    st.instructions = valueKindCount function.values 2 function.valueCount

def definitionCountStep (st : DefinitionCountScan) : DefinitionCountScan :=
  match st.rest with
  | [] => st
  | block :: rest =>
      { rest := rest, parameters := st.parameters + valueCount block.parameters st.valueLimit
        instructions := st.instructions + instructionCount block.instructions st.valueLimit
        valueLimit := st.valueLimit }

def verifyDefinitionCounts (function : Function) : Bool :=
  (iterate (fun i (st : DefinitionCountScan) =>
        if st.rest.isEmpty then .ret (definitionCountsMatch function st)
        else if i ≥ function.blockCount then .ret false
        else .next (definitionCountStep st))
      0 1024 { rest := function.blocks, parameters := 0, instructions := 0
               valueLimit := function.valueCount }).after fun st =>
    st.rest.isEmpty && definitionCountsMatch function st

/-! ## Functions -/

def verifyFunctionBase (src : Source) (function : Function) : Bool :=
  if validatePages src.pages src.stride src.total ≠ 0 then false
  else if !function.identity.valid || function.identity.len = 0 || !function.supported ||
         !supportedValueType src function.resultType function.nominals || function.blockCount = 0 ||
         function.blockCount > 1024 || function.valueCount = 0 || function.valueCount > 2048 then false
  else if !verifyValueIds src function || !verifyFunctionInputs src function then false
  else if !verifyBlocks src function function.blocks || !verifyDefinitionCounts function then false else true

end MncsCompiler.Ssa
