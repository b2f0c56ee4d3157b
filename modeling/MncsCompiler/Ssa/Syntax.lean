import MncsCompiler.Decl.Types

/-!
# `Ssa.Syntax` — functions in value SSA form

The value SSA form of `ssa.mncs`: values, instructions, blocks with parameters and the terminators that pass arguments
to them, and the bounded lookups that the verifier uses. Lists of values are newest first.
-/

namespace MncsCompiler.Ssa

open BoundedLoop Decl

/-! ## Values and blocks -/

/-- Kind 0 is an input of the function, kind 1 a parameter of the block `owner_block` and kind 2 the result of the
    instruction `index` of that block. -/
structure Value where
  id : Nat
  ty : SemType
  ownerBlock : Nat
  kind : Nat
  index : Nat
  deriving DecidableEq, Repr

structure Id where
  value : Nat
  deriving DecidableEq, Repr

structure Binding where
  nameStart : Nat
  nameStop : Nat
  value : Nat
  ty : SemType
  deriving DecidableEq, Repr

structure FiniteMatchCase where
  variantStart : Nat
  variantStop : Nat
  target : Nat
  arguments : List Id
  deriving DecidableEq, Repr

structure ScalarMatchCase where
  isDefault : Bool
  negative : Bool
  value : Nat
  overflow : Bool
  patternStart : Nat
  patternStop : Nat
  target : Nat
  arguments : List Id
  deriving DecidableEq, Repr

/-- The kinds are 0 integer, 1 boolean, 2 binary, 3 call, 4 not, 5 enum construction, 6 payload of a match, 7 repeat,
    8 projection. -/
structure Instruction where
  id : Nat
  sequence : Nat
  kind : Nat
  op : Nat
  result : Nat
  ty : SemType
  inputs : List Id
  argc : Nat
  params : List Bind
  identity : SemanticIdentity
  nominalIdentity : SemanticIdentity
  variantStart : Nat
  variantStop : Nat
  bindingStart : Nat
  bindingStop : Nat
  effects : List EffectIdentity
  capabilities : List CapabilityIdentity
  start : Nat
  stop : Nat
  deriving DecidableEq, Repr

inductive Terminator where
  | branch (condition yes no : Nat) (yesArgs noArgs : List Id)
  | jump (target : Nat) (arguments : List Id)
  | ret (value : Nat)
  | fail
  | finiteSwitch (subject : Nat) (subjectTy : SemType) (nominalIdentity : SemanticIdentity) (resultType : SemType)
      (sourceStart sourceStop armCount joinTarget : Nat) (cases : List FiniteMatchCase)
  | scalarSwitch (subject : Nat) (subjectTy resultType : SemType)
      (sourceStart sourceStop armCount defaultTarget joinTarget : Nat) (cases : List ScalarMatchCase)
  deriving DecidableEq, Repr

structure SsaBlock where
  id : Nat
  parameters : List Value
  parameterBindings : List Binding
  instructions : List Instruction
  terminator : Terminator
  reachable : Bool
  hasFailureTarget : Bool
  failureTarget : Nat
  loweringOk : Bool
  loweringFailureKind : Nat
  deriving DecidableEq, Repr

structure Function where
  identity : SemanticIdentity
  nominals : List NominalTypeIdentity
  importedRecords : List ImportedRecordSchema
  importedEnums : List ImportedEnumSchema
  inputs : List Value
  resultType : SemType
  blocks : List SsaBlock
  blockCount : Nat
  values : List Value
  valueCount : Nat
  supported : Bool
  verified : Bool
  deriving DecidableEq, Repr

/-! ## Lookups -/

structure ValueScan where
  rest : List Value
  id : Nat
  found : Bool
  value : Value

def valueScanStep (st : ValueScan) : ValueScan :=
  if st.found then st
  else
    match st.rest with
    | [] => st
    | h :: t => { rest := t, id := st.id, found := h.id = st.id, value := h }

structure LookupValue where
  found : Bool
  value : Value

def findValue (values : List Value) (id : Nat) : LookupValue :=
  let first := valueScanStep^[1024]
    { rest := values, id := id, found := false
      value := { id := 0, ty := .tPoison, ownerBlock := 0, kind := 0, index := 0 } }
  if first.found || first.rest.isEmpty then { found := first.found, value := first.value }
  else
    let second := valueScanStep^[1024] first
    { found := second.found, value := second.value }

structure ValueCountScan where
  rest : List Value
  count : Nat
  limit : Nat

def valueCountStep (st : ValueCountScan) : ValueCountScan :=
  match st.rest with
  | [] => st
  | _ :: t => { st with rest := t, count := st.count + 1 }

def valueCount (values : List Value) (limit : Nat) : Nat :=
  (iterate (fun _ (first : ValueCountScan) =>
        if first.rest.isEmpty then .ret first.count
        else if first.count ≥ first.limit then .ret (first.limit + 1)
        else .next (valueCountStep first))
      0 1024 { rest := values, count := 0, limit := limit }).after fun first =>
    if first.rest.isEmpty then first.count
    else
      (iterate (fun _ (second : ValueCountScan) =>
            if second.rest.isEmpty then .ret second.count
            else if second.count ≥ second.limit then .ret (second.limit + 1)
            else .next (valueCountStep second))
          0 1024 first).after fun second =>
        if second.rest.isEmpty then second.count else second.limit + 1

structure IdCount where
  rest : List Id
  count : Nat

def idCountStep (st : IdCount) : IdCount :=
  match st.rest with
  | [] => st
  | _ :: t => { rest := t, count := st.count + 1 }

def idCount (ids : List Id) : Nat :=
  let st := idCountStep^[1024] { rest := ids, count := 0 }
  st.count

structure InstructionCount where
  rest : List Instruction
  count : Nat
  limit : Nat

def instructionCountStep (st : InstructionCount) : InstructionCount :=
  match st.rest with
  | [] => st
  | _ :: t => { st with rest := t, count := st.count + 1 }

def instructionCount (instructions : List Instruction) (limit : Nat) : Nat :=
  (iterate (fun _ (first : InstructionCount) =>
        if first.rest.isEmpty then .ret first.count
        else if first.count ≥ first.limit then .ret (first.limit + 1)
        else .next (instructionCountStep first))
      0 1024 { rest := instructions, count := 0, limit := limit }).after fun first =>
    if first.rest.isEmpty then first.count
    else
      (iterate (fun _ (second : InstructionCount) =>
            if second.rest.isEmpty then .ret second.count
            else if second.count ≥ second.limit then .ret (second.limit + 1)
            else .next (instructionCountStep second))
          0 1024 first).after fun second =>
        if second.rest.isEmpty then second.count else second.limit + 1

structure BlockScan where
  rest : List SsaBlock
  id : Nat
  found : Bool
  block : SsaBlock

def blockScanStep (st : BlockScan) : BlockScan :=
  if st.found then st
  else
    match st.rest with
    | [] => st
    | h :: t => { rest := t, id := st.id, found := h.id = st.id, block := h }

structure BlockLookup where
  found : Bool
  block : SsaBlock

def findBlock (blocks : List SsaBlock) (id : Nat) : BlockLookup :=
  let st := blockScanStep^[1024]
    { rest := blocks, id := id, found := false
      block :=
        { id := 0, parameters := [], parameterBindings := [], instructions := [], terminator := .fail
          reachable := false
          hasFailureTarget := false, failureTarget := 0, loweringOk := false, loweringFailureKind := 0 } }
  { found := st.found, block := st.block }

structure BindingScan where
  rest : List Binding
  start : Nat
  stop : Nat
  found : Bool
  binding : Binding

def bindingScanCons (src : Source) (st : BindingScan) (h : Binding) (t : List Binding) : BindingScan :=
  if spansEqual src h.nameStart h.nameStop st.start st.stop then { st with rest := [], found := true, binding := h }
  else { st with rest := t }

def bindingScanStep (src : Source) (st : BindingScan) : BindingScan :=
  if st.found then st
  else
    match st.rest with
    | [] => st
    | h :: t => bindingScanCons src st h t

structure BindingLookup where
  found : Bool
  binding : Binding

def lookupBinding (src : Source) (env : List Binding) (start stop : Nat) : BindingLookup :=
  let st := (bindingScanStep src)^[1024]
    { rest := env, start := start, stop := stop, found := false
      binding := { nameStart := 0, nameStop := 0, value := 0, ty := .tPoison } }
  { found := st.found, binding := st.binding }

def valueAvailable (values : List Value) (id block before : Nat) : Bool :=
  let found := findValue values id
  if !found.found then false
  else
    let value := found.value
    value.kind = 0 || value.ownerBlock = block && (value.kind = 1 || value.kind = 2 && value.index < before)

structure AvailableCheck where
  rest : List Id
  values : List Value
  block : Nat
  before : Nat
  ok : Bool

def availableOne (st : AvailableCheck) (id : Id) (rest : List Id) : AvailableCheck :=
  let found := findValue st.values id.value
  if !found.found then { st with rest := rest, ok := false }
  else
    let value := found.value
    let available : Bool :=
      value.kind = 0 || value.ownerBlock = st.block && (value.kind = 1 || value.kind = 2 && value.index < st.before)
    { st with rest := rest, ok := available }

def availableStep (st : AvailableCheck) : AvailableCheck :=
  if !st.ok then st
  else
    match st.rest with
    | [] => st
    | id :: rest => availableOne st id rest

def availableValues (values : List Value) (ids : List Id) (block before : Nat) : Bool :=
  let st := availableStep^[1024] { rest := ids, values := values, block := block, before := before, ok := true }
  st.ok && st.rest.isEmpty

/-! ## Supported types -/

def scalarType (ty : SemType) : Bool :=
  match ty with
  | .tBool => true
  | .tByte => true
  | .tInt _ _ => true
  | _ => false

def nominalValueTypeBound (src : Source) (nominals : List NominalTypeIdentity) (start stop : Nat) : Bool :=
  let imported := nominalIdentityAt nominals start stop
  let isLocal := nominalIdentityByName src nominals start stop
  imported.found && imported.identity.valid || isLocal.found && isLocal.identity.valid

structure SequenceElementSupport where
  ty : SemType
  done : Bool
  supported : Bool

def sequenceElementSupportStep (src : Source) (nominals : List NominalTypeIdentity) (st : SequenceElementSupport)
    : SequenceElementSupport :=
  if st.done then st
  else
    match st.ty with
    | .tNamed a b => { st with done := true, supported := nominalValueTypeBound src nominals a b }
    | .tSeqExact element _ _ => { st with ty := element }
    | .tSeq => { st with done := true, supported := false }
    | .tPoison => { st with done := true, supported := false }
    | _ => { st with done := true, supported := true }

def supportedSequenceElement (src : Source) (ty : SemType) (nominals : List NominalTypeIdentity) : Bool :=
  let initial : SequenceElementSupport := { ty := ty, done := false, supported := false }
  let st := (sequenceElementSupportStep src nominals)^[32] initial
  st.done && st.supported

def supportedValueType (src : Source) (ty : SemType) (nominals : List NominalTypeIdentity) : Bool :=
  match ty with
  | .tNamed a b => nominalValueTypeBound src nominals a b
  | .tSeq => false
  | .tSeqExact element _ _ => supportedSequenceElement src element nominals
  | .tPoison => false
  | _ => true

def sequenceValueType (ty : SemType) : Bool :=
  match ty with
  | .tSeq => true
  | .tSeqExact _ _ _ => true
  | _ => false

def isNamedType (ty : SemType) : Bool :=
  match ty with
  | .tNamed _ _ => true
  | _ => false

end MncsCompiler.Ssa
