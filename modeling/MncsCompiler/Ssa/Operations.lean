import MncsCompiler.Decl.Typed
import MncsCompiler.Ssa.Environments

/-!
# `Ssa.Operations` — lowering of one operation inside a block

The operations of `lower_arm_operation`, the part of `lower_operation` in `ssa.mncs` that stays in the block at hand.
An operation takes its operands from the stack of pending values, and either appends an instruction whose result it
pushes (`ExprBuild.emit`), or pushes the value of a name, or gives up.
-/

namespace MncsCompiler.Ssa

open BoundedLoop Decl

structure ExprBuild where
  rest : List TOp
  env : List Binding
  stack : List Value
  instructions : List Instruction
  values : List Value
  nextValue : Nat
  nextInstruction : Nat
  sequence : Nat
  block : Nat
  parameters : List Value
  generatedBlocks : List SsaBlock
  nextBlockId : Nat
  nominals : List NominalTypeIdentity
  ok : Bool
  failureOp : Nat

namespace ExprBuild

/-- The operation has failed. -/
def fail (st : ExprBuild) (rest : List TOp) : ExprBuild := { st with rest := rest, ok := false }

/-- The operation has failed, and names its kind unless one before it has. -/
def failWith (st : ExprBuild) (rest : List TOp) (op : Nat) : ExprBuild :=
  { st with rest := rest, ok := false, failureOp := if st.failureOp > 0 then st.failureOp else op }

/-- The next instruction of the block, without identities, variant and binding. -/
def instruction (st : ExprBuild) (kind op : Nat) (ty : SemType) (inputs : List Id) (argc : Nat) (params : List Bind)
    (start stop : Nat) : Instruction :=
  { id := st.nextInstruction, sequence := st.sequence, kind := kind, op := op, result := st.nextValue, ty := ty
    inputs := inputs, argc := argc, params := params, identity := invalidIdentity, nominalIdentity := invalidIdentity
    variantStart := 0, variantStop := 0, bindingStart := 0, bindingStop := 0, effects := [], capabilities := []
    start := start, stop := stop }

/-- Appends an instruction and pushes its result on what is left of the stack. -/
def emit (st : ExprBuild) (rest : List TOp) (remaining : List Value) (inst : Instruction) (ok : Bool)
    (failureOp : Nat) : ExprBuild :=
  let value : Value := { id := st.nextValue, ty := inst.ty, ownerBlock := st.block, kind := 2, index := st.sequence }
  { rest := rest, env := st.env, stack := value :: remaining, instructions := inst :: st.instructions
    values := value :: st.values, nextValue := st.nextValue + 1, nextInstruction := st.nextInstruction + 1
    sequence := st.sequence + 1, block := st.block, parameters := st.parameters
    generatedBlocks := st.generatedBlocks, nextBlockId := st.nextBlockId, nominals := st.nominals
    ok := st.ok && ok, failureOp := failureOp }

/-- `emit` of an instruction that is there even when it is not valid. -/
def emitChecked (st : ExprBuild) (rest : List TOp) (remaining : List Value) (inst : Instruction) (valid : Bool)
    (op : Nat) : ExprBuild :=
  st.emit rest remaining inst valid (if st.failureOp > 0 then st.failureOp else if valid then 0 else op)

end ExprBuild

/-! ## Operands -/

structure PopArgs where
  stack : List Value
  remaining : Nat
  arguments : List Id
  ok : Bool

def popCallArg (st : PopArgs) : PopArgs :=
  if !st.ok || st.remaining = 0 then st
  else
    match st.stack with
    | [] => { st with ok := false }
    | value :: rest =>
        { stack := rest, remaining := st.remaining - 1, arguments := { value := value.id } :: st.arguments, ok := true }

def popArguments (stack : List Value) (count : Nat) : PopArgs :=
  popCallArg^[1024] { stack := stack, remaining := count, arguments := [], ok := true }

/-! ## Constants, names and operators -/

def booleanValue (value : Bool) : Nat := if value then 1 else 0

def emitConstant (st : ExprBuild) (rest : List TOp) (kind integer : Nat) (boolean : Bool) (ty : SemType)
    (start stop : Nat) : ExprBuild :=
  let payload := if kind = 0 then integer else booleanValue boolean
  st.emit rest st.stack (st.instruction kind payload ty [] 0 [] start stop) (scalarType ty) st.failureOp

def lowerName (src : Source) (st : ExprBuild) (rest : List TOp) (ty : SemType) (start stop : Nat) : ExprBuild :=
  let found := lookupBinding src st.env start stop
  if !found.found || !semEq src found.binding.ty ty then st.fail rest
  else
    { st with
      rest := rest
      stack := { id := found.binding.value, ty := found.binding.ty, ownerBlock := 0, kind := 3, index := 0 } :: st.stack }

def emitNot (src : Source) (st : ExprBuild) (rest : List TOp) (ty : SemType) (start stop : Nat) (operand : Value)
    (remaining : List Value) : ExprBuild :=
  let valid := semEq src operand.ty .tBool
  st.emit rest remaining (st.instruction 4 0 ty [{ value := operand.id }] 1 [] start stop)
    (valid && semEq src ty .tBool) st.failureOp

def lowerNot (src : Source) (st : ExprBuild) (rest : List TOp) (ty : SemType) (start stop : Nat) : ExprBuild :=
  match st.stack with
  | [] => st.fail rest
  | operand :: remaining => emitNot src st rest ty start stop operand remaining

def emitBinary (src : Source) (st : ExprBuild) (rest : List TOp) (op : Nat) (ty : SemType) (start stop : Nat)
    (right left : Value) (tail : List Value) : ExprBuild :=
  st.emit rest tail (st.instruction 2 op ty [{ value := left.id }, { value := right.id }] 2 [] start stop)
    (scalarType left.ty && semEq src left.ty right.ty && scalarType ty) st.failureOp

def lowerBinary (src : Source) (st : ExprBuild) (rest : List TOp) (op : Nat) (ty : SemType) (start stop : Nat)
    : ExprBuild :=
  match st.stack with
  | [] => st.fail rest
  | right :: lefts =>
      match lefts with
      | [] => st.fail rest
      | left :: tail => emitBinary src st rest op ty start stop right left tail

def emitRepeat (src : Source) (st : ExprBuild) (rest : List TOp) (ty elementTy : SemType) (count start stop : Nat)
    (element : Value) (remaining : List Value) : ExprBuild :=
  let typeOk : Bool :=
    match ty with
    | .tSeqExact resultElement length valid => valid && length = count && semEq src resultElement elementTy
    | _ => false
  let sourceOk := repeatSourceCountMatches src start stop count
  if !typeOk || !sourceOk || !semEq src element.ty elementTy || !supportedValueType src ty st.nominals then
    st.failWith rest 1
  else
    st.emit rest remaining (st.instruction 7 count ty [{ value := element.id }] 1 [] start stop) true st.failureOp

def lowerRepeat (src : Source) (st : ExprBuild) (rest : List TOp) (ty elementTy : SemType) (count start stop : Nat)
    : ExprBuild :=
  match st.stack with
  | [] => st.failWith rest 1
  | element :: remaining => emitRepeat src st rest ty elementTy count start stop element remaining

/-! ## Enums and records -/

/-- The popped arguments are the fields that the operation names. -/
def fieldShapeOk (popped : PopArgs) (params : List Bind) (fieldCount : Nat) : Bool :=
  popped.ok && popped.remaining = 0 && idCount popped.arguments = fieldCount && bindCount params = fieldCount

def lowerEnumConstruct (src : Source) (st : ExprBuild) (rest : List TOp) (ty : SemType)
    (variantStart variantStop fieldCount : Nat) (params : List Bind) (start stop : Nat) : ExprBuild :=
  let popped := popArguments st.stack fieldCount
  let nominal := nominalIdentityForType src st.nominals ty
  let shapeOk := fieldShapeOk popped params fieldCount
  let fieldsOk :=
    callArgumentTypesMatch src st.values popped.arguments params &&
      enumConstructSourceValid src ty st.nominals variantStart variantStop params start stop
  if !shapeOk || !fieldsOk || !nominal.valid then st.failWith rest 5
  else
    let inst : Instruction :=
      { st.instruction 5 0 ty popped.arguments fieldCount params start stop with
        nominalIdentity := nominal, variantStart := variantStart, variantStop := variantStop }
    st.emit rest popped.stack inst (supportedValueType src ty st.nominals) st.failureOp

def emitRecordUpdate (src : Source) (st : ExprBuild) (rest : List TOp) (ty : SemType)
    (typeStart typeStop fieldCount : Nat) (params : List Bind) (start stop : Nat) (popped : PopArgs) (base : Value)
    (remaining : List Value) : ExprBuild :=
  let nominal := nominalIdentityForType src st.nominals ty
  let shapeOk := fieldShapeOk popped params fieldCount
  let fieldsOk :=
    callArgumentTypesMatch src st.values popped.arguments params &&
      recordConstructSourceValidBase src ty typeStart typeStop true params start stop
  let valid :=
    shapeOk && fieldsOk && nominal.valid && isNamedType base.ty && semEq src base.ty ty &&
      supportedValueType src ty st.nominals
  let inst : Instruction :=
    { st.instruction 16 1 ty ({ value := base.id } :: popped.arguments) (fieldCount + 1) params start stop with
      nominalIdentity := nominal, bindingStart := typeStart, bindingStop := typeStop }
  st.emitChecked rest remaining inst valid 10

def lowerRecordUpdate (src : Source) (st : ExprBuild) (rest : List TOp) (ty : SemType)
    (typeStart typeStop fieldCount : Nat) (params : List Bind) (start stop : Nat) (popped : PopArgs) : ExprBuild :=
  match popped.stack with
  | [] => st.failWith rest 10
  | base :: remaining =>
      emitRecordUpdate src st rest ty typeStart typeStop fieldCount params start stop popped base remaining

def lowerRecordConstruct (src : Source) (st : ExprBuild) (rest : List TOp) (ty : SemType) (typeStart typeStop : Nat)
    (hasBase : Bool) (fieldCount : Nat) (params : List Bind) (start stop : Nat) : ExprBuild :=
  let popped := popArguments st.stack fieldCount
  if hasBase then lowerRecordUpdate src st rest ty typeStart typeStop fieldCount params start stop popped
  else
    let nominal := nominalIdentityForType src st.nominals ty
    let shapeOk := fieldShapeOk popped params fieldCount
    let fieldsOk :=
      callArgumentTypesMatch src st.values popped.arguments params &&
        recordConstructSourceValid src ty typeStart typeStop params start stop
    if !shapeOk || !fieldsOk || !nominal.valid then st.failWith rest 10
    else
      let inst : Instruction :=
        { st.instruction 16 0 ty popped.arguments fieldCount params start stop with
          nominalIdentity := nominal, bindingStart := typeStart, bindingStop := typeStop }
      st.emit rest popped.stack inst (supportedValueType src ty st.nominals) st.failureOp

/-! ## Projections -/

def emitSequenceLength (src : Source) (st : ExprBuild) (rest : List TOp) (ty : SemType)
    (fstart fend fieldIndex start stop : Nat) (base : Value) (remaining : List Value) : ExprBuild :=
  let inst : Instruction :=
    { st.instruction 10 0 ty [{ value := base.id }] 1 [] start stop with bindingStart := fstart, bindingStop := fend }
  let valid : Bool :=
    fieldIndex = 1024 && isU64Ty ty && fend > fstart && spanIsLen src fstart fend &&
      sequenceLengthSourceValid src start stop fstart fend && supportedValueType src base.ty st.nominals
  st.emitChecked rest remaining inst valid 3

def emitProject (src : Source) (st : ExprBuild) (rest : List TOp) (ty : SemType)
    (fstart fend fieldIndex start stop : Nat) (base : Value) (remaining : List Value) : ExprBuild :=
  let nominal := nominalIdentityForType src st.nominals base.ty
  let inst : Instruction :=
    { st.instruction 8 fieldIndex ty [{ value := base.id }] 1 [] start stop with
      nominalIdentity := nominal, bindingStart := fstart, bindingStop := fend }
  let valid : Bool := isNamedType base.ty && nominal.valid && fend > fstart && supportedValueType src ty st.nominals
  st.emitChecked rest remaining inst valid 3

def lowerProject (src : Source) (st : ExprBuild) (rest : List TOp) (ty : SemType)
    (fstart fend fieldIndex start stop : Nat) : ExprBuild :=
  match st.stack with
  | [] => st.failWith rest 3
  | base :: remaining =>
      if sequenceValueType base.ty then
        emitSequenceLength src st rest ty fstart fend fieldIndex start stop base remaining
      else emitProject src st rest ty fstart fend fieldIndex start stop base remaining

/-! ## Host operations and calls -/

def lowerSelectOp (src : Source) (st : ExprBuild) (rest : List TOp) (ty : SemType) (argc : Nat) (arguments : List Id)
    (remaining : List Value) (ns ne : Nat) (identity : SemanticIdentity) (start stop : Nat) : ExprBuild :=
  let expected := canonicalOperationIdentity src ns ne
  let sourceOk := Decl.opSourceValid src 8 ty ns ne argc start stop
  let inputsOk := selectInputsValid src st.values arguments ty st.nominals
  let valid : Bool :=
    argc = 3 && sourceOk && inputsOk && semanticIdentityEqual identity expected &&
      supportedValueType src ty st.nominals
  let inst : Instruction :=
    { st.instruction 9 8 ty arguments argc [] start stop with
      identity := identity, bindingStart := ns, bindingStop := ne }
  st.emitChecked rest remaining inst valid 3

def emitSequenceView (src : Source) (st : ExprBuild) (rest : List TOp) (ty : SemType) (argc : Nat)
    (base startIndex endIndex : Id) (trailing : List Id) (remaining : List Value) (ns ne : Nat)
    (identity : SemanticIdentity) (start stop : Nat) : ExprBuild :=
  let baseValue := findValue st.values base.value
  let startValue := findValue st.values startIndex.value
  let endValue := findValue st.values endIndex.value
  let expected := canonicalOperationIdentity src ns ne
  let viewTy := sequenceViewType baseValue.value.ty
  let sourceOk : Bool := ns = start && ne = stop && Decl.opSourceValid src 9 ty ns ne argc start stop
  let valid : Bool :=
    argc = 3 && trailing.isEmpty && baseValue.found && startValue.found && endValue.found &&
      sequenceValueType baseValue.value.ty && isU64Ty startValue.value.ty && isU64Ty endValue.value.ty &&
      semEq src viewTy ty && supportedValueType src baseValue.value.ty st.nominals &&
      supportedValueType src ty st.nominals && identity.valid && semanticIdentityEqual expected identity && sourceOk
  let inst : Instruction :=
    { st.instruction 17 9 ty [base, startIndex, endIndex] 3 [] start stop with
      identity := identity, bindingStart := ns, bindingStop := ne }
  st.emitChecked rest remaining inst valid 3

def lowerSequenceViewOp (src : Source) (st : ExprBuild) (rest : List TOp) (ty : SemType) (argc : Nat)
    (arguments : List Id) (remaining : List Value) (ns ne : Nat) (identity : SemanticIdentity) (start stop : Nat)
    : ExprBuild :=
  match arguments with
  | base :: startIndex :: endIndex :: trailing =>
      emitSequenceView src st rest ty argc base startIndex endIndex trailing remaining ns ne identity start stop
  | _ => st.failWith rest 3

def emitSequenceIndex (src : Source) (st : ExprBuild) (rest : List TOp) (ty : SemType) (ns ne : Nat)
    (identity : SemanticIdentity) (start stop : Nat) (base index : Value) (remaining : List Value) : ExprBuild :=
  let element := sequenceSemElement base.ty
  let expected := canonicalOperationIdentity src ns ne
  let sourceOk : Bool := ns = start && ne = stop && Decl.opSourceValid src 6 ty ns ne 2 start stop
  let valid : Bool :=
    sequenceValueType base.ty && !isPoison element && isU64Ty index.ty && semEq src element ty &&
      supportedValueType src base.ty st.nominals && supportedValueType src ty st.nominals &&
      semanticIdentityEqual identity expected && sourceOk
  let inst : Instruction :=
    { st.instruction 11 6 ty [{ value := base.id }, { value := index.id }] 2 [] start stop with
      identity := identity, bindingStart := ns, bindingStop := ne }
  st.emitChecked rest remaining inst valid 3

def lowerSequenceIndex (src : Source) (st : ExprBuild) (rest : List TOp) (ty : SemType) (ns ne : Nat)
    (identity : SemanticIdentity) (start stop : Nat) : ExprBuild :=
  match st.stack with
  | index :: base :: remaining => emitSequenceIndex src st rest ty ns ne identity start stop base index remaining
  | _ => st.failWith rest 3

def emitScalarCast (src : Source) (st : ExprBuild) (rest : List TOp) (ty : SemType) (ns ne : Nat)
    (identity : SemanticIdentity) (start stop : Nat) (source : Value) (remaining : List Value) : ExprBuild :=
  let expected := canonicalOperationIdentity src ns ne
  let sourceOk : Bool := ns = start && ne = stop && Decl.opSourceValid src 7 ty ns ne 1 start stop
  let valid : Bool :=
    castSourceOk source.ty && castTargetOk ty && supportedValueType src source.ty st.nominals &&
      supportedValueType src ty st.nominals && semanticIdentityEqual identity expected && sourceOk
  let inst : Instruction :=
    { st.instruction 12 7 ty [{ value := source.id }] 1 [] start stop with
      identity := identity, bindingStart := ns, bindingStop := ne }
  st.emitChecked rest remaining inst valid 3

def lowerScalarCast (src : Source) (st : ExprBuild) (rest : List TOp) (ty : SemType) (ns ne : Nat)
    (identity : SemanticIdentity) (start stop : Nat) : ExprBuild :=
  match st.stack with
  | [] => st.failWith rest 3
  | source :: remaining => emitScalarCast src st rest ty ns ne identity start stop source remaining

def lowerTopOp (src : Source) (st : ExprBuild) (rest : List TOp) (ty : SemType) (slot argc ns ne : Nat)
    (identity : SemanticIdentity) (start stop : Nat) : ExprBuild :=
  let popped := popArguments st.stack argc
  if !popped.ok || popped.remaining ≠ 0 || argc ≠ opArity slot || !identity.valid then st.fail rest
  else if slot = 6 then lowerSequenceIndex src st rest ty ns ne identity start stop
  else if slot = 7 then lowerScalarCast src st rest ty ns ne identity start stop
  else if slot = 8 then
    lowerSelectOp src st rest ty argc popped.arguments popped.stack ns ne identity start stop
  else if slot = 9 then
    lowerSequenceViewOp src st rest ty argc popped.arguments popped.stack ns ne identity start stop
  else if slot > 4 then st.fail rest
  else
    let inst : Instruction :=
      { st.instruction 9 slot ty popped.arguments argc [] start stop with
        identity := identity, bindingStart := ns, bindingStop := ne }
    st.emit rest popped.stack inst (supportedValueType src ty st.nominals) st.failureOp

def lowerCall (src : Source) (st : ExprBuild) (rest : List TOp) (ty : SemType) (argc : Nat) (params : List Bind)
    (identity : SemanticIdentity) (effects : List EffectIdentity) (capabilities : List CapabilityIdentity)
    (start stop : Nat) : ExprBuild :=
  let popped := popArguments st.stack argc
  if !popped.ok || popped.remaining ≠ 0 || !identity.valid || !signatureIdentityValid effects capabilities then
    st.fail rest
  else
    -- signatures keep their binds in reverse order, the arguments are back in source order
    let inst : Instruction :=
      { st.instruction 3 0 ty popped.arguments argc (reverseBinds params) start stop with
        identity := identity, effects := effects, capabilities := capabilities }
    st.emit rest popped.stack inst (supportedValueType src ty st.nominals) st.failureOp

/-! ## One operation -/

/-- The operations that stay in the block; a match does not reach this far. -/
def lowerArmOperation (src : Source) (st : ExprBuild) (operation : TOp) (rest : List TOp) : ExprBuild :=
  match operation with
  | .tInt value ty start stop => emitConstant st rest 0 value false ty start stop
  | .tBool value ty start stop => emitConstant st rest 1 0 value ty start stop
  | .tName ty start stop => lowerName src st rest ty start stop
  | .tNot ty start stop => lowerNot src st rest ty start stop
  | .tRepeat ty element count start stop => lowerRepeat src st rest ty element count start stop
  | .tMatch _ _ _ _ _ _ _ => st.failWith rest 2
  | .tFiniteMatch _ _ _ _ _ _ => st.failWith rest 4
  | .tEnumConstruct ty variantStart variantStop count params start stop =>
      lowerEnumConstruct src st rest ty variantStart variantStop count params start stop
  | .tRecordConstruct ty typeStart typeStop hasBase count params start stop =>
      lowerRecordConstruct src st rest ty typeStart typeStop hasBase count params start stop
  | .tBin op ty start stop => lowerBinary src st rest op ty start stop
  | .tCall ty argc params start stop _ _ identity effects capabilities =>
      lowerCall src st rest ty argc params identity effects capabilities start stop
  | .tProj ty fstart fend index start stop => lowerProject src st rest ty fstart fend index start stop
  | .tOp slot ty argc ns ne identity start stop => lowerTopOp src st rest ty slot argc ns ne identity start stop

/-! ## What an operation does -/

/-- **One operation**: the outcomes of `lowerArmOperation`. -/
inductive Operates (st : ExprBuild) (rest : List TOp) : ExprBuild → Prop
  | reject {failureOp : Nat} : Operates st rest { st with rest := rest, ok := false, failureOp := failureOp }
  | push {b : Binding} {v : Value} (hb : b ∈ st.env) (hv : v.id = b.value ∧ v.ty = b.ty) :
      Operates st rest { st with rest := rest, stack := v :: st.stack }
  | emit {remaining : List Value} {inst : Instruction} {ok : Bool} {failureOp : Nat} (hstack : remaining <:+ st.stack)
      (hresult : inst.result = st.nextValue) (hid : inst.id = st.nextInstruction)
      (hsequence : inst.sequence = st.sequence) : Operates st rest (st.emit rest remaining inst ok failureOp)

theorem popCallArg_suffix {stack : List Value} {st : PopArgs} (h : st.stack <:+ stack) :
    (popCallArg st).stack <:+ stack := by
  obtain ⟨vs, remaining, arguments, ok⟩ := st
  unfold popCallArg
  split
  · exact h
  · cases vs with
    | nil => exact h
    | cons v rest => exact (List.suffix_cons v rest).trans h

theorem popArguments_suffix (stack : List Value) (count : Nat) : (popArguments stack count).stack <:+ stack :=
  Function.Iterate.rec (fun st : PopArgs => st.stack <:+ stack) List.suffix_rfl (fun _ h => popCallArg_suffix h) 1024

section Outcomes

variable {src : Source} {st : ExprBuild} {rest : List TOp}

theorem Operates.fail : Operates st rest (st.fail rest) := .reject

theorem Operates.failWith {op : Nat} : Operates st rest (st.failWith rest op) := .reject

theorem emitRepeat_operates {ty elementTy : SemType} {count start stop : Nat} {element : Value} {remaining : List Value}
    (hstack : remaining <:+ st.stack) :
    Operates st rest (emitRepeat src st rest ty elementTy count start stop element remaining) := by
  unfold emitRepeat
  dsimp only
  generalize (match ty with
    | .tSeqExact resultElement length valid => valid && decide (length = count) && semEq src resultElement elementTy
    | _ => false) = typeOk
  split
  · exact .failWith
  · exact .emit hstack rfl rfl rfl

theorem lowerName_operates {ty : SemType} {start stop : Nat} :
    Operates st rest (lowerName src st rest ty start stop) := by
  have hmem := @lookupBinding_mem src st.env start stop
  unfold lowerName
  generalize lookupBinding src st.env start stop = found at hmem ⊢
  dsimp only
  split
  · exact .fail
  · next hfound =>
      rw [Bool.or_eq_true, not_or, Bool.not_eq_true', Bool.not_eq_false] at hfound
      exact .push (hmem hfound.1) ⟨rfl, rfl⟩

theorem lowerEnumConstruct_operates {ty : SemType} {variantStart variantStop fieldCount : Nat} {params : List Bind}
    {start stop : Nat} :
    Operates st rest (lowerEnumConstruct src st rest ty variantStart variantStop fieldCount params start stop) := by
  unfold lowerEnumConstruct
  dsimp only
  split
  · exact .failWith
  · exact .emit (popArguments_suffix st.stack fieldCount) rfl rfl rfl

theorem lowerRecordUpdate_operates {ty : SemType} {typeStart typeStop fieldCount : Nat} {params : List Bind}
    {start stop : Nat} {popped : PopArgs} (hpopped : popped.stack <:+ st.stack) :
    Operates st rest (lowerRecordUpdate src st rest ty typeStart typeStop fieldCount params start stop popped) := by
  unfold lowerRecordUpdate
  split
  · exact .failWith
  · next base remaining hbase =>
      rw [hbase] at hpopped
      exact .emit ((List.suffix_cons base remaining).trans hpopped) rfl rfl rfl

theorem lowerRecordConstruct_operates {ty : SemType} {typeStart typeStop : Nat} {hasBase : Bool} {fieldCount : Nat}
    {params : List Bind} {start stop : Nat} :
    Operates st rest
      (lowerRecordConstruct src st rest ty typeStart typeStop hasBase fieldCount params start stop) := by
  have hpopped := popArguments_suffix st.stack fieldCount
  unfold lowerRecordConstruct
  generalize popArguments st.stack fieldCount = popped at hpopped ⊢
  dsimp only
  split
  · exact lowerRecordUpdate_operates hpopped
  · split
    · exact .failWith
    · exact .emit hpopped rfl rfl rfl

theorem lowerSequenceIndex_operates {ty : SemType} {ns ne : Nat} {identity : SemanticIdentity} {start stop : Nat} :
    Operates st rest (lowerSequenceIndex src st rest ty ns ne identity start stop) := by
  unfold lowerSequenceIndex
  split
  · next index base remaining hstack =>
      refine .emit ?_ rfl rfl rfl
      rw [hstack]
      exact ⟨[index, base], rfl⟩
  · exact .failWith

theorem lowerScalarCast_operates {ty : SemType} {ns ne : Nat} {identity : SemanticIdentity} {start stop : Nat} :
    Operates st rest (lowerScalarCast src st rest ty ns ne identity start stop) := by
  unfold lowerScalarCast
  split
  · exact .failWith
  · next source remaining hstack =>
      refine .emit ?_ rfl rfl rfl
      rw [hstack]
      exact List.suffix_cons source remaining

theorem lowerSequenceViewOp_operates {ty : SemType} {argc : Nat} {arguments : List Id} {remaining : List Value}
    {ns ne : Nat} {identity : SemanticIdentity} {start stop : Nat} (hstack : remaining <:+ st.stack) :
    Operates st rest
      (lowerSequenceViewOp src st rest ty argc arguments remaining ns ne identity start stop) := by
  unfold lowerSequenceViewOp
  split
  · exact .emit hstack rfl rfl rfl
  · exact .failWith

theorem lowerTopOp_operates {ty : SemType} {slot argc ns ne : Nat} {identity : SemanticIdentity} {start stop : Nat} :
    Operates st rest (lowerTopOp src st rest ty slot argc ns ne identity start stop) := by
  have hpopped := popArguments_suffix st.stack argc
  unfold lowerTopOp
  generalize popArguments st.stack argc = popped at hpopped ⊢
  dsimp only
  split
  · exact .fail
  split
  · exact lowerSequenceIndex_operates
  split
  · exact lowerScalarCast_operates
  split
  · exact .emit hpopped rfl rfl rfl
  split
  · exact lowerSequenceViewOp_operates hpopped
  split
  · exact .fail
  · exact .emit hpopped rfl rfl rfl

theorem lowerCall_operates {ty : SemType} {argc : Nat} {params : List Bind} {identity : SemanticIdentity}
    {effects : List EffectIdentity} {capabilities : List CapabilityIdentity} {start stop : Nat} :
    Operates st rest (lowerCall src st rest ty argc params identity effects capabilities start stop) := by
  unfold lowerCall
  dsimp only
  split
  · exact .fail
  · exact .emit (popArguments_suffix st.stack argc) rfl rfl rfl

end Outcomes

theorem lowerArmOperation_operates (src : Source) (st : ExprBuild) (operation : TOp) (rest : List TOp) :
    Operates st rest (lowerArmOperation src st operation rest) := by
  cases operation with
  | tInt value ty start stop => exact .emit List.suffix_rfl rfl rfl rfl
  | tBool value ty start stop => exact .emit List.suffix_rfl rfl rfl rfl
  | tName ty start stop =>
      rw [lowerArmOperation]
      exact lowerName_operates
  | tNot ty start stop =>
      rw [lowerArmOperation, lowerNot]
      split
      · exact .fail
      · next operand remaining hstack =>
          refine .emit ?_ rfl rfl rfl
          rw [hstack]
          exact List.suffix_cons operand remaining
  | tRepeat ty element count start stop =>
      rw [lowerArmOperation, lowerRepeat]
      split
      · exact .failWith
      · next value remaining hstack =>
          apply emitRepeat_operates
          rw [hstack]
          exact List.suffix_cons value remaining
  | tMatch ty subjectTy arms armCount defaultCount start stop => exact .failWith
  | tFiniteMatch ty subjectTy arms armCount start stop => exact .failWith
  | tEnumConstruct ty variantStart variantStop count params start stop =>
      rw [lowerArmOperation]
      exact lowerEnumConstruct_operates
  | tRecordConstruct ty typeStart typeStop hasBase count params start stop =>
      rw [lowerArmOperation]
      exact lowerRecordConstruct_operates
  | tBin op ty start stop =>
      rw [lowerArmOperation, lowerBinary]
      split
      · exact .fail
      · next right lefts hstack =>
          split
          · exact .fail
          · next left tail =>
              refine .emit ?_ rfl rfl rfl
              rw [hstack]
              exact ⟨[right, left], rfl⟩
  | tCall ty argc params start stop ns ne identity effects capabilities =>
      rw [lowerArmOperation]
      exact lowerCall_operates
  | tProj ty fstart fend index start stop =>
      rw [lowerArmOperation, lowerProject]
      split
      · exact .failWith
      · next base remaining hstack =>
          have hsuffix : remaining <:+ st.stack := by
            rw [hstack]
            exact List.suffix_cons base remaining
          split
          · exact .emit hsuffix rfl rfl rfl
          · exact .emit hsuffix rfl rfl rfl
  | tOp slot ty argc ns ne identity start stop =>
      rw [lowerArmOperation]
      exact lowerTopOp_operates

end MncsCompiler.Ssa
