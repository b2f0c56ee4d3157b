import MncsCompiler.Ssa.Syntax

/-!
# `Ssa.Instructions` — the rule of each instruction

`verify_instruction` of `ssa.mncs`: the operands of an instruction are available, its result is the value that the
function records for it, and its kind has a rule of its own, most of which read the source of the instruction again.
-/

namespace MncsCompiler.Ssa

open BoundedLoop Decl

/-! ## Constants, operators and calls -/

def binaryOperandsMatchClass (src : Source) (cls : Nat) (ty : SemType) : Bool :=
  if cls = 3 then semEq src ty .tBool
  else
    match ty with
    | .tInt _ _ => cls ≠ 3
    | .tByte => cls ≠ 3
    | _ => false

def verifyBinaryPair (src : Source) (values : List Value) (left right : Id) (rest : List Id) (op : Nat)
    (resultType : SemType) : Bool :=
  let a := findValue values left.value
  let b := findValue values right.value
  if !a.found || !b.found || !rest.isEmpty || !semEq src a.value.ty b.value.ty || !scalarType resultType ||
         prec op = 0 then false
  else
    let cls := opClass op
    if cls = 2 || cls = 3 then semEq src resultType .tBool && binaryOperandsMatchClass src cls a.value.ty
    else semEq src resultType a.value.ty && binaryOperandsMatchClass src cls a.value.ty

def verifyBinaryInstruction (src : Source) (function : Function) (inst : Instruction) : Bool :=
  match inst.inputs with
  | [] => false
  | left :: rest =>
      match rest with
      | [] => false
      | right :: more => verifyBinaryPair src function.values left right more inst.op inst.ty

def verifyNotOperand (src : Source) (values : List Value) (operand : Id) (rest : List Id) (resultType : SemType)
    (argc : Nat) : Bool :=
  let found := findValue values operand.value
  argc = 1 && rest.isEmpty && found.found && semEq src found.value.ty .tBool && semEq src resultType .tBool

def verifyNotInstruction (src : Source) (function : Function) (inst : Instruction) : Bool :=
  match inst.inputs with
  | [] => false
  | operand :: rest => verifyNotOperand src function.values operand rest inst.ty inst.argc

structure BindCount where
  rest : List Bind
  count : Nat

def bindCountStep (st : BindCount) : BindCount :=
  match st.rest with
  | [] => st
  | _ :: rest => { rest := rest, count := st.count + 1 }

def bindCount (params : List Bind) : Nat :=
  let st := bindCountStep^[1024] { rest := params, count := 0 }
  st.count

structure CallTypeCheck where
  arguments : List Id
  params : List Bind
  values : List Value
  ok : Bool

def callArgumentValueType (src : Source) (st : CallTypeCheck) (argument : Id) (arguments : List Id) (parameter : Bind)
    (params : List Bind) : CallTypeCheck :=
  let found := findValue st.values argument.value
  { arguments := arguments, params := params, values := st.values
    ok := found.found && semEq src found.value.ty parameter.ty }

def callArgumentParameter (src : Source) (st : CallTypeCheck) (argument : Id) (arguments : List Id) : CallTypeCheck :=
  match st.params with
  | [] => { st with arguments := arguments, ok := false }
  | parameter :: params => callArgumentValueType src st argument arguments parameter params

def callArgumentTypeStep (src : Source) (st : CallTypeCheck) : CallTypeCheck :=
  if !st.ok then st
  else
    match st.arguments with
    | [] => { st with ok := st.params.isEmpty }
    | argument :: arguments => callArgumentParameter src st argument arguments

def callArgumentTypesMatch (src : Source) (values : List Value) (arguments : List Id) (params : List Bind) : Bool :=
  let st := (callArgumentTypeStep src)^[1024]
    { arguments := arguments, params := params, values := values, ok := true }
  st.ok && st.arguments.isEmpty && st.params.isEmpty

def verifyCallInstruction (src : Source) (function : Function) (inst : Instruction) : Bool :=
  inst.identity.valid && inst.identity.len > 0 && signatureIdentityValid inst.effects inst.capabilities &&
    idCount inst.inputs = inst.argc && bindCount inst.params = inst.argc &&
    callArgumentTypesMatch src function.values inst.inputs inst.params &&
    supportedValueType src inst.ty function.nominals

/-! ## Constructions and projections -/

def invalidIdentity : SemanticIdentity := invalidSemanticIdentity

def nominalIdentityForSpan (src : Source) (nominals : List NominalTypeIdentity) (start stop : Nat)
    : SemanticIdentity :=
  let reference := nominalIdentityAt nominals start stop
  if reference.found then reference.identity
  else
    let isLocal := nominalIdentityByName src nominals start stop
    if isLocal.found then isLocal.identity else invalidIdentity

def nominalIdentityForType (src : Source) (nominals : List NominalTypeIdentity) (ty : SemType) : SemanticIdentity :=
  match ty with
  | .tNamed start stop => nominalIdentityForSpan src nominals start stop
  | _ => invalidIdentity

def enumConstructNamedTypeMatchesSource (src : Source) (nominals : List NominalTypeIdentity)
    (typeStart typeStop sourceStart sourceStop : Nat) : Bool :=
  if typeStart = sourceStart && typeStop = sourceStop then true
  else
    let sourceIdentity := nominalIdentityForSpan src nominals sourceStart sourceStop
    let typeIdentity := nominalIdentityForSpan src nominals typeStart typeStop
    sourceIdentity.valid && typeIdentity.valid && semanticIdentityEqual sourceIdentity typeIdentity

def enumConstructTypeMatchesSource (src : Source) (nominals : List NominalTypeIdentity) (ty : SemType)
    (sourceStart sourceStop : Nat) : Bool :=
  match ty with
  | .tNamed typeStart typeStop =>
      enumConstructNamedTypeMatchesSource src nominals typeStart typeStop sourceStart sourceStop
  | _ => false

structure ConstructSourceCheck where
  fields : List ConstructField
  params : List Bind
  ok : Bool

def constructSourceFieldParameter (src : Source) (st : ConstructSourceCheck) (field : ConstructField)
    (rest : List ConstructField) : ConstructSourceCheck :=
  match st.params with
  | [] => { st with fields := rest, ok := false }
  | parameter :: params =>
      { fields := rest, params := params
        ok := spansEqual src field.fieldStart field.fieldStop parameter.start parameter.stop }

def constructSourceFieldStep (src : Source) (st : ConstructSourceCheck) : ConstructSourceCheck :=
  if !st.ok then st
  else
    match st.fields with
    | [] => { st with ok := st.params.isEmpty }
    | field :: rest => constructSourceFieldParameter src st field rest

def enumConstructSourceParts (src : Source) (ty : SemType) (nominals : List NominalTypeIdentity)
    (variantStart variantStop : Nat) (params : List Bind)
    (_start _stop typeStart typeStop sourceVariantStart sourceVariantStop : Nat) (fields : List ConstructField)
    : Bool :=
  let typeOk := enumConstructTypeMatchesSource src nominals ty typeStart typeStop
  let scan : ConstructSourceCheck := { fields := fields, params := params, ok := true }
  let st := (constructSourceFieldStep src)^[1024] scan
  typeOk && sourceVariantStart = variantStart && sourceVariantStop = variantStop && st.ok && st.fields.isEmpty &&
    st.params.isEmpty

def enumConstructQualifiedTypeSource (src : Source) (ty : SemType) (nominals : List NominalTypeIdentity)
    (variantStart variantStop : Nat) (params : List Bind)
    (start stop typeStart typeStop sourceVariantStart sourceVariantStop : Nat) (path : Bool) : Bool :=
  if !path then false
  else
    enumConstructSourceParts src ty nominals variantStart variantStop params start stop typeStart typeStop
      sourceVariantStart sourceVariantStop []

def enumConstructProjectSource (src : Source) (ty : SemType) (nominals : List NominalTypeIdentity)
    (variantStart variantStop : Nat) (params : List Bind) (start stop : Nat) (base : Expr)
    (fieldStart fieldStop : Nat) (path : Bool) : Bool :=
  if !path then false
  else
    match base with
    | .name typeStart typeStop =>
        enumConstructSourceParts src ty nominals variantStart variantStop params start stop typeStart typeStop
          fieldStart fieldStop []
    | .project _ _ _ s e p =>
        enumConstructQualifiedTypeSource src ty nominals variantStart variantStop params start stop s e fieldStart
          fieldStop p
    | _ => false

def enumConstructSourceValid (src : Source) (ty : SemType) (nominals : List NominalTypeIdentity)
    (variantStart variantStop : Nat) (params : List Bind) (start stop : Nat) : Bool :=
  let parsed := parseExpr src start true
  if !parsed.ok || parsed.start ≠ start || parsed.stop ≠ stop then false
  else
    match parsed.node with
    | .enumConstruct ts te vs ve fields _ _ =>
        enumConstructSourceParts src ty nominals variantStart variantStop params start stop ts te vs ve fields
    | .project base fs fe _ _ path =>
        enumConstructProjectSource src ty nominals variantStart variantStop params start stop base fs fe path
    | _ => false

def importedEnumNamedSpansEqual (src : Source) (nominals : List NominalTypeIdentity)
    (start stop otherStart otherStop : Nat) : Bool :=
  let leftMarker := genericTypeMarkerIndex start stop
  let rightMarker := genericTypeMarkerIndex otherStart otherStop
  if leftMarker > 0 && leftMarker ≤ 1024 then rightMarker = leftMarker
  else if rightMarker > 0 && rightMarker ≤ 1024 then false
  else
    let leftIdentity := nominalIdentityForSpan src nominals start stop
    let rightIdentity := nominalIdentityForSpan src nominals otherStart otherStop
    if leftIdentity.valid || rightIdentity.valid then
      leftIdentity.valid && rightIdentity.valid && semanticIdentityEqual leftIdentity rightIdentity
    else if leftMarker > 1024 || rightMarker > 1024 then false else spansEqual src start stop otherStart otherStop

structure ImportedEnumTypeComparison where
  left : SemType
  right : SemType
  done : Bool
  ok : Bool

def importedEnumNamedComparisonStep (src : Source) (nominals : List NominalTypeIdentity)
    (st : ImportedEnumTypeComparison) (start stop : Nat) : ImportedEnumTypeComparison :=
  match st.right with
  | .tNamed otherStart otherStop =>
      { st with done := true, ok := importedEnumNamedSpansEqual src nominals start stop otherStart otherStop }
  | _ => { st with done := true, ok := false }

def importedEnumSequenceComparisonPair (st : ImportedEnumTypeComparison) (element : SemType) (length : Nat)
    (lengthValid : Bool) (otherElement : SemType) (otherLength : Nat) (otherValid : Bool)
    : ImportedEnumTypeComparison :=
  if length ≠ otherLength then { st with done := true, ok := false }
  else if lengthValid then
    if !otherValid then { st with done := true, ok := false }
    else { left := element, right := otherElement, done := false, ok := true }
  else if otherValid then { st with done := true, ok := false }
  else { left := element, right := otherElement, done := false, ok := true }

def importedEnumSequenceComparisonStep (st : ImportedEnumTypeComparison) (element : SemType) (length : Nat)
    (lengthValid : Bool) : ImportedEnumTypeComparison :=
  match st.right with
  | .tSeqExact otherElement otherLength otherValid =>
      importedEnumSequenceComparisonPair st element length lengthValid otherElement otherLength otherValid
  | _ => { st with done := true, ok := false }

def importedEnumTypeComparisonStep (src : Source) (nominals : List NominalTypeIdentity)
    (st : ImportedEnumTypeComparison) : ImportedEnumTypeComparison :=
  match st.left with
  | .tNamed start stop => importedEnumNamedComparisonStep src nominals st start stop
  | .tSeqExact element length lengthValid => importedEnumSequenceComparisonStep st element length lengthValid
  | _ => { st with done := true, ok := semEq src st.left st.right }

def importedEnumFieldTypeEqual (src : Source) (nominals : List NominalTypeIdentity) (left right : SemType) : Bool :=
  (iterate (fun _ (st : ImportedEnumTypeComparison) =>
        if st.done then .ret st.ok
        else if !st.ok then .ret false
        else .next (importedEnumTypeComparisonStep src nominals st))
      0 32 { left := left, right := right, done := false, ok := true }).after fun st =>
    st.done && st.ok

structure ImportedEnumConstructParamCheck where
  rest : List Bind
  fields : List ImportedEnumField
  seen : List NameSpan
  nominals : List NominalTypeIdentity
  ok : Bool

def importedEnumConstructCheckParam (src : Source) (st : ImportedEnumConstructParamCheck) (param : Bind)
    (rest : List Bind) : ImportedEnumConstructParamCheck :=
  if nameKnown src st.seen param.start param.stop then { st with ok := false }
  else
    let key := signatureNameKey src param.start param.stop
    let field := importedEnumFieldLookup st.fields key
    if !field.found || !field.field.typeValid ||
        !importedEnumFieldTypeEqual src st.nominals field.field.ty param.ty then
      { st with ok := false }
    else
      let seen : List NameSpan := { start := param.start, stop := param.stop } :: st.seen
      { st with rest := rest, seen := seen, ok := true }

def importedEnumConstructParamStep (src : Source) (st : ImportedEnumConstructParamCheck)
    : ImportedEnumConstructParamCheck :=
  if !st.ok then st
  else
    match st.rest with
    | [] => st
    | param :: rest => importedEnumConstructCheckParam src st param rest

def importedEnumConstructFieldsValid (src : Source) (nominals : List NominalTypeIdentity)
    (fields : List ImportedEnumField) (params : List Bind) : Bool :=
  let initial : ImportedEnumConstructParamCheck :=
    { rest := params, fields := fields, seen := [], nominals := nominals, ok := true }
  let st := (importedEnumConstructParamStep src)^[1024] initial
  st.ok && st.rest.isEmpty && importedPayloadShapeOk src fields st.seen

def importedEnumConstructValid (src : Source) (function : Function) (nominal : SemanticIdentity) (inst : Instruction)
    : Bool :=
  let schema := importedEnumLookup function.importedEnums nominal
  if !schema.found then true
  else
    let variantKey := signatureNameKey src inst.variantStart inst.variantStop
    let variant := importedEnumVariantLookup schema.schema.variants variantKey
    if !variant.found then false
    else importedEnumConstructFieldsValid src function.nominals variant.variant.fields inst.params

def verifyEnumConstructInstruction (src : Source) (function : Function) (inst : Instruction) : Bool :=
  let nominal := nominalIdentityForType src function.nominals inst.ty
  let shapeOk : Bool := inst.argc = idCount inst.inputs && inst.argc = bindCount inst.params
  let fieldsOk : Bool :=
    callArgumentTypesMatch src function.values inst.inputs inst.params &&
      enumConstructSourceValid src inst.ty function.nominals inst.variantStart inst.variantStop inst.params
        inst.start inst.stop &&
      importedEnumConstructValid src function nominal inst
  shapeOk && fieldsOk && inst.argc = bindCount inst.params && inst.identity.valid = false &&
    signatureIdentityValid inst.effects inst.capabilities && supportedValueType src inst.ty function.nominals &&
    nominal.valid && semanticIdentityEqual nominal inst.nominalIdentity

structure PayloadSourceBindingSearch where
  rest : List PayloadBinding
  fieldStart : Nat
  fieldStop : Nat
  bindingStart : Nat
  bindingStop : Nat
  found : Bool

def payloadSourceBindingStep (src : Source) (st : PayloadSourceBindingSearch) : PayloadSourceBindingSearch :=
  if st.found then st
  else
    match st.rest with
    | [] => st
    | binding :: rest =>
        { st with
          rest := rest
          found :=
            spansEqual src binding.fieldStart binding.fieldStop st.fieldStart st.fieldStop &&
              spansEqual src binding.nameStart binding.nameStop st.bindingStart st.bindingStop }

def payloadSourceBindingHas (src : Source) (bindings : List PayloadBinding)
    (fieldStart fieldStop bindingStart bindingStop : Nat) : Bool :=
  let st := (payloadSourceBindingStep src)^[1024]
    { rest := bindings, fieldStart := fieldStart, fieldStop := fieldStop, bindingStart := bindingStart
      bindingStop := bindingStop, found := false }
  st.found

def payloadSourceBindingFound (src : Source) (bindings : List PayloadBinding) (params : List Bind)
    (bindingStart bindingStop : Nat) : Bool :=
  match params with
  | [] => false
  | field :: fields =>
      fields.isEmpty && payloadSourceBindingHas src bindings field.start field.stop bindingStart bindingStop

structure PayloadSourceArmSearch where
  rest : List FiniteMatchArm
  variantStart : Nat
  variantStop : Nat
  bindingStart : Nat
  bindingStop : Nat
  params : List Bind
  found : Bool

def payloadSourceArmOne (src : Source) (st : PayloadSourceArmSearch) (arm : FiniteMatchArm)
    (rest : List FiniteMatchArm) : PayloadSourceArmSearch :=
  if arm.pattern.variantStart ≠ st.variantStart || arm.pattern.variantStop ≠ st.variantStop then
    { st with rest := rest }
  else
    { st with
      rest := rest
      found := payloadSourceBindingFound src arm.pattern.bindings st.params st.bindingStart st.bindingStop }

def payloadSourceArmStep (src : Source) (st : PayloadSourceArmSearch) : PayloadSourceArmSearch :=
  if st.found then st
  else
    match st.rest with
    | [] => st
    | arm :: rest => payloadSourceArmOne src st arm rest

def payloadSourceArmFound (src : Source) (arms : List FiniteMatchArm)
    (variantStart variantStop bindingStart bindingStop : Nat) (params : List Bind) : Bool :=
  let st := (payloadSourceArmStep src)^[1024]
    { rest := arms, variantStart := variantStart, variantStop := variantStop, bindingStart := bindingStart
      bindingStop := bindingStop, params := params, found := false }
  st.found

def payloadExtractSourceValid (src : Source) (start stop variantStart variantStop bindingStart bindingStop : Nat)
    (params : List Bind) : Bool :=
  let parsed := parseExpr src start true
  if !parsed.ok || parsed.start ≠ start || parsed.stop ≠ stop then false
  else
    match parsed.node with
    | .finiteMatch _ arms sourceStart sourceStop =>
        sourceStart = start && sourceStop = stop &&
          payloadSourceArmFound src arms variantStart variantStop bindingStart bindingStop params
    | _ => false

def payloadDeclaredFieldParameter (src : Source) (function : Function) (fields : List Field) (parameter : Bind)
    (rest : List Bind) (outputTy : SemType) (unit : Decl.Unit) : Bool :=
  if !rest.isEmpty then false
  else
    let field := fieldScan src fields parameter.start parameter.stop
    if !field.found then false
    else
      let resolved :=
        resolveType src field.field.typeKind field.field.typeStart field.field.typeStop unit.records unit.enums
          function.nominals
      resolved.ok && semEq src resolved.ty parameter.ty && semEq src resolved.ty outputTy

def payloadDeclaredLocalEnumField (src : Source) (function : Function) (enumDecl : EnumDecl)
    (variantStart variantStop : Nat) (params : List Bind) (outputTy : SemType) (unit : Decl.Unit) : Bool :=
  let variant := variantScan src enumDecl.variants variantStart variantStop
  if !variant.found then false
  else
    match params with
    | [] => false
    | parameter :: rest =>
        payloadDeclaredFieldParameter src function variant.variant.fields parameter rest outputTy unit

def payloadDeclaredImportedEnumField (src : Source) (nominals : List NominalTypeIdentity)
    (fields : List ImportedEnumField) (parameter : Bind) (rest : List Bind) (outputTy : SemType) : Bool :=
  if !rest.isEmpty then false
  else
    let key := signatureNameKey src parameter.start parameter.stop
    let field := importedEnumFieldLookup fields key
    field.found && field.field.typeValid && importedEnumFieldTypeEqual src nominals field.field.ty parameter.ty &&
      importedEnumFieldTypeEqual src nominals field.field.ty outputTy

def payloadDeclaredNamedFieldType (src : Source) (function : Function)
    (typeStart typeStop variantStart variantStop : Nat) (params : List Bind) (outputTy : SemType) : Bool :=
  let unit := parseUnit src
  let enumFind := enumLookup src unit.enums typeStart typeStop
  if !unit.ok then false
  else if enumFind.found then
    payloadDeclaredLocalEnumField src function enumFind.decl variantStart variantStop params outputTy unit
  else
    let identity := nominalIdentityForType src function.nominals (.tNamed typeStart typeStop)
    let schema := importedEnumLookup function.importedEnums identity
    if !schema.found then false
    else
      let variantKey := signatureNameKey src variantStart variantStop
      let importedVariant := importedEnumVariantLookup schema.schema.variants variantKey
      if !importedVariant.found then false
      else
        match params with
        | [] => false
        | parameter :: rest =>
            payloadDeclaredImportedEnumField src function.nominals importedVariant.variant.fields parameter rest
              outputTy

def payloadDeclaredFieldType (src : Source) (function : Function) (subjectTy : SemType)
    (variantStart variantStop : Nat) (params : List Bind) (outputTy : SemType) : Bool :=
  match subjectTy with
  | .tNamed typeStart typeStop =>
      payloadDeclaredNamedFieldType src function typeStart typeStop variantStart variantStop params outputTy
  | _ => false

def matchPayloadWildcard (src : Source) (start stop : Nat) : Bool :=
  if stop ≠ start + 1 || stop > src.total then false else src.byteAt start = 95

def verifyMatchPayloadSubject (src : Source) (function : Function) (inst : Instruction) (subject : Id)
    (rest : List Id) : Bool :=
  let found := findValue function.values subject.value
  let expectedNominal := nominalIdentityForType src function.nominals found.value.ty
  let sourceOk :=
    payloadExtractSourceValid src inst.start inst.stop inst.variantStart inst.variantStop inst.bindingStart
      inst.bindingStop inst.params
  let declaredTypeOk :=
    payloadDeclaredFieldType src function found.value.ty inst.variantStart inst.variantStop inst.params inst.ty
  let fieldTypeOk : Bool :=
    match inst.params with
    | [] => false
    | field :: fields => fields.isEmpty && semEq src field.ty inst.ty
  rest.isEmpty && inst.argc = 1 && inst.op = 0 && found.found && isNamedType found.value.ty &&
    expectedNominal.valid && semanticIdentityEqual expectedNominal inst.nominalIdentity && fieldTypeOk &&
    declaredTypeOk && inst.bindingStop > inst.bindingStart &&
    !matchPayloadWildcard src inst.bindingStart inst.bindingStop && sourceOk && !inst.identity.valid &&
    signatureIdentityValid inst.effects inst.capabilities && supportedValueType src inst.ty function.nominals

def verifyMatchPayloadInstruction (src : Source) (function : Function) (inst : Instruction) : Bool :=
  match inst.inputs with
  | [] => false
  | subject :: rest => verifyMatchPayloadSubject src function inst subject rest

def repeatCountLiteralMatches (src : Source) (kind start stop expected : Nat) : Bool :=
  let parsed := src.intValue start stop
  kind = 5 && !parsed.overflow && parsed.value = expected

def repeatSourceCountMatches (src : Source) (start stop expected : Nat) : Bool :=
  let parsed := parseExpr src start true
  if !parsed.ok || parsed.start ≠ start || parsed.stop ≠ stop then false
  else
    match parsed.node with
    | .repeated _ countStart countStop countKind repeatStart repeatStop =>
        repeatStart = start && repeatStop = stop &&
          repeatCountLiteralMatches src countKind countStart countStop expected
    | _ => false

def verifyRepeatOperand (src : Source) (function : Function) (inst : Instruction) (element : Id) (rest : List Id)
    : Bool :=
  let found := findValue function.values element.value
  let shapeOk : Bool :=
    match inst.ty with
    | .tSeqExact resultElement length valid => valid && length = inst.op && semEq src resultElement found.value.ty
    | _ => false
  let sourceOk := repeatSourceCountMatches src inst.start inst.stop inst.op
  rest.isEmpty && inst.argc = 1 && found.found && shapeOk && sourceOk && inst.params.isEmpty &&
    !inst.identity.valid && !inst.nominalIdentity.valid && inst.variantStart = 0 && inst.variantStop = 0 &&
    inst.bindingStart = 0 && inst.bindingStop = 0 && signatureIdentityValid inst.effects inst.capabilities &&
    supportedValueType src inst.ty function.nominals

def verifyRepeatInstruction (src : Source) (function : Function) (inst : Instruction) : Bool :=
  match inst.inputs with
  | [] => false
  | element :: rest => verifyRepeatOperand src function inst element rest

def projectSourceValid (src : Source) (start stop fstart fend : Nat) : Bool :=
  if stop ≤ start || stop > src.total then false
  else
    let parsed := parseExpr { src with total := stop } start true
    if !parsed.ok || parsed.start ≠ start || parsed.stop ≠ stop then false
    else
      match parsed.node with
      | .project _ fieldStart fieldStop projectStart projectStop _ =>
          projectStart = start && projectStop = stop && fieldStart = fstart && fieldStop = fend
      | _ => false

def projectDeclaredImportedField (src : Source) (function : Function)
    (typeStart typeStop fstart fend fieldIndex : Nat) (outputTy : SemType) : Bool :=
  let nominal := nominalIdentityAt function.nominals typeStart typeStop
  if !nominal.found then false
  else
    let schema := importedRecordLookup function.importedRecords nominal.identity
    if !schema.found then false
    else
      let fieldName := signatureNameKey src fstart fend
      let field := importedFieldLookup schema.schema.fields fieldName
      field.found && field.field.typeValid && field.field.index = fieldIndex && semEq src field.field.ty outputTy

def projectDeclaredNamedField (src : Source) (function : Function) (typeStart typeStop fstart fend fieldIndex : Nat)
    (outputTy : SemType) : Bool :=
  if genericTypeMarkerIndex typeStart typeStop > 1024 then
    projectDeclaredImportedField src function typeStart typeStop fstart fend fieldIndex outputTy
  else
    let unit := parseUnit src
    if !unit.ok then false
    else
      let foundRecord := recLookup src unit.records typeStart typeStop
      if !foundRecord.found then
        projectDeclaredImportedField src function typeStart typeStop fstart fend fieldIndex outputTy
      else
        let field := fieldScan src foundRecord.decl.fields fstart fend
        if !field.found || field.index ≠ fieldIndex then false
        else
          let resolved :=
            resolveType src field.field.typeKind field.field.typeStart field.field.typeStop unit.records unit.enums
              function.nominals
          resolved.ok && semEq src resolved.ty outputTy

def projectDeclaredField (src : Source) (function : Function) (baseTy : SemType) (fstart fend fieldIndex : Nat)
    (outputTy : SemType) : Bool :=
  match baseTy with
  | .tNamed typeStart typeStop =>
      projectDeclaredNamedField src function typeStart typeStop fstart fend fieldIndex outputTy
  | _ => false

def verifyProjectBase (src : Source) (function : Function) (inst : Instruction) (base : Id) (rest : List Id) : Bool :=
  let found := findValue function.values base.value
  let expectedNominal := nominalIdentityForType src function.nominals found.value.ty
  let sourceOk := projectSourceValid src inst.start inst.stop inst.bindingStart inst.bindingStop
  let declaredOk :=
    projectDeclaredField src function found.value.ty inst.bindingStart inst.bindingStop inst.op inst.ty
  rest.isEmpty && inst.argc = 1 && found.found && isNamedType found.value.ty && expectedNominal.valid &&
    semanticIdentityEqual expectedNominal inst.nominalIdentity && declaredOk &&
        inst.bindingStop > inst.bindingStart &&
    inst.variantStart = 0 && inst.variantStop = 0 && sourceOk && !inst.identity.valid && inst.params.isEmpty &&
    signatureIdentityValid inst.effects inst.capabilities && supportedValueType src inst.ty function.nominals

def verifyProjectInstruction (src : Source) (function : Function) (inst : Instruction) : Bool :=
  match inst.inputs with
  | [] => false
  | base :: rest => verifyProjectBase src function inst base rest

def verifyRecordUpdateBase (src : Source) (function : Function) (inst : Instruction) (base : Id) (overrides : List Id)
    : Bool :=
  let baseValue := findValue function.values base.value
  let nominal := nominalIdentityForType src function.nominals inst.ty
  let shapeOk : Bool := inst.argc = idCount inst.inputs && inst.argc = bindCount inst.params + 1
  let sourceOk :=
    recordConstructSourceValidBase src inst.ty inst.bindingStart inst.bindingStop true inst.params inst.start
      inst.stop
  let fieldsOk := callArgumentTypesMatch src function.values overrides inst.params
  inst.kind = 16 && inst.op = 1 && shapeOk && baseValue.found && isNamedType baseValue.value.ty &&
    semEq src baseValue.value.ty inst.ty && supportedValueType src baseValue.value.ty function.nominals && fieldsOk &&
    sourceOk && inst.stop > inst.start && inst.bindingStop > inst.bindingStart && inst.variantStart = 0 &&
    inst.variantStop = 0 && !inst.identity.valid && inst.effects.isEmpty && inst.capabilities.isEmpty &&
    nominal.valid && semanticIdentityEqual nominal inst.nominalIdentity &&
    supportedValueType src inst.ty function.nominals && signatureIdentityValid inst.effects inst.capabilities

def verifyRecordUpdateInstruction (src : Source) (function : Function) (inst : Instruction) : Bool :=
  match inst.inputs with
  | [] => false
  | base :: overrides => verifyRecordUpdateBase src function inst base overrides

def verifyRecordConstructInstruction (src : Source) (function : Function) (inst : Instruction) : Bool :=
  if inst.op = 1 then verifyRecordUpdateInstruction src function inst
  else
    let nominal := nominalIdentityForType src function.nominals inst.ty
    let shapeOk : Bool := inst.argc = idCount inst.inputs && inst.argc = bindCount inst.params
    let sourceOk :=
      recordConstructSourceValid src inst.ty inst.bindingStart inst.bindingStop inst.params inst.start inst.stop
    let fieldsOk := callArgumentTypesMatch src function.values inst.inputs inst.params
    inst.kind = 16 && inst.op = 0 && shapeOk && sourceOk && fieldsOk && inst.stop > inst.start &&
      inst.bindingStop > inst.bindingStart && inst.variantStart = 0 && inst.variantStop = 0 && !inst.identity.valid &&
      inst.effects.isEmpty && inst.capabilities.isEmpty && nominal.valid &&
      semanticIdentityEqual nominal inst.nominalIdentity && supportedValueType src inst.ty function.nominals

/-! ## Sequences, casts and host operations -/

def opSourceValid (src : Source) (slot ns ne argc start stop : Nat) : Bool :=
  let parsed := parseExpr src start true
  if !parsed.ok || parsed.start ≠ start || parsed.stop ≠ stop then false
  else
    match parsed.node with
    | .opCall found fns fne a s e =>
        found = slot && fns = ns && fne = ne && s = start && e = stop && countExprs a = argc
    | _ => false

def opResultShapeOk (slot : Nat) (ty : SemType) : Bool := if slot = 1 || slot = 8 then !isPoison ty else isU64Ty ty

def selectFalseInput (src : Source) (values : List Value) (whenTrue whenFalse : Id) (trailing : List Id)
    (resultType : SemType) (nominals : List NominalTypeIdentity) : Bool :=
  let trueValue := findValue values whenTrue.value
  let falseValue := findValue values whenFalse.value
  trailing.isEmpty && trueValue.found && falseValue.found && semEq src trueValue.value.ty falseValue.value.ty &&
    semEq src trueValue.value.ty resultType && supportedValueType src resultType nominals

def selectTrueInput (src : Source) (values : List Value) (whenTrue : Id) (rest : List Id) (resultType : SemType)
    (nominals : List NominalTypeIdentity) : Bool :=
  match rest with
  | [] => false
  | whenFalse :: trailing => selectFalseInput src values whenTrue whenFalse trailing resultType nominals

def selectConditionInput (src : Source) (values : List Value) (condition : Id) (rest : List Id) (resultType : SemType)
    (nominals : List NominalTypeIdentity) : Bool :=
  let found := findValue values condition.value
  if !found.found || !isBoolTy found.value.ty then false
  else
    match rest with
    | [] => false
    | whenTrue :: afterTrue => selectTrueInput src values whenTrue afterTrue resultType nominals

def selectInputsValid (src : Source) (values : List Value) (arguments : List Id) (resultType : SemType)
    (nominals : List NominalTypeIdentity) : Bool :=
  match arguments with
  | [] => false
  | condition :: rest => selectConditionInput src values condition rest resultType nominals

structure OpInputCheck where
  arguments : List Id
  values : List Value
  nominals : List NominalTypeIdentity
  slot : Nat
  index : Nat
  ok : Bool

def opInputOne (src : Source) (st : OpInputCheck) (argument : Id) (arguments : List Id) : OpInputCheck :=
  let found := findValue st.values argument.value
  if !found.found then { st with arguments := arguments, index := st.index + 1, ok := false }
  else
    let bad := opOperandKind src st.slot st.index found.value.ty st.nominals [] []
    { st with arguments := arguments, index := st.index + 1, ok := bad = 0 }

def opInputStep (src : Source) (st : OpInputCheck) : OpInputCheck :=
  if !st.ok then st
  else
    match st.arguments with
    | [] => st
    | argument :: arguments => opInputOne src st argument arguments

def opInputsMatch (src : Source) (values : List Value) (arguments : List Id) (slot : Nat)
    (nominals : List NominalTypeIdentity) : Bool :=
  let st := (opInputStep src)^[1024]
    { arguments := arguments, values := values, nominals := nominals, slot := slot, index := 0, ok := true }
  st.ok && st.arguments.isEmpty

def verifyOpInstruction (src : Source) (function : Function) (inst : Instruction) : Bool :=
  if inst.op > 4 && inst.op ≠ 8 || inst.argc ≠ opArity inst.op || inst.bindingStop ≤ inst.bindingStart then false
  else
    let expected := canonicalOperationIdentity src inst.bindingStart inst.bindingStop
    if !inst.identity.valid || inst.identity.len = 0 || !semanticIdentityEqual expected inst.identity then false
    else
      let sourceOk : Bool :=
        if inst.op = 8 then
          Decl.opSourceValid src inst.op inst.ty inst.bindingStart inst.bindingStop inst.argc inst.start inst.stop
        else opSourceValid src inst.op inst.bindingStart inst.bindingStop inst.argc inst.start inst.stop
      if !sourceOk then false
      else if !opResultShapeOk inst.op inst.ty then false
      else
        let inputsOk : Bool :=
          if inst.op = 8 then selectInputsValid src function.values inst.inputs inst.ty function.nominals
          else opInputsMatch src function.values inst.inputs inst.op function.nominals
        idCount inst.inputs = inst.argc && inputsOk && inst.params.isEmpty && !inst.nominalIdentity.valid &&
          inst.variantStart = 0 && inst.variantStop = 0 && signatureIdentityValid inst.effects inst.capabilities &&
          supportedValueType src inst.ty function.nominals

def sequenceLengthSourceValid (src : Source) (start stop fstart fend : Nat) : Bool :=
  if stop ≤ start || stop > src.total then false
  else
    let parsed := parseExpr { src with total := stop } start true
    if !parsed.ok || parsed.start ≠ start || parsed.stop ≠ stop then false
    else
      match parsed.node with
      | .project _ fieldStart fieldStop projectStart projectStop _ =>
          projectStart = start && projectStop = stop && fieldStart = fstart && fieldStop = fend &&
            spanIsLen src fstart fend
      | _ => false

def verifySequenceLengthBase (src : Source) (function : Function) (inst : Instruction) (base : Id) (rest : List Id)
    : Bool :=
  let found := findValue function.values base.value
  let sourceOk := sequenceLengthSourceValid src inst.start inst.stop inst.bindingStart inst.bindingStop
  rest.isEmpty && inst.argc = 1 && found.found && sequenceValueType found.value.ty &&
    supportedValueType src found.value.ty function.nominals && isU64Ty inst.ty && inst.op = 0 &&
        inst.params.isEmpty &&
    !inst.identity.valid && !inst.nominalIdentity.valid && inst.variantStart = 0 && inst.variantStop = 0 &&
    inst.bindingStop > inst.bindingStart && spanIsLen src inst.bindingStart inst.bindingStop && sourceOk &&
    signatureIdentityValid inst.effects inst.capabilities

def verifySequenceLengthInstruction (src : Source) (function : Function) (inst : Instruction) : Bool :=
  match inst.inputs with
  | [] => false
  | base :: rest => verifySequenceLengthBase src function inst base rest

def verifySequenceIndexValues (src : Source) (function : Function) (inst : Instruction) (base index : Id)
    (trailing : List Id) : Bool :=
  let baseValue := findValue function.values base.value
  let indexValue := findValue function.values index.value
  let element := sequenceSemElement baseValue.value.ty
  let expected := canonicalOperationIdentity src inst.bindingStart inst.bindingStop
  let sourceOk : Bool :=
    inst.bindingStart = inst.start && inst.bindingStop = inst.stop &&
      Decl.opSourceValid src 6 inst.ty inst.bindingStart inst.bindingStop 2 inst.start inst.stop
  trailing.isEmpty && inst.kind = 11 && inst.op = 6 && inst.argc = 2 && baseValue.found && indexValue.found &&
    sequenceValueType baseValue.value.ty && !isPoison element && isU64Ty indexValue.value.ty &&
    semEq src element inst.ty && supportedValueType src baseValue.value.ty function.nominals &&
    supportedValueType src inst.ty function.nominals && inst.identity.valid &&
    semanticIdentityEqual expected inst.identity && sourceOk && inst.params.isEmpty && !inst.nominalIdentity.valid &&
    inst.variantStart = 0 && inst.variantStop = 0 && signatureIdentityValid inst.effects inst.capabilities

def verifySequenceIndexBase (src : Source) (function : Function) (inst : Instruction) (base : Id) (rest : List Id)
    : Bool :=
  match rest with
  | [] => false
  | index :: trailing => verifySequenceIndexValues src function inst base index trailing

def verifySequenceIndexInstruction (src : Source) (function : Function) (inst : Instruction) : Bool :=
  match inst.inputs with
  | [] => false
  | base :: rest => verifySequenceIndexBase src function inst base rest

def verifyScalarCastSource (src : Source) (function : Function) (inst : Instruction) (source : Id) (rest : List Id)
    : Bool :=
  let found := findValue function.values source.value
  let expected := canonicalOperationIdentity src inst.bindingStart inst.bindingStop
  let sourceOk : Bool :=
    inst.bindingStart = inst.start && inst.bindingStop = inst.stop &&
      Decl.opSourceValid src 7 inst.ty inst.bindingStart inst.bindingStop 1 inst.start inst.stop
  rest.isEmpty && inst.kind = 12 && inst.op = 7 && inst.argc = 1 && found.found && castSourceOk found.value.ty &&
    castTargetOk inst.ty && supportedValueType src found.value.ty function.nominals &&
    supportedValueType src inst.ty function.nominals && inst.identity.valid &&
    semanticIdentityEqual expected inst.identity && sourceOk && inst.params.isEmpty && !inst.nominalIdentity.valid &&
    inst.variantStart = 0 && inst.variantStop = 0 && signatureIdentityValid inst.effects inst.capabilities

def verifyScalarCastInstruction (src : Source) (function : Function) (inst : Instruction) : Bool :=
  match inst.inputs with
  | [] => false
  | source :: rest => verifyScalarCastSource src function inst source rest

def verifySequenceViewValues (src : Source) (function : Function) (inst : Instruction) (base startIndex endIndex : Id)
    (trailing : List Id) : Bool :=
  let baseValue := findValue function.values base.value
  let startValue := findValue function.values startIndex.value
  let endValue := findValue function.values endIndex.value
  let expected := canonicalOperationIdentity src inst.bindingStart inst.bindingStop
  let viewTy := sequenceViewType baseValue.value.ty
  let sourceOk : Bool :=
    inst.bindingStart = inst.start && inst.bindingStop = inst.stop &&
      Decl.opSourceValid src 9 inst.ty inst.bindingStart inst.bindingStop inst.argc inst.start inst.stop
  trailing.isEmpty && inst.kind = 17 && inst.op = 9 && inst.argc = 3 && baseValue.found && startValue.found &&
    endValue.found && sequenceValueType baseValue.value.ty && isU64Ty startValue.value.ty &&
    isU64Ty endValue.value.ty && semEq src viewTy inst.ty &&
    supportedValueType src baseValue.value.ty function.nominals && supportedValueType src inst.ty function.nominals &&
    inst.identity.valid && semanticIdentityEqual expected inst.identity && sourceOk && inst.params.isEmpty &&
    !inst.nominalIdentity.valid && inst.variantStart = 0 && inst.variantStop = 0 && inst.effects.isEmpty &&
    inst.capabilities.isEmpty && signatureIdentityValid inst.effects inst.capabilities

def verifySequenceViewStop (src : Source) (function : Function) (inst : Instruction) (base startIndex : Id)
    (inputs : List Id) : Bool :=
  match inputs with
  | [] => false
  | endIndex :: trailing => verifySequenceViewValues src function inst base startIndex endIndex trailing

def verifySequenceViewStart (src : Source) (function : Function) (inst : Instruction) (base : Id) (inputs : List Id)
    : Bool :=
  match inputs with
  | [] => false
  | startIndex :: rest => verifySequenceViewStop src function inst base startIndex rest

def verifySequenceViewInstruction (src : Source) (function : Function) (inst : Instruction) : Bool :=
  match inst.inputs with
  | [] => false
  | base :: rest => verifySequenceViewStart src function inst base rest

/-! ## Loops -/

structure LoopStmtSource where
  found : Bool
  node : Stmt

def loopStmtSource (src : Source) (cursor : Nat) : LoopStmtSource :=
  let branch := parseBranch src cursor true
  if !branch.ok then { found := false, node := .failStmt cursor cursor cursor cursor }
  else
    match branch.list with
    | stmt :: _ => { found := (stmtSpan stmt).start = cursor, node := stmt }
    | [] => { found := false, node := .failStmt cursor cursor cursor cursor }

def loopNameSpan (nameStart nameStop : Nat) (inst : Instruction) : Bool :=
  inst.bindingStart = nameStart && inst.bindingStop = nameStop && nameStop > nameStart

def countedLoopBoundValid (src : Source) (inst : Instruction) (hasSource : Bool) (boundStart boundStop : Nat)
    : Bool :=
  let bound := src.intValue boundStart boundStop
  !hasSource && inst.variantStart = boundStart && inst.variantStop = boundStop && !bound.overflow &&
    bound.value > 0 && bound.value ≤ 1024

def loopKindDomain (src : Source) (inst : Instruction) (kind : Nat) (hasSource : Bool) (sourceExpr : Expr)
    (boundStart boundStop : Nat) : Bool :=
  if kind = 13 && inst.op = 2 then
    hasSource && inst.variantStart = exprStart sourceExpr && inst.variantStop = exprEnd sourceExpr
  else if kind = 13 && inst.op = 1 then countedLoopBoundValid src inst hasSource boundStart boundStop
  else inst.variantStart = 0 && inst.variantStop = 0

def loopStatementMatches (src : Source) (inst : Instruction) (kind : Nat) : Bool :=
  let parsed := loopStmtSource src inst.start
  if !parsed.found then false
  else
    match parsed.node with
    | .iterateStmt ns ne sourceExpr hasSource bs be _ _ _ _ _ _ _ _ _ _ start stop =>
        loopNameSpan ns ne inst && start = inst.start && stop = inst.stop &&
          loopKindDomain src inst kind hasSource sourceExpr bs be
    | _ => false

def loopInstructionMetadataClean (inst : Instruction) : Bool :=
  inst.params.isEmpty && !inst.identity.valid && !inst.nominalIdentity.valid && inst.effects.isEmpty &&
    inst.capabilities.isEmpty

def firstInput (values : List Value) (inputs : List Id) : LookupValue :=
  match inputs with
  | [] => { found := false, value := { id := 0, ty := .tPoison, ownerBlock := 0, kind := 0, index := 0 } }
  | id :: _ => findValue values id.value

structure LoopParameterMapScan where
  rest : List Binding
  function : Function
  block : Nat
  index : Nat
  ok : Bool

def loopParameterBindingOne (src : Source) (st : LoopParameterMapScan) (binding : Binding) (rest : List Binding)
    : LoopParameterMapScan :=
  let value := findValue st.function.values binding.value
  let valid : Bool :=
    value.found && value.value.kind = 1 && value.value.ownerBlock = st.block && value.value.index = st.index &&
      semEq src value.value.ty binding.ty
  { st with rest := rest, index := st.index + 1, ok := valid }

def loopParameterBindingStep (src : Source) (st : LoopParameterMapScan) : LoopParameterMapScan :=
  if !st.ok then st
  else
    match st.rest with
    | [] => st
    | binding :: rest => loopParameterBindingOne src st binding rest

def loopParameterBindingsValid (src : Source) (function : Function) (block : SsaBlock) : Bool :=
  let st := (loopParameterBindingStep src)^[1024]
    { rest := block.parameterBindings, function := function, block := block.id, index := 0, ok := true }
  st.ok && st.rest.isEmpty && st.index = valueCount block.parameters function.valueCount

def loopParameterBinding (src : Source) (function : Function) (block start stop : Nat) : BindingLookup :=
  let found := findBlock function.blocks block
  if !found.found then { found := false, binding := { nameStart := 0, nameStop := 0, value := 0, ty := .tPoison } }
  else if !loopParameterBindingsValid src function found.block then
    { found := false, binding := { nameStart := 0, nameStop := 0, value := 0, ty := .tPoison } }
  else lookupBinding src found.block.parameterBindings start stop

def verifyCountedLoopGuard (src : Source) (function : Function) (block : Nat) (inst : Instruction) : Bool :=
  let index := firstInput function.values inst.inputs
  let expected := loopParameterBinding src function block inst.bindingStart inst.bindingStop
  inst.argc = 1 && idCount inst.inputs = 1 && index.found && expected.found &&
    index.value.id = expected.binding.value && isU64Ty index.value.ty

def verifySequenceGuardPair (src : Source) (function : Function) (block : Nat) (inst : Instruction)
    (indexId sourceId : Id) (tail : List Id) : Bool :=
  let index := findValue function.values indexId.value
  let sourceValue := findValue function.values sourceId.value
  let expectedIndex := loopParameterBinding src function block inst.bindingStart inst.bindingStop
  let expectedSource := loopParameterBinding src function block inst.start inst.stop
  inst.argc = 2 && tail.isEmpty && index.found && expectedIndex.found &&
    index.value.id = expectedIndex.binding.value && isU64Ty index.value.ty && sourceValue.found &&
    expectedSource.found && sourceValue.value.id = expectedSource.binding.value &&
    sequenceValueType sourceValue.value.ty

def verifySequenceGuardValues (src : Source) (function : Function) (block : Nat) (inst : Instruction) (indexId : Id)
    (rest : List Id) : Bool :=
  match rest with
  | [] => false
  | sourceId :: tail => verifySequenceGuardPair src function block inst indexId sourceId tail

def verifySequenceLoopGuard (src : Source) (function : Function) (block : Nat) (inst : Instruction) : Bool :=
  match inst.inputs with
  | [] => false
  | index :: rest => verifySequenceGuardValues src function block inst index rest

def verifyLoopGuardInstruction (src : Source) (function : Function) (block : Nat) (inst : Instruction) : Bool :=
  let sourceOk := loopStatementMatches src inst 13
  if !sourceOk || !loopInstructionMetadataClean inst || !semEq src inst.ty .tBool ||
         inst.bindingStop ≤ inst.bindingStart || inst.op ≠ 1 && inst.op ≠ 2 then false
  else if inst.op = 1 then verifyCountedLoopGuard src function block inst
  else verifySequenceLoopGuard src function block inst

def verifyLoopAdvanceInstruction (src : Source) (function : Function) (block : Nat) (inst : Instruction) : Bool :=
  let input := firstInput function.values inst.inputs
  let expected := loopParameterBinding src function block inst.bindingStart inst.bindingStop
  loopStatementMatches src inst 14 && loopInstructionMetadataClean inst && inst.argc = 1 && idCount inst.inputs = 1 &&
    input.found && expected.found && input.value.id = expected.binding.value && isU64Ty input.value.ty &&
    isU64Ty inst.ty && inst.op = 0

def verifyLoopIndexInit (src : Source) (_function : Function) (inst : Instruction) : Bool :=
  loopStatementMatches src inst 15 && loopInstructionMetadataClean inst && inst.argc = 0 && inst.inputs.isEmpty &&
    isU64Ty inst.ty && inst.op = 0

/-! ## All instructions -/

def verifyInstruction (src : Source) (function : Function) (block : Nat) (inst : Instruction) (sequence : Nat)
    : Bool :=
  if inst.sequence ≠ sequence || !availableValues function.values inst.inputs block sequence then false
  else
    let resultValue := findValue function.values inst.result
    if !resultValue.found || resultValue.value.kind ≠ 2 || resultValue.value.ownerBlock ≠ block ||
           resultValue.value.index ≠ sequence || !semEq src resultValue.value.ty inst.ty then false
    else if inst.kind = 0 then inst.inputs.isEmpty && scalarType inst.ty
    else if inst.kind = 1 then inst.inputs.isEmpty && scalarType inst.ty
    else if inst.kind = 2 then verifyBinaryInstruction src function inst
    else if inst.kind = 3 then verifyCallInstruction src function inst
    else if inst.kind = 4 then verifyNotInstruction src function inst
    else if inst.kind = 5 then verifyEnumConstructInstruction src function inst
    else if inst.kind = 6 then verifyMatchPayloadInstruction src function inst
    else if inst.kind = 7 then verifyRepeatInstruction src function inst
    else if inst.kind = 8 then verifyProjectInstruction src function inst
    else if inst.kind = 9 then verifyOpInstruction src function inst
    else if inst.kind = 10 then verifySequenceLengthInstruction src function inst
    else if inst.kind = 11 then verifySequenceIndexInstruction src function inst
    else if inst.kind = 12 then verifyScalarCastInstruction src function inst
    else if inst.kind = 13 then verifyLoopGuardInstruction src function block inst
    else if inst.kind = 14 then verifyLoopAdvanceInstruction src function block inst
    else if inst.kind = 15 then verifyLoopIndexInit src function inst
    else if inst.kind = 16 then verifyRecordConstructInstruction src function inst
    else if inst.kind = 17 then verifySequenceViewInstruction src function inst else false

end MncsCompiler.Ssa
