import MncsCompiler.Decl.Scopes

/-!
# `Decl.Signatures` — checked signatures

The signature of a function as the checker of `decl.mncs` keeps it, with the canonical identities of its effects and
capabilities, and the table of all signatures that calls are looked up in.
-/

namespace MncsCompiler.Decl

open BoundedLoop

/-! ## Owners and kinds -/

/-- `mncs:0.2:effect:`, the module, `::` and the name. -/
def canonicalEffectIdentity (src : Source) (moduleStart moduleStop nameStart nameStop : Nat) : SemanticIdentity :=
  let lead : List UInt8 := [109, 110, 99, 115, 58, 48, 46, 50, 58, 101, 102, 102, 101, 99, 116, 58]
  let d := lead.foldl callableIdentityByte identitySeed
  let ownerBytes := callableIdentitySpan src d moduleStart moduleStop
  let sep1 := callableIdentityByte ownerBytes 58
  let sep2 := callableIdentityByte sep1 58
  let name := identityComponentSpan src sep2 nameStart nameStop
  { bytes := name.bytes, len := name.len
    valid := name.valid && moduleStop > moduleStart && nameStop > nameStart }

/-- `mncs:0.2:capability:`, the module, `::` and the name. -/
def canonicalCapabilityIdentity (src : Source) (moduleStart moduleStop nameStart nameStop : Nat) : SemanticIdentity :=
  let lead : List UInt8 := [109, 110, 99, 115, 58, 48, 46, 50, 58, 99, 97, 112, 97, 98, 105, 108, 105, 116, 121, 58]
  let d := lead.foldl callableIdentityByte identitySeed
  let ownerBytes := callableIdentitySpan src d moduleStart moduleStop
  let sep1 := callableIdentityByte ownerBytes 58
  let sep2 := callableIdentityByte sep1 58
  let name := identityComponentSpan src sep2 nameStart nameStop
  { bytes := name.bytes, len := name.len
    valid := name.valid && moduleStop > moduleStart && nameStop > nameStart }

structure EffectIdentityBuild where
  rest : List Effect
  acc : List EffectIdentity
  moduleStart : Nat
  moduleStop : Nat

def canonicalEffectIdentityOne (src : Source) (st : EffectIdentityBuild) (effectFact : Effect) (rest : List Effect)
    : EffectIdentityBuild :=
  let identity := canonicalEffectIdentity src st.moduleStart st.moduleStop effectFact.kindStart effectFact.kindStop
  let capabilityIdentity :=
    canonicalCapabilityIdentity src st.moduleStart st.moduleStop effectFact.capStart effectFact.capStop
  let item : EffectIdentity :=
    { identity := identity, capabilityIdentity := capabilityIdentity
      kindKey := signatureNameKey src effectFact.kindStart effectFact.kindStop
      capabilityKey := signatureNameKey src effectFact.capStart effectFact.capStop }
  { st with rest := rest, acc := item :: st.acc }

def canonicalEffectIdentityStep (src : Source) (st : EffectIdentityBuild) : EffectIdentityBuild :=
  match st.rest with
  | [] => st
  | effectFact :: rest => canonicalEffectIdentityOne src st effectFact rest

def canonicalEffectIdentities (src : Source) (moduleStart moduleStop : Nat) (effects : List Effect)
    : List EffectIdentity :=
  let st := (canonicalEffectIdentityStep src)^[1024]
    { rest := effects, acc := [], moduleStart := moduleStart, moduleStop := moduleStop }
  st.acc

structure CapabilityIdentityBuild where
  rest : List Cap
  acc : List CapabilityIdentity
  moduleStart : Nat
  moduleStop : Nat

def canonicalCapabilityIdentityOne (src : Source) (st : CapabilityIdentityBuild) (cap : Cap) (rest : List Cap)
    : CapabilityIdentityBuild :=
  let item : CapabilityIdentity :=
    { identity := canonicalCapabilityIdentity src st.moduleStart st.moduleStop cap.start cap.stop
      key := signatureNameKey src cap.start cap.stop }
  { st with rest := rest, acc := item :: st.acc }

def canonicalCapabilityIdentityStep (src : Source) (st : CapabilityIdentityBuild) : CapabilityIdentityBuild :=
  match st.rest with
  | [] => st
  | cap :: rest => canonicalCapabilityIdentityOne src st cap rest

def canonicalCapabilityIdentities (src : Source) (moduleStart moduleStop : Nat) (capabilities : List Cap)
    : List CapabilityIdentity :=
  let st := (canonicalCapabilityIdentityStep src)^[1024]
    { rest := capabilities, acc := [], moduleStart := moduleStart, moduleStop := moduleStop }
  st.acc

structure EffectCoverageLookup where
  rest : List EffectIdentity
  want : EffectIdentity
  found : Bool

def effectCoverageLookupOne (st : EffectCoverageLookup) (item : EffectIdentity) (rest : List EffectIdentity)
    : EffectCoverageLookup :=
  if semanticIdentityEqual item.kindKey st.want.kindKey &&
         semanticIdentityEqual item.capabilityKey st.want.capabilityKey then { st with rest := [], found := true }
  else { st with rest := rest }

def effectCoverageLookupStep (st : EffectCoverageLookup) : EffectCoverageLookup :=
  if st.found then st
  else
    match st.rest with
    | [] => st
    | item :: rest => effectCoverageLookupOne st item rest

def effectIdentityCovered (available : List EffectIdentity) (want : EffectIdentity) : Bool :=
  let st := effectCoverageLookupStep^[1024] { rest := available, want := want, found := false }
  st.found

structure EffectNeedScan where
  rest : List EffectIdentity
  ok : Bool

def effectsCoveredStep (available : List EffectIdentity) (st : EffectNeedScan) : EffectNeedScan :=
  if !st.ok then st
  else
    match st.rest with
    | [] => st
    | effectFact :: rest => { rest := rest, ok := effectIdentityCovered available effectFact }

def effectsCovered (available need : List EffectIdentity) : Bool :=
  let st := (effectsCoveredStep available)^[1024] { rest := need, ok := true }
  st.ok

/-! ## Declared nominal types -/

/-- `mncs:0.2:finite-type:`, the module, `::` and the name. -/
def canonicalFiniteTypeIdentity (src : Source) (moduleStart moduleStop nameStart nameStop : Nat) : SemanticIdentity :=
  let lead : List UInt8 :=
    [109, 110, 99, 115, 58, 48, 46, 50, 58, 102, 105, 110, 105, 116, 101, 45, 116, 121, 112, 101, 58]
  let d := lead.foldl callableIdentityByte identitySeed
  let modulePart := identityComponentSpan src d moduleStart moduleStop
  let sep1 := callableIdentityByte modulePart 58
  let sep2 := callableIdentityByte sep1 58
  let typePart := identityComponentSpan src sep2 nameStart nameStop
  { bytes := typePart.bytes, len := typePart.len
    valid := typePart.valid && moduleStop > moduleStart && nameStop > nameStart }

structure DeclNominalWalk where
  enums : List EnumDecl
  records : List RecordDecl
  header : Parser.Header
  acc : List NominalTypeIdentity

def localFiniteIdentity (src : Source) (st : DeclNominalWalk) (item : EnumDecl) (rest : List EnumDecl)
    : DeclNominalWalk :=
  let identity :=
    canonicalFiniteTypeIdentity src st.header.moduleStart st.header.moduleStop item.nameStart item.nameStop
  let nominal : NominalTypeIdentity :=
    { start := item.nameStart, stop := item.nameStop, identity := identity, reference := false }
  { st with enums := rest, acc := nominal :: st.acc }

structure FieldNameOrder where
  left : Field
  right : Field
  offset : Nat
  order : Nat
  done : Bool

def fieldNameOrderStep (src : Source) (st : FieldNameOrder) : FieldNameOrder :=
  if st.done then st
  else
    let leftLen : Nat := st.left.nameStop - st.left.nameStart
    let rightLen : Nat := st.right.nameStop - st.right.nameStart
    if st.offset ≥ leftLen || st.offset ≥ rightLen then
      if leftLen < rightLen then { st with order := 1, done := true }
      else if leftLen > rightLen then { st with order := 2, done := true } else { st with done := true }
    else
      let leftByte := src.byteAt (st.left.nameStart + st.offset)
      let rightByte := src.byteAt (st.right.nameStart + st.offset)
      if leftByte < rightByte then { st with order := 1, done := true }
      else if leftByte > rightByte then { st with order := 2, done := true } else { st with offset := st.offset + 1 }

def fieldNameOrder (src : Source) (left right : Field) : Nat :=
  let st := (fieldNameOrderStep src)^[1024] { left := left, right := right, offset := 0, order := 0, done := false }
  if st.done then st.order
  else
    let leftLen : Nat := left.nameStop - left.nameStart
    let rightLen : Nat := right.nameStop - right.nameStart
    if leftLen < rightLen then 1 else if leftLen > rightLen then 2 else 0

structure FieldMinScan where
  rest : List Field
  found : Bool
  best : Field

def fieldMinCons (src : Source) (st : FieldMinScan) (field : Field) (rest : List Field) : FieldMinScan :=
  if !st.found then { rest := rest, found := true, best := field }
  else if fieldNameOrder src field st.best = 1 then { rest := rest, found := true, best := field }
  else { st with rest := rest, found := true }

def fieldMinStep (src : Source) (st : FieldMinScan) : FieldMinScan :=
  match st.rest with
  | [] => st
  | field :: rest => fieldMinCons src st field rest

def fieldMin (src : Source) (fields : List Field) : FieldMinScan :=
  (iterate (fun _ (st : FieldMinScan) =>
        if st.rest.isEmpty then .ret st
        else .next (fieldMinStep src st))
      0 1024
      { rest := fields, found := false
        best := { nameStart := 0, nameStop := 0, typeStart := 0, typeStop := 0, typeKind := 9 } }).after fun st =>
    st

structure FieldRemove where
  rest : List Field
  reversed : List Field
  target : Field
  removed : Bool

def removeFieldCons (src : Source) (st : FieldRemove) (field : Field) (rest : List Field) : FieldRemove :=
  if !st.removed && spansEqual src field.nameStart field.nameStop st.target.nameStart st.target.nameStop then
    { st with rest := rest, removed := true }
  else { st with rest := rest, reversed := field :: st.reversed }

def removeFieldStep (src : Source) (st : FieldRemove) : FieldRemove :=
  match st.rest with
  | [] => st
  | field :: rest => removeFieldCons src st field rest

def removeField (src : Source) (fields : List Field) (target : Field) : List Field :=
  (iterate (fun _ (st : FieldRemove) =>
        if st.rest.isEmpty then .ret (reverseFields st.reversed)
        else .next (removeFieldStep src st))
      0 1024 { rest := fields, reversed := [], target := target, removed := false }).after fun st =>
    reverseFields st.reversed

def appendField (fields : List Field) (value : Field) : List Field :=
  let reversed := reverseFields fields
  reverseFields (value :: reversed)

structure FieldSort where
  rest : List Field
  sorted : List Field

def sortFieldsStep (src : Source) (st : FieldSort) : FieldSort :=
  let minimum := fieldMin src st.rest
  if !minimum.found then { st with rest := [] }
  else
    let rest := removeField src st.rest minimum.best
    { rest := rest, sorted := appendField st.sorted minimum.best }

def sortFieldsByName (src : Source) (fields : List Field) : List Field :=
  (iterate (fun _ (st : FieldSort) =>
        if st.rest.isEmpty then .ret st.sorted
        else .next (sortFieldsStep src st))
      0 1024 { rest := fields, sorted := [] }).after fun st =>
    st.sorted

def identityComponentRawByte (st : SemanticIdentityBuild) (value : UInt8) : SemanticIdentityBuild :=
  identityComponentByte st value

def recordFieldTypeIdentity (src : Source) (_nominals : List NominalTypeIdentity) (build : SemanticIdentityBuild)
    (field : Field) : SemanticIdentityBuild :=
  if field.typeKind = 5 || field.typeKind = 6 then identityComponentSpan src build field.typeStart field.typeStop
  else if field.typeKind = 1 || field.typeKind = 2 || field.typeKind = 3 || field.typeKind = 4 ||
      field.typeKind = 5 ||
         field.typeKind = 7 || field.typeKind = 8 then identityComponentSpan src build field.typeStart field.typeStop
  else { build with valid := false }

structure RecordIdentityBuild where
  build : SemanticIdentityBuild
  fields : List Field
  nominals : List NominalTypeIdentity
  valid : Bool

def appendRecordFieldIdentityOne (src : Source) (st : RecordIdentityBuild) (field : Field) (rest : List Field)
    : RecordIdentityBuild :=
  let fieldName := identityComponentSpan src st.build field.nameStart field.nameStop
  let colon := identityComponentRawByte fieldName 58
  let ty := recordFieldTypeIdentity src st.nominals colon field
  let semi := identityComponentRawByte ty 59
  { st with build := semi, fields := rest }

def appendRecordFieldIdentity (src : Source) (st : RecordIdentityBuild) : RecordIdentityBuild :=
  match st.fields with
  | [] => st
  | field :: rest => appendRecordFieldIdentityOne src st field rest

/-- `mncs:0.2:record-type:`, the module, `::`, the name, `::` and the fields in the order of their names. -/
def canonicalRecordTypeIdentity (src : Source) (moduleStart moduleStop : Nat) (declaration : RecordDecl)
    (nominals : List NominalTypeIdentity) : SemanticIdentity :=
  let lead : List UInt8 :=
    [109, 110, 99, 115, 58, 48, 46, 50, 58, 114, 101, 99, 111, 114, 100, 45, 116, 121, 112, 101, 58]
  let d := lead.foldl callableIdentityByte identitySeed
  let modulePart := identityComponentSpan src d moduleStart moduleStop
  let sep1 := callableIdentityByte modulePart 58
  let sep2 := callableIdentityByte sep1 58
  let namePart := identityComponentSpan src sep2 declaration.nameStart declaration.nameStop
  let sep3 := callableIdentityByte namePart 58
  let sep4 := callableIdentityByte sep3 58
  let sorted := sortFieldsByName src declaration.fields
  let st := (appendRecordFieldIdentity src)^[1024]
    { build := sep4, fields := sorted, nominals := nominals, valid := true }
  { bytes := st.build.bytes, len := st.build.len
    valid := st.build.valid && st.valid && moduleStop > moduleStart && declaration.nameStop > declaration.nameStart }

def localRecordIdentityOne (src : Source) (st : DeclNominalWalk) (item : RecordDecl) (rest : List RecordDecl)
    : DeclNominalWalk :=
  let identity := canonicalRecordTypeIdentity src st.header.moduleStart st.header.moduleStop item st.acc
  let nominal : NominalTypeIdentity :=
    { start := item.nameStart, stop := item.nameStop, identity := identity, reference := false }
  { st with records := rest, acc := nominal :: st.acc }

def localRecordIdentity (src : Source) (st : DeclNominalWalk) : DeclNominalWalk :=
  match st.records with
  | recordDecl :: rest => localRecordIdentityOne src st recordDecl rest
  | [] => st

def localNominalIdentityStep (src : Source) (st : DeclNominalWalk) : DeclNominalWalk :=
  match st.enums with
  | enumDecl :: rest => localFiniteIdentity src st enumDecl rest
  | [] => localRecordIdentity src st

def localNominalTypeIdentitiesWithReferences (src : Source) (unit : Unit) (references : List NominalTypeIdentity)
    : List NominalTypeIdentity :=
  let st := (localNominalIdentityStep src)^[1024]
    { enums := unit.enums, records := unit.records, header := unit.header, acc := references }
  st.acc

/-! ## Signatures -/

structure Sig where
  start : Nat
  stop : Nat
  params : List Bind
  nparams : Nat
  genericBounds : List Nat
  result : SemType
  fx : List Effect
  rawCapabilities : List Cap
  effects : List EffectIdentity
  capabilities : List CapabilityIdentity
  identity : SemanticIdentity

structure SigRep where
  sig : Sig
  obls : List Obligation

def bindCallableSignature (src : Source) (moduleStart moduleStop : Nat) (sig : Sig) : Sig :=
  let identity := canonicalFunctionIdentity src moduleStart moduleStop sig.start sig.stop
  let effects := canonicalEffectIdentities src moduleStart moduleStop sig.fx
  let capabilities := canonicalCapabilityIdentities src moduleStart moduleStop sig.rawCapabilities
  { sig with effects := effects, capabilities := capabilities, identity := identity }

structure SigIdentityWalk where
  rest : List Sig
  acc : List Sig
  moduleStart : Nat
  moduleStop : Nat

def bindLocalCallableSig (src : Source) (st : SigIdentityWalk) (sig : Sig) (rest : List Sig) : SigIdentityWalk :=
  let owned := bindCallableSignature src st.moduleStart st.moduleStop sig
  { st with rest := rest, acc := owned :: st.acc }

def bindLocalCallableIdentity (src : Source) (st : SigIdentityWalk) : SigIdentityWalk :=
  match st.rest with
  | [] => st
  | sig :: rest => bindLocalCallableSig src st sig rest

def bindLocalCallableIdentityChunk (src : Source) (initial : SigIdentityWalk) : SigIdentityWalk :=
  (iterate (fun _ (st : SigIdentityWalk) =>
        if st.rest.isEmpty then .ret st
        else .next (bindLocalCallableIdentity src st))
      0 1024 initial).after fun st =>
    st

def bindLocalCallableIdentities (src : Source) (header : Parser.Header) (sigs : List Sig) : List Sig :=
  let initial : SigIdentityWalk :=
    { rest := sigs, acc := [], moduleStart := header.moduleStart, moduleStop := header.moduleStop }
  (iterate (fun _ (st : SigIdentityWalk) =>
        if st.rest.isEmpty then .ret st.acc
        else .next (bindLocalCallableIdentityChunk src st))
      0 64 initial).after fun st =>
    st.acc

def paramTypeObl (h : Field) (ty : TyRes) : List Obligation :=
  if ty.ok then []
  else if h.typeKind = 6 then { kind := 31, start := h.typeStart, stop := h.typeStop, status := 1 } :: []
  else { kind := 19, start := h.typeStart, stop := h.typeStop, status := 1 } :: []

def paramBoundType (ty : TyRes) : SemType := if ty.ok then ty.ty else .tPoison

structure ParamState where
  rest : List Field
  binds : List Bind
  seen : List NameSpan
  n : Nat
  obls : List Obligation

def checkOneParam (src : Source) (st : ParamState) (h : Field) (t : List Field) (rectab : List RecordDecl)
    (enumtab : List EnumDecl) (nominals : List NominalTypeIdentity) (generics : List GenericParam) : ParamState :=
  let ty := resolveSignatureType src h.typeKind h.typeStart h.typeStop rectab enumtab nominals generics
  let tob := paramTypeObl h ty
  if nameKnown src st.seen h.nameStart h.nameStop then
    let dob : Obligation := { kind := 5, start := h.nameStart, stop := h.nameStop, status := 1 }
    { st with rest := t, obls := dob :: appendObls tob st.obls }
  else
    let seen : List NameSpan := { start := h.nameStart, stop := h.nameStop } :: st.seen
    let bound := paramBoundType ty
    let binds : List Bind := { start := h.nameStart, stop := h.nameStop, ty := bound } :: st.binds
    { rest := t, binds := binds, seen := seen, n := st.n + 1, obls := appendObls tob st.obls }

def checkParamsStep (src : Source) (st : ParamState) (rectab : List RecordDecl) (enumtab : List EnumDecl)
    (nominals : List NominalTypeIdentity) (generics : List GenericParam) : ParamState :=
  match st.rest with
  | [] => st
  | h :: t => checkOneParam src st h t rectab enumtab nominals generics

structure ParamRep where
  binds : List Bind
  n : Nat
  obls : List Obligation

def checkParams (src : Source) (params : List Field) (rectab : List RecordDecl) (enumtab : List EnumDecl)
    (nominals : List NominalTypeIdentity) (generics : List GenericParam) : ParamRep :=
  let d := (fun d => checkParamsStep src d rectab enumtab nominals generics)^[1024]
    { rest := params, binds := [], seen := [], n := 0, obls := [] }
  { binds := d.binds, n := d.n, obls := reverseObls d.obls }

structure ResultState where
  rest : List Field
  n : Nat
  ty : SemType
  obls : List Obligation

def resultKeptType (st : ResultState) (bound : SemType) : SemType := if st.n = 0 then bound else st.ty

def checkOneResult (src : Source) (st : ResultState) (h : Field) (t : List Field) (rectab : List RecordDecl)
    (enumtab : List EnumDecl) (nominals : List NominalTypeIdentity) (generics : List GenericParam) : ResultState :=
  let ty := resolveSignatureType src h.typeKind h.typeStart h.typeStop rectab enumtab nominals generics
  let tob := paramTypeObl h ty
  let bound := paramBoundType ty
  let kept := resultKeptType st bound
  { rest := t, n := st.n + 1, ty := kept, obls := appendObls tob st.obls }

def checkResultsStep (src : Source) (st : ResultState) (rectab : List RecordDecl) (enumtab : List EnumDecl)
    (nominals : List NominalTypeIdentity) (generics : List GenericParam) : ResultState :=
  match st.rest with
  | [] => st
  | h :: t => checkOneResult src st h t rectab enumtab nominals generics

structure ResultRep where
  ty : SemType
  obls : List Obligation

def finishResults (st : ResultState) (fnStart fnStop : Nat) : ResultRep :=
  let ordered := reverseObls st.obls
  if st.n = 1 then { ty := st.ty, obls := ordered }
  else
    let obl : Obligation := { kind := 18, start := fnStart, stop := fnStop, status := 1 }
    { ty := .tPoison, obls := appendObls ordered (obl :: []) }

def checkResults (src : Source) (results : List Field) (fnStart fnStop : Nat) (rectab : List RecordDecl)
    (enumtab : List EnumDecl) (nominals : List NominalTypeIdentity) (generics : List GenericParam) : ResultRep :=
  let d := (fun d => checkResultsStep src d rectab enumtab nominals generics)^[1024]
    { rest := results, n := 0, ty := .tPoison, obls := [] }
  finishResults d fnStart fnStop

structure CapState where
  rest : List Cap
  caps : List NameSpan
  obls : List Obligation

def checkOneCap (src : Source) (st : CapState) (h : Cap) (t : List Cap) : CapState :=
  if nameKnown src st.caps h.start h.stop then
    let obl : Obligation := { kind := 5, start := h.start, stop := h.stop, status := 1 }
    { st with rest := t, obls := obl :: st.obls }
  else
    let caps : List NameSpan := { start := h.start, stop := h.stop } :: st.caps
    { st with rest := t, caps := caps }

def checkCapsStep (src : Source) (st : CapState) : CapState :=
  match st.rest with
  | [] => st
  | h :: t => checkOneCap src st h t

structure CapRep where
  caps : List NameSpan
  obls : List Obligation

def checkCaps (src : Source) (caps : List Cap) : CapRep :=
  let d := (checkCapsStep src)^[1024] { rest := caps, caps := [], obls := [] }
  { caps := d.caps, obls := reverseObls d.obls }

structure FxState where
  rest : List Effect
  fx : List Effect
  obls : List Obligation

def checkOneEffect (src : Source) (st : FxState) (h : Effect) (t : List Effect) (caps : List NameSpan) : FxState :=
  if nameKnown src caps h.capStart h.capStop then { st with rest := t, fx := h :: st.fx }
  else
    let obl : Obligation := { kind := 17, start := h.kindStart, stop := h.capStop, status := 1 }
    { st with rest := t, obls := obl :: st.obls }

def checkEffectsStep (src : Source) (st : FxState) (caps : List NameSpan) : FxState :=
  match st.rest with
  | [] => st
  | h :: t => checkOneEffect src st h t caps

structure FxRep where
  fx : List Effect
  obls : List Obligation

def checkEffects (src : Source) (effects : List Effect) (caps : List NameSpan) : FxRep :=
  let d := (fun d => checkEffectsStep src d caps)^[1024] { rest := effects, fx := [], obls := [] }
  { fx := reverseEffects d.fx, obls := reverseObls d.obls }

structure ClauseState where
  rest : List Clause
  obls : List Obligation

def checkContractsStep (st : ClauseState) : ClauseState :=
  match st.rest with
  | [] => st
  | h :: t => { rest := t, obls := { kind := 16, start := h.kindStart, stop := h.nameStop, status := 2 } :: st.obls }

def checkContracts (clauses : List Clause) : List Obligation :=
  let d := checkContractsStep^[1024] { rest := clauses, obls := [] }
  reverseObls d.obls

def checkSig (src : Source) (h : FnDecl) (rectab : List RecordDecl) (enumtab : List EnumDecl)
    (nominals : List NominalTypeIdentity) : SigRep :=
  let sg := h.sig
  let ps := checkParams src sg.params rectab enumtab nominals sg.generics
  let rs := checkResults src sg.results h.fnStart h.fnStop rectab enumtab nominals sg.generics
  let cs := checkCaps src sg.capabilities
  let es := checkEffects src sg.effects cs.caps
  let ks := checkContracts sg.contracts
  let o1 := appendObls ps.obls rs.obls
  let o2 := appendObls o1 cs.obls
  let o3 := appendObls o2 es.obls
  let obls := appendObls o3 ks
  { sig :=
      { start := sg.nameStart, stop := sg.nameStop, params := ps.binds, nparams := ps.n
        genericBounds := buildGenericBounds src sg.generics, result := rs.ty, fx := es.fx
        rawCapabilities := sg.capabilities, effects := [], capabilities := [], identity := invalidSemanticIdentity }
    obls := obls }

/-! ## The table of signatures -/

structure SigScan where
  rest : List Sig
  start : Nat
  stop : Nat
  found : Bool
  sig : Sig

def sigLookupCons (src : Source) (st : SigScan) (h : Sig) (t : List Sig) : SigScan :=
  if spansEqual src h.start h.stop st.start st.stop then { st with rest := [], found := true, sig := h }
  else { st with rest := t, found := false }

def sigLookupStep (src : Source) (st : SigScan) : SigScan :=
  if st.found then st
  else
    match st.rest with
    | [] => st
    | h :: t => sigLookupCons src st h t

def sigLookupChunk (src : Source) (initial : SigScan) : SigScan :=
  (iterate (fun _ (d : SigScan) =>
        if d.found || d.rest.isEmpty then .ret d
        else .next (sigLookupStep src d))
      0 1024 initial).after fun d =>
    d

structure SigRes where
  found : Bool
  sig : Sig

def sigLookup (src : Source) (sigs : List Sig) (start stop : Nat) : SigRes :=
  let initial : SigScan :=
    { rest := sigs, start := start, stop := stop, found := false
      sig :=
        { start := 0, stop := 0, params := [], nparams := 0, genericBounds := [], result := .tPoison, fx := []
          rawCapabilities := [], effects := [], capabilities := [], identity := invalidSemanticIdentity } }
  (iterate (fun _ (d : SigScan) =>
        if d.found || d.rest.isEmpty then .ret { found := d.found, sig := d.sig }
        else .next (sigLookupChunk src d))
      0 64 initial).after fun d =>
    { found := d.found, sig := d.sig }

structure SigMerge where
  rest : List Sig
  acc : List Sig

def mergeSigTablesStep (st : SigMerge) : SigMerge :=
  match st.rest with
  | [] => st
  | sig :: rest => { rest := rest, acc := sig :: st.acc }

def mergeSigTables (isLocal imported : List Sig) : List Sig :=
  let st := mergeSigTablesStep^[1024] { rest := isLocal, acc := imported }
  st.acc

def isTypeOblKind (k : Nat) : Bool := if k = 19 then true else if k = 31 then true else false

structure OblKeep where
  rest : List Obligation
  acc : List Obligation
  keep : Bool

def oblFilterCons (st : OblKeep) (h : Obligation) (t : List Obligation) : OblKeep :=
  if isTypeOblKind h.kind then if st.keep then { st with rest := t, acc := h :: st.acc } else { st with rest := t }
  else if st.keep then { st with rest := t } else { st with rest := t, acc := h :: st.acc }

def oblFilterStep (st : OblKeep) : OblKeep :=
  match st.rest with
  | [] => st
  | h :: t => oblFilterCons st h t

def oblFilterTypes (obls : List Obligation) (keep : Bool) : List Obligation :=
  let d := oblFilterStep^[1024] { rest := obls, acc := [], keep := keep }
  reverseObls d.acc

def oblOnlyTypes (obls : List Obligation) : List Obligation := oblFilterTypes obls true

structure SigWalk where
  rest : List FnDecl
  tab : List Sig
  obls : List Obligation
  nominals : List NominalTypeIdentity

def collectOneSig (src : Source) (st : SigWalk) (h : FnDecl) (t : List FnDecl) (rectab : List RecordDecl)
    (enumtab : List EnumDecl) (nominals : List NominalTypeIdentity) : SigWalk :=
  let rep := checkSig src h rectab enumtab nominals
  let tob := oblOnlyTypes rep.obls
  { rest := t, tab := rep.sig :: st.tab, obls := appendObls st.obls tob, nominals := nominals }

def collectSigtabStep (src : Source) (st : SigWalk) (rectab : List RecordDecl) (enumtab : List EnumDecl)
    (nominals : List NominalTypeIdentity) : SigWalk :=
  match st.rest with
  | [] => st
  | h :: t => collectOneSig src st h t rectab enumtab nominals

def collectSigtabChunk (src : Source) (initial : SigWalk) (rectab : List RecordDecl) (enumtab : List EnumDecl)
    (nominals : List NominalTypeIdentity) : SigWalk :=
  (iterate (fun _ (d : SigWalk) =>
        if d.rest.isEmpty then .ret d
        else .next (collectSigtabStep src d rectab enumtab nominals))
      0 1024 initial).after fun d =>
    d

structure SigTabRep where
  tab : List Sig
  obls : List Obligation

def collectSigtab (src : Source) (fns : List FnDecl) (rectab : List RecordDecl) (enumtab : List EnumDecl)
    (nominals : List NominalTypeIdentity) : SigTabRep :=
  (iterate (fun _ (d : SigWalk) =>
        if d.rest.isEmpty then .ret { tab := d.tab, obls := d.obls }
        else .next (collectSigtabChunk src d rectab enumtab nominals))
      0 64 { rest := fns, tab := [], obls := [], nominals := nominals }).after fun d =>
    { tab := d.tab, obls := d.obls }

end MncsCompiler.Decl
