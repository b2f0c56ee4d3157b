import MncsCompiler.Decl.Signatures

/-!
# `Decl.Check` — the checker of expressions

`prove_expr` of `decl.mncs` checks an expression with an explicit machine: a job carries the type that its position
asks for, and a continuation resumes the parent when the type of a part is known. A step records obligations as it goes
and emits the typed operation of every expression that it establishes.

## Status of an obligation
1 failed, 2 accepted but left to run time.
-/

namespace MncsCompiler.Decl

open BoundedLoop

/-- An expression to check, with the type that its position asks for. -/
structure SemJob where
  e : Expr
  exp : ExpTy

structure ConstructJob where
  value : Expr
  ty : SemType
  vs : Nat
  ve : Nat
  mismatchKind : Nat

/-- What is left to do with the type of a checked part. -/
inductive SemKont where
  | kTop
  | kNot (start stop : Nat) (exp : ExpTy)
  | kRepeat (count start stop : Nat) (exp : ExpTy)
  | kScalarSubject (arms : List ScalarMatchArm) (resultTy : SemType) (ss se start stop : Nat)
  | kMatchArm (remaining : List ScalarMatchArm) (current : ScalarMatchArm) (completed : List TypedScalarMatchArm)
      (priorTops : Nat) (subjectTy resultTy : SemType) (armCount defaultCount rs re start stop : Nat)
  | kFiniteSubject (arms : List FiniteMatchArm) (resultTy : SemType) (ss se start stop : Nat)
  | kFiniteArm (remaining all : List FiniteMatchArm) (current : FiniteMatchArm)
      (completed : List TypedFiniteMatchArm) (payloadFields : List Bind) (typeIdentity : SemanticIdentity)
        (priorTops : Nat) (subjectTy : SemType) (es ee : Nat) (resultTy : SemType) (armCount : Nat)
          (env : List Scope) (rs re start stop : Nat)
  | kRecordBase (declared : List Field) (fields : List ConstructField) (ty : SemType)
      (typeStart typeStop baseStart baseStop start stop : Nat) (exp : ExpTy)
  | kConstructField (remaining : List ConstructJob) (total : Nat) (ty : SemType) (params : List Bind) (vs ve : Nat)
      (cty : SemType) (cvs cve mismatchKind : Nat) (shapeOk isRecord : Bool) (diagnosticStop start stop : Nat)
        (exp : ExpTy)
  | kBinL (op : Nat) (right : Expr) (start stop : Nat) (exp : ExpTy)
  | kBinR (op : Nat) (lty : SemType) (start stop : Nat) (rlit : Bool) (exp : ExpTy)
  | kCallA (sig : Sig) (args : List Expr) (ptys : List SemType) (start stop : Nat) (exp : ExpTy)
  | kProj (fstart fend bstart bend start stop : Nat) (exp : ExpTy)
  | kOpA (slot ns ne : Nat) (args : List Expr) (index start stop : Nat) (exp : ExpTy)
  | kIndexBase (index : Expr) (baseStart baseStop start stop : Nat) (exp : ExpTy)
  | kIndexValue (baseTy : SemType) (index : Expr) (start stop : Nat) (exp : ExpTy)
  | kSliceBase (startIndex endIndex : Expr) (baseStart baseStop start stop : Nat) (exp : ExpTy)
  | kSliceStart (baseTy : SemType) (startIndex endIndex : Expr) (start stop : Nat) (exp : ExpTy)
  | kSliceEnd (baseTy : SemType) (endIndex : Expr) (start stop : Nat) (exp : ExpTy)
  | kCastValue (typeKind typeStart typeStop start stop : Nat) (exp : ExpTy)
  | kSelectCondition (trueValue falseValue : Expr) (conditionStart conditionStop ns ne start stop : Nat) (exp : ExpTy)
  | kSelectTrue (conditionTy : SemType) (conditionStart conditionStop : Nat) (falseValue : Expr)
      (trueStart trueStop ns ne start stop : Nat) (exp : ExpTy)
  | kSelectFalse (conditionTy : SemType) (conditionStart conditionStop : Nat) (trueTy : SemType)
      (trueStart trueStop falseStart falseStop ns ne start stop : Nat) (exp : ExpTy)

/-- The machine: the expressions still to check over the continuations that wait for their types. -/
structure SemState where
  jobs : List SemJob
  konts : List SemKont
  obls : List Obligation
  tops : List TOp
  lastTy : SemType
  topTy : SemType
  failed : Bool
  env : List Scope
  sigs : List Sig
  rectab : List RecordDecl
  enumtab : List EnumDecl
  nominals : List NominalTypeIdentity
  importedRecords : List ImportedRecordSchema
  importedEnums : List ImportedEnumSchema
  effects : List EffectIdentity
  callerFx : List Effect
  callerCaps : List Cap
  gparams : List GenericParam
  total : Nat

structure ExprRes where
  ty : SemType
  ok : Bool
  obls : List Obligation
  tops : List TOp

def semEmit (st : SemState) (kind start stop status : Nat) : SemState :=
  { st with obls := { kind := kind, start := start, stop := stop, status := status } :: st.obls }

def semEmitTop (st : SemState) (top : TOp) : SemState := { st with tops := top :: st.tops }

def semDrain (st : SemState) : SemState := { st with jobs := [], konts := [], failed := true }

def semAccept (st : SemState) (ty : SemType) : SemState := { st with lastTy := ty }

structure RecordConstructSpanScan where
  rest : List ConstructField
  stop : Nat

def recordConstructSpanStep (st : RecordConstructSpanScan) : RecordConstructSpanScan :=
  match st.rest with
  | [] => st
  | field :: rest => { rest := rest, stop := exprEnd field.value }

structure ExprSpan where
  start : Nat
  stop : Nat

def recordConstructSpan (fields : List ConstructField) (base : Expr) (hasBase : Bool) (typeStart typeStop : Nat)
    : ExprSpan :=
  let initialStop : Nat := if hasBase then exprEnd base else typeStop
  let st := recordConstructSpanStep^[1024] { rest := fields, stop := initialStop }
  { start := typeStart, stop := st.stop }

def exprSpan (e : Expr) : ExprSpan :=
  match e with
  | .name s e2 => { start := s, stop := e2 }
  | .integer s e2 _ _ => { start := s, stop := e2 }
  | .boolean s e2 _ => { start := s, stop := e2 }
  | .unaryNot _ s e2 => { start := s, stop := e2 }
  | .repeated _ _ _ _ s e2 => { start := s, stop := e2 }
  | .sequenceLiteral _ s e2 => { start := s, stop := e2 }
  | .scalarMatch _ _ s e2 => { start := s, stop := e2 }
  | .binary _ _ _ s e2 => { start := s, stop := e2 }
  | .call _ _ _ _ s e2 => { start := s, stop := e2 }
  | .project _ _ _ s e2 _ => { start := s, stop := e2 }
  | .finiteMatch _ _ s e2 => { start := s, stop := e2 }
  | .enumConstruct _ _ _ _ _ s e2 => { start := s, stop := e2 }
  | .index _ _ is' ie => { start := is', stop := ie }
  | .slice _ _ _ ss se => { start := ss, stop := se }
  | .cast _ _ _ _ cs ce => { start := cs, stop := ce }
  | .recordConstruct ts te b hb f _ _ => recordConstructSpan f b hb ts te
  | .opCall _ _ _ _ s e2 => { start := s, stop := e2 }

/-! ## Scalar matches -/

def seedScalarMatchSubject (st : SemState) (subject : Expr) (arms : List ScalarMatchArm) (start stop : Nat)
    (resultTy : SemType) : SemState :=
  let ssp := exprSpan subject
  let job : SemJob := { e := subject, exp := .xNone }
  let kont : SemKont := .kScalarSubject arms resultTy ssp.start ssp.stop start stop
  { st with jobs := job :: st.jobs, konts := kont :: st.konts }

def seedScalarMatch (st : SemState) (subject : Expr) (arms : List ScalarMatchArm) (start stop : Nat) (exp : ExpTy)
    : SemState :=
  match exp with
  | .xNone => semDrain (semEmit st 2 start stop 1)
  | .xSome resultTy => seedScalarMatchSubject st subject arms start stop resultTy

structure PatternCheck where
  rest : List ScalarMatchArm
  seen : List Nat
  subjectTy : SemType
  defaultSeen : Bool
  ok : Bool

def scalarMatchPatternCheckArm (st : PatternCheck) (arm : ScalarMatchArm) (rest : List ScalarMatchArm)
    : PatternCheck :=
  if arm.isDefault then
    if !rest.isEmpty then { st with rest := [], ok := false }
    else { st with rest := [], defaultSeen := true, ok := true }
  else if !scalarPatternValid st.subjectTy arm.negative arm.value arm.overflow then
    { st with rest := [], ok := false }
  else
    let payload : Nat := if arm.negative then negativePayload arm.value else arm.value
    if patternSeen st.seen payload then { st with rest := [], ok := false }
    else { rest := rest, seen := payload :: st.seen, subjectTy := st.subjectTy, defaultSeen := false, ok := true }

def scalarMatchPatternStep (st : PatternCheck) : PatternCheck :=
  if !st.ok || st.defaultSeen then st
  else
    match st.rest with
    | [] => st
    | arm :: rest => scalarMatchPatternCheckArm st arm rest

def scalarMatchPatternsOk (arms : List ScalarMatchArm) (subjectTy : SemType) : Bool :=
  let d := scalarMatchPatternStep^[1024]
    { rest := arms, seen := [], subjectTy := subjectTy, defaultSeen := false, ok := true }
  d.ok && d.defaultSeen

structure ScalarMatchCount where
  rest : List ScalarMatchArm
  n : Nat
  defaults : Nat

def scalarMatchCountStep (st : ScalarMatchCount) : ScalarMatchCount :=
  match st.rest with
  | [] => st
  | arm :: rest => { rest := rest, n := st.n + 1, defaults := st.defaults + (if arm.isDefault then 1 else 0) }

def scalarMatchCount (arms : List ScalarMatchArm) : ScalarMatchCount :=
  scalarMatchCountStep^[1024] { rest := arms, n := 0, defaults := 0 }

structure TopsCount where
  rest : List TOp
  n : Nat

def countTopsStep (st : TopsCount) : TopsCount :=
  match st.rest with
  | [] => st
  | _ :: t => { rest := t, n := st.n + 1 }

def pushScalarMatchJob (st : SemState) (arm : ScalarMatchArm) (remaining : List ScalarMatchArm)
    (completed : List TypedScalarMatchArm) (subjectTy resultTy : SemType) (armCount defaultCount start stop : Nat)
    : SemState :=
  let vsp := exprSpan arm.result
  let priorTops := countTops st.tops
  let job : SemJob := { e := arm.result, exp := .xSome resultTy }
  let kont : SemKont :=
    .kMatchArm remaining arm completed priorTops subjectTy resultTy armCount defaultCount vsp.start vsp.stop start
      stop
  { st with jobs := job :: st.jobs, konts := kont :: st.konts }

def seedScalarMatchArm (st : SemState) (remaining : List ScalarMatchArm) (subjectTy resultTy : SemType)
    (armCount defaultCount start stop : Nat) : SemState :=
  match remaining with
  | [] => semDrain st
  | arm :: rest => pushScalarMatchJob st arm rest [] subjectTy resultTy armCount defaultCount start stop

def seedScalarMatchInt (st : SemState) (arms : List ScalarMatchArm) (start stop : Nat) (resultTy subjectTy : SemType)
    : SemState :=
  if !scalarMatchPatternsOk arms subjectTy then semDrain (semEmit st 2 start stop 1)
  else
    let count := scalarMatchCount arms
    if count.defaults ≠ 1 || count.n = 0 then semDrain (semEmit st 2 start stop 1)
    else seedScalarMatchArm st arms subjectTy resultTy count.n count.defaults start stop

structure ScalarMismatchScan where
  rest : List ScalarMatchArm
  obls : List Obligation

def scalarMismatchStep (st : ScalarMismatchScan) : ScalarMismatchScan :=
  match st.rest with
  | [] => st
  | arm :: rest =>
      { rest := rest, obls := { kind := 38, start := arm.patternStart, stop := arm.patternStop
                                status := 1 } :: st.obls }

def semEmitScalarArmMismatch (st : SemState) (arms : List ScalarMatchArm) (start stop : Nat) : SemState :=
  let d := scalarMismatchStep^[1024] { rest := arms, obls := st.obls }
  { st with obls := { kind := 40, start := start, stop := stop, status := 1 } :: d.obls }

def seedScalarMatchNamed (src : Source) (st : SemState) (arms : List ScalarMatchArm) (start stop es ee ss se : Nat)
    : SemState :=
  let found := enumLookup src st.enumtab es ee
  if found.found then semDrain (semEmitScalarArmMismatch st arms start stop)
  else
    let record := recLookup src st.rectab es ee
    if record.found then semDrain (semEmit st 51 ss se 1) else semDrain (semEmit st 2 start stop 1)

def applyScalarMatchSubject (src : Source) (st : SemState) (arms : List ScalarMatchArm) (resultTy : SemType)
    (ss se start stop : Nat) : SemState :=
  let subjectTy := st.lastTy
  if isPoison subjectTy then semDrain (semEmit st 2 ss se 1)
  else
    match subjectTy with
    | .tInt _ _ => seedScalarMatchInt st arms start stop resultTy subjectTy
    | .tBool => semDrain (semEmitScalarArmMismatch st arms start stop)
    | .tNamed es ee => seedScalarMatchNamed src st arms start stop es ee ss se
    | _ => semDrain (semEmit st 2 start stop 1)

def armResultCheck (src : Source) (st : SemState) (resultTy : SemType) (rs re : Nat) : SemState :=
  if semEq src st.lastTy resultTy then st else semEmit st 41 rs re 1

structure TopsPrefixSplit where
  rest : List TOp
  taken : List TOp
  remaining : Nat
  ok : Bool

def splitTopsPrefixStep (st : TopsPrefixSplit) : TopsPrefixSplit :=
  if !st.ok || st.remaining = 0 then st
  else
    match st.rest with
    | [] => { st with ok := false }
    | h :: t => { rest := t, taken := h :: st.taken, remaining := st.remaining - 1, ok := true }

def splitTopsPrefix (tops : List TOp) (count : Nat) : TopsPrefixSplit :=
  let st := splitTopsPrefixStep^[1024] { rest := tops, taken := [], remaining := count, ok := true }
  { st with ok := st.ok && st.remaining = 0 }

def reverseTypedScalarMatchArms (arms : List TypedScalarMatchArm) : List TypedScalarMatchArm := reverseWithin 1024
  arms

def finishScalarMatch (st : SemState) (completed : List TypedScalarMatchArm) (subjectTy resultTy : SemType)
    (armCount defaultCount start stop : Nat) : SemState :=
  let arms := reverseTypedScalarMatchArms completed
  let top : TOp := .tMatch resultTy subjectTy arms armCount defaultCount start stop
  semEmitTop (semAccept st resultTy) top

def continueScalarMatchArm (src : Source) (st : SemState) (remaining : List ScalarMatchArm) (current : ScalarMatchArm)
    (completed : List TypedScalarMatchArm) (priorTops : Nat) (subjectTy resultTy : SemType)
    (armCount defaultCount rs re start stop : Nat) : SemState :=
  let checked := armResultCheck src st resultTy rs re
  let totalTops := countTops checked.tops
  let delta : Nat := if totalTops ≥ priorTops then totalTops - priorTops else 0
  let split := splitTopsPrefix checked.tops delta
  let armOps := split.taken
  let typedArm : TypedScalarMatchArm :=
    .mk current.isDefault current.negative current.value current.overflow current.patternStart current.patternStop
      armOps (countTops armOps)
  let completedNext : List TypedScalarMatchArm := typedArm :: completed
  let restored : SemState :=
    { checked with tops := split.rest, failed := checked.failed || totalTops < priorTops || !split.ok }
  match remaining with
  | [] => finishScalarMatch restored completedNext subjectTy resultTy armCount defaultCount start stop
  | arm :: rest =>
      pushScalarMatchJob restored arm rest completedNext subjectTy resultTy armCount defaultCount start stop

/-! ## Finite matches -/

def seedFiniteMatchSubject (st : SemState) (subject : Expr) (arms : List FiniteMatchArm) (resultTy : SemType)
    (start stop : Nat) : SemState :=
  let ssp := exprSpan subject
  let job : SemJob := { e := subject, exp := .xNone }
  let kont : SemKont := .kFiniteSubject arms resultTy ssp.start ssp.stop start stop
  { st with jobs := job :: st.jobs, konts := kont :: st.konts }

def seedFiniteMatch (st : SemState) (subject : Expr) (arms : List FiniteMatchArm) (start stop : Nat) (exp : ExpTy)
    : SemState :=
  match exp with
  | .xNone => semDrain (semEmit st 2 start stop 1)
  | .xSome resultTy => seedFiniteMatchSubject st subject arms resultTy start stop

def finiteTypeQualifierMatches (src : Source) (nominals : List NominalTypeIdentity) (wanted : SemanticIdentity)
    (start stop : Nat) : Bool :=
  let isLocal := nominalIdentityByName src nominals start stop
  if isLocal.found then semanticIdentityEqual isLocal.identity wanted
  else
    let imported := nominalIdentityAt nominals start stop
    imported.found && semanticIdentityEqual imported.identity wanted

structure PayloadBoundScan where
  rest : List PayloadBinding
  bound : List NameSpan
  obls : List Obligation
  failed : Bool

def checkOnePayloadBinding (src : Source) (st : PayloadBoundScan) (fields : List Field) (binding : PayloadBinding)
    (rest : List PayloadBinding) : PayloadBoundScan :=
  let found := fieldScan src fields binding.fieldStart binding.fieldStop
  if !found.found then
    { rest := rest, bound := st.bound
      obls := { kind := 44, start := binding.fieldStart, stop := binding.fieldStop, status := 1 } :: st.obls
      failed := true }
  else if nameKnown src st.bound binding.fieldStart binding.fieldStop then
    { rest := rest, bound := st.bound
      obls := { kind := 46, start := binding.fieldStart, stop := binding.fieldStop, status := 1 } :: st.obls
      failed := true }
  else
    let bound : List NameSpan := { start := binding.fieldStart, stop := binding.fieldStop } :: st.bound
    { st with rest := rest, bound := bound }

def payloadBoundStep (src : Source) (st : PayloadBoundScan) (fields : List Field) : PayloadBoundScan :=
  match st.rest with
  | [] => st
  | binding :: rest => checkOnePayloadBinding src st fields binding rest

structure PayloadBound where
  bound : List NameSpan
  obls : List Obligation
  failed : Bool

def checkPayloadBindings (src : Source) (fields : List Field) (bindings : List PayloadBinding) : PayloadBound :=
  let d := (fun d => payloadBoundStep src d fields)^[1024]
    { rest := bindings, bound := [], obls := [], failed := false }
  { bound := d.bound, obls := d.obls, failed := d.failed }

structure PayloadShapeScan where
  rest : List Field
  bound : List NameSpan
  ok : Bool

def payloadShapeStep (src : Source) (st : PayloadShapeScan) : PayloadShapeScan :=
  if !st.ok then st
  else
    match st.rest with
    | [] => st
    | field :: rest => { st with rest := rest, ok := nameKnown src st.bound field.nameStart field.nameStop }

def payloadShapeOk (src : Source) (fields : List Field) (bound : List NameSpan) : Bool :=
  let d := (payloadShapeStep src)^[1024] { rest := fields, bound := bound, ok := true }
  d.ok

structure FiniteArmCheck where
  rest : List FiniteMatchArm
  seen : List NameSpan
  covered : List NameSpan
  obls : List Obligation
  failed : Bool
  typeIdentity : SemanticIdentity
  nominals : List NominalTypeIdentity

def checkOneFiniteArm (src : Source) (st : FiniteArmCheck) (decl : EnumDecl) (arm : FiniteMatchArm)
    (rest : List FiniteMatchArm) : FiniteArmCheck :=
  if arm.pattern.hasQualifier &&
         !finiteTypeQualifierMatches src st.nominals st.typeIdentity arm.pattern.qualifierStart
           arm.pattern.qualifierStop then
    { st with
      rest := rest
      obls :=
        { kind := 75, start := arm.pattern.qualifierStart, stop := arm.pattern.qualifierStop, status := 1 } :: st.obls
      failed := true }
  else
    let found := variantScan src decl.variants arm.pattern.variantStart arm.pattern.variantStop
    if !found.found then
      { st with
        rest := rest
        obls :=
          { kind := 38, start := arm.pattern.variantStart, stop := arm.pattern.variantStop, status := 1 } :: st.obls
        failed := true }
    else if nameKnown src st.seen arm.pattern.variantStart arm.pattern.variantStop then
      { st with
        rest := rest
        obls :=
          { kind := 39, start := arm.pattern.variantStart, stop := arm.pattern.variantStop, status := 1 } :: st.obls
        failed := true }
    else
      let seen : List NameSpan := { start := arm.pattern.variantStart, stop := arm.pattern.variantStop } :: st.seen
      let bound := checkPayloadBindings src found.variant.fields arm.pattern.bindings
      let obls := appendObls (reverseObls bound.obls) st.obls
      let shapeOk : Bool := arm.pattern.ignorePayload || payloadShapeOk src found.variant.fields bound.bound
      if !shapeOk then
        { st with
          rest := rest, seen := seen
          obls :=
            { kind := 47, start := arm.pattern.variantStart, stop := arm.pattern.variantStop, status := 1 } :: obls
          failed := true }
      else
        let failed : Bool := st.failed || bound.failed
        let covered : List NameSpan :=
          { start := arm.pattern.variantStart, stop := arm.pattern.variantStop } :: st.covered
        { st with rest := rest, seen := seen, covered := covered, obls := obls, failed := failed }

def finiteArmCheckStep (src : Source) (st : FiniteArmCheck) (decl : EnumDecl) : FiniteArmCheck :=
  match st.rest with
  | [] => st
  | arm :: rest => checkOneFiniteArm src st decl arm rest

structure CoverageScan where
  rest : List Variant
  covered : List NameSpan
  ok : Bool

def coverageScanStep (src : Source) (st : CoverageScan) : CoverageScan :=
  if !st.ok then st
  else
    match st.rest with
    | [] => st
    | variant :: rest => { st with rest := rest, ok := nameKnown src st.covered variant.nameStart variant.nameStop }

def finiteCoverageCheck (src : Source) (st : FiniteArmCheck) (decl : EnumDecl) (start stop : Nat) : FiniteArmCheck :=
  let d := (coverageScanStep src)^[1024] { rest := decl.variants, covered := st.covered, ok := true }
  if d.ok then st
  else
    { st with
      rest := [], obls := { kind := 40, start := start, stop := stop, status := 1 } :: st.obls, failed := true }

structure FiniteMatchCount where
  rest : List FiniteMatchArm
  n : Nat

def finiteMatchCountStep (st : FiniteMatchCount) : FiniteMatchCount :=
  match st.rest with
  | [] => st
  | _ :: rest => { rest := rest, n := st.n + 1 }

def finiteMatchCount (arms : List FiniteMatchArm) : FiniteMatchCount :=
  (iterate (fun _ (d : FiniteMatchCount) =>
        if d.rest.isEmpty then .ret d
        else .next (finiteMatchCountStep d))
      0 1024 { rest := arms, n := 0 }).after fun d =>
    d

def armBindingTy (fty : TyRes) : SemType := if fty.ok then fty.ty else .tPoison

structure ArmScopeScan where
  rest : List PayloadBinding
  scope : List Scope

def bindOneArmName (src : Source) (st : ArmScopeScan) (fields : List Field) (binding : PayloadBinding)
    (rest : List PayloadBinding) (rectab : List RecordDecl) (enumtab : List EnumDecl)
    (nominals : List NominalTypeIdentity) : ArmScopeScan :=
  let found := fieldScan src fields binding.fieldStart binding.fieldStop
  if !found.found then { st with rest := rest }
  else
    let fty := resolveType src found.field.typeKind found.field.typeStart found.field.typeStop rectab enumtab nominals
    let ty := armBindingTy fty
    let bound := envBindCurrent src st.scope binding.nameStart binding.nameStop ty
    { rest := rest, scope := bound.stack }

def bindArmScopeStep (src : Source) (st : ArmScopeScan) (fields : List Field) (rectab : List RecordDecl)
    (enumtab : List EnumDecl) (nominals : List NominalTypeIdentity) : ArmScopeScan :=
  match st.rest with
  | [] => st
  | binding :: rest => bindOneArmName src st fields binding rest rectab enumtab nominals

def bindArmScope (src : Source) (scope : List Scope) (fields : List Field) (bindings : List PayloadBinding)
    (rectab : List RecordDecl) (enumtab : List EnumDecl) (nominals : List NominalTypeIdentity) : List Scope :=
  let rev := reversePayloadBindings bindings
  let d := (fun d => bindArmScopeStep src d fields rectab enumtab nominals)^[1024] { rest := rev, scope := scope }
  d.scope

structure PayloadTypeScan where
  rest : List Field
  acc : List Bind
  rectab : List RecordDecl
  enumtab : List EnumDecl
  nominals : List NominalTypeIdentity

def payloadFieldTypeOne (src : Source) (st : PayloadTypeScan) (field : Field) (rest : List Field) : PayloadTypeScan :=
  let resolved := resolveType src field.typeKind field.typeStart field.typeStop st.rectab st.enumtab st.nominals
  let bind : Bind := { start := field.nameStart, stop := field.nameStop, ty := armBindingTy resolved }
  { st with rest := rest, acc := bind :: st.acc }

def payloadFieldTypeStep (src : Source) (st : PayloadTypeScan) : PayloadTypeScan :=
  match st.rest with
  | [] => st
  | field :: rest => payloadFieldTypeOne src st field rest

def payloadFieldTypes (src : Source) (fields : List Field) (rectab : List RecordDecl) (enumtab : List EnumDecl)
    (nominals : List NominalTypeIdentity) : List Bind :=
  let st := (payloadFieldTypeStep src)^[1024]
    { rest := fields, acc := [], rectab := rectab, enumtab := enumtab, nominals := nominals }
  reverseBinds st.acc

def pushFiniteMatchJob (src : Source) (st : SemState) (arm : FiniteMatchArm) (remaining all : List FiniteMatchArm)
    (completed : List TypedFiniteMatchArm) (decl : EnumDecl) (subjectTy : SemType) (es ee : Nat) (resultTy : SemType)
    (armCount start stop : Nat) : SemState :=
  let vsp := exprSpan arm.result
  let found := variantScan src decl.variants arm.pattern.variantStart arm.pattern.variantStop
  let scp :=
    bindArmScope src (pushScope st.env) found.variant.fields arm.pattern.bindings st.rectab st.enumtab st.nominals
  let payloadFields := payloadFieldTypes src found.variant.fields st.rectab st.enumtab st.nominals
  let identity := nominalIdentityByName src st.nominals decl.nameStart decl.nameStop
  let priorTops := countTops st.tops
  let job : SemJob := { e := arm.result, exp := .xSome resultTy }
  let kont : SemKont :=
    .kFiniteArm remaining all arm completed payloadFields identity.identity priorTops subjectTy es ee resultTy
      armCount st.env vsp.start vsp.stop start stop
  { st with env := scp, jobs := job :: st.jobs, konts := kont :: st.konts }

def seedFiniteMatchArm (src : Source) (st : SemState) (remaining all : List FiniteMatchArm) (decl : EnumDecl)
    (subjectTy : SemType) (es ee : Nat) (resultTy : SemType) (armCount start stop : Nat) : SemState :=
  match remaining with
  | [] => semDrain (semEmit st 40 start stop 1)
  | arm :: rest => pushFiniteMatchJob src st arm rest all [] decl subjectTy es ee resultTy armCount start stop

def checkFiniteArms (src : Source) (st : SemState) (arms : List FiniteMatchArm) (decl : EnumDecl)
    (resultTy subjectTy : SemType) (es ee start stop : Nat) : SemState :=
  let identity := nominalIdentityByName src st.nominals decl.nameStart decl.nameStop
  let d := (fun d => finiteArmCheckStep src d decl)^[1024]
    { rest := arms, seen := [], covered := [], obls := st.obls, failed := false, typeIdentity := identity.identity
      nominals := st.nominals }
  let covered := finiteCoverageCheck src d decl start stop
  let st1 : SemState := { st with obls := covered.obls }
  if covered.failed then semDrain st1
  else
    let count := finiteMatchCount arms
    seedFiniteMatchArm src st1 arms arms decl subjectTy es ee resultTy count.n start stop

def selectType (valid : Bool) (ty fallback : SemType) : SemType := if valid then ty else fallback

structure ImportedPayloadBoundScan where
  rest : List PayloadBinding
  fields : List ImportedEnumField
  bound : List NameSpan
  typed : List Bind
  obls : List Obligation
  failed : Bool

def importedPayloadBoundOne (src : Source) (st : ImportedPayloadBoundScan) (binding : PayloadBinding)
    (rest : List PayloadBinding) : ImportedPayloadBoundScan :=
  let key := signatureNameKey src binding.fieldStart binding.fieldStop
  let field := importedEnumFieldLookup st.fields key
  if !field.found then
    { st with
      rest := rest
      obls := { kind := 44, start := binding.fieldStart, stop := binding.fieldStop, status := 1 } :: st.obls
      failed := true }
  else if nameKnown src st.bound binding.fieldStart binding.fieldStop then
    { st with
      rest := rest
      obls := { kind := 46, start := binding.fieldStart, stop := binding.fieldStop, status := 1 } :: st.obls
      failed := true }
  else
    let bound : List NameSpan := { start := binding.fieldStart, stop := binding.fieldStop } :: st.bound
    let typed : Bind :=
      { start := binding.fieldStart, stop := binding.fieldStop
        ty := selectType field.field.typeValid field.field.ty .tPoison }
    { st with
      rest := rest, bound := bound, typed := typed :: st.typed, failed := st.failed || !field.field.typeValid }

def importedPayloadBoundStep (src : Source) (st : ImportedPayloadBoundScan) : ImportedPayloadBoundScan :=
  match st.rest with
  | [] => st
  | binding :: rest => importedPayloadBoundOne src st binding rest

structure ImportedPayloadBound where
  bound : List NameSpan
  typed : List Bind
  obls : List Obligation
  failed : Bool

def checkImportedPayloadBindings (src : Source) (fields : List ImportedEnumField) (bindings : List PayloadBinding)
    : ImportedPayloadBound :=
  let seed : ImportedPayloadBoundScan :=
    { rest := bindings, fields := fields, bound := [], typed := [], obls := [], failed := false }
  let d := (importedPayloadBoundStep src)^[1024] seed
  { bound := d.bound, typed := reverseBinds d.typed, obls := d.obls, failed := d.failed }

structure ImportedFiniteArmCheck where
  rest : List FiniteMatchArm
  seen : List NameSpan
  covered : List NameSpan
  obls : List Obligation
  failed : Bool
  typeIdentity : SemanticIdentity
  nominals : List NominalTypeIdentity

def checkOneImportedFiniteArm (src : Source) (st : ImportedFiniteArmCheck) (schema : ImportedEnumSchema)
    (arm : FiniteMatchArm) (rest : List FiniteMatchArm) : ImportedFiniteArmCheck :=
  if arm.pattern.hasQualifier &&
         !finiteTypeQualifierMatches src st.nominals st.typeIdentity arm.pattern.qualifierStart
           arm.pattern.qualifierStop then
    { st with
      rest := rest
      obls :=
        { kind := 75, start := arm.pattern.qualifierStart, stop := arm.pattern.qualifierStop, status := 1 } :: st.obls
      failed := true }
  else
    let key := signatureNameKey src arm.pattern.variantStart arm.pattern.variantStop
    let found := importedEnumVariantLookup schema.variants key
    if !found.found then
      { st with
        rest := rest
        obls :=
          { kind := 38, start := arm.pattern.variantStart, stop := arm.pattern.variantStop, status := 1 } :: st.obls
        failed := true }
    else if nameKnown src st.seen arm.pattern.variantStart arm.pattern.variantStop then
      { st with
        rest := rest
        obls :=
          { kind := 39, start := arm.pattern.variantStart, stop := arm.pattern.variantStop, status := 1 } :: st.obls
        failed := true }
    else
      let seen : List NameSpan := { start := arm.pattern.variantStart, stop := arm.pattern.variantStop } :: st.seen
      let bound := checkImportedPayloadBindings src found.variant.fields arm.pattern.bindings
      let obls := appendObls (reverseObls bound.obls) st.obls
      let shapeOk : Bool := arm.pattern.ignorePayload || importedPayloadShapeOk src found.variant.fields bound.bound
      if !shapeOk then
        { st with
          rest := rest, seen := seen
          obls :=
            { kind := 47, start := arm.pattern.variantStart, stop := arm.pattern.variantStop, status := 1 } :: obls
          failed := true }
      else
        let failed : Bool := st.failed || bound.failed
        let covered : List NameSpan :=
          { start := arm.pattern.variantStart, stop := arm.pattern.variantStop } :: st.covered
        { st with rest := rest, seen := seen, covered := covered, obls := obls, failed := failed }

def checkImportedFiniteArmStep (src : Source) (st : ImportedFiniteArmCheck) (schema : ImportedEnumSchema)
    : ImportedFiniteArmCheck :=
  match st.rest with
  | [] => st
  | arm :: rest => checkOneImportedFiniteArm src st schema arm rest

structure ImportedCoverageScan where
  rest : List ImportedEnumVariant
  covered : List NameSpan
  ok : Bool

def importedCoverageScanStep (src : Source) (st : ImportedCoverageScan) : ImportedCoverageScan :=
  if !st.ok then st
  else
    match st.rest with
    | [] => st
    | variant :: rest => { st with rest := rest, ok := importedNameKnown src st.covered variant.name }

def importedFiniteCoverageCheck (src : Source) (st : ImportedFiniteArmCheck) (variants : List ImportedEnumVariant)
    (start stop : Nat) : ImportedFiniteArmCheck :=
  let d := (importedCoverageScanStep src)^[1024] { rest := variants, covered := st.covered, ok := true }
  if d.ok then st
  else
    { st with
      rest := [], obls := { kind := 40, start := start, stop := stop, status := 1 } :: st.obls, failed := true }

structure ImportedPayloadBindLookup where
  rest : List Bind
  start : Nat
  stop : Nat
  found : Bool
  field : Bind

def importedPayloadBindLookupStep (src : Source) (st : ImportedPayloadBindLookup) : ImportedPayloadBindLookup :=
  match st.rest with
  | [] => st
  | field :: rest =>
      { st with rest := rest, found := spansEqual src field.start field.stop st.start st.stop, field := field }

def importedPayloadBindLookup (src : Source) (fields : List Bind) (start stop : Nat) : ImportedPayloadBindLookup :=
  let empty : Bind := { start := 0, stop := 0, ty := .tPoison }
  (iterate (fun _ (st : ImportedPayloadBindLookup) =>
        if st.found then .ret st
        else .next (importedPayloadBindLookupStep src st))
      0 1024 { rest := fields, start := start, stop := stop, found := false, field := empty }).after fun st =>
    st

structure ImportedArmScopeScan where
  rest : List PayloadBinding
  fields : List Bind
  scope : List Scope

def bindImportedArmScopeOne (src : Source) (st : ImportedArmScopeScan) (binding : PayloadBinding)
    (rest : List PayloadBinding) : ImportedArmScopeScan :=
  let found := importedPayloadBindLookup src st.fields binding.fieldStart binding.fieldStop
  if !found.found then { st with rest := rest }
  else
    let bound := envBindCurrent src st.scope binding.nameStart binding.nameStop found.field.ty
    { st with rest := rest, scope := bound.stack }

def bindImportedArmScopeStep (src : Source) (st : ImportedArmScopeScan) : ImportedArmScopeScan :=
  match st.rest with
  | [] => st
  | binding :: rest => bindImportedArmScopeOne src st binding rest

def bindImportedArmScope (src : Source) (scope : List Scope) (fields : List Bind) (bindings : List PayloadBinding)
    : List Scope :=
  let rev := reversePayloadBindings bindings
  let d := (bindImportedArmScopeStep src)^[1024] { rest := rev, fields := fields, scope := scope }
  d.scope

def pushImportedFiniteMatchJob (src : Source) (st : SemState) (arm : FiniteMatchArm)
    (remaining all : List FiniteMatchArm) (completed : List TypedFiniteMatchArm) (schema : ImportedEnumSchema)
    (subjectTy : SemType) (es ee : Nat) (resultTy : SemType) (armCount start stop : Nat) : SemState :=
  let vsp := exprSpan arm.result
  let key := signatureNameKey src arm.pattern.variantStart arm.pattern.variantStop
  let found := importedEnumVariantLookup schema.variants key
  let bound := checkImportedPayloadBindings src found.variant.fields arm.pattern.bindings
  let scp := bindImportedArmScope src (pushScope st.env) bound.typed arm.pattern.bindings
  let priorTops := countTops st.tops
  let job : SemJob := { e := arm.result, exp := .xSome resultTy }
  let kont : SemKont :=
    .kFiniteArm remaining all arm completed bound.typed schema.identity priorTops subjectTy es ee resultTy armCount
      st.env vsp.start vsp.stop start stop
  { st with env := scp, jobs := job :: st.jobs, konts := kont :: st.konts }

def seedImportedFiniteMatchArm (src : Source) (st : SemState) (remaining all : List FiniteMatchArm)
    (schema : ImportedEnumSchema) (subjectTy : SemType) (es ee : Nat) (resultTy : SemType) (armCount start stop : Nat)
    : SemState :=
  match remaining with
  | [] => semDrain (semEmit st 40 start stop 1)
  | arm :: rest =>
      pushImportedFiniteMatchJob src st arm rest all [] schema subjectTy es ee resultTy armCount start stop

def checkImportedFiniteArms (src : Source) (st : SemState) (arms : List FiniteMatchArm) (schema : ImportedEnumSchema)
    (resultTy subjectTy : SemType) (es ee start stop : Nat) : SemState :=
  let d := (fun d => checkImportedFiniteArmStep src d schema)^[1024]
    { rest := arms, seen := [], covered := [], obls := st.obls, failed := false, typeIdentity := schema.identity
      nominals := st.nominals }
  let covered := importedFiniteCoverageCheck src d schema.variants start stop
  let st1 : SemState := { st with obls := covered.obls }
  if covered.failed then semDrain st1
  else
    let count := finiteMatchCount arms
    seedImportedFiniteMatchArm src st1 arms arms schema subjectTy es ee resultTy count.n start stop

def applyFiniteNamed (src : Source) (st : SemState) (arms : List FiniteMatchArm) (resultTy sty : SemType)
    (ns ne ss se start stop : Nat) : SemState :=
  let found := enumLookup src st.enumtab ns ne
  if found.found then checkFiniteArms src st arms found.decl resultTy sty ns ne start stop
  else
    let nominal := nominalIdentityAt st.nominals ns ne
    let importedEnum := importedEnumLookup st.importedEnums nominal.identity
    if nominal.found && importedEnum.found then
      checkImportedFiniteArms src st arms importedEnum.schema resultTy sty ns ne start stop
    else
      let importedRecord := importedRecordLookup st.importedRecords nominal.identity
      if nominal.found && importedRecord.found then semDrain (semEmit st 51 ss se 1)
      else
        let record := recLookup src st.rectab ns ne
        if record.found then semDrain (semEmit st 51 ss se 1) else semDrain (semEmit st 40 start stop 1)

structure FiniteMismatchScan where
  rest : List FiniteMatchArm
  obls : List Obligation

def finiteMismatchStep (st : FiniteMismatchScan) : FiniteMismatchScan :=
  match st.rest with
  | [] => st
  | arm :: rest =>
      { rest := rest
        obls :=
          { kind := 38, start := arm.pattern.variantStart, stop := arm.pattern.variantStop, status := 1 } :: st.obls }

def semEmitFiniteArmMismatch (st : SemState) (arms : List FiniteMatchArm) (start stop : Nat) : SemState :=
  let d := finiteMismatchStep^[1024] { rest := arms, obls := st.obls }
  { st with obls := { kind := 40, start := start, stop := stop, status := 1 } :: d.obls }

def applyFiniteSubject (src : Source) (st : SemState) (arms : List FiniteMatchArm) (resultTy : SemType)
    (ss se start stop : Nat) : SemState :=
  let sty := st.lastTy
  if isPoison sty then semDrain (semEmit st 2 ss se 1)
  else
    match sty with
    | .tNamed ns ne => applyFiniteNamed src st arms resultTy sty ns ne ss se start stop
    | .tBool => semDrain (semEmitFiniteArmMismatch st arms start stop)
    | .tPoison => semDrain (semEmit st 2 start stop 1)
    | _ => semDrain (semEmit st 51 ss se 1)

def reverseTypedFiniteMatchArms (arms : List TypedFiniteMatchArm) : List TypedFiniteMatchArm := reverseWithin 1024
  arms

def finishFiniteMatch (st : SemState) (completed : List TypedFiniteMatchArm) (subjectTy resultTy : SemType)
    (armCount start stop : Nat) : SemState :=
  let arms := reverseTypedFiniteMatchArms completed
  let top : TOp := .tFiniteMatch resultTy subjectTy arms armCount start stop
  semEmitTop (semAccept st resultTy) top

def pushFiniteMatchNext (src : Source) (st : SemState) (arm : FiniteMatchArm) (remaining all : List FiniteMatchArm)
    (completed : List TypedFiniteMatchArm) (es ee : Nat) (subjectTy resultTy : SemType) (armCount start stop : Nat)
    : SemState :=
  let found := enumLookup src st.enumtab es ee
  if found.found then
    pushFiniteMatchJob src st arm remaining all completed found.decl subjectTy es ee resultTy armCount start stop
  else
    let nominal := nominalIdentityAt st.nominals es ee
    let imported := importedEnumLookup st.importedEnums nominal.identity
    pushImportedFiniteMatchJob src st arm remaining all completed imported.schema subjectTy es ee resultTy armCount
      start stop

def continueFiniteMatchArm (src : Source) (st : SemState) (remaining all : List FiniteMatchArm)
    (current : FiniteMatchArm) (completed : List TypedFiniteMatchArm) (payloadFields : List Bind)
    (typeIdentity : SemanticIdentity) (priorTops : Nat) (subjectTy : SemType) (es ee : Nat) (resultTy : SemType)
    (armCount : Nat) (env : List Scope) (rs re start stop : Nat) : SemState :=
  let checked := armResultCheck src st resultTy rs re
  let totalTops := countTops checked.tops
  let delta : Nat := if totalTops ≥ priorTops then totalTops - priorTops else 0
  let split := splitTopsPrefix checked.tops delta
  let armOps := split.taken
  let typedArm : TypedFiniteMatchArm := .mk current.pattern typeIdentity payloadFields armOps (countTops armOps)
  let completedNext : List TypedFiniteMatchArm := typedArm :: completed
  let restored : SemState :=
    { checked with tops := split.rest, env := env, failed := checked.failed || totalTops < priorTops || !split.ok }
  match remaining with
  | [] => finishFiniteMatch restored completedNext subjectTy resultTy armCount start stop
  | arm :: rest =>
      pushFiniteMatchNext src restored arm rest all completedNext es ee subjectTy resultTy armCount start stop

/-! ## Records and enums -/

def recordConstructExpectedCheck (src : Source) (st : SemState) (ty expected : SemType) (start stop : Nat)
    : SemState := if semEq src ty expected then st else semEmit st 93 start stop 1

def recordConstructExpected (src : Source) (st : SemState) (ty : SemType) (exp : ExpTy) (start stop : Nat)
    : SemState :=
  match exp with
  | .xNone => st
  | .xSome expected => recordConstructExpectedCheck src st ty expected start stop

def seedRecordBase (st : SemState) (declared : List Field) (fields : List ConstructField) (base : Expr) (ty : SemType)
    (typeStart typeStop start stop : Nat) (exp : ExpTy) : SemState :=
  let span := exprSpan base
  let job : SemJob := { e := base, exp := .xSome ty }
  let kont : SemKont := .kRecordBase declared fields ty typeStart typeStop span.start span.stop start stop exp
  { st with jobs := job :: st.jobs, konts := kont :: st.konts }

structure ConstructFieldCheck where
  rest : List ConstructField
  seen : List NameSpan
  jobs : List ConstructJob
  params : List Bind
  obls : List Obligation
  failed : Bool
  unknownKind : Nat
  duplicateKind : Nat
  mismatchKind : Nat

def checkOneConstructField (src : Source) (st : ConstructFieldCheck) (declared : List Field) (field : ConstructField)
    (rest : List ConstructField) (rectab : List RecordDecl) (enumtab : List EnumDecl)
    (nominals : List NominalTypeIdentity) : ConstructFieldCheck :=
  let found := fieldScan src declared field.fieldStart field.fieldStop
  if !found.found then
    { st with
      rest := rest
      obls := { kind := st.unknownKind, start := field.fieldStart, stop := field.fieldStop, status := 1 } :: st.obls
      failed := true }
  else
    let seen : List NameSpan := { start := field.fieldStart, stop := field.fieldStop } :: st.seen
    let vsp := exprSpan field.value
    let fty := resolveType src found.field.typeKind found.field.typeStart found.field.typeStop rectab enumtab nominals
    let job : ConstructJob :=
      { value := field.value, ty := armBindingTy fty, vs := vsp.start, ve := vsp.stop
        mismatchKind := st.mismatchKind }
    let jobs : List ConstructJob := job :: st.jobs
    let params : List Bind :=
      { start := field.fieldStart, stop := field.fieldStop, ty := armBindingTy fty } :: st.params
    if nameKnown src st.seen field.fieldStart field.fieldStop then
      { st with
        rest := rest, seen := seen, jobs := jobs, params := params
        obls :=
          { kind := st.duplicateKind, start := field.fieldStart, stop := field.fieldStop, status := 1 } :: st.obls
        failed := true }
    else { st with rest := rest, seen := seen, jobs := jobs, params := params, obls := st.obls, failed := st.failed }

def constructFieldCheckStep (src : Source) (st : ConstructFieldCheck) (declared : List Field)
    (rectab : List RecordDecl) (enumtab : List EnumDecl) (nominals : List NominalTypeIdentity)
    : ConstructFieldCheck :=
  match st.rest with
  | [] => st
  | field :: rest => checkOneConstructField src st declared field rest rectab enumtab nominals

def reverseConstructJobs (jobs : List ConstructJob) : List ConstructJob := reverseWithin 1024 jobs

structure ConstructJobCount where
  rest : List ConstructJob
  n : Nat

def countConstructJobsStep (st : ConstructJobCount) : ConstructJobCount :=
  match st.rest with
  | [] => st
  | _ :: t => { rest := t, n := st.n + 1 }

def countConstructJobs (jobs : List ConstructJob) : Nat :=
  (iterate (fun _ (d : ConstructJobCount) =>
        if d.rest.isEmpty then .ret d.n
        else .next (countConstructJobsStep d))
      0 1024 { rest := jobs, n := 0 }).after fun d =>
    d.n

def finishRecordConstruct (src : Source) (st : SemState) (jobTotal : Nat) (ty : SemType) (params : List Bind)
    (typeStart typeStop : Nat) (complete : Bool) (diagnosticStop start stop : Nat) : SemState :=
  if !complete then semDrain (semEmit st 98 start diagnosticStop 1)
  else
    let hasBase := recordConstructBasePresent src start stop
    let top : TOp := .tRecordConstruct ty typeStart typeStop hasBase jobTotal params start stop
    semEmitTop (semAccept st ty) top

def finishConstructShape (st : SemState) (shapeOk : Bool) (start stop : Nat) : SemState :=
  if shapeOk then st else semEmit st 49 start stop 1

def finishConstructReq (src : Source) (st : SemState) (ty want : SemType) (start stop : Nat) : SemState :=
  if semEq src ty want then st else semEmit st 52 start stop 1

def finishConstructExp (src : Source) (st : SemState) (ty : SemType) (start stop : Nat) (exp : ExpTy) : SemState :=
  match exp with
  | .xNone => st
  | .xSome want => finishConstructReq src st ty want start stop

def finishEnumConstruct (src : Source) (st : SemState) (jobTotal : Nat) (ty : SemType) (params : List Bind)
    (vs ve : Nat) (shapeOk : Bool) (start stop : Nat) (exp : ExpTy) : SemState :=
  let shaped := finishConstructShape st shapeOk start stop
  let top : TOp := .tEnumConstruct ty vs ve jobTotal params start stop
  let emitted := semEmitTop (semAccept shaped ty) top
  finishConstructExp src emitted ty start stop exp

def finishConstructKind (src : Source) (st : SemState) (jobTotal : Nat) (ty : SemType) (params : List Bind)
    (vs ve : Nat) (shapeOk isRecord : Bool) (diagnosticStop start stop : Nat) (exp : ExpTy) : SemState :=
  if isRecord then finishRecordConstruct src st jobTotal ty params vs ve shapeOk diagnosticStop start stop
  else finishEnumConstruct src st jobTotal ty params vs ve shapeOk start stop exp

def pushConstructJob (st : SemState) (job : ConstructJob) (remaining : List ConstructJob) (total : Nat) (ty : SemType)
    (params : List Bind) (vs ve : Nat) (shapeOk isRecord : Bool) (diagnosticStop start stop : Nat) (exp : ExpTy)
    : SemState :=
  let work : SemJob := { e := job.value, exp := .xSome job.ty }
  let kont : SemKont :=
    .kConstructField remaining total ty params vs ve job.ty job.vs job.ve job.mismatchKind shapeOk isRecord
      diagnosticStop start stop exp
  { st with jobs := work :: st.jobs, konts := kont :: st.konts }

def seedConstructJobs (src : Source) (st : SemState) (jobs : List ConstructJob) (jobTotal : Nat) (ty : SemType)
    (params : List Bind) (vs ve : Nat) (shapeOk isRecord : Bool) (diagnosticStop start stop : Nat) (exp : ExpTy)
    : SemState :=
  match jobs with
  | [] => finishConstructKind src st jobTotal ty params vs ve shapeOk isRecord diagnosticStop start stop exp
  | job :: rest =>
      pushConstructJob st job rest jobTotal ty params vs ve shapeOk isRecord diagnosticStop start stop exp

def checkConstructFields (src : Source) (st : SemState) (declared : List Field) (fields : List ConstructField)
    (ts te vs ve start stop : Nat) (exp : ExpTy) (isRecord hasBase : Bool)
    (diagnosticStop unknownKind duplicateKind mismatchKind : Nat) : SemState :=
  let d := (fun d => constructFieldCheckStep src d declared st.rectab st.enumtab st.nominals)^[1024]
    { rest := fields, seen := [], jobs := [], params := [], obls := st.obls, failed := false
      unknownKind := unknownKind
      duplicateKind := duplicateKind, mismatchKind := mismatchKind }
  let jobs := reverseConstructJobs d.jobs
  let totalJobs := countConstructJobs jobs
  let st1 : SemState := { st with obls := d.obls }
  let ty : SemType := .tNamed ts te
  let params := reverseBinds d.params
  let shapeOk : Bool := if isRecord && hasBase then true else payloadShapeOk src declared d.seen
  seedConstructJobs src st1 jobs totalJobs ty params vs ve shapeOk isRecord diagnosticStop start stop exp

def seedRecordConstruct (src : Source) (st : SemState) (ts te : Nat) (base : Expr) (hasBase : Bool)
    (fields : List ConstructField) (start stop : Nat) (exp : ExpTy) : SemState :=
  let found := recLookup src st.rectab ts te
  if !found.found then semDrain (semEmit st 92 ts te 1)
  else
    let ty : SemType := .tNamed ts te
    let diagnosticSpan := recordConstructSpan fields base hasBase ts te
    let expected := recordConstructExpected src st ty exp diagnosticSpan.start diagnosticSpan.stop
    if hasBase then seedRecordBase expected found.decl.fields fields base ty ts te start stop exp
    else
      checkConstructFields src expected found.decl.fields fields ts te ts te start stop .xNone true false
        diagnosticSpan.stop 94 95 97

def applyRecordBase (src : Source) (st : SemState) (declared : List Field) (fields : List ConstructField)
    (ty : SemType) (typeStart typeStop baseStart baseStop start stop : Nat) (exp : ExpTy) : SemState :=
  if isPoison st.lastTy then semDrain st
  else if !semEq src st.lastTy ty then semDrain (semEmit st 96 baseStart baseStop 1)
  else
    checkConstructFields src st declared fields typeStart typeStop typeStart typeStop start stop exp true true stop 94
      95 97

def seedLocalEnumConstruct (src : Source) (st : SemState) (declared : EnumDecl) (ts te vs ve : Nat)
    (fields : List ConstructField) (start stop : Nat) (exp : ExpTy) : SemState :=
  let variant := variantScan src declared.variants vs ve
  if !variant.found then semDrain (semEmit st 43 vs ve 1)
  else checkConstructFields src st variant.variant.fields fields ts te vs ve start stop exp false false stop 45 48 50

def selectObls (choose : Bool) (selected fallback : List Obligation) : List Obligation :=
  if choose then selected else fallback

structure ImportedEnumConstructCheck where
  rest : List ConstructField
  declared : List ImportedEnumField
  seen : List NameSpan
  jobs : List ConstructJob
  params : List Bind
  obls : List Obligation

def importedEnumConstructFieldOne (src : Source) (st : ImportedEnumConstructCheck) (field : ConstructField)
    (rest : List ConstructField) : ImportedEnumConstructCheck :=
  let key := signatureNameKey src field.fieldStart field.fieldStop
  let found := importedEnumFieldLookup st.declared key
  if !found.found then
    { st with
      rest := rest, obls := { kind := 45, start := field.fieldStart, stop := field.fieldStop
                              status := 1 } :: st.obls }
  else
    let seen : List NameSpan := { start := field.fieldStart, stop := field.fieldStop } :: st.seen
    let valueSpan := exprSpan field.value
    let fieldTy := selectType found.field.typeValid found.field.ty .tPoison
    let job : ConstructJob :=
      { value := field.value, ty := fieldTy, vs := valueSpan.start, ve := valueSpan.stop, mismatchKind := 50 }
    let jobs : List ConstructJob := job :: st.jobs
    let params : List Bind := { start := field.fieldStart, stop := field.fieldStop, ty := fieldTy } :: st.params
    let duplicate := nameKnown src st.seen field.fieldStart field.fieldStop
    let typeInvalid : Bool := !found.field.typeValid
    let obls :=
      selectObls duplicate
        ({ kind := 48, start := field.fieldStart, stop := field.fieldStop, status := 1 } :: st.obls) st.obls
    let typedObls :=
      selectObls typeInvalid ({ kind := 50, start := valueSpan.start, stop := valueSpan.stop, status := 1 } :: obls)
        obls
    { rest := rest, declared := st.declared, seen := seen, jobs := jobs, params := params, obls := typedObls }

def importedEnumConstructFieldStep (src : Source) (st : ImportedEnumConstructCheck) : ImportedEnumConstructCheck :=
  match st.rest with
  | [] => st
  | field :: rest => importedEnumConstructFieldOne src st field rest

def seedImportedEnumConstruct (src : Source) (st : SemState) (schema : ImportedEnumSchema) (ts te vs ve : Nat)
    (fields : List ConstructField) (start stop : Nat) (exp : ExpTy) : SemState :=
  let variantKey := signatureNameKey src vs ve
  let variant := importedEnumVariantLookup schema.variants variantKey
  if !variant.found then semDrain (semEmit st 43 vs ve 1)
  else
    let initial : ImportedEnumConstructCheck :=
      { rest := fields, declared := variant.variant.fields, seen := [], jobs := [], params := [], obls := st.obls }
    let d := (importedEnumConstructFieldStep src)^[1024] initial
    let jobs := reverseConstructJobs d.jobs
    let jobTotal := countConstructJobs jobs
    let st1 : SemState := { st with obls := d.obls }
    let semanticSpan := nominalSemanticSpan st.nominals schema.identity ts te
    let ty : SemType := .tNamed semanticSpan.start semanticSpan.stop
    let params := reverseBinds d.params
    let shapeOk := importedPayloadShapeOk src variant.variant.fields d.seen
    seedConstructJobs src st1 jobs jobTotal ty params vs ve shapeOk false stop start stop exp

def seedEnumConstruct (src : Source) (st : SemState) (ts te vs ve : Nat) (fields : List ConstructField)
    (start stop : Nat) (exp : ExpTy) : SemState :=
  let found := enumLookup src st.enumtab ts te
  if found.found then seedLocalEnumConstruct src st found.decl ts te vs ve fields start stop exp
  else
    let nominal := nominalIdentityAt st.nominals ts te
    let imported := importedEnumLookup st.importedEnums nominal.identity
    if nominal.found && imported.found then
      seedImportedEnumConstruct src st imported.schema ts te vs ve fields start stop exp
    else semDrain (semEmit st 42 ts te 1)

def constructValueCheck (src : Source) (st : SemState) (cty : SemType) (cvs cve mismatchKind : Nat) : SemState :=
  if semEq src st.lastTy cty then st else semEmit st mismatchKind cvs cve 1

def continueConstructField (src : Source) (st : SemState) (remaining : List ConstructJob) (jobTotal : Nat)
    (ty : SemType) (params : List Bind) (vs ve : Nat) (cty : SemType) (cvs cve mismatchKind : Nat)
    (shapeOk isRecord : Bool) (diagnosticStop start stop : Nat) (exp : ExpTy) : SemState :=
  let checked := constructValueCheck src st cty cvs cve mismatchKind
  match remaining with
  | [] => finishConstructKind src checked jobTotal ty params vs ve shapeOk isRecord diagnosticStop start stop exp
  | job :: rest =>
      pushConstructJob checked job rest jobTotal ty params vs ve shapeOk isRecord diagnosticStop start stop exp

/-! ## Sequences and casts -/

def seedIndex (st : SemState) (base index : Expr) (start stop : Nat) (exp : ExpTy) : SemState :=
  let baseSpan := exprSpan base
  let job : SemJob := { e := base, exp := .xNone }
  let kont : SemKont := .kIndexBase index baseSpan.start baseSpan.stop start stop exp
  { st with jobs := job :: st.jobs, konts := kont :: st.konts }

def applyIndexBase (st : SemState) (index : Expr) (baseStart baseStop start stop : Nat) (exp : ExpTy) : SemState :=
  if !isSequenceSem st.lastTy then semDrain (semEmit st 76 baseStart baseStop 1)
  else
    let job : SemJob := { e := index, exp := .xSome (.tInt 64 false) }
    let kont : SemKont := .kIndexValue st.lastTy index start stop exp
    { st with jobs := job :: st.jobs, konts := kont :: st.konts }

structure IndexBound where
  exact : Bool
  length : Nat

def indexBound (ty : SemType) : IndexBound :=
  match ty with
  | .tSeqExact _ length valid => { exact := valid, length := length }
  | _ => { exact := false, length := 0 }

def isIndexOutside (index : Expr) (length : Nat) : Bool :=
  match index with
  | .integer _ _ value overflow => !overflow && value ≥ length
  | _ => false

def isIntegerLiteral (e : Expr) : Bool :=
  match e with
  | .integer _ _ _ _ => true
  | _ => false

def addIndexRuntimeObligation (st : SemState) (bound : IndexBound) (index : Expr) : SemState :=
  if bound.exact && isIntegerLiteral index then st
  else
    let sp := exprSpan index
    semEmit st 79 sp.start sp.stop 2

def indexBounds (src : Source) (st : SemState) (baseTy : SemType) (index : Expr) (start stop : Nat) : SemState :=
  let bound := indexBound baseTy
  if bound.exact && isIndexOutside index bound.length then
    let sp := exprSpan index
    semDrain (semEmit st 77 sp.start sp.stop 1)
  else
    let st1 := addIndexRuntimeObligation st bound index
    let resultTy := sequenceSemElement baseTy
    let identity := canonicalOperationIdentity src start stop
    let top : TOp := .tOp 6 resultTy 2 start stop identity start stop
    semEmitTop (semAccept st1 resultTy) top

def applyIndexValue (src : Source) (st : SemState) (baseTy : SemType) (index : Expr) (start stop : Nat) (_exp : ExpTy)
    : SemState := if !isU64Ty st.lastTy then semDrain st else indexBounds src st baseTy index start stop

def seedSlice (st : SemState) (base startIndex endIndex : Expr) (start stop : Nat) (exp : ExpTy) : SemState :=
  let baseSpan := exprSpan base
  let job : SemJob := { e := base, exp := .xNone }
  let kont : SemKont := .kSliceBase startIndex endIndex baseSpan.start baseSpan.stop start stop exp
  { st with jobs := job :: st.jobs, konts := kont :: st.konts }

def applySliceBase (st : SemState) (startIndex endIndex : Expr) (baseStart baseStop start stop : Nat) (exp : ExpTy)
    : SemState :=
  if !isSequenceSem st.lastTy then semDrain (semEmit st 99 baseStart baseStop 1)
  else
    let job : SemJob := { e := startIndex, exp := .xSome (.tInt 64 false) }
    let kont : SemKont := .kSliceStart st.lastTy startIndex endIndex start stop exp
    { st with jobs := job :: st.jobs, konts := kont :: st.konts }

def applySliceStart (st : SemState) (baseTy : SemType) (_startIndex endIndex : Expr) (start stop : Nat) (exp : ExpTy)
    : SemState :=
  if !isU64Ty st.lastTy then semDrain st
  else
    let job : SemJob := { e := endIndex, exp := .xSome (.tInt 64 false) }
    let kont : SemKont := .kSliceEnd baseTy endIndex start stop exp
    { st with jobs := job :: st.jobs, konts := kont :: st.konts }

def finishSlice (src : Source) (st : SemState) (_baseTy resultTy : SemType) (start stop : Nat) : SemState :=
  let identity := canonicalOperationIdentity src start stop
  let top : TOp := .tOp 9 resultTy 3 start stop identity start stop
  semEmitTop (semAccept st resultTy) top

def finishSliceRequired (src : Source) (st : SemState) (baseTy resultTy required : SemType) (start stop : Nat)
    : SemState :=
  if semEq src resultTy required then finishSlice src st baseTy resultTy start stop
  else
    let mismatch := semEmit st 100 start stop 1
    finishSlice src mismatch baseTy resultTy start stop

def finishSliceExpected (src : Source) (st : SemState) (baseTy resultTy : SemType) (start stop : Nat) (exp : ExpTy)
    : SemState :=
  match exp with
  | .xNone => finishSlice src st baseTy resultTy start stop
  | .xSome required => finishSliceRequired src st baseTy resultTy required start stop

def applySliceStop (src : Source) (st : SemState) (baseTy : SemType) (_endIndex : Expr) (start stop : Nat)
    (exp : ExpTy) : SemState :=
  if !isU64Ty st.lastTy then semDrain st
  else
    let resultTy := sequenceViewType baseTy
    let runtime := semEmit st 79 start stop 2
    finishSliceExpected src runtime baseTy resultTy start stop exp

def seedCast (st : SemState) (value : Expr) (typeKind typeStart typeStop start stop : Nat) (exp : ExpTy) : SemState :=
  let job : SemJob := { e := value, exp := .xNone }
  let kont : SemKont := .kCastValue typeKind typeStart typeStop start stop exp
  { st with jobs := job :: st.jobs, konts := kont :: st.konts }

def finishCastRequired (src : Source) (st : SemState) (target : SemType) (top : TOp) (start stop : Nat)
    (required : SemType) : SemState :=
  if semEq src target required then semEmitTop (semAccept st target) top
  else semEmitTop (semAccept (semEmit st 35 start stop 1) target) top

def finishCastExpected (src : Source) (st : SemState) (target : SemType) (top : TOp) (start stop : Nat) (exp : ExpTy)
    : SemState :=
  match exp with
  | .xNone => semEmitTop (semAccept st target) top
  | .xSome required => finishCastRequired src st target top start stop required

def finishCast (src : Source) (st : SemState) (target : SemType) (start stop : Nat) (exp : ExpTy) : SemState :=
  let identity := canonicalOperationIdentity src start stop
  let top : TOp := .tOp 7 target 1 start stop identity start stop
  finishCastExpected src st target top start stop exp

def applyCastValue (src : Source) (st : SemState) (typeKind typeStart typeStop start stop : Nat) (exp : ExpTy)
    : SemState :=
  let target := resolveType src typeKind typeStart typeStop st.rectab st.enumtab st.nominals
  if !target.ok || !castSourceOk st.lastTy || !castTargetOk target.ty then semDrain (semEmit st 78 start stop 1)
  else finishCast src st target.ty start stop exp

def seedRepeatJob (st : SemState) (value : Expr) (count start stop : Nat) (exp elementExp : ExpTy) : SemState :=
  let job : SemJob := { e := value, exp := elementExp }
  let kont : SemKont := .kRepeat count start stop exp
  { st with jobs := job :: st.jobs, konts := kont :: st.konts }

def seedRepeatExact (st : SemState) (value : Expr) (count length : Nat) (valid : Bool) (element : SemType)
    (start stop : Nat) (exp : ExpTy) : SemState :=
  if !valid || length ≠ count then semDrain (semEmit st 2 start stop 1)
  else seedRepeatJob st value count start stop exp (.xSome element)

def seedRepeatType (st : SemState) (value : Expr) (count start stop : Nat) (exp : ExpTy) (expected : SemType)
    : SemState :=
  match expected with
  | .tSeqExact element length valid => seedRepeatExact st value count length valid element start stop exp
  | .tSeq => seedRepeatJob st value count start stop exp .xNone
  | _ => semDrain (semEmit st 2 start stop 1)

def seedRepeatExpected (st : SemState) (value : Expr) (count start stop : Nat) (exp : ExpTy) : SemState :=
  match exp with
  | .xNone => seedRepeatJob st value count start stop exp .xNone
  | .xSome expected => seedRepeatType st value count start stop exp expected

def seedRepeat (src : Source) (st : SemState) (value : Expr) (countStart countStop countKind start stop : Nat)
    (exp : ExpTy) : SemState :=
  if countKind ≠ 5 then semDrain (semEmit st 2 countStart countStop 1)
  else
    let parsed := src.intValue countStart countStop
    if parsed.overflow then semDrain (semEmit st 2 countStart countStop 1)
    else seedRepeatExpected st value parsed.value start stop exp

def applyRepeatReq (src : Source) (st : SemState) (count start stop : Nat) (element resultTy expected : SemType)
    : SemState :=
  if semEq src resultTy expected then semEmitTop (semAccept st resultTy) (.tRepeat resultTy element count start stop)
  else semEmitTop (semAccept (semEmit st 2 start stop 1) resultTy) (.tRepeat resultTy element count start stop)

def applyRepeatExpected (src : Source) (st : SemState) (count start stop : Nat) (exp : ExpTy)
    (element resultTy : SemType) : SemState :=
  match exp with
  | .xNone => semEmitTop (semAccept st resultTy) (.tRepeat resultTy element count start stop)
  | .xSome expected => applyRepeatReq src st count start stop element resultTy expected

def applyRepeat (src : Source) (st : SemState) (count start stop : Nat) (exp : ExpTy) : SemState :=
  let element := st.lastTy
  if isPoison element then semDrain st
  else
    let resultTy : SemType := .tSeqExact element count true
    applyRepeatExpected src st count start stop exp element resultTy

/-! ## Names, literals and operators -/

def finishNameReq (src : Source) (st : SemState) (ty r : SemType) (start stop : Nat) : SemState :=
  if semEq src ty r then semEmitTop (semAccept st ty) (.tName ty start stop)
  else if seqBorrowOk src ty r then semEmitTop (semAccept st r) (.tName r start stop)
  else semEmitTop (semAccept (semEmit st 2 start stop 1) ty) (.tName ty start stop)

def finishNameExp (src : Source) (st : SemState) (ty : SemType) (start stop : Nat) (exp : ExpTy) : SemState :=
  match exp with
  | .xNone => semEmitTop (semAccept st ty) (.tName ty start stop)
  | .xSome r => finishNameReq src st ty r start stop

def finishName (src : Source) (st : SemState) (start stop : Nat) (exp : ExpTy) : SemState :=
  let got := envLookup src st.env start stop
  if !got.found then semDrain (semEmit st 1 start stop 1) else finishNameExp src st got.ty start stop exp

def finishIntPlain (st : SemState) (value start stop : Nat) : SemState :=
  let ty : SemType := .tInt 64 true
  semEmitTop (semAccept st ty) (.tInt value ty start stop)

def finishIntByte (st : SemState) (value start stop : Nat) : SemState :=
  if value ≤ 255 then semEmitTop (semAccept st .tByte) (.tInt value .tByte start stop)
  else semEmitTop (semAccept (semEmit st 3 start stop 1) .tByte) (.tInt value .tByte start stop)

def finishIntFail (st : SemState) (value start stop : Nat) : SemState :=
  let ty : SemType := .tInt 64 true
  semEmitTop (semAccept (semEmit st 3 start stop 1) ty) (.tInt value ty start stop)

def finishIntReq (st : SemState) (value : Nat) (r : SemType) (start stop : Nat) : SemState :=
  match r with
  | .tInt _ _ => semEmitTop (semAccept st r) (.tInt value r start stop)
  | .tByte => finishIntByte st value start stop
  | _ => finishIntFail st value start stop

def finishInt (st : SemState) (value start stop : Nat) (exp : ExpTy) : SemState :=
  match exp with
  | .xNone => finishIntPlain st value start stop
  | .xSome r => finishIntReq st value r start stop

def finishBoolFail (st : SemState) (value : Bool) (start stop : Nat) : SemState :=
  semEmitTop (semAccept (semEmit st 4 start stop 1) .tBool) (.tBool value .tBool start stop)

def finishBoolReq (st : SemState) (value : Bool) (r : SemType) (start stop : Nat) : SemState :=
  match r with
  | .tBool => semEmitTop (semAccept st .tBool) (.tBool value .tBool start stop)
  | _ => finishBoolFail st value start stop

def finishBool (st : SemState) (value : Bool) (start stop : Nat) (exp : ExpTy) : SemState :=
  match exp with
  | .xNone => semEmitTop (semAccept st .tBool) (.tBool value .tBool start stop)
  | .xSome r => finishBoolReq st value r start stop

def seedNot (st : SemState) (value : Expr) (start stop : Nat) (exp : ExpTy) : SemState :=
  let job : SemJob := { e := value, exp := .xSome .tBool }
  let kont : SemKont := .kNot start stop exp
  { st with jobs := job :: st.jobs, konts := kont :: st.konts }

def finishNotReq (src : Source) (st : SemState) (top : TOp) (start stop : Nat) (want : SemType) : SemState :=
  if semEq src want .tBool then semEmitTop (semAccept st .tBool) top
  else semEmitTop (semAccept (semEmit st 4 start stop 1) .tBool) top

def finishNotExp (src : Source) (st : SemState) (top : TOp) (start stop : Nat) (exp : ExpTy) : SemState :=
  match exp with
  | .xNone => semEmitTop (semAccept st .tBool) top
  | .xSome want => finishNotReq src st top start stop want

def applyNot (src : Source) (st : SemState) (start stop : Nat) (exp : ExpTy) : SemState :=
  if !semEq src st.lastTy .tBool then semDrain (semEmit st 7 start stop 1)
  else
    let top : TOp := .tNot .tBool start stop
    finishNotExp src st top start stop exp

def isThreaded (op : Nat) : Bool :=
  if op = 50 || op = 51 || op = 52 then true
  else if op = 55 || op = 56 || op = 57 then true
  else if op = 91 || op = 92 || op = 93 then true else if op = 94 || op = 95 || op = 96 then true else false

def expIsPoison (exp : ExpTy) : Bool :=
  match exp with
  | .xNone => false
  | .xSome t => isPoison t

def binLeftExp (op : Nat) (exp : ExpTy) (left : Expr) : ExpTy :=
  if isThreaded op then (if expIsPoison exp && isIntegerLiteral left then .xNone else exp) else .xNone

def seedBinop (st : SemState) (op : Nat) (left right : Expr) (start stop : Nat) (exp : ExpTy) : SemState :=
  let lexp := binLeftExp op exp left
  let job : SemJob := { e := left, exp := lexp }
  let kont : SemKont := .kBinL op right start stop exp
  { st with jobs := job :: st.jobs, konts := kont :: st.konts }

def nonzeroVal (v : Nat) : Bool := if v = 0 then false else true

def nonzeroLit (e : Expr) : Bool :=
  match e with
  | .integer _ _ v _ => nonzeroVal v
  | _ => false

def applyBinL (st : SemState) (op : Nat) (right : Expr) (start stop : Nat) (exp : ExpTy) : SemState :=
  let lty := st.lastTy
  let job : SemJob := { e := right, exp := .xSome lty }
  let kont : SemKont := .kBinR op lty start stop (nonzeroLit right) exp
  { st with jobs := job :: st.jobs, konts := kont :: st.konts }

def recoverPoisonedBinop (st : SemState) (op : Nat) (ty : SemType) (start stop : Nat) : SemState :=
  semEmitTop (semAccept st ty) (.tBin op ty start stop)

def arithFailed (_st : SemState) (lty : SemType) : Bool :=
  match lty with
  | .tInt _ _ => false
  | _ => true

def arithIntOrByte (st : SemState) (lty : SemType) (start stop : Nat) : SemState :=
  match lty with
  | .tInt _ _ => st
  | .tByte => semEmit st 12 start stop 1
  | _ => semEmit st 8 start stop 1

def finishBinDivmod (st : SemState) (op : Nat) (lty : SemType) (start stop : Nat) (rlit : Bool) : SemState :=
  if arithFailed st lty then semDrain (arithIntOrByte st lty start stop)
  else if rlit then semEmitTop (semAccept st lty) (.tBin op lty start stop)
  else semEmitTop (semAccept (semEmit st 14 start stop 2) lty) (.tBin op lty start stop)

def finishBinCmp (st : SemState) (op : Nat) (lty : SemType) (start stop : Nat) : SemState :=
  match lty with
  | .tInt _ _ => semEmitTop (semAccept st .tBool) (.tBin op .tBool start stop)
  | .tByte => semEmitTop (semAccept st .tBool) (.tBin op .tBool start stop)
  | _ => semDrain (semEmit st 9 start stop 1)

def finishBinBoolop (st : SemState) (op : Nat) (lty : SemType) (start stop : Nat) : SemState :=
  if isBoolTy lty then semEmitTop (semAccept st .tBool) (.tBin op .tBool start stop)
  else semDrain (semEmit st 10 start stop 1)

def finishBinShift (st : SemState) (op : Nat) (lty : SemType) (start stop : Nat) : SemState :=
  match lty with
  | .tByte => semEmitTop (semAccept st .tByte) (.tBin op .tByte start stop)
  | .tInt _ _ => semEmitTop (semAccept st lty) (.tBin op lty start stop)
  | _ => semDrain (semEmit st 11 start stop 1)

def finishBinArith (st : SemState) (op : Nat) (lty : SemType) (start stop : Nat) : SemState :=
  if arithFailed st lty then semDrain (arithIntOrByte st lty start stop)
  else if op = 50 || op = 51 || op = 52 then
    semEmitTop (semAccept (semEmit st 13 start stop 2) lty) (.tBin op lty start stop)
  else semEmitTop (semAccept st lty) (.tBin op lty start stop)

def finishBinClass (st : SemState) (op : Nat) (lty _rty : SemType) (start stop : Nat) (rlit : Bool) : SemState :=
  let cls := opClass op
  if cls = 1 then finishBinDivmod st op lty start stop rlit
  else if cls = 2 then finishBinCmp st op lty start stop
  else if cls = 3 then finishBinBoolop st op lty start stop
  else if cls = 4 then finishBinShift st op lty start stop else finishBinArith st op lty start stop

def applyBinR (src : Source) (st : SemState) (op : Nat) (lty : SemType) (start stop : Nat) (rlit : Bool) (exp : ExpTy)
    : SemState :=
  let rty := st.lastTy
  if !semEq src lty rty then
    if expIsPoison exp then recoverPoisonedBinop st op lty start stop else semDrain (semEmit st 7 start stop 1)
  else finishBinClass st op lty rty start stop rlit

/-! ## Host operations -/

/-- `fs_list`. -/
def opSpanIsFsList (src : Source) (ks ke : Nat) : Bool :=
  if ke - ks ≠ 7 then false else src.spells ks [102, 115, 95, 108, 105, 115, 116]

def opEffectMatches (src : Source) (slot ks ke : Nat) : Bool :=
  if ke < ks then false
  else if slot = 0 || slot = 3 || slot = 4 then opSpanIsFsList src ks ke
  else if slot = 1 then ke - ks = 15 && spanIsStructuredRead src ks
  else if slot = 2 then ke - ks = 16 && spanIsStructuredWrite src ks else false

structure OpEffectWalk where
  rest : List Effect
  count : Nat
  capStart : Nat
  capStop : Nat
  slot : Nat

def opEffectCons (src : Source) (st : OpEffectWalk) (h : Effect) (t : List Effect) : OpEffectWalk :=
  if opEffectMatches src st.slot h.kindStart h.kindStop then
    { rest := t, count := st.count + 1, capStart := h.capStart, capStop := h.capStop, slot := st.slot }
  else { st with rest := t }

def opEffectStep (src : Source) (st : OpEffectWalk) : OpEffectWalk :=
  match st.rest with
  | [] => st
  | h :: t => opEffectCons src st h t

structure OpEffectScan where
  count : Nat
  capStart : Nat
  capStop : Nat

def opEffectScan (src : Source) (slot : Nat) (fx : List Effect) : OpEffectScan :=
  let st := (opEffectStep src)^[1024] { rest := fx, count := 0, capStart := 0, capStop := 0, slot := slot }
  { count := st.count, capStart := st.capStart, capStop := st.capStop }

def opAuthMissingKind (slot : Nat) : Nat := if slot = 1 then 58 else if slot = 2 then 63 else 53

def opAuthDoubleKind (slot : Nat) : Nat := if slot = 1 then 59 else if slot = 2 then 64 else 54

structure CapKnownWalk where
  rest : List Cap
  start : Nat
  stop : Nat
  found : Bool

def capKnownCons (src : Source) (st : CapKnownWalk) (h : Cap) (t : List Cap) : CapKnownWalk :=
  if spansEqual src h.start h.stop st.start st.stop then { st with rest := [], found := true }
  else { st with rest := t, found := false }

def capKnownStep (src : Source) (st : CapKnownWalk) : CapKnownWalk :=
  if st.found then st
  else
    match st.rest with
    | [] => st
    | h :: t => capKnownCons src st h t

def capListKnown (src : Source) (caps : List Cap) (start stop : Nat) : Bool :=
  let st := (capKnownStep src)^[1024] { rest := caps, start := start, stop := stop, found := false }
  st.found

def opAuthKind (src : Source) (slot : Nat) (fx : List Effect) (caps : List Cap) : Nat :=
  let found := opEffectScan src slot fx
  if found.count = 0 then opAuthMissingKind slot
  else if found.count ≠ 1 then opAuthDoubleKind slot
  else if capListKnown src caps found.capStart found.capStop then 0 else opAuthMissingKind slot

def opArgExp (slot : Nat) : ExpTy := if slot = 0 || slot = 3 || slot = 4 then .xSome (.tInt 64 false) else .xNone

def pushOpArg (st : SemState) (slot ns ne : Nat) (args : List Expr) (index : Nat) (h : Expr) (start stop : Nat)
    (exp : ExpTy) : SemState :=
  let job : SemJob := { e := h, exp := opArgExp slot }
  let kont : SemKont := .kOpA slot ns ne args index start stop exp
  { st with jobs := job :: st.jobs, konts := kont :: st.konts }

def seedOpArgs (st : SemState) (slot ns ne : Nat) (args : List Expr) (start stop : Nat) (exp : ExpTy) : SemState :=
  let argc := countExprs args
  if argc ≠ opArity slot then semDrain (semEmit st 32 ns ne 1)
  else
    match args with
    | [] => semDrain (semEmit st 32 ns ne 1)
    | h :: _ => pushOpArg st slot ns ne args 0 h start stop exp

def seedOpAuth (src : Source) (st : SemState) (slot ns ne : Nat) (args : List Expr) (start stop : Nat) (exp : ExpTy)
    : SemState :=
  let bad := opAuthKind src slot st.callerFx st.callerCaps
  if bad ≠ 0 then semDrain (semEmit st bad start stop 1) else seedOpArgs st slot ns ne args start stop exp

def seedOpReadReq (src : Source) (st : SemState) (ns ne : Nat) (args : List Expr) (start stop : Nat) (exp : ExpTy)
    (r : SemType) : SemState :=
  let bad := opValueResolvedKind src r st.nominals st.rectab st.enumtab 57
  if bad ≠ 0 then semDrain (semEmit st bad start stop 1) else seedOpAuth src st 1 ns ne args start stop exp

def seedOpRead (src : Source) (st : SemState) (ns ne : Nat) (args : List Expr) (start stop : Nat) (exp : ExpTy)
    : SemState :=
  match exp with
  | .xNone => semDrain (semEmit st 57 start stop 1)
  | .xSome r => seedOpReadReq src st ns ne args start stop exp r

def opExpectedKind (slot : Nat) : Nat := if slot = 2 then 62 else 55

def seedOpU64Req (src : Source) (st : SemState) (slot ns ne : Nat) (args : List Expr) (start stop : Nat) (exp : ExpTy)
    (r : SemType) : SemState :=
  if isU64Ty r then seedOpAuth src st slot ns ne args start stop exp
  else semDrain (semEmit st (opExpectedKind slot) start stop 1)

def seedOpU64 (src : Source) (st : SemState) (slot ns ne : Nat) (args : List Expr) (start stop : Nat) (exp : ExpTy)
    : SemState :=
  match exp with
  | .xNone => seedOpAuth src st slot ns ne args start stop exp
  | .xSome r => seedOpU64Req src st slot ns ne args start stop exp r

def seedOpExpected (src : Source) (st : SemState) (slot ns ne : Nat) (args : List Expr) (start stop : Nat)
    (exp : ExpTy) : SemState :=
  if slot = 1 then seedOpRead src st ns ne args start stop exp else seedOpU64 src st slot ns ne args start stop exp

def seedOp (src : Source) (st : SemState) (slot ns ne : Nat) (args : List Expr) (start stop : Nat) (exp : ExpTy)
    : SemState :=
  if slot > 4 then semDrain (semEmit st 32 ns ne 1) else seedOpExpected src st slot ns ne args start stop exp

def finishOpTy (src : Source) (st : SemState) (slot ns ne start stop : Nat) (ty : SemType) : SemState :=
  let top : TOp := .tOp slot ty (opArity slot) ns ne (canonicalOperationIdentity src ns ne) start stop
  semEmitTop (semAccept st ty) top

def opDefaultResult (slot : Nat) : SemType := if slot = 1 then .tPoison else .tInt 64 false

def opU64Result : SemType := .tInt 64 false

def finishOpReq (src : Source) (st : SemState) (slot ns ne start stop : Nat) (r : SemType) : SemState :=
  if slot = 1 then finishOpTy src st slot ns ne start stop r else finishOpTy src st slot ns ne start stop opU64Result

def finishOp (src : Source) (st : SemState) (slot ns ne start stop : Nat) (exp : ExpTy) : SemState :=
  match exp with
  | .xNone => finishOpTy src st slot ns ne start stop (opDefaultResult slot)
  | .xSome r => finishOpReq src st slot ns ne start stop r

def checkOpArg (src : Source) (st : SemState) (slot ns ne : Nat) (h : Expr) (t : List Expr) (index start stop : Nat)
    (exp : ExpTy) : SemState :=
  let asp := exprSpan h
  let bad := opOperandKind src slot index st.lastTy st.nominals st.rectab st.enumtab
  if bad ≠ 0 then semDrain (semEmit st bad asp.start asp.stop 1)
  else
    match t with
    | [] => finishOp src st slot ns ne start stop exp
    | nh :: _ => pushOpArg st slot ns ne t (index + 1) nh start stop exp

def applyOpA (src : Source) (st : SemState) (slot ns ne : Nat) (args : List Expr) (index start stop : Nat)
    (exp : ExpTy) : SemState :=
  match args with
  | [] => finishOp src st slot ns ne start stop exp
  | h :: t => checkOpArg src st slot ns ne h t index start stop exp

/-! ## Calls -/

def pushSelectCondition (st : SemState) (condition whenTrue whenFalse : Expr) (ns ne start stop : Nat) (exp : ExpTy)
    : SemState :=
  let span := exprSpan condition
  let job : SemJob := { e := condition, exp := .xNone }
  let kont : SemKont := .kSelectCondition whenTrue whenFalse span.start span.stop ns ne start stop exp
  { st with jobs := job :: st.jobs, konts := kont :: st.konts }

def seedSelectFalseArg (st : SemState) (condition whenTrue : Expr) (args : List Expr) (ns ne start stop : Nat)
    (exp : ExpTy) : SemState :=
  match args with
  | whenFalse :: _ => pushSelectCondition st condition whenTrue whenFalse ns ne start stop exp
  | [] => semDrain (semEmit st 32 ns ne 1)

def seedSelectTrueArg (st : SemState) (condition : Expr) (args : List Expr) (ns ne start stop : Nat) (exp : ExpTy)
    : SemState :=
  match args with
  | whenTrue :: rest => seedSelectFalseArg st condition whenTrue rest ns ne start stop exp
  | [] => semDrain (semEmit st 32 ns ne 1)

def seedSelectCall (st : SemState) (ns ne : Nat) (args : List Expr) (start stop : Nat) (exp : ExpTy) : SemState :=
  if countExprs args ≠ 3 then semDrain (semEmit st 32 ns ne 1)
  else
    match args with
    | condition :: rest => seedSelectTrueArg st condition rest ns ne start stop exp
    | [] => semDrain (semEmit st 32 ns ne 1)

def pushSelectTrue (st : SemState) (conditionTy : SemType) (conditionStart conditionStop : Nat)
    (whenTrue whenFalse : Expr) (ns ne start stop : Nat) (exp : ExpTy) : SemState :=
  let trueSpan := exprSpan whenTrue
  let job : SemJob := { e := whenTrue, exp := exp }
  let kont : SemKont :=
    .kSelectTrue conditionTy conditionStart conditionStop whenFalse trueSpan.start trueSpan.stop ns ne start stop exp
  { st with jobs := job :: st.jobs, konts := kont :: st.konts }

def applySelectCondition (st : SemState) (whenTrue whenFalse : Expr)
    (conditionStart conditionStop ns ne start stop : Nat) (exp : ExpTy) : SemState :=
  pushSelectTrue st st.lastTy conditionStart conditionStop whenTrue whenFalse ns ne start stop exp

def pushSelectFalse (st : SemState) (conditionTy : SemType) (conditionStart conditionStop : Nat) (trueTy : SemType)
    (trueStart trueStop : Nat) (whenFalse : Expr) (ns ne start stop : Nat) : SemState :=
  let falseSpan := exprSpan whenFalse
  let job : SemJob := { e := whenFalse, exp := .xSome trueTy }
  let kont : SemKont :=
    .kSelectFalse conditionTy conditionStart conditionStop trueTy trueStart trueStop falseSpan.start falseSpan.stop ns
      ne start stop .xNone
  { st with jobs := job :: st.jobs, konts := kont :: st.konts }

def selectTrueRequiredTy (src : Source) (st : SemState) (conditionTy : SemType) (conditionStart conditionStop : Nat)
    (trueTy : SemType) (trueStart trueStop : Nat) (whenFalse : Expr) (ns ne start stop : Nat) (required : SemType)
    : SemState :=
  if semEq src trueTy required then
    pushSelectFalse st conditionTy conditionStart conditionStop trueTy trueStart trueStop whenFalse ns ne start stop
  else semDrain (semEmit (semEmit st 2 trueStart trueStop 1) 80 trueStart trueStop 1)

def selectTrueRequired (src : Source) (st : SemState) (conditionTy : SemType) (conditionStart conditionStop : Nat)
    (trueTy : SemType) (trueStart trueStop : Nat) (whenFalse : Expr) (ns ne start stop : Nat) (exp : ExpTy)
    : SemState :=
  match exp with
  | .xNone =>
      pushSelectFalse st conditionTy conditionStart conditionStop trueTy trueStart trueStop whenFalse ns ne start stop
  | .xSome required =>
      selectTrueRequiredTy src st conditionTy conditionStart conditionStop trueTy trueStart trueStop whenFalse ns ne
        start stop required

def applySelectTrue (src : Source) (st : SemState) (conditionTy : SemType) (conditionStart conditionStop : Nat)
    (whenFalse : Expr) (trueStart trueStop ns ne start stop : Nat) (exp : ExpTy) : SemState :=
  let trueTy := st.lastTy
  selectTrueRequired src st conditionTy conditionStart conditionStop trueTy trueStart trueStop whenFalse ns ne start
    stop exp

def selectCandidateObligations (st : SemState) (bad : Bool) (start stop : Nat) : SemState :=
  if !bad then st else semEmit st 80 start stop 1

def selectConditionObligation (st : SemState) (bad : Bool) (start stop : Nat) : SemState :=
  if !bad then st else semEmit st 81 start stop 1

def finishSelect (src : Source) (st : SemState) (conditionTy : SemType) (conditionStart conditionStop : Nat)
    (trueTy falseTy : SemType) (_trueStart _trueStop falseStart falseStop ns ne start stop : Nat) : SemState :=
  let candidateBad : Bool := !semEq src trueTy falseTy
  let st1 := selectCandidateObligations st candidateBad falseStart falseStop
  let conditionBad : Bool := !isBoolTy conditionTy
  let st2 := selectConditionObligation st1 conditionBad conditionStart conditionStop
  if candidateBad || conditionBad then semDrain st2
  else
    let identity := canonicalOperationIdentity src ns ne
    let top : TOp := .tOp 8 trueTy 3 ns ne identity start stop
    semEmitTop (semAccept st2 trueTy) top

def applySelectFalse (src : Source) (st : SemState) (conditionTy : SemType) (conditionStart conditionStop : Nat)
    (trueTy : SemType) (trueStart trueStop falseStart falseStop ns ne start stop : Nat) (_exp : ExpTy) : SemState :=
  finishSelect src st conditionTy conditionStart conditionStop trueTy st.lastTy trueStart trueStop falseStart
    falseStop ns ne start stop

def profileAtLeast008 (src : Source) (start stop : Nat) : Bool := profileAtLeastMinor src start stop 8

def stage0IntrinsicKnown (src : Source) (start stop : Nat) : Bool :=
  if stop ≤ start then false
  else if stop - start ≠ 6 then false
  else
    let head := header src
    if !profileAtLeast008 src head.versionStart head.versionStop then false
    else
      src.byteAt start = 115 && src.byteAt (start + 1) = 101 && src.byteAt (start + 2) = 108 &&
        src.byteAt (start + 3) = 101 && src.byteAt (start + 4) = 99 && src.byteAt (start + 5) = 116

structure TargCheck where
  kind : Nat
  start : Nat
  stop : Nat
  extra : Nat

def targNatNameVerdict (src : Source) (st : SemState) (arg : TypeArg) : TargCheck :=
  let found := genericParamLookup src st.gparams arg.start arg.stop
  if found.found && found.kind = 0 then { kind := 0, start := 0, stop := 0, extra := 0 }
  else if found.found then { kind := 70, start := arg.start, stop := arg.stop, extra := 0 }
  else if opNominalResolved src st.nominals st.rectab st.enumtab arg.start arg.stop then
    { kind := 70, start := arg.start, stop := arg.stop, extra := 0 }
  else { kind := 74, start := arg.start, stop := arg.stop, extra := 0 }

def targNatVerdict (src : Source) (st : SemState) (arg : TypeArg) : TargCheck :=
  if arg.kind = 10 then { kind := 0, start := 0, stop := 0, extra := 0 }
  else if arg.kind = 5 then targNatNameVerdict src st arg
  else { kind := 70, start := arg.start, stop := arg.stop, extra := 0 }

def targTypeNameVerdict (src : Source) (st : SemState) (arg : TypeArg) : TargCheck :=
  let found := genericParamLookup src st.gparams arg.start arg.stop
  if found.found && found.kind = 0 then { kind := 72, start := arg.start, stop := arg.stop, extra := 0 }
  else if found.found then { kind := 0, start := 0, stop := 0, extra := 0 }
  else if opNominalResolved src st.nominals st.rectab st.enumtab arg.start arg.stop then
    { kind := 0, start := 0, stop := 0, extra := 0 }
  else { kind := 19, start := arg.start, stop := arg.stop, extra := 0 }

def targTypeVerdict (src : Source) (st : SemState) (arg : TypeArg) : TargCheck :=
  if arg.kind = 10 then { kind := 70, start := arg.start, stop := arg.stop, extra := 19 }
  else if arg.kind = 5 then targTypeNameVerdict src st arg else { kind := 0, start := 0, stop := 0, extra := 0 }

def targKindVerdict (src : Source) (st : SemState) (bound : Nat) (arg : TypeArg) : TargCheck :=
  if bound = 0 then targNatVerdict src st arg else targTypeVerdict src st arg

structure TargWalk where
  bounds : List Nat
  args : List TypeArg
  kind : Nat
  start : Nat
  stop : Nat
  extra : Nat
  done : Bool

def checkOneTargKind (src : Source) (st : SemState) (rest : List Nat) (more : List TypeArg) (bound : Nat)
    (arg : TypeArg) : TargWalk :=
  if bound = 2 then
    { bounds := [], args := [], kind := 73, start := arg.start, stop := arg.stop, extra := 0, done := true }
  else
    let verdict := targKindVerdict src st bound arg
    if verdict.kind ≠ 0 then
      { bounds := [], args := [], kind := verdict.kind, start := verdict.start, stop := verdict.stop
        extra := verdict.extra
        done := true }
    else { bounds := rest, args := more, kind := 0, start := 0, stop := 0, extra := 0, done := false }

def checkTargKindsCons (src : Source) (st : SemState) (w : TargWalk) (bound : Nat) (rest : List Nat) : TargWalk :=
  match w.args with
  | [] => { bounds := [], args := [], kind := 0, start := 0, stop := 0, extra := 0, done := true }
  | arg :: more => checkOneTargKind src st rest more bound arg

def checkTargKindsStep (src : Source) (st : SemState) (w : TargWalk) : TargWalk :=
  if w.done || w.kind ≠ 0 then { w with bounds := [], args := [], done := true }
  else
    match w.bounds with
    | [] => { bounds := [], args := [], kind := 0, start := 0, stop := 0, extra := 0, done := true }
    | bound :: rest => checkTargKindsCons src st w bound rest

def checkTargKinds (src : Source) (st : SemState) (bounds : List Nat) (args : List TypeArg) : TargCheck :=
  let d := (checkTargKindsStep src st)^[1024]
    { bounds := bounds, args := args, kind := 0, start := 0, stop := 0, extra := 0, done := false }
  { kind := d.kind, start := d.start, stop := d.stop, extra := d.extra }

def checkTargFail (st : SemState) (checked : TargCheck) : SemState :=
  if checked.extra ≠ 0 then
    semDrain
      (semEmit (semEmit st checked.extra checked.start checked.stop 1) checked.kind checked.start checked.stop 1)
  else semDrain (semEmit st checked.kind checked.start checked.stop 1)

def checkGenericApply (src : Source) (st : SemState) (sig : Sig) (tg : List TypeArg) (ns ne _start _stop : Nat)
    : SemState :=
  let ng := countBounds sig.genericBounds
  let nt := countTargs tg
  if nt = 0 && ng = 0 then st
  else if nt = 0 then semDrain (semEmit st 68 ns ne 1)
  else if ng = 0 then semDrain (semEmit st 70 ns ne 1)
  else if nt ≠ ng then semDrain (semEmit st 69 ns ne 1)
  else
    let checked := checkTargKinds src st sig.genericBounds tg
    if checked.kind ≠ 0 then checkTargFail st checked else st

structure GenericArgAt where
  rest : List TypeArg
  index : Nat
  arg : TypeArg
  found : Bool

def genericArgAtCons (st : GenericArgAt) (h : TypeArg) (t : List TypeArg) : GenericArgAt :=
  if st.index = 1 then { rest := [], index := 0, arg := h, found := true }
  else { rest := t, index := st.index - 1, arg := st.arg, found := false }

def genericArgAtStep (st : GenericArgAt) : GenericArgAt :=
  if st.found || st.index = 0 then { st with rest := [], index := 0 }
  else
    match st.rest with
    | [] => { rest := [], index := 0, arg := st.arg, found := false }
    | h :: t => genericArgAtCons st h t

def genericArgAt (args : List TypeArg) (index : Nat) : GenericArgAt :=
  genericArgAtStep^[1024]
    { rest := args, index := index, arg := { start := 0, stop := 0, kind := 0 }, found := false }

def specializeTypeArgument (src : Source) (st : SemState) (arg : TypeArg) : SemType :=
  if arg.kind = 5 &&
         ((genericParamLookup src st.gparams arg.start arg.stop).found &&
             (genericParamLookup src st.gparams arg.start arg.stop).kind = 1) then
    let index := genericParamIndex src st.gparams arg.start arg.stop 1
    .tNamed (18446744073709551615 - index) 18446744073709551615
  else
    let resolved := resolveSignatureType src arg.kind arg.start arg.stop st.rectab st.enumtab st.nominals st.gparams
    if resolved.ok then resolved.ty else .tPoison

def specializeCallNamed (src : Source) (st : SemState) (start stop : Nat) (args : List TypeArg) : SemType :=
  let index := genericTypeMarkerIndex start stop
  if index = 0 then .tNamed start stop
  else
    let found := genericArgAt args index
    if !found.found then .tNamed start stop else specializeTypeArgument src st found.arg

def specializeCallLeaf (src : Source) (st : SemState) (ty : SemType) (args : List TypeArg) : SemType :=
  match ty with
  | .tNamed start stop => specializeCallNamed src st start stop args
  | _ => ty

def exactGenericBoundIndex (length : Nat) : Nat :=
  if length ≥ 9223372036854775807 then 0
  else
    let index : Nat := 9223372036854775807 - length
    if index > 1024 then 0 else index

def preserveCallNatBound (index : Nat) (isView : Bool) (element : SemType) : SemType :=
  if isView then .tSeqExact element (18446744073709551615 - index) false
  else .tSeqExact element (9223372036854775807 - index) false

def specializeCallNatBound (src : Source) (st : SemState) (args : List TypeArg) (index : Nat) (isView : Bool)
    (element : SemType) : SemType :=
  let found := genericArgAt args index
  if !found.found then preserveCallNatBound index isView element
  else if found.arg.kind = 10 then
    let value := src.intValue found.arg.start found.arg.stop
    if value.overflow then .tPoison else .tSeqExact element value.value (!isView)
  else if found.arg.kind = 5 &&
         ((genericParamLookup src st.gparams found.arg.start found.arg.stop).found &&
             (genericParamLookup src st.gparams found.arg.start found.arg.stop).kind = 0) then
    let callerIndex := genericParamIndex src st.gparams found.arg.start found.arg.stop 0
    if isView then .tSeqExact element (18446744073709551615 - callerIndex) false
    else .tSeqExact element (9223372036854775807 - callerIndex) false
  else preserveCallNatBound index isView element

def viewGenericBoundIndex (length : Nat) : Nat :=
  if length ≥ 18446744073709551615 then 0
  else
    let index : Nat := 18446744073709551615 - length
    if index > 1024 then 0 else index

def specializeInnerSequence (src : Source) (st : SemState) (element : SemType) (length : Nat) (valid : Bool)
    (args : List TypeArg) : SemType :=
  let child := specializeCallLeaf src st element args
  let exactIndex := exactGenericBoundIndex length
  if exactIndex > 0 then specializeCallNatBound src st args exactIndex false child
  else
    let viewIndex := viewGenericBoundIndex length
    if viewIndex > 0 then specializeCallNatBound src st args viewIndex true child else .tSeqExact child length valid

def specializeCallChild (src : Source) (st : SemState) (child : SemType) (args : List TypeArg) : SemType :=
  match child with
  | .tNamed start stop => specializeCallNamed src st start stop args
  | .tSeqExact nested length valid => specializeInnerSequence src st nested length valid args
  | _ => child

def specializeCallSequence (src : Source) (st : SemState) (element : SemType) (length : Nat) (valid : Bool)
    (args : List TypeArg) : SemType :=
  let child := specializeCallChild src st element args
  let exactIndex := exactGenericBoundIndex length
  if exactIndex > 0 then specializeCallNatBound src st args exactIndex false child
  else
    let viewIndex := viewGenericBoundIndex length
    if viewIndex > 0 then specializeCallNatBound src st args viewIndex true child else .tSeqExact child length valid

def specializeCallType (src : Source) (st : SemState) (ty : SemType) (args : List TypeArg) : SemType :=
  match ty with
  | .tNamed start stop => specializeCallNamed src st start stop args
  | .tSeqExact element length valid => specializeCallSequence src st element length valid args
  | _ => ty

structure BindSpecialize where
  rest : List Bind
  acc : List Bind

def specializeCallParamStep (src : Source) (st : SemState) (walk : BindSpecialize) (args : List TypeArg)
    : BindSpecialize :=
  match walk.rest with
  | [] => walk
  | bind :: rest => { rest := rest, acc := { bind with ty := specializeCallType src st bind.ty args } :: walk.acc }

def specializeCallParams (src : Source) (st : SemState) (params : List Bind) (args : List TypeArg) : List Bind :=
  let d := (fun d => specializeCallParamStep src st d args)^[1024] { rest := params, acc := [] }
  reverseBinds d.acc

def specializeCallSig (src : Source) (st : SemState) (sig : Sig) (args : List TypeArg) : Sig :=
  if args.isEmpty then sig
  else
    let params := specializeCallParams src st sig.params args
    let result := specializeCallType src st sig.result args
    { sig with params := params, result := result }

def fxCoverCheck (st : SemState) (need : List EffectIdentity) (start stop : Nat) : SemState :=
  if effectsCovered st.effects need then st else semDrain (semEmit st 15 start stop 1)

def finishCallReq (src : Source) (st : SemState) (sig : Sig) (top : TOp) (r : SemType) (start stop : Nat)
    : SemState :=
  if semEq src sig.result r then semEmitTop (semAccept st sig.result) top
  else semEmitTop (semAccept (semEmit st 25 start stop 1) sig.result) top

def finishCallRes (src : Source) (st : SemState) (sig : Sig) (start stop : Nat) (exp : ExpTy) : SemState :=
  let top : TOp :=
    .tCall sig.result sig.nparams sig.params start stop sig.start sig.stop sig.identity sig.effects sig.capabilities
  match exp with
  | .xNone => semEmitTop (semAccept st sig.result) top
  | .xSome r => finishCallReq src st sig top r start stop

def finishCall (src : Source) (st : SemState) (sig : Sig) (start stop : Nat) (exp : ExpTy) : SemState :=
  let st2 := fxCoverCheck st sig.effects start stop
  if st2.failed then st2 else finishCallRes src st2 sig start stop exp

structure TysAcc where
  rest : List Bind
  acc : List SemType

def paramsToTysStep (st : TysAcc) : TysAcc :=
  match st.rest with
  | [] => st
  | h :: t => { rest := t, acc := h.ty :: st.acc }

def paramsToTys (params : List Bind) : List SemType :=
  let d := paramsToTysStep^[1024] { rest := params, acc := [] }
  d.acc

def pushFirstArg (st : SemState) (sig : Sig) (args : List Expr) (ptys : List SemType) (h : Expr) (p : SemType)
    (start stop : Nat) (exp : ExpTy) : SemState :=
  let job : SemJob := { e := h, exp := .xSome p }
  let kont : SemKont := .kCallA sig args ptys start stop exp
  { st with jobs := job :: st.jobs, konts := kont :: st.konts }

def seedFirstArg (src : Source) (st : SemState) (sig : Sig) (args : List Expr) (h : Expr) (start stop : Nat)
    (exp : ExpTy) : SemState :=
  let ptys := paramsToTys sig.params
  match ptys with
  | [] => finishCall src st sig start stop exp
  | p :: _ => pushFirstArg st sig args ptys h p start stop exp

def seedCallArgs (src : Source) (st : SemState) (sig : Sig) (args : List Expr) (start stop : Nat) (exp : ExpTy)
    : SemState :=
  match args with
  | [] => finishCall src st sig start stop exp
  | h :: _ => seedFirstArg src st sig args h start stop exp

def seedCall (src : Source) (st : SemState) (ns ne : Nat) (args : List Expr) (tg : List TypeArg) (start stop : Nat)
    (exp : ExpTy) : SemState :=
  let got := sigLookup src st.sigs ns ne
  if !got.found then
    if stage0IntrinsicKnown src ns ne && tg.isEmpty then seedSelectCall st ns ne args start stop exp
    else semDrain (semEmit st 32 ns ne 1)
  else
    let checked := checkGenericApply src st got.sig tg ns ne start stop
    if checked.failed then checked
    else
      let argc := countExprs args
      if argc ≠ got.sig.nparams then semDrain (semEmit checked 6 start stop 1)
      else
        let specialized := specializeCallSig src checked got.sig tg
        seedCallArgs src checked specialized args start stop exp

def checkArgTy (src : Source) (st : SemState) (actual p : SemType) (astart aend : Nat) : SemState :=
  if semEq src actual p then st else if seqBorrowOk src actual p then st else semEmit st 26 astart aend 1

def pushNextArg (st : SemState) (sig : Sig) (args : List Expr) (ptys : List SemType) (nh : Expr) (np : SemType)
    (start stop : Nat) (exp : ExpTy) : SemState :=
  let job : SemJob := { e := nh, exp := .xSome np }
  let kont : SemKont := .kCallA sig args ptys start stop exp
  { st with jobs := job :: st.jobs, konts := kont :: st.konts }

def advanceCallArg (src : Source) (st : SemState) (sig : Sig) (t : List Expr) (q : List SemType) (nh : Expr)
    (start stop : Nat) (exp : ExpTy) : SemState :=
  match q with
  | [] => finishCall src st sig start stop exp
  | np :: _ => pushNextArg st sig t q nh np start stop exp

def checkArgCons (src : Source) (st : SemState) (sig : Sig) (h : Expr) (t : List Expr) (p : SemType)
    (q : List SemType) (start stop : Nat) (exp : ExpTy) : SemState :=
  let asp := exprSpan h
  let actual := st.lastTy
  let st2 := checkArgTy src st actual p asp.start asp.stop
  match t with
  | [] => finishCall src st2 sig start stop exp
  | nh :: _ => advanceCallArg src st2 sig t q nh start stop exp

def applyCallArg (src : Source) (st : SemState) (sig : Sig) (args : List Expr) (p : SemType) (q : List SemType)
    (start stop : Nat) (exp : ExpTy) : SemState :=
  match args with
  | [] => finishCall src st sig start stop exp
  | h :: t => checkArgCons src st sig h t p q start stop exp

def applyCallA (src : Source) (st : SemState) (sig : Sig) (args : List Expr) (ptys : List SemType) (start stop : Nat)
    (exp : ExpTy) : SemState :=
  match ptys with
  | [] => finishCall src st sig start stop exp
  | p :: q => applyCallArg src st sig args p q start stop exp

/-! ## Projections -/

structure FieldPresent where
  rest : List Field
  found : Bool

def variantHasFieldsStep (st : FieldPresent) : FieldPresent :=
  if st.found then st
  else
    match st.rest with
    | [] => st
    | _ :: _ => { rest := [], found := true }

def variantHasFields (fields : List Field) : Bool :=
  let d := variantHasFieldsStep^[1024] { rest := fields, found := false }
  d.found

def seedVariantSelect (src : Source) (st : SemState) (decl : EnumDecl) (ns ne fs fe s e : Nat) (exp : ExpTy)
    : SemState :=
  let variant := variantScan src decl.variants fs fe
  if !variant.found then semDrain (semEmit st 43 fs fe 1)
  else if variantHasFields variant.variant.fields then semDrain (semEmit st 49 s e 1)
  else
    let ty : SemType := .tNamed ns ne
    let top : TOp := .tEnumConstruct ty fs fe 0 [] s e
    let emitted := semEmitTop (semAccept st ty) top
    finishConstructExp src emitted ty s e exp

def seedProjBase (st : SemState) (b : Expr) (fs fe s e : Nat) (exp : ExpTy) : SemState :=
  let bsp := exprSpan b
  let job : SemJob := { e := b, exp := .xNone }
  let kont : SemKont := .kProj fs fe bsp.start bsp.stop s e exp
  { st with jobs := job :: st.jobs, konts := kont :: st.konts }

def seedProjName (src : Source) (st : SemState) (ns ne fs fe s e : Nat) (exp : ExpTy) : SemState :=
  let found := enumLookup src st.enumtab ns ne
  if found.found then seedVariantSelect src st found.decl ns ne fs fe s e exp
  else
    let bound := envLookup src st.env ns ne
    if !bound.found then semDrain (semEmit st 42 ns ne 1)
    else
      let base : Expr := .name ns ne
      seedProjBase st base fs fe s e exp

def seedImportedUnitVariant (src : Source) (st : SemState) (schema : ImportedEnumSchema)
    (typeStart typeStop variantStart variantStop start stop : Nat) (exp : ExpTy) : SemState :=
  let key := signatureNameKey src variantStart variantStop
  let variant := importedEnumVariantLookup schema.variants key
  if !variant.found then semDrain (semEmit st 43 variantStart variantStop 1)
  else if !importedPayloadShapeOk src variant.variant.fields [] then semDrain (semEmit st 49 start stop 1)
  else
    let semanticSpan := nominalSemanticSpan st.nominals schema.identity typeStart typeStop
    let ty : SemType := .tNamed semanticSpan.start semanticSpan.stop
    let top : TOp := .tEnumConstruct ty variantStart variantStop 0 [] start stop
    let emitted := semEmitTop (semAccept st ty) top
    finishConstructExp src emitted ty start stop exp

def seedProjProject (src : Source) (st : SemState) (wholeBase : Expr) (fs fe start stop : Nat) (exp : ExpTy)
    (path : Bool) : SemState :=
  if !path then seedProjBase st wholeBase fs fe start stop exp
  else
    let span := exprSpan wholeBase
    let nominal := nominalIdentityAt st.nominals span.start span.stop
    let schema := importedEnumLookup st.importedEnums nominal.identity
    if nominal.found && schema.found then
      seedImportedUnitVariant src st schema.schema span.start span.stop fs fe start stop exp
    else seedProjBase st wholeBase fs fe start stop exp

def seedProj (src : Source) (st : SemState) (b : Expr) (fs fe s e : Nat) (exp : ExpTy) : SemState :=
  match b with
  | .name ns ne => seedProjName src st ns ne fs fe s e exp
  | .project _ _ _ _ _ p => seedProjProject src st b fs fe s e exp p
  | .recordConstruct _ _ b _ _ _ _ => seedProjBase st b fs fe s e exp
  | _ => seedProjBase st b fs fe s e exp

def finishProjReq (src : Source) (st : SemState) (fty : SemType) (top : TOp) (r : SemType) (start stop : Nat)
    : SemState :=
  if semEq src fty r then semEmitTop (semAccept st fty) top
  else semEmitTop (semAccept (semEmit st 35 start stop 1) fty) top

def finishProjExp (src : Source) (st : SemState) (fty : SemType) (fs fe fieldIndex start stop : Nat) (exp : ExpTy)
    : SemState :=
  let top : TOp := .tProj fty fs fe fieldIndex start stop
  match exp with
  | .xNone => semEmitTop (semAccept st fty) top
  | .xSome r => finishProjReq src st fty top r start stop

def projImportedNamed (src : Source) (st : SemState) (ns ne fs fe bs be start stop : Nat) (exp : ExpTy) : SemState :=
  let nominal := nominalIdentityAt st.nominals ns ne
  if !nominal.found then semDrain (semEmit st 23 bs be 1)
  else
    let schema := importedRecordLookup st.importedRecords nominal.identity
    if !schema.found then semDrain (semEmit st 23 bs be 1)
    else
      let key := signatureNameKey src fs fe
      let field := importedFieldLookup schema.schema.fields key
      if !field.found then semDrain (semEmit st 22 fs fe 1)
      else if !field.field.typeValid then semDrain (semEmit st 23 bs be 1)
      else finishProjExp src st field.field.ty fs fe field.field.index start stop exp

def projLocalNamed (src : Source) (st : SemState) (recordDecl : RecordDecl) (fs fe _bs _be start stop : Nat)
    (exp : ExpTy) : SemState :=
  let fld := fieldScan src recordDecl.fields fs fe
  if !fld.found then semDrain (semEmit st 22 fs fe 1)
  else
    let fty :=
      resolveType src fld.field.typeKind fld.field.typeStart fld.field.typeStop st.rectab st.enumtab st.nominals
    if !fty.ok then semEmitTop (semAccept st .tPoison) (.tProj .tPoison fs fe 0 start stop)
    else finishProjExp src st fty.ty fs fe fld.index start stop exp

def projNamed (src : Source) (st : SemState) (ns ne fs fe bs be start stop : Nat) (exp : ExpTy) : SemState :=
  if genericTypeMarkerIndex ns ne > 1024 then projImportedNamed src st ns ne fs fe bs be start stop exp
  else
    let got := recLookup src st.rectab ns ne
    if got.found then projLocalNamed src st got.decl fs fe bs be start stop exp
    else projImportedNamed src st ns ne fs fe bs be start stop exp

def sequenceProj (src : Source) (st : SemState) (fs fe bs be start stop : Nat) (exp : ExpTy) : SemState :=
  if !spanIsLen src fs fe then semDrain (semEmit st 23 bs be 1)
  else
    let ty : SemType := .tInt 64 false
    finishProjExp src st ty fs fe 1024 start stop exp

def applyProj (src : Source) (st : SemState) (fs fe bs be start stop : Nat) (exp : ExpTy) : SemState :=
  let bty := st.lastTy
  if isPoison bty then semEmitTop (semAccept st .tPoison) (.tProj .tPoison fs fe 0 start stop)
  else
    match bty with
    | .tNamed ns ne => projNamed src st ns ne fs fe bs be start stop exp
    | .tSeq => sequenceProj src st fs fe bs be start stop exp
    | .tSeqExact _ _ _ => sequenceProj src st fs fe bs be start stop exp
    | .tPoison => semEmitTop (semAccept st .tPoison) (.tProj .tPoison fs fe 0 start stop)
    | _ => semDrain (semEmit st 23 bs be 1)

/-! ## The machine -/

def semJob (src : Source) (st : SemState) (job : SemJob) : SemState :=
  match job.e with
  | .name s e => finishName src st s e job.exp
  | .integer s e v _ => finishInt st v s e job.exp
  | .boolean s e v => finishBool st v s e job.exp
  | .unaryNot value s e => seedNot st value s e job.exp
  | .repeated value cs ce ck s e => seedRepeat src st value cs ce ck s e job.exp
  | .sequenceLiteral _ s e => semDrain (semEmit st 2 s e 1)
  | .scalarMatch subject arms s e => seedScalarMatch st subject arms s e job.exp
  | .binary o l r s e => seedBinop st o l r s e job.exp
  | .call ns ne a tg s e => seedCall src st ns ne a tg s e job.exp
  | .project b fs fe s e _ => seedProj src st b fs fe s e job.exp
  | .finiteMatch subject arms s e => seedFiniteMatch st subject arms s e job.exp
  | .enumConstruct ts te vs ve f s e => seedEnumConstruct src st ts te vs ve f s e job.exp
  | .index ib ii is' ie => seedIndex st ib ii is' ie job.exp
  | .slice sb si ei ss se => seedSlice st sb si ei ss se job.exp
  | .cast cv cts cte ctk cs ce => seedCast st cv ctk cts cte cs ce job.exp
  | .recordConstruct ts te b hb f s e => seedRecordConstruct src st ts te b hb f s e job.exp
  | .opCall slot ns ne a s e => seedOp src st slot ns ne a s e job.exp

def applyKont (src : Source) (st : SemState) (k : SemKont) : SemState :=
  match k with
  | .kTop => { st with topTy := st.lastTy }
  | .kNot s e x => applyNot src st s e x
  | .kRepeat count s e x => applyRepeat src st count s e x
  | .kScalarSubject arms resultTy ss se s e => applyScalarMatchSubject src st arms resultTy ss se s e
  | .kMatchArm remaining current completed priorTops subjectTy resultTy armCount defaultCount rs re s e =>
      continueScalarMatchArm src st remaining current completed priorTops subjectTy resultTy armCount defaultCount rs
        re s e
  | .kFiniteSubject arms resultTy ss se s e => applyFiniteSubject src st arms resultTy ss se s e
  | .kFiniteArm remaining all current completed payloadFields typeIdentity priorTops subjectTy es ee resultTy
    armCount env rs re s e =>
      continueFiniteMatchArm src st remaining all current completed payloadFields typeIdentity priorTops subjectTy es
        ee resultTy armCount env rs re s e
  | .kRecordBase declared fields ty ts te bs be s e x => applyRecordBase src st declared fields ty ts te bs be s e x
  | .kConstructField remaining total ty params vs ve cty cvs cve mismatchKind shapeOk isRecord diagnosticStop s e x =>
      continueConstructField { src with total := total } st remaining total ty params vs ve cty cvs cve mismatchKind
        shapeOk isRecord diagnosticStop s e x
  | .kBinL o r s e x => applyBinL st o r s e x
  | .kBinR o l s e q x => applyBinR src st o l s e q x
  | .kCallA g a p s e x => applyCallA src st g a p s e x
  | .kProj fs fe bs be s e x => applyProj src st fs fe bs be s e x
  | .kOpA slot ns ne a i s e x => applyOpA src st slot ns ne a i s e x
  | .kIndexBase index bs be s e x => applyIndexBase st index bs be s e x
  | .kIndexValue baseTy index s e x => applyIndexValue src st baseTy index s e x
  | .kSliceBase si ei bs be s e x => applySliceBase st si ei bs be s e x
  | .kSliceStart bt si ei s e x => applySliceStart st bt si ei s e x
  | .kSliceEnd bt ei s e x => applySliceStop src st bt ei s e x
  | .kCastValue kind ts te s e x => applyCastValue src st kind ts te s e x
  | .kSelectCondition tv fv cs ce ns ne s e x => applySelectCondition st tv fv cs ce ns ne s e x
  | .kSelectTrue ct cs ce fv ts te ns ne s e x => applySelectTrue src st ct cs ce fv ts te ns ne s e x
  | .kSelectFalse ct cs ce tt ts te fs fe ns ne s e x => applySelectFalse src st ct cs ce tt ts te fs fe ns ne s e x

def semKontEmpty (src : Source) (st : SemState) : SemState :=
  match st.konts with
  | [] => st
  | k :: t => applyKont src { st with konts := t } k

def semStep (src : Source) (st : SemState) : SemState :=
  if st.failed then st
  else
    match st.jobs with
    | j :: t => semJob src { st with jobs := t } j
    | [] => semKontEmpty src st

def reverseTops (list : List TOp) : List TOp := reverseWithin 1024 list

def finishProveExpr (st : SemState) : ExprRes :=
  if st.failed then { ty := .tPoison, ok := false, obls := reverseObls st.obls, tops := [] }
  else { ty := st.topTy, ok := true, obls := reverseObls st.obls, tops := reverseTops st.tops }

def proveExprWithImportedSchemas (src : Source) (env : List Scope) (sigs : List Sig) (rectab : List RecordDecl)
    (enumtab : List EnumDecl) (nominals : List NominalTypeIdentity) (importedRecords : List ImportedRecordSchema)
    (importedEnums : List ImportedEnumSchema) (effects : List EffectIdentity) (callerFx : List Effect)
    (callerCaps : List Cap) (gparams : List GenericParam) (e : Expr) (exp : ExpTy) : ExprRes :=
  let d := (semStep src)^[1024]
    { jobs := { e := e, exp := exp } :: [], konts := .kTop :: [], obls := [], tops := [], lastTy := .tPoison
      topTy := .tPoison, failed := false, env := env, sigs := sigs, rectab := rectab, enumtab := enumtab
      nominals := nominals, importedRecords := importedRecords, importedEnums := importedEnums, effects := effects
      callerFx := callerFx, callerCaps := callerCaps, gparams := gparams, total := src.total }
  finishProveExpr d

end MncsCompiler.Decl
