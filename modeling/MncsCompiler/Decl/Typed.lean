import MncsCompiler.Decl.Types

/-!
# `Decl.Typed` — typed operations and their verifier

The checker of `decl.mncs` emits a list of typed stack operations for every expression. `verify_tops` checks such a
list again over a stack of types, with one rule an operation, and the arms of the matches in it from a worklist.
-/

namespace MncsCompiler.Decl

open BoundedLoop

/-! ## Typed operations -/

mutual

/-- One operation of the typed stack code, with the type it establishes and its source span. -/
inductive TOp where
  | tInt (value : Nat) (ty : SemType) (start stop : Nat)
  | tBool (value : Bool) (ty : SemType) (start stop : Nat)
  | tName (ty : SemType) (start stop : Nat)
  | tNot (ty : SemType) (start stop : Nat)
  | tRepeat (ty element : SemType) (count start stop : Nat)
  | tMatch (ty subjectTy : SemType) (arms : List TypedScalarMatchArm) (armCount defaultCount start stop : Nat)
  | tFiniteMatch (ty subjectTy : SemType) (arms : List TypedFiniteMatchArm) (armCount start stop : Nat)
  | tEnumConstruct (ty : SemType) (variantStart variantStop fieldCount : Nat) (params : List Bind) (start stop : Nat)
  | tRecordConstruct (ty : SemType) (typeStart typeStop : Nat) (hasBase : Bool) (fieldCount : Nat)
      (params : List Bind) (start stop : Nat)
  | tBin (op : Nat) (ty : SemType) (start stop : Nat)
  | tCall (ty : SemType) (argc : Nat) (params : List Bind) (start stop ns ne : Nat) (identity : SemanticIdentity)
      (effects : List EffectIdentity) (capabilities : List CapabilityIdentity)
  | tProj (ty : SemType) (fstart fend fieldIndex start stop : Nat)
  | tOp (slot : Nat) (ty : SemType) (argc ns ne : Nat) (identity : SemanticIdentity) (start stop : Nat)

inductive TypedFiniteMatchArm where
  | mk (pattern : FinitePattern) (typeIdentity : SemanticIdentity) (payloadFields : List Bind) (ops : List TOp)
      (opCount : Nat)

inductive TypedScalarMatchArm where
  | mk (isDefault negative : Bool) (value : Nat) (overflow : Bool) (patternStart patternStop : Nat) (ops : List TOp)
      (opCount : Nat)

end

def TypedFiniteMatchArm.pattern : TypedFiniteMatchArm → FinitePattern
  | .mk x _ _ _ _ => x

def TypedFiniteMatchArm.typeIdentity : TypedFiniteMatchArm → SemanticIdentity
  | .mk _ x _ _ _ => x

def TypedFiniteMatchArm.payloadFields : TypedFiniteMatchArm → List Bind
  | .mk _ _ x _ _ => x

def TypedFiniteMatchArm.ops : TypedFiniteMatchArm → List TOp
  | .mk _ _ _ x _ => x

def TypedFiniteMatchArm.opCount : TypedFiniteMatchArm → Nat
  | .mk _ _ _ _ x => x

def TypedScalarMatchArm.isDefault : TypedScalarMatchArm → Bool
  | .mk x _ _ _ _ _ _ _ => x

def TypedScalarMatchArm.negative : TypedScalarMatchArm → Bool
  | .mk _ x _ _ _ _ _ _ => x

def TypedScalarMatchArm.value : TypedScalarMatchArm → Nat
  | .mk _ _ x _ _ _ _ _ => x

def TypedScalarMatchArm.overflow : TypedScalarMatchArm → Bool
  | .mk _ _ _ x _ _ _ _ => x

def TypedScalarMatchArm.ops : TypedScalarMatchArm → List TOp
  | .mk _ _ _ _ _ _ x _ => x

def TypedScalarMatchArm.opCount : TypedScalarMatchArm → Nat
  | .mk _ _ _ _ _ _ _ x => x

/-- The type that a position asks for, when it asks for one. -/
inductive ExpTy where
  | xNone
  | xSome (ty : SemType)

/-- The operations still to check over the types on the stack. -/
structure TDepth where
  rest : List TOp
  stack : List SemType
  depth : Nat
  ok : Bool

structure VerifyFrame where
  depth : TDepth
  want : ExpTy

structure VerifyMachine where
  current : VerifyFrame
  pending : List VerifyFrame
  ok : Bool
  done : Bool

def countTops (list : List TOp) : Nat := countWithin 1024 list

/-! ## Match arms -/

structure TypedFiniteMatchCount where
  rest : List TypedFiniteMatchArm
  count : Nat

def typedFiniteMatchCountStep (st : TypedFiniteMatchCount) : TypedFiniteMatchCount :=
  match st.rest with
  | [] => st
  | _ :: rest => { rest := rest, count := st.count + 1 }

def typedFiniteMatchCount (arms : List TypedFiniteMatchArm) : Nat :=
  let st := typedFiniteMatchCountStep^[1024] { rest := arms, count := 0 }
  st.count

structure TypedFiniteArmValidity where
  rest : List TypedFiniteMatchArm
  ok : Bool

def typedFiniteArmValidOne (src : Source) (arm : TypedFiniteMatchArm) (rest : List TypedFiniteMatchArm)
    : TypedFiniteArmValidity :=
  let opCount := countTops arm.ops
  let bindCountActual := payloadBindingCount arm.pattern.bindings
  let fieldsCount := bindCount arm.payloadFields
  let shape : Bool :=
    if arm.pattern.ignorePayload then true
    else if arm.pattern.hasPayload then bindCountActual = fieldsCount else bindCountActual = 0
  { rest := rest
    ok :=
      opCount > 0 && arm.opCount = opCount && arm.typeIdentity.valid && shape &&
        payloadBindingsMatch src arm.pattern.bindings arm.payloadFields }

def typedFiniteArmValidStep (src : Source) (st : TypedFiniteArmValidity) : TypedFiniteArmValidity :=
  if !st.ok then st
  else
    match st.rest with
    | [] => st
    | arm :: rest => typedFiniteArmValidOne src arm rest

def typedFiniteMatchArmsValid (src : Source) (arms : List TypedFiniteMatchArm) : Bool :=
  let st := (typedFiniteArmValidStep src)^[1024] { rest := arms, ok := true }
  st.ok

structure TypedScalarMatchCount where
  rest : List TypedScalarMatchArm
  n : Nat
  defaults : Nat

def typedScalarMatchCountStep (st : TypedScalarMatchCount) : TypedScalarMatchCount :=
  match st.rest with
  | [] => st
  | arm :: rest => { rest := rest, n := st.n + 1, defaults := st.defaults + (if arm.isDefault then 1 else 0) }

def typedScalarMatchCount (arms : List TypedScalarMatchArm) : TypedScalarMatchCount :=
  typedScalarMatchCountStep^[1024] { rest := arms, n := 0, defaults := 0 }

structure TypedScalarArmValidity where
  rest : List TypedScalarMatchArm
  ok : Bool

def typedScalarArmValidOne (arm : TypedScalarMatchArm) (rest : List TypedScalarMatchArm) : TypedScalarArmValidity :=
  let opCount := countTops arm.ops
  { rest := rest, ok := opCount > 0 && arm.opCount = opCount }

def typedScalarArmValidStep (st : TypedScalarArmValidity) : TypedScalarArmValidity :=
  if !st.ok then st
  else
    match st.rest with
    | [] => st
    | arm :: rest => typedScalarArmValidOne arm rest

def typedScalarMatchArmsValid (arms : List TypedScalarMatchArm) : Bool :=
  let st := typedScalarArmValidStep^[1024] { rest := arms, ok := true }
  st.ok

def scalarPatternValidInt (width : Nat) (signed negative : Bool) (value : Nat) : Bool :=
  if width ≠ 64 then false
  else if negative then if !signed then false else value ≤ 9223372036854775808
  else if signed then value ≤ 9223372036854775807 else true

def scalarPatternValid (ty : SemType) (negative : Bool) (value : Nat) (overflow : Bool) : Bool :=
  if overflow then false
  else
    match ty with
    | .tInt width signed => scalarPatternValidInt width signed negative value
    | _ => false

structure PatternFind where
  rest : List Nat
  value : Nat
  found : Bool

def patternFindStep (st : PatternFind) : PatternFind :=
  if st.found then st
  else
    match st.rest with
    | [] => st
    | value :: rest => { st with rest := rest, found := value = st.value }

def patternSeen (values : List Nat) (value : Nat) : Bool :=
  let d := patternFindStep^[1024] { rest := values, value := value, found := false }
  d.found

structure TypedPatternCheck where
  rest : List TypedScalarMatchArm
  seen : List Nat
  subjectTy : SemType
  defaultSeen : Bool
  ok : Bool

def typedScalarMatchPatternCheckArm (st : TypedPatternCheck) (arm : TypedScalarMatchArm)
    (rest : List TypedScalarMatchArm) : TypedPatternCheck :=
  if arm.isDefault then
    if !rest.isEmpty then { st with rest := [], ok := false }
    else { st with rest := [], defaultSeen := true, ok := true }
  else if !scalarPatternValid st.subjectTy arm.negative arm.value arm.overflow then
    { st with rest := [], ok := false }
  else
    let payload : Nat := if arm.negative then negativePayload arm.value else arm.value
    if patternSeen st.seen payload then { st with rest := [], ok := false }
    else { rest := rest, seen := payload :: st.seen, subjectTy := st.subjectTy, defaultSeen := false, ok := true }

def typedScalarMatchPatternStep (st : TypedPatternCheck) : TypedPatternCheck :=
  if !st.ok || st.defaultSeen then st
  else
    match st.rest with
    | [] => st
    | arm :: rest => typedScalarMatchPatternCheckArm st arm rest

def typedScalarMatchPatternsOk (arms : List TypedScalarMatchArm) (subjectTy : SemType) : Bool :=
  let d := typedScalarMatchPatternStep^[1024]
    { rest := arms, seen := [], subjectTy := subjectTy, defaultSeen := false, ok := true }
  d.ok && d.defaultSeen

/-! ## The rule of each operation -/

def verifyTopPush (st : TDepth) (t : List TOp) (ty : SemType) : TDepth :=
  if isPoison ty then { rest := [], stack := [], depth := 0, ok := false }
  else { rest := t, stack := ty :: st.stack, depth := st.depth + 1, ok := true }

def verifyTopNotOperand (src : Source) (st : TDepth) (t : List TOp) (ty operand : SemType) (rest : List SemType)
    : TDepth :=
  if !semEq src operand .tBool then { rest := [], stack := [], depth := 0, ok := false }
  else { rest := t, stack := ty :: rest, depth := st.depth, ok := true }

def verifyTopNot (src : Source) (st : TDepth) (t : List TOp) (ty : SemType) : TDepth :=
  if !semEq src ty .tBool then { rest := [], stack := [], depth := 0, ok := false }
  else
    match st.stack with
    | [] => { rest := [], stack := [], depth := 0, ok := false }
    | operand :: rest => verifyTopNotOperand src st t ty operand rest

def verifyTopRepeatValue (src : Source) (st : TDepth) (t : List TOp) (ty element actual : SemType)
    (rest : List SemType) : TDepth :=
  if !semEq src actual element then { rest := [], stack := [], depth := 0, ok := false }
  else { rest := t, stack := ty :: rest, depth := st.depth, ok := true }

def verifyTopRepeatExact (src : Source) (st : TDepth) (t : List TOp) (ty element expectedElement : SemType)
    (length : Nat) (valid : Bool) (count : Nat) : TDepth :=
  if !valid || length ≠ count || !semEq src element expectedElement then
    { rest := [], stack := [], depth := 0, ok := false }
  else
    match st.stack with
    | [] => { rest := [], stack := [], depth := 0, ok := false }
    | actual :: rest => verifyTopRepeatValue src st t ty element actual rest

def verifyTopRepeat (src : Source) (st : TDepth) (t : List TOp) (ty element : SemType) (count : Nat) : TDepth :=
  if isPoison ty || isPoison element then { rest := [], stack := [], depth := 0, ok := false }
  else
    match ty with
    | .tSeqExact expectedElement length valid =>
        verifyTopRepeatExact src st t ty element expectedElement length valid count
    | _ => { rest := [], stack := [], depth := 0, ok := false }

def verifyTopMatchSubject (src : Source) (st : TDepth) (t : List TOp) (ty subjectTy actual : SemType)
    (remaining : List SemType) : TDepth :=
  if !isIntTy actual || !semEq src actual subjectTy then { rest := [], stack := [], depth := 0, ok := false }
  else { rest := t, stack := ty :: remaining, depth := st.depth, ok := true }

def verifyTopMatch (src : Source) (st : TDepth) (t : List TOp) (ty subjectTy : SemType)
    (arms : List TypedScalarMatchArm) (armCount defaultCount : Nat) : TDepth :=
  let count := typedScalarMatchCount arms
  if isPoison ty || !isIntTy subjectTy || count.n ≠ armCount || count.defaults ≠ defaultCount || defaultCount ≠ 1 then
    { rest := [], stack := [], depth := 0, ok := false }
  else if !typedScalarMatchPatternsOk arms subjectTy || !typedScalarMatchArmsValid arms || st.depth = 0 then
    { rest := [], stack := [], depth := 0, ok := false }
  else
    match st.stack with
    | [] => { rest := [], stack := [], depth := 0, ok := false }
    | actualSubject :: remaining => verifyTopMatchSubject src st t ty subjectTy actualSubject remaining

def verifyTopFiniteSubject (src : Source) (st : TDepth) (t : List TOp) (ty subjectTy actual : SemType)
    (remaining : List SemType) : TDepth :=
  if !isNamedTy actual || !semEq src actual subjectTy then { rest := [], stack := [], depth := 0, ok := false }
  else { rest := t, stack := ty :: remaining, depth := st.depth, ok := true }

def verifyTopFiniteMatch (src : Source) (st : TDepth) (t : List TOp) (ty subjectTy : SemType)
    (arms : List TypedFiniteMatchArm) (armCount : Nat) : TDepth :=
  let count := typedFiniteMatchCount arms
  if isPoison ty || isPoison subjectTy || count ≠ armCount || armCount = 0 || !typedFiniteMatchArmsValid src arms then
    { rest := [], stack := [], depth := 0, ok := false }
  else if !isNamedTy subjectTy || st.depth = 0 then { rest := [], stack := [], depth := 0, ok := false }
  else
    match st.stack with
    | [] => { rest := [], stack := [], depth := 0, ok := false }
    | actualSubject :: remaining => verifyTopFiniteSubject src st t ty subjectTy actualSubject remaining

structure PopN where
  rest : List SemType
  n : Nat
  ok : Bool

def popTysStep (st : PopN) : PopN :=
  if !st.ok || st.n = 0 then st
  else
    match st.rest with
    | [] => { st with rest := [], ok := false }
    | _ :: t => { rest := t, n := st.n - 1, ok := true }

def popTys (stack : List SemType) (n : Nat) : PopN := popTysStep^[1024] { rest := stack, n := n, ok := true }

structure ConstructOperandCheck where
  stack : List SemType
  params : List Bind
  ok : Bool

def constructOperandTypeStep (src : Source) (st : ConstructOperandCheck) : ConstructOperandCheck :=
  if !st.ok then st
  else if st.params.isEmpty then st
  else
    match st.stack with
    | [] => { st with ok := false }
    | actual :: stack =>
        match st.params with
        | [] => st
        | parameter :: params => { stack := stack, params := params, ok := semEq src actual parameter.ty }

def constructOperandTypesMatch (src : Source) (stack : List SemType) (params : List Bind) : Bool :=
  let reverse := reverseBinds params
  let st := (constructOperandTypeStep src)^[1024] { stack := stack, params := reverse, ok := true }
  st.ok && st.params.isEmpty

def verifyTopEnumConstruct (src : Source) (st : TDepth) (t : List TOp) (ty : SemType) (fieldCount : Nat)
    (params : List Bind) (variantStart variantStop start stop : Nat) : TDepth :=
  if isPoison ty || !isNamedTy ty || bindCount params ≠ fieldCount ||
         !enumConstructSourceValid src ty variantStart variantStop params start stop then
    { rest := [], stack := [], depth := 0, ok := false }
  else if st.depth < fieldCount then { rest := [], stack := [], depth := 0, ok := false }
  else
    let popped := popTys st.stack fieldCount
    if !popped.ok || !constructOperandTypesMatch src st.stack params then
      { rest := [], stack := [], depth := 0, ok := false }
    else { rest := t, stack := ty :: popped.rest, depth := st.depth - fieldCount + 1, ok := true }

def recordUpdateBaseMatches (src : Source) (stack : List SemType) (ty : SemType) : Bool :=
  match stack with
  | [] => false
  | actual :: _ => semEq src actual ty

def verifyTopRecordConstruct (src : Source) (st : TDepth) (t : List TOp) (ty : SemType) (hasBase : Bool)
    (fieldCount : Nat) (params : List Bind) (typeStart typeStop start stop : Nat) : TDepth :=
  if isPoison ty || !isNamedTy ty || bindCount params ≠ fieldCount ||
         !recordConstructSourceValidBase src ty typeStart typeStop hasBase params start stop then
    { rest := [], stack := [], depth := 0, ok := false }
  else
    let inputCount : Nat := fieldCount + (if hasBase then 1 else 0)
    if st.depth < inputCount then { rest := [], stack := [], depth := 0, ok := false }
    else
      let fieldsPopped := popTys st.stack fieldCount
      let popped := popTys st.stack inputCount
      if !fieldsPopped.ok || !popped.ok || !constructOperandTypesMatch src st.stack params then
        { rest := [], stack := [], depth := 0, ok := false }
      else if hasBase && !recordUpdateBaseMatches src fieldsPopped.rest ty then
        { rest := [], stack := [], depth := 0, ok := false }
      else { rest := t, stack := ty :: popped.rest, depth := st.depth - inputCount + 1, ok := true }

def verifyTopBinEq (src : Source) (st : TDepth) (t : List TOp) (ty h1 h2 : SemType) (t2 : List SemType) : TDepth :=
  if !semEq src h1 h2 then { rest := [], stack := [], depth := 0, ok := false }
  else { rest := t, stack := ty :: t2, depth := st.depth - 1, ok := true }

def verifyTopBinInner (src : Source) (st : TDepth) (t : List TOp) (ty h1 : SemType) (t1 : List SemType) : TDepth :=
  match t1 with
  | [] => { rest := [], stack := [], depth := 0, ok := false }
  | h2 :: t2 => verifyTopBinEq src st t ty h1 h2 t2

def verifyTopBin (src : Source) (st : TDepth) (t : List TOp) (ty : SemType) : TDepth :=
  if isPoison ty then { rest := [], stack := [], depth := 0, ok := false }
  else
    match st.stack with
    | [] => { rest := [], stack := [], depth := 0, ok := false }
    | h1 :: t1 => verifyTopBinInner src st t ty h1 t1

def verifyTopCall (st : TDepth) (t : List TOp) (ty : SemType) (argc : Nat) (effects : List EffectIdentity)
    (capabilities : List CapabilityIdentity) : TDepth :=
  if isPoison ty || !signatureIdentityValid effects capabilities then
    { rest := [], stack := [], depth := 0, ok := false }
  else if st.depth < argc then { rest := [], stack := [], depth := 0, ok := false }
  else
    let popped := popTys st.stack argc
    if !popped.ok then { rest := [], stack := [], depth := 0, ok := false }
    else { rest := t, stack := ty :: popped.rest, depth := st.depth - argc + 1, ok := true }

def projectIsLen (src : Source) (node : Expr) (fstart fend start stop : Nat) : Bool :=
  match node with
  | .project _ fs fe s e _ => fs = fstart && fe = fend && s = start && e = stop && spanIsLen src fs fe
  | _ => false

def verifyTopSequenceLength (src : Source) (st : TDepth) (t : List TOp) (ty : SemType) (fstart fend start stop : Nat)
    (base : SemType) (rest : List SemType) : TDepth :=
  let parsed := parseExpr { src with total := stop } start true
  if !isU64Ty ty || !parsed.ok || parsed.start ≠ start || parsed.stop ≠ stop ||
         !projectIsLen src parsed.node fstart fend start stop then
    { rest := [], stack := [], depth := 0, ok := false }
  else
    match base with
    | .tSeq => { rest := t, stack := ty :: rest, depth := st.depth, ok := true }
    | .tSeqExact _ _ _ => { rest := t, stack := ty :: rest, depth := st.depth, ok := true }
    | _ => { rest := [], stack := [], depth := 0, ok := false }

def verifyTopProjBase (src : Source) (st : TDepth) (t : List TOp) (ty : SemType)
    (fieldIndex fstart fend start stop : Nat) (base : SemType) (rest : List SemType) : TDepth :=
  if fieldIndex = 1024 then verifyTopSequenceLength src st t ty fstart fend start stop base rest
  else
    match base with
    | .tNamed _ _ => { rest := t, stack := ty :: rest, depth := st.depth, ok := true }
    | _ => { rest := [], stack := [], depth := 0, ok := false }

def verifyTopProj (src : Source) (st : TDepth) (t : List TOp) (ty : SemType) (fieldIndex fstart fend start stop : Nat)
    : TDepth :=
  if isPoison ty then { rest := [], stack := [], depth := 0, ok := false }
  else
    match st.stack with
    | [] => { rest := [], stack := [], depth := 0, ok := false }
    | h :: t2 => verifyTopProjBase src st t ty fieldIndex fstart fend start stop h t2

def opVerifyResultOk (slot : Nat) (ty : SemType) : Bool :=
  if slot = 1 || slot = 8 then !isPoison ty
  else if slot = 6 then !isPoison ty
  else if slot = 7 then castTargetOk ty else if slot = 9 then isSequenceSem ty else isU64Ty ty

def verifyTopSequenceIndexTypes (src : Source) (st : TDepth) (t : List TOp) (ty baseTy indexTy : SemType)
    (rest : List SemType) : TDepth :=
  let element := sequenceSemElement baseTy
  if !isSequenceSem baseTy || isPoison element || !isU64Ty indexTy || !semEq src ty element then
    { rest := [], stack := [], depth := 0, ok := false }
  else { rest := t, stack := ty :: rest, depth := st.depth - 1, ok := true }

def verifyTopSequenceIndexBase (src : Source) (st : TDepth) (t : List TOp) (ty indexTy : SemType)
    (stack : List SemType) : TDepth :=
  match stack with
  | baseTy :: rest => verifyTopSequenceIndexTypes src st t ty baseTy indexTy rest
  | [] => { rest := [], stack := [], depth := 0, ok := false }

def verifyTopSequenceIndex (src : Source) (st : TDepth) (t : List TOp) (ty : SemType) : TDepth :=
  match st.stack with
  | indexTy :: afterIndex => verifyTopSequenceIndexBase src st t ty indexTy afterIndex
  | [] => { rest := [], stack := [], depth := 0, ok := false }

def verifyTopCastTypes (st : TDepth) (t : List TOp) (ty sourceTy : SemType) (rest : List SemType) : TDepth :=
  if !castSourceOk sourceTy || !castTargetOk ty then { rest := [], stack := [], depth := 0, ok := false }
  else { rest := t, stack := ty :: rest, depth := st.depth, ok := true }

def verifyTopCast (st : TDepth) (t : List TOp) (ty : SemType) : TDepth :=
  match st.stack with
  | sourceTy :: rest => verifyTopCastTypes st t ty sourceTy rest
  | [] => { rest := [], stack := [], depth := 0, ok := false }

def verifyTopSelectTypes (src : Source) (st : TDepth) (t : List TOp) (ty conditionTy trueTy falseTy : SemType)
    (rest : List SemType) : TDepth :=
  if !isBoolTy conditionTy || !semEq src trueTy falseTy || !semEq src ty trueTy then
    { rest := [], stack := [], depth := 0, ok := false }
  else { rest := t, stack := ty :: rest, depth := st.depth - 2, ok := true }

def verifyTopSelectCondition (src : Source) (st : TDepth) (t : List TOp) (ty falseTy trueTy : SemType)
    (stack : List SemType) : TDepth :=
  match stack with
  | conditionTy :: rest => verifyTopSelectTypes src st t ty conditionTy trueTy falseTy rest
  | [] => { rest := [], stack := [], depth := 0, ok := false }

def verifyTopSelectTrue (src : Source) (st : TDepth) (t : List TOp) (ty falseTy : SemType) (stack : List SemType)
    : TDepth :=
  match stack with
  | trueTy :: afterTrue => verifyTopSelectCondition src st t ty falseTy trueTy afterTrue
  | [] => { rest := [], stack := [], depth := 0, ok := false }

def verifyTopSelect (src : Source) (st : TDepth) (t : List TOp) (ty : SemType) : TDepth :=
  match st.stack with
  | falseTy :: afterFalse => verifyTopSelectTrue src st t ty falseTy afterFalse
  | [] => { rest := [], stack := [], depth := 0, ok := false }

def verifyTopSequenceViewTypes (src : Source) (st : TDepth) (t : List TOp) (ty baseTy startTy endTy : SemType)
    (rest : List SemType) : TDepth :=
  if !isSequenceSem baseTy || !isU64Ty startTy || !isU64Ty endTy || !semEq src ty (sequenceViewType baseTy) then
    { rest := [], stack := [], depth := 0, ok := false }
  else { rest := t, stack := ty :: rest, depth := st.depth - 2, ok := true }

def verifyTopSequenceViewBase (src : Source) (st : TDepth) (t : List TOp) (ty endTy startTy : SemType)
    (afterStart : List SemType) : TDepth :=
  match afterStart with
  | baseTy :: rest => verifyTopSequenceViewTypes src st t ty baseTy startTy endTy rest
  | [] => { rest := [], stack := [], depth := 0, ok := false }

def verifyTopSequenceViewStart (src : Source) (st : TDepth) (t : List TOp) (ty endTy : SemType)
    (afterStop : List SemType) : TDepth :=
  match afterStop with
  | startTy :: afterStart => verifyTopSequenceViewBase src st t ty endTy startTy afterStart
  | [] => { rest := [], stack := [], depth := 0, ok := false }

def verifyTopSequenceView (src : Source) (st : TDepth) (t : List TOp) (ty : SemType) : TDepth :=
  if st.depth < 3 then { rest := [], stack := [], depth := 0, ok := false }
  else
    match st.stack with
    | endTy :: afterStop => verifyTopSequenceViewStart src st t ty endTy afterStop
    | [] => { rest := [], stack := [], depth := 0, ok := false }

def verifyTopSpecialOp (src : Source) (st : TDepth) (t : List TOp) (slot : Nat) (ty : SemType) (argc : Nat)
    : TDepth :=
  if st.depth < argc then { rest := [], stack := [], depth := 0, ok := false }
  else if slot = 6 then verifyTopSequenceIndex src st t ty
  else if slot = 7 then verifyTopCast st t ty
  else if slot = 8 then verifyTopSelect src st t ty
  else if slot = 9 then verifyTopSequenceView src st t ty else { rest := [], stack := [], depth := 0, ok := false }

def verifyTopOp (src : Source) (st : TDepth) (t : List TOp) (slot : Nat) (ty : SemType) (argc ns ne : Nat)
    (identity : SemanticIdentity) (start stop : Nat) : TDepth :=
  if slot > 9 || argc ≠ opArity slot || isPoison ty || !identity.valid then
    { rest := [], stack := [], depth := 0, ok := false }
  else if !opVerifyResultOk slot ty then { rest := [], stack := [], depth := 0, ok := false }
  else if !semanticIdentityEqual identity (canonicalOperationIdentity src ns ne) then
    { rest := [], stack := [], depth := 0, ok := false }
  else if !opSourceValid src slot ty ns ne argc start stop then { rest := [], stack := [], depth := 0, ok := false }
  else if slot ≥ 6 then verifyTopSpecialOp src st t slot ty argc
  else if st.depth < argc then { rest := [], stack := [], depth := 0, ok := false }
  else
    let popped := popTys st.stack argc
    if !popped.ok then { rest := [], stack := [], depth := 0, ok := false }
    else { rest := t, stack := ty :: popped.rest, depth := st.depth - argc + 1, ok := true }

def verifyTopOne (src : Source) (st : TDepth) (h : TOp) (t : List TOp) : TDepth :=
  match h with
  | .tInt _ ty _ _ => verifyTopPush st t ty
  | .tBool _ ty _ _ => verifyTopPush st t ty
  | .tName ty _ _ => verifyTopPush st t ty
  | .tNot ty _ _ => verifyTopNot src st t ty
  | .tRepeat ty element count _ _ => verifyTopRepeat src st t ty element count
  | .tMatch ty subjectTy arms armCount defaultCount _ _ =>
      verifyTopMatch src st t ty subjectTy arms armCount defaultCount
  | .tFiniteMatch ty subjectTy arms armCount _ _ => verifyTopFiniteMatch src st t ty subjectTy arms armCount
  | .tEnumConstruct ty vs ve f params s e => verifyTopEnumConstruct src st t ty f params vs ve s e
  | .tRecordConstruct ty ts te hasBase f params s e => verifyTopRecordConstruct src st t ty hasBase f params ts te s e
  | .tBin _ ty _ _ => verifyTopBin src st t ty
  | .tCall ty c _ _ _ _ _ _ effects capabilities => verifyTopCall st t ty c effects capabilities
  | .tProj ty fs fe index s e => verifyTopProj src st t ty index fs fe s e
  | .tOp slot ty argc ns ne id s e => verifyTopOp src st t slot ty argc ns ne id s e

/-! ## The worklist

An arm is checked as a frame of its own. The frames owed stand in `pending`, newest first.
-/

def finishVerifyTop (src : Source) (h ty : SemType) : Bool :=
  if isPoison h || isPoison ty then false else semEq src h ty

def finishVerifyWant (src : Source) (st : TDepth) (ty : SemType) : Bool :=
  match st.stack with
  | [] => false
  | h :: _ => finishVerifyTop src h ty

def finishVerifyTops (src : Source) (st : TDepth) (want : ExpTy) : Bool :=
  if !st.ok then false
  else if st.depth ≠ 1 then false
  else
    match want with
    | .xNone => true
    | .xSome ty => finishVerifyWant src st ty

def finishVerifyFrame (src : Source) (st : VerifyMachine) : VerifyMachine :=
  if !finishVerifyTops src st.current.depth st.current.want then { st with ok := false }
  else
    match st.pending with
    | [] => { st with done := true }
    | queued :: pending => { current := queued, pending := pending, ok := true, done := false }

structure TypedVerifyQueue where
  rest : List TypedFiniteMatchArm
  ty : SemType
  pending : List VerifyFrame
  ok : Bool

def queueOneTypedFiniteMatchArm (st : TypedVerifyQueue) (arm : TypedFiniteMatchArm) (rest : List TypedFiniteMatchArm)
    : TypedVerifyQueue :=
  let actualCount := countTops arm.ops
  let frame : VerifyFrame :=
    { depth := { rest := arm.ops, stack := [], depth := 0, ok := true }, want := .xSome st.ty }
  { rest := rest, ty := st.ty, pending := frame :: st.pending
    ok := st.ok && arm.opCount > 0 && arm.opCount = actualCount }

def queueTypedFiniteMatchArmStep (st : TypedVerifyQueue) : TypedVerifyQueue :=
  match st.rest with
  | [] => st
  | arm :: rest => queueOneTypedFiniteMatchArm st arm rest

def queueTypedFiniteMatchArms (arms : List TypedFiniteMatchArm) (ty : SemType) (pending : List VerifyFrame)
    : List VerifyFrame :=
  let st := queueTypedFiniteMatchArmStep^[1024] { rest := arms, ty := ty, pending := pending, ok := true }
  if !st.ok then [] else st.pending

structure TypedScalarVerifyQueue where
  rest : List TypedScalarMatchArm
  ty : SemType
  pending : List VerifyFrame
  ok : Bool

def queueOneTypedScalarMatchArm (st : TypedScalarVerifyQueue) (arm : TypedScalarMatchArm)
    (rest : List TypedScalarMatchArm) : TypedScalarVerifyQueue :=
  let actualCount := countTops arm.ops
  let frame : VerifyFrame :=
    { depth := { rest := arm.ops, stack := [], depth := 0, ok := true }, want := .xSome st.ty }
  { rest := rest, ty := st.ty, pending := frame :: st.pending
    ok := st.ok && arm.opCount > 0 && arm.opCount = actualCount }

def queueTypedScalarMatchArmStep (st : TypedScalarVerifyQueue) : TypedScalarVerifyQueue :=
  match st.rest with
  | [] => st
  | arm :: rest => queueOneTypedScalarMatchArm st arm rest

def queueTypedScalarMatchArms (arms : List TypedScalarMatchArm) (ty : SemType) (pending : List VerifyFrame)
    : List VerifyFrame :=
  let st := queueTypedScalarMatchArmStep^[1024] { rest := arms, ty := ty, pending := pending, ok := true }
  if !st.ok then [] else st.pending

def queueFiniteMatchChecks (operation : TOp) (pending : List VerifyFrame) : List VerifyFrame :=
  match operation with
  | .tFiniteMatch ty _ arms _ _ _ => queueTypedFiniteMatchArms arms ty pending
  | .tMatch ty _ arms _ _ _ _ => queueTypedScalarMatchArms arms ty pending
  | _ => pending

def advanceVerifyFrame (src : Source) (st : VerifyMachine) (operation : TOp) (rest : List TOp) : VerifyMachine :=
  let advanced := verifyTopOne src st.current.depth operation rest
  if !advanced.ok then { st with ok := false }
  else
    let pending := queueFiniteMatchChecks operation st.pending
    { current := { depth := advanced, want := st.current.want }, pending := pending, ok := true, done := false }

def verifyTopsMachineStep (src : Source) (st : VerifyMachine) : VerifyMachine :=
  if !st.ok || st.done then st
  else
    match st.current.depth.rest with
    | [] => finishVerifyFrame src st
    | operation :: rest => advanceVerifyFrame src st operation rest

def verifyTops (src : Source) (ops : List TOp) (want : ExpTy) : Bool :=
  let first : VerifyFrame := { depth := { rest := ops, stack := [], depth := 0, ok := true }, want := want }
  let st := (verifyTopsMachineStep src)^[1024] { current := first, pending := [], ok := true, done := false }
  st.ok && st.done

end MncsCompiler.Decl
