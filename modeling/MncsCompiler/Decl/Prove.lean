import MncsCompiler.Decl.Check

/-!
# `Decl.Prove` — the checker of functions and units

`prove_unit` of `decl.mncs` checks every signature and then every body. Statements are checked by one machine with a
stack of the branches and loops that are open; a function is done when its machine has come to the end of the body.
-/

namespace MncsCompiler.Decl

open BoundedLoop

/-! ## Statements -/

/-- An open branch (kind 0) or loop (kind 1), with the statements behind it. -/
structure StmtFrame where
  next : List Stmt
  savedEnv : List Scope
  elseB : List Stmt
  phase : Nat
  kind : Nat
  stateStart : Nat
  stateStop : Nat
  stateTy : SemType
  nextNameStart : Nat
  nextNameStop : Nat
  nextValue : Expr
  loopNameStart : Nat
  loopNameStop : Nat
  loopBound : Nat

structure StmtWalk where
  rest : List Stmt
  frames : List StmtFrame
  env : List Scope
  closed : Bool
  ok : Bool
  obls : List Obligation
  tops : List (List TOp)
  sig : Sig
  gparams : List GenericParam
  sigs : List Sig
  rectab : List RecordDecl
  enumtab : List EnumDecl
  nominals : List NominalTypeIdentity
  importedRecords : List ImportedRecordSchema
  importedEnums : List ImportedEnumSchema
  total : Nat
  profile011 : Bool
  profile013 : Bool
  iterationNames : List NameSpan

def rejectIterate (st : StmtWalk) (rest : List Stmt) (kind start stop : Nat) : StmtWalk :=
  let obl : List Obligation := { kind := kind, start := start, stop := stop, status := 1 } :: []
  { st with rest := rest, obls := appendObls st.obls obl }

def iterateNextNameObl (same : Bool) (start stop : Nat) : List Obligation :=
  if same then [] else { kind := 83, start := start, stop := stop, status := 1 } :: []

def wantPoison (w : ExpTy) : Bool :=
  match w with
  | .xNone => false
  | .xSome t => isPoison t

def skipVerify (ty : SemType) (want : ExpTy) : Bool :=
  if isPoison ty then true else if wantPoison want then true else false

def iterateNextTypeObl (agrees : Bool) (start stop : Nat) : List Obligation :=
  if agrees then [] else { kind := 82, start := start, stop := stop, status := 1 } :: []

def loopTypeMatches (src : Source) (actual expected : SemType) : Bool :=
  semEq src actual expected || seqBorrowOk src actual expected

def loopDuplicateObl (duplicate : Bool) (start stop : Nat) : List Obligation :=
  if !duplicate then [] else { kind := 5, start := start, stop := stop, status := 1 } :: []

def closeIterateNext (src : Source) (st : StmtWalk) (frame : StmtFrame) (restFrames : List StmtFrame)
    (actual : SemType) : StmtWalk :=
  let span := exprSpan frame.nextValue
  let mismatch := iterateNextTypeObl (loopTypeMatches src actual frame.stateTy) span.start span.stop
  let obls := appendObls st.obls mismatch
  let bound := envBindCurrent src frame.savedEnv frame.stateStart frame.stateStop frame.stateTy
  let duplicate := loopDuplicateObl bound.dup frame.stateStart frame.stateStop
  let all := appendObls obls duplicate
  let names : List NameSpan := { start := frame.loopNameStart, stop := frame.loopNameStop } :: st.iterationNames
  { st with
    rest := frame.next, frames := restFrames, env := bound.stack, closed := false, obls := all
    iterationNames := names }

def proveIterateNextValue (src : Source) (st : StmtWalk) (frame : StmtFrame) (restFrames : List StmtFrame)
    : StmtWalk :=
  let want : ExpTy := .xSome frame.stateTy
  let res :=
    proveExprWithImportedSchemas src st.env st.sigs st.rectab st.enumtab st.nominals st.importedRecords
      st.importedEnums st.sig.effects st.sig.fx st.sig.rawCapabilities st.gparams frame.nextValue want
  let obls1 := appendObls st.obls res.obls
  let tops1 : List (List TOp) := res.tops :: st.tops
  let withNext : StmtWalk := { st with obls := obls1, tops := tops1 }
  if !res.ok then { withNext with rest := frame.next, frames := restFrames, env := frame.savedEnv, closed := false }
  else if !skipVerify res.ty want && !verifyTops src res.tops .xNone then
    { withNext with rest := [], frames := [], ok := false }
  else closeIterateNext src withNext frame restFrames res.ty

def proveIterateNextName (src : Source) (st : StmtWalk) (frame : StmtFrame) (restFrames : List StmtFrame)
    : StmtWalk :=
  let same := spansEqual src frame.stateStart frame.stateStop frame.nextNameStart frame.nextNameStop
  let mismatch := iterateNextNameObl same frame.nextNameStart frame.nextNameStop
  let named := appendObls st.obls mismatch
  proveIterateNextValue src { st with obls := named } frame restFrames

def unwindLoopFrame (src : Source) (st : StmtWalk) (frame : StmtFrame) (restFrames : List StmtFrame) : StmtWalk :=
  if st.closed then
    let span := exprSpan frame.nextValue
    let failed :=
      rejectIterate { st with env := frame.savedEnv, frames := restFrames } frame.next 86 span.start span.stop
    failed
  else proveIterateNextName src st frame restFrames

def unwindFrame (src : Source) (st : StmtWalk) (f : StmtFrame) (t : List StmtFrame) : StmtWalk :=
  if f.kind = 1 then unwindLoopFrame src st f t
  else if f.phase = 0 then
    let frame : StmtFrame := { f with phase := 1 }
    { st with rest := f.elseB, frames := frame :: t, env := pushScope f.savedEnv, closed := false }
  else { st with rest := f.next, frames := t, env := f.savedEnv, closed := false }

def unwindOrDone (src : Source) (st : StmtWalk) : StmtWalk :=
  match st.frames with
  | [] => st
  | f :: t => unwindFrame src st f t

def matchObl (src : Source) (_st : StmtWalk) (actual wantTy : SemType) (obls : List Obligation) (kind s e : Nat)
    : List Obligation :=
  if semEq src actual wantTy then obls
  else if seqBorrowOk src actual wantTy then obls
  else
    let obl : List Obligation := { kind := kind, start := s, stop := e, status := 1 } :: []
    appendObls obls obl

def dupObl (_st : StmtWalk) (bind : BindRes) (obls : List Obligation) (a b : Nat) : List Obligation :=
  if !bind.dup then obls
  else
    let obl : List Obligation := { kind := 5, start := a, stop := b, status := 1 } :: []
    appendObls obls obl

def finishLet (src : Source) (st : StmtWalk) (t : List Stmt) (a b s e : Nat) (res : ExprRes) (declared : SemType)
    (obls1 : List Obligation) : StmtWalk :=
  let obls2 := matchObl src st res.ty declared obls1 28 s e
  let bind := envBindCurrent src st.env a b declared
  let obls3 := dupObl st bind obls2 a b
  { st with rest := t, env := bind.stack, obls := obls3, tops := res.tops :: st.tops }

def proveLet (src : Source) (st : StmtWalk) (t : List Stmt) (a b c d k : Nat) (v : Expr) (s e : Nat) : StmtWalk :=
  let ty := resolveSignatureType src k c d st.rectab st.enumtab st.nominals st.gparams
  let tob := paramTypeObl { nameStart := a, nameStop := b, typeStart := c, typeStop := d, typeKind := k } ty
  let declared := paramBoundType ty
  let want : ExpTy := .xSome declared
  let res :=
    proveExprWithImportedSchemas src st.env st.sigs st.rectab st.enumtab st.nominals st.importedRecords
      st.importedEnums st.sig.effects st.sig.fx st.sig.rawCapabilities st.gparams v want
  let obls1 := appendObls (appendObls st.obls tob) res.obls
  if !res.ok then { st with rest := t, obls := obls1 }
  else if !skipVerify res.ty want && !verifyTops src res.tops .xNone then
    { st with rest := [], frames := [], ok := false, obls := obls1, tops := res.tops :: st.tops }
  else finishLet src st t a b s e res declared obls1

def proveIfArms (st : StmtWalk) (t tb eb : List Stmt) (obls1 : List Obligation) (tops1 : List (List TOp))
    : StmtWalk :=
  let frame : StmtFrame :=
    { next := t, savedEnv := st.env, elseB := eb, phase := 0, kind := 0, stateStart := 0, stateStop := 0
      stateTy := .tPoison, nextNameStart := 0, nextNameStop := 0, nextValue := .name 0 0, loopNameStart := 0
      loopNameStop := 0, loopBound := 0 }
  { st with
    rest := tb, frames := frame :: st.frames, env := pushScope st.env, closed := false, obls := obls1, tops := tops1 }

def proveIfReject (st : StmtWalk) (t : List Stmt) (c : Expr) (obls1 : List Obligation) (tops1 : List (List TOp))
    : StmtWalk :=
  let csp := exprSpan c
  let obl : List Obligation := { kind := 24, start := csp.start, stop := csp.stop, status := 1 } :: []
  { st with rest := t, obls := appendObls obls1 obl, tops := tops1 }

def proveIf (src : Source) (st : StmtWalk) (t : List Stmt) (c : Expr) (tb eb : List Stmt) (_s _e : Nat) : StmtWalk :=
  let want : ExpTy := .xSome .tBool
  let res :=
    proveExprWithImportedSchemas src st.env st.sigs st.rectab st.enumtab st.nominals st.importedRecords
      st.importedEnums st.sig.effects st.sig.fx st.sig.rawCapabilities st.gparams c want
  let obls1 := appendObls st.obls res.obls
  if !res.ok then { st with rest := t, obls := obls1 }
  else if !skipVerify res.ty want && !verifyTops src res.tops .xNone then
    { st with rest := [], frames := [], ok := false, obls := obls1, tops := res.tops :: st.tops }
  else
    let tops1 : List (List TOp) := res.tops :: st.tops
    if semEq src res.ty .tBool then proveIfArms st t tb eb obls1 tops1 else proveIfReject st t c obls1 tops1

/-- `isolated`. -/
def failIsIsolated (src : Source) (a : Nat) : Bool :=
  src.spells a [105, 115, 111, 108, 97, 116, 101, 100]

/-- `atomic`. -/
def failIsAtomic (src : Source) (a : Nat) : Bool :=
  src.spells a [97, 116, 111, 109, 105, 99]

/-- `fatal`. -/
def failIsFatal (src : Source) (a : Nat) : Bool :=
  src.spells a [102, 97, 116, 97, 108]

def failModeOk (src : Source) (a b : Nat) : Bool :=
  if b < a then false
  else if b - a = 8 then failIsIsolated src a
  else if b - a = 6 then failIsAtomic src a else if b - a = 5 then failIsFatal src a else false

def proveFail (src : Source) (st : StmtWalk) (t : List Stmt) (a b s e : Nat) : StmtWalk :=
  if failModeOk src a b then { st with rest := t, closed := true }
  else
    let obl : List Obligation := { kind := 21, start := s, stop := e, status := 1 } :: []
    { st with rest := t, closed := true, obls := appendObls st.obls obl }

def proveReturnName (src : Source) (st : StmtWalk) (t : List Stmt) (ns ne qs qe : Nat) : StmtWalk :=
  let got := envLookup src st.env ns ne
  if !got.found then
    let obl : List Obligation := { kind := 1, start := ns, stop := ne, status := 1 } :: []
    { st with rest := t, obls := appendObls st.obls obl }
  else
    let top : TOp := .tName got.ty ns ne
    let tops1 : List (List TOp) := (top :: []) :: st.tops
    let obls1 := matchObl src st got.ty st.sig.result st.obls 27 qs qe
    { st with rest := t, closed := true, obls := obls1, tops := tops1 }

def proveReturnExpr (src : Source) (st : StmtWalk) (v : Expr) (t : List Stmt) (qs qe : Nat) : StmtWalk :=
  let want : ExpTy := .xSome st.sig.result
  let res :=
    proveExprWithImportedSchemas src st.env st.sigs st.rectab st.enumtab st.nominals st.importedRecords
      st.importedEnums st.sig.effects st.sig.fx st.sig.rawCapabilities st.gparams v want
  let obls1 := appendObls st.obls res.obls
  if !res.ok then { st with rest := t, obls := obls1 }
  else if !skipVerify res.ty want && !verifyTops src res.tops .xNone then
    { st with rest := [], frames := [], ok := false, obls := obls1, tops := res.tops :: st.tops }
  else
    let obls2 := matchObl src st res.ty st.sig.result obls1 27 qs qe
    { st with rest := t, closed := true, obls := obls2, tops := res.tops :: st.tops }

def proveReturnRecordExpr (src : Source) (st : StmtWalk) (value : Expr) (rest : List Stmt) : StmtWalk :=
  let span := exprSpan value
  proveReturnExpr src st value rest span.start span.stop

def proveReturnVal (src : Source) (st : StmtWalk) (v : Expr) (t : List Stmt) (qs qe : Nat) : StmtWalk :=
  match v with
  | .name ns ne => proveReturnName src st t ns ne qs qe
  | .recordConstruct _ _ _ _ _ _ _ => proveReturnRecordExpr src st v t
  | _ => proveReturnExpr src st v t qs qe

structure ActiveLoops where
  rest : List StmtFrame
  depth : Nat
  product : Nat
  duplicate : Bool
  nameStart : Nat
  nameStop : Nat

def activeLoopFrame (src : Source) (st : ActiveLoops) (frame : StmtFrame) (rest : List StmtFrame) : ActiveLoops :=
  if frame.kind ≠ 1 then { st with rest := rest }
  else
    let duplicate : Bool :=
      st.duplicate || spansEqual src st.nameStart st.nameStop frame.loopNameStart frame.loopNameStop
    { st with rest := rest, depth := st.depth + 1, product := st.product * frame.loopBound, duplicate := duplicate }

def activeLoopStep (src : Source) (st : ActiveLoops) : ActiveLoops :=
  match st.rest with
  | [] => st
  | frame :: rest => activeLoopFrame src st frame rest

def activeLoopSummary (src : Source) (frames : List StmtFrame) (nameStart nameStop : Nat) : ActiveLoops :=
  (activeLoopStep src)^[1024]
    { rest := frames, depth := 0, product := 1, duplicate := false, nameStart := nameStart, nameStop := nameStop }

def iterateSequenceCeiling (ty : SemType) : Nat :=
  match ty with
  | .tSeqExact _ length _ => length
  | _ => 0

def iterateGenericBound (ty : SemType) : Bool :=
  match ty with
  | .tSeqExact _ length valid => !valid && (length = 18446744073709551615 || viewGenericBoundIndex length > 0)
  | _ => false

def iterateProductCeiling (profile011 profile013 : Bool) : Nat :=
  if profile013 then 1048576 else if profile011 then 4096 else 64

structure IterateInfo where
  indexStart : Nat
  indexStop : Nat
  overSource : Expr
  hasOverSource : Bool
  boundStart : Nat
  boundStop : Nat
  stateStart : Nat
  stateStop : Nat
  typeStart : Nat
  typeStop : Nat
  typeKind : Nat
  initial : Expr
  body : List Stmt
  nextNameStart : Nat
  nextNameStop : Nat
  nextValue : Expr
  start : Nat
  stop : Nat

def bindIterateIndex (src : Source) (st : StmtWalk) (info : IterateInfo) (env : List Scope) : List Scope :=
  if !info.hasOverSource && !st.profile011 then env
  else
    let bound := envBindCurrent src env info.indexStart info.indexStop (.tInt 64 false)
    bound.stack

def bindIterateState (src : Source) (st : StmtWalk) (rest : List Stmt) (info : IterateInfo) (bound : Nat)
    (stateTy : SemType) (inner0 : List Scope) : StmtWalk :=
  let inner1 := bindIterateIndex src st info inner0
  let carried := envBindCurrent src inner1 info.stateStart info.stateStop stateTy
  let dup := loopDuplicateObl carried.dup info.stateStart info.stateStop
  let frame : StmtFrame :=
    { next := rest, savedEnv := st.env, elseB := [], phase := 0, kind := 1, stateStart := info.stateStart
      stateStop := info.stateStop, stateTy := stateTy, nextNameStart := info.nextNameStart
      nextNameStop := info.nextNameStop, nextValue := info.nextValue, loopNameStart := info.indexStart
      loopNameStop := info.indexStop, loopBound := bound }
  let obls := appendObls st.obls dup
  { st with rest := info.body, frames := frame :: st.frames, env := carried.stack, closed := false, obls := obls }

def openIterate (src : Source) (st : StmtWalk) (rest : List Stmt) (info : IterateInfo) (bound : Nat)
    (stateTy : SemType) : StmtWalk :=
  let inner0 := pushScope st.env
  bindIterateState src st rest info bound stateTy inner0

def proveIterateInitial (src : Source) (st : StmtWalk) (rest : List Stmt) (info : IterateInfo) (bound : Nat)
    (stateTy : SemType) (obls : List Obligation) : StmtWalk :=
  let want : ExpTy := .xSome stateTy
  let res :=
    proveExprWithImportedSchemas src st.env st.sigs st.rectab st.enumtab st.nominals st.importedRecords
      st.importedEnums st.sig.effects st.sig.fx st.sig.rawCapabilities st.gparams info.initial want
  let obls1 := appendObls obls res.obls
  let tops1 : List (List TOp) := res.tops :: st.tops
  let withInitial : StmtWalk := { st with obls := obls1, tops := tops1 }
  if !res.ok then { withInitial with rest := rest }
  else if !skipVerify res.ty want && !verifyTops src res.tops .xNone then
    { withInitial with rest := [], frames := [], ok := false }
  else if !loopTypeMatches src res.ty stateTy then
    rejectIterate withInitial rest 82 (exprSpan info.initial).start (exprSpan info.initial).stop
  else openIterate src withInitial rest info bound stateTy

def prepareIterate (src : Source) (st : StmtWalk) (rest : List Stmt) (info : IterateInfo) (active : ActiveLoops)
    (bound : Nat) : StmtWalk :=
  if active.duplicate || !st.profile013 && nameKnown src st.iterationNames info.indexStart info.indexStop then
    rejectIterate st rest 84 info.indexStart info.indexStop
  else
    let product : Nat := active.product * bound
    let maximumProduct := iterateProductCeiling st.profile011 st.profile013
    if product > maximumProduct then rejectIterate st rest 90 info.start info.stop
    else
      let field : Field :=
        { nameStart := info.stateStart, nameStop := info.stateStop, typeStart := info.typeStart
          typeStop := info.typeStop
          typeKind := info.typeKind }
      let state :=
        resolveSignatureType src info.typeKind info.typeStart info.typeStop st.rectab st.enumtab st.nominals
          st.gparams
      let typeObls := paramTypeObl field state
      let obls1 := appendObls st.obls typeObls
      if !state.ok then { st with rest := rest, obls := obls1 }
      else proveIterateInitial src st rest info bound state.ty obls1

def validateIterateSequence (src : Source) (st : StmtWalk) (rest : List Stmt) (info : IterateInfo)
    (active : ActiveLoops) (sourceTy : SemType) : StmtWalk :=
  let element := sequenceSemElement sourceTy
  if !st.profile013 && isU64Ty element then
    rejectIterate st rest 91 (exprSpan info.overSource).start (exprSpan info.overSource).stop
  else
    let ceiling := iterateSequenceCeiling sourceTy
    let maxSequence : Nat := if st.profile013 then 1024 else 64
    if isPoison element then rejectIterate st rest 88 (exprSpan info.overSource).start (exprSpan info.overSource).stop
    else if ceiling > maxSequence && !iterateGenericBound sourceTy then
      rejectIterate st rest 89 (exprSpan info.overSource).start (exprSpan info.overSource).stop
    else
      let workBound : Nat := if iterateGenericBound sourceTy then maxSequence else ceiling
      prepareIterate src st rest info active workBound

def proveIterateOver (src : Source) (st : StmtWalk) (rest : List Stmt) (info : IterateInfo) (active : ActiveLoops)
    : StmtWalk :=
  let res :=
    proveExprWithImportedSchemas src st.env st.sigs st.rectab st.enumtab st.nominals st.importedRecords
      st.importedEnums st.sig.effects st.sig.fx st.sig.rawCapabilities st.gparams info.overSource .xNone
  let obls := appendObls st.obls res.obls
  let tops : List (List TOp) := res.tops :: st.tops
  let withSource : StmtWalk := { st with obls := obls, tops := tops }
  if !res.ok then { withSource with rest := rest }
  else if !skipVerify res.ty .xNone && !verifyTops src res.tops .xNone then
    { withSource with rest := [], frames := [], ok := false }
  else if isPoison res.ty then { withSource with rest := rest }
  else if !isSequenceSem res.ty then
    rejectIterate withSource rest 88 (exprSpan info.overSource).start (exprSpan info.overSource).stop
  else validateIterateSequence src withSource rest info active res.ty

def proveIterate (src : Source) (st : StmtWalk) (rest : List Stmt) (indexStart indexStop : Nat) (overSource : Expr)
    (hasOverSource : Bool) (boundStart boundStop stateStart stateStop typeStart typeStop typeKind : Nat)
    (initial : Expr) (body : List Stmt) (nextNameStart nextNameStop : Nat) (nextValue : Expr) (start stop : Nat)
    : StmtWalk :=
  let info : IterateInfo :=
    { indexStart := indexStart, indexStop := indexStop, overSource := overSource, hasOverSource := hasOverSource
      boundStart := boundStart, boundStop := boundStop, stateStart := stateStart, stateStop := stateStop
      typeStart := typeStart, typeStop := typeStop, typeKind := typeKind, initial := initial, body := body
      nextNameStart := nextNameStart, nextNameStop := nextNameStop, nextValue := nextValue, start := start
      stop := stop }
  let active := activeLoopSummary src st.frames indexStart indexStop
  let maxDepth : Nat := if st.profile011 then 2 else 1
  if active.depth ≥ maxDepth then rejectIterate st rest 85 start stop
  else if hasOverSource then proveIterateOver src st rest info active
  else
    let count := src.intValue boundStart boundStop
    let maximum : Nat := if st.profile013 then 1024 else 32
    if count.overflow || count.value = 0 || count.value > maximum then rejectIterate st rest 87 boundStart boundStop
    else prepareIterate src st rest info active count.value

def proveOneStmt (src : Source) (st : StmtWalk) (h : Stmt) (t : List Stmt) : StmtWalk :=
  match h with
  | .letStmt a b c d k v s e => proveLet src st t a b c d k v s e
  | .ifStmt c tb eb s e => proveIf src st t c tb eb s e
  | .failStmt a b s e => proveFail src st t a b s e
  | .returnStmt v s e => proveReturnVal src st v t s e
  | .iterateStmt ns ne o ho bs be ss se ts te tk init b xs xe nv s e =>
      proveIterate src st t ns ne o ho bs be ss se ts te tk init b xs xe nv s e

def proveStmtCons (src : Source) (st : StmtWalk) (h : Stmt) (t : List Stmt) : StmtWalk :=
  if st.closed then
    let sp := stmtSpan h
    let obl : List Obligation := { kind := 20, start := sp.start, stop := sp.stop, status := 1 } :: []
    { st with rest := [], obls := appendObls st.obls obl }
  else proveOneStmt src st h t

def proveStmtStep (src : Source) (st : StmtWalk) : StmtWalk :=
  if !st.ok then { st with rest := [], frames := [] }
  else
    match st.rest with
    | [] => unwindOrDone src st
    | h :: t => proveStmtCons src st h t

def proveStmts (src : Source) (w : StmtWalk) : StmtWalk := (proveStmtStep src)^[1024] w

/-! ## Functions -/

structure ResCount where
  rest : List Field
  n : Nat

def countResultsStep (st : ResCount) : ResCount :=
  match st.rest with
  | [] => st
  | _ :: t => { rest := t, n := st.n + 1 }

def countResultsFields (fields : List Field) : Nat :=
  let d := countResultsStep^[1024] { rest := fields, n := 0 }
  d.n

structure FldObl where
  rest : List Field
  obls : List Obligation

def fieldOblsCons (src : Source) (st : FldObl) (h : Field) (t : List Field) (rectab : List RecordDecl)
    (enumtab : List EnumDecl) (nominals : List NominalTypeIdentity) (generics : List GenericParam) : FldObl :=
  let ty := resolveSignatureType src h.typeKind h.typeStart h.typeStop rectab enumtab nominals generics
  let tob := paramTypeObl h ty
  { rest := t, obls := appendObls st.obls tob }

def fieldOblsStep (src : Source) (st : FldObl) (rectab : List RecordDecl) (enumtab : List EnumDecl)
    (nominals : List NominalTypeIdentity) (generics : List GenericParam) : FldObl :=
  match st.rest with
  | [] => st
  | h :: t => fieldOblsCons src st h t rectab enumtab nominals generics

def fieldTypeObls (src : Source) (fields : List Field) (rectab : List RecordDecl) (enumtab : List EnumDecl)
    (nominals : List NominalTypeIdentity) (generics : List GenericParam) : List Obligation :=
  let d := (fun d => fieldOblsStep src d rectab enumtab nominals generics)^[1024] { rest := fields, obls := [] }
  reverseObls d.obls

def framesStuck (frames : List StmtFrame) : Bool :=
  match frames with
  | [] => false
  | _ :: _ => true

def walkStuck (w : StmtWalk) : Bool :=
  match w.rest with
  | [] => framesStuck w.frames
  | _ :: _ => true

structure TopsLRev where
  rest : List (List TOp)
  acc : List (List TOp)

def topslistReverseStep (st : TopsLRev) : TopsLRev :=
  match st.rest with
  | [] => st
  | h :: t => { rest := t, acc := h :: st.acc }

def topslistReverse (list : List (List TOp)) : List (List TOp) :=
  let d := topslistReverseStep^[1024] { rest := list, acc := [] }
  d.acc

def proveTail (src : Source) (w : StmtWalk) (ret : Expr) : StmtWalk :=
  let sp := exprSpan ret
  if w.closed then
    let obl : List Obligation := { kind := 20, start := sp.start, stop := sp.stop, status := 1 } :: []
    { w with obls := appendObls w.obls obl }
  else proveReturnVal src w ret [] sp.start sp.stop

structure FnProve where
  ok : Bool
  obls : List Obligation
  tops : List (List TOp)

def proveFnWithImportedSchemas (src : Source) (h : FnDecl) (sig : Sig) (sigs : List Sig) (rectab : List RecordDecl)
    (enumtab : List EnumDecl) (nominals : List NominalTypeIdentity) (importedRecords : List ImportedRecordSchema)
    (importedEnums : List ImportedEnumSchema) (profile011 profile013 : Bool) : FnProve :=
  let nres := countResultsFields h.sig.results
  if nres ≠ 1 then { ok := true, obls := [], tops := [] }
  else
    let par := fieldTypeObls src h.sig.params rectab enumtab nominals h.sig.generics
    let res := fieldTypeObls src h.sig.results rectab enumtab nominals h.sig.generics
    let env0 : List Scope := { binds := sig.params } :: []
    let w0 : StmtWalk :=
      { rest := h.body.body, frames := [], env := env0, closed := false, ok := true, obls := [], tops := []
        sig := sig
        gparams := h.sig.generics, sigs := sigs, rectab := rectab, enumtab := enumtab, nominals := nominals
        importedRecords := importedRecords, importedEnums := importedEnums, total := src.total
        profile011 := profile011, profile013 := profile013, iterationNames := [] }
    let w1 := proveStmts src w0
    if walkStuck w1 then
      { ok := false, obls := appendObls par (appendObls res w1.obls), tops := topslistReverse w1.tops }
    else
      let w2 := proveTail src w1 h.body.ret
      { ok := w2.ok, obls := appendObls par (appendObls res w2.obls), tops := topslistReverse w2.tops }

/-! ## Units -/

structure BodyWalk where
  rest : List FnDecl
  tab : List Sig
  rectab : List RecordDecl
  enumtab : List EnumDecl
  nominals : List NominalTypeIdentity
  importedRecords : List ImportedRecordSchema
  importedEnums : List ImportedEnumSchema
  total : Nat
  profile011 : Bool
  profile013 : Bool
  obls : List Obligation
  tops : List (List TOp)
  ok : Bool
  n : Nat

def proveBodySkip (st : BodyWalk) (h : FnDecl) (t : List FnDecl) : BodyWalk :=
  let obl : List Obligation := { kind := 18, start := h.fnStart, stop := h.fnStop, status := 1 } :: []
  { st with rest := t, obls := appendObls st.obls obl, n := st.n + 1 }

structure GenericBoundWalk where
  rest : List GenericParam
  acc : List Obligation

def checkGenericBoundObl (src : Source) (st : GenericBoundWalk) (h : GenericParam) (t : List GenericParam)
    : GenericBoundWalk :=
  if genericBoundKind src h = 2 then
    { rest := t, acc := { kind := 73, start := h.nameStart, stop := h.boundStop, status := 1 } :: st.acc }
  else { st with rest := t }

def checkGenericBoundOblsStep (src : Source) (st : GenericBoundWalk) : GenericBoundWalk :=
  match st.rest with
  | [] => st
  | h :: t => checkGenericBoundObl src st h t

def checkGenericBoundObls (src : Source) (list : List GenericParam) : List Obligation :=
  let d := (checkGenericBoundOblsStep src)^[1024] { rest := list, acc := [] }
  reverseObls d.acc

structure OblKindKeep where
  rest : List Obligation
  acc : List Obligation
  want : Nat

def oblKindCons (st : OblKindKeep) (h : Obligation) (t : List Obligation) : OblKindKeep :=
  if h.kind = st.want then { st with rest := t, acc := h :: st.acc } else { st with rest := t }

def oblKindStep (st : OblKindKeep) : OblKindKeep :=
  match st.rest with
  | [] => st
  | h :: t => oblKindCons st h t

def oblOnlyKind (obls : List Obligation) (want : Nat) : List Obligation :=
  let d := oblKindStep^[1024] { rest := obls, acc := [], want := want }
  reverseObls d.acc

def sigRestObls (src : Source) (st : BodyWalk) (h : FnDecl) : List Obligation :=
  let sg := h.sig
  let gs := checkGenericBoundObls src sg.generics
  let cs := checkCaps src sg.capabilities
  let es := checkEffects src sg.effects cs.caps
  let ks := checkContracts sg.contracts
  let ps := checkParams src sg.params st.rectab st.enumtab st.nominals sg.generics
  let dup5 := oblOnlyKind ps.obls 5
  let o0 := appendObls gs cs.obls
  let o1 := appendObls o0 es.obls
  let o2 := appendObls o1 ks
  appendObls o2 dup5

structure TopsLPrepend where
  rest : List (List TOp)
  acc : List (List TOp)

def appendTopslistStep (st : TopsLPrepend) : TopsLPrepend :=
  match st.rest with
  | [] => st
  | h :: t => { rest := t, acc := h :: st.acc }

def appendTopslist (first second : List (List TOp)) : List (List TOp) :=
  let rev := topslistReverse first
  let d := appendTopslistStep^[1024] { rest := rev, acc := second }
  d.acc

def closeAnd (a b : Bool) : Bool := if !a then false else if !b then false else true

def proveOneBody (src : Source) (st : BodyWalk) (h : FnDecl) (t : List FnDecl) : BodyWalk :=
  let nres := countResultsFields h.sig.results
  if nres ≠ 1 then proveBodySkip st h t
  else
    let callable := sigLookup src st.tab h.sig.nameStart h.sig.nameStop
    let rest := sigRestObls src st h
    let rep :=
      proveFnWithImportedSchemas src h callable.sig st.tab st.rectab st.enumtab st.nominals st.importedRecords
        st.importedEnums st.profile011 st.profile013
    let obls1 := appendObls st.obls rest
    { st with
      rest := t, obls := appendObls obls1 rep.obls, tops := appendTopslist st.tops rep.tops
      ok := closeAnd st.ok rep.ok, n := st.n + 1 }

def proveBodiesStep (src : Source) (st : BodyWalk) : BodyWalk :=
  match st.rest with
  | [] => st
  | h :: t => proveOneBody src st h t

def proveBodies (src : Source) (st : BodyWalk) : BodyWalk := (proveBodiesStep src)^[1024] st

structure FailScan where
  rest : List Obligation
  found : Bool

def oblFailCons (_st : FailScan) (h : Obligation) (t : List Obligation) : FailScan :=
  if h.status = 1 then { rest := [], found := true } else { rest := t, found := false }

def oblFailStep (st : FailScan) : FailScan :=
  if st.found then st
  else
    match st.rest with
    | [] => st
    | h :: t => oblFailCons st h t

def oblHasFail (obls : List Obligation) : Bool :=
  let d := oblFailStep^[1024] { rest := obls, found := false }
  d.found

structure FailSpanScan where
  rest : List Obligation
  start : Nat
  stop : Nat
  found : Bool

def firstFailSpanCons (st : FailSpanScan) (obl : Obligation) (rest : List Obligation) : FailSpanScan :=
  if obl.status = 1 then { rest := [], start := obl.start, stop := obl.stop, found := true }
  else { st with rest := rest, found := false }

def firstFailSpanStep (st : FailSpanScan) : FailSpanScan :=
  if st.found then st
  else
    match st.rest with
    | [] => { st with rest := [], found := true }
    | obl :: rest => firstFailSpanCons st obl rest

def firstFailSpan (obls : List Obligation) : ExprSpan :=
  let d := firstFailSpanStep^[1024] { rest := obls, start := 0, stop := 0, found := false }
  { start := d.start, stop := d.stop }

structure UnitProve where
  ok : Bool
  errStart : Nat
  errStop : Nat
  unit : Unit
  obls : List Obligation
  tops : List (List TOp)
  fnCount : Nat

def proveParsedUnitWithImportedSchemas (src : Source) (u : Unit) (imported : List Sig)
    (nominals : List NominalTypeIdentity) (importedRecords : List ImportedRecordSchema)
    (importedEnums : List ImportedEnumSchema) : UnitProve :=
  if !u.ok then
    { ok := false, errStart := u.errStart, errStop := u.errStop, unit := u, obls := [], tops := [], fnCount := 0 }
  else
    let names := collectFnNames u.fns
    let dup := duplicateFnNames src names
    if dup.found then
      let obl : List Obligation := { kind := 37, start := dup.start, stop := dup.stop, status := 1 } :: []
      { ok := false, errStart := dup.start, errStop := dup.stop, unit := u, obls := obl, tops := [], fnCount := 0 }
    else
      let allNominals := localNominalTypeIdentitiesWithReferences src u nominals
      let sigs := collectSigtab src u.fns u.records u.enums allNominals
      let localSigs := bindLocalCallableIdentities src u.header sigs.tab
      let allSigs := mergeSigTables localSigs imported
      let profile011 := profileAtLeastMinor src u.header.versionStart u.header.versionStop 11
      let profile013 := profileAtLeastMinor src u.header.versionStart u.header.versionStop 13
      let done :=
        proveBodies src
          { rest := u.fns, tab := allSigs, rectab := u.records, enumtab := u.enums, nominals := allNominals
            importedRecords := importedRecords, importedEnums := importedEnums, total := src.total
            profile011 := profile011, profile013 := profile013, obls := sigs.obls, tops := [], ok := true, n := 0 }
      let ok := closeAnd done.ok (!oblHasFail done.obls)
      let err := firstFailSpan done.obls
      { ok := ok, errStart := if ok then 0 else err.start, errStop := if ok then 0 else err.stop, unit := u
        obls := done.obls, tops := done.tops, fnCount := done.n }

def proveParsedUnitWithImportedRecords (src : Source) (u : Unit) (imported : List Sig)
    (nominals : List NominalTypeIdentity) (importedRecords : List ImportedRecordSchema) : UnitProve :=
  proveParsedUnitWithImportedSchemas src u imported nominals importedRecords []

def proveParsedUnitWithNominals (src : Source) (u : Unit) (imported : List Sig) (nominals : List NominalTypeIdentity)
    : UnitProve := proveParsedUnitWithImportedRecords src u imported nominals []

def proveParsedUnit (src : Source) (u : Unit) (imported : List Sig) : UnitProve :=
  proveParsedUnitWithNominals src u imported []

def proveUnit (src : Source) : UnitProve :=
  let u := parseUnit src
  proveParsedUnit src u []

end MncsCompiler.Decl
