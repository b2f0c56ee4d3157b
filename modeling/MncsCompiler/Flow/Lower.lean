import MncsCompiler.Decl.Syntax
import MncsCompiler.Lib.Sweep

/-!
# `Flow.Lower` — control-flow lowering of a function body

`flow.mncs`: a walk over the statements of a body that keeps the enclosing statements on a stack of frames and
builds a list of blocks. Each statement form reserves the ids of the blocks it needs at once; the blocks themselves
are closed later, one at a time, and listed in the order they are closed. A bounded verifier then checks the targets
and the loop links of the list.

The typed operations of an expression (`decl.TOpList`) come from the prover. Lowering takes them in order, counts
them and attaches them; it never looks inside one, so the type `α` of an operation is a parameter.

## Block kinds
0 open, 1 branch, 2 jump, 3 return, 4 fail.

## Roles of a typed expression
1 let value, 2 branch condition, 3 returned value, 4 iterate source, 5 iterate initial state, 6 iterate next state.
-/

namespace MncsCompiler.Flow

open BoundedLoop Decl

variable {α : Type}

/-! ## Records -/

structure TypedExpr (α : Type) where
  role : Nat
  start : Nat
  stop : Nat
  bindingStart : Nat
  bindingStop : Nat
  ops : List α
  opCount : Nat
  deriving DecidableEq, Repr

/-- The facts of a loop. `mode` is 1 for a counted loop and 2 for sequence iteration; `role` is 1 preheader,
    2 header, 3 body, 4 back edge, 5 exhausted join. -/
structure LoopMeta where
  mode : Nat
  role : Nat
  indexStart : Nat
  indexStop : Nat
  statementStart : Nat
  statementStop : Nat
  stateStart : Nat
  stateStop : Nat
  sourceStart : Nat
  sourceStop : Nat
  boundStart : Nat
  boundStop : Nat
  bound : Nat
  exitId : Nat
  deriving DecidableEq, Repr

structure Block (α : Type) where
  id : Nat
  kind : Nat
  termStart : Nat
  termStop : Nat
  succ0 : Nat
  succ1 : Nat
  succCount : Nat
  instructions : Nat
  expressions : List (TypedExpr α)
  reachable : Bool
  isJoin : Bool
  isIterationHeader : Bool
  isIterationBackedge : Bool
  iterationHeaderId : Nat
  iterationStart : Nat
  iterationStop : Nat
  iteration : LoopMeta
  deriving DecidableEq, Repr

/-- An enclosing statement: an `if` (kind 0) whose then part (phase 0) or else part (phase 1) is being walked, or
    an `iterate` (kind 1), which keeps its header in `elseId` and its exit in `joinId`. -/
structure FlowFrame where
  kind : Nat
  next : List Stmt
  elseBody : List Stmt
  elseId : Nat
  joinId : Nat
  phase : Nat
  parentLive : Bool
  thenFalls : Bool
  iterationStart : Nat
  iterationStop : Nat
  iterationStateStart : Nat
  iterationStateStop : Nat
  iterationNextStart : Nat
  iterationNextStop : Nat
  iteration : LoopMeta

structure Diagnostic where
  code : Nat
  start : Nat
  stop : Nat
  deriving DecidableEq, Repr

structure Build (α : Type) where
  rest : List Stmt
  typedRest : List (List α)
  elidedExpressions : List (TypedExpr α)
  frames : List FlowFrame
  current : Block α
  blocks : List (Block α)
  diagnostics : List Diagnostic
  nextId : Nat
  done : Bool
  ok : Bool
  fnStart : Nat
  fnStop : Nat
  sourceStop : Nat
  tail : Expr
  hasTail : Bool

structure FunctionFlow (α : Type) where
  fnStart : Nat
  fnStop : Nat
  entry : Nat
  blocks : List (Block α)
  elidedExpressions : List (TypedExpr α)
  blockCount : Nat
  unreachableJoins : Nat
  verified : Bool

structure FnWalk (α : Type) where
  rest : List FnDecl
  typedRest : List (List α)
  acc : List (FunctionFlow α)
  diagnostics : List Diagnostic
  blockCount : Nat
  functionCount : Nat
  ok : Bool

def emptyLoopMeta : LoopMeta :=
  { mode := 0, role := 0, indexStart := 0, indexStop := 0, statementStart := 0, statementStop := 0, stateStart := 0,
    stateStop := 0, sourceStart := 0, sourceStop := 0, boundStart := 0, boundStop := 0, bound := 0, exitId := 0 }

def emptyBlock (id : Nat) (live join : Bool) : Block α :=
  { id := id, kind := 0, termStart := 0, termStop := 0, succ0 := 0, succ1 := 0, succCount := 0, instructions := 0,
    expressions := [], reachable := live, isJoin := join, isIterationHeader := false, isIterationBackedge := false,
    iterationHeaderId := 0, iterationStart := 0, iterationStop := 0, iteration := emptyLoopMeta }

/-! ## Bounded list passes -/

def reverseTypedExpressions (expressions : List (TypedExpr α)) : List (TypedExpr α) := reverseWithin 1024 expressions

def reverseBlocks (list : List (Block α)) : List (Block α) := reverseWithin 1024 list

def reverseDiagnostics (list : List Diagnostic) : List Diagnostic := reverseWithin 1024 list

def blockCount (blocks : List (Block α)) : Nat := countWithin 1024 blocks

def diagnosticCount (list : List Diagnostic) : Nat := countWithin 1024 list

def countTops (ops : List α) : Nat := countWithin 1024 ops

def appendDiagnostics (first second : List Diagnostic) : List Diagnostic :=
  ((Sweep.step (fun acc h => h :: acc))^[1024] { rest := reverseDiagnostics first, acc := second }).acc

/-! ## Attaching typed expressions -/

def attachTypedOps (st : Build α) (start stop role bindingStart bindingStop : Nat) (ops : List α)
    (rest : List (List α)) : Build α :=
  let n := countTops ops
  if n = 0 then { st with done := true, ok := false }
  else
    let typed : TypedExpr α :=
      { role := role, start := start, stop := stop, bindingStart := bindingStart, bindingStop := bindingStop,
        ops := ops, opCount := n }
    { st with
      typedRest := rest
      current :=
        { st.current with
          instructions := st.current.instructions + n, expressions := typed :: st.current.expressions } }

def attachExpressionAt (st : Build α) (start stop role bindingStart bindingStop : Nat) : Build α :=
  match st.typedRest with
  | [] => { st with done := true, ok := false }
  | ops :: rest => attachTypedOps st start stop role bindingStart bindingStop ops rest

def attachExpression (st : Build α) (expression : Expr) (role bindingStart bindingStop : Nat) : Build α :=
  attachExpressionAt st (exprStart expression) (exprEnd expression) role bindingStart bindingStop

/-! ## Statements -/

def addLet (st : Build α) (t : List Stmt) (value : Expr) (nameStart nameStop : Nat) : Build α :=
  { attachExpression st value 1 nameStart nameStop with rest := t }

def addBranch (st : Build α) (t : List Stmt) (cond : Expr) (thenB elseB : List Stmt) : Build α :=
  let attached := attachExpression st cond 2 0 0
  let yes := attached.nextId
  let no := attached.nextId + 1
  let join := attached.nextId + 2
  let branch : Block α :=
    { attached.current with
      kind := 1
      expressions := reverseTypedExpressions attached.current.expressions
      termStart := exprStart cond, termStop := exprEnd cond
      succ0 := yes, succ1 := no, succCount := 2 }
  let frame : FlowFrame :=
    { kind := 0, next := t, elseBody := elseB, elseId := no, joinId := join, phase := 0,
      parentLive := attached.current.reachable, thenFalls := false, iterationStart := 0, iterationStop := 0,
      iterationStateStart := 0, iterationStateStop := 0, iterationNextStart := 0, iterationNextStop := 0,
      iteration := emptyLoopMeta }
  { attached with
    rest := thenB
    frames := frame :: st.frames
    current := emptyBlock yes attached.current.reachable false
    blocks := branch :: st.blocks
    nextId := attached.nextId + 3 }

def addReturn (st : Build α) (t : List Stmt) (value : Expr) : Build α :=
  let attached := attachExpression st value 3 0 0
  let b : Block α :=
    { attached.current with
      kind := 3
      expressions := reverseTypedExpressions attached.current.expressions
      termStart := exprStart value, termStop := exprEnd value }
  { attached with rest := t, current := b, blocks := b :: attached.blocks }

def addFail (st : Build α) (t : List Stmt) (s e : Nat) : Build α :=
  let b : Block α :=
    { st.current with
      kind := 4
      expressions := reverseTypedExpressions st.current.expressions
      termStart := s, termStop := e }
  { st with rest := t, current := b, blocks := b :: st.blocks }

def attachIterateSource (st : Build α) (overSource : Expr) (hasOverSource : Bool) (start stop : Nat) : Build α :=
  if hasOverSource then attachExpression st overSource 4 start stop else st

def closeToLoopPreheader (st : Build α) (headerId start stop : Nat) (loop : LoopMeta) : Build α :=
  let block : Block α :=
    { st.current with
      kind := 2
      expressions := reverseTypedExpressions st.current.expressions
      termStart := start, termStop := stop, succ0 := headerId, succCount := 1, iteration := loop }
  { st with current := block, blocks := block :: st.blocks }

section Pages

variable (pages : List View) (stride total : Nat)

def makeLoopMeta (indexStart indexStop : Nat) (hasSource : Bool) (overSource : Expr)
    (boundStart boundStop stateStart stateStop start stop exitId : Nat) : LoopMeta :=
  { mode := if hasSource then 2 else 1, role := 0, indexStart := indexStart, indexStop := indexStop,
    statementStart := start, statementStop := stop, stateStart := stateStart, stateStop := stateStop,
    sourceStart := if hasSource then exprStart overSource else 0
    sourceStop := if hasSource then exprEnd overSource else 0
    boundStart := boundStart, boundStop := boundStop
    bound := (intValue pages stride total boundStart boundStop).value
    exitId := exitId }

/-- A bounded iteration: a preheader jump, a header with body and exhausted successors, the body's entry, and the
    exhausted join, whose id the frame keeps. -/
def addIterate (st : Build α) (t : List Stmt) (indexStart indexStop : Nat) (overSource : Expr)
    (hasOverSource : Bool) (boundStart boundStop stateStart stateStop : Nat) (initial : Expr) (body : List Stmt)
    (nextValue : Expr) (start stop : Nat) : Build α :=
  let source := attachIterateSource st overSource hasOverSource start stop
  let attached := attachExpression source initial 5 stateStart stateStop
  let headerId := attached.nextId
  let bodyId := headerId + 1
  let exitId := headerId + 2
  let loop := makeLoopMeta pages stride total indexStart indexStop hasOverSource overSource boundStart boundStop
    stateStart stateStop start stop exitId
  let preheader := closeToLoopPreheader attached headerId start stop { loop with role := 1 }
  let header : Block α :=
    { preheader.current with
      id := headerId, kind := 1, termStart := start, termStop := stop
      succ0 := bodyId, succ1 := exitId, succCount := 2
      instructions := 0, expressions := []
      reachable := preheader.current.reachable, isJoin := false
      isIterationHeader := true, isIterationBackedge := false
      iterationHeaderId := headerId, iterationStart := start, iterationStop := stop
      iteration := { loop with role := 2 } }
  let frame : FlowFrame :=
    { kind := 1, next := t, elseBody := [], elseId := headerId, joinId := exitId, phase := 0,
      parentLive := preheader.current.reachable, thenFalls := false, iterationStart := start, iterationStop := stop,
      iterationStateStart := stateStart, iterationStateStop := stateStop,
      iterationNextStart := exprStart nextValue, iterationNextStop := exprEnd nextValue, iteration := loop }
  { preheader with
    rest := body
    frames := frame :: st.frames
    current := { emptyBlock bodyId preheader.current.reachable false with iteration := { loop with role := 3 } }
    blocks := header :: preheader.blocks
    nextId := exitId + 1, done := false }

def stepStmt (st : Build α) (h : Stmt) (t : List Stmt) : Build α :=
  if st.current.kind ≠ 0 then { st with done := true, ok := false }
  else
    match h with
    | .letStmt nameStart nameStop _ _ _ value _ _ => addLet st t value nameStart nameStop
    | .ifStmt cond thenB elseB _ _ => addBranch st t cond thenB elseB
    | .failStmt _ _ s e => addFail st t s e
    | .returnStmt value _ _ => addReturn st t value
    | .iterateStmt ns ne o ho bs be ss se _ _ _ initial body _ _ nv s e =>
        addIterate pages stride total st t ns ne o ho bs be ss se initial body nv s e

end Pages

/-! ## The end of a statement list -/

def recordElidedIterateNext (st : Build α) (f : FlowFrame) (ops : List α) (rest : List (List α)) : Build α :=
  let n := countTops ops
  if n = 0 then { st with done := true, ok := false }
  else
    let typed : TypedExpr α :=
      { role := 6, start := f.iterationNextStart, stop := f.iterationNextStop,
        bindingStart := f.iterationStateStart, bindingStop := f.iterationStateStop, ops := ops, opCount := n }
    { st with typedRest := rest, elidedExpressions := typed :: st.elidedExpressions }

/-- The next-state value of a loop whose body never reaches its end has no place in the graph; its operations are
    kept as elided. -/
def elideIterateNext (st : Build α) (f : FlowFrame) : Build α :=
  match st.typedRest with
  | [] => { st with done := true, ok := false }
  | ops :: rest => recordElidedIterateNext st f ops rest

def closeUnreachableLoopJoin (st : Build α) : Build α :=
  if st.current.kind ≠ 0 then st
  else if st.current.reachable then { st with done := true, ok := false }
  else
    let block : Block α := { st.current with kind := 4, termStart := 0, termStop := 0 }
    { st with current := block, blocks := block :: st.blocks }

def finishIterate (st : Build α) (f : FlowFrame) (tail : List FlowFrame) : Build α :=
  { st with
    rest := f.next
    frames := tail
    current := { emptyBlock f.joinId f.parentLive true with iteration := { f.iteration with role := 5 } }
    done := false }

def closeToLoopBackedge (st : Build α) (headerId start stop : Nat) (loop : LoopMeta) : Build α :=
  let block : Block α :=
    { st.current with
      kind := 2
      expressions := reverseTypedExpressions st.current.expressions
      termStart := start, termStop := stop, succ0 := headerId, succCount := 1
      isIterationBackedge := true, iterationHeaderId := headerId
      iterationStart := start, iterationStop := stop
      iteration := loop }
  { st with current := block, blocks := block :: st.blocks }

def unwindIterate (st : Build α) (f : FlowFrame) (tail : List FlowFrame) : Build α :=
  if st.current.kind ≠ 0 || !st.current.reachable then
    finishIterate (closeUnreachableLoopJoin (elideIterateNext st f)) f tail
  else
    let withNext := attachExpressionAt st f.iterationNextStart f.iterationNextStop 6 f.iterationStateStart
      f.iterationStateStop
    finishIterate (closeToLoopBackedge withNext f.elseId f.iterationStart f.iterationStop
      { f.iteration with role := 4 }) f tail

def closeToJoin (st : Build α) (joinId : Nat) : Build α :=
  if st.current.kind ≠ 0 then st
  else
    let b : Block α :=
      { st.current with
        kind := 2
        expressions := reverseTypedExpressions st.current.expressions
        succ0 := joinId, succCount := 1 }
    { st with current := b, blocks := b :: st.blocks }

/-- The end of the current statement list is reached by some path. -/
def Build.falls (st : Build α) : Bool := st.current.kind = 0 && st.current.reachable

def unwindThen (st : Build α) (f : FlowFrame) (tail : List FlowFrame) : Build α :=
  let first := closeToJoin st f.joinId
  { first with
    rest := f.elseBody
    frames := { f with phase := 1, thenFalls := st.falls } :: tail
    current := emptyBlock f.elseId f.parentLive false }

def addJoinDiagnostic (st : Build α) (live : Bool) (start stop : Nat) : List Diagnostic :=
  if live then st.diagnostics else { code := 38, start := start, stop := stop } :: st.diagnostics

def unwindElse (st : Build α) (f : FlowFrame) (tail : List FlowFrame) : Build α :=
  let second := closeToJoin st f.joinId
  let joinLive := f.thenFalls || st.falls
  { second with
    rest := f.next
    frames := tail
    current := emptyBlock f.joinId joinLive true
    diagnostics := addJoinDiagnostic second joinLive 0 st.sourceStop }

def unwind (st : Build α) (f : FlowFrame) (tail : List FlowFrame) : Build α :=
  if f.kind = 1 then unwindIterate st f tail
  else if f.phase = 0 then unwindThen st f tail
  else unwindElse st f tail

def finishTail (st : Build α) : Build α :=
  if !st.hasTail then { st with done := true, ok := false }
  else if st.current.kind ≠ 0 then { st with done := true }
  else
    let attached := attachExpression st st.tail 3 0 0
    let b : Block α :=
      { attached.current with
        kind := 3
        expressions := reverseTypedExpressions attached.current.expressions
        termStart := exprStart attached.tail, termStop := exprEnd attached.tail }
    { attached with current := b, blocks := b :: attached.blocks, done := true }

def stepEmpty (st : Build α) : Build α :=
  match st.frames with
  | [] => finishTail st
  | f :: t => unwind st f t

/-! ## The verifier -/

def targetCheckBlock (limit : Nat) (h : Block α) : Bool :=
  if h.kind = 1 then
    h.succCount = 2 && h.succ0 < limit && h.succ1 < limit &&
      (!h.isIterationHeader ||
        (h.iterationStart = h.termStart && h.iterationStop = h.termStop && h.iterationStop > h.iterationStart))
  else if h.kind = 2 then
    h.succCount = 1 && h.succ0 < limit &&
      (!h.isIterationBackedge || (h.succ0 = h.iterationHeaderId && h.iterationStop > h.iterationStart))
  else if h.kind = 3 || h.kind = 4 then h.succCount = 0
  else false

def loopHeaderExists (blocks : List (Block α)) (wanted start stop : Nat) : Bool :=
  ((Search.step (fun block : Block α =>
      block.id = wanted && block.isIterationHeader && block.iterationStart = start &&
        block.iterationStop = stop))^[1024] { rest := blocks, found := false }).found

def iterationLinkCheck (all : List (Block α)) (block : Block α) : Bool :=
  if !block.isIterationBackedge then true
  else
    block.succ0 = block.iterationHeaderId &&
      loopHeaderExists all block.iterationHeaderId block.iterationStart block.iterationStop

def iterationLinksValid (blocks : List (Block α)) : Bool :=
  ((Audit.step (iterationLinkCheck blocks))^[1024] { rest := blocks, ok := true }).passed

def verifyTargets (blocks : List (Block α)) (limit : Nat) : Bool :=
  ((Audit.step (targetCheckBlock limit))^[1024] { rest := blocks, ok := true }).passed && iterationLinksValid blocks

/-- The graph of a finished build. -/
def functionFlow (h : FnDecl) (finished : Build α) : FunctionFlow α :=
  let blocks := reverseBlocks finished.blocks
  let n := blockCount blocks
  { fnStart := h.fnStart, fnStop := h.fnStop, entry := 0, blocks := blocks,
    elidedExpressions := reverseTypedExpressions finished.elidedExpressions
    blockCount := n, unreachableJoins := diagnosticCount finished.diagnostics
    verified := finished.ok && verifyTargets blocks finished.nextId && n = finished.nextId }

/-! ## The walk -/

section Pages

variable (pages : List View) (stride total : Nat)

def step (st : Build α) : Build α :=
  if st.done || !st.ok then st
  else
    match st.rest with
    | [] => stepEmpty st
    | h :: t => stepStmt pages stride total st h t

def walk (initial : Build α) : Build α := (step pages stride total)^[1024] initial

def finishBuild (st : Build α) : Build α := if st.done then st else { st with done := true, ok := false }

/-- The build at the entry of a function. -/
def initialBuild (st : FnWalk α) (h : FnDecl) : Build α :=
  { rest := h.body.body, typedRest := st.typedRest, elidedExpressions := [], frames := [],
    current := emptyBlock 0 true false, blocks := [], diagnostics := [], nextId := 1, done := false, ok := h.ok,
    fnStart := h.fnStart, fnStop := h.fnStop, sourceStop := total, tail := h.body.ret, hasTail := h.body.hasRet }

def lowerOneFn (st : FnWalk α) (h : FnDecl) (t : List FnDecl) : FnWalk α :=
  let walked := walk pages stride total (initialBuild total st h)
  let finished := finishBuild walked
  let flow := functionFlow h finished
  { rest := t, typedRest := finished.typedRest, acc := flow :: st.acc,
    diagnostics := appendDiagnostics st.diagnostics finished.diagnostics,
    blockCount := st.blockCount + flow.blockCount, functionCount := st.functionCount + 1,
    ok := st.ok && flow.verified }

end Pages

end MncsCompiler.Flow
