import MncsCompiler.Decl.Tokens

/-!
# `Decl.Expr` — the expression machine

Expressions of `decl.mncs` are read by a machine that takes one action a step on the token at its cursor. Operands
and pending operators stand on two stacks, newest first. Kinds below 1000 are binary operators, by their token; the
marks above them are

* 1000 an open parenthesis, 1001 an open call, 1002 a prefix `!`,
* 1004 an open variant and 1005 an open record literal, whose unfinished node is on the operand stack,
* 1006 the base of a record update, 1007 an open index, 1008 an open slice with its lower bound read,
* 1009 an open sequence literal.

A closing token first reduces the operators above its mark, one a step.
-/

namespace MncsCompiler.Decl

open BoundedLoop

structure ExprParse where
  cursor : Nat
  ok : Bool
  errStart : Nat
  errStop : Nat
  node : Expr
  start : Nat
  stop : Nat

/-- A pending operator or mark. `args` are the arguments read so far, newest first. -/
structure Op where
  kind : Nat
  argc : Nat
  nameStart : Nat
  nameStop : Nat
  args : List Expr
  targs : List TypeArg


structure ExprState where
  ok : Bool
  errStart : Nat
  errStop : Nat
  cursor : Nat
  operands : List Expr
  operators : List Op
  depth : Nat
  done : Bool
  expectOperand : Bool
  profile013 : Bool
  allowConstruct : Bool
  allowIndex : Bool
  allowCast : Bool

def reverseExprs (list : List Expr) : List Expr := reverseWithin 1024 list

def reverseConstructFields (list : List ConstructField) : List ConstructField := reverseWithin 1024 list

def prec (kind : Nat) : Nat :=
  match kind with
  | 83 => 1
  | 82 => 2
  | 56 => 3
  | 57 => 4
  | 55 => 5
  | 84 => 6
  | 85 => 6
  | 58 => 7
  | 86 => 7
  | 59 => 7
  | 87 => 7
  | 88 => 8
  | 89 => 8
  | 50 => 9
  | 51 => 9
  | 91 => 9
  | 92 => 9
  | 94 => 9
  | 95 => 9
  | 52 => 10
  | 93 => 10
  | 96 => 10
  | 53 => 10
  | 54 => 10
  | _ => 0

def isOperandStart (kind : Nat) : Bool :=
  match kind with
  | 5 => true
  | 4 => true
  | 25 => true
  | 38 => true
  | 39 => true
  | _ => false

def exprFail (st : ExprState) (start stop : Nat) : ExprState :=
  { st with ok := false, errStart := start, errStop := stop, done := true }

/-! ## Reductions -/

def reduceNot (st : ExprState) (op : Op) (rest : List Op) (errStart errStop : Nat) : ExprState :=
  match st.operands with
  | [] => exprFail st errStart errStop
  | value :: before =>
      { st with
        ok := true, errStart := 0, errStop := 0, operands := .unaryNot value op.nameStart (exprEnd value) :: before
        operators := rest, done := false, expectOperand := false, allowIndex := false, allowCast := true }

def reduceInner (st : ExprState) (op : Op) (rest : List Op) (r : Expr) (t1 : List Expr) (errStart errStop : Nat)
    : ExprState :=
  match t1 with
  | [] => exprFail st errStart errStop
  | l :: t2 =>
      { st with
        ok := true, errStart := 0, errStop := 0, operands := .binary op.kind l r (exprStart l) (exprEnd r) :: t2
        operators := rest, done := false, expectOperand := false, allowIndex := false, allowCast := true }

def reduceOne (st : ExprState) (op : Op) (rest : List Op) (errStart errStop : Nat) : ExprState :=
  if op.kind = 1002 then reduceNot st op rest errStart errStop
  else
    match st.operands with
    | [] => exprFail st errStart errStop
    | r :: t1 => reduceInner st op rest r t1 errStart errStop

def reduceOrFail (st : ExprState) (op : Op) (rest : List Op) (errStart errStop : Nat) : ExprState :=
  if op.kind ≥ 1000 && op.kind ≠ 1002 then exprFail st errStart errStop else reduceOne st op rest errStart errStop

def closeOrReduce (st : ExprState) (errStart errStop : Nat) : ExprState :=
  if st.depth > 0 then exprFail st errStart errStop
  else
    match st.operators with
    | [] => { st with ok := true, errStart := 0, errStop := 0, done := true }
    | op :: rest => reduceOrFail st op rest errStart errStop

/-! ## Operands -/

def prefixNot (st : ExprState) (tok : Token) : ExprState :=
  { st with
    ok := true, errStart := 0, errStop := 0, cursor := tok.stop
    operators :=
      { kind := 1002, argc := 0, nameStart := tok.start, nameStop := tok.stop, args := [], targs := [] } ::
      st.operators
    done := false, expectOperand := true }

def prefixSequence (st : ExprState) (tok : Token) : ExprState :=
  { st with
    ok := true, errStart := 0, errStop := 0, cursor := tok.stop
    operators :=
      { kind := 1009, argc := 0, nameStart := tok.start, nameStop := tok.stop, args := [], targs := [] } ::
      st.operators
    depth := st.depth + 1, done := false, expectOperand := true }

def constructFieldNameExpected (operators : List Op) : Bool :=
  match operators with
  | [] => false
  | op :: _ => (op.kind = 1004 || op.kind = 1005) && op.argc = 0

def shiftOperand (src : Source) (st : ExprState) (tok : Token) : ExprState :=
  if tok.kind = 5 then
    let value := src.intValue tok.start tok.stop
    let node : Expr := .integer tok.start tok.stop value.value value.overflow
    { st with
      ok := true, errStart := 0, errStop := 0, cursor := tok.stop, operands := node :: st.operands, done := false
      expectOperand := false, allowIndex := true, allowCast := true }
  else if tok.kind = 38 || tok.kind = 39 then
    let node : Expr := .boolean tok.start tok.stop (tok.kind = 38)
    { st with
      ok := true, errStart := 0, errStop := 0, cursor := tok.stop, operands := node :: st.operands, done := false
      expectOperand := false, allowIndex := true, allowCast := true }
  else
    let after := src.token tok.stop
    let node : Expr := .name tok.start tok.stop
    if after.diagnostic = 0 && after.kind = 65 then
      { st with
        ok := true, errStart := 0, errStop := 0, cursor := after.stop, operands := node :: st.operands
        operators :=
          { kind := 1001, argc := 0, nameStart := tok.start, nameStop := tok.stop, args := [], targs := [] } ::
          st.operators
        depth := st.depth + 1, done := false, expectOperand := true, allowIndex := true, allowCast := true }
    else
      { st with
        ok := true, errStart := 0, errStop := 0, cursor := tok.stop, operands := node :: st.operands, done := false
        expectOperand := false, allowIndex := true, allowCast := true }

def negativePayload (magnitude : Nat) : Nat := if magnitude = 0 then 0 else 18446744073709551615 - (magnitude - 1)

def shiftNegativeInteger (src : Source) (st : ExprState) (minus : Token) : ExprState :=
  let literal := src.token minus.stop
  if literal.diagnostic ≠ 0 || literal.kind ≠ 5 then exprFail st minus.start minus.stop
  else
    let parsed := src.intValue literal.start literal.stop
    let negative := negativePayload parsed.value
    let node : Expr := .integer minus.start literal.stop negative parsed.overflow
    { st with
      ok := true, errStart := 0, errStop := 0, cursor := literal.stop, operands := node :: st.operands, done := false
      expectOperand := false, allowIndex := true, allowCast := true }

/-! ## Operators -/

def operatorTop (st : ExprState) (tok : Token) (op : Op) (rest : List Op) : ExprState :=
  if op.kind = 1002 || op.kind < 1000 && prec op.kind ≥ prec tok.kind then reduceOne st op rest tok.start tok.stop
  else
    { st with
      ok := true, errStart := 0, errStop := 0, cursor := tok.stop
      operators :=
        { kind := tok.kind, argc := 0, nameStart := 0, nameStop := 0, args := [], targs := [] } :: st.operators
      done := false, expectOperand := true }

def operatorStep (st : ExprState) (tok : Token) : ExprState :=
  if st.expectOperand then exprFail st tok.start tok.stop
  else
    match st.operators with
    | [] =>
        { st with
          ok := true, errStart := 0, errStop := 0, cursor := tok.stop
          operators :=
            { kind := tok.kind, argc := 0, nameStart := 0, nameStop := 0, args := [], targs := [] } :: st.operators
          done := false, expectOperand := true }
    | op :: rest => operatorTop st tok op rest

def tryGenericCall (src : Source) (st : ExprState) (tok : Token) (start stop : Nat) (before : List Expr)
    : ExprState :=
  if !genericBracketScan src tok.stop then operatorStep st tok
  else if !genericsProfileOk src then exprFail st tok.start tok.stop
  else
    let targs := parseTypeArgs src st.cursor
    if !targs.ok then operatorStep st tok
    else
      let opener := expect src targs.cursor 65
      if !opener.ok then operatorStep st tok
      else
        let callee : Expr := .name start stop
        { st with
          ok := true, errStart := 0, errStop := 0, cursor := opener.cursor, operands := callee :: before
          operators :=
            { kind := 1001, argc := 0, nameStart := start, nameStop := stop, args := [], targs := targs.list } ::
            st.operators
          depth := st.depth + 1, done := false, expectOperand := true, allowIndex := true, allowCast := true }

def ltGenericProject (src : Source) (st : ExprState) (tok : Token) (start stop : Nat) (path : Bool)
    (before : List Expr) : ExprState :=
  if path then tryGenericCall src st tok start stop before else operatorStep st tok

def ltOrTypeArgsTop (src : Source) (st : ExprState) (tok : Token) (base : Expr) (before : List Expr) : ExprState :=
  match base with
  | .name s e => tryGenericCall src st tok s e before
  | .project _ _ _ s e p => ltGenericProject src st tok s e p before
  | _ => operatorStep st tok

def ltOrTypeArgs (src : Source) (st : ExprState) (tok : Token) : ExprState :=
  match st.operands with
  | [] => operatorStep st tok
  | base :: before => ltOrTypeArgsTop src st tok base before

/-! ## Calls and parentheses -/

def pathCallPush (st : ExprState) (tok : Token) (start stop : Nat) (before : List Expr) : ExprState :=
  let callee : Expr := .name start stop
  { st with
    ok := true, errStart := 0, errStop := 0, cursor := tok.stop, operands := callee :: before
    operators :=
      { kind := 1001, argc := 0, nameStart := start, nameStop := stop, args := [], targs := [] } :: st.operators
    depth := st.depth + 1, done := false, expectOperand := true }

def pathCallProject (st : ExprState) (tok : Token) (start stop : Nat) (path : Bool) (before : List Expr)
    : ExprState := if path then pathCallPush st tok start stop before else closeOrReduce st tok.start tok.stop

def pathCallTop (st : ExprState) (tok : Token) (base : Expr) (before : List Expr) : ExprState :=
  match base with
  | .name s e => pathCallPush st tok s e before
  | .project _ _ _ s e p => pathCallProject st tok s e p before
  | _ => closeOrReduce st tok.start tok.stop

def pathCall (st : ExprState) (tok : Token) : ExprState :=
  if !st.allowIndex then closeOrReduce st tok.start tok.stop
  else
    match st.operands with
    | [] => closeOrReduce st tok.start tok.stop
    | base :: before => pathCallTop st tok base before

/-- `structured_read`. -/
def spanIsStructuredRead (src : Source) (a : Nat) : Bool :=
  src.spells a [115, 116, 114, 117, 99, 116, 117, 114, 101, 100, 95, 114, 101, 97, 100]

/-- `structured_write`. -/
def spanIsStructuredWrite (src : Source) (a : Nat) : Bool :=
  src.spells a [115, 116, 114, 117, 99, 116, 117, 114, 101, 100, 95, 119, 114, 105, 116, 101]

/-- `fs_entry_kind_at`. -/
def spanIsFsEntryKindAt (src : Source) (a : Nat) : Bool :=
  src.spells a [102, 115, 95, 101, 110, 116, 114, 121, 95, 107, 105, 110, 100, 95, 97, 116]

/-- `fs_entry_size_at`. -/
def spanIsFsEntrySizeAt (src : Source) (a : Nat) : Bool :=
  src.spells a [102, 115, 95, 101, 110, 116, 114, 121, 95, 115, 105, 122, 101, 95, 97, 116]

/-- `fs_entry_mtime_at`. -/
def spanIsFsEntryMtimeAt (src : Source) (a : Nat) : Bool :=
  src.spells a [102, 115, 95, 101, 110, 116, 114, 121, 95, 109, 116, 105, 109, 101, 95, 97, 116]

def opSlotLen15 (src : Source) (ns : Nat) : Nat := if spanIsStructuredRead src ns then 1 else 5

def opSlotLen16 (src : Source) (ns : Nat) : Nat :=
  if spanIsFsEntryKindAt src ns then 0
  else if spanIsStructuredWrite src ns then 2 else if spanIsFsEntrySizeAt src ns then 3 else 5

def opSlotLen17 (src : Source) (ns : Nat) : Nat := if spanIsFsEntryMtimeAt src ns then 4 else 5

/-- The slot of a host operation, by its name; 5 is none. -/
def opSlotAt (src : Source) (ns ne : Nat) : Nat :=
  if ne < ns then 5
  else if ne - ns = 15 then opSlotLen15 src ns
  else if ne - ns = 16 then opSlotLen16 src ns else if ne - ns = 17 then opSlotLen17 src ns else 5

def opArity (slot : Nat) : Nat :=
  if slot = 1 then 2
  else if slot = 2 then 3
  else if slot = 0 || slot = 3 || slot = 4 then 1
  else if slot = 6 then 2 else if slot = 7 then 1 else if slot = 8 then 3 else if slot = 9 then 3 else 0

def dropCallee (st : ExprState) (tok : Token) (rest : List Op) (node callee : Expr) (tail : List Expr) : ExprState :=
  match callee with
  | .name _ _ =>
      { st with
        ok := true, errStart := 0, errStop := 0, cursor := tok.stop, operands := node :: tail, operators := rest
        depth := st.depth - 1, done := false, expectOperand := false, allowIndex := true, allowCast := true }
  | _ => exprFail st tok.start tok.stop

def closeOpCall (st : ExprState) (tok : Token) (op : Op) (rest : List Op) (args : List Expr) (slot : Nat)
    (before : List Expr) : ExprState :=
  if op.argc + 1 ≠ opArity slot then exprFail st tok.start tok.stop
  else
    let node : Expr := .opCall slot op.nameStart op.nameStop args op.nameStart tok.stop
    match before with
    | [] => exprFail st tok.start tok.stop
    | callee :: tail => dropCallee st tok rest node callee tail

def closeCallArgs (src : Source) (st : ExprState) (tok : Token) (op : Op) (rest : List Op) (last : Expr)
    (before : List Expr) : ExprState :=
  let args := reverseExprs (last :: op.args)
  let slot := opSlotAt src op.nameStart op.nameStop
  if slot ≠ 5 && op.targs.isEmpty then closeOpCall st tok op rest args slot before
  else
    let node : Expr := .call op.nameStart op.nameStop args op.targs op.nameStart tok.stop
    match before with
    | [] => exprFail st tok.start tok.stop
    | callee :: tail => dropCallee st tok rest node callee tail

def closeCall (src : Source) (st : ExprState) (tok : Token) (op : Op) (rest : List Op) : ExprState :=
  if st.expectOperand && op.argc ≠ 0 then exprFail st tok.start tok.stop
  else if st.expectOperand then
    let emptySlot := opSlotAt src op.nameStart op.nameStop
    if emptySlot ≠ 5 && op.targs.isEmpty then exprFail st tok.start tok.stop
    else
      let node : Expr := .call op.nameStart op.nameStop [] op.targs op.nameStart tok.stop
      match st.operands with
      | [] => exprFail st tok.start tok.stop
      | callee :: tail => dropCallee st tok rest node callee tail
  else
    match st.operands with
    | [] => exprFail st tok.start tok.stop
    | last :: before => closeCallArgs src st tok op rest last before

def closeParenTop (src : Source) (st : ExprState) (tok : Token) (op : Op) (rest : List Op) : ExprState :=
  if op.kind < 1000 then reduceOne st op rest tok.start tok.stop
  else if op.kind = 1002 then reduceOne st op rest tok.start tok.stop
  else if op.kind = 1000 then
    if st.expectOperand then exprFail st tok.start tok.stop
    else
      { st with
        ok := true, errStart := 0, errStop := 0, cursor := tok.stop, operators := rest, depth := st.depth - 1
        done := false, expectOperand := false, allowIndex := false, allowCast := true }
  else if op.kind = 1004 || op.kind = 1005 || op.kind = 1006 || op.kind = 1007 || op.kind = 1008 then
    exprFail st tok.start tok.stop
  else closeCall src st tok op rest

def closeParen (src : Source) (st : ExprState) (tok : Token) : ExprState :=
  match st.operators with
  | [] => exprFail st tok.start tok.stop
  | op :: rest => closeParenTop src st tok op rest

/-! ## Projections, indices and casts -/

def baseIsPath (base : Expr) : Bool :=
  match base with
  | .name _ _ => true
  | .project _ _ _ _ _ p => p
  | _ => false

def projectBuild (st : ExprState) (field : Token) (base : Expr) (before : List Expr) : ExprState :=
  { st with
    ok := true, errStart := 0, errStop := 0, cursor := field.stop
    operands := .project base field.start field.stop (exprStart base) field.stop (baseIsPath base) :: before
    done := false, expectOperand := false, allowIndex := true, allowCast := true }

def projectBase (st : ExprState) (tok field : Token) (base : Expr) (before : List Expr) : ExprState :=
  match base with
  | .recordConstruct _ _ _ _ _ _ _ => exprFail st tok.start tok.stop
  | _ => projectBuild st field base before

def projectStep (src : Source) (st : ExprState) (tok : Token) : ExprState :=
  if st.expectOperand then exprFail st tok.start tok.stop
  else if !st.allowIndex then closeOrReduce st tok.start tok.stop
  else
    let field := src.token tok.stop
    if field.diagnostic ≠ 0 || field.kind ≠ 4 && !(field.kind = 34 && st.profile013) then
      exprFail st field.start field.stop
    else
      match st.operands with
      | [] => exprFail st tok.start tok.stop
      | base :: before => projectBase st tok field base before

def indexOpen (st : ExprState) (tok : Token) : ExprState :=
  { st with
    ok := true, errStart := 0, errStop := 0, cursor := tok.stop
    operators :=
      { kind := 1007, argc := 0, nameStart := tok.start, nameStop := tok.stop, args := [], targs := [] } ::
      st.operators
    depth := st.depth + 1, done := false, expectOperand := true }

def indexStep (src : Source) (st : ExprState) (tok : Token) : ExprState :=
  if !st.allowIndex then closeOrReduce st tok.start tok.stop
  else
    let head := header src
    if !profileAtLeastMinor src head.versionStart head.versionStop 7 then exprFail st tok.start tok.stop
    else
      match st.operands with
      | [] => closeOrReduce st tok.start tok.stop
      | _ :: _ => indexOpen st tok

def indexPop (st : ExprState) (tok : Token) (rest : List Op) (index : Expr) (below : List Expr) : ExprState :=
  match below with
  | [] => exprFail st tok.start tok.stop
  | base :: before =>
      { st with
        ok := true, errStart := 0, errStop := 0, cursor := tok.stop
        operands := .index base index (exprStart base) tok.stop :: before, operators := rest, depth := st.depth - 1
        done := false, expectOperand := false, allowIndex := true, allowCast := true }

def indexClose (st : ExprState) (tok : Token) (rest : List Op) : ExprState :=
  if st.expectOperand then exprFail st tok.start tok.stop
  else
    match st.operands with
    | [] => exprFail st tok.start tok.stop
    | index :: below => indexPop st tok rest index below

def sliceRangeOpen (src : Source) (st : ExprState) (tok : Token) (op : Op) (rest : List Op) : ExprState :=
  let head := header src
  if !profileAtLeastMinor src head.versionStart head.versionStop 7 then exprFail st op.nameStart op.nameStop
  else if st.expectOperand then exprFail st tok.start tok.stop
  else
    { st with
      ok := true, errStart := 0, errStop := 0, cursor := tok.stop, operators := { op with kind := 1008 } :: rest
      done := false, expectOperand := true, allowIndex := true, allowCast := true }

def sliceRangeTop (src : Source) (st : ExprState) (tok : Token) (op : Op) (rest : List Op) : ExprState :=
  if op.kind < 1000 || op.kind = 1002 then reduceOne st op rest tok.start tok.stop
  else if op.kind = 1007 then sliceRangeOpen src st tok op rest else exprFail st tok.start tok.stop

def sliceRangeStep (src : Source) (st : ExprState) (tok : Token) : ExprState :=
  match st.operators with
  | [] => closeOrReduce st tok.start tok.stop
  | op :: rest => sliceRangeTop src st tok op rest

def sliceCloseLower (st : ExprState) (tok : Token) (rest : List Op) (upper lower : Expr) (belowLower : List Expr)
    : ExprState :=
  match belowLower with
  | [] => exprFail st tok.start tok.stop
  | base :: before =>
      { st with
        ok := true, errStart := 0, errStop := 0, cursor := tok.stop
        operands := .slice base lower upper (exprStart base) tok.stop :: before, operators := rest
        depth := st.depth - 1, done := false, expectOperand := false, allowIndex := true, allowCast := true }

def sliceCloseUpper (st : ExprState) (tok : Token) (rest : List Op) (upper : Expr) (belowUpper : List Expr)
    : ExprState :=
  match belowUpper with
  | [] => exprFail st tok.start tok.stop
  | lower :: belowLower => sliceCloseLower st tok rest upper lower belowLower

def sliceClose (st : ExprState) (tok : Token) (rest : List Op) : ExprState :=
  if st.expectOperand then exprFail st tok.start tok.stop
  else
    match st.operands with
    | [] => exprFail st tok.start tok.stop
    | upper :: belowUpper => sliceCloseUpper st tok rest upper belowUpper

def castBuild (src : Source) (st : ExprState) (tok : Token) (value : Expr) (before : List Expr) : ExprState :=
  let target := parseType src tok.stop
  if !target.ok then exprFail st target.errStart target.errStop
  else
    let node : Expr :=
      .cast value target.node.start target.node.stop target.node.kind (exprStart value) target.node.stop
    { st with
      ok := true, errStart := 0, errStop := 0, cursor := target.cursor, operands := node :: before, done := false
      expectOperand := false, allowIndex := false, allowCast := false }

def castStep (src : Source) (st : ExprState) (tok : Token) : ExprState :=
  if !st.allowCast then closeOrReduce st tok.start tok.stop
  else
    match st.operands with
    | [] => closeOrReduce st tok.start tok.stop
    | value :: before => castBuild src st tok value before

/-! ## Sequence literals -/

def topRepeatMarker (operators : List Op) : Bool :=
  match operators with
  | [] => false
  | op :: _ => op.kind = 1009

def finishRepeatElement (src : Source) (st : ExprState) (semi : Token) (marker : Op) (rest : List Op) : ExprState :=
  if marker.kind ≠ 1009 || marker.argc ≠ 0 then exprFail st semi.start semi.stop
  else if !marker.args.isEmpty then exprFail st semi.start semi.stop
  else
    let count := src.token semi.stop
    if count.diagnostic ≠ 0 || count.kind ≠ 5 && count.kind ≠ 4 then exprFail st count.start count.stop
    else
      let close := src.token count.stop
      if close.diagnostic ≠ 0 || close.kind ≠ 70 then exprFail st close.start close.stop
      else
        match st.operands with
        | [] => exprFail st semi.start semi.stop
        | element :: before =>
            { st with
              ok := true, errStart := 0, errStop := 0, cursor := close.stop
              operands := .repeated element count.start count.stop count.kind marker.nameStart close.stop :: before
              operators := rest, depth := st.depth - 1, done := false, expectOperand := false, allowIndex := true
              allowCast := true }

def finishRepeat (src : Source) (st : ExprState) (semi : Token) : ExprState :=
  if !st.profile013 then exprFail st semi.start semi.stop
  else if st.expectOperand then exprFail st semi.start semi.stop
  else
    match st.operators with
    | [] => exprFail st semi.start semi.stop
    | marker :: rest => finishRepeatElement src st semi marker rest

def sequenceComma (st : ExprState) (tok : Token) (marker : Op) (rest : List Op) : ExprState :=
  match st.operands with
  | [] => exprFail st tok.start tok.stop
  | item :: before =>
      { st with
        ok := true, errStart := 0, errStop := 0, cursor := tok.stop, operands := before
        operators := { marker with argc := marker.argc + 1, args := item :: marker.args } :: rest, done := false
        expectOperand := true }

def sequenceClosePush (st : ExprState) (tok : Token) (start : Nat) (elements before : List Expr) (rest : List Op)
    : ExprState :=
  { st with
    ok := true, errStart := 0, errStop := 0, cursor := tok.stop
    operands := .sequenceLiteral elements start tok.stop :: before, operators := rest, depth := st.depth - 1
    done := false, expectOperand := false, allowIndex := true, allowCast := true }

def sequenceCloseEmptyOrTrailing (st : ExprState) (tok : Token) (marker : Op) (rest : List Op) : ExprState :=
  if marker.argc = 0 && marker.args.isEmpty then sequenceClosePush st tok marker.nameStart [] st.operands rest
  else if marker.argc = 0 then exprFail st tok.start tok.stop
  else
    let elements := reverseExprs marker.args
    sequenceClosePush st tok marker.nameStart elements st.operands rest

def sequenceCloseLast (st : ExprState) (tok : Token) (marker : Op) (rest : List Op) (last : Expr) (before : List Expr)
    : ExprState :=
  let reversed : List Expr := last :: marker.args
  let elements := reverseExprs reversed
  sequenceClosePush st tok marker.nameStart elements before rest

def sequenceClose (st : ExprState) (tok : Token) (marker : Op) (rest : List Op) : ExprState :=
  if st.expectOperand then sequenceCloseEmptyOrTrailing st tok marker rest
  else
    match st.operands with
    | [] => exprFail st tok.start tok.stop
    | last :: before => sequenceCloseLast st tok marker rest last before

def closeBracketTop (st : ExprState) (tok : Token) (op : Op) (rest : List Op) : ExprState :=
  if op.kind < 1000 || op.kind = 1002 then reduceOne st op rest tok.start tok.stop
  else if op.kind = 1009 then sequenceClose st tok op rest
  else if op.kind = 1007 then indexClose st tok rest
  else if op.kind = 1008 then sliceClose st tok rest
  else if st.depth > 0 then exprFail st tok.start tok.stop else exprFail st tok.start tok.stop

def closeBracket (st : ExprState) (tok : Token) : ExprState :=
  match st.operators with
  | [] => closeOrReduce st tok.start tok.stop
  | op :: rest => closeBracketTop st tok op rest

/-! ## Variants and records -/

def contextualFieldName (kind : Nat) (profile013 : Bool) : Bool := kind = 4 || profile013 && kind = 34

def atRecordField (src : Source) (cursor : Nat) : Bool :=
  let second := src.token cursor
  if second.diagnostic ≠ 0 then false else second.kind = 62

def atRecordLiteral (src : Source) (cursor : Nat) (profile013 : Bool) : Bool :=
  let first := src.token cursor
  if first.diagnostic ≠ 0 then false
  else if first.kind = 90 then true
  else if contextualFieldName first.kind profile013 then atRecordField src first.stop else false

def atRecordUpdate (src : Source) (cursor : Nat) : Bool :=
  let first := src.token cursor
  first.diagnostic = 0 && first.kind = 90

def atFinitePayload (src : Source) (cursor : Nat) (profile013 : Bool) : Bool :=
  let first := src.token cursor
  if first.diagnostic ≠ 0 then false
  else if first.kind = 68 then true
  else if !contextualFieldName first.kind profile013 then false
  else
    let colon := src.token first.stop
    colon.diagnostic = 0 && colon.kind = 62

def recordPushType (st : ExprState) (tok : Token) (typeStart typeStop start : Nat) (before : List Expr) : ExprState :=
  let node : Expr := .recordConstruct typeStart typeStop (.name 0 0) false [] start 0
  { st with
    ok := true, errStart := 0, errStop := 0, cursor := tok.stop, operands := node :: before
    operators := { kind := 1005, argc := 0, nameStart := 0, nameStop := 0, args := [], targs := [] } :: st.operators
    depth := st.depth + 1, done := false, expectOperand := true }

def recordPush (st : ExprState) (tok : Token) (s e : Nat) (before : List Expr) : ExprState :=
  recordPushType st tok s e s before

def recordOrClose (src : Source) (st : ExprState) (tok : Token) (s e : Nat) (before : List Expr) : ExprState :=
  if atRecordLiteral src tok.stop st.profile013 then recordPush st tok s e before
  else closeOrReduce st tok.start tok.stop

def constructPush (st : ExprState) (tok : Token) (ns ne fs fe s : Nat) (before : List Expr) : ExprState :=
  let node : Expr := .enumConstruct ns ne fs fe [] s 0
  { st with
    ok := true, errStart := 0, errStop := 0, cursor := tok.stop, operands := node :: before
    operators := { kind := 1004, argc := 0, nameStart := 0, nameStop := 0, args := [], targs := [] } :: st.operators
    depth := st.depth + 1, done := false, expectOperand := true }

def constructNamedProject (src : Source) (st : ExprState) (tok : Token)
    (typeStart typeStop variantStart variantStop start : Nat) (before : List Expr) : ExprState :=
  if atRecordUpdate src tok.stop then recordPushType st tok start variantStop start before
  else if !atFinitePayload src tok.stop st.profile013 then closeOrReduce st tok.start tok.stop
  else constructPush st tok typeStart typeStop variantStart variantStop start before

def constructQualifiedProject (src : Source) (st : ExprState) (tok : Token) (base : Expr)
    (typeStop variantStart variantStop start : Nat) (before : List Expr) (path : Bool) : ExprState :=
  if !st.profile013 || !path || !baseIsPath base then exprFail st tok.start tok.stop
  else if atRecordUpdate src tok.stop then recordPushType st tok start variantStop start before
  else if !atFinitePayload src tok.stop st.profile013 then closeOrReduce st tok.start tok.stop
  else constructPush st tok (exprStart base) typeStop variantStart variantStop start before

def constructProject (src : Source) (st : ExprState) (tok : Token) (b : Expr) (fs fe s : Nat) (before : List Expr)
    : ExprState :=
  match b with
  | .name ns ne => constructNamedProject src st tok ns ne fs fe s before
  | .project q _ ge _ _ p => constructQualifiedProject src st tok q ge fs fe s before p
  | _ => exprFail st tok.start tok.stop

def constructTop (src : Source) (st : ExprState) (tok : Token) (base : Expr) (before : List Expr) : ExprState :=
  match base with
  | .name s e => recordOrClose src st tok s e before
  | .project b fs fe s _ _ => constructProject src st tok b fs fe s before
  | _ => closeOrReduce st tok.start tok.stop

def constructStep (src : Source) (st : ExprState) (tok : Token) : ExprState :=
  match st.operands with
  | [] => closeOrReduce st tok.start tok.stop
  | base :: before => constructTop src st tok base before

def colonName (st : ExprState) (tok : Token) (op : Op) (rest : List Op) (name : Expr) (before : List Expr)
    : ExprState :=
  match name with
  | .name s e =>
      { st with
        ok := true, errStart := 0, errStop := 0, cursor := tok.stop, operands := before
        operators := { kind := op.kind, argc := 1, nameStart := s, nameStop := e, args := [], targs := [] } :: rest
        done := false, expectOperand := true }
  | _ => exprFail st tok.start tok.stop

def colonField (st : ExprState) (tok : Token) (op : Op) (rest : List Op) : ExprState :=
  match st.operands with
  | [] => exprFail st tok.start tok.stop
  | name :: before => colonName st tok op rest name before

def colonTop (st : ExprState) (tok : Token) (op : Op) (rest : List Op) : ExprState :=
  if op.kind = 1004 && op.argc = 0 && !st.expectOperand then colonField st tok op rest
  else if op.kind = 1005 && op.argc = 0 && !st.expectOperand then colonField st tok op rest
  else closeOrReduce st tok.start tok.stop

def colonStep (st : ExprState) (tok : Token) : ExprState :=
  match st.operators with
  | [] => closeOrReduce st tok.start tok.stop
  | op :: rest => colonTop st tok op rest

def constructAppend (st : ExprState) (tok : Token) (op : Op) (rest : List Op) (value node : Expr) (before : List Expr)
    : ExprState :=
  match node with
  | .enumConstruct ts te vs ve f s _ =>
      { st with
        ok := true, errStart := 0, errStop := 0, cursor := tok.stop
        operands := .enumConstruct ts te vs ve (.mk op.nameStart op.nameStop value :: f) s 0 :: before
        operators := { kind := op.kind, argc := 0, nameStart := 0, nameStop := 0, args := [], targs := [] } :: rest
        done := false, expectOperand := true }
  | .recordConstruct ts te b hb f s _ =>
      { st with
        ok := true, errStart := 0, errStop := 0, cursor := tok.stop
        operands := .recordConstruct ts te b hb (.mk op.nameStart op.nameStop value :: f) s 0 :: before
        operators := { kind := op.kind, argc := 0, nameStart := 0, nameStop := 0, args := [], targs := [] } :: rest
        done := false, expectOperand := true }
  | _ => exprFail st tok.start tok.stop

def constructAccumulate (st : ExprState) (tok : Token) (op : Op) (rest : List Op) (value : Expr) (below : List Expr)
    : ExprState :=
  match below with
  | [] => exprFail st tok.start tok.stop
  | node :: before => constructAppend st tok op rest value node before

def constructComma (st : ExprState) (tok : Token) (op : Op) (rest : List Op) : ExprState :=
  if op.argc ≠ 1 then exprFail st tok.start tok.stop
  else
    match st.operands with
    | [] => exprFail st tok.start tok.stop
    | value :: below => constructAccumulate st tok op rest value below

structure RecordFrameParts where
  ok : Bool
  ts : Nat
  te : Nat
  f : List ConstructField
  s : Nat

def recordFrameParts (node : Expr) : RecordFrameParts :=
  match node with
  | .recordConstruct ts te _ _ f s _ => { ok := true, ts := ts, te := te, f := f, s := s }
  | _ => { ok := false, ts := 0, te := 0, f := [], s := 0 }

def closeConstructRev (f : List ConstructField) (last : ConstructField) (hasLast : Bool) : List ConstructField :=
  if hasLast then last :: f else f

def closeRecordFinish (st : ExprState) (tok : Token) (rest : List Op) (ts te : Nat) (b : Expr) (hb : Bool)
    (f : List ConstructField) (last : ConstructField) (hasLast : Bool) (s : Nat) (before : List Expr) : ExprState :=
  let rev := closeConstructRev f last hasLast
  let fields := reverseConstructFields rev
  let node : Expr := .recordConstruct ts te b hb fields s tok.stop
  { st with
    ok := true, errStart := 0, errStop := 0, cursor := tok.stop, operands := node :: before, operators := rest
    depth := st.depth - 1, done := false, expectOperand := false, allowIndex := false, allowCast := true }

def dummyConstructField : ConstructField := .mk 0 0 (.name 0 0)

def closeRecordFinishFromParts (st : ExprState) (tok : Token) (rest2 : List Op) (base : Expr)
    (parts : RecordFrameParts) (before : List Expr) : ExprState :=
  closeRecordFinish st tok rest2 parts.ts parts.te base true parts.f dummyConstructField false parts.s before

def recordBaseFrame (st : ExprState) (tok : Token) (frame : Op) (rest rest2 : List Op) (base : Expr)
    (parts : RecordFrameParts) (before : List Expr) (isClose : Bool) : ExprState :=
  if frame.kind ≠ 1005 || frame.argc ≠ 0 then exprFail st tok.start tok.stop
  else if isClose then closeRecordFinishFromParts st tok rest2 base parts before
  else
    let node : Expr := .recordConstruct parts.ts parts.te base true parts.f parts.s 0
    { st with
      ok := true, errStart := 0, errStop := 0, cursor := tok.stop, operands := node :: before, operators := rest
      done := false, expectOperand := true }

def recordBaseResolve (st : ExprState) (tok : Token) (rest : List Op) (base node : Expr) (before : List Expr)
    (isClose : Bool) : ExprState :=
  let parts := recordFrameParts node
  if !parts.ok then exprFail st tok.start tok.stop
  else
    match rest with
    | [] => exprFail st tok.start tok.stop
    | frame :: rest2 => recordBaseFrame st tok frame rest rest2 base parts before isClose

def recordBaseBelow (st : ExprState) (tok : Token) (rest : List Op) (base : Expr) (below : List Expr) (isClose : Bool)
    : ExprState :=
  match below with
  | [] => exprFail st tok.start tok.stop
  | node :: before => recordBaseResolve st tok rest base node before isClose

def recordBaseComma (st : ExprState) (tok : Token) (_op : Op) (rest : List Op) : ExprState :=
  if st.expectOperand then exprFail st tok.start tok.stop
  else
    match st.operands with
    | [] => exprFail st tok.start tok.stop
    | base :: below => recordBaseBelow st tok rest base below false

def recordBaseClose (st : ExprState) (tok : Token) (_op : Op) (rest : List Op) : ExprState :=
  if st.expectOperand then exprFail st tok.start tok.stop
  else
    match st.operands with
    | [] => exprFail st tok.start tok.stop
    | base :: below => recordBaseBelow st tok rest base below true

def dotdotRecord (st : ExprState) (tok : Token) (hb : Bool) (f : List ConstructField) : ExprState :=
  if hb || !f.isEmpty then exprFail st tok.start tok.stop
  else
    { st with
      ok := true, errStart := 0, errStop := 0, cursor := tok.stop
      operators := { kind := 1006, argc := 0, nameStart := 0, nameStop := 0, args := [], targs := [] } :: st.operators
      done := false, expectOperand := true }

def dotdotNode (st : ExprState) (tok : Token) (node : Expr) (_before : List Expr) : ExprState :=
  match node with
  | .recordConstruct _ _ _ hb f _ _ => dotdotRecord st tok hb f
  | _ => exprFail st tok.start tok.stop

def dotdotTop (st : ExprState) (tok : Token) (op : Op) (_rest : List Op) : ExprState :=
  if op.kind ≠ 1005 || op.argc ≠ 0 then closeOrReduce st tok.start tok.stop
  else
    match st.operands with
    | [] => exprFail st tok.start tok.stop
    | node :: before => dotdotNode st tok node before

def dotdotStep (st : ExprState) (tok : Token) : ExprState :=
  match st.operators with
  | [] => closeOrReduce st tok.start tok.stop
  | op :: rest => dotdotTop st tok op rest

def closeConstructFinish (st : ExprState) (tok : Token) (rest : List Op) (ts te vs ve : Nat) (f : List ConstructField)
    (last : ConstructField) (hasLast : Bool) (s : Nat) (before : List Expr) : ExprState :=
  let rev := closeConstructRev f last hasLast
  let fields := reverseConstructFields rev
  let node : Expr := .enumConstruct ts te vs ve fields s tok.stop
  { st with
    ok := true, errStart := 0, errStop := 0, cursor := tok.stop, operands := node :: before, operators := rest
    depth := st.depth - 1, done := false, expectOperand := false, allowIndex := false, allowCast := true }

def closeConstructNoFields (st : ExprState) (tok : Token) (rest : List Op) (node : Expr) (before : List Expr)
    : ExprState :=
  match node with
  | .enumConstruct ts te vs ve f s _ =>
      closeConstructFinish st tok rest ts te vs ve f dummyConstructField false s before
  | .recordConstruct ts te b hb f s _ => closeRecordFinish st tok rest ts te b hb f dummyConstructField false s before
  | _ => exprFail st tok.start tok.stop

def closeConstructEmpty (st : ExprState) (tok : Token) (_op : Op) (rest : List Op) : ExprState :=
  match st.operands with
  | [] => exprFail st tok.start tok.stop
  | node :: before => closeConstructNoFields st tok rest node before

def closeConstructField (st : ExprState) (tok : Token) (op : Op) (rest : List Op) (value node : Expr)
    (before : List Expr) : ExprState :=
  match node with
  | .enumConstruct ts te vs ve f s _ =>
      closeConstructFinish st tok rest ts te vs ve f (.mk op.nameStart op.nameStop value) true s before
  | .recordConstruct ts te b hb f s _ =>
      closeRecordFinish st tok rest ts te b hb f (.mk op.nameStart op.nameStop value) true s before
  | _ => exprFail st tok.start tok.stop

def closeConstructValue (st : ExprState) (tok : Token) (op : Op) (rest : List Op) (value : Expr) (below : List Expr)
    : ExprState :=
  match below with
  | [] => exprFail st tok.start tok.stop
  | node :: before => closeConstructField st tok op rest value node before

def closeConstruct (st : ExprState) (tok : Token) (op : Op) (rest : List Op) : ExprState :=
  if st.expectOperand && op.argc = 0 then closeConstructEmpty st tok op rest
  else if st.expectOperand || op.argc ≠ 1 then exprFail st tok.start tok.stop
  else
    match st.operands with
    | [] => exprFail st tok.start tok.stop
    | value :: below => closeConstructValue st tok op rest value below

def closeBraceTop (st : ExprState) (tok : Token) (op : Op) (rest : List Op) : ExprState :=
  if op.kind < 1000 || op.kind = 1002 then reduceOne st op rest tok.start tok.stop
  else if op.kind = 1004 then closeConstruct st tok op rest
  else if op.kind = 1005 then closeConstruct st tok op rest
  else if op.kind = 1006 then recordBaseClose st tok op rest else closeOrReduce st tok.start tok.stop

def closeBrace (st : ExprState) (tok : Token) : ExprState :=
  match st.operators with
  | [] => closeOrReduce st tok.start tok.stop
  | op :: rest => closeBraceTop st tok op rest

def commaTop (st : ExprState) (tok : Token) (op : Op) (rest : List Op) : ExprState :=
  if op.kind < 1000 || op.kind = 1002 then reduceOne st op rest tok.start tok.stop
  else if op.kind = 1001 then
    match st.operands with
    | [] => exprFail st tok.start tok.stop
    | arg :: before =>
        { st with
          ok := true, errStart := 0, errStop := 0, cursor := tok.stop, operands := before
          operators := { op with kind := 1001, argc := op.argc + 1, args := arg :: op.args } :: rest, done := false
          expectOperand := true }
  else if op.kind = 1004 then constructComma st tok op rest
  else if op.kind = 1005 then constructComma st tok op rest
  else if op.kind = 1006 then recordBaseComma st tok op rest
  else if op.kind = 1009 then sequenceComma st tok op rest else exprFail st tok.start tok.stop

def commaStep (st : ExprState) (tok : Token) : ExprState :=
  if st.expectOperand then exprFail st tok.start tok.stop
  else
    match st.operators with
    | [] => exprFail st tok.start tok.stop
    | op :: rest => commaTop st tok op rest

/-! ## The machine without matches -/

def exprStepBase (src : Source) (st : ExprState) : ExprState :=
  if !st.ok || st.done then st
  else
    let tok := src.token st.cursor
    if tok.diagnostic ≠ 0 then
      if st.expectOperand then exprFail st tok.start tok.stop else closeOrReduce st tok.start tok.stop
    else if tok.kind = 0 then
      if st.expectOperand then exprFail st tok.start tok.stop else closeOrReduce st tok.start tok.stop
    else if st.expectOperand && tok.kind = 69 then prefixSequence st tok
    else if tok.kind = 69 && !st.expectOperand then indexStep src st tok
    else if st.expectOperand && tok.kind = 34 && st.profile013 && constructFieldNameExpected st.operators then
      shiftOperand src st tok
    else if isOperandStart tok.kind then
      if !st.expectOperand then closeOrReduce st tok.start tok.stop else shiftOperand src st tok
    else if tok.kind = 65 then
      if !st.expectOperand then pathCall st tok
      else
        { st with
          ok := true, errStart := 0, errStop := 0, cursor := tok.stop
          operators :=
            { kind := 1000, argc := 0, nameStart := 0, nameStop := 0, args := [], targs := [] } :: st.operators
          depth := st.depth + 1, done := false, expectOperand := true }
    else if tok.kind = 66 then closeParen src st tok
    else if tok.kind = 64 && st.depth = 0 then closeOrReduce st tok.start tok.stop
    else if tok.kind = 64 then commaStep st tok
    else if tok.kind = 63 && topRepeatMarker st.operators then finishRepeat src st tok
    else if tok.kind = 61 then projectStep src st tok
    else if tok.kind = 62 then colonStep st tok
    else if tok.kind = 90 && !st.expectOperand then sliceRangeStep src st tok
    else if tok.kind = 90 && st.expectOperand then dotdotStep st tok
    else if tok.kind = 68 then closeBrace st tok
    else if tok.kind = 70 then closeBracket st tok
    else if tok.kind = 36 && !st.expectOperand then castStep src st tok
    else if tok.kind = 67 && !st.expectOperand && (st.allowConstruct || st.depth > 0) then constructStep src st tok
    else if st.expectOperand && tok.kind = 51 then
      if st.profile013 then shiftNegativeInteger src st tok else exprFail st tok.start tok.stop
    else if tok.kind = 58 && !st.expectOperand then ltOrTypeArgs src st tok
    else if prec tok.kind > 0 then operatorStep st tok else closeOrReduce st tok.start tok.stop

def finishEmpty (src : Source) (st : ExprState) (bad : Expr) : ExprParse :=
  let tok := src.token st.cursor
  { cursor := st.cursor, ok := false, errStart := tok.start, errStop := tok.stop, node := bad, start := st.cursor
    stop := st.cursor }

def finishSingle (st : ExprState) (node : Expr) (rest : List Expr) : ExprParse :=
  match rest with
  | [] =>
      { cursor := st.cursor, ok := true, errStart := 0, errStop := 0, node := node, start := exprStart node
        stop := exprEnd node }
  | extra :: _ =>
      { cursor := st.cursor, ok := false, errStart := exprStart extra, errStop := exprEnd extra, node := node
        start := st.cursor, stop := st.cursor }

def finishExpr (src : Source) (st : ExprState) : ExprParse :=
  let bad : Expr := .name st.cursor st.cursor
  if !st.ok then
    { cursor := st.cursor, ok := false, errStart := st.errStart, errStop := st.errStop, node := bad, start := st.cursor
      stop := st.cursor }
  else if !st.done then
    { cursor := st.cursor, ok := false, errStart := st.cursor, errStop := st.cursor, node := bad, start := st.cursor
      stop := st.cursor }
  else
    match st.operands with
    | [] => finishEmpty src st bad
    | node :: rest => finishSingle st node rest

def parseExprBaseNoconstruct (src : Source) (cursor : Nat) (profile013 : Bool) : ExprParse :=
  let seed : ExprState :=
    { ok := true, errStart := 0, errStop := 0, cursor := cursor, operands := [], operators := [], depth := 0
      done := false, expectOperand := true, profile013 := profile013, allowConstruct := false, allowIndex := true
      allowCast := true }
  let d0 := (exprStepBase src)^[64] seed
  if d0.done then finishExpr src d0
  else
    let d := (exprStepBase src)^[960] d0
    if d.done then finishExpr src d
    else
      let h := (exprStepBase src)^[1024] d
      if h.done then finishExpr src h
      else
        let fin := (exprStepBase src)^[32] h
        finishExpr src fin

def exprStepWithoutMatch (src : Source) (st : ExprState) (tok : Token) : ExprState :=
  if st.expectOperand && st.profile013 && tok.kind = 7 && tok.diagnostic = 2 && tok.stop = tok.start + 1 &&
         src.byteAt tok.start = 33 then prefixNot st tok
  else exprStepBase src st

end MncsCompiler.Decl
