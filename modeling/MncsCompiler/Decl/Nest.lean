import MncsCompiler.Decl.Expr

/-!
# `Decl.Nest` — matches

A match stands where an operand is expected. Its subject is read by the machine without matches. In ordinary position
`prefix_match` reads the arms one a step; the value of an arm is read by `parse_nest_expr_value`, a machine with a
stack of its own that suspends an expression at a match and resumes it behind the closing brace.
-/

namespace MncsCompiler.Decl

open BoundedLoop


/-! ## Patterns -/

structure MatchPattern where
  ok : Bool
  isDefault : Bool
  negative : Bool
  value : Nat
  overflow : Bool
  start : Nat
  stop : Nat
  cursor : Nat

def scalarMatchUnderscore (src : Source) (start stop : Nat) : Bool := stop = start + 1 && src.byteAt start = 95

def scalarMatchPattern (src : Source) (token : Token) : MatchPattern :=
  if token.kind = 5 then
    let parsed := src.intValue token.start token.stop
    { ok := true, isDefault := false, negative := false, value := parsed.value, overflow := parsed.overflow
      start := token.start, stop := token.stop, cursor := token.stop }
  else if token.kind = 51 then
    let literal := src.token token.stop
    if literal.diagnostic ≠ 0 || literal.kind ≠ 5 then
      { ok := false, isDefault := false, negative := false, value := 0, overflow := false, start := token.start
        stop := literal.stop, cursor := literal.stop }
    else
      let parsed := src.intValue literal.start literal.stop
      { ok := true, isDefault := false, negative := true, value := parsed.value, overflow := parsed.overflow
        start := token.start, stop := literal.stop, cursor := literal.stop }
  else if token.kind = 4 && scalarMatchUnderscore src token.start token.stop then
    { ok := true, isDefault := true, negative := false, value := 0, overflow := false, start := token.start
      stop := token.stop, cursor := token.stop }
  else
    { ok := false, isDefault := false, negative := false, value := 0, overflow := false, start := token.start
      stop := token.stop, cursor := token.stop }

structure FiniteMatchPattern where
  ok : Bool
  pattern : FinitePattern
  start : Nat
  stop : Nat
  cursor : Nat

def finitePatternStart (src : Source) (token : Token) : Bool :=
  if token.kind ≠ 4 then false else !scalarMatchUnderscore src token.start token.stop

structure FiniteQualifierScan where
  ok : Bool
  cursor : Nat
  qualifierStop : Nat
  variantStart : Nat
  variantStop : Nat
  errStart : Nat
  errStop : Nat
  done : Bool

def finiteQualifierStep (src : Source) (st : FiniteQualifierScan) (profile009 : Bool) : FiniteQualifierScan :=
  if !st.ok || st.done || !profile009 then { st with done := true }
  else
    let dot := src.token st.cursor
    if dot.diagnostic ≠ 0 || dot.kind ≠ 61 then { st with done := true }
    else
      let following := src.token dot.stop
      if following.diagnostic ≠ 0 || following.kind ≠ 4 then
        { st with ok := false, errStart := following.start, errStop := following.stop, cursor := following.start }
      else
        { st with
          cursor := following.stop, qualifierStop := st.variantStop, variantStart := following.start
          variantStop := following.stop }

structure PayloadScan where
  ok : Bool
  done : Bool
  ignorePayload : Bool
  profile013 : Bool
  errStart : Nat
  errStop : Nat
  cursor : Nat
  start : Nat
  stop : Nat
  bindings : List PayloadBinding

structure PayloadName where
  ok : Bool
  cursor : Nat
  errStart : Nat
  errStop : Nat
  binding : PayloadBinding

def payloadIgnoreWildcard (src : Source) (st : PayloadScan) (dots : Token) : PayloadScan :=
  let close := src.token dots.stop
  if close.diagnostic ≠ 0 || close.kind ≠ 68 then
    { st with ok := false, errStart := close.start, errStop := close.stop }
  else { st with done := true, ignorePayload := true, cursor := close.stop, stop := close.stop }

def payloadBindingAfterColon (src : Source) (profile013 : Bool) (colon field : Token) : PayloadName :=
  let nameToken := src.token colon.stop
  let binding : PayloadBinding :=
    { fieldStart := field.start, fieldStop := field.stop, nameStart := nameToken.start, nameStop := nameToken.stop }
  if nameToken.diagnostic ≠ 0 || !contextualFieldName nameToken.kind profile013 then
    { ok := false, cursor := nameToken.start, errStart := nameToken.start, errStop := nameToken.stop, binding := binding }
  else { ok := true, cursor := nameToken.stop, errStart := 0, errStop := 0, binding := binding }

def payloadBindingAppend (src : Source) (st : PayloadScan) (binding : PayloadBinding) (bindingStop : Nat)
    : PayloadScan :=
  let delimiter := src.token bindingStop
  if delimiter.diagnostic ≠ 0 || delimiter.kind ≠ 64 && delimiter.kind ≠ 68 then
    { st with ok := false, errStart := delimiter.start, errStop := delimiter.stop }
  else
    let nextCursor := if delimiter.kind = 64 then delimiter.stop else bindingStop
    { st with cursor := nextCursor, stop := delimiter.start, bindings := binding :: st.bindings }

def payloadBindingNamed (src : Source) (st : PayloadScan) (field colon : Token) : PayloadScan :=
  let parsed := payloadBindingAfterColon src st.profile013 colon field
  if !parsed.ok then { st with ok := false, errStart := parsed.errStart, errStop := parsed.errStop }
  else payloadBindingAppend src st parsed.binding parsed.cursor

def payloadBindingShorthand (src : Source) (st : PayloadScan) (field : Token) : PayloadScan :=
  let binding : PayloadBinding :=
    { fieldStart := field.start, fieldStop := field.stop, nameStart := field.start, nameStop := field.stop }
  payloadBindingAppend src st binding field.stop

def payloadBindingStep (src : Source) (st : PayloadScan) : PayloadScan :=
  if !st.ok || st.done then st
  else
    let fieldToken := src.token st.cursor
    if fieldToken.diagnostic ≠ 0 then
      { st with ok := false, errStart := fieldToken.start, errStop := fieldToken.stop }
    else if fieldToken.kind = 68 then { st with done := true, cursor := fieldToken.stop, stop := fieldToken.stop }
    else if fieldToken.kind = 90 then payloadIgnoreWildcard src st fieldToken
    else if !contextualFieldName fieldToken.kind st.profile013 then
      { st with ok := false, errStart := fieldToken.start, errStop := fieldToken.stop }
    else
      let colon := src.token fieldToken.stop
      if colon.diagnostic ≠ 0 then { st with ok := false, errStart := colon.start, errStop := colon.stop }
      else if colon.kind = 62 then payloadBindingNamed src st fieldToken colon
      else payloadBindingShorthand src st fieldToken

def reversePayloadBindings (list : List PayloadBinding) : List PayloadBinding := reverseWithin 1024 list

def finiteMatchPayload (src : Source) (pattern : FinitePattern) (cursor : Nat) (profile013 : Bool)
    : FiniteMatchPattern :=
  let seed : PayloadScan :=
    { ok := true, done := false, ignorePayload := false, profile013 := profile013, errStart := 0, errStop := 0
      cursor := cursor, start := pattern.start, stop := cursor, bindings := [] }
  let d := (payloadBindingStep src)^[1024] seed
  if !d.ok || !d.done then
    { ok := false, pattern := pattern, start := d.errStart, stop := d.errStop, cursor := d.cursor }
  else
    let bindings := reversePayloadBindings d.bindings
    let complete : FinitePattern :=
      { pattern with hasPayload := true, ignorePayload := d.ignorePayload, bindings := bindings, stop := d.stop }
    { ok := true, pattern := complete, start := complete.start, stop := complete.stop, cursor := d.cursor }

def finiteMatchVariant (src : Source) (pattern : FinitePattern) (cursor : Nat) (profile006 profile013 : Bool)
    : FiniteMatchPattern :=
  let brace := src.token cursor
  if brace.diagnostic ≠ 0 then
    { ok := false, pattern := pattern, start := brace.start, stop := brace.stop, cursor := brace.stop }
  else if !profile006 || brace.kind ≠ 67 then
    { ok := true, pattern := pattern, start := pattern.start, stop := pattern.stop, cursor := cursor }
  else finiteMatchPayload src pattern brace.stop profile013

def finiteMatchQualified (src : Source) (first dot : Token) (profile009 profile013 : Bool) : FiniteMatchPattern :=
  let variant := src.token dot.stop
  let empty : FinitePattern :=
    { hasQualifier := true, qualifierStart := first.start, qualifierStop := first.stop, variantStart := variant.start
      variantStop := variant.stop, hasPayload := false, ignorePayload := false, bindings := [], start := first.start
      stop := variant.stop }
  if variant.diagnostic ≠ 0 || variant.kind ≠ 4 then
    { ok := false, pattern := empty, start := variant.start, stop := variant.stop, cursor := variant.start }
  else
    let seed : FiniteQualifierScan :=
      { ok := true, cursor := variant.stop, qualifierStop := first.stop, variantStart := variant.start
        variantStop := variant.stop, errStart := 0, errStop := 0, done := false }
    let d := (fun d => finiteQualifierStep src d profile009)^[1024] seed
    if !d.ok then { ok := false, pattern := empty, start := d.errStart, stop := d.errStop, cursor := d.cursor }
    else
      let pattern : FinitePattern :=
        { hasQualifier := true, qualifierStart := first.start, qualifierStop := d.qualifierStop
          variantStart := d.variantStart, variantStop := d.variantStop, hasPayload := false, ignorePayload := false
          bindings := [], start := first.start, stop := d.variantStop }
      finiteMatchVariant src pattern d.cursor true profile013

def finiteMatchPattern (src : Source) (profile006 profile009 profile013 : Bool) (token : Token)
    : FiniteMatchPattern :=
  let empty : FinitePattern :=
    { hasQualifier := false, qualifierStart := token.start, qualifierStop := token.start, variantStart := token.start
      variantStop := token.stop, hasPayload := false, ignorePayload := false, bindings := [], start := token.start
      stop := token.stop }
  if token.kind ≠ 4 then
    { ok := false, pattern := empty, start := token.start, stop := token.stop, cursor := token.stop }
  else
    let afterFirst := src.token token.stop
    if afterFirst.diagnostic ≠ 0 then
      { ok := false, pattern := empty, start := afterFirst.start, stop := afterFirst.stop, cursor := afterFirst.stop }
    else if profile006 && afterFirst.kind = 61 then finiteMatchQualified src token afterFirst profile009 profile013
    else finiteMatchVariant src empty token.stop profile006 profile013

/-! ## The nested machine -/

structure MatchScan where
  ok : Bool
  done : Bool
  errStart : Nat
  errStop : Nat
  cursor : Nat
  start : Nat
  stop : Nat
  profile013 : Bool
  arms : List ScalarMatchArm

structure FiniteMatchScan where
  ok : Bool
  done : Bool
  errStart : Nat
  errStop : Nat
  cursor : Nat
  start : Nat
  stop : Nat
  profile013 : Bool
  profile006 : Bool
  profile009 : Bool
  arms : List FiniteMatchArm

structure FiniteNestParent where
  scan : FiniteMatchScan
  subject : Expr
  matchStart : Nat
  pattern : FinitePattern

structure ScalarNestParent where
  scan : MatchScan
  subject : Expr
  matchStart : Nat
  isDefault : Bool
  negative : Bool
  value : Nat
  overflow : Bool
  patternStart : Nat
  patternStop : Nat

structure NestExprParent where
  est : ExprState

/-- A suspended parse: the arm of a match whose value is being read, or an expression at a match. -/
inductive MatchNestFrame where
  | finite (head : FiniteNestParent)
  | scalar (head : ScalarNestParent)
  | expr (head : NestExprParent)

inductive MatchNestTop where
  | finiteTop (scan : FiniteMatchScan) (subject : Expr) (matchStart : Nat)
  | scalarTop (scan : MatchScan) (subject : Expr) (matchStart : Nat)
  | exprTop (est : ExprState)

structure MatchNestParse where
  top : MatchNestTop
  stack : List MatchNestFrame
  ok : Bool
  done : Bool
  errStart : Nat
  errStop : Nat
  node : Expr
  nodeOk : Bool
  cursor : Nat

structure MatchOpen where
  ok : Bool
  errStart : Nat
  errStop : Nat
  subject : Expr
  openStop : Nat
  isFinite : Bool
  profile006 : Bool
  profile009 : Bool

def reverseFiniteMatchArms (list : List FiniteMatchArm) : List FiniteMatchArm := reverseWithin 1024 list

def reverseScalarMatchArms (list : List ScalarMatchArm) : List ScalarMatchArm := reverseWithin 1024 list

def nestExprSeed (cursor : Nat) (profile013 : Bool) : ExprState :=
  { ok := true, errStart := 0, errStop := 0, cursor := cursor, operands := [], operators := [], depth := 0
    done := false, expectOperand := true, profile013 := profile013, allowConstruct := true, allowIndex := true
    allowCast := true }

/-- The end of a match: behind a following `;`, `)` or `,`, else where the next token begins. -/
def matchCloseStop (src : Source) (cursor : Nat) : Nat :=
  let after := src.token cursor
  if after.diagnostic ≠ 0 then cursor
  else if after.kind = 63 || after.kind = 66 || after.kind = 64 then after.stop else after.start

def finiteNestPopParent (src : Source) (st : MatchNestParse) (parent : FiniteNestParent) (rest : List MatchNestFrame)
    (node : Expr) (cursor : Nat) : MatchNestParse :=
  let delimiter := src.token cursor
  if delimiter.diagnostic ≠ 0 || delimiter.kind ≠ 64 && delimiter.kind ≠ 68 then
    { st with ok := false, errStart := delimiter.start, errStop := delimiter.stop }
  else
    let arm : FiniteMatchArm := .mk parent.pattern node
    let nextCursor := if delimiter.kind = 64 then delimiter.stop else cursor
    let scan : FiniteMatchScan :=
      { parent.scan with cursor := nextCursor, stop := delimiter.start, arms := arm :: parent.scan.arms }
    { top := .finiteTop scan parent.subject parent.matchStart, stack := rest, ok := true, done := false, errStart := 0
      errStop := 0, node := st.node, nodeOk := false, cursor := nextCursor }

def scalarNestPopParent (src : Source) (st : MatchNestParse) (parent : ScalarNestParent) (rest : List MatchNestFrame)
    (node : Expr) (cursor : Nat) : MatchNestParse :=
  let delimiter := src.token cursor
  if delimiter.diagnostic ≠ 0 || delimiter.kind ≠ 64 && delimiter.kind ≠ 68 then
    { st with ok := false, errStart := delimiter.start, errStop := delimiter.stop }
  else
    let arm : ScalarMatchArm :=
      .mk parent.isDefault parent.negative parent.value parent.overflow parent.patternStart parent.patternStop node
    let nextCursor := if delimiter.kind = 64 then delimiter.stop else cursor
    let scan : MatchScan :=
      { parent.scan with cursor := nextCursor, stop := delimiter.start, arms := arm :: parent.scan.arms }
    { top := .scalarTop scan parent.subject parent.matchStart, stack := rest, ok := true, done := false, errStart := 0
      errStop := 0, node := st.node, nodeOk := false, cursor := nextCursor }

def exprNestResume (st : MatchNestParse) (frame : NestExprParent) (rest : List MatchNestFrame) (node : Expr) (cursor : Nat)
    : MatchNestParse :=
  let est := frame.est
  let resumed : ExprState :=
    { est with
      ok := true, errStart := 0, errStop := 0, cursor := cursor, operands := node :: est.operands, done := false
      expectOperand := false, allowIndex := false, allowCast := true }
  { top := .exprTop resumed, stack := rest, ok := true, done := false, errStart := 0, errStop := 0, node := st.node
    nodeOk := false, cursor := cursor }

def matchNestPop (src : Source) (st : MatchNestParse) (node : Expr) (cursor : Nat) : MatchNestParse :=
  match st.stack with
  | [] => { st with done := true, node := node, nodeOk := true, cursor := cursor }
  | .finite parent :: rest => finiteNestPopParent src st parent rest node cursor
  | .scalar parent :: rest => scalarNestPopParent src st parent rest node cursor
  | .expr frame :: rest => exprNestResume st frame rest node cursor

def finiteNestClose (src : Source) (st : MatchNestParse) (scan : FiniteMatchScan) (subject : Expr) (matchStart : Nat)
    (close : Token) : MatchNestParse :=
  let arms := reverseFiniteMatchArms scan.arms
  let node : Expr := .finiteMatch subject arms matchStart (matchCloseStop src close.stop)
  matchNestPop src st node close.stop

def finiteNestStep (src : Source) (st : MatchNestParse) (scan : FiniteMatchScan) (subject : Expr) (matchStart : Nat)
    : MatchNestParse :=
  if !scan.ok then { st with ok := false, errStart := scan.errStart, errStop := scan.errStop }
  else
    let patternToken := src.token scan.cursor
    if patternToken.diagnostic ≠ 0 then
      { st with ok := false, errStart := patternToken.start, errStop := patternToken.stop }
    else if patternToken.kind = 68 then finiteNestClose src st scan subject matchStart patternToken
    else
      let pattern := finiteMatchPattern src scan.profile006 scan.profile009 scan.profile013 patternToken
      if !pattern.ok then { st with ok := false, errStart := pattern.start, errStop := pattern.stop }
      else
        let arrow := src.token pattern.cursor
        if arrow.diagnostic ≠ 0 || arrow.kind ≠ 81 then
          { st with ok := false, errStart := arrow.start, errStop := arrow.stop }
        else
          let parent : FiniteNestParent :=
            { scan := scan, subject := subject, matchStart := matchStart, pattern := pattern.pattern }
          let stack : List MatchNestFrame := .finite parent :: st.stack
          { top := .exprTop (nestExprSeed arrow.stop scan.profile013), stack := stack, ok := true, done := false, errStart := 0
            errStop := 0, node := st.node, nodeOk := false, cursor := arrow.stop }

def scalarNestClose (src : Source) (st : MatchNestParse) (scan : MatchScan) (subject : Expr) (matchStart : Nat)
    (close : Token) : MatchNestParse :=
  let arms := reverseScalarMatchArms scan.arms
  let node : Expr := .scalarMatch subject arms matchStart (matchCloseStop src close.stop)
  matchNestPop src st node close.stop

def scalarNestStep (src : Source) (st : MatchNestParse) (scan : MatchScan) (subject : Expr) (matchStart : Nat)
    : MatchNestParse :=
  if !scan.ok then { st with ok := false, errStart := scan.errStart, errStop := scan.errStop }
  else
    let patternToken := src.token scan.cursor
    if patternToken.diagnostic ≠ 0 then
      { st with ok := false, errStart := patternToken.start, errStop := patternToken.stop }
    else if patternToken.kind = 68 then scalarNestClose src st scan subject matchStart patternToken
    else
      let pattern := scalarMatchPattern src patternToken
      if !pattern.ok then { st with ok := false, errStart := pattern.start, errStop := pattern.stop }
      else
        let arrow := src.token pattern.cursor
        if arrow.diagnostic ≠ 0 || arrow.kind ≠ 81 then
          { st with ok := false, errStart := arrow.start, errStop := arrow.stop }
        else
          let parent : ScalarNestParent :=
            { scan := scan, subject := subject, matchStart := matchStart, isDefault := pattern.isDefault
              negative := pattern.negative, value := pattern.value, overflow := pattern.overflow
              patternStart := pattern.start, patternStop := pattern.stop }
          let stack : List MatchNestFrame := .scalar parent :: st.stack
          { top := .exprTop (nestExprSeed arrow.stop scan.profile013), stack := stack, ok := true, done := false, errStart := 0
            errStop := 0, node := st.node, nodeOk := false, cursor := arrow.stop }

def exprNestDone (src : Source) (st : MatchNestParse) (est : ExprState) : MatchNestParse :=
  let finished := finishExpr src est
  if !finished.ok then { st with ok := false, errStart := finished.errStart, errStop := finished.errStop }
  else
    match st.stack with
    | [] => { st with done := true, node := finished.node, nodeOk := true, cursor := finished.cursor }
    | .finite parent :: rest => finiteNestPopParent src st parent rest finished.node finished.cursor
    | .scalar parent :: rest => scalarNestPopParent src st parent rest finished.node finished.cursor
    | .expr _ :: _ => { st with ok := false, errStart := finished.cursor, errStop := finished.cursor }

def matchOpenNested (src : Source) (matchToken : Token) (profile013 : Bool) : MatchOpen :=
  let profiles := patternProfiles src
  let subject := parseExprBaseNoconstruct src matchToken.stop profile013
  if !subject.ok then
    { ok := false, errStart := subject.errStart, errStop := subject.errStop, subject := .name 0 0
      openStop := matchToken.stop, isFinite := false, profile006 := profiles.profile006
      profile009 := profiles.profile009 }
  else
    let opener := src.token subject.cursor
    if opener.diagnostic ≠ 0 || opener.kind ≠ 67 then
      { ok := false, errStart := opener.start, errStop := opener.stop, subject := subject.node, openStop := subject.cursor
        isFinite := false, profile006 := profiles.profile006, profile009 := profiles.profile009 }
    else
      let first := src.token opener.stop
      let afterBool := src.token first.stop
      if first.diagnostic ≠ 0 then
        { ok := false, errStart := first.start, errStop := first.stop, subject := subject.node, openStop := opener.stop
          isFinite := false, profile006 := profiles.profile006, profile009 := profiles.profile009 }
      else if (first.kind = 38 || first.kind = 39) && (afterBool.diagnostic = 0 && afterBool.kind = 61) then
        { ok := false, errStart := afterBool.start, errStop := afterBool.stop
          subject := subject.node, openStop := opener.stop, isFinite := false, profile006 := profiles.profile006
          profile009 := profiles.profile009 }
      else if finitePatternStart src first then
        { ok := true, errStart := 0, errStop := 0, subject := subject.node, openStop := opener.stop, isFinite := true
          profile006 := profiles.profile006, profile009 := profiles.profile009 }
      else if !profile013 then
        { ok := false, errStart := first.start, errStop := first.stop, subject := subject.node, openStop := opener.stop
          isFinite := false, profile006 := profiles.profile006, profile009 := profiles.profile009 }
      else
        { ok := true, errStart := 0, errStop := 0, subject := subject.node, openStop := opener.stop, isFinite := false
          profile006 := profiles.profile006, profile009 := profiles.profile009 }

def exprNestPushMatch (src : Source) (st : MatchNestParse) (est : ExprState) (matchToken : Token) : MatchNestParse :=
  let opener := matchOpenNested src matchToken est.profile013
  if !opener.ok then { st with ok := false, errStart := opener.errStart, errStop := opener.errStop }
  else
    let stack : List MatchNestFrame := .expr { est := est } :: st.stack
    if opener.isFinite then
      let nested : FiniteMatchScan :=
        { ok := true, done := false, errStart := 0, errStop := 0, cursor := opener.openStop, start := matchToken.start
          stop := opener.openStop, profile013 := est.profile013, profile006 := opener.profile006
          profile009 := opener.profile009, arms := [] }
      { top := .finiteTop nested opener.subject matchToken.start, stack := stack, ok := true, done := false, errStart := 0
        errStop := 0, node := st.node, nodeOk := false, cursor := opener.openStop }
    else
      let nested : MatchScan :=
        { ok := true, done := false, errStart := 0, errStop := 0, cursor := opener.openStop, start := matchToken.start
          stop := opener.openStop, profile013 := est.profile013, arms := [] }
      { top := .scalarTop nested opener.subject matchToken.start, stack := stack, ok := true, done := false, errStart := 0
        errStop := 0, node := st.node, nodeOk := false, cursor := opener.openStop }

def exprNestStep (src : Source) (st : MatchNestParse) (est : ExprState) : MatchNestParse :=
  if !est.ok || est.done then exprNestDone src st est
  else
    let tok := src.token est.cursor
    if est.expectOperand && tok.diagnostic = 0 && tok.kind = 30 then exprNestPushMatch src st est tok
    else
      let advanced := exprStepWithoutMatch src est tok
      { st with top := .exprTop advanced, cursor := advanced.cursor }

def matchNestStep (src : Source) (st : MatchNestParse) : MatchNestParse :=
  if !st.ok || st.done then st
  else
    match st.top with
    | .finiteTop scan subject ms => finiteNestStep src st scan subject ms
    | .scalarTop scan subject ms => scalarNestStep src st scan subject ms
    | .exprTop est => exprNestStep src st est

def finishNestExpr (state : MatchNestParse) : ExprParse :=
  let bad : Expr := .name state.cursor state.cursor
  if !state.ok then
    { cursor := state.cursor, ok := false, errStart := state.errStart, errStop := state.errStop, node := bad
      start := state.cursor, stop := state.cursor }
  else if !state.done || !state.nodeOk then
    { cursor := state.cursor, ok := false, errStart := state.cursor, errStop := state.cursor, node := bad
      start := state.cursor, stop := state.cursor }
  else
    { cursor := state.cursor, ok := true, errStart := 0, errStop := 0, node := state.node, start := exprStart state.node
      stop := exprEnd state.node }

def parseNestExprValue (src : Source) (cursor : Nat) (profile013 : Bool) : ExprParse :=
  let seed : MatchNestParse :=
    { top := .exprTop (nestExprSeed cursor profile013), stack := [], ok := true, done := false, errStart := 0
      errStop := 0, node := .name cursor cursor, nodeOk := false, cursor := cursor }
  let a := (matchNestStep src)^[64] seed
  if !a.ok || a.done then finishNestExpr a
  else
    let b := (matchNestStep src)^[960] a
    if !b.ok || b.done then finishNestExpr b
    else
      let c := (matchNestStep src)^[1024] b
      if !c.ok || c.done then finishNestExpr c
      else
        let d := (matchNestStep src)^[1024] c
        if !d.ok || d.done then finishNestExpr d
        else
          let fin := (matchNestStep src)^[32] d
          finishNestExpr fin

/-! ## Ordinary position

`prefix_match` reads the value of an arm with `scalar_match_value` and takes 1024 arm steps. Both are parameters of the
bodies below.
-/

def scalarMatchValue (src : Source) (cursor : Nat) (profile013 : Bool) : ExprParse :=
  parseNestExprValue src cursor profile013

def finiteMatchArmStepBy (src : Source) (readValue : Nat → Bool → ExprParse) (st : FiniteMatchScan) : FiniteMatchScan
    :=
  if !st.ok || st.done then st
  else
    let patternToken := src.token st.cursor
    if patternToken.diagnostic ≠ 0 then
      { st with ok := false, errStart := patternToken.start, errStop := patternToken.stop }
    else if patternToken.kind = 68 then { st with done := true, cursor := patternToken.stop, stop := patternToken.stop }
    else
      let pattern := finiteMatchPattern src st.profile006 st.profile009 st.profile013 patternToken
      if !pattern.ok then { st with ok := false, errStart := pattern.start, errStop := pattern.stop }
      else
        let arrow := src.token pattern.cursor
        if arrow.diagnostic ≠ 0 || arrow.kind ≠ 81 then
          { st with ok := false, errStart := arrow.start, errStop := arrow.stop }
        else
          let value := readValue arrow.stop st.profile013
          if !value.ok then { st with ok := false, errStart := value.errStart, errStop := value.errStop }
          else
            let delimiter := src.token value.cursor
            if delimiter.diagnostic ≠ 0 || delimiter.kind ≠ 64 && delimiter.kind ≠ 68 then
              { st with ok := false, errStart := delimiter.start, errStop := delimiter.stop }
            else
              let arm : FiniteMatchArm := .mk pattern.pattern value.node
              let nextCursor := if delimiter.kind = 64 then delimiter.stop else value.cursor
              { st with cursor := nextCursor, stop := delimiter.start, arms := arm :: st.arms }

def finiteMatchArmStep (src : Source) (st : FiniteMatchScan) : FiniteMatchScan :=
  finiteMatchArmStepBy src (scalarMatchValue src) st

def prefixFiniteMatchBy (src : Source) (readValue : Nat → Bool → ExprParse) (arms : Nat) (st : ExprState)
    (matchToken : Token) (subject : Expr) (opener : Token) : ExprState :=
  let profiles := patternProfiles src
  let seed : FiniteMatchScan :=
    { ok := true, done := false, errStart := 0, errStop := 0, cursor := opener.stop, start := matchToken.start
      stop := opener.stop, profile013 := st.profile013, profile006 := profiles.profile006
      profile009 := profiles.profile009, arms := [] }
  let d := (finiteMatchArmStepBy src readValue)^[arms] seed
  if !d.ok || !d.done then exprFail st d.errStart d.errStop
  else
    let read := reverseFiniteMatchArms d.arms
    let node : Expr := .finiteMatch subject read matchToken.start (matchCloseStop src d.cursor)
    { st with
      ok := true, errStart := 0, errStop := 0, cursor := d.cursor, operands := node :: st.operands, done := false
      expectOperand := false, allowIndex := false, allowCast := true }

def prefixFiniteMatch (src : Source) (st : ExprState) (matchToken : Token) (subject : Expr) (opener : Token)
    : ExprState := prefixFiniteMatchBy src (scalarMatchValue src) 1024 st matchToken subject opener

def scalarMatchArmStepBy (src : Source) (readValue : Nat → Bool → ExprParse) (st : MatchScan) : MatchScan :=
  if !st.ok || st.done then st
  else
    let patternToken := src.token st.cursor
    if patternToken.diagnostic ≠ 0 then
      { st with ok := false, errStart := patternToken.start, errStop := patternToken.stop }
    else if patternToken.kind = 68 then { st with done := true, cursor := patternToken.stop, stop := patternToken.stop }
    else
      let pattern := scalarMatchPattern src patternToken
      if !pattern.ok then { st with ok := false, errStart := pattern.start, errStop := pattern.stop }
      else
        let arrow := src.token pattern.cursor
        if arrow.diagnostic ≠ 0 || arrow.kind ≠ 81 then
          { st with ok := false, errStart := arrow.start, errStop := arrow.stop }
        else
          let value := readValue arrow.stop st.profile013
          if !value.ok then { st with ok := false, errStart := value.errStart, errStop := value.errStop }
          else
            let delimiter := src.token value.cursor
            if delimiter.diagnostic ≠ 0 || delimiter.kind ≠ 64 && delimiter.kind ≠ 68 then
              { st with ok := false, errStart := delimiter.start, errStop := delimiter.stop }
            else
              let arm : ScalarMatchArm :=
                .mk pattern.isDefault pattern.negative pattern.value pattern.overflow pattern.start pattern.stop
                  value.node
              let nextCursor := if delimiter.kind = 64 then delimiter.stop else value.cursor
              { st with cursor := nextCursor, stop := delimiter.start, arms := arm :: st.arms }

def scalarMatchArmStep (src : Source) (st : MatchScan) : MatchScan :=
  scalarMatchArmStepBy src (scalarMatchValue src) st

def prefixScalarMatchBy (src : Source) (readValue : Nat → Bool → ExprParse) (arms : Nat) (st : ExprState)
    (matchToken : Token) (subject : Expr) (opener : Token) : ExprState :=
  let seed : MatchScan :=
    { ok := true, done := false, errStart := 0, errStop := 0, cursor := opener.stop, start := matchToken.start
      stop := opener.stop, profile013 := st.profile013, arms := [] }
  let d := (scalarMatchArmStepBy src readValue)^[arms] seed
  if !d.ok || !d.done then exprFail st d.errStart d.errStop
  else
    let read := reverseScalarMatchArms d.arms
    let node : Expr := .scalarMatch subject read matchToken.start (matchCloseStop src d.cursor)
    { st with
      ok := true, errStart := 0, errStop := 0, cursor := d.cursor, operands := node :: st.operands, done := false
      expectOperand := false, allowIndex := false, allowCast := true }

def prefixScalarMatch (src : Source) (st : ExprState) (matchToken : Token) (subject : Expr) (opener : Token)
    : ExprState := prefixScalarMatchBy src (scalarMatchValue src) 1024 st matchToken subject opener

def prefixMatchBy (src : Source) (readValue : Nat → Bool → ExprParse) (arms : Nat) (st : ExprState) (matchToken : Token)
    : ExprState :=
  let subject := parseExprBaseNoconstruct src matchToken.stop st.profile013
  if !subject.ok then exprFail st subject.errStart subject.errStop
  else
    let opener := src.token subject.cursor
    if opener.diagnostic ≠ 0 || opener.kind ≠ 67 then exprFail st opener.start opener.stop
    else
      let first := src.token opener.stop
      let afterBool := src.token first.stop
      if first.diagnostic ≠ 0 then exprFail st first.start first.stop
      else if (first.kind = 38 || first.kind = 39) && (afterBool.diagnostic = 0 && afterBool.kind = 61) then
        exprFail st afterBool.start afterBool.stop
      else if finitePatternStart src first then
        prefixFiniteMatchBy src readValue arms st matchToken subject.node opener
      else if !st.profile013 then exprFail st first.start first.stop
      else prefixScalarMatchBy src readValue arms st matchToken subject.node opener

def prefixMatch (src : Source) (st : ExprState) (matchToken : Token) : ExprState :=
  prefixMatchBy src (scalarMatchValue src) 1024 st matchToken

def exprStepBy (src : Source) (readValue : Nat → Bool → ExprParse) (arms : Nat) (st : ExprState) : ExprState :=
  if !st.ok || st.done then st
  else
    let tok := src.token st.cursor
    if st.expectOperand && tok.diagnostic = 0 && tok.kind = 30 then prefixMatchBy src readValue arms st tok
    else exprStepWithoutMatch src st tok

def exprStep (src : Source) (st : ExprState) : ExprState := exprStepBy src (scalarMatchValue src) 1024 st

def parseExpr (src : Source) (cursor : Nat) (profile013 : Bool) : ExprParse :=
  let seed : ExprState :=
    { ok := true, errStart := 0, errStop := 0, cursor := cursor, operands := [], operators := [], depth := 0
      done := false, expectOperand := true, profile013 := profile013, allowConstruct := true, allowIndex := true
      allowCast := true }
  let d0 := (exprStep src)^[64] seed
  if d0.done then finishExpr src d0
  else
    let d := (exprStep src)^[960] d0
    if d.done then finishExpr src d
    else
      let h := (exprStep src)^[1024] d
      if h.done then finishExpr src h
      else
        let fin := (exprStep src)^[32] h
        finishExpr src fin

end MncsCompiler.Decl
