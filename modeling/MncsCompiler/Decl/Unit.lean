import MncsCompiler.Decl.Nest

/-!
# `Decl.Unit` — statements, signatures and whole units

The declaration parser of `decl.mncs` above expressions: blocks of statements, the signature and the clauses of a
function, records and enums, and the unit that `parse_unit` returns.
-/

namespace MncsCompiler.Decl

open BoundedLoop

/-! ## Names -/

structure EqState where
  aStart : Nat
  len : Nat
  bStart : Nat
  off : Nat
  eq : Bool

def spanEqStep (src : Source) (st : EqState) : EqState :=
  if st.off ≥ st.len then st
  else
    let same : Bool := src.byteAt (st.aStart + st.off) = src.byteAt (st.bStart + st.off)
    { st with off := st.off + 1, eq := st.eq && same }

def spansEqual (src : Source) (aStart aStop bStart bStop : Nat) : Bool :=
  if aStop < aStart || bStop < bStart then false
  else if aStop - aStart ≠ bStop - bStart then false
  else
    (iterate (fun _ (d : EqState) =>
          if !d.eq || d.off ≥ d.len then .ret d.eq
          else .next (spanEqStep src d))
        0 1024 { aStart := aStart, len := aStop - aStart, bStart := bStart, off := 0, eq := true }).after fun d =>
      d.eq

structure NameSpan where
  start : Nat
  stop : Nat

structure KnownState where
  rest : List NameSpan
  start : Nat
  stop : Nat
  found : Bool

def nameKnownStep (src : Source) (st : KnownState) : KnownState :=
  match st.rest with
  | [] => st
  | h :: t => { st with rest := t, found := st.found || spansEqual src h.start h.stop st.start st.stop }

def nameKnown (src : Source) (list : List NameSpan) (start stop : Nat) : Bool :=
  (iterate (fun _ (d : KnownState) =>
        if d.found || d.rest.isEmpty then .ret d.found
        else .next (nameKnownStep src d))
      0 1024 { rest := list, start := start, stop := stop, found := false }).after fun d =>
    d.found

/-! ## Statements

A block is read by a machine with a stack of open blocks: the branches of an `if` and the body of an `iterate`. Mode 1
reads a function body, which a `return` may end, and mode 0 one statement.
-/

def parseExprNoconstruct (src : Source) (cursor : Nat) (profile013 : Bool) : ExprParse :=
  let seed : ExprState :=
    { ok := true, errStart := 0, errStop := 0, cursor := cursor, operands := [], operators := [], depth := 0
      done := false, expectOperand := true, profile013 := profile013, allowConstruct := false, allowIndex := true
      allowCast := true }
  let d0 := (exprStep src)^[64] seed
  if d0.done then finishExpr src d0
  else
    let d := (exprStep src)^[960] d0
    if d.done then finishExpr src d
    else
      let h := (exprStep src)^[1024] d
      if h.done then finishExpr src h
      else
        let fin := (exprStep src)^[32] h
        finishExpr src fin

structure StmtParse where
  cursor : Nat
  ok : Bool
  errStart : Nat
  errStop : Nat
  node : Stmt

def parseLet (src : Source) (cursor : Nat) (profile013 : Bool) : StmtParse :=
  let bad : Stmt := .failStmt cursor cursor cursor cursor
  let name := parseName src cursor 1
  if !name.ok then { cursor := cursor, ok := false, errStart := name.errStart, errStop := name.errStop, node := bad }
  else
    let colon := expect src name.cursor 62
    if !colon.ok then
      { cursor := cursor, ok := false, errStart := colon.errStart, errStop := colon.errStop, node := bad }
    else
      let ftype := parseType src colon.cursor
      if !ftype.ok then
        { cursor := cursor, ok := false, errStart := ftype.errStart, errStop := ftype.errStop, node := bad }
      else
        let eq := expect src ftype.cursor 60
        if !eq.ok then { cursor := cursor, ok := false, errStart := eq.errStart, errStop := eq.errStop, node := bad }
        else
          let value := parseExpr src eq.cursor profile013
          if !value.ok then
            { cursor := cursor, ok := false, errStart := value.errStart, errStop := value.errStop, node := bad }
          else
            let semi := expect src value.cursor 63
            if !semi.ok then
              { cursor := cursor, ok := false, errStart := semi.errStart, errStop := semi.errStop, node := bad }
            else
              let node : Stmt :=
                .letStmt name.start name.stop ftype.node.start ftype.node.stop ftype.node.kind value.node name.start
                  value.stop
              { cursor := semi.cursor, ok := true, errStart := 0, errStop := 0, node := node }

def parseFailStmt (src : Source) (cursor : Nat) : StmtParse :=
  let bad : Stmt := .failStmt cursor cursor cursor cursor
  let mode := parseName src cursor 0
  if !mode.ok then { cursor := cursor, ok := false, errStart := mode.errStart, errStop := mode.errStop, node := bad }
  else
    let semi := expect src mode.cursor 63
    if !semi.ok then
      { cursor := cursor, ok := false, errStart := semi.errStart, errStop := semi.errStop, node := bad }
    else
      let node : Stmt := .failStmt mode.start mode.stop mode.start mode.stop
      { cursor := semi.cursor, ok := true, errStart := 0, errStop := 0, node := node }

def parseReturnStmt (src : Source) (cursor : Nat) (profile013 : Bool) : StmtParse :=
  let bad : Stmt := .failStmt cursor cursor cursor cursor
  let value := parseExpr src cursor profile013
  if !value.ok then
    { cursor := cursor, ok := false, errStart := value.errStart, errStop := value.errStop, node := bad }
  else
    let semi := expect src value.cursor 63
    if !semi.ok then
      { cursor := cursor, ok := false, errStart := semi.errStart, errStop := semi.errStop, node := bad }
    else
      let node : Stmt := .returnStmt value.node value.start value.stop
      { cursor := semi.cursor, ok := true, errStart := 0, errStop := 0, node := node }

def parseStmt (src : Source) (cursor : Nat) (profile013 : Bool) : StmtParse :=
  let bad : Stmt := .failStmt cursor cursor cursor cursor
  let token := src.token cursor
  if token.diagnostic ≠ 0 then
    { cursor := cursor, ok := false, errStart := token.start, errStop := token.stop, node := bad }
  else if token.kind = 14 then parseLet src token.stop profile013
  else if token.kind = 15 then
    { cursor := cursor, ok := false, errStart := token.start, errStop := token.stop, node := bad }
  else if token.kind = 17 then parseFailStmt src token.stop
  else if token.kind = 13 then parseReturnStmt src token.stop profile013
  else if token.kind = 31 then
    { cursor := cursor, ok := false, errStart := token.start, errStop := token.stop, node := bad }
  else if token.kind = 37 then
    { cursor := cursor, ok := false, errStart := token.start, errStop := token.stop, node := bad }
  else { cursor := cursor, ok := false, errStart := token.start, errStop := token.stop, node := bad }

structure IterHeader where
  ok : Bool
  errStart : Nat
  errStop : Nat
  cursor : Nat
  nameStart : Nat
  nameStop : Nat
  overSource : Expr
  hasOverSource : Bool
  boundStart : Nat
  boundStop : Nat
  stateStart : Nat
  stateStop : Nat
  typeStart : Nat
  typeStop : Nat
  typeKind : Nat
  initial : Expr

def iterHeaderFail (cursor start stop : Nat) : IterHeader :=
  { ok := false, errStart := start, errStop := stop, cursor := cursor, nameStart := start, nameStop := stop
    overSource := .name 0 0, hasOverSource := false, boundStart := 0, boundStop := 0, stateStart := start
    stateStop := stop, typeStart := start, typeStop := stop, typeKind := 9, initial := .name 0 0 }

def parseIterCarrying (src : Source) (cursor afterBound : Nat) (profile013 : Bool) (ns ne : Nat) (overSource : Expr)
    (hasOverSource : Bool) (bs be : Nat) : IterHeader :=
  let carry := expect src afterBound 33
  if !carry.ok then iterHeaderFail cursor carry.errStart carry.errStop
  else
    let state := parseName src carry.cursor 1
    if !state.ok then iterHeaderFail cursor state.errStart state.errStop
    else
      let colon := expect src state.cursor 62
      if !colon.ok then iterHeaderFail cursor colon.errStart colon.errStop
      else
        let ftype := parseType src colon.cursor
        if !ftype.ok then iterHeaderFail cursor ftype.errStart ftype.errStop
        else
          let eq := expect src ftype.cursor 60
          if !eq.ok then iterHeaderFail cursor eq.errStart eq.errStop
          else
            let initial := parseExpr src eq.cursor profile013
            if !initial.ok then iterHeaderFail cursor initial.errStart initial.errStop
            else
              let opener := expect src initial.cursor 67
              if !opener.ok then iterHeaderFail cursor opener.errStart opener.errStop
              else
                { ok := true, errStart := 0, errStop := 0, cursor := opener.cursor, nameStart := ns, nameStop := ne
                  overSource := overSource, hasOverSource := hasOverSource, boundStart := bs, boundStop := be
                  stateStart := state.start, stateStop := state.stop, typeStart := ftype.node.start
                  typeStop := ftype.node.stop, typeKind := ftype.node.kind, initial := initial.node }

def parseIterOver (src : Source) (cursor afterOver : Nat) (profile013 : Bool) (ns ne : Nat) : IterHeader :=
  let source := parseExpr src afterOver profile013
  if !source.ok then iterHeaderFail cursor source.errStart source.errStop
  else parseIterCarrying src cursor source.cursor profile013 ns ne source.node true 0 0

def parseIterBound (src : Source) (cursor afterUpto : Nat) (profile013 : Bool) (ns ne : Nat) : IterHeader :=
  let bound := src.token afterUpto
  if bound.diagnostic ≠ 0 || bound.kind ≠ 5 then iterHeaderFail cursor bound.start bound.stop
  else
    let dummy : Expr := .name 0 0
    parseIterCarrying src cursor bound.stop profile013 ns ne dummy false bound.start bound.stop

def parseIterHeader (src : Source) (cursor : Nat) (profile013 : Bool) : IterHeader :=
  let name := parseName src cursor 1
  if !name.ok then iterHeaderFail cursor name.errStart name.errStop
  else
    let tok := src.token name.cursor
    if tok.diagnostic ≠ 0 then iterHeaderFail cursor tok.start tok.stop
    else if tok.kind = 35 then parseIterOver src cursor tok.stop profile013 name.start name.stop
    else if tok.kind = 32 then parseIterBound src cursor tok.stop profile013 name.start name.stop
    else iterHeaderFail cursor tok.start tok.stop

inductive Frame where
  | ifStmt (cond : Expr) (condStart condStop : Nat) (thenList parent : List Stmt) (phase : Nat)
  | iter (nameStart nameStop : Nat) (overSource : Expr) (hasOverSource : Bool)
      (boundStart boundStop stateStart stateStop typeStart typeStop typeKind : Nat) (initial : Expr)
        (parent : List Stmt) (start : Nat)

structure BlockState where
  cursor : Nat
  ok : Bool
  errStart : Nat
  errStop : Nat
  list : List Stmt
  frames : List Frame
  done : Bool
  mode : Nat
  profile013 : Bool

def blockFail (st : BlockState) (start stop : Nat) : BlockState :=
  { st with ok := false, errStart := start, errStop := stop, done := true }

def blockEof (st : BlockState) (token : Token) : BlockState :=
  match st.frames with
  | [] => { st with ok := true, errStart := 0, errStop := 0, done := true }
  | _ :: _ => blockFail st token.start token.stop

def reverseStmts (list : List Stmt) : List Stmt := reverseWithin 1024 list

def blockAwaitElse (src : Source) (st : BlockState) (token : Token) (c : Expr) (cs ce : Nat) (tl p : List Stmt)
    (fl : List Frame) : BlockState :=
  if token.kind = 16 then
    let opener := expect src token.stop 67
    if !opener.ok then blockFail st opener.errStart opener.errStop
    else
      let cont : Frame := .ifStmt c cs ce tl p 2
      { st with
        cursor := opener.cursor, ok := true, errStart := 0, errStop := 0, list := [], frames := cont :: fl
        done := false }
  else
    let node : Stmt := .ifStmt c (reverseStmts tl) [] cs ce
    { st with ok := true, errStart := 0, errStop := 0, list := node :: p, frames := fl, done := false }

def blockElseClose (st : BlockState) (token : Token) (c : Expr) (cs ce : Nat) (tl p : List Stmt) (fl : List Frame)
    : BlockState :=
  let node : Stmt := .ifStmt c (reverseStmts tl) (reverseStmts st.list) cs ce
  { st with
    cursor := token.stop, ok := true, errStart := 0, errStop := 0, list := node :: p, frames := fl, done := false }

def blockIfClose (src : Source) (st : BlockState) (token : Token) (c : Expr) (cs ce : Nat) (tl p : List Stmt)
    (ph : Nat) (fl : List Frame) : BlockState :=
  if ph = 0 then
    let parked : Frame := .ifStmt c cs ce st.list p 1
    { st with
      cursor := token.stop, ok := true, errStart := 0, errStop := 0, list := [], frames := parked :: fl
      done := false }
  else if ph = 1 then blockAwaitElse src st token c cs ce tl p fl else blockElseClose st token c cs ce tl p fl

def blockFrameClose (src : Source) (st : BlockState) (token : Token) (fr : Frame) (fl : List Frame) : BlockState :=
  match fr with
  | .ifStmt c cs ce tl p ph => blockIfClose src st token c cs ce tl p ph fl
  | .iter _ _ _ _ _ _ _ _ _ _ _ _ _ _ => blockFail st token.start token.stop

def blockRbrace (src : Source) (st : BlockState) (token : Token) : BlockState :=
  match st.frames with
  | [] => { st with ok := true, errStart := 0, errStop := 0, done := true }
  | fr :: fl => blockFrameClose src st token fr fl

def blockIfOpen (src : Source) (st : BlockState) (token : Token) : BlockState :=
  let cond := parseExprNoconstruct src token.stop st.profile013
  if !cond.ok then blockFail st cond.errStart cond.errStop
  else
    let opener := expect src cond.cursor 67
    if !opener.ok then blockFail st opener.errStart opener.errStop
    else
      let frame : Frame := .ifStmt cond.node cond.start cond.stop [] st.list 0
      { st with
        cursor := opener.cursor, ok := true, errStart := 0, errStop := 0, list := [], frames := frame :: st.frames
        done := false }

def blockIfFrameIf (src : Source) (st : BlockState) (token : Token) (c : Expr) (cs ce : Nat) (tl p : List Stmt)
    (ph : Nat) (fl : List Frame) : BlockState :=
  if ph = 1 then
    let node : Stmt := .ifStmt c (reverseStmts tl) [] cs ce
    let popped : BlockState :=
      { st with ok := true, errStart := 0, errStop := 0, list := node :: p, frames := fl, done := false }
    blockIfOpen src popped token
  else blockIfOpen src st token

def blockIfFrame (src : Source) (st : BlockState) (token : Token) (fr : Frame) (fl : List Frame) : BlockState :=
  match fr with
  | .ifStmt c cs ce tl p ph => blockIfFrameIf src st token c cs ce tl p ph fl
  | .iter _ _ _ _ _ _ _ _ _ _ _ _ _ _ => blockIfOpen src st token

def blockIf (src : Source) (st : BlockState) (token : Token) : BlockState :=
  match st.frames with
  | [] => blockIfOpen src st token
  | fr :: fl => blockIfFrame src st token fr fl

def blockIterHeader (src : Source) (st : BlockState) (token : Token) : BlockState :=
  let header := parseIterHeader src token.stop st.profile013
  if !header.ok then blockFail st header.errStart header.errStop
  else
    let frame : Frame :=
      .iter header.nameStart header.nameStop header.overSource header.hasOverSource header.boundStart header.boundStop
        header.stateStart header.stateStop header.typeStart header.typeStop header.typeKind header.initial st.list
        token.start
    { st with
      cursor := header.cursor, ok := true, errStart := 0, errStop := 0, list := [], frames := frame :: st.frames
      done := false }

def blockIterFrameIf (src : Source) (st : BlockState) (token : Token) (c : Expr) (cs ce : Nat) (tl p : List Stmt)
    (ph : Nat) (fl : List Frame) : BlockState :=
  if ph = 1 then blockAwaitElse src st token c cs ce tl p fl else blockIterHeader src st token

def blockIterFrame (src : Source) (st : BlockState) (token : Token) (fr : Frame) (fl : List Frame) : BlockState :=
  match fr with
  | .ifStmt c cs ce tl p ph => blockIterFrameIf src st token c cs ce tl p ph fl
  | .iter _ _ _ _ _ _ _ _ _ _ _ _ _ _ => blockIterHeader src st token

def blockIterOpen (src : Source) (st : BlockState) (token : Token) : BlockState :=
  match st.frames with
  | [] => blockIterHeader src st token
  | fr :: fl => blockIterFrame src st token fr fl

def blockNextFrameIf (src : Source) (st : BlockState) (token : Token) (c : Expr) (cs ce : Nat) (tl p : List Stmt)
    (ph : Nat) (fl : List Frame) : BlockState :=
  if ph = 1 then blockAwaitElse src st token c cs ce tl p fl else blockFail st token.start token.stop

def blockNextClose (src : Source) (st : BlockState) (token : Token) (ns ne : Nat) (o : Expr) (ho : Bool)
    (bs be ss se ts te tk : Nat) (init : Expr) (p : List Stmt) (s : Nat) (fl : List Frame) : BlockState :=
  let nm := parseName src token.stop 1
  if !nm.ok then blockFail st nm.errStart nm.errStop
  else
    let eq := expect src nm.cursor 60
    if !eq.ok then blockFail st eq.errStart eq.errStop
    else
      let value := parseExpr src eq.cursor st.profile013
      if !value.ok then blockFail st value.errStart value.errStop
      else
        let semi := expect src value.cursor 63
        if !semi.ok then blockFail st semi.errStart semi.errStop
        else
          let close := expect src semi.cursor 68
          if !close.ok then blockFail st close.errStart close.errStop
          else
            let node : Stmt :=
              .iterateStmt ns ne o ho bs be ss se ts te tk init (reverseStmts st.list) nm.start nm.stop value.node s
                close.cursor
            { st with
              cursor := close.cursor, ok := true, errStart := 0, errStop := 0, list := node :: p, frames := fl
              done := false }

def blockNextFrame (src : Source) (st : BlockState) (token : Token) (fr : Frame) (fl : List Frame) : BlockState :=
  match fr with
  | .ifStmt c cs ce tl p ph => blockNextFrameIf src st token c cs ce tl p ph fl
  | .iter ns ne o ho bs be ss se ts te tk init p s =>
      blockNextClose src st token ns ne o ho bs be ss se ts te tk init p s fl

def blockNext (src : Source) (st : BlockState) (token : Token) : BlockState :=
  match st.frames with
  | [] => blockFail st token.start token.stop
  | fr :: fl => blockNextFrame src st token fr fl

def blockTopStmt (src : Source) (st : BlockState) : BlockState :=
  let stmt := parseStmt src st.cursor st.profile013
  if !stmt.ok then blockFail st stmt.errStart stmt.errStop
  else
    { st with
      cursor := stmt.cursor, ok := true, errStart := 0, errStop := 0, list := stmt.node :: st.list, done := false }

def blockFrameStmtIf (src : Source) (st : BlockState) (c : Expr) (cs ce : Nat) (tl p : List Stmt) (ph : Nat)
    (fl : List Frame) : BlockState :=
  if ph = 1 then
    let token := src.token st.cursor
    blockAwaitElse src st token c cs ce tl p fl
  else blockTopStmt src st

def blockFrameStmt (src : Source) (st : BlockState) (fr : Frame) (fl : List Frame) : BlockState :=
  match fr with
  | .ifStmt c cs ce tl p ph => blockFrameStmtIf src st c cs ce tl p ph fl
  | .iter _ _ _ _ _ _ _ _ _ _ _ _ _ _ => blockTopStmt src st

def blockPlainStmt (src : Source) (st : BlockState) (_token : Token) : BlockState :=
  match st.frames with
  | [] => blockTopStmt src st
  | fr :: fl => blockFrameStmt src st fr fl

def blockStep (src : Source) (st : BlockState) : BlockState :=
  if !st.ok || st.done then st
  else
    let token := src.token st.cursor
    if token.diagnostic ≠ 0 then blockFail st token.start token.stop
    else if token.kind = 0 then blockEof st token
    else if token.kind = 68 then blockRbrace src st token
    else if token.kind = 15 then blockIf src st token
    else if token.kind = 31 then blockIterOpen src st token
    else if token.kind = 34 then blockNext src st token
    else if st.mode = 1 && token.kind = 13 then
      match st.frames with
      | [] => { st with ok := true, errStart := 0, errStop := 0, done := true }
      | _ :: _ => blockPlainStmt src st token
    else blockPlainStmt src st token

structure BranchParse where
  cursor : Nat
  ok : Bool
  errStart : Nat
  errStop : Nat
  list : List Stmt

def finishBlock (st : BlockState) : BranchParse :=
  if !st.ok then { cursor := st.cursor, ok := false, errStart := st.errStart, errStop := st.errStop, list := [] }
  else if !st.done then { cursor := st.cursor, ok := false, errStart := st.cursor, errStop := st.cursor, list := [] }
  else
    match st.frames with
    | [] => { cursor := st.cursor, ok := true, errStart := 0, errStop := 0, list := reverseStmts st.list }
    | _ :: _ => { cursor := st.cursor, ok := false, errStart := st.cursor, errStop := st.cursor, list := [] }

def parseStmts (src : Source) (cursor mode : Nat) (profile013 : Bool) : BranchParse :=
  let d0 := (blockStep src)^[16]
    { cursor := cursor, ok := true, errStart := 0, errStop := 0, list := [], frames := [], done := false, mode := mode
      profile013 := profile013 }
  if d0.done || !d0.ok then finishBlock d0
  else
    let d := (blockStep src)^[1008] d0
    if d.done || !d.ok then finishBlock d
    else
      let h := (blockStep src)^[1024] d
      finishBlock h

def parseBranch (src : Source) (cursor : Nat) (profile013 : Bool) : BranchParse := parseStmts src cursor 0 profile013

/-! ## Signatures -/

structure FieldsParse where
  cursor : Nat
  ok : Bool
  errStart : Nat
  errStop : Nat
  list : List Field
  done : Bool

def fieldsStep (src : Source) (st : FieldsParse) (closer nameMode : Nat) (profile013 : Bool) : FieldsParse :=
  if !st.ok || st.done then st
  else
    let token := src.token st.cursor
    let nextField : Bool := nameMode = 2 && token.kind = 34 && profile013
    let acceptedName : Bool := token.kind = 4 || nameMode = 1 && token.kind = 25 || nextField
    if token.diagnostic ≠ 0 || token.kind = closer || !acceptedName then { st with done := true }
    else
      let name := parseNameToken st.cursor token nameMode
      if !name.ok then { st with ok := false, errStart := name.errStart, errStop := name.errStop, done := true }
      else
        let colon := expect src name.cursor 62
        if !colon.ok then { st with ok := false, errStart := colon.errStart, errStop := colon.errStop, done := true }
        else
          let ftype := parseType src colon.cursor
          if !ftype.ok then
            { st with ok := false, errStart := ftype.errStart, errStop := ftype.errStop, done := true }
          else
            let field : Field :=
              { nameStart := name.start, nameStop := name.stop, typeStart := ftype.node.start
                typeStop := ftype.node.stop
                typeKind := ftype.node.kind }
            let comma := src.token ftype.cursor
            if comma.diagnostic = 0 && comma.kind = 64 then
              { cursor := comma.stop, ok := true, errStart := 0, errStop := 0, list := field :: st.list
                done := false }
            else
              let missingSeparator : Bool :=
                comma.diagnostic = 0 && comma.kind ≠ closer &&
                  (comma.kind = 4 || nameMode = 1 && comma.kind = 25 || nameMode = 2 && comma.kind = 34 && profile013)
              if missingSeparator then
                { st with ok := false, errStart := comma.start, errStop := comma.stop, done := true }
              else
                { cursor := ftype.cursor, ok := true, errStart := 0, errStop := 0, list := field :: st.list
                  done := true }

def reverseFields (list : List Field) : List Field := reverseWithin 1024 list

def finishFields (st : FieldsParse) : FieldsParse := { st with list := reverseFields st.list }

def parseFields (src : Source) (cursor closer nameMode : Nat) (profile013 : Bool) : FieldsParse :=
  (iterate (fun _ (d0 : FieldsParse) =>
        let nextStep := fieldsStep src d0 closer nameMode profile013
        if nextStep.done || !nextStep.ok then .ret (finishFields nextStep)
        else .next nextStep)
      0 16 { cursor := cursor, ok := true, errStart := 0, errStop := 0, list := [], done := false }).after fun d0 =>
    if d0.done || !d0.ok then finishFields d0
    else
      let d := (fun d => fieldsStep src d closer nameMode profile013)^[1008] d0
      finishFields d

def reverseGenerics (list : List GenericParam) : List GenericParam := reverseWithin 1024 list

structure GenericsState where
  cursor : Nat
  ok : Bool
  errStart : Nat
  errStop : Nat
  list : List GenericParam
  seen : List NameSpan
  done : Bool

structure GenericsParse where
  cursor : Nat
  ok : Bool
  errStart : Nat
  errStop : Nat
  list : List GenericParam

def finishGenericsParse (d : GenericsState) : GenericsParse :=
  if !d.ok then { cursor := d.cursor, ok := false, errStart := d.errStart, errStop := d.errStop, list := [] }
  else if !d.done then { cursor := d.cursor, ok := false, errStart := d.cursor, errStop := d.cursor, list := [] }
  else { cursor := d.cursor, ok := true, errStart := 0, errStop := 0, list := reverseGenerics d.list }

def genericsAfter (src : Source) (st : GenericsState) (name : NameParse) (param : GenericParam) (cursor : Nat)
    : GenericsState :=
  let seen : List NameSpan := { start := name.start, stop := name.stop } :: st.seen
  let list : List GenericParam := param :: st.list
  let token := src.token cursor
  if token.diagnostic = 0 && token.kind = 64 then
    { cursor := token.stop, ok := true, errStart := 0, errStop := 0, list := list, seen := seen, done := false }
  else if token.diagnostic = 0 && token.kind = 59 then
    { cursor := token.stop, ok := true, errStart := 0, errStop := 0, list := list, seen := seen, done := true }
  else
    { cursor := cursor, ok := false, errStart := token.start, errStop := token.stop, list := list, seen := seen
      done := true }

def constraintIsTypeOrNat (src : Source) (start stop : Nat) : Bool :=
  if stop - start = 4 &&
         (src.byteAt start = 84 && src.byteAt (start + 1) = 121 && src.byteAt (start + 2) = 112 &&
             src.byteAt (start + 3) = 101) then
    true
  else if stop - start = 3 && (src.byteAt start = 78 && src.byteAt (start + 1) = 97 &&
      src.byteAt (start + 2) = 116) then
    true
  else false

def genericsConstraint (src : Source) (st : GenericsState) (name : NameParse) (cursor : Nat) : GenericsState :=
  let first := parseName src cursor 0
  if !first.ok then { st with ok := false, errStart := first.errStart, errStop := first.errStop, done := true }
  else
    let arrow := src.token first.cursor
    if arrow.diagnostic = 0 && arrow.kind = 80 then
      let second := parseName src arrow.stop 0
      if !second.ok then { st with ok := false, errStart := second.errStart, errStop := second.errStop, done := true }
      else
        genericsAfter src st name
          { nameStart := name.start, nameStop := name.stop, boundStart := first.start, boundStop := second.stop
            hasBound := true }
          second.cursor
    else if !constraintIsTypeOrNat src first.start first.stop then
      { st with ok := false, errStart := arrow.start, errStop := arrow.stop, done := true }
    else
      genericsAfter src st name
        { nameStart := name.start, nameStop := name.stop, boundStart := first.start, boundStop := first.stop
          hasBound := true }
        first.cursor

def genericsBound (src : Source) (st : GenericsState) (name : NameParse) : GenericsState :=
  let token := src.token name.cursor
  if token.diagnostic = 0 && token.kind = 62 then genericsConstraint src st name token.stop
  else
    genericsAfter src st name
      { nameStart := name.start, nameStop := name.stop, boundStart := 0, boundStop := 0, hasBound := false }
      name.cursor

def genericsStep (src : Source) (st : GenericsState) : GenericsState :=
  if !st.ok || st.done then st
  else
    let token := src.token st.cursor
    if token.diagnostic = 0 && token.kind = 59 then
      { st with cursor := token.stop, ok := true, errStart := 0, errStop := 0, done := true }
    else
      let name := parseNameToken st.cursor token 0
      if !name.ok then { st with ok := false, errStart := name.errStart, errStop := name.errStop, done := true }
      else if nameKnown src st.seen name.start name.stop then
        let after := src.token name.cursor
        { st with ok := false, errStart := after.start, errStop := after.stop, done := true }
      else genericsBound src st name

def parseGenericParams (src : Source) (cursor : Nat) : GenericsParse :=
  let opener := expect src cursor 58
  if !opener.ok then
    { cursor := cursor, ok := false, errStart := opener.errStart, errStop := opener.errStop, list := [] }
  else
    (iterate (fun _ (d : GenericsState) =>
          if d.done then .ret (finishGenericsParse d)
          else .next (genericsStep src d))
        0 1024
        { cursor := opener.cursor, ok := true, errStart := 0, errStop := 0, list := [], seen := []
          done := false }).after fun d =>
      finishGenericsParse d

def parseFnGenerics (src : Source) (cursor : Nat) (peek : Token) : GenericsParse :=
  if peek.diagnostic ≠ 0 || peek.kind ≠ 58 then
    { cursor := cursor, ok := true, errStart := 0, errStop := 0, list := [] }
  else if !genericsProfileOk src then
    { cursor := cursor, ok := false, errStart := peek.start, errStop := peek.stop, list := [] }
  else parseGenericParams src cursor

structure ClausesState where
  cursor : Nat
  ok : Bool
  errStart : Nat
  errStop : Nat
  contracts : List Clause
  effects : List Effect
  capabilities : List Cap
  done : Bool

def clauseCapability (src : Source) (st : ClausesState) (token : Token) : ClausesState :=
  let name := parseName src token.stop 0
  if !name.ok then { st with ok := false, errStart := name.errStart, errStop := name.errStop, done := true }
  else
    let cap : Cap := { start := name.start, stop := name.stop }
    { st with
      cursor := name.cursor, ok := true, errStart := 0, errStop := 0, capabilities := cap :: st.capabilities
      done := false }

def clauseEffect (src : Source) (st : ClausesState) (token : Token) : ClausesState :=
  let bad : ClausesState := { st with ok := false, errStart := token.start, errStop := token.stop, done := true }
  let kind := parseName src token.stop 0
  if !kind.ok then
    { st with cursor := bad.cursor, ok := false, errStart := kind.errStart, errStop := kind.errStop, done := true }
  else
    let auth := expect src kind.cursor 26
    if !auth.ok then
      { st with cursor := bad.cursor, ok := false, errStart := auth.errStart, errStop := auth.errStop, done := true }
    else
      let cap := parseName src auth.cursor 0
      if !cap.ok then
        { st with cursor := bad.cursor, ok := false, errStart := cap.errStart, errStop := cap.errStop, done := true }
      else
        let eff : Effect :=
          { kindStart := kind.start, kindStop := kind.stop, capStart := cap.start, capStop := cap.stop }
        { st with
          cursor := cap.cursor, ok := true, errStart := 0, errStop := 0, effects := eff :: st.effects, done := false }

def clauseContract (src : Source) (st : ClausesState) (token : Token) : ClausesState :=
  let name := parseName src token.stop 0
  if !name.ok then { st with ok := false, errStart := name.errStart, errStop := name.errStop, done := true }
  else
    let clause : Clause :=
      { kindStart := token.start, kindStop := token.stop, nameStart := name.start, nameStop := name.stop }
    { st with
      cursor := name.cursor, ok := true, errStart := 0, errStop := 0, contracts := clause :: st.contracts
      done := false }

def clausesStep (src : Source) (st : ClausesState) : ClausesState :=
  if !st.ok || st.done then st
  else
    let token := src.token st.cursor
    if token.diagnostic ≠ 0 then { st with ok := true, errStart := 0, errStop := 0, done := true }
    else if token.kind = 25 then clauseCapability src st token
    else if token.kind = 24 then clauseEffect src st token
    else if token.kind = 18 || token.kind = 19 || token.kind = 20 || token.kind = 21 || token.kind = 22 ||
           token.kind = 23 then clauseContract src st token
    else { st with ok := true, errStart := 0, errStop := 0, done := true }

def reverseClauses (list : List Clause) : List Clause := reverseWithin 1024 list

def reverseEffects (list : List Effect) : List Effect := reverseWithin 1024 list

def reverseCaps (list : List Cap) : List Cap := reverseWithin 1024 list

structure ClausesParse where
  cursor : Nat
  ok : Bool
  errStart : Nat
  errStop : Nat
  contracts : List Clause
  effects : List Effect
  capabilities : List Cap

def finishClauses (st : ClausesState) : ClausesParse :=
  if !st.ok then
    { cursor := st.cursor, ok := false, errStart := st.errStart, errStop := st.errStop, contracts := [], effects := []
      capabilities := [] }
  else
    { cursor := st.cursor, ok := true, errStart := 0, errStop := 0, contracts := reverseClauses st.contracts
      effects := reverseEffects st.effects, capabilities := reverseCaps st.capabilities }

def parseClauses (src : Source) (cursor : Nat) : ClausesParse :=
  let d0 := (clausesStep src)^[16]
    { cursor := cursor, ok := true, errStart := 0, errStop := 0, contracts := [], effects := [], capabilities := []
      done := false }
  if d0.done || !d0.ok then finishClauses d0
  else
    let d := (clausesStep src)^[1008] d0
    finishClauses d

/-! ## Records, enums and functions -/

def parseRecord (src : Source) (cursor start : Nat) (profile013 : Bool) : RecordDecl :=
  let bad : RecordDecl :=
    { ok := false, errStart := cursor, errStop := cursor, nameStart := cursor, nameStop := cursor, fields := []
      declStart := start, declStop := cursor, cursor := cursor }
  let name := parseName src cursor 0
  if !name.ok then { bad with errStart := name.errStart, errStop := name.errStop }
  else
    let opener := expect src name.cursor 67
    if !opener.ok then
      { bad with
        nameStart := name.start, nameStop := name.stop, errStart := opener.errStart, errStop := opener.errStop }
    else
      let fields := parseFields src opener.cursor 68 2 profile013
      if !fields.ok then
        { bad with
          nameStart := name.start, nameStop := name.stop, errStart := fields.errStart, errStop := fields.errStop }
      else if fields.cursor = opener.cursor then
        let emptyClose := expect src opener.cursor 68
        if !emptyClose.ok then
          { bad with
            nameStart := name.start, nameStop := name.stop, errStart := emptyClose.errStart
            errStop := emptyClose.errStop }
        else
          let at' := src.token emptyClose.cursor
          { bad with nameStart := name.start, nameStop := name.stop, errStart := at'.start, errStop := at'.stop }
      else
        let close := expect src fields.cursor 68
        if !close.ok then
          { bad with
            nameStart := name.start, nameStop := name.stop, errStart := close.errStart, errStop := close.errStop }
        else
          { ok := true, errStart := 0, errStop := 0, nameStart := name.start, nameStop := name.stop
            fields := fields.list
            declStart := start, declStop := close.cursor, cursor := close.cursor }

def parseVariantPayload (src : Source) (cursor : Nat) (profile013 : Bool) : FieldsParse :=
  let token := src.token cursor
  if token.diagnostic ≠ 0 || token.kind ≠ 67 then
    { cursor := cursor, ok := true, errStart := 0, errStop := 0, list := [], done := true }
  else
    let fields := parseFields src token.stop 68 2 profile013
    if !fields.ok then fields
    else
      let close := expect src fields.cursor 68
      if !close.ok then
        { cursor := cursor, ok := false, errStart := close.errStart, errStop := close.errStop, list := []
          done := true }
      else { cursor := close.cursor, ok := true, errStart := 0, errStop := 0, list := fields.list, done := true }

structure VariantsState where
  cursor : Nat
  ok : Bool
  errStart : Nat
  errStop : Nat
  list : List Variant
  done : Bool

def variantsStep (src : Source) (st : VariantsState) (profile013 : Bool) : VariantsState :=
  if !st.ok || st.done then st
  else
    let token := src.token st.cursor
    if token.diagnostic ≠ 0 || token.kind ≠ 4 then { st with ok := true, errStart := 0, errStop := 0, done := true }
    else
      let name := parseNameToken st.cursor token 0
      if !name.ok then { st with ok := false, errStart := name.errStart, errStop := name.errStop, done := true }
      else
        let payload := parseVariantPayload src name.cursor profile013
        if !payload.ok then
          { st with ok := false, errStart := payload.errStart, errStop := payload.errStop, done := true }
        else
          let variant : Variant := { nameStart := name.start, nameStop := name.stop, fields := payload.list }
          let comma := src.token payload.cursor
          if comma.diagnostic = 0 && comma.kind = 64 then
            { cursor := comma.stop, ok := true, errStart := 0, errStop := 0, list := variant :: st.list
              done := false }
          else
            { cursor := payload.cursor, ok := true, errStart := 0, errStop := 0, list := variant :: st.list
              done := comma.diagnostic ≠ 0 || comma.kind ≠ 4 }

structure VariantsParse where
  cursor : Nat
  ok : Bool
  errStart : Nat
  errStop : Nat
  list : List Variant

def finishVariantsEmpty (src : Source) (st : VariantsState) : VariantsParse :=
  let emptyClose := expect src st.cursor 68
  if !emptyClose.ok then
    { cursor := st.cursor, ok := false, errStart := emptyClose.errStart, errStop := emptyClose.errStop, list := [] }
  else
    let at' := src.token emptyClose.cursor
    { cursor := st.cursor, ok := false, errStart := at'.start, errStop := at'.stop, list := [] }

def reverseVariants (list : List Variant) : List Variant := reverseWithin 1024 list

def finishVariants (src : Source) (st : VariantsState) : VariantsParse :=
  if !st.ok then { cursor := st.cursor, ok := false, errStart := st.errStart, errStop := st.errStop, list := [] }
  else
    match st.list with
    | [] => finishVariantsEmpty src st
    | _ :: _ => { cursor := st.cursor, ok := true, errStart := 0, errStop := 0, list := reverseVariants st.list }

def parseVariants (src : Source) (cursor : Nat) (profile013 : Bool) : VariantsParse :=
  (iterate (fun _ (d0 : VariantsState) =>
        let nextStep := variantsStep src d0 profile013
        if nextStep.done || !nextStep.ok then .ret (finishVariants src nextStep)
        else .next nextStep)
      0 64 { cursor := cursor, ok := true, errStart := 0, errStop := 0, list := [], done := false }).after fun d0 =>
    if d0.done then finishVariants src d0
    else
      let d := (fun d => variantsStep src d profile013)^[960] d0
      finishVariants src d

def parseEnum (src : Source) (cursor start : Nat) (profile013 : Bool) : EnumDecl :=
  let bad : EnumDecl :=
    { ok := false, errStart := cursor, errStop := cursor, nameStart := cursor, nameStop := cursor, variants := []
      declStart := start, declStop := cursor, cursor := cursor }
  let name := parseName src cursor 0
  if !name.ok then { bad with errStart := name.errStart, errStop := name.errStop }
  else
    let opener := expect src name.cursor 67
    if !opener.ok then
      { bad with
        nameStart := name.start, nameStop := name.stop, errStart := opener.errStart, errStop := opener.errStop }
    else
      let variants := parseVariants src opener.cursor profile013
      if !variants.ok then
        { bad with
          nameStart := name.start, nameStop := name.stop, errStart := variants.errStart, errStop := variants.errStop }
      else
        let close := expect src variants.cursor 68
        if !close.ok then
          { bad with
            nameStart := name.start, nameStop := name.stop, errStart := close.errStart, errStop := close.errStop }
        else
          { ok := true, errStart := 0, errStop := 0, nameStart := name.start, nameStop := name.stop
            variants := variants.list
            declStart := start, declStop := close.cursor, cursor := close.cursor }

structure ReturnParse where
  cursor : Nat
  ok : Bool
  errStart : Nat
  errStop : Nat
  node : Expr

def parseReturnTail (src : Source) (cursor : Nat) (profile013 : Bool) : ReturnParse :=
  let bad : Expr := .name cursor cursor
  let token := src.token cursor
  if token.diagnostic ≠ 0 || token.kind ≠ 13 then
    { cursor := cursor, ok := false, errStart := token.start, errStop := token.stop, node := bad }
  else
    let value := parseExpr src token.stop profile013
    if !value.ok then
      { cursor := cursor, ok := false, errStart := value.errStart, errStop := value.errStop, node := bad }
    else
      let semi := expect src value.cursor 63
      if !semi.ok then
        { cursor := cursor, ok := false, errStart := semi.errStart, errStop := semi.errStop, node := bad }
      else { cursor := semi.cursor, ok := true, errStart := 0, errStop := 0, node := value.node }

def parseFn (src : Source) (cursor start : Nat) (profile013 retainBody : Bool) : FnDecl :=
  let bad : FnDecl :=
    { ok := false, errStart := cursor, errStop := cursor
      sig :=
        { nameStart := cursor, nameStop := cursor, generics := [], params := [], results := [], contracts := []
          effects := []
          capabilities := [] }
      body := { body := [], ret := .name cursor cursor, hasRet := false }, fnStart := start, fnStop := cursor
      cursor := cursor }
  let name := parseName src cursor 1
  if !name.ok then { bad with errStart := name.errStart, errStop := name.errStop }
  else
    let peek := src.token name.cursor
    let generics := parseFnGenerics src name.cursor peek
    if !generics.ok then { bad with errStart := generics.errStart, errStop := generics.errStop }
    else
      let opener := expect src generics.cursor 65
      if !opener.ok then { bad with errStart := opener.errStart, errStop := opener.errStop }
      else
        let params := parseFields src opener.cursor 66 1 profile013
        if !params.ok then { bad with errStart := params.errStart, errStop := params.errStop }
        else
          let close := expect src params.cursor 66
          if !close.ok then { bad with errStart := close.errStart, errStop := close.errStop }
          else
            let arrow := expect src close.cursor 80
            if !arrow.ok then { bad with errStart := arrow.errStart, errStop := arrow.errStop }
            else
              let open2 := expect src arrow.cursor 65
              if !open2.ok then { bad with errStart := open2.errStart, errStop := open2.errStop }
              else
                let results := parseFields src open2.cursor 66 1 profile013
                if !results.ok then { bad with errStart := results.errStart, errStop := results.errStop }
                else
                  let close2 := expect src results.cursor 66
                  if !close2.ok then { bad with errStart := close2.errStart, errStop := close2.errStop }
                  else
                    let clauses := parseClauses src close2.cursor
                    if !clauses.ok then { bad with errStart := clauses.errStart, errStop := clauses.errStop }
                    else
                      let open3 := expect src clauses.cursor 67
                      if !open3.ok then { bad with errStart := open3.errStart, errStop := open3.errStop }
                      else
                        let body := parseStmts src open3.cursor 1 profile013
                        if !body.ok then { bad with errStart := body.errStart, errStop := body.errStop }
                        else
                          let tail := parseReturnTail src body.cursor profile013
                          if !tail.ok then { bad with errStart := tail.errStart, errStop := tail.errStop }
                          else
                            let close3 := expect src tail.cursor 68
                            if !close3.ok then { bad with errStart := close3.errStart, errStop := close3.errStop }
                            else
                              let sig : FnSig :=
                                { nameStart := name.start, nameStop := name.stop, generics := generics.list
                                  params := params.list
                                  results := results.list, contracts := clauses.contracts, effects := clauses.effects
                                  capabilities := clauses.capabilities }
                              let fnbody : FnBody := { body := body.list, ret := tail.node, hasRet := true }
                              if !retainBody then
                                let emptyBody : FnBody := { body := [], ret := .name cursor cursor, hasRet := false }
                                { ok := true, errStart := 0, errStop := 0, sig := sig, body := emptyBody
                                  fnStart := start, fnStop := close3.cursor
                                  cursor := close3.cursor }
                              else
                                { ok := true, errStart := 0, errStop := 0, sig := sig, body := fnbody
                                  fnStart := start, fnStop := close3.cursor
                                  cursor := close3.cursor }

/-! ## Units -/

def reverseUses (list : List UseDecl) : List UseDecl := reverseBatches 1024 1024 list

structure UseDecl where
  ok : Bool
  errStart : Nat
  errStop : Nat
  moduleStart : Nat
  moduleStop : Nat
  aliasStart : Nat
  aliasStop : Nat
  hasAlias : Bool
  cursor : Nat

structure UsesState where
  cursor : Nat
  ok : Bool
  errStart : Nat
  errStop : Nat
  list : List UseDecl
  done : Bool

structure UsesParse where
  cursor : Nat
  ok : Bool
  errStart : Nat
  errStop : Nat
  list : List UseDecl

def finishUses (st : UsesState) : UsesParse :=
  if !st.ok then { cursor := st.cursor, ok := false, errStart := st.errStart, errStop := st.errStop, list := [] }
  else { cursor := st.cursor, ok := true, errStart := 0, errStop := 0, list := reverseUses st.list }

def parseModulePath (src : Source) (cursor : Nat) : NameParse :=
  let first := src.token cursor
  if first.diagnostic ≠ 0 || first.kind ≠ 4 && first.kind ≠ 10 then
    { cursor := cursor, ok := false, errStart := first.start, errStop := first.stop, start := cursor, stop := cursor }
  else
    (iterate (fun _ (d : NameParse) =>
          let separator := src.token d.cursor
          if separator.diagnostic ≠ 0 || separator.kind ≠ 61 then .ret d
          else
            let seg := src.token separator.stop
            if seg.diagnostic ≠ 0 || seg.kind ≠ 4 && seg.kind ≠ 10 then
              .ret { d with ok := false, errStart := seg.start, errStop := seg.stop }
            else
              .next { cursor := seg.stop, ok := true, errStart := 0, errStop := 0, start := d.start
                      stop := seg.stop })
        0 1024
        { cursor := first.stop, ok := true, errStart := 0, errStop := 0, start := first.start
          stop := first.stop }).after fun d =>
      d

def parseUseAlias (src : Source) (cursor : Nat) : NameParse :=
  let token := src.token cursor
  if token.diagnostic ≠ 0 || token.kind ≠ 36 then
    { cursor := cursor, ok := true, errStart := 0, errStop := 0, start := cursor, stop := cursor }
  else parseName src token.stop 0

def parseUse (src : Source) (cursor : Nat) : UseDecl :=
  let bad : UseDecl :=
    { ok := false, errStart := cursor, errStop := cursor, moduleStart := cursor, moduleStop := cursor, aliasStart := 0
      aliasStop := 0, hasAlias := false, cursor := cursor }
  let path := parseModulePath src cursor
  if !path.ok then { bad with errStart := path.errStart, errStop := path.errStop }
  else
    let aliasName := parseUseAlias src path.cursor
    if !aliasName.ok then
      { bad with
        moduleStart := path.start, moduleStop := path.stop, errStart := aliasName.errStart
        errStop := aliasName.errStop }
    else
      let semi := expect src aliasName.cursor 63
      if !semi.ok then
        { bad with
          moduleStart := path.start, moduleStop := path.stop, errStart := semi.errStart, errStop := semi.errStop }
      else
        { ok := true, errStart := 0, errStop := 0, moduleStart := path.start, moduleStop := path.stop
          aliasStart := aliasName.start, aliasStop := aliasName.stop, hasAlias := aliasName.start ≠ aliasName.stop
          cursor := semi.cursor }

def usesStep (src : Source) (st : UsesState) : UsesState :=
  if !st.ok || st.done then st
  else
    let token := src.token st.cursor
    if token.diagnostic ≠ 0 || token.kind ≠ 28 then { st with ok := true, errStart := 0, errStop := 0, done := true }
    else
      let decl := parseUse src token.stop
      if !decl.ok then { st with ok := false, errStart := decl.errStart, errStop := decl.errStop, done := true }
      else { cursor := decl.cursor, ok := true, errStart := 0, errStop := 0, list := decl :: st.list, done := false }

def parseUses (src : Source) (cursor : Nat) : UsesParse :=
  (iterate (fun _ (outer : UsesState) =>
        (iterate (fun _ (inner : UsesState) =>
              if inner.done || !inner.ok then .ret (finishUses inner)
              else .next (usesStep src inner))
            0 1024 outer).bind fun inner =>
          if inner.done || !inner.ok then .ret (finishUses inner)
          else .next inner)
      0 1024 { cursor := cursor, ok := true, errStart := 0, errStop := 0, list := []
               done := false }).after fun outer =>
    finishUses outer

def profileAtLeast013 (src : Source) (start stop : Nat) : Bool := profileAtLeastMinor src start stop 13

def reverseRecords (list : List RecordDecl) : List RecordDecl := reverseBatches 1024 1024 list

def reverseEnums (list : List EnumDecl) : List EnumDecl := reverseBatches 1024 1024 list

def reverseFns (list : List FnDecl) : List FnDecl := reverseBatches 1024 1024 list

structure UnitState where
  cursor : Nat
  ok : Bool
  errStart : Nat
  errStop : Nat
  uses : List UseDecl
  records : List RecordDecl
  enums : List EnumDecl
  fns : List FnDecl
  count : Nat
  done : Bool
  profile013 : Bool
  retainBodies : Bool

structure Unit where
  ok : Bool
  errStart : Nat
  errStop : Nat
  header : Parser.Header
  uses : List UseDecl
  records : List RecordDecl
  enums : List EnumDecl
  fns : List FnDecl
  cursor : Nat

def finishUnit (src : Source) (head : Parser.Header) (st : UnitState) : Unit :=
  if !st.ok then
    { ok := false, errStart := st.errStart, errStop := st.errStop, header := head, uses := [], records := []
      enums := []
      fns := [], cursor := st.cursor }
  else
    let tail := src.token st.cursor
    if tail.diagnostic ≠ 0 then
      { ok := false, errStart := tail.start, errStop := tail.stop, header := head, uses := [], records := []
        enums := []
        fns := [], cursor := st.cursor }
    else if tail.kind ≠ 0 then
      { ok := false, errStart := tail.start, errStop := tail.stop, header := head, uses := [], records := []
        enums := []
        fns := [], cursor := st.cursor }
    else if st.count = 0 then
      { ok := false, errStart := tail.start, errStop := tail.stop, header := head, uses := [], records := []
        enums := []
        fns := [], cursor := st.cursor }
    else
      { ok := true, errStart := 0, errStop := 0, header := head, uses := st.uses, records := reverseRecords st.records
        enums := reverseEnums st.enums, fns := reverseFns st.fns, cursor := st.cursor }

def unitEnum (src : Source) (st : UnitState) (token : Token) : UnitState :=
  let decl := parseEnum src token.stop token.start st.profile013
  if !decl.ok then { st with ok := false, errStart := decl.errStart, errStop := decl.errStop, done := true }
  else
    { st with
      cursor := decl.cursor, ok := true, errStart := 0, errStop := 0, enums := decl :: st.enums, count := st.count + 1
      done := false }

def unitRecord (src : Source) (st : UnitState) (token : Token) : UnitState :=
  let decl := parseRecord src token.stop token.start st.profile013
  if !decl.ok then { st with ok := false, errStart := decl.errStart, errStop := decl.errStop, done := true }
  else
    { st with
      cursor := decl.cursor, ok := true, errStart := 0, errStop := 0, records := decl :: st.records
      count := st.count + 1, done := false }

def unitFn (src : Source) (st : UnitState) (token : Token) : UnitState :=
  let decl := parseFn src token.stop token.start st.profile013 st.retainBodies
  if !decl.ok then { st with ok := false, errStart := decl.errStart, errStop := decl.errStop, done := true }
  else
    { st with
      cursor := decl.cursor, ok := true, errStart := 0, errStop := 0, fns := decl :: st.fns, count := st.count + 1
      done := false }

def unitStep (src : Source) (st : UnitState) : UnitState :=
  if !st.ok || st.done then st
  else
    let token := src.token st.cursor
    if token.diagnostic ≠ 0 || token.kind = 0 then { st with ok := true, errStart := 0, errStop := 0, done := true }
    else if token.kind = 27 then unitEnum src st token
    else if token.kind = 29 then unitRecord src st token
    else if token.kind = 12 then unitFn src st token
    else { st with ok := false, errStart := token.start, errStop := token.stop, done := true }

def parseUnitMode (src : Source) (retainBodies : Bool) : Unit :=
  let empty : Parser.Header :=
    { code := 0, start := 0, stop := 0, versionStart := 0, versionStop := 0, moduleStart := 0, moduleStop := 0
      nextOffset := 0, state := 0 }
  let bad : Unit :=
    { ok := false, errStart := 0, errStop := 0, header := empty, uses := [], records := [], enums := [], fns := []
      cursor := 0 }
  if validatePages src.pages src.stride src.total ≠ 0 then bad
  else
    let head := header src
    if head.code ≠ 0 then
      { bad with header := head, errStart := head.start, errStop := head.stop, cursor := head.nextOffset }
    else
      let uses := parseUses src head.nextOffset
      if !uses.ok then
        { bad with header := head, errStart := uses.errStart, errStop := uses.errStop, cursor := uses.cursor }
      else
        let profile013 := profileAtLeast013 src head.versionStart head.versionStop
        (iterate (fun _ (outer : UnitState) =>
              (iterate (fun _ (inner : UnitState) =>
                    if inner.done || !inner.ok then .ret (finishUnit src head inner)
                    else .next (unitStep src inner))
                  0 1024 outer).bind fun inner =>
                if inner.done || !inner.ok then .ret (finishUnit src head inner)
                else .next inner)
            0 1024
            { cursor := uses.cursor, ok := true, errStart := 0, errStop := 0, uses := uses.list, records := []
              enums := []
              fns := [], count := 0, done := false, profile013 := profile013
              retainBodies := retainBodies }).after fun outer =>
          finishUnit src head outer

def parseUnit (src : Source) : Unit := parseUnitMode src true

/-- What a provider is parsed with: the same syntax, but function bodies are dropped once they are parsed. -/
def parseUnitSignatures (src : Source) : Unit := parseUnitMode src false

end MncsCompiler.Decl
