import MncsCompiler.Decl.Syntax
import MncsCompiler.Lib.Sweep
import MncsCompiler.Parser.Header

/-!
# `Decl.Tokens` — tokens, profiles, names and types

The leaves of the declaration parser of `decl.mncs`: one expected token, a name, a type reference, the type
arguments of a call, and the profile that the version of the header selects. Every parse keeps the span of the
token that it refused.
-/

namespace MncsCompiler.Decl

open BoundedLoop

/-! ## The source -/

/-- A page composition: the arguments `pages`, `stride` and `total` of every function of the parser. -/
structure Source where
  pages : List View
  stride : Nat
  total : Nat

def Source.token (src : Source) (cursor : Nat) : Token := significantGlobal src.pages src.stride src.total cursor

def Source.byteAt (src : Source) (offset : Nat) : Nat := byteAtGlobal src.pages src.stride src.total offset

def Source.intValue (src : Source) (start stop : Nat) : IntVal := Decl.intValue src.pages src.stride src.total start stop

/-- The bytes from `a` on are `word`. -/
def Source.spells (src : Source) (a : Nat) : List Nat → Bool
  | [] => true
  | b :: rest => src.byteAt a = b && src.spells (a + 1) rest

/-! ## Header and profiles -/

def headerStep (src : Source) (st : Parser.Header) : Parser.Header := Parser.stepGlobal src.pages src.stride src.total st

def headerFinish (src : Source) (st : Parser.Header) : Parser.Header := if st.ended then st else headerStep src st

def header (src : Source) : Parser.Header :=
  (iterate (fun _ d => if d.ended then .ret d else .next (headerStep src d)) 0 1024 Parser.seed).after
    (headerFinish src)

def profileAtLeastMinor (src : Source) (start stop target : Nat) : Bool :=
  if stop ≤ start || stop > src.total then false
  else
    let majorFirst := src.byteAt start
    if majorFirst > 48 then true
    else if majorFirst ≠ 48 || stop - start < 3 then false
    else if src.byteAt (start + 1) ≠ 46 then false
    else
      let minor := src.intValue (start + 2) stop
      !minor.overflow && minor.value ≥ target

def profileAtLeast006 (src : Source) (start stop : Nat) : Bool := profileAtLeastMinor src start stop 6

def profileAtLeast009 (src : Source) (start stop : Nat) : Bool := profileAtLeastMinor src start stop 9

structure PatternProfiles where
  profile006 : Bool
  profile009 : Bool
  deriving DecidableEq, Repr

def patternProfiles (src : Source) : PatternProfiles :=
  let head := header src
  { profile006 := profileAtLeast006 src head.versionStart head.versionStop
    profile009 := profileAtLeast009 src head.versionStart head.versionStop }

def genericsProfileOk (src : Source) : Bool :=
  let tok := src.token 5
  if tok.diagnostic ≠ 0 || tok.kind ≠ 6 then false
  else
    let majorFirst := src.byteAt tok.start
    if majorFirst > 48 then true
    else if majorFirst ≠ 48 || tok.stop - tok.start < 3 then false
    else if src.byteAt (tok.start + 1) ≠ 46 then false
    else
      let minor := src.intValue (tok.start + 2) tok.stop
      !minor.overflow && minor.value ≥ 10

/-! ## Expected tokens and names -/

structure Expect where
  cursor : Nat
  ok : Bool
  errStart : Nat
  errStop : Nat
  tokStart : Nat
  tokStop : Nat
  deriving DecidableEq, Repr

def expect (src : Source) (cursor want : Nat) : Expect :=
  let token := src.token cursor
  if token.diagnostic ≠ 0 then
    { cursor := cursor, ok := false, errStart := token.start, errStop := token.stop, tokStart := token.start
      tokStop := token.stop }
  else if token.kind = want then
    { cursor := token.stop, ok := true, errStart := 0, errStop := 0, tokStart := token.start, tokStop := token.stop }
  else
    { cursor := cursor, ok := false, errStart := token.start, errStop := token.stop, tokStart := token.start
      tokStop := token.stop }

structure NameParse where
  cursor : Nat
  ok : Bool
  errStart : Nat
  errStop : Nat
  start : Nat
  stop : Nat
  deriving DecidableEq, Repr

def parseNameToken (cursor : Nat) (token : Token) (mode : Nat) : NameParse :=
  if token.diagnostic ≠ 0 then
    { cursor := cursor, ok := false, errStart := token.start, errStop := token.stop, start := token.start
      stop := token.stop }
  else if token.kind = 4 || mode = 1 && token.kind = 25 || mode = 2 && token.kind = 34 then
    { cursor := token.stop, ok := true, errStart := 0, errStop := 0, start := token.start, stop := token.stop }
  else
    { cursor := cursor, ok := false, errStart := token.start, errStop := token.stop, start := token.start
      stop := token.stop }

def parseName (src : Source) (cursor mode : Nat) : NameParse :=
  let token := src.token cursor
  parseNameToken cursor token mode

/-! ## Types -/

/-- Kinds: 1 `u64`, 2 `i64`, 3 `bool`, 4 `byte`, 5 a name, 6 a qualified name, 7 an exact and 8 a viewed sequence. -/
structure TypeRef where
  kind : Nat
  start : Nat
  stop : Nat
  deriving DecidableEq, Repr

structure TypeParse where
  cursor : Nat
  ok : Bool
  errStart : Nat
  errStop : Nat
  node : TypeRef
  done : Bool
  deriving DecidableEq, Repr

def scalarKind (src : Source) (start stop : Nat) : Nat :=
  let width := stop - start
  if width = 3 || width = 4 then
    let window := byteWindow4Global src.pages src.stride src.total start
    if width = 3 && window.b0 = 117 && window.b1 = 54 && window.b2 = 52 then 1
    else if width = 3 && window.b0 = 105 && window.b1 = 54 && window.b2 = 52 then 2
    else if width = 4 && window.b0 = 98 && window.b1 = 111 && window.b2 = 111 && window.b3 = 108 then 3
    else if width = 4 && window.b0 = 98 && window.b1 = 121 && window.b2 = 116 && window.b3 = 101 then 4
    else 5
  else 5

def qualifiedStep (src : Source) (st : TypeParse) : TypeParse :=
  if !st.ok || st.done then st
  else
    let token := src.token st.cursor
    if token.diagnostic ≠ 0 || token.kind ≠ 61 then { st with done := true }
    else
      let name := parseName src token.stop 0
      if !name.ok then { st with ok := false, errStart := name.errStart, errStop := name.errStop, done := true }
      else
        { cursor := name.cursor, ok := true, errStart := 0, errStop := 0
          node := { kind := 6, start := st.node.start, stop := name.stop }, done := false }

def finishNamedType (src : Source) (start : Nat) (st : TypeParse) : TypeParse :=
  if !st.ok then { st with ok := false, node := { kind := 0, start := start, stop := start }, done := true }
  else if st.node.kind = 6 then
    { cursor := st.cursor, ok := true, errStart := 0, errStop := 0
      node := { kind := 6, start := start, stop := st.node.stop }, done := true }
  else
    let kind := scalarKind src start st.node.stop
    { cursor := st.cursor, ok := true, errStart := 0, errStop := 0
      node := { kind := kind, start := start, stop := st.node.stop }, done := true }

def parseFlatType (src : Source) (start cursor : Nat) : TypeParse :=
  (iterate (fun _ d0 =>
        let nextStep := qualifiedStep src d0
        if nextStep.done || !nextStep.ok then .ret (finishNamedType src start nextStep)
        else .next nextStep)
      0 16
      { cursor := cursor, ok := true, errStart := 0, errStop := 0, node := { kind := 0, start := start, stop := cursor }
        done := false }).after fun d0 =>
    if d0.done || !d0.ok then finishNamedType src start d0
    else
      let d := (qualifiedStep src)^[1008] d0
      finishNamedType src start d

/-- A viewed bound begins with `up_to` and a space. The source reads the first four bytes from one page where they
    all stand on it. -/
def isUpToBound (src : Source) (start stop : Nat) : Bool :=
  let page := start / src.stride
  let intra := start % src.stride
  let view := src.pages.getD page []
  if stop - start < 6 then false
  else if src.stride > 0 && start < src.total && page < src.pages.length && intra < view.length &&
      src.total - start ≥ 4 && src.stride - intra ≥ 4 && view.length - intra ≥ 4 then
    view.getD intra 0 = 117 && view.getD (intra + 1) 0 = 112 && view.getD (intra + 2) 0 = 95 &&
      view.getD (intra + 3) 0 = 116 && src.byteAt (start + 4) = 111 && space (src.byteAt (start + 5))
  else src.spells start [117, 112, 95, 116, 111] && space (src.byteAt (start + 5))

def seqBound (src : Source) (cursor : Nat) : NameParse :=
  let token := src.token cursor
  if token.diagnostic ≠ 0 then
    { cursor := cursor, ok := false, errStart := token.start, errStop := token.stop, start := token.start
      stop := token.stop }
  else if token.kind = 32 then
    let cap := src.token token.stop
    if cap.diagnostic ≠ 0 then
      { cursor := cursor, ok := false, errStart := cap.start, errStop := cap.stop, start := cap.start, stop := cap.stop }
    else if cap.kind = 5 || cap.kind = 4 then
      { cursor := cap.stop, ok := true, errStart := 0, errStop := 0, start := token.start, stop := cap.stop }
    else
      { cursor := cursor, ok := false, errStart := cap.start, errStop := cap.stop, start := cap.start, stop := cap.stop }
  else if token.kind = 5 || token.kind = 4 then
    { cursor := token.stop, ok := true, errStart := 0, errStop := 0, start := token.start, stop := token.stop }
  else
    { cursor := cursor, ok := false, errStart := token.start, errStop := token.stop, start := token.start
      stop := token.stop }

def parseSeqNested (src : Source) (bracket cursor : Nat) : TypeParse :=
  let bad : TypeRef := { kind := 0, start := cursor, stop := cursor }
  let first := src.token cursor
  if first.diagnostic = 0 && first.kind = 69 then
    { cursor := cursor, ok := false, errStart := first.start, errStop := first.stop, node := bad, done := true }
  else if first.diagnostic ≠ 0 || first.kind ≠ 4 then
    { cursor := cursor, ok := false, errStart := first.start, errStop := first.stop, node := bad, done := true }
  else
    let elem := parseFlatType src first.start first.stop
    if !elem.ok then { elem with cursor := cursor, ok := false, node := bad, done := true }
    else
      let semi := expect src elem.cursor 63
      if !semi.ok then
        { cursor := cursor, ok := false, errStart := semi.errStart, errStop := semi.errStop, node := bad, done := true }
      else
        let bound := seqBound src semi.cursor
        if !bound.ok then
          { cursor := cursor, ok := false, errStart := bound.errStart, errStop := bound.errStop, node := bad, done := true }
        else
          let close := expect src bound.cursor 70
          if !close.ok then
            { cursor := cursor, ok := false, errStart := close.errStart, errStop := close.errStop, node := bad, done := true }
          else
            let viewed := isUpToBound src bound.start bound.stop
            { cursor := close.cursor, ok := true, errStart := 0, errStop := 0
              node := { kind := if viewed then 8 else 7, start := bracket, stop := close.cursor }, done := true }

def parseSeqElem (src : Source) (cursor : Nat) : TypeParse :=
  let token := src.token cursor
  if token.diagnostic = 0 && token.kind = 69 then parseSeqNested src token.start token.stop
  else if token.diagnostic = 0 && token.kind = 4 then parseFlatType src token.start token.stop
  else if token.diagnostic ≠ 0 then
    { cursor := cursor, ok := false, errStart := token.start, errStop := token.stop
      node := { kind := 0, start := cursor, stop := cursor }, done := true }
  else
    { cursor := cursor, ok := false, errStart := token.start, errStop := token.stop
      node := { kind := 0, start := cursor, stop := cursor }, done := true }

def parseSeqType (src : Source) (bracket cursor : Nat) : TypeParse :=
  let bad : TypeRef := { kind := 0, start := cursor, stop := cursor }
  let elem := parseSeqElem src cursor
  if !elem.ok then { elem with cursor := cursor, ok := false, node := bad, done := true }
  else
    let semi := expect src elem.cursor 63
    if !semi.ok then
      { cursor := cursor, ok := false, errStart := semi.errStart, errStop := semi.errStop, node := bad, done := true }
    else
      let bound := seqBound src semi.cursor
      if !bound.ok then
        { cursor := cursor, ok := false, errStart := bound.errStart, errStop := bound.errStop, node := bad, done := true }
      else
        let close := expect src bound.cursor 70
        if !close.ok then
          { cursor := cursor, ok := false, errStart := close.errStart, errStop := close.errStop, node := bad, done := true }
        else
          let viewed := isUpToBound src bound.start bound.stop
          { cursor := close.cursor, ok := true, errStart := 0, errStop := 0
            node := { kind := if viewed then 8 else 7, start := bracket, stop := close.cursor }, done := true }

def parseType (src : Source) (cursor : Nat) : TypeParse :=
  let token := src.token cursor
  if token.diagnostic ≠ 0 then
    { cursor := cursor, ok := false, errStart := token.start, errStop := token.stop
      node := { kind := 0, start := cursor, stop := cursor }, done := true }
  else if token.kind = 69 then parseSeqType src token.start token.stop
  else if token.kind = 4 then parseFlatType src token.start token.stop
  else
    { cursor := cursor, ok := false, errStart := token.start, errStop := token.stop
      node := { kind := 0, start := cursor, stop := cursor }, done := true }

/-! ## Type arguments -/

structure LtScan where
  cursor : Nat
  depth : Nat
  square : Nat
  steps : Nat
  found : Bool
  done : Bool
  deriving DecidableEq, Repr

def genericBracketClose (src : Source) (st : LtScan) (token : Token) : LtScan :=
  let after := src.token token.stop
  if after.diagnostic = 0 && after.kind = 65 then { st with found := true, done := true }
  else { st with found := false, done := true }

def genericBracketStep (src : Source) (st : LtScan) : LtScan :=
  if st.done then st
  else
    let token := src.token st.cursor
    if token.diagnostic ≠ 0 || token.kind = 0 then { st with found := false, done := true }
    else if token.kind = 58 then
      { cursor := token.stop, depth := st.depth + 1, square := st.square, steps := st.steps + 1, found := false
        done := false }
    else if token.kind = 69 then
      { cursor := token.stop, depth := st.depth, square := st.square + 1, steps := st.steps + 1, found := false
        done := false }
    else if token.kind = 70 then
      let square := if st.square = 0 then 0 else st.square - 1
      { cursor := token.stop, depth := st.depth, square := square, steps := st.steps + 1, found := false, done := false }
    else if token.kind = 59 then
      if st.depth = 1 then genericBracketClose src st token
      else
        { cursor := token.stop, depth := st.depth - 1, square := st.square, steps := st.steps + 1, found := false
          done := false }
    else if token.kind = 89 then
      if st.depth ≤ 2 then genericBracketClose src st token
      else
        { cursor := token.stop, depth := st.depth - 2, square := st.square, steps := st.steps + 1, found := false
          done := false }
    else if st.depth = 1 && st.square = 0 && (token.kind = 67 || token.kind = 68 || token.kind = 63) then
      { st with found := false, done := true }
    else { st with cursor := token.stop, steps := st.steps + 1, found := false, done := false }

def genericBracketScan (src : Source) (cursor : Nat) : Bool :=
  let d := (genericBracketStep src)^[32]
    { cursor := cursor, depth := 1, square := 0, steps := 0, found := false, done := false }
  d.found

structure TArgsParse where
  cursor : Nat
  ok : Bool
  errStart : Nat
  errStop : Nat
  list : List TypeArg
  deriving DecidableEq, Repr

structure TArgsState where
  cursor : Nat
  ok : Bool
  errStart : Nat
  errStop : Nat
  list : List TypeArg
  done : Bool
  deriving DecidableEq, Repr

def typeArgsAfter (src : Source) (st : TArgsState) (arg : TypeArg) (cursor : Nat) : TArgsState :=
  let list : List TypeArg := arg :: st.list
  let token := src.token cursor
  if token.diagnostic = 0 && token.kind = 64 then
    { cursor := token.stop, ok := true, errStart := 0, errStop := 0, list := list, done := false }
  else if token.diagnostic = 0 && token.kind = 59 then
    { cursor := token.stop, ok := true, errStart := 0, errStop := 0, list := list, done := true }
  else { cursor := cursor, ok := false, errStart := token.start, errStop := token.stop, list := list, done := true }

def typeArgsStep (src : Source) (st : TArgsState) : TArgsState :=
  if !st.ok || st.done then st
  else
    let token := src.token st.cursor
    if token.diagnostic = 0 && token.kind = 59 then
      { cursor := token.stop, ok := true, errStart := 0, errStop := 0, list := st.list, done := true }
    else if token.diagnostic = 0 && (token.kind = 58 || token.kind = 89) then
      { st with ok := false, errStart := token.start, errStop := token.stop, done := true }
    else if token.diagnostic = 0 && token.kind = 5 then
      typeArgsAfter src st { start := token.start, stop := token.stop, kind := 10 } token.stop
    else
      let parsed := parseType src st.cursor
      if !parsed.ok then { st with ok := false, errStart := parsed.errStart, errStop := parsed.errStop, done := true }
      else
        typeArgsAfter src st { start := parsed.node.start, stop := parsed.node.stop, kind := parsed.node.kind }
          parsed.cursor

def reverseTargs (list : List TypeArg) : List TypeArg := reverseWithin 1024 list

def parseTypeArgs (src : Source) (cursor : Nat) : TArgsParse :=
  let opener := expect src cursor 58
  if !opener.ok then
    { cursor := cursor, ok := false, errStart := opener.errStart, errStop := opener.errStop, list := [] }
  else
    let d := (typeArgsStep src)^[1024]
      { cursor := opener.cursor, ok := true, errStart := 0, errStop := 0, list := [], done := false }
    if !d.ok then { cursor := d.cursor, ok := false, errStart := d.errStart, errStop := d.errStop, list := [] }
    else if !d.done then { cursor := d.cursor, ok := false, errStart := d.cursor, errStop := d.cursor, list := [] }
    else { cursor := d.cursor, ok := true, errStart := 0, errStop := 0, list := reverseTargs d.list }

end MncsCompiler.Decl
