import MncsCompiler.Lexer.Token

/-!
# `Lexer.Flat` — the one-view lexer

`next_token`, `scan_step` and `significant` of `lexer.mncs`. This lexer steps one byte (or one scalar) at a
time and has no scan budget: its loop runs over the rest of the view. On a view of any length it is the
reference the global lexer is compared with.
-/

namespace MncsCompiler

open BoundedLoop

/-- One step of a scan. Once `done`, or at the end of the view, it changes nothing. -/
def scanStep (text : View) (c : ScanClass) (st : Scan) : Scan :=
  if st.ended text.length then st
  else
    let a := byteAt text st.stop
    if c.block then
      if a ≥ 128 then commentScalar (utf8Scalar text st.stop) st
      else
        let b := byteAt text (st.stop + 1)
        if a == 47 && b == 42 then { st with stop := st.stop + 2, depth := st.depth + 1 }
        else if a == 42 && b == 47 then
          { st with stop := st.stop + 2, depth := st.depth - 1, done := st.depth == 1 }
        else { st with stop := st.stop + 1 }
    else if c.line then
      if a ≥ 128 then commentScalar (utf8Scalar text st.stop) st
      else
        let advance := a != 10
        { st with stop := st.stop + (if advance then 1 else 0), done := !advance }
    else if c.word then
      if a ≥ 128 then
        let scalar := utf8Scalar text st.stop
        runScalar (scalar.valid && identifierContinueScalar scalar.scalar) scalar st
      else
        let advance := wordChar a
        { st with stop := st.stop + (if advance then 1 else 0), done := !advance }
    else if c.ws then
      if a ≥ 128 then
        let scalar := utf8Scalar text st.stop
        runScalar (scalar.valid && isWhitespaceScalar scalar.scalar) scalar st
      else
        let advance := space a
        { st with stop := st.stop + (if advance then 1 else 0), done := !advance }
    -- Dots continue freely after the first version dot.
    else if c.number then
      let b := byteAt text (st.stop + 1)
      let dot := a == 46 && (st.dotted || digit b)
      let advance := digit a || dot
      { st with stop := st.stop + (if advance then 1 else 0), dotted := st.dotted || dot, done := !advance }
    else { st with done := true }

/-- The clean token of a finished scan. -/
def scanToken (text : View) (start : Nat) (c : ScanClass) (st : Scan) : Token :=
  { kind :=
      if c.ws then 1 else if c.line then 2 else if c.block then 3
      else if c.word then keyword text start st.stop
      else if st.dotted then 6 else 5
    start := start, stop := st.stop
    diagnostic := if c.block && st.depth > 0 then 1 else 0 }

/-- The scan loop of `next_token`, over the rest of the view. -/
def scanLoop (text : View) (start : Nat) (c : ScanClass) (seed : Scan) : Token :=
  (iterate (fun _ st =>
      let advanced := scanStep text c st
      if advanced.scanError ≠ 0 then .ret (scanErrorToken advanced)
      else if advanced.ended text.length then .ret (scanToken text start c advanced)
      else .next advanced) 0 (text.length - start) seed).after fun st =>
    if st.scanError ≠ 0 then scanErrorToken st else scanToken text start c st

/-- The starting classes, letters tested by case folding. -/
def startClass (a b : Nat) (unicodeWordStart unicodeWhitespace : Bool) : ScanClass :=
  let foldedA := a ||| 32
  { line := a == 47 && b == 47
    block := a == 47 && b == 42
    word := (97 ≤ foldedA && foldedA ≤ 122) || a == 95 || unicodeWordStart
    number := 48 ≤ a && a ≤ 57
    ws := a == 32 || (9 ≤ a && a ≤ 13) || unicodeWhitespace }

def nextToken (text : View) (start : Nat) : Token :=
  if start > text.length then invalidCursor text.length
  else if start = text.length then eofToken start
  else
    let a := byteAt text start
    let b := byteAt text (start + 1)
    let firstScalar : Utf8Scalar :=
      if a ≥ 128 then utf8Scalar text start else { scalar := a, next := start + 1, valid := true }
    let unicodeWordStart := a ≥ 128 && firstScalar.valid && identifierStartScalar firstScalar.scalar
    let unicodeWhitespace := a ≥ 128 && firstScalar.valid && isWhitespaceScalar firstScalar.scalar
    if a ≥ 128 && !(unicodeWordStart || unicodeWhitespace) then nonAsciiError start firstScalar
    else
      let c := startClass a b unicodeWordStart unicodeWhitespace
      if c.line || c.block || c.word || c.number || c.ws then
        let initialWidth :=
          if a ≥ 128 then firstScalar.next - start else if c.line || c.block then 2 else 1
        scanLoop text start c
          { stop := start + initialWidth, depth := if c.block then 1 else 0, dotted := false, done := false,
            pageIndex := 0, pageIntra := 0, scanError := 0, errorStart := start }
      else punctuationToken start a b

/-! ## Significant tokens -/

/-- White space or a comment, cleanly ended. -/
def isTrivia (token : Token) : Bool := 1 ≤ token.kind && token.kind ≤ 3 && token.diagnostic == 0

def skipTrivia (text : View) (token : Token) : Token :=
  if isTrivia token then nextToken text token.stop else token

/-- The first token from `start` that is not clean trivia. -/
def significant (text : View) (start : Nat) : Token :=
  let first := nextToken text start
  if !isTrivia first then first
  else
    let second := skipTrivia text first
    if !isTrivia second then second
    else
      (iterate (fun _ token =>
          if !isTrivia token then .ret token else .next (skipTrivia text token))
        0 (text.length - second.start) second).after id

end MncsCompiler
