import MncsCompiler.Lexer.Global

/-!
# `Lexer.Window` — the window lexer without pages

`windowToken text start` is the algorithm of `next_token_global` read off a flat text: the same windows, the
same budgets, no page coordinates. It is the middle level between the two lexers of the source:

* `Lexer.PageFree` shows that over any composition the global lexer computes `windowToken`;
* `Lexer.Reference` relates `windowToken` to the byte-at-a-time `nextToken`.
-/

namespace MncsCompiler

open BoundedLoop Composition

/-- `scanLineCommentWindow` on the window at the scan position. -/
def lineWindow (text : View) (st : Scan) : Scan :=
  let window := window4 text st.stop
  if window.b0 = 10 then { st with done := true }
  else if window.b0 ≥ 128 then commentScalar (utf8Scalar text st.stop) st
  else if st.stop + 1 ≥ text.length then { st with stop := st.stop + 1 }
  else if window.b1 = 10 then { st with stop := st.stop + 1, done := true }
  else if window.b1 ≥ 128 then { st with stop := st.stop + 1 }
  else if st.stop + 2 ≥ text.length then { st with stop := st.stop + 2 }
  else if window.b2 = 10 then { st with stop := st.stop + 2, done := true }
  else if window.b2 ≥ 128 then { st with stop := st.stop + 2 }
  else if st.stop + 3 ≥ text.length then { st with stop := st.stop + 3 }
  else if window.b3 = 10 then { st with stop := st.stop + 3, done := true }
  else if window.b3 ≥ 128 then { st with stop := st.stop + 3 }
  else { st with stop := st.stop + 3 + 1 }

/-- One pass of the line-comment loop. -/
def lineRound (text : View) (st : Scan) : Scan :=
  let advanced := lineWindow text st
  if advanced.ended text.length then advanced
  else if advanced.stop - st.stop == 4 then lineWindow text advanced
  else advanced

/-- The first window of one pass of the scan loop. -/
def windowAdvance (text : View) (c : ScanClass) (st : Scan) : Scan :=
  let window := window4 text st.stop
  if c.block && window.b0 ≥ 128 then commentScalar (utf8Scalar text st.stop) st
  else if (c.word || c.ws) && window.b0 ≥ 128 then
    let scalar := utf8Scalar text st.stop
    let accepted := scalar.valid &&
      ((c.word && identifierContinueScalar scalar.scalar) || (c.ws && isWhitespaceScalar scalar.scalar))
    runScalar accepted scalar st
  else if !c.word then scanChunkWindow text.length window st c
  else scanWordHead text.length window st

/-- One pass of the scan loop. -/
def scanRound (text : View) (c : ScanClass) (st : Scan) : Scan :=
  let advanced := windowAdvance text c st
  if c.word && !advanced.done && advanced.stop - st.stop == 4 && advanced.stop < text.length then
    scanWordTailWindow text.length (window4 text advanced.stop) advanced
  else advanced

/-- How many passes a class may take. -/
def scanBudget (c : ScanClass) : Nat := if c.word then 1024 else if c.ws then 2048 else 4096

/-- The token of a settled scan. -/
def settledToken (text : View) (start : Nat) (c : ScanClass) (st : Scan) : Token :=
  if st.scanError ≠ 0 then scanErrorToken st else scanToken text start c st

/-- The token of a scan cut by its budget. -/
def cutToken (start : Nat) (c : ScanClass) (st : Scan) : Token :=
  if c.word || !(c.ws || c.block || c.line) then
    { kind := 7, start := start, stop := st.stop, diagnostic := 5 }
  else
    { kind := if c.ws then 1 else if c.line then 2 else 3, start := start, stop := st.stop, diagnostic := 6 }

/-- The first state of a line-comment scan. -/
def lineSeed (start : Nat) : Scan :=
  { stop := start + 2, depth := 0, dotted := false, done := false, pageIndex := 0, pageIntra := 0,
    scanError := 0, errorStart := start + 2 }

/-- The first state of any other scan. -/
def scanSeed (start width : Nat) (c : ScanClass) : Scan :=
  { stop := start + width, depth := if c.block then 1 else 0, dotted := false, done := false,
    pageIndex := 0, pageIntra := 0, scanError := 0, errorStart := start }

/-- Where a budgeted scan of class `c` from `seed` ends up. -/
def budgetedScan (text : View) (c : ScanClass) (seed : Scan) : Scan :=
  if c.line then (settle (Scan.ended text.length) (lineRound text))^[1024] seed
  else (settle (Scan.ended text.length) (scanRound text c))^[scanBudget c] seed

/-- The token of a budgeted scan: clean if it settled, cut otherwise. -/
def budgetedToken (text : View) (start : Nat) (c : ScanClass) (seed : Scan) : Token :=
  let st := budgetedScan text c seed
  if st.ended text.length then settledToken text start c st else cutToken start c st

def windowToken (text : View) (start : Nat) : Token :=
  if start > text.length then invalidCursor text.length
  else if start = text.length then eofToken start
  else
    let a := byteAt text start
    let b := byteAt text (start + 1)
    let firstScalar : Utf8Scalar :=
      if a ≥ 128 then utf8Scalar text start else { scalar := a, next := start + 1, valid := true }
    let unicodeWordStart := a ≥ 128 && firstScalar.valid && identifierStartScalar firstScalar.scalar
    let unicodeWhitespace := a ≥ 128 && firstScalar.valid && isWhitespaceScalar firstScalar.scalar
    if a ≥ 128 && !(unicodeWordStart || unicodeWhitespace) then nonAsciiError start firstScalar
    else
      let c := startClassGlobal a b unicodeWordStart unicodeWhitespace
      if c.line then budgetedToken text start c (lineSeed start)
      else if c.block || c.word || c.number || c.ws then
        let width := if a ≥ 128 then firstScalar.next - start else if c.block then 2 else 1
        budgetedToken text start c (scanSeed start width c)
      else punctuationToken start a b

end MncsCompiler
