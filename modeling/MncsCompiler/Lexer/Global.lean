import MncsCompiler.Lexer.Flat

/-!
# `Lexer.Global` — the logical-source lexer

The same token rules over global offsets into a page composition: an unrolled window scanner with
incrementally maintained page coordinates and per-class iteration budgets. Where `next_token_global` and
`scan_line_comment_global` inline the same window selection and the same coordinate update, the model names
them once (`scanWindow`, `tailWindow`, `nextScan`).
-/

namespace MncsCompiler

open BoundedLoop

def keywordGlobal (pages : List View) (stride total start stop : Nat) : Nat :=
  let length := stop - start
  let spelled := keywordKind keywordGlobalTable (spelling (byteAtGlobal pages stride total) start length)
  if stride > 0 && start < stop && stop ≤ total then
    let address := globalPageAddress stride total start
    if address.page < pages.length then
      let page := pages.getD address.page []
      if address.intra < stride && address.intra < page.length then
        if length ≤ stride - address.intra && length ≤ page.length - address.intra then
          keyword page address.intra (address.intra + length)
        else spelled
      else spelled
    else spelled
  else spelled

/-- The word token of a finished scan, classified from the initial page when the word stays in it. -/
def tokenFromWordScanGlobal (pages : List View) (stride total start : Nat) (st : Scan) (initialPage : View)
    (initialPageIntra : Nat) : Token :=
  let length := st.stop - start
  if length > 0 && initialPageIntra < stride && initialPageIntra < initialPage.length &&
      (length ≤ stride - initialPageIntra && length ≤ initialPage.length - initialPageIntra) then
    { kind := keyword initialPage initialPageIntra (initialPageIntra + length), start := start, stop := st.stop,
      diagnostic := 0 }
  else { kind := keywordGlobal pages stride total start st.stop, start := start, stop := st.stop, diagnostic := 0 }

def tokenFromNonwordScan (start : Nat) (st : Scan) (line block ws : Bool) : Token :=
  if st.scanError ≠ 0 then scanErrorToken st
  else
    let diagnostic := if block && st.depth > 0 then 1 else 0
    if ws then { kind := 1, start := start, stop := st.stop, diagnostic := diagnostic }
    else if line then { kind := 2, start := start, stop := st.stop, diagnostic := diagnostic }
    else if block then { kind := 3, start := start, stop := st.stop, diagnostic := diagnostic }
    else { kind := if st.dotted then 6 else 5, start := start, stop := st.stop, diagnostic := diagnostic }

/-! ## Window scanners -/

/-- One block-comment transition on the adjacent bytes `a`, `b`. -/
def blockMove (a b : Nat) (st : Scan) : Scan :=
  let opens := a == 47 && b == 42
  let closes := a == 42 && b == 47
  let moved := { st with
    stop := st.stop + (if opens || closes then 2 else 1)
    depth := st.depth + (if opens then 1 else 0) - (if closes then 1 else 0) }
  if closes && st.depth == 1 then { moved with done := true } else moved

/-- Up to two block-comment transitions inside one window. -/
def scanBlockWindow (total : Nat) (window : ByteWindow4) (st : Scan) : Scan :=
  let a0 := window.b0
  let b0 := window.b1
  if b0 ≥ 128 then { st with stop := st.stop + 1 }
  else
    let open0 := a0 == 47 && b0 == 42
    let close0 := a0 == 42 && b0 == 47
    let first := blockMove a0 b0 st
    if close0 && st.depth == 1 then first
    else if first.stop ≥ total then first
    else
      let a1 := if open0 || close0 then window.b2 else b0
      let b1 := if open0 || close0 then window.b3 else window.b2
      if a1 ≥ 128 then first else blockMove a1 b1 first

/-- Up to four line-comment bytes, with no UTF-8 check. -/
def scanLineWindow (total : Nat) (window : ByteWindow4) (st : Scan) : Scan :=
  if window.b0 = 10 then { st with done := true }
  else if st.stop + 1 ≥ total then { st with stop := st.stop + 1 }
  else if window.b1 = 10 then { st with stop := st.stop + 1, done := true }
  else if st.stop + 2 ≥ total then { st with stop := st.stop + 2 }
  else if window.b2 = 10 then { st with stop := st.stop + 2, done := true }
  else if st.stop + 3 ≥ total then { st with stop := st.stop + 3 }
  else if window.b3 = 10 then { st with stop := st.stop + 3, done := true }
  else { st with stop := st.stop + 3 + 1 }

/-- Up to four bytes of a run of `accept`ed bytes, stopping before a non-ASCII lead byte. -/
def scanRunWindow (accept : Nat → Bool) (total : Nat) (window : ByteWindow4) (st : Scan) : Scan :=
  if !accept window.b0 then { st with done := true }
  else if st.stop + 1 ≥ total then { st with stop := st.stop + 1 }
  else if window.b1 ≥ 128 then { st with stop := st.stop + 1 }
  else if !accept window.b1 then { st with stop := st.stop + 1, done := true }
  else if st.stop + 2 ≥ total then { st with stop := st.stop + 2 }
  else if window.b2 ≥ 128 then { st with stop := st.stop + 2 }
  else if !accept window.b2 then { st with stop := st.stop + 2, done := true }
  else if st.stop + 3 ≥ total then { st with stop := st.stop + 3 }
  else if window.b3 ≥ 128 then { st with stop := st.stop + 3 }
  else if !accept window.b3 then { st with stop := st.stop + 3, done := true }
  else { st with stop := st.stop + 3 + 1 }

/-- Up to two bytes of a number. -/
def scanNumberWindow (total : Nat) (window : ByteWindow4) (st : Scan) : Scan :=
  let a0 := window.b0
  let b0 := window.b1
  let dot0 := a0 == 46 && (st.dotted || digit b0)
  let advance0 := digit a0 || dot0
  if !advance0 then { st with done := true }
  else
    let end1 := st.stop + 1
    let dotted1 := st.dotted || dot0
    if end1 ≥ total then { st with stop := end1, dotted := dotted1 }
    else
      let a1 := b0
      let b1 := window.b2
      let dot1 := a1 == 46 && (dotted1 || digit b1)
      let advance1 := digit a1 || dot1
      if !advance1 then { st with stop := end1, dotted := dotted1, done := true }
      else { st with stop := end1 + 1, dotted := dotted1 || dot1 }

def scanChunkWindow (total : Nat) (window : ByteWindow4) (st : Scan) (c : ScanClass) : Scan :=
  if c.block then scanBlockWindow total window st
  else if c.line then scanLineWindow total window st
  else if c.word then scanRunWindow wordChar total window st
  else if c.ws then scanRunWindow space total window st
  else if c.number then scanNumberWindow total window st
  else { st with done := true }

/-- The second window of a word whose four-byte head was identifier text. -/
def scanWordTailWindow (total : Nat) (window : ByteWindow4) (st : Scan) : Scan :=
  if window.b0 ≥ 128 then st else scanRunWindow wordChar total window st

/-- The word head inlined in `next_token_global`, arm for arm. -/
def scanWordHead (total : Nat) (window : ByteWindow4) (inner : Scan) : Scan :=
  if !wordChar window.b0 then { inner with done := true }
  else if inner.stop + 1 ≥ total then { inner with stop := inner.stop + 1 }
  else if !wordChar window.b1 then
    if window.b1 ≥ 128 then { inner with stop := inner.stop + 1 }
    else { inner with stop := inner.stop + 1, done := true }
  else if inner.stop + 2 ≥ total then { inner with stop := inner.stop + 2 }
  else if !wordChar window.b2 then
    if window.b2 ≥ 128 then { inner with stop := inner.stop + 2 }
    else { inner with stop := inner.stop + 2, done := true }
  else if inner.stop + 3 ≥ total then { inner with stop := inner.stop + 3 }
  else if !wordChar window.b3 then
    if window.b3 ≥ 128 then { inner with stop := inner.stop + 3 }
    else { inner with stop := inner.stop + 3, done := true }
  else { inner with stop := inner.stop + 4 }

/-- Up to four ASCII bytes of a line comment, or one whole UTF-8 scalar. -/
def scanLineCommentWindow (pages : List View) (stride total : Nat) (st : Scan) (window : ByteWindow4) : Scan :=
  if window.b0 = 10 then { st with done := true }
  else if window.b0 ≥ 128 then commentScalar (utf8ScalarGlobal pages stride total st.stop) st
  else if st.stop + 1 ≥ total then { st with stop := st.stop + 1 }
  else if window.b1 = 10 then { st with stop := st.stop + 1, done := true }
  else if window.b1 ≥ 128 then { st with stop := st.stop + 1 }
  else if st.stop + 2 ≥ total then { st with stop := st.stop + 2 }
  else if window.b2 = 10 then { st with stop := st.stop + 2, done := true }
  else if window.b2 ≥ 128 then { st with stop := st.stop + 2 }
  else if st.stop + 3 ≥ total then { st with stop := st.stop + 3 }
  else if window.b3 = 10 then { st with stop := st.stop + 3, done := true }
  else if window.b3 ≥ 128 then { st with stop := st.stop + 3 }
  else { st with stop := st.stop + 3 + 1 }

def scanUnicodeScalarGlobal (pages : List View) (stride total : Nat) (st : Scan) (word ws : Bool) : Scan :=
  let scalar := utf8ScalarGlobal pages stride total st.stop
  let accepted := scalar.valid &&
    ((word && identifierContinueScalar scalar.scalar) || (ws && isWhitespaceScalar scalar.scalar))
  runScalar accepted scalar st

def scanBlockCommentScalarGlobal (pages : List View) (stride total : Nat) (st : Scan) : Scan :=
  commentScalar (utf8ScalarGlobal pages stride total st.stop) st

/-! ## Page coordinates -/

/-- The window at a scan position: from the current page when four bytes are left there, else global. -/
def scanWindow (pages : List View) (stride total : Nat) (inner : Scan) : ByteWindow4 :=
  let pageExists := inner.pageIndex < pages.length
  let page := pages.getD (if pageExists then inner.pageIndex else 0) []
  if pageExists then
    if inner.pageIntra < page.length then
      if total - inner.stop ≥ 4 && stride - inner.pageIntra ≥ 4 && page.length - inner.pageIntra ≥ 4 then
        pageWindow4 page inner.pageIntra
      else byteWindow4Global pages stride total inner.stop
    else byteWindow4Global pages stride total inner.stop
  else byteWindow4Global pages stride total inner.stop

/-- The window after a full head: from the same page when eight bytes were left, else global. -/
def tailWindow (pages : List View) (stride total : Nat) (inner advanced : Scan) : ByteWindow4 :=
  let pageExists := inner.pageIndex < pages.length
  let page := pages.getD (if pageExists then inner.pageIndex else 0) []
  if pageExists then
    if inner.pageIntra < page.length then
      if total - advanced.stop ≥ 4 && stride - inner.pageIntra ≥ 8 && page.length - inner.pageIntra ≥ 8 then
        pageWindow4 page (inner.pageIntra + 4)
      else byteWindow4Global pages stride total advanced.stop
    else byteWindow4Global pages stride total advanced.stop
  else byteWindow4Global pages stride total advanced.stop

/-- The coordinates after an advance: incremental where one page edge at most is crossed, else by division. -/
def nextScan (stride : Nat) (inner extended : Scan) : Scan :=
  let delta := extended.stop - inner.stop
  if (stride ≥ 8 || (delta ≤ 4 && stride ≥ 4)) && inner.pageIntra ≤ 18446744073709551615 - delta then
    if inner.pageIntra + delta ≥ stride then
      { extended with pageIndex := inner.pageIndex + 1, pageIntra := inner.pageIntra + delta - stride }
    else { extended with pageIndex := inner.pageIndex, pageIntra := inner.pageIntra + delta }
  else { extended with pageIndex := extended.stop / stride, pageIntra := extended.stop % stride }

/-! ## Line comments -/

/-- One pass of the line-comment loop: a window, and a second one when the first was all comment text. -/
def lineCommentPass (pages : List View) (stride total : Nat) (inner : Scan) : Pass Scan Scan :=
  if inner.ended total then .ret inner
  else
    let window := scanWindow pages stride total inner
    let advanced := scanLineCommentWindow pages stride total inner window
    if advanced.ended total then .ret advanced
    else
      let continues := advanced.stop - inner.stop == 4 && advanced.stop < total
      let extended :=
        if continues then
          scanLineCommentWindow pages stride total advanced (tailWindow pages stride total inner advanced)
        else advanced
      if extended.ended total then .ret extended
      else .next (nextScan stride inner extended)

/-- 1024 passes of at most eight bytes. -/
def scanLineCommentGlobal (pages : List View) (stride total : Nat) (st : Scan) : Scan :=
  (iterate (fun _ => lineCommentPass pages stride total) 0 1024 st).after id

/-! ## The token function -/

/-- The starting classes, letters tested by range. -/
def startClassGlobal (a b : Nat) (unicodeWordStart unicodeWhitespace : Bool) : ScanClass :=
  { line := a == 47 && b == 47
    block := a == 47 && b == 42
    word := (65 ≤ a && a ≤ 90) || (97 ≤ a && a ≤ 122) || a == 95 || unicodeWordStart
    number := 48 ≤ a && a ≤ 57
    ws := a == 32 || (9 ≤ a && a ≤ 13) || unicodeWhitespace }

/-- The first window of one pass, by class. -/
def scanAdvance (pages : List View) (stride total : Nat) (c : ScanClass) (window : ByteWindow4)
    (inner : Scan) : Scan :=
  if c.block && window.b0 ≥ 128 then scanBlockCommentScalarGlobal pages stride total inner
  else if (c.word || c.ws) && window.b0 ≥ 128 then
    scanUnicodeScalarGlobal pages stride total inner c.word c.ws
  else if !c.word then scanChunkWindow total window inner c
  else scanWordHead total window inner

/-- The token of a scan that is done or at the end of the source. -/
def finishScan (pages : List View) (stride total start : Nat) (c : ScanClass) (initialPage : View)
    (initialPageIntra : Nat) (st : Scan) : Token :=
  if c.word then tokenFromWordScanGlobal pages stride total start st initialPage initialPageIntra
  else tokenFromNonwordScan start st c.line c.block c.ws

/-- One pass of the scan loop: a window, and a second one for a word whose head was full. -/
def scanPass (pages : List View) (stride total start : Nat) (c : ScanClass) (initialPage : View)
    (initialPageIntra : Nat) (inner : Scan) : Pass Token Scan :=
  let finish := finishScan pages stride total start c initialPage initialPageIntra
  if inner.ended total then .ret (finish inner)
  else
    let window := scanWindow pages stride total inner
    let advanced := scanAdvance pages stride total c window inner
    if advanced.scanError ≠ 0 then .ret (scanErrorToken advanced)
    else
      let wordContinues :=
        c.word && !advanced.done && advanced.stop - inner.stop == 4 && advanced.stop < total
      let extended :=
        if wordContinues then scanWordTailWindow total (tailWindow pages stride total inner advanced) advanced
        else advanced
      if extended.ended total then .ret (finish extended)
      else .next (nextScan stride inner extended)

/-- The pass budgets: one pass of 1024 for words, two for white space, four for numbers and block comments. -/
def scanPasses (pages : List View) (stride total start : Nat) (c : ScanClass) (initialPage : View)
    (initialPageIntra : Nat) (seed : Scan) : Token :=
  let finish := finishScan pages stride total start c initialPage initialPageIntra
  (iterate (fun pass outer =>
      (iterate (fun _ => scanPass pages stride total start c initialPage initialPageIntra) 0 1024 outer).bind
        fun inner =>
          if inner.ended total then .ret (finish inner)
          else if pass == 0 && c.word then
            .ret { kind := 7, start := start, stop := inner.stop, diagnostic := 5 }
          else if pass == 1 && c.ws then
            .ret { kind := 1, start := start, stop := inner.stop, diagnostic := 6 }
          else if pass == 3 then
            if c.ws || c.block then
              .ret { kind := if c.ws then 1 else 3, start := start, stop := inner.stop, diagnostic := 6 }
            else .ret { kind := 7, start := start, stop := inner.stop, diagnostic := 5 }
          else .next inner) 0 4 seed).after finish

def nextTokenGlobal (pages : List View) (stride total start : Nat) : Token :=
  if start > total then invalidCursor total
  else if start = total then eofToken start
  else if stride = 0 || pages.length = 0 then { kind := 7, start := start, stop := start + 1, diagnostic := 3 }
  else
    let initialPageIndex := start / stride
    let initialPageIntra := start % stride
    if initialPageIndex ≥ pages.length then { kind := 7, start := start, stop := start + 1, diagnostic := 3 }
    else
      let initialPage := pages.getD initialPageIndex []
      if initialPageIntra ≥ initialPage.length then
        { kind := 7, start := start, stop := start + 1, diagnostic := 3 }
      else
        let initialWindow :=
          if total - start ≥ 4 && stride - initialPageIntra ≥ 4 && initialPage.length - initialPageIntra ≥ 4
          then pageWindow4 initialPage initialPageIntra
          else byteWindow4Global pages stride total start
        let a := initialWindow.b0
        let b := initialWindow.b1
        let firstScalar : Utf8Scalar :=
          if a ≥ 128 then utf8ScalarGlobal pages stride total start
          else { scalar := a, next := start + 1, valid := true }
        let unicodeWordStart := a ≥ 128 && firstScalar.valid && identifierStartScalar firstScalar.scalar
        let unicodeWhitespace := a ≥ 128 && firstScalar.valid && isWhitespaceScalar firstScalar.scalar
        if a ≥ 128 && !(unicodeWordStart || unicodeWhitespace) then nonAsciiError start firstScalar
        else
          let c := startClassGlobal a b unicodeWordStart unicodeWhitespace
          if c.line then
            let commentStart := start + 2
            let comment := scanLineCommentGlobal pages stride total
              { stop := commentStart, depth := 0, dotted := false, done := false,
                pageIndex := commentStart / stride, pageIntra := commentStart % stride,
                scanError := 0, errorStart := commentStart }
            if comment.ended total then tokenFromNonwordScan start comment true false false
            else { kind := 2, start := start, stop := comment.stop, diagnostic := 6 }
          else if c.block || c.word || c.number || c.ws then
            let firstWidth := if a ≥ 128 then firstScalar.next - start else if c.block then 2 else 1
            scanPasses pages stride total start c initialPage initialPageIntra
              { stop := start + firstWidth, depth := if c.block then 1 else 0, dotted := false, done := false,
                pageIndex := (start + firstWidth) / stride, pageIntra := (start + firstWidth) % stride,
                scanError := 0, errorStart := start }
          else punctuationToken start a b

/-! ## Significant tokens and batches -/

/-- Clean trivia, or a trivia prefix cut by its budget. -/
def isTriviaCont (token : Token) : Bool :=
  1 ≤ token.kind && token.kind ≤ 3 && (token.diagnostic == 0 || token.diagnostic == 6)

/-- The skipping loops of `significant_global` over a token function. -/
def significantFrom (next : Nat → Token) (start : Nat) : Token :=
  let body := fun (_ : Nat) (token : Token) =>
    if !isTriviaCont token then Pass.ret token else .next (next token.stop)
  let first := next start
  if !isTriviaCont first then first
  else
    let second := next first.stop
    if !isTriviaCont second then second
    else
      let third := next second.stop
      (iterate body 0 1024 third).after fun token => (iterate body 0 1023 token).after id

/-- Skip trivia, looking at no more than 2050 tokens. -/
def significantGlobal (pages : List View) (stride total start : Nat) : Token :=
  significantFrom (nextTokenGlobal pages stride total) start

structure BatchState where
  cursor : Nat
  tokens : List Token
  count : Nat
  done : Bool
  eof : Bool
  deriving DecidableEq, Repr

structure BatchResult where
  tokens : List Token
  next : Nat
  eof : Bool
  count : Nat
  deriving DecidableEq, Repr

structure TokenReverse where
  rest : List Token
  acc : List Token

def reverseTokenStep (st : TokenReverse) : TokenReverse :=
  match st.rest with
  | [] => st
  | h :: t => { rest := t, acc := h :: st.acc }

def reverseTokensFull (tokens : List Token) : List Token :=
  (reverseTokenStep^[1024] { rest := tokens, acc := [] }).acc

def reverseTokens (tokens : List Token) (count : Nat) : List Token :=
  if count = 1024 then reverseTokensFull tokens
  else
    (iterate (fun i st => if i ≥ count then .ret st.acc else .next (reverseTokenStep st)) 0 1024
      ({ rest := tokens, acc := [] } : TokenReverse)).after TokenReverse.acc

def batchStep (pages : List View) (stride total : Nat) (st : BatchState) : BatchState :=
  if st.done then st
  else
    let token := nextTokenGlobal pages stride total st.cursor
    let tokens := token :: st.tokens
    let count := st.count + 1
    if token.kind = 0 then
      { cursor := token.stop, tokens := tokens, count := count, done := true, eof := token.diagnostic == 0 }
    else if token.diagnostic = 5 then
      { cursor := token.stop, tokens := tokens, count := count, done := true, eof := false }
    else { cursor := token.stop, tokens := tokens, count := count, done := false, eof := false }

/-- Up to 1024 tokens from a cursor, in 64 blocks of 16 steps; completion is tested between blocks only. -/
def lexTokensFrom (pages : List View) (stride total start : Nat) : BatchResult :=
  let result := fun st : BatchState =>
    ({ tokens := reverseTokens st.tokens st.count, next := st.cursor, eof := st.eof, count := st.count } : BatchResult)
  (iterate (fun _ st =>
      let inner := (batchStep pages stride total)^[16] st
      if inner.done then .ret (result inner) else .next inner) 0 64
    { cursor := start, tokens := [], count := 0, done := false, eof := false }).after result

end MncsCompiler
