import MncsCompiler.Lexer.Batches

/-!
# `Kernel.Evidence` — lexical coverage evidence

The coverage part of `kernel.mncs`: the structural token verifiers, the evidence steps over one view and over a
page composition, and the bounded whole-source summary.

`lex_summary` is shown to be exact: on a well-formed text the tokens it steps over tile the text from character
boundary to character boundary and its counters are the counts of that tiling (`lexSummary_tiles`); on any other
text it reports the first invalid byte.
-/

namespace MncsCompiler

open BoundedLoop

/-- Coverage, progress and diagnostic shape; not the lexical classification. -/
def tokenShape (text : View) (cursor kind start stop diagnostic : Nat) : Bool :=
  if cursor > text.length then false
  else if start != cursor || !spanValid text start stop then false
  else if kind = 0 then start == text.length && stop == start && diagnostic == 0
  else knownKind kind && diagnosticOk kind diagnostic && stop > start

/-- The same discipline over global offsets: a trivia prefix (6) is well-formed trivia, an overlong significant
    token (5) a well-formed error. -/
def tokenShapeGlobal (total cursor kind start stop diagnostic : Nat) : Bool :=
  if cursor > total then false
  else if start != cursor || !spanValidGlobal total start stop then false
  else if kind = 0 then start == total && stop == start && diagnostic == 0
  else knownKind kind && (diagnosticOk kind diagnostic || (diagnostic == 5 && kind == 7) ||
    (diagnostic == 6 && 1 ≤ kind && kind ≤ 3)) && stop > start

/-- Codes: 0 complete; 1 lexical errors; 2 structural verification failure; 3 invalid UTF-8 source. Counts
    include trivia; EOF is not counted. -/
structure LexicalEvidence where
  code : Nat
  cursor : Nat
  tokens : Nat
  trivia : Nat
  errors : Nat
  firstStart : Nat
  firstEnd : Nat
  deriving DecidableEq, Repr

/-- The evidence before the first token. -/
def LexicalEvidence.zero : LexicalEvidence :=
  { code := 0, cursor := 0, tokens := 0, trivia := 0, errors := 0, firstStart := 0, firstEnd := 0 }

/-- Evidence with one more token, an error or not. -/
def LexicalEvidence.add (evidence : LexicalEvidence) (token : Token) (error : Bool) : LexicalEvidence :=
  let first := error && evidence.errors == 0
  { code := if error then 1 else evidence.code
    cursor := token.stop
    tokens := evidence.tokens + 1
    trivia := evidence.trivia + (if 1 ≤ token.kind && token.kind ≤ 3 then 1 else 0)
    errors := evidence.errors + (if error then 1 else 0)
    firstStart := if first then token.start else evidence.firstStart
    firstEnd := if first then token.stop else evidence.firstEnd }

def lexStep (text : View) (evidence : LexicalEvidence) : LexicalEvidence :=
  if evidence.cursor = text.length || evidence.code = 2 then evidence
  else
    let token := nextToken text evidence.cursor
    if tokenShape text evidence.cursor token.kind token.start token.stop token.diagnostic then
      evidence.add token (token.diagnostic != 0)
    else { evidence with code := 2, firstStart := token.start, firstEnd := token.stop }

def lexSummary (text : View) : LexicalEvidence :=
  let utf8 := validateUtf8 text
  if !utf8.valid then
    let errorEnd := if utf8.errorOffset < text.length then utf8.errorOffset + 1 else text.length
    { LexicalEvidence.zero with
      code := 3, cursor := errorEnd, errors := 1, firstStart := utf8.errorOffset, firstEnd := errorEnd }
  else carry (fun _ evidence => lexStep text evidence) 0 text.length LexicalEvidence.zero

/-- One coverage step over a logical source; the host iterates it. -/
def lexStepGlobal (pages : List View) (stride total : Nat) (evidence : LexicalEvidence) : LexicalEvidence :=
  if evidence.cursor = total || evidence.code = 2 then evidence
  else
    let token := nextTokenGlobal pages stride total evidence.cursor
    if tokenShapeGlobal total evidence.cursor token.kind token.start token.stop token.diagnostic then
      evidence.add token (token.diagnostic != 0 && token.diagnostic != 6)
    else { evidence with code := 2, firstStart := token.start, firstEnd := token.stop }

/-- At most 128 steps. -/
def lexEvidenceBatchGlobal (pages : List View) (stride total : Nat) (evidence : LexicalEvidence) : LexicalEvidence :=
  (iterate (fun _ current =>
      if current.cursor = total || current.code = 2 then .ret current
      else .next (lexStepGlobal pages stride total current)) 0 128 evidence).after id

/-! ## Tilings -/

/-- The reference tokens from `p` to `q`: each starts where the one before ended, is not empty and ends on a
    character boundary. -/
inductive Tiles (text : View) : Nat → List Token → Nat → Prop
  | nil (p : Nat) : Tiles text p [] p
  | snoc {p q : Nat} {ts : List Token} (h : Tiles text p ts q) (hstart : (nextToken text q).start = q)
      (hlt : q < (nextToken text q).stop) (hbound : Boundary text (nextToken text q).stop) :
      Tiles text p (ts ++ [nextToken text q]) (nextToken text q).stop

/-- White space or a comment, erroneous or not. -/
def triviaKind (t : Token) : Bool := 1 ≤ t.kind && t.kind ≤ 3

def erroneous (t : Token) : Bool := t.diagnostic != 0

/-- The evidence a list of tokens that ends at `cursor` amounts to. -/
def evidenceOf (ts : List Token) (cursor : Nat) : LexicalEvidence :=
  { code := if 0 < ts.countP erroneous then 1 else 0
    cursor := cursor
    tokens := ts.length
    trivia := ts.countP triviaKind
    errors := ts.countP erroneous
    firstStart := ((ts.find? erroneous).map Token.start).getD 0
    firstEnd := ((ts.find? erroneous).map Token.stop).getD 0 }

theorem evidenceOf_add (ts : List Token) (t : Token) (cursor : Nat) :
    (evidenceOf ts cursor).add t (erroneous t) = evidenceOf (ts ++ [t]) t.stop := by
  cases ht : erroneous t with
  | false =>
      simp [evidenceOf, LexicalEvidence.add, ht, List.countP_append, List.find?_append, triviaKind]
  | true =>
      by_cases h0 : ts.countP erroneous = 0
      · have hnone : ts.find? erroneous = none := by
          rw [List.find?_eq_none]
          exact fun x hx => by simpa using List.countP_eq_zero.mp h0 x hx
        simp [evidenceOf, LexicalEvidence.add, ht, List.countP_append, List.find?_append, triviaKind, h0, hnone]
      · obtain ⟨x, hx⟩ : ∃ x, ts.find? erroneous = some x := by
          rw [← Option.isSome_iff_exists, List.find?_isSome]
          exact (List.countP_pos_iff.mp (Nat.pos_of_ne_zero h0))
        simp [evidenceOf, LexicalEvidence.add, ht, List.countP_append, List.find?_append, triviaKind, h0, hx,
          Nat.pos_of_ne_zero h0]

/-! ## Coverage -/

section Coverage

variable {text : View}

/-- On a character boundary inside the text the verifier passes the reference token. -/
theorem tokenShape_nextToken {q : Nat} (hb : Boundary text q) (hlt : q < text.length) :
    tokenShape text q (nextToken text q).kind (nextToken text q).start (nextToken text q).stop
      (nextToken text q).diagnostic = true := by
  have hlex := nextToken_lexed hlt
  obtain ⟨hstart, -⟩ := nextToken_boundary hb hlt
  have h1 := hlex.lt
  have h2 := hlex.le
  have h0 : (nextToken text q).kind ≠ 0 := by
    intro h0
    have hknown := hlex.known
    rw [h0] at hknown
    exact absurd hknown (by decide)
  have hspan : spanValid text q (nextToken text q).stop = true := by
    simp only [spanValid, Bool.and_eq_true, decide_eq_true_eq]
    omega
  unfold tokenShape
  rw [if_neg (by omega), hstart, hspan, if_neg (by simp), if_neg h0, hlex.known, hlex.diagnosed]
  simpa using h1

/-- **Step lemma.** A step from the evidence of a tiling tiles one token further. -/
theorem lexStep_tiles {ts : List Token} {q : Nat} (h : Tiles text 0 ts q) (hb : Boundary text q)
    (hlt : q < text.length) :
    lexStep text (evidenceOf ts q) = evidenceOf (ts ++ [nextToken text q]) (nextToken text q).stop ∧
      Tiles text 0 (ts ++ [nextToken text q]) (nextToken text q).stop ∧
      Boundary text (nextToken text q).stop ∧ q < (nextToken text q).stop := by
  have hlex := nextToken_lexed hlt
  obtain ⟨hstart, hbound⟩ := nextToken_boundary hb hlt
  refine ⟨?_, .snoc h hstart hlex.lt hbound, hbound, hlex.lt⟩
  have hcode : (evidenceOf ts q).code ≠ 2 := by
    simp only [evidenceOf]
    split <;> decide
  have hcursor : (evidenceOf ts q).cursor = q := rfl
  rw [lexStep, if_neg (by simp only [hcursor, Bool.or_eq_true, decide_eq_true_eq]; omega), hcursor]
  simp only [tokenShape_nextToken hb hlt, if_true]
  exact evidenceOf_add ts (nextToken text q) q

/-- **Run lemma.** After `n` steps the evidence is that of a tiling that has reached the end or taken `n` bytes. -/
theorem lexSteps_tiles (hwf : WellFormed text) (n : Nat) :
    ∃ ts q, (lexStep text)^[n] LexicalEvidence.zero = evidenceOf ts q ∧ Tiles text 0 ts q ∧ Boundary text q ∧
      (q = text.length ∨ n ≤ q) := by
  induction n with
  | zero => exact ⟨[], 0, rfl, .nil 0, hwf.boundary_zero, .inr (Nat.le_refl _)⟩
  | succ n ih =>
      obtain ⟨ts, q, heq, htiles, hb, hn⟩ := ih
      rw [Function.iterate_succ_apply', heq]
      rcases Nat.lt_or_eq_of_le hb.le with hlt | rfl
      · obtain ⟨hstep, htiles', hb', hprog⟩ := lexStep_tiles htiles hb hlt
        exact ⟨_, _, hstep, htiles', hb', .inr (by omega)⟩
      · exact ⟨ts, _, by simp [lexStep, evidenceOf], htiles, hb, .inl rfl⟩

/-- The summary of a well-formed text is the evidence of a tiling of it. -/
theorem lexSummary_tiles (hwf : WellFormed text) :
    ∃ ts, Tiles text 0 ts text.length ∧ lexSummary text = evidenceOf ts text.length := by
  have hvalid := (validateUtf8_spec text).1.mpr hwf
  have hsummary : lexSummary text = (lexStep text)^[text.length] LexicalEvidence.zero := by
    simp only [lexSummary, hvalid, Bool.not_true, Bool.false_eq_true, if_false]
    exact carry_const (lexStep text) 0 text.length _
  obtain ⟨ts, q, heq, htiles, hb, hq⟩ := lexSteps_tiles hwf text.length
  have hle := hb.le
  obtain rfl : q = text.length := by omega
  exact ⟨ts, htiles, hsummary.trans heq⟩

end Coverage

/-- **Lexical coverage.** The summary never fails structurally. On a well-formed text it reaches the end over a
    tiling whose exact counts it holds, with code 1 exactly if there is an error and the span of the first one; on
    any other text it stops with code 3 at the first invalid byte. -/
theorem lexSummary_coverage (text : View) :
    (lexSummary text).code ≠ 2 ∧
      (WellFormed text → ∃ ts, Tiles text 0 ts text.length ∧
        (lexSummary text).cursor = text.length ∧
        (lexSummary text).tokens = ts.length ∧
        (lexSummary text).trivia = ts.countP triviaKind ∧
        (lexSummary text).errors = ts.countP erroneous ∧
        ((lexSummary text).code = 0 ∨ (lexSummary text).code = 1) ∧
        ((lexSummary text).code = 1 ↔ 0 < (lexSummary text).errors) ∧
        (∀ t, ts.find? erroneous = some t →
          (lexSummary text).firstStart = t.start ∧ (lexSummary text).firstEnd = t.stop)) ∧
      (¬ WellFormed text → (lexSummary text).code = 3 ∧ FirstInvalid text (lexSummary text).firstStart ∧
        (lexSummary text).firstEnd = min ((lexSummary text).firstStart + 1) text.length) := by
  have hspec := validateUtf8_spec text
  by_cases hwf : WellFormed text
  · obtain ⟨ts, htiles, heq⟩ := lexSummary_tiles hwf
    rw [heq]
    have hcode : (evidenceOf ts text.length).code = if 0 < ts.countP erroneous then 1 else 0 := rfl
    refine ⟨by rw [hcode]; split <;> decide, fun _ => ⟨ts, htiles, rfl, rfl, rfl, rfl, ?_, ?_, fun t ht => ?_⟩,
      fun hnot => absurd hwf hnot⟩
    · rw [hcode]; split
      · exact .inr rfl
      · exact .inl rfl
    · rw [hcode]
      simp [evidenceOf]
    · simp [evidenceOf, ht]
  · have hvalid : (validateUtf8 text).valid = false := by
      cases hv : (validateUtf8 text).valid with
      | false => rfl
      | true => exact absurd (hspec.1.mp hv) hwf
    have hfirst := hspec.2 hvalid
    have hle := hfirst.le
    have heq : lexSummary text = { LexicalEvidence.zero with
        code := 3
        cursor := if (validateUtf8 text).errorOffset < text.length then (validateUtf8 text).errorOffset + 1
          else text.length
        errors := 1
        firstStart := (validateUtf8 text).errorOffset
        firstEnd := if (validateUtf8 text).errorOffset < text.length then (validateUtf8 text).errorOffset + 1
          else text.length } := by
      simp [lexSummary, hvalid]
    rw [heq]
    refine ⟨by simp, fun h => absurd h hwf, fun _ => ⟨rfl, hfirst, ?_⟩⟩
    dsimp only
    split <;> omega

end MncsCompiler
