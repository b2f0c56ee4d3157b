import MncsCompiler.Lexer.Rounds
import MncsCompiler.Source.Utf8

/-!
# `Lexer.Reference` — the window lexer against the reference lexer

The reference scan always comes to an end (`scanEnd`), and `nextToken` is its token. A windowed scan visits
states of the same run, so once it has ended it has the same end. What is left is the budget: the window lexer
agrees with the reference exactly until a budget cuts a scan, and a cut token says so in its diagnostic.
-/

namespace MncsCompiler

open BoundedLoop

/-! ## Runs of a scan -/

/-- What holds of every state of a scan started at `start`. -/
structure ScanInv (text : View) (start : Nat) (st : Scan) : Prop where
  lt : start < st.stop
  le : st.stop ≤ text.length
  error : st.scanError = 0 ∨ (st.done = true ∧ st.scanError = 3 ∧ start < st.errorStart ∧
    st.stop = st.errorStart + 1 ∧ (utf8Scalar text st.errorStart).valid = false)

section Run

variable {text : View} {c : ScanClass} {start : Nat} {st : Scan}

theorem ScanInv.scanError_of_open (h : ScanInv text start st) (hopen : st.ended text.length = false) :
    st.scanError = 0 := by
  rcases h.error with h | ⟨hdone, -⟩
  · exact h
  · rw [(ended_eq_false.mp hopen).1] at hdone
    cases hdone

/-- **Step lemma.** -/
theorem ScanInv.step (h : ScanInv text start st) : ScanInv text start (scanStep text c st) := by
  cases hopen : st.ended text.length with
  | true => rwa [scanStep_of_ended hopen]
  | false =>
      have hs := scanStep_spec (c := c) hopen
      refine ⟨Nat.lt_of_lt_of_le h.lt hs.le, hs.le_length, ?_⟩
      rcases hs.error (h.scanError_of_open hopen) with he | ⟨hd, he, hstart, hstop, hv⟩
      · exact .inl he
      · exact .inr ⟨hd, he, hstart ▸ h.lt, hstart ▸ hstop, hstart ▸ hv⟩

/-- **Run lemma.** -/
theorem ScanInv.steps (h : ScanInv text start st) (n : Nat) :
    ScanInv text start ((scanStep text c)^[n] st) := by
  induction n with
  | zero => exact h
  | succ n ih =>
      rw [Function.iterate_succ_apply']
      exact ih.step

theorem settle_scanStep (text : View) (c : ScanClass) :
    settle (Scan.ended text.length) (scanStep text c) = scanStep text c := by
  funext st
  cases hopen : st.ended text.length with
  | true => rw [settle_of_fin _ hopen, scanStep_of_ended hopen]
  | false => rw [settle_of_not_fin _ hopen]

/-- The end of the reference scan from `seed`. -/
def scanEnd (text : View) (start : Nat) (c : ScanClass) (seed : Scan) : Scan :=
  (scanStep text c)^[text.length - start] seed

/-- **The reference scan ends** within the rest of the text. -/
theorem scanEnd_ended (h : ScanInv text start st) : (scanEnd text start c st).ended text.length = true := by
  unfold scanEnd
  rw [← settle_scanStep]
  refine settle_done (P := ScanInv text start) (w := fun s => text.length - s.stop)
    (fun s hs _ => hs.step) (fun s hs hopen => ?_) (fun s hs hopen => ?_) h ?_
  · have hspec := scanStep_spec (c := c) hopen
    cases hdone : (scanStep text c s).done with
    | true => exact .inl (by simp [Scan.ended, hdone])
    | false =>
        have := hspec.progress hdone
        have := hspec.le_length
        right
        omega
  · have := (ended_eq_false.mp hopen).2
    omega
  · have := h.lt
    omega

/-- Any number of steps that ends the scan reaches its end. -/
theorem scanEnd_unique (h : ScanInv text start st) {k : Nat}
    (hk : ((scanStep text c)^[k] st).ended text.length = true) :
    (scanStep text c)^[k] st = scanEnd text start c st :=
  settle_unique (p := Scan.ended text.length) (fun _ hs => scanStep_of_ended hs) hk (scanEnd_ended h)

/-- **The reference loop** computes the token of the end of the scan. -/
theorem scanLoop_eq (h : ScanInv text start st) (h0 : st.scanError = 0) :
    scanLoop text start c st = settledToken text start c (scanEnd text start c st) := by
  have hlt := h.lt
  have hle := h.le
  have hrel := iterate_rel (Q := Eq) (R := fun s t => s = t ∧ ScanInv text start t ∧ t.scanError = 0)
    (f := fun _ s =>
      if (scanStep text c s).scanError ≠ 0 then .ret (scanErrorToken (scanStep text c s))
      else if (scanStep text c s).ended text.length then .ret (scanToken text start c (scanStep text c s))
      else .next (scanStep text c s))
    (g := fun _ s =>
      if s.ended text.length then .ret (settledToken text start c s)
      else if (scanStep text c s).ended text.length then
        .ret (settledToken text start c (scanStep text c s))
      else .next (scanStep text c s))
    (fun _ s t hst => by
      obtain ⟨rfl, hinv, he⟩ := hst
      cases hopen : s.ended text.length with
      | true =>
          rw [scanStep_of_ended hopen, hopen]
          simp only [he, settledToken, ne_eq, not_true_eq_false, if_false, if_true]
          exact .ret rfl
      | false =>
          simp only [Bool.false_eq_true, if_false, settledToken]
          rcases (hinv.step (c := c)).error with he' | ⟨hd, he', -⟩
          · simp only [he', ne_eq, not_true_eq_false, if_false]
            split
            · exact .ret rfl
            · exact .next ⟨rfl, hinv.step, he'⟩
          · have hend : (scanStep text c s).ended text.length = true := by simp [Scan.ended, hd]
            rw [if_pos (by rw [he']; decide), if_pos hend, if_pos (by rw [he']; decide)]
            exact .ret rfl)
    0 (text.length - start) (s := st) (t := st) ⟨rfl, h, h0⟩
  rw [iterate_settle (fun _ _ => rfl) 0 _ (.inl (by omega)), settle_scanStep] at hrel
  have hend := scanEnd_ended (c := c) h
  unfold scanEnd at hend ⊢
  rw [hend, if_pos rfl] at hrel
  exact hrel.after (k := fun s => if s.scanError ≠ 0 then scanErrorToken s else scanToken text start c s)
    (l := settledToken text start c) (fun s t hst => by rw [hst.1, settledToken])

end Run

/-! ## The budgeted scan is a prefix of the reference scan -/

section Budget

variable {text : View} {c : ScanClass} {start : Nat} {seed : Scan}

/-- Rounds that advance stay on the reference run. -/
theorem iterate_round_steps {round : Scan → Scan}
    (hround : ∀ s : Scan, s.ended text.length = false → Advances (scanStep text c) s (round s)) (n : Nat) :
    ∃ k, (settle (Scan.ended text.length) round)^[n] seed = (scanStep text c)^[k] seed := by
  induction n with
  | zero => exact ⟨0, rfl⟩
  | succ n ih =>
      obtain ⟨k, hk⟩ := ih
      rw [Function.iterate_succ_apply', hk]
      cases hopen : ((scanStep text c)^[k] seed).ended text.length with
      | true => exact ⟨k, settle_of_fin _ hopen⟩
      | false =>
          obtain ⟨j, hj⟩ := hround _ hopen
          exact ⟨j + 1 + k, by rw [settle_of_not_fin _ hopen, hj, ← Function.iterate_add_apply]⟩

/-- An open state of the run has spent a step on every byte. -/
theorem Advances.stop_lt {st st' : Scan} (h : Advances (scanStep text c) st st')
    (hopen : st.ended text.length = false) (hopen' : st'.ended text.length = false) : st.stop < st'.stop := by
  obtain ⟨k, rfl⟩ := h
  have hmono : ∀ k, ((scanStep text c)^[k + 1] st).ended text.length = false →
      st.stop < ((scanStep text c)^[k + 1] st).stop := by
    intro k
    induction k with
    | zero => exact fun h' => (scanStep_spec hopen).progress (ended_eq_false.mp h').1
    | succ k ih =>
        intro h'
        rw [Function.iterate_succ_apply'] at h' ⊢
        cases hmid : ((scanStep text c)^[k + 1] st).ended text.length with
        | true => rw [scanStep_of_ended hmid, hmid] at h'; cases h'
        | false => exact Nat.lt_of_lt_of_le (ih hmid) (scanStep_spec hmid).le
  exact hmono k hopen'

/-- **Enough rounds end the scan**: each open round takes a byte at least. -/
theorem iterate_round_ended {round : Scan → Scan}
    (hround : ∀ s : Scan, s.ended text.length = false → Advances (scanStep text c) s (round s)) {n : Nat}
    (hn : text.length ≤ seed.stop + n) :
    ((settle (Scan.ended text.length) round)^[n] seed).ended text.length = true := by
  refine settle_done (P := fun _ => True) (w := fun s => text.length - s.stop) (fun _ _ _ => trivial)
    (fun s _ hopen => ?_) (fun s _ hopen => ?_) trivial (by omega)
  · cases hopen' : (round s).ended text.length with
    | true => exact .inl rfl
    | false =>
        have h1 := (hround s hopen).stop_lt hopen hopen'
        have h2 := (ended_eq_false.mp hopen').2
        right
        omega
  · have := (ended_eq_false.mp hopen).2
    omega

theorem budgetedScan_steps (hc : OneClass c) :
    ∃ k, budgetedScan text c seed = (scanStep text c)^[k] seed := by
  unfold budgetedScan
  cases hline : c.line with
  | true =>
      obtain rfl := hc.eq_line hline
      rw [if_pos rfl]
      exact iterate_round_steps (fun s hs => lineRound_advances hs) 1024
  | false =>
      rw [if_neg Bool.false_ne_true]
      exact iterate_round_steps (fun s hs => scanRound_advances hc hline hs) _

/-- A scan with at most 1024 bytes before it is never cut. -/
theorem budgetedScan_ended (hc : OneClass c) (hn : text.length ≤ seed.stop + 1024) :
    (budgetedScan text c seed).ended text.length = true := by
  unfold budgetedScan
  cases hline : c.line with
  | true =>
      obtain rfl := hc.eq_line hline
      rw [if_pos rfl]
      exact iterate_round_ended (fun s hs => lineRound_advances hs) hn
  | false =>
      rw [if_neg Bool.false_ne_true]
      refine iterate_round_ended (fun s hs => scanRound_advances hc hline hs) ?_
      have : 1024 ≤ scanBudget c := by
        unfold scanBudget
        repeat' split
        all_goals decide
      omega

end Budget

/-! ## The start of a token -/

/-- What a token made at a start inside the text looks like: non-empty, inside the text, of a known kind with a
    matching diagnostic. It begins at the start, an invalid scalar inside a comment apart. -/
structure Lexed (text : View) (start : Nat) (t : Token) : Prop where
  lt : start < t.stop
  le : t.stop ≤ text.length
  known : knownKind t.kind = true
  diagnosed : diagnosticOk t.kind t.diagnostic = true
  begins : t.start = start ∨ (t.kind = 7 ∧ start < t.start ∧ t.stop = t.start + 1 ∧
    (utf8Scalar text t.start).valid = false)

/-- How both lexers begin at a start inside the text: with the same finished token, or with a scan of one class
    from the same place. -/
inductive Begins (text : View) (start : Nat) : Token → Token → Prop
  | plain {t : Token} (hlex : Lexed text start t) (hstart : t.start = start)
      (hbound : Boundary text start → Boundary text t.stop) : Begins text start t t
  | scan {c : ScanClass} {width : Nat} (hc : OneClass c) (hpos : 0 < width) (hle : start + width ≤ text.length)
      (hline : c.line = true → width = 2)
      (hbound : Boundary text start → Boundary text (start + width)) :
      Begins text start (scanLoop text start c (scanSeed start width c))
        (budgetedToken text start c (if c.line then lineSeed start else scanSeed start width c))

theorem nonAsciiError_begins {text : View} {start : Nat} (h : start < text.length) :
    Begins text start (nonAsciiError start (utf8Scalar text start)) (nonAsciiError start (utf8Scalar text start)) := by
  obtain ⟨hlt, -, hle, hinv⟩ := utf8Scalar_progress h
  have hstop : (nonAsciiError start (utf8Scalar text start)).stop = (utf8Scalar text start).next := by
    unfold nonAsciiError
    dsimp only
    split
    · rfl
    · rename_i hv
      exact (hinv (by simpa using hv)).symm
  refine .plain ⟨hstop ▸ hlt, hstop ▸ hle, rfl, ?_, .inl rfl⟩ rfl (fun hb => hstop ▸ (hb.scalar h).2)
  unfold nonAsciiError
  cases (utf8Scalar text start).valid <;> rfl

theorem punctuationToken_begins {text : View} {start : Nat} (h : start < text.length)
    (ha : byteAt text start < 128) :
    Begins text start (punctuationToken start (byteAt text start) (byteAt text (start + 1)))
      (punctuationToken start (byteAt text start) (byteAt text (start + 1))) := by
  have hreal : byteAt text (start + 1) < 256 → start + 1 < text.length := byteAt_lt_iff.mp
  have hbound : Boundary text start → Boundary text (start + 1) := fun hb => hb.ascii ha
  unfold punctuationToken
  dsimp only
  generalize hk : punctuation (byteAt text start) (byteAt text (start + 1)) = kind
  have hr := punctuation_range (byteAt text start) (byteAt text (start + 1))
  rw [hk] at hr
  rcases hr with rfl | ⟨h1, h2, -⟩ | ⟨h1, h2, -, hb⟩
  · exact .plain ⟨Nat.lt_succ_self _, h, rfl, rfl, .inl rfl⟩ rfl hbound
  · have hlow : ¬ kind ≥ 80 := by omega
    have hseven : kind ≠ 7 := by omega
    simp only [if_neg hlow, if_neg hseven]
    exact .plain ⟨Nat.lt_succ_self _, h, by simp [knownKind, h1, h2], by simp [diagnosticOk, hseven], .inl rfl⟩
      rfl hbound
  · have hseven : kind ≠ 7 := by omega
    simp only [if_pos (show kind ≥ 80 from h1), if_neg hseven]
    exact .plain ⟨Nat.lt_add_of_pos_right (by decide), hreal (by omega), by simp [knownKind, h1, h2],
      by simp [diagnosticOk, hseven], .inl rfl⟩ rfl (fun hs => (hbound hs).ascii hb)

section Head

variable (text : View) (start : Nat)

/-- The scalar at a start. -/
def headScalar : Utf8Scalar :=
  if byteAt text start ≥ 128 then utf8Scalar text start
  else { scalar := byteAt text start, next := start + 1, valid := true }

def headWord : Bool :=
  byteAt text start ≥ 128 && (headScalar text start).valid && identifierStartScalar (headScalar text start).scalar

def headSpace : Bool :=
  byteAt text start ≥ 128 && (headScalar text start).valid && isWhitespaceScalar (headScalar text start).scalar

def headClass : ScanClass :=
  startClassGlobal (byteAt text start) (byteAt text (start + 1)) (headWord text start) (headSpace text start)

/-- The bytes a scan takes before its loop. -/
def headWidth : Nat :=
  if byteAt text start ≥ 128 then (headScalar text start).next - start
  else if (headClass text start).line || (headClass text start).block then 2 else 1

variable {text start}

/-- A start has one class, or it is punctuation in ASCII. -/
theorem headClass_cases (hword : ¬ (byteAt text start ≥ 128 ∧ (headWord text start || headSpace text start) = false)) :
    OneClass (headClass text start) ∨ (byteAt text start < 128 ∧ headClass text start =
      { line := false, block := false, word := false, number := false, ws := false }) := by
  have hlow : byteAt text start < 128 → headWord text start = false ∧ headSpace text start = false := by
    intro hb
    simp [headWord, headSpace, Nat.not_le.mpr hb]
  have hone : headWord text start = true → headSpace text start = false := by
    intro hw
    cases hs : headSpace text start with
    | false => rfl
    | true =>
        simp only [headWord, headSpace, Bool.and_eq_true] at hw hs
        rw [whitespace_not_identifierStart hs.2] at hw
        exact absurd hw.2 Bool.false_ne_true
  rcases startClassGlobal_one (byteAt text start) (byteAt text (start + 1)) hlow hone with hc | hnone
  · exact .inl hc
  · refine .inr ⟨?_, hnone⟩
    by_contra hb
    refine hword ⟨Nat.not_lt.mp hb, ?_⟩
    have hw := congrArg ScanClass.word hnone
    have hs := congrArg ScanClass.ws hnone
    simp only [startClassGlobal, Bool.or_eq_false_iff] at hw hs
    simp [hw.2, hs.2]

variable (text start) in
/-- What a comment start has read. -/
theorem headClass_comment (hc : (headClass text start).line = true ∨ (headClass text start).block = true) :
    byteAt text start < 128 ∧ byteAt text (start + 1) < 128 := by
  simp only [headClass, startClassGlobal, Bool.and_eq_true, beq_iff_eq] at hc
  omega

/-- The width the window lexer takes, line comments apart. -/
theorem headWidth_eq (hline : (headClass text start).line = false) : headWidth text start =
    if byteAt text start ≥ 128 then (headScalar text start).next - start
    else if (headClass text start).block then 2 else 1 := by
  unfold headWidth
  rw [hline, Bool.false_or]

variable (h : start < text.length)

include h

theorem nextToken_of_lt : nextToken text start =
    if byteAt text start ≥ 128 && !(headWord text start || headSpace text start) then
      nonAsciiError start (headScalar text start)
    else if (headClass text start).line || (headClass text start).block || (headClass text start).word ||
        (headClass text start).number || (headClass text start).ws then
      scanLoop text start (headClass text start) (scanSeed start (headWidth text start) (headClass text start))
    else punctuationToken start (byteAt text start) (byteAt text (start + 1)) := by
  have hbyte : byteAt text start < 256 := byteAt_lt_iff.mpr h
  unfold nextToken
  rw [if_neg (by omega), if_neg (by omega)]
  simp only [startClass_eq hbyte]
  rfl

theorem windowToken_of_lt : windowToken text start =
    if byteAt text start ≥ 128 && !(headWord text start || headSpace text start) then
      nonAsciiError start (headScalar text start)
    else if (headClass text start).line then budgetedToken text start (headClass text start) (lineSeed start)
    else if (headClass text start).block || (headClass text start).word || (headClass text start).number ||
        (headClass text start).ws then
      budgetedToken text start (headClass text start) (scanSeed start
        (if byteAt text start ≥ 128 then (headScalar text start).next - start
          else if (headClass text start).block then 2 else 1) (headClass text start))
    else punctuationToken start (byteAt text start) (byteAt text (start + 1)) := by
  unfold windowToken
  rw [if_neg (by omega), if_neg (by omega)]
  rfl

theorem headScalar_bounds : start < (headScalar text start).next ∧
    (headScalar text start).next ≤ text.length := by
  obtain ⟨hlt, -, hle, -⟩ := utf8Scalar_progress h
  unfold headScalar
  split
  · exact ⟨hlt, hle⟩
  · exact ⟨Nat.lt_succ_self _, h⟩

/-- The first bytes of a scan lie inside the text and end on a boundary. -/
theorem headWidth_bounds : 0 < headWidth text start ∧ start + headWidth text start ≤ text.length ∧
    (Boundary text start → Boundary text (start + headWidth text start)) := by
  obtain ⟨hlt, hle⟩ := headScalar_bounds h
  have hreal : byteAt text (start + 1) < 256 → start + 1 < text.length := byteAt_lt_iff.mp
  unfold headWidth
  split
  · rename_i ha
    rw [show start + ((headScalar text start).next - start) = (headScalar text start).next by omega]
    refine ⟨by omega, hle, fun hbd => ?_⟩
    rw [headScalar, if_pos ha]
    exact (hbd.scalar h).2
  · rename_i ha
    split
    · rename_i hlb
      have h2 := headClass_comment text start (by simpa using hlb)
      exact ⟨by decide, hreal (by omega), fun hbd => (hbd.ascii h2.1).ascii h2.2⟩
    · exact ⟨by decide, h, fun hbd => hbd.ascii (Nat.not_le.mp ha)⟩

/-- A scan of the window lexer. Its width is the flat one, a line comment apart, which starts past its slashes. -/
theorem windowToken_scan (hword : ¬ (byteAt text start ≥ 128 ∧ (headWord text start || headSpace text start) = false))
    (hc : OneClass (headClass text start)) : windowToken text start =
      budgetedToken text start (headClass text start) (if (headClass text start).line then lineSeed start
        else scanSeed start (headWidth text start) (headClass text start)) := by
  have hskip : ¬ (decide (byteAt text start ≥ 128) && !(headWord text start || headSpace text start)) = true := by
    simpa only [Bool.and_eq_true, decide_eq_true_eq, Bool.not_eq_true'] using hword
  rw [windowToken_of_lt h, if_neg hskip]
  cases hl : (headClass text start).line with
  | true => rfl
  | false =>
      have hsome : ((headClass text start).block || (headClass text start).word ||
          (headClass text start).number || (headClass text start).ws) = true := by
        generalize headClass text start = c at hc hl
        cases hc <;> first | rfl | cases hl
      simp [hsome, headWidth_eq hl]

/-- **Both lexers begin alike.** -/
theorem token_begins : Begins text start (nextToken text start) (windowToken text start) := by
  have hcomment := headClass_comment text start
  by_cases herr : byteAt text start ≥ 128 ∧ (headWord text start || headSpace text start) = false
  · rw [nextToken_of_lt h, windowToken_of_lt h, if_pos (by simp [herr.1, herr.2]), if_pos (by simp [herr.1, herr.2]),
      headScalar, if_pos herr.1]
    exact nonAsciiError_begins h
  have hskip : ¬ (decide (byteAt text start ≥ 128) && !(headWord text start || headSpace text start)) = true := by
    simpa only [Bool.and_eq_true, decide_eq_true_eq, Bool.not_eq_true'] using herr
  rcases headClass_cases herr with hc | ⟨hb, hnone⟩
  · have hwidth : (headClass text start).line = true → headWidth text start = 2 := by
      intro hl
      rw [headWidth, if_neg (Nat.not_le.mpr (hcomment (.inl hl)).1), hl, Bool.true_or, if_pos rfl]
    have hsome : ((headClass text start).line || (headClass text start).block || (headClass text start).word ||
        (headClass text start).number || (headClass text start).ws) = true := by
      generalize headClass text start = c at hc
      cases hc <;> rfl
    obtain ⟨hpos, hfits, hbound⟩ := headWidth_bounds h
    rw [nextToken_of_lt h, windowToken_scan h herr hc, if_neg hskip, if_pos hsome]
    exact .scan hc hpos hfits hwidth hbound
  · rw [nextToken_of_lt h, windowToken_of_lt h, if_neg hskip, if_neg hskip, hnone]
    exact punctuationToken_begins h hb

end Head

/-! ## Tokens of the reference lexer -/

section Tokens

variable {text : View} {c : ScanClass} {start : Nat} {st : Scan}

theorem scanSeed_inv {width : Nat} (hpos : 0 < width) (hle : start + width ≤ text.length) :
    ScanInv text start (scanSeed start width c) :=
  ⟨Nat.lt_add_of_pos_right hpos, hle, .inl rfl⟩

theorem settledToken_lexed (hc : OneClass c) (h : ScanInv text start st) :
    Lexed text start (settledToken text start c st) := by
  unfold settledToken
  rcases h.error with h0 | ⟨-, h3, hlt, hstop, hv⟩
  · rw [if_neg (by simp [h0])]
    have hkind : knownKind (scanToken text start c st).kind = true ∧
        diagnosticOk (scanToken text start c st).kind (scanToken text start c st).diagnostic = true := by
      cases hc with
      | line => exact ⟨rfl, rfl⟩
      | ws => exact ⟨rfl, rfl⟩
      | block =>
          refine ⟨rfl, ?_⟩
          by_cases hd : st.depth > 0 <;> simp [scanToken, blockClass, diagnosticOk, hd]
      | number =>
          simp only [scanToken, numberClass]
          cases st.dotted <;> exact ⟨rfl, rfl⟩
      | word =>
          simp only [scanToken, wordClass]
          have hr := keyword_range text start st.stop
          generalize keyword text start st.stop = kind at hr
          rcases hr with rfl | ⟨h1, h2⟩
          · exact ⟨rfl, rfl⟩
          · have hseven : kind ≠ 7 := by omega
            exact ⟨by simp [knownKind, h1, h2], by simp [diagnosticOk, hseven]⟩
    exact ⟨h.lt, h.le, hkind.1, hkind.2, .inl rfl⟩
  · rw [if_pos (by simp [h3])]
    refine ⟨h.lt, h.le, rfl, ?_, .inr ⟨rfl, hlt, hstop, hv⟩⟩
    simp [scanErrorToken, h3, diagnosticOk]

/-- **Every token of the reference lexer is well shaped.** -/
theorem nextToken_lexed (h : start < text.length) : Lexed text start (nextToken text start) := by
  have hb := token_begins h
  generalize nextToken text start = t, windowToken text start = t' at hb
  cases hb with
  | plain hlex => exact hlex
  | @scan c _ hc hpos hle =>
      have hinv := scanSeed_inv (c := c) hpos hle
      rw [scanLoop_eq hinv rfl]
      exact settledToken_lexed hc (hinv.steps _)

/-- In a well-formed text a scan stays on character boundaries and meets no invalid scalar. -/
theorem scanStep_boundary (h : Boundary text st.stop) (h0 : st.scanError = 0) :
    Boundary text (scanStep text c st).stop ∧ (scanStep text c st).scanError = 0 := by
  cases hopen : st.ended text.length with
  | true => rw [scanStep_of_ended hopen]; exact ⟨h, h0⟩
  | false =>
      have hlt := (ended_eq_false.mp hopen).2
      obtain ⟨hvalid, hnext⟩ := h.scalar hlt
      have hcomment : Boundary text (commentScalar (utf8Scalar text st.stop) st).stop ∧
          (commentScalar (utf8Scalar text st.stop) st).scanError = 0 := by
        simp only [commentScalar, hvalid, Bool.not_true, Bool.false_eq_true, if_false]
        exact ⟨hnext, h0⟩
      have hrun : ∀ accepted, Boundary text (runScalar accepted (utf8Scalar text st.stop) st).stop ∧
          (runScalar accepted (utf8Scalar text st.stop) st).scanError = 0 := by
        intro accepted
        cases accepted with
        | true => exact ⟨hnext, h0⟩
        | false => exact ⟨h, h0⟩
      have hbyte : ∀ advance : Bool, (advance = true → byteAt text st.stop < 128) →
          Boundary text (st.stop + (if advance then 1 else 0)) := by
        intro advance ha
        cases advance with
        | true => exact h.ascii (ha rfl)
        | false => exact h
      unfold scanStep
      rw [if_neg (by simp [hopen])]
      dsimp only
      split
      · split
        · exact hcomment
        rename_i hlow
        split
        · rename_i ho
          simp only [Bool.and_eq_true, beq_iff_eq] at ho
          exact ⟨(h.ascii (by omega)).ascii (by omega), h0⟩
        split
        · rename_i ho
          simp only [Bool.and_eq_true, beq_iff_eq] at ho
          exact ⟨(h.ascii (by omega)).ascii (by omega), h0⟩
        · exact ⟨h.ascii (by omega), h0⟩
      split
      · split
        · exact hcomment
        · exact ⟨hbyte _ (fun _ => by omega), h0⟩
      split
      · split
        · exact hrun _
        · exact ⟨hbyte _ (fun _ => by omega), h0⟩
      split
      · split
        · exact hrun _
        · exact ⟨hbyte _ (fun _ => by omega), h0⟩
      split
      · refine ⟨hbyte _ (fun hadv => ?_), h0⟩
        simp only [digit, Bool.or_eq_true, Bool.and_eq_true, decide_eq_true_eq, beq_iff_eq] at hadv
        omega
      · exact ⟨h, h0⟩

theorem scanSteps_boundary (h : Boundary text st.stop) (h0 : st.scanError = 0) (n : Nat) :
    Boundary text ((scanStep text c)^[n] st).stop ∧ ((scanStep text c)^[n] st).scanError = 0 := by
  induction n with
  | zero => exact ⟨h, h0⟩
  | succ n ih =>
      rw [Function.iterate_succ_apply']
      exact scanStep_boundary ih.1 ih.2

/-- **Tokens of a well-formed text** go from boundary to boundary. -/
theorem nextToken_boundary (h : Boundary text start) (hlt : start < text.length) :
    (nextToken text start).start = start ∧ Boundary text (nextToken text start).stop := by
  have hb := token_begins hlt
  generalize nextToken text start = t, windowToken text start = t' at hb
  cases hb with
  | plain _ hstart hbound => exact ⟨hstart, hbound h⟩
  | @scan c _ hc hpos hle _ hbound =>
      have hinv := scanSeed_inv (c := c) hpos hle
      obtain ⟨hstop, h0⟩ := scanSteps_boundary (c := c)
        (show Boundary text (scanSeed start _ c).stop from hbound h) rfl (text.length - start)
      rw [scanLoop_eq hinv rfl, settledToken, scanEnd, if_neg (by simpa using h0)]
      exact ⟨rfl, hstop⟩

end Tokens

/-! ## The window lexer up to its budgets -/

/-- The same scan up to an error start that nothing reads yet. -/
def Scan.Agrees (s t : Scan) : Prop := s = t ∨ (s.scanError = 0 ∧ ∃ e, t = { s with errorStart := e })

section Agrees

variable {text : View} {start : Nat} {s t : Scan}

theorem Scan.Agrees.ended (h : s.Agrees t) (total : Nat) : s.ended total = t.ended total := by
  rcases h with rfl | ⟨-, e, rfl⟩
  · rfl
  · rfl

theorem Scan.Agrees.settledToken (h : s.Agrees t) (c : ScanClass) :
    settledToken text start c s = settledToken text start c t := by
  rcases h with rfl | ⟨h0, e, rfl⟩
  · rfl
  · simp only [MncsCompiler.settledToken, h0, ne_eq, not_true_eq_false, if_false]
    rfl

/-- A line-comment step does not read the error start. -/
theorem Scan.Agrees.scanStep_line (h : s.Agrees t) :
    (scanStep text lineClass s).Agrees (scanStep text lineClass t) := by
  rcases h with rfl | ⟨h0, e, rfl⟩
  · exact .inl rfl
  cases hopen : s.ended text.length with
  | true =>
      have hopen' : Scan.ended text.length { s with errorStart := e } = true := hopen
      rw [scanStep_of_ended hopen, scanStep_of_ended hopen']
      exact .inr ⟨h0, e, rfl⟩
  | false =>
      have hopen' : Scan.ended text.length { s with errorStart := e } = false := hopen
      by_cases hb : byteAt text s.stop < 128
      · rw [MncsCompiler.scanStep_line hopen hb, MncsCompiler.scanStep_line hopen' hb]
        exact .inr ⟨h0, e, rfl⟩
      · rw [scanStep_comment hopen (.inl rfl) (Nat.not_lt.mp hb),
          scanStep_comment hopen' (.inl rfl) (Nat.not_lt.mp hb)]
        unfold commentScalar
        dsimp only
        split
        · exact .inl rfl
        · exact .inr ⟨h0, e, rfl⟩

theorem Scan.Agrees.scanSteps_line (h : s.Agrees t) (n : Nat) :
    ((scanStep text lineClass)^[n] s).Agrees ((scanStep text lineClass)^[n] t) := by
  induction n with
  | zero => exact h
  | succ n ih =>
      rw [Function.iterate_succ_apply', Function.iterate_succ_apply']
      exact ih.scanStep_line

end Agrees

/-- The scan of the token at `start`, stopped by its budget in state `st`. -/
structure Cut (text : View) (start : Nat) (c : ScanClass) (st : Scan) : Prop where
  one : OneClass c
  opened : st.ended text.length = false
  inv : ScanInv text start st
  boundary : Boundary text start → Boundary text st.stop
  run : ∃ seed k, ScanInv text start seed ∧ st.Agrees ((scanStep text c)^[k] seed) ∧
    nextToken text start = settledToken text start c (scanEnd text start c seed)
  long : start + 1024 < text.length

/-- **The window lexer agrees with the reference until a budget cuts a scan.** -/
theorem windowToken_eq_or_cut {text : View} {start : Nat} (h : start < text.length) :
    windowToken text start = nextToken text start ∨
      ∃ c st, Cut text start c st ∧ windowToken text start = cutToken start c st := by
  have hb := token_begins h
  generalize hnext : nextToken text start = t, windowToken text start = t' at hb
  cases hb with
  | plain _ _ _ => exact .inl rfl
  | @scan c width hc hpos hle hline hbound =>
      have hinv := scanSeed_inv (c := c) hpos hle
      generalize hseed : (if c.line then lineSeed start else scanSeed start width c) = seed
      -- the two seeds differ in an error start that is not read
      have hagree : ∀ n, ((scanStep text c)^[n] seed).Agrees ((scanStep text c)^[n] (scanSeed start width c)) := by
        intro n
        cases hl : c.line with
        | false => rw [hl, if_neg Bool.false_ne_true] at hseed; exact .inl (by rw [← hseed])
        | true =>
            obtain rfl := hc.eq_line hl
            obtain rfl := hline hl
            rw [hl, if_pos rfl] at hseed
            rw [← hseed]
            exact Scan.Agrees.scanSteps_line (.inr ⟨rfl, start, rfl⟩) n
      have hstop : seed.stop = start + width := by
        rw [← hseed]
        split
        · rename_i hl; rw [hline hl]; rfl
        · rfl
      have herror : seed.scanError = 0 := by rw [← hseed]; split <;> rfl
      have hinv' : ScanInv text start seed := ⟨by omega, by omega, .inl herror⟩
      obtain ⟨k, hk⟩ : ∃ k, budgetedScan text _ seed = (scanStep text _)^[k] seed := budgetedScan_steps hc
      rw [scanLoop_eq hinv rfl]
      unfold budgetedToken
      dsimp only
      cases hend : (budgetedScan text c seed).ended text.length with
      | true =>
          rw [if_pos rfl, hk, scanEnd_unique hinv' (hk ▸ hend)]
          exact .inl ((hagree _).settledToken c)
      | false =>
          rw [if_neg Bool.false_ne_true]
          refine .inr ⟨c, budgetedScan text c seed, ⟨hc, hend, hk ▸ hinv'.steps k, fun hs => ?_,
            ⟨scanSeed start width c, k, hinv, hk ▸ hagree k, ?_⟩, ?_⟩, rfl⟩
          · rw [hk]
            exact (scanSteps_boundary (hstop ▸ hbound hs) herror k).1
          · rw [hnext, scanLoop_eq hinv rfl]
          · by_contra hshort
            rw [budgetedScan_ended hc (by omega)] at hend
            cases hend

/-- **No budget is spent on a text of at most 1024 bytes.** -/
theorem windowToken_eq_nextToken {text : View} (h : text.length ≤ 1024) (start : Nat) :
    windowToken text start = nextToken text start := by
  rcases Nat.lt_trichotomy start text.length with hlt | rfl | hgt
  · rcases windowToken_eq_or_cut hlt with heq | ⟨c, st, hcut, -⟩
    · exact heq
    · have := hcut.long
      omega
  · simp [windowToken, nextToken]
  · simp [windowToken, nextToken, hgt]

/-- Open rounds take a byte each. -/
theorem iterate_round_stop {text : View} {c : ScanClass} {seed : Scan} {round : Scan → Scan}
    (hround : ∀ s : Scan, s.ended text.length = false → Advances (scanStep text c) s (round s)) {n : Nat}
    (hopen : ((settle (Scan.ended text.length) round)^[n] seed).ended text.length = false) :
    seed.stop + n ≤ ((settle (Scan.ended text.length) round)^[n] seed).stop := by
  induction n with
  | zero => exact Nat.le_refl _
  | succ n ih =>
      rw [Function.iterate_succ_apply'] at hopen ⊢
      generalize (settle (Scan.ended text.length) round)^[n] seed = st at ih hopen
      cases hst : st.ended text.length with
      | true =>
          rw [settle_of_fin _ hst, hst] at hopen
          cases hopen
      | false =>
          rw [settle_of_not_fin _ hst] at hopen ⊢
          have hlt := (hround st hst).stop_lt hst hopen
          have hle := ih hst
          omega

/-- The stop of a scan does not move back. -/
theorem scanStep_stop_le (text : View) (c : ScanClass) (st : Scan) (n : Nat) :
    st.stop ≤ ((scanStep text c)^[n] st).stop := by
  induction n with
  | zero => exact Nat.le_refl _
  | succ n ih =>
      rw [Function.iterate_succ_apply']
      generalize (scanStep text c)^[n] st = s at ih
      cases hopen : s.ended text.length with
      | true => rwa [scanStep_of_ended hopen]
      | false => exact Nat.le_trans ih (scanStep_spec hopen).le

theorem settledToken_stop (text : View) (start : Nat) (c : ScanClass) (st : Scan) :
    (settledToken text start c st).stop = st.stop := by
  unfold settledToken
  split <;> rfl

/-- A scan that is still open behind its budget has more than 1024 bytes. -/
theorem budgetedToken_of_short {text : View} {start width : Nat} {c : ScanClass} (hc : OneClass c)
    (hline : c.line = false) (hpos : 0 < width) (hle : start + width ≤ text.length)
    (hshort : (scanEnd text start c (scanSeed start width c)).stop ≤ start + 1024) :
    budgetedToken text start c (scanSeed start width c) =
      settledToken text start c (scanEnd text start c (scanSeed start width c)) := by
  have hinv := scanSeed_inv (c := c) hpos hle
  obtain ⟨k, hk⟩ : ∃ k, budgetedScan text c (scanSeed start width c) = (scanStep text c)^[k] (scanSeed start width c) :=
    budgetedScan_steps hc
  unfold budgetedToken
  dsimp only
  cases hend : (budgetedScan text c (scanSeed start width c)).ended text.length with
  | true => rw [if_pos rfl, hk, scanEnd_unique hinv (hk ▸ hend)]
  | false =>
      exfalso
      have hbudget : 1024 ≤ scanBudget c := by
        unfold scanBudget
        repeat' split
        all_goals decide
      have hstop : start + width + scanBudget c ≤ (budgetedScan text c (scanSeed start width c)).stop := by
        have hscan : budgetedScan text c (scanSeed start width c) =
            (settle (Scan.ended text.length) (scanRound text c))^[scanBudget c] (scanSeed start width c) := by
          rw [budgetedScan, hline, if_neg Bool.false_ne_true]
        rw [hscan] at hend ⊢
        exact iterate_round_stop (fun s hs => scanRound_advances hc hline hs) hend
      -- the reference scan goes on from the state that the budget has reached
      have hlater : (budgetedScan text c (scanSeed start width c)).stop ≤
          (scanEnd text start c (scanSeed start width c)).stop := by
        have hended := scanEnd_ended (c := c) (hinv.steps (c := c) k)
        have hsame : scanEnd text start c ((scanStep text c)^[k] (scanSeed start width c)) =
            scanEnd text start c (scanSeed start width c) := by
          rw [scanEnd, ← Function.iterate_add_apply]
          refine scanEnd_unique hinv ?_
          rw [Function.iterate_add_apply]
          exact hended
        rw [← hsame, hk]
        exact scanStep_stop_le text c _ _
      omega

/-- **No budget cuts a token of at most 1024 bytes**, line comments apart. -/
theorem windowToken_of_short {text : View} {start : Nat} (h : start < text.length)
    (hline : (headClass text start).line = false) (hshort : (nextToken text start).stop ≤ start + 1024) :
    windowToken text start = nextToken text start := by
  rw [nextToken_of_lt h] at hshort ⊢
  rw [windowToken_of_lt h, ← headWidth_eq hline]
  simp only [hline, Bool.false_or, Bool.false_eq_true, if_false] at hshort ⊢
  split at hshort
  · next herr => rw [if_pos herr, if_pos herr]
  · next herr =>
      rw [if_neg herr, if_neg herr]
      split at hshort
      · next hsome =>
          rw [if_pos hsome, if_pos hsome]
          obtain ⟨hpos, hle, -⟩ := headWidth_bounds h
          rw [scanLoop_eq (scanSeed_inv hpos hle) rfl, settledToken_stop] at hshort
          rw [scanLoop_eq (scanSeed_inv hpos hle) rfl]
          rcases headClass_cases (by simpa using herr) with hc | ⟨-, hnone⟩
          · exact budgetedToken_of_short hc hline hpos hle hshort
          · rw [hnone] at hsome
            cases hsome
      · next hsome => rw [if_neg hsome, if_neg hsome]

end MncsCompiler
