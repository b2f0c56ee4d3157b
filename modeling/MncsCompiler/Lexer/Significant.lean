import MncsCompiler.Lexer.PageFree
import Mathlib.Logic.Relation

/-!
# `Lexer.Significant` — the first token that is not trivia

The reference is a relation: `FirstSignificant text start t` holds when clean trivia tokens lead from `start` to
the token `t`, which is not one. `significant` computes it on every text. The global form skips budgeted *pieces*
of trivia, restarting the lexer at the end of each, and looks at no more than 2050 tokens; it is exact as long as
its restarts end where the reference does.
-/

namespace MncsCompiler

open BoundedLoop

/-! ## Two lexers, one text -/

/-- **The two lexers agree** on every text of one view and every page composition of it. -/
theorem nextTokenGlobal_eq_nextToken {text : View} (c : Composition text) (h : text.length ≤ 1024) (start : Nat) :
    nextTokenGlobal c.pages c.stride text.length start = nextToken text start := by
  rw [nextTokenGlobal_eq, windowToken_eq_nextToken h]

/-- A keyword over a page edge. -/
theorem nextTokenGlobal_eq_nextToken_let :
    nextTokenGlobal [[108, 101], [116]] 2 3 0 = nextToken [108, 101, 116] 0 :=
  nextTokenGlobal_eq_nextToken
    ({ pages := [[108, 101], [116]], stride := 2, valid := by decide, content := rfl, small := by decide } :
      Composition [108, 101, 116])
    (by decide) 0

/-! ## Progress -/

theorem nextToken_of_ge {text : View} {start : Nat} (h : text.length ≤ start) :
    (nextToken text start).kind = 0 ∧ (nextToken text start).stop = text.length := by
  rcases Nat.lt_or_eq_of_le h with hgt | rfl
  · simp [nextToken, hgt, invalidCursor]
  · simp [nextToken, eofToken]

theorem windowToken_of_ge {text : View} {start : Nat} (h : text.length ≤ start) :
    windowToken text start = nextToken text start := by
  rcases Nat.lt_or_eq_of_le h with hgt | rfl
  · simp [nextToken, windowToken, hgt]
  · simp [nextToken, windowToken]

/-- The kind and the diagnostic of a cut token. -/
theorem cutToken_diagnostic (start : Nat) (c : ScanClass) (st : Scan) :
    ((cutToken start c st).kind = 7 ∧ (cutToken start c st).diagnostic = 5) ∨
      (1 ≤ (cutToken start c st).kind ∧ (cutToken start c st).kind ≤ 3 ∧ (cutToken start c st).diagnostic = 6) := by
  unfold cutToken
  split
  · exact .inl ⟨rfl, rfl⟩
  · refine .inr ⟨?_, ?_, rfl⟩
    all_goals
      dsimp only
      split
      · decide
      · split <;> decide

theorem cutToken_span (start : Nat) (c : ScanClass) (st : Scan) :
    (cutToken start c st).start = start ∧ (cutToken start c st).stop = st.stop := by
  unfold cutToken
  split <;> exact ⟨rfl, rfl⟩

/-- **Every token of the window lexer makes progress** inside the text. -/
theorem windowToken_progress {text : View} {start : Nat} (h : start < text.length) :
    start < (windowToken text start).stop ∧ (windowToken text start).stop ≤ text.length ∧
      (windowToken text start).kind ≠ 0 := by
  rcases windowToken_eq_or_cut h with heq | ⟨c, st, hcut, heq⟩
  · rw [heq]
    have hlex := nextToken_lexed h
    refine ⟨hlex.lt, hlex.le, fun h0 => ?_⟩
    have hknown := hlex.known
    rw [h0] at hknown
    exact absurd hknown (by decide)
  · rw [heq, (cutToken_span start c st).2]
    refine ⟨hcut.inv.lt, hcut.inv.le, fun h0 => ?_⟩
    rcases cutToken_diagnostic start c st with ⟨h7, -⟩ | ⟨h1, -⟩ <;> omega

/-- On character boundaries a token of the window lexer begins at its start and ends on a boundary. -/
theorem windowToken_boundary {text : View} {start : Nat} (h : Boundary text start) :
    (windowToken text start).start = start ∧ Boundary text (windowToken text start).stop := by
  rcases Nat.lt_or_eq_of_le h.le with hlt | heq
  · rcases windowToken_eq_or_cut hlt with heq | ⟨c, st, hcut, heq⟩
    · rw [heq]; exact nextToken_boundary h hlt
    · rw [heq, (cutToken_span start c st).1, (cutToken_span start c st).2]
      exact ⟨rfl, hcut.boundary h⟩
  · have htoken : windowToken text start = eofToken start := by simp [windowToken, heq]
    rw [htoken]
    exact ⟨rfl, h⟩

/-! ## The reference -/

/-- Clean trivia leads from `start` to the token `t`, which is not clean trivia. -/
inductive FirstSignificant (text : View) : Nat → Token → Prop
  | here {start : Nat} (h : isTrivia (nextToken text start) = false) :
      FirstSignificant text start (nextToken text start)
  | skip {start : Nat} {t : Token} (h : isTrivia (nextToken text start) = true)
      (hrest : FirstSignificant text (nextToken text start).stop t) : FirstSignificant text start t

theorem FirstSignificant.not_trivia {text : View} {start : Nat} {t : Token} (h : FirstSignificant text start t) :
    isTrivia t = false := by
  induction h with
  | here h => exact h
  | skip _ _ ih => exact ih

theorem FirstSignificant.unique {text : View} {start : Nat} {t u : Token} (h : FirstSignificant text start t)
    (h' : FirstSignificant text start u) : t = u := by
  induction h with
  | here h =>
      cases h' with
      | here _ => rfl
      | skip hu _ => rw [h] at hu; cases hu
  | skip h _ ih =>
      cases h' with
      | here hu => rw [h] at hu; cases hu
      | skip _ hrest => exact ih hrest

theorem isTrivia_lt {text : View} {start : Nat} (h : isTrivia (nextToken text start) = true) :
    start < text.length := by
  by_contra hge
  have hk := (nextToken_of_ge (Nat.not_lt.mp hge)).1
  simp [isTrivia, hk] at h

/-- A significant token that is not the end of the source lies ahead, inside the text. -/
theorem FirstSignificant.progress {text : View} {start : Nat} {t : Token} (h : FirstSignificant text start t)
    (hkind : t.kind ≠ 0) : start < t.stop ∧ t.stop ≤ text.length := by
  induction h with
  | @here start h =>
      have hlt : start < text.length := by
        by_contra hge
        exact hkind (nextToken_of_ge (Nat.not_lt.mp hge)).1
      exact ⟨(nextToken_lexed hlt).lt, (nextToken_lexed hlt).le⟩
  | @skip start t h _ ih =>
      obtain ⟨hlt, hle⟩ := ih hkind
      exact ⟨Nat.lt_trans (nextToken_lexed (isTrivia_lt h)).lt hlt, hle⟩

/-- Skipping `n` trivia tokens with enough fuel finds the first significant token. -/
theorem skipTrivia_first {text : View} {start n : Nat} (hn : text.length ≤ start + n) :
    FirstSignificant text start ((skipTrivia text)^[n] (nextToken text start)) := by
  induction n generalizing start with
  | zero =>
      refine .here ?_
      cases htr : isTrivia (nextToken text start) with
      | false => rfl
      | true => have := isTrivia_lt htr; omega
  | succ n ih =>
      rw [Function.iterate_succ_apply]
      cases htr : isTrivia (nextToken text start) with
      | false =>
          have hfix : skipTrivia text (nextToken text start) = nextToken text start := by simp [skipTrivia, htr]
          rw [hfix, Function.iterate_fixed hfix]
          exact .here htr
      | true =>
          have hstep : skipTrivia text (nextToken text start) = nextToken text (nextToken text start).stop := by
            simp [skipTrivia, htr]
          have hprog := (nextToken_lexed (isTrivia_lt htr)).lt
          rw [hstep]
          exact .skip htr (ih (by omega))

/-- **`significant` computes the reference** on a text of any length. -/
theorem significant_first (text : View) (start : Nat) : FirstSignificant text start (significant text start) := by
  unfold significant
  dsimp only
  split
  · rename_i h
    exact .here (by simpa using h)
  rename_i h1
  have htr : isTrivia (nextToken text start) = true := by simpa using h1
  have hsecond : skipTrivia text (nextToken text start) = nextToken text (nextToken text start).stop := by
    simp [skipTrivia, htr]
  rw [hsecond]
  refine .skip htr ?_
  split
  · rename_i h
    exact .here (by simpa using h)
  · rename_i h2
    have htr2 : isTrivia (nextToken text (nextToken text start).stop) = true := by simpa using h2
    have hguard := iterate_guard (p := fun t => !isTrivia t) (f := skipTrivia text) (k := id)
      (b := fun _ token => if !isTrivia token then .ret token else .next (skipTrivia text token))
      (fun _ _ => rfl) 0
      (text.length - (nextToken text (nextToken text start).stop).start)
      (nextToken text (nextToken text start).stop)
    have hsettle : settle (fun t => !isTrivia t) (skipTrivia text) = skipTrivia text := by
      funext t
      cases ht : isTrivia t <;> simp [settle, skipTrivia, ht]
    rw [hsettle] at hguard
    rw [hguard]
    have hstart : (nextToken text (nextToken text start).stop).start = (nextToken text start).stop := by
      rcases (nextToken_lexed (isTrivia_lt htr2)).begins with hb | ⟨h7, -⟩
      · exact hb
      · simp [isTrivia, h7] at htr2
    refine skipTrivia_first ?_
    omega

/-- The reference lexer has no budget: its trivia is never cut. -/
theorem isTriviaCont_nextToken (text : View) (start : Nat) :
    isTriviaCont (nextToken text start) = isTrivia (nextToken text start) := by
  rcases Nat.lt_or_ge start text.length with hlt | hge
  · have hdiag := (nextToken_lexed hlt).diagnosed
    have hsix : ((nextToken text start).diagnostic == 6) = false := by
      refine beq_false_of_ne (fun h6 => ?_)
      rw [h6] at hdiag
      simp [diagnosticOk] at hdiag
    rw [isTriviaCont, isTrivia, hsix, Bool.or_false]
  · simp [isTriviaCont, isTrivia, (nextToken_of_ge hge).1]

/-! ## Skipping pieces -/

/-- `n` pieces of trivia, cut or whole, lead from one start to another. -/
inductive Skips (next : Nat → Token) : Nat → Nat → Nat → Prop
  | none (p : Nat) : Skips next 0 p p
  | piece {n p q : Nat} (h : isTriviaCont (next p) = true) (hrest : Skips next n (next p).stop q) :
      Skips next (n + 1) p q

/-- The next token after a piece of trivia, and any other token itself. -/
def skipPiece (next : Nat → Token) (token : Token) : Token :=
  if isTriviaCont token then next token.stop else token

theorem skipPiece_of_not {next : Nat → Token} {t : Token} (h : isTriviaCont t = false) : skipPiece next t = t := by
  simp [skipPiece, h]

theorem skipPiece_of_trivia {next : Nat → Token} {t : Token} (h : isTriviaCont t = true) :
    skipPiece next t = next t.stop := by
  simp [skipPiece, h]

/-- One bounded skipping loop. -/
theorem skip_loop (next : Nat → Token) {k : Token → Token} (hk : ∀ t, isTriviaCont t = false → k t = t) (n : Nat)
    (t : Token) :
    (iterate (fun (_ : Nat) (token : Token) =>
      if !isTriviaCont token then Pass.ret token else .next (next token.stop)) 0 n t).after k =
      k ((skipPiece next)^[n] t) := by
  have hsettle : settle (fun t => !isTriviaCont t) (fun t => next t.stop) = skipPiece next := by
    funext t
    cases ht : isTriviaCont t <;> simp [settle, skipPiece, ht]
  rw [← hsettle]
  refine iterate_guard (fun _ s => ?_) 0 n t
  cases hs : isTriviaCont s with
  | false => simp [hk s hs]
  | true => rfl

/-- Two loops in a row. -/
theorem skip_loops (next : Nat → Token) (m n : Nat) (t : Token) :
    (iterate (fun (_ : Nat) (token : Token) =>
      if !isTriviaCont token then Pass.ret token else .next (next token.stop)) 0 m t).after (fun t =>
        (iterate (fun (_ : Nat) (token : Token) =>
          if !isTriviaCont token then Pass.ret token else .next (next token.stop)) 0 n t).after id) =
      (skipPiece next)^[n + m] t := by
  have hsecond : ∀ t, (iterate (fun (_ : Nat) (token : Token) =>
      if !isTriviaCont token then Pass.ret token else .next (next token.stop)) 0 n t).after id =
      (skipPiece next)^[n] t := fun t => skip_loop next (fun _ _ => rfl) n t
  rw [skip_loop next (fun t ht => ?_), hsecond, Function.iterate_add_apply]
  rw [hsecond, Function.iterate_fixed (skipPiece_of_not ht)]

/-- The loops of `significant_global` skip at most 2049 pieces. -/
theorem significantFrom_eq (next : Nat → Token) (start : Nat) :
    significantFrom next start = (skipPiece next)^[2049] (next start) := by
  have hcount : 2049 = 1023 + 1024 + 1 + 1 := rfl
  rw [hcount, Function.iterate_succ_apply, Function.iterate_succ_apply]
  unfold significantFrom
  dsimp only
  rw [skip_loops]
  cases h1 : isTriviaCont (next start) with
  | false =>
      rw [skipPiece_of_not h1, skipPiece_of_not h1, Function.iterate_fixed (skipPiece_of_not h1),
        if_pos (by decide)]
  | true =>
      rw [skipPiece_of_trivia h1]
      cases h2 : isTriviaCont (next (next start).stop) with
      | false =>
          rw [skipPiece_of_not h2, Function.iterate_fixed (skipPiece_of_not h2),
            if_neg (by decide), if_pos (by decide)]
      | true => rw [skipPiece_of_trivia h2, if_neg (by decide), if_neg (by decide)]

/-- Where skipping ends: after at most `n` pieces, at a token that is no piece of trivia or out of fuel. -/
theorem skipPiece_skips (next : Nat → Token) (n start : Nat) :
    ∃ m p, m ≤ n ∧ Skips next m start p ∧ (skipPiece next)^[n] (next start) = next p ∧
      (isTriviaCont (next p) = true → m = n) := by
  induction n generalizing start with
  | zero => exact ⟨0, start, Nat.le_refl _, .none start, rfl, fun _ => rfl⟩
  | succ n ih =>
      rw [Function.iterate_succ_apply]
      cases htr : isTriviaCont (next start) with
      | false =>
          refine ⟨0, start, Nat.zero_le _, .none start, ?_, fun h => absurd h (by simp [htr])⟩
          rw [skipPiece_of_not htr, Function.iterate_fixed (skipPiece_of_not htr)]
      | true =>
          obtain ⟨m, p, hm, hs, heq, hfull⟩ := ih (next start).stop
          refine ⟨m + 1, p, Nat.succ_le_succ hm, .piece htr hs, ?_, fun h => by rw [hfull h]⟩
          rw [skipPiece_of_trivia htr, heq]

/-- Pieces that lead to a token that is none are what skipping finds. -/
theorem Skips.skipPiece {next : Nat → Token} {m n start p : Nat} (h : Skips next m start p) (hmn : m ≤ n)
    (hp : isTriviaCont (next p) = false) : (skipPiece next)^[n] (next start) = next p := by
  induction h generalizing n with
  | none p => exact Function.iterate_fixed (skipPiece_of_not hp) n
  | piece htr _ ih =>
      cases n with
      | zero => exact absurd hmn (Nat.not_succ_le_zero _)
      | succ n =>
          rw [Function.iterate_succ_apply, skipPiece_of_trivia htr]
          exact ih (Nat.le_of_succ_le_succ hmn) hp

/-! ## What `significant_global` promises, and when -/

/-- Reference tokens lead from one offset to another. -/
def Lexes (text : View) : Nat → Nat → Prop :=
  Relation.ReflTransGen (fun p q => p < text.length ∧ q = (nextToken text p).stop)

/-- An offset where the reference lexing of the whole text starts a token, or its end. -/
def TokenBoundary (text : View) (start : Nat) : Prop := Lexes text 0 start

theorem Lexes.boundary {text : View} {p q : Nat} (h : Lexes text p q) (hp : Boundary text p) : Boundary text q := by
  induction h with
  | refl => exact hp
  | tail _ hstep ih =>
      obtain ⟨hlt, rfl⟩ := hstep
      exact (nextToken_boundary ih hlt).2

theorem Lexes.le {text : View} {p q : Nat} (h : Lexes text p q) : p ≤ q := by
  induction h with
  | refl => exact Nat.le_refl _
  | tail _ hstep ih =>
      obtain ⟨hlt, rfl⟩ := hstep
      exact Nat.le_trans ih (Nat.le_of_lt (nextToken_lexed hlt).lt)

/-- The token starts inside a comment of the reference lexing from `start`. -/
def InsideComment (text : View) (start : Nat) (t : Token) : Prop :=
  ∃ p, Lexes text start p ∧ ((nextToken text p).kind = 2 ∨ (nextToken text p).kind = 3) ∧
    (nextToken text p).start ≤ t.start ∧ t.start < (nextToken text p).stop

/-- A significant-token request done right: an error, or the first significant token of the reference; never a
    token out of a comment under a clean diagnostic, and never a piece of trivia. -/
structure SignificantMeets (text : View) (start : Nat) (t : Token) : Prop where
  result : t.diagnostic ≠ 0 ∨ FirstSignificant text start t
  comment : t.diagnostic = 0 → ¬ InsideComment text start t
  trivia : isTriviaCont t = false

/-- The pieces skipped from `start`, at most 2049 of them, end at an error or where the first significant token
    of the reference starts. -/
def SkipsToSignificant (text : View) (next : Nat → Token) (start : Nat) : Prop :=
  ∃ n p, n ≤ 2049 ∧ Skips next n start p ∧ isTriviaCont (next p) = false ∧
    ((next p).diagnostic ≠ 0 ∨ ∃ t, FirstSignificant text start t ∧ t.start = p)

section Meets

variable {text : View} {start : Nat}

/-- On boundaries the first significant token is the reference token at its own start. -/
theorem FirstSignificant.at_start {t : Token} (h : FirstSignificant text start t) (hb : Boundary text start) :
    t = nextToken text t.start ∧ start ≤ t.start := by
  induction h with
  | @here start h =>
      have hstart : (nextToken text start).start = start := by
        rcases Nat.lt_or_eq_of_le hb.le with hlt | rfl
        · exact (nextToken_boundary hb hlt).1
        · simp [nextToken, eofToken]
      exact ⟨by rw [hstart], Nat.le_of_eq hstart.symm⟩
  | @skip start t h _ ih =>
      have hlt := isTrivia_lt h
      obtain ⟨heq, hle⟩ := ih (nextToken_boundary hb hlt).2
      exact ⟨heq, Nat.le_trans (Nat.le_of_lt (nextToken_lexed hlt).lt) hle⟩

/-- A clean significant token stands in no comment of the reference. -/
theorem FirstSignificant.not_inside {t : Token} (h : FirstSignificant text start t) (hb : Boundary text start)
    (hclean : t.diagnostic = 0) : ¬ InsideComment text start t := by
  induction h with
  | @here start h =>
      rintro ⟨p, hlex, hkind, hle, hlt⟩
      rcases Relation.ReflTransGen.cases_head hlex with rfl | ⟨q, ⟨hin, rfl⟩, hrest⟩
      · have htrivia : isTrivia (nextToken text start) = true := by
          rcases hkind with hk | hk <;> simp [isTrivia, hk, hclean]
        rw [h] at htrivia
        cases htrivia
      · -- a later comment starts past the end of the token
        obtain ⟨hstart, hstop⟩ := nextToken_boundary hb hin
        have hpast : (nextToken text start).stop ≤ p := Lexes.le hrest
        have hlong := (nextToken_lexed hin).lt
        have hpb : Boundary text p := Lexes.boundary hrest hstop
        have hp : (nextToken text p).start = p := by
          rcases Nat.lt_or_eq_of_le hpb.le with hp | rfl
          · exact (nextToken_boundary hpb hp).1
          · simp [nextToken, eofToken]
        omega
  | @skip start t h hrest ih =>
      have hin := isTrivia_lt h
      obtain ⟨hstart, hstop⟩ := nextToken_boundary hb hin
      rintro ⟨p, hlex, hkind, hle, hlt⟩
      rcases Relation.ReflTransGen.cases_head hlex with rfl | ⟨q, ⟨_, rfl⟩, hlater⟩
      · have := (hrest.at_start hstop).2
        omega
      · exact ih hstop hclean ⟨p, hlater, hkind, hle, hlt⟩

theorem Skips.boundary {n p q : Nat} (h : Skips (windowToken text) n p q) (hb : Boundary text p) :
    Boundary text q := by
  induction h with
  | none p => exact hb
  | piece _ _ ih => exact ih (windowToken_boundary hb).2

/-- A clean token of the window lexer is the reference token. -/
theorem windowToken_of_clean (h : (windowToken text start).diagnostic = 0) :
    windowToken text start = nextToken text start := by
  rcases Nat.lt_or_ge start text.length with hlt | hge
  · rcases windowToken_eq_or_cut hlt with heq | ⟨c, st, -, heq⟩
    · exact heq
    · rw [heq] at h
      rcases cutToken_diagnostic start c st with ⟨-, hd⟩ | ⟨-, -, hd⟩ <;> omega
  · exact windowToken_of_ge hge

/-- The page-free form of the exact condition. -/
theorem significantFrom_meets_iff (hb : Boundary text start) :
    SignificantMeets text start (significantFrom (windowToken text) start) ↔
      SkipsToSignificant text (windowToken text) start := by
  rw [significantFrom_eq]
  constructor
  · rintro ⟨hresult, -, htrivia⟩
    obtain ⟨n, p, hn, hskips, heq, -⟩ := skipPiece_skips (windowToken text) 2049 start
    rw [heq] at hresult htrivia
    refine ⟨n, p, hn, hskips, htrivia, hresult.imp_right (fun hfirst => ⟨_, hfirst, ?_⟩)⟩
    exact (windowToken_boundary (hskips.boundary hb)).1
  · rintro ⟨n, p, hn, hskips, htrivia, hend⟩
    have heq := hskips.skipPiece hn htrivia
    rw [heq]
    have hresult : (windowToken text p).diagnostic ≠ 0 ∨ FirstSignificant text start (windowToken text p) := by
      by_cases hd : (windowToken text p).diagnostic = 0
      · rcases hend with hne | ⟨t, hfirst, rfl⟩
        · exact absurd hd hne
        · have ht := (hfirst.at_start hb).1
          rw [windowToken_of_clean hd, ← ht]
          exact .inr hfirst
      · exact .inl hd
    refine ⟨hresult, fun hclean => ?_, htrivia⟩
    exact (hresult.resolve_left (not_not.mpr hclean)).not_inside hb hclean

/-- Where no piece is cut the pieces are the reference trivia. -/
theorem Skips.firstSignificant {n p : Nat} (h : Skips (windowToken text) n start p)
    (huncut : ∀ m q, Skips (windowToken text) m start q → isTriviaCont (windowToken text q) = true →
      (windowToken text q).diagnostic = 0)
    {t : Token} (ht : FirstSignificant text p t) : FirstSignificant text start t := by
  induction h with
  | none p => exact ht
  | @piece n p q htr hrest ih =>
      have hclean := windowToken_of_clean (huncut 0 p (.none p) htr)
      have htrivia : isTrivia (nextToken text p) = true := by
        have hd := huncut 0 p (.none p) htr
        rw [hclean] at htr hd
        simp only [isTriviaCont, hd] at htr
        simpa [isTrivia, hd] using htr
      refine .skip htrivia ?_
      rw [← hclean]
      exact ih (fun m q hs hq => huncut (m + 1) q (.piece htr hs) hq) ht

/-- **Uncut trivia is skipped exactly.** -/
theorem SkipsToSignificant.of_uncut (hb : Boundary text start) {n p : Nat} (hn : n ≤ 2049)
    (h : Skips (windowToken text) n start p) (hp : isTriviaCont (windowToken text p) = false)
    (huncut : ∀ m q, Skips (windowToken text) m start q → isTriviaCont (windowToken text q) = true →
      (windowToken text q).diagnostic = 0) :
    SkipsToSignificant text (windowToken text) start := by
  refine ⟨n, p, hn, h, hp, ?_⟩
  by_cases hd : (windowToken text p).diagnostic = 0
  · right
    have heq := windowToken_of_clean hd
    have htrivia : isTrivia (nextToken text p) = false := by
      rw [heq] at hp hd
      simp only [isTriviaCont, hd] at hp
      simpa [isTrivia, hd] using hp
    refine ⟨nextToken text p, h.firstSignificant huncut (.here htrivia), ?_⟩
    rw [← heq]
    exact (windowToken_boundary (h.boundary hb)).1
  · exact .inl hd

end Meets

/-- On one view the pieces are the reference trivia, and 2049 of them are enough. -/
theorem significantGlobal_eq_significant {text : View} (c : Composition text) (h : text.length ≤ 1024) (start : Nat) :
    significantGlobal c.pages c.stride text.length start = significant text start := by
  have hnext : nextTokenGlobal c.pages c.stride text.length = nextToken text := by
    funext start
    rw [nextTokenGlobal_eq, windowToken_eq_nextToken h]
  have hskip : ∀ n start, (skipPiece (nextToken text))^[n] (nextToken text start) =
      (skipTrivia text)^[n] (nextToken text start) := by
    intro n start
    induction n generalizing start with
    | zero => rfl
    | succ n ih =>
        rw [Function.iterate_succ_apply, Function.iterate_succ_apply, skipPiece, skipTrivia,
          isTriviaCont_nextToken]
        cases htr : isTrivia (nextToken text start) with
        | true => exact ih _
        | false => exact ih _
  rw [significantGlobal, hnext, significantFrom_eq, hskip]
  exact (skipTrivia_first (by omega)).unique (significant_first text start)

/-! ## A long line comment -/

/-- A line comment of `n` letters and a semicolon, with no line end. -/
def commentLine (n : Nat) : View := [47, 47] ++ List.replicate n 97 ++ [59]

section CommentLine

variable (n : Nat)

@[simp] theorem length_commentLine : (commentLine n).length = n + 3 := by simp [commentLine]

theorem byteAt_commentLine (i : Nat) : byteAt (commentLine n) i =
    if i < 2 then 47 else if i < n + 2 then 97 else if i = n + 2 then 59 else 256 := by
  unfold byteAt
  rw [length_commentLine]
  unfold byte commentLine
  rw [List.getD_eq_getElem?_getD, List.append_assoc]
  by_cases h1 : i < 2
  · rw [List.getElem?_append_left (by simpa using h1), if_pos h1, if_pos (by omega)]
    obtain rfl | rfl : i = 0 ∨ i = 1 := by omega
    · rfl
    · rfl
  · rw [if_neg h1, List.getElem?_append_right (by simpa using Nat.not_lt.mp h1)]
    by_cases h2 : i < n + 2
    · rw [if_pos h2, if_pos (by omega), List.getElem?_append_left (by simp; omega),
        List.getElem?_replicate, if_pos (by simp; omega)]
      rfl
    · rw [if_neg h2, List.getElem?_append_right (by simp; omega)]
      by_cases h3 : i = n + 2
      · rw [if_pos h3, if_pos (by omega)]
        simp [h3]
      · rw [if_neg h3, if_neg (by omega)]

theorem wellFormed_commentLine : WellFormed (commentLine n) := by
  refine wellFormed_of_ascii (fun b hb => ?_)
  simp only [commentLine, List.mem_append, List.mem_cons, List.not_mem_nil, or_false, List.mem_replicate] at hb
  rcases hb with ((rfl | rfl) | ⟨-, rfl⟩) | rfl <;> decide

/-- No byte of the comment ends it or leaves ASCII. -/
theorem byteAt_commentLine_plain {i : Nat} (h2 : 2 ≤ i) (hlt : i < n + 3) :
    byteAt (commentLine n) i < 128 ∧ byteAt (commentLine n) i ≠ 10 := by
  rw [byteAt_commentLine, if_neg (by omega)]
  split
  · decide
  · rw [if_pos (by omega)]
    decide

/-- The reference token at the start is the whole comment. -/
theorem nextToken_commentLine :
    nextToken (commentLine n) 0 = { kind := 2, start := 0, stop := n + 3, diagnostic := 0 } := by
  have hlt : 0 < (commentLine n).length := by simp
  have ha : byteAt (commentLine n) 0 = 47 := by simp [byteAt_commentLine]
  have hb : byteAt (commentLine n) (0 + 1) = 47 := by simp [byteAt_commentLine]
  have hclass : headClass (commentLine n) 0 = lineClass := by
    simp [headClass, headWord, headSpace, ha, hb, startClassGlobal, lineClass]
  have hwidth : headWidth (commentLine n) 0 = 2 := by simp [headWidth, hclass, ha, lineClass]
  have hinv : ScanInv (commentLine n) 0 (scanSeed 0 2 lineClass) := scanSeed_inv (by decide) (by simp)
  -- the comment scan never ends before the text does
  have hrun : ∀ k, ((scanStep (commentLine n) lineClass)^[k] (scanSeed 0 2 lineClass)).done = false ∧
      ((scanStep (commentLine n) lineClass)^[k] (scanSeed 0 2 lineClass)).scanError = 0 ∧
      2 ≤ ((scanStep (commentLine n) lineClass)^[k] (scanSeed 0 2 lineClass)).stop := by
    intro k
    induction k with
    | zero => exact ⟨rfl, rfl, Nat.le_refl _⟩
    | succ k ih =>
        rw [Function.iterate_succ_apply']
        generalize (scanStep (commentLine n) lineClass)^[k] (scanSeed 0 2 lineClass) = st at ih
        obtain ⟨hdone, h0, hstop⟩ := ih
        cases hopen : st.ended (commentLine n).length with
        | true => rw [scanStep_of_ended hopen]; exact ⟨hdone, h0, hstop⟩
        | false =>
            have hin := (ended_eq_false.mp hopen).2
            rw [length_commentLine] at hin
            obtain ⟨hlow, hten⟩ := byteAt_commentLine_plain n hstop hin
            rw [scanStep_line hopen hlow]
            exact ⟨by simp [hten], h0, by simp only; omega⟩
  have hend := scanEnd_ended (c := lineClass) hinv
  have hle := (hinv.steps (c := lineClass) ((commentLine n).length - 0)).le
  obtain ⟨hdone, h0, -⟩ := hrun ((commentLine n).length - 0)
  unfold scanEnd at hend
  rw [nextToken_of_lt hlt, hclass, hwidth, if_neg (by simp [ha]), if_pos (by decide),
    scanLoop_eq hinv rfl, scanEnd]
  generalize (scanStep (commentLine n) lineClass)^[(commentLine n).length - 0] (scanSeed 0 2 lineClass) = st at *
  have hstop : st.stop = n + 3 := by
    simp only [Scan.ended, hdone, Bool.false_or, decide_eq_true_eq, length_commentLine] at hend hle
    omega
  simp [settledToken, scanToken, h0, hstop, lineClass]

/-- A round over letters takes eight of them. -/
theorem lineRound_commentLine {st : Scan} (hdone : st.done = false) (h2 : 2 ≤ st.stop) (h8 : st.stop + 8 ≤ n + 2) :
    lineRound (commentLine n) st = { st with stop := st.stop + 8 } := by
  have hbyte : ∀ k, k < 8 → byteAt (commentLine n) (st.stop + k) = 97 := by
    intro k hk
    rw [byteAt_commentLine, if_neg (by omega), if_pos (by omega)]
  have hwindow : ∀ k, k ≤ 4 → lineWindow (commentLine n) { st with stop := st.stop + k } =
      { st with stop := st.stop + k + 4 } := by
    intro k hk
    have h0 := hbyte k (by omega)
    have h1 := hbyte (k + 1) (by omega)
    have h2 := hbyte (k + 2) (by omega)
    have h3 := hbyte (k + 3) (by omega)
    have hin : ∀ j, j < 4 → ¬ st.stop + k + j ≥ n + 3 := by intro j hj; omega
    simp only [← Nat.add_assoc] at h1 h2 h3
    simp [lineWindow, Composition.window4, h0, h1, h2, h3, hin 1 (by decide), hin 2 (by decide), hin 3 (by decide)]
  have hfirst : lineWindow (commentLine n) st = { st with stop := st.stop + 4 } := hwindow 0 (by decide)
  have hopen : Scan.ended (commentLine n).length { st with stop := st.stop + 4 } = false :=
    ended_eq_false.mpr ⟨hdone, by simp; omega⟩
  unfold lineRound
  dsimp only
  rw [hfirst, hopen, if_neg Bool.false_ne_true, if_pos (by simp), hwindow 4 (by decide)]

/-- The line-comment budget ends inside a comment of 8192 letters or more. -/
theorem windowToken_commentLine (hn : 8192 ≤ n) :
    windowToken (commentLine n) 0 = { kind := 2, start := 0, stop := 8194, diagnostic := 6 } := by
  have hlt : 0 < (commentLine n).length := by simp
  have ha : byteAt (commentLine n) 0 = 47 := by simp [byteAt_commentLine]
  have hb : byteAt (commentLine n) (0 + 1) = 47 := by simp [byteAt_commentLine]
  have hclass : headClass (commentLine n) 0 = lineClass := by
    simp [headClass, headWord, headSpace, ha, hb, startClassGlobal, lineClass]
  have hrounds : ∀ k, k ≤ 1024 → (settle (Scan.ended (commentLine n).length) (lineRound (commentLine n)))^[k]
      (lineSeed 0) = { lineSeed 0 with stop := 2 + 8 * k } := by
    intro k
    induction k with
    | zero => intro _; rfl
    | succ k ih =>
        intro hk
        have hopen : Scan.ended (commentLine n).length { lineSeed 0 with stop := 2 + 8 * k } = false :=
          ended_eq_false.mpr ⟨rfl, by simp; omega⟩
        rw [Function.iterate_succ_apply', ih (by omega), settle_of_not_fin _ hopen,
          lineRound_commentLine n rfl (by simp) (by simp; omega)]
        rfl
  have hscan : budgetedScan (commentLine n) lineClass (lineSeed 0) = { lineSeed 0 with stop := 8194 } := by
    unfold budgetedScan
    rw [if_pos (show lineClass.line = true from rfl), hrounds 1024 (Nat.le_refl _)]
  have hopen : Scan.ended (commentLine n).length { lineSeed 0 with stop := 8194 } = false :=
    ended_eq_false.mpr ⟨rfl, by simp; omega⟩
  rw [windowToken_of_lt hlt, hclass, if_neg (by simp [ha]), if_pos (by decide), budgetedToken, hscan]
  dsimp only
  rw [hopen, if_neg Bool.false_ne_true]
  rfl

end CommentLine

/-- What follows the cut of a comment of 8192 letters is lexed as plain text. -/
theorem significantFrom_commentLine : significantFrom (windowToken (commentLine 8192)) 0 =
    { kind := 63, start := 8194, stop := 8195, diagnostic := 0 } := by
  have hlt : 8194 < (commentLine 8192).length := by rw [length_commentLine]; decide
  have ha : byteAt (commentLine 8192) 8194 = 59 := by rw [byteAt_commentLine]; decide
  have hb : byteAt (commentLine 8192) (8194 + 1) = 256 := by rw [byteAt_commentLine]; decide
  have hclass : headClass (commentLine 8192) 8194 =
      { line := false, block := false, word := false, number := false, ws := false } := by
    simp [headClass, headWord, headSpace, ha, hb, startClassGlobal]
  have hrestart : windowToken (commentLine 8192) 8194 =
      { kind := 63, start := 8194, stop := 8195, diagnostic := 0 } := by
    rw [windowToken_of_lt hlt, hclass, if_neg (by simp [ha]), if_neg (by decide), if_neg (by decide), ha, hb]
    rfl
  have hcut := windowToken_commentLine 8192 (Nat.le_refl _)
  have hskips : Skips (windowToken (commentLine 8192)) 1 0 8194 := by
    refine .piece (by rw [hcut]; decide) ?_
    rw [hcut]
    exact .none 8194
  rw [significantFrom_eq, hskips.skipPiece (by decide) (by rw [hrestart]; decide), hrestart]

end MncsCompiler
