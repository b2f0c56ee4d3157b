import MncsCompiler.Lexer.Numbers
import MncsCompiler.Source.Decode

/-!
# `Lexer.Words` — the bytes of word tokens

Kind 4 (identifiers) and the keyword kinds come from one scan. A word begins with no digit, and each of its bytes is a
word character or belongs to a scalar outside ASCII. The keyword table alone tells the kinds apart. The trivia before a
word or a number never shows a digit behind its leading spaces.
-/

namespace MncsCompiler

open BoundedLoop

/-- The kinds that a word may have. -/
def wordKind (kind : Nat) : Prop := kind = 4 ∨ (10 ≤ kind ∧ kind ≤ 39)

/-- A byte of a word. -/
def wordByte (b : Nat) : Prop := wordChar b = true ∨ 128 ≤ b

theorem wordByte.ge {b : Nat} (h : wordByte b) : 48 ≤ b := by
  rcases h with hword | hhigh
  · by_contra hlow
    have hall : ∀ b < 48, wordChar b = false := by decide
    rw [hall b (Nat.not_le.mp hlow)] at hword
    cases hword
  · exact Nat.le_trans (by decide) hhigh

theorem wordByte.not_space {b : Nat} (h : wordByte b) : space b = false := by
  have hge := h.ge
  simp [space]
  omega

/-! ## The scan -/

/-- Every byte of a decoded scalar is outside ASCII when the first one is. -/
theorem utf8Scalar_high {text : View} {o : Nat} (hvalid : (utf8Scalar text o).valid = true)
    (hhigh : 128 ≤ byteAt text o) {j : Nat} (hj : o ≤ j) (hlt : j < (utf8Scalar text o).next) :
    128 ≤ byteAt text j := by
  generalize hs : utf8Scalar text o = s at hvalid hlt
  obtain ⟨scalar, next, valid⟩ := s
  cases hvalid
  obtain ⟨hle, c, -, hbytes⟩ := (utf8Scalar_valid_iff text o scalar next).mp hs
  have hread : ∀ k, o ≤ k → k < next → ∃ b ∈ String.utf8EncodeChar c, byteAt text k = b.toNat := by
    intro k hk hkn
    have hlen : k < text.length := Nat.lt_of_lt_of_le hkn hle
    refine ⟨text[k], ?_, by rw [byteAt_of_lt hlen, byte_eq_getElem hlen]⟩
    rw [← hbytes, List.mem_iff_getElem]
    exact ⟨k - o, by simp; omega, by simp [Nat.add_sub_cancel' hk]⟩
  obtain ⟨b, hb, hbyte⟩ := hread j hj hlt
  rw [hbyte]
  rcases encodeChar_cases c with ⟨b0, hc, hb0, hform⟩ | ⟨b0, b1, -, -, h0, h1, hform⟩ |
    ⟨b0, b1, b2, -, -, h0, h1, h2, hform⟩ | ⟨b0, b1, b2, b3, -, h0, h1, h2, h3, hform⟩
  · -- a single byte is the first one
    obtain ⟨b', hb', hfirst⟩ := hread o (Nat.le_refl o) (Nat.lt_of_le_of_lt hj hlt)
    rw [hform, List.mem_singleton] at hb'
    subst hb'
    omega
  all_goals
    rw [hform] at hb
    simp only [List.mem_cons, List.not_mem_nil, or_false] at hb
    rcases hb with rfl | hb
    · omega
  · subst hb
    omega
  · rcases hb with rfl | rfl <;> omega
  · rcases hb with rfl | rfl | rfl <;> omega

/-- A byte of a run of a class. -/
def runByte (c : ScanClass) (b : Nat) : Prop :=
  (c.word = true ∧ wordChar b = true) ∨ (c.ws = true ∧ space b = true) ∨ 128 ≤ b

/-- What a scan of a word or of white space from `start` has read. -/
def RunRead (text : View) (c : ScanClass) (start : Nat) (st : Scan) : Prop :=
  ∀ j, start ≤ j → j < st.stop → runByte c (byteAt text j)

section Runs

variable {text : View} {c : ScanClass} {start : Nat} {st : Scan}

theorem RunRead.step (hc : c = wordClass ∨ c = wsClass) (h : RunRead text c start st) :
    RunRead text c start (scanStep text c st) := by
  cases hopen : st.ended text.length with
  | true => rwa [scanStep_of_ended hopen]
  | false =>
      intro j hj hlt
      rcases Nat.lt_or_ge j st.stop with hbefore | hat
      · exact h j hj hbefore
      by_cases hb : byteAt text st.stop < 128
      · rcases hc with rfl | rfl
        · rw [scanStep_word hopen hb] at hlt
          dsimp only at hlt
          split at hlt
          · next hword =>
              have hjs : j = st.stop := by omega
              rw [hjs]
              exact .inl ⟨rfl, hword⟩
          · omega
        · rw [scanStep_ws hopen hb] at hlt
          dsimp only at hlt
          split at hlt
          · next hspace =>
              have hjs : j = st.stop := by omega
              rw [hjs]
              exact .inr (.inl ⟨rfl, hspace⟩)
          · omega
      · have hhigh := Nat.not_lt.mp hb
        rw [scanStep_run hopen hc hhigh, runScalar] at hlt
        dsimp only at hlt
        split at hlt
        · next haccepted =>
            rw [Bool.and_eq_true] at haccepted
            exact .inr (.inr (utf8Scalar_high haccepted.1 hhigh hat hlt))
        · omega

theorem RunRead.steps (hc : c = wordClass ∨ c = wsClass) (h : RunRead text c start st) (n : Nat) :
    RunRead text c start ((scanStep text c)^[n] st) := by
  induction n with
  | zero => exact h
  | succ n ih =>
      rw [Function.iterate_succ_apply']
      exact ih.step hc

/-- The first scalar of a run. -/
theorem scanSeed_run (hclass : headClass text start = c) (hc : c = wordClass ∨ c = wsClass) :
    RunRead text c start (scanSeed start (headWidth text start) c) := by
  intro j hj hlt
  have hhead : c.word = true ∨ c.ws = true := by
    rcases hc with rfl | rfl
    · exact .inl rfl
    · exact .inr rfl
  have hcomment : c.line = false ∧ c.block = false := by
    rcases hc with rfl | rfl <;> exact ⟨rfl, rfl⟩
  by_cases hhigh : byteAt text start ≥ 128
  · -- a scalar outside ASCII that begins the run
    have hvalid : (headScalar text start).valid = true := by
      have hstart : headWord text start = true ∨ headSpace text start = true := by
        rw [← hclass] at hhead
        simp only [headClass, startClassGlobal, Bool.or_eq_true, Bool.and_eq_true, decide_eq_true_eq,
          beq_iff_eq] at hhead
        rcases hhead with hword | hws
        · exact .inl (hword.resolve_left (by omega))
        · exact .inr (hws.resolve_left (by omega))
      simp only [headWord, headSpace, Bool.and_eq_true] at hstart
      rcases hstart with hstart | hstart <;> exact hstart.1.2
    have hscalar : headScalar text start = utf8Scalar text start := by rw [headScalar, if_pos hhigh]
    rw [hscalar] at hvalid
    refine .inr (.inr (utf8Scalar_high hvalid hhigh hj ?_))
    rw [scanSeed, headWidth, if_pos hhigh, hscalar] at hlt
    dsimp only at hlt
    omega
  · have hwidth : headWidth text start = 1 := by
      rw [headWidth, if_neg hhigh, hclass, hcomment.1, hcomment.2]
      rfl
    rw [scanSeed, hwidth] at hlt
    have hjs : j = start := Nat.le_antisymm (Nat.le_of_lt_succ hlt) hj
    have hlow : headWord text start = false ∧ headSpace text start = false := by simp [headWord, headSpace, hhigh]
    have hword : ∀ a < 128, ((65 ≤ a && a ≤ 90) || (97 ≤ a && a ≤ 122) || a == 95) = true → wordChar a = true := by
      decide
    have hspace : ∀ a < 128, (a == 32 || (9 ≤ a && a ≤ 13)) = true → space a = true := by decide
    rw [hjs]
    rw [← hclass] at hhead ⊢
    refine hhead.imp (fun hhead => ⟨hhead, hword _ (Nat.not_le.mp hhigh) ?_⟩)
      fun hhead => .inl ⟨hhead, hspace _ (Nat.not_le.mp hhigh) ?_⟩
    all_goals
      rw [headClass, startClassGlobal, hlow.1, hlow.2] at hhead
      simpa using hhead

/-! ## The tokens -/

/-- How the window lexer begins: with an error, with a scan of one class, or with punctuation. -/
theorem windowToken_head (h : start < text.length) : (windowToken text start).kind = 7 ∨
    (OneClass (headClass text start) ∧ windowToken text start = budgetedToken text start (headClass text start)
      (if (headClass text start).line then lineSeed start
        else scanSeed start (headWidth text start) (headClass text start))) ∨
    windowToken text start = punctuationToken start (byteAt text start) (byteAt text (start + 1)) := by
  by_cases herr : byteAt text start ≥ 128 ∧ (headWord text start || headSpace text start) = false
  · left
    rw [windowToken_of_lt h, if_pos (by simp [herr.1, herr.2])]
    rfl
  rcases headClass_cases herr with hc | ⟨hb, hnone⟩
  · exact .inr (.inl ⟨hc, windowToken_scan h herr hc⟩)
  · right
    right
    have hskip : ¬ (decide (byteAt text start ≥ 128) && !(headWord text start || headSpace text start)) = true := by
      simp [Nat.not_le.mpr hb]
    rw [windowToken_of_lt h, if_neg hskip, hnone]
    rfl

/-- A budgeted scan that makes a run of its class. -/
theorem budgetedToken_run (hclass : headClass text start = c) (hc : c = wordClass ∨ c = wsClass)
    (h : start < text.length)
    (hclean : (budgetedToken text start c (scanSeed start (headWidth text start) c)).kind ≠ 7) :
    ∃ st, ScanInv text start st ∧ RunRead text c start st ∧
      ((budgetedToken text start c (scanSeed start (headWidth text start) c) = scanToken text start c st) ∨
        (c = wsClass ∧ budgetedToken text start c (scanSeed start (headWidth text start) c) = cutToken start c st)) := by
  obtain ⟨hpos, hle, -⟩ := headWidth_bounds h
  have hone : OneClass c := by rcases hc with rfl | rfl <;> constructor
  obtain ⟨k, hk⟩ := @budgetedScan_steps text c (scanSeed start (headWidth text start) c) hone
  have hinv := (scanSeed_inv (c := c) hpos hle).steps (c := c) k
  have hread := (scanSeed_run hclass hc).steps hc k
  rw [budgetedToken, hk] at hclean ⊢
  generalize (scanStep text c)^[k] (scanSeed start (headWidth text start) c) = st at hinv hread hclean
  refine ⟨st, hinv, hread, ?_⟩
  split at hclean
  · next hended =>
      rw [if_pos hended]
      unfold settledToken at hclean ⊢
      split at hclean
      · exact absurd rfl hclean
      · next hzero => exact .inl (if_neg hzero)
  · next hopen =>
      rw [if_neg hopen]
      rcases hc with rfl | rfl
      · exact absurd rfl hclean
      · exact .inr ⟨rfl, rfl⟩

end Runs

structure WordToken (text : View) (t : Token) : Prop where
  lt : t.start < t.stop
  le : t.stop ≤ text.length
  first : digit (byteAt text t.start) = false
  bytes : ∀ j, t.start ≤ j → j < t.stop → wordByte (byteAt text j)
  kind : keyword text t.start t.stop = t.kind

/-- The class of a budgeted scan, from the kind of its token. -/
theorem budgetedToken_class {text : View} {start : Nat} {c : ScanClass} (seed : Scan) (hc : OneClass c) :
    (wordKind (budgetedToken text start c seed).kind → c = wordClass) ∧
      ((budgetedToken text start c seed).kind = 1 → c = wsClass) ∧
      ((budgetedToken text start c seed).kind = 2 ∨ (budgetedToken text start c seed).kind = 3 →
        c = lineClass ∨ c = blockClass) ∧
      (budgetedToken text start c seed).kind < 50 := by
  unfold budgetedToken wordKind
  generalize budgetedScan text c seed = st
  have hrange := keyword_range text start st.stop
  dsimp only
  split
  · unfold settledToken
    split
    · simp [scanErrorToken]
    · cases hc with
      | line => simp [scanToken, lineClass]
      | block => simp [scanToken, blockClass]
      | ws => simp [scanToken, wsClass]
      | number =>
          simp only [scanToken, numberClass, Bool.false_eq_true, if_false]
          split <;> simp
      | word =>
          simp [scanToken, wordClass]
          omega
  · cases hc <;> simp [cutToken, lineClass, blockClass, wsClass, numberClass, wordClass]

/-- **Words of the window lexer.** -/
theorem windowToken_word {text : View} {start : Nat} (h : wordKind (windowToken text start).kind) :
    WordToken text (windowToken text start) := by
  rcases Nat.lt_or_ge start text.length with hlt | hge
  · rcases windowToken_head hlt with herr | ⟨hc, hscan⟩ | hpunct
    · rw [herr, wordKind] at h
      omega
    · rw [hscan] at h ⊢
      have hclass := (budgetedToken_class _ hc).1 h
      have hfirst : digit (byteAt text start) = false := congrArg ScanClass.number hclass
      rw [hclass, if_neg (show ¬ wordClass.line = true from Bool.false_ne_true)] at h ⊢
      have hclean : (budgetedToken text start wordClass (scanSeed start (headWidth text start) wordClass)).kind ≠ 7 := by
        intro hseven
        rw [hseven, wordKind] at h
        omega
      obtain ⟨st, hinv, hread, hsettled | ⟨hws, -⟩⟩ := budgetedToken_run hclass (.inl rfl) hlt hclean
      · rw [hsettled]
        refine ⟨hinv.lt, hinv.le, hfirst, ?_, rfl⟩
        intro j hj hjlt
        rcases hread j hj hjlt with ⟨-, hword⟩ | ⟨hws, -⟩ | hhigh
        · exact .inl hword
        · cases hws
        · exact .inr hhigh
      · cases hws
    · rw [hpunct, wordKind, punctuationToken] at h
      have hrange := punctuation_range (byteAt text start) (byteAt text (start + 1))
      dsimp only at h
      omega
  · rw [windowToken_of_ge hge, (nextToken_of_ge hge).1, wordKind] at h
    omega

/-- **Trivia of the window lexer**: white space, or something that begins with a slash. -/
theorem windowToken_trivia {text : View} {start : Nat} (h : isTriviaCont (windowToken text start) = true) :
    byteAt text start = 47 ∨ ∀ j, start ≤ j → j < (windowToken text start).stop →
      space (byteAt text j) = true ∨ 128 ≤ byteAt text j := by
  rw [isTriviaCont, Bool.and_eq_true, Bool.and_eq_true, decide_eq_true_eq, decide_eq_true_eq] at h
  obtain ⟨⟨hone, hthree⟩, -⟩ := h
  rcases Nat.lt_or_ge start text.length with hlt | hge
  · rcases windowToken_head hlt with herr | ⟨hc, hscan⟩ | hpunct
    · omega
    · rw [hscan] at hone hthree ⊢
      obtain ⟨-, hws, hcomment, -⟩ := @budgetedToken_class text start _ (if (headClass text start).line then
        lineSeed start else scanSeed start (headWidth text start) (headClass text start)) hc
      by_cases hkind : (budgetedToken text start (headClass text start) (if (headClass text start).line then
        lineSeed start else scanSeed start (headWidth text start) (headClass text start))).kind = 1
      · right
        have hclass := hws hkind
        rw [hclass, if_neg (show ¬ wsClass.line = true from Bool.false_ne_true)] at hkind ⊢
        obtain ⟨st, -, hread, hbudget⟩ := budgetedToken_run hclass (.inr rfl) hlt (by omega)
        have hstop : (budgetedToken text start wsClass (scanSeed start (headWidth text start) wsClass)).stop = st.stop := by
          rcases hbudget with hsettled | ⟨-, hcut⟩
          · rw [hsettled]
            rfl
          · rw [hcut]
            rfl
        rw [hstop]
        intro j hj hjlt
        rcases hread j hj hjlt with ⟨hword, -⟩ | ⟨-, hspace⟩ | hhigh
        · cases hword
        · exact .inl hspace
        · exact .inr hhigh
      · left
        have hclass := hcomment (by omega)
        have hslash : (headClass text start).line = true ∨ (headClass text start).block = true := by
          rcases hclass with hclass | hclass <;> rw [hclass]
          · exact .inl rfl
          · exact .inr rfl
        simp only [headClass, startClassGlobal, Bool.and_eq_true, beq_iff_eq] at hslash
        omega
    · rw [hpunct, punctuationToken] at hone hthree
      have hrange := punctuation_range (byteAt text start) (byteAt text (start + 1))
      dsimp only at hone hthree
      omega
  · rw [windowToken_of_ge hge, (nextToken_of_ge hge).1] at hone
    omega

/-- **One-character punctuation of the window lexer.** -/
theorem windowToken_punctuation {text : View} {start : Nat}
    (h : 50 ≤ (windowToken text start).kind ∧ (windowToken text start).kind < 80) :
    (windowToken text start).start = start ∧ (windowToken text start).stop = start + 1 := by
  rcases Nat.lt_or_ge start text.length with hlt | hge
  · rcases windowToken_head hlt with herr | ⟨hc, hscan⟩ | hpunct
    · omega
    · rw [hscan] at h
      have hsmall := (@budgetedToken_class text start _ (if (headClass text start).line then
        lineSeed start else scanSeed start (headWidth text start) (headClass text start)) hc).2.2.2
      omega
    · rw [hpunct] at h ⊢
      unfold punctuationToken at h ⊢
      dsimp only at h ⊢
      exact ⟨rfl, by rw [if_neg (by omega)]⟩
  · rw [windowToken_of_ge hge, (nextToken_of_ge hge).1] at h
    omega

/-! ## Tokens behind trivia -/

/-- `significant_global` comes to a token of the window lexer. -/
theorem significantGlobal_skips {text : View} (c : Composition text) (cursor : Nat) :
    ∃ n p, Skips (windowToken text) n cursor p ∧
      significantGlobal c.pages c.stride text.length cursor = windowToken text p := by
  have hnext : nextTokenGlobal c.pages c.stride text.length = windowToken text := by
    funext start
    exact nextTokenGlobal_eq c start
  obtain ⟨n, p, -, hskips, heq, -⟩ := skipPiece_skips (windowToken text) 2049 cursor
  rw [significantGlobal, hnext, significantFrom_eq]
  exact ⟨n, p, hskips, heq⟩

theorem significantGlobal_word {text : View} (c : Composition text) {cursor : Nat}
    (h : wordKind (significantGlobal c.pages c.stride text.length cursor).kind) :
    WordToken text (significantGlobal c.pages c.stride text.length cursor) := by
  obtain ⟨n, p, -, heq⟩ := significantGlobal_skips c cursor
  rw [heq] at h ⊢
  exact windowToken_word h

theorem significantGlobal_punctuation {text : View} (c : Composition text) {cursor : Nat}
    (h : 50 ≤ (significantGlobal c.pages c.stride text.length cursor).kind ∧
      (significantGlobal c.pages c.stride text.length cursor).kind < 80) :
    (significantGlobal c.pages c.stride text.length cursor).stop =
      (significantGlobal c.pages c.stride text.length cursor).start + 1 := by
  obtain ⟨n, p, -, heq⟩ := significantGlobal_skips c cursor
  rw [heq] at h ⊢
  obtain ⟨hstart, hstop⟩ := windowToken_punctuation h
  rw [hstart, hstop]

/-- A piece of trivia moves on inside the text. -/
theorem windowToken_trivia_lt {text : View} {start : Nat} (h : isTriviaCont (windowToken text start) = true) :
    start < (windowToken text start).stop := by
  rcases Nat.lt_or_ge start text.length with hlt | hge
  · exact (windowToken_progress hlt).1
  · rw [windowToken_of_ge hge, isTriviaCont, (nextToken_of_ge hge).1] at h
    cases h

theorem Skips.le {text : View} {n p q : Nat} (h : Skips (windowToken text) n p q) : p ≤ q := by
  induction h with
  | none p => exact Nat.le_refl p
  | piece htrivia _ ih => exact Nat.le_trans (Nat.le_of_lt (windowToken_trivia_lt htrivia)) ih

/-- **No digit stands behind the leading spaces of skipped trivia.** -/
theorem Skips.not_digit {text : View} {n p q : Nat} (h : Skips (windowToken text) n p q) {j : Nat} (hj : p ≤ j)
    (hlt : j < q) (hspaces : ∀ i, p ≤ i → i < j → space (byteAt text i) = true) : digit (byteAt text j) = false := by
  have hlow : ∀ b, space b = true ∨ 128 ≤ b → digit b = false := by
    intro b hb
    rw [space, Bool.or_eq_true, Bool.and_eq_true, beq_iff_eq, decide_eq_true_eq, decide_eq_true_eq] at hb
    simp [digit]
    omega
  induction h with
  | none p => omega
  | @piece n p q htrivia _ ih =>
      rcases windowToken_trivia htrivia with hslash | hrun
      · rcases Nat.eq_or_lt_of_le hj with rfl | hpj
        · rw [hslash]
          rfl
        · have hfirst := hspaces p (Nat.le_refl p) hpj
          rw [hslash] at hfirst
          cases hfirst
      · rcases Nat.lt_or_ge j (windowToken text p).stop with hin | hout
        · exact hlow _ (hrun j hj hin)
        · exact ih hout hlt fun i hi hij =>
            hspaces i (Nat.le_trans (Nat.le_of_lt (windowToken_trivia_lt htrivia)) hi) hij

/-- A word or a number starts where the skipping ends. -/
theorem windowToken_start {text : View} {start : Nat}
    (h : wordKind (windowToken text start).kind ∨ (windowToken text start).kind = 5) :
    (windowToken text start).start = start := by
  rw [wordKind] at h
  rcases Nat.lt_or_ge start text.length with hlt | hge
  · rcases windowToken_eq_or_cut hlt with heq | ⟨c, st, -, heq⟩
    · rw [heq] at h ⊢
      refine (nextToken_lexed hlt).begins.resolve_right ?_
      rintro ⟨hseven, -⟩
      omega
    · rw [heq] at h
      have hcut := cutToken_diagnostic start c st
      omega
  · rw [windowToken_of_ge hge, (nextToken_of_ge hge).1] at h
    omega

/-- The trivia before a word or a number. -/
theorem significantGlobal_gap {text : View} (c : Composition text) {cursor : Nat}
    (h : wordKind (significantGlobal c.pages c.stride text.length cursor).kind ∨
      (significantGlobal c.pages c.stride text.length cursor).kind = 5) :
    cursor ≤ (significantGlobal c.pages c.stride text.length cursor).start ∧
      ∀ j, cursor ≤ j → j < (significantGlobal c.pages c.stride text.length cursor).start →
        (∀ i, cursor ≤ i → i < j → space (byteAt text i) = true) → digit (byteAt text j) = false := by
  obtain ⟨n, p, hskips, heq⟩ := significantGlobal_skips c cursor
  rw [heq] at h ⊢
  rw [windowToken_start h]
  exact ⟨hskips.le, fun j hj hlt => hskips.not_digit hj hlt⟩

/-! ## `up_to` -/

/-- The keyword `up_to` is spelled so. -/
theorem WordToken.up_to {text : View} {t : Token} (h : WordToken text t) (hkind : t.kind = 32) :
    t.stop = t.start + 5 ∧ byteAt text t.start = 117 ∧ byteAt text (t.start + 1) = 112 ∧
      byteAt text (t.start + 2) = 95 ∧ byteAt text (t.start + 3) = 116 ∧ byteAt text (t.start + 4) = 111 := by
  have hlt := h.lt
  have hle := h.le
  have hkeyword := h.kind
  rw [hkind, keyword, if_neg (by simp; omega), keywordKind] at hkeyword
  have hword : spelling (byte text) t.start (t.stop - t.start) = [117, 112, 95, 116, 111] := by
    have hall : ∀ e ∈ keywordTable, e.2 = 32 → e.1 = [117, 112, 95, 116, 111] := by decide
    cases hlookup : keywordTable.lookup (spelling (byte text) t.start (t.stop - t.start)) with
    | none =>
        rw [hlookup] at hkeyword
        cases hkeyword
    | some k =>
        rw [hlookup] at hkeyword
        obtain ⟨l₁, l₂, hsplit, -⟩ := List.lookup_eq_some_iff.mp hlookup
        have hmem : (spelling (byte text) t.start (t.stop - t.start), k) ∈ keywordTable := by
          rw [hsplit]
          exact List.mem_append_right _ List.mem_cons_self
        exact hall _ hmem hkeyword
  have hlen : t.stop - t.start = 5 := by
    have hlength := congrArg List.length hword
    rwa [spelling, List.length_map, List.length_range] at hlength
  rw [hlen] at hword
  simp only [spelling, List.range, List.range.loop, List.map_cons, List.map_nil, List.cons.injEq, and_true,
    Nat.add_zero] at hword
  rw [byteAt_of_lt (by omega), byteAt_of_lt (by omega), byteAt_of_lt (by omega), byteAt_of_lt (by omega),
    byteAt_of_lt (by omega)]
  exact ⟨by omega, hword⟩

end MncsCompiler
