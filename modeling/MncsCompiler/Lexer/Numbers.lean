import MncsCompiler.Lexer.PageFree
import MncsCompiler.Lexer.Significant

/-!
# `Lexer.Numbers` — the bytes of number tokens

Kinds 5 (integers) and 6 (versions) come from one scan. An integer is a run of digits. A version begins with a digit
and takes further digits and, from its first dot on, any number of dots.
-/

namespace MncsCompiler

open BoundedLoop

/-! ## The scan -/

/-- What a number scan from `start` has read: digits, and dots once it is dotted. -/
structure NumberRead (text : View) (start : Nat) (st : Scan) : Prop where
  first : digit (byteAt text start) = true
  bytes : ∀ j, start ≤ j → j < st.stop → digit (byteAt text j) = true ∨ (st.dotted = true ∧ byteAt text j = 46)

theorem NumberRead.step {text : View} {start : Nat} {st : Scan} (h : NumberRead text start st) :
    NumberRead text start (scanStep text numberClass st) := by
  cases hopen : st.ended text.length with
  | true => rwa [scanStep_of_ended hopen]
  | false =>
      refine ⟨h.first, ?_⟩
      rw [scanStep_number hopen]
      intro j hj hlt
      dsimp only at hlt ⊢
      -- a byte read before this step, or the byte that the step takes
      rcases Nat.lt_or_ge j st.stop with hbefore | hat
      · refine (h.bytes j hj hbefore).imp_right ?_
        rintro ⟨hdotted, hdot⟩
        exact ⟨by rw [hdotted, Bool.true_or], hdot⟩
      · split at hlt
        · next htaken =>
            have hjs : j = st.stop := by omega
            subst hjs
            rw [Bool.or_eq_true] at htaken
            refine htaken.imp_right ?_
            intro hdot
            refine ⟨by rw [hdot, Bool.or_true], ?_⟩
            rw [Bool.and_eq_true, beq_iff_eq] at hdot
            exact hdot.1
        · omega

theorem NumberRead.steps {text : View} {start : Nat} {st : Scan} (h : NumberRead text start st) (n : Nat) :
    NumberRead text start ((scanStep text numberClass)^[n] st) := by
  induction n with
  | zero => exact h
  | succ n ih =>
      rw [Function.iterate_succ_apply']
      exact ih.step

/-! ## The tokens -/

/-- The bytes of a number token of a kind. -/
structure NumberToken (text : View) (t : Token) : Prop where
  lt : t.start < t.stop
  le : t.stop ≤ text.length
  first : digit (byteAt text t.start) = true
  bytes : ∀ j, t.start ≤ j → j < t.stop → digit (byteAt text j) = true ∨ (t.kind = 6 ∧ byteAt text j = 46)

/-- The class of a scan that makes a number token. -/
theorem settledToken_number {text : View} {start : Nat} {c : ScanClass} {st : Scan} (hc : OneClass c)
    (h : (settledToken text start c st).kind = 5 ∨ (settledToken text start c st).kind = 6) :
    c = numberClass ∧ st.scanError = 0 := by
  unfold settledToken at h
  split at h
  · rcases h with h | h <;> cases h
  · next hclean =>
      refine ⟨?_, not_not.mp hclean⟩
      cases hc with
      | number => rfl
      | line | block | ws => rcases h with h | h <;> cases h
      | word =>
          have hrange := keyword_range text start st.stop
          simp only [scanToken, wordClass, Bool.false_eq_true, if_false, if_true] at h
          omega

/-- **Number tokens of the reference lexer.** -/
theorem nextToken_number {text : View} {start : Nat}
    (h : (nextToken text start).kind = 5 ∨ (nextToken text start).kind = 6) :
    NumberToken text (nextToken text start) := by
  have hlt : start < text.length := by
    by_contra hge
    have hend := nextToken_of_ge (Nat.not_lt.mp hge)
    omega
  rw [nextToken_of_lt hlt] at h ⊢
  split at h
  · next => rcases h with h | h <;> cases h
  · next herr =>
      rw [if_neg herr]
      split at h
      · next hsome =>
          rw [if_pos hsome]
          have hword : ¬ (byteAt text start ≥ 128 ∧ (headWord text start || headSpace text start) = false) := by
            simpa using herr
          rcases headClass_cases hword with hc | ⟨-, hnone⟩
          · obtain ⟨hpos, hle, -⟩ := headWidth_bounds hlt
            have hinv := scanSeed_inv (c := headClass text start) hpos hle
            rw [scanLoop_eq hinv rfl] at h ⊢
            obtain ⟨hnumber, hclean⟩ := settledToken_number hc h
            have hfirst : digit (byteAt text start) = true := congrArg ScanClass.number hnumber
            have hlow : ¬ byteAt text start ≥ 128 := by
              rw [digit, Bool.and_eq_true, decide_eq_true_eq, decide_eq_true_eq] at hfirst
              omega
            have hwidth : headWidth text start = 1 := by
              rw [headWidth, if_neg hlow, hnumber]
              rfl
            have hend : ScanInv text start (scanEnd text start (headClass text start)
                (scanSeed start (headWidth text start) (headClass text start))) := hinv.steps _
            have hread : NumberRead text start (scanEnd text start (headClass text start)
                (scanSeed start (headWidth text start) (headClass text start))) := by
              rw [hnumber, hwidth]
              refine NumberRead.steps ⟨hfirst, ?_⟩ _
              intro j hj hlt
              have hjs : j = start := Nat.le_antisymm (Nat.le_of_lt_succ hlt) hj
              rw [hjs]
              exact .inl hfirst
            rw [settledToken, if_neg (not_not.mpr hclean)]
            generalize scanEnd text start (headClass text start)
              (scanSeed start (headWidth text start) (headClass text start)) = st at hend hread
            refine ⟨hend.lt, hend.le, hfirst, ?_⟩
            intro j hj hlt
            refine (hread.bytes j hj hlt).imp_right ?_
            rintro ⟨hdotted, hdot⟩
            refine ⟨?_, hdot⟩
            rw [hnumber]
            simp [scanToken, numberClass, hdotted]
          · rw [hnone] at hsome
            cases hsome
      · next hnone =>
          have hrange := punctuation_range (byteAt text start) (byteAt text (start + 1))
          simp only [punctuationToken] at h
          omega

/-- **Number tokens of the window lexer**: a budget cuts no number in a way that leaves its kind. -/
theorem windowToken_number {text : View} {start : Nat}
    (h : (windowToken text start).kind = 5 ∨ (windowToken text start).kind = 6) :
    NumberToken text (windowToken text start) := by
  rcases Nat.lt_or_ge start text.length with hlt | hge
  · rcases windowToken_eq_or_cut hlt with heq | ⟨c, st, -, heq⟩
    · rw [heq] at h ⊢
      exact nextToken_number h
    · rw [heq] at h
      have hcut := cutToken_diagnostic start c st
      omega
  · rw [windowToken_of_ge hge] at h ⊢
    exact nextToken_number h

/-- A text of digits is one integer, as long as no budget can cut it. -/
theorem windowToken_digits {text : View} (hne : text ≠ []) (hdigits : ∀ j < text.length, digit (byteAt text j) = true)
    (hlen : text.length ≤ 1025) :
    windowToken text 0 = { kind := 5, start := 0, stop := text.length, diagnostic := 0 } := by
  have hlt : 0 < text.length := List.length_pos_iff.mpr hne
  have hfirst := hdigits 0 hlt
  have hlow : byteAt text 0 < 128 := by
    rw [digit, Bool.and_eq_true, decide_eq_true_eq, decide_eq_true_eq] at hfirst
    omega
  have hclass : headClass text 0 = numberClass := by
    have hhead : headWord text 0 = false ∧ headSpace text 0 = false := by
      simp [headWord, headSpace, Nat.not_le.mpr hlow]
    rw [headClass, hhead.1, hhead.2]
    rw [digit, Bool.and_eq_true, decide_eq_true_eq, decide_eq_true_eq] at hfirst
    simp only [startClassGlobal, numberClass, ScanClass.mk.injEq]
    have h47 : (byteAt text 0 == 47) = false := by simpa using show ¬ byteAt text 0 = 47 by omega
    have h95 : (byteAt text 0 == 95) = false := by simpa using show ¬ byteAt text 0 = 95 by omega
    have h32 : (byteAt text 0 == 32) = false := by simpa using show ¬ byteAt text 0 = 32 by omega
    have h65 : decide (65 ≤ byteAt text 0) = false := decide_eq_false (by omega)
    have h97 : decide (97 ≤ byteAt text 0) = false := decide_eq_false (by omega)
    have h13 : decide (byteAt text 0 ≤ 13) = false := decide_eq_false (by omega)
    simp [h47, h95, h32, h65, h97, h13, hfirst.1, hfirst.2]
  -- no step of the scan finds a byte to stop at
  have hrun : ∀ k, ((scanStep text numberClass)^[k] (scanSeed 0 1 numberClass)).done = false ∧
      ((scanStep text numberClass)^[k] (scanSeed 0 1 numberClass)).dotted = false := by
    intro k
    induction k with
    | zero => exact ⟨rfl, rfl⟩
    | succ k ih =>
        rw [Function.iterate_succ_apply']
        generalize (scanStep text numberClass)^[k] (scanSeed 0 1 numberClass) = st at ih
        cases hopen : st.ended text.length with
        | true => rwa [scanStep_of_ended hopen]
        | false =>
            have hbyte := hdigits st.stop (ended_eq_false.mp hopen).2
            have hdot : (byteAt text st.stop == 46) = false := by
              rw [digit, Bool.and_eq_true, decide_eq_true_eq, decide_eq_true_eq] at hbyte
              simp
              omega
            rw [scanStep_number hopen]
            simp [hbyte, hdot, ih.2]
  have hinv : ScanInv text 0 (scanSeed 0 1 numberClass) := scanSeed_inv (by decide) hlt
  obtain ⟨k, hk⟩ : ∃ k, budgetedScan text numberClass (scanSeed 0 1 numberClass) = _ := budgetedScan_steps .number
  have hended : (budgetedScan text numberClass (scanSeed 0 1 numberClass)).ended text.length = true :=
    budgetedScan_ended .number (show text.length ≤ 1 + 1024 by omega)
  have hstop := hinv.steps (c := numberClass) k
  obtain ⟨hdone, hdotted⟩ := hrun k
  rw [windowToken_of_lt hlt, hclass, if_neg (by simp [Nat.not_le.mpr hlow]),
    if_neg (show ¬ numberClass.line = true from Bool.false_ne_true),
    if_pos (show (numberClass.block || numberClass.word || numberClass.number || numberClass.ws) = true from rfl),
    if_neg (Nat.not_le.mpr hlow)]
  show budgetedToken text 0 numberClass (scanSeed 0 1 numberClass) = _
  rw [budgetedToken, hended, if_pos rfl, hk, settledToken]
  rw [hk] at hended
  generalize (scanStep text numberClass)^[k] (scanSeed 0 1 numberClass) = st at hended hstop hdone hdotted
  have hclean : st.scanError = 0 := by
    rcases hstop.error with h0 | ⟨hd, -⟩
    · exact h0
    · rw [hdone] at hd
      cases hd
  have hend : st.stop = text.length := by
    rw [Scan.ended, hdone, Bool.false_or, decide_eq_true_eq] at hended
    exact Nat.le_antisymm hstop.le hended
  rw [if_neg (by simp [hclean])]
  simp [scanToken, numberClass, hdotted, hend]

/-- Number tokens behind trivia. -/
theorem significantGlobal_number {text : View} (c : Composition text) {cursor : Nat}
    (h : (significantGlobal c.pages c.stride text.length cursor).kind = 5 ∨
      (significantGlobal c.pages c.stride text.length cursor).kind = 6) :
    NumberToken text (significantGlobal c.pages c.stride text.length cursor) := by
  have hnext : nextTokenGlobal c.pages c.stride text.length = windowToken text := by
    funext start
    exact nextTokenGlobal_eq c start
  obtain ⟨_, p, -, -, heq, -⟩ := skipPiece_skips (windowToken text) 2049 cursor
  rw [significantGlobal, hnext, significantFrom_eq, heq] at h ⊢
  exact windowToken_number h

end MncsCompiler
