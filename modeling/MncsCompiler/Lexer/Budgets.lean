import MncsCompiler.Lexer.PageFree

/-!
# `Lexer.Budgets` — what a budget may do to a token

`next_token_global` spends a bounded number of rounds on a token. On a scalar boundary of a well-formed source it
returns the token of the reference lexer, or a piece of it that says so: diagnostic 5 for a word or a number, 6 for
white space or a comment. The piece ends on a scalar boundary and is shorter than the reference token, except that
a token that ends exactly where its budget does is returned whole with that diagnostic, its end not yet seen
(`nextTokenGlobal_or_cut`); a block comment, whose end is part of it, is never returned so.
-/

namespace MncsCompiler

open BoundedLoop Composition

/-- A name, a keyword or a number. -/
def WordOrNumber (kind : Nat) : Prop := (4 ≤ kind ∧ kind ≤ 6) ∨ (10 ≤ kind ∧ kind ≤ 39)

/-- A piece of the reference token `ref` that says what it is. -/
structure CutPiece (text : View) (start : Nat) (t ref : Token) : Prop where
  begins : t.start = start ∧ ref.start = start
  nonempty : start < t.stop
  aligned : Boundary text t.stop
  within : t.stop ≤ ref.stop
  proper : ref.kind = 3 → t.stop < ref.stop
  diagnosed : (t.diagnostic = 5 ∧ WordOrNumber ref.kind) ∨
    (t.diagnostic = 6 ∧ t.kind = ref.kind ∧ 1 ≤ ref.kind ∧ ref.kind ≤ 3)

section Cut

variable {text : View} {c : ScanClass} {start : Nat} {st seed : Scan}

/-- The end of a scan is the end of each of its states. -/
theorem ScanInv.scanEnd_steps (h : ScanInv text start seed) (k : Nat) :
    scanEnd text start c ((scanStep text c)^[k] seed) = scanEnd text start c seed := by
  have hended := scanEnd_ended (c := c) (h.steps (c := c) k)
  rw [scanEnd, ← Function.iterate_add_apply]
  refine scanEnd_unique h ?_
  rw [Function.iterate_add_apply]
  exact hended

theorem ScanInv.stop_le_scanEnd (h : ScanInv text start seed) (k : Nat) :
    ((scanStep text c)^[k] seed).stop ≤ (scanEnd text start c seed).stop := by
  rw [← h.scanEnd_steps k]
  exact scanStep_stop_le text c _ _

/-- A block comment moves on with every step, also with its last one. -/
theorem scanStep_block_lt (h : st.ended text.length = false) : st.stop < (scanStep text blockClass st).stop := by
  by_cases hb : byteAt text st.stop < 128
  · rw [scanStep_block h hb]
    have hstop : st.stop < (if (byteAt text st.stop == 47 && byteAt text (st.stop + 1) == 42) ||
        (byteAt text st.stop == 42 && byteAt text (st.stop + 1) == 47) then st.stop + 2 else st.stop + 1) := by
      split <;> omega
    unfold blockMove
    dsimp only
    split
    · simp only [← apply_ite (st.stop + ·)] at hstop ⊢
      exact hstop
    · simp only [← apply_ite (st.stop + ·)] at hstop ⊢
      exact hstop
  · have hnext := (utf8Scalar_progress (ended_eq_false.mp h).2).1
    rw [scanStep_comment h (.inr rfl) (Nat.not_lt.mp hb), commentScalar]
    split
    · exact hnext
    · exact hnext

theorem Scan.Agrees.stop_eq {s t : Scan} (h : s.Agrees t) : s.stop = t.stop := by
  rcases h with rfl | ⟨-, e, rfl⟩
  · rfl
  · rfl

/-- The reference token of a cut scan is a scan of the same class. -/
theorem Cut.token (h : Cut text start c st) (hstart : Boundary text start) :
    ∃ final, nextToken text start = scanToken text start c final := by
  obtain ⟨seed, -, hseed, -, htoken⟩ := h.run
  have hlt : start < text.length := by have := h.long; omega
  have hbegins := (nextToken_boundary hstart hlt).1
  have hinv : ScanInv text start (scanEnd text start c seed) := hseed.steps _
  generalize scanEnd text start c seed = final at htoken hinv
  -- an error would not begin at the start of the token
  have h0 : final.scanError = 0 := by
    rcases hinv.error with h0 | ⟨-, h3, hlate, -⟩
    · exact h0
    · rw [htoken, settledToken, if_pos (by rw [h3]; decide)] at hbegins
      have hsame : final.errorStart = start := hbegins
      omega
  refine ⟨final, ?_⟩
  rw [htoken, settledToken, if_neg (not_not.mpr h0)]

/-- The scan goes on from the state its budget has reached. -/
theorem Cut.stop_le (h : Cut text start c st) : st.stop ≤ (nextToken text start).stop := by
  obtain ⟨seed, k, hseed, hagree, htoken⟩ := h.run
  rw [htoken, settledToken_stop, hagree.stop_eq]
  exact hseed.stop_le_scanEnd k

/-- A block comment that its budget cuts has more to come. -/
theorem Cut.stop_lt (h : Cut text start blockClass st) : st.stop < (nextToken text start).stop := by
  obtain ⟨seed, k, hseed, hagree, htoken⟩ := h.run
  have hopen : ((scanStep text blockClass)^[k] seed).ended text.length = false := by
    rw [← hagree.ended]
    exact h.opened
  have hstep := scanStep_block_lt hopen
  have hend := hseed.stop_le_scanEnd (c := blockClass) (k + 1)
  rw [Function.iterate_succ_apply'] at hend
  rw [htoken, settledToken_stop, hagree.stop_eq]
  omega

/-- **A cut token is a piece of the reference token.** -/
theorem Cut.piece (h : Cut text start c st) (hstart : Boundary text start) :
    CutPiece text start (cutToken start c st) (nextToken text start) := by
  have hcut : (cutToken start c st).stop = st.stop ∧ (cutToken start c st).start = start := by
    unfold cutToken
    split <;> exact ⟨rfl, rfl⟩
  obtain ⟨final, htoken⟩ := h.token hstart
  have hnonempty : start < (cutToken start c st).stop := hcut.1 ▸ h.inv.lt
  have haligned : Boundary text (cutToken start c st).stop := hcut.1 ▸ h.boundary hstart
  have hwithin : (cutToken start c st).stop ≤ (nextToken text start).stop := hcut.1 ▸ h.stop_le
  have hbegins : (cutToken start c st).start = start ∧ (nextToken text start).start = start :=
    ⟨hcut.2, by rw [htoken]; rfl⟩
  -- a class other than the block comment's is told by its kind
  have hother : (nextToken text start).kind ≠ 3 →
      ((nextToken text start).kind = 3 → (cutToken start c st).stop < (nextToken text start).stop) :=
    fun hne heq => absurd heq hne
  cases h.one with
  | line =>
      have hkind : (nextToken text start).kind = 2 := by rw [htoken]; rfl
      exact ⟨hbegins, hnonempty, haligned, hwithin, hother (by omega), .inr ⟨rfl, hkind.symm, by omega, by omega⟩⟩
  | block =>
      have hkind : (nextToken text start).kind = 3 := by rw [htoken]; rfl
      exact ⟨hbegins, hnonempty, haligned, hwithin, fun _ => hcut.1 ▸ h.stop_lt,
        .inr ⟨rfl, hkind.symm, by omega, by omega⟩⟩
  | ws =>
      have hkind : (nextToken text start).kind = 1 := by rw [htoken]; rfl
      exact ⟨hbegins, hnonempty, haligned, hwithin, hother (by omega), .inr ⟨rfl, hkind.symm, by omega, by omega⟩⟩
  | number =>
      have hkind : (nextToken text start).kind = if final.dotted then 6 else 5 := by rw [htoken]; rfl
      have hnumber : (nextToken text start).kind = 6 ∨ (nextToken text start).kind = 5 := by
        cases hd : final.dotted with
        | true => exact .inl (by rw [hkind, hd]; rfl)
        | false => exact .inr (by rw [hkind, hd]; rfl)
      exact ⟨hbegins, hnonempty, haligned, hwithin, hother (by omega), .inl ⟨rfl, .inl (by omega)⟩⟩
  | word =>
      have hkind : (nextToken text start).kind = keyword text start final.stop := by rw [htoken]; rfl
      have hrange := keyword_range text start final.stop
      have hword : WordOrNumber (nextToken text start).kind := by
        rw [hkind, WordOrNumber]
        omega
      exact ⟨hbegins, hnonempty, haligned, hwithin, hother (by omega), .inl ⟨rfl, hword⟩⟩

end Cut

/-- **The reference token, or a piece of it.** On a scalar boundary the budgeted lexer returns the reference token or
    a piece of it under diagnostic 5 or 6, and a clean word or number is whole. -/
theorem nextTokenGlobal_or_cut {text : View} (c : Composition text) {start : Nat} (h : Boundary text start) :
    (nextTokenGlobal c.pages c.stride text.length start = nextToken text start ∨
      CutPiece text start (nextTokenGlobal c.pages c.stride text.length start) (nextToken text start)) ∧
    (WordOrNumber (nextToken text start).kind →
      (nextTokenGlobal c.pages c.stride text.length start).diagnostic = 0 →
        nextTokenGlobal c.pages c.stride text.length start = nextToken text start) := by
  rw [nextTokenGlobal_eq]
  have hmain : windowToken text start = nextToken text start ∨
      CutPiece text start (windowToken text start) (nextToken text start) := by
    rcases Nat.lt_or_eq_of_le h.le with hlt | rfl
    · rcases windowToken_eq_or_cut hlt with heq | ⟨cls, st, hcut, htoken⟩
      · exact .inl heq
      · rw [htoken]
        exact .inr (hcut.piece h)
    · left
      simp [windowToken, nextToken]
  refine ⟨hmain, fun _ hclean => ?_⟩
  rcases hmain with heq | hpiece
  · exact heq
  · rcases hpiece.diagnosed with ⟨h5, -⟩ | ⟨h6, -⟩ <;> omega

/-- A semicolon is no longer than its budget. -/
theorem nextTokenGlobal_or_cut_semicolon :
    nextTokenGlobal [[59]] 1024 1 0 = nextToken [59] 0 ∨
      CutPiece [59] 0 (nextTokenGlobal [[59]] 1024 1 0) (nextToken [59] 0) :=
  (nextTokenGlobal_or_cut
    ({ pages := [[59]], stride := 1024, valid := by decide, content := rfl, small := by decide } : Composition [59])
    (wellFormed_of_ascii (by simp)).boundary_zero).1

/-! ## A word as long as its budget -/

/-- A word begins at a letter. -/
theorem headClass_letter {text : View} {o : Nat} (h : byteAt text o = 97) :
    headClass text o = wordClass ∧ headWidth text o = 1 := by
  have hclass : headClass text o = wordClass := by
    simp [headClass, headWord, headSpace, h, startClassGlobal, wordClass]
  exact ⟨hclass, by simp [headWidth, hclass, h, wordClass]⟩

/-- A letter and the run of word bytes behind it. -/
theorem nextToken_run {text : View} {o n : Nat} (hhead : byteAt text o = 97)
    (hrun : ∀ i < n, wordChar (byteAt text (o + 1 + i)) = true) (hend : byteAt text (o + 1 + n) < 128)
    (hstop : wordChar (byteAt text (o + 1 + n)) = false) :
    nextToken text o = { kind := keyword text o (o + 1 + n), start := o, stop := o + 1 + n, diagnostic := 0 } := by
  have hlt : o + 1 + n < text.length := byteAt_lt_iff.mp (by omega)
  obtain ⟨hclass, hwidth⟩ := headClass_letter hhead
  have hinv : ScanInv text o (scanSeed o 1 wordClass) := scanSeed_inv (by decide) (by omega)
  have hsteps : ∀ k ≤ n, (scanStep text wordClass)^[k] (scanSeed o 1 wordClass) =
      { scanSeed o 1 wordClass with stop := o + 1 + k } := by
    intro k
    induction k with
    | zero => intro _; rfl
    | succ k ih =>
        intro hk
        have hopen : Scan.ended text.length { scanSeed o 1 wordClass with stop := o + 1 + k } = false :=
          ended_eq_false.mpr ⟨rfl, by dsimp only; omega⟩
        have hword := hrun k (by omega)
        rw [Function.iterate_succ_apply', ih (by omega), scanStep_word hopen (wordChar_lt hword)]
        dsimp only
        rw [hword, if_pos rfl]
        rfl
  -- the byte behind the run ends the scan
  have hopen : Scan.ended text.length { scanSeed o 1 wordClass with stop := o + 1 + n } = false :=
    ended_eq_false.mpr ⟨rfl, hlt⟩
  have hlast : (scanStep text wordClass)^[n + 1] (scanSeed o 1 wordClass) =
      { scanSeed o 1 wordClass with stop := o + 1 + n, done := true } := by
    rw [Function.iterate_succ_apply', hsteps n (Nat.le_refl n), scanStep_word hopen hend]
    dsimp only
    rw [hstop, if_neg Bool.false_ne_true]
    rfl
  have hfinal : scanEnd text o wordClass (scanSeed o 1 wordClass) =
      { scanSeed o 1 wordClass with stop := o + 1 + n, done := true } := by
    rw [← hinv.scanEnd_steps (n + 1), hlast, scanEnd, Function.iterate_fixed (scanStep_of_ended (by rfl))]
  rw [nextToken_of_lt (by omega), hclass, hwidth, if_neg (by simp [hhead]), if_pos (by decide), scanLoop_eq hinv rfl,
    hfinal]
  rfl

/-- A word of `n` letters and a blank. -/
def letters (n : Nat) : View := List.replicate n 97 ++ [32]

section Letters

variable (n : Nat)

@[simp] theorem length_letters : (letters n).length = n + 1 := by simp [letters]

theorem byteAt_letters (i : Nat) : byteAt (letters n) i = if i < n then 97 else if i = n then 32 else 256 := by
  unfold byteAt
  rw [length_letters]
  unfold byte letters
  rw [List.getD_eq_getElem?_getD]
  by_cases h1 : i < n
  · rw [if_pos h1, if_pos (by omega), List.getElem?_append_left (by simpa using h1), List.getElem?_replicate,
      if_pos h1]
    rfl
  · rw [if_neg h1, List.getElem?_append_right (by simpa using Nat.not_lt.mp h1)]
    by_cases h2 : i = n
    · rw [if_pos h2, if_pos (by omega)]
      simp [h2]
    · rw [if_neg h2, if_neg (by omega)]

theorem wellFormed_letters : WellFormed (letters n) := by
  refine wellFormed_of_ascii (fun b hb => ?_)
  simp only [letters, List.mem_append, List.mem_cons, List.not_mem_nil, or_false, List.mem_replicate] at hb
  rcases hb with ⟨-, rfl⟩ | rfl <;> decide

variable {n}

/-- A round over letters takes eight of them. -/
theorem scanRound_letters {st : Scan} (hdone : st.done = false) (h8 : st.stop + 8 ≤ n) :
    scanRound (letters n) wordClass st = { st with stop := st.stop + 8 } := by
  have hbyte : ∀ k, k < 8 → byteAt (letters n) (st.stop + k) = 97 := by
    intro k hk
    rw [byteAt_letters, if_pos (by omega)]
  have h0 := hbyte 0 (by decide)
  have h1 := hbyte 1 (by decide)
  have h2 := hbyte 2 (by decide)
  have h3 := hbyte 3 (by decide)
  have h4 := hbyte 4 (by decide)
  have h5 := hbyte 5 (by decide)
  have h6 := hbyte 6 (by decide)
  have h7 := hbyte 7 (by decide)
  rw [Nat.add_zero] at h0
  have hin : ∀ j, j < 8 → ¬ st.stop + j ≥ n + 1 := by intro j hj; omega
  have hletter : wordChar 97 = true := by decide
  have hhead : windowAdvance (letters n) wordClass st = { st with stop := st.stop + 4 } := by
    simp [windowAdvance, wordClass, window4, scanWordHead, h0, h1, h2, h3, hletter, hin 1 (by decide),
      hin 2 (by decide), hin 3 (by decide)]
  have hcont : (wordClass.word && !st.done && st.stop + 4 - st.stop == 4 &&
      decide (st.stop + 4 < (letters n).length)) = true := by
    have hroom : st.stop + 4 < n + 1 := by omega
    simp [wordClass, hdone, hroom]
  have htail : scanWordTailWindow (letters n).length (window4 (letters n) (st.stop + 4))
      { st with stop := st.stop + 4 } = { st with stop := st.stop + 8 } := by
    simp [scanWordTailWindow, scanRunWindow, window4, Nat.add_assoc, h4, h5, h6, h7, hletter,
      hin 5 (by decide), hin 6 (by decide), hin 7 (by decide)]
  unfold scanRound
  dsimp only
  rw [hhead]
  dsimp only
  rw [hcont, if_pos rfl, htail]

/-- The word budget ends with 8193 letters. -/
theorem windowToken_letters : windowToken (letters 8193) 0 = { kind := 7, start := 0, stop := 8193, diagnostic := 5 } := by
  have hlt : 0 < (letters 8193).length := by simp
  have ha : byteAt (letters 8193) 0 = 97 := by rw [byteAt_letters, if_pos (by decide)]
  obtain ⟨hclass, -⟩ := headClass_letter ha
  have hrounds : ∀ k, k ≤ 1024 → (settle (Scan.ended (letters 8193).length)
      (scanRound (letters 8193) wordClass))^[k] (scanSeed 0 1 wordClass) =
      { scanSeed 0 1 wordClass with stop := 1 + 8 * k } := by
    intro k
    induction k with
    | zero => intro _; rfl
    | succ k ih =>
        intro hk
        have hopen : Scan.ended (letters 8193).length { scanSeed 0 1 wordClass with stop := 1 + 8 * k } = false :=
          ended_eq_false.mpr ⟨rfl, by simp only [length_letters]; omega⟩
        rw [Function.iterate_succ_apply', ih (by omega), settle_of_not_fin _ hopen,
          scanRound_letters rfl (by simp only; omega)]
        rfl
  have hscan : budgetedScan (letters 8193) wordClass (scanSeed 0 1 wordClass) =
      { scanSeed 0 1 wordClass with stop := 8193 } := by
    unfold budgetedScan
    rw [if_neg (show ¬ wordClass.line = true by decide)]
    exact hrounds 1024 (Nat.le_refl _)
  have hopen : Scan.ended (letters 8193).length { scanSeed 0 1 wordClass with stop := 8193 } = false :=
    ended_eq_false.mpr ⟨rfl, by rw [length_letters]; decide⟩
  rw [windowToken_of_lt hlt, hclass, if_neg (by simp [ha]), if_neg (by decide), if_pos (by decide), ha,
    if_neg (by decide), if_neg (by decide), budgetedToken, hscan]
  dsimp only
  rw [hopen, if_neg Bool.false_ne_true]
  rfl

/-- The reference token is the word, and clean. -/
theorem nextToken_letters :
    (nextToken (letters (n + 1)) 0).stop = n + 1 ∧ (nextToken (letters (n + 1)) 0).diagnostic = 0 := by
  have hbyte := byteAt_letters (n + 1)
  have hblank : byteAt (letters (n + 1)) (0 + 1 + n) = 32 := by rw [hbyte, if_neg (by omega), if_pos (by omega)]
  rw [@nextToken_run (letters (n + 1)) 0 n (by rw [hbyte, if_pos (Nat.succ_pos n)])
    (fun i hi => by rw [hbyte, if_pos (by omega)]; rfl) (by rw [hblank]; decide) (by rw [hblank]; rfl)]
  exact ⟨by dsimp only; omega, rfl⟩

end Letters

/-- A word of 8193 letters is refused whole: its budget ends where it does. -/
theorem not_nextTokenGlobal_proper :
    ¬ ∀ (text : View) (c : Composition text) (start : Nat), Boundary text start →
      nextTokenGlobal c.pages c.stride text.length start = nextToken text start ∨
        (CutPiece text start (nextTokenGlobal c.pages c.stride text.length start) (nextToken text start) ∧
          (nextTokenGlobal c.pages c.stride text.length start).stop < (nextToken text start).stop) := by
  intro hall
  have hsmall : (letters 8193).length ≤ 1048576 := by rw [length_letters]; decide
  have hcase := hall (letters 8193) (.paginate (letters 8193) 1024 (by decide) (by decide) hsmall) 0
    (wellFormed_letters 8193).boundary_zero
  rw [nextTokenGlobal_eq, windowToken_letters] at hcase
  obtain ⟨hstop, hclean⟩ := @nextToken_letters 8192
  rcases hcase with heq | ⟨-, hlt⟩
  · rw [← heq] at hclean
    exact absurd (show 5 = 0 from hclean) (by decide)
  · have hle := Nat.lt_of_lt_of_le hlt (Nat.le_of_eq hstop)
    exact absurd hle (Nat.lt_irrefl _)

end MncsCompiler
