import MncsCompiler.Lexer.Reference

/-!
# `Lexer.PageFree` — the global lexer does not see the pages

Over a composition of `text`, a scan state of the global lexer is a window-lexer state with the page
coordinates of its position (`onPage`). Each pass keeps that relation, so every loop computes the window
lexer's loop and `nextTokenGlobal` computes `windowToken` (`nextTokenGlobal_eq`): the stride appears nowhere in
the result, budgets included.
-/

namespace MncsCompiler

open BoundedLoop Composition

/-- A scan state with page coordinates `i`, `j`. -/
def Scan.coords (i j : Nat) (st : Scan) : Scan := { st with pageIndex := i, pageIntra := j }

/-- A scan state with the page coordinates of its position. -/
def onPage (stride : Nat) (st : Scan) : Scan := st.coords (st.stop / stride) (st.stop % stride)

@[simp] theorem coords_stop (i j : Nat) (st : Scan) : (st.coords i j).stop = st.stop := rfl
@[simp] theorem coords_done (i j : Nat) (st : Scan) : (st.coords i j).done = st.done := rfl
@[simp] theorem coords_depth (i j : Nat) (st : Scan) : (st.coords i j).depth = st.depth := rfl
@[simp] theorem coords_dotted (i j : Nat) (st : Scan) : (st.coords i j).dotted = st.dotted := rfl
@[simp] theorem coords_scanError (i j : Nat) (st : Scan) : (st.coords i j).scanError = st.scanError := rfl
@[simp] theorem coords_errorStart (i j : Nat) (st : Scan) : (st.coords i j).errorStart = st.errorStart := rfl
@[simp] theorem coords_ended (i j total : Nat) (st : Scan) : (st.coords i j).ended total = st.ended total := rfl
@[simp] theorem onPage_stop (stride : Nat) (st : Scan) : (onPage stride st).stop = st.stop := rfl
@[simp] theorem onPage_done (stride : Nat) (st : Scan) : (onPage stride st).done = st.done := rfl
@[simp] theorem onPage_ended (stride total : Nat) (st : Scan) :
    (onPage stride st).ended total = st.ended total := rfl

/-! ## How far a window moves -/

theorem commentScalar_bounds {text : View} {st : Scan} (h : st.stop < text.length) :
    st.stop ≤ (commentScalar (utf8Scalar text st.stop) st).stop ∧
      (commentScalar (utf8Scalar text st.stop) st).stop ≤ st.stop + 4 := by
  have hp := utf8Scalar_progress h
  unfold commentScalar
  split <;> exact ⟨Nat.le_of_lt hp.1, hp.2.1⟩

theorem runScalar_bounds {text : View} {st : Scan} (h : st.stop < text.length) (accepted : Bool) :
    st.stop ≤ (runScalar accepted (utf8Scalar text st.stop) st).stop ∧
      (runScalar accepted (utf8Scalar text st.stop) st).stop ≤ st.stop + 4 := by
  have hp := utf8Scalar_progress h
  cases accepted
  all_goals simp only [runScalar, Bool.false_eq_true, if_false, if_true]
  all_goals omega

theorem lineWindow_bounds {text : View} {st : Scan} (h : st.stop < text.length) :
    st.stop ≤ (lineWindow text st).stop ∧ (lineWindow text st).stop ≤ st.stop + 4 := by
  have hp := commentScalar_bounds h
  fun_cases lineWindow text st
  all_goals try dsimp only
  all_goals omega

theorem scanRunWindow_bounds (accept : Nat → Bool) (total : Nat) (w : ByteWindow4) (st : Scan) :
    st.stop ≤ (scanRunWindow accept total w st).stop ∧
      (scanRunWindow accept total w st).stop ≤ st.stop + 4 := by
  fun_cases scanRunWindow accept total w st
  all_goals dsimp only
  all_goals omega

theorem blockMove_bounds (a b : Nat) (st : Scan) :
    st.stop < (blockMove a b st).stop ∧ (blockMove a b st).stop ≤ st.stop + 2 := by
  have hmove : (blockMove a b st).stop =
      st.stop + (if (a == 47 && b == 42) || (a == 42 && b == 47) then 2 else 1) := by
    unfold blockMove
    dsimp only
    split <;> rfl
  rw [hmove]
  split <;> omega

theorem scanChunkWindow_bounds (total : Nat) (w : ByteWindow4) (st : Scan) (c : ScanClass) :
    st.stop ≤ (scanChunkWindow total w st c).stop ∧ (scanChunkWindow total w st c).stop ≤ st.stop + 4 := by
  have hblock : st.stop ≤ (scanBlockWindow total w st).stop ∧ (scanBlockWindow total w st).stop ≤ st.stop + 4 := by
    have h1 := blockMove_bounds w.b0 w.b1 st
    unfold scanBlockWindow
    dsimp only
    split
    · dsimp only
      omega
    repeat' split
    any_goals omega
    all_goals
      first
      | (have h2 := blockMove_bounds w.b2 w.b3 (blockMove w.b0 w.b1 st); omega)
      | (have h2 := blockMove_bounds w.b1 w.b2 (blockMove w.b0 w.b1 st); omega)
  have hline : st.stop ≤ (scanLineWindow total w st).stop ∧ (scanLineWindow total w st).stop ≤ st.stop + 4 := by
    fun_cases scanLineWindow total w st
    all_goals dsimp only
    all_goals omega
  have hnumber : st.stop ≤ (scanNumberWindow total w st).stop ∧
      (scanNumberWindow total w st).stop ≤ st.stop + 4 := by
    fun_cases scanNumberWindow total w st
    all_goals dsimp only
    all_goals omega
  unfold scanChunkWindow
  split
  · exact hblock
  split
  · exact hline
  split
  · exact scanRunWindow_bounds _ _ _ _
  split
  · exact scanRunWindow_bounds _ _ _ _
  split
  · exact hnumber
  · exact ⟨Nat.le_refl _, Nat.le_add_right _ _⟩

theorem scanWordHead_bounds (total : Nat) (w : ByteWindow4) (st : Scan) :
    st.stop ≤ (scanWordHead total w st).stop ∧ (scanWordHead total w st).stop ≤ st.stop + 4 := by
  fun_cases scanWordHead total w st
  all_goals dsimp only
  all_goals omega

theorem windowAdvance_bounds {text : View} {c : ScanClass} {st : Scan} (h : st.stop < text.length) :
    st.stop ≤ (windowAdvance text c st).stop ∧ (windowAdvance text c st).stop ≤ st.stop + 4 := by
  unfold windowAdvance
  dsimp only
  split
  · exact commentScalar_bounds h
  split
  · exact runScalar_bounds h _
  split
  · exact scanChunkWindow_bounds _ _ _ _
  · exact scanWordHead_bounds _ _ _

/-- One pass moves forward by at most eight bytes. -/
theorem scanRound_bounds {text : View} {c : ScanClass} {st : Scan} (h : st.stop < text.length) :
    st.stop ≤ (scanRound text c st).stop ∧ (scanRound text c st).stop ≤ st.stop + 8 := by
  have hadv := windowAdvance_bounds (c := c) h
  unfold scanRound scanWordTailWindow
  dsimp only
  split
  · split
    · omega
    · have := scanRunWindow_bounds wordChar text.length (window4 text (windowAdvance text c st).stop)
        (windowAdvance text c st)
      omega
  · omega

theorem lineRound_bounds {text : View} {st : Scan} (h : st.stop < text.length) :
    st.stop ≤ (lineRound text st).stop ∧ (lineRound text st).stop ≤ st.stop + 8 := by
  have hadv := lineWindow_bounds h
  unfold lineRound
  dsimp only
  split
  · omega
  · rename_i hs
    split
    · have hlt : (lineWindow text st).stop < text.length := (ended_eq_false.mp (by simpa using hs)).2
      have := lineWindow_bounds hlt
      omega
    · omega

/-! ## Windows and coordinates -/

section Pages

variable {text : View} (c : Composition text)

/-- The selected window at a page position is the window of the text. -/
theorem scanWindow_onPage {st : Scan} (h : st.stop < text.length) :
    scanWindow c.pages c.stride text.length (onPage c.stride st) = window4 text st.stop := by
  obtain ⟨hp, hi, -⟩ := c.page_of_lt h
  have hmod : st.stop % c.stride < c.stride := Nat.mod_lt _ c.stride_pos
  simp only [scanWindow, onPage, Scan.coords, hp, if_true, hi]
  split
  · rename_i hfit
    simp only [Bool.and_eq_true] at hfit
    have htext := of_decide_eq_true hfit.1.1
    have hstride := of_decide_eq_true hfit.1.2
    exact c.pageWindow4_eq (k := 0) h (by omega) (by omega)
  · exact c.byteWindow4Global_eq _

/-- So is the window four bytes further on. -/
theorem tailWindow_onPage {st advanced : Scan} (h : st.stop < text.length)
    (hadv : advanced.stop = st.stop + 4) :
    tailWindow c.pages c.stride text.length (onPage c.stride st) advanced = window4 text advanced.stop := by
  obtain ⟨hp, hi, -⟩ := c.page_of_lt h
  have hmod : st.stop % c.stride < c.stride := Nat.mod_lt _ c.stride_pos
  simp only [tailWindow, onPage, Scan.coords, hp, if_true, hi]
  split
  · rename_i hfit
    simp only [Bool.and_eq_true] at hfit
    have htext := of_decide_eq_true hfit.1.1
    have hstride := of_decide_eq_true hfit.1.2
    rw [c.pageWindow4_eq (k := 4) h (by omega) (by omega), hadv]
  · exact c.byteWindow4Global_eq _

/-- **The coordinate update is exact** for an advance of at most eight bytes, at every stride. -/
theorem nextScan_onPage {st extended : Scan} (hle : st.stop ≤ extended.stop)
    (h8 : extended.stop ≤ st.stop + 8) (i j : Nat) :
    nextScan c.stride (onPage c.stride st) (extended.coords i j) = onPage c.stride extended := by
  show nextScan c.stride (onPage c.stride st) extended = onPage c.stride extended
  have hs := c.stride_pos
  have hs' := c.stride_le
  have hmod : st.stop % c.stride < c.stride := Nat.mod_lt _ hs
  have hsum : st.stop + (extended.stop - st.stop) = extended.stop := by omega
  unfold nextScan
  dsimp only
  split
  · rename_i hstep
    simp only [Bool.and_eq_true, Bool.or_eq_true] at hstep
    have hfit : extended.stop - st.stop ≤ c.stride := by
      rcases hstep.1 with h | ⟨h, h'⟩
      · have := of_decide_eq_true h
        omega
      · exact Nat.le_trans (of_decide_eq_true h) (of_decide_eq_true h')
    have hcoord := Chunks.advance_div_mod hs (o := st.stop) hfit
    rw [hsum] at hcoord
    show (if st.stop % c.stride + (extended.stop - st.stop) ≥ c.stride
      then extended.coords (st.stop / c.stride + 1) (st.stop % c.stride + (extended.stop - st.stop) - c.stride)
      else extended.coords (st.stop / c.stride) (st.stop % c.stride + (extended.stop - st.stop))) =
      extended.coords (extended.stop / c.stride) (extended.stop % c.stride)
    split at hcoord
    · rename_i hge
      rw [if_pos hge, (Prod.mk.inj hcoord).1, (Prod.mk.inj hcoord).2]
    · rename_i hge
      rw [if_neg hge, (Prod.mk.inj hcoord).1, (Prod.mk.inj hcoord).2]
  · rfl

theorem commentScalar_coords (scalar : Utf8Scalar) (i j : Nat) (st : Scan) :
    commentScalar scalar (st.coords i j) = (commentScalar scalar st).coords i j := by
  unfold commentScalar
  split <;> rfl

theorem scanLineCommentWindow_coords (i j : Nat) (st : Scan) :
    scanLineCommentWindow c.pages c.stride text.length (st.coords i j) (window4 text st.stop) =
      (lineWindow text st).coords i j := by
  unfold scanLineCommentWindow lineWindow
  simp only [coords_stop, c.utf8ScalarGlobal_eq, commentScalar_coords, apply_ite (Scan.coords i j)]
  rfl

theorem scanRunWindow_coords (accept : Nat → Bool) (total : Nat) (w : ByteWindow4) (i j : Nat) (st : Scan) :
    scanRunWindow accept total w (st.coords i j) = (scanRunWindow accept total w st).coords i j := by
  unfold scanRunWindow
  simp only [coords_stop, apply_ite (Scan.coords i j)]
  rfl

theorem scanWordTailWindow_coords (total : Nat) (w : ByteWindow4) (i j : Nat) (st : Scan) :
    scanWordTailWindow total w (st.coords i j) = (scanWordTailWindow total w st).coords i j := by
  unfold scanWordTailWindow
  simp only [scanRunWindow_coords, apply_ite (Scan.coords i j)]

theorem blockMove_coords (a b i j : Nat) (st : Scan) :
    blockMove a b (st.coords i j) = (blockMove a b st).coords i j := by
  unfold blockMove
  simp only [coords_stop, coords_depth, apply_ite (Scan.coords i j)]
  rfl

theorem scanChunkWindow_coords (total : Nat) (w : ByteWindow4) (cls : ScanClass) (i j : Nat) (st : Scan) :
    scanChunkWindow total w (st.coords i j) cls = (scanChunkWindow total w st cls).coords i j := by
  unfold scanChunkWindow scanBlockWindow scanLineWindow scanNumberWindow
  simp only [coords_stop, coords_depth, coords_dotted, scanRunWindow_coords, blockMove_coords,
    apply_ite (Scan.coords i j)]
  rfl

theorem scanWordHead_coords (total : Nat) (w : ByteWindow4) (i j : Nat) (st : Scan) :
    scanWordHead total w (st.coords i j) = (scanWordHead total w st).coords i j := by
  unfold scanWordHead
  simp only [coords_stop, apply_ite (Scan.coords i j)]
  rfl

theorem scanAdvance_coords (cls : ScanClass) (i j : Nat) (st : Scan) :
    scanAdvance c.pages c.stride text.length cls (window4 text st.stop) (st.coords i j) =
      (windowAdvance text cls st).coords i j := by
  unfold scanAdvance windowAdvance scanBlockCommentScalarGlobal scanUnicodeScalarGlobal
  simp only [coords_stop, c.utf8ScalarGlobal_eq, commentScalar_coords, scanChunkWindow_coords,
    scanWordHead_coords, apply_ite (Scan.coords i j)]
  rfl

/-! ## One pass -/

/-- The same scan up to page coordinates. -/
def SameScan (g st : Scan) : Prop := ∃ i j, g = st.coords i j

theorem lineCommentPass_rel (st : Scan) :
    Pass.Rel SameScan (fun g s => g = onPage c.stride s)
      (lineCommentPass c.pages c.stride text.length (onPage c.stride st))
      (if st.ended text.length then .ret st
        else if (lineRound text st).ended text.length then .ret (lineRound text st)
        else .next (lineRound text st)) := by
  unfold lineCommentPass
  dsimp only
  by_cases hst : st.ended text.length = true
  · rw [if_pos hst, if_pos (show (onPage c.stride st).ended text.length = true from hst)]
    exact .ret ⟨_, _, rfl⟩
  rw [if_neg hst, if_neg (show ¬ (onPage c.stride st).ended text.length = true from hst)]
  have hlt : st.stop < text.length := (ended_eq_false.mp (Bool.not_eq_true _ ▸ hst)).2
  have hbound := lineRound_bounds hlt
  have hadvanced : scanLineCommentWindow c.pages c.stride text.length (onPage c.stride st)
      (scanWindow c.pages c.stride text.length (onPage c.stride st)) =
      (lineWindow text st).coords (st.stop / c.stride) (st.stop % c.stride) := by
    rw [scanWindow_onPage c hlt]
    exact scanLineCommentWindow_coords c _ _ st
  rw [hadvanced]
  by_cases hset : (lineWindow text st).ended text.length = true
  · have hround : lineRound text st = lineWindow text st := by simp [lineRound, hset]
    rw [hround, if_pos ((coords_ended ..).trans hset), if_pos hset]
    exact .ret ⟨_, _, rfl⟩
  rw [if_neg (by rw [coords_ended]; exact hset)]
  have hlt' : (lineWindow text st).stop < text.length := (ended_eq_false.mp (Bool.not_eq_true _ ▸ hset)).2
  have hextended : (if (((lineWindow text st).coords (st.stop / c.stride) (st.stop % c.stride)).stop -
        (onPage c.stride st).stop == 4 && decide
          (((lineWindow text st).coords (st.stop / c.stride) (st.stop % c.stride)).stop < text.length)) = true then
      scanLineCommentWindow c.pages c.stride text.length
        ((lineWindow text st).coords (st.stop / c.stride) (st.stop % c.stride))
        (tailWindow c.pages c.stride text.length (onPage c.stride st)
          ((lineWindow text st).coords (st.stop / c.stride) (st.stop % c.stride)))
      else (lineWindow text st).coords (st.stop / c.stride) (st.stop % c.stride)) =
      (lineRound text st).coords (st.stop / c.stride) (st.stop % c.stride) := by
    by_cases h4 : (lineWindow text st).stop - st.stop = 4
    · have hstop : ((lineWindow text st).coords (st.stop / c.stride) (st.stop % c.stride)).stop =
          st.stop + 4 := by simp only [coords_stop]; omega
      rw [if_pos (by simp [h4, hlt']), tailWindow_onPage c hlt hstop, coords_stop,
        scanLineCommentWindow_coords]
      simp [lineRound, hset, h4]
    · rw [if_neg (by simp [h4])]
      simp [lineRound, hset, h4]
  rw [hextended]
  by_cases hfin : (lineRound text st).ended text.length = true
  · rw [if_pos ((coords_ended ..).trans hfin), if_pos hfin]
    exact .ret ⟨_, _, rfl⟩
  · rw [if_neg (by rw [coords_ended]; exact hfin), if_neg hfin, nextScan_onPage c hbound.1 hbound.2]
    exact .next rfl

/-! ## Tokens of a finished scan -/

theorem keyword_eq_spelling {start n : Nat} (hle : start + n ≤ text.length) :
    keyword text start (start + n) = keywordKind keywordTable (spelling (byte text) start n) := by
  have h1 : ¬ start > start + n := by omega
  have h2 : ¬ start + n > text.length := by omega
  simp [keyword, h1, h2]

/-- A word that stays in its first page is spelled there. -/
theorem keyword_page {start n : Nat} (hlt : start < text.length) (hle : start + n ≤ text.length)
    (hstride : n ≤ c.stride - start % c.stride)
    (hpage : n ≤ (c.pages.getD (start / c.stride) []).length - start % c.stride) :
    keyword (c.pages.getD (start / c.stride) []) (start % c.stride) (start % c.stride + n) =
      keyword text start (start + n) := by
  have hmod : start % c.stride < c.stride := Nat.mod_lt _ c.stride_pos
  obtain ⟨-, hi, -⟩ := c.page_of_lt hlt
  rw [keyword_eq_spelling hle, keyword_eq_spelling (by omega)]
  congr 1
  exact spelling_congr (fun k hk => c.page_span hlt (by omega))

theorem keywordGlobal_eq {start n : Nat} (hlt : start < text.length) (hpos : 0 < n)
    (hle : start + n ≤ text.length) :
    keywordGlobal c.pages c.stride text.length start (start + n) = keyword text start (start + n) := by
  have hspelled : keywordKind keywordGlobalTable
      (spelling (byteAtGlobal c.pages c.stride text.length) start n) = keyword text start (start + n) := by
    rw [keyword_eq_spelling hle, keywordKind_global]
    congr 1
    refine spelling_congr (fun k hk => ?_)
    rw [c.byteAtGlobal_eq, byteAt_of_lt (by omega)]
  have hlen : start + n - start = n := by omega
  have hs := c.stride_pos
  have haddress : globalPageAddress c.stride text.length start =
      { valid := true, page := start / c.stride, intra := start % c.stride, offset := start } :=
    if_neg (by simp; omega)
  unfold keywordGlobal
  simp only [hlen, hspelled, haddress]
  split
  · split
    · split
      · split
        · rename_i hfit
          simp only [Bool.and_eq_true, decide_eq_true_eq] at hfit
          exact keyword_page c hlt hle hfit.1 hfit.2
        · rfl
      · rfl
    · rfl
  · rfl

/-- **The token of a finished scan** does not depend on the pages. -/
theorem finishScan_eq {cls : ScanClass} {start : Nat} {st : Scan} (hc : OneClass cls) (hlt : start < text.length)
    (h : ScanInv text start st) (h0 : st.scanError = 0) (i j : Nat) :
    finishScan c.pages c.stride text.length start cls (c.pages.getD (start / c.stride) []) (start % c.stride)
      (st.coords i j) = settledToken text start cls st := by
  unfold finishScan settledToken
  rw [if_neg (show ¬ st.scanError ≠ 0 from not_not.mpr h0)]
  cases hword : cls.word with
  | false =>
      simp only [Bool.false_eq_true, if_false, tokenFromNonwordScan, scanToken, coords_scanError, h0, ne_eq,
        not_true_eq_false, coords_depth, coords_dotted, coords_stop, hword]
      split
      · rfl
      split
      · rfl
      split <;> rfl
  | true =>
      obtain rfl := hc.eq_word hword
      obtain ⟨n, hn⟩ := Nat.exists_eq_add_of_lt h.lt
      have hstop : st.stop = start + (n + 1) := by omega
      have hle : start + (n + 1) ≤ text.length := hstop ▸ h.le
      have hlen : start + (n + 1) - start = n + 1 := by omega
      rw [if_pos rfl]
      unfold tokenFromWordScanGlobal
      simp only [coords_stop, hstop, hlen]
      have htoken : scanToken text start wordClass st =
          { kind := keyword text start (start + (n + 1)), start := start, stop := start + (n + 1), diagnostic := 0 } := by
        simp [scanToken, wordClass, hstop]
      rw [htoken]
      split
      · rename_i hfit
        simp only [Bool.and_eq_true, decide_eq_true_eq] at hfit
        rw [keyword_page c hlt hle hfit.2.1 hfit.2.2]
      · rw [keywordGlobal_eq c hlt (Nat.succ_pos n) hle]

/-! ## One pass of the scan loop -/

theorem scanRunWindow_scanError (accept : Nat → Bool) (total : Nat) (w : ByteWindow4) (st : Scan) :
    (scanRunWindow accept total w st).scanError = st.scanError := by
  fun_cases scanRunWindow accept total w st
  all_goals rfl

/-- Only the first window of a round meets an invalid scalar. -/
theorem scanRound_scanError (text : View) (cls : ScanClass) (st : Scan) :
    (scanRound text cls st).scanError = (windowAdvance text cls st).scanError := by
  unfold scanRound scanWordTailWindow
  dsimp only
  split
  · split
    · rfl
    · exact scanRunWindow_scanError ..
  · rfl

section ScanPass

variable {cls : ScanClass} {start : Nat} (hc : OneClass cls) (hline : cls.line = false) (hlt : start < text.length)

include hc hline hlt

theorem scanPass_rel {st : Scan} (hinv : ScanInv text start st) (h0 : st.scanError = 0) :
    Pass.Rel Eq (fun g s => g = onPage c.stride s ∧ ScanInv text start s ∧ s.scanError = 0)
      (scanPass c.pages c.stride text.length start cls (c.pages.getD (start / c.stride) []) (start % c.stride)
        (onPage c.stride st))
      (if st.ended text.length then .ret (settledToken text start cls st)
        else if (scanRound text cls st).ended text.length then
          .ret (settledToken text start cls (scanRound text cls st))
        else .next (scanRound text cls st)) := by
  unfold scanPass
  dsimp only
  by_cases hst : st.ended text.length = true
  · rw [if_pos hst, if_pos (show (onPage c.stride st).ended text.length = true from hst), onPage,
      finishScan_eq c hc hlt hinv h0]
    exact .ret rfl
  rw [if_neg hst, if_neg (show ¬ (onPage c.stride st).ended text.length = true from hst)]
  have hopen : st.ended text.length = false := Bool.not_eq_true _ ▸ hst
  have hin : st.stop < text.length := (ended_eq_false.mp hopen).2
  have hbound := scanRound_bounds (c := cls) hin
  have hadvinv : ScanInv text start (windowAdvance text cls st) := by
    obtain ⟨k, hk⟩ := windowAdvance_advances hc hline hopen
    exact hk ▸ hinv.steps _
  have hroundinv : ScanInv text start (scanRound text cls st) := by
    obtain ⟨k, hk⟩ := scanRound_advances hc hline hopen
    exact hk ▸ hinv.steps _
  have hadvanced : scanAdvance c.pages c.stride text.length cls
      (scanWindow c.pages c.stride text.length (onPage c.stride st)) (onPage c.stride st) =
      (windowAdvance text cls st).coords (st.stop / c.stride) (st.stop % c.stride) := by
    rw [scanWindow_onPage c hin]
    exact scanAdvance_coords c cls _ _ st
  rw [hadvanced]
  -- an invalid scalar ends the scan in the first window
  by_cases herr : (windowAdvance text cls st).scanError ≠ 0
  · have hdone : (windowAdvance text cls st).done = true := by
      rcases hadvinv.error with he | he
      · exact absurd he herr
      · exact he.1
    have hround : scanRound text cls st = windowAdvance text cls st := by simp [scanRound, hdone]
    rw [if_pos (by rw [coords_scanError]; exact herr), hround, if_pos (by simp [Scan.ended, hdone]),
      settledToken, if_pos herr]
    exact .ret rfl
  rw [if_neg (by rw [coords_scanError]; exact herr)]
  have hextended : (if (cls.word && !((windowAdvance text cls st).coords (st.stop / c.stride)
        (st.stop % c.stride)).done && ((windowAdvance text cls st).coords (st.stop / c.stride)
        (st.stop % c.stride)).stop - (onPage c.stride st).stop == 4 && decide (((windowAdvance text cls st).coords
        (st.stop / c.stride) (st.stop % c.stride)).stop < text.length)) = true then
      scanWordTailWindow text.length (tailWindow c.pages c.stride text.length (onPage c.stride st)
        ((windowAdvance text cls st).coords (st.stop / c.stride) (st.stop % c.stride)))
        ((windowAdvance text cls st).coords (st.stop / c.stride) (st.stop % c.stride))
      else (windowAdvance text cls st).coords (st.stop / c.stride) (st.stop % c.stride)) =
      (scanRound text cls st).coords (st.stop / c.stride) (st.stop % c.stride) := by
    unfold scanRound
    dsimp only
    by_cases hcont : (cls.word && !(windowAdvance text cls st).done &&
        (windowAdvance text cls st).stop - st.stop == 4 && (windowAdvance text cls st).stop < text.length) = true
    · have h4 : (windowAdvance text cls st).stop = st.stop + 4 := by
        simp only [Bool.and_eq_true, beq_iff_eq] at hcont
        omega
      rw [if_pos hcont]
      refine (if_pos ?_).trans ?_
      · exact hcont
      · rw [tailWindow_onPage c hin (by rw [coords_stop]; exact h4), coords_stop, scanWordTailWindow_coords]
    · rw [if_neg hcont]
      refine if_neg ?_
      exact hcont
  rw [hextended]
  have hround0 : (scanRound text cls st).scanError = 0 := by
    rw [scanRound_scanError]
    exact Decidable.not_not.mp herr
  by_cases hfin : (scanRound text cls st).ended text.length = true
  · rw [if_pos ((coords_ended ..).trans hfin), if_pos hfin,
      finishScan_eq c hc hlt hroundinv hround0]
    exact .ret rfl
  · rw [if_neg (by rw [coords_ended]; exact hfin), if_neg hfin, nextScan_onPage c hbound.1 hbound.2]
    exact .next ⟨rfl, hroundinv, hround0⟩

/-- 1024 passes. -/
theorem scanPass_loop {st : Scan} (hinv : ScanInv text start st) (h0 : st.scanError = 0) :
    Pass.Rel Eq (fun g s => g = onPage c.stride s ∧ ScanInv text start s ∧ s.scanError = 0)
      (iterate (fun _ => scanPass c.pages c.stride text.length start cls (c.pages.getD (start / c.stride) [])
        (start % c.stride)) 0 1024 (onPage c.stride st))
      (if ((settle (Scan.ended text.length) (scanRound text cls))^[1024] st).ended text.length then
          .ret (settledToken text start cls ((settle (Scan.ended text.length) (scanRound text cls))^[1024] st))
        else .next ((settle (Scan.ended text.length) (scanRound text cls))^[1024] st)) := by
  have hrel := iterate_rel
    (Q := Eq) (R := fun g s => g = onPage c.stride s ∧ ScanInv text start s ∧ s.scanError = 0)
    (f := fun _ => scanPass c.pages c.stride text.length start cls (c.pages.getD (start / c.stride) [])
      (start % c.stride))
    (g := fun _ s => if s.ended text.length then .ret (settledToken text start cls s)
      else if (scanRound text cls s).ended text.length then
        .ret (settledToken text start cls (scanRound text cls s))
      else .next (scanRound text cls s))
    (fun _ g s hs => by
      obtain ⟨rfl, hi, he⟩ := hs
      exact scanPass_rel c hc hline hlt hi he)
    0 1024 (s := onPage c.stride st) (t := st) ⟨rfl, hinv, h0⟩
  rwa [iterate_settle (fun _ _ => rfl) 0 1024 (.inl (by decide))] at hrel

end ScanPass

/-! ## The whole scan -/

/-- What the budgets say after 1024 unfinished passes. -/
def passVerdict (start : Nat) (cls : ScanClass) (pass : Nat) (st : Scan) : Pass Token Scan :=
  if pass == 0 && cls.word then .ret { kind := 7, start := start, stop := st.stop, diagnostic := 5 }
  else if pass == 1 && cls.ws then .ret { kind := 1, start := start, stop := st.stop, diagnostic := 6 }
  else if pass == 3 then
    if cls.ws || cls.block then
      .ret { kind := if cls.ws then 1 else 3, start := start, stop := st.stop, diagnostic := 6 }
    else .ret { kind := 7, start := start, stop := st.stop, diagnostic := 5 }
  else .next st

/-- One of the four outer passes, page-free: `g` is 1024 rounds. -/
def outerPass (text : View) (start : Nat) (cls : ScanClass) (g : Scan → Scan) (pass : Nat) (st : Scan) :
    Pass Token Scan :=
  if (g st).ended text.length then .ret (settledToken text start cls (g st))
  else passVerdict start cls pass (g st)

/-- How many outer passes a class may take. -/
def outerBudget (cls : ScanClass) : Nat := if cls.word then 1 else if cls.ws then 2 else 4

/-- The four outer passes stop where the budget of the class does. -/
theorem outerPass_loop {cls : ScanClass} (hc : OneClass cls) (hline : cls.line = false) {text : View}
    {g : Scan → Scan} (hstay : ∀ s : Scan, s.ended text.length = true → g s = s) (start : Nat) (seed : Scan) :
    (iterate (outerPass text start cls g) 0 4 seed).after (settledToken text start cls) =
      if (g^[outerBudget cls] seed).ended text.length then
        settledToken text start cls (g^[outerBudget cls] seed)
      else cutToken start cls (g^[outerBudget cls] seed) := by
  have hunroll : iterate (outerPass text start cls g) 0 4 seed =
      (outerPass text start cls g 0 seed).bind fun s1 => (outerPass text start cls g 1 s1).bind fun s2 =>
        (outerPass text start cls g 2 s2).bind fun s3 => (outerPass text start cls g 3 s3).bind .next := rfl
  rw [hunroll]
  -- a class with the full four passes
  have hfour : outerBudget cls = 4 → cls.word = false → cls.ws = false →
      ((outerPass text start cls g 0 seed).bind fun s1 => (outerPass text start cls g 1 s1).bind fun s2 =>
        (outerPass text start cls g 2 s2).bind fun s3 => (outerPass text start cls g 3 s3).bind .next).after
          (settledToken text start cls) =
      if (g^[outerBudget cls] seed).ended text.length then
        settledToken text start cls (g^[outerBudget cls] seed)
      else cutToken start cls (g^[outerBudget cls] seed) := by
    intro hb hw hs
    rw [hb]
    show _ = if (g (g (g (g seed)))).ended text.length then settledToken text start cls (g (g (g (g seed))))
      else cutToken start cls (g (g (g (g seed))))
    cases h1 : (g seed).ended text.length with
    | true => simp [outerPass, h1, hstay _ h1]
    | false =>
        cases h2 : (g (g seed)).ended text.length with
        | true => simp [outerPass, passVerdict, hw, hs, h1, h2, hstay _ h2]
        | false =>
            cases h3 : (g (g (g seed))).ended text.length with
            | true => simp [outerPass, passVerdict, hw, hs, h1, h2, h3, hstay _ h3]
            | false =>
                cases h4 : (g (g (g (g seed)))).ended text.length with
                | true => simp [outerPass, passVerdict, hw, hs, h1, h2, h3, h4]
                | false =>
                    cases hblock : cls.block <;>
                      simp [outerPass, passVerdict, cutToken, hw, hs, hline, hblock, h1, h2, h3, h4]
  cases hc with
  | line => exact absurd hline (by decide)
  | block => exact hfour rfl rfl rfl
  | number => exact hfour rfl rfl rfl
  | word =>
      show _ = if (g seed).ended text.length then settledToken text start wordClass (g seed)
        else cutToken start wordClass (g seed)
      cases h1 : (g seed).ended text.length with
      | true => simp [outerPass, h1]
      | false => simp [outerPass, passVerdict, cutToken, wordClass, h1]
  | ws =>
      show _ = if (g (g seed)).ended text.length then settledToken text start wsClass (g (g seed))
        else cutToken start wsClass (g (g seed))
      cases h1 : (g seed).ended text.length with
      | true => simp [outerPass, h1, hstay _ h1]
      | false =>
          cases h2 : (g (g seed)).ended text.length with
          | true => simp [outerPass, passVerdict, wsClass, h1, h2]
          | false => simp [outerPass, passVerdict, cutToken, wsClass, h1, h2]

/-- One outer pass over pages, from what its 1024 inner passes did. -/
theorem outerPass_rel {cls : ScanClass} {start pass : Nat} {finish : Scan → Token} {p : Pass Token Scan} {y : Scan}
    (hloop : Pass.Rel Eq (fun g s => g = onPage c.stride s ∧ ScanInv text start s ∧ s.scanError = 0) p
      (if y.ended text.length then .ret (settledToken text start cls y) else .next y)) :
    Pass.Rel Eq (fun g s => g = onPage c.stride s ∧ ScanInv text start s ∧ s.scanError = 0)
      (p.bind fun inner =>
        if inner.ended text.length then .ret (finish inner)
        else passVerdict start cls pass inner)
      (if y.ended text.length then .ret (settledToken text start cls y) else passVerdict start cls pass y) := by
  cases hend : y.ended text.length with
  | true =>
      rw [hend, if_pos rfl] at hloop
      obtain ⟨_, rfl, rfl⟩ := hloop.of_ret
      exact .ret rfl
  | false =>
      rw [hend, if_neg Bool.false_ne_true] at hloop
      obtain ⟨_, rfl, rfl, hi', he'⟩ := hloop.of_next
      rw [if_neg Bool.false_ne_true, Pass.bind_next, if_neg (by rw [onPage_ended, hend]; decide)]
      unfold passVerdict
      split
      · exact .ret rfl
      split
      · exact .ret rfl
      split
      · split
        · exact .ret rfl
        · exact .ret rfl
      · exact .next ⟨rfl, hi', he'⟩

/-- **The scan loop spends the class budget**, whatever the stride. -/
theorem scanPasses_eq {cls : ScanClass} {start : Nat} {seed : Scan} (hc : OneClass cls)
    (hline : cls.line = false) (hlt : start < text.length) (hinv : ScanInv text start seed)
    (h0 : seed.scanError = 0) :
    scanPasses c.pages c.stride text.length start cls (c.pages.getD (start / c.stride) []) (start % c.stride)
      (onPage c.stride seed) = budgetedToken text start cls seed := by
  have hbudget : budgetedScan text cls seed =
      ((settle (Scan.ended text.length) (scanRound text cls))^[1024])^[outerBudget cls] seed := by
    have hmul : scanBudget cls = 1024 * outerBudget cls := by
      unfold scanBudget outerBudget
      split
      · rfl
      · split <;> rfl
    rw [budgetedScan, hline, if_neg Bool.false_ne_true, hmul, Function.iterate_mul]
  have hstay : ∀ s : Scan, s.ended text.length = true →
      (settle (Scan.ended text.length) (scanRound text cls))^[1024] s = s :=
    fun s hs => iterate_settle_of_fin _ hs 1024
  have houter := outerPass_loop hc hline hstay start seed
  unfold budgetedToken
  rw [hbudget, ← houter]
  unfold scanPasses
  refine Pass.Rel.after (Q := Eq) (R := fun g s => g = onPage c.stride s ∧ ScanInv text start s ∧ s.scanError = 0)
    (iterate_rel (fun pass g s hs => ?_) 0 4 ⟨rfl, hinv, h0⟩) (fun g s hs => ?_)
  · obtain ⟨rfl, hi, he⟩ := hs
    exact outerPass_rel c (scanPass_loop c hc hline hlt hi he)
  · obtain ⟨rfl, hi, he⟩ := hs
    exact finishScan_eq c hc hlt hi he _ _

/-- The state after a settling loop whose returns and carried values are the same scans. -/
theorem sameScan_after {R : Scan → Scan → Prop} (hR : ∀ g s, R g s → SameScan g s) {p : Pass Scan Scan} {y : Scan}
    {total : Nat} (hrel : Pass.Rel SameScan R p (if y.ended total then .ret y else .next y)) :
    SameScan (p.after id) y := by
  have hafter := hrel.after (k := id) (l := id) hR
  have hy : (if y.ended total then (.ret y : Pass Scan Scan) else .next y).after id = y := by
    split <;> rfl
  rwa [hy] at hafter

/-- **The line-comment loop spends its budget**, whatever the stride. -/
theorem scanLineCommentGlobal_eq (seed : Scan) :
    SameScan (scanLineCommentGlobal c.pages c.stride text.length (onPage c.stride seed))
      ((settle (Scan.ended text.length) (lineRound text))^[1024] seed) := by
  have hrel := iterate_rel (Q := SameScan) (R := fun g s => g = onPage c.stride s)
    (f := fun _ => lineCommentPass c.pages c.stride text.length)
    (g := fun _ s => if s.ended text.length then .ret s
      else if (lineRound text s).ended text.length then .ret (lineRound text s)
      else .next (lineRound text s))
    (fun _ g s hs => by rw [hs]; exact lineCommentPass_rel c s)
    0 1024 (s := onPage c.stride seed) (t := seed) rfl
  rw [iterate_settle (p := Scan.ended text.length) (f := lineRound text) (k := fun s => s)
    (fun _ _ => rfl) 0 1024 (.inl (by decide))] at hrel
  exact sameScan_after (fun g s hs => ⟨_, _, hs⟩) hrel

theorem lineToken_of_same {start : Nat} {comment y : Scan} (h : SameScan comment y) :
    (if comment.ended text.length then tokenFromNonwordScan start comment true false false
      else { kind := 2, start := start, stop := comment.stop, diagnostic := 6 }) =
      if y.ended text.length then settledToken text start lineClass y else cutToken start lineClass y := by
  obtain ⟨i, j, rfl⟩ := h
  cases hend : y.ended text.length with
  | true =>
      rw [if_pos (show (y.coords i j).ended text.length = true from hend), if_pos rfl]
      unfold tokenFromNonwordScan settledToken
      by_cases he : y.scanError ≠ 0
      · rw [if_pos (show (y.coords i j).scanError ≠ 0 from he), if_pos he]
        rfl
      · rw [if_neg (show ¬ (y.coords i j).scanError ≠ 0 from he), if_neg he]
        rfl
  | false =>
      rw [if_neg (by rw [coords_ended, hend]; decide), if_neg Bool.false_ne_true]
      rfl

theorem lineToken_eq (start : Nat) :
    (if (scanLineCommentGlobal c.pages c.stride text.length (onPage c.stride (lineSeed start))).ended text.length
      then tokenFromNonwordScan start
        (scanLineCommentGlobal c.pages c.stride text.length (onPage c.stride (lineSeed start))) true false false
      else { kind := 2, start := start, stop :=
        (scanLineCommentGlobal c.pages c.stride text.length (onPage c.stride (lineSeed start))).stop, diagnostic := 6 }) =
      budgetedToken text start lineClass (lineSeed start) := by
  have hbudget : budgetedScan text lineClass (lineSeed start) =
      (settle (Scan.ended text.length) (lineRound text))^[1024] (lineSeed start) := by
    unfold budgetedScan
    rw [if_pos (show lineClass.line = true from rfl)]
  unfold budgetedToken
  rw [hbudget]
  exact lineToken_of_same (scanLineCommentGlobal_eq c (lineSeed start))

/-- **The global lexer is the window lexer.** Over every composition `next_token_global` computes the same token
    from the text alone. -/
theorem nextTokenGlobal_eq (start : Nat) :
    nextTokenGlobal c.pages c.stride text.length start = windowToken text start := by
  have hs := c.stride_pos
  unfold nextTokenGlobal
  by_cases hgt : start > text.length
  · rw [if_pos hgt, windowToken, if_pos hgt]
  by_cases heq : start = text.length
  · rw [if_neg hgt, if_pos heq, windowToken, if_neg hgt, if_pos heq]
  have hlt : start < text.length := by omega
  obtain ⟨hp, hi, -⟩ := c.page_of_lt hlt
  have hmod : start % c.stride < c.stride := Nat.mod_lt _ hs
  have hpages : 0 < c.pages.length := Nat.lt_of_le_of_lt (Nat.zero_le _) hp
  rw [if_neg hgt, if_neg heq, if_neg (by simp only [Bool.or_eq_true, decide_eq_true_eq]; omega)]
  dsimp only
  rw [if_neg (by omega), if_neg (by omega)]
  have hwindow : (if (decide (text.length - start ≥ 4) && decide (c.stride - start % c.stride ≥ 4) &&
        decide ((c.pages.getD (start / c.stride) []).length - start % c.stride ≥ 4)) = true then
      pageWindow4 (c.pages.getD (start / c.stride) []) (start % c.stride)
      else byteWindow4Global c.pages c.stride text.length start) = window4 text start := by
    split
    · rename_i hfit
      simp only [Bool.and_eq_true, decide_eq_true_eq] at hfit
      exact c.pageWindow4_eq (k := 0) hlt (by omega) (by omega)
    · exact c.byteWindow4Global_eq start
  rw [hwindow, windowToken_of_lt hlt]
  simp only [c.utf8ScalarGlobal_eq]
  change (if (decide (byteAt text start ≥ 128) && !(headWord text start || headSpace text start)) = true then
      nonAsciiError start (headScalar text start)
    else if (headClass text start).line = true then
      if (scanLineCommentGlobal c.pages c.stride text.length (onPage c.stride (lineSeed start))).ended text.length
      then tokenFromNonwordScan start
        (scanLineCommentGlobal c.pages c.stride text.length (onPage c.stride (lineSeed start))) true false false
      else { kind := 2, start := start, stop :=
        (scanLineCommentGlobal c.pages c.stride text.length (onPage c.stride (lineSeed start))).stop, diagnostic := 6 }
    else if ((headClass text start).block || (headClass text start).word || (headClass text start).number ||
        (headClass text start).ws) = true then
      scanPasses c.pages c.stride text.length start (headClass text start) (c.pages.getD (start / c.stride) [])
        (start % c.stride) (onPage c.stride (scanSeed start
          (if byteAt text start ≥ 128 then (headScalar text start).next - start
            else if (headClass text start).block then 2 else 1) (headClass text start)))
    else punctuationToken start (byteAt text start) (byteAt text (start + 1))) = _
  by_cases herr : (decide (byteAt text start ≥ 128) && !(headWord text start || headSpace text start)) = true
  · rw [if_pos herr, if_pos herr]
  rw [if_neg herr, if_neg herr]
  have hnot : ¬ (byteAt text start ≥ 128 ∧ (headWord text start || headSpace text start) = false) := by
    simpa only [Bool.and_eq_true, decide_eq_true_eq, Bool.not_eq_true'] using herr
  rcases headClass_cases hnot with hc | ⟨-, hnone⟩
  · cases hline : (headClass text start).line with
    | true =>
        rw [if_pos rfl, if_pos rfl, hc.eq_line hline]
        exact lineToken_eq c start
    | false =>
        rw [if_neg Bool.false_ne_true, if_neg Bool.false_ne_true]
        split
        · obtain ⟨hpos, hle, -⟩ := headWidth_bounds hlt
          rw [← headWidth_eq hline]
          exact scanPasses_eq c hc hline hlt (scanSeed_inv hpos hle) rfl
        · rfl
  · rw [hnone]
    simp only [Bool.false_eq_true, if_false, Bool.or_false]

end Pages

end MncsCompiler
