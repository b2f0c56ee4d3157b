import MncsCompiler.Lexer.Window

/-!
# `Lexer.Rounds` — a round of windows is a number of reference steps

The window lexer takes up to eight bytes a round, the reference lexer one byte or scalar a step. For each of
the five starting classes a round is a positive number of steps (`Advances`), so every state a windowed scan
reaches is a state of the reference scan, and what one step keeps a round keeps.
-/

namespace MncsCompiler

open BoundedLoop Composition

/-! ## The five starting classes -/

def lineClass : ScanClass := { line := true, block := false, word := false, number := false, ws := false }
def blockClass : ScanClass := { line := false, block := true, word := false, number := false, ws := false }
def wordClass : ScanClass := { line := false, block := false, word := true, number := false, ws := false }
def numberClass : ScanClass := { line := false, block := false, word := false, number := true, ws := false }
def wsClass : ScanClass := { line := false, block := false, word := false, number := false, ws := true }

/-- The class of a start that is scanned; `none` of them is punctuation. -/
inductive OneClass : ScanClass → Prop
  | line : OneClass lineClass
  | block : OneClass blockClass
  | word : OneClass wordClass
  | number : OneClass numberClass
  | ws : OneClass wsClass

theorem OneClass.eq_line {c : ScanClass} (hc : OneClass c) (h : c.line = true) : c = lineClass := by
  cases hc with
  | line => rfl
  | block | word | number | ws => cases h

theorem OneClass.eq_word {c : ScanClass} (hc : OneClass c) (h : c.word = true) : c = wordClass := by
  cases hc with
  | word => rfl
  | line | block | number | ws => cases h

/-- **A start has at most one class.** -/
theorem startClassGlobal_one (a b : Nat) {u w : Bool} (hlow : a < 128 → u = false ∧ w = false)
    (hone : u = true → w = false) :
    OneClass (startClassGlobal a b u w) ∨
      startClassGlobal a b u w =
        { line := false, block := false, word := false, number := false, ws := false } := by
  by_cases ha : a < 128
  · obtain ⟨rfl, rfl⟩ := hlow ha
    -- only whether `b` is a slash or a star matters
    have hb : startClassGlobal a b false false =
        startClassGlobal a (if b = 47 then 47 else if b = 42 then 42 else 0) false false := by
      unfold startClassGlobal
      by_cases h1 : b = 47
      · simp [h1]
      · by_cases h2 : b = 42 <;> simp [h1, h2]
    have hall : ∀ a < 128, ∀ b ∈ [47, 42, 0],
        startClassGlobal a b false false ∈ [lineClass, blockClass, wordClass, numberClass, wsClass,
          { line := false, block := false, word := false, number := false, ws := false }] := by
      decide +kernel
    have hmem := hall a ha (if b = 47 then 47 else if b = 42 then 42 else 0) (by split_ifs <;> simp)
    rw [← hb] at hmem
    simp only [List.mem_cons, List.not_mem_nil, or_false] at hmem
    rcases hmem with h | h | h | h | h | h
    · exact .inl (h ▸ .line)
    · exact .inl (h ▸ .block)
    · exact .inl (h ▸ .word)
    · exact .inl (h ▸ .number)
    · exact .inl (h ▸ .ws)
    · exact .inr h
  · have hclass : startClassGlobal a b u w =
        { line := false, block := false, word := u, number := false, ws := w } := by
      unfold startClassGlobal
      have h1 : a ≠ 47 := by omega
      have h2 : a ≠ 95 := by omega
      have h3 : a ≠ 32 := by omega
      have h4 : ¬ a ≤ 90 := by omega
      have h5 : ¬ a ≤ 122 := by omega
      have h6 : ¬ a ≤ 57 := by omega
      have h7 : ¬ a ≤ 13 := by omega
      simp [h1, h2, h3, h4, h5, h6, h7]
    rw [hclass]
    cases u with
    | true => rw [hone rfl]; exact .inl .word
    | false =>
        cases w with
        | true => exact .inl .ws
        | false => exact .inr rfl

/-- Letters by case folding and letters by range. -/
theorem startClass_eq {a : Nat} (ha : a < 256) (b : Nat) (u w : Bool) :
    startClass a b u w = startClassGlobal a b u w := by
  have hall : ∀ a < 256, (decide (97 ≤ a ||| 32) && decide (a ||| 32 ≤ 122)) =
      ((decide (65 ≤ a) && decide (a ≤ 90)) || (decide (97 ≤ a) && decide (a ≤ 122))) := by decide +kernel
  simp only [startClass, startClassGlobal, hall a ha]

/-! ## Steps of the reference scan -/

/-- A positive number of steps of `f`. -/
def Advances (f : Scan → Scan) (st st' : Scan) : Prop := ∃ k, st' = f^[k + 1] st

theorem Advances.one {f : Scan → Scan} {st st' : Scan} (h : f st = st') : Advances f st st' :=
  ⟨0, h.symm⟩

theorem Advances.step {f : Scan → Scan} {st mid st' : Scan} (h : f st = mid) (h' : Advances f mid st') :
    Advances f st st' := by
  obtain ⟨k, rfl⟩ := h'
  exact ⟨k + 1, by rw [Function.iterate_succ_apply f (k + 1), h]⟩

theorem Advances.trans {f : Scan → Scan} {st mid st' : Scan} (h : Advances f st mid)
    (h' : Advances f mid st') : Advances f st st' := by
  obtain ⟨j, rfl⟩ := h
  obtain ⟨k, rfl⟩ := h'
  exact ⟨k + j + 1, by rw [← Function.iterate_add_apply]; congr 1; omega⟩

theorem ended_eq_false {total : Nat} {st : Scan} :
    st.ended total = false ↔ st.done = false ∧ st.stop < total := by
  simp [Scan.ended]

theorem scanStep_of_ended {text : View} {c : ScanClass} {st : Scan} (h : st.ended text.length = true) :
    scanStep text c st = st := if_pos h

section Runs

variable {text : View} {f : Scan → Scan} {accept : Nat → Bool}
  (hrun : ∀ s : Scan, s.ended text.length = false → byteAt text s.stop < 128 →
    f s = { s with
      stop := s.stop + (if accept (byteAt text s.stop) then 1 else 0), done := !accept (byteAt text s.stop) })

include hrun

/-- **Run windows.** A window over an accepted run is one to four steps of any scan that takes accepted ASCII
    bytes one at a time and ends at the first other one. -/
theorem scanRunWindow_advances {st : Scan} (h : st.ended text.length = false)
    (h0 : byteAt text st.stop < 128) :
    Advances f st (scanRunWindow accept text.length (window4 text st.stop) st) := by
  have hdone := (ended_eq_false.mp h).1
  have hnext : ∀ s : Scan, s.ended text.length = false → byteAt text s.stop < 128 →
      accept (byteAt text s.stop) = true → f s = { s with stop := s.stop + 1 } := by
    intro s hs hb ha
    rw [hrun s hs hb, ha]
    simp [(ended_eq_false.mp hs).1]
  have hend : ∀ s : Scan, s.ended text.length = false → byteAt text s.stop < 128 →
      accept (byteAt text s.stop) = false → f s = { s with done := true } := by
    intro s hs hb ha
    rw [hrun s hs hb, ha]
    simp
  -- the state after `k` accepted bytes is open as long as it is inside the text
  have hopen : ∀ k, st.stop + k < text.length →
      Scan.ended text.length { st with stop := st.stop + k } = false :=
    fun k hk => ended_eq_false.mpr ⟨hdone, hk⟩
  unfold scanRunWindow
  simp only [window4, Bool.not_eq_true']
  split
  · exact .one (hend st h h0 ‹_›)
  have s0 := hnext st h h0 (by simpa using ‹¬ _ = false›)
  split
  · exact .one s0
  split
  · exact .one s0
  have o1 := hopen 1 (by omega)
  have b1 : byteAt text (st.stop + 1) < 128 := by omega
  split
  · exact .step s0 (.one (hend _ o1 b1 ‹_›))
  have s1 := hnext _ o1 b1 (by simpa using ‹¬ accept (byteAt text (st.stop + 1)) = false›)
  split
  · exact .step s0 (.one s1)
  split
  · exact .step s0 (.one s1)
  have o2 := hopen 2 (by omega)
  have b2 : byteAt text (st.stop + 2) < 128 := by omega
  split
  · exact .step s0 (.step s1 (.one (hend _ o2 b2 ‹_›)))
  have s2 := hnext _ o2 b2 (by simpa using ‹¬ accept (byteAt text (st.stop + 2)) = false›)
  split
  · exact .step s0 (.step s1 (.one s2))
  split
  · exact .step s0 (.step s1 (.one s2))
  have o3 := hopen 3 (by omega)
  have b3 : byteAt text (st.stop + 3) < 128 := by omega
  split
  · exact .step s0 (.step s1 (.step s2 (.one (hend _ o3 b3 ‹_›))))
  · have s3 := hnext _ o3 b3 (by simpa using ‹¬ accept (byteAt text (st.stop + 3)) = false›)
    exact .step s0 (.step s1 (.step s2 (.one s3)))

end Runs

/-! ## One step by class -/

section Steps

variable {text : View} {st : Scan} (h : st.ended text.length = false)

include h

theorem scanStep_line (hb : byteAt text st.stop < 128) :
    scanStep text lineClass st = { st with
      stop := st.stop + (if byteAt text st.stop != 10 then 1 else 0), done := !(byteAt text st.stop != 10) } := by
  simp [scanStep, lineClass, h, Nat.not_le.mpr hb]

theorem scanStep_word (hb : byteAt text st.stop < 128) :
    scanStep text wordClass st = { st with
      stop := st.stop + (if wordChar (byteAt text st.stop) then 1 else 0),
      done := !wordChar (byteAt text st.stop) } := by
  simp [scanStep, wordClass, h, Nat.not_le.mpr hb]

theorem scanStep_ws (hb : byteAt text st.stop < 128) :
    scanStep text wsClass st = { st with
      stop := st.stop + (if space (byteAt text st.stop) then 1 else 0), done := !space (byteAt text st.stop) } := by
  simp [scanStep, wsClass, h, Nat.not_le.mpr hb]

theorem scanStep_block (hb : byteAt text st.stop < 128) :
    scanStep text blockClass st = blockMove (byteAt text st.stop) (byteAt text (st.stop + 1)) st := by
  have hdone := (ended_eq_false.mp h).1
  have hhigh : ¬ byteAt text st.stop ≥ 128 := by omega
  simp only [scanStep, blockClass, h, Bool.false_eq_true, if_false, if_true, if_neg hhigh]
  generalize byteAt text st.stop = a, byteAt text (st.stop + 1) = b
  unfold blockMove
  by_cases hopen : a = 47 ∧ b = 42
  · simp [hopen.1, hopen.2]
  · by_cases hclose : a = 42 ∧ b = 47
    · by_cases hd : st.depth = 1 <;> simp [hclose.1, hclose.2, hd, hdone]
    · have ho : (a == 47 && b == 42) = false := by simpa using hopen
      have hc : (a == 42 && b == 47) = false := by simpa using hclose
      simp [ho, hc]

theorem scanStep_number :
    scanStep text numberClass st = { st with
      stop := st.stop + (if digit (byteAt text st.stop) || (byteAt text st.stop == 46 &&
        (st.dotted || digit (byteAt text (st.stop + 1)))) then 1 else 0),
      dotted := st.dotted || (byteAt text st.stop == 46 && (st.dotted || digit (byteAt text (st.stop + 1)))),
      done := !(digit (byteAt text st.stop) || (byteAt text st.stop == 46 &&
        (st.dotted || digit (byteAt text (st.stop + 1))))) } := by
  simp [scanStep, numberClass, h]

/-- At a non-ASCII byte of a comment. -/
theorem scanStep_comment {c : ScanClass} (hc : c = lineClass ∨ c = blockClass) (hb : 128 ≤ byteAt text st.stop) :
    scanStep text c st = commentScalar (utf8Scalar text st.stop) st := by
  rcases hc with rfl | rfl
  · simp [scanStep, lineClass, h, hb]
  · simp [scanStep, blockClass, h, hb]

/-- At a non-ASCII byte of a word or of white space. -/
theorem scanStep_run {c : ScanClass} (hc : c = wordClass ∨ c = wsClass) (hb : 128 ≤ byteAt text st.stop) :
    scanStep text c st = runScalar ((utf8Scalar text st.stop).valid &&
      ((c.word && identifierContinueScalar (utf8Scalar text st.stop).scalar) ||
        (c.ws && isWhitespaceScalar (utf8Scalar text st.stop).scalar))) (utf8Scalar text st.stop) st := by
  rcases hc with rfl | rfl
  · simp [scanStep, wordClass, h, hb]
  · simp [scanStep, wsClass, h, hb]

end Steps

/-! ## One window by class -/

theorem wordChar_lt {v : Nat} (h : wordChar v = true) : v < 128 := by
  have hor : v ≤ v ||| 32 := Nat.left_le_or
  simp only [wordChar, Bool.or_eq_true, Bool.and_eq_true, decide_eq_true_eq, beq_iff_eq] at h
  omega

/-- The inlined word head is the word window, its tests in another order. -/
theorem scanWordHead_eq (total : Nat) (w : ByteWindow4) (st : Scan) :
    scanWordHead total w st = scanRunWindow wordChar total w st := by
  have hhigh : ∀ v, 128 ≤ v → wordChar v = false := by
    intro v hv
    cases hw : wordChar v with
    | false => rfl
    | true => have := wordChar_lt hw; omega
  have hswap : ∀ (v : Nat) (x y z : Scan),
      (if (!wordChar v) = true then (if v ≥ 128 then x else y) else z) =
        if v ≥ 128 then x else if (!wordChar v) = true then y else z := by
    intro v x y z
    by_cases hv : 128 ≤ v
    · simp [hv, hhigh v hv]
    · simp [hv]
  unfold scanWordHead scanRunWindow
  simp only [hswap]

/-- A line-comment window at an ASCII byte is a run window. -/
theorem lineWindow_eq {text : View} {st : Scan} (hb : byteAt text st.stop < 128) :
    lineWindow text st = scanRunWindow (fun a => a != 10) text.length (window4 text st.stop) st := by
  have hten : ∀ v : Nat, ((!(v != 10)) = true) = (v = 10) := by simp
  have hswap : ∀ (v : Nat) (x y z : Scan),
      (if v = 10 then y else if v ≥ 128 then x else z) = if v ≥ 128 then x else if v = 10 then y else z := by
    intro v x y z
    by_cases hv : v = 10 <;> simp [hv]
  have h0 : ¬ (window4 text st.stop).b0 ≥ 128 := Nat.not_le.mpr hb
  unfold lineWindow scanRunWindow
  simp only [hten, hswap, if_neg h0]

section Windows

variable {text : View} {st : Scan} {w : ByteWindow4} (h0 : byteAt text st.stop = w.b0)
  (h1 : byteAt text (st.stop + 1) = w.b1) (h2 : byteAt text (st.stop + 2) = w.b2)

include h0 h1 h2

/-- Two transitions of a block comment at an ASCII byte. -/
theorem scanBlockWindow_advances (h3 : byteAt text (st.stop + 3) = w.b3)
    (h : st.ended text.length = false) (hb : byteAt text st.stop < 128) :
    Advances (scanStep text blockClass) st (scanBlockWindow text.length w st) := by
  have hdone := (ended_eq_false.mp h).1
  have hone := scanStep_block h hb
  rw [h0, h1] at hone
  unfold scanBlockWindow
  dsimp only
  split
  · rename_i hhigh
    refine .one (hone.trans ?_)
    have hb1 : (w.b1 == 42) = false := by simp; omega
    have hb2 : (w.b1 == 47) = false := by simp; omega
    simp [blockMove, hb1, hb2]
  split
  · exact .one hone
  rename_i hclose
  split
  · exact .one hone
  rename_i hlt
  -- the second transition reads at the place the first one stopped
  have hends : (blockMove w.b0 w.b1 st).ended text.length = false := by
    refine ended_eq_false.mpr ⟨?_, by omega⟩
    simp only [blockMove, if_neg hclose]
    exact hdone
  have hstop : (blockMove w.b0 w.b1 st).stop =
      st.stop + (if (w.b0 == 47 && w.b1 == 42) || (w.b0 == 42 && w.b1 == 47) then 2 else 1) := by
    unfold blockMove
    dsimp only
    split <;> rfl
  cases hmove : (w.b0 == 47 && w.b1 == 42) || (w.b0 == 42 && w.b1 == 47) with
  | true =>
      rw [hmove, if_pos rfl] at hstop
      rw [if_pos rfl, if_pos rfl]
      split
      · exact .one hone
      · refine .step hone (.one ?_)
        rw [scanStep_block hends (by rw [hstop]; omega), hstop, h2, h3]
  | false =>
      rw [hmove, if_neg (by decide)] at hstop
      rw [if_neg Bool.false_ne_true, if_neg Bool.false_ne_true]
      split
      · exact .one hone
      · refine .step hone (.one ?_)
        rw [scanStep_block hends (by rw [hstop]; omega), hstop, h1, h2]

/-- Two bytes of a number. -/
theorem scanNumberWindow_advances (h : st.ended text.length = false) :
    Advances (scanStep text numberClass) st (scanNumberWindow text.length w st) := by
  have hdone := (ended_eq_false.mp h).1
  have hone := scanStep_number h
  rw [h0, h1] at hone
  unfold scanNumberWindow
  dsimp only
  split
  · rename_i hadv
    have hstill : (digit w.b0 || (w.b0 == 46 && (st.dotted || digit w.b1))) = false := by
      rwa [Bool.not_eq_true'] at hadv
    rw [hstill, (Bool.or_eq_false_iff.mp hstill).2] at hone
    exact .one (hone.trans (by simp))
  rename_i hadv
  have hmove : (digit w.b0 || (w.b0 == 46 && (st.dotted || digit w.b1))) = true := by
    rwa [Bool.not_eq_true', Bool.not_eq_false] at hadv
  rw [hmove] at hone
  have hone' : scanStep text numberClass st = { st with
      stop := st.stop + 1, dotted := st.dotted || (w.b0 == 46 && (st.dotted || digit w.b1)) } :=
    hone.trans (by simp [hdone])
  split
  · exact .one hone'
  rename_i hlt
  have hends : Scan.ended text.length { st with
      stop := st.stop + 1, dotted := st.dotted || (w.b0 == 46 && (st.dotted || digit w.b1)) } = false :=
    ended_eq_false.mpr ⟨hdone, by simpa using hlt⟩
  have htwo := scanStep_number hends
  simp only [h1, Nat.add_assoc, Nat.reduceAdd, h2] at htwo
  generalize (st.dotted || (w.b0 == 46 && (st.dotted || digit w.b1))) = dotted at *
  split
  · rename_i hadv'
    have hstill : (digit w.b1 || (w.b1 == 46 && (dotted || digit w.b2))) = false := by
      rwa [Bool.not_eq_true'] at hadv'
    rw [hstill, (Bool.or_eq_false_iff.mp hstill).2] at htwo
    exact .step hone' (.one (htwo.trans (by simp)))
  · rename_i hadv'
    have hgo : (digit w.b1 || (w.b1 == 46 && (dotted || digit w.b2))) = true := by
      rwa [Bool.not_eq_true', Bool.not_eq_false] at hadv'
    rw [hgo] at htwo
    exact .step hone' (.one (htwo.trans (by simp [hdone])))

end Windows

/-! ## One round -/

section Rounds

variable {text : View} {c : ScanClass} {st : Scan}

/-- The first window of a round. -/
theorem windowAdvance_advances (hc : OneClass c) (hline : c.line = false) (h : st.ended text.length = false) :
    Advances (scanStep text c) st (windowAdvance text c st) := by
  have hhigh : ¬ 128 ≤ byteAt text st.stop → ¬ (window4 text st.stop).b0 ≥ 128 := id
  cases hc with
  | line => exact absurd hline (by decide)
  | block =>
      by_cases hb : 128 ≤ byteAt text st.stop
      · have hw : windowAdvance text blockClass st = commentScalar (utf8Scalar text st.stop) st := by
          simp [windowAdvance, blockClass, window4, hb]
        exact hw ▸ .one (scanStep_comment h (.inr rfl) hb)
      · have hw : windowAdvance text blockClass st = scanBlockWindow text.length (window4 text st.stop) st := by
          simp [windowAdvance, blockClass, hhigh hb, scanChunkWindow]
        exact hw ▸ scanBlockWindow_advances rfl rfl rfl rfl h (Nat.not_le.mp hb)
  | word =>
      by_cases hb : 128 ≤ byteAt text st.stop
      · refine .one ((scanStep_run h (.inl rfl) hb).trans ?_)
        simp [windowAdvance, wordClass, window4, hb]
      · have hw : windowAdvance text wordClass st =
            scanRunWindow wordChar text.length (window4 text st.stop) st := by
          simp [windowAdvance, wordClass, hhigh hb, scanWordHead_eq]
        exact hw ▸ scanRunWindow_advances (fun s hs hl => scanStep_word hs hl) h (Nat.not_le.mp hb)
  | number =>
      have hw : windowAdvance text numberClass st = scanNumberWindow text.length (window4 text st.stop) st := by
        simp [windowAdvance, numberClass, scanChunkWindow]
      exact hw ▸ scanNumberWindow_advances rfl rfl rfl h
  | ws =>
      by_cases hb : 128 ≤ byteAt text st.stop
      · refine .one ((scanStep_run h (.inr rfl) hb).trans ?_)
        simp [windowAdvance, wsClass, window4, hb]
      · have hw : windowAdvance text wsClass st =
            scanRunWindow space text.length (window4 text st.stop) st := by
          simp [windowAdvance, wsClass, hhigh hb, scanChunkWindow]
        exact hw ▸ scanRunWindow_advances (fun s hs hl => scanStep_ws hs hl) h (Nat.not_le.mp hb)

/-- **A round of the scan loop is a positive number of steps.** -/
theorem scanRound_advances (hc : OneClass c) (hline : c.line = false) (h : st.ended text.length = false) :
    Advances (scanStep text c) st (scanRound text c st) := by
  have hadv := windowAdvance_advances hc hline h
  unfold scanRound
  dsimp only
  split
  · rename_i hcont
    simp only [Bool.and_eq_true, Bool.not_eq_true', decide_eq_true_eq] at hcont
    obtain ⟨⟨⟨hword, hdone⟩, -⟩, hlt⟩ := hcont
    have hopen : (windowAdvance text c st).ended text.length = false := ended_eq_false.mpr ⟨hdone, hlt⟩
    obtain rfl := hc.eq_word hword
    unfold scanWordTailWindow
    split
    · exact hadv
    · rename_i hlow
      exact hadv.trans
        (scanRunWindow_advances (fun s hs hl => scanStep_word hs hl) hopen (Nat.not_le.mp hlow))
  · exact hadv

theorem lineWindow_advances (h : st.ended text.length = false) :
    Advances (scanStep text lineClass) st (lineWindow text st) := by
  by_cases hb : 128 ≤ byteAt text st.stop
  · have hw : lineWindow text st = commentScalar (utf8Scalar text st.stop) st := by
      have hten : byteAt text st.stop ≠ 10 := by omega
      simp [lineWindow, window4, hten, hb]
    exact hw ▸ .one (scanStep_comment h (.inl rfl) hb)
  · rw [lineWindow_eq (Nat.not_le.mp hb)]
    exact scanRunWindow_advances (fun s hs hl => scanStep_line hs hl) h (Nat.not_le.mp hb)

/-- **So is a round of the line-comment loop.** -/
theorem lineRound_advances (h : st.ended text.length = false) :
    Advances (scanStep text lineClass) st (lineRound text st) := by
  have hadv := lineWindow_advances h
  unfold lineRound
  dsimp only
  split
  · exact hadv
  · rename_i hopen
    split
    · exact hadv.trans (lineWindow_advances (by simpa using hopen))
    · exact hadv

end Rounds

/-! ## What a step keeps -/

/-- How a scan may move from `st`: inside the text, forward unless it ends, and with an error only by ending
    at an invalid scalar. -/
structure StepSpec (text : View) (st st' : Scan) : Prop where
  le : st.stop ≤ st'.stop
  le_length : st'.stop ≤ text.length
  progress : st'.done = false → st.stop < st'.stop
  error : st.scanError = 0 → st'.scanError = 0 ∨
    (st'.done = true ∧ st'.scanError = 3 ∧ st'.errorStart = st.stop ∧ st'.stop = st.stop + 1 ∧
      (utf8Scalar text st.stop).valid = false)

theorem commentScalar_spec {text : View} {st : Scan} (h : st.stop < text.length) :
    StepSpec text st (commentScalar (utf8Scalar text st.stop) st) := by
  obtain ⟨hlt, -, hle, hinv⟩ := utf8Scalar_progress h
  unfold commentScalar
  split
  · rename_i hvalid
    have hv : (utf8Scalar text st.stop).valid = false := by simpa using hvalid
    exact ⟨Nat.le_of_lt hlt, hle, fun hd => absurd hd (by simp), fun _ => .inr ⟨rfl, rfl, rfl, hinv hv, hv⟩⟩
  · exact ⟨Nat.le_of_lt hlt, hle, fun _ => hlt, .inl⟩

theorem runScalar_spec {text : View} {st : Scan} (h : st.stop < text.length) (accepted : Bool) :
    StepSpec text st (runScalar accepted (utf8Scalar text st.stop) st) := by
  obtain ⟨hlt, -, hle, -⟩ := utf8Scalar_progress h
  cases accepted with
  | true => exact ⟨Nat.le_of_lt hlt, hle, fun _ => hlt, .inl⟩
  | false => exact ⟨Nat.le_refl _, Nat.le_of_lt h, fun hd => absurd hd (by simp [runScalar]), .inl⟩

/-- A step that takes one byte or ends the scan. -/
theorem stepSpec_byte {text : View} {st : Scan} (h : st.stop < text.length) (advance dotted : Bool) :
    StepSpec text st { st with
      stop := st.stop + (if advance then 1 else 0), dotted := dotted, done := !advance } := by
  cases advance with
  | true => exact ⟨Nat.le_succ _, h, fun _ => Nat.lt_succ_self _, .inl⟩
  | false => exact ⟨Nat.le_refl _, Nat.le_of_lt h, fun hd => absurd hd (by simp), .inl⟩

/-- **One step** of the reference scan. -/
theorem scanStep_spec {text : View} {c : ScanClass} {st : Scan} (h : st.ended text.length = false) :
    StepSpec text st (scanStep text c st) := by
  have hlt : st.stop < text.length := (ended_eq_false.mp h).2
  unfold scanStep
  rw [if_neg (by simp [h])]
  dsimp only
  split
  · split
    · exact commentScalar_spec hlt
    -- a two-byte move has read its second byte
    have hreal : byteAt text (st.stop + 1) < 256 → st.stop + 2 ≤ text.length := byteAt_lt_iff.mp
    split
    · rename_i hopen
      simp only [Bool.and_eq_true, beq_iff_eq] at hopen
      exact ⟨Nat.le_add_right _ _, hreal (by omega), fun _ => Nat.lt_add_of_pos_right (by decide), .inl⟩
    split
    · rename_i hclose
      simp only [Bool.and_eq_true, beq_iff_eq] at hclose
      exact ⟨Nat.le_add_right _ _, hreal (by omega), fun _ => Nat.lt_add_of_pos_right (by decide), .inl⟩
    · exact ⟨Nat.le_succ _, hlt, fun _ => Nat.lt_succ_self _, .inl⟩
  split
  · split
    · exact commentScalar_spec hlt
    · exact stepSpec_byte hlt _ _
  split
  · split
    · exact runScalar_spec hlt _
    · exact stepSpec_byte hlt _ _
  split
  · split
    · exact runScalar_spec hlt _
    · exact stepSpec_byte hlt _ _
  split
  · exact stepSpec_byte hlt _ _
  · exact ⟨Nat.le_refl _, Nat.le_of_lt hlt, fun hd => absurd hd (by simp), .inl⟩

end MncsCompiler
