import MncsCompiler.Source.Utf8

/-!
# `Source.Admission` — the UTF-8 verdict of a page composition

The global validator runs the automaton in 1024 batches of 1024 bytes, its position kept in the automaton's own
cursor. A source of at most 1 MiB never outlasts the batches, so its verdict is that of the one-view validator on
the text (`validateUtf8Global_eq`), whatever the stride.
-/

namespace MncsCompiler

open BoundedLoop

/-- The automaton has met an error or read the text to its end. -/
def Utf8ValidationState.finished (total : Nat) (st : Utf8ValidationState) : Bool := st.error || st.cursor ≥ total

/-- One pass of the batched automaton, on the text. -/
def utf8Advance (text : View) (st : Utf8ValidationState) : Utf8ValidationState :=
  if st.finished text.length then st else utf8ValidationStep st (byteAt text st.cursor) st.cursor

theorem utf8Advance_of_finished {text : View} {st : Utf8ValidationState} (h : st.finished text.length = true) :
    utf8Advance text st = st := if_pos h

/-- Without an error the cursor stands after the bytes read. -/
theorem utf8Step_cursor {st : Utf8ValidationState} {v i : Nat} (h : (utf8ValidationStep st v i).error = false) :
    (utf8ValidationStep st v i).cursor = i + 1 := by
  revert h
  fun_cases utf8ValidationStep st v i
  all_goals simp_all

section Text

variable (text : View)

/-- **The cursor-driven automaton is the fold** over the bytes it has read. -/
theorem utf8Advance_iterate {n : Nat} (hn : n ≤ text.length) :
    (utf8Advance text)^[n] utf8Initial = utf8Fold utf8Initial 0 (text.take n) ∧
      ((utf8Fold utf8Initial 0 (text.take n)).error = false →
        (utf8Fold utf8Initial 0 (text.take n)).cursor = n) := by
  induction n with
  | zero => exact ⟨rfl, fun _ => rfl⟩
  | succ n ih =>
      obtain ⟨heq, hcursor⟩ := ih (by omega)
      have htake : text.take (n + 1) = text.take n ++ [text[n]] := List.take_succ_eq_append_getElem (by omega)
      have hlen : (text.take n).length = n := by rw [List.length_take]; omega
      rw [Function.iterate_succ_apply', heq, htake, utf8Fold_append, hlen, Nat.zero_add]
      generalize utf8Fold utf8Initial 0 (text.take n) = st at hcursor
      cases he : st.error with
      | true =>
          rw [utf8Advance_of_finished (by simp [Utf8ValidationState.finished, he]), utf8Fold_of_error he]
          exact ⟨rfl, fun h => absurd h (by simp [he])⟩
      | false =>
          have hc := hcursor he
          have hopen : ¬ st.finished text.length = true := by
            simp only [Utf8ValidationState.finished, he, hc, Bool.false_or, decide_eq_true_eq]
            omega
          have hbyte : byteAt text n = text[n].toNat := by
            rw [byteAt, if_pos (by omega), byte, List.getD_eq_getElem?_getD, List.getElem?_eq_getElem (by omega)]
            rfl
          have hstep : utf8Advance text st = utf8ValidationStep st text[n].toNat n := by
            rw [utf8Advance, if_neg hopen, hc, hbyte]
          rw [hstep]
          exact ⟨rfl, utf8Step_cursor⟩

/-- Passes past the end of the text change nothing. -/
theorem utf8Advance_all {n : Nat} (hn : text.length ≤ n) :
    (utf8Advance text)^[n] utf8Initial = utf8Fold utf8Initial 0 text ∧
      (utf8Fold utf8Initial 0 text).finished text.length = true := by
  obtain ⟨heq, hcursor⟩ := utf8Advance_iterate text (Nat.le_refl _)
  rw [List.take_length] at heq hcursor
  have hfin : (utf8Fold utf8Initial 0 text).finished text.length = true := by
    cases he : (utf8Fold utf8Initial 0 text).error with
    | true => simp [Utf8ValidationState.finished, he]
    | false => simp [Utf8ValidationState.finished, hcursor he]
  obtain ⟨k, rfl⟩ := Nat.exists_eq_add_of_le hn
  refine ⟨?_, hfin⟩
  rw [Nat.add_comm, Function.iterate_add_apply, heq, Function.iterate_fixed (utf8Advance_of_finished hfin)]

/-- The batches, at any number of batches and of bytes for each. -/
theorem utf8_batches {k : Utf8ValidationState → Utf8Validation} (batches bytes : Nat) (st : Utf8ValidationState) :
    (iterate (fun _ outer =>
      if Utf8ValidationState.finished text.length outer then Pass.ret (k outer)
      else .next ((utf8Advance text)^[bytes] outer)) 0 batches st).after k =
    k ((utf8Advance text)^[bytes * batches] st) := by
  rw [iterate_guard (p := Utf8ValidationState.finished text.length) (f := (utf8Advance text)^[bytes])
    (fun _ _ => rfl), settle_eq_self (fun _ hf => Function.iterate_fixed (utf8Advance_of_finished hf) _),
    Function.iterate_mul]

end Text

/-- What the global validator answers in a finished or exhausted state. -/
def utf8End (total : Nat) (st : Utf8ValidationState) : Utf8Validation :=
  if st.error then { valid := false, errorOffset := st.errorOffset }
  else if st.cursor < total then { valid := false, errorOffset := st.cursor }
  else if st.remaining > 0 then { valid := false, errorOffset := total }
  else { valid := true, errorOffset := 0 }

/-- The answers inside the loop are the answer after it. -/
theorem utf8End_of_finished (total : Nat) (st next : Utf8ValidationState) :
    (if st.error then Pass.ret { valid := false, errorOffset := st.errorOffset }
      else if st.cursor ≥ total then
        if st.remaining > 0 then .ret { valid := false, errorOffset := total }
        else .ret { valid := true, errorOffset := 0 }
      else .next next) =
    if st.finished total then Pass.ret (utf8End total st) else .next next := by
  cases he : st.error with
  | true => simp [Utf8ValidationState.finished, utf8End, he]
  | false =>
      by_cases hc : st.cursor ≥ total
      · simp only [Utf8ValidationState.finished, utf8End, he, hc, Bool.false_eq_true, if_false, if_true, Bool.false_or,
          decide_true, if_neg (Nat.not_lt.mpr hc)]
        split <;> rfl
      · simp [Utf8ValidationState.finished, he, hc]

/-- **UTF-8 admission does not see the pages.** -/
theorem validateUtf8Global_eq {text : View} (c : Composition text) :
    validateUtf8Global c.pages c.stride text.length = validateUtf8 text := by
  have hbatch : validateUtf8Batch c.pages c.stride text.length = (utf8Advance text)^[1024] :=
    funext c.validateUtf8Batch_eq
  unfold validateUtf8Global
  rw [c.asciiGlobal_eq, hbatch]
  cases ha : asciiView text with
  | true => simp [validateUtf8, ha]
  | false =>
      obtain ⟨hall, hfin⟩ := utf8Advance_all text (n := 1024 * 1024) (Nat.le_trans c.small (by decide))
      simp only [Bool.false_eq_true, if_false, utf8End_of_finished]
      have hloop := utf8_batches text (k := utf8End text.length) 1024 1024 utf8Initial
      rw [hall] at hloop
      refine hloop.trans ?_
      rw [validateUtf8_eq, utf8Verdict, utf8End]
      generalize utf8Fold utf8Initial 0 text = st at hfin
      cases he : st.error with
      | true => rfl
      | false =>
          have hc : ¬ st.cursor < text.length := by
            simpa [Utf8ValidationState.finished, he] using hfin
          simp [hc]

/-- **Admission is exact.** The verdict is well-formedness, and the offset of a refusal is the first byte that no
    well-formed text could have there, or the length of a text that only lacks the rest of its last character; a page
    composition gives the record of its content. -/
theorem validateUtf8_exact (text : View) :
    ((validateUtf8 text).valid = true ↔ WellFormed text) ∧
      ((validateUtf8 text).valid = false →
        ((validateUtf8 text).errorOffset < text.length ∧
            (∀ j < (validateUtf8 text).errorOffset, Viable (text.take (j + 1))) ∧
            ¬ Viable (text.take ((validateUtf8 text).errorOffset + 1))) ∨
          ((validateUtf8 text).errorOffset = text.length ∧ Viable text ∧ ¬ WellFormed text)) ∧
      ∀ c : Composition text, validateUtf8Global c.pages c.stride text.length = validateUtf8 text := by
  obtain ⟨hvalid, hfirst⟩ := validateUtf8_spec text
  refine ⟨hvalid, ?_, validateUtf8Global_eq⟩
  intro hrefused
  obtain ⟨hle, hviable, hinvalid, htruncated⟩ := hfirst hrefused
  rcases Nat.lt_or_eq_of_le hle with hlt | heq
  · left
    refine ⟨hlt, ?_, hinvalid hlt⟩
    intro j hj
    have hnames : text.take (j + 1) <+: text.take (validateUtf8 text).errorOffset :=
      List.take_prefix_take_left hj
    exact hviable.of_prefix hnames
  · right
    rw [heq, List.take_length] at hviable
    exact ⟨heq, hviable, htruncated heq⟩

/-- A lone continuation byte on one page. -/
theorem validateUtf8_exact_continuation :
    ((validateUtf8 [128]).errorOffset < 1 ∧
        (∀ j < (validateUtf8 [128]).errorOffset, Viable (List.take (j + 1) [128])) ∧
        ¬ Viable (List.take ((validateUtf8 [128]).errorOffset + 1) [128])) ∨
      ((validateUtf8 [128]).errorOffset = 1 ∧ Viable [128] ∧ ¬ WellFormed [128]) :=
  (validateUtf8_exact [128]).2.1 (by decide)

end MncsCompiler
