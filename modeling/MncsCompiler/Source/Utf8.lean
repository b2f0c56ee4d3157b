import MncsCompiler.Source.Pages
import Mathlib.Data.List.Induction

/-!
# `Source.Utf8` — the decoder and the validator against the encoding

A text is well formed when it is the encoding of a list of characters. `utf8Scalar` inverts the encoding at
every character boundary (`utf8Scalar_encode`), and `validateUtf8` answers exactly whether a text is well
formed and, if it is not, where the first byte stands that no well-formed text could have there
(`validateUtf8_spec`).
-/

namespace MncsCompiler

open BoundedLoop

/-- The encoding of a list of characters. -/
def encode (cs : List Char) : View := cs.flatMap String.utf8EncodeChar

/-- The encoding of some list of characters. -/
def WellFormed (text : View) : Prop := ∃ cs, text = encode cs

/-- The beginning of some well-formed text. -/
def Viable (text : View) : Prop := ∃ rest, WellFormed (text ++ rest)

@[simp] theorem encode_nil : encode [] = [] := rfl

@[simp] theorem encode_cons (c : Char) (cs : List Char) :
    encode (c :: cs) = String.utf8EncodeChar c ++ encode cs := rfl

@[simp] theorem encode_append (cs ds : List Char) : encode (cs ++ ds) = encode cs ++ encode ds :=
  List.flatMap_append

theorem Viable.of_prefix {u v : View} (h : Viable v) (hp : u <+: v) : Viable u := by
  obtain ⟨w, rfl⟩ := hp
  obtain ⟨rest, hwf⟩ := h
  rw [List.append_assoc] at hwf
  exact ⟨w ++ rest, hwf⟩

/-! ## The four encoded forms -/

/-- The scalar values a character may have. -/
theorem Char.toNat_range (c : Char) : c.toNat < 55296 ∨ (57343 < c.toNat ∧ c.toNat < 1114112) := c.valid

/-- The bytes of a character, by the number of bytes. -/
theorem encodeChar_cases (c : Char) :
    (∃ b0 : UInt8, c.toNat < 128 ∧ b0.toNat = c.toNat ∧ String.utf8EncodeChar c = [b0]) ∨
    (∃ b0 b1 : UInt8, 128 ≤ c.toNat ∧ c.toNat < 2048 ∧ b0.toNat = c.toNat / 64 + 192 ∧
      b1.toNat = c.toNat % 64 + 128 ∧ String.utf8EncodeChar c = [b0, b1]) ∨
    (∃ b0 b1 b2 : UInt8, 2048 ≤ c.toNat ∧ c.toNat < 65536 ∧ b0.toNat = c.toNat / 4096 + 224 ∧
      b1.toNat = c.toNat / 64 % 64 + 128 ∧ b2.toNat = c.toNat % 64 + 128 ∧
      String.utf8EncodeChar c = [b0, b1, b2]) ∨
    (∃ b0 b1 b2 b3 : UInt8, 65536 ≤ c.toNat ∧ b0.toNat = c.toNat / 262144 + 240 ∧
      b1.toNat = c.toNat / 4096 % 64 + 128 ∧ b2.toNat = c.toNat / 64 % 64 + 128 ∧
      b3.toNat = c.toNat % 64 + 128 ∧ String.utf8EncodeChar c = [b0, b1, b2, b3]) := by
  have hr := Char.toNat_range c
  have hval : c.val.toNat = c.toNat := rfl
  have hbyte : ∀ n, n < 256 → (UInt8.ofNat n).toNat = n := fun n hn => UInt8.toNat_ofNat_of_lt hn
  unfold String.utf8EncodeChar
  rw [hval]
  generalize c.toNat = v at *
  by_cases h1 : v ≤ 127
  · exact .inl ⟨_, by omega, hbyte v (by omega), by rw [if_pos h1]⟩
  by_cases h2 : v ≤ 2047
  · refine .inr (.inl ⟨_, _, by omega, by omega, ?_, ?_, by rw [if_neg h1, if_pos h2]⟩)
    all_goals rw [hbyte _ (by omega)]
    omega
  by_cases h3 : v ≤ 65535
  · refine .inr (.inr (.inl ⟨_, _, _, by omega, by omega, ?_, ?_, ?_, by rw [if_neg h1, if_neg h2, if_pos h3]⟩))
    all_goals rw [hbyte _ (by omega)]
    omega
  · refine .inr (.inr (.inr ⟨_, _, _, _, by omega, ?_, ?_, ?_, ?_, by rw [if_neg h1, if_neg h2, if_neg h3]⟩))
    all_goals rw [hbyte _ (by omega)]
    omega

theorem encodeChar_ne_nil (c : Char) : String.utf8EncodeChar c ≠ [] := String.utf8EncodeChar_ne_nil

/-! ## Byte classes -/

theorem utf8LeadContinuations_eq_one {v : Nat} (h : 194 ≤ v) (h' : v ≤ 223) : utf8LeadContinuations v = 1 := by
  simp [utf8LeadContinuations, h, h']

theorem utf8LeadContinuations_eq_two {v : Nat} (h : 224 ≤ v) (h' : v ≤ 239) : utf8LeadContinuations v = 2 := by
  have h1 : ¬ v ≤ 223 := by omega
  simp [utf8LeadContinuations, h, h', h1]

theorem utf8LeadContinuations_eq_three {v : Nat} (h : 240 ≤ v) (h' : v ≤ 244) :
    utf8LeadContinuations v = 3 := by
  have h1 : ¬ v ≤ 223 := by omega
  have h2 : ¬ v ≤ 239 := by omega
  simp [utf8LeadContinuations, h, h', h1, h2]

theorem utf8LeadContinuations_eq_one_iff {v : Nat} : utf8LeadContinuations v = 1 ↔ 194 ≤ v ∧ v ≤ 223 := by
  refine ⟨fun h => ?_, fun h => utf8LeadContinuations_eq_one h.1 h.2⟩
  unfold utf8LeadContinuations at h
  simp only [Bool.and_eq_true, decide_eq_true_eq] at h
  split_ifs at h <;> omega

theorem utf8LeadContinuations_eq_two_iff {v : Nat} : utf8LeadContinuations v = 2 ↔ 224 ≤ v ∧ v ≤ 239 := by
  refine ⟨fun h => ?_, fun h => utf8LeadContinuations_eq_two h.1 h.2⟩
  unfold utf8LeadContinuations at h
  simp only [Bool.and_eq_true, decide_eq_true_eq] at h
  split_ifs at h <;> omega

theorem utf8LeadContinuations_eq_three_iff {v : Nat} : utf8LeadContinuations v = 3 ↔ 240 ≤ v ∧ v ≤ 244 := by
  refine ⟨fun h => ?_, fun h => utf8LeadContinuations_eq_three h.1 h.2⟩
  unfold utf8LeadContinuations at h
  simp only [Bool.and_eq_true, decide_eq_true_eq] at h
  split_ifs at h <;> omega

theorem utf8Continuation_iff {v : Nat} : utf8Continuation v = true ↔ 128 ≤ v ∧ v ≤ 191 := by
  simp [utf8Continuation]

/-- The second byte: a continuation that makes no overlong form, surrogate or value past the last plane. -/
theorem utf8FirstContinuationValid_iff {lead v : Nat} :
    utf8FirstContinuationValid lead v = true ↔ (128 ≤ v ∧ v ≤ 191) ∧ (lead = 224 → 160 ≤ v) ∧
      (lead = 237 → v < 160) ∧ (lead = 240 → 144 ≤ v) ∧ (lead = 244 → v < 144) := by
  have hc := @utf8Continuation_iff v
  unfold utf8FirstContinuationValid
  cases hcont : utf8Continuation v with
  | false =>
      rw [hcont] at hc
      simp only [Bool.not_false, if_true, Bool.false_eq_true, false_iff]
      exact fun h => absurd (hc.mpr h.1) Bool.false_ne_true
  | true =>
      have hv := hc.mp hcont
      simp only [Bool.not_true, Bool.false_eq_true, if_false, Bool.and_eq_true, beq_iff_eq, decide_eq_true_eq]
      repeat' split
      all_goals simp only [Bool.false_eq_true, false_iff, true_iff]
      all_goals omega

@[simp] theorem byte_cons_zero (b : UInt8) (v : View) : byte (b :: v) 0 = b.toNat := rfl

@[simp] theorem byte_cons_succ (b : UInt8) (v : View) (i : Nat) : byte (b :: v) (i + 1) = byte v i := rfl

/-! ## Decoding inverts encoding -/

/-- Decoding past a prefix. -/
theorem utf8Scalar_append (u v : View) (i : Nat) :
    utf8Scalar (u ++ v) (u.length + i) =
      { utf8Scalar v i with next := u.length + (utf8Scalar v i).next } := by
  have hge : ∀ k, (u.length + k ≥ (u ++ v).length) = (k ≥ v.length) := by
    intro k
    rw [List.length_append]
    exact propext ⟨by omega, by omega⟩
  unfold utf8Scalar
  simp only [Nat.add_assoc, hge, byte_append_right]
  repeat' split
  all_goals rfl

theorem utf8Scalar_encodeChar (c : Char) (v : View) :
    utf8Scalar (String.utf8EncodeChar c ++ v) 0 =
      { scalar := c.toNat, next := (String.utf8EncodeChar c).length, valid := true } := by
  have hr := Char.toNat_range c
  rcases encodeChar_cases c with ⟨b0, h, h0, he⟩ | ⟨b0, b1, hl, hh, h0, h1, he⟩ |
    ⟨b0, b1, b2, hl, hh, h0, h1, h2, he⟩ | ⟨b0, b1, b2, b3, hl, h0, h1, h2, h3, he⟩
  all_goals rw [he]; generalize c.toNat = x at *
  · simp [utf8Scalar, h0, h]
  · have hlead := utf8LeadContinuations_eq_one (v := b0.toNat) (by omega) (by omega)
    have hfirst : utf8FirstContinuationValid b0.toNat b1.toNat = true :=
      utf8FirstContinuationValid_iff.mpr (by omega)
    have hlow : ¬ b0.toNat < 128 := by omega
    simp [utf8Scalar, hlead, hfirst, hlow]
    omega
  · have hlead := utf8LeadContinuations_eq_two (v := b0.toNat) (by omega) (by omega)
    have hfirst : utf8FirstContinuationValid b0.toNat b1.toNat = true :=
      utf8FirstContinuationValid_iff.mpr (by omega)
    have hcont : utf8Continuation b2.toNat = true := utf8Continuation_iff.mpr (by omega)
    have hlow : ¬ b0.toNat < 128 := by omega
    simp [utf8Scalar, hlead, hfirst, hcont, hlow]
    omega
  · have hlead := utf8LeadContinuations_eq_three (v := b0.toNat) (by omega) (by omega)
    have hfirst : utf8FirstContinuationValid b0.toNat b1.toNat = true :=
      utf8FirstContinuationValid_iff.mpr (by omega)
    have hcont : utf8Continuation b2.toNat = true := utf8Continuation_iff.mpr (by omega)
    have hcont' : utf8Continuation b3.toNat = true := utf8Continuation_iff.mpr (by omega)
    have hlow : ¬ b0.toNat < 128 := by omega
    have hroom : ¬ v.length + 1 + 1 + 1 < 3 := by omega
    simp [utf8Scalar, hlead, hfirst, hcont, hcont', hlow, hroom]
    omega

/-! ## Character boundaries -/

/-- `o` lies between two characters of the text. -/
def Boundary (text : View) (o : Nat) : Prop :=
  ∃ pre suf, text = encode (pre ++ suf) ∧ o = (encode pre).length

theorem WellFormed.boundary_zero {text : View} (h : WellFormed text) : Boundary text 0 := by
  obtain ⟨cs, rfl⟩ := h
  exact ⟨[], cs, rfl, rfl⟩

theorem Boundary.wellFormed {text : View} {o : Nat} (h : Boundary text o) : WellFormed text := by
  obtain ⟨pre, suf, ht, -⟩ := h
  exact ⟨pre ++ suf, ht⟩

theorem Boundary.le {text : View} {o : Nat} (h : Boundary text o) : o ≤ text.length := by
  obtain ⟨pre, suf, rfl, rfl⟩ := h
  simp

/-- **At a boundary inside the text** stands a valid scalar, and it ends at a boundary. -/
theorem Boundary.scalar {text : View} {o : Nat} (h : Boundary text o) (hlt : o < text.length) :
    (utf8Scalar text o).valid = true ∧ Boundary text (utf8Scalar text o).next := by
  obtain ⟨pre, suf, rfl, rfl⟩ := h
  cases suf with
  | nil => simp at hlt
  | cons c suf =>
      have hdec := utf8Scalar_append (encode pre) (String.utf8EncodeChar c ++ encode suf) 0
      rw [utf8Scalar_encodeChar, Nat.add_zero] at hdec
      rw [encode_append, encode_cons, hdec]
      exact ⟨rfl, pre ++ [c], suf, by simp, by simp [encode]⟩

/-- A single-byte character. -/
theorem Boundary.ascii {text : View} {o : Nat} (h : Boundary text o) (hb : byteAt text o < 128) :
    Boundary text (o + 1) := by
  have hlt : o < text.length := byteAt_lt_iff.mp (by omega)
  have hnext : (utf8Scalar text o).next = o + 1 := by
    rw [byteAt_of_lt hlt] at hb
    simp [utf8Scalar, hb, Nat.not_le.mpr hlt]
  exact hnext ▸ (h.scalar hlt).2

/-! ## The automaton -/

/-- The automaton run over bytes numbered from `i`. -/
def utf8Fold (st : Utf8ValidationState) (i : Nat) : View → Utf8ValidationState
  | [] => st
  | b :: bs => utf8Fold (utf8ValidationStep st b.toNat i) (i + 1) bs

theorem utf8Fold_append (st : Utf8ValidationState) (i : Nat) (u v : View) :
    utf8Fold st i (u ++ v) = utf8Fold (utf8Fold st i u) (i + u.length) v := by
  induction u generalizing st i with
  | nil => rfl
  | cons b u ih =>
      rw [List.cons_append, utf8Fold, utf8Fold, ih, List.length_cons, Nat.add_assoc, Nat.add_comm 1]

/-- The first error is sticky. -/
theorem utf8Fold_of_error {st : Utf8ValidationState} (h : st.error = true) (i : Nat) (bs : View) :
    utf8Fold st i bs = st := by
  induction bs generalizing i with
  | nil => rfl
  | cons b bs ih =>
      have hstep : utf8ValidationStep st b.toNat i = st := by simp [utf8ValidationStep, h]
      rw [utf8Fold, hstep, ih]

/-- No error so far, `r` continuations owed, `l` the lead byte whose first continuation is next. -/
def Expects (st : Utf8ValidationState) (r l : Nat) : Prop :=
  st.error = false ∧ st.remaining = r ∧ st.lead = l

theorem utf8Step_ascii {st : Utf8ValidationState} {v : Nat} (h : Expects st 0 0) (hv : v < 128) (i : Nat) :
    Expects (utf8ValidationStep st v i) 0 0 := by
  obtain ⟨he, hr, hl⟩ := h
  have h1 : ¬ 194 ≤ v := by omega
  have h2 : ¬ 224 ≤ v := by omega
  have h3 : ¬ 240 ≤ v := by omega
  simp [utf8ValidationStep, utf8LeadContinuations, Expects, he, hr, hl, h1, h2, h3, Nat.not_le.mpr hv]

theorem utf8LeadContinuations_pos {v : Nat} (h : 0 < utf8LeadContinuations v) : 194 ≤ v ∧ v ≤ 244 := by
  unfold utf8LeadContinuations at h
  simp only [Bool.and_eq_true, decide_eq_true_eq] at h
  split_ifs at h <;> omega

theorem utf8Step_lead {st : Utf8ValidationState} {v r : Nat} (h : Expects st 0 0)
    (hv : utf8LeadContinuations v = r + 1) (i : Nat) : Expects (utf8ValidationStep st v i) (r + 1) v := by
  obtain ⟨he, hr, -⟩ := h
  simp [utf8ValidationStep, Expects, he, hr, hv]

theorem utf8Step_first {st : Utf8ValidationState} {v r l : Nat} (h : Expects st (r + 1) l)
    (hv : utf8FirstContinuationValid l v = true) (i : Nat) : Expects (utf8ValidationStep st v i) r 0 := by
  obtain ⟨he, hr, hl⟩ := h
  have hc : utf8Continuation v = true :=
    utf8Continuation_iff.mpr (utf8FirstContinuationValid_iff.mp hv).1
  simp [utf8ValidationStep, Expects, he, hr, hl, hv, hc]

theorem utf8Step_continuation {st : Utf8ValidationState} {v r : Nat} (h : Expects st (r + 1) 0)
    (hv : utf8Continuation v = true) (i : Nat) : Expects (utf8ValidationStep st v i) r 0 := by
  obtain ⟨he, hr, hl⟩ := h
  simp [utf8ValidationStep, Expects, he, hr, hl, hv]

/-- **The automaton accepts every character.** -/
theorem utf8Fold_encodeChar {st : Utf8ValidationState} (h : Expects st 0 0) (i : Nat) (c : Char) :
    Expects (utf8Fold st i (String.utf8EncodeChar c)) 0 0 := by
  have hr := Char.toNat_range c
  rcases encodeChar_cases c with ⟨b0, hc, h0, he⟩ | ⟨b0, b1, hl, hh, h0, h1, he⟩ |
    ⟨b0, b1, b2, hl, hh, h0, h1, h2, he⟩ | ⟨b0, b1, b2, b3, hl, h0, h1, h2, h3, he⟩
  all_goals rw [he]; generalize c.toNat = x at *
  · exact utf8Step_ascii h (by omega) i
  · refine utf8Step_first (utf8Step_lead h (utf8LeadContinuations_eq_one ?_ ?_) i) ?_ _
    · omega
    · omega
    · exact utf8FirstContinuationValid_iff.mpr (by omega)
  · refine utf8Step_continuation
      (utf8Step_first (utf8Step_lead h (utf8LeadContinuations_eq_two ?_ ?_) i) ?_ _) ?_ _
    · omega
    · omega
    · exact utf8FirstContinuationValid_iff.mpr (by omega)
    · exact utf8Continuation_iff.mpr (by omega)
  · refine utf8Step_continuation (utf8Step_continuation
      (utf8Step_first (utf8Step_lead h (utf8LeadContinuations_eq_three ?_ ?_) i) ?_ _) ?_ _) ?_ _
    · omega
    · omega
    · exact utf8FirstContinuationValid_iff.mpr (by omega)
    · exact utf8Continuation_iff.mpr (by omega)
    · exact utf8Continuation_iff.mpr (by omega)

theorem utf8Fold_encode {st : Utf8ValidationState} (h : Expects st 0 0) (i : Nat) (cs : List Char) :
    Expects (utf8Fold st i (encode cs)) 0 0 := by
  induction cs generalizing st i with
  | nil => exact h
  | cons c cs ih =>
      rw [encode_cons, utf8Fold_append]
      exact ih (utf8Fold_encodeChar h i c) _

/-! ## What the automaton has seen -/

/-- The scalar value `n` has a character. -/
theorem exists_char {n : Nat} (h : n < 55296 ∨ (57343 < n ∧ n < 1114112)) : ∃ c : Char, c.toNat = n :=
  ⟨Char.ofNatAux n h, rfl⟩

section Spelled

variable {b0 b1 b2 b3 : UInt8}

theorem exists_encodeChar_one (h : b0.toNat < 128) : ∃ c, String.utf8EncodeChar c = [b0] := by
  obtain ⟨c, hc⟩ := exists_char (n := b0.toNat) (by omega)
  refine ⟨c, ?_⟩
  rcases encodeChar_cases c with ⟨_, _, h0, he⟩ | ⟨_, _, _, _, _, _, _⟩ | ⟨_, _, _, _, _, _, _, _, _⟩ |
    ⟨_, _, _, _, _, _, _, _, _, _⟩
  · rw [he, UInt8.toNat_inj.mp (h0.trans hc)]
  all_goals omega

theorem exists_encodeChar_two (h : utf8LeadContinuations b0.toNat = 1)
    (h1 : utf8FirstContinuationValid b0.toNat b1.toNat = true) :
    ∃ c, String.utf8EncodeChar c = [b0, b1] := by
  have hb0 := utf8LeadContinuations_eq_one_iff.mp h
  have hb1 := utf8FirstContinuationValid_iff.mp h1
  obtain ⟨c, hc⟩ := exists_char (n := (b0.toNat - 192) * 64 + (b1.toNat - 128)) (by omega)
  refine ⟨c, ?_⟩
  rcases encodeChar_cases c with ⟨_, _, _, _⟩ | ⟨a0, a1, _, _, h0, h1, he⟩ | ⟨_, _, _, _, _, _, _, _, _⟩ |
    ⟨_, _, _, _, _, _, _, _, _, _⟩
  · omega
  · rw [he, UInt8.toNat_inj.mp (show a0.toNat = b0.toNat by omega),
      UInt8.toNat_inj.mp (show a1.toNat = b1.toNat by omega)]
  all_goals omega

theorem exists_encodeChar_three (h : utf8LeadContinuations b0.toNat = 2)
    (h1 : utf8FirstContinuationValid b0.toNat b1.toNat = true) (h2 : utf8Continuation b2.toNat = true) :
    ∃ c, String.utf8EncodeChar c = [b0, b1, b2] := by
  have hb0 := utf8LeadContinuations_eq_two_iff.mp h
  have hb1 := utf8FirstContinuationValid_iff.mp h1
  have hb2 := utf8Continuation_iff.mp h2
  obtain ⟨c, hc⟩ := exists_char
    (n := (b0.toNat - 224) * 4096 + (b1.toNat - 128) * 64 + (b2.toNat - 128)) (by omega)
  refine ⟨c, ?_⟩
  rcases encodeChar_cases c with ⟨_, _, _, _⟩ | ⟨_, _, _, _, _, _, _⟩ | ⟨a0, a1, a2, _, _, h0, h1, h2, he⟩ |
    ⟨_, _, _, _, _, _, _, _, _, _⟩
  · omega
  · omega
  · rw [he, UInt8.toNat_inj.mp (show a0.toNat = b0.toNat by omega),
      UInt8.toNat_inj.mp (show a1.toNat = b1.toNat by omega),
      UInt8.toNat_inj.mp (show a2.toNat = b2.toNat by omega)]
  · omega

theorem exists_encodeChar_four (h : utf8LeadContinuations b0.toNat = 3)
    (h1 : utf8FirstContinuationValid b0.toNat b1.toNat = true) (h2 : utf8Continuation b2.toNat = true)
    (h3 : utf8Continuation b3.toNat = true) : ∃ c, String.utf8EncodeChar c = [b0, b1, b2, b3] := by
  have hb0 := utf8LeadContinuations_eq_three_iff.mp h
  have hb1 := utf8FirstContinuationValid_iff.mp h1
  have hb2 := utf8Continuation_iff.mp h2
  have hb3 := utf8Continuation_iff.mp h3
  obtain ⟨c, hc⟩ := exists_char (n := (b0.toNat - 240) * 262144 + (b1.toNat - 128) * 4096 +
    (b2.toNat - 128) * 64 + (b3.toNat - 128)) (by omega)
  refine ⟨c, ?_⟩
  rcases encodeChar_cases c with ⟨_, _, _, _⟩ | ⟨_, _, _, _, _, _, _⟩ | ⟨_, _, _, _, _, _, _, _, _⟩ |
    ⟨a0, a1, a2, a3, _, h0, h1, h2, h3, he⟩
  · omega
  · omega
  · omega
  · rw [he, UInt8.toNat_inj.mp (show a0.toNat = b0.toNat by omega),
      UInt8.toNat_inj.mp (show a1.toNat = b1.toNat by omega),
      UInt8.toNat_inj.mp (show a2.toNat = b2.toNat by omega),
      UInt8.toNat_inj.mp (show a3.toNat = b3.toNat by omega)]

end Spelled

/-- The bytes of an unfinished character, with what the automaton still expects. -/
inductive Pending : View → Nat → Nat → Prop
  | none : Pending [] 0 0
  | lead {b0 : UInt8} {r : Nat} (h0 : utf8LeadContinuations b0.toNat = r + 1) : Pending [b0] (r + 1) b0.toNat
  | first {b0 b1 : UInt8} {r : Nat} (h0 : utf8LeadContinuations b0.toNat = r + 2)
      (h1 : utf8FirstContinuationValid b0.toNat b1.toNat = true) : Pending [b0, b1] (r + 1) 0
  | second {b0 b1 b2 : UInt8} (h0 : utf8LeadContinuations b0.toNat = 3)
      (h1 : utf8FirstContinuationValid b0.toNat b1.toNat = true) (h2 : utf8Continuation b2.toNat = true) :
      Pending [b0, b1, b2] 1 0

/-- Every lead byte has a valid first continuation. -/
theorem exists_firstContinuation (b0 : UInt8) (h : 0 < utf8LeadContinuations b0.toNat) :
    ∃ b1 : UInt8, utf8FirstContinuationValid b0.toNat b1.toNat = true := by
  have hb0 := utf8LeadContinuations_pos h
  by_cases h1 : b0.toNat = 224
  · exact ⟨160, utf8FirstContinuationValid_iff.mpr (by simp [h1])⟩
  by_cases h2 : b0.toNat = 240
  · exact ⟨144, utf8FirstContinuationValid_iff.mpr (by simp [h2])⟩
  · exact ⟨128, utf8FirstContinuationValid_iff.mpr (by simp [h1, h2])⟩

/-- **An unfinished character can be finished.** -/
theorem Pending.viable {part : View} {r l : Nat} (h : Pending part r l) : Viable part := by
  have hcont : utf8Continuation (128 : UInt8).toNat = true := by decide
  have hone : ∀ c : Char, WellFormed (String.utf8EncodeChar c) := fun c => ⟨[c], by simp⟩
  have htwo : ∀ {b0 b1 : UInt8} {r : Nat}, utf8LeadContinuations b0.toNat = r + 2 →
      utf8FirstContinuationValid b0.toNat b1.toNat = true → Viable [b0, b1] := by
    intro b0 b1 r h0 h1
    have hle := utf8LeadContinuations_le b0.toNat
    obtain rfl | rfl : r = 0 ∨ r = 1 := by omega
    · obtain ⟨c, hc⟩ := exists_encodeChar_three h0 h1 hcont
      exact ⟨[128], by simpa [hc] using hone c⟩
    · obtain ⟨c, hc⟩ := exists_encodeChar_four h0 h1 hcont hcont
      exact ⟨[128, 128], by simpa [hc] using hone c⟩
  cases h with
  | none => exact ⟨[], [], rfl⟩
  | @lead b0 r h0 =>
      obtain ⟨b1, h1⟩ := exists_firstContinuation b0 (by omega)
      cases r with
      | zero =>
          obtain ⟨c, hc⟩ := exists_encodeChar_two h0 h1
          exact ⟨[b1], by simpa [hc] using hone c⟩
      | succ r =>
          obtain ⟨rest, hrest⟩ := htwo h0 h1
          exact ⟨b1 :: rest, hrest⟩
  | first h0 h1 => exact htwo h0 h1
  | second h0 h1 h2 =>
      obtain ⟨c, hc⟩ := exists_encodeChar_four h0 h1 h2 hcont
      exact ⟨[128], by simpa [hc] using hone c⟩

/-- ASCII text is well formed. -/
theorem wellFormed_of_ascii {text : View} (h : ∀ b ∈ text, b.toNat < 128) : WellFormed text := by
  induction text with
  | nil => exact ⟨[], rfl⟩
  | cons b text ih =>
      obtain ⟨cs, hcs⟩ := ih (fun b' hb' => h b' (List.mem_cons_of_mem _ hb'))
      obtain ⟨c, hc⟩ := exists_encodeChar_one (h b List.mem_cons_self)
      exact ⟨c :: cs, by rw [encode_cons, hc, hcs]; rfl⟩

/-- What the automaton has read without an error: whole characters and an unfinished one. -/
def Read (p : View) (st : Utf8ValidationState) : Prop :=
  ∃ cs part, p = encode cs ++ part ∧ Pending part st.remaining st.lead

theorem Read.viable {p : View} {st : Utf8ValidationState} (h : Read p st) : Viable p := by
  obtain ⟨cs, part, rfl, hp⟩ := h
  obtain ⟨rest, ds, hds⟩ := hp.viable
  exact ⟨rest, cs ++ ds, by rw [encode_append, ← hds, List.append_assoc]⟩

theorem utf8Step_reject {st : Utf8ValidationState} {v r l : Nat} (h : Expects st (r + 1) l)
    (hv : utf8Continuation v = false ∨ (l ≠ 0 ∧ utf8FirstContinuationValid l v = false)) (i : Nat) :
    (utf8ValidationStep st v i).error = true := by
  obtain ⟨he, hr, hl⟩ := h
  rcases hv with hc | ⟨hne, hf⟩
  · simp [utf8ValidationStep, he, hr, hc]
  · cases hc : utf8Continuation v with
    | false => simp [utf8ValidationStep, he, hr, hc]
    | true => simp [utf8ValidationStep, he, hr, hl, hc, hne, hf]

/-- **Step lemma**: a byte that raises no error extends what has been read. -/
theorem Read.step {p : View} {st : Utf8ValidationState} (h : Read p st) (he : st.error = false) (b : UInt8)
    (i : Nat) (hok : (utf8ValidationStep st b.toNat i).error = false) :
    Read (p ++ [b]) (utf8ValidationStep st b.toNat i) := by
  obtain ⟨cs, part, rfl, hp⟩ := h
  -- a byte that finishes a character, and one that does not
  have hdone : ∀ c, String.utf8EncodeChar c = part ++ [b] → Expects (utf8ValidationStep st b.toNat i) 0 0 →
      Read (encode cs ++ part ++ [b]) (utf8ValidationStep st b.toNat i) := by
    intro c hc ⟨_, hr, hl⟩
    refine ⟨cs ++ [c], [], by simp [hc], ?_⟩
    rw [hr, hl]
    exact .none
  have hmore : ∀ {r l}, Pending (part ++ [b]) r l → Expects (utf8ValidationStep st b.toNat i) r l →
      Read (encode cs ++ part ++ [b]) (utf8ValidationStep st b.toNat i) := by
    intro r l hpend ⟨_, hr, hl⟩
    refine ⟨cs, part ++ [b], List.append_assoc .., ?_⟩
    rw [hr, hl]
    exact hpend
  generalize hrem : st.remaining = r at hp
  generalize hlead : st.lead = l at hp
  have hexp : Expects st r l := ⟨he, hrem, hlead⟩
  have hreject : ∀ {r}, Expects st (r + 1) l →
      ¬ (utf8Continuation b.toNat = false ∨ (l ≠ 0 ∧ utf8FirstContinuationValid l b.toNat = false)) := by
    intro r hx hbad
    rw [utf8Step_reject hx hbad i] at hok
    cases hok
  cases hp with
  | none =>
      by_cases hb : b.toNat < 128
      · obtain ⟨c, hc⟩ := exists_encodeChar_one hb
        exact hdone c hc (utf8Step_ascii hexp hb i)
      · cases hneed : utf8LeadContinuations b.toNat with
        | zero => simp [utf8ValidationStep, he, hrem, hneed, Nat.not_lt.mp hb] at hok
        | succ r => exact hmore (.lead hneed) (utf8Step_lead hexp hneed i)
  | @lead b0 r h0 =>
      have hne : b0.toNat ≠ 0 := by
        have := utf8LeadContinuations_pos (v := b0.toNat) (by omega)
        omega
      have h1 : utf8FirstContinuationValid b0.toNat b.toNat = true := by
        by_contra hbad
        exact hreject hexp (.inr ⟨hne, by simpa using hbad⟩)
      have hnext := utf8Step_first hexp h1 i
      cases r with
      | zero =>
          obtain ⟨c, hc⟩ := exists_encodeChar_two h0 h1
          exact hdone c hc hnext
      | succ r => exact hmore (.first h0 h1) hnext
  | @first b0 b1 r h0 h1 =>
      have h2 : utf8Continuation b.toNat = true := by
        by_contra hbad
        exact hreject hexp (.inl (by simpa using hbad))
      have hnext := utf8Step_continuation hexp h2 i
      have hle := utf8LeadContinuations_le b0.toNat
      obtain rfl | rfl : r = 0 ∨ r = 1 := by omega
      · obtain ⟨c, hc⟩ := exists_encodeChar_three h0 h1 h2
        exact hdone c hc hnext
      · exact hmore (.second h0 h1 h2) hnext
  | second h0 h1 h2 =>
      have h3 : utf8Continuation b.toNat = true := by
        by_contra hbad
        exact hreject hexp (.inl (by simpa using hbad))
      obtain ⟨c, hc⟩ := exists_encodeChar_four h0 h1 h2 h3
      exact hdone c hc (utf8Step_continuation hexp h3 i)

/-! ## The validator -/

/-- The place of the first byte that no well-formed text could have there, or the end of a text that only
    lacks the rest of its last character. -/
structure FirstInvalid (text : View) (o : Nat) : Prop where
  le : o ≤ text.length
  viable : Viable (text.take o)
  invalid : o < text.length → ¬ Viable (text.take (o + 1))
  truncated : o = text.length → ¬ WellFormed text

theorem utf8Step_errorOffset {st : Utf8ValidationState} {v i : Nat} (he : st.error = false)
    (h : (utf8ValidationStep st v i).error = true) : (utf8ValidationStep st v i).errorOffset = i := by
  revert h
  fun_cases utf8ValidationStep st v i
  all_goals simp_all

theorem expects_initial : Expects utf8Initial 0 0 := ⟨rfl, rfl, rfl⟩

/-- A viable text raises no error. -/
theorem utf8Fold_of_viable {p : View} (h : Viable p) : (utf8Fold utf8Initial 0 p).error = false := by
  obtain ⟨rest, cs, hcs⟩ := h
  cases he : (utf8Fold utf8Initial 0 p).error with
  | false => rfl
  | true =>
      have hall := utf8Fold_encode expects_initial 0 cs
      rw [← hcs, utf8Fold_append, utf8Fold_of_error he] at hall
      rw [← he, hall.1]

/-- **Run lemma**: without an error the automaton has read a viable text, and an error stands at the first byte
    that is not viable. -/
theorem utf8Fold_spec (text : View) :
    ((utf8Fold utf8Initial 0 text).error = false → Read text (utf8Fold utf8Initial 0 text)) ∧
      ((utf8Fold utf8Initial 0 text).error = true →
        (utf8Fold utf8Initial 0 text).errorOffset < text.length ∧
          Viable (text.take (utf8Fold utf8Initial 0 text).errorOffset) ∧
          ¬ Viable (text.take ((utf8Fold utf8Initial 0 text).errorOffset + 1))) := by
  induction text using List.reverseRecOn with
  | nil => exact ⟨fun _ => ⟨[], [], rfl, .none⟩, fun h => absurd h (by decide)⟩
  | append_singleton p b ih =>
      have hsnoc : utf8Fold utf8Initial 0 (p ++ [b]) =
          utf8ValidationStep (utf8Fold utf8Initial 0 p) b.toNat (0 + p.length) := utf8Fold_append ..
      cases hp : (utf8Fold utf8Initial 0 p).error with
      | true =>
          have hsame : utf8Fold utf8Initial 0 (p ++ [b]) = utf8Fold utf8Initial 0 p := by
            rw [utf8Fold_append, utf8Fold_of_error hp]
          obtain ⟨hlt, hv, hnv⟩ := ih.2 hp
          rw [hsame, hp, List.take_append_of_le_length (by omega), List.take_append_of_le_length (by omega)]
          exact ⟨fun h => absurd h (by decide), fun _ => ⟨by simp; omega, hv, hnv⟩⟩
      | false =>
          refine ⟨fun hok => ?_, fun herr => ?_⟩
          · rw [hsnoc] at hok ⊢
            exact (ih.1 hp).step hp b _ hok
          · have hoff : (utf8Fold utf8Initial 0 (p ++ [b])).errorOffset = p.length := by
              rw [hsnoc] at herr ⊢
              rw [utf8Step_errorOffset hp herr, Nat.zero_add]
            rw [hoff]
            refine ⟨by simp, by simpa using (ih.1 hp).viable, fun hv => ?_⟩
            have hfull : (p ++ [b]).take (p.length + 1) = p ++ [b] := List.take_of_length_le (by simp)
            rw [hfull] at hv
            rw [utf8Fold_of_viable hv] at herr
            cases herr

/-- The validation loop with its early return is the run of the automaton. -/
theorem utf8_loop {ρ : Type} (stop : Utf8ValidationState → ρ) (fin : Utf8ValidationState → ρ)
    (hfin : ∀ st : Utf8ValidationState, st.error = true → fin st = stop st) (u v : View)
    (st : Utf8ValidationState) :
    (iterate (fun i state =>
        if state.error then .ret (stop state)
        else .next (utf8ValidationStep state (byte (u ++ v) i) i)) u.length v.length st).after fin =
      fin (utf8Fold st u.length v) := by
  induction v generalizing u st with
  | nil => rfl
  | cons b v ih =>
      rw [List.length_cons, iterate_succ, utf8Fold]
      cases he : st.error with
      | true =>
          have hstep : utf8ValidationStep st b.toNat u.length = st := by simp [utf8ValidationStep, he]
          rw [hstep, utf8Fold_of_error he, hfin st he]
          rfl
      | false =>
          have hb : byte (u ++ b :: v) u.length = b.toNat := byte_append_right u (b :: v) 0
          have hsnoc : u ++ b :: v = (u ++ [b]) ++ v := by simp
          have hlen : (u ++ [b]).length = u.length + 1 := by simp
          have := ih (u ++ [b]) (utf8ValidationStep st b.toNat u.length)
          rw [← hsnoc, hlen] at this
          simpa [hb] using this

theorem utf8Fold_ascii {v : View} (h : ∀ b ∈ v, b.toNat < 128) {st : Utf8ValidationState}
    (hst : Expects st 0 0) (i : Nat) : Expects (utf8Fold st i v) 0 0 := by
  induction v generalizing st i with
  | nil => exact hst
  | cons b v ih =>
      exact ih (fun b' hb' => h b' (List.mem_cons_of_mem _ hb'))
        (utf8Step_ascii hst (h b List.mem_cons_self) i) _

/-- The verdict on a text whose automaton run ended in `st`. -/
def utf8Verdict (text : View) (st : Utf8ValidationState) : Utf8Validation :=
  if st.error then { valid := false, errorOffset := st.errorOffset }
  else if st.remaining > 0 then { valid := false, errorOffset := text.length }
  else { valid := true, errorOffset := 0 }

/-- The ASCII shortcut does not change the verdict. -/
theorem validateUtf8_eq (text : View) :
    validateUtf8 text = utf8Verdict text (utf8Fold utf8Initial 0 text) := by
  unfold validateUtf8
  cases ha : asciiView text with
  | true =>
      have hb : ∀ b ∈ text, b.toNat < 128 := by simpa [asciiView_eq_all] using ha
      obtain ⟨he, hr, -⟩ := utf8Fold_ascii hb expects_initial 0
      simp [utf8Verdict, he, hr]
  | false =>
      exact utf8_loop (fun state => { valid := false, errorOffset := state.errorOffset }) (utf8Verdict text)
        (fun st hst => by simp [utf8Verdict, hst]) [] text utf8Initial

/-- **The validator is exact**, in its verdict and in its offset. -/
theorem validateUtf8_spec (text : View) :
    ((validateUtf8 text).valid = true ↔ WellFormed text) ∧
      ((validateUtf8 text).valid = false → FirstInvalid text (validateUtf8 text).errorOffset) := by
  obtain ⟨hread, herr⟩ := utf8Fold_spec text
  rw [validateUtf8_eq]
  unfold utf8Verdict
  cases he : (utf8Fold utf8Initial 0 text).error with
  | true =>
      obtain ⟨hlt, hv, hnv⟩ := herr he
      have hnot : ¬ WellFormed text := fun hwf => by
        rw [utf8Fold_of_viable ⟨[], by simpa using hwf⟩] at he
        cases he
      exact ⟨⟨fun h => absurd h (by simp), fun h => absurd h hnot⟩,
        fun _ => ⟨Nat.le_of_lt hlt, hv, fun _ => hnv, fun _ => hnot⟩⟩
  | false =>
      have hr := hread he
      by_cases hrem : (utf8Fold utf8Initial 0 text).remaining > 0
      · have hnot : ¬ WellFormed text := by
          rintro ⟨cs, hcs⟩
          have := (utf8Fold_encode expects_initial 0 cs).2.1
          rw [← hcs] at this
          omega
        simp only [Bool.false_eq_true, if_false, if_pos hrem, false_iff, forall_const]
        exact ⟨hnot, ⟨Nat.le_refl _, by simpa using hr.viable, fun h => absurd h (Nat.lt_irrefl _),
          fun _ => hnot⟩⟩
      · have hwf : WellFormed text := by
          obtain ⟨cs, part, ht, hp⟩ := hr
          have hzero : (utf8Fold utf8Initial 0 text).remaining = 0 := by omega
          rw [hzero] at hp
          generalize (utf8Fold utf8Initial 0 text).lead = l at hp
          cases hp
          exact ⟨cs, by simpa using ht⟩
        simp [if_neg hrem, hwf]

end MncsCompiler
