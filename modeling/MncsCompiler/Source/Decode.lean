import MncsCompiler.Source.Utf8
import MncsCompiler.Source.Pages

/-!
# `Source.Decode` — one-scalar decoding is the inverse of the encoding

`utf8_scalar` accepts at an offset exactly when the encoding of a character stands there, and answers with that
character and the offset after it (`utf8Scalar_valid_iff`). Iterated from the start of a text it reads the characters
the text encodes, and gets to the end of the text exactly when the validation automaton accepts it.
-/

namespace MncsCompiler

/-! ## Decoding iterated -/

/-- The scalars from an offset to the end of the text, or `none` where a step is refused. -/
def scalarsFrom (text : View) (at' : Nat) : Option (List Nat) :=
  if _h : at' < text.length then
    let decoded := utf8Scalar text at'
    if decoded.valid then (scalarsFrom text decoded.next).map (decoded.scalar :: ·) else none
  else some []
termination_by text.length - at'
decreasing_by
  have hnext := (utf8Scalar_progress _h).1
  omega

theorem scalarsFrom_of_ge {text : View} {o : Nat} (h : text.length ≤ o) : scalarsFrom text o = some [] := by
  rw [scalarsFrom, dif_neg (Nat.not_lt.mpr h)]

theorem scalarsFrom_of_valid {text : View} {o : Nat} (h : o < text.length)
    (hv : (utf8Scalar text o).valid = true) :
    scalarsFrom text o = (scalarsFrom text (utf8Scalar text o).next).map ((utf8Scalar text o).scalar :: ·) := by
  rw [scalarsFrom, dif_pos h]
  simp only [hv, if_true]

theorem scalarsFrom_of_invalid {text : View} {o : Nat} (h : o < text.length)
    (hv : (utf8Scalar text o).valid = false) : scalarsFrom text o = none := by
  rw [scalarsFrom, dif_pos h]
  simp only [hv, Bool.false_eq_true, if_false]

/-! ## Acceptance at one offset -/

theorem exists_cons_two {v : View} (h : 1 < v.length) : ∃ a0 a1 rest, v = a0 :: a1 :: rest := by
  obtain ⟨a0, rest, rfl⟩ := List.exists_cons_of_length_pos (Nat.zero_lt_of_lt h)
  obtain ⟨a1, rest, rfl⟩ := List.exists_cons_of_length_pos (Nat.lt_of_succ_lt_succ h)
  exact ⟨a0, a1, rest, rfl⟩

theorem exists_cons_three {v : View} (h : 2 < v.length) : ∃ a0 a1 a2 rest, v = a0 :: a1 :: a2 :: rest := by
  obtain ⟨a0, rest, rfl⟩ := List.exists_cons_of_length_pos (Nat.zero_lt_of_lt h)
  obtain ⟨a1, a2, rest, rfl⟩ := exists_cons_two (Nat.lt_of_succ_lt_succ h)
  exact ⟨a0, a1, a2, rest, rfl⟩

theorem exists_cons_four {v : View} (h : 3 < v.length) : ∃ a0 a1 a2 a3 rest, v = a0 :: a1 :: a2 :: a3 :: rest := by
  obtain ⟨a0, rest, rfl⟩ := List.exists_cons_of_length_pos (Nat.zero_lt_of_lt h)
  obtain ⟨a1, a2, a3, rest, rfl⟩ := exists_cons_three (Nat.lt_of_succ_lt_succ h)
  exact ⟨a0, a1, a2, a3, rest, rfl⟩

/-- What an accepted scalar at the head of a view is the encoding of. -/
theorem exists_encodeChar_of_valid {v : View} (h : (utf8Scalar v 0).valid = true) :
    ∃ c rest, v = String.utf8EncodeChar c ++ rest := by
  have hroom : ∀ {n}, ¬ (0 + n ≥ v.length) → n < v.length := fun hn => by omega
  revert h
  fun_cases utf8Scalar v 0 with
  | case1 | case3 | case4 | case5 | case7 | case9 => intro h; simp at h
  | case2 hlt b0 hascii =>
      intro _
      obtain ⟨a0, rest, rfl⟩ : ∃ a0 rest, v = a0 :: rest := List.exists_cons_of_length_pos (by omega)
      obtain ⟨c, hc⟩ := @exists_encodeChar_one a0 hascii
      exact ⟨c, rest, by rw [hc]; rfl⟩
  | case6 hlt b0 hascii need hpos hlen b1 hfirst hone =>
      intro _
      have hlen' := hroom hlen
      have hf : utf8FirstContinuationValid b0 b1 = true := by simpa using hfirst
      rw [hone] at hlen'
      obtain ⟨a0, a1, rest, rfl⟩ := exists_cons_two hlen'
      obtain ⟨c, hc⟩ := @exists_encodeChar_two a0 a1 hone hf
      exact ⟨c, rest, by rw [hc]; rfl⟩
  | case8 hlt b0 hascii need hpos hlen b1 hfirst hone b2 hcont htwo =>
      intro _
      have hlen' := hroom hlen
      have hf : utf8FirstContinuationValid b0 b1 = true := by simpa using hfirst
      have hc2 : utf8Continuation b2 = true := by simpa using hcont
      rw [htwo] at hlen'
      obtain ⟨a0, a1, a2, rest, rfl⟩ := exists_cons_three hlen'
      obtain ⟨c, hc⟩ := @exists_encodeChar_three a0 a1 a2 htwo hf hc2
      exact ⟨c, rest, by rw [hc]; rfl⟩
  | case10 hlt b0 hascii need hpos hlen b1 hfirst hone b2 hcont htwo b3 hcont' =>
      intro _
      have hle := utf8LeadContinuations_le b0
      have hthree : need = 3 := by omega
      have hlen' := hroom hlen
      have hf : utf8FirstContinuationValid b0 b1 = true := by simpa using hfirst
      have hc2 : utf8Continuation b2 = true := by simpa using hcont
      have hc3 : utf8Continuation b3 = true := by simpa using hcont'
      rw [hthree] at hlen'
      obtain ⟨a0, a1, a2, a3, rest, rfl⟩ := exists_cons_four hlen'
      obtain ⟨c, hc⟩ := @exists_encodeChar_four a0 a1 a2 a3 hthree hf hc2 hc3
      exact ⟨c, rest, by rw [hc]; rfl⟩

/-- Decoding a character that stands after a prefix. -/
theorem utf8Scalar_at (u : View) (c : Char) (rest : View) :
    utf8Scalar (u ++ (String.utf8EncodeChar c ++ rest)) u.length =
      { scalar := c.toNat, next := u.length + (String.utf8EncodeChar c).length, valid := true } := by
  have hdec := utf8Scalar_append u (String.utf8EncodeChar c ++ rest) 0
  rwa [utf8Scalar_encodeChar, Nat.add_zero] at hdec

/-- **Acceptance at an offset** is the encoding of a character standing there. -/
theorem utf8Scalar_valid_iff (text : View) (o s n : Nat) :
    utf8Scalar text o = { scalar := s, next := n, valid := true } ↔
      n ≤ text.length ∧ ∃ c : Char, c.toNat = s ∧ (text.take n).drop o = String.utf8EncodeChar c := by
  constructor
  · intro h
    have hlt : o < text.length := by
      by_contra hge
      simp [utf8Scalar, Nat.not_lt.mp hge] at h
    -- cut the text at the offset and read the character off its second half
    obtain ⟨u, v, rfl, hu⟩ : ∃ u v, text = u ++ v ∧ u.length = o :=
      ⟨text.take o, text.drop o, (List.take_append_drop o text).symm, by rw [List.length_take]; omega⟩
    have hdec := utf8Scalar_append u v 0
    rw [Nat.add_zero, hu, h] at hdec
    obtain ⟨c, rest, rfl⟩ := exists_encodeChar_of_valid (v := v) (congrArg Utf8Scalar.valid hdec).symm
    rw [← hu, utf8Scalar_at, Utf8Scalar.mk.injEq] at h
    obtain ⟨hs, hn, -⟩ := h
    refine ⟨?_, c, hs, ?_⟩
    · rw [← hn, List.length_append, List.length_append]
      omega
    · rw [← hn, ← hu, ← List.append_assoc, ← List.length_append, List.take_left, List.drop_left]
  · rintro ⟨hn, c, hs, hspan⟩
    have hpos : 0 < (String.utf8EncodeChar c).length := List.length_pos_iff.mpr (encodeChar_ne_nil c)
    have hlen : (String.utf8EncodeChar c).length = n - o := by
      rw [← hspan, List.length_drop, List.length_take, Nat.min_eq_left hn]
    have hcut : text = text.take o ++ (String.utf8EncodeChar c ++ text.drop n) := by
      have htake : text.take o = (text.take n).take o := by rw [List.take_take, Nat.min_eq_left (by omega)]
      rw [← hspan, htake, ← List.append_assoc, List.take_append_drop, List.take_append_drop]
    have hu : (text.take o).length = o := by rw [List.length_take]; omega
    have hdec := utf8Scalar_at (text.take o) c (text.drop n)
    rw [← hcut, hu, hlen, hs, Nat.add_sub_cancel' (by omega)] at hdec
    exact hdec

/-! ## Decoding a whole text -/

/-- **Decoding the encoding** of characters that stand after a prefix gives their values back. -/
theorem scalarsFrom_encode (u : View) (cs : List Char) :
    scalarsFrom (u ++ encode cs) u.length = some (cs.map Char.toNat) := by
  induction cs generalizing u with
  | nil => rw [encode_nil, List.append_nil, List.map_nil, scalarsFrom_of_ge (Nat.le_refl _)]
  | cons c cs ih =>
      have hat := utf8Scalar_at u c (encode cs)
      have hpos : 0 < (String.utf8EncodeChar c).length := List.length_pos_iff.mpr (encodeChar_ne_nil c)
      have hlt : u.length < (u ++ (String.utf8EncodeChar c ++ encode cs)).length := by
        rw [List.length_append, List.length_append]
        omega
      have hrest := ih (u ++ String.utf8EncodeChar c)
      rw [List.append_assoc, List.length_append] at hrest
      rw [encode_cons, scalarsFrom_of_valid hlt (by rw [hat]), hat, hrest]
      rfl

/-- A text whose rest decodes is the encoding of what was decoded. -/
theorem encode_of_scalarsFrom {u v : View} {ss : List Nat} (h : scalarsFrom (u ++ v) u.length = some ss) :
    ∃ cs, v = encode cs ∧ ss = cs.map Char.toNat := by
  -- the rest gets shorter by the decoded character
  induction hn : v.length using Nat.strongRecOn generalizing u v ss with
  | ind n ih =>
      cases v with
      | nil =>
          rw [List.append_nil, scalarsFrom_of_ge (Nat.le_refl _), Option.some.injEq] at h
          exact ⟨[], rfl, h.symm⟩
      | cons b v =>
          have hlt : u.length < (u ++ b :: v).length := by rw [List.length_append, List.length_cons]; omega
          cases hv : (utf8Scalar (u ++ b :: v) u.length).valid with
          | false =>
              rw [scalarsFrom_of_invalid hlt hv] at h
              contradiction
          | true =>
              have hdec := utf8Scalar_append u (b :: v) 0
              rw [Nat.add_zero] at hdec
              have hhead : (utf8Scalar (b :: v) 0).valid = true := by rw [← hv, hdec]
              obtain ⟨c, rest, hc⟩ := exists_encodeChar_of_valid hhead
              have hpos : 0 < (String.utf8EncodeChar c).length := List.length_pos_iff.mpr (encodeChar_ne_nil c)
              have hat := utf8Scalar_at u c rest
              rw [hc] at h hlt hv hn
              rw [scalarsFrom_of_valid hlt hv, hat, ← List.append_assoc, ← List.length_append,
                Option.map_eq_some_iff] at h
              obtain ⟨ss', hrest, rfl⟩ := h
              rw [List.length_append] at hn
              obtain ⟨cs, rfl, rfl⟩ := ih rest.length (by omega) hrest rfl
              exact ⟨c :: cs, hc, rfl⟩

/-- The iterated decoder gets to the end of the well-formed texts and of no other. -/
theorem scalarsFrom_isSome_iff (text : View) : (scalarsFrom text 0).isSome = true ↔ WellFormed text := by
  constructor
  · intro h
    obtain ⟨ss, hss⟩ := Option.isSome_iff_exists.mp h
    obtain ⟨cs, hcs, -⟩ := encode_of_scalarsFrom (u := []) (v := text) hss
    exact ⟨cs, hcs⟩
  · rintro ⟨cs, rfl⟩
    have hdec := scalarsFrom_encode [] cs
    rw [List.nil_append, List.length_nil] at hdec
    rw [hdec]
    rfl

/-- **One-scalar decoding is exact.** It accepts at an offset exactly the encoding of a character, a refusal inside
    the text advances one byte, iterated it reads back the encoding of any characters and accepts what the validation
    automaton accepts, and over a page layout it is the decoding of the content. -/
theorem utf8Scalar_exact (text : View) :
    (∀ o s n, utf8Scalar text o = { scalar := s, next := n, valid := true } ↔
      n ≤ text.length ∧ ∃ c : Char, c.toNat = s ∧ (text.take n).drop o = String.utf8EncodeChar c) ∧
    (∀ o < text.length, (utf8Scalar text o).valid = false → (utf8Scalar text o).next = o + 1) ∧
    (∀ cs, scalarsFrom (encode cs) 0 = some (cs.map Char.toNat)) ∧
    ((validateUtf8 text).valid = true ↔ (scalarsFrom text 0).isSome = true) ∧
    ∀ (c : Layout text) o, utf8ScalarGlobal c.pages c.stride text.length o = utf8Scalar text o := by
  refine ⟨utf8Scalar_valid_iff text, ?_, ?_, ?_, ?_⟩
  · intro o ho
    exact (utf8Scalar_progress ho).2.2.2
  · intro cs
    exact scalarsFrom_encode [] cs
  · rw [(validateUtf8_spec text).1, scalarsFrom_isSome_iff]
  · intro c o
    exact c.utf8ScalarGlobal_eq o

end MncsCompiler
