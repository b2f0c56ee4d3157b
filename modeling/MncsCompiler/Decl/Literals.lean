import Mathlib.Algebra.GroupWithZero.Nat
import MncsCompiler.Decl.Tokens
import MncsCompiler.Lexer.Numbers
import MncsCompiler.Lib.Checked

/-!
# `Decl.Literals` — decimal literals

`int_value` reads at most 1024 digits of a span. Its arithmetic is checked, so it has a second reading here,
`intValueChecked`, that is `none` where an operation of the source would trap. On an integer token neither happens, and
the value is exact, unless the token is longer than the loop and begins with so many zeros that the digits read stay
below 2^64.
-/

namespace MncsCompiler.Decl

open BoundedLoop Checked

/-! ## Checked arithmetic -/

/-- `int_step` on `u64`. -/
def intStepChecked (start stop : Nat) (st : IntVal) (pos byte : Nat) : Option IntVal :=
  if pos < start || pos ≥ stop then some st
  else do
    let digit ← sub? byte 48
    if st.value > 1844674407370955161 then some { value := st.value, overflow := true }
    else if st.value = 1844674407370955161 && digit > 5 then some { value := st.value, overflow := true }
    else do
      let shifted ← mul? 64 st.value 10
      let value ← add? 64 shifted digit
      some { value := value, overflow := st.overflow }

/-- `int_value` on `u64`. -/
def intValueChecked (pages : List View) (stride total start stop : Nat) : Option IntVal :=
  (iterate (fun i (d : IntVal) =>
      match add? 64 start i with
      | none => .ret none
      | some pos =>
          if pos < start || pos ≥ stop then .ret (some d)
          else
            match intStepChecked start stop d pos (byteAtGlobal pages stride total pos) with
            | none => .ret none
            | some next => .next next)
    0 1024 { value := 0, overflow := false }).after some

/-! ## Digits -/

/-- The number that a run of digits denotes. -/
def decimal (digits : View) : Nat := digits.foldl (fun v b => v * 10 + (b.toNat - 48)) 0

/-- A step of `int_value` inside the span. -/
def digitStep (st : IntVal) (b : UInt8) : Option IntVal := intStepChecked 0 1 st 0 b.toNat

/-- The bytes of a token. -/
def tokenBytes (text : View) (t : Token) : View := (text.drop t.start).take (t.stop - t.start)

section Digits

variable {st : IntVal} {b : UInt8} {digits : View}

/-- The value never leaves `u64`. -/
theorem digitStep_digit (hst : st.value < 2 ^ 64) (hb : digit b.toNat = true) :
    ∃ next, digitStep st b = some next ∧ next.value < 2 ^ 64 ∧
      ((next.overflow = st.overflow ∧ next.value = st.value * 10 + (b.toNat - 48)) ∨
        (next.overflow = true ∧ 2 ^ 64 ≤ st.value * 10 + (b.toNat - 48))) := by
  rw [digit, Bool.and_eq_true, decide_eq_true_eq, decide_eq_true_eq] at hb
  unfold digitStep intStepChecked
  rw [if_neg (by decide), sub?_of_le hb.1, Option.bind_eq_bind, Option.bind_some]
  split
  · next hbig => exact ⟨_, rfl, hst, .inr ⟨rfl, by omega⟩⟩
  · next hbig =>
      split
      · next hedge =>
          rw [Bool.and_eq_true, decide_eq_true_eq, decide_eq_true_eq] at hedge
          exact ⟨_, rfl, hst, .inr ⟨rfl, by omega⟩⟩
      · next hedge =>
          rw [Bool.and_eq_true, decide_eq_true_eq, decide_eq_true_eq] at hedge
          have hsum : st.value * 10 + (b.toNat - 48) < 2 ^ 64 := by omega
          rw [mul?_of_lt (Nat.lt_of_le_of_lt (Nat.le_add_right _ _) hsum), Option.bind_some,
            add?_of_lt hsum, Option.bind_some]
          exact ⟨_, rfl, hsum, .inl ⟨rfl, rfl⟩⟩

/-- A byte below the digits traps. -/
theorem digitStep_low (hb : b.toNat < 48) : digitStep st b = none := by
  unfold digitStep intStepChecked
  rw [sub?_of_lt hb]
  rfl

theorem foldl_decimal_ge (n : Nat) (digits : View) :
    n ≤ digits.foldl (fun v b => v * 10 + (b.toNat - 48)) n := by
  induction digits generalizing n with
  | nil => exact Nat.le_refl n
  | cons b digits ih =>
      have hstep : n ≤ n * 10 + (b.toNat - 48) := by omega
      exact Nat.le_trans hstep (ih _)

/-- Overflow is sticky. -/
theorem foldlM_digitStep_overflow (hst : st.value < 2 ^ 64) (hover : st.overflow = true)
    (hdigits : ∀ b ∈ digits, digit b.toNat = true) :
    ∃ v, digits.foldlM digitStep st = some v ∧ v.overflow = true := by
  induction digits generalizing st with
  | nil => exact ⟨st, rfl, hover⟩
  | cons b digits ih =>
      obtain ⟨next, hstep, hlt, hnext⟩ := digitStep_digit hst (hdigits b List.mem_cons_self)
      have hnext : next.overflow = true := by
        rcases hnext with ⟨hsame, -⟩ | ⟨htrue, -⟩
        · rw [hsame, hover]
        · exact htrue
      obtain ⟨v, hv, hvover⟩ := ih hlt hnext fun b hb => hdigits b (List.mem_cons_of_mem _ hb)
      refine ⟨v, ?_, hvover⟩
      rw [List.foldlM_cons, hstep]
      exact hv

/-- **Digits are read exactly**, from any value read before them. -/
theorem foldlM_digitStep (hst : st.value < 2 ^ 64) (hover : st.overflow = false)
    (hdigits : ∀ b ∈ digits, digit b.toNat = true) :
    ∃ v, digits.foldlM digitStep st = some v ∧
      v.overflow = decide (2 ^ 64 ≤ digits.foldl (fun v b => v * 10 + (b.toNat - 48)) st.value) ∧
      (digits.foldl (fun v b => v * 10 + (b.toNat - 48)) st.value < 2 ^ 64 →
        v.value = digits.foldl (fun v b => v * 10 + (b.toNat - 48)) st.value) := by
  induction digits generalizing st with
  | nil =>
      refine ⟨st, rfl, ?_, fun _ => rfl⟩
      rw [List.foldl_nil, hover, eq_comm, decide_eq_false_iff_not]
      exact Nat.not_le.mpr hst
  | cons b digits ih =>
      obtain ⟨next, hstep, hlt, hnext⟩ := digitStep_digit hst (hdigits b List.mem_cons_self)
      have hrest : ∀ b ∈ digits, digit b.toNat = true := fun b hb => hdigits b (List.mem_cons_of_mem _ hb)
      rw [List.foldlM_cons, hstep, List.foldl_cons]
      rcases hnext with ⟨hsame, hvalue⟩ | ⟨htrue, hbig⟩
      · rw [← hvalue]
        exact ih hlt (hsame.trans hover) hrest
      · obtain ⟨v, hv, hvover⟩ := foldlM_digitStep_overflow hlt htrue hrest
        have hge := Nat.le_trans hbig (foldl_decimal_ge (st.value * 10 + (b.toNat - 48)) digits)
        refine ⟨v, hv, ?_, fun hsmall => absurd hge (Nat.not_le.mpr hsmall)⟩
        rw [hvover, decide_eq_true hge]

/-- A byte below the digits traps wherever it stands among them. -/
theorem foldlM_digitStep_low (hst : st.value < 2 ^ 64)
    (hbytes : ∀ b ∈ digits, digit b.toNat = true ∨ b.toNat < 48) (hlow : ∃ b ∈ digits, b.toNat < 48) :
    digits.foldlM digitStep st = none := by
  induction digits generalizing st with
  | nil =>
      obtain ⟨b, hb, -⟩ := hlow
      cases hb
  | cons b digits ih =>
      rw [List.foldlM_cons]
      rcases hbytes b List.mem_cons_self with hdigit | hb
      · obtain ⟨next, hstep, hlt, -⟩ := digitStep_digit hst hdigit
        rw [hstep]
        refine ih hlt (fun b hb => hbytes b (List.mem_cons_of_mem _ hb)) ?_
        obtain ⟨d, hd, hdlow⟩ := hlow
        rcases List.mem_cons.mp hd with rfl | hd
        · rw [digit, Bool.and_eq_true, decide_eq_true_eq] at hdigit
          omega
        · exact ⟨d, hd, hdlow⟩
      · rw [digitStep_low hb]
        rfl

end Digits

/-! ## The loop -/

theorem intStepChecked_inside {start stop pos : Nat} (h : start ≤ pos) (h' : pos < stop) (st : IntVal) (b : UInt8) :
    intStepChecked start stop st pos b.toNat = digitStep st b := by
  unfold digitStep intStepChecked
  rw [if_neg (by simp [h, h']), if_neg (by decide)]

/-- An operation that does not trap is the one of the unchecked reading. -/
theorem intStepChecked_some {start stop pos byte : Nat} {st next : IntVal}
    (h : intStepChecked start stop st pos byte = some next) : intStep start stop st pos byte = next := by
  unfold intStepChecked at h
  unfold intStep
  split at h
  · next hout =>
      rw [if_pos hout]
      exact Option.some.inj h
  · next hin =>
      rw [if_neg hin]
      obtain ⟨digit, hdigit, h⟩ := Option.bind_eq_some_iff.mp h
      have hdigit : byte - 48 = digit := by
        unfold sub? at hdigit
        split at hdigit
        · exact Option.some.inj hdigit
        · cases hdigit
      dsimp only
      rw [hdigit]
      split at h
      · next hbig =>
          rw [if_pos hbig]
          exact Option.some.inj h
      · next hbig =>
          rw [if_neg hbig]
          split at h
          · next hedge =>
              rw [if_pos hedge]
              exact Option.some.inj h
          · next hedge =>
              rw [if_neg hedge]
              obtain ⟨shifted, hshifted, h⟩ := Option.bind_eq_some_iff.mp h
              obtain ⟨value, hvalue, h⟩ := Option.bind_eq_some_iff.mp h
              unfold mul? at hshifted
              unfold add? at hvalue
              split at hshifted
              · split at hvalue
                · rw [← Option.some.inj h, ← Option.some.inj hvalue, ← Option.some.inj hshifted]
                · cases hvalue
              · cases hshifted

section Loop

variable (read : Nat → Nat) (start stop : Nat)

/-- A pass of `int_value`. -/
def intPass (i : Nat) (d : IntVal) : Pass IntVal IntVal :=
  let pos := start + i
  if pos < start || pos ≥ stop then .ret d else .next (intStep start stop d pos (read pos))

/-- A checked pass. -/
def intPassChecked (i : Nat) (d : IntVal) : Pass (Option IntVal) IntVal :=
  match add? 64 start i with
  | none => .ret none
  | some pos =>
      if pos < start || pos ≥ stop then .ret (some d)
      else
        match intStepChecked start stop d pos (read pos) with
        | none => .ret none
        | some next => .next next

/-- **The two readings agree** unless the checked one traps. -/
theorem intPassChecked_some {i n : Nat} {d v : IntVal}
    (h : (iterate (intPassChecked read start stop) i n d).after some = some v) :
    (iterate (intPass read start stop) i n d).after id = v := by
  induction n generalizing i d with
  | zero => exact Option.some.inj h
  | succ n ih =>
      rw [iterate_succ] at h ⊢
      unfold intPassChecked at h
      unfold intPass
      cases hadd : add? 64 start i with
      | none =>
          rw [hadd] at h
          cases h
      | some pos =>
          have hpos : start + i = pos := by
            unfold add? at hadd
            split at hadd
            · exact Option.some.inj hadd
            · cases hadd
          rw [hadd] at h
          dsimp only at h ⊢
          rw [hpos]
          split at h
          · next hout =>
              rw [if_pos hout]
              exact Option.some.inj h
          · next hin =>
              rw [if_neg hin]
              cases hstep : intStepChecked start stop d pos (read pos) with
              | none =>
                  rw [hstep] at h
                  cases h
              | some next =>
                  rw [hstep] at h
                  rw [intStepChecked_some hstep]
                  exact ih h

/-- The checked loop reads the bytes of the span, as many as it has passes. -/
theorem intPassChecked_foldlM {text : View} (hread : ∀ i, i < text.length → read i = byte text i)
    (hstop : stop ≤ text.length) (hsmall : text.length < 2 ^ 63) {i n : Nat} (hn : i + n < 2 ^ 63)
    (hi : start + i ≤ stop) (d : IntVal) :
    (iterate (intPassChecked read start stop) i n d).after some =
      ((text.drop (start + i)).take (min n (stop - (start + i)))).foldlM digitStep d := by
  induction n generalizing i d with
  | zero =>
      rw [Nat.zero_min, List.take_zero]
      rfl
  | succ n ih =>
      rw [iterate_succ, intPassChecked, add?_of_lt (by omega)]
      dsimp only
      rcases Nat.lt_or_eq_of_le hi with hlt | heq
      · have hlen : start + i < text.length := Nat.lt_of_lt_of_le hlt hstop
        have hbyte : read (start + i) = (text[start + i]).toNat := by
          rw [hread _ hlen, byte_eq_getElem hlen]
        rw [if_neg (by simp [hlt]), hbyte, intStepChecked_inside (Nat.le_add_right _ _) hlt,
          show min (n + 1) (stop - (start + i)) = min n (stop - (start + (i + 1))) + 1 by omega,
          List.drop_eq_getElem_cons hlen, List.take_succ_cons, List.foldlM_cons]
        cases hstep : digitStep d text[start + i] with
        | none => rfl
        | some next => exact ih (by omega) (by omega) next
      · rw [if_pos (by simp [heq]), heq, Nat.sub_self, Nat.min_zero, List.take_zero]
        rfl

end Loop

theorem intValueChecked_some {pages : List View} {stride total start stop : Nat} {v : IntVal}
    (h : intValueChecked pages stride total start stop = some v) : intValue pages stride total start stop = v :=
  intPassChecked_some (byteAtGlobal pages stride total) start stop h

/-! ## Integer tokens -/

/-- `int_value` gives the exact value of the token when it is below 2^64 and overflow otherwise, and no operation of
    it traps. -/
structure LiteralExact (text : View) (c : Composition text) (t : Token) : Prop where
  total : intValueChecked c.pages c.stride text.length t.start t.stop =
    some (intValue c.pages c.stride text.length t.start t.stop)
  overflow : (intValue c.pages c.stride text.length t.start t.stop).overflow =
    decide (2 ^ 64 ≤ decimal (tokenBytes text t))
  value : decimal (tokenBytes text t) < 2 ^ 64 →
    (intValue c.pages c.stride text.length t.start t.stop).value = decimal (tokenBytes text t)

section Tokens

variable {text : View} {t : Token}

theorem length_tokenBytes (h : NumberToken text t) : (tokenBytes text t).length = t.stop - t.start := by
  have hle := h.le
  have hlt := h.lt
  rw [tokenBytes, List.length_take, List.length_drop]
  omega

/-- The bytes of a token, by their offset in the source. -/
theorem mem_tokenBytes {b : UInt8} (h : NumberToken text t) (hb : b ∈ tokenBytes text t) :
    ∃ j, t.start ≤ j ∧ j < t.stop ∧ byteAt text j = b.toNat := by
  obtain ⟨k, hk, rfl⟩ := List.mem_iff_getElem.mp hb
  have hlen : k < t.stop - t.start := length_tokenBytes h ▸ hk
  have hle := h.le
  refine ⟨t.start + k, Nat.le_add_right _ _, by omega, ?_⟩
  rw [byteAt_of_lt (by omega), byte_eq_getElem (by omega)]
  simp [tokenBytes]

/-- What `int_value` computes on a number token: the fold over its first 1024 bytes. -/
theorem intValueChecked_token (c : Composition text) (h : NumberToken text t) {skip : Nat}
    (hskip : t.start + skip ≤ t.stop) :
    intValueChecked c.pages c.stride text.length (t.start + skip) t.stop =
      (((tokenBytes text t).drop skip).take 1024).foldlM digitStep { value := 0, overflow := false } := by
  have hsmall := c.small
  have hread : ∀ i, i < text.length → byteAtGlobal c.pages c.stride text.length i = byte text i := by
    intro i hi
    rw [c.byteAtGlobal_eq, byteAt_of_lt hi]
  have hloop := intPassChecked_foldlM _ (t.start + skip) t.stop hread h.le (by omega) (i := 0) (n := 1024)
    (by omega) hskip { value := 0, overflow := false }
  refine hloop.trans ?_
  rw [tokenBytes, List.drop_take, List.take_take, List.drop_drop, Nat.add_zero, Nat.sub_add_eq]

/-- What is read of an integer token. -/
theorem intValueChecked_integer (c : Composition text) (h : NumberToken text t) (hkind : t.kind = 5) :
    ∃ v, intValueChecked c.pages c.stride text.length t.start t.stop = some v ∧
      v.overflow = decide (2 ^ 64 ≤ decimal ((tokenBytes text t).take 1024)) ∧
      (decimal ((tokenBytes text t).take 1024) < 2 ^ 64 → v.value = decimal ((tokenBytes text t).take 1024)) := by
  have hrun := @intValueChecked_token _ _ c h 0 (Nat.le_of_lt h.lt)
  rw [List.drop_zero, Nat.add_zero] at hrun
  rw [hrun]
  refine foldlM_digitStep (by decide) rfl ?_
  intro b hb
  obtain ⟨j, hj, hlt, hbyte⟩ := mem_tokenBytes h (List.mem_of_mem_take hb)
  rw [← hbyte]
  refine (h.bytes j hj hlt).resolve_right ?_
  rintro ⟨hsix, -⟩
  rw [hkind] at hsix
  cases hsix

/-- Digits behind the first 1024 change the number unless all are zero. -/
theorem decimal_take_eq {digits : View} {n : Nat} (hlen : n < digits.length)
    (h : decimal (digits.take n) = decimal digits) : decimal digits = 0 := by
  have hsplit : decimal digits =
      (digits.drop n).foldl (fun v b => v * 10 + (b.toNat - 48)) (decimal (digits.take n)) := by
    rw [decimal, decimal, ← List.foldl_append, List.take_append_drop]
  rw [h, List.drop_eq_getElem_cons hlen, List.foldl_cons] at hsplit
  have hge := foldl_decimal_ge (decimal digits * 10 + (digits[n].toNat - 48)) (digits.drop (n + 1))
  omega

theorem decimal_take_le (digits : View) (n : Nat) : decimal (digits.take n) ≤ decimal digits := by
  have hge := foldl_decimal_ge (decimal (digits.take n)) (digits.drop n)
  have hsplit : decimal digits =
      (digits.drop n).foldl (fun v b => v * 10 + (b.toNat - 48)) (decimal (digits.take n)) := by
    rw [decimal, decimal, ← List.foldl_append, List.take_append_drop]
  rwa [← hsplit] at hge

end Tokens

theorem literalExact_iff {text : View} (c : Composition text) {t : Token} (htoken : NumberToken text t)
    (hkind : t.kind = 5) : LiteralExact text c t ↔
      t.stop - t.start ≤ 1024 ∨ 2 ^ 64 ≤ decimal ((tokenBytes text t).take 1024) ∨ decimal (tokenBytes text t) = 0 := by
  obtain ⟨v, hv, hover, hvalue⟩ := intValueChecked_integer c htoken hkind
  have hval := intValueChecked_some hv
  have hlen := length_tokenBytes htoken
  have htake := decimal_take_le (tokenBytes text t) 1024
  constructor
  · rintro ⟨-, hexactOver, hexactValue⟩
    rw [hval] at hexactOver hexactValue
    rw [or_iff_not_imp_left, or_iff_not_imp_left]
    intro hlong hlow
    have hsmall : decimal (tokenBytes text t) < 2 ^ 64 := by
      rw [hover, decide_eq_false hlow, eq_comm, decide_eq_false_iff_not] at hexactOver
      exact Nat.not_le.mp hexactOver
    refine decimal_take_eq (n := 1024) (by omega) ?_
    rw [← hvalue (Nat.not_le.mp hlow), hexactValue hsmall]
  · intro hcond
    have hsame : decimal ((tokenBytes text t).take 1024) = decimal (tokenBytes text t) ∨
        2 ^ 64 ≤ decimal ((tokenBytes text t).take 1024) := by
      rcases hcond with hshort | hbig | hzero
      · left
        rw [List.take_of_length_le (by omega)]
      · exact .inr hbig
      · left
        omega
    refine ⟨by rw [hval, hv], ?_, ?_⟩
    · rw [hval, hover, decide_eq_decide]
      omega
    · rw [hval]
      intro hsmall
      rcases hsame with heq | hbig
      · rw [hvalue (by omega), heq]
      · omega

/-- **Integer literals.** The value of an integer token is exact exactly when the loop reads all of it, or what it reads
    overflows already, or the token is all zeros. -/
theorem intValue_exact_iff {text : View} (c : Composition text) {start : Nat} {t : Token}
    (ht : nextTokenGlobal c.pages c.stride text.length start = t) (hkind : t.kind = 5) :
    LiteralExact text c t ↔
      t.stop - t.start ≤ 1024 ∨ 2 ^ 64 ≤ decimal ((tokenBytes text t).take 1024) ∨ decimal (tokenBytes text t) = 0 := by
  refine literalExact_iff c ?_ hkind
  rw [← ht, nextTokenGlobal_eq] at hkind ⊢
  exact windowToken_number (.inl hkind)

/-- `042;` in pages of three bytes. -/
def fortyTwo : Composition [48, 52, 50, 59] where
  pages := [[48, 52, 50], [59]]
  stride := 3
  valid := by decide
  content := rfl
  small := by decide

theorem intValue_exact_fortyTwo : LiteralExact [48, 52, 50, 59] fortyTwo ⟨5, 0, 3, 0⟩ :=
  (@intValue_exact_iff _ fortyTwo 0 _ (by decide +kernel) rfl).mpr (.inl (by decide))

/-! ## A padded literal -/

/-- The digit 1 behind `n` zeros. -/
def paddedOne (n : Nat) : View := List.replicate n 48 ++ [49]

section PaddedOne

variable {n : Nat}

@[simp] theorem length_paddedOne : (paddedOne n).length = n + 1 := by simp [paddedOne]

theorem byteAt_paddedOne {j : Nat} (hj : j < (paddedOne n).length) : digit (byteAt (paddedOne n) j) = true := by
  rw [byteAt_of_lt hj, byte_eq_getElem hj]
  have hmem : (paddedOne n)[j] ∈ List.replicate n 48 ++ [49] := List.getElem_mem hj
  rw [List.mem_append, List.mem_singleton] at hmem
  rcases hmem with hzero | hone
  · have hbyte : (paddedOne n)[j] = 48 := List.eq_of_mem_replicate hzero
    rw [hbyte]
    rfl
  · have hbyte : (paddedOne n)[j] = 49 := hone
    rw [hbyte]
    rfl

theorem decimal_zeros (rest : View) : decimal (List.replicate n 48 ++ rest) = decimal rest := by
  induction n with
  | zero => rfl
  | succ n ih => exact ih

theorem decimal_paddedOne : decimal (paddedOne n) = 1 := decimal_zeros [49]

theorem decimal_take_paddedOne : decimal ((paddedOne n).take n) = 0 := by
  have htake : (paddedOne n).take n = List.replicate n 48 ++ [] := by simp [paddedOne]
  rw [htake, decimal_zeros]
  rfl

/-- The padding on a page of its own. -/
def paddedOnePages (h : validatePages [List.replicate n 48, [49]] n (paddedOne n).length = 0) (hn : n ≤ 1024) :
    Composition (paddedOne n) where
  pages := [List.replicate n 48, [49]]
  stride := n
  valid := h
  content := by simp [paddedOne]
  small := by
    rw [length_paddedOne]
    omega

theorem windowToken_paddedOne (hn : n ≤ 1024) : windowToken (paddedOne n) 0 = ⟨5, 0, n + 1, 0⟩ := by
  rw [windowToken_digits (by simp [paddedOne]) (fun j hj => byteAt_paddedOne hj) (by rw [length_paddedOne]; omega),
    length_paddedOne]

end PaddedOne

/-- The literal with 1024 zeros reads as 0. -/
theorem not_intValue_exact :
    ¬ ∀ (text : View) (c : Composition text) (start : Nat) (t : Token),
      nextTokenGlobal c.pages c.stride text.length start = t → t.kind = 5 → LiteralExact text c t := by
  intro hall
  have hpages : validatePages [List.replicate 1024 48, [49]] 1024 (paddedOne 1024).length = 0 := by
    rw [length_paddedOne]
    decide +kernel
  have hwindow := windowToken_paddedOne (Nat.le_refl 1024)
  have htoken : NumberToken (paddedOne 1024) ⟨5, 0, 1025, 0⟩ := by
    rw [← hwindow]
    exact windowToken_number (.inl (by rw [hwindow]))
  have hexact := hall _ (paddedOnePages hpages (Nat.le_refl 1024)) 0 _ ((nextTokenGlobal_eq _ 0).trans hwindow) rfl
  have hbytes : tokenBytes (paddedOne 1024) ⟨5, 0, 1025, 0⟩ = paddedOne 1024 := by
    refine List.take_of_length_le ?_
    rw [List.drop_zero, length_paddedOne]
    exact Nat.le_refl 1025
  rw [literalExact_iff _ htoken rfl, hbytes, decimal_take_paddedOne, decimal_paddedOne] at hexact
  revert hexact
  decide

end MncsCompiler.Decl
