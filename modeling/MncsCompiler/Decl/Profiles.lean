import Mathlib.Algebra.GroupWithZero.Nat
import MncsCompiler.Lexer.Budgets
import MncsCompiler.Decl.Literals

/-!
# `Decl.Profiles` — the header twin and the version gate

`header` of `decl.mncs` is a copy of `parser.header_global` with less fuel: 1025 tokens in place of 4097. A header that
is still open after them comes back without a code and without the accepting state.

`profile_at_least_minor` reads the minor version of a token that begins with `0.`. A version token may have any number
of further dots, and a dot is not a digit: the checked subtraction in `int_value` traps on it.
-/

namespace MncsCompiler.Decl

open BoundedLoop Checked

/-- The arguments that a page composition gives the functions of the parser. -/
def Source.ofPages {text : View} (c : Composition text) : Source :=
  { pages := c.pages, stride := c.stride, total := text.length }

/-! ## The header twin -/

/-- **The run of the twin**: 1025 steps. -/
theorem header_steps (src : Source) : header src = (headerStep src)^[1025] Parser.seed := by
  have hstays : ∀ st : Parser.Header, st.ended = true → headerStep src st = st := fun st h =>
    Parser.stepGlobal_of_ended src.pages src.stride src.total h
  have hfinish : ∀ st, headerFinish src st = headerStep src st := by
    intro st
    unfold headerFinish
    split
    · next h => exact (hstays st h).symm
    · rfl
  have hloop := iterate_guard (p := Parser.Header.ended) (f := headerStep src) (k := headerFinish src)
    (b := fun _ d => if d.ended then .ret d else .next (headerStep src d))
    (fun _ d => by
      cases hd : d.ended with
      | true => simp [headerFinish, hd]
      | false => simp)
    0 1024 Parser.seed
  rw [settle_eq_self hstays, hfinish, ← Function.iterate_succ_apply' (headerStep src) 1024] at hloop
  exact hloop

/-- `header_global` always comes back with a code or with the accepting state. -/
theorem headerGlobal_ended (pages : List View) (stride total : Nat) :
    (Parser.headerGlobal pages stride total).ended = true := by
  unfold Parser.headerGlobal
  dsimp only
  split
  · rfl
  · generalize Parser.scanHeaderGlobal pages stride total Parser.seed = st
    unfold Parser.finishGlobal
    split
    · next h => exact h
    · dsimp only
      split
      · next h => exact h
      · rfl

theorem headerGlobal_steps {text : View} (c : Composition text) (h : WellFormed text) :
    Parser.headerGlobal c.pages c.stride text.length = Parser.finishGlobal c.pages c.stride text.length
      ((headerStep (.ofPages c))^[4096] Parser.seed) := by
  unfold Parser.headerGlobal
  rw [validateUtf8Global_eq, Parser.scanHeaderGlobal_eq]
  dsimp only
  rw [(validateUtf8_spec text).1.mpr h, Bool.not_true, if_neg Bool.false_ne_true]
  have hstep : headerStep (.ofPages c) = Parser.stepGlobal c.pages c.stride text.length := rfl
  rw [hstep]

/-- `mncs 0.1;module a.a.….a.` with `n` components. -/
def longName (n : Nat) : View :=
  [109, 110, 99, 115, 32, 48, 46, 49, 59, 109, 111, 100, 117, 108, 101, 32] ++ (List.replicate n [97, 46]).flatten

theorem length_longName {n : Nat} : (longName n).length = 16 + 2 * n := by
  simp [longName]
  omega

/-- A component of the name and the dot behind it. -/
theorem byteAt_longName {n j : Nat} (hj : j < n) :
    byteAt (longName n) (16 + 2 * j) = 97 ∧ byteAt (longName n) (17 + 2 * j) = 46 := by
  have hname : byteAt (List.replicate n [97, 46]).flatten (2 * j) = 97 ∧
      byteAt (List.replicate n [97, 46]).flatten (2 * j + 1) = 46 := by
    induction n generalizing j with
    | zero => cases hj
    | succ n ih =>
        rw [List.replicate_succ, List.flatten_cons]
        cases j with
        | zero => exact ⟨rfl, rfl⟩
        | succ j =>
            have hshift : ∀ k, byteAt ([97, 46] ++ (List.replicate n [97, 46]).flatten) (2 + k) =
                byteAt (List.replicate n [97, 46]).flatten k :=
              byteAt_append_right [97, 46] _
            rw [show 2 * (j + 1) = 2 + 2 * j by omega, Nat.add_assoc, hshift, hshift]
            exact ih (Nat.lt_of_succ_lt_succ hj)
  have hnames : ∀ k, byteAt (longName n) (16 + k) = byteAt (List.replicate n [97, 46]).flatten k :=
    byteAt_append_right [109, 110, 99, 115, 32, 48, 46, 49, 59, 109, 111, 100, 117, 108, 101, 32] _
  rw [show 17 + 2 * j = 16 + (2 * j + 1) by omega, hnames, hnames]
  exact hname

theorem nextToken_letter {text : View} {o : Nat} (h : byteAt text o = 97) (hnext : byteAt text (o + 1) = 46) :
    nextToken text o = { kind := 4, start := o, stop := o + 1, diagnostic := 0 } := by
  have hlt : o + 1 < text.length := byteAt_lt_iff.mp (by omega)
  have hkeyword : keyword text o (o + 1) = 4 := by
    have hbyte : byte text o = 97 := by rw [← byteAt_of_lt (by omega), h]
    have hspelling : spelling (byte text) o 1 = [97] := by simp [spelling, hbyte]
    rw [keyword, if_neg (by simp; omega), Nat.add_sub_cancel_left, hspelling]
    decide
  rw [@nextToken_run text o 0 h (fun i hi => absurd hi (Nat.not_lt_zero i)) (by rw [Nat.add_zero, hnext]; decide)
    (by rw [Nat.add_zero, hnext]; rfl), Nat.add_zero, hkeyword]

theorem nextToken_dot {text : View} {o : Nat} (h : byteAt text o = 46) (hnext : byteAt text (o + 1) = 97) :
    nextToken text o = { kind := 61, start := o, stop := o + 1, diagnostic := 0 } := by
  have hlt : o + 1 < text.length := byteAt_lt_iff.mp (by omega)
  unfold nextToken
  rw [if_neg (by omega), if_neg (by omega), h, hnext]
  rfl

section Pages

variable {text : View} (c : Composition text) {o : Nat} {t : Token}

theorem nextTokenGlobal_of_short (hlt : o < text.length) (hslash : byteAt text o ≠ 47) (ht : nextToken text o = t)
    (hshort : t.stop ≤ o + 1024) : nextTokenGlobal c.pages c.stride text.length o = t := by
  have hline : (headClass text o).line = false := by simp [headClass, startClassGlobal, hslash]
  rw [nextTokenGlobal_eq, windowToken_of_short hlt hline (by rw [ht]; exact hshort), ht]

theorem token_of_plain (ht : nextTokenGlobal c.pages c.stride text.length o = t) (hplain : isTriviaCont t = false) :
    (Source.ofPages c).token o = t := by
  show significantFrom (nextTokenGlobal c.pages c.stride text.length) o = t
  simp [significantFrom, ht, hplain]

theorem token_of_space {w : Token} (hw : nextTokenGlobal c.pages c.stride text.length o = w)
    (htrivia : isTriviaCont w = true) (ht : nextTokenGlobal c.pages c.stride text.length w.stop = t)
    (hplain : isTriviaCont t = false) : (Source.ofPages c).token o = t := by
  show significantFrom (nextTokenGlobal c.pages c.stride text.length) o = t
  simp [significantFrom, hw, htrivia, ht, hplain]

theorem headerStep_token {st : Parser.Header} (hopen : st.ended = false)
    (ht : (Source.ofPages c).token st.nextOffset = t) : headerStep (.ofPages c) st = Parser.move t st := by
  show Parser.stepGlobal c.pages c.stride text.length st = _
  rw [Parser.stepGlobal, hopen, if_neg Bool.false_ne_true]
  exact congrArg (fun u => Parser.move u st) ht

end Pages

/-- The header record behind the component `j` of the name. -/
def inName (j : Nat) : Parser.Header :=
  { code := 0, start := 0, stop := 0, versionStart := 5, versionStop := 8, moduleStart := 16
    moduleStop := 17 + 2 * j, nextOffset := 17 + 2 * j, state := 5 }

theorem move_component {j start middle stop : Nat} :
    Parser.move ⟨4, middle, stop, 0⟩ (Parser.move ⟨61, start, middle, 0⟩ (inName j)) =
      { inName j with moduleStop := stop, nextOffset := stop } :=
  rfl

/-- A dot and a component take two steps. -/
theorem headerStep_component {n : Nat} (c : Composition (longName n)) {j : Nat} (hj : j + 1 < n) :
    (headerStep (.ofPages c))^[2] (inName j) = inName (j + 1) := by
  have hdot := (byteAt_longName (Nat.lt_of_succ_lt hj)).2
  obtain ⟨hletter, hbehind⟩ := byteAt_longName hj
  rw [show 16 + 2 * (j + 1) = 17 + 2 * j + 1 by omega] at hletter
  rw [show 17 + 2 * (j + 1) = 17 + 2 * j + 1 + 1 by omega] at hbehind
  have hlen := length_longName (n := n)
  have hwidth : 17 + 2 * j + 1 ≤ 17 + 2 * j + 1024 := Nat.add_le_add_left (by decide) _
  have hwidth' : 17 + 2 * j + 1 + 1 ≤ 17 + 2 * j + 1 + 1024 := Nat.add_le_add_left (by decide) _
  have hfirst : (Source.ofPages c).token (17 + 2 * j) = ⟨61, 17 + 2 * j, 17 + 2 * j + 1, 0⟩ :=
    token_of_plain c (nextTokenGlobal_of_short c (by omega) (by omega) (nextToken_dot hdot hletter) hwidth) rfl
  have hsecond : (Source.ofPages c).token (17 + 2 * j + 1) = ⟨4, 17 + 2 * j + 1, 17 + 2 * j + 1 + 1, 0⟩ :=
    token_of_plain c (nextTokenGlobal_of_short c (by omega) (by omega) (nextToken_letter hletter hbehind) hwidth') rfl
  have hopen : (inName j).ended = false := rfl
  have hinner : (Parser.move ⟨61, 17 + 2 * j, 17 + 2 * j + 1, 0⟩ (inName j)).ended = false := rfl
  have hone := headerStep_token c hopen hfirst
  have htwo := headerStep_token c hinner hsecond
  rw [Function.iterate_succ_apply, Function.iterate_one, hone, htwo, move_component, inName, inName]
  simp only [Parser.Header.mk.injEq, true_and, and_true]
  omega

theorem headerStep_components {n : Nat} (c : Composition (longName n)) {j : Nat} (hj : j < n) :
    (headerStep (.ofPages c))^[2 * j] (inName 0) = inName j := by
  induction j with
  | zero => rfl
  | succ j ih =>
      rw [show 2 * (j + 1) = 2 + 2 * j by omega, Function.iterate_add_apply, ih (Nat.lt_of_succ_lt hj)]
      exact headerStep_component c hj

/-- A name of 511 components in two pages. -/
def longPages : Composition (longName 511) where
  pages := [(longName 511).take 1024, (longName 511).drop 1024]
  stride := 1024
  valid := by decide +kernel
  content := by rw [List.flatten_cons, List.flatten_singleton, List.take_append_drop]
  small := by
    rw [length_longName]
    decide

set_option maxRecDepth 10000 in
/-- The five tokens up to the first component. -/
theorem headerStep_longPages : (headerStep (.ofPages longPages))^[5] Parser.seed = inName 0 := by
  have htokens : nextToken (longName 511) 0 = ⟨10, 0, 4, 0⟩ ∧ nextToken (longName 511) 4 = ⟨1, 4, 5, 0⟩ ∧
      nextToken (longName 511) 5 = ⟨6, 5, 8, 0⟩ ∧ nextToken (longName 511) 8 = ⟨63, 8, 9, 0⟩ ∧
      nextToken (longName 511) 9 = ⟨11, 9, 15, 0⟩ ∧ nextToken (longName 511) 15 = ⟨1, 15, 16, 0⟩ ∧
      nextToken (longName 511) 16 = ⟨4, 16, 17, 0⟩ := by
    decide +kernel
  obtain ⟨h0, h4, h5, h8, h9, h15, h16⟩ := htokens
  have hslash : ∀ o < 17, byteAt (longName 511) o ≠ 47 := by decide +kernel
  have hlen : (longName 511).length = 1038 := length_longName
  have hnext : ∀ {o : Nat} {t : Token}, o < 17 → nextToken (longName 511) o = t → t.stop ≤ 17 →
      nextTokenGlobal longPages.pages longPages.stride (longName 511).length o = t :=
    fun ho ht hstop => nextTokenGlobal_of_short longPages (by omega) (hslash _ ho) ht (by omega)
  have hmncs := token_of_plain longPages (hnext (by decide) h0 (by decide)) rfl
  have hversion := token_of_space longPages (hnext (by decide) h4 (by decide)) rfl
    (hnext (by decide) h5 (by decide)) rfl
  have hsemi := token_of_plain longPages (hnext (by decide) h8 (by decide)) rfl
  have hmodule := token_of_plain longPages (hnext (by decide) h9 (by decide)) rfl
  have hname := token_of_space longPages (hnext (by decide) h15 (by decide)) rfl
    (hnext (by decide) h16 (by decide)) rfl
  rw [Function.iterate_succ_apply, @headerStep_token _ longPages _ Parser.seed rfl hmncs,
    Function.iterate_succ_apply, headerStep_token longPages rfl hversion,
    Function.iterate_succ_apply, headerStep_token longPages rfl hsemi,
    Function.iterate_succ_apply, headerStep_token longPages rfl hmodule,
    Function.iterate_one, headerStep_token longPages rfl hname]
  rfl

/-- `profile_at_least_minor` on `u64`. -/
def profileAtLeastMinorChecked (src : Source) (start stop target : Nat) : Option Bool :=
  if stop ≤ start || stop > src.total then some false
  else
    let majorFirst := src.byteAt start
    if majorFirst > 48 then some true
    else do
      let width ← sub? stop start
      if majorFirst ≠ 48 || width < 3 then some false
      else do
        let second ← add? 64 start 1
        if src.byteAt second ≠ 46 then some false
        else do
          let first ← add? 64 start 2
          let minor ← intValueChecked src.pages src.stride src.total first stop
          some (!minor.overflow && minor.value ≥ target)

/-- The gate answers for every target without a trap, and what it accepts it accepts for every smaller target. -/
structure Gated (src : Source) (start stop : Nat) : Prop where
  total : ∀ target, profileAtLeastMinorChecked src start stop target = some (profileAtLeastMinor src start stop target)
  monotone : ∀ target smaller, smaller ≤ target → profileAtLeastMinor src start stop target = true →
    profileAtLeastMinor src start stop smaller = true

theorem profileAtLeastMinor_mono {src : Source} {start stop target smaller : Nat} (hle : smaller ≤ target)
    (h : profileAtLeastMinor src start stop target = true) : profileAtLeastMinor src start stop smaller = true := by
  unfold profileAtLeastMinor at h ⊢
  split at h
  · cases h
  · next hspan =>
      rw [if_neg hspan]
      dsimp only at h ⊢
      split at h
      · next hmajor => rw [if_pos hmajor]
      · next hmajor =>
          rw [if_neg hmajor]
          split at h
          · cases h
          · next hshort =>
              rw [if_neg hshort]
              split at h
              · cases h
              · next hdot =>
                  rw [if_neg hdot]
                  rw [Bool.and_eq_true, decide_eq_true_eq] at h ⊢
                  exact ⟨h.1, Nat.le_trans hle h.2⟩

/-- A dot among the first 1024 bytes behind the `0.` of a version. -/
def SecondDot (text : View) (t : Token) : Prop :=
  byteAt text t.start = 48 ∧ byteAt text (t.start + 1) = 46 ∧
    ∃ j, t.start + 2 ≤ j ∧ j < t.stop ∧ j < t.start + 2 + 1024 ∧ byteAt text j = 46

section Gate

variable {text : View} {t : Token}

theorem mem_minorBytes (h : NumberToken text t) {j : Nat} (hj : t.start + 2 ≤ j) (hlt : j < t.stop)
    (hlimit : j < t.start + 2 + 1024) : ∃ b ∈ ((tokenBytes text t).drop 2).take 1024, b.toNat = byteAt text j := by
  have hle := h.le
  have hlen := length_tokenBytes h
  have hget : j - (t.start + 2) < (((tokenBytes text t).drop 2).take 1024).length := by
    rw [List.length_take, List.length_drop]
    omega
  refine ⟨_, List.getElem_mem hget, ?_⟩
  rw [byteAt_of_lt (by omega), byte_eq_getElem (by omega)]
  simp only [tokenBytes, List.getElem_take, List.getElem_drop]
  congr 2
  omega

/-- The minor version is read without a trap exactly when no further dot stands among the bytes read. -/
theorem intValueChecked_minor (c : Composition text) (h : NumberToken text t) (hlong : t.start + 2 ≤ t.stop) :
    (∃ v, intValueChecked c.pages c.stride text.length (t.start + 2) t.stop = some v) ↔
      ¬ ∃ j, t.start + 2 ≤ j ∧ j < t.stop ∧ j < t.start + 2 + 1024 ∧ byteAt text j = 46 := by
  rw [intValueChecked_token c h hlong]
  have hbytes : ∀ b ∈ ((tokenBytes text t).drop 2).take 1024, digit b.toNat = true ∨ b.toNat = 46 := by
    intro b hb
    obtain ⟨j, hj, hlt, hbyte⟩ := mem_tokenBytes h (List.mem_of_mem_drop (List.mem_of_mem_take hb))
    rw [← hbyte]
    exact (h.bytes j hj hlt).imp_right And.right
  constructor
  · rintro ⟨v, hv⟩ ⟨j, hj, hlt, hlimit, hdot⟩
    obtain ⟨b, hb, hbyte⟩ := mem_minorBytes h hj hlt hlimit
    rw [foldlM_digitStep_low (by decide) (fun b hb => (hbytes b hb).imp_right fun h46 => by omega)
      ⟨b, hb, by omega⟩] at hv
    cases hv
  · intro hnone
    have hdigits : ∀ b ∈ ((tokenBytes text t).drop 2).take 1024, digit b.toNat = true := by
      intro b hb
      refine (hbytes b hb).resolve_right ?_
      intro hdot
      obtain ⟨k, hk, rfl⟩ := List.mem_iff_getElem.mp hb
      have hlen := length_tokenBytes h
      have hle := h.le
      rw [List.length_take, List.length_drop] at hk
      refine hnone ⟨t.start + 2 + k, Nat.le_add_right _ _, by omega, by omega, ?_⟩
      rw [byteAt_of_lt (by omega), byte_eq_getElem (by omega), ← hdot]
      simp only [tokenBytes, List.getElem_take, List.getElem_drop]
      congr 2
      omega
    have hseed : ({ value := 0, overflow := false } : IntVal).value < 2 ^ 64 := by decide
    obtain ⟨v, hv, -⟩ := foldlM_digitStep hseed rfl hdigits
    exact ⟨v, hv⟩

theorem gated_iff (c : Composition text) (h : NumberToken text t) :
    Gated (.ofPages c) t.start t.stop ↔ ¬ SecondDot text t := by
  have hsmall := c.small
  have hle := h.le
  have hlt := h.lt
  have hbyte : ∀ j, (Source.ofPages c).byteAt j = byteAt text j := fun j => c.byteAtGlobal_eq j
  have hspan : ¬ (decide (t.stop ≤ t.start) || decide (t.stop > (Source.ofPages c).total)) = true := by
    simp [Source.ofPages, hlt, hle]
  have hadd : ∀ k, k ≤ 2 → add? 64 t.start k = some (t.start + k) := fun k hk => add?_of_lt (by omega)
  have hchecked : ∀ target, profileAtLeastMinorChecked (.ofPages c) t.start t.stop target =
      if byteAt text t.start > 48 then some true
      else if byteAt text t.start ≠ 48 || t.stop - t.start < 3 then some false
      else if byteAt text (t.start + 1) ≠ 46 then some false
      else (intValueChecked c.pages c.stride text.length (t.start + 2) t.stop).bind fun minor =>
        some (!minor.overflow && minor.value ≥ target) := by
    intro target
    unfold profileAtLeastMinorChecked
    rw [if_neg hspan, sub?_of_le (Nat.le_of_lt hlt), hadd 1 (by decide), hadd 2 (by decide)]
    simp only [hbyte, Option.bind_eq_bind, Option.bind_some]
    rfl
  have hplain : ∀ target, profileAtLeastMinor (.ofPages c) t.start t.stop target =
      if byteAt text t.start > 48 then true
      else if byteAt text t.start ≠ 48 || t.stop - t.start < 3 then false
      else if byteAt text (t.start + 1) ≠ 46 then false
      else !(intValue c.pages c.stride text.length (t.start + 2) t.stop).overflow &&
        (intValue c.pages c.stride text.length (t.start + 2) t.stop).value ≥ target := by
    intro target
    unfold profileAtLeastMinor
    rw [if_neg hspan]
    simp only [hbyte]
    rfl
  have htotal : (∀ target, profileAtLeastMinorChecked (.ofPages c) t.start t.stop target =
      some (profileAtLeastMinor (.ofPages c) t.start t.stop target)) ↔ ¬ SecondDot text t := by
    simp only [hchecked, hplain]
    by_cases hmajor : byteAt text t.start > 48
    · simp only [if_pos hmajor, implies_true, true_iff]
      rintro ⟨hzero, -⟩
      omega
    · simp only [if_neg hmajor]
      by_cases hshort : (byteAt text t.start ≠ 48 || t.stop - t.start < 3) = true
      · simp only [if_pos hshort, implies_true, true_iff]
        rintro ⟨hzero, -, j, hj, hlt, -⟩
        rw [Bool.or_eq_true, decide_eq_true_eq, decide_eq_true_eq] at hshort
        omega
      · simp only [if_neg hshort]
        rw [Bool.or_eq_true, decide_eq_true_eq, decide_eq_true_eq, not_or, not_not] at hshort
        by_cases hdot : byteAt text (t.start + 1) ≠ 46
        · simp only [if_pos hdot, implies_true, true_iff]
          rintro ⟨-, h46, -⟩
          exact hdot h46
        · simp only [if_neg hdot]
          have hminor := intValueChecked_minor c h (by omega)
          constructor
          · rintro hall ⟨-, -, hsecond⟩
            have hsome := hall 0
            cases hv : intValueChecked c.pages c.stride text.length (t.start + 2) t.stop with
            | none =>
                rw [hv] at hsome
                cases hsome
            | some v => exact hminor.mp ⟨v, hv⟩ hsecond
          · intro hno target
            obtain ⟨v, hv⟩ := hminor.mpr fun hsecond => hno ⟨hshort.1, not_not.mp hdot, hsecond⟩
            rw [intValueChecked_some hv, hv, Option.bind_some]
  constructor
  · rintro ⟨hall, -⟩
    exact htotal.mp hall
  · intro hno
    exact ⟨htotal.mpr hno, fun _ _ hle => profileAtLeastMinor_mono hle⟩

end Gate

/-- **The version gate** is total and monotone on a version token exactly when the token does not begin with `0.` or has
    no second dot among the digits read. -/
theorem profileAtLeastMinor_gated_iff {text : View} (c : Composition text) {cursor : Nat} {t : Token}
    (ht : (Source.ofPages c).token cursor = t) (hkind : t.kind = 6) :
    Gated (.ofPages c) t.start t.stop ↔ ¬ SecondDot text t := by
  refine gated_iff c ?_
  rw [← ht] at hkind ⊢
  exact significantGlobal_number c (.inr hkind)

/-- `0.13` in pages of three bytes. -/
def minorThirteen : Composition [48, 46, 49, 51] where
  pages := [[48, 46, 49], [51]]
  stride := 3
  valid := by decide
  content := rfl
  small := by decide

set_option maxRecDepth 10000 in
theorem profileAtLeastMinor_gated_thirteen : Gated (.ofPages minorThirteen) 0 4 := by
  refine (@profileAtLeastMinor_gated_iff _ minorThirteen 0 ⟨6, 0, 4, 0⟩ (by decide +kernel) rfl).mpr ?_
  rintro ⟨-, -, j, hj, hlt, -, hdot⟩
  have hcases : j = 2 ∨ j = 3 := by
    dsimp only at hj hlt
    omega
  rcases hcases with rfl | rfl
  · revert hdot
    decide
  · revert hdot
    decide

/-- `mncs 0.1.2;module m;` on one page. -/
def dottedMinor : Composition [109, 110, 99, 115, 32, 48, 46, 49, 46, 50, 59, 109, 111, 100, 117, 108, 101, 32, 109,
    59] where
  pages := [[109, 110, 99, 115, 32, 48, 46, 49, 46, 50, 59, 109, 111, 100, 117, 108, 101, 32, 109, 59]]
  stride := 1024
  valid := by decide
  content := rfl
  small := by decide

set_option maxRecDepth 10000 in
/-- The header admits `0.1.2`, and the gate traps on its second dot. -/
theorem not_profileAtLeastMinor_gated :
    ¬ ∀ (text : View) (c : Composition text), (header (.ofPages c)).code = 0 → (header (.ofPages c)).state = 8 →
      Gated (.ofPages c) (header (.ofPages c)).versionStart (header (.ofPages c)).versionStop := by
  intro hall
  have hheader : header (.ofPages dottedMinor) = ⟨0, 0, 0, 5, 10, 18, 19, 20, 8⟩ := by decide +kernel
  have hgated := hall _ dottedMinor (by rw [hheader]) (by rw [hheader])
  rw [hheader] at hgated
  have htrap : profileAtLeastMinorChecked (.ofPages dottedMinor) 5 10 0 = none := by decide +kernel
  have hsome := hgated.total 0
  rw [htrap] at hsome
  cases hsome

end MncsCompiler.Decl
