import Mathlib.Algebra.GroupWithZero.Nat
import MncsCompiler.Decl.Profiles
import MncsCompiler.Decl.Types
import MncsCompiler.Lexer.Words

/-!
# `Decl.Digits` — the byte loops of sequence bounds

`is_up_to_bound`, `span_digits` and `up_to_digits` read bytes where the parser has read tokens, and `int_value` runs over
whatever span it is given. What each of them computes is said here without its loop, and the loops that calculate have
a checked reading beside them.
-/

namespace MncsCompiler.Decl

open BoundedLoop Checked

section Reads

variable {text : View} (c : Composition text)

@[simp] theorem ofPages_byteAt (j : Nat) : (Source.ofPages c).byteAt j = MncsCompiler.byteAt text j := c.byteAtGlobal_eq j

/-- **The keyword of a viewed bound**, read from one page or from the text. -/
theorem isUpToBound_iff (start stop : Nat) : isUpToBound (.ofPages c) start stop = true ↔
    6 ≤ stop - start ∧ byteAt text start = 117 ∧ byteAt text (start + 1) = 112 ∧ byteAt text (start + 2) = 95 ∧
      byteAt text (start + 3) = 116 ∧ byteAt text (start + 4) = 111 ∧ space (byteAt text (start + 5)) = true := by
  unfold isUpToBound
  dsimp only
  split
  · next hshort => exact ⟨fun h => absurd h Bool.false_ne_true, fun h => absurd hshort (Nat.not_lt.mpr h.1)⟩
  · next hlong =>
      have hlong := Nat.not_lt.mp hlong
      split
      · next hpage =>
          simp only [Bool.and_eq_true, decide_eq_true_eq] at hpage
          simp only [Source.ofPages] at hpage
          obtain ⟨⟨⟨⟨⟨⟨-, hlt⟩, -⟩, -⟩, htotal⟩, hstride⟩, -⟩ := hpage
          -- the page holds the four bytes
          have hread : ∀ k < 4, ∀ v : UInt8,
              (c.pages.getD (start / c.stride) []).getD (start % c.stride + k) 0 = v ↔ byteAt text (start + k) = v.toNat := by
            intro k hk v
            rw [byteAt_of_lt (by omega), ← c.page_span hlt (k := k) (by omega), byte, UInt8.toNat_inj]
          have h0 := hread 0 (by decide)
          simp only [Nat.add_zero] at h0
          simp only [Bool.and_eq_true, decide_eq_true_eq, ofPages_byteAt]
          simp only [Source.ofPages]
          rw [h0 117, hread 1 (by decide) 112, hread 2 (by decide) 95, hread 3 (by decide) 116]
          constructor
          · rintro ⟨⟨⟨⟨⟨hu, hp⟩, hline⟩, ht⟩, ho⟩, hspace⟩
            exact ⟨hlong, hu, hp, hline, ht, ho, hspace⟩
          · rintro ⟨-, hu, hp, hline, ht, ho, hspace⟩
            exact ⟨⟨⟨⟨⟨hu, hp⟩, hline⟩, ht⟩, ho⟩, hspace⟩
      · simp only [Source.spells, ofPages_byteAt, Bool.and_eq_true, decide_eq_true_eq, Nat.add_assoc, and_true,
          Nat.reduceAdd]
        constructor
        · rintro ⟨⟨hu, hp, hline, ht, ho⟩, hspace⟩
          exact ⟨hlong, hu, hp, hline, ht, ho, hspace⟩
        · rintro ⟨-, hu, hp, hline, ht, ho, hspace⟩
          exact ⟨⟨hu, hp, hline, ht, ho⟩, hspace⟩

end Reads

/-! ## `span_digits` -/

section Spans

variable (src : Source)

theorem spanDigitsStep_failed {st : DigitCheck} (h : st.ok = false) : spanDigitsStep src st = st := by
  simp [spanDigitsStep, h]

theorem spanDigits_loop (n pos stop : Nat) :
    let d := (spanDigitsStep src)^[n] { pos := pos, stop := stop, ok := true }
    (d.ok = true ∧ d.pos ≥ d.stop) ↔ stop ≤ pos + n ∧ ∀ j, pos ≤ j → j < stop → digit (src.byteAt j) = true := by
  induction n generalizing pos with
  | zero =>
      refine ⟨fun h => ⟨h.2, fun j hj hlt => ?_⟩, fun h => ⟨rfl, h.1⟩⟩
      exact absurd h.2 (Nat.not_le.mpr (Nat.lt_of_le_of_lt hj hlt))
  | succ n ih =>
      rw [Function.iterate_succ_apply]
      by_cases hend : stop ≤ pos
      · have hfixed : spanDigitsStep src { pos := pos, stop := stop, ok := true } =
            { pos := pos, stop := stop, ok := true } := by simp [spanDigitsStep, hend]
        rw [hfixed, Function.iterate_fixed hfixed]
        refine ⟨fun _ => ⟨Nat.le_add_right_of_le hend, fun j hj hlt => ?_⟩, fun _ => ⟨rfl, hend⟩⟩
        omega
      · have hopen : (!true || decide (pos ≥ stop)) = false := by simp; omega
        by_cases hdigit : digit (src.byteAt pos) = true
        · have hstep : spanDigitsStep src { pos := pos, stop := stop, ok := true } =
              { pos := pos + 1, stop := stop, ok := true } := by
            rw [digit, Bool.and_eq_true, decide_eq_true_eq, decide_eq_true_eq] at hdigit
            unfold spanDigitsStep
            rw [hopen, if_neg Bool.false_ne_true]
            exact if_neg (by simp; omega)
          rw [hstep]
          refine (ih (pos + 1)).trans ⟨fun h => ⟨by omega, fun j hj hlt => ?_⟩, fun h => ⟨by omega, fun j hj hlt => ?_⟩⟩
          · rcases Nat.eq_or_lt_of_le hj with rfl | hgt
            · exact hdigit
            · exact h.2 j hgt hlt
          · exact h.2 j (Nat.le_of_succ_le hj) hlt
        · have hstep : spanDigitsStep src { pos := pos, stop := stop, ok := true } =
              { pos := pos, stop := stop, ok := false } := by
            rw [digit, Bool.and_eq_true, decide_eq_true_eq, decide_eq_true_eq] at hdigit
            unfold spanDigitsStep
            rw [hopen, if_neg Bool.false_ne_true]
            exact if_pos (by simp; omega)
          rw [hstep, Function.iterate_fixed (spanDigitsStep_failed src rfl)]
          refine ⟨fun h => (by cases h.1), fun h => absurd (h.2 pos (Nat.le_refl pos) (Nat.not_le.mp hend)) hdigit⟩

/-- **Digits of a span**, at most 1024 of them. -/
theorem spanDigits_iff (start stop : Nat) : spanDigits src start stop = true ↔
    stop ≤ start + 1024 ∧ ∀ j, start ≤ j → j < stop → digit (src.byteAt j) = true := by
  refine Iff.trans ?_ (spanDigits_loop src 1024 start stop)
  rw [spanDigits, Bool.and_eq_true, decide_eq_true_eq]

/-! ## `up_to_digits` -/

/-- Where the skipping of spaces ends. -/
theorem upToSpace_loop (n pos stop : Nat) (hle : pos ≤ stop) :
    ∃ first, (upToSpaceStep src)^[n] { cursor := pos, stop := stop, ok := true } =
        { cursor := first, stop := stop, ok := true } ∧
      pos ≤ first ∧ first ≤ stop ∧ first ≤ pos + n ∧ (∀ j, pos ≤ j → j < first → space (src.byteAt j) = true) ∧
      (first = pos + n ∨ first = stop ∨ space (src.byteAt first) = false) := by
  induction n generalizing pos with
  | zero => exact ⟨pos, rfl, Nat.le_refl _, hle, Nat.le_refl _, fun j hj hlt => by omega, .inl rfl⟩
  | succ n ih =>
      rw [Function.iterate_succ_apply]
      rcases Nat.eq_or_lt_of_le hle with rfl | hlt
      · have hfixed : upToSpaceStep src { cursor := pos, stop := pos, ok := true } =
            { cursor := pos, stop := pos, ok := true } := by simp [upToSpaceStep]
        rw [hfixed, Function.iterate_fixed hfixed]
        exact ⟨pos, rfl, Nat.le_refl _, Nat.le_refl _, by omega, fun j hj hlt => by omega, .inr (.inl rfl)⟩
      · have hopen : (!true || decide (pos ≥ stop)) = false := by simp; omega
        cases hspace : space (src.byteAt pos) with
        | true =>
            have hstep : upToSpaceStep src { cursor := pos, stop := stop, ok := true } =
                { cursor := pos + 1, stop := stop, ok := true } := by
              unfold upToSpaceStep
              rw [hopen, if_neg Bool.false_ne_true, if_pos hspace]
            rw [hstep]
            obtain ⟨first, hrun, hge, hstop, hn, hspaces, hend⟩ := ih (pos + 1) hlt
            refine ⟨first, hrun, by omega, hstop, by omega, fun j hj hjlt => ?_, hend.imp_left (by omega)⟩
            rcases Nat.eq_or_lt_of_le hj with rfl | hgt
            · exact hspace
            · exact hspaces j hgt hjlt
        | false =>
            have hfixed : upToSpaceStep src { cursor := pos, stop := stop, ok := true } =
                { cursor := pos, stop := stop, ok := true } := by
              unfold upToSpaceStep
              rw [hopen, if_neg Bool.false_ne_true, if_neg (by simp [hspace])]
            rw [hfixed, Function.iterate_fixed hfixed]
            exact ⟨pos, rfl, Nat.le_refl _, hle, by omega, fun j hj hjlt => by omega, .inr (.inr hspace)⟩

/-! ## Checked loops -/

/-- `span_digits` on `u64`. -/
def spanDigitsChecked (src : Source) (start stop : Nat) : Option Bool :=
  let step (st : DigitCheck) : Option DigitCheck :=
    if !st.ok || st.pos ≥ st.stop then some st
    else
      let byte := src.byteAt st.pos
      if byte < 48 || byte > 57 then some { st with ok := false }
      else (add? 64 st.pos 1).map fun pos => { st with pos := pos, ok := true }
  ((fun o : Option DigitCheck => o.bind step)^[1024] (some { pos := start, stop := stop, ok := true })).map fun d =>
    d.ok && d.pos ≥ d.stop

/-- `up_to_digits` on `u64`. -/
def upToDigitsChecked (src : Source) (start stop : Nat) : Option UpToDigits := do
  let step (st : UpToScan) : Option UpToScan :=
    if !st.ok || st.cursor ≥ st.stop then some st
    else if space (src.byteAt st.cursor) then
      (add? 64 st.cursor 1).map fun cursor => { st with cursor := cursor, ok := true }
    else some { st with ok := true }
  let least ← add? 64 start 6
  if stop < least then some { ok := false, start := start, stop := stop }
  else
    let first ← add? 64 start 5
    let st ← (fun o : Option UpToScan => o.bind step)^[1024] (some { cursor := first, stop := stop, ok := true })
    if !st.ok || st.cursor ≥ st.stop then some { ok := false, start := start, stop := stop }
    else
      let digits ← spanDigitsChecked src st.cursor st.stop
      if !digits then some { ok := false, start := start, stop := stop }
      else some { ok := true, start := st.cursor, stop := st.stop }

variable {src}

theorem spanDigitsChecked_eq {start stop : Nat} (h : stop < 2 ^ 63) :
    spanDigitsChecked src start stop = some (spanDigits src start stop) := by
  unfold spanDigitsChecked spanDigits
  dsimp only
  rw [iterate_bind (fun st : DigitCheck => st.stop = stop) (spanDigitsStep src) ?_ 1024 rfl]
  · rfl
  rintro ⟨pos, stop', ok⟩ hstop
  dsimp only at hstop
  subst hstop
  unfold spanDigitsStep
  dsimp only
  split
  · exact ⟨rfl, rfl⟩
  · next hopen =>
      have hlt : pos < stop' := by
        simp only [Bool.or_eq_true, Bool.not_eq_true', decide_eq_true_eq, not_or] at hopen
        omega
      split
      · exact ⟨rfl, rfl⟩
      · rw [add?_of_lt (by omega), Option.map_some]
        exact ⟨rfl, rfl⟩

theorem upToDigitsChecked_eq {start stop : Nat} (hstart : start ≤ stop) (h : stop < 2 ^ 63) :
    upToDigitsChecked src start stop = some (upToDigits src start stop) := by
  unfold upToDigitsChecked upToDigits
  dsimp only
  rw [add?_of_lt (by omega), Option.bind_eq_bind, Option.bind_some]
  split
  · rfl
  · rw [add?_of_lt (by omega), Option.bind_some,
      iterate_bind (fun st : UpToScan => st.stop = stop) (upToSpaceStep src) ?_ 1024 rfl,
      Option.bind_eq_bind, Option.bind_some]
    · obtain ⟨first, hrun, -⟩ := upToSpace_loop src 1024 (start + 5) stop (by omega)
      rw [hrun]
      dsimp only
      split
      · rfl
      · rw [spanDigitsChecked_eq h, Option.bind_eq_bind, Option.bind_some]
        split <;> rfl
    · rintro ⟨cursor, stop', ok⟩ hstop
      dsimp only at hstop
      subst hstop
      unfold upToSpaceStep
      dsimp only
      split
      · exact ⟨rfl, rfl⟩
      · next hopen =>
          have hlt : cursor < stop' := by
            simp only [Bool.or_eq_true, Bool.not_eq_true', decide_eq_true_eq, not_or] at hopen
            omega
          split
          · rw [add?_of_lt (by omega), Option.map_some]
            exact ⟨rfl, rfl⟩
          · exact ⟨rfl, rfl⟩

end Spans

/-! ## The accumulator on bytes that need not be digits -/

/-- The accumulator takes every digit below this value, and no byte above it. -/
def tenth : Nat := 1844674407370955161

/-- The number that bytes denote behind a value read before them. -/
def decimalFrom (v : Nat) (bytes : View) : Nat := bytes.foldl (fun v b => v * 10 + (b.toNat - 48)) v

/-- No byte takes the accumulator past `u64`. -/
def StaysBelowFrom (v : Nat) (bytes : View) : Prop :=
  ∀ k < bytes.length, decimalFrom v (bytes.take k) < tenth → decimalFrom v (bytes.take (k + 1)) < 2 ^ 64

/-- The accumulator comes from a value to the greatest `u64`, at once or over bytes that it refuses at `tenth`. -/
def SpellsMaxFrom (v : Nat) (bytes : View) : Prop :=
  ∃ k ≤ bytes.length, decimalFrom v (bytes.take k) = 18446744073709551615 ∨
    (decimalFrom v (bytes.take k) = tenth ∧ (bytes.drop k).find? (fun b => b.toNat < 54) = some 53)

section Accumulator

variable {v : Nat} {overflowed : Bool} {b : UInt8} {bytes : View}

theorem digitStep_above (h : tenth < v) (hb : 48 ≤ b.toNat) :
    digitStep { value := v, overflow := overflowed } b = some { value := v, overflow := true } := by
  unfold digitStep intStepChecked
  rw [if_neg (by decide), sub?_of_le hb, Option.bind_eq_bind, Option.bind_some]
  exact if_pos h

theorem digitStep_refused (hb : 53 < b.toNat) :
    digitStep { value := tenth, overflow := overflowed } b = some { value := tenth, overflow := true } := by
  unfold digitStep intStepChecked
  rw [if_neg (by decide), sub?_of_le (by omega), Option.bind_eq_bind, Option.bind_some, if_neg (by simp [tenth])]
  exact if_pos (by simp [tenth]; omega)

theorem digitStep_taken (h : v ≤ tenth) (hb : 48 ≤ b.toNat) (hedge : v = tenth → b.toNat ≤ 53)
    (hsum : v * 10 + (b.toNat - 48) < 2 ^ 64) :
    digitStep { value := v, overflow := overflowed } b = some { value := v * 10 + (b.toNat - 48), overflow := overflowed } := by
  unfold tenth at h hedge
  unfold digitStep intStepChecked
  rw [if_neg (by decide), sub?_of_le hb, Option.bind_eq_bind, Option.bind_some, if_neg (Nat.not_lt.mpr h),
    if_neg (by simp; omega), mul?_of_lt (Nat.lt_of_le_of_lt (Nat.le_add_right _ _) hsum), Option.bind_some,
    add?_of_lt hsum, Option.bind_some]

theorem digitStep_trap (h : v < tenth) (hb : 48 ≤ b.toNat) (hsum : 2 ^ 64 ≤ v * 10 + (b.toNat - 48)) :
    digitStep { value := v, overflow := overflowed } b = none := by
  unfold tenth at h
  unfold digitStep intStepChecked
  rw [if_neg (by decide), sub?_of_le hb, Option.bind_eq_bind, Option.bind_some, if_neg (Nat.not_lt.mpr (Nat.le_of_lt h)),
    if_neg (by simp; omega), mul?_of_lt (show v * 10 < 2 ^ 64 by omega), Option.bind_some, add?,
    if_neg (Nat.not_lt.mpr hsum)]
  rfl

theorem foldlM_digitStep_above (h : tenth < v) (hbytes : ∀ b ∈ bytes, 48 ≤ b.toNat) :
    ∃ w, bytes.foldlM digitStep { value := v, overflow := overflowed } = some w ∧ w.value = v := by
  induction bytes generalizing overflowed with
  | nil => exact ⟨_, rfl, rfl⟩
  | cons b bytes ih =>
      rw [List.foldlM_cons, digitStep_above h (hbytes b List.mem_cons_self)]
      exact ih fun b hb => hbytes b (List.mem_cons_of_mem _ hb)

theorem foldlM_digitStep_tenth (hbytes : ∀ b ∈ bytes, 48 ≤ b.toNat) :
    ∃ w, bytes.foldlM digitStep { value := tenth, overflow := overflowed } = some w ∧
      (w.value = 18446744073709551615 ↔ bytes.find? (fun b => b.toNat < 54) = some 53) := by
  induction bytes generalizing overflowed with
  | nil => exact ⟨_, rfl, by simp [tenth]⟩
  | cons b bytes ih =>
      have hb := hbytes b List.mem_cons_self
      have hrest : ∀ b ∈ bytes, 48 ≤ b.toNat := fun b hb => hbytes b (List.mem_cons_of_mem _ hb)
      rw [List.foldlM_cons, List.find?_cons]
      by_cases hlow : b.toNat < 54
      · have hsum : tenth * 10 + (b.toNat - 48) < 2 ^ 64 := by
          unfold tenth
          omega
        rw [digitStep_taken (Nat.le_refl _) hb (fun _ => by omega) hsum, decide_eq_true hlow]
        obtain ⟨w, hw, hvalue⟩ := @foldlM_digitStep_above _ overflowed bytes
          (show tenth < tenth * 10 + (b.toNat - 48) by unfold tenth; omega) hrest
        refine ⟨w, hw, ?_⟩
        rw [hvalue, Option.some.injEq, ← UInt8.toNat_inj]
        unfold tenth
        show _ ↔ b.toNat = 53
        omega
      · rw [digitStep_refused (by omega), decide_eq_false hlow]
        exact ih hrest

theorem decimalFrom_nil (v : Nat) : decimalFrom v [] = v := rfl

theorem decimalFrom_cons (v : Nat) (b : UInt8) (bytes : View) :
    decimalFrom v (b :: bytes) = decimalFrom (v * 10 + (b.toNat - 48)) bytes := by
  rw [decimalFrom, List.foldl_cons, decimalFrom]

theorem decimalFrom_ge (v : Nat) (bytes : View) : v ≤ decimalFrom v bytes := foldl_decimal_ge v bytes

theorem decimalFrom_grows (v : Nat) (bytes : View) : decimalFrom v bytes = v ∨ v * 10 ≤ decimalFrom v bytes := by
  cases bytes with
  | nil => exact .inl rfl
  | cons b bytes =>
      have hge := decimalFrom_ge (v * 10 + (b.toNat - 48)) bytes
      rw [decimalFrom_cons]
      omega

/-- **The accumulator traps** exactly where it steps over `u64` from below `tenth`. -/
theorem foldlM_digitStep_total (h : v < 2 ^ 64) (hbytes : ∀ b ∈ bytes, 48 ≤ b.toNat) :
    (∃ w, bytes.foldlM digitStep { value := v, overflow := overflowed } = some w) ↔
      StaysBelowFrom v bytes := by
  induction bytes generalizing v with
  | nil => exact ⟨fun _ k hk => absurd hk (Nat.not_lt_zero k), fun _ => ⟨_, rfl⟩⟩
  | cons b bytes ih =>
      have hb := hbytes b List.mem_cons_self
      have hrest : ∀ b ∈ bytes, 48 ≤ b.toNat := fun b hb => hbytes b (List.mem_cons_of_mem _ hb)
      by_cases hlow : v < tenth
      · by_cases hsum : v * 10 + (b.toNat - 48) < 2 ^ 64
        · rw [List.foldlM_cons, digitStep_taken (Nat.le_of_lt hlow) hb (fun heq => by omega) hsum, Option.bind_eq_bind,
            Option.bind_some]
          refine (ih hsum hrest).trans ⟨fun hall k hk hbelow => ?_, fun hall k hk => ?_⟩
          · cases k with
            | zero =>
                rw [List.take_succ_cons, List.take_zero, decimalFrom_cons, decimalFrom_nil]
                exact hsum
            | succ k =>
                rw [List.take_succ_cons, decimalFrom_cons] at hbelow ⊢
                exact hall k (Nat.lt_of_succ_lt_succ hk) hbelow
          · have hnext := hall (k + 1) (Nat.succ_lt_succ hk)
            rwa [List.take_succ_cons, decimalFrom_cons, List.take_succ_cons, decimalFrom_cons] at hnext
        · rw [List.foldlM_cons, digitStep_trap hlow hb (Nat.not_lt.mp hsum), Option.bind_eq_bind, Option.bind_none]
          refine ⟨fun ⟨w, hw⟩ => (by cases hw), fun hall => ?_⟩
          have hfirst := hall 0 (Nat.succ_pos _) (by rwa [List.take_zero, decimalFrom_nil])
          rw [List.take_succ_cons, List.take_zero, decimalFrom_cons, decimalFrom_nil] at hfirst
          exact absurd hfirst hsum
      · have hge : tenth ≤ v := Nat.not_lt.mp hlow
        have hvacuous : ∀ k, ¬ decimalFrom v ((b :: bytes).take k) < tenth := fun k =>
          Nat.not_lt.mpr (Nat.le_trans hge (decimalFrom_ge v _))
        refine ⟨fun _ k _ hbelow => absurd hbelow (hvacuous k), fun _ => ?_⟩
        rcases Nat.eq_or_lt_of_le hge with rfl | hgt
        · obtain ⟨w, hw, -⟩ := @foldlM_digitStep_tenth overflowed _ hbytes
          exact ⟨w, hw⟩
        · obtain ⟨w, hw, -⟩ := @foldlM_digitStep_above _ overflowed _ hgt hbytes
          exact ⟨w, hw⟩

theorem spellsMaxFrom_above (h : tenth < v) : SpellsMaxFrom v bytes ↔ v = 18446744073709551615 := by
  unfold tenth at h
  refine ⟨fun ⟨k, hk, hmax⟩ => ?_, fun hmax => ⟨0, Nat.zero_le _, .inl hmax⟩⟩
  unfold tenth at hmax
  have hgrows := decimalFrom_grows v (bytes.take k)
  omega

theorem spellsMaxFrom_tenth (hbytes : ∀ b ∈ bytes, 48 ≤ b.toNat) :
    SpellsMaxFrom tenth bytes ↔ bytes.find? (fun b => b.toNat < 54) = some 53 := by
  refine ⟨fun ⟨k, hk, hmax⟩ => ?_, fun hfive => ⟨0, Nat.zero_le _, .inr ⟨rfl, hfive⟩⟩⟩
  have hnone : bytes.take k = [] → bytes.find? (fun b => b.toNat < 54) = some 53 := by
    intro hnil
    rw [hnil, decimalFrom_nil] at hmax
    rcases hmax with hmax | ⟨-, hfive⟩
    · cases hmax
    · rcases List.take_eq_nil_iff.mp hnil with rfl | rfl
      · exact hfive
      · rwa [List.drop_nil] at hfive
  cases bytes with
  | nil => exact hnone List.take_nil
  | cons b bytes =>
      cases k with
      | zero => exact hnone rfl
      | succ k =>
          -- only the digit 5 leads from `tenth` to the greatest value
          have hb := hbytes b List.mem_cons_self
          rw [List.take_succ_cons, decimalFrom_cons] at hmax
          have hgrows := decimalFrom_grows (tenth * 10 + (b.toNat - 48)) (bytes.take k)
          unfold tenth at hgrows hmax
          have hfive : b = 53 := by
            rw [← UInt8.toNat_inj]
            show b.toNat = 53
            omega
          rw [hfive]
          rfl

/-- **The accumulator ends at the greatest `u64`** exactly when the bytes spell it so. -/
theorem foldlM_digitStep_max (h : v < 2 ^ 64) (hbytes : ∀ b ∈ bytes, 48 ≤ b.toNat) :
    (∃ w, bytes.foldlM digitStep { value := v, overflow := overflowed } = some w ∧ w.value = 18446744073709551615) ↔
      SpellsMaxFrom v bytes := by
  induction bytes generalizing v with
  | nil =>
      refine ⟨fun ⟨w, hw, hmax⟩ => ⟨0, Nat.le_refl 0, .inl ?_⟩, fun ⟨k, hk, hmax⟩ => ⟨_, rfl, ?_⟩⟩
      · rw [List.take_nil, decimalFrom_nil, ← hmax]
        exact congrArg IntVal.value (Option.some.inj hw)
      · rw [List.take_nil, decimalFrom_nil, List.drop_nil] at hmax
        rcases hmax with hmax | ⟨-, hfive⟩
        · exact hmax
        · cases hfive
  | cons b bytes ih =>
      rcases Nat.lt_trichotomy v tenth with hlow | rfl | hgt
      · have hb := hbytes b List.mem_cons_self
        have hshift : SpellsMaxFrom v (b :: bytes) ↔ SpellsMaxFrom (v * 10 + (b.toNat - 48)) bytes := by
          refine ⟨fun ⟨k, hk, hmax⟩ => ?_, fun ⟨k, hk, hmax⟩ => ⟨k + 1, Nat.succ_le_succ hk, ?_⟩⟩
          · cases k with
            | zero =>
                rw [List.take_zero, decimalFrom_nil] at hmax
                unfold tenth at hlow hmax
                omega
            | succ k =>
                rw [List.take_succ_cons, decimalFrom_cons, List.drop_succ_cons] at hmax
                exact ⟨k, Nat.le_of_succ_le_succ hk, hmax⟩
          · rwa [List.take_succ_cons, decimalFrom_cons, List.drop_succ_cons]
        rw [hshift, List.foldlM_cons]
        by_cases hsum : v * 10 + (b.toNat - 48) < 2 ^ 64
        · rw [digitStep_taken (Nat.le_of_lt hlow) hb (fun heq => by omega) hsum, Option.bind_eq_bind, Option.bind_some]
          exact ih hsum fun b hb => hbytes b (List.mem_cons_of_mem _ hb)
        · rw [digitStep_trap hlow hb (Nat.not_lt.mp hsum), Option.bind_eq_bind, Option.bind_none,
            spellsMaxFrom_above (by unfold tenth; omega)]
          refine ⟨fun ⟨w, hw, _⟩ => (by cases hw), fun hmax => ?_⟩
          omega
      · obtain ⟨w, hw, hmax⟩ := @foldlM_digitStep_tenth overflowed _ hbytes
        rw [spellsMaxFrom_tenth hbytes, ← hmax, hw]
        refine ⟨fun ⟨w', hw', hvalue⟩ => ?_, fun hvalue => ⟨w, rfl, hvalue⟩⟩
        rw [Option.some.inj hw']
        exact hvalue
      · obtain ⟨w, hw, hvalue⟩ := @foldlM_digitStep_above _ overflowed _ hgt hbytes
        rw [spellsMaxFrom_above hgt, hw]
        refine ⟨fun ⟨w', hw', hmax⟩ => ?_, fun hmax => ⟨w, rfl, hvalue.trans hmax⟩⟩
        rw [← hvalue, Option.some.inj hw']
        exact hmax

end Accumulator

/-- What `int_value` reads of a span: its first 1024 bytes. -/
theorem intValueChecked_span {text : View} (c : Composition text) {start stop : Nat} (hstart : start ≤ stop)
    (hstop : stop ≤ text.length) : intValueChecked c.pages c.stride text.length start stop =
      (((text.drop start).take (stop - start)).take 1024).foldlM digitStep { value := 0, overflow := false } := by
  have hsmall := c.small
  have hread : ∀ i, i < text.length → byteAtGlobal c.pages c.stride text.length i = byte text i := by
    intro i hi
    rw [c.byteAtGlobal_eq, byteAt_of_lt hi]
  have hloop := intPassChecked_foldlM _ start stop hread hstop (by omega) (i := 0) (n := 1024) (by omega) hstart
    { value := 0, overflow := false }
  refine hloop.trans ?_
  rw [List.take_take, Nat.add_zero]

end MncsCompiler.Decl
