import Mathlib.Algebra.Group.Int.Defs
import Mathlib.Algebra.GroupWithZero.Nat
import MncsCompiler.Decl.Check

/-!
# `Decl.Patterns` — the pattern rule of scalar matches

A scalar match takes one final default, and patterns before it that are in the range of the subject type and pairwise
different. The checks compare patterns through 64-bit payloads: a negative literal stands for the two's complement of
its magnitude. In the range of a type payloads and values say the same.

The rule is checked twice, on the arms of the parser and on the arms of the proof; the second machine is the image of
the first.
-/

namespace MncsCompiler.Decl

open BoundedLoop

/-- What an arm says of its pattern: the sign is kept apart, and `overflow` marks a magnitude of 2⁶⁴ or more. -/
structure ScalarPattern where
  isDefault : Bool
  negative : Bool
  value : Nat
  overflow : Bool

def ScalarMatchArm.spelled (arm : ScalarMatchArm) : ScalarPattern :=
  { isDefault := arm.isDefault, negative := arm.negative, value := arm.value, overflow := arm.overflow }

def TypedScalarMatchArm.spelled (arm : TypedScalarMatchArm) : ScalarPattern :=
  { isDefault := arm.isDefault, negative := arm.negative, value := arm.value, overflow := arm.overflow }

/-! ## The rule -/

namespace ScalarPattern

/-- The number that a pattern denotes, when its magnitude is known. -/
def denotes (p : ScalarPattern) : Option Int :=
  if p.overflow then none else some (if p.negative then -(p.value : Int) else p.value)

/-- The bits that the checks compare. -/
def payload (p : ScalarPattern) : Nat := if p.negative then negativePayload p.value else p.value

end ScalarPattern

/-- The values of the 64-bit integer types. -/
def Representable (signed : Bool) (v : Int) : Prop :=
  if signed then -2 ^ 63 ≤ v ∧ v < 2 ^ 63 else 0 ≤ v ∧ v < 2 ^ 64

/-- **The rule**: the last arm and no other is the default, and the patterns before it denote different values of the
    subject type. -/
structure Ruled (signed : Bool) (numbers : List ScalarPattern) (last : ScalarPattern) : Prop where
  default : last.isDefault = true
  plain : ∀ p ∈ numbers, p.isDefault = false
  representable : ∀ p ∈ numbers, ∃ v, p.denotes = some v ∧ Representable signed v
  distinct : numbers.Pairwise fun p q => p.denotes ≠ q.denotes

/-! ## Payloads -/

section Payloads

variable {signed : Bool} {p q : ScalarPattern}

theorem scalarPatternValid_iff (hvalue : p.value < 2 ^ 64) :
    scalarPatternValid (.tInt 64 signed) p.negative p.value p.overflow = true ↔
      (∃ v, p.denotes = some v ∧ Representable signed v) ∧ (p.negative = true → signed = true) := by
  obtain ⟨isDefault, negative, value, overflow⟩ := p
  simp only at hvalue
  simp only [scalarPatternValid, scalarPatternValidInt, ScalarPattern.denotes, Representable]
  cases overflow with
  | true => simp
  | false =>
      cases negative with
      | true =>
          cases signed with
          | false => simp
          | true =>
              simp
              omega
      | false =>
          cases signed with
          | false =>
              simp
              omega
          | true =>
              simp
              omega

/-- A payload is the denoted value modulo 2⁶⁴. -/
theorem payload_eq {v : Int} (hv : p.denotes = some v) (hrange : Representable signed v)
    (hsign : p.negative = true → signed = true) : (p.payload : Int) = v % 2 ^ 64 := by
  obtain ⟨isDefault, negative, value, overflow⟩ := p
  simp only [ScalarPattern.denotes, ScalarPattern.payload, Representable] at hv hrange hsign ⊢
  cases overflow with
  | true => cases hv
  | false =>
      rw [if_neg Bool.false_ne_true, Option.some.injEq] at hv
      cases negative with
      | true =>
          rw [if_pos rfl] at hv ⊢
          rw [hsign rfl, if_pos rfl] at hrange
          unfold negativePayload
          split
          · omega
          · omega
      | false =>
          rw [if_neg Bool.false_ne_true] at hv ⊢
          cases signed with
          | true =>
              rw [if_pos rfl] at hrange
              omega
          | false =>
              rw [if_neg Bool.false_ne_true] at hrange
              omega

/-- Values of one type that agree modulo 2⁶⁴ are equal. -/
theorem Representable.eq_of_emod {v w : Int} (hv : Representable signed v) (hw : Representable signed w)
    (h : v % 2 ^ 64 = w % 2 ^ 64) : v = w := by
  unfold Representable at hv hw
  cases signed with
  | true =>
      rw [if_pos rfl] at hv hw
      omega
  | false =>
      rw [if_neg Bool.false_ne_true] at hv hw
      omega

/-- Valid patterns have the same payload exactly when they denote the same value. -/
theorem payload_eq_iff (hp : p.value < 2 ^ 64) (hq : q.value < 2 ^ 64)
    (hpv : scalarPatternValid (.tInt 64 signed) p.negative p.value p.overflow = true)
    (hqv : scalarPatternValid (.tInt 64 signed) q.negative q.value q.overflow = true) :
    p.payload = q.payload ↔ p.denotes = q.denotes := by
  obtain ⟨⟨v, hv, hvr⟩, hvs⟩ := (scalarPatternValid_iff hp).mp hpv
  obtain ⟨⟨w, hw, hwr⟩, hws⟩ := (scalarPatternValid_iff hq).mp hqv
  have hpay := payload_eq hv hvr hvs
  have hqay := payload_eq hw hwr hws
  rw [hv, hw, Option.some.injEq]
  constructor
  · intro heq
    rw [heq] at hpay
    exact hvr.eq_of_emod hwr (hpay.symm.trans hqay)
  · intro heq
    rw [heq] at hpay
    exact Int.ofNat_inj.mp (hpay.trans hqay.symm)

end Payloads

/-! ## The machine -/

theorem patternSeen_eq {values : List Nat} {value : Nat} (h : values.length ≤ 1024) :
    patternSeen values value = decide (value ∈ values) := by
  unfold patternSeen
  dsimp only
  rw [iterate_search PatternFind.rest PatternFind.found (fun st v => decide (v = st.value)) ?_ ?_ rfl ?_ h]
  · rw [List.any_eq, decide_eq_decide]
    simp
  · intro st hst
    rw [patternFindStep, if_pos hst]
  · intro st v t hst hrest
    simp [patternFindStep, hst, hrest]
  · intro st hrest
    simp [patternFindStep, hrest]

/-- The answer of the check behind the payloads `seen`. -/
def accepts (signed : Bool) (seen : List Nat) : List ScalarPattern → Bool
  | [] => false
  | p :: rest =>
    if p.isDefault then rest.isEmpty
    else
      scalarPatternValid (.tInt 64 signed) p.negative p.value p.overflow && !decide (p.payload ∈ seen) &&
        accepts signed (p.payload :: seen) rest

theorem scalarMatchPatternStep_of_nil {st : PatternCheck} (h : st.rest = []) : scalarMatchPatternStep st = st := by
  unfold scalarMatchPatternStep
  rw [h]
  split
  · rfl
  · rfl

theorem scalarMatchPatternStep_default {arm : ScalarMatchArm} {rest : List ScalarMatchArm} {seen : List Nat}
    {ty : SemType} (hdefault : arm.isDefault = true) :
    scalarMatchPatternStep ⟨arm :: rest, seen, ty, false, true⟩ = ⟨[], seen, ty, rest.isEmpty, rest.isEmpty⟩ := by
  show scalarMatchPatternCheckArm ⟨arm :: rest, seen, ty, false, true⟩ arm rest = _
  rw [scalarMatchPatternCheckArm, if_pos hdefault]
  cases rest with
  | nil => rfl
  | cons b t => rfl

theorem scalarMatchPatternStep_number {arm : ScalarMatchArm} {rest : List ScalarMatchArm} {seen : List Nat}
    {ty : SemType} (hdefault : arm.isDefault = false) :
    scalarMatchPatternStep ⟨arm :: rest, seen, ty, false, true⟩ =
      if scalarPatternValid ty arm.negative arm.value arm.overflow && !patternSeen seen arm.spelled.payload then
        ⟨rest, arm.spelled.payload :: seen, ty, false, true⟩
      else ⟨[], seen, ty, false, false⟩ := by
  show scalarMatchPatternCheckArm ⟨arm :: rest, seen, ty, false, true⟩ arm rest = _
  unfold scalarMatchPatternCheckArm
  have hpayload : (if arm.negative = true then negativePayload arm.value else arm.value) = arm.spelled.payload := rfl
  rw [hdefault, if_neg Bool.false_ne_true]
  dsimp only
  rw [hpayload]
  cases scalarPatternValid ty arm.negative arm.value arm.overflow with
  | false => rfl
  | true =>
      cases patternSeen seen arm.spelled.payload with
      | false => rfl
      | true => rfl

/-- **The run**: with a pass for every arm the machine answers what `accepts` says. -/
theorem scalarMatchPatternStep_run {signed : Bool} {arms : List ScalarMatchArm} {seen : List Nat} {n : Nat}
    (hn : arms.length ≤ n) (hseen : seen.length + arms.length ≤ 1024) :
    ((scalarMatchPatternStep^[n] ⟨arms, seen, .tInt 64 signed, false, true⟩).ok &&
        (scalarMatchPatternStep^[n] ⟨arms, seen, .tInt 64 signed, false, true⟩).defaultSeen) =
      accepts signed seen (arms.map ScalarMatchArm.spelled) := by
  induction arms generalizing seen n with
  | nil => rw [Function.iterate_fixed (scalarMatchPatternStep_of_nil rfl), List.map_nil, accepts, Bool.and_false]
  | cons arm rest ih =>
      rw [List.length_cons] at hn hseen
      obtain ⟨m, rfl⟩ : ∃ m, n = m + 1 := ⟨n - 1, by omega⟩
      rw [Function.iterate_succ_apply, List.map_cons, accepts, List.isEmpty_map]
      cases hdefault : arm.isDefault with
      | true =>
          rw [scalarMatchPatternStep_default hdefault, Function.iterate_fixed (scalarMatchPatternStep_of_nil rfl),
            show arm.spelled.isDefault = true from hdefault, if_pos rfl]
          exact Bool.and_self _
      | false =>
          rw [scalarMatchPatternStep_number hdefault, patternSeen_eq (by omega),
            show arm.spelled.isDefault = false from hdefault, if_neg Bool.false_ne_true]
          show _ = ((scalarPatternValid (.tInt 64 signed) arm.negative arm.value arm.overflow &&
            !decide (arm.spelled.payload ∈ seen)) && _)
          cases scalarPatternValid (.tInt 64 signed) arm.negative arm.value arm.overflow &&
              !decide (arm.spelled.payload ∈ seen) with
          | false =>
              rw [if_neg Bool.false_ne_true, Function.iterate_fixed (scalarMatchPatternStep_of_nil rfl)]
              rfl
          | true =>
              rw [if_pos rfl, Bool.true_and]
              exact ih (by omega) (by rw [List.length_cons]; omega)

/-! ## The rule of the machine -/

/-- The lists that `accepts` takes. -/
theorem accepts_iff {signed : Bool} {seen : List Nat} {patterns : List ScalarPattern} :
    accepts signed seen patterns = true ↔
      ∃ numbers last, patterns = numbers ++ [last] ∧ last.isDefault = true ∧
        (∀ p ∈ numbers, p.isDefault = false ∧
          scalarPatternValid (.tInt 64 signed) p.negative p.value p.overflow = true ∧ p.payload ∉ seen) ∧
        numbers.Pairwise fun p q => p.payload ≠ q.payload := by
  induction patterns generalizing seen with
  | nil => simp [accepts]
  | cons p rest ih =>
      rw [accepts]
      cases hdefault : p.isDefault with
      | true =>
          rw [if_pos rfl, List.isEmpty_iff]
          constructor
          · rintro rfl
            exact ⟨[], p, rfl, hdefault, fun _ h => (List.not_mem_nil h).elim, List.Pairwise.nil⟩
          · rintro ⟨numbers, last, heq, -, hnumbers, -⟩
            cases numbers with
            | nil => exact (List.cons.inj heq).2
            | cons q t =>
                -- a default before the last arm
                obtain ⟨rfl, -⟩ := List.cons.inj heq
                have hplain := (hnumbers p List.mem_cons_self).1
                rw [hdefault] at hplain
                cases hplain
      | false =>
          rw [if_neg Bool.false_ne_true, Bool.and_eq_true, Bool.and_eq_true, ih, Bool.not_eq_true', decide_eq_false_iff_not]
          constructor
          · rintro ⟨⟨hvalid, hnew⟩, numbers, last, rfl, hlast, hnumbers, hdistinct⟩
            refine ⟨p :: numbers, last, rfl, hlast, ?_, ?_⟩
            · intro q hq
              rcases List.mem_cons.mp hq with rfl | hq
              · exact ⟨hdefault, hvalid, hnew⟩
              · obtain ⟨hplain, hok, hother⟩ := hnumbers q hq
                exact ⟨hplain, hok, fun h => hother (List.mem_cons_of_mem _ h)⟩
            · rw [List.pairwise_cons]
              refine ⟨?_, hdistinct⟩
              intro q hq heq
              exact (hnumbers q hq).2.2 (heq ▸ List.mem_cons_self)
          · rintro ⟨numbers, last, heq, hlast, hnumbers, hdistinct⟩
            cases numbers with
            | nil =>
                obtain ⟨rfl, -⟩ := List.cons.inj heq
                rw [hdefault] at hlast
                cases hlast
            | cons q t =>
                obtain ⟨rfl, rfl⟩ := List.cons.inj heq
                rw [List.pairwise_cons] at hdistinct
                obtain ⟨-, hvalid, hnew⟩ := hnumbers p List.mem_cons_self
                refine ⟨⟨hvalid, hnew⟩, t, last, rfl, hlast, ?_, hdistinct.2⟩
                intro r hr
                obtain ⟨hplain, hok, hother⟩ := hnumbers r (List.mem_cons_of_mem _ hr)
                refine ⟨hplain, hok, ?_⟩
                intro hmem
                rcases List.mem_cons.mp hmem with heq | hmem
                · exact hdistinct.1 r hr heq.symm
                · exact hother hmem

/-- Payloads and values state the same rule, but for the sign: an unsigned type takes no minus, not even on zero. -/
theorem accepts_nil_iff {signed : Bool} {patterns : List ScalarPattern}
    (hvalue : ∀ p ∈ patterns, p.value < 2 ^ 64) :
    accepts signed [] patterns = true ↔
      ∃ numbers last, patterns = numbers ++ [last] ∧ Ruled signed numbers last ∧
        ∀ p ∈ numbers, p.negative = true → signed = true := by
  rw [accepts_iff]
  refine exists_congr fun numbers => exists_congr fun last => and_congr_right fun heq => ?_
  have hbound : ∀ p ∈ numbers, p.value < 2 ^ 64 := fun p hp =>
    hvalue p (heq ▸ List.mem_append_left _ hp)
  have hpairs : (∀ p ∈ numbers, scalarPatternValid (.tInt 64 signed) p.negative p.value p.overflow = true) →
      ((numbers.Pairwise fun p q => p.payload ≠ q.payload) ↔ numbers.Pairwise fun p q => p.denotes ≠ q.denotes) :=
    fun hvalid => List.Pairwise.iff_of_mem fun hp hq =>
      not_congr (payload_eq_iff (hbound _ hp) (hbound _ hq) (hvalid _ hp) (hvalid _ hq))
  constructor
  · rintro ⟨hlast, hnumbers, hdistinct⟩
    have hvalid := fun p hp => (scalarPatternValid_iff (hbound p hp)).mp (hnumbers p hp).2.1
    exact ⟨⟨hlast, fun p hp => (hnumbers p hp).1, fun p hp => (hvalid p hp).1,
      (hpairs fun p hp => (hnumbers p hp).2.1).mp hdistinct⟩, fun p hp => (hvalid p hp).2⟩
  · rintro ⟨hruled, hsign⟩
    have hvalid : ∀ p ∈ numbers, scalarPatternValid (.tInt 64 signed) p.negative p.value p.overflow = true :=
      fun p hp => (scalarPatternValid_iff (hbound p hp)).mpr ⟨hruled.representable p hp, hsign p hp⟩
    exact ⟨hruled.default, fun p hp => ⟨hruled.plain p hp, hvalid p hp, List.not_mem_nil⟩,
      (hpairs hvalid).mpr hruled.distinct⟩

/-! ## The typed arms -/

/-- The arm of the parser with the pattern of a typed arm. -/
def TypedScalarMatchArm.untyped (arm : TypedScalarMatchArm) : ScalarMatchArm :=
  .mk arm.isDefault arm.negative arm.value arm.overflow 0 0 (.name 0 0)

def TypedPatternCheck.untyped (st : TypedPatternCheck) : PatternCheck :=
  { rest := st.rest.map TypedScalarMatchArm.untyped, seen := st.seen, subjectTy := st.subjectTy
    defaultSeen := st.defaultSeen, ok := st.ok }

theorem typedScalarMatchPatternStep_default {arm : TypedScalarMatchArm} {rest : List TypedScalarMatchArm}
    {seen : List Nat} {ty : SemType} (hdefault : arm.isDefault = true) :
    typedScalarMatchPatternStep ⟨arm :: rest, seen, ty, false, true⟩ = ⟨[], seen, ty, rest.isEmpty, rest.isEmpty⟩ := by
  show typedScalarMatchPatternCheckArm ⟨arm :: rest, seen, ty, false, true⟩ arm rest = _
  rw [typedScalarMatchPatternCheckArm, if_pos hdefault]
  cases rest with
  | nil => rfl
  | cons b t => rfl

theorem typedScalarMatchPatternStep_number {arm : TypedScalarMatchArm} {rest : List TypedScalarMatchArm}
    {seen : List Nat} {ty : SemType} (hdefault : arm.isDefault = false) :
    typedScalarMatchPatternStep ⟨arm :: rest, seen, ty, false, true⟩ =
      if scalarPatternValid ty arm.negative arm.value arm.overflow && !patternSeen seen arm.spelled.payload then
        ⟨rest, arm.spelled.payload :: seen, ty, false, true⟩
      else ⟨[], seen, ty, false, false⟩ := by
  show typedScalarMatchPatternCheckArm ⟨arm :: rest, seen, ty, false, true⟩ arm rest = _
  unfold typedScalarMatchPatternCheckArm
  have hpayload : (if arm.negative = true then negativePayload arm.value else arm.value) = arm.spelled.payload := rfl
  rw [hdefault, if_neg Bool.false_ne_true]
  dsimp only
  rw [hpayload]
  cases scalarPatternValid ty arm.negative arm.value arm.overflow with
  | false => rfl
  | true =>
      cases patternSeen seen arm.spelled.payload with
      | false => rfl
      | true => rfl

/-- **A step of the typed machine** is a step of the other. -/
theorem untyped_typedScalarMatchPatternStep (st : TypedPatternCheck) :
    (typedScalarMatchPatternStep st).untyped = scalarMatchPatternStep st.untyped := by
  obtain ⟨rest, seen, ty, defaultSeen, ok⟩ := st
  cases ok with
  | false => rfl
  | true =>
      cases defaultSeen with
      | true => rfl
      | false =>
          cases rest with
          | nil => rfl
          | cons arm t =>
              show _ = scalarMatchPatternStep ⟨arm.untyped :: t.map TypedScalarMatchArm.untyped, seen, ty, false, true⟩
              cases hdefault : arm.isDefault with
              | true =>
                  have huntyped : arm.untyped.isDefault = true := hdefault
                  rw [typedScalarMatchPatternStep_default hdefault, scalarMatchPatternStep_default huntyped,
                    List.isEmpty_map]
                  rfl
              | false =>
                  have huntyped : arm.untyped.isDefault = false := hdefault
                  rw [typedScalarMatchPatternStep_number hdefault, scalarMatchPatternStep_number huntyped]
                  show _ = if scalarPatternValid ty arm.negative arm.value arm.overflow &&
                      !patternSeen seen arm.spelled.payload then
                    (⟨t.map TypedScalarMatchArm.untyped, arm.spelled.payload :: seen, ty, false, true⟩ : PatternCheck)
                    else ⟨[], seen, ty, false, false⟩
                  split
                  · rfl
                  · rfl

theorem typedScalarMatchPatternsOk_eq (arms : List TypedScalarMatchArm) (ty : SemType) :
    typedScalarMatchPatternsOk arms ty = scalarMatchPatternsOk (arms.map TypedScalarMatchArm.untyped) ty := by
  have hrun : ∀ st, (typedScalarMatchPatternStep^[1024] st).untyped = scalarMatchPatternStep^[1024] st.untyped :=
    Function.Semiconj.iterate_right untyped_typedScalarMatchPatternStep 1024
  have hflags : ∀ st : TypedPatternCheck, (st.ok && st.defaultSeen) = (st.untyped.ok && st.untyped.defaultSeen) :=
    fun _ => rfl
  unfold typedScalarMatchPatternsOk scalarMatchPatternsOk
  dsimp only
  rw [hflags, hrun, TypedPatternCheck.untyped]

theorem scalarMatchPatternsOk_accepts {signed : Bool} {arms : List ScalarMatchArm} (h : arms.length ≤ 1024) :
    scalarMatchPatternsOk arms (.tInt 64 signed) = accepts signed [] (arms.map ScalarMatchArm.spelled) := by
  unfold scalarMatchPatternsOk
  dsimp only
  rw [scalarMatchPatternStep_run h (by rwa [List.length_nil, Nat.zero_add])]

/-- **The pattern rule**: both checks accept exactly the ruled lists, without a minus over an unsigned type. -/
theorem scalarMatchPatternsOk_ruled {signed : Bool} {arms : List ScalarMatchArm} (hshort : arms.length < 1024)
    (hvalue : ∀ arm ∈ arms, arm.value < 2 ^ 64) :
    (scalarMatchPatternsOk arms (.tInt 64 signed) = true ↔
      ∃ numbers last, arms.map ScalarMatchArm.spelled = numbers ++ [last] ∧ Ruled signed numbers last ∧
        ∀ p ∈ numbers, p.negative = true → signed = true) ∧
    ∀ typed : List TypedScalarMatchArm,
      typed.map TypedScalarMatchArm.spelled = arms.map ScalarMatchArm.spelled →
        typedScalarMatchPatternsOk typed (.tInt 64 signed) = scalarMatchPatternsOk arms (.tInt 64 signed) := by
  constructor
  · rw [scalarMatchPatternsOk_accepts (Nat.le_of_lt hshort)]
    apply accepts_nil_iff
    intro p hp
    obtain ⟨arm, harm, rfl⟩ := List.mem_map.mp hp
    exact hvalue arm harm
  · intro typed hsame
    have hlen : typed.length = arms.length := by
      simpa using congrArg List.length hsame
    rw [typedScalarMatchPatternsOk_eq, scalarMatchPatternsOk_accepts (by rw [List.length_map]; omega),
      scalarMatchPatternsOk_accepts (by omega), ← hsame, List.map_map]
    rfl

/-- `{ 5 => …, -1 => …, _ => … }` over `i64`. -/
theorem scalarMatchPatternsOk_ruled_signed :
    (scalarMatchPatternsOk [.mk false false 5 false 0 1 (.name 0 1), .mk false true 1 false 2 4 (.name 0 1),
        .mk true false 0 false 5 6 (.name 0 1)] (.tInt 64 true) = true ↔
      ∃ numbers last, [⟨false, false, 5, false⟩, ⟨false, true, 1, false⟩, ⟨true, false, 0, false⟩] = numbers ++ [last] ∧
        Ruled true numbers last ∧ ∀ p ∈ numbers, p.negative = true → true = true) ∧
    ∀ typed : List TypedScalarMatchArm,
      typed.map TypedScalarMatchArm.spelled =
          [⟨false, false, 5, false⟩, ⟨false, true, 1, false⟩, ⟨true, false, 0, false⟩] →
        typedScalarMatchPatternsOk typed (.tInt 64 true) =
          scalarMatchPatternsOk [.mk false false 5 false 0 1 (.name 0 1), .mk false true 1 false 2 4 (.name 0 1),
            .mk true false 0 false 5 6 (.name 0 1)] (.tInt 64 true) :=
  scalarMatchPatternsOk_ruled (by decide) (by
    intro arm harm
    simp only [List.mem_cons, List.not_mem_nil, or_false] at harm
    rcases harm with rfl | rfl | rfl
    · decide
    · decide
    · decide)

/-- `-0` is a value of `u64`, and the checks refuse the minus. -/
theorem not_scalarMatchPatternsOk_ruled :
    ¬ ∀ (signed : Bool) (arms : List ScalarMatchArm), arms.length < 1024 → (∀ arm ∈ arms, arm.value < 2 ^ 64) →
      (scalarMatchPatternsOk arms (.tInt 64 signed) = true ↔
        ∃ numbers last, arms.map ScalarMatchArm.spelled = numbers ++ [last] ∧ Ruled signed numbers last) ∧
      ∀ typed : List TypedScalarMatchArm,
        typed.map TypedScalarMatchArm.spelled = arms.map ScalarMatchArm.spelled →
          typedScalarMatchPatternsOk typed (.tInt 64 signed) = scalarMatchPatternsOk arms (.tInt 64 signed) := by
  intro hall
  have hzero := (hall false [.mk false true 0 false 0 2 (.name 0 1), .mk true false 0 false 3 4 (.name 0 1)] (by decide)
    (by
      intro arm harm
      simp only [List.mem_cons, List.not_mem_nil, or_false] at harm
      rcases harm with rfl | rfl
      · decide
      · decide)).1.mpr
  have hruled : Ruled false [⟨false, true, 0, false⟩] ⟨true, false, 0, false⟩ := by
    refine ⟨rfl, ?_, ?_, List.pairwise_singleton _ _⟩
    · intro p hp
      rw [List.mem_singleton.mp hp]
    · intro p hp
      rw [List.mem_singleton.mp hp]
      exact ⟨0, rfl, by decide, by decide⟩
  have hok := hzero ⟨_, _, rfl, hruled⟩
  rw [scalarMatchPatternsOk_accepts (by decide)] at hok
  cases hok

end MncsCompiler.Decl
