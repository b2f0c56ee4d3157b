import Mathlib.Data.List.Forall2
import MncsCompiler.Decl.Evaluation

/-!
# `Decl.Discipline` — verified operations are well typed

What the rules of `verify_tops` say without its worklist and its bounds: an operation takes the types of its operands
from the stack and leaves the type it establishes, a list of operations leaves one type, and so does the list of every
arm of every match in it. `verifyTops_wellTyped` is the soundness of the verifier for this discipline.
-/

namespace MncsCompiler.Decl

open BoundedLoop Halting

/-! ## The discipline -/

/-- The type that an operation establishes. -/
def TOp.ty : TOp → SemType
  | .tInt _ ty _ _ => ty
  | .tBool _ ty _ _ => ty
  | .tName ty _ _ => ty
  | .tNot ty _ _ => ty
  | .tRepeat ty _ _ _ _ => ty
  | .tMatch ty _ _ _ _ _ _ => ty
  | .tFiniteMatch ty _ _ _ _ _ => ty
  | .tEnumConstruct ty _ _ _ _ _ _ => ty
  | .tRecordConstruct ty _ _ _ _ _ _ _ => ty
  | .tBin _ ty _ _ => ty
  | .tCall ty _ _ _ _ _ _ _ _ _ => ty
  | .tProj ty _ _ _ _ _ => ty
  | .tOp _ ty _ _ _ _ _ _ => ty

/-- The operations of the arms of a match. -/
def TOp.armOps : TOp → List (List TOp)
  | .tMatch _ _ arms _ _ _ _ => arms.map TypedScalarMatchArm.ops
  | .tFiniteMatch _ _ arms _ _ _ => arms.map TypedFiniteMatchArm.ops
  | _ => []

/-- The source of a host operation, index, cast, selection or view is an expression of that kind and name. -/
def Anchored (src : Source) (slot : Nat) (ty : SemType) (argc ns ne : Nat) (identity : SemanticIdentity)
    (start stop : Nat) : Prop :=
  argc = opArity slot ∧ opVerifyResultOk slot ty = true ∧
    semanticIdentityEqual identity (canonicalOperationIdentity src ns ne) = true ∧
    opSourceValid src slot ty ns ne argc start stop = true

/-- **One operation.** `Applies src op before after`: over the types `before`, newest first, `op` finds operands of the
    types it requires and leaves `after`. -/
inductive Applies (src : Source) : TOp → List SemType → List SemType → Prop
  | integer {v ty s e stack} : Applies src (.tInt v ty s e) stack (ty :: stack)
  | boolean {v ty s e stack} : Applies src (.tBool v ty s e) stack (ty :: stack)
  | name {ty s e stack} : Applies src (.tName ty s e) stack (ty :: stack)
  | not {ty s e operand rest} (hty : semEq src ty .tBool = true) (hoperand : semEq src operand .tBool = true) :
      Applies src (.tNot ty s e) (operand :: rest) (ty :: rest)
  | repeated {element expected count s e actual rest} (helement : semEq src element expected = true)
      (hactual : semEq src actual element = true) :
      Applies src (.tRepeat (.tSeqExact expected count true) element count s e) (actual :: rest)
        (.tSeqExact expected count true :: rest)
  | scalarMatch {ty subjectTy arms s e actual rest} (hsubject : isIntTy subjectTy = true)
      (hpatterns : typedScalarMatchPatternsOk arms subjectTy = true)
      (hdefault : (arms.filter TypedScalarMatchArm.isDefault).length = 1) (hint : isIntTy actual = true)
      (hactual : semEq src actual subjectTy = true) :
      Applies src (.tMatch ty subjectTy arms arms.length 1 s e) (actual :: rest) (ty :: rest)
  | finiteMatch {ty subjectTy arms s e actual rest} (hsubject : isNamedTy subjectTy = true) (harms : arms ≠ [])
      (hvalid : typedFiniteMatchArmsValid src arms = true) (hnamed : isNamedTy actual = true)
      (hactual : semEq src actual subjectTy = true) :
      Applies src (.tFiniteMatch ty subjectTy arms arms.length s e) (actual :: rest) (ty :: rest)
  | enumConstruct {ty vs ve params s e operands rest} (hnamed : isNamedTy ty = true)
      (hsource : enumConstructSourceValid src ty vs ve params s e = true)
      (hoperands : List.Forall₂ (fun actual (param : Bind) => semEq src actual param.ty = true) operands
        params.reverse) :
      Applies src (.tEnumConstruct ty vs ve params.length params s e) (operands ++ rest) (ty :: rest)
  | recordConstruct {ty ts te params s e operands rest} (hnamed : isNamedTy ty = true)
      (hsource : recordConstructSourceValidBase src ty ts te false params s e = true)
      (hoperands : List.Forall₂ (fun actual (param : Bind) => semEq src actual param.ty = true) operands
        params.reverse) :
      Applies src (.tRecordConstruct ty ts te false params.length params s e) (operands ++ rest) (ty :: rest)
  | recordUpdate {ty ts te params s e operands base rest} (hnamed : isNamedTy ty = true)
      (hsource : recordConstructSourceValidBase src ty ts te true params s e = true)
      (hoperands : List.Forall₂ (fun actual (param : Bind) => semEq src actual param.ty = true) operands
        params.reverse) (hbase : semEq src base ty = true) :
      Applies src (.tRecordConstruct ty ts te true params.length params s e) (operands ++ base :: rest) (ty :: rest)
  | binary {op ty s e right left rest} (heq : semEq src right left = true) :
      Applies src (.tBin op ty s e) (right :: left :: rest) (ty :: rest)
  | call {ty params s e ns ne identity effects capabilities operands rest}
      (hsignature : signatureIdentityValid effects capabilities = true) :
      Applies src (.tCall ty operands.length params s e ns ne identity effects capabilities) (operands ++ rest)
        (ty :: rest)
  | project {ty fs fe index s e ns ne rest} (hindex : index ≠ 1024) :
      Applies src (.tProj ty fs fe index s e) (.tNamed ns ne :: rest) (ty :: rest)
  | length {ty fs fe s e base rest} (hty : isU64Ty ty = true) (hbase : isSequenceSem base = true)
      (hsource : (parseExpr { src with total := e } s true).ok = true)
      (hlen : projectIsLen src (parseExpr { src with total := e } s true).node fs fe s e = true) :
      Applies src (.tProj ty fs fe 1024 s e) (base :: rest) (ty :: rest)
  | host {slot ty ns ne identity s e operands rest} (hslot : slot < 6)
      (hanchor : Anchored src slot ty operands.length ns ne identity s e) :
      Applies src (.tOp slot ty operands.length ns ne identity s e) (operands ++ rest) (ty :: rest)
  | index {ty argc ns ne identity s e index base rest} (hanchor : Anchored src 6 ty argc ns ne identity s e)
      (hindex : isU64Ty index = true) (hbase : isSequenceSem base = true)
      (helement : semEq src ty (sequenceSemElement base) = true) :
      Applies src (.tOp 6 ty argc ns ne identity s e) (index :: base :: rest) (ty :: rest)
  | cast {ty argc ns ne identity s e value rest} (hanchor : Anchored src 7 ty argc ns ne identity s e)
      (hsource : castSourceOk value = true) (htarget : castTargetOk ty = true) :
      Applies src (.tOp 7 ty argc ns ne identity s e) (value :: rest) (ty :: rest)
  | select {ty argc ns ne identity s e no yes condition rest} (hanchor : Anchored src 8 ty argc ns ne identity s e)
      (hcondition : isBoolTy condition = true) (hsame : semEq src yes no = true) (hty : semEq src ty yes = true) :
      Applies src (.tOp 8 ty argc ns ne identity s e) (no :: yes :: condition :: rest) (ty :: rest)
  | view {ty argc ns ne identity s e last first base rest} (hanchor : Anchored src 9 ty argc ns ne identity s e)
      (hbase : isSequenceSem base = true) (hfirst : isU64Ty first = true) (hlast : isU64Ty last = true)
      (hty : semEq src ty (sequenceViewType base) = true) :
      Applies src (.tOp 9 ty argc ns ne identity s e) (last :: first :: base :: rest) (ty :: rest)

/-- **A list of operations.** Each one applies to what the ones before it left, and establishes no poison. -/
inductive Leaves (src : Source) : List TOp → List SemType → List SemType → Prop
  | nil {stack} : Leaves src [] stack stack
  | cons {op ops before mid after} (hop : Applies src op before mid) (hpoison : isPoison op.ty = false)
      (hops : Leaves src ops mid after) : Leaves src (op :: ops) before after

/-- A type that the position accepts. -/
def Meets (src : Source) : ExpTy → SemType → Prop
  | .xNone, _ => True
  | .xSome ty, actual => isPoison ty = false ∧ isPoison actual = false ∧ semEq src actual ty = true

/-- **The discipline**: the operations leave exactly one type, one that is wanted, and those of every arm of every match
    among them leave exactly one of the type of the match. -/
inductive WellTyped (src : Source) : List TOp → ExpTy → Prop
  | mk {ops want result} (hleaves : Leaves src ops [] [result]) (hwant : Meets src want result)
      (harms : ∀ op ∈ ops, ∀ arm ∈ op.armOps, WellTyped src arm (.xSome op.ty)) : WellTyped src ops want

/-! ## Scans -/

theorem popTys_eq {stack : List SemType} {n : Nat} (hn : n ≤ 1024) (hlen : n ≤ stack.length) :
    popTys stack n = { rest := stack.drop n, n := 0, ok := true } := by
  have hrun : ∀ k (stack : List SemType) n, n ≤ k → n ≤ stack.length →
      popTysStep^[k] { rest := stack, n := n, ok := true } = { rest := stack.drop n, n := 0, ok := true } := by
    intro k
    induction k with
    | zero =>
        intro stack n hk _
        obtain rfl := Nat.le_zero.mp hk
        rfl
    | succ k ih =>
        intro stack n hk hlen
        rw [Function.iterate_succ_apply]
        cases n with
        | zero => exact ih stack 0 (Nat.zero_le _) (Nat.zero_le _)
        | succ n =>
            cases stack with
            | nil => cases hlen
            | cons h t => exact ih t n (Nat.le_of_succ_le_succ hk) (Nat.le_of_succ_le_succ hlen)
  exact hrun 1024 stack n hn hlen

theorem bindCount_eq (binds : List Bind) : bindCount binds = min 1024 binds.length := by
  rw [bindCount, iterate_count BindCountScan.rest BindCountScan.count, Nat.zero_add]
  · intro s hs
    rw [bindCountStep, hs]
  · intro s a t hs
    rw [bindCountStep, hs]
    exact ⟨rfl, rfl⟩

/-- The operands of a construction have the types of its fields, the last field on top. -/
theorem operands_of_constructOperandTypesMatch {src : Source} {stack : List SemType} {params : List Bind}
    (hparams : params.length ≤ 1024) (h : constructOperandTypesMatch src stack params = true) :
    ∃ operands rest, stack = operands ++ rest ∧ operands.length = params.length ∧
      List.Forall₂ (fun actual (param : Bind) => semEq src actual param.ty = true) operands params.reverse := by
  have hrun : ∀ k (stack : List SemType) (params : List Bind),
      ((constructOperandTypeStep src)^[k] { stack := stack, params := params, ok := true }).ok = true →
      ((constructOperandTypeStep src)^[k] { stack := stack, params := params, ok := true }).params = [] →
      ∃ operands rest, stack = operands ++ rest ∧
        List.Forall₂ (fun actual (param : Bind) => semEq src actual param.ty = true) operands params := by
    intro k
    induction k with
    | zero =>
        intro stack params _ hempty
        obtain rfl : params = [] := hempty
        exact ⟨[], stack, rfl, .nil⟩
    | succ k ih =>
        intro stack params hok hempty
        rw [Function.iterate_succ_apply] at hok hempty
        cases params with
        | nil => exact ⟨[], stack, rfl, .nil⟩
        | cons param params =>
            cases stack with
            | nil =>
                have hfix : constructOperandTypeStep src { stack := [], params := param :: params, ok := false } =
                    { stack := [], params := param :: params, ok := false } := rfl
                rw [constructOperandTypeStep] at hok
                simp only [Bool.not_true, Bool.false_eq_true, if_false, List.isEmpty_cons,
                  Function.iterate_fixed hfix] at hok
            | cons actual stack =>
                cases heq : semEq src actual param.ty with
                | true =>
                    have hstep : constructOperandTypeStep src
                        { stack := actual :: stack, params := param :: params, ok := true } =
                        { stack := stack, params := params, ok := true } := by
                      simp [constructOperandTypeStep, heq]
                    rw [hstep] at hok hempty
                    obtain ⟨operands, rest, rfl, hoperands⟩ := ih stack params hok hempty
                    exact ⟨actual :: operands, rest, rfl, .cons heq hoperands⟩
                | false =>
                    have hstep : constructOperandTypeStep src
                        { stack := actual :: stack, params := param :: params, ok := true } =
                        { stack := stack, params := params, ok := false } := by
                      simp [constructOperandTypeStep, heq]
                    have hfix : constructOperandTypeStep src { stack := stack, params := params, ok := false } =
                        { stack := stack, params := params, ok := false } := rfl
                    rw [hstep, Function.iterate_fixed hfix] at hok
                    cases hok
  rw [constructOperandTypesMatch, Bool.and_eq_true, List.isEmpty_iff] at h
  obtain ⟨operands, rest, hstack, hoperands⟩ := hrun 1024 stack (reverseBinds params) h.1 h.2
  rw [reverseBinds, reverseWithin_eq, List.take_of_length_le hparams] at hoperands
  refine ⟨operands, rest, hstack, ?_, hoperands⟩
  rw [hoperands.length_eq, List.length_reverse]

/-! ## One operation -/

/-- A frame that is well so far: `depth` is the height of the stack. -/
def TDepth.at (rest : List TOp) (stack : List SemType) : TDepth :=
  { rest := rest, stack := stack, depth := stack.length, ok := true }

/-- The rule of `op` accepts and establishes its type over `remaining`. -/
structure Advances (src : Source) (op : TOp) (rest : List TOp) (stack : List SemType) (result : TDepth) : Prop where
  exists_remaining : ∃ remaining, result = .at rest (op.ty :: remaining) ∧ remaining.length ≤ stack.length ∧
    Applies src op stack (op.ty :: remaining)
  poison : isPoison op.ty = false

section Rules

variable {src : Source} {ops rest : List TOp} {stack : List SemType}

theorem typedFiniteMatchCount_eq (arms : List TypedFiniteMatchArm) :
    typedFiniteMatchCount arms = min 1024 arms.length := by
  rw [typedFiniteMatchCount, iterate_count TypedFiniteMatchCount.rest TypedFiniteMatchCount.count, Nat.zero_add]
  · intro s hs
    rw [typedFiniteMatchCountStep, hs]
  · intro s a t hs
    rw [typedFiniteMatchCountStep, hs]
    exact ⟨rfl, rfl⟩

theorem typedScalarMatchCount_n (arms : List TypedScalarMatchArm) :
    (typedScalarMatchCount arms).n = min 1024 arms.length := by
  rw [typedScalarMatchCount, iterate_count TypedScalarMatchCount.rest TypedScalarMatchCount.n, Nat.zero_add]
  · intro s hs
    rw [typedScalarMatchCountStep, hs]
  · intro s a t hs
    rw [typedScalarMatchCountStep, hs]
    exact ⟨rfl, rfl⟩

theorem typedScalarMatchCount_defaults {arms : List TypedScalarMatchArm} (harms : arms.length ≤ 1024) :
    (typedScalarMatchCount arms).defaults = (arms.filter TypedScalarMatchArm.isDefault).length := by
  have hrun : ∀ k (st : TypedScalarMatchCount), st.rest.length ≤ k →
      (typedScalarMatchCountStep^[k] st).defaults =
        st.defaults + (st.rest.filter TypedScalarMatchArm.isDefault).length := by
    intro k
    induction k with
    | zero =>
        intro st hk
        rw [List.eq_nil_of_length_eq_zero (Nat.le_zero.mp hk)]
        rfl
    | succ k ih =>
        rintro ⟨rest, n, defaults⟩ hk
        rw [Function.iterate_succ_apply]
        cases rest with
        | nil => exact ih _ (Nat.zero_le _)
        | cons arm rest =>
            rw [ih _ (Nat.le_of_succ_le_succ hk)]
            cases harm : arm.isDefault with
            | true => simp [typedScalarMatchCountStep, harm]; omega
            | false => simp [typedScalarMatchCountStep, harm]
  rw [typedScalarMatchCount, hrun 1024 _ harms, Nat.zero_add]

theorem exists_append_of_le {α : Type} {l : List α} {n : Nat} (h : n ≤ l.length) :
    ∃ front back, l = front ++ back ∧ n = front.length :=
  ⟨l.take n, l.drop n, (List.take_append_drop n l).symm, by rw [List.length_take, Nat.min_eq_left h]⟩

theorem verifyTopPush_at {ty : SemType} (hok : (verifyTopPush (.at ops stack) rest ty).ok = true) :
    verifyTopPush (.at ops stack) rest ty = .at rest (ty :: stack) ∧ isPoison ty = false := by
  cases hty : isPoison ty with
  | true => simp [verifyTopPush, hty] at hok
  | false => simp [verifyTopPush, hty, TDepth.at]

theorem semEqShape_of_semEq {a b : SemType} (h : semEq src a b = true) : semEqShape src a b = true := by
  cases hshape : semEqShape src a b with
  | true => rfl
  | false =>
      have hstep : semEqStep src { rest := [{ left := a, right := b }], ok := true } = { rest := [], ok := false } := by
        simp [semEqStep, semEqPairStep, hshape]
      have hfix : semEqStep src { rest := [], ok := false } = { rest := [], ok := false } := rfl
      have hrun : (semEqStep src)^[32] { rest := [{ left := a, right := b }], ok := true } =
          { rest := [], ok := false } := by
        rw [Function.iterate_succ_apply _ 31, hstep, Function.iterate_fixed hfix]
      rw [semEq, hrun] at h
      cases h

/-- A type that equals a boolean is no poison. -/
theorem isPoison_of_semEq_tBool {ty : SemType} (h : semEq src ty .tBool = true) : isPoison ty = false := by
  cases ty with
  | tPoison => cases semEqShape_of_semEq h
  | tBool | tByte | tInt _ _ | tNamed _ _ | tSeq | tSeqExact _ _ _ => rfl

theorem verifyTopNot_advances {ty : SemType} {s e : Nat} (hok : (verifyTopNot src (.at ops stack) rest ty).ok = true) :
    Advances src (.tNot ty s e) rest stack (verifyTopNot src (.at ops stack) rest ty) := by
  revert hok
  rw [verifyTopNot]
  split
  · nofun
  · rename_i hty
    simp only [Bool.not_eq_true', Bool.not_eq_false] at hty
    cases stack with
    | nil => nofun
    | cons operand remaining =>
        simp only [TDepth.at, verifyTopNotOperand]
        split
        · nofun
        · rename_i hoperand
          simp only [Bool.not_eq_true', Bool.not_eq_false] at hoperand
          intro _
          exact ⟨⟨remaining, rfl, Nat.le_succ _, .not hty hoperand⟩, isPoison_of_semEq_tBool hty⟩

theorem verifyTopRepeat_advances {ty element : SemType} {count s e : Nat}
    (hok : (verifyTopRepeat src (.at ops stack) rest ty element count).ok = true) :
    Advances src (.tRepeat ty element count s e) rest stack
      (verifyTopRepeat src (.at ops stack) rest ty element count) := by
  revert hok
  unfold verifyTopRepeat
  split
  · intro hfail
    cases hfail
  · cases ty with
    | tSeqExact expected length valid =>
        simp only [verifyTopRepeatExact]
        split
        · intro hfail
          cases hfail
        · rename_i hcount
          simp only [Bool.or_eq_true, Bool.not_eq_true', decide_eq_true_eq, not_or, Bool.not_eq_false, ne_eq,
            not_not] at hcount
          obtain ⟨⟨rfl, rfl⟩, helement⟩ := hcount
          cases stack with
          | nil =>
              intro hfail
              cases hfail
          | cons actual remaining =>
              simp only [TDepth.at, verifyTopRepeatValue]
              split
              · intro hfail
                cases hfail
              · rename_i hactual
                simp only [Bool.not_eq_true', Bool.not_eq_false] at hactual
                intro _
                exact ⟨⟨remaining, rfl, Nat.le_succ _, .repeated helement hactual⟩, rfl⟩
    | tBool | tByte | tInt _ _ | tNamed _ _ | tSeq | tPoison =>
        intro hfail
        cases hfail

theorem verifyTopMatch_advances {ty subjectTy : SemType} {arms : List TypedScalarMatchArm} {armCount defaultCount s e : Nat}
    (harms : arms.length ≤ 1024)
    (hok : (verifyTopMatch src (.at ops stack) rest ty subjectTy arms armCount defaultCount).ok = true) :
    Advances src (.tMatch ty subjectTy arms armCount defaultCount s e) rest stack
      (verifyTopMatch src (.at ops stack) rest ty subjectTy arms armCount defaultCount) := by
  revert hok
  simp only [verifyTopMatch, typedScalarMatchCount_n, typedScalarMatchCount_defaults harms, Nat.min_eq_right harms]
  split
  · intro hfail
    cases hfail
  · rename_i hcount
    simp only [Bool.or_eq_true, Bool.not_eq_true', decide_eq_true_eq, not_or, Bool.not_eq_true, Bool.not_eq_false, ne_eq,
      not_not] at hcount
    obtain ⟨⟨⟨⟨hpoison, hsubject⟩, rfl⟩, hdefaults⟩, rfl⟩ := hcount
    split
    · intro hfail
      cases hfail
    · rename_i hpatterns
      simp only [Bool.or_eq_true, Bool.not_eq_true', not_or, Bool.not_eq_false] at hpatterns
      cases stack with
      | nil =>
          intro hfail
          cases hfail
      | cons actual remaining =>
          simp only [TDepth.at, verifyTopMatchSubject]
          split
          · intro hfail
            cases hfail
          · rename_i hactual
            simp only [Bool.or_eq_true, Bool.not_eq_true', not_or, Bool.not_eq_false] at hactual
            intro _
            refine ⟨⟨remaining, rfl, Nat.le_succ _, ?_⟩, hpoison⟩
            exact .scalarMatch hsubject hpatterns.1.1 hdefaults hactual.1 hactual.2

theorem verifyTopFiniteMatch_advances {ty subjectTy : SemType} {arms : List TypedFiniteMatchArm} {armCount s e : Nat}
    (harms : arms.length ≤ 1024)
    (hok : (verifyTopFiniteMatch src (.at ops stack) rest ty subjectTy arms armCount).ok = true) :
    Advances src (.tFiniteMatch ty subjectTy arms armCount s e) rest stack
      (verifyTopFiniteMatch src (.at ops stack) rest ty subjectTy arms armCount) := by
  revert hok
  simp only [verifyTopFiniteMatch, typedFiniteMatchCount_eq, Nat.min_eq_right harms]
  split
  · intro hfail
    cases hfail
  · rename_i hcount
    simp only [Bool.or_eq_true, Bool.not_eq_true', decide_eq_true_eq, not_or, Bool.not_eq_true, Bool.not_eq_false, ne_eq,
      not_not] at hcount
    obtain ⟨⟨⟨⟨hpoison, -⟩, rfl⟩, hnonempty⟩, hvalid⟩ := hcount
    split
    · intro hfail
      cases hfail
    · rename_i hnamed
      simp only [Bool.or_eq_true, Bool.not_eq_true', not_or, Bool.not_eq_false] at hnamed
      cases stack with
      | nil =>
          intro hfail
          cases hfail
      | cons actual remaining =>
          simp only [TDepth.at, verifyTopFiniteSubject]
          split
          · intro hfail
            cases hfail
          · rename_i hactual
            simp only [Bool.or_eq_true, Bool.not_eq_true', not_or, Bool.not_eq_false] at hactual
            intro _
            refine ⟨⟨remaining, rfl, Nat.le_succ _, ?_⟩, hpoison⟩
            refine .finiteMatch hnamed.1 ?_ hvalid hactual.1 hactual.2
            rintro rfl
            exact hnonempty rfl

theorem verifyTopBin_advances {ty : SemType} {op s e : Nat} (hok : (verifyTopBin src (.at ops stack) rest ty).ok = true) :
    Advances src (.tBin op ty s e) rest stack (verifyTopBin src (.at ops stack) rest ty) := by
  revert hok
  rw [verifyTopBin]
  split
  · nofun
  · rename_i hpoison
    match stack with
    | [] => nofun
    | [_] => nofun
    | right :: left :: remaining =>
        simp only [TDepth.at, verifyTopBinInner, verifyTopBinEq]
        split
        · nofun
        · rename_i heq
          simp only [Bool.not_eq_true', Bool.not_eq_false] at heq
          intro _
          refine ⟨⟨remaining, rfl, ?_, .binary heq⟩, eq_false_of_ne_true hpoison⟩
          exact Nat.le_trans (Nat.le_succ _) (Nat.le_succ _)

theorem verifyTopCall_advances {ty : SemType} {argc s e ns ne : Nat} {params : List Bind} {identity : SemanticIdentity}
    {effects : List EffectIdentity} {capabilities : List CapabilityIdentity} (hbound : stack.length ≤ 1024)
    (hok : (verifyTopCall (.at ops stack) rest ty argc effects capabilities).ok = true) :
    Advances src (.tCall ty argc params s e ns ne identity effects capabilities) rest stack
      (verifyTopCall (.at ops stack) rest ty argc effects capabilities) := by
  revert hok
  rw [verifyTopCall]
  split
  · nofun
  · rename_i hvalid
    simp only [Bool.or_eq_true, Bool.not_eq_true', not_or, Bool.not_eq_true, Bool.not_eq_false] at hvalid
    split
    · nofun
    · rename_i hargc
      replace hargc : argc ≤ stack.length := Nat.le_of_not_lt hargc
      intro _
      simp only [TDepth.at, popTys_eq (Nat.le_trans hargc hbound) hargc, Bool.not_true, Bool.false_eq_true, if_false]
      refine ⟨⟨stack.drop argc, ?_, ?_, ?_⟩, hvalid.1⟩
      · simp [TDepth.at, TOp.ty]
      · simp
      · obtain ⟨operands, remaining, rfl, rfl⟩ := exists_append_of_le hargc
        rw [List.drop_left]
        exact .call hvalid.2

theorem verifyTopEnumConstruct_advances {ty : SemType} {fieldCount vs ve s e : Nat} {params : List Bind}
    (hbound : stack.length < 1024)
    (hok : (verifyTopEnumConstruct src (.at ops stack) rest ty fieldCount params vs ve s e).ok = true) :
    Advances src (.tEnumConstruct ty vs ve fieldCount params s e) rest stack
      (verifyTopEnumConstruct src (.at ops stack) rest ty fieldCount params vs ve s e) := by
  revert hok
  rw [verifyTopEnumConstruct, bindCount_eq]
  split
  · nofun
  · rename_i hshape
    simp only [Bool.or_eq_true, Bool.not_eq_true', decide_eq_true_eq, not_or, Bool.not_eq_true, Bool.not_eq_false, ne_eq,
      not_not] at hshape
    obtain ⟨⟨⟨hpoison, hnamed⟩, hcount⟩, hsource⟩ := hshape
    split
    · nofun
    · rename_i hdepth
      replace hdepth : fieldCount ≤ stack.length := Nat.le_of_not_lt hdepth
      -- the stack is shorter than the bound of the count, so the count is exact
      obtain rfl : params.length = fieldCount := by omega
      simp only [TDepth.at, popTys_eq (by omega) hdepth, Bool.not_true, Bool.false_or]
      split
      · nofun
      · rename_i hoperands
        simp only [Bool.not_eq_true', Bool.not_eq_false] at hoperands
        obtain ⟨operands, remaining, rfl, hlength, hoperands⟩ :=
          operands_of_constructOperandTypesMatch (by omega) hoperands
        intro _
        refine ⟨⟨remaining, ?_, ?_, .enumConstruct hnamed hsource hoperands⟩, hpoison⟩
        · simp [TDepth.at, TOp.ty, ← hlength]
        · simp

theorem verifyTopRecordConstruct_advances {ty : SemType} {hasBase : Bool} {fieldCount ts te s e : Nat}
    {params : List Bind} (hbound : stack.length < 1024)
    (hok : (verifyTopRecordConstruct src (.at ops stack) rest ty hasBase fieldCount params ts te s e).ok = true) :
    Advances src (.tRecordConstruct ty ts te hasBase fieldCount params s e) rest stack
      (verifyTopRecordConstruct src (.at ops stack) rest ty hasBase fieldCount params ts te s e) := by
  revert hok
  simp only [verifyTopRecordConstruct, bindCount_eq]
  generalize hinput : fieldCount + (if hasBase = true then 1 else 0) = inputCount
  split
  · nofun
  · rename_i hshape
    simp only [Bool.or_eq_true, Bool.not_eq_true', decide_eq_true_eq, not_or, Bool.not_eq_true, Bool.not_eq_false, ne_eq,
      not_not] at hshape
    obtain ⟨⟨⟨hpoison, hnamed⟩, hcount⟩, hsource⟩ := hshape
    split
    · nofun
    · rename_i hdepth
      replace hdepth : inputCount ≤ stack.length := Nat.le_of_not_lt hdepth
      have hfields : fieldCount ≤ stack.length := by omega
      obtain rfl : params.length = fieldCount := by omega
      simp only [TDepth.at, popTys_eq (by omega) hdepth, popTys_eq (by omega) hfields, Bool.not_true, Bool.false_or]
      split
      · nofun
      · rename_i hoperands
        simp only [Bool.not_eq_true', Bool.not_eq_false] at hoperands
        obtain ⟨operands, remaining, rfl, hlength, hoperands⟩ :=
          operands_of_constructOperandTypesMatch (by omega) hoperands
        have hdrop : (operands ++ remaining).drop params.length = remaining := by rw [← hlength, List.drop_left]
        rw [hdrop]
        cases hasBase with
        | false =>
            obtain rfl : params.length = inputCount := hinput
            rw [hdrop]
            intro _
            refine ⟨⟨remaining, ?_, ?_, .recordConstruct hnamed hsource hoperands⟩, hpoison⟩
            · simp [TDepth.at, TOp.ty, hlength]
            · simp
        | true =>
            obtain rfl : params.length + 1 = inputCount := hinput
            cases remaining with
            | nil =>
                rw [List.append_nil] at hdepth
                omega
            | cons base remaining =>
                simp only [recordUpdateBaseMatches, Bool.true_and]
                split
                · nofun
                · rename_i hbase
                  simp only [Bool.not_eq_true', Bool.not_eq_false] at hbase
                  have htail : (operands ++ base :: remaining).drop (params.length + 1) = remaining := by
                    rw [← List.drop_drop, hdrop, List.drop_one, List.tail_cons]
                  have hheight : (operands ++ base :: remaining).length - (params.length + 1) + 1 =
                      (ty :: remaining).length := by
                    rw [List.length_append, List.length_cons, List.length_cons, hlength]
                    omega
                  rw [htail, hheight]
                  intro _
                  refine ⟨⟨remaining, rfl, ?_, .recordUpdate hnamed hsource ‹_› hbase⟩, hpoison⟩
                  rw [List.length_append, List.length_cons]
                  omega

theorem verifyTopProj_advances {ty : SemType} {index fs fe s e : Nat}
    (hok : (verifyTopProj src (.at ops stack) rest ty index fs fe s e).ok = true) :
    Advances src (.tProj ty fs fe index s e) rest stack (verifyTopProj src (.at ops stack) rest ty index fs fe s e) := by
  revert hok
  rw [verifyTopProj]
  split
  · nofun
  · rename_i hpoison
    replace hpoison := eq_false_of_ne_true hpoison
    cases stack with
    | nil => nofun
    | cons base remaining =>
        simp only [TDepth.at, verifyTopProjBase]
        split
        · -- the length of a sequence
          rename_i hindex
          subst hindex
          simp only [verifyTopSequenceLength]
          split
          · nofun
          · rename_i hsource
            simp only [Bool.or_eq_true, Bool.not_eq_true', decide_eq_true_eq, not_or, Bool.not_eq_false] at hsource
            obtain ⟨⟨⟨⟨hty, hparsed⟩, -⟩, -⟩, hlen⟩ := hsource
            cases base with
            | tSeq | tSeqExact _ _ _ =>
                intro _
                exact ⟨⟨remaining, rfl, Nat.le_succ _, .length hty rfl hparsed hlen⟩, hpoison⟩
            | tBool | tByte | tInt _ _ | tNamed _ _ | tPoison => nofun
        · rename_i hindex
          cases base with
          | tNamed ns ne =>
              intro _
              exact ⟨⟨remaining, rfl, Nat.le_succ _, .project hindex⟩, hpoison⟩
          | tBool | tByte | tInt _ _ | tSeq | tSeqExact _ _ _ | tPoison => nofun

/-- The operations with a slot of their own: index, cast, selection and view. -/
theorem verifyTopSpecialOp_advances {ty : SemType} {slot argc ns ne s e : Nat} {identity : SemanticIdentity}
    (hpoison : isPoison ty = false) (hanchor : Anchored src slot ty argc ns ne identity s e)
    (hok : (verifyTopSpecialOp src (.at ops stack) rest slot ty argc).ok = true) :
    Advances src (.tOp slot ty argc ns ne identity s e) rest stack
      (verifyTopSpecialOp src (.at ops stack) rest slot ty argc) := by
  revert hok
  rw [verifyTopSpecialOp]
  split
  · nofun
  split
  · rename_i hslot
    subst hslot
    match stack with
    | [] => nofun
    | [_] => nofun
    | index :: base :: remaining =>
        simp only [verifyTopSequenceIndex, TDepth.at, verifyTopSequenceIndexBase, verifyTopSequenceIndexTypes]
        split
        · nofun
        · rename_i htypes
          simp only [Bool.or_eq_true, Bool.not_eq_true', not_or, Bool.not_eq_false] at htypes
          obtain ⟨⟨⟨hbase, -⟩, hindex⟩, helement⟩ := htypes
          intro _
          refine ⟨⟨remaining, rfl, ?_, .index hanchor hindex hbase helement⟩, hpoison⟩
          exact Nat.le_add_right _ 2
  split
  · rename_i hslot
    subst hslot
    match stack with
    | [] => nofun
    | value :: remaining =>
        simp only [verifyTopCast, TDepth.at, verifyTopCastTypes]
        split
        · nofun
        · rename_i htypes
          simp only [Bool.or_eq_true, Bool.not_eq_true', not_or, Bool.not_eq_false] at htypes
          intro _
          exact ⟨⟨remaining, rfl, Nat.le_succ _, .cast hanchor htypes.1 htypes.2⟩, hpoison⟩
  split
  · rename_i hslot
    subst hslot
    match stack with
    | [] => nofun
    | [_] => nofun
    | [_, _] => nofun
    | no :: yes :: condition :: remaining =>
        simp only [verifyTopSelect, TDepth.at, verifyTopSelectTrue, verifyTopSelectCondition, verifyTopSelectTypes]
        split
        · nofun
        · rename_i htypes
          simp only [Bool.or_eq_true, Bool.not_eq_true', not_or, Bool.not_eq_false] at htypes
          obtain ⟨⟨hcondition, hsame⟩, hty⟩ := htypes
          intro _
          refine ⟨⟨remaining, rfl, ?_, .select hanchor hcondition hsame hty⟩, hpoison⟩
          exact Nat.le_add_right _ 3
  split
  · rename_i hslot
    subst hslot
    rw [verifyTopSequenceView]
    split
    · nofun
    match stack with
    | [] => nofun
    | [_] => nofun
    | [_, _] => nofun
    | last :: first :: base :: remaining =>
        simp only [TDepth.at, verifyTopSequenceViewStart, verifyTopSequenceViewBase, verifyTopSequenceViewTypes]
        split
        · nofun
        · rename_i htypes
          simp only [Bool.or_eq_true, Bool.not_eq_true', not_or, Bool.not_eq_false] at htypes
          obtain ⟨⟨⟨hbase, hfirst⟩, hlast⟩, hty⟩ := htypes
          intro _
          refine ⟨⟨remaining, rfl, ?_, .view hanchor hbase hfirst hlast hty⟩, hpoison⟩
          exact Nat.le_add_right _ 3
  · nofun

theorem verifyTopOp_advances {ty : SemType} {slot argc ns ne s e : Nat} {identity : SemanticIdentity}
    (hbound : stack.length ≤ 1024)
    (hok : (verifyTopOp src (.at ops stack) rest slot ty argc ns ne identity s e).ok = true) :
    Advances src (.tOp slot ty argc ns ne identity s e) rest stack
      (verifyTopOp src (.at ops stack) rest slot ty argc ns ne identity s e) := by
  revert hok
  rw [verifyTopOp]
  split
  · nofun
  rename_i hshape
  simp only [Bool.or_eq_true, Bool.not_eq_true', decide_eq_true_eq, not_or, Bool.not_eq_true, Bool.not_eq_false, ne_eq,
    not_not] at hshape
  obtain ⟨⟨⟨-, hargc⟩, hpoison⟩, -⟩ := hshape
  split
  · nofun
  rename_i hresult
  split
  · nofun
  rename_i hidentity
  split
  · nofun
  rename_i hsource
  simp only [Bool.not_eq_true', Bool.not_eq_false] at hresult hidentity hsource
  have hanchor : Anchored src slot ty argc ns ne identity s e := ⟨hargc, hresult, hidentity, hsource⟩
  split
  · exact verifyTopSpecialOp_advances hpoison hanchor
  rename_i hslot
  split
  · nofun
  · rename_i hdepth
    replace hdepth : argc ≤ stack.length := Nat.le_of_not_lt hdepth
    intro _
    simp only [TDepth.at, popTys_eq (Nat.le_trans hdepth hbound) hdepth, Bool.not_true, Bool.false_eq_true, if_false]
    obtain ⟨operands, remaining, rfl, rfl⟩ := exists_append_of_le hdepth
    refine ⟨⟨remaining, ?_, ?_, .host (Nat.lt_of_not_le hslot) hanchor⟩, hpoison⟩
    · simp [TDepth.at, TOp.ty]
    · simp

/-- **One operation.** A rule that accepts has found its operands; within its step bound the verifier counts and pops
    exactly. -/
theorem verifyTopOne_advances {op : TOp} (hbound : stack.length < 1024) (harms : op.armOps.length ≤ 1024)
    (hok : (verifyTopOne src (.at ops stack) op rest).ok = true) :
    Advances src op rest stack (verifyTopOne src (.at ops stack) op rest) := by
  cases op with
  | tInt _ ty _ _ =>
      obtain ⟨heq, hpoison⟩ := verifyTopPush_at hok
      exact ⟨⟨stack, heq, Nat.le_refl _, .integer⟩, hpoison⟩
  | tBool _ ty _ _ =>
      obtain ⟨heq, hpoison⟩ := verifyTopPush_at hok
      exact ⟨⟨stack, heq, Nat.le_refl _, .boolean⟩, hpoison⟩
  | tName ty _ _ =>
      obtain ⟨heq, hpoison⟩ := verifyTopPush_at hok
      exact ⟨⟨stack, heq, Nat.le_refl _, .name⟩, hpoison⟩
  | tNot _ _ _ => exact verifyTopNot_advances hok
  | tRepeat _ _ _ _ _ => exact verifyTopRepeat_advances hok
  | tMatch _ _ arms _ _ _ _ =>
      rw [TOp.armOps, List.length_map] at harms
      exact verifyTopMatch_advances harms hok
  | tFiniteMatch _ _ arms _ _ _ =>
      rw [TOp.armOps, List.length_map] at harms
      exact verifyTopFiniteMatch_advances harms hok
  | tEnumConstruct _ _ _ _ _ _ _ => exact verifyTopEnumConstruct_advances hbound hok
  | tRecordConstruct _ _ _ _ _ _ _ _ => exact verifyTopRecordConstruct_advances hbound hok
  | tBin _ _ _ _ => exact verifyTopBin_advances hok
  | tCall _ _ _ _ _ _ _ _ _ _ => exact verifyTopCall_advances (Nat.le_of_lt hbound) hok
  | tProj _ _ _ _ _ _ => exact verifyTopProj_advances hok
  | tOp _ _ _ _ _ _ _ _ => exact verifyTopOp_advances (Nat.le_of_lt hbound) hok

end Rules

/-! ## The worklist -/

/-- The frame of an arm that is still owed its check. -/
def armFrame (ty : SemType) (ops : List TOp) : VerifyFrame := { depth := .at ops [], want := .xSome ty }

section Queue

variable {src : Source} {pending : List VerifyFrame} {ty : SemType}

/-- The counts that queueing asks for are those that the rule of the match has checked. -/
theorem typedFiniteArm_counts {arms : List TypedFiniteMatchArm} (h : typedFiniteMatchArmsValid src arms = true) :
    ∀ arm ∈ arms.take 1024, 0 < arm.opCount ∧ arm.opCount = countTops arm.ops := by
  rw [typedFiniteMatchArmsValid] at h
  refine (iterate_checked TypedFiniteArmValidity.rest TypedFiniteArmValidity.ok (fun _ => ())
    (fun _ arm => 0 < arm.opCount ∧ arm.opCount = countTops arm.ops) ?_ ?_ ?_ h).2
  · intro st hst
    simp [typedFiniteArmValidStep, hst]
  · intro st hst
    simp [typedFiniteArmValidStep, hst]
  · intro st arm t hok hst
    simp only [typedFiniteArmValidStep, hok, hst, typedFiniteArmValidOne, Bool.not_true, Bool.false_eq_true, if_false,
      Bool.and_eq_true, decide_eq_true_eq, true_and]
    rintro ⟨⟨⟨⟨hpos, hcount⟩, -⟩, -⟩, -⟩
    exact ⟨hcount ▸ hpos, hcount⟩

theorem typedScalarArm_counts {arms : List TypedScalarMatchArm} (h : typedScalarMatchArmsValid arms = true) :
    ∀ arm ∈ arms.take 1024, 0 < arm.opCount ∧ arm.opCount = countTops arm.ops := by
  rw [typedScalarMatchArmsValid] at h
  refine (iterate_checked TypedScalarArmValidity.rest TypedScalarArmValidity.ok (fun _ => ())
    (fun _ arm => 0 < arm.opCount ∧ arm.opCount = countTops arm.ops) ?_ ?_ ?_ h).2
  · intro st hst
    simp [typedScalarArmValidStep, hst]
  · intro st hst
    simp [typedScalarArmValidStep, hst]
  · intro st arm t hok hst
    simp only [typedScalarArmValidStep, hok, hst, typedScalarArmValidOne, Bool.not_true, Bool.false_eq_true, if_false,
      Bool.and_eq_true, decide_eq_true_eq, true_and]
    rintro ⟨hpos, hcount⟩
    exact ⟨hcount ▸ hpos, hcount⟩

theorem iterate_queueTypedFiniteMatchArmStep (k : Nat) {arms : List TypedFiniteMatchArm}
    (hcounts : ∀ arm ∈ arms.take k, 0 < arm.opCount ∧ arm.opCount = countTops arm.ops) :
    queueTypedFiniteMatchArmStep^[k] { rest := arms, ty := ty, pending := pending, ok := true } =
      { rest := arms.drop k, ty := ty
        pending := ((arms.take k).map fun arm => armFrame ty arm.ops).reverse ++ pending, ok := true } := by
  induction k generalizing arms pending with
  | zero => rfl
  | succ k ih =>
      rw [Function.iterate_succ_apply]
      cases arms with
      | nil => simpa [queueTypedFiniteMatchArmStep] using @ih pending [] (by simp)
      | cons arm arms =>
          obtain ⟨hpos, hcount⟩ := hcounts arm List.mem_cons_self
          have hstep : queueTypedFiniteMatchArmStep { rest := arm :: arms, ty := ty, pending := pending, ok := true } =
              { rest := arms, ty := ty, pending := armFrame ty arm.ops :: pending, ok := true } := by
            simp [queueTypedFiniteMatchArmStep, queueOneTypedFiniteMatchArm, hpos, ← hcount, armFrame, TDepth.at]
          rw [hstep, ih fun a ha => hcounts a (List.mem_cons_of_mem _ ha)]
          simp

theorem iterate_queueTypedScalarMatchArmStep (k : Nat) {arms : List TypedScalarMatchArm}
    (hcounts : ∀ arm ∈ arms.take k, 0 < arm.opCount ∧ arm.opCount = countTops arm.ops) :
    queueTypedScalarMatchArmStep^[k] { rest := arms, ty := ty, pending := pending, ok := true } =
      { rest := arms.drop k, ty := ty
        pending := ((arms.take k).map fun arm => armFrame ty arm.ops).reverse ++ pending, ok := true } := by
  induction k generalizing arms pending with
  | zero => rfl
  | succ k ih =>
      rw [Function.iterate_succ_apply]
      cases arms with
      | nil => simpa [queueTypedScalarMatchArmStep] using @ih pending [] (by simp)
      | cons arm arms =>
          obtain ⟨hpos, hcount⟩ := hcounts arm List.mem_cons_self
          have hstep : queueTypedScalarMatchArmStep { rest := arm :: arms, ty := ty, pending := pending, ok := true } =
              { rest := arms, ty := ty, pending := armFrame ty arm.ops :: pending, ok := true } := by
            simp [queueTypedScalarMatchArmStep, queueOneTypedScalarMatchArm, hpos, ← hcount, armFrame, TDepth.at]
          rw [hstep, ih fun a ha => hcounts a (List.mem_cons_of_mem _ ha)]
          simp

/-- **Nothing is dropped.** An accepted match puts the frames of its arms in front of the frames already owed. -/
theorem queueFiniteMatchChecks_eq {op : TOp} {d : TDepth} {rest : List TOp}
    (hok : (verifyTopOne src d op rest).ok = true) :
    queueFiniteMatchChecks op pending = ((op.armOps.take 1024).map (armFrame op.ty)).reverse ++ pending := by
  cases op with
  | tMatch ty subjectTy arms armCount defaultCount s e =>
      have hvalid : typedScalarMatchArmsValid arms = true := by
        revert hok
        simp only [verifyTopOne, verifyTopMatch]
        split
        · nofun
        split
        · nofun
        · rename_i h
          simp only [Bool.or_eq_true, Bool.not_eq_true', not_or, Bool.not_eq_false] at h
          exact fun _ => h.1.2
      rw [queueFiniteMatchChecks, queueTypedScalarMatchArms,
        iterate_queueTypedScalarMatchArmStep 1024 (typedScalarArm_counts hvalid)]
      simp only [Bool.not_true, Bool.false_eq_true, if_false, TOp.armOps, TOp.ty, ← List.map_take, List.map_map]
      rfl
  | tFiniteMatch ty subjectTy arms armCount s e =>
      have hvalid : typedFiniteMatchArmsValid src arms = true := by
        revert hok
        simp only [verifyTopOne, verifyTopFiniteMatch]
        split
        · nofun
        · rename_i h
          simp only [Bool.or_eq_true, Bool.not_eq_true', not_or, Bool.not_eq_false] at h
          exact fun _ => h.2
      rw [queueFiniteMatchChecks, queueTypedFiniteMatchArms,
        iterate_queueTypedFiniteMatchArmStep 1024 (typedFiniteArm_counts hvalid)]
      simp only [Bool.not_true, Bool.false_eq_true, if_false, TOp.armOps, TOp.ty, ← List.map_take, List.map_map]
      rfl
  | tInt _ _ _ _ | tBool _ _ _ _ | tName _ _ _ | tNot _ _ _ | tRepeat _ _ _ _ _ | tEnumConstruct _ _ _ _ _ _ _
  | tRecordConstruct _ _ _ _ _ _ _ _ | tBin _ _ _ _ | tCall _ _ _ _ _ _ _ _ _ _ | tProj _ _ _ _ _ _
  | tOp _ _ _ _ _ _ _ _ => rfl

end Queue

section Run

variable {src : Source} {st : VerifyMachine}

/-- The states of the verifier on `ops`. -/
def verifyRun (src : Source) (ops : List TOp) (want : ExpTy) (k : Nat) : VerifyMachine :=
  (verifyTopsMachineStep src)^[k]
    { current := { depth := .at ops [], want := want }, pending := [], ok := true, done := false }

/-- A run that has ended well. -/
def Accepts (src : Source) (n : Nat) (st : VerifyMachine) : Prop :=
  ((verifyTopsMachineStep src)^[n] st).ok = true ∧ ((verifyTopsMachineStep src)^[n] st).done = true

theorem Accepts.ok {n : Nat} (h : Accepts src n st) : st.ok = true := by
  cases hok : st.ok with
  | true => rfl
  | false =>
      have hfix : verifyTopsMachineStep src st = st := by simp [verifyTopsMachineStep, hok]
      obtain ⟨hrun, -⟩ := h
      rw [Function.iterate_fixed hfix, hok] at hrun
      cases hrun

theorem Accepts.step {n : Nat} (h : Accepts src (n + 1) st) : Accepts src n (verifyTopsMachineStep src st) := by
  rw [Accepts, Function.iterate_succ_apply] at h
  exact h

/-- **One step** of a run that ends well: a frame is finished and the newest one owed is taken up, or an operation is
    accepted and the arms of a match join the frames owed. -/
inductive MachineStep (src : Source) (st : VerifyMachine) : VerifyMachine → Prop
  | finished (hrest : st.current.depth.rest = []) (hdepth : finishVerifyTops src st.current.depth st.current.want = true)
      (hpending : st.pending = []) : MachineStep src st { st with pending := [], done := true }
  | popped {f fs} (hrest : st.current.depth.rest = [])
      (hdepth : finishVerifyTops src st.current.depth st.current.want = true) (hpending : st.pending = f :: fs) :
      MachineStep src st { current := f, pending := fs, ok := true, done := false }
  | advanced {op rest} (hrest : st.current.depth.rest = op :: rest)
      (hop : (verifyTopOne src st.current.depth op rest).ok = true) :
      MachineStep src st
        { current := { depth := verifyTopOne src st.current.depth op rest, want := st.current.want }
          pending := ((op.armOps.take 1024).map (armFrame op.ty)).reverse ++ st.pending, ok := true, done := false }

theorem Accepts.machineStep {n : Nat} (h : Accepts src (n + 1) st) (hdone : st.done = false) :
    MachineStep src st (verifyTopsMachineStep src st) := by
  have hnext := h.step.ok
  revert hnext
  rw [verifyTopsMachineStep, h.ok, hdone]
  cases hrest : st.current.depth.rest with
  | nil =>
      show (finishVerifyFrame src st).ok = true → MachineStep src st (finishVerifyFrame src st)
      simp only [finishVerifyFrame]
      split
      · intro hfail
        cases hfail
      · rename_i hfinish
        simp only [Bool.not_eq_true', Bool.not_eq_false] at hfinish
        intro _
        cases hpending : st.pending with
        | nil => exact .finished hrest hfinish hpending
        | cons f fs => exact .popped hrest hfinish hpending
  | cons op rest =>
      show (advanceVerifyFrame src st op rest).ok = true → MachineStep src st (advanceVerifyFrame src st op rest)
      simp only [advanceVerifyFrame]
      split
      · intro hfail
        cases hfail
      · rename_i hop
        simp only [Bool.not_eq_true', Bool.not_eq_false] at hop
        intro _
        rw [queueFiniteMatchChecks_eq hop]
        exact .advanced hrest hop

/-- A frame owed takes at least one step, so a run that ends well owes fewer than it has steps left. -/
theorem Accepts.pending_lt {n : Nat} (h : Accepts src n st) (hdone : st.done = false) : st.pending.length < n := by
  induction n generalizing st with
  | zero =>
      obtain ⟨-, hend⟩ := h
      rw [Function.iterate_zero, id_eq, hdone] at hend
      cases hend
  | succ n ih =>
      have hstep := h.machineStep hdone
      have hrest := h.step
      generalize verifyTopsMachineStep src st = next at hstep hrest
      cases hstep with
      | finished _ _ hpending =>
          rw [hpending]
          exact Nat.zero_lt_succ n
      | popped _ _ hpending =>
          rw [hpending]
          exact Nat.succ_lt_succ (ih hrest rfl)
      | advanced _ _ =>
          have hlt := ih hrest rfl
          rw [List.length_append] at hlt
          omega

/-- A frame owed becomes the current one before the run ends. -/
theorem Accepts.becomes_current {n : Nat} (h : Accepts src n st) (hdone : st.done = false) {f : VerifyFrame}
    (hf : f ∈ st.pending) : ∃ j, 0 < j ∧ j ≤ n ∧ ((verifyTopsMachineStep src)^[j] st).current = f := by
  induction n generalizing st with
  | zero =>
      obtain ⟨-, hend⟩ := h
      rw [Function.iterate_zero, id_eq, hdone] at hend
      cases hend
  | succ n ih =>
      have hstep := h.machineStep hdone
      have hrest := h.step
      generalize hnext : verifyTopsMachineStep src st = next at hstep hrest
      -- what is still owed after the step becomes current later
      have hlater : next.done = false → f ∈ next.pending →
          ∃ j, 0 < j ∧ j ≤ n + 1 ∧ ((verifyTopsMachineStep src)^[j] st).current = f := by
        intro hd hmem
        obtain ⟨j, hpos, hle, hcur⟩ := ih hrest hd hmem
        refine ⟨j + 1, Nat.succ_pos j, Nat.succ_le_succ hle, ?_⟩
        rw [Function.iterate_succ_apply, hnext]
        exact hcur
      cases hstep with
      | finished _ _ hpending =>
          rw [hpending] at hf
          cases hf
      | popped _ _ hpending =>
          rw [hpending] at hf
          rcases List.mem_cons.mp hf with rfl | hf
          · refine ⟨1, Nat.one_pos, Nat.succ_le_succ (Nat.zero_le n), ?_⟩
            rw [Function.iterate_one, hnext]
          · exact hlater rfl hf
      | advanced _ _ => exact hlater rfl (List.mem_append_right _ hf)

/-- The verifier ends only when it owes nothing. -/
theorem verifyTopsMachineStep_done (h : st.done = true → st.pending = []) :
    (verifyTopsMachineStep src st).done = true → (verifyTopsMachineStep src st).pending = [] := by
  rw [verifyTopsMachineStep]
  split
  · exact h
  cases hrest : st.current.depth.rest with
  | nil =>
      simp only [finishVerifyFrame]
      split
      · exact h
      · cases hpending : st.pending with
        | nil => exact fun _ => rfl
        | cons f fs => nofun
  | cons op rest =>
      simp only [advanceVerifyFrame]
      split
      · exact h
      · nofun

theorem verifyRun_done (ops : List TOp) (want : ExpTy) (k : Nat) :
    (verifyRun src ops want k).done = true → (verifyRun src ops want k).pending = [] := by
  induction k with
  | zero => exact fun _ => rfl
  | succ k ih =>
      rw [verifyRun, Function.iterate_succ_apply']
      exact verifyTopsMachineStep_done ih

theorem finishVerifyTops_at {rest : List TOp} {stack : List SemType} {want : ExpTy}
    (h : finishVerifyTops src (.at rest stack) want = true) : ∃ result, stack = [result] ∧ Meets src want result := by
  by_cases hlength : stack.length = 1
  · obtain ⟨result, rfl⟩ := List.length_eq_one_iff.mp hlength
    refine ⟨result, rfl, ?_⟩
    cases want with
    | xNone => trivial
    | xSome ty =>
        replace h : finishVerifyTop src result ty = true := h
        rw [finishVerifyTop] at h
        split at h
        · cases h
        · rename_i hpoison
          simp only [Bool.or_eq_true, not_or, Bool.not_eq_true] at hpoison
          exact ⟨hpoison.2, hpoison.1, h⟩
  · simp [finishVerifyTops, TDepth.at, hlength] at h

/-- **A run that ends well** has checked the rest of its frame, the arms in it and every frame it owed. -/
theorem Accepts.wellTyped {n : Nat} (h : Accepts src n st) (hdone : st.done = false) {ops : List TOp}
    {stack : List SemType} (hcurrent : st.current.depth = .at ops stack) (hroom : stack.length + n ≤ 1024)
    (hfresh : ∀ f ∈ st.pending, ∃ ops, f.depth = .at ops []) :
    (∃ result, Leaves src ops stack [result] ∧ Meets src st.current.want result) ∧
      (∀ op ∈ ops, ∀ arm ∈ op.armOps, WellTyped src arm (.xSome op.ty)) ∧
      ∀ f ∈ st.pending, WellTyped src f.depth.rest f.want := by
  induction n generalizing st ops stack with
  | zero => exact absurd (h.pending_lt hdone) (Nat.not_lt_zero _)
  | succ n ih =>
      have hstep := h.machineStep hdone
      have hrest := h.step
      generalize verifyTopsMachineStep src st = next at hstep hrest
      cases hstep with
      | finished hnil hfinish hpending =>
          rw [hcurrent] at hnil hfinish
          obtain rfl : ops = [] := hnil
          obtain ⟨result, rfl, hmeets⟩ := finishVerifyTops_at hfinish
          refine ⟨⟨result, .nil, hmeets⟩, fun op hop => ?_, fun f hf => ?_⟩
          · cases hop
          · rw [hpending] at hf
            cases hf
      | @popped f fs hnil hfinish hpending =>
          rw [hcurrent] at hnil hfinish
          obtain rfl : ops = [] := hnil
          obtain ⟨result, rfl, hmeets⟩ := finishVerifyTops_at hfinish
          rw [hpending] at hfresh
          obtain ⟨fops, hf⟩ := hfresh f List.mem_cons_self
          obtain ⟨⟨r, hleaves, hwant⟩, harms, hframes⟩ :=
            ih hrest rfl hf (by simp only [List.length_nil]; omega) fun g hg => hfresh g (List.mem_cons_of_mem _ hg)
          refine ⟨⟨result, .nil, hmeets⟩, fun op hop => ?_, ?_⟩
          · cases hop
          · rw [hpending]
            intro g hg
            rcases List.mem_cons.mp hg with rfl | hg
            · rw [hf]
              exact .mk hleaves hwant harms
            · exact hframes g hg
      | @advanced op rest hcons hop =>
          rw [hcurrent] at hcons hop
          obtain rfl : ops = op :: rest := hcons
          -- the arms fit the queue, or the steps would not be enough for them
          have hlt := hrest.pending_lt rfl
          simp only [List.length_append, List.length_reverse, List.length_map, List.length_take] at hlt
          obtain ⟨⟨remaining, heq, hlength, happlies⟩, hpoison⟩ :=
            verifyTopOne_advances (by omega) (by omega) hop
          have htake : op.armOps.take 1024 = op.armOps := List.take_of_length_le (by omega)
          obtain ⟨⟨result, hleaves, hmeets⟩, harms, hframes⟩ := ih hrest rfl (hcurrent ▸ heq)
            (by simp only [List.length_cons]; omega) (by
              intro f hf
              rcases List.mem_append.mp hf with hf | hf
              · obtain ⟨arm, -, rfl⟩ := List.mem_map.mp (List.mem_reverse.mp hf)
                exact ⟨arm, rfl⟩
              · exact hfresh f hf)
          refine ⟨⟨result, .cons happlies hpoison hleaves, hmeets⟩, ?_, fun f hf => ?_⟩
          · intro o ho arm harm
            rcases List.mem_cons.mp ho with rfl | ho
            · refine hframes (armFrame o.ty arm) (List.mem_append_left _ ?_)
              rw [htake]
              exact List.mem_reverse.mpr (List.mem_map_of_mem harm)
            · exact harms o ho arm harm
          · exact hframes f (List.mem_append_right _ hf)

end Run

/-- **The typed-stack verifier is sound.** Accepted operations leave exactly one value of the type that is wanted, and
    so do the operations of every arm of every match in them; no frame that the verifier queues is lost. -/
theorem verifyTops_wellTyped (src : Source) (ops : List TOp) (want : ExpTy) (h : verifyTops src ops want = true) :
    WellTyped src ops want ∧
      ∀ k ≤ 1024, ∀ f ∈ (verifyRun src ops want k).pending,
        ∃ j, k < j ∧ j ≤ 1024 ∧ (verifyRun src ops want j).current = f := by
  have hrun : Accepts src 1024
      { current := { depth := .at ops [], want := want }, pending := [], ok := true, done := false } := by
    rw [verifyTops, Bool.and_eq_true] at h
    exact h
  constructor
  · obtain ⟨⟨result, hleaves, hmeets⟩, harms, -⟩ := hrun.wellTyped rfl rfl (by simp) fun f hf => by cases hf
    exact .mk hleaves hmeets harms
  · intro k hk f hf
    -- the run ends well from its `k`-th state, which has not ended yet while it owes a frame
    obtain ⟨d, hd⟩ := Nat.exists_eq_add_of_le' hk
    have htail : Accepts src d (verifyRun src ops want k) := by
      rw [Accepts, verifyRun, ← Function.iterate_add_apply, ← hd]
      exact hrun
    have hdone : (verifyRun src ops want k).done = false := by
      apply eq_false_of_ne_true
      intro hend
      rw [verifyRun_done ops want k hend] at hf
      cases hf
    obtain ⟨j, hpos, hle, hcur⟩ := htail.becomes_current hdone hf
    refine ⟨j + k, by omega, by omega, ?_⟩
    rw [verifyRun, Function.iterate_add_apply]
    exact hcur

/-- A signed match whose default arm is a match again, over one name. -/
def nestedTypedMatch : List TOp :=
  let i64 : SemType := .tInt 64 true
  let name : TOp := .tName i64 0 1
  let last : TypedScalarMatchArm := .mk true false 0 false 0 1 [name] 1
  let inner : TOp := .tMatch i64 i64 [.mk false true 1 false 0 1 [name] 1, last] 2 1 0 1
  [name, .tMatch i64 i64 [.mk false false 7 false 0 1 [name] 1, .mk true false 0 false 0 1 [name, inner] 2] 2 1 0 1]

set_option maxRecDepth 4000 in
theorem verifyTops_wellTyped_nested :
    WellTyped { pages := [], stride := 0, total := 0 } nestedTypedMatch (.xSome (.tInt 64 true)) := by
  refine (verifyTops_wellTyped _ _ _ ?_).1
  simp -zeta only [↓iterate_eq_run, verifyTops, verifyTopsMachineStep, advanceVerifyFrame, verifyTopOne, verifyTopMatch,
    typedScalarMatchCount, typedScalarMatchArmsValid, typedScalarMatchPatternsOk, typedScalarMatchPatternStep,
    typedScalarMatchPatternCheckArm, patternSeen, queueFiniteMatchChecks, queueTypedScalarMatchArms]
  decide +kernel

end MncsCompiler.Decl
