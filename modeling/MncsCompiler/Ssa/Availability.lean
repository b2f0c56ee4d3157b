import MncsCompiler.Ssa.Evaluation
import MncsCompiler.Ssa.Scopes

/-!
# `Ssa.Availability` — values in scope that the block can read

What `lower_one_block` has in scope names values of the SSA block at hand: inputs of the function, parameters of the
block, results of its instructions. Inside an expression this always holds: a match remaps its scope to the parameters
of the join. Between the expressions of a block it holds as long as a match does not carry older values over:
`lower_expression` binds the result in the scope before the expression, whose values belong to the block that the match
has left.
-/

namespace MncsCompiler.Ssa

open BoundedLoop Decl Flow Halting

/-- A value that a block can read once it has emitted some instructions. -/
def Available (inputs parameters : List Value) (instructions : List Instruction) (id : Nat) : Prop :=
  (∃ v ∈ inputs, v.id = id) ∨ (∃ v ∈ parameters, v.id = id) ∨ ∃ inst ∈ instructions, inst.result = id

instance (inputs parameters : List Value) (instructions : List Instruction) (id : Nat) :
    Decidable (Available inputs parameters instructions id) :=
  inferInstanceAs (Decidable (_ ∨ _ ∨ _))

theorem Available.mono {inputs parameters : List Value} {instructions instructions' : List Instruction} {id : Nat}
    (h : Available inputs parameters instructions id) (hinsts : instructions <:+ instructions') :
    Available inputs parameters instructions' id :=
  h.imp_right fun h => h.imp_right fun ⟨i, hi, hid⟩ => ⟨i, hinsts.subset hi, hid⟩

theorem Available.cons {inputs parameters : List Value} {instructions : List Instruction} {id : Nat}
    (h : Available inputs parameters instructions id) (inst : Instruction) :
    Available inputs parameters (inst :: instructions) id :=
  h.mono (List.suffix_cons inst instructions)

/-! ## Inside an expression -/

structure ExprBuild.Scoped (inputs : List Value) (st : ExprBuild) : Prop where
  env : ∀ b ∈ st.env, Available inputs st.parameters st.instructions b.value
  stack : ∀ v ∈ st.stack, Available inputs st.parameters st.instructions v.id

section Expression

variable {src : Source} {inputs : List Value}

theorem Operates.ok_mono {st st' : ExprBuild} {rest : List TOp} (h : Operates st rest st') (hok : st'.ok = true) :
    st.ok = true := by
  cases h with
  | reject => cases hok
  | push hb hv => exact hok
  | emit hstack hresult hid hsequence => exact ((Bool.and_eq_true _ _).mp hok).1

theorem Operates.scoped {st st' : ExprBuild} {rest : List TOp} (h : Operates st rest st') (hst : st.Scoped inputs) :
    st'.Scoped inputs := by
  cases h with
  | reject => exact ⟨hst.env, hst.stack⟩
  | @push b v hb hv =>
      refine ⟨hst.env, ?_⟩
      intro w hw
      rcases List.mem_cons.mp hw with rfl | hw
      · show Available inputs st.parameters st.instructions w.id
        rw [hv.1]
        exact hst.env b hb
      · exact hst.stack w hw
  | @emit remaining inst ok failureOp hstack hresult hid hsequence =>
      refine ⟨fun b hb => (hst.env b hb).cons inst, ?_⟩
      intro w hw
      rcases List.mem_cons.mp hw with rfl | hw
      · exact .inr (.inr ⟨inst, List.mem_cons_self, hresult⟩)
      · exact (hst.stack w (hstack.subset hw)).cons inst

/-- The arms of a match leave its join alone. -/
theorem iterate_armStep_join {f : Form} (n : Nat) (ctx : ArmBuild f) :
    ((armStep src)^[n] ctx).joinEnv = ctx.joinEnv ∧ ((armStep src)^[n] ctx).joinStack = ctx.joinStack ∧
      ((armStep src)^[n] ctx).joinParams = ctx.joinParams ∧
      ((armStep src)^[n] ctx).joinResult = ctx.joinResult := by
  induction n generalizing ctx with
  | zero => exact ⟨rfl, rfl, rfl, rfl⟩
  | succ n ih =>
      rw [Function.iterate_succ_apply]
      obtain ⟨henv, hstack, hparams, hresult⟩ := ih (armStep src ctx)
      rw [henv, hstack, hparams, hresult, armStep]
      split
      · exact ⟨rfl, rfl, rfl, rfl⟩
      · rw [lowerArm]
        exact ⟨rfl, rfl, rfl, rfl⟩

/-- The join of a match reads its scope and its operands from its own parameters. -/
theorem lowerMatchSubject_scoped {f : Form} {st : ExprBuild} {rest : List TOp} {resultTy subjectTy : SemType}
    {arms : List f.Arm} {armCount start stop : Nat} {subject : Value} {baseStack : List Value} {own : f.Own}
    {basicOk : Bool} (hst : st.Scoped inputs) :
    (lowerMatchSubject src st rest resultTy subjectTy arms armCount start stop subject baseStack own
      basicOk).Scoped inputs := by
  unfold lowerMatchSubject
  split
  · exact ⟨hst.env, hst.stack⟩
  · dsimp only
    obtain ⟨henv, hstack, hparams, hresult⟩ :=
      @iterate_armStep_join src f 1024
        (openMatch src st rest resultTy subjectTy arms armCount start stop subject baseStack own)
    generalize (armStep src)^[1024]
      (openMatch src st rest resultTy subjectTy arms armCount start stop subject baseStack own) = built at *
    rw [openMatch, matchContextParameters_eq] at henv hstack hparams hresult
    dsimp only at henv hstack hparams hresult
    constructor
    · intro b hb
      rw [show (assembleMatch _ built).env = built.joinEnv from rfl, henv] at hb
      obtain ⟨v, hv, hid⟩ := @scopeEnv_mem _ (st.nextBlockId + armCount) _ _ hb
      refine .inr (.inl ⟨v, ?_, hid⟩)
      rw [show (assembleMatch _ built).parameters = built.joinParams from rfl, hparams]
      exact List.mem_cons_of_mem _ (List.mem_append_right _ (List.mem_reverse.mpr hv))
    · intro v hv
      refine .inr (.inl ⟨v, ?_, rfl⟩)
      rw [show (assembleMatch _ built).parameters = built.joinParams from rfl, hparams]
      rw [show (assembleMatch _ built).stack = built.joinResult :: built.joinStack from rfl, hresult, hstack] at hv
      rcases List.mem_cons.mp hv with rfl | hv
      · exact List.mem_cons_self
      · exact List.mem_cons_of_mem _ (List.mem_append_left _ (List.mem_reverse.mpr hv))

theorem lowerMatchSubject_ok_mono {f : Form} {st : ExprBuild} {rest : List TOp} {resultTy subjectTy : SemType}
    {arms : List f.Arm} {armCount start stop : Nat} {subject : Value} {baseStack : List Value} {own : f.Own}
    {basicOk : Bool}
    (hok : (lowerMatchSubject src st rest resultTy subjectTy arms armCount start stop subject baseStack own
      basicOk).ok = true) : st.ok = true := by
  rw [lowerMatchSubject] at hok
  split at hok
  · cases hok
  · exact ((Bool.and_eq_true _ _).mp hok).1

/-- Operations keep what is in scope readable. -/
theorem lowerOperation_scoped {st : ExprBuild} (operation : TOp) (rest : List TOp) (hst : st.Scoped inputs) :
    (lowerOperation src st operation rest).Scoped inputs := by
  have hplain := (lowerArmOperation_operates src st operation rest).scoped hst
  unfold lowerOperation
  split
  · unfold lowerScalarMatch
    split
    · exact ⟨hst.env, hst.stack⟩
    · exact lowerMatchSubject_scoped hst
  · unfold lowerFiniteMatch
    split
    · exact ⟨hst.env, hst.stack⟩
    · exact lowerMatchSubject_scoped hst
  · exact hplain

/-- Operations never recover from a failure. -/
theorem lowerOperation_ok_mono {st : ExprBuild} {operation : TOp} {rest : List TOp}
    (hok : (lowerOperation src st operation rest).ok = true) : st.ok = true := by
  have hplain := (lowerArmOperation_operates src st operation rest).ok_mono
  unfold lowerOperation at hok
  split at hok
  · unfold lowerScalarMatch at hok
    split at hok
    · cases hok
    · exact lowerMatchSubject_ok_mono hok
  · unfold lowerFiniteMatch at hok
    split at hok
    · cases hok
    · exact lowerMatchSubject_ok_mono hok
  · exact hplain hok

theorem iterate_lowerOperationStep_scoped (n : Nat) {st : ExprBuild} (hst : st.Scoped inputs) :
    ((lowerOperationStep src)^[n] st).Scoped inputs := by
  apply Function.Iterate.rec (ExprBuild.Scoped inputs) hst
  intro st hst
  rw [lowerOperationStep]
  split
  · exact hst
  · exact lowerOperation_scoped _ _ hst

theorem iterate_lowerOperationStep_ok_mono (n : Nat) {st : ExprBuild}
    (hok : ((lowerOperationStep src)^[n] st).ok = true) : st.ok = true := by
  revert hok
  apply Function.Iterate.rec (fun st' : ExprBuild => st'.ok = true → st.ok = true) id
  intro st' ih hok
  rw [lowerOperationStep] at hok
  split at hok
  · exact ih hok
  · exact ih (lowerOperation_ok_mono hok)

/-! ## Expressions without matches -/

def isMatchOp (operation : TOp) : Bool :=
  match operation with
  | .tMatch _ _ _ _ _ _ _ => true
  | .tFiniteMatch _ _ _ _ _ _ => true
  | _ => false

/-- The same block, further on. -/
structure ExprBuild.Extends (st' st : ExprBuild) : Prop where
  parameters : st'.parameters = st.parameters
  instructions : st.instructions <:+ st'.instructions

theorem Operates.extends {st st' : ExprBuild} {rest : List TOp} (h : Operates st rest st') :
    st'.Extends st ∧ st'.rest = rest := by
  cases h with
  | reject => exact ⟨⟨rfl, List.suffix_rfl⟩, rfl⟩
  | push hb hv => exact ⟨⟨rfl, List.suffix_rfl⟩, rfl⟩
  | @emit remaining inst ok failureOp hstack hresult hid hsequence =>
      exact ⟨⟨rfl, List.suffix_cons inst st.instructions⟩, rfl⟩

theorem lowerOperation_of_not_match {st : ExprBuild} {operation : TOp} {rest : List TOp}
    (h : isMatchOp operation = false) : lowerOperation src st operation rest = lowerArmOperation src st operation rest := by
  unfold lowerOperation
  split
  · cases h
  · cases h
  · rfl

/-- Without matches an expression stays in its block. -/
theorem iterate_lowerOperationStep_extends (n : Nat) {st : ExprBuild}
    (hplain : ∀ operation ∈ st.rest.take n, isMatchOp operation = false) :
    ((lowerOperationStep src)^[n] st).Extends st := by
  induction n generalizing st with
  | zero => exact ⟨rfl, List.suffix_rfl⟩
  | succ n ih =>
      rw [Function.iterate_succ_apply]
      cases hrest : st.rest with
      | nil =>
          have hstep : lowerOperationStep src st = st := by rw [lowerOperationStep, hrest]
          rw [hstep]
          exact ih (by rw [hrest, List.take_nil]; exact fun _ h => (List.not_mem_nil h).elim)
      | cons operation rest =>
          rw [hrest, List.take_succ_cons] at hplain
          have hstep : lowerOperationStep src st = lowerArmOperation src st operation rest := by
            rw [lowerOperationStep, hrest]
            exact lowerOperation_of_not_match (hplain operation List.mem_cons_self)
          obtain ⟨hext, hleft⟩ := (lowerArmOperation_operates src st operation rest).extends
          rw [hstep]
          obtain ⟨hparams, hinsts⟩ :=
            @ih (lowerArmOperation src st operation rest)
              (by rw [hleft]; exact fun o ho => hplain o (List.mem_cons_of_mem _ ho))
          exact ⟨hparams.trans hext.parameters, hext.instructions.trans hinsts⟩

end Expression

/-! ## Between the expressions -/

section Block

variable {src : Source} {inputs : List Value}

/-- What stays in scope beside the result of an expression. -/
def keptScope (src : Source) (expression : TypedExpr TOp) (env : List Binding) : List Binding :=
  let spells := Binding.Spells src expression.bindingStart expression.bindingStop
  if expression.role = 6 && (env.take 1024).any spells then (env.take 1024).eraseP spells else env

theorem bindLetResult_mem {expression : TypedExpr TOp} {env : List Binding} {value : Value} {b : Binding}
    (h : b ∈ bindLetResult src expression env value) :
    b.value = value.id ∨ b ∈ keptScope src expression env := by
  unfold bindLetResult at h
  dsimp only at h
  unfold keptScope
  dsimp only
  split at h
  · next hrole =>
      rw [rebindName_eq] at h
      split at h
      · next hany =>
          rw [if_pos (by rw [hany, hrole]; rfl)]
          exact (mem_replaceF_rebound h).imp_left (congrArg Binding.value)
      · next hany =>
          rw [if_neg (by rw [Bool.and_eq_true, not_and_or]; exact .inr hany)]
          exact (List.mem_cons.mp h).imp_left (congrArg Binding.value)
  · next hrole =>
      rw [if_neg (by rw [Bool.and_eq_true, decide_eq_true_eq, not_and_or]; exact .inl hrole)]
      split at h
      · exact .inr h
      · exact (List.mem_cons.mp h).imp_left (congrArg Binding.value)

theorem keptScope_subset {expression : TypedExpr TOp} {env : List Binding} {b : Binding}
    (h : b ∈ keptScope src expression env) : b ∈ env := by
  unfold keptScope at h
  dsimp only at h
  split at h
  · exact List.mem_of_mem_take (List.mem_of_mem_eraseP h)
  · exact h

/-- The next expression has no match, or keeps nothing in scope but inputs of the function. -/
def CarriesInputs (src : Source) (inputs : List Value) (st : ExpressionBuild) : Prop :=
  ∀ expression ∈ st.rest.head?, (∀ operation ∈ expression.ops.take 1024, isMatchOp operation = false) ∨
    ∀ b ∈ keptScope src expression st.env, ∃ v ∈ inputs, v.id = b.value

instance (inputs : List Value) (st : ExpressionBuild) : Decidable (CarriesInputs src inputs st) :=
  inferInstanceAs (Decidable (∀ _ ∈ st.rest.head?, _))

def ExpressionBuild.Scoped (inputs : List Value) (st : ExpressionBuild) : Prop :=
  ∀ b ∈ st.env, Available inputs st.parameters st.instructions b.value

instance (inputs : List Value) (st : ExpressionBuild) : Decidable (st.Scoped inputs) :=
  inferInstanceAs (Decidable (∀ b ∈ st.env, _))

theorem ExpressionBuild.after_ok {st : ExpressionBuild} {expression : TypedExpr TOp} {rest : List (TypedExpr TOp)}
    {built : ExprBuild} (hok : (st.after src expression rest built).ok = true) :
    built.ok = true ∧ expressionStackSingle built.stack = true := by
  rw [ExpressionBuild.after, Bool.and_eq_true, Bool.and_eq_true] at hok
  exact hok.1

/-- **One expression** that carries no value into another block. -/
theorem lowerExpression_scoped {st : ExpressionBuild} {expression : TypedExpr TOp} {rest : List (TypedExpr TOp)}
    (hst : st.Scoped inputs)
    (hcarry : (∀ operation ∈ expression.ops.take 1024, isMatchOp operation = false) ∨
      ∀ b ∈ keptScope src expression st.env, ∃ v ∈ inputs, v.id = b.value)
    (hok : (lowerExpression src st expression rest).ok = true) :
    (lowerExpression src st expression rest).Scoped inputs := by
  have hseed : (st.seed expression).Scoped inputs := ⟨hst, fun v hv => (List.not_mem_nil hv).elim⟩
  have hscoped := @iterate_lowerOperationStep_scoped src inputs 1024 _ hseed
  have hextends := @iterate_lowerOperationStep_extends src 1024 (st.seed expression)
  rw [lowerExpression] at hok ⊢
  generalize (lowerOperationStep src)^[1024] (st.seed expression) = built at *
  obtain ⟨-, hsingle⟩ := ExpressionBuild.after_ok hok
  intro b hb
  rcases bindLetResult_mem hb with hvalue | hkept
  · -- the result is the only operand left
    rw [hvalue]
    cases hstack : built.stack with
    | nil =>
        rw [hstack] at hsingle
        cases hsingle
    | cons v vs => exact hscoped.stack v (by rw [hstack]; exact List.mem_cons_self)
  · rcases hcarry with hplain | hinputs
    · obtain ⟨hparams, hinsts⟩ := hextends hplain
      have hmem : b ∈ st.env := keptScope_subset hkept
      have havailable := hst b hmem
      show Available inputs built.parameters built.instructions b.value
      rw [hparams]
      exact havailable.mono hinsts
    · exact .inl (hinputs b hkept)

theorem lowerExpression_ok_mono {st : ExpressionBuild} {expression : TypedExpr TOp} {rest : List (TypedExpr TOp)}
    (hok : (lowerExpression src st expression rest).ok = true) : st.ok = true := by
  rw [lowerExpression] at hok
  have hmono := @iterate_lowerOperationStep_ok_mono src 1024 (st.seed expression)
  generalize (lowerOperationStep src)^[1024] (st.seed expression) = built at *
  exact hmono (ExpressionBuild.after_ok hok).1

/-- **A run over the expressions of a block** of which none carries a value into another block. -/
theorem iterate_lowerExpressionStep_scoped (n : Nat) {st : ExpressionBuild} (hst : st.Scoped inputs)
    (hsteps : ∀ k < n, CarriesInputs src inputs ((lowerExpressionStep src)^[k] st))
    (hok : ((lowerExpressionStep src)^[n] st).ok = true) : ((lowerExpressionStep src)^[n] st).Scoped inputs := by
  induction n with
  | zero => exact hst
  | succ n ih =>
      have hcarry := hsteps n (Nat.lt_succ_self n)
      have hprev := ih fun k hk => hsteps k (Nat.lt_succ_of_lt hk)
      rw [Function.iterate_succ_apply'] at hok ⊢
      generalize (lowerExpressionStep src)^[n] st = cur at *
      rw [lowerExpressionStep] at hok ⊢
      split at hok
      · exact hprev hok
      · next expression rest hrest =>
          exact lowerExpression_scoped (hprev (lowerExpression_ok_mono hok))
            (hcarry expression (by rw [hrest]; rfl)) hok

end Block

/-! ## The blocks of a function -/

section Function

variable (src : Source) (header : Parser.Header) (fnDecl : FnDecl) (cfg : FunctionFlow TOp) (records : List RecordDecl)
  (enums : List EnumDecl) (nominals : List NominalTypeIdentity)

/-- The lowering of a function before block `n`. -/
def loweringAt (n : Nat) : SsaBuild :=
  (lowerBlockStep src)^[n] (initialBuild src header fnDecl cfg records enums nominals)

/-- The lowering of a block before expression `m`. -/
def expressionsAt (st : SsaBuild) (block : Block TOp) (m : Nat) : ExpressionBuild :=
  (lowerExpressionStep src)^[m] (expressionSeed src st block)

variable {src} {records enums nominals}

def ParamBuild.Named (st : ParamBuild) : Prop := ∀ b ∈ st.env, ∃ v ∈ st.inputs, v.id = b.value

theorem functionParameterStep_named {generics : List GenericParam} {st : ParamBuild} (h : st.Named) :
    (functionParameterStep src generics records enums nominals st).Named := by
  unfold functionParameterStep
  split
  · exact h
  · intro b hb
    rcases List.mem_cons.mp hb with rfl | hb
    · exact ⟨_, List.mem_cons_self, rfl⟩
    · obtain ⟨v, hv, hid⟩ := h b hb
      exact ⟨v, List.mem_cons_of_mem _ hv, hid⟩

theorem functionParameters_named (generics : List GenericParam) (fields : List Field) :
    (functionParameters src generics records enums nominals fields).Named := by
  unfold functionParameters
  refine iterate_post (fun _ (st r : ParamBuild) => st.Named → r.Named) ?_ ?_ 0 1024 _ (fun _ => id)
    (fun b hb => (List.not_mem_nil hb).elim)
  · intro j st r hret hst
    split at hret
    · cases hret
      exact hst
    · cases hret
  · intro j st st' r hnext hr hst
    split at hnext
    · cases hnext
    · cases hnext
      exact hr (functionParameterStep_named hst)

variable {header fnDecl cfg}

theorem loweringAt_zero_rest : (loweringAt src header fnDecl cfg records enums nominals 0).rest = cfg.blocks := rfl

/-- What the entry block has in scope are inputs. -/
theorem loweringAt_entry (n : Nat) :
    ∀ b ∈ (loweringAt src header fnDecl cfg records enums nominals n).entryEnv,
      ∃ v ∈ (loweringAt src header fnDecl cfg records enums nominals n).inputs, v.id = b.value := by
  apply Function.Iterate.rec (fun st : SsaBuild => ∀ b ∈ st.entryEnv, ∃ v ∈ st.inputs, v.id = b.value)
  · exact functionParameters_named fnDecl.sig.generics fnDecl.sig.params
  · intro st hst
    rw [lowerBlockStep]
    split
    · exact hst
    · exact hst

theorem expressionSeed_scoped {st : SsaBuild} (hentry : ∀ b ∈ st.entryEnv, ∃ v ∈ st.inputs, v.id = b.value)
    (block : Block TOp) : (expressionSeed src st block).Scoped st.inputs := by
  intro b hb
  unfold expressionSeed at hb ⊢
  dsimp only at hb ⊢
  generalize incomingFor src block.id st.edges = incoming at hb ⊢
  rw [entryOrParameters] at hb
  rw [selectBlockParameters]
  split at hb
  · exact .inl (hentry b hb)
  next hother =>
  split at hb
  · exact (List.not_mem_nil hb).elim
  next hedge =>
  rw [Bool.or_eq_true, not_or, Bool.not_eq_true', Bool.not_eq_false, Bool.not_eq_true', Bool.not_eq_false] at hedge
  rw [prepareBlockEnvironment_eq hedge.1 hedge.2] at hb ⊢
  rw [if_neg hother]
  obtain ⟨v, hv, hid⟩ := @scopeEnv_mem _ block.id _ _ hb
  exact .inr (.inl ⟨v, List.mem_reverse.mpr hv, hid⟩)

/-- **What is in scope is available** before each expression of a block, in every run in which no expression carries
    values into another block. -/
theorem lowerOneBlock_scoped (src : Source) (header : Parser.Header) (fnDecl : FnDecl) (cfg : FunctionFlow TOp)
    (records : List RecordDecl) (enums : List EnumDecl) (nominals : List NominalTypeIdentity) (n m : Nat)
    (block : Block TOp)
    (hcarry : ∀ k < m, CarriesInputs src (loweringAt src header fnDecl cfg records enums nominals n).inputs
      (expressionsAt src (loweringAt src header fnDecl cfg records enums nominals n) block k))
    (hok : (expressionsAt src (loweringAt src header fnDecl cfg records enums nominals n) block m).ok = true) :
    (expressionsAt src (loweringAt src header fnDecl cfg records enums nominals n) block m).Scoped
      (loweringAt src header fnDecl cfg records enums nominals n).inputs :=
  iterate_lowerExpressionStep_scoped m (expressionSeed_scoped (loweringAt_entry n) block) hcarry hok

end Function

/-! ## A value that a match has left behind

The function `f` of `staleSource` binds `a`, matches, and returns `a`. -/

def staleSource : Source :=
  { pages :=
      [[109, 110, 99, 115, 32, 48, 46, 49, 56, 59, 109, 111, 100, 117, 108, 101, 32, 109, 59, 102, 110, 32, 102, 40, 120,
        58, 117, 54, 52, 41, 45, 62, 40, 114, 58, 117, 54, 52, 41, 123, 108, 101, 116, 32, 97, 58, 117, 54, 52, 61, 49,
        59, 108, 101, 116, 32, 98, 58, 117, 54, 52, 61, 109, 97, 116, 99, 104, 32, 120, 123, 48, 61, 62, 49, 44, 95, 61,
        62, 50, 125, 59, 114, 101, 116, 117, 114, 110, 32, 97, 59, 125]]
    stride := 1024, total := 91 }

def staleHeader : Parser.Header :=
  { code := 0, start := 0, stop := 0, versionStart := 5, versionStop := 9, moduleStart := 17, moduleStop := 18
    nextOffset := 19, state := 8 }

def staleFn : FnDecl :=
  { ok := true, errStart := 0, errStop := 0
    sig :=
      { nameStart := 22, nameStop := 23, generics := []
        params := [{ nameStart := 24, nameStop := 25, typeStart := 26, typeStop := 29, typeKind := 1 }]
        results := [{ nameStart := 33, nameStop := 34, typeStart := 35, typeStop := 38, typeKind := 1 }]
        contracts := [], effects := [], capabilities := [] }
    body :=
      { body :=
          [.letStmt 44 45 46 49 1 (.integer 50 51 1 false) 44 51,
            .letStmt 56 57 58 61 1
              (.scalarMatch (.name 68 69)
                [⟨false, false, 0, false, 70, 71, .integer 73 74 1 false⟩,
                  ⟨true, false, 0, false, 75, 76, .integer 78 79 2 false⟩] 62 81)
              56 81]
        ret := .name 88 89, hasRet := true }
    fnStart := 19, fnStop := 91, cursor := 91 }

def staleExpressions : List (TypedExpr TOp) :=
  [{ role := 1, start := 50, stop := 51, bindingStart := 44, bindingStop := 45
     ops := [.tInt 1 loopIntegerType 50 51], opCount := 1 },
    { role := 1, start := 62, stop := 81, bindingStart := 56, bindingStop := 57
      ops :=
        [.tName loopIntegerType 68 69,
          .tMatch loopIntegerType loopIntegerType
            [.mk false false 0 false 70 71 [.tInt 1 loopIntegerType 73 74] 1,
              .mk true false 0 false 75 76 [.tInt 2 loopIntegerType 78 79] 1]
            2 1 62 81]
      opCount := 2 },
    { role := 3, start := 88, stop := 89, bindingStart := 0, bindingStop := 0
      ops := [.tName loopIntegerType 88 89], opCount := 1 }]

def staleBlock : Block TOp :=
  { id := 0, kind := 3, termStart := 88, termStop := 89, succ0 := 0, succ1 := 0, succCount := 0, instructions := 4
    expressions := staleExpressions, reachable := true, isJoin := false, isIterationHeader := false
    isIterationBackedge := false, iterationHeaderId := 0, iterationStart := 0, iterationStop := 0
    iteration := emptyLoopMeta }

def staleFlow : FunctionFlow TOp :=
  { fnStart := 19, fnStop := 91, entry := 0, blocks := [staleBlock], elidedExpressions := [], blockCount := 1
    unreachableJoins := 0, verified := true }

set_option maxRecDepth 10000 in
/-- The first statement is lowered. After the match `a` names a value of the block that the switch has ended. -/
theorem expressionsAt_stale :
    let st := loweringAt staleSource staleHeader staleFn staleFlow [] [] [] 0
    (∀ k < 1, CarriesInputs staleSource st.inputs (expressionsAt staleSource st staleBlock k)) ∧
      (expressionsAt staleSource st staleBlock 1).ok = true ∧ (expressionsAt staleSource st staleBlock 2).ok = true ∧
      ¬ (expressionsAt staleSource st staleBlock 2).Scoped st.inputs := by
  -- the loops are put in their short form before the source, the function and its block are known
  suffices h : ∀ src header fnDecl cfg block, src = staleSource → header = staleHeader → fnDecl = staleFn →
      cfg = staleFlow → block = staleBlock → ∀ st, st = loweringAt src header fnDecl cfg [] [] [] 0 →
      (∀ k < 1, CarriesInputs src st.inputs (expressionsAt src st block k)) ∧
        (expressionsAt src st block 1).ok = true ∧ (expressionsAt src st block 2).ok = true ∧
        ¬ (expressionsAt src st block 2).Scoped st.inputs from
    h staleSource staleHeader staleFn staleFlow staleBlock rfl rfl rfl rfl rfl _ rfl
  intro src header fnDecl cfg block hsrc hheader hfn hcfg hblock st hst
  simp only [loweringAt, initialBuild, canonicalFunctionIdentity, callableIdentitySpan, ↓run_callableIdentitySpanStep,
    Function.iterate_zero_apply] at hst
  simp -zeta only [↓iterate_eq_run, expressionsAt, expressionSeed, incomingFor, prepareBlockEnvironment, lowerExpressionStep,
    lowerExpression, lowerOperationStep, blockParameterStep, addBlockParameter, lowerOperation, lowerScalarMatch,
    lowerMatchSubject, openMatch, scalarBasicOk, typedScalarMatchArmTotal, typedScalarMatchCount,
    matchContextParameters, matchStackParameterStep, matchStackParameterOne, armStep, lowerArm, ArmBuild.prepared,
    ArmBuild.enterArm, lowerNestedArmOps, nestDriverStep, nestDriverOp, nestDriverPop, nestArmDone, nestArmStart,
    nestScalarSetup, nestSetupSubject, nestAssemble, ArmBuild.closeArm, assembleMatch, armJumpArgs, projectEnvironment,
    projectEnvironmentStep, projectEnvironmentBinding, appendIds, matchContextIds, valueStackIds, reverseIdList,
    bindingIds, lowerArmOperation, lowerName, lookupBinding, bindLetResult, ExpressionBuild.after, reverseEnvironment,
    reverseInstructions, prependGeneratedBlocks, reverseWithin_eq, prependWithin_eq, collectWithin_eq]
  subst hsrc hheader hfn hcfg hblock hst
  decide +kernel

theorem lowerOneBlock_scoped_first :
    (expressionsAt staleSource (loweringAt staleSource staleHeader staleFn staleFlow [] [] [] 0) staleBlock 1).Scoped
      (loweringAt staleSource staleHeader staleFn staleFlow [] [] [] 0).inputs :=
  lowerOneBlock_scoped staleSource staleHeader staleFn staleFlow [] [] [] 0 1 staleBlock
    expressionsAt_stale.1 expressionsAt_stale.2.1

theorem not_scoped_after_match :
    ¬ ∀ (src : Source) (header : Parser.Header) (fnDecl : FnDecl) (cfg : FunctionFlow TOp) (records : List RecordDecl)
      (enums : List EnumDecl) (nominals : List NominalTypeIdentity) (n m : Nat) (block : Block TOp)
      (rest : List (Block TOp)),
      (loweringAt src header fnDecl cfg records enums nominals n).rest = block :: rest →
      (expressionsAt src (loweringAt src header fnDecl cfg records enums nominals n) block m).ok = true →
      (expressionsAt src (loweringAt src header fnDecl cfg records enums nominals n) block m).Scoped
        (loweringAt src header fnDecl cfg records enums nominals n).inputs := by
  intro h
  obtain ⟨-, -, hok, hstale⟩ := expressionsAt_stale
  exact hstale (h staleSource staleHeader staleFn staleFlow [] [] [] 0 2 staleBlock [] loweringAt_zero_rest hok)

end MncsCompiler.Ssa
