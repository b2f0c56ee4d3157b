import MncsCompiler.Ssa.Arms

/-!
# `Ssa.Jumps` — payload bindings do not escape

When an arm is through, its last block jumps to the join of the match and passes there a value for each binding that was
in scope before the match. It should be the value that this binding has at the end of the arm. An arm without a match of
its own passes the scope that it was prepared with; another one goes by the names, and is right when each variable of
the outer scope is what its name stands for below the payloads of the pattern.
-/

namespace MncsCompiler.Ssa

open BoundedLoop Decl Halting

variable {src : Source}

/-! ## Payloads -/

def Binding.span (b : Binding) : Nat × Nat := (b.nameStart, b.nameStop)

/-- The names that a pattern brings into scope, the last first. -/
def payloadNames (src : Source) (bindings : List PayloadBinding) : List (Nat × Nat) :=
  ((bindings.filter fun b => !matchPayloadWildcard src b.nameStart b.nameStop).map fun b =>
    (b.nameStart, b.nameStop)).reverse

def Form.payloads (src : Source) : (f : Form) → f.Arm → List (Nat × Nat)
  | .finite, arm => payloadNames src (arm.pattern.bindings.take 1024)
  | .scalar, _ => []

theorem payloadNames_cons (binding : PayloadBinding) (bindings : List PayloadBinding) :
    payloadNames src (binding :: bindings) = payloadNames src bindings ++ payloadNames src [binding] := by
  rw [payloadNames, payloadNames, payloadNames, ← List.reverse_append, ← List.map_append, ← List.filter_append]
  rfl

/-- A payload comes into scope over what is there, unless the pattern leaves it out. -/
theorem lowerMatchPayloadOne_env {st : PayloadLowerBuild} {binding : PayloadBinding} {rest : List PayloadBinding}
    (hok : (lowerMatchPayloadOne src st binding rest).ok = true) :
    (lowerMatchPayloadOne src st binding rest).rest = rest ∧
      ∃ new, (lowerMatchPayloadOne src st binding rest).env = new ++ st.env ∧
        new.map Binding.span = payloadNames src [binding] := by
  rw [lowerMatchPayloadOne] at hok ⊢
  dsimp only at hok ⊢
  split at hok
  · cases hok
  next hfound =>
  rw [if_neg hfound]
  by_cases hwild : matchPayloadWildcard src binding.nameStart binding.nameStop = true
  · rw [if_pos hwild]
    refine ⟨rfl, [], rfl, ?_⟩
    rw [payloadNames, List.filter_cons_of_neg (by simp [hwild])]
    rfl
  · rw [if_neg hwild]
    refine ⟨rfl, [_], rfl, ?_⟩
    rw [payloadNames, List.filter_cons_of_pos (by simp [hwild])]
    rfl

/-- What the loop over the payloads leaves in scope. -/
theorem iterate_lowerMatchPayloadStep_env (n : Nat) {st : PayloadLowerBuild}
    (hok : ((lowerMatchPayloadStep src)^[n] st).ok = true) :
    st.ok = true ∧ ∃ new, ((lowerMatchPayloadStep src)^[n] st).env = new ++ st.env ∧
      new.map Binding.span = payloadNames src (st.rest.take n) := by
  induction n generalizing st with
  | zero => exact ⟨hok, [], rfl, rfl⟩
  | succ n ih =>
      by_cases hst : st.ok = true
      swap
      · rw [Function.iterate_fixed (by rw [lowerMatchPayloadStep, Bool.eq_false_iff.mpr hst]; rfl)] at hok
        exact absurd hok hst
      refine ⟨hst, ?_⟩
      rw [Function.iterate_succ_apply] at hok ⊢
      obtain ⟨hnext, new, henv, hnames⟩ := ih hok
      rw [henv]
      cases hrest : st.rest with
      | nil =>
          have hstep : lowerMatchPayloadStep src st = st := by
            rw [lowerMatchPayloadStep, hst, hrest]
            rfl
          rw [hstep, hrest, List.take_nil] at hnames
          rw [hstep]
          exact ⟨new, rfl, hnames⟩
      | cons binding rest =>
          have hstep : lowerMatchPayloadStep src st = lowerMatchPayloadOne src st binding rest := by
            rw [lowerMatchPayloadStep, hst, hrest]
            exact if_neg Bool.false_ne_true
          rw [hstep] at hnext hnames ⊢
          obtain ⟨hleft, top, htop, hname⟩ := lowerMatchPayloadOne_env hnext
          refine ⟨new ++ top, ?_, ?_⟩
          · rw [htop, List.append_assoc]
          · rw [hleft] at hnames
            rw [List.map_append, hnames, hname, List.take_succ_cons, payloadNames_cons binding (rest.take n)]

theorem lowerMatchPayloads_env {initial : PayloadLowerBuild} (hok : (lowerMatchPayloads src initial).ok = true) :
    initial.ok = true ∧ ∃ new, (lowerMatchPayloads src initial).env = new ++ initial.env ∧
      new.map Binding.span = payloadNames src (initial.rest.take 1024) := by
  rw [lowerMatchPayloads] at hok ⊢
  exact iterate_lowerMatchPayloadStep_env 1024 hok

/-- The payloads of a finite arm before they are extracted. -/
def payloadSeed (ctx : FiniteArmBuild) (arm : TypedFiniteMatchArm) (entry : Nat) (prepared : MatchContextBuild)
    : PayloadLowerBuild :=
  let subjectParam : Value :=
    { id := prepared.nextValue, ty := ctx.subjectTy, ownerBlock := entry, kind := 1, index := prepared.parameterIndex }
  { rest := arm.pattern.bindings, fields := arm.payloadFields, env := prepared.env, subject := subjectParam.id
    variantStart := arm.pattern.variantStart, variantStop := arm.pattern.variantStop, nominal := ctx.own
    matchStart := ctx.matchStart, matchStop := ctx.matchStop, instructions := []
    values := subjectParam :: prepared.values, nextValue := prepared.nextValue + 1
    nextInstruction := ctx.nextInstruction, sequence := 0, block := entry, nominals := ctx.source.nominals
    ok := prepared.ok }

theorem enterArm_finite {ctx : FiniteArmBuild} {arm : TypedFiniteMatchArm} {entry : Nat} {prepared : MatchContextBuild}
    {payloads : PayloadLowerBuild} (h : lowerMatchPayloads src (payloadSeed ctx arm entry prepared) = payloads) :
    ctx.enterArm src arm entry prepared =
      { rest := arm.ops, env := payloads.env, stack := [], instructions := payloads.instructions
        values := payloads.values, nextValue := payloads.nextValue, nextInstruction := payloads.nextInstruction
        sequence := payloads.sequence, block := entry
        parameters :=
          { id := prepared.nextValue, ty := ctx.subjectTy, ownerBlock := entry, kind := 1
            index := prepared.parameterIndex } :: prepared.parameters
        generatedBlocks := [], nextBlockId := ctx.nextBlock, nominals := ctx.source.nominals, ok := payloads.ok
        failureOp := 0 } := by
  rw [← h, ArmBuild.enterArm]
  dsimp only [payloadSeed]

/-- An arm that is prepared well has the payloads of its pattern in scope, over the scope of the match. -/
theorem enterArm_env {f : Form} {ctx : ArmBuild f} {arm : f.Arm} {entry : Nat} {prepared : MatchContextBuild}
    (hok : (ctx.enterArm src arm entry prepared).ok = true) :
    prepared.ok = true ∧ ∃ new, (ctx.enterArm src arm entry prepared).env = new ++ prepared.env ∧
      new.map Binding.span = f.payloads src arm := by
  cases f with
  | finite =>
      obtain ⟨payloads, hpayloads⟩ : ∃ payloads, lowerMatchPayloads src (payloadSeed ctx arm entry prepared) = payloads :=
        ⟨_, rfl⟩
      rw [enterArm_finite hpayloads] at hok ⊢
      dsimp only at hok ⊢
      rw [← hpayloads] at hok ⊢
      exact lowerMatchPayloads_env hok
  | scalar => exact ⟨hok, [], rfl, rfl⟩

/-! ## The end of an arm -/

/-- An arm whose operations are through, with what it was prepared with. -/
structure ArmEnd (f : Form) where
  ctx : ArmBuild f
  arm : f.Arm
  entry : Nat
  preparedOk : Bool
  seedOk : Bool
  preparedEnv : List Binding
  preparedStack : List Value
  lowered : ExprBuild

namespace ArmEnd

variable {f : Form}

def closed (src : Source) (e : ArmEnd f) : ArmBuild f :=
  e.ctx.closeArm src e.arm e.entry e.preparedOk e.seedOk e.preparedEnv e.preparedStack e.lowered

def result (e : ArmEnd f) : Value := expressionValue e.lowered.stack

def resultOk (src : Source) (e : ArmEnd f) : Bool :=
  expressionStackSingle e.lowered.stack && semEq src e.result.ty e.ctx.resultTy

/-- The arguments for the join. -/
def jump (src : Source) (e : ArmEnd f) : ArmJumpArguments :=
  armJumpArgs src (e.lowered.block ≠ e.entry) (e.preparedOk && e.lowered.ok && e.resultOk src) e.lowered.env
    e.lowered.stack e.result.id e.preparedEnv e.preparedStack

/-- The block that the arm ends in. -/
def lastBlock (src : Source) (e : ArmEnd f) : SsaBlock :=
  let armOk := e.lowered.ok && e.resultOk src && e.preparedOk && (e.jump src).ok
  { id := e.lowered.block, parameters := e.lowered.parameters, parameterBindings := e.lowered.env
    instructions := reverseInstructions e.lowered.instructions
    terminator := .jump e.ctx.joinId (e.jump src).arguments, reachable := true, hasFailureTarget := false
    failureTarget := 0, loweringOk := armOk, loweringFailureKind := if armOk then 0 else 9 }

theorem closed_ok (e : ArmEnd f) :
    (e.closed src).ok =
      (e.ctx.ok && e.preparedOk && e.seedOk && (e.lowered.ok && e.resultOk src && e.preparedOk && (e.jump src).ok)) := by
  dsimp only [closed, ArmBuild.closeArm, jump, result, resultOk]

/-- The names of the pattern. -/
def payloads (src : Source) (e : ArmEnd f) : List (Nat × Nat) := f.payloads src e.arm

/-- For each binding of the scope before the match, the argument for its parameter of the join is the value that this
    binding has where the arm ends. There it comes after the payloads of the pattern. -/
def PassesOuter (src : Source) (e : ArmEnd f) : Prop :=
  ∀ (i j : Nat) (b p : Binding), e.ctx.source.env[i]? = some b → e.ctx.joinEnv[i]? = some p →
    (e.ctx.joinParams.map Value.id)[j]? = some p.value →
    ∃ c, (e.lastBlock src).parameterBindings[(e.payloads src).length + i]? = some c ∧ c.span = b.span ∧
      (e.jump src).arguments[j]? = some { value := c.value }

end ArmEnd

/-- The entry of an arm. -/
def ArmBuild.seed (src : Source) {f : Form} (st : ArmBuild f) (arm : f.Arm) : ExprBuild :=
  let entry := st.source.nextBlockId + st.armIndex
  st.enterArm src arm entry (st.prepared src entry)

/-- An arm of a match of an expression. -/
def ArmBuild.armEnd (src : Source) {f : Form} (st : ArmBuild f) (arm : f.Arm) (rest : List f.Arm) : ArmEnd f :=
  let entry := st.source.nextBlockId + st.armIndex
  let prepared := st.prepared src entry
  { ctx := { st with rest := rest }, arm := arm, entry := entry, preparedOk := prepared.ok
    seedOk := (st.seed src arm).ok, preparedEnv := prepared.env, preparedStack := prepared.stack
    lowered := lowerNestedArmOps src (st.seed src arm) }

theorem lowerArm_eq {f : Form} (st : ArmBuild f) (arm : f.Arm) (rest : List f.Arm) :
    lowerArm src st arm rest = (st.armEnd src arm rest).closed src := by
  dsimp only [lowerArm, ArmBuild.armEnd, ArmEnd.closed, ArmBuild.seed]

/-- An arm of a match within an arm. -/
def NestDriver.armEnd (st : NestDriver) (frame : NestFrame) : ArmEnd frame.form :=
  { ctx := frame.ctx, arm := frame.arm, entry := frame.entry, preparedOk := true, seedOk := true
    preparedEnv := frame.preparedEnv, preparedStack := frame.preparedStack, lowered := st.build }

/-- A match of the operations starts when it passes the checks of its form. -/
inductive Opens (src : Source) (st : ExprBuild) : {f : Form} → ArmBuild f → Prop
  | finite {rest : List TOp} {resultTy subjectTy : SemType} {arms : List TypedFiniteMatchArm}
      {armCount start stop : Nat} {subject : Value} {baseStack : List Value} (hstack : st.stack = subject :: baseStack)
      (hbasic : finiteBasicOk src st resultTy subjectTy arms armCount subject = true) :
      Opens src st (f := .finite)
        (openMatch src st rest resultTy subjectTy arms armCount start stop subject baseStack
          (nominalIdentityForType src st.nominals subjectTy))
  | scalar {rest : List TOp} {resultTy subjectTy : SemType} {arms : List TypedScalarMatchArm}
      {armCount defaultCount start stop : Nat} {subject : Value} {baseStack : List Value}
      (hstack : st.stack = subject :: baseStack)
      (hbasic : scalarBasicOk src st resultTy subjectTy arms armCount defaultCount subject = true) :
      Opens src st (f := .scalar)
        (openMatch src st rest resultTy subjectTy arms armCount start stop subject baseStack 0)

/-- The arms that the lowering of a match closes: its own, and those of the matches that the driver finds in them. -/
inductive Lowers (src : Source) : {f : Form} → ArmEnd f → Prop
  | outer {f : Form} {st : ExprBuild} {opened : ArmBuild f} {arm : f.Arm} {rest : List f.Arm} {j : Nat}
      (hopens : Opens src st opened) (hj : j < 1024) (hrest : ((armStep src)^[j] opened).rest = arm :: rest) :
      Lowers src (((armStep src)^[j] opened).armEnd src arm rest)
  | nested {f : Form} {st : ExprBuild} {opened : ArmBuild f} {arm : f.Arm} {rest : List f.Arm} {j n : Nat}
      {driver : NestDriver} {frame : NestFrame} {frames : List NestFrame} (hopens : Opens src st opened)
      (hj : j < 1024) (hrest : ((armStep src)^[j] opened).rest = arm :: rest) (hn : n < 1024)
      (hdriver :
        (nestDriverStep src)^[n] { build := ((armStep src)^[j] opened).seed src arm, frames := [], done := false } =
          driver)
      (hok : driver.build.ok = true) (hthrough : driver.build.rest = []) (hframes : driver.frames = frame :: frames) :
      Lowers src (driver.armEnd frame)

/-- What an arm has gone through when it is closed. -/
structure ArmEnd.Sound (src : Source) {f : Form} (e : ArmEnd f) : Prop where
  ctx : ArmBuild.Sound 1024 { e.ctx with rest := e.arm :: e.ctx.rest }
  env : e.preparedEnv = (e.ctx.prepared src e.entry).env
  stack : e.preparedStack = (e.ctx.prepared src e.entry).stack
  progress : e.lowered.ok = true →
    Progress (e.ctx.enterArm src e.arm e.entry (e.ctx.prepared src e.entry)) e.lowered ∧ e.lowered.rest = []
  entry : (e.ctx.enterArm src e.arm e.entry (e.ctx.prepared src e.entry)).block = e.entry

theorem Opens.sound {f : Form} {st : ExprBuild} {opened : ArmBuild f} (h : Opens src st opened) : opened.Sound 1 := by
  cases h with
  | finite hstack hbasic => exact openMatch_sound (finiteBasicOk_count hbasic) Nat.zero_lt_one
  | scalar hstack hbasic => exact openMatch_sound (scalarBasicOk_count hbasic) Nat.zero_lt_one

theorem iterate_armStep_sound {f : Form} {opened : ArmBuild f} (h : opened.Sound 1) (j : Nat) :
    ((armStep src)^[j] opened).Sound (j + 1) := by
  induction j with
  | zero => exact h
  | succ j ih =>
      rw [Function.iterate_succ_apply']
      generalize (armStep src)^[j] opened = ctx at ih ⊢
      rw [armStep]
      cases hrest : ctx.rest with
      | nil => exact ih.mono (Nat.le_succ _)
      | cons arm rest =>
          dsimp only
          rw [lowerArm_eq]
          refine closeArm_sound ?_ _ _ _ _ _ _
          have hsame : { ctx with rest := arm :: rest } = ctx := by rw [← hrest]
          show ArmBuild.Sound (j + 1) { ctx with rest := arm :: rest }
          rw [hsame]
          exact ih

theorem enterArm_rest {f : Form} (ctx : ArmBuild f) (arm : f.Arm) (rest : List f.Arm) (entry : Nat)
    (prepared : MatchContextBuild) :
    ArmBuild.enterArm src { ctx with rest := rest } arm entry prepared = ctx.enterArm src arm entry prepared := by
  cases f with
  | finite => dsimp only [ArmBuild.enterArm]
  | scalar => dsimp only [ArmBuild.enterArm]

theorem Lowers.sound {f : Form} {e : ArmEnd f} (h : Lowers src e) : e.Sound src := by
  have hctx {f : Form} {st : ExprBuild} {opened : ArmBuild f} {j : Nat} (hopens : Opens src st opened) (hj : j < 1024) :
      ((armStep src)^[j] opened).Sound 1024 :=
    (iterate_armStep_sound hopens.sound j).mono hj
  cases h with
  | @outer f st opened arm rest j hopens hj hrest =>
      have hsound := hctx hopens hj
      generalize (armStep src)^[j] opened = ctx at hsound hrest ⊢
      have hseed := (@enterArm_progress src f _ _ _ _ hsound hrest (Nat.le_refl 1024)
        (ctx.prepared src (ctx.source.nextBlockId + ctx.armIndex))).fresh
      have hsame : { ctx with rest := arm :: rest } = ctx := by rw [← hrest]
      have henter :
          (ctx.armEnd src arm rest).ctx.enterArm src arm (ctx.armEnd src arm rest).entry
              ((ctx.armEnd src arm rest).ctx.prepared src (ctx.armEnd src arm rest).entry) =
            ctx.seed src arm :=
        enterArm_rest ctx arm rest _ _
      constructor
      · show ArmBuild.Sound 1024 { ctx with rest := arm :: rest }
        rw [hsame]
        exact hsound
      · dsimp only [ArmBuild.armEnd, ArmBuild.prepared]
      · dsimp only [ArmBuild.armEnd, ArmBuild.prepared]
      · intro hok
        have hlowered : (ctx.armEnd src arm rest).lowered = lowerNestedArmOps src (ctx.seed src arm) := by
          dsimp only [ArmBuild.armEnd]
        rw [hlowered] at hok ⊢
        rw [show (ctx.armEnd src arm rest).arm = arm from rfl, henter]
        exact lowerNestedArmOps_progress hseed hok
      · exact (@enterArm_keeps src _ (ctx.armEnd src arm rest).ctx arm _ _).2.1
  | @nested _ st opened arm rest j n driver frame frames hopens hj hrest hn hdriver hok hthrough hframes =>
      have hsound := hctx hopens hj
      generalize (armStep src)^[j] opened = ctx at hsound hrest hdriver
      have hseed := (@enterArm_progress src _ _ _ _ _ hsound hrest (Nat.le_refl 1024)
        (ctx.prepared src (ctx.source.nextBlockId + ctx.armIndex))).fresh
      have hchain := @iterate_nestDriverStep_chain src n (ctx.seed src arm) hseed (Nat.le_of_lt hn)
      rw [hdriver] at hchain
      dsimp only at hchain
      rw [hframes] at hchain
      cases hchain with
      | frame hopened hprogress hmatch hbelow =>
          refine ⟨hopened.sound.mono (Nat.le_of_lt hn), hopened.env, hopened.stack, fun _ => ⟨hprogress, hthrough⟩, ?_⟩
          exact (@enterArm_keeps src _ frame.ctx frame.arm frame.entry _).2.1

/-! ## Arguments by position -/

theorem scopeEnv_getElem? (env : List Binding) (next i : Nat) :
    (scopeEnv env next)[i]? = ((env.take 1024)[i]?).map fun b => { b with value := next + i } := by
  rw [scopeEnv, List.getElem?_mapIdx]

theorem range'_reverse_getElem? {first n i j : Nat} :
    (List.range' first n).reverse[j]? = some (first + i) ↔ j + i + 1 = n := by
  rw [List.getElem?_eq_some_iff]
  constructor
  · rintro ⟨hj, hvalue⟩
    rw [List.length_reverse, List.length_range'] at hj
    rw [List.getElem_reverse, List.getElem_range', List.length_range'] at hvalue
    omega
  · intro hn
    refine ⟨by rw [List.length_reverse, List.length_range']; omega, ?_⟩
    rw [List.getElem_reverse, List.getElem_range', List.length_range']
    omega

theorem contextArguments_length (r : Nat) {env : List Binding} {stack : List Value} (henv : env.length ≤ 1024)
    (hstack : stack.length ≤ 1024) :
    (appendIds [{ value := r }] (matchContextIds env stack)).length = env.length + stack.length + 1 := by
  rw [appendIds_eq, matchContextIds_eq, List.take_of_length_le henv, List.take_of_length_le hstack]
  simp only [List.length_append, List.length_reverse, List.length_map, List.length_take, List.length_singleton]
  omega

/-- The bindings come last, the first of them at the end. -/
theorem contextArguments_getElem? (r : Nat) {env : List Binding} {stack : List Value} {i : Nat} {b : Binding}
    (henv : env.length ≤ 1024) (hstack : stack.length ≤ 1024) (hb : env[i]? = some b) :
    (appendIds [{ value := r }] (matchContextIds env stack))[env.length + stack.length - i]? =
      some { value := b.value } := by
  obtain ⟨hi, rfl⟩ := List.getElem?_eq_some_iff.mp hb
  rw [appendIds_eq, matchContextIds_eq, List.take_of_length_le henv, List.take_of_length_le hstack,
    List.take_of_length_le (by simp), List.getElem?_append_right (by rw [List.length_singleton]; omega),
    List.getElem?_append_right (by rw [List.length_reverse, List.length_map, List.length_singleton]; omega),
    List.getElem?_eq_some_iff]
  simp only [List.length_reverse, List.length_map, List.length_singleton, List.getElem_reverse, List.getElem_map]
  refine ⟨by omega, ?_⟩
  congr 3
  omega

namespace ArmEnd

variable {f : Form} {e : ArmEnd f}

/-- What a well closed arm is like. -/
theorem of_ok (hok : (e.closed src).ok = true) :
    e.lowered.ok = true ∧ e.preparedOk = true ∧ e.resultOk src = true ∧ (e.jump src).ok = true ∧
      expressionStackTail e.lowered.stack = [] := by
  rw [closed_ok] at hok
  simp only [Bool.and_eq_true] at hok
  obtain ⟨-, ⟨⟨hlowered, hresult⟩, hprepared⟩, hjump⟩ := hok
  refine ⟨hlowered, hprepared, hresult, hjump, ?_⟩
  obtain ⟨hsingle, -⟩ := (Bool.and_eq_true _ _).mp hresult
  cases hstack : e.lowered.stack with
  | nil => rfl
  | cons v rest =>
      cases rest with
      | nil => rfl
      | cons w rest =>
          rw [hstack] at hsingle
          cases hsingle

/-- The parameters of the join stand in the reverse order of the scope. -/
theorem passesOuter_iff_getElem? (h : e.Sound src) :
    e.PassesOuter src ↔
      ∀ (i : Nat) (b : Binding), (e.ctx.source.env.take 1024)[i]? = some b →
        ∃ c, e.lowered.env[(e.payloads src).length + i]? = some c ∧ c.span = b.span ∧
          (e.jump src).arguments[min 1024 e.ctx.source.env.length + min 1024 e.ctx.source.stack.length - i]? =
            some { value := c.value } := by
  obtain ⟨first, henv, hids⟩ := h.ctx.context
  dsimp only at henv hids
  constructor
  · intro hpasses i b hb
    obtain ⟨hi, -⟩ := List.getElem?_eq_some_iff.mp hb
    rw [List.length_take] at hi
    have hb' : e.ctx.source.env[i]? = some b := by
      rw [List.getElem?_take_of_lt (by omega)] at hb
      exact hb
    refine hpasses i _ b { b with value := first + i } hb' ?_ ?_
    · rw [henv, scopeEnv_getElem?, hb]
      rfl
    · rw [hids, range'_reverse_getElem?]
      omega
  · intro hall i j b p hb hp hj
    rw [henv, scopeEnv_getElem?] at hp
    obtain ⟨b', hb', rfl⟩ := Option.map_eq_some_iff.mp hp
    obtain ⟨hi, -⟩ := List.getElem?_eq_some_iff.mp hb'
    rw [List.length_take] at hi
    rw [List.getElem?_take_of_lt (by omega)] at hb'
    obtain rfl : b' = b := Option.some.inj (hb'.symm.trans hb)
    rw [hids, range'_reverse_getElem?] at hj
    obtain ⟨c, hc, hspan, hargument⟩ := hall i b' (by rw [List.getElem?_take_of_lt (by omega)]; exact hb')
    refine ⟨c, hc, hspan, ?_⟩
    rw [← hargument]
    congr 1
    omega

/-- The context that the arm was prepared with. -/
theorem Sound.prepared (h : e.Sound src) :
    ∃ next, e.preparedEnv = scopeEnv e.ctx.source.env next ∧
      e.preparedStack.length = min 1024 e.ctx.source.stack.length := by
  refine ⟨e.ctx.nextValue, ?_, ?_⟩
  · rw [h.env, ArmBuild.prepared, matchContextParameters_eq]
  · rw [h.stack, ArmBuild.prepared, matchContextParameters_eq]
    rw [operandParams, List.length_mapIdx, List.length_take]

/-- The scope at the entry: the payloads over the scope of the match. -/
theorem Sound.entry_env (h : e.Sound src) (hok : e.lowered.ok = true) :
    ∃ new, (e.ctx.enterArm src e.arm e.entry (e.ctx.prepared src e.entry)).env = new ++ e.preparedEnv ∧
      new.map Binding.span = e.payloads src := by
  obtain ⟨hprogress, -⟩ := h.progress hok
  obtain ⟨-, new, henv, hnames⟩ := enterArm_env (hprogress.ok hok)
  rw [← h.env] at henv
  exact ⟨new, henv, hnames⟩

/-- How an arm comes to its end: in its own block, or in the join of a match. -/
theorem Sound.path (h : e.Sound src) (hok : e.lowered.ok = true) :
    ∃ new, new.map Binding.span = e.payloads src ∧
      ((∀ operation ∈ f.ops e.arm, isMatchOp operation = false) ∧ e.lowered.block = e.entry ∧
          e.lowered.env = new ++ e.preparedEnv ∨
        (∃ operation ∈ f.ops e.arm, isMatchOp operation = true) ∧ e.lowered.block ≠ e.entry ∧
          ∃ next, e.lowered.env = scopeEnv (new ++ e.preparedEnv) next) := by
  obtain ⟨new, henv, hnames⟩ := h.entry_env hok
  obtain ⟨hprogress, hrest⟩ := h.progress hok
  obtain ⟨done, hdone, hpath⟩ := hprogress.path
  rw [hrest, List.append_nil, (enterArm_keeps e.ctx e.arm e.entry _).1] at hdone
  rw [← hdone, h.entry, henv] at hpath
  exact ⟨new, hnames, hpath⟩

theorem jump_of_stays (hblock : e.lowered.block = e.entry) :
    (e.jump src).arguments =
      appendIds [{ value := e.result.id }] (matchContextIds e.preparedEnv e.preparedStack) := by
  rw [jump, armJumpArgs, if_neg (by simp [hblock])]

theorem jump_of_moves (hok : (e.closed src).ok = true) (hblock : e.lowered.block ≠ e.entry) :
    e.preparedEnv.length ≤ 1024 ∧ (∀ w ∈ e.preparedEnv, w.Carries src e.lowered.env) ∧
      (e.jump src).arguments =
        appendIds [{ value := e.result.id }]
          (matchContextIds (e.preparedEnv.map (Binding.carried src e.lowered.env)) []) := by
  obtain ⟨hlowered, hprepared, hresult, hjump, htail⟩ := of_ok hok
  have hmoved : (decide (e.lowered.block ≠ e.entry) && (e.preparedOk && e.lowered.ok && e.resultOk src)) = true := by
    rw [hlowered, hprepared, hresult, decide_eq_true hblock]
    rfl
  rw [jump, armJumpArgs, if_pos hmoved] at hjump ⊢
  dsimp only at hjump ⊢
  obtain ⟨hlength, hcarries⟩ := projectEnvironment_ok hjump
  refine ⟨hlength, hcarries, ?_⟩
  rw [projectEnvironment_eq hlength hcarries, htail]

/-- An arm without a match passes the scope that it was prepared with. -/
theorem passesOuter_of_stays (h : e.Sound src) {new : List Binding} (hnames : new.map Binding.span = e.payloads src)
    (hblock : e.lowered.block = e.entry) (henv : e.lowered.env = new ++ e.preparedEnv) : e.PassesOuter src := by
  obtain ⟨next, hprepared, hstack⟩ := h.prepared
  rw [passesOuter_iff_getElem? h]
  intro i b hb
  have hlength : e.preparedEnv.length = min 1024 e.ctx.source.env.length := by rw [hprepared, scopeEnv_length]
  have hc : e.preparedEnv[i]? = some { b with value := next + i } := by
    rw [hprepared, scopeEnv_getElem?, hb]
    rfl
  refine ⟨{ b with value := next + i }, ?_, rfl, ?_⟩
  · rw [henv, ← hnames, List.length_map, List.getElem?_append_right (Nat.le_add_right _ _), Nat.add_sub_cancel_left]
    exact hc
  · rw [jump_of_stays hblock, ← hlength, ← hstack]
    exact contextArguments_getElem? _ (hlength ▸ Nat.min_le_left _ _) (hstack ▸ Nat.min_le_left _ _) hc

end ArmEnd

/-! ## Arguments by name -/

theorem scopeEnv_getElem {env : List Binding} {next i : Nat} (hi : i < (scopeEnv env next).length) :
    ∃ b, env[i]? = some b ∧ (scopeEnv env next)[i] = { b with value := next + i } := by
  have hlength := hi
  rw [scopeEnv_length] at hlength
  have hget := List.getElem?_eq_getElem hi
  rw [scopeEnv_getElem?, List.getElem?_take_of_lt (by omega)] at hget
  obtain ⟨b, hb, hvalue⟩ := Option.map_eq_some_iff.mp hget
  exact ⟨b, hb, hvalue.symm⟩

theorem scopeEnv_span (env : List Binding) (next : Nat) {i : Nat} (hi : i ≤ 1024) :
    ((scopeEnv env next).take i).map Binding.span = (env.take i).map Binding.span := by
  apply List.ext_getElem?
  intro j
  rw [List.getElem?_map, List.getElem?_map]
  by_cases hj : j < i
  · rw [List.getElem?_take_of_lt hj, List.getElem?_take_of_lt hj, scopeEnv_getElem?, List.getElem?_take_of_lt (by omega),
      Option.map_map]
    rfl
  · rw [List.getElem?_take_eq_none (by omega), List.getElem?_take_eq_none (by omega)]

/-- Among fresh parameters a name stands for its own binding when none before it is spelled alike. -/
theorem carried_scopeEnv {env : List Binding} {next m : Nat} {w c : Binding} (h : w.Carries src (scopeEnv env next))
    (hc : env[m]? = some c) (hspan : c.span = w.span) :
    (w.carried src (scopeEnv env next)).value = next + m ↔
      m < 1024 ∧ ∀ name ∈ (env.take m).map Binding.span, spansEqual src name.1 name.2 w.nameStart w.nameStop = false := by
  obtain ⟨b, hnamed, -⟩ := h
  have hreach : (scopeEnv env next).take 1024 = scopeEnv env next :=
    List.take_of_length_le (by rw [scopeEnv_length]; exact Nat.min_le_left _ _)
  rw [Binding.carried, hnamed]
  dsimp only
  rw [named, hreach, List.find?_eq_some_iff_getElem] at hnamed
  obtain ⟨hspells, k, hk, hget, hbefore⟩ := hnamed
  obtain ⟨d, hd, hvalue⟩ := scopeEnv_getElem hk
  rw [hvalue] at hget
  subst hget
  rw [scopeEnv_length] at hk
  -- the names before the one that is found are spelled otherwise
  have hother (j : Nat) (hj : j < k) (a : Binding) (ha : env[j]? = some a) :
      spansEqual src a.nameStart a.nameStop w.nameStart w.nameStop = false := by
    have hnot := hbefore j hj
    obtain ⟨a', ha', hvalue'⟩ := @scopeEnv_getElem env next j (by rw [scopeEnv_length]; omega)
    obtain rfl : a = a' := Option.some.inj (ha.symm.trans ha')
    rw [hvalue'] at hnot
    exact Bool.not_eq_true' _ |>.mp hnot
  constructor
  · intro hm
    obtain rfl : k = m := Nat.add_left_cancel hm
    refine ⟨by omega, ?_⟩
    intro name hname
    obtain ⟨a, ha, rfl⟩ := List.mem_map.mp hname
    obtain ⟨j, hj, rfl⟩ := List.mem_take_iff_getElem.mp ha
    exact hother j (by omega) _ (List.getElem?_eq_getElem (by omega))
  · rintro ⟨hm, hfirst⟩
    rcases Nat.lt_trichotomy k m with hlt | rfl | hgt
    · -- the one that is found is spelled alike
      have hmem : d.span ∈ (env.take m).map Binding.span := by
        refine List.mem_map_of_mem (List.mem_iff_getElem?.mpr ⟨k, ?_⟩)
        rw [List.getElem?_take_of_lt hlt]
        exact hd
      have hnot := hfirst _ hmem
      rw [Binding.Spells] at hspells
      exact absurd hspells (Bool.eq_false_iff.mp hnot)
    · rfl
    · -- the binding itself is spelled alike, as the name has a spelling
      have hself := spansEqual_trans (spansEqual_symm hspells) hspells
      have hnot := hother m hgt c hc
      rw [show c.nameStart = w.nameStart from congrArg Prod.fst hspan,
        show c.nameStop = w.nameStop from congrArg Prod.snd hspan] at hnot
      exact absurd hself (Bool.eq_false_iff.mp hnot)

/-- Each variable of the scope is what its name stands for below the payloads of a pattern, and within reach there. -/
def Unshadowed (src : Source) (payloads : List (Nat × Nat)) (env : List Binding) : Prop :=
  ∀ (i : Nat) (b : Binding), (env.take 1024)[i]? = some b →
    payloads.length + i < 1024 ∧
      ∀ name ∈ payloads ++ (env.take i).map Binding.span,
        spansEqual src name.1 name.2 b.nameStart b.nameStop = false

instance (payloads : List (Nat × Nat)) (env : List Binding) : Decidable (Unshadowed src payloads env) :=
  decidable_of_iff
    (∀ (i : Nat) (hi : i < (env.take 1024).length), payloads.length + i < 1024 ∧
      ∀ name ∈ payloads ++ (env.take i).map Binding.span,
        spansEqual src name.1 name.2 ((env.take 1024)[i]).nameStart ((env.take 1024)[i]).nameStop = false)
    ⟨fun h i b hb => by
      obtain ⟨hi, rfl⟩ := List.getElem?_eq_some_iff.mp hb
      exact h i hi,
    fun h i hi => h i _ (List.getElem?_eq_getElem hi)⟩

namespace ArmEnd

variable {f : Form} {e : ArmEnd f}

/-- An arm with a match is right about a variable when its name stands for it, and no operand is pending. -/
theorem passesOuter_iff_of_moves (h : e.Sound src) (hok : (e.closed src).ok = true) {new : List Binding} {next : Nat}
    (hnames : new.map Binding.span = e.payloads src) (hblock : e.lowered.block ≠ e.entry)
    (henv : e.lowered.env = scopeEnv (new ++ e.preparedEnv) next) :
    e.PassesOuter src ↔
      e.ctx.source.env = [] ∨ e.ctx.source.stack = [] ∧ Unshadowed src (e.payloads src) e.ctx.source.env := by
  obtain ⟨first, hprepared, -⟩ := h.prepared
  obtain ⟨hreach, hcarries, harguments⟩ := jump_of_moves hok hblock
  have hlength : e.preparedEnv.length = min 1024 e.ctx.source.env.length := by rw [hprepared, scopeEnv_length]
  have hnew : new.length = (e.payloads src).length := by rw [← hnames, List.length_map]
  -- the binding of a variable as the arm has it, and at its end
  have hentry {i : Nat} {b : Binding} (hb : (e.ctx.source.env.take 1024)[i]? = some b) :
      e.preparedEnv[i]? = some { b with value := first + i } := by
    rw [hprepared, scopeEnv_getElem?, hb]
    rfl
  have hfull {i : Nat} {b : Binding} (hb : (e.ctx.source.env.take 1024)[i]? = some b) :
      (new ++ e.preparedEnv)[(e.payloads src).length + i]? = some { b with value := first + i } := by
    rw [← hnew, List.getElem?_append_right (Nat.le_add_right _ _), Nat.add_sub_cancel_left]
    exact hentry hb
  have hbefore {i : Nat} (hi : i ≤ 1024) :
      ((new ++ e.preparedEnv).take ((e.payloads src).length + i)).map Binding.span =
        e.payloads src ++ (e.ctx.source.env.take i).map Binding.span := by
    have hscope : (e.preparedEnv.take i).map Binding.span = (e.ctx.source.env.take i).map Binding.span := by
      rw [hprepared]
      exact scopeEnv_span _ _ hi
    rw [← hnew, List.take_length_add_append, List.map_append, hnames, hscope]
  have hargument {i : Nat} {b : Binding} (hstack : e.ctx.source.stack = [])
      (hb : (e.ctx.source.env.take 1024)[i]? = some b) :
      (e.jump src).arguments[min 1024 e.ctx.source.env.length + min 1024 e.ctx.source.stack.length - i]? =
        some { value := (Binding.carried src e.lowered.env { b with value := first + i }).value } := by
    have hget :
        (e.preparedEnv.map (Binding.carried src e.lowered.env))[i]? =
          some (Binding.carried src e.lowered.env { b with value := first + i }) := by
      rw [List.getElem?_map, hentry hb]
      rfl
    have hlast :=
      @contextArguments_getElem? e.result.id _ [] _ _ (by rwa [List.length_map]) (Nat.zero_le 1024) hget
    rw [List.length_map, hlength] at hlast
    rw [harguments, hstack]
    exact hlast
  have hcarried {i : Nat} {b : Binding} (hb : (e.ctx.source.env.take 1024)[i]? = some b) :
      (Binding.carried src e.lowered.env { b with value := first + i }).value = next + ((e.payloads src).length + i) ↔
        (e.payloads src).length + i < 1024 ∧
          ∀ name ∈ e.payloads src ++ (e.ctx.source.env.take i).map Binding.span,
            spansEqual src name.1 name.2 b.nameStart b.nameStop = false := by
    obtain ⟨hi, -⟩ := List.getElem?_eq_some_iff.mp hb
    rw [List.length_take] at hi
    have hcarry := hcarries _ (List.mem_of_getElem? (hentry hb))
    rw [henv] at hcarry ⊢
    rw [carried_scopeEnv hcarry (hfull hb) rfl, hbefore (by omega)]
  rw [passesOuter_iff_getElem? h]
  constructor
  · intro hpasses
    rw [or_iff_not_imp_left]
    intro hne
    have hpos : 0 < e.ctx.source.env.length := List.length_pos_iff.mpr hne
    have hstack : e.ctx.source.stack = [] := by
      -- the variable in front asks for an argument beyond the last
      obtain ⟨c, -, -, hvalue⟩ :=
        hpasses 0 (e.ctx.source.env[0]) (by rw [List.getElem?_take_of_lt (by omega)]; exact List.getElem?_eq_getElem hpos)
      obtain ⟨hlast, -⟩ := List.getElem?_eq_some_iff.mp hvalue
      rw [harguments, contextArguments_length _ (by rwa [List.length_map]) (Nat.zero_le _), List.length_map, hlength,
        List.length_nil] at hlast
      rw [← List.length_eq_zero_iff]
      omega
    refine ⟨hstack, ?_⟩
    intro i b hb
    obtain ⟨c, hc, -, hvalue⟩ := hpasses i b hb
    rw [hargument hstack hb] at hvalue
    rw [henv, scopeEnv_getElem?] at hc
    obtain ⟨d, -, rfl⟩ := Option.map_eq_some_iff.mp hc
    exact (hcarried hb).mp (congrArg Id.value (Option.some.inj hvalue))
  · rintro (hnil | ⟨hstack, hunshadowed⟩) i b hb
    · rw [hnil, List.take_nil] at hb
      cases hb
    · have hkept := hunshadowed i b hb
      refine ⟨{ b with value := next + ((e.payloads src).length + i) }, ?_, rfl, ?_⟩
      · rw [henv, scopeEnv_getElem?, List.getElem?_take_of_lt hkept.1, hfull hb]
        rfl
      · rw [hargument hstack hb, (hcarried hb).mpr hkept]

end ArmEnd

/-- **An arm passes the join what the variables of the outer scope are at its end** exactly when it has no match of its
    own, or nothing is in scope, or no operand is pending and the payloads of its pattern and the variables are all
    spelled apart. -/
theorem passesOuter_iff {f : Form} {e : ArmEnd f} (h : Lowers src e) (hok : (e.closed src).ok = true) :
    e.PassesOuter src ↔
      (∀ operation ∈ f.ops e.arm, isMatchOp operation = false) ∨ e.ctx.source.env = [] ∨
        e.ctx.source.stack = [] ∧ Unshadowed src (e.payloads src) e.ctx.source.env := by
  obtain ⟨new, hnames, hpath⟩ := h.sound.path (ArmEnd.of_ok hok).1
  rcases hpath with ⟨hnone, hblock, henv⟩ | ⟨⟨operation, hmem, hmatch⟩, hblock, next, henv⟩
  · exact iff_of_true (ArmEnd.passesOuter_of_stays h.sound hnames hblock henv) (.inl hnone)
  · rw [ArmEnd.passesOuter_iff_of_moves h.sound hok hnames hblock henv]
    refine (or_iff_right ?_).symm
    intro hnone
    exact Bool.noConfusion (hmatch.symm.trans (hnone operation hmem))

/-! ## A payload that takes the place of a variable

The first arm of the match in `f` names its payload and has a match of its own. With the name `y` the arm passes `x` on;
with the name `x` it passes the payload for it. -/

def armSource (name : UInt8) : Source :=
  { pages :=
      [[109, 110, 99, 115, 32, 48, 46, 49, 56, 59, 109, 111, 100, 117, 108, 101, 32, 109, 59, 101, 110, 117, 109, 32, 69,
        123, 65, 123, 120, 58, 117, 54, 52, 125, 44, 66, 125, 102, 110, 32, 102, 40, 120, 58, 117, 54, 52, 44, 101, 58,
        69, 44, 99, 58, 117, 54, 52, 41, 45, 62, 40, 114, 58, 117, 54, 52, 41, 123, 114, 101, 116, 117, 114, 110, 32,
        109, 97, 116, 99, 104, 32, 101, 123, 65, 123, 120, 58, name, 125, 61, 62, 109, 97, 116, 99, 104, 32, 99, 123, 48,
        61, 62, 120, 44, 95, 61, 62, 50, 125, 44, 66, 61, 62, 51, 125, 59, 125]]
    stride := 1024, total := 117 }

/-- `mncs:0.2:finite-type:m::E` -/
def armEnum : SemanticIdentity :=
  { bytes := Vector.ofFn fun i =>
      [109, 110, 99, 115, 58, 48, 46, 50, 58, 102, 105, 110, 105, 116, 101, 45, 116, 121, 112, 101, 58, 109, 58, 58,
        69].getD i 0
    len := 25, valid := true }

def armSubject : Value := { id := 1, ty := .tNamed 50 51, ownerBlock := 0, kind := 3, index := 0 }

/-- Before the match the parameters of the function are in scope. -/
def armState : ExprBuild :=
  { rest := []
    env :=
      [{ nameStart := 52, nameStop := 53, value := 2, ty := loopIntegerType },
        { nameStart := 48, nameStop := 49, value := 1, ty := .tNamed 50 51 },
        { nameStart := 42, nameStop := 43, value := 0, ty := loopIntegerType }]
    stack := [armSubject], instructions := []
    values :=
      [{ id := 2, ty := loopIntegerType, ownerBlock := 0, kind := 0, index := 2 },
        { id := 1, ty := .tNamed 50 51, ownerBlock := 0, kind := 0, index := 1 },
        { id := 0, ty := loopIntegerType, ownerBlock := 0, kind := 0, index := 0 }]
    nextValue := 3, nextInstruction := 0, sequence := 0, block := 0, parameters := [], generatedBlocks := []
    nextBlockId := 1, nominals := [{ start := 24, stop := 25, identity := armEnum, reference := false }], ok := true
    failureOp := 0 }

/-- The arm `A` with a match of its own. -/
def armOuter : TypedFiniteMatchArm :=
  .mk
    { hasQualifier := false, qualifierStart := 83, qualifierStop := 83, variantStart := 83, variantStop := 84
      hasPayload := true, ignorePayload := false
      bindings := [{ fieldStart := 85, fieldStop := 86, nameStart := 87, nameStop := 88 }], start := 83, stop := 89 }
    armEnum [{ start := 28, stop := 29, ty := loopIntegerType }]
    [.tName loopIntegerType 97 98,
      .tMatch loopIntegerType loopIntegerType
        [.mk false false 0 false 99 100 [.tName loopIntegerType 102 103] 1,
          .mk true false 0 false 104 105 [.tInt 2 loopIntegerType 107 108] 1]
        2 1 91 110]
    2

def armOther : TypedFiniteMatchArm :=
  .mk
    { hasQualifier := false, qualifierStart := 110, qualifierStop := 110, variantStart := 110, variantStop := 111
      hasPayload := false, ignorePayload := false, bindings := [], start := 110, stop := 111 }
    armEnum [] [.tInt 3 loopIntegerType 113 114] 1

def armOpened (src : Source) : FiniteArmBuild :=
  openMatch src armState [] loopIntegerType (.tNamed 50 51) [armOuter, armOther] 2 75 116 armSubject []
    (nominalIdentityForType src armState.nominals (.tNamed 50 51))

def armEnd (src : Source) : ArmEnd .finite := (armOpened src).armEnd src armOuter [armOther]

theorem armEnd_lowers {src : Source}
    (h : finiteBasicOk src armState loopIntegerType (.tNamed 50 51) [armOuter, armOther] 2 armSubject = true) :
    Lowers src (armEnd src) :=
  @Lowers.outer src _ armState (armOpened src) armOuter [armOther] 0 (Opens.finite rfl h) (by decide) rfl

/-- Whether the arm is lowered, what `x` is at its end, and what the arm passes for `x`. -/
def armRun (src : Source) : Bool × Option Binding × Option Id :=
  (((armEnd src).closed src).ok, ((armEnd src).lastBlock src).parameterBindings[3]?,
    ((armEnd src).jump src).arguments[1]?)

set_option maxRecDepth 10000 in
/-- What the lowering of the arm comes to with either name. -/
theorem armRun_evaluated (src : Source) :
    (src = armSource 121 →
      finiteBasicOk src armState loopIntegerType (.tNamed 50 51) [armOuter, armOther] 2 armSubject = true ∧
        ((armEnd src).closed src).ok = true ∧
        Unshadowed src ((armEnd src).payloads src) (armEnd src).ctx.source.env) ∧
    (src = armSource 120 →
      finiteBasicOk src armState loopIntegerType (.tNamed 50 51) [armOuter, armOther] 2 armSubject = true ∧
        (armEnd src).ctx.joinEnv[2]? =
          some { nameStart := 42, nameStop := 43, value := 5, ty := loopIntegerType } ∧
        ((armEnd src).ctx.joinParams.map Value.id)[1]? = some 5 ∧
        (armEnd src).payloads src = [(87, 88)] ∧
        armRun src =
          (true, some { nameStart := 42, nameStop := 43, value := 15, ty := loopIntegerType },
            some { value := 12 })) := by
  -- the loops are put in their short form before the source is known
  simp -zeta only [↓iterate_eq_run, finiteBasicOk, nominalIdentityForType, nominalIdentityForSpan, nominalIdentityAt,
    nominalIdentityByName, typedFiniteMatchCount_eq, armEnd, armOpened, openMatch, matchContextParameters,
    prepareBlockEnvironment, matchStackParameterStep, matchStackParameterOne, blockParameterStep, addBlockParameter,
    supportedValueType, nominalValueTypeBound, reverseWithin_eq, reverseEnvironment, ArmBuild.armEnd, ArmBuild.seed,
    ArmBuild.prepared, ArmBuild.enterArm, lowerMatchPayloads, lowerMatchPayloadStep, lowerMatchPayloadOne,
    findMatchPayloadField, lowerNestedArmOps, nestDriverStep, nestDriverOp, nestDriverPop, nestArmDone, nestArmStart,
    nestScalarSetup, nestFiniteSetup, nestSetupSubject, nestAssemble, ArmBuild.closeArm, assembleMatch, armJumpArgs,
    projectEnvironment, projectEnvironmentStep, projectEnvironmentBinding, appendIds, matchContextIds, valueStackIds,
    reverseIdList, bindingIds, collectWithin_eq, prependWithin_eq, lowerArmOperation, lowerName, lookupBinding,
    scalarBasicOk, typedScalarMatchArmTotal_eq, reverseInstructions, prependGeneratedBlocks, ArmEnd.closed,
    ArmEnd.payloads, armRun, ArmEnd.lastBlock, ArmEnd.jump, ArmEnd.resultOk]
  refine ⟨?_, ?_⟩
  · intro hsrc
    subst hsrc
    decide +kernel
  · intro hsrc
    subst hsrc
    decide +kernel

theorem armRun_apart :
    finiteBasicOk (armSource 121) armState loopIntegerType (.tNamed 50 51) [armOuter, armOther] 2 armSubject = true ∧
      ((armEnd (armSource 121)).closed (armSource 121)).ok = true ∧
      Unshadowed (armSource 121) ((armEnd (armSource 121)).payloads (armSource 121))
        (armEnd (armSource 121)).ctx.source.env :=
  (armRun_evaluated _).1 rfl

theorem armRun_shadowed :
    finiteBasicOk (armSource 120) armState loopIntegerType (.tNamed 50 51) [armOuter, armOther] 2 armSubject = true ∧
      (armEnd (armSource 120)).ctx.joinEnv[2]? =
        some { nameStart := 42, nameStop := 43, value := 5, ty := loopIntegerType } ∧
      ((armEnd (armSource 120)).ctx.joinParams.map Value.id)[1]? = some 5 ∧
      (armEnd (armSource 120)).payloads (armSource 120) = [(87, 88)] ∧
      armRun (armSource 120) =
        (true, some { nameStart := 42, nameStop := 43, value := 15, ty := loopIntegerType }, some { value := 12 }) :=
  (armRun_evaluated _).2 rfl

theorem passesOuter_iff_apart : (armEnd (armSource 121)).PassesOuter (armSource 121) := by
  obtain ⟨hbasic, hok, hunshadowed⟩ := armRun_apart
  exact (passesOuter_iff (armEnd_lowers hbasic) hok).mpr (.inr (.inr ⟨rfl, hunshadowed⟩))

theorem not_passesOuter :
    ¬ ∀ (src : Source) (f : Form) (e : ArmEnd f), Lowers src e → (e.closed src).ok = true → e.PassesOuter src := by
  intro h
  obtain ⟨hbasic, hjoinEnv, hjoinParams, hpayloads, hrun⟩ := armRun_shadowed
  obtain ⟨hok, hrun⟩ := Prod.mk.inj hrun
  obtain ⟨hlast, hjump⟩ := Prod.mk.inj hrun
  obtain ⟨c, hc, -, hvalue⟩ := h _ _ _ (armEnd_lowers hbasic) hok 2 1 _ _ rfl hjoinEnv hjoinParams
  rw [hpayloads, List.length_singleton, hlast] at hc
  rw [hjump, ← Option.some.inj hc] at hvalue
  exact absurd (congrArg (Option.map Id.value) hvalue) (by decide)

end MncsCompiler.Ssa
