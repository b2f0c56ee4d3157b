import MncsCompiler.Ssa.Availability
import MncsCompiler.Ssa.Variables

/-!
# `Ssa.Arms` — what the arm of a match hands to the join

An arm that has not moved on passes the scope that it was prepared with. An arm with a match of its own ends in the join
of that match, and finds the variables of the outer scope again by their spelling, in a scope that holds the payloads of
its pattern too. `Progress` follows an arm from its entry to its end: it stays in its block with its scope, or has moved
to a later block where each binding of its scope has a fresh parameter. The driver of nested matches keeps this for every
arm on its stack.
-/

namespace MncsCompiler.Ssa

open BoundedLoop Decl

variable {src : Source}

/-! ## Progress of an arm -/

theorem scopeEnv_scopeEnv (env : List Binding) (next next' : Nat) :
    scopeEnv (scopeEnv env next) next' = scopeEnv env next' := by
  have hlength : (scopeEnv env next).length ≤ 1024 := by
    rw [scopeEnv_length]
    exact Nat.min_le_left 1024 env.length
  rw [scopeEnv, List.take_of_length_le hlength, scopeEnv, scopeEnv, List.mapIdx_mapIdx]
  rfl

/-- The operations from `seed` on have come to `st`: in the same block and scope as long as there was no match, and
    otherwise in another block that has a parameter for each binding in scope. -/
structure Progress (seed st : ExprBuild) : Prop where
  ok : st.ok = true → seed.ok = true
  fresh : seed.block < st.nextBlockId
  path : ∃ done, seed.rest = done ++ st.rest ∧
    ((∀ operation ∈ done, isMatchOp operation = false) ∧ st.block = seed.block ∧ st.env = seed.env ∨
      (∃ operation ∈ done, isMatchOp operation = true) ∧ st.block ≠ seed.block ∧
        ∃ next, st.env = scopeEnv seed.env next)

theorem Progress.refl {st : ExprBuild} (h : st.block < st.nextBlockId) : Progress st st where
  ok := id
  fresh := h
  path := ⟨[], rfl, .inl ⟨fun _ ho => (List.not_mem_nil ho).elim, rfl, rfl⟩⟩

/-- What an arm has come to depends on these fields only. -/
theorem Progress.congr {seed st st' : ExprBuild} (h : Progress seed st) (hok : st'.ok = true → st.ok = true)
    (hrest : st'.rest = st.rest) (henv : st'.env = st.env) (hblock : st'.block = st.block)
    (hnext : st'.nextBlockId = st.nextBlockId) : Progress seed st' where
  ok := fun hst => h.ok (hok hst)
  fresh := hnext ▸ h.fresh
  path := by
    rw [hrest, henv, hblock]
    exact h.path

theorem Operates.keeps {st st' : ExprBuild} {rest : List TOp} (h : Operates st rest st') :
    st'.rest = rest ∧ st'.env = st.env ∧ st'.block = st.block ∧ st'.nextBlockId = st.nextBlockId := by
  cases h with
  | reject => exact ⟨rfl, rfl, rfl, rfl⟩
  | push hb hv => exact ⟨rfl, rfl, rfl, rfl⟩
  | emit hstack hresult hid hsequence => exact ⟨rfl, rfl, rfl, rfl⟩

/-- An operation that is no match stays in its block. -/
theorem Progress.operation {seed st : ExprBuild} {operation : TOp} {rest : List TOp} (h : Progress seed st)
    (hrest : st.rest = operation :: rest) (hplain : isMatchOp operation = false) :
    Progress seed (lowerArmOperation src st operation rest) := by
  have hop := lowerArmOperation_operates src st operation rest
  obtain ⟨hleft, henv, hblock, hnext⟩ := hop.keeps
  obtain ⟨done, hdone, hpath⟩ := h.path
  refine ⟨fun hok => h.ok (hop.ok_mono hok), hnext ▸ h.fresh, done ++ [operation], ?_, ?_⟩
  · rw [hdone, hleft, hrest, List.append_assoc]
    rfl
  · rw [henv, hblock]
    rcases hpath with ⟨hnone, hstay⟩ | ⟨⟨o, ho, hmatch⟩, hmoved⟩
    · left
      refine ⟨?_, hstay⟩
      intro o ho
      rcases List.mem_append.mp ho with ho | ho
      · exact hnone o ho
      · rw [List.mem_singleton.mp ho]
        exact hplain
    · exact .inr ⟨⟨o, List.mem_append_left _ ho, hmatch⟩, hmoved⟩

/-- A match moves on to its join. -/
theorem Progress.join {f : Form} {seed source : ExprBuild} {ctx : ArmBuild f} {operation : TOp} {next : Nat}
    (h : Progress seed { source with rest := operation :: source.rest }) (hmatch : isMatchOp operation = true)
    (henv : ctx.joinEnv = scopeEnv source.env next) (hjoin : source.nextBlockId ≤ ctx.joinId)
    (hnext : ctx.joinId < ctx.nextBlock) : Progress seed (assembleMatch source ctx) := by
  obtain ⟨done, hdone, hpath⟩ := h.path
  have hfresh : seed.block < source.nextBlockId := h.fresh
  refine ⟨fun hok => h.ok ((Bool.and_eq_true _ _).mp hok).1, ?_, done ++ [operation], ?_, .inr ⟨?_, ?_, ?_⟩⟩
  · show seed.block < ctx.nextBlock
    omega
  · rw [hdone, List.append_assoc]
    rfl
  · exact ⟨operation, List.mem_append_right _ (List.mem_singleton_self operation), hmatch⟩
  · show ctx.joinId ≠ seed.block
    omega
  · show ∃ next, ctx.joinEnv = scopeEnv seed.env next
    rcases hpath with ⟨-, -, hscope⟩ | ⟨-, -, next', hscope⟩
    · exact ⟨next, henv.trans (congrArg (scopeEnv · next) hscope)⟩
    · refine ⟨next, henv.trans ?_⟩
      rw [show source.env = scopeEnv seed.env next' from hscope, scopeEnv_scopeEnv]

/-! ## Matches under way -/

/-- A match that lowers its arms: its join is beyond the blocks of the arms, and has a parameter for the result, for each
    operand and for each binding in scope. Fewer than `bound` arms are done. -/
structure ArmBuild.Sound {f : Form} (bound : Nat) (ctx : ArmBuild f) : Prop where
  join : ctx.joinId = ctx.source.nextBlockId + ctx.armCount
  next : ctx.joinId < ctx.nextBlock
  count : ctx.armCount = min 1024 (ctx.armIndex + ctx.rest.length)
  index : ctx.armIndex < bound
  context : ∃ first, ctx.joinEnv = scopeEnv ctx.source.env first ∧
    ctx.joinParams.map Value.id =
      (List.range' first (min 1024 ctx.source.env.length + min 1024 ctx.source.stack.length + 1)).reverse

theorem ArmBuild.Sound.mono {f : Form} {bound bound' : Nat} {ctx : ArmBuild f} (h : ctx.Sound bound)
    (hle : bound ≤ bound') : ctx.Sound bound' :=
  ⟨h.join, h.next, h.count, Nat.lt_of_lt_of_le h.index hle, h.context⟩

theorem typedFiniteMatchCount_eq (arms : List TypedFiniteMatchArm) :
    typedFiniteMatchCount arms = min 1024 arms.length := by
  rw [typedFiniteMatchCount, iterate_count TypedFiniteMatchCount.rest TypedFiniteMatchCount.count, Nat.zero_add]
  · intro st hst
    rw [typedFiniteMatchCountStep, hst]
  · intro st arm rest hst
    rw [typedFiniteMatchCountStep, hst]
    exact ⟨rfl, rfl⟩

theorem typedScalarMatchArmTotal_eq (arms : List TypedScalarMatchArm) :
    typedScalarMatchArmTotal arms = min 1024 arms.length := by
  rw [typedScalarMatchArmTotal, typedScalarMatchCount, iterate_count TypedScalarMatchCount.rest TypedScalarMatchCount.n, Nat.zero_add]
  · intro st hst
    rw [typedScalarMatchCountStep, hst]
  · intro st arm rest hst
    rw [typedScalarMatchCountStep, hst]
    exact ⟨rfl, rfl⟩

theorem scopeParams_ids (env : List Binding) (block next : Nat) :
    (scopeParams env block next).map Value.id = List.range' next (min 1024 env.length) := by
  rw [scopeParams]
  apply List.ext_getElem
  · rw [List.length_map, List.length_mapIdx, List.length_take, List.length_range']
  · intro i hi hi'
    rw [List.getElem_map, List.getElem_mapIdx, List.getElem_range', Nat.one_mul]

theorem operandParams_ids (stack : List Value) (block next index : Nat) :
    (operandParams stack block next index).map Value.id = List.range' next (min 1024 stack.length) := by
  rw [operandParams]
  apply List.ext_getElem
  · rw [List.length_map, List.length_mapIdx, List.length_take, List.length_range']
  · intro i hi hi'
    rw [List.getElem_map, List.getElem_mapIdx, List.getElem_range', Nat.one_mul]

/-- A match before its arms. -/
theorem openMatch_sound {f : Form} {st : ExprBuild} {rest : List TOp} {resultTy subjectTy : SemType}
    {arms : List f.Arm} {armCount start stop : Nat} {subject : Value} {baseStack : List Value} {own : f.Own}
    {bound : Nat} (hcount : armCount = min 1024 arms.length) (hbound : 0 < bound) :
    (openMatch src st rest resultTy subjectTy arms armCount start stop subject baseStack own).Sound bound := by
  rw [openMatch, matchContextParameters_eq]
  refine ⟨rfl, Nat.lt_succ_self _, ?_, hbound, st.nextValue, rfl, ?_⟩
  · show armCount = min 1024 (0 + arms.length)
    rw [hcount, Nat.zero_add]
  · dsimp only
    rw [List.map_cons, List.map_append, List.map_reverse, List.map_reverse, operandParams_ids, scopeParams_ids,
      List.range'_concat, List.reverse_append, ← List.range'_append_1, List.reverse_append, Nat.one_mul, Nat.add_assoc]
    rfl

/-- The next arm of a match starts before its join, in a block of its own. -/
theorem ArmBuild.Sound.entry_lt {f : Form} {bound : Nat} {ctx : ArmBuild f} {arm : f.Arm} {rest : List f.Arm}
    (h : ctx.Sound bound) (hrest : ctx.rest = arm :: rest) (hbound : bound ≤ 1024) :
    ctx.source.nextBlockId + ctx.armIndex < ctx.joinId := by
  have hindex := h.index
  have hcount := h.count
  rw [hrest, List.length_cons] at hcount
  rw [h.join, hcount]
  omega

/-- After an arm one more is done. -/
theorem closeArm_sound {f : Form} {bound : Nat} {ctx : ArmBuild f} {arm : f.Arm}
    (h : ArmBuild.Sound bound { ctx with rest := arm :: ctx.rest }) (entry : Nat) (preparedOk seedOk : Bool)
    (preparedEnv : List Binding) (preparedStack : List Value) (lowered : ExprBuild) :
    (ctx.closeArm src arm entry preparedOk seedOk preparedEnv preparedStack lowered).Sound (bound + 1) := by
  refine ⟨h.join, ?_, ?_, Nat.succ_lt_succ h.index, h.context⟩
  · show ctx.joinId < if lowered.nextBlockId > ctx.nextBlock then lowered.nextBlockId else ctx.nextBlock
    have hnext : ctx.joinId < ctx.nextBlock := h.next
    split <;> omega
  · show ctx.armCount = min 1024 (ctx.armIndex + 1 + ctx.rest.length)
    have hcount : ctx.armCount = min 1024 (ctx.armIndex + (ctx.rest.length + 1)) := h.count
    rw [hcount]
    congr 1
    omega

theorem enterArm_keeps {f : Form} (ctx : ArmBuild f) (arm : f.Arm) (entry : Nat) (prepared : MatchContextBuild) :
    (ctx.enterArm src arm entry prepared).rest = f.ops arm ∧
      (ctx.enterArm src arm entry prepared).block = entry ∧
      (ctx.enterArm src arm entry prepared).nextBlockId = ctx.nextBlock := by
  cases f with
  | finite => exact ⟨rfl, rfl, rfl⟩
  | scalar => exact ⟨rfl, rfl, rfl⟩

/-- An arm at its entry. -/
theorem enterArm_progress {f : Form} {bound : Nat} {ctx : ArmBuild f} {arm : f.Arm} {rest : List f.Arm}
    (h : ctx.Sound bound) (hrest : ctx.rest = arm :: rest) (hbound : bound ≤ 1024) (prepared : MatchContextBuild) :
    Progress (ctx.enterArm src arm (ctx.source.nextBlockId + ctx.armIndex) prepared)
      (ctx.enterArm src arm (ctx.source.nextBlockId + ctx.armIndex) prepared) := by
  apply Progress.refl
  obtain ⟨-, hblock, hnext⟩ :=
    @enterArm_keeps src f ctx arm (ctx.source.nextBlockId + ctx.armIndex) prepared
  rw [hblock, hnext]
  exact Nat.lt_trans (h.entry_lt hrest hbound) h.next

/-! ## The driver -/

def NestFrame.entry (frame : NestFrame) : Nat := frame.ctx.source.nextBlockId + frame.ctx.armIndex

def NestFrame.prepared (src : Source) (frame : NestFrame) : MatchContextBuild :=
  frame.ctx.prepared src frame.entry

/-- The entry of the arm of a frame. -/
def NestFrame.seed (src : Source) (frame : NestFrame) : ExprBuild :=
  frame.ctx.enterArm src frame.arm frame.entry (frame.prepared src)

/-- A frame keeps what its arm was prepared with. -/
structure NestFrame.Opened (src : Source) (bound : Nat) (frame : NestFrame) : Prop where
  sound : ArmBuild.Sound bound { frame.ctx with rest := frame.arm :: frame.ctx.rest }
  env : frame.preparedEnv = (frame.prepared src).env
  stack : frame.preparedStack = (frame.prepared src).stack

/-- Each arm on the stack of the driver has come to the match that the one above belongs to. -/
inductive Chain (src : Source) (bound : Nat) (seed : ExprBuild) : ExprBuild → List NestFrame → Prop
  | base {st : ExprBuild} (h : Progress seed st) : Chain src bound seed st []
  | frame {st : ExprBuild} {frame : NestFrame} {frames : List NestFrame} {operation : TOp}
      (hopened : frame.Opened src bound) (h : Progress (frame.seed src) st) (hmatch : isMatchOp operation = true)
      (hbelow : Chain src bound seed { frame.ctx.source with rest := operation :: frame.ctx.source.rest } frames) :
      Chain src bound seed st (frame :: frames)

theorem Chain.mono {bound bound' : Nat} {seed st : ExprBuild} {frames : List NestFrame}
    (h : Chain src bound seed st frames) (hle : bound ≤ bound') : Chain src bound' seed st frames := by
  induction h with
  | base h => exact .base h
  | frame hopened h hmatch hbelow ih =>
      exact .frame ⟨hopened.sound.mono hle, hopened.env, hopened.stack⟩ h hmatch ih

/-- The arm on top goes on. -/
theorem Chain.map {bound : Nat} {seed st st' : ExprBuild} {frames : List NestFrame} (h : Chain src bound seed st frames)
    (hmap : ∀ s, Progress s st → Progress s st') : Chain src bound seed st' frames := by
  cases h with
  | base h => exact .base (hmap _ h)
  | frame hopened h hmatch hbelow => exact .frame hopened (hmap _ h) hmatch hbelow

/-- The frame of an arm that starts. -/
def ArmBuild.frame (src : Source) {f : Form} (ctx : ArmBuild f) (arm : f.Arm) (rest : List f.Arm) : NestFrame :=
  let prepared := ctx.prepared src (ctx.source.nextBlockId + ctx.armIndex)
  { form := f, ctx := { ctx with rest := rest }, arm := arm, preparedEnv := prepared.env
    preparedStack := prepared.stack }

theorem frame_opened {f : Form} {bound : Nat} {ctx : ArmBuild f} {arm : f.Arm} {rest : List f.Arm}
    (hctx : ctx.Sound bound) (hrest : ctx.rest = arm :: rest) : (ctx.frame src arm rest).Opened src bound := by
  have hsame : { ctx with rest := arm :: rest } = ctx := by rw [← hrest]
  constructor
  · show ArmBuild.Sound bound { ctx with rest := arm :: rest }
    rw [hsame]
    exact hctx
  · dsimp only [ArmBuild.frame, NestFrame.prepared, NestFrame.entry, ArmBuild.prepared]
  · dsimp only [ArmBuild.frame, NestFrame.prepared, NestFrame.entry, ArmBuild.prepared]

theorem frame_seed {f : Form} (ctx : ArmBuild f) (arm : f.Arm) (rest : List f.Arm) :
    (ctx.frame src arm rest).seed src =
      ctx.enterArm src arm (ctx.source.nextBlockId + ctx.armIndex)
        (ctx.prepared src (ctx.source.nextBlockId + ctx.armIndex)) := by
  cases f with
  | finite => dsimp only [ArmBuild.frame, NestFrame.seed, NestFrame.prepared, NestFrame.entry, ArmBuild.prepared, ArmBuild.enterArm]
  | scalar => dsimp only [ArmBuild.frame, NestFrame.seed, NestFrame.prepared, NestFrame.entry, ArmBuild.prepared, ArmBuild.enterArm]

/-- A match under way starts its next arm. -/
theorem nestArmStart_chain {f : Form} {bound : Nat} {seed : ExprBuild} {st : NestDriver} {ctx : ArmBuild f}
    {arm : f.Arm} {rest : List f.Arm} {operation : TOp} (hctx : ctx.Sound bound) (hrest : ctx.rest = arm :: rest)
    (hbound : bound ≤ 1024) (hmatch : isMatchOp operation = true)
    (hbelow : Chain src bound seed { ctx.source with rest := operation :: ctx.source.rest } st.frames) :
    Chain src bound seed (nestArmStart src st ctx arm rest).build (nestArmStart src st ctx arm rest).frames := by
  have hbuild : (nestArmStart src st ctx arm rest).build = (ctx.frame src arm rest).seed src :=
    (frame_seed ctx arm rest).symm
  have hprogress : Progress ((ctx.frame src arm rest).seed src) ((ctx.frame src arm rest).seed src) := by
    rw [frame_seed]
    exact enterArm_progress hctx hrest hbound _
  rw [hbuild]
  exact @Chain.frame src bound seed _ (ctx.frame src arm rest) st.frames operation (frame_opened hctx hrest) hprogress
    hmatch hbelow

/-- The rest of the match does not matter for the arm that starts. -/
theorem nestArmStart_rest {f : Form} (st : NestDriver) (ctx : ArmBuild f) (arm : f.Arm) (rest rest' : List f.Arm) :
    nestArmStart src st { ctx with rest := rest' } arm rest = nestArmStart src st ctx arm rest := by
  cases f with
  | finite => rfl
  | scalar => rfl

theorem nestFail_chain {bound : Nat} {seed : ExprBuild} {st : NestDriver} (f : Form)
    (h : Chain src bound seed st.build st.frames) :
    Chain src bound seed (nestFail st f).build (nestFail st f).frames := by
  apply h.map
  intro s hs
  exact hs.congr (fun hok => Bool.noConfusion hok) rfl rfl rfl rfl

/-- A match that is set up suspends the operations at hand. -/
theorem nestSetupSubject_chain {f : Form} {bound : Nat} {seed : ExprBuild} {st : NestDriver} {operation : TOp}
    {rest : List TOp} {resultTy subjectTy : SemType} {arms : List f.Arm} {armCount start stop : Nat} {subject : Value}
    {baseStack : List Value} {own : f.Own} {basicOk : Bool} (h : Chain src bound seed st.build st.frames)
    (hrest : st.build.rest = operation :: rest) (hmatch : isMatchOp operation = true) (hpos : 0 < bound)
    (hbound : bound ≤ 1024) (hcount : basicOk = true → armCount = min 1024 arms.length) :
    let st' := nestSetupSubject src st rest resultTy subjectTy arms armCount start stop subject baseStack own basicOk
    Chain src bound seed st'.build st'.frames := by
  intro st'
  cases hbasic : basicOk with
  | false =>
      have hst' : st' = nestFail st f := by
        simp only [st', nestSetupSubject, hbasic, Bool.not_false, if_true]
      rw [hst']
      exact nestFail_chain f h
  | true =>
      cases arms with
      | nil =>
          have hst' : st' = nestFail st f := by
            simp only [st', nestSetupSubject, hbasic, Bool.not_true, Bool.false_eq_true, if_false]
          rw [hst']
          exact nestFail_chain f h
      | cons arm restArms =>
          have hst' :
              st' =
                nestArmStart src st
                  (openMatch src st.build rest resultTy subjectTy (arm :: restArms) armCount start stop subject
                    baseStack own)
                  arm restArms := by
            simp only [st', nestSetupSubject, hbasic, Bool.not_true, Bool.false_eq_true, if_false]
          rw [hst']
          refine nestArmStart_chain (openMatch_sound (hcount hbasic) hpos) rfl hbound hmatch (h.map ?_)
          intro s hs
          exact hs.congr id hrest.symm rfl rfl rfl

theorem finiteBasicOk_count {st : ExprBuild} {resultTy subjectTy : SemType} {arms : List TypedFiniteMatchArm}
    {armCount : Nat} {subject : Value} (h : finiteBasicOk src st resultTy subjectTy arms armCount subject = true) :
    armCount = min 1024 arms.length := by
  rw [← typedFiniteMatchCount_eq]
  simp only [finiteBasicOk, Bool.and_eq_true, decide_eq_true_eq] at h
  exact h.1.1.1.2.symm

theorem scalarBasicOk_count {st : ExprBuild} {resultTy subjectTy : SemType} {arms : List TypedScalarMatchArm}
    {armCount defaultCount : Nat} {subject : Value}
    (h : scalarBasicOk src st resultTy subjectTy arms armCount defaultCount subject = true) :
    armCount = min 1024 arms.length := by
  rw [← typedScalarMatchArmTotal_eq]
  simp only [scalarBasicOk, Bool.and_eq_true, decide_eq_true_eq] at h
  exact h.1.1.1.1.2.symm

theorem nestDriverOp_chain {bound : Nat} {seed : ExprBuild} {st : NestDriver} {operation : TOp} {rest : List TOp}
    (h : Chain src bound seed st.build st.frames) (hrest : st.build.rest = operation :: rest) (hpos : 0 < bound)
    (hbound : bound ≤ 1024) :
    Chain src bound seed (nestDriverOp src st operation rest).build (nestDriverOp src st operation rest).frames := by
  by_cases hmatch : isMatchOp operation = true
  · cases operation with
    | tMatch ty subjectTy arms armCount defaultCount start stop =>
        rw [nestDriverOp, nestScalarSetup]
        cases st.build.stack with
        | nil => exact nestFail_chain .scalar h
        | cons subject baseStack =>
            exact nestSetupSubject_chain h hrest hmatch hpos hbound scalarBasicOk_count
    | tFiniteMatch ty subjectTy arms armCount start stop =>
        rw [nestDriverOp, nestFiniteSetup]
        cases st.build.stack with
        | nil => exact nestFail_chain .finite h
        | cons subject baseStack =>
            exact nestSetupSubject_chain h hrest hmatch hpos hbound finiteBasicOk_count
    | _ => exact Bool.noConfusion hmatch
  · have hplain : isMatchOp operation = false := Bool.eq_false_iff.mpr hmatch
    have hstep :
        nestDriverOp src st operation rest =
          { build := lowerArmOperation src st.build operation rest, frames := st.frames, done := false } := by
      cases operation with
      | tMatch => exact Bool.noConfusion hplain
      | tFiniteMatch => exact Bool.noConfusion hplain
      | _ => rfl
    rw [hstep]
    exact h.map fun s hs => hs.operation hrest hplain

/-- An arm that is through: its match starts the next arm, or moves on to its join. -/
theorem nestArmDone_chain {n : Nat} {seed : ExprBuild} {st : NestDriver} {frame : NestFrame} {frames : List NestFrame}
    {operation : TOp} (hopened : frame.Opened src n) (hmatch : isMatchOp operation = true) (hn : n < 1024)
    (hbelow : Chain src n seed { frame.ctx.source with rest := operation :: frame.ctx.source.rest } frames) :
    Chain src (n + 1) seed (nestArmDone src st frame frames).build (nestArmDone src st frame frames).frames := by
  have hsound :=
    @closeArm_sound src _ _ _ _ hopened.sound frame.entry true true frame.preparedEnv frame.preparedStack st.build
  rw [nestArmDone]
  cases hrest : frame.ctx.rest with
  | nil =>
      obtain ⟨first, henv, -⟩ := hsound.context
      refine (hbelow.mono (Nat.le_succ n)).map ?_
      intro s hs
      exact Progress.join (hs.congr id rfl rfl rfl rfl) hmatch henv (Nat.le.intro hsound.join.symm) hsound.next
  | cons nextArm restArms =>
      dsimp only
      rw [nestArmStart_rest]
      refine nestArmStart_chain hsound hrest hn hmatch ((hbelow.mono (Nat.le_succ n)).map ?_)
      intro s hs
      exact hs.congr id rfl rfl rfl rfl

theorem nestDriverPop_chain {n : Nat} {seed : ExprBuild} {st : NestDriver} (hn : n < 1024)
    (h : Chain src n seed st.build st.frames) :
    Chain src (n + 1) seed (nestDriverPop src st).build (nestDriverPop src st).frames := by
  cases st with
  | mk build frames done =>
      cases frames with
      | nil => exact h.mono (Nat.le_succ n)
      | cons frame frames =>
          cases h with
          | frame hopened hprogress hmatch hbelow => exact nestArmDone_chain hopened hmatch hn hbelow

/-- What a step of the driver keeps. -/
theorem nestDriverStep_chain {n : Nat} {seed : ExprBuild} {st : NestDriver} (hn : n < 1024)
    (h : Chain src n seed st.build st.frames) :
    Chain src (n + 1) seed (nestDriverStep src st).build (nestDriverStep src st).frames := by
  have hmono := h.mono (Nat.le_succ n)
  rw [nestDriverStep]
  split
  · exact hmono
  cases hrest : st.build.rest with
  | nil => exact nestDriverPop_chain hn h
  | cons operation rest => exact nestDriverOp_chain hmono hrest (Nat.succ_pos n) hn

theorem iterate_nestDriverStep_chain {n : Nat} {seed : ExprBuild} (hseed : seed.block < seed.nextBlockId)
    (hn : n ≤ 1024) :
    let st := (nestDriverStep src)^[n] { build := seed, frames := [], done := false }
    Chain src n seed st.build st.frames := by
  induction n with
  | zero => exact .base (Progress.refl hseed)
  | succ n ih =>
      rw [Function.iterate_succ_apply']
      exact nestDriverStep_chain hn (ih (Nat.le_of_succ_le hn))

theorem nestSetupSubject_done {f : Form} {st : NestDriver} {rest : List TOp} {resultTy subjectTy : SemType}
    {arms : List f.Arm} {armCount start stop : Nat} {subject : Value} {baseStack : List Value} {own : f.Own}
    {basicOk : Bool} :
    (nestSetupSubject src st rest resultTy subjectTy arms armCount start stop subject baseStack own basicOk).done =
      false := by
  cases basicOk with
  | false => rfl
  | true =>
      cases arms with
      | nil => rfl
      | cons arm restArms => rfl

theorem nestDriverOp_done {st : NestDriver} {operation : TOp} {rest : List TOp} :
    (nestDriverOp src st operation rest).done = false := by
  cases operation with
  | tMatch ty subjectTy arms armCount defaultCount start stop =>
      rw [nestDriverOp, nestScalarSetup]
      cases st.build.stack with
      | nil => rfl
      | cons subject baseStack => exact nestSetupSubject_done
  | tFiniteMatch ty subjectTy arms armCount start stop =>
      rw [nestDriverOp, nestFiniteSetup]
      cases st.build.stack with
      | nil => rfl
      | cons subject baseStack => exact nestSetupSubject_done
  | _ => rfl

theorem nestArmDone_done {st : NestDriver} {frame : NestFrame} {frames : List NestFrame} :
    (nestArmDone src st frame frames).done = false := by
  rw [nestArmDone]
  cases frame.ctx.rest with
  | nil => rfl
  | cons nextArm restArms => rfl

/-- The driver is done when it has no operations and no arms left. -/
structure NestDriver.Settled (st : NestDriver) : Prop where
  frames : st.done = true → st.frames = []
  rest : st.done = true → st.build.rest = []

theorem nestDriverStep_settled {st : NestDriver} (h : st.Settled) : (nestDriverStep src st).Settled := by
  have hgoing {st' : NestDriver} (hst' : st'.done = false) : st'.Settled :=
    ⟨fun hdone => Bool.noConfusion (hst'.symm.trans hdone), fun hdone => Bool.noConfusion (hst'.symm.trans hdone)⟩
  rw [nestDriverStep]
  split
  · exact h
  cases hrest : st.build.rest with
  | cons operation rest => exact hgoing nestDriverOp_done
  | nil =>
      cases st with
      | mk build frames done =>
          cases frames with
          | nil => exact ⟨fun _ => rfl, fun _ => hrest⟩
          | cons frame frames => exact hgoing nestArmDone_done

theorem iterate_nestDriverStep_settled (n : Nat) {st : NestDriver} (h : st.Settled) :
    ((nestDriverStep src)^[n] st).Settled := by
  induction n with
  | zero => exact h
  | succ n ih =>
      rw [Function.iterate_succ_apply']
      exact nestDriverStep_settled ih

/-- An arm that the driver gets through has come to the end of its operations. -/
theorem lowerNestedArmOps_progress {seed : ExprBuild} (hseed : seed.block < seed.nextBlockId)
    (hok : (lowerNestedArmOps src seed).ok = true) :
    Progress seed (lowerNestedArmOps src seed) ∧ (lowerNestedArmOps src seed).rest = [] := by
  have hchain := @iterate_nestDriverStep_chain src 1024 seed hseed (Nat.le_refl 1024)
  have hsettled :=
    @iterate_nestDriverStep_settled src 1024 { build := seed, frames := [], done := false }
      ⟨fun h => Bool.noConfusion h, fun h => Bool.noConfusion h⟩
  rw [lowerNestedArmOps] at hok ⊢
  generalize (nestDriverStep src)^[1024] { build := seed, frames := [], done := false } = st at hchain hsettled hok ⊢
  rw [nestDriverResult] at hok ⊢
  by_cases hdone : st.done = true
  · rw [if_pos hdone]
    dsimp only at hchain
    rw [hsettled.frames hdone] at hchain
    cases hchain with
    | base h => exact ⟨h, hsettled.rest hdone⟩
  · rw [if_neg hdone] at hok
    exact Bool.noConfusion hok

end MncsCompiler.Ssa
