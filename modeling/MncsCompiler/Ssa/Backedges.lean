import MncsCompiler.Ssa.Availability
import MncsCompiler.Ssa.Variables

/-!
# `Ssa.Backedges` — what the back edge of a loop carries

The header of a loop takes a parameter for each variable that its entry edge brings. The back edge passes them again,
each found by its spelling in the scope at the end of the body. When every name there stands for its own variable, the
state receives its next value, the index its successor, and every other variable keeps its value. A name that the body
has bound anew stands for the inner variable, and the outer one is lost.
-/

namespace MncsCompiler.Ssa

open BoundedLoop Decl Flow Halting

variable {src : Source}

/-! ## The expressions of a block -/

section Expressions

variable {st : SsaBuild} {block : Block TOp}

theorem expressionsAt_succ (m : Nat) :
    expressionsAt src st block (m + 1) = lowerExpressionStep src (expressionsAt src st block m) :=
  Function.iterate_succ_apply' _ _ _

theorem expressionsAt_rest (m : Nat) : (expressionsAt src st block m).rest = block.expressions.drop m := by
  induction m with
  | zero => rfl
  | succ m ih =>
      rw [expressionsAt_succ, ← List.tail_drop, ← ih, lowerExpressionStep]
      cases hrest : (expressionsAt src st block m).rest with
      | nil => exact hrest
      | cons expression rest => rfl

/-- The result of an expression. -/
def expressionResult (src : Source) (st : ExpressionBuild) (expression : TypedExpr TOp) : Value :=
  expressionValue ((lowerOperationStep src)^[1024] (st.seed expression)).stack

theorem lowerExpression_env (st : ExpressionBuild) (expression : TypedExpr TOp) (rest : List (TypedExpr TOp)) :
    (lowerExpression src st expression rest).env =
      bindLetResult src expression st.env (expressionResult src st expression) := rfl

/-- The block ends with its last expression. -/
theorem expressionsAt_of_last {m n : Nat} {expression : TypedExpr TOp}
    (hlast : (expressionsAt src st block m).rest = [expression]) (hn : block.expressions.length ≤ n) :
    expressionsAt src st block n = lowerExpression src (expressionsAt src st block m) expression [] := by
  have hstep : expressionsAt src st block (m + 1) = lowerExpression src (expressionsAt src st block m) expression [] := by
    rw [expressionsAt_succ, lowerExpressionStep, hlast]
  have hlength : block.expressions.length = m + 1 := by
    have hdrop := congrArg List.length ((expressionsAt_rest m).symm.trans hlast)
    rw [List.length_drop, List.length_singleton] at hdrop
    omega
  have hfix : lowerExpressionStep src (expressionsAt src st block (m + 1)) = expressionsAt src st block (m + 1) := by
    rw [lowerExpressionStep, expressionsAt_rest, List.drop_of_length_le (Nat.le_of_eq hlength)]
  obtain ⟨k, rfl⟩ := Nat.exists_eq_add_of_le (hlength ▸ hn)
  rw [← hstep, expressionsAt, Nat.add_comm, Function.iterate_add_apply]
  exact Function.iterate_fixed hfix k

end Expressions

/-! ## Back edges -/

/-- A block that closes a loop. -/
def IsLatch (block : Block TOp) : Prop := block.kind = 2 ∧ block.iteration.role = 4

/-- The edge that a loop header has its scope from. -/
def entryEdge (st : SsaBuild) (header : Nat) : Option Edge :=
  (st.edges.take 1024).find? fun e => e.target = header

/-- The end of a block: its expressions are lowered. -/
def bodyEnd (src : Source) (st : SsaBuild) (block : Block TOp) : ExpressionBuild := expressionsAt src st block 1024

/-- The end of a block that closes a loop: the index has advanced. -/
def latchEnd (src : Source) (st : SsaBuild) (block : Block TOp) : ExpressionBuild :=
  finishLoopBlock src block (bodyEnd src st block)

/-- A name of the scope stands for its own variable. -/
def OwnName (src : Source) (env : List Binding) (start stop : Nat) : Prop :=
  ∃ b, named src env start stop = some b ∧ b.IsOf start stop = true

instance (env : List Binding) (start stop : Nat) : Decidable (OwnName src env start stop) :=
  inferInstanceAs (Decidable (∃ b ∈ named src env start stop, b.IsOf start stop = true))

/-- At the end of the body the variables of the header, and the index, are what their names stand for. -/
structure KeepsNames (src : Source) (st : SsaBuild) (block : Block TOp) (entry : Edge) : Prop where
  expressions : block.expressions.length ≤ 1024
  length : entry.bindings.length ≤ 1024
  own : ∀ w ∈ entry.bindings, w.Carries src (bodyEnd src st block).env ∧
    OwnName src (bodyEnd src st block).env w.nameStart w.nameStop
  index : OwnName src (bodyEnd src st block).env block.iteration.indexStart block.iteration.indexStop

instance (st : SsaBuild) (block : Block TOp) (entry : Edge) : Decidable (KeepsNames src st block entry) :=
  decidable_of_iff
    (block.expressions.length ≤ 1024 ∧ entry.bindings.length ≤ 1024 ∧
      (∀ w ∈ entry.bindings, w.Carries src (bodyEnd src st block).env ∧
        OwnName src (bodyEnd src st block).env w.nameStart w.nameStop) ∧
      OwnName src (bodyEnd src st block).env block.iteration.indexStart block.iteration.indexStop)
    ⟨fun ⟨hexpressions, hlength, hown, hindex⟩ => ⟨hexpressions, hlength, hown, hindex⟩,
      fun h => ⟨h.expressions, h.length, h.own, h.index⟩⟩

theorem keepsNames_iff {st : SsaBuild} {block : Block TOp} {entry : Edge} :
    KeepsNames src st block entry ↔ block.expressions.length ≤ 1024 ∧ entry.bindings.length ≤ 1024 ∧
      (∀ w ∈ entry.bindings, w.Carries src (bodyEnd src st block).env ∧
        OwnName src (bodyEnd src st block).env w.nameStart w.nameStop) ∧
      OwnName src (bodyEnd src st block).env block.iteration.indexStart block.iteration.indexStop :=
  ⟨fun h => ⟨h.expressions, h.length, h.own, h.index⟩,
    fun ⟨hexpressions, hlength, hown, hindex⟩ => ⟨hexpressions, hlength, hown, hindex⟩⟩

/-- **What a back edge carries**: the current values of the variables that the entry edge brings, in the same order. -/
structure CarriesVariables (src : Source) (st : SsaBuild) (block : Block TOp) (entry : Edge) : Prop where
  received : entry.arguments = bindingIds entry.bindings
  jump : ∃ arguments, makeTerminator src block (latchEnd src st block) st.edges = .jump block.succ0 arguments ∧
    arguments.map (fun id => some id.value) =
      (entry.bindings.map fun w => valueOf (latchEnd src st block).env w.nameStart w.nameStop).reverse
  index : ∃ inst old, (latchEnd src st block).instructions = inst :: (bodyEnd src st block).instructions ∧
    inst.kind = 14 ∧ inst.inputs = [{ value := old }] ∧
    valueOf (bodyEnd src st block).env block.iteration.indexStart block.iteration.indexStop = some old ∧
    valueOf (latchEnd src st block).env block.iteration.indexStart block.iteration.indexStop = some inst.result
  state : ∀ m expression, (expressionsAt src st block m).rest = [expression] → expression.role = 6 →
    ∀ w ∈ entry.bindings, w.IsOf block.iteration.indexStart block.iteration.indexStop = false →
      w.IsOf expression.bindingStart expression.bindingStop = true →
      valueOf (latchEnd src st block).env w.nameStart w.nameStop =
        some (expressionResult src (expressionsAt src st block m) expression).id
  others : ∀ m expression, (expressionsAt src st block m).rest = [expression] → expression.role = 6 →
    ∀ w ∈ entry.bindings, w.IsOf block.iteration.indexStart block.iteration.indexStop = false →
      w.IsOf expression.bindingStart expression.bindingStop = false →
      valueOf (latchEnd src st block).env w.nameStart w.nameStop =
        valueOf (expressionsAt src st block m).env w.nameStart w.nameStop

/-! ## The step that closes a loop -/

section Latch

variable {st : SsaBuild} {block : Block TOp} {entry : Edge}

theorem findTargetBindingShapeStep_found {st : EdgeBindingLookup} (h : st.found = true) :
    findTargetBindingShapeStep st = st := by
  rw [findTargetBindingShapeStep, if_pos h]

theorem iterate_findTargetBindingShapeStep (n : Nat) {edges : List Edge} {target : Nat} {bindings : List Binding}
    {e : Edge} (h : (edges.take n).find? (fun e => e.target = target) = some e) :
    let st := findTargetBindingShapeStep^[n] { rest := edges, target := target, found := false, bindings := bindings }
    st.found = true ∧ st.bindings = e.bindings := by
  induction n generalizing edges with
  | zero => cases h
  | succ n ih =>
      rw [Function.iterate_succ_apply]
      cases edges with
      | nil => cases h
      | cons edge rest =>
          rw [List.take_succ_cons, List.find?_cons] at h
          rw [findTargetBindingShapeStep, if_neg Bool.false_ne_true]
          dsimp only
          by_cases htarget : edge.target = target
          · rw [decide_eq_true htarget] at h ⊢
            cases h
            rw [if_pos htarget, Function.iterate_fixed (findTargetBindingShapeStep_found rfl)]
            exact ⟨rfl, rfl⟩
          · rw [decide_eq_false htarget] at h ⊢
            rw [if_neg htarget]
            exact ih h

theorem findTargetBindingShape_of_entryEdge {header : Nat} (h : entryEdge st header = some entry) :
    (findTargetBindingShape st.edges header).found = true ∧
      (findTargetBindingShape st.edges header).bindings = entry.bindings :=
  iterate_findTargetBindingShapeStep 1024 h

theorem isU64Ty_iff {ty : SemType} : isU64Ty ty = true ↔ ty = loopIntegerType := by
  unfold isU64Ty loopIntegerType
  cases ty with
  | tInt w s => cases s <;> simp
  | _ => simp

theorem emitLoopIndexAdvance_of_lookup {loop : LoopMeta} {body : ExpressionBuild} {index : BindingLookup}
    (h : lookupBinding src body.env loop.indexStart loop.indexStop = index) :
    emitLoopIndexAdvance src loop body =
      if !index.found || !isU64Ty index.binding.ty then { body with ok := false }
      else
        { body.emitLoop (body.loopInstruction loop 14 0 loopIntegerType [{ value := index.binding.value }] 1 0 0)
            true with
          env := body.rebindIndex src loop } := by
  subst h
  rfl

/-- The index has a binding, and advances in its place. -/
theorem latchEnd_of_ok (hlatch : IsLatch block) (hok : (latchEnd src st block).ok = true) :
    ∃ index, named src (bodyEnd src st block).env block.iteration.indexStart block.iteration.indexStop = some index ∧
      index.ty = loopIntegerType ∧
      (latchEnd src st block).env = (bodyEnd src st block).rebindIndex src block.iteration ∧
      ∃ inst : Instruction, inst.kind = 14 ∧ inst.result = (bodyEnd src st block).nextValue ∧
        inst.inputs = [{ value := index.value }] ∧
        (latchEnd src st block).instructions = inst :: (bodyEnd src st block).instructions := by
  rw [latchEnd, finishLoopBlock, hlatch.2] at hok ⊢
  generalize bodyEnd src st block = body at hok ⊢
  rw [if_neg (by decide), if_neg (by decide), if_pos rfl] at hok ⊢
  obtain ⟨index, hindex⟩ :
      ∃ index, lookupBinding src body.env block.iteration.indexStart block.iteration.indexStop = index :=
    ⟨_, rfl⟩
  have hnamed := @lookupBinding_of_found src body.env block.iteration.indexStart block.iteration.indexStop
  rw [hindex] at hnamed
  rw [emitLoopIndexAdvance_of_lookup hindex] at hok ⊢
  split at hok
  · cases hok
  · next hfound =>
      rw [if_neg hfound]
      rw [Bool.or_eq_true, not_or, Bool.not_eq_true', Bool.not_eq_false, Bool.not_eq_true', Bool.not_eq_false]
        at hfound
      exact ⟨index.binding, hnamed hfound.1, isU64Ty_iff.mp hfound.2, by dsimp only,
        body.loopInstruction block.iteration 14 0 loopIntegerType [{ value := index.binding.value }] 1 0 0, rfl, rfl,
        rfl, rfl⟩

/-- The variables of the header after the index has advanced. -/
theorem named_latchEnd {index w b : Binding} {next : Nat} {env : List Binding} {loop : LoopMeta}
    (hindex : named src env loop.indexStart loop.indexStop = some index)
    (hof : index.IsOf loop.indexStart loop.indexStop = true) (hty : index.ty = loopIntegerType)
    (hw : named src env w.nameStart w.nameStop = some b) (hb : b.IsOf w.nameStart w.nameStop = true)
    (htype : semEq src b.ty w.ty = true) :
    ∃ c, named src
        (rebindName src env
          { nameStart := loop.indexStart, nameStop := loop.indexStop, value := next, ty := loopIntegerType })
        w.nameStart w.nameStop = some c ∧ c.IsOf w.nameStart w.nameStop = true ∧ semEq src c.ty w.ty = true ∧
      c.value = if w.IsOf loop.indexStart loop.indexStop then next else b.value := by
  generalize hr : ({ nameStart := loop.indexStart, nameStop := loop.indexStop, value := next
                     ty := loopIntegerType } : Binding) = r
  have hrof : r.IsOf loop.indexStart loop.indexStop = true := by
    rw [← hr]
    exact Binding.isOf_iff.mpr ⟨rfl, rfl⟩
  cases heq : r.Spells src w.nameStart w.nameStop with
  | true =>
      -- both names stand for the index
      have hnames : named src env w.nameStart w.nameStop = named src env loop.indexStart loop.indexStop := by
        rw [named, named]
        congr 1
        funext c
        rw [Binding.Spells, ← hr] at heq
        exact (Binding.spells_congr heq c).symm
      rw [hnames, hindex] at hw
      cases hw
      have hwof : w.IsOf loop.indexStart loop.indexStop = true := by
        obtain ⟨hstart, hstop⟩ := Binding.isOf_iff.mp hof
        obtain ⟨hstart', hstop'⟩ := Binding.isOf_iff.mp hb
        exact Binding.isOf_iff.mpr ⟨hstart' ▸ hstart, hstop' ▸ hstop⟩
      refine ⟨r, named_rebindName_of_spells heq, ?_, ?_, ?_⟩
      · obtain ⟨hstart, hstop⟩ := Binding.isOf_iff.mp hwof
        rw [hstart, hstop]
        exact hrof
      · rw [← hr]
        rwa [hty] at htype
      · rw [if_pos hwof, ← hr]
  | false =>
      have hwof : w.IsOf loop.indexStart loop.indexStop = false := by
        rw [Bool.eq_false_iff]
        intro hwof
        obtain ⟨hstart, hstop⟩ := Binding.isOf_iff.mp hwof
        have hspells : b.Spells src w.nameStart w.nameStop = true := List.find?_some hw
        have hother := Binding.spells_of_isOf hb (hstart ▸ hstop ▸ hrof) hspells
        rw [heq] at hother
        cases hother
      refine ⟨b, ?_, hb, htype, ?_⟩
      · have hin : named src env r.nameStart r.nameStop = some index := by
          rw [← hr]
          exact hindex
        rw [named_rebindName_of_not_spells hin heq]
        exact hw
      · rw [if_neg (by rw [hwof]; exact Bool.false_ne_true)]

theorem makeTerminator_of_isLatch (hlatch : IsLatch block) (exprs : ExpressionBuild) (edges : List Edge) :
    makeTerminator src block exprs edges =
      .jump block.succ0 (bindingIds (selectBackedgeEnv src block exprs.env edges)) := by
  rw [makeTerminator, if_neg (by rw [hlatch.1]; decide), if_pos hlatch.1]

/-- The back edge passes what the projection does. -/
theorem selectBackedgeEnv_of_projected {env : List Binding} {exprs : ExpressionBuild} (hlatch : IsLatch block)
    (hentry : entryEdge st block.succ0 = some entry)
    (hprojected : projectEnvironment src exprs.env entry.bindings = { bindings := env, ok := true }) :
    selectBackedgeEnv src block exprs.env st.edges = env := by
  obtain ⟨hfound, hbindings⟩ := findTargetBindingShape_of_entryEdge hentry
  unfold selectBackedgeEnv
  rw [if_neg (by rw [hlatch.2]; decide)]
  dsimp only
  rw [hbindings, hprojected, hfound]
  rfl

theorem bindingIds_map {env : List Binding} (hlength : env.length ≤ 1024) :
    (bindingIds env).map (fun id => some id.value) = (env.map fun b => some b.value).reverse := by
  rw [bindingIds, collectWithin_eq, List.take_of_length_le hlength, List.map_reverse, List.map_map]
  rfl

/-- What `next` binds: the state, with its next value. -/
def nextBinding (src : Source) (st : ExpressionBuild) (expression : TypedExpr TOp) : Binding :=
  { nameStart := expression.bindingStart, nameStop := expression.bindingStop
    value := (expressionResult src st expression).id, ty := (expressionResult src st expression).ty }

theorem isOf_nextBinding (src : Source) (body : ExpressionBuild) {expression : TypedExpr TOp} (w : Binding) :
    (nextBinding src body expression).IsOf w.nameStart w.nameStop =
      w.IsOf expression.bindingStart expression.bindingStop := by
  rw [Bool.eq_iff_iff, Binding.isOf_iff, Binding.isOf_iff, nextBinding, eq_comm, @eq_comm _ expression.bindingStop]

theorem bodyEnd_env_of_next {m : Nat} {expression : TypedExpr TOp} (hlength : block.expressions.length ≤ 1024)
    (hlast : (expressionsAt src st block m).rest = [expression]) (hrole : expression.role = 6) :
    (bodyEnd src st block).env =
      rebindName src (expressionsAt src st block m).env (nextBinding src (expressionsAt src st block m) expression) := by
  rw [bodyEnd, expressionsAt_of_last hlast hlength, lowerExpression_env, bindLetResult, if_pos hrole, nextBinding]

/-- Each variable of the header is found at the end of the body, and again after the index has advanced. -/
theorem named_latchEnd_of_keepsNames (hlatch : IsLatch block) (hnames : KeepsNames src st block entry)
    (hok : (latchEnd src st block).ok = true) {w : Binding} (hw : w ∈ entry.bindings) :
    ∃ b, named src (bodyEnd src st block).env w.nameStart w.nameStop = some b ∧
      b.IsOf w.nameStart w.nameStop = true ∧
      ∃ c, named src (latchEnd src st block).env w.nameStart w.nameStop = some c ∧
        c.IsOf w.nameStart w.nameStop = true ∧ semEq src c.ty w.ty = true ∧
        c.value =
          if w.IsOf block.iteration.indexStart block.iteration.indexStop then (bodyEnd src st block).nextValue
          else b.value := by
  obtain ⟨index, hindex, hty, henv, -⟩ := latchEnd_of_ok hlatch hok
  obtain ⟨index', hindex', hof⟩ := hnames.index
  obtain rfl : index = index' := Option.some.inj (hindex.symm.trans hindex')
  obtain ⟨⟨b, hb, htype⟩, b', hb', hbof⟩ := hnames.own w hw
  obtain rfl : b = b' := Option.some.inj (hb.symm.trans hb')
  rw [henv]
  exact ⟨b, hb, hbof, named_latchEnd hindex hof hty hb hbof htype⟩

theorem latchEnd_carries (hlatch : IsLatch block) (hnames : KeepsNames src st block entry)
    (hok : (latchEnd src st block).ok = true) : ∀ w ∈ entry.bindings, w.Carries src (latchEnd src st block).env := by
  intro w hw
  obtain ⟨-, -, -, c, hc, -, htype, -⟩ := named_latchEnd_of_keepsNames hlatch hnames hok hw
  exact ⟨c, hc, htype⟩

theorem latchEnd_projects (hlatch : IsLatch block) (hnames : KeepsNames src st block entry)
    (hok : (latchEnd src st block).ok = true) :
    (projectEnvironment src (latchEnd src st block).env entry.bindings).ok = true := by
  rw [projectEnvironment_eq hnames.length (latchEnd_carries hlatch hnames hok)]

/-- **The step that closes a loop.** -/
theorem carriesVariables_of_keepsNames (hlatch : IsLatch block) (hentry : entryEdge st block.succ0 = some entry)
    (hreceived : entry.arguments = bindingIds entry.bindings) (hnames : KeepsNames src st block entry)
    (hok : (latchEnd src st block).ok = true) : CarriesVariables src st block entry := by
  obtain ⟨index, hindex, -, henv, inst, hkind, hresult, hinputs, hinsts⟩ := latchEnd_of_ok hlatch hok
  obtain ⟨index', hindex', hof⟩ := hnames.index
  obtain rfl : index = index' := Option.some.inj (hindex.symm.trans hindex')
  constructor
  · exact hreceived
  · have hcarries := latchEnd_carries hlatch hnames hok
    refine ⟨_, makeTerminator_of_isLatch hlatch _ _, ?_⟩
    rw [selectBackedgeEnv_of_projected hlatch hentry (projectEnvironment_eq hnames.length hcarries), bindingIds_map (by rw [List.length_map]; exact hnames.length), List.map_map]
    refine congrArg List.reverse (List.map_congr_left ?_)
    intro w hw
    obtain ⟨-, -, -, c, hc, hcof, -, -⟩ := named_latchEnd_of_keepsNames hlatch hnames hok hw
    generalize (latchEnd src st block).env = env at hc ⊢
    rw [Function.comp_apply, Binding.carried, hc, valueOf_of_named hc hcof]
  · refine ⟨inst, index.value, hinsts, hkind, hinputs, valueOf_of_named hindex hof, ?_⟩
    have hspells : index.Spells src block.iteration.indexStart block.iteration.indexStop = true :=
      List.find?_some hindex
    have hordered := (spansEqual_iff.mp hspells).2.1
    rw [henv, hresult]
    generalize bodyEnd src st block = body
    rw [ExpressionBuild.rebindIndex]
    rw [valueOf_of_named (named_rebindName_of_spells (spansEqual_self hordered)) (Binding.isOf_iff.mpr ⟨rfl, rfl⟩)]
  · intro m expression hlast hrole w hw hother hstate
    obtain ⟨b, hb, hbof, c, hc, hcof, -, hvalue⟩ := named_latchEnd_of_keepsNames hlatch hnames hok hw
    rw [if_neg (by rw [hother]; exact Bool.false_ne_true)] at hvalue
    rw [valueOf_of_named hc hcof, hvalue]
    rw [bodyEnd_env_of_next hnames.expressions hlast hrole] at hb
    have hsame := (isOf_nextBinding src (expressionsAt src st block m) w).trans hstate
    have hnext := Binding.spells_of_isOf hbof hsame (List.find?_some hb)
    rw [named_rebindName_of_spells hnext] at hb
    rw [← Option.some.inj hb, nextBinding]
  · intro m expression hlast hrole w hw hother hstate
    obtain ⟨b, hb, hbof, c, hc, hcof, -, hvalue⟩ := named_latchEnd_of_keepsNames hlatch hnames hok hw
    rw [if_neg (by rw [hother]; exact Bool.false_ne_true)] at hvalue
    rw [valueOf_of_named hc hcof, hvalue]
    rw [bodyEnd_env_of_next hnames.expressions hlast hrole] at hb
    have hdiffers := (isOf_nextBinding src (expressionsAt src st block m) w).trans hstate
    exact (valueOf_of_named (named_of_rebindName hb hbof hdiffers) hbof).symm

end Latch

/-! ## The run -/

section Run

theorem emitLoopIndexInit_ok {loop : LoopMeta} {body : ExpressionBuild}
    (hok : (emitLoopIndexInit src loop body).ok = true) : body.ok = true :=
  ((Bool.and_eq_true _ _).mp hok).1

theorem emitLoopGuard_ok {loop : LoopMeta} {body : ExpressionBuild} (hok : (emitLoopGuard src loop body).ok = true) :
    body.ok = true := by
  unfold emitLoopGuard at hok
  generalize lookupBinding src body.env loop.indexStart loop.indexStop = index at hok
  dsimp only at hok
  split at hok
  · cases hok
  · split at hok
    · unfold emitSequenceLoopGuard at hok
      exact ((Bool.and_eq_true _ _).mp hok).1
    · exact ((Bool.and_eq_true _ _).mp hok).1

theorem emitLoopIndexAdvance_ok {loop : LoopMeta} {body : ExpressionBuild}
    (hok : (emitLoopIndexAdvance src loop body).ok = true) : body.ok = true := by
  rw [emitLoopIndexAdvance_of_lookup rfl] at hok
  split at hok
  · cases hok
  · exact ((Bool.and_eq_true _ _).mp hok).1

theorem finishLoopBlock_ok {block : Block TOp} {body : ExpressionBuild}
    (hok : (finishLoopBlock src block body).ok = true) : body.ok = true := by
  unfold finishLoopBlock at hok
  split at hok
  · exact emitLoopIndexInit_ok hok
  · split at hok
    · exact emitLoopGuard_ok hok
    · split at hok
      · exact emitLoopIndexAdvance_ok hok
      · exact hok

theorem iterate_lowerExpressionStep_ok (n : Nat) {st : ExpressionBuild}
    (hok : ((lowerExpressionStep src)^[n] st).ok = true) : st.ok = true := by
  revert hok
  apply Function.Iterate.rec (fun st' : ExpressionBuild => st'.ok = true → st.ok = true) id
  intro st' ih hok
  rw [lowerExpressionStep] at hok
  split at hok
  · exact ih hok
  · exact ih (lowerExpression_ok_mono hok)

/-- A block that is lowered well comes after blocks that are. -/
theorem lowerOneBlock_supported {st : SsaBuild} {block : Block TOp} {rest : List (Block TOp)}
    (h : (lowerOneBlock src st block rest).supported = true) :
    st.supported = true ∧ (latchEnd src st block).ok = true := by
  have hend : (latchEnd src st block).ok = true := ((Bool.and_eq_true _ _).mp h).1
  have hbody : (bodyEnd src st block).ok = true := finishLoopBlock_ok hend
  rw [bodyEnd, expressionsAt] at hbody
  have hseed := iterate_lowerExpressionStep_ok 1024 hbody
  exact ⟨((Bool.and_eq_true _ _).mp hseed).1, hend⟩

/-- An edge passes the values of its bindings. -/
def Edge.Passes (e : Edge) : Prop := e.arguments = bindingIds e.bindings

theorem Edge.passes_mk (source target : Nat) (bindings : List Binding) :
    Edge.Passes { source := source, target := target, bindings := bindings, arguments := bindingIds bindings } := by
  rw [Edge.Passes]

theorem addBlockEdgesFrom_passes {edges : List Edge} {source : Nat} {block : Block TOp} {exprs : ExpressionBuild}
    (hedges : ∀ e ∈ edges, e.Passes)
    (hback : IsLatch block → (findTargetBindingShape edges block.succ0).found = true ∧
      (projectEnvironment src exprs.env (findTargetBindingShape edges block.succ0).bindings).ok = true) :
    ∀ e ∈ addBlockEdgesFrom src edges source block (makeTerminator src block exprs edges) exprs.env, e.Passes := by
  unfold addBlockEdgesFrom
  split
  · -- a loop header: the exit edge has what the filter leaves
    unfold addLoopHeaderEdges
    split
    · next hterm =>
        intro e he
        unfold makeTerminator at hterm
        split at hterm
        · cases hterm
          rcases List.mem_cons.mp he with rfl | he
          · exact Edge.passes_mk _ _ _
          · rcases List.mem_cons.mp he with rfl | he
            · exact Edge.passes_mk _ _ _
            · exact hedges e he
        · split at hterm
          · cases hterm
          · split at hterm <;> cases hterm
    · exact hedges
  next hheader =>
  split
  · next hrole =>
      unfold addLoopBackedge
      split
      · next hterm =>
          intro e he
          unfold makeTerminator at hterm
          split at hterm
          · cases hterm
          · split at hterm
            · next hkind =>
                obtain ⟨hfound, hprojected⟩ := hback ⟨hkind, hrole⟩
                cases hterm
                rcases List.mem_cons.mp he with rfl | he
                · unfold selectBackedgeEnv
                  rw [if_neg (by rw [hrole]; decide)]
                  dsimp only
                  rw [hfound, hprojected, if_neg (by decide)]
                  exact Edge.passes_mk _ _ _
                · exact hedges e he
            · split at hterm <;> cases hterm
      · exact hedges
  next hrole =>
  split
  · next hterm =>
      intro e he
      unfold makeTerminator at hterm
      split at hterm
      · cases hterm
        rw [selectLoopExitEnv, if_pos hheader] at he
        rcases List.mem_cons.mp he with rfl | he
        · exact Edge.passes_mk _ _ _
        · rcases List.mem_cons.mp he with rfl | he
          · exact Edge.passes_mk _ _ _
          · exact hedges e he
      · split at hterm
        · cases hterm
        · split at hterm <;> cases hterm
  · next hterm =>
      intro e he
      unfold makeTerminator at hterm
      split at hterm
      · cases hterm
      · split at hterm
        · cases hterm
          rw [selectBackedgeEnv, if_pos hrole] at he
          rcases List.mem_cons.mp he with rfl | he
          · exact Edge.passes_mk _ _ _
          · exact hedges e he
        · split at hterm <;> cases hterm
  · exact hedges

theorem lowerOneBlock_edges (st : SsaBuild) (block : Block TOp) (rest : List (Block TOp)) :
    (lowerOneBlock src st block rest).edges =
      addBlockEdgesFrom src st.edges (latchEnd src st block).block block
        (makeTerminator src block (latchEnd src st block) st.edges) (latchEnd src st block).env := rfl

theorem lowerBlockStep_supported {st : SsaBuild} (h : (lowerBlockStep src st).supported = true) :
    st.supported = true := by
  rw [lowerBlockStep] at h
  split at h
  · exact h
  · exact (lowerOneBlock_supported h).1

theorem iterate_lowerBlockStep_supported (n : Nat) {st : SsaBuild}
    (h : ((lowerBlockStep src)^[n] st).supported = true) : st.supported = true := by
  revert h
  apply Function.Iterate.rec (fun st' : SsaBuild => st'.supported = true → st.supported = true) id
  intro st' ih h
  exact ih (lowerBlockStep_supported h)

/-- The loop over the blocks of a function is a number of steps. -/
theorem lowerFlowBlocks_build (expected : Nat) (initial : SsaBuild) :
    ∃ k, (lowerFlowBlocks src expected initial).build = (lowerBlockStep src)^[k] initial := by
  unfold lowerFlowBlocks
  refine iterate_post (fun _ (walk r : SsaBlockWalk) => ∃ k, r.build = (lowerBlockStep src)^[k] walk.build) ?_ ?_ 0 1024
    _ fun walk => ⟨0, rfl⟩
  · intro j walk r hret
    split at hret
    · cases hret
      exact ⟨0, rfl⟩
    · cases hret
  · intro j walk walk' r hnext hr
    split at hnext
    · cases hnext
    · cases hnext
      obtain ⟨k, hk⟩ := hr
      exact ⟨k + 1, hk⟩

/-- The walk over as many blocks as there are takes each. -/
theorem lowerFlowBlocks_eq {n : Nat} {initial : SsaBuild} (hn : n ≤ 1024)
    (hrest : ∀ k < n, ((lowerBlockStep src)^[k] initial).rest ≠ []) :
    lowerFlowBlocks src n initial = { build := (lowerBlockStep src)^[n] initial, processed := n } := by
  have hloop : ∀ fuel k, k ≤ n → n ≤ k + fuel →
      (iterate (fun i (walk : SsaBlockWalk) =>
          if i ≥ n || walk.build.rest.isEmpty then .ret walk else .next (lowerFlowBlockStep src walk))
        k fuel { build := (lowerBlockStep src)^[k] initial, processed := k }).after (fun walk => walk) =
        { build := (lowerBlockStep src)^[n] initial, processed := n } := by
    intro fuel
    induction fuel with
    | zero =>
        intro k hk hfuel
        obtain rfl : k = n := by omega
        rfl
    | succ fuel ih =>
        intro k hk hfuel
        rw [iterate_succ]
        rcases Nat.eq_or_lt_of_le hk with rfl | hlt
        · simp
        · have hmore : ((lowerBlockStep src)^[k] initial).rest.isEmpty = false := by
            simpa using hrest k hlt
          simp only [ge_iff_le, Nat.not_le.mpr hlt, decide_false, hmore, Bool.or_self, Bool.false_eq_true, if_false,
            Pass.bind_next]
          have hstep := ih (k + 1) hlt (by omega)
          rwa [Function.iterate_succ_apply'] at hstep
  exact hloop 1024 0 (Nat.zero_le n) (by omega)

section Lowering

variable {header : Parser.Header} {fnDecl : FnDecl} {cfg : FunctionFlow TOp} {records : List RecordDecl}
  {enums : List EnumDecl} {nominals : List NominalTypeIdentity}

theorem loweringAt_rest (n : Nat) :
    (loweringAt src header fnDecl cfg records enums nominals n).rest = cfg.blocks.drop n := by
  induction n with
  | zero => rfl
  | succ n ih =>
      rw [loweringAt, Function.iterate_succ_apply', ← List.tail_drop, ← ih, lowerBlockStep]
      split
      · next hrest =>
          rw [loweringAt, hrest]
          rfl
      · next block rest hrest =>
          rw [loweringAt, hrest]
          rfl

theorem loweringAt_succ (n : Nat) :
    loweringAt src header fnDecl cfg records enums nominals (n + 1) =
      lowerBlockStep src (loweringAt src header fnDecl cfg records enums nominals n) :=
  Function.iterate_succ_apply' _ _ _

theorem loweringAt_supported {m n : Nat} (hle : m ≤ n)
    (h : (loweringAt src header fnDecl cfg records enums nominals n).supported = true) :
    (loweringAt src header fnDecl cfg records enums nominals m).supported = true := by
  obtain ⟨k, rfl⟩ := Nat.exists_eq_add_of_le' hle
  rw [loweringAt, Function.iterate_add_apply] at h
  exact iterate_lowerBlockStep_supported k h

/-- A supported function has lowered every block that was its turn. -/
theorem loweringAt_supported_of_lowerFunction {importedRecords : List ImportedRecordSchema}
    {importedEnums : List ImportedEnumSchema}
    (h : (lowerFunction src header fnDecl cfg records enums nominals importedRecords importedEnums).supported = true)
    {n : Nat} {block : Block TOp} {rest : List (Block TOp)}
    (hturn : (loweringAt src header fnDecl cfg records enums nominals n).rest = block :: rest) :
    (loweringAt src header fnDecl cfg records enums nominals (n + 1)).supported = true := by
  obtain ⟨k, hk⟩ := @lowerFlowBlocks_build src cfg.blockCount
    (initialBuild src header fnDecl cfg records enums nominals)
  have hfinal : (lowerFlowBlocks src cfg.blockCount
        (initialBuild src header fnDecl cfg records enums nominals)).build.supported = true ∧
      (lowerFlowBlocks src cfg.blockCount
        (initialBuild src header fnDecl cfg records enums nominals)).build.rest.isEmpty = true := by
    unfold lowerFunction at h
    dsimp only at h
    simp only [Bool.and_eq_true] at h
    exact ⟨h.1, h.2.1.2⟩
  rw [hk, List.isEmpty_iff] at hfinal
  obtain ⟨hsupported, hrest⟩ := hfinal
  refine loweringAt_supported ?_ hsupported
  -- after the last block there is no turn
  by_contra hlt
  obtain ⟨j, rfl⟩ := Nat.exists_eq_add_of_le' (show k ≤ n by omega)
  have hfix : lowerBlockStep src ((lowerBlockStep src)^[k] (initialBuild src header fnDecl cfg records enums nominals)) =
      (lowerBlockStep src)^[k] (initialBuild src header fnDecl cfg records enums nominals) := by
    rw [lowerBlockStep, hrest]
  rw [loweringAt, Function.iterate_add_apply, Function.iterate_fixed hfix, hrest] at hturn
  cases hturn

/-- A lowering that has every block of a supported function. -/
def LowersAll (st : SsaBuild) : Prop :=
  st.nextBlockId < 1024 ∧ ssaBlockListExact st.blocks st.nextBlockId = true ∧ st.supported = true

instance (st : SsaBuild) : Decidable (LowersAll st) := inferInstanceAs (Decidable (_ ∧ _ ∧ _))

theorem lowerFunction_supported_of_lowersAll {importedRecords : List ImportedRecordSchema}
    {importedEnums : List ImportedEnumSchema} (hcount : cfg.blockCount = cfg.blocks.length)
    (hlimit : cfg.blocks.length ≤ 1024)
    (h : LowersAll (loweringAt src header fnDecl cfg records enums nominals cfg.blocks.length)) :
    (lowerFunction src header fnDecl cfg records enums nominals importedRecords importedEnums).supported = true := by
  have hrest := @loweringAt_rest src header fnDecl cfg records enums nominals
  have hdone := hrest cfg.blocks.length
  obtain ⟨hroom, hexact, hsupported⟩ := h
  unfold loweringAt at hrest hdone hroom hexact hsupported
  have hwalk := lowerFlowBlocks_eq hlimit fun k hk => by
    rw [hrest, ne_eq, List.drop_eq_nil_iff, Nat.not_le]
    exact hk
  unfold lowerFunction
  dsimp only
  rw [hcount, hwalk]
  simp [hroom, hexact, hsupported, hdone]

/-- The edges of a run pass the values of their bindings, when its back edges find their variables. -/
theorem loweringAt_passes (n : Nat)
    (hnames : ∀ k < n, ∀ block rest, (loweringAt src header fnDecl cfg records enums nominals k).rest = block :: rest →
      IsLatch block → ∃ entry,
        entryEdge (loweringAt src header fnDecl cfg records enums nominals k) block.succ0 = some entry ∧
        KeepsNames src (loweringAt src header fnDecl cfg records enums nominals k) block entry)
    (hsupported : (loweringAt src header fnDecl cfg records enums nominals n).supported = true) :
    ∀ e ∈ (loweringAt src header fnDecl cfg records enums nominals n).edges, e.Passes := by
  induction n with
  | zero => exact fun e he => (List.not_mem_nil he).elim
  | succ n ih =>
      have hstep := @loweringAt_succ src header fnDecl cfg records enums nominals n
      have hprev := ih (fun k hk => hnames k (Nat.lt_succ_of_lt hk))
        (loweringAt_supported (Nat.le_succ n) hsupported)
      have hnow := hnames n (Nat.lt_succ_self n)
      rw [hstep] at hsupported ⊢
      generalize loweringAt src header fnDecl cfg records enums nominals n = st at *
      rw [lowerBlockStep] at hsupported ⊢
      split at hsupported
      · exact hprev
      · next block rest hturn =>
          rw [lowerOneBlock_edges]
          apply addBlockEdgesFrom_passes hprev
          intro hlatch
          obtain ⟨entry, hentry, hkeeps⟩ := hnow block rest hturn hlatch
          obtain ⟨hfound, hbindings⟩ := findTargetBindingShape_of_entryEdge hentry
          rw [hbindings]
          exact ⟨hfound, latchEnd_projects hlatch hkeeps (lowerOneBlock_supported hsupported).2⟩

end Lowering

end Run

def loopSource (name : UInt8) : Source :=
  { pages :=
      [[109, 110, 99, 115, 32, 48, 46, 49, 56, 59, 109, 111, 100, 117, 108, 101, 32, 109, 59, 102, 110, 32, 102, 40, 120,
        58, 117, 54, 52, 41, 45, 62, 40, 114, 58, 117, 54, 52, 41, 123, 105, 116, 101, 114, 97, 116, 101, 32, 105, 32,
        117, 112, 95, 116, 111, 32, 52, 32, 99, 97, 114, 114, 121, 105, 110, 103, 32, 115, 58, 117, 54, 52, 61, 48, 123,
        108, 101, 116, 32, name, 58, 117, 54, 52, 61, 50, 59, 110, 101, 120, 116, 32, 115, 61, name, 59, 125, 114, 101,
        116, 117, 114, 110, 32, 120, 59, 125]]
    stride := 1024, total := 107 }

def loopHeader : Parser.Header :=
  { code := 0, start := 0, stop := 0, versionStart := 5, versionStop := 9, moduleStart := 17, moduleStop := 18
    nextOffset := 19, state := 8 }

def loopFn : FnDecl :=
  { ok := true, errStart := 0, errStop := 0
    sig :=
      { nameStart := 22, nameStop := 23, generics := []
        params := [{ nameStart := 24, nameStop := 25, typeStart := 26, typeStop := 29, typeKind := 1 }]
        results := [{ nameStart := 33, nameStop := 34, typeStart := 35, typeStop := 38, typeKind := 1 }]
        contracts := [], effects := [], capabilities := [] }
    body :=
      { body :=
          [.iterateStmt 48 49 (.name 0 0) false 56 57 67 68 69 72 1 (.integer 73 74 0 false)
            [.letStmt 79 80 81 84 1 (.integer 85 86 2 false) 79 86] 92 93 (.name 94 95) 40 97]
        ret := .name 104 105, hasRet := true }
    fnStart := 19, fnStop := 107, cursor := 107 }

def loopMeta (role : Nat) : LoopMeta :=
  { mode := 1, role := role, indexStart := 48, indexStop := 49, statementStart := 40, statementStop := 97
    stateStart := 67, stateStop := 68, sourceStart := 0, sourceStop := 0, boundStart := 56, boundStop := 57, bound := 4
    exitId := 3 }

def loopBefore : Block TOp :=
  { id := 0, kind := 2, termStart := 40, termStop := 97, succ0 := 1, succ1 := 0, succCount := 1, instructions := 1
    expressions :=
      [{ role := 5, start := 73, stop := 74, bindingStart := 67, bindingStop := 68
         ops := [.tInt 0 loopIntegerType 73 74], opCount := 1 }]
    reachable := true, isJoin := false, isIterationHeader := false, isIterationBackedge := false
    iterationHeaderId := 0, iterationStart := 0, iterationStop := 0, iteration := loopMeta 1 }

def loopTest : Block TOp :=
  { id := 1, kind := 1, termStart := 40, termStop := 97, succ0 := 2, succ1 := 3, succCount := 2, instructions := 0
    expressions := [], reachable := true, isJoin := false, isIterationHeader := true, isIterationBackedge := false
    iterationHeaderId := 1, iterationStart := 40, iterationStop := 97, iteration := loopMeta 2 }

def loopBody : Block TOp :=
  { id := 2, kind := 2, termStart := 40, termStop := 97, succ0 := 1, succ1 := 0, succCount := 1, instructions := 2
    expressions :=
      [{ role := 1, start := 85, stop := 86, bindingStart := 79, bindingStop := 80
         ops := [.tInt 2 loopIntegerType 85 86], opCount := 1 },
        { role := 6, start := 94, stop := 95, bindingStart := 67, bindingStop := 68
          ops := [.tName loopIntegerType 94 95], opCount := 1 }]
    reachable := true, isJoin := false, isIterationHeader := false, isIterationBackedge := true
    iterationHeaderId := 1, iterationStart := 40, iterationStop := 97, iteration := loopMeta 4 }

def loopAfter : Block TOp :=
  { id := 3, kind := 3, termStart := 104, termStop := 105, succ0 := 0, succ1 := 0, succCount := 0, instructions := 1
    expressions :=
      [{ role := 3, start := 104, stop := 105, bindingStart := 0, bindingStop := 0
         ops := [.tName loopIntegerType 104 105], opCount := 1 }]
    reachable := true, isJoin := true, isIterationHeader := false, isIterationBackedge := false
    iterationHeaderId := 0, iterationStart := 0, iterationStop := 0, iteration := loopMeta 5 }

def loopFlow : FunctionFlow TOp :=
  { fnStart := 19, fnStop := 107, entry := 0, blocks := [loopBefore, loopTest, loopBody, loopAfter]
    elidedExpressions := [], blockCount := 4, unreachableJoins := 0, verified := true }

theorem loopBody_of_isLatch {n : Nat} {block : Block TOp} {rest : List (Block TOp)}
    (hturn : loopFlow.blocks.drop n = block :: rest) (hlatch : IsLatch block) : n = 2 ∧ block = loopBody := by
  match n, hturn with
  | 0, rfl => exact absurd hlatch.2 (by decide)
  | 1, rfl => exact absurd hlatch.1 (by decide)
  | 2, rfl => exact ⟨rfl, rfl⟩
  | 3, rfl => exact absurd hlatch.1 (by decide)
  | n + 4, hturn =>
      rw [List.drop_of_length_le (show loopFlow.blocks.length ≤ n + 4 from Nat.le_add_left 4 n)] at hturn
      cases hturn

set_option maxRecDepth 10000 in
/-- What the two loops come to: the one that binds `y` keeps its names, and the one that binds `x` passes 2 for the
    parameter of the function. -/
theorem loop_evaluated (src : Source) :
    (src = loopSource 121 →
      LowersAll (loweringAt src loopHeader loopFn loopFlow [] [] [] 4) ∧
        ∃ entry ∈ entryEdge (loweringAt src loopHeader loopFn loopFlow [] [] [] 2) 1,
          KeepsNames src (loweringAt src loopHeader loopFn loopFlow [] [] [] 2) loopBody entry) ∧
    (src = loopSource 120 →
      LowersAll (loweringAt src loopHeader loopFn loopFlow [] [] [] 4) ∧
        ∀ entry ∈ entryEdge (loweringAt src loopHeader loopFn loopFlow [] [] [] 2) 1,
          ¬ (bindingIds (selectBackedgeEnv src loopBody
                (latchEnd src (loweringAt src loopHeader loopFn loopFlow [] [] [] 2) loopBody).env
                (loweringAt src loopHeader loopFn loopFlow [] [] [] 2).edges)).map (fun id => some id.value) =
            (entry.bindings.map fun w =>
              valueOf (latchEnd src (loweringAt src loopHeader loopFn loopFlow [] [] [] 2) loopBody).env w.nameStart
                w.nameStop).reverse) := by
  -- the loops are put in their short form before the source is known
  simp -zeta only [↓iterate_eq_run, loweringAt, lowerBlockStep, lowerOneBlock, expressionSeed, incomingFor,
    prepareBlockEnvironment, lowerExpressionStep, lowerExpression, lowerOperationStep, initialBuild,
    canonicalFunctionIdentity, callableIdentitySpan, ↓run_callableIdentitySpanStep, lowerOperation, lowerArmOperation,
    lowerName, lookupBinding, rebindName, ExpressionBuild.after, bindLetResult, reverseEnvironment,
    reverseInstructions, prependGeneratedBlocks, reverseWithin_eq, prependWithin_eq, finishLoopBlock,
    emitLoopIndexInit, emitLoopGuard, emitLoopIndexAdvance, ExpressionBuild.rebindIndex, makeTerminator,
    addBlockEdgesFrom, addIterationBranchEdges, addLoopHeaderEdges, selectLoopExitEnv, filterLoopBindings, bindingIds,
    collectWithin_eq, keepsNames_iff, bodyEnd, expressionsAt, latchEnd, selectBackedgeEnv, projectEnvironment,
    projectEnvironmentStep, projectEnvironmentBinding, findTargetBindingShape]
  refine ⟨?_, ?_⟩
  · intro hsrc
    subst hsrc
    decide +kernel
  · intro hsrc
    subst hsrc
    decide +kernel

theorem loop_keepsNames :
    LowersAll (loweringAt (loopSource 121) loopHeader loopFn loopFlow [] [] [] 4) ∧
      ∃ entry ∈ entryEdge (loweringAt (loopSource 121) loopHeader loopFn loopFlow [] [] [] 2) 1,
        KeepsNames (loopSource 121) (loweringAt (loopSource 121) loopHeader loopFn loopFlow [] [] [] 2) loopBody
          entry :=
  (loop_evaluated _).1 rfl

theorem loop_loses :
    LowersAll (loweringAt (loopSource 120) loopHeader loopFn loopFlow [] [] [] 4) ∧
      ∀ entry ∈ entryEdge (loweringAt (loopSource 120) loopHeader loopFn loopFlow [] [] [] 2) 1,
        ¬ (bindingIds (selectBackedgeEnv (loopSource 120) loopBody
              (latchEnd (loopSource 120) (loweringAt (loopSource 120) loopHeader loopFn loopFlow [] [] [] 2)
                loopBody).env
              (loweringAt (loopSource 120) loopHeader loopFn loopFlow [] [] [] 2).edges)).map
            (fun id => some id.value) =
          (entry.bindings.map fun w =>
            valueOf (latchEnd (loopSource 120) (loweringAt (loopSource 120) loopHeader loopFn loopFlow [] [] [] 2)
              loopBody).env w.nameStart w.nameStop).reverse :=
  (loop_evaluated _).2 rfl

end MncsCompiler.Ssa
