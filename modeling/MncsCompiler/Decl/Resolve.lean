import MncsCompiler.Decl.Equality
import MncsCompiler.Decl.Flat

/-!
# `Decl.Resolve` — the resolve walk and the structural check of a unit

`check_unit` parses a unit, looks for a function declared twice, walks every body for bad spans and calls of unknown
functions, and last verifies the stack code of every expression that the walks have met. A walk has 1024 steps, one a
statement or expression: the statements of a body come first, then the expressions.

Key results: a walk reports the first fault in its order (`checkBody_eq`) and accepts exactly the bodies of at most 1024
nodes without a fault (`checkBody_resolves_iff`); the verifier never rejects what the walks accept, as the comment over
it says it must not, so that **the answer for a unit** is that of the first three stages (`checkUnit_outcome`,
`checkUnit_ok_iff`).
-/

namespace MncsCompiler.Decl

open BoundedLoop Traversal Postfix

/-! ## The walk -/

structure TargSpanCheck where
  ok : Bool
  badStart : Nat
  badStop : Nat

structure TargSpanWalk where
  rest : List TypeArg
  ok : Bool
  badStart : Nat
  badStop : Nat

def checkOneTargSpan (_st : TargSpanWalk) (rest : List TypeArg) (total start stop : Nat) : TargSpanWalk :=
  if stop < start || stop > total then { rest := [], ok := false, badStart := start, badStop := stop }
  else { rest := rest, ok := true, badStart := 0, badStop := 0 }

def checkTargSpansStep (total : Nat) (st : TargSpanWalk) : TargSpanWalk :=
  if !st.ok then { st with rest := [], ok := false }
  else
    match st.rest with
    | [] => st
    | h :: t => checkOneTargSpan st t total h.start h.stop

def checkTargSpans (list : List TypeArg) (total : Nat) : TargSpanCheck :=
  let d := (checkTargSpansStep total)^[1024] { rest := list, ok := true, badStart := 0, badStop := 0 }
  { ok := d.ok, badStart := d.badStart, badStop := d.badStop }

/-- The statements whose expressions are not queued yet, the queued expressions, and those visited, last first. -/
structure WalkState where
  swords : List Stmt
  work : List Expr
  acc : List Expr
  names : List NameSpan
  total : Nat
  ok : Bool
  badStart : Nat
  badStop : Nat

structure BodyReport where
  ok : Bool
  badStart : Nat
  badStop : Nat
  exprs : List Expr

def walkStmtIterate (st : WalkState) (t : List Stmt) (o : Expr) (ho : Bool) (init : Expr) (b : List Stmt) (nv : Expr)
    (s e : Nat) : WalkState :=
  if e < s || e > st.total then { st with swords := [], work := [], ok := false, badStart := s, badStop := e }
  else
    { st with
      swords := appendStmts b t, work := iterateCallExprs o ho init nv st.work, ok := true, badStart := 0
      badStop := 0 }

def walkStmtLet (st : WalkState) (t : List Stmt) (v : Expr) (s e : Nat) : WalkState :=
  if e < s || e > st.total then { st with swords := [], work := [], ok := false, badStart := s, badStop := e }
  else { st with swords := t, work := v :: st.work, ok := true, badStart := 0, badStop := 0 }

def walkStmtIf (st : WalkState) (t : List Stmt) (c : Expr) (tb eb : List Stmt) (s e : Nat) : WalkState :=
  if e < s || e > st.total then { st with swords := [], work := [], ok := false, badStart := s, badStop := e }
  else
    { st with
      swords := appendStmts tb (appendStmts eb t), work := c :: st.work, ok := true, badStart := 0, badStop := 0 }

def walkStmtFail (st : WalkState) (t : List Stmt) (s e : Nat) : WalkState :=
  if e < s || e > st.total then { st with swords := [], work := [], ok := false, badStart := s, badStop := e }
  else { st with swords := t, ok := true, badStart := 0, badStop := 0 }

def walkStmtReturn (st : WalkState) (t : List Stmt) (v : Expr) (s e : Nat) : WalkState :=
  if e < s || e > st.total then { st with swords := [], work := [], ok := false, badStart := s, badStop := e }
  else { st with swords := t, work := v :: st.work, ok := true, badStart := 0, badStop := 0 }

def walkStmt (st : WalkState) (h : Stmt) (t : List Stmt) : WalkState :=
  match h with
  | .letStmt _ _ _ _ _ v s e => walkStmtLet st t v s e
  | .ifStmt c tb eb s e => walkStmtIf st t c tb eb s e
  | .failStmt _ _ s e => walkStmtFail st t s e
  | .returnStmt v s e => walkStmtReturn st t v s e
  | .iterateStmt _ _ o ho _ _ _ _ _ _ _ init b _ _ nv s e => walkStmtIterate st t o ho init b nv s e

section Source

variable (src : Source)

def walkCall (st : WalkState) (t acc : List Expr) (ns ne : Nat) (args : List Expr) (tg : List TypeArg) : WalkState :=
  if !(nameKnown src st.names ns ne || stage0IntrinsicKnown src ns ne) then
    { st with swords := [], work := [], acc := acc, ok := false, badStart := ns, badStop := ne }
  else
    let checked := checkTargSpans tg st.total
    if !checked.ok then
      { st with
        swords := [], work := [], acc := acc, ok := false, badStart := checked.badStart
        badStop := checked.badStop }
    else { st with work := appendExprs args t, acc := acc, ok := true, badStart := 0, badStop := 0 }

def walkChildren (st : WalkState) (h : Expr) (t acc : List Expr) : WalkState :=
  match h with
  | .name _ _ => { st with work := t, acc := acc, ok := true, badStart := 0, badStop := 0 }
  | .integer _ _ _ _ => { st with work := t, acc := acc, ok := true, badStart := 0, badStop := 0 }
  | .boolean _ _ _ => { st with work := t, acc := acc, ok := true, badStart := 0, badStop := 0 }
  | .unaryNot value _ _ => { st with work := value :: t, acc := acc, ok := true, badStart := 0, badStop := 0 }
  | .repeated value _ _ _ _ _ => { st with work := value :: t, acc := acc, ok := true, badStart := 0, badStop := 0 }
  | .sequenceLiteral xs _ _ =>
    { st with work := appendExprs xs t, acc := acc, ok := true, badStart := 0, badStop := 0 }
  | .scalarMatch subject arms _ _ =>
    { st with work := scalarMatchChildren subject arms t, acc := acc, ok := true, badStart := 0, badStop := 0 }
  | .binary _ l r _ _ => { st with work := l :: r :: t, acc := acc, ok := true, badStart := 0, badStop := 0 }
  | .call ns ne a tg _ _ => walkCall src st t acc ns ne a tg
  | .project b _ _ _ _ _ => { st with work := b :: t, acc := acc, ok := true, badStart := 0, badStop := 0 }
  | .finiteMatch subject arms _ _ =>
    { st with work := finiteMatchChildren subject arms t, acc := acc, ok := true, badStart := 0, badStop := 0 }
  | .enumConstruct _ _ _ _ f _ _ =>
    { st with work := constructChildren f t, acc := acc, ok := true, badStart := 0, badStop := 0 }
  | .index ib ii _ _ => { st with work := ib :: ii :: t, acc := acc, ok := true, badStart := 0, badStop := 0 }
  | .slice sb si ei _ _ => { st with work := sb :: si :: ei :: t, acc := acc, ok := true, badStart := 0, badStop := 0 }
  | .cast cv _ _ _ _ _ => { st with work := cv :: t, acc := acc, ok := true, badStart := 0, badStop := 0 }
  | .recordConstruct _ _ b hb f _ _ =>
    { st with work := recordChildren b hb f t, acc := acc, ok := true, badStart := 0, badStop := 0 }
  | .opCall _ _ _ a _ _ => { st with work := appendExprs a t, acc := acc, ok := true, badStart := 0, badStop := 0 }

def walkExpr (st : WalkState) (h : Expr) (t : List Expr) : WalkState :=
  let s := exprStart h
  let e := exprEnd h
  let acc := h :: st.acc
  if e < s || e > st.total then
    { st with swords := [], work := [], acc := acc, ok := false, badStart := s, badStop := e }
  else walkChildren src st h t acc

def walkExprTop (st : WalkState) : WalkState :=
  match st.work with
  | [] => st
  | h :: t => walkExpr src st h t

def walkStep (st : WalkState) : WalkState :=
  if !st.ok then { st with swords := [], work := [], ok := false }
  else
    match st.swords with
    | h :: t => walkStmt st h t
    | [] => walkExprTop src st

def walkDrained (st : WalkState) : Bool := st.swords.isEmpty && st.work.isEmpty

def walkReport (st : WalkState) : BodyReport :=
  if !st.ok then { ok := false, badStart := st.badStart, badStop := st.badStop, exprs := [] }
  else if !walkDrained st then { ok := false, badStart := st.total, badStop := st.total, exprs := [] }
  else { ok := true, badStart := 0, badStop := 0, exprs := st.acc }

def checkBody (body : List Stmt) (ret : Expr) (names : List NameSpan) : BodyReport :=
  let d := (walkStep src)^[1024]
    { swords := body, work := [ret], acc := [], names := names, total := src.total, ok := true, badStart := 0
      badStop := 0 }
  walkReport d

/-! ## Units -/

structure FnsState where
  rest : List FnDecl
  names : List NameSpan
  total : Nat
  ok : Bool
  badStart : Nat
  badStop : Nat
  fnCount : Nat
  exprs : List Expr

structure FnsReport where
  ok : Bool
  badStart : Nat
  badStop : Nat
  fnCount : Nat
  exprs : List Expr

structure IrState where
  rest : List Expr
  ok : Bool
  count : Nat

structure IrReport where
  ok : Bool
  count : Nat

structure UnitCheck where
  ok : Bool
  errStart : Nat
  errStop : Nat
  stage : Nat
  fnCount : Nat
  exprCount : Nat
  irOk : Bool

def checkOneFn (st : FnsState) (h : FnDecl) (t : List FnDecl) : FnsState :=
  let bd := h.body
  let rep := checkBody src bd.body bd.ret st.names
  if !rep.ok then { st with rest := [], ok := false, badStart := rep.badStart, badStop := rep.badStop }
  else
    { st with
      rest := t, ok := true, badStart := 0, badStop := 0, fnCount := st.fnCount + 1
      exprs := appendExprs rep.exprs st.exprs }

def checkFnsStep (st : FnsState) : FnsState :=
  if !st.ok then { st with rest := [], ok := false }
  else
    match st.rest with
    | [] => st
    | h :: t => checkOneFn src st h t

def checkAllFns (fns : List FnDecl) (names : List NameSpan) : FnsReport :=
  let d := (checkFnsStep src)^[1024]
    { rest := fns, names := names, total := src.total, ok := true, badStart := 0, badStop := 0, fnCount := 0,
      exprs := [] }
  { ok := d.ok, badStart := d.badStart, badStop := d.badStop, fnCount := d.fnCount, exprs := d.exprs }

def verifyIrOne (st : IrState) (h : Expr) (t : List Expr) : IrState :=
  let ops := lowerExpr src h
  if !flatOk ops then { st with rest := [], ok := false } else { rest := t, ok := true, count := st.count + 1 }

def verifyIrStep (st : IrState) : IrState :=
  if !st.ok then { st with rest := [], ok := false }
  else
    match st.rest with
    | [] => st
    | h :: t => verifyIrOne src st h t

def verifyIrExprs (exprs : List Expr) : IrReport :=
  let d := (verifyIrStep src)^[1024] { rest := exprs, ok := true, count := 0 }
  { ok := d.ok, count := d.count }

def checkUnit : UnitCheck :=
  let u := parseUnit src
  if !u.ok then
    { ok := false, errStart := u.errStart, errStop := u.errStop, stage := 0, fnCount := 0, exprCount := 0,
      irOk := false }
  else
    let names := collectFnNames u.fns
    let dup := duplicateFnNames src names
    if dup.found then
      { ok := false, errStart := dup.start, errStop := dup.stop, stage := 1, fnCount := 0, exprCount := 0,
        irOk := false }
    else
      let fns := checkAllFns src u.fns names
      if !fns.ok then
        { ok := false, errStart := fns.badStart, errStop := fns.badStop, stage := 2, fnCount := 0, exprCount := 0
          irOk := false }
      else
        let ir := verifyIrExprs src fns.exprs
        if !ir.ok then
          { ok := false, errStart := src.total, errStop := src.total, stage := 3, fnCount := fns.fnCount
            exprCount := ir.count, irOk := false }
        else
          { ok := true, errStart := 0, errStop := 0, stage := 4, fnCount := fns.fnCount, exprCount := ir.count
            irOk := true }

end Source

/-! ## Faults -/

/-- A span that ends before its start or behind the source. -/
def badSpan (total start stop : Nat) : Option NameSpan :=
  if stop < start || stop > total then some { start := start, stop := stop } else none

def TypeArg.fault (total : Nat) (t : TypeArg) : Option NameSpan := badSpan total t.start t.stop

def Stmt.span : Stmt → NameSpan
  | .letStmt _ _ _ _ _ _ s e => { start := s, stop := e }
  | .ifStmt _ _ _ s e => { start := s, stop := e }
  | .failStmt _ _ s e => { start := s, stop := e }
  | .returnStmt _ s e => { start := s, stop := e }
  | .iterateStmt _ _ _ _ _ _ _ _ _ _ _ _ _ _ _ _ s e => { start := s, stop := e }

def TargSpanWalk.failed (st : TargSpanWalk) : Option NameSpan :=
  if st.ok then none else some { start := st.badStart, stop := st.badStop }

def WalkState.failed (st : WalkState) : Option NameSpan :=
  if st.ok then none else some { start := st.badStart, stop := st.badStop }

/-- The state of a walk that has met a fault. -/
def WalkState.fail (st : WalkState) (acc : List Expr) (x : NameSpan) : WalkState :=
  { st with swords := [], work := [], acc := acc, ok := false, badStart := x.start, badStop := x.stop }

section Faults

variable (src : Source) (names : List NameSpan) (total : Nat)

/-- A call of no known function, or with a type argument that has a bad span. -/
def callFault (ns ne : Nat) (tg : List TypeArg) : Option NameSpan :=
  if nameKnown src names ns ne || stage0IntrinsicKnown src ns ne then (tg.take 1024).findSome? (TypeArg.fault total)
  else some { start := ns, stop := ne }

def Expr.calleeFault : Expr → Option NameSpan
  | .call ns ne _ tg _ _ => callFault src names total ns ne tg
  | _ => none

def Node.fault : Node → Option NameSpan
  | .fn _ => none
  | .stmt s => badSpan total s.span.start s.span.stop
  | .expr e => (badSpan total (exprStart e) (exprEnd e)).or (e.calleeFault src names total)

end Faults

/-! ## Steps -/

section Steps

variable {src : Source} {names : List NameSpan} {total : Nat}

theorem failed_eq_none {ok : Bool} {x : NameSpan} (h : (if ok then none else some x) = none) : ok = true := by
  cases ok with
  | true => rfl
  | false => cases h

theorem failed_eq_some {ok : Bool} {x y : NameSpan} (h : (if ok then none else some x) = some y) :
    ok = false ∧ x = y := by
  cases ok with
  | true => cases h
  | false => exact ⟨rfl, Option.some.inj h⟩

theorem ite_badSpan {γ : Type} (total s e : Nat) (bad : NameSpan → γ) (good : γ) :
    (if e < s || e > total then bad { start := s, stop := e } else good) = (badSpan total s e).elim good bad := by
  unfold badSpan
  by_cases h : (decide (e < s) || decide (e > total)) = true
  · rw [if_pos h, if_pos h]
    rfl
  · rw [if_neg h, if_neg h]
    rfl

theorem checkTargSpansStep_cons {st : TargSpanWalk} {h : TypeArg} {t : List TypeArg} (hok : st.ok = true)
    (hrest : st.rest = h :: t) :
    checkTargSpansStep total st =
      (h.fault total).elim { rest := t, ok := true, badStart := 0, badStop := 0 }
        fun x => { rest := [], ok := false, badStart := x.start, badStop := x.stop } := by
  rw [checkTargSpansStep, hok, hrest]
  exact ite_badSpan total h.start h.stop
    (fun x => ({ rest := [], ok := false, badStart := x.start, badStop := x.stop } : TargSpanWalk)) _

theorem iterate_checkTargSpansStep (total n : Nat) (list : List TypeArg) :
    ((checkTargSpansStep total)^[n] { rest := list, ok := true, badStart := 0, badStop := 0 }).failed =
      (list.take n).findSome? (TypeArg.fault total) := by
  refine (iterate_scan (fun _ => True) TargSpanWalk.rest TargSpanWalk.failed (fun _ => ()) (TypeArg.fault total)
    (fun _ _ => ()) (fun _ h => h) ?_ ?_ ?_ n trivial rfl).1
  · intro st x hx
    obtain ⟨hok, -⟩ := failed_eq_some hx
    rw [checkTargSpansStep, hok]
    rwa [TargSpanWalk.failed, hok] at hx
  · intro st hnone hrest
    rw [checkTargSpansStep, failed_eq_none hnone, hrest]
    rfl
  · intro st h t _ hnone hrest
    rw [checkTargSpansStep_cons (failed_eq_none hnone) hrest]
    cases h.fault total with
    | none => exact ⟨rfl, fun _ => ⟨rfl, rfl⟩⟩
    | some x =>
        refine ⟨rfl, ?_⟩
        intro hx
        cases hx

def TargSpanWalk.report (d : TargSpanWalk) : TargSpanCheck :=
  { ok := d.ok, badStart := d.badStart, badStop := d.badStop }

theorem TargSpanWalk.report_of_failed {d : TargSpanWalk} {fault : Option NameSpan} (h : d.failed = fault) :
    (fault = none → d.report.ok = true) ∧
      ∀ x, fault = some x → d.report = { ok := false, badStart := x.start, badStop := x.stop } := by
  constructor
  · intro hnone
    exact failed_eq_none (h.trans hnone)
  · intro x hx
    obtain ⟨hok, rfl⟩ := failed_eq_some (h.trans hx)
    rw [TargSpanWalk.report, hok]

/-- The check of type arguments reports the first bad span. -/
theorem checkTargSpans_eq (list : List TypeArg) (total : Nat) :
    ((list.take 1024).findSome? (TypeArg.fault total) = none → (checkTargSpans list total).ok = true) ∧
      ∀ x, (list.take 1024).findSome? (TypeArg.fault total) = some x →
        checkTargSpans list total = { ok := false, badStart := x.start, badStop := x.stop } :=
  TargSpanWalk.report_of_failed (iterate_checkTargSpansStep total 1024 list)

/-- A statement is replaced by the statements inside it, and its expressions are queued. -/
theorem walkStmt_eq (st : WalkState) (h : Stmt) (t : List Stmt) :
    walkStmt st h t =
      (badSpan st.total h.span.start h.span.stop).elim
        { st with
          swords := h.blocks.flatMap (List.take 1024) ++ t, work := h.exprs ++ st.work, ok := true, badStart := 0
          badStop := 0 }
        (st.fail st.acc) := by
  cases h with
  | letStmt nameStart nameStop typeStart typeStop typeKind value s e =>
      exact ite_badSpan st.total s e (st.fail st.acc) _
  | failStmt modeStart modeStop s e => exact ite_badSpan st.total s e (st.fail st.acc) _
  | returnStmt value s e => exact ite_badSpan st.total s e (st.fail st.acc) _
  | ifStmt cond thenB elseB s e =>
      have hblocks : (Stmt.ifStmt cond thenB elseB s e).blocks.flatMap (List.take 1024) ++ t =
          appendStmts thenB (appendStmts elseB t) := by
        simp [Stmt.blocks, appendStmts_eq]
      rw [hblocks]
      exact ite_badSpan st.total s e (st.fail st.acc) _
  | iterateStmt a b o ho c d f g i j k init body l m nv s e =>
      have hblocks :
          (Stmt.iterateStmt a b o ho c d f g i j k init body l m nv s e).blocks.flatMap (List.take 1024) ++ t =
          appendStmts body t := by
        simp [Stmt.blocks, appendStmts_eq]
      have hexprs : (Stmt.iterateStmt a b o ho c d f g i j k init body l m nv s e).exprs ++ st.work =
          iterateCallExprs o ho init nv st.work := by
        cases ho with
        | true => rfl
        | false => rfl
      rw [hblocks, hexprs]
      exact ite_badSpan st.total s e (st.fail st.acc) _

theorem walkCall_eq (st : WalkState) (t acc : List Expr) (ns ne : Nat) (args : List Expr) (tg : List TypeArg) :
    walkCall src st t acc ns ne args tg =
      (callFault src st.names st.total ns ne tg).elim
        { st with work := appendExprs args t, acc := acc, ok := true, badStart := 0, badStop := 0 } (st.fail acc) := by
  obtain ⟨hgood, hbad⟩ := checkTargSpans_eq tg st.total
  rw [walkCall, callFault]
  cases hknown : nameKnown src st.names ns ne || stage0IntrinsicKnown src ns ne with
  | false => rfl
  | true =>
      cases hfault : (tg.take 1024).findSome? (TypeArg.fault st.total) with
      | none =>
          dsimp only
          rw [hgood hfault]
          rfl
      | some x =>
          dsimp only
          rw [hbad x hfault]
          rfl

/-- An expression is noted and replaced by its children. -/
theorem walkExpr_eq (st : WalkState) (h : Expr) (t : List Expr) :
    walkExpr src st h t =
      (Node.fault src st.names st.total (.expr h)).elim
        { st with
          work := h.heads ++ h.queue ++ t, acc := h :: st.acc, ok := true, badStart := 0, badStop := 0 }
        (st.fail (h :: st.acc)) := by
  have hchildren : walkChildren src st h t (h :: st.acc) =
      (h.calleeFault src st.names st.total).elim
        { st with
          work := h.heads ++ h.queue ++ t, acc := h :: st.acc, ok := true, badStart := 0, badStop := 0 }
        (st.fail (h :: st.acc)) := by
    rw [← collectCallExpr_exprs ⟨[], [], [], [], [], []⟩ h t]
    cases h with
    | call ns ne args tg s e =>
        simp only [walkChildren, collectCallExpr, Expr.calleeFault]
        exact walkCall_eq st t _ ns ne args tg
    | _ => simp only [walkChildren, collectCallExpr, Expr.calleeFault, Option.elim_none]
  have hstep : walkExpr src st h t =
      (badSpan st.total (exprStart h) (exprEnd h)).elim (walkChildren src st h t (h :: st.acc))
        (st.fail (h :: st.acc)) :=
    ite_badSpan st.total (exprStart h) (exprEnd h) (st.fail (h :: st.acc)) _
  rw [hstep, hchildren, Node.fault]
  cases badSpan st.total (exprStart h) (exprEnd h) with
  | none => rfl
  | some x => rfl

end Steps

/-! ## The order of a walk -/

/-- The statements that a walk meets below a statement. -/
noncomputable def Stmt.tree : Branching Stmt where
  children := fun s => s.blocks.flatMap (List.take 1024)
  size := sizeOf
  smaller := by
    intro a c hc
    obtain ⟨block, hblock, hc⟩ := List.mem_flatMap.mp hc
    have hpart : Node.stmt c ∈ (Node.stmt a).parts :=
      List.mem_append_right _ (List.mem_map_of_mem (List.mem_flatten.mpr ⟨block, hblock, List.mem_of_mem_take hc⟩))
    have hlt := Node.sizeOf_lt hpart
    simp only [Node.stmt.sizeOf_spec] at hlt
    omega

/-- The expressions that a walk meets below an expression. -/
noncomputable def Expr.tree : Branching Expr where
  children := fun e => e.heads ++ e.queue
  size := sizeOf
  smaller := by
    intro a c hc
    apply Expr.sizeOf_lt
    rcases List.mem_append.mp hc with hc | hc
    · exact List.mem_append_left _ hc
    · exact List.mem_append_right _ (List.mem_of_mem_take (a.queue_perm.mem_iff.mp hc))

/-- What is ahead of a walk: first the statements, then the expressions, those of the last statement first. -/
noncomputable def walkOrder (swords : List Stmt) (work : List Expr) : List Node :=
  let stmts := swords.flatMap Stmt.tree.preorder
  stmts.map .stmt ++ ((stmts.reverse.flatMap Stmt.exprs ++ work).flatMap Expr.tree.preorder).map .expr

/-- What a walk notes. -/
def Node.note (acc : List Expr) : Node → List Expr
  | .expr e => e :: acc
  | _ => acc

theorem walkOrder_stmt (s : Stmt) (t : List Stmt) (work : List Expr) :
    walkOrder (s :: t) work = .stmt s :: walkOrder (s.blocks.flatMap (List.take 1024) ++ t) (s.exprs ++ work) := by
  have hstmts : (s :: t).flatMap Stmt.tree.preorder =
      s :: (s.blocks.flatMap (List.take 1024) ++ t).flatMap Stmt.tree.preorder := by
    rw [List.flatMap_cons, Stmt.tree.preorder_eq, List.flatMap_append]
    rfl
  rw [walkOrder, walkOrder, hstmts]
  simp only [List.map_cons, List.reverse_cons, List.flatMap_append, List.flatMap_singleton, List.append_assoc,
    List.cons_append]

theorem walkOrder_expr (e : Expr) (t : List Expr) :
    walkOrder [] (e :: t) = .expr e :: walkOrder [] (e.heads ++ e.queue ++ t) := by
  have hexprs : (e :: t).flatMap Expr.tree.preorder = e :: (e.heads ++ e.queue ++ t).flatMap Expr.tree.preorder := by
    rw [List.flatMap_cons, Expr.tree.preorder_eq, List.flatMap_append]
    rfl
  show ((e :: t).flatMap Expr.tree.preorder).map Node.expr = _
  rw [hexprs]
  rfl

section Walk

variable {src : Source} {names : List NameSpan} {total : Nat}

theorem walkStep_keeps (src : Source) (st : WalkState) :
    (walkStep src st).names = st.names ∧ (walkStep src st).total = st.total := by
  rw [walkStep]
  cases st.ok with
  | false => exact ⟨rfl, rfl⟩
  | true =>
      cases st.swords with
      | cons h t =>
          dsimp only
          rw [walkStmt_eq]
          cases badSpan st.total h.span.start h.span.stop with
          | none => exact ⟨rfl, rfl⟩
          | some x => exact ⟨rfl, rfl⟩
      | nil =>
          dsimp only
          rw [walkExprTop]
          cases st.work with
          | nil => exact ⟨rfl, rfl⟩
          | cons h t =>
              dsimp only
              rw [walkExpr_eq]
              cases Node.fault src st.names st.total (.expr h) with
              | none => exact ⟨rfl, rfl⟩
              | some x => exact ⟨rfl, rfl⟩

theorem iterate_walkStep_total (src : Source) (n : Nat) (st : WalkState) :
    ((walkStep src)^[n] st).total = st.total := by
  induction n generalizing st with
  | zero => rfl
  | succ n ih =>
      rw [Function.iterate_succ_apply, ih]
      exact (walkStep_keeps src st).2

/-- **The walk is a scan** of its order. -/
theorem iterate_walkStep (n : Nat) {st : WalkState} (hnames : st.names = names) (htotal : st.total = total)
    (hok : st.ok = true) :
    ((walkStep src)^[n] st).failed =
        ((walkOrder st.swords st.work).take n).findSome? (Node.fault src names total) ∧
      (((walkOrder st.swords st.work).take n).findSome? (Node.fault src names total) = none →
        walkOrder ((walkStep src)^[n] st).swords ((walkStep src)^[n] st).work =
            (walkOrder st.swords st.work).drop n ∧
          ((walkStep src)^[n] st).acc = ((walkOrder st.swords st.work).take n).foldl Node.note st.acc) := by
  have hstopped : st.failed = none := by rw [WalkState.failed, hok]; rfl
  refine iterate_scan (fun st => st.names = names ∧ st.total = total) (fun st => walkOrder st.swords st.work)
    WalkState.failed WalkState.acc (Node.fault src names total) Node.note ?_ ?_ ?_ ?_ n ⟨hnames, htotal⟩ hstopped
  · rintro st ⟨hnames, htotal⟩
    have hkeep := walkStep_keeps src st
    exact ⟨hkeep.1.trans hnames, hkeep.2.trans htotal⟩
  · intro st x hx
    obtain ⟨hok, -⟩ := failed_eq_some hx
    rw [walkStep, hok]
    rwa [WalkState.failed, hok] at hx
  · intro st hnone htodo
    rw [walkStep, failed_eq_none hnone]
    cases hswords : st.swords with
    | cons h t =>
        rw [hswords, walkOrder_stmt] at htodo
        cases htodo
    | nil =>
        rw [hswords] at htodo
        cases hwork : st.work with
        | cons h t =>
            rw [hwork, walkOrder_expr] at htodo
            cases htodo
        | nil =>
            show walkExprTop src st = st
            rw [walkExprTop, hwork]
  · rintro st a rest ⟨hnames, htotal⟩ hnone htodo
    cases hswords : st.swords with
    | cons h t =>
        rw [hswords, walkOrder_stmt] at htodo
        obtain ⟨rfl, rfl⟩ := List.cons.inj htodo
        have hstep : walkStep src st = walkStmt st h t := by
          rw [walkStep, failed_eq_none hnone, hswords]
          rfl
        rw [hstep, walkStmt_eq, Node.fault, htotal]
        cases badSpan total h.span.start h.span.stop with
        | none => exact ⟨rfl, fun _ => ⟨rfl, rfl⟩⟩
        | some x =>
            refine ⟨rfl, ?_⟩
            intro hx
            cases hx
    | nil =>
        rw [hswords] at htodo
        cases hwork : st.work with
        | nil =>
            rw [hwork] at htodo
            cases htodo
        | cons h t =>
            rw [hwork, walkOrder_expr] at htodo
            obtain ⟨rfl, rfl⟩ := List.cons.inj htodo
            have hstep : walkStep src st = walkExpr src st h t := by
              rw [walkStep, failed_eq_none hnone, hswords]
              show walkExprTop src st = _
              rw [walkExprTop, hwork]
            rw [hstep, walkExpr_eq, hnames, htotal]
            cases Node.fault src names total (.expr h) with
            | none => exact ⟨rfl, fun _ => ⟨congrArg (fun l => walkOrder l _) hswords, rfl⟩⟩
            | some x =>
                refine ⟨rfl, ?_⟩
                intro hx
                cases hx

/-- The nodes of a body in the order of its walk. -/
noncomputable def bodyOrder (body : List Stmt) (ret : Expr) : List Node := walkOrder body [ret]

def BodyReport.failed (rep : BodyReport) : Option NameSpan :=
  if rep.ok then none else some { start := rep.badStart, stop := rep.badStop }

def Node.expr? : Node → Option Expr
  | .expr e => some e
  | _ => none

theorem foldl_note (l : List Node) (acc : List Expr) :
    l.foldl Node.note acc = (l.filterMap Node.expr?).reverse ++ acc := by
  induction l generalizing acc with
  | nil => rfl
  | cons a l ih =>
      rw [List.foldl_cons, ih]
      cases a with
      | expr e =>
          show _ = (e :: l.filterMap Node.expr?).reverse ++ acc
          rw [List.reverse_cons, List.append_assoc]
          rfl
      | fn decl => rfl
      | stmt s => rfl

/-- The report of a walk that has gone `n` steps along `order`. -/
theorem walkReport_eq {order : List Node} {fault : Node → Option NameSpan} {d : WalkState} {n : Nat}
    (htotal : d.total = total) (hfailed : d.failed = (order.take n).findSome? fault)
    (hgood : (order.take n).findSome? fault = none →
      walkOrder d.swords d.work = order.drop n ∧ d.acc = (order.take n).foldl Node.note []) :
    walkReport d =
      ((order.take n).findSome? fault).elim
        (if order.length ≤ n then
          { ok := true, badStart := 0, badStop := 0, exprs := (order.filterMap Node.expr?).reverse }
        else { ok := false, badStart := total, badStop := total, exprs := [] })
        fun x => { ok := false, badStart := x.start, badStop := x.stop, exprs := [] } := by
  rw [walkReport]
  cases hfault : (order.take n).findSome? fault with
  | some x =>
      obtain ⟨hok, rfl⟩ := failed_eq_some (hfailed.trans hfault)
      rw [hok]
      rfl
  | none =>
      obtain ⟨hrest, hacc⟩ := hgood hfault
      rw [failed_eq_none (hfailed.trans hfault)]
      have hdrained : walkDrained d = decide (order.length ≤ n) := by
        rw [Bool.eq_iff_iff, decide_eq_true_eq, ← List.drop_eq_nil_iff, ← hrest, walkDrained, Bool.and_eq_true,
          List.isEmpty_iff, List.isEmpty_iff]
        constructor
        · rintro ⟨hswords, hwork⟩
          rw [hswords, hwork]
          rfl
        · intro hnil
          cases hswords : d.swords with
          | cons h t =>
              rw [hswords, walkOrder_stmt] at hnil
              cases hnil
          | nil =>
              rw [hswords] at hnil
              cases hwork : d.work with
              | cons h t =>
                  rw [hwork, walkOrder_expr] at hnil
                  cases hnil
              | nil => exact ⟨rfl, rfl⟩
      rw [hdrained, htotal]
      by_cases hfew : order.length ≤ n
      · rw [decide_eq_true hfew, if_pos hfew, hacc, foldl_note, List.take_of_length_le hfew, List.append_nil]
        rfl
      · rw [decide_eq_false hfew, if_neg hfew]
        rfl

/-- **A walk reports the first fault in its order**, and gives up on a body of more than 1024 nodes. -/
theorem checkBody_eq (body : List Stmt) (ret : Expr) (names : List NameSpan) :
    checkBody src body ret names =
      (((bodyOrder body ret).take 1024).findSome? (Node.fault src names src.total)).elim
        (if (bodyOrder body ret).length ≤ 1024 then
          { ok := true, badStart := 0, badStop := 0, exprs := ((bodyOrder body ret).filterMap Node.expr?).reverse }
        else { ok := false, badStart := src.total, badStop := src.total, exprs := [] })
        fun x => { ok := false, badStart := x.start, badStop := x.stop, exprs := [] } := by
  have htotal := iterate_walkStep_total src 1024
    { swords := body, work := [ret], acc := [], names := names, total := src.total, ok := true, badStart := 0
      badStop := 0 }
  obtain ⟨hfailed, hgood⟩ := @iterate_walkStep src names src.total 1024
    { swords := body, work := [ret], acc := [], names := names, total := src.total, ok := true, badStart := 0
      badStop := 0 } rfl rfl rfl
  exact walkReport_eq htotal hfailed hgood

end Walk

/-! ## Bodies -/

/-- Every node of a body. -/
noncomputable def bodyNodes (body : List Stmt) (ret : Expr) : List Node :=
  (body.map Node.stmt ++ [Node.expr ret]).flatMap Node.whole.preorder

theorem preorder_walked_expr (e : Expr) : Node.walked.preorder (.expr e) = (Expr.tree.preorder e).map .expr := by
  induction e using Expr.tree.induction with
  | _ e ih =>
      rw [Node.walked.preorder_eq, Expr.tree.preorder_eq, List.map_cons, List.map_flatMap, ← List.flatMap_congr ih]
      congr 1
      exact List.flatMap_map Node.expr Node.walked.preorder (e.heads ++ e.queue)

theorem preorder_walked_stmt (s : Stmt) :
    Node.walked.preorder (.stmt s) =
      (Stmt.tree.preorder s).flatMap fun r => .stmt r :: (r.exprs.flatMap Expr.tree.preorder).map .expr := by
  induction s using Stmt.tree.induction with
  | _ s ih =>
      have hexprs : (s.exprs.map Node.expr).flatMap Node.walked.preorder =
          (s.exprs.flatMap Expr.tree.preorder).map Node.expr := by
        rw [List.flatMap_map, List.map_flatMap]
        exact List.flatMap_congr fun e _ => preorder_walked_expr e
      have hblocks : ((s.blocks.flatMap (List.take 1024)).map Node.stmt).flatMap Node.walked.preorder =
          ((s.blocks.flatMap (List.take 1024)).flatMap Stmt.tree.preorder).flatMap
            fun r => .stmt r :: (r.exprs.flatMap Expr.tree.preorder).map .expr := by
        generalize hchildren : s.blocks.flatMap (List.take 1024) = children
        rw [List.flatMap_map, List.flatMap_assoc]
        subst hchildren
        exact List.flatMap_congr ih
      rw [Node.walked.preorder_eq, Stmt.tree.preorder_eq, List.flatMap_cons, List.cons_append]
      congr 1
      show (s.exprs.map Node.expr ++ (s.blocks.flatMap (List.take 1024)).map Node.stmt).flatMap Node.walked.preorder = _
      rw [List.flatMap_append, hexprs, hblocks]
      rfl

/-- The walk meets the nodes that the collection of calls meets, in another order. -/
theorem bodyOrder_perm (body : List Stmt) (ret : Expr) :
    (bodyOrder body ret).Perm ((body.map Node.stmt ++ [Node.expr ret]).flatMap Node.walked.preorder) := by
  have hstmts : (body.map Node.stmt).flatMap Node.walked.preorder =
      (body.flatMap Stmt.tree.preorder).flatMap
        fun r => [Node.stmt r] ++ (r.exprs.flatMap Expr.tree.preorder).map Node.expr := by
    rw [List.flatMap_map, List.flatMap_assoc]
    exact List.flatMap_congr fun s _ => preorder_walked_stmt s
  have hqueued : ((body.flatMap Stmt.tree.preorder).reverse.flatMap Stmt.exprs).Perm
      ((body.flatMap Stmt.tree.preorder).flatMap Stmt.exprs) :=
    (List.reverse_perm _).flatMap_right _
  have hsplit := List.flatMap_append_perm (body.flatMap Stmt.tree.preorder) (fun r => [Node.stmt r])
    fun r => (r.exprs.flatMap Expr.tree.preorder).map Node.expr
  have hshape : bodyOrder body ret = (body.flatMap Stmt.tree.preorder).map Node.stmt ++
      (((body.flatMap Stmt.tree.preorder).reverse.flatMap Stmt.exprs).flatMap Expr.tree.preorder).map Node.expr ++
        (Expr.tree.preorder ret).map Node.expr := by
    rw [bodyOrder, walkOrder, List.flatMap_append, List.map_append, List.flatMap_singleton, List.append_assoc]
  rw [List.flatMap_append, List.flatMap_singleton, preorder_walked_expr, hstmts, hshape]
  apply List.Perm.append_right
  refine List.Perm.trans ?_ hsplit
  rw [← List.map_eq_flatMap]
  apply List.Perm.append_left
  have hflat : (((body.flatMap Stmt.tree.preorder).flatMap Stmt.exprs).flatMap Expr.tree.preorder).map Node.expr =
      (body.flatMap Stmt.tree.preorder).flatMap fun r => (r.exprs.flatMap Expr.tree.preorder).map Node.expr := by
    rw [List.flatMap_assoc, List.map_flatMap]
  rw [← hflat]
  exact (hqueued.flatMap_right Expr.tree.preorder).map Node.expr

theorem Node.length_followed {a : Node} (h : a.dropped ≠ []) : 1024 ≤ a.followed.length := by
  cases a with
  | fn decl => exact absurd rfl h
  | stmt s =>
      have hdropped : s.blocks.flatMap (List.drop 1024) ≠ [] := fun hnil => h (congrArg (List.map Node.stmt) hnil)
      obtain ⟨c, hc⟩ := List.exists_mem_of_ne_nil _ hdropped
      obtain ⟨block, hblock, hc⟩ := List.mem_flatMap.mp hc
      have hlong : 1024 < block.length := by
        by_contra hshort
        rw [List.drop_of_length_le (Nat.not_lt.mp hshort)] at hc
        cases hc
      have hin : block.take 1024 ∈ s.blocks.map (List.take 1024) := List.mem_map_of_mem hblock
      have hle := (List.sublist_flatten_of_mem hin).length_le
      rw [List.length_take, ← List.flatMap_def] at hle
      show 1024 ≤ (s.exprs.map Node.expr ++ (s.blocks.flatMap (List.take 1024)).map Node.stmt).length
      rw [List.length_append, List.length_map, List.length_map]
      omega
  | expr e =>
      have hlong : 1024 < e.items.length := by
        by_contra hshort
        exact h (congrArg (List.map Node.expr) (List.drop_of_length_le (Nat.not_lt.mp hshort)))
      show 1024 ≤ ((e.heads ++ e.queue).map Node.expr).length
      rw [List.length_map, List.length_append, e.queue_perm.length_eq, List.length_take]
      omega

theorem length_walked_le (l : List Node) :
    (l.flatMap Node.walked.preorder).length ≤ (l.flatMap Node.whole.preorder).length := by
  have hperm := (@preorders_perm _ Node.whole Node.walked _ Node.parts_perm l).length_eq
  rw [List.length_append] at hperm
  omega

/-- A tree that is walked in 1024 steps is walked whole. -/
theorem whole_perm {l : List Node} (h : (l.flatMap Node.walked.preorder).length ≤ 1024) :
    (l.flatMap Node.whole.preorder).Perm (l.flatMap Node.walked.preorder) := by
  have hperm := @preorders_perm _ Node.whole Node.walked _ Node.parts_perm l
  have hnone : (l.flatMap Node.walked.preorder).flatMap (fun b => b.dropped.flatMap Node.whole.preorder) = [] := by
    rw [List.flatMap_eq_nil_iff]
    intro b hb
    by_cases hdropped : b.dropped = []
    · rw [hdropped]
      rfl
    · have hlong := Node.length_followed hdropped
      have hfew := length_children_lt Node.walked (mem_preorder_self Node.walked b)
      have hle := length_preorder_le_of_mem_flatMap Node.walked hb
      change b.followed.length < _ at hfew
      omega
  rwa [hnone, List.append_nil] at hperm

theorem bodyNodes_perm {body : List Stmt} {ret : Expr} (h : (bodyOrder body ret).length ≤ 1024) :
    (bodyNodes body ret).Perm (bodyOrder body ret) := by
  have horder := bodyOrder_perm body ret
  exact (whole_perm (horder.length_eq ▸ h)).trans horder.symm

theorem length_bodyOrder_le (body : List Stmt) (ret : Expr) :
    (bodyOrder body ret).length ≤ (bodyNodes body ret).length := by
  rw [(bodyOrder_perm body ret).length_eq]
  exact length_walked_le _

/-- A body within the steps of a walk, without a fault. -/
def BodyResolves (src : Source) (names : List NameSpan) (decl : FnDecl) : Prop :=
  (bodyNodes decl.body.body decl.body.ret).length ≤ 1024 ∧
    ∀ a ∈ bodyNodes decl.body.body decl.body.ret, a.fault src names src.total = none

/-- **A walk accepts** the bodies of at most 1024 nodes without a fault, and no others. -/
theorem checkBody_resolves_iff (src : Source) (names : List NameSpan) (decl : FnDecl) :
    (checkBody src decl.body.body decl.body.ret names).ok = true ↔ BodyResolves src names decl := by
  rw [checkBody_eq, BodyResolves]
  constructor
  · intro h
    cases hfault : ((bodyOrder decl.body.body decl.body.ret).take 1024).findSome? (Node.fault src names src.total) with
    | some x =>
        rw [hfault] at h
        cases h
    | none =>
        by_cases hfew : (bodyOrder decl.body.body decl.body.ret).length ≤ 1024
        · have hperm := bodyNodes_perm hfew
          rw [List.take_of_length_le hfew, List.findSome?_eq_none_iff] at hfault
          exact ⟨hperm.length_eq ▸ hfew, fun a ha => hfault a (hperm.mem_iff.mp ha)⟩
        · rw [hfault, if_neg hfew] at h
          cases h
  · rintro ⟨hfew, hgood⟩
    have hfew := Nat.le_trans (length_bodyOrder_le decl.body.body decl.body.ret) hfew
    have hfault : (bodyOrder decl.body.body decl.body.ret).findSome? (Node.fault src names src.total) = none := by
      rw [List.findSome?_eq_none_iff]
      intro a ha
      exact hgood a ((bodyNodes_perm hfew).mem_iff.mpr ha)
    rw [List.take_of_length_le hfew, hfault, if_pos hfew]
    rfl

/-! ## Functions -/

section Functions

variable (src : Source) (names : List NameSpan)

/-- Every expression that a walk has met in 1024 steps has at most 1024 nodes. -/
theorem Expr.nodes_of_tree {e : Expr} (h : (Expr.tree.preorder e).length ≤ 1024) : e.nodes.length ≤ 1024 := by
  have hperm : (Expr.operandTree.preorder e).Perm (Expr.tree.preorder e) := by
    apply preorder_perm_congr
    intro b hb
    have hfew : (b.heads ++ b.queue).length < (Expr.tree.preorder e).length := length_children_lt Expr.tree hb
    rw [List.length_append, b.queue_perm.length_eq, List.length_take] at hfew
    have hqueue := b.queue_perm
    rw [List.take_of_length_le (by omega)] at hqueue
    exact b.operands_perm.trans (hqueue.append_left b.heads).symm
  exact hperm.length_eq ▸ h

theorem checkBody_exprs {body : List Stmt} {ret : Expr} (h : (checkBody src body ret names).ok = true) :
    (bodyOrder body ret).length ≤ 1024 ∧
      (checkBody src body ret names).exprs = ((bodyOrder body ret).filterMap Node.expr?).reverse := by
  rw [checkBody_eq] at h ⊢
  cases hfault : ((bodyOrder body ret).take 1024).findSome? (Node.fault src names src.total) with
  | some x =>
      rw [hfault] at h
      cases h
  | none =>
      by_cases hfew : (bodyOrder body ret).length ≤ 1024
      · rw [if_pos hfew]
        exact ⟨hfew, rfl⟩
      · rw [hfault, if_neg hfew] at h
        cases h

theorem nodes_of_checkBody {body : List Stmt} {ret e : Expr} (h : (checkBody src body ret names).ok = true)
    (he : e ∈ (checkBody src body ret names).exprs) : e.nodes.length ≤ 1024 := by
  obtain ⟨hfew, hexprs⟩ := checkBody_exprs src names h
  rw [hexprs, List.mem_reverse, List.mem_filterMap] at he
  obtain ⟨a, ha, hnote⟩ := he
  have hexpr : a = .expr e := by
    cases a with
    | expr e' => exact congrArg Node.expr (Option.some.inj hnote)
    | fn decl => cases hnote
    | stmt s => cases hnote
  subst hexpr
  have horder := bodyOrder_perm body ret
  have hle := length_preorder_le_of_mem_flatMap Node.walked (horder.mem_iff.mp ha)
  rw [preorder_walked_expr, List.length_map, ← horder.length_eq] at hle
  exact Expr.nodes_of_tree (Nat.le_trans hle hfew)

/-- The fault that is reported for a function: the first in the order of the walk, or the end of the source for a body
    that is too long. -/
noncomputable def FnDecl.fault (decl : FnDecl) : Option NameSpan :=
  (((bodyOrder decl.body.body decl.body.ret).take 1024).findSome? (Node.fault src names src.total)).elim
    (if (bodyOrder decl.body.body decl.body.ret).length ≤ 1024 then none
    else some { start := src.total, stop := src.total })
    some

theorem checkBody_failed (decl : FnDecl) :
    (checkBody src decl.body.body decl.body.ret names).failed = decl.fault src names := by
  rw [checkBody_eq, FnDecl.fault]
  cases ((bodyOrder decl.body.body decl.body.ret).take 1024).findSome? (Node.fault src names src.total) with
  | some x => rfl
  | none =>
      by_cases hfew : (bodyOrder decl.body.body decl.body.ret).length ≤ 1024
      · rw [if_pos hfew, if_pos hfew]
        rfl
      · rw [if_neg hfew, if_neg hfew]
        rfl

/-- The expressions of a function in the order of its report. -/
noncomputable def FnDecl.visited (decl : FnDecl) : List Expr :=
  ((bodyOrder decl.body.body decl.body.ret).filterMap Node.expr?).reverse

def FnsState.failed (st : FnsState) : Option NameSpan :=
  if st.ok then none else some { start := st.badStart, stop := st.badStop }

/-- What is kept of a function that resolves. -/
noncomputable def keepFn (kept : Nat × List Expr) (decl : FnDecl) : Nat × List Expr :=
  (kept.1 + 1, decl.visited ++ kept.2)

theorem checkFnsStep_of_ok {st : FnsState} {h : FnDecl} {t : List FnDecl} (hok : st.ok = true)
    (hrest : st.rest = h :: t) :
    checkFnsStep src st = checkOneFn src st h t := by
  simp only [checkFnsStep, hok, hrest, Bool.not_true, Bool.false_eq_true, if_false]

/-- A function is kept, or its report is passed on. -/
theorem checkOneFn_eq {st : FnsState} {h : FnDecl} {rep : BodyReport} (t : List FnDecl)
    (hrep : checkBody src h.body.body h.body.ret st.names = rep) :
    checkOneFn src st h t =
      if rep.ok then
        { st with
          rest := t, ok := true, badStart := 0, badStop := 0, fnCount := st.fnCount + 1
          exprs := appendExprs rep.exprs st.exprs }
      else { st with rest := [], ok := false, badStart := rep.badStart, badStop := rep.badStop } := by
  rw [checkOneFn, hrep]
  cases rep.ok with
  | false => rw [Bool.not_false, if_pos rfl, if_neg Bool.false_ne_true]
  | true => rw [Bool.not_true, if_neg Bool.false_ne_true, if_pos rfl]

theorem checkFnsStep_cons {st : FnsState} {h : FnDecl} {t : List FnDecl} (hok : st.ok = true)
    (hnames : st.names = names) (hrest : st.rest = h :: t) :
    (checkFnsStep src st).failed = h.fault src names ∧
      (h.fault src names = none → (checkFnsStep src st).rest = t ∧
        ((checkFnsStep src st).fnCount, (checkFnsStep src st).exprs) = keepFn (st.fnCount, st.exprs) h) := by
  subst hnames
  obtain ⟨rep, hrep⟩ : ∃ rep, checkBody src h.body.body h.body.ret st.names = rep := ⟨_, rfl⟩
  have hfailed := checkBody_failed src st.names h
  have hkept : rep.ok = true → appendExprs rep.exprs st.exprs = h.visited ++ st.exprs := by
    intro hbody
    obtain ⟨hfew, hexprs⟩ := checkBody_exprs src st.names (hrep ▸ hbody)
    have hshort : h.visited.length ≤ 1024 := by
      rw [FnDecl.visited, List.length_reverse]
      exact Nat.le_trans (List.length_filterMap_le _ _) hfew
    rw [← hrep, hexprs, ← FnDecl.visited, appendExprs_eq, List.take_of_length_le hshort]
  rw [hrep, BodyReport.failed] at hfailed
  rw [checkFnsStep_of_ok src hok hrest, checkOneFn_eq src t hrep, ← hfailed]
  cases hbody : rep.ok with
  | false =>
      refine ⟨rfl, ?_⟩
      intro hnone
      cases hnone
  | true =>
      rw [if_pos rfl, hkept hbody]
      exact ⟨rfl, fun _ => ⟨rfl, rfl⟩⟩

theorem iterate_checkFnsStep (n : Nat) {st : FnsState} (hnames : st.names = names) (hok : st.ok = true) :
    ((checkFnsStep src)^[n] st).failed = (st.rest.take n).findSome? (FnDecl.fault src names) ∧
      ((st.rest.take n).findSome? (FnDecl.fault src names) = none →
        ((checkFnsStep src)^[n] st).rest = st.rest.drop n ∧
          (((checkFnsStep src)^[n] st).fnCount, ((checkFnsStep src)^[n] st).exprs) =
            (st.rest.take n).foldl keepFn (st.fnCount, st.exprs)) := by
  have hstopped : st.failed = none := by rw [FnsState.failed, hok]; rfl
  refine iterate_scan (fun st => st.names = names) FnsState.rest FnsState.failed (fun st => (st.fnCount, st.exprs))
    (FnDecl.fault src names) keepFn ?_ ?_ ?_ ?_ n hnames hstopped
  · intro st hnames
    cases hok : st.ok with
    | false =>
        rw [checkFnsStep, hok]
        exact hnames
    | true =>
        cases hrest : st.rest with
        | nil =>
            rw [checkFnsStep, hok, hrest]
            exact hnames
        | cons h t =>
            rw [checkFnsStep_of_ok src hok hrest, checkOneFn]
            cases (checkBody src h.body.body h.body.ret st.names).ok with
            | false => exact hnames
            | true => exact hnames
  · intro st x hx
    obtain ⟨hok, -⟩ := failed_eq_some hx
    rw [checkFnsStep, hok]
    rwa [FnsState.failed, hok] at hx
  · intro st hnone hrest
    rw [checkFnsStep, failed_eq_none hnone, hrest]
    rfl
  · intro st h t hnames hnone hrest
    exact checkFnsStep_cons src names (failed_eq_none hnone) hnames hrest

theorem foldl_keepFn (fns : List FnDecl) (kept : Nat × List Expr) :
    fns.foldl keepFn kept = (kept.1 + fns.length, fns.reverse.flatMap FnDecl.visited ++ kept.2) := by
  induction fns generalizing kept with
  | nil => rfl
  | cons decl fns ih =>
      rw [List.foldl_cons, ih, keepFn, List.reverse_cons, List.flatMap_append, List.flatMap_singleton, List.length_cons,
        List.append_assoc, Nat.add_assoc, Nat.add_comm 1]

/-! ## Verification -/

theorem iterate_verifyIrStep (n : Nat) {exprs : List Expr} (h : ∀ e ∈ exprs, flatOk (lowerExpr src e) = true)
    (count : Nat) :
    ((verifyIrStep src)^[n] { rest := exprs, ok := true, count := count }).ok = true ∧
      ((verifyIrStep src)^[n] { rest := exprs, ok := true, count := count }).count = count + min n exprs.length := by
  induction n generalizing exprs count with
  | zero => exact ⟨rfl, by rw [Nat.zero_min]; rfl⟩
  | succ n ih =>
      rw [Function.iterate_succ_apply]
      cases exprs with
      | nil =>
          have hstep : verifyIrStep src { rest := [], ok := true, count := count } =
              { rest := [], ok := true, count := count } := rfl
          obtain ⟨hok, hcount⟩ := ih h count
          rw [hstep]
          refine ⟨hok, hcount.trans ?_⟩
          rw [List.length_nil, Nat.min_zero, Nat.min_zero]
      | cons e t =>
          have hstep : verifyIrStep src { rest := e :: t, ok := true, count := count } =
              { rest := t, ok := true, count := count + 1 } := by
            simp only [verifyIrStep, verifyIrOne, h e List.mem_cons_self, Bool.not_true, Bool.false_eq_true, if_false]
          obtain ⟨hok, hcount⟩ := ih (fun e' he' => h e' (List.mem_cons_of_mem e he')) (count + 1)
          rw [hstep]
          refine ⟨hok, hcount.trans ?_⟩
          rw [List.length_cons, Nat.succ_min_succ]
          omega

/-- What the loop over the functions reports in the end. -/
def FnsState.report (d : FnsState) : FnsReport :=
  { ok := d.ok, badStart := d.badStart, badStop := d.badStop, fnCount := d.fnCount, exprs := d.exprs }

theorem FnsState.report_fault {d : FnsState} {x : NameSpan} (h : d.failed = some x) :
    d.report.ok = false ∧ d.report.badStart = x.start ∧ d.report.badStop = x.stop := by
  obtain ⟨hok, rfl⟩ := failed_eq_some h
  exact ⟨hok, rfl, rfl⟩

theorem FnsState.report_good {d : FnsState} {count : Nat} {exprs : List Expr} (h : d.failed = none)
    (hkept : (d.fnCount, d.exprs) = (count, exprs)) :
    d.report.ok = true ∧ d.report.fnCount = count ∧ d.report.exprs = exprs := by
  obtain ⟨hcount, hexprs⟩ := Prod.mk.inj hkept
  exact ⟨failed_eq_none h, hcount, hexprs⟩

/-- The functions are reported by the first of them that has a fault. -/
theorem checkAllFns_fault {fns : List FnDecl} {x : NameSpan}
    (h : (fns.take 1024).findSome? (FnDecl.fault src names) = some x) :
    (checkAllFns src fns names).ok = false ∧ (checkAllFns src fns names).badStart = x.start ∧
      (checkAllFns src fns names).badStop = x.stop := by
  obtain ⟨hfailed, -⟩ := @iterate_checkFnsStep src names 1024
    { rest := fns, names := names, total := src.total, ok := true, badStart := 0, badStop := 0, fnCount := 0
      exprs := [] } rfl rfl
  exact FnsState.report_fault (hfailed.trans h)

theorem checkAllFns_good {fns : List FnDecl} (h : (fns.take 1024).findSome? (FnDecl.fault src names) = none) :
    (checkAllFns src fns names).ok = true ∧ (checkAllFns src fns names).fnCount = (fns.take 1024).length ∧
      (checkAllFns src fns names).exprs = (fns.take 1024).reverse.flatMap FnDecl.visited := by
  obtain ⟨hfailed, hgood⟩ := @iterate_checkFnsStep src names 1024
    { rest := fns, names := names, total := src.total, ok := true, badStart := 0, badStop := 0, fnCount := 0
      exprs := [] } rfl rfl
  obtain ⟨-, hkept⟩ := hgood h
  rw [foldl_keepFn, List.append_nil, Nat.zero_add] at hkept
  exact FnsState.report_good (hfailed.trans h) hkept

theorem fault_eq_none_iff (decl : FnDecl) : decl.fault src names = none ↔ BodyResolves src names decl := by
  rw [← checkBody_resolves_iff, ← checkBody_failed]
  constructor
  · exact failed_eq_none
  · intro hok
    rw [BodyReport.failed, hok, if_pos rfl]

def IrState.report (d : IrState) : IrReport := { ok := d.ok, count := d.count }

theorem IrState.report_of {d : IrState} {count : Nat} (hok : d.ok = true) (hcount : d.count = count) :
    d.report.ok = true ∧ d.report.count = count :=
  ⟨hok, hcount⟩

/-- What the walks have met is verified. -/
theorem verifyIrExprs_visited {fns : List FnDecl} (h : fns.findSome? (FnDecl.fault src names) = none) :
    (verifyIrExprs src (fns.reverse.flatMap FnDecl.visited)).ok = true ∧
      (verifyIrExprs src (fns.reverse.flatMap FnDecl.visited)).count =
        min 1024 (fns.reverse.flatMap FnDecl.visited).length := by
  have hflat : ∀ e ∈ fns.reverse.flatMap FnDecl.visited, flatOk (lowerExpr src e) = true := by
    intro e he
    obtain ⟨decl, hdecl, he⟩ := List.mem_flatMap.mp he
    have hfault := (List.findSome?_eq_none_iff.mp h) decl (List.mem_reverse.mp hdecl)
    have hok := (checkBody_resolves_iff src names decl).mpr ((fault_eq_none_iff src names decl).mp hfault)
    obtain ⟨-, hexprs⟩ := checkBody_exprs src names hok
    apply flatOk_of_nodes
    apply nodes_of_checkBody src names hok
    rwa [hexprs]
  obtain ⟨hok, hcount⟩ := iterate_verifyIrStep src 1024 hflat 0
  rw [Nat.zero_add] at hcount
  exact IrState.report_of hok hcount

end Functions

/-! ## Names -/

/-- Looking for a name among at most 1024. -/
theorem nameKnown_eq (src : Source) {list : List NameSpan} (h : list.length ≤ 1024) (start stop : Nat) :
    nameKnown src list start stop = list.any fun n => spansEqual src n.start n.stop start stop := by
  have hrun : ∀ (n : Nat) (st : KnownState), st.rest.length ≤ n →
      ((iterate (fun _ (d : KnownState) =>
          if d.found || d.rest.isEmpty then .ret d.found else .next (nameKnownStep src d)) 0 n st).after
            fun d => d.found) =
        (st.found || st.rest.any fun n => spansEqual src n.start n.stop st.start st.stop) := by
    intro n
    induction n with
    | zero =>
        intro st hn
        rw [List.eq_nil_of_length_eq_zero (Nat.le_zero.mp hn), List.any_nil, Bool.or_false]
        rfl
    | succ n ih =>
        intro st hn
        rw [iterate_succ]
        cases hfound : st.found with
        | true =>
            rw [Bool.true_or, if_pos rfl, Bool.true_or]
            rfl
        | false =>
            cases hrest : st.rest with
            | nil => rfl
            | cons m t =>
                rw [hrest, List.length_cons] at hn
                have hstep : nameKnownStep src st =
                    { rest := t, start := st.start, stop := st.stop
                      found := spansEqual src m.start m.stop st.start st.stop } := by
                  rw [nameKnownStep, hrest, hfound]
                  rfl
                rw [List.isEmpty_cons, Bool.or_false, if_neg Bool.false_ne_true, Pass.bind_next,
                  iterate_const _ (0 + 1) 0,
                  hstep, ih _ (Nat.le_of_succ_le_succ hn), Bool.false_or, List.any_cons]
  exact hrun 1024 { rest := list, start := start, stop := stop, found := false } h

/-- No two of the names are spelled the same, as far as the comparison reads. -/
def DistinctNames (src : Source) (names : List NameSpan) : Prop :=
  names.Pairwise fun a b => spansEqual src a.start a.stop b.start b.stop = false

theorem iterate_duplicateFnNamesStep (src : Source) (n : Nat) {rest seen : List NameSpan} (hn : rest.length ≤ n)
    (hseen : seen.length + rest.length ≤ 1024) :
    ((duplicateFnNamesStep src)^[n] { rest := rest, seen := seen, found := false, start := 0, stop := 0 }).found =
      false ↔
      DistinctNames src rest ∧ ∀ b ∈ rest, ∀ a ∈ seen, spansEqual src a.start a.stop b.start b.stop = false := by
  have hstay : ∀ (n : Nat) (st : DupState), st.found = true → ((duplicateFnNamesStep src)^[n] st).found = true := by
    intro n
    induction n with
    | zero => exact fun st h => h
    | succ n ih =>
        intro st h
        rw [Function.iterate_succ_apply]
        apply ih
        rw [duplicateFnNamesStep]
        cases st.rest with
        | nil => exact h
        | cons a t =>
            show (duplicateFnNamesCons src st a t).found = true
            rw [duplicateFnNamesCons, if_pos h]
  induction n generalizing rest seen with
  | zero =>
      rw [List.eq_nil_of_length_eq_zero (Nat.le_zero.mp hn)]
      exact ⟨fun _ => ⟨List.Pairwise.nil, fun b hb => absurd hb List.not_mem_nil⟩, fun _ => rfl⟩
  | succ n ih =>
      rw [Function.iterate_succ_apply]
      cases rest with
      | nil =>
          have hstep : duplicateFnNamesStep src { rest := [], seen := seen, found := false, start := 0, stop := 0 } =
              { rest := [], seen := seen, found := false, start := 0, stop := 0 } := rfl
          rw [hstep]
          exact ih (Nat.zero_le n) hseen
      | cons b t =>
          rw [List.length_cons] at hn hseen
          have hstep :
              duplicateFnNamesStep src { rest := b :: t, seen := seen, found := false, start := 0, stop := 0 } =
              if nameKnown src seen b.start b.stop then
                { rest := t, seen := seen, found := true, start := b.start, stop := b.stop }
              else { rest := t, seen := b :: seen, found := false, start := 0, stop := 0 } := rfl
          rw [hstep, nameKnown_eq src (by omega)]
          cases hknown : seen.any fun a => spansEqual src a.start a.stop b.start b.stop with
          | true =>
              obtain ⟨a, ha, hsame⟩ := List.any_eq_true.mp hknown
              rw [if_pos rfl, hstay n _ rfl]
              constructor
              · intro h
                cases h
              · rintro ⟨-, hnew⟩
                rw [hnew b List.mem_cons_self a ha] at hsame
                cases hsame
          | false =>
              have hnew : ∀ a ∈ seen, spansEqual src a.start a.stop b.start b.stop = false := fun a ha =>
                Bool.eq_false_iff.mpr (List.any_eq_false.mp hknown a ha)
              have hnext := @ih t (b :: seen) (Nat.le_of_succ_le_succ hn) (by rw [List.length_cons]; omega)
              rw [if_neg Bool.false_ne_true]
              refine Iff.trans hnext ?_
              rw [DistinctNames, DistinctNames, List.pairwise_cons]
              constructor
              · rintro ⟨hrest, hnext⟩
                refine ⟨⟨fun c hc => hnext c hc b List.mem_cons_self, hrest⟩, ?_⟩
                intro c hc a ha
                rcases List.mem_cons.mp hc with rfl | hc
                · exact hnew a ha
                · exact hnext c hc a (List.mem_cons_of_mem b ha)
              · rintro ⟨⟨hfirst, hrest⟩, hnext⟩
                refine ⟨hrest, ?_⟩
                intro c hc a ha
                rcases List.mem_cons.mp ha with rfl | ha
                · exact hfirst c hc
                · exact hnext c (List.mem_cons_of_mem b hc) a ha

theorem collectFnNames_eq (fns : List FnDecl) :
    collectFnNames fns =
      (fns.take 1024).map fun decl => { start := decl.sig.nameStart, stop := decl.sig.nameStop } := by
  rw [collectFnNames, iterate_foldl FnNameAcc.rest FnNameAcc.acc fun acc decl =>
    { start := decl.sig.nameStart, stop := decl.sig.nameStop } :: acc]
  · have hshort : ((fns.take 1024).map fun decl : FnDecl =>
        ({ start := decl.sig.nameStart, stop := decl.sig.nameStop } : NameSpan)).reverse.length ≤ 1024 := by
      rw [List.length_reverse, List.length_map, List.length_take]
      exact Nat.min_le_left _ _
    rw [List.foldl_flip_cons_eq_append, List.append_nil, reverseNames, reverseWithin_eq, List.take_of_length_le hshort,
      List.reverse_reverse]
  · intro s hs
    rw [collectFnNamesStep, hs]
  · intro s h t hs
    rw [collectFnNamesStep, hs]
    exact ⟨rfl, rfl⟩

theorem DupState.report_found {d : DupState} {p : Prop} (h : d.found = false ↔ p) :
    (DupReport.mk d.found d.start d.stop).found = false ↔ p := h

theorem duplicateFnNames_found (src : Source) {names : List NameSpan} (h : names.length ≤ 1024) :
    (duplicateFnNames src names).found = false ↔ DistinctNames src names := by
  have hrun := @iterate_duplicateFnNamesStep src 1024 names [] h (by rw [List.length_nil]; omega)
  have hdistinct : (DistinctNames src names ∧ ∀ b ∈ names, ∀ a ∈ ([] : List NameSpan),
      spansEqual src a.start a.stop b.start b.stop = false) ↔ DistinctNames src names :=
    and_iff_left fun b _ a ha => absurd ha List.not_mem_nil
  exact DupState.report_found (hrun.trans hdistinct)

/-! ## The unit -/

/-- The names that the calls of a unit are looked up among. -/
def unitNames (src : Source) : List NameSpan := collectFnNames (parseUnit src).fns

/-- The functions of a unit that are walked. -/
def unitFns (src : Source) : List FnDecl := (parseUnit src).fns.take 1024

theorem length_unitNames (src : Source) : (unitNames src).length ≤ 1024 := by
  rw [unitNames, collectFnNames_eq, List.length_map, List.length_take]
  exact Nat.min_le_left _ _

section Outcome

variable (src : Source)

theorem checkUnit_parse (h : (parseUnit src).ok = false) :
    checkUnit src =
      { ok := false, errStart := (parseUnit src).errStart, errStop := (parseUnit src).errStop, stage := 0, fnCount := 0
        exprCount := 0, irOk := false } := by
  simp only [checkUnit, h, Bool.not_false, if_true]

theorem checkUnit_duplicate (hparse : (parseUnit src).ok = true)
    (hdup : (duplicateFnNames src (unitNames src)).found = true) :
    checkUnit src =
      { ok := false, errStart := (duplicateFnNames src (unitNames src)).start
        errStop := (duplicateFnNames src (unitNames src)).stop, stage := 1, fnCount := 0, exprCount := 0
        irOk := false } := by
  unfold unitNames at hdup ⊢
  simp only [checkUnit, hparse, hdup, Bool.not_true, Bool.false_eq_true, if_false, if_true]

theorem checkUnit_fault {x : NameSpan} (hparse : (parseUnit src).ok = true)
    (hdup : (duplicateFnNames src (unitNames src)).found = false)
    (h : (unitFns src).findSome? (FnDecl.fault src (unitNames src)) = some x) :
    checkUnit src =
      { ok := false, errStart := x.start, errStop := x.stop, stage := 2, fnCount := 0, exprCount := 0,
        irOk := false } := by
  obtain ⟨hok, hstart, hstop⟩ := checkAllFns_fault src (unitNames src) h
  unfold unitNames at hdup hok hstart hstop
  simp only [checkUnit, hparse, hdup, hok, hstart, hstop, Bool.not_true, Bool.not_false, Bool.false_eq_true, if_false,
    if_true]

theorem checkUnit_good (hparse : (parseUnit src).ok = true)
    (hdup : (duplicateFnNames src (unitNames src)).found = false)
    (h : (unitFns src).findSome? (FnDecl.fault src (unitNames src)) = none) :
    checkUnit src =
      { ok := true, errStart := 0, errStop := 0, stage := 4, fnCount := (unitFns src).length
        exprCount := min 1024 ((unitFns src).flatMap FnDecl.visited).length, irOk := true } := by
  obtain ⟨hok, hcount, hexprs⟩ := checkAllFns_good src (unitNames src) h
  obtain ⟨hir, hverified⟩ := verifyIrExprs_visited src (unitNames src) h
  have hlen : ((unitFns src).reverse.flatMap FnDecl.visited).length = ((unitFns src).flatMap FnDecl.visited).length :=
    ((List.reverse_perm _).flatMap_right _).length_eq
  rw [hlen] at hverified
  unfold unitNames at hdup hok hcount hexprs
  unfold unitFns at hir hverified ⊢
  simp only [checkUnit, hparse, hdup, hok, hcount, hexprs, hir, hverified, Bool.not_true, Bool.false_eq_true, if_false]

end Outcome

end MncsCompiler.Decl
