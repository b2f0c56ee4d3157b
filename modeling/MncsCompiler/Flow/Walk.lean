import MncsCompiler.Flow.Lower
import MncsCompiler.Lib.Halting

/-!
# `Flow.Walk` — what a step of the walk can do

A step that leaves the build in order is one of ten moves (`Moves`, `step_moves`): five statement forms, four ways to
end a statement list inside a frame, and the end of the body. An invariant of the moves holds of every walk that ends
in order (`steps_invariant`).
-/

namespace MncsCompiler.Flow

open BoundedLoop Decl

variable {α : Type}

@[simp] theorem emptyBlock_id (id : Nat) (live join : Bool) : (emptyBlock id live join : Block α).id = id := rfl

@[simp] theorem emptyBlock_kind (id : Nat) (live join : Bool) : (emptyBlock id live join : Block α).kind = 0 := rfl

@[simp] theorem emptyBlock_reachable (id : Nat) (live join : Bool) :
    (emptyBlock id live join : Block α).reachable = live := rfl

@[simp] theorem emptyBlock_expressions (id : Nat) (live join : Bool) :
    (emptyBlock id live join : Block α).expressions = [] := rfl

/-! ## Attaching -/

/-- The typed expression of an operation list. -/
def typedExpr (role start stop bindingStart bindingStop : Nat) (ops : List α) : TypedExpr α :=
  { role := role, start := start, stop := stop, bindingStart := bindingStart, bindingStop := bindingStop, ops := ops,
    opCount := countTops ops }

/-- The build with a typed expression attached to its current block. -/
def Build.attach (st : Build α) (typed : TypedExpr α) (rest : List (List α)) : Build α :=
  { st with
    typedRest := rest
    current :=
      { st.current with
        instructions := st.current.instructions + typed.opCount
        expressions := typed :: st.current.expressions } }

/-- The next operation list is not empty and becomes a typed expression. -/
def Takes (st : Build α) (role start stop bindingStart bindingStop : Nat) (typed : TypedExpr α)
    (rest : List (List α)) : Prop :=
  st.typedRest = typed.ops :: rest ∧ countTops typed.ops ≠ 0 ∧
    typed = typedExpr role start stop bindingStart bindingStop typed.ops

/-- Attaching succeeds in one way. -/
theorem attachExpressionAt_ok {st : Build α} {role start stop bindingStart bindingStop : Nat}
    (h : (attachExpressionAt st start stop role bindingStart bindingStop).ok = true) :
    ∃ typed rest, Takes st role start stop bindingStart bindingStop typed rest ∧
      attachExpressionAt st start stop role bindingStart bindingStop = st.attach typed rest := by
  unfold attachExpressionAt at h ⊢
  split at h
  · cases h
  · rename_i ops rest htyped
    unfold attachTypedOps at h ⊢
    dsimp only at h ⊢
    split at h
    · cases h
    · rename_i hn
      refine ⟨typedExpr role start stop bindingStart bindingStop ops, rest, ⟨htyped, hn, rfl⟩, ?_⟩
      rw [htyped, if_neg hn]
      simp only [Build.attach, typedExpr]

theorem elideIterateNext_ok {st : Build α} {f : FlowFrame} (h : (elideIterateNext st f).ok = true) :
    ∃ typed rest, Takes st 6 f.iterationNextStart f.iterationNextStop f.iterationStateStart f.iterationStateStop
        typed rest ∧
      elideIterateNext st f =
        { st with typedRest := rest, elidedExpressions := typed :: st.elidedExpressions } := by
  unfold elideIterateNext at h ⊢
  split at h
  · cases h
  · rename_i ops rest htyped
    unfold recordElidedIterateNext at h ⊢
    dsimp only at h ⊢
    split at h
    · cases h
    · rename_i hn
      refine ⟨typedExpr _ _ _ _ _ ops, rest, ⟨htyped, hn, rfl⟩, ?_⟩
      rw [htyped, if_neg hn]
      rfl

/-- The source expression of an `iterate`, when it has one. -/
def TakesSource (st : Build α) (hasOverSource : Bool) (overSource : Expr) (start stop : Nat)
    (source : Option (TypedExpr α)) (st' : Build α) : Prop :=
  match hasOverSource, source with
  | true, some typed =>
      ∃ rest, Takes st 4 (exprStart overSource) (exprEnd overSource) start stop typed rest ∧ st' = st.attach typed rest
  | false, none => st' = st
  | _, _ => False

/-- Taking the source changes the operations left and the expressions of the current block, and nothing else. -/
theorem TakesSource.eq {st mid : Build α} {ho : Bool} {iterated : Expr} {s e : Nat} {source : Option (TypedExpr α)}
    (h : TakesSource st ho iterated s e source mid) :
    ∃ rest instructions expressions, mid =
      { st with
        typedRest := rest
        current := { st.current with instructions := instructions, expressions := expressions } } := by
  cases ho with
  | false =>
      cases source with
      | none => exact ⟨st.typedRest, st.current.instructions, st.current.expressions, h⟩
      | some x => exact h.elim
  | true =>
      cases source with
      | none => exact h.elim
      | some x =>
          obtain ⟨rest, -, heq⟩ := h
          exact ⟨rest, _, _, heq⟩

theorem ok_of_attachExpressionAt_ok {st : Build α} {role start stop bindingStart bindingStop : Nat}
    (h : (attachExpressionAt st start stop role bindingStart bindingStop).ok = true) : st.ok = true := by
  obtain ⟨x, rest, -, hatt⟩ := attachExpressionAt_ok h
  rw [hatt] at h
  exact h

theorem attachIterateSource_ok {st : Build α} {iterated : Expr} {ho : Bool} {s e : Nat}
    (h : (attachIterateSource st iterated ho s e).ok = true) :
    ∃ source, TakesSource st ho iterated s e source (attachIterateSource st iterated ho s e) := by
  cases ho with
  | false => exact ⟨none, rfl⟩
  | true =>
      obtain ⟨x, rest, htakes, hatt⟩ := attachExpressionAt_ok h
      exact ⟨some x, rest, htakes, hatt⟩

theorem ok_of_closeUnreachableLoopJoin_ok {st : Build α} (h : (closeUnreachableLoopJoin st).ok = true) :
    st.ok = true := by
  unfold closeUnreachableLoopJoin at h
  split at h
  · exact h
  · split at h
    · cases h
    · exact h

/-! ## The ends of a loop body and of the body -/

theorem Build.open_of_falls {st : Build α} (h : st.falls = true) : st.current.kind = 0 := by
  simp [Build.falls] at h
  exact h.1

theorem unwindIterate_of_falls {st : Build α} {f : FlowFrame} {x : TypedExpr α} {rest : List (List α)}
    (hfalls : st.falls = true)
    (hatt : attachExpressionAt st f.iterationNextStart f.iterationNextStop 6 f.iterationStateStart
      f.iterationStateStop = st.attach x rest) (tail : List FlowFrame) :
    unwindIterate st f tail = finishIterate (closeToLoopBackedge (st.attach x rest) f.elseId f.iterationStart
      f.iterationStop { f.iteration with role := 4 }) f tail := by
  have hlive : st.current.kind = 0 ∧ st.current.reachable = true := by simpa [Build.falls] using hfalls
  rw [unwindIterate, if_neg (by simp [hlive]), hatt]

theorem unwindIterate_of_not_falls {st : Build α} (hfalls : st.falls = false) (f : FlowFrame)
    (tail : List FlowFrame) :
    unwindIterate st f tail = finishIterate (closeUnreachableLoopJoin (elideIterateNext st f)) f tail := by
  have hdead : (decide (st.current.kind ≠ 0) || !st.current.reachable) = true := by
    cases hr : st.current.reachable with
    | false => simp
    | true => simpa [Build.falls, hr] using hfalls
  rw [unwindIterate, if_pos hdead]

theorem finishTail_of_open {st : Build α} (htail : st.hasTail = true) (hopen : st.current.kind = 0)
    {x : TypedExpr α} {rest : List (List α)} (hatt : attachExpression st st.tail 3 0 0 = st.attach x rest) :
    finishTail st =
      { st.attach x rest with
        current :=
          { (st.attach x rest).current with
            kind := 3
            expressions := reverseTypedExpressions (x :: st.current.expressions)
            termStart := exprStart st.tail, termStop := exprEnd st.tail }
        blocks :=
          { (st.attach x rest).current with
            kind := 3
            expressions := reverseTypedExpressions (x :: st.current.expressions)
            termStart := exprStart st.tail, termStop := exprEnd st.tail } :: st.blocks
        done := true } := by
  rw [finishTail, if_neg (by simp [htail]), if_neg (by simp [hopen]), hatt]
  rfl

theorem finishTail_of_closed {st : Build α} (htail : st.hasTail = true) (hclosed : st.current.kind ≠ 0) :
    finishTail st = { st with done := true } := by
  rw [finishTail, if_neg (by simp [htail]), if_pos hclosed]

/-! ## The moves -/

variable (pages : List View) (stride total : Nat)

/-- The steps of a walk in order. -/
inductive Moves : Build α → Build α → Prop
  | letStmt {st : Build α} {nameStart nameStop a b c s e : Nat} {value : Expr} {t : List Stmt} {x : TypedExpr α}
      {rest : List (List α)} (hrest : st.rest = .letStmt nameStart nameStop a b c value s e :: t)
      (hopen : st.current.kind = 0)
      (htakes : Takes st 1 (exprStart value) (exprEnd value) nameStart nameStop x rest)
      (hatt : attachExpression st value 1 nameStart nameStop = st.attach x rest) :
      Moves st (addLet st t value nameStart nameStop)
  | ifStmt {st : Build α} {cond : Expr} {thenB elseB t : List Stmt} {s e : Nat} {x : TypedExpr α}
      {rest : List (List α)} (hrest : st.rest = .ifStmt cond thenB elseB s e :: t) (hopen : st.current.kind = 0)
      (htakes : Takes st 2 (exprStart cond) (exprEnd cond) 0 0 x rest)
      (hatt : attachExpression st cond 2 0 0 = st.attach x rest) :
      Moves st (addBranch st t cond thenB elseB)
  | failStmt {st : Build α} {a b s e : Nat} {t : List Stmt} (hrest : st.rest = .failStmt a b s e :: t)
      (hopen : st.current.kind = 0) : Moves st (addFail st t s e)
  | returnStmt {st : Build α} {value : Expr} {s e : Nat} {t : List Stmt} {x : TypedExpr α} {rest : List (List α)}
      (hrest : st.rest = .returnStmt value s e :: t) (hopen : st.current.kind = 0)
      (htakes : Takes st 3 (exprStart value) (exprEnd value) 0 0 x rest)
      (hatt : attachExpression st value 3 0 0 = st.attach x rest) :
      Moves st (addReturn st t value)
  | iterateStmt {st mid : Build α} {ns ne bs be ss se a b c xs xe s e : Nat} {iterated initial nv : Expr} {ho : Bool}
      {body t : List Stmt} {source : Option (TypedExpr α)} {x : TypedExpr α} {rest : List (List α)}
      (hrest : st.rest = .iterateStmt ns ne iterated ho bs be ss se a b c initial body xs xe nv s e :: t)
      (hopen : st.current.kind = 0) (hsource : TakesSource st ho iterated s e source mid)
      (hmid : attachIterateSource st iterated ho s e = mid)
      (htakes : Takes mid 5 (exprStart initial) (exprEnd initial) ss se x rest)
      (hatt : attachExpression mid initial 5 ss se = mid.attach x rest) :
      Moves st (addIterate pages stride total st t ns ne iterated ho bs be ss se initial body nv s e)
  | backedge {st : Build α} {f : FlowFrame} {tail : List FlowFrame} {x : TypedExpr α} {rest : List (List α)}
      (hrest : st.rest = []) (hframes : st.frames = f :: tail) (hkind : f.kind = 1) (hfalls : st.falls = true)
      (htakes : Takes st 6 f.iterationNextStart f.iterationNextStop f.iterationStateStart f.iterationStateStop x rest)
      (hatt : attachExpressionAt st f.iterationNextStart f.iterationNextStop 6 f.iterationStateStart
        f.iterationStateStop = st.attach x rest) :
      Moves st (unwindIterate st f tail)
  | sink {st : Build α} {f : FlowFrame} {tail : List FlowFrame} {x : TypedExpr α} {rest : List (List α)}
      (hrest : st.rest = []) (hframes : st.frames = f :: tail) (hkind : f.kind = 1) (hfalls : st.falls = false)
      (htakes : Takes st 6 f.iterationNextStart f.iterationNextStop f.iterationStateStart f.iterationStateStop x rest)
      (helide : elideIterateNext st f =
        { st with typedRest := rest, elidedExpressions := x :: st.elidedExpressions }) :
      Moves st (unwindIterate st f tail)
  | thenEnd {st : Build α} {f : FlowFrame} {tail : List FlowFrame} (hrest : st.rest = [])
      (hframes : st.frames = f :: tail) (hkind : f.kind ≠ 1) (hphase : f.phase = 0) : Moves st (unwindThen st f tail)
  | elseEnd {st : Build α} {f : FlowFrame} {tail : List FlowFrame} (hrest : st.rest = [])
      (hframes : st.frames = f :: tail) (hkind : f.kind ≠ 1) (hphase : f.phase ≠ 0) : Moves st (unwindElse st f tail)
  | tail {st : Build α} {x : TypedExpr α} {rest : List (List α)} (hrest : st.rest = []) (hframes : st.frames = [])
      (htail : st.hasTail = true) (hopen : st.current.kind = 0)
      (htakes : Takes st 3 (exprStart st.tail) (exprEnd st.tail) 0 0 x rest)
      (hatt : attachExpression st st.tail 3 0 0 = st.attach x rest) : Moves st (finishTail st)
  | closed {st : Build α} (hrest : st.rest = []) (hframes : st.frames = []) (htail : st.hasTail = true)
      (hclosed : st.current.kind ≠ 0) : Moves st (finishTail st)

variable {pages stride total}

theorem stepStmt_moves {st : Build α} {h : Stmt} {t : List Stmt} (hrest : st.rest = h :: t)
    (hok : (stepStmt pages stride total st h t).ok = true) :
    Moves pages stride total st (stepStmt pages stride total st h t) := by
  unfold stepStmt at hok ⊢
  split at hok
  · cases hok
  · rename_i hkind
    rw [if_neg hkind]
    have hopen : st.current.kind = 0 := by simpa using hkind
    cases h with
    | letStmt nameStart nameStop a b c value s e =>
        obtain ⟨x, rest, htakes, hatt⟩ := attachExpressionAt_ok hok
        exact .letStmt hrest hopen htakes hatt
    | ifStmt cond thenB elseB s e =>
        obtain ⟨x, rest, htakes, hatt⟩ := attachExpressionAt_ok hok
        exact .ifStmt hrest hopen htakes hatt
    | failStmt a b s e => exact .failStmt hrest hopen
    | returnStmt value s e =>
        obtain ⟨x, rest, htakes, hatt⟩ := attachExpressionAt_ok hok
        exact .returnStmt hrest hopen htakes hatt
    | iterateStmt ns ne iterated ho bs be ss se a b c initial body xs xe nv s e =>
        obtain ⟨x, rest, htakes, hatt⟩ := attachExpressionAt_ok hok
        obtain ⟨source, hsource⟩ := attachIterateSource_ok (ok_of_attachExpressionAt_ok hok)
        exact .iterateStmt hrest hopen hsource rfl htakes hatt

/-- The end of a loop body in order: with its next state attached if the end is reached, elided if not. -/
theorem unwindIterate_ok {st : Build α} {f : FlowFrame} {tail : List FlowFrame}
    (hok : (unwindIterate st f tail).ok = true) :
    ∃ x rest, Takes st 6 f.iterationNextStart f.iterationNextStop f.iterationStateStart f.iterationStateStop x rest ∧
      (st.falls = true → attachExpressionAt st f.iterationNextStart f.iterationNextStop 6 f.iterationStateStart
        f.iterationStateStop = st.attach x rest) ∧
      (st.falls = false → elideIterateNext st f =
        { st with typedRest := rest, elidedExpressions := x :: st.elidedExpressions }) := by
  have hfalls : st.falls = !(decide (st.current.kind ≠ 0) || !st.current.reachable) := by
    simp [Build.falls]
  unfold unwindIterate at hok
  split at hok
  · rename_i hdead
    rw [hdead] at hfalls
    obtain ⟨x, rest, htakes, helide⟩ := elideIterateNext_ok (ok_of_closeUnreachableLoopJoin_ok hok)
    exact ⟨x, rest, htakes, fun h => absurd (hfalls.symm.trans h) (by decide), fun _ => helide⟩
  · rename_i hlive
    rw [Bool.eq_false_iff.mpr hlive] at hfalls
    obtain ⟨x, rest, htakes, hatt⟩ := attachExpressionAt_ok hok
    exact ⟨x, rest, htakes, fun _ => hatt, fun h => absurd (hfalls.symm.trans h) (by decide)⟩

theorem stepEmpty_moves {st : Build α} (hrest : st.rest = []) (hok : (stepEmpty st).ok = true) :
    Moves pages stride total st (stepEmpty st) := by
  unfold stepEmpty at hok ⊢
  cases hframes : st.frames with
  | nil =>
      rw [hframes] at hok
      have hcopy : (finishTail st).ok = true := hok
      unfold finishTail at hcopy
      split at hcopy
      · cases hcopy
      · rename_i htail
        have htail : st.hasTail = true := by simpa using htail
        split at hcopy
        · rename_i hclosed
          exact .closed hrest hframes htail hclosed
        · rename_i hopen
          obtain ⟨x, rest, htakes, hatt⟩ := attachExpressionAt_ok hcopy
          exact .tail hrest hframes htail (not_not.mp hopen) htakes hatt
  | cons f tail =>
      rw [hframes] at hok
      dsimp only at hok ⊢
      unfold unwind at hok ⊢
      split
      · rename_i hkind
        rw [if_pos hkind] at hok
        obtain ⟨x, rest, htakes, hatt, helide⟩ := unwindIterate_ok hok
        cases hfalls : st.falls with
        | true => exact .backedge hrest hframes hkind hfalls htakes (hatt hfalls)
        | false => exact .sink hrest hframes hkind hfalls htakes (helide hfalls)
      · rename_i hkind
        split
        · rename_i hphase
          exact .thenEnd hrest hframes hkind hphase
        · rename_i hphase
          exact .elseEnd hrest hframes hkind hphase

/-- **A step in order is a move.** -/
theorem step_moves {st : Build α} (hdone : st.done = false) (hok : (step pages stride total st).ok = true) :
    st.ok = true ∧ Moves pages stride total st (step pages stride total st) := by
  have hst : st.ok = true := by
    cases h : st.ok with
    | true => rfl
    | false => simp [step, h] at hok
  refine ⟨hst, ?_⟩
  have hgo : ¬ (st.done || !st.ok) = true := by simp [hdone, hst]
  unfold step at hok ⊢
  rw [if_neg hgo] at hok ⊢
  cases hrest : st.rest with
  | nil =>
      rw [hrest] at hok
      exact stepEmpty_moves hrest hok
  | cons h t =>
      rw [hrest] at hok
      exact stepStmt_moves hrest hok

/-! ## Walks -/

/-- A step out of order stays out of order, and a finished build stays put. -/
theorem step_of_done {st : Build α} (h : st.done = true) : step pages stride total st = st := by
  simp [step, h]

theorem step_of_not_ok {st : Build α} (h : st.ok = false) : step pages stride total st = st := by
  simp [step, h]

theorem ok_of_steps_ok {st : Build α} {n : Nat} (h : ((step pages stride total)^[n] st).ok = true) : st.ok = true := by
  cases hst : st.ok with
  | true => rfl
  | false =>
      rw [Function.iterate_fixed (step_of_not_ok hst), hst] at h
      cases h

/-- The passes after the end of the walk change nothing. -/
instance step_halts : Halting.Halts (step pages stride total : Build α → Build α) fun st => st.done || !st.ok := by
  constructor
  intro st hst
  rw [step, if_pos hst]

/-- **Invariants of the moves hold of walks in order.** -/
theorem steps_invariant {P : Build α → Prop}
    (hmoves : ∀ st st', st.done = false → Moves pages stride total st st' → P st → P st')
    {st : Build α} (hst : P st) (n : Nat) (hok : ((step pages stride total)^[n] st).ok = true) :
    P ((step pages stride total)^[n] st) := by
  induction n with
  | zero => exact hst
  | succ n ih =>
      rw [Function.iterate_succ_apply'] at hok ⊢
      generalize (step pages stride total)^[n] st = mid at hok ih ⊢
      cases hdone : mid.done with
      | true =>
          rw [step_of_done hdone] at hok ⊢
          exact ih hok
      | false =>
          obtain ⟨hmid, hmove⟩ := step_moves hdone hok
          exact hmoves _ _ hdone hmove (ih hmid)

end MncsCompiler.Flow
