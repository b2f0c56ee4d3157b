import MncsCompiler.Flow.Walk
import MncsCompiler.Lib.Simulation

/-!
# `Flow.Exec` — what a body means and what a graph means

The structured side: statements with their typed expressions (`TStmt`), run with a stack of what is left to do. The
graph side: a block at a time, from the entry. Both ask the same oracle for every choice, and both keep the events so
far: the expressions evaluated and the choices made. The oracle sees the events and the span it decides at.
-/

namespace MncsCompiler.Flow

open BoundedLoop Decl Simulation

variable {α : Type}

/-! ## Typed statements -/

inductive TStmt (α : Type) where
  | bind (value : TypedExpr α)
  | branch (cond : TypedExpr α) (yes no : List (TStmt α))
  | fail (start stop : Nat)
  | ret (value : TypedExpr α)
  | loop (source : Option (TypedExpr α)) (initial : TypedExpr α) (body : List (TStmt α)) (next : TypedExpr α)
      (start stop : Nat)

/-- The next operation list, as a typed expression. -/
def takeTyped (role start stop bindingStart bindingStop : Nat) :
    List (List α) → Option (TypedExpr α × List (List α))
  | [] => none
  | ops :: rest =>
      if countTops ops = 0 then none else some (typedExpr role start stop bindingStart bindingStop ops, rest)

/-- The source of an `iterate`, when it has one. -/
def takeSource (hasOverSource : Bool) (overSource : Expr) (start stop : Nat) (tops : List (List α)) :
    Option (Option (TypedExpr α) × List (List α)) :=
  if hasOverSource then
    (takeTyped 4 (exprStart overSource) (exprEnd overSource) start stop tops).map (fun p => (some p.1, p.2))
  else some (none, tops)

mutual

/-- The operation lists in source order: let value; condition, then part, else part; returned value; source, initial
    state, body, next state. -/
def typeStmt : Stmt → List (List α) → Option (TStmt α × List (List α))
  | .letStmt nameStart nameStop _ _ _ value _ _, tops => do
      let (x, tops) ← takeTyped 1 (exprStart value) (exprEnd value) nameStart nameStop tops
      return (.bind x, tops)
  | .ifStmt cond thenB elseB _ _, tops => do
      let (x, tops) ← takeTyped 2 (exprStart cond) (exprEnd cond) 0 0 tops
      let (yes, tops) ← typeStmts thenB tops
      let (no, tops) ← typeStmts elseB tops
      return (.branch x yes no, tops)
  | .failStmt _ _ s e, tops => some (.fail s e, tops)
  | .returnStmt value _ _, tops => do
      let (x, tops) ← takeTyped 3 (exprStart value) (exprEnd value) 0 0 tops
      return (.ret x, tops)
  | .iterateStmt _ _ iterated ho _ _ ss se _ _ _ initial body _ _ nextValue s e, tops => do
      let (source, tops) ← takeSource ho iterated s e tops
      let (x, tops) ← takeTyped 5 (exprStart initial) (exprEnd initial) ss se tops
      let (stmts, tops) ← typeStmts body tops
      let (next, tops) ← takeTyped 6 (exprStart nextValue) (exprEnd nextValue) ss se tops
      return (.loop source x stmts next s e, tops)

def typeStmts : List Stmt → List (List α) → Option (List (TStmt α) × List (List α))
  | [], tops => some ([], tops)
  | h :: t, tops => do
      let (x, tops) ← typeStmt h tops
      let (xs, tops) ← typeStmts t tops
      return (x :: xs, tops)

end

/-- The last statement returns or fails. -/
def endsClosed : List (TStmt α) → Bool
  | [] => false
  | [.ret _] => true
  | [.fail _ _] => true
  | _ :: rest => endsClosed rest

/-- The typed statements of a body and its tail expression; a body whose last statement returns or fails evaluates
    no tail. -/
structure TypedBody (α : Type) where
  stmts : List (TStmt α)
  tail : Option (TypedExpr α)

def typeBody (body : FnBody) (tops : List (List α)) : Option (TypedBody α) := do
  let (stmts, tops) ← typeStmts body.body tops
  if endsClosed stmts then return { stmts := stmts, tail := none }
  else
    let (x, _) ← takeTyped 3 (exprStart body.ret) (exprEnd body.ret) 0 0 tops
    return { stmts := stmts, tail := some x }

/-! ## Events -/

/-- An expression evaluated, or a choice made at a span. -/
inductive Event (α : Type) where
  | eval (value : TypedExpr α)
  | choose (start stop : Nat) (taken : Bool)

/-- How a run ends. -/
inductive Ending where
  | ret (start stop : Nat)
  | fail (start stop : Nat)

/-- Decides the choice at a span after the events so far: the condition of an `if`, or whether a loop goes on. -/
def Oracle (α : Type) : Type := List (Event α) → Nat → Nat → Bool

/-! ## The structured machine -/

/-- What is left to do after a statement list: the rest of the enclosing one, or the next round of a loop. -/
inductive Cont (α : Type) where
  | seq (rest : List (TStmt α))
  | loop (body : List (TStmt α)) (next : TypedExpr α) (start stop : Nat) (rest : List (TStmt α))

inductive Config (α : Type) where
  | run (stmts : List (TStmt α)) (conts : List (Cont α)) (events : List (Event α))
  | header (body : List (TStmt α)) (next : TypedExpr α) (start stop : Nat) (rest : List (TStmt α))
      (conts : List (Cont α)) (events : List (Event α))
  | ended (ending : Ending) (events : List (Event α))
  | stuck (events : List (Event α))

def exec (oracle : Oracle α) (tail : Option (TypedExpr α)) : Config α → Config α
  | .run (.bind x :: rest) conts events => .run rest conts (events ++ [.eval x])
  | .run (.branch cond yes no :: rest) conts events =>
      let taken := oracle (events ++ [.eval cond]) cond.start cond.stop
      .run (if taken then yes else no) (.seq rest :: conts)
        (events ++ [.eval cond] ++ [.choose cond.start cond.stop taken])
  | .run (.fail s e :: _) _ events => .ended (.fail s e) events
  | .run (.ret x :: _) _ events => .ended (.ret x.start x.stop) (events ++ [.eval x])
  | .run (.loop source initial body next s e :: rest) conts events =>
      .header body next s e rest conts (events ++ (source.toList ++ [initial]).map .eval)
  | .run [] (.seq rest :: conts) events => .run rest conts events
  | .run [] (.loop body next s e rest :: conts) events => .header body next s e rest conts (events ++ [.eval next])
  | .run [] [] events =>
      match tail with
      | some x => .ended (.ret x.start x.stop) (events ++ [.eval x])
      | none => .stuck events
  | .header body next s e rest conts events =>
      let taken := oracle events s e
      if taken then .run body (.loop body next s e rest :: conts) (events ++ [.choose s e taken])
      else .run rest conts (events ++ [.choose s e taken])
  | .ended ending events => .ended ending events
  | .stuck events => .stuck events

/-! ## The graph machine -/

inductive GConfig (α : Type) where
  | block (id : Nat) (events : List (Event α))
  | ended (ending : Ending) (events : List (Event α))
  | stuck (events : List (Event α))

/-- The choice and the successor of a closed block, after its expressions. -/
def leave (oracle : Oracle α) (b : Block α) (events : List (Event α)) : GConfig α :=
  if b.kind = 1 then
    let taken := oracle events b.termStart b.termStop
    .block (if taken then b.succ0 else b.succ1) (events ++ [.choose b.termStart b.termStop taken])
  else if b.kind = 2 then .block b.succ0 events
  else if b.kind = 3 then .ended (.ret b.termStart b.termStop) events
  else if b.kind = 4 then .ended (.fail b.termStart b.termStop) events
  else .stuck events

def execGraph (oracle : Oracle α) (blocks : List (Block α)) : GConfig α → GConfig α
  | .block id events =>
      match blocks.find? (fun b => b.id == id) with
      | some b => leave oracle b (events ++ b.expressions.map .eval)
      | none => .stuck events
  | .ended ending events => .ended ending events
  | .stuck events => .stuck events

/-! ## What the machines show -/

def Config.ending : Config α → Option (Option Ending)
  | .ended ending _ => some (some ending)
  | .stuck _ => some none
  | _ => none

def Config.events : Config α → List (Event α)
  | .run _ _ events => events
  | .header _ _ _ _ _ _ events => events
  | .ended _ events => events
  | .stuck events => events

def GConfig.ending : GConfig α → Option (Option Ending)
  | .ended ending _ => some (some ending)
  | .stuck _ => some none
  | .block _ _ => none

def GConfig.events : GConfig α → List (Event α)
  | .block _ events => events
  | .ended _ events => events
  | .stuck events => events

/-- An ended run stays, and events are only added. -/
theorem exec_observes (oracle : Oracle α) (tail : Option (TypedExpr α)) :
    Observes (exec oracle tail) Config.ending Config.events := by
  constructor
  · intro c hc
    cases c with
    | ended ending events => rfl
    | stuck events => rfl
    | run stmts conts events => cases hc
    | header body next s e rest conts events => cases hc
  · intro c
    fun_cases exec oracle tail c
    all_goals simp [Config.events]

end MncsCompiler.Flow
