import MncsCompiler.Source.Pages

/-!
# `Decl.Syntax` — expressions, statements and declarations

The syntax trees of `decl.mncs`. Every node keeps its source span; `expr_start` and `expr_end` read it back. The
linked lists of the source are lists here.
-/

namespace MncsCompiler.Decl

open BoundedLoop

/-! ## Expressions -/

/-- A type argument of a call: kinds 1 to 9 are type spellings, kind 10 is an integer literal. -/
structure TypeArg where
  start : Nat
  stop : Nat
  kind : Nat
  deriving DecidableEq, Repr

structure PayloadBinding where
  fieldStart : Nat
  fieldStop : Nat
  nameStart : Nat
  nameStop : Nat
  deriving DecidableEq, Repr

structure FinitePattern where
  hasQualifier : Bool
  qualifierStart : Nat
  qualifierStop : Nat
  variantStart : Nat
  variantStop : Nat
  hasPayload : Bool
  ignorePayload : Bool
  bindings : List PayloadBinding
  start : Nat
  stop : Nat
  deriving DecidableEq, Repr

mutual

inductive Expr where
  | name (start stop : Nat)
  | integer (start stop value : Nat) (overflow : Bool)
  | boolean (start stop : Nat) (value : Bool)
  | unaryNot (value : Expr) (start stop : Nat)
  | repeated (value : Expr) (countStart countStop countKind start stop : Nat)
  | scalarMatch (subject : Expr) (arms : List ScalarMatchArm) (start stop : Nat)
  | binary (op : Nat) (left right : Expr) (start stop : Nat)
  | call (nameStart nameStop : Nat) (args : List Expr) (targs : List TypeArg) (start stop : Nat)
  | project (base : Expr) (fieldStart fieldStop start stop : Nat) (path : Bool)
  | finiteMatch (subject : Expr) (arms : List FiniteMatchArm) (start stop : Nat)
  | enumConstruct (typeStart typeStop variantStart variantStop : Nat) (fields : List ConstructField)
      (start stop : Nat)
  | opCall (slot nameStart nameStop : Nat) (args : List Expr) (start stop : Nat)
  | recordConstruct (typeStart typeStop : Nat) (base : Expr) (hasBase : Bool) (fields : List ConstructField)
      (start stop : Nat)
  | index (base index : Expr) (start stop : Nat)
  | cast (value : Expr) (typeStart typeStop typeKind start stop : Nat)
  | slice (base startIndex stopIndex : Expr) (start stop : Nat)
  | sequenceLiteral (elements : List Expr) (start stop : Nat)

inductive ScalarMatchArm where
  | mk (isDefault negative : Bool) (value : Nat) (overflow : Bool) (patternStart patternStop : Nat) (result : Expr)

inductive FiniteMatchArm where
  | mk (pattern : FinitePattern) (result : Expr)

inductive ConstructField where
  | mk (fieldStart fieldStop : Nat) (value : Expr)

end

def FiniteMatchArm.pattern : FiniteMatchArm → FinitePattern
  | .mk p _ => p

def FiniteMatchArm.result : FiniteMatchArm → Expr
  | .mk _ r => r

def ScalarMatchArm.isDefault : ScalarMatchArm → Bool
  | .mk d _ _ _ _ _ _ => d

def ScalarMatchArm.negative : ScalarMatchArm → Bool
  | .mk _ n _ _ _ _ _ => n

def ScalarMatchArm.value : ScalarMatchArm → Nat
  | .mk _ _ v _ _ _ _ => v

def ScalarMatchArm.overflow : ScalarMatchArm → Bool
  | .mk _ _ _ o _ _ _ => o

def ScalarMatchArm.patternStart : ScalarMatchArm → Nat
  | .mk _ _ _ _ s _ _ => s

def ScalarMatchArm.patternStop : ScalarMatchArm → Nat
  | .mk _ _ _ _ _ e _ => e

def ScalarMatchArm.result : ScalarMatchArm → Expr
  | .mk _ _ _ _ _ _ r => r

def ConstructField.fieldStart : ConstructField → Nat
  | .mk s _ _ => s

def ConstructField.fieldStop : ConstructField → Nat
  | .mk _ e _ => e

def ConstructField.value : ConstructField → Expr
  | .mk _ _ v => v

def exprStart : Expr → Nat
  | .name s _ => s
  | .integer s _ _ _ => s
  | .boolean s _ _ => s
  | .unaryNot _ s _ => s
  | .repeated _ _ _ _ s _ => s
  | .scalarMatch _ _ s _ => s
  | .binary _ _ _ s _ => s
  | .call _ _ _ _ s _ => s
  | .project _ _ _ s _ _ => s
  | .finiteMatch _ _ s _ => s
  | .enumConstruct _ _ _ _ _ s _ => s
  | .opCall _ _ _ _ s _ => s
  | .recordConstruct _ _ _ _ _ s _ => s
  | .index _ _ s _ => s
  | .cast _ _ _ _ s _ => s
  | .slice _ _ _ s _ => s
  | .sequenceLiteral _ s _ => s

def exprEnd : Expr → Nat
  | .name _ e => e
  | .integer _ e _ _ => e
  | .boolean _ e _ => e
  | .unaryNot _ _ e => e
  | .repeated _ _ _ _ _ e => e
  | .scalarMatch _ _ _ e => e
  | .binary _ _ _ _ e => e
  | .call _ _ _ _ _ e => e
  | .project _ _ _ _ e _ => e
  | .finiteMatch _ _ _ e => e
  | .enumConstruct _ _ _ _ _ _ e => e
  | .opCall _ _ _ _ _ e => e
  | .recordConstruct _ _ _ _ _ _ e => e
  | .index _ _ _ e => e
  | .cast _ _ _ _ _ e => e
  | .slice _ _ _ _ e => e
  | .sequenceLiteral _ _ e => e

/-! ## Statements and functions -/

inductive Stmt where
  | letStmt (nameStart nameStop typeStart typeStop typeKind : Nat) (value : Expr) (start stop : Nat)
  | ifStmt (cond : Expr) (thenB elseB : List Stmt) (start stop : Nat)
  | failStmt (modeStart modeStop start stop : Nat)
  | returnStmt (value : Expr) (start stop : Nat)
  | iterateStmt (nameStart nameStop : Nat) (overSource : Expr) (hasOverSource : Bool)
      (boundStart boundStop stateStart stateStop typeStart typeStop typeKind : Nat) (initial : Expr)
      (body : List Stmt) (nextStart nextStop : Nat) (nextValue : Expr) (start stop : Nat)

structure FnBody where
  body : List Stmt
  ret : Expr
  hasRet : Bool

/-! ## Declarations -/

/-- A named and typed position: a field of a record or variant, a parameter or a result. -/
structure Field where
  nameStart : Nat
  nameStop : Nat
  typeStart : Nat
  typeStop : Nat
  typeKind : Nat
  deriving DecidableEq, Repr

structure GenericParam where
  nameStart : Nat
  nameStop : Nat
  boundStart : Nat
  boundStop : Nat
  hasBound : Bool
  deriving DecidableEq, Repr

structure Clause where
  kindStart : Nat
  kindStop : Nat
  nameStart : Nat
  nameStop : Nat
  deriving DecidableEq, Repr

structure Effect where
  kindStart : Nat
  kindStop : Nat
  capStart : Nat
  capStop : Nat
  deriving DecidableEq, Repr

structure Cap where
  start : Nat
  stop : Nat
  deriving DecidableEq, Repr

structure FnSig where
  nameStart : Nat
  nameStop : Nat
  generics : List GenericParam
  params : List Field
  results : List Field
  contracts : List Clause
  effects : List Effect
  capabilities : List Cap
  deriving DecidableEq, Repr

structure FnDecl where
  ok : Bool
  errStart : Nat
  errStop : Nat
  sig : FnSig
  body : FnBody
  fnStart : Nat
  fnStop : Nat
  cursor : Nat

structure RecordDecl where
  ok : Bool
  errStart : Nat
  errStop : Nat
  nameStart : Nat
  nameStop : Nat
  fields : List Field
  declStart : Nat
  declStop : Nat
  cursor : Nat
  deriving DecidableEq, Repr

structure Variant where
  nameStart : Nat
  nameStop : Nat
  fields : List Field
  deriving DecidableEq, Repr

structure EnumDecl where
  ok : Bool
  errStart : Nat
  errStop : Nat
  nameStart : Nat
  nameStop : Nat
  variants : List Variant
  declStart : Nat
  declStop : Nat
  cursor : Nat
  deriving DecidableEq, Repr

/-! ## Integer literals -/

structure IntVal where
  value : Nat
  overflow : Bool
  deriving DecidableEq, Repr

/-- One digit. The subtraction is checked in the source and stands on the digits of a number token; elsewhere the
    truncated difference takes its place. -/
def intStep (start stop : Nat) (st : IntVal) (pos byte : Nat) : IntVal :=
  if pos < start || pos ≥ stop then st
  else
    let digit := byte - 48
    if st.value > 1844674407370955161 then { value := st.value, overflow := true }
    else if st.value = 1844674407370955161 && digit > 5 then { value := st.value, overflow := true }
    else { value := st.value * 10 + digit, overflow := st.overflow }

def intValue (pages : List View) (stride total start stop : Nat) : IntVal :=
  (iterate (fun i d =>
      let pos := start + i
      if pos < start || pos ≥ stop then .ret d
      else .next (intStep start stop d pos (byteAtGlobal pages stride total pos)))
    0 1024 { value := 0, overflow := false }).after id

end MncsCompiler.Decl
