import MncsCompiler.Lib.Traversal
import MncsCompiler.Decl.Unit

/-!
# `Decl.CallSites` — the walk that collects call sites

`collect_call_sites` walks the bodies of a list of functions with three stacks, of functions, statements and
expressions, which together are one stack of nodes. It notes the callee of every call it passes, and beside it the
qualifiers of patterns and the types that constructions name.

The walk has 65536 steps, one a node, and follows the first 1024 items of a list. What it returns is what it reaches:
in a unit of more nodes the calls behind them are missing, and nothing says so.
-/

namespace MncsCompiler.Decl

open BoundedLoop Traversal

structure CallSite where
  start : Nat
  stop : Nat
  deriving DecidableEq, Repr

structure CallSiteRev where
  rest : List CallSite
  acc : List CallSite

structure CallWalk where
  fns : List FnDecl
  stmts : List Stmt
  exprs : List Expr
  calls : List CallSite
  patternQualifiers : List CallSite
  nominalReferences : List CallSite

/-! ## Children -/

def appendStmts (first second : List Stmt) : List Stmt := prependWithin 1024 (reverseStmts first) second

def appendExprs (first second : List Expr) : List Expr := prependWithin 1024 (reverseExprs first) second

def scalarMatchResults (arms : List ScalarMatchArm) : List Expr :=
  reverseExprs (collectWithin 1024 ScalarMatchArm.result arms)

def scalarMatchChildren (subject : Expr) (arms : List ScalarMatchArm) (rest : List Expr) : List Expr :=
  subject :: appendExprs (scalarMatchResults arms) rest

def finiteMatchResults (arms : List FiniteMatchArm) : List Expr := collectWithin 1024 FiniteMatchArm.result arms

def finiteMatchChildren (subject : Expr) (arms : List FiniteMatchArm) (rest : List Expr) : List Expr :=
  subject :: appendExprs (finiteMatchResults arms) rest

def constructValues (fields : List ConstructField) : List Expr := collectWithin 1024 ConstructField.value fields

def constructChildren (fields : List ConstructField) (rest : List Expr) : List Expr :=
  appendExprs (constructValues fields) rest

def recordChildren (base : Expr) (hasBase : Bool) (fields : List ConstructField) (rest : List Expr) : List Expr :=
  if hasBase then base :: constructChildren fields rest else constructChildren fields rest

def iterateCallExprs (overSource : Expr) (hasOverSource : Bool) (initial nextValue : Expr) (tail : List Expr)
    : List Expr :=
  let withInit : List Expr := initial :: nextValue :: tail
  if hasOverSource then overSource :: withInit else withInit

/-! ## The walk -/

def projectBaseNominalReference (base : Expr) (path : Bool) (references : List CallSite) : List CallSite :=
  if !path then references
  else
    match base with
    | .project _ _ _ s e _ => { start := s, stop := e } :: references
    | _ => references

structure PatternQualifierWalk where
  rest : List FiniteMatchArm
  acc : List CallSite

def collectOneFinitePatternQualifier (st : PatternQualifierWalk) (arm : FiniteMatchArm) (rest : List FiniteMatchArm)
    : PatternQualifierWalk :=
  if arm.pattern.hasQualifier then
    { rest := rest
      acc := { start := arm.pattern.qualifierStart, stop := arm.pattern.qualifierStop } :: st.acc }
  else { rest := rest, acc := st.acc }

def collectFinitePatternQualifierStep (st : PatternQualifierWalk) : PatternQualifierWalk :=
  match st.rest with
  | [] => st
  | arm :: rest => collectOneFinitePatternQualifier st arm rest

def collectFinitePatternQualifiers (arms : List FiniteMatchArm) (acc : List CallSite) : List CallSite :=
  let st := collectFinitePatternQualifierStep^[1024] { rest := arms, acc := acc }
  st.acc

def collectCallExpr (st : CallWalk) (expr : Expr) (rest : List Expr) : CallWalk :=
  match expr with
  | .name _ _ => { st with exprs := rest }
  | .integer _ _ _ _ => { st with exprs := rest }
  | .boolean _ _ _ => { st with exprs := rest }
  | .unaryNot value _ _ => { st with exprs := value :: rest }
  | .repeated value _ _ _ _ _ => { st with exprs := value :: rest }
  | .sequenceLiteral xs _ _ => { st with exprs := appendExprs xs rest }
  | .scalarMatch subject arms _ _ => { st with exprs := scalarMatchChildren subject arms rest }
  | .binary _ left right _ _ => { st with exprs := left :: right :: rest }
  | .call s e args _ _ _ =>
    { st with exprs := appendExprs args rest, calls := { start := s, stop := e } :: st.calls }
  | .project base _ _ _ _ p =>
    { st with
      exprs := base :: rest, nominalReferences := projectBaseNominalReference base p st.nominalReferences }
  | .finiteMatch subject arms _ _ =>
    { st with
      exprs := finiteMatchChildren subject arms rest
      patternQualifiers := collectFinitePatternQualifiers arms st.patternQualifiers }
  | .enumConstruct ts te _ _ f _ _ =>
    { st with
      exprs := constructChildren f rest
      nominalReferences := { start := ts, stop := te } :: st.nominalReferences }
  | .index ib ii _ _ => { st with exprs := ib :: ii :: rest }
  | .slice sb si ei _ _ => { st with exprs := sb :: si :: ei :: rest }
  | .cast cv _ _ _ _ _ => { st with exprs := cv :: rest }
  | .recordConstruct ts te b hb f _ _ =>
    { st with
      exprs := recordChildren b hb f rest
      nominalReferences := { start := ts, stop := te } :: st.nominalReferences }
  | .opCall _ _ _ a _ _ => { st with exprs := appendExprs a rest }

def collectCallStmt (st : CallWalk) (stmt : Stmt) (rest : List Stmt) : CallWalk :=
  match stmt with
  | .letStmt _ _ _ _ _ value _ _ => { st with stmts := rest, exprs := value :: st.exprs }
  | .ifStmt cond thenBody elseBody _ _ =>
    { st with stmts := appendStmts thenBody (appendStmts elseBody rest), exprs := cond :: st.exprs }
  | .failStmt _ _ _ _ => { st with stmts := rest }
  | .returnStmt value _ _ => { st with stmts := rest, exprs := value :: st.exprs }
  | .iterateStmt _ _ o ho _ _ _ _ _ _ _ init b _ _ nv _ _ =>
    { st with stmts := appendStmts b rest, exprs := iterateCallExprs o ho init nv st.exprs }

def collectCallNextFn (st : CallWalk) : CallWalk :=
  match st.fns with
  | [] => st
  | fnDecl :: rest => { st with fns := rest, stmts := fnDecl.body.body, exprs := [fnDecl.body.ret] }

def collectCallWithoutExpr (st : CallWalk) : CallWalk :=
  match st.stmts with
  | stmt :: rest => collectCallStmt st stmt rest
  | [] => collectCallNextFn st

def collectCallStep (st : CallWalk) : CallWalk :=
  match st.exprs with
  | e :: rest => collectCallExpr st e rest
  | [] => collectCallWithoutExpr st

def callWalkDone (st : CallWalk) : Bool := st.fns.isEmpty && st.stmts.isEmpty && st.exprs.isEmpty

def collectCallWalkChunk (initial : CallWalk) : CallWalk :=
  (iterate (fun _ st => if callWalkDone st then .ret st else .next (collectCallStep st)) 0 1024 initial).after id

def collectCallWalk (fns : List FnDecl) : CallWalk :=
  (iterate (fun _ st => if callWalkDone st then .ret st else .next (collectCallWalkChunk st)) 0 64
    { fns := fns, stmts := [], exprs := [], calls := [], patternQualifiers := [], nominalReferences := [] }).after id

def collectCallReverse (st : CallSiteRev) : CallSiteRev :=
  match st.rest with
  | [] => st
  | call :: rest => { rest := rest, acc := call :: st.acc }

def reverseCallSiteChunk (initial : CallSiteRev) : CallSiteRev :=
  (iterate (fun _ rev => if rev.rest.isEmpty then .ret rev else .next (collectCallReverse rev)) 0 1024 initial).after id

def reverseCallSites (calls : List CallSite) : List CallSite :=
  (iterate (fun _ rev => if rev.rest.isEmpty then .ret rev.acc else .next (reverseCallSiteChunk rev)) 0 64
    { rest := calls, acc := [] }).after CallSiteRev.acc

def collectCallSites (fns : List FnDecl) : List CallSite :=
  let st := collectCallWalk fns
  reverseCallSites st.calls

/-! ## Nodes -/

/-- What the walk passes. -/
inductive Node where
  | fn (decl : FnDecl)
  | stmt (stmt : Stmt)
  | expr (expr : Expr)

/-- The children of an expression that have a place of their own. -/
def Expr.heads : Expr → List Expr
  | .name _ _ | .integer _ _ _ _ | .boolean _ _ _ | .call _ _ _ _ _ _ | .enumConstruct _ _ _ _ _ _ _ => []
  | .opCall _ _ _ _ _ _ | .sequenceLiteral _ _ _ => []
  | .unaryNot value _ _ => [value]
  | .repeated value _ _ _ _ _ => [value]
  | .scalarMatch subject _ _ _ => [subject]
  | .binary _ left right _ _ => [left, right]
  | .project base _ _ _ _ _ => [base]
  | .finiteMatch subject _ _ _ => [subject]
  | .recordConstruct _ _ base hasBase _ _ _ => if hasBase then [base] else []
  | .index ib ii _ _ => [ib, ii]
  | .cast value _ _ _ _ _ => [value]
  | .slice base startIndex stopIndex _ _ => [base, startIndex, stopIndex]

/-- The children of an expression that stand in a list: arguments, elements, arms and fields. -/
def Expr.items : Expr → List Expr
  | .call _ _ args _ _ _ => args
  | .opCall _ _ _ args _ _ => args
  | .sequenceLiteral elements _ _ => elements
  | .scalarMatch _ arms _ _ => arms.map ScalarMatchArm.result
  | .finiteMatch _ arms _ _ => arms.map FiniteMatchArm.result
  | .enumConstruct _ _ _ _ fields _ _ => fields.map ConstructField.value
  | .recordConstruct _ _ _ _ fields _ _ => fields.map ConstructField.value
  | _ => []

/-- The items in the order in which the walk meets them. -/
def Expr.queue : Expr → List Expr
  | .finiteMatch _ arms _ _ => ((arms.map FiniteMatchArm.result).take 1024).reverse
  | .enumConstruct _ _ _ _ fields _ _ => ((fields.map ConstructField.value).take 1024).reverse
  | .recordConstruct _ _ _ _ fields _ _ => ((fields.map ConstructField.value).take 1024).reverse
  | e => e.items.take 1024

def Stmt.exprs : Stmt → List Expr
  | .letStmt _ _ _ _ _ value _ _ => [value]
  | .ifStmt cond _ _ _ _ => [cond]
  | .failStmt _ _ _ _ => []
  | .returnStmt value _ _ => [value]
  | .iterateStmt _ _ o ho _ _ _ _ _ _ _ init _ _ _ nv _ _ => if ho then [o, init, nv] else [init, nv]

def Stmt.blocks : Stmt → List (List Stmt)
  | .ifStmt _ thenB elseB _ _ => [thenB, elseB]
  | .iterateStmt _ _ _ _ _ _ _ _ _ _ _ _ body _ _ _ _ _ => [body]
  | _ => []

namespace Node

/-- The call site of a node that is a call. -/
def call : Node → Option CallSite
  | .expr (.call s e _ _ _ _) => some { start := s, stop := e }
  | _ => none

/-- Everything directly inside a node. A body without a tail expression has a name without a call in its place. -/
def parts : Node → List Node
  | .fn decl => .expr decl.body.ret :: decl.body.body.map .stmt
  | .stmt s => s.exprs.map .expr ++ s.blocks.flatten.map .stmt
  | .expr e => (e.heads ++ e.items).map .expr

/-- What the walk puts on its stack in place of a node. -/
def followed : Node → List Node
  | .fn decl => .expr decl.body.ret :: decl.body.body.map .stmt
  | .stmt s => s.exprs.map .expr ++ (s.blocks.flatMap (List.take 1024)).map .stmt
  | .expr e => (e.heads ++ e.queue).map .expr

/-- What the walk leaves out. -/
def dropped : Node → List Node
  | .fn _ => []
  | .stmt s => (s.blocks.flatMap (List.drop 1024)).map .stmt
  | .expr e => (e.items.drop 1024).map .expr

end Node

theorem Expr.queue_perm (e : Expr) : e.queue.Perm (e.items.take 1024) := by
  cases e with
  | finiteMatch subject arms start stop => exact List.reverse_perm _
  | enumConstruct typeStart typeStop variantStart variantStop fields start stop => exact List.reverse_perm _
  | recordConstruct typeStart typeStop base hasBase fields start stop => exact List.reverse_perm _
  | _ => exact List.Perm.refl _

theorem flatten_perm_split (blocks : List (List Stmt)) :
    blocks.flatten.Perm (blocks.flatMap (List.take 1024) ++ blocks.flatMap (List.drop 1024)) := by
  have hsplit : blocks.flatten = blocks.flatMap fun l => l.take 1024 ++ l.drop 1024 := by
    simp only [List.take_append_drop, List.flatMap_id']
  rw [hsplit]
  exact (List.flatMap_append_perm blocks _ _).symm

/-- **A step drops nothing** but what it leaves out. -/
theorem Node.parts_perm (a : Node) : a.parts.Perm (a.followed ++ a.dropped) := by
  cases a with
  | fn decl => exact List.Perm.of_eq (List.append_nil _).symm
  | stmt s =>
      show (s.exprs.map _ ++ s.blocks.flatten.map _).Perm
        ((s.exprs.map _ ++ (s.blocks.flatMap (List.take 1024)).map _) ++ (s.blocks.flatMap (List.drop 1024)).map _)
      rw [List.append_assoc, ← List.map_append]
      exact ((flatten_perm_split s.blocks).map Node.stmt).append_left _
  | expr e =>
      show ((e.heads ++ e.items).map _).Perm ((e.heads ++ e.queue).map _ ++ (e.items.drop 1024).map _)
      rw [← List.map_append, List.append_assoc]
      apply List.Perm.map
      apply List.Perm.append_left
      have hitems := (e.queue_perm.append_right (e.items.drop 1024)).symm
      rwa [List.take_append_drop] at hitems

/-! ## The trees -/

theorem Expr.sizeOf_lt {e c : Expr} (h : c ∈ e.heads ++ e.items) : sizeOf c < sizeOf e := by
  have hlist : ∀ l : List Expr, c ∈ l → sizeOf c < sizeOf l := fun l hc => List.sizeOf_lt_of_mem hc
  have hscalar : ∀ l : List ScalarMatchArm, c ∈ l.map ScalarMatchArm.result → sizeOf c < sizeOf l := by
    intro l hc
    obtain ⟨arm, harm, rfl⟩ := List.mem_map.mp hc
    have hin := List.sizeOf_lt_of_mem harm
    cases arm
    simp only [ScalarMatchArm.result, ScalarMatchArm.mk.sizeOf_spec] at hin ⊢
    omega
  have hfinite : ∀ l : List FiniteMatchArm, c ∈ l.map FiniteMatchArm.result → sizeOf c < sizeOf l := by
    intro l hc
    obtain ⟨arm, harm, rfl⟩ := List.mem_map.mp hc
    have hin := List.sizeOf_lt_of_mem harm
    cases arm
    simp only [FiniteMatchArm.result, FiniteMatchArm.mk.sizeOf_spec] at hin ⊢
    omega
  have hfield : ∀ l : List ConstructField, c ∈ l.map ConstructField.value → sizeOf c < sizeOf l := by
    intro l hc
    obtain ⟨field, hfield, rfl⟩ := List.mem_map.mp hc
    have hin := List.sizeOf_lt_of_mem hfield
    cases field
    simp only [ConstructField.value, ConstructField.mk.sizeOf_spec] at hin ⊢
    omega
  cases e with
  | name start stop => cases h
  | integer start stop value overflow => cases h
  | boolean start stop value => cases h
  | unaryNot value start stop =>
      obtain rfl := List.mem_singleton.mp h
      simp
      omega
  | repeated value countStart countStop countKind start stop =>
      obtain rfl := List.mem_singleton.mp h
      simp
      omega
  | scalarMatch subject arms start stop =>
      rcases List.mem_cons.mp h with rfl | h
      · simp
        omega
      · have := hscalar arms h
        simp
        omega
  | binary op left right start stop =>
      rcases List.mem_cons.mp h with rfl | h
      · simp
        omega
      · obtain rfl := List.mem_singleton.mp h
        simp
        omega
  | call nameStart nameStop args targs start stop =>
      have := hlist args h
      simp
      omega
  | project base fieldStart fieldStop start stop path =>
      obtain rfl := List.mem_singleton.mp h
      simp
      omega
  | finiteMatch subject arms start stop =>
      rcases List.mem_cons.mp h with rfl | h
      · simp
        omega
      · have := hfinite arms h
        simp
        omega
  | enumConstruct typeStart typeStop variantStart variantStop fields start stop =>
      have := hfield fields h
      simp
      omega
  | opCall slot nameStart nameStop args start stop =>
      have := hlist args h
      simp
      omega
  | recordConstruct typeStart typeStop base hasBase fields start stop =>
      rcases List.mem_append.mp h with h | h
      · have hbase : c = base := by
          cases hasBase with
          | true => exact List.mem_singleton.mp h
          | false => cases h
        subst hbase
        simp
        omega
      · have := hfield fields h
        simp
        omega
  | index base index start stop =>
      rcases List.mem_cons.mp h with rfl | h
      · simp
        omega
      · obtain rfl := List.mem_singleton.mp h
        simp
        omega
  | cast value typeStart typeStop typeKind start stop =>
      obtain rfl := List.mem_singleton.mp h
      simp
      omega
  | slice base startIndex stopIndex start stop =>
      rcases List.mem_cons.mp h with rfl | h
      · simp
        omega
      · rcases List.mem_cons.mp h with rfl | h
        · simp
          omega
        · obtain rfl := List.mem_singleton.mp h
          simp
          omega
  | sequenceLiteral elements start stop =>
      have := hlist elements h
      simp
      omega

theorem Node.sizeOf_lt {a c : Node} (h : c ∈ a.parts) : sizeOf c < sizeOf a := by
  cases a with
  | fn decl =>
      rcases List.mem_cons.mp h with rfl | h
      · cases decl with
        | mk ok errStart errStop sig body fnStart fnStop cursor =>
            cases body
            simp
            omega
      · obtain ⟨s, hs, rfl⟩ := List.mem_map.mp h
        have hin := List.sizeOf_lt_of_mem hs
        cases decl with
        | mk ok errStart errStop sig body fnStart fnStop cursor =>
            cases body
            simp at hin ⊢
            omega
  | stmt s =>
      rcases List.mem_append.mp h with h | h
      · obtain ⟨e, he, rfl⟩ := List.mem_map.mp h
        cases s with
        | letStmt nameStart nameStop typeStart typeStop typeKind value start stop =>
            obtain rfl := List.mem_singleton.mp he
            simp
            omega
        | ifStmt cond thenB elseB start stop =>
            obtain rfl := List.mem_singleton.mp he
            simp
            omega
        | failStmt modeStart modeStop start stop => cases he
        | returnStmt value start stop =>
            obtain rfl := List.mem_singleton.mp he
            simp
            omega
        | iterateStmt nameStart nameStop o ho _ _ _ _ _ _ _ init _ _ _ nv start stop =>
            have hcases : e = o ∨ e = init ∨ e = nv := by
              simp only [Stmt.exprs] at he
              split at he
              · simpa using he
              · right
                simpa using he
            rcases hcases with rfl | rfl | rfl
            · simp
              omega
            · simp
              omega
            · simp
              omega
      · obtain ⟨t, ht, rfl⟩ := List.mem_map.mp h
        obtain ⟨block, hblock, hin⟩ := List.mem_flatten.mp ht
        have hsize := List.sizeOf_lt_of_mem hin
        cases s with
        | ifStmt cond thenB elseB start stop =>
            rcases List.mem_cons.mp hblock with rfl | hblock
            · simp
              omega
            · obtain rfl := List.mem_singleton.mp hblock
              simp
              omega
        | iterateStmt =>
            obtain rfl := List.mem_singleton.mp hblock
            simp
            omega
        | letStmt nameStart nameStop typeStart typeStop typeKind value start stop => cases hblock
        | failStmt modeStart modeStop start stop => cases hblock
        | returnStmt value start stop => cases hblock
  | expr e =>
      obtain ⟨d, hd, rfl⟩ := List.mem_map.mp h
      have := Expr.sizeOf_lt hd
      simp
      omega

/-- The tree of a unit. -/
noncomputable def Node.whole : Branching Node where
  children := Node.parts
  size := sizeOf
  smaller := Node.sizeOf_lt

/-- The part of it that the walk follows. -/
noncomputable def Node.walked : Branching Node where
  children := Node.followed
  size := sizeOf
  smaller := fun h => Node.sizeOf_lt ((Node.parts_perm _).mem_iff.mpr (List.mem_append_left _ h))

/-! ## Steps -/

theorem appendExprs_eq {first second : List Expr} : appendExprs first second = first.take 1024 ++ second := by
  rw [appendExprs, prependWithin_eq, reverseExprs, reverseWithin_eq,
    List.take_of_length_le (by rw [List.length_reverse, List.length_take]; omega), List.reverse_reverse]

theorem appendStmts_eq {first second : List Stmt} : appendStmts first second = first.take 1024 ++ second := by
  rw [appendStmts, prependWithin_eq, reverseStmts, reverseWithin_eq,
    List.take_of_length_le (by rw [List.length_reverse, List.length_take]; omega), List.reverse_reverse]

/-- What was collected from at most 1024 items fits whole. -/
theorem appendExprs_collectWithin {α : Type} {f : α → Expr} {list : List α} {second : List Expr} :
    appendExprs (collectWithin 1024 f list) second = ((list.map f).take 1024).reverse ++ second := by
  rw [appendExprs_eq, collectWithin_eq, ← List.map_take, List.take_of_length_le]
  rw [List.length_reverse, List.length_map, List.length_take]
  exact Nat.min_le_left _ _

theorem scalarMatchResults_eq {arms : List ScalarMatchArm} :
    scalarMatchResults arms = (arms.map ScalarMatchArm.result).take 1024 := by
  have hshort : ((arms.take 1024).map ScalarMatchArm.result).length ≤ 1024 := by
    rw [List.length_map, List.length_take]
    exact Nat.min_le_left _ _
  rw [scalarMatchResults, reverseExprs, reverseWithin_eq, collectWithin_eq,
    List.take_of_length_le (by rwa [List.length_reverse]), List.reverse_reverse, List.map_take]

theorem scalarMatchChildren_eq {subject : Expr} {arms : List ScalarMatchArm} {rest : List Expr} :
    scalarMatchChildren subject arms rest = subject :: ((arms.map ScalarMatchArm.result).take 1024 ++ rest) := by
  rw [scalarMatchChildren, scalarMatchResults_eq, appendExprs_eq, List.take_take, Nat.min_self]

/-- The nodes on the three stacks. -/
def CallWalk.nodes (st : CallWalk) : List Node := st.exprs.map .expr ++ (st.stmts.map .stmt ++ st.fns.map .fn)

theorem collectCallExpr_exprs (st : CallWalk) (e : Expr) (rest : List Expr) :
    (collectCallExpr st e rest).exprs = e.heads ++ e.queue ++ rest := by
  cases e with
  | scalarMatch subject arms start stop =>
      simp only [collectCallExpr, scalarMatchChildren_eq]
      rfl
  | finiteMatch subject arms start stop =>
      simp only [collectCallExpr, finiteMatchChildren, finiteMatchResults, appendExprs_collectWithin]
      rfl
  | enumConstruct typeStart typeStop variantStart variantStop fields start stop =>
      simp only [collectCallExpr, constructChildren, constructValues, appendExprs_collectWithin]
      rfl
  | recordConstruct typeStart typeStop base hasBase fields start stop =>
      simp only [collectCallExpr, recordChildren, constructChildren, constructValues, appendExprs_collectWithin]
      cases hasBase with
      | true => rfl
      | false => rfl
  | call nameStart nameStop args targs start stop =>
      simp only [collectCallExpr, appendExprs_eq]
      rfl
  | opCall slot nameStart nameStop args start stop =>
      simp only [collectCallExpr, appendExprs_eq]
      rfl
  | sequenceLiteral elements start stop =>
      simp only [collectCallExpr, appendExprs_eq]
      rfl
  | _ => rfl

theorem collectCallExpr_shape (st : CallWalk) (e : Expr) (rest : List Expr) :
    ∃ exprs qualifiers references, collectCallExpr st e rest =
      ⟨st.fns, st.stmts, exprs, (Node.expr e).call.toList ++ st.calls, qualifiers, references⟩ := by
  cases e with
  | _ => exact ⟨_, _, _, rfl⟩

theorem collectCallExpr_rest (st : CallWalk) (e : Expr) (rest : List Expr) :
    (collectCallExpr st e rest).stmts = st.stmts ∧ (collectCallExpr st e rest).fns = st.fns ∧
      (collectCallExpr st e rest).calls = (Node.expr e).call.toList ++ st.calls := by
  obtain ⟨exprs, qualifiers, references, h⟩ := collectCallExpr_shape st e rest
  rw [h]
  exact ⟨rfl, rfl, rfl⟩

theorem collectCallStmt_rest (st : CallWalk) (s : Stmt) (rest : List Stmt) :
    (collectCallStmt st s rest).exprs = s.exprs ++ st.exprs ∧
      (collectCallStmt st s rest).stmts = s.blocks.flatMap (List.take 1024) ++ rest ∧
      (collectCallStmt st s rest).fns = st.fns ∧ (collectCallStmt st s rest).calls = st.calls := by
  cases s with
  | letStmt nameStart nameStop typeStart typeStop typeKind value start stop => exact ⟨rfl, rfl, rfl, rfl⟩
  | failStmt modeStart modeStop start stop => exact ⟨rfl, rfl, rfl, rfl⟩
  | returnStmt value start stop => exact ⟨rfl, rfl, rfl, rfl⟩
  | ifStmt cond thenB elseB start stop =>
      simp only [collectCallStmt, appendStmts_eq]
      simp [Stmt.blocks, Stmt.exprs]
  | iterateStmt nameStart nameStop o ho _ _ _ _ _ _ _ init body _ _ nv start stop =>
      simp only [collectCallStmt, appendStmts_eq]
      cases ho with
      | true => simp [Stmt.blocks, Stmt.exprs, iterateCallExprs]
      | false => simp [Stmt.blocks, Stmt.exprs, iterateCallExprs]

theorem collectCallStep_of_nil {st : CallWalk} (h : st.nodes = []) : collectCallStep st = st := by
  obtain ⟨hexprs, hrest⟩ := List.append_eq_nil_iff.mp h
  obtain ⟨hstmts, hfns⟩ := List.append_eq_nil_iff.mp hrest
  rw [collectCallStep, List.map_eq_nil_iff.mp hexprs]
  dsimp only
  rw [collectCallWithoutExpr, List.map_eq_nil_iff.mp hstmts]
  dsimp only
  rw [collectCallNextFn, List.map_eq_nil_iff.mp hfns]

/-- **A step** replaces the first node by what is followed of it, and notes its call. -/
theorem collectCallStep_of_cons {st : CallWalk} {a : Node} {rest : List Node} (h : st.nodes = a :: rest) :
    (collectCallStep st).nodes = a.followed ++ rest ∧ (collectCallStep st).calls = a.call.toList ++ st.calls := by
  unfold CallWalk.nodes at h
  cases hexprs : st.exprs with
  | cons e tail =>
      rw [hexprs, List.map_cons, List.cons_append] at h
      obtain ⟨rfl, rfl⟩ := List.cons.inj h
      obtain ⟨hstmts, hfns, hcalls⟩ := collectCallExpr_rest st e tail
      have hstep : collectCallStep st = collectCallExpr st e tail := by rw [collectCallStep, hexprs]
      rw [hstep, CallWalk.nodes, hstmts, hfns, hcalls, collectCallExpr_exprs, List.map_append, List.append_assoc]
      exact ⟨rfl, rfl⟩
  | nil =>
      have hstep : collectCallStep st = collectCallWithoutExpr st := by rw [collectCallStep, hexprs]
      rw [hexprs, List.map_nil, List.nil_append] at h
      rw [hstep, collectCallWithoutExpr]
      cases hstmts : st.stmts with
      | cons s tail =>
          rw [hstmts, List.map_cons, List.cons_append] at h
          obtain ⟨rfl, rfl⟩ := List.cons.inj h
          obtain ⟨hnew, hblocks, hfns, hcalls⟩ := collectCallStmt_rest st s tail
          dsimp only
          rw [CallWalk.nodes, hnew, hblocks, hfns, hcalls, hexprs, List.append_nil, List.map_append, List.append_assoc]
          refine ⟨?_, rfl⟩
          show _ = (s.exprs.map Node.expr ++ (s.blocks.flatMap (List.take 1024)).map Node.stmt) ++ _
          rw [List.append_assoc]
      | nil =>
          rw [hstmts, List.map_nil, List.nil_append] at h
          dsimp only
          rw [collectCallNextFn]
          cases hfns : st.fns with
          | nil =>
              rw [hfns] at h
              cases h
          | cons decl tail =>
              rw [hfns, List.map_cons] at h
              obtain ⟨rfl, rfl⟩ := List.cons.inj h
              exact ⟨rfl, rfl⟩

/-! ## Runs -/

theorem collectCallStep_of_done {st : CallWalk} (h : callWalkDone st = true) : collectCallStep st = st := by
  simp only [callWalkDone, Bool.and_eq_true, List.isEmpty_iff] at h
  obtain ⟨⟨hfns, hstmts⟩, hexprs⟩ := h
  apply collectCallStep_of_nil
  simp [CallWalk.nodes, hfns, hstmts, hexprs]

/-- The nodes of a unit in the order of the walk. -/
noncomputable def walkNodes (fns : List FnDecl) : List Node := (fns.map Node.fn).flatMap Node.walked.preorder

/-- The calls that occur in a unit. -/
noncomputable def callNodes (fns : List FnDecl) : List CallSite :=
  ((fns.map Node.fn).flatMap Node.whole.preorder).filterMap Node.call

theorem collectCallWalk_steps (fns : List FnDecl) :
    collectCallWalk fns = collectCallStep^[1024 * 64] ⟨fns, [], [], [], [], []⟩ := by
  have hchunk : ∀ st, collectCallWalkChunk st =
      (iterate (fun _ st => if callWalkDone st then .ret st else .next (collectCallStep st)) 0 1024 st).after id :=
    fun _ => rfl
  rw [collectCallWalk]
  exact iterate_chunks_id (fun _ => collectCallStep_of_done) hchunk 64 ⟨fns, [], [], [], [], []⟩

theorem collectCallWalk_calls (fns : List FnDecl) :
    (collectCallWalk fns).calls = (((walkNodes fns).take 65536).filterMap Node.call).reverse := by
  have hwalk := iterate_walk (B := Node.walked) CallWalk.nodes CallWalk.calls Node.call
    (fun _ => collectCallStep_of_nil) (fun _ _ _ => collectCallStep_of_cons) (1024 * 64) ⟨fns, [], [], [], [], []⟩
  rw [collectCallWalk_steps, hwalk, List.append_nil]
  rfl

theorem reverseCallSites_eq {calls : List CallSite} (h : calls.length ≤ 65536) :
    reverseCallSites calls = calls.reverse := by
  have hfix : ∀ rev : CallSiteRev, rev.rest.isEmpty = true → collectCallReverse rev = rev := by
    intro rev hrev
    rw [collectCallReverse, List.isEmpty_iff.mp hrev]
  have hchunk : ∀ rev, reverseCallSiteChunk rev =
      (iterate (fun _ rev => if rev.rest.isEmpty then .ret rev else .next (collectCallReverse rev)) 0 1024 rev).after
        id :=
    fun _ => rfl
  have hsteps : reverseCallSites calls = (collectCallReverse^[1024 * 64] ⟨calls, []⟩).acc :=
    iterate_chunks CallSiteRev.acc hfix hchunk 64 ⟨calls, []⟩
  have hfold := iterate_foldl CallSiteRev.rest CallSiteRev.acc (fun acc call => call :: acc)
    (fun rev hrev => hfix rev (List.isEmpty_iff.mpr hrev))
    (fun rev call rest hrev => by rw [collectCallReverse, hrev]; exact ⟨rfl, rfl⟩) (1024 * 64) ⟨calls, []⟩
  rw [hsteps, hfold, List.take_of_length_le h, List.foldl_flip_cons_eq_append', List.append_nil]

/-- **What is collected**: the calls among the first 65536 nodes. -/
theorem collectCallSites_eq (fns : List FnDecl) :
    collectCallSites fns = ((walkNodes fns).take 65536).filterMap Node.call := by
  unfold collectCallSites
  dsimp only
  rw [collectCallWalk_calls, reverseCallSites_eq, List.reverse_reverse]
  rw [List.length_reverse]
  exact Nat.le_trans (List.length_filterMap_le _ _) (List.length_take_le _ _)

/-- The nodes that the walk does not reach: those behind its steps, and what lies behind the first 1024 of a list. -/
noncomputable def missedNodes (fns : List FnDecl) : List Node :=
  (walkNodes fns).drop 65536 ++ (walkNodes fns).flatMap fun a => a.dropped.flatMap Node.whole.preorder

theorem callNodes_perm (fns : List FnDecl) :
    (callNodes fns).Perm (collectCallSites fns ++ (missedNodes fns).filterMap Node.call) := by
  have hsplit := @preorders_perm _ Node.whole Node.walked _ Node.parts_perm (fns.map Node.fn)
  rw [collectCallSites_eq, ← List.filterMap_append, missedNodes, ← List.append_assoc, List.take_append_drop]
  exact hsplit.filterMap Node.call

theorem missedNodes_call {fns : List FnDecl} (hall : (collectCallSites fns).Perm (callNodes fns)) :
    ∀ a ∈ missedNodes fns, a.call = none := by
  have hlen := (hall.trans (callNodes_perm fns)).length_eq
  rw [List.length_append] at hlen
  exact List.filterMap_eq_nil_iff.mp (List.eq_nil_of_length_eq_zero (by omega))

/-- **Collection is complete** exactly when no node that the walk misses is a call. -/
theorem collectCallSites_complete_iff (fns : List FnDecl) :
    (collectCallSites fns).Perm (callNodes fns) ↔ ∀ a ∈ missedNodes fns, a.call = none := by
  constructor
  · exact missedNodes_call
  · intro hnone
    have hperm := callNodes_perm fns
    rw [List.filterMap_eq_nil_iff.mpr hnone, List.append_nil] at hperm
    exact hperm.symm

/-! ## A long unit -/

/-- `fn f()->(r:u64){return 1;}` at an offset. -/
def literalFn (start : Nat) : FnDecl where
  ok := true
  errStart := 0
  errStop := 0
  sig :=
    { nameStart := start + 3, nameStop := start + 4, generics := [], params := []
      results := [{ nameStart := start + 9, nameStop := start + 10, typeStart := start + 11, typeStop := start + 14
                    typeKind := 1 }]
      contracts := [], effects := [], capabilities := [] }
  body := { body := [], ret := .integer (start + 23) (start + 24) 1 false, hasRet := true }
  fnStart := start
  fnStop := start + 26
  cursor := start + 26

/-- `fn f()->(r:u64){return f();}` at an offset. -/
def callingFn (start : Nat) : FnDecl where
  ok := true
  errStart := 0
  errStop := 0
  sig := (literalFn start).sig
  body := { body := [], ret := .call (start + 23) (start + 24) [] [] (start + 23) (start + 26), hasRet := true }
  fnStart := start
  fnStop := start + 28
  cursor := start + 28

/-- The functions of `mncs 0.10;module m;` with `n` constant functions and one that calls. -/
def longUnit (n : Nat) : List FnDecl :=
  (List.range n).map (fun k => literalFn (19 + 26 * k)) ++ [callingFn (19 + 26 * n)]

theorem preorder_literalFn (start : Nat) :
    Node.walked.preorder (.fn (literalFn start)) = [.fn (literalFn start), .expr (literalFn start).body.ret] := by
  have hleaf : Node.walked.preorder (.expr (literalFn start).body.ret) = [.expr (literalFn start).body.ret] :=
    Node.walked.preorder_eq _
  rw [Node.walked.preorder_eq]
  show Node.fn (literalFn start) :: [Node.expr (literalFn start).body.ret].flatMap _ = _
  rw [List.flatMap_singleton, hleaf]

theorem preorder_callingFn (start : Nat) :
    Node.walked.preorder (.fn (callingFn start)) = [.fn (callingFn start), .expr (callingFn start).body.ret] := by
  have hleaf : Node.walked.preorder (.expr (callingFn start).body.ret) = [.expr (callingFn start).body.ret] :=
    Node.walked.preorder_eq _
  rw [Node.walked.preorder_eq]
  show Node.fn (callingFn start) :: [Node.expr (callingFn start).body.ret].flatMap _ = _
  rw [List.flatMap_singleton, hleaf]

/-- The constant functions take two steps each. -/
theorem walkNodes_longUnit (n : Nat) :
    (walkNodes (longUnit n)).drop (2 * n) =
      [.fn (callingFn (19 + 26 * n)), .expr (callingFn (19 + 26 * n)).body.ret] := by
  have hlen : (((List.range n).map fun k => Node.fn (literalFn (19 + 26 * k))).flatMap Node.walked.preorder).length =
      2 * n := by
    simp [List.length_flatMap, preorder_literalFn, Function.comp_def, Nat.mul_comm]
  rw [walkNodes, longUnit, List.map_append, List.map_map, List.flatMap_append]
  rw [show (Node.fn ∘ fun k => literalFn (19 + 26 * k)) = fun k => Node.fn (literalFn (19 + 26 * k)) from rfl,
    ← hlen, List.drop_left]
  exact (List.flatMap_singleton _ _).trans (preorder_callingFn _)

/-- Behind 32768 constant functions the walk has no steps left for the call. -/
theorem not_collectCallSites_complete :
    ¬ ∀ fns : List FnDecl, (collectCallSites fns).Perm (callNodes fns) := by
  intro hall
  have hnone := missedNodes_call (hall (longUnit 32768))
  have hmissed : Node.expr (callingFn (19 + 26 * 32768)).body.ret ∈ missedNodes (longUnit 32768) := by
    apply List.mem_append_left
    rw [walkNodes_longUnit 32768]
    exact List.mem_cons_of_mem _ List.mem_cons_self
  cases hnone _ hmissed

end MncsCompiler.Decl
