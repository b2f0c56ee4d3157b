import MncsCompiler.Lib.Postfix
import MncsCompiler.Decl.CallSites
import MncsCompiler.Decl.Check

/-!
# `Decl.Flat` — the stack code of expressions and its verifier

`lower_expr` lists the operators of an expression in 1024 steps of a walk that takes the last operand first, and conses
what it meets, so that every operator comes to stand behind its operands. `flat_ok` runs the code on the height of a
stack and asks for one value at the end.

Key results: the verifier accepts **exactly the postfix codes of operator trees** (`flatOk_iff`), the code of an
expression **computes its value** in every interpretation of the operators (`run_lowerExpr`), and the verifier accepts
it **exactly when the expression has at most 1024 nodes** (`flatOk_lowerExpr_iff`).
-/

namespace MncsCompiler.Decl

open BoundedLoop Traversal Postfix

inductive FlatOp where
  | pInt (value : Nat)
  | pBool (value : Bool)
  | pName (start stop : Nat)
  | pNot
  | pRepeat (count : Nat)
  | pSequence (count : Nat)
  | pMatch (arms : Nat)
  | pBin (op : Nat)
  | pCall (nameStart nameStop argc : Nat)
  | pProj (fieldStart fieldStop : Nat) (path : Bool)
  | pConstruct (fields : Nat)
  | pIndex
  | pCast
  | pSlice
  deriving DecidableEq, Repr

/-! ## Lowering -/

structure LowerState where
  work : List Expr
  out : List FlatOp

def lowerScalarMatch (st : LowerState) (t : List Expr) (subject : Expr) (arms : List ScalarMatchArm) : LowerState :=
  let count := scalarMatchCount arms
  let children := scalarMatchChildren subject arms []
  let rev := reverseExprs children
  { work := appendExprs rev t, out := .pMatch count.n :: st.out }

def lowerFiniteMatch (st : LowerState) (t : List Expr) (subject : Expr) (arms : List FiniteMatchArm) : LowerState :=
  let count := finiteMatchCount arms
  let children := finiteMatchChildren subject arms []
  let rev := reverseExprs children
  { work := appendExprs rev t, out := .pMatch count.n :: st.out }

def lowerConstruct (st : LowerState) (t : List Expr) (fields : List ConstructField) : LowerState :=
  let children := constructChildren fields []
  let count := countExprs children
  let rev := reverseExprs children
  { work := appendExprs rev t, out := .pConstruct count :: st.out }

/-- The base counts beside the fields: it is a value on the stack like them. -/
def lowerRecordConstruct (st : LowerState) (t : List Expr) (base : Expr) (hasBase : Bool) (fields : List ConstructField)
    : LowerState :=
  let children := recordChildren base hasBase fields []
  let count := countExprs children
  let rev := reverseExprs children
  { work := appendExprs rev t, out := .pConstruct count :: st.out }

def lowerIndex (st : LowerState) (t : List Expr) (base index : Expr) : LowerState :=
  { work := index :: base :: t, out := .pIndex :: st.out }

def lowerSlice (st : LowerState) (t : List Expr) (base lower upper : Expr) : LowerState :=
  { work := upper :: lower :: base :: t, out := .pSlice :: st.out }

def lowerCast (st : LowerState) (t : List Expr) (value : Expr) : LowerState :=
  { work := value :: t, out := .pCast :: st.out }

def lowerRepeat (src : Source) (st : LowerState) (t : List Expr) (value : Expr) (countStart countStop countKind : Nat)
    : LowerState :=
  if countKind ≠ 5 then { work := value :: t, out := .pRepeat 0 :: st.out }
  else
    let count := src.intValue countStart countStop
    { work := value :: t, out := .pRepeat count.value :: st.out }

def lowerSequence (st : LowerState) (t : List Expr) (elements : List Expr) : LowerState :=
  let count := countExprs elements
  let reversed := reverseExprs elements
  { work := appendExprs reversed t, out := .pSequence count :: st.out }

/-- Arguments queue reversed: the last one is visited first, and the output keeps their order before the call. -/
def lowerCall (st : LowerState) (t : List Expr) (ns ne : Nat) (args : List Expr) : LowerState :=
  let argc := countExprs args
  let rev := reverseExprs args
  { work := appendExprs rev t, out := .pCall ns ne argc :: st.out }

def lowerOne (src : Source) (st : LowerState) (h : Expr) (t : List Expr) : LowerState :=
  match h with
  | .name s e => { work := t, out := .pName s e :: st.out }
  | .integer _ _ v _ => { work := t, out := .pInt v :: st.out }
  | .boolean _ _ v => { work := t, out := .pBool v :: st.out }
  | .unaryNot value _ _ => { work := value :: t, out := .pNot :: st.out }
  | .repeated value cs ce ck _ _ => lowerRepeat src st t value cs ce ck
  | .sequenceLiteral xs _ _ => lowerSequence st t xs
  | .scalarMatch subject arms _ _ => lowerScalarMatch st t subject arms
  | .binary o l r _ _ => { work := r :: l :: t, out := .pBin o :: st.out }
  | .call ns ne a _ _ _ => lowerCall st t ns ne a
  | .project b fs fe _ _ p => { work := b :: t, out := .pProj fs fe p :: st.out }
  | .finiteMatch subject arms _ _ => lowerFiniteMatch st t subject arms
  | .enumConstruct _ _ _ _ f _ _ => lowerConstruct st t f
  | .index ib ii _ _ => lowerIndex st t ib ii
  | .slice sb si ei _ _ => lowerSlice st t sb si ei
  | .cast cv _ _ _ _ _ => lowerCast st t cv
  | .recordConstruct _ _ b hb f _ _ => lowerRecordConstruct st t b hb f
  | .opCall _ ns ne a _ _ => lowerCall st t ns ne a

def lowerStep (src : Source) (st : LowerState) : LowerState :=
  match st.work with
  | [] => st
  | h :: t => lowerOne src st h t

def lowerExpr (src : Source) (node : Expr) : List FlatOp :=
  let d := (lowerStep src)^[1024] { work := [node], out := [] }
  d.out

/-! ## The verifier -/

structure DepthState where
  rest : List FlatOp
  depth : Nat
  ok : Bool

def flatMatch (st : DepthState) (t : List FlatOp) (arms : Nat) : DepthState :=
  if st.depth < arms + 1 then { rest := [], depth := 0, ok := false }
  else { rest := t, depth := st.depth - arms, ok := true }

def flatNot (st : DepthState) (t : List FlatOp) : DepthState :=
  if st.depth < 1 then { rest := [], depth := 0, ok := false } else { rest := t, depth := st.depth, ok := true }

def flatBin (st : DepthState) (t : List FlatOp) : DepthState :=
  if st.depth < 2 then { rest := [], depth := 0, ok := false } else { rest := t, depth := st.depth - 1, ok := true }

def flatSlice (st : DepthState) (t : List FlatOp) : DepthState :=
  if st.depth < 3 then { rest := [], depth := 0, ok := false } else { rest := t, depth := st.depth - 2, ok := true }

def flatCall (st : DepthState) (t : List FlatOp) (argc : Nat) : DepthState :=
  if st.depth < argc then { rest := [], depth := 0, ok := false }
  else { rest := t, depth := st.depth - argc + 1, ok := true }

def flatProj (st : DepthState) (t : List FlatOp) : DepthState :=
  if st.depth < 1 then { rest := [], depth := 0, ok := false } else { rest := t, depth := st.depth, ok := true }

def flatOne (st : DepthState) (h : FlatOp) (t : List FlatOp) : DepthState :=
  match h with
  | .pInt _ => { rest := t, depth := st.depth + 1, ok := true }
  | .pBool _ => { rest := t, depth := st.depth + 1, ok := true }
  | .pName _ _ => { rest := t, depth := st.depth + 1, ok := true }
  | .pNot => flatNot st t
  | .pRepeat _ => flatNot st t
  | .pSequence n => flatCall st t n
  | .pMatch n => flatMatch st t n
  | .pBin _ => flatBin st t
  | .pCall _ _ c => flatCall st t c
  | .pProj _ _ _ => flatProj st t
  | .pConstruct f => flatCall st t f
  | .pIndex => flatBin st t
  | .pCast => flatNot st t
  | .pSlice => flatSlice st t

def flatStep (st : DepthState) : DepthState :=
  if !st.ok then st
  else
    match st.rest with
    | [] => st
    | h :: t => flatOne st h t

def flatOk (ops : List FlatOp) : Bool :=
  let d := flatStep^[1024] { rest := ops, depth := 0, ok := true }
  d.ok && d.depth = 1

/-- How many values an operator takes off the stack. -/
def FlatOp.arity : FlatOp → Nat
  | .pInt _ | .pBool _ | .pName _ _ => 0
  | .pNot | .pRepeat _ | .pProj _ _ _ | .pCast => 1
  | .pBin _ | .pIndex => 2
  | .pSlice => 3
  | .pSequence n | .pCall _ _ n | .pConstruct n => n
  | .pMatch n => n + 1

/-- A step takes the operands away and adds the value, or fails for want of operands. -/
theorem flatOne_eq (st : DepthState) (h : FlatOp) (t : List FlatOp) :
    flatOne st h t =
      if st.depth < h.arity then { rest := [], depth := 0, ok := false }
      else { rest := t, depth := st.depth - h.arity + 1, ok := true } := by
  have hone : ∀ n, ¬n < 1 → n - 1 + 1 = n := fun n hn => by omega
  have htwo : ∀ n, ¬n < 2 → n - 2 + 1 = n - 1 := fun n hn => by omega
  have hthree : ∀ n, ¬n < 3 → n - 3 + 1 = n - 2 := fun n hn => by omega
  have hmatch : ∀ n k : Nat, ¬n < k + 1 → n - (k + 1) + 1 = n - k := fun n k hn => by omega
  cases h with
  | pInt value => rfl
  | pBool value => rfl
  | pName start stop => rfl
  | pSequence n => rfl
  | pCall nameStart nameStop argc => rfl
  | pConstruct fields => rfl
  | pMatch arms =>
      show (if st.depth < arms + 1 then _ else _) = if st.depth < arms + 1 then _ else _
      by_cases hfew : st.depth < arms + 1
      · rw [if_pos hfew, if_pos hfew]
      · rw [if_neg hfew, if_neg hfew, FlatOp.arity, hmatch _ _ hfew]
  | pSlice =>
      show (if st.depth < 3 then _ else _) = if st.depth < 3 then _ else _
      by_cases hfew : st.depth < 3
      · rw [if_pos hfew, if_pos hfew]
      · rw [if_neg hfew, if_neg hfew, FlatOp.arity, hthree _ hfew]
  | pBin _ | pIndex =>
      show (if st.depth < 2 then _ else _) = if st.depth < 2 then _ else _
      by_cases hfew : st.depth < 2
      · rw [if_pos hfew, if_pos hfew]
      · rw [if_neg hfew, if_neg hfew, FlatOp.arity, htwo _ hfew]
  | pNot | pRepeat _ | pProj _ _ _ | pCast =>
      show (if st.depth < 1 then _ else _) = if st.depth < 1 then _ else _
      by_cases hfew : st.depth < 1
      · rw [if_pos hfew, if_pos hfew]
      · rw [if_neg hfew, if_neg hfew, FlatOp.arity, hone _ hfew]

/-- The steps of the verifier follow the height of the stack. -/
theorem iterate_flatStep (n : Nat) (ops : List FlatOp) (d : Nat) :
    (flatStep^[n] { rest := ops, depth := d, ok := true }).ok = (depth FlatOp.arity (ops.take n) d).isSome ∧
      ∀ final, depth FlatOp.arity (ops.take n) d = some final →
        (flatStep^[n] { rest := ops, depth := d, ok := true }).depth = final := by
  induction n generalizing ops d with
  | zero =>
      refine ⟨rfl, ?_⟩
      intro final h
      exact Option.some.inj h
  | succ n ih =>
      rw [Function.iterate_succ_apply]
      cases ops with
      | nil =>
          have hfixed : flatStep { rest := [], depth := d, ok := true } = { rest := [], depth := d, ok := true } := rfl
          have hnext := ih [] d
          rw [hfixed, List.take_nil]
          rwa [List.take_nil] at hnext
      | cons h t =>
          have hstep : flatStep { rest := h :: t, depth := d, ok := true } =
              flatOne { rest := h :: t, depth := d, ok := true } h t := rfl
          rw [hstep, flatOne_eq, List.take_succ_cons, depth]
          dsimp only
          by_cases hfew : d < h.arity
          · have hfixed : flatStep { rest := [], depth := 0, ok := false } =
                { rest := [], depth := 0, ok := false } := rfl
            rw [if_pos hfew, if_pos hfew, Function.iterate_fixed hfixed]
            refine ⟨rfl, ?_⟩
            intro final hfinal
            cases hfinal
          · rw [if_neg hfew, if_neg hfew]
            exact ih t (d - h.arity + 1)

theorem flatOk_eq (ops : List FlatOp) : flatOk ops = true ↔ depth FlatOp.arity (ops.take 1024) 0 = some 1 := by
  obtain ⟨hok, hdepth⟩ := iterate_flatStep 1024 ops 0
  rw [flatOk, Bool.and_eq_true, hok, decide_eq_true_eq, Option.isSome_iff_exists]
  constructor
  · rintro ⟨⟨final, hfinal⟩, hone⟩
    rw [hfinal, ← hdepth final hfinal, hone]
  · intro h
    exact ⟨⟨1, h⟩, hdepth 1 h⟩

/-- **The verifier accepts exactly the postfix codes of operator trees**, up to the 1024 operators that it reads. -/
theorem flatOk_iff (ops : List FlatOp) :
    flatOk ops = true ↔ ∃ t : Term FlatOp, t.Formed FlatOp.arity ∧ t.code = ops.take 1024 := by
  rw [flatOk_eq, depth_eq_one_iff]

/-! ## Operands -/

/-- The operands of an expression in the order of the code: the arms of a finite match and the fields of a construction
    come from the last to the first. -/
def Expr.operands : Expr → List Expr
  | .finiteMatch subject arms _ _ => subject :: (arms.map FiniteMatchArm.result).reverse
  | .enumConstruct _ _ _ _ fields _ _ => (fields.map ConstructField.value).reverse
  | .recordConstruct _ _ base hasBase fields _ _ =>
    (if hasBase then [base] else []) ++ (fields.map ConstructField.value).reverse
  | e => e.heads ++ e.items

theorem Expr.operands_perm (e : Expr) : e.operands.Perm (e.heads ++ e.items) := by
  cases e with
  | finiteMatch subject arms start stop => exact (List.reverse_perm _).cons subject
  | enumConstruct typeStart typeStop variantStart variantStop fields start stop => exact List.reverse_perm _
  | recordConstruct typeStart typeStop base hasBase fields start stop => exact (List.reverse_perm _).append_left _
  | _ => exact List.Perm.refl _

noncomputable def Expr.operandTree : Branching Expr where
  children := Expr.operands
  size := sizeOf
  smaller := fun h => Expr.sizeOf_lt ((Expr.operands_perm _).mem_iff.mp h)

/-- An expression and everything below it. -/
noncomputable def Expr.nodes (e : Expr) : List Expr := Expr.operandTree.preorder e

/-- What a step of the lowering puts on its stack, the last operand first. -/
def Expr.pushed (e : Expr) : List Expr := ((e.heads ++ e.queue).take 1024).reverse

/-- What it emits. -/
def Expr.flatOp (src : Source) : Expr → FlatOp
  | .name s e => .pName s e
  | .integer _ _ v _ => .pInt v
  | .boolean _ _ v => .pBool v
  | .unaryNot _ _ _ => .pNot
  | .repeated _ cs ce ck _ _ => .pRepeat (if ck = 5 then (src.intValue cs ce).value else 0)
  | .sequenceLiteral xs _ _ => .pSequence (min 1024 xs.length)
  | .scalarMatch _ arms _ _ => .pMatch (min 1024 arms.length)
  | .binary o _ _ _ _ => .pBin o
  | .call ns ne a _ _ _ => .pCall ns ne (min 1024 a.length)
  | .project _ fs fe _ _ p => .pProj fs fe p
  | .finiteMatch _ arms _ _ => .pMatch (min 1024 arms.length)
  | .enumConstruct _ _ _ _ f _ _ => .pConstruct (min 1024 f.length)
  | .index _ _ _ _ => .pIndex
  | .slice _ _ _ _ _ => .pSlice
  | .cast _ _ _ _ _ _ => .pCast
  | .recordConstruct _ _ _ hb f _ _ => .pConstruct (min 1024 ((if hb then 1 else 0) + min 1024 f.length))
  | .opCall _ ns ne a _ _ => .pCall ns ne (min 1024 a.length)

theorem countExprs_eq (list : List Expr) : countExprs list = min 1024 list.length := by
  rw [countExprs, iterate_count CountState.rest CountState.n, Nat.zero_add]
  · intro s hs
    rw [countExprsStep, hs]
  · intro s a t hs
    rw [countExprsStep, hs]
    exact ⟨rfl, rfl⟩

theorem scalarMatchCount_n (arms : List ScalarMatchArm) : (scalarMatchCount arms).n = min 1024 arms.length := by
  rw [scalarMatchCount, iterate_count ScalarMatchCount.rest ScalarMatchCount.n, Nat.zero_add]
  · intro s hs
    rw [scalarMatchCountStep, hs]
  · intro s a t hs
    rw [scalarMatchCountStep, hs]
    exact ⟨rfl, rfl⟩

theorem finiteMatchCount_n (arms : List FiniteMatchArm) : (finiteMatchCount arms).n = min 1024 arms.length := by
  have hfix : ∀ d : FiniteMatchCount, d.rest.isEmpty = true → finiteMatchCountStep d = d := by
    intro d hd
    rw [finiteMatchCountStep, List.isEmpty_iff.mp hd]
  rw [finiteMatchCount, iterate_guard fun _ _ => rfl, settle_eq_self hfix,
    iterate_count FiniteMatchCount.rest FiniteMatchCount.n, Nat.zero_add]
  · intro s hs
    exact hfix s (List.isEmpty_iff.mpr hs)
  · intro s a t hs
    rw [finiteMatchCountStep, hs]
    exact ⟨rfl, rfl⟩

/-- The children of a step, put on its stack from the last to the first. -/
theorem append_reverse (children t : List Expr) :
    appendExprs (reverseExprs children) t = (children.take 1024).reverse ++ t := by
  rw [appendExprs_eq, reverseExprs, reverseWithin_eq, List.take_of_length_le]
  rw [List.length_reverse, List.length_take]
  exact Nat.min_le_left _ _

theorem take_take_reverse (items t : List Expr) :
    (items.take 1024).reverse ++ t = (([] ++ items.take 1024).take 1024).reverse ++ t := by
  rw [List.nil_append, List.take_take, Nat.min_self]

/-- **A step of the lowering** puts the operands on the stack and emits the operator. -/
theorem lowerOne_eq (src : Source) (st : LowerState) (h : Expr) (t : List Expr) :
    lowerOne src st h t = { work := h.pushed ++ t, out := h.flatOp src :: st.out } := by
  cases h with
  | repeated value cs ce ck start stop =>
      show lowerRepeat src st t value cs ce ck = _
      rw [lowerRepeat, Expr.flatOp]
      by_cases hkind : ck = 5
      · rw [if_neg (not_not.mpr hkind), if_pos hkind]
        rfl
      · rw [if_pos hkind, if_neg hkind]
        rfl
  | sequenceLiteral xs start stop =>
      show lowerSequence st t xs = _
      rw [lowerSequence, countExprs_eq, append_reverse, take_take_reverse]
      rfl
  | call ns ne args targs start stop =>
      show lowerCall st t ns ne args = _
      rw [lowerCall, countExprs_eq, append_reverse, take_take_reverse]
      rfl
  | opCall slot ns ne args start stop =>
      show lowerCall st t ns ne args = _
      rw [lowerCall, countExprs_eq, append_reverse, take_take_reverse]
      rfl
  | scalarMatch subject arms start stop =>
      show lowerScalarMatch st t subject arms = _
      rw [lowerScalarMatch, scalarMatchCount_n, append_reverse, scalarMatchChildren_eq, List.append_nil]
      rfl
  | finiteMatch subject arms start stop =>
      show lowerFiniteMatch st t subject arms = _
      rw [lowerFiniteMatch, finiteMatchCount_n, append_reverse, finiteMatchChildren, finiteMatchResults,
        appendExprs_collectWithin, List.append_nil]
      rfl
  | enumConstruct typeStart typeStop variantStart variantStop fields start stop =>
      show lowerConstruct st t fields = _
      have hcount : min 1024 (((fields.map ConstructField.value).take 1024).reverse).length =
          min 1024 fields.length := by
        rw [List.length_reverse, List.length_take, List.length_map]
        omega
      rw [lowerConstruct, countExprs_eq, append_reverse, constructChildren, constructValues, appendExprs_collectWithin,
        List.append_nil, hcount]
      rfl
  | recordConstruct typeStart typeStop base hasBase fields start stop =>
      show lowerRecordConstruct st t base hasBase fields = _
      rw [lowerRecordConstruct, countExprs_eq, append_reverse, recordChildren, constructChildren, constructValues,
        appendExprs_collectWithin, List.append_nil]
      have hlen : (((fields.map ConstructField.value).take 1024).reverse).length = min 1024 fields.length := by
        rw [List.length_reverse, List.length_take, List.length_map]
      cases hasBase with
      | true =>
          rw [if_pos rfl, List.length_cons, hlen, Nat.add_comm]
          rfl
      | false =>
          rw [if_neg Bool.false_ne_true, hlen, ← Nat.zero_add (min 1024 fields.length)]
          rfl
  | _ => rfl

/-! ### The limits of a step -/

theorem Expr.length_pushed (e : Expr) : e.pushed.length = min 1024 e.operands.length := by
  have hqueue : e.queue.length = min 1024 e.items.length := by rw [e.queue_perm.length_eq, List.length_take]
  rw [e.operands_perm.length_eq, Expr.pushed, List.length_reverse, List.length_take, List.length_append,
    List.length_append, hqueue]
  omega

theorem Expr.pushed_eq {e : Expr} (h : e.operands.length ≤ 1024) : e.pushed = e.operands.reverse := by
  have hlen := h
  rw [e.operands_perm.length_eq, List.length_append] at hlen
  have hqueue : e.heads ++ e.queue = e.operands := by
    have htake : e.items.take 1024 = e.items := List.take_of_length_le (Nat.le_trans (Nat.le_add_left _ _) hlen)
    cases e with
    | finiteMatch subject arms start stop => exact congrArg (fun l => subject :: l.reverse) htake
    | enumConstruct typeStart typeStop variantStart variantStop fields start stop =>
        exact congrArg List.reverse htake
    | recordConstruct typeStart typeStop base hasBase fields start stop =>
        exact congrArg (fun l => (if hasBase then [base] else []) ++ l.reverse) htake
    | _ => exact congrArg (fun l => _ ++ l) htake
  rw [Expr.pushed, hqueue, List.take_of_length_le h]

/-- An operator takes at least what the step pushes for it. -/
theorem Expr.pushed_le_arity (src : Source) (e : Expr) : e.pushed.length ≤ (e.flatOp src).arity := by
  rw [e.length_pushed, e.operands_perm.length_eq, List.length_append]
  cases e with
  | recordConstruct typeStart typeStop base hasBase fields start stop =>
      cases hasBase with
      | true => simp only [Expr.heads, Expr.items, Expr.flatOp, FlatOp.arity, List.length_map]; simp; omega
      | false => simp only [Expr.heads, Expr.items, Expr.flatOp, FlatOp.arity, List.length_map]; simp
  | _ => simp only [Expr.heads, Expr.items, Expr.flatOp, FlatOp.arity, List.length_map]; simp <;> omega

/-- An operator takes its operands, when they are at most 1024. -/
theorem Expr.arity_flatOp (src : Source) {e : Expr} (h : e.operands.length ≤ 1024) :
    (e.flatOp src).arity = e.operands.length := by
  rw [e.operands_perm.length_eq, List.length_append] at h ⊢
  cases e with
  | recordConstruct typeStart typeStop base hasBase fields start stop =>
      cases hasBase with
      | true =>
          simp only [Expr.heads, Expr.items, Expr.flatOp, FlatOp.arity, List.length_map] at h ⊢
          simp at h ⊢
          omega
      | false =>
          simp only [Expr.heads, Expr.items, Expr.flatOp, FlatOp.arity, List.length_map] at h ⊢
          simp at h ⊢
          omega
  | _ =>
      simp only [Expr.heads, Expr.items, Expr.flatOp, FlatOp.arity, List.length_map] at h ⊢
      simp at h ⊢ <;> omega

/-! ## The code of an expression -/

/-- The tree that the lowering walks. -/
noncomputable def Expr.lowered : Branching Expr where
  children := Expr.pushed
  size := sizeOf
  smaller := by
    intro a c hc
    apply Expr.sizeOf_lt
    rcases List.mem_append.mp (List.mem_of_mem_take (List.mem_reverse.mp hc)) with hc | hc
    · exact List.mem_append_left _ hc
    · exact List.mem_append_right _ (List.mem_of_mem_take (a.queue_perm.mem_iff.mp hc))

/-- The code lists, backwards, the first 1024 nodes of the walk. -/
theorem lowerExpr_eq (src : Source) (e : Expr) :
    lowerExpr src e = (((Expr.lowered.preorder e).take 1024).map (Expr.flatOp src)).reverse := by
  have hnil : ∀ s : LowerState, s.work = [] → lowerStep src s = s := by
    intro s hs
    rw [lowerStep, hs]
  have hcons : ∀ (s : LowerState) (a : Expr) (rest : List Expr), s.work = a :: rest →
      (lowerStep src s).work = Expr.lowered.children a ++ rest ∧
        (lowerStep src s).out = (some (a.flatOp src)).toList ++ s.out := by
    intro s a rest hs
    rw [lowerStep, hs]
    dsimp only
    rw [lowerOne_eq]
    exact ⟨rfl, rfl⟩
  have hwalk := iterate_walk LowerState.work LowerState.out (fun e => some (e.flatOp src)) hnil hcons 1024
    { work := [e], out := [] }
  rw [List.filterMap_eq_map', List.flatMap_singleton, List.append_nil] at hwalk
  exact hwalk

theorem Expr.pushed_of_nodes {e b : Expr} (h : e.nodes.length ≤ 1024) (hb : b ∈ Expr.operandTree.preorder e) :
    b.operands.length ≤ 1024 :=
  Nat.le_trans (Nat.le_of_lt (length_children_lt Expr.operandTree hb)) h

/-- The code of an expression of at most 1024 nodes is its postfix code. -/
theorem lowerExpr_postorder (src : Source) {e : Expr} (h : e.nodes.length ≤ 1024) :
    lowerExpr src e = (postorder Expr.operandTree e).map (Expr.flatOp src) := by
  have hmirror : ∀ b ∈ Expr.operandTree.preorder e, Expr.lowered.children b = (Expr.operandTree.children b).reverse :=
    fun b hb => Expr.pushed_eq (Expr.pushed_of_nodes h hb)
  have hlen : (Expr.lowered.preorder e).length ≤ 1024 := by
    rw [length_mirror hmirror]
    exact h
  rw [lowerExpr_eq, List.take_of_length_le hlen, preorder_mirror hmirror, List.map_reverse, List.reverse_reverse]

/-- A walk that ends has walked the whole expression. -/
theorem Expr.nodes_of_lowered {e : Expr} (h : (Expr.lowered.preorder e).length ≤ 1024) : e.nodes.length ≤ 1024 := by
  have hmirror : ∀ b ∈ Expr.lowered.preorder e, Expr.operandTree.children b = (Expr.lowered.children b).reverse := by
    intro b hb
    have hfew : b.pushed.length < (Expr.lowered.preorder e).length := length_children_lt Expr.lowered hb
    rw [b.length_pushed] at hfew
    have hpushed := Expr.pushed_eq (e := b) (by omega)
    show b.operands = b.pushed.reverse
    rw [hpushed, List.reverse_reverse]
  have hlen := length_mirror hmirror
  exact hlen ▸ h

section Meaning

variable {β : Type} (interp : FlatOp → List β → β)

/-- The value of an expression, when its operators are read in an interpretation. -/
noncomputable def Expr.meaning (src : Source) (e : Expr) : β :=
  value Expr.operandTree (fun b => interp (b.flatOp src)) e

theorem Expr.meaning_eq (src : Source) (e : Expr) :
    e.meaning interp src = interp (e.flatOp src) (e.operands.map fun b => b.meaning interp src) :=
  value_eq Expr.operandTree _ e

theorem run_of_nodes (src : Source) {e : Expr} (h : e.nodes.length ≤ 1024) (stack : List β) :
    run FlatOp.arity interp (lowerExpr src e) stack = some (e.meaning interp src :: stack) := by
  rw [lowerExpr_postorder src h]
  exact run_postorder FlatOp.arity interp (fun b hb => Expr.arity_flatOp src (Expr.pushed_of_nodes h hb)) stack

end Meaning

theorem flatOk_of_nodes (src : Source) {e : Expr} (h : e.nodes.length ≤ 1024) : flatOk (lowerExpr src e) = true := by
  have hrun := run_of_nodes (β := PUnit) (fun _ _ => PUnit.unit) src h []
  have hdepth := depth_run FlatOp.arity (fun _ _ => PUnit.unit) (lowerExpr src e) []
  rw [hrun] at hdepth
  have hlen : (lowerExpr src e).length ≤ 1024 := by
    rw [lowerExpr_eq, List.length_reverse, List.length_map]
    exact List.length_take_le _ _
  rw [flatOk_eq, List.take_of_length_le hlen]
  exact hdepth.symm

/-- A walk cut off leaves operands out: the code has too few of them. -/
theorem nodes_of_flatOk {src : Source} {e : Expr} (h : flatOk (lowerExpr src e) = true) : e.nodes.length ≤ 1024 := by
  apply Expr.nodes_of_lowered
  by_contra hlong
  have hcut : 1024 < ([e].flatMap Expr.lowered.preorder).length := by
    rw [List.flatMap_singleton]
    exact Nat.lt_of_not_le hlong
  have hstack := lt_of_unfinished (B := Expr.lowered) (fun b => b.pushed_le_arity src) hcut
  rw [List.flatMap_singleton, List.length_singleton] at hstack
  rw [List.flatMap_singleton] at hcut
  have hops : (lowerExpr src e).length = 1024 := by
    rw [lowerExpr_eq, List.length_reverse, List.length_map, List.length_take, Nat.min_eq_left (Nat.le_of_lt hcut)]
  have harities : ((lowerExpr src e).map FlatOp.arity).sum =
      (((Expr.lowered.preorder e).take 1024).map fun b => (b.flatOp src).arity).sum := by
    rw [lowerExpr_eq, List.map_reverse, List.sum_reverse, List.map_map]
    rfl
  rw [flatOk_eq, List.take_of_length_le (Nat.le_of_eq hops)] at h
  have hbalance := depth_balance h
  rw [hops, harities] at hbalance
  omega

/-- **The verifier accepts the code of an expression** exactly when the lowering has a step for each of its nodes. -/
theorem flatOk_lowerExpr_iff (src : Source) (e : Expr) : flatOk (lowerExpr src e) = true ↔ e.nodes.length ≤ 1024 :=
  ⟨nodes_of_flatOk, flatOk_of_nodes src⟩

/-- **The code computes the expression**: whatever the operators mean, a run leaves the value of the expression and
    nothing else, as long as it has at most 1024 nodes; and the code of a larger one leaves no such stack. -/
theorem run_lowerExpr_iff {β : Type} (interp : FlatOp → List β → β) (src : Source) (e : Expr) :
    run FlatOp.arity interp (lowerExpr src e) [] = some [e.meaning interp src] ↔ e.nodes.length ≤ 1024 := by
  constructor
  · intro hrun
    have hdepth := depth_run FlatOp.arity interp (lowerExpr src e) []
    have hlen : (lowerExpr src e).length ≤ 1024 := by
      rw [lowerExpr_eq, List.length_reverse, List.length_map]
      exact List.length_take_le _ _
    rw [hrun] at hdepth
    apply @nodes_of_flatOk src
    rw [flatOk_eq, List.take_of_length_le hlen]
    exact hdepth.symm
  · intro h
    exact run_of_nodes interp src h []

/-- The operator tree of an expression, and its code. -/
theorem code_meaning (src : Source) {e : Expr} (h : e.nodes.length ≤ 1024) :
    (e.meaning Term.node src).code = lowerExpr src e := by
  have hrun := run_of_nodes Term.node src h []
  obtain ⟨-, hcode⟩ := run_terms (fun t ht => absurd ht List.not_mem_nil) hrun
  simpa using hcode

/-- **The code forgets the spans and nothing else**: two expressions have one code exactly when their operator trees are
    the same. -/
theorem lowerExpr_eq_iff (src : Source) {e e' : Expr} (h : e.nodes.length ≤ 1024) (h' : e'.nodes.length ≤ 1024) :
    lowerExpr src e = lowerExpr src e' ↔ e.meaning Term.node src = e'.meaning Term.node src := by
  constructor
  · intro hcode
    have hrun := run_of_nodes Term.node src h []
    rw [hcode, run_of_nodes Term.node src h' []] at hrun
    exact (List.cons.inj (Option.some.inj hrun)).1.symm
  · intro hterm
    rw [← code_meaning src h, hterm, code_meaning src h']

theorem length_nodes_not (a b s e : Nat) : (Expr.unaryNot (.name a b) s e).nodes.length = 2 := by
  rw [Expr.nodes, Expr.operandTree.preorder_eq]
  show ([Expr.name a b].flatMap Expr.operandTree.preorder).length + 1 = 2
  rw [List.flatMap_singleton, Expr.operandTree.preorder_eq]
  rfl

/-- `!x`, read at two places. -/
theorem lowerExpr_eq_iff_not : lowerExpr ⟨[], 0, 0⟩ (.unaryNot (.name 1 2) 0 2) =
    lowerExpr ⟨[], 0, 0⟩ (.unaryNot (.name 1 2) 7 9) := by
  have hfew : ∀ s e, (Expr.unaryNot (.name 1 2) s e).nodes.length ≤ 1024 := by
    intro s e
    rw [length_nodes_not]
    omega
  apply (lowerExpr_eq_iff ⟨[], 0, 0⟩ (hfew 0 2) (hfew 7 9)).mpr
  rw [Expr.meaning_eq, Expr.meaning_eq]
  rfl

end MncsCompiler.Decl
