import MncsCompiler.Decl.Evaluation
import MncsCompiler.Decl.Lockstep
import MncsCompiler.Flow.Meaning

/-!
# `Flow.Handover` — from the prover to the flow graphs

The prover hands on one operation list for each expression of a unit, in program order; the walk of the flow graphs
takes the lists in the same order. So no expression is given the operations of another one, no list is missing and none
is left (`proveParsedUnit_lockstep`), and a graph that is valid evaluates the expressions of the source with the
operations that the prover has made of them.
-/

namespace MncsCompiler.Flow

open BoundedLoop Decl Halting

variable {α : Type}

/-! ## Values -/

mutual

/-- The typed expressions of a statement in program order. -/
def TStmt.values : TStmt α → List (TypedExpr α)
  | .bind x => [x]
  | .branch cond yes no => cond :: (valuesAll yes ++ valuesAll no)
  | .fail _ _ => []
  | .ret x => [x]
  | .loop source initial body next _ _ => source.toList ++ initial :: (valuesAll body ++ [next])

def valuesAll : List (TStmt α) → List (TypedExpr α)
  | [] => []
  | h :: t => h.values ++ valuesAll t

end

def TypedBody.values (body : TypedBody α) : List (TypedExpr α) := valuesAll body.stmts ++ body.tail.toList

def TStmt.leaves : TStmt α → Bool
  | .ret _ => true
  | .fail _ _ => true
  | _ => false

/-- Operation lists attached to expressions in order. -/
structure Attaches (es : List Expr) (lists : List (List α)) (xs : List (TypedExpr α)) : Prop where
  ops : xs.map TypedExpr.ops = lists
  spans : xs.map (fun x => (x.start, x.stop)) = es.map fun e => (exprStart e, exprEnd e)

theorem Attaches.nil : Attaches [] ([] : List (List α)) [] := ⟨rfl, rfl⟩

theorem Attaches.append {es es' : List Expr} {lists lists' : List (List α)} {xs xs' : List (TypedExpr α)}
    (h : Attaches es lists xs) (h' : Attaches es' lists' xs') : Attaches (es ++ es') (lists ++ lists') (xs ++ xs') := by
  constructor
  · rw [List.map_append, h.ops, h'.ops]
  · rw [List.map_append, List.map_append, h.spans, h'.spans]

theorem Attaches.one (e : Expr) (role bindingStart bindingStop : Nat) (ops : List α) :
    Attaches [e] [ops] [typedExpr role (exprStart e) (exprEnd e) bindingStart bindingStop ops] := ⟨rfl, rfl⟩

/-! ## Typing -/

theorem takeTyped_cons {ops : List α} (h : ops ≠ []) (role start stop bindingStart bindingStop : Nat)
    (rest : List (List α)) :
    takeTyped role start stop bindingStart bindingStop (ops :: rest) =
      some (typedExpr role start stop bindingStart bindingStop ops, rest) := by
  have hcount : countTops ops ≠ 0 := by
    rw [countTops, countWithin_eq]
    have := List.length_pos_iff.mpr h
    omega
  rw [takeTyped, if_neg hcount]

/-- What is taken from the front of the operation lists. -/
theorem exists_split {β : Type} {l : List β} {a b : Nat} (h : l.length = a + b) :
    ∃ l₁ l₂, l = l₁ ++ l₂ ∧ l₁.length = a ∧ l₂.length = b := by
  refine ⟨l.take a, l.drop a, (List.take_append_drop a l).symm, ?_, ?_⟩
  · rw [List.length_take]
    omega
  · rw [List.length_drop]
    omega

/-- A list for each expression, none of them empty. -/
structure Supplies (lists : List (List α)) (es : List Expr) : Prop where
  length : lists.length = es.length
  filled : ∀ ops ∈ lists, ops ≠ []

theorem Supplies.split {lists : List (List α)} {es es' : List Expr} (h : Supplies lists (es ++ es')) :
    ∃ front back, lists = front ++ back ∧ Supplies front es ∧ Supplies back es' := by
  have hlength := h.length
  rw [List.length_append] at hlength
  obtain ⟨front, back, rfl, hfront, hback⟩ := exists_split hlength
  refine ⟨front, back, rfl, ⟨hfront, ?_⟩, ⟨hback, ?_⟩⟩
  · exact fun ops hops => h.filled ops (List.mem_append_left _ hops)
  · exact fun ops hops => h.filled ops (List.mem_append_right _ hops)

theorem Supplies.one {lists : List (List α)} {e : Expr} (h : Supplies lists [e]) : ∃ ops, lists = [ops] ∧ ops ≠ [] := by
  obtain ⟨ops, rfl⟩ := List.length_eq_one_iff.mp h.length
  exact ⟨ops, rfl, h.filled ops List.mem_cons_self⟩

theorem Supplies.none {lists : List (List α)} (h : Supplies lists []) : lists = [] :=
  List.length_eq_zero_iff.mp h.length

theorem Supplies.head {lists : List (List α)} {e : Expr} {es : List Expr} (h : Supplies lists (e :: es)) :
    ∃ ops rest, lists = ops :: rest ∧ ops ≠ [] ∧ Supplies rest es := by
  obtain ⟨front, rest, rfl, hfront, hrest⟩ := @Supplies.split _ _ [e] es h
  obtain ⟨ops, rfl, hops⟩ := hfront.one
  exact ⟨ops, rest, rfl, hops, hrest⟩

/-- The source of a loop. -/
theorem takeSource_attaches {lists : List (List α)} {ho : Bool} {iterated : Expr} (start stop : Nat)
    (h : Supplies lists (if ho then [iterated] else [])) (more : List (List α)) :
    ∃ source : Option (TypedExpr α), takeSource ho iterated start stop (lists ++ more) = some (source, more) ∧
      Attaches (if ho then [iterated] else []) lists source.toList := by
  cases ho with
  | false =>
      rw [h.none]
      exact ⟨none, rfl, .nil⟩
  | true =>
      obtain ⟨ops, rfl, hops⟩ := Supplies.one h
      refine ⟨some (typedExpr 4 (exprStart iterated) (exprEnd iterated) start stop ops), ?_,
        .one iterated 4 start stop ops⟩
      rw [takeSource, if_pos rfl, List.singleton_append, takeTyped_cons hops]
      rfl

theorem endsClosed_cons (x : TStmt α) (xs : List (TStmt α)) :
    endsClosed (x :: xs) = if xs = [] then x.leaves else endsClosed xs := by
  cases xs with
  | nil => cases x <;> rfl
  | cons y xs => cases x <;> rfl

theorem typeStmts_length {stmts : List Stmt} {tops rest : List (List α)} {xs : List (TStmt α)}
    (h : typeStmts stmts tops = some (xs, rest)) : xs.length = stmts.length := by
  induction stmts generalizing tops xs rest with
  | nil =>
      obtain ⟨rfl, -⟩ : [] = xs ∧ tops = rest := by simpa [typeStmts] using h
      rfl
  | cons stmt stmts ih =>
      simp only [typeStmts, Option.bind_eq_bind, Option.bind_eq_some_iff, Prod.exists, Option.pure_def,
        Option.some.injEq, Prod.mk.injEq] at h
      obtain ⟨x, tops', -, others, rest', hothers, rfl, -⟩ := h
      rw [List.length_cons, List.length_cons, ih hothers]

theorem leftAfter_cons (h : Stmt) (t : List Stmt) :
    leftAfter false (h :: t) = if t = [] then h.leaves else leftAfter false t := by
  cases t <;> rfl

mutual

/-- A statement takes one list for each of its expressions. -/
theorem typeStmt_attaches : ∀ (stmt : Stmt) (lists more : List (List α)), Supplies lists stmt.evaluated →
    ∃ x, typeStmt stmt (lists ++ more) = some (x, more) ∧ Attaches stmt.evaluated lists x.values ∧
      x.leaves = stmt.leaves
  | .letStmt nameStart nameStop _ _ _ value _ _, lists, more, h => by
      rw [Stmt.evaluated] at h ⊢
      obtain ⟨ops, rfl, hops⟩ := h.one
      have htake := takeTyped_cons hops 1 (exprStart value) (exprEnd value) nameStart nameStop more
      refine ⟨.bind (typedExpr 1 (exprStart value) (exprEnd value) nameStart nameStop ops), ?_, ?_, rfl⟩
      · simp [typeStmt, htake]
      · rw [TStmt.values]
        exact .one value 1 nameStart nameStop ops
  | .ifStmt cond thenB elseB _ _, lists, more, h => by
      rw [Stmt.evaluated] at h ⊢
      obtain ⟨ops, arms, rfl, hops, harms⟩ := h.head
      obtain ⟨front, back, rfl, hfront, hback⟩ := harms.split
      obtain ⟨yes, hyes, hyesA, -⟩ := typeStmts_attaches thenB front (back ++ more) hfront
      obtain ⟨no, hno, hnoA, -⟩ := typeStmts_attaches elseB back more hback
      have htake := takeTyped_cons hops 2 (exprStart cond) (exprEnd cond) 0 0 (front ++ (back ++ more))
      refine ⟨.branch (typedExpr 2 (exprStart cond) (exprEnd cond) 0 0 ops) yes no, ?_, ?_, rfl⟩
      · simp [typeStmt, htake, hyes, hno]
      · rw [TStmt.values]
        exact (Attaches.one cond 2 0 0 ops).append (hyesA.append hnoA)
  | .failStmt _ _ s e, lists, more, h => by
      rw [Stmt.evaluated] at h ⊢
      rw [h.none]
      refine ⟨.fail s e, by simp [typeStmt], ?_, rfl⟩
      rw [TStmt.values]
      exact .nil
  | .returnStmt value _ _, lists, more, h => by
      rw [Stmt.evaluated] at h ⊢
      obtain ⟨ops, rfl, hops⟩ := h.one
      have htake := takeTyped_cons hops 3 (exprStart value) (exprEnd value) 0 0 more
      refine ⟨.ret (typedExpr 3 (exprStart value) (exprEnd value) 0 0 ops), ?_, ?_, rfl⟩
      · simp [typeStmt, htake]
      · rw [TStmt.values]
        exact .one value 3 0 0 ops
  | .iterateStmt _ _ iterated ho _ _ ss se _ _ _ initial body _ _ nextValue s e, lists, more, h => by
      rw [Stmt.evaluated] at h ⊢
      obtain ⟨front, behind, rfl, hfront, hbehind⟩ := h.split
      obtain ⟨ops, others, rfl, hops, hothers⟩ := hbehind.head
      obtain ⟨inner, last, rfl, hinner, hlast⟩ := hothers.split
      obtain ⟨opsNext, rfl, hopsNext⟩ := hlast.one
      obtain ⟨source, hsource, hsourceA⟩ := takeSource_attaches s e hfront (ops :: (inner ++ ([opsNext] ++ more)))
      obtain ⟨stmts, hstmts, hstmtsA, -⟩ := typeStmts_attaches body inner ([opsNext] ++ more) hinner
      have hinitial := takeTyped_cons hops 5 (exprStart initial) (exprEnd initial) ss se (inner ++ ([opsNext] ++ more))
      have hnext := takeTyped_cons hopsNext 6 (exprStart nextValue) (exprEnd nextValue) ss se more
      refine ⟨.loop source (typedExpr 5 (exprStart initial) (exprEnd initial) ss se ops) stmts
        (typedExpr 6 (exprStart nextValue) (exprEnd nextValue) ss se opsNext) s e, ?_, ?_, rfl⟩
      · rw [List.append_assoc, List.cons_append, List.append_assoc]
        rw [List.singleton_append] at hsource hstmts hinitial ⊢
        simp [typeStmt, hsource, hinitial, hstmts, hnext]
      · rw [TStmt.values]
        exact hsourceA.append
          ((Attaches.one initial 5 ss se ops).append (hstmtsA.append (.one nextValue 6 ss se opsNext)))

/-- Statements take one list for each of their expressions. -/
theorem typeStmts_attaches : ∀ (stmts : List Stmt) (lists more : List (List α)), Supplies lists (evaluatedAll stmts) →
    ∃ xs, typeStmts stmts (lists ++ more) = some (xs, more) ∧ Attaches (evaluatedAll stmts) lists (valuesAll xs) ∧
      endsClosed xs = leftAfter false stmts
  | [], lists, more, h => by
      rw [evaluatedAll] at h ⊢
      rw [h.none]
      refine ⟨[], by simp [typeStmts], ?_, rfl⟩
      rw [valuesAll]
      exact .nil
  | stmt :: t, lists, more, h => by
      rw [evaluatedAll] at h ⊢
      obtain ⟨front, back, rfl, hfront, hback⟩ := h.split
      obtain ⟨x, hx, hxA, hleaves⟩ := typeStmt_attaches stmt front (back ++ more) hfront
      obtain ⟨xs, hxs, hxsA, hends⟩ := typeStmts_attaches t back more hback
      refine ⟨x :: xs, ?_, ?_, ?_⟩
      · rw [List.append_assoc]
        exact typeStmts_cons hx hxs
      · rw [valuesAll]
        exact hxA.append hxsA
      · have hlength := typeStmts_length hxs
        rw [endsClosed_cons, leftAfter_cons, hleaves, hends]
        congr 1
        rw [← List.length_eq_zero_iff, ← List.length_eq_zero_iff, hlength]

end

/-! ## Units -/

/-- A body whose end is reached takes one list more, for its tail. -/
theorem typeFunction_attaches {body : FnBody} {lists : List (List α)} (h : Supplies lists body.evaluated)
    (hleft : leftAfter false body.body = false) (more : List (List α)) :
    ∃ typed, typeFunction body (lists ++ more) = some (typed, more) ∧ Attaches body.evaluated lists typed.values := by
  rw [FnBody.evaluated] at h ⊢
  obtain ⟨front, back, rfl, hfront, hback⟩ := h.split
  obtain ⟨ops, rfl, hops⟩ := hback.one
  obtain ⟨stmts, hstmts, hstmtsA, hends⟩ := typeStmts_attaches body.body front ([ops] ++ more) hfront
  have htail := takeTyped_cons hops 3 (exprStart body.ret) (exprEnd body.ret) 0 0 more
  rw [hleft] at hends
  refine ⟨{ stmts := stmts, tail := some (typedExpr 3 (exprStart body.ret) (exprEnd body.ret) 0 0 ops) }, ?_, ?_⟩
  · rw [List.singleton_append] at hstmts
    simp [typeFunction, hstmts, hends, htail]
  · exact hstmtsA.append (.one body.ret 3 0 0 ops)

/-- Bodies take the lists of their expressions one after the other. -/
theorem typeFunctions_attaches {fns : List FnDecl} {lists : List (List (List α))}
    (h : List.Forall₂ (fun fn ls => Supplies ls fn.body.evaluated ∧ leftAfter false fn.body.body = false) fns lists)
    (more : List (List α)) :
    ∃ typed, typeFunctions fns (lists.flatten ++ more) = some (typed, more) ∧
      Attaches (fns.flatMap fun fn => fn.body.evaluated) lists.flatten (typed.flatMap TypedBody.values) := by
  induction h with
  | nil => exact ⟨[], rfl, .nil⟩
  | @cons fn ls fns lists hfn _ ih =>
      obtain ⟨others, hothers, hothersA⟩ := ih
      obtain ⟨typed, htyped, htypedA⟩ := typeFunction_attaches hfn.1 hfn.2 (lists.flatten ++ more)
      refine ⟨typed :: others, ?_, ?_⟩
      · rw [List.flatten_cons, List.append_assoc]
        simp [typeFunctions, htyped, hothers]
      · rw [List.flatten_cons, List.flatMap_cons, List.flatMap_cons]
        exact htypedA.append hothersA

theorem supplies_of_handed {src : Source} {w : StmtWalk} {es : List Expr} {lists : List (List TOp)}
    (h : List.Forall₂ (Handed src w) es lists) : Supplies lists es := by
  refine ⟨h.length_eq.symm, ?_⟩
  induction h with
  | nil => exact fun ops hops => absurd hops List.not_mem_nil
  | cons hhanded _ ih =>
      intro ops hops
      rcases List.mem_cons.mp hops with rfl | hops
      · obtain ⟨n, hhanded⟩ := hhanded
        exact hhanded.ne_nil
      · exact ih ops hops

section Lockstep

variable (src : Source) (u : Decl.Unit) (imported : List Sig) (nominals : List NominalTypeIdentity)
  (importedRecords : List ImportedRecordSchema) (importedEnums : List ImportedEnumSchema)

end Lockstep

/-- `f r bool true`. -/
def trueSource : Source :=
  { pages := [[102, 32, 114, 32, 98, 111, 111, 108, 32, 116, 114, 117, 101]], stride := 1024, total := 13 }

/-- A function that returns `true`. -/
def trueFn : FnDecl :=
  { ok := true, errStart := 0, errStop := 0
    sig :=
      { nameStart := 0, nameStop := 1, generics := [], params := []
        results := [{ nameStart := 2, nameStop := 3, typeStart := 4, typeStop := 8, typeKind := 3 }]
        contracts := [], effects := [], capabilities := [] }
    body := { body := [], ret := .boolean 9 13 true, hasRet := true }
    fnStart := 0, fnStop := 13, cursor := 13 }

def trueUnit : Decl.Unit :=
  { ok := true, errStart := 0, errStop := 0
    header :=
      { code := 0, start := 0, stop := 0, versionStart := 0, versionStop := 0, moduleStart := 0, moduleStop := 0
        nextOffset := 0, state := 8 }
    uses := [], records := [], enums := [], fns := [trueFn], cursor := 13 }

def trueWalk : BodyWalk := unitWalk trueSource trueUnit [] [] [] []

def trueProof : UnitProve := proveParsedUnitWithImportedSchemas trueSource trueUnit [] [] [] []

set_option maxRecDepth 10000 in
theorem trueFn_proof :
    let w := bodyWalk trueSource trueWalk trueFn
    (w.proof trueSource trueFn.body.ret (.xSome w.sig.result)).ok = true ∧
      (w.proof trueSource trueFn.body.ret (.xSome w.sig.result)).tops.isEmpty = false := by
  -- the loops are put in their short form before the source and the unit are known
  suffices h : ∀ src u, src = trueSource → u = trueUnit → ∀ w, w = bodyWalk src (unitWalk src u [] [] [] []) trueFn →
      (w.proof src trueFn.body.ret (.xSome w.sig.result)).ok = true ∧
        (w.proof src trueFn.body.ret (.xSome w.sig.result)).tops.isEmpty = false from h _ _ rfl rfl _ rfl
  intro src u hsrc hu w hw
  simp only [↓iterate_eq_run, bodyWalk, unitWalk, unitSigs, collectSigtab, collectSigtabChunk, collectSigtabStep,
    collectOneSig, checkSig, checkParams, checkResults, checkResultsStep, checkOneResult, finishResults, checkCaps,
    checkEffects, reverseEffects, checkContracts, oblOnlyTypes, oblFilterTypes, reverseObls, reverseWithin_eq,
    appendObls_eq, mergeSigTables, bindLocalCallableIdentities, bindLocalCallableIdentityChunk,
    bindLocalCallableIdentity, bindLocalCallableSig, bindCallableSignature, canonicalEffectIdentities,
    canonicalCapabilityIdentities] at hw
  simp only [↓iterate_eq_run, StmtWalk.proof, proveExprWithImportedSchemas, finishProveExpr, reverseObls, reverseTops,
    reverseWithin_eq]
  subst hsrc hu hw
  decide +kernel

theorem trueFn_loud : FnLoud trueSource trueWalk trueFn := by
  obtain ⟨hok, htops⟩ := trueFn_proof
  exact .of_tail rfl (.inr ⟨hok, List.isEmpty_eq_false_iff.mp htops, fun hwant => by cases hwant⟩)

set_option maxRecDepth 10000 in
theorem trueProof_accepted : trueProof.ok = true ∧ trueProof.obls.length < 1024 ∧ trueProof.tops.length < 1024 := by
  suffices h : ∀ src u, src = trueSource → u = trueUnit →
      let proof := proveParsedUnitWithImportedSchemas src u [] [] [] []
      proof.ok = true ∧ proof.obls.length < 1024 ∧ proof.tops.length < 1024 from h _ _ rfl rfl
  intro src u hsrc hu
  simp only [↓iterate_eq_run, proveParsedUnitWithImportedSchemas, collectSigtab, collectSigtabChunk, collectSigtabStep,
    collectOneSig, checkSig, checkParams, checkParamsStep, checkOneParam, checkResults, checkResultsStep,
    checkOneResult, finishResults, checkCaps, checkEffects, reverseEffects, checkContracts, oblOnlyTypes,
    oblFilterTypes, proveBodies, proveBodiesStep, proveOneBody, sigRestObls, checkGenericBoundObls, oblOnlyKind,
    proveFnWithImportedSchemas, fieldTypeObls, fieldOblsStep, fieldOblsCons, countResultsFields, topslistReverse_eq,
    appendTopslist_eq, reverseObls, reverseNames, collectFnNames, duplicateFnNames, reverseWithin_eq, appendObls_eq,
    mergeSigTables, oblHasFail, proveStmts, proveTail, bindLocalCallableIdentities, bindLocalCallableIdentityChunk,
    bindLocalCallableIdentity, bindLocalCallableSig, bindCallableSignature, canonicalEffectIdentities,
    canonicalCapabilityIdentities]
  unfold proveReturnVal
  simp only [proveReturnExpr, proveExprWithImportedSchemas, ↓iterate_eq_run, finishProveExpr, reverseObls, reverseTops,
    reverseWithin_eq, verifyTops, appendObls_eq]
  subst hsrc hu
  decide +kernel

end MncsCompiler.Flow
