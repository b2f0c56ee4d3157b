import MncsCompiler.Flow.Facts
import MncsCompiler.Flow.Preserve

/-!
# `Flow.Meaning` — the meaning of a lowered unit

The operation lists of a proof are one list for the whole unit. Read in program order they type the bodies of its
functions one after the other (`typeFunctions`), each body leaving what it does not use to the bodies behind it. A unit
is lowered to a valid form only when its lists type all its bodies and nothing is left, and then every graph behaves as
its typed body does.
-/

namespace MncsCompiler.Flow

open BoundedLoop Decl Simulation

variable {α : Type}

/-! ## Typing a unit -/

/-- The typed body of a function, and the operation lists that it leaves. -/
def typeFunction (body : FnBody) (tops : List (List α)) : Option (TypedBody α × List (List α)) := do
  let (stmts, tops) ← typeStmts body.body tops
  if endsClosed stmts then return ({ stmts := stmts, tail := none }, tops)
  else
    let (x, tops) ← takeTyped 3 (exprStart body.ret) (exprEnd body.ret) 0 0 tops
    return ({ stmts := stmts, tail := some x }, tops)

/-- The typed bodies of functions in order, and what they leave. -/
def typeFunctions : List FnDecl → List (List α) → Option (List (TypedBody α) × List (List α))
  | [], tops => some ([], tops)
  | h :: t, tops => do
      let (typed, tops) ← typeFunction h.body tops
      let (others, tops) ← typeFunctions t tops
      return (typed :: others, tops)

theorem typeBody_eq (body : FnBody) (tops : List (List α)) :
    typeBody body tops = (typeFunction body tops).map Prod.fst := by
  unfold typeBody typeFunction
  cases typeStmts body.body tops with
  | none => rfl
  | some typed =>
      obtain ⟨stmts, rest⟩ := typed
      by_cases hclosed : endsClosed stmts = true
      · simp [hclosed]
      · cases htail : takeTyped 3 (exprStart body.ret) (exprEnd body.ret) 0 0 rest <;> simp [hclosed, htail]

/-- One function more. -/
theorem typeFunctions_append {fns : List FnDecl} {tops rest rest' : List (List α)} {typed : List (TypedBody α)}
    {last : TypedBody α} {h : FnDecl} (htyped : typeFunctions fns tops = some (typed, rest))
    (hlast : typeFunction h.body rest = some (last, rest')) :
    typeFunctions (fns ++ [h]) tops = some (typed ++ [last], rest') := by
  induction fns generalizing tops typed with
  | nil =>
      obtain ⟨rfl, rfl⟩ : typed = [] ∧ rest = tops := by simpa [typeFunctions, eq_comm] using htyped
      simp [typeFunctions, hlast]
  | cons fn fns ih =>
      simp only [typeFunctions, Option.bind_eq_bind, Option.bind_eq_some_iff, Prod.exists, Option.pure_def,
        Option.some.injEq, Prod.mk.injEq] at htyped
      obtain ⟨first, tops', hfirst, others, rest'', hothers, rfl, rfl⟩ := htyped
      simp [typeFunctions, hfirst, ih hothers]

/-! ## Functions -/

/-- A graph behaves as a typed body does: whatever is chosen, both evaluate the same expressions in the same order and
    end in the same way, and the graph never ends in the middle. -/
def Runs (typed : TypedBody α) (flow : FunctionFlow α) : Prop :=
  ∀ oracle : Oracle α,
    Same (exec oracle typed.tail) (execGraph oracle flow.blocks) Config.ending GConfig.ending Config.events
        GConfig.events (.run typed.stmts [] []) (.block 0 []) ∧
      ∀ m, ((execGraph oracle flow.blocks)^[m] (.block 0 [])).ending ≠ some none

section Walk

variable {pages : List View} {stride total : Nat}

/-- A walk that ends in order has typed the body and leaves the operation lists behind it. -/
theorem body_typed {w st : Build α} {body : FnBody} (h : Reaches pages stride total 1024 st w) (hdone : st.done = false)
    (hcurrent : st.current = emptyBlock 0 true false) (hframes : st.frames = []) (hrest : st.rest = body.body)
    (htail : st.tail = body.ret) :
    ∃ typed, typeFunction body st.typedRest = some (typed, w.typedRest) := by
  obtain ⟨m, st', stmts, -, hr, hseg⟩ := segments 1024 st h hdone (by rw [hcurrent]; rfl)
  have htyped := hseg.typed
  have hclosed := hseg.closed
  rw [hrest] at htyped
  obtain ⟨k, rfl, -, -, hmove, -⟩ := hr.step hseg.done
  have hstay : (Flow.step pages stride total st').done = true → w = Flow.step pages stride total st' := by
    intro hend
    have hrun := hr.run
    rw [Function.iterate_succ_apply, Function.iterate_fixed (step_of_done hend)] at hrun
    exact hrun.symm
  generalize Flow.step pages stride total st' = last at hmove hstay
  have hno : ∀ {f : FlowFrame} {tail : List FlowFrame}, st'.frames ≠ f :: tail := by
    intro f tail
    rw [hseg.frames, hframes]
    exact (List.cons_ne_nil f tail).symm
  cases hmove with
  | @tail x rest _ _ hhas hopen htakes hatt =>
      rw [hseg.tail.1, htail] at htakes
      have hw := finishTail_of_open hhas hopen hatt
      rw [hw] at hstay
      have hw := hstay rfl
      subst hw
      refine ⟨{ stmts := stmts, tail := some x }, ?_⟩
      have hx := takeTyped_of_takes htakes
      simp [typeFunction, htyped, hclosed, hopen, hx, Build.attach]
  | closed _ _ hhas hkind =>
      rw [finishTail_of_closed hhas hkind] at hstay
      have hw := hstay rfl
      subst hw
      exact ⟨{ stmts := stmts, tail := none }, by simp [typeFunction, htyped, hclosed, hkind]⟩
  | letStmt h => cases hseg.rest.symm.trans h
  | ifStmt h => cases hseg.rest.symm.trans h
  | failStmt h => cases hseg.rest.symm.trans h
  | returnStmt h => cases hseg.rest.symm.trans h
  | iterateStmt h => cases hseg.rest.symm.trans h
  | backedge _ h => exact absurd h hno
  | sink _ h => exact absurd h hno
  | thenEnd _ h => exact absurd h hno
  | elseEnd _ h => exact absurd h hno

/-- The graph of a function, when it is verified: the operation lists type the body, the graph is well formed and
    behaves as the typed body, and what the body leaves is what the walk leaves. -/
theorem functionFlow_runs {st : FnWalk α} {h : FnDecl} :
    let finished := finishBuild (walk pages stride total (initialBuild total st h))
    (functionFlow h finished).verified = true →
      ∃ typed, typeFunction h.body st.typedRest = some (typed, finished.typedRest) ∧
        Runs typed (functionFlow h finished) ∧
        WellFormedGraph (functionFlow h finished) := by
  intro finished hv
  have hflow := functionFlow_fromWalk walk_inv hv
  have hreaches : Reaches pages stride total 1024 (initialBuild total st h)
      (walk pages stride total (initialBuild total st h)) :=
    ⟨rfl, hflow.ok, hflow.done, Nat.le_refl 1024, fun _ => Nat.le_of_eq (Nat.zero_add 1024)⟩
  have hfinished : finished = walk pages stride total (initialBuild total st h) := if_pos hflow.done
  obtain ⟨typed, htyped⟩ := body_typed hreaches rfl rfl rfl rfl rfl
  obtain ⟨other, live, hother, hcode⟩ := body_code hreaches rfl rfl rfl rfl rfl
  -- both have typed the same body
  have hsame : some other = some typed := by
    rw [← hother, typeBody_eq, htyped]
    rfl
  obtain rfl := Option.some.inj hsame
  have hsub : (walk pages stride total (initialBuild total st h)).blocks ⊆ (functionFlow h finished).blocks := by
    rw [hflow.blocks]
    intro b hb
    exact List.mem_reverse.mpr hb
  have hnodup := hflow.wellFormed.ids.nodup_iff.mpr List.nodup_range
  refine ⟨other, ?_, fun oracle => (hcode _ hsub).same hnodup oracle, hflow.wellFormed⟩
  rw [hfinished]
  exact htyped

end Walk

/-! ## Units -/

section Units

variable {src : Source}

/-- The functions lowered so far are typed by the operation lists taken so far, and their graphs behave as they do. -/
structure Means (fns : List FnDecl) (tops : List (List α)) (d : FnWalk α) (typed : List (TypedBody α)) : Prop where
  bodies : ∃ done, done ++ d.rest = fns ∧ typeFunctions done tops = some (typed, d.typedRest)
  runs : List.Forall₂ Runs typed d.acc.reverse
  wellFormed : ∀ flow ∈ d.acc, WellFormedGraph flow

/-- The functions lowered so far mean what their typed bodies mean, as long as every graph is verified. -/
def UnitMeans (fns : List FnDecl) (tops : List (List α)) (d : FnWalk α) : Prop :=
  d.ok = true → ∃ typed, Means fns tops d typed

theorem UnitMeans.after {fns : List FnDecl} {tops : List (List α)} {d : FnWalk α} {finished : Build α} {h : FnDecl}
    {t : List FnDecl} (hd : UnitMeans fns tops d) (hrest : d.rest = h :: t)
    (hfunction : (functionFlow h finished).verified = true → ∃ typed,
      typeFunction h.body d.typedRest = some (typed, finished.typedRest) ∧ Runs typed (functionFlow h finished) ∧
        WellFormedGraph (functionFlow h finished)) :
    UnitMeans fns tops (d.after h t finished) := by
  intro hok
  simp only [FnWalk.after, Bool.and_eq_true] at hok
  obtain ⟨typed, ⟨done, hdone, htyped⟩, hruns, hgraphs⟩ := hd hok.1
  obtain ⟨last, hlast, hlastRuns, hlastGraph⟩ := hfunction hok.2
  refine ⟨typed ++ [last], ⟨done ++ [h], ?_, typeFunctions_append htyped hlast⟩, ?_, ?_⟩
  · rw [← hdone, hrest, List.append_assoc]
    rfl
  · simp only [FnWalk.after, List.reverse_cons]
    exact List.rel_append hruns (.cons hlastRuns .nil)
  · intro flow hflow
    simp only [FnWalk.after, List.mem_cons] at hflow
    rcases hflow with rfl | hflow
    · exact hlastGraph
    · exact hgraphs flow hflow

theorem UnitMeans.step {fns : List FnDecl} {tops : List (List α)} {d : FnWalk α} (hd : UnitMeans fns tops d) :
    UnitMeans fns tops (lowerFnStep src d) := by
  unfold lowerFnStep
  split
  · exact hd
  · next h t hrest => exact hd.after hrest functionFlow_runs

theorem lowerFunctions_means (fns : List FnDecl) (tops : List (List TOp)) (functionCount : Nat) :
    UnitMeans fns tops (lowerFunctions src fns tops functionCount) := by
  rw [lowerFunctions_eq]
  apply Function.Iterate.rec (UnitMeans fns tops)
  · exact fun _ => ⟨[], ⟨[], rfl, rfl⟩, .nil, fun flow hflow => absurd hflow List.not_mem_nil⟩
  · intro d hd
    unfold settle
    split
    · exact hd
    · exact hd.step

end Units

/-- What a valid unit has established: its operation lists type the bodies of all its functions in program order and
    nothing is left, and the graphs are well formed and behave as the typed bodies, function by function. -/
structure UnitLowered (proof : UnitProve) (lowered : LoweredUnit) (typed : List (TypedBody TOp)) : Prop where
  bodies : typeFunctions proof.unit.fns proof.tops = some (typed, [])
  runs : List.Forall₂ Runs typed lowered.functions
  wellFormed : ∀ flow ∈ lowered.functions, WellFormedGraph flow

theorem lowerProvenUnit_lowered {src : Source} {proof : UnitProve} (hvalid : (lowerProvenUnit src proof).valid = true) :
    ∃ typed, UnitLowered proof (lowerProvenUnit src proof) typed := by
  unfold lowerProvenUnit at hvalid ⊢
  split at hvalid
  · cases hvalid
  · next hproof =>
      rw [if_neg hproof]
      simp only [Bool.and_eq_true, decide_eq_true_eq, List.isEmpty_iff] at hvalid
      obtain ⟨⟨⟨⟨hok, -⟩, hnone⟩, htyped⟩, -⟩ := hvalid
      obtain ⟨typed, ⟨done, hdone, hbodies⟩, hruns, hgraphs⟩ :=
        lowerFunctions_means proof.unit.fns proof.tops proof.fnCount hok
      obtain ⟨hlowered, hbound⟩ := @lowerFunctions_lowered src proof.unit.fns proof.tops proof.fnCount
      rw [hnone, List.append_nil] at hdone
      rw [hdone, htyped] at hbodies
      refine ⟨typed, hbodies, ?_, ?_⟩
      · dsimp only
        rw [hlowered.count, reverseFunctions_eq (Nat.le_refl _) hbound]
        exact hruns
      · intro flow hflow
        dsimp only at hflow
        rw [hlowered.count, reverseFunctions_eq (Nat.le_refl _) hbound] at hflow
        exact hgraphs flow (List.mem_reverse.mp hflow)

/-- **A valid unit means what its bodies mean**: the operation lists of the proof type all bodies in program order, with
    none left, and for every function and all choices the graph evaluates what the body evaluates. -/
theorem lowerProvenUnit_preserves (src : Source) (proof : UnitProve)
    (hvalid : (lowerProvenUnit src proof).valid = true) :
    ∃ typed, typeFunctions proof.unit.fns proof.tops = some (typed, []) ∧
      List.Forall₂ Runs typed (lowerProvenUnit src proof).functions ∧
        ∀ flow ∈ (lowerProvenUnit src proof).functions, WellFormedGraph flow := by
  obtain ⟨typed, hbodies, hruns, hgraphs⟩ := lowerProvenUnit_lowered hvalid
  exact ⟨typed, hbodies, hruns, hgraphs⟩

theorem lowerProvenUnit_preserves_sink :
    ∃ typed, typeFunctions sinkProof.unit.fns sinkProof.tops = some (typed, []) ∧
      List.Forall₂ Runs typed (lowerProvenUnit { pages := [], stride := 1024, total := 0 } sinkProof).functions ∧
        ∀ flow ∈ (lowerProvenUnit { pages := [], stride := 1024, total := 0 } sinkProof).functions,
          WellFormedGraph flow :=
  lowerProvenUnit_preserves _ sinkProof sinkProof_lowers

end MncsCompiler.Flow
