import MncsCompiler.Flow.Blocks
import MncsCompiler.Flow.Units

/-!
# `Flow.LoopFree` — bodies without loops, and the graphs of a unit

The graph of a body without a loop has no block with a part in one (`LoweredFrom.role_eq_zero`). `lower_proven_unit`
lists the graphs of the functions in order (`lowerProvenUnit_functions`), where `ssa_function_at` finds them.
-/

namespace MncsCompiler.Flow

open BoundedLoop Decl

variable {α : Type}

/-- Statements without a loop, at any depth. -/
inductive LoopFree : List Stmt → Prop
  | nil : LoopFree []
  | letStmt {nameStart nameStop a b c value s e t} (ht : LoopFree t) :
      LoopFree (.letStmt nameStart nameStop a b c value s e :: t)
  | ifStmt {cond thenB elseB s e t} (hthen : LoopFree thenB) (helse : LoopFree elseB) (ht : LoopFree t) :
      LoopFree (.ifStmt cond thenB elseB s e :: t)
  | failStmt {a b s e t} (ht : LoopFree t) : LoopFree (.failStmt a b s e :: t)
  | returnStmt {value s e t} (ht : LoopFree t) : LoopFree (.returnStmt value s e :: t)

/-- A walk that has met no loop and will meet none. -/
structure Straight (st : Build α) : Prop where
  rest : LoopFree st.rest
  frames : ∀ f ∈ st.frames, f.kind = 0 ∧ LoopFree f.next ∧ LoopFree f.elseBody
  current : st.current.iteration.role = 0
  blocks : ∀ b ∈ st.blocks, b.iteration.role = 0
  next : 0 < st.nextId

section Walk

variable {pages : List View} {stride total : Nat}

theorem closeToJoin_straight {st : Build α} (joinId : Nat) (hcurrent : st.current.iteration.role = 0)
    (hblocks : ∀ b ∈ st.blocks, b.iteration.role = 0) :
    (∀ b ∈ (closeToJoin st joinId).blocks, b.iteration.role = 0) ∧ (closeToJoin st joinId).nextId = st.nextId := by
  unfold closeToJoin
  split
  · exact ⟨hblocks, rfl⟩
  · exact ⟨List.forall_mem_cons.mpr ⟨hcurrent, hblocks⟩, rfl⟩

theorem Moves.straight {st st' : Build α} (h : Moves pages stride total st st') (hst : Straight st) :
    Straight st' := by
  obtain ⟨hfree, hframes, hcurrent, hblocks, hnext⟩ := hst
  cases h with
  | letStmt hrest _ _ hatt =>
      rw [hrest] at hfree
      cases hfree with
      | letStmt ht =>
          unfold addLet
          rw [hatt]
          exact ⟨ht, hframes, hcurrent, hblocks, hnext⟩
  | ifStmt hrest _ _ hatt =>
      rw [hrest] at hfree
      cases hfree with
      | ifStmt hthen helse ht =>
          unfold addBranch
          rw [hatt]
          refine ⟨hthen, ?_, rfl, ?_, Nat.succ_pos _⟩
          · exact List.forall_mem_cons.mpr ⟨⟨rfl, ht, helse⟩, hframes⟩
          · exact List.forall_mem_cons.mpr ⟨hcurrent, hblocks⟩
  | failStmt hrest _ =>
      rw [hrest] at hfree
      cases hfree with
      | failStmt ht =>
          refine ⟨ht, hframes, hcurrent, ?_, hnext⟩
          exact List.forall_mem_cons.mpr ⟨hcurrent, hblocks⟩
  | returnStmt hrest _ _ hatt =>
      rw [hrest] at hfree
      cases hfree with
      | returnStmt ht =>
          unfold addReturn
          rw [hatt]
          refine ⟨ht, hframes, hcurrent, ?_, hnext⟩
          exact List.forall_mem_cons.mpr ⟨hcurrent, hblocks⟩
  | iterateStmt hrest _ _ _ _ _ =>
      rw [hrest] at hfree
      cases hfree
  | backedge _ hf hkind _ _ _ =>
      -- no enclosing statement is a loop
      have hif := (hframes _ (hf ▸ List.mem_cons_self)).1
      omega
  | sink _ hf hkind _ _ _ =>
      have hif := (hframes _ (hf ▸ List.mem_cons_self)).1
      omega
  | @thenEnd f tail _ hf _ _ =>
      rw [hf] at hframes
      obtain ⟨⟨hkind, hthen, helse⟩, htail⟩ := List.forall_mem_cons.mp hframes
      obtain ⟨hclosed, hid⟩ := closeToJoin_straight f.joinId hcurrent hblocks
      exact ⟨helse, List.forall_mem_cons.mpr ⟨⟨hkind, hthen, helse⟩, htail⟩, rfl, hclosed, hid ▸ hnext⟩
  | @elseEnd f tail _ hf _ _ =>
      rw [hf] at hframes
      obtain ⟨⟨-, hthen, -⟩, htail⟩ := List.forall_mem_cons.mp hframes
      obtain ⟨hclosed, hid⟩ := closeToJoin_straight f.joinId hcurrent hblocks
      exact ⟨hthen, htail, rfl, hclosed, hid ▸ hnext⟩
  | tail _ _ htail hopen _ hatt =>
      rw [finishTail_of_open htail hopen hatt]
      refine ⟨hfree, hframes, hcurrent, ?_, hnext⟩
      exact List.forall_mem_cons.mpr ⟨hcurrent, hblocks⟩
  | closed _ _ htail hclosed =>
      rw [finishTail_of_closed htail hclosed]
      exact ⟨hfree, hframes, hcurrent, hblocks, hnext⟩

theorem walk_straight {st : FnWalk α} {h : FnDecl} (hfree : LoopFree h.body.body)
    (hok : (walk pages stride total (initialBuild total st h)).ok = true) :
    Straight (walk pages stride total (initialBuild total st h)) := by
  unfold walk at hok ⊢
  refine steps_invariant (fun _ _ _ hmove => hmove.straight) ?_ 1024 hok
  exact ⟨hfree, fun _ hf => (List.not_mem_nil hf).elim, rfl, fun _ hb => (List.not_mem_nil hb).elim, Nat.zero_lt_one⟩

end Walk

/-! ## The graphs of a unit -/

/-- The graph that lowering makes of a function, wherever it stands in its unit. -/
def LoweredFrom (src : Source) (h : FnDecl) (cfg : FunctionFlow TOp) : Prop :=
  ∃ st : FnWalk TOp,
    cfg = functionFlow h (finishBuild (walk src.pages src.stride src.total (initialBuild src.total st h)))

section Units

variable {src : Source} {h : FnDecl} {cfg : FunctionFlow TOp}

theorem LoweredFrom.blocks_length (hcfg : LoweredFrom src h cfg) : cfg.blocks.length = cfg.blockCount := by
  obtain ⟨st, rfl⟩ := hcfg
  simp [functionFlow, blockCount, countWithin_eq, reverseBlocks, reverseWithin_eq]

/-- **The graph of a body without a loop.** -/
theorem LoweredFrom.role_eq_zero (hcfg : LoweredFrom src h cfg) (hfree : LoopFree h.body.body)
    (hverified : cfg.verified = true) : 0 < cfg.blockCount ∧ ∀ b ∈ cfg.blocks, b.iteration.role = 0 := by
  obtain ⟨st, rfl⟩ := hcfg
  have hflow := functionFlow_fromWalk walk_inv hverified
  have hstraight := walk_straight hfree hflow.ok
  rw [hflow.count, hflow.blocks]
  refine ⟨hstraight.next, fun b hb => hstraight.blocks b (List.mem_reverse.mp hb)⟩

theorem LoweredFrom.ids_perm (hcfg : LoweredFrom src h cfg) (hverified : cfg.verified = true) :
    (cfg.blocks.map Block.id).Perm (List.range cfg.blockCount) := by
  obtain ⟨st, rfl⟩ := hcfg
  have hflow := functionFlow_fromWalk walk_inv hverified
  rw [hflow.count, hflow.blocks, List.map_reverse]
  exact (List.reverse_perm _).trans (hflow.inv.listed_perm hflow.done)

/-- What the loop over the functions has done. -/
structure Lowered (src : Source) (fns : List FnDecl) (limit : Nat) (d : FnWalk TOp) : Prop where
  count : d.functionCount = d.acc.length
  limit : d.acc.length ≤ limit
  rest : d.rest = fns.drop d.acc.length
  graphs : ∀ (k : Nat) (cfg : FunctionFlow TOp), d.acc.reverse[k]? = some cfg →
    ∃ h, fns[k]? = some h ∧ LoweredFrom src h cfg

theorem Lowered.step {fns : List FnDecl} {limit : Nat} {d : FnWalk TOp} (hd : Lowered src fns limit d)
    (hlimit : d.functionCount < limit) (hrest : d.rest ≠ []) : Lowered src fns limit (lowerFnStep src d) := by
  obtain ⟨hcount, -, hdrop, hgraphs⟩ := hd
  obtain ⟨h, t, hcons⟩ := List.exists_cons_of_ne_nil hrest
  have hstep : lowerFnStep src d = lowerOneFn src.pages src.stride src.total d h t := by rw [lowerFnStep, hcons]
  rw [hstep]
  rw [hcons] at hdrop
  have hnth : fns[d.acc.length]? = some h := by
    rw [← List.head?_drop, ← hdrop, List.head?_cons]
  have htail : t = fns.drop (d.acc.length + 1) := by
    rw [← List.tail_drop, ← hdrop, List.tail_cons]
  constructor
  · exact congrArg (· + 1) hcount
  · show d.acc.length + 1 ≤ limit
    omega
  · exact htail
  · intro k cfg hk
    change (_ :: d.acc).reverse[k]? = some cfg at hk
    rw [List.reverse_cons] at hk
    by_cases hlt : k < d.acc.length
    · rw [List.getElem?_append_left (by rwa [List.length_reverse])] at hk
      exact hgraphs k cfg hk
    · rw [List.getElem?_append_right (by rw [List.length_reverse]; omega), List.length_reverse,
        List.getElem?_singleton] at hk
      split at hk
      · next hlast =>
          rw [← Option.some.inj hk, show k = d.acc.length by omega]
          exact ⟨h, hnth, d, rfl⟩
      · cases hk

theorem lowerFunctions_lowered {fns : List FnDecl} {tops : List (List TOp)} {limit : Nat} :
    Lowered src fns limit (lowerFunctions src fns tops limit) ∧
      (lowerFunctions src fns tops limit).acc.length ≤ 1024 := by
  have hloop : ∀ n i (d : FnWalk TOp), Lowered src fns limit d →
      Lowered src fns limit ((iterate (fun _ (d : FnWalk TOp) =>
          if d.functionCount ≥ limit || d.rest.isEmpty then .ret d
          else .next (lowerFnStep src d)) i n d).after fun d => d) ∧
        ((iterate (fun _ (d : FnWalk TOp) =>
          if d.functionCount ≥ limit || d.rest.isEmpty then .ret d
          else .next (lowerFnStep src d)) i n d).after fun d => d).acc.length ≤ d.acc.length + n := by
    intro n
    induction n with
    | zero => exact fun _ d hd => ⟨hd, Nat.le_refl _⟩
    | succ n ih =>
        intro i d hd
        rw [iterate_succ]
        split
        · exact ⟨hd, Nat.le_add_right _ _⟩
        · next hgo =>
            simp only [ge_iff_le, Bool.or_eq_true, decide_eq_true_eq, List.isEmpty_iff, not_or, Nat.not_le] at hgo
            have hstep := hd.step hgo.1 hgo.2
            have hlength : (lowerFnStep src d).acc.length = d.acc.length + 1 := by
              obtain ⟨h, t, hcons⟩ := List.exists_cons_of_ne_nil hgo.2
              rw [lowerFnStep, hcons]
              rfl
            obtain ⟨hlowered, hbound⟩ := ih (i + 1) _ hstep
            rw [hlength] at hbound
            exact ⟨hlowered, by rw [Pass.bind_next]; omega⟩
  obtain ⟨hlowered, hbound⟩ := hloop 1024 0
    { rest := fns, typedRest := tops, acc := [], diagnostics := [], blockCount := 0, functionCount := 0, ok := true }
    ⟨rfl, Nat.zero_le _, rfl, fun k cfg hk => by simp at hk⟩
  exact ⟨hlowered, hbound⟩

theorem reverseFunctions_eq {list : List (FunctionFlow α)} {n : Nat} (hn : list.length ≤ n)
    (hlist : list.length ≤ 1024) : reverseFunctions list n = list.reverse := by
  have hfold := @Sweep.iterate_limited (FunctionFlow α) _ (fun acc h => h :: acc) n 1024 0 { rest := list, acc := [] }
    hlist (by simpa using hn)
  rw [reverseFunctions, hfold, List.foldl_flip_cons_eq_append', List.append_nil]

theorem ssaFunctionAt_eq {lowered : LoweredUnit} {k : Nat} (hk : lowered.functions[k]? = some cfg)
    (hcount : lowered.functions.length ≤ lowered.proof.fnCount) (hlist : lowered.functions.length ≤ 1024) :
    ssaFunctionAt lowered k = cfg := by
  have hloop : ∀ m i j (l : List (FunctionFlow TOp)) (held : FunctionFlow TOp), l.length ≤ m →
      j + l.length ≤ lowered.proof.fnCount → j ≤ k → l[k - j]? = some cfg →
      (iterate (fun _ (st : SsaFunctionLookup) =>
          if st.found || st.rest.isEmpty || st.index ≥ lowered.proof.fnCount then .ret st.function
          else .next (ssaFunctionLookupStep st)) i m
        { rest := l, index := j, wanted := k, found := false, function := held }).after (fun st => st.function) =
        cfg := by
    intro m
    induction m with
    | zero =>
        intro i j l held hl _ _ hcfg
        obtain rfl := List.eq_nil_of_length_eq_zero (Nat.le_zero.mp hl)
        simp at hcfg
    | succ m ih =>
        intro i j l held hl hj hjk hcfg
        cases l with
        | nil => simp at hcfg
        | cons h t =>
            rw [List.length_cons] at hl hj
            rw [iterate_succ, if_neg (by simp; omega), Pass.bind_next]
            by_cases hhere : j = k
            · -- found: the next pass, or the end of the loop, answers with it
              subst hhere
              rw [Nat.sub_self, List.getElem?_cons_zero] at hcfg
              have hstep : ssaFunctionLookupStep ⟨h :: t, j, j, false, held⟩ = ⟨t, j + 1, j, true, h⟩ := by
                simp [ssaFunctionLookupStep]
              rw [hstep, ← Option.some.inj hcfg]
              cases m <;> rfl
            · have hstep : ssaFunctionLookupStep ⟨h :: t, j, k, false, held⟩ = ⟨t, j + 1, k, false, h⟩ := by
                simp [ssaFunctionLookupStep, hhere]
              rw [hstep]
              apply ih _ _ _ _ (by omega) (by omega) (by omega)
              rwa [show k - j = k - (j + 1) + 1 by omega, List.getElem?_cons_succ] at hcfg
  exact hloop 1024 0 0 lowered.functions _ hlist (by omega) (Nat.zero_le k) hk

/-- **The graphs of a unit** are those of its functions, in order. -/
theorem lowerProvenUnit_functions {proof : UnitProve} {k : Nat}
    (hk : (lowerProvenUnit src proof).functions[k]? = some cfg) :
    (k < proof.fnCount ∧ k < 1024) ∧ (∃ h, proof.unit.fns[k]? = some h ∧ LoweredFrom src h cfg) ∧
      ssaFunctionAt (lowerProvenUnit src proof) k = cfg := by
  have hproof : (lowerProvenUnit src proof).proof = proof := by
    unfold lowerProvenUnit
    split <;> rfl
  cases hok : proof.ok with
  | false => simp [lowerProvenUnit, hok] at hk
  | true =>
      obtain ⟨hlowered, hbound⟩ :=
        @lowerFunctions_lowered src proof.unit.fns proof.tops proof.fnCount
      have hfunctions : (lowerProvenUnit src proof).functions =
          (lowerFunctions src proof.unit.fns proof.tops proof.fnCount).acc.reverse := by
        rw [lowerProvenUnit, if_neg (by simp [hok])]
        show reverseFunctions _ _ = _
        rw [hlowered.count, reverseFunctions_eq (Nat.le_refl _) hbound]
      have hlength : (lowerProvenUnit src proof).functions.length ≤ proof.fnCount := by
        rw [hfunctions, List.length_reverse]
        exact hlowered.limit
      have hlist : (lowerProvenUnit src proof).functions.length ≤ 1024 := by
        rw [hfunctions, List.length_reverse]
        exact hbound
      have hlt := (List.getElem?_eq_some_iff.mp hk).1
      refine ⟨⟨Nat.lt_of_lt_of_le hlt hlength, Nat.lt_of_lt_of_le hlt hlist⟩, ?_, ?_⟩
      · rw [hfunctions] at hk
        exact hlowered.graphs k cfg hk
      · apply ssaFunctionAt_eq hk _ hlist
        rw [hproof]
        exact hlength

end Units

end MncsCompiler.Flow
