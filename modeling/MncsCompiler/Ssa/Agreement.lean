import MncsCompiler.Decl.Evaluation
import MncsCompiler.Decl.Obligations
import MncsCompiler.Flow.LoopFree
import MncsCompiler.Ssa.Links
import MncsCompiler.Ssa.Run

/-!
# `Ssa.Agreement` — the two entry points of the verifier

`verify_function` looks up the source function of a record and checks its loop operations only when that function has
a loop; `verify_function_with_flow` always checks them, and the number of blocks with them. For a function without a
loop the two therefore part on records that the base checks accept and the graph does not
(`verifyFunction_agrees_iff`).
-/

namespace MncsCompiler.Ssa

open BoundedLoop Decl Flow Halting

/-! ## Loops of the source -/

/-- The statements that a scan has still to look at have no loop. -/
def SourceStatementScan.Clean (st : SourceStatementScan) : Prop := LoopFree st.current ∧ ∀ l ∈ st.pending, LoopFree l

theorem sourceStatementScanStep_clean {st : SourceStatementScan} (hfound : st.found = false)
    (hstep : (sourceStatementScanStep st).found = false ∧ (sourceStatementScanStep st).Clean) : st.Clean := by
  rw [sourceStatementScanStep, if_neg (by simp [hfound])] at hstep
  cases hcurrent : st.current with
  | nil =>
      simp only [hcurrent] at hstep
      rw [SourceStatementScan.Clean, hcurrent]
      cases hpending : st.pending with
      | nil => exact ⟨.nil, fun _ hl => (List.not_mem_nil hl).elim⟩
      | cons statements rest =>
          simp only [sourceStatementScanPop, hpending] at hstep
          exact ⟨.nil, List.forall_mem_cons.mpr hstep.2⟩
  | cons statement rest =>
      simp only [hcurrent] at hstep
      rw [SourceStatementScan.Clean, hcurrent]
      cases statement with
      | letStmt => exact ⟨.letStmt hstep.2.1, hstep.2.2⟩
      | failStmt => exact ⟨.failStmt hstep.2.1, hstep.2.2⟩
      | returnStmt => exact ⟨.returnStmt hstep.2.1, hstep.2.2⟩
      | ifStmt cond thenB elseB s e =>
          obtain ⟨-, hrest, hpending⟩ := hstep
          obtain ⟨hthen, hpending⟩ := List.forall_mem_cons.mp hpending
          obtain ⟨helse, hpending⟩ := List.forall_mem_cons.mp hpending
          exact ⟨.ifStmt hthen helse hrest, hpending⟩
      | iterateStmt => cases hstep.1

/-- The scan finds no loop only where there is none: it gives up on the side of a loop. -/
theorem loopFree_of_scan {statements : List Stmt} (h : sourceStatementsContainIteration statements = false) :
    LoopFree statements := by
  have hclean := iterate_post (k := fun st : SourceStatementScan =>
      st.found || !(st.current.isEmpty && st.pending.isEmpty))
    (fun _ (st : SourceStatementScan) r => r = false → st.found = false ∧ st.Clean) ?_ ?_ 0 1024
    { current := statements, pending := [], found := false } ?_ h
  · exact hclean.2.1
  · rintro j st r hret rfl
    split at hret
    · cases hret
    · next hfound =>
        split at hret
        · next hempty =>
            simp only [Bool.and_eq_true, List.isEmpty_iff] at hempty
            refine ⟨by simpa using hfound, ?_⟩
            rw [SourceStatementScan.Clean, hempty.1, hempty.2]
            exact ⟨.nil, fun _ hl => (List.not_mem_nil hl).elim⟩
        · cases hret
  · intro j st st' r hnext hpost hr
    split at hnext
    · cases hnext
    · next hfound =>
        split at hnext
        · cases hnext
        · cases hnext
          have hfound : st.found = false := by simpa using hfound
          exact ⟨hfound, sourceStatementScanStep_clean hfound (hpost hr)⟩
  · intro st hend
    simp only [Bool.or_eq_false_iff, Bool.not_eq_false', Bool.and_eq_true, List.isEmpty_iff] at hend
    refine ⟨hend.1, ?_⟩
    rw [SourceStatementScan.Clean, hend.2.1, hend.2.2]
    exact ⟨.nil, fun _ hl => (List.not_mem_nil hl).elim⟩

/-! ## The source function of a record -/

def functionIdentity (src : Source) (unit : Decl.Unit) (fn : FnDecl) : SemanticIdentity :=
  canonicalFunctionIdentity src unit.header.moduleStart unit.header.moduleStop fn.sig.nameStart fn.sig.nameStop

/-- Function `k` of the unit, `fn`, is the first under the identity. -/
structure Locates (src : Source) (unit : Decl.Unit) (identity : SemanticIdentity) (k : Nat) (fn : FnDecl) : Prop where
  nth : unit.fns[k]? = some fn
  same : semanticIdentityEqual (functionIdentity src unit fn) identity = true
  first : ∀ (j : Nat) (other : FnDecl), j < k → unit.fns[j]? = some other →
    semanticIdentityEqual (functionIdentity src unit other) identity = false

theorem locateSourceFunction_eq {src : Source} {unit : Decl.Unit} {identity : SemanticIdentity} {k : Nat} {fn : FnDecl}
    (h : Locates src unit identity k fn) (hk : k < 1024) :
    (locateSourceFunction src unit.fns unit.header identity).found = true ∧
      (locateSourceFunction src unit.fns unit.header identity).matchedIndex = k ∧
      (locateSourceFunction src unit.fns unit.header identity).containsIteration =
        sourceStatementsContainIteration fn.body.body := by
  have hloop : ∀ m i j (st : SourceFunctionLocator), k < j + m → j ≤ k → st.found = false → st.index = j →
      st.rest = unit.fns.drop j → st.header = unit.header → st.wanted = identity →
      ∀ r, r = (iterate (fun _ (st : SourceFunctionLocator) =>
          if st.found || st.rest.isEmpty then .ret st
          else .next (locateSourceFunctionStep src st)) i m st).after (fun st => st) →
        r.found = true ∧ r.matchedIndex = k ∧
          r.containsIteration = sourceStatementsContainIteration fn.body.body := by
    intro m
    induction m with
    | zero => exact fun i j st hm hj => absurd hm (by omega)
    | succ m ih =>
        rintro i j ⟨rest, header, wanted, index, found, matched, contains⟩ hm hj hfound hindex hrest hheader hwanted
          r hr
        dsimp only at hfound hindex hrest hheader hwanted
        subst hfound hindex hheader hwanted
        have hlt : index < unit.fns.length := Nat.lt_of_le_of_lt hj (List.getElem?_eq_some_iff.mp h.nth).1
        rw [List.drop_eq_getElem_cons hlt] at hrest
        subst hrest
        rw [iterate_succ] at hr
        simp only [List.isEmpty_cons, Bool.or_self, Bool.false_eq_true, if_false, Pass.bind_next] at hr
        by_cases hhere : index = k
        · -- found: the next pass, or the end of the loop, answers with it
          subst hhere
          have hnth := h.nth
          rw [List.getElem?_eq_getElem hlt] at hnth
          obtain rfl := Option.some.inj hnth
          have hstep : locateSourceFunctionStep src
              ⟨unit.fns[index] :: unit.fns.drop (index + 1), unit.header, wanted, index, false, matched, contains⟩ =
              ⟨unit.fns.drop (index + 1), unit.header, wanted, index + 1, true, index,
                sourceStatementsContainIteration unit.fns[index].body.body⟩ := by
            have hsame := h.same
            rw [functionIdentity] at hsame
            simp [locateSourceFunctionStep, locateSourceFunctionItem, hsame]
          rw [hstep] at hr
          subst hr
          cases m <;> exact ⟨rfl, rfl, rfl⟩
        · have hother := h.first index unit.fns[index] (by omega) (List.getElem?_eq_getElem hlt)
          rw [functionIdentity] at hother
          apply ih (i + 1) (index + 1) _ (by omega) (by omega) _ rfl rfl rfl rfl r hr
          exact hother
  exact hloop 1024 0 0 _ (by omega) (Nat.zero_le k) rfl rfl rfl rfl rfl _ rfl

/-! ## Agreement -/

/-- The graph accepts the loop operations of a record. -/
structure Accepts (function : Function) (cfg : FunctionFlow TOp) : Prop where
  verified : cfg.verified = true
  nonempty : 0 < cfg.blockCount
  linked : LoopLinked function cfg

theorem verifyFunctionWithFlow_iff {src : Source} {function : Function} {cfg : FunctionFlow TOp}
    (h : verifyFunctionBase src function = true) :
    verifyFunctionWithFlow src function cfg = true ↔ Accepts function cfg := by
  rw [verifyFunctionWithFlow, h, Bool.not_true, Bool.false_or]
  constructor
  · intro hpassed
    split at hpassed
    · cases hpassed
    · next hgo =>
        simp only [Bool.or_eq_true, Bool.not_eq_true', decide_eq_true_eq, not_or, Bool.not_eq_false] at hgo
        exact ⟨hgo.1, Nat.pos_of_ne_zero hgo.2, (verifyFlowLoopLinks_iff h).mp hpassed⟩
  · rintro ⟨hverified, hnonempty, hlinked⟩
    rw [if_neg (by simp [hverified]; omega)]
    exact (verifyFlowLoopLinks_iff h).mpr hlinked

/-- Over a graph without loops a record is accepted when it has no loop operation and a block more. -/
theorem accepts_iff_of_loopFree {src : Source} {function : Function} {fn : FnDecl} {cfg : FunctionFlow TOp}
    (h : verifyFunctionBase src function = true) (hcfg : LoweredFrom src fn cfg) (hfree : LoopFree fn.body.body) :
    Accepts function cfg ↔ cfg.verified = true ∧ cfg.blockCount < function.blockCount ∧
      ∀ b ∈ function.blocks, b.loopOperations = [] := by
  have hchecked := checked_of_verify h
  constructor
  · rintro ⟨hverified, -, hroom, -, hlinked, hunmapped⟩
    refine ⟨hverified, hroom, ?_⟩
    intro s hs
    by_cases hmapped : s.id < cfg.blockCount
    · -- a block of the graph has this id, and asks for nothing
      have hid : s.id ∈ cfg.blocks.map Block.id :=
        (hcfg.ids_perm hverified).mem_iff.mpr (List.mem_range.mpr hmapped)
      obtain ⟨b, hb, hbid⟩ := List.mem_map.mp hid
      obtain ⟨s', hs', hsid, hops⟩ := hlinked b hb
      obtain rfl := List.inj_on_of_nodup_map hchecked.blockIds.1 hs' hs (hsid.trans hbid)
      have hcount := hops.count
      rw [(hcfg.role_eq_zero hfree hverified).2 b hb] at hcount
      exact List.eq_nil_of_length_eq_zero hcount
    · exact hunmapped s hs (Nat.not_lt.mp hmapped)
  · rintro ⟨hverified, hroom, hnone⟩
    obtain ⟨hnonempty, hroles⟩ := hcfg.role_eq_zero hfree hverified
    refine ⟨hverified, hnonempty, hroom, hcfg.blocks_length, ?_, fun s hs _ => hnone s hs⟩
    intro b hb
    have hid : b.id < cfg.blockCount :=
      List.mem_range.mp ((hcfg.ids_perm hverified).mem_iff.mp (List.mem_map_of_mem hb))
    have hmem : b.id ∈ function.blocks.map SsaBlock.id :=
      hchecked.wellFormed.blockIds.mem_iff.mpr (List.mem_range.mpr (Nat.lt_trans hid hroom))
    obtain ⟨s, hs, hsid⟩ := List.mem_map.mp hmem
    refine ⟨s, hs, hsid, ?_⟩
    rw [hnone s hs]
    constructor
    · rw [hroles b hb]
      rfl
    · exact fun _ hinst => (List.not_mem_nil hinst).elim

/-- Where the entry points agree on a record that the base checks accept. For a function with a loop, or with a body
    that the scan for loops does not finish, the whole unit has to be lowered; for one without, the graph has to accept
    the record. -/
def AgreesOn (src : Source) (function : Function) (fn : FnDecl) (cfg : FunctionFlow TOp) : Prop :=
  if sourceStatementsContainIteration fn.body.body = true then
    Accepts function cfg → (lowerProvenUnit src (proveUnit src)).valid = true
  else
    cfg.verified = true ∧ cfg.blockCount < function.blockCount ∧ ∀ b ∈ function.blocks, b.loopOperations = []

theorem proveUnit_unit (src : Source) : (proveUnit src).unit = parseUnit src := by
  unfold proveUnit proveParsedUnit proveParsedUnitWithNominals proveParsedUnitWithImportedRecords
    proveParsedUnitWithImportedSchemas
  dsimp only
  split
  · rfl
  · split <;> rfl

theorem parseUnit_ok {src : Source} (h : (proveUnit src).ok = true) : (parseUnit src).ok = true := by
  unfold proveUnit proveParsedUnit proveParsedUnitWithNominals proveParsedUnitWithImportedRecords
    proveParsedUnitWithImportedSchemas at h
  dsimp only at h
  split at h
  · cases h
  · next hok => simpa using hok

section Located

variable {src : Source} {function : Function} {k : Nat} {fn : FnDecl} {cfg : FunctionFlow TOp}

/-- What `verify_function` accepts for function `k` of a proven unit, the function found and its graph. -/
theorem verifyFunction_iff (hproof : (proveUnit src).ok = true)
    (hlocates : Locates src (parseUnit src) function.identity k fn)
    (hcfg : (lowerProvenUnit src (proveUnit src)).functions[k]? = some cfg) :
    verifyFunction src function = true ↔
      verifyFunctionBase src function = true ∧
        (sourceStatementsContainIteration fn.body.body = true →
          (lowerProvenUnit src (proveUnit src)).valid = true ∧ Accepts function cfg) := by
  obtain ⟨⟨hcount, hlimit⟩, -, hat⟩ := lowerProvenUnit_functions hcfg
  obtain ⟨hfound, hindex, hcontains⟩ := locateSourceFunction_eq hlocates hlimit
  cases hbase : verifyFunctionBase src function with
  | false => simp [verifyFunction, hbase]
  | true =>
      rw [verifyFunction]
      simp only [hbase, parseUnit_ok hproof, hfound, hindex, hcontains, Bool.not_true, Bool.false_eq_true, if_false,
        true_and]
      cases hloop : sourceStatementsContainIteration fn.body.body with
      | false => simp
      | true =>
          simp only [Bool.not_true, Bool.false_eq_true, if_false, forall_const]
          rw [verifyFunctionSourceFlow]
          simp only [hproof, Bool.not_true, Bool.false_or, ge_iff_le, decide_eq_true_eq, Nat.not_le.mpr hcount,
            if_false, hat]
          cases hvalid : (lowerProvenUnit src (proveUnit src)).valid with
          | true => simp [verifyFunctionWithFlow_iff hbase]
          | false => simp

/-- **The entry points agree** on a record for function `k` of a proven unit exactly when it fails the base checks or
    meets `AgreesOn`. In a unit that flow lowers, what the graph accepts is accepted again. -/
theorem verifyFunction_agrees_iff (hproof : (proveUnit src).ok = true)
    (hlocates : Locates src (parseUnit src) function.identity k fn)
    (hcfg : (lowerProvenUnit src (proveUnit src)).functions[k]? = some cfg) :
    ((verifyFunction src function = true ↔ verifyFunctionWithFlow src function cfg = true) ↔
        (verifyFunctionBase src function = true → AgreesOn src function fn cfg)) ∧
      ((lowerProvenUnit src (proveUnit src)).valid = true → verifyFunctionWithFlow src function cfg = true →
        verifyFunction src function = true) := by
  have hverify := verifyFunction_iff hproof hlocates hcfg
  obtain ⟨-, ⟨fn', hfn', hfrom⟩, -⟩ := lowerProvenUnit_functions hcfg
  rw [proveUnit_unit, hlocates.nth] at hfn'
  obtain rfl := Option.some.inj hfn'
  cases hbase : verifyFunctionBase src function with
  | false => simp [verifyFunction, verifyFunctionWithFlow, hbase]
  | true =>
      simp only [hbase, true_and] at hverify
      rw [hverify, verifyFunctionWithFlow_iff hbase, AgreesOn]
      refine ⟨?_, fun hvalid haccepts _ => ⟨hvalid, haccepts⟩⟩
      cases hloop : sourceStatementsContainIteration fn.body.body with
      | false =>
          have hfree := accepts_iff_of_loopFree hbase hfrom (loopFree_of_scan hloop)
          simp [hfree]
      | true =>
          simp only [forall_const, if_true]
          constructor
          · exact fun hagree haccepts => (hagree.mpr haccepts).1
          · exact fun hvalid => ⟨And.right, fun haccepts => ⟨hvalid haccepts, haccepts⟩⟩

end Located

/-! ## One unit -/

/-- A record for `f` with the failure block alone. -/
def failsOnly : Function :=
  { returnsInput with
    blocks := [{ id := 0, parameters := [], parameterBindings := [], instructions := [], terminator := .fail
                 reachable := false, hasFailureTarget := false, failureTarget := 0, loweringOk := true
                 loweringFailureKind := 0 }]
    blockCount := 1 }

set_option maxRecDepth 100000 in
theorem returnSource_lowered :
    (proveUnit returnSource).ok = true ∧ (lowerProvenUnit returnSource (proveUnit returnSource)).functions.length = 1 ∧
      ((parseUnit returnSource).fns[0]?).any (fun fn =>
        semanticIdentityEqual (functionIdentity returnSource (parseUnit returnSource) fn)
          (canonicalFunctionIdentity returnSource 17 18 22 23)) = true ∧
      verifyFunction returnSource failsOnly = true := by
  -- the loops are put in their short form before the source and the identity are known
  suffices h : ∀ src, src = returnSource → ∀ identity, identity = canonicalFunctionIdentity src 17 18 22 23 →
      (proveUnit src).ok = true ∧ (lowerProvenUnit src (proveUnit src)).functions.length = 1 ∧
        ((parseUnit src).fns[0]?).any (fun fn =>
          semanticIdentityEqual (functionIdentity src (parseUnit src) fn) identity) = true ∧
        verifyFunction src { failsOnly with identity := identity } = true from h returnSource rfl _ rfl
  intro src hsrc identity hidentity
  simp only [canonicalFunctionIdentity, callableIdentitySpan, ↓run_callableIdentitySpanStep] at hidentity
  simp -zeta only [↓iterate_eq_run, lowerProvenUnit, lowerFunctions, lowerFnStep, lowerOneFn, walk, functionIdentity,
    proveUnit, proveParsedUnit, proveParsedUnitWithNominals, proveParsedUnitWithImportedRecords,
    proveParsedUnitWithImportedSchemas, collectSigtab, collectSigtabChunk, collectSigtabStep, collectOneSig, checkSig,
    checkParams, checkParamsStep, checkOneParam, checkResults, checkResultsStep, checkOneResult, finishResults,
    checkCaps, checkEffects, reverseEffects, checkContracts, oblOnlyTypes, oblFilterTypes, proveBodies,
    proveBodiesStep, proveOneBody, sigRestObls, checkGenericBoundObls, oblOnlyKind, proveFnWithImportedSchemas,
    fieldTypeObls, fieldOblsStep, fieldOblsCons, countResultsFields, topslistReverse_eq, appendTopslist_eq,
    reverseObls, reverseNames, collectFnNames, duplicateFnNames, reverseWithin_eq, appendObls_eq, mergeSigTables,
    oblHasFail, proveStmts, proveTail, bindLocalCallableIdentities, bindLocalCallableIdentityChunk,
    bindLocalCallableIdentity, bindLocalCallableSig, bindCallableSignature, canonicalEffectIdentities,
    canonicalCapabilityIdentities, verifyFunction, verifyFunctionBase, verifyFunctionInputs, verifyInputList,
    verifyInputStep, verifyInputOne, findValue, verifyBlocks, verifyBlockStep, verifyOneBlock, verifyTerminator,
    verifyReturnTerm, valueAvailable, verifyParameters, verifyParameterStep, parameterIsDefined, locateSourceFunction,
    locateSourceFunctionStep, locateSourceFunctionItem, canonicalFunctionIdentity, callableIdentitySpan,
    ↓run_callableIdentitySpanStep]
  unfold proveReturnVal
  simp -zeta only [↓iterate_eq_run, proveReturnName, envLookup, envLookupStep, envLookupCons, scopeLookup, appendObls_eq]
  subst hsrc hidentity
  decide +kernel

theorem returnSource_graph :
    ∃ cfg, (lowerProvenUnit returnSource (proveUnit returnSource)).functions[0]? = some cfg := by
  obtain ⟨cfg, hcfg⟩ := List.length_eq_one_iff.mp returnSource_lowered.2.1
  exact ⟨cfg, by rw [hcfg, List.getElem?_cons_zero]⟩

theorem returnSource_locates :
    ∃ fn, Locates returnSource (parseUnit returnSource) (canonicalFunctionIdentity returnSource 17 18 22 23) 0 fn := by
  obtain ⟨fn, hnth, hsame⟩ := (Option.any_eq_true _ _).mp returnSource_lowered.2.2.1
  exact ⟨fn, hnth, hsame, fun j _ hj => absurd hj (Nat.not_lt_zero j)⟩

theorem verifyFunction_agrees_input :
    ∃ fn cfg, (lowerProvenUnit returnSource (proveUnit returnSource)).functions[0]? = some cfg ∧
      ((verifyFunction returnSource returnsInput = true ↔ verifyFunctionWithFlow returnSource returnsInput cfg = true) ↔
          (verifyFunctionBase returnSource returnsInput = true → AgreesOn returnSource returnsInput fn cfg)) ∧
        ((lowerProvenUnit returnSource (proveUnit returnSource)).valid = true →
          verifyFunctionWithFlow returnSource returnsInput cfg = true →
            verifyFunction returnSource returnsInput = true) := by
  obtain ⟨fn, hlocates⟩ := returnSource_locates
  obtain ⟨cfg, hcfg⟩ := returnSource_graph
  exact ⟨fn, cfg, hcfg, verifyFunction_agrees_iff returnSource_lowered.1 hlocates hcfg⟩

/-- The scan for loops lets the one block pass. The graph of `f` has a block, and asks the record for one more. -/
theorem not_verifyFunction_agrees :
    ¬ ∀ (src : Source) (function : Function) (k : Nat) (fn : FnDecl) (cfg : FunctionFlow TOp),
      (proveUnit src).ok = true → Locates src (parseUnit src) function.identity k fn →
        (lowerProvenUnit src (proveUnit src)).functions[k]? = some cfg →
          (verifyFunction src function = true ↔ verifyFunctionWithFlow src function cfg = true) := by
  intro hall
  obtain ⟨fn, hlocates⟩ := returnSource_locates
  obtain ⟨cfg, hcfg⟩ := returnSource_graph
  have hpassed := returnSource_lowered.2.2.2
  have haccepts := (verifyFunctionWithFlow_iff (verifyFunctionBase_of_verifyFunction hpassed)).mp
    ((hall returnSource failsOnly 0 fn cfg returnSource_lowered.1 hlocates hcfg).mp hpassed)
  have hroom : cfg.blockCount < 1 := haccepts.linked.room
  exact absurd haccepts.nonempty (by omega)

end MncsCompiler.Ssa
