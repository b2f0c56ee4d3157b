import MncsCompiler.Project.Lowering

/-!
# `Project.Verdict` — why a project is invalid

The verdict of a compilation is a conjunction of flags that the passes compute, and its diagnostics are gathered along
another path. Both read the same facts: the order of the sources, their names and imports, and for every module whether
it parsed, proved and lowered. The first stage that failed reports, and its report comes before all others.
-/

namespace MncsCompiler.Project

open BoundedLoop Decl Flow Ssa

variable {inp : Input}

/-! ## Parsing -/

/-- The span at which a module fails to parse. -/
def parseFailureOf (parsed : ParsedModule) : Option (Nat × Nat × Nat) :=
  if parsed.unit.ok then none else some (parsed.sourceIndex, parsed.unit.errStart, parsed.unit.errStop)

/-- The failure that a build of modules holds. -/
def ModuleBuild.failure? (built : ModuleBuild) : Option (Nat × Nat × Nat) :=
  if built.parseFailed then some (built.parseIndex, built.parseStart, built.parseStop) else none

/-- **The first module that fails to parse** is the one that is kept. -/
theorem buildModules_failure (inp : Input) (targetSourceIndex : Nat) (targetOnly : Bool) :
    (buildModules inp targetSourceIndex targetOnly).failure? =
        (parsedModules inp targetSourceIndex targetOnly).findSome? parseFailureOf ∧
      (buildModules inp targetSourceIndex targetOnly).valid =
        !(buildModules inp targetSourceIndex targetOnly).parseFailed := by
  have hrun := carry_invariant (f := buildOneModule inp targetSourceIndex targetOnly)
    (P := fun i (st : ModuleBuild) =>
      st.failure? = ((inp.sources.take i).mapIdx (moduleAt inp targetSourceIndex targetOnly)).findSome? parseFailureOf ∧
        st.valid = !st.parseFailed)
    (i := 0) (n := inp.sources.length)
    (s := { acc := [], valid := true, count := 0, parseFailed := false, parseIndex := 0, parseStart := 0
            parseStop := 0 }) ⟨rfl, rfl⟩ ?_
  · rw [Nat.zero_add, List.take_length] at hrun
    rw [parsedModules_eq]
    exact hrun
  · intro i st _ hi hst
    obtain ⟨hfailure, hvalid⟩ := hst
    have hlt : i < inp.sources.length := by omega
    rw [List.take_add_one, List.getElem?_eq_getElem hlt, Option.toList_some, List.mapIdx_concat, List.findSome?_append,
      ← hfailure, List.length_take, Nat.min_eq_left (Nat.le_of_lt hlt), buildOneModule, List.getElem?_eq_getElem hlt]
    dsimp only
    have hunit : (moduleAt inp targetSourceIndex targetOnly i inp.sources[i]).unit =
        parseProjectUnit { pages := modulePages inp i, stride := inp.sources[i].stride, total := inp.sources[i].total }
          i targetSourceIndex targetOnly := rfl
    rw [List.findSome?_cons, List.findSome?_nil, parseFailureOf, hunit]
    generalize parseProjectUnit
      { pages := modulePages inp i, stride := inp.sources[i].stride, total := inp.sources[i].total }
      i targetSourceIndex targetOnly = unit
    cases hprior : st.parseFailed <;> cases hok : unit.ok <;> simp [ModuleBuild.failure?, hprior, hvalid, moduleAt]

/-! ## Lowering -/

/-- A finished build: the entries of its modules in order. -/
structure Finished (inp : Input) (scope : Scope) (modules : List ParsedModule) (found : Bool)
    (st : ProjectBuild) : Prop where
  entries : st.acc = modules.map (entryOf inp scope)
  valid : st.valid = (found && modules.all fun parsed => (loweredOf inp scope parsed).valid)
  ssaValid : st.ssaValid = (found && modules.all fun parsed => (valueSsaOf inp scope parsed).valid)
  failed : st.failed.raised? = modules.findSome? (failureOf inp scope)

theorem Built.finish {scope : Scope} {modules : List ParsedModule} {found : Bool} {st : ProjectBuild}
    (h : Built inp scope modules found st) (hlength : modules.length ≤ inp.sources.length) (targetMissing : Bool) :
    Finished inp scope modules found (finishProjectLowering inp st targetMissing) where
  entries := by
    show reverseWithin inp.sources.length st.acc = _
    rw [h.acc, reverseWithin_eq, List.take_of_length_le, List.reverse_reverse]
    rwa [List.length_reverse, List.length_map]
  valid := h.valid
  ssaValid := h.ssaValid
  failed := h.failed

/-- What the modules of a whole project see. -/
def projectScope (inp : Input) (modules : List ParsedModule) (nominalModules : List NominalModule) : Scope :=
  let markers := projectNominalMarkers nominalModules
  { all := modules, nominalModules := nominalModules, markers := markers
    importedRecords := projectRecordSchemas inp nominalModules markers modules
    importedEnums := projectEnumSchemas inp nominalModules markers modules }

theorem lowerProjectModules_finished {modules : List ParsedModule} (nominalModules : List NominalModule)
    (hlength : modules.length ≤ inp.sources.length) :
    Finished inp (projectScope inp modules nominalModules) modules true
      (lowerProjectModules inp modules nominalModules) := by
  have hstart : Built inp (projectScope inp modules nominalModules) [] true
      (beginProjectLoweringWithSchemas modules nominalModules (projectNominalMarkers nominalModules)
        (projectRecordSchemas inp nominalModules (projectNominalMarkers nominalModules) modules)
        (projectEnumSchemas inp nominalModules (projectNominalMarkers nominalModules) modules)) :=
    ⟨rfl, rfl, rfl, rfl, rfl, rfl, rfl⟩
  exact (hstart.run inp.sources.length hlength).finish hlength false

/-! ## The target -/

/-- What the target of a project sees: all modules, and the schemas of those that it imports. -/
def targetScope (inp : Input) (modules : List ParsedModule) (imports : List ImportLink)
    (nominalModules : List NominalModule) (targetSourceIndex : Nat) : Scope :=
  let markers := projectNominalMarkers nominalModules
  let dependencyClosure := projectImportClosure imports targetSourceIndex inp.sources.length
  let dependencyModules := projectModulesInClosure inp.sources modules dependencyClosure.reachable
  { all := modules, nominalModules := nominalModules, markers := markers
    importedRecords := projectRecordSchemas inp nominalModules markers dependencyModules
    importedEnums := projectEnumSchemas inp nominalModules markers dependencyModules }

/-- Whether a module is that of a source. -/
def isAt (sourceIndex : Nat) (parsed : ParsedModule) : Bool := parsed.sourceIndex = sourceIndex

theorem selectTargetModule_eq {modules : List ParsedModule} (hlength : modules.length ≤ 64) (targetSourceIndex : Nat) :
    (selectTargetModule modules targetSourceIndex).selected =
        (modules.find? (isAt targetSourceIndex)).toList ∧
      (selectTargetModule modules targetSourceIndex).found =
        (modules.find? (isAt targetSourceIndex)).isSome := by
  have hloop : ∀ n i (l : List ParsedModule), l.length ≤ n → ∀ st : TargetModuleSelection,
      st = { rest := l, selected := [], targetSourceIndex := targetSourceIndex, found := false } →
      ((iterate (fun _ (st : TargetModuleSelection) =>
          if st.found || st.rest.isEmpty then .ret st
          else .next (selectTargetModuleStep st)) i n st).after id).selected =
          (l.find? (isAt targetSourceIndex)).toList ∧
        ((iterate (fun _ (st : TargetModuleSelection) =>
          if st.found || st.rest.isEmpty then .ret st else .next (selectTargetModuleStep st)) i n st).after id).found =
          (l.find? (isAt targetSourceIndex)).isSome := by
    intro n
    induction n with
    | zero =>
        intro i l hl st hst
        obtain rfl := List.eq_nil_of_length_eq_zero (Nat.le_zero.mp hl)
        subst hst
        exact ⟨rfl, rfl⟩
    | succ n ih =>
        intro i l hl st hst
        subst hst
        cases l with
        | nil => exact ⟨rfl, rfl⟩
        | cons parsed rest =>
            rw [iterate_succ, if_neg (by simp), Pass.bind_next]
            by_cases hhere : parsed.sourceIndex = targetSourceIndex
            · -- the next pass, or the end of the loop, stops with it
              have hstep : selectTargetModuleStep
                  { rest := parsed :: rest, selected := [], targetSourceIndex := targetSourceIndex, found := false } =
                    { rest := rest, selected := [parsed], targetSourceIndex := targetSourceIndex, found := true } :=
                if_pos hhere
              rw [hstep, List.find?_cons, show isAt targetSourceIndex parsed = true from decide_eq_true hhere]
              cases n with
              | zero => exact ⟨rfl, rfl⟩
              | succ n => exact ⟨rfl, rfl⟩
            · have hstep : selectTargetModuleStep
                  { rest := parsed :: rest, selected := [], targetSourceIndex := targetSourceIndex, found := false } =
                    { rest := rest, selected := [], targetSourceIndex := targetSourceIndex, found := false } :=
                if_neg hhere
              rw [hstep, List.find?_cons, show isAt targetSourceIndex parsed = false from decide_eq_false hhere]
              exact ih (i + 1) rest (Nat.le_of_succ_le_succ hl) _ rfl
  exact hloop 64 0 modules hlength _ rfl

theorem lowerProjectModulesForSource_finished {modules : List ParsedModule} (imports : List ImportLink)
    (nominalModules : List NominalModule) (targetSourceIndex : Nat) (hlength : modules.length ≤ inp.sources.length)
    (hsources : inp.sources.length ≤ 64) :
    let target := modules.find? (isAt targetSourceIndex)
    Finished inp (targetScope inp modules imports nominalModules targetSourceIndex) target.toList target.isSome
        (lowerProjectModulesForSource inp modules imports nominalModules targetSourceIndex) ∧
      (lowerProjectModulesForSource inp modules imports nominalModules targetSourceIndex).targetMissing =
        !target.isSome := by
  obtain ⟨hselected, hfound⟩ := selectTargetModule_eq (hlength.trans hsources) targetSourceIndex
  intro target
  have hshort : target.toList.length ≤ inp.sources.length := by
    cases htarget : target with
    | none => exact Nat.zero_le _
    | some parsed => exact (List.length_pos_of_mem (List.mem_of_find?_eq_some htarget)).trans_le hlength
  unfold lowerProjectModulesForSource lowerProjectModulesSelected
  dsimp only
  rw [hselected, hfound]
  have hstart : Built inp (targetScope inp modules imports nominalModules targetSourceIndex) [] target.isSome
      (beginProjectLoweringForModules target.toList modules nominalModules (projectNominalMarkers nominalModules)
        (projectRecordSchemas inp nominalModules (projectNominalMarkers nominalModules)
          (projectModulesInClosure inp.sources modules
            (projectImportClosure imports targetSourceIndex inp.sources.length).reachable))
        (projectEnumSchemas inp nominalModules (projectNominalMarkers nominalModules)
          (projectModulesInClosure inp.sources modules
            (projectImportClosure imports targetSourceIndex inp.sources.length).reachable)) target.isSome) :=
    ⟨rfl, rfl, (Bool.and_true _).symm, (Bool.and_true _).symm, rfl, rfl, rfl⟩
  have hrun := hstart.run inp.sources.length hshort
  exact ⟨hrun.finish hshort _, hrun.targetMissing⟩

/-! ## Diagnostics -/

/-- How the failure of a stage is reported. -/
def StageFailure.report (failed : StageFailure) : ProjectDiagnostic :=
  if failed.stage = 2 then .proofFailed failed.sourceIndex failed.start failed.stop
  else .flowFailed failed.sourceIndex failed.code failed.start failed.stop

/-- The report of the first stage that failed: a module that did not parse goes before one that did not lower. -/
def stageReport (unparsed : Option (Nat × Nat × Nat)) (failed : Option StageFailure) : Option ProjectDiagnostic :=
  (unparsed.map fun place => ProjectDiagnostic.parseFailed place.1 place.2.1 place.2.2).or
    (failed.map StageFailure.report)

theorem appendStageDiagnostic_eq (diagnostics : List ProjectDiagnostic) (built : ModuleBuild) (failed : StageFailure) :
    appendStageDiagnostic diagnostics built failed =
      (stageReport built.failure? failed.raised?).toList ++ diagnostics := by
  unfold appendStageDiagnostic
  cases hparse : built.parseFailed with
  | true => simp [stageReport, ModuleBuild.failure?, hparse]
  | false =>
      by_cases hstage : failed.stage = 0
      · simp [stageReport, ModuleBuild.failure?, hparse, StageFailure.raised?, hstage]
      · by_cases hproof : failed.stage = 2
        · simp [stageReport, ModuleBuild.failure?, hparse, StageFailure.raised?, StageFailure.report, hproof]
        · simp [stageReport, ModuleBuild.failure?, hparse, StageFailure.raised?, StageFailure.report, hstage, hproof]

/-- What the order, the names and the imports of the sources report, as it comes out. -/
def passReports (inp : Input) (modules : List ParsedModule) : List ProjectDiagnostic :=
  (duplicateModules inp modules).reverse ++
    (orderDiagnostics inp.sources (sourceOrdered inp.sources) (descriptorsCover inp) ++
      (resolveImports inp modules).diagnostics)

theorem appendDiagnostics_passReports (hsources : inp.sources.length ≤ 64) (modules : List ParsedModule) :
    appendDiagnostics (appendDiagnostics
        (orderDiagnostics inp.sources (sourceOrdered inp.sources) (descriptorsCover inp))
          (duplicateModules inp modules))
      (resolveImports inp modules).diagnostics = passReports inp modules := by
  have hduplicates : (duplicateModules inp modules).length ≤ 64 := by
    rw [duplicateModules_eq hsources]
    exact (List.length_filterMap_le ..).trans ((List.length_take_le ..).trans hsources)
  have hbasic := orderDiagnostics_length_le inp.sources (sourceOrdered inp.sources) (descriptorsCover inp)
  unfold passReports
  generalize orderDiagnostics inp.sources (sourceOrdered inp.sources) (descriptorsCover inp) = basic at hbasic ⊢
  have hreverse : basic.reverse = basic := by
    cases basic with
    | nil => rfl
    | cons diagnostic rest =>
        rw [List.length_cons] at hbasic
        rw [List.eq_nil_of_length_eq_zero (show rest.length = 0 by omega)]
        rfl
  have hfirst : appendDiagnostics basic (duplicateModules inp modules) = basic ++ duplicateModules inp modules := by
    rw [appendDiagnostics, prependBatches_eq, List.take_of_length_le (by omega), hreverse]
  rw [hfirst, appendDiagnostics, prependBatches_eq, List.take_of_length_le (by rw [List.length_append]; omega),
    List.reverse_append, hreverse, List.append_assoc]

/-- The passes report nothing exactly when their flags are set. -/
theorem passReports_eq_nil_iff (hsources : inp.sources.length ≤ 64) (modules : List ParsedModule) :
    passReports inp modules = [] ↔ duplicateModules inp modules = [] ∧ sourceOrdered inp.sources = true ∧
      descriptorsCover inp = true ∧ (resolveImports inp modules).valid = true := by
  obtain ⟨-, hdiagnostics, -, hvalid⟩ := resolveImports_outcomes modules hsources
  rw [hvalid, ← hdiagnostics, passReports, List.append_eq_nil_iff, List.append_eq_nil_iff, List.reverse_eq_nil_iff]
  have horder : orderDiagnostics inp.sources (sourceOrdered inp.sources) (descriptorsCover inp) = [] ↔
      sourceOrdered inp.sources = true ∧ descriptorsCover inp = true := by
    cases sourceOrdered inp.sources <;> cases descriptorsCover inp <;> simp [orderDiagnostics]
  rw [horder, and_assoc]

/-- The emptiness test runs over the sources, and without sources there is nothing to report of them. -/
theorem diagnosticsEmpty_iff {diagnostics : List ProjectDiagnostic} :
    diagnosticsEmpty inp.sources diagnostics = true ↔ inp.sources = [] ∨ diagnostics = [] := by
  rw [diagnosticsEmpty, decide_eq_true_eq, countWithin_eq, ← List.length_eq_zero_iff, ← List.length_eq_zero_iff]
  omega

/-! ## Projects -/

def nominalModulesOf (inp : Input) (modules : List ParsedModule) : List NominalModule :=
  resolveProjectNominalModules inp modules (collectLocalNominalModules inp modules)

/-- What a whole project consists of. -/
def wholeScope (inp : Input) : Scope :=
  projectScope inp (parsedModules inp 0 false) (nominalModulesOf inp (parsedModules inp 0 false))

/-- What the target of a project consists of. -/
def chosenScope (inp : Input) (targetSourceIndex : Nat) : Scope :=
  targetScope inp (parsedModules inp targetSourceIndex true)
    (resolveImports inp (parsedModules inp targetSourceIndex true)).imports
    (nominalModulesOf inp (parsedModules inp targetSourceIndex true)) targetSourceIndex

/-- The module of the target, if there is one. -/
def chosenModules (inp : Input) (targetSourceIndex : Nat) : List ParsedModule :=
  ((parsedModules inp targetSourceIndex true).find? (isAt targetSourceIndex)).toList

theorem parsedModules_length (targetSourceIndex : Nat) (targetOnly : Bool) :
    (parsedModules inp targetSourceIndex targetOnly).length = inp.sources.length := by
  rw [parsedModules_eq, List.length_mapIdx]

/-- The reports of a compilation that lowers the modules `chosen`. -/
def reports (inp : Input) (scope : Scope) (modules chosen : List ParsedModule) : List ProjectDiagnostic :=
  (stageReport (modules.findSome? parseFailureOf) (chosen.findSome? (failureOf inp scope))).toList ++
    passReports inp modules

theorem stageReport_eq_none_iff {unparsed : Option (Nat × Nat × Nat)} {failed : Option StageFailure} :
    stageReport unparsed failed = none ↔ unparsed = none ∧ failed = none := by
  cases unparsed <;> cases failed <;> simp [stageReport]

/-- A compilation reports nothing exactly when all its flags are set. -/
theorem reports_eq_nil_iff (hsources : inp.sources.length ≤ 64) {scope : Scope} {modules chosen : List ParsedModule} :
    reports inp scope modules chosen = [] ↔
      ((∀ parsed ∈ modules, parsed.unit.ok = true) ∧ ∀ parsed ∈ chosen, (loweredOf inp scope parsed).valid = true) ∧
        duplicateModules inp modules = [] ∧ sourceOrdered inp.sources = true ∧ descriptorsCover inp = true ∧
          (resolveImports inp modules).valid = true := by
  rw [reports, List.append_eq_nil_iff, passReports_eq_nil_iff hsources, Option.toList_eq_nil_iff,
    stageReport_eq_none_iff, List.findSome?_eq_none_iff, List.findSome?_eq_none_iff]
  simp only [failureOf_eq_none_iff, parseFailureOf, ite_eq_left_iff, reduceCtorEq, imp_false, not_not]

theorem buildModules_valid_iff {targetSourceIndex : Nat} {targetOnly : Bool} :
    (buildModules inp targetSourceIndex targetOnly).valid = true ↔
      ∀ parsed ∈ parsedModules inp targetSourceIndex targetOnly, parsed.unit.ok = true := by
  obtain ⟨hfailure, hvalid⟩ := buildModules_failure inp targetSourceIndex targetOnly
  have hnone : (parsedModules inp targetSourceIndex targetOnly).findSome? parseFailureOf = none ↔
      ∀ parsed ∈ parsedModules inp targetSourceIndex targetOnly, parsed.unit.ok = true := by
    rw [List.findSome?_eq_none_iff]
    simp only [parseFailureOf, ite_eq_left_iff, reduceCtorEq, imp_false, not_not]
  rw [hvalid, ← hnone, ← hfailure, ModuleBuild.failure?]
  cases (buildModules inp targetSourceIndex targetOnly).parseFailed <;> simp

/-- The flags of a compilation against its reports. -/
theorem verdict_iff (hsources : inp.sources.length ≤ 64) {targetSourceIndex : Nat} {targetOnly : Bool} {scope : Scope}
    {chosen : List ParsedModule} {diagnostics : List ProjectDiagnostic}
    (hdiagnostics : diagnostics = reports inp scope (parsedModules inp targetSourceIndex targetOnly) chosen) :
    (sourceOrdered inp.sources && descriptorsCover inp && (buildModules inp targetSourceIndex targetOnly).valid &&
        diagnosticsEmpty inp.sources diagnostics &&
        (resolveImports inp (parsedModules inp targetSourceIndex targetOnly)).valid &&
        chosen.all fun parsed => (loweredOf inp scope parsed).valid) = true ↔ diagnostics = [] := by
  have hnil := @reports_eq_nil_iff inp hsources scope (parsedModules inp targetSourceIndex targetOnly) chosen
  rw [← hdiagnostics] at hnil
  simp only [Bool.and_eq_true, List.all_eq_true, buildModules_valid_iff, diagnosticsEmpty_iff]
  constructor
  · rintro ⟨⟨⟨⟨⟨hordered, hcover⟩, hparsed⟩, hempty⟩, hresolved⟩, hlowered⟩
    refine hempty.elim ?_ id
    -- without sources there are no modules, and so no duplicates
    intro hnone
    have hmodules : parsedModules inp targetSourceIndex targetOnly = [] := by
      rw [← List.length_eq_zero_iff, parsedModules_length, hnone]
      rfl
    refine hnil.mpr ⟨⟨hparsed, hlowered⟩, ?_, hordered, hcover, hresolved⟩
    rw [hmodules, duplicateModules_eq hsources, List.take_nil]
    rfl
  · intro h
    obtain ⟨⟨hparsed, hlowered⟩, -, hordered, hcover, hresolved⟩ := hnil.mp h
    exact ⟨⟨⟨⟨⟨hordered, hcover⟩, hparsed⟩, .inr h⟩, hresolved⟩, hlowered⟩

/-- What a compilation returns for the modules that it has chosen. -/
structure Compiled (inp : Input) (scope : Scope) (modules chosen : List ParsedModule) (missing : Option Nat)
    (result : ProjectResult) : Prop where
  entries : result.modules = chosen.map (entryOf inp scope)
  reported : result.diagnostics =
    (missing.map ProjectDiagnostic.targetModuleMissing).toList ++ reports inp scope modules chosen
  valid : result.valid = true ↔ result.diagnostics = []
  valueSsaValid : result.valueSsaValid = true ↔ missing = none ∧ (resolveImports inp modules).valid = true ∧
    ∀ parsed ∈ chosen, (valueSsaOf inp scope parsed).valid = true

theorem compileProject_compiled (snapshot : ProjectSnapshot) (flatPages : List View) :
    let inp : Input := { sources := snapshot.sources, flatPages := flatPages }
    Compiled inp (wholeScope inp) (parsedModules inp 0 false) (parsedModules inp 0 false) none
      (compileProject snapshot flatPages) := by
  intro inp
  have hlength : (parsedModules inp 0 false).length ≤ inp.sources.length := (parsedModules_length 0 false).le
  have hfinished := lowerProjectModules_finished (nominalModulesOf inp (parsedModules inp 0 false)) hlength
  have hreported : (compileProject snapshot flatPages).diagnostics =
      reports inp (wholeScope inp) (parsedModules inp 0 false) (parsedModules inp 0 false) := by
    show appendStageDiagnostic (appendDiagnostics (appendDiagnostics
      (orderDiagnostics inp.sources (sourceOrdered inp.sources) (descriptorsCover inp))
        (duplicateModules inp (parsedModules inp 0 false)))
          (resolveImports inp (parsedModules inp 0 false)).diagnostics)
        (buildModules inp 0 false)
        (lowerProjectModules inp (parsedModules inp 0 false)
          (nominalModulesOf inp (parsedModules inp 0 false))).failed = _
    rw [appendStageDiagnostic_eq, (buildModules_failure inp 0 false).1, hfinished.failed,
      appendDiagnostics_passReports snapshot.bounded]
    rfl
  refine ⟨hfinished.entries, hreported, ?_, ?_⟩
  · rw [← verdict_iff snapshot.bounded hreported]
    show (_ && (lowerProjectModules inp (parsedModules inp 0 false)
      (nominalModulesOf inp (parsedModules inp 0 false))).valid) = true ↔ _
    rw [hfinished.valid]
    rfl
  · show ((lowerProjectModules inp (parsedModules inp 0 false)
      (nominalModulesOf inp (parsedModules inp 0 false))).ssaValid && _) = true ↔ _
    rw [hfinished.ssaValid, Bool.true_and, Bool.and_eq_true, List.all_eq_true]
    exact ⟨fun h => ⟨rfl, h.2, h.1⟩, fun h => ⟨h.2.2, h.2.1⟩⟩

/-- The target that is reported as missing. -/
def missingTarget (inp : Input) (targetSourceIndex : Nat) : Option Nat :=
  if targetSourceIndex < inp.sources.length then none else some targetSourceIndex

/-- The module of the target is that of its source. -/
theorem find_target (inp : Input) (targetSourceIndex : Nat) :
    (parsedModules inp targetSourceIndex true).find? (isAt targetSourceIndex) =
      inp.sources[targetSourceIndex]?.map (moduleAt inp targetSourceIndex true targetSourceIndex) := by
  have hfind : ∀ (l : List ProjectSource) (f : Nat → ProjectSource → ParsedModule) (j : Nat),
      (∀ i item, (f i item).sourceIndex = j + i) → ∀ k, (l.mapIdx f).find? (isAt (j + k)) = l[k]?.map (f k) := by
    intro l
    induction l with
    | nil => exact fun _ _ _ _ => rfl
    | cons item rest ih =>
        intro f j hf k
        rw [List.mapIdx_cons, List.find?_cons]
        cases k with
        | zero =>
            have hhere : isAt (j + 0) (f 0 item) = true := decide_eq_true (hf 0 item)
            rw [hhere]
            rfl
        | succ k =>
            have hother : isAt (j + (k + 1)) (f 0 item) = false := by
              refine decide_eq_false ?_
              rw [hf 0 item]
              omega
            rw [hother, List.getElem?_cons_succ]
            have hrec := ih (fun i => f (i + 1)) (j + 1) (fun i other => by rw [hf]; omega) k
            rw [show j + (k + 1) = j + 1 + k by omega]
            exact hrec
  have hat := hfind inp.sources (moduleAt inp targetSourceIndex true) 0 (fun i _ => (Nat.zero_add i).symm)
    targetSourceIndex
  rw [Nat.zero_add] at hat
  rw [parsedModules_eq, hat]

theorem find_target_isSome (inp : Input) (targetSourceIndex : Nat) :
    ((parsedModules inp targetSourceIndex true).find? (isAt targetSourceIndex)).isSome =
      decide (targetSourceIndex < inp.sources.length) := by
  rw [find_target, Option.isSome_map, Bool.eq_iff_iff, decide_eq_true_eq, Option.isSome_iff_ne_none, Ne,
    List.getElem?_eq_none_iff, Nat.not_le]

theorem compileProjectTarget_compiled (snapshot : ProjectSnapshot) (flatPages : List View) (targetSourceIndex : Nat) :
    let inp : Input := { sources := snapshot.sources, flatPages := flatPages }
    Compiled inp (chosenScope inp targetSourceIndex) (parsedModules inp targetSourceIndex true)
      (chosenModules inp targetSourceIndex) (missingTarget inp targetSourceIndex)
      (compileProjectTarget snapshot flatPages targetSourceIndex) := by
  intro inp
  let modules := parsedModules inp targetSourceIndex true
  let lowered := lowerProjectModulesForSource inp modules (resolveImports inp modules).imports
    (nominalModulesOf inp modules) targetSourceIndex
  have hlength : modules.length ≤ inp.sources.length := (parsedModules_length targetSourceIndex true).le
  obtain ⟨hfinished, hmissing⟩ := lowerProjectModulesForSource_finished (resolveImports inp modules).imports
    (nominalModulesOf inp modules) targetSourceIndex hlength snapshot.bounded
  rw [find_target_isSome] at hmissing
  have hvalid := hfinished.valid
  have hssa := hfinished.ssaValid
  rw [find_target_isSome] at hvalid hssa
  have hreported : (compileProjectTarget snapshot flatPages targetSourceIndex).diagnostics =
      ((missingTarget inp targetSourceIndex).map ProjectDiagnostic.targetModuleMissing).toList ++
        reports inp (chosenScope inp targetSourceIndex) modules (chosenModules inp targetSourceIndex) := by
    show appendTargetMissing (appendStageDiagnostic (appendDiagnostics (appendDiagnostics
      (orderDiagnostics inp.sources (sourceOrdered inp.sources) (descriptorsCover inp)) (duplicateModules inp modules))
        (resolveImports inp modules).diagnostics) (buildModules inp targetSourceIndex true) lowered.failed)
        lowered.targetMissing targetSourceIndex true = _
    rw [appendStageDiagnostic_eq, (buildModules_failure inp targetSourceIndex true).1, hfinished.failed,
      appendDiagnostics_passReports snapshot.bounded, hmissing, missingTarget]
    by_cases hlt : targetSourceIndex < inp.sources.length
    · rw [if_pos hlt, decide_eq_true hlt]
      rfl
    · rw [if_neg hlt, decide_eq_false hlt]
      rfl
  refine ⟨hfinished.entries, hreported, ?_, ?_⟩
  · show (_ && lowered.valid && !lowered.targetMissing) = true ↔ _
    rw [hmissing, hvalid]
    by_cases hlt : targetSourceIndex < inp.sources.length
    · rw [missingTarget, if_pos hlt] at hreported
      have hreports : (compileProjectTarget snapshot flatPages targetSourceIndex).diagnostics =
          reports inp (chosenScope inp targetSourceIndex) modules (chosenModules inp targetSourceIndex) := hreported
      rw [decide_eq_true hlt, Bool.true_and, Bool.not_not, Bool.and_true]
      exact verdict_iff snapshot.bounded hreports
    · rw [missingTarget, if_neg hlt] at hreported
      rw [decide_eq_false hlt, hreported]
      simp
  · show (lowered.ssaValid && (resolveImports inp modules).valid && !lowered.targetMissing) = true ↔ _
    rw [hmissing, hssa, missingTarget]
    by_cases hlt : targetSourceIndex < inp.sources.length
    · rw [decide_eq_true hlt, if_pos hlt, Bool.true_and, Bool.not_not, Bool.and_true, Bool.and_eq_true,
        List.all_eq_true]
      exact ⟨fun h => ⟨rfl, h.2, h.1⟩, fun h => ⟨h.2.2, h.2.1⟩⟩
    · rw [decide_eq_false hlt, if_neg hlt]
      simp

/-- **A project is never invalid without a reason and never valid with one**, whole or for a target. -/
theorem compileProject_valid_iff (snapshot : ProjectSnapshot) (flatPages : List View) (targetSourceIndex : Nat) :
    ((compileProject snapshot flatPages).valid = true ↔ (compileProject snapshot flatPages).diagnostics = []) ∧
      ((compileProjectTarget snapshot flatPages targetSourceIndex).valid = true ↔
        (compileProjectTarget snapshot flatPages targetSourceIndex).diagnostics = []) :=
  ⟨(compileProject_compiled snapshot flatPages).valid,
    (compileProjectTarget_compiled snapshot flatPages targetSourceIndex).valid⟩

/-- **The first failing stage explains itself**: in front of what the passes report stands the failure of the first
    module in source order that does not parse, or else of the first of the lowered modules that does not prove or
    lower, at its own span; and in front of that a target that is not there. -/
theorem compileProject_reported (snapshot : ProjectSnapshot) (flatPages : List View) (targetSourceIndex : Nat) :
    let inp : Input := { sources := snapshot.sources, flatPages := flatPages }
    (compileProject snapshot flatPages).diagnostics =
        (stageReport ((parsedModules inp 0 false).findSome? parseFailureOf)
          ((parsedModules inp 0 false).findSome? (failureOf inp (wholeScope inp)))).toList ++
            passReports inp (parsedModules inp 0 false) ∧
      (compileProjectTarget snapshot flatPages targetSourceIndex).diagnostics =
        ((missingTarget inp targetSourceIndex).map ProjectDiagnostic.targetModuleMissing).toList ++
          ((stageReport ((parsedModules inp targetSourceIndex true).findSome? parseFailureOf)
            ((chosenModules inp targetSourceIndex).findSome?
              (failureOf inp (chosenScope inp targetSourceIndex)))).toList ++
                passReports inp (parsedModules inp targetSourceIndex true)) :=
  ⟨(compileProject_compiled snapshot flatPages).reported,
    (compileProjectTarget_compiled snapshot flatPages targetSourceIndex).reported⟩

end MncsCompiler.Project
