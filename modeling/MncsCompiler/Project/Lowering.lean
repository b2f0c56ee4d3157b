import MncsCompiler.Project.Closure
import MncsCompiler.Project.Diagnostics
import MncsCompiler.Project.Imports
import MncsCompiler.Project.Markers
import MncsCompiler.Ssa.Summary

/-!
# `Project.Lowering` — from parsed modules to a compiled project

`lower_project_modules` proves every parsed module against the signatures, the nominal types and the schemas that it can
see, and makes its flow graphs and its value SSA form; `lower_project_modules_for_source` does so for one of them, with
the schemas of the modules that it imports. `compile_project` and `compile_project_target` put the passes together. What
the lowering of a module says of it is its outcome (`failureOf`); the first module without a good one is the one that is
reported.
-/

namespace MncsCompiler.Project

open BoundedLoop Decl Flow Ssa

/-! ## Schemas -/

/-- What a module sees: the markers, and the types that it can name. -/
def moduleNominals (inp : Input) (nominalModules : List NominalModule) (markers : List NominalTypeIdentity)
    (sourceIndex : Nat) : List NominalTypeIdentity :=
  let facts := nominalModuleByIndex inp nominalModules sourceIndex
  combineNominalTypeIdentities markers facts.facts.resolved

structure ProjectRecordFields where
  fields : List ImportedRecordField
  ok : Bool

structure ProjectEnumFields where
  fields : List ImportedEnumField
  ok : Bool

structure ProjectEnumVariantBuild where
  variants : List ImportedEnumVariant
  ok : Bool

/-- The fields read so far, last first. -/
structure ProjectFieldWalk (α : Type) where
  index : Nat
  acc : List α
  ok : Bool

section Declarations

variable (src : Source) (records : List RecordDecl) (enums : List EnumDecl)
  (markers targetNominals : List NominalTypeIdentity)

/-- The type of a field, with the project's marker for each type that is named. -/
def projectFieldType (field : Field) : TypeTransport :=
  let resolved := resolveType src field.typeKind field.typeStart field.typeStop records enums targetNominals
  let transported := transportTypeInModule src resolved.ty targetNominals markers
  { ty := transported.ty, ok := resolved.ok && transported.ok }

def projectRecordFieldCons (st : ProjectFieldWalk ImportedRecordField) (field : Field)
    : ProjectFieldWalk ImportedRecordField :=
  let transported := projectFieldType src records enums markers targetNominals field
  let item : ImportedRecordField :=
    { name := signatureNameKey src field.nameStart field.nameStop, index := st.index, ty := transported.ty
      typeValid := transported.ok }
  { index := st.index + 1, acc := item :: st.acc, ok := st.ok && transported.ok }

def projectRecordFields (fields : List Field) : ProjectRecordFields :=
  let st := (Sweep.step (projectRecordFieldCons src records enums markers targetNominals))^[1024]
    { rest := fields, acc := { index := 0, acc := [], ok := true } }
  { fields := reverseWithin 1024 st.acc.acc, ok := st.acc.ok }

def projectRecordDeclCons (acc : List ImportedRecordSchema) (recordDecl : RecordDecl) : List ImportedRecordSchema :=
  let identity := nominalIdentityByName src targetNominals recordDecl.nameStart recordDecl.nameStop
  let builtFields := projectRecordFields src records enums markers targetNominals recordDecl.fields
  if !identity.found then acc else { identity := identity.identity, fields := builtFields.fields } :: acc

def projectRecordDecls (acc : List ImportedRecordSchema) : List ImportedRecordSchema :=
  ((Sweep.step (projectRecordDeclCons src records enums markers targetNominals))^[1024]
    { rest := records, acc := acc }).acc

def projectEnumFieldCons (st : ProjectFieldWalk ImportedEnumField) (field : Field)
    : ProjectFieldWalk ImportedEnumField :=
  let transported := projectFieldType src records enums markers targetNominals field
  let item : ImportedEnumField :=
    { name := signatureNameKey src field.nameStart field.nameStop, index := st.index, ty := transported.ty
      typeValid := transported.ok }
  { index := st.index + 1, acc := item :: st.acc, ok := st.ok && transported.ok }

def projectEnumFields (fields : List Field) : ProjectEnumFields :=
  let st := (Sweep.step (projectEnumFieldCons src records enums markers targetNominals))^[1024]
    { rest := fields, acc := { index := 0, acc := [], ok := true } }
  { fields := reverseWithin 1024 st.acc.acc, ok := st.acc.ok }

def projectEnumVariantCons (st : ProjectEnumVariantBuild) (variant : Variant) : ProjectEnumVariantBuild :=
  let built := projectEnumFields src records enums markers targetNominals variant.fields
  let item : ImportedEnumVariant :=
    { name := signatureNameKey src variant.nameStart variant.nameStop, fields := built.fields }
  { variants := item :: st.variants, ok := st.ok && built.ok }

def projectEnumVariants (variants : List Variant) : ProjectEnumVariantBuild :=
  let st := (Sweep.step (projectEnumVariantCons src records enums markers targetNominals))^[1024]
    { rest := variants, acc := { variants := [], ok := true } }
  { variants := reverseWithin 1024 st.acc.variants, ok := st.acc.ok }

def projectEnumDeclCons (acc : List ImportedEnumSchema) (enumDecl : EnumDecl) : List ImportedEnumSchema :=
  let identity := nominalIdentityByName src targetNominals enumDecl.nameStart enumDecl.nameStop
  let built := projectEnumVariants src records enums markers targetNominals enumDecl.variants
  if !identity.found then acc else { identity := identity.identity, variants := built.variants } :: acc

def projectEnumDecls (acc : List ImportedEnumSchema) : List ImportedEnumSchema :=
  ((Sweep.step (projectEnumDeclCons src records enums markers targetNominals))^[1024] { rest := enums, acc := acc }).acc

end Declarations

section Modules

variable (inp : Input) (nominalModules : List NominalModule) (markers : List NominalTypeIdentity)

def projectRecordModuleCons (acc : List ImportedRecordSchema) (parsed : ParsedModule) : List ImportedRecordSchema :=
  let targetNominals := moduleNominals inp nominalModules markers parsed.sourceIndex
  projectRecordDecls (moduleSource inp parsed.sourceIndex) parsed.unit.records parsed.unit.enums markers
    targetNominals acc

def projectRecordSchemas (modules : List ParsedModule) : List ImportedRecordSchema :=
  ((Sweep.step (projectRecordModuleCons inp nominalModules markers))^[64] { rest := modules, acc := [] }).acc

def projectEnumModuleCons (acc : List ImportedEnumSchema) (parsed : ParsedModule) : List ImportedEnumSchema :=
  let targetNominals := moduleNominals inp nominalModules markers parsed.sourceIndex
  projectEnumDecls (moduleSource inp parsed.sourceIndex) parsed.unit.records parsed.unit.enums markers targetNominals
    acc

def projectEnumSchemas (modules : List ParsedModule) : List ImportedEnumSchema :=
  ((Sweep.step (projectEnumModuleCons inp nominalModules markers))^[64] { rest := modules, acc := [] }).acc

end Modules

/-! ## Modules -/

structure ProjectModule where
  sourceId : View
  sourcePath : View
  sourceIndex : Nat
  flow : LoweredUnit
  valueSsa : ValueSsaSummary

/-- The modules to lower and those lowered, the first of them that failed, and what all of them see. -/
structure ProjectBuild where
  rest : List ParsedModule
  all : List ParsedModule
  nominalModules : List NominalModule
  nominalMarkers : List NominalTypeIdentity
  importedRecords : List ImportedRecordSchema
  importedEnums : List ImportedEnumSchema
  acc : List ProjectModule
  valid : Bool
  ssaValid : Bool
  count : Nat
  failed : StageFailure
  targetMissing : Bool

def noFailure : StageFailure := { stage := 0, sourceIndex := 0, code := 0, start := 0, stop := 0 }

def lowerStageFailure (prior : StageFailure) (sourceIndex : Nat) (proof : UnitProve) (lowered : LoweredUnit)
    : StageFailure :=
  if prior.stage ≠ 0 then prior
  else if !proof.ok then
    { stage := 2, sourceIndex := sourceIndex, code := 0, start := proof.errStart, stop := proof.errStop }
  else if !lowered.valid then
    let diag := firstDiagnostic lowered
    { stage := 3, sourceIndex := sourceIndex, code := diag.code, start := diag.start, stop := diag.stop }
  else prior

def lowerOneProjectModule (inp : Input) (st : ProjectBuild) (parsed : ParsedModule) (rest : List ParsedModule)
    : ProjectBuild :=
  let src := moduleSource inp parsed.sourceIndex
  let nominals := moduleNominals inp st.nominalModules st.nominalMarkers parsed.sourceIndex
  let imported := importedSignatures inp parsed st.all nominals st.nominalModules
  let proof := proveParsedUnitWithImportedSchemas src parsed.unit imported nominals st.importedRecords st.importedEnums
  let lowered := lowerProvenUnit src proof
  let valueSsa := lowerValueSsaWithImportedSchemas src lowered nominals st.importedRecords st.importedEnums
  { st with
    rest := rest
    acc :=
      { sourceId := parsed.sourceId, sourcePath := parsed.sourcePath, sourceIndex := parsed.sourceIndex
        flow := lowered, valueSsa := valueSsa } :: st.acc
    valid := st.valid && lowered.valid, ssaValid := st.ssaValid && valueSsa.valid, count := st.count + 1
    failed := lowerStageFailure st.failed parsed.sourceIndex proof lowered }

def lowerProjectOne (inp : Input) (st : ProjectBuild) : ProjectBuild :=
  match st.rest with
  | [] => st
  | parsed :: rest => lowerOneProjectModule inp st parsed rest

def beginProjectLoweringForModules (rest all : List ParsedModule) (nominalModules : List NominalModule)
    (nominalMarkers : List NominalTypeIdentity) (importedRecords : List ImportedRecordSchema)
    (importedEnums : List ImportedEnumSchema) (targetFound : Bool) : ProjectBuild :=
  { rest := rest, all := all, nominalModules := nominalModules, nominalMarkers := nominalMarkers
    importedRecords := importedRecords, importedEnums := importedEnums, acc := [], valid := targetFound
    ssaValid := targetFound, count := 0
    failed := noFailure, targetMissing := !targetFound }

def beginProjectLoweringWithSchemas (modules : List ParsedModule) (nominalModules : List NominalModule)
    (nominalMarkers : List NominalTypeIdentity) (importedRecords : List ImportedRecordSchema)
    (importedEnums : List ImportedEnumSchema) : ProjectBuild :=
  { rest := modules, all := modules, nominalModules := nominalModules, nominalMarkers := nominalMarkers
    importedRecords := importedRecords, importedEnums := importedEnums, acc := [], valid := true, ssaValid := true
    count := 0
    failed := noFailure, targetMissing := false }

/-- The modules of a build in order. -/
def finishProjectLowering (inp : Input) (st : ProjectBuild) (targetMissing : Bool) : ProjectBuild :=
  { st with rest := [], acc := reverseWithin inp.sources.length st.acc, targetMissing := targetMissing }

def lowerProjectModules (inp : Input) (modules : List ParsedModule) (nominalModules : List NominalModule)
    : ProjectBuild :=
  let markers := projectNominalMarkers nominalModules
  let importedRecords := projectRecordSchemas inp nominalModules markers modules
  let importedEnums := projectEnumSchemas inp nominalModules markers modules
  let initial := beginProjectLoweringWithSchemas modules nominalModules markers importedRecords importedEnums
  finishProjectLowering inp ((lowerProjectOne inp)^[inp.sources.length] initial) false

def lowerProjectModulesSelected (inp : Input) (allModules toLower : List ParsedModule)
    (nominalModules : List NominalModule) (dependencyModules : List ParsedModule) (targetFound : Bool) : ProjectBuild :=
  let markers := projectNominalMarkers nominalModules
  let importedRecords := projectRecordSchemas inp nominalModules markers dependencyModules
  let importedEnums := projectEnumSchemas inp nominalModules markers dependencyModules
  let initial :=
    beginProjectLoweringForModules toLower allModules nominalModules markers importedRecords importedEnums targetFound
  let st := (lowerProjectOne inp)^[inp.sources.length] initial
  finishProjectLowering inp st st.targetMissing

structure TargetModuleSelection where
  rest : List ParsedModule
  selected : List ParsedModule
  targetSourceIndex : Nat
  found : Bool

def selectTargetModuleOne (st : TargetModuleSelection) (parsed : ParsedModule) (rest : List ParsedModule)
    : TargetModuleSelection :=
  if parsed.sourceIndex = st.targetSourceIndex then { st with rest := rest, selected := [parsed], found := true }
  else { st with rest := rest, found := false }

def selectTargetModuleStep (st : TargetModuleSelection) : TargetModuleSelection :=
  match st.rest with
  | [] => st
  | parsed :: rest => selectTargetModuleOne st parsed rest

def selectTargetModule (modules : List ParsedModule) (targetSourceIndex : Nat) : TargetModuleSelection :=
  (iterate (fun _ (st : TargetModuleSelection) =>
        if st.found || st.rest.isEmpty then .ret st else .next (selectTargetModuleStep st))
      0 64 { rest := modules, selected := [], targetSourceIndex := targetSourceIndex, found := false }).after id

def lowerProjectModulesForSource (inp : Input) (modules : List ParsedModule) (imports : List ImportLink)
    (nominalModules : List NominalModule) (targetSourceIndex : Nat) : ProjectBuild :=
  let selected := selectTargetModule modules targetSourceIndex
  let dependencyClosure := projectImportClosure imports targetSourceIndex inp.sources.length
  let dependencyModules := projectModulesInClosure inp.sources modules dependencyClosure.reachable
  lowerProjectModulesSelected inp modules selected.selected nominalModules dependencyModules selected.found

/-! ## Projects -/

structure ProjectResult where
  valid : Bool
  fingerprint : View
  fingerprintAuthenticated : Bool
  valueSsaValid : Bool
  sourceCount : Nat
  moduleCount : Nat
  importCount : Nat
  importModuleNameComparisons : Nat
  importResolutionCacheHits : Nat
  importResolutionNegativeCacheHits : Nat
  importResolutionCacheEntriesMax : Nat
  modules : List ProjectModule
  imports : List ImportLink
  diagnostics : List ProjectDiagnostic

def compileProject (snapshot : ProjectSnapshot) (flatPages : List View) : ProjectResult :=
  let inp : Input := { sources := snapshot.sources, flatPages := flatPages }
  let ordered := sourceOrdered inp.sources
  let countsMatch := descriptorsCover inp
  let built := buildModules inp 0 false
  let parsed := reverseModules inp.sources built.acc
  let resolved := resolveImports inp parsed
  let localNominals := collectLocalNominalModules inp parsed
  let nominalModules := resolveProjectNominalModules inp parsed localNominals
  let lowered := lowerProjectModules inp parsed nominalModules
  let diagnostics := compileProjectDiagnostics inp lowered.failed
  let valid :=
    ordered && countsMatch && built.valid && diagnosticsEmpty inp.sources diagnostics && resolved.valid && lowered.valid
  { valid := valid, fingerprint := snapshot.fingerprint, fingerprintAuthenticated := false
    valueSsaValid := lowered.ssaValid && resolved.valid, sourceCount := inp.sources.length
    moduleCount := built.count, importCount := resolved.count
    importModuleNameComparisons := resolved.importModuleNameComparisons
    importResolutionCacheHits := resolved.importResolutionCacheHits
    importResolutionNegativeCacheHits := resolved.importResolutionNegativeCacheHits
    importResolutionCacheEntriesMax := resolved.importResolutionCacheEntriesMax
    modules := lowered.acc, imports := resolved.imports, diagnostics := diagnostics }

def compileProjectTarget (snapshot : ProjectSnapshot) (flatPages : List View) (targetSourceIndex : Nat)
    : ProjectResult :=
  let inp : Input := { sources := snapshot.sources, flatPages := flatPages }
  let ordered := sourceOrdered inp.sources
  let countsMatch := descriptorsCover inp
  let built := buildModules inp targetSourceIndex true
  let parsed := reverseModules inp.sources built.acc
  let resolved := resolveImports inp parsed
  let localNominals := collectLocalNominalModules inp parsed
  let nominalModules := resolveProjectNominalModules inp parsed localNominals
  let lowered := lowerProjectModulesForSource inp parsed resolved.imports nominalModules targetSourceIndex
  let diagnostics := compileProjectTargetDiagnostics inp targetSourceIndex lowered.failed lowered.targetMissing
  let valid :=
    ordered && countsMatch && built.valid && diagnosticsEmpty inp.sources diagnostics && resolved.valid &&
      lowered.valid && !lowered.targetMissing
  { valid := valid, fingerprint := snapshot.fingerprint, fingerprintAuthenticated := false
    valueSsaValid := lowered.ssaValid && resolved.valid && !lowered.targetMissing
    sourceCount := inp.sources.length, moduleCount := built.count, importCount := resolved.count
    importModuleNameComparisons := resolved.importModuleNameComparisons
    importResolutionCacheHits := resolved.importResolutionCacheHits
    importResolutionNegativeCacheHits := resolved.importResolutionNegativeCacheHits
    importResolutionCacheEntriesMax := resolved.importResolutionCacheEntriesMax
    modules := lowered.acc, imports := resolved.imports, diagnostics := diagnostics }

/-! ## The outcome of a module -/

/-- What all modules of a build see. -/
structure Scope where
  all : List ParsedModule
  nominalModules : List NominalModule
  markers : List NominalTypeIdentity
  importedRecords : List ImportedRecordSchema
  importedEnums : List ImportedEnumSchema

def ProjectBuild.scope (st : ProjectBuild) : Scope :=
  { all := st.all, nominalModules := st.nominalModules, markers := st.nominalMarkers
    importedRecords := st.importedRecords, importedEnums := st.importedEnums }

section Outcome

variable (inp : Input) (scope : Scope) (parsed : ParsedModule)

def nominalsOf : List NominalTypeIdentity :=
  moduleNominals inp scope.nominalModules scope.markers parsed.sourceIndex

/-- The proof of a module. -/
def proofOf : UnitProve :=
  proveParsedUnitWithImportedSchemas (moduleSource inp parsed.sourceIndex) parsed.unit
    (importedSignatures inp parsed scope.all (nominalsOf inp scope parsed) scope.nominalModules)
    (nominalsOf inp scope parsed) scope.importedRecords scope.importedEnums

def loweredOf : LoweredUnit := lowerProvenUnit (moduleSource inp parsed.sourceIndex) (proofOf inp scope parsed)

def valueSsaOf : ValueSsaSummary :=
  lowerValueSsaWithImportedSchemas (moduleSource inp parsed.sourceIndex) (loweredOf inp scope parsed)
    (nominalsOf inp scope parsed) scope.importedRecords scope.importedEnums

/-- The entry of a module in the result. -/
def entryOf : ProjectModule :=
  { sourceId := parsed.sourceId, sourcePath := parsed.sourcePath, sourceIndex := parsed.sourceIndex
    flow := loweredOf inp scope parsed, valueSsa := valueSsaOf inp scope parsed }

/-- The stage at which the lowering of a module fails. -/
def failureOf : Option StageFailure :=
  if !(proofOf inp scope parsed).ok then
    some
      { stage := 2, sourceIndex := parsed.sourceIndex, code := 0, start := (proofOf inp scope parsed).errStart
        stop := (proofOf inp scope parsed).errStop }
  else if !(loweredOf inp scope parsed).valid then
    some
      { stage := 3, sourceIndex := parsed.sourceIndex, code := (firstDiagnostic (loweredOf inp scope parsed)).code
        start := (firstDiagnostic (loweredOf inp scope parsed)).start
        stop := (firstDiagnostic (loweredOf inp scope parsed)).stop }
  else none

end Outcome

variable {inp : Input} {scope : Scope} {parsed : ParsedModule}

/-- A failure, if its stage is one. -/
def StageFailure.raised? (failed : StageFailure) : Option StageFailure := if failed.stage = 0 then none else some failed

theorem lowerProvenUnit_of_failed {src : Source} {proof : UnitProve} (h : proof.ok = false) :
    (lowerProvenUnit src proof).valid = false := by
  rw [lowerProvenUnit, h]
  rfl

/-- **Nothing fails in silence**: the flow graphs of a module are valid exactly when no stage of it has failed. -/
theorem failureOf_eq_none_iff : failureOf inp scope parsed = none ↔ (loweredOf inp scope parsed).valid = true := by
  unfold failureOf
  cases hproof : (proofOf inp scope parsed).ok with
  | false =>
      have hinvalid : (loweredOf inp scope parsed).valid = false := lowerProvenUnit_of_failed hproof
      simp [hinvalid]
  | true => cases hvalid : (loweredOf inp scope parsed).valid <;> simp

/-- The first failure is kept. -/
theorem lowerStageFailure_raised (prior : StageFailure) :
    (lowerStageFailure prior parsed.sourceIndex (proofOf inp scope parsed) (loweredOf inp scope parsed)).raised? =
      prior.raised?.or (failureOf inp scope parsed) := by
  by_cases hprior : prior.stage = 0
  · have hnone : prior.raised? = none := if_pos hprior
    rw [hnone, Option.none_or, lowerStageFailure, if_neg (not_not.mpr hprior), failureOf]
    split
    · rfl
    split
    · rfl
    · exact hnone
  · have hsome : prior.raised? = some prior := if_neg hprior
    rw [lowerStageFailure, if_pos hprior, hsome]
    rfl

/-! ## Builds -/

/-- A build after some of its modules, whose outcomes do not depend on each other. -/
structure Built (inp : Input) (scope : Scope) (done : List ParsedModule) (found : Bool) (st : ProjectBuild) : Prop where
  sees : st.scope = scope
  acc : st.acc = (done.map (entryOf inp scope)).reverse
  valid : st.valid = (found && done.all fun parsed => (loweredOf inp scope parsed).valid)
  ssaValid : st.ssaValid = (found && done.all fun parsed => (valueSsaOf inp scope parsed).valid)
  count : st.count = done.length
  failed : st.failed.raised? = done.findSome? (failureOf inp scope)
  targetMissing : st.targetMissing = !found

theorem Built.step {done : List ParsedModule} {found : Bool} {st : ProjectBuild} (h : Built inp scope done found st)
    (rest : List ParsedModule) :
    Built inp scope (done ++ [parsed]) found (lowerOneProjectModule inp st parsed rest) := by
  obtain ⟨hscope, hacc, hvalid, hssa, hcount, hfailed, hmissing⟩ := h
  subst hscope
  refine ⟨rfl, ?_, ?_, ?_, ?_, ?_, hmissing⟩
  · show entryOf inp st.scope parsed :: st.acc = _
    rw [hacc, List.map_append, List.reverse_append]
    rfl
  · show (st.valid && (loweredOf inp st.scope parsed).valid) = _
    rw [hvalid, List.all_append, Bool.and_assoc]
    simp
  · show (st.ssaValid && (valueSsaOf inp st.scope parsed).valid) = _
    rw [hssa, List.all_append, Bool.and_assoc]
    simp
  · show st.count + 1 = _
    rw [hcount, List.length_append]
    rfl
  · show (lowerStageFailure st.failed parsed.sourceIndex (proofOf inp st.scope parsed)
      (loweredOf inp st.scope parsed)).raised? = _
    rw [lowerStageFailure_raised, hfailed, List.findSome?_append]
    congr 1
    rw [List.findSome?_cons]
    cases failureOf inp st.scope parsed <;> rfl

/-- **A build lowers every module once**, in order. -/
theorem Built.run {found : Bool} (n : Nat) {done : List ParsedModule} {st : ProjectBuild}
    (h : Built inp scope done found st) (hn : st.rest.length ≤ n) :
    Built inp scope (done ++ st.rest) found ((lowerProjectOne inp)^[n] st) := by
  induction n generalizing done st with
  | zero =>
      rw [List.eq_nil_of_length_eq_zero (Nat.le_zero.mp hn), List.append_nil]
      exact h
  | succ n ih =>
      rw [Function.iterate_succ_apply]
      cases hrest : st.rest with
      | nil =>
          have hstep : lowerProjectOne inp st = st := by rw [lowerProjectOne, hrest]
          have hrun := ih h (by rw [hrest]; exact Nat.zero_le n)
          rw [hrest] at hrun
          rw [hstep]
          exact hrun
      | cons parsed rest =>
          have hstep : lowerProjectOne inp st = lowerOneProjectModule inp st parsed rest := by
            rw [lowerProjectOne, hrest]
          rw [hrest, List.length_cons] at hn
          rw [hstep, ← List.singleton_append, ← List.append_assoc]
          exact ih (h.step rest) (Nat.le_of_succ_le_succ hn)

end MncsCompiler.Project
