import MncsCompiler.Project.Valid

/-!
# `Project.Target` — the target against the whole project

A target is compiled with the bodies of its providers dropped: `parse_unit_signatures` parses a whole unit and keeps the
declarations. Everything that the passes over the project read — headers, uses, declarations, errors — is the same in
both modes, so that the links, the order, duplicate and import diagnostics and the module that does not parse are those
of the whole project, whichever source is the target.
-/

namespace MncsCompiler.Project

open BoundedLoop Decl Flow Ssa

variable {inp : Input}

/-! ## Bodies -/

/-- A function without its body. -/
def withoutBody (fn : FnDecl) : FnDecl := { fn with body := { body := [], ret := .name 0 0, hasRet := false } }

/-- A unit without the bodies of its functions. -/
def bodiless (u : Decl.Unit) : Decl.Unit := { u with fns := u.fns.map withoutBody }

/-- A parse without the bodies that it has kept. -/
def statedBodiless (st : UnitState) : UnitState := { st with fns := st.fns.map withoutBody, retainBodies := false }

theorem withoutBody_ite {c : Prop} [Decidable c] {a b b' : FnDecl} (h : withoutBody b = withoutBody b') :
    withoutBody (if c then a else b) = withoutBody (if c then a else b') := by
  by_cases hc : c
  · rw [if_pos hc, if_pos hc]
  · rw [if_neg hc, if_neg hc, h]

/-- A function is parsed as far whether its body is kept or not. -/
theorem parseFn_withoutBody (src : Source) (cursor start : Nat) (profile013 retainBody : Bool) :
    withoutBody (parseFn src cursor start profile013 retainBody) =
      withoutBody (parseFn src cursor start profile013 false) := by
  cases retainBody with
  | false => rfl
  | true =>
      unfold parseFn
      dsimp only
      -- one failure for each part of the declaration
      iterate 14 refine withoutBody_ite ?_
      rw [if_neg (show ¬ (!true) = true by decide), if_pos (show (!false) = true by decide)]
      simp only [withoutBody]

theorem map_withoutBody (fns : List FnDecl) : (fns.map withoutBody).map withoutBody = fns.map withoutBody := by
  rw [List.map_map]
  rfl

theorem statedBodiless_idem (st : UnitState) : statedBodiless (statedBodiless st) = statedBodiless st := by
  rw [statedBodiless, statedBodiless, map_withoutBody]

theorem statedBodiless_ite {c : Prop} [Decidable c] {a b a' b' : UnitState} (ha : statedBodiless a = statedBodiless a')
    (hb : statedBodiless b = statedBodiless b') :
    statedBodiless (if c then a else b) = statedBodiless (if c then a' else b') := by
  by_cases hc : c
  · rw [if_pos hc, if_pos hc, ha]
  · rw [if_neg hc, if_neg hc, hb]

theorem unitFn_bodiless (src : Source) (st : UnitState) (token : Token) :
    statedBodiless (unitFn src st token) = statedBodiless (unitFn src (statedBodiless st) token) := by
  have hfn := parseFn_withoutBody src token.stop token.start st.profile013 st.retainBodies
  have hkept : unitFn src st token =
      if !(withoutBody (parseFn src token.stop token.start st.profile013 st.retainBodies)).ok then
        let decl := withoutBody (parseFn src token.stop token.start st.profile013 st.retainBodies)
        { st with ok := false, errStart := decl.errStart, errStop := decl.errStop, done := true }
      else
        { st with
          cursor := (withoutBody (parseFn src token.stop token.start st.profile013 st.retainBodies)).cursor, ok := true
          errStart := 0, errStop := 0
          fns := parseFn src token.stop token.start st.profile013 st.retainBodies :: st.fns, count := st.count + 1
          done := false } := rfl
  have hdropped : unitFn src (statedBodiless st) token =
      if !(withoutBody (parseFn src token.stop token.start st.profile013 false)).ok then
        let decl := withoutBody (parseFn src token.stop token.start st.profile013 false)
        { statedBodiless st with ok := false, errStart := decl.errStart, errStop := decl.errStop, done := true }
      else
        { statedBodiless st with
          cursor := (withoutBody (parseFn src token.stop token.start st.profile013 false)).cursor, ok := true
          errStart := 0, errStop := 0
          fns := parseFn src token.stop token.start st.profile013 false :: (statedBodiless st).fns
          count := st.count + 1, done := false } := rfl
  rw [hkept, hdropped, hfn]
  refine statedBodiless_ite ?_ ?_
  · simp only [statedBodiless, map_withoutBody]
  · simp only [statedBodiless, List.map_cons, map_withoutBody, hfn]

/-- **A step of the parser** does not look at the bodies. -/
theorem unitStep_bodiless (src : Source) (st : UnitState) :
    statedBodiless (unitStep src st) = statedBodiless (unitStep src (statedBodiless st)) := by
  rw [unitStep, unitStep]
  refine statedBodiless_ite (statedBodiless_idem st).symm ?_
  refine statedBodiless_ite ?_ (statedBodiless_ite ?_ (statedBodiless_ite ?_ (statedBodiless_ite ?_ ?_)))
  · simp only [statedBodiless, map_withoutBody]
  · unfold unitEnum
    refine statedBodiless_ite ?_ ?_
    · simp only [statedBodiless, map_withoutBody]
    · simp only [statedBodiless, map_withoutBody]
  · unfold unitRecord
    refine statedBodiless_ite ?_ ?_
    · simp only [statedBodiless, map_withoutBody]
    · simp only [statedBodiless, map_withoutBody]
  · exact unitFn_bodiless src st (src.token st.cursor)
  · simp only [statedBodiless, map_withoutBody]

theorem iterate_unitStep_bodiless (src : Source) (n : Nat) {st other : UnitState}
    (h : statedBodiless st = statedBodiless other) :
    statedBodiless ((unitStep src)^[n] st) = statedBodiless ((unitStep src)^[n] other) := by
  induction n generalizing st other with
  | zero => exact h
  | succ n ih =>
      rw [Function.iterate_succ_apply, Function.iterate_succ_apply]
      apply ih
      rw [unitStep_bodiless, h, ← unitStep_bodiless]

theorem bodiless_ite {c : Prop} [Decidable c] {a b a' b' : Decl.Unit} (ha : bodiless a = bodiless a')
    (hb : bodiless b = bodiless b') : bodiless (if c then a else b) = bodiless (if c then a' else b') := by
  by_cases hc : c
  · rw [if_pos hc, if_pos hc, ha]
  · rw [if_neg hc, if_neg hc, hb]

theorem finishUnit_bodiless (src : Source) (head : Parser.Header) {st other : UnitState}
    (h : statedBodiless st = statedBodiless other) :
    bodiless (finishUnit src head st) = bodiless (finishUnit src head other) := by
  have hfinish : ∀ s : UnitState, bodiless (finishUnit src head s) =
      bodiless (finishUnit src head (statedBodiless s)) := by
    intro s
    unfold finishUnit
    refine bodiless_ite rfl (bodiless_ite rfl (bodiless_ite rfl (bodiless_ite rfl ?_)))
    simp only [statedBodiless, bodiless, reverseFns, reverseBatches_eq, ← List.map_take, List.map_reverse,
      map_withoutBody]
  rw [hfinish st, h, ← hfinish other]

/-- **A unit parsed for its signatures** is the unit without its bodies, errors included. -/
theorem parseUnitSignatures_bodiless (src : Source) :
    bodiless (parseUnitSignatures src) = bodiless (parseUnit src) := by
  rw [parseUnitSignatures, parseUnit]
  unfold parseUnitMode
  dsimp only
  split
  · rfl
  split
  · rfl
  split
  · rfl
  · rw [iterate_batches (finishUnit src (header src)) (unitStep_fixed src),
      iterate_batches (finishUnit src (header src)) (unitStep_fixed src)]
    exact finishUnit_bodiless src (header src) (iterate_unitStep_bodiless src (1024 * 1024) rfl)

/-! ## Modules -/

/-- A module without the bodies of its functions. -/
def moduleBodiless (parsed : ParsedModule) : ParsedModule := { parsed with unit := bodiless parsed.unit }

theorem moduleAt_bodiless (targetSourceIndex : Nat) (targetOnly : Bool) (k : Nat) (item : ProjectSource) :
    moduleBodiless (moduleAt inp targetSourceIndex targetOnly k item) =
      moduleBodiless (moduleAt inp 0 false k item) := by
  have hunit : ∀ src : Source, bodiless (parseProjectUnit src k targetSourceIndex targetOnly) =
      bodiless (parseProjectUnit src k 0 false) := by
    intro src
    unfold parseProjectUnit
    rw [if_neg (show ¬ (false && decide (k ≠ 0)) = true from Bool.false_ne_true)]
    split
    · exact parseUnitSignatures_bodiless src
    · rfl
  rw [moduleBodiless, moduleBodiless, moduleAt, moduleAt, hunit]

/-- The modules of a project, in either mode, up to bodies. -/
theorem parsedModules_bodiless (targetSourceIndex : Nat) (targetOnly : Bool) :
    (parsedModules inp targetSourceIndex targetOnly).map moduleBodiless =
      (parsedModules inp 0 false).map moduleBodiless := by
  rw [parsedModules_eq, parsedModules_eq]
  apply List.ext_getElem
  · simp
  · intro k hk hk'
    rw [List.getElem_map, List.getElem_map, List.getElem_mapIdx, List.getElem_mapIdx, moduleAt_bodiless]

theorem findSome?_parseFailureOf (targetSourceIndex : Nat) (targetOnly : Bool) :
    (parsedModules inp targetSourceIndex targetOnly).findSome? parseFailureOf =
      (parsedModules inp 0 false).findSome? parseFailureOf := by
  have hmap : ∀ modules : List ParsedModule,
      modules.findSome? parseFailureOf = (modules.map moduleBodiless).findSome? parseFailureOf := by
    intro modules
    rw [List.findSome?_map]
    rfl
  rw [hmap, parsedModules_bodiless, ← hmap]

/-! ## Imports -/

theorem findImportTarget_bodiless (all : List ParsedModule) (current : ParsedModule) (usage : UseDecl) :
    (findImportTarget inp (all.map moduleBodiless) (moduleBodiless current) usage).found =
        (findImportTarget inp all current usage).found ∧
      (findImportTarget inp (all.map moduleBodiless) (moduleBodiless current) usage).index =
        (findImportTarget inp all current usage).index := by
  obtain ⟨hfound, hindex⟩ := findImportTarget_eq inp (all.map moduleBodiless) (moduleBodiless current) usage
  obtain ⟨hfound', hindex'⟩ := findImportTarget_eq inp all current usage
  have hfind : ((all.map moduleBodiless).take inp.sources.length).find? (isTarget inp (moduleBodiless current) usage) =
      ((all.take inp.sources.length).find? (isTarget inp current usage)).map moduleBodiless := by
    rw [← List.map_take, List.find?_map]
    rfl
  rw [hfound, hindex, hfound', hindex', hfind, Option.isSome_map, Option.map_map]
  exact ⟨rfl, rfl⟩

theorem useOutcome_bodiless (all : List ParsedModule) (current : ParsedModule) (usage : UseDecl) :
    useOutcome inp (all.map moduleBodiless) (moduleBodiless current) usage = useOutcome inp all current usage := by
  obtain ⟨hfound, hindex⟩ := @findImportTarget_bodiless inp all current usage
  rw [useOutcome, useOutcome, hfound, hindex]
  rfl

theorem resolveUses_bodiless (all : List ParsedModule) (current : ParsedModule) (uses : List UseDecl)
    (room count : Nat) :
    resolveUses inp (all.map moduleBodiless) (moduleBodiless current) room count uses =
      resolveUses inp all current room count uses := by
  induction uses generalizing room count with
  | nil => cases room <;> rfl
  | cons usage rest ih =>
      cases room with
      | zero => rfl
      | succ room =>
          rw [resolveUses, resolveUses, useOutcome_bodiless]
          simp only [ih]
          rfl

theorem resolveModules_bodiless (all modules : List ParsedModule) (count : Nat) :
    resolveModules inp (all.map moduleBodiless) count (modules.map moduleBodiless) =
      resolveModules inp all count modules := by
  induction modules generalizing count with
  | nil => rfl
  | cons current rest ih =>
      rw [List.map_cons, resolveModules, resolveModules, resolveUses_bodiless]
      simp only [ih]
      rfl

/-- The outcomes of the uses are the same in either mode. -/
theorem resolveModules_mode (targetSourceIndex : Nat) (targetOnly : Bool) :
    resolveModules inp (parsedModules inp targetSourceIndex targetOnly) 0
        ((parsedModules inp targetSourceIndex targetOnly).take inp.sources.length) =
      resolveModules inp (parsedModules inp 0 false) 0 ((parsedModules inp 0 false).take inp.sources.length) := by
  rw [← resolveModules_bodiless, List.map_take, parsedModules_bodiless, ← List.map_take, resolveModules_bodiless]

/-- What the passes over the project report, in either mode. -/
theorem passReports_mode (hsources : inp.sources.length ≤ 64) (targetSourceIndex : Nat) (targetOnly : Bool) :
    passReports inp (parsedModules inp targetSourceIndex targetOnly) = passReports inp (parsedModules inp 0 false) := by
  obtain ⟨-, hdiagnostics, -, -⟩ := resolveImports_outcomes (parsedModules inp targetSourceIndex targetOnly) hsources
  obtain ⟨-, hdiagnostics', -, -⟩ := resolveImports_outcomes (parsedModules inp 0 false) hsources
  rw [passReports, passReports, duplicateModules_parsed hsources, duplicateModules_parsed hsources, hdiagnostics,
    hdiagnostics', resolveModules_mode]

/-- **A target sees the project that the whole sees**: the links are the same, and so is all that is reported of the
    order, the names and the imports of the sources, and the first source that does not parse. Only the modules that are
    lowered differ: all of them, or the target alone. -/
theorem compileProjectTarget_agrees (snapshot : ProjectSnapshot) (flatPages : List View) (targetSourceIndex : Nat) :
    let inp : Input := { sources := snapshot.sources, flatPages := flatPages }
    let whole := compileProject snapshot flatPages
    let target := compileProjectTarget snapshot flatPages targetSourceIndex
    target.imports = whole.imports ∧ target.importCount = whole.importCount ∧
      ∃ unparsed passes,
        whole.diagnostics =
            (stageReport unparsed ((parsedModules inp 0 false).findSome? (failureOf inp (wholeScope inp)))).toList ++
              passes ∧
          target.diagnostics =
            ((missingTarget inp targetSourceIndex).map ProjectDiagnostic.targetModuleMissing).toList ++
              ((stageReport unparsed ((chosenModules inp targetSourceIndex).findSome?
                (failureOf inp (chosenScope inp targetSourceIndex)))).toList ++ passes) := by
  intro inp whole target
  have hsources : inp.sources.length ≤ 64 := snapshot.bounded
  obtain ⟨himports, -, hcount, -⟩ := resolveImports_outcomes (parsedModules inp targetSourceIndex true) hsources
  obtain ⟨himports', -, hcount', -⟩ := resolveImports_outcomes (parsedModules inp 0 false) hsources
  refine ⟨?_, ?_, (parsedModules inp 0 false).findSome? parseFailureOf, passReports inp (parsedModules inp 0 false),
    (compileProject_compiled snapshot flatPages).reported, ?_⟩
  · show (resolveImports inp (parsedModules inp targetSourceIndex true)).imports =
      (resolveImports inp (parsedModules inp 0 false)).imports
    rw [himports, himports', resolveModules_mode]
  · show (resolveImports inp (parsedModules inp targetSourceIndex true)).count =
      (resolveImports inp (parsedModules inp 0 false)).count
    rw [hcount, hcount', resolveModules_mode]
  · show (compileProjectTarget snapshot flatPages targetSourceIndex).diagnostics = _
    rw [(compileProjectTarget_compiled snapshot flatPages targetSourceIndex).reported, reports,
      findSome?_parseFailureOf targetSourceIndex true, passReports_mode hsources targetSourceIndex true]

end MncsCompiler.Project
