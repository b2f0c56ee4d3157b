import MncsCompiler.Decl.Profiles
import MncsCompiler.Project.Duplicates
import MncsCompiler.Project.Resolve

/-!
# `Project.Diagnostics` — the diagnostics of a compilation

`compile_project` and `compile_project_target` gather the diagnostics of their passes: the order of the sources, the
modules of one name, the imports, and in front of them the first stage that failed. What the lowering reports is an
argument here: the results below hold whatever it is.

`append_diagnostics` turns its first list round. The two joins leave the reports of duplicates back to front and before
the report of the order, and the imports as they were (`Joined`).
-/

namespace MncsCompiler.Project

open BoundedLoop Decl

/-- The first stage of the lowering that failed: 2 the proof, 3 the flow graph, 0 none. -/
structure StageFailure where
  stage : Nat
  sourceIndex : Nat
  code : Nat
  start : Nat
  stop : Nat

def appendStageDiagnostic (diagnostics : List ProjectDiagnostic) (built : ModuleBuild) (failed : StageFailure)
    : List ProjectDiagnostic :=
  if built.parseFailed then .parseFailed built.parseIndex built.parseStart built.parseStop :: diagnostics
  else if failed.stage = 0 then diagnostics
  else if failed.stage = 2 then .proofFailed failed.sourceIndex failed.start failed.stop :: diagnostics
  else .flowFailed failed.sourceIndex failed.code failed.start failed.stop :: diagnostics

def appendTargetMissing (diagnostics : List ProjectDiagnostic) (targetMissing : Bool) (targetSourceIndex : Nat)
    (targetOnly : Bool) : List ProjectDiagnostic :=
  if targetOnly && targetMissing then .targetModuleMissing targetSourceIndex :: diagnostics else diagnostics

/-- The diagnostics of `compile_project`. -/
def compileProjectDiagnostics (inp : Input) (failed : StageFailure) : List ProjectDiagnostic :=
  let ordered := sourceOrdered inp.sources
  let countsMatch := descriptorsCover inp
  let built := buildModules inp 0 false
  let parsed := reverseModules inp.sources built.acc
  let duplicate := duplicateModules inp parsed
  let resolved := resolveImports inp parsed
  let basic := orderDiagnostics inp.sources ordered countsMatch
  let diagnostics1 := appendDiagnostics basic duplicate
  let diagnostics2 := appendDiagnostics diagnostics1 resolved.diagnostics
  appendStageDiagnostic diagnostics2 built failed

/-- The diagnostics of `compile_project_target`. -/
def compileProjectTargetDiagnostics (inp : Input) (targetSourceIndex : Nat) (failed : StageFailure)
    (targetMissing : Bool) : List ProjectDiagnostic :=
  let ordered := sourceOrdered inp.sources
  let countsMatch := descriptorsCover inp
  let built := buildModules inp targetSourceIndex true
  let parsed := reverseModules inp.sources built.acc
  let duplicate := duplicateModules inp parsed
  let resolved := resolveImports inp parsed
  let basic := orderDiagnostics inp.sources ordered countsMatch
  let diagnostics1 := appendDiagnostics basic duplicate
  let diagnostics2 := appendDiagnostics diagnostics1 resolved.diagnostics
  let diagnostics3 := appendStageDiagnostic diagnostics2 built failed
  appendTargetMissing diagnostics3 targetMissing targetSourceIndex true

/-- The bounds that the types of the source and page arrays give. -/
structure Input.Bounded (inp : Input) : Prop where
  sources : inp.sources.length ≤ 64
  pages : ∀ index, (modulePages inp index).length ≤ 1024

/-! ## Kinds of diagnostics -/

/-- The pass that a gathered diagnostic comes from: the order, the duplicates or the imports. -/
def rank? : ProjectDiagnostic → Option Nat
  | .sourceOrder _ => some 0
  | .sourceCountMismatch _ => some 0
  | .duplicateModule _ _ _ => some 1
  | .missingImport _ _ _ => some 2
  | .importLimitExceeded _ _ _ _ => some 2
  | .parseFailed _ _ _ => none
  | .proofFailed _ _ _ => none
  | .flowFailed _ _ _ _ => none
  | .targetModuleMissing _ => none

/-- The source of a duplicate. -/
def duplicateSource? : ProjectDiagnostic → Option Nat
  | .duplicateModule index _ _ => some index
  | _ => none

/-- The diagnostics of the three passes, without those of the stages. -/
def gathered (diagnostics : List ProjectDiagnostic) : List ProjectDiagnostic :=
  diagnostics.filter fun diagnostic => (rank? diagnostic).isSome

def ofRank (rank : Nat) (diagnostics : List ProjectDiagnostic) : List ProjectDiagnostic :=
  diagnostics.filter fun diagnostic => rank? diagnostic = some rank

/-- A diagnostic of an import is about a use: its source and the span of its module name. -/
def AboutUse (sourceIndex : Nat) (usage : UseDecl) (diagnostic : ProjectDiagnostic) : Prop :=
  diagnostic = .missingImport sourceIndex usage.moduleStart usage.moduleStop ∨
    ∃ limit, diagnostic = .importLimitExceeded sourceIndex usage.moduleStart usage.moduleStop limit

theorem AboutUse.rank {sourceIndex : Nat} {usage : UseDecl} {diagnostic : ProjectDiagnostic}
    (h : AboutUse sourceIndex usage diagnostic) : rank? diagnostic = some 2 := by
  rcases h with rfl | ⟨limit, rfl⟩ <;> rfl

/-! ## The imports in order -/

variable {inp : Input} {all : List ParsedModule} {current : ParsedModule}

/-- The refused uses of a module are some of its uses, in order. -/
theorem refused_resolveUses (room count : Nat) (uses : List UseDecl) :
    ∃ selected : List UseDecl, selected.Sublist uses ∧
      List.Forall₂ (AboutUse current.sourceIndex) selected (refused (resolveUses inp all current room count uses).1) := by
  induction uses generalizing room count with
  | nil => exact ⟨[], .slnil, by simp [resolveUses, refused]⟩
  | cons usage rest ih =>
      have hlimit : ∀ limit, ∃ selected : List UseDecl, selected.Sublist (usage :: rest) ∧
          List.Forall₂ (AboutUse current.sourceIndex) selected (refused [limitOutcome current limit usage]) := by
        intro limit
        exact ⟨[usage], List.Sublist.cons_cons usage (List.nil_sublist rest), .cons (.inr ⟨limit, rfl⟩) .nil⟩
      cases room with
      | zero => exact hlimit 1024
      | succ room =>
          rw [resolveUses]
          split
          · exact hlimit 4096
          · obtain ⟨selected, hsub, hmatch⟩ :=
              ih room (count + (linked [useOutcome inp all current usage]).length)
            dsimp only
            rw [refused_cons]
            generalize (resolveUses inp all current room (count + (linked [useOutcome inp all current usage]).length)
              rest).1 = others at hmatch ⊢
            unfold useOutcome
            split
            · exact ⟨selected, hsub.cons usage, hmatch⟩
            · exact ⟨usage :: selected, hsub.cons_cons usage, .cons (.inl rfl) hmatch⟩

/-- The uses of the modules, one after the other, each with the source it is in. -/
def usesInOrder (modules : List ParsedModule) : List (Nat × UseDecl) :=
  modules.flatMap fun parsed => parsed.unit.uses.map fun usage => (parsed.sourceIndex, usage)

/-- **The diagnostics of the imports** are about some of the uses of the project, in order. -/
theorem refused_resolveModules (count : Nat) (modules : List ParsedModule) :
    ∃ selected : List (Nat × UseDecl), selected.Sublist (usesInOrder modules) ∧
      List.Forall₂ (fun place => AboutUse place.1 place.2) selected (refused (resolveModules inp all count modules)) := by
  induction modules generalizing count with
  | nil => exact ⟨[], .slnil, by simp [resolveModules, refused]⟩
  | cons parsed rest ih =>
      obtain ⟨here, hsub, hmatch⟩ := @refused_resolveUses inp all parsed 1024 count parsed.unit.uses
      have hplaces : List.Forall₂ (fun place : Nat × UseDecl => AboutUse place.1 place.2)
          (here.map fun usage => (parsed.sourceIndex, usage))
          (refused (resolveUses inp all parsed 1024 count parsed.unit.uses).1) := List.forall₂_map_left_iff.mpr hmatch
      have hall : usesInOrder (parsed :: rest) =
          (parsed.unit.uses.map fun usage => (parsed.sourceIndex, usage)) ++ usesInOrder rest := List.flatMap_cons
      rw [resolveModules, hall]
      split
      · exact ⟨_, (hsub.map _).trans (List.sublist_append_left _ _), hplaces⟩
      · obtain ⟨others, hothers, hmatch'⟩ :=
          ih (count + (linked (resolveUses inp all parsed 1024 count parsed.unit.uses).1).length)
        rw [refused_append]
        exact ⟨_, (hsub.map _).append hothers, List.rel_append hplaces hmatch'⟩

/-! ## The joined lists -/

/-- What the three passes report, in the order in which the source documents it. -/
def computedDiagnostics (inp : Input) (modules : List ParsedModule) : List ProjectDiagnostic :=
  orderDiagnostics inp.sources (sourceOrdered inp.sources) (descriptorsCover inp) ++ duplicateModules inp modules ++
    (resolveImports inp modules).diagnostics

/-- The diagnostics of the stages. -/
def Staged (diagnostics : List ProjectDiagnostic) : Prop := ∀ diagnostic ∈ diagnostics, rank? diagnostic = none

/-- The diagnostics of a compilation: those of the stages, the duplicates back to front, the order, the imports. -/
def Joined (inp : Input) (modules : List ParsedModule) (diagnostics : List ProjectDiagnostic) : Prop :=
  ∃ stages, Staged stages ∧ diagnostics = stages ++ (duplicateModules inp modules).reverse ++
    orderDiagnostics inp.sources (sourceOrdered inp.sources) (descriptorsCover inp) ++
      (resolveImports inp modules).diagnostics

theorem orderDiagnostics_length_le (sources : List ProjectSource) (ordered countsMatch : Bool) :
    (orderDiagnostics sources ordered countsMatch).length ≤ 1 := by
  cases ordered <;> cases countsMatch <;> simp [orderDiagnostics]

theorem orderDiagnostics_rank (sources : List ProjectSource) (ordered countsMatch : Bool) :
    ∀ diagnostic ∈ orderDiagnostics sources ordered countsMatch, rank? diagnostic = some 0 := by
  cases ordered <;> cases countsMatch <;> simp [orderDiagnostics, rank?]

theorem duplicateModules_length_le (h : inp.Bounded) (modules : List ParsedModule) :
    (duplicateModules inp modules).length ≤ 64 := by
  rw [duplicateModules_eq h.sources]
  exact Nat.le_trans (List.length_filterMap_le ..) (Nat.le_trans (List.length_take_le ..) h.sources)

/-- The two joins. -/
theorem appendDiagnostics_joined (h : inp.Bounded) (modules : List ParsedModule) :
    Joined inp modules (appendDiagnostics (appendDiagnostics
        (orderDiagnostics inp.sources (sourceOrdered inp.sources) (descriptorsCover inp)) (duplicateModules inp modules))
        (resolveImports inp modules).diagnostics) := by
  have hbasic := orderDiagnostics_length_le inp.sources (sourceOrdered inp.sources) (descriptorsCover inp)
  have hduplicates := duplicateModules_length_le h modules
  unfold Joined
  generalize orderDiagnostics inp.sources (sourceOrdered inp.sources) (descriptorsCover inp) = basic at hbasic ⊢
  have hreverse : basic.reverse = basic := by
    match basic, hbasic with
    | [], _ => rfl
    | [diagnostic], _ => rfl
  have hfirst : appendDiagnostics basic (duplicateModules inp modules) = basic ++ duplicateModules inp modules := by
    rw [appendDiagnostics, prependBatches_eq, List.take_of_length_le (by omega), hreverse]
  refine ⟨[], fun _ hmem => absurd hmem (List.not_mem_nil), ?_⟩
  rw [hfirst, appendDiagnostics, prependBatches_eq, List.take_of_length_le (by rw [List.length_append]; omega),
    List.reverse_append, hreverse, List.nil_append]

/-- A stage reports in front of the others. -/
theorem Joined.stage {modules : List ParsedModule} {diagnostics : List ProjectDiagnostic}
    (h : Joined inp modules diagnostics) {diagnostic : ProjectDiagnostic} (hrank : rank? diagnostic = none) :
    Joined inp modules (diagnostic :: diagnostics) := by
  obtain ⟨stages, hstages, rfl⟩ := h
  refine ⟨diagnostic :: stages, ?_, rfl⟩
  intro other hmem
  rcases List.mem_cons.mp hmem with rfl | hmem
  · exact hrank
  · exact hstages other hmem

theorem appendStageDiagnostic_joined {modules : List ParsedModule} {diagnostics : List ProjectDiagnostic}
    (h : Joined inp modules diagnostics) (built : ModuleBuild) (failed : StageFailure) :
    Joined inp modules (appendStageDiagnostic diagnostics built failed) := by
  unfold appendStageDiagnostic
  split
  · exact h.stage rfl
  split
  · exact h
  split
  · exact h.stage rfl
  · exact h.stage rfl

theorem compileProjectDiagnostics_joined (h : inp.Bounded) (failed : StageFailure) :
    Joined inp (parsedModules inp 0 false) (compileProjectDiagnostics inp failed) :=
  appendStageDiagnostic_joined (appendDiagnostics_joined h _) _ failed

theorem compileProjectTargetDiagnostics_joined (h : inp.Bounded) (targetSourceIndex : Nat) (failed : StageFailure)
    (targetMissing : Bool) :
    Joined inp (parsedModules inp targetSourceIndex true)
      (compileProjectTargetDiagnostics inp targetSourceIndex failed targetMissing) := by
  have hstage := appendStageDiagnostic_joined (appendDiagnostics_joined h (parsedModules inp targetSourceIndex true))
    (buildModules inp targetSourceIndex true) failed
  unfold compileProjectTargetDiagnostics appendTargetMissing
  dsimp only
  split
  · exact hstage.stage rfl
  · exact hstage

theorem forall₂_right {α β : Type} {R : α → β → Prop} {P : β → Prop} {l : List α} {m : List β}
    (h : List.Forall₂ R l m) (hR : ∀ a b, R a b → P b) : ∀ b ∈ m, P b := by
  induction h with
  | nil => exact fun _ hmem => absurd hmem List.not_mem_nil
  | cons hhead _ ih =>
      intro b hmem
      rcases List.mem_cons.mp hmem with rfl | hmem
      · exact hR _ _ hhead
      · exact ih b hmem

theorem resolveImports_rank (h : inp.Bounded) (modules : List ParsedModule) :
    ∀ diagnostic ∈ (resolveImports inp modules).diagnostics, rank? diagnostic = some 2 := by
  obtain ⟨selected, -, hmatch⟩ := @refused_resolveModules inp modules 0 (modules.take inp.sources.length)
  rw [(resolveImports_outcomes modules h.sources).2.1]
  exact forall₂_right hmatch fun _ _ habout => habout.rank

/-! ## Duplicates -/

/-- The sources that repeat a name. -/
def repeating (inp : Input) : List Nat := (List.range inp.sources.length).filter fun k => Repeats inp k

theorem mem_repeating {k : Nat} : k ∈ repeating inp ↔ k < inp.sources.length ∧ Repeats inp k := by
  rw [repeating, List.mem_filter, List.mem_range, decide_eq_true_eq]

theorem repeating_sorted (inp : Input) : (repeating inp).Pairwise (· < ·) :=
  (List.pairwise_lt_range).sublist List.filter_sublist

theorem reports_eq (inp : Input) :
    (List.range inp.sources.length).filterMap (reportOf inp) = (repeating inp).map (duplicateReport inp) := by
  rw [repeating]
  induction List.range inp.sources.length with
  | nil => rfl
  | cons k rest ih =>
      rw [List.filterMap_cons, reportOf]
      by_cases hk : Repeats inp k
      · rw [if_pos hk, List.filter_cons_of_pos (by simpa using hk), List.map_cons, ih]
      · rw [if_neg hk, List.filter_cons_of_neg (by simpa using hk), ih]

/-- The joined lists of a project with its own modules. -/
theorem Joined.shape (h : inp.Bounded) {targetSourceIndex : Nat} {targetOnly : Bool}
    {diagnostics : List ProjectDiagnostic}
    (hjoined : Joined inp (parsedModules inp targetSourceIndex targetOnly) diagnostics) :
    ∃ stages, Staged stages ∧ diagnostics = stages ++ ((repeating inp).map (duplicateReport inp)).reverse ++
      orderDiagnostics inp.sources (sourceOrdered inp.sources) (descriptorsCover inp) ++
        (resolveImports inp (parsedModules inp targetSourceIndex targetOnly)).diagnostics := by
  obtain ⟨stages, hstages, rfl⟩ := hjoined
  exact ⟨stages, hstages, by rw [duplicateModules_parsed h.sources, reports_eq]⟩

theorem filterMap_duplicateSource {diagnostics : List ProjectDiagnostic}
    (h : ∀ diagnostic ∈ diagnostics, rank? diagnostic ≠ some 1) : diagnostics.filterMap duplicateSource? = [] := by
  rw [List.filterMap_eq_nil_iff]
  intro diagnostic hmem
  have hrank := h diagnostic hmem
  cases diagnostic with
  | duplicateModule index start stop => exact absurd rfl hrank
  | _ => rfl

/-- The sources of the duplicates, as they come out. -/
theorem Joined.duplicateSources (h : inp.Bounded) {targetSourceIndex : Nat} {targetOnly : Bool}
    {diagnostics : List ProjectDiagnostic}
    (hjoined : Joined inp (parsedModules inp targetSourceIndex targetOnly) diagnostics) :
    diagnostics.filterMap duplicateSource? = (repeating inp).reverse := by
  obtain ⟨stages, hstages, rfl⟩ := hjoined.shape h
  have hstage := @filterMap_duplicateSource stages fun d hd => by
    rw [hstages d hd]
    exact nofun
  have horder := filterMap_duplicateSource fun d hd => by
    rw [orderDiagnostics_rank inp.sources (sourceOrdered inp.sources) (descriptorsCover inp) d hd]
    decide
  have himports := filterMap_duplicateSource fun d hd => by
    rw [resolveImports_rank h (parsedModules inp targetSourceIndex targetOnly) d hd]
    decide
  rw [List.filterMap_append, List.filterMap_append, List.filterMap_append, hstage, horder, himports, List.append_nil,
    List.append_nil, List.nil_append, List.filterMap_reverse, List.filterMap_map]
  congr 1
  exact List.filterMap_some

/-- **The reported duplicates** are the sources that repeat a name, with the spans that their headers hold. -/
theorem Joined.mem_duplicate (h : inp.Bounded) {targetSourceIndex : Nat} {targetOnly : Bool}
    {diagnostics : List ProjectDiagnostic}
    (hjoined : Joined inp (parsedModules inp targetSourceIndex targetOnly) diagnostics) {k start stop : Nat} :
    .duplicateModule k start stop ∈ diagnostics ↔ (k < inp.sources.length ∧ Repeats inp k) ∧
      start = (sourceHeader inp k).moduleStart ∧ stop = (sourceHeader inp k).moduleStop := by
  obtain ⟨stages, hstages, rfl⟩ := hjoined.shape h
  have horder := orderDiagnostics_rank inp.sources (sourceOrdered inp.sources) (descriptorsCover inp)
  have himports := resolveImports_rank h (parsedModules inp targetSourceIndex targetOnly)
  simp only [List.mem_append, List.mem_reverse, List.mem_map]
  constructor
  · rintro (((hmem | ⟨j, hj, hreport⟩) | hmem) | hmem)
    · cases hstages _ hmem
    · obtain ⟨rfl, rfl, rfl⟩ := ProjectDiagnostic.duplicateModule.inj hreport
      exact ⟨mem_repeating.mp hj, rfl, rfl⟩
    · cases horder _ hmem
    · cases himports _ hmem
  · rintro ⟨hk, rfl, rfl⟩
    exact .inl (.inl (.inr ⟨k, mem_repeating.mpr hk, rfl⟩))

/-- Two sources whose names the comparison finds equal. -/
theorem headerNamesEqual_iff {k j : Nat} : headerNamesEqual inp k j = true ↔
    (sourceHeader inp k).moduleStart ≤ (sourceHeader inp k).moduleStop ∧
      (sourceHeader inp j).moduleStart ≤ (sourceHeader inp j).moduleStop ∧
        (moduleName inp k).length ≤ 1024 ∧ moduleName inp k = moduleName inp j := by
  rw [headerNamesEqual, spansEqualBetween_iff, moduleName, moduleName, length_spelled]

/-- A declared name that an earlier source declares. -/
def Redeclares (inp : Input) (k : Nat) : Prop :=
  HeaderParsed inp k ∧ ∃ j < k, HeaderParsed inp j ∧ moduleName inp j = moduleName inp k

/-- Three sources `mncs 0.1;module a;`. -/
def threeModules : Input where
  sources := [
    { sourceId := [97], sourcePath := [97], pageStart := 0, pageCount := 1, stride := 32, total := 18 },
    { sourceId := [98], sourcePath := [98], pageStart := 1, pageCount := 1, stride := 32, total := 18 },
    { sourceId := [99], sourcePath := [99], pageStart := 2, pageCount := 1, stride := 32, total := 18 }]
  flatPages := List.replicate 3 [109, 110, 99, 115, 32, 48, 46, 49, 59, 109, 111, 100, 117, 108, 101, 32, 97, 59]

theorem threeModules_bounded : threeModules.Bounded where
  sources := by decide
  pages := fun index => Nat.le_trans (length_modulePages_le threeModules index) (by decide)

set_option maxRecDepth 10000 in
theorem sourceHeader_threeModules : ∀ k < 3, sourceHeader threeModules k = ⟨0, 0, 0, 5, 8, 16, 17, 18, 8⟩ ∧
    moduleName threeModules k = [97] := by
  have hheader : ∀ k < 3, sourceHeader threeModules k = ⟨0, 0, 0, 5, 8, 16, 17, 18, 8⟩ := by
    intro k hk
    have hsource : moduleSource threeModules k = ⟨[[109, 110, 99, 115, 32, 48, 46, 49, 59, 109, 111, 100, 117, 108,
        101, 32, 97, 59]], 32, 18⟩ := by
      match k, hk with
      | 0, _ => rfl
      | 1, _ => rfl
      | 2, _ => rfl
    rw [sourceHeader_of_valid hsource (by decide)]
    decide +kernel
  intro k hk
  refine ⟨hheader k hk, ?_⟩
  rw [moduleName, hheader k hk]
  match k, hk with
  | 0, _ => decide
  | 1, _ => decide
  | 2, _ => decide

/-- A letter, `n` times. -/
def letterRun (n : Nat) : View := List.replicate n 97

/-- `mncs 0.1;module ` and a name of two components of 512 letters each. -/
def longModule : View :=
  [109, 110, 99, 115, 32, 48, 46, 49, 59, 109, 111, 100, 117, 108, 101, 32] ++ (letterRun 512 ++ ([46] ++
    (letterRun 512 ++ [59])))

theorem byteAt_letterRun {n i : Nat} (hi : i < n) (before behind : View) :
    byteAt (before ++ (letterRun n ++ behind)) (before.length + i) = 97 := by
  rw [byteAt_append_right, byteAt, if_pos (by rw [List.length_append, letterRun, List.length_replicate]; omega), byte,
    letterRun, List.getD_eq_getElem?_getD, List.getElem?_append_left (by rwa [List.length_replicate]),
    List.getElem?_replicate, if_pos hi]
  rfl

theorem byteAt_longModule : (∀ i < 512, byteAt longModule (16 + i) = 97 ∧ byteAt longModule (529 + i) = 97) ∧
    byteAt longModule 528 = 46 ∧ byteAt longModule 1041 = 59 ∧ longModule.length = 1042 := by
  refine ⟨?_, by decide +kernel, by decide +kernel, by decide +kernel⟩
  intro i hi
  refine ⟨byteAt_letterRun hi [109, 110, 99, 115, 32, 48, 46, 49, 59, 109, 111, 100, 117, 108, 101, 32] _, ?_⟩
  have hsplit : longModule = ([109, 110, 99, 115, 32, 48, 46, 49, 59, 109, 111, 100, 117, 108, 101, 32] ++
      (letterRun 512 ++ [46])) ++ (letterRun 512 ++ [59]) := by simp only [longModule, List.append_assoc]
  have hlen : ([109, 110, 99, 115, 32, 48, 46, 49, 59, 109, 111, 100, 117, 108, 101, 32] ++
      (letterRun 512 ++ [46]) : View).length = 529 := by decide +kernel
  rw [hsplit, ← hlen]
  exact byteAt_letterRun hi _ _

def longModulePages : Composition longModule where
  pages := [longModule.take 1024, longModule.drop 1024]
  stride := 1024
  valid := by decide +kernel
  content := by rw [List.flatten_cons, List.flatten_singleton, List.take_append_drop]
  small := by
    rw [byteAt_longModule.2.2.2]
    decide

/-- The two components of the name. -/
theorem nextToken_longModule : nextToken longModule 16 = ⟨4, 16, 528, 0⟩ ∧
    nextToken longModule 529 = ⟨4, 529, 1041, 0⟩ := by
  obtain ⟨hletters, hdot, hsemi, -⟩ := byteAt_longModule
  have hkeyword : keyword longModule 16 528 = 4 ∧ keyword longModule 529 1041 = 4 := by decide +kernel
  have hfirst := @nextToken_run longModule 16 511 (hletters 0 (by decide)).1
    (fun i hi => by rw [Nat.add_assoc, (hletters (1 + i) (by omega)).1]; rfl) (by rw [hdot]; decide)
    (by rw [hdot]; rfl)
  have hsecond := @nextToken_run longModule 529 511 (hletters 0 (by decide)).2
    (fun i hi => by rw [Nat.add_assoc, (hletters (1 + i) (by omega)).2]; rfl) (by rw [hsemi]; decide)
    (by rw [hsemi]; rfl)
  rw [hfirst, hsecond, hkeyword.1, hkeyword.2]
  exact ⟨rfl, rfl⟩

theorem header_longModule : header (.ofPages longModulePages) = ⟨0, 0, 0, 5, 8, 16, 1041, 1042, 8⟩ := by
  have htokens : nextToken longModule 0 = ⟨10, 0, 4, 0⟩ ∧ nextToken longModule 4 = ⟨1, 4, 5, 0⟩ ∧
      nextToken longModule 5 = ⟨6, 5, 8, 0⟩ ∧ nextToken longModule 8 = ⟨63, 8, 9, 0⟩ ∧
      nextToken longModule 9 = ⟨11, 9, 15, 0⟩ ∧ nextToken longModule 15 = ⟨1, 15, 16, 0⟩ ∧
      nextToken longModule 528 = ⟨61, 528, 529, 0⟩ ∧ nextToken longModule 1041 = ⟨63, 1041, 1042, 0⟩ := by
    decide +kernel
  obtain ⟨h0, h4, h5, h8, h9, h15, h528, h1041⟩ := htokens
  obtain ⟨h16, h529⟩ := nextToken_longModule
  have hslash : ∀ o ∈ [0, 4, 5, 8, 9, 15, 16, 528, 529, 1041], byteAt longModule o ≠ 47 := by decide +kernel
  have hlen := byteAt_longModule.2.2.2
  have hnext : ∀ {o : Nat} {t : Token}, o ∈ [0, 4, 5, 8, 9, 15, 16, 528, 529, 1041] → nextToken longModule o = t →
      t.stop ≤ o + 1024 →
      nextTokenGlobal longModulePages.pages longModulePages.stride longModule.length o = t := by
    intro o t ho ht hstop
    refine nextTokenGlobal_of_short longModulePages ?_ (hslash o ho) ht hstop
    revert ho
    rw [hlen]
    simp only [List.mem_cons, List.not_mem_nil, or_false]
    omega
  have hmncs := token_of_plain longModulePages (hnext (by decide) h0 (by decide)) rfl
  have hversion := token_of_space longModulePages (hnext (by decide) h4 (by decide)) rfl
    (hnext (by decide) h5 (by decide)) rfl
  have hsemi := token_of_plain longModulePages (hnext (by decide) h8 (by decide)) rfl
  have hmodule := token_of_plain longModulePages (hnext (by decide) h9 (by decide)) rfl
  have hname := token_of_space longModulePages (hnext (by decide) h15 (by decide)) rfl
    (hnext (by decide) h16 (by decide)) rfl
  have hdot := token_of_plain longModulePages (hnext (by decide) h528 (by decide)) rfl
  have hcomponent := token_of_plain longModulePages (hnext (by decide) h529 (by decide)) rfl
  have hend := token_of_plain longModulePages (hnext (by decide) h1041 (by decide)) rfl
  have hmove : ∀ {t : Token} (n : Nat) (st next : Parser.Header), (Source.ofPages longModulePages).token st.nextOffset = t →
      st.ended = false → Parser.move t st = next →
        (headerStep (.ofPages longModulePages))^[n + 1] st = (headerStep (.ofPages longModulePages))^[n] next := by
    intro t n st next ht hopen hmoved
    rw [Function.iterate_succ_apply, headerStep_token longModulePages hopen ht, hmoved]
  have hrun : (headerStep (.ofPages longModulePages))^[8] Parser.seed = ⟨0, 0, 0, 5, 8, 16, 1041, 1042, 8⟩ := by
    rw [hmove 7 Parser.seed ⟨0, 0, 0, 0, 0, 0, 0, 4, 1⟩ hmncs rfl rfl,
      hmove 6 ⟨0, 0, 0, 0, 0, 0, 0, 4, 1⟩ ⟨0, 0, 0, 5, 8, 0, 0, 8, 2⟩ hversion rfl rfl,
      hmove 5 ⟨0, 0, 0, 5, 8, 0, 0, 8, 2⟩ ⟨0, 0, 0, 5, 8, 0, 0, 9, 3⟩ hsemi rfl rfl,
      hmove 4 ⟨0, 0, 0, 5, 8, 0, 0, 9, 3⟩ ⟨0, 0, 0, 5, 8, 0, 0, 15, 4⟩ hmodule rfl rfl,
      hmove 3 ⟨0, 0, 0, 5, 8, 0, 0, 15, 4⟩ ⟨0, 0, 0, 5, 8, 16, 528, 528, 5⟩ hname rfl rfl,
      hmove 2 ⟨0, 0, 0, 5, 8, 16, 528, 528, 5⟩ ⟨0, 0, 0, 5, 8, 16, 528, 529, 6⟩ hdot rfl rfl,
      hmove 1 ⟨0, 0, 0, 5, 8, 16, 528, 529, 6⟩ ⟨0, 0, 0, 5, 8, 16, 1041, 1041, 5⟩ hcomponent rfl rfl,
      hmove 0 ⟨0, 0, 0, 5, 8, 16, 1041, 1041, 5⟩ ⟨0, 0, 0, 5, 8, 16, 1041, 1042, 8⟩ hend rfl rfl]
    rfl
  rw [header_steps, show 1025 = 1017 + 8 from rfl, Function.iterate_add_apply, hrun]
  exact Function.iterate_fixed rfl 1017

/-- Two sources that declare the name of 1025 bytes. -/
def longModules : Input where
  sources := [
    { sourceId := [97], sourcePath := [97], pageStart := 0, pageCount := 2, stride := 1024, total := 1042 },
    { sourceId := [98], sourcePath := [98], pageStart := 2, pageCount := 2, stride := 1024, total := 1042 }]
  flatPages := longModulePages.pages ++ longModulePages.pages

theorem sourceHeader_longModules : ∀ k < 2, moduleSource longModules k = .ofPages longModulePages ∧
    sourceHeader longModules k = ⟨0, 0, 0, 5, 8, 16, 1041, 1042, 8⟩ := by
  intro k hk
  have hsource : moduleSource longModules k = .ofPages longModulePages := by
    rw [Source.ofPages, byteAt_longModule.2.2.2]
    obtain rfl | rfl : k = 0 ∨ k = 1 := by omega
    · rfl
    · rfl
  refine ⟨hsource, ?_⟩
  rw [sourceHeader_of_valid hsource longModulePages.valid, header_longModule]

/-- Two sources without a byte. -/
def emptyModules : Input where
  sources := [
    { sourceId := [97], sourcePath := [97], pageStart := 0, pageCount := 0, stride := 32, total := 0 },
    { sourceId := [98], sourcePath := [98], pageStart := 0, pageCount := 0, stride := 32, total := 0 }]
  flatPages := []

set_option maxRecDepth 10000 in
theorem sourceHeader_emptyModules : ∀ k < 2, sourceHeader emptyModules k = ⟨2, 0, 0, 0, 0, 0, 0, 0, 0⟩ := by
  intro k hk
  have hsource : moduleSource emptyModules k = ⟨[], 32, 0⟩ := by
    match k, hk with
    | 0, _ => rfl
    | 1, _ => rfl
  rw [sourceHeader_of_valid hsource (by decide)]
  decide +kernel

/-- The diagnostics of the passes are in the order of the sources: the order or count first, then the duplicates by
    their sources, then the imports by source and position of the use; each is there once. -/
structure InSourceOrder (inp : Input) (modules : List ParsedModule) (diagnostics : List ProjectDiagnostic) : Prop where
  ranked : (gathered diagnostics).Pairwise fun a b => ∀ r ∈ rank? a, ∀ q ∈ rank? b, r ≤ q
  duplicates : (diagnostics.filterMap duplicateSource?).Pairwise (· < ·)
  imports : ∃ selected : List (Nat × UseDecl), selected.Sublist (usesInOrder modules) ∧
    List.Forall₂ (fun place => AboutUse place.1 place.2) selected (ofRank 2 diagnostics)
  once : (gathered diagnostics).Perm (computedDiagnostics inp modules)

/-- At most one diagnostic comes before the imports: a snapshot in order has at most one source that repeats a name, and
    any other has none. -/
structure OneEarly (inp : Input) : Prop where
  one : ∀ k < inp.sources.length, ∀ j < inp.sources.length, Repeats inp k → Repeats inp j → k = j
  alone : (sourceOrdered inp.sources && descriptorsCover inp) = false → ∀ k < inp.sources.length, ¬ Repeats inp k

theorem orderDiagnostics_eq_nil_iff :
    orderDiagnostics inp.sources (sourceOrdered inp.sources) (descriptorsCover inp) = [] ↔
      (sourceOrdered inp.sources && descriptorsCover inp) = true := by
  cases sourceOrdered inp.sources <;> cases descriptorsCover inp <;> simp [orderDiagnostics]

/-- A list that is sorted both ways has one element at most. -/
theorem length_le_one_of_sorted {l : List Nat} (h : l.Pairwise (· < ·)) (h' : l.reverse.Pairwise (· < ·)) :
    l.length ≤ 1 := by
  match l, h, h' with
  | [], _, _ => exact Nat.zero_le 1
  | [a], _, _ => exact Nat.le_refl 1
  | a :: b :: rest, h, h' =>
      rw [List.pairwise_reverse] at h'
      have hab := List.rel_of_pairwise_cons h List.mem_cons_self
      have hba := List.rel_of_pairwise_cons h' List.mem_cons_self
      omega

theorem repeating_one_iff : (repeating inp).length ≤ 1 ↔
    ∀ k < inp.sources.length, ∀ j < inp.sources.length, Repeats inp k → Repeats inp j → k = j := by
  constructor
  · intro h k hk j hj hrepeats hrepeats'
    have hmem := mem_repeating.mpr ⟨hk, hrepeats⟩
    have hmem' := mem_repeating.mpr ⟨hj, hrepeats'⟩
    match repeating inp, h, hmem, hmem' with
    | [a], _, hmem, hmem' => exact (List.mem_singleton.mp hmem).trans (List.mem_singleton.mp hmem').symm
  · intro h
    have hsorted := repeating_sorted inp
    have hall : ∀ k ∈ repeating inp, ∀ j ∈ repeating inp, k = j := by
      intro k hk j hj
      rw [mem_repeating] at hk hj
      exact h k hk.1 j hj.1 hk.2 hj.2
    match repeating inp, hsorted, hall with
    | [], _, _ => exact Nat.zero_le 1
    | [a], _, _ => exact Nat.le_refl 1
    | a :: b :: rest, hsorted, hall =>
        have hlt := List.rel_of_pairwise_cons hsorted List.mem_cons_self
        have heq := hall a List.mem_cons_self b (List.mem_cons_of_mem a List.mem_cons_self)
        omega

theorem repeating_nil_iff : repeating inp = [] ↔ ∀ k < inp.sources.length, ¬ Repeats inp k := by
  rw [List.eq_nil_iff_forall_not_mem]
  exact ⟨fun h k hk hrepeats => h k (mem_repeating.mpr ⟨hk, hrepeats⟩),
    fun h k hmem => h k (mem_repeating.mp hmem).1 (mem_repeating.mp hmem).2⟩

theorem filter_of_rank {rank : Nat} {p : Option Nat → Bool} {diagnostics : List ProjectDiagnostic}
    (h : ∀ diagnostic ∈ diagnostics, rank? diagnostic = some rank) (hp : p (some rank) = true) :
    (diagnostics.filter fun diagnostic => p (rank? diagnostic)) = diagnostics := by
  rw [List.filter_eq_self]
  intro diagnostic hmem
  rw [h diagnostic hmem, hp]

section Order

variable {targetSourceIndex : Nat} {targetOnly : Bool} {diagnostics : List ProjectDiagnostic}

/-- The lists of the three passes, as they come out. -/
theorem Joined.gathered_eq (h : inp.Bounded)
    (hjoined : Joined inp (parsedModules inp targetSourceIndex targetOnly) diagnostics) :
    gathered diagnostics = ((repeating inp).map (duplicateReport inp)).reverse ++
      orderDiagnostics inp.sources (sourceOrdered inp.sources) (descriptorsCover inp) ++
        (resolveImports inp (parsedModules inp targetSourceIndex targetOnly)).diagnostics := by
  obtain ⟨stages, hstages, rfl⟩ := hjoined.shape h
  have hstage : stages.filter (fun diagnostic => (rank? diagnostic).isSome) = [] := by
    rw [List.filter_eq_nil_iff]
    intro diagnostic hmem
    rw [hstages diagnostic hmem]
    exact Bool.false_ne_true
  have hduplicates : ∀ diagnostic ∈ ((repeating inp).map (duplicateReport inp)).reverse,
      rank? diagnostic = some 1 := by
    intro diagnostic hmem
    obtain ⟨k, -, rfl⟩ := List.mem_map.mp (List.mem_reverse.mp hmem)
    rfl
  rw [gathered, List.filter_append, List.filter_append, List.filter_append, hstage,
    filter_of_rank (p := Option.isSome) hduplicates rfl,
    filter_of_rank (p := Option.isSome) (orderDiagnostics_rank inp.sources _ _) rfl,
    filter_of_rank (p := Option.isSome) (resolveImports_rank h _) rfl, List.nil_append]

theorem Joined.ofRank_imports (h : inp.Bounded)
    (hjoined : Joined inp (parsedModules inp targetSourceIndex targetOnly) diagnostics) :
    ofRank 2 diagnostics = (resolveImports inp (parsedModules inp targetSourceIndex targetOnly)).diagnostics := by
  obtain ⟨stages, hstages, rfl⟩ := hjoined.shape h
  have hnone : ∀ {l : List ProjectDiagnostic}, (∀ diagnostic ∈ l, rank? diagnostic ≠ some 2) →
      l.filter (fun diagnostic => rank? diagnostic = some 2) = [] := by
    intro l hl
    rw [List.filter_eq_nil_iff]
    intro diagnostic hmem
    simpa using hl diagnostic hmem
  have hstage := @hnone stages fun d hd => by
    rw [hstages d hd]
    exact nofun
  have hduplicates := @hnone ((repeating inp).map (duplicateReport inp)).reverse fun d hd => by
    obtain ⟨k, -, rfl⟩ := List.mem_map.mp (List.mem_reverse.mp hd)
    exact nofun
  have horder := @hnone (orderDiagnostics inp.sources (sourceOrdered inp.sources) (descriptorsCover inp)) fun d hd => by
    rw [orderDiagnostics_rank _ _ _ d hd]
    decide
  rw [ofRank, List.filter_append, List.filter_append, List.filter_append, hstage, hduplicates, horder, List.nil_append,
    List.nil_append, List.nil_append]
  exact filter_of_rank (p := fun rank => rank = some 2) (resolveImports_rank h _) (by decide)

/-- The imports are always in order. -/
theorem Joined.imports_ordered (h : inp.Bounded)
    (hjoined : Joined inp (parsedModules inp targetSourceIndex targetOnly) diagnostics) :
    ∃ selected : List (Nat × UseDecl), selected.Sublist (usesInOrder (parsedModules inp targetSourceIndex targetOnly)) ∧
      List.Forall₂ (fun place => AboutUse place.1 place.2) selected (ofRank 2 diagnostics) := by
  have hall : (parsedModules inp targetSourceIndex targetOnly).take inp.sources.length =
      parsedModules inp targetSourceIndex targetOnly := List.take_of_length_le (by simp [parsedModules_eq])
  rw [hjoined.ofRank_imports h, (resolveImports_outcomes _ h.sources).2.1, hall]
  exact refused_resolveModules 0 _

/-- Nothing is lost or made twice. -/
theorem Joined.once (h : inp.Bounded)
    (hjoined : Joined inp (parsedModules inp targetSourceIndex targetOnly) diagnostics) :
    (gathered diagnostics).Perm (computedDiagnostics inp (parsedModules inp targetSourceIndex targetOnly)) := by
  rw [hjoined.gathered_eq h, computedDiagnostics, duplicateModules_parsed h.sources, reports_eq]
  exact (((List.reverse_perm _).append_right _).trans List.perm_append_comm).append_right _

/-- **When the joined diagnostics are in order.** -/
theorem Joined.inSourceOrder_iff (h : inp.Bounded)
    (hjoined : Joined inp (parsedModules inp targetSourceIndex targetOnly) diagnostics) :
    InSourceOrder inp (parsedModules inp targetSourceIndex targetOnly) diagnostics ↔ OneEarly inp := by
  have hgathered := hjoined.gathered_eq h
  have hsources := hjoined.duplicateSources h
  have horder := @orderDiagnostics_rank inp.sources (sourceOrdered inp.sources) (descriptorsCover inp)
  have himports := resolveImports_rank h (parsedModules inp targetSourceIndex targetOnly)
  constructor
  · intro hin
    refine ⟨?_, ?_⟩
    · have hsorted := hin.duplicates
      rw [hsources] at hsorted
      exact repeating_one_iff.mp (length_le_one_of_sorted (repeating_sorted inp) hsorted)
    · intro hunordered
      -- a duplicate comes out before the report of the order
      rw [← repeating_nil_iff]
      by_contra hrepeats
      obtain ⟨k, hk⟩ := List.exists_mem_of_ne_nil _ hrepeats
      have hne : orderDiagnostics inp.sources (sourceOrdered inp.sources) (descriptorsCover inp) ≠ [] := by
        rw [Ne, orderDiagnostics_eq_nil_iff, hunordered]
        exact Bool.false_ne_true
      obtain ⟨report, hreport⟩ := List.exists_mem_of_ne_nil _ hne
      have hranked := hin.ranked
      rw [hgathered, List.append_assoc, List.pairwise_append] at hranked
      have hle := hranked.2.2 (duplicateReport inp k) (List.mem_reverse.mpr (List.mem_map_of_mem hk)) report
        (List.mem_append_left _ hreport) 1 rfl 0 (horder report hreport)
      omega
  · intro hearly
    refine ⟨?_, ?_, hjoined.imports_ordered h, hjoined.once h⟩
    · -- one early diagnostic at most, and then the imports
      have hfew : (((repeating inp).map (duplicateReport inp)).reverse ++
          orderDiagnostics inp.sources (sourceOrdered inp.sources) (descriptorsCover inp)).length ≤ 1 := by
        have hone := repeating_one_iff.mpr hearly.one
        have hbasic := orderDiagnostics_length_le inp.sources (sourceOrdered inp.sources) (descriptorsCover inp)
        rw [List.length_append, List.length_reverse, List.length_map]
        cases hboth : sourceOrdered inp.sources && descriptorsCover inp with
        | true => rw [orderDiagnostics_eq_nil_iff.mpr hboth, List.length_nil]; exact hone
        | false =>
            rw [repeating_nil_iff.mpr (hearly.alone hboth), List.length_nil, Nat.zero_add]
            exact hbasic
      rw [hgathered, List.pairwise_append]
      refine ⟨?_, ?_, ?_⟩
      · match ((repeating inp).map (duplicateReport inp)).reverse ++
            orderDiagnostics inp.sources (sourceOrdered inp.sources) (descriptorsCover inp), hfew with
        | [], _ => exact .nil
        | [report], _ => exact List.pairwise_singleton _ _
      · refine List.Pairwise.imp_of_mem ?_ (List.pairwise_of_forall fun _ _ => trivial)
        intro a b ha hb _ r hr q hq
        rw [himports a ha] at hr
        rw [himports b hb] at hq
        cases hr
        cases hq
        exact Nat.le_refl 2
      · intro a ha b hb r hr q hq
        rw [himports b hb] at hq
        cases hq
        rcases List.mem_append.mp ha with hduplicate | hbasic
        · obtain ⟨k, -, rfl⟩ := List.mem_map.mp (List.mem_reverse.mp hduplicate)
          cases hr
          decide
        · rw [horder a hbasic] at hr
          cases hr
          decide
    · rw [hsources]
      have hone := repeating_one_iff.mpr hearly.one
      match repeating inp, hone with
      | [], _ => exact .nil
      | [k], _ => exact List.pairwise_singleton _ _

end Order

/-- **Source order.** The diagnostics of a compilation are in the order of the sources exactly when at most one of them
    comes before the imports. -/
theorem compileProject_inSourceOrder_iff (inp : Input) (h : inp.Bounded) :
    (∀ failed, InSourceOrder inp (parsedModules inp 0 false) (compileProjectDiagnostics inp failed) ↔ OneEarly inp) ∧
    ∀ targetSourceIndex failed targetMissing,
      InSourceOrder inp (parsedModules inp targetSourceIndex true)
        (compileProjectTargetDiagnostics inp targetSourceIndex failed targetMissing) ↔ OneEarly inp :=
  ⟨fun failed => (compileProjectDiagnostics_joined h failed).inSourceOrder_iff h,
    fun targetSourceIndex failed targetMissing =>
      (compileProjectTargetDiagnostics_joined h targetSourceIndex failed targetMissing).inSourceOrder_iff h⟩

/-- A single module. -/
def oneModule : Input where
  sources := threeModules.sources.take 1
  flatPages := threeModules.flatPages.take 1

theorem compileProject_inSourceOrder_one :
    InSourceOrder oneModule (parsedModules oneModule 0 false) (compileProjectDiagnostics oneModule ⟨0, 0, 0, 0, 0⟩) := by
  have hbounded : oneModule.Bounded :=
    ⟨by decide, fun index => Nat.le_trans (length_modulePages_le oneModule index) (by decide)⟩
  refine ((compileProject_inSourceOrder_iff oneModule hbounded).1 _).mpr ⟨?_, ?_⟩
  · intro k hk j hj _ _
    change k < 1 at hk
    change j < 1 at hj
    omega
  · rintro - k hk ⟨j, hj, -⟩
    change k < 1 at hk
    omega

/-- Two reports of three modules come out back to front. -/
theorem not_compileProject_inSourceOrder :
    ¬ ∀ (inp : Input) (failed : StageFailure), inp.Bounded →
      InSourceOrder inp (parsedModules inp 0 false) (compileProjectDiagnostics inp failed) := by
  intro hall
  have hbounded := threeModules_bounded
  have hat := sourceHeader_threeModules
  have hrepeats : ∀ k, 0 < k → k < 3 → Repeats threeModules k := by
    intro k hpos hk
    refine ⟨0, hpos, headerNamesEqual_iff.mpr ?_⟩
    rw [(hat k hk).2, (hat 0 (by decide)).2, (hat k hk).1, (hat 0 (by decide)).1]
    decide
  have hearly := ((compileProjectDiagnostics_joined hbounded ⟨0, 0, 0, 0, 0⟩).inSourceOrder_iff hbounded).mp
    (hall threeModules _ hbounded)
  exact absurd (hearly.one 1 (by decide) 2 (by decide) (hrepeats 1 (by decide) (by decide))
    (hrepeats 2 (by decide) (by decide))) (by decide)

end MncsCompiler.Project
