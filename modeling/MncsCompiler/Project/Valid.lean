import MncsCompiler.Decl.Obligations
import MncsCompiler.Decl.Resolve
import MncsCompiler.Project.Descriptors
import MncsCompiler.Project.Verdict

/-!
# `Project.Valid` — what a valid project is

The flags of a compilation are loops over the sources, the uses and the modules. Each says something of the project as a
whole: the identifiers increase, the page ranges are a partition of the page array, no name is declared twice, every use
names another module, the limits hold. A project is valid when all of this holds and every module that is lowered proves
and has flow graphs; what that gives for each source is in `Proved` and, with value SSA, in `Formed`.
-/

namespace MncsCompiler.Project

open BoundedLoop Decl Flow Ssa

variable {inp : Input}

/-! ## The sources -/

/-- What a comparison that has come this far says. -/
def ByteCompare.before (a b : View) (st : ByteCompare) : Bool := if st.decided then st.less else a.length < b.length

theorem carry_byteCompareStep_decided {a b : View} {st : ByteCompare} (h : st.decided = true) (i n : Nat) :
    carry (byteCompareStep a b) i n st = st := by
  induction n generalizing i with
  | zero => rfl
  | succ n ih =>
      have hstep : byteCompareStep a b i st = st := by
        rw [byteCompareStep, h]
        rfl
      rw [carry_succ, hstep, ih]

/-- The comparison of what is left of two byte strings that agree so far. -/
theorem carry_byteCompareStep {a b : View} (n : Nat) {i : Nat} (hn : i + n = a.length) :
    (carry (byteCompareStep a b) i n { decided := false, less := false }).before a b = true ↔ a.drop i < b.drop i := by
  induction n generalizing i with
  | zero =>
      rw [Nat.add_zero] at hn
      rw [hn, List.drop_length]
      show decide (a.length < b.length) = true ↔ _
      rw [decide_eq_true_eq]
      by_cases hlt : a.length < b.length
      · rw [List.drop_eq_getElem_cons hlt]
        exact iff_of_true hlt (List.nil_lt_cons _ _)
      · rw [List.drop_eq_nil_of_le (Nat.le_of_not_lt hlt)]
        exact iff_of_false hlt (List.not_lt_nil _)
  | succ n ih =>
      have hleft : i < a.length := by omega
      have hrest := @ih (i + 1) (by omega)
      rw [carry_succ, List.drop_eq_getElem_cons hleft]
      by_cases hright : i < b.length
      · have hstep : byteCompareStep a b i { decided := false, less := false } =
            if a[i].toNat < b[i].toNat then { decided := true, less := true }
            else if b[i].toNat < a[i].toNat then { decided := true, less := false }
            else { decided := false, less := false } := by
          simp [byteCompareStep, Nat.not_le.mpr hright, hleft, hright]
        rw [hstep, List.drop_eq_getElem_cons hright, List.cons_lt_cons_iff, UInt8.lt_iff_toNat_lt, ← UInt8.toNat_inj]
        rcases Nat.lt_trichotomy a[i].toNat b[i].toNat with hlt | heq | hgt
        · rw [if_pos hlt, carry_byteCompareStep_decided rfl]
          exact iff_of_true rfl (.inl hlt)
        · rw [if_neg (by omega), if_neg (by omega), hrest]
          simp [heq]
        · rw [if_neg (by omega), if_pos hgt, carry_byteCompareStep_decided rfl]
          refine iff_of_false Bool.false_ne_true ?_
          rintro (hlt | ⟨heq, -⟩) <;> omega
      · have hstep : byteCompareStep a b i { decided := false, less := false } =
            { decided := false, less := false } := by
          simp [byteCompareStep, Nat.le_of_not_lt hright]
        rw [hstep, hrest, List.drop_eq_nil_of_le (Nat.le_of_not_lt hright),
          List.drop_eq_nil_of_le (by omega : b.length ≤ i + 1)]
        exact iff_of_false (List.not_lt_nil _) (List.not_lt_nil _)

/-- The comparison of byte strings is their lexicographic order. -/
theorem byteStringBefore_iff (a b : View) : byteStringBefore a b = true ↔ a < b :=
  carry_byteCompareStep a.length (Nat.zero_add _)

/-- **Sources are ordered** when each comes before all later ones. -/
theorem sourceOrdered_iff (sources : List ProjectSource) :
    sourceOrdered sources = true ↔ (sources.map ProjectSource.sourceId).Pairwise (· < ·) := by
  have hrun := carry_invariant (f := sourceOrderStep sources)
    (P := fun i valid => valid = true ↔ ∀ j, j + 1 < i → ∀ previous current, sources[j]? = some previous →
      sources[j + 1]? = some current → previous.sourceId < current.sourceId)
    (i := 0) (n := sources.length) (s := true) (by simp) ?_
  · have hchain : (sources.map ProjectSource.sourceId).Pairwise (· < ·) ↔
        (sources.map ProjectSource.sourceId).IsChain (· < ·) := List.isChain_iff_pairwise.symm
    rw [sourceOrdered, hrun, hchain, List.isChain_iff_getElem, Nat.zero_add]
    constructor
    · intro h j hj
      rw [List.length_map] at hj
      rw [List.getElem_map, List.getElem_map]
      exact h j hj _ _ (List.getElem?_eq_getElem (by omega)) (List.getElem?_eq_getElem hj)
    · intro h j hj previous current hprevious hcurrent
      have hlt := h j (by rwa [List.length_map])
      rw [List.getElem_map, List.getElem_map] at hlt
      rw [List.getElem?_eq_getElem (by omega), Option.some_inj] at hprevious hcurrent
      rwa [hprevious, hcurrent] at hlt
  · intro i valid _ hi hvalid
    rw [sourceOrderStep]
    cases i with
    | zero =>
        rw [if_pos (by simp)]
        exact hvalid.trans ⟨fun _ j hj => by omega, fun _ j hj => by omega⟩
    | succ i =>
        rw [Nat.zero_add] at hi
        have hprevious : sources[i]? = some sources[i] := List.getElem?_eq_getElem (by omega)
        have hcurrent : sources[i + 1]? = some sources[i + 1] := List.getElem?_eq_getElem hi
        rw [Nat.add_sub_cancel, hprevious, hcurrent]
        have hlast : (∀ j, j + 1 < i + 1 + 1 → ∀ previous current, sources[j]? = some previous →
            sources[j + 1]? = some current → previous.sourceId < current.sourceId) ↔
              valid = true ∧ sources[i].sourceId < sources[i + 1].sourceId := by
          rw [hvalid]
          constructor
          · intro h
            exact ⟨fun j hj => h j (by omega), h i (by omega) _ _ hprevious hcurrent⟩
          · rintro ⟨h, hlt⟩ j hj previous current hp hc
            by_cases hij : j = i
            · subst hij
              rw [hprevious, Option.some_inj] at hp
              rw [hcurrent, Option.some_inj] at hc
              rwa [← hp, ← hc]
            · exact h j (by omega) previous current hp hc
        rw [hlast]
        cases valid with
        | false => simp
        | true => simp [byteStringBefore_iff]

/-- The walk over descriptors, on numbers. -/
theorem iterate_coverStep {sources : List ProjectSource} (n : Nat) {st : CoverState} (hok : st.ok = true)
    (hn : (sources.drop st.index).length = n) :
    (((coverStep sources)^[n] st).ok = true ↔ Contiguous st.cursor (sources.drop st.index)) ∧
      (((coverStep sources)^[n] st).ok = true →
        ((coverStep sources)^[n] st).cursor = endOf st.cursor (sources.drop st.index)) := by
  induction n generalizing st with
  | zero =>
      rw [List.eq_nil_of_length_eq_zero hn]
      exact ⟨iff_of_true hok trivial, fun _ => rfl⟩
  | succ n ih =>
      have hlt : st.index < sources.length := by
        rw [List.length_drop] at hn
        omega
      have hitem : sources[st.index]? = some sources[st.index] := List.getElem?_eq_getElem hlt
      have hsplit : sources.drop st.index = sources[st.index] :: sources.drop (st.index + 1) :=
        List.drop_eq_getElem_cons hlt
      rw [hsplit] at hn ⊢
      rw [Function.iterate_succ_apply]
      by_cases hstart : sources[st.index].pageStart = st.cursor
      · have hstep : coverStep sources st =
            { index := st.index + 1, cursor := st.cursor + sources[st.index].pageCount, ok := true } := by
          simp [coverStep, hok, hitem, hstart]
        obtain ⟨hiff, hend⟩ := @ih (coverStep sources st) (by rw [hstep]) (by rw [hstep]; exact Nat.succ_inj.mp hn)
        rw [hstep] at hiff hend ⊢
        refine ⟨hiff.trans ⟨fun h => ⟨hstart, h⟩, fun h => h.2⟩, fun h => (hend h).trans ?_⟩
        rw [endOf, endOf, List.map_cons, List.sum_cons, Nat.add_assoc]
      · have hstep : coverStep sources st = { index := st.index + 1, cursor := st.cursor, ok := false } := by
          simp [coverStep, hok, hitem, hstart]
        have hfixed : ∀ m (other : CoverState), other.ok = false → ((coverStep sources)^[m] other).ok = false := by
          intro m
          induction m with
          | zero => exact fun _ h => h
          | succ m ihm =>
              intro other h
              have hsame : coverStep sources other = other := by simp [coverStep, h]
              rw [Function.iterate_succ_apply, hsame, ihm other h]
        have hfailed : ((coverStep sources)^[n] (coverStep sources st)).ok = false := hfixed n _ (by rw [hstep])
        rw [hfailed]
        exact ⟨iff_of_false Bool.false_ne_true fun h => hstart h.1, fun h => absurd h Bool.false_ne_true⟩

/-- **Descriptors cover the pages** when their ranges, in source order, are a partition of the page array. -/
theorem descriptorsCover_iff : descriptorsCover inp = true ↔ Partitions inp := by
  obtain ⟨hok, hcursor⟩ :=
    @iterate_coverStep inp.sources inp.sources.length { index := 0, cursor := 0, ok := true } rfl rfl
  rw [descriptorsCover, partitions_iff, Bool.and_eq_true, decide_eq_true_eq]
  constructor
  · rintro ⟨h, hend⟩
    exact ⟨hok.mp h, (hcursor h).symm.trans hend⟩
  · rintro ⟨h, hend⟩
    exact ⟨hok.mpr h, (hcursor (hok.mpr h)).trans hend⟩

/-! ## Imports -/

/-- The link of a use to the module that it names. -/
def linkOf (inp : Input) (all : List ParsedModule) (current : ParsedModule) (usage : UseDecl) : ImportLink :=
  useLink current usage (findImportTarget inp all current usage).index

/-- A use that names a module of the project. -/
def Found (inp : Input) (all : List ParsedModule) (current : ParsedModule) (usage : UseDecl) : Prop :=
  (findImportTarget inp all current usage).found = true

section Uses

variable {all : List ParsedModule} {current : ParsedModule}

theorem useOutcome_found {usage : UseDecl} (h : Found inp all current usage) :
    useOutcome inp all current usage = .linked (linkOf inp all current usage) := if_pos h

theorem refused_useOutcome {usage : UseDecl} :
    refused [useOutcome inp all current usage] = [] ↔ Found inp all current usage := by
  rw [Found, useOutcome]
  cases (findImportTarget inp all current usage).found <;> simp [refused, UseOutcome.diagnostic?]

/-- The uses of a module that are refused nothing: each has a target, and they stay within both limits. -/
theorem resolveUses_unrefused {room count : Nat} {uses : List UseDecl} (hcount : count ≤ 4096) :
    refused (resolveUses inp all current room count uses).1 = [] ↔
      (∀ usage ∈ uses, Found inp all current usage) ∧ uses.length ≤ room ∧ count + uses.length ≤ 4096 := by
  induction uses generalizing room count with
  | nil => simp [resolveUses, refused, hcount]
  | cons usage rest ih =>
      cases room with
      | zero => simp [resolveUses, refused, limitOutcome, UseOutcome.diagnostic?]
      | succ room =>
          rw [resolveUses]
          by_cases hlimit : count ≥ 4096
          · rw [if_pos hlimit]
            refine iff_of_false (List.cons_ne_nil _ _) ?_
            rintro ⟨-, -, hfew⟩
            rw [List.length_cons] at hfew
            omega
          · rw [if_neg hlimit]
            dsimp only
            rw [refused_cons, List.append_eq_nil_iff, refused_useOutcome, List.forall_mem_cons, List.length_cons,
              and_assoc, Nat.succ_le_succ_iff]
            refine and_congr_right ?_
            intro hfound
            have hone : (linked [useOutcome inp all current usage]).length = 1 := by
              rw [useOutcome_found hfound]
              rfl
            rw [hone, ih (by omega), Nat.add_assoc, Nat.add_comm 1]

/-- The uses of a module whose uses all have targets and stay within the limits: a link for each. -/
theorem resolveUses_found {room count : Nat} {uses : List UseDecl} (h : ∀ usage ∈ uses, Found inp all current usage)
    (hroom : uses.length ≤ room) (hcount : count + uses.length ≤ 4096) :
    resolveUses inp all current room count uses =
      (uses.map fun usage => .linked (linkOf inp all current usage), false) := by
  induction uses generalizing room count with
  | nil => cases room <;> rfl
  | cons usage rest ih =>
      rw [List.length_cons] at hroom hcount
      obtain ⟨room, rfl⟩ : ∃ r, room = r + 1 := ⟨room - 1, by omega⟩
      have hhere := useOutcome_found (h usage List.mem_cons_self)
      rw [resolveUses, if_neg (by omega), hhere]
      dsimp only
      have hone : (linked [UseOutcome.linked (linkOf inp all current usage)]).length = 1 := rfl
      rw [hone, ih (fun other hother => h other (List.mem_cons_of_mem usage hother)) (by omega) (by omega)]
      rfl

end Uses

theorem linked_map {α : Type} (f : α → ImportLink) (l : List α) :
    linked (l.map fun a => .linked (f a)) = l.map f := by
  rw [linked, List.filterMap_map, ← List.filterMap_eq_map]
  rfl

/-- The number of uses of some modules. -/
def useCount (modules : List ParsedModule) : Nat := (modules.map fun current => current.unit.uses.length).sum

/-- The imports of some modules resolve: every use names a module, no module has more than 1024 uses, and together they
    have no more than 4096. -/
structure Resolves (inp : Input) (all modules : List ParsedModule) : Prop where
  found : ∀ current ∈ modules, ∀ usage ∈ current.unit.uses, Found inp all current usage
  short : ∀ current ∈ modules, current.unit.uses.length ≤ 1024
  few : useCount modules ≤ 4096

theorem resolveModules_unrefused {all : List ParsedModule} {count : Nat} {modules : List ParsedModule}
    (hcount : count ≤ 4096) :
    refused (resolveModules inp all count modules) = [] ↔
      (∀ current ∈ modules, ∀ usage ∈ current.unit.uses, Found inp all current usage) ∧
        (∀ current ∈ modules, current.unit.uses.length ≤ 1024) ∧ count + useCount modules ≤ 4096 := by
  induction modules generalizing count with
  | nil => simp [resolveModules, refused, useCount, hcount]
  | cons current rest ih =>
      have hfirst := @resolveUses_unrefused inp all current 1024 count current.unit.uses hcount
      have hsum : useCount (current :: rest) = current.unit.uses.length + useCount rest := List.sum_cons
      rw [resolveModules, List.forall_mem_cons, List.forall_mem_cons, hsum]
      by_cases hhere : (∀ usage ∈ current.unit.uses, Found inp all current usage) ∧ current.unit.uses.length ≤ 1024 ∧
          count + current.unit.uses.length ≤ 4096
      · obtain ⟨hfound, hshort, hfew⟩ := hhere
        rw [resolveUses_found hfound hshort hfew]
        dsimp only
        rw [if_neg Bool.false_ne_true, refused_append, linked_map, List.length_map]
        have hnone : refused (current.unit.uses.map fun usage => .linked (linkOf inp all current usage)) = [] := by
          rw [refused, List.filterMap_map]
          exact List.filterMap_eq_nil_iff.mpr fun _ _ => rfl
        rw [hnone, List.nil_append, ih hfew, Nat.add_assoc]
        exact ⟨fun h => ⟨⟨hfound, h.1⟩, ⟨hshort, h.2.1⟩, h.2.2⟩, fun h => ⟨h.1.2, h.2.1.2, h.2.2⟩⟩
      · -- the module itself is refused something
        have hrefused : refused (resolveUses inp all current 1024 count current.unit.uses).1 ≠ [] := by
          rwa [Ne, hfirst]
        refine iff_of_false ?_ ?_
        · split
          · exact hrefused
          · rw [refused_append, List.append_eq_nil_iff]
            exact fun h => hrefused h.1
        · rintro ⟨⟨hfound, -⟩, ⟨hshort, -⟩, hfew⟩
          exact hhere ⟨hfound, hshort, by omega⟩

theorem resolveModules_found {all : List ParsedModule} {count : Nat} {modules : List ParsedModule}
    (hfound : ∀ current ∈ modules, ∀ usage ∈ current.unit.uses, Found inp all current usage)
    (hshort : ∀ current ∈ modules, current.unit.uses.length ≤ 1024) (hfew : count + useCount modules ≤ 4096) :
    linked (resolveModules inp all count modules) =
      modules.flatMap fun current => current.unit.uses.map (linkOf inp all current) := by
  induction modules generalizing count with
  | nil => rfl
  | cons current rest ih =>
      rw [List.forall_mem_cons] at hfound hshort
      have hsum : useCount (current :: rest) = current.unit.uses.length + useCount rest := List.sum_cons
      rw [hsum] at hfew
      rw [resolveModules, resolveUses_found hfound.1 hshort.1 (by omega)]
      dsimp only
      rw [if_neg Bool.false_ne_true, linked_append, linked_map, List.length_map,
        ih hfound.2 hshort.2 (by omega), List.flatMap_cons]

/-- **Imports are valid** exactly when they resolve. -/
theorem resolveImports_valid_iff (hsources : inp.sources.length ≤ 64) {modules : List ParsedModule}
    (hlength : modules.length ≤ inp.sources.length) :
    (resolveImports inp modules).valid = true ↔ Resolves inp modules modules := by
  obtain ⟨-, -, -, hvalid⟩ := resolveImports_outcomes modules hsources
  rw [List.take_of_length_le hlength, resolveModules_unrefused (Nat.zero_le _), Nat.zero_add] at hvalid
  exact hvalid.trans ⟨fun h => ⟨h.1, h.2.1, h.2.2⟩, fun h => ⟨h.found, h.short, h.few⟩⟩

/-- The links of imports that resolve: one for each use, in order. -/
theorem resolveImports_links (hsources : inp.sources.length ≤ 64) {modules : List ParsedModule}
    (hlength : modules.length ≤ inp.sources.length) (h : Resolves inp modules modules) :
    (resolveImports inp modules).imports =
      modules.flatMap fun current => current.unit.uses.map (linkOf inp modules current) := by
  obtain ⟨himports, -, -, -⟩ := resolveImports_outcomes modules hsources
  rw [himports, List.take_of_length_le hlength, resolveModules_found h.found h.short]
  rw [Nat.zero_add]
  exact h.few

/-- A use is found when another source has a module of its name, and its link goes to the first of them. -/
theorem found_iff {modules : List ParsedModule} (hlength : modules.length ≤ inp.sources.length) {current : ParsedModule}
    {usage : UseDecl} :
    Found inp modules current usage ↔ ∃ target ∈ modules, isTarget inp current usage target = true ∧
      (linkOf inp modules current usage).targetIndex = target.sourceIndex := by
  obtain ⟨hisSome, hindex⟩ := findImportTarget_eq inp modules current usage
  rw [List.take_of_length_le hlength] at hisSome hindex
  constructor
  · intro hfound
    rw [Found, hisSome] at hfound
    obtain ⟨target, htarget⟩ := Option.isSome_iff_exists.mp hfound
    refine ⟨target, List.mem_of_find?_eq_some htarget, List.find?_some htarget, ?_⟩
    show (findImportTarget inp modules current usage).index = _
    rw [hindex, htarget]
    rfl
  · rintro ⟨target, hmem, htarget, -⟩
    rw [Found, hisSome, List.find?_isSome]
    exact ⟨target, hmem, htarget⟩

/-! ## Names -/

theorem duplicateModules_eq_nil_iff (hsources : inp.sources.length ≤ 64) (targetSourceIndex : Nat) (targetOnly : Bool) :
    duplicateModules inp (parsedModules inp targetSourceIndex targetOnly) = [] ↔
      ∀ k < inp.sources.length, ¬ Repeats inp k := by
  rw [duplicateModules_parsed hsources, List.filterMap_eq_nil_iff]
  simp only [List.mem_range, reportOf, ite_eq_right_iff, reduceCtorEq, imp_false]

/-! ## Valid projects -/

/-- What the passes over a project check, of the modules that they have made. -/
structure Admissible (inp : Input) (modules : List ParsedModule) : Prop where
  ordered : (inp.sources.map ProjectSource.sourceId).Pairwise (· < ·)
  covered : Partitions inp
  parsed : ∀ parsed ∈ modules, parsed.unit.ok = true
  distinct : ∀ k < inp.sources.length, ¬ Repeats inp k
  resolves : Resolves inp modules modules

theorem reports_eq_nil_iff_admissible (hsources : inp.sources.length ≤ 64) {scope : Scope} {targetSourceIndex : Nat}
    {targetOnly : Bool} {chosen : List ParsedModule} :
    reports inp scope (parsedModules inp targetSourceIndex targetOnly) chosen = [] ↔
      Admissible inp (parsedModules inp targetSourceIndex targetOnly) ∧
        ∀ parsed ∈ chosen, (loweredOf inp scope parsed).valid = true := by
  have hlength : (parsedModules inp targetSourceIndex targetOnly).length ≤ inp.sources.length :=
    (parsedModules_length targetSourceIndex targetOnly).le
  rw [reports_eq_nil_iff hsources, duplicateModules_eq_nil_iff hsources, sourceOrdered_iff, descriptorsCover_iff,
    resolveImports_valid_iff hsources hlength]
  constructor
  · rintro ⟨⟨hparsed, hlowered⟩, hdistinct, hordered, hcovered, hresolves⟩
    exact ⟨⟨hordered, hcovered, hparsed, hdistinct, hresolves⟩, hlowered⟩
  · rintro ⟨⟨hordered, hcovered, hparsed, hdistinct, hresolves⟩, hlowered⟩
    exact ⟨⟨hparsed, hlowered⟩, hdistinct, hordered, hcovered, hresolves⟩

/-- What the compilation of a source has established when its project is valid. -/
structure Proved (src : Source) (entry : ProjectModule) : Prop where
  parsed : (parseUnit src).ok = true
  unit : entry.flow.proof.unit = parseUnit src
  proved : entry.flow.proof.ok = true
  names : DistinctNames src
    ((parseUnit src).fns.map fun decl => { start := decl.sig.nameStart, stop := decl.sig.nameStop })
  lowered : entry.flow.valid = true
  graphs : entry.flow.functions.length = (parseUnit src).fns.length

/-- A unit that proves has no two functions of one name, of the first 1024. -/
theorem provedUnit_names {src : Source} {u : Decl.Unit} {imported : List Sig} {nominals : List NominalTypeIdentity}
    {importedRecords : List ImportedRecordSchema} {importedEnums : List ImportedEnumSchema}
    (h : (proveParsedUnitWithImportedSchemas src u imported nominals importedRecords importedEnums).ok = true) :
    DistinctNames src
      ((u.fns.take 1024).map fun decl => { start := decl.sig.nameStart, stop := decl.sig.nameStop }) := by
  rw [← collectFnNames_eq, ← duplicateFnNames_found]
  · cases hok : u.ok with
    | false =>
        simp only [proveParsedUnitWithImportedSchemas, hok, Bool.not_false, if_true, Bool.false_eq_true] at h
    | true =>
        by_contra hdup
        rw [Bool.not_eq_false] at hdup
        simp only [proveParsedUnitWithImportedSchemas, hok, hdup, Bool.not_true, Bool.false_eq_true, if_false,
          if_true] at h
  · rw [collectFnNames_eq, List.length_map]
    exact List.length_take_le ..

theorem lowerProvenUnit_proof (src : Source) (proof : UnitProve) : (lowerProvenUnit src proof).proof = proof := by
  unfold lowerProvenUnit
  split <;> rfl

/-- A module that parsed and lowered is proved, with a graph for each of its functions. -/
theorem entryOf_proved {scope : Scope} {parsed : ParsedModule}
    (hunit : parsed.unit = parseUnit (moduleSource inp parsed.sourceIndex)) (hok : parsed.unit.ok = true)
    (h : (loweredOf inp scope parsed).valid = true) :
    Proved (moduleSource inp parsed.sourceIndex) (entryOf inp scope parsed) := by
  have hproof : (loweredOf inp scope parsed).proof = proofOf inp scope parsed := lowerProvenUnit_proof _ _
  have hof : (proofOf inp scope parsed).unit = parsed.unit := provedUnit_eq _ _ _ _ _
  have hproved : (proofOf inp scope parsed).ok = true := by
    by_contra hfailed
    rw [Bool.not_eq_true] at hfailed
    have hinvalid : (loweredOf inp scope parsed).valid = false := lowerProvenUnit_of_failed hfailed
    rw [hinvalid] at h
    cases h
  obtain ⟨hmatched, -⟩ := matched_of_valid h
  have hcount : parsed.unit.fns.length = (loweredOf inp scope parsed).functions.length := by
    have hdeclarations := hmatched.declarations.trans hmatched.graphs.symm
    rwa [lowerProvenUnit_proof, hof] at hdeclarations
  have hbounded : parsed.unit.fns.length ≤ 1024 := by
    have hgraphs := hmatched.graphs.trans_le hmatched.bounded
    rw [hcount]
    exact hgraphs
  rw [hunit] at hok hcount hbounded
  refine ⟨hok, ?_, ?_, ?_, h, hcount.symm⟩
  · show (loweredOf inp scope parsed).proof.unit = _
    rw [hproof, hof, hunit]
  · show (loweredOf inp scope parsed).proof.ok = true
    rw [hproof, hproved]
  · have hnames := provedUnit_names hproved
    rwa [hunit, List.take_of_length_le hbounded] at hnames

/-- What the value SSA form of a source has established when its project's is valid. -/
structure Formed (src : Source) (entry : ProjectModule) : Prop where
  functions : entry.valueSsa.functions.length = (parseUnit src).fns.length
  accepted : ∀ f ∈ entry.valueSsa.functions, Accepted src f

theorem entryOf_formed {scope : Scope} {parsed : ParsedModule}
    (hunit : parsed.unit = parseUnit (moduleSource inp parsed.sourceIndex))
    (h : (valueSsaOf inp scope parsed).valid = true) :
    Formed (moduleSource inp parsed.sourceIndex) (entryOf inp scope parsed) := by
  obtain ⟨hvalid, hverified⟩ := unitFunctions_verified h
  obtain ⟨hmatched, hflow⟩ := matched_of_valid hvalid
  have hsummary := @Matched.summary (moduleSource inp parsed.sourceIndex) _ (nominalsOf inp scope parsed)
    scope.importedRecords scope.importedEnums hmatched hflow
  have hfunctions : (valueSsaOf inp scope parsed).functions = unitFunctions (moduleSource inp parsed.sourceIndex)
      (loweredOf inp scope parsed) (nominalsOf inp scope parsed) scope.importedRecords scope.importedEnums :=
    congrArg ValueSsaSummary.functions hsummary
  have hof : (proofOf inp scope parsed).unit = parsed.unit := provedUnit_eq _ _ _ _ _
  constructor
  · show (valueSsaOf inp scope parsed).functions.length = _
    have hlength := @Matched.length (moduleSource inp parsed.sourceIndex) _ (nominalsOf inp scope parsed)
      scope.importedRecords scope.importedEnums hmatched
    rw [← hmatched.declarations, lowerProvenUnit_proof, hof, hunit] at hlength
    rw [hfunctions]
    exact hlength
  · intro f hf
    change f ∈ (valueSsaOf inp scope parsed).functions at hf
    rw [hfunctions] at hf
    exact unitFunctions_accepted hf (hverified f hf)

/-! ## Entries -/

/-- What an entry of a compilation says of its source. -/
structure Describes (inp : Input) (result : ProjectResult) (k : Nat) (item : ProjectSource)
    (entry : ProjectModule) : Prop where
  sourceId : entry.sourceId = item.sourceId
  sourcePath : entry.sourcePath = item.sourcePath
  sourceIndex : entry.sourceIndex = k
  proved : result.valid = true → Proved (moduleSource inp k) entry
  formed : result.valueSsaValid = true → Formed (moduleSource inp k) entry

theorem moduleAt_unit {k targetSourceIndex : Nat} {targetOnly : Bool} {item : ProjectSource}
    (hitem : inp.sources[k]? = some item) (hwhole : targetOnly = false ∨ k = targetSourceIndex) :
    (moduleAt inp targetSourceIndex targetOnly k item).unit = parseUnit (moduleSource inp k) := by
  have hsource : moduleSource inp k = { pages := modulePages inp k, stride := item.stride, total := item.total } := by
    simp [moduleSource, moduleStride, moduleTotal, hitem]
  show parseProjectUnit _ _ _ _ = _
  rw [hsource, parseProjectUnit, if_neg]
  rcases hwhole with rfl | rfl <;> simp

/-- The entry of a module that a compilation has chosen, of a source with all its bodies. -/
theorem Compiled.describes {scope : Scope} {chosen : List ParsedModule} {targetSourceIndex k : Nat} {targetOnly : Bool}
    {missing : Option Nat} {result : ProjectResult} {item : ProjectSource}
    (h : Compiled inp scope (parsedModules inp targetSourceIndex targetOnly) chosen missing result)
    (hsources : inp.sources.length ≤ 64) (hitem : inp.sources[k]? = some item)
    (hwhole : targetOnly = false ∨ k = targetSourceIndex)
    (hchosen : moduleAt inp targetSourceIndex targetOnly k item ∈ chosen) :
    Describes inp result k item (entryOf inp scope (moduleAt inp targetSourceIndex targetOnly k item)) := by
  have hunit := moduleAt_unit hitem hwhole
  refine ⟨rfl, rfl, rfl, ?_, ?_⟩
  · intro hvalid
    have hreports := h.valid.mp hvalid
    rw [h.reported, List.append_eq_nil_iff] at hreports
    obtain ⟨hadmissible, hlowered⟩ := (reports_eq_nil_iff_admissible hsources).mp hreports.2
    refine entryOf_proved hunit (hadmissible.parsed _ ?_) (hlowered _ hchosen)
    rw [parsedModules_eq]
    exact List.mem_of_getElem? (by rw [List.getElem?_mapIdx, hitem, Option.map_some])
  · intro hvalueSsa
    obtain ⟨-, -, hformed⟩ := h.valueSsaValid.mp hvalueSsa
    exact entryOf_formed hunit (hformed _ hchosen)

/-- **One entry for each source**, in order, and none besides. When the project is valid it holds the proof and the flow
    graphs of the source, and when its value SSA is valid, functions in value SSA form that are well formed. -/
theorem compileProject_entries (snapshot : ProjectSnapshot) (flatPages : List View) :
    let inp : Input := { sources := snapshot.sources, flatPages := flatPages }
    (compileProject snapshot flatPages).modules.length = snapshot.sources.length ∧
      ∀ k item, snapshot.sources[k]? = some item → ∃ entry,
        (compileProject snapshot flatPages).modules[k]? = some entry ∧
        Describes inp (compileProject snapshot flatPages) k item entry := by
  intro inp
  have hcompiled := compileProject_compiled snapshot flatPages
  constructor
  · rw [hcompiled.entries, List.length_map, parsedModules_length]
  · intro k item hitem
    have hparsed : (parsedModules inp 0 false)[k]? = some (moduleAt inp 0 false k item) := by
      rw [parsedModules_eq, List.getElem?_mapIdx, hitem, Option.map_some]
    refine ⟨entryOf inp (wholeScope inp) (moduleAt inp 0 false k item), ?_,
      hcompiled.describes snapshot.bounded hitem (.inl rfl) (List.mem_of_getElem? hparsed)⟩
    rw [hcompiled.entries, List.getElem?_map, hparsed, Option.map_some]

/-- **A target has the entry of its source** and no other; without the source there is no entry. -/
theorem compileProjectTarget_entries (snapshot : ProjectSnapshot) (flatPages : List View) (targetSourceIndex : Nat) :
    let inp : Input := { sources := snapshot.sources, flatPages := flatPages }
    ((compileProjectTarget snapshot flatPages targetSourceIndex).modules = [] ↔
        snapshot.sources.length ≤ targetSourceIndex) ∧
      ∀ item, snapshot.sources[targetSourceIndex]? = some item → ∃ entry,
        (compileProjectTarget snapshot flatPages targetSourceIndex).modules = [entry] ∧
          Describes inp (compileProjectTarget snapshot flatPages targetSourceIndex) targetSourceIndex item entry := by
  intro inp
  have hcompiled := compileProjectTarget_compiled snapshot flatPages targetSourceIndex
  have hchosen : chosenModules inp targetSourceIndex = (snapshot.sources[targetSourceIndex]?.map
      (moduleAt inp targetSourceIndex true targetSourceIndex)).toList := by
    rw [chosenModules, find_target]
  constructor
  · rw [hcompiled.entries, List.map_eq_nil_iff, hchosen, Option.toList_eq_nil_iff, Option.map_eq_none_iff,
      List.getElem?_eq_none_iff]
  · intro item hitem
    rw [hitem, Option.map_some, Option.toList_some] at hchosen
    refine ⟨entryOf inp (chosenScope inp targetSourceIndex)
      (moduleAt inp targetSourceIndex true targetSourceIndex item), ?_,
      hcompiled.describes snapshot.bounded hitem (.inr rfl) (by rw [hchosen]; exact List.mem_singleton_self _)⟩
    rw [hcompiled.entries, hchosen, List.map_singleton]

end MncsCompiler.Project
