import MncsCompiler.Lib.Memo
import MncsCompiler.Project.Closure
import MncsCompiler.Project.Names

/-!
# `Project.Resolve` — imports to modules

`find_import_target` looks for the module that a use declaration names. `resolve_imports` does it for every use of
every module: a use gives a link or a `MissingImport`. The passes over the uses of one module keep the answers of names
of at most 64 bytes, found or missing, in a cache of 64 facts that starts again when it is full. A use behind the 1024th
of its module, or behind the 4096th link of the project, gives an `ImportLimitExceeded`.

`resolveUses` and `resolveModules` are the same without the cache and without the loops.
-/

namespace MncsCompiler.Project

open BoundedLoop Decl

/-! ## The target of one use -/

structure ModuleLookup where
  found : Bool
  index : Nat
  nameComparisons : Nat

structure ModuleLookupState where
  rest : List ParsedModule
  current : ParsedModule
  usage : UseDecl
  found : Bool
  index : Nat
  nameComparisons : Nat

def moduleLookupCandidate (inp : Input) (st : ModuleLookupState) (candidate : ParsedModule) (tail : List ParsedModule)
    : ModuleLookupState :=
  if candidate.sourceIndex = st.current.sourceIndex then { st with rest := tail }
  else if useMatchesModule inp st.current st.usage candidate then
    { st with
      rest := [], found := true, index := candidate.sourceIndex, nameComparisons := st.nameComparisons + 1 }
  else { st with rest := tail, nameComparisons := st.nameComparisons + 1 }

def moduleLookupStep (inp : Input) (st : ModuleLookupState) : ModuleLookupState :=
  if st.found then st
  else
    match st.rest with
    | [] => st
    | candidate :: tail => moduleLookupCandidate inp st candidate tail

def findImportTarget (inp : Input) (all : List ParsedModule) (current : ParsedModule) (usage : UseDecl)
    : ModuleLookup :=
  let st := (moduleLookupStep inp)^[inp.sources.length]
    { rest := all, current := current, usage := usage, found := false, index := 0, nameComparisons := 0 }
  { found := st.found, index := st.index, nameComparisons := st.nameComparisons }

/-! ## The cache of one module -/

structure ModuleResolutionFact where
  moduleStart : Nat
  moduleStop : Nat
  targetFound : Bool
  targetIndex : Nat

structure ModuleResolutionCacheLookup where
  rest : List ModuleResolutionFact
  sourceIndex : Nat
  moduleStart : Nat
  moduleStop : Nat
  found : Bool
  targetFound : Bool
  targetIndex : Nat

structure ModuleResolutionNameCompare where
  length : Nat
  leftStart : Nat
  rightStart : Nat
  offset : Nat
  equal : Bool

/-- A byte of a source, read off the flat page array. -/
def projectSourceByteAt (inp : Input) (sourceIndex offset : Nat) : Nat :=
  match inp.sources[sourceIndex]? with
  | none => 256
  | some item =>
    if item.stride = 0 || offset ≥ item.total then 256
    else
      let relativePage := offset / item.stride
      if relativePage ≥ item.pageCount then 256
      else if item.pageStart > inp.flatPages.length || item.pageCount > inp.flatPages.length - item.pageStart then 256
      else
        let page := inp.flatPages.getD (item.pageStart + relativePage) []
        let withinPage := offset % item.stride
        if withinPage ≥ page.length then 256 else byte page withinPage

def moduleResolutionNameCompareStep (inp : Input) (sourceIndex : Nat) (st : ModuleResolutionNameCompare)
    : ModuleResolutionNameCompare :=
  if !st.equal || st.offset ≥ st.length then st
  else
    let left := projectSourceByteAt inp sourceIndex (st.leftStart + st.offset)
    let right := projectSourceByteAt inp sourceIndex (st.rightStart + st.offset)
    { st with offset := st.offset + 1, equal := left < 256 && right < 256 && left = right }

/-- Two names of one source of at most 64 bytes each. -/
def moduleResolutionCacheKeyEqual (inp : Input) (sourceIndex leftStart leftStop rightStart rightStop : Nat) : Bool :=
  if leftStop < leftStart || rightStop < rightStart then false
  else if leftStop - leftStart ≠ rightStop - rightStart then false
  else
    match inp.sources[sourceIndex]? with
    | none => false
    | some item =>
      if item.stride = 0 || leftStop > item.total || rightStop > item.total then false
      else if item.pageStart > inp.flatPages.length || item.pageCount > inp.flatPages.length - item.pageStart then false
      else
        let length := leftStop - leftStart
        if length > 64 then false
        else
          (iterate (fun _ (st : ModuleResolutionNameCompare) =>
              if !st.equal || st.offset ≥ st.length then .ret (st.equal && st.offset ≥ st.length)
              else .next (moduleResolutionNameCompareStep inp sourceIndex st))
            0 64 { length := length, leftStart := leftStart, rightStart := rightStart, offset := 0
                   equal := true }).after fun st => st.equal && st.offset ≥ st.length

def moduleResolutionCacheNameCacheable (inp : Input) (sourceIndex nameStart nameStop : Nat) : Bool :=
  match inp.sources[sourceIndex]? with
  | none => false
  | some item =>
    if nameStop < nameStart || nameStop - nameStart > 64 then false
    else if item.stride = 0 || nameStop > item.total then false
    else if item.pageStart > inp.flatPages.length || item.pageCount > inp.flatPages.length - item.pageStart then false
    else true

def moduleResolutionCacheFact (inp : Input) (sourceIndex : Nat) (st : ModuleResolutionCacheLookup)
    (fact : ModuleResolutionFact) (rest : List ModuleResolutionFact) : ModuleResolutionCacheLookup :=
  if moduleResolutionCacheKeyEqual inp sourceIndex st.moduleStart st.moduleStop fact.moduleStart fact.moduleStop then
    { st with rest := [], found := true, targetFound := fact.targetFound, targetIndex := fact.targetIndex }
  else { st with rest := rest, found := false, targetFound := false, targetIndex := 0 }

def moduleResolutionCacheStep (inp : Input) (sourceIndex : Nat) (st : ModuleResolutionCacheLookup)
    : ModuleResolutionCacheLookup :=
  if st.found then st
  else
    match st.rest with
    | [] => st
    | fact :: rest => moduleResolutionCacheFact inp sourceIndex st fact rest

def moduleResolutionCacheLookupDone (st : ModuleResolutionCacheLookup) : Bool := st.found || st.rest.isEmpty

def moduleResolutionCacheLookup (inp : Input) (current : ParsedModule) (usage : UseDecl)
    (facts : List ModuleResolutionFact) : ModuleResolutionCacheLookup :=
  (iterate (fun _ st =>
      if moduleResolutionCacheLookupDone st then .ret st
      else .next (moduleResolutionCacheStep inp current.sourceIndex st))
    0 64 { rest := facts, sourceIndex := current.sourceIndex, moduleStart := usage.moduleStart
           moduleStop := usage.moduleStop, found := false, targetFound := false, targetIndex := 0 }).after id

/-- A full cache starts again with the new fact. -/
def moduleResolutionCacheAdd (facts : List ModuleResolutionFact) (factsCount : Nat) (usage : UseDecl)
    (targetFound : Bool) (targetIndex : Nat) (cacheHit cacheable : Bool) : List ModuleResolutionFact :=
  let fact : ModuleResolutionFact :=
    { moduleStart := usage.moduleStart, moduleStop := usage.moduleStop, targetFound := targetFound
      targetIndex := targetIndex }
  if cacheHit || !cacheable then facts else if factsCount ≥ 64 then [fact] else fact :: facts

/-! ## The uses of one module -/

structure ResolveUses where
  rest : List UseDecl
  imports : List ImportLink
  diagnostics : List ProjectDiagnostic
  valid : Bool
  count : Nat
  facts : List ModuleResolutionFact
  factsCount : Nat
  importModuleNameComparisons : Nat
  importResolutionCacheHits : Nat
  importResolutionNegativeCacheHits : Nat
  importResolutionCacheEntriesMax : Nat

structure UseResolution where
  imports : List ImportLink
  diagnostics : List ProjectDiagnostic
  valid : Bool
  count : Nat
  importModuleNameComparisons : Nat
  importResolutionCacheHits : Nat
  importResolutionNegativeCacheHits : Nat
  importResolutionCacheEntriesMax : Nat
  limitReached : Bool

/-- The link of a use to its target. -/
def useLink (current : ParsedModule) (usage : UseDecl) (targetIndex : Nat) : ImportLink :=
  { sourceIndex := current.sourceIndex, targetIndex := targetIndex, moduleStart := usage.moduleStart
    moduleStop := usage.moduleStop, aliasStart := usage.aliasStart, aliasStop := usage.aliasStop
    hasAlias := usage.hasAlias }

def resolveOneUseResult (current : ParsedModule) (usage : UseDecl) (tail : List UseDecl) (st : ResolveUses)
    (cacheHit targetFound : Bool) (targetIndex nameComparisons : Nat) (cacheable : Bool) : ResolveUses :=
  let facts := moduleResolutionCacheAdd st.facts st.factsCount usage targetFound targetIndex cacheHit cacheable
  let addsFact := cacheable && !cacheHit
  let addedFactCount := if st.factsCount ≥ 64 then 1 else st.factsCount + 1
  let factsCount := if addsFact then addedFactCount else st.factsCount
  let factsMax :=
    if st.importResolutionCacheEntriesMax > factsCount then st.importResolutionCacheEntriesMax else factsCount
  let cacheHits := st.importResolutionCacheHits + if cacheHit && targetFound then 1 else 0
  let negativeCacheHits := st.importResolutionNegativeCacheHits + if cacheHit && !targetFound then 1 else 0
  if !targetFound then
    { rest := tail, imports := st.imports
      diagnostics := .missingImport current.sourceIndex usage.moduleStart usage.moduleStop :: st.diagnostics
      valid := false, count := st.count, facts := facts, factsCount := factsCount
      importModuleNameComparisons := st.importModuleNameComparisons + nameComparisons
      importResolutionCacheHits := cacheHits, importResolutionNegativeCacheHits := negativeCacheHits
      importResolutionCacheEntriesMax := factsMax }
  else
    { rest := tail, imports := useLink current usage targetIndex :: st.imports, diagnostics := st.diagnostics
      valid := st.valid, count := st.count + 1, facts := facts, factsCount := factsCount
      importModuleNameComparisons := st.importModuleNameComparisons + nameComparisons
      importResolutionCacheHits := cacheHits, importResolutionNegativeCacheHits := negativeCacheHits
      importResolutionCacheEntriesMax := factsMax }

def resolveOneUse (inp : Input) (all : List ParsedModule) (current : ParsedModule) (usage : UseDecl)
    (tail : List UseDecl) (st : ResolveUses) : ResolveUses :=
  let cached := moduleResolutionCacheLookup inp current usage st.facts
  let cacheable :=
    moduleResolutionCacheNameCacheable inp current.sourceIndex usage.moduleStart usage.moduleStop
  if cached.found then
    resolveOneUseResult current usage tail st true cached.targetFound cached.targetIndex 0 cacheable
  else
    let found := findImportTarget inp all current usage
    resolveOneUseResult current usage tail st false found.found found.index found.nameComparisons cacheable

def resolveUseStep (inp : Input) (all : List ParsedModule) (current : ParsedModule) (st : ResolveUses) : ResolveUses :=
  match st.rest with
  | [] => st
  | usage :: tail => resolveOneUse inp all current usage tail st

/-- A use that is left is over the limit. -/
def finishUseResolution (st : ResolveUses) (sourceIndex limit : Nat) : UseResolution :=
  match st.rest with
  | [] =>
    { imports := st.imports, diagnostics := st.diagnostics, valid := st.valid, count := st.count
      importModuleNameComparisons := st.importModuleNameComparisons
      importResolutionCacheHits := st.importResolutionCacheHits
      importResolutionNegativeCacheHits := st.importResolutionNegativeCacheHits
      importResolutionCacheEntriesMax := st.importResolutionCacheEntriesMax, limitReached := false }
  | usage :: _ =>
    { imports := st.imports
      diagnostics := .importLimitExceeded sourceIndex usage.moduleStart usage.moduleStop limit :: st.diagnostics
      valid := false, count := st.count
      importModuleNameComparisons := st.importModuleNameComparisons
      importResolutionCacheHits := st.importResolutionCacheHits
      importResolutionNegativeCacheHits := st.importResolutionNegativeCacheHits
      importResolutionCacheEntriesMax := st.importResolutionCacheEntriesMax, limitReached := limit = 4096 }

def projectImportLimitReached (count : Nat) : Bool := count ≥ 4096

def finishGlobalImportLimit (st : ResolveUses) (sourceIndex : Nat) : UseResolution :=
  finishUseResolution st sourceIndex 4096

def resolveUseList (inp : Input) (all : List ParsedModule) (current : ParsedModule) (uses : List UseDecl)
    (imports : List ImportLink) (diagnostics : List ProjectDiagnostic) (valid : Bool) (count : Nat) : UseResolution :=
  if uses.isEmpty then
    { imports := imports, diagnostics := diagnostics, valid := valid, count := count, importModuleNameComparisons := 0
      importResolutionCacheHits := 0, importResolutionNegativeCacheHits := 0, importResolutionCacheEntriesMax := 0
      limitReached := false }
  else
    (iterate (fun _ (st : ResolveUses) =>
        if st.rest.isEmpty then .ret (finishUseResolution st current.sourceIndex 1024)
        else if projectImportLimitReached st.count then .ret (finishGlobalImportLimit st current.sourceIndex)
        else .next (resolveUseStep inp all current st))
      0 1024
      { rest := uses, imports := imports, diagnostics := diagnostics, valid := valid, count := count, facts := []
        factsCount := 0, importModuleNameComparisons := 0, importResolutionCacheHits := 0
        importResolutionNegativeCacheHits := 0, importResolutionCacheEntriesMax := 0 }).after fun st =>
      finishUseResolution st current.sourceIndex 1024

/-! ## The modules of a project -/

structure ResolveModules where
  rest : List ParsedModule
  all : List ParsedModule
  imports : List ImportLink
  diagnostics : List ProjectDiagnostic
  valid : Bool
  count : Nat
  importModuleNameComparisons : Nat
  importResolutionCacheHits : Nat
  importResolutionNegativeCacheHits : Nat
  importResolutionCacheEntriesMax : Nat
  limitReached : Bool

structure Resolution where
  valid : Bool
  count : Nat
  imports : List ImportLink
  diagnostics : List ProjectDiagnostic
  importModuleNameComparisons : Nat
  importResolutionCacheHits : Nat
  importResolutionNegativeCacheHits : Nat
  importResolutionCacheEntriesMax : Nat

def resolveModuleUses (inp : Input) (st : ResolveModules) (current : ParsedModule) (tail : List ParsedModule)
    : ResolveModules :=
  let resolved := resolveUseList inp st.all current current.unit.uses st.imports st.diagnostics st.valid st.count
  { rest := tail, all := st.all, imports := resolved.imports, diagnostics := resolved.diagnostics
    valid := resolved.valid, count := resolved.count
    importModuleNameComparisons := st.importModuleNameComparisons + resolved.importModuleNameComparisons
    importResolutionCacheHits := st.importResolutionCacheHits + resolved.importResolutionCacheHits
    importResolutionNegativeCacheHits :=
      st.importResolutionNegativeCacheHits + resolved.importResolutionNegativeCacheHits
    importResolutionCacheEntriesMax :=
      if st.importResolutionCacheEntriesMax > resolved.importResolutionCacheEntriesMax then
        st.importResolutionCacheEntriesMax
      else resolved.importResolutionCacheEntriesMax
    limitReached := resolved.limitReached }

def resolveModuleStep (inp : Input) (st : ResolveModules) : ResolveModules :=
  if st.limitReached then st
  else
    match st.rest with
    | [] => st
    | current :: tail => resolveModuleUses inp st current tail

/-- One of the four chunks of a reversal. -/
def reverseImportPart (initial : Sweep ImportLink (List ImportLink)) : Sweep ImportLink (List ImportLink) :=
  (iterate (fun _ (st : Sweep ImportLink (List ImportLink)) =>
      if st.rest.isEmpty then .ret st else .next (Sweep.step (fun acc h => h :: acc) st)) 0 1024 initial).after id

def reverseImports (imports : List ImportLink) : List ImportLink :=
  let first := reverseImportPart { rest := imports, acc := [] }
  let second := reverseImportPart first
  let third := reverseImportPart second
  let fourth := reverseImportPart third
  fourth.acc

def resolveImports (inp : Input) (modules : List ParsedModule) : Resolution :=
  let st := (resolveModuleStep inp)^[inp.sources.length]
    { rest := modules, all := modules, imports := [], diagnostics := [], valid := true, count := 0
      importModuleNameComparisons := 0, importResolutionCacheHits := 0, importResolutionNegativeCacheHits := 0
      importResolutionCacheEntriesMax := 0, limitReached := false }
  { valid := st.valid, count := st.count, imports := reverseImports st.imports
    diagnostics := reverseDiagnostics st.diagnostics
    importModuleNameComparisons := st.importModuleNameComparisons
    importResolutionCacheHits := st.importResolutionCacheHits
    importResolutionNegativeCacheHits := st.importResolutionNegativeCacheHits
    importResolutionCacheEntriesMax := st.importResolutionCacheEntriesMax }

/-! ## What a lookup finds -/

/-- A use may name a module of another source. -/
def isTarget (inp : Input) (current : ParsedModule) (usage : UseDecl) (candidate : ParsedModule) : Bool :=
  candidate.sourceIndex ≠ current.sourceIndex && useMatchesModule inp current usage candidate

theorem iterate_moduleLookupStep (inp : Input) (n : Nat) {st : ModuleLookupState} (hopen : st.found = false) :
    ((moduleLookupStep inp)^[n] st).found = ((st.rest.take n).find? (isTarget inp st.current st.usage)).isSome ∧
      ((moduleLookupStep inp)^[n] st).index =
        (((st.rest.take n).find? (isTarget inp st.current st.usage)).map ParsedModule.sourceIndex).getD st.index := by
  induction n generalizing st with
  | zero => exact ⟨hopen, rfl⟩
  | succ n ih =>
      rw [Function.iterate_succ_apply]
      cases hrest : st.rest with
      | nil =>
          have hstep : moduleLookupStep inp st = st := by
            rw [moduleLookupStep, if_neg (by simp [hopen]), hrest]
          rw [hstep, (ih hopen).1, (ih hopen).2, hrest]
          simp
      | cons candidate tail =>
          have hstep : moduleLookupStep inp st = moduleLookupCandidate inp st candidate tail := by
            rw [moduleLookupStep, if_neg (by simp [hopen]), hrest]
          rw [hstep, moduleLookupCandidate, List.take_succ_cons, List.find?_cons]
          by_cases hown : candidate.sourceIndex = st.current.sourceIndex
          · have hno : isTarget inp st.current st.usage candidate = false := by simp [isTarget, hown]
            rw [if_pos hown, hno]
            exact ih hopen
          rw [if_neg hown]
          cases hmatch : useMatchesModule inp st.current st.usage candidate with
          | true =>
              have hyes : isTarget inp st.current st.usage candidate = true := by simp [isTarget, hown, hmatch]
              rw [if_pos rfl, hyes]
              generalize hdone : { st with
                rest := [], found := true, index := candidate.sourceIndex
                nameComparisons := st.nameComparisons + 1 } = done
              have hstay : moduleLookupStep inp done = done := by
                rw [← hdone]
                rfl
              rw [Function.iterate_fixed hstay, ← hdone]
              exact ⟨rfl, rfl⟩
          | false =>
              have hno : isTarget inp st.current st.usage candidate = false := by simp [hmatch, isTarget]
              rw [if_neg Bool.false_ne_true, hno]
              exact @ih { st with rest := tail, nameComparisons := st.nameComparisons + 1 } hopen

/-- **The target of a use** is the first module of another source with its name. -/
theorem findImportTarget_eq (inp : Input) (all : List ParsedModule) (current : ParsedModule) (usage : UseDecl) :
    (findImportTarget inp all current usage).found =
        ((all.take inp.sources.length).find? (isTarget inp current usage)).isSome ∧
      (findImportTarget inp all current usage).index =
        (((all.take inp.sources.length).find? (isTarget inp current usage)).map ParsedModule.sourceIndex).getD 0 :=
  @iterate_moduleLookupStep inp inp.sources.length
    { rest := all, current := current, usage := usage, found := false, index := 0, nameComparisons := 0 } rfl

/-! ## The cache is right -/

/-- The two readers of a source. -/
theorem projectSourceByteAt_eq (inp : Input) (index offset : Nat) :
    projectSourceByteAt inp index offset = (moduleSource inp index).byteAt offset := by
  unfold projectSourceByteAt Source.byteAt moduleSource modulePages moduleStride moduleTotal byteAtGlobal
  cases hitem : inp.sources[index]? with
  | none => rfl
  | some item =>
      dsimp only
      by_cases hstride : item.stride = 0
      · rw [if_pos (by simp [hstride]), if_pos hstride]
      rw [if_neg hstride]
      by_cases htotal : offset ≥ item.total
      · rw [if_pos (by simp [htotal]), if_pos htotal]
      rw [if_neg (by simp [hstride, htotal]), if_neg htotal]
      by_cases hstart : item.pageStart > inp.flatPages.length
      · simp [hstart]
      by_cases hcount : item.pageCount > inp.flatPages.length - item.pageStart
      · simp [hstart, hcount]
      · have hlen : ((inp.flatPages.drop item.pageStart).take item.pageCount).length = item.pageCount := by
          rw [List.length_take, List.length_drop]
          omega
        simp only [if_neg hstart, if_neg hcount, hlen]
        by_cases hpage : offset / item.stride ≥ item.pageCount
        · rw [if_pos hpage, if_pos hpage]
        · have hread : ((inp.flatPages.drop item.pageStart).take item.pageCount).getD (offset / item.stride) [] =
              inp.flatPages.getD (item.pageStart + offset / item.stride) [] := by
            rw [List.getD_eq_getElem?_getD, List.getElem?_take_of_lt (by omega), List.getElem?_drop,
              ← List.getD_eq_getElem?_getD]
          rw [if_neg hpage, if_neg hpage, if_neg (by simp [hstart, hcount]), hread]

/-- What `n` passes of the comparison of two names have established when it says yes. -/
theorem iterate_nameCompare (inp : Input) (index : Nat) {k : ModuleResolutionNameCompare → Bool}
    (hk : ∀ st, k st = (st.equal && decide (st.offset ≥ st.length))) (n : Nat) {st : ModuleResolutionNameCompare}
    (h : (iterate (fun _ (st : ModuleResolutionNameCompare) =>
        if !st.equal || st.offset ≥ st.length then .ret (st.equal && decide (st.offset ≥ st.length))
        else .next (moduleResolutionNameCompareStep inp index st)) 0 n st).after k = true) :
    ∀ i, st.offset ≤ i → i < st.length →
      (moduleSource inp index).byteAt (st.leftStart + i) = (moduleSource inp index).byteAt (st.rightStart + i) := by
  induction n generalizing st with
  | zero =>
      rw [iterate_zero, Pass.after_next, hk, Bool.and_eq_true, decide_eq_true_eq] at h
      intro i hi hlt
      omega
  | succ n ih =>
      rw [iterate_succ] at h
      by_cases hdone : (!st.equal || decide (st.offset ≥ st.length)) = true
      · rw [if_pos hdone, Pass.bind_ret, Pass.after_ret, Bool.and_eq_true, decide_eq_true_eq] at h
        intro i hi hlt
        omega
      · rw [if_neg hdone, Pass.bind_next, iterate_const _ (0 + 1) 0] at h
        have hnext := ih h
        rw [moduleResolutionNameCompareStep, if_neg hdone] at h hnext
        dsimp only at hnext
        intro i hi hlt
        by_cases hat : i = st.offset
        · -- a pass that goes on has seen two equal bytes
          by_contra hne
          rw [hat, ← projectSourceByteAt_eq, ← projectSourceByteAt_eq] at hne
          simp only [hne, decide_false, Bool.and_false] at h
          cases n with
          | zero =>
              rw [iterate_zero, Pass.after_next, hk] at h
              cases h
          | succ n =>
              rw [iterate_succ] at h
              simp at h
        · exact hnext i (by omega) hlt

/-- **Equal keys are equal names.** -/
theorem spelled_of_keyEqual {inp : Input} {index a b c d : Nat}
    (h : moduleResolutionCacheKeyEqual inp index a b c d = true) :
    a ≤ b ∧ c ≤ d ∧ spelled inp index a b = spelled inp index c d := by
  unfold moduleResolutionCacheKeyEqual at h
  split at h
  · cases h
  next hordered =>
  split at h
  · cases h
  next hlen =>
  split at h
  · cases h
  split at h
  · cases h
  split at h
  · cases h
  dsimp only at h
  split at h
  · cases h
  simp only [Bool.or_eq_true, decide_eq_true_eq] at hordered
  refine ⟨by omega, by omega, spelled_eq_iff.mpr ⟨not_not.mp hlen, ?_⟩⟩
  intro k hk
  exact iterate_nameCompare inp index (fun _ => rfl) 64 h k (Nat.zero_le _) hk

/-- Uses with one name may name the same modules. -/
theorem isTarget_congr {inp : Input} {current : ParsedModule} {usage other : UseDecl}
    (h : usage.moduleStart ≤ usage.moduleStop ∧ other.moduleStart ≤ other.moduleStop ∧
      spelled inp current.sourceIndex usage.moduleStart usage.moduleStop =
        spelled inp current.sourceIndex other.moduleStart other.moduleStop) :
    isTarget inp current usage = isTarget inp current other := by
  obtain ⟨hle, hle', hsame⟩ := h
  have hlen := congrArg List.length hsame
  rw [length_spelled, length_spelled] at hlen
  funext candidate
  have hmatch : useMatchesModule inp current usage candidate = useMatchesModule inp current other candidate := by
    rw [Bool.eq_iff_iff, useMatchesModule, useMatchesModule, spansEqualBetween_iff, spansEqualBetween_iff, hsame, hlen]
    exact ⟨fun h => ⟨hle', h.2⟩, fun h => ⟨hle, h.2⟩⟩
  rw [isTarget, isTarget, hmatch]

/-- The answer to a use, as the cache keeps it. -/
def targetAnswer (inp : Input) (all : List ParsedModule) (current : ParsedModule) (usage : UseDecl) : Bool × Nat :=
  ((findImportTarget inp all current usage).found, (findImportTarget inp all current usage).index)

def ModuleResolutionFact.answer (fact : ModuleResolutionFact) : Bool × Nat := (fact.targetFound, fact.targetIndex)

/-- The name of a use is the key of a fact. -/
def hitsFact (inp : Input) (current : ParsedModule) (usage : UseDecl) (fact : ModuleResolutionFact) : Prop :=
  moduleResolutionCacheKeyEqual inp current.sourceIndex usage.moduleStart usage.moduleStop fact.moduleStart
    fact.moduleStop = true

/-- Every fact of a module's cache answers as a lookup does. -/
abbrev CacheSound (inp : Input) (all : List ParsedModule) (current : ParsedModule)
    (facts : List ModuleResolutionFact) : Prop :=
  Memo.Sound (hitsFact inp current) ModuleResolutionFact.answer (targetAnswer inp all current) facts

theorem iterate_moduleResolutionCacheStep (inp : Input) (index n : Nat) {st : ModuleResolutionCacheLookup}
    (hopen : st.found = false) (h : ((moduleResolutionCacheStep inp index)^[n] st).found = true) :
    ∃ fact ∈ st.rest, moduleResolutionCacheKeyEqual inp index st.moduleStart st.moduleStop fact.moduleStart
        fact.moduleStop = true ∧
      fact.answer = (((moduleResolutionCacheStep inp index)^[n] st).targetFound,
        ((moduleResolutionCacheStep inp index)^[n] st).targetIndex) := by
  induction n generalizing st with
  | zero =>
      rw [Function.iterate_zero_apply, hopen] at h
      cases h
  | succ n ih =>
      rw [Function.iterate_succ_apply] at h ⊢
      cases hrest : st.rest with
      | nil =>
          have hstep : moduleResolutionCacheStep inp index st = st := by
            rw [moduleResolutionCacheStep, if_neg (by simp [hopen]), hrest]
          rw [hstep] at h ⊢
          obtain ⟨fact, hfact, -⟩ := ih hopen h
          rw [hrest] at hfact
          cases hfact
      | cons fact rest =>
          have hstep : moduleResolutionCacheStep inp index st = moduleResolutionCacheFact inp index st fact rest := by
            rw [moduleResolutionCacheStep, if_neg (by simp [hopen]), hrest]
          rw [hstep, moduleResolutionCacheFact] at h ⊢
          by_cases hkey : moduleResolutionCacheKeyEqual inp index st.moduleStart st.moduleStop fact.moduleStart
              fact.moduleStop = true
          · rw [if_pos hkey] at h ⊢
            refine ⟨fact, List.mem_cons_self, hkey, ?_⟩
            rw [Function.iterate_fixed (by rfl)]
            rfl
          · rw [if_neg hkey] at h ⊢
            obtain ⟨other, hother, hhit⟩ := @ih { st with rest := rest, found := false, targetFound := false
                                                          targetIndex := 0 } rfl h
            exact ⟨other, List.mem_cons_of_mem fact hother, hhit⟩

/-- **A cache hit** answers as a lookup does. -/
theorem moduleResolutionCacheLookup_sound {inp : Input} {all : List ParsedModule} {current : ParsedModule}
    {facts : List ModuleResolutionFact} (hsound : CacheSound inp all current facts) {usage : UseDecl}
    (h : (moduleResolutionCacheLookup inp current usage facts).found = true) :
    ((moduleResolutionCacheLookup inp current usage facts).targetFound,
      (moduleResolutionCacheLookup inp current usage facts).targetIndex) = targetAnswer inp all current usage := by
  have hstay : ∀ st : ModuleResolutionCacheLookup, moduleResolutionCacheLookupDone st = true →
      moduleResolutionCacheStep inp current.sourceIndex st = st := by
    intro st hdone
    rw [moduleResolutionCacheLookupDone, Bool.or_eq_true, List.isEmpty_iff] at hdone
    rw [moduleResolutionCacheStep]
    rcases hdone with hfound | hrest
    · rw [if_pos hfound]
    · rw [hrest, ite_self]
  have hrun := iterate_guard (p := moduleResolutionCacheLookupDone)
    (f := moduleResolutionCacheStep inp current.sourceIndex) (k := id)
    (b := fun _ st => if moduleResolutionCacheLookupDone st then .ret st
      else .next (moduleResolutionCacheStep inp current.sourceIndex st)) (fun _ _ => rfl) 0 64
    { rest := facts, sourceIndex := current.sourceIndex, moduleStart := usage.moduleStart
      moduleStop := usage.moduleStop, found := false, targetFound := false, targetIndex := 0 }
  rw [settle_eq_self hstay, id] at hrun
  rw [moduleResolutionCacheLookup, hrun] at h ⊢
  obtain ⟨fact, hfact, hhit, hanswer⟩ := iterate_moduleResolutionCacheStep inp current.sourceIndex 64 rfl h
  exact hanswer.symm.trans (hsound fact hfact usage hhit)

/-- A new fact keeps the cache sound, also when the cache starts again with it. -/
theorem moduleResolutionCacheAdd_sound {inp : Input} {all : List ParsedModule} {current : ParsedModule}
    {facts : List ModuleResolutionFact} (hsound : CacheSound inp all current facts) (factsCount : Nat)
    {usage : UseDecl} {found : Bool} {index : Nat} (hanswer : (found, index) = targetAnswer inp all current usage)
    (cacheHit cacheable : Bool) :
    CacheSound inp all current
      (moduleResolutionCacheAdd facts factsCount usage found index cacheHit cacheable) := by
  have hfact : ∀ other, hitsFact inp current other
      { moduleStart := usage.moduleStart, moduleStop := usage.moduleStop, targetFound := found
        targetIndex := index } → (found, index) = targetAnswer inp all current other := by
    intro other hhit
    have hsame := @isTarget_congr inp current other usage (spelled_of_keyEqual hhit)
    rw [hanswer, targetAnswer, targetAnswer, (findImportTarget_eq inp all current usage).1,
      (findImportTarget_eq inp all current usage).2, (findImportTarget_eq inp all current other).1,
      (findImportTarget_eq inp all current other).2, hsame]
  unfold moduleResolutionCacheAdd
  dsimp only
  split
  · exact hsound
  split
  · exact Memo.sound_cons hfact Memo.sound_nil
  · exact Memo.sound_cons hfact hsound

/-! ## Every use on its own -/

/-- What a use gives. -/
inductive UseOutcome where
  | linked (link : ImportLink)
  | refused (diagnostic : ProjectDiagnostic)
  deriving DecidableEq, Repr

def UseOutcome.link? : UseOutcome → Option ImportLink
  | .linked link => some link
  | .refused _ => none

def UseOutcome.diagnostic? : UseOutcome → Option ProjectDiagnostic
  | .linked _ => none
  | .refused diagnostic => some diagnostic

def linked (outcomes : List UseOutcome) : List ImportLink := outcomes.filterMap UseOutcome.link?

def refused (outcomes : List UseOutcome) : List ProjectDiagnostic := outcomes.filterMap UseOutcome.diagnostic?

/-- A use without limits and without a cache. -/
def useOutcome (inp : Input) (all : List ParsedModule) (current : ParsedModule) (usage : UseDecl) : UseOutcome :=
  if (findImportTarget inp all current usage).found then
    .linked (useLink current usage (findImportTarget inp all current usage).index)
  else .refused (.missingImport current.sourceIndex usage.moduleStart usage.moduleStop)

/-- The first use over a limit. -/
def limitOutcome (current : ParsedModule) (limit : Nat) (usage : UseDecl) : UseOutcome :=
  .refused (.importLimitExceeded current.sourceIndex usage.moduleStart usage.moduleStop limit)

/-- The uses of one module, with `room` uses and `count` links before the limits, and whether they are over the limit of
    the project. -/
def resolveUses (inp : Input) (all : List ParsedModule) (current : ParsedModule)
    : Nat → Nat → List UseDecl → List UseOutcome × Bool
  | _, _, [] => ([], false)
  | 0, _, usage :: _ => ([limitOutcome current 1024 usage], false)
  | room + 1, count, usage :: rest =>
    if count ≥ 4096 then ([limitOutcome current 4096 usage], true)
    else
      let outcome := useOutcome inp all current usage
      let others := resolveUses inp all current room (count + (linked [outcome]).length) rest
      (outcome :: others.1, others.2)

/-- The modules one after the other, up to the limit of the project. -/
def resolveModules (inp : Input) (all : List ParsedModule) : Nat → List ParsedModule → List UseOutcome
  | _, [] => []
  | count, current :: rest =>
    let uses := resolveUses inp all current 1024 count current.unit.uses
    if uses.2 then uses.1 else uses.1 ++ resolveModules inp all (count + (linked uses.1).length) rest

@[simp] theorem linked_append (a b : List UseOutcome) : linked (a ++ b) = linked a ++ linked b :=
  List.filterMap_append

@[simp] theorem refused_append (a b : List UseOutcome) : refused (a ++ b) = refused a ++ refused b :=
  List.filterMap_append

theorem linked_cons (outcome : UseOutcome) (rest : List UseOutcome) :
    linked (outcome :: rest) = linked [outcome] ++ linked rest := linked_append [outcome] rest

theorem refused_cons (outcome : UseOutcome) (rest : List UseOutcome) :
    refused (outcome :: rest) = refused [outcome] ++ refused rest := refused_append [outcome] rest

theorem isEmpty_append {α : Type} (a b : List α) : (a ++ b).isEmpty = (a.isEmpty && b.isEmpty) := by
  cases a <;> rfl

theorem isEmpty_refused_cons (outcome : UseOutcome) (rest : List UseOutcome) :
    (refused (outcome :: rest)).isEmpty = ((refused [outcome]).isEmpty && (refused rest).isEmpty) := by
  cases outcome <;> rfl

theorem length_linked_one (outcome : UseOutcome) : (linked [outcome]).length ≤ 1 := List.length_filterMap_le ..

theorem reverse_linked_one (outcome : UseOutcome) : (linked [outcome]).reverse = linked [outcome] := by
  cases outcome <;> rfl

theorem reverse_refused_one (outcome : UseOutcome) : (refused [outcome]).reverse = refused [outcome] := by
  cases outcome <;> rfl

/-! ## One use -/

/-- A state is one use further than another. -/
structure ResolveUses.After (inp : Input) (all : List ParsedModule) (current : ParsedModule) (outcome : UseOutcome)
    (tail : List UseDecl) (st next : ResolveUses) : Prop where
  rest : next.rest = tail
  imports : next.imports = linked [outcome] ++ st.imports
  diagnostics : next.diagnostics = refused [outcome] ++ st.diagnostics
  valid : next.valid = (st.valid && (refused [outcome]).isEmpty)
  count : next.count = st.count + (linked [outcome]).length
  sound : CacheSound inp all current next.facts

variable {inp : Input} {all : List ParsedModule} {current : ParsedModule}

theorem resolveOneUseResult_after {st : ResolveUses} (hsound : CacheSound inp all current st.facts) {usage : UseDecl}
    (tail : List UseDecl) {found : Bool} {index : Nat} (hanswer : (found, index) = targetAnswer inp all current usage)
    (cacheHit : Bool) (nameComparisons : Nat) (cacheable : Bool) :
    ResolveUses.After inp all current (useOutcome inp all current usage) tail st
      (resolveOneUseResult current usage tail st cacheHit found index nameComparisons cacheable) := by
  have hadd := moduleResolutionCacheAdd_sound hsound st.factsCount hanswer cacheHit cacheable
  obtain ⟨hfound, hindex⟩ := Prod.mk.inj hanswer
  unfold resolveOneUseResult useOutcome
  dsimp only
  rw [← hfound, ← hindex]
  cases found with
  | true => exact ⟨rfl, rfl, rfl, (Bool.and_true _).symm, rfl, hadd⟩
  | false => exact ⟨rfl, rfl, rfl, (Bool.and_false _).symm, rfl, hadd⟩

/-- **A use with the cache** gives what it gives without. -/
theorem resolveUseStep_after {st : ResolveUses} (hsound : CacheSound inp all current st.facts) {usage : UseDecl}
    {tail : List UseDecl} (hrest : st.rest = usage :: tail) :
    ResolveUses.After inp all current (useOutcome inp all current usage) tail st
      (resolveUseStep inp all current st) := by
  have hstep : resolveUseStep inp all current st = resolveOneUse inp all current usage tail st := by
    rw [resolveUseStep, hrest]
  rw [hstep, resolveOneUse]
  dsimp only
  cases hhit : (moduleResolutionCacheLookup inp current usage st.facts).found with
  | true =>
      rw [if_pos rfl]
      exact resolveOneUseResult_after hsound tail (moduleResolutionCacheLookup_sound hsound hhit) true 0 _
  | false =>
      rw [if_neg Bool.false_ne_true]
      exact resolveOneUseResult_after hsound tail rfl false _ _

/-! ## The uses of one module -/

/-- What a pass over the uses of one module has added. -/
structure UseResolution.Adds (result : UseResolution) (imports : List ImportLink) (diagnostics : List ProjectDiagnostic)
    (valid : Bool) (count : Nat) (outcomes : List UseOutcome × Bool) : Prop where
  imports : result.imports = (linked outcomes.1).reverse ++ imports
  diagnostics : result.diagnostics = (refused outcomes.1).reverse ++ diagnostics
  valid : result.valid = (valid && (refused outcomes.1).isEmpty)
  count : result.count = count + (linked outcomes.1).length
  limitReached : result.limitReached = outcomes.2

theorem finishUseResolution_nil {st : ResolveUses} (hrest : st.rest = []) (sourceIndex limit : Nat) :
    (finishUseResolution st sourceIndex limit).Adds st.imports st.diagnostics st.valid st.count ([], false) := by
  rw [finishUseResolution, hrest]
  exact ⟨rfl, rfl, (Bool.and_true _).symm, rfl, rfl⟩

theorem finishUseResolution_cons {st : ResolveUses} {usage : UseDecl} {tail : List UseDecl}
    (hrest : st.rest = usage :: tail) (current : ParsedModule) (limit : Nat) :
    (finishUseResolution st current.sourceIndex limit).Adds st.imports st.diagnostics st.valid st.count
      ([limitOutcome current limit usage], decide (limit = 4096)) := by
  rw [finishUseResolution, hrest]
  exact ⟨rfl, rfl, (Bool.and_false _).symm, rfl, rfl⟩

/-- A pass over the uses, from any of its states. -/
theorem resolveUses_loop (n : Nat) {st : ResolveUses} (hsound : CacheSound inp all current st.facts) :
    ((iterate (fun _ (st : ResolveUses) =>
        if st.rest.isEmpty then .ret (finishUseResolution st current.sourceIndex 1024)
        else if projectImportLimitReached st.count then .ret (finishGlobalImportLimit st current.sourceIndex)
        else .next (resolveUseStep inp all current st)) 0 n st).after fun st =>
      finishUseResolution st current.sourceIndex 1024).Adds st.imports st.diagnostics st.valid st.count
        (resolveUses inp all current n st.count st.rest) := by
  induction n generalizing st with
  | zero =>
      rw [iterate_zero, Pass.after_next]
      cases hrest : st.rest with
      | nil => exact finishUseResolution_nil hrest _ _
      | cons usage tail => exact finishUseResolution_cons hrest current 1024
  | succ n ih =>
      rw [iterate_succ]
      cases hrest : st.rest with
      | nil =>
          rw [List.isEmpty_nil, if_pos rfl, Pass.bind_ret, Pass.after_ret]
          exact finishUseResolution_nil hrest _ _
      | cons usage tail =>
          rw [List.isEmpty_cons, if_neg Bool.false_ne_true, resolveUses]
          by_cases hlimit : st.count ≥ 4096
          · rw [if_pos (by simpa [projectImportLimitReached] using hlimit), if_pos hlimit, Pass.bind_ret, Pass.after_ret]
            exact finishUseResolution_cons hrest current 4096
          · rw [if_neg (by simpa [projectImportLimitReached] using hlimit), if_neg hlimit, Pass.bind_next,
              iterate_const _ (0 + 1) 0]
            have hafter := resolveUseStep_after hsound hrest
            generalize useOutcome inp all current usage = outcome at hafter
            obtain ⟨himports, hdiagnostics, hvalid, hcount, hlimitReached⟩ := ih hafter.sound
            rw [hafter.count, hafter.rest] at himports hdiagnostics hvalid hcount hlimitReached
            dsimp only
            generalize resolveUses inp all current n (st.count + (linked [outcome]).length) tail = others
              at himports hdiagnostics hvalid hcount hlimitReached ⊢
            refine ⟨?_, ?_, ?_, ?_, hlimitReached⟩
            · rw [himports, hafter.imports, linked_cons outcome others.1, List.reverse_append, reverse_linked_one,
                List.append_assoc]
            · rw [hdiagnostics, hafter.diagnostics, refused_cons outcome others.1, List.reverse_append,
                reverse_refused_one, List.append_assoc]
            · rw [hvalid, hafter.valid, isEmpty_refused_cons outcome others.1, Bool.and_assoc]
            · rw [hcount, linked_cons outcome others.1, List.length_append, Nat.add_assoc]

theorem resolveUseList_adds (uses : List UseDecl) (imports : List ImportLink) (diagnostics : List ProjectDiagnostic)
    (valid : Bool) (count : Nat) :
    (resolveUseList inp all current uses imports diagnostics valid count).Adds imports diagnostics valid count
      (resolveUses inp all current 1024 count uses) := by
  unfold resolveUseList
  cases uses with
  | nil => exact ⟨rfl, rfl, (Bool.and_true _).symm, rfl, rfl⟩
  | cons usage tail =>
      rw [List.isEmpty_cons, if_neg Bool.false_ne_true]
      exact resolveUses_loop 1024 Memo.sound_nil

/-- **One outcome for each use**, in order, until a limit is met: the first use over it gives a diagnostic of its own.
    The limit of the module is met behind its last use in `room`, the limit of the project behind 4096 links. -/
theorem resolveUses_shape (room count : Nat) (uses : List UseDecl) :
    ∃ k, k ≤ room ∧
      (resolveUses inp all current room count uses).1 = (uses.take k).map (useOutcome inp all current) ++
        ((uses.drop k).head?.map (limitOutcome current
          (if (resolveUses inp all current room count uses).2 then 4096 else 1024))).toList ∧
      (∀ j < k, count + (linked ((uses.take j).map (useOutcome inp all current))).length < 4096) ∧
      ((resolveUses inp all current room count uses).2 = true ↔ k < room ∧ k < uses.length ∧
        4096 ≤ count + (linked ((uses.take k).map (useOutcome inp all current))).length) ∧
      ((resolveUses inp all current room count uses).2 = false → k < uses.length → k = room) := by
  induction uses generalizing room count with
  | nil =>
      refine ⟨0, Nat.zero_le _, by simp [resolveUses], fun j hj => absurd hj (Nat.not_lt_zero j), ?_, ?_⟩
      · simp [resolveUses]
      · intro _ h
        exact absurd h (Nat.not_lt_zero 0)
  | cons usage rest ih =>
      cases room with
      | zero =>
          refine ⟨0, Nat.zero_le _, by simp [resolveUses], fun j hj => absurd hj (Nat.not_lt_zero j), ?_, fun _ _ => rfl⟩
          simp [resolveUses]
      | succ room =>
          by_cases hlimit : count ≥ 4096
          · refine ⟨0, Nat.zero_le _, ?_, fun j hj => absurd hj (Nat.not_lt_zero j), ?_, ?_⟩
            · simp [resolveUses, hlimit]
            · simp [resolveUses, hlimit, linked]
            · simp [resolveUses, hlimit]
          · obtain ⟨k, hk, hshape, hbefore, hproject, hmodule⟩ :=
              ih room (count + (linked [useOutcome inp all current usage]).length)
            have hlinked : ∀ j, count + (linked (((usage :: rest).take (j + 1)).map (useOutcome inp all current))).length =
                count + (linked [useOutcome inp all current usage]).length +
                  (linked ((rest.take j).map (useOutcome inp all current))).length := by
              intro j
              rw [List.take_succ_cons, List.map_cons, linked_cons, List.length_append, Nat.add_assoc]
            refine ⟨k + 1, Nat.succ_le_succ hk, ?_, ?_, ?_, ?_⟩
            · simp only [resolveUses, if_neg hlimit, List.take_succ_cons, List.drop_succ_cons, List.map_cons,
                List.cons_append]
              rw [← hshape]
            · intro j hj
              cases j with
              | zero => simpa [linked] using hlimit
              | succ j =>
                  rw [hlinked]
                  exact hbefore j (Nat.lt_of_succ_lt_succ hj)
            · rw [hlinked]
              simp only [resolveUses, if_neg hlimit, List.length_cons, Nat.succ_lt_succ_iff]
              exact hproject
            · simp only [resolveUses, if_neg hlimit, List.length_cons, Nat.succ_lt_succ_iff]
              intro hfalse hlt
              rw [hmodule hfalse hlt]

theorem length_resolveUses_le (room count : Nat) (uses : List UseDecl) :
    (resolveUses inp all current room count uses).1.length ≤ room + 1 := by
  induction uses generalizing room count with
  | nil => simp [resolveUses]
  | cons usage rest ih =>
      cases room with
      | zero => exact Nat.le_refl 1
      | succ room =>
          rw [resolveUses]
          split
          · exact Nat.le_add_left 1 _
          · exact Nat.succ_le_succ (ih room _)

/-- No module adds a link behind the limit of the project. -/
theorem length_linked_resolveUses_le {room count : Nat} (hcount : count ≤ 4096) (uses : List UseDecl) :
    count + (linked (resolveUses inp all current room count uses).1).length ≤ 4096 := by
  induction uses generalizing room count with
  | nil => simpa [resolveUses, linked] using hcount
  | cons usage rest ih =>
      cases room with
      | zero => exact hcount
      | succ room =>
          rw [resolveUses]
          split
          · exact hcount
          · next hlimit =>
              have hone := length_linked_one (useOutcome inp all current usage)
              have hrest := @ih room (count + (linked [useOutcome inp all current usage]).length) (by omega)
              rw [linked_cons, List.length_append, ← Nat.add_assoc]
              exact hrest

/-! ## The modules of a project -/

/-- The passes over the modules, from any state below the limit. -/
theorem iterate_resolveModuleStep (n : Nat) {st : ResolveModules} (hopen : st.limitReached = false) :
    ((resolveModuleStep inp)^[n] st).imports =
        (linked (resolveModules inp st.all st.count (st.rest.take n))).reverse ++ st.imports ∧
      ((resolveModuleStep inp)^[n] st).diagnostics =
        (refused (resolveModules inp st.all st.count (st.rest.take n))).reverse ++ st.diagnostics ∧
      ((resolveModuleStep inp)^[n] st).valid =
        (st.valid && (refused (resolveModules inp st.all st.count (st.rest.take n))).isEmpty) ∧
      ((resolveModuleStep inp)^[n] st).count =
        st.count + (linked (resolveModules inp st.all st.count (st.rest.take n))).length := by
  induction n generalizing st with
  | zero => exact ⟨rfl, rfl, (Bool.and_true _).symm, rfl⟩
  | succ n ih =>
      rw [Function.iterate_succ_apply]
      cases hrest : st.rest with
      | nil =>
          have hstep : resolveModuleStep inp st = st := by
            rw [resolveModuleStep, if_neg (by simp [hopen]), hrest]
          have hagain := ih hopen
          rw [hrest, List.take_nil] at hagain
          rw [hstep, List.take_nil]
          exact hagain
      | cons current tail =>
          have hstep : resolveModuleStep inp st = resolveModuleUses inp st current tail := by
            rw [resolveModuleStep, if_neg (by simp [hopen]), hrest]
          have hadds := @resolveUseList_adds inp st.all current current.unit.uses st.imports st.diagnostics st.valid st.count
          rw [hstep, List.take_succ_cons, resolveModules]
          cases hlimit : (resolveUses inp st.all current 1024 st.count current.unit.uses).2 with
          | true =>
              -- the modules behind the limit of the project are not looked at
              have hstay : resolveModuleStep inp (resolveModuleUses inp st current tail) =
                  resolveModuleUses inp st current tail := by
                rw [resolveModuleStep]
                exact if_pos (hadds.limitReached.trans hlimit)
              rw [Function.iterate_fixed hstay, if_pos rfl]
              exact ⟨hadds.imports, hadds.diagnostics, hadds.valid, hadds.count⟩
          | false =>
              rw [if_neg Bool.false_ne_true]
              obtain ⟨himports, hdiagnostics, hvalid, hlinks⟩ :=
                @ih (resolveModuleUses inp st current tail) (hadds.limitReached.trans hlimit)
              have hcount : (resolveModuleUses inp st current tail).count = _ := hadds.count
              rw [hcount] at himports hdiagnostics hvalid hlinks
              generalize hrun : (resolveModuleStep inp)^[n] (resolveModuleUses inp st current tail) = run
                at himports hdiagnostics hvalid hlinks ⊢
              dsimp only [resolveModuleUses] at himports hdiagnostics hvalid hlinks
              rw [linked_append, refused_append]
              refine ⟨?_, ?_, ?_, ?_⟩
              · rw [himports, hadds.imports, List.reverse_append, List.append_assoc]
              · rw [hdiagnostics, hadds.diagnostics, List.reverse_append, List.append_assoc]
              · rw [hvalid, hadds.valid, Bool.and_assoc, isEmpty_append]
              · rw [hlinks, List.length_append, Nat.add_assoc]

/-- No project has more links than its limit. -/
theorem length_linked_resolveModules_le {count : Nat} (hcount : count ≤ 4096) (modules : List ParsedModule) :
    count + (linked (resolveModules inp all count modules)).length ≤ 4096 := by
  induction modules generalizing count with
  | nil => exact hcount
  | cons current rest ih =>
      have huses := @length_linked_resolveUses_le inp all current 1024 count hcount current.unit.uses
      rw [resolveModules]
      split
      · exact huses
      · rw [linked_append, List.length_append, ← Nat.add_assoc]
        exact ih huses

theorem length_resolveModules_le (count : Nat) (modules : List ParsedModule) :
    (resolveModules inp all count modules).length ≤ 1025 * modules.length := by
  induction modules generalizing count with
  | nil => exact Nat.zero_le _
  | cons current rest ih =>
      have huses := @length_resolveUses_le inp all current 1024 count current.unit.uses
      have hrest := ih (count + (linked (resolveUses inp all current 1024 count current.unit.uses).1).length)
      rw [resolveModules, List.length_cons, Nat.mul_succ]
      split
      · omega
      · rw [List.length_append]
        omega

theorem reverseImportPart_eq (initial : Sweep ImportLink (List ImportLink)) :
    reverseImportPart initial = (Sweep.step (fun acc h => h :: acc))^[1024] initial := by
  have hrun := iterate_guard (p := fun st : Sweep ImportLink (List ImportLink) => st.rest.isEmpty)
    (f := Sweep.step (fun acc h => h :: acc)) (k := id)
    (b := fun _ st => if st.rest.isEmpty then .ret st else .next (Sweep.step (fun acc h => h :: acc) st))
    (fun _ _ => rfl) 0 1024 initial
  rw [settle_eq_self Sweep.step_nil, id] at hrun
  rw [reverseImportPart, hrun]

/-- Four chunks of `n` passes each. -/
theorem iterate_parts {σ : Type} (step : σ → σ) (n : Nat) (s : σ) :
    step^[n] (step^[n] (step^[n] (step^[n] s))) = step^[4 * n] s := by
  rw [← Function.iterate_add_apply, ← Function.iterate_add_apply, ← Function.iterate_add_apply]
  congr 1
  omega

/-- The four chunks reverse as many links as a project has. -/
theorem reverseImports_eq {imports : List ImportLink} (h : imports.length ≤ 4096) :
    reverseImports imports = imports.reverse := by
  have hall : imports.length ≤ 4 * 1024 := h
  unfold reverseImports
  simp only [reverseImportPart_eq]
  rw [iterate_parts, Sweep.iterate_step, List.foldl_flip_cons_eq_append', List.append_nil,
    List.take_of_length_le hall]

/-- The links and the diagnostics of a project are those of its uses. -/
theorem resolveImports_outcomes (modules : List ParsedModule) (hsources : inp.sources.length ≤ 64) :
    (resolveImports inp modules).imports = linked (resolveModules inp modules 0 (modules.take inp.sources.length)) ∧
      (resolveImports inp modules).diagnostics =
        refused (resolveModules inp modules 0 (modules.take inp.sources.length)) ∧
      (resolveImports inp modules).count =
        (linked (resolveModules inp modules 0 (modules.take inp.sources.length))).length ∧
      ((resolveImports inp modules).valid = true ↔
        refused (resolveModules inp modules 0 (modules.take inp.sources.length)) = []) := by
  obtain ⟨himports, hdiagnostics, hvalid, hcount⟩ := @iterate_resolveModuleStep inp inp.sources.length
    { rest := modules, all := modules, imports := [], diagnostics := [], valid := true, count := 0
      importModuleNameComparisons := 0, importResolutionCacheHits := 0, importResolutionNegativeCacheHits := 0
      importResolutionCacheEntriesMax := 0, limitReached := false } rfl
  dsimp only at himports hdiagnostics hvalid hcount
  have hlinks := @length_linked_resolveModules_le inp modules 0 (Nat.zero_le _) (modules.take inp.sources.length)
  have hlength := @length_resolveModules_le inp modules 0 (modules.take inp.sources.length)
  generalize resolveModules inp modules 0 (modules.take inp.sources.length) = outcomes
    at himports hdiagnostics hvalid hcount hlinks hlength ⊢
  rw [Nat.zero_add] at hlinks hcount
  rw [List.append_nil] at himports hdiagnostics
  have hrefused : (refused outcomes).length ≤ 1024 * 1024 := by
    have htake := List.length_take_le inp.sources.length modules
    have hfilter : (refused outcomes).length ≤ outcomes.length := List.length_filterMap_le ..
    omega
  refine ⟨?_, ?_, hcount, ?_⟩
  · rw [resolveImports, himports, reverseImports_eq (by rwa [List.length_reverse]), List.reverse_reverse]
  · rw [resolveImports, hdiagnostics, reverseDiagnostics, reverseBatches_eq,
      List.take_of_length_le (by rwa [List.length_reverse]), List.reverse_reverse]
  · rw [resolveImports, hvalid, Bool.true_and, List.isEmpty_iff]

/-- **The cache is transparent.** The links and the diagnostics of a project are those of its uses, each resolved on its
    own, in order and up to the limits; each use of a module has one outcome until a limit is met, which the first use
    over it reports. -/
theorem resolveImports_eq (inp : Input) (modules : List ParsedModule) (hsources : inp.sources.length ≤ 64) :
    let outcomes := resolveModules inp modules 0 (modules.take inp.sources.length)
    ((resolveImports inp modules).imports = linked outcomes ∧
      (resolveImports inp modules).diagnostics = refused outcomes ∧
      (resolveImports inp modules).count = (linked outcomes).length ∧
      ((resolveImports inp modules).valid = true ↔ refused outcomes = [])) ∧
    ∀ (current : ParsedModule) (count : Nat),
      let uses := resolveUses inp modules current 1024 count current.unit.uses
      ∃ k, k ≤ 1024 ∧
        uses.1 = (current.unit.uses.take k).map (useOutcome inp modules current) ++
          ((current.unit.uses.drop k).head?.map (limitOutcome current (if uses.2 then 4096 else 1024))).toList ∧
        (∀ j < k, count + (linked ((current.unit.uses.take j).map (useOutcome inp modules current))).length < 4096) ∧
        (uses.2 = true ↔ k < 1024 ∧ k < current.unit.uses.length ∧
          4096 ≤ count + (linked ((current.unit.uses.take k).map (useOutcome inp modules current))).length) ∧
        (uses.2 = false → k < current.unit.uses.length → k = 1024) := by
  exact ⟨resolveImports_outcomes modules hsources, fun current count => resolveUses_shape 1024 count current.unit.uses⟩

/-- One source of three bytes, whose module uses one absent module twice. -/
def repeatedUses : Input × ParsedModule :=
  let usage : UseDecl :=
    { ok := true, errStart := 0, errStop := 0, moduleStart := 0, moduleStop := 1, aliasStart := 0, aliasStop := 0
      hasAlias := false, cursor := 1 }
  (⟨[{ sourceId := [], sourcePath := [], pageStart := 0, pageCount := 1, stride := 4, total := 3 }], [[97, 10, 97]]⟩,
    { sourceId := [], sourcePath := [], sourceIndex := 0
      unit :=
        { ok := true, errStart := 0, errStop := 0, header := Parser.seed
          uses := [usage, { usage with moduleStart := 2, moduleStop := 3 }], records := [], enums := [], fns := []
          cursor := 3 } })

theorem resolveImports_eq_repeatedUses :
    (resolveImports repeatedUses.1 [repeatedUses.2]).diagnostics =
      refused (resolveModules repeatedUses.1 [repeatedUses.2] 0 [repeatedUses.2]) :=
  (resolveImports_eq repeatedUses.1 [repeatedUses.2] (by decide)).1.2.1

end MncsCompiler.Project
