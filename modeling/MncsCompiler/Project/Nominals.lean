import MncsCompiler.Project.Resolve

/-!
# `Project.Nominals` — nominal types across modules

Every module has the identities of the types that it declares. `project_nominal_type_identities` adds the references of a
module to types of other modules: each span that refers to a type is looked up in the modules that the uses of the
module name. A reference has an identity when exactly one use that matches its span gives a valid one.
-/

namespace MncsCompiler.Project

open BoundedLoop Decl

/-! ## Declared types -/

/-- The types of a module: those that it declares, and all that it can name. -/
structure NominalModule where
  sourceIndex : Nat
  locals : List NominalTypeIdentity
  resolved : List NominalTypeIdentity

def collectLocalNominalModuleOne (inp : Input) (parsed : ParsedModule) : NominalModule :=
  { sourceIndex := parsed.sourceIndex
    locals := localNominalTypeIdentities (moduleSource inp parsed.sourceIndex) parsed.unit, resolved := [] }

def collectLocalNominalModules (inp : Input) (modules : List ParsedModule) : List NominalModule :=
  collectWithin inp.sources.length (collectLocalNominalModuleOne inp) modules

structure NominalModuleLookup where
  rest : List NominalModule
  sourceIndex : Nat
  found : Bool
  facts : NominalModule

def nominalModuleLookupOne (st : NominalModuleLookup) (item : NominalModule) (rest : List NominalModule)
    : NominalModuleLookup :=
  if item.sourceIndex = st.sourceIndex then { st with rest := [], found := true, facts := item }
  else { st with rest := rest }

def nominalModuleLookupStep (st : NominalModuleLookup) : NominalModuleLookup :=
  if st.found then st
  else
    match st.rest with
    | [] => st
    | item :: rest => nominalModuleLookupOne st item rest

def nominalModuleByIndex (inp : Input) (modules : List NominalModule) (sourceIndex : Nat) : NominalModuleLookup :=
  nominalModuleLookupStep^[inp.sources.length]
    { rest := modules, sourceIndex := sourceIndex, found := false
      facts := { sourceIndex := 0, locals := [], resolved := [] } }

/-! ## A type of another module -/

structure TargetTypeWalk where
  enums : List EnumDecl
  records : List RecordDecl
  locals : List NominalTypeIdentity
  targetIndex : Nat
  callerIndex : Nat
  nameStart : Nat
  nameStop : Nat
  found : Bool
  identity : SemanticIdentity

def searchTargetRecordOne (inp : Input) (st : TargetTypeWalk) (item : RecordDecl) (rest : List RecordDecl)
    : TargetTypeWalk :=
  if spansEqualBetween inp st.callerIndex st.nameStart st.nameStop st.targetIndex item.nameStart item.nameStop then
    let found := nominalIdentityByName (moduleSource inp st.targetIndex) st.locals item.nameStart item.nameStop
    { st with records := [], found := found.found, identity := found.identity }
  else { st with records := rest }

def searchTargetRecordStep (inp : Input) (st : TargetTypeWalk) : TargetTypeWalk :=
  if st.found then st
  else
    match st.records with
    | [] => st
    | item :: rest => searchTargetRecordOne inp st item rest

def searchTargetRecords (inp : Input) (target : ParsedModule) (locals : List NominalTypeIdentity)
    (callerIndex nameStart nameStop : Nat) : TargetTypeWalk :=
  (searchTargetRecordStep inp)^[1024]
    { enums := [], records := target.unit.records, locals := locals, targetIndex := target.sourceIndex
      callerIndex := callerIndex, nameStart := nameStart, nameStop := nameStop, found := false
      identity := invalidSemanticIdentity }

def searchTargetEnumOne (inp : Input) (st : TargetTypeWalk) (item : EnumDecl) (rest : List EnumDecl)
    : TargetTypeWalk :=
  if spansEqualBetween inp st.callerIndex st.nameStart st.nameStop st.targetIndex item.nameStart item.nameStop then
    let found := nominalIdentityByName (moduleSource inp st.targetIndex) st.locals item.nameStart item.nameStop
    { st with enums := [], found := found.found, identity := found.identity }
  else { st with enums := rest }

def searchTargetEnumStep (inp : Input) (st : TargetTypeWalk) : TargetTypeWalk :=
  if st.found then st
  else
    match st.enums with
    | [] => st
    | item :: rest => searchTargetEnumOne inp st item rest

def searchTargetEnums (inp : Input) (st : TargetTypeWalk) (enums : List EnumDecl) : TargetTypeWalk :=
  (searchTargetEnumStep inp)^[1024] { st with enums := enums }

def targetNominalByName (inp : Input) (target : ParsedModule) (locals : List NominalTypeIdentity)
    (callerIndex nameStart nameStop : Nat) : SemanticIdentity :=
  let records := searchTargetRecords inp target locals callerIndex nameStart nameStop
  if records.found then records.identity
  else
    let enums := searchTargetEnums inp records target.unit.enums
    enums.identity

structure TargetIdentityWalk where
  modules : List ParsedModule
  locals : List NominalModule
  targetIndex : Nat
  callerIndex : Nat
  nameStart : Nat
  nameStop : Nat
  found : Bool
  identity : SemanticIdentity

def nominalTargetCandidate (inp : Input) (st : TargetIdentityWalk) (target : ParsedModule) (rest : List ParsedModule)
    : TargetIdentityWalk :=
  if target.sourceIndex ≠ st.targetIndex then { st with modules := rest }
  else
    let locals := nominalModuleByIndex inp st.locals target.sourceIndex
    let matched := targetNominalByName inp target locals.facts.locals st.callerIndex st.nameStart st.nameStop
    { st with modules := [], found := matched.valid, identity := matched }

def nominalTargetStep (inp : Input) (st : TargetIdentityWalk) : TargetIdentityWalk :=
  if st.found then st
  else
    match st.modules with
    | [] => st
    | target :: rest => nominalTargetCandidate inp st target rest

def nominalIdentityFromTarget (inp : Input) (modules : List ParsedModule) (locals : List NominalModule)
    (targetIndex callerIndex nameStart nameStop : Nat) : SemanticIdentity :=
  let st := (nominalTargetStep inp)^[inp.sources.length]
    { modules := modules, locals := locals, targetIndex := targetIndex, callerIndex := callerIndex
      nameStart := nameStart, nameStop := nameStop, found := false, identity := invalidSemanticIdentity }
  st.identity

/-! ## References -/

/-- A qualified span begins with the prefix of the use and a dot; an unqualified one matches every use without an
    alias. -/
def nominalSpanMatchesUse (src : Source) (span : NominalTypeSpan) (usage : UseDecl) : Bool :=
  if span.stop ≤ span.start then false
  else if span.kind = 5 then !usage.hasAlias && spansEqual src span.start span.stop span.start span.stop
  else
    let prefixStart := if usage.hasAlias then usage.aliasStart else usage.moduleStart
    let prefixStop := if usage.hasAlias then usage.aliasStop else usage.moduleStop
    if prefixStop ≤ prefixStart || span.stop - span.start ≤ prefixStop - prefixStart + 1 then false
    else if !spansEqual src span.start (span.start + (prefixStop - prefixStart)) prefixStart prefixStop then false
    else src.byteAt (span.start + (prefixStop - prefixStart)) = 46

def selectSemanticIdentity (first : Bool) (candidate previous : SemanticIdentity) : SemanticIdentity :=
  if first then candidate else previous

/-- The uses that are left, and what those before gave: how many identities, the first one, and whether it was the last
    that changed. -/
structure NominalUseWalk where
  uses : List UseDecl
  current : ParsedModule
  all : List ParsedModule
  locals : List NominalModule
  span : NominalTypeSpan
  found : Bool
  count : Nat
  identity : SemanticIdentity

def resolveNominalUseOne (inp : Input) (src : Source) (st : NominalUseWalk) (usage : UseDecl) (rest : List UseDecl)
    : NominalUseWalk :=
  if !nominalSpanMatchesUse src st.span usage then { st with uses := rest }
  else
    let target := findImportTarget inp st.all st.current usage
    if !target.found then { st with uses := rest }
    else
      let prefixStart := if usage.hasAlias then usage.aliasStart else usage.moduleStart
      let prefixStop := if usage.hasAlias then usage.aliasStop else usage.moduleStop
      let nameStart := if st.span.kind = 6 then st.span.start + (prefixStop - prefixStart) + 1 else st.span.start
      let identity :=
        nominalIdentityFromTarget inp st.all st.locals target.index st.current.sourceIndex nameStart st.span.stop
      if !identity.valid then { st with uses := rest }
      else
        let first : Bool := st.count = 0
        let same := first || semanticIdentityEqual st.identity identity
        let previousIdentity := selectSemanticIdentity first identity st.identity
        if first then { st with uses := rest, found := true, count := st.count + 1, identity := previousIdentity }
        else { st with uses := rest, found := st.found && same, count := st.count + 1, identity := previousIdentity }

def resolveNominalUseStep (inp : Input) (src : Source) (st : NominalUseWalk) : NominalUseWalk :=
  match st.uses with
  | [] => st
  | usage :: rest => resolveNominalUseOne inp src st usage rest

def resolveNominalInUses (inp : Input) (src : Source) (current : ParsedModule) (all : List ParsedModule)
    (locals : List NominalModule) (span : NominalTypeSpan) : NominalUseWalk :=
  (resolveNominalUseStep inp src)^[1024]
    { uses := current.unit.uses, current := current, all := all, locals := locals, span := span, found := false
      count := 0, identity := invalidSemanticIdentity }

structure ProjectNominalWalk where
  spans : List NominalTypeSpan
  current : ParsedModule
  all : List ParsedModule
  locals : List NominalModule
  acc : List NominalTypeIdentity

def projectNominalSpanOne (inp : Input) (src : Source) (st : ProjectNominalWalk) (span : NominalTypeSpan)
    (rest : List NominalTypeSpan) : ProjectNominalWalk :=
  let named := nominalIdentityByName src st.acc span.start span.stop
  if span.kind = 5 && named.found then { st with spans := rest }
  else
    let uses := resolveNominalInUses inp src st.current st.all st.locals span
    if !uses.found || uses.count ≠ 1 || !uses.identity.valid then { st with spans := rest }
    else
      let reference : NominalTypeIdentity :=
        { start := span.start, stop := span.stop, identity := uses.identity, reference := true }
      { st with spans := rest, acc := reference :: st.acc }

def projectNominalSpanStep (inp : Input) (src : Source) (st : ProjectNominalWalk) : ProjectNominalWalk :=
  match st.spans with
  | [] => st
  | span :: rest => projectNominalSpanOne inp src st span rest

def projectNominalTypeIdentities (inp : Input) (current : ParsedModule) (all : List ParsedModule)
    (locals : List NominalModule) (declared : List NominalTypeIdentity) : List NominalTypeIdentity :=
  let src := moduleSource inp current.sourceIndex
  let spans := collectUnitNominalTypeSpans src current.unit
  let st := (projectNominalSpanStep inp src)^[1024]
    { spans := spans, current := current, all := all, locals := locals, acc := declared }
  let references := nominalReferenceEntries st.acc
  combineNominalTypeIdentities declared references

def resolveProjectNominalModuleOne (inp : Input) (all : List ParsedModule) (locals : List NominalModule)
    (parsed : ParsedModule) : NominalModule :=
  let found := nominalModuleByIndex inp locals parsed.sourceIndex
  let resolved := projectNominalTypeIdentities inp parsed all locals found.facts.locals
  { sourceIndex := parsed.sourceIndex, locals := found.facts.locals, resolved := resolved }

def resolveProjectNominalModules (inp : Input) (modules : List ParsedModule) (locals : List NominalModule)
    : List NominalModule :=
  collectWithin inp.sources.length (resolveProjectNominalModuleOne inp modules locals) modules

/-! ## What the walks compute -/

section Walks

variable (inp : Input)

/-- The types of the module with an index. -/
def nominalFacts (modules : List NominalModule) (sourceIndex : Nat) : NominalModule :=
  ((modules.take inp.sources.length).find? fun item => item.sourceIndex = sourceIndex).getD
    { sourceIndex := 0, locals := [], resolved := [] }

theorem nominalModuleByIndex_facts (modules : List NominalModule) (sourceIndex : Nat) :
    (nominalModuleByIndex inp modules sourceIndex).facts = nominalFacts inp modules sourceIndex := by
  have hscan := iterate_find nominalModuleLookupStep
    (fun list => { rest := list, sourceIndex := sourceIndex, found := false
                   facts := { sourceIndex := 0, locals := [], resolved := [] } })
    (fun item => item.sourceIndex = sourceIndex)
    (fun item => { rest := [], sourceIndex := sourceIndex, found := true, facts := item }) rfl
    (fun item rest => by
      show nominalModuleLookupOne _ item rest = _
      rw [nominalModuleLookupOne]
      simp only [decide_eq_true_eq])
    (fun _ => rfl) inp.sources.length modules
  rw [nominalModuleByIndex, hscan, nominalFacts]
  cases (modules.take inp.sources.length).find? _ <;> rfl

/-- The identity of the type that a module declares at a span. -/
def declaredIdentity (sourceIndex : Nat) (locals : List NominalTypeIdentity) (start stop : Nat)
    : Option SemanticIdentity :=
  ((locals.take 1024).find? fun item =>
    !item.reference && spansEqual (moduleSource inp sourceIndex) item.start item.stop start stop).map
      NominalTypeIdentity.identity

/-- The type of a module that a name stands for: its first record of that name, or else its first enum. -/
def typeNamed (target : ParsedModule) (locals : List NominalTypeIdentity) (callerIndex nameStart nameStop : Nat)
    : Option SemanticIdentity :=
  (((target.unit.records.take 1024).find? fun item => spansEqualBetween inp callerIndex nameStart nameStop
      target.sourceIndex item.nameStart item.nameStop).bind fun item =>
    declaredIdentity inp target.sourceIndex locals item.nameStart item.nameStop).or
  (((target.unit.enums.take 1024).find? fun item => spansEqualBetween inp callerIndex nameStart nameStop
      target.sourceIndex item.nameStart item.nameStop).bind fun item =>
    declaredIdentity inp target.sourceIndex locals item.nameStart item.nameStop)

variable {inp}

theorem nominalIdentityByName_declared {sourceIndex : Nat} {locals : List NominalTypeIdentity} {start stop : Nat} :
    (nominalIdentityByName (moduleSource inp sourceIndex) locals start stop).found =
        (declaredIdentity inp sourceIndex locals start stop).isSome ∧
      (nominalIdentityByName (moduleSource inp sourceIndex) locals start stop).identity =
        (declaredIdentity inp sourceIndex locals start stop).getD invalidSemanticIdentity := by
  obtain ⟨hfound, hidentity⟩ := nominalIdentityByName_eq locals (moduleSource inp sourceIndex) start stop
  rw [hfound, hidentity, declaredIdentity]
  exact ⟨(Option.isSome_map).symm, rfl⟩

theorem targetNominalByName_eq (target : ParsedModule) (locals : List NominalTypeIdentity)
    (callerIndex nameStart nameStop : Nat) :
    targetNominalByName inp target locals callerIndex nameStart nameStop =
      (typeNamed inp target locals callerIndex nameStart nameStop).getD invalidSemanticIdentity := by
  have hrecords := iterate_find (searchTargetRecordStep inp)
    (fun list => { enums := [], records := list, locals := locals, targetIndex := target.sourceIndex
                   callerIndex := callerIndex, nameStart := nameStart, nameStop := nameStop, found := false
                   identity := invalidSemanticIdentity })
    (fun item => spansEqualBetween inp callerIndex nameStart nameStop target.sourceIndex item.nameStart item.nameStop)
    (fun item =>
      let found :=
        nominalIdentityByName (moduleSource inp target.sourceIndex) locals item.nameStart item.nameStop
      { enums := [], records := [], locals := locals, targetIndex := target.sourceIndex
        callerIndex := callerIndex, nameStart := nameStart, nameStop := nameStop, found := found.found
        identity := found.identity })
    rfl (fun _ _ => rfl) (fun item => by
      rw [searchTargetRecordStep]
      split <;> rfl) 1024 target.unit.records
  have henums : ∀ records, ((searchTargetEnumStep inp)^[1024]
      { enums := target.unit.enums, records := records, locals := locals, targetIndex := target.sourceIndex
        callerIndex := callerIndex, nameStart := nameStart, nameStop := nameStop, found := false
        identity := invalidSemanticIdentity }).identity =
      (((target.unit.enums.take 1024).find? fun item => spansEqualBetween inp callerIndex nameStart nameStop
          target.sourceIndex item.nameStart item.nameStop).bind fun item =>
        declaredIdentity inp target.sourceIndex locals item.nameStart item.nameStop).getD invalidSemanticIdentity := by
    intro records
    rw [iterate_find (searchTargetEnumStep inp)
      (fun list => { enums := list, records := records, locals := locals, targetIndex := target.sourceIndex
                     callerIndex := callerIndex, nameStart := nameStart, nameStop := nameStop, found := false
                     identity := invalidSemanticIdentity })
      (fun item => spansEqualBetween inp callerIndex nameStart nameStop target.sourceIndex item.nameStart item.nameStop)
      (fun item =>
        let found := nominalIdentityByName (moduleSource inp target.sourceIndex) locals item.nameStart item.nameStop
        { enums := [], records := records, locals := locals, targetIndex := target.sourceIndex
          callerIndex := callerIndex, nameStart := nameStart, nameStop := nameStop, found := found.found
          identity := found.identity })
      rfl (fun _ _ => rfl) (fun item => by
        rw [searchTargetEnumStep]
        split <;> rfl)]
    cases (target.unit.enums.take 1024).find? _ with
    | none => rfl
    | some item =>
        simp only [Option.map_some, Option.getD_some, Option.bind_some]
        exact (@nominalIdentityByName_declared inp target.sourceIndex locals item.nameStart item.nameStop).2
  rw [targetNominalByName, searchTargetRecords, hrecords, typeNamed]
  cases (target.unit.records.take 1024).find? _ with
  | none =>
      dsimp only [Option.map_none, Option.getD_none, searchTargetEnums]
      rw [if_neg Bool.false_ne_true, henums, Option.bind_none, Option.none_or]
  | some item =>
      obtain ⟨hfound, hidentity⟩ := @nominalIdentityByName_declared inp target.sourceIndex locals item.nameStart
        item.nameStop
      simp only [Option.map_some, Option.getD_some, Option.bind_some, searchTargetEnums, hfound, hidentity]
      cases declaredIdentity inp target.sourceIndex locals item.nameStart item.nameStop with
      | none =>
          rw [Option.isSome_none, if_neg Bool.false_ne_true, Option.getD_none, henums, Option.none_or]
      | some identity => rfl

theorem nominalIdentityFromTarget_eq (modules : List ParsedModule) (locals : List NominalModule)
    (targetIndex callerIndex nameStart nameStop : Nat) :
    nominalIdentityFromTarget inp modules locals targetIndex callerIndex nameStart nameStop =
      (((modules.take inp.sources.length).find? fun target => target.sourceIndex = targetIndex).bind fun target =>
        typeNamed inp target (nominalFacts inp locals targetIndex).locals callerIndex nameStart nameStop).getD
          invalidSemanticIdentity := by
  have hscan := iterate_find (nominalTargetStep inp)
    (fun list => { modules := list, locals := locals, targetIndex := targetIndex, callerIndex := callerIndex
                   nameStart := nameStart, nameStop := nameStop, found := false
                   identity := invalidSemanticIdentity })
    (fun target => target.sourceIndex = targetIndex)
    (fun target =>
      let matched := targetNominalByName inp target (nominalModuleByIndex inp locals target.sourceIndex).facts.locals
        callerIndex nameStart nameStop
      { modules := [], locals := locals, targetIndex := targetIndex, callerIndex := callerIndex
        nameStart := nameStart, nameStop := nameStop, found := matched.valid, identity := matched })
    rfl (fun target rest => by
      show nominalTargetCandidate inp _ target rest = _
      rw [nominalTargetCandidate]
      by_cases hindex : target.sourceIndex = targetIndex
      · rw [if_neg (not_not.mpr hindex), if_pos (decide_eq_true hindex)]
      · rw [if_pos hindex, if_neg (by simpa using hindex)]) (fun target => by
      rw [nominalTargetStep]
      split <;> rfl) inp.sources.length modules
  rw [nominalIdentityFromTarget, hscan]
  cases htarget : (modules.take inp.sources.length).find? fun target => target.sourceIndex = targetIndex with
  | none => rfl
  | some target =>
      have hindex : target.sourceIndex = targetIndex := by simpa using List.find?_some htarget
      dsimp only [Option.map_some, Option.getD_some, Option.bind_some]
      rw [targetNominalByName_eq, nominalModuleByIndex_facts, hindex]

/-- A type that a name stands for is declared. -/
theorem typeNamed_mem {target : ParsedModule} {locals : List NominalTypeIdentity} {callerIndex nameStart nameStop : Nat}
    {identity : SemanticIdentity} (h : typeNamed inp target locals callerIndex nameStart nameStop = some identity) :
    ∃ item ∈ locals, item.identity = identity := by
  have hdeclared : ∀ {start stop : Nat}, declaredIdentity inp target.sourceIndex locals start stop = some identity →
      ∃ item ∈ locals, item.identity = identity := by
    intro start stop hsome
    obtain ⟨item, hitem, hidentity⟩ := Option.map_eq_some_iff.mp hsome
    exact ⟨item, List.mem_of_mem_take (List.mem_of_find?_eq_some hitem), hidentity⟩
  rw [typeNamed, Option.or_eq_some_iff] at h
  rcases h with h | ⟨-, h⟩
  · obtain ⟨item, -, hsome⟩ := Option.bind_eq_some_iff.mp h
    exact hdeclared hsome
  · obtain ⟨item, -, hsome⟩ := Option.bind_eq_some_iff.mp h
    exact hdeclared hsome

end Walks

/-! ## References through uses -/

section Uses

variable (inp : Input) (src : Source) (current : ParsedModule) (all : List ParsedModule) (locals : List NominalModule)
  (span : NominalTypeSpan)

/-- What the module that a use names has under the name in a span. -/
def offeredIdentity (usage : UseDecl) : SemanticIdentity :=
  let prefixStart := if usage.hasAlias then usage.aliasStart else usage.moduleStart
  let prefixStop := if usage.hasAlias then usage.aliasStop else usage.moduleStop
  let nameStart := if span.kind = 6 then span.start + (prefixStop - prefixStart) + 1 else span.start
  nominalIdentityFromTarget inp all locals (findImportTarget inp all current usage).index current.sourceIndex nameStart
    span.stop

/-- The valid identity that one use gives a span. -/
def useIdentity (usage : UseDecl) : Option SemanticIdentity :=
  if !nominalSpanMatchesUse src span usage then none
  else if !(findImportTarget inp all current usage).found then none
  else if !(offeredIdentity inp current all locals span usage).valid then none
  else some (offeredIdentity inp current all locals span usage)

/-- The identities that the uses of a module give a span, in order. -/
def useIdentities : List SemanticIdentity :=
  (current.unit.uses.take 1024).filterMap (useIdentity inp src current all locals span)

variable {inp src current all locals span}

theorem useIdentity_valid {usage : UseDecl} {identity : SemanticIdentity}
    (h : useIdentity inp src current all locals span usage = some identity) :
    identity = offeredIdentity inp current all locals span usage ∧ identity.valid = true := by
  unfold useIdentity at h
  split at h
  · cases h
  split at h
  · cases h
  split at h
  · cases h
  · next hvalid =>
      rw [← Option.some.inj h]
      exact ⟨rfl, by simpa using hvalid⟩

theorem resolveNominalUseStep_cons (rest : List UseDecl) (usage : UseDecl) (found : Bool) (count : Nat)
    (identity : SemanticIdentity) :
    resolveNominalUseStep inp src
        { uses := usage :: rest, current := current, all := all, locals := locals, span := span, found := found
          count := count, identity := identity } =
      match useIdentity inp src current all locals span usage with
      | none =>
        { uses := rest, current := current, all := all, locals := locals, span := span, found := found, count := count
          identity := identity }
      | some other =>
        { uses := rest, current := current, all := all, locals := locals, span := span
          found := if count = 0 then true else found && semanticIdentityEqual identity other
          count := count + 1, identity := if count = 0 then other else identity } := by
  have hshape : resolveNominalUseStep inp src
      { uses := usage :: rest, current := current, all := all, locals := locals, span := span, found := found
        count := count, identity := identity } =
      if !nominalSpanMatchesUse src span usage then
        { uses := rest, current := current, all := all, locals := locals, span := span, found := found, count := count
          identity := identity }
      else if !(findImportTarget inp all current usage).found then
        { uses := rest, current := current, all := all, locals := locals, span := span, found := found, count := count
          identity := identity }
      else if !(offeredIdentity inp current all locals span usage).valid then
        { uses := rest, current := current, all := all, locals := locals, span := span, found := found, count := count
          identity := identity }
      else
        { uses := rest, current := current, all := all, locals := locals, span := span
          found := if count = 0 then true else
            found && semanticIdentityEqual identity (offeredIdentity inp current all locals span usage)
          count := count + 1
          identity := if count = 0 then offeredIdentity inp current all locals span usage else identity } := by
    show resolveNominalUseOne inp src _ usage rest = _
    unfold resolveNominalUseOne offeredIdentity
    by_cases hfirst : count = 0
    · simp [hfirst, selectSemanticIdentity]
    · simp [hfirst, selectSemanticIdentity]
  rw [hshape, useIdentity]
  split
  · rfl
  split
  · rfl
  split <;> rfl

/-- A walk that has an identity compares the others with it. -/
theorem iterate_resolveNominalUseStep_opened (n : Nat) {uses : List UseDecl} {found : Bool} {count : Nat}
    {identity : SemanticIdentity} (hcount : count ≠ 0) :
    let ids := (uses.take n).filterMap (useIdentity inp src current all locals span)
    let st := (resolveNominalUseStep inp src)^[n]
      { uses := uses, current := current, all := all, locals := locals, span := span, found := found, count := count
        identity := identity }
    st.found = (found && ids.all fun other => semanticIdentityEqual identity other) ∧
      st.count = count + ids.length ∧ st.identity = identity := by
  induction n generalizing uses found count with
  | zero => simp
  | succ n ih =>
      dsimp only at ih ⊢
      rw [Function.iterate_succ_apply]
      cases uses with
      | nil =>
          rw [Function.iterate_fixed rfl, List.take_nil, List.filterMap_nil]
          exact ⟨(Bool.and_true found).symm, rfl, rfl⟩
      | cons usage rest =>
          rw [List.take_succ_cons, List.filterMap_cons, resolveNominalUseStep_cons]
          cases useIdentity inp src current all locals span usage with
          | none => exact ih hcount
          | some other =>
              dsimp only
              rw [if_neg hcount, if_neg hcount]
              obtain ⟨hfound, hlength, hidentity⟩ := @ih rest (found && semanticIdentityEqual identity other) (count + 1)
                (Nat.succ_ne_zero count)
              refine ⟨?_, ?_, hidentity⟩
              · rw [hfound, List.all_cons, Bool.and_assoc]
              · rw [hlength, List.length_cons]
                omega

/-- A walk from the start takes up the first identity and compares the others with it. -/
theorem iterate_resolveNominalUseStep (n : Nat) {uses : List UseDecl} :
    let ids := (uses.take n).filterMap (useIdentity inp src current all locals span)
    let st := (resolveNominalUseStep inp src)^[n]
      { uses := uses, current := current, all := all, locals := locals, span := span, found := false, count := 0
        identity := invalidSemanticIdentity }
    st.count = ids.length ∧ (ids = [] → st.found = false) ∧
      ∀ first rest, ids = first :: rest →
        st.identity = first ∧ st.found = rest.all fun other => semanticIdentityEqual first other := by
  induction n generalizing uses with
  | zero => simp
  | succ n ih =>
      dsimp only at ih ⊢
      rw [Function.iterate_succ_apply]
      cases uses with
      | nil =>
          rw [Function.iterate_fixed rfl, List.take_nil, List.filterMap_nil]
          exact ⟨rfl, fun _ => rfl, fun _ _ h => nomatch h⟩
      | cons usage rest =>
          rw [List.take_succ_cons, List.filterMap_cons, resolveNominalUseStep_cons]
          cases useIdentity inp src current all locals span usage with
          | none => exact @ih rest
          | some other =>
              dsimp only
              rw [if_pos rfl, if_pos rfl]
              obtain ⟨hfound, hlength, hidentity⟩ := @iterate_resolveNominalUseStep_opened inp src current all locals
                span n rest true 1 other Nat.one_ne_zero
              refine ⟨?_, fun h => (nomatch h), ?_⟩
              · rw [hlength, List.length_cons, Nat.add_comm]
              · rintro first others h
                obtain ⟨rfl, rfl⟩ := List.cons.inj h
                exact ⟨hidentity, by rw [hfound, Bool.true_and]⟩

/-- **A span is resolved by the only use that gives it a valid identity.** -/
theorem projectNominalSpanOne_eq (spans rest : List NominalTypeSpan) (acc : List NominalTypeIdentity) :
    projectNominalSpanOne inp src { spans := spans, current := current, all := all, locals := locals, acc := acc } span
        rest =
      { spans := rest, current := current, all := all, locals := locals
        acc :=
          match useIdentities inp src current all locals span with
          | [identity] =>
            if span.kind = 5 && (nominalIdentityByName src acc span.start span.stop).found then acc
            else { start := span.start, stop := span.stop, identity := identity, reference := true } :: acc
          | _ => acc } := by
  obtain ⟨hcount, hempty, hfirst⟩ := @iterate_resolveNominalUseStep inp src current all locals span 1024
    current.unit.uses
  have hvalid : ∀ identity ∈ useIdentities inp src current all locals span, identity.valid = true := by
    intro identity hmem
    obtain ⟨usage, -, husage⟩ := List.mem_filterMap.mp hmem
    exact (useIdentity_valid husage).2
  rw [← useIdentities] at hcount hempty hfirst
  rw [projectNominalSpanOne, resolveNominalInUses]
  dsimp only
  generalize (resolveNominalUseStep inp src)^[1024] _ = st at hcount hempty hfirst ⊢
  generalize useIdentities inp src current all locals span = ids at hcount hempty hfirst hvalid ⊢
  match ids with
  | [] =>
      rw [hempty rfl]
      split <;> rfl
  | [identity] =>
      obtain ⟨hidentity, hfound⟩ := hfirst identity [] rfl
      rw [hidentity, hcount, hfound, hvalid identity List.mem_cons_self]
      dsimp only
      split <;> rfl
  | _ :: _ :: _ =>
      have hmany : st.count ≠ 1 := by
        rw [hcount, List.length_cons, List.length_cons]
        omega
      dsimp only
      split
      · rfl
      · rw [if_pos (by simp [hmany])]

end Uses
end MncsCompiler.Project
