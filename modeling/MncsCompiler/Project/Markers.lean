import MncsCompiler.Decl.Identities
import MncsCompiler.Lib.Interning
import MncsCompiler.Project.Nominals
import Mathlib.Data.List.Pairwise
import Mathlib.Data.List.ProdSigma

/-!
# `Project.Markers` — one span for each identity of a project

Project nominal types get stable spans outside every source. `project_nominal_markers` numbers the identities of all
modules in the order in which they come, each once, up to 1024; generic parameters have the numbers 1 to 1024, so these
begin at 1025. A table that begins with the markers finds the marker of an identity before any reference of a module.
-/

namespace MncsCompiler.Project

open BoundedLoop Decl

/-! ## The walk over the identities -/

structure ProjectNominalContains where
  rest : List NominalTypeIdentity
  wanted : SemanticIdentity
  found : Bool

def projectNominalContainsCons (st : ProjectNominalContains) (identity : NominalTypeIdentity)
    (rest : List NominalTypeIdentity) : ProjectNominalContains :=
  if semanticIdentityEqual identity.identity st.wanted then { rest := [], wanted := st.wanted, found := true }
  else { rest := rest, wanted := st.wanted, found := false }

def projectNominalContainsStep (st : ProjectNominalContains) : ProjectNominalContains :=
  match st.rest with
  | [] => st
  | identity :: rest => projectNominalContainsCons st identity rest

def projectNominalContains (identities : List NominalTypeIdentity) (wanted : SemanticIdentity)
    : ProjectNominalContains :=
  (iterate (fun _ (st : ProjectNominalContains) =>
        if st.found then .ret st else .next (projectNominalContainsStep st))
      0 1024 { rest := identities, wanted := wanted, found := false }).after id

structure ProjectNominalIdentityWalk where
  rest : List NominalTypeIdentity
  acc : List NominalTypeIdentity
  count : Nat

def projectNominalIdentityCons (st : ProjectNominalIdentityWalk) (identity : NominalTypeIdentity)
    (rest : List NominalTypeIdentity) : ProjectNominalIdentityWalk :=
  let seen := projectNominalContains st.acc identity.identity
  if !identity.identity.valid || seen.found || st.count ≥ 1024 then { rest := rest, acc := st.acc, count := st.count }
  else
    let marker : NominalTypeIdentity :=
      { start := 18446744073709551615 - (1024 + st.count + 1), stop := 18446744073709551615
        identity := identity.identity, reference := true }
    { rest := rest, acc := marker :: st.acc, count := st.count + 1 }

def projectNominalIdentityStep (st : ProjectNominalIdentityWalk) : ProjectNominalIdentityWalk :=
  match st.rest with
  | [] => st
  | identity :: rest => projectNominalIdentityCons st identity rest

def projectNominalIdentityList (identities acc : List NominalTypeIdentity) (count : Nat) : ProjectNominalIdentityWalk :=
  projectNominalIdentityStep^[1024] { rest := identities, acc := acc, count := count }

structure ProjectNominalModuleWalk where
  rest : List NominalModule
  acc : List NominalTypeIdentity
  count : Nat

def projectNominalModuleCons (st : ProjectNominalModuleWalk) (nominalItem : NominalModule) (rest : List NominalModule)
    : ProjectNominalModuleWalk :=
  let identities := projectNominalIdentityList nominalItem.resolved st.acc st.count
  { rest := rest, acc := identities.acc, count := identities.count }

def projectNominalModuleStep (st : ProjectNominalModuleWalk) : ProjectNominalModuleWalk :=
  match st.rest with
  | [] => st
  | nominalItem :: rest => projectNominalModuleCons st nominalItem rest

def projectNominalMarkers (modules : List NominalModule) : List NominalTypeIdentity :=
  (projectNominalModuleStep^[64] { rest := modules, acc := [], count := 0 }).acc

/-! ## The table of the identities -/

/-- The marker with a number. -/
def nominalMarker (count : Nat) (identity : SemanticIdentity) : NominalTypeIdentity :=
  { start := 18446744073709551615 - (1024 + count + 1), stop := 18446744073709551615, identity := identity
    reference := true }

/-- The table of the identities that have a marker. -/
abbrev internIdentities (table identities : List SemanticIdentity) : List SemanticIdentity :=
  Interning.intern semanticIdentityEqual SemanticIdentity.valid 1024 table identities

/-- What the walk looks at. -/
def scannedIdentities (modules : List NominalModule) : List SemanticIdentity :=
  (modules.take 64).flatMap fun nominalItem => (nominalItem.resolved.take 1024).map NominalTypeIdentity.identity

theorem projectNominalContains_found (identities : List NominalTypeIdentity) (wanted : SemanticIdentity) :
    (projectNominalContains identities wanted).found =
      (identities.take 1024).any fun item => semanticIdentityEqual item.identity wanted := by
  have hscan := iterate_find (settle ProjectNominalContains.found projectNominalContainsStep)
    (fun list => { rest := list, wanted := wanted, found := false })
    (fun item => semanticIdentityEqual item.identity wanted)
    (fun _ => { rest := [], wanted := wanted, found := true }) rfl (fun _ _ => rfl) (fun _ => rfl) 1024 identities
  have hloop : projectNominalContains identities wanted =
      (settle ProjectNominalContains.found projectNominalContainsStep)^[1024]
        { rest := identities, wanted := wanted, found := false } := iterate_guard (fun _ _ => rfl) 0 1024 _
  rw [hloop, hscan]
  cases hfound : (identities.take 1024).find? fun item => semanticIdentityEqual item.identity wanted with
  | none =>
      rw [List.find?_eq_none] at hfound
      exact (List.any_eq_false.mpr hfound).symm
  | some item => exact (List.any_eq_true.mpr ⟨item, List.mem_of_find?_eq_some hfound, List.find?_some hfound⟩).symm

/-- One identity comes to the numbered table. -/
theorem projectNominalIdentityCons_eq {table : List SemanticIdentity} (h : table.length ≤ 1024)
    (identity : NominalTypeIdentity) (all rest : List NominalTypeIdentity) :
    projectNominalIdentityCons
        { rest := all, acc := Interning.numbered nominalMarker table, count := table.length } identity rest =
      let table' := Interning.insert semanticIdentityEqual SemanticIdentity.valid 1024 table identity.identity
      { rest := rest, acc := Interning.numbered nominalMarker table', count := table'.length } := by
  have hseen : (projectNominalContains (Interning.numbered nominalMarker table) identity.identity).found =
      table.any fun entry => semanticIdentityEqual entry identity.identity := by
    rw [projectNominalContains_found, List.take_of_length_le (by rwa [Interning.length_numbered])]
    conv_rhs => rw [← @Interning.map_numbered _ _ nominalMarker NominalTypeIdentity.identity (fun _ _ => rfl) table]
    rw [List.any_map]
    rfl
  unfold projectNominalIdentityCons Interning.insert
  dsimp only
  rw [hseen]
  split <;> rfl

theorem iterate_projectNominalIdentityStep (n : Nat) {table : List SemanticIdentity}
    (h : Interning.Table semanticIdentityEqual SemanticIdentity.valid 1024 table) (rest : List NominalTypeIdentity) :
    let table' := internIdentities table ((rest.take n).map NominalTypeIdentity.identity)
    projectNominalIdentityStep^[n]
        { rest := rest, acc := Interning.numbered nominalMarker table, count := table.length } =
      { rest := rest.drop n, acc := Interning.numbered nominalMarker table', count := table'.length } := by
  induction n generalizing table rest with
  | zero => rfl
  | succ n ih =>
      dsimp only at ih ⊢
      cases rest with
      | nil => exact Function.iterate_fixed rfl _
      | cons identity rest =>
          rw [Function.iterate_succ_apply]
          show projectNominalIdentityStep^[n] (projectNominalIdentityCons _ identity rest) = _
          rw [projectNominalIdentityCons_eq h.length_le]
          exact ih (h.insert identity.identity) rest

theorem iterate_projectNominalModuleStep (n : Nat) {table : List SemanticIdentity}
    (h : Interning.Table semanticIdentityEqual SemanticIdentity.valid 1024 table) (modules : List NominalModule) :
    (projectNominalModuleStep^[n]
        { rest := modules, acc := Interning.numbered nominalMarker table, count := table.length }).acc =
      Interning.numbered nominalMarker (internIdentities table ((modules.take n).flatMap fun nominalItem =>
        (nominalItem.resolved.take 1024).map NominalTypeIdentity.identity)) := by
  induction n generalizing table modules with
  | zero => rfl
  | succ n ih =>
      cases modules with
      | nil =>
          rw [Function.iterate_fixed rfl]
          rfl
      | cons nominalItem rest =>
          have hstep : projectNominalModuleStep
              { rest := nominalItem :: rest, acc := Interning.numbered nominalMarker table, count := table.length } =
              projectNominalModuleCons
                { rest := nominalItem :: rest, acc := Interning.numbered nominalMarker table, count := table.length }
                nominalItem rest := rfl
          rw [Function.iterate_succ_apply, hstep, projectNominalModuleCons, projectNominalIdentityList,
            iterate_projectNominalIdentityStep 1024 h]
          dsimp only
          rw [ih (h.intern _), List.take_succ_cons, List.flatMap_cons, internIdentities, internIdentities,
            Interning.intern_append]

/-- The markers of a project number the identities that the walk looks at. -/
theorem projectNominalMarkers_eq (modules : List NominalModule) :
    projectNominalMarkers modules = Interning.numbered nominalMarker (internIdentities [] (scannedIdentities modules)) :=
  iterate_projectNominalModuleStep 64 Interning.Table.nil modules

/-! ## The identities of a project -/

/-- The nominal types of the modules of a project. -/
def projectNominalModules (inp : Input) (modules : List ParsedModule) : List NominalModule :=
  resolveProjectNominalModules inp modules (collectLocalNominalModules inp modules)

/-- A valid identity that some module can name. -/
def Occurs (modules : List NominalModule) (identity : SemanticIdentity) : Prop :=
  identity.valid = true ∧ ∃ nominalItem ∈ modules, ∃ item ∈ nominalItem.resolved, item.identity = identity

section Projects

variable {inp : Input} {modules : List ParsedModule}

theorem mem_projectNominalModules {nominalItem : NominalModule} :
    nominalItem ∈ projectNominalModules inp modules ↔ ∃ parsed ∈ modules.take inp.sources.length,
      resolveProjectNominalModuleOne inp modules (collectLocalNominalModules inp modules) parsed = nominalItem := by
  rw [projectNominalModules, resolveProjectNominalModules, collectWithin_eq, List.mem_reverse, List.mem_map]

/-- The types of a module that was found are those that it declares. -/
theorem nominalFacts_cases (sourceIndex : Nat) :
    (nominalFacts inp (collectLocalNominalModules inp modules) sourceIndex).locals = [] ∨
      ∃ parsed ∈ modules.take inp.sources.length, parsed.sourceIndex = sourceIndex ∧
        nominalFacts inp (collectLocalNominalModules inp modules) sourceIndex =
          collectLocalNominalModuleOne inp parsed := by
  rw [nominalFacts]
  cases hfound : ((collectLocalNominalModules inp modules).take inp.sources.length).find? fun item =>
      item.sourceIndex = sourceIndex with
  | none => exact .inl rfl
  | some item =>
      have hmem := List.mem_of_mem_take (List.mem_of_find?_eq_some hfound)
      rw [collectLocalNominalModules, collectWithin_eq, List.mem_reverse, List.mem_map] at hmem
      obtain ⟨parsed, hparsed, rfl⟩ := hmem
      have hindex := List.find?_some hfound
      exact .inr ⟨parsed, hparsed, of_decide_eq_true hindex, rfl⟩

/-- With one module for each source, a module is found by its source. -/
theorem nominalFacts_eq {parsed : ParsedModule} (hone : ∀ a ∈ modules.take inp.sources.length,
    ∀ b ∈ modules.take inp.sources.length, a.sourceIndex = b.sourceIndex → a = b)
    (h : parsed ∈ modules.take inp.sources.length) :
    nominalFacts inp (collectLocalNominalModules inp modules) parsed.sourceIndex =
      collectLocalNominalModuleOne inp parsed := by
  have hcollected : (collectLocalNominalModules inp modules).take inp.sources.length =
      ((modules.take inp.sources.length).map (collectLocalNominalModuleOne inp)).reverse := by
    rw [collectLocalNominalModules, collectWithin_eq, List.take_of_length_le (by
      rw [List.length_reverse, List.length_map]
      exact List.length_take_le _ _)]
  rw [nominalFacts, hcollected]
  cases hfound : ((modules.take inp.sources.length).map (collectLocalNominalModuleOne inp)).reverse.find? fun item =>
      item.sourceIndex = parsed.sourceIndex with
  | none =>
      have hno := List.find?_eq_none.mp hfound _ (List.mem_reverse.mpr (List.mem_map_of_mem h))
      exact absurd (decide_eq_true rfl) hno
  | some item =>
      obtain ⟨other, hother, rfl⟩ := List.mem_map.mp (List.mem_reverse.mp (List.mem_of_find?_eq_some hfound))
      have hindex := List.find?_some hfound
      rw [hone other hother parsed h (of_decide_eq_true hindex)]
      rfl

theorem length_nominalFacts_le (sourceIndex : Nat) :
    (nominalFacts inp (collectLocalNominalModules inp modules) sourceIndex).locals.length ≤ 1024 := by
  rcases @nominalFacts_cases inp modules sourceIndex with hnone | ⟨parsed, -, -, hfacts⟩
  · rw [hnone, List.length_nil]
    exact Nat.zero_le 1024
  · have hlength := length_localNominalTypeIdentities_le (moduleSource inp parsed.sourceIndex) parsed.unit
    have hlocals : (nominalFacts inp (collectLocalNominalModules inp modules) sourceIndex).locals =
        localNominalTypeIdentities (moduleSource inp parsed.sourceIndex) parsed.unit := by
      simp only [hfacts, collectLocalNominalModuleOne]
    exact hlocals ▸ hlength

/-- A type that a use gives is declared in some module. -/
theorem mem_useIdentities {src : Source} {current : ParsedModule} {locals : List NominalModule} {span : NominalTypeSpan}
    {identity : SemanticIdentity} (h : identity ∈ useIdentities inp src current modules locals span) :
    ∃ targetIndex, ∃ other ∈ (nominalFacts inp locals targetIndex).locals, other.identity = identity := by
  obtain ⟨usage, -, husage⟩ := List.mem_filterMap.mp h
  obtain ⟨hoffered, hvalid⟩ := useIdentity_valid husage
  rw [offeredIdentity, nominalIdentityFromTarget_eq] at hoffered
  cases htarget : (modules.take inp.sources.length).find? fun target =>
      target.sourceIndex = (findImportTarget inp modules current usage).index with
  | none =>
      rw [htarget] at hoffered
      rw [hoffered] at hvalid
      cases hvalid
  | some target =>
      rw [htarget, Option.bind_some] at hoffered
      generalize hnamed : typeNamed inp target _ _ _ _ = named at hoffered
      cases named with
      | none =>
          rw [hoffered] at hvalid
          cases hvalid
      | some other =>
          rw [hoffered]
          exact ⟨_, typeNamed_mem hnamed⟩

/-- What a module can name: its own types, and references to types of other modules. -/
theorem mem_projectNominalTypeIdentities {current : ParsedModule} {locals : List NominalModule}
    {declared : List NominalTypeIdentity} {item : NominalTypeIdentity}
    (h : item ∈ projectNominalTypeIdentities inp current modules locals declared) :
    item ∈ declared ∨ ∃ targetIndex, ∃ other ∈ (nominalFacts inp locals targetIndex).locals,
      other.identity = item.identity := by
  have hwalk : ∀ (n : Nat) (spans : List NominalTypeSpan) (acc : List NominalTypeIdentity),
      ∀ entry ∈ ((projectNominalSpanStep inp (moduleSource inp current.sourceIndex))^[n]
          { spans := spans, current := current, all := modules, locals := locals, acc := acc }).acc,
        entry ∈ acc ∨ ∃ targetIndex, ∃ other ∈ (nominalFacts inp locals targetIndex).locals,
          other.identity = entry.identity := by
    intro n
    induction n with
    | zero => exact fun _ _ _ hentry => .inl hentry
    | succ n ih =>
        intro spans acc entry hentry
        cases spans with
        | nil =>
            rw [Function.iterate_fixed rfl] at hentry
            exact .inl hentry
        | cons span rest =>
            rw [Function.iterate_succ_apply, projectNominalSpanStep] at hentry
            dsimp only at hentry
            rw [projectNominalSpanOne_eq] at hentry
            rcases ih _ _ entry hentry with hacc | hother
            · split at hacc
              · next identity hids =>
                  split at hacc
                  · exact .inl hacc
                  · rcases List.mem_cons.mp hacc with rfl | hacc
                    · exact .inr (mem_useIdentities (hids ▸ List.mem_singleton_self _))
                    · exact .inl hacc
              · exact .inl hacc
            · exact .inr hother
  rw [projectNominalTypeIdentities, combineNominalTypeIdentities, prependWithin_eq, nominalReferenceEntries_eq,
    List.mem_append, List.mem_reverse, List.mem_reverse, List.mem_filter] at h
  rcases h with hlocal | ⟨hacc, -⟩
  · exact .inl (List.mem_of_mem_take hlocal)
  · exact hwalk 1024 _ _ item (List.mem_of_mem_take hacc)

/-- The types that a module declares are looked at. -/
theorem scanned_nominalFacts (hsources : inp.sources.length ≤ 64) {sourceIndex : Nat} {item : NominalTypeIdentity}
    (h : item ∈ (nominalFacts inp (collectLocalNominalModules inp modules) sourceIndex).locals) :
    item.identity ∈ scannedIdentities (projectNominalModules inp modules) := by
  have hcases := @nominalFacts_cases inp modules sourceIndex
  have hlength := @length_nominalFacts_le inp modules sourceIndex
  rcases hcases with hnone | ⟨parsed, hparsed, rfl, -⟩
  · rw [hnone] at h
    cases h
  · have hmodule := mem_projectNominalModules.mpr ⟨parsed, hparsed, rfl⟩
    have hshort : (projectNominalModules inp modules).length ≤ 64 := by
      rw [projectNominalModules, resolveProjectNominalModules, collectWithin_eq, List.length_reverse, List.length_map,
        List.length_take]
      omega
    rw [scannedIdentities, List.mem_flatMap, List.take_of_length_le hshort]
    refine ⟨_, hmodule, List.mem_map.mpr ⟨item, ?_, rfl⟩⟩
    -- its own types come first in what a module can name
    rw [resolveProjectNominalModuleOne]
    dsimp only
    rw [nominalModuleByIndex_facts, projectNominalTypeIdentities, combineNominalTypeIdentities, prependWithin_eq,
      List.take_of_length_le hlength, List.take_append, List.take_of_length_le (by rwa [List.length_reverse])]
    exact List.mem_append_left _ (List.mem_reverse.mpr h)

/-- **The walk looks at every valid identity of a project.** -/
theorem mem_scannedIdentities (hsources : inp.sources.length ≤ 64) {identity : SemanticIdentity} :
    identity ∈ scannedIdentities (projectNominalModules inp modules) ∧ identity.valid = true ↔
      Occurs (projectNominalModules inp modules) identity := by
  constructor
  · rintro ⟨hscanned, hvalid⟩
    obtain ⟨nominalItem, hmodule, hmap⟩ := List.mem_flatMap.mp hscanned
    obtain ⟨item, hitem, rfl⟩ := List.mem_map.mp hmap
    exact ⟨hvalid, nominalItem, List.mem_of_mem_take hmodule, item, List.mem_of_mem_take hitem, rfl⟩
  · rintro ⟨hvalid, nominalItem, hmodule, item, hitem, rfl⟩
    refine ⟨?_, hvalid⟩
    obtain ⟨parsed, -, rfl⟩ := mem_projectNominalModules.mp hmodule
    rw [resolveProjectNominalModuleOne] at hitem
    dsimp only at hitem
    rw [nominalModuleByIndex_facts] at hitem
    rcases mem_projectNominalTypeIdentities hitem with hdeclared | ⟨targetIndex, other, hother, hsame⟩
    · exact scanned_nominalFacts hsources hdeclared
    · rw [← hsame]
      exact scanned_nominalFacts hsources hother

/-! ## Markers and identities -/

/-- A marker with a number below 1024 decodes to an index above every generic parameter. -/
theorem genericTypeMarkerIndex_marker {k : Nat} (hk : k < 1024) (identity : SemanticIdentity) :
    genericTypeMarkerIndex (nominalMarker k identity).start (nominalMarker k identity).stop = 1025 + k := by
  unfold genericTypeMarkerIndex nominalMarker
  dsimp only
  rw [if_neg (by simp), if_neg (by omega), if_neg (by omega)]
  omega

/-- The lookup of an identity in a table that begins with the markers finds its marker. -/
theorem nominalSemanticSpan_marker {markers : List NominalTypeIdentity} (hlength : markers.length ≤ 1024)
    (hdecode : ∀ marker ∈ markers, marker.reference = true ∧ 1024 < genericTypeMarkerIndex marker.start marker.stop)
    (hdifferent : markers.Pairwise fun a b => semanticIdentityEqual a.identity b.identity = false)
    {marker : NominalTypeIdentity} (hmarker : marker ∈ markers) {identity : SemanticIdentity}
    (hsame : semanticIdentityEqual marker.identity identity = true) (types : List NominalTypeIdentity)
    (start stop : Nat) :
    nominalSemanticSpan (combineNominalTypeIdentities markers types) identity start stop =
      { start := marker.start, stop := marker.stop, kind := 0 } := by
  have honly : ∀ other ∈ markers, semanticIdentityEqual other.identity identity = true → other = marker := by
    intro other hother hsame'
    by_contra hne
    have hboth := semanticIdentityEqual_trans hsame' (semanticIdentityEqual_symm hsame)
    have : Std.Symm fun a b : NominalTypeIdentity => semanticIdentityEqual a.identity b.identity = false :=
      ⟨fun a b hab => (semanticIdentityEqual_comm b.identity a.identity).trans hab⟩
    have hfalse := hdifferent.forall hother hmarker hne
    rw [hboth] at hfalse
    cases hfalse
  have hfind : ((combineNominalTypeIdentities markers types).take 1024).find? (fun item =>
      item.reference && semanticIdentityEqual item.identity identity) = some marker := by
    rw [combineNominalTypeIdentities, prependWithin_eq, List.take_of_length_le hlength, List.take_append,
      List.take_of_length_le (by rwa [List.length_reverse]), List.find?_append]
    cases hfound : markers.reverse.find? fun item => item.reference && semanticIdentityEqual item.identity identity with
    | none =>
        have hno := List.find?_eq_none.mp hfound marker (List.mem_reverse.mpr hmarker)
        rw [(hdecode marker hmarker).1, hsame] at hno
        exact absurd rfl hno
    | some other =>
        have hother := List.mem_reverse.mp (List.mem_of_find?_eq_some hfound)
        have hpassed := List.find?_some hfound
        rw [Bool.and_eq_true] at hpassed
        rw [honly other hother hpassed.2]
        rfl
  obtain ⟨hfound, hstart, hstop⟩ :=
    nominalReferenceByIdentity_eq (combineNominalTypeIdentities markers types) identity
  rw [hfind] at hfound hstart hstop
  rw [nominalSemanticSpan, hfound, hstart, hstop]
  dsimp only [Option.isSome_some, Option.map_some, Option.getD_some]
  rw [if_pos (by simpa using (hdecode marker hmarker).2)]

/-- What the markers of a project are. -/
structure MarksIdentities (resolved : List NominalModule) (markers : List NominalTypeIdentity) : Prop where
  /-- A marker stands for an identity of the project and decodes to an index above every generic parameter. -/
  occurs : ∀ marker ∈ markers, Occurs resolved marker.identity ∧ marker.reference = true ∧
    1025 ≤ genericTypeMarkerIndex marker.start marker.stop ∧ genericTypeMarkerIndex marker.start marker.stop ≤ 2048
  /-- Two markers stand for different identities at different spans. -/
  different : markers.Pairwise fun a b => semanticIdentityEqual a.identity b.identity = false ∧
    (a.start, a.stop) ≠ (b.start, b.stop)
  /-- Every identity has a marker exactly when no more than 1024 of them differ. -/
  all_iff : (∀ identity, Occurs resolved identity →
      ∃ marker ∈ markers, semanticIdentityEqual marker.identity identity = true) ↔
    ∀ chosen : List SemanticIdentity, (∀ identity ∈ chosen, Occurs resolved identity) →
      (chosen.Pairwise fun a b => semanticIdentityEqual a b = false) → chosen.length ≤ 1024
  /-- An identity without a marker comes when all numbers are given out. -/
  full : ∀ identity, Occurs resolved identity →
    (∃ marker ∈ markers, semanticIdentityEqual marker.identity identity = true) ∨ markers.length = 1024
  /-- In the table of any module the lookup of an identity that has a marker gives it. -/
  lookup : ∀ nominalItem ∈ resolved, ∀ item ∈ nominalItem.resolved, ∀ marker ∈ markers,
    semanticIdentityEqual marker.identity item.identity = true → ∀ start stop,
      nominalSemanticSpan (combineNominalTypeIdentities markers nominalItem.resolved) item.identity start stop =
        { start := marker.start, stop := marker.stop, kind := 0 }

theorem length_projectNominalMarkers_le (modules : List NominalModule) :
    (projectNominalMarkers modules).length ≤ 1024 := by
  rw [projectNominalMarkers_eq, Interning.length_numbered]
  exact (Interning.Table.nil.intern _).length_le

/-- **Markers.** The markers of a project number its identities, each once, as long as there are numbers. -/
theorem projectNominalMarkers_exact (inp : Input) (hsources : inp.sources.length ≤ 64) (modules : List ParsedModule) :
    MarksIdentities (projectNominalModules inp modules) (projectNominalMarkers (projectNominalModules inp modules)) := by
  have hscanned := fun identity => @mem_scannedIdentities inp modules hsources identity
  have hmarkers := projectNominalMarkers_eq (projectNominalModules inp modules)
  generalize projectNominalModules inp modules = resolved at hscanned hmarkers ⊢
  generalize projectNominalMarkers resolved = markers at hmarkers ⊢
  have htable : Interning.Table semanticIdentityEqual SemanticIdentity.valid 1024
      (internIdentities [] (scannedIdentities resolved)) := Interning.Table.nil.intern _
  have hcovers := @Interning.covers_iff SemanticIdentity semanticIdentityEqual SemanticIdentity.valid 1024
    (fun _ => semanticIdentityEqual_refl) (fun _ _ => semanticIdentityEqual_symm)
    (fun _ _ _ => semanticIdentityEqual_trans) (scannedIdentities resolved)
  have hinterned := fun identity => @Interning.intern_covers SemanticIdentity semanticIdentityEqual
    SemanticIdentity.valid 1024 [] (scannedIdentities resolved) (fun _ => semanticIdentityEqual_refl) identity
  have hmem := fun identity => @Interning.mem_intern SemanticIdentity semanticIdentityEqual SemanticIdentity.valid 1024 []
    (scannedIdentities resolved) identity
  rw [internIdentities] at hmarkers htable
  generalize Interning.intern semanticIdentityEqual SemanticIdentity.valid 1024 [] (scannedIdentities resolved) = table
    at hmarkers htable hcovers hinterned hmem
  subst hmarkers
  have hlength : (Interning.numbered nominalMarker table).length = table.length := Interning.length_numbered _ _
  have hmarker : ∀ identity, (∃ marker ∈ Interning.numbered nominalMarker table,
      semanticIdentityEqual marker.identity identity = true) ↔
        ∃ entry ∈ table, semanticIdentityEqual entry identity = true := by
    intro identity
    constructor
    · rintro ⟨marker, hin, hsame⟩
      obtain ⟨k, -, entry, hentry, rfl⟩ := Interning.mem_numbered hin
      exact ⟨entry, hentry, hsame⟩
    · rintro ⟨entry, hentry, hsame⟩
      obtain ⟨k, hk⟩ := Interning.exists_numbered nominalMarker hentry
      exact ⟨_, hk, hsame⟩
  have hdecode : ∀ marker ∈ Interning.numbered nominalMarker table, marker.reference = true ∧
      1025 ≤ genericTypeMarkerIndex marker.start marker.stop ∧
        genericTypeMarkerIndex marker.start marker.stop ≤ 2048 := by
    intro marker hin
    obtain ⟨k, hk, entry, -, rfl⟩ := Interning.mem_numbered hin
    have hlt : k < 1024 := Nat.lt_of_lt_of_le hk htable.length_le
    rw [genericTypeMarkerIndex_marker hlt]
    exact ⟨rfl, by omega, by omega⟩
  have hdifferent : (Interning.numbered nominalMarker table).Pairwise fun a b =>
      semanticIdentityEqual a.identity b.identity = false ∧ (a.start, a.stop) ≠ (b.start, b.stop) := by
    refine Interning.pairwise_numbered htable.different ?_
    intro j k a b hjk hk hsame
    refine ⟨(semanticIdentityEqual_comm b a).trans hsame, ?_⟩
    intro hspan
    have hstart := congrArg Prod.fst hspan
    have hroom := htable.length_le
    simp only [nominalMarker] at hstart
    omega
  refine ⟨?_, hdifferent, ?_, ?_, ?_⟩
  · intro marker hin
    obtain ⟨k, -, entry, hentry, heq⟩ := Interning.mem_numbered hin
    refine ⟨?_, hdecode marker hin⟩
    rw [heq]
    rcases hmem entry hentry with hnil | hkey
    · cases hnil
    · exact (hscanned entry).mp ⟨hkey, htable.fit entry hentry⟩
  · constructor
    · intro hall chosen hchosen hpairwise
      refine hcovers.mp ?_ chosen (fun key hkey => (hscanned key).mpr (hchosen key hkey)) ?_
      · intro key hkey hvalid
        exact (hmarker key).mp (hall key ((hscanned key).mp ⟨hkey, hvalid⟩))
      · exact hpairwise.imp fun {a b} hab => (semanticIdentityEqual_comm b a).trans hab
    · intro hfew identity hoccurs
      obtain ⟨hkey, hvalid⟩ := (hscanned identity).mpr hoccurs
      refine (hmarker identity).mpr (hcovers.mpr ?_ identity hkey hvalid)
      intro chosen hchosen hdiff
      refine hfew chosen (fun key hin => (hscanned key).mp (hchosen key hin)) ?_
      exact hdiff.imp fun {a b} hab => (semanticIdentityEqual_comm a b).trans hab
  · intro identity hoccurs
    obtain ⟨hkey, hvalid⟩ := (hscanned identity).mpr hoccurs
    rcases hinterned identity hkey hvalid with hcovered | hfull
    · exact .inl ((hmarker identity).mpr hcovered)
    · exact .inr (Nat.le_antisymm (hlength ▸ htable.length_le) (hlength ▸ hfull))
  · intro nominalItem _ item _ marker hin hsame start stop
    refine nominalSemanticSpan_marker (hlength ▸ htable.length_le) ?_ (hdifferent.imp fun h => h.1) hin hsame _ start stop
    intro other hother
    exact ⟨(hdecode other hother).1, (hdecode other hother).2.1⟩

end Projects

/-! ## More identities than numbers -/

/-- The letters of the alphabet, upper case and then lower case. -/
def letters : View :=
  (List.range 26).map (fun k => UInt8.ofNat (65 + k)) ++ (List.range 26).map fun k => UInt8.ofNat (97 + k)

/-- 33 sources of one page. -/
def crowdedInput : Input where
  sources := (List.range 33).map fun k =>
    { sourceId := [UInt8.ofNat (65 + k)], sourcePath := [UInt8.ofNat (65 + k)], pageStart := k, pageCount := 1
      stride := 64, total := 52 }
  flatPages := List.replicate 33 letters

/-- An enum with a letter as its name. -/
def letterEnum (letter : Nat) : EnumDecl where
  ok := true
  errStart := 0
  errStop := 0
  nameStart := letter
  nameStop := letter + 1
  variants := []
  declStart := letter
  declStop := letter + 1
  cursor := letter + 1

/-- A module with a letter as its name and 32 enums. -/
def crowdedModule (index : Nat) : ParsedModule where
  sourceId := [UInt8.ofNat (65 + index)]
  sourcePath := [UInt8.ofNat (65 + index)]
  sourceIndex := index
  unit :=
    { ok := true, errStart := 0, errStop := 0, header := ⟨0, 0, 0, 0, 0, index, index + 1, 0, 8⟩, uses := [], records := []
      enums := (List.range 32).map letterEnum, fns := [], cursor := 0 }

def crowdedModules : List ParsedModule := (List.range 33).map crowdedModule

theorem moduleSource_crowdedInput : ∀ index < 33, moduleSource crowdedInput index = ⟨[letters], 64, 52⟩ := by
  intro index hindex
  have hsource : crowdedInput.sources[index]? = some
      { sourceId := [UInt8.ofNat (65 + index)], sourcePath := [UInt8.ofNat (65 + index)], pageStart := index
        pageCount := 1, stride := 64, total := 52 } := by
    rw [crowdedInput, List.getElem?_map, List.getElem?_range hindex]
    rfl
  have hpages : crowdedInput.flatPages.length = 33 := rfl
  have htaken : ((crowdedInput.flatPages.drop index).take 1) = [letters] := by
    show ((List.replicate 33 letters).drop index).take 1 = [letters]
    rw [List.drop_replicate, List.take_replicate, Nat.min_eq_left (by omega)]
    rfl
  rw [moduleSource, modulePages, moduleStride, moduleTotal, hsource]
  dsimp only
  rw [hpages, htaken, if_neg (by omega), if_neg (by omega)]

/-- A letter stands for itself in an identity. -/
theorem escaped_letters : ∀ p < 33, (spanBytes ⟨[letters], 64, 52⟩ p (p + 1)).flatMap escaped =
    [UInt8.ofNat (if p < 26 then 65 + p else 71 + p)] := by
  decide

theorem letters_injective : ∀ p < 33, ∀ q < 33, UInt8.ofNat (if p < 26 then 65 + p else 71 + p) =
    UInt8.ofNat (if q < 26 then 65 + q else 71 + q) → p = q := by
  decide

/-- The identity of an enum of the crowded modules. -/
def crowdedIdentity (place : Nat × Nat) : SemanticIdentity :=
  canonicalFiniteTypeIdentity ⟨[letters], 64, 52⟩ place.1 (place.1 + 1) place.2 (place.2 + 1)

theorem crowdedIdentity_spells {place : Nat × Nat} (hmodule : place.1 < 33) (hname : place.2 < 33) :
    (crowdedIdentity place).valid = true ∧ (crowdedIdentity place).contents =
      finiteTypeBytes ⟨[letters], 64, 52⟩ place.1 (place.1 + 1) place.2 (place.2 + 1) := by
  obtain ⟨hvalid, hbytes⟩ := @canonicalFiniteTypeIdentity_spells ⟨[letters], 64, 52⟩ place.1 (place.1 + 1) place.2
    (place.2 + 1) ⟨Nat.lt_succ_self _, by show place.1 + 1 ≤ 52; omega⟩
      ⟨Nat.lt_succ_self _, by show place.2 + 1 ≤ 52; omega⟩
  have hroom := hvalid.mpr (by
    rw [finiteTypeBytes, escaped_letters _ hmodule, escaped_letters _ hname]
    simp)
  exact ⟨hroom, (hbytes hroom).2⟩

/-- Two enums of the crowded modules are not the same. -/
theorem crowdedIdentity_different {a b : Nat × Nat} (ha : a.1 < 33 ∧ a.2 < 33) (hb : b.1 < 33 ∧ b.2 < 33) (hne : a ≠ b) :
    semanticIdentityEqual (crowdedIdentity a) (crowdedIdentity b) = false := by
  by_contra hsame
  obtain ⟨-, -, -, hcontents⟩ := semanticIdentityEqual_iff.mp (by simpa using hsame)
  rw [(crowdedIdentity_spells ha.1 ha.2).2, (crowdedIdentity_spells hb.1 hb.2).2, finiteTypeBytes, finiteTypeBytes,
    escaped_letters _ ha.1, escaped_letters _ ha.2, escaped_letters _ hb.1, escaped_letters _ hb.2] at hcontents
  simp only [List.cons_append, List.nil_append, List.cons.injEq, and_true, true_and] at hcontents
  exact hne (Prod.ext (letters_injective _ ha.1 _ hb.1 hcontents.1) (letters_injective _ ha.2 _ hb.2 hcontents.2))

/-- Every enum of the crowded modules occurs. -/
theorem crowdedIdentity_occurs {place : Nat × Nat} (hmodule : place.1 < 33) (hname : place.2 < 32) :
    Occurs (projectNominalModules crowdedInput crowdedModules) (crowdedIdentity place) := by
  have hall : crowdedModules.take crowdedInput.sources.length = crowdedModules := rfl
  have hfacts : nominalFacts crowdedInput (collectLocalNominalModules crowdedInput crowdedModules) place.1 =
      collectLocalNominalModuleOne crowdedInput (crowdedModule place.1) := by
    refine @nominalFacts_eq crowdedInput crowdedModules (crowdedModule place.1) ?_ ?_
    · rw [hall]
      intro a ha b hb hindex
      obtain ⟨i, -, rfl⟩ := List.mem_map.mp ha
      obtain ⟨j, -, rfl⟩ := List.mem_map.mp hb
      exact congrArg crowdedModule hindex
    · rw [hall]
      exact List.mem_map.mpr ⟨place.1, List.mem_range.mpr hmodule, rfl⟩
  have hlocals : ∃ item ∈ (nominalFacts crowdedInput (collectLocalNominalModules crowdedInput crowdedModules)
      place.1).locals, item.identity = crowdedIdentity place := by
    rw [hfacts, collectLocalNominalModuleOne]
    dsimp only
    rw [localNominalTypeIdentities_enums rfl (by
      show ((List.range 32).map letterEnum).length ≤ 1024
      decide)]
    refine ⟨_, List.mem_reverse.mpr (List.mem_map.mpr ⟨letterEnum place.2,
      List.mem_map.mpr ⟨place.2, List.mem_range.mpr hname, rfl⟩, rfl⟩), ?_⟩
    rw [show (crowdedModule place.1).sourceIndex = place.1 from rfl, moduleSource_crowdedInput _ hmodule]
    rfl
  obtain ⟨item, hitem, hidentity⟩ := hlocals
  refine (mem_scannedIdentities (by decide)).mp ⟨?_, (crowdedIdentity_spells hmodule (by omega)).1⟩
  rw [← hidentity]
  exact scanned_nominalFacts (by decide) hitem

theorem projectNominalMarkers_exact_crowded :
    MarksIdentities (projectNominalModules crowdedInput crowdedModules)
      (projectNominalMarkers (projectNominalModules crowdedInput crowdedModules)) :=
  projectNominalMarkers_exact crowdedInput (by decide) crowdedModules

/-- **1056 enums.** The numbers do not suffice for the identities of the crowded modules. -/
theorem not_projectNominalMarkers_all : ¬ ∀ (inp : Input) (modules : List ParsedModule), inp.sources.length ≤ 64 →
    ∀ identity, Occurs (projectNominalModules inp modules) identity →
      ∃ marker ∈ projectNominalMarkers (projectNominalModules inp modules),
        semanticIdentityEqual marker.identity identity = true := by
  intro hall
  have hmarked := hall crowdedInput crowdedModules (by decide)
  have hplace : ∀ place ∈ List.range 33 ×ˢ List.range 32, place.1 < 33 ∧ place.2 < 32 := by
    rintro ⟨index, letter⟩ hmem
    have hin := List.mem_product.mp hmem
    exact ⟨List.mem_range.mp hin.1, List.mem_range.mp hin.2⟩
  have hdifferent : Interning.Different semanticIdentityEqual
      ((List.range 33 ×ˢ List.range 32).map crowdedIdentity) := by
    refine List.pairwise_map.mpr ?_
    have hnodup : (List.range 33 ×ˢ List.range 32).Nodup := List.nodup_range.product List.nodup_range
    refine List.Pairwise.imp_of_mem ?_ hnodup
    intro a b ha hb hne
    obtain ⟨ha₁, ha₂⟩ := hplace a ha
    obtain ⟨hb₁, hb₂⟩ := hplace b hb
    exact crowdedIdentity_different ⟨hb₁, by omega⟩ ⟨ha₁, by omega⟩ (Ne.symm hne)
  have hcover : ∀ key ∈ (List.range 33 ×ˢ List.range 32).map crowdedIdentity,
      ∃ entry ∈ (projectNominalMarkers (projectNominalModules crowdedInput crowdedModules)).map
        NominalTypeIdentity.identity, semanticIdentityEqual entry key = true := by
    intro identity hmem
    obtain ⟨place, hin, rfl⟩ := List.mem_map.mp hmem
    obtain ⟨marker, hmarker, hsame⟩ := hmarked _ (crowdedIdentity_occurs (hplace place hin).1 (hplace place hin).2)
    exact ⟨marker.identity, List.mem_map_of_mem hmarker, hsame⟩
  have hle := @Interning.Different.length_le _ semanticIdentityEqual _ (fun _ _ => semanticIdentityEqual_symm)
    (fun _ _ _ => semanticIdentityEqual_trans) _ hdifferent hcover
  have hroom := length_projectNominalMarkers_le (projectNominalModules crowdedInput crowdedModules)
  rw [List.length_map, List.length_map, List.length_product, List.length_range, List.length_range] at hle
  omega

end MncsCompiler.Project
