import MncsCompiler.Lib.Memo
import MncsCompiler.Project.Transport

/-!
# `Project.Imports` — signatures of imported functions

For every call site of a module and every use whose prefix begins the name of the call, the signature of the member is
brought over from the provider. Two caches save work: one holds the signatures of each provider, the other the last
signatures that were brought over, at most 64; it starts anew when it is full. Neither changes what comes out.
-/

namespace MncsCompiler.Project

open BoundedLoop Decl

/-! ## Caches -/

structure ProviderSignatureFacts where
  sourceIndex : Nat
  signatures : List Sig
  nominals : List NominalTypeIdentity

structure ProviderSignatureLookupWalk where
  rest : List ProviderSignatureFacts
  targetIndex : Nat
  found : Bool
  signatures : List Sig
  nominals : List NominalTypeIdentity

structure ProviderSignatureLookup where
  found : Bool
  signatures : List Sig
  nominals : List NominalTypeIdentity

structure ResolvedImportFact where
  memberStart : Nat
  memberStop : Nat
  providerSourceIndex : Nat
  signature : Sig

structure ResolvedImportFactCache where
  facts : List ResolvedImportFact
  count : Nat

structure ResolvedImportLookupWalk where
  rest : List ResolvedImportFact
  memberStart : Nat
  memberStop : Nat
  providerSourceIndex : Nat
  found : Bool
  signature : Sig

structure ResolvedImportLookup where
  found : Bool
  signature : Sig

def providerSignatureLookupItem (st : ProviderSignatureLookupWalk) (item : ProviderSignatureFacts)
    (rest : List ProviderSignatureFacts) : ProviderSignatureLookupWalk :=
  if item.sourceIndex = st.targetIndex then
    { rest := rest, targetIndex := st.targetIndex, found := true, signatures := item.signatures
      nominals := item.nominals }
  else { st with rest := rest }

def providerSignatureLookupStep (st : ProviderSignatureLookupWalk) : ProviderSignatureLookupWalk :=
  match st.rest with
  | [] => st
  | item :: rest => providerSignatureLookupItem st item rest

def providerSignatureLookup (facts : List ProviderSignatureFacts) (targetIndex : Nat) : ProviderSignatureLookup :=
  let initial : ProviderSignatureLookupWalk :=
    { rest := facts, targetIndex := targetIndex, found := false, signatures := [], nominals := [] }
  (iterate (fun _ (st : ProviderSignatureLookupWalk) =>
        if st.found || st.rest.isEmpty then
          .ret { found := st.found, signatures := st.signatures, nominals := st.nominals }
        else .next (providerSignatureLookupStep st))
      0 64 initial).after fun st =>
    { found := st.found, signatures := st.signatures, nominals := st.nominals }

/-- The position of the member behind the prefix of a use and a dot. -/
def memberStart (call : CallSite) (usage : UseDecl) : Nat :=
  let prefixStart := if usage.hasAlias then usage.aliasStart else usage.moduleStart
  let prefixStop := if usage.hasAlias then usage.aliasStop else usage.moduleStop
  call.start + (prefixStop - prefixStart) + 1

def emptySignature : Sig where
  start := 0
  stop := 0
  params := []
  nparams := 0
  genericBounds := []
  result := .tPoison
  fx := []
  rawCapabilities := []
  effects := []
  capabilities := []
  identity := invalidSemanticIdentity

def resolvedImportSignatureLookupItem (src : Source) (st : ResolvedImportLookupWalk) (fact : ResolvedImportFact)
    (rest : List ResolvedImportFact) : ResolvedImportLookupWalk :=
  if fact.providerSourceIndex = st.providerSourceIndex &&
      spansEqual src st.memberStart st.memberStop fact.memberStart fact.memberStop then
    { st with rest := rest, found := true, signature := fact.signature }
  else { st with rest := rest }

def resolvedImportSignatureLookupStep (src : Source) (st : ResolvedImportLookupWalk) : ResolvedImportLookupWalk :=
  match st.rest with
  | [] => st
  | fact :: rest => resolvedImportSignatureLookupItem src st fact rest

def resolvedImportSignatureLookupChunk (src : Source) (initial : ResolvedImportLookupWalk) : ResolvedImportLookupWalk :=
  (iterate (fun _ (st : ResolvedImportLookupWalk) =>
        if st.found || st.rest.isEmpty then .ret st else .next (resolvedImportSignatureLookupStep src st))
      0 1024 initial).after id

def resolvedImportSignatureLookup (inp : Input) (current : ParsedModule) (call : CallSite) (usage : UseDecl)
    (providerSourceIndex : Nat) (facts : ResolvedImportFactCache) : ResolvedImportLookup :=
  let src := moduleSource inp current.sourceIndex
  let initial : ResolvedImportLookupWalk :=
    { rest := facts.facts, memberStart := memberStart call usage, memberStop := call.stop
      providerSourceIndex := providerSourceIndex, found := false, signature := emptySignature }
  (iterate (fun _ (st : ResolvedImportLookupWalk) =>
        if st.found || st.rest.isEmpty then .ret { found := st.found, signature := st.signature }
        else .next (resolvedImportSignatureLookupChunk src st))
      0 64 initial).after fun st => { found := st.found, signature := st.signature }

def resolvedImportFactPushBounded (fact : ResolvedImportFact) (cache : ResolvedImportFactCache)
    : ResolvedImportFactCache :=
  if cache.count ≥ 64 then { facts := [fact], count := 1 }
  else { facts := fact :: cache.facts, count := cache.count + 1 }

def reuseResolvedImportSignature (call : CallSite) (cached : Sig) (acc : List Sig) : List Sig :=
  let reused : Sig := { cached with start := call.start, stop := call.stop }
  reused :: acc

/-! ## Exports of a provider -/

structure ExportSignatureResult where
  acc : List Sig
  resolved : ResolvedImportFactCache

structure ExportSigWalk where
  rest : List Sig
  caller : ParsedModule
  target : ParsedModule
  memberStart : Nat
  memberStop : Nat
  call : CallSite
  callerNominals : List NominalTypeIdentity
  targetNominals : List NominalTypeIdentity
  acc : List Sig
  resolved : ResolvedImportFactCache

def signatureFromExport (inp : Input) (st : ExportSigWalk) (candidate : Sig) (rest : List Sig) : ExportSigWalk :=
  if !spansEqualBetween inp st.caller.sourceIndex st.memberStart st.memberStop st.target.sourceIndex candidate.start
      candidate.stop then
    { st with rest := rest }
  else
    let transported :=
      transportSignature inp st.caller.sourceIndex st.target.sourceIndex candidate st.targetNominals st.callerNominals
    if !transported.ok then { st with rest := rest }
    else
      let sig : Sig :=
        { start := st.call.start, stop := st.call.stop, params := transported.params, nparams := candidate.nparams
          genericBounds := candidate.genericBounds, result := transported.result, fx := [], rawCapabilities := []
          effects := candidate.effects, capabilities := candidate.capabilities, identity := candidate.identity }
      let fact : ResolvedImportFact :=
        { memberStart := st.memberStart, memberStop := st.memberStop, providerSourceIndex := st.target.sourceIndex
          signature := sig }
      let resolved := resolvedImportFactPushBounded fact st.resolved
      { st with rest := [], acc := sig :: st.acc, resolved := resolved }

def signaturesFromExport (inp : Input) (st : ExportSigWalk) : ExportSigWalk :=
  match st.rest with
  | [] => st
  | signature :: rest => signatureFromExport inp st signature rest

def signaturesFromExportChunk (inp : Input) (initial : ExportSigWalk) : ExportSigWalk :=
  (iterate (fun _ (st : ExportSigWalk) =>
        if st.rest.isEmpty then .ret st else .next (signaturesFromExport inp st))
      0 1024 initial).after id

def signaturesFromExports (inp : Input) (caller target : ParsedModule) (usage : UseDecl) (call : CallSite)
    (targetSigs acc : List Sig) (callerNominals targetNominals : List NominalTypeIdentity)
    (resolved : ResolvedImportFactCache) : ExportSignatureResult :=
  let initial : ExportSigWalk :=
    { rest := targetSigs, caller := caller, target := target, memberStart := memberStart call usage
      memberStop := call.stop, call := call, callerNominals := callerNominals, targetNominals := targetNominals
      acc := acc, resolved := resolved }
  (iterate (fun _ (st : ExportSigWalk) =>
        if st.rest.isEmpty then .ret { acc := st.acc, resolved := st.resolved }
        else .next (signaturesFromExportChunk inp st))
      0 64 initial).after fun st => { acc := st.acc, resolved := st.resolved }

/-! ## Providers -/

structure TargetSignatureResult where
  acc : List Sig
  providerFacts : List ProviderSignatureFacts
  resolved : ResolvedImportFactCache

structure TargetSigWalk where
  rest : List ParsedModule
  modules : List NominalModule
  targetIndex : Nat
  current : ParsedModule
  usage : UseDecl
  call : CallSite
  acc : List Sig
  callerNominals : List NominalTypeIdentity
  providerFacts : List ProviderSignatureFacts
  resolved : ResolvedImportFactCache

def signaturesFromCachedProvider (inp : Input) (st : TargetSigWalk) (target : ParsedModule)
    (cached : ProviderSignatureLookup) : TargetSigWalk :=
  let exported :=
    signaturesFromExports inp st.current target st.usage st.call cached.signatures st.acc st.callerNominals
      cached.nominals st.resolved
  { st with rest := [], acc := exported.acc, resolved := exported.resolved }

def buildSignaturesFromCandidate (inp : Input) (st : TargetSigWalk) (target : ParsedModule) (rest : List ParsedModule)
    : TargetSigWalk :=
  if target.sourceIndex ≠ st.targetIndex then { st with rest := rest }
  else
    let cached := providerSignatureLookup st.providerFacts target.sourceIndex
    if cached.found then signaturesFromCachedProvider inp st target cached
    else
      let src := moduleSource inp target.sourceIndex
      let targetFacts := nominalModuleByIndex inp st.modules target.sourceIndex
      let targetNominals := targetFacts.facts.resolved
      let sigs := collectSigtab src target.unit.fns target.unit.records target.unit.enums targetNominals
      let ownedSigs := bindLocalCallableIdentities src target.unit.header sigs.tab
      let exported :=
        signaturesFromExports inp st.current target st.usage st.call ownedSigs st.acc st.callerNominals targetNominals
          st.resolved
      let facts : ProviderSignatureFacts :=
        { sourceIndex := target.sourceIndex, signatures := ownedSigs, nominals := targetNominals }
      { st with
        rest := [], acc := exported.acc, providerFacts := facts :: st.providerFacts, resolved := exported.resolved }

def signaturesFromTargetStep (inp : Input) (st : TargetSigWalk) : TargetSigWalk :=
  match st.rest with
  | [] => st
  | target :: rest => buildSignaturesFromCandidate inp st target rest

def signaturesFromTarget (inp : Input) (all : List ParsedModule) (nominalModules : List NominalModule)
    (current : ParsedModule) (targetIndex : Nat) (usage : UseDecl) (call : CallSite) (acc : List Sig)
    (callerNominals : List NominalTypeIdentity) (providerFacts : List ProviderSignatureFacts)
    (resolved : ResolvedImportFactCache) : TargetSignatureResult :=
  let st := (signaturesFromTargetStep inp)^[inp.sources.length]
    { rest := all, modules := nominalModules, targetIndex := targetIndex, current := current, usage := usage
      call := call, acc := acc, callerNominals := callerNominals, providerFacts := providerFacts
      resolved := resolved }
  { acc := st.acc, providerFacts := st.providerFacts, resolved := st.resolved }

/-! ## Uses and calls -/

structure UseSignatureResult where
  acc : List Sig
  providerFacts : List ProviderSignatureFacts
  resolved : ResolvedImportFactCache

structure UseSigWalk where
  rest : List UseDecl
  call : CallSite
  acc : List Sig
  nominals : List NominalTypeIdentity
  modules : List NominalModule
  providerFacts : List ProviderSignatureFacts
  resolved : ResolvedImportFactCache

structure CallSigWalk where
  rest : List CallSite
  acc : List Sig
  nominals : List NominalTypeIdentity
  modules : List NominalModule
  providerFacts : List ProviderSignatureFacts
  resolved : ResolvedImportFactCache

def callHasImportPrefix (inp : Input) (index : Nat) (call : CallSite) (usage : UseDecl) : Bool :=
  let src := moduleSource inp index
  let prefixStart := if usage.hasAlias then usage.aliasStart else usage.moduleStart
  let prefixStop := if usage.hasAlias then usage.aliasStop else usage.moduleStop
  if call.stop ≤ call.start || prefixStop ≤ prefixStart then false
  else if call.stop - call.start ≤ prefixStop - prefixStart + 1 then false
  else if !spansEqual src call.start (call.start + (prefixStop - prefixStart)) prefixStart prefixStop then false
  else src.byteAt (call.start + (prefixStop - prefixStart)) = 46

def signaturesFromOneUse (inp : Input) (all : List ParsedModule) (current : ParsedModule) (st : UseSigWalk)
    (usage : UseDecl) (rest : List UseDecl) : UseSigWalk :=
  if !callHasImportPrefix inp current.sourceIndex st.call usage then { st with rest := rest }
  else
    let target := findImportTarget inp all current usage
    if !target.found then { st with rest := rest }
    else
      let cached := resolvedImportSignatureLookup inp current st.call usage target.index st.resolved
      if cached.found then
        let reused := reuseResolvedImportSignature st.call cached.signature st.acc
        { st with rest := rest, acc := reused }
      else
        let sigs :=
          signaturesFromTarget inp all st.modules current target.index usage st.call st.acc st.nominals
            st.providerFacts st.resolved
        { st with rest := rest, acc := sigs.acc, providerFacts := sigs.providerFacts, resolved := sigs.resolved }

def signaturesFromUse (inp : Input) (all : List ParsedModule) (current : ParsedModule) (st : UseSigWalk) : UseSigWalk :=
  match st.rest with
  | [] => st
  | usage :: rest => signaturesFromOneUse inp all current st usage rest

def signaturesFromUses (inp : Input) (all : List ParsedModule) (current : ParsedModule) (uses : List UseDecl)
    (call : CallSite) (acc : List Sig) (nominals : List NominalTypeIdentity) (nominalModules : List NominalModule)
    (providerFacts : List ProviderSignatureFacts) (resolved : ResolvedImportFactCache) : UseSignatureResult :=
  (iterate (fun _ (st : UseSigWalk) =>
        if st.rest.isEmpty then
          .ret { acc := st.acc, providerFacts := st.providerFacts, resolved := st.resolved }
        else .next (signaturesFromUse inp all current st))
      0 1024
      { rest := uses, call := call, acc := acc, nominals := nominals, modules := nominalModules
        providerFacts := providerFacts, resolved := resolved }).after fun st =>
    { acc := st.acc, providerFacts := st.providerFacts, resolved := st.resolved }

def importedSignatureForOneCall (inp : Input) (current : ParsedModule) (all : List ParsedModule) (call : CallSite)
    (rest : List CallSite) (st : CallSigWalk) : CallSigWalk :=
  let uses := current.unit.uses
  let found :=
    signaturesFromUses inp all current uses call st.acc st.nominals st.modules st.providerFacts st.resolved
  { st with rest := rest, acc := found.acc, providerFacts := found.providerFacts, resolved := found.resolved }

def importedSignatureForCall (inp : Input) (current : ParsedModule) (all : List ParsedModule) (st : CallSigWalk)
    : CallSigWalk :=
  match st.rest with
  | [] => st
  | call :: rest => importedSignatureForOneCall inp current all call rest st

def importedSignatureChunk (inp : Input) (current : ParsedModule) (all : List ParsedModule) (initial : CallSigWalk)
    : CallSigWalk :=
  (iterate (fun _ (st : CallSigWalk) =>
        if st.rest.isEmpty then .ret st else .next (importedSignatureForCall inp current all st))
      0 1024 initial).after id

def importedSignatures (inp : Input) (current : ParsedModule) (all : List ParsedModule)
    (nominals : List NominalTypeIdentity) (nominalModules : List NominalModule) : List Sig :=
  let calls := collectCallSites current.unit.fns
  let initial : CallSigWalk :=
    { rest := calls, acc := [], nominals := nominals, modules := nominalModules, providerFacts := []
      resolved := { facts := [], count := 0 } }
  (iterate (fun _ (st : CallSigWalk) =>
        if st.rest.isEmpty then .ret st.acc else .next (importedSignatureChunk inp current all st))
      0 64 initial).after CallSigWalk.acc

/-! ## Without caches -/

section Spec

variable (inp : Input) (current : ParsedModule) (all : List ParsedModule) (nominals : List NominalTypeIdentity)
  (modules : List NominalModule)

/-- The module with a source index. -/
def providerModule (targetIndex : Nat) : Option ParsedModule :=
  (all.take inp.sources.length).find? fun target => target.sourceIndex = targetIndex

/-- What a provider can name. -/
def providerNominals (target : ParsedModule) : List NominalTypeIdentity :=
  (nominalFacts inp modules target.sourceIndex).resolved

/-- The signatures of a provider, in the order of their declarations. -/
def providerSignatures (target : ParsedModule) : List Sig :=
  bindLocalCallableIdentities (moduleSource inp target.sourceIndex) target.unit.header
    (collectSigtab (moduleSource inp target.sourceIndex) target.unit.fns target.unit.records target.unit.enums
      (providerNominals inp modules target)).tab

/-- A signature of a provider that has the name of a member, brought over to a call. -/
def broughtOver (target : ParsedModule) (targetNominals : List NominalTypeIdentity) (call : CallSite) (start : Nat)
    (candidate : Sig) : Option Sig :=
  if !spansEqualBetween inp current.sourceIndex start call.stop target.sourceIndex candidate.start candidate.stop then
    none
  else
    let transported :=
      transportSignature inp current.sourceIndex target.sourceIndex candidate targetNominals nominals
    if !transported.ok then none
    else
      some
        { start := call.start, stop := call.stop, params := transported.params, nparams := candidate.nparams
          genericBounds := candidate.genericBounds, result := transported.result, fx := [], rawCapabilities := []
          effects := candidate.effects, capabilities := candidate.capabilities, identity := candidate.identity }

/-- What the provider with an index gives a call: the first signature of the name that can be brought over. -/
def providedSignature (call : CallSite) (start targetIndex : Nat) : Option Sig :=
  (providerModule inp all targetIndex).bind fun target =>
    (providerSignatures inp modules target).findSome?
      (broughtOver inp current nominals target (providerNominals inp modules target) call start)

/-- What a use gives a call when `provide` says what a provider gives it. -/
def importedWith (provide : CallSite → Nat → Nat → Option Sig) (call : CallSite) (usage : UseDecl) : Option Sig :=
  if !callHasImportPrefix inp current.sourceIndex call usage then none
  else if !(findImportTarget inp all current usage).found then none
  else provide call (memberStart call usage) (findImportTarget inp all current usage).index

/-- What a use gives a call. -/
def importedSignature (call : CallSite) (usage : UseDecl) : Option Sig :=
  importedWith inp current all (providedSignature inp current all nominals modules) call usage

/-- The imported signatures, each made from the table of its provider, the last one first. -/
def uncachedSignatures : List Sig :=
  ((collectCallSites current.unit.fns).flatMap fun call =>
    (current.unit.uses.take 1024).filterMap (importedSignature inp current all nominals modules call)).reverse

end Spec

section Exports

variable {inp : Input} {current : ParsedModule} {all : List ParsedModule} {nominals : List NominalTypeIdentity}
  {modules : List NominalModule}

/-- The fact that an import leaves in the cache. -/
def importFact (target : ParsedModule) (call : CallSite) (start : Nat) (sig : Sig) : ResolvedImportFact :=
  { memberStart := start, memberStop := call.stop, providerSourceIndex := target.sourceIndex, signature := sig }

section Walk

variable {target : ParsedModule} {call : CallSite} {start : Nat} {acc : List Sig}
  {targetNominals : List NominalTypeIdentity} {resolved : ResolvedImportFactCache}

/-- The walk over a table before it has found anything. -/
def exportSeed (current : ParsedModule) (nominals : List NominalTypeIdentity) (target : ParsedModule) (call : CallSite)
    (start : Nat) (targetNominals : List NominalTypeIdentity) (acc : List Sig) (resolved : ResolvedImportFactCache)
    (rest : List Sig) : ExportSigWalk :=
  { rest := rest, caller := current, target := target, memberStart := start, memberStop := call.stop, call := call
    callerNominals := nominals, targetNominals := targetNominals, acc := acc, resolved := resolved }

/-- The walk when it has taken up a signature. -/
def exportPicked (current : ParsedModule) (nominals : List NominalTypeIdentity) (target : ParsedModule) (call : CallSite)
    (start : Nat) (targetNominals : List NominalTypeIdentity) (acc : List Sig) (resolved : ResolvedImportFactCache)
    (sig : Sig) : ExportSigWalk :=
  exportSeed current nominals target call start targetNominals (sig :: acc)
    (resolvedImportFactPushBounded (importFact target call start sig) resolved) []

theorem signaturesFromExport_cons (candidate : Sig) (rest : List Sig) :
    signaturesFromExport inp
        (exportSeed current nominals target call start targetNominals acc resolved (candidate :: rest)) =
      ((broughtOver inp current nominals target targetNominals call start candidate).map
          (exportPicked current nominals target call start targetNominals acc resolved)).getD
        (exportSeed current nominals target call start targetNominals acc resolved rest) := by
  show signatureFromExport inp
    (exportSeed current nominals target call start targetNominals acc resolved (candidate :: rest)) candidate rest = _
  unfold signatureFromExport broughtOver exportSeed
  dsimp only
  generalize spansEqualBetween inp current.sourceIndex start call.stop target.sourceIndex candidate.start
    candidate.stop = named
  generalize transportSignature inp current.sourceIndex target.sourceIndex candidate targetNominals nominals =
    transported
  cases named with
  | false => rfl
  | true => cases transported.ok <;> simp [exportPicked, exportSeed, importFact]

/-- **The walk over a table** takes up what the table gives, and remembers it. -/
theorem signaturesFromExports_eq {usage : UseDecl} {targetSigs : List Sig} (hlength : targetSigs.length ≤ 1024 * 64) :
    signaturesFromExports inp current target usage call targetSigs acc nominals targetNominals resolved =
      match targetSigs.findSome? (broughtOver inp current nominals target targetNominals call
        (memberStart call usage)) with
      | none => { acc := acc, resolved := resolved }
      | some sig =>
        { acc := sig :: acc
          resolved := resolvedImportFactPushBounded (importFact target call (memberStart call usage) sig) resolved } := by
  have hfix : ∀ st : ExportSigWalk, st.rest.isEmpty = true → signaturesFromExport inp st = st := by
    intro st hst
    rw [signaturesFromExport, List.isEmpty_iff.mp hst]
  have hloop := @iterate_chunks _ _ (fun st => st.rest.isEmpty) (signaturesFromExport inp)
    (signaturesFromExportChunk inp) (fun st => (⟨st.acc, st.resolved⟩ : ExportSignatureResult)) hfix 1024 (fun _ => rfl) 64
    (exportSeed current nominals target call (memberStart call usage) targetNominals acc resolved targetSigs)
  have hrun := iterate_first (signaturesFromExport inp)
    (exportSeed current nominals target call (memberStart call usage) targetNominals acc resolved)
    (Option.map (exportPicked current nominals target call (memberStart call usage) targetNominals acc resolved) ∘
      broughtOver inp current nominals target targetNominals call (memberStart call usage))
    rfl signaturesFromExport_cons (by
      intro candidate st hst
      obtain ⟨sig, -, rfl⟩ := Option.map_eq_some_iff.mp hst
      rfl) (1024 * 64) targetSigs
  rw [List.take_of_length_le hlength, List.drop_of_length_le hlength, ← List.map_findSome?] at hrun
  rw [hrun] at hloop
  refine Eq.trans hloop ?_
  cases targetSigs.findSome? (broughtOver inp current nominals target targetNominals call (memberStart call usage)) <;>
    rfl

end Walk

/-! ## Sound caches -/

/-- A signature at a call. -/
def placed (call : CallSite) (sig : Sig) : Sig := { sig with start := call.start, stop := call.stop }

/-- A signature without its place. -/
def unplaced (sig : Sig) : Sig := { sig with start := 0, stop := 0 }

/-- The facts about providers are their tables. -/
def ProvidersSound (inp : Input) (all : List ParsedModule) (modules : List NominalModule)
    (facts : List ProviderSignatureFacts) : Prop :=
  ∀ fact ∈ facts, ∀ target, providerModule inp all fact.sourceIndex = some target →
    fact.signatures = providerSignatures inp modules target ∧ fact.nominals = providerNominals inp modules target

/-- A fact about an import answers a call whose member has the spelling that it keeps. -/
def hitsImport (inp : Input) (current : ParsedModule) (query : CallSite × Nat × Nat) (fact : ResolvedImportFact) : Prop :=
  fact.providerSourceIndex = query.2.2 ∧ spansEqual (moduleSource inp current.sourceIndex) query.2.1 query.1.stop
    fact.memberStart fact.memberStop = true

/-- The facts about imports answer as the providers do. -/
def ImportsSound (inp : Input) (current : ParsedModule) (all : List ParsedModule) (nominals : List NominalTypeIdentity)
    (modules : List NominalModule) (facts : List ResolvedImportFact) : Prop :=
  Memo.Sound (hitsImport inp current) (fun fact => some (unplaced fact.signature))
    (fun query => (providedSignature inp current all nominals modules query.1 query.2.1 query.2.2).map unplaced) facts

/-- The lookup of a provider before it has found anything. -/
def providerSeed (targetIndex : Nat) (rest : List ProviderSignatureFacts) : ProviderSignatureLookupWalk :=
  { rest := rest, targetIndex := targetIndex, found := false, signatures := [], nominals := [] }

theorem providerSignatureLookup_found {facts : List ProviderSignatureFacts} {targetIndex : Nat}
    (h : (providerSignatureLookup facts targetIndex).found = true) :
    ∃ fact ∈ facts, fact.sourceIndex = targetIndex ∧
      (providerSignatureLookup facts targetIndex).signatures = fact.signatures ∧
        (providerSignatureLookup facts targetIndex).nominals = fact.nominals := by
  have hloop : providerSignatureLookup facts targetIndex =
      (fun st : ProviderSignatureLookupWalk => (⟨st.found, st.signatures, st.nominals⟩ : ProviderSignatureLookup))
        ((settle (fun st => st.found || st.rest.isEmpty) providerSignatureLookupStep)^[64]
          (providerSeed targetIndex facts)) :=
    iterate_guard (fun _ _ => rfl) 0 64 _
  have hcons : ∀ fact rest, providerSignatureLookupStep (providerSeed targetIndex (fact :: rest)) =
        providerSeed targetIndex rest ∨
      ((providerSignatureLookupStep (providerSeed targetIndex (fact :: rest))).found = true ∧
        fact.sourceIndex = targetIndex ∧
        ((providerSignatureLookupStep (providerSeed targetIndex (fact :: rest))).signatures,
          (providerSignatureLookupStep (providerSeed targetIndex (fact :: rest))).nominals) =
            (fact.signatures, fact.nominals)) := by
    intro fact rest
    by_cases hindex : fact.sourceIndex = targetIndex
    · right
      have hstep : providerSignatureLookupStep (providerSeed targetIndex (fact :: rest)) =
          { rest := rest, targetIndex := targetIndex, found := true, signatures := fact.signatures
            nominals := fact.nominals } := if_pos hindex
      rw [hstep]
      exact ⟨rfl, hindex, rfl⟩
    · exact .inl (if_neg hindex)
  rw [hloop] at h ⊢
  dsimp only at h ⊢
  generalize 64 = n at h ⊢
  obtain ⟨fact, hfact, hindex, houtput⟩ := @Memo.iterate_lookup (List Sig × List NominalTypeIdentity)
    ProviderSignatureLookupWalk ProviderSignatureFacts (fun st => st.found || st.rest.isEmpty)
    providerSignatureLookupStep (providerSeed targetIndex) ProviderSignatureLookupWalk.found
    (fun st => (st.signatures, st.nominals)) (fun fact => fact.sourceIndex = targetIndex)
    (fun fact => (fact.signatures, fact.nominals)) (fun st hst => by rw [hst]; rfl) (fun _ => rfl) rfl (fun _ _ => rfl)
    hcons n facts h
  exact ⟨fact, hfact, hindex, congrArg Prod.fst houtput, congrArg Prod.snd houtput⟩

/-- The lookup of an import before it has found anything. -/
def importSeed (call : CallSite) (start targetIndex : Nat) (rest : List ResolvedImportFact) : ResolvedImportLookupWalk :=
  { rest := rest, memberStart := start, memberStop := call.stop, providerSourceIndex := targetIndex, found := false
    signature := emptySignature }

/-- `n` passes of the lookup. -/
theorem iterate_resolvedImportSignatureLookupStep (n : Nat) {call : CallSite} {start targetIndex : Nat}
    {facts : List ResolvedImportFact}
    (h : ((settle (fun st => st.found || st.rest.isEmpty)
      (resolvedImportSignatureLookupStep (moduleSource inp current.sourceIndex)))^[n]
        (importSeed call start targetIndex facts)).found = true) :
    ∃ fact ∈ facts, hitsImport inp current (call, start, targetIndex) fact ∧
      ((settle (fun st => st.found || st.rest.isEmpty)
        (resolvedImportSignatureLookupStep (moduleSource inp current.sourceIndex)))^[n]
          (importSeed call start targetIndex facts)).signature = fact.signature := by
  have hcons : ∀ fact rest, resolvedImportSignatureLookupStep (moduleSource inp current.sourceIndex)
        (importSeed call start targetIndex (fact :: rest)) = importSeed call start targetIndex rest ∨
      ((resolvedImportSignatureLookupStep (moduleSource inp current.sourceIndex)
          (importSeed call start targetIndex (fact :: rest))).found = true ∧
        hitsImport inp current (call, start, targetIndex) fact ∧
        (resolvedImportSignatureLookupStep (moduleSource inp current.sourceIndex)
          (importSeed call start targetIndex (fact :: rest))).signature = fact.signature) := by
    intro fact rest
    by_cases hhit : hitsImport inp current (call, start, targetIndex) fact
    · right
      have hstep : resolvedImportSignatureLookupStep (moduleSource inp current.sourceIndex)
          (importSeed call start targetIndex (fact :: rest)) =
            { importSeed call start targetIndex rest with found := true, signature := fact.signature } :=
        if_pos (by rw [Bool.and_eq_true, decide_eq_true_eq]; exact hhit)
      rw [hstep]
      exact ⟨rfl, hhit, rfl⟩
    · exact .inl (if_neg (by rw [Bool.and_eq_true, decide_eq_true_eq]; exact hhit))
  exact @Memo.iterate_lookup Sig ResolvedImportLookupWalk ResolvedImportFact (fun st => st.found || st.rest.isEmpty)
    (resolvedImportSignatureLookupStep (moduleSource inp current.sourceIndex)) (importSeed call start targetIndex)
    ResolvedImportLookupWalk.found ResolvedImportLookupWalk.signature
    (hitsImport inp current (call, start, targetIndex)) ResolvedImportFact.signature (fun st hst => by rw [hst]; rfl)
    (fun _ => rfl) rfl (fun _ _ => rfl) hcons n facts h

theorem resolvedImportSignatureLookup_found {call : CallSite} {usage : UseDecl} {targetIndex : Nat}
    {cache : ResolvedImportFactCache}
    (h : (resolvedImportSignatureLookup inp current call usage targetIndex cache).found = true) :
    ∃ fact ∈ cache.facts, hitsImport inp current (call, memberStart call usage, targetIndex) fact ∧
      (resolvedImportSignatureLookup inp current call usage targetIndex cache).signature = fact.signature := by
  have hloop : ∃ n, resolvedImportSignatureLookup inp current call usage targetIndex cache =
      (fun st : ResolvedImportLookupWalk => (⟨st.found, st.signature⟩ : ResolvedImportLookup))
        ((settle (fun st => st.found || st.rest.isEmpty)
          (resolvedImportSignatureLookupStep (moduleSource inp current.sourceIndex)))^[n]
            (importSeed call (memberStart call usage) targetIndex cache.facts)) :=
    ⟨_, iterate_chunks_settle (fun st : ResolvedImportLookupWalk => (⟨st.found, st.signature⟩ : ResolvedImportLookup))
      (fun _ => rfl) 64 _⟩
  obtain ⟨n, hn⟩ := hloop
  rw [hn] at h ⊢
  exact iterate_resolvedImportSignatureLookupStep n h

/-! ## Answers -/

/-- Members that are spelled alike name the same signatures. -/
theorem spansEqualBetween_congr {start stop start' stop' index a b : Nat} (hshort : stop - start ≤ 1024)
    (hsame : spansEqual (moduleSource inp current.sourceIndex) start stop start' stop' = true) :
    spansEqualBetween inp current.sourceIndex start stop index a b =
      spansEqualBetween inp current.sourceIndex start' stop' index a b := by
  obtain ⟨hle, hle', hlength, -⟩ := spansEqual_iff.mp hsame
  have hspelled : spelled inp current.sourceIndex start stop = spelled inp current.sourceIndex start' stop' :=
    (spansEqual_iff_spelling hle hle' hshort).mp hsame
  rw [Bool.eq_iff_iff, spansEqualBetween_iff, spansEqualBetween_iff, hspelled, hlength]
  simp only [hle, hle', true_and]

/-- A member brought over to two calls differs in its place only. -/
theorem broughtOver_congr {call call' : CallSite} {start start' : Nat} {target : ParsedModule}
    {targetNominals : List NominalTypeIdentity} {candidate : Sig}
    (hnames : spansEqualBetween inp current.sourceIndex start call.stop target.sourceIndex candidate.start
        candidate.stop =
      spansEqualBetween inp current.sourceIndex start' call'.stop target.sourceIndex candidate.start candidate.stop) :
    (broughtOver inp current nominals target targetNominals call start candidate).map unplaced =
      (broughtOver inp current nominals target targetNominals call' start' candidate).map unplaced := by
  simp only [broughtOver, hnames]
  generalize spansEqualBetween inp current.sourceIndex start' call'.stop target.sourceIndex candidate.start
    candidate.stop = named
  generalize transportSignature inp current.sourceIndex target.sourceIndex candidate targetNominals nominals =
    transported
  cases named with
  | false => simp only [Bool.not_false, if_true]
  | true => cases htransported : transported.ok <;> simp [unplaced]

theorem providedSignature_congr {call call' : CallSite} {start start' targetIndex : Nat}
    (hshort : call.stop - start ≤ 1024)
    (hsame : spansEqual (moduleSource inp current.sourceIndex) start call.stop start' call'.stop = true) :
    (providedSignature inp current all nominals modules call start targetIndex).map unplaced =
      (providedSignature inp current all nominals modules call' start' targetIndex).map unplaced := by
  have hbrought : ∀ target targetNominals,
      Option.map unplaced ∘ broughtOver inp current nominals target targetNominals call start =
        Option.map unplaced ∘ broughtOver inp current nominals target targetNominals call' start' := by
    intro target targetNominals
    funext candidate
    rw [Function.comp_apply, Function.comp_apply]
    exact broughtOver_congr (spansEqualBetween_congr hshort hsame)
  unfold providedSignature
  cases providerModule inp all targetIndex with
  | none => rw [Option.bind_none, Option.bind_none]
  | some target =>
      rw [Option.bind_some, Option.bind_some, List.map_findSome?, List.map_findSome?, hbrought]

/-- What a provider gives has the name of the member and the place of the call. -/
theorem providedSignature_some {call : CallSite} {start targetIndex : Nat} {sig : Sig}
    (h : providedSignature inp current all nominals modules call start targetIndex = some sig) :
    ∃ target, providerModule inp all targetIndex = some target ∧ ∃ candidate ∈ providerSignatures inp modules target,
      broughtOver inp current nominals target (providerNominals inp modules target) call start candidate = some sig := by
  obtain ⟨target, htarget, hsome⟩ := Option.bind_eq_some_iff.mp h
  obtain ⟨candidate, hmem, hbrought⟩ := List.exists_of_findSome?_eq_some hsome
  exact ⟨target, htarget, candidate, hmem, hbrought⟩

theorem broughtOver_some {target : ParsedModule} {targetNominals : List NominalTypeIdentity} {call : CallSite}
    {start : Nat} {candidate sig : Sig}
    (h : broughtOver inp current nominals target targetNominals call start candidate = some sig) :
    spansEqualBetween inp current.sourceIndex start call.stop target.sourceIndex candidate.start candidate.stop = true ∧
      placed call sig = sig ∧ sig.identity = candidate.identity := by
  unfold broughtOver at h
  generalize transportSignature inp current.sourceIndex target.sourceIndex candidate targetNominals nominals =
    transported at h
  cases hnamed : spansEqualBetween inp current.sourceIndex start call.stop target.sourceIndex candidate.start
    candidate.stop with
  | false => simp [hnamed] at h
  | true =>
      cases htransported : transported.ok with
      | false => simp [hnamed, htransported] at h
      | true =>
          simp only [hnamed, htransported, Bool.not_true, Bool.false_eq_true, if_false, Option.some.injEq] at h
          subst h
          exact ⟨rfl, rfl, rfl⟩

theorem providerModule_index {targetIndex : Nat} {target : ParsedModule}
    (h : providerModule inp all targetIndex = some target) : target.sourceIndex = targetIndex := by
  have hindex := List.find?_some h
  exact of_decide_eq_true hindex

theorem importedSignature_some {call : CallSite} {usage : UseDecl} {sig : Sig}
    (h : importedSignature inp current all nominals modules call usage = some sig) :
    callHasImportPrefix inp current.sourceIndex call usage = true ∧
      (findImportTarget inp all current usage).found = true ∧
      providedSignature inp current all nominals modules call (memberStart call usage)
        (findImportTarget inp all current usage).index = some sig := by
  unfold importedSignature importedWith at h
  cases hnames : callHasImportPrefix inp current.sourceIndex call usage with
  | false => simp [hnames] at h
  | true =>
      cases hfound : (findImportTarget inp all current usage).found with
      | false => simp [hnames, hfound] at h
      | true =>
          simp only [hnames, hfound, Bool.not_true, Bool.false_eq_true, if_false] at h
          exact ⟨rfl, rfl, h⟩

/-- A fact that an import leaves answers as the provider does. -/
theorem importFact_sound {target : ParsedModule} {call : CallSite} {start : Nat} {sig : Sig}
    (h : providedSignature inp current all nominals modules call start target.sourceIndex = some sig) :
    ∀ query, hitsImport inp current query (importFact target call start sig) →
      some (unplaced (importFact target call start sig).signature) =
        (providedSignature inp current all nominals modules query.1 query.2.1 query.2.2).map unplaced := by
  refine @Memo.hits_of_made _ _ _ (hitsImport inp current) (fun fact => some (unplaced fact.signature))
    (fun query => (providedSignature inp current all nominals modules query.1 query.2.1 query.2.2).map unplaced) _
    (call, start, target.sourceIndex) ?_ ?_
  · simp only [h, importFact, Option.map_some]
  · rintro ⟨call', start', index⟩ ⟨hindex, hspelled⟩
    simp only [importFact] at hindex hspelled ⊢
    obtain ⟨provider, -, candidate, -, hbrought⟩ := providedSignature_some h
    obtain ⟨-, -, hshort, -⟩ := spansEqualBetween_iff.mp (broughtOver_some hbrought).1
    obtain ⟨hle', hle, hlength, -⟩ := spansEqual_iff.mp hspelled
    rw [← hindex]
    exact providedSignature_congr (by rw [hlength]; exact hshort) hspelled

theorem importsSound_push {fact : ResolvedImportFact} {cache : ResolvedImportFactCache}
    (hfact : ∀ query, hitsImport inp current query fact → some (unplaced fact.signature) =
      (providedSignature inp current all nominals modules query.1 query.2.1 query.2.2).map unplaced)
    (hcache : ImportsSound inp current all nominals modules cache.facts) :
    ImportsSound inp current all nominals modules (resolvedImportFactPushBounded fact cache).facts := by
  unfold resolvedImportFactPushBounded
  split
  · exact Memo.sound_cons hfact Memo.sound_nil
  · exact Memo.sound_cons hfact hcache

/-- **A hit** gives what the provider would. -/
theorem resolvedImportSignatureLookup_sound {call : CallSite} {usage : UseDecl} {targetIndex : Nat}
    {cache : ResolvedImportFactCache} (hcache : ImportsSound inp current all nominals modules cache.facts)
    (h : (resolvedImportSignatureLookup inp current call usage targetIndex cache).found = true) :
    providedSignature inp current all nominals modules call (memberStart call usage) targetIndex =
      some (placed call (resolvedImportSignatureLookup inp current call usage targetIndex cache).signature) := by
  obtain ⟨fact, hfact, hhit, hsignature⟩ := resolvedImportSignatureLookup_found h
  have hanswer := hcache fact hfact (call, memberStart call usage, targetIndex) hhit
  dsimp only at hanswer
  cases hprovided : providedSignature inp current all nominals modules call (memberStart call usage) targetIndex with
  | none =>
      rw [hprovided] at hanswer
      cases hanswer
  | some sig =>
      rw [hprovided, Option.map_some] at hanswer
      obtain ⟨target, -, candidate, -, hbrought⟩ := providedSignature_some hprovided
      have hplaced := congrArg (placed call) (Option.some.inj hanswer)
      rw [hsignature, ← (broughtOver_some hbrought).2.1]
      exact congrArg some hplaced.symm

/-! ## Steps of the walks -/

theorem length_providerSignatures (target : ParsedModule) :
    (providerSignatures inp modules target).length ≤ 1024 * 64 := by
  rw [providerSignatures, bindLocalCallableIdentities_eq, List.length_reverse, List.length_map]
  exact List.length_take_le _ _

/-- The walk over the table of a provider keeps the cache sound. -/
theorem signaturesFromExports_sound {target : ParsedModule} {call : CallSite} {usage : UseDecl} {acc : List Sig}
    {resolved : ResolvedImportFactCache} (htarget : providerModule inp all target.sourceIndex = some target)
    (hresolved : ImportsSound inp current all nominals modules resolved.facts) :
    (signaturesFromExports inp current target usage call (providerSignatures inp modules target) acc nominals
        (providerNominals inp modules target) resolved).acc =
      (providedSignature inp current all nominals modules call (memberStart call usage) target.sourceIndex).toList ++
        acc ∧
    ImportsSound inp current all nominals modules
      (signaturesFromExports inp current target usage call (providerSignatures inp modules target) acc nominals
        (providerNominals inp modules target) resolved).resolved.facts := by
  have hprovided : providedSignature inp current all nominals modules call (memberStart call usage)
      target.sourceIndex = (providerSignatures inp modules target).findSome?
        (broughtOver inp current nominals target (providerNominals inp modules target) call
          (memberStart call usage)) := by
    rw [providedSignature, htarget, Option.bind_some]
  rw [signaturesFromExports_eq (length_providerSignatures target)]
  cases hfound : (providerSignatures inp modules target).findSome?
      (broughtOver inp current nominals target (providerNominals inp modules target) call (memberStart call usage)) with
  | none =>
      rw [hprovided, hfound]
      exact ⟨rfl, hresolved⟩
  | some sig =>
      rw [hfound] at hprovided
      rw [hprovided]
      exact ⟨rfl, importsSound_push (importFact_sound hprovided) hresolved⟩

/-- The walk behind a provider that the cache knows. -/
theorem buildSignaturesFromCandidate_hit {st : TargetSigWalk} {target : ParsedModule}
    (hindex : target.sourceIndex = st.targetIndex)
    (hfound : (providerSignatureLookup st.providerFacts target.sourceIndex).found = true) (rest : List ParsedModule) :
    buildSignaturesFromCandidate inp st target rest =
      signaturesFromCachedProvider inp st target (providerSignatureLookup st.providerFacts target.sourceIndex) := by
  rw [buildSignaturesFromCandidate, if_neg (not_not_intro hindex)]
  exact if_pos hfound

/-- The walk behind a provider that is new. -/
theorem buildSignaturesFromCandidate_miss {st : TargetSigWalk} {target : ParsedModule}
    (hindex : target.sourceIndex = st.targetIndex)
    (hfound : ¬ (providerSignatureLookup st.providerFacts target.sourceIndex).found = true)
    (rest : List ParsedModule) :
    buildSignaturesFromCandidate inp st target rest =
      let exported :=
        signaturesFromExports inp st.current target st.usage st.call (providerSignatures inp st.modules target) st.acc
          st.callerNominals (providerNominals inp st.modules target) st.resolved
      { st with
        rest := [], acc := exported.acc, resolved := exported.resolved
        providerFacts :=
          { sourceIndex := target.sourceIndex, signatures := providerSignatures inp st.modules target
            nominals := providerNominals inp st.modules target } :: st.providerFacts } := by
  rw [providerSignatures, providerNominals, ← nominalModuleByIndex_facts, buildSignaturesFromCandidate,
    if_neg (not_not_intro hindex)]
  exact if_neg hfound

/-- The walk over the modules before it has found the provider. -/
def targetSeed (modules : List NominalModule) (current : ParsedModule) (nominals : List NominalTypeIdentity)
    (targetIndex : Nat) (usage : UseDecl) (call : CallSite) (acc : List Sig)
    (providerFacts : List ProviderSignatureFacts) (resolved : ResolvedImportFactCache) (rest : List ParsedModule)
    : TargetSigWalk :=
  { rest := rest, modules := modules, targetIndex := targetIndex, current := current, usage := usage, call := call
    acc := acc, callerNominals := nominals, providerFacts := providerFacts, resolved := resolved }

section Target

variable {targetIndex : Nat} {usage : UseDecl} {call : CallSite} {acc : List Sig}
  {providerFacts : List ProviderSignatureFacts} {resolved : ResolvedImportFactCache}

/-- Behind a provider the walk is over, and what it leaves does not depend on the modules behind it. -/
theorem buildSignaturesFromCandidate_rest {target : ParsedModule} {rest rest' : List ParsedModule}
    (h : target.sourceIndex = targetIndex) :
    buildSignaturesFromCandidate inp
        (targetSeed modules current nominals targetIndex usage call acc providerFacts resolved rest) target rest' =
      buildSignaturesFromCandidate inp
        (targetSeed modules current nominals targetIndex usage call acc providerFacts resolved []) target [] := by
  by_cases hfound : (providerSignatureLookup providerFacts target.sourceIndex).found = true
  · rw [buildSignaturesFromCandidate_hit (by exact h) (by exact hfound),
      buildSignaturesFromCandidate_hit (by exact h) (by exact hfound)]
    rfl
  · rw [buildSignaturesFromCandidate_miss (by exact h) (by exact hfound),
      buildSignaturesFromCandidate_miss (by exact h) (by exact hfound)]
    rfl

theorem buildSignaturesFromCandidate_nil (target : ParsedModule) :
    (buildSignaturesFromCandidate inp
      (targetSeed modules current nominals targetIndex usage call acc providerFacts resolved []) target []).rest = [] := by
  by_cases hindex : target.sourceIndex = targetIndex
  · by_cases hfound : (providerSignatureLookup providerFacts target.sourceIndex).found = true
    · rw [buildSignaturesFromCandidate_hit (by exact hindex) (by exact hfound)]
      rfl
    · rw [buildSignaturesFromCandidate_miss (by exact hindex) (by exact hfound)]
  · rw [buildSignaturesFromCandidate, if_pos (by exact hindex)]

/-- What a provider leaves: what it provides, and sound caches. -/
theorem buildSignaturesFromCandidate_sound {target : ParsedModule}
    (htarget : providerModule inp all targetIndex = some target)
    (hproviders : ProvidersSound inp all modules providerFacts)
    (hresolved : ImportsSound inp current all nominals modules resolved.facts) {st : TargetSigWalk}
    (hst : buildSignaturesFromCandidate inp
      (targetSeed modules current nominals targetIndex usage call acc providerFacts resolved []) target [] = st) :
    st.acc =
        (providedSignature inp current all nominals modules call (memberStart call usage) targetIndex).toList ++ acc ∧
      ProvidersSound inp all modules st.providerFacts ∧
      ImportsSound inp current all nominals modules st.resolved.facts := by
  have hindex : target.sourceIndex = targetIndex := providerModule_index htarget
  subst hindex
  have hexported := @signaturesFromExports_sound inp current all nominals modules target call usage acc resolved htarget
    hresolved
  by_cases hfound : (providerSignatureLookup providerFacts target.sourceIndex).found = true
  · obtain ⟨fact, hfact, hsource, hsignatures, hnominals⟩ := providerSignatureLookup_found hfound
    have hsound := hproviders fact hfact target (by rw [hsource]; exact htarget)
    rw [← hsound.1, ← hsound.2, ← hsignatures, ← hnominals] at hexported
    rw [buildSignaturesFromCandidate_hit (by rfl) (by exact hfound)] at hst
    rw [← hst]
    exact ⟨hexported.1, hproviders, hexported.2⟩
  · rw [buildSignaturesFromCandidate_miss (by rfl) (by exact hfound)] at hst
    rw [← hst]
    refine ⟨hexported.1, ?_, hexported.2⟩
    intro fact hfact provider hprovider
    rcases List.mem_cons.mp hfact with rfl | hmem
    · rw [Option.some.inj (hprovider.symm.trans htarget)]
      exact ⟨rfl, rfl⟩
    · exact hproviders fact hmem provider hprovider

/-- **A call and a use without a cached import**: the provider's signature in front, and sound caches. -/
theorem signaturesFromTarget_sound (hproviders : ProvidersSound inp all modules providerFacts)
    (hresolved : ImportsSound inp current all nominals modules resolved.facts) {result : TargetSignatureResult}
    (hresult : signaturesFromTarget inp all modules current targetIndex usage call acc nominals providerFacts resolved =
      result) :
    result.acc =
        (providedSignature inp current all nominals modules call (memberStart call usage) targetIndex).toList ++ acc ∧
      ProvidersSound inp all modules result.providerFacts ∧
      ImportsSound inp current all nominals modules result.resolved.facts := by
  have hscan := iterate_find (signaturesFromTargetStep inp)
    (targetSeed modules current nominals targetIndex usage call acc providerFacts resolved)
    (fun target => target.sourceIndex = targetIndex)
    (fun target => buildSignaturesFromCandidate inp
      (targetSeed modules current nominals targetIndex usage call acc providerFacts resolved []) target [])
    rfl (by
      intro target rest
      show buildSignaturesFromCandidate inp _ target rest = _
      by_cases hindex : target.sourceIndex = targetIndex
      · rw [if_pos (decide_eq_true hindex), buildSignaturesFromCandidate_rest hindex]
      · rw [if_neg (by simpa using hindex)]
        exact if_pos hindex) (by
      intro target
      rw [signaturesFromTargetStep, buildSignaturesFromCandidate_nil]) inp.sources.length all
  have hwalk : signaturesFromTarget inp all modules current targetIndex usage call acc nominals providerFacts resolved =
      (fun st : TargetSigWalk => (⟨st.acc, st.providerFacts, st.resolved⟩ : TargetSignatureResult))
        ((signaturesFromTargetStep inp)^[inp.sources.length]
          (targetSeed modules current nominals targetIndex usage call acc providerFacts resolved all)) := rfl
  rw [hwalk, hscan] at hresult
  cases hfound : (all.take inp.sources.length).find? fun target => target.sourceIndex = targetIndex with
  | none =>
      have hprovided : providedSignature inp current all nominals modules call (memberStart call usage) targetIndex =
          none := by
        rw [providedSignature, providerModule, hfound, Option.bind_none]
      rw [hfound] at hresult
      rw [hprovided, ← hresult]
      exact ⟨rfl, hproviders, hresolved⟩
  | some target =>
      rw [hfound] at hresult
      rw [← hresult]
      exact buildSignaturesFromCandidate_sound hfound hproviders hresolved rfl

end Target

/-- A walk over uses whose caches are sound. -/
structure UseSound (inp : Input) (current : ParsedModule) (all : List ParsedModule) (st : UseSigWalk) : Prop where
  providers : ProvidersSound inp all st.modules st.providerFacts
  imports : ImportsSound inp current all st.nominals st.modules st.resolved.facts

/-- What a walk over uses leaves as it is. -/
structure UseKept (st st' : UseSigWalk) : Prop where
  call : st'.call = st.call
  nominals : st'.nominals = st.nominals
  modules : st'.modules = st.modules

/-- **One use**: what it imports in front, by whichever cache. -/
theorem signaturesFromOneUse_sound {st st' : UseSigWalk} {usage : UseDecl} {rest : List UseDecl}
    (hsound : UseSound inp current all st) (hst : signaturesFromOneUse inp all current st usage rest = st') :
    UseSound inp current all st' ∧ UseKept st st' ∧ st'.rest = rest ∧
      st'.acc = (importedSignature inp current all st.nominals st.modules st.call usage).toList ++ st.acc := by
  unfold signaturesFromOneUse at hst
  unfold importedSignature importedWith
  cases hnames : callHasImportPrefix inp current.sourceIndex st.call usage with
  | false =>
      simp only [hnames, Bool.not_false, if_true] at hst ⊢
      rw [← hst]
      exact ⟨⟨hsound.providers, hsound.imports⟩, ⟨rfl, rfl, rfl⟩, rfl, rfl⟩
  | true =>
  cases htarget : (findImportTarget inp all current usage).found with
  | false =>
      simp only [hnames, htarget, Bool.not_true, Bool.not_false, Bool.false_eq_true, if_false, if_true] at hst ⊢
      rw [← hst]
      exact ⟨⟨hsound.providers, hsound.imports⟩, ⟨rfl, rfl, rfl⟩, rfl, rfl⟩
  | true =>
  simp only [hnames, htarget, Bool.not_true, Bool.false_eq_true, if_false] at hst ⊢
  by_cases hfound : (resolvedImportSignatureLookup inp current st.call usage
      (findImportTarget inp all current usage).index st.resolved).found = true
  · rw [if_pos hfound] at hst
    rw [resolvedImportSignatureLookup_sound hsound.imports hfound, ← hst]
    exact ⟨⟨hsound.providers, hsound.imports⟩, ⟨rfl, rfl, rfl⟩, rfl, rfl⟩
  · rw [if_neg hfound] at hst
    obtain ⟨hacc, hproviders, himports⟩ := @signaturesFromTarget_sound inp current all st.nominals st.modules
      (findImportTarget inp all current usage).index usage st.call st.acc st.providerFacts st.resolved
      hsound.providers hsound.imports _ rfl
    rw [← hst]
    exact ⟨⟨hproviders, himports⟩, ⟨rfl, rfl, rfl⟩, rfl, hacc⟩

/-- **The uses**: what the first `n` of them import, the last in front. -/
theorem iterate_signaturesFromUse (n : Nat) {st : UseSigWalk} (hsound : UseSound inp current all st) :
    UseSound inp current all ((signaturesFromUse inp all current)^[n] st) ∧
      UseKept st ((signaturesFromUse inp all current)^[n] st) ∧
      ((signaturesFromUse inp all current)^[n] st).acc =
        ((st.rest.take n).filterMap (importedSignature inp current all st.nominals st.modules st.call)).reverse ++
          st.acc := by
  induction n generalizing st with
  | zero => exact ⟨hsound, ⟨rfl, rfl, rfl⟩, rfl⟩
  | succ n ih =>
      rw [Function.iterate_succ_apply]
      cases hrest : st.rest with
      | nil =>
          have hstep : signaturesFromUse inp all current st = st := by rw [signaturesFromUse, hrest]
          have hnext := ih hsound
          rw [hstep]
          rw [hrest, List.take_nil] at hnext
          rw [List.take_nil]
          exact hnext
      | cons usage rest =>
          have hstep : signaturesFromUse inp all current st = signaturesFromOneUse inp all current st usage rest := by
            rw [signaturesFromUse, hrest]
          obtain ⟨hnext, hkept, hrest', hacc⟩ := signaturesFromOneUse_sound hsound hstep.symm
          obtain ⟨hfinal, hkept', hacc'⟩ := ih hnext
          refine ⟨hfinal, ⟨hkept'.call.trans hkept.call, hkept'.nominals.trans hkept.nominals,
            hkept'.modules.trans hkept.modules⟩, ?_⟩
          rw [hacc', hrest', hacc, hkept.call, hkept.nominals, hkept.modules, List.take_succ_cons]
          cases himported : importedSignature inp current all st.nominals st.modules st.call usage with
          | none => rw [List.filterMap_cons_none himported, Option.toList_none, List.nil_append]
          | some sig =>
              rw [List.filterMap_cons_some himported, List.reverse_cons, Option.toList_some, List.append_assoc]

/-- A walk over calls whose caches are sound. -/
structure CallSound (inp : Input) (current : ParsedModule) (all : List ParsedModule) (st : CallSigWalk) : Prop where
  providers : ProvidersSound inp all st.modules st.providerFacts
  imports : ImportsSound inp current all st.nominals st.modules st.resolved.facts

/-- What a walk over calls leaves as it is. -/
structure CallKept (st st' : CallSigWalk) : Prop where
  nominals : st'.nominals = st.nominals
  modules : st'.modules = st.modules

/-- What a call imports. -/
def importedAt (inp : Input) (current : ParsedModule) (all : List ParsedModule) (nominals : List NominalTypeIdentity)
    (modules : List NominalModule) (call : CallSite) : List Sig :=
  (current.unit.uses.take 1024).filterMap (importedSignature inp current all nominals modules call)

/-- **The uses of a module**, for one call. -/
theorem signaturesFromUses_sound {call : CallSite} {acc : List Sig} {providerFacts : List ProviderSignatureFacts}
    {resolved : ResolvedImportFactCache} (hproviders : ProvidersSound inp all modules providerFacts)
    (hresolved : ImportsSound inp current all nominals modules resolved.facts) {result : UseSignatureResult}
    (hresult : signaturesFromUses inp all current current.unit.uses call acc nominals modules providerFacts resolved =
      result) :
    result.acc = (importedAt inp current all nominals modules call).reverse ++ acc ∧
      ProvidersSound inp all modules result.providerFacts ∧
      ImportsSound inp current all nominals modules result.resolved.facts := by
  have hstay : ∀ walk : UseSigWalk, walk.rest.isEmpty = true → signaturesFromUse inp all current walk = walk := by
    intro walk hdone
    rw [signaturesFromUse, List.isEmpty_iff.mp hdone]
  have hloop : ∃ n, n = 1024 ∧
      signaturesFromUses inp all current current.unit.uses call acc nominals modules providerFacts resolved =
        (fun walk : UseSigWalk => (⟨walk.acc, walk.providerFacts, walk.resolved⟩ : UseSignatureResult))
          ((signaturesFromUse inp all current)^[n]
            { rest := current.unit.uses, call := call, acc := acc, nominals := nominals, modules := modules
              providerFacts := providerFacts, resolved := resolved }) := by
    refine ⟨1024, rfl, (iterate_guard (fun _ _ => rfl) 0 1024 _).trans ?_⟩
    rw [settle_eq_self hstay]
  obtain ⟨n, hn, hloop⟩ := hloop
  obtain ⟨hfinal, hkept, hacc⟩ := @iterate_signaturesFromUse inp current all n
    { rest := current.unit.uses, call := call, acc := acc, nominals := nominals, modules := modules
      providerFacts := providerFacts, resolved := resolved } ⟨hproviders, hresolved⟩
  obtain ⟨hproviders', himports'⟩ := hfinal
  rw [hkept.modules] at hproviders' himports'
  rw [hkept.nominals] at himports'
  rw [importedAt, ← hn, ← hresult, hloop]
  exact ⟨hacc, hproviders', himports'⟩

/-- **One call**. -/
theorem importedSignatureForOneCall_sound {st st' : CallSigWalk} {call : CallSite} {rest : List CallSite}
    (hsound : CallSound inp current all st) (hst : importedSignatureForOneCall inp current all call rest st = st') :
    CallSound inp current all st' ∧ CallKept st st' ∧ st'.rest = rest ∧
      st'.acc = (importedAt inp current all st.nominals st.modules call).reverse ++ st.acc := by
  cases hfound : signaturesFromUses inp all current current.unit.uses call st.acc st.nominals st.modules
      st.providerFacts st.resolved with
  | mk acc providerFacts resolved =>
      obtain ⟨hacc, hproviders, himports⟩ := signaturesFromUses_sound hsound.providers hsound.imports hfound
      rw [importedSignatureForOneCall, hfound] at hst
      rw [← hst]
      exact ⟨⟨hproviders, himports⟩, ⟨rfl, rfl⟩, rfl, hacc⟩

/-- **The calls**: what the first `n` of them import, the last in front. -/
theorem iterate_importedSignatureForCall (n : Nat) {st : CallSigWalk} (hsound : CallSound inp current all st) :
    ((importedSignatureForCall inp current all)^[n] st).acc =
      ((st.rest.take n).flatMap (importedAt inp current all st.nominals st.modules)).reverse ++ st.acc := by
  induction n generalizing st with
  | zero => rfl
  | succ n ih =>
      rw [Function.iterate_succ_apply]
      cases hrest : st.rest with
      | nil =>
          have hstep : importedSignatureForCall inp current all st = st := by rw [importedSignatureForCall, hrest]
          have hnext := ih hsound
          rw [hstep]
          rw [hrest, List.take_nil] at hnext
          rw [List.take_nil]
          exact hnext
      | cons call rest =>
          have hstep : importedSignatureForCall inp current all st =
              importedSignatureForOneCall inp current all call rest st := by
            rw [importedSignatureForCall, hrest]
          obtain ⟨hnext, hkept, hrest', hacc⟩ := importedSignatureForOneCall_sound hsound hstep.symm
          rw [ih hnext, hrest', hacc, hkept.nominals, hkept.modules, List.take_succ_cons, List.flatMap_cons,
            List.reverse_append, List.append_assoc]

end Exports

/-- **The caches are transparent**: the table is the one that is made without them. -/
theorem importedSignatures_eq (inp : Input) (current : ParsedModule) (all : List ParsedModule)
    (nominals : List NominalTypeIdentity) (modules : List NominalModule) :
    importedSignatures inp current all nominals modules =
      uncachedSignatures inp current all nominals modules := by
  have hstay : ∀ st : CallSigWalk, st.rest.isEmpty = true → importedSignatureForCall inp current all st = st := by
    intro st hdone
    rw [importedSignatureForCall, List.isEmpty_iff.mp hdone]
  have hlength : (collectCallSites current.unit.fns).length ≤ 1024 * 64 := by
    rw [collectCallSites_eq]
    exact Nat.le_trans (List.length_filterMap_le _ _) (List.length_take_le _ _)
  have hstart : CallSound inp current all
      { rest := collectCallSites current.unit.fns, acc := [], nominals := nominals, modules := modules
        providerFacts := [], resolved := { facts := [], count := 0 } } := by
    refine ⟨?_, Memo.sound_nil⟩
    intro fact hfact
    cases hfact
  have hloop : ∃ n, (collectCallSites current.unit.fns).length ≤ n ∧
      importedSignatures inp current all nominals modules =
        ((importedSignatureForCall inp current all)^[n]
          { rest := collectCallSites current.unit.fns, acc := [], nominals := nominals, modules := modules
            providerFacts := [], resolved := { facts := [], count := 0 } }).acc :=
    ⟨1024 * 64, hlength, @iterate_chunks _ _ (fun st : CallSigWalk => st.rest.isEmpty)
      (importedSignatureForCall inp current all) (importedSignatureChunk inp current all) CallSigWalk.acc hstay 1024
      (fun _ => rfl) 64 _⟩
  obtain ⟨n, hn, hloop⟩ := hloop
  rw [hloop, iterate_importedSignatureForCall n hstart, List.take_of_length_le hn,
    List.append_nil]
  rfl

/-- **The imported signatures** are those that are made without caches, and each is brought over to its call from a
    function of the provider that has the name of the member. -/
theorem importedSignatures_transparent (inp : Input) (current : ParsedModule) (all : List ParsedModule)
    (nominals : List NominalTypeIdentity) (modules : List NominalModule) :
    importedSignatures inp current all nominals modules = uncachedSignatures inp current all nominals modules ∧
      ∀ sig ∈ importedSignatures inp current all nominals modules,
        ∃ call ∈ collectCallSites current.unit.fns, ∃ usage ∈ current.unit.uses, ∃ target,
          callHasImportPrefix inp current.sourceIndex call usage = true ∧
          (findImportTarget inp all current usage).found = true ∧
          providerModule inp all (findImportTarget inp all current usage).index = some target ∧
          ∃ candidate ∈ providerSignatures inp modules target,
            spansEqualBetween inp current.sourceIndex (memberStart call usage) call.stop target.sourceIndex
              candidate.start candidate.stop = true ∧
            broughtOver inp current nominals target (providerNominals inp modules target) call
              (memberStart call usage) candidate = some sig ∧
            sig.start = call.start ∧ sig.stop = call.stop ∧ sig.identity = candidate.identity := by
  refine ⟨importedSignatures_eq inp current all nominals modules, ?_⟩
  intro sig hsig
  rw [importedSignatures_eq, uncachedSignatures, List.mem_reverse, List.mem_flatMap] at hsig
  obtain ⟨call, hcall, hused⟩ := hsig
  obtain ⟨usage, husage, himported⟩ := List.mem_filterMap.mp hused
  obtain ⟨hnames, hfound, hprovided⟩ := importedSignature_some himported
  obtain ⟨target, htarget, candidate, hmem, hbrought⟩ := providedSignature_some hprovided
  obtain ⟨hnamed, hplaced, hidentity⟩ := broughtOver_some hbrought
  exact ⟨call, hcall, usage, List.mem_of_mem_take husage, target, hnames, hfound, htarget, candidate, hmem, hnamed,
    hbrought, congrArg Sig.start hplaced.symm, congrArg Sig.stop hplaced.symm, hidentity⟩

/-! ## Functions of one name -/

section Named

variable (inp : Input) (current : ParsedModule) (all : List ParsedModule) (nominals : List NominalTypeIdentity)
  (modules : List NominalModule)

/-- What a provider would give a call if only its first signature of the name counted. -/
def firstSignature (call : CallSite) (start targetIndex : Nat) : Option Sig :=
  (providerModule inp all targetIndex).bind fun target =>
    ((providerSignatures inp modules target).find? fun candidate =>
        spansEqualBetween inp current.sourceIndex start call.stop target.sourceIndex candidate.start
          candidate.stop).bind
      (broughtOver inp current nominals target (providerNominals inp modules target) call start)

def firstSignatures : List Sig :=
  ((collectCallSites current.unit.fns).flatMap fun call =>
    current.unit.uses.filterMap (importedWith inp current all (firstSignature inp current all nominals modules)
      call)).reverse

end Named

/-- `mncs 0.18;module a;use m;fn g()->(r:bool){return m.f();}` -/
def twiceCallerText : View :=
  [109, 110, 99, 115, 32, 48, 46, 49, 56, 59, 109, 111, 100, 117, 108, 101, 32, 97, 59, 117, 115, 101, 32, 109, 59, 102,
   110, 32, 103, 40, 41, 45, 62, 40, 114, 58, 98, 111, 111, 108, 41, 123, 114, 101, 116, 117, 114, 110, 32, 109, 46,
   102, 40, 41, 59, 125]

/-- `mncs 0.18;module m;fn f()->(r:Q){return true;}fn f()->(r:bool){return true;}` -/
def twiceProviderText : View :=
  [109, 110, 99, 115, 32, 48, 46, 49, 56, 59, 109, 111, 100, 117, 108, 101, 32, 109, 59, 102, 110, 32, 102, 40, 41, 45,
   62, 40, 114, 58, 81, 41, 123, 114, 101, 116, 117, 114, 110, 32, 116, 114, 117, 101, 59, 125, 102, 110, 32, 102, 40,
   41, 45, 62, 40, 114, 58, 98, 111, 111, 108, 41, 123, 114, 101, 116, 117, 114, 110, 32, 116, 114, 117, 101, 59, 125]

/-- Two sources: `a` calls `m.f`, and `m` declares two functions `f`, the first with a type that nothing declares. -/
def twiceInput : Input where
  sources :=
    [{ sourceId := [97], sourcePath := [97], pageStart := 0, pageCount := 1, stride := 128, total := 56 },
     { sourceId := [109], sourcePath := [109], pageStart := 1, pageCount := 1, stride := 128, total := 76 }]
  flatPages := [twiceCallerText, twiceProviderText]

def twiceHeader (nextOffset : Nat) : Parser.Header where
  code := 0
  start := 0
  stop := 0
  versionStart := 5
  versionStop := 9
  moduleStart := 17
  moduleStop := 18
  nextOffset := nextOffset
  state := 8

/-- A function without parameters, whose name, result and value start at positions behind its own. -/
def twiceFunction (start typeStop typeKind stop : Nat) (value : Expr) : FnDecl where
  ok := true
  errStart := 0
  errStop := 0
  sig :=
    { nameStart := start + 3, nameStop := start + 4, generics := [], params := []
      results :=
        [{ nameStart := start + 9, nameStop := start + 10, typeStart := start + 11, typeStop := typeStop
           typeKind := typeKind }]
      contracts := [], effects := [], capabilities := [] }
  body := { body := [], ret := value, hasRet := true }
  fnStart := start
  fnStop := stop
  cursor := stop

def twiceCaller : ParsedModule where
  sourceId := [97]
  sourcePath := [97]
  sourceIndex := 0
  unit :=
    { ok := true, errStart := 0, errStop := 0, header := twiceHeader 19
      uses :=
        [{ ok := true, errStart := 0, errStop := 0, moduleStart := 23, moduleStop := 24, aliasStart := 24
           aliasStop := 24, hasAlias := false, cursor := 25 }]
      records := [], enums := [], fns := [twiceFunction 25 40 3 56 (.call 49 52 [] [] 49 54)], cursor := 56 }

def twiceProvider : ParsedModule where
  sourceId := [109]
  sourcePath := [109]
  sourceIndex := 1
  unit :=
    { ok := true, errStart := 0, errStop := 0, header := twiceHeader 19, uses := [], records := [], enums := []
      fns := [twiceFunction 19 31 5 46 (.boolean 40 44 true), twiceFunction 46 61 3 76 (.boolean 70 74 true)]
      cursor := 76 }

set_option maxRecDepth 10000 in
/-- The call gets the second function, although the first one of the name cannot be brought over. -/
theorem not_importedSignatures_firstSignatures :
    ¬ ∀ (inp : Input) (current : ParsedModule) (all : List ParsedModule) (nominals : List NominalTypeIdentity)
      (modules : List NominalModule),
      importedSignatures inp current all nominals modules = firstSignatures inp current all nominals modules := by
  intro hall
  have hlengths := congrArg List.length (hall twiceInput twiceCaller [twiceCaller, twiceProvider] [] [])
  rw [importedSignatures_eq] at hlengths
  revert hlengths
  decide +kernel

end MncsCompiler.Project
