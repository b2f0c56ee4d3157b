import MncsCompiler.Decl.Nominals

/-!
# `Project.Modules` — sources, parsed modules and diagnostics of a project

A project is a list of source descriptors over one flat array of pages. `build_modules` parses every source into a
module; `source_ordered`, `descriptors_cover` and `duplicate_modules` look at the list as a whole. Diagnostics are
gathered in lists that the passes prepend to and reverse.
-/

namespace MncsCompiler.Project

open BoundedLoop Decl

/-! ## Sources -/

structure ProjectSource where
  sourceId : View
  sourcePath : View
  pageStart : Nat
  pageCount : Nat
  stride : Nat
  total : Nat
  deriving DecidableEq, Repr

/-- The source list holds at most 64 descriptors. -/
structure ProjectSnapshot where
  fingerprint : View
  sources : List ProjectSource
  bounded : sources.length ≤ 64

/-- What every pass reads: the descriptors and the flat page array. -/
structure Input where
  sources : List ProjectSource
  flatPages : List View

/-- A descriptor that reaches outside the array selects no pages. Callers pass indices of existing sources. -/
def modulePages (inp : Input) (index : Nat) : List View :=
  match inp.sources[index]? with
  | none => []
  | some item =>
    if item.pageStart > inp.flatPages.length then []
    else if item.pageCount > inp.flatPages.length - item.pageStart then []
    else (inp.flatPages.drop item.pageStart).take item.pageCount

def moduleStride (inp : Input) (index : Nat) : Nat :=
  match inp.sources[index]? with
  | none => 0
  | some item => item.stride

def moduleTotal (inp : Input) (index : Nat) : Nat :=
  match inp.sources[index]? with
  | none => 0
  | some item => item.total

/-- The logical source of a module. -/
def moduleSource (inp : Input) (index : Nat) : Source where
  pages := modulePages inp index
  stride := moduleStride inp index
  total := moduleTotal inp index

structure CoverState where
  index : Nat
  cursor : Nat
  ok : Bool

def coverStep (sources : List ProjectSource) (st : CoverState) : CoverState :=
  if !st.ok then st
  else
    match sources[st.index]? with
    | none => st
    | some item =>
      if item.pageStart ≠ st.cursor then { index := st.index + 1, cursor := st.cursor, ok := false }
      else { index := st.index + 1, cursor := st.cursor + item.pageCount, ok := true }

def descriptorsCover (inp : Input) : Bool :=
  let st := (coverStep inp.sources)^[inp.sources.length] { index := 0, cursor := 0, ok := true }
  st.ok && st.cursor = inp.flatPages.length

/-! ## Order -/

structure ByteCompare where
  decided : Bool
  less : Bool

def byteCompareStep (a b : View) (index : Nat) (st : ByteCompare) : ByteCompare :=
  if st.decided || index ≥ b.length then st
  else
    let left := (a.getD index 0).toNat
    let right := (b.getD index 0).toNat
    if left < right then { decided := true, less := true }
    else if left > right then { decided := true, less := false }
    else st

def byteStringBefore (a b : View) : Bool :=
  let st := carry (byteCompareStep a b) 0 a.length { decided := false, less := false }
  if st.decided then st.less else a.length < b.length

/-- The order of a source and the one before it. -/
def sourceOrderStep (sources : List ProjectSource) (index : Nat) (valid : Bool) : Bool :=
  if !valid || index = 0 then valid
  else
    match sources[index - 1]?, sources[index]? with
    | some previous, some current => byteStringBefore previous.sourceId current.sourceId
    | _, _ => valid

def sourceOrdered (sources : List ProjectSource) : Bool :=
  carry (sourceOrderStep sources) 0 sources.length true

/-! ## Diagnostics -/

inductive ProjectDiagnostic where
  | sourceOrder (sourceIndex : Nat)
  | sourceCountMismatch (sourceIndex : Nat)
  | duplicateModule (sourceIndex start stop : Nat)
  | missingImport (sourceIndex start stop : Nat)
  | parseFailed (sourceIndex start stop : Nat)
  | proofFailed (sourceIndex start stop : Nat)
  | flowFailed (sourceIndex code start stop : Nat)
  | targetModuleMissing (sourceIndex : Nat)
  | importLimitExceeded (sourceIndex start stop limit : Nat)
  deriving DecidableEq, Repr

/-- `first` is put before `second` back to front. -/
def appendDiagnostics (first second : List ProjectDiagnostic) : List ProjectDiagnostic :=
  prependBatches 1024 1024 first second

def reverseDiagnostics (diagnostics : List ProjectDiagnostic) : List ProjectDiagnostic :=
  reverseBatches 1024 1024 diagnostics

/-- The count runs over the sources: of a project without sources it sees no diagnostic. -/
def diagnosticsEmpty (sources : List ProjectSource) (diagnostics : List ProjectDiagnostic) : Bool :=
  countWithin sources.length diagnostics = 0

def orderDiagnostics (sources : List ProjectSource) (ordered countsMatch : Bool) : List ProjectDiagnostic :=
  if !ordered then [.sourceOrder 0] else if !countsMatch then [.sourceCountMismatch sources.length] else []

/-! ## Modules -/

structure ParsedModule where
  sourceId : View
  sourcePath : View
  sourceIndex : Nat
  unit : Decl.Unit

/-- The modules parsed so far, last first, and the first one that failed. -/
structure ModuleBuild where
  acc : List ParsedModule
  valid : Bool
  count : Nat
  parseFailed : Bool
  parseIndex : Nat
  parseStart : Nat
  parseStop : Nat

/-- The bodies of the providers of a single target are dropped. -/
def parseProjectUnit (src : Source) (sourceIndex targetSourceIndex : Nat) (targetOnly : Bool) : Decl.Unit :=
  if targetOnly && sourceIndex ≠ targetSourceIndex then parseUnitSignatures src else parseUnit src

def buildOneModule (inp : Input) (targetSourceIndex : Nat) (targetOnly : Bool) (index : Nat) (st : ModuleBuild)
    : ModuleBuild :=
  match inp.sources[index]? with
  | none =>
    { st with
      valid := false, parseFailed := true, parseIndex := if st.parseFailed then st.parseIndex else index
      parseStart := if st.parseFailed then st.parseStart else 0
      parseStop := if st.parseFailed then st.parseStop else 0 }
  | some item =>
    let src : Source := { pages := modulePages inp index, stride := item.stride, total := item.total }
    let unit := parseProjectUnit src index targetSourceIndex targetOnly
    { acc := { sourceId := item.sourceId, sourcePath := item.sourcePath, sourceIndex := index, unit := unit } :: st.acc
      valid := st.valid && unit.ok, count := st.count + 1, parseFailed := st.parseFailed || !unit.ok
      parseIndex := if st.parseFailed then st.parseIndex else index
      parseStart := if st.parseFailed then st.parseStart else unit.errStart
      parseStop := if st.parseFailed then st.parseStop else unit.errStop }

def buildModules (inp : Input) (targetSourceIndex : Nat) (targetOnly : Bool) : ModuleBuild :=
  carry (buildOneModule inp targetSourceIndex targetOnly) 0 inp.sources.length
    { acc := [], valid := true, count := 0, parseFailed := false, parseIndex := 0, parseStart := 0, parseStop := 0 }

def reverseModules (sources : List ProjectSource) (modules : List ParsedModule) : List ParsedModule :=
  reverseWithin sources.length modules

/-! ## Names across modules -/

structure SpanCompare where
  length : Nat
  leftStart : Nat
  rightStart : Nat
  offset : Nat
  equal : Bool

def spanCompareStep (left right : Source) (st : SpanCompare) : SpanCompare :=
  if !st.equal || st.offset ≥ st.length then st
  else
    let a := left.byteAt (st.leftStart + st.offset)
    let b := right.byteAt (st.rightStart + st.offset)
    { st with offset := st.offset + 1, equal := a = b }

/-- Spans of more than 1024 bytes are never equal. -/
def spansEqualBetween (inp : Input) (leftIndex leftStart leftStop rightIndex rightStart rightStop : Nat) : Bool :=
  if leftStop < leftStart || rightStop < rightStart then false
  else if leftStop - leftStart ≠ rightStop - rightStart then false
  else
    let st := (spanCompareStep (moduleSource inp leftIndex) (moduleSource inp rightIndex))^[1024]
      { length := leftStop - leftStart, leftStart := leftStart, rightStart := rightStart, offset := 0, equal := true }
    st.equal && st.offset ≥ st.length

def moduleNamesEqual (inp : Input) (a b : ParsedModule) : Bool :=
  let left := a.unit.header
  let right := b.unit.header
  spansEqualBetween inp a.sourceIndex left.moduleStart left.moduleStop b.sourceIndex right.moduleStart
    right.moduleStop

def useMatchesModule (inp : Input) (current : ParsedModule) (usage : UseDecl) (target : ParsedModule) : Bool :=
  let header := target.unit.header
  spansEqualBetween inp current.sourceIndex usage.moduleStart usage.moduleStop target.sourceIndex
    header.moduleStart header.moduleStop

/-! ## Duplicates -/

structure DuplicateScan where
  rest : List ParsedModule
  currentIndex : Nat
  current : ParsedModule
  found : Bool
  index : Nat
  start : Nat
  stop : Nat

def duplicateScanCandidate (inp : Input) (st : DuplicateScan) (candidate : ParsedModule) (tail : List ParsedModule)
    : DuplicateScan :=
  if candidate.sourceIndex ≥ st.currentIndex then
    { st with rest := [], found := false, index := 0, start := 0, stop := 0 }
  else
    let equal := moduleNamesEqual inp st.current candidate
    let header := candidate.unit.header
    if equal then
      { st with
        rest := [], found := true, index := candidate.sourceIndex, start := header.moduleStart
        stop := header.moduleStop }
    else { st with rest := tail }

def duplicateScanStep (inp : Input) (st : DuplicateScan) : DuplicateScan :=
  if st.found then st
  else
    match st.rest with
    | [] => st
    | candidate :: tail => duplicateScanCandidate inp st candidate tail

def findDuplicateModule (inp : Input) (all : List ParsedModule) (current : ParsedModule) : DuplicateScan :=
  (duplicateScanStep inp)^[inp.sources.length]
    { rest := all, currentIndex := current.sourceIndex, current := current, found := false, index := 0, start := 0
      stop := 0 }

def duplicateDiagnostic (current : ParsedModule) (found : Bool) (diagnostics : List ProjectDiagnostic)
    : List ProjectDiagnostic :=
  if !found then diagnostics
  else
    let header := current.unit.header
    .duplicateModule current.sourceIndex header.moduleStart header.moduleStop :: diagnostics

structure DuplicateState where
  rest : List ParsedModule
  all : List ParsedModule
  diagnostics : List ProjectDiagnostic

def duplicateModuleCons (inp : Input) (st : DuplicateState) (current : ParsedModule) (tail : List ParsedModule)
    : DuplicateState :=
  let found := findDuplicateModule inp st.all current
  let diagnostics := duplicateDiagnostic current found.found st.diagnostics
  { rest := tail, all := st.all, diagnostics := diagnostics }

def duplicateModuleStep (inp : Input) (st : DuplicateState) : DuplicateState :=
  match st.rest with
  | [] => st
  | current :: tail => duplicateModuleCons inp st current tail

def duplicateModules (inp : Input) (modules : List ParsedModule) : List ProjectDiagnostic :=
  let st := (duplicateModuleStep inp)^[inp.sources.length] { rest := modules, all := modules, diagnostics := [] }
  reverseDiagnostics st.diagnostics

end MncsCompiler.Project
