import MncsCompiler.Project.Modules
import MncsCompiler.Source.Locations

/-!
# `Project.Locate` — the positions of project diagnostics

`project_diagnostic_location` renders the span of one diagnostic: it checks the descriptor of its source, admits the
page table, and scans from the start of the source. `locate_project_diagnostics_global` renders a whole list and keeps
a cursor between its diagnostics: which source it was in, whether that source was admitted, and the last position it
had rendered there. A later span of the same source goes on from that position.

The cursor is right about the one source it names (`ProjectDiagnosticCursor.Right`), and a step keeps it right whatever
the next diagnostic is; so what a step renders is what the scan from the start renders.
-/

namespace MncsCompiler.Project

open BoundedLoop

structure ProjectDiagnosticSpan where
  sourceIndex : Nat
  start : Nat
  stop : Nat
  hasSpan : Bool

structure ProjectDiagnosticLocation where
  diagnostic : ProjectDiagnostic
  sourceIndex : Nat
  hasSpan : Bool
  mapped : Bool
  start : LineCol
  stop : LineCol
  deriving DecidableEq, Repr

structure ProjectDiagnosticCursor where
  hasSource : Bool
  sourceIndex : Nat
  pagesValid : Bool
  cursorValid : Bool
  offset : Nat
  position : LineCol

structure ProjectDiagnosticLocationTransition where
  location : ProjectDiagnosticLocation
  cursor : ProjectDiagnosticCursor

structure ProjectDiagnosticLocationWalk where
  rest : List ProjectDiagnostic
  acc : List ProjectDiagnosticLocation
  cursor : ProjectDiagnosticCursor

def projectDiagnosticSpan : ProjectDiagnostic → ProjectDiagnosticSpan
  | .sourceOrder index => { sourceIndex := index, start := 0, stop := 0, hasSpan := false }
  | .sourceCountMismatch index => { sourceIndex := index, start := 0, stop := 0, hasSpan := false }
  | .duplicateModule index start stop => { sourceIndex := index, start := start, stop := stop, hasSpan := true }
  | .missingImport index start stop => { sourceIndex := index, start := start, stop := stop, hasSpan := true }
  | .parseFailed index start stop => { sourceIndex := index, start := start, stop := stop, hasSpan := true }
  | .proofFailed index start stop => { sourceIndex := index, start := start, stop := stop, hasSpan := true }
  | .flowFailed index _ start stop => { sourceIndex := index, start := start, stop := stop, hasSpan := true }
  | .targetModuleMissing index => { sourceIndex := index, start := 0, stop := 0, hasSpan := false }
  | .importLimitExceeded index start stop _ => { sourceIndex := index, start := start, stop := stop, hasSpan := true }

def unmappedProjectDiagnosticLocation (diagnostic : ProjectDiagnostic) (span : ProjectDiagnosticSpan)
    : ProjectDiagnosticLocation :=
  { diagnostic := diagnostic, sourceIndex := span.sourceIndex, hasSpan := span.hasSpan, mapped := false
    start := LineCol.first, stop := LineCol.first }

/-- The pages a descriptor selects, once its range is known to be inside the array. -/
def slicePages (inp : Input) (item : ProjectSource) : List View :=
  (inp.flatPages.drop item.pageStart).take item.pageCount

/-! ## One diagnostic -/

def projectDiagnosticLocation (inp : Input) (diagnostic : ProjectDiagnostic) : ProjectDiagnosticLocation :=
  let span := projectDiagnosticSpan diagnostic
  match inp.sources[span.sourceIndex]? with
  | none => unmappedProjectDiagnosticLocation diagnostic span
  | some item =>
    if !span.hasSpan then unmappedProjectDiagnosticLocation diagnostic span
    else if item.pageStart > inp.flatPages.length || item.pageCount > inp.flatPages.length - item.pageStart then
      unmappedProjectDiagnosticLocation diagnostic span
    else if validatePages (slicePages inp item) item.stride item.total ≠ 0 then
      unmappedProjectDiagnosticLocation diagnostic span
    else if !spanValidGlobal item.total span.start span.stop then unmappedProjectDiagnosticLocation diagnostic span
    else
      let positions := lineColSpanGlobal (slicePages inp item) item.stride item.total span.start span.stop
      { diagnostic := diagnostic, sourceIndex := span.sourceIndex, hasSpan := true, mapped := true
        start := positions.start, stop := positions.stop }

/-! ## With a cursor -/

/-- The cursor of a source that has not been admitted. -/
def invalidCursor (index : Nat) : ProjectDiagnosticCursor :=
  { hasSource := true, sourceIndex := index, pagesValid := false, cursorValid := false, offset := 0
    position := LineCol.first }

/-- The cursor of a source that has been admitted and not yet been scanned. -/
def freshCursor (index : Nat) : ProjectDiagnosticCursor :=
  { hasSource := true, sourceIndex := index, pagesValid := true, cursorValid := false, offset := 0
    position := LineCol.first }

/-- A rendered span and the cursor at its end. -/
def mappedTransition (diagnostic : ProjectDiagnostic) (span : ProjectDiagnosticSpan) (start stop : LineCol)
    : ProjectDiagnosticLocationTransition :=
  { location :=
      { diagnostic := diagnostic, sourceIndex := span.sourceIndex, hasSpan := true, mapped := true, start := start
        stop := stop }
    cursor :=
      { hasSource := true, sourceIndex := span.sourceIndex, pagesValid := true, cursorValid := true
        offset := span.stop, position := stop } }

def projectDiagnosticLocationCursor (inp : Input) (diagnostic : ProjectDiagnostic) (cursor : ProjectDiagnosticCursor)
    : ProjectDiagnosticLocationTransition :=
  let span := projectDiagnosticSpan diagnostic
  let unmapped := unmappedProjectDiagnosticLocation diagnostic span
  match inp.sources[span.sourceIndex]? with
  | none => { location := unmapped, cursor := cursor }
  | some item =>
    if !span.hasSpan then { location := unmapped, cursor := cursor }
    else if item.pageStart > inp.flatPages.length || item.pageCount > inp.flatPages.length - item.pageStart then
      { location := unmapped, cursor := invalidCursor span.sourceIndex }
    else
      let pages := slicePages inp item
      let sameSource := cursor.hasSource && cursor.sourceIndex == span.sourceIndex
      if sameSource && !cursor.pagesValid then { location := unmapped, cursor := cursor }
      else if !sameSource && validatePages pages item.stride item.total != 0 then
        { location := unmapped, cursor := invalidCursor span.sourceIndex }
      else
        let sourceCursor := if sameSource then cursor else freshCursor span.sourceIndex
        if !spanValidGlobal item.total span.start span.stop then { location := unmapped, cursor := sourceCursor }
        else if sameSource && sourceCursor.cursorValid && span.start ≥ sourceCursor.offset then
          let startPosition :=
            lineColAdvanceGlobal pages item.stride sourceCursor.offset span.start sourceCursor.position
          let endPosition := lineColAdvanceGlobal pages item.stride span.start span.stop startPosition
          mappedTransition diagnostic span startPosition endPosition
        else
          let positions := lineColSpanGlobal pages item.stride item.total span.start span.stop
          mappedTransition diagnostic span positions.start positions.stop

/-! ## A list of diagnostics -/

def projectDiagnosticLocationCons (inp : Input) (st : ProjectDiagnosticLocationWalk) (diagnostic : ProjectDiagnostic)
    (rest : List ProjectDiagnostic) : ProjectDiagnosticLocationWalk :=
  let transition := projectDiagnosticLocationCursor inp diagnostic st.cursor
  { rest := rest, acc := transition.location :: st.acc, cursor := transition.cursor }

def projectDiagnosticLocationStep (inp : Input) (st : ProjectDiagnosticLocationWalk) : ProjectDiagnosticLocationWalk :=
  match st.rest with
  | [] => st
  | diagnostic :: rest => projectDiagnosticLocationCons inp st diagnostic rest

def reverseProjectDiagnosticLocations (initial : List ProjectDiagnosticLocation) : List ProjectDiagnosticLocation :=
  reverseBatches 1024 1024 initial

def initialCursor : ProjectDiagnosticCursor :=
  { hasSource := false, sourceIndex := 0, pagesValid := false, cursorValid := false, offset := 0
    position := LineCol.first }

/-- Two bounded loop levels of 1024 passes each. -/
def locateProjectDiagnosticsGlobal (inp : Input) (diagnostics : List ProjectDiagnostic)
    : List ProjectDiagnosticLocation :=
  (iterate (fun _ outer =>
        (iterate (fun _ (inner : ProjectDiagnosticLocationWalk) =>
              if inner.rest.isEmpty then .ret (reverseProjectDiagnosticLocations inner.acc)
              else .next (projectDiagnosticLocationStep inp inner))
            0 1024 outer).bind fun inner =>
          if inner.rest.isEmpty then .ret (reverseProjectDiagnosticLocations inner.acc)
          else .next inner)
      0 1024 { rest := diagnostics, acc := [], cursor := initialCursor }).after fun outer =>
    reverseProjectDiagnosticLocations outer.acc

/-! ## What the cursor knows -/

/-- A cursor with a source knows whether that source was admitted, and the position it holds is that of its offset.
    A descriptor out of range was not admitted; neither is asked of it again. -/
structure ProjectDiagnosticCursor.Right (inp : Input) (cursor : ProjectDiagnosticCursor) : Prop where
  admitted : ∀ item, cursor.hasSource = true → inp.sources[cursor.sourceIndex]? = some item →
    item.pageStart ≤ inp.flatPages.length → item.pageCount ≤ inp.flatPages.length - item.pageStart →
    (cursor.pagesValid = true ↔ validatePages (slicePages inp item) item.stride item.total = 0)
  located : ∀ item, cursor.hasSource = true → cursor.cursorValid = true →
    inp.sources[cursor.sourceIndex]? = some item → cursor.offset ≤ item.total ∧
      cursor.position = lineColGlobal (slicePages inp item) item.stride item.total cursor.offset

theorem initialCursor_right (inp : Input) : initialCursor.Right inp where
  admitted _ h := by cases h
  located _ h := by cases h

theorem invalidCursor_right {inp : Input} {index : Nat}
    (h : ∀ item, inp.sources[index]? = some item → item.pageStart ≤ inp.flatPages.length →
      item.pageCount ≤ inp.flatPages.length - item.pageStart →
      validatePages (slicePages inp item) item.stride item.total ≠ 0) : (invalidCursor index).Right inp where
  admitted item _ hitem hstart hcount := by simpa [invalidCursor] using h item hitem hstart hcount
  located _ _ h := by cases h

theorem freshCursor_right {inp : Input} {index : Nat}
    (h : ∀ item, inp.sources[index]? = some item →
      validatePages (slicePages inp item) item.stride item.total = 0) : (freshCursor index).Right inp where
  admitted item _ hitem _ _ := by simpa [freshCursor] using h item hitem
  located _ _ h := by cases h

/-- On an admitted source the advancing scan goes on from the rendering of an earlier offset. -/
theorem lineColAdvance_located {pages : List View} {stride total start stop : Nat}
    (hvalid : validatePages pages stride total = 0) (hle : start ≤ stop) (hstop : stop ≤ total) :
    lineColAdvanceGlobal pages stride start stop (lineColGlobal pages stride total start) =
      lineColGlobal pages stride total stop := by
  have hsum := ((validatePages_eq_zero_iff pages stride total).mp hvalid).2.2.2
  rw [← List.length_flatten] at hsum
  subst hsum
  have hstart := (Layout.ofPages hvalid).lineColGlobal_after start
  have hend := (Layout.ofPages hvalid).lineColGlobal_after stop
  have hadvance := @Layout.lineColAdvanceGlobal_eq _ (Layout.ofPages hvalid) start stop hstop
  simp only [Layout.ofPages] at hstart hend hadvance
  rw [hstart, hend, hadvance, lineColAfter_advance _ hle]

/-- On an admitted source the scan of a span renders its two ends. -/
theorem lineColSpan_located {pages : List View} {stride total start stop : Nat}
    (hvalid : validatePages pages stride total = 0) (hle : start ≤ stop) (hstop : stop ≤ total) :
    lineColSpanGlobal pages stride total start stop =
      { start := lineColGlobal pages stride total start, stop := lineColGlobal pages stride total stop } := by
  have hsum := ((validatePages_eq_zero_iff pages stride total).mp hvalid).2.2.2
  rw [← List.length_flatten] at hsum
  subst hsum
  have hspan := (Layout.ofPages hvalid).lineColSpanGlobal_eq start stop
  rwa [Nat.min_eq_left hstop, Nat.min_eq_left hle] at hspan

/-- The cursor at the end of a rendered span. -/
theorem mappedTransition_right {inp : Input} {diagnostic : ProjectDiagnostic} {span : ProjectDiagnosticSpan}
    {item : ProjectSource} (start : LineCol) (hitem : inp.sources[span.sourceIndex]? = some item)
    (hvalid : validatePages (slicePages inp item) item.stride item.total = 0) (hstop : span.stop ≤ item.total) :
    (mappedTransition diagnostic span start
      (lineColGlobal (slicePages inp item) item.stride item.total span.stop)).cursor.Right inp := by
  constructor
  · intro other _ hother _ _
    obtain rfl : item = other := Option.some.inj (hitem.symm.trans hother)
    exact ⟨fun _ => hvalid, fun _ => rfl⟩
  · intro other _ _ hother
    obtain rfl : item = other := Option.some.inj (hitem.symm.trans hother)
    exact ⟨hstop, rfl⟩

/-- **One diagnostic with a cursor** is rendered as without one, and the cursor stays right. -/
theorem projectDiagnosticLocationCursor_exact {inp : Input} (diagnostic : ProjectDiagnostic)
    {cursor : ProjectDiagnosticCursor} (hright : cursor.Right inp) :
    (projectDiagnosticLocationCursor inp diagnostic cursor).location = projectDiagnosticLocation inp diagnostic ∧
      (projectDiagnosticLocationCursor inp diagnostic cursor).cursor.Right inp := by
  unfold projectDiagnosticLocationCursor projectDiagnosticLocation
  generalize projectDiagnosticSpan diagnostic = span
  dsimp only
  cases hitem : inp.sources[span.sourceIndex]? with
  | none => exact ⟨rfl, hright⟩
  | some item =>
      dsimp only
      by_cases hspan : (!span.hasSpan) = true
      · rw [if_pos hspan, if_pos hspan]
        exact ⟨rfl, hright⟩
      rw [if_neg hspan, if_neg hspan]
      by_cases hrange : (item.pageStart > inp.flatPages.length ||
          item.pageCount > inp.flatPages.length - item.pageStart) = true
      · rw [if_pos hrange, if_pos hrange]
        refine ⟨rfl, invalidCursor_right ?_⟩
        intro other hother hstart hcount
        obtain rfl : item = other := Option.some.inj (hitem.symm.trans hother)
        simp only [Bool.or_eq_true, decide_eq_true_eq] at hrange
        omega
      rw [if_neg hrange, if_neg hrange]
      have hin : item.pageStart ≤ inp.flatPages.length ∧
          item.pageCount ≤ inp.flatPages.length - item.pageStart := by
        simp only [Bool.or_eq_true, decide_eq_true_eq] at hrange
        omega
      -- what the cursor says of this source
      have hadmitted : (cursor.hasSource && cursor.sourceIndex == span.sourceIndex) = true →
          (cursor.pagesValid = true ↔ validatePages (slicePages inp item) item.stride item.total = 0) := by
        intro hsame
        simp only [Bool.and_eq_true, beq_iff_eq] at hsame
        exact hright.admitted item hsame.1 (hsame.2 ▸ hitem) hin.1 hin.2
      by_cases hknown : (cursor.hasSource && cursor.sourceIndex == span.sourceIndex && !cursor.pagesValid) = true
      · rw [if_pos hknown]
        simp only [Bool.and_eq_true (_ && _), Bool.not_eq_true'] at hknown
        have hinvalid : validatePages (slicePages inp item) item.stride item.total ≠ 0 := by
          intro hzero
          rw [(hadmitted hknown.1).mpr hzero] at hknown
          cases hknown.2
        rw [if_pos hinvalid]
        exact ⟨rfl, hright⟩
      rw [if_neg hknown]
      by_cases hsame : (cursor.hasSource && cursor.sourceIndex == span.sourceIndex) = true
      · have hzero : validatePages (slicePages inp item) item.stride item.total = 0 := by
          refine (hadmitted hsame).mp ?_
          simpa [hsame] using hknown
        simp only [hsame, Bool.not_true, Bool.false_and, Bool.false_eq_true, if_false, if_true, Bool.true_and, hzero,
          ne_eq, not_true_eq_false]
        by_cases hspanValid : (!spanValidGlobal item.total span.start span.stop) = true
        · rw [if_pos hspanValid, if_pos hspanValid]
          exact ⟨rfl, hright⟩
        rw [if_neg hspanValid, if_neg hspanValid]
        obtain ⟨hle, hstop⟩ : span.start ≤ span.stop ∧ span.stop ≤ item.total := by
          simpa [spanValidGlobal] using hspanValid
        rw [lineColSpan_located hzero hle hstop]
        by_cases hahead : (cursor.cursorValid && decide (span.start ≥ cursor.offset)) = true
        · -- the scan goes on from the position of the cursor
          rw [if_pos hahead]
          simp only [Bool.and_eq_true, decide_eq_true_eq] at hahead
          simp only [Bool.and_eq_true, beq_iff_eq] at hsame
          obtain ⟨hoffset, hposition⟩ := hright.located item hsame.1 hahead.1 (hsame.2 ▸ hitem)
          rw [hposition, lineColAdvance_located hzero hahead.2 (Nat.le_trans hle hstop),
            lineColAdvance_located hzero hle hstop]
          exact ⟨rfl, mappedTransition_right _ hitem hzero hstop⟩
        · rw [if_neg hahead]
          exact ⟨rfl, mappedTransition_right _ hitem hzero hstop⟩
      · simp only [Bool.not_eq_true] at hsame
        simp only [hsame, Bool.not_false, Bool.true_and, bne_iff_ne, Bool.false_eq_true, if_false, Bool.false_and]
        have hsource : ∀ other, inp.sources[span.sourceIndex]? = some other → item = other := by
          intro other hother
          exact Option.some.inj (hitem.symm.trans hother)
        by_cases hzero : validatePages (slicePages inp item) item.stride item.total = 0
        · rw [if_neg (not_not.mpr hzero), if_neg (not_not.mpr hzero)]
          by_cases hspanValid : (!spanValidGlobal item.total span.start span.stop) = true
          · rw [if_pos hspanValid, if_pos hspanValid]
            refine ⟨rfl, freshCursor_right ?_⟩
            intro other hother
            rwa [← hsource other hother]
          rw [if_neg hspanValid, if_neg hspanValid]
          obtain ⟨hle, hstop⟩ : span.start ≤ span.stop ∧ span.stop ≤ item.total := by
            simpa [spanValidGlobal] using hspanValid
          rw [lineColSpan_located hzero hle hstop]
          exact ⟨rfl, mappedTransition_right _ hitem hzero hstop⟩
        · rw [if_pos hzero, if_pos hzero]
          refine ⟨rfl, invalidCursor_right ?_⟩
          intro other hother _ _
          rwa [← hsource other hother]

/-- What `n` passes have rendered. -/
theorem iterate_projectDiagnosticLocationStep (inp : Input) (n : Nat) {st : ProjectDiagnosticLocationWalk}
    (hright : st.cursor.Right inp) :
    ((projectDiagnosticLocationStep inp)^[n] st).acc =
      ((st.rest.take n).map (projectDiagnosticLocation inp)).reverse ++ st.acc := by
  induction n generalizing st with
  | zero => simp
  | succ n ih =>
      rw [Function.iterate_succ_apply]
      obtain ⟨rest, acc, cursor⟩ := st
      cases rest with
      | nil =>
          rw [show projectDiagnosticLocationStep inp ⟨[], acc, cursor⟩ = ⟨[], acc, cursor⟩ from rfl, ih hright]
          simp
      | cons diagnostic rest =>
          obtain ⟨hlocation, hnext⟩ := projectDiagnosticLocationCursor_exact diagnostic hright
          have hstep : projectDiagnosticLocationStep inp ⟨diagnostic :: rest, acc, cursor⟩ =
              ⟨rest, projectDiagnosticLocation inp diagnostic :: acc,
                (projectDiagnosticLocationCursor inp diagnostic cursor).cursor⟩ := by
            rw [← hlocation]
            rfl
          rw [hstep, ih hnext]
          simp

/-- **The cursor is transparent.** Every list of as many diagnostics as two loop levels take is rendered one diagnostic
    after the other, whatever the sources, the pages and the order of the diagnostics are. -/
theorem locateProjectDiagnosticsGlobal_eq (inp : Input) (diagnostics : List ProjectDiagnostic)
    (hbound : diagnostics.length ≤ 1048576) :
    locateProjectDiagnosticsGlobal inp diagnostics = diagnostics.map (projectDiagnosticLocation inp) := by
  have hfix : ∀ st : ProjectDiagnosticLocationWalk, st.rest.isEmpty = true →
      projectDiagnosticLocationStep inp st = st := by
    rintro ⟨rest, acc, cursor⟩ hrest
    obtain rfl := List.isEmpty_iff.mp hrest
    rfl
  have hall : diagnostics.length ≤ 1024 * 1024 := hbound
  unfold locateProjectDiagnosticsGlobal
  rw [iterate_batches (fun outer : ProjectDiagnosticLocationWalk => reverseProjectDiagnosticLocations outer.acc) hfix,
    iterate_projectDiagnosticLocationStep inp _ (initialCursor_right inp), reverseProjectDiagnosticLocations,
    reverseBatches_eq, List.take_of_length_le hall, List.append_nil, List.take_of_length_le, List.reverse_reverse]
  rw [List.length_reverse, List.length_map]
  exact hall

/-- Two diagnostics of one source of three bytes, the second one further on than the first. -/
theorem locateProjectDiagnosticsGlobal_two :
    locateProjectDiagnosticsGlobal
        ⟨[{ sourceId := [], sourcePath := [], pageStart := 0, pageCount := 1, stride := 4, total := 3 }], [[65, 10, 66]]⟩
        [.duplicateModule 0 0 1, .missingImport 0 2 3] =
      [.duplicateModule 0 0 1, .missingImport 0 2 3].map (projectDiagnosticLocation
        ⟨[{ sourceId := [], sourcePath := [], pageStart := 0, pageCount := 1, stride := 4, total := 3 }],
          [[65, 10, 66]]⟩) :=
  locateProjectDiagnosticsGlobal_eq _ _ (by decide)

end MncsCompiler.Project
