import MncsCompiler.Decl.Digits
import MncsCompiler.Project.Names
import MncsCompiler.Source.Layouts

/-!
# `Project.Duplicates` — modules of one name

`build_modules` gives every source a module, and a module the header of its source, accepted or not.
`duplicate_modules` reports a module when the span that its header holds for the name equals that of an earlier one.
-/

namespace MncsCompiler.Project

open BoundedLoop Decl

/-! ## The modules of the sources -/

/-- The module of a source. -/
def moduleAt (inp : Input) (targetSourceIndex : Nat) (targetOnly : Bool) (index : Nat) (item : ProjectSource)
    : ParsedModule :=
  { sourceId := item.sourceId, sourcePath := item.sourcePath, sourceIndex := index
    unit :=
      parseProjectUnit { pages := modulePages inp index, stride := item.stride, total := item.total } index
        targetSourceIndex targetOnly }

/-- The modules that `build_modules` and `reverse_modules` make. -/
def parsedModules (inp : Input) (targetSourceIndex : Nat) (targetOnly : Bool) : List ParsedModule :=
  reverseModules inp.sources (buildModules inp targetSourceIndex targetOnly).acc

theorem buildModules_acc (inp : Input) (targetSourceIndex : Nat) (targetOnly : Bool) :
    (buildModules inp targetSourceIndex targetOnly).acc =
      (inp.sources.mapIdx (moduleAt inp targetSourceIndex targetOnly)).reverse := by
  have hrun := carry_invariant (f := buildOneModule inp targetSourceIndex targetOnly)
    (P := fun i (st : ModuleBuild) =>
      st.acc = ((inp.sources.take i).mapIdx (moduleAt inp targetSourceIndex targetOnly)).reverse)
    (i := 0) (n := inp.sources.length)
    (s := { acc := [], valid := true, count := 0, parseFailed := false, parseIndex := 0, parseStart := 0
            parseStop := 0 }) rfl ?_
  · rw [Nat.zero_add, List.take_length] at hrun
    exact hrun
  · intro i st _ hi hacc
    have hlt : i < inp.sources.length := by omega
    rw [buildOneModule, List.getElem?_eq_getElem hlt]
    dsimp only
    rw [hacc, List.take_add_one, List.getElem?_eq_getElem hlt, Option.toList_some, List.mapIdx_concat,
      List.reverse_append, List.length_take, Nat.min_eq_left (Nat.le_of_lt hlt)]
    rfl

/-- **One module for each source**, in order. -/
theorem parsedModules_eq (inp : Input) (targetSourceIndex : Nat) (targetOnly : Bool) :
    parsedModules inp targetSourceIndex targetOnly = inp.sources.mapIdx (moduleAt inp targetSourceIndex targetOnly) := by
  rw [parsedModules, reverseModules, reverseWithin_eq, buildModules_acc, List.take_of_length_le, List.reverse_reverse]
  exact Nat.le_of_eq (by rw [List.length_reverse, List.length_mapIdx])

/-! ## Headers -/

theorem finishUnit_header (src : Source) (head : Parser.Header) (st : UnitState) :
    (finishUnit src head st).header = head := by
  unfold finishUnit
  dsimp only
  split
  · rfl
  split
  · rfl
  split
  · rfl
  split <;> rfl

theorem unitStep_fixed (src : Source) (st : UnitState) (h : (st.done || !st.ok) = true) : unitStep src st = st := by
  rw [unitStep, if_pos (by rwa [Bool.or_comm])]

/-- The header of a unit, whether the rest parses or not. -/
theorem parseUnitMode_header (src : Source) (retainBodies : Bool) :
    (parseUnitMode src retainBodies).header =
      if validatePages src.pages src.stride src.total ≠ 0 then Parser.seed else header src := by
  unfold parseUnitMode
  dsimp only
  split
  · rfl
  split
  · rfl
  split
  · rfl
  · rw [iterate_batches (finishUnit src (header src)) (unitStep_fixed src), finishUnit_header]

/-- The header that the module of a source holds. -/
def sourceHeader (inp : Input) (index : Nat) : Parser.Header := (parseUnit (moduleSource inp index)).header

theorem moduleAt_header {inp : Input} {index : Nat} {item : ProjectSource} (hitem : inp.sources[index]? = some item)
    (targetSourceIndex : Nat) (targetOnly : Bool) :
    (moduleAt inp targetSourceIndex targetOnly index item).unit.header = sourceHeader inp index := by
  have hsrc : moduleSource inp index =
      { pages := modulePages inp index, stride := item.stride, total := item.total } := by
    rw [moduleSource, moduleStride, moduleTotal, hitem]
  rw [moduleAt, sourceHeader, parseUnit, hsrc]
  dsimp only
  unfold parseProjectUnit
  split
  · rw [parseUnitSignatures, parseUnitMode_header, parseUnitMode_header]
  · rw [parseUnit]

theorem sourceHeader_of_valid {inp : Input} {index : Nat} {src : Source} (hsource : moduleSource inp index = src)
    (hvalid : validatePages src.pages src.stride src.total = 0) : sourceHeader inp index = header src := by
  rw [sourceHeader, hsource, parseUnit, parseUnitMode_header, if_neg (not_not.mpr hvalid)]

/-- The header of a source was accepted. -/
def HeaderParsed (inp : Input) (index : Nat) : Prop := (sourceHeader inp index).state = 8

/-- Behind the first component of the name its span is a span, and the machine reads on behind it. -/
def NameRead (st : Parser.Header) : Prop :=
  5 ≤ st.state → st.moduleStart < st.moduleStop ∧ st.moduleStop ≤ st.nextOffset

theorem headerStep_nameRead {text : View} (c : Composition text) {st : Parser.Header} (h : NameRead st) :
    NameRead (headerStep (.ofPages c) st) := by
  rw [headerStep, Parser.stepGlobal, Source.ofPages]
  split
  · exact h
  have hword := @significantGlobal_word text c st.nextOffset
  have hgap := @significantGlobal_gap text c st.nextOffset
  obtain ⟨n, p, hskips, heq⟩ := significantGlobal_skips c st.nextOffset
  dsimp only
  generalize significantGlobal c.pages c.stride text.length st.nextOffset = token at hword hgap heq ⊢
  rcases Parser.move_cases token st with ⟨state, -, hnext, hmove⟩ | ⟨-, code, -, -, hmove⟩
  · rw [hmove]
    intro hstate
    dsimp only [Parser.accept] at hstate ⊢
    by_cases hname : st.state = 4 ∨ st.state = 6
    · -- a component of the name
      have hkind : token.kind = 4 ∨ token.kind = 10 := by
        unfold Parser.next at hnext
        rcases hname with h4 | h6 <;> simp_all
      have hkindWord : wordKind token.kind := by
        rw [wordKind]
        omega
      have hlt := (hword hkindWord).lt
      have hstart := (hgap (.inl hkindWord)).1
      rcases hname with h4 | h6
      · simp only [h4, if_true, true_or]
        exact ⟨hlt, Nat.le_refl _⟩
      · have hbefore := h (by omega)
        rw [h6, if_neg (by decide), if_pos (.inr rfl)]
        exact ⟨by omega, Nat.le_refl _⟩
    · -- a dot or the semicolon
      have hopen : 5 ≤ st.state := by
        unfold Parser.next at hnext
        by_contra hlow
        have hcases : st.state = 0 ∨ st.state = 1 ∨ st.state = 2 ∨ st.state = 3 := by omega
        rcases hcases with h0 | h1 | h2 | h3 <;> simp_all <;> omega
      have hkind : token.kind = 61 ∨ token.kind = 63 := by
        unfold Parser.next at hnext
        have hnot : st.state ≠ 0 ∧ st.state ≠ 1 ∧ st.state ≠ 2 ∧ st.state ≠ 3 ∧ st.state ≠ 4 ∧ st.state ≠ 6 := by omega
        simp only [hnot.1, hnot.2.1, hnot.2.2.1, hnot.2.2.2.1, hnot.2.2.2.2.1, hnot.2.2.2.2.2, if_false,
          Bool.or_self, decide_false, Bool.false_eq_true] at hnext
        split at hnext
        · exact .inl ‹_›
        · split at hnext
          · exact .inr ‹_›
          · cases hnext
      have hbefore := h hopen
      have hstop : st.nextOffset ≤ token.stop := by
        have hpunct := @windowToken_punctuation text p (by rw [← heq]; omega)
        have hle := hskips.le
        rw [heq, hpunct.2]
        omega
      rw [if_neg (fun h4 => hname (.inl h4)), if_neg hname]
      exact ⟨hbefore.1, Nat.le_trans hbefore.2 hstop⟩
  · rw [hmove]
    exact h

theorem header_nameRead {text : View} (c : Composition text) : NameRead (header (.ofPages c)) := by
  rw [header_steps]
  generalize 1025 = n
  induction n with
  | zero =>
      intro h
      cases h
  | succ n ih =>
      rw [Function.iterate_succ_apply']
      exact headerStep_nameRead c ih

theorem length_modulePages_le (inp : Input) (index : Nat) : (modulePages inp index).length ≤ inp.flatPages.length := by
  unfold modulePages
  split
  · exact Nat.zero_le _
  split
  · exact Nat.zero_le _
  split
  · exact Nat.zero_le _
  · exact Nat.le_trans (List.length_take_le' ..) (by rw [List.length_drop]; exact Nat.sub_le ..)

/-- Admitted pages hold at most 1024 pages of 1024 bytes. -/
theorem admittedPages_small {pages : List View} {stride total : Nat} (hvalid : validatePages pages stride total = 0)
    (hcount : pages.length ≤ 1024) : pages.flatten.length ≤ 1048576 := by
  obtain ⟨⟨hpos, hle⟩, hpages, -, hsum⟩ := (validatePages_eq_zero_iff pages stride total).mp hvalid
  rw [← List.length_flatten] at hsum
  rw [hsum]
  have hcover := Nat.lt_div_mul_add hpos (a := total + stride - 1)
  have hmul := Nat.mul_le_mul (hpages ▸ hcount) hle
  omega

/-- The composition of a source whose pages are admitted. -/
def admittedPages {pages : List View} {stride total : Nat} (hvalid : validatePages pages stride total = 0)
    (hcount : pages.length ≤ 1024) : Composition pages.flatten where
  pages := pages
  stride := stride
  valid := (Layout.ofPages hvalid).valid
  content := (Layout.ofPages hvalid).content
  small := admittedPages_small hvalid hcount

/-- **An accepted header has a name.** -/
theorem HeaderParsed.name_lt {inp : Input} {index : Nat} (h : HeaderParsed inp index)
    (hcount : (modulePages inp index).length ≤ 1024) :
    (sourceHeader inp index).moduleStart < (sourceHeader inp index).moduleStop := by
  unfold HeaderParsed sourceHeader parseUnit at *
  rw [parseUnitMode_header] at h ⊢
  by_cases hvalid : validatePages (moduleSource inp index).pages (moduleSource inp index).stride
      (moduleSource inp index).total = 0
  · rw [if_neg (not_not.mpr hvalid)] at h ⊢
    have hsum := ((validatePages_eq_zero_iff _ _ _).mp hvalid).2.2.2
    have hsource : Source.ofPages (admittedPages hvalid hcount) = moduleSource inp index := by
      rw [Source.ofPages, List.length_flatten, hsum]
      rfl
    have hread := header_nameRead (admittedPages hvalid hcount)
    rw [hsource] at hread
    exact (hread (by rw [h]; decide)).1
  · rw [if_pos hvalid] at h
    cases h

/-- The name that the header of a source spells, in full when it was accepted. -/
def moduleName (inp : Input) (index : Nat) : List Nat :=
  spelled inp index (sourceHeader inp index).moduleStart (sourceHeader inp index).moduleStop

/-! ## Scans -/

/-- The modules before a source. -/
def earlier (current : ParsedModule) (all : List ParsedModule) : List ParsedModule :=
  all.takeWhile fun candidate => candidate.sourceIndex < current.sourceIndex

/-- A scan stops at the first module that is not an earlier one, and at the first name that is equal. -/
theorem iterate_duplicateScanStep (inp : Input) (n : Nat) {st : DuplicateScan} (hopen : st.found = false)
    (hindex : st.currentIndex = st.current.sourceIndex) :
    ((duplicateScanStep inp)^[n] st).found =
      (earlier st.current (st.rest.take n)).any (moduleNamesEqual inp st.current) := by
  induction n generalizing st with
  | zero => exact hopen
  | succ n ih =>
      rw [Function.iterate_succ_apply]
      cases hrest : st.rest with
      | nil =>
          have hstep : duplicateScanStep inp st = st := by
            rw [duplicateScanStep, if_neg (by simp [hopen]), hrest]
          rw [hstep, ih hopen hindex, hrest, List.take_nil, List.take_nil]
      | cons candidate tail =>
          have hstep : duplicateScanStep inp st = duplicateScanCandidate inp st candidate tail := by
            rw [duplicateScanStep, if_neg (by simp [hopen]), hrest]
          rw [hstep, duplicateScanCandidate, List.take_succ_cons, earlier]
          by_cases hlater : candidate.sourceIndex ≥ st.currentIndex
          · -- nothing is left to scan
            rw [if_pos hlater, List.takeWhile_cons_of_neg (by simpa [← hindex] using hlater), List.any_nil,
              Function.iterate_fixed (by rfl)]
          rw [if_neg hlater, List.takeWhile_cons_of_pos (by simpa [← hindex] using hlater), List.any_cons]
          dsimp only
          cases hequal : moduleNamesEqual inp st.current candidate with
          | true =>
              rw [if_pos rfl, Bool.true_or, Function.iterate_fixed (by rfl)]
          | false =>
              rw [if_neg Bool.false_ne_true, Bool.false_or]
              exact @ih { st with rest := tail } hopen hindex

theorem findDuplicateModule_found (inp : Input) (all : List ParsedModule) (current : ParsedModule) :
    (findDuplicateModule inp all current).found =
      (earlier current (all.take inp.sources.length)).any (moduleNamesEqual inp current) :=
  @iterate_duplicateScanStep inp inp.sources.length
    { rest := all, currentIndex := current.sourceIndex, current := current, found := false, index := 0, start := 0
      stop := 0 } rfl rfl

/-- The report of a module, if it has one. -/
def duplicateOf (inp : Input) (all : List ParsedModule) (current : ParsedModule) : Option ProjectDiagnostic :=
  if (findDuplicateModule inp all current).found then
    some (.duplicateModule current.sourceIndex current.unit.header.moduleStart current.unit.header.moduleStop)
  else none

theorem duplicateDiagnostic_eq (inp : Input) (all : List ParsedModule) (current : ParsedModule)
    (diagnostics : List ProjectDiagnostic) :
    duplicateDiagnostic current (findDuplicateModule inp all current).found diagnostics =
      (duplicateOf inp all current).toList ++ diagnostics := by
  rw [duplicateDiagnostic, duplicateOf]
  cases (findDuplicateModule inp all current).found <;> rfl

theorem iterate_duplicateModuleStep (inp : Input) (n : Nat) (st : DuplicateState) :
    ((duplicateModuleStep inp)^[n] st).diagnostics =
      ((st.rest.take n).filterMap (duplicateOf inp st.all)).reverse ++ st.diagnostics := by
  induction n generalizing st with
  | zero => rfl
  | succ n ih =>
      rw [Function.iterate_succ_apply]
      cases hrest : st.rest with
      | nil =>
          have hstep : duplicateModuleStep inp st = st := by rw [duplicateModuleStep, hrest]
          rw [hstep, ih, hrest, List.take_nil, List.take_nil]
      | cons current tail =>
          have hstep : duplicateModuleStep inp st = duplicateModuleCons inp st current tail := by
            rw [duplicateModuleStep, hrest]
          rw [hstep, ih, duplicateModuleCons]
          dsimp only
          rw [duplicateDiagnostic_eq, List.take_succ_cons, List.filterMap_cons]
          cases duplicateOf inp st.all current with
          | none => rfl
          | some diagnostic =>
              rw [List.reverse_cons, List.append_assoc]
              rfl

/-- The reports of the modules, in order. -/
theorem duplicateModules_eq {inp : Input} (hsources : inp.sources.length ≤ 64) (modules : List ParsedModule) :
    duplicateModules inp modules = (modules.take inp.sources.length).filterMap (duplicateOf inp modules) := by
  have hlength : ((modules.take inp.sources.length).filterMap (duplicateOf inp modules)).length ≤ 1024 * 1024 := by
    refine Nat.le_trans (List.length_filterMap_le ..) (Nat.le_trans (List.length_take_le ..) ?_)
    omega
  rw [duplicateModules, iterate_duplicateModuleStep, List.append_nil, reverseDiagnostics, reverseBatches_eq,
    List.take_of_length_le (by rwa [List.length_reverse]), List.reverse_reverse]

/-! ## Reports -/

/-- The comparison of the names of two sources. -/
def headerNamesEqual (inp : Input) (k j : Nat) : Bool :=
  spansEqualBetween inp k (sourceHeader inp k).moduleStart (sourceHeader inp k).moduleStop j
    (sourceHeader inp j).moduleStart (sourceHeader inp j).moduleStop

/-- The name of a source is that of an earlier one, for the comparison. -/
def Repeats (inp : Input) (k : Nat) : Prop := ∃ j < k, headerNamesEqual inp k j = true

instance (inp : Input) (k : Nat) : Decidable (Repeats inp k) :=
  inferInstanceAs (Decidable (∃ j < k, headerNamesEqual inp k j = true))

def duplicateReport (inp : Input) (k : Nat) : ProjectDiagnostic :=
  .duplicateModule k (sourceHeader inp k).moduleStart (sourceHeader inp k).moduleStop

def reportOf (inp : Input) (k : Nat) : Option ProjectDiagnostic :=
  if Repeats inp k then some (duplicateReport inp k) else none

theorem moduleNamesEqual_at {inp : Input} {k j : Nat} {item other : ProjectSource}
    (hitem : inp.sources[k]? = some item) (hother : inp.sources[j]? = some other) (targetSourceIndex : Nat)
    (targetOnly : Bool) :
    moduleNamesEqual inp (moduleAt inp targetSourceIndex targetOnly k item)
      (moduleAt inp targetSourceIndex targetOnly j other) = headerNamesEqual inp k j := by
  unfold moduleNamesEqual
  rw [moduleAt_header hitem, moduleAt_header hother]
  rfl

/-- The modules before a source are those of the sources before it. -/
theorem earlier_moduleAt {inp : Input} {k : Nat} {item : ProjectSource} (hitem : inp.sources[k]? = some item)
    (targetSourceIndex : Nat) (targetOnly : Bool) :
    earlier (moduleAt inp targetSourceIndex targetOnly k item)
        (inp.sources.mapIdx (moduleAt inp targetSourceIndex targetOnly)) =
      (inp.sources.take k).mapIdx (moduleAt inp targetSourceIndex targetOnly) := by
  obtain ⟨hk, hget⟩ := List.getElem?_eq_some_iff.mp hitem
  have hsplit : inp.sources = inp.sources.take k ++ item :: inp.sources.drop (k + 1) := by
    rw [← hget, ← List.drop_eq_getElem_cons hk, List.take_append_drop]
  have hlen : (inp.sources.take k).length = k := by
    rw [List.length_take]
    omega
  conv_lhs => rw [hsplit, List.mapIdx_append, List.mapIdx_cons, hlen, Nat.zero_add, earlier]
  rw [List.takeWhile_append_of_pos, List.takeWhile_cons_of_neg, List.append_nil]
  · simp [moduleAt]
  · intro candidate hcandidate
    obtain ⟨i, hi, rfl⟩ := List.mem_mapIdx.mp hcandidate
    rw [hlen] at hi
    simpa [moduleAt] using hi

theorem duplicateOf_moduleAt {inp : Input} {k : Nat} {item : ProjectSource} (hitem : inp.sources[k]? = some item)
    (targetSourceIndex : Nat) (targetOnly : Bool) :
    duplicateOf inp (parsedModules inp targetSourceIndex targetOnly)
      (moduleAt inp targetSourceIndex targetOnly k item) = reportOf inp k := by
  have hfound : (findDuplicateModule inp (parsedModules inp targetSourceIndex targetOnly)
      (moduleAt inp targetSourceIndex targetOnly k item)).found = true ↔ Repeats inp k := by
    rw [findDuplicateModule_found, parsedModules_eq, List.take_of_length_le (by simp), earlier_moduleAt hitem,
      List.any_eq_true, Repeats]
    obtain ⟨hk, -⟩ := List.getElem?_eq_some_iff.mp hitem
    constructor
    · rintro ⟨candidate, hmem, hequal⟩
      obtain ⟨j, hj, rfl⟩ := List.mem_mapIdx.mp hmem
      rw [List.length_take] at hj
      have hother : inp.sources[j]? = some ((inp.sources.take k)[j]) := by
        rw [List.getElem_take, List.getElem?_eq_getElem (by omega)]
      exact ⟨j, by omega, by rwa [moduleNamesEqual_at hitem hother] at hequal⟩
    · rintro ⟨j, hj, hequal⟩
      have hjk : j < (inp.sources.take k).length := by
        rw [List.length_take]
        omega
      have hother : inp.sources[j]? = some ((inp.sources.take k)[j]) := by
        rw [List.getElem_take, List.getElem?_eq_getElem (by omega)]
      exact ⟨_, List.mem_mapIdx.mpr ⟨j, hjk, rfl⟩, by rwa [moduleNamesEqual_at hitem hother]⟩
  have hheader := moduleAt_header hitem targetSourceIndex targetOnly
  rw [duplicateOf, reportOf, hheader]
  by_cases hrepeats : Repeats inp k
  · rw [if_pos (hfound.mpr hrepeats), if_pos hrepeats]
    rfl
  · rw [if_neg (fun h => hrepeats (hfound.mp h)), if_neg hrepeats]

/-- **The reports of a project**, one for each source that repeats a name, in order. -/
theorem duplicateModules_parsed {inp : Input} (hsources : inp.sources.length ≤ 64) (targetSourceIndex : Nat)
    (targetOnly : Bool) :
    duplicateModules inp (parsedModules inp targetSourceIndex targetOnly) =
      (List.range inp.sources.length).filterMap (reportOf inp) := by
  have hmap : (inp.sources.mapIdx (moduleAt inp targetSourceIndex targetOnly)).map
      (duplicateOf inp (parsedModules inp targetSourceIndex targetOnly)) =
      (List.range inp.sources.length).map (reportOf inp) := by
    apply List.ext_getElem
    · simp
    · intro k hk _
      have hlt : k < inp.sources.length := by simpa using hk
      rw [List.getElem_map, List.getElem_map, List.getElem_mapIdx, List.getElem_range,
        duplicateOf_moduleAt (List.getElem?_eq_getElem hlt)]
  have hfilter : ∀ (α : Type) (f : α → Option ProjectDiagnostic) (l : List α),
      l.filterMap f = (l.map f).filterMap id := by
    intro α f l
    rw [List.filterMap_map]
    rfl
  rw [duplicateModules_eq hsources, List.take_of_length_le (by simp [parsedModules_eq]),
    hfilter _ (duplicateOf inp (parsedModules inp targetSourceIndex targetOnly)), hfilter _ (reportOf inp), ← hmap,
    ← parsedModules_eq]

end MncsCompiler.Project
