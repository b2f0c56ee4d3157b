import MncsCompiler.Decl.CallSites
import MncsCompiler.Decl.Signatures

/-!
# `Decl.Nominals` — declared types and references to types

What a module tells the project about nominal types: the identities of the records and enums that it declares, and
the spans at which its signatures, fields, annotations, constructions and patterns refer to a type.
-/

namespace MncsCompiler.Decl

open BoundedLoop

/-! ## Local identities -/

def localNominalTypeIdentities (src : Source) (unit : Unit) : List NominalTypeIdentity :=
  localNominalTypeIdentitiesWithReferences src unit []

def nominalReferenceEntryOne (st : Sweep NominalTypeIdentity (List NominalTypeIdentity)) (item : NominalTypeIdentity)
    (rest : List NominalTypeIdentity) : Sweep NominalTypeIdentity (List NominalTypeIdentity) :=
  if item.reference then { rest := rest, acc := item :: st.acc } else { rest := rest, acc := st.acc }

def nominalReferenceEntryStep (st : Sweep NominalTypeIdentity (List NominalTypeIdentity))
    : Sweep NominalTypeIdentity (List NominalTypeIdentity) :=
  match st.rest with
  | [] => st
  | item :: rest => nominalReferenceEntryOne st item rest

def nominalReferenceEntries (types : List NominalTypeIdentity) : List NominalTypeIdentity :=
  (nominalReferenceEntryStep^[1024] { rest := types, acc := [] }).acc

def combineNominalTypeIdentities (locals references : List NominalTypeIdentity) : List NominalTypeIdentity :=
  prependWithin 1024 locals references

/-! ## References to types -/

structure NominalSpanWalk where
  fns : List FnDecl
  records : List RecordDecl
  enums : List EnumDecl
  acc : List NominalTypeSpan

structure NominalFieldWalk where
  fields : List Field
  acc : List NominalTypeSpan

structure NominalVariantWalk where
  variants : List Variant
  acc : List NominalTypeSpan

structure NominalStmtWalk where
  rest : List Stmt
  acc : List NominalTypeSpan

def collectSequenceFieldNominalSpan (src : Source) (st : NominalFieldWalk) (field : Field) (rest : List Field)
    : NominalFieldWalk :=
  let element := parseType src (field.typeStart + 1)
  if element.ok && (element.node.kind = 5 || element.node.kind = 6) then
    { fields := rest
      acc := { start := element.node.start, stop := element.node.stop, kind := element.node.kind } :: st.acc }
  else { fields := rest, acc := st.acc }

def collectOneFieldNominalSpan (src : Source) (st : NominalFieldWalk) (field : Field) (rest : List Field)
    : NominalFieldWalk :=
  if field.typeKind = 5 || field.typeKind = 6 then
    { fields := rest, acc := { start := field.typeStart, stop := field.typeStop, kind := field.typeKind } :: st.acc }
  else if field.typeKind = 7 || field.typeKind = 8 then collectSequenceFieldNominalSpan src st field rest
  else { fields := rest, acc := st.acc }

def collectFieldNominalSpanStep (src : Source) (st : NominalFieldWalk) : NominalFieldWalk :=
  match st.fields with
  | field :: rest => collectOneFieldNominalSpan src st field rest
  | [] => st

def collectFieldNominalSpans (src : Source) (fields : List Field) (acc : List NominalTypeSpan)
    : List NominalTypeSpan :=
  ((collectFieldNominalSpanStep src)^[1024] { fields := fields, acc := acc }).acc

def collectVariantNominalSpanStep (src : Source) (st : NominalVariantWalk) : NominalVariantWalk :=
  match st.variants with
  | variant :: rest => { variants := rest, acc := collectFieldNominalSpans src variant.fields st.acc }
  | [] => st

def collectVariantNominalSpans (src : Source) (variants : List Variant) (acc : List NominalTypeSpan)
    : List NominalTypeSpan :=
  ((collectVariantNominalSpanStep src)^[1024] { variants := variants, acc := acc }).acc

def collectOneEnumNominalSpans (src : Source) (st : NominalSpanWalk) (enumDecl : EnumDecl) (rest : List EnumDecl)
    : NominalSpanWalk :=
  let acc := collectVariantNominalSpans src enumDecl.variants st.acc
  { st with enums := rest, acc := acc }

def collectEnumNominalSpans (src : Source) (st : NominalSpanWalk) : NominalSpanWalk :=
  match st.enums with
  | enumDecl :: rest => collectOneEnumNominalSpans src st enumDecl rest
  | [] => st

def collectOneRecordNominalSpans (src : Source) (st : NominalSpanWalk) (recordDecl : RecordDecl)
    (rest : List RecordDecl) : NominalSpanWalk :=
  let acc := collectFieldNominalSpans src recordDecl.fields st.acc
  { st with records := rest, acc := acc }

def collectRecordNominalSpans (src : Source) (st : NominalSpanWalk) : NominalSpanWalk :=
  match st.records with
  | recordDecl :: rest => collectOneRecordNominalSpans src st recordDecl rest
  | [] => collectEnumNominalSpans src st

def collectLetNominalSpan (src : Source) (st : NominalStmtWalk) (rest : List Stmt) (kind start stop : Nat)
    : NominalStmtWalk :=
  if kind = 5 || kind = 6 then { rest := rest, acc := { start := start, stop := stop, kind := kind } :: st.acc }
  else
    let element := parseType src (start + 1)
    if (kind = 7 || kind = 8) && element.ok && (element.node.kind = 5 || element.node.kind = 6) then
      { rest := rest
        acc := { start := element.node.start, stop := element.node.stop, kind := element.node.kind } :: st.acc }
    else { rest := rest, acc := st.acc }

/-- The annotation of the carried value counts like that of a `let`; the loop body queues for its own walk. -/
def collectIterateNominalSpan (src : Source) (st : NominalStmtWalk) (rest body : List Stmt) (kind start stop : Nat)
    : NominalStmtWalk :=
  let queued := appendStmts body rest
  collectLetNominalSpan src st queued kind start stop

def collectOneBodyNominalSpan (src : Source) (st : NominalStmtWalk) (statement : Stmt) (rest : List Stmt)
    : NominalStmtWalk :=
  match statement with
  | .letStmt _ _ ts te kind _ _ _ => collectLetNominalSpan src st rest kind ts te
  | .ifStmt _ thenBody elseBody _ _ => { rest := appendStmts thenBody (appendStmts elseBody rest), acc := st.acc }
  | .failStmt _ _ _ _ => { rest := rest, acc := st.acc }
  | .returnStmt _ _ _ => { rest := rest, acc := st.acc }
  | .iterateStmt _ _ _ _ _ _ _ _ ts te tk _ b _ _ _ _ _ => collectIterateNominalSpan src st rest b tk ts te

def collectBodyNominalSpanStep (src : Source) (st : NominalStmtWalk) : NominalStmtWalk :=
  match st.rest with
  | [] => st
  | statement :: rest => collectOneBodyNominalSpan src st statement rest

def collectBodyNominalSpans (src : Source) (body : List Stmt) (acc : List NominalTypeSpan) : List NominalTypeSpan :=
  ((collectBodyNominalSpanStep src)^[1024] { rest := body, acc := acc }).acc

def collectFunctionNominalSpans (src : Source) (st : NominalSpanWalk) (function : FnDecl) (rest : List FnDecl)
    : NominalSpanWalk :=
  let params := collectFieldNominalSpans src function.sig.params st.acc
  let results := collectFieldNominalSpans src function.sig.results params
  let body := collectBodyNominalSpans src function.body.body results
  { st with fns := rest, acc := body }

def collectUnitNominalSpanStep (src : Source) (st : NominalSpanWalk) : NominalSpanWalk :=
  match st.fns with
  | function :: rest => collectFunctionNominalSpans src st function rest
  | [] => collectRecordNominalSpans src st

structure NominalPathScan where
  cursor : Nat
  stop : Nat
  hasDot : Bool
  done : Bool

def nominalPatternPathDotStep (src : Source) (st : NominalPathScan) : NominalPathScan :=
  let token := src.token st.cursor
  if token.diagnostic ≠ 0 || token.start ≥ st.stop then { st with done := true }
  else
    let dot := st.hasDot || token.kind = 61
    { cursor := token.stop, stop := st.stop, hasDot := dot, done := token.stop ≥ st.stop }

def nominalPatternPathHasDot (src : Source) (start stop : Nat) : Bool :=
  let first := src.token start
  let seed : NominalPathScan :=
    { cursor := first.stop, stop := stop, hasDot := false, done := first.diagnostic ≠ 0 || first.stop ≥ stop }
  (iterate (fun _ (st : NominalPathScan) =>
        if st.done then .ret st.hasDot else .next (nominalPatternPathDotStep src st))
      0 128 seed).after NominalPathScan.hasDot

/-- The span of a construction, or of the qualifier of a pattern. -/
def qualifiedNominalSpan (src : Source) (reference : CallSite) : NominalTypeSpan :=
  let qualified := nominalPatternPathHasDot src reference.start reference.stop
  { start := reference.start, stop := reference.stop, kind := if qualified then 6 else 5 }

def expressionNominalTypeSpans (src : Source) (references : List CallSite) : List NominalTypeSpan :=
  collectWithin 1024 (qualifiedNominalSpan src) references

def finitePatternNominalSpans (src : Source) (qualifiers : List CallSite) : List NominalTypeSpan :=
  collectWithin 1024 (qualifiedNominalSpan src) qualifiers

def appendNominalTypeSpans (add base : List NominalTypeSpan) : List NominalTypeSpan := prependWithin 1024 add base

def collectUnitNominalTypeSpans (src : Source) (unit : Unit) : List NominalTypeSpan :=
  let st := (collectUnitNominalSpanStep src)^[1024]
    { fns := unit.fns, records := unit.records, enums := unit.enums, acc := [] }
  let walked := collectCallWalk unit.fns
  let patterns := finitePatternNominalSpans src walked.patternQualifiers
  let constructions := expressionNominalTypeSpans src walked.nominalReferences
  appendNominalTypeSpans patterns (appendNominalTypeSpans constructions st.acc)

/-! ## Equal identities -/

/-- The bytes that an identity spells. -/
def SemanticIdentity.contents (identity : SemanticIdentity) : List UInt8 := identity.bytes.toList.take identity.len

/-- Bytes at an offset of two arrays of 512 bytes. -/
theorem getD_eq_iff {a b : Vector UInt8 512} {i : Nat} (hi : i < 512) :
    a.toArray.getD i 0 = b.toArray.getD i 0 ↔ a.toList[i]? = b.toList[i]? := by
  have hread : ∀ v : Vector UInt8 512, v.toList[i]? = some (v.toArray.getD i 0) := by
    intro v
    rw [Array.getD_eq_getD_getElem?, ← Vector.toList_toArray, Array.getElem?_toList,
      Array.getElem?_eq_getElem (by rw [v.size_toArray]; exact hi), Option.getD_some]
  rw [hread, hread, Option.some.injEq]

/-- The comparison over the first `n` bytes. -/
theorem carry_semanticIdentityEqualStep (a b : SemanticIdentity) (n : Nat) :
    carry (semanticIdentityEqualStep a b) 0 n true = true ↔
      ∀ i < n, i < a.len → a.bytes.toArray.getD i 0 = b.bytes.toArray.getD i 0 := by
  induction n with
  | zero => exact ⟨fun _ i hi => absurd hi (Nat.not_lt_zero i), fun _ => rfl⟩
  | succ n ih =>
      rw [carry_succ_last, Nat.zero_add, Nat.forall_lt_succ_right, ← ih]
      cases carry (semanticIdentityEqualStep a b) 0 n true with
      | false => simp [semanticIdentityEqualStep]
      | true =>
          rw [semanticIdentityEqualStep]
          by_cases hlen : n ≥ a.len
          · rw [if_pos (by simpa using hlen)]
            exact ⟨fun _ => ⟨rfl, fun hlt => absurd hlt (Nat.not_lt.mpr hlen)⟩, fun _ => rfl⟩
          · rw [if_neg (by simpa using hlen), decide_eq_true_eq]
            exact ⟨fun h => ⟨rfl, fun _ => h⟩, fun h => h.2 (Nat.not_le.mp hlen)⟩

/-- Equal identities are valid ones with the same bytes. -/
theorem semanticIdentityEqual_iff {a b : SemanticIdentity} : semanticIdentityEqual a b = true ↔
    a.valid = true ∧ b.valid = true ∧ a.len = b.len ∧ a.contents = b.contents := by
  rw [semanticIdentityEqual]
  by_cases hlen : a.len = b.len
  · have hbytes : carry (semanticIdentityEqualStep a b) 0 512 true = true ↔ a.contents = b.contents := by
      rw [carry_semanticIdentityEqualStep, SemanticIdentity.contents, SemanticIdentity.contents, ← hlen,
        List.ext_getElem?_iff]
      constructor
      · intro h i
        rw [List.getElem?_take, List.getElem?_take]
        split
        · by_cases hi : i < 512
          · exact (getD_eq_iff hi).mp (h i hi ‹_›)
          · rw [List.getElem?_eq_none (by simpa using hi), List.getElem?_eq_none (by simpa using hi)]
        · rfl
      · intro h i hi hlt
        have hat := h i
        rw [List.getElem?_take, List.getElem?_take, if_pos hlt, if_pos hlt] at hat
        exact (getD_eq_iff hi).mpr hat
    cases ha : a.valid <;> cases hb : b.valid <;> simp [hlen, hbytes]
  · rw [if_pos (by simp [hlen])]
    exact ⟨fun h => (nomatch h), fun h => absurd h.2.2.1 hlen⟩

theorem semanticIdentityEqual_refl {a : SemanticIdentity} (h : a.valid = true) : semanticIdentityEqual a a = true :=
  semanticIdentityEqual_iff.mpr ⟨h, h, rfl, rfl⟩

theorem semanticIdentityEqual_symm {a b : SemanticIdentity} (h : semanticIdentityEqual a b = true) :
    semanticIdentityEqual b a = true := by
  obtain ⟨ha, hb, hlen, hsame⟩ := semanticIdentityEqual_iff.mp h
  exact semanticIdentityEqual_iff.mpr ⟨hb, ha, hlen.symm, hsame.symm⟩

theorem semanticIdentityEqual_comm (a b : SemanticIdentity) : semanticIdentityEqual a b = semanticIdentityEqual b a :=
  Bool.eq_iff_iff.mpr ⟨semanticIdentityEqual_symm, semanticIdentityEqual_symm⟩

theorem semanticIdentityEqual_trans {a b c : SemanticIdentity} (h : semanticIdentityEqual a b = true)
    (h' : semanticIdentityEqual b c = true) : semanticIdentityEqual a c = true := by
  obtain ⟨ha, -, hlen, hsame⟩ := semanticIdentityEqual_iff.mp h
  obtain ⟨-, hc, hlen', hsame'⟩ := semanticIdentityEqual_iff.mp h'
  exact semanticIdentityEqual_iff.mpr ⟨ha, hc, hlen.trans hlen', hsame.trans hsame'⟩

/-! ## Lookups -/

section Lookups

variable (types : List NominalTypeIdentity)

/-- The lookup of a reference by its span. -/
theorem nominalIdentityAt_eq (start stop : Nat) :
    let item := (types.take 1024).find? fun item =>
      item.reference && item.start = start && item.stop = stop && item.identity.valid
    (nominalIdentityAt types start stop).found = item.isSome ∧ (nominalIdentityAt types start stop).identity =
      (item.map NominalTypeIdentity.identity).getD invalidSemanticIdentity := by
  have hscan := iterate_find (fun st => nominalIdentityAtStep st start stop)
    (fun list => { rest := list, found := false, identity := invalidSemanticIdentity })
    (fun item => item.reference && item.start = start && item.stop = stop && item.identity.valid)
    (fun item => { rest := [], found := true, identity := item.identity }) rfl (fun _ _ => rfl) (fun _ => rfl) 1024
    types
  rw [nominalIdentityAt, hscan]
  cases (types.take 1024).find? _ <;> exact ⟨rfl, rfl⟩

/-- The lookup of a declaration by its name. -/
theorem nominalIdentityByName_eq (src : Source) (start stop : Nat) :
    let item := (types.take 1024).find? fun item => !item.reference && spansEqual src item.start item.stop start stop
    (nominalIdentityByName src types start stop).found = item.isSome ∧
      (nominalIdentityByName src types start stop).identity =
        (item.map NominalTypeIdentity.identity).getD invalidSemanticIdentity := by
  have hscan := iterate_find (fun st => nominalIdentityByNameStep src st start stop)
    (fun list => { rest := list, found := false, identity := invalidSemanticIdentity })
    (fun item => !item.reference && spansEqual src item.start item.stop start stop)
    (fun item => { rest := [], found := true, identity := item.identity }) rfl (fun _ _ => rfl) (fun _ => rfl) 1024
    types
  rw [nominalIdentityByName, hscan]
  cases (types.take 1024).find? _ <;> exact ⟨rfl, rfl⟩

/-- The lookup of a reference by its identity. -/
theorem nominalReferenceByIdentity_eq (wanted : SemanticIdentity) :
    let item := (types.take 1024).find? fun item => item.reference && semanticIdentityEqual item.identity wanted
    (nominalReferenceByIdentity types wanted).found = item.isSome ∧
      (nominalReferenceByIdentity types wanted).start = (item.map NominalTypeIdentity.start).getD 0 ∧
        (nominalReferenceByIdentity types wanted).stop = (item.map NominalTypeIdentity.stop).getD 0 := by
  have hscan := iterate_find nominalReferenceByIdentityStep
    (fun list => { rest := list, wanted := wanted, found := false, start := 0, stop := 0 })
    (fun item => item.reference && semanticIdentityEqual item.identity wanted)
    (fun item => { rest := [], wanted := wanted, found := true, start := item.start, stop := item.stop }) rfl
    (fun _ _ => rfl) (fun _ => rfl) 1024 types
  rw [nominalReferenceByIdentity, hscan]
  cases (types.take 1024).find? _ <;> exact ⟨rfl, rfl, rfl⟩

end Lookups

end MncsCompiler.Decl
