import MncsCompiler.Decl.Levels
import MncsCompiler.Project.Markers

/-!
# `Project.Transport` — types of another module

The types in a signature of a provider name types by spans of the provider. An importer reads them through identities:
a named type becomes the reference of the importer to the same identity. Scalars and bounds stay as they are.
-/

namespace MncsCompiler.Project

open BoundedLoop Decl

structure TypeTransport where
  ty : SemType
  ok : Bool
  deriving DecidableEq, Repr

structure ParameterTransport where
  rest : List Bind
  acc : List Bind
  ok : Bool

structure SignatureTransport where
  params : List Bind
  result : SemType
  ok : Bool

def selectNominalLookup (importedFirst : Bool) (imported isLocal : NominalLookup) : NominalLookup :=
  if importedFirst then imported else isLocal

/-! ## Types -/

def transportNominalTypeInModule (src : Source) (start stop : Nat) (targetNominals callerNominals : List NominalTypeIdentity)
    : TypeTransport :=
  let imported := nominalIdentityAt targetNominals start stop
  let target :=
    selectNominalLookup imported.found imported (nominalIdentityByName src targetNominals start stop)
  if !target.found then { ty := .tPoison, ok := false }
  else
    let caller := nominalReferenceByIdentity callerNominals target.identity
    if !caller.found then { ty := .tPoison, ok := false } else { ty := .tNamed caller.start caller.stop, ok := true }

def transportNominalType (inp : Input) (_callerIndex targetIndex start stop : Nat)
    (targetNominals callerNominals : List NominalTypeIdentity) : TypeTransport :=
  let imported := nominalIdentityAt targetNominals start stop
  let target :=
    selectNominalLookup imported.found imported
      (nominalIdentityByName (moduleSource inp targetIndex) targetNominals start stop)
  if !target.found then { ty := .tPoison, ok := false }
  else
    let caller := nominalReferenceByIdentity callerNominals target.identity
    if !caller.found then { ty := .tPoison, ok := false } else { ty := .tNamed caller.start caller.stop, ok := true }

section Families

variable (nominal : Nat → Nat → TypeTransport)

/-- The element of an inner sequence: no further sequence. -/
def transportNestedSequenceElementBy (element : SemType) (length : Nat) (lengthValid : Bool) : TypeTransport :=
  let transported : TypeTransport :=
    match element with
    | .tBool => { ty := element, ok := true }
    | .tByte => { ty := element, ok := true }
    | .tInt _ _ => { ty := element, ok := true }
    | .tNamed start stop => nominal start stop
    | .tSeq => { ty := .tPoison, ok := false }
    | .tSeqExact _ _ _ => { ty := .tPoison, ok := false }
    | .tPoison => { ty := .tPoison, ok := false }
  if !transported.ok then { ty := .tPoison, ok := false }
  else { ty := .tSeqExact transported.ty length lengthValid, ok := true }

def transportSequenceElementBy (element : SemType) : TypeTransport :=
  match element with
  | .tBool => { ty := element, ok := true }
  | .tByte => { ty := element, ok := true }
  | .tInt _ _ => { ty := element, ok := true }
  | .tNamed start stop => nominal start stop
  | .tSeq => { ty := element, ok := true }
  | .tSeqExact nested count valid => transportNestedSequenceElementBy nominal nested count valid
  | .tPoison => { ty := .tPoison, ok := false }

def transportSequenceTypeBy (element : SemType) (length : Nat) (lengthValid : Bool) : TypeTransport :=
  let transported := transportSequenceElementBy nominal element
  if !transported.ok then { ty := .tPoison, ok := false }
  else { ty := .tSeqExact transported.ty length lengthValid, ok := true }

def transportTypeBy (ty : SemType) : TypeTransport :=
  match ty with
  | .tBool => { ty := ty, ok := true }
  | .tByte => { ty := ty, ok := true }
  | .tInt _ _ => { ty := ty, ok := true }
  | .tNamed start stop => nominal start stop
  | .tSeq => { ty := ty, ok := true }
  | .tSeqExact element length valid => transportSequenceTypeBy nominal element length valid
  | .tPoison => { ty := .tPoison, ok := false }

end Families

def transportNestedSequenceElement (inp : Input) (callerIndex targetIndex : Nat) (element : SemType) (length : Nat)
    (lengthValid : Bool) (targetNominals callerNominals : List NominalTypeIdentity) : TypeTransport :=
  transportNestedSequenceElementBy
    (fun start stop => transportNominalType inp callerIndex targetIndex start stop targetNominals callerNominals) element
    length lengthValid

def transportSequenceElement (inp : Input) (callerIndex targetIndex : Nat) (element : SemType)
    (targetNominals callerNominals : List NominalTypeIdentity) : TypeTransport :=
  transportSequenceElementBy
    (fun start stop => transportNominalType inp callerIndex targetIndex start stop targetNominals callerNominals) element

def transportSequenceType (inp : Input) (callerIndex targetIndex : Nat) (element : SemType) (length : Nat)
    (lengthValid : Bool) (targetNominals callerNominals : List NominalTypeIdentity) : TypeTransport :=
  transportSequenceTypeBy
    (fun start stop => transportNominalType inp callerIndex targetIndex start stop targetNominals callerNominals) element
    length lengthValid

def transportType (inp : Input) (callerIndex targetIndex : Nat) (ty : SemType)
    (targetNominals callerNominals : List NominalTypeIdentity) : TypeTransport :=
  transportTypeBy
    (fun start stop => transportNominalType inp callerIndex targetIndex start stop targetNominals callerNominals) ty

def transportNestedSequenceElementInModule (src : Source) (element : SemType) (length : Nat) (lengthValid : Bool)
    (targetNominals callerNominals : List NominalTypeIdentity) : TypeTransport :=
  transportNestedSequenceElementBy
    (fun start stop => transportNominalTypeInModule src start stop targetNominals callerNominals) element length
    lengthValid

def transportSequenceElementInModule (src : Source) (element : SemType)
    (targetNominals callerNominals : List NominalTypeIdentity) : TypeTransport :=
  transportSequenceElementBy
    (fun start stop => transportNominalTypeInModule src start stop targetNominals callerNominals) element

def transportSequenceTypeInModule (src : Source) (element : SemType) (length : Nat) (lengthValid : Bool)
    (targetNominals callerNominals : List NominalTypeIdentity) : TypeTransport :=
  transportSequenceTypeBy
    (fun start stop => transportNominalTypeInModule src start stop targetNominals callerNominals) element length
    lengthValid

def transportTypeInModule (src : Source) (ty : SemType) (targetNominals callerNominals : List NominalTypeIdentity)
    : TypeTransport :=
  transportTypeBy (fun start stop => transportNominalTypeInModule src start stop targetNominals callerNominals) ty

/-! ## Signatures -/

def transportOneParameter (inp : Input) (callerIndex targetIndex : Nat) (st : ParameterTransport) (parameter : Bind)
    (rest : List Bind) (targetNominals callerNominals : List NominalTypeIdentity) : ParameterTransport :=
  let ty := transportType inp callerIndex targetIndex parameter.ty targetNominals callerNominals
  let rebound : Bind := { parameter with ty := ty.ty }
  { rest := rest, acc := rebound :: st.acc, ok := ty.ok }

def transportParameterStep (inp : Input) (callerIndex targetIndex : Nat) (st : ParameterTransport)
    (targetNominals callerNominals : List NominalTypeIdentity) : ParameterTransport :=
  if !st.ok then st
  else
    match st.rest with
    | [] => st
    | parameter :: rest =>
      transportOneParameter inp callerIndex targetIndex st parameter rest targetNominals callerNominals

def reverseTransportedParameters (params : List Bind) : List Bind := reverseWithin 1024 params

def transportSignature (inp : Input) (callerIndex targetIndex : Nat) (sig : Sig)
    (targetNominals callerNominals : List NominalTypeIdentity) : SignatureTransport :=
  let result := transportType inp callerIndex targetIndex sig.result targetNominals callerNominals
  let st := (fun st => transportParameterStep inp callerIndex targetIndex st targetNominals callerNominals)^[1024]
    { rest := sig.params, acc := [], ok := result.ok }
  { params := reverseTransportedParameters st.acc, result := result.ty, ok := st.ok && st.rest.isEmpty }

/-! ## Transport of types -/

/-- The named types in a type. -/
def namedTypes : SemType → List (Nat × Nat)
  | .tNamed start stop => [(start, stop)]
  | .tSeqExact element _ _ => namedTypes element
  | _ => []

/-- Types of one shape, the same but for the named types in them, which are related. -/
inductive Alike (R : Nat × Nat → Nat × Nat → Prop) : SemType → SemType → Prop where
  | bool : Alike R .tBool .tBool
  | byte : Alike R .tByte .tByte
  | int (width : Nat) (signed : Bool) : Alike R (.tInt width signed) (.tInt width signed)
  | named {name other : Nat × Nat} (h : R name other) :
      Alike R (.tNamed name.1 name.2) (.tNamed other.1 other.2)
  | exact {element other : SemType} (h : Alike R element other) (length : Nat) (valid : Bool) :
      Alike R (.tSeqExact element length valid) (.tSeqExact other length valid)

section Types

variable {nominal : Nat → Nat → TypeTransport} {R S : Nat × Nat → Nat × Nat → Prop} {ty other : SemType}

theorem Alike.imp (h : Alike R ty other) (himp : ∀ name ∈ namedTypes ty, ∀ second, R name second → S name second) :
    Alike S ty other := by
  induction h with
  | bool => exact .bool
  | byte => exact .byte
  | int width signed => exact .int width signed
  | named h => exact .named (himp _ List.mem_cons_self _ h)
  | exact _ length valid ih => exact .exact (ih himp) length valid

/-- A plain type is transported by its name. -/
theorem transportTypeBy_plain (h : Plain ty) :
    (transportTypeBy nominal ty).ok = true ↔ ∀ name ∈ namedTypes ty, (nominal name.1 name.2).ok = true := by
  cases h with
  | named start stop => simp [transportTypeBy, namedTypes]
  | bool => simp [transportTypeBy, namedTypes]
  | byte => simp [transportTypeBy, namedTypes]
  | int width signed => simp [transportTypeBy, namedTypes]

theorem transportSequenceElementBy_plain (h : Plain ty) :
    transportSequenceElementBy nominal ty = transportTypeBy nominal ty := by
  cases h <;> rfl

theorem transportNestedSequenceElementBy_plain (h : Plain ty) (length : Nat) (valid : Bool) :
    transportNestedSequenceElementBy nominal ty length valid =
      if (transportTypeBy nominal ty).ok then
        { ty := .tSeqExact (transportTypeBy nominal ty).ty length valid, ok := true }
      else { ty := .tPoison, ok := false } := by
  cases h with
  | named start stop =>
      rw [transportNestedSequenceElementBy, transportTypeBy]
      cases (nominal start stop).ok <;> rfl
  | bool => rfl
  | byte => rfl
  | int width signed => rfl

/-- **A type is transported** exactly when its names are. -/
theorem transportTypeBy_ok_iff (h : Level ty) :
    (transportTypeBy nominal ty).ok = true ↔ ∀ name ∈ namedTypes ty, (nominal name.1 name.2).ok = true := by
  cases h with
  | plain h => exact transportTypeBy_plain h
  | one h length valid =>
      rw [transportTypeBy, transportSequenceTypeBy, transportSequenceElementBy_plain h, namedTypes,
        ← transportTypeBy_plain h]
      cases (transportTypeBy nominal _).ok <;> simp
  | two h length valid length' valid' =>
      rw [transportTypeBy, transportSequenceTypeBy, transportSequenceElementBy,
        transportNestedSequenceElementBy_plain h, namedTypes, namedTypes, ← transportTypeBy_plain h]
      cases (transportTypeBy nominal _).ok <;> simp

theorem transportTypeBy_plain_alike (hnominal : ∀ start stop, (nominal start stop).ok = true →
      ∃ caller : Nat × Nat, (nominal start stop).ty = .tNamed caller.1 caller.2) (h : Plain ty)
    (hok : (transportTypeBy nominal ty).ok = true) :
    Alike (fun name other => nominal name.1 name.2 = { ty := .tNamed other.1 other.2, ok := true }) ty
      (transportTypeBy nominal ty).ty := by
  cases h with
  | named start stop =>
      obtain ⟨caller, hty⟩ := hnominal start stop hok
      have hwhole : nominal start stop = { ty := .tNamed caller.1 caller.2, ok := true } := by
        rw [← hty, ← hok]
        rfl
      rw [transportTypeBy, hty]
      exact @Alike.named _ (start, stop) caller hwhole
  | bool => exact .bool
  | byte => exact .byte
  | int width signed => exact .int width signed

/-- **What is transported** has the shape that it had. -/
theorem transportTypeBy_alike (hnominal : ∀ start stop, (nominal start stop).ok = true →
      ∃ caller : Nat × Nat, (nominal start stop).ty = .tNamed caller.1 caller.2) (h : Level ty)
    (hok : (transportTypeBy nominal ty).ok = true) :
    Alike (fun name other => nominal name.1 name.2 = { ty := .tNamed other.1 other.2, ok := true }) ty
      (transportTypeBy nominal ty).ty := by
  have hnames := (transportTypeBy_ok_iff h).mp hok
  cases h with
  | plain h => exact transportTypeBy_plain_alike hnominal h hok
  | one h length valid =>
      have hleaf := (transportTypeBy_plain h).mpr hnames
      rw [transportTypeBy, transportSequenceTypeBy, transportSequenceElementBy_plain h, hleaf]
      exact .exact (transportTypeBy_plain_alike hnominal h hleaf) length valid
  | two h length valid length' valid' =>
      have hleaf := (transportTypeBy_plain h).mpr hnames
      rw [transportTypeBy, transportSequenceTypeBy, transportSequenceElementBy,
        transportNestedSequenceElementBy_plain h, hleaf]
      exact .exact (.exact (transportTypeBy_plain_alike hnominal h hleaf) length valid) length' valid'

end Types

/-! ## Transport of names -/

section Names

variable {inp : Input} {src : Source} {targetNominals callerNominals : List NominalTypeIdentity}

/-- The identity of a named type of a module: of the reference at its span, or else of the declaration of its name. -/
def denotedIdentity (src : Source) (nominals : List NominalTypeIdentity) (start stop : Nat) : Option SemanticIdentity :=
  let imported := nominalIdentityAt nominals start stop
  let target := selectNominalLookup imported.found imported (nominalIdentityByName src nominals start stop)
  if target.found then some target.identity else none

theorem denotedIdentity_eq (nominals : List NominalTypeIdentity) (start stop : Nat) :
    denotedIdentity src nominals start stop =
      (((nominals.take 1024).find? fun item =>
          item.reference && item.start = start && item.stop = stop && item.identity.valid).or
        ((nominals.take 1024).find? fun item =>
          !item.reference && spansEqual src item.start item.stop start stop)).map NominalTypeIdentity.identity := by
  obtain ⟨hat, hatIdentity⟩ := nominalIdentityAt_eq nominals start stop
  obtain ⟨hname, hnameIdentity⟩ := nominalIdentityByName_eq nominals src start stop
  rw [denotedIdentity]
  generalize nominalIdentityAt nominals start stop = imported at hat hatIdentity ⊢
  generalize nominalIdentityByName src nominals start stop = named at hname hnameIdentity ⊢
  generalize (nominals.take 1024).find? _ = first at hat hatIdentity ⊢
  generalize (nominals.take 1024).find? _ = second at hname hnameIdentity ⊢
  cases first with
  | some item => simp [selectNominalLookup, hat, hatIdentity]
  | none => cases second <;> simp [selectNominalLookup, hat, hname, hnameIdentity]

/-- A name is transported through its identity. -/
theorem transportNominalTypeInModule_eq (start stop : Nat) :
    transportNominalTypeInModule src start stop targetNominals callerNominals =
      match denotedIdentity src targetNominals start stop with
      | none => { ty := .tPoison, ok := false }
      | some identity =>
        if (nominalReferenceByIdentity callerNominals identity).found then
          { ty := .tNamed (nominalReferenceByIdentity callerNominals identity).start
              (nominalReferenceByIdentity callerNominals identity).stop
            ok := true }
        else { ty := .tPoison, ok := false } := by
  unfold transportNominalTypeInModule denotedIdentity
  dsimp only
  generalize selectNominalLookup _ _ _ = target
  cases target.found with
  | false => rfl
  | true =>
      rw [if_pos rfl]
      dsimp only
      generalize nominalReferenceByIdentity callerNominals target.identity = caller
      cases caller.found <;> rfl

/-- **One module.** Transport inside a module is transport from the module to itself. -/
theorem transportTypeInModule_eq (callerIndex targetIndex : Nat) (ty : SemType) :
    transportTypeInModule (moduleSource inp targetIndex) ty targetNominals callerNominals =
      transportType inp callerIndex targetIndex ty targetNominals callerNominals :=
  rfl

/-- The reference of an importer to an identity. -/
def RefersTo (nominals : List NominalTypeIdentity) (span : Nat × Nat) (identity : SemanticIdentity) : Prop :=
  ∃ item ∈ nominals.take 1024, item.reference = true ∧ (item.start, item.stop) = span ∧
    semanticIdentityEqual item.identity identity = true

theorem nominalReferenceByIdentity_found {nominals : List NominalTypeIdentity} {identity : SemanticIdentity} :
    (nominalReferenceByIdentity nominals identity).found = true ↔ ∃ span, RefersTo nominals span identity := by
  rw [(nominalReferenceByIdentity_eq nominals identity).1]
  constructor
  · intro hsome
    obtain ⟨item, hitem⟩ := Option.isSome_iff_exists.mp hsome
    have hpassed := List.find?_some hitem
    rw [Bool.and_eq_true] at hpassed
    exact ⟨_, item, List.mem_of_find?_eq_some hitem, hpassed.1, rfl, hpassed.2⟩
  · rintro ⟨span, item, hmem, href, -, hsame⟩
    rw [List.find?_isSome]
    exact ⟨item, hmem, by rw [href, hsame]; rfl⟩

theorem nominalReferenceByIdentity_refers {nominals : List NominalTypeIdentity} {identity : SemanticIdentity}
    (h : (nominalReferenceByIdentity nominals identity).found = true) :
    RefersTo nominals ((nominalReferenceByIdentity nominals identity).start,
      (nominalReferenceByIdentity nominals identity).stop) identity := by
  obtain ⟨hfound, hstart, hstop⟩ := nominalReferenceByIdentity_eq nominals identity
  rw [hfound] at h
  obtain ⟨item, hitem⟩ := Option.isSome_iff_exists.mp h
  have hpassed := List.find?_some hitem
  rw [Bool.and_eq_true] at hpassed
  rw [hstart, hstop, hitem]
  exact ⟨item, List.mem_of_find?_eq_some hitem, hpassed.1, rfl, hpassed.2⟩

end Names

/-! ## Transport of signatures -/

/-- A span that stands for a type parameter of a signature. -/
def IsTypeParameter (span : Nat × Nat) : Prop :=
  0 < genericTypeMarkerIndex span.1 span.2 ∧ genericTypeMarkerIndex span.1 span.2 ≤ 1024

/-- A table in which a span has one identity, and no type parameter has one. -/
structure Coherent (nominals : List NominalTypeIdentity) : Prop where
  single : ∀ item ∈ nominals, ∀ other ∈ nominals, item.reference = true → other.reference = true →
    item.identity.valid = true → other.identity.valid = true → (item.start, item.stop) = (other.start, other.stop) →
      semanticIdentityEqual item.identity other.identity = true
  apart : ∀ item ∈ nominals, item.reference = true → ¬ IsTypeParameter (item.start, item.stop)

/-- A name of a provider and a name of an importer that mean the same: the same type parameter, or one identity. -/
def SameMeaning (src caller : Source) (targetNominals callerNominals : List NominalTypeIdentity) (name other : Nat × Nat)
    : Prop :=
  (IsTypeParameter name → other = name) ∧
  (¬ IsTypeParameter name → ∃ identity, denotedIdentity src targetNominals name.1 name.2 = some identity ∧
    ∃ identity', denotedIdentity caller callerNominals other.1 other.2 = some identity' ∧
      semanticIdentityEqual identity' identity = true)

/-- What transport preserves of a signature. -/
structure Preserves (src caller : Source) (targetNominals callerNominals : List NominalTypeIdentity) (sig : Sig)
    (transported : SignatureTransport) : Prop where
  ok : transported.ok = true
  params : List.Forall₂ (fun bound other => other.start = bound.start ∧ other.stop = bound.stop ∧
    Alike (SameMeaning src caller targetNominals callerNominals) bound.ty other.ty) sig.params transported.params
  result : Alike (SameMeaning src caller targetNominals callerNominals) sig.result transported.result

/-- The types of a signature. -/
def signatureTypes (sig : Sig) : List SemType := sig.result :: sig.params.map Bind.ty

section Signatures

variable {inp : Input} {callerIndex targetIndex : Nat} {targetNominals callerNominals : List NominalTypeIdentity}

/-- `n` passes over parameters. -/
theorem iterate_transportParameterStep (n : Nat) (rest acc : List Bind) (ok : Bool) (hlength : rest.length ≤ n) :
    let st := (fun st => transportParameterStep inp callerIndex targetIndex st targetNominals callerNominals)^[n]
      { rest := rest, acc := acc, ok := ok }
    ((st.ok && st.rest.isEmpty) = true ↔ ok = true ∧ ∀ bound ∈ rest,
      (transportType inp callerIndex targetIndex bound.ty targetNominals callerNominals).ok = true) ∧
    ((st.ok && st.rest.isEmpty) = true → st.acc = (rest.map fun bound =>
      { bound with
        ty := (transportType inp callerIndex targetIndex bound.ty targetNominals callerNominals).ty }).reverse ++
          acc) := by
  induction n generalizing rest acc ok with
  | zero =>
      obtain rfl := List.length_eq_zero_iff.mp (Nat.le_zero.mp hlength)
      dsimp only [Function.iterate_zero_apply]
      exact ⟨by simp, fun _ => rfl⟩
  | succ n ih =>
      dsimp only at ih ⊢
      rw [Function.iterate_succ_apply]
      cases ok with
      | false =>
          have hfixed : transportParameterStep inp callerIndex targetIndex { rest := rest, acc := acc, ok := false }
              targetNominals callerNominals = { rest := rest, acc := acc, ok := false } := rfl
          rw [hfixed, Function.iterate_fixed hfixed]
          simp
      | true =>
          cases rest with
          | nil =>
              have hfixed : transportParameterStep inp callerIndex targetIndex { rest := [], acc := acc, ok := true }
                  targetNominals callerNominals = { rest := [], acc := acc, ok := true } := rfl
              rw [hfixed, @Function.iterate_fixed _ (fun st =>
                transportParameterStep inp callerIndex targetIndex st targetNominals callerNominals) _ hfixed]
              simp
          | cons bound rest =>
              have hstep : transportParameterStep inp callerIndex targetIndex
                  { rest := bound :: rest, acc := acc, ok := true } targetNominals callerNominals =
                { rest := rest
                  acc := { bound with
                    ty := (transportType inp callerIndex targetIndex bound.ty targetNominals callerNominals).ty } :: acc
                  ok := (transportType inp callerIndex targetIndex bound.ty targetNominals callerNominals).ok } := rfl
              rw [List.length_cons] at hlength
              obtain ⟨hok, hacc⟩ := ih rest
                ({ bound with
                  ty := (transportType inp callerIndex targetIndex bound.ty targetNominals callerNominals).ty } :: acc)
                (transportType inp callerIndex targetIndex bound.ty targetNominals callerNominals).ok (by omega)
              rw [hstep]
              refine ⟨?_, ?_⟩
              · rw [hok, List.forall_mem_cons]
                exact ⟨fun h => ⟨rfl, h⟩, fun h => h.2⟩
              · intro hend
                rw [hacc hend, List.map_cons, List.reverse_cons, List.append_assoc]
                rfl

/-- **A signature is transported** exactly when its types are. -/
theorem transportSignature_eq {sig : Sig} (hlength : sig.params.length ≤ 1024) :
    ((transportSignature inp callerIndex targetIndex sig targetNominals callerNominals).ok = true ↔
      ∀ ty ∈ signatureTypes sig, (transportType inp callerIndex targetIndex ty targetNominals callerNominals).ok = true) ∧
    ((transportSignature inp callerIndex targetIndex sig targetNominals callerNominals).ok = true →
      (transportSignature inp callerIndex targetIndex sig targetNominals callerNominals).params =
        sig.params.map fun bound =>
          { bound with
            ty := (transportType inp callerIndex targetIndex bound.ty targetNominals callerNominals).ty }) ∧
    (transportSignature inp callerIndex targetIndex sig targetNominals callerNominals).result =
      (transportType inp callerIndex targetIndex sig.result targetNominals callerNominals).ty := by
  obtain ⟨hok, hacc⟩ := @iterate_transportParameterStep inp callerIndex targetIndex targetNominals callerNominals 1024
    sig.params [] (transportType inp callerIndex targetIndex sig.result targetNominals callerNominals).ok hlength
  simp only [transportSignature]
  refine ⟨?_, ?_, trivial⟩
  · rw [hok, signatureTypes, List.forall_mem_cons, List.forall_mem_map]
  · intro hend
    rw [hacc hend, List.append_nil, reverseTransportedParameters, reverseWithin_eq, List.take_of_length_le (by
      rw [List.length_reverse, List.length_map]
      exact hlength), List.reverse_reverse]

/-- A reference of a coherent table denotes the identity that it refers to. -/
theorem denotedIdentity_of_refers {nominals : List NominalTypeIdentity} (h : Coherent nominals) {span : Nat × Nat}
    {identity : SemanticIdentity} (hrefers : RefersTo nominals span identity) (caller : Source) :
    ∃ identity', denotedIdentity caller nominals span.1 span.2 = some identity' ∧
      semanticIdentityEqual identity' identity = true := by
  obtain ⟨item, hmem, href, rfl, hsame⟩ := hrefers
  have hvalid := (semanticIdentityEqual_iff.mp hsame).1
  obtain ⟨hfound, hidentity⟩ := nominalIdentityAt_eq nominals item.start item.stop
  cases hat : (nominals.take 1024).find? fun other =>
      other.reference && other.start = item.start && other.stop = item.stop && other.identity.valid with
  | none =>
      have hno := List.find?_eq_none.mp hat item hmem
      rw [href, hvalid] at hno
      exact absurd (by simp) hno
  | some first =>
      have hpassed := List.find?_some hat
      simp only [Bool.and_eq_true, decide_eq_true_eq] at hpassed
      obtain ⟨⟨⟨hreference, hstart⟩, hstop⟩, hfirst⟩ := hpassed
      have hin := List.mem_of_mem_take (List.mem_of_find?_eq_some hat)
      have hequal := h.single first hin item (List.mem_of_mem_take hmem) hreference href hfirst hvalid (by
        rw [hstart, hstop])
      rw [hat] at hfound hidentity
      refine ⟨first.identity, ?_, semanticIdentityEqual_trans hequal hsame⟩
      rw [denotedIdentity]
      dsimp only
      rw [hfound, Option.isSome_some, selectNominalLookup, if_pos rfl, hfound, hidentity]
      rfl

/-- A transported name refers to the identity of what it was. -/
theorem transportNominalType_refers {name other : Nat × Nat}
    (h : transportNominalType inp callerIndex targetIndex name.1 name.2 targetNominals callerNominals =
      { ty := .tNamed other.1 other.2, ok := true }) :
    ∃ identity, denotedIdentity (moduleSource inp targetIndex) targetNominals name.1 name.2 = some identity ∧
      RefersTo callerNominals other identity := by
  have heq := @transportNominalTypeInModule_eq (moduleSource inp targetIndex) targetNominals callerNominals name.1 name.2
  have hsame : transportNominalTypeInModule (moduleSource inp targetIndex) name.1 name.2 targetNominals callerNominals =
      transportNominalType inp callerIndex targetIndex name.1 name.2 targetNominals callerNominals := rfl
  rw [hsame, h] at heq
  cases hdenoted : denotedIdentity (moduleSource inp targetIndex) targetNominals name.1 name.2 with
  | none =>
      rw [hdenoted] at heq
      cases heq
  | some identity =>
      rw [hdenoted] at heq
      dsimp only at heq
      cases hfound : (nominalReferenceByIdentity callerNominals identity).found with
      | false =>
          rw [hfound] at heq
          cases heq
      | true =>
          rw [hfound, if_pos rfl] at heq
          injection heq with hty
          injection hty with hstart hstop
          refine ⟨identity, rfl, ?_⟩
          have hrefers := nominalReferenceByIdentity_refers hfound
          rw [← hstart, ← hstop] at hrefers
          exact hrefers

/-- A name is transported when it has an identity to which the importer refers. -/
theorem transportNominalType_ok_iff {start stop : Nat} :
    (transportNominalType inp callerIndex targetIndex start stop targetNominals callerNominals).ok = true ↔
      ∃ identity, denotedIdentity (moduleSource inp targetIndex) targetNominals start stop = some identity ∧
        ∃ span, RefersTo callerNominals span identity := by
  have heq := @transportNominalTypeInModule_eq (moduleSource inp targetIndex) targetNominals callerNominals start stop
  have hsame : transportNominalTypeInModule (moduleSource inp targetIndex) start stop targetNominals callerNominals =
      transportNominalType inp callerIndex targetIndex start stop targetNominals callerNominals := rfl
  rw [← hsame, heq]
  cases denotedIdentity (moduleSource inp targetIndex) targetNominals start stop with
  | none => simp
  | some identity =>
      dsimp only
      cases hfound : (nominalReferenceByIdentity callerNominals identity).found with
      | false =>
          have hno := mt nominalReferenceByIdentity_found.mpr (by rw [hfound]; exact Bool.false_ne_true)
          constructor
          · intro h
            cases h
          · rintro ⟨other, hother, hspan⟩
            rw [← Option.some.inj hother] at hspan
            exact absurd hspan hno
      | true => simpa using nominalReferenceByIdentity_found.mp hfound

theorem transportNominalType_named {start stop : Nat}
    (h : (transportNominalType inp callerIndex targetIndex start stop targetNominals callerNominals).ok = true) :
    ∃ caller : Nat × Nat, (transportNominalType inp callerIndex targetIndex start stop targetNominals callerNominals).ty =
      .tNamed caller.1 caller.2 := by
  obtain ⟨identity, hdenoted, hspan⟩ := transportNominalType_ok_iff.mp h
  have heq := @transportNominalTypeInModule_eq (moduleSource inp targetIndex) targetNominals callerNominals start stop
  have hsame : transportNominalTypeInModule (moduleSource inp targetIndex) start stop targetNominals callerNominals =
      transportNominalType inp callerIndex targetIndex start stop targetNominals callerNominals := rfl
  rw [← hsame, heq, hdenoted]
  dsimp only
  rw [if_pos (nominalReferenceByIdentity_found.mpr hspan)]
  exact ⟨(_, _), rfl⟩

end Signatures

/-- Names of related types that are related in two ways. -/
theorem Alike.and {R S : Nat × Nat → Nat × Nat → Prop} {ty other : SemType} (h : Alike R ty other)
    (h' : Alike S ty other) : ∀ name ∈ namedTypes ty, ∃ second, R name second ∧ S name second := by
  induction h with
  | bool => exact fun _ hmem => absurd hmem List.not_mem_nil
  | byte => exact fun _ hmem => absurd hmem List.not_mem_nil
  | int width signed => exact fun _ hmem => absurd hmem List.not_mem_nil
  | @named first second hR =>
      generalize hfirst : SemType.tNamed first.1 first.2 = left at h'
      generalize hsecond : SemType.tNamed second.1 second.2 = right at h'
      cases h' with
      | @named third fourth hS =>
          injection hfirst with h1 h2
          injection hsecond with h3 h4
          obtain rfl : first = third := Prod.ext h1 h2
          obtain rfl : second = fourth := Prod.ext h3 h4
          intro name hmem
          obtain rfl := List.mem_singleton.mp hmem
          exact ⟨second, hR, hS⟩
      | _ => cases hfirst
  | exact _ length valid ih =>
      cases h' with
      | exact h' _ _ => exact ih h'

/-- `record P { a: bool } fn f<T: Type>(x: T) -> (r: bool) { return true; } fn g(y: P) -> (r: bool) { return true; }` -/
def genericText : View :=
  [114, 101, 99, 111, 114, 100, 32, 80, 32, 123, 32, 97, 58, 32, 98, 111, 111, 108, 32, 125, 32, 102, 110, 32, 102,
   60, 84, 58, 32, 84, 121, 112, 101, 62, 40, 120, 58, 32, 84, 41, 32, 45, 62, 32, 40, 114, 58, 32, 98, 111, 111, 108,
   41, 32, 123, 32, 114, 101, 116, 117, 114, 110, 32, 116, 114, 117, 101, 59, 32, 125, 32, 102, 110, 32, 103, 40, 121,
   58, 32, 80, 41, 32, 45, 62, 32, 40, 114, 58, 32, 98, 111, 111, 108, 41, 32, 123, 32, 114, 101, 116, 117, 114, 110,
   32, 116, 114, 117, 101, 59, 32, 125]

/-- A project of one source. -/
def genericInput : Input where
  sources := [{ sourceId := [97], sourcePath := [97], pageStart := 0, pageCount := 1, stride := 128, total := 111 }]
  flatPages := [genericText]

def genericRecord : RecordDecl where
  ok := true
  errStart := 0
  errStop := 0
  nameStart := 7
  nameStop := 8
  fields := [{ nameStart := 11, nameStop := 12, typeStart := 14, typeStop := 18, typeKind := 3 }]
  declStart := 0
  declStop := 20
  cursor := 20

def genericFunction : FnDecl where
  ok := true
  errStart := 0
  errStop := 0
  sig :=
    { nameStart := 24, nameStop := 25
      generics := [{ nameStart := 26, nameStop := 27, boundStart := 29, boundStop := 33, hasBound := true }]
      params := [{ nameStart := 35, nameStop := 36, typeStart := 38, typeStop := 39, typeKind := 5 }]
      results := [{ nameStart := 45, nameStop := 46, typeStart := 48, typeStop := 52, typeKind := 3 }]
      contracts := [], effects := [], capabilities := [] }
  body := { body := [], ret := .boolean 63 67 true, hasRet := true }
  fnStart := 21
  fnStop := 70
  cursor := 70

def plainFunction : FnDecl where
  ok := true
  errStart := 0
  errStop := 0
  sig :=
    { nameStart := 74, nameStop := 75, generics := []
      params := [{ nameStart := 76, nameStop := 77, typeStart := 79, typeStop := 80, typeKind := 5 }]
      results := [{ nameStart := 86, nameStop := 87, typeStart := 89, typeStop := 93, typeKind := 3 }]
      contracts := [], effects := [], capabilities := [] }
  body := { body := [], ret := .boolean 104 108 true, hasRet := true }
  fnStart := 71
  fnStop := 111
  cursor := 111

/-- An identity of one byte. -/
def sampleIdentity : SemanticIdentity where
  bytes := (Vector.replicate 512 0).set 0 80
  len := 1
  valid := true

/-- What the provider declares. -/
def genericNominals : List NominalTypeIdentity := [{ start := 7, stop := 8, identity := sampleIdentity, reference := false }]

/-- What an importer refers to. -/
def importerNominals : List NominalTypeIdentity := [nominalMarker 0 sampleIdentity]

set_option maxRecDepth 10000 in
theorem spansEqual_generic : spansEqual (moduleSource genericInput 0) 7 8 79 80 = true ∧
    spansEqual (moduleSource genericInput 0) 7 8 18446744073709551614 18446744073709551615 = false := by
  decide +kernel

/-- The record has an identity, the type parameter has none. -/
theorem denotedIdentity_generic :
    denotedIdentity (moduleSource genericInput 0) genericNominals 79 80 = some sampleIdentity ∧
      denotedIdentity (moduleSource genericInput 0) genericNominals 18446744073709551614 18446744073709551615 = none := by
  have hfirst : genericNominals.take 1024 = genericNominals := List.take_of_length_le (by decide)
  rw [denotedIdentity_eq, denotedIdentity_eq, hfirst, genericNominals]
  simp [spansEqual_generic]

set_option maxRecDepth 10000 in
/-- The signatures of the two functions. -/
theorem signatureTypes_generic :
    signatureTypes (checkSig (moduleSource genericInput 0) genericFunction [genericRecord] [] genericNominals).sig =
        [.tBool, .tNamed 18446744073709551614 18446744073709551615] ∧
      signatureTypes (checkSig (moduleSource genericInput 0) plainFunction [genericRecord] [] genericNominals).sig =
        [.tBool, .tNamed 79 80] := by
  decide +kernel

theorem mem_collectSigtab_generic {fn : FnDecl} (h : fn ∈ [genericFunction, plainFunction]) :
    (checkSig (moduleSource genericInput 0) fn [genericRecord] [] genericNominals).sig ∈
      (collectSigtab (moduleSource genericInput 0) [genericFunction, plainFunction] [genericRecord] []
        genericNominals).tab := by
  rw [collectSigtab_tab, List.mem_reverse]
  exact List.mem_map_of_mem h

theorem coherent_importerNominals : Coherent importerNominals where
  single := by
    intro item hitem other hother _ _ hvalid _ _
    obtain rfl := List.mem_singleton.mp hitem
    obtain rfl := List.mem_singleton.mp hother
    exact semanticIdentityEqual_refl hvalid
  apart := by
    intro item hitem _ hparameter
    obtain rfl := List.mem_singleton.mp hitem
    have hindex := genericTypeMarkerIndex_marker (Nat.zero_lt_succ 1023) sampleIdentity
    have hle := hparameter.2
    rw [hindex] at hle
    exact absurd hle (by decide)

theorem refersTo_importerNominals :
    RefersTo importerNominals ((nominalMarker 0 sampleIdentity).start, (nominalMarker 0 sampleIdentity).stop)
      sampleIdentity :=
  ⟨_, List.mem_cons_self, rfl, rfl, semanticIdentityEqual_refl rfl⟩

end MncsCompiler.Project
