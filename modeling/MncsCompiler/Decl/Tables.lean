import MncsCompiler.Decl.Equality
import MncsCompiler.Decl.Prove

/-!
# `Decl.Tables` — the table of signatures that bodies are proved over

The signatures of a unit are collected, bound to their identities and put in front of the imported ones, and a callee
is looked up in the table that results. Each of the four walks has a bound of its own. This module says what the table
is and what a lookup answers (`unitSigs_eq`, `sigLookup_eq`), and when the lookup is complete: when no function is
declared behind the first 1024 and no imported name lies behind the reach of the lookup.
-/

namespace MncsCompiler.Decl

open BoundedLoop

variable {src : Source} {u : Unit} {imported : List Sig} {nominals : List NominalTypeIdentity}

/-- The entry carries a name that is spelled like a span. -/
def Sig.Spells (src : Source) (start stop : Nat) (sig : Sig) : Bool := spansEqual src sig.start sig.stop start stop

/-- The function carries a name that is spelled like a span. -/
def FnDecl.Spells (src : Source) (start stop : Nat) (fn : FnDecl) : Bool :=
  spansEqual src fn.sig.nameStart fn.sig.nameStop start stop

/-! ## The lookup -/

/-- The signature that a lookup carries while nothing is found. -/
def noSig : Sig :=
  { start := 0, stop := 0, params := [], nparams := 0, genericBounds := [], result := .tPoison, fx := []
    rawCapabilities := [], effects := [], capabilities := [], identity := invalidSemanticIdentity }

/-- What a lookup answers for the entry that it is to find. -/
def SigRes.ofEntry : Option Sig → SigRes
  | some sig => { found := true, sig := sig }
  | none => { found := false, sig := noSig }

theorem SigRes.ofEntry_eq_some {entry : Option Sig} {sig : Sig} :
    SigRes.ofEntry entry = SigRes.ofEntry (some sig) ↔ entry = some sig := by
  constructor
  · intro h
    cases entry with
    | none => exact Bool.noConfusion (congrArg SigRes.found h)
    | some other => exact congrArg (fun res => some res.sig) h
  · intro h
    rw [h]

theorem SigRes.ofEntry_inj {entry other : Option Sig} (h : SigRes.ofEntry entry = SigRes.ofEntry other) :
    entry = other := by
  cases other with
  | some sig => exact SigRes.ofEntry_eq_some.mp h
  | none =>
      cases entry with
      | none => rfl
      | some sig => exact Bool.noConfusion (congrArg SigRes.found h)

theorem sigLookupStep_fixed {st : SigScan} (h : (st.found || st.rest.isEmpty) = true) : sigLookupStep src st = st := by
  rw [sigLookupStep]
  split
  · rfl
  · next hfound =>
      rw [Bool.or_eq_true, or_iff_right hfound, List.isEmpty_iff] at h
      rw [h]

/-- `n` steps find the first entry in reach that spells the name. -/
theorem iterate_sigLookupStep (start stop n : Nat) (sigs : List Sig) :
    let st := (sigLookupStep src)^[n] { rest := sigs, start := start, stop := stop, found := false, sig := noSig }
    ({ found := st.found, sig := st.sig } : SigRes) = .ofEntry ((sigs.take n).find? (Sig.Spells src start stop)) := by
  induction n generalizing sigs with
  | zero => rfl
  | succ n ih =>
      rw [Function.iterate_succ_apply]
      cases sigs with
      | nil =>
          rw [sigLookupStep_fixed rfl, List.take_nil]
          simpa only [List.take_nil] using ih []
      | cons h t =>
          rw [List.take_succ_cons, List.find?_cons]
          cases hspells : Sig.Spells src start stop h with
          | true =>
              have hstep :
                  sigLookupStep src { rest := h :: t, start := start, stop := stop, found := false, sig := noSig } =
                    { rest := [], start := start, stop := stop, found := true, sig := h } :=
                if_pos hspells
              rw [hstep, Function.iterate_fixed (sigLookupStep_fixed rfl)]
              rfl
          | false =>
              have hstep :
                  sigLookupStep src { rest := h :: t, start := start, stop := stop, found := false, sig := noSig } =
                    { rest := t, start := start, stop := stop, found := false, sig := noSig } :=
                if_neg (Bool.eq_false_iff.mp hspells)
              rw [hstep]
              exact ih t

/-- **A lookup** answers the first of the first 65536 entries that spells the name. -/
theorem sigLookup_eq (sigs : List Sig) (start stop : Nat) :
    sigLookup src sigs start stop = .ofEntry ((sigs.take (1024 * 64)).find? (Sig.Spells src start stop)) := by
  rw [← iterate_sigLookupStep]
  exact iterate_chunks (fun st : SigScan => ({ found := st.found, sig := st.sig } : SigRes))
    (fun _ => sigLookupStep_fixed) (fun _ => rfl) 64 _

/-! ## The table -/

/-- The signature of a function of a unit, bound to its identities. -/
def ownSig (src : Source) (u : Unit) (nominals : List NominalTypeIdentity) (fn : FnDecl) : Sig :=
  bindCallableSignature src u.header.moduleStart u.header.moduleStop
    (checkSig src fn u.records u.enums (localNominalTypeIdentitiesWithReferences src u nominals)).sig

/-- The table that the bodies of a unit are proved over. -/
def unitSigs (src : Source) (u : Unit) (imported : List Sig) (nominals : List NominalTypeIdentity) : List Sig :=
  mergeSigTables
    (bindLocalCallableIdentities src u.header
      (collectSigtab src u.fns u.records u.enums (localNominalTypeIdentitiesWithReferences src u nominals)).tab)
    imported

/-- The walk over the bodies of a unit. -/
def unitWalk (src : Source) (u : Unit) (imported : List Sig) (nominals : List NominalTypeIdentity)
    (importedRecords : List ImportedRecordSchema) (importedEnums : List ImportedEnumSchema) : BodyWalk :=
  let allNominals := localNominalTypeIdentitiesWithReferences src u nominals
  { rest := u.fns, tab := unitSigs src u imported nominals, rectab := u.records, enumtab := u.enums
    nominals := allNominals, importedRecords := importedRecords, importedEnums := importedEnums, total := src.total
    profile011 := profileAtLeastMinor src u.header.versionStart u.header.versionStop 11
    profile013 := profileAtLeastMinor src u.header.versionStart u.header.versionStop 13
    obls := (collectSigtab src u.fns u.records u.enums allNominals).obls, tops := [], ok := true, n := 0 }

theorem collectSigtab_tab (fns : List FnDecl) (rectab : List RecordDecl) (enumtab : List EnumDecl) :
    (collectSigtab src fns rectab enumtab nominals).tab =
      ((fns.take (1024 * 64)).map fun fn => (checkSig src fn rectab enumtab nominals).sig).reverse := by
  have hnil : ∀ st : SigWalk, st.rest = [] → collectSigtabStep src st rectab enumtab nominals = st := by
    intro st hst
    rw [collectSigtabStep, hst]
  have hcons : ∀ (st : SigWalk) (fn : FnDecl) (t : List FnDecl), st.rest = fn :: t →
      (collectSigtabStep src st rectab enumtab nominals).rest = t ∧
        (collectSigtabStep src st rectab enumtab nominals).tab =
          (checkSig src fn rectab enumtab nominals).sig :: st.tab := by
    intro st fn t hst
    rw [collectSigtabStep, hst]
    exact ⟨rfl, rfl⟩
  have htab := iterate_chunks_foldl (fun st => collectSigtabChunk src st rectab enumtab nominals) SigWalk.rest
    SigWalk.tab (fun tab fn => (checkSig src fn rectab enumtab nominals).sig :: tab)
    (fun st => ({ tab := st.tab, obls := st.obls } : SigTabRep)) SigTabRep.tab id hnil hcons (fun _ => rfl)
    (fun _ => rfl) 64 { rest := fns, tab := [], obls := [], nominals := nominals }
  rw [List.foldl_flip_cons_eq_append, List.append_nil, id] at htab
  exact htab

theorem bindLocalCallableIdentities_eq (header : Parser.Header) (sigs : List Sig) :
    bindLocalCallableIdentities src header sigs =
      ((sigs.take (1024 * 64)).map (bindCallableSignature src header.moduleStart header.moduleStop)).reverse := by
  -- the walk carries the module along with what it has bound
  have hfold : ∀ (sigs acc : List Sig) (start stop : Nat),
      sigs.foldl (fun (made : List Sig × Nat × Nat) sig =>
          (bindCallableSignature src made.2.1 made.2.2 sig :: made.1, made.2)) (acc, start, stop) =
        ((sigs.map (bindCallableSignature src start stop)).reverse ++ acc, start, stop) := by
    intro sigs
    induction sigs with
    | nil =>
        intro acc start stop
        rfl
    | cons sig rest ih =>
        intro acc start stop
        rw [List.foldl_cons, ih, List.map_cons, List.reverse_cons, List.append_assoc]
        rfl
  have hwalk := iterate_chunks_foldl (bindLocalCallableIdentityChunk src) SigIdentityWalk.rest
    (fun st => (st.acc, st.moduleStart, st.moduleStop))
    (fun made sig => (bindCallableSignature src made.2.1 made.2.2 sig :: made.1, made.2)) SigIdentityWalk.acc id
    Prod.fst (fun st hst => by rw [bindLocalCallableIdentity, hst])
    (fun st sig t hst => by rw [bindLocalCallableIdentity, hst]; exact ⟨rfl, rfl⟩) (fun _ => rfl) (fun _ => rfl) 64
    { rest := sigs, acc := [], moduleStart := header.moduleStart, moduleStop := header.moduleStop }
  rw [hfold, List.append_nil] at hwalk
  exact hwalk

theorem mergeSigTables_eq (isLocal imported : List Sig) :
    mergeSigTables isLocal imported = (isLocal.take 1024).reverse ++ imported := by
  have hnil : ∀ st : SigMerge, st.rest = [] → mergeSigTablesStep st = st := by
    intro st hst
    rw [mergeSigTablesStep, hst]
  have hcons : ∀ (st : SigMerge) (sig : Sig) (t : List Sig), st.rest = sig :: t →
      (mergeSigTablesStep st).rest = t ∧ (mergeSigTablesStep st).acc = sig :: st.acc := by
    intro st sig t hst
    rw [mergeSigTablesStep, hst]
    exact ⟨rfl, rfl⟩
  rw [mergeSigTables, iterate_foldl SigMerge.rest SigMerge.acc (fun acc sig => sig :: acc) hnil hcons,
    List.foldl_flip_cons_eq_append']

/-- **The table**: the signatures of the first 1024 functions, the last one first, and the imported ones behind them. -/
theorem unitSigs_eq :
    unitSigs src u imported nominals = ((u.fns.take 1024).map (ownSig src u nominals)).reverse ++ imported := by
  have hall : ∀ f : FnDecl → Sig, ((u.fns.take (1024 * 64)).map f).reverse.take (1024 * 64) =
      ((u.fns.take (1024 * 64)).map f).reverse := by
    intro f
    apply List.take_of_length_le
    rw [List.length_reverse, List.length_map]
    exact List.length_take_le _ _
  rw [unitSigs, mergeSigTables_eq, bindLocalCallableIdentities_eq, collectSigtab_tab, hall, List.map_reverse,
    List.reverse_reverse, List.map_map, ← List.map_take, List.take_take]
  rfl

/-! ## Completeness -/

/-- The names of the functions are spans, and no two of them are spelled alike. -/
structure NamesApart (src : Source) (fns : List FnDecl) : Prop where
  ordered : ∀ fn ∈ fns, fn.sig.nameStart ≤ fn.sig.nameStop
  apart : fns.Pairwise fun fn other => fn.Spells src other.sig.nameStart other.sig.nameStop = false

/-- Every declared function is looked up as itself, and every other name as the first imported entry that carries it. -/
structure LookupComplete (src : Source) (u : Unit) (imported : List Sig) (nominals : List NominalTypeIdentity) :
    Prop where
  declared : ∀ fn ∈ u.fns, sigLookup src (unitSigs src u imported nominals) fn.sig.nameStart fn.sig.nameStop =
    .ofEntry (some (ownSig src u nominals fn))
  other : ∀ start stop, (∀ fn ∈ u.fns, fn.Spells src start stop = false) →
    sigLookup src (unitSigs src u imported nominals) start stop = .ofEntry (imported.find? (Sig.Spells src start stop))

/-- The imported entries that a lookup reaches: its 65536 passes less one for every signature of the unit in the table. -/
def inReach (u : Unit) (imported : List Sig) : List Sig := imported.take (1024 * 64 - min 1024 u.fns.length)

/-- The imported entries behind the last pass of a lookup. -/
def outOfReach (u : Unit) (imported : List Sig) : List Sig := imported.drop (1024 * 64 - min 1024 u.fns.length)

/-- Nothing that is dropped would have been found: a function behind the first 1024 has its signature among the
    imported ones, as the first of its name, and an imported name out of reach is carried by a function or by an
    entry within reach. -/
structure TableFits (src : Source) (u : Unit) (imported : List Sig) (nominals : List NominalTypeIdentity) : Prop where
  late : ∀ fn ∈ u.fns.drop 1024, (inReach u imported).find? (Sig.Spells src fn.sig.nameStart fn.sig.nameStop) =
    some (ownSig src u nominals fn)
  far : ∀ sig ∈ outOfReach u imported, sig.start ≤ sig.stop →
    (∃ fn ∈ u.fns, fn.Spells src sig.start sig.stop = true) ∨
      ∃ earlier ∈ inReach u imported, earlier.Spells src sig.start sig.stop = true

/-- A lookup in the table of a unit: the signatures of the first 1024 functions, then the imported ones in reach. -/
theorem sigLookup_unitSigs (start stop : Nat) :
    sigLookup src (unitSigs src u imported nominals) start stop =
      .ofEntry ((((u.fns.take 1024).map (ownSig src u nominals)).reverse.find? (Sig.Spells src start stop)).or
        ((inReach u imported).find? (Sig.Spells src start stop))) := by
  have hlength : ((u.fns.take 1024).map (ownSig src u nominals)).reverse.length = min 1024 u.fns.length := by
    rw [List.length_reverse, List.length_map, List.length_take]
  rw [sigLookup_eq, unitSigs_eq, List.take_append, List.take_of_length_le (by omega), List.find?_append, hlength]
  rfl

/-- A name that no function carries is not found among the signatures of the unit. -/
theorem find?_ownSigs_of_other {fns : List FnDecl} {start stop : Nat}
    (h : ∀ fn ∈ fns, fn.Spells src start stop = false) :
    ((fns.map (ownSig src u nominals)).reverse.find? (Sig.Spells src start stop)) = none := by
  rw [List.find?_eq_none]
  intro sig hsig
  obtain ⟨fn, hfn, rfl⟩ := List.mem_map.mp (List.mem_reverse.mp hsig)
  exact Bool.eq_false_iff.mp (h fn hfn)

theorem FnDecl.Spells.symm {fn other : FnDecl} (h : fn.Spells src other.sig.nameStart other.sig.nameStop = true) :
    other.Spells src fn.sig.nameStart fn.sig.nameStop = true :=
  spansEqual_symm h

namespace NamesApart

variable {fns : List FnDecl}

/-- A function whose name is spelled like that of another one is that one. -/
theorem eq_of_spells (hnames : NamesApart src fns) {fn other : FnDecl} (hfn : fn ∈ fns) (hother : other ∈ fns)
    (hspells : other.Spells src fn.sig.nameStart fn.sig.nameStop = true) : other = fn := by
  have h := hnames.apart
  obtain ⟨i, hi, rfl⟩ := List.getElem_of_mem hother
  obtain ⟨j, hj, rfl⟩ := List.getElem_of_mem hfn
  rw [List.pairwise_iff_getElem] at h
  rcases Nat.lt_trichotomy i j with hlt | rfl | hlt
  · rw [h i j hi hj hlt] at hspells
    cases hspells
  · rfl
  · have hsymm := FnDecl.Spells.symm hspells
    rw [h j i hj hi hlt] at hsymm
    cases hsymm

/-- A function among the first ones is found as itself. -/
theorem find?_ownSigs (h : NamesApart src u.fns) {fn : FnDecl} (hfn : fn ∈ u.fns.take 1024) :
    (((u.fns.take 1024).map (ownSig src u nominals)).reverse.find?
      (Sig.Spells src fn.sig.nameStart fn.sig.nameStop)) = some (ownSig src u nominals fn) := by
  have hself : (ownSig src u nominals fn).Spells src fn.sig.nameStart fn.sig.nameStop = true :=
    spansEqual_self (h.ordered fn (List.mem_of_mem_take hfn))
  cases hfind : ((u.fns.take 1024).map (ownSig src u nominals)).reverse.find?
      (Sig.Spells src fn.sig.nameStart fn.sig.nameStop) with
  | none =>
      rw [List.find?_eq_none] at hfind
      exact absurd hself (hfind _ (List.mem_reverse.mpr (List.mem_map_of_mem hfn)))
  | some sig =>
      obtain ⟨other, hother, rfl⟩ := List.mem_map.mp (List.mem_reverse.mp (List.mem_of_find?_eq_some hfind))
      have hspells : Sig.Spells src fn.sig.nameStart fn.sig.nameStop (ownSig src u nominals other) = true :=
        List.find?_some hfind
      rw [h.eq_of_spells (List.mem_of_mem_take hfn) (List.mem_of_mem_take hother) hspells]

/-- The name of a function behind the first ones is not found among these. -/
theorem find?_ownSigs_late (h : NamesApart src u.fns) {fn : FnDecl} (hfn : fn ∈ u.fns.drop 1024) :
    (((u.fns.take 1024).map (ownSig src u nominals)).reverse.find?
      (Sig.Spells src fn.sig.nameStart fn.sig.nameStop)) = none := by
  apply find?_ownSigs_of_other
  intro other hother
  have hapart := h.apart
  rw [← List.take_append_drop 1024 u.fns, List.pairwise_append] at hapart
  exact hapart.2.2 other hother fn hfn

end NamesApart

/-- What a complete lookup finds of the functions behind the first 1024. -/
theorem LookupComplete.late (h : LookupComplete src u imported nominals) (hnames : NamesApart src u.fns) {fn : FnDecl}
    (hfn : fn ∈ u.fns.drop 1024) :
    (inReach u imported).find? (Sig.Spells src fn.sig.nameStart fn.sig.nameStop) =
      some (ownSig src u nominals fn) := by
  have hlookup := h.declared fn (List.mem_of_mem_drop hfn)
  rw [sigLookup_unitSigs, hnames.find?_ownSigs_late hfn, Option.none_or] at hlookup
  exact SigRes.ofEntry_inj hlookup

/-- **A lookup is complete exactly when nothing is dropped that it would have found.** -/
theorem lookupComplete_iff (h : NamesApart src u.fns) :
    LookupComplete src u imported nominals ↔ TableFits src u imported nominals := by
  have himported : imported = inReach u imported ++ outOfReach u imported := (List.take_append_drop _ imported).symm
  constructor
  · intro hcomplete
    refine ⟨fun fn hfn => hcomplete.late h hfn, ?_⟩
    intro sig hsig hordered
    by_contra hnone
    rw [not_or] at hnone
    obtain ⟨hfns, hearlier⟩ := hnone
    -- the name of the entry is of no function, and no entry within reach carries it
    have hother : ∀ fn ∈ u.fns, fn.Spells src sig.start sig.stop = false := by
      intro fn hfn
      rw [Bool.eq_false_iff]
      exact fun hspells => hfns ⟨fn, hfn, hspells⟩
    have hreach : (inReach u imported).find? (Sig.Spells src sig.start sig.stop) = none := by
      rw [List.find?_eq_none]
      exact fun earlier hmem hspells => hearlier ⟨earlier, hmem, hspells⟩
    have hlookup := hcomplete.other sig.start sig.stop hother
    rw [sigLookup_unitSigs, find?_ownSigs_of_other (fun fn hfn => hother fn (List.mem_of_mem_take hfn)), hreach,
      Option.none_or] at hlookup
    have hfind := (SigRes.ofEntry_inj hlookup).symm
    rw [List.find?_eq_none] at hfind
    exact hfind sig (himported ▸ List.mem_append_right _ hsig) (spansEqual_self hordered)
  · rintro ⟨hlate, hfar⟩
    refine ⟨?_, ?_⟩
    · intro fn hfn
      rw [sigLookup_unitSigs]
      rw [← List.take_append_drop 1024 u.fns, List.mem_append] at hfn
      rcases hfn with hfirst | hlast
      · rw [h.find?_ownSigs hfirst, Option.some_or]
      · rw [h.find?_ownSigs_late hlast, Option.none_or, hlate fn hlast]
    · intro start stop hother
      rw [sigLookup_unitSigs, find?_ownSigs_of_other (fun fn hfn => hother fn (List.mem_of_mem_take hfn)),
        Option.none_or]
      congr 1
      conv_rhs => rw [himported, List.find?_append]
      cases hreach : (inReach u imported).find? (Sig.Spells src start stop) with
      | some sig => rw [Option.some_or]
      | none =>
          rw [Option.none_or, eq_comm, List.find?_eq_none]
          intro sig hsig hspells
          rw [List.find?_eq_none] at hreach
          have hordered : sig.start ≤ sig.stop := (spansEqual_iff.mp hspells).1
          rcases hfar sig hsig hordered with ⟨fn, hfn, hfound⟩ | ⟨earlier, hmem, hfound⟩
          · have hspelled : fn.Spells src start stop = true := spansEqual_trans hfound hspells
            rw [hother fn hfn] at hspelled
            cases hspelled
          · exact hreach earlier hmem (spansEqual_trans hfound hspells)

/-- A lookup is complete when the unit has at most 1024 functions and the table at most 65536 entries. -/
theorem tableFits_of_length_le (hfns : u.fns.length ≤ 1024) (hall : u.fns.length + imported.length ≤ 1024 * 64) :
    TableFits src u imported nominals := by
  refine ⟨?_, ?_⟩
  · intro fn hfn
    rw [List.drop_eq_nil_of_le hfns] at hfn
    cases hfn
  · intro sig hsig
    rw [outOfReach, Nat.min_eq_right hfns, List.drop_eq_nil_of_le (by omega)] at hsig
    cases hsig

/-! ## Units of many functions -/

/-- `fn a…a(x:u64)->(r:u64){return x;}`, with a name of `i + 1` letters. -/
def manyText (i : Nat) : View :=
  [102, 110, 32] ++ List.replicate (i + 1) 97 ++
    [40, 120, 58, 117, 54, 52, 41, 45, 62, 40, 114, 58, 117, 54, 52, 41, 123, 114, 101, 116, 117, 114, 110, 32, 120, 59,
      125]

/-- `mncs 0.18;module m;` and the first `n` of these functions. -/
def manySource (n : Nat) : Source :=
  let text : View :=
    [109, 110, 99, 115, 32, 48, 46, 49, 56, 59, 109, 111, 100, 117, 108, 101, 32, 109, 59] ++
      (List.range n).flatMap manyText
  { pages := text.toChunks 1024, stride := 1024, total := 19 + 30 * n + n * (n + 1) / 2 }

/-- What the parser makes of the function that starts at an offset and has a name of `i + 1` letters. -/
def manyFn (start i : Nat) : FnDecl :=
  let body := start + 3 + (i + 1)
  { ok := true, errStart := 0, errStop := 0
    sig :=
      { nameStart := start + 3, nameStop := body, generics := []
        params := [{ nameStart := body + 1, nameStop := body + 2, typeStart := body + 3, typeStop := body + 6, typeKind := 1 }]
        results :=
          [{ nameStart := body + 10, nameStop := body + 11, typeStart := body + 12, typeStop := body + 15, typeKind := 1 }]
        contracts := [], effects := [], capabilities := [] }
    body := { body := [], ret := .name (body + 24) (body + 25), hasRet := true }
    fnStart := start, fnStop := body + 27, cursor := body + 27 }

def manyUnit (n : Nat) : Unit :=
  { ok := true, errStart := 0, errStop := 0
    header :=
      { code := 0, start := 0, stop := 0, versionStart := 5, versionStop := 9, moduleStart := 17, moduleStop := 18
        nextOffset := 19, state := 8 }
    uses := [], records := [], enums := []
    fns := (List.range n).map fun i => manyFn (19 + 30 * i + i * (i + 1) / 2) i
    cursor := 19 + 30 * n + n * (n + 1) / 2 }

/-- Names of different lengths are spelled apart. -/
theorem manyUnit_namesApart (src : Source) (n : Nat) : NamesApart src (manyUnit n).fns := by
  refine ⟨?_, ?_⟩
  · intro fn hfn
    obtain ⟨i, -, rfl⟩ := List.mem_map.mp hfn
    exact Nat.le_add_right _ (i + 1)
  · rw [manyUnit, List.pairwise_map]
    refine List.Pairwise.imp ?_ List.pairwise_lt_range
    intro i j hlt
    rw [FnDecl.Spells, Bool.eq_false_iff]
    intro hspells
    have hlength := (spansEqual_iff.mp hspells).2.2.1
    simp only [manyFn] at hlength
    omega

theorem lookupComplete_many : LookupComplete (manySource 3) (manyUnit 3) [] [] :=
  (lookupComplete_iff (manyUnit_namesApart _ 3)).mpr (tableFits_of_length_le (by decide) (by decide))

/-- The last of 1025 functions is not in the table. -/
theorem not_lookupComplete :
    NamesApart (manySource 1025) (manyUnit 1025).fns ∧ ¬ LookupComplete (manySource 1025) (manyUnit 1025) [] [] := by
  have hnames : NamesApart (manySource 1025) (manyUnit 1025).fns := manyUnit_namesApart _ 1025
  refine ⟨hnames, ?_⟩
  intro hcomplete
  have hlast : manyFn (19 + 30 * 1024 + 1024 * (1024 + 1) / 2) 1024 ∈ (manyUnit 1025).fns.drop 1024 := by
    rw [manyUnit, List.range_succ, List.map_append, List.drop_append, List.length_map, List.length_range, Nat.sub_self]
    exact List.mem_append_right _ List.mem_cons_self
  have hfind := hcomplete.late hnames hlast
  rw [inReach, List.take_nil, List.find?_nil] at hfind
  cases hfind

end MncsCompiler.Decl
