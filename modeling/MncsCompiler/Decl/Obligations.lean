import MncsCompiler.Decl.Lexical
import MncsCompiler.Decl.Resolve

/-!
# `Decl.Obligations` — what the verdict of a proof rests on

Every check of the prover leaves an obligation: discharged at run time, or failed. The obligations of a unit are
gathered function by function, and whatever the order of the bounded copies in between, the verdict looks at the first
1024 of them (`proveParsedUnit_verdict`). A unit that is accepted has walked every body to its end.
-/

namespace MncsCompiler.Decl

open BoundedLoop

variable {src : Source}

/-! ## Bounded copies -/

theorem take_take_append {α : Type} (n : Nat) (a b : List α) : ((a.take n) ++ b).take n = (a ++ b).take n := by
  rw [List.take_append, List.take_append, List.take_take, Nat.min_self, List.length_take]
  congr 2
  omega

theorem take_append_congr {α : Type} {n : Nat} {a a' : List α} (h : a.take n = a'.take n) (b : List α) :
    (a ++ b).take n = (a' ++ b).take n := by
  rw [← take_take_append, h, take_take_append]

theorem appendObls_eq (first second : List Obligation) : appendObls first second = first.take 1024 ++ second := by
  rw [appendObls, reverseObls, reverseWithin_eq,
    iterate_foldl OblPrepend.rest OblPrepend.acc fun acc h => h :: acc]
  · rw [List.foldl_flip_cons_eq_append', List.take_of_length_le, List.reverse_reverse]
    rw [List.length_reverse, List.length_take]
    exact Nat.min_le_left _ _
  · intro st hst
    rw [appendOblsStep, hst]
  · intro st h t hst
    rw [appendOblsStep, hst]
    exact ⟨rfl, rfl⟩

theorem topslistReverse_eq (list : List (List TOp)) : topslistReverse list = (list.take 1024).reverse := by
  rw [topslistReverse, iterate_foldl TopsLRev.rest TopsLRev.acc fun acc h => h :: acc]
  · rw [List.foldl_flip_cons_eq_append', List.append_nil]
  · intro st hst
    rw [topslistReverseStep, hst]
  · intro st h t hst
    rw [topslistReverseStep, hst]
    exact ⟨rfl, rfl⟩

theorem appendTopslist_eq (first second : List (List TOp)) :
    appendTopslist first second = first.take 1024 ++ second := by
  rw [appendTopslist, topslistReverse_eq, iterate_foldl TopsLPrepend.rest TopsLPrepend.acc fun acc h => h :: acc]
  · rw [List.foldl_flip_cons_eq_append', List.take_of_length_le, List.reverse_reverse]
    rw [List.length_reverse, List.length_take]
    exact Nat.min_le_left _ _
  · intro st hst
    rw [appendTopslistStep, hst]
  · intro st h t hst
    rw [appendTopslistStep, hst]
    exact ⟨rfl, rfl⟩

/-! ## Failures -/

def Obligation.failed (o : Obligation) : Bool := o.status = 1

def Obligation.span (o : Obligation) : ExprSpan := { start := o.start, stop := o.stop }

theorem iterate_oblFailStep (n : Nat) (obls : List Obligation) :
    (oblFailStep^[n] { rest := obls, found := false }).found = (obls.take n).any Obligation.failed := by
  have hfound : ∀ n (st : FailScan), st.found = true → (oblFailStep^[n] st).found = true := by
    intro n st hst
    have hstep : oblFailStep st = st := by rw [oblFailStep, if_pos hst]
    rw [Function.iterate_fixed hstep, hst]
  induction n generalizing obls with
  | zero => rfl
  | succ n ih =>
      rw [Function.iterate_succ_apply]
      cases obls with
      | nil =>
          have hstep : oblFailStep { rest := [], found := false } = { rest := [], found := false } := rfl
          rw [hstep, ih, List.take_nil, List.take_nil]
      | cons o rest =>
          rw [List.take_succ_cons, List.any_cons, Obligation.failed]
          by_cases hfailed : o.status = 1
          · have hstep : oblFailStep { rest := o :: rest, found := false } = { rest := [], found := true } :=
              if_pos hfailed
            rw [hstep, hfound n _ rfl, decide_eq_true hfailed, Bool.true_or]
          · have hstep : oblFailStep { rest := o :: rest, found := false } = { rest := rest, found := false } :=
              if_neg hfailed
            rw [hstep, ih, decide_eq_false hfailed, Bool.false_or]

/-- The verdict is about the first 1024 obligations. -/
theorem oblHasFail_eq (obls : List Obligation) : oblHasFail obls = (obls.take 1024).any Obligation.failed :=
  iterate_oblFailStep 1024 obls

def FailSpanScan.span (st : FailSpanScan) : ExprSpan := { start := st.start, stop := st.stop }

theorem iterate_firstFailSpanStep (n : Nat) (obls : List Obligation) :
    (firstFailSpanStep^[n] { rest := obls, start := 0, stop := 0, found := false }).span =
      (((obls.take n).find? Obligation.failed).map Obligation.span).getD { start := 0, stop := 0 } := by
  have hfound : ∀ n (st : FailSpanScan), st.found = true → firstFailSpanStep^[n] st = st := by
    intro n st hst
    exact Function.iterate_fixed (by rw [firstFailSpanStep, if_pos hst]) n
  induction n generalizing obls with
  | zero => rfl
  | succ n ih =>
      rw [Function.iterate_succ_apply]
      cases obls with
      | nil =>
          have hstep : firstFailSpanStep { rest := [], start := 0, stop := 0, found := false } =
              { rest := [], start := 0, stop := 0, found := true } := rfl
          rw [hstep, hfound n _ rfl]
          rfl
      | cons o rest =>
          rw [List.take_succ_cons, List.find?_cons, Obligation.failed]
          by_cases hfailed : o.status = 1
          · have hstep : firstFailSpanStep { rest := o :: rest, start := 0, stop := 0, found := false } =
                { rest := [], start := o.start, stop := o.stop, found := true } := if_pos hfailed
            rw [hstep, hfound n _ rfl, decide_eq_true hfailed]
            rfl
          · have hstep : firstFailSpanStep { rest := o :: rest, start := 0, stop := 0, found := false } =
                { rest := rest, start := 0, stop := 0, found := false } := if_neg hfailed
            rw [hstep, ih, decide_eq_false hfailed]

theorem firstFailSpan_eq (obls : List Obligation) :
    firstFailSpan obls =
      (((obls.take 1024).find? Obligation.failed).map Obligation.span).getD { start := 0, stop := 0 } :=
  iterate_firstFailSpanStep 1024 obls

/-! ## Bodies -/

/-- What the proof of one function adds to the walk over the bodies. -/
structure BodyProof where
  ok : Bool
  obls : List Obligation
  tops : List (List TOp)

def fnProof (src : Source) (st : BodyWalk) (h : FnDecl) : FnProve :=
  proveFnWithImportedSchemas src h (sigLookup src st.tab h.sig.nameStart h.sig.nameStop).sig st.tab st.rectab st.enumtab
    st.nominals st.importedRecords st.importedEnums st.profile011 st.profile013

/-- A function has exactly one result, or it fails for that alone. -/
def bodyProof (src : Source) (st : BodyWalk) (h : FnDecl) : BodyProof :=
  if countResultsFields h.sig.results ≠ 1 then
    { ok := true, obls := [{ kind := 18, start := h.fnStart, stop := h.fnStop, status := 1 }], tops := [] }
  else
    { ok := (fnProof src st h).ok, obls := sigRestObls src st h ++ (fnProof src st h).obls
      tops := (fnProof src st h).tops }

/-- A walk over the bodies has added the proofs of some functions. -/
structure Proves (st done : BodyWalk) (parts : List BodyProof) : Prop where
  obls : done.obls.take 1024 = (st.obls ++ parts.flatMap BodyProof.obls).take 1024
  tops : done.tops.take 1024 = (st.tops ++ parts.flatMap BodyProof.tops).take 1024
  handed : ∀ ops ∈ done.tops, ops ∈ st.tops ∨ ∃ part ∈ parts, ops ∈ part.tops
  ok : done.ok = (st.ok && parts.all BodyProof.ok)
  count : done.n = st.n + parts.length

theorem Proves.trans {st mid done : BodyWalk} {parts others : List BodyProof} (h : Proves st mid parts)
    (hnext : Proves mid done others) : Proves st done (parts ++ others) where
  obls := by
    rw [hnext.obls, take_append_congr h.obls, List.append_assoc, List.flatMap_append]
  tops := by
    rw [hnext.tops, take_append_congr h.tops, List.append_assoc, List.flatMap_append]
  handed := by
    intro ops hops
    rcases hnext.handed ops hops with hops | ⟨part, hpart, hops⟩
    · rcases h.handed ops hops with hops | ⟨part, hpart, hops⟩
      · exact .inl hops
      · exact .inr ⟨part, List.mem_append_left _ hpart, hops⟩
    · exact .inr ⟨part, List.mem_append_right _ hpart, hops⟩
  ok := by rw [hnext.ok, h.ok, List.all_append, Bool.and_assoc]
  count := by rw [hnext.count, h.count, List.length_append, Nat.add_assoc]

theorem proveOneBody_proves (st : BodyWalk) (h : FnDecl) (t : List FnDecl) :
    Proves st (proveOneBody src st h t) [bodyProof src st h] := by
  rw [proveOneBody, bodyProof]
  by_cases hresults : countResultsFields h.sig.results ≠ 1
  · rw [if_pos hresults, if_pos hresults, proveBodySkip]
    constructor
    · dsimp only
      rw [appendObls_eq, take_take_append]
      rfl
    · simp
    · exact fun ops hops => .inl hops
    · simp
    · rfl
  · rw [if_neg hresults, if_neg hresults]
    unfold fnProof
    dsimp only
    generalize proveFnWithImportedSchemas src h (sigLookup src st.tab h.sig.nameStart h.sig.nameStop).sig st.tab
      st.rectab st.enumtab st.nominals st.importedRecords st.importedEnums st.profile011 st.profile013 = proof
    constructor
    · dsimp only
      rw [appendObls_eq, appendObls_eq, take_take_append, take_append_congr (take_take_append 1024 _ _),
        List.append_assoc]
      simp
    · dsimp only
      rw [appendTopslist_eq, take_take_append]
      simp
    · dsimp only
      intro ops hops
      rw [appendTopslist_eq] at hops
      rcases List.mem_append.mp hops with hops | hops
      · exact .inl (List.mem_of_mem_take hops)
      · exact .inr ⟨_, List.mem_singleton_self _, hops⟩
    · dsimp only
      cases st.ok <;> cases proof.ok <;> rfl
    · rfl

/-- The proof of a function depends on the tables of the walk, which no function changes. -/
theorem bodyProof_after (st : BodyWalk) (h other : FnDecl) (t : List FnDecl) :
    bodyProof src (proveOneBody src st h t) other = bodyProof src st other := by
  rw [proveOneBody]
  by_cases hresults : countResultsFields h.sig.results ≠ 1
  · rw [if_pos hresults, proveBodySkip]
    rfl
  · rw [if_neg hresults]
    rfl

/-- **The walk over the bodies** adds the proof of one function after the other. -/
theorem proveBodiesStep_run (n : Nat) (st : BodyWalk) :
    Proves st ((proveBodiesStep src)^[n] st) ((st.rest.take n).map (bodyProof src st)) := by
  induction n generalizing st with
  | zero => exact ⟨by simp, by simp, fun ops hops => .inl hops, by simp, rfl⟩
  | succ n ih =>
      rw [Function.iterate_succ_apply]
      cases hrest : st.rest with
      | nil =>
          have hstep : proveBodiesStep src st = st := by rw [proveBodiesStep, hrest]
          have hrun := ih st
          rw [hrest] at hrun
          rw [hstep]
          simpa using hrun
      | cons h t =>
          have hstep : proveBodiesStep src st = proveOneBody src st h t := by rw [proveBodiesStep, hrest]
          have hnext : (proveOneBody src st h t).rest = t := by
            rw [proveOneBody]
            split <;> rfl
          have hrun := ih (proveOneBody src st h t)
          have hsame : bodyProof src (proveOneBody src st h t) = bodyProof src st :=
            funext fun other => bodyProof_after st h other t
          rw [hnext, hsame] at hrun
          rw [hstep, List.take_succ_cons, List.map_cons]
          exact (proveOneBody_proves st h t).trans hrun

/-! ## Units -/

section Verdict

variable (src : Source) (u : Unit) (imported : List Sig) (nominals : List NominalTypeIdentity)
  (importedRecords : List ImportedRecordSchema) (importedEnums : List ImportedEnumSchema)

/-- The names of the functions that are looked at. -/
def declaredNames (u : Unit) : List NameSpan :=
  (u.fns.take 1024).map fun decl => { start := decl.sig.nameStart, stop := decl.sig.nameStop }

/-- The proofs of the functions of a unit, each over the table of all signatures. -/
def unitParts : List BodyProof :=
  (u.fns.take 1024).map (bodyProof src (unitWalk src u imported nominals importedRecords importedEnums))

/-- All obligations of a unit: those of the signatures, then those of the functions. -/
def unitObligations : List Obligation :=
  (unitWalk src u imported nominals importedRecords importedEnums).obls ++
    (unitParts src u imported nominals importedRecords importedEnums).flatMap BodyProof.obls

theorem proveBodies_unitWalk :
    Proves (unitWalk src u imported nominals importedRecords importedEnums)
      (proveBodies src (unitWalk src u imported nominals importedRecords importedEnums))
      (unitParts src u imported nominals importedRecords importedEnums) :=
  proveBodiesStep_run 1024 (unitWalk src u imported nominals importedRecords importedEnums)

variable {u}

theorem proveParsedUnit_unparsed (hok : u.ok = false) :
    proveParsedUnitWithImportedSchemas src u imported nominals importedRecords importedEnums =
      { ok := false, errStart := u.errStart, errStop := u.errStop, unit := u, obls := [], tops := []
        fnCount := 0 } := by
  simp only [proveParsedUnitWithImportedSchemas, hok, Bool.not_false, if_true]

theorem proveParsedUnit_repeats (hok : u.ok = true)
    (hdup : (duplicateFnNames src (collectFnNames u.fns)).found = true) :
    proveParsedUnitWithImportedSchemas src u imported nominals importedRecords importedEnums =
      { ok := false, errStart := (duplicateFnNames src (collectFnNames u.fns)).start
        errStop := (duplicateFnNames src (collectFnNames u.fns)).stop, unit := u
        obls := [{ kind := 37, start := (duplicateFnNames src (collectFnNames u.fns)).start
                   stop := (duplicateFnNames src (collectFnNames u.fns)).stop, status := 1 }]
        tops := [], fnCount := 0 } := by
  simp only [proveParsedUnitWithImportedSchemas, hok, hdup, Bool.not_true, Bool.false_eq_true, if_false, if_true]

/-- The result of a walk over all bodies. -/
def BodyWalk.verdict (u : Unit) (done : BodyWalk) : UnitProve :=
  let ok := closeAnd done.ok (!oblHasFail done.obls)
  let err := firstFailSpan done.obls
  { ok := ok, errStart := if ok then 0 else err.start, errStop := if ok then 0 else err.stop, unit := u
    obls := done.obls, tops := done.tops, fnCount := done.n }

/-- The verdict of a unit whose names are distinct: its obligations and the ends of its walks. -/
theorem proveParsedUnit_walked (hok : u.ok = true)
    (hdup : (duplicateFnNames src (collectFnNames u.fns)).found = false) :
    proveParsedUnitWithImportedSchemas src u imported nominals importedRecords importedEnums =
      (proveBodies src (unitWalk src u imported nominals importedRecords importedEnums)).verdict u := by
  simp only [proveParsedUnitWithImportedSchemas, hok, hdup, Bool.not_true, Bool.false_eq_true, if_false]
  rfl

theorem provedUnit_eq :
    (proveParsedUnitWithImportedSchemas src u imported nominals importedRecords importedEnums).unit = u := by
  cases hok : u.ok with
  | false => rw [proveParsedUnit_unparsed src imported nominals importedRecords importedEnums hok]
  | true =>
      cases hdup : (duplicateFnNames src (collectFnNames u.fns)).found with
      | true => rw [proveParsedUnit_repeats src imported nominals importedRecords importedEnums hok hdup]
      | false =>
          rw [proveParsedUnit_walked src imported nominals importedRecords importedEnums hok hdup]
          rfl

theorem closeAnd_eq (a b : Bool) : closeAnd a b = (a && b) := by cases a <;> cases b <;> rfl

theorem duplicateFnNames_declared :
    (duplicateFnNames src (collectFnNames u.fns)).found = false ↔ DistinctNames src (declaredNames u) := by
  rw [duplicateFnNames_found, collectFnNames_eq, declaredNames]
  rw [collectFnNames_eq, List.length_map]
  exact List.length_take_le ..

theorem not_failed_iff {obls : List Obligation} :
    obls.any Obligation.failed = false ↔ ∀ o ∈ obls, o.status ≠ 1 := by
  simp [Obligation.failed]

/-- **What the verdict of a unit rests on**: it parses, no function is declared twice, the walk over every body came to
    its end, and none of the first 1024 obligations has failed. Obligations behind them are not looked at. A unit that
    is refused points at the first of these that is missing, and one that is accepted at nothing. -/
structure Judged (u : Unit) (distinct : Prop) (repeated : DupReport) (parts : List BodyProof) (seen : List Obligation)
    (proof : UnitProve) : Prop where
  ok : proof.ok = true ↔
    u.ok = true ∧ distinct ∧ (∀ part ∈ parts, part.ok = true) ∧ ∀ o ∈ seen, o.status ≠ 1
  span : ({ start := proof.errStart, stop := proof.errStop } : ExprSpan) =
    if proof.ok then { start := 0, stop := 0 }
    else if !u.ok then { start := u.errStart, stop := u.errStop }
    else if repeated.found then { start := repeated.start, stop := repeated.stop }
    else ((seen.find? Obligation.failed).map Obligation.span).getD { start := 0, stop := 0 }

section Cases

variable {distinct : Prop} {repeated : DupReport} {parts : List BodyProof} {seen : List Obligation} {proof : UnitProve}

theorem Judged.unparsed (hok : u.ok = false) (hproof : proof =
      { ok := false, errStart := u.errStart, errStop := u.errStop, unit := u, obls := [], tops := []
        fnCount := 0 }) : Judged u distinct repeated parts seen proof := by
  subst hproof
  exact ⟨iff_of_false Bool.false_ne_true fun h => by rw [hok] at h; exact Bool.false_ne_true h.1, by simp [hok]⟩

theorem Judged.repeats (hok : u.ok = true) (hdistinct : repeated.found = false ↔ distinct)
    (hdup : repeated.found = true) (hproof : proof =
      { ok := false, errStart := repeated.start, errStop := repeated.stop, unit := u
        obls := [{ kind := 37, start := repeated.start, stop := repeated.stop, status := 1 }], tops := []
        fnCount := 0 }) : Judged u distinct repeated parts seen proof := by
  subst hproof
  constructor
  · refine iff_of_false Bool.false_ne_true ?_
    rintro ⟨-, hnames, -⟩
    rw [hdistinct.mpr hnames] at hdup
    exact Bool.false_ne_true hdup
  · simp [hok, hdup]

theorem Judged.walked {st done : BodyWalk} (hok : u.ok = true) (hdistinct : repeated.found = false ↔ distinct)
    (hdup : repeated.found = false) (hst : st.ok = true) (hrun : Proves st done parts)
    (hseen : seen = (st.obls ++ parts.flatMap BodyProof.obls).take 1024) (hproof : proof = done.verdict u) :
    Judged u distinct repeated parts seen proof := by
  have hobls : done.obls.take 1024 = seen := hrun.obls.trans hseen.symm
  have hverdict : closeAnd done.ok (!oblHasFail done.obls) =
      (parts.all BodyProof.ok && !seen.any Obligation.failed) := by
    rw [closeAnd_eq, oblHasFail_eq, hobls, hrun.ok, hst, Bool.true_and]
  have hspan : firstFailSpan done.obls =
      ((seen.find? Obligation.failed).map Obligation.span).getD { start := 0, stop := 0 } := by
    rw [firstFailSpan_eq, hobls]
  rw [BodyWalk.verdict, hverdict, hspan] at hproof
  subst hproof
  constructor
  · show (parts.all BodyProof.ok && !seen.any Obligation.failed) = true ↔ _
    rw [Bool.and_eq_true, List.all_eq_true, Bool.not_eq_true', not_failed_iff]
    exact ⟨fun h => ⟨hok, hdistinct.mp hdup, h.1, h.2⟩, fun h => ⟨h.2.2.1, h.2.2.2⟩⟩
  · dsimp only
    cases parts.all BodyProof.ok && !seen.any Obligation.failed with
    | true => rfl
    | false => simp [hok, hdup]

end Cases

end Verdict

end MncsCompiler.Decl
