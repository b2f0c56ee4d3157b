import MncsCompiler.Decl.Tables

/-!
# `Decl.Levels` — how deep the types of signatures are

A type that a signature resolves is not a sequence, or a sequence of one or two levels over a type that is not. What is
not resolved is poison. A signature keeps at most 1024 parameters.
-/

namespace MncsCompiler.Decl

open BoundedLoop

/-! ## Resolution -/

/-- Types that are not sequences. -/
inductive Plain : SemType → Prop where
  | bool : Plain .tBool
  | byte : Plain .tByte
  | int (width : Nat) (signed : Bool) : Plain (.tInt width signed)
  | named (start stop : Nat) : Plain (.tNamed start stop)

/-- Plain types, and sequences of one or two levels over one. -/
inductive Level : SemType → Prop where
  | plain {ty : SemType} (h : Plain ty) : Level ty
  | one {leaf : SemType} (h : Plain leaf) (length : Nat) (valid : Bool) : Level (.tSeqExact leaf length valid)
  | two {leaf : SemType} (h : Plain leaf) (length : Nat) (valid : Bool) (length' : Nat) (valid' : Bool) :
      Level (.tSeqExact (.tSeqExact leaf length valid) length' valid')

/-- What is resolved has a property. -/
structure Resolves (P : SemType → Prop) (res : TyRes) : Prop where
  holds : res.ok = true → P res.ty

section Resolution

variable {P : SemType → Prop} {src : Source} {rectab : List RecordDecl} {enumtab : List EnumDecl}
  {nominals : List NominalTypeIdentity} {generics : List GenericParam}

theorem Resolves.ite {c : Prop} [Decidable c] {first second : TyRes} (hfirst : Resolves P first)
    (hsecond : Resolves P second) : Resolves P (if c then first else second) := by
  split
  · exact hfirst
  · exact hsecond

theorem Resolves.poison : Resolves P { ty := .tPoison, ok := false } := ⟨fun h => nomatch h⟩

theorem Resolves.some {ty : SemType} (h : P ty) : Resolves P { ty := ty, ok := true } := ⟨fun _ => h⟩

theorem plain_ite {c : Prop} [Decidable c] {first second : SemType} (hfirst : Plain first) (hsecond : Plain second) :
    Plain (if c then first else second) := by
  split
  · exact hfirst
  · exact hsecond

theorem scalarSem_plain (start stop : Nat) : Plain (scalarSem src start stop) := by
  have hnamed := Plain.named start stop
  unfold scalarSem
  exact plain_ite hnamed (plain_ite hnamed (plain_ite hnamed (plain_ite hnamed (plain_ite hnamed (plain_ite (.int _ _)
    hnamed)))))

theorem resolveNamedType_plain (start stop : Nat) : Resolves Plain (resolveNamedType src start stop rectab enumtab) := by
  have hplain := @scalarSem_plain src start stop
  unfold resolveNamedType
  cases hsc : scalarSem src start stop with
  | tNamed a b => exact .ite (.some (.named a b)) (.ite (.some (.named a b)) .poison)
  | tBool => exact .some .bool
  | tByte => exact .some .byte
  | tInt w s => exact .some (.int w s)
  | tSeq =>
      rw [hsc] at hplain
      cases hplain
  | tSeqExact element length valid =>
      rw [hsc] at hplain
      cases hplain
  | tPoison => exact .poison

theorem resolveSequenceElement_plain (element : TypeRef) :
    Resolves Plain (resolveSequenceElement src element rectab enumtab nominals) := by
  unfold resolveSequenceElement resolveSeqElem
  refine .ite (.some (.int 64 false)) (.ite (.some (.int 64 true)) (.ite (.some .bool) (.ite (.some .byte) (.ite ?_ (.ite
    ?_ .poison)))))
  · exact .ite (.ite (.some (.named _ _)) .poison) (resolveNamedType_plain _ _)
  · exact .ite (.some (.named _ _)) .poison

theorem resolveSignatureElement_plain (element : TypeRef) :
    Resolves Plain (resolveSignatureElement src element rectab enumtab nominals generics) := by
  unfold resolveSignatureElement
  exact .ite (.some (.named _ _)) (resolveSequenceElement_plain element)

/-- A finished sequence has the element that it was given. -/
theorem finishSignatureSequence_exact (kind elemCursor : Nat) (element : SemType) :
    Resolves (fun ty => ∃ length valid, ty = .tSeqExact element length valid)
      (finishSignatureSequence src kind elemCursor element generics) := by
  have hexact : ∀ length valid, Resolves (fun ty => ∃ length valid, ty = .tSeqExact element length valid)
      { ty := .tSeqExact element length valid, ok := true } := fun length valid => .some ⟨length, valid, rfl⟩
  unfold finishSignatureSequence signatureViewBound resolveViewBound
  refine .ite .poison (.ite .poison (.ite .poison (.ite ?_ (.ite (hexact _ _) (hexact _ _)))))
  exact .ite (hexact _ _) (.ite (hexact _ _) (.ite (hexact _ _) (hexact _ _)))

theorem resolveType_plain {kind : Nat} (start stop : Nat) (hkind : ¬ (kind = 7 ∨ kind = 8)) :
    Resolves Plain (resolveType src kind start stop rectab enumtab nominals) := by
  unfold resolveType
  refine .ite (.some .bool) (.ite (.some .byte) (.ite (.some (.int 64 false)) (.ite (.some (.int 64 true)) (.ite ?_ ?_))))
  · exact .ite (.some (.named _ _)) .poison
  · rw [if_neg (by simpa using hkind)]
    refine .ite ?_ .poison
    exact .ite (resolveNamedType_plain _ _) (.ite (.some (.named _ _)) (resolveNamedType_plain _ _))

theorem resolveSignatureSequenceChild_level (child : TypeRef) :
    Resolves (fun ty => Plain ty ∨ ∃ leaf length valid, Plain leaf ∧ ty = .tSeqExact leaf length valid)
      (resolveSignatureSequenceChild src child rectab enumtab nominals generics) := by
  unfold resolveSignatureSequenceChild
  refine .ite ?_ ⟨fun h => .inl ((resolveSignatureElement_plain child).holds h)⟩
  unfold resolveSignatureShallowSequence
  refine .ite .poison ?_
  dsimp only
  split
  · next hfailed => exact ⟨fun h => absurd h (by simpa using hfailed)⟩
  · next hok =>
      refine ⟨fun h => ?_⟩
      have helement := (resolveSignatureElement_plain _).holds (by simpa using hok)
      obtain ⟨length, valid, hty⟩ := (finishSignatureSequence_exact _ _ _).holds h
      exact .inr ⟨_, length, valid, helement, hty⟩

/-- **The types of signatures** have two levels of sequences at most. -/
theorem resolveSignatureType_level (kind start stop : Nat) :
    Resolves Level (resolveSignatureType src kind start stop rectab enumtab nominals generics) := by
  unfold resolveSignatureType
  refine .ite ⟨fun h => .plain ((resolveSignatureElement_plain _).holds h)⟩ ?_
  split
  · unfold resolveSignatureSequence
    refine .ite .poison ?_
    dsimp only
    split
    · next hfailed => exact ⟨fun h => absurd h (by simpa using hfailed)⟩
    · next hok =>
        refine ⟨fun h => ?_⟩
        obtain ⟨length, valid, hty⟩ := (finishSignatureSequence_exact _ _ _).holds h
        rw [hty]
        rcases (resolveSignatureSequenceChild_level _).holds (by simpa using hok) with
          hplain | ⟨leaf, count, exact, hleaf, hseq⟩
        · exact .one hplain length valid
        · rw [hseq]
          exact .two hleaf count exact length valid
  · next hkind => exact ⟨fun h => .plain ((resolveType_plain start stop (by simpa using hkind)).holds h)⟩

/-- A type that a signature keeps is poison or has two levels of sequences at most. -/
def Kept (ty : SemType) : Prop := ty = .tPoison ∨ Level ty

theorem paramBoundType_kept {ty : TyRes} (h : Resolves Level ty) : Kept (paramBoundType ty) := by
  unfold paramBoundType
  split
  · next hok => exact .inr (h.holds hok)
  · exact .inl rfl

/-- `n` passes over parameters. -/
theorem iterate_checkParamsStep (n : Nat) (st : ParamState) (hkept : ∀ bound ∈ st.binds, Kept bound.ty) :
    (∀ bound ∈ ((fun d => checkParamsStep src d rectab enumtab nominals generics)^[n] st).binds, Kept bound.ty) ∧
      ((fun d => checkParamsStep src d rectab enumtab nominals generics)^[n] st).binds.length ≤ st.binds.length + n := by
  induction n generalizing st with
  | zero => exact ⟨hkept, Nat.le_refl _⟩
  | succ n ih =>
      have hstep : (∀ bound ∈ (checkParamsStep src st rectab enumtab nominals generics).binds, Kept bound.ty) ∧
          (checkParamsStep src st rectab enumtab nominals generics).binds.length ≤ st.binds.length + 1 := by
        unfold checkParamsStep
        split
        · exact ⟨hkept, Nat.le_succ _⟩
        · unfold checkOneParam
          dsimp only
          split
          · exact ⟨hkept, Nat.le_succ _⟩
          · refine ⟨?_, Nat.le_refl _⟩
            intro bound hmem
            rcases List.mem_cons.mp hmem with rfl | hmem
            · exact paramBoundType_kept (resolveSignatureType_level _ _ _)
            · exact hkept bound hmem
      obtain ⟨hall, hlength⟩ := ih _ hstep.1
      rw [Function.iterate_succ_apply]
      exact ⟨hall, by omega⟩

/-- `n` passes over results. -/
theorem iterate_checkResultsStep (n : Nat) (st : ResultState) (hkept : Kept st.ty) :
    Kept ((fun d => checkResultsStep src d rectab enumtab nominals generics)^[n] st).ty := by
  induction n generalizing st with
  | zero => exact hkept
  | succ n ih =>
      rw [Function.iterate_succ_apply]
      refine ih _ ?_
      unfold checkResultsStep
      split
      · exact hkept
      · unfold checkOneResult resultKeptType
        dsimp only
        split
        · exact paramBoundType_kept (resolveSignatureType_level _ _ _)
        · exact hkept

theorem checkParams_kept (params : List Field) :
    (∀ bound ∈ (checkParams src params rectab enumtab nominals generics).binds, Kept bound.ty) ∧
      (checkParams src params rectab enumtab nominals generics).binds.length ≤ 1024 := by
  obtain ⟨hparams, hlength⟩ := @iterate_checkParamsStep src rectab enumtab nominals generics 1024
    { rest := params, binds := [], seen := [], n := 0, obls := [] } fun _ hmem => absurd hmem List.not_mem_nil
  rw [List.length_nil, Nat.zero_add] at hlength
  simp only [checkParams]
  exact ⟨hparams, hlength⟩

theorem checkResults_kept (results : List Field) (fnStart fnStop : Nat) :
    Kept (checkResults src results fnStart fnStop rectab enumtab nominals generics).ty := by
  have hresult := @iterate_checkResultsStep src rectab enumtab nominals generics 1024
    { rest := results, n := 0, ty := .tPoison, obls := [] } (.inl rfl)
  simp only [checkResults, finishResults]
  split
  · dsimp only
    exact hresult
  · exact .inl rfl

/-- The types of a signature, and how many parameters it has. -/
theorem checkSig_kept (fn : FnDecl) :
    (∀ bound ∈ (checkSig src fn rectab enumtab nominals).sig.params, Kept bound.ty) ∧
      Kept (checkSig src fn rectab enumtab nominals).sig.result ∧
        (checkSig src fn rectab enumtab nominals).sig.params.length ≤ 1024 := by
  obtain ⟨hparams, hlength⟩ := @checkParams_kept src rectab enumtab nominals fn.sig.generics fn.sig.params
  simp only [checkSig]
  exact ⟨hparams, checkResults_kept _ _ _, hlength⟩

/-- **The signatures of a table.** -/
theorem collectSigtab_kept {fns : List FnDecl} {sig : Sig} (h : sig ∈ (collectSigtab src fns rectab enumtab nominals).tab) :
    (∀ bound ∈ sig.params, Kept bound.ty) ∧ Kept sig.result ∧ sig.params.length ≤ 1024 := by
  rw [collectSigtab_tab, List.mem_reverse, List.mem_map] at h
  obtain ⟨fn, -, rfl⟩ := h
  exact checkSig_kept fn

end Resolution

end MncsCompiler.Decl
