import MncsCompiler.Decl.Prove
import MncsCompiler.Lib.Halting

/-!
# `Decl.Evaluation` — the loops of the prover, run to their ends

What the prover makes of a unit at hand is evaluated by `simp only [↓iterate_eq_run]`, which leaves out the passes of a
loop that come after its end. It needs an instance of `Halts` for each step on the way.
-/

namespace MncsCompiler.Decl

open BoundedLoop Halting

variable (src : Source)

/-! ## Names and scopes -/

instance collectFnNamesStep_halts : Halts collectFnNamesStep fun st => st.rest.isEmpty :=
  .of_rest fun st hrest => by rw [collectFnNamesStep, hrest]

instance duplicateFnNamesStep_halts : Halts (duplicateFnNamesStep src) fun st => st.rest.isEmpty :=
  .of_rest fun st hrest => by rw [duplicateFnNamesStep, hrest]

instance scopeLookupStep_halts : Halts (scopeLookupStep src) fun st => st.found || st.rest.isEmpty := by
  apply Halts.of_done
  · intro st hfound
    rw [scopeLookupStep, if_pos hfound]
  · intro st hrest
    rw [scopeLookupStep, hrest]
    exact ite_self st

instance envLookupStep_halts : Halts (envLookupStep src) fun st => st.found || st.rest.isEmpty := by
  apply Halts.of_done
  · intro st hfound
    rw [envLookupStep, if_pos hfound]
  · intro st hrest
    rw [envLookupStep, hrest]
    exact ite_self st

/-! ## Signatures -/

section Signatures

variable (rectab : List RecordDecl) (enumtab : List EnumDecl) (nominals : List NominalTypeIdentity)
  (generics : List GenericParam)

instance checkParamsStep_halts :
    Halts (fun d => checkParamsStep src d rectab enumtab nominals generics) fun st => st.rest.isEmpty :=
  .of_rest fun st hrest => by rw [checkParamsStep, hrest]

instance checkResultsStep_halts :
    Halts (fun d => checkResultsStep src d rectab enumtab nominals generics) fun st => st.rest.isEmpty :=
  .of_rest fun st hrest => by rw [checkResultsStep, hrest]

instance fieldOblsStep_halts :
    Halts (fun d => fieldOblsStep src d rectab enumtab nominals generics) fun st => st.rest.isEmpty :=
  .of_rest fun st hrest => by rw [fieldOblsStep, hrest]

end Signatures

instance checkCapsStep_halts : Halts (checkCapsStep src) fun st => st.rest.isEmpty :=
  .of_rest fun st hrest => by rw [checkCapsStep, hrest]

instance checkEffectsStep_halts (caps : List NameSpan) :
    Halts (fun d => checkEffectsStep src d caps) fun st => st.rest.isEmpty :=
  .of_rest fun st hrest => by rw [checkEffectsStep, hrest]

instance checkContractsStep_halts : Halts checkContractsStep fun st => st.rest.isEmpty :=
  .of_rest fun st hrest => by rw [checkContractsStep, hrest]

instance checkGenericBoundOblsStep_halts : Halts (checkGenericBoundOblsStep src) fun st => st.rest.isEmpty :=
  .of_rest fun st hrest => by rw [checkGenericBoundOblsStep, hrest]

instance canonicalEffectIdentityStep_halts : Halts (canonicalEffectIdentityStep src) fun st => st.rest.isEmpty :=
  .of_rest fun st hrest => by rw [canonicalEffectIdentityStep, hrest]

instance canonicalCapabilityIdentityStep_halts :
    Halts (canonicalCapabilityIdentityStep src) fun st => st.rest.isEmpty :=
  .of_rest fun st hrest => by rw [canonicalCapabilityIdentityStep, hrest]

instance mergeSigTablesStep_halts : Halts mergeSigTablesStep fun st => st.rest.isEmpty :=
  .of_rest fun st hrest => by rw [mergeSigTablesStep, hrest]

instance countResultsStep_halts : Halts countResultsStep fun st => st.rest.isEmpty :=
  .of_rest fun st hrest => by rw [countResultsStep, hrest]

/-! ## Typed expressions -/

instance typedScalarMatchCountStep_halts : Halts typedScalarMatchCountStep fun st => st.rest.isEmpty :=
  .of_rest fun st hrest => by rw [typedScalarMatchCountStep, hrest]

instance typedScalarArmValidStep_halts : Halts typedScalarArmValidStep fun st => !st.ok || st.rest.isEmpty := by
  apply Halts.of_done
  · intro st hok
    rw [typedScalarArmValidStep, if_pos hok]
  · intro st hrest
    rw [typedScalarArmValidStep, hrest]
    exact ite_self st

instance patternFindStep_halts : Halts patternFindStep fun st => st.found || st.rest.isEmpty := by
  apply Halts.of_done
  · intro st hfound
    rw [patternFindStep, if_pos hfound]
  · intro st hrest
    rw [patternFindStep, hrest]
    exact ite_self st

instance typedScalarMatchPatternStep_halts :
    Halts typedScalarMatchPatternStep fun st => (!st.ok || st.defaultSeen) || st.rest.isEmpty := by
  apply Halts.of_done
  · intro st hst
    rw [typedScalarMatchPatternStep, if_pos hst]
  · intro st hrest
    rw [typedScalarMatchPatternStep, hrest]
    exact ite_self st

instance queueTypedScalarMatchArmStep_halts : Halts queueTypedScalarMatchArmStep fun st => st.rest.isEmpty :=
  .of_rest fun st hrest => by rw [queueTypedScalarMatchArmStep, hrest]

instance verifyTopsMachineStep_halts : Halts (verifyTopsMachineStep src) fun st => !st.ok || st.done := by
  constructor
  intro st hst
  rw [verifyTopsMachineStep, if_pos hst]

/-! ## Obligations and bodies -/

instance oblFilterStep_halts : Halts oblFilterStep fun st => st.rest.isEmpty :=
  .of_rest fun st hrest => by rw [oblFilterStep, hrest]

instance oblKindStep_halts : Halts oblKindStep fun st => st.rest.isEmpty :=
  .of_rest fun st hrest => by rw [oblKindStep, hrest]

instance oblFailStep_halts : Halts oblFailStep fun st => st.found || st.rest.isEmpty := by
  apply Halts.of_done
  · intro st hfound
    rw [oblFailStep, if_pos hfound]
  · intro st hrest
    rw [oblFailStep, hrest]
    exact ite_self st

instance semStep_halts : Halts (semStep src) fun st => st.failed || st.jobs.isEmpty && st.konts.isEmpty := by
  constructor
  intro st hst
  rcases (Bool.or_eq_true _ _).mp hst with hfailed | hended
  · rw [semStep, if_pos hfailed]
  · rw [Bool.and_eq_true, List.isEmpty_iff, List.isEmpty_iff] at hended
    rw [semStep, hended.1]
    dsimp only
    rw [semKontEmpty, hended.2]
    exact ite_self st

instance proveStmtStep_halts :
    Halts (proveStmtStep src) fun st => st.ok && st.rest.isEmpty && st.frames.isEmpty := by
  constructor
  intro st hst
  simp only [Bool.and_eq_true, List.isEmpty_iff] at hst
  rw [proveStmtStep, hst.1.1, hst.1.2]
  simp [unwindOrDone, hst.2]

instance proveBodiesStep_halts : Halts (proveBodiesStep src) fun st => st.rest.isEmpty :=
  .of_rest fun st hrest => by rw [proveBodiesStep, hrest]

end MncsCompiler.Decl
