import MncsCompiler.Lib.Halting
import MncsCompiler.Ssa.Lower

/-!
# `Ssa.Evaluation` — the loops of the lowering, run to their ends

A loop of the lowering has 1024 passes, most of which come after the end of its list and change nothing. With an
instance of `Halts` for each step, `simp only [↓iterate_eq_run]` leaves these out, so that a lowering can be evaluated.
-/

namespace MncsCompiler.Ssa

open BoundedLoop Decl Flow Halting

variable (src : Source)

/-! ## Values and names -/

/-- The bytes of a span that an identity is made of. -/
theorem run_callableIdentitySpanStep (st : SemanticIdentityBuild) (start stop : Nat) :
    carry (fun i d => callableIdentitySpanStep src d (start + i) start stop) 0 1024 st =
      carry (fun i d => callableIdentitySpanStep src d (start + i) start stop) 0 (min (stop - start) 1024) st := by
  rcases Nat.le_total 1024 (stop - start) with hlong | hshort
  · rw [Nat.min_eq_right hlong]
  · rw [Nat.min_eq_left hshort]
    apply carry_of_stays hshort
    intro i d hi
    rw [callableIdentitySpanStep, if_pos]
    simp
    omega

instance valueScanStep_halts : Halts valueScanStep fun st => st.found || st.rest.isEmpty := by
  apply Halts.of_done
  · intro st hfound
    rw [valueScanStep, if_pos hfound]
  · intro st hrest
    rw [valueScanStep, hrest]
    exact ite_self st

instance blockScanStep_halts : Halts blockScanStep fun st => st.found || st.rest.isEmpty := by
  apply Halts.of_done
  · intro st hfound
    rw [blockScanStep, if_pos hfound]
  · intro st hrest
    rw [blockScanStep, hrest]
    exact ite_self st

instance bindingScanStep_halts : Halts (bindingScanStep src) fun st => st.rest.isEmpty :=
  .of_rest fun _ => bindingScanStep_nil

instance rebindNameStep_halts : Halts (rebindNameStep src) fun st => st.rest.isEmpty :=
  .of_rest fun st hrest => by
    rw [rebindNameStep, rebindNameTail, hrest]
    exact ite_self st

/-! ## Environments -/

instance incomingStep_halts : Halts (incomingStep src) fun st => st.rest.isEmpty :=
  .of_rest fun st hrest => by rw [incomingStep, hrest]

instance blockParameterStep_halts : Halts (blockParameterStep src) fun st => st.rest.isEmpty :=
  .of_rest fun st hrest => by rw [blockParameterStep, hrest]

instance matchStackParameterStep_halts : Halts (matchStackParameterStep src) fun st => st.rest.isEmpty :=
  .of_rest fun st hrest => by rw [matchStackParameterStep, hrest]

instance filterLoopBindingStep_halts : Halts (filterLoopBindingStep src) fun st => st.rest.isEmpty :=
  .of_rest fun st hrest => by rw [filterLoopBindingStep, hrest]

instance projectEnvironmentStep_halts : Halts (projectEnvironmentStep src) fun st => !st.ok || st.rest.isEmpty := by
  apply Halts.of_done
  · intro st hok
    rw [projectEnvironmentStep, if_pos hok]
  · intro st hrest
    rw [projectEnvironmentStep, hrest]
    exact ite_self st

instance findTargetBindingShapeStep_halts : Halts findTargetBindingShapeStep fun st => st.found || st.rest.isEmpty := by
  apply Halts.of_done
  · intro st hfound
    rw [findTargetBindingShapeStep, if_pos hfound]
  · intro st hrest
    rw [findTargetBindingShapeStep, hrest]
    exact ite_self st

/-! ## Operands and arguments -/

instance availableStep_halts : Halts availableStep fun st => !st.ok || st.rest.isEmpty := by
  apply Halts.of_done
  · intro st hok
    rw [availableStep, if_pos hok]
  · intro st hrest
    rw [availableStep, hrest]
    exact ite_self st

instance argumentTypeStep_halts :
    Halts (argumentTypeStep src) fun st => !st.ok || st.args.isEmpty && st.params.isEmpty := by
  constructor
  intro st hst
  obtain ⟨args, params, values, ok⟩ := st
  cases ok with
  | false => rfl
  | true =>
      simp only [Bool.not_true, Bool.false_or, Bool.and_eq_true, List.isEmpty_iff] at hst
      obtain ⟨rfl, rfl⟩ := hst
      rfl

/-! ## Matches -/

instance nominalIdentityAtStep_halts (start stop : Nat) :
    Halts (fun st => nominalIdentityAtStep st start stop) fun st => st.rest.isEmpty :=
  .of_rest fun st hrest => by
    rw [nominalIdentityAtStep, hrest]
    exact ite_self st

instance nominalIdentityByNameStep_halts (start stop : Nat) :
    Halts (fun st => nominalIdentityByNameStep src st start stop) fun st => st.rest.isEmpty :=
  .of_rest fun st hrest => by
    rw [nominalIdentityByNameStep, hrest]
    exact ite_self st

instance findMatchPayloadFieldStep_halts :
    Halts (findMatchPayloadFieldStep src) fun st => st.found || st.rest.isEmpty := by
  apply Halts.of_done
  · intro st hfound
    rw [findMatchPayloadFieldStep, if_pos hfound]
  · intro st hrest
    rw [findMatchPayloadFieldStep, hrest]
    exact ite_self st

instance lowerMatchPayloadStep_halts : Halts (lowerMatchPayloadStep src) fun st => !st.ok || st.rest.isEmpty := by
  apply Halts.of_done
  · intro st hok
    rw [lowerMatchPayloadStep, if_pos hok]
  · intro st hrest
    rw [lowerMatchPayloadStep, hrest]
    exact ite_self st

instance nestDriverStep_halts : Halts (nestDriverStep src) fun st => !st.build.ok || st.done := by
  constructor
  intro st hst
  rw [nestDriverStep, if_pos hst]

instance armStep_halts {f : Form} : Halts (armStep src : ArmBuild f → ArmBuild f) fun st => st.rest.isEmpty :=
  .of_rest fun st hrest => by rw [armStep, hrest]

/-! ## Expressions and blocks -/

instance lowerOperationStep_halts : Halts (lowerOperationStep src) fun st => st.rest.isEmpty :=
  .of_rest fun st hrest => by rw [lowerOperationStep, hrest]

instance lowerExpressionStep_halts : Halts (lowerExpressionStep src) fun st => st.rest.isEmpty :=
  .of_rest fun st hrest => by rw [lowerExpressionStep, hrest]

instance lowerBlockStep_halts : Halts (lowerBlockStep src) fun st => st.rest.isEmpty :=
  .of_rest fun st hrest => by rw [lowerBlockStep, hrest]

end MncsCompiler.Ssa
