import MncsCompiler.Decl.Prove
import MncsCompiler.Flow.Lower

/-!
# `Flow.Units` — control-flow lowering of a proven unit

`lower_proven_unit` of `flow.mncs` lowers the functions of a unit in order and hands each the operation lists that the
functions before it have left. `ssa_function_at` is how the value SSA form reads the graph of one function.
-/

namespace MncsCompiler.Flow

open BoundedLoop Decl

variable {α : Type}

structure LoweredUnit where
  valid : Bool
  graphOk : Bool
  proof : UnitProve
  functions : List (FunctionFlow TOp)
  diagnostics : List Diagnostic
  blockCount : Nat

def lowerFnStep (src : Source) (st : FnWalk α) : FnWalk α :=
  match st.rest with
  | [] => st
  | h :: t => lowerOneFn src.pages src.stride src.total st h t

def lowerFunctions (src : Source) (fns : List FnDecl) (tops : List (List α)) (functionCount : Nat) : FnWalk α :=
  (iterate (fun _ (d : FnWalk α) =>
        if d.functionCount ≥ functionCount || d.rest.isEmpty then .ret d
        else .next (lowerFnStep src d))
      0 1024
      { rest := fns, typedRest := tops, acc := [], diagnostics := [], blockCount := 0, functionCount := 0
        ok := true }).after fun d =>
    d

def reverseFunctions (list : List (FunctionFlow α)) (functionCount : Nat) : List (FunctionFlow α) :=
  (iterate (fun i (d : Sweep (FunctionFlow α) (List (FunctionFlow α))) =>
        if i ≥ functionCount || d.rest.isEmpty then .ret d.acc
        else .next (Sweep.step (fun acc h => h :: acc) d))
      0 1024 { rest := list, acc := [] }).after fun d =>
    d.acc

def lowerProvenUnit (src : Source) (proof : UnitProve) : LoweredUnit :=
  if !proof.ok then
    { valid := false, graphOk := false, proof := proof, functions := [], diagnostics := [], blockCount := 0 }
  else
    let fns := lowerFunctions src proof.unit.fns proof.tops proof.fnCount
    let count := diagnosticCount fns.diagnostics
    { valid :=
        fns.ok && fns.functionCount = proof.fnCount && fns.rest.isEmpty && fns.typedRest.isEmpty && count = 0
      graphOk := fns.ok && fns.typedRest.isEmpty, proof := proof
      functions := reverseFunctions fns.acc fns.functionCount
      diagnostics := reverseDiagnostics fns.diagnostics, blockCount := fns.blockCount }

def firstDiagnostic (lowered : LoweredUnit) : Diagnostic :=
  match lowered.diagnostics with
  | [] => { code := 0, start := 0, stop := 0 }
  | diag :: _ => diag

structure SsaFunctionLookup where
  rest : List (FunctionFlow TOp)
  index : Nat
  wanted : Nat
  found : Bool
  function : FunctionFlow TOp

def ssaFunctionLookupStep (st : SsaFunctionLookup) : SsaFunctionLookup :=
  if st.found then st
  else
    match st.rest with
    | [] => st
    | h :: t => { rest := t, index := st.index + 1, wanted := st.wanted, found := st.index = st.wanted, function := h }

def ssaFunctionAt (lowered : LoweredUnit) (wanted : Nat) : FunctionFlow TOp :=
  let empty : FunctionFlow TOp :=
    { fnStart := 0, fnStop := 0, entry := 0, blocks := [], elidedExpressions := [], blockCount := 0
      unreachableJoins := 0, verified := false }
  (iterate (fun _ (st : SsaFunctionLookup) =>
        if st.found || st.rest.isEmpty || st.index ≥ lowered.proof.fnCount then .ret st.function
        else .next (ssaFunctionLookupStep st))
      0 1024
      { rest := lowered.functions, index := 0, wanted := wanted, found := false, function := empty }).after fun st =>
    st.function

end MncsCompiler.Flow
