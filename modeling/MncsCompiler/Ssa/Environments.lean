import MncsCompiler.Ssa.Instructions

/-!
# `Ssa.Environments` — what is in scope while a block is lowered

The environment half of the lowering in `ssa.mncs`: bindings of source names to values, newest first, and how they
cross an edge. A block with predecessors gets a fresh parameter for each binding; the blocks of a match get one for
each pending operand as well. An edge that leaves by the names of its target finds each of them by its spelling.
-/

namespace MncsCompiler.Ssa

open BoundedLoop Decl

/-- An edge with the bindings that its target finds in scope. -/
structure Edge where
  source : Nat
  target : Nat
  bindings : List Binding
  arguments : List Id
  deriving DecidableEq, Repr

def reverseEnvironment (env : List Binding) : List Binding := reverseWithin 1024 env

def reverseIdList (ids : List Id) : List Id := reverseWithin 1024 ids

def appendIds (left right : List Id) : List Id := prependWithin 1024 (reverseIdList left) right

def bindingIds (bindings : List Binding) : List Id := collectWithin 1024 (fun b => { value := b.value }) bindings

def valueStackIds (stack : List Value) : List Id :=
  reverseIdList (collectWithin 1024 (fun v => { value := v.id }) stack)

/-! ## Block parameters -/

structure Incoming where
  found : Bool
  ok : Bool
  count : Nat
  bindings : List Binding

structure BlockParamBuild where
  rest : List Binding
  env : List Binding
  params : List Value
  values : List Value
  nextValue : Nat
  parameterIndex : Nat
  block : Nat
  nominals : List NominalTypeIdentity
  ok : Bool

def addBlockParameter (src : Source) (st : BlockParamBuild) (binding : Binding) (rest : List Binding)
    : BlockParamBuild :=
  let value : Value :=
    { id := st.nextValue, ty := binding.ty, ownerBlock := st.block, kind := 1, index := st.parameterIndex }
  let mapped : Binding :=
    { nameStart := binding.nameStart, nameStop := binding.nameStop, value := value.id, ty := binding.ty }
  { rest := rest, env := mapped :: st.env, params := value :: st.params, values := value :: st.values
    nextValue := st.nextValue + 1, parameterIndex := st.parameterIndex + 1, block := st.block
    nominals := st.nominals, ok := st.ok && supportedValueType src binding.ty st.nominals }

def blockParameterStep (src : Source) (st : BlockParamBuild) : BlockParamBuild :=
  match st.rest with
  | [] => st
  | binding :: rest => addBlockParameter src st binding rest

def prepareBlockEnvironment (src : Source) (block : Nat) (incoming : Incoming) (nextValue : Nat) (values : List Value)
    (nominals : List NominalTypeIdentity) : BlockParamBuild :=
  if !incoming.found || !incoming.ok then
    { rest := [], env := [], params := [], values := values, nextValue := nextValue, parameterIndex := 0
      block := block, nominals := nominals, ok := block = 0 }
  else
    let built := (blockParameterStep src)^[1024]
      { rest := incoming.bindings, env := [], params := [], values := values, nextValue := nextValue
        parameterIndex := 0, block := block, nominals := nominals, ok := true }
    { built with env := reverseEnvironment built.env }

/-! ## Bindings over the incoming edges -/

structure BindingPairCheck where
  left : List Binding
  right : List Binding
  ok : Bool

def bindingPairRight (src : Source) (st : BindingPairCheck) (a : Binding) (ar : List Binding) : BindingPairCheck :=
  match st.right with
  | [] => { left := ar, right := [], ok := false }
  | b :: br =>
      { left := ar, right := br
        ok := a.nameStart = b.nameStart && a.nameStop = b.nameStop && semEq src a.ty b.ty }

def bindingPairStep (src : Source) (st : BindingPairCheck) : BindingPairCheck :=
  if !st.ok then st
  else
    match st.left with
    | [] => { st with ok := st.right.isEmpty }
    | a :: ar => bindingPairRight src st a ar

def sameBindingShape (src : Source) (left right : List Binding) : Bool :=
  let st := (bindingPairStep src)^[1024] { left := left, right := right, ok := true }
  st.ok && st.left.isEmpty && st.right.isEmpty

structure IncomingScan where
  rest : List Edge
  target : Nat
  found : Bool
  ok : Bool
  count : Nat
  bindings : List Binding

def incomingCons (src : Source) (st : IncomingScan) (edge : Edge) (rest : List Edge) : IncomingScan :=
  if edge.target ≠ st.target then { st with rest := rest }
  else if !st.found then
    { rest := rest, target := st.target, found := true, ok := st.ok, count := 1, bindings := edge.bindings }
  else
    { rest := rest, target := st.target, found := true
      ok := st.ok && sameBindingShape src edge.bindings st.bindings, count := st.count + 1, bindings := st.bindings }

def incomingStep (src : Source) (st : IncomingScan) : IncomingScan :=
  match st.rest with
  | [] => st
  | edge :: rest => incomingCons src st edge rest

def incomingFor (src : Source) (target : Nat) (edges : List Edge) : Incoming :=
  let st := (incomingStep src)^[1024]
    { rest := edges, target := target, found := false, ok := true, count := 0, bindings := [] }
  { found := st.found, ok := st.ok, count := st.count, bindings := st.bindings }

structure EdgeBindingLookup where
  rest : List Edge
  target : Nat
  found : Bool
  bindings : List Binding

def findTargetBindingShapeStep (st : EdgeBindingLookup) : EdgeBindingLookup :=
  if st.found then st
  else
    match st.rest with
    | [] => st
    | edge :: rest =>
        { rest := rest, target := st.target, found := edge.target = st.target
          bindings := if edge.target = st.target then edge.bindings else st.bindings }

def findTargetBindingShape (edges : List Edge) (target : Nat) : EdgeBindingLookup :=
  findTargetBindingShapeStep^[1024] { rest := edges, target := target, found := false, bindings := [] }

/-! ## Rebinding and projection -/

structure RebindScan where
  rest : List Binding
  replacement : Binding
  acc : List Binding
  found : Bool

def rebindNameTail (st : RebindScan) : RebindScan :=
  match st.rest with
  | [] => st
  | old :: rest => { rest := rest, replacement := st.replacement, acc := old :: st.acc, found := true }

def rebindNameCons (src : Source) (st : RebindScan) (old : Binding) (rest : List Binding) : RebindScan :=
  let same := spansEqual src old.nameStart old.nameStop st.replacement.nameStart st.replacement.nameStop
  let chosen := if same then st.replacement else old
  { rest := rest, replacement := st.replacement, acc := chosen :: st.acc, found := same }

def rebindNameStep (src : Source) (st : RebindScan) : RebindScan :=
  if st.found then rebindNameTail st
  else
    match st.rest with
    | [] => st
    | old :: rest => rebindNameCons src st old rest

/-- The first binding with the name of the replacement gives way to it; a name that is not there is added. -/
def rebindName (src : Source) (env : List Binding) (replacement : Binding) : List Binding :=
  let st := (rebindNameStep src)^[1024] { rest := env, replacement := replacement, acc := [], found := false }
  let rebuilt := reverseEnvironment st.acc
  if st.found then rebuilt else replacement :: env

structure EnvironmentProjection where
  bindings : List Binding
  ok : Bool

structure EnvironmentProjectScan where
  rest : List Binding
  source : List Binding
  acc : List Binding
  ok : Bool

def projectEnvironmentBinding (src : Source) (st : EnvironmentProjectScan) (wanted : Binding) (rest : List Binding)
    : EnvironmentProjectScan :=
  let found := lookupBinding src st.source wanted.nameStart wanted.nameStop
  let same := found.found && semEq src found.binding.ty wanted.ty
  let mapped : Binding :=
    if same then
      { nameStart := wanted.nameStart, nameStop := wanted.nameStop, value := found.binding.value
        ty := found.binding.ty }
    else wanted
  { rest := rest, source := st.source, acc := mapped :: st.acc, ok := same }

def projectEnvironmentStep (src : Source) (st : EnvironmentProjectScan) : EnvironmentProjectScan :=
  if !st.ok then st
  else
    match st.rest with
    | [] => st
    | wanted :: rest => projectEnvironmentBinding src st wanted rest

def projectEnvironment (src : Source) (source shape : List Binding) : EnvironmentProjection :=
  let st := (projectEnvironmentStep src)^[1024] { rest := shape, source := source, acc := [], ok := true }
  { bindings := reverseEnvironment st.acc, ok := st.ok && st.rest.isEmpty }

/-! ## Match contexts -/

structure MatchContextBuild where
  env : List Binding
  stack : List Value
  parameters : List Value
  values : List Value
  nextValue : Nat
  parameterIndex : Nat
  block : Nat
  nominals : List NominalTypeIdentity
  ok : Bool

structure StackParamBuild where
  rest : List Value
  parametersRev : List Value
  stackRev : List Value
  values : List Value
  nextValue : Nat
  index : Nat
  block : Nat
  nominals : List NominalTypeIdentity
  ok : Bool

def matchStackParameterOne (src : Source) (st : StackParamBuild) (old : Value) (rest : List Value) : StackParamBuild :=
  let value : Value := { id := st.nextValue, ty := old.ty, ownerBlock := st.block, kind := 1, index := st.index }
  { rest := rest, parametersRev := value :: st.parametersRev, stackRev := value :: st.stackRev
    values := value :: st.values, nextValue := st.nextValue + 1, index := st.index + 1, block := st.block
    nominals := st.nominals, ok := st.ok && supportedValueType src old.ty st.nominals }

def matchStackParameterStep (src : Source) (st : StackParamBuild) : StackParamBuild :=
  match st.rest with
  | [] => st
  | old :: rest => matchStackParameterOne src st old rest

/-- A parameter of the block for each binding in scope and each pending operand. -/
def matchContextParameters (src : Source) (env : List Binding) (stack : List Value) (block nextValue : Nat)
    (values : List Value) (nominals : List NominalTypeIdentity) : MatchContextBuild :=
  let incoming : Incoming := { found := true, ok := true, count := 1, bindings := env }
  let envParams := prepareBlockEnvironment src block incoming nextValue values nominals
  let initial : StackParamBuild :=
    { rest := stack, parametersRev := envParams.params, stackRev := [], values := envParams.values
      nextValue := envParams.nextValue, index := envParams.parameterIndex, block := block, nominals := nominals
      ok := envParams.ok }
  let built := (matchStackParameterStep src)^[1024] initial
  { env := envParams.env, stack := reverseWithin 1024 built.stackRev, parameters := built.parametersRev
    values := built.values, nextValue := built.nextValue, parameterIndex := built.index, block := block
    nominals := nominals, ok := built.ok }

/-- The arguments for a context, in the order of its parameters: the operands before the bindings, each reversed. -/
def matchContextIds (env : List Binding) (stack : List Value) : List Id :=
  appendIds (reverseIdList (valueStackIds stack)) (bindingIds env)

/-! ## Lookups by name -/

def Binding.Spells (src : Source) (start stop : Nat) (b : Binding) : Bool :=
  spansEqual src b.nameStart b.nameStop start stop

theorem bindingScanStep_found {src : Source} {st : BindingScan} (h : st.found = true) : bindingScanStep src st = st := by
  rw [bindingScanStep, if_pos h]

theorem bindingScanStep_nil {src : Source} {st : BindingScan} (h : st.rest = []) : bindingScanStep src st = st := by
  rw [bindingScanStep, h]
  split <;> rfl

theorem iterate_bindingScanStep (src : Source) (start stop n : Nat) (env : List Binding) (d : Binding) :
    let st := (bindingScanStep src)^[n] { rest := env, start := start, stop := stop, found := false, binding := d }
    st.found = ((env.take n).find? (Binding.Spells src start stop)).isSome ∧
      st.binding = ((env.take n).find? (Binding.Spells src start stop)).getD d := by
  induction n generalizing env with
  | zero => exact ⟨rfl, rfl⟩
  | succ n ih =>
      rw [Function.iterate_succ_apply]
      cases env with
      | nil =>
          rw [bindingScanStep_nil rfl, List.take_nil]
          simpa only [List.take_nil] using ih []
      | cons h t =>
          rw [List.take_succ_cons, List.find?_cons]
          cases hspells : Binding.Spells src start stop h with
          | true =>
              have hstep :
                  bindingScanStep src
                      { rest := h :: t, start := start, stop := stop, found := false, binding := d } =
                    { rest := [], start := start, stop := stop, found := true, binding := h } :=
                if_pos hspells
              rw [hstep, Function.iterate_fixed (bindingScanStep_found rfl)]
              exact ⟨rfl, rfl⟩
          | false =>
              have hstep :
                  bindingScanStep src
                      { rest := h :: t, start := start, stop := stop, found := false, binding := d } =
                    { rest := t, start := start, stop := stop, found := false, binding := d } :=
                if_neg (Bool.eq_false_iff.mp hspells)
              rw [hstep]
              exact ih t

/-- A name stands for the first binding in reach that spells it. -/
theorem lookupBinding_of_found {src : Source} {env : List Binding} {start stop : Nat}
    (h : (lookupBinding src env start stop).found = true) :
    (env.take 1024).find? (Binding.Spells src start stop) = some (lookupBinding src env start stop).binding := by
  unfold lookupBinding at h ⊢
  dsimp only at h ⊢
  obtain ⟨hfound, hbinding⟩ := iterate_bindingScanStep src start stop 1024 env
    { nameStart := 0, nameStop := 0, value := 0, ty := .tPoison }
  rw [hfound] at h
  rw [hbinding]
  obtain ⟨b, hb⟩ := Option.isSome_iff_exists.mp h
  rw [hb]
  rfl

theorem lookupBinding_mem {src : Source} {env : List Binding} {start stop : Nat}
    (h : (lookupBinding src env start stop).found = true) : (lookupBinding src env start stop).binding ∈ env :=
  List.mem_of_mem_take (List.mem_of_find?_eq_some (lookupBinding_of_found h))

end MncsCompiler.Ssa
