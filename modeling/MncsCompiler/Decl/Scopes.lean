import MncsCompiler.Decl.Typed

/-!
# `Decl.Scopes` — what the checker carries

The tables and lists that the checker of `decl.mncs` works with: generic parameters, obligations, the stack of lexical
scopes and the types that signatures denote.
-/

namespace MncsCompiler.Decl

open BoundedLoop

/-! ## Generic parameters -/

def genericBoundKind (src : Source) (param : GenericParam) : Nat :=
  if !param.hasBound then 1
  else if param.boundStop - param.boundStart = 3 &&
         (src.byteAt param.boundStart = 78 && src.byteAt (param.boundStart + 1) = 97 &&
             src.byteAt (param.boundStart + 2) = 116) then
    0
  else if param.boundStop - param.boundStart = 4 &&
         (src.byteAt param.boundStart = 84 && src.byteAt (param.boundStart + 1) = 121 &&
             src.byteAt (param.boundStart + 2) = 112 && src.byteAt (param.boundStart + 3) = 101) then
    1
  else 2

structure GenericIndexScan where
  rest : List GenericParam
  start : Nat
  stop : Nat
  wantedKind : Nat
  index : Nat
  found : Nat

def genericParamIndexCons (src : Source) (st : GenericIndexScan) (h : GenericParam) (t : List GenericParam)
    : GenericIndexScan :=
  let nextIndex : Nat := st.index + 1
  if genericBoundKind src h = st.wantedKind && spansEqual src h.nameStart h.nameStop st.start st.stop then
    { st with rest := [], index := nextIndex, found := nextIndex }
  else { st with rest := t, index := nextIndex, found := 0 }

def genericParamIndexStep (src : Source) (st : GenericIndexScan) : GenericIndexScan :=
  if st.found > 0 then { st with rest := [] }
  else
    match st.rest with
    | [] => st
    | h :: t => genericParamIndexCons src st h t

def genericParamIndex (src : Source) (list : List GenericParam) (start stop wantedKind : Nat) : Nat :=
  let st := (genericParamIndexStep src)^[1024]
    { rest := list, start := start, stop := stop, wantedKind := wantedKind, index := 0, found := 0 }
  st.found

structure BoundBuild where
  rest : List GenericParam
  acc : List Nat

def buildGenericBoundsStep (src : Source) (st : BoundBuild) : BoundBuild :=
  match st.rest with
  | [] => st
  | h :: t => { rest := t, acc := genericBoundKind src h :: st.acc }

def reverseBounds (list : List Nat) : List Nat := reverseWithin 1024 list

def buildGenericBounds (src : Source) (list : List GenericParam) : List Nat :=
  let d := (buildGenericBoundsStep src)^[1024] { rest := list, acc := [] }
  reverseBounds d.acc

structure BoundCount where
  rest : List Nat
  n : Nat

def countBoundsStep (st : BoundCount) : BoundCount :=
  match st.rest with
  | [] => st
  | _ :: t => { rest := t, n := st.n + 1 }

def countBounds (list : List Nat) : Nat :=
  let d := countBoundsStep^[1024] { rest := list, n := 0 }
  d.n

structure TargCount where
  rest : List TypeArg
  n : Nat

def countTargsStep (st : TargCount) : TargCount :=
  match st.rest with
  | [] => st
  | _ :: t => { rest := t, n := st.n + 1 }

def countTargs (list : List TypeArg) : Nat :=
  let d := countTargsStep^[1024] { rest := list, n := 0 }
  d.n

structure GenericScan where
  rest : List GenericParam
  start : Nat
  stop : Nat
  found : Bool
  kind : Nat

def genericParamLookupCons (src : Source) (st : GenericScan) (h : GenericParam) (t : List GenericParam)
    : GenericScan :=
  if spansEqual src h.nameStart h.nameStop st.start st.stop then
    { st with rest := [], found := true, kind := genericBoundKind src h }
  else { st with rest := t, found := false, kind := 0 }

def genericParamLookupStep (src : Source) (st : GenericScan) : GenericScan :=
  if st.found then { st with rest := [], found := true }
  else
    match st.rest with
    | [] => st
    | h :: t => genericParamLookupCons src st h t

structure GenericLookup where
  found : Bool
  kind : Nat

def genericParamLookup (src : Source) (list : List GenericParam) (start stop : Nat) : GenericLookup :=
  let d := (genericParamLookupStep src)^[1024]
    { rest := list, start := start, stop := stop, found := false, kind := 0 }
  { found := d.found, kind := d.kind }

/-! ## Names of functions -/

structure FnNameAcc where
  rest : List FnDecl
  acc : List NameSpan

def collectFnNamesCons (st : FnNameAcc) (h : FnDecl) (t : List FnDecl) : FnNameAcc :=
  let sg := h.sig
  { rest := t, acc := { start := sg.nameStart, stop := sg.nameStop } :: st.acc }

def collectFnNamesStep (st : FnNameAcc) : FnNameAcc :=
  match st.rest with
  | [] => st
  | h :: t => collectFnNamesCons st h t

def reverseNames (list : List NameSpan) : List NameSpan := reverseWithin 1024 list

def collectFnNames (fns : List FnDecl) : List NameSpan :=
  let d := collectFnNamesStep^[1024] { rest := fns, acc := [] }
  reverseNames d.acc

structure DupState where
  rest : List NameSpan
  seen : List NameSpan
  found : Bool
  start : Nat
  stop : Nat

def duplicateFnNamesCons (src : Source) (st : DupState) (h : NameSpan) (t : List NameSpan) : DupState :=
  if st.found then { st with rest := t, found := true }
  else if nameKnown src st.seen h.start h.stop then
    { rest := t, seen := st.seen, found := true, start := h.start, stop := h.stop }
  else { rest := t, seen := h :: st.seen, found := false, start := 0, stop := 0 }

def duplicateFnNamesStep (src : Source) (st : DupState) : DupState :=
  match st.rest with
  | [] => st
  | h :: t => duplicateFnNamesCons src st h t

structure DupReport where
  found : Bool
  start : Nat
  stop : Nat

def duplicateFnNames (src : Source) (names : List NameSpan) : DupReport :=
  let d := (duplicateFnNamesStep src)^[1024] { rest := names, seen := [], found := false, start := 0, stop := 0 }
  { found := d.found, start := d.start, stop := d.stop }

/-! ## Obligations -/

structure Obligation where
  kind : Nat
  start : Nat
  stop : Nat
  status : Nat

def reverseObls (list : List Obligation) : List Obligation := reverseWithin 1024 list

structure OblPrepend where
  rest : List Obligation
  acc : List Obligation

def appendOblsStep (st : OblPrepend) : OblPrepend :=
  match st.rest with
  | [] => st
  | h :: t => { rest := t, acc := h :: st.acc }

def appendObls (first second : List Obligation) : List Obligation :=
  let rev := reverseObls first
  let d := appendOblsStep^[1024] { rest := rev, acc := second }
  d.acc

/-! ## Scopes -/

structure Scope where
  binds : List Bind

structure ScopeLookup where
  rest : List Bind
  start : Nat
  stop : Nat
  found : Bool
  ty : SemType

def scopeLookupCons (src : Source) (st : ScopeLookup) (h : Bind) (t : List Bind) : ScopeLookup :=
  if spansEqual src h.start h.stop st.start st.stop then { st with rest := [], found := true, ty := h.ty }
  else { st with rest := t, found := false, ty := .tPoison }

def scopeLookupStep (src : Source) (st : ScopeLookup) : ScopeLookup :=
  if st.found then st
  else
    match st.rest with
    | [] => st
    | h :: t => scopeLookupCons src st h t

structure LookupRes where
  found : Bool
  ty : SemType

def scopeLookup (src : Source) (binds : List Bind) (start stop : Nat) : LookupRes :=
  let d := (scopeLookupStep src)^[1024]
    { rest := binds, start := start, stop := stop, found := false, ty := .tPoison }
  { found := d.found, ty := d.ty }

structure EnvLookup where
  rest : List Scope
  start : Nat
  stop : Nat
  found : Bool
  ty : SemType

def envLookupCons (src : Source) (st : EnvLookup) (h : Scope) (t : List Scope) : EnvLookup :=
  let got := scopeLookup src h.binds st.start st.stop
  if got.found then { st with rest := [], found := true, ty := got.ty }
  else { st with rest := t, found := false, ty := .tPoison }

def envLookupStep (src : Source) (st : EnvLookup) : EnvLookup :=
  if st.found then st
  else
    match st.rest with
    | [] => st
    | h :: t => envLookupCons src st h t

def envLookup (src : Source) (st : List Scope) (start stop : Nat) : LookupRes :=
  let d := (envLookupStep src)^[1024] { rest := st, start := start, stop := stop, found := false, ty := .tPoison }
  { found := d.found, ty := d.ty }

structure BindRes where
  dup : Bool
  stack : List Scope

def envBindScope (src : Source) (h : Scope) (t : List Scope) (start stop : Nat) (ty : SemType) : BindRes :=
  let got := scopeLookup src h.binds start stop
  if got.found then { dup := true, stack := h :: t }
  else { dup := false, stack := { binds := { start := start, stop := stop, ty := ty } :: h.binds } :: t }

def envBindCurrent (src : Source) (st : List Scope) (start stop : Nat) (ty : SemType) : BindRes :=
  match st with
  | [] => { dup := false, stack := { binds := { start := start, stop := stop, ty := ty } :: [] } :: [] }
  | h :: t => envBindScope src h t start stop ty

def pushScope (st : List Scope) : List Scope := { binds := [] } :: st

/-! ## Types of signatures -/

def viewBoundIsConcrete (length : Nat) : Bool := length < 18446744073709550591

def semEqElement (src : Source) (a b : SemType) : Bool := semEq src a b

def seqBorrowExpected (src : Source) (expected element : SemType) (length : Nat) (valid : Bool) : Bool :=
  if !valid then false
  else
    match expected with
    | .tSeqExact otherElement otherLength otherValid =>
        !otherValid && viewBoundIsConcrete otherLength && length ≤ otherLength &&
          semEqElement src element otherElement
    | _ => false

def seqBorrowOk (src : Source) (actual expected : SemType) : Bool :=
  match actual with
  | .tSeqExact element length valid => seqBorrowExpected src expected element length valid
  | _ => false

def resolveSignatureElement (src : Source) (element : TypeRef) (rectab : List RecordDecl) (enumtab : List EnumDecl)
    (nominals : List NominalTypeIdentity) (generics : List GenericParam) : TyRes :=
  if element.kind = 5 && genericParamIndex src generics element.start element.stop 1 > 0 then
    { ty :=
        .tNamed (18446744073709551615 - genericParamIndex src generics element.start element.stop 1)
          18446744073709551615
      ok := true }
  else resolveSequenceElement src element rectab enumtab nominals

def sequenceBoundOperand (src : Source) (kind start stop : Nat) : NameParse :=
  if kind ≠ 8 then { cursor := stop, ok := true, errStart := 0, errStop := 0, start := start, stop := stop }
  else
    let pre := src.token start
    if pre.kind ≠ 32 then { cursor := stop, ok := true, errStart := 0, errStop := 0, start := start, stop := stop }
    else
      let operand := src.token pre.stop
      { cursor := stop, ok := operand.kind = 5, errStart := operand.start, errStop := operand.stop
        start := operand.start
        stop := operand.stop }

def signatureViewBound (src : Source) (element : SemType) (start stop index : Nat) : TyRes :=
  if index > 0 then { ty := .tSeqExact element (18446744073709551615 - index) false, ok := true }
  else resolveViewBound src element start stop

def finishSignatureSequence (src : Source) (kind elemCursor : Nat) (element : SemType) (generics : List GenericParam)
    : TyRes :=
  let semi := expect src elemCursor 63
  if !semi.ok then { ty := .tPoison, ok := false }
  else
    let bound := seqBound src semi.cursor
    if !bound.ok then { ty := .tPoison, ok := false }
    else
      let close := expect src bound.cursor 70
      if !close.ok then { ty := .tPoison, ok := false }
      else
        let operand := sequenceBoundOperand src kind bound.start bound.stop
        let index := genericParamIndex src generics operand.start operand.stop 0
        if kind = 8 then signatureViewBound src element bound.start bound.stop index
        else if index > 0 then { ty := .tSeqExact element (9223372036854775807 - index) false, ok := true }
        else
          let literalBound := spanDigits src bound.start bound.stop
          let length := src.intValue bound.start bound.stop
          { ty := .tSeqExact element length.value (literalBound && !length.overflow), ok := true }

def resolveSignatureShallowSequence (src : Source) (kind start _stop : Nat) (rectab : List RecordDecl)
    (enumtab : List EnumDecl) (nominals : List NominalTypeIdentity) (generics : List GenericParam) : TyRes :=
  let elem := parseType src (start + 1)
  if !elem.ok || elem.node.kind = 7 || elem.node.kind = 8 then { ty := .tPoison, ok := false }
  else
    let element := resolveSignatureElement src elem.node rectab enumtab nominals generics
    if !element.ok then element else finishSignatureSequence src kind elem.cursor element.ty generics

def resolveSignatureSequenceChild (src : Source) (child : TypeRef) (rectab : List RecordDecl)
    (enumtab : List EnumDecl) (nominals : List NominalTypeIdentity) (generics : List GenericParam) : TyRes :=
  if child.kind = 7 || child.kind = 8 then
    resolveSignatureShallowSequence src child.kind child.start child.stop rectab enumtab nominals generics
  else resolveSignatureElement src child rectab enumtab nominals generics

def resolveSignatureSequence (src : Source) (kind start _stop : Nat) (rectab : List RecordDecl)
    (enumtab : List EnumDecl) (nominals : List NominalTypeIdentity) (generics : List GenericParam) : TyRes :=
  let elem := parseType src (start + 1)
  if !elem.ok then { ty := .tPoison, ok := false }
  else
    let element := resolveSignatureSequenceChild src elem.node rectab enumtab nominals generics
    if !element.ok then element else finishSignatureSequence src kind elem.cursor element.ty generics

def resolveSignatureType (src : Source) (kind start stop : Nat) (rectab : List RecordDecl) (enumtab : List EnumDecl)
    (nominals : List NominalTypeIdentity) (generics : List GenericParam) : TyRes :=
  if kind = 5 then
    resolveSignatureElement src { kind := kind, start := start, stop := stop } rectab enumtab nominals generics
  else if kind = 7 || kind = 8 then resolveSignatureSequence src kind start stop rectab enumtab nominals generics
  else resolveType src kind start stop rectab enumtab nominals

end MncsCompiler.Decl
