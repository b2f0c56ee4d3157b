import MncsCompiler.Decl.Unit

/-!
# `Decl.Types` — identities, semantic types and declaration tables

What the checker of `decl.mncs` compares: canonical identities, semantic types, the type that a span denotes, the
declared and imported records and enums, and the rules of operators, casts and host operations.
-/

namespace MncsCompiler.Decl

open BoundedLoop

/-! ## Identities -/

/-- A canonical spelling of at most 512 bytes; what lies behind `len` is padding. -/
structure SemanticIdentity where
  bytes : Vector UInt8 512
  len : Nat
  valid : Bool
  deriving DecidableEq, Repr

structure SemanticIdentityBuild where
  bytes : Vector UInt8 512
  len : Nat
  valid : Bool

def identitySeed : SemanticIdentityBuild := { bytes := Vector.replicate 512 0, len := 0, valid := true }

def invalidSemanticIdentity : SemanticIdentity := { bytes := Vector.replicate 512 0, len := 0, valid := false }

def semanticIdentityEqualStep (a b : SemanticIdentity) (i : Nat) (same : Bool) : Bool :=
  if !same || i ≥ a.len then same else a.bytes.toArray.getD i 0 = b.bytes.toArray.getD i 0

def semanticIdentityEqual (a b : SemanticIdentity) : Bool :=
  if !a.valid || !b.valid || a.len ≠ b.len then false else carry (semanticIdentityEqualStep a b) 0 512 true

def callableIdentityByte (st : SemanticIdentityBuild) (value : UInt8) : SemanticIdentityBuild :=
  if !st.valid || st.len ≥ 512 then { st with valid := false }
  else { st with bytes := st.bytes.setIfInBounds st.len value, len := st.len + 1 }

def callableIdentitySpanStep (src : Source) (st : SemanticIdentityBuild) (pos start stop : Nat) :
  SemanticIdentityBuild :=
  if !st.valid || pos < start || pos ≥ stop then st else callableIdentityByte st (UInt8.ofNat (src.byteAt pos))

def callableIdentitySpan (src : Source) (st : SemanticIdentityBuild) (start stop : Nat) : SemanticIdentityBuild :=
  if stop < start || stop > src.total then { st with valid := false }
  else carry (fun i d => callableIdentitySpanStep src d (start + i) start stop) 0 1024 st

/-- `mncs:0.2:function:`, the module, `::` and the name. -/
def canonicalFunctionIdentity (src : Source) (moduleStart moduleStop functionStart functionStop : Nat)
    : SemanticIdentity :=
  let lead : List UInt8 := [109, 110, 99, 115, 58, 48, 46, 50, 58, 102, 117, 110, 99, 116, 105, 111, 110, 58]
  let d := lead.foldl callableIdentityByte identitySeed
  let modulePart := callableIdentitySpan src d moduleStart moduleStop
  let sep1 := callableIdentityByte modulePart 58
  let sep2 := callableIdentityByte sep1 58
  let functionPart := callableIdentitySpan src sep2 functionStart functionStop
  { bytes := functionPart.bytes, len := functionPart.len
    valid := functionPart.valid && moduleStop > moduleStart && functionStop > functionStart }

def identityHexDigit (value : Nat) : UInt8 := if value < 10 then UInt8.ofNat (48 + value) else UInt8.ofNat
  (55 + value)

def identityComponentByte (st : SemanticIdentityBuild) (value : UInt8) : SemanticIdentityBuild :=
  let raw := value.toNat
  if (raw ≥ 97 && raw ≤ 122) || (raw ≥ 65 && raw ≤ 90) || (raw ≥ 48 &&
      raw ≤ 57) || raw = 95 || raw = 45 || raw = 46 then
    callableIdentityByte st value
  else
    let pct := callableIdentityByte st 37
    let high := callableIdentityByte pct (identityHexDigit (raw / 16))
    callableIdentityByte high (identityHexDigit (raw % 16))

structure IdentityComponentSpan where
  pos : Nat
  stop : Nat
  build : SemanticIdentityBuild

def identityComponentSpanStep (src : Source) (st : IdentityComponentSpan) : IdentityComponentSpan :=
  if !st.build.valid || st.pos ≥ st.stop then st
  else { st with pos := st.pos + 1, build := identityComponentByte st.build (UInt8.ofNat (src.byteAt st.pos)) }

def identityComponentSpan (src : Source) (st : SemanticIdentityBuild) (start stop : Nat) : SemanticIdentityBuild :=
  if stop < start || stop > src.total then { st with valid := false }
  else
    let d := (identityComponentSpanStep src)^[1024] { pos := start, stop := stop, build := st }
    d.build

def signatureNameKey (src : Source) (start stop : Nat) : SemanticIdentity :=
  let key := identityComponentSpan src identitySeed start stop
  { bytes := key.bytes, len := key.len, valid := key.valid && stop > start }

/-- `mncs:0.2:operation::` and the name. -/
def canonicalOperationIdentity (src : Source) (ns ne : Nat) : SemanticIdentity :=
  let lead : List UInt8 :=
    [109, 110, 99, 115, 58, 48, 46, 50, 58, 111, 112, 101, 114, 97, 116, 105, 111, 110, 58, 58]
  let d := lead.foldl callableIdentityByte identitySeed
  let name := identityComponentSpan src d ns ne
  { bytes := name.bytes, len := name.len, valid := name.valid && ne > ns }

structure EffectIdentity where
  identity : SemanticIdentity
  capabilityIdentity : SemanticIdentity
  kindKey : SemanticIdentity
  capabilityKey : SemanticIdentity
  deriving DecidableEq, Repr

structure CapabilityIdentity where
  identity : SemanticIdentity
  key : SemanticIdentity
  deriving DecidableEq, Repr

structure CapabilityIdentityValidation where
  rest : List CapabilityIdentity
  ok : Bool

def capabilityIdentityValidStep (st : CapabilityIdentityValidation) : CapabilityIdentityValidation :=
  if !st.ok then st
  else
    match st.rest with
    | [] => st
    | item :: rest =>
        { rest := rest, ok := item.identity.valid && item.identity.len > 0 && item.key.valid && item.key.len > 0 }

def capabilityIdentityListValid (capabilities : List CapabilityIdentity) : Bool :=
  let st := capabilityIdentityValidStep^[1024] { rest := capabilities, ok := true }
  st.ok

structure CapabilityIdentityLookup where
  rest : List CapabilityIdentity
  identity : SemanticIdentity
  found : Bool

def capabilityIdentityLookupOne (st : CapabilityIdentityLookup) (item : CapabilityIdentity)
    (rest : List CapabilityIdentity) : CapabilityIdentityLookup :=
  if semanticIdentityEqual item.identity st.identity then { st with rest := [], found := true }
  else { st with rest := rest }

def capabilityIdentityLookupStep (st : CapabilityIdentityLookup) : CapabilityIdentityLookup :=
  if st.found then st
  else
    match st.rest with
    | [] => st
    | item :: rest => capabilityIdentityLookupOne st item rest

def capabilityIdentityContains (capabilities : List CapabilityIdentity) (identity : SemanticIdentity) : Bool :=
  let st := capabilityIdentityLookupStep^[1024] { rest := capabilities, identity := identity, found := false }
  st.found

structure SignatureIdentityValidation where
  rest : List EffectIdentity
  capabilities : List CapabilityIdentity
  ok : Bool

def signatureIdentityValidStep (st : SignatureIdentityValidation) : SignatureIdentityValidation :=
  if !st.ok then st
  else
    match st.rest with
    | [] => st
    | item :: rest =>
        { st with
          rest := rest
          ok :=
            item.identity.valid && item.identity.len > 0 && item.capabilityIdentity.valid &&
              item.capabilityIdentity.len > 0 && item.kindKey.valid && item.kindKey.len > 0 &&
              item.capabilityKey.valid && item.capabilityKey.len > 0 &&
              capabilityIdentityContains st.capabilities item.capabilityIdentity }

def signatureIdentityValid (effects : List EffectIdentity) (capabilities : List CapabilityIdentity) : Bool :=
  let st := signatureIdentityValidStep^[1024]
    { rest := effects, capabilities := capabilities, ok := capabilityIdentityListValid capabilities }
  st.ok

/-! ## Nominal types -/

structure NominalTypeIdentity where
  start : Nat
  stop : Nat
  identity : SemanticIdentity
  reference : Bool
  deriving DecidableEq, Repr

structure NominalLookup where
  rest : List NominalTypeIdentity
  found : Bool
  identity : SemanticIdentity

def nominalIdentityAtCons (st : NominalLookup) (item : NominalTypeIdentity) (rest : List NominalTypeIdentity)
    (start stop : Nat) : NominalLookup :=
  if item.reference && item.start = start && item.stop = stop && item.identity.valid then
    { rest := [], found := true, identity := item.identity }
  else { st with rest := rest, found := false }

def nominalIdentityAtStep (st : NominalLookup) (start stop : Nat) : NominalLookup :=
  if st.found then st
  else
    match st.rest with
    | [] => st
    | item :: rest => nominalIdentityAtCons st item rest start stop

def nominalIdentityAt (types : List NominalTypeIdentity) (start stop : Nat) : NominalLookup :=
  (fun st => nominalIdentityAtStep st start stop)^[1024]
    { rest := types, found := false, identity := invalidSemanticIdentity }

def nominalIdentityByNameCons (src : Source) (st : NominalLookup) (item : NominalTypeIdentity)
    (rest : List NominalTypeIdentity) (start stop : Nat) : NominalLookup :=
  if !item.reference && spansEqual src item.start item.stop start stop then
    { rest := [], found := true, identity := item.identity }
  else { st with rest := rest, found := false }

def nominalIdentityByNameStep (src : Source) (st : NominalLookup) (start stop : Nat) : NominalLookup :=
  if st.found then st
  else
    match st.rest with
    | [] => st
    | item :: rest => nominalIdentityByNameCons src st item rest start stop

def nominalIdentityByName (src : Source) (types : List NominalTypeIdentity) (start stop : Nat) : NominalLookup :=
  (fun st => nominalIdentityByNameStep src st start stop)^[1024]
    { rest := types, found := false, identity := invalidSemanticIdentity }

structure NominalRefLookup where
  rest : List NominalTypeIdentity
  wanted : SemanticIdentity
  found : Bool
  start : Nat
  stop : Nat

def nominalReferenceByIdentityCons (st : NominalRefLookup) (item : NominalTypeIdentity)
    (rest : List NominalTypeIdentity) : NominalRefLookup :=
  if item.reference && semanticIdentityEqual item.identity st.wanted then
    { rest := [], wanted := st.wanted, found := true, start := item.start, stop := item.stop }
  else { st with rest := rest, found := false }

def nominalReferenceByIdentityStep (st : NominalRefLookup) : NominalRefLookup :=
  if st.found then st
  else
    match st.rest with
    | [] => st
    | item :: rest => nominalReferenceByIdentityCons st item rest

def nominalReferenceByIdentity (types : List NominalTypeIdentity) (wanted : SemanticIdentity) : NominalRefLookup :=
  nominalReferenceByIdentityStep^[1024]
    { rest := types, wanted := wanted, found := false, start := 0, stop := 0 }

def genericTypeMarkerIndex (start stop : Nat) : Nat :=
  if stop ≠ 18446744073709551615 then 0
  else if start ≥ 18446744073709551615 then 0
  else
    let index : Nat := 18446744073709551615 - start
    if index > 2048 then 0 else index

structure NominalTypeSpan where
  start : Nat
  stop : Nat
  kind : Nat
  deriving DecidableEq, Repr

def nominalSemanticSpan (types : List NominalTypeIdentity) (identity : SemanticIdentity)
    (sourceStart sourceStop : Nat) : NominalTypeSpan :=
  let reference := nominalReferenceByIdentity types identity
  if reference.found && genericTypeMarkerIndex reference.start reference.stop > 1024 then
    { start := reference.start, stop := reference.stop, kind := 0 }
  else { start := sourceStart, stop := sourceStop, kind := 0 }

/-! ## Semantic types -/

/-- `tSeq` is a sequence of unknown shape; `tSeqExact` keeps its element and its length, or its bound. -/
inductive SemType where
  | tBool
  | tByte
  | tInt (width : Nat) (signed : Bool)
  | tNamed (start stop : Nat)
  | tSeq
  | tSeqExact (element : SemType) (length : Nat) (lengthValid : Bool)
  | tPoison
  deriving DecidableEq, Repr

def isPoison (ty : SemType) : Bool :=
  match ty with
  | .tPoison => true
  | _ => false

def isIntTy (ty : SemType) : Bool :=
  match ty with
  | .tInt _ _ => true
  | _ => false

def isBoolTy (ty : SemType) : Bool :=
  match ty with
  | .tBool => true
  | _ => false

def isU64Ty (ty : SemType) : Bool :=
  match ty with
  | .tInt w s => w = 64 && !s
  | _ => false

def isNamedTy (ty : SemType) : Bool :=
  match ty with
  | .tNamed _ _ => true
  | _ => false

def isSequenceSem (ty : SemType) : Bool :=
  match ty with
  | .tSeq => true
  | .tSeqExact _ _ _ => true
  | _ => false

def sequenceSemElement (ty : SemType) : SemType :=
  match ty with
  | .tSeqExact element _ _ => element
  | _ => .tPoison

def semEqBool (b : SemType) : Bool :=
  match b with
  | .tBool => true
  | _ => false

def semEqByte (b : SemType) : Bool :=
  match b with
  | .tByte => true
  | _ => false

def intEqExtra (w w2 : Nat) (s s2 : Bool) : Bool := if w ≠ w2 then false else if s then s2 else !s2

def semEqInt (b : SemType) (w : Nat) (s : Bool) : Bool :=
  match b with
  | .tInt w2 s2 => intEqExtra w w2 s s2
  | _ => false

def semEqNamedSpans (src : Source) (start stop otherStart otherStop : Nat) : Bool :=
  let leftGeneric := genericTypeMarkerIndex start stop
  let rightGeneric := genericTypeMarkerIndex otherStart otherStop
  if leftGeneric > 0 || rightGeneric > 0 then leftGeneric > 0 && leftGeneric = rightGeneric
  else spansEqual src start stop otherStart otherStop

def semEqNamed (src : Source) (b : SemType) (start stop : Nat) : Bool :=
  match b with
  | .tNamed q2 g2 => semEqNamedSpans src start stop q2 g2
  | _ => false

def semEqSeq (b : SemType) : Bool :=
  match b with
  | .tSeq => true
  | .tSeqExact _ _ _ => true
  | _ => false

def seqValidityMatches (lengthValid otherValid : Bool) : Bool := if lengthValid then otherValid else !otherValid

def semEqSeqExactShape (b : SemType) (length : Nat) (lengthValid : Bool) : Bool :=
  match b with
  | .tSeqExact _ otherLength otherValid => length = otherLength && seqValidityMatches lengthValid otherValid
  | _ => false

def semEqPoison (b : SemType) : Bool :=
  match b with
  | .tPoison => true
  | _ => false

def semEqShape (src : Source) (a b : SemType) : Bool :=
  match a with
  | .tBool => semEqBool b
  | .tByte => semEqByte b
  | .tInt w s => semEqInt b w s
  | .tNamed s e => semEqNamed src b s e
  | .tSeq => semEqSeq b
  | .tSeqExact _ length valid => semEqSeqExactShape b length valid
  | .tPoison => semEqPoison b

structure SemTypePair where
  left : SemType
  right : SemType

structure SemEqWalk where
  rest : List SemTypePair
  ok : Bool

def semEqNestedRight (right element : SemType) (rest : List SemTypePair) : SemEqWalk :=
  match right with
  | .tSeqExact other _ _ => { rest := { left := element, right := other } :: rest, ok := true }
  | _ => { rest := rest, ok := true }

def semEqNestedPair (left right : SemType) (rest : List SemTypePair) : SemEqWalk :=
  match left with
  | .tSeqExact element _ _ => semEqNestedRight right element rest
  | _ => { rest := rest, ok := true }

def semEqPairStep (src : Source) (pair : SemTypePair) (rest : List SemTypePair) : SemEqWalk :=
  if !semEqShape src pair.left pair.right then { rest := [], ok := false }
  else semEqNestedPair pair.left pair.right rest

def semEqStep (src : Source) (st : SemEqWalk) : SemEqWalk :=
  if !st.ok then st
  else
    match st.rest with
    | [] => st
    | pair :: rest => semEqPairStep src pair rest

def semEq (src : Source) (a b : SemType) : Bool :=
  let seed : SemTypePair := { left := a, right := b }
  let initial : SemEqWalk := { rest := seed :: [], ok := true }
  let st := (semEqStep src)^[32] initial
  st.ok && st.rest.isEmpty

/-! ## Type references -/

structure DigitCheck where
  pos : Nat
  stop : Nat
  ok : Bool

def spanDigitsStep (src : Source) (st : DigitCheck) : DigitCheck :=
  if !st.ok || st.pos ≥ st.stop then st
  else
    let byte := src.byteAt st.pos
    if byte < 48 || byte > 57 then { st with ok := false } else { st with pos := st.pos + 1, ok := true }

def spanDigits (src : Source) (start stop : Nat) : Bool :=
  let d := (spanDigitsStep src)^[1024] { pos := start, stop := stop, ok := true }
  d.ok && d.pos ≥ d.stop

def scalarSem (src : Source) (start stop : Nat) : SemType :=
  if stop < start then .tNamed start stop
  else if stop - start < 2 || stop - start > 3 then .tNamed start stop
  else
    let b0 := src.byteAt start
    if b0 ≠ 117 && b0 ≠ 105 then .tNamed start stop
    else if !spanDigits src (start + 1) stop then .tNamed start stop
    else
      let val := src.intValue (start + 1) stop
      if val.overflow then .tNamed start stop
      else if val.value = 8 || val.value = 16 || val.value = 32 || val.value = 64 then .tInt val.value (b0 = 105)
      else .tNamed start stop

structure RecScan where
  rest : List RecordDecl
  start : Nat
  stop : Nat
  found : Bool

def recordDeclaredCons (src : Source) (st : RecScan) (h : RecordDecl) (t : List RecordDecl) : RecScan :=
  if spansEqual src h.nameStart h.nameStop st.start st.stop then { st with rest := [], found := true }
  else { st with rest := t, found := false }

def recordDeclaredStep (src : Source) (st : RecScan) : RecScan :=
  if st.found then st
  else
    match st.rest with
    | [] => st
    | h :: t => recordDeclaredCons src st h t

def recordDeclared (src : Source) (rectab : List RecordDecl) (start stop : Nat) : Bool :=
  let empty : Bool :=
    match rectab with
    | [] => true
    | _ :: _ => false
  if empty then false
  else
    (iterate (fun _ (d : RecScan) =>
          let exhausted := match d.rest with
            | [] => true
            | _ :: _ => false
          if exhausted then .ret d.found
          else .next (recordDeclaredStep src d))
        0 1024 { rest := rectab, start := start, stop := stop, found := false }).after fun d =>
      d.found

structure EnumScan where
  rest : List EnumDecl
  start : Nat
  stop : Nat
  found : Bool

def enumDeclaredCons (src : Source) (st : EnumScan) (h : EnumDecl) (t : List EnumDecl) : EnumScan :=
  if spansEqual src h.nameStart h.nameStop st.start st.stop then { st with rest := [], found := true }
  else { st with rest := t, found := false }

def enumDeclaredStep (src : Source) (st : EnumScan) : EnumScan :=
  if st.found then st
  else
    match st.rest with
    | [] => st
    | h :: t => enumDeclaredCons src st h t

def enumDeclared (src : Source) (enumtab : List EnumDecl) (start stop : Nat) : Bool :=
  let empty : Bool :=
    match enumtab with
    | [] => true
    | _ :: _ => false
  if empty then false
  else
    (iterate (fun _ (d : EnumScan) =>
          let exhausted := match d.rest with
            | [] => true
            | _ :: _ => false
          if exhausted then .ret d.found
          else .next (enumDeclaredStep src d))
        0 1024 { rest := enumtab, start := start, stop := stop, found := false }).after fun d =>
      d.found

structure TyRes where
  ty : SemType
  ok : Bool
  deriving DecidableEq, Repr

def resolveDeclaredType (src : Source) (start stop : Nat) (rectab : List RecordDecl) (enumtab : List EnumDecl)
    : TyRes :=
  if recordDeclared src rectab start stop then { ty := .tNamed start stop, ok := true }
  else if enumDeclared src enumtab start stop then { ty := .tNamed start stop, ok := true }
  else { ty := .tPoison, ok := false }

def resolveNamedType (src : Source) (start stop : Nat) (rectab : List RecordDecl) (enumtab : List EnumDecl) : TyRes :=
  let sc := scalarSem src start stop
  match sc with
  | .tNamed n m => resolveDeclaredType src n m rectab enumtab
  | .tBool => { ty := .tBool, ok := true }
  | .tByte => { ty := .tByte, ok := true }
  | .tInt w g => { ty := .tInt w g, ok := true }
  | .tSeq => { ty := .tSeq, ok := true }
  | .tSeqExact element length valid => { ty := .tSeqExact element length valid, ok := true }
  | .tPoison => { ty := .tPoison, ok := false }

def resolveSeqElem (src : Source) (start stop : Nat) (rectab : List RecordDecl) (enumtab : List EnumDecl)
    (nominals : List NominalTypeIdentity) : TyRes :=
  let inner := resolveNamedType src start stop rectab enumtab
  if !inner.ok then
    let imported := nominalIdentityAt nominals start stop
    if imported.found then
      let span := nominalSemanticSpan nominals imported.identity start stop
      { ty := .tNamed span.start span.stop, ok := true }
    else { ty := .tPoison, ok := false }
  else inner

def resolveSequenceElement (src : Source) (element : TypeRef) (rectab : List RecordDecl) (enumtab : List EnumDecl)
    (nominals : List NominalTypeIdentity) : TyRes :=
  if element.kind = 1 then { ty := .tInt 64 false, ok := true }
  else if element.kind = 2 then { ty := .tInt 64 true, ok := true }
  else if element.kind = 3 then { ty := .tBool, ok := true }
  else if element.kind = 4 then { ty := .tByte, ok := true }
  else if element.kind = 5 then resolveSeqElem src element.start element.stop rectab enumtab nominals
  else if element.kind = 6 then
    let imported := nominalIdentityAt nominals element.start element.stop
    if imported.found then
      let span := nominalSemanticSpan nominals imported.identity element.start element.stop
      { ty := .tNamed span.start span.stop, ok := true }
    else { ty := .tPoison, ok := false }
  else { ty := .tPoison, ok := false }

structure UpToScan where
  cursor : Nat
  stop : Nat
  ok : Bool

def upToSpaceStep (src : Source) (st : UpToScan) : UpToScan :=
  if !st.ok || st.cursor ≥ st.stop then st
  else if space (src.byteAt st.cursor) then { st with cursor := st.cursor + 1, ok := true }
  else { st with ok := true }

structure UpToDigits where
  ok : Bool
  start : Nat
  stop : Nat

def upToDigits (src : Source) (start stop : Nat) : UpToDigits :=
  if stop < start + 6 then { ok := false, start := start, stop := stop }
  else
    let st := (upToSpaceStep src)^[1024] { cursor := start + 5, stop := stop, ok := true }
    if !st.ok || st.cursor ≥ st.stop then { ok := false, start := start, stop := stop }
    else if !spanDigits src st.cursor st.stop then { ok := false, start := start, stop := stop }
    else { ok := true, start := st.cursor, stop := st.stop }

def resolveViewBound (src : Source) (element : SemType) (start stop : Nat) : TyRes :=
  let digits := upToDigits src start stop
  if !digits.ok then { ty := .tSeqExact element 18446744073709551615 false, ok := true }
  else
    let length := src.intValue digits.start digits.stop
    if length.overflow then { ty := .tSeqExact element 18446744073709551615 false, ok := true }
    else { ty := .tSeqExact element length.value false, ok := true }

def finishResolvedSequenceType (src : Source) (kind elemCursor : Nat) (element : SemType) : TyRes :=
  let semi := expect src elemCursor 63
  if !semi.ok then { ty := .tPoison, ok := false }
  else
    let bound := seqBound src semi.cursor
    if !bound.ok then { ty := .tPoison, ok := false }
    else
      let close := expect src bound.cursor 70
      if !close.ok then { ty := .tPoison, ok := false }
      else if kind = 8 then resolveViewBound src element bound.start bound.stop
      else
        let literalBound := spanDigits src bound.start bound.stop
        let length := src.intValue bound.start bound.stop
        { ty := .tSeqExact element length.value (literalBound && !length.overflow), ok := true }

def resolveShallowSequenceType (src : Source) (kind start _stop : Nat) (rectab : List RecordDecl)
    (enumtab : List EnumDecl) (nominals : List NominalTypeIdentity) : TyRes :=
  let elem := parseType src (start + 1)
  if !elem.ok || elem.node.kind = 7 || elem.node.kind = 8 then { ty := .tPoison, ok := false }
  else
    let element := resolveSequenceElement src elem.node rectab enumtab nominals
    if !element.ok then element else finishResolvedSequenceType src kind elem.cursor element.ty

def resolveSequenceChild (src : Source) (child : TypeRef) (rectab : List RecordDecl) (enumtab : List EnumDecl)
    (nominals : List NominalTypeIdentity) : TyRes :=
  if child.kind = 7 || child.kind = 8 then
    resolveShallowSequenceType src child.kind child.start child.stop rectab enumtab nominals
  else resolveSequenceElement src child rectab enumtab nominals

def resolveSeqType (src : Source) (kind start _stop : Nat) (rectab : List RecordDecl) (enumtab : List EnumDecl)
    (nominals : List NominalTypeIdentity) : TyRes :=
  let elem := parseType src (start + 1)
  if !elem.ok then { ty := .tPoison, ok := false }
  else
    let element := resolveSequenceChild src elem.node rectab enumtab nominals
    if !element.ok then element else finishResolvedSequenceType src kind elem.cursor element.ty

def resolveType (src : Source) (kind start stop : Nat) (rectab : List RecordDecl) (enumtab : List EnumDecl)
    (nominals : List NominalTypeIdentity) : TyRes :=
  if kind = 3 then { ty := .tBool, ok := true }
  else if kind = 4 then { ty := .tByte, ok := true }
  else if kind = 1 then { ty := .tInt 64 false, ok := true }
  else if kind = 2 then { ty := .tInt 64 true, ok := true }
  else if kind = 6 then
    let found := nominalIdentityAt nominals start stop
    if found.found then
      let span := nominalSemanticSpan nominals found.identity start stop
      { ty := .tNamed span.start span.stop, ok := true }
    else { ty := .tPoison, ok := false }
  else if kind = 7 || kind = 8 then resolveSeqType src kind start stop rectab enumtab nominals
  else if kind = 5 then
    let isLocal := resolveNamedType src start stop rectab enumtab
    if isLocal.ok then isLocal
    else
      let imported := nominalIdentityAt nominals start stop
      if imported.found then
        let span := nominalSemanticSpan nominals imported.identity start stop
        { ty := .tNamed span.start span.stop, ok := true }
      else isLocal
  else { ty := .tPoison, ok := false }

def spanIsSelect (src : Source) (start stop : Nat) : Bool :=
  if stop ≤ start || stop - start ≠ 6 then false
  else
    src.byteAt start = 115 && src.byteAt (start + 1) = 101 && src.byteAt (start + 2) = 108 &&
      src.byteAt (start + 3) = 101 && src.byteAt (start + 4) = 99 && src.byteAt (start + 5) = 116

def castTargetOk (ty : SemType) : Bool :=
  match ty with
  | .tByte => true
  | .tInt _ _ => true
  | _ => false

def castTargetSpanMatches (src : Source) (typeKind typeStart typeStop : Nat) (ty : SemType) : Bool :=
  let target := resolveType src typeKind typeStart typeStop [] [] []
  target.ok && castTargetOk target.ty && semEq src target.ty ty

/-! ## Declared and imported tables -/

structure RecFind where
  rest : List RecordDecl
  ns : Nat
  ne : Nat
  found : Bool
  decl : RecordDecl

def recLookupCons (src : Source) (st : RecFind) (h : RecordDecl) (t : List RecordDecl) : RecFind :=
  if spansEqual src h.nameStart h.nameStop st.ns st.ne then { st with rest := [], found := true, decl := h }
  else { st with rest := t, found := false }

def recLookupStep (src : Source) (st : RecFind) : RecFind :=
  if st.found then st
  else
    match st.rest with
    | [] => st
    | h :: t => recLookupCons src st h t

def recLookup (src : Source) (rectab : List RecordDecl) (ns ne : Nat) : RecFind :=
  (recLookupStep src)^[1024]
    { rest := rectab, ns := ns, ne := ne, found := false
      decl :=
        { ok := false, errStart := 0, errStop := 0, nameStart := 0, nameStop := 0, fields := [], declStart := 0
          declStop := 0
          cursor := 0 } }

structure FieldScan where
  rest : List Field
  fs : Nat
  fe : Nat
  found : Bool
  field : Field
  index : Nat

def fieldScanCons (src : Source) (st : FieldScan) (h : Field) (t : List Field) : FieldScan :=
  if spansEqual src h.nameStart h.nameStop st.fs st.fe then { st with rest := [], found := true, field := h }
  else { st with rest := t, found := false, index := st.index + 1 }

def fieldScanStep (src : Source) (st : FieldScan) : FieldScan :=
  if st.found then st
  else
    match st.rest with
    | [] => st
    | h :: t => fieldScanCons src st h t

def fieldScan (src : Source) (fields : List Field) (fs fe : Nat) : FieldScan :=
  (fieldScanStep src)^[1024]
    { rest := fields, fs := fs, fe := fe, found := false
      field := { nameStart := 0, nameStop := 0, typeStart := 0, typeStop := 0, typeKind := 9 }, index := 0 }

structure EnumFind where
  rest : List EnumDecl
  ns : Nat
  ne : Nat
  found : Bool
  decl : EnumDecl

def enumLookupCons (src : Source) (st : EnumFind) (h : EnumDecl) (t : List EnumDecl) : EnumFind :=
  if spansEqual src h.nameStart h.nameStop st.ns st.ne then { st with rest := [], found := true, decl := h }
  else { st with rest := t, found := false }

def enumLookupStep (src : Source) (st : EnumFind) : EnumFind :=
  if st.found then st
  else
    match st.rest with
    | [] => st
    | h :: t => enumLookupCons src st h t

def enumLookup (src : Source) (enumtab : List EnumDecl) (ns ne : Nat) : EnumFind :=
  (enumLookupStep src)^[1024]
    { rest := enumtab, ns := ns, ne := ne, found := false
      decl :=
        { ok := false, errStart := 0, errStop := 0, nameStart := 0, nameStop := 0, variants := [], declStart := 0
          declStop := 0, cursor := 0 } }

structure VariantScan where
  rest : List Variant
  vs : Nat
  ve : Nat
  found : Bool
  variant : Variant

def variantScanCons (src : Source) (st : VariantScan) (h : Variant) (t : List Variant) : VariantScan :=
  if spansEqual src h.nameStart h.nameStop st.vs st.ve then { st with rest := [], found := true, variant := h }
  else { st with rest := t, found := false }

def variantScanStep (src : Source) (st : VariantScan) : VariantScan :=
  if st.found then st
  else
    match st.rest with
    | [] => st
    | h :: t => variantScanCons src st h t

def variantScan (src : Source) (variants : List Variant) (vs ve : Nat) : VariantScan :=
  (variantScanStep src)^[1024]
    { rest := variants, vs := vs, ve := ve, found := false, variant := { nameStart := 0, nameStop := 0
                                                                         fields := [] } }

structure ImportedRecordField where
  name : SemanticIdentity
  index : Nat
  ty : SemType
  typeValid : Bool
  deriving DecidableEq, Repr

structure ImportedRecordSchema where
  identity : SemanticIdentity
  fields : List ImportedRecordField
  deriving DecidableEq, Repr

structure ImportedEnumField where
  name : SemanticIdentity
  index : Nat
  ty : SemType
  typeValid : Bool
  deriving DecidableEq, Repr

structure ImportedEnumVariant where
  name : SemanticIdentity
  fields : List ImportedEnumField
  deriving DecidableEq, Repr

structure ImportedEnumSchema where
  identity : SemanticIdentity
  variants : List ImportedEnumVariant
  deriving DecidableEq, Repr

structure ImportedRecordLookup where
  rest : List ImportedRecordSchema
  wanted : SemanticIdentity
  found : Bool
  schema : ImportedRecordSchema

def importedRecordLookupOne (st : ImportedRecordLookup) (schema : ImportedRecordSchema)
    (rest : List ImportedRecordSchema) : ImportedRecordLookup :=
  if semanticIdentityEqual schema.identity st.wanted then
    { rest := [], wanted := st.wanted, found := true, schema := schema }
  else { st with rest := rest }

def importedRecordLookupStep (st : ImportedRecordLookup) : ImportedRecordLookup :=
  match st.rest with
  | [] => st
  | schema :: rest => importedRecordLookupOne st schema rest

def importedRecordLookup (records : List ImportedRecordSchema) (wanted : SemanticIdentity) : ImportedRecordLookup :=
  let empty : ImportedRecordSchema := { identity := invalidSemanticIdentity, fields := [] }
  (iterate (fun _ (st : ImportedRecordLookup) =>
        if st.found then .ret st
        else .next (importedRecordLookupStep st))
      0 1024 { rest := records, wanted := wanted, found := false, schema := empty }).after fun st =>
    st

structure ImportedFieldLookup where
  rest : List ImportedRecordField
  wanted : SemanticIdentity
  found : Bool
  field : ImportedRecordField

def importedFieldLookupOne (st : ImportedFieldLookup) (field : ImportedRecordField) (rest : List ImportedRecordField)
    : ImportedFieldLookup :=
  if semanticIdentityEqual field.name st.wanted then
    { rest := [], wanted := st.wanted, found := true, field := field }
  else { st with rest := rest }

def importedFieldLookupStep (st : ImportedFieldLookup) : ImportedFieldLookup :=
  match st.rest with
  | [] => st
  | field :: rest => importedFieldLookupOne st field rest

def importedFieldLookup (fields : List ImportedRecordField) (wanted : SemanticIdentity) : ImportedFieldLookup :=
  let empty : ImportedRecordField :=
    { name := invalidSemanticIdentity, index := 0, ty := .tPoison, typeValid := false }
  (iterate (fun _ (st : ImportedFieldLookup) =>
        if st.found then .ret st
        else .next (importedFieldLookupStep st))
      0 1024 { rest := fields, wanted := wanted, found := false, field := empty }).after fun st =>
    st

structure ImportedEnumLookup where
  rest : List ImportedEnumSchema
  wanted : SemanticIdentity
  found : Bool
  schema : ImportedEnumSchema

def importedEnumLookupOne (st : ImportedEnumLookup) (schema : ImportedEnumSchema) (rest : List ImportedEnumSchema)
    : ImportedEnumLookup :=
  if semanticIdentityEqual schema.identity st.wanted then
    { rest := [], wanted := st.wanted, found := true, schema := schema }
  else { st with rest := rest }

def importedEnumLookupStep (st : ImportedEnumLookup) : ImportedEnumLookup :=
  match st.rest with
  | [] => st
  | schema :: rest => importedEnumLookupOne st schema rest

def importedEnumLookup (enums : List ImportedEnumSchema) (wanted : SemanticIdentity) : ImportedEnumLookup :=
  let empty : ImportedEnumSchema := { identity := invalidSemanticIdentity, variants := [] }
  (iterate (fun _ (st : ImportedEnumLookup) =>
        if st.found then .ret st
        else .next (importedEnumLookupStep st))
      0 1024 { rest := enums, wanted := wanted, found := false, schema := empty }).after fun st =>
    st

structure ImportedEnumVariantLookup where
  rest : List ImportedEnumVariant
  wanted : SemanticIdentity
  found : Bool
  variant : ImportedEnumVariant

def importedEnumVariantLookupOne (st : ImportedEnumVariantLookup) (variant : ImportedEnumVariant)
    (rest : List ImportedEnumVariant) : ImportedEnumVariantLookup :=
  if semanticIdentityEqual variant.name st.wanted then
    { rest := [], wanted := st.wanted, found := true, variant := variant }
  else { st with rest := rest }

def importedEnumVariantLookupStep (st : ImportedEnumVariantLookup) : ImportedEnumVariantLookup :=
  match st.rest with
  | [] => st
  | variant :: rest => importedEnumVariantLookupOne st variant rest

def importedEnumVariantLookup (variants : List ImportedEnumVariant) (wanted : SemanticIdentity)
    : ImportedEnumVariantLookup :=
  let empty : ImportedEnumVariant := { name := invalidSemanticIdentity, fields := [] }
  (iterate (fun _ (st : ImportedEnumVariantLookup) =>
        if st.found then .ret st
        else .next (importedEnumVariantLookupStep st))
      0 1024 { rest := variants, wanted := wanted, found := false, variant := empty }).after fun st =>
    st

structure ImportedEnumFieldLookup where
  rest : List ImportedEnumField
  wanted : SemanticIdentity
  found : Bool
  field : ImportedEnumField

def importedEnumFieldLookupOne (st : ImportedEnumFieldLookup) (field : ImportedEnumField)
    (rest : List ImportedEnumField) : ImportedEnumFieldLookup :=
  if semanticIdentityEqual field.name st.wanted then
    { rest := [], wanted := st.wanted, found := true, field := field }
  else { st with rest := rest }

def importedEnumFieldLookupStep (st : ImportedEnumFieldLookup) : ImportedEnumFieldLookup :=
  match st.rest with
  | [] => st
  | field :: rest => importedEnumFieldLookupOne st field rest

def importedEnumFieldLookup (fields : List ImportedEnumField) (wanted : SemanticIdentity) : ImportedEnumFieldLookup :=
  let empty : ImportedEnumField := { name := invalidSemanticIdentity, index := 0, ty := .tPoison, typeValid := false }
  (iterate (fun _ (st : ImportedEnumFieldLookup) =>
        if st.found then .ret st
        else .next (importedEnumFieldLookupStep st))
      0 1024 { rest := fields, wanted := wanted, found := false, field := empty }).after fun st =>
    st

structure Bind where
  start : Nat
  stop : Nat
  ty : SemType
  deriving DecidableEq, Repr

structure ImportedNameLookup where
  rest : List NameSpan
  wanted : SemanticIdentity
  found : Bool

def importedNameKnownStep (src : Source) (st : ImportedNameLookup) : ImportedNameLookup :=
  match st.rest with
  | [] => st
  | name :: rest =>
      { st with rest := rest, found := semanticIdentityEqual (signatureNameKey src name.start name.stop) st.wanted }

def importedNameKnown (src : Source) (names : List NameSpan) (wanted : SemanticIdentity) : Bool :=
  (iterate (fun _ (st : ImportedNameLookup) =>
        if st.found then .ret true
        else .next (importedNameKnownStep src st))
      0 1024 { rest := names, wanted := wanted, found := false }).after fun st =>
    st.found

structure ImportedPayloadShapeScan where
  rest : List ImportedEnumField
  bound : List NameSpan
  ok : Bool

def importedPayloadShapeStep (src : Source) (st : ImportedPayloadShapeScan) : ImportedPayloadShapeScan :=
  if !st.ok then st
  else
    match st.rest with
    | [] => st
    | field :: rest => { st with rest := rest, ok := importedNameKnown src st.bound field.name }

def importedPayloadShapeOk (src : Source) (fields : List ImportedEnumField) (bound : List NameSpan) : Bool :=
  let st := (importedPayloadShapeStep src)^[1024] { rest := fields, bound := bound, ok := true }
  st.ok

structure BindCountScan where
  rest : List Bind
  count : Nat

def bindCountStep (st : BindCountScan) : BindCountScan :=
  match st.rest with
  | [] => st
  | _ :: t => { rest := t, count := st.count + 1 }

def bindCount (binds : List Bind) : Nat :=
  let st := bindCountStep^[1024] { rest := binds, count := 0 }
  st.count

structure PayloadFieldLookup where
  rest : List Bind
  start : Nat
  stop : Nat
  found : Bool

def payloadFieldBindingStep (src : Source) (st : PayloadFieldLookup) : PayloadFieldLookup :=
  if st.found then st
  else
    match st.rest with
    | [] => st
    | field :: rest => { st with rest := rest, found := spansEqual src field.start field.stop st.start st.stop }

def payloadFieldBindingKnown (src : Source) (fields : List Bind) (start stop : Nat) : Bool :=
  let st := (payloadFieldBindingStep src)^[1024] { rest := fields, start := start, stop := stop, found := false }
  st.found

structure PayloadBindingMatch where
  rest : List PayloadBinding
  fields : List Bind
  ok : Bool

def payloadBindingMatchOne (src : Source) (st : PayloadBindingMatch) (binding : PayloadBinding)
    (rest : List PayloadBinding) : PayloadBindingMatch :=
  let found := payloadFieldBindingKnown src st.fields binding.fieldStart binding.fieldStop
  { st with rest := rest, ok := found }

def payloadBindingMatchStep (src : Source) (st : PayloadBindingMatch) : PayloadBindingMatch :=
  if !st.ok then st
  else
    match st.rest with
    | [] => st
    | binding :: rest => payloadBindingMatchOne src st binding rest

def payloadBindingsMatch (src : Source) (bindings : List PayloadBinding) (fields : List Bind) : Bool :=
  let st := (payloadBindingMatchStep src)^[1024] { rest := bindings, fields := fields, ok := true }
  st.ok && st.rest.isEmpty

structure PayloadBindingCount where
  rest : List PayloadBinding
  count : Nat

def payloadBindingCountStep (st : PayloadBindingCount) : PayloadBindingCount :=
  match st.rest with
  | [] => st
  | _ :: t => { rest := t, count := st.count + 1 }

def payloadBindingCount (bindings : List PayloadBinding) : Nat :=
  let st := payloadBindingCountStep^[1024] { rest := bindings, count := 0 }
  st.count

def reverseBinds (binds : List Bind) : List Bind := reverseWithin 1024 binds

/-! ## Operators, casts and host operations -/

def opClass (op : Nat) : Nat :=
  if op = 50 || op = 51 || op = 52 then 0
  else if op = 55 || op = 56 || op = 57 then 0
  else if op = 91 || op = 92 || op = 93 then 0
  else if op = 94 || op = 95 || op = 96 then 0
  else if op = 53 || op = 54 then 1
  else if op = 84 || op = 85 || op = 58 then 2
  else if op = 86 || op = 59 || op = 87 then 2 else if op = 82 || op = 83 then 3 else if op = 88 || op = 89 then 4
  else 0

def castSourceOk (ty : SemType) : Bool :=
  match ty with
  | .tBool => true
  | .tByte => true
  | .tInt _ _ => true
  | _ => false

def sequenceViewType (ty : SemType) : SemType :=
  match ty with
  | .tSeqExact element length _ => .tSeqExact element length false
  | .tSeq => .tSeq
  | _ => .tPoison

def opViewElementOk (element : SemType) : Bool :=
  match element with
  | .tByte => true
  | _ => false

def opViewBoundOk (ty : SemType) (max : Nat) : Bool :=
  match ty with
  | .tSeqExact element length _ => opViewElementOk element && length ≤ max
  | _ => false

def opReadOperandKind (index : Nat) (ty : SemType) : Nat :=
  if index = 0 then (if opViewBoundOk ty 1024 then 0 else 60) else if opViewBoundOk ty 64 then 0 else 61

def opNominalResolved (src : Source) (nominals : List NominalTypeIdentity) (rectab : List RecordDecl)
    (enumtab : List EnumDecl) (start stop : Nat) : Bool :=
  let imported := nominalIdentityAt nominals start stop
  if imported.found && imported.identity.valid then true
  else
    let isLocal := nominalIdentityByName src nominals start stop
    if isLocal.found && isLocal.identity.valid then true
    else
      let record := recLookup src rectab start stop
      if record.found then true
      else
        let en := enumLookup src enumtab start stop
        if en.found then true else false

def opNamedResolvedKind (src : Source) (nominals : List NominalTypeIdentity) (rectab : List RecordDecl)
    (enumtab : List EnumDecl) (s e kind : Nat) : Nat :=
  if opNominalResolved src nominals rectab enumtab s e then 0 else kind

def opValueResolvedKind (src : Source) (ty : SemType) (nominals : List NominalTypeIdentity) (rectab : List RecordDecl)
    (enumtab : List EnumDecl) (kind : Nat) : Nat :=
  match ty with
  | .tNamed s e => opNamedResolvedKind src nominals rectab enumtab s e kind
  | .tPoison => kind
  | _ => 0

def opWriteOperandKind (src : Source) (index : Nat) (ty : SemType) (nominals : List NominalTypeIdentity)
    (rectab : List RecordDecl) (enumtab : List EnumDecl) : Nat :=
  if index = 0 then if opViewBoundOk ty 1024 then 0 else 65
  else if index = 1 then (if opViewBoundOk ty 64 then 0 else 66)
  else opValueResolvedKind src ty nominals rectab enumtab 67

def opFsOperandKind (index : Nat) (ty : SemType) : Nat := if index ≠ 0 then 56 else if isU64Ty ty then 0 else 56

def opOperandKind (src : Source) (slot index : Nat) (ty : SemType) (nominals : List NominalTypeIdentity)
    (rectab : List RecordDecl) (enumtab : List EnumDecl) : Nat :=
  if slot = 1 then opReadOperandKind index ty
  else if slot = 2 then opWriteOperandKind src index ty nominals rectab enumtab else opFsOperandKind index ty

def spanIsLen (src : Source) (start stop : Nat) : Bool :=
  if stop ≤ start || stop - start ≠ 3 then false
  else src.byteAt start = 108 && src.byteAt (start + 1) = 101 && src.byteAt (start + 2) = 110

/-! ## Rereading the source

A verifier does not trust the spans that an operation carries: it parses the expression again and compares.
-/

structure CountState where
  rest : List Expr
  n : Nat

def countExprsStep (st : CountState) : CountState :=
  match st.rest with
  | [] => st
  | _ :: t => { rest := t, n := st.n + 1 }

def countExprs (list : List Expr) : Nat :=
  let d := countExprsStep^[1024] { rest := list, n := 0 }
  d.n

def opSourceValid (src : Source) (slot : Nat) (ty : SemType) (ns ne argc start stop : Nat) : Bool :=
  let parsed := parseExpr { src with total := stop } start true
  if !parsed.ok || parsed.start ≠ start || parsed.stop ≠ stop then false
  else
    match parsed.node with
    | .opCall found fns fne a s e =>
        found = slot && fns = ns && fne = ne && s = start && e = stop && countExprs a = argc
    | .call cns cne a tg s e =>
        slot = 8 && s = start && e = stop && cns = ns && cne = ne && spanIsSelect src cns cne && tg.isEmpty &&
          countExprs a = argc
    | .index _ _ is' ie => slot = 6 && is' = start && ie = stop && ns = start && ne = stop && argc = 2
    | .slice _ _ _ ss se => slot = 9 && ss = start && se = stop && ns = start && ne = stop && argc = 3
    | .cast _ cts cte ctk cs ce =>
        slot = 7 && cs = start && ce = stop && ns = start && ne = stop && argc = 1 &&
          castTargetSpanMatches src ctk cts cte ty
    | _ => false

structure ConstructSourceCheck where
  fields : List ConstructField
  params : List Bind
  ok : Bool

def constructSourceFieldParameter (src : Source) (st : ConstructSourceCheck) (field : ConstructField)
    (rest : List ConstructField) : ConstructSourceCheck :=
  match st.params with
  | [] => { st with fields := rest, ok := false }
  | parameter :: params =>
      { fields := rest, params := params
        ok := spansEqual src field.fieldStart field.fieldStop parameter.start parameter.stop }

def constructSourceFieldStep (src : Source) (st : ConstructSourceCheck) : ConstructSourceCheck :=
  if !st.ok then st
  else
    match st.fields with
    | [] => { st with ok := st.params.isEmpty }
    | field :: rest => constructSourceFieldParameter src st field rest

def enumConstructSourceParts (src : Source) (ty : SemType) (variantStart variantStop : Nat) (params : List Bind)
    (_start _stop typeStart typeStop sourceVariantStart sourceVariantStop : Nat) (fields : List ConstructField)
    : Bool :=
  let typeOk : Bool :=
    match ty with
    | .tNamed ts te => ts = typeStart && te = typeStop || genericTypeMarkerIndex ts te > 1024
    | _ => false
  let st := (constructSourceFieldStep src)^[1024] { fields := fields, params := params, ok := true }
  typeOk && sourceVariantStart = variantStart && sourceVariantStop = variantStop && st.ok && st.fields.isEmpty &&
    st.params.isEmpty

def enumConstructQualifiedTypeSource (src : Source) (ty : SemType) (variantStart variantStop : Nat)
    (params : List Bind) (start stop typeStart typeStop sourceVariantStart sourceVariantStop : Nat) (path : Bool)
    : Bool :=
  if !path then false
  else
    enumConstructSourceParts src ty variantStart variantStop params start stop typeStart typeStop sourceVariantStart
      sourceVariantStop []

def enumConstructProjectSource (src : Source) (ty : SemType) (variantStart variantStop : Nat) (params : List Bind)
    (start stop : Nat) (base : Expr) (fieldStart fieldStop : Nat) (path : Bool) : Bool :=
  if !path then false
  else
    match base with
    | .name typeStart typeStop =>
        enumConstructSourceParts src ty variantStart variantStop params start stop typeStart typeStop fieldStart
          fieldStop []
    | .project _ _ _ s e p =>
        enumConstructQualifiedTypeSource src ty variantStart variantStop params start stop s e fieldStart fieldStop p
    | _ => false

def enumConstructSourceValid (src : Source) (ty : SemType) (variantStart variantStop : Nat) (params : List Bind)
    (start stop : Nat) : Bool :=
  let parsed := parseExpr { src with total := stop } start true
  if !parsed.ok || parsed.start ≠ start || parsed.stop ≠ stop then false
  else
    match parsed.node with
    | .enumConstruct ts te vs ve fields _ _ =>
        enumConstructSourceParts src ty variantStart variantStop params start stop ts te vs ve fields
    | .project base fs fe _ _ path =>
        enumConstructProjectSource src ty variantStart variantStop params start stop base fs fe path
    | _ => false

def recordConstructBasePresent (src : Source) (start stop : Nat) : Bool :=
  let parsed := parseExpr { src with total := stop } start true
  if !parsed.ok || parsed.start ≠ start || parsed.stop ≠ stop then false
  else
    match parsed.node with
    | .recordConstruct _ _ _ hasBase _ _ _ => hasBase
    | _ => false

def recordConstructSourceParts (src : Source) (ty : SemType) (typeStart typeStop : Nat) (expectedBase : Bool)
    (params : List Bind) (_start _stop sourceTypeStart sourceTypeStop : Nat) (sourceHasBase : Bool)
    (fields : List ConstructField) : Bool :=
  let typeOk : Bool :=
    match ty with
    | .tNamed ts te => ts = sourceTypeStart && te = sourceTypeStop
    | _ => false
  let st := (constructSourceFieldStep src)^[1024] { fields := fields, params := params, ok := true }
  typeOk && typeStart = sourceTypeStart && typeStop = sourceTypeStop && expectedBase = sourceHasBase && st.ok &&
    st.fields.isEmpty && st.params.isEmpty

def recordConstructSourceValidBase (src : Source) (ty : SemType) (typeStart typeStop : Nat) (expectedBase : Bool)
    (params : List Bind) (start stop : Nat) : Bool :=
  let parsed := parseExpr { src with total := stop } start true
  if !parsed.ok || parsed.start ≠ start || parsed.stop ≠ stop then false
  else
    match parsed.node with
    | .recordConstruct ts te _ hasBase fields _ _ =>
        recordConstructSourceParts src ty typeStart typeStop expectedBase params start stop ts te hasBase fields
    | _ => false

def recordConstructSourceValid (src : Source) (ty : SemType) (typeStart typeStop : Nat) (params : List Bind)
    (start stop : Nat) : Bool :=
  let hasBase := recordConstructBasePresent src start stop
  recordConstructSourceValidBase src ty typeStart typeStop hasBase params start stop

structure StmtSpan where
  start : Nat
  stop : Nat

def stmtSpan (h : Stmt) : StmtSpan :=
  match h with
  | .letStmt _ _ _ _ _ _ s e => { start := s, stop := e }
  | .ifStmt _ _ _ s e => { start := s, stop := e }
  | .failStmt _ _ s e => { start := s, stop := e }
  | .returnStmt _ s e => { start := s, stop := e }
  | .iterateStmt _ _ _ _ _ _ _ _ _ _ _ _ _ _ _ _ s e => { start := s, stop := e }

end MncsCompiler.Decl
