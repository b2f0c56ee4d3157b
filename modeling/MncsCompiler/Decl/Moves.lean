import MncsCompiler.Decl.Nest

/-!
# `Decl.Moves` — what one step of the expression machine can do

`Move src st tok st'` lists the actions of the machine in the state `st` before the token `tok`, each with the guards
under which the machine takes it. `exprStepWithoutMatch_move` says that a step is one of them; nothing else about the
step functions is used later.
-/

namespace MncsCompiler.Decl

open BoundedLoop

/-- A clean token of a kind. -/
def Is (tok : Token) (kind : Nat) : Prop := tok.diagnostic = 0 ∧ tok.kind = kind

/-- The machine has neither failed nor finished. -/
def ExprState.running (st : ExprState) : Bool := st.ok && !st.done

/-- The state after an action that neither fails nor finishes. -/
def ExprState.to (st : ExprState) (cursor : Nat) (operands : List Expr) (operators : List Op) (depth : Nat)
    (expectOperand allowIndex allowCast : Bool) : ExprState :=
  { st with
    ok := true, errStart := 0, errStop := 0, cursor := cursor, operands := operands, operators := operators
    depth := depth, done := false, expectOperand := expectOperand, allowIndex := allowIndex, allowCast := allowCast }

/-- A mark without arguments. -/
def mark (kind start stop : Nat) : Op :=
  { kind := kind, argc := 0, nameStart := start, nameStop := stop, args := [], targs := [] }

/-- The span that names a callee: a name or a dotted path of names. -/
def headSpan : Expr → Option (Nat × Nat)
  | .name s e => some (s, e)
  | .project _ _ _ s e true => some (s, e)
  | _ => none

/-- The node of a closed call: a host operation, or a call. -/
def callNode (src : Source) (op : Op) (args : List Expr) (stop : Nat) : Expr :=
  if opSlotAt src op.nameStart op.nameStop ≠ 5 && op.targs.isEmpty then
    .opCall (opSlotAt src op.nameStart op.nameStop) op.nameStart op.nameStop args op.nameStart stop
  else .call op.nameStart op.nameStop args op.targs op.nameStart stop

/-- What the head of a variant literal names: the spans of the type and of the variant, and where the literal begins.
    A qualified type needs profile 0.13. -/
def variantHead (profile013 : Bool) : Expr → Option (Nat × Nat × Nat × Nat × Nat)
  | .project (.name ns ne) fs fe s _ _ => some (ns, ne, fs, fe, s)
  | .project (.project q _ ge _ _ p) fs fe s _ _ =>
      if profile013 && p && baseIsPath q then some (exprStart q, ge, fs, fe, s) else none
  | _ => none

/-- The span of the type that the head of a record literal names. -/
def recordHead (profile013 : Bool) : Expr → Option (Nat × Nat)
  | .name s e => some (s, e)
  | .project (.name _ _) _ fe s _ _ => some (s, fe)
  | .project (.project q _ _ _ _ p) _ fe s _ _ => if profile013 && p && baseIsPath q then some (s, fe) else none
  | _ => none

/-- What holds where the machine reduces: the token does not bind tighter than the operator, and a cast is not
    waiting unless casts are closed. -/
def Reduces (st : ExprState) (tok : Token) (level : Nat) : Prop :=
  (tok.diagnostic = 0 → prec tok.kind ≤ level) ∧
    (Is tok 36 → st.expectOperand = false → st.allowCast = false ∧ st.depth = 0)

inductive Move (src : Source) (st : ExprState) (tok : Token) : ExprState → Prop
  | fail (a b : Nat) : Move src st tok (exprFail st a b)
  | finish (hops : st.operators = []) :
      Move src st tok { st with ok := true, errStart := 0, errStop := 0, done := true }
  -- reductions
  | reduceNot {op rest value before} (hops : st.operators = op :: rest) (hkind : op.kind = 1002)
      (hes : st.operands = value :: before) (hred : Reduces st tok 11) :
      Move src st tok (st.to st.cursor (.unaryNot value op.nameStart (exprEnd value) :: before) rest st.depth
        false false true)
  | reduceBinary {op rest r l before} (hops : st.operators = op :: rest) (hkind : op.kind < 1000)
      (hes : st.operands = r :: l :: before) (hred : Reduces st tok (prec op.kind)) :
      Move src st tok (st.to st.cursor (.binary op.kind l r (exprStart l) (exprEnd r) :: before) rest st.depth
        false false true)
  -- operands
  | integer (hexp : st.expectOperand = true) (htok : Is tok 5) :
      Move src st tok (st.to tok.stop
        (.integer tok.start tok.stop (src.intValue tok.start tok.stop).value
          (src.intValue tok.start tok.stop).overflow :: st.operands) st.operators st.depth false true true)
  | negative {lit} (hexp : st.expectOperand = true) (htok : Is tok 51) (hprof : st.profile013 = true)
      (hlit : src.token tok.stop = lit) (hkind : Is lit 5) :
      Move src st tok (st.to lit.stop
        (.integer tok.start lit.stop (negativePayload (src.intValue lit.start lit.stop).value)
          (src.intValue lit.start lit.stop).overflow :: st.operands) st.operators st.depth false true true)
  | boolean (hexp : st.expectOperand = true) (htok : Is tok 38 ∨ Is tok 39) :
      Move src st tok (st.to tok.stop (.boolean tok.start tok.stop (tok.kind = 38) :: st.operands) st.operators
        st.depth false true true)
  | name (hexp : st.expectOperand = true)
      (htok : Is tok 4 ∨ Is tok 25 ∨
        (Is tok 34 ∧ st.profile013 = true ∧ constructFieldNameExpected st.operators = true)) :
      Move src st tok (st.to tok.stop (.name tok.start tok.stop :: st.operands) st.operators st.depth
        false true true)
  | nameCall {after} (hexp : st.expectOperand = true)
      (htok : Is tok 4 ∨ Is tok 25 ∨
        (Is tok 34 ∧ st.profile013 = true ∧ constructFieldNameExpected st.operators = true))
      (hafter : src.token tok.stop = after) (hkind : Is after 65) :
      Move src st tok (st.to after.stop (.name tok.start tok.stop :: st.operands)
        (mark 1001 tok.start tok.stop :: st.operators) (st.depth + 1) true true true)
  -- openers
  | prefixNot (hexp : st.expectOperand = true) (hprof : st.profile013 = true)
      (htok : tok.kind = 7 ∧ tok.diagnostic = 2 ∧ tok.stop = tok.start + 1 ∧ src.byteAt tok.start = 33) :
      Move src st tok (st.to tok.stop st.operands (mark 1002 tok.start tok.stop :: st.operators) st.depth true
        st.allowIndex st.allowCast)
  | group (hexp : st.expectOperand = true) (htok : Is tok 65) :
      Move src st tok (st.to tok.stop st.operands (mark 1000 0 0 :: st.operators) (st.depth + 1) true
        st.allowIndex st.allowCast)
  | sequence (hexp : st.expectOperand = true) (htok : Is tok 69) :
      Move src st tok (st.to tok.stop st.operands (mark 1009 tok.start tok.stop :: st.operators) (st.depth + 1)
        true st.allowIndex st.allowCast)
  | operator (hexp : st.expectOperand = false) (htok : tok.diagnostic = 0) (hprec : 0 < prec tok.kind)
      (htop : ∀ op rest, st.operators = op :: rest →
        op.kind ≠ 1002 ∧ (op.kind < 1000 → prec op.kind < prec tok.kind)) :
      Move src st tok (st.to tok.stop st.operands (mark tok.kind 0 0 :: st.operators) st.depth true
        st.allowIndex st.allowCast)
  -- calls and groups
  | pathCall {base before s e} (hexp : st.expectOperand = false) (htok : Is tok 65)
      (hes : st.operands = base :: before) (hhead : headSpan base = some (s, e)) :
      Move src st tok (st.to tok.stop (.name s e :: before) (mark 1001 s e :: st.operators) (st.depth + 1) true
        st.allowIndex st.allowCast)
  | genericCall {base before s e} {targs : TArgsParse} {opener : Token} (hexp : st.expectOperand = false)
      (htok : Is tok 58) (hes : st.operands = base :: before) (hhead : headSpan base = some (s, e))
      (hargs : parseTypeArgs src st.cursor = targs) (hok : targs.ok = true)
      (hopen : src.token targs.cursor = opener) (hkind : Is opener 65) :
      Move src st tok (st.to opener.stop (.name s e :: before)
        ({ mark 1001 s e with targs := targs.list } :: st.operators) (st.depth + 1) true true true)
  | closeGroup {op rest} (htok : Is tok 66) (hops : st.operators = op :: rest) (hkind : op.kind = 1000)
      (hexp : st.expectOperand = false) :
      Move src st tok (st.to tok.stop st.operands rest (st.depth - 1) false false true)
  | closeCallEmpty {op rest s e tail} (htok : Is tok 66) (hops : st.operators = op :: rest)
      (hkind : op.kind ≠ 1002 ∧ 1000 < op.kind ∧ (op.kind < 1004 ∨ 1008 < op.kind))
      (hexp : st.expectOperand = true) (hargc : op.argc = 0) (hes : st.operands = .name s e :: tail)
      (hslot : ¬ (opSlotAt src op.nameStart op.nameStop ≠ 5 ∧ op.targs = [])) :
      Move src st tok (st.to tok.stop (callNode src op [] tok.stop :: tail) rest (st.depth - 1) false true true)
  | closeCall {op rest last s e tail} (htok : Is tok 66) (hops : st.operators = op :: rest)
      (hkind : op.kind ≠ 1002 ∧ 1000 < op.kind ∧ (op.kind < 1004 ∨ 1008 < op.kind))
      (hexp : st.expectOperand = false) (hes : st.operands = last :: .name s e :: tail)
      (hslot : opSlotAt src op.nameStart op.nameStop ≠ 5 ∧ op.targs = [] →
        op.argc + 1 = opArity (opSlotAt src op.nameStart op.nameStop)) :
      Move src st tok (st.to tok.stop (callNode src op (reverseExprs (last :: op.args)) tok.stop :: tail) rest
        (st.depth - 1) false true true)
  | commaCall {op rest arg before} (htok : Is tok 64) (hops : st.operators = op :: rest) (hkind : op.kind = 1001)
      (hexp : st.expectOperand = false) (hes : st.operands = arg :: before) :
      Move src st tok (st.to tok.stop before ({ op with argc := op.argc + 1, args := arg :: op.args } :: rest)
        st.depth true st.allowIndex st.allowCast)
  -- projections, indices, slices and casts
  | project {field base before} (htok : Is tok 61) (hexp : st.expectOperand = false)
      (hallow : st.allowIndex = true) (hfield : src.token tok.stop = field)
      (hkind : Is field 4 ∨ (Is field 34 ∧ st.profile013 = true)) (hes : st.operands = base :: before) :
      Move src st tok (st.to field.stop
        (.project base field.start field.stop (exprStart base) field.stop (baseIsPath base) :: before) st.operators
        st.depth false true true)
  | indexOpen {base before} (htok : Is tok 69) (hexp : st.expectOperand = false) (hallow : st.allowIndex = true)
      (hes : st.operands = base :: before) :
      Move src st tok (st.to tok.stop st.operands (mark 1007 tok.start tok.stop :: st.operators) (st.depth + 1)
        true st.allowIndex st.allowCast)
  | indexClose {op rest i base before} (htok : Is tok 70) (hops : st.operators = op :: rest)
      (hkind : op.kind = 1007) (hexp : st.expectOperand = false) (hes : st.operands = i :: base :: before) :
      Move src st tok (st.to tok.stop (.index base i (exprStart base) tok.stop :: before) rest (st.depth - 1)
        false true true)
  | sliceOpen {op rest} (htok : Is tok 90) (hops : st.operators = op :: rest) (hkind : op.kind = 1007)
      (hexp : st.expectOperand = false) :
      Move src st tok (st.to tok.stop st.operands ({ op with kind := 1008 } :: rest) st.depth true true true)
  | sliceClose {op rest upper lower base before} (htok : Is tok 70) (hops : st.operators = op :: rest)
      (hkind : op.kind = 1008) (hexp : st.expectOperand = false)
      (hes : st.operands = upper :: lower :: base :: before) :
      Move src st tok (st.to tok.stop (.slice base lower upper (exprStart base) tok.stop :: before) rest
        (st.depth - 1) false true true)
  | cast {value before} {target : TypeParse} (htok : Is tok 36) (hexp : st.expectOperand = false)
      (hallow : st.allowCast = true) (hes : st.operands = value :: before)
      (htarget : parseType src tok.stop = target) (hok : target.ok = true) :
      Move src st tok (st.to target.cursor
        (.cast value target.node.start target.node.stop target.node.kind (exprStart value) target.node.stop ::
          before) st.operators st.depth false false false)
  -- sequence literals
  | repeated {op rest count close element before} (htok : Is tok 63) (hprof : st.profile013 = true)
      (hexp : st.expectOperand = false) (hops : st.operators = op :: rest) (hkind : op.kind = 1009)
      (hargs : op.args = []) (hcount : src.token tok.stop = count) (hckind : Is count 5 ∨ Is count 4)
      (hclose : src.token count.stop = close) (hclosed : Is close 70) (hes : st.operands = element :: before) :
      Move src st tok (st.to close.stop
        (.repeated element count.start count.stop count.kind op.nameStart close.stop :: before) rest (st.depth - 1)
        false true true)
  | commaSequence {op rest item before} (htok : Is tok 64) (hops : st.operators = op :: rest)
      (hkind : op.kind = 1009) (hexp : st.expectOperand = false) (hes : st.operands = item :: before) :
      Move src st tok (st.to tok.stop before ({ op with argc := op.argc + 1, args := item :: op.args } :: rest)
        st.depth true st.allowIndex st.allowCast)
  | closeSequenceOpen {op rest} (htok : Is tok 70) (hops : st.operators = op :: rest) (hkind : op.kind = 1009)
      (hexp : st.expectOperand = true) (hargs : op.argc = 0 → op.args = []) :
      Move src st tok (st.to tok.stop
        (.sequenceLiteral (reverseExprs op.args) op.nameStart tok.stop :: st.operands) rest (st.depth - 1)
        false true true)
  | closeSequence {op rest last before} (htok : Is tok 70) (hops : st.operators = op :: rest)
      (hkind : op.kind = 1009) (hexp : st.expectOperand = false) (hes : st.operands = last :: before) :
      Move src st tok (st.to tok.stop
        (.sequenceLiteral (reverseExprs (last :: op.args)) op.nameStart tok.stop :: before) rest (st.depth - 1)
        false true true)
  -- variants and records
  | variantOpen {base before ts te vs ve s} (htok : Is tok 67) (hexp : st.expectOperand = false)
      (hes : st.operands = base :: before) (hhead : variantHead st.profile013 base = some (ts, te, vs, ve, s)) :
      Move src st tok (st.to tok.stop (.enumConstruct ts te vs ve [] s 0 :: before) (mark 1004 0 0 :: st.operators)
        (st.depth + 1) true st.allowIndex st.allowCast)
  | recordOpen {base before s e} (htok : Is tok 67) (hexp : st.expectOperand = false)
      (hes : st.operands = base :: before) (hhead : recordHead st.profile013 base = some (s, e)) :
      Move src st tok (st.to tok.stop (.recordConstruct s e (.name 0 0) false [] s 0 :: before)
        (mark 1005 0 0 :: st.operators) (st.depth + 1) true st.allowIndex st.allowCast)
  | colon {op rest s e before} (htok : Is tok 62) (hops : st.operators = op :: rest)
      (hkind : op.kind = 1004 ∨ op.kind = 1005) (hargc : op.argc = 0) (hexp : st.expectOperand = false)
      (hes : st.operands = .name s e :: before) :
      Move src st tok (st.to tok.stop before ({ mark op.kind s e with argc := 1 } :: rest) st.depth true
        st.allowIndex st.allowCast)
  | commaVariant {op rest value ts te vs ve f s x before} (htok : Is tok 64) (hops : st.operators = op :: rest)
      (hkind : op.kind = 1004 ∨ op.kind = 1005) (hargc : op.argc = 1) (hexp : st.expectOperand = false)
      (hes : st.operands = value :: .enumConstruct ts te vs ve f s x :: before) :
      Move src st tok (st.to tok.stop
        (.enumConstruct ts te vs ve (.mk op.nameStart op.nameStop value :: f) s 0 :: before)
        (mark op.kind 0 0 :: rest) st.depth true st.allowIndex st.allowCast)
  | commaRecord {op rest value ts te b hb f s x before} (htok : Is tok 64) (hops : st.operators = op :: rest)
      (hkind : op.kind = 1004 ∨ op.kind = 1005) (hargc : op.argc = 1) (hexp : st.expectOperand = false)
      (hes : st.operands = value :: .recordConstruct ts te b hb f s x :: before) :
      Move src st tok (st.to tok.stop
        (.recordConstruct ts te b hb (.mk op.nameStart op.nameStop value :: f) s 0 :: before)
        (mark op.kind 0 0 :: rest) st.depth true st.allowIndex st.allowCast)
  | baseOpen {op rest ts te b s x before} (htok : Is tok 90) (hops : st.operators = op :: rest)
      (hkind : op.kind = 1005) (hargc : op.argc = 0) (hexp : st.expectOperand = true)
      (hes : st.operands = .recordConstruct ts te b false [] s x :: before) :
      Move src st tok (st.to tok.stop st.operands (mark 1006 0 0 :: st.operators) st.depth true
        st.allowIndex st.allowCast)
  | commaBase {op frame rest base ts te b hb f s x before} (htok : Is tok 64)
      (hops : st.operators = op :: frame :: rest) (hkind : op.kind = 1006) (hframe : frame.kind = 1005)
      (hargc : frame.argc = 0) (hexp : st.expectOperand = false)
      (hes : st.operands = base :: .recordConstruct ts te b hb f s x :: before) :
      Move src st tok (st.to tok.stop (.recordConstruct ts te base true f s 0 :: before) (frame :: rest) st.depth
        true st.allowIndex st.allowCast)
  | closeBase {op frame rest base ts te b hb f s x before} (htok : Is tok 68)
      (hops : st.operators = op :: frame :: rest) (hkind : op.kind = 1006) (hframe : frame.kind = 1005)
      (hargc : frame.argc = 0) (hexp : st.expectOperand = false)
      (hes : st.operands = base :: .recordConstruct ts te b hb f s x :: before) :
      Move src st tok (st.to tok.stop
        (.recordConstruct ts te base true (reverseConstructFields f) s tok.stop :: before) rest (st.depth - 1)
        false false true)
  | closeVariantOpen {op rest ts te vs ve f s x before} (htok : Is tok 68) (hops : st.operators = op :: rest)
      (hkind : op.kind = 1004 ∨ op.kind = 1005) (hargc : op.argc = 0) (hexp : st.expectOperand = true)
      (hes : st.operands = .enumConstruct ts te vs ve f s x :: before) :
      Move src st tok (st.to tok.stop
        (.enumConstruct ts te vs ve (reverseConstructFields f) s tok.stop :: before) rest (st.depth - 1)
        false false true)
  | closeRecordOpen {op rest ts te b hb f s x before} (htok : Is tok 68) (hops : st.operators = op :: rest)
      (hkind : op.kind = 1004 ∨ op.kind = 1005) (hargc : op.argc = 0) (hexp : st.expectOperand = true)
      (hes : st.operands = .recordConstruct ts te b hb f s x :: before) :
      Move src st tok (st.to tok.stop
        (.recordConstruct ts te b hb (reverseConstructFields f) s tok.stop :: before) rest (st.depth - 1)
        false false true)
  | closeVariant {op rest value ts te vs ve f s x before} (htok : Is tok 68) (hops : st.operators = op :: rest)
      (hkind : op.kind = 1004 ∨ op.kind = 1005) (hargc : op.argc = 1) (hexp : st.expectOperand = false)
      (hes : st.operands = value :: .enumConstruct ts te vs ve f s x :: before) :
      Move src st tok (st.to tok.stop
        (.enumConstruct ts te vs ve (reverseConstructFields (.mk op.nameStart op.nameStop value :: f)) s tok.stop ::
          before) rest (st.depth - 1) false false true)
  | closeRecord {op rest value ts te b hb f s x before} (htok : Is tok 68) (hops : st.operators = op :: rest)
      (hkind : op.kind = 1004 ∨ op.kind = 1005) (hargc : op.argc = 1) (hexp : st.expectOperand = false)
      (hes : st.operands = value :: .recordConstruct ts te b hb f s x :: before) :
      Move src st tok (st.to tok.stop
        (.recordConstruct ts te b hb (reverseConstructFields (.mk op.nameStart op.nameStop value :: f)) s tok.stop ::
          before) rest (st.depth - 1) false false true)

variable {src : Source} {st : ExprState} {tok : Token}

/-! ## Reductions -/

theorem reduceOne_move {op : Op} {rest : List Op} (a b : Nat) (hops : st.operators = op :: rest)
    (hkind : op.kind < 1000 ∨ op.kind = 1002)
    (hred : Reduces st tok (if op.kind = 1002 then 11 else prec op.kind)) :
    Move src st tok (reduceOne st op rest a b) := by
  unfold reduceOne
  split
  · rename_i hnot
    rw [if_pos hnot] at hred
    unfold reduceNot
    split
    · exact .fail a b
    · rename_i hes
      exact .reduceNot hops hnot hes hred
  · rename_i hnot
    rw [if_neg hnot] at hred
    split
    · exact .fail a b
    · rename_i r t1 hes
      unfold reduceInner
      split
      · exact .fail a b
      · exact .reduceBinary hops (hkind.resolve_right hnot) hes hred

theorem prec_le_ten (kind : Nat) : prec kind ≤ 10 := by
  unfold prec
  split <;> decide

/-- A reduction under a token that is no operator and is not a cast that the machine may take. -/
theorem reduces_of_closer {level : Nat} (hprec : tok.diagnostic = 0 → prec tok.kind = 0)
    (hcast : Is tok 36 → st.expectOperand = false → st.allowCast = false ∧ st.depth = 0) : Reduces st tok level :=
  ⟨fun h => by rw [hprec h]; exact Nat.zero_le _, hcast⟩

theorem closeOrReduce_move (a b : Nat) (hprec : tok.diagnostic = 0 → prec tok.kind = 0)
    (hcast : Is tok 36 → st.expectOperand = false → st.allowCast = false) :
    Move src st tok (closeOrReduce st a b) := by
  unfold closeOrReduce
  split
  · exact .fail a b
  · rename_i hdepth
    split
    · rename_i hops
      exact .finish hops
    · rename_i op rest hops
      unfold reduceOrFail
      split
      · exact .fail a b
      · rename_i hkind
        apply reduceOne_move a b hops
        · simp at hkind
          omega
        · exact reduces_of_closer hprec fun h he => ⟨hcast h he, by omega⟩

/-- The closing tokens reduce whatever stands above their mark. -/
theorem Is.reduces {k level : Nat} (h : Is tok k) (hprec : prec k = 0) (hcast : k ≠ 36) : Reduces st tok level :=
  reduces_of_closer (fun _ => by rw [h.2, hprec]) fun h' _ => absurd (h.2.symm.trans h'.2) hcast

theorem Is.closeOrReduce_move {k : Nat} (h : Is tok k) (hprec : prec k = 0) (hcast : k ≠ 36) (a b : Nat) :
    Move src st tok (closeOrReduce st a b) :=
  Decl.closeOrReduce_move a b (fun _ => by rw [h.2, hprec]) fun h' _ => absurd (h.2.symm.trans h'.2) hcast

/-! ## Operands and operators -/

theorem shiftOperand_move (hexp : st.expectOperand = true) (htok : tok.diagnostic = 0)
    (hkind : isOperandStart tok.kind = true ∨
      (tok.kind = 34 ∧ st.profile013 = true ∧ constructFieldNameExpected st.operators = true)) :
    Move src st tok (shiftOperand src st tok) := by
  unfold shiftOperand
  split
  · rename_i h5
    exact .integer hexp ⟨htok, h5⟩
  · rename_i h5
    split
    · rename_i hb
      simp at hb
      exact .boolean hexp (hb.imp (⟨htok, ·⟩) (⟨htok, ·⟩))
    · rename_i hb
      have hname : Is tok 4 ∨ Is tok 25 ∨
          (Is tok 34 ∧ st.profile013 = true ∧ constructFieldNameExpected st.operators = true) := by
        rcases hkind with hstart | ⟨hk, hp, hc⟩
        · simp at hb
          unfold isOperandStart at hstart
          split at hstart <;> first
            | (rename_i hk; exact absurd hk h5)
            | (rename_i hk; exact absurd hk hb.1)
            | (rename_i hk; exact absurd hk hb.2)
            | (rename_i hk; exact .inl ⟨htok, hk⟩)
            | (rename_i hk; exact .inr (.inl ⟨htok, hk⟩))
            | cases hstart
        · exact .inr (.inr ⟨⟨htok, hk⟩, hp, hc⟩)
      dsimp only
      split
      · rename_i hafter
        simp at hafter
        exact .nameCall hexp hname rfl hafter
      · exact .name hexp hname

theorem shiftNegativeInteger_move (hexp : st.expectOperand = true) (htok : Is tok 51) (hprof : st.profile013 = true) :
    Move src st tok (shiftNegativeInteger src st tok) := by
  unfold shiftNegativeInteger
  dsimp only
  split
  · exact .fail _ _
  · rename_i hlit
    simp at hlit
    exact .negative hexp htok hprof rfl hlit

theorem operatorStep_move (htok : tok.diagnostic = 0) (hprec : 0 < prec tok.kind) :
    Move src st tok (operatorStep st tok) := by
  have hcast : ¬ Is tok 36 := by
    intro h
    rw [h.2] at hprec
    exact absurd hprec (by decide)
  unfold operatorStep
  split
  · exact .fail _ _
  · rename_i hexp
    simp at hexp
    split
    · rename_i hops
      refine .operator hexp htok hprec ?_
      intro op rest h
      rw [hops] at h
      cases h
    · rename_i op rest hops
      unfold operatorTop
      split
      · rename_i hred
        simp at hred
        apply reduceOne_move _ _ hops
        · omega
        · refine ⟨fun _ => ?_, fun h => absurd h hcast⟩
          split
          · exact Nat.le_trans (prec_le_ten _) (by decide)
          · rename_i hnot
            exact (hred.resolve_left hnot).2
      · rename_i hred
        simp at hred
        refine .operator hexp htok hprec ?_
        intro op' rest' h
        rw [hops] at h
        cases h
        exact ⟨hred.1, hred.2⟩

theorem tryGenericCall_move {base : Expr} {before : List Expr} {s e : Nat} (hexp : st.expectOperand = false)
    (htok : Is tok 58) (hes : st.operands = base :: before) (hhead : headSpan base = some (s, e)) :
    Move src st tok (tryGenericCall src st tok s e before) := by
  have hop : Move src st tok (operatorStep st tok) := by
    apply operatorStep_move htok.1
    rw [htok.2]
    decide
  unfold tryGenericCall
  split
  · exact hop
  · split
    · exact .fail _ _
    · dsimp only
      split
      · exact hop
      · rename_i hargs
        split
        · exact hop
        · rename_i hopen
          simp at hargs
          unfold expect at hopen ⊢
          dsimp only at hopen ⊢
          split at hopen
          · simp at hopen
          · rename_i hd
            split at hopen
            · rename_i hk
              rw [if_neg hd, if_pos hk]
              exact .genericCall hexp htok hes hhead rfl hargs rfl ⟨by simpa using hd, hk⟩
            · simp at hopen

theorem ltOrTypeArgs_move (hexp : st.expectOperand = false) (htok : Is tok 58) :
    Move src st tok (ltOrTypeArgs src st tok) := by
  have hop : Move src st tok (operatorStep st tok) := by
    apply operatorStep_move htok.1
    rw [htok.2]
    decide
  unfold ltOrTypeArgs
  split
  · exact hop
  · rename_i base before hes
    unfold ltOrTypeArgsTop
    split
    · exact tryGenericCall_move hexp htok hes rfl
    · unfold ltGenericProject
      split
      · rename_i hpath
        subst hpath
        exact tryGenericCall_move hexp htok hes rfl
      · exact hop
    · exact hop

/-! ## Calls and groups -/

theorem pathCall_move (hexp : st.expectOperand = false) (htok : Is tok 65) : Move src st tok (pathCall st tok) := by
  have hclose : Move src st tok (closeOrReduce st tok.start tok.stop) :=
    htok.closeOrReduce_move (by decide) (by decide) _ _
  unfold pathCall
  split
  · exact hclose
  · split
    · exact hclose
    · rename_i base before hes
      unfold pathCallTop
      split
      · exact .pathCall hexp htok hes rfl
      · unfold pathCallProject
        split
        · rename_i hpath
          subst hpath
          exact .pathCall hexp htok hes rfl
        · exact hclose
      · exact hclose

theorem closeCall_move {op : Op} {rest : List Op} (htok : Is tok 66) (hops : st.operators = op :: rest)
    (hkind : op.kind ≠ 1002 ∧ 1000 < op.kind ∧ (op.kind < 1004 ∨ 1008 < op.kind)) :
    Move src st tok (closeCall src st tok op rest) := by
  unfold closeCall
  split
  · exact .fail _ _
  · rename_i hargc
    split
    · rename_i hexp
      simp [hexp] at hargc
      dsimp only
      split
      · exact .fail _ _
      · rename_i hslot
        split
        · exact .fail _ _
        · rename_i callee tail hes
          unfold dropCallee
          split
          · have hnode : callNode src op [] tok.stop =
                .call op.nameStart op.nameStop [] op.targs op.nameStart tok.stop := by
              unfold callNode
              rw [if_neg hslot]
            rw [← hnode]
            exact .closeCallEmpty htok hops hkind hexp hargc hes (by simpa using hslot)
          · exact .fail _ _
    · rename_i hexp
      simp at hexp
      split
      · exact .fail _ _
      · rename_i last before hes
        unfold closeCallArgs
        dsimp only
        split
        · rename_i hslot
          unfold closeOpCall
          split
          · exact .fail _ _
          · rename_i harity
            simp at harity
            dsimp only
            split
            · exact .fail _ _
            · unfold dropCallee
              split
              · have hnode : callNode src op (reverseExprs (last :: op.args)) tok.stop =
                    .opCall (opSlotAt src op.nameStart op.nameStop) op.nameStart op.nameStop
                      (reverseExprs (last :: op.args)) op.nameStart tok.stop := by
                  unfold callNode
                  rw [if_pos hslot]
                rw [← hnode]
                exact .closeCall htok hops hkind hexp hes fun _ => harity
              · exact .fail _ _
        · rename_i hslot
          split
          · exact .fail _ _
          · unfold dropCallee
            split
            · have hnode : callNode src op (reverseExprs (last :: op.args)) tok.stop =
                  .call op.nameStart op.nameStop (reverseExprs (last :: op.args)) op.targs op.nameStart tok.stop := by
                unfold callNode
                rw [if_neg hslot]
              rw [← hnode]
              exact .closeCall htok hops hkind hexp hes fun h => absurd h (by simpa using hslot)
            · exact .fail _ _

theorem closeParen_move (htok : Is tok 66) : Move src st tok (closeParen src st tok) := by
  unfold closeParen
  split
  · exact .fail _ _
  · rename_i op rest hops
    unfold closeParenTop
    split
    · rename_i hk
      exact reduceOne_move _ _ hops (.inl hk) (htok.reduces (by decide) (by decide))
    · split
      · rename_i hk
        exact reduceOne_move _ _ hops (.inr hk) (htok.reduces (by decide) (by decide))
      · split
        · rename_i hk
          split
          · exact .fail _ _
          · rename_i hexp
            exact .closeGroup htok hops hk (by simpa using hexp)
        · split
          · exact .fail _ _
          · rename_i h1 h2 h3 h4
            simp at h4
            exact closeCall_move htok hops ⟨h2, by omega, by omega⟩

/-! ## Projections, indices, slices and casts -/

theorem projectStep_move (htok : Is tok 61) : Move src st tok (projectStep src st tok) := by
  unfold projectStep
  split
  · exact .fail _ _
  · rename_i hexp
    split
    · exact htok.closeOrReduce_move (by decide) (by decide) _ _
    · rename_i hallow
      dsimp only
      split
      · exact .fail _ _
      · rename_i hfield
        simp at hexp hallow hfield
        split
        · exact .fail _ _
        · rename_i base before hes
          have hkind : Is (src.token tok.stop) 4 ∨ (Is (src.token tok.stop) 34 ∧ st.profile013 = true) := by
            by_cases h4 : (src.token tok.stop).kind = 4
            · exact .inl ⟨hfield.1, h4⟩
            · have h34 := hfield.2 h4
              exact .inr ⟨⟨hfield.1, h34.1⟩, h34.2⟩
          unfold projectBase
          split
          · exact .fail _ _
          · exact .project htok hexp hallow rfl hkind hes

theorem indexStep_move (hexp : st.expectOperand = false) (htok : Is tok 69) :
    Move src st tok (indexStep src st tok) := by
  have hclose : Move src st tok (closeOrReduce st tok.start tok.stop) :=
    htok.closeOrReduce_move (by decide) (by decide) _ _
  unfold indexStep
  split
  · exact hclose
  · rename_i hallow
    dsimp only
    split
    · exact .fail _ _
    · split
      · exact hclose
      · rename_i hes
        exact .indexOpen htok hexp (by simpa using hallow) hes

theorem sliceRangeStep_move (hexp : st.expectOperand = false) (htok : Is tok 90) :
    Move src st tok (sliceRangeStep src st tok) := by
  unfold sliceRangeStep
  split
  · exact htok.closeOrReduce_move (by decide) (by decide) _ _
  · rename_i op rest hops
    unfold sliceRangeTop
    split
    · rename_i hk
      simp at hk
      exact reduceOne_move _ _ hops hk (htok.reduces (by decide) (by decide))
    · split
      · rename_i hk
        unfold sliceRangeOpen
        dsimp only
        split
        · exact .fail _ _
        · split
          · exact .fail _ _
          · exact .sliceOpen htok hops hk hexp
      · exact .fail _ _

theorem castStep_move (hexp : st.expectOperand = false) (htok : Is tok 36) :
    Move src st tok (castStep src st tok) := by
  unfold castStep
  split
  · rename_i hallow
    simp at hallow
    exact closeOrReduce_move _ _ (fun _ => by rw [htok.2]; rfl) fun _ _ => hallow
  · rename_i hallow
    simp at hallow
    split
    · rename_i hes
      unfold closeOrReduce
      split
      · exact .fail _ _
      · split
        · rename_i hops
          exact .finish hops
        · -- without an operand there is nothing to reduce
          unfold reduceOrFail
          split
          · exact .fail _ _
          · unfold reduceOne reduceNot
            rw [hes]
            split <;> exact .fail _ _
    · rename_i value before hes
      unfold castBuild
      dsimp only
      split
      · exact .fail _ _
      · rename_i htarget
        exact .cast htok hexp hallow hes rfl (by simpa using htarget)

/-! ## Sequence literals -/

theorem finishRepeat_move (htok : Is tok 63) : Move src st tok (finishRepeat src st tok) := by
  unfold finishRepeat
  split
  · exact .fail _ _
  · rename_i hprof
    split
    · exact .fail _ _
    · rename_i hexp
      simp at hprof hexp
      split
      · exact .fail _ _
      · rename_i op rest hops
        unfold finishRepeatElement
        split
        · exact .fail _ _
        · rename_i hmark
          split
          · exact .fail _ _
          · rename_i hargs
            dsimp only
            split
            · exact .fail _ _
            · rename_i hcount
              split
              · exact .fail _ _
              · rename_i hclose
                split
                · exact .fail _ _
                · rename_i element before hes
                  simp at hmark hargs hcount hclose
                  have hckind : Is (src.token tok.stop) 5 ∨ Is (src.token tok.stop) 4 := by
                    by_cases h5 : (src.token tok.stop).kind = 5
                    · exact .inl ⟨hcount.1, h5⟩
                    · exact .inr ⟨hcount.1, hcount.2 h5⟩
                  exact .repeated htok hprof hexp hops hmark.1 hargs rfl hckind rfl hclose hes

theorem closeBracket_move (htok : Is tok 70) : Move src st tok (closeBracket st tok) := by
  unfold closeBracket
  split
  · exact htok.closeOrReduce_move (by decide) (by decide) _ _
  · rename_i op rest hops
    unfold closeBracketTop
    split
    · rename_i hk
      simp at hk
      exact reduceOne_move _ _ hops hk (htok.reduces (by decide) (by decide))
    · split
      · rename_i hk
        unfold sequenceClose
        split
        · rename_i hexp
          unfold sequenceCloseEmptyOrTrailing
          split
          · rename_i hempty
            simp at hempty
            have hrev : ([] : List Expr) = reverseExprs op.args := by
              rw [hempty.2, reverseExprs, reverseWithin_eq]
              rfl
            rw [hrev]
            exact .closeSequenceOpen htok hops hk hexp fun _ => hempty.2
          · split
            · exact .fail _ _
            · rename_i hargc
              exact .closeSequenceOpen htok hops hk hexp fun h => absurd h hargc
        · rename_i hexp
          simp at hexp
          split
          · exact .fail _ _
          · rename_i hes
            exact .closeSequence htok hops hk hexp hes
      · split
        · rename_i hk
          unfold indexClose
          split
          · exact .fail _ _
          · rename_i hexp
            simp at hexp
            split
            · exact .fail _ _
            · rename_i hes
              unfold indexPop
              split
              · exact .fail _ _
              · exact .indexClose htok hops hk hexp hes
        · split
          · rename_i hk
            unfold sliceClose
            split
            · exact .fail _ _
            · rename_i hexp
              simp at hexp
              split
              · exact .fail _ _
              · rename_i hes
                unfold sliceCloseUpper
                split
                · exact .fail _ _
                · unfold sliceCloseLower
                  split
                  · exact .fail _ _
                  · exact .sliceClose htok hops hk hexp hes
          · split <;> exact .fail _ _

/-! ## Variants and records -/

theorem constructStep_move (hexp : st.expectOperand = false) (htok : Is tok 67) :
    Move src st tok (constructStep src st tok) := by
  have hclose : Move src st tok (closeOrReduce st tok.start tok.stop) :=
    htok.closeOrReduce_move (by decide) (by decide) _ _
  unfold constructStep
  split
  · exact hclose
  · rename_i base before hes
    unfold constructTop
    split
    · unfold recordOrClose
      split
      · exact .recordOpen htok hexp hes rfl
      · exact hclose
    · unfold constructProject
      split
      · unfold constructNamedProject
        split
        · exact .recordOpen htok hexp hes rfl
        · split
          · exact hclose
          · exact .variantOpen htok hexp hes rfl
      · unfold constructQualifiedProject
        split
        · exact .fail _ _
        · rename_i hpath
          simp at hpath
          split
          · exact .recordOpen htok hexp hes (by simp [recordHead, hpath])
          · split
            · exact hclose
            · exact .variantOpen htok hexp hes (by simp [variantHead, hpath])
      · exact .fail _ _
    · exact hclose

theorem colonField_move {op : Op} {rest : List Op} (htok : Is tok 62) (hops : st.operators = op :: rest)
    (hkind : op.kind = 1004 ∨ op.kind = 1005) (hargc : op.argc = 0) (hexp : st.expectOperand = false) :
    Move src st tok (colonField st tok op rest) := by
  unfold colonField
  split
  · exact .fail _ _
  · rename_i hes
    unfold colonName
    split
    · exact .colon htok hops hkind hargc hexp hes
    · exact .fail _ _

theorem colonStep_move (htok : Is tok 62) : Move src st tok (colonStep st tok) := by
  have hclose : Move src st tok (closeOrReduce st tok.start tok.stop) :=
    htok.closeOrReduce_move (by decide) (by decide) _ _
  unfold colonStep
  split
  · exact hclose
  · rename_i op rest hops
    unfold colonTop
    split
    · rename_i h
      simp at h
      exact colonField_move htok hops (.inl h.1.1) h.1.2 h.2
    · split
      · rename_i h
        simp at h
        exact colonField_move htok hops (.inr h.1.1) h.1.2 h.2
      · exact hclose

theorem constructComma_move {op : Op} {rest : List Op} (htok : Is tok 64) (hops : st.operators = op :: rest)
    (hkind : op.kind = 1004 ∨ op.kind = 1005) (hexp : st.expectOperand = false) :
    Move src st tok (constructComma st tok op rest) := by
  unfold constructComma
  split
  · exact .fail _ _
  · rename_i hargc
    simp at hargc
    split
    · exact .fail _ _
    · rename_i hes
      unfold constructAccumulate
      split
      · exact .fail _ _
      · unfold constructAppend
        split
        · exact .commaVariant htok hops hkind hargc hexp hes
        · exact .commaRecord htok hops hkind hargc hexp hes
        · exact .fail _ _

theorem recordFrameParts_ok {node : Expr} (h : (recordFrameParts node).ok = true) :
    ∃ ts te b hb f s x, node = .recordConstruct ts te b hb f s x ∧
      recordFrameParts node = { ok := true, ts := ts, te := te, f := f, s := s } := by
  unfold recordFrameParts at h ⊢
  split at h
  · exact ⟨_, _, _, _, _, _, _, rfl, rfl⟩
  · cases h

theorem recordBase_move {op : Op} {rest : List Op} {base : Expr} {below : List Expr} (isClose : Bool)
    (htok : Is tok (if isClose then 68 else 64)) (hops : st.operators = op :: rest) (hkind : op.kind = 1006)
    (hexp : st.expectOperand = false) (hes : st.operands = base :: below) :
    Move src st tok (recordBaseBelow st tok rest base below isClose) := by
  unfold recordBaseBelow
  split
  · exact .fail _ _
  · unfold recordBaseResolve
    dsimp only
    split
    · exact .fail _ _
    · rename_i hparts
      simp at hparts
      obtain ⟨ts, te, b, hb, f, s, x, rfl, hparts'⟩ := recordFrameParts_ok hparts
      split
      · exact .fail _ _
      · rename_i frame rest2
        unfold recordBaseFrame
        split
        · exact .fail _ _
        · rename_i hframe
          simp at hframe
          rw [hparts']
          cases isClose with
          | true => exact .closeBase htok hops hkind hframe.1 hframe.2 hexp hes
          | false => exact .commaBase htok hops hkind hframe.1 hframe.2 hexp hes

theorem commaStep_move (htok : Is tok 64) : Move src st tok (commaStep st tok) := by
  unfold commaStep
  split
  · exact .fail _ _
  · rename_i hexp
    simp at hexp
    split
    · exact .fail _ _
    · rename_i op rest hops
      unfold commaTop
      split
      · rename_i hk
        simp at hk
        exact reduceOne_move _ _ hops hk (htok.reduces (by decide) (by decide))
      · split
        · rename_i hk
          split
          · exact .fail _ _
          · rename_i hes
            exact hk ▸ .commaCall htok hops hk hexp hes
        · split
          · rename_i hk
            exact constructComma_move htok hops (.inl hk) hexp
          · split
            · rename_i hk
              exact constructComma_move htok hops (.inr hk) hexp
            · split
              · rename_i hk
                unfold recordBaseComma
                split
                · exact .fail _ _
                · split
                  · exact .fail _ _
                  · rename_i hes
                    exact recordBase_move false htok hops hk hexp hes
              · split
                · rename_i hk
                  unfold sequenceComma
                  split
                  · exact .fail _ _
                  · rename_i hes
                    exact .commaSequence htok hops hk hexp hes
                · exact .fail _ _

theorem dotdotStep_move (hexp : st.expectOperand = true) (htok : Is tok 90) :
    Move src st tok (dotdotStep st tok) := by
  have hclose : Move src st tok (closeOrReduce st tok.start tok.stop) :=
    htok.closeOrReduce_move (by decide) (by decide) _ _
  unfold dotdotStep
  split
  · exact hclose
  · rename_i op rest hops
    unfold dotdotTop
    split
    · exact hclose
    · rename_i hmark
      simp at hmark
      split
      · exact .fail _ _
      · rename_i hes
        unfold dotdotNode
        split
        · unfold dotdotRecord
          split
          · exact .fail _ _
          · rename_i hnew
            simp at hnew
            rw [hnew.1, hnew.2] at hes
            exact .baseOpen htok hops hmark.1 hmark.2 hexp hes
        · exact .fail _ _

theorem closeConstruct_move {op : Op} {rest : List Op} (htok : Is tok 68) (hops : st.operators = op :: rest)
    (hkind : op.kind = 1004 ∨ op.kind = 1005) : Move src st tok (closeConstruct st tok op rest) := by
  unfold closeConstruct
  split
  · rename_i h
    simp at h
    unfold closeConstructEmpty
    split
    · exact .fail _ _
    · rename_i hes
      unfold closeConstructNoFields
      split
      · exact .closeVariantOpen htok hops hkind h.2 h.1 hes
      · exact .closeRecordOpen htok hops hkind h.2 h.1 hes
      · exact .fail _ _
  · split
    · exact .fail _ _
    · rename_i h
      simp at h
      split
      · exact .fail _ _
      · rename_i hes
        unfold closeConstructValue
        split
        · exact .fail _ _
        · unfold closeConstructField
          split
          · exact .closeVariant htok hops hkind h.2 h.1 hes
          · exact .closeRecord htok hops hkind h.2 h.1 hes
          · exact .fail _ _

theorem closeBrace_move (htok : Is tok 68) : Move src st tok (closeBrace st tok) := by
  have hclose : Move src st tok (closeOrReduce st tok.start tok.stop) :=
    htok.closeOrReduce_move (by decide) (by decide) _ _
  unfold closeBrace
  split
  · exact hclose
  · rename_i op rest hops
    unfold closeBraceTop
    split
    · rename_i hk
      simp at hk
      exact reduceOne_move _ _ hops hk (htok.reduces (by decide) (by decide))
    · split
      · rename_i hk
        exact closeConstruct_move htok hops (.inl hk)
      · split
        · rename_i hk
          exact closeConstruct_move htok hops (.inr hk)
        · split
          · rename_i hk
            unfold recordBaseClose
            split
            · exact .fail _ _
            · rename_i hexp
              simp at hexp
              split
              · exact .fail _ _
              · rename_i hes
                exact recordBase_move true htok hops hk hexp hes
          · exact hclose

/-! ## A step -/

/-- A branch of a step. -/
theorem Move.ite {c : Prop} [Decidable c] {a b : ExprState} (ha : c → Move src st tok a) (hb : ¬ c → Move src st tok b) :
    Move src st tok (if c then a else b) := by
  split
  · exact ha ‹_›
  · exact hb ‹_›

/-- **A step without matches is a move.** The branches are those of the source, in its order. -/
theorem exprStepBase_move (hrun : st.running = true) (htok : src.token st.cursor = tok) :
    Move src st tok (exprStepBase src st) := by
  have hopen : ¬ (!st.ok || st.done) = true := by
    simp [ExprState.running] at hrun
    simp [hrun]
  unfold exprStepBase
  rw [if_neg hopen, htok]
  dsimp only
  by_cases hdiag : tok.diagnostic = 0
  case neg =>
    rw [if_pos hdiag]
    split
    · exact .fail _ _
    · exact closeOrReduce_move _ _ (fun h => absurd h hdiag) fun h => absurd h.1 hdiag
  rw [if_neg (not_not.mpr hdiag)]
  apply Move.ite
  · intro hk
    split
    · exact .fail _ _
    · exact Is.closeOrReduce_move ⟨hdiag, hk⟩ (by decide) (by decide) _ _
  intro _
  apply Move.ite
  · intro h
    simp at h
    exact .sequence h.1 ⟨hdiag, h.2⟩
  intro _
  apply Move.ite
  · intro h
    simp at h
    exact indexStep_move h.2 ⟨hdiag, h.1⟩
  intro _
  apply Move.ite
  · intro h
    simp at h
    exact shiftOperand_move h.1.1.1 hdiag (.inr ⟨h.1.1.2, h.1.2, h.2⟩)
  intro _
  apply Move.ite
  · intro hstart
    split
    · have hprec : prec tok.kind = 0 ∧ tok.kind ≠ 36 := by
        unfold isOperandStart at hstart
        split at hstart <;> first
          | (rename_i hk; rw [hk]; decide)
          | cases hstart
      exact closeOrReduce_move _ _ (fun _ => hprec.1) fun h => absurd h.2 hprec.2
    · rename_i hexp
      exact shiftOperand_move (by simpa using hexp) hdiag (.inl hstart)
  intro _
  apply Move.ite
  · intro hk
    split
    · rename_i hexp
      exact pathCall_move (by simpa using hexp) ⟨hdiag, hk⟩
    · rename_i hexp
      exact .group (by simpa using hexp) ⟨hdiag, hk⟩
  intro _
  apply Move.ite
  · intro hk
    exact closeParen_move ⟨hdiag, hk⟩
  intro _
  apply Move.ite
  · intro h
    simp at h
    exact Is.closeOrReduce_move ⟨hdiag, h.1⟩ (by decide) (by decide) _ _
  intro _
  apply Move.ite
  · intro hk
    exact commaStep_move ⟨hdiag, hk⟩
  intro _
  apply Move.ite
  · intro h
    simp at h
    exact finishRepeat_move ⟨hdiag, h.1⟩
  intro _
  apply Move.ite
  · intro hk
    exact projectStep_move ⟨hdiag, hk⟩
  intro _
  apply Move.ite
  · intro hk
    exact colonStep_move ⟨hdiag, hk⟩
  intro _
  apply Move.ite
  · intro h
    simp at h
    exact sliceRangeStep_move h.2 ⟨hdiag, h.1⟩
  intro _
  apply Move.ite
  · intro h
    simp at h
    exact dotdotStep_move h.2 ⟨hdiag, h.1⟩
  intro _
  apply Move.ite
  · intro hk
    exact closeBrace_move ⟨hdiag, hk⟩
  intro _
  apply Move.ite
  · intro hk
    exact closeBracket_move ⟨hdiag, hk⟩
  intro _
  apply Move.ite
  · intro h
    simp at h
    exact castStep_move h.2 ⟨hdiag, h.1⟩
  intro hcast
  apply Move.ite
  · intro h
    simp at h
    exact constructStep_move h.1.2 ⟨hdiag, h.1.1⟩
  intro _
  apply Move.ite
  · intro h
    simp at h
    split
    · rename_i hprof
      exact shiftNegativeInteger_move h.1 ⟨hdiag, h.2⟩ hprof
    · exact .fail _ _
  intro _
  apply Move.ite
  · intro h
    simp at h
    exact ltOrTypeArgs_move h.2 ⟨hdiag, h.1⟩
  intro _
  apply Move.ite
  · intro hprec
    exact operatorStep_move hdiag hprec
  · intro hprec
    refine closeOrReduce_move _ _ (fun _ => by omega) fun h hexp => ?_
    simp [h.2, hexp] at hcast

theorem exprStepWithoutMatch_move (hrun : st.running = true) (htok : src.token st.cursor = tok) :
    Move src st tok (exprStepWithoutMatch src st tok) := by
  unfold exprStepWithoutMatch
  split
  · rename_i h
    simp at h
    exact .prefixNot h.1.1.1.1.1 h.1.1.1.1.2 ⟨h.1.1.1.2, h.1.1.2, h.1.2, h.2⟩
  · exact exprStepBase_move hrun htok

/-- A step that finishes leaves the operands, and no operator is pending. -/
theorem Move.of_done {st' : ExprState} (h : Move src st tok st') (hok : st'.ok = true) (hdone : st'.done = true) :
    st.operators = [] ∧ st'.operands = st.operands ∧ st'.operators = st.operators ∧ st'.cursor = st.cursor ∧
      st'.expectOperand = st.expectOperand := by
  cases h <;> first
    | exact absurd hok Bool.false_ne_true
    | exact absurd hdone Bool.false_ne_true
    | exact ⟨‹_›, rfl, rfl, rfl, rfl⟩

end MncsCompiler.Decl
