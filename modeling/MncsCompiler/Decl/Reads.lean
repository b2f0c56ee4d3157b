import MncsCompiler.Decl.Pending

/-!
# `Decl.Reads` — the invariant of the expression machine

`Reads` says that the stacks and the cursor of a state stand for a text from a starting cursor. `Move.reads` keeps it
over every move, from a state in which no cast is chained and no list is longer than its reversal (`Sane`), unless the
machine becomes short of operands; `Move.short` says that it stays short.
-/

namespace MncsCompiler.Decl

open BoundedLoop

variable {src : Source} {profile013 : Bool} {start : Nat} {st st' : ExprState} {tok : Token}

/-- The fields of a construction. -/
def fieldCount : Expr → Nat
  | .enumConstruct _ _ _ _ fields _ _ => fields.length
  | .recordConstruct _ _ _ _ fields _ _ => fields.length
  | _ => 0

/-- A state in which the machine does what its comments say: a cast that may not be chained ends the expression, and
    the reversals keep every argument, element and field. -/
structure Sane (src : Source) (st : ExprState) : Prop where
  cast : Is (src.token st.cursor) 36 → st.expectOperand = false → st.allowCast = false → st.depth = 0 →
    st.operators = []
  args : ∀ op ∈ st.operators, op.args.length + (if st.expectOperand then 0 else 1) ≤ 1024
  fields : ∀ e ∈ st.operands, fieldCount e < 1024

/-- The operand above the marks binds tighter than the mark below it. -/
def Above (ops : List Op) (level : Nat) : Prop :=
  ∀ op rest, ops = op :: rest → (op.kind < 1000 → prec op.kind < level) ∧ (op.kind = 1002 → 11 ≤ level)

inductive Reads (src : Source) (profile013 : Bool) (start : Nat) (st : ExprState) : Prop
  | expects (hexp : st.expectOperand = true)
      (h : Pending src profile013 start st.operators st.operands st.cursor) : Reads src profile013 start st
  | behind {e es c level} (hexp : st.expectOperand = false) (hes : st.operands = e :: es)
      (h : Pending src profile013 start st.operators es c)
      (hd : Derives src profile013 (constructFieldNameExpected st.operators) level c e st.cursor)
      (hindex : st.allowIndex = true → Primary src profile013 (constructFieldNameExpected st.operators) c e st.cursor)
      (hcast : st.allowCast = true → Is (src.token st.cursor) 36 →
        Primary src profile013 (constructFieldNameExpected st.operators) c e st.cursor)
      (htok : (src.token st.cursor).diagnostic = 0 → prec (src.token st.cursor).kind ≤ level)
      (hlevel : Above st.operators level) : Reads src profile013 start st

/-- An operand is expected behind a text. -/
theorem Pending.reads {ops : List Op} {es : List Expr} {c depth : Nat} {allowIndex allowCast : Bool}
    (h : Pending src profile013 start ops es c) :
    Reads src profile013 start (st.to c es ops depth true allowIndex allowCast) :=
  .expects rfl h

/-- A primary stands behind a text. -/
theorem Primary.reads {ops : List Op} {es : List Expr} {e : Expr} {c c' depth : Nat} {allowIndex allowCast : Bool}
    (hp : Primary src profile013 (constructFieldNameExpected ops) c e c')
    (h : Pending src profile013 start ops es c) :
    Reads src profile013 start (st.to c' (e :: es) ops depth false allowIndex allowCast) := by
  refine .behind rfl rfl h (.primary (Nat.le_refl 12) hp) (fun _ => hp) (fun _ _ => hp) (fun _ => ?_) ?_
  · have := prec_le_ten (src.token (st.to c' (e :: es) ops depth false allowIndex allowCast).cursor).kind
    omega
  · intro op rest _
    have := prec_le_ten op.kind
    omega

/-! ## Short of operands -/

theorem weight_of_lt {kind : Nat} (h : kind < 1000) : weight kind = 1 := if_pos h

theorem weight_construct {kind : Nat} (h : kind = 1004 ∨ kind = 1005) : weight kind = 1 := by
  rcases h with rfl | rfl
  · rfl
  · rfl

theorem weight_le_one {kind : Nat} (h : kind ≠ 1002 ∧ 1000 < kind ∧ (kind < 1004 ∨ 1008 < kind)) :
    weight kind ≤ 1 := by
  unfold weight
  split
  · exact Nat.le_refl 1
  · split <;> omega

theorem weight_eq_zero {kind : Nat} (h : kind ≠ 1002 ∧ 1000 < kind ∧ (kind < 1004 ∨ 1008 < kind))
    (hcall : kind ≠ 1001) : weight kind = 0 := by
  unfold weight
  rw [if_neg (by omega)]
  split <;> omega

theorem short_to {c depth : Nat} {es : List Expr} {ops : List Op} {expectOperand allowIndex allowCast : Bool} :
    Short (st.to c es ops depth expectOperand allowIndex allowCast) ↔
      es.length < need ops + if expectOperand then 0 else 1 :=
  Iff.rfl

/-- **Once short of operands, always short.** -/
theorem Move.short (h : Move src st tok st') (hok : st'.ok = true) (hs : Short st) : Short st' := by
  cases h with
  | fail => cases hok
  | finish => exact hs
  | reduceNot hops hkind hes =>
      rw [Short, hops, hes] at hs
      simp [short_to, hkind, weight] at hs ⊢
      split at hs <;> omega
  | reduceBinary hops hkind hes =>
      have hw := weight_of_lt hkind
      rw [Short, hops, hes] at hs
      simp [short_to] at hs ⊢
      split at hs <;> omega
  | integer hexp
  | negative hexp
  | boolean hexp
  | name hexp =>
      rw [Short, hexp] at hs
      simp [short_to] at hs ⊢
      omega
  | nameCall hexp
  | prefixNot hexp
  | group hexp
  | sequence hexp =>
      rw [Short, hexp] at hs
      simp [short_to, mark, weight] at hs ⊢
      omega
  | operator hexp _ hprec =>
      have hw := weight_of_lt (lt_of_prec_pos hprec)
      rw [Short, hexp] at hs
      simp [short_to, mark] at hs ⊢
      omega
  | pathCall hexp _ hes
  | genericCall hexp _ hes
  | variantOpen _ hexp hes
  | recordOpen _ hexp hes =>
      rw [Short, hexp, hes] at hs
      simp [short_to, mark, weight] at hs ⊢
      omega
  | project _ hexp _ _ _ hes
  | cast _ hexp _ hes =>
      rw [Short, hexp, hes] at hs
      simp [short_to] at hs ⊢
      omega
  | indexOpen _ hexp
  | baseOpen _ _ _ _ hexp =>
      rw [Short, hexp] at hs
      simp [short_to, mark, weight] at hs ⊢
      omega
  | closeCallEmpty _ hops hkind hexp _ hes
  | closeCall _ hops hkind hexp hes =>
      have hw := weight_le_one hkind
      rw [Short, hops, hexp, hes] at hs
      simp [short_to] at hs ⊢
      omega
  | closeGroup _ hops hkind hexp
  | sliceOpen _ hops hkind hexp
  | closeSequenceOpen _ hops hkind hexp =>
      rw [Short, hops, hexp] at hs
      simp [short_to, hkind, weight] at hs ⊢
      omega
  | commaCall _ hops hkind hexp hes
  | indexClose _ hops hkind hexp hes
  | sliceClose _ hops hkind hexp hes
  | commaSequence _ hops hkind hexp hes
  | closeSequence _ hops hkind hexp hes
  | repeated _ _ hexp hops hkind _ _ _ _ _ hes =>
      rw [Short, hops, hexp, hes] at hs
      simp [short_to, hkind, weight] at hs ⊢
      omega
  | commaBase _ hops hkind hframe _ hexp hes
  | closeBase _ hops hkind hframe _ hexp hes =>
      rw [Short, hops, hexp, hes] at hs
      simp [short_to, hkind, hframe, weight] at hs ⊢
      omega
  | colon _ hops hkind _ hexp hes
  | commaVariant _ hops hkind _ hexp hes
  | commaRecord _ hops hkind _ hexp hes
  | closeVariantOpen _ hops hkind _ hexp hes
  | closeRecordOpen _ hops hkind _ hexp hes
  | closeVariant _ hops hkind _ hexp hes
  | closeRecord _ hops hkind _ hexp hes =>
      have hw := weight_construct hkind
      rw [Short, hops, hexp, hes] at hs
      simp [short_to, mark] at hs ⊢
      omega

/-! ## The moves -/

theorem fieldExpected_of_kind {op : Op} {rest : List Op} (h : op.kind ≠ 1004 ∧ op.kind ≠ 1005) :
    constructFieldNameExpected (op :: rest) = false := by
  simp [constructFieldNameExpected, h.1, h.2]

theorem fieldExpected_of_argc {op : Op} {rest : List Op} (h : op.argc ≠ 0) :
    constructFieldNameExpected (op :: rest) = false := by
  simp [constructFieldNameExpected, h]

theorem fieldExpected_of_open {op : Op} {rest : List Op} (h : op.kind = 1004 ∨ op.kind = 1005) (hargc : op.argc = 0) :
    constructFieldNameExpected (op :: rest) = true := by
  simp [constructFieldNameExpected, h, hargc]

theorem reverseExprs_eq {list : List Expr} (h : list.length ≤ 1024) : reverseExprs list = list.reverse := by
  rw [reverseExprs, reverseWithin_eq, List.take_of_length_le h]

theorem reverseConstructFields_eq {list : List ConstructField} (h : list.length ≤ 1024) :
    reverseConstructFields list = list.reverse := by
  rw [reverseConstructFields, reverseWithin_eq, List.take_of_length_le h]

theorem Reads.of_expects (hr : Reads src profile013 start st) (hexp : st.expectOperand = true) :
    Pending src profile013 start st.operators st.operands st.cursor := by
  cases hr with
  | expects _ h => exact h
  | behind hexp' => exact absurd (hexp.symm.trans hexp') Bool.noConfusion

theorem Reads.of_behind {e : Expr} {es : List Expr} (hr : Reads src profile013 start st)
    (hexp : st.expectOperand = false) (hes : st.operands = e :: es) :
    ∃ c level, Pending src profile013 start st.operators es c ∧
      Derives src profile013 (constructFieldNameExpected st.operators) level c e st.cursor ∧
      (st.allowIndex = true → Primary src profile013 (constructFieldNameExpected st.operators) c e st.cursor) ∧
      (st.allowCast = true → Is (src.token st.cursor) 36 →
        Primary src profile013 (constructFieldNameExpected st.operators) c e st.cursor) ∧
      ((src.token st.cursor).diagnostic = 0 → prec (src.token st.cursor).kind ≤ level) ∧
      Above st.operators level := by
  cases hr with
  | expects hexp' => exact absurd (hexp.symm.trans hexp') Bool.noConfusion
  | behind _ hes' h hd hindex hcast htok hlevel =>
      rw [hes] at hes'
      cases hes'
      exact ⟨_, _, h, hd, hindex, hcast, htok, hlevel⟩

/-- An operand above an open bracket is an item of it. -/
theorem Reads.inside {op : Op} {rest : List Op} {e : Expr} {es : List Expr} (hr : Reads src profile013 start st)
    (hexp : st.expectOperand = false) (hops : st.operators = op :: rest) (hes : st.operands = e :: es)
    (hname : constructFieldNameExpected (op :: rest) = false) :
    ∃ c, Pending src profile013 start (op :: rest) es c ∧ Derives src profile013 false 0 c e st.cursor := by
  obtain ⟨c, level, h, hd, -, -, -, -⟩ := hr.of_behind hexp hes
  rw [hops] at h hd
  rw [hname] at hd
  exact ⟨c, h, hd.mono (Nat.zero_le level)⟩

/-- The value of a field, with the name before it. -/
theorem Reads.inside_field {op : Op} {rest : List Op} {value : Expr} {es : List Expr}
    (hr : Reads src profile013 start st) (hexp : st.expectOperand = false) (hops : st.operators = op :: rest)
    (hes : st.operands = value :: es) (hkind : op.kind = 1004 ∨ op.kind = 1005) (hargc : op.argc = 1) :
    ∃ c, Pending src profile013 start (mark op.kind 0 0 :: rest) es c ∧
      FieldValue src profile013 c (.mk op.nameStart op.nameStop value) st.cursor := by
  obtain ⟨c, h, hd⟩ := hr.inside hexp hops hes (fieldExpected_of_argc (by omega))
  obtain ⟨c₁, c₂, hm, hname, hcolon, rfl⟩ := h.of_field hkind hargc
  exact ⟨c₁, hm, .mk hname hcolon hd⟩

theorem Sane.args_of_expects {op : Op} {rest : List Op} (hsane : Sane src st) (hops : st.operators = op :: rest) :
    op.args.length ≤ 1024 := by
  have := hsane.args op (by rw [hops]; exact List.mem_cons_self)
  omega

theorem Sane.args_of_behind {op : Op} {rest : List Op} (hsane : Sane src st) (hops : st.operators = op :: rest)
    (hexp : st.expectOperand = false) (last : Expr) : (last :: op.args).length ≤ 1024 := by
  have := hsane.args op (by rw [hops]; exact List.mem_cons_self)
  rw [hexp] at this
  exact this

/-- The result of a reduction. No cast waits behind it: the state is sane. -/
theorem Derives.reads {rest : List Op} {es : List Expr} {e : Expr} {c level : Nat} (hsane : Sane src st)
    (hexp : st.expectOperand = false) (hops : st.operators ≠ []) (hred : Reduces st (src.token st.cursor) level)
    (hd : Derives src profile013 (constructFieldNameExpected rest) level c e st.cursor)
    (h : Pending src profile013 start rest es c) (hlevel : Above rest level) :
    Reads src profile013 start (st.to st.cursor (e :: es) rest st.depth false false true) := by
  refine .behind rfl rfl h hd (fun hindex => absurd hindex Bool.false_ne_true) (fun _ has => ?_) hred.1 hlevel
  have hclosed := hred.2 has hexp
  exact absurd (hsane.cast has hexp hclosed.1 hclosed.2) hops

/-- A reduction where an operand is expected leaves the machine short. -/
theorem Reads.short_of_expects {op : Op} {rest : List Op} {es : List Expr} {c depth : Nat}
    {allowIndex allowCast : Bool} (hr : Reads src profile013 start st) (hexp : st.expectOperand = true)
    (hops : st.operators = op :: rest) (hlength : es.length + weight op.kind ≤ st.operands.length) :
    Short (st.to c es rest depth false allowIndex allowCast) := by
  have h := (hr.of_expects hexp).length
  rw [hops, need_cons] at h
  rw [short_to]
  simp
  omega

/-- A call before its first argument. -/
theorem Pending.opens_call {ops : List Op} {es : List Expr} {base : Expr} {c c₁ c₂ s e : Nat} {targs : List TypeArg}
    (h : Pending src profile013 start ops es c)
    (hbase : Primary src profile013 (constructFieldNameExpected ops) c base c₁) (hhead : headSpan base = some (s, e))
    (hopen : CallOpens src c₁ targs c₂) :
    Pending src profile013 start ({ mark 1001 s e with targs := targs } :: ops) (.name s e :: es) c₂ := by
  have hnone : Items src profile013 c₂ (List.reverse []) c₂ := .nil
  exact .call h hbase hhead hopen hnone

/-- A sequence literal before its first element. -/
theorem Pending.opens_sequence {ops : List Op} {es : List Expr} {c : Nat} (h : Pending src profile013 start ops es c)
    (hopen : Is (src.token c) 69) :
    Pending src profile013 start (mark 1009 (src.token c).start (src.token c).stop :: ops) es (src.token c).stop := by
  have hnone : Items src profile013 (src.token c).stop (List.reverse []) (src.token c).stop := .nil
  exact .sequence h hopen hnone

/-- A construction before its first field. -/
theorem Pending.opens_variant {ops : List Op} {es : List Expr} {base : Expr} {c c₁ ts te vs ve s : Nat}
    (h : Pending src profile013 start ops es c)
    (hbase : Primary src profile013 (constructFieldNameExpected ops) c base c₁)
    (hhead : variantHead profile013 base = some (ts, te, vs, ve, s)) (hopen : Is (src.token c₁) 67) :
    Pending src profile013 start (mark 1004 0 0 :: ops) (.enumConstruct ts te vs ve [] s 0 :: es)
      (src.token c₁).stop := by
  have hnone : FieldItems src profile013 (src.token c₁).stop (List.reverse []) (src.token c₁).stop := .nil
  exact .variant h hbase hhead hopen hnone

theorem Pending.opens_record {ops : List Op} {es : List Expr} {base : Expr} {c c₁ s e : Nat}
    (h : Pending src profile013 start ops es c)
    (hbase : Primary src profile013 (constructFieldNameExpected ops) c base c₁)
    (hhead : recordHead profile013 base = some (s, e)) (hopen : Is (src.token c₁) 67) :
    Pending src profile013 start (mark 1005 0 0 :: ops) (.recordConstruct s e (.name 0 0) false [] s 0 :: es)
      (src.token c₁).stop := by
  have hnone : RecordItems src profile013 (src.token c₁).stop (.name 0 0) false (List.reverse []) (src.token c₁).stop :=
    .plain .nil
  exact .record h hbase hhead hopen hnone

theorem Reads.reduceNot {op : Op} {rest : List Op} {value : Expr} {before : List Expr}
    (hr : Reads src profile013 start st) (hsane : Sane src st) (hops : st.operators = op :: rest)
    (hkind : op.kind = 1002) (hes : st.operands = value :: before) (hred : Reduces st (src.token st.cursor) 11)
    {st' : ExprState}
    (hst' : st' = st.to st.cursor (.unaryNot value op.nameStart (exprEnd value) :: before) rest st.depth
      false false true) : Short st' ∨ Reads src profile013 start st' := by
  subst hst'
  cases hexp : st.expectOperand with
  | true =>
      left
      apply hr.short_of_expects hexp hops
      rw [hes, hkind]
      exact Nat.le_refl _
  | false =>
      right
      obtain ⟨c, level, h, hd, -, -, -, hlevel⟩ := hr.of_behind hexp hes
      rw [hops] at h hd hlevel
      obtain ⟨c₁, hp, hprof, hbang, hname, rfl⟩ := h.of_not hkind
      rw [fieldExpected_of_kind (by omega)] at hd
      refine Derives.reads hsane hexp (by rw [hops]; exact List.cons_ne_nil _ _) hred ?_ hp ?_
      · rw [hname]
        exact .unaryNot (Nat.le_refl 11) hprof hbang (hd.mono ((hlevel op rest rfl).2 hkind))
      · intro op' rest' _
        have := prec_le_ten op'.kind
        omega

theorem Reads.reduceBinary {op : Op} {rest : List Op} {r l : Expr} {before : List Expr}
    (hr : Reads src profile013 start st) (hsane : Sane src st) (hops : st.operators = op :: rest)
    (hkind : op.kind < 1000) (hes : st.operands = r :: l :: before)
    (hred : Reduces st (src.token st.cursor) (prec op.kind)) {st' : ExprState}
    (hst' : st' = st.to st.cursor (.binary op.kind l r (exprStart l) (exprEnd r) :: before) rest st.depth
      false false true) : Short st' ∨ Reads src profile013 start st' := by
  subst hst'
  cases hexp : st.expectOperand with
  | true =>
      left
      apply hr.short_of_expects hexp hops
      rw [hes, weight_of_lt hkind]
      exact Nat.le_refl _
  | false =>
      right
      obtain ⟨c, level, h, hd, -, -, -, hlevel⟩ := hr.of_behind hexp hes
      rw [hops] at h hd hlevel
      obtain ⟨l', es', c₁, c₂, hes', hp, hprec, hl, hop, hbelow, rfl⟩ := h.of_binary hkind
      cases hes'
      rw [fieldExpected_of_kind (by omega)] at hd
      refine Derives.reads hsane hexp (by rw [hops]; exact List.cons_ne_nil _ _) hred ?_ hp ?_
      · exact .binary (Nat.le_refl _) hprec hl hop (hd.mono ((hlevel op rest rfl).1 hkind))
      · intro op' rest' hrest
        have := hbelow op' rest' hrest
        exact ⟨this.2, fun h => absurd h this.1⟩

/-- A parenthesis that closes a call without arguments, or leaves a sequence literal short. -/
theorem Reads.closeCallEmpty {op : Op} {rest : List Op} {s e : Nat} {tail : List Expr}
    (hr : Reads src profile013 start st) (htok : Is (src.token st.cursor) 66) (hops : st.operators = op :: rest)
    (hkind : op.kind ≠ 1002 ∧ 1000 < op.kind ∧ (op.kind < 1004 ∨ 1008 < op.kind)) (hexp : st.expectOperand = true)
    (hargc : op.argc = 0) (hes : st.operands = .name s e :: tail)
    (hslot : ¬ (opSlotAt src op.nameStart op.nameStop ≠ 5 ∧ op.targs = [])) {st' : ExprState}
    (hst' : st' = st.to (src.token st.cursor).stop (callNode src op [] (src.token st.cursor).stop :: tail) rest
      (st.depth - 1) false true true) : Short st' ∨ Reads src profile013 start st' := by
  subst hst'
  have h := hr.of_expects hexp
  rw [hops, hes] at h
  by_cases hcall : op.kind = 1001
  · right
    obtain ⟨es', c₁, base, c₂, c₃, hes', hp, hbase, hhead, hopen, hargs, hlen⟩ := h.of_call hcall
    cases hes'
    have hnil : op.args = [] := List.eq_nil_of_length_eq_zero (hlen.symm.trans hargc)
    rw [hnil] at hargs
    obtain rfl := hargs.of_nil
    exact Primary.reads (.call hbase hhead hopen .none htok fun h => absurd h hslot) hp
  · -- a sequence literal closed by a parenthesis
    left
    apply hr.short_of_expects hexp hops
    have hw : weight op.kind = 0 := weight_eq_zero hkind hcall
    rw [hes, hw]
    exact Nat.le_refl _

theorem Reads.closeCall {op : Op} {rest : List Op} {last : Expr} {s e : Nat} {tail : List Expr}
    (hr : Reads src profile013 start st) (hsane : Sane src st) (htok : Is (src.token st.cursor) 66)
    (hops : st.operators = op :: rest)
    (hkind : op.kind ≠ 1002 ∧ 1000 < op.kind ∧ (op.kind < 1004 ∨ 1008 < op.kind)) (hexp : st.expectOperand = false)
    (hes : st.operands = last :: .name s e :: tail)
    (hslot : opSlotAt src op.nameStart op.nameStop ≠ 5 ∧ op.targs = [] →
      op.argc + 1 = opArity (opSlotAt src op.nameStart op.nameStop)) {st' : ExprState}
    (hst' : st' = st.to (src.token st.cursor).stop
      (callNode src op (reverseExprs (last :: op.args)) (src.token st.cursor).stop :: tail) rest (st.depth - 1)
      false true true) : Short st' ∨ Reads src profile013 start st' := by
  subst hst'
  obtain ⟨c, h, hd⟩ := hr.inside hexp hops hes (fieldExpected_of_kind (by omega))
  by_cases hcall : op.kind = 1001
  · right
    obtain ⟨es', c₁, base, c₂, c₃, hes', hp, hbase, hhead, hopen, hargs, hlen⟩ := h.of_call hcall
    cases hes'
    rw [reverseExprs_eq (hsane.args_of_behind hops hexp last), List.reverse_cons]
    refine Primary.reads (.call hbase hhead hopen (.some hargs hd) htok fun hop => ?_) hp
    rw [← hslot hop, hlen, List.length_append, List.length_reverse]
    rfl
  · -- a sequence literal closed by a parenthesis
    left
    have hlen := h.length
    have hw : weight op.kind = 0 := weight_eq_zero hkind hcall
    rw [short_to]
    simp [hw] at hlen ⊢
    omega

/-- **A move keeps the reading**, or leaves the machine short of operands. -/
theorem Move.reads (h : Move src st tok st') (htok : src.token st.cursor = tok)
    (hprof : st.profile013 = profile013) (hsane : Sane src st) (hok : st'.ok = true)
    (hr : Reads src profile013 start st) : Short st' ∨ Reads src profile013 start st' := by
  subst htok hprof
  cases h with
  | fail => cases hok
  | finish =>
      right
      cases hr with
      | expects hexp h => exact .expects hexp h
      | behind hexp hes h hd hindex hcast htok hlevel => exact .behind hexp hes h hd hindex hcast htok hlevel
  | reduceNot hops hkind hes hred => exact hr.reduceNot hsane hops hkind hes hred rfl
  | reduceBinary hops hkind hes hred => exact hr.reduceBinary hsane hops hkind hes hred rfl
  -- operands
  | integer hexp htok => exact .inr (Primary.reads (.integer htok) (hr.of_expects hexp))
  | negative hexp htok hprof hlit hkind =>
      exact .inr (Primary.reads (.negative hprof htok hlit hkind) (hr.of_expects hexp))
  | boolean hexp htok => exact .inr (Primary.reads (.boolean htok) (hr.of_expects hexp))
  | name hexp htok => exact .inr (Primary.reads (.name htok) (hr.of_expects hexp))
  | nameCall hexp htok hafter hkind =>
      subst hafter
      exact .inr (Pending.reads (.opens_call (hr.of_expects hexp) (.name htok) rfl (.plain hkind)))
  -- openers
  | prefixNot hexp hprof htok => exact .inr (Pending.reads (.prefixNot (hr.of_expects hexp) hprof htok))
  | group hexp htok => exact .inr (Pending.reads (.group (hr.of_expects hexp) htok))
  | sequence hexp htok => exact .inr (Pending.reads (.opens_sequence (hr.of_expects hexp) htok))
  | operator hexp htok hprec htop =>
      right
      cases hr with
      | expects hexp' => exact absurd (hexp.symm.trans hexp') Bool.noConfusion
      | behind _ hes h hd _ _ hle _ =>
          rw [hes]
          exact Pending.reads (.operator h hprec (hd.mono (hle htok)) ⟨htok, rfl⟩ htop)
  -- calls and groups
  | pathCall hexp htok hes hhead =>
      obtain ⟨c, level, h, hd, -, -, -, -⟩ := hr.of_behind hexp hes
      exact .inr (Pending.reads (.opens_call h (hd.tight (tight_of_headSpan hhead)) hhead (.plain htok)))
  | genericCall hexp htok hes hhead hargs hok' hopen hkind =>
      subst hopen
      obtain ⟨c, level, h, hd, -, -, -, -⟩ := hr.of_behind hexp hes
      exact .inr (Pending.reads
        (.opens_call h (hd.tight (tight_of_headSpan hhead)) hhead (.generic htok hargs hok' hkind)))
  | @closeGroup op rest htok hops hkind hexp =>
      right
      cases hr with
      | expects hexp' => exact absurd (hexp.symm.trans hexp') Bool.noConfusion
      | behind _ hes h hd =>
          rw [hops] at h hd
          obtain ⟨c₁, hp, hopen, rfl⟩ := h.of_group hkind
          rw [fieldExpected_of_kind (by omega)] at hd
          rw [hes]
          exact Primary.reads (.group hopen (hd.mono (Nat.zero_le _)) htok) hp
  | closeCallEmpty htok hops hkind hexp hargc hes hslot =>
      exact hr.closeCallEmpty htok hops hkind hexp hargc hes hslot rfl
  | closeCall htok hops hkind hexp hes hslot => exact hr.closeCall hsane htok hops hkind hexp hes hslot rfl
  | @commaCall op rest arg before htok hops hkind hexp hes =>
      right
      obtain ⟨c, h, hd⟩ := hr.inside hexp hops hes (fieldExpected_of_kind (by omega))
      obtain ⟨es', c₁, base, c₂, c₃, rfl, hp, hbase, hhead, hopen, hargs, hlen⟩ := h.of_call hkind
      have hitems := Items.snoc hargs hd htok
      rw [← List.reverse_cons] at hitems
      have hcall := Pending.call hp hbase hhead hopen hitems
      rw [List.length_cons, ← hlen] at hcall
      exact Pending.reads (hkind ▸ hcall)
  -- projections, indices, slices and casts
  | project htok hexp hallow hfield hkind hes =>
      obtain ⟨c, level, h, -, hindex, -, -, -⟩ := hr.of_behind hexp hes
      exact .inr (Primary.reads (.project (hindex hallow) htok hfield hkind) h)
  | @indexOpen base before htok hexp hallow hes =>
      obtain ⟨c, level, h, -, hindex, -, -, -⟩ := hr.of_behind hexp hes
      rw [hes]
      exact .inr (Pending.reads (.index h (hindex hallow) htok))
  | @indexClose op rest i base before htok hops hkind hexp hes =>
      right
      obtain ⟨c, h, hd⟩ := hr.inside hexp hops hes (fieldExpected_of_kind (by omega))
      obtain ⟨base', es', c₁, c₂, hes', hp, hbase, hopen, -, rfl⟩ := h.of_index hkind
      cases hes'
      exact Primary.reads (.index hbase hopen hd htok) hp
  | @sliceOpen op rest htok hops hkind hexp =>
      right
      cases hr with
      | expects hexp' => exact absurd (hexp.symm.trans hexp') Bool.noConfusion
      | behind _ hes h hd =>
          rw [hops] at h hd
          obtain ⟨base, es', c₁, c₂, rfl, hp, hbase, hopen, rfl, rfl⟩ := h.of_index hkind
          rw [fieldExpected_of_kind (by omega)] at hd
          rw [hes]
          exact Pending.reads (.slice hp hbase hopen (hd.mono (Nat.zero_le _)) htok)
  | @sliceClose op rest upper lower base before htok hops hkind hexp hes =>
      right
      obtain ⟨c, h, hd⟩ := hr.inside hexp hops hes (fieldExpected_of_kind (by omega))
      obtain ⟨lower', base', es', c₁, c₂, c₃, hes', hp, hbase, hopen, hlower, hdots, rfl⟩ := h.of_slice hkind
      cases hes'
      exact Primary.reads (.slice hbase hopen hlower hdots hd htok) hp
  | cast htok hexp hallow hes htarget hok' =>
      obtain ⟨c, level, h, -, -, hcast, -, -⟩ := hr.of_behind hexp hes
      exact .inr (Primary.reads (.cast (hcast hallow htok) htok htarget hok') h)
  -- sequence literals
  | @repeated op rest count close element before htok hprof hexp hops hkind hargs hcount hckind hclose hclosed hes =>
      right
      obtain ⟨c, h, hd⟩ := hr.inside hexp hops hes (fieldExpected_of_kind (by omega))
      obtain ⟨c₁, hp, hopen, hitems, hop⟩ := h.of_sequence hkind
      rw [hargs] at hitems
      obtain rfl := hitems.of_nil
      have hname : op.nameStart = (src.token c₁).start := by
        rw [hop]
        rfl
      rw [hname]
      exact Primary.reads (.repeated hprof hopen hd htok hcount hckind hclose hclosed) hp
  | @commaSequence op rest item before htok hops hkind hexp hes =>
      right
      obtain ⟨c, h, hd⟩ := hr.inside hexp hops hes (fieldExpected_of_kind (by omega))
      obtain ⟨c₁, hp, hopen, hitems, hop⟩ := h.of_sequence hkind
      have hitems' := Items.snoc hitems hd htok
      rw [← List.reverse_cons] at hitems'
      have hmark : { op with argc := op.argc + 1, args := item :: op.args } =
          { mark 1009 (src.token c₁).start (src.token c₁).stop with
            argc := (item :: op.args).length, args := item :: op.args } := by
        rw [hop]
        rfl
      rw [hmark]
      exact Pending.reads (.sequence hp hopen hitems')
  | @closeSequenceOpen op rest htok hops hkind hexp hargs =>
      right
      have h := hr.of_expects hexp
      rw [hops] at h
      obtain ⟨c₁, hp, hopen, hitems, hop⟩ := h.of_sequence hkind
      have hname : op.nameStart = (src.token c₁).start := by
        rw [hop]
        rfl
      rw [reverseExprs_eq (hsane.args_of_expects hops), hname]
      exact Primary.reads (.sequence hopen (.trailing hitems) htok) hp
  | @closeSequence op rest last before htok hops hkind hexp hes =>
      right
      obtain ⟨c, h, hd⟩ := hr.inside hexp hops hes (fieldExpected_of_kind (by omega))
      obtain ⟨c₁, hp, hopen, hitems, hop⟩ := h.of_sequence hkind
      have hname : op.nameStart = (src.token c₁).start := by
        rw [hop]
        rfl
      rw [reverseExprs_eq (hsane.args_of_behind hops hexp last), List.reverse_cons, hname]
      exact Primary.reads (.sequence hopen (.plain hitems hd) htok) hp
  -- variants and records
  | variantOpen htok hexp hes hhead =>
      obtain ⟨c, level, h, hd, -, -, -, -⟩ := hr.of_behind hexp hes
      exact .inr (Pending.reads (.opens_variant h (hd.tight (tight_of_variantHead hhead)) hhead htok))
  | recordOpen htok hexp hes hhead =>
      obtain ⟨c, level, h, hd, -, -, -, -⟩ := hr.of_behind hexp hes
      exact .inr (Pending.reads (.opens_record h (hd.tight (tight_of_recordHead hhead)) hhead htok))
  | @colon op rest s e before htok hops hkind hargc hexp hes =>
      right
      obtain ⟨c, level, h, hd, -, -, -, -⟩ := hr.of_behind hexp hes
      rw [hops] at h hd
      rw [fieldExpected_of_open hkind hargc] at hd
      have hop := h.mark_of_open hkind hargc
      rw [hop] at h
      exact Pending.reads (.field h hkind (hd.tight trivial) htok)
  | @commaVariant op rest value ts te vs ve f s x before htok hops hkind hargc hexp hes =>
      right
      obtain ⟨c, hm, hfield⟩ := hr.inside_field hexp hops hes hkind hargc
      obtain ⟨c₃, base, c₄, hop, hp, hbase, hhead, hopen, hitems⟩ := hm.of_variant hkind rfl
      have hitems' := FieldItems.snoc hitems hfield htok
      rw [← List.reverse_cons] at hitems'
      rw [hop]
      exact Pending.reads (.variant hp hbase hhead hopen hitems')
  | @commaRecord op rest value ts te b hb f s x before htok hops hkind hargc hexp hes =>
      right
      obtain ⟨c, hm, hfield⟩ := hr.inside_field hexp hops hes hkind hargc
      obtain ⟨c₃, base, c₄, hop, rfl, -, hp, hbase, hhead, hopen, hitems⟩ := hm.of_record hkind rfl
      have hitems' := hitems.snoc hfield htok
      rw [← List.reverse_cons] at hitems'
      rw [hop]
      exact Pending.reads (.record hp hbase hhead hopen hitems')
  | @baseOpen op rest ts te b s x before htok hops hkind hargc hexp hes =>
      right
      have h := hr.of_expects hexp
      rw [hops, hes] at h ⊢
      obtain ⟨c₁, base, c₂, rfl, rfl, rfl, -, -, -, -, hitems⟩ := h.of_record (.inr hkind) hargc
      cases hitems with
      | plain => exact Pending.reads (.base h htok)
  | @commaBase op frame rest base ts te b hb f s x before htok hops hkind hframe hargc hexp hes =>
      right
      obtain ⟨c, h, hd⟩ := hr.inside hexp hops hes (fieldExpected_of_kind (by omega))
      obtain ⟨rest', s', e', es', c₁, hrest, hes', hm, hdots, rfl⟩ := h.of_base hkind
      cases hrest
      cases hes'
      obtain ⟨c₂, head, c₃, -, -, -, hp, hbase, hhead, hopen, hitems⟩ := hm.of_record (.inr rfl) rfl
      cases hitems with
      | plain hfields =>
          obtain rfl := hfields.of_nil
          have hnone : RecordItems src st.profile013 (src.token c₃).stop base true (List.reverse [])
              (src.token st.cursor).stop := .update hdots hd htok .nil
          exact Pending.reads (.record hp hbase hhead hopen hnone)
  | @closeBase op frame rest base ts te b hb f s x before htok hops hkind hframe hargc hexp hes =>
      right
      obtain ⟨c, h, hd⟩ := hr.inside hexp hops hes (fieldExpected_of_kind (by omega))
      obtain ⟨rest', s', e', es', c₁, hrest, hes', hm, hdots, rfl⟩ := h.of_base hkind
      cases hrest
      cases hes'
      obtain ⟨c₂, head, c₃, -, -, -, hp, hbase, hhead, hopen, hitems⟩ := hm.of_record (.inr rfl) rfl
      cases hitems with
      | plain hfields =>
          obtain rfl := hfields.of_nil
          rw [reverseConstructFields_eq (Nat.zero_le _)]
          exact Primary.reads (.record hbase hhead hopen (.copy hdots hd) htok) hp
  | @closeVariantOpen op rest ts te vs ve f s x before htok hops hkind hargc hexp hes =>
      right
      have h := hr.of_expects hexp
      rw [hops, hes] at h
      obtain ⟨c₁, base, c₂, -, hp, hbase, hhead, hopen, hitems⟩ := h.of_variant hkind hargc
      have hfits : f.length < 1024 :=
        hsane.fields (.enumConstruct ts te vs ve f s x) (by rw [hes]; exact List.mem_cons_self)
      rw [reverseConstructFields_eq (Nat.le_of_lt hfits)]
      exact Primary.reads (.variant hbase hhead hopen (.trailing hitems) htok) hp
  | @closeRecordOpen op rest ts te b hb f s x before htok hops hkind hargc hexp hes =>
      right
      have h := hr.of_expects hexp
      rw [hops, hes] at h
      have hfits : f.length < 1024 :=
        hsane.fields (.recordConstruct ts te b hb f s x) (by rw [hes]; exact List.mem_cons_self)
      obtain ⟨c₁, base, c₂, -, rfl, -, hp, hbase, hhead, hopen, hitems⟩ := h.of_record hkind hargc
      rw [reverseConstructFields_eq (Nat.le_of_lt hfits)]
      exact Primary.reads (.record hbase hhead hopen hitems.body htok) hp
  | @closeVariant op rest value ts te vs ve f s x before htok hops hkind hargc hexp hes =>
      right
      obtain ⟨c, hm, hfield⟩ := hr.inside_field hexp hops hes hkind hargc
      obtain ⟨c₃, base, c₄, -, hp, hbase, hhead, hopen, hitems⟩ := hm.of_variant hkind rfl
      have hfits : f.length < 1024 :=
        hsane.fields (.enumConstruct ts te vs ve f s x) (by rw [hes]; exact List.mem_cons_of_mem _ List.mem_cons_self)
      rw [reverseConstructFields_eq (by exact hfits), List.reverse_cons]
      exact Primary.reads (.variant hbase hhead hopen (.plain hitems hfield) htok) hp
  | @closeRecord op rest value ts te b hb f s x before htok hops hkind hargc hexp hes =>
      right
      obtain ⟨c, hm, hfield⟩ := hr.inside_field hexp hops hes hkind hargc
      have hfits : f.length < 1024 :=
        hsane.fields (.recordConstruct ts te b hb f s x) (by rw [hes]; exact List.mem_cons_of_mem _ List.mem_cons_self)
      obtain ⟨c₃, base, c₄, -, rfl, -, hp, hbase, hhead, hopen, hitems⟩ := hm.of_record hkind rfl
      rw [reverseConstructFields_eq (by exact hfits), List.reverse_cons]
      exact Primary.reads (.record hbase hhead hopen (hitems.body_last hfield) htok) hp

end MncsCompiler.Decl
