import Mathlib.Algebra.GroupWithZero.Nat
import MncsCompiler.Decl.Grammar

/-!
# `Decl.Pending` — what the stacks of the expression machine stand for

`Pending` reads the two stacks back as the text before the operand that is expected next: every operator with its left
operand, every open bracket with what was read in it. A run from a cursor keeps `Reads`: the stacks are such a text and
the operand above them has been derived.

A closing token reduces also where an operand is still expected, and takes operands of an outer bracket for it. The
machine is then `Short` of operands, stays so to its end, and never accepts.
-/

namespace MncsCompiler.Decl

open BoundedLoop

variable {src : Source} {profile013 : Bool}

/-! ## Counting operands -/

/-- The operands that a mark of a kind keeps on the stack. -/
def weight (kind : Nat) : Nat :=
  if kind < 1000 then 1
  else
    match kind with
    | 1001 => 1
    | 1004 => 1
    | 1005 => 1
    | 1007 => 1
    | 1008 => 2
    | _ => 0

def need (ops : List Op) : Nat := (ops.map fun op => weight op.kind).sum

/-- Operands are missing. -/
def Short (st : ExprState) : Prop :=
  st.operands.length < need st.operators + if st.expectOperand then 0 else 1

@[simp] theorem need_nil : need [] = 0 := rfl

@[simp] theorem need_cons (op : Op) (ops : List Op) : need (op :: ops) = weight op.kind + need ops := by
  simp [need]

/-! ## The stacks as a text -/

/-- A binary operator or `!` on top binds looser than an operator of a level. -/
def Below (ops : List Op) (level : Nat) : Prop :=
  ∀ op rest, ops = op :: rest → op.kind ≠ 1002 ∧ (op.kind < 1000 → prec op.kind < level)

theorem Items.of_nil {c c' : Nat} (h : Items src profile013 c [] c') : c' = c := by
  generalize hitems : ([] : List Expr) = items at h
  cases h with
  | nil => rfl
  | snoc => simp at hitems

theorem FieldItems.of_nil {c c' : Nat} (h : FieldItems src profile013 c [] c') : c' = c := by
  generalize hitems : ([] : List ConstructField) = items at h
  cases h with
  | nil => rfl
  | snoc => simp at hitems

/-- The inside of a record literal with a comma behind each of its parts. -/
inductive RecordItems (src : Source) (profile013 : Bool) : Nat → Expr → Bool → List ConstructField → Nat → Prop
  | plain {c fields c₁} (hfields : FieldItems src profile013 c fields c₁) :
      RecordItems src profile013 c (.name 0 0) false fields c₁
  | update {c base c₁ fields c₂} (hdots : Is (src.token c) 90)
      (hbase : Derives src profile013 false 0 (src.token c).stop base c₁) (hcomma : Is (src.token c₁) 64)
      (hfields : FieldItems src profile013 (src.token c₁).stop fields c₂) :
      RecordItems src profile013 c base true fields c₂

theorem RecordItems.snoc {c c₁ c₂ : Nat} {old : Expr} {updates : Bool} {fields : List ConstructField}
    {x : ConstructField} (h : RecordItems src profile013 c old updates fields c₁) (hx : FieldValue src profile013 c₁ x c₂)
    (hcomma : Is (src.token c₂) 64) :
    RecordItems src profile013 c old updates (fields ++ [x]) (src.token c₂).stop := by
  cases h with
  | plain hfields => exact .plain (.snoc hfields hx hcomma)
  | update hdots hbase hcomma' hfields => exact .update hdots hbase hcomma' (.snoc hfields hx hcomma)

theorem RecordItems.body {c c₁ : Nat} {old : Expr} {updates : Bool} {fields : List ConstructField}
    (h : RecordItems src profile013 c old updates fields c₁) :
    RecordBody src profile013 c old updates fields c₁ := by
  cases h with
  | plain hfields => exact .plain (.trailing hfields)
  | update hdots hbase hcomma hfields => exact .update hdots hbase hcomma (.trailing hfields)

theorem RecordItems.body_last {c c₁ c₂ : Nat} {old : Expr} {updates : Bool} {fields : List ConstructField}
    {x : ConstructField} (h : RecordItems src profile013 c old updates fields c₁)
    (hx : FieldValue src profile013 c₁ x c₂) : RecordBody src profile013 c old updates (fields ++ [x]) c₂ := by
  cases h with
  | plain hfields => exact .plain (.plain hfields hx)
  | update hdots hbase hcomma hfields => exact .update hdots hbase hcomma (.plain hfields hx)

/-- The text before an operand, from the cursor where the expression starts. -/
inductive Pending (src : Source) (profile013 : Bool) (start : Nat) : List Op → List Expr → Nat → Prop
  | start : Pending src profile013 start [] [] start
  | prefixNot {ops es c} (h : Pending src profile013 start ops es c) (hprof : profile013 = true)
      (hbang : IsBang src (src.token c)) :
      Pending src profile013 start (mark 1002 (src.token c).start (src.token c).stop :: ops) es (src.token c).stop
  | operator {ops es c l c₁ k} (h : Pending src profile013 start ops es c) (hprec : 0 < prec k)
      (hl : Derives src profile013 (constructFieldNameExpected ops) (prec k) c l c₁) (hop : Is (src.token c₁) k)
      (hbelow : Below ops (prec k)) :
      Pending src profile013 start (mark k 0 0 :: ops) (l :: es) (src.token c₁).stop
  | group {ops es c} (h : Pending src profile013 start ops es c) (hopen : Is (src.token c) 65) :
      Pending src profile013 start (mark 1000 0 0 :: ops) es (src.token c).stop
  | call {ops es c base c₁ s e targs c₂ args c₃} (h : Pending src profile013 start ops es c)
      (hbase : Primary src profile013 (constructFieldNameExpected ops) c base c₁)
      (hhead : headSpan base = some (s, e)) (hopen : CallOpens src c₁ targs c₂)
      (hargs : Items src profile013 c₂ (List.reverse args) c₃) :
      Pending src profile013 start
        ({ mark 1001 s e with targs := targs, argc := args.length, args := args } :: ops) (.name s e :: es) c₃
  | index {ops es c base c₁} (h : Pending src profile013 start ops es c)
      (hbase : Primary src profile013 (constructFieldNameExpected ops) c base c₁) (hopen : Is (src.token c₁) 69) :
      Pending src profile013 start (mark 1007 (src.token c₁).start (src.token c₁).stop :: ops) (base :: es)
        (src.token c₁).stop
  | slice {ops es c base c₁ lower c₂} (h : Pending src profile013 start ops es c)
      (hbase : Primary src profile013 (constructFieldNameExpected ops) c base c₁) (hopen : Is (src.token c₁) 69)
      (hlower : Derives src profile013 false 0 (src.token c₁).stop lower c₂) (hdots : Is (src.token c₂) 90) :
      Pending src profile013 start (mark 1008 (src.token c₁).start (src.token c₁).stop :: ops)
        (lower :: base :: es) (src.token c₂).stop
  | sequence {ops es c args c₁} (h : Pending src profile013 start ops es c) (hopen : Is (src.token c) 69)
      (hargs : Items src profile013 (src.token c).stop (List.reverse args) c₁) :
      Pending src profile013 start
        ({ mark 1009 (src.token c).start (src.token c).stop with argc := args.length, args := args } :: ops) es c₁
  | variant {ops es c base c₁ ts te vs ve s fields c₂} (h : Pending src profile013 start ops es c)
      (hbase : Primary src profile013 (constructFieldNameExpected ops) c base c₁)
      (hhead : variantHead profile013 base = some (ts, te, vs, ve, s)) (hopen : Is (src.token c₁) 67)
      (hfields : FieldItems src profile013 (src.token c₁).stop (List.reverse fields) c₂) :
      Pending src profile013 start (mark 1004 0 0 :: ops) (.enumConstruct ts te vs ve fields s 0 :: es) c₂
  | record {ops es c base c₁ s e old updates fields c₂} (h : Pending src profile013 start ops es c)
      (hbase : Primary src profile013 (constructFieldNameExpected ops) c base c₁)
      (hhead : recordHead profile013 base = some (s, e)) (hopen : Is (src.token c₁) 67)
      (hbody : RecordItems src profile013 (src.token c₁).stop old updates (List.reverse fields) c₂) :
      Pending src profile013 start (mark 1005 0 0 :: ops) (.recordConstruct s e old updates fields s 0 :: es) c₂
  | field {ops es c kind s e c₁} (h : Pending src profile013 start (mark kind 0 0 :: ops) es c)
      (hkind : kind = 1004 ∨ kind = 1005) (hname : Primary src profile013 true c (.name s e) c₁)
      (hcolon : Is (src.token c₁) 62) :
      Pending src profile013 start ({ mark kind s e with argc := 1 } :: ops) es (src.token c₁).stop
  | base {ops s e es c} (h : Pending src profile013 start (mark 1005 0 0 :: ops)
        (.recordConstruct s e (.name 0 0) false [] s 0 :: es) c) (hdots : Is (src.token c) 90) :
      Pending src profile013 start (mark 1006 0 0 :: mark 1005 0 0 :: ops)
        (.recordConstruct s e (.name 0 0) false [] s 0 :: es) (src.token c).stop

variable {start c : Nat} {op : Op} {ops rest : List Op} {es : List Expr}

theorem lt_of_prec_pos {kind : Nat} (h : 0 < prec kind) : kind < 1000 := by
  by_contra hnot
  have hzero : prec kind = 0 := by
    unfold prec
    split <;> first
      | rfl
      | omega
  omega

/-- Every operand on the stack is kept by a mark. -/
theorem Pending.length (h : Pending src profile013 start ops es c) : es.length = need ops := by
  induction h with
  | start => rfl
  | prefixNot _ _ _ ih => simpa [weight, mark] using ih
  | operator _ hprec _ _ _ ih =>
      simp [weight, mark, lt_of_prec_pos hprec, ih]
      omega
  | group _ _ ih => simpa [weight, mark] using ih
  | call _ _ _ _ _ ih =>
      simp [weight, mark, ih]
      omega
  | index _ _ _ ih =>
      simp [weight, mark, ih]
      omega
  | slice _ _ _ _ _ ih =>
      simp [weight, mark, ih]
      omega
  | sequence _ _ _ ih => simpa [weight, mark] using ih
  | variant _ _ _ _ _ ih =>
      simp [weight, mark, ih]
      omega
  | record _ _ _ _ _ ih =>
      simp [weight, mark, ih]
      omega
  | field _ hkind _ _ ih =>
      rcases hkind with rfl | rfl
      · simpa [weight, mark] using ih
      · simpa [weight, mark] using ih
  | base _ _ ih => simpa [weight, mark] using ih

/-! ## What stands under a mark -/

theorem Pending.of_not (h : Pending src profile013 start (op :: rest) es c) (hk : op.kind = 1002) :
    ∃ c₁, Pending src profile013 start rest es c₁ ∧ profile013 = true ∧ IsBang src (src.token c₁) ∧
      op.nameStart = (src.token c₁).start ∧ c = (src.token c₁).stop := by
  cases h with
  | prefixNot h hprof hbang => exact ⟨_, h, hprof, hbang, rfl, rfl⟩
  | operator _ hprec => exact absurd (lt_of_prec_pos hprec) (by simp [mark] at hk; omega)
  | field _ hkind => exact absurd hk (by simp [mark]; omega)
  | _ => simp [mark] at hk

theorem Pending.of_binary (h : Pending src profile013 start (op :: rest) es c) (hk : op.kind < 1000) :
    ∃ l es' c₁ c₂, es = l :: es' ∧ Pending src profile013 start rest es' c₁ ∧ 0 < prec op.kind ∧
      Derives src profile013 (constructFieldNameExpected rest) (prec op.kind) c₁ l c₂ ∧
      Is (src.token c₂) op.kind ∧ Below rest (prec op.kind) ∧ c = (src.token c₂).stop := by
  cases h with
  | operator h hprec hl hop hbelow => exact ⟨_, _, _, _, rfl, h, hprec, hl, hop, hbelow, rfl⟩
  | field _ hkind => exact absurd hk (by simp [mark]; omega)
  | _ => simp [mark] at hk

theorem Pending.of_group (h : Pending src profile013 start (op :: rest) es c) (hk : op.kind = 1000) :
    ∃ c₁, Pending src profile013 start rest es c₁ ∧ Is (src.token c₁) 65 ∧ c = (src.token c₁).stop := by
  cases h with
  | group h hopen => exact ⟨_, h, hopen, rfl⟩
  | operator _ hprec => exact absurd (lt_of_prec_pos hprec) (by simp [mark] at hk; omega)
  | field _ hkind => exact absurd hk (by simp [mark]; omega)
  | _ => simp [mark] at hk

theorem Pending.of_call (h : Pending src profile013 start (op :: rest) es c) (hk : op.kind = 1001) :
    ∃ es' c₁ base c₂ c₃, es = .name op.nameStart op.nameStop :: es' ∧ Pending src profile013 start rest es' c₁ ∧
      Primary src profile013 (constructFieldNameExpected rest) c₁ base c₂ ∧
      headSpan base = some (op.nameStart, op.nameStop) ∧ CallOpens src c₂ op.targs c₃ ∧
      Items src profile013 c₃ op.args.reverse c ∧ op.argc = op.args.length := by
  cases h with
  | call h hbase hhead hopen hargs => exact ⟨_, _, _, _, _, rfl, h, hbase, hhead, hopen, hargs, rfl⟩
  | operator _ hprec => exact absurd (lt_of_prec_pos hprec) (by simp [mark] at hk; omega)
  | field _ hkind => exact absurd hk (by simp [mark]; omega)
  | _ => simp [mark] at hk

theorem Pending.of_index (h : Pending src profile013 start (op :: rest) es c) (hk : op.kind = 1007) :
    ∃ base es' c₁ c₂, es = base :: es' ∧ Pending src profile013 start rest es' c₁ ∧
      Primary src profile013 (constructFieldNameExpected rest) c₁ base c₂ ∧ Is (src.token c₂) 69 ∧
      op = mark 1007 (src.token c₂).start (src.token c₂).stop ∧ c = (src.token c₂).stop := by
  cases h with
  | index h hbase hopen => exact ⟨_, _, _, _, rfl, h, hbase, hopen, rfl, rfl⟩
  | operator _ hprec => exact absurd (lt_of_prec_pos hprec) (by simp [mark] at hk; omega)
  | field _ hkind => exact absurd hk (by simp [mark]; omega)
  | _ => simp [mark] at hk

theorem Pending.of_slice (h : Pending src profile013 start (op :: rest) es c) (hk : op.kind = 1008) :
    ∃ lower base es' c₁ c₂ c₃, es = lower :: base :: es' ∧ Pending src profile013 start rest es' c₁ ∧
      Primary src profile013 (constructFieldNameExpected rest) c₁ base c₂ ∧ Is (src.token c₂) 69 ∧
      Derives src profile013 false 0 (src.token c₂).stop lower c₃ ∧ Is (src.token c₃) 90 ∧
      c = (src.token c₃).stop := by
  cases h with
  | slice h hbase hopen hlower hdots => exact ⟨_, _, _, _, _, _, rfl, h, hbase, hopen, hlower, hdots, rfl⟩
  | operator _ hprec => exact absurd (lt_of_prec_pos hprec) (by simp [mark] at hk; omega)
  | field _ hkind => exact absurd hk (by simp [mark]; omega)
  | _ => simp [mark] at hk

theorem Pending.of_sequence (h : Pending src profile013 start (op :: rest) es c) (hk : op.kind = 1009) :
    ∃ c₁, Pending src profile013 start rest es c₁ ∧ Is (src.token c₁) 69 ∧
      Items src profile013 (src.token c₁).stop op.args.reverse c ∧
      op = { mark 1009 (src.token c₁).start (src.token c₁).stop with argc := op.args.length, args := op.args } := by
  cases h with
  | sequence h hopen hargs => exact ⟨_, h, hopen, hargs, rfl⟩
  | operator _ hprec => exact absurd (lt_of_prec_pos hprec) (by simp [mark] at hk; omega)
  | field _ hkind => exact absurd hk (by simp [mark]; omega)
  | _ => simp [mark] at hk

/-- A mark between two fields. -/
theorem Pending.mark_of_open (h : Pending src profile013 start (op :: rest) es c)
    (hk : op.kind = 1004 ∨ op.kind = 1005) (hargc : op.argc = 0) : op = mark op.kind 0 0 := by
  cases h with
  | variant => rfl
  | record => rfl
  | operator => rfl
  | field => simp at hargc
  | _ => simp [mark] at hk

theorem Pending.of_variant {ts te vs ve s x : Nat} {fields : List ConstructField}
    (h : Pending src profile013 start (op :: rest) (.enumConstruct ts te vs ve fields s x :: es) c)
    (hk : op.kind = 1004 ∨ op.kind = 1005) (hargc : op.argc = 0) :
    ∃ c₁ base c₂, op = mark 1004 0 0 ∧ Pending src profile013 start rest es c₁ ∧
      Primary src profile013 (constructFieldNameExpected rest) c₁ base c₂ ∧
      variantHead profile013 base = some (ts, te, vs, ve, s) ∧ Is (src.token c₂) 67 ∧
      FieldItems src profile013 (src.token c₂).stop fields.reverse c := by
  cases h with
  | variant h hbase hhead hopen hfields => exact ⟨_, _, _, rfl, h, hbase, hhead, hopen, hfields⟩
  | operator _ hprec => exact absurd (lt_of_prec_pos hprec) (by simp [mark] at hk; omega)
  | field => simp at hargc
  | _ => simp [mark] at hk

theorem Pending.of_record {s e t x : Nat} {old : Expr} {updates : Bool} {fields : List ConstructField}
    (h : Pending src profile013 start (op :: rest) (.recordConstruct s e old updates fields t x :: es) c)
    (hk : op.kind = 1004 ∨ op.kind = 1005) (hargc : op.argc = 0) :
    ∃ c₁ base c₂, op = mark 1005 0 0 ∧ t = s ∧ x = 0 ∧ Pending src profile013 start rest es c₁ ∧
      Primary src profile013 (constructFieldNameExpected rest) c₁ base c₂ ∧
      recordHead profile013 base = some (s, e) ∧ Is (src.token c₂) 67 ∧
      RecordItems src profile013 (src.token c₂).stop old updates fields.reverse c := by
  cases h with
  | record h hbase hhead hopen hbody => exact ⟨_, _, _, rfl, rfl, rfl, h, hbase, hhead, hopen, hbody⟩
  | operator _ hprec => exact absurd (lt_of_prec_pos hprec) (by simp [mark] at hk; omega)
  | field => simp at hargc
  | _ => simp [mark] at hk

theorem Pending.of_field (h : Pending src profile013 start (op :: rest) es c)
    (hk : op.kind = 1004 ∨ op.kind = 1005) (hargc : op.argc = 1) :
    ∃ c₁ c₂, Pending src profile013 start (mark op.kind 0 0 :: rest) es c₁ ∧
      Primary src profile013 true c₁ (.name op.nameStart op.nameStop) c₂ ∧ Is (src.token c₂) 62 ∧
      c = (src.token c₂).stop := by
  cases h with
  | field h hkind hname hcolon => exact ⟨_, _, h, hname, hcolon, rfl⟩
  | operator _ hprec => exact absurd (lt_of_prec_pos hprec) (by simp [mark] at hk; omega)
  | _ => simp [mark] at hk hargc

theorem Pending.of_base (h : Pending src profile013 start (op :: rest) es c) (hk : op.kind = 1006) :
    ∃ rest' s e es' c₁, rest = mark 1005 0 0 :: rest' ∧
      es = .recordConstruct s e (.name 0 0) false [] s 0 :: es' ∧
      Pending src profile013 start (mark 1005 0 0 :: rest') (.recordConstruct s e (.name 0 0) false [] s 0 :: es') c₁ ∧
      Is (src.token c₁) 90 ∧ c = (src.token c₁).stop := by
  cases h with
  | base h hdots => exact ⟨_, _, _, _, _, rfl, rfl, h, hdots, rfl⟩
  | operator _ hprec => exact absurd (lt_of_prec_pos hprec) (by simp [mark] at hk; omega)
  | field _ hkind => exact absurd hk (by simp [mark]; omega)
  | _ => simp [mark] at hk

end MncsCompiler.Decl
