import MncsCompiler.Decl.Moves

/-!
# `Decl.Grammar` — the expression grammar

The language of `parse_expr`, over the significant tokens of a source. `Primary` is a literal, a name, a group, a
match, or what calls, projections, indices, slices, casts and constructions make of one; `Derives` adds prefix `!` and
the binary operators by the table `prec`, each level left associative. A derivation relates the cursor before its
first token to the cursor behind its last and to the tree without its parentheses.

Types, type arguments and the patterns of arms are read by their own parsers, and are terminals here.
-/

namespace MncsCompiler.Decl

/-- The token `!`, which the lexer leaves to the parser. -/
def IsBang (src : Source) (tok : Token) : Prop :=
  tok.kind = 7 ∧ tok.diagnostic = 2 ∧ tok.stop = tok.start + 1 ∧ src.byteAt tok.start = 33

/-- The end of an arm: a comma, or the brace that closes the match, which stays. -/
inductive Delimits (src : Source) (c : Nat) : Nat → Prop
  | comma (h : Is (src.token c) 64) : Delimits src c (src.token c).stop
  | brace (h : Is (src.token c) 68) : Delimits src c c

/-- What opens a call: `(`, with type arguments before it in a generic call. -/
inductive CallOpens (src : Source) (c : Nat) : List TypeArg → Nat → Prop
  | plain (h : Is (src.token c) 65) : CallOpens src c [] (src.token c).stop
  | generic {targs : TArgsParse} (hless : Is (src.token c) 58) (htargs : parseTypeArgs src c = targs)
      (hok : targs.ok = true) (hopen : Is (src.token targs.cursor) 65) :
      CallOpens src c targs.list (src.token targs.cursor).stop

/-- A host operation takes as many arguments as its slot says. -/
def HasArity (src : Source) (s e : Nat) (targs : List TypeArg) (args : List Expr) : Prop :=
  opSlotAt src s e ≠ 5 ∧ targs = [] → args.length = opArity (opSlotAt src s e)

mutual

/-- What binds tighter than `!`. Where `field` is set the first token may be the name of a field, and `next` is one. -/
inductive Primary (src : Source) (profile013 : Bool) : Bool → Nat → Expr → Nat → Prop
  | integer {field c} (h : Is (src.token c) 5) :
      Primary src profile013 field c
        (.integer (src.token c).start (src.token c).stop (src.intValue (src.token c).start (src.token c).stop).value
          (src.intValue (src.token c).start (src.token c).stop).overflow) (src.token c).stop
  | negative {field c lit} (hprof : profile013 = true) (hminus : Is (src.token c) 51)
      (hlit : src.token (src.token c).stop = lit) (hkind : Is lit 5) :
      Primary src profile013 field c
        (.integer (src.token c).start lit.stop (negativePayload (src.intValue lit.start lit.stop).value)
          (src.intValue lit.start lit.stop).overflow) lit.stop
  | boolean {field c} (h : Is (src.token c) 38 ∨ Is (src.token c) 39) :
      Primary src profile013 field c
        (.boolean (src.token c).start (src.token c).stop ((src.token c).kind = 38)) (src.token c).stop
  | name {field c} (h : Is (src.token c) 4 ∨ Is (src.token c) 25 ∨
        (Is (src.token c) 34 ∧ profile013 = true ∧ field = true)) :
      Primary src profile013 field c (.name (src.token c).start (src.token c).stop) (src.token c).stop
  | group {field c e c'} (hopen : Is (src.token c) 65) (he : Derives src profile013 false 0 (src.token c).stop e c')
      (hclose : Is (src.token c') 66) : Primary src profile013 field c e (src.token c').stop
  | call {field c base c₁ s e targs c₂ args c₃} (hbase : Primary src profile013 field c base c₁)
      (hhead : headSpan base = some (s, e)) (hopen : CallOpens src c₁ targs c₂)
      (hargs : Args src profile013 c₂ args c₃) (hclose : Is (src.token c₃) 66) (harity : HasArity src s e targs args) :
      Primary src profile013 field c (callNode src { mark 1001 s e with targs := targs } args (src.token c₃).stop)
        (src.token c₃).stop
  | project {field c base c₁ name} (hbase : Primary src profile013 field c base c₁) (hdot : Is (src.token c₁) 61)
      (hname : src.token (src.token c₁).stop = name) (hkind : Is name 4 ∨ (Is name 34 ∧ profile013 = true)) :
      Primary src profile013 field c
        (.project base name.start name.stop (exprStart base) name.stop (baseIsPath base)) name.stop
  | index {field c base c₁ i c₂} (hbase : Primary src profile013 field c base c₁) (hopen : Is (src.token c₁) 69)
      (hi : Derives src profile013 false 0 (src.token c₁).stop i c₂) (hclose : Is (src.token c₂) 70) :
      Primary src profile013 field c (.index base i (exprStart base) (src.token c₂).stop) (src.token c₂).stop
  | slice {field c base c₁ lower c₂ upper c₃} (hbase : Primary src profile013 field c base c₁)
      (hopen : Is (src.token c₁) 69) (hlower : Derives src profile013 false 0 (src.token c₁).stop lower c₂)
      (hdots : Is (src.token c₂) 90) (hupper : Derives src profile013 false 0 (src.token c₂).stop upper c₃)
      (hclose : Is (src.token c₃) 70) :
      Primary src profile013 field c (.slice base lower upper (exprStart base) (src.token c₃).stop)
        (src.token c₃).stop
  | cast {field c value c₁} {target : TypeParse} (hvalue : Primary src profile013 field c value c₁)
      (has : Is (src.token c₁) 36) (htarget : parseType src (src.token c₁).stop = target) (hok : target.ok = true) :
      Primary src profile013 field c
        (.cast value target.node.start target.node.stop target.node.kind (exprStart value) target.node.stop)
        target.cursor
  | repeated {field c element c₁ count close} (hprof : profile013 = true) (hopen : Is (src.token c) 69)
      (helement : Derives src profile013 false 0 (src.token c).stop element c₁) (hsemi : Is (src.token c₁) 63)
      (hcount : src.token (src.token c₁).stop = count) (hckind : Is count 5 ∨ Is count 4)
      (hclose : src.token count.stop = close) (hclosed : Is close 70) :
      Primary src profile013 field c
        (.repeated element count.start count.stop count.kind (src.token c).start close.stop) close.stop
  | sequence {field c elements c₁} (hopen : Is (src.token c) 69)
      (helements : Elements src profile013 (src.token c).stop elements c₁) (hclose : Is (src.token c₁) 70) :
      Primary src profile013 field c (.sequenceLiteral elements (src.token c).start (src.token c₁).stop)
        (src.token c₁).stop
  | variant {field c base c₁ ts te vs ve s fields c₂} (hbase : Primary src profile013 field c base c₁)
      (hhead : variantHead profile013 base = some (ts, te, vs, ve, s)) (hopen : Is (src.token c₁) 67)
      (hfields : Fields src profile013 (src.token c₁).stop fields c₂) (hclose : Is (src.token c₂) 68) :
      Primary src profile013 field c (.enumConstruct ts te vs ve fields s (src.token c₂).stop) (src.token c₂).stop
  | record {field c base c₁ s e old updates fields c₂} (hbase : Primary src profile013 field c base c₁)
      (hhead : recordHead profile013 base = some (s, e)) (hopen : Is (src.token c₁) 67)
      (hbody : RecordBody src profile013 (src.token c₁).stop old updates fields c₂)
      (hclose : Is (src.token c₂) 68) :
      Primary src profile013 field c (.recordConstruct s e old updates fields s (src.token c₂).stop)
        (src.token c₂).stop
  | finiteMatch {field c subject c₁ arms c₂} (hmatch : Is (src.token c) 30)
      (hsubject : Derives src profile013 false 0 (src.token c).stop subject c₁) (hopen : Is (src.token c₁) 67)
      (harms : FiniteArms src profile013 (src.token c₁).stop arms c₂) (hclose : Is (src.token c₂) 68) :
      Primary src profile013 field c
        (.finiteMatch subject arms (src.token c).start (matchCloseStop src (src.token c₂).stop)) (src.token c₂).stop
  | scalarMatch {field c subject c₁ arms c₂} (hmatch : Is (src.token c) 30)
      (hsubject : Derives src profile013 false 0 (src.token c).stop subject c₁) (hopen : Is (src.token c₁) 67)
      (harms : ScalarArms src profile013 (src.token c₁).stop arms c₂) (hclose : Is (src.token c₂) 68) :
      Primary src profile013 field c
        (.scalarMatch subject arms (src.token c).start (matchCloseStop src (src.token c₂).stop)) (src.token c₂).stop

/-- An expression whose operators outside brackets bind at least as tight as a level. -/
inductive Derives (src : Source) (profile013 : Bool) : Bool → Nat → Nat → Expr → Nat → Prop
  | primary {field level c e c'} (hlevel : level ≤ 12) (h : Primary src profile013 field c e c') :
      Derives src profile013 field level c e c'
  | unaryNot {field level c value c'} (hlevel : level ≤ 11) (hprof : profile013 = true)
      (hbang : IsBang src (src.token c)) (hvalue : Derives src profile013 false 11 (src.token c).stop value c') :
      Derives src profile013 field level c (.unaryNot value (src.token c).start (exprEnd value)) c'
  | binary {field level c l c₁ op r c₂} (hlevel : level ≤ prec op) (hprec : 0 < prec op)
      (hleft : Derives src profile013 field (prec op) c l c₁) (hop : Is (src.token c₁) op)
      (hright : Derives src profile013 false (prec op + 1) (src.token c₁).stop r c₂) :
      Derives src profile013 field level c (.binary op l r (exprStart l) (exprEnd r)) c₂

/-- Expressions with a comma behind each. -/
inductive Items (src : Source) (profile013 : Bool) : Nat → List Expr → Nat → Prop
  | nil {c} : Items src profile013 c [] c
  | snoc {c items c₁ e c₂} (hitems : Items src profile013 c items c₁) (he : Derives src profile013 false 0 c₁ e c₂)
      (hcomma : Is (src.token c₂) 64) : Items src profile013 c (items ++ [e]) (src.token c₂).stop

/-- The arguments of a call: commas between them. -/
inductive Args (src : Source) (profile013 : Bool) : Nat → List Expr → Nat → Prop
  | none {c} : Args src profile013 c [] c
  | some {c items c₁ last c₂} (hitems : Items src profile013 c items c₁)
      (hlast : Derives src profile013 false 0 c₁ last c₂) : Args src profile013 c (items ++ [last]) c₂

/-- The elements of a sequence literal: a comma may stand behind the last. -/
inductive Elements (src : Source) (profile013 : Bool) : Nat → List Expr → Nat → Prop
  | trailing {c items c₁} (hitems : Items src profile013 c items c₁) : Elements src profile013 c items c₁
  | plain {c items c₁ last c₂} (hitems : Items src profile013 c items c₁)
      (hlast : Derives src profile013 false 0 c₁ last c₂) : Elements src profile013 c (items ++ [last]) c₂

/-- A named field of a construction. -/
inductive FieldValue (src : Source) (profile013 : Bool) : Nat → ConstructField → Nat → Prop
  | mk {c s e c₁ value c₂} (hname : Primary src profile013 true c (.name s e) c₁) (hcolon : Is (src.token c₁) 62)
      (hvalue : Derives src profile013 false 0 (src.token c₁).stop value c₂) :
      FieldValue src profile013 c (.mk s e value) c₂

/-- Fields with a comma behind each. -/
inductive FieldItems (src : Source) (profile013 : Bool) : Nat → List ConstructField → Nat → Prop
  | nil {c} : FieldItems src profile013 c [] c
  | snoc {c items c₁ x c₂} (hitems : FieldItems src profile013 c items c₁) (hx : FieldValue src profile013 c₁ x c₂)
      (hcomma : Is (src.token c₂) 64) : FieldItems src profile013 c (items ++ [x]) (src.token c₂).stop

inductive Fields (src : Source) (profile013 : Bool) : Nat → List ConstructField → Nat → Prop
  | trailing {c items c₁} (hitems : FieldItems src profile013 c items c₁) : Fields src profile013 c items c₁
  | plain {c items c₁ last c₂} (hitems : FieldItems src profile013 c items c₁)
      (hlast : FieldValue src profile013 c₁ last c₂) : Fields src profile013 c (items ++ [last]) c₂

/-- The inside of a record literal: its fields, with the record it updates before them. -/
inductive RecordBody (src : Source) (profile013 : Bool) : Nat → Expr → Bool → List ConstructField → Nat → Prop
  | plain {c fields c₁} (hfields : Fields src profile013 c fields c₁) :
      RecordBody src profile013 c (.name 0 0) false fields c₁
  | update {c base c₁ fields c₂} (hdots : Is (src.token c) 90)
      (hbase : Derives src profile013 false 0 (src.token c).stop base c₁) (hcomma : Is (src.token c₁) 64)
      (hfields : Fields src profile013 (src.token c₁).stop fields c₂) :
      RecordBody src profile013 c base true fields c₂
  | copy {c base c₁} (hdots : Is (src.token c) 90)
      (hbase : Derives src profile013 false 0 (src.token c).stop base c₁) : RecordBody src profile013 c base true [] c₁

inductive FiniteArms (src : Source) (profile013 : Bool) : Nat → List FiniteMatchArm → Nat → Prop
  | nil {c} : FiniteArms src profile013 c [] c
  | snoc {c arms c₁ value c₂ c₃} {pattern : FiniteMatchPattern} (harms : FiniteArms src profile013 c arms c₁)
      (hclean : (src.token c₁).diagnostic = 0)
      (hpattern : finiteMatchPattern src (patternProfiles src).profile006 (patternProfiles src).profile009 profile013
        (src.token c₁) = pattern)
      (hok : pattern.ok = true) (harrow : Is (src.token pattern.cursor) 81)
      (hvalue : Derives src profile013 false 0 (src.token pattern.cursor).stop value c₂)
      (hend : Delimits src c₂ c₃) : FiniteArms src profile013 c (arms ++ [.mk pattern.pattern value]) c₃

inductive ScalarArms (src : Source) (profile013 : Bool) : Nat → List ScalarMatchArm → Nat → Prop
  | nil {c} : ScalarArms src profile013 c [] c
  | snoc {c arms c₁ value c₂ c₃} {pattern : MatchPattern} (harms : ScalarArms src profile013 c arms c₁)
      (hclean : (src.token c₁).diagnostic = 0) (hpattern : scalarMatchPattern src (src.token c₁) = pattern)
      (hok : pattern.ok = true) (harrow : Is (src.token pattern.cursor) 81)
      (hvalue : Derives src profile013 false 0 (src.token pattern.cursor).stop value c₂)
      (hend : Delimits src c₂ c₃) :
      ScalarArms src profile013 c
        (arms ++ [.mk pattern.isDefault pattern.negative pattern.value pattern.overflow pattern.start pattern.stop
          value]) c₃

end

variable {src : Source} {profile013 field : Bool}

/-- An expression of a level is one of every looser level. -/
theorem Derives.mono {level level' c c' : Nat} {e : Expr} (h : Derives src profile013 field level c e c')
    (hle : level' ≤ level) : Derives src profile013 field level' c e c' := by
  cases h with
  | primary hlevel h => exact .primary (Nat.le_trans hle hlevel) h
  | unaryNot hlevel hprof hbang hvalue => exact .unaryNot (Nat.le_trans hle hlevel) hprof hbang hvalue
  | binary hlevel hprec hleft hop hright => exact .binary (Nat.le_trans hle hlevel) hprec hleft hop hright

/-- A tree whose root is neither `!` nor a binary operator. -/
def Tight : Expr → Prop
  | .unaryNot _ _ _ => False
  | .binary _ _ _ _ _ => False
  | _ => True

theorem Derives.tight {level c c' : Nat} {e : Expr} (h : Derives src profile013 field level c e c') (ht : Tight e) :
    Primary src profile013 field c e c' := by
  cases h with
  | primary _ h => exact h
  | unaryNot => cases ht
  | binary => cases ht

theorem tight_of_headSpan {base : Expr} {span : Nat × Nat} (h : headSpan base = some span) : Tight base := by
  cases base <;> first
    | exact trivial
    | cases h

theorem tight_of_variantHead {base : Expr} {p : Bool} {span : Nat × Nat × Nat × Nat × Nat}
    (h : variantHead p base = some span) : Tight base := by
  cases base <;> first
    | exact trivial
    | cases h

theorem tight_of_recordHead {base : Expr} {p : Bool} {span : Nat × Nat} (h : recordHead p base = some span) :
    Tight base := by
  cases base <;> first
    | exact trivial
    | cases h

end MncsCompiler.Decl
