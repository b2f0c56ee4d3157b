import Mathlib.Algebra.GroupWithZero.Nat
import MncsCompiler.Decl.Digits

/-!
# `Decl.Bounds` — the bounds of sequence types

`[T; n]`, `[T; up_to n]` and the same with a name: the tokens of a bound are its form. The parser accepts the tokens, but
it keeps only the span of the type, and `resolve_type` reads the bytes of that span again. The forms are set here against
what is resolved, with a second reading of the resolution, `resolveTypeChecked`, that is `none` where an operation on
`u64` would trap.
-/

namespace MncsCompiler.Decl

open BoundedLoop Checked

/-! ## Checked resolution -/

def resolveViewBoundChecked (src : Source) (element : SemType) (start stop : Nat) : Option TyRes := do
  let digits ← upToDigitsChecked src start stop
  if !digits.ok then some { ty := .tSeqExact element 18446744073709551615 false, ok := true }
  else
    let length ← intValueChecked src.pages src.stride src.total digits.start digits.stop
    if length.overflow then some { ty := .tSeqExact element 18446744073709551615 false, ok := true }
    else some { ty := .tSeqExact element length.value false, ok := true }

def finishResolvedSequenceTypeChecked (src : Source) (kind elemCursor : Nat) (element : SemType) : Option TyRes :=
  let semi := expect src elemCursor 63
  if !semi.ok then some { ty := .tPoison, ok := false }
  else
    let bound := seqBound src semi.cursor
    if !bound.ok then some { ty := .tPoison, ok := false }
    else
      let close := expect src bound.cursor 70
      if !close.ok then some { ty := .tPoison, ok := false }
      else if kind = 8 then resolveViewBoundChecked src element bound.start bound.stop
      else do
        let literalBound ← spanDigitsChecked src bound.start bound.stop
        let length ← intValueChecked src.pages src.stride src.total bound.start bound.stop
        some { ty := .tSeqExact element length.value (literalBound && !length.overflow), ok := true }

def resolveShallowSequenceTypeChecked (src : Source) (kind start : Nat) (rectab : List RecordDecl)
    (enumtab : List EnumDecl) (nominals : List NominalTypeIdentity) : Option TyRes := do
  let inside ← add? 64 start 1
  let elem := parseType src inside
  if !elem.ok || elem.node.kind = 7 || elem.node.kind = 8 then some { ty := .tPoison, ok := false }
  else
    let element := resolveSequenceElement src elem.node rectab enumtab nominals
    if !element.ok then some element else finishResolvedSequenceTypeChecked src kind elem.cursor element.ty

def resolveSequenceChildChecked (src : Source) (child : TypeRef) (rectab : List RecordDecl) (enumtab : List EnumDecl)
    (nominals : List NominalTypeIdentity) : Option TyRes :=
  if child.kind = 7 || child.kind = 8 then
    resolveShallowSequenceTypeChecked src child.kind child.start rectab enumtab nominals
  else some (resolveSequenceElement src child rectab enumtab nominals)

def resolveSeqTypeChecked (src : Source) (kind start : Nat) (rectab : List RecordDecl) (enumtab : List EnumDecl)
    (nominals : List NominalTypeIdentity) : Option TyRes := do
  let inside ← add? 64 start 1
  let elem := parseType src inside
  if !elem.ok then some { ty := .tPoison, ok := false }
  else
    let element ← resolveSequenceChildChecked src elem.node rectab enumtab nominals
    if !element.ok then some element else finishResolvedSequenceTypeChecked src kind elem.cursor element.ty

/-- `resolve_type` on `u64`. The tables are read as they are: what is checked is the arithmetic on spans and bounds. -/
def resolveTypeChecked (src : Source) (kind start stop : Nat) (rectab : List RecordDecl) (enumtab : List EnumDecl)
    (nominals : List NominalTypeIdentity) : Option TyRes :=
  if kind = 7 || kind = 8 then resolveSeqTypeChecked src kind start rectab enumtab nominals
  else some (resolveType src kind start stop rectab enumtab nominals)

/-! ## The form of a bound -/

/-- The tokens of a bound. -/
structure BoundForm where
  upTo : Option Token
  operand : Token
  deriving DecidableEq

def BoundForm.viewed (form : BoundForm) : Bool := form.upTo.isSome

/-- The form that stands at a cursor. -/
def boundForm (src : Source) (cursor : Nat) : BoundForm :=
  let token := src.token cursor
  if token.kind = 32 then { upTo := some token, operand := src.token token.stop } else { upTo := none, operand := token }

/-- The element of a sequence type. -/
def elementOf (src : Source) (node : TypeRef) : TypeParse := parseType src (node.start + 1)

/-- The form of the bound of a sequence type, behind its element and the semicolon. -/
def formOf (src : Source) (node : TypeRef) : BoundForm :=
  boundForm src (expect src (elementOf src node).cursor 63).cursor

def TypeRef.isSeq (node : TypeRef) : Prop := node.kind = 7 ∨ node.kind = 8

/-- What a form means: a literal below 2^64 is its number, exact or as a ceiling, and a name is an opaque ceiling. -/
structure BoundForm.Means (text : View) (opaqueLength : Nat → Prop) (form : BoundForm) (length : Nat) (valid : Bool) :
    Prop where
  literal : form.operand.kind = 5 → decimal (tokenBytes text form.operand) < 2 ^ 64 →
    length = decimal (tokenBytes text form.operand) ∧ valid = !form.viewed
  name : form.operand.kind ≠ 5 → opaqueLength length ∧ valid = false

section Forms

variable {text : View} (c : Composition text) (rectab : List RecordDecl) (enumtab : List EnumDecl)
  (nominals : List NominalTypeIdentity)

/-- **Bounds are read from tokens**: the kinds are those of the forms, nothing traps, and over an element that resolves
    the lengths are what the forms mean. -/
structure BoundsRead (opaqueLength : Nat → Prop) (node : TypeRef) : Prop where
  kind : node.kind = if (formOf (.ofPages c) node).viewed then 8 else 7
  innerKind : (elementOf (.ofPages c) node).node.isSeq → (elementOf (.ofPages c) node).node.kind =
    if (formOf (.ofPages c) (elementOf (.ofPages c) node).node).viewed then 8 else 7
  total : resolveTypeChecked (.ofPages c) node.kind node.start node.stop rectab enumtab nominals =
    some (resolveType (.ofPages c) node.kind node.start node.stop rectab enumtab nominals)
  flat : ¬ (elementOf (.ofPages c) node).node.isSeq → ∀ element,
    resolveSequenceElement (.ofPages c) (elementOf (.ofPages c) node).node rectab enumtab nominals =
      { ty := element, ok := true } →
    ∃ n valid, resolveType (.ofPages c) node.kind node.start node.stop rectab enumtab nominals =
        { ty := .tSeqExact element n valid, ok := true } ∧
      (formOf (.ofPages c) node).Means text opaqueLength n valid
  nested : (elementOf (.ofPages c) node).node.isSeq → ∀ element,
    resolveSequenceElement (.ofPages c) (elementOf (.ofPages c) (elementOf (.ofPages c) node).node).node rectab enumtab
      nominals = { ty := element, ok := true } →
    ∃ m inner n valid, resolveType (.ofPages c) node.kind node.start node.stop rectab enumtab nominals =
        { ty := .tSeqExact (.tSeqExact element m inner) n valid, ok := true } ∧
      (formOf (.ofPages c) (elementOf (.ofPages c) node).node).Means text opaqueLength m inner ∧
      (formOf (.ofPages c) node).Means text opaqueLength n valid

end Forms

/-! ## Where the bytes say the same -/

/-- The keyword of a viewed form is followed by an ASCII space. -/
def BoundForm.Spaced (text : View) (form : BoundForm) : Prop :=
  ∀ keyword, form.upTo = some keyword → space (byteAt text keyword.stop) = true

/-- The loops read the operand as the token that it is. -/
structure BoundForm.Fits (text : View) (spelling : View → Prop) (form : BoundForm) : Prop where
  literal : form.upTo = none → form.operand.kind = 5 → decimal (tokenBytes text form.operand) < 2 ^ 64 →
    form.operand.stop - form.operand.start ≤ 1024
  name : form.upTo = none → form.operand.kind ≠ 5 → spelling ((tokenBytes text form.operand).take 1024)
  viewed : ∀ keyword, form.upTo = some keyword → form.operand.kind = 5 →
    decimal (tokenBytes text form.operand) + 1 < 2 ^ 64 →
    (∀ j, keyword.stop ≤ j → j < form.operand.start → space (byteAt text j) = true) ∧
      form.operand.start - keyword.stop ≤ 1024 ∧ form.operand.stop - form.operand.start ≤ 1024

structure BoundsFit {text : View} (c : Composition text) (rectab : List RecordDecl) (enumtab : List EnumDecl)
    (nominals : List NominalTypeIdentity) (spelling : View → Prop) (node : TypeRef) : Prop where
  spaced : (formOf (.ofPages c) node).Spaced text
  innerSpaced : (elementOf (.ofPages c) node).node.isSeq →
    (formOf (.ofPages c) (elementOf (.ofPages c) node).node).Spaced text
  flat : ¬ (elementOf (.ofPages c) node).node.isSeq →
    (resolveSequenceElement (.ofPages c) (elementOf (.ofPages c) node).node rectab enumtab nominals).ok = true →
    (formOf (.ofPages c) node).Fits text spelling
  nested : (elementOf (.ofPages c) node).node.isSeq →
    (resolveSequenceElement (.ofPages c) (elementOf (.ofPages c) (elementOf (.ofPages c) node).node).node rectab enumtab
      nominals).ok = true →
    (formOf (.ofPages c) (elementOf (.ofPages c) node).node).Fits text spelling ∧
      (formOf (.ofPages c) node).Fits text spelling

/-! ## What the parser has accepted -/

section Parse

variable {src : Source}

theorem finishNamedType_flat (start : Nat) (st : TypeParse) : ¬ (finishNamedType src start st).node.isSeq := by
  unfold finishNamedType TypeRef.isSeq
  split
  · simp
  · split
    · simp
    · unfold scalarKind
      dsimp only
      repeat' split
      all_goals simp

/-- However many steps are left. -/
theorem finishNamedType_steps (start n : Nat) (st : TypeParse) :
    ¬ (if st.done || !st.ok then finishNamedType src start st
      else finishNamedType src start ((qualifiedStep src)^[n] st)).node.isSeq := by
  split
  · exact finishNamedType_flat start st
  · exact finishNamedType_flat start _

theorem parseFlatType_flat (start cursor : Nat) : ¬ (parseFlatType src start cursor).node.isSeq := by
  unfold parseFlatType
  refine iterate_post (fun _ _ (r : TypeParse) => ¬ r.node.isSeq) ?_ ?_ 0 16 _ ?_
  · intro j st r hret
    dsimp only at hret
    split at hret
    · rw [← Pass.ret.inj hret]
      exact finishNamedType_flat start _
    · cases hret
  · intro j st st' r _ hpost
    exact hpost
  · exact finishNamedType_steps start 1008

/-- A level of a sequence type that the parser has accepted. -/
structure LevelParsed (src : Source) (node : TypeRef) : Prop where
  element : (elementOf src node).ok = true
  semi : (expect src (elementOf src node).cursor 63).ok = true
  bound : (seqBound src (expect src (elementOf src node).cursor 63).cursor).ok = true
  close : (expect src (seqBound src (expect src (elementOf src node).cursor 63).cursor).cursor 70).ok = true
  kind : node.kind =
    if isUpToBound src (seqBound src (expect src (elementOf src node).cursor 63).cursor).start
      (seqBound src (expect src (elementOf src node).cursor 63).cursor).stop then 8 else 7

theorem LevelParsed.isSeq {node : TypeRef} (h : LevelParsed src node) : node.isSeq := by
  have hkind := h.kind
  unfold TypeRef.isSeq
  split at hkind
  · exact .inr hkind
  · exact .inl hkind

/-- The tail of a sequence type, behind its element. -/
def seqTail (src : Source) (bracket cursor : Nat) (elem : TypeParse) : TypeParse :=
  let bad : TypeRef := { kind := 0, start := cursor, stop := cursor }
  if !elem.ok then { elem with cursor := cursor, ok := false, node := bad, done := true }
  else
    let semi := expect src elem.cursor 63
    if !semi.ok then
      { cursor := cursor, ok := false, errStart := semi.errStart, errStop := semi.errStop, node := bad, done := true }
    else
      let bound := seqBound src semi.cursor
      if !bound.ok then
        { cursor := cursor, ok := false, errStart := bound.errStart, errStop := bound.errStop, node := bad, done := true }
      else
        let close := expect src bound.cursor 70
        if !close.ok then
          { cursor := cursor, ok := false, errStart := close.errStart, errStop := close.errStop, node := bad, done := true }
        else
          let viewed := isUpToBound src bound.start bound.stop
          { cursor := close.cursor, ok := true, errStart := 0, errStop := 0
            node := { kind := if viewed then 8 else 7, start := bracket, stop := close.cursor }, done := true }

theorem parseSeqType_eq (bracket cursor : Nat) :
    parseSeqType src bracket cursor = seqTail src bracket cursor (parseSeqElem src cursor) := rfl

theorem seqTail_ok {bracket cursor : Nat} {elem : TypeParse} (h : (seqTail src bracket cursor elem).ok = true) :
    (seqTail src bracket cursor elem).node.start = bracket ∧
      (elementOf src (seqTail src bracket cursor elem).node = elem →
        LevelParsed src (seqTail src bracket cursor elem).node) := by
  unfold seqTail at h ⊢
  dsimp only at h ⊢
  split at h
  · cases h
  · next helem =>
      split at h
      · cases h
      · next hsemi =>
          split at h
          · cases h
          · next hbound =>
              split at h
              · cases h
              · next hclose =>
                  rw [if_neg helem, if_neg hsemi, if_neg hbound, if_neg hclose]
                  refine ⟨rfl, fun heq => ?_⟩
                  rw [Bool.not_eq_true', Bool.not_eq_false] at helem hsemi hbound hclose
                  refine ⟨?_, ?_, ?_, ?_, ?_⟩
                  all_goals rw [heq]
                  · exact helem
                  · exact hsemi
                  · exact hbound
                  · exact hclose

/-- A nested level has a flat element. -/
theorem parseSeqNested_ok {bracket cursor : Nat} (h : (parseSeqNested src bracket cursor).ok = true) :
    (src.token cursor).diagnostic = 0 ∧ (src.token cursor).kind = 4 ∧
      parseSeqNested src bracket cursor =
        seqTail src bracket cursor (parseFlatType src (src.token cursor).start (src.token cursor).stop) := by
  unfold parseSeqNested at h ⊢
  dsimp only at h ⊢
  split at h
  · cases h
  · next hdeep =>
      split at h
      · cases h
      · next hname =>
          rw [if_neg hdeep, if_neg hname]
          simp only [Bool.or_eq_true, decide_eq_true_eq, not_or, not_not] at hname
          exact ⟨hname.1, hname.2, rfl⟩

/-- An element is parsed alike as a type of its own. -/
theorem parseType_elem {cursor : Nat} (h : (parseSeqElem src cursor).ok = true) :
    parseType src cursor = parseSeqElem src cursor ∧
      ((parseSeqElem src cursor).node.isSeq → (src.token cursor).diagnostic = 0 ∧ (src.token cursor).kind = 69 ∧
        parseSeqElem src cursor = parseSeqNested src (src.token cursor).start (src.token cursor).stop) := by
  unfold parseSeqElem at h
  unfold parseType
  dsimp only at h ⊢
  split at h
  · next hbracket =>
      rw [Bool.and_eq_true, decide_eq_true_eq, decide_eq_true_eq] at hbracket
      obtain ⟨hdiag, hkind⟩ := hbracket
      obtain ⟨hinner, hname, heq⟩ := parseSeqNested_ok h
      have helem : parseSeqElem src cursor = parseSeqNested src (src.token cursor).start (src.token cursor).stop :=
        if_pos (by simp [hdiag, hkind])
      have hflat : parseSeqElem src (src.token cursor).stop = parseFlatType src
          (src.token (src.token cursor).stop).start (src.token (src.token cursor).stop).stop := by
        unfold parseSeqElem
        simp [hinner, hname]
      rw [if_neg (by simp [hdiag]), if_pos hkind, parseSeqType_eq, hflat, helem, heq]
      exact ⟨rfl, fun _ => ⟨hdiag, hkind, rfl⟩⟩
  · next hbracket =>
      split at h
      · next hname =>
          rw [Bool.and_eq_true, decide_eq_true_eq, decide_eq_true_eq] at hname
          obtain ⟨hdiag, hkind⟩ := hname
          have helem : parseSeqElem src cursor = parseFlatType src (src.token cursor).start (src.token cursor).stop := by
            unfold parseSeqElem
            simp [hdiag, hkind]
          rw [if_neg (by simp [hdiag]), if_neg (by simp [hkind]), if_pos hkind, helem]
          exact ⟨rfl, fun hseq => absurd hseq (parseFlatType_flat _ _)⟩
      · split at h <;> cases h

variable (hbracket : ∀ cursor, (src.token cursor).kind = 69 → (src.token cursor).stop = (src.token cursor).start + 1)

include hbracket

/-- The nested level of an accepted type, over a flat element. -/
theorem levelParsed_elem {cursor : Nat} (h : (parseSeqElem src cursor).ok = true)
    (hseq : (parseSeqElem src cursor).node.isSeq) : LevelParsed src (parseSeqElem src cursor).node ∧
      ¬ (elementOf src (parseSeqElem src cursor).node).node.isSeq := by
  obtain ⟨-, hkind, heq⟩ := (parseType_elem h).2 hseq
  rw [heq] at h ⊢
  obtain ⟨hdiag, hname, htail⟩ := parseSeqNested_ok h
  rw [htail] at h ⊢
  obtain ⟨hstart, hlevel⟩ := seqTail_ok h
  have helement : elementOf src (seqTail src (src.token cursor).start (src.token cursor).stop
      (parseFlatType src (src.token (src.token cursor).stop).start (src.token (src.token cursor).stop).stop)).node =
      parseFlatType src (src.token (src.token cursor).stop).start (src.token (src.token cursor).stop).stop := by
    rw [elementOf, hstart, ← hbracket cursor hkind]
    unfold parseType
    simp [hdiag, hname]
  refine ⟨hlevel helement, ?_⟩
  rw [helement]
  exact parseFlatType_flat _ _

/-- **The levels of an accepted sequence type.** -/
theorem levelParsed {cursor : Nat} (h : (parseType src cursor).ok = true) (hseq : (parseType src cursor).node.isSeq) :
    LevelParsed src (parseType src cursor).node ∧
      ((elementOf src (parseType src cursor).node).node.isSeq →
        LevelParsed src (elementOf src (parseType src cursor).node).node ∧
          ¬ (elementOf src (elementOf src (parseType src cursor).node).node).node.isSeq) := by
  have htype : (src.token cursor).kind = 69 ∧ parseType src cursor =
      seqTail src (src.token cursor).start (src.token cursor).stop (parseSeqElem src (src.token cursor).stop) := by
    unfold parseType at h hseq ⊢
    dsimp only at h hseq ⊢
    split at h
    · cases h
    · next hdiag =>
        split at h
        · next hkind =>
            rw [if_neg hdiag, if_pos hkind]
            exact ⟨hkind, rfl⟩
        · next hkind =>
            rw [if_neg hdiag, if_neg hkind] at hseq
            split at h
            · next hname =>
                rw [if_pos hname] at hseq
                exact absurd hseq (parseFlatType_flat _ _)
            · cases h
  obtain ⟨hkind, heq⟩ := htype
  rw [heq] at h ⊢
  obtain ⟨hstart, hlevel⟩ := seqTail_ok h
  have helem : (parseSeqElem src (src.token cursor).stop).ok = true := by
    by_contra hnot
    rw [seqTail, if_pos (by simpa using hnot)] at h
    cases h
  have helement : elementOf src (seqTail src (src.token cursor).start (src.token cursor).stop
      (parseSeqElem src (src.token cursor).stop)).node = parseSeqElem src (src.token cursor).stop := by
    rw [elementOf, hstart, ← hbracket cursor hkind]
    exact (parseType_elem helem).1
  refine ⟨hlevel helement, ?_⟩
  rw [helement]
  exact levelParsed_elem hbracket helem

end Parse

/-! ## One level -/

section Level

variable {text : View} {c : Composition text} {start stop : Nat} {form : BoundForm}

/-- The tokens of an accepted bound and the span that the parser makes of them. -/
structure FormTokens (text : View) (form : BoundForm) (start stop : Nat) : Prop where
  stop : stop = form.operand.stop
  literal : form.operand.kind = 5 → NumberToken text form.operand
  name : form.operand.kind ≠ 5 → WordToken text form.operand
  exact : form.upTo = none → start = form.operand.start
  viewed : ∀ keyword, form.upTo = some keyword → WordToken text keyword ∧ keyword.kind = 32 ∧ start = keyword.start ∧
    keyword.stop ≤ form.operand.start ∧ ∀ j, keyword.stop ≤ j → j < form.operand.start →
      (∀ i, keyword.stop ≤ i → i < j → space (byteAt text i) = true) → digit (byteAt text j) = false

theorem seqBound_tokens {cursor : Nat} (h : (seqBound (.ofPages c) cursor).ok = true) :
    FormTokens text (boundForm (.ofPages c) cursor) (seqBound (.ofPages c) cursor).start
      (seqBound (.ofPages c) cursor).stop := by
  have hword : ∀ cursor, wordKind ((Source.ofPages c).token cursor).kind → WordToken text ((Source.ofPages c).token cursor) :=
    fun cursor => significantGlobal_word c
  have hnumber : ∀ cursor, ((Source.ofPages c).token cursor).kind = 5 →
      NumberToken text ((Source.ofPages c).token cursor) :=
    fun cursor hkind => significantGlobal_number c (.inl hkind)
  unfold seqBound at h ⊢
  unfold boundForm
  dsimp only at h ⊢
  split at h
  · cases h
  · next hdiag =>
      rw [if_neg hdiag]
      split at h
      · next hkeyword =>
          rw [if_pos hkeyword, if_pos hkeyword]
          split at h
          · cases h
          · next hcap =>
              rw [if_neg hcap]
              split at h
              · next hoperand =>
                  rw [if_pos hoperand]
                  simp only [Bool.or_eq_true, decide_eq_true_eq] at hoperand
                  have hkinds : wordKind ((Source.ofPages c).token ((Source.ofPages c).token cursor).stop).kind ∨
                      ((Source.ofPages c).token ((Source.ofPages c).token cursor).stop).kind = 5 :=
                    hoperand.symm.imp_left .inl
                  refine ⟨rfl, hnumber _, fun hname => hword _ (.inl (hoperand.resolve_left hname)), fun hnone => ?_, ?_⟩
                  · cases hnone
                  · rintro keyword hsome
                    cases hsome
                    obtain ⟨hle, hgap⟩ := significantGlobal_gap c hkinds
                    exact ⟨hword cursor (.inr (by omega)), hkeyword, rfl, hle, hgap⟩
              · cases h
      · next hkeyword =>
          rw [if_neg hkeyword, if_neg hkeyword]
          split at h
          · next hoperand =>
              rw [if_pos hoperand]
              simp only [Bool.or_eq_true, decide_eq_true_eq] at hoperand
              refine ⟨rfl, hnumber _, fun hname => hword _ (.inl (hoperand.resolve_left hname)), fun _ => rfl, ?_⟩
              rintro keyword hsome
              cases hsome
          · cases h

theorem FormTokens.lt (h : FormTokens text form start stop) :
    form.operand.start < form.operand.stop ∧ form.operand.stop ≤ text.length := by
  by_cases hkind : form.operand.kind = 5
  · exact ⟨(h.literal hkind).lt, (h.literal hkind).le⟩
  · exact ⟨(h.name hkind).lt, (h.name hkind).le⟩

/-- The first byte of the operand tells a literal from a name. -/
theorem FormTokens.first (h : FormTokens text form start stop) :
    digit (byteAt text form.operand.start) = decide (form.operand.kind = 5) ∧
      space (byteAt text form.operand.start) = false := by
  by_cases hkind : form.operand.kind = 5
  · have hfirst := (h.literal hkind).first
    refine ⟨by rw [hfirst, decide_eq_true hkind], ?_⟩
    rw [digit, Bool.and_eq_true, decide_eq_true_eq, decide_eq_true_eq] at hfirst
    simp [space]
    omega
  · have htoken := h.name hkind
    rw [htoken.first, decide_eq_false hkind]
    exact ⟨rfl, (htoken.bytes _ (Nat.le_refl _) htoken.lt).not_space⟩

/-- **The keyword is found** exactly where a space stands behind it. -/
theorem FormTokens.isUpToBound_iff (h : FormTokens text form start stop) :
    isUpToBound (.ofPages c) start stop = true ↔ form.viewed = true ∧ form.Spaced text := by
  rw [Decl.isUpToBound_iff c]
  obtain ⟨hlt, hle⟩ := h.lt
  have hstop := h.stop
  unfold BoundForm.viewed BoundForm.Spaced
  cases hup : form.upTo with
  | some keyword =>
      obtain ⟨hword, hkind, hstart, hbefore, -⟩ := h.viewed keyword hup
      obtain ⟨hfive, hu, hp, hline, ht, ho⟩ := hword.up_to hkind
      subst hstart
      refine ⟨fun hall => ⟨rfl, fun _ hsome => ?_⟩, fun hspace => ⟨by omega, hu, hp, hline, ht, ho, ?_⟩⟩
      · cases hsome
        rw [hfive]
        exact hall.2.2.2.2.2.2
      · rw [← hfive]
        exact hspace.2 keyword rfl
  | none =>
      have hstart := h.exact hup
      subst hstart
      refine ⟨fun hall => ?_, fun hnone => absurd hnone.1 Bool.false_ne_true⟩
      exfalso
      obtain ⟨hlong, hu, -, -, -, -, hspace⟩ := hall
      by_cases hkind : form.operand.kind = 5
      · -- a digit is no `u`
        have hfirst := h.first.1
        rw [hu, decide_eq_true hkind] at hfirst
        cases hfirst
      · -- the byte behind the keyword belongs to the name
        have hinside := (h.name hkind).bytes (form.operand.start + 5) (Nat.le_add_right _ _) (by omega)
        rw [hinside.not_space] at hspace
        cases hspace

theorem LevelParsed.tokens {node : TypeRef} (h : LevelParsed (.ofPages c) node) :
    FormTokens text (formOf (.ofPages c) node)
      (seqBound (.ofPages c) (expect (.ofPages c) (elementOf (.ofPages c) node).cursor 63).cursor).start
      (seqBound (.ofPages c) (expect (.ofPages c) (elementOf (.ofPages c) node).cursor 63).cursor).stop :=
  seqBound_tokens h.bound

/-- **The kind of a level** is that of its form exactly where the keyword is spaced. -/
theorem LevelParsed.kind_iff {node : TypeRef} (h : LevelParsed (.ofPages c) node) :
    node.kind = (if (formOf (.ofPages c) node).viewed then 8 else 7) ↔ (formOf (.ofPages c) node).Spaced text := by
  have hfound := h.tokens.isUpToBound_iff (c := c)
  rw [h.kind]
  cases hview : (formOf (.ofPages c) node).viewed with
  | true =>
      rw [hview] at hfound
      simp only [true_and] at hfound
      rw [← hfound, if_pos rfl]
      split
      · next hup => exact ⟨fun _ => hup, fun _ => rfl⟩
      · next hup => exact ⟨fun heq => (by cases heq), fun hspaced => absurd hspaced hup⟩
  | false =>
      rw [hview] at hfound
      have hnot : ¬ isUpToBound (.ofPages c)
          (seqBound (.ofPages c) (expect (.ofPages c) (elementOf (.ofPages c) node).cursor 63).cursor).start
          (seqBound (.ofPages c) (expect (.ofPages c) (elementOf (.ofPages c) node).cursor 63).cursor).stop = true :=
        fun hup => absurd (hfound.mp hup).1 Bool.false_ne_true
      rw [if_neg hnot, if_neg Bool.false_ne_true]
      refine ⟨fun _ keyword hsome => ?_, fun _ => rfl⟩
      rw [BoundForm.viewed, hsome] at hview
      cases hview

/-- What `up_to_digits` has to find between the keyword and the end of the operand. -/
def BoundForm.Plain (text : View) (keyword operand : Token) : Prop :=
  operand.kind = 5 ∧ (∀ j, keyword.stop ≤ j → j < operand.start → space (byteAt text j) = true) ∧
    operand.start - keyword.stop ≤ 1024 ∧ operand.stop - operand.start ≤ 1024

/-- **The digits of a viewed bound** are its operand, or there are none. -/
theorem FormTokens.upToDigits (h : FormTokens text form start stop) {keyword : Token}
    (hup : form.upTo = some keyword) :
    (BoundForm.Plain text keyword form.operand →
      Decl.upToDigits (.ofPages c) start stop = { ok := true, start := form.operand.start, stop := stop }) ∧
    (¬ BoundForm.Plain text keyword form.operand → (Decl.upToDigits (.ofPages c) start stop).ok = false) := by
  obtain ⟨hword, hkind, hstart, hbefore, hgap⟩ := h.viewed keyword hup
  obtain ⟨hfive, -⟩ := hword.up_to hkind
  obtain ⟨hlt, hle⟩ := h.lt
  obtain ⟨hdigit, hspace⟩ := h.first
  have hstop := h.stop
  obtain ⟨first, hrun, hge, -, hbudget, hspaces, hend⟩ :=
    upToSpace_loop (.ofPages c) 1024 (start + 5) stop (by omega)
  have hcursor : start + 5 = keyword.stop := by rw [hfive, hstart]
  rw [hcursor] at hrun hge hbudget hspaces hend
  simp only [ofPages_byteAt] at hspaces hend
  -- the spaces end at the operand at the latest
  have hfirst : first ≤ form.operand.start := by
    by_contra hpast
    have hover := hspaces form.operand.start hbefore (Nat.not_le.mp hpast)
    rw [hspace] at hover
    cases hover
  have hform : Decl.upToDigits (.ofPages c) start stop =
      if spanDigits (.ofPages c) first stop then { ok := true, start := first, stop := stop }
      else { ok := false, start := start, stop := stop } := by
    unfold Decl.upToDigits
    rw [hcursor, if_neg (by omega), hrun]
    dsimp only
    rw [if_neg (by simp; omega)]
    cases spanDigits (.ofPages c) first stop <;> rfl
  have hspan := spanDigits_iff (.ofPages c) first stop
  simp only [ofPages_byteAt] at hspan
  rw [hform]
  constructor
  · rintro ⟨hliteral, hblank, hnear, hshort⟩
    have heq : first = form.operand.start := by
      by_contra hne
      have hin : first < form.operand.start := by omega
      have hblankFirst := hblank first hge hin
      rcases hend with hfull | hfull | hfull
      · omega
      · omega
      · rw [hblankFirst] at hfull
        cases hfull
    rw [heq, if_pos]
    rw [heq] at hspan
    refine hspan.mpr ⟨by omega, fun j hj hjlt => ?_⟩
    refine ((h.literal hliteral).bytes j hj (by omega)).resolve_right ?_
    rintro ⟨hsix, -⟩
    omega
  · intro hnot
    rw [if_neg]
    intro hdigits
    refine hnot ?_
    obtain ⟨hshort, hall⟩ := hspan.mp hdigits
    have heq : first = form.operand.start := by
      by_contra hne
      have hin : first < form.operand.start := by omega
      have hnone := hgap first hge hin fun i hi hilt => hspaces i hi hilt
      rw [hall first (Nat.le_refl _) (by omega)] at hnone
      cases hnone
    rw [heq] at hall hshort hbudget hspaces
    have hliteral := hall form.operand.start (Nat.le_refl _) (by omega)
    rw [hdigit, decide_eq_true_eq] at hliteral
    exact ⟨hliteral, hspaces, by omega, by omega⟩

/-- A result of resolution that carries a length. -/
def TyRes.sized (element : SemType) (n : Nat) (valid : Bool) : TyRes := { ty := .tSeqExact element n valid, ok := true }

/-- **A viewed level** never traps, and it means its form exactly where the loops read its operand. -/
theorem FormTokens.viewed_level (h : FormTokens text form start stop) {keyword : Token} (hup : form.upTo = some keyword)
    (opaqueLength : Nat → Prop) (spelling : View → Prop) (hmax : opaqueLength 18446744073709551615)
    (element : SemType) : ∃ n valid,
      resolveViewBoundChecked (.ofPages c) element start stop = some (.sized element n valid) ∧
      resolveViewBound (.ofPages c) element start stop = .sized element n valid ∧
      (form.Means text opaqueLength n valid ↔ form.Fits text spelling) := by
  obtain ⟨hword, hkind, hstart, hbefore, -⟩ := h.viewed keyword hup
  obtain ⟨hlt, hle⟩ := h.lt
  have hsmall := c.small
  have hwlt := hword.lt
  have hstop := h.stop
  have hchecked := @upToDigitsChecked_eq (.ofPages c) start stop (by omega) (by omega)
  obtain ⟨hplain, hnot⟩ := h.upToDigits (c := c) hup
  have hfits : form.Fits text spelling ↔ (form.operand.kind = 5 → decimal (tokenBytes text form.operand) + 1 < 2 ^ 64 →
      BoundForm.Plain text keyword form.operand) := by
    refine ⟨fun hfit hliteral hlow => ⟨hliteral, hfit.viewed keyword hup hliteral hlow⟩, fun hplain => ⟨?_, ?_, ?_⟩⟩
    · intro hnone
      rw [hup] at hnone
      cases hnone
    · intro hnone
      rw [hup] at hnone
      cases hnone
    · intro keyword' hup' hliteral hlow
      rw [hup] at hup'
      cases hup'
      exact (hplain hliteral hlow).2
  have hviewed : form.viewed = true := by rw [BoundForm.viewed, hup, Option.isSome_some]
  rw [hfits]
  unfold resolveViewBoundChecked resolveViewBound
  rw [hchecked, Option.bind_eq_bind, Option.bind_some]
  by_cases hread : BoundForm.Plain text keyword form.operand
  · obtain ⟨hliteral, hblank, hnear, hshort⟩ := hread
    have htoken := h.literal hliteral
    obtain ⟨v, hv, hover, hvalue⟩ := intValueChecked_integer c htoken hliteral
    have hint : (Source.ofPages c).intValue form.operand.start stop = v := by
      rw [hstop]
      exact intValueChecked_some hv
    have hlen := length_tokenBytes htoken
    rw [List.take_of_length_le (by omega)] at hover hvalue
    rw [hplain ⟨hliteral, hblank, hnear, hshort⟩]
    dsimp only
    rw [hint, hstop]
    simp only [Source.ofPages]
    rw [hv]
    simp only [Option.bind_eq_bind, Option.bind_some, Bool.not_true, Bool.false_eq_true, if_false]
    cases hlarge : v.overflow with
    | true =>
        refine ⟨_, _, rfl, rfl, fun _ _ _ => ⟨hliteral, hblank, hnear, hshort⟩, fun _ => ⟨fun _ hlow => ?_, ?_⟩⟩
        · rw [hlarge, eq_comm, decide_eq_true_eq] at hover
          exact absurd hlow (Nat.not_lt.mpr hover)
        · exact fun hname => absurd hliteral hname
    | false =>
        refine ⟨_, _, rfl, rfl, fun _ _ _ => ⟨hliteral, hblank, hnear, hshort⟩, fun _ => ⟨fun _ hlow => ?_, ?_⟩⟩
        · rw [hviewed]
          exact ⟨hvalue hlow, rfl⟩
        · exact fun hname => absurd hliteral hname
  · have hfail := hnot hread
    simp only [hfail, Bool.not_false, if_true]
    refine ⟨_, _, rfl, rfl, fun hmeans hliteral hlow => ?_, fun hplain => ⟨fun hliteral hlow => ?_, ?_⟩⟩
    · have hvalue := (hmeans.literal hliteral (by omega)).1
      omega
    · refine ⟨?_, by rw [hviewed]; rfl⟩
      by_contra hne
      exact hread (hplain hliteral (by omega))
    · exact fun _ => ⟨hmax, rfl⟩

/-- The accumulator gives an opaque length exactly on the spellings. -/
def Spells (opaqueLength : Nat → Prop) (spelling : View → Prop) : Prop :=
  ∀ bytes : View, (∀ b ∈ bytes, 48 ≤ b.toNat) →
    ((∃ w, bytes.foldlM digitStep { value := 0, overflow := false } = some w ∧ opaqueLength w.value) ↔ spelling bytes)

/-- The resolution of an exact bound. -/
def exactBound (src : Source) (element : SemType) (start stop : Nat) : TyRes :=
  { ty := .tSeqExact element (src.intValue start stop).value
      (spanDigits src start stop && !(src.intValue start stop).overflow), ok := true }

def exactBoundChecked (src : Source) (element : SemType) (start stop : Nat) : Option TyRes := do
  let literalBound ← spanDigitsChecked src start stop
  let length ← intValueChecked src.pages src.stride src.total start stop
  some { ty := .tSeqExact element length.value (literalBound && !length.overflow), ok := true }

theorem exactBoundChecked_eq (hstop : stop ≤ text.length) (element : SemType) :
    exactBoundChecked (.ofPages c) element start stop =
      (intValueChecked c.pages c.stride text.length start stop).map fun length =>
        .sized element length.value (spanDigits (.ofPages c) start stop && !length.overflow) := by
  have hsmall := c.small
  unfold exactBoundChecked
  rw [spanDigitsChecked_eq (by omega), Option.bind_eq_bind, Option.bind_some]
  simp only [Source.ofPages]
  cases intValueChecked c.pages c.stride text.length start stop <;> rfl

/-- **An exact level** means its form exactly where the loops read its operand. -/
theorem FormTokens.exact_level (h : FormTokens text form start stop) (hup : form.upTo = none)
    {opaqueLength : Nat → Prop} {spelling : View → Prop} (hspells : Spells opaqueLength spelling) (element : SemType) :
    (∃ n valid, exactBoundChecked (.ofPages c) element start stop = some (.sized element n valid) ∧
      form.Means text opaqueLength n valid) ↔ form.Fits text spelling := by
  obtain ⟨hlt, hle⟩ := h.lt
  have hstart := h.exact hup
  have hstop := h.stop
  subst hstart hstop
  rw [exactBoundChecked_eq hle]
  have hspan := spanDigits_iff (.ofPages c) form.operand.start form.operand.stop
  simp only [ofPages_byteAt] at hspan
  have hnoKeyword : ∀ keyword, form.upTo ≠ some keyword := by
    intro keyword hsome
    rw [hup] at hsome
    cases hsome
  have hviewed : form.viewed = false := by rw [BoundForm.viewed, hup, Option.isSome_none]
  by_cases hliteral : form.operand.kind = 5
  · have htoken := h.literal hliteral
    obtain ⟨v, hv, hover, hvalue⟩ := intValueChecked_integer c htoken hliteral
    have hlen := length_tokenBytes htoken
    have htake := decimal_take_le (tokenBytes text form.operand) 1024
    rw [hv, Option.map_some]
    constructor
    · rintro ⟨n, valid, heq, hmeans⟩
      refine ⟨fun _ _ hlow => ?_, fun _ hname => absurd hliteral hname, fun keyword hsome => absurd hsome (hnoKeyword keyword)⟩
      obtain ⟨-, hvalid⟩ := hmeans.literal hliteral hlow
      have hsized := Option.some.inj heq
      simp only [TyRes.sized, TyRes.mk.injEq, SemType.tSeqExact.injEq] at hsized
      rw [hvalid, hviewed] at hsized
      have hdigits := hsized.1.2.2
      rw [Bool.not_false, Bool.and_eq_true] at hdigits
      have hshort := (hspan.mp hdigits.1).1
      omega
    · intro hfits
      refine ⟨_, _, rfl, fun _ hlow => ?_, fun hname => absurd hliteral hname⟩
      have hshort := hfits.literal hup hliteral hlow
      rw [List.take_of_length_le (by omega)] at hover hvalue
      have hdigits : spanDigits (.ofPages c) form.operand.start form.operand.stop = true := by
        refine hspan.mpr ⟨by omega, fun j hj hjlt => ?_⟩
        refine (htoken.bytes j hj hjlt).resolve_right ?_
        rintro ⟨hsix, -⟩
        omega
      rw [hdigits, hover, decide_eq_false (Nat.not_le.mpr hlow), hviewed]
      exact ⟨hvalue hlow, rfl⟩
  · have htoken := h.name hliteral
    have hnone : spanDigits (.ofPages c) form.operand.start form.operand.stop = false := by
      rw [Bool.eq_false_iff]
      intro hdigits
      have hfirst := (hspan.mp hdigits).2 _ (Nat.le_refl _) hlt
      rw [htoken.first] at hfirst
      cases hfirst
    have hbytes : ∀ b ∈ (tokenBytes text form.operand).take 1024, 48 ≤ b.toNat := by
      intro b hb
      obtain ⟨k, hk, rfl⟩ := List.mem_iff_getElem.mp (List.mem_of_mem_take hb)
      have hin : k < form.operand.stop - form.operand.start := by
        rw [tokenBytes, List.length_take, List.length_drop] at hk
        omega
      have hbyte : byteAt text (form.operand.start + k) = ((tokenBytes text form.operand)[k]).toNat := by
        rw [byteAt_of_lt (by omega), byte_eq_getElem (by omega)]
        simp [tokenBytes]
      rw [← hbyte]
      exact (htoken.bytes _ (Nat.le_add_right _ _) (by omega)).ge
    have hfits : form.Fits text spelling ↔ spelling ((tokenBytes text form.operand).take 1024) :=
      ⟨fun hfit => hfit.name hup hliteral, fun hspelling => ⟨fun _ hkind => absurd hkind hliteral, fun _ _ => hspelling,
        fun keyword hsome => absurd hsome (hnoKeyword keyword)⟩⟩
    rw [intValueChecked_span c (Nat.le_of_lt hlt) hle, hnone, hfits, ← hspells _ hbytes, ← tokenBytes]
    constructor
    · rintro ⟨n, valid, heq, hmeans⟩
      obtain ⟨w, hw, hsized⟩ := Option.map_eq_some_iff.mp heq
      simp only [TyRes.sized, TyRes.mk.injEq, SemType.tSeqExact.injEq] at hsized
      refine ⟨w, hw, ?_⟩
      rw [hsized.1.2.1]
      exact (hmeans.name hliteral).1
    · rintro ⟨w, hw, hlength⟩
      rw [hw]
      exact ⟨w.value, false, rfl, fun hkind => absurd hkind hliteral, fun _ => ⟨hlength, rfl⟩⟩

/-- The span of the bound of a level. -/
def boundOf (src : Source) (node : TypeRef) : NameParse := seqBound src (expect src (elementOf src node).cursor 63).cursor

theorem LevelParsed.finish {src : Source} {node : TypeRef} (h : LevelParsed src node) (element : SemType) :
    finishResolvedSequenceTypeChecked src node.kind (elementOf src node).cursor element =
      (if node.kind = 8 then resolveViewBoundChecked src element (boundOf src node).start (boundOf src node).stop
        else exactBoundChecked src element (boundOf src node).start (boundOf src node).stop) ∧
    finishResolvedSequenceType src node.kind (elementOf src node).cursor element =
      (if node.kind = 8 then resolveViewBound src element (boundOf src node).start (boundOf src node).stop
        else exactBound src element (boundOf src node).start (boundOf src node).stop) := by
  unfold finishResolvedSequenceTypeChecked finishResolvedSequenceType
  dsimp only
  rw [h.semi, h.bound, h.close]
  exact ⟨rfl, rfl⟩

/-- **One level of a sequence type** whose kind is that of its form. -/
theorem LevelParsed.level {node : TypeRef} (h : LevelParsed (.ofPages c) node)
    (hspaced : (formOf (.ofPages c) node).Spaced text) {opaqueLength : Nat → Prop} {spelling : View → Prop}
    (hspells : Spells opaqueLength spelling) (hmax : opaqueLength 18446744073709551615) (element : SemType) :
    (∀ r, finishResolvedSequenceTypeChecked (.ofPages c) node.kind (elementOf (.ofPages c) node).cursor element = some r →
      finishResolvedSequenceType (.ofPages c) node.kind (elementOf (.ofPages c) node).cursor element = r ∧
        ∃ n valid, r = .sized element n valid) ∧
    ((∃ n valid, finishResolvedSequenceTypeChecked (.ofPages c) node.kind (elementOf (.ofPages c) node).cursor element =
        some (.sized element n valid) ∧ (formOf (.ofPages c) node).Means text opaqueLength n valid) ↔
      (formOf (.ofPages c) node).Fits text spelling) := by
  have htokens : FormTokens text (formOf (.ofPages c) node) (boundOf (.ofPages c) node).start
    (boundOf (.ofPages c) node).stop := h.tokens
  obtain ⟨hlt, hle⟩ := htokens.lt
  have hstop := htokens.stop
  have hkind := h.kind_iff.mpr hspaced
  obtain ⟨hchecked, hplain⟩ := h.finish element
  rw [hchecked, hplain]
  generalize formOf (.ofPages c) node = form at htokens hlt hle hstop hkind ⊢
  unfold BoundForm.viewed at hkind
  cases hup : form.upTo with
  | some keyword =>
      rw [hup, Option.isSome_some, if_pos rfl] at hkind
      obtain ⟨n, valid, hviewChecked, hview, hmeans⟩ :=
        htokens.viewed_level (c := c) hup opaqueLength spelling hmax element
      rw [if_pos hkind, if_pos hkind, hviewChecked, hview]
      refine ⟨fun r hr => ⟨Option.some.inj hr, n, valid, (Option.some.inj hr).symm⟩, ?_⟩
      rw [← hmeans]
      constructor
      · rintro ⟨m, valid', heq, hm⟩
        have hsized := Option.some.inj heq
        simp only [TyRes.sized, TyRes.mk.injEq, SemType.tSeqExact.injEq] at hsized
        rw [hsized.1.2.1, hsized.1.2.2]
        exact hm
      · exact fun hm => ⟨n, valid, rfl, hm⟩
  | none =>
      rw [hup, Option.isSome_none, if_neg Bool.false_ne_true] at hkind
      have hnot : node.kind ≠ 8 := by omega
      rw [if_neg hnot, if_neg hnot]
      refine ⟨fun r hr => ?_, htokens.exact_level (c := c) hup hspells element⟩
      rw [exactBoundChecked_eq (by omega)] at hr
      obtain ⟨v, hv, hsized⟩ := Option.map_eq_some_iff.mp hr
      have hint : (Source.ofPages c).intValue (boundOf (.ofPages c) node).start (boundOf (.ofPages c) node).stop = v :=
        intValueChecked_some hv
      rw [exactBound, hint, ← hsized]
      exact ⟨rfl, _, _, rfl⟩

end Level

/-! ## The whole type -/

section Types

variable {text : View} {c : Composition text} (rectab : List RecordDecl) (enumtab : List EnumDecl)
  (nominals : List NominalTypeIdentity)

/-- A type is parsed inside the text. -/
theorem parseType_le {cursor : Nat} (h : (parseType (.ofPages c) cursor).ok = true) : cursor ≤ text.length := by
  by_contra hpast
  have hwindow : windowToken text cursor = invalidCursor text.length := if_pos (Nat.not_le.mp hpast)
  obtain ⟨n, p, hskips, heq⟩ := significantGlobal_skips c cursor
  have htoken : (Source.ofPages c).token cursor = invalidCursor text.length := by
    cases hskips with
    | none => exact heq.trans hwindow
    | piece htrivia _ =>
        rw [hwindow] at htrivia
        cases htrivia
  unfold parseType at h
  rw [htoken] at h
  cases h

theorem LevelParsed.inside {node : TypeRef} (h : LevelParsed (.ofPages c) node) : add? 64 node.start 1 = some (node.start + 1) := by
  have hle := parseType_le h.element
  have hsmall := c.small
  exact add?_of_lt (by omega)

theorem resolveType_seq {src : Source} {kind : Nat} (h : kind = 7 ∨ kind = 8) (start stop : Nat) :
    resolveType src kind start stop rectab enumtab nominals =
      resolveSeqType src kind start stop rectab enumtab nominals := by
  rw [resolveType, if_neg (by omega), if_neg (by omega), if_neg (by omega), if_neg (by omega), if_neg (by omega),
    if_pos (by simpa using h)]

/-- A sequence over an element that is no sequence. -/
theorem resolve_flat {node : TypeRef} (h : LevelParsed (.ofPages c) node)
    (hflat : ¬ (elementOf (.ofPages c) node).node.isSeq) {element : TyRes}
    (helement : resolveSequenceElement (.ofPages c) (elementOf (.ofPages c) node).node rectab enumtab nominals = element) :
    resolveTypeChecked (.ofPages c) node.kind node.start node.stop rectab enumtab nominals =
      (if !element.ok then some element
        else finishResolvedSequenceTypeChecked (.ofPages c) node.kind (elementOf (.ofPages c) node).cursor element.ty) ∧
    resolveType (.ofPages c) node.kind node.start node.stop rectab enumtab nominals =
      (if !element.ok then element
        else finishResolvedSequenceType (.ofPages c) node.kind (elementOf (.ofPages c) node).cursor element.ty) := by
  have hseq := h.isSeq
  have hok := h.element
  unfold TypeRef.isSeq at hseq hflat
  have hchild : resolveSequenceChild (.ofPages c) (elementOf (.ofPages c) node).node rectab enumtab nominals = element := by
    rw [resolveSequenceChild, if_neg (by simpa using hflat), helement]
  have hchecked : resolveSequenceChildChecked (.ofPages c) (elementOf (.ofPages c) node).node rectab enumtab nominals =
      some element := by
    rw [resolveSequenceChildChecked, if_neg (by simpa using hflat), helement]
  rw [elementOf] at hok hchild hchecked ⊢
  constructor
  · rw [resolveTypeChecked, if_pos (by simpa using hseq), resolveSeqTypeChecked, h.inside]
    simp only [Option.bind_eq_bind, Option.bind_some, hok, hchecked, Bool.not_true, Bool.false_eq_true, if_false]
  · rw [resolveType_seq _ _ _ hseq, resolveSeqType]
    simp only [hok, hchild, Bool.not_true, Bool.false_eq_true, if_false]

/-- A sequence over a sequence. -/
theorem resolve_nested {node : TypeRef} (h : LevelParsed (.ofPages c) node)
    (hinner : LevelParsed (.ofPages c) (elementOf (.ofPages c) node).node)
    (hflat : ¬ (elementOf (.ofPages c) (elementOf (.ofPages c) node).node).node.isSeq) {element : TyRes}
    (helement : resolveSequenceElement (.ofPages c) (elementOf (.ofPages c) (elementOf (.ofPages c) node).node).node rectab
      enumtab nominals = element) :
    resolveTypeChecked (.ofPages c) node.kind node.start node.stop rectab enumtab nominals =
      (if !element.ok then some element
        else (finishResolvedSequenceTypeChecked (.ofPages c) (elementOf (.ofPages c) node).node.kind
          (elementOf (.ofPages c) (elementOf (.ofPages c) node).node).cursor element.ty).bind fun inner =>
            if !inner.ok then some inner
            else finishResolvedSequenceTypeChecked (.ofPages c) node.kind (elementOf (.ofPages c) node).cursor inner.ty) ∧
    resolveType (.ofPages c) node.kind node.start node.stop rectab enumtab nominals =
      (if !element.ok then element
        else
          let inner := finishResolvedSequenceType (.ofPages c) (elementOf (.ofPages c) node).node.kind
            (elementOf (.ofPages c) (elementOf (.ofPages c) node).node).cursor element.ty
          if !inner.ok then inner
          else finishResolvedSequenceType (.ofPages c) node.kind (elementOf (.ofPages c) node).cursor inner.ty) := by
  have hseq := h.isSeq
  have hinnerSeq := hinner.isSeq
  have hok := h.element
  have hinnerOk := hinner.element
  unfold TypeRef.isSeq at hseq hinnerSeq hflat
  have hdeep : (!(elementOf (.ofPages c) (elementOf (.ofPages c) node).node).ok ||
      decide ((elementOf (.ofPages c) (elementOf (.ofPages c) node).node).node.kind = 7) ||
      decide ((elementOf (.ofPages c) (elementOf (.ofPages c) node).node).node.kind = 8)) = false := by
    simpa [hinnerOk] using hflat
  have hchild : resolveSequenceChild (.ofPages c) (elementOf (.ofPages c) node).node rectab enumtab nominals =
      if !element.ok then element
      else finishResolvedSequenceType (.ofPages c) (elementOf (.ofPages c) node).node.kind
        (elementOf (.ofPages c) (elementOf (.ofPages c) node).node).cursor element.ty := by
    rw [resolveSequenceChild, if_pos (by simpa using hinnerSeq), resolveShallowSequenceType]
    rw [elementOf.eq_1 _ (elementOf (.ofPages c) node).node] at hdeep helement ⊢
    simp only [hdeep, helement, Bool.false_eq_true, if_false]
  have hchecked : resolveSequenceChildChecked (.ofPages c) (elementOf (.ofPages c) node).node rectab enumtab nominals =
      if !element.ok then some element
      else finishResolvedSequenceTypeChecked (.ofPages c) (elementOf (.ofPages c) node).node.kind
        (elementOf (.ofPages c) (elementOf (.ofPages c) node).node).cursor element.ty := by
    rw [resolveSequenceChildChecked, if_pos (by simpa using hinnerSeq), resolveShallowSequenceTypeChecked, hinner.inside]
    rw [elementOf.eq_1 _ (elementOf (.ofPages c) node).node] at hdeep helement ⊢
    simp only [Option.bind_eq_bind, Option.bind_some, hdeep, helement, Bool.false_eq_true, if_false]
  rw [elementOf.eq_1 _ node] at hok hchild hchecked ⊢
  constructor
  · rw [resolveTypeChecked, if_pos (by simpa using hseq), resolveSeqTypeChecked, h.inside]
    simp only [Option.bind_eq_bind, Option.bind_some, hok, hchecked, Bool.not_true, Bool.false_eq_true, if_false]
    cases hel : element.ok with
    | false => simp [hel]
    | true => simp only [Bool.not_true, Bool.false_eq_true, if_false]
  · rw [resolveType_seq _ _ _ hseq, resolveSeqType]
    simp only [hok, hchild, Bool.not_true, Bool.false_eq_true, if_false]
    cases hel : element.ok with
    | false => simp [hel]
    | true => simp only [Bool.not_true, Bool.false_eq_true, if_false]

theorem TyRes.sized_inj {element element' : SemType} {n n' : Nat} {valid valid' : Bool}
    (h : TyRes.sized element n valid = .sized element' n' valid') : element = element' ∧ n = n' ∧ valid = valid' := by
  simpa [TyRes.sized, and_assoc] using h

/-- **Bounds are read from tokens** exactly where the bytes say the same. -/
theorem boundsRead_iff {cursor : Nat} (hok : (parseType (.ofPages c) cursor).ok = true)
    (hseq : (parseType (.ofPages c) cursor).node.isSeq) {opaqueLength : Nat → Prop} {spelling : View → Prop}
    (hspells : Spells opaqueLength spelling) (hmax : opaqueLength 18446744073709551615) :
    BoundsRead c rectab enumtab nominals opaqueLength (parseType (.ofPages c) cursor).node ↔
      BoundsFit c rectab enumtab nominals spelling (parseType (.ofPages c) cursor).node := by
  have hbracket : ∀ cursor, ((Source.ofPages c).token cursor).kind = 69 →
      ((Source.ofPages c).token cursor).stop = ((Source.ofPages c).token cursor).start + 1 := by
    intro cursor hkind
    exact significantGlobal_punctuation c (by
      rw [Source.token] at hkind
      simp only [Source.ofPages] at hkind
      omega)
  obtain ⟨hlevel, hinner⟩ := levelParsed hbracket hok hseq
  generalize (parseType (.ofPages c) cursor).node = node at hlevel hinner ⊢
  constructor
  · intro hread
    have hspaced := hlevel.kind_iff.mp hread.kind
    have htotal := hread.total
    refine ⟨hspaced, fun hin => (hinner hin).1.kind_iff.mp (hread.innerKind hin), fun hflat helement => ?_,
      fun hin helement => ?_⟩
    · generalize hres : resolveSequenceElement (.ofPages c) (elementOf (.ofPages c) node).node rectab enumtab nominals =
        element at helement
      obtain ⟨ty, ok⟩ := element
      cases helement
      refine (hlevel.level hspaced hspells hmax ty).2.mp ?_
      obtain ⟨n, valid, hvalue, hmeans⟩ := hread.flat hflat ty hres
      rw [hvalue, (resolve_flat rectab enumtab nominals hlevel hflat hres).1, if_neg (show ¬ (!true) = true by decide)]
        at htotal
      exact ⟨n, valid, htotal, hmeans⟩
    · obtain ⟨hnested, hdeep⟩ := hinner hin
      have hinnerSpaced := hnested.kind_iff.mp (hread.innerKind hin)
      generalize hres : resolveSequenceElement (.ofPages c)
        (elementOf (.ofPages c) (elementOf (.ofPages c) node).node).node rectab enumtab nominals = element at helement
      obtain ⟨ty, ok⟩ := element
      cases helement
      have hboth : ∃ m inner n valid,
          finishResolvedSequenceTypeChecked (.ofPages c) (elementOf (.ofPages c) node).node.kind
            (elementOf (.ofPages c) (elementOf (.ofPages c) node).node).cursor ty = some (.sized ty m inner) ∧
          finishResolvedSequenceTypeChecked (.ofPages c) node.kind (elementOf (.ofPages c) node).cursor
            (.tSeqExact ty m inner) = some (.sized (.tSeqExact ty m inner) n valid) ∧
          (formOf (.ofPages c) (elementOf (.ofPages c) node).node).Means text opaqueLength m inner ∧
          (formOf (.ofPages c) node).Means text opaqueLength n valid := by
        obtain ⟨m, inner, n, valid, hvalue, hmeansInner, hmeans⟩ := hread.nested hin ty hres
        rw [hvalue, (resolve_nested rectab enumtab nominals hlevel hnested hdeep hres).1,
          if_neg (show ¬ (!true) = true by decide)] at htotal
        -- the inner level comes first, and what it gives is the element of the outer one
        obtain ⟨r, hr, houter⟩ := Option.bind_eq_some_iff.mp htotal
        obtain ⟨-, m', inner', rfl⟩ := (hnested.level hinnerSpaced hspells hmax ty).1 r hr
        rw [TyRes.sized, if_neg (show ¬ (!true) = true by decide)] at houter
        obtain ⟨-, n', outer', hsized⟩ := (hlevel.level hspaced hspells hmax _).1 _ houter
        obtain ⟨htype, -, -⟩ := TyRes.sized_inj (hsized : TyRes.sized _ n valid = _)
        cases htype
        exact ⟨m, inner, n, valid, hr, houter, hmeansInner, hmeans⟩
      refine ⟨(hnested.level hinnerSpaced hspells hmax ty).2.mp ?_, ?_⟩
      · obtain ⟨m, inner, -, -, hr, -, hmeansInner, -⟩ := hboth
        exact ⟨m, inner, hr, hmeansInner⟩
      · obtain ⟨m, inner, hrest⟩ := hboth
        refine (hlevel.level hspaced hspells hmax (.tSeqExact ty m inner)).2.mp ?_
        obtain ⟨n, valid, -, houter, -, hmeans⟩ := hrest
        exact ⟨n, valid, houter, hmeans⟩
  · intro hfit
    have hkind := hlevel.kind_iff.mpr hfit.spaced
    by_cases hin : (elementOf (.ofPages c) node).node.isSeq
    · obtain ⟨hnested, hdeep⟩ := hinner hin
      have hinnerSpaced := hfit.innerSpaced hin
      have hinnerKind := hnested.kind_iff.mpr hinnerSpaced
      generalize hres : resolveSequenceElement (.ofPages c)
        (elementOf (.ofPages c) (elementOf (.ofPages c) node).node).node rectab enumtab nominals = element
      obtain ⟨ty, ok⟩ := element
      obtain ⟨hchecked, hplain⟩ := resolve_nested rectab enumtab nominals hlevel hnested hdeep hres
      cases ok with
      | false =>
          refine ⟨hkind, fun _ => hinnerKind, by rw [hchecked, hplain]; rfl, fun hflat => absurd hin hflat, ?_⟩
          intro _ element helement
          rw [hres] at helement
          cases helement
      | true =>
          obtain ⟨hfitInner, hfitOuter⟩ := hfit.nested hin (by rw [hres])
          obtain ⟨m, valid', hr, hmeansInner⟩ := (hnested.level hinnerSpaced hspells hmax ty).2.mpr hfitInner
          obtain ⟨n, valid, houter, hmeans⟩ :=
            (hlevel.level hfit.spaced hspells hmax (.tSeqExact ty m valid')).2.mpr hfitOuter
          have hrPlain := ((hnested.level hinnerSpaced hspells hmax ty).1 _ hr).1
          have houterPlain := ((hlevel.level hfit.spaced hspells hmax (.tSeqExact ty m valid')).1 _ houter).1
          have hvalue : resolveType (.ofPages c) node.kind node.start node.stop rectab enumtab nominals =
              .sized (.tSeqExact ty m valid') n valid := by
            rw [hplain, if_neg (show ¬ (!true) = true by decide)]
            dsimp only
            rw [hrPlain]
            simp only [TyRes.sized, Bool.not_true, Bool.false_eq_true, if_false]
            exact houterPlain
          refine ⟨hkind, fun _ => hinnerKind, ?_, fun hflat => absurd hin hflat, ?_⟩
          · rw [hvalue, hchecked, if_neg (show ¬ (!true) = true by decide), hr, Option.bind_some]
            simp only [TyRes.sized, Bool.not_true, Bool.false_eq_true, if_false]
            exact houter
          · intro _ element helement
            rw [hres] at helement
            cases helement
            exact ⟨m, valid', n, valid, hvalue, hmeansInner, hmeans⟩
    · generalize hres : resolveSequenceElement (.ofPages c) (elementOf (.ofPages c) node).node rectab enumtab nominals =
        element
      obtain ⟨ty, ok⟩ := element
      obtain ⟨hchecked, hplain⟩ := resolve_flat rectab enumtab nominals hlevel hin hres
      cases ok with
      | false =>
          refine ⟨hkind, fun h => absurd h hin, by rw [hchecked, hplain]; rfl, ?_, fun h => absurd h hin⟩
          intro _ element helement
          rw [hres] at helement
          cases helement
      | true =>
          obtain ⟨n, valid, hr, hmeans⟩ :=
            (hlevel.level hfit.spaced hspells hmax ty).2.mpr (hfit.flat hin (by rw [hres]))
          have hrPlain := ((hlevel.level hfit.spaced hspells hmax ty).1 _ hr).1
          have hvalue : resolveType (.ofPages c) node.kind node.start node.stop rectab enumtab nominals =
              .sized ty n valid := by
            rw [hplain, if_neg (show ¬ (!true) = true by decide)]
            exact hrPlain
          refine ⟨hkind, fun h => absurd h hin, ?_, ?_, fun h => absurd h hin⟩
          · rw [hvalue, hchecked, if_neg (show ¬ (!true) = true by decide)]
            exact hr
          · intro _ element helement
            rw [hres] at helement
            cases helement
            exact ⟨n, valid, hvalue, hmeans⟩

end Types

theorem spells_max : Spells (· = 18446744073709551615) (SpellsMaxFrom 0) :=
  fun _ hbytes => foldlM_digitStep_max (by decide) hbytes

theorem spells_total : Spells (fun _ => True) (StaysBelowFrom 0) := by
  intro bytes hbytes
  have htotal := @foldlM_digitStep_total 0 false bytes (by decide) hbytes
  simpa only [and_true] using htotal

/-- **Bounds of accepted sequence types**, for both senses of an opaque name: a ceiling that no sequence exceeds, or any
    length that is not exact. -/
theorem resolveType_bounds_iff {text : View} (c : Composition text) (rectab : List RecordDecl) (enumtab : List EnumDecl)
    (nominals : List NominalTypeIdentity) {cursor : Nat} (hok : (parseType (.ofPages c) cursor).ok = true)
    (hseq : (parseType (.ofPages c) cursor).node.isSeq) :
    (BoundsRead c rectab enumtab nominals (· = 18446744073709551615) (parseType (.ofPages c) cursor).node ↔
      BoundsFit c rectab enumtab nominals (SpellsMaxFrom 0) (parseType (.ofPages c) cursor).node) ∧
    (BoundsRead c rectab enumtab nominals (fun _ => True) (parseType (.ofPages c) cursor).node ↔
      BoundsFit c rectab enumtab nominals (StaysBelowFrom 0) (parseType (.ofPages c) cursor).node) :=
  ⟨boundsRead_iff rectab enumtab nominals hok hseq spells_max rfl,
    boundsRead_iff rectab enumtab nominals hok hseq spells_total trivial⟩

/-- `[u8;4]` on one page. -/
def fourBytes : Composition [91, 117, 56, 59, 52, 93] where
  pages := [[91, 117, 56, 59, 52, 93]]
  stride := 6
  valid := by decide
  content := rfl
  small := by decide

theorem parseType_fourBytes : (parseType (.ofPages fourBytes) 0).ok = true ∧
    (parseType (.ofPages fourBytes) 0).node = { kind := 7, start := 0, stop := 6 } ∧
    (elementOf (.ofPages fourBytes) { kind := 7, start := 0, stop := 6 }).node.kind = 5 ∧
    formOf (.ofPages fourBytes) { kind := 7, start := 0, stop := 6 } =
      { upTo := none, operand := { kind := 5, start := 4, stop := 5, diagnostic := 0 } } := by
  decide +kernel

theorem resolveType_bounds_fourBytes :
    BoundsRead fourBytes [] [] [] (· = 18446744073709551615) (parseType (.ofPages fourBytes) 0).node := by
  obtain ⟨hok, hnode, helement, hform⟩ := parseType_fourBytes
  have hflat : ¬ (elementOf (.ofPages fourBytes) { kind := 7, start := 0, stop := 6 }).node.isSeq := by
    unfold TypeRef.isSeq
    omega
  have hseq : (parseType (.ofPages fourBytes) 0).node.isSeq := by
    rw [hnode]
    exact .inl rfl
  refine (resolveType_bounds_iff fourBytes [] [] [] hok hseq).1.mpr ?_
  rw [hnode]
  refine ⟨fun keyword hsome => ?_, fun hin => absurd hin hflat, fun _ _ => ⟨fun _ _ _ => ?_, fun _ hname => ?_,
    fun keyword hsome => ?_⟩, fun hin => absurd hin hflat⟩
  · rw [hform] at hsome
    cases hsome
  · rw [hform]
    decide
  · rw [hform] at hname
    exact absurd rfl hname
  · rw [hform] at hsome
    cases hsome

/-- `[u8;up_to/**/4]` on one page. -/
def commentedView : Composition [91, 117, 56, 59, 117, 112, 95, 116, 111, 47, 42, 42, 47, 52, 93] where
  pages := [[91, 117, 56, 59, 117, 112, 95, 116, 111, 47, 42, 42, 47, 52, 93]]
  stride := 15
  valid := by decide
  content := rfl
  small := by decide

/-- A comment behind the keyword makes an exact bound of a viewed one. -/
theorem not_boundsRead :
    ¬ ∀ (text : View) (c : Composition text) (rectab : List RecordDecl) (enumtab : List EnumDecl)
      (nominals : List NominalTypeIdentity) (cursor : Nat), (parseType (.ofPages c) cursor).ok = true →
      (parseType (.ofPages c) cursor).node.isSeq →
      BoundsRead c rectab enumtab nominals (· = 18446744073709551615) (parseType (.ofPages c) cursor).node := by
  intro hall
  have hfacts : (parseType (.ofPages commentedView) 0).ok = true ∧
      (parseType (.ofPages commentedView) 0).node = { kind := 7, start := 0, stop := 15 } ∧
      (formOf (.ofPages commentedView) { kind := 7, start := 0, stop := 15 }).viewed = true := by
    decide +kernel
  obtain ⟨hok, hnode, hviewed⟩ := hfacts
  have hread := hall _ commentedView [] [] [] 0 hok (by rw [hnode]; exact .inl rfl)
  have hkind := hread.kind
  rw [hnode, hviewed] at hkind
  cases hkind

end MncsCompiler.Decl
