import MncsCompiler.Decl.Types
import MncsCompiler.Lexer.Token

/-!
# `Decl.Equality` — names that are spelled alike, and types that are the same

`spans_equal` compares two names byte by byte, and `sem_eq` walks two semantic types side by side. This module says
what each of them decides: one spelling, and one type up to the spelling of its nominal names.
-/

namespace MncsCompiler.Decl

open BoundedLoop

variable {src : Source}

/-! ## Spelling -/

/-! ## Spelling -/

theorem iterate_spanEqStep (a b len n off : Nat) :
    ((iterate (fun _ (d : EqState) =>
          if !d.eq || d.off ≥ d.len then .ret d.eq else .next (spanEqStep src d))
        0 n { aStart := a, len := len, bStart := b, off := off, eq := true }).after fun d => d.eq) = true ↔
      ∀ k < n, off + k < len → src.byteAt (a + (off + k)) = src.byteAt (b + (off + k)) := by
  induction n generalizing off with
  | zero => exact ⟨fun _ k hk => absurd hk (Nat.not_lt_zero k), fun _ => rfl⟩
  | succ n ih =>
      rw [iterate_succ]
      by_cases hin : off < len
      · rw [if_neg (by simp only [Bool.not_true, Bool.false_or, decide_eq_true_eq]; omega), Pass.bind_next,
          iterate_const _ (0 + 1) 0, spanEqStep, if_neg (by dsimp only; omega)]
        dsimp only
        by_cases hsame : src.byteAt (a + off) = src.byteAt (b + off)
        · rw [decide_eq_true hsame, Bool.true_and, ih]
          constructor
          · intro h k hk hlt
            cases k with
            | zero => exact hsame
            | succ k =>
                have hnext := h k (Nat.lt_of_succ_lt_succ hk) (by omega)
                rwa [show off + 1 + k = off + (k + 1) by omega] at hnext
          · intro h k hk hlt
            have hnext := h (k + 1) (Nat.succ_lt_succ hk) (by omega)
            rwa [show off + (k + 1) = off + 1 + k by omega] at hnext
        · -- the next pass stops at the first byte that differs
          have hstop :
              (iterate (fun _ (d : EqState) =>
                  if !d.eq || d.off ≥ d.len then .ret d.eq else .next (spanEqStep src d))
                0 n { aStart := a, len := len, bStart := b, off := off + 1, eq := false }).after (fun d => d.eq) =
                false := by
            cases n with
            | zero => rfl
            | succ n => rfl
          rw [decide_eq_false hsame, Bool.and_false, hstop]
          constructor
          · intro h
            cases h
          · intro h
            exact absurd (h 0 (Nat.succ_pos n) hin) hsame
      · rw [if_pos (by simp only [Bool.not_true, Bool.false_or, decide_eq_true_eq]; omega)]
        exact ⟨fun _ k hk hlt => absurd hlt (by omega), fun _ => rfl⟩

/-- Two spans are equal when they have one length and, as far as the comparison reads, the same bytes. -/
theorem spansEqual_iff {aStart aStop bStart bStop : Nat} :
    spansEqual src aStart aStop bStart bStop = true ↔
      aStart ≤ aStop ∧ bStart ≤ bStop ∧ aStop - aStart = bStop - bStart ∧
        ∀ k < 1024, k < aStop - aStart → src.byteAt (aStart + k) = src.byteAt (bStart + k) := by
  rw [spansEqual]
  split
  · next hempty =>
      rw [Bool.or_eq_true, decide_eq_true_eq, decide_eq_true_eq] at hempty
      constructor
      · intro h
        cases h
      · rintro ⟨ha, hb, -⟩
        omega
  next hordered =>
  rw [Bool.or_eq_true, decide_eq_true_eq, decide_eq_true_eq, not_or, Nat.not_lt, Nat.not_lt] at hordered
  split
  · next hlength =>
      constructor
      · intro h
        cases h
      · rintro ⟨-, -, hlen, -⟩
        exact absurd hlen hlength
  · next hlength =>
      rw [iterate_spanEqStep]
      simp only [Nat.zero_add]
      exact ⟨fun h => ⟨hordered.1, hordered.2, not_not.mp hlength, h⟩, fun h => h.2.2.2⟩

theorem spansEqual_self {start stop : Nat} (h : start ≤ stop) : spansEqual src start stop start stop = true :=
  spansEqual_iff.mpr ⟨h, h, rfl, fun _ _ _ => rfl⟩

theorem spansEqual_symm {aStart aStop bStart bStop : Nat} (h : spansEqual src aStart aStop bStart bStop = true) :
    spansEqual src bStart bStop aStart aStop = true := by
  obtain ⟨ha, hb, hlen, hbytes⟩ := spansEqual_iff.mp h
  exact spansEqual_iff.mpr ⟨hb, ha, hlen.symm, fun k hk hlt => (hbytes k hk (hlen ▸ hlt)).symm⟩

theorem spansEqual_trans {aStart aStop bStart bStop cStart cStop : Nat}
    (hab : spansEqual src aStart aStop bStart bStop = true) (hbc : spansEqual src bStart bStop cStart cStop = true) :
    spansEqual src aStart aStop cStart cStop = true := by
  obtain ⟨ha, -, hlen, hbytes⟩ := spansEqual_iff.mp hab
  obtain ⟨-, hc, hlen', hbytes'⟩ := spansEqual_iff.mp hbc
  exact spansEqual_iff.mpr
    ⟨ha, hc, hlen.trans hlen', fun k hk hlt => (hbytes k hk hlt).trans (hbytes' k hk (hlen ▸ hlt))⟩

/-- Names of at most 1024 bytes are equal spans exactly when they are one spelling. -/
theorem spansEqual_iff_spelling {aStart aStop bStart bStop : Nat} (ha : aStart ≤ aStop) (hb : bStart ≤ bStop)
    (hshort : aStop - aStart ≤ 1024) :
    spansEqual src aStart aStop bStart bStop = true ↔
      spelling src.byteAt aStart (aStop - aStart) = spelling src.byteAt bStart (bStop - bStart) := by
  rw [spansEqual_iff]
  constructor
  · rintro ⟨-, -, hlen, hbytes⟩
    rw [spelling, spelling, ← hlen]
    apply List.map_congr_left
    intro k hk
    have hlt := List.mem_range.mp hk
    exact hbytes k (by omega) hlt
  · intro h
    have hlen := congrArg List.length h
    rw [spelling, spelling, List.length_map, List.length_map, List.length_range, List.length_range] at hlen
    refine ⟨ha, hb, hlen, ?_⟩
    intro k _ hk
    rw [spelling, spelling, ← hlen] at h
    exact List.map_inj_left.mp h k (List.mem_range.mpr hk)

/-! ## Nominal names -/

/-- What a nominal name stands for: a marker of a generic parameter or of an imported type, or its spelling. -/
inductive Nominal where
  | marker (index : Nat)
  | spelled (bytes : List Nat)
  deriving DecidableEq, Repr

def nominal (src : Source) (start stop : Nat) : Nominal :=
  if 0 < genericTypeMarkerIndex start stop then .marker (genericTypeMarkerIndex start stop)
  else .spelled (spelling src.byteAt start (stop - start))

/-- Spans that the comparison reads in full: markers, and names of at most 1024 bytes. -/
def ShortName (start stop : Nat) : Prop :=
  0 < genericTypeMarkerIndex start stop ∨ stop - start ≤ 1024

theorem semEqNamedSpans_iff {start stop otherStart otherStop : Nat} (horder : start ≤ stop)
    (hother : otherStart ≤ otherStop) (hshort : ShortName start stop) :
    semEqNamedSpans src start stop otherStart otherStop = true ↔
      nominal src start stop = nominal src otherStart otherStop := by
  simp only [semEqNamedSpans, nominal, Bool.or_eq_true, decide_eq_true_eq]
  by_cases hleft : 0 < genericTypeMarkerIndex start stop
  · rw [if_pos (.inl hleft), if_pos hleft, Bool.and_eq_true, decide_eq_true_eq, decide_eq_true_eq,
      and_iff_right hleft]
    by_cases hright : 0 < genericTypeMarkerIndex otherStart otherStop
    · rw [if_pos hright, Nominal.marker.injEq]
    · rw [if_neg hright]
      refine iff_of_false ?_ nofun
      omega
  · by_cases hright : 0 < genericTypeMarkerIndex otherStart otherStop
    · rw [if_pos (.inr hright), if_neg hleft, if_pos hright]
      refine iff_of_false ?_ nofun
      rw [Bool.and_eq_true, decide_eq_true_eq]
      exact fun h => hleft h.1
    · rw [if_neg (not_or.mpr ⟨hleft, hright⟩), if_neg hleft, if_neg hright, Nominal.spelled.injEq]
      exact spansEqual_iff_spelling horder hother (hshort.resolve_left hleft)

theorem semEqNamedSpans_self {start stop : Nat} (h : start ≤ stop) : semEqNamedSpans src start stop start stop = true := by
  rw [semEqNamedSpans]
  by_cases hmarker : 0 < genericTypeMarkerIndex start stop
  · simp [hmarker]
  · simp [hmarker, spansEqual_self h]

theorem semEqNamedSpans_symm {aStart aStop bStart bStop : Nat}
    (h : semEqNamedSpans src aStart aStop bStart bStop = true) :
    semEqNamedSpans src bStart bStop aStart aStop = true := by
  simp only [semEqNamedSpans] at h ⊢
  split at h
  · next hmarker =>
      simp only [Bool.and_eq_true, decide_eq_true_eq] at h
      rw [if_pos (by simp only [Bool.or_eq_true, decide_eq_true_eq]; omega), Bool.and_eq_true, decide_eq_true_eq,
        decide_eq_true_eq]
      omega
  · next hmarker =>
      rw [Bool.or_comm] at hmarker
      rw [if_neg hmarker]
      exact spansEqual_symm h

theorem semEqNamedSpans_trans {aStart aStop bStart bStop cStart cStop : Nat}
    (hab : semEqNamedSpans src aStart aStop bStart bStop = true)
    (hbc : semEqNamedSpans src bStart bStop cStart cStop = true) :
    semEqNamedSpans src aStart aStop cStart cStop = true := by
  simp only [semEqNamedSpans, Bool.or_eq_true, decide_eq_true_eq] at hab hbc ⊢
  by_cases hb : 0 < genericTypeMarkerIndex bStart bStop
  · rw [if_pos (.inr hb), Bool.and_eq_true, decide_eq_true_eq, decide_eq_true_eq] at hab
    rw [if_pos (.inl hb), Bool.and_eq_true, decide_eq_true_eq, decide_eq_true_eq] at hbc
    rw [if_pos (.inl hab.1), Bool.and_eq_true, decide_eq_true_eq, decide_eq_true_eq]
    omega
  · -- a span that is no marker is alike no marker
    have ha : ¬ 0 < genericTypeMarkerIndex aStart aStop := by
      intro ha
      rw [if_pos (.inl ha), Bool.and_eq_true, decide_eq_true_eq, decide_eq_true_eq] at hab
      omega
    have hc : ¬ 0 < genericTypeMarkerIndex cStart cStop := by
      intro hc
      rw [if_pos (.inr hc), Bool.and_eq_true, decide_eq_true_eq, decide_eq_true_eq] at hbc
      exact hb hbc.1
    rw [if_neg (not_or.mpr ⟨ha, hb⟩)] at hab
    rw [if_neg (not_or.mpr ⟨hb, hc⟩)] at hbc
    rw [if_neg (not_or.mpr ⟨ha, hc⟩)]
    exact spansEqual_trans hab hbc

/-! ## The same type -/

/-- How many sequences a type is nested in. -/
def SemType.nesting : SemType → Nat
  | .tSeqExact element _ _ => element.nesting + 1
  | _ => 0

/-- The nominal names in a type are spans. -/
def SemType.Spans : SemType → Prop
  | .tNamed start stop => start ≤ stop
  | .tSeqExact element _ _ => element.Spans
  | _ => True

/-- No sequence in a type is of unknown shape. -/
def SemType.Shaped : SemType → Prop
  | .tSeq => False
  | .tSeqExact element _ _ => element.Shaped
  | _ => True

/-- `SameType src a b`: a value of `b` is of the type `a`. A sequence of unknown shape takes every sequence. -/
inductive SameType (src : Source) : SemType → SemType → Prop
  | bool : SameType src .tBool .tBool
  | byte : SameType src .tByte .tByte
  | int (width : Nat) (signed : Bool) : SameType src (.tInt width signed) (.tInt width signed)
  | named {start stop otherStart otherStop : Nat}
      (h : semEqNamedSpans src start stop otherStart otherStop = true) :
      SameType src (.tNamed start stop) (.tNamed otherStart otherStop)
  | seq : SameType src .tSeq .tSeq
  | unshaped (element : SemType) (length : Nat) (valid : Bool) : SameType src .tSeq (.tSeqExact element length valid)
  | seqExact {element other : SemType} (length : Nat) (valid : Bool) (h : SameType src element other) :
      SameType src (.tSeqExact element length valid) (.tSeqExact other length valid)
  | poison : SameType src .tPoison .tPoison

theorem SameType.refl : ∀ {a : SemType}, a.Spans → SameType src a a
  | .tBool, _ => .bool
  | .tByte, _ => .byte
  | .tInt w s, _ => .int w s
  | .tNamed _ _, h => .named (semEqNamedSpans_self h)
  | .tSeq, _ => .seq
  | .tSeqExact _ length valid, h => .seqExact length valid (SameType.refl h)
  | .tPoison, _ => .poison

/-- Types that are the same are nested alike, unless a sequence of unknown shape takes another one. -/
theorem SameType.nesting_eq {a b : SemType} (h : SameType src a b) (hshaped : a.Shaped) : a.nesting = b.nesting := by
  induction h with
  | unshaped => exact hshaped.elim
  | seqExact _ _ _ ih => exact congrArg (· + 1) (ih hshaped)
  | _ => rfl

/-- No type is of one that is nested deeper. -/
theorem SameType.nesting_le {a b : SemType} (h : SameType src a b) : a.nesting ≤ b.nesting := by
  induction h with
  | unshaped => exact Nat.zero_le _
  | seqExact _ _ _ ih => exact Nat.succ_le_succ ih
  | _ => exact Nat.le_refl _

theorem SameType.symm {a b : SemType} (h : SameType src a b) (hnesting : a.nesting = b.nesting) : SameType src b a := by
  induction h with
  | bool => exact .bool
  | byte => exact .byte
  | int w s => exact .int w s
  | named h => exact .named (semEqNamedSpans_symm h)
  | seq => exact .seq
  | unshaped => exact absurd hnesting (Nat.succ_ne_zero _).symm
  | seqExact length valid _ ih => exact .seqExact length valid (ih (Nat.succ.inj hnesting))
  | poison => exact .poison

/-- Two types are of each other exactly when they are nested alike. -/
theorem SameType.symm_iff {a b : SemType} (h : SameType src a b) : SameType src b a ↔ a.nesting = b.nesting :=
  ⟨fun h' => Nat.le_antisymm h.nesting_le h'.nesting_le, h.symm⟩

theorem SameType.trans {a b c : SemType} (hab : SameType src a b) (hbc : SameType src b c) : SameType src a c := by
  induction hab generalizing c with
  | bool => exact hbc
  | byte => exact hbc
  | int => exact hbc
  | named h =>
      cases hbc with
      | named h' => exact .named (semEqNamedSpans_trans h h')
  | seq => exact hbc
  | unshaped element length valid =>
      cases hbc with
      | seqExact _ _ h => exact .unshaped _ length valid
  | seqExact length valid _ ih =>
      cases hbc with
      | seqExact _ _ h => exact .seqExact length valid (ih h)
  | poison => exact hbc

theorem intEqExtra_iff {w w2 : Nat} {s s2 : Bool} : intEqExtra w w2 s s2 = true ↔ w = w2 ∧ s = s2 := by
  unfold intEqExtra
  by_cases hw : w = w2
  · cases s <;> cases s2 <;> simp [hw]
  · simp [hw]

theorem seqValidityMatches_iff {a b : Bool} : seqValidityMatches a b = true ↔ a = b := by
  cases a <;> cases b <;> decide

/-- The shapes agree, and where both are sequences with elements, so do these. -/
theorem sameType_iff_shape {a b : SemType} :
    SameType src a b ↔ semEqShape src a b = true ∧
      ∀ element length valid other otherLength otherValid, a = .tSeqExact element length valid →
        b = .tSeqExact other otherLength otherValid → SameType src element other := by
  constructor
  · intro h
    cases h with
    | bool => exact ⟨rfl, nofun⟩
    | byte => exact ⟨rfl, nofun⟩
    | int w s => exact ⟨intEqExtra_iff.mpr ⟨rfl, rfl⟩, nofun⟩
    | named h => exact ⟨h, nofun⟩
    | seq => exact ⟨rfl, nofun⟩
    | unshaped => exact ⟨rfl, nofun⟩
    | seqExact length valid h =>
        refine ⟨?_, ?_⟩
        · rw [semEqShape, semEqSeqExactShape, decide_eq_true rfl, Bool.true_and]
          exact seqValidityMatches_iff.mpr rfl
        · rintro _ _ _ _ _ _ ⟨⟩ ⟨⟩
          exact h
    | poison => exact ⟨rfl, nofun⟩
  · rintro ⟨hshape, helement⟩
    cases a with
    | tBool =>
        cases b with
        | tBool => exact .bool
        | _ => cases hshape
    | tByte =>
        cases b with
        | tByte => exact .byte
        | _ => cases hshape
    | tInt w s =>
        cases b with
        | tInt w' s' =>
            obtain ⟨rfl, rfl⟩ := intEqExtra_iff.mp hshape
            exact .int w s
        | _ => cases hshape
    | tNamed start stop =>
        cases b with
        | tNamed otherStart otherStop => exact .named hshape
        | _ => cases hshape
    | tSeq =>
        cases b with
        | tSeq => exact .seq
        | tSeqExact element length valid => exact .unshaped element length valid
        | _ => cases hshape
    | tSeqExact element length valid =>
        cases b with
        | tSeqExact other otherLength otherValid =>
            rw [semEqShape, semEqSeqExactShape, Bool.and_eq_true, decide_eq_true_eq] at hshape
            obtain ⟨rfl, hvalid⟩ := hshape
            obtain rfl := seqValidityMatches_iff.mp hvalid
            exact .seqExact length valid (helement _ _ _ _ _ _ rfl rfl)
        | _ => cases hshape
    | tPoison =>
        cases b with
        | tPoison => exact .poison
        | _ => cases hshape

/-! ## The walk -/

theorem semEqStep_stopped (ok : Bool) (n : Nat) : (semEqStep src)^[n] { rest := [], ok := ok } = { rest := [], ok := ok } := by
  apply Function.iterate_fixed
  cases ok <;> rfl

/-- `n` steps decide a pair that is nested in fewer than `n` sequences. -/
theorem semEqStep_iterate {n : Nat} {a b : SemType} (h : a.nesting < n) :
    (((semEqStep src)^[n] { rest := [{ left := a, right := b }], ok := true }).ok &&
        ((semEqStep src)^[n] { rest := [{ left := a, right := b }], ok := true }).rest.isEmpty) = true ↔
      SameType src a b := by
  induction n generalizing a b with
  | zero => exact absurd h (Nat.not_lt_zero _)
  | succ n ih =>
      have hstep : semEqStep src { rest := [{ left := a, right := b }], ok := true } =
          semEqPairStep src { left := a, right := b } [] := rfl
      rw [Function.iterate_succ_apply, hstep, sameType_iff_shape, semEqPairStep]
      by_cases hshape : semEqShape src a b = true
      · rw [if_neg (by simp [hshape]), and_iff_right hshape]
        cases a with
        | tSeqExact element length valid =>
            cases b with
            | tSeqExact other otherLength otherValid =>
                refine (ih (Nat.lt_of_succ_lt_succ h)).trans ?_
                constructor
                · rintro hsame _ _ _ _ _ _ ⟨⟩ ⟨⟩
                  exact hsame
                · intro hall
                  exact hall _ _ _ _ _ _ rfl rfl
            | _ => cases hshape
        | _ =>
            dsimp only [semEqNestedPair]
            rw [semEqStep_stopped]
            exact iff_of_true rfl nofun
      · rw [if_pos (by simp [hshape]), semEqStep_stopped]
        exact iff_of_false Bool.false_ne_true fun hsame => hshape hsame.1

theorem semEq_iff {a b : SemType} (h : a.nesting < 32) : semEq src a b = true ↔ SameType src a b :=
  semEqStep_iterate h

/-! ## What `sem_eq` decides -/

/-- **`sem_eq` is a preorder on the types within its bound, and on those whose sequences have a shape an equivalence.**
    Only a sequence of unknown shape takes what does not take it. Nominal names are one type when they stand for one
    marker or one spelling. -/
theorem semEq_preorder (src : Source) :
    (∀ a : SemType, a.nesting < 32 → a.Spans → semEq src a a = true) ∧
    (∀ a b : SemType, a.nesting < 32 → b.nesting < 32 → a.Shaped → b.Shaped →
      (semEq src a b = true ↔ semEq src b a = true)) ∧
    (∀ a b : SemType, a.nesting < 32 → b.nesting < 32 → semEq src a b = true →
      (semEq src b a = true ↔ a.nesting = b.nesting)) ∧
    (∀ a b c : SemType, a.nesting < 32 → b.nesting < 32 → c.nesting < 32 →
      semEq src a b = true → semEq src b c = true → semEq src a c = true) ∧
    (∀ start stop otherStart otherStop : Nat, start ≤ stop → otherStart ≤ otherStop → ShortName start stop →
      (semEq src (.tNamed start stop) (.tNamed otherStart otherStop) = true ↔
        nominal src start stop = nominal src otherStart otherStop)) := by
  refine ⟨?_, ?_, ?_, ?_, ?_⟩
  · intro a ha hspans
    exact (semEq_iff ha).mpr (.refl hspans)
  · intro a b ha hb hshaped hother
    rw [semEq_iff ha, semEq_iff hb]
    exact ⟨fun h => h.symm (h.nesting_eq hshaped), fun h => h.symm (h.nesting_eq hother)⟩
  · intro a b ha hb h
    rw [semEq_iff ha] at h
    rw [semEq_iff hb]
    exact h.symm_iff
  · intro a b c ha hb _ hab hbc
    rw [semEq_iff ha] at hab ⊢
    rw [semEq_iff hb] at hbc
    exact hab.trans hbc
  · intro start stop otherStart otherStop horder hother hshort
    rw [semEq_iff (show (SemType.tNamed start stop).nesting < 32 from Nat.zero_lt_succ 31), ← semEqNamedSpans_iff horder hother hshort]
    constructor
    · rintro ⟨⟩
      assumption
    · exact .named

/-- 2049 letters of one kind and one of another. -/
def longNames : Source :=
  { pages := [List.replicate 1024 97, List.replicate 1024 97, [97, 98]], stride := 1024, total := 2050 }

theorem longNames_byteAt {k : Nat} (h : k < 2049) : longNames.byteAt k = 97 := by
  have hletter : ∀ i < 1024, byte (List.replicate 1024 97) i = 97 := by
    intro i hi
    rw [byte, List.getD_eq_getElem?_getD, List.getElem?_replicate, if_pos hi]
    rfl
  have hin : k % 1024 < 1024 := Nat.mod_lt _ (by omega)
  rw [Source.byteAt, byteAtGlobal, if_neg (by decide), if_neg (show ¬ k ≥ longNames.total from Nat.not_le.mpr (Nat.lt_succ_of_lt h))]
  obtain hpage | hpage | hpage : k / 1024 = 0 ∨ k / 1024 = 1 ∨ k / 1024 = 2 := by omega
  · simp only [longNames, hpage]
    rw [if_neg (by decide), List.getD_cons_zero, List.length_replicate, if_neg (by omega), hletter _ hin]
  · simp only [longNames, hpage]
    rw [if_neg (by decide), List.getD_cons_succ, List.getD_cons_zero, List.length_replicate, if_neg (by omega),
      hletter _ hin]
  · obtain rfl : k = 2048 := by omega
    rfl

theorem longNames_byteAt_last : longNames.byteAt 2049 = 98 := rfl

theorem semEq_preorder_names :
    semEq longNames (.tSeqExact (.tNamed 0 4) 3 true) (.tSeqExact (.tNamed 0 4) 3 true) = true ∧
      (semEq longNames (.tSeqExact (.tNamed 0 4) 3 true) (.tSeqExact (.tNamed 4 8) 3 true) = true ↔
        semEq longNames (.tSeqExact (.tNamed 4 8) 3 true) (.tSeqExact (.tNamed 0 4) 3 true) = true) ∧
      (semEq longNames (.tNamed 0 4) (.tNamed 4 8) = true ↔ nominal longNames 0 4 = nominal longNames 4 8) := by
  obtain ⟨hrefl, hsymm, -, -, hnamed⟩ := semEq_preorder longNames
  refine ⟨?_, ?_, ?_⟩
  · exact hrefl _ (by decide) (show 0 ≤ 4 by decide)
  · exact hsymm _ _ (by decide) (by decide) trivial trivial
  · exact hnamed 0 4 4 8 (by decide) (by decide) (.inr (by decide))

/-- A sequence of unknown shape takes one that does not take it, a name that ends before it starts is not itself, and two
    names of 1025 bytes are one type though their last bytes differ. -/
theorem semEq_not_equivalence :
    (semEq longNames .tSeq (.tSeqExact .tBool 2 true) = true ∧ semEq longNames (.tSeqExact .tBool 2 true) .tSeq = false) ∧
      semEq longNames (.tNamed 1 0) (.tNamed 1 0) = false ∧
      (semEq longNames (.tNamed 0 1025) (.tNamed 1025 2050) = true ∧
        nominal longNames 0 1025 ≠ nominal longNames 1025 2050) := by
  refine ⟨⟨?_, ?_⟩, ?_, ?_, ?_⟩
  · exact (semEq_iff (by decide)).mpr (.unshaped .tBool 2 true)
  · rw [Bool.eq_false_iff, Ne, semEq_iff (by decide)]
    nofun
  · rw [Bool.eq_false_iff, Ne, semEq_iff (by decide)]
    intro h
    cases h with
    | named h =>
        have hspans : spansEqual longNames 1 0 1 0 = true := h
        exact absurd (spansEqual_iff.mp hspans).1 (by decide)
  · refine (semEq_iff (by decide)).mpr (.named ?_)
    have hequal : spansEqual longNames 0 1025 1025 2050 = true := by
      refine spansEqual_iff.mpr ⟨by decide, by decide, by decide, ?_⟩
      intro k hk _
      rw [longNames_byteAt (by omega), longNames_byteAt (by omega)]
    exact hequal
  · intro h
    have hspelling : spelling longNames.byteAt 0 1025 = spelling longNames.byteAt 1025 1025 := Nominal.spelled.inj h
    rw [spelling, spelling, List.map_inj_left] at hspelling
    have hlast : longNames.byteAt (0 + 1024) = longNames.byteAt 2049 :=
      hspelling 1024 (List.mem_range.mpr (Nat.lt_succ_self 1024))
    have hfirst : longNames.byteAt (0 + 1024) = 97 := longNames_byteAt (by omega)
    rw [hfirst, longNames_byteAt_last] at hlast
    cases hlast

end MncsCompiler.Decl
