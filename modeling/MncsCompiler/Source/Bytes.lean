import MncsCompiler.Lib.Loop

/-!
# `Source.Bytes` — one bounded byte view

The part of `source.mncs` that reads a single `[byte; up_to N]` view: byte access with the out-of-range
sentinel 256, the ASCII admission test, one-scalar UTF-8 decoding, the UTF-8 validation automaton, and the
line/column rendering of an offset.

Offsets and byte values are `u64` in the source and `Nat` here; every offset stays at or below the length of
a view, so no addition wraps and each subtraction is guarded where it stands. An indexed read is written
`byte v i`; the source indexes only positions its guards have put in range.
-/

namespace MncsCompiler

open BoundedLoop

/-- A bounded byte view. -/
abbrev View := List UInt8

/-- An indexed read `v[i] as u64`. -/
def byte (v : View) (i : Nat) : Nat := (v.getD i 0).toNat

/-- Total byte access: the content byte, or 256 past the end. -/
def byteAt (source : View) (offset : Nat) : Nat :=
  if offset < source.length then byte source offset else 256

/-! ## ASCII admission -/

/-- Sixteen adjacent bytes at `base` hold a non-ASCII one. -/
def groupHigh (source : View) (base : Nat) : Bool :=
  (List.range 16).any (fun k => byte source (base + k) ≥ 128)

/-- The up to fifteen bytes past the last full group hold a non-ASCII one. -/
def tailHigh (source : View) (tail : Nat) : Bool :=
  (List.range 15).any (fun k => tail + k < source.length && byte source (tail + k) ≥ 128)

/-- Check sixteen bytes a pass, then the tail. -/
def asciiView (source : View) : Bool :=
  let groups := source.length / 16
  (iterate (fun group valid =>
      if !valid then .ret false
      else if groupHigh source (group * 16) then .ret false
      else .next true) 0 groups true).after fun _ =>
    !tailHigh source (groups * 16)

def ascii (source : View) : Bool := asciiView source

/-! ## UTF-8 -/

structure Utf8Scalar where
  scalar : Nat
  next : Nat
  valid : Bool
  deriving DecidableEq, Repr

structure Utf8Validation where
  valid : Bool
  errorOffset : Nat
  deriving DecidableEq, Repr

structure Utf8ValidationState where
  cursor : Nat
  remaining : Nat
  lead : Nat
  error : Bool
  errorOffset : Nat
  deriving DecidableEq, Repr

def utf8Continuation (value : Nat) : Bool := 128 ≤ value && value ≤ 191

def utf8LeadContinuations (value : Nat) : Nat :=
  if 194 ≤ value && value ≤ 223 then 1
  else if 224 ≤ value && value ≤ 239 then 2
  else if 240 ≤ value && value ≤ 244 then 3
  else 0

def utf8FirstContinuationValid (lead continuation : Nat) : Bool :=
  if !utf8Continuation continuation then false
  else if lead == 224 && continuation < 160 then false
  else if lead == 237 && continuation ≥ 160 then false
  else if lead == 240 && continuation < 144 then false
  else if lead == 244 && continuation ≥ 144 then false
  else true

/-- Decode one UTF-8 scalar. Malformed input advances one byte, so a caller always makes progress. -/
def utf8Scalar (source : View) (at' : Nat) : Utf8Scalar :=
  if at' ≥ source.length then { scalar := 0, next := at', valid := false }
  else
    let b0 := byte source at'
    if b0 < 128 then { scalar := b0, next := at' + 1, valid := true }
    else
      let need := utf8LeadContinuations b0
      if need = 0 then { scalar := 0, next := at' + 1, valid := false }
      else if at' + need ≥ source.length then { scalar := 0, next := at' + 1, valid := false }
      else
        let b1 := byte source (at' + 1)
        if !utf8FirstContinuationValid b0 b1 then { scalar := 0, next := at' + 1, valid := false }
        else if need = 1 then
          { scalar := (b0 - 192) * 64 + b1 % 64, next := at' + 2, valid := true }
        else
          let b2 := byte source (at' + 2)
          if !utf8Continuation b2 then { scalar := 0, next := at' + 1, valid := false }
          else if need = 2 then
            { scalar := (b0 - 224) * 4096 + (b1 % 64) * 64 + b2 % 64, next := at' + 3, valid := true }
          else
            let b3 := byte source (at' + 3)
            if !utf8Continuation b3 then { scalar := 0, next := at' + 1, valid := false }
            else
              { scalar := (b0 - 240) * 262144 + (b1 % 64) * 4096 + (b2 % 64) * 64 + b3 % 64,
                next := at' + 4, valid := true }

/-- One byte of the validation automaton. The first error wins and is sticky. -/
def utf8ValidationStep (state : Utf8ValidationState) (value index : Nat) : Utf8ValidationState :=
  if state.error then state
  else if state.remaining > 0 then
    if !utf8Continuation value then
      { state with cursor := index + 1, remaining := 0, lead := 0, error := true, errorOffset := index }
    else if state.lead != 0 && !utf8FirstContinuationValid state.lead value then
      { state with cursor := index + 1, remaining := 0, lead := 0, error := true, errorOffset := index }
    else { state with cursor := index + 1, remaining := state.remaining - 1, lead := 0 }
  else
    let need := utf8LeadContinuations value
    if value ≥ 128 && need == 0 then
      { state with cursor := index + 1, error := true, errorOffset := index }
    else if need = 0 then { state with cursor := index + 1 }
    else { state with cursor := index + 1, remaining := need, lead := value }

/-- The automaton before the first byte. -/
def utf8Initial : Utf8ValidationState :=
  { cursor := 0, remaining := 0, lead := 0, error := false, errorOffset := 0 }

/-- Return the first invalid byte; a truncated final scalar points at the source length. -/
def validateUtf8 (source : View) : Utf8Validation :=
  if asciiView source then { valid := true, errorOffset := 0 }
  else
    (iterate (fun i state =>
        if state.error then .ret { valid := false, errorOffset := state.errorOffset }
        else .next (utf8ValidationStep state (byte source i) i)) 0 source.length utf8Initial).after
      fun state =>
        if state.error then { valid := false, errorOffset := state.errorOffset }
        else if state.remaining > 0 then { valid := false, errorOffset := source.length }
        else { valid := true, errorOffset := 0 }

def spanValid (source : View) (start stop : Nat) : Bool := start ≤ stop && stop ≤ source.length

/-! ## Line and column -/

structure LineCol where
  line : Nat
  col : Nat
  deriving DecidableEq, Repr

/-- Where rendering starts: line 1, column 1. -/
def LineCol.first : LineCol := { line := 1, col := 1 }

def lineStep (source : View) (offset pos : Nat) (st : LineCol) : LineCol :=
  if pos ≥ offset then st
  else
    let value := byteAt source pos
    if value = 10 then { line := st.line + 1, col := 1 }
    else if 128 ≤ value && value ≤ 191 then st
    else { line := st.line, col := st.col + 1 }

/-- 1-based line and Unicode-scalar column of a byte offset. -/
def lineCol (source : View) (offset : Nat) : LineCol :=
  carry (lineStep source offset) 0 source.length LineCol.first

/-- The effect of one rendered byte. -/
def lineColAdvanceByte (value : Nat) (current : LineCol) : LineCol :=
  if value = 10 then { line := current.line + 1, col := 1 }
  else if 128 ≤ value && value ≤ 191 then current
  else { line := current.line, col := current.col + 1 }

/-! ## Reading lemmas -/

theorem byte_lt (v : View) (i : Nat) : byte v i < 256 := UInt8.toNat_lt _

theorem byteAt_of_lt {v : View} {i : Nat} (h : i < v.length) : byteAt v i = byte v i := if_pos h

theorem byteAt_of_ge {v : View} {i : Nat} (h : v.length ≤ i) : byteAt v i = 256 :=
  if_neg (Nat.not_lt.mpr h)

/-- Below 256 exactly inside the view. -/
theorem byteAt_lt_iff {v : View} {i : Nat} : byteAt v i < 256 ↔ i < v.length := by
  unfold byteAt
  split
  · simp [byte_lt, *]
  · simp [*]

theorem byte_eq_getElem {v : View} {i : Nat} (h : i < v.length) : byte v i = (v[i]).toNat := by
  simp [byte, h]

/-- A lead byte asks for at most three continuations. -/
theorem utf8LeadContinuations_le (value : Nat) : utf8LeadContinuations value ≤ 3 := by
  unfold utf8LeadContinuations
  repeat' split
  all_goals decide

/-- **Scalar progress.** Inside the view decoding moves on by one to four bytes and not past the end; an
    invalid scalar moves by one. -/
theorem utf8Scalar_progress {v : View} {o : Nat} (h : o < v.length) :
    o < (utf8Scalar v o).next ∧ (utf8Scalar v o).next ≤ o + 4 ∧ (utf8Scalar v o).next ≤ v.length ∧
      ((utf8Scalar v o).valid = false → (utf8Scalar v o).next = o + 1) := by
  have hle := utf8LeadContinuations_le (byte v o)
  fun_cases utf8Scalar v o
  all_goals simp only [] at *
  all_goals simp
  all_goals omega

/-- A read past a prefix is a read of what follows it. -/
theorem byte_append_right (u v : View) (i : Nat) : byte (u ++ v) (u.length + i) = byte v i := by
  simp [byte, List.getElem?_append_right]

theorem byteAt_append_right (u v : View) (i : Nat) : byteAt (u ++ v) (u.length + i) = byteAt v i := by
  simp only [byteAt, List.length_append, Nat.add_lt_add_iff_left, byte_append_right]

/-- A return-free loop over the first `n` bytes of a view is a fold over them. -/
theorem carry_bytes {σ : Type} (g : Nat → σ → σ) {v : View} {n : Nat} (hn : n ≤ v.length) (st : σ) :
    carry (fun i cur => g (byte v i) cur) 0 n st =
      (v.take n).foldl (fun cur b => g b.toNat cur) st :=
  carry_entries (fun b cur => g b.toNat cur) 0 hn st

/-! ## The ASCII test is exact -/

theorem groupHigh_eq_false_iff {v : View} {base : Nat} :
    groupHigh v base = false ↔ ∀ k < 16, byte v (base + k) < 128 := by
  simp [groupHigh, List.any_eq_false]

theorem tailHigh_eq_false_iff {v : View} {tail : Nat} :
    tailHigh v tail = false ↔ ∀ k < 15, tail + k < v.length → byte v (tail + k) < 128 := by
  simp [tailHigh, List.any_eq_false]

/-- The group loop answers for the first `n` groups. -/
theorem ascii_groups {v : View} (i n : Nat) :
    iterate (fun group valid =>
      if !valid then Pass.ret false
      else if groupHigh v (group * 16) then .ret false
      else .next true) i n true =
    if ∀ j < n, groupHigh v ((i + j) * 16) = false then .next true else .ret false := by
  induction n generalizing i with
  | zero => simp
  | succ n ih =>
      rw [iterate_succ]
      cases hg : groupHigh v (i * 16) with
      | true =>
          have hnot : ¬ ∀ j < n + 1, groupHigh v ((i + j) * 16) = false := fun h => by
            simpa [hg] using h 0 (Nat.succ_pos n)
          rw [if_neg hnot]
          rfl
      | false =>
          have hshift : (∀ j < n + 1, groupHigh v ((i + j) * 16) = false) ↔
              ∀ j < n, groupHigh v ((i + 1 + j) * 16) = false := by
            constructor
            · intro h j hj
              rw [show i + 1 + j = i + (j + 1) by omega]
              exact h (j + 1) (by omega)
            · intro h j hj
              cases j with
              | zero => simpa using hg
              | succ j =>
                  rw [show i + (j + 1) = i + 1 + j by omega]
                  exact h j (by omega)
          simp only [Bool.not_true, Bool.false_eq_true, if_false, Pass.bind_next, ih]
          exact if_congr hshift.symm rfl rfl

/-- **ASCII admission is exact**: every byte is below 128. -/
theorem asciiView_iff {v : View} : asciiView v = true ↔ ∀ i < v.length, byte v i < 128 := by
  simp only [asciiView, ascii_groups, Nat.zero_add]
  have hdiv : 16 * (v.length / 16) + v.length % 16 = v.length := Nat.div_add_mod _ _
  have hlt : v.length % 16 < 16 := Nat.mod_lt _ (by decide)
  by_cases hg : ∀ j < v.length / 16, groupHigh v (j * 16) = false
  · rw [if_pos hg, Pass.after_next, Bool.not_eq_true', tailHigh_eq_false_iff]
    constructor
    · intro ht i hi
      by_cases hin : i / 16 < v.length / 16
      · have := groupHigh_eq_false_iff.mp (hg _ hin) (i % 16) (Nat.mod_lt _ (by decide))
        rwa [Nat.mul_comm, Nat.div_add_mod] at this
      · have := ht (i - v.length / 16 * 16) (by omega) (by omega)
        rwa [show v.length / 16 * 16 + (i - v.length / 16 * 16) = i by omega] at this
    · intro h k _ hk
      exact h _ hk
  · rw [if_neg hg, Pass.after_ret]
    refine iff_of_false (by simp) (fun h => hg fun j hj => ?_)
    exact groupHigh_eq_false_iff.mpr (fun k hk => h _ (by omega))

/-- The same test over the elements of the view. -/
theorem asciiView_eq_all (v : View) : asciiView v = v.all fun b => b.toNat < 128 := by
  rw [Bool.eq_iff_iff, asciiView_iff, List.all_eq_true, List.forall_mem_iff_forall_getElem]
  simp only [decide_eq_true_eq]
  exact forall₂_congr (fun j hj => by rw [byte_eq_getElem hj])

end MncsCompiler
