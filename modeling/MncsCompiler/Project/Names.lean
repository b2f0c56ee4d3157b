import MncsCompiler.Decl.Equality
import MncsCompiler.Project.Modules

/-!
# `Project.Names` — names across sources

A span of a source spells bytes. `spans_equal_between` compares the spans of two sources byte by byte within 1024
passes: it says yes exactly on equal spellings of at most 1024 bytes.
-/

namespace MncsCompiler.Project

open BoundedLoop Decl

/-- The bytes of a span of a source. -/
def spelled (inp : Input) (index start stop : Nat) : List Nat :=
  spelling (moduleSource inp index).byteAt start (stop - start)

@[simp] theorem length_spelled (inp : Input) (index start stop : Nat) :
    (spelled inp index start stop).length = stop - start := by
  rw [spelled, spelling, List.length_map, List.length_range]

/-- Equal spellings, byte by byte. -/
theorem spelled_eq_iff {inp : Input} {i a b j c d : Nat} :
    spelled inp i a b = spelled inp j c d ↔
      b - a = d - c ∧ ∀ k < b - a, (moduleSource inp i).byteAt (a + k) = (moduleSource inp j).byteAt (c + k) := by
  constructor
  · intro h
    have hlen := congrArg List.length h
    rw [length_spelled, length_spelled] at hlen
    refine ⟨hlen, ?_⟩
    intro k hk
    rw [spelled, spelled, spelling, spelling, ← hlen] at h
    exact List.map_inj_left.mp h k (List.mem_range.mpr hk)
  · rintro ⟨hlen, hbytes⟩
    rw [spelled, spelled, spelling, spelling, ← hlen]
    apply List.map_congr_left
    intro k hk
    exact hbytes k (List.mem_range.mp hk)

/-- The answer of a comparison at the end of its passes. -/
def SpanCompare.same (st : SpanCompare) : Bool := st.equal && decide (st.offset ≥ st.length)

/-- `n` passes of a comparison that has come to `offset`. -/
theorem iterate_spanCompareStep (left right : Source) (n : Nat) {length a b offset : Nat} (hle : offset ≤ length) :
    ((spanCompareStep left right)^[n]
        { length := length, leftStart := a, rightStart := b, offset := offset, equal := true }).same = true ↔
      length ≤ offset + n ∧ ∀ k, offset ≤ k → k < length → left.byteAt (a + k) = right.byteAt (b + k) := by
  induction n generalizing offset with
  | zero =>
      rw [Function.iterate_zero_apply, SpanCompare.same, Bool.true_and, decide_eq_true_eq, Nat.add_zero]
      exact ⟨fun h => ⟨h, fun k hk hlt => absurd hlt (Nat.not_lt.mpr (Nat.le_trans h hk))⟩, fun h => h.1⟩
  | succ n ih =>
      rw [Function.iterate_succ_apply, spanCompareStep]
      dsimp only
      by_cases hdone : offset ≥ length
      · -- the comparison is over
        have hstay : spanCompareStep left right
            { length := length, leftStart := a, rightStart := b, offset := offset, equal := true } =
            { length := length, leftStart := a, rightStart := b, offset := offset, equal := true } := by
          rw [spanCompareStep, if_pos (by simpa using hdone)]
        rw [if_pos (by simpa using hdone), Function.iterate_fixed hstay]
        simp only [SpanCompare.same, Bool.true_and, decide_eq_true_eq]
        exact ⟨fun _ => ⟨by omega, fun k hk hlt => by omega⟩, fun _ => hdone⟩
      · rw [if_neg (by simpa using hdone)]
        by_cases hbyte : left.byteAt (a + offset) = right.byteAt (b + offset)
        · rw [decide_eq_true hbyte, ih (by omega)]
          constructor
          · rintro ⟨hlen, hall⟩
            refine ⟨by omega, ?_⟩
            intro k hk hlt
            by_cases hat : k = offset
            · rw [hat]
              exact hbyte
            · exact hall k (by omega) hlt
          · rintro ⟨hlen, hall⟩
            exact ⟨by omega, fun k hk hlt => hall k (by omega) hlt⟩
        · -- it stays at the first byte that differs
          have hstay : spanCompareStep left right
              { length := length, leftStart := a, rightStart := b, offset := offset + 1, equal := false } =
              { length := length, leftStart := a, rightStart := b, offset := offset + 1, equal := false } := by
            rw [spanCompareStep, if_pos (by simp)]
          rw [decide_eq_false hbyte, Function.iterate_fixed hstay]
          constructor
          · intro h
            simp [SpanCompare.same] at h
          · rintro ⟨-, hall⟩
            exact absurd (hall offset (Nat.le_refl _) (by omega)) hbyte

/-- **Comparison of spans.** -/
theorem spansEqualBetween_iff {inp : Input} {i a b j c d : Nat} :
    spansEqualBetween inp i a b j c d = true ↔
      a ≤ b ∧ c ≤ d ∧ b - a ≤ 1024 ∧ spelled inp i a b = spelled inp j c d := by
  rw [spansEqualBetween]
  by_cases hordered : b < a ∨ d < c
  · rw [if_pos (by simpa using hordered)]
    constructor
    · intro h
      cases h
    · rintro ⟨hab, hcd, -⟩
      omega
  rw [if_neg (by simpa using hordered)]
  by_cases hlen : b - a = d - c
  · have hloop := @iterate_spanCompareStep (moduleSource inp i) (moduleSource inp j) 1024 (b - a) a c 0 (Nat.zero_le _)
    rw [SpanCompare.same] at hloop
    rw [if_neg (not_not.mpr hlen), spelled_eq_iff, hloop]
    constructor
    · rintro ⟨hshort, hbytes⟩
      exact ⟨by omega, by omega, by omega, hlen, fun k hk => hbytes k (Nat.zero_le _) hk⟩
    · rintro ⟨-, -, hshort, -, hbytes⟩
      exact ⟨by omega, fun k _ hk => hbytes k hk⟩
  · rw [if_pos hlen]
    constructor
    · intro h
      cases h
    · rintro ⟨-, -, -, hsame⟩
      exact absurd (spelled_eq_iff.mp hsame).1 hlen

end MncsCompiler.Project
