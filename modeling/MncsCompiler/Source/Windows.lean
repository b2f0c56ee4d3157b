import MncsCompiler.Source.Pages

/-!
# `Source.Windows` — the four-byte window over any page table

On a layout the window of `byte_window4_global` is the window of the text. On a page table that `validate_pages`
refuses it is meant to be four reads of `byte_at_global`, and it is, but for one early exit: where the page of the
first byte ends before that byte, the window answers that all four are missing, although a read further on can lie on
a following page that has it (`byteWindow4Global_adjacent_iff`).
-/

namespace MncsCompiler

/-- The read `k` bytes further on, 256 where the sum leaves `u64`. -/
def adjacentByte (pages : List View) (stride total offset k : Nat) : Nat :=
  if offset + k < 18446744073709551616 then byteAtGlobal pages stride total (offset + k) else 256

/-- Four reads of `byteAtGlobal`. -/
def adjacentWindow4 (pages : List View) (stride total offset : Nat) : ByteWindow4 :=
  { b0 := adjacentByte pages stride total offset 0, b1 := adjacentByte pages stride total offset 1,
    b2 := adjacentByte pages stride total offset 2, b3 := adjacentByte pages stride total offset 3 }

/-- The table holds a byte at an offset. -/
def HasByte (pages : List View) (stride total offset : Nat) : Prop :=
  offset < total ∧ offset / stride < pages.length ∧ offset % stride < (pages.getD (offset / stride) []).length

/-- The page of the offset ends before it, and one of the next three offsets has a byte. -/
def WindowGap (pages : List View) (stride total offset : Nat) : Prop :=
  0 < stride ∧ offset < total ∧ offset / stride < pages.length ∧
    (pages.getD (offset / stride) []).length ≤ offset % stride ∧
    ∃ k, 1 ≤ k ∧ k ≤ 3 ∧ HasByte pages stride total (offset + k)

section Reads

variable {pages : List View} {stride total offset : Nat}

theorem byteAtGlobal_of_hasByte (hs : 0 < stride) (h : HasByte pages stride total offset) :
    byteAtGlobal pages stride total offset = byte (pages.getD (offset / stride) []) (offset % stride) := by
  obtain ⟨ht, hp, hi⟩ := h
  simp only [byteAtGlobal, if_neg (show ¬ stride = 0 by omega), if_neg (Nat.not_le.mpr ht),
    if_neg (Nat.not_le.mpr hp), if_neg (Nat.not_le.mpr hi)]

theorem byteAtGlobal_of_not_hasByte (h : ¬ HasByte pages stride total offset) :
    byteAtGlobal pages stride total offset = 256 := by
  fun_cases byteAtGlobal pages stride total offset with
  | case1 | case2 | case3 | case4 => rfl
  | case5 hs ht page intra hp view hi =>
      exact absurd ⟨Nat.not_le.mp ht, Nat.not_le.mp hp, Nat.not_le.mp hi⟩ h

/-- A sum that leaves `u64` is past every total. -/
theorem adjacentByte_eq (ht : total < 18446744073709551616) (k : Nat) :
    adjacentByte pages stride total offset k = byteAtGlobal pages stride total (offset + k) := by
  unfold adjacentByte
  split
  · rfl
  · refine (byteAtGlobal_of_not_hasByte ?_).symm
    rintro ⟨hlt, -⟩
    omega

theorem byteAtGlobalDelta_adjacent {k : Nat} (hk : k ≤ 3) :
    byteAtGlobalDelta pages stride total offset k = adjacentByte pages stride total offset k := by
  unfold byteAtGlobalDelta adjacentByte
  by_cases hfit : offset + k < 18446744073709551616
  · rw [if_neg (by omega), if_pos hfit]
  · rw [if_pos (by omega), if_neg hfit]

/-- Four bytes left in the stride and in the page: the fast path reads what the four accesses read. -/
theorem pageWindow4_adjacent (hs : 0 < stride) (ht : total < 18446744073709551616)
    (hp : offset / stride < pages.length) (hleft : offset + 4 ≤ total) (hroom : offset % stride + 4 ≤ stride)
    (hview : offset % stride + 4 ≤ (pages.getD (offset / stride) []).length) :
    pageWindow4 (pages.getD (offset / stride) []) (offset % stride) = adjacentWindow4 pages stride total offset := by
  have hread : ∀ k ≤ 3, adjacentByte pages stride total offset k =
      byte (pages.getD (offset / stride) []) (offset % stride + k) := by
    intro k hk
    have hsplit := Nat.div_add_mod offset stride
    have hsum : offset + k = (offset % stride + k) + stride * (offset / stride) := by omega
    have hdiv : (offset + k) / stride = offset / stride := by
      rw [hsum, Nat.add_mul_div_left _ _ hs, Nat.div_eq_of_lt (by omega), Nat.zero_add]
    have hmod : (offset + k) % stride = offset % stride + k := by
      rw [hsum, Nat.add_mul_mod_self_left, Nat.mod_eq_of_lt (by omega)]
    have hhas : HasByte pages stride total (offset + k) := by
      rw [HasByte, hdiv, hmod]
      exact ⟨by omega, hp, by omega⟩
    rw [adjacentByte_eq ht, byteAtGlobal_of_hasByte hs hhas, hdiv, hmod]
  rw [pageWindow4, adjacentWindow4, hread 0 (by omega), hread 1 (by omega), hread 2 (by omega), hread 3 (by omega)]

/-- Where no read has a byte the window is missing, and conversely. -/
theorem adjacentWindow4_missing_iff (ht : total < 18446744073709551616) :
    missingWindow4 = adjacentWindow4 pages stride total offset ↔
      ∀ k ≤ 3, ¬ (0 < stride ∧ HasByte pages stride total (offset + k)) := by
  have hbyte : ∀ k, adjacentByte pages stride total offset k = 256 ↔
      ¬ (0 < stride ∧ HasByte pages stride total (offset + k)) := by
    intro k
    rw [adjacentByte_eq ht]
    constructor
    · rintro hmissing ⟨hs, hhas⟩
      rw [byteAtGlobal_of_hasByte hs hhas] at hmissing
      have := byte_lt (pages.getD ((offset + k) / stride) []) ((offset + k) % stride)
      omega
    · intro hno
      by_cases hs : stride = 0
      · simp [byteAtGlobal, hs]
      · exact byteAtGlobal_of_not_hasByte (fun hhas => hno ⟨by omega, hhas⟩)
  simp only [missingWindow4, adjacentWindow4, ByteWindow4.mk.injEq, eq_comm (a := 256), hbyte]
  constructor
  · rintro ⟨h0, h1, h2, h3⟩ k hk
    obtain rfl | rfl | rfl | rfl : k = 0 ∨ k = 1 ∨ k = 2 ∨ k = 3 := by omega
    · exact h0
    · exact h1
    · exact h2
    · exact h3
  · intro hall
    exact ⟨hall 0 (by omega), hall 1 (by omega), hall 2 (by omega), hall 3 (by omega)⟩

end Reads

/-- **The window is four reads** but where the page of its first byte ends before that byte and a following page has
    one of the other three. -/
theorem byteWindow4Global_adjacent_iff (pages : List View) (stride total offset : UInt64) :
    byteWindow4Global pages stride.toNat total.toNat offset.toNat =
        adjacentWindow4 pages stride.toNat total.toNat offset.toNat ↔
      ¬ WindowGap pages stride.toNat total.toNat offset.toNat := by
  have ht : total.toNat < 18446744073709551616 := total.toNat_lt
  generalize stride.toNat = s, total.toNat = t, offset.toNat = o at *
  -- no read further on has a byte where the page or the source has ended
  have hpast : ∀ k, t ≤ o → ¬ HasByte pages s t (o + k) := fun k hge h => by
    have := h.1
    omega
  have hpage : ∀ k, pages.length ≤ o / s → ¬ HasByte pages s t (o + k) := fun k hge h => by
    have := h.2.1
    have := Nat.div_le_div_right (c := s) (Nat.le_add_right o k)
    omega
  unfold byteWindow4Global
  by_cases hs : s = 0
  · rw [if_pos hs, adjacentWindow4_missing_iff ht]
    exact ⟨fun _ hgap => by have := hgap.1; omega, fun _ k _ h => by omega⟩
  rw [if_neg hs]
  by_cases hend : o ≥ t
  · rw [if_pos hend, adjacentWindow4_missing_iff ht]
    exact ⟨fun _ hgap => by have := hgap.2.1; omega, fun _ k _ h => hpast k hend h.2⟩
  rw [if_neg hend]
  by_cases hp : o / s ≥ pages.length
  · simp only [if_pos hp]
    rw [adjacentWindow4_missing_iff ht]
    exact ⟨fun _ hgap => by have := hgap.2.2.1; omega, fun _ k _ h => hpage k hp h.2⟩
  simp only [if_neg hp]
  by_cases hi : o % s ≥ (pages.getD (o / s) []).length
  · -- the early exit that forgets the following pages
    rw [if_pos hi, adjacentWindow4_missing_iff ht]
    constructor
    · rintro hnone ⟨-, -, -, -, k, -, hk, hhas⟩
      exact hnone k hk ⟨by omega, hhas⟩
    · rintro hgap k hk ⟨-, hhas⟩
      by_cases h0 : k = 0
      · have := hhas.2.2
        rw [h0, Nat.add_zero] at this
        omega
      · exact hgap ⟨by omega, by omega, by omega, hi, k, by omega, hk, hhas⟩
  · rw [if_neg hi]
    have hno : ¬ WindowGap pages s t o := fun hgap => hi hgap.2.2.2.1
    refine iff_of_true ?_ hno
    split
    · rename_i hfast
      simp only [Bool.and_eq_true, decide_eq_true_eq] at hfast
      exact pageWindow4_adjacent (by omega) ht (by omega) (by omega) (by omega) (by omega)
    · simp only [byteAtGlobalDelta_adjacent (show 0 ≤ 3 by omega), byteAtGlobalDelta_adjacent (show 1 ≤ 3 by omega),
        byteAtGlobalDelta_adjacent (show 2 ≤ 3 by omega), byteAtGlobalDelta_adjacent (show 3 ≤ 3 by omega),
        adjacentWindow4]

/-- Two pages of two bytes at a stride of four: the byte after offset 3 is there, and the window at 3 misses it. -/
theorem not_byteWindow4Global_adjacent :
    byteWindow4Global [[1, 2], [3, 4]] (4 : UInt64).toNat (8 : UInt64).toNat (3 : UInt64).toNat ≠
      adjacentWindow4 [[1, 2], [3, 4]] (4 : UInt64).toNat (8 : UInt64).toNat (3 : UInt64).toNat := by
  decide

end MncsCompiler
