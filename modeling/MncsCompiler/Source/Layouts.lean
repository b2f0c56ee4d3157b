import Mathlib.Algebra.GroupWithZero.Nat
import MncsCompiler.Source.Pages

/-!
# `Source.Layouts` — what `validate_pages` admits, and the identity of its content

`validate_pages` answers 0 for the canonical tables and for no other (`validatePages_eq_zero_iff`), so every
admitted table is a layout of the concatenation of its pages (`Layout.ofPages`). The content fingerprint walks
pages in groups of four bytes; on any pages it is the plain FNV-1a fold of the concatenation, so it does not depend
on the stride either.
-/

namespace MncsCompiler

open BoundedLoop

/-! ## Content identity -/

/-- The basis of FNV-1a/64. -/
def fnvBasis : UInt64 := 14695981039346656037

def fnvStep (state : UInt64) (value : UInt8) : UInt64 := (state ^^^ value.toUInt64) * 1099511628211

/-- Four bytes a pass, then the tail. -/
def fingerprintPageStep (pages : List View) (index : Nat) (h : UInt64) : UInt64 :=
  let page := pages.getD index []
  let groups := page.length / 4
  let grouped := carry (fun group grouped =>
    let base := group * 4
    let h0 := (grouped ^^^ (page.getD (base + 0) 0).toUInt64) * 1099511628211
    let h1 := (h0 ^^^ (page.getD (base + 1) 0).toUInt64) * 1099511628211
    let h2 := (h1 ^^^ (page.getD (base + 2) 0).toUInt64) * 1099511628211
    (h2 ^^^ (page.getD (base + 3) 0).toUInt64) * 1099511628211) 0 groups h
  let tailCount := page.length - groups * 4
  carry (fun tailIndex acc => fnvStep acc (page.getD (groups * 4 + tailIndex) 0)) 0 tailCount grouped

def fingerprintGlobal (pages : List View) (stride total : Nat) : UInt64 :=
  if stride = 0 || total = 0 then fnvBasis
  else carry (fingerprintPageStep pages) 0 pages.length fnvBasis

/-- One page folds its bytes. -/
theorem fingerprintPageStep_eq (pages : List View) (index : Nat) (h : UInt64) :
    fingerprintPageStep pages index h = (pages.getD index []).foldl fnvStep h := by
  unfold fingerprintPageStep
  generalize pages.getD index [] = page
  have hgroup : ∀ (j : Nat) (s : UInt64), j < page.length / 4 →
      ((((s ^^^ (page.getD (j * 4 + 0) 0).toUInt64) * 1099511628211 ^^^
        (page.getD (j * 4 + 1) 0).toUInt64) * 1099511628211 ^^^
        (page.getD (j * 4 + 2) 0).toUInt64) * 1099511628211 ^^^
        (page.getD (j * 4 + 3) 0).toUInt64) * 1099511628211 = ((page.drop (j * 4)).take 4).foldl fnvStep s := by
    intro j s hj
    have hfour := carry_entries_from (fun b cur => fnvStep cur b) (0 : UInt8) (l := page) (b := j * 4) (n := 4)
      (by omega) s
    exact hfour
  have htail := carry_entries_from (fun b cur => fnvStep cur b) (0 : UInt8) (l := page) (b := page.length / 4 * 4)
    (n := page.length - page.length / 4 * 4) (by omega)
  have hrest : (page.drop (page.length / 4 * 4)).take (page.length - page.length / 4 * 4) =
      page.drop (page.length / 4 * 4) := List.take_of_length_le (Nat.le_of_eq (List.length_drop ..))
  dsimp only
  rw [carry_groups hgroup, htail, hrest, ← List.foldl_append, List.take_append_drop]

/-- The page walk folds the concatenation. -/
theorem fingerprint_pages (pages : List View) (h : UInt64) :
    carry (fingerprintPageStep pages) 0 pages.length h = pages.flatten.foldl fnvStep h := by
  have hstep : ∀ j s, 0 ≤ j → j < 0 + pages.length →
      fingerprintPageStep pages j s = (pages.getD j []).foldl fnvStep s :=
    fun j s _ _ => fingerprintPageStep_eq pages j s
  rw [carry_congr h hstep, carry_entries (fun page acc => page.foldl fnvStep acc) [] (Nat.le_refl _),
    List.take_length, List.foldl_flatten]

/-! ## Admission is canonical form -/

/-- The page count rounds the quotient up. -/
theorem pageCountFor_eq {stride : Nat} (total : Nat) (hs : 0 < stride) :
    pageCountFor stride total = (total + stride - 1) / stride := by
  unfold pageCountFor
  rw [if_neg (by omega)]
  split
  · rename_i h0
    rw [h0, Nat.div_eq_of_lt (by omega)]
  · rw [show total + stride - 1 = (total - 1) + stride by omega, Nat.add_div_right _ hs]

/-- The length of the full pages before one of the pages. -/
theorem length_flatten_full {pages : List View} {stride n : Nat}
    (hfull : ∀ i (h : i < pages.length), i + 1 < pages.length → pages[i].length = stride) (hn : n < pages.length) :
    (pages.take n).flatten.length = n * stride := by
  induction n with
  | zero => simp
  | succ n ih =>
      have hlt : n < pages.length := by omega
      rw [List.take_add_one, List.getElem?_eq_getElem hlt, List.flatten_append, List.length_append, ih hlt,
        Nat.succ_mul]
      simp [hfull n hlt hn]

/-- Full pages and the length of the last one. -/
theorem length_flatten_pages {pages : List View} {stride : Nat}
    (hfull : ∀ i (h : i < pages.length), i + 1 < pages.length → pages[i].length = stride) (hne : 0 < pages.length) :
    pages.flatten.length = (pages.length - 1) * stride + (pages.getD (pages.length - 1) []).length := by
  have hlast : pages.length - 1 < pages.length := by omega
  have hsplit := List.take_append_drop (pages.length - 1) pages
  have hdrop : pages.drop (pages.length - 1) = [pages[pages.length - 1]] := by
    rw [List.drop_eq_getElem_cons hlast, List.drop_of_length_le (by omega)]
  rw [List.getD_eq_getElem?_getD, List.getElem?_eq_getElem hlast, Option.getD_some]
  conv_lhs => rw [← hsplit, List.flatten_append, List.length_append, length_flatten_full hfull hlast, hdrop]
  simp

/-- **Admission is canonical form.** -/
theorem validatePages_eq_zero_iff (pages : List View) (stride total : Nat) :
    validatePages pages stride total = 0 ↔
      (1 ≤ stride ∧ stride ≤ 1024) ∧ pages.length = (total + stride - 1) / stride ∧
        (∀ i (h : i < pages.length), i + 1 < pages.length → pages[i].length = stride) ∧
        (pages.map List.length).sum = total := by
  unfold validatePages
  by_cases hs : stride = 0
  · rw [if_pos hs]
    exact ⟨fun h => absurd h (by decide), fun h => by omega⟩
  by_cases hle : stride > 1024
  · rw [if_neg hs, if_pos hle]
    exact ⟨fun h => absurd h (by decide), fun h => by omega⟩
  have hbounds : 1 ≤ stride ∧ stride ≤ 1024 := by omega
  rw [if_neg hs, if_neg hle, pageCountFor_eq total (by omega), ← List.length_flatten]
  by_cases hcount : pages.length = (total + stride - 1) / stride
  · rw [if_neg (not_not.mpr hcount)]
    by_cases hne : pages.length = 0
    · -- no page: the count says that there is no byte either
      rw [if_pos hne]
      have hnil : pages = [] := List.length_eq_zero_iff.mp hne
      have htotal : total = 0 := by
        by_contra h0
        have hdiv := Nat.div_pos (show stride ≤ total + stride - 1 by omega) (by omega)
        omega
      rw [htotal] at hcount ⊢
      rw [← hcount, hnil]
      simp [hbounds]
    · rw [if_neg hne]
      have hceil := (pageCountFor_bounds total (show 0 < stride by omega)).1
      rw [pageCountFor_eq total (by omega), ← hcount] at hceil
      have hmul : pages.length * stride = (pages.length - 1) * stride + stride := by
        rw [← Nat.succ_mul]; congr 1; omega
      have hget : ∀ i (h : i < pages.length), pages.getD i [] = pages[i] := by
        intro i h
        rw [List.getD_eq_getElem?_getD, List.getElem?_eq_getElem h, Option.getD_some]
      constructor
      · intro h
        dsimp only at h
        split at h
        · contradiction
        · rename_i hcode
          have hall := validate_loop (Nat.le_refl _) (Decidable.not_not.mp hcode)
          have hfull : ∀ i (h : i < pages.length), i + 1 < pages.length → pages[i].length = stride :=
            fun i hi hmid => (hall i hi hi).2 hmid
          refine ⟨hbounds, hcount, hfull, ?_⟩
          rw [length_flatten_pages hfull (by omega)]
          split at h
          · contradiction
          · split at h
            · contradiction
            · omega
      · rintro ⟨-, -, hfull, hsum⟩
        rw [length_flatten_pages hfull (by omega)] at hsum
        dsimp only
        rw [if_neg]
        · rw [if_neg (by omega), if_neg (by omega)]
        · -- every page passes its check: the last one by what is left for it
          rw [not_not]
          refine carry_invariant (P := fun _ code => code = 0) rfl (fun i code _ hi hcode => ?_)
          have hi' : i < pages.length := by omega
          rw [hcode, if_neg (by decide), hget i hi']
          by_cases hmid : i + 1 < pages.length
          · simp [hfull i hi' hmid]
          · have hlast : i = pages.length - 1 := by omega
            have hshort : pages[i].length ≤ stride := by
              rw [← hget i hi', hlast]
              omega
            simp [Nat.not_lt.mpr hshort, hmid]
  · rw [if_pos hcount]
    exact ⟨fun h => absurd h (by decide), fun h => absurd h.2.1 hcount⟩

/-- An admitted table is a layout of the concatenation of its pages. -/
def Layout.ofPages {pages : List View} {stride total : Nat} (h : validatePages pages stride total = 0) :
    Layout pages.flatten where
  pages := pages
  stride := stride
  valid := by
    have hsum := ((validatePages_eq_zero_iff pages stride total).mp h).2.2.2
    rw [List.length_flatten, hsum]
    exact h
  content := rfl

/-! ## Line and column of one view -/

/-- The rendering of an offset in one view folds the bytes below it. -/
theorem lineCol_eq (source : View) (offset : Nat) :
    lineCol source offset =
      (source.take offset).foldl (fun cur b => lineColAdvanceByte b.toNat cur) LineCol.first := by
  have hpass : ∀ n ≤ source.length, carry (lineStep source offset) 0 n LineCol.first =
      ((source.take n).take offset).foldl (fun cur b => lineColAdvanceByte b.toNat cur) LineCol.first := by
    intro n hn
    induction n with
    | zero => simp
    | succ n ih =>
        rw [carry_succ_last, ih (by omega), Nat.zero_add, List.take_take, List.take_take, lineStep]
        by_cases hge : n ≥ offset
        · rw [if_pos hge, Nat.min_eq_left (by omega), Nat.min_eq_left (by omega)]
        · have hlt : n < source.length := hn
          rw [if_neg hge, Nat.min_eq_right (by omega), Nat.min_eq_right (by omega), List.take_add_one,
            List.getElem?_eq_getElem hlt, List.foldl_append, byteAt_of_lt hlt, byte_eq_getElem hlt]
          rfl
  have hall := hpass source.length (Nat.le_refl _)
  rwa [List.take_length] at hall

/-- **An admitted page table is its concatenation**: admission is the canonical form, and on what it admits byte
    access, the fingerprint and the rendering of an offset are those of the concatenated pages. -/
theorem validatePages_exact (pages : List View) (stride total : Nat) :
    (validatePages pages stride total = 0 ↔
      (1 ≤ stride ∧ stride ≤ 1024) ∧ pages.length = (total + stride - 1) / stride ∧
        (∀ i (h : i < pages.length), i + 1 < pages.length → pages[i].length = stride) ∧
        (pages.map List.length).sum = total) ∧
    (validatePages pages stride total = 0 →
      (∀ o < total, some (byteAtGlobal pages stride total o) = pages.flatten[o]?.map UInt8.toNat) ∧
      (∀ o ≥ total, byteAtGlobal pages stride total o = 256) ∧
      fingerprintGlobal pages stride total = pages.flatten.foldl fnvStep fnvBasis ∧
      ∀ o, lineColGlobal pages stride total o = lineCol pages.flatten (min o total)) := by
  refine ⟨validatePages_eq_zero_iff pages stride total, ?_⟩
  intro h
  obtain ⟨⟨hs, -⟩, -, -, hsum⟩ := (validatePages_eq_zero_iff pages stride total).mp h
  have hlen : pages.flatten.length = total := by rw [List.length_flatten, hsum]
  let c := Layout.ofPages h
  have hbyte : ∀ o, byteAtGlobal pages stride total o = byteAt pages.flatten o := by
    intro o
    have hc := c.byteAtGlobal_eq o
    rwa [hlen] at hc
  refine ⟨?_, ?_, ?_, ?_⟩
  · intro o ho
    have ho' : o < pages.flatten.length := by omega
    rw [hbyte, byteAt_of_lt ho', byte_eq_getElem ho', List.getElem?_eq_getElem ho', Option.map_some]
  · intro o ho
    rw [hbyte, byteAt_of_ge (by omega)]
  · unfold fingerprintGlobal
    split
    · rename_i h0
      have htotal : pages.flatten = [] := by
        simp only [Bool.or_eq_true, decide_eq_true_eq] at h0
        exact List.length_eq_zero_iff.mp (by omega)
      rw [htotal, List.foldl_nil]
    · exact fingerprint_pages pages fnvBasis
  · intro o
    have hc := c.lineColGlobal_eq o
    rw [List.take_eq_take_min, ← lineCol_eq, hlen] at hc
    exact hc

/-- Two pages of two bytes, the second one short. -/
theorem validatePages_exact_two_pages :
    fingerprintGlobal [[10, 65], [66]] 2 3 = [10, 65, 66].foldl fnvStep fnvBasis ∧
      lineColGlobal [[10, 65], [66]] 2 3 7 = lineCol [10, 65, 66] (min 7 3) := by
  have h := (validatePages_exact [[10, 65], [66]] 2 3).2 (by decide)
  exact ⟨h.2.2.1, h.2.2.2 7⟩

end MncsCompiler
