import Mathlib.Data.List.Basic

/-!
# `Lib.Chunks` — reading a list through fixed-stride chunks

A list cut into chunks of `stride` elements, the last one possibly shorter, is read back by division:
element `o` of the concatenation is element `o % stride` of chunk `o / stride`. `Uniform` is the shape,
`flatten_getElem?` the reading law, `Uniform.span` the law for a run of elements inside one chunk.
-/

namespace Chunks

variable {α : Type}

/-- Every chunk but the last has exactly `stride` elements, and the last no more than that. -/
def Uniform (stride : Nat) : List (List α) → Prop
  | [] => True
  | [p] => p.length ≤ stride
  | p :: q :: ps => p.length = stride ∧ Uniform stride (q :: ps)

theorem Uniform.tail {stride : Nat} {p : List α} {ps : List (List α)} (h : Uniform stride (p :: ps)) :
    Uniform stride ps := by
  cases ps with
  | nil => trivial
  | cons q ps => exact h.2

/-- A chunk that is not the last one is full. -/
theorem Uniform.head_length {stride : Nat} {p : List α} {ps : List (List α)}
    (h : Uniform stride (p :: ps)) (hne : ps ≠ []) : p.length = stride := by
  cases ps with
  | nil => exact absurd rfl hne
  | cons q ps => exact h.1

theorem Uniform.head_le {stride : Nat} {p : List α} {ps : List (List α)}
    (h : Uniform stride (p :: ps)) : p.length ≤ stride := by
  cases ps with
  | nil => exact h
  | cons q ps => exact Nat.le_of_eq h.1

/-- The pointwise form: full chunks below the last index, and no chunk longer than the stride. -/
theorem uniform_of_getElem {stride : Nat} {ps : List (List α)}
    (hle : ∀ i (h : i < ps.length), ps[i].length ≤ stride)
    (hfull : ∀ i (h : i < ps.length), i + 1 < ps.length → ps[i].length = stride) :
    Uniform stride ps := by
  induction ps with
  | nil => trivial
  | cons p ps ih =>
      cases ps with
      | nil => exact hle 0 (by simp)
      | cons q ps =>
          refine ⟨hfull 0 (by simp) (by simp), ih (fun i h => ?_) (fun i h h' => ?_)⟩
          · exact hle (i + 1) (by simpa using h)
          · exact hfull (i + 1) (by simpa using h) (by simpa using h')

/-- **Reading by division.** Below the total length, element `o` of the concatenation is element
    `o % stride` of chunk `o / stride`. -/
theorem flatten_getElem? {stride : Nat} (hs : 0 < stride) {ps : List (List α)} (h : Uniform stride ps)
    (o : Nat) : ps.flatten[o]? = (ps[o / stride]?).bind (fun p => p[o % stride]?) := by
  induction ps generalizing o with
  | nil => simp
  | cons p ps ih =>
      rw [List.flatten_cons]
      by_cases ho : o < stride
      · rw [Nat.div_eq_of_lt ho, Nat.mod_eq_of_lt ho]
        by_cases hp : o < p.length
        · simp [List.getElem?_append_left hp]
        · have hnil : ps = [] := by
            by_contra hne
            have := h.head_length hne
            omega
          subst hnil
          simp
      · have hmod : o % stride = (o - stride) % stride := by
          rw [Nat.mod_eq_sub_mod (by omega)]
        have hdiv : o / stride = (o - stride) / stride + 1 := by
          rw [Nat.div_eq_sub_div hs (by omega)]
        have hple := h.head_le
        rw [hdiv, hmod, List.getElem?_cons_succ, ← ih h.tail]
        by_cases hne : ps = []
        · subst hne
          simp only [List.flatten_nil, List.append_nil, List.getElem?_nil]
          exact List.getElem?_eq_none (by omega)
        · rw [List.getElem?_append_right (by omega), h.head_length hne]

/-- A position below the total length lands inside its chunk. -/
theorem Uniform.in_chunk {stride : Nat} (hs : 0 < stride) {ps : List (List α)} (h : Uniform stride ps)
    {o : Nat} (ho : o < ps.flatten.length) :
    ∃ p, ps[o / stride]? = some p ∧ o % stride < p.length ∧ p[o % stride]? = ps.flatten[o]? := by
  have hread := flatten_getElem? hs h o
  rw [List.getElem?_eq_getElem ho] at hread ⊢
  cases hp : ps[o / stride]? with
  | none => rw [hp] at hread; cases hread
  | some p =>
      rw [hp] at hread
      have hsome : p[o % stride]? = some ps.flatten[o] := hread.symm
      exact ⟨p, rfl, (List.getElem?_eq_some_iff.mp hsome).1, hsome⟩

/-- **A run inside one chunk.** If chunk `o / stride` still holds `k` more elements past `o % stride`, then
    element `o + k` is read from the same chunk. -/
theorem Uniform.span {stride : Nat} (hs : 0 < stride) {ps : List (List α)} (h : Uniform stride ps)
    {o k : Nat} {p : List α} (hp : ps[o / stride]? = some p) (hk : o % stride + k < stride) :
    ps.flatten[o + k]? = p[o % stride + k]? := by
  have hsplit : stride * (o / stride) + o % stride = o := Nat.div_add_mod o stride
  have hok : o + k = o % stride + k + stride * (o / stride) := by omega
  have hdiv : (o + k) / stride = o / stride := by
    rw [hok, Nat.add_mul_div_left _ _ hs, Nat.div_eq_of_lt hk, Nat.zero_add]
  have hmod : (o + k) % stride = o % stride + k := by
    rw [hok, Nat.add_mul_mod_self_left, Nat.mod_eq_of_lt hk]
  rw [flatten_getElem? hs h, hdiv, hmod, hp, Option.bind_some]

/-- The chunks before the last one hold `stride` elements each. -/
theorem Uniform.length_take {stride : Nat} {ps : List (List α)} (h : Uniform stride ps) {n : Nat}
    (hn : n < ps.length) : (ps.take n).flatten.length = n * stride := by
  induction ps generalizing n with
  | nil => simp at hn
  | cons p ps ih =>
      cases n with
      | zero => simp
      | succ n =>
          have hlt : n < ps.length := by simpa using hn
          have hp : p.length = stride := h.head_length (List.length_pos_iff.mp (by omega))
          rw [List.take_succ_cons, List.flatten_cons, List.length_append, ih h.tail hlt, hp, Nat.succ_mul]
          omega

/-- **Coordinates advance incrementally** by at most one chunk. -/
theorem advance_div_mod {stride : Nat} (hs : 0 < stride) {o d : Nat} (hd : d ≤ stride) :
    (if o % stride + d ≥ stride then (o / stride + 1, o % stride + d - stride)
      else (o / stride, o % stride + d)) = ((o + d) / stride, (o + d) % stride) := by
  have hmod : o % stride < stride := Nat.mod_lt _ hs
  have hsplit : o + d = (o % stride + d) + stride * (o / stride) := by
    have := Nat.div_add_mod o stride
    omega
  rw [hsplit, Nat.add_mul_div_left _ _ hs, Nat.add_mul_mod_self_left]
  generalize o % stride = r at hmod
  by_cases hge : r + d ≥ stride
  · have hlt : r + d - stride < stride := by omega
    rw [if_pos hge, Nat.div_eq_sub_div hs hge, Nat.mod_eq_sub_mod hge, Nat.div_eq_of_lt hlt,
      Nat.mod_eq_of_lt hlt, Nat.zero_add, Nat.add_comm 1]
  · have hlt : r + d < stride := by omega
    rw [if_neg hge, Nat.div_eq_of_lt hlt, Nat.mod_eq_of_lt hlt, Nat.zero_add]

/-! ## Cutting a list -/

/-- The first `n` chunks of a list. -/
def chunk (stride : Nat) : Nat → List α → List (List α)
  | 0, _ => []
  | n + 1, l => l.take stride :: chunk stride n (l.drop stride)

@[simp] theorem length_chunk (stride n : Nat) (l : List α) : (chunk stride n l).length = n := by
  induction n generalizing l with
  | zero => rfl
  | succ n ih => rw [chunk, List.length_cons, ih]

theorem getElem_chunk {stride n i : Nat} {l : List α} (h : i < (chunk stride n l).length) :
    (chunk stride n l)[i] = (l.drop (i * stride)).take stride := by
  induction n generalizing l i with
  | zero => simp [chunk] at h
  | succ n ih =>
      cases i with
      | zero => simp [chunk]
      | succ i =>
          have hi : i < (chunk stride n (l.drop stride)).length := by simpa using h
          simp only [chunk, List.getElem_cons_succ]
          rw [ih hi, List.drop_drop, Nat.succ_mul, Nat.add_comm]

/-- Enough chunks hold the whole list. -/
theorem flatten_chunk {stride n : Nat} {l : List α} (h : l.length ≤ n * stride) : (chunk stride n l).flatten = l := by
  induction n generalizing l with
  | zero =>
      rw [Nat.zero_mul] at h
      rw [List.eq_nil_of_length_eq_zero (Nat.le_zero.mp h)]
      rfl
  | succ n ih =>
      have hrest : (l.drop stride).length ≤ n * stride := by
        rw [List.length_drop]
        rw [Nat.succ_mul] at h
        omega
      rw [chunk, List.flatten_cons, ih hrest, List.take_append_drop]

/-- **Chunks are determined** by the stride, their number and what they hold. -/
theorem Uniform.eq_chunk {stride : Nat} {ps : List (List α)} (h : Uniform stride ps) :
    ps = chunk stride ps.length ps.flatten := by
  induction ps with
  | nil => rfl
  | cons p ps ih =>
      rw [List.length_cons, chunk, List.flatten_cons]
      cases ps with
      | nil =>
          have hp : p.length ≤ stride := h
          simp [chunk, List.take_of_length_le hp]
      | cons q ps =>
          have hp : p.length = stride := h.1
          rw [← hp, List.take_left', List.drop_left' rfl, hp, ← ih h.2]
          rfl

end Chunks
