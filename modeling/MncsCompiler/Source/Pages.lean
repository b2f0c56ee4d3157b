import MncsCompiler.Source.Unicode
import MncsCompiler.Lib.Chunks

/-!
# `Source.Pages` — the logical source: a fixed-stride page composition

The part of `source.mncs` that addresses a source transported as pages: structural validation, total byte
access at a global offset, one-scalar decoding, the four-byte window, the ASCII and UTF-8 admission of the
whole source, and the line/column of a global offset.

`Layout text` is a page table that `validate_pages` admits for `text`. The reading laws say that, over a layout,
every access by page coordinates is the access to `text` at the global offset; `Composition text` is a layout of
at most 1 MiB, and all later modules use its laws and never look at pages again.
-/

namespace MncsCompiler

open BoundedLoop

/-- The number of pages a source of `total` bytes takes. -/
def pageCountFor (stride total : Nat) : Nat :=
  if stride = 0 then 0
  else if total = 0 then 0
  else (total - 1) / stride + 1

/-- Codes: 0 valid; 1 zero stride; 2 stride above 1024; 3 a page exceeds the stride; 4 a non-terminal page is
    short; 5 wrong page count; 6 the terminal page disagrees with `total`. -/
def validatePages (pages : List View) (stride total : Nat) : Nat :=
  if stride = 0 then 1
  else if stride > 1024 then 2
  else if pages.length ≠ pageCountFor stride total then 5
  else if pages.length = 0 then 0
  else
    let code := carry (fun i code =>
      let page := pages.getD i []
      let tooLarge := page.length > stride
      let shortMiddle := i + 1 < pages.length && page.length != stride
      let pageError := if tooLarge then 3 else if shortMiddle then 4 else 0
      if code ≠ 0 then code else pageError) 0 pages.length 0
    if code ≠ 0 then code
    else
      let last := pages.length - 1
      if total < last * stride then 6
      else
        let terminal := pages.getD last []
        if terminal.length ≠ total - last * stride then 6 else 0

/-- The content byte at a global offset, or 256 past the end or past a page edge. -/
def byteAtGlobal (pages : List View) (stride total offset : Nat) : Nat :=
  if stride = 0 then 256
  else if offset ≥ total then 256
  else
    let page := offset / stride
    let intra := offset % stride
    if page ≥ pages.length then 256
    else
      let view := pages.getD page []
      if intra ≥ view.length then 256 else byte view intra

/-- `utf8Scalar` over global offsets. -/
def utf8ScalarGlobal (pages : List View) (stride total at' : Nat) : Utf8Scalar :=
  if at' ≥ total then { scalar := 0, next := at', valid := false }
  else
    let b0 := byteAtGlobal pages stride total at'
    if b0 ≥ 256 then { scalar := 0, next := at' + 1, valid := false }
    else if b0 < 128 then { scalar := b0, next := at' + 1, valid := true }
    else
      let need := utf8LeadContinuations b0
      if need = 0 then { scalar := 0, next := at' + 1, valid := false }
      else if at' + need ≥ total then { scalar := 0, next := at' + 1, valid := false }
      else
        let b1 := byteAtGlobal pages stride total (at' + 1)
        if !utf8FirstContinuationValid b0 b1 then { scalar := 0, next := at' + 1, valid := false }
        else if need = 1 then
          { scalar := (b0 - 192) * 64 + b1 % 64, next := at' + 2, valid := true }
        else
          let b2 := byteAtGlobal pages stride total (at' + 2)
          if !utf8Continuation b2 then { scalar := 0, next := at' + 1, valid := false }
          else if need = 2 then
            { scalar := (b0 - 224) * 4096 + (b1 % 64) * 64 + b2 % 64, next := at' + 3, valid := true }
          else
            let b3 := byteAtGlobal pages stride total (at' + 3)
            if !utf8Continuation b3 then { scalar := 0, next := at' + 1, valid := false }
            else
              { scalar := (b0 - 240) * 262144 + (b1 % 64) * 4096 + (b2 % 64) * 64 + b3 % 64,
                next := at' + 4, valid := true }

/-! ## Four-byte windows -/

structure ByteWindow4 where
  b0 : Nat
  b1 : Nat
  b2 : Nat
  b3 : Nat
  deriving DecidableEq, Repr

structure GlobalPageAddress where
  valid : Bool
  page : Nat
  intra : Nat
  offset : Nat
  deriving DecidableEq, Repr

def globalPageAddress (stride total offset : Nat) : GlobalPageAddress :=
  if stride = 0 || offset ≥ total then { valid := false, page := 0, intra := 0, offset := offset }
  else { valid := true, page := offset / stride, intra := offset % stride, offset := offset }

/-- Access at `offset + delta`, or 256 where the sum leaves `u64`. -/
def byteAtGlobalDelta (pages : List View) (stride total offset delta : Nat) : Nat :=
  if offset > 18446744073709551615 - delta then 256
  else byteAtGlobal pages stride total (offset + delta)

def missingWindow4 : ByteWindow4 := { b0 := 256, b1 := 256, b2 := 256, b3 := 256 }

/-- Four adjacent bytes of one page. -/
def pageWindow4 (view : View) (intra : Nat) : ByteWindow4 :=
  { b0 := byte view (intra + 0), b1 := byte view (intra + 1),
    b2 := byte view (intra + 2), b3 := byte view (intra + 3) }

/-- The common case stays in one page; page edges fall back to `byteAtGlobal`. -/
def byteWindow4Global (pages : List View) (stride total offset : Nat) : ByteWindow4 :=
  if stride = 0 then missingWindow4
  else if offset ≥ total then missingWindow4
  else
    let page := offset / stride
    let intra := offset % stride
    if page ≥ pages.length then missingWindow4
    else
      let view := pages.getD page []
      if intra ≥ view.length then missingWindow4
      else if total - offset ≥ 4 && stride - intra ≥ 4 && view.length - intra ≥ 4 then
        pageWindow4 view intra
      else
        { b0 := byteAtGlobalDelta pages stride total offset 0
          b1 := byteAtGlobalDelta pages stride total offset 1
          b2 := byteAtGlobalDelta pages stride total offset 2
          b3 := byteAtGlobalDelta pages stride total offset 3 }

def spanValidGlobal (total start stop : Nat) : Bool := start ≤ stop && stop ≤ total

/-! ## Whole-source admission -/

def asciiPageStep (pages : List View) (index : Nat) (valid : Bool) : Bool :=
  if !valid then false else asciiView (pages.getD index [])

def asciiGlobal (pages : List View) (stride total : Nat) : Bool :=
  if stride = 0 || total = 0 then true
  else
    (iterate (fun p valid =>
        let pageValid := asciiPageStep pages p valid
        if !pageValid then .ret false else .next pageValid) 0 pages.length true).after id

/-- One pass over at most 1024 bytes of the automaton. -/
def validateUtf8Batch (pages : List View) (stride total : Nat) (outer : Utf8ValidationState) :
    Utf8ValidationState :=
  (fun inner : Utf8ValidationState =>
    if inner.error || inner.cursor ≥ total then inner
    else utf8ValidationStep inner (byteAtGlobal pages stride total inner.cursor) inner.cursor)^[1024] outer

/-- `validateUtf8` over global offsets, in 1024 batches of 1024 bytes. -/
def validateUtf8Global (pages : List View) (stride total : Nat) : Utf8Validation :=
  if asciiGlobal pages stride total then { valid := true, errorOffset := 0 }
  else
    (iterate (fun _ outer =>
        if outer.error then .ret { valid := false, errorOffset := outer.errorOffset }
        else if outer.cursor ≥ total then
          if outer.remaining > 0 then .ret { valid := false, errorOffset := total }
          else .ret { valid := true, errorOffset := 0 }
        else .next (validateUtf8Batch pages stride total outer)) 0 1024 utf8Initial).after fun outer =>
      if outer.error then { valid := false, errorOffset := outer.errorOffset }
      else if outer.cursor < total then { valid := false, errorOffset := outer.cursor }
      else if outer.remaining > 0 then { valid := false, errorOffset := total }
      else { valid := true, errorOffset := 0 }

/-! ## Line and column of a global offset -/

def lineStepAt (pos stop value : Nat) (st : LineCol) : LineCol :=
  if pos ≥ stop then st
  else if value = 10 then { line := st.line + 1, col := 1 }
  else if 128 ≤ value && value ≤ 191 then st
  else { line := st.line, col := st.col + 1 }

/-- One page of the rendering walk; bytes at or past `stop` freeze the carry. -/
def lineColPageStep (pages : List View) (stride index stop : Nat) (st : LineCol) : LineCol :=
  let page := pages.getD index []
  if stride = 0 then carry (fun i cur => lineStepAt i stop (byte page i) cur) 0 page.length st
  else
    let base := index * stride
    if base ≥ stop then st
    else
      let remaining := stop - base
      let scannedBytes := if page.length ≤ remaining then page.length else remaining
      carry (fun i cur => lineStepAt (base + i) stop (byte page i) cur) 0 scannedBytes st

def lineColGlobal (pages : List View) (stride total offset : Nat) : LineCol :=
  let stop := if offset ≤ total then offset else total
  if stride = 0 then
    carry (fun p st => lineColPageStep pages stride p stop st) 0 pages.length LineCol.first
  else
    let requiredPages := pageCountFor stride stop
    let scannedPages := if requiredPages ≤ pages.length then requiredPages else pages.length
    carry (fun p st => lineColPageStep pages stride p stop st) 0 scannedPages LineCol.first

/-! ## Layouts -/

/-- A page table that `validate_pages` admits for `text`. -/
structure Layout (text : View) where
  pages : List View
  stride : Nat
  valid : validatePages pages stride text.length = 0
  content : pages.flatten = text

/-- A layout under the ceiling of 1024 pages of 1024 bytes, which caps one logical source at 1 MiB. -/
structure Composition (text : View) where
  pages : List View
  stride : Nat
  valid : validatePages pages stride text.length = 0
  content : pages.flatten = text
  small : text.length ≤ 1048576

/-- What the page loop of `validate_pages` has checked after `n` pages. -/
theorem validate_loop {pages : List View} {stride n : Nat} (hn : n ≤ pages.length)
    (h : carry (fun i code =>
      let page := pages.getD i []
      let tooLarge := page.length > stride
      let shortMiddle := i + 1 < pages.length && page.length != stride
      let pageError := if tooLarge then 3 else if shortMiddle then 4 else 0
      if code ≠ 0 then code else pageError) 0 n 0 = 0) :
    ∀ i (hi : i < pages.length), i < n →
      pages[i].length ≤ stride ∧ (i + 1 < pages.length → pages[i].length = stride) := by
  induction n with
  | zero => intro i _ hi0; exact absurd hi0 (Nat.not_lt_zero i)
  | succ n ih =>
      rw [carry_succ_last, Nat.zero_add] at h
      intro i hi hin
      have hn' : n < pages.length := hn
      have hget : pages.getD n [] = pages[n] := by simp [hn']
      simp only [hget] at h
      split at h
      · contradiction
      · rename_i hz
        by_cases hlt : i < n
        · exact ih (by omega) (Decidable.not_not.mp hz) i hi hlt
        · have : i = n := by omega
          subst this
          split at h
          · contradiction
          · split at h
            · contradiction
            · rename_i hle hmid
              refine ⟨by omega, fun hlast => ?_⟩
              simpa [hlast] using hmid

/-- The page loop of `ascii_global` answers for the pages not yet seen. -/
theorem ascii_pages (pages : List View) {i n : Nat} (h : i + n = pages.length) :
    (iterate (fun p valid =>
        let pageValid := asciiPageStep pages p valid
        if !pageValid then .ret false else .next pageValid) i n true).after id =
      (pages.drop i).flatten.all fun b => b.toNat < 128 := by
  induction n generalizing i with
  | zero => simp [List.drop_of_length_le (show pages.length ≤ i by omega)]
  | succ n ih =>
      have hlt : i < pages.length := by omega
      have hstep : asciiPageStep pages i true = pages[i].all fun b => b.toNat < 128 := by
        simp [asciiPageStep, asciiView_eq_all, hlt]
      rw [iterate_succ, List.drop_eq_getElem_cons hlt, List.flatten_cons, List.all_append]
      dsimp only
      rw [hstep]
      cases hall : pages[i].all fun b => b.toNat < 128 with
      | true =>
          rw [if_neg (by simp), Pass.bind_next, ih (by omega), Bool.true_and]
      | false => rfl

/-- The number of pages is enough, and one page less is not. -/
theorem pageCountFor_bounds {stride : Nat} (total : Nat) (hs : 0 < stride) :
    total ≤ pageCountFor stride total * stride ∧
      (0 < pageCountFor stride total → (pageCountFor stride total - 1) * stride < total) := by
  unfold pageCountFor
  rw [if_neg (by omega)]
  split
  · simp_all
  · have hlt := Nat.lt_div_mul_add hs (a := total - 1)
    have hle := Nat.div_mul_le_self (total - 1) stride
    rw [Nat.succ_mul, Nat.add_sub_cancel]
    omega

/-- Four adjacent bytes of a view, 256 past its end. -/
def Composition.window4 (text : View) (o : Nat) : ByteWindow4 :=
  { b0 := byteAt text o, b1 := byteAt text (o + 1), b2 := byteAt text (o + 2), b3 := byteAt text (o + 3) }

namespace Layout

open Composition (window4)

variable {text : View} (c : Layout text)

theorem stride_pos : 0 < c.stride := by
  have h := c.valid
  unfold validatePages at h
  by_contra hs
  simp [Nat.eq_zero_of_not_pos hs] at h

theorem stride_le : c.stride ≤ 1024 := by
  have h := c.valid
  have hs := c.stride_pos
  unfold validatePages at h
  by_contra hle
  simp [show c.stride ≠ 0 by omega, show c.stride > 1024 by omega] at h

theorem pages_count : c.pages.length = pageCountFor c.stride text.length := by
  have h := c.valid
  have hs := c.stride_pos
  have hle := c.stride_le
  unfold validatePages at h
  by_contra hne
  simp [show c.stride ≠ 0 by omega, show ¬ c.stride > 1024 by omega, hne] at h

/-- The pages of a composition are uniform chunks. -/
theorem uniform : Chunks.Uniform c.stride c.pages := by
  have h := c.valid
  have hs := c.stride_pos
  have hle := c.stride_le
  unfold validatePages at h
  rw [if_neg (by omega), if_neg (by omega), if_neg (not_not.mpr c.pages_count)] at h
  split at h
  · rename_i h0
    rw [List.length_eq_zero_iff.mp h0]
    trivial
  · simp only at h
    split at h
    · contradiction
    · rename_i hcode
      have hall := validate_loop (Nat.le_refl _) (Decidable.not_not.mp hcode)
      exact Chunks.uniform_of_getElem (fun i hi => (hall i hi hi).1)
        (fun i hi hlast => (hall i hi hi).2 hlast)

/-- **A composition is determined by its stride.** -/
theorem pages_eq : c.pages = Chunks.chunk c.stride (pageCountFor c.stride text.length) text := by
  have h := c.uniform.eq_chunk
  rwa [c.content, c.pages_count] at h

/-- The page holding an offset below the end. -/
theorem page_of_lt {o : Nat} (ho : o < text.length) :
    o / c.stride < c.pages.length ∧ o % c.stride < (c.pages.getD (o / c.stride) []).length ∧
      byte (c.pages.getD (o / c.stride) []) (o % c.stride) = byte text o := by
  have hfl : o < c.pages.flatten.length := by rw [c.content]; exact ho
  obtain ⟨p, hp, hlt, hread⟩ := c.uniform.in_chunk c.stride_pos hfl
  rw [c.content] at hread
  have hgetD : c.pages.getD (o / c.stride) [] = p := by simp [List.getD_eq_getElem?_getD, hp]
  refine ⟨(List.getElem?_eq_some_iff.mp hp).1, by rw [hgetD]; exact hlt, ?_⟩
  rw [hgetD, byte, byte, List.getD_eq_getElem?_getD, List.getD_eq_getElem?_getD, hread]

/-- A run inside one page reads the text. -/
theorem page_span {o k : Nat} (ho : o < text.length)
    (hk : o % c.stride + k < c.stride) :
    byte (c.pages.getD (o / c.stride) []) (o % c.stride + k) = byte text (o + k) := by
  have hfl : o < c.pages.flatten.length := by rw [c.content]; exact ho
  obtain ⟨p, hp, -, -⟩ := c.uniform.in_chunk c.stride_pos hfl
  have hread := c.uniform.span c.stride_pos hp hk
  rw [c.content] at hread
  have hgetD : c.pages.getD (o / c.stride) [] = p := by simp [List.getD_eq_getElem?_getD, hp]
  rw [hgetD, byte, byte, List.getD_eq_getElem?_getD, List.getD_eq_getElem?_getD, hread]

/-- No page is longer than the stride. -/
theorem page_le (i : Nat) : (c.pages.getD i []).length ≤ c.stride := by
  have h := c.uniform
  generalize c.pages = ps at h
  induction ps generalizing i with
  | nil => simp
  | cons p ps ih =>
      cases i with
      | zero => simpa using h.head_le
      | succ i => simpa using ih i h.tail

/-! ### Reading laws -/

/-- **Byte access.** -/
theorem byteAtGlobal_eq (o : Nat) : byteAtGlobal c.pages c.stride text.length o = byteAt text o := by
  unfold byteAtGlobal
  have hs := c.stride_pos
  rw [if_neg (by omega)]
  by_cases ho : o < text.length
  · obtain ⟨hp, hi, hb⟩ := c.page_of_lt ho
    simp only [if_neg (show ¬ o ≥ text.length by omega),
      if_neg (show ¬ o / c.stride ≥ c.pages.length by omega), if_neg (Nat.not_le.mpr hi), hb,
      byteAt_of_lt ho]
  · rw [if_pos (by omega), byteAt_of_ge (by omega)]

/-- **Scalar decoding.** -/
theorem utf8ScalarGlobal_eq (o : Nat) :
    utf8ScalarGlobal c.pages c.stride text.length o = utf8Scalar text o := by
  unfold utf8ScalarGlobal utf8Scalar
  by_cases ho : o < text.length
  · have hge : ¬ o ≥ text.length := by omega
    have h256 : ¬ byte text o ≥ 256 := by have := byte_lt text o; omega
    simp only [if_neg hge, byteAtGlobal_eq, byteAt_of_lt ho, if_neg h256]
    by_cases hneed : o + utf8LeadContinuations (byte text o) ≥ text.length
    · simp only [if_pos hneed]
    · -- every continuation byte read below lies inside the view
      have hread : ∀ k ≤ utf8LeadContinuations (byte text o), byteAt text (o + k) = byte text (o + k) :=
        fun k hk => byteAt_of_lt (by omega)
      have hle := utf8LeadContinuations_le (byte text o)
      have hcases : utf8LeadContinuations (byte text o) = 0 ∨ utf8LeadContinuations (byte text o) = 1 ∨
          utf8LeadContinuations (byte text o) = 2 ∨ utf8LeadContinuations (byte text o) = 3 := by omega
      rcases hcases with h | h | h | h <;> rw [h] at hread <;> simp only [h]
      · rfl
      · simp only [hread 1 (by omega)]; rfl
      · simp only [hread 1 (by omega), hread 2 (by omega)]; rfl
      · simp only [hread 1 (by omega), hread 2 (by omega), hread 3 (by omega)]
  · simp only [if_pos (show o ≥ text.length by omega)]

/-- A page-local window with four bytes left in text, stride and page is the window of the text, also
    `k` bytes further on in the same page. -/
theorem pageWindow4_eq {o k : Nat} (ho : o < text.length)
    (ht : o + k + 4 ≤ text.length) (hs : o % c.stride + k + 4 ≤ c.stride) :
    pageWindow4 (c.pages.getD (o / c.stride) []) (o % c.stride + k) = window4 text (o + k) := by
  simp only [pageWindow4, window4, Nat.add_assoc]
  rw [c.page_span ho (k := k + 0) (by omega), c.page_span ho (k := k + 1) (by omega),
    c.page_span ho (k := k + 2) (by omega), c.page_span ho (k := k + 3) (by omega),
    byteAt_of_lt (by omega), byteAt_of_lt (by omega), byteAt_of_lt (by omega), byteAt_of_lt (by omega),
    Nat.add_zero]

/-- **ASCII admission.** -/
theorem asciiGlobal_eq : asciiGlobal c.pages c.stride text.length = asciiView text := by
  have hs := c.stride_pos
  unfold asciiGlobal
  by_cases h0 : text.length = 0
  · have hnil : asciiView text = true := asciiView_iff.mpr (fun i hi => by omega)
    rw [hnil, if_pos (by simp [h0])]
  · have hloop := ascii_pages c.pages (i := 0) (n := c.pages.length) (by omega)
    rw [if_neg (by simp [h0]; omega), hloop, List.drop_zero, c.content, asciiView_eq_all]

/-- One page of the walk renders the bytes of that page below `stop`. -/
theorem lineColPageStep_eq (index stop : Nat) (st : LineCol) :
    lineColPageStep c.pages c.stride index stop st =
      ((c.pages.getD index []).take (stop - index * c.stride)).foldl
        (fun cur b => lineColAdvanceByte b.toNat cur) st := by
  have hs := c.stride_pos
  unfold lineColPageStep
  simp only [if_neg (show c.stride ≠ 0 by omega)]
  by_cases hbase : index * c.stride ≥ stop
  · rw [if_pos hbase, Nat.sub_eq_zero_of_le hbase, List.take_zero, List.foldl_nil]
  · have hmin : (if (c.pages.getD index []).length ≤ stop - index * c.stride
        then (c.pages.getD index []).length else stop - index * c.stride) =
        min (c.pages.getD index []).length (stop - index * c.stride) := by
      rw [Nat.min_def]
    have hbody : ∀ j cur, 0 ≤ j → j < 0 + min (c.pages.getD index []).length (stop - index * c.stride) →
        lineStepAt (index * c.stride + j) stop (byte (c.pages.getD index []) j) cur =
          lineColAdvanceByte (byte (c.pages.getD index []) j) cur := by
      intro j cur _ hj
      rw [lineStepAt, if_neg (by omega), lineColAdvanceByte]
    rw [if_neg hbase, hmin, carry_congr st hbody, carry_bytes _ (Nat.min_le_left _ _) st,
      Nat.min_comm, ← List.take_eq_take_min]

/-- The first `n` pages of the walk render the bytes below `stop` that they hold. -/
theorem lineCol_pages {n : Nat} (hn : n ≤ c.pages.length) (stop : Nat) :
    carry (fun p st => lineColPageStep c.pages c.stride p stop st) 0 n LineCol.first =
      ((c.pages.take n).flatten.take stop).foldl
        (fun cur b => lineColAdvanceByte b.toNat cur) LineCol.first := by
  induction n with
  | zero => simp
  | succ n ih =>
      have hlt : n < c.pages.length := hn
      have hlen : (c.pages.take n).flatten.length = n * c.stride :=
        c.uniform.length_take (by omega)
      rw [carry_succ_last, ih (by omega), lineColPageStep_eq, Nat.zero_add, ← List.foldl_append,
        List.take_add_one, List.getElem?_eq_getElem hlt, List.flatten_append, List.take_append, hlen]
      simp [List.getD_eq_getElem?_getD, hlt]

/-- **Line and column.** The rendering of an offset folds the bytes below the clamped offset. -/
theorem lineColGlobal_eq (offset : Nat) :
    lineColGlobal c.pages c.stride text.length offset =
      (text.take offset).foldl (fun cur b => lineColAdvanceByte b.toNat cur) LineCol.first := by
  have hs := c.stride_pos
  have hstop : (if offset ≤ text.length then offset else text.length) = min offset text.length := by
    rw [Nat.min_def]
  have htake : text.take offset = text.take (min offset text.length) := List.take_eq_take_min
  unfold lineColGlobal
  simp only [hstop, if_neg (show c.stride ≠ 0 by omega), htake]
  generalize hm : min offset text.length = stop
  have hle : stop ≤ text.length := by omega
  have hcount : pageCountFor c.stride stop ≤ c.pages.length := by
    rw [c.pages_count]
    unfold pageCountFor
    simp only [if_neg (show c.stride ≠ 0 by omega)]
    split
    · exact Nat.zero_le _
    · rw [if_neg (by omega)]
      exact Nat.succ_le_succ (Nat.div_le_div_right (by omega))
  rw [if_pos hcount, c.lineCol_pages hcount]
  congr 1
  -- the scanned pages cover the text up to `stop`
  have hcover : stop ≤ (c.pages.take (pageCountFor c.stride stop)).flatten.length := by
    by_cases hall : pageCountFor c.stride stop = c.pages.length
    · rw [hall, List.take_length, c.content]; exact hle
    · rw [c.uniform.length_take (by omega)]
      unfold pageCountFor
      simp only [if_neg (show c.stride ≠ 0 by omega)]
      split
      · omega
      · have := Nat.lt_div_mul_add hs (a := stop - 1)
        rw [Nat.succ_mul]
        omega
  conv_rhs => rw [← c.content, ← List.take_append_drop (pageCountFor c.stride stop) c.pages,
    List.flatten_append, List.take_append_of_le_length hcover]

/-- **UTF-8 admission** reads only the text. -/
theorem validateUtf8Batch_eq (outer : Utf8ValidationState) :
    validateUtf8Batch c.pages c.stride text.length outer =
      (fun inner : Utf8ValidationState =>
        if inner.error || inner.cursor ≥ text.length then inner
        else utf8ValidationStep inner (byteAt text inner.cursor) inner.cursor)^[1024] outer := by
  simp only [validateUtf8Batch, c.byteAtGlobal_eq]

end Layout

namespace Composition

/-- **Every stride has a composition**: the text cut at multiples of the stride. -/
def paginate (text : View) (stride : Nat) (hpos : 0 < stride) (hle : stride ≤ 1024) (hsmall : text.length ≤ 1048576) :
    Composition text where
  pages := Chunks.chunk stride (pageCountFor stride text.length) text
  stride := stride
  small := hsmall
  content := Chunks.flatten_chunk (pageCountFor_bounds _ hpos).1
  valid := by
    obtain ⟨hcover, hlast⟩ := pageCountFor_bounds text.length hpos
    unfold validatePages
    rw [if_neg (by omega), if_neg (by omega), if_neg (by simp), Chunks.length_chunk]
    split
    · rfl
    · rename_i hne
      generalize pageCountFor stride text.length = n at *
      have hpage : ∀ i, i < n → ((Chunks.chunk stride n text).getD i []).length =
          min stride (text.length - i * stride) := by
        intro i hi
        have hi' : i < (Chunks.chunk stride n text).length := by simpa using hi
        rw [List.getD_eq_getElem?_getD, List.getElem?_eq_getElem hi', Option.getD_some,
          Chunks.getElem_chunk, List.length_take, List.length_drop]
      have hfull : ∀ i, i + 1 < n → stride ≤ text.length - i * stride := by
        intro i hi
        have hmul : (i + 1) * stride ≤ (n - 1) * stride := Nat.mul_le_mul_right _ (by omega)
        have := hlast (by omega)
        rw [Nat.succ_mul] at hmul
        omega
      dsimp only
      rw [if_neg]
      · rw [if_neg (by have := hlast (by omega); omega), if_neg]
        rw [not_not, hpage _ (by omega)]
        refine Nat.min_eq_right ?_
        have hn : n * stride = (n - 1) * stride + stride := by
          rw [← Nat.succ_mul]; congr 1; omega
        omega
      · rw [not_not]
        refine carry_invariant (P := fun _ code => code = 0) rfl (fun j code _ hj hcode => ?_)
        rw [hcode, if_neg (by decide), hpage j (by omega), if_neg (by omega), if_neg]
        simp only [Bool.and_eq_true, decide_eq_true_eq, bne_iff_ne, not_and, not_not]
        intro hmid
        have := hfull j hmid
        omega

variable {text : View} (c : Composition text)

/-- A composition without its bound: the reading laws hold for every layout. -/
def layout : Layout text := ⟨c.pages, c.stride, c.valid, c.content⟩

theorem stride_pos : 0 < c.stride := c.layout.stride_pos

theorem stride_le : c.stride ≤ 1024 := c.layout.stride_le

/-- The page holding an offset below the end. -/
theorem page_of_lt {o : Nat} (ho : o < text.length) :
    o / c.stride < c.pages.length ∧ o % c.stride < (c.pages.getD (o / c.stride) []).length ∧
      byte (c.pages.getD (o / c.stride) []) (o % c.stride) = byte text o :=
  c.layout.page_of_lt ho

/-- A run inside one page reads the text. -/
theorem page_span {o k : Nat} (ho : o < text.length)
    (hk : o % c.stride + k < c.stride) :
    byte (c.pages.getD (o / c.stride) []) (o % c.stride + k) = byte text (o + k) :=
  c.layout.page_span ho hk

/-- **Byte access.** -/
theorem byteAtGlobal_eq (o : Nat) : byteAtGlobal c.pages c.stride text.length o = byteAt text o :=
  c.layout.byteAtGlobal_eq o

/-- **Scalar decoding.** -/
theorem utf8ScalarGlobal_eq (o : Nat) :
    utf8ScalarGlobal c.pages c.stride text.length o = utf8Scalar text o :=
  c.layout.utf8ScalarGlobal_eq o

/-- A page-local window with four bytes left in text, stride and page is the window of the text, also
    `k` bytes further on in the same page. -/
theorem pageWindow4_eq {o k : Nat} (ho : o < text.length)
    (ht : o + k + 4 ≤ text.length) (hs : o % c.stride + k + 4 ≤ c.stride) :
    pageWindow4 (c.pages.getD (o / c.stride) []) (o % c.stride + k) = window4 text (o + k) :=
  c.layout.pageWindow4_eq ho ht hs

/-- **ASCII admission.** -/
theorem asciiGlobal_eq : asciiGlobal c.pages c.stride text.length = asciiView text :=
  c.layout.asciiGlobal_eq

/-- **Line and column.** The rendering of an offset folds the bytes below the clamped offset. -/
theorem lineColGlobal_eq (offset : Nat) :
    lineColGlobal c.pages c.stride text.length offset =
      (text.take offset).foldl (fun cur b => lineColAdvanceByte b.toNat cur) LineCol.first :=
  c.layout.lineColGlobal_eq offset

/-- **UTF-8 admission** reads only the text. -/
theorem validateUtf8Batch_eq (outer : Utf8ValidationState) :
    validateUtf8Batch c.pages c.stride text.length outer =
      (fun inner : Utf8ValidationState =>
        if inner.error || inner.cursor ≥ text.length then inner
        else utf8ValidationStep inner (byteAt text inner.cursor) inner.cursor)^[1024] outer :=
  c.layout.validateUtf8Batch_eq outer

theorem byteAtGlobalDelta_eq (o k : Nat) :
    byteAtGlobalDelta c.pages c.stride text.length o k = byteAt text (o + k) := by
  have hsmall := c.small
  unfold byteAtGlobalDelta
  split
  · rw [byteAt_of_ge (by omega)]
  · exact c.byteAtGlobal_eq (o + k)

theorem byteWindow4Global_eq (o : Nat) :
    byteWindow4Global c.pages c.stride text.length o = window4 text o := by
  unfold byteWindow4Global
  have hs := c.stride_pos
  rw [if_neg (by omega)]
  by_cases ho : o < text.length
  · obtain ⟨hp, hi, -⟩ := c.page_of_lt ho
    simp only [if_neg (show ¬ o ≥ text.length by omega),
      if_neg (show ¬ o / c.stride ≥ c.pages.length by omega), if_neg (Nat.not_le.mpr hi)]
    split
    · rename_i h
      simp only [Bool.and_eq_true, decide_eq_true_eq] at h
      have hmod : o % c.stride < c.stride := Nat.mod_lt _ hs
      exact c.pageWindow4_eq (k := 0) ho (by omega) (by omega)
    · simp only [byteAtGlobalDelta_eq, Nat.add_zero, window4]
  · rw [if_pos (by omega), window4, byteAt_of_ge (by omega), byteAt_of_ge (by omega),
      byteAt_of_ge (by omega), byteAt_of_ge (by omega), missingWindow4]

end Composition

end MncsCompiler
