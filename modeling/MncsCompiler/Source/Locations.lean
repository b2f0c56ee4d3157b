import MncsCompiler.Source.Layouts

/-!
# `Source.Locations` — many locations of one source in one walk

The forward scans of `source.mncs` that render several offsets without starting over: `line_cols_global`, which maps
a monotone batch of at most 64 offsets, and `line_col_span_global`, which renders both ends of a span. Over a layout
each is the independent rendering of its offsets (`lineCols_exact`): a scan that re-enters a page in its middle skips
the pages before it, and a walk that passes the start of a span remembers the position it had there.
-/

namespace MncsCompiler

open BoundedLoop

structure LineColSpan where
  start : LineCol
  stop : LineCol
  deriving DecidableEq, Repr

structure LineColSpanScan where
  current : LineCol
  start : LineCol
  foundStart : Bool
  deriving DecidableEq, Repr

structure LineColManyResult where
  ordered : Bool
  invalidIndex : Nat
  locations : List LineCol
  deriving DecidableEq, Repr

structure LineColManyState where
  cursor : Nat
  current : LineCol
  previous : Nat
  hasPrevious : Bool
  ordered : Bool
  invalidIndex : Nat
  locations : Vector LineCol 64
  deriving DecidableEq, Repr

/-! ## The batch -/

def lineColPageLocalStart (start base : Nat) : Nat := if start > base then start - base else 0

def lineColAdvancePageStep (pages : List View) (stride start stop index : Nat) (st : LineCol) : LineCol :=
  let page := pages.getD index []
  let base := index * stride
  if base ≥ stop then st
  else
    let start' := lineColPageLocalStart start base
    let remaining := stop - base
    let finish := if page.length ≤ remaining then page.length else remaining
    if start' ≥ finish then st
    else carry (fun i cur => lineColAdvanceByte (byte page (start' + i)) cur) 0 (finish - start') st

/-- Ordered callers already scanned the prefix ending at `start`: its pages are skipped. -/
def lineColAdvanceGlobal (pages : List View) (stride start stop : Nat) (initial : LineCol) : LineCol :=
  if stride = 0 then lineColGlobal pages stride stop stop
  else
    let requiredPages := pageCountFor stride stop
    let scannedPages := if requiredPages ≤ pages.length then requiredPages else pages.length
    let requestedStartPage := start / stride
    let firstPage := if requestedStartPage ≤ scannedPages then requestedStartPage else scannedPages
    carry (fun p st => lineColAdvancePageStep pages stride start stop (firstPage + p) st) 0
      (scannedPages - firstPage) initial

def lineColManyPosition (pages : List View) (stride total start stop : Nat) (current : LineCol) : LineCol :=
  if stride = 0 then lineColGlobal pages stride total stop
  else lineColAdvanceGlobal pages stride start stop current

def lineColsStep (pages : List View) (stride total offset index : Nat) (st : LineColManyState) :
    LineColManyState :=
  if !st.ordered then st
  else
    let clamped := if offset ≤ total then offset else total
    if st.hasPrevious && clamped < st.previous then
      { cursor := st.cursor, current := st.current, previous := st.previous, hasPrevious := true, ordered := false,
        invalidIndex := index, locations := st.locations }
    else
      let position := lineColManyPosition pages stride total st.cursor clamped st.current
      { cursor := clamped, current := position, previous := clamped, hasPrevious := true, ordered := true,
        invalidIndex := 0, locations := st.locations.setIfInBounds index position }

def lineColManyInitial : LineColManyState :=
  { cursor := 0, current := LineCol.first, previous := 0, hasPrevious := false, ordered := true, invalidIndex := 0,
    locations := Vector.replicate 64 LineCol.first }

/-- Map a bounded monotone batch of offsets with one forward scan. -/
def lineColsGlobal (pages : List View) (stride total : Nat) (offsets : List Nat) : LineColManyResult :=
  let st := carry (fun index st => lineColsStep pages stride total (offsets.getD index 0) index st) 0 offsets.length
    lineColManyInitial
  if !st.ordered then { ordered := false, invalidIndex := st.invalidIndex, locations := [] }
  else { ordered := true, invalidIndex := 0, locations := st.locations.toList.take offsets.length }

/-! ## The span -/

def lineColSpanStep (pos start stop value : Nat) (st : LineColSpanScan) : LineColSpanScan :=
  let current := lineStepAt pos stop value st.current
  if pos = start then { current := current, start := st.current, foundStart := true }
  else { current := current, start := st.start, foundStart := st.foundStart }

def lineColSpanPageStep (pages : List View) (stride index start stop : Nat) (st : LineColSpanScan) :
    LineColSpanScan :=
  let page := pages.getD index []
  let base := index * stride
  if base ≥ stop then st
  else
    let remaining := stop - base
    let scannedBytes := if page.length ≤ remaining then page.length else remaining
    carry (fun i cur => lineColSpanStep (base + i) start stop (byte page i) cur) 0 scannedBytes st

/-- Render both ends of a span in one prefix walk; a start past the end is clamped to it. -/
def lineColSpanGlobal (pages : List View) (stride total start stop : Nat) : LineColSpan :=
  let clampedEnd := if stop ≤ total then stop else total
  let clampedStart := if start ≤ clampedEnd then start else clampedEnd
  if stride = 0 then
    { start := lineColGlobal pages stride total clampedStart, stop := lineColGlobal pages stride total clampedEnd }
  else if clampedStart = 0 then
    { start := LineCol.first, stop := lineColGlobal pages stride total clampedEnd }
  else if clampedStart = clampedEnd then
    let position := lineColGlobal pages stride total clampedEnd
    { start := position, stop := position }
  else
    let requiredPages := pageCountFor stride clampedEnd
    let scannedPages := if requiredPages ≤ pages.length then requiredPages else pages.length
    let initialScan : LineColSpanScan :=
      { current := LineCol.first, start := LineCol.first, foundStart := clampedStart == 0 }
    let scan := carry (fun p scan => lineColSpanPageStep pages stride p clampedStart clampedEnd scan) 0 scannedPages
      initialScan
    if !scan.foundStart then { start := scan.current, stop := scan.current }
    else { start := scan.start, stop := scan.current }

/-! ## The walks over a layout -/

/-- The rendering of the first `n` bytes. -/
def lineColAfter (text : View) (n : Nat) : LineCol :=
  (text.take n).foldl (fun cur b => lineColAdvanceByte b.toNat cur) LineCol.first

theorem lineColAfter_succ {text : View} {n : Nat} (h : n < text.length) :
    lineColAfter text (n + 1) = lineColAdvanceByte (byte text n) (lineColAfter text n) := by
  rw [lineColAfter, List.take_add_one, List.getElem?_eq_getElem h, List.foldl_append, byte_eq_getElem h]
  rfl

/-- Rendering on from an earlier position. -/
theorem lineColAfter_advance (text : View) {start stop : Nat} (h : start ≤ stop) :
    ((text.take stop).drop start).foldl (fun cur b => lineColAdvanceByte b.toNat cur) (lineColAfter text start) =
      lineColAfter text stop := by
  have htake : text.take start = (text.take stop).take start := by rw [List.take_take, Nat.min_eq_left h]
  rw [lineColAfter, htake, ← List.foldl_append, List.take_append_drop, lineColAfter]

/-- What the walk of a span carries after `n` bytes. -/
def spanScan (text : View) (start n : Nat) : LineColSpanScan :=
  { current := lineColAfter text n, start := if start < n then lineColAfter text start else LineCol.first,
    foundStart := start < n }

/-- One byte of the walk of a span. -/
theorem lineColSpanStep_eq {text : View} {start stop pos : Nat} (hpos : pos < stop) (hstop : stop ≤ text.length) :
    lineColSpanStep pos start stop (byte text pos) (spanScan text start pos) = spanScan text start (pos + 1) := by
  have hcurrent : lineStepAt pos stop (byte text pos) (lineColAfter text pos) = lineColAfter text (pos + 1) := by
    rw [lineColAfter_succ (by omega), lineStepAt, if_neg (by omega), lineColAdvanceByte]
  unfold lineColSpanStep spanScan
  dsimp only
  rw [hcurrent]
  by_cases hat : pos = start
  · subst hat
    simp
  · have hiff : start < pos ↔ start < pos + 1 := by omega
    simp [hat, hiff]

namespace Layout

variable {text : View} (c : Layout text)

/-- A page holds the bytes from its base on. -/
theorem page_eq (i : Nat) : c.pages.getD i [] = (text.drop (i * c.stride)).take c.stride := by
  by_cases hi : i < c.pages.length
  · have hchunk := c.pages_eq
    have hi' : i < (Chunks.chunk c.stride (pageCountFor c.stride text.length) text).length := by rwa [← hchunk]
    rw [hchunk, List.getD_eq_getElem?_getD, List.getElem?_eq_getElem hi', Option.getD_some, Chunks.getElem_chunk]
  · have hcover := (pageCountFor_bounds text.length c.stride_pos).1
    rw [← c.pages_count] at hcover
    have hmul := Nat.mul_le_mul_right c.stride (Nat.not_lt.mp hi)
    rw [List.getD_eq_getElem?_getD, List.getElem?_eq_none (by omega), Option.getD_none,
      List.drop_of_length_le (by omega), List.take_nil]

theorem page_length (i : Nat) : (c.pages.getD i []).length = min c.stride (text.length - i * c.stride) := by
  rw [c.page_eq, List.length_take, List.length_drop]

/-- The pages a walk up to `stop` takes are there. -/
theorem scanned_eq {stop : Nat} (hstop : stop ≤ text.length) :
    (if pageCountFor c.stride stop ≤ c.pages.length then pageCountFor c.stride stop else c.pages.length) =
      pageCountFor c.stride stop := by
  have hs := c.stride_pos
  refine if_pos ?_
  rw [c.pages_count, pageCountFor_eq _ hs, pageCountFor_eq _ hs]
  exact Nat.div_le_div_right (by omega)

/-- The pages of a walk up to `stop` reach it. -/
theorem scanned_cover (stop : Nat) : min (pageCountFor c.stride stop * c.stride) stop = stop :=
  Nat.min_eq_right (pageCountFor_bounds stop c.stride_pos).1

theorem lineColGlobal_after (offset : Nat) :
    lineColGlobal c.pages c.stride text.length offset = lineColAfter text offset := c.lineColGlobal_eq offset

/-- One page of the advancing walk renders its bytes between `start` and `stop`. -/
theorem lineColAdvancePageStep_eq (start stop index : Nat) (st : LineCol) :
    lineColAdvancePageStep c.pages c.stride start stop index st =
      (((c.pages.getD index []).take (stop - index * c.stride)).drop (start - index * c.stride)).foldl
        (fun cur b => lineColAdvanceByte b.toNat cur) st := by
  unfold lineColAdvancePageStep
  generalize c.pages.getD index [] = page
  have hlocal : lineColPageLocalStart start (index * c.stride) = start - index * c.stride := by
    unfold lineColPageLocalStart
    split <;> omega
  have hfinish : (if page.length ≤ stop - index * c.stride then page.length else stop - index * c.stride) =
      (page.take (stop - index * c.stride)).length := by
    rw [List.length_take, Nat.min_comm, Nat.min_def]
  simp only [hlocal, hfinish]
  generalize hcut : page.take (stop - index * c.stride) = cut
  have hle : cut.length ≤ page.length := by rw [← hcut, List.length_take]; exact Nat.min_le_right _ _
  by_cases hbase : index * c.stride ≥ stop
  · rw [if_pos hbase, ← hcut, Nat.sub_eq_zero_of_le hbase, List.take_zero, List.drop_nil, List.foldl_nil]
  · rw [if_neg hbase]
    by_cases hempty : start - index * c.stride ≥ cut.length
    · rw [if_pos hempty, List.drop_of_length_le hempty, List.foldl_nil]
    · have hread : ∀ i cur, 0 ≤ i → i < 0 + (cut.length - (start - index * c.stride)) →
          lineColAdvanceByte (byte page (start - index * c.stride + i)) cur =
            lineColAdvanceByte (cut.getD (start - index * c.stride + i) 0).toNat cur := by
        intro i cur _ hi
        have hin : start - index * c.stride + i < cut.length := by omega
        have hsame : cut[start - index * c.stride + i] = page[start - index * c.stride + i] := by
          simp only [← hcut, List.getElem_take]
        rw [byte_eq_getElem (by omega), List.getD_eq_getElem?_getD, List.getElem?_eq_getElem hin, Option.getD_some,
          hsame]
      have hwalk := carry_entries_from (fun b cur => lineColAdvanceByte b.toNat cur) (0 : UInt8) (l := cut)
        (b := start - index * c.stride) (n := cut.length - (start - index * c.stride)) (by omega) st
      rw [List.take_of_length_le (Nat.le_of_eq (List.length_drop ..))] at hwalk
      rw [if_neg hempty]
      exact (carry_congr st hread).trans hwalk

/-- The first `n` pages of the advancing walk. -/
theorem lineColAdvance_pages {start stop : Nat} (hstop : stop ≤ text.length) (n : Nat) (st : LineCol) :
    carry (fun p st => lineColAdvancePageStep c.pages c.stride start stop p st) 0 n st =
      ((text.take (min (n * c.stride) stop)).drop start).foldl (fun cur b => lineColAdvanceByte b.toNat cur) st := by
  induction n with
  | zero => simp
  | succ n ih =>
      rw [carry_succ_last, ih, Nat.zero_add, c.lineColAdvancePageStep_eq, ← List.foldl_append, c.page_eq,
        List.take_take]
      congr 1
      by_cases hbase : n * c.stride ≥ stop
      · rw [Nat.min_eq_right hbase, Nat.sub_eq_zero_of_le hbase, Nat.zero_min, List.take_zero, List.drop_nil,
          List.append_nil, Nat.min_eq_right (by rw [Nat.succ_mul]; omega)]
      · -- the bytes of this page follow those of the pages before it
        have hend : min ((n + 1) * c.stride) stop = n * c.stride + min (stop - n * c.stride) c.stride := by
          rw [Nat.succ_mul]
          omega
        have hlen : (text.take (n * c.stride)).length = n * c.stride := by
          rw [List.length_take]
          omega
        rw [hend, Nat.min_eq_left (by omega), List.take_add, List.drop_append, hlen]

/-- A page that ends before `start` is passed over. -/
theorem lineColAdvancePageStep_skip {start stop index : Nat} (hskip : index < start / c.stride) (st : LineCol) :
    lineColAdvancePageStep c.pages c.stride start stop index st = st := by
  have hmul : (index + 1) * c.stride ≤ start :=
    Nat.le_trans (Nat.mul_le_mul_right _ hskip) (Nat.div_mul_le_self start c.stride)
  rw [Nat.succ_mul] at hmul
  have hle := c.page_le index
  rw [c.lineColAdvancePageStep_eq, List.drop_of_length_le, List.foldl_nil]
  rw [List.length_take]
  omega

/-- **The advancing walk** renders the bytes between `start` and `stop`. -/
theorem lineColAdvanceGlobal_eq {start stop : Nat} (hstop : stop ≤ text.length) (st : LineCol) :
    lineColAdvanceGlobal c.pages c.stride start stop st =
      ((text.take stop).drop start).foldl (fun cur b => lineColAdvanceByte b.toNat cur) st := by
  have hs := c.stride_pos
  unfold lineColAdvanceGlobal
  simp only [if_neg (show c.stride ≠ 0 by omega), c.scanned_eq hstop]
  generalize hn : pageCountFor c.stride stop = n
  have hall := @lineColAdvance_pages _ c start stop hstop n st
  rw [← hn, c.scanned_cover, hn] at hall
  rw [← hall]
  -- the pages before the first one change nothing
  have hfirst : (if start / c.stride ≤ n then start / c.stride else n) = min (start / c.stride) n := by
    rw [Nat.min_def]
  rw [hfirst]
  generalize hm : min (start / c.stride) n = m
  have hskip : ∀ k ≤ m,
      carry (fun p st => lineColAdvancePageStep c.pages c.stride start stop p st) 0 k st = st := by
    intro k hk
    induction k with
    | zero => rfl
    | succ k ih => rw [carry_succ_last, ih (by omega), c.lineColAdvancePageStep_skip (by omega)]
  have hsplit := carry_split (fun p st => lineColAdvancePageStep c.pages c.stride start stop p st) m (n - m) st
  rw [hskip m (Nat.le_refl _), Nat.add_sub_cancel' (by omega)] at hsplit
  exact hsplit.symm

/-- One page of the walk of a span. -/
theorem lineColSpanPageStep_eq {start stop n : Nat} (hstop : stop ≤ text.length) :
    lineColSpanPageStep c.pages c.stride n start stop (spanScan text start (min (n * c.stride) stop)) =
      spanScan text start (min ((n + 1) * c.stride) stop) := by
  have hs := c.stride_pos
  unfold lineColSpanPageStep
  by_cases hbase : n * c.stride ≥ stop
  · rw [if_pos hbase, Nat.min_eq_right hbase, Nat.min_eq_right (by rw [Nat.succ_mul]; omega)]
  · have hlen := c.page_length n
    have hscan : (if (c.pages.getD n []).length ≤ stop - n * c.stride then (c.pages.getD n []).length
        else stop - n * c.stride) = min c.stride (stop - n * c.stride) := by
      rw [← Nat.min_def, hlen, Nat.min_assoc, Nat.min_eq_right (Nat.sub_le_sub_right hstop _)]
    have hend : min ((n + 1) * c.stride) stop = n * c.stride + min c.stride (stop - n * c.stride) := by
      rw [Nat.succ_mul]
      omega
    -- the pages' bytes are those of the text from the base on
    have hread : ∀ i < c.stride, byte (c.pages.getD n []) i = byte text (n * c.stride + i) := by
      intro i hi
      have hspan := c.page_span (o := n * c.stride) (k := i) (by omega) (by rw [Nat.mul_mod_left]; omega)
      rwa [Nat.mul_mod_left, Nat.mul_div_cancel _ hs, Nat.zero_add] at hspan
    have hfrom : min (n * c.stride) stop = n * c.stride := Nat.min_eq_left (by omega)
    simp only [if_neg hbase, hscan]
    rw [hfrom, hend]
    have hwalk := carry_invariant (f := fun i cur =>
        lineColSpanStep (n * c.stride + i) start stop (byte (c.pages.getD n []) i) cur)
      (P := fun i st => st = spanScan text start (n * c.stride + i)) (i := 0)
      (n := min c.stride (stop - n * c.stride)) (s := spanScan text start (n * c.stride)) rfl (by
        rintro i _ _ hi rfl
        rw [hread i (by omega), lineColSpanStep_eq (by omega) hstop, Nat.add_assoc])
    rwa [Nat.zero_add] at hwalk

/-- **The span walk** renders its ends independently. -/
theorem lineColSpanGlobal_eq (start stop : Nat) :
    lineColSpanGlobal c.pages c.stride text.length start stop =
      { start := lineColGlobal c.pages c.stride text.length (min start (min stop text.length)),
        stop := lineColGlobal c.pages c.stride text.length (min stop text.length) } := by
  have hs := c.stride_pos
  have hend : (if stop ≤ text.length then stop else text.length) = min stop text.length := by rw [Nat.min_def]
  have hstart : ∀ e, (if start ≤ e then start else e) = min start e := fun e => by rw [Nat.min_def]
  unfold lineColSpanGlobal
  simp only [hend, hstart, if_neg (show c.stride ≠ 0 by omega)]
  generalize he : min stop text.length = e
  generalize hb : min start e = b
  have hle : e ≤ text.length := by omega
  by_cases h0 : b = 0
  · rw [if_pos h0, h0, c.lineColGlobal_after 0]
    rfl
  · rw [if_neg h0]
    by_cases heq : b = e
    · rw [if_pos heq, heq]
    · have hwalk : ∀ n, carry (fun p scan => lineColSpanPageStep c.pages c.stride p b e scan) 0 n
          { current := LineCol.first, start := LineCol.first, foundStart := b == 0 } =
          spanScan text b (min (n * c.stride) e) := by
        intro n
        induction n with
        | zero => simp [spanScan, lineColAfter, h0]
        | succ n ih => rw [carry_succ_last, ih, Nat.zero_add, c.lineColSpanPageStep_eq hle]
      have hfound : b < e := by omega
      rw [if_neg heq, c.scanned_eq hle, hwalk, c.scanned_cover, c.lineColGlobal_after, c.lineColGlobal_after]
      simp [spanScan, hfound]

end Layout

/-! ## The batch over a layout -/

section Batch

variable {text : View} (c : Layout text) (offsets : List Nat)

/-- The offset of a query, clamped to the end of the source. -/
def clampedAt (total : Nat) (offsets : List Nat) (k : Nat) : Nat := min (offsets.getD k 0) total

/-- The first `k` clamped queries do not decrease. -/
def OrderedTo (total : Nat) (offsets : List Nat) (k : Nat) : Prop :=
  ∀ j, j + 1 < k → clampedAt total offsets j ≤ clampedAt total offsets (j + 1)

/-- What the batch carries after `k` queries in order. -/
structure BatchAt (text : View) (offsets : List Nat) (k : Nat) (st : LineColManyState) : Prop where
  ordered : st.ordered = true
  monotone : OrderedTo text.length offsets k
  started : st.hasPrevious = decide (0 < k)
  previous : ∀ j, k = j + 1 → st.previous = clampedAt text.length offsets j
  cursor : st.cursor = st.previous
  fresh : k = 0 → st.previous = 0
  current : st.current = lineColAfter text st.cursor
  located : ∀ j (h : j < 64), j < k → st.locations[j] = lineColAfter text (clampedAt text.length offsets j)

/-- What it carries once a query was smaller than the one before. -/
def RejectedAt (total : Nat) (offsets : List Nat) (k : Nat) (st : LineColManyState) : Prop :=
  st.ordered = false ∧ ∃ i, i + 1 < k ∧ st.invalidIndex = i + 1 ∧
    clampedAt total offsets (i + 1) < clampedAt total offsets i ∧ OrderedTo total offsets (i + 1)

theorem RejectedAt.step {total k : Nat} {offsets : List Nat} {st : LineColManyState}
    (h : RejectedAt total offsets k st) (pages : List View) (stride offset : Nat) :
    RejectedAt total offsets (k + 1) (lineColsStep pages stride total offset k st) := by
  obtain ⟨hst, i, hi, hrest⟩ := h
  have hstep : lineColsStep pages stride total offset k st = st := by simp [lineColsStep, hst]
  rw [hstep]
  exact ⟨hst, i, by omega, hrest⟩

/-- One query. -/
theorem BatchAt.step {k : Nat} {st : LineColManyState} (h : BatchAt text offsets k st) :
    BatchAt text offsets (k + 1)
        (lineColsStep c.pages c.stride text.length (offsets.getD k 0) k st) ∨
      RejectedAt text.length offsets (k + 1)
        (lineColsStep c.pages c.stride text.length (offsets.getD k 0) k st) := by
  obtain ⟨hordered, hmono, hstarted, hprev, hcursor, hfresh, hcurrent, hlocated⟩ := h
  have hclamp : (if offsets.getD k 0 ≤ text.length then offsets.getD k 0 else text.length) =
      clampedAt text.length offsets k := by
    rw [clampedAt, Nat.min_def]
  have hle : clampedAt text.length offsets k ≤ text.length := Nat.min_le_right _ _
  unfold lineColsStep
  simp only [hordered, hclamp, Bool.not_true, Bool.false_eq_true, if_false]
  by_cases hdec : (st.hasPrevious && decide (clampedAt text.length offsets k < st.previous)) = true
  · right
    rw [if_pos hdec]
    simp only [hstarted, Bool.and_eq_true, decide_eq_true_eq] at hdec
    obtain ⟨j, rfl⟩ := Nat.exists_eq_succ_of_ne_zero (Nat.pos_iff_ne_zero.mp hdec.1)
    exact ⟨rfl, j, by omega, rfl, hprev j rfl ▸ hdec.2, hmono⟩
  · left
    rw [if_neg hdec]
    -- the query is at or after the position of the walk
    have hfrom : st.cursor ≤ clampedAt text.length offsets k := by
      rw [hcursor]
      by_cases hk : k = 0
      · rw [hfresh hk]
        exact Nat.zero_le _
      · simp only [hstarted, Bool.and_eq_true, decide_eq_true_eq, not_and] at hdec
        have := hdec (by omega)
        omega
    have hposition : lineColManyPosition c.pages c.stride text.length st.cursor
        (clampedAt text.length offsets k) st.current = lineColAfter text (clampedAt text.length offsets k) := by
      rw [lineColManyPosition, if_neg (by have := c.stride_pos; omega), c.lineColAdvanceGlobal_eq hle, hcurrent,
        lineColAfter_advance text hfrom]
    rw [hposition]
    refine ⟨rfl, ?_, by simp, ?_, rfl, fun h0 => by omega, rfl, ?_⟩
    · intro j hj
      by_cases hlast : j + 1 < k
      · exact hmono j hlast
      · obtain rfl : k = j + 1 := by omega
        rw [← hprev j rfl, ← hcursor]
        exact hfrom
    · intro j hj
      obtain rfl : k = j := by omega
      rfl
    · intro j hj64 hj
      dsimp only
      rw [Vector.getElem_setIfInBounds]
      by_cases hjk : k = j
      · rw [if_pos hjk, hjk]
      · rw [if_neg hjk]
        exact hlocated j hj64 (by omega)

/-- **The walk of a batch.** -/
theorem lineCols_pass (k : Nat) :
    BatchAt text offsets k (carry (fun index st =>
        lineColsStep c.pages c.stride text.length (offsets.getD index 0) index st) 0 k lineColManyInitial) ∨
      RejectedAt text.length offsets k (carry (fun index st =>
        lineColsStep c.pages c.stride text.length (offsets.getD index 0) index st) 0 k lineColManyInitial) := by
  induction k with
  | zero =>
      left
      refine ⟨rfl, fun j hj => by omega, rfl, fun j hj => by omega, rfl, fun _ => rfl, ?_, fun j _ hj => by omega⟩
      rfl
  | succ k ih =>
      rw [carry_succ_last, Nat.zero_add]
      rcases ih with hbatch | hrejected
      · exact hbatch.step c offsets
      · exact .inr (hrejected.step _ _ _)

theorem getElem_clamped {total j : Nat} {offsets : List Nat} (h : j < (offsets.map (min · total)).length) :
    (offsets.map (min · total))[j] = clampedAt total offsets j := by
  have h' : j < offsets.length := by simpa using h
  simp [clampedAt, h']

/-- A batch in order is one whose clamped offsets never decrease. -/
theorem orderedTo_iff_pairwise (total : Nat) :
    OrderedTo total offsets offsets.length ↔ (offsets.map (min · total)).Pairwise (· ≤ ·) := by
  rw [← List.isChain_iff_pairwise, List.isChain_iff_getElem]
  simp only [getElem_clamped, List.length_map]
  rfl

end Batch

/-- **The forward scans are independent renderings.** A batch is in order exactly when its clamped offsets never
    decrease; its locations are then those of its offsets, and otherwise it has none and names the first query that
    is smaller than the one before it. A span has the positions of its two clamped ends. -/
theorem lineCols_exact {text : View} (c : Layout text) :
    (∀ offsets : List Nat, offsets.length ≤ 64 →
      let result := lineColsGlobal c.pages c.stride text.length offsets
      let clamped := offsets.map (min · text.length)
      (result.ordered = true ↔ clamped.Pairwise (· ≤ ·)) ∧
      (result.ordered = true → result.locations = offsets.map (lineColGlobal c.pages c.stride text.length)) ∧
      (result.ordered = false → result.locations = [] ∧
        ∃ i, ∃ h : i + 1 < clamped.length, result.invalidIndex = i + 1 ∧ clamped[i + 1] < clamped[i] ∧
          ∀ j, ∀ hj : j < i, clamped[j] ≤ clamped[j + 1])) ∧
    ∀ start stop, lineColSpanGlobal c.pages c.stride text.length start stop =
      { start := lineColGlobal c.pages c.stride text.length (min start (min stop text.length)),
        stop := lineColGlobal c.pages c.stride text.length (min stop text.length) } := by
  refine ⟨?_, c.lineColSpanGlobal_eq⟩
  intro offsets hlen result clamped
  have hclamp : ∀ o, lineColAfter text (min o text.length) = lineColAfter text o := by
    intro o
    rw [lineColAfter, ← List.take_eq_take_min, lineColAfter]
  have hmono := orderedTo_iff_pairwise offsets text.length
  rcases lineCols_pass c offsets offsets.length with hbatch | ⟨hst, i, hi, hindex, hdec, hnames⟩
  · have hresult : result =
        LineColManyResult.mk true 0 (offsets.map (lineColGlobal c.pages c.stride text.length)) := by
      simp only [result, lineColsGlobal, hbatch.ordered, Bool.not_true, Bool.false_eq_true, if_false,
        LineColManyResult.mk.injEq, true_and]
      apply List.ext_getElem
      · simp [hlen]
      · intro j hj hj'
        have hj64 : j < 64 := by simp at hj; omega
        have hjk : j < offsets.length := by simpa using hj'
        have hat := hbatch.located j hj64 hjk
        rw [List.getElem_take, Vector.getElem_toList, hat, List.getElem_map, clampedAt, hclamp,
          c.lineColGlobal_after]
        simp [hjk]
    rw [hresult]
    exact ⟨⟨fun _ => hmono.mp hbatch.monotone, fun _ => rfl⟩, fun _ => rfl, fun h => absurd h (by simp)⟩
  · have hresult : result = { ordered := false, invalidIndex := i + 1, locations := [] } := by
      simp only [result, lineColsGlobal, hst, hindex, Bool.not_false, if_true]
    have hnot : ¬ OrderedTo text.length offsets offsets.length := by
      intro hall
      have := hall i hi
      omega
    rw [hresult]
    refine ⟨⟨fun h => absurd h (by simp), fun h => absurd (hmono.mpr h) hnot⟩, fun h => absurd h (by simp), ?_⟩
    intro _
    refine ⟨rfl, i, by simpa [clamped] using hi, rfl, ?_, ?_⟩
    · rw [getElem_clamped, getElem_clamped]
      exact hdec
    · intro j hj
      rw [getElem_clamped, getElem_clamped]
      exact hnames j (by omega)

/-- One page of three bytes: the line break, and the character after it. -/
def threeBytes : Layout [65, 10, 66] := ⟨[[65, 10, 66]], 4, by decide, rfl⟩

theorem lineCols_exact_threeBytes :
    let result := lineColsGlobal threeBytes.pages threeBytes.stride 3 [1, 2, 9]
    (result.ordered = true ↔ ([1, 2, 9].map (min · 3)).Pairwise (· ≤ ·)) ∧
      (result.ordered = true → result.locations = [1, 2, 9].map (lineColGlobal threeBytes.pages threeBytes.stride 3)) :=
  have h := (lineCols_exact threeBytes).1 [1, 2, 9] (by decide)
  ⟨h.1, h.2.1⟩

end MncsCompiler
