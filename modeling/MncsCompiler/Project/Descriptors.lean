import Mathlib.Algebra.GroupWithZero.Nat
import Mathlib.Data.List.Chain
import MncsCompiler.Lib.Checked
import MncsCompiler.Project.Modules

/-!
# `Project.Descriptors` — descriptors against the page array

`descriptors_cover` follows the page ranges of the descriptors with a cursor. It advances the cursor by a checked
addition before it compares anything with the length of the array, while `module_pages` subtracts and cannot trap. The
walk traps on a list of ranges that follow each other past the end of the machine word; on every other list it decides
whether the ranges are a partition of the array, and then the slices of the modules are the array.
-/

namespace MncsCompiler.Project

open Checked

/-! ## The walk with its trap -/

/-- `cover_step` with an addition that traps. The index stays within the list, which holds at most 64 descriptors. -/
def coverStepChecked (sources : List ProjectSource) (st : CoverState) : Option CoverState :=
  if !st.ok then some st
  else
    match sources[st.index]? with
    | none => some st
    | some item =>
      if item.pageStart ≠ st.cursor then some { index := st.index + 1, cursor := st.cursor, ok := false }
      else (add? 64 st.cursor item.pageCount).map fun cursor => { index := st.index + 1, cursor := cursor, ok := true }

/-- `descriptors_cover`; `none` is the trap. -/
def descriptorsCoverChecked (inp : Input) : Option Bool :=
  ((fun st : Option CoverState => st.bind (coverStepChecked inp.sources))^[inp.sources.length]
      (some { index := 0, cursor := 0, ok := true })).map fun st =>
    st.ok && st.cursor = inp.flatPages.length

/-! ## Partitions -/

/-- The ranges follow each other, the first from `cursor` on. -/
def Contiguous : Nat → List ProjectSource → Prop
  | _, [] => True
  | cursor, item :: rest => item.pageStart = cursor ∧ Contiguous (cursor + item.pageCount) rest

/-- Where ranges that follow each other end. -/
def endOf (cursor : Nat) (sources : List ProjectSource) : Nat := cursor + (sources.map ProjectSource.pageCount).sum

/-- The page ranges of the descriptors, in source order, are a partition of the page array. -/
structure Partitions (inp : Input) : Prop where
  first : ∀ item ∈ inp.sources.head?, item.pageStart = 0
  next : inp.sources.IsChain fun a b => b.pageStart = a.pageStart + a.pageCount
  last : (inp.sources.getLast?.elim 0 fun item => item.pageStart + item.pageCount) = inp.flatPages.length

/-- A range that follows those before it, the first of them from `cursor` on, ends within the machine word. -/
def EndsFit (cursor : Nat) (sources : List ProjectSource) : Prop :=
  ∀ before item after, sources = before ++ item :: after → Contiguous cursor (before ++ [item]) →
    item.pageStart + item.pageCount < 2 ^ 64

theorem endsFit_nil (cursor : Nat) : EndsFit cursor [] := by
  intro before item after hsplit
  exact absurd hsplit.symm (by simp)

theorem endsFit_cons {cursor : Nat} {item : ProjectSource} {rest : List ProjectSource} :
    EndsFit cursor (item :: rest) ↔
      (item.pageStart = cursor → cursor + item.pageCount < 2 ^ 64 ∧ EndsFit (cursor + item.pageCount) rest) := by
  constructor
  · rintro hfit rfl
    refine ⟨hfit [] item rest rfl ⟨rfl, trivial⟩, ?_⟩
    intro before other after hsplit hfollows
    exact hfit (item :: before) other after (by rw [hsplit, List.cons_append]) ⟨rfl, hfollows⟩
  · intro hfit before other after hsplit hfollows
    cases before with
    | nil =>
        obtain ⟨rfl, rfl⟩ := List.cons.inj hsplit
        obtain ⟨hstart, -⟩ := hfollows
        rw [hstart]
        exact (hfit hstart).1
    | cons head before =>
        obtain ⟨rfl, hrest⟩ := List.cons.inj hsplit
        obtain ⟨hstart, htail⟩ := hfollows
        exact (hfit hstart).2 before other after hrest htail

theorem contiguous_iff {cursor : Nat} {sources : List ProjectSource} :
    Contiguous cursor sources ↔ (∀ item ∈ sources.head?, item.pageStart = cursor) ∧
      sources.IsChain fun a b => b.pageStart = a.pageStart + a.pageCount := by
  induction sources generalizing cursor with
  | nil => simp [Contiguous]
  | cons item rest ih =>
      rw [Contiguous, ih, List.isChain_cons]
      constructor
      · rintro ⟨rfl, hhead, hchain⟩
        exact ⟨by simp, hhead, hchain⟩
      · rintro ⟨hfirst, hhead, hchain⟩
        obtain rfl : item.pageStart = cursor := hfirst item rfl
        exact ⟨rfl, hhead, hchain⟩

theorem endOf_eq {cursor : Nat} {sources : List ProjectSource} (h : Contiguous cursor sources) :
    endOf cursor sources = sources.getLast?.elim cursor fun item => item.pageStart + item.pageCount := by
  induction sources generalizing cursor with
  | nil => rfl
  | cons item rest ih =>
      obtain ⟨rfl, hrest⟩ := h
      have hend : endOf item.pageStart (item :: rest) = endOf (item.pageStart + item.pageCount) rest := by
        rw [endOf, endOf, List.map_cons, List.sum_cons, Nat.add_assoc]
      rw [hend, ih hrest]
      cases rest with
      | nil => rfl
      | cons other rest => rw [List.getLast?_cons_cons]; rfl

/-- Ranges that follow each other from the start, up to the end of the array. -/
theorem partitions_iff {inp : Input} :
    Partitions inp ↔ Contiguous 0 inp.sources ∧ endOf 0 inp.sources = inp.flatPages.length := by
  constructor
  · rintro ⟨hfirst, hnext, hlast⟩
    have hfollows : Contiguous 0 inp.sources := contiguous_iff.mpr ⟨hfirst, hnext⟩
    exact ⟨hfollows, (endOf_eq hfollows).trans hlast⟩
  · rintro ⟨hfollows, hend⟩
    obtain ⟨hfirst, hnext⟩ := contiguous_iff.mp hfollows
    exact ⟨hfirst, hnext, (endOf_eq hfollows).symm.trans hend⟩

/-! ## Runs of the walk -/

section Walk

variable {sources : List ProjectSource}

theorem coverStepChecked_of_failed {st : CoverState} (h : st.ok = false) : coverStepChecked sources st = some st := by
  rw [coverStepChecked, h]
  rfl

/-- What the walk over the descriptors from `index` on comes to. -/
inductive Outcome (cursor index : Nat) (rest : List ProjectSource) : Option CoverState → Prop
  | covers (hfit : EndsFit cursor rest) (hfollows : Contiguous cursor rest) :
      Outcome cursor index rest (some { index := index + rest.length, cursor := endOf cursor rest, ok := true })
  | breaks {st : CoverState} (hfit : EndsFit cursor rest) (hfollows : ¬ Contiguous cursor rest) (hst : st.ok = false) :
      Outcome cursor index rest (some st)
  | traps (hfit : ¬ EndsFit cursor rest) : Outcome cursor index rest none

theorem iterate_coverStepChecked {cursor index : Nat} {rest : List ProjectSource} (h : sources.drop index = rest) :
    Outcome cursor index rest
      ((fun st : Option CoverState => st.bind (coverStepChecked sources))^[rest.length]
        (some { index := index, cursor := cursor, ok := true })) := by
  induction rest generalizing cursor index with
  | nil => exact .covers (endsFit_nil cursor) trivial
  | cons item rest ih =>
      have hitem : sources[index]? = some item := by
        rw [← List.head?_drop, h, List.head?_cons]
      have hrest : sources.drop (index + 1) = rest := by
        rw [← List.tail_drop, h, List.tail_cons]
      rw [List.length_cons, Function.iterate_succ_apply, Option.bind_some]
      by_cases hstart : item.pageStart = cursor
      · by_cases hfits : cursor + item.pageCount < 2 ^ 64
        · have hstep : coverStepChecked sources { index := index, cursor := cursor, ok := true } =
              some { index := index + 1, cursor := cursor + item.pageCount, ok := true } := by
            simp only [coverStepChecked, hitem, hstart, add?_of_lt hfits, ne_eq, not_true_eq_false, Bool.not_true,
              Bool.false_eq_true, if_false, Option.map_some]
          rw [hstep]
          have hrun := @ih (cursor + item.pageCount) (index + 1) hrest
          generalize (fun st : Option CoverState => st.bind (coverStepChecked sources))^[rest.length]
            (some { index := index + 1, cursor := cursor + item.pageCount, ok := true }) = final at hrun ⊢
          cases hrun with
          | covers hfit hfollows =>
              have hend : endOf (cursor + item.pageCount) rest = endOf cursor (item :: rest) := by
                rw [endOf, endOf, List.map_cons, List.sum_cons, Nat.add_assoc]
              rw [hend, Nat.add_assoc, Nat.add_comm 1]
              exact .covers (endsFit_cons.mpr fun _ => ⟨hfits, hfit⟩) ⟨hstart, hfollows⟩
          | breaks hfit hfollows hst =>
              exact .breaks (endsFit_cons.mpr fun _ => ⟨hfits, hfit⟩) (fun hall => hfollows hall.2) hst
          | traps hfit => exact .traps fun hall => hfit (endsFit_cons.mp hall hstart).2
        · have hstep : coverStepChecked sources { index := index, cursor := cursor, ok := true } = none := by
            simp only [coverStepChecked, hitem, hstart, add?, if_neg hfits, ne_eq, not_true_eq_false, Bool.not_true,
              Bool.false_eq_true, if_false, Option.map_none]
          rw [hstep, Function.iterate_fixed (Option.bind_none _)]
          exact .traps fun hall => hfits (endsFit_cons.mp hall hstart).1
      · have hstep : coverStepChecked sources { index := index, cursor := cursor, ok := true } =
            some { index := index + 1, cursor := cursor, ok := false } := by
          simp only [coverStepChecked, hitem, hstart, ne_eq, not_false_eq_true, Bool.not_true, Bool.false_eq_true,
            if_false, if_true]
        rw [hstep, Function.iterate_fixed (by
          rw [Option.bind_some]
          exact coverStepChecked_of_failed rfl)]
        exact .breaks (endsFit_cons.mpr fun hcursor => absurd hcursor hstart) (fun hall => hstart hall.1) rfl

end Walk

/-! ## Slices -/

section Slices

variable {inp : Input}

/-- The slice of a range that ends within the array. -/
theorem modulePages_of_le {index : Nat} {item : ProjectSource} (hitem : inp.sources[index]? = some item)
    (h : item.pageStart + item.pageCount ≤ inp.flatPages.length) :
    modulePages inp index = (inp.flatPages.drop item.pageStart).take item.pageCount := by
  simp only [modulePages, hitem]
  rw [if_neg (by omega), if_neg (by omega)]

/-- The slices of ranges that follow each other, from `cursor` on. -/
theorem flatMap_modulePages {cursor index : Nat} {rest : List ProjectSource} (h : inp.sources.drop index = rest)
    (hfollows : Contiguous cursor rest) (hend : endOf cursor rest = inp.flatPages.length) :
    (List.range' index rest.length).flatMap (modulePages inp) = inp.flatPages.drop cursor := by
  induction rest generalizing cursor index with
  | nil =>
      rw [endOf, List.map_nil, List.sum_nil, Nat.add_zero] at hend
      rw [hend, List.drop_length]
      rfl
  | cons item rest ih =>
      obtain ⟨rfl, hrest⟩ := hfollows
      have hitem : inp.sources[index]? = some item := by
        rw [← List.head?_drop, h, List.head?_cons]
      have hnext : inp.sources.drop (index + 1) = rest := by
        rw [← List.tail_drop, h, List.tail_cons]
      have hends : endOf (item.pageStart + item.pageCount) rest = inp.flatPages.length := by
        rw [← hend, endOf, endOf, List.map_cons, List.sum_cons, Nat.add_assoc]
      have hle : item.pageStart + item.pageCount ≤ inp.flatPages.length := by
        rw [← hends]
        exact Nat.le_add_right _ _
      rw [List.length_cons, List.range'_succ, List.flatMap_cons, ih hnext hrest hends, modulePages_of_le hitem hle,
        ← List.drop_drop, List.take_append_drop]

theorem flatMap_modulePages_of_partitions (h : Partitions inp) :
    (List.range inp.sources.length).flatMap (modulePages inp) = inp.flatPages := by
  obtain ⟨hfollows, hend⟩ := partitions_iff.mp h
  rw [List.range_eq_range', flatMap_modulePages List.drop_zero hfollows hend, List.drop_zero]

end Slices

/-! ## The check -/

/-- A step that does not trap is the step on numbers. -/
theorem coverStepChecked_eq {sources : List ProjectSource} {st : CoverState}
    (h : st.ok = true → EndsFit st.cursor (sources.drop st.index)) :
    coverStepChecked sources st = some (coverStep sources st) ∧
      ((coverStep sources st).ok = true →
        EndsFit (coverStep sources st).cursor (sources.drop (coverStep sources st).index)) := by
  rw [coverStepChecked, coverStep]
  cases hok : st.ok with
  | false => exact ⟨rfl, fun hst => absurd (hok.symm.trans hst) Bool.false_ne_true⟩
  | true =>
      cases hitem : sources[st.index]? with
      | none => exact ⟨rfl, h⟩
      | some item =>
          simp only [Bool.not_true, Bool.false_eq_true, if_false]
          by_cases hstart : item.pageStart = st.cursor
          · obtain ⟨hlt, hget⟩ := List.getElem?_eq_some_iff.mp hitem
            have hfit := h hok
            rw [List.drop_eq_getElem_cons hlt, hget] at hfit
            obtain ⟨hcursor, hrest⟩ := endsFit_cons.mp hfit hstart
            rw [if_neg (not_not_intro hstart), if_neg (not_not_intro hstart), add?_of_lt hcursor]
            exact ⟨rfl, fun _ => hrest⟩
          · rw [if_pos hstart, if_pos hstart]
            exact ⟨rfl, fun hst => absurd hst Bool.false_ne_true⟩

/-- Without the trap the check is the check on numbers. -/
theorem descriptorsCoverChecked_eq {inp : Input} (h : EndsFit 0 inp.sources) :
    descriptorsCoverChecked inp = some (descriptorsCover inp) := by
  rw [descriptorsCoverChecked,
    iterate_bind (fun st : CoverState => st.ok = true → EndsFit st.cursor (inp.sources.drop st.index))
      (coverStep inp.sources) (fun _ hst => coverStepChecked_eq hst) _ fun _ => h]
  rfl

theorem descriptorsCoverChecked_outcome (inp : Input) :
    (EndsFit 0 inp.sources → ∃ covered, descriptorsCoverChecked inp = some covered ∧
        (covered = true ↔ Partitions inp)) ∧
      (¬ EndsFit 0 inp.sources → descriptorsCoverChecked inp = none) := by
  have hrun := @iterate_coverStepChecked inp.sources 0 0 inp.sources List.drop_zero
  rw [descriptorsCoverChecked, partitions_iff]
  generalize (fun st : Option CoverState => st.bind (coverStepChecked inp.sources))^[inp.sources.length]
    (some { index := 0, cursor := 0, ok := true }) = final at hrun ⊢
  cases hrun with
  | covers hfit hfollows =>
      refine ⟨fun _ => ⟨_, rfl, ?_⟩, fun hnot => absurd hfit hnot⟩
      simp [hfollows]
  | breaks hfit hfollows hst =>
      refine ⟨fun _ => ⟨_, rfl, ?_⟩, fun hnot => absurd hfit hnot⟩
      simp [hfollows, hst]
  | traps hfit => exact ⟨fun hall => absurd hall hfit, fun _ => rfl⟩

/-- **Descriptor validation** returns, and returns whether the ranges are a partition, exactly when no range that follows
    those before it ends beyond the machine word; the slices of a partition are the array. -/
theorem descriptorsCover_exact_iff (inp : Input) :
    (∃ covered, descriptorsCoverChecked inp = some covered ∧ (covered = true ↔ Partitions inp) ∧
        (covered = true → (List.range inp.sources.length).flatMap (modulePages inp) = inp.flatPages)) ↔
      EndsFit 0 inp.sources := by
  obtain ⟨hfits, htraps⟩ := descriptorsCoverChecked_outcome inp
  constructor
  · rintro ⟨covered, hcovered, -⟩
    by_contra hnot
    rw [htraps hnot] at hcovered
    cases hcovered
  · intro hfit
    obtain ⟨covered, hcovered, hiff⟩ := hfits hfit
    exact ⟨covered, hcovered, hiff, fun h => flatMap_modulePages_of_partitions (hiff.mp h)⟩

/-- Two descriptors: the first range fills the machine word, the second follows it. -/
def endlessInput : Input where
  sources :=
    [{ sourceId := [97], sourcePath := [97], pageStart := 0, pageCount := 18446744073709551615, stride := 1024
       total := 0 },
     { sourceId := [98], sourcePath := [98], pageStart := 18446744073709551615, pageCount := 1, stride := 1024
       total := 0 }]
  flatPages := []

/-- Hostile descriptors make the check trap. -/
theorem not_descriptorsCover_total :
    ¬ ∀ inp : Input, ∃ covered, descriptorsCoverChecked inp = some covered ∧ (covered = true ↔ Partitions inp) ∧
      (covered = true → (List.range inp.sources.length).flatMap (modulePages inp) = inp.flatPages) := by
  intro hall
  obtain ⟨covered, hcovered, -⟩ := hall endlessInput
  rw [show descriptorsCoverChecked endlessInput = none by decide] at hcovered
  cases hcovered

end MncsCompiler.Project
