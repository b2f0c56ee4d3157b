import Mathlib.Algebra.GroupWithZero.Nat
import Mathlib.Data.List.Forall2
import Mathlib.Data.List.Range
import MncsCompiler.Lib.Sweep
import MncsCompiler.Ssa.Verify

/-!
# `Ssa.Scans` — what the verifier's bounded scans establish

The verifier walks lists with loops of a fixed number of passes, some of them in two chunks of 1024 with a limit that
the count of values sets. Each lemma here says once what such a scan has seen when it answers; the limits never cut a
list short that the verifier goes on to accept.
-/

namespace MncsCompiler.Ssa

open BoundedLoop Decl

/-! ## Lookups -/

theorem valueScanStep_found {k : Nat} {st : ValueScan} (hs : st.found = false)
    (h : (valueScanStep^[k] st).found = true) :
    (valueScanStep^[k] st).value ∈ st.rest ∧ (valueScanStep^[k] st).value.id = st.id := by
  have hfound := iterate_found ValueScan.rest ValueScan.found ValueScan.value (fun st v => decide (v.id = st.id))
    ?_ ?_ ?_ hs h
  · exact ⟨hfound.1, of_decide_eq_true hfound.2⟩
  · intro st hst
    rw [valueScanStep, if_pos hst]
  · intro st hrest
    simp [valueScanStep, hrest]
  · intro st v t hst hrest
    simp [valueScanStep, hst, hrest]

/-- What a lookup finds is one of the values, under the id that was asked for. -/
theorem findValue_mem {values : List Value} {id : Nat} (h : (findValue values id).found = true) :
    (findValue values id).value ∈ values ∧ (findValue values id).value.id = id := by
  have hscan : ∀ k (start : ValueScan), start.found = false → ∀ r : LookupValue,
      r = (if (valueScanStep^[k] start).found || (valueScanStep^[k] start).rest.isEmpty then
            { found := (valueScanStep^[k] start).found, value := (valueScanStep^[k] start).value }
          else
            { found := (valueScanStep^[k] (valueScanStep^[k] start)).found
              value := (valueScanStep^[k] (valueScanStep^[k] start)).value }) →
        r.found = true → r.value ∈ start.rest ∧ r.value.id = start.id := by
    intro k start hstart r hr
    rw [hr]
    split
    · exact valueScanStep_found hstart
    · rw [← Function.iterate_add_apply]
      exact valueScanStep_found hstart
  exact hscan 1024 _ rfl _ (findValue.eq_1 values id) h

theorem findBlock_mem {blocks : List SsaBlock} {id : Nat} (h : (findBlock blocks id).found = true) :
    (findBlock blocks id).block ∈ blocks ∧ (findBlock blocks id).block.id = id := by
  rw [findBlock] at h ⊢
  dsimp only at h ⊢
  have hfound := iterate_found BlockScan.rest BlockScan.found BlockScan.block (fun st b => decide (b.id = st.id))
    ?_ ?_ ?_ ?_ h
  · exact ⟨hfound.1, of_decide_eq_true hfound.2⟩
  · intro st hst
    rw [blockScanStep, if_pos hst]
  · intro st hrest
    simp [blockScanStep, hrest]
  · intro st b t hst hrest
    simp [blockScanStep, hst, hrest]
  · rfl

/-- The verifier lets block `block` read a value: an input, a parameter of the block, or one of its results with an
    index below `before`. -/
def Value.VisibleIn (value : Value) (block before : Nat) : Prop :=
  value.kind = 0 ∨ value.ownerBlock = block ∧ (value.kind = 1 ∨ value.kind = 2 ∧ value.index < before)

theorem valueAvailable_visible {values : List Value} {id block before : Nat}
    (h : valueAvailable values id block before = true) :
    ∃ v ∈ values, v.id = id ∧ v.VisibleIn block before := by
  rw [valueAvailable] at h
  cases hfound : (findValue values id).found with
  | false =>
      rw [hfound] at h
      cases h
  | true =>
      obtain ⟨hmem, hid⟩ := findValue_mem hfound
      simp only [hfound, Bool.not_true, Bool.false_eq_true, if_false, Bool.or_eq_true, Bool.and_eq_true,
        decide_eq_true_eq] at h
      exact ⟨_, hmem, hid, h⟩

theorem availableValues_visible {values : List Value} {ids : List Id} {block before : Nat}
    (h : availableValues values ids block before = true) :
    ∀ id ∈ ids, ∃ v ∈ values, v.id = id.value ∧ v.VisibleIn block before := by
  rw [availableValues] at h
  refine iterate_checked_all AvailableCheck.rest AvailableCheck.ok (fun st => (st.values, st.block, st.before))
    (fun env (id : Id) => ∃ v ∈ env.1, v.id = id.value ∧ v.VisibleIn env.2.1 env.2.2) ?_ ?_ ?_ h
  · intro st hok
    simp [availableStep, hok]
  · intro st hrest
    simp [availableStep, hrest]
  · intro st id rest hok hrest
    have hstep : availableStep st = availableOne st id rest := by simp [availableStep, hok, hrest]
    rw [hstep, availableOne]
    dsimp only
    cases hfound : (findValue st.values id.value).found with
    | false => exact ⟨rfl, rfl, nofun⟩
    | true =>
        obtain ⟨hmem, hid⟩ := findValue_mem hfound
        refine ⟨rfl, rfl, ?_⟩
        intro hav
        simp only [Bool.not_true, Bool.false_eq_true, if_false, Bool.or_eq_true, Bool.and_eq_true,
          decide_eq_true_eq] at hav
        exact ⟨_, hmem, hid, hav⟩

/-! ## Counts -/

theorem valueCount_eq {values : List Value} {limit : Nat} (hlimit : limit ≤ 2048) (h : values.length ≤ limit) :
    valueCount values limit = values.length := by
  refine (after_iterate_again (fun st hst => if_pos hst) 1024 1023 _).trans ?_
  refine (iterate_tally ValueCountScan.rest ValueCountScan.count ValueCountScan.count ValueCountScan.limit
    (fun _ _ => true) (fun st => rfl) ?_ ?_ ?_ ?_).trans ?_
  · intro st hrest
    simp [hrest]
  · intro st v t hrest
    simp [valueCountStep, hrest]
  · exact h.trans hlimit
  · simpa using h
  · simp

theorem instructionCount_eq {instructions : List Instruction} {limit : Nat} (hlimit : limit ≤ 2048)
    (h : instructions.length ≤ limit) : instructionCount instructions limit = instructions.length := by
  refine (after_iterate_again (fun st hst => if_pos hst) 1024 1023 _).trans ?_
  refine (iterate_tally InstructionCount.rest InstructionCount.count InstructionCount.count InstructionCount.limit
    (fun _ _ => true) (fun st => rfl) ?_ ?_ ?_ ?_).trans ?_
  · intro st hrest
    simp [hrest]
  · intro st inst t hrest
    simp [instructionCountStep, hrest]
  · exact h.trans hlimit
  · simpa using h
  · simp

theorem valueKindCount_eq {values : List Value} {kind limit : Nat} (hlimit : limit ≤ 2048)
    (h : values.length ≤ limit) :
    valueKindCount values kind limit = values.countP (fun v => decide (v.kind = kind)) := by
  refine (after_iterate_again (fun st hst => if_pos hst) 1024 1023 _).trans ?_
  refine (iterate_tally ValueKindCount.rest ValueKindCount.count ValueKindCount.seen ValueKindCount.limit
    (fun st v => decide (v.kind = st.kind)) (fun st => rfl) ?_ ?_ ?_ ?_).trans ?_
  · intro st hrest
    simp [hrest]
  · intro st v t hrest
    simp [valueKindCountStep, hrest]
  · exact h.trans hlimit
  · simpa using h
  · simp

/-! ## Values and inputs -/

/-- The values are numbered newest first: the ids count down to 0. -/
theorem verifyValueIds_ids {src : Source} {function : Function} (h : verifyValueIds src function = true) :
    function.values.map Value.id = (List.range function.valueCount).reverse := by
  rw [verifyValueIds] at h
  split at h
  · cases h
  · rw [after_iterate_again (fun st hst => if_pos hst)] at h
    have hdesc := iterate_audited ValueIdCheck.rest (fun _ => true) (fun st => st.ok && decide (st.seen = st.count))
      (fun _ st => st.ok = true ∧ st.seen + st.rest.length = st.count ∧
        st.rest.map Value.id = (List.range st.rest.length).reverse) (fun _ _ => rfl) ?_ ?_ ?_ h
    · have hlength : 0 + function.values.length = function.valueCount := hdesc.2.1
      rw [← hlength, Nat.zero_add]
      exact hdesc.2.2
    · intro st hk
      rw [Bool.and_eq_true] at hk
      exact ⟨rfl, hk.2, hk.1⟩
    · intro i st hrest _ hanswer
      rw [Bool.and_eq_true, decide_eq_true_eq] at hanswer
      rw [hrest]
      exact ⟨hanswer.1, hanswer.2, rfl⟩
    · rintro i ⟨rest, seen, ok, count, nominals⟩ v t hrest _ - ⟨hok, hcount, hids⟩
      cases hrest
      cases ok with
      | false => cases hok
      | true =>
          simp only [valueIdStep, Bool.not_true, Bool.false_eq_true, if_false, Bool.and_eq_true,
            decide_eq_true_eq] at hok hcount hids
          have hlast : count - 1 - seen = t.length := by omega
          refine ⟨rfl, ?_, ?_⟩
          · dsimp only [List.length_cons]
            omega
          · rw [List.map_cons, hids, List.length_cons, List.range_succ, List.reverse_append, hok.1.1, hlast]
            rfl

/-- A lookup among at most `limit` values that answers no has looked at all of them. -/
theorem valueIdIn_false {values : List Value} {id limit : Nat} (hlength : values.length ≤ limit)
    (hmany : values.length < 2048) (h : valueIdIn values id limit = false) : id ∉ values.map Value.id := by
  rw [valueIdIn, after_iterate_again (fun st hst => if_pos hst)] at h
  have habsent := iterate_absent ValueIdLookup.rest ValueIdLookup.found ValueIdLookup.seen ValueIdLookup.limit
    (fun st v => decide (v.id = st.id)) (fun st => rfl) ?_ hmany (by simpa using hlength) h
  · intro hmem
    obtain ⟨v, hv, hid⟩ := List.mem_map.mp hmem
    exact of_decide_eq_false (habsent v hv) hid
  · intro st v t hfound hrest
    simp [valueIdLookupStep, hfound, hrest]

/-- The inputs have ids of their own, and each is a value of kind 0. -/
theorem verifyInputList_distinct {src : Source} {values inputs : List Value} {limit : Nat} (hlimit : limit ≤ 2048)
    (h : verifyInputList src values inputs limit = true) :
    inputs.length ≤ limit ∧ (inputs.map Value.id).Nodup ∧ ∀ v ∈ inputs, ∃ w ∈ values, w.id = v.id ∧ w.kind = 0 := by
  have hdistinct := iterate_audited InputCheck.rest (fun _ => true) InputCheck.ok
    (fun _ st => st.seen ≤ st.limit → st.limit ≤ 2048 → st.ok = true ∧ st.seen + st.rest.length ≤ st.limit ∧
      (st.rest.map Value.id).Nodup ∧ ∀ v ∈ st.rest, ∃ w ∈ st.values, w.id = v.id ∧ w.kind = 0)
    (fun _ _ => rfl) ?_ ?_ ?_ h
  · obtain ⟨-, hlength, hnodup, hvalues⟩ := hdistinct (Nat.zero_le limit) hlimit
    exact ⟨(Nat.zero_add inputs.length).symm.trans_le hlength, hnodup, hvalues⟩
  · intro st hk
    rw [Bool.and_eq_true] at hk
    exact ⟨rfl, hk.2, hk.1⟩
  · intro i st hrest _ hok hseen _
    rw [hrest]
    exact ⟨hok, hseen, List.nodup_nil, fun _ hv => (List.not_mem_nil hv).elim⟩
  · rintro i ⟨rest, values, ok, limit, seen⟩ v t hrest _ hmore hdistinct _ hlimit
    dsimp only at hrest hmore hlimit
    cases hrest
    cases ok with
    | false => exact hdistinct (Nat.le_of_not_le hmore) hlimit
    | true =>
        obtain ⟨hok, hlength, hnodup, hvalues⟩ := hdistinct (Nat.lt_of_not_le hmore) hlimit
        simp only [verifyInputStep, verifyInputOne, Bool.not_true, Bool.false_eq_true, if_false,
          Bool.and_eq_true, decide_eq_true_eq, Bool.not_eq_true'] at hok hlength hnodup hvalues
        obtain ⟨⟨-, ⟨⟨hfound, hkind⟩, -⟩, -⟩, hfresh⟩ := hok
        obtain ⟨hmem, hid⟩ := findValue_mem hfound
        refine ⟨rfl, ?_, ?_, ?_⟩
        · dsimp only [List.length_cons]
          omega
        · rw [List.map_cons, List.nodup_cons]
          refine ⟨valueIdIn_false ?_ ?_ hfresh, hnodup⟩ <;> omega
        · intro w hw
          rcases List.mem_cons.mp hw with rfl | hw
          · exact ⟨_, hmem, hid, hkind⟩
          · exact hvalues w hw

/-! ## Blocks -/

theorem blockIdIn_false {blocks : List SsaBlock} {id limit : Nat} (hlength : blocks.length ≤ limit)
    (hmany : blocks.length < 1024) (h : blockIdIn blocks id limit = false) : id ∉ blocks.map SsaBlock.id := by
  have habsent := iterate_absent BlockIdLookup.rest BlockIdLookup.found BlockIdLookup.seen BlockIdLookup.limit
    (fun st b => decide (b.id = st.id)) (fun st => rfl) ?_ hmany (by simpa using hlength) h
  · intro hmem
    obtain ⟨b, hb, hid⟩ := List.mem_map.mp hmem
    exact of_decide_eq_false (habsent b hb) hid
  · intro st b t hfound hrest
    simp [blockIdLookupStep, hfound, hrest]

/-- The blocks have ids of their own below the total. -/
theorem verifyBlockIds_distinct {blocks : List SsaBlock} {total : Nat} (htotal : total ≤ 1024)
    (h : verifyBlockIds blocks total = true) :
    blocks.length = total ∧ (blocks.map SsaBlock.id).Nodup ∧ ∀ b ∈ blocks, b.id < total := by
  have hdistinct := iterate_audited BlockIdCheck.rest BlockIdCheck.ok (fun st => decide (st.seen = total))
    (fun _ st => st.total = total → st.ok = true ∧ st.seen + st.rest.length = total ∧
      (st.rest.map SsaBlock.id).Nodup ∧ ∀ b ∈ st.rest, b.id < total) (fun _ _ => rfl) ?_ ?_ ?_ h rfl
  · obtain ⟨-, hlength, hnodup, hbelow⟩ := hdistinct
    exact ⟨(Nat.zero_add blocks.length).symm.trans hlength, hnodup, hbelow⟩
  · intro st hk
    rw [Bool.and_eq_true, Bool.and_eq_true] at hk
    exact ⟨hk.1.1, hk.2, hk.1.2⟩
  · intro i st hrest hok hseen _
    rw [hrest]
    exact ⟨hok, of_decide_eq_true hseen, List.nodup_nil, fun _ hb => (List.not_mem_nil hb).elim⟩
  · rintro i ⟨rest, total, seen, ok⟩ b t hrest hst _ hdistinct rfl
    dsimp only at hrest hst htotal
    cases hrest
    cases hst
    obtain ⟨hok, hlength, hnodup, hbelow⟩ := hdistinct rfl
    simp only [verifyBlockIdStep, Bool.not_true, Bool.false_eq_true, if_false, Bool.and_eq_true,
      decide_eq_true_eq, Bool.not_eq_true'] at hok hlength hnodup hbelow
    refine ⟨rfl, ?_, ?_, ?_⟩
    · dsimp only [List.length_cons]
      omega
    · rw [List.map_cons, List.nodup_cons]
      refine ⟨blockIdIn_false ?_ ?_ hok.2, hnodup⟩ <;> omega
    · intro c hc
      rcases List.mem_cons.mp hc with rfl | hc
      · exact hok.1
      · exact hbelow c hc

/-- The parameters of a block are the values that they claim to be, and their indexes count down to 0. -/
theorem verifyParameters_numbered {src : Source} {function : Function} {block : Nat} {params : List Value}
    (hcount : function.valueCount ≤ 2048) (h : verifyParameters src function block params = true) :
    params.length ≤ function.valueCount ∧ params.map Value.index = (List.range params.length).reverse ∧
      ∀ p ∈ params, ∃ v ∈ function.values, v.id = p.id ∧ v.kind = 1 ∧ v.ownerBlock = block ∧ v.index = p.index := by
  rw [verifyParameters] at h
  split at h
  · cases h
  · have hnumbered := iterate_audited ParameterCheck.rest ParameterCheck.ok (fun _ => true)
      (fun i st => st.function = function → i ≤ function.valueCount → st.ok = true ∧
        i + st.rest.length ≤ function.valueCount ∧
        (st.rest = [] ∨ st.index + 1 = st.rest.length →
          st.rest.map Value.index = (List.range st.rest.length).reverse) ∧
        ∀ p ∈ st.rest, ∃ v ∈ function.values,
          v.id = p.id ∧ v.kind = 1 ∧ v.ownerBlock = st.block ∧ v.index = p.index)
      (fun _ _ => rfl) ?_ ?_ ?_ h rfl (Nat.zero_le function.valueCount)
    · obtain ⟨-, hlength, hindexes, hvalues⟩ := hnumbered
      replace hlength : params.length ≤ function.valueCount := (Nat.zero_add params.length).symm.trans_le hlength
      refine ⟨hlength, hindexes ?_, hvalues⟩
      -- the count that sets the first index is exact
      rw [valueCount_eq hcount hlength, predecessorOrZero]
      cases params with
      | nil => exact .inl rfl
      | cons p t => exact .inr rfl
    · intro st hk
      rw [Bool.and_eq_true] at hk
      exact ⟨hk.1, hk.2, rfl⟩
    · intro i st hrest hok _ _ hi
      rw [hrest]
      exact ⟨hok, hi, fun _ => rfl, fun _ hp => (List.not_mem_nil hp).elim⟩
    · rintro i ⟨rest, function, block, index, ok⟩ p t hrest hst hmore hnumbered rfl _
      dsimp only at hrest hst hmore
      cases hrest
      cases hst
      obtain ⟨hok, hlength, hindexes, hvalues⟩ := hnumbered rfl (Nat.lt_of_not_le hmore)
      simp only [verifyParameterStep, parameterIsDefined, Bool.not_true, Bool.false_eq_true, if_false,
        Bool.and_eq_true, decide_eq_true_eq] at hok hlength hindexes hvalues
      obtain ⟨⟨⟨hkind, howner⟩, hpos⟩, ⟨⟨⟨hfound, hk⟩, ho⟩, hx⟩, -⟩ := hok
      obtain ⟨hmem, hid⟩ := findValue_mem hfound
      refine ⟨rfl, ?_, ?_, ?_⟩
      · dsimp only [List.length_cons]
        omega
      · intro hdue
        have hindex : index = t.length := by simpa using hdue
        have hnext : t = [] ∨ predecessorOrZero index + 1 = t.length := by
          rw [hindex, predecessorOrZero]
          cases t with
          | nil => exact .inl rfl
          | cons q t => exact .inr rfl
        rw [List.map_cons, hindexes hnext, List.length_cons, List.range_succ, List.reverse_append, hpos, hindex]
        rfl
      · intro q hq
        rcases List.mem_cons.mp hq with rfl | hq
        · exact ⟨_, hmem, hid, hk.trans hkind, ho.trans howner, hx⟩
        · exact hvalues q hq

/-- The instructions of a block pass their check under consecutive positions. -/
theorem verifyInstructions_passed {src : Source} {function : Function} {block : SsaBlock}
    {instructions : List Instruction} (h : verifyInstructions src function block instructions = true) :
    instructions.length ≤ function.valueCount ∧
      ∀ j inst, instructions[j]? = some inst → verifyInstruction src function block.id inst j = true := by
  have hpassed := iterate_audited InstructionCheck.rest InstructionCheck.ok (fun _ => true)
    (fun i st => st.function = function → i ≤ function.valueCount → st.ok = true ∧
      i + st.rest.length ≤ function.valueCount ∧ ∀ j inst, st.rest[j]? = some inst →
        verifyInstruction src function st.block inst (st.sequence + j) = true)
    (fun _ _ => rfl) ?_ ?_ ?_ h rfl (Nat.zero_le function.valueCount)
  · obtain ⟨-, hlength, hall⟩ := hpassed
    refine ⟨(Nat.zero_add instructions.length).symm.trans_le hlength, ?_⟩
    intro j inst hj
    have hinst := hall j inst hj
    rwa [Nat.zero_add] at hinst
  · intro st hk
    rw [Bool.and_eq_true] at hk
    exact ⟨hk.1, hk.2, rfl⟩
  · intro i st hrest hok _ _ hi
    rw [hrest]
    exact ⟨hok, hi, nofun⟩
  · rintro i ⟨rest, function, block, ok, sequence⟩ inst t hrest hst hmore hpassed rfl _
    dsimp only at hrest hst hmore
    cases hrest
    cases hst
    obtain ⟨hok, hlength, hall⟩ := hpassed rfl (Nat.lt_of_not_le hmore)
    simp only [verifyInstructionStep, Bool.not_true, Bool.false_eq_true, if_false] at hok hlength hall
    refine ⟨rfl, ?_, ?_⟩
    · dsimp only [List.length_cons]
      omega
    · intro j other hj
      cases j with
      | zero =>
          cases hj
          exact hok
      | succ j =>
          rw [← Nat.add_assoc, Nat.add_right_comm]
          exact hall j other hj

theorem verifyBlocks_passed {src : Source} {function : Function} {blocks : List SsaBlock}
    (h : verifyBlocks src function blocks = true) :
    verifyBlockIds blocks function.blockCount = true ∧ ∀ b ∈ blocks, verifyOneBlock src function b = true := by
  have hpassed := iterate_audited BlockCheck.rest BlockCheck.ok
    (fun st => decide (st.count = function.blockCount) && verifyBlockIds blocks function.blockCount)
    (fun _ st => st.function = function → st.ok = true ∧ verifyBlockIds blocks function.blockCount = true ∧
      ∀ b ∈ st.rest, verifyOneBlock src function b = true) (fun _ _ => rfl) ?_ ?_ ?_ h rfl
  · exact hpassed.2
  · intro st hk
    rw [Bool.and_assoc, Bool.and_eq_true, Bool.and_eq_true] at hk
    exact ⟨hk.1.1, hk.1.2, hk.2⟩
  · intro i st hrest hok hanswer _
    rw [Bool.and_eq_true] at hanswer
    rw [hrest]
    exact ⟨hok, hanswer.2, fun _ hb => (List.not_mem_nil hb).elim⟩
  · rintro i ⟨rest, function, ok, count⟩ b t hrest hst _ hpassed rfl
    dsimp only at hrest hst
    cases hrest
    cases hst
    obtain ⟨hok, hids, hall⟩ := hpassed rfl
    refine ⟨rfl, hids, ?_⟩
    intro c hc
    rcases List.mem_cons.mp hc with rfl | hc
    · exact hok
    · exact hall c hc

/-- The parameters and results of all blocks are as many as the values of their kinds. -/
theorem verifyDefinitionCounts_sums {function : Function} (h : verifyDefinitionCounts function = true) :
    (function.blocks.map fun b => valueCount b.parameters function.valueCount).sum =
        valueKindCount function.values 1 function.valueCount ∧
      (function.blocks.map fun b => instructionCount b.instructions function.valueCount).sum =
        valueKindCount function.values 2 function.valueCount := by
  have hsums := iterate_audited DefinitionCountScan.rest (fun _ => true) (definitionCountsMatch function)
    (fun _ st => st.valueLimit = function.valueCount →
      st.parameters + (st.rest.map fun b => valueCount b.parameters function.valueCount).sum =
          valueKindCount function.values 1 function.valueCount ∧
        st.instructions + (st.rest.map fun b => instructionCount b.instructions function.valueCount).sum =
          valueKindCount function.values 2 function.valueCount) (fun _ _ => rfl) ?_ ?_ ?_ h rfl
  · rwa [Nat.zero_add, Nat.zero_add] at hsums
  · intro st hk
    rw [Bool.and_eq_true] at hk
    exact ⟨rfl, hk.1, hk.2⟩
  · intro i st hrest _ hanswer _
    rw [definitionCountsMatch, Bool.and_eq_true, decide_eq_true_eq, decide_eq_true_eq] at hanswer
    rw [hrest]
    exact hanswer
  · rintro i ⟨rest, parameters, instructions, limit⟩ b t hrest _ _ hsums hlimit
    dsimp only at hrest hlimit
    cases hrest
    cases hlimit
    obtain ⟨hparams, hinsts⟩ := hsums rfl
    rw [← hparams, ← hinsts, List.map_cons, List.sum_cons, List.map_cons, List.sum_cons]
    exact ⟨(Nat.add_assoc _ _ _).symm, (Nat.add_assoc _ _ _).symm⟩

/-! ## Edges -/

/-- An argument that an edge passes for a parameter: a value of the parameter's type. -/
def PassedFor (src : Source) (values : List Value) (arg : Id) (param : Value) : Prop :=
  ∃ v ∈ values, v.id = arg.value ∧ semEq src v.ty param.ty = true

theorem argumentTypeStep_failed {src : Source} {st : ArgumentTypeCheck} {k : Nat} (hst : st.ok = false) :
    ((argumentTypeStep src)^[k] st).ok ≠ true := by
  have hfix : argumentTypeStep src st = st := by rw [argumentTypeStep, if_pos (by simp [hst])]
  rw [Function.iterate_fixed hfix, hst]
  exact Bool.false_ne_true

theorem argumentTypeStep_passed {src : Source} {values : List Value} {k : Nat} {args : List Id} {params : List Value}
    {st : ArgumentTypeCheck} (hst : (argumentTypeStep src)^[k] ⟨args, params, values, true⟩ = st)
    (hok : st.ok = true) (hargs : st.args = []) (hparams : st.params = []) :
    List.Forall₂ (PassedFor src values) args params := by
  induction k generalizing args params with
  | zero =>
      cases hst
      cases hargs
      cases hparams
      exact .nil
  | succ k ih =>
      rw [Function.iterate_succ_apply] at hst
      cases args with
      | nil =>
          cases params with
          | nil => exact .nil
          | cons p ps => exact (argumentTypeStep_failed rfl (hst ▸ hok)).elim
      | cons a as =>
          cases params with
          | nil => exact (argumentTypeStep_failed rfl (hst ▸ hok)).elim
          | cons p ps =>
              have hstep : argumentTypeStep src ⟨a :: as, p :: ps, values, true⟩ =
                  ⟨as, ps, values, (findValue values a.value).found &&
                    semEq src (findValue values a.value).value.ty p.ty⟩ := by
                simp [argumentTypeStep, argumentParam, argumentValueType]
              rw [hstep] at hst
              cases hpassed : (findValue values a.value).found &&
                  semEq src (findValue values a.value).value.ty p.ty with
              | false =>
                  rw [hpassed] at hst
                  exact (argumentTypeStep_failed rfl (hst ▸ hok)).elim
              | true =>
                  rw [hpassed] at hst
                  rw [Bool.and_eq_true] at hpassed
                  obtain ⟨hmem, hid⟩ := findValue_mem hpassed.1
                  exact .cons ⟨_, hmem, hid, hpassed.2⟩ (ih hst)

/-- An edge goes to a block of the function, with an argument that its source may read for each parameter. -/
theorem verifyEdge_passed {src : Source} {function : Function} {source target before : Nat} {args : List Id}
    (h : verifyEdge src function source target args before = true) :
    (∀ id ∈ args, ∃ v ∈ function.values, v.id = id.value ∧ v.VisibleIn source before) ∧
      ∃ b ∈ function.blocks, b.id = target ∧ List.Forall₂ (PassedFor src function.values) args b.parameters := by
  rw [verifyEdge] at h
  split at h
  · cases h
  · next hgood =>
      rw [Bool.or_eq_true, not_or, Bool.not_eq_true', Bool.not_eq_false, Bool.not_eq_true', Bool.not_eq_false] at hgood
      obtain ⟨hmem, hid⟩ := findBlock_mem hgood.1
      rw [argumentTypesMatch, Bool.and_eq_true, Bool.and_eq_true, List.isEmpty_iff, List.isEmpty_iff] at h
      refine ⟨availableValues_visible hgood.2, _, hmem, hid, ?_⟩
      exact argumentTypeStep_passed rfl h.1.1 h.1.2 h.2

theorem verifyFiniteSwitchCases_edges {src : Source} {function : Function} {source join before : Nat}
    {resultTy : SemType} {cases : List FiniteMatchCase}
    (h : verifyFiniteSwitchCases src function source join resultTy cases before = true) :
    ∀ case ∈ cases, verifyEdge src function source case.target case.arguments before = true := by
  rw [verifyFiniteSwitchCases] at h
  refine iterate_checked_all FiniteSwitchCaseScan.rest FiniteSwitchCaseScan.ok
    (fun st => (st.function, st.source, st.before))
    (fun env (case : FiniteMatchCase) =>
      verifyEdge src env.1 env.2.1 case.target case.arguments env.2.2 = true) ?_ ?_ ?_ h
  · intro st hok
    simp [verifyFiniteSwitchCaseStep, hok]
  · intro st hrest
    simp [verifyFiniteSwitchCaseStep, hrest]
  · intro st case rest hok hrest
    have hstep : verifyFiniteSwitchCaseStep src st = verifyFiniteSwitchCase src st case rest := by
      simp [verifyFiniteSwitchCaseStep, hok, hrest]
    rw [hstep]
    refine ⟨rfl, rfl, ?_⟩
    intro hcase
    simp only [verifyFiniteSwitchCase, Bool.and_eq_true] at hcase
    exact hcase.1.2

theorem verifyScalarSwitchCases_edges {src : Source} {function : Function} {source join before : Nat}
    {resultTy : SemType} {cases : List ScalarMatchCase}
    (h : verifyScalarSwitchCases src function source join resultTy cases before = true) :
    ∀ case ∈ cases, verifyEdge src function source case.target case.arguments before = true := by
  rw [verifyScalarSwitchCases] at h
  refine iterate_checked_all ScalarSwitchCaseScan.rest ScalarSwitchCaseScan.ok
    (fun st => (st.function, st.source, st.before))
    (fun env (case : ScalarMatchCase) =>
      verifyEdge src env.1 env.2.1 case.target case.arguments env.2.2 = true) ?_ ?_ ?_ h
  · intro st hok
    simp [verifyScalarSwitchCaseStep, hok]
  · intro st hrest
    simp [verifyScalarSwitchCaseStep, hrest]
  · intro st case rest hok hrest
    have hstep : verifyScalarSwitchCaseStep src st = verifyScalarSwitchCase src st case rest := by
      simp [verifyScalarSwitchCaseStep, hok, hrest]
    rw [hstep]
    refine ⟨rfl, rfl, ?_⟩
    intro hcase
    simp only [verifyScalarSwitchCase, Bool.and_eq_true] at hcase
    exact hcase.1.2

end MncsCompiler.Ssa
