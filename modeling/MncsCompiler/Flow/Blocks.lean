import MncsCompiler.Flow.Walk
import Mathlib.Data.List.Perm.Basic
import Mathlib.Data.List.Count
import Mathlib.Data.List.Range
import Mathlib.Data.List.Nodup

/-!
# `Flow.Blocks` — the blocks of a verified graph

Ids are reserved three at a time and closed one at a time. A ledger (`Ids`) keeps where each reserved id is: open,
listed, or pending in a frame. Its moves keep every id in exactly one place, and every move of the walk is a move of
its ledger (`Moves.ids`). When the walk ends nothing is open or pending, so the listed ids are exactly the reserved
ones. The verifier adds that no block is open and that targets and loop links are right.
-/

namespace MncsCompiler.Flow

open BoundedLoop Decl

variable {α : Type}

/-! ## The ledger -/

/-- Where the reserved ids are. -/
structure Ids where
  opened : List Nat
  listed : List Nat
  pending : List Nat
  nextId : Nat

/-- The moves of a ledger: three ids are reserved at once, the open id is listed, a pending id is opened. -/
inductive Ids.Move : Ids → Ids → Prop
  | keep (s : Ids) : Move s s
  | branch (c : Nat) (l p : List Nat) (n : Nat) :
      Move { opened := [c], listed := l, pending := p, nextId := n }
        { opened := [n], listed := c :: l, pending := (n + 1) :: (n + 2) :: p, nextId := n + 3 }
  | loop (c : Nat) (l p : List Nat) (n : Nat) :
      Move { opened := [c], listed := l, pending := p, nextId := n }
        { opened := [n + 1], listed := n :: c :: l, pending := (n + 2) :: p, nextId := n + 3 }
  | close (c : Nat) (l p : List Nat) (n : Nat) :
      Move { opened := [c], listed := l, pending := p, nextId := n }
        { opened := [], listed := c :: l, pending := p, nextId := n }
  | reopen (o l : List Nat) (j : Nat) (p : List Nat) (n : Nat) :
      Move { opened := o, listed := l, pending := j :: p, nextId := n }
        { opened := [j], listed := o ++ l, pending := p, nextId := n }

/-- Every reserved id is in one place, and the first to be listed is the entry. -/
structure Ids.Conserved (s : Ids) : Prop where
  once : ∀ i, (s.opened ++ s.listed ++ s.pending).count i = if i < s.nextId then 1 else 0
  entry : (s.opened ++ s.listed).getLast? = some 0

/-- **Moves lose and repeat no id.** -/
theorem Ids.Move.conserved {s s' : Ids} (h : Ids.Move s s') (hs : s.Conserved) : s'.Conserved := by
  cases h with
  | keep => exact hs
  | branch c l p n =>
      constructor
      · intro i
        have := hs.once i
        simp only [List.count_append, List.count_cons, List.count_nil, beq_iff_eq] at this ⊢
        split_ifs at this ⊢ <;> omega
      · simpa using hs.entry
  | loop c l p n =>
      constructor
      · intro i
        have := hs.once i
        simp only [List.count_append, List.count_cons, List.count_nil, beq_iff_eq] at this ⊢
        split_ifs at this ⊢ <;> omega
      · simpa using hs.entry
  | close c l p n =>
      constructor
      · intro i
        have := hs.once i
        simp only [List.count_append, List.count_cons, List.count_nil] at this ⊢
        omega
      · simpa using hs.entry
  | reopen o l j p n =>
      constructor
      · intro i
        have := hs.once i
        simp only [List.count_append, List.count_cons, List.count_nil] at this ⊢
        omega
      · have hentry := hs.entry
        show ([j] ++ (o ++ l)).getLast? = some 0
        rw [List.getLast?_append, hentry]
        rfl

/-! ## The ledger of a build -/

/-- The ids a frame has reserved and not opened yet. -/
def FlowFrame.pending (f : FlowFrame) : List Nat :=
  if f.kind = 1 then [f.joinId] else if f.phase = 0 then [f.elseId, f.joinId] else [f.joinId]

def Build.ids (st : Build α) : Ids :=
  { opened := if st.current.kind = 0 then [st.current.id] else []
    listed := st.blocks.map Block.id
    pending := st.frames.flatMap FlowFrame.pending
    nextId := st.nextId }

section Moves

variable {pages : List View} {stride total : Nat} {st st' : Build α}

theorem Build.ids_of_open (h : st.current.kind = 0) : st.ids =
    { opened := [st.current.id], listed := st.blocks.map Block.id,
      pending := st.frames.flatMap FlowFrame.pending, nextId := st.nextId } := by
  simp [Build.ids, h]

/-- A close to the join lists the open id. -/
theorem closeToJoin_ids (st : Build α) (joinId : Nat) :
    (closeToJoin st joinId).blocks.map Block.id = st.ids.opened ++ st.ids.listed ∧
      (closeToJoin st joinId).nextId = st.nextId := by
  unfold closeToJoin
  by_cases h : st.current.kind = 0
  · simp [Build.ids, h]
  · simp [Build.ids, h]

theorem closeUnreachableLoopJoin_ids (st : Build α) (hfalls : st.falls = false) :
    (closeUnreachableLoopJoin st).blocks.map Block.id = st.ids.opened ++ st.ids.listed ∧
      (closeUnreachableLoopJoin st).nextId = st.nextId := by
  unfold closeUnreachableLoopJoin
  by_cases h : st.current.kind = 0
  · have hdead : st.current.reachable = false := by simpa [Build.falls, h] using hfalls
    simp [Build.ids, h, hdead]
  · simp [Build.ids, h]

/-- The end of a statement list lists the open id and opens the first pending one. -/
theorem Ids.move_reopen {j : Nat} (hopen : st'.current.kind = 0) (hid : st'.current.id = j)
    (hlisted : st'.blocks.map Block.id = st.ids.opened ++ st.ids.listed)
    (hpending : st.ids.pending = j :: st'.ids.pending) (hnext : st'.nextId = st.nextId) :
    Ids.Move st.ids st'.ids := by
  have hst' : st'.ids =
      { opened := [j], listed := st.ids.opened ++ st.ids.listed, pending := st'.ids.pending, nextId := st.nextId } := by
    rw [Build.ids_of_open hopen, hid, hlisted, hnext]
  rw [hst', show st.ids = { st.ids with pending := j :: st'.ids.pending } from by rw [← hpending]]
  exact .reopen _ _ _ _ _

/-- **A move of the walk is a move of its ledger.** -/
theorem Moves.ids (h : Moves pages stride total st st') : Ids.Move st.ids st'.ids := by
  cases h with
  | letStmt hrest hopen htakes hatt =>
      rw [addLet, hatt]
      exact .keep _
  | ifStmt hrest hopen htakes hatt =>
      rw [Build.ids_of_open hopen, addBranch, hatt]
      exact .branch _ _ _ _
  | failStmt hrest hopen =>
      rw [Build.ids_of_open hopen]
      exact .close _ _ _ _
  | returnStmt hrest hopen htakes hatt =>
      rw [Build.ids_of_open hopen, addReturn, hatt]
      exact .close _ _ _ _
  | iterateStmt hrest hopen hsource hmid htakes hatt =>
      obtain ⟨_, _, _, rfl⟩ := hsource.eq
      rw [Build.ids_of_open hopen, addIterate, hmid, hatt]
      exact .loop _ _ _ _
  | backedge hrest hframes hkind hfalls htakes hatt =>
      rw [Build.ids_of_open (Build.open_of_falls hfalls), unwindIterate_of_falls hfalls hatt, hframes,
        List.flatMap_cons, FlowFrame.pending, if_pos hkind]
      exact .reopen _ _ _ _ _
  | sink hrest hframes hkind hfalls htakes helide =>
      rw [unwindIterate_of_not_falls hfalls, helide]
      obtain ⟨hlisted, hnext⟩ := closeUnreachableLoopJoin_ids
        { st with typedRest := _, elidedExpressions := _ :: st.elidedExpressions } hfalls
      refine Ids.move_reopen rfl rfl hlisted ?_ hnext
      simp [Build.ids, hframes, FlowFrame.pending, hkind, finishIterate]
  | thenEnd hrest hframes hkind hphase =>
      obtain ⟨hlisted, hnext⟩ := closeToJoin_ids st _
      refine Ids.move_reopen rfl rfl hlisted ?_ hnext
      simp [Build.ids, hframes, FlowFrame.pending, hkind, hphase, unwindThen]
  | elseEnd hrest hframes hkind hphase =>
      obtain ⟨hlisted, hnext⟩ := closeToJoin_ids st _
      refine Ids.move_reopen rfl rfl hlisted ?_ hnext
      simp [Build.ids, hframes, FlowFrame.pending, hkind, hphase, unwindElse]
  | tail hrest hframes htail hopen htakes hatt =>
      rw [Build.ids_of_open hopen, finishTail_of_open htail hopen hatt]
      exact .close _ _ _ _
  | closed hrest hframes htail hclosed =>
      rw [finishTail_of_closed htail hclosed]
      exact .keep _

theorem closeToJoin_done (st : Build α) (joinId : Nat) : (closeToJoin st joinId).done = st.done := by
  unfold closeToJoin
  split <;> rfl

/-- Only the end of the body finishes a walk, with every frame left and the current block closed. -/
theorem Moves.finished (h : Moves pages stride total st st') (hdone : st.done = false) (hdone' : st'.done = true) :
    st'.frames = [] ∧ st'.current.kind ≠ 0 := by
  have habsurd : ∀ {P : Prop}, st.done = true → P := by
    intro P h
    rw [hdone] at h
    cases h
  cases h with
  | letStmt hrest hopen htakes hatt =>
      rw [addLet, hatt] at hdone'
      exact habsurd hdone'
  | ifStmt hrest hopen htakes hatt =>
      rw [addBranch, hatt] at hdone'
      exact habsurd hdone'
  | failStmt hrest hopen => exact habsurd hdone'
  | returnStmt hrest hopen htakes hatt =>
      rw [addReturn, hatt] at hdone'
      exact habsurd hdone'
  | iterateStmt hrest hopen hsource hmid htakes hatt => cases hdone'
  | backedge hrest hframes hkind hfalls htakes hatt =>
      unfold unwindIterate at hdone'
      split at hdone' <;> cases hdone'
  | sink hrest hframes hkind hfalls htakes helide =>
      unfold unwindIterate at hdone'
      split at hdone' <;> cases hdone'
  | thenEnd hrest hframes hkind hphase => exact habsurd ((closeToJoin_done st _).symm.trans hdone')
  | elseEnd hrest hframes hkind hphase => exact habsurd ((closeToJoin_done st _).symm.trans hdone')
  | tail hrest hframes htail hopen htakes hatt =>
      rw [finishTail_of_open htail hopen hatt]
      exact ⟨hframes, Nat.succ_ne_zero 2⟩
  | closed hrest hframes htail hclosed =>
      rw [finishTail_of_closed htail hclosed]
      exact ⟨hframes, hclosed⟩

/-! ## Edges back -/

/-- The ids a closed block goes on to. -/
def Block.successors (b : Block α) : List Nat :=
  if b.kind = 1 then [b.succ0, b.succ1] else if b.kind = 2 then [b.succ0] else []

/-- Edges to blocks closed no later than their source are jumps marked as back edges (newest block first). -/
def Forward : List (Block α) → Prop
  | [] => True
  | b :: older =>
      (∀ i ∈ b.successors, i ∈ (b :: older).map Block.id → b.kind = 2 ∧ b.isIterationBackedge = true) ∧ Forward older

/-- A listed or open id is reserved, and is not pending. -/
theorem Ids.Conserved.of_mem {s : Ids} (h : s.Conserved) {i : Nat} (hi : i ∈ s.opened ++ s.listed) :
    i < s.nextId ∧ i ∉ s.pending := by
  have honce := h.once i
  have hpos := List.count_pos_iff.mpr hi
  rw [List.count_append] at honce
  constructor
  · by_contra hge
    rw [if_neg hge] at honce
    omega
  · intro hpending
    have := List.count_pos_iff.mpr hpending
    split at honce <;> omega

theorem closeToJoin_forward {joinId : Nat} (h : Forward st.blocks) (hj : joinId ∉ st.ids.opened ++ st.ids.listed) :
    Forward (closeToJoin st joinId).blocks := by
  unfold closeToJoin
  split
  · exact h
  · rename_i hopen
    have hopen : st.current.kind = 0 := not_not.mp hopen
    rw [Build.ids_of_open hopen] at hj
    refine ⟨fun i hi hmem => ?_, h⟩
    have hij : i = joinId := by simpa [Block.successors] using hi
    rw [hij] at hmem
    exact absurd hmem hj

/-- **Moves go forward**, back edges apart. -/
theorem Moves.forward (h : Moves pages stride total st st') (hids : st.ids.Conserved) (hst : Forward st.blocks) :
    Forward st'.blocks := by
  have hlt : ∀ {i}, st.current.kind = 0 → i ∈ st.current.id :: st.blocks.map Block.id → i < st.nextId := by
    intro i hopen hi
    have hconserved := hids
    rw [Build.ids_of_open hopen] at hconserved
    exact (hconserved.of_mem hi).1
  have hpending : ∀ {f : FlowFrame} {tail : List FlowFrame}, st.frames = f :: tail → f.kind ≠ 1 →
      f.joinId ∉ st.ids.opened ++ st.ids.listed := by
    intro f tail hframes hkind hmem
    refine (hids.of_mem hmem).2 ?_
    have hin : f.joinId ∈ f.pending := by
      rw [FlowFrame.pending, if_neg hkind]
      split <;> simp
    simp only [Build.ids, hframes, List.flatMap_cons]
    exact List.mem_append_left _ hin
  cases h with
  | letStmt hrest hopen htakes hatt =>
      rw [addLet, hatt]
      exact hst
  | ifStmt hrest hopen htakes hatt =>
      rw [addBranch, hatt]
      refine ⟨fun i hi hmem => ?_, hst⟩
      have hi : i = st.nextId ∨ i = st.nextId + 1 := by simpa [Block.successors, Build.attach] using hi
      have := hlt hopen hmem
      omega
  | failStmt hrest hopen => exact ⟨fun i hi => absurd hi List.not_mem_nil, hst⟩
  | returnStmt hrest hopen htakes hatt =>
      rw [addReturn, hatt]
      exact ⟨fun i hi => absurd hi List.not_mem_nil, hst⟩
  | iterateStmt hrest hopen hsource hmid htakes hatt =>
      obtain ⟨_, _, _, rfl⟩ := hsource.eq
      rw [addIterate, hmid, hatt]
      refine ⟨fun i hi hmem => ?_, fun i hi hmem => ?_, hst⟩
      · have hi : i = st.nextId + 1 ∨ i = st.nextId + 2 := by
          simpa [Block.successors, closeToLoopPreheader, Build.attach] using hi
        rcases List.mem_cons.mp hmem with heq | hmem
        · have heq : i = st.nextId := heq
          omega
        · have := hlt hopen hmem
          omega
      · have hi : i = st.nextId := by simpa [Block.successors, Build.attach] using hi
        have := hlt hopen hmem
        omega
  | backedge hrest hframes hkind hfalls htakes hatt =>
      rw [unwindIterate_of_falls hfalls hatt]
      exact ⟨fun i hi hmem => ⟨rfl, rfl⟩, hst⟩
  | sink hrest hframes hkind hfalls htakes helide =>
      rw [unwindIterate_of_not_falls hfalls, helide]
      show Forward (closeUnreachableLoopJoin _).blocks
      unfold closeUnreachableLoopJoin
      split
      · exact hst
      · split
        · exact hst
        · exact ⟨fun i hi => absurd hi List.not_mem_nil, hst⟩
  | thenEnd hrest hframes hkind hphase => exact closeToJoin_forward hst (hpending hframes hkind)
  | elseEnd hrest hframes hkind hphase => exact closeToJoin_forward hst (hpending hframes hkind)
  | tail hrest hframes htail hopen htakes hatt =>
      rw [finishTail_of_open htail hopen hatt]
      exact ⟨fun i hi => absurd hi List.not_mem_nil, hst⟩
  | closed hrest hframes htail hclosed =>
      rw [finishTail_of_closed htail hclosed]
      exact hst

end Moves

/-! ## Verified graphs -/

/-- The invariant of walks in order. -/
structure WalkInv (st : Build α) : Prop where
  ids : st.ids.Conserved
  forward : Forward st.blocks
  finished : st.done = true → st.frames = [] ∧ st.current.kind ≠ 0

section Verified

variable {pages : List View} {stride total : Nat}

theorem Moves.inv {st st' : Build α} (hdone : st.done = false) (h : Moves pages stride total st st')
    (hst : WalkInv st) : WalkInv st' :=
  ⟨h.ids.conserved hst.ids, h.forward hst.ids hst.forward, h.finished hdone⟩

theorem initialBuild_inv (st : FnWalk α) (h : FnDecl) : WalkInv (initialBuild total st h) := by
  constructor
  · constructor
    · intro i
      simp only [Build.ids, initialBuild, emptyBlock_kind, emptyBlock_id, if_true, List.map_nil, List.flatMap_nil,
        List.append_nil, List.count_cons, List.count_nil, beq_iff_eq]
      split_ifs <;> omega
    · rfl
  · trivial
  · intro hdone
    cases hdone

/-- The listed ids of a finished walk are the reserved ones. -/
theorem WalkInv.listed_perm {st : Build α} (h : WalkInv st) (hdone : st.done = true) :
    (st.blocks.map Block.id).Perm (List.range st.nextId) := by
  obtain ⟨hframes, hclosed⟩ := h.finished hdone
  apply List.perm_iff_count.mpr
  intro i
  have honce := h.ids.once i
  simp only [Build.ids, hframes, List.flatMap_nil, List.append_nil, if_neg hclosed, List.nil_append] at honce
  rw [honce, List.count_range]

/-- The invariant at the end of a walk in order. -/
theorem walk_inv {st : FnWalk α} {h : FnDecl}
    (hok : (walk pages stride total (initialBuild total st h)).ok = true) :
    WalkInv (walk pages stride total (initialBuild total st h)) := by
  unfold walk at hok ⊢
  exact steps_invariant (fun _ _ hdone hmove => Moves.inv hdone hmove) (initialBuild_inv st h) 1024 hok

/-- A graph lists the blocks of a walk that ended in order, all of them, and passes the verifier. -/
structure FromWalk (w : Build α) (flow : FunctionFlow α) : Prop where
  ok : w.ok = true
  done : w.done = true
  inv : WalkInv w
  blocks : flow.blocks = w.blocks.reverse
  count : flow.blockCount = w.nextId
  targets : verifyTargets flow.blocks flow.blockCount = true

/-- **A verified graph is all of its walk**: neither the walk nor the reversal ran out of passes. -/
theorem functionFlow_fromWalk {h : FnDecl} {w : Build α} (hinv : w.ok = true → WalkInv w)
    (hv : (functionFlow h (finishBuild w)).verified = true) :
    FromWalk w (functionFlow h (finishBuild w)) := by
  unfold functionFlow at hv ⊢
  simp only [Bool.and_eq_true, decide_eq_true_eq] at hv
  obtain ⟨⟨hok, htargets⟩, hcount⟩ := hv
  have hdone : w.done = true := by
    cases hd : w.done with
    | true => rfl
    | false => simp [finishBuild, hd] at hok
  have hfinish : finishBuild w = w := if_pos hdone
  rw [hfinish] at hok htargets hcount ⊢
  have hlength : w.blocks.length = w.nextId := by
    have := ((hinv hok).listed_perm hdone).length_eq
    rwa [List.length_map, List.length_range] at this
  have hblocks : reverseBlocks w.blocks = w.blocks.reverse := by
    rw [blockCount, countWithin_eq, reverseBlocks, reverseWithin_eq, List.length_reverse, List.length_take] at hcount
    rw [reverseBlocks, reverseWithin_eq, List.take_of_length_le (by omega)]
  rw [hblocks] at htargets hcount ⊢
  dsimp only
  rw [hcount]
  exact ⟨hok, hdone, hinv hok, rfl, rfl, htargets⟩

/-- The edges to a block listed no later than their source. -/
def Retreats (flow : FunctionFlow α) (b t : Block α) : Prop :=
  ∃ before after, flow.blocks = before ++ b :: after ∧ t ∈ before ++ [b] ∧ t.id ∈ b.successors

/-- A well-formed graph: dense ids, the entry first, closed blocks, targets in the graph, and edges back only from
    a loop's end to the header of the same loop. -/
structure WellFormedGraph (flow : FunctionFlow α) : Prop where
  ids : (flow.blocks.map Block.id).Perm (List.range flow.blockCount)
  entry : flow.blocks.head?.map Block.id = some 0
  closed : ∀ b ∈ flow.blocks, b.kind ≠ 0
  targets : ∀ b ∈ flow.blocks, ∀ i ∈ b.successors, ∃ t ∈ flow.blocks, t.id = i
  backedges : ∀ b ∈ flow.blocks, b.isIterationBackedge = true →
    ∃ t ∈ flow.blocks, t.id = b.succ0 ∧ t.isIterationHeader = true ∧ t.iterationStart = b.iterationStart ∧
      t.iterationStop = b.iterationStop
  retreats : ∀ b t, Retreats flow b t → b.isIterationBackedge = true ∧ t.isIterationHeader = true ∧
    t.iterationStart = b.iterationStart ∧ t.iterationStop = b.iterationStop

/-- The verifier's check of a block. -/
theorem targetCheckBlock_spec {limit : Nat} {b : Block α} (h : targetCheckBlock limit b = true) :
    b.kind ≠ 0 ∧ ∀ i ∈ b.successors, i < limit := by
  unfold targetCheckBlock at h
  unfold Block.successors
  split at h
  · rename_i hkind
    simp only [Bool.and_eq_true, decide_eq_true_eq] at h
    rw [if_pos hkind]
    refine ⟨by omega, fun i hi => ?_⟩
    rcases List.mem_pair.mp hi with rfl | rfl
    · exact h.1.1.2
    · exact h.1.2
  · rename_i hbranch
    rw [if_neg hbranch]
    split at h
    · rename_i hkind
      simp only [Bool.and_eq_true, decide_eq_true_eq] at h
      rw [if_pos hkind]
      refine ⟨by omega, fun i hi => ?_⟩
      rw [List.mem_singleton.mp hi]
      exact h.1.2
    · rename_i hjump
      rw [if_neg hjump]
      split at h
      · rename_i hend
        refine ⟨fun h0 => ?_, fun i hi => absurd hi List.not_mem_nil⟩
        simp [h0] at hend
      · cases h

/-- The verifier's check of a loop link. -/
theorem iterationLinkCheck_spec {blocks : List (Block α)} {b : Block α} (h : iterationLinkCheck blocks b = true)
    (hback : b.isIterationBackedge = true) :
    ∃ t ∈ blocks, t.id = b.succ0 ∧ t.isIterationHeader = true ∧ t.iterationStart = b.iterationStart ∧
      t.iterationStop = b.iterationStop := by
  rw [iterationLinkCheck, hback] at h
  simp only [Bool.not_true, Bool.false_eq_true, if_false, Bool.and_eq_true, decide_eq_true_eq] at h
  obtain ⟨hsucc, hheader⟩ := h
  obtain ⟨t, ht, htest⟩ := Search.exists_of_found hheader
  simp only [Bool.and_eq_true, decide_eq_true_eq] at htest
  exact ⟨t, ht, htest.1.1.1.trans hsucc.symm, htest.1.1.2, htest.1.2, htest.2⟩

theorem verifyTargets_eq (blocks : List (Block α)) (limit : Nat) :
    verifyTargets blocks limit =
      (decide (blocks.length ≤ 1024) && blocks.all (targetCheckBlock limit) &&
        blocks.all (iterationLinkCheck blocks)) := by
  rw [verifyTargets, iterationLinksValid, Audit.passed_eq, Audit.passed_eq]
  cases decide (blocks.length ≤ 1024) <;> simp

theorem verifyTargets_spec {blocks : List (Block α)} {limit : Nat} (h : verifyTargets blocks limit = true) :
    (∀ b ∈ blocks, targetCheckBlock limit b = true) ∧ ∀ b ∈ blocks, iterationLinkCheck blocks b = true := by
  rw [verifyTargets_eq, Bool.and_eq_true, Bool.and_eq_true, List.all_eq_true, List.all_eq_true] at h
  exact ⟨h.1.2, h.2⟩

/-- A retreating edge is marked. -/
theorem Forward.marked {l : List (Block α)} (h : Forward l) {before after : List (Block α)} {b t : Block α}
    (hl : l = after ++ b :: before) (ht : t ∈ b :: before) (hsucc : t.id ∈ b.successors) :
    b.kind = 2 ∧ b.isIterationBackedge = true := by
  induction after generalizing l with
  | nil =>
      subst hl
      exact h.1 _ hsucc (List.mem_map_of_mem ht)
  | cons c after ih =>
      subst hl
      exact ih h.2 rfl

theorem FromWalk.wellFormed {w : Build α} {flow : FunctionFlow α} (h : FromWalk w flow) : WellFormedGraph flow := by
  obtain ⟨htargets, hlinks⟩ := verifyTargets_spec h.targets
  have hids : (flow.blocks.map Block.id).Perm (List.range flow.blockCount) := by
    rw [h.blocks, h.count, List.map_reverse]
    exact (List.reverse_perm _).trans (h.inv.listed_perm h.done)
  have hback : ∀ b ∈ flow.blocks, b.isIterationBackedge = true → _ :=
    fun b hb => iterationLinkCheck_spec (hlinks b hb)
  refine ⟨hids, ?_, fun b hb => (targetCheckBlock_spec (htargets b hb)).1, fun b hb i hi => ?_, hback, ?_⟩
  · -- the first block listed is the last of the list the walk leaves
    obtain ⟨-, hclosed⟩ := h.inv.finished h.done
    have hentry := h.inv.ids.entry
    simp only [Build.ids, if_neg hclosed, List.nil_append] at hentry
    rw [h.blocks, List.head?_reverse, ← List.getLast?_map]
    exact hentry
  · have hlt := (targetCheckBlock_spec (htargets b hb)).2 i hi
    have hmem : i ∈ flow.blocks.map Block.id := hids.mem_iff.mpr (List.mem_range.mpr hlt)
    obtain ⟨t, ht, hid⟩ := List.mem_map.mp hmem
    exact ⟨t, ht, hid⟩
  · rintro b t ⟨before, after, hsplit, ht, hsucc⟩
    have hwalk : w.blocks = after.reverse ++ b :: before.reverse := by
      rw [← List.reverse_reverse w.blocks, ← h.blocks, hsplit]
      simp
    have hmem : t ∈ b :: before.reverse := by
      simpa [or_comm] using ht
    obtain ⟨hkind, hmarked⟩ := h.inv.forward.marked hwalk hmem hsucc
    have hb : b ∈ flow.blocks := by
      rw [hsplit]
      simp
    obtain ⟨u, hu, huid, hheader⟩ := hback b hb hmarked
    have htid : t.id = b.succ0 := by
      simpa [Block.successors, hkind] using hsucc
    have htmem : t ∈ flow.blocks := by
      rw [hsplit]
      rcases List.mem_append.mp ht with ht | ht
      · exact List.mem_append_left _ ht
      · exact List.mem_append_right _ (List.mem_cons.mpr (.inl (List.mem_singleton.mp ht)))
    -- ids are unique, so the target is the header the verifier found
    have hnodup : (flow.blocks.map Block.id).Nodup := hids.nodup_iff.mpr List.nodup_range
    have hut : u = t := List.inj_on_of_nodup_map hnodup hu htmem (huid.trans htid.symm)
    rw [← hut]
    exact ⟨hmarked, hheader⟩

/-- **Verified graphs are well formed**, for every body and every list of proof operations. -/
theorem lowerOneFn_wellFormed (pages : List View) (stride total : Nat) (st : FnWalk α) (h : FnDecl)
    (t : List FnDecl) : ∃ flow, (lowerOneFn pages stride total st h t).acc = flow :: st.acc ∧
      (flow.verified = true → WellFormedGraph flow) :=
  ⟨_, rfl, fun hv => (functionFlow_fromWalk walk_inv hv).wellFormed⟩

end Verified

end MncsCompiler.Flow
