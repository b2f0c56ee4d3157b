import Mathlib.Algebra.GroupWithZero.Nat
import Mathlib.Data.List.Forall2
import MncsCompiler.Flow.LoopFree
import MncsCompiler.Flow.Preserve
import MncsCompiler.Flow.Reach

/-!
# `Flow.Facts` — every operation list of a proof is in the graphs, once and in order

Lowering takes the operation lists of a proof one at a time. `Consumed` says what it has done with those taken so
far: blocks are opened and closed one at a time, a list goes to the block that is open, and the next state of a loop
whose body never comes to its end is set aside as the exhausted join of that loop opens. A walk that reports no
dead join does nothing else (`Moves.traced`), so its graph and its elided expressions give the lists back in the
order they were taken, and the functions of a unit give back the whole proof.
-/

namespace MncsCompiler.Flow

open BoundedLoop Decl

variable {α : Type}

/-! ## What a graph holds -/

/-- An expression set aside right before a block, and the block. -/
abbrev Entry (α : Type) := Option (TypedExpr α) × Block α

/-- The operation lists of an entry in the order they are taken. -/
def Entry.ops (e : Entry α) : List (List α) := (e.1.toList ++ e.2.expressions).map TypedExpr.ops

/-- A loop of these blocks has this exhausted join, and its state has this span. -/
def HasLoop (blocks : List (Block α)) (exit stateStart stateStop : Nat) : Prop :=
  ∃ h ∈ blocks, h.isIterationHeader = true ∧ h.succ1 = exit ∧ h.iteration.stateStart = stateStart ∧
    h.iteration.stateStop = stateStop

/-- The instructions of a block are the operations of its expressions. -/
structure Tallied (b : Block α) : Prop where
  instructions : b.instructions = (b.expressions.map TypedExpr.opCount).sum
  counts : ∀ x ∈ b.expressions, x.opCount = countTops x.ops

/-- A graph holds these operation lists in order: those of its blocks, as listed, and each elided next state right
    before the exhausted join of its loop. -/
structure Holds (flow : FunctionFlow α) (tops : List (List α)) : Prop where
  order : ∃ entries : List (Entry α), entries.map Prod.snd = flow.blocks ∧
    entries.filterMap Prod.fst = flow.elidedExpressions ∧ entries.flatMap Entry.ops = tops ∧
    ∀ e ∈ entries, ∀ x ∈ e.1, x.role = 6 ∧ HasLoop flow.blocks e.2.id x.bindingStart x.bindingStop
  tallied : ∀ b ∈ flow.blocks, Tallied b

theorem HasLoop.mono {bs bs' : List (Block α)} {exit s e : Nat} (h : HasLoop bs exit s e) (hsub : bs ⊆ bs') :
    HasLoop bs' exit s e := by
  obtain ⟨b, hb, hloop⟩ := h
  exact ⟨b, hsub hb, hloop⟩

/-! ## Consuming a list of operation lists -/

/-- The block being filled, with what was set aside as it was opened. Its expressions are in order. -/
structure Filling (α : Type) where
  id : Nat
  early : Option (TypedExpr α)
  expressions : List (TypedExpr α)
  instructions : Nat

/-- An empty block. -/
def Filling.fresh (id : Nat) (early : Option (TypedExpr α)) : Filling α :=
  { id := id, early := early, expressions := [], instructions := 0 }

/-- The filled block with one more expression. -/
def Filling.add (o : Filling α) (x : TypedExpr α) : Filling α :=
  { o with expressions := o.expressions ++ [x], instructions := o.instructions + x.opCount }

/-- The block lists what was filled. -/
def Filling.Fills (o : Filling α) (b : Block α) : Prop :=
  b.id = o.id ∧ b.expressions = o.expressions ∧ b.instructions = o.instructions

/-- From `tops`, with `rest` left: the blocks listed and the expressions set aside (newest first), and the block
    being filled. -/
inductive Consumed (tops : List (List α)) :
    List (Block α) → List (TypedExpr α) → Option (Filling α) → List (List α) → Prop
  | start : Consumed tops [] [] none tops
  | fresh {bs el rest} (id : Nat) (h : Consumed tops bs el none rest) :
      Consumed tops bs el (some (.fresh id none)) rest
  | take {bs el o rest} {x : TypedExpr α} (hx : x.opCount = countTops x.ops)
      (h : Consumed tops bs el (some o) (x.ops :: rest)) : Consumed tops bs el (some (o.add x)) rest
  | close {bs el o rest} {b : Block α} (hb : o.Fills b) (h : Consumed tops bs el (some o) rest) :
      Consumed tops (b :: bs) el none rest
  | elide {bs el rest} {x : TypedExpr α} (id : Nat) (hrole : x.role = 6)
      (hloop : HasLoop bs id x.bindingStart x.bindingStop) (h : Consumed tops bs el none (x.ops :: rest)) :
      Consumed tops bs (x :: el) (some (.fresh id (some x))) rest

/-- The operation lists in the block being filled. -/
def Filling.ops (o : Filling α) : List (List α) := (o.early.toList ++ o.expressions).map TypedExpr.ops

/-- What the block being filled has so far is right. -/
structure Filling.Sound (bs : List (Block α)) (o : Filling α) : Prop where
  instructions : o.instructions = (o.expressions.map TypedExpr.opCount).sum
  counts : ∀ x ∈ o.expressions, x.opCount = countTops x.ops
  early : ∀ x ∈ o.early, x.role = 6 ∧ HasLoop bs o.id x.bindingStart x.bindingStop

theorem Filling.Sound.fresh {bs : List (Block α)} {id : Nat} {early : Option (TypedExpr α)}
    (h : ∀ x ∈ early, x.role = 6 ∧ HasLoop bs id x.bindingStart x.bindingStop) :
    (Filling.fresh id early).Sound bs where
  instructions := rfl
  counts := fun _ hx => absurd hx List.not_mem_nil
  early := h

theorem Filling.Sound.add {bs : List (Block α)} {o : Filling α} {x : TypedExpr α} (h : o.Sound bs)
    (hx : x.opCount = countTops x.ops) : (o.add x).Sound bs where
  instructions := by simp [Filling.add, h.instructions]
  counts := by
    intro y hy
    rcases List.mem_append.mp hy with hy | hy
    · exact h.counts y hy
    · rw [List.mem_singleton.mp hy]
      exact hx
  early := h.early

theorem Filling.Sound.tallied {bs : List (Block α)} {o : Filling α} {b : Block α} (h : o.Sound bs)
    (hb : o.Fills b) : Tallied b := by
  obtain ⟨-, hexpressions, hinstructions⟩ := hb
  constructor
  · rw [hinstructions, hexpressions]
    exact h.instructions
  · rw [hexpressions]
    exact h.counts

/-- What has been consumed, read back. -/
structure ReadBack (tops : List (List α)) (bs : List (Block α)) (el : List (TypedExpr α)) (o : Option (Filling α))
    (rest : List (List α)) (entries : List (Entry α)) : Prop where
  blocks : entries.map Prod.snd = bs.reverse
  elided : entries.filterMap Prod.fst ++ (o.bind Filling.early).toList = el.reverse
  order : entries.flatMap Entry.ops ++ (o.elim [] Filling.ops) ++ rest = tops
  loops : ∀ e ∈ entries, ∀ x ∈ e.1, x.role = 6 ∧ HasLoop bs e.2.id x.bindingStart x.bindingStop
  tallied : ∀ b ∈ bs, Tallied b
  filling : ∀ f ∈ o, f.Sound bs

/-- **What was consumed can be read back in order.** -/
theorem Consumed.readBack {tops rest : List (List α)} {bs : List (Block α)} {el : List (TypedExpr α)}
    {o : Option (Filling α)} (h : Consumed tops bs el o rest) : ∃ entries, ReadBack tops bs el o rest entries := by
  induction h with
  | start =>
      exact ⟨[], rfl, rfl, rfl, fun _ he => absurd he List.not_mem_nil, fun _ hb => absurd hb List.not_mem_nil,
        fun _ hf => absurd hf (Option.not_mem_none _)⟩
  | fresh id h ih =>
      obtain ⟨entries, ih⟩ := ih
      refine ⟨entries, ih.blocks, ih.elided, ih.order, ih.loops, ih.tallied, ?_⟩
      intro f hf
      rw [← Option.some.inj hf]
      exact .fresh fun _ hx => absurd hx (Option.not_mem_none _)
  | @take bs el o rest x hx h ih =>
      obtain ⟨entries, ih⟩ := ih
      refine ⟨entries, ih.blocks, ih.elided, ?_, ih.loops, ih.tallied, ?_⟩
      · rw [← ih.order]
        simp [Filling.ops, Filling.add]
      · intro f hf
        rw [← Option.some.inj hf]
        exact (ih.filling o rfl).add hx
  | @close bs el o rest b hb h ih =>
      obtain ⟨entries, ih⟩ := ih
      have hsound := ih.filling o rfl
      have hsub := List.subset_cons_self b bs
      refine ⟨entries ++ [(o.early, b)], ?_, ?_, ?_, ?_, ?_, ?_⟩
      · rw [List.map_append, ih.blocks, List.reverse_cons]
        rfl
      · rw [← ih.elided, List.filterMap_append]
        cases hearly : o.early <;> simp [hearly]
      · rw [← ih.order]
        simp [Entry.ops, Filling.ops, hb.2.1]
      · intro e he x hx
        rcases List.mem_append.mp he with he | he
        · obtain ⟨hrole, hloop⟩ := ih.loops e he x hx
          exact ⟨hrole, hloop.mono hsub⟩
        · rw [List.mem_singleton.mp he] at hx ⊢
          obtain ⟨hrole, hloop⟩ := hsound.early x hx
          rw [← hb.1] at hloop
          exact ⟨hrole, hloop.mono hsub⟩
      · exact List.forall_mem_cons.mpr ⟨hsound.tallied hb, ih.tallied⟩
      · exact fun _ hf => absurd hf (Option.not_mem_none _)
  | @elide bs el rest x id hrole hloop h ih =>
      obtain ⟨entries, ih⟩ := ih
      refine ⟨entries, ih.blocks, ?_, ?_, ih.loops, ih.tallied, ?_⟩
      · have helided := ih.elided
        simp only [Option.bind_none, Option.toList_none, List.append_nil] at helided
        rw [helided, List.reverse_cons]
        rfl
      · rw [← ih.order]
        simp [Filling.ops, Filling.fresh]
      · intro f hf
        rw [← Option.some.inj hf]
        refine .fresh fun y hy => ?_
        rw [← Option.some.inj hy]
        exact ⟨hrole, hloop⟩

/-! ## The walk consumes -/

section Moves

variable {pages : List View} {stride total : Nat} {st st' : Build α}

/-- Every block is on a path from the entry, as far as the walk can tell. -/
structure Build.AllLive (st : Build α) : Prop where
  current : st.current.reachable = true
  frames : ∀ f ∈ st.frames, f.parentLive = true

/-- A move that leaves no diagnostic found none, and kills no block. -/
theorem Moves.allLive (h : Moves pages stride total st st') (hquiet : st'.diagnostics = []) :
    st.diagnostics = [] ∧ (st.AllLive → st'.AllLive) := by
  cases h with
  | letStmt hrest hopen htakes hatt =>
      rw [addLet, hatt] at hquiet ⊢
      exact ⟨hquiet, fun hlive => ⟨hlive.current, hlive.frames⟩⟩
  | ifStmt hrest hopen htakes hatt =>
      rw [addBranch, hatt] at hquiet ⊢
      refine ⟨hquiet, fun hlive => ⟨hlive.current, ?_⟩⟩
      exact List.forall_mem_cons.mpr ⟨hlive.current, hlive.frames⟩
  | failStmt hrest hopen => exact ⟨hquiet, fun hlive => ⟨hlive.current, hlive.frames⟩⟩
  | returnStmt hrest hopen htakes hatt =>
      rw [addReturn, hatt] at hquiet ⊢
      exact ⟨hquiet, fun hlive => ⟨hlive.current, hlive.frames⟩⟩
  | iterateStmt hrest hopen hsource hmid htakes hatt =>
      obtain ⟨_, _, _, rfl⟩ := hsource.eq
      rw [addIterate, hmid, hatt] at hquiet ⊢
      refine ⟨hquiet, fun hlive => ⟨hlive.current, ?_⟩⟩
      exact List.forall_mem_cons.mpr ⟨hlive.current, hlive.frames⟩
  | backedge hrest hframes hkind hfalls htakes hatt =>
      rw [unwindIterate_of_falls hfalls hatt] at hquiet ⊢
      refine ⟨hquiet, fun hlive => ?_⟩
      have hlives := hlive.frames
      rw [hframes] at hlives
      exact ⟨(List.forall_mem_cons.mp hlives).1, (List.forall_mem_cons.mp hlives).2⟩
  | sink hrest hframes hkind hfalls htakes helide =>
      rw [unwindIterate_of_not_falls hfalls, helide] at hquiet ⊢
      refine ⟨?_, fun hlive => ?_⟩
      · change (closeUnreachableLoopJoin _).diagnostics = [] at hquiet
        unfold closeUnreachableLoopJoin at hquiet
        split at hquiet
        · exact hquiet
        · split at hquiet
          · exact hquiet
          · exact hquiet
      · have hlives := hlive.frames
        rw [hframes] at hlives
        exact ⟨(List.forall_mem_cons.mp hlives).1, (List.forall_mem_cons.mp hlives).2⟩
  | @thenEnd f tail hrest hframes hkind hphase =>
      refine ⟨(closeToJoin_diagnostics st f.joinId).symm.trans hquiet, fun hlive => ?_⟩
      have hlives := hlive.frames
      rw [hframes] at hlives
      obtain ⟨hparent, htail⟩ := List.forall_mem_cons.mp hlives
      exact ⟨hparent, List.forall_mem_cons.mpr ⟨hparent, htail⟩⟩
  | @elseEnd f tail hrest hframes hkind hphase =>
      change addJoinDiagnostic (closeToJoin st f.joinId) (f.thenFalls || st.falls) 0 st.sourceStop = [] at hquiet
      unfold addJoinDiagnostic at hquiet
      split at hquiet
      · next hjoin =>
          refine ⟨(closeToJoin_diagnostics st f.joinId).symm.trans hquiet, fun hlive => ⟨hjoin, ?_⟩⟩
          have hlives := hlive.frames
          rw [hframes] at hlives
          exact (List.forall_mem_cons.mp hlives).2
      · cases hquiet
  | tail hrest hframes htail hopen htakes hatt =>
      rw [finishTail_of_open htail hopen hatt] at hquiet ⊢
      exact ⟨hquiet, fun hlive => ⟨hlive.current, hlive.frames⟩⟩
  | closed hrest hframes htail hclosed =>
      rw [finishTail_of_closed htail hclosed] at hquiet ⊢
      exact ⟨hquiet, fun hlive => ⟨hlive.current, hlive.frames⟩⟩

/-- The block as it is being filled: its expressions are latest first. -/
def Block.filling (b : Block α) (early : Option (TypedExpr α)) : Filling α :=
  { id := b.id, early := early, expressions := b.expressions.reverse, instructions := b.instructions }

/-- The build has consumed part of `tops`, and the loops of its frames have their headers. -/
structure Traced (tops : List (List α)) (st : Build α) : Prop where
  opened : st.current.kind = 0 →
    ∃ early, Consumed tops st.blocks st.elidedExpressions (some (st.current.filling early)) st.typedRest
  closed : st.current.kind ≠ 0 → Consumed tops st.blocks st.elidedExpressions none st.typedRest
  loops : ∀ f ∈ st.frames, f.kind = 1 →
    HasLoop st.blocks f.joinId f.iterationStateStart f.iterationStateStop

variable {tops : List (List α)}

theorem Takes.ops {role start stop bindingStart bindingStop : Nat} {x : TypedExpr α} {rest : List (List α)}
    (h : Takes st role start stop bindingStart bindingStop x rest) :
    st.typedRest = x.ops :: rest ∧ x.opCount = countTops x.ops := by
  obtain ⟨htyped, -, hx⟩ := h
  have hcount := congrArg TypedExpr.opCount hx
  simp only [typedExpr] at hcount
  exact ⟨htyped, hcount⟩

/-- Attaching consumes one operation list. -/
theorem Consumed.attach {early : Option (TypedExpr α)} {role start stop bindingStart bindingStop : Nat}
    {x : TypedExpr α} {rest : List (List α)}
    (h : Consumed tops st.blocks st.elidedExpressions (some (st.current.filling early)) st.typedRest)
    (htakes : Takes st role start stop bindingStart bindingStop x rest) :
    Consumed tops st.blocks st.elidedExpressions (some ((st.attach x rest).current.filling early)) rest := by
  obtain ⟨htyped, hcount⟩ := htakes.ops
  rw [htyped] at h
  have htake := h.take hcount
  have hadd : (st.attach x rest).current.filling early = (st.current.filling early).add x := by
    simp [Build.attach, Block.filling, Filling.add]
  rw [hadd]
  exact htake

/-- Closing the open block lists what it was filled with. -/
theorem Consumed.closing {bs : List (Block α)} {el : List (TypedExpr α)} {rest : List (List α)} {b c : Block α}
    {early : Option (TypedExpr α)} (h : Consumed tops bs el (some (b.filling early)) rest)
    (hroom : b.expressions.length ≤ 1024) (hid : c.id = b.id)
    (hexpressions : c.expressions = reverseTypedExpressions b.expressions) (hcount : c.instructions = b.instructions) :
    Consumed tops (c :: bs) el none rest := by
  refine h.close ⟨hid, ?_, hcount⟩
  rw [hexpressions, reverseTypedExpressions_eq hroom]
  rfl

theorem Traced.closeToJoin (h : Traced tops st) (hroom : st.current.kind = 0 → st.current.expressions.length ≤ 1024)
    (joinId : Nat) :
    Consumed tops (closeToJoin st joinId).blocks (closeToJoin st joinId).elidedExpressions none
      (closeToJoin st joinId).typedRest := by
  unfold Flow.closeToJoin
  split
  · next hclosed => exact h.closed hclosed
  · next hopen =>
      have hopen : st.current.kind = 0 := not_not.mp hopen
      obtain ⟨early, hfilling⟩ := h.opened hopen
      exact hfilling.closing (hroom hopen) rfl (by simp only) rfl

/-- A new block is open and empty. -/
theorem Traced.fresh {tops : List (List α)} (hopen : st.current.kind = 0) (hempty : st.current.expressions = [])
    (hcount : st.current.instructions = 0)
    (h : Consumed tops st.blocks st.elidedExpressions none st.typedRest)
    (hloops : ∀ f ∈ st.frames, f.kind = 1 → HasLoop st.blocks f.joinId f.iterationStateStart f.iterationStateStop) :
    Traced tops st where
  opened := by
    intro _
    refine ⟨none, ?_⟩
    have hfresh : st.current.filling none = .fresh st.current.id none := by
      rw [Block.filling, hempty, hcount]
      rfl
    rw [hfresh]
    exact h.fresh _
  closed := fun hclosed => absurd hopen hclosed
  loops := hloops

/-- A closed block is listed. -/
theorem Traced.shut (hclosed : st.current.kind ≠ 0)
    (h : Consumed tops st.blocks st.elidedExpressions none st.typedRest)
    (hloops : ∀ f ∈ st.frames, f.kind = 1 → HasLoop st.blocks f.joinId f.iterationStateStart f.iterationStateStop) :
    Traced tops st where
  opened := fun hopen => absurd hopen hclosed
  closed := fun _ => h
  loops := hloops

theorem Traced.loops_mono (h : Traced tops st) {bs : List (Block α)} (hsub : st.blocks ⊆ bs) :
    ∀ f ∈ st.frames, f.kind = 1 → HasLoop bs f.joinId f.iterationStateStart f.iterationStateStop :=
  fun f hf hkind => (h.loops f hf hkind).mono hsub

theorem Traced.loops_tail (h : Traced tops st) {f : FlowFrame} {tail : List FlowFrame} (hframes : st.frames = f :: tail)
    {bs : List (Block α)} (hsub : st.blocks ⊆ bs) :
    ∀ g ∈ tail, g.kind = 1 → HasLoop bs g.joinId g.iterationStateStart g.iterationStateStop := by
  have hloops := h.loops_mono hsub
  rw [hframes] at hloops
  exact (List.forall_mem_cons.mp hloops).2

/-- The source of a loop, when it has one, is consumed like any expression of the open block. -/
theorem TakesSource.consumed {mid : Build α} {ho : Bool} {iterated : Expr} {s e : Nat}
    {source : Option (TypedExpr α)} {early : Option (TypedExpr α)} (hsource : TakesSource st ho iterated s e source mid)
    (h : Consumed tops st.blocks st.elidedExpressions (some (st.current.filling early)) st.typedRest) :
    Consumed tops mid.blocks mid.elidedExpressions (some (mid.current.filling early)) mid.typedRest := by
  cases ho with
  | false =>
      cases source with
      | none =>
          have hmid : mid = st := hsource
          rw [hmid]
          exact h
      | some x => exact hsource.elim
  | true =>
      cases source with
      | none => exact hsource.elim
      | some x =>
          obtain ⟨rest, htakes, rfl⟩ := hsource
          exact h.attach htakes

/-- **A move consumes in order**: what it takes goes to the open block, or is set aside before the block it opens. -/
theorem Moves.traced (h : Moves pages stride total st st') (hst : Traced tops st) (hlive : st.AllLive)
    (hone : st.current.kind = 0 → st.current.expressions.length + 1 ≤ 1024)
    (htwo : st.current.kind = 0 → st'.done = false → st.current.expressions.length + 2 ≤ 1024) :
    Traced tops st' := by
  cases h with
  | letStmt hrest hopen htakes hatt =>
      rw [addLet, hatt]
      obtain ⟨early, hfilling⟩ := hst.opened hopen
      exact ⟨fun _ => ⟨early, hfilling.attach htakes⟩, fun hclosed => absurd hopen hclosed, hst.loops⟩
  | ifStmt hrest hopen htakes hatt =>
      rw [addBranch, hatt]
      obtain ⟨early, hfilling⟩ := hst.opened hopen
      apply Traced.fresh
      · rfl
      · rfl
      · rfl
      · exact (hfilling.attach htakes).closing (hone hopen) rfl (by simp only) rfl
      · refine List.forall_mem_cons.mpr ⟨fun hkind => absurd hkind Nat.zero_ne_one, ?_⟩
        exact hst.loops_mono (List.subset_cons_self _ _)
  | failStmt hrest hopen =>
      obtain ⟨early, hfilling⟩ := hst.opened hopen
      apply Traced.shut
      · exact Nat.succ_ne_zero 3
      · exact hfilling.closing (Nat.le_of_succ_le (hone hopen)) rfl (by simp only) rfl
      · exact hst.loops_mono (List.subset_cons_self _ _)
  | returnStmt hrest hopen htakes hatt =>
      rw [addReturn, hatt]
      obtain ⟨early, hfilling⟩ := hst.opened hopen
      apply Traced.shut
      · exact Nat.succ_ne_zero 2
      · exact (hfilling.attach htakes).closing (hone hopen) rfl (by simp only) rfl
      · exact hst.loops_mono (List.subset_cons_self _ _)
  | @iterateStmt mid _ _ _ _ _ _ _ _ _ _ _ _ _ _ _ _ _ _ _ source x rest hrest hopen hsource hmid htakes hatt =>
      obtain ⟨early, hfilling⟩ := hst.opened hopen
      have hattached := (hsource.consumed hfilling).attach htakes
      have hroom : (mid.attach x rest).current.expressions.length ≤ 1024 := by
        have hlength : source.toList.length ≤ 1 := by cases source <;> simp
        have := htwo hopen rfl
        simp only [Build.attach, List.length_cons, hsource.expressions, List.length_append]
        omega
      obtain ⟨_, _, _, heq⟩ := hsource.eq
      have hblocks : mid.blocks = st.blocks := by rw [heq]
      rw [addIterate, hmid, hatt]
      apply Traced.fresh
      · rfl
      · rfl
      · rfl
      · -- the header is closed as it is opened
        apply Consumed.close (o := .fresh (mid.attach x rest).nextId none)
        · exact ⟨rfl, rfl, rfl⟩
        · apply Consumed.fresh
          exact hattached.closing hroom rfl (by simp only) rfl
      · refine List.forall_mem_cons.mpr ⟨fun _ => ⟨_, List.mem_cons_self, rfl, rfl, rfl, rfl⟩, ?_⟩
        apply hst.loops_mono
        rw [← hblocks]
        exact List.subset_cons_of_subset _ (List.subset_cons_self _ _)
  | backedge hrest hframes hkind hfalls htakes hatt =>
      have hopen := Build.open_of_falls hfalls
      obtain ⟨early, hfilling⟩ := hst.opened hopen
      rw [unwindIterate_of_falls hfalls hatt]
      apply Traced.fresh
      · rfl
      · rfl
      · rfl
      · exact (hfilling.attach htakes).closing (hone hopen) rfl (by simp only) rfl
      · exact hst.loops_tail hframes (List.subset_cons_self _ _)
  | @sink f tail x rest hrest hframes hkind hfalls htakes helide =>
      -- a live block that does not come to the end of the body is closed
      have hclosed : st.current.kind ≠ 0 := by
        intro hopen
        simp [Build.falls, hopen, hlive.current] at hfalls
      have hloop := hst.loops f (hframes ▸ List.mem_cons_self)
      obtain ⟨htyped, -⟩ := htakes.ops
      have hconsumed := hst.closed hclosed
      rw [htyped] at hconsumed
      rw [unwindIterate_of_not_falls hfalls, helide, closeUnreachableLoopJoin, if_pos hclosed]
      constructor
      · intro _
        have hx := htakes.2.2
        have hrole : x.role = 6 := by rw [hx, typedExpr]
        have hspan : x.bindingStart = f.iterationStateStart ∧ x.bindingStop = f.iterationStateStop := by
          rw [hx]
          exact ⟨rfl, rfl⟩
        refine ⟨some x, hconsumed.elide f.joinId hrole ?_⟩
        rw [hspan.1, hspan.2]
        exact hloop hkind
      · exact fun hclosed => absurd rfl hclosed
      · exact hst.loops_tail hframes (List.Subset.refl _)
  | @thenEnd f tail hrest hframes hkind hphase =>
      apply Traced.fresh
      · rfl
      · rfl
      · rfl
      · exact hst.closeToJoin (fun hopen => Nat.le_of_succ_le (hone hopen)) f.joinId
      · have htail := hst.loops_tail hframes (closeToJoin_frame st f.joinId).2.2.2
        exact List.forall_mem_cons.mpr ⟨fun h => absurd h hkind, htail⟩
  | @elseEnd f tail hrest hframes hkind hphase =>
      apply Traced.fresh
      · rfl
      · rfl
      · rfl
      · exact hst.closeToJoin (fun hopen => Nat.le_of_succ_le (hone hopen)) f.joinId
      · exact hst.loops_tail hframes (closeToJoin_frame st f.joinId).2.2.2
  | tail hrest hframes htail hopen htakes hatt =>
      obtain ⟨early, hfilling⟩ := hst.opened hopen
      rw [finishTail_of_open htail hopen hatt]
      apply Traced.shut
      · exact Nat.succ_ne_zero 2
      · exact (hfilling.attach htakes).closing (hone hopen) rfl (by simp only [Build.attach]) rfl
      · exact hst.loops_mono (List.subset_cons_self _ _)
  | closed hrest hframes htail hclosed =>
      rw [finishTail_of_closed htail hclosed]
      exact .shut hclosed (hst.closed hclosed) hst.loops

/-- A move adds to the open block no more than one expression, or it opens an empty one. -/
theorem Moves.expressions_length (h : Moves pages stride total st st') (hopen : st'.current.kind = 0) :
    st'.current.expressions = [] ∨
      st.current.kind = 0 ∧ st'.current.expressions.length = st.current.expressions.length + 1 := by
  cases h with
  | letStmt hrest hopen' htakes hatt =>
      rw [addLet, hatt]
      exact .inr ⟨hopen', rfl⟩
  | ifStmt hrest hopen htakes hatt => exact .inl rfl
  | failStmt hrest hopen' => cases hopen
  | returnStmt hrest hopen' htakes hatt => cases hopen
  | iterateStmt hrest hopen hsource hmid htakes hatt => exact .inl rfl
  | backedge hrest hframes hkind hfalls htakes hatt =>
      rw [unwindIterate_of_falls hfalls hatt]
      exact .inl rfl
  | sink hrest hframes hkind hfalls htakes helide =>
      rw [unwindIterate_of_not_falls hfalls]
      exact .inl rfl
  | thenEnd hrest hframes hkind hphase => exact .inl rfl
  | elseEnd hrest hframes hkind hphase => exact .inl rfl
  | tail hrest hframes htail hopen' htakes hatt =>
      rw [finishTail_of_open htail hopen' hatt] at hopen
      cases hopen
  | closed hrest hframes htail hclosed =>
      rw [finishTail_of_closed htail hclosed] at hopen
      exact absurd hopen hclosed

/-! ## Walks -/

variable {w : Build α}

/-- **A walk without a diagnostic consumes in order.** By induction on the steps left, which also bound the
    expressions that the open block can still get. -/
theorem Reaches.traced {n : Nat} (h : Reaches pages stride total n st w) (hquiet : w.diagnostics = []) :
    st.diagnostics = [] ∧ (st.AllLive → Traced tops st → Traced tops w) := by
  induction n generalizing st with
  | zero =>
      have hst : st = w := h.run
      rw [hst]
      exact ⟨hquiet, fun _ htraced => htraced⟩
  | succ n ih =>
      cases hdone : st.done with
      | true =>
          have hst : st = w := by rw [← h.run, Function.iterate_fixed (step_of_done hdone)]
          rw [hst]
          exact ⟨hquiet, fun _ htraced => htraced⟩
      | false =>
          obtain ⟨m, hm, -, -, hmove, hnext⟩ := h.step hdone
          obtain rfl : n = m := Nat.succ.inj hm
          have hroom := h.room
          have hbudget := h.budget
          have hrest : Reaches pages stride total n (Flow.step pages stride total st) w := by
            apply hnext
            intro hopen
            rcases hmove.expressions_length hopen with hempty | ⟨hbefore, hlength⟩
            · rw [hempty, List.length_nil]
              omega
            · have := hroom hbefore
              omega
          obtain ⟨hquiet', htraced⟩ := ih hrest
          obtain ⟨hbefore, hlive⟩ := hmove.allLive hquiet'
          refine ⟨hbefore, fun halive hst => htraced (hlive halive) ?_⟩
          apply hmove.traced hst halive
          · intro hopen
            have := hroom hopen
            omega
          · intro hopen hgoing
            -- the walk ends, so another step is left
            have hleft : n ≠ 0 := by
              intro hzero
              subst hzero
              have hend : Flow.step pages stride total st = w := hrest.run
              rw [hend, hrest.done] at hgoing
              cases hgoing
            have := hroom hopen
            omega

end Moves

section Functions

variable {pages : List View} {stride total : Nat}

theorem initialBuild_traced (st : FnWalk α) (h : FnDecl) : Traced st.typedRest (initialBuild total st h) where
  opened := fun _ => ⟨none, Consumed.start.fresh 0⟩
  closed := fun hclosed => absurd rfl hclosed
  loops := fun _ hf => absurd hf List.not_mem_nil

/-- **The graph of a function holds what its walk has taken.** -/
theorem functionFlow_holds (st : FnWalk α) (h : FnDecl)
    (hv : (functionFlow h (finishBuild (walk pages stride total (initialBuild total st h)))).verified = true)
    (hquiet : (finishBuild (walk pages stride total (initialBuild total st h))).diagnostics = []) :
    ∃ tops, tops ++ (finishBuild (walk pages stride total (initialBuild total st h))).typedRest = st.typedRest ∧
      Holds (functionFlow h (finishBuild (walk pages stride total (initialBuild total st h)))) tops := by
  have hflow := functionFlow_fromWalk walk_inv hv
  generalize hw : walk pages stride total (initialBuild total st h) = w at hflow hquiet ⊢
  have hfinish : finishBuild w = w := if_pos hflow.done
  rw [hfinish] at hflow hquiet ⊢
  have hreaches : Reaches pages stride total 1024 (initialBuild total st h) w := by
    refine ⟨hw, hflow.ok, hflow.done, Nat.le_refl _, fun _ => Nat.le_refl _⟩
  have htraced := (hreaches.traced hquiet).2 ⟨rfl, fun _ hf => absurd hf List.not_mem_nil⟩ (initialBuild_traced st h)
  obtain ⟨entries, hentries⟩ := (htraced.closed (hflow.inv.finished hflow.done).2).readBack
  have hblocks : entries.map Prod.snd = (functionFlow h w).blocks := hentries.blocks.trans hflow.blocks.symm
  have helided : entries.filterMap Prod.fst = (functionFlow h w).elidedExpressions := by
    have hentered := hentries.elided
    simp only [Option.bind_none, Option.toList_none, List.append_nil] at hentered
    -- no more expressions are set aside than blocks are listed
    have hlength : w.elidedExpressions.length ≤ 1024 := by
      have hmost := functionFlow_length_blocks h w
      rw [← hblocks, List.length_map] at hmost
      have hfewer := List.length_filterMap_le Prod.fst entries
      rw [hentered, List.length_reverse] at hfewer
      omega
    rw [hentered, functionFlow, reverseTypedExpressions_eq hlength]
  refine ⟨entries.flatMap Entry.ops, ?_, ⟨⟨entries, hblocks, helided, rfl, ?_⟩, ?_⟩⟩
  · have horder := hentries.order
    simpa using horder
  · intro e he x hx
    obtain ⟨hrole, hloop⟩ := hentries.loops e he x hx
    refine ⟨hrole, hloop.mono ?_⟩
    rw [hflow.blocks]
    exact fun b hb => List.mem_reverse.mpr hb
  · intro b hb
    rw [hflow.blocks] at hb
    exact hentries.tallied b (List.mem_reverse.mp hb)

end Functions

/-! ## Units -/

section Units

variable {src : Source} {tops : List (List TOp)}

theorem lowerFunctions_eq (fns : List FnDecl) (functionCount : Nat) :
    lowerFunctions src fns tops functionCount =
      (settle (fun d : FnWalk TOp => d.functionCount ≥ functionCount || d.rest.isEmpty) (lowerFnStep src))^[1024]
        { rest := fns, typedRest := tops, acc := [], diagnostics := [], blockCount := 0, functionCount := 0
          ok := true } :=
  iterate_guard (fun _ _ => rfl) 0 1024 _

/-- The graphs made so far hold the operation lists taken so far, function by function. -/
def UnitHolds (tops : List (List TOp)) (d : FnWalk TOp) : Prop :=
  d.ok = true → d.diagnostics = [] →
    ∃ parts, parts.flatten ++ d.typedRest = tops ∧ List.Forall₂ Holds d.acc.reverse parts

/-- The loop state after one more function, whose walk has left this build. -/
def FnWalk.after (st : FnWalk α) (h : FnDecl) (t : List FnDecl) (finished : Build α) : FnWalk α :=
  { rest := t, typedRest := finished.typedRest, acc := functionFlow h finished :: st.acc,
    diagnostics := appendDiagnostics st.diagnostics finished.diagnostics,
    blockCount := st.blockCount + (functionFlow h finished).blockCount, functionCount := st.functionCount + 1,
    ok := st.ok && (functionFlow h finished).verified }

theorem UnitHolds.after {d : FnWalk TOp} {finished : Build TOp} (hd : UnitHolds tops d) (h : FnDecl) (t : List FnDecl)
    (hfunction : (functionFlow h finished).verified = true → finished.diagnostics = [] →
      ∃ part, part ++ finished.typedRest = d.typedRest ∧ Holds (functionFlow h finished) part) :
    UnitHolds tops (d.after h t finished) := by
  intro hok hquiet
  simp only [FnWalk.after, Bool.and_eq_true] at hok
  simp only [FnWalk.after, appendDiagnostics_eq, List.append_eq_nil_iff, List.take_eq_nil_iff] at hquiet
  have hbefore : d.diagnostics = [] := hquiet.1.resolve_left (by omega)
  obtain ⟨parts, hflatten, hholds⟩ := hd hok.1 hbefore
  obtain ⟨part, hpart, hlast⟩ := hfunction hok.2 hquiet.2
  refine ⟨parts ++ [part], ?_, ?_⟩
  · rw [List.flatten_append, List.flatten_singleton, List.append_assoc]
    simp only [FnWalk.after]
    rw [hpart, hflatten]
  · simp only [FnWalk.after, List.reverse_cons]
    exact List.rel_append hholds (.cons hlast .nil)

theorem UnitHolds.step {d : FnWalk TOp} (hd : UnitHolds tops d) : UnitHolds tops (lowerFnStep src d) := by
  unfold lowerFnStep
  split
  · exact hd
  · next h t hrest => exact hd.after h t (functionFlow_holds d h)

theorem lowerFunctions_unitHolds (fns : List FnDecl) (functionCount : Nat) :
    UnitHolds tops (lowerFunctions src fns tops functionCount) := by
  rw [lowerFunctions_eq]
  apply Function.Iterate.rec (UnitHolds tops)
  · exact fun _ _ => ⟨[], rfl, .nil⟩
  · intro d hd
    unfold settle
    split
    · exact hd
    · exact hd.step

/-- **Facts are neither lost nor duplicated nor reordered**: the operation lists of a valid unit are those of its
    graphs, function by function, and the instructions of a block are the operations of its expressions. -/
theorem lowerProvenUnit_holds (src : Source) (proof : UnitProve) (hvalid : (lowerProvenUnit src proof).valid = true) :
    ∃ parts, List.Forall₂ Holds (lowerProvenUnit src proof).functions parts ∧ parts.flatten = proof.tops := by
  unfold lowerProvenUnit at hvalid ⊢
  split at hvalid
  · cases hvalid
  · next hproof =>
      rw [if_neg hproof]
      simp only [Bool.and_eq_true, decide_eq_true_eq, List.isEmpty_iff] at hvalid
      obtain ⟨⟨⟨⟨hok, -⟩, -⟩, htyped⟩, hcount⟩ := hvalid
      have hquiet : (lowerFunctions src proof.unit.fns proof.tops proof.fnCount).diagnostics = [] := by
        rw [diagnosticCount, countWithin_eq] at hcount
        exact List.eq_nil_of_length_eq_zero (by omega)
      obtain ⟨parts, hflatten, hholds⟩ := lowerFunctions_unitHolds proof.unit.fns proof.fnCount hok hquiet
      obtain ⟨hlowered, hbound⟩ := @lowerFunctions_lowered src proof.unit.fns proof.tops proof.fnCount
      refine ⟨parts, ?_, ?_⟩
      · dsimp only
        rw [hlowered.count, reverseFunctions_eq (Nat.le_refl _) hbound]
        exact hholds
      · rw [htyped, List.append_nil] at hflatten
        exact hflatten

end Units

/-- A function of one loop whose body returns at once, so that the next state of the loop is elided. -/
def sinkFn : FnDecl where
  ok := true
  errStart := 0
  errStop := 0
  sig := { nameStart := 0, nameStop := 0, generics := [], params := [], results := [], contracts := [], effects := []
           capabilities := [] }
  body :=
    { body := [.iterateStmt 0 1 (.name 0 0) false 2 3 4 5 6 7 0 (.name 8 9) [.returnStmt (.name 10 11) 10 12] 13 14
        (.name 15 16) 0 17]
      ret := .name 18 19, hasRet := true }
  fnStart := 0
  fnStop := 20
  cursor := 20

/-- One operation list for each expression of the function: the initial state, the value returned in the loop, the
    next state, and the value returned after the loop. -/
def sinkProof : UnitProve where
  ok := true
  errStart := 0
  errStop := 0
  unit := { parseUnit { pages := [], stride := 1024, total := 0 } with fns := [sinkFn] }
  obls := []
  tops := [[.tName .tBool 8 9], [.tName .tBool 10 11], [.tName .tBool 15 16], [.tName .tBool 18 19]]
  fnCount := 1

set_option maxRecDepth 10000 in
theorem sinkProof_lowers : (lowerProvenUnit { pages := [], stride := 1024, total := 0 } sinkProof).valid = true := by
  -- the loops are put in their short form before the source and the unit are known
  suffices h : ∀ src proof, src = { pages := [], stride := 1024, total := 0 } → proof = sinkProof →
      (lowerProvenUnit src proof).valid = true from h _ _ rfl rfl
  intro src proof hsrc hproof
  simp -zeta only [↓Halting.iterate_eq_run, lowerProvenUnit, lowerFunctions, lowerFnStep, lowerOneFn, walk, step,
    stepStmt, addIterate, closeToLoopPreheader, addReturn, stepEmpty, unwind, unwindIterate, elideIterateNext,
    recordElidedIterateNext, finishTail, attachExpression, attachExpressionAt, attachTypedOps, Flow.countTops,
    functionFlow, reverseBlocks, reverseTypedExpressions, appendDiagnostics, reverseDiagnostics, reverseWithin_eq,
    blockCount, diagnosticCount, countWithin_eq, verifyTargets_eq, Sweep.iterate_step]
  subst hsrc hproof
  decide +kernel

theorem lowerProvenUnit_holds_sink :
    ∃ parts, List.Forall₂ Holds (lowerProvenUnit { pages := [], stride := 1024, total := 0 } sinkProof).functions parts ∧
      parts.flatten = sinkProof.tops :=
  lowerProvenUnit_holds _ sinkProof sinkProof_lowers

end MncsCompiler.Flow
