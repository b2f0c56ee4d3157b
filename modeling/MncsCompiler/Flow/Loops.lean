import MncsCompiler.Flow.LoopFree

/-!
# `Flow.Loops` — the loops of a verified graph

A block with a part in a loop keeps the facts of that loop. In a graph that lowering makes, the preheader, the header
and the back edge of a loop keep the same facts, and the verifier has seen at the header that its statement is not empty
(`LoweredFrom.loops`).
-/

namespace MncsCompiler.Flow

open BoundedLoop Decl

variable {α : Type}

/-- The roles of a block that carries an operation of its loop: preheader, header and back edge. -/
def LoopMeta.Operates (loop : LoopMeta) : Prop := loop.role = 1 ∨ loop.role = 2 ∨ loop.role = 4

/-- The preheader and the header of a loop are among the blocks. -/
structure Opened (blocks : List (Block α)) (loop : LoopMeta) : Prop where
  mode : loop.mode = 1 ∨ loop.mode = 2
  preheader : ∃ p ∈ blocks, p.iteration = { loop with role := 1 }
  header : ∃ b ∈ blocks, b.kind = 1 ∧ b.isIterationHeader = true ∧ b.iterationStart = loop.statementStart ∧
    b.iterationStop = loop.statementStop

theorem Opened.mono {blocks more : List (Block α)} {loop : LoopMeta} (h : Opened blocks loop) (hsub : blocks ⊆ more) :
    Opened more loop := by
  obtain ⟨hmode, ⟨p, hp, hpre⟩, b, hb, hheader⟩ := h
  exact ⟨hmode, ⟨p, hsub hp, hpre⟩, b, hsub hb, hheader⟩

theorem Opened.role {blocks : List (Block α)} {loop : LoopMeta} (h : Opened blocks loop) (role : Nat) :
    Opened blocks { loop with role := role } :=
  ⟨h.mode, h.preheader, h.header⟩

/-- A walk whose blocks keep the facts of opened loops. -/
structure Loops (st : Build α) : Prop where
  blocks : ∀ b ∈ st.blocks, b.iteration.Operates → Opened st.blocks b.iteration
  frames : ∀ f ∈ st.frames, f.kind = 1 → Opened st.blocks f.iteration
  current : ¬ st.current.iteration.Operates

section Walk

variable {pages : List View} {stride total : Nat}

theorem Loops.cons {st st' : Build α} {b : Block α} (h : Loops st) (hblocks : st'.blocks = b :: st.blocks)
    (hb : b.iteration = st.current.iteration) (hframes : ∀ f ∈ st'.frames, f.kind = 1 → f ∈ st.frames)
    (hcurrent : ¬ st'.current.iteration.Operates) : Loops st' := by
  have hsub : st.blocks ⊆ st'.blocks := hblocks ▸ List.subset_cons_self b st.blocks
  refine ⟨?_, ?_, hcurrent⟩
  · intro c hc hoperates
    rw [hblocks, List.mem_cons] at hc
    rcases hc with rfl | hc
    · rw [hb] at hoperates
      exact absurd hoperates h.current
    · exact (h.blocks c hc hoperates).mono hsub
  · intro f hf hkind
    exact (h.frames f (hframes f hf hkind) hkind).mono hsub

theorem not_operates_zero : ¬ emptyLoopMeta.Operates := by
  rintro (h | h | h) <;> cases h

theorem closeToJoin_loops {st : Build α} (joinId : Nat) (h : Loops st) {st' : Build α}
    (hblocks : st'.blocks = (closeToJoin st joinId).blocks)
    (hframes : ∀ f ∈ st'.frames, f.kind = 1 → f ∈ st.frames) (hcurrent : ¬ st'.current.iteration.Operates) :
    Loops st' := by
  unfold closeToJoin at hblocks
  split at hblocks
  · refine ⟨hblocks ▸ h.blocks, ?_, hcurrent⟩
    intro f hf hkind
    rw [hblocks]
    exact h.frames f (hframes f hf hkind) hkind
  · exact h.cons hblocks rfl hframes hcurrent

/-- The preheader and the header that a loop statement adds. -/
theorem addIterate_loops {st st' : Build α} {loop : LoopMeta} {preheader header : Block α} (h : Loops st)
    (hblocks : st'.blocks = header :: preheader :: st.blocks) (hpre : preheader.iteration = { loop with role := 1 })
    (hmode : loop.mode = 1 ∨ loop.mode = 2) (hiteration : header.iteration = { loop with role := 2 })
    (hkind : header.kind = 1) (hheader : header.isIterationHeader = true)
    (hspan : (header.iterationStart, header.iterationStop) = (loop.statementStart, loop.statementStop))
    (hframes : ∀ f ∈ st'.frames, f.kind = 1 → f.iteration = loop ∨ f ∈ st.frames)
    (hcurrent : ¬ st'.current.iteration.Operates) : Loops st' := by
  have hsub : st.blocks ⊆ st'.blocks := by
    rw [hblocks]
    exact fun b hb => List.mem_cons_of_mem _ (List.mem_cons_of_mem _ hb)
  have hopened : Opened st'.blocks loop := by
    rw [Prod.mk.injEq] at hspan
    refine ⟨hmode, ⟨preheader, ?_, hpre⟩, header, ?_, hkind, hheader, hspan⟩
    · exact hblocks ▸ List.mem_cons_of_mem _ List.mem_cons_self
    · exact hblocks ▸ List.mem_cons_self
  refine ⟨?_, ?_, hcurrent⟩
  · intro b hb hoperates
    rw [hblocks, List.mem_cons, List.mem_cons] at hb
    rcases hb with rfl | rfl | hb
    · rw [hiteration]
      exact hopened.role 2
    · rw [hpre]
      exact hopened.role 1
    · exact (h.blocks b hb hoperates).mono hsub
  · intro f hf hloop
    rcases hframes f hf hloop with rfl | hf
    · exact hopened
    · exact (h.frames f hf hloop).mono hsub

theorem Moves.loops {st st' : Build α} (h : Moves pages stride total st st') (hst : Loops st) : Loops st' := by
  cases h with
  | letStmt hrest _ _ hatt =>
      unfold addLet
      rw [hatt]
      exact ⟨hst.blocks, hst.frames, hst.current⟩
  | ifStmt hrest _ _ hatt =>
      unfold addBranch
      rw [hatt]
      refine hst.cons rfl rfl ?_ not_operates_zero
      intro f hf hkind
      rcases List.mem_cons.mp hf with rfl | hf
      · cases hkind
      · exact hf
  | failStmt hrest _ => exact hst.cons rfl rfl (fun _ hf _ => hf) hst.current
  | returnStmt hrest _ _ hatt =>
      unfold addReturn
      rw [hatt]
      exact hst.cons rfl rfl (fun _ hf _ => hf) hst.current
  | @iterateStmt mid ns ne bs be ss se a b c xs xe s e iterated initial nv ho body t source x rest hrest hopen hsource
      hmid htakes hatt =>
      unfold addIterate
      rw [hmid]
      dsimp only
      rw [hatt]
      obtain ⟨typedRest, instructions, expressions, rfl⟩ := hsource.eq
      refine addIterate_loops hst rfl rfl ?_ rfl rfl rfl rfl ?_ ?_
      · cases ho
        · exact .inl rfl
        · exact .inr rfl
      · intro f hf hkind
        rcases List.mem_cons.mp hf with rfl | hf
        · exact .inl rfl
        · exact .inr hf
      · rintro (h | h | h) <;> cases h
  | @backedge f tail x rest _ hf hkind hfalls _ hatt =>
      rw [unwindIterate_of_falls hfalls hatt]
      have hopened : Opened st.blocks f.iteration := hst.frames f (hf ▸ List.mem_cons_self) hkind
      refine ⟨?_, ?_, ?_⟩
      · intro b hb hoperates
        rcases List.mem_cons.mp hb with rfl | hb
        · exact (hopened.role 4).mono (List.subset_cons_self _ _)
        · exact (hst.blocks b hb hoperates).mono (List.subset_cons_self _ _)
      · intro g hg hloop
        exact (hst.frames g (hf ▸ List.mem_cons_of_mem f hg) hloop).mono (List.subset_cons_self _ _)
      · rintro (h | h | h) <;> cases h
  | @sink f tail x rest _ hf hkind hfalls _ helide =>
      rw [unwindIterate_of_not_falls hfalls, helide]
      have htail : ∀ g ∈ tail, g ∈ st.frames := fun g hg => hf ▸ List.mem_cons_of_mem f hg
      have hexit : ¬ LoopMeta.Operates { f.iteration with role := 5 } := by
        rintro (h | h | h) <;> cases h
      unfold closeUnreachableLoopJoin
      dsimp only
      split
      · exact ⟨hst.blocks, fun g hg => hst.frames g (htail g hg), hexit⟩
      · split
        · exact ⟨hst.blocks, fun g hg => hst.frames g (htail g hg), hexit⟩
        · exact hst.cons rfl rfl (fun g hg _ => htail g hg) hexit
  | @thenEnd f tail _ hf hkind _ =>
      refine closeToJoin_loops f.joinId hst rfl ?_ not_operates_zero
      intro g hg hloop
      rcases List.mem_cons.mp hg with rfl | hg
      · exact absurd hloop hkind
      · rw [hf]
        exact List.mem_cons_of_mem f hg
  | @elseEnd f tail _ hf hkind _ =>
      refine closeToJoin_loops f.joinId hst rfl ?_ not_operates_zero
      intro g hg _
      rw [hf]
      exact List.mem_cons_of_mem f hg
  | tail _ _ htail hopen _ hatt =>
      rw [finishTail_of_open htail hopen hatt]
      exact hst.cons rfl rfl (fun _ hf _ => hf) hst.current
  | closed _ _ htail hclosed =>
      rw [finishTail_of_closed htail hclosed]
      exact ⟨hst.blocks, hst.frames, hst.current⟩

theorem walk_loops {st : FnWalk α} {h : FnDecl}
    (hok : (walk pages stride total (initialBuild total st h)).ok = true) :
    Loops (walk pages stride total (initialBuild total st h)) := by
  unfold walk at hok ⊢
  refine steps_invariant (fun _ _ _ hmove => hmove.loops) ?_ 1024 hok
  exact ⟨fun _ hb => (List.not_mem_nil hb).elim, fun _ hf => (List.not_mem_nil hf).elim, not_operates_zero⟩

end Walk

/-- **The loops of a verified graph**: a block that carries an operation of a loop keeps the mode and the statement of
    the loop, and the loop has a preheader in the graph that keeps the same facts. -/
theorem LoweredFrom.loops {src : Source} {h : FnDecl} {cfg : FunctionFlow TOp} (hcfg : LoweredFrom src h cfg)
    (hverified : cfg.verified = true) {b : Block TOp} (hb : b ∈ cfg.blocks) (hoperates : b.iteration.Operates) :
    (b.iteration.mode = 1 ∨ b.iteration.mode = 2) ∧ b.iteration.statementStart < b.iteration.statementStop ∧
      ∃ p ∈ cfg.blocks, p.iteration = { b.iteration with role := 1 } := by
  obtain ⟨st, rfl⟩ := hcfg
  have hflow := functionFlow_fromWalk walk_inv hverified
  have hloops := walk_loops hflow.ok
  rw [hflow.blocks, List.mem_reverse] at hb
  obtain ⟨hmode, ⟨p, hp, hpre⟩, header, hheader, hkind, hmarked, hstart, hstop⟩ := hloops.blocks b hb hoperates
  refine ⟨hmode, ?_, p, hflow.blocks ▸ List.mem_reverse.mpr hp, hpre⟩
  -- the verifier has checked the statement at the header
  have hchecked := (verifyTargets_spec hflow.targets).1 header (hflow.blocks ▸ List.mem_reverse.mpr hheader)
  unfold targetCheckBlock at hchecked
  rw [if_pos hkind, hmarked] at hchecked
  simp only [Bool.and_eq_true, decide_eq_true_eq, Bool.not_true, Bool.false_or] at hchecked
  omega

end MncsCompiler.Flow
