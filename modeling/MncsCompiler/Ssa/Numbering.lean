import MncsCompiler.Flow.LoopFree
import MncsCompiler.Lib.Counter
import MncsCompiler.Ssa.Backedges
import MncsCompiler.Ssa.Jumps

/-!
# `Ssa.Numbering` — ids of blocks, values and instructions

`lower_function` takes the ids of blocks, values and instructions from three counters. A match reserves the ids of its
arms and of its join before it lowers the first arm, and a match inside an arm takes its own beyond them; the counters
go into an arm and come back out of it, through the frames of the driver. A `Ledger` holds the ids of a build in
progress, those reserved included, and the counters behind them. Every step of the lowering draws on its ledger, so no
id is given twice; a supported function has as many blocks as ids, so none is left out.
-/

namespace MncsCompiler.Ssa

open BoundedLoop Decl Flow Counter Halting

variable {src : Source}

/-! ## Ids of blocks -/

/-- The ids that blocks hold, each as `held` says. -/
def tally (held : SsaBlock → Multiset Nat) (blocks : List SsaBlock) : Multiset Nat := (blocks.map held).sum

def SsaBlock.ids (b : SsaBlock) : Multiset Nat := {b.id}

def instructionIds (instructions : List Instruction) : Multiset Nat := ↑(instructions.map Instruction.id)

def SsaBlock.instructionIds (b : SsaBlock) : Multiset Nat := Ssa.instructionIds b.instructions

section Tally

variable (held : SsaBlock → Multiset Nat)

@[simp] theorem tally_nil : tally held [] = 0 := rfl

@[simp] theorem tally_cons (b : SsaBlock) (blocks : List SsaBlock) :
    tally held (b :: blocks) = held b + tally held blocks :=
  List.sum_cons

theorem tally_append (left right : List SsaBlock) :
    tally held (left ++ right) = tally held left + tally held right := by
  rw [tally, List.map_append, List.sum_append]
  rfl

theorem tally_reverse (blocks : List SsaBlock) : tally held blocks.reverse = tally held blocks := by
  rw [tally, List.map_reverse, List.sum_reverse]
  rfl

theorem tally_map {f : SsaBlock → SsaBlock} (hf : ∀ b, held (f b) = held b) (blocks : List SsaBlock) :
    tally held (blocks.map f) = tally held blocks := by
  rw [tally, tally, List.map_map]
  congr 2
  exact funext hf

/-- Generated blocks may be dropped, none is there twice. -/
theorem tally_prependGeneratedBlocks_le {generated blocks made : List SsaBlock}
    (h : made = prependGeneratedBlocks generated blocks) :
    tally held made ≤ tally held generated + tally held blocks := by
  rw [h, prependGeneratedBlocks, prependWithin_eq, tally_append, tally_reverse]
  refine add_le_add_left ?_ _
  conv_rhs => rw [← List.take_append_drop 1024 generated, tally_append]
  exact Multiset.le_add_right _ _

end Tally

theorem tally_ids (blocks : List SsaBlock) : tally SsaBlock.ids blocks = ↑(blocks.map SsaBlock.id) := by
  induction blocks with
  | nil => rfl
  | cons b blocks ih =>
      rw [tally_cons, ih, List.map_cons, ← Multiset.cons_coe, ← Multiset.singleton_add]
      rfl

theorem card_tally_ids (blocks : List SsaBlock) : Multiset.card (tally SsaBlock.ids blocks) = blocks.length := by
  rw [tally_ids, Multiset.coe_card, List.length_map]

theorem tally_instructionIds (blocks : List SsaBlock) :
    tally SsaBlock.instructionIds blocks = ↑(blocks.flatMap fun b => b.instructions.map Instruction.id) := by
  induction blocks with
  | nil => rfl
  | cons b blocks ih =>
      rw [tally_cons, ih, List.flatMap_cons, ← Multiset.coe_add]
      rfl

theorem instructionIds_cons {inst : Instruction} {id : Nat} (hid : inst.id = id) (instructions : List Instruction) :
    instructionIds (inst :: instructions) = id ::ₘ instructionIds instructions := by
  rw [instructionIds, List.map_cons, hid, ← Multiset.cons_coe]
  rfl

theorem instructionIds_reverseInstructions_le (instructions : List Instruction) :
    instructionIds (reverseInstructions instructions) ≤ instructionIds instructions := by
  rw [instructionIds, instructionIds, reverseInstructions, reverseWithin_eq, List.map_reverse, Multiset.coe_reverse]
  exact (List.Sublist.map Instruction.id (List.take_sublist 1024 instructions)).subperm

/-! ## Ledgers -/

/-- The ids in use, and the counters behind them. -/
structure Ledger where
  blocks : Multiset Nat
  nextBlock : Nat
  instructions : Multiset Nat
  nextInstruction : Nat

/-- Both counters are drawn on. -/
structure Ledger.Draws (l l' : Ledger) : Prop where
  blocks : Counter.Draws l.blocks l.nextBlock l'.blocks l'.nextBlock
  instructions : Counter.Draws l.instructions l.nextInstruction l'.instructions l'.nextInstruction

/-- More ids in use. -/
def Ledger.add (l : Ledger) (blocks instructions : Multiset Nat) : Ledger :=
  { l with blocks := l.blocks + blocks, instructions := l.instructions + instructions }

namespace Ledger.Draws

variable {l l' l'' : Ledger}

theorem refl (l : Ledger) : l.Draws l := ⟨.refl, .refl⟩

theorem trans (h : l.Draws l') (h' : l'.Draws l'') : l.Draws l'' :=
  ⟨h.blocks.trans h'.blocks, h.instructions.trans h'.instructions⟩

theorem frame (h : l.Draws l') (blocks instructions : Multiset Nat) :
    (l.add blocks instructions).Draws (l'.add blocks instructions) :=
  ⟨h.blocks.frame blocks, h.instructions.frame instructions⟩

end Ledger.Draws

/-! ## Operations -/

def ExprBuild.ledger (st : ExprBuild) : Ledger where
  blocks := {st.block} + tally SsaBlock.ids st.generatedBlocks
  nextBlock := st.nextBlockId
  instructions := instructionIds st.instructions + tally SsaBlock.instructionIds st.generatedBlocks
  nextInstruction := st.nextInstruction

/-- The values are in the order of their ids, the last one first. -/
def ExprBuild.Logged (st : ExprBuild) : Prop := Logs (st.values.map Value.id) st.nextValue

/-- What lowering does to the ids. -/
structure ExprBuild.Draws (st st' : ExprBuild) : Prop where
  ledger : st.ledger.Draws st'.ledger
  values : st.Logged → st'.Logged

namespace ExprBuild.Draws

variable {st st' st'' : ExprBuild}

theorem refl (st : ExprBuild) : st.Draws st := ⟨.refl _, id⟩

theorem trans (h : st.Draws st') (h' : st'.Draws st'') : st.Draws st'' :=
  ⟨h.ledger.trans h'.ledger, h'.values ∘ h.values⟩

end ExprBuild.Draws

theorem Operates.draws {st st' : ExprBuild} {rest : List TOp} (h : Operates st rest st') : st.Draws st' := by
  cases h with
  | reject => exact ⟨.refl _, id⟩
  | push hb hv => exact ⟨.refl _, id⟩
  | @emit remaining inst ok failureOp hstack hresult hid hsequence =>
      refine ⟨⟨.refl, ?_⟩, fun hlogged => Logs.cons hlogged⟩
      have hone := (Counter.Draws.one (instructionIds st.instructions) st.nextInstruction).frame
        (tally SsaBlock.instructionIds st.generatedBlocks)
      rw [← instructionIds_cons hid] at hone
      exact hone

/-! ## Matches under way -/

theorem matchContextParameters_logged {env : List Binding} {stack : List Value} {block next : Nat} {values : List Value}
    {nominals : List NominalTypeIdentity} (h : Logs (values.map Value.id) next) :
    Logs ((matchContextParameters src env stack block next values nominals).values.map Value.id)
      (matchContextParameters src env stack block next values nominals).nextValue := by
  rw [matchContextParameters_eq]
  dsimp only
  rw [List.map_append, List.map_append, List.map_reverse, List.map_reverse, operandParams_ids, scopeParams_ids]
  exact (h.append _).append _

/-- The ids that a match holds when `done` of its arms have got theirs: the blocks of these arms, the join, and the
    entries that are still to come. -/
def ArmBuild.reserved {f : Form} (ctx : ArmBuild f) (done : Nat) : Multiset Nat :=
  tally SsaBlock.ids ctx.armBlocks + ({ctx.joinId} + Multiset.Ico (ctx.source.nextBlockId + done) ctx.joinId)

/-- A match between two arms. -/
def ArmBuild.ledger {f : Form} (ctx : ArmBuild f) : Ledger where
  blocks := ctx.reserved ctx.armIndex
  nextBlock := ctx.nextBlock
  instructions := tally SsaBlock.instructionIds ctx.armBlocks
  nextInstruction := ctx.nextInstruction

def ArmBuild.Logged {f : Form} (ctx : ArmBuild f) : Prop := Logs (ctx.source.values.map Value.id) ctx.nextValue

/-- A match opens with the ids of its arms and of its join. -/
theorem openMatch_draws {f : Form} (st : ExprBuild) (rest : List TOp) (resultTy subjectTy : SemType)
    (arms : List f.Arm) (armCount start stop : Nat) (subject : Value) (baseStack : List Value) (own : f.Own) :
    st.ledger.Draws
      ((openMatch src st rest resultTy subjectTy arms armCount start stop subject baseStack own).ledger.add
        st.ledger.blocks st.ledger.instructions) := by
  constructor
  · refine ⟨Nat.le_succ_of_le (Nat.le_add_right _ _), ?_⟩
    show 0 + ({st.nextBlockId + armCount} + Multiset.Ico (st.nextBlockId + 0) (st.nextBlockId + armCount)) +
      st.ledger.blocks ≤ st.ledger.blocks + Multiset.Ico st.nextBlockId (st.nextBlockId + armCount + 1)
    rw [Ico_succ_right (Nat.le_add_right _ _), zero_add, Nat.add_zero, add_comm]
  · refine .of_le ?_
    show 0 + st.ledger.instructions ≤ st.ledger.instructions
    rw [zero_add]

theorem openMatch_logged {f : Form} {st : ExprBuild} {rest : List TOp} {resultTy subjectTy : SemType}
    {arms : List f.Arm} {armCount start stop : Nat} {subject : Value} {baseStack : List Value} {own : f.Own}
    (h : st.Logged) :
    (openMatch src st rest resultTy subjectTy arms armCount start stop subject baseStack own).Logged := by
  have hjoin := @matchContextParameters_logged src st.env baseStack (st.nextBlockId + armCount) _ _ st.nominals h
  simp only [ArmBuild.Logged, openMatch, List.map_cons]
  generalize
    matchContextParameters src st.env baseStack (st.nextBlockId + armCount) st.nextValue st.values st.nominals = context
    at hjoin ⊢
  exact Logs.cons hjoin

/-! ## Arms -/

/-- What extracting payloads does to the ids. -/
structure PayloadLowerBuild.Draws (st st' : PayloadLowerBuild) : Prop where
  instructions : Counter.Draws (instructionIds st.instructions) st.nextInstruction (instructionIds st'.instructions)
    st'.nextInstruction
  values : Logs (st.values.map Value.id) st.nextValue → Logs (st'.values.map Value.id) st'.nextValue

theorem lowerMatchPayloadStep_draws (st : PayloadLowerBuild) : st.Draws (lowerMatchPayloadStep src st) := by
  rw [lowerMatchPayloadStep]
  split
  · exact ⟨.refl, id⟩
  split
  · exact ⟨.refl, id⟩
  · next binding rest hrest =>
      rw [lowerMatchPayloadOne]
      dsimp only
      split
      · exact ⟨.refl, id⟩
      split
      · exact ⟨.refl, id⟩
      · exact ⟨Counter.Draws.one (instructionIds st.instructions) st.nextInstruction, fun h => Logs.cons h⟩

theorem lowerMatchPayloads_draws (initial : PayloadLowerBuild) : initial.Draws (lowerMatchPayloads src initial) := by
  rw [lowerMatchPayloads]
  refine Function.Iterate.rec (fun st => initial.Draws st) ⟨.refl, id⟩ ?_ 1024
  intro st h
  have hstep := @lowerMatchPayloadStep_draws src st
  exact ⟨h.instructions.trans hstep.instructions, hstep.values ∘ h.values⟩

/-- The block of an arm, with the instructions that extract its payloads. -/
theorem enterArm_ledger {f : Form} (ctx : ArmBuild f) (arm : f.Arm) (entry : Nat) (prepared : MatchContextBuild) :
    (ctx.enterArm src arm entry prepared).ledger.blocks = {entry} ∧
      (ctx.enterArm src arm entry prepared).ledger.nextBlock = ctx.nextBlock ∧
      Counter.Draws 0 ctx.nextInstruction (ctx.enterArm src arm entry prepared).ledger.instructions
        (ctx.enterArm src arm entry prepared).ledger.nextInstruction := by
  cases f with
  | finite =>
      have hdraws := (@lowerMatchPayloads_draws src (payloadSeed ctx arm entry prepared)).instructions
      obtain ⟨payloads, hpayloads⟩ :
          ∃ payloads, lowerMatchPayloads src (payloadSeed ctx arm entry prepared) = payloads :=
        ⟨_, rfl⟩
      rw [hpayloads] at hdraws
      rw [enterArm_finite hpayloads]
      simp only [ExprBuild.ledger, tally_nil, add_zero, true_and]
      exact hdraws
  | scalar =>
      simp only [ArmBuild.enterArm, ExprBuild.ledger, tally_nil, add_zero, true_and]
      exact .refl

/-- The next arm starts in the block that is reserved for it. -/
theorem enterArm_draws {f : Form} {ctx : ArmBuild f} (arm : f.Arm) {entry : Nat}
    (hentry : entry = ctx.source.nextBlockId + ctx.armIndex) (hlt : entry < ctx.joinId) (prepared : MatchContextBuild) :
    ctx.ledger.Draws ((ctx.enterArm src arm entry prepared).ledger.add (ctx.reserved (ctx.armIndex + 1))
      (tally SsaBlock.instructionIds ctx.armBlocks)) := by
  have hreserved : {entry} + ctx.reserved (ctx.armIndex + 1) = ctx.reserved ctx.armIndex := by
    rw [ArmBuild.reserved, ArmBuild.reserved, ← hentry, Ico_eq_add hlt, hentry, Nat.add_assoc]
    ac_rfl
  obtain ⟨hblocks, hnext, hinstructions⟩ := @enterArm_ledger src f ctx arm entry prepared
  generalize (ctx.enterArm src arm entry prepared).ledger = ledger at hblocks hnext hinstructions ⊢
  constructor
  · simp only [Ledger.add, ArmBuild.ledger]
    rw [hblocks, hnext, hreserved]
    exact .refl
  · have hframe := hinstructions.frame (tally SsaBlock.instructionIds ctx.armBlocks)
    rw [zero_add] at hframe
    exact hframe

theorem enterArm_logged {f : Form} {ctx : ArmBuild f} {arm : f.Arm} {entry : Nat} (h : ctx.Logged) :
    (ctx.enterArm src arm entry (ctx.prepared src entry)).Logged := by
  have hprepared : Logs ((ctx.prepared src entry).values.map Value.id) (ctx.prepared src entry).nextValue := by
    rw [ArmBuild.prepared]
    exact matchContextParameters_logged h
  generalize ctx.prepared src entry = prepared at hprepared ⊢
  cases f with
  | finite =>
      have hdraws := (@lowerMatchPayloads_draws src (payloadSeed ctx arm entry prepared)).values
      obtain ⟨payloads, hpayloads⟩ :
          ∃ payloads, lowerMatchPayloads src (payloadSeed ctx arm entry prepared) = payloads :=
        ⟨_, rfl⟩
      rw [hpayloads] at hdraws
      rw [enterArm_finite hpayloads]
      exact hdraws (Logs.cons hprepared)
  | scalar =>
      simp only [ExprBuild.Logged, ArmBuild.enterArm]
      exact hprepared

/-- One block in front of those that an arm or a match has generated. -/
theorem exists_prependGeneratedBlocks {P : SsaBlock → Prop} {b : SsaBlock} {generated blocks : List SsaBlock}
    (h : P b) :
    ∃ first, prependGeneratedBlocks (b :: generated) blocks = prependGeneratedBlocks (first :: generated) blocks ∧
      P first :=
  ⟨b, rfl, h⟩

/-- An arm that closes puts its blocks to those of the match. -/
theorem closeArm_armBlocks {f : Form} (ctx : ArmBuild f) (arm : f.Arm) (entry : Nat) (preparedOk seedOk : Bool)
    (preparedEnv : List Binding) (preparedStack : List Value) (lowered : ExprBuild) :
    ∃ armBlock : SsaBlock,
      (ctx.closeArm src arm entry preparedOk seedOk preparedEnv preparedStack lowered).armBlocks =
        prependGeneratedBlocks (armBlock :: lowered.generatedBlocks) ctx.armBlocks ∧
      armBlock.id = lowered.block ∧ armBlock.instructions = reverseInstructions lowered.instructions := by
  rw [ArmBuild.closeArm]
  dsimp only
  apply exists_prependGeneratedBlocks
  simp only [and_self]

/-- A match that is through puts its blocks to those before it. -/
theorem assembleMatch_generatedBlocks {f : Form} (source : ExprBuild) (ctx : ArmBuild f) :
    ∃ sourceBlock : SsaBlock,
      (assembleMatch source ctx).generatedBlocks =
        prependGeneratedBlocks (sourceBlock :: ctx.armBlocks) source.generatedBlocks ∧
      sourceBlock.id = source.block ∧ sourceBlock.parameters = source.parameters ∧
      sourceBlock.instructions = reverseInstructions source.instructions := by
  rw [assembleMatch]
  dsimp only
  apply exists_prependGeneratedBlocks
  simp only [and_self]

theorem closeArm_draws {f : Form} (ctx : ArmBuild f) (arm : f.Arm) (entry : Nat) (preparedOk seedOk : Bool)
    (preparedEnv : List Binding) (preparedStack : List Value) (lowered : ExprBuild) :
    (lowered.ledger.add (ctx.reserved (ctx.armIndex + 1)) (tally SsaBlock.instructionIds ctx.armBlocks)).Draws
      (ctx.closeArm src arm entry preparedOk seedOk preparedEnv preparedStack lowered).ledger := by
  obtain ⟨armBlock, hblocks, hid, hinstructions⟩ := @closeArm_armBlocks src f ctx arm entry preparedOk seedOk
    preparedEnv preparedStack lowered
  generalize hclosed : ctx.closeArm src arm entry preparedOk seedOk preparedEnv preparedStack lowered = closed
    at hblocks ⊢
  have hnext : lowered.nextBlockId ≤ closed.nextBlock := by
    rw [← hclosed]
    show lowered.nextBlockId ≤ if lowered.nextBlockId > ctx.nextBlock then lowered.nextBlockId else ctx.nextBlock
    split <;> omega
  have hkept : closed.joinId = ctx.joinId ∧ closed.source.nextBlockId = ctx.source.nextBlockId ∧
      closed.armIndex = ctx.armIndex + 1 ∧ closed.nextInstruction = lowered.nextInstruction := by
    rw [← hclosed, ArmBuild.closeArm]
    simp only [and_self]
  obtain ⟨hjoin, hbase, hindex, hinstruction⟩ := hkept
  constructor
  · refine Counter.Draws.refl.weaken ?_ hnext
    simp only [ArmBuild.ledger, ArmBuild.reserved, hjoin, hbase, hindex, Ledger.add, ExprBuild.ledger]
    have hids := tally_prependGeneratedBlocks_le SsaBlock.ids hblocks
    rw [tally_cons, SsaBlock.ids, hid] at hids
    exact (add_le_add_left hids _).trans (le_of_eq (add_assoc _ _ _))
  · simp only [ArmBuild.ledger, hinstruction, Ledger.add, ExprBuild.ledger]
    have hids := tally_prependGeneratedBlocks_le SsaBlock.instructionIds hblocks
    rw [tally_cons, SsaBlock.instructionIds, hinstructions] at hids
    refine .of_le (hids.trans ?_)
    exact add_le_add_left (add_le_add_left (instructionIds_reverseInstructions_le _) _) _

/-- A match that is through goes on in its join. -/
theorem assembleMatch_draws {f : Form} (source : ExprBuild) (ctx : ArmBuild f) :
    (ctx.ledger.add source.ledger.blocks source.ledger.instructions).Draws (assembleMatch source ctx).ledger := by
  obtain ⟨sourceBlock, hblocks, hid, -, hinstructions⟩ := assembleMatch_generatedBlocks source ctx
  have hkept : (assembleMatch source ctx).block = ctx.joinId ∧ (assembleMatch source ctx).instructions = [] ∧
      (assembleMatch source ctx).nextBlockId = ctx.nextBlock ∧
      (assembleMatch source ctx).nextInstruction = ctx.nextInstruction := by
    rw [assembleMatch]
    simp only [and_self]
  generalize assembleMatch source ctx = joined at hblocks hkept ⊢
  obtain ⟨hblock, hnone, hnext, hinstruction⟩ := hkept
  constructor
  · simp only [ExprBuild.ledger, hblock, hnext, Ledger.add, ArmBuild.ledger, ArmBuild.reserved]
    have hids := tally_prependGeneratedBlocks_le SsaBlock.ids hblocks
    rw [tally_cons, SsaBlock.ids, hid] at hids
    refine .of_le ?_
    calc {ctx.joinId} + tally SsaBlock.ids joined.generatedBlocks
        ≤ {ctx.joinId} +
            ({source.block} + tally SsaBlock.ids ctx.armBlocks + tally SsaBlock.ids source.generatedBlocks) :=
          add_le_add_right hids _
      _ = tally SsaBlock.ids ctx.armBlocks + {ctx.joinId} +
            ({source.block} + tally SsaBlock.ids source.generatedBlocks) := by ac_rfl
      _ ≤ tally SsaBlock.ids ctx.armBlocks +
            ({ctx.joinId} + Multiset.Ico (ctx.source.nextBlockId + ctx.armIndex) ctx.joinId) +
            ({source.block} + tally SsaBlock.ids source.generatedBlocks) := by
          exact add_le_add_left (add_le_add_right (Multiset.le_add_right _ _) _) _
  · simp only [ExprBuild.ledger, hnone, hinstruction, Ledger.add, ArmBuild.ledger]
    have hids := tally_prependGeneratedBlocks_le SsaBlock.instructionIds hblocks
    rw [tally_cons, SsaBlock.instructionIds, hinstructions] at hids
    refine .of_le ?_
    calc instructionIds [] + tally SsaBlock.instructionIds joined.generatedBlocks
        ≤ instructionIds (reverseInstructions source.instructions) + tally SsaBlock.instructionIds ctx.armBlocks +
            tally SsaBlock.instructionIds source.generatedBlocks := by
          rw [show instructionIds [] = 0 from rfl, zero_add]
          exact hids
      _ ≤ instructionIds source.instructions + tally SsaBlock.instructionIds ctx.armBlocks +
            tally SsaBlock.instructionIds source.generatedBlocks :=
          add_le_add_left (add_le_add_left (instructionIds_reverseInstructions_le _) _) _
      _ = tally SsaBlock.instructionIds ctx.armBlocks +
            (instructionIds source.instructions + tally SsaBlock.instructionIds source.generatedBlocks) := by ac_rfl

theorem closeArm_logged {f : Form} {ctx : ArmBuild f} {arm : f.Arm} {entry : Nat} {preparedOk seedOk : Bool}
    {preparedEnv : List Binding} {preparedStack : List Value} {lowered : ExprBuild} (h : lowered.Logged) :
    (ctx.closeArm src arm entry preparedOk seedOk preparedEnv preparedStack lowered).Logged := by
  rw [ArmBuild.closeArm]
  exact h

theorem assembleMatch_logged {f : Form} {source : ExprBuild} {ctx : ArmBuild f} (h : ctx.Logged) :
    (assembleMatch source ctx).Logged := by
  rw [assembleMatch]
  exact h

/-! ## The driver -/

/-- The ids of a match and of what it interrupts. -/
def ArmBuild.whole {f : Form} (ctx : ArmBuild f) : Ledger :=
  ctx.ledger.add ctx.source.ledger.blocks ctx.source.ledger.instructions

/-- The ids of blocks that a frame holds while its arm goes on. -/
def NestFrame.blockIds (frame : NestFrame) : Multiset Nat :=
  frame.ctx.reserved (frame.ctx.armIndex + 1) + frame.ctx.source.ledger.blocks

def NestFrame.instructionIds (frame : NestFrame) : Multiset Nat :=
  tally SsaBlock.instructionIds frame.ctx.armBlocks + frame.ctx.source.ledger.instructions

def framesBlockIds (frames : List NestFrame) : Multiset Nat := (frames.map NestFrame.blockIds).sum

def framesInstructionIds (frames : List NestFrame) : Multiset Nat := (frames.map NestFrame.instructionIds).sum

def NestDriver.ledger (st : NestDriver) : Ledger :=
  st.build.ledger.add (framesBlockIds st.frames) (framesInstructionIds st.frames)

/-- What the driver does to the ids. -/
structure NestDriver.Draws (st st' : NestDriver) : Prop where
  ledger : st.ledger.Draws st'.ledger
  values : st.build.Logged → st'.build.Logged

theorem NestDriver.Draws.trans {st st' st'' : NestDriver} (h : st.Draws st') (h' : st'.Draws st'') : st.Draws st'' :=
  ⟨h.ledger.trans h'.ledger, h'.values ∘ h.values⟩

/-- An arm that starts puts its match on the stack. -/
theorem nestArmStart_draws {f : Form} {st : NestDriver} {ctx : ArmBuild f} {arm : f.Arm} {rest : List f.Arm}
    (hlt : ctx.source.nextBlockId + ctx.armIndex < ctx.joinId) :
    (ctx.whole.add (framesBlockIds st.frames) (framesInstructionIds st.frames)).Draws
      (nestArmStart src st ctx arm rest).ledger := by
  have henter := @enterArm_draws src f ctx arm _ rfl hlt (ctx.prepared src (ctx.source.nextBlockId + ctx.armIndex))
  have hframe := (henter.frame ctx.source.ledger.blocks ctx.source.ledger.instructions).frame
    (framesBlockIds st.frames) (framesInstructionIds st.frames)
  have hledger : (nestArmStart src st ctx arm rest).ledger =
      (((ctx.enterArm src arm (ctx.source.nextBlockId + ctx.armIndex)
        (ctx.prepared src (ctx.source.nextBlockId + ctx.armIndex))).ledger.add (ctx.reserved (ctx.armIndex + 1))
          (tally SsaBlock.instructionIds ctx.armBlocks)).add ctx.source.ledger.blocks
            ctx.source.ledger.instructions).add
        (framesBlockIds st.frames) (framesInstructionIds st.frames) := by
    simp only [nestArmStart, NestDriver.ledger, framesBlockIds, framesInstructionIds, List.map_cons, List.sum_cons,
      NestFrame.blockIds, NestFrame.instructionIds, Ledger.add, ArmBuild.reserved, add_assoc]
  rw [hledger]
  exact hframe

theorem nestArmStart_logged {f : Form} {st : NestDriver} {ctx : ArmBuild f} {arm : f.Arm} {rest : List f.Arm}
    (h : ctx.Logged) : (nestArmStart src st ctx arm rest).build.Logged :=
  enterArm_logged h

/-- An arm that is through gives its ids to its match. -/
theorem nestArmDone_draws {n : Nat} {st : NestDriver} {frame : NestFrame} {frames : List NestFrame}
    (hopened : frame.Opened src n) (hn : n < 1024) (hframes : st.frames = frame :: frames) :
    st.Draws (nestArmDone src st frame frames) := by
  have hsound :=
    @closeArm_sound src _ _ _ _ hopened.sound frame.entry true true frame.preparedEnv frame.preparedStack st.build
  have hclose := ((@closeArm_draws src _ frame.ctx frame.arm frame.entry true true frame.preparedEnv
    frame.preparedStack st.build).frame frame.ctx.source.ledger.blocks frame.ctx.source.ledger.instructions).frame
      (framesBlockIds frames) (framesInstructionIds frames)
  have hlogged : st.build.Logged → (frame.ctx.closeArm src frame.arm frame.entry true true frame.preparedEnv
      frame.preparedStack st.build).Logged := closeArm_logged
  have hsource : (frame.ctx.closeArm src frame.arm frame.entry true true frame.preparedEnv frame.preparedStack
        st.build).source.ledger.blocks = frame.ctx.source.ledger.blocks ∧
      (frame.ctx.closeArm src frame.arm frame.entry true true frame.preparedEnv frame.preparedStack
        st.build).source.ledger.instructions = frame.ctx.source.ledger.instructions := by
    rw [ArmBuild.closeArm]
    exact ⟨rfl, rfl⟩
  have hledger : st.ledger =
      ((st.build.ledger.add (frame.ctx.reserved (frame.ctx.armIndex + 1))
        (tally SsaBlock.instructionIds frame.ctx.armBlocks)).add frame.ctx.source.ledger.blocks
          frame.ctx.source.ledger.instructions).add (framesBlockIds frames) (framesInstructionIds frames) := by
    simp only [NestDriver.ledger, hframes, framesBlockIds, framesInstructionIds, List.map_cons, List.sum_cons,
      NestFrame.blockIds, NestFrame.instructionIds, Ledger.add, add_assoc]
  rw [← hledger, ← hsource.1, ← hsource.2] at hclose
  have hleft : (frame.ctx.closeArm src frame.arm frame.entry true true frame.preparedEnv frame.preparedStack
      st.build).rest = frame.ctx.rest := by
    rw [ArmBuild.closeArm]
  rw [nestArmDone]
  rw [show frame.ctx.source.nextBlockId + frame.ctx.armIndex = frame.entry from rfl]
  generalize frame.ctx.closeArm src frame.arm frame.entry true true frame.preparedEnv frame.preparedStack st.build =
    closed at hsound hclose hlogged hleft ⊢
  cases hrest : frame.ctx.rest with
  | nil =>
      exact ⟨hclose.trans ((assembleMatch_draws closed.source closed).frame _ _), assembleMatch_logged ∘ hlogged⟩
  | cons nextArm restArms =>
      dsimp only
      rw [nestArmStart_rest]
      have hlt := hsound.entry_lt (hleft.trans hrest) hn
      exact ⟨hclose.trans
        (@nestArmStart_draws src _ { build := st.build, frames := frames, done := false } closed nextArm restArms hlt),
        fun h => nestArmStart_logged (hlogged h)⟩

theorem nestFail_draws (st : NestDriver) (f : Form) : st.Draws (nestFail st f) := by
  rw [nestFail]
  exact ⟨.refl _, id⟩

/-- A match that is set up takes its ids, and starts its first arm. -/
theorem nestSetupSubject_draws {f : Form} {st : NestDriver} {rest : List TOp} {resultTy subjectTy : SemType}
    {arms : List f.Arm} {armCount start stop : Nat} {subject : Value} {baseStack : List Value} {own : f.Own}
    {basicOk : Bool} (hcount : basicOk = true → armCount = min 1024 arms.length) :
    st.Draws
      (nestSetupSubject src st rest resultTy subjectTy arms armCount start stop subject baseStack own basicOk) := by
  rw [nestSetupSubject.eq_def]
  cases hbasic : basicOk with
  | false =>
      rw [Bool.not_false, if_pos rfl]
      exact nestFail_draws st f
  | true =>
      rw [Bool.not_true, if_neg Bool.false_ne_true]
      cases arms with
      | nil => exact nestFail_draws st f
      | cons arm restArms =>
          have hsound := @openMatch_sound src f st.build rest resultTy subjectTy (arm :: restArms) armCount start stop
            subject baseStack own 1 (hcount hbasic) Nat.zero_lt_one
          have hdraws := (@openMatch_draws src f st.build rest resultTy subjectTy (arm :: restArms) armCount start stop
            subject baseStack own).frame (framesBlockIds st.frames) (framesInstructionIds st.frames)
          have hlogged : st.build.Logged → (openMatch src st.build rest resultTy subjectTy (arm :: restArms) armCount
            start stop subject baseStack own).Logged := openMatch_logged
          have hlt := hsound.entry_lt rfl (by decide : 1 ≤ 1024)
          exact ⟨hdraws.trans (nestArmStart_draws hlt), fun h => nestArmStart_logged (hlogged h)⟩

theorem nestDriverOp_draws (st : NestDriver) (operation : TOp) (rest : List TOp) :
    st.Draws (nestDriverOp src st operation rest) := by
  have hplain (operation : TOp) :
      st.Draws { build := lowerArmOperation src st.build operation rest, frames := st.frames, done := false } := by
    have hop := (lowerArmOperation_operates src st.build operation rest).draws
    exact ⟨hop.ledger.frame _ _, hop.values⟩
  cases operation with
  | tMatch ty subjectTy arms armCount defaultCount start stop =>
      rw [nestDriverOp, nestScalarSetup]
      cases st.build.stack with
      | nil => exact nestFail_draws st .scalar
      | cons subject baseStack => exact nestSetupSubject_draws scalarBasicOk_count
  | tFiniteMatch ty subjectTy arms armCount start stop =>
      rw [nestDriverOp, nestFiniteSetup]
      cases st.build.stack with
      | nil => exact nestFail_draws st .finite
      | cons subject baseStack => exact nestSetupSubject_draws finiteBasicOk_count
  | _ => exact hplain _

/-- A step of the driver. -/
theorem nestDriverStep_draws {n : Nat} {seed : ExprBuild} {st : NestDriver} (hn : n < 1024)
    (h : Chain src n seed st.build st.frames) : st.Draws (nestDriverStep src st) := by
  rw [nestDriverStep]
  split
  · exact ⟨.refl _, id⟩
  split
  · rw [nestDriverPop]
    cases hframes : st.frames with
    | nil =>
        refine ⟨?_, id⟩
        rw [NestDriver.ledger, hframes]
        exact .refl _
    | cons frame frames =>
        rw [hframes] at h
        cases h with
        | frame hopened hprogress hmatch hbelow => exact nestArmDone_draws hopened hn hframes
  · exact nestDriverOp_draws st _ _

theorem iterate_nestDriverStep_draws {n : Nat} {seed : ExprBuild} (hseed : seed.block < seed.nextBlockId)
    (hn : n ≤ 1024) :
    NestDriver.Draws { build := seed, frames := [], done := false }
      ((nestDriverStep src)^[n] { build := seed, frames := [], done := false }) := by
  induction n with
  | zero => exact ⟨.refl _, id⟩
  | succ n ih =>
      have hchain := @iterate_nestDriverStep_chain src n seed hseed (Nat.le_of_succ_le hn)
      rw [Function.iterate_succ_apply']
      exact (ih (Nat.le_of_succ_le hn)).trans (nestDriverStep_draws hn hchain)

/-- The driver gives the ids of its frames up when it stops before they are through. -/
theorem nestDriverResult_draws {seed : ExprBuild} {st : NestDriver}
    (h : NestDriver.Draws { build := seed, frames := [], done := false } st) : seed.Draws (nestDriverResult st) := by
  obtain ⟨⟨hblocks, hinstructions⟩, hvalues⟩ := h
  have hstart : NestDriver.ledger { build := seed, frames := [], done := false } = seed.ledger := by
    simp only [NestDriver.ledger, framesBlockIds, framesInstructionIds, List.map_nil, List.sum_nil, Ledger.add,
      add_zero]
  rw [hstart] at hblocks hinstructions
  have hkept : (nestDriverResult st).ledger = st.build.ledger ∧
      (st.build.Logged → (nestDriverResult st).Logged) := by
    rw [nestDriverResult]
    split
    · exact ⟨rfl, id⟩
    · exact ⟨rfl, id⟩
  refine ⟨?_, hkept.2 ∘ hvalues⟩
  rw [hkept.1]
  exact ⟨hblocks.weaken (Multiset.le_add_right _ _) (Nat.le_refl _),
    hinstructions.weaken (Multiset.le_add_right _ _) (Nat.le_refl _)⟩

theorem lowerNestedArmOps_draws {seed : ExprBuild} (hseed : seed.block < seed.nextBlockId) :
    seed.Draws (lowerNestedArmOps src seed) := by
  rw [lowerNestedArmOps]
  exact nestDriverResult_draws (iterate_nestDriverStep_draws hseed (Nat.le_refl 1024))

/-! ## Matches of an expression -/

theorem armStep_draws {f : Form} {bound : Nat} {ctx : ArmBuild f} (h : ctx.Sound bound) (hbound : bound ≤ 1024) :
    ctx.ledger.Draws (armStep src ctx).ledger ∧ (ctx.Logged → (armStep src ctx).Logged) := by
  rw [armStep]
  cases hrest : ctx.rest with
  | nil => exact ⟨.refl _, id⟩
  | cons arm rest =>
      have hlt := h.entry_lt hrest hbound
      have henter := @enterArm_draws src f ctx arm _ rfl hlt (ctx.prepared src (ctx.source.nextBlockId + ctx.armIndex))
      have hlogged : ctx.Logged → (ctx.enterArm src arm (ctx.source.nextBlockId + ctx.armIndex)
        (ctx.prepared src (ctx.source.nextBlockId + ctx.armIndex))).Logged := enterArm_logged
      have hfresh := (@enterArm_progress src f bound ctx arm rest h hrest hbound
        (ctx.prepared src (ctx.source.nextBlockId + ctx.armIndex))).fresh
      have hnested := @lowerNestedArmOps_draws src _ hfresh
      dsimp only
      rw [lowerArm]
      generalize ctx.enterArm src arm (ctx.source.nextBlockId + ctx.armIndex)
        (ctx.prepared src (ctx.source.nextBlockId + ctx.armIndex)) = seed at henter hlogged hnested ⊢
      generalize lowerNestedArmOps src seed = lowered at hnested ⊢
      have hclose := @closeArm_draws src f { ctx with rest := rest } arm (ctx.source.nextBlockId + ctx.armIndex)
        (ctx.prepared src (ctx.source.nextBlockId + ctx.armIndex)).ok seed.ok
        (ctx.prepared src (ctx.source.nextBlockId + ctx.armIndex)).env
        (ctx.prepared src (ctx.source.nextBlockId + ctx.armIndex)).stack lowered
      exact ⟨(henter.trans (hnested.ledger.frame _ _)).trans hclose,
        fun hctx => closeArm_logged (hnested.values (hlogged hctx))⟩

theorem iterate_armStep_draws {f : Form} {opened : ArmBuild f} (h : opened.Sound 1) {j : Nat} (hj : j ≤ 1024) :
    opened.ledger.Draws ((armStep src)^[j] opened).ledger ∧
      (opened.Logged → ((armStep src)^[j] opened).Logged) := by
  induction j with
  | zero => exact ⟨.refl _, id⟩
  | succ j ih =>
      obtain ⟨hledger, hlogged⟩ := ih (Nat.le_of_succ_le hj)
      obtain ⟨hstep, hkeep⟩ := @armStep_draws src f _ _ (iterate_armStep_sound h j) hj
      rw [Function.iterate_succ_apply']
      exact ⟨hledger.trans hstep, hkeep ∘ hlogged⟩

/-- Some block has the id and the parameters. -/
def ExprBuild.Holds (st : ExprBuild) (id : Nat) (parameters : List Value) : Prop :=
  st.block = id ∧ st.parameters = parameters ∨ ∃ b ∈ st.generatedBlocks, b.id = id ∧ b.parameters = parameters

/-- What lowering does to the ids, and to the block that it has started in. -/
structure ExprBuild.Continues (st st' : ExprBuild) : Prop extends st.Draws st' where
  start : ∀ id parameters, st.Holds id parameters → st'.Holds id parameters

namespace ExprBuild.Continues

variable {st st' st'' : ExprBuild}

theorem refl (st : ExprBuild) : st.Continues st := ⟨.refl st, fun _ _ => id⟩

theorem trans (h : st.Continues st') (h' : st'.Continues st'') : st.Continues st'' :=
  ⟨h.toDraws.trans h'.toDraws, fun id parameters => h'.start id parameters ∘ h.start id parameters⟩

end ExprBuild.Continues

theorem Operates.continues {st st' : ExprBuild} {rest : List TOp} (h : Operates st rest st') : st.Continues st' := by
  refine ⟨h.draws, fun id parameters => ?_⟩
  cases h with
  | reject => exact fun hst => hst
  | push hb hv => exact fun hst => hst
  | emit hstack hresult hid hsequence => exact fun hst => hst

theorem mem_prependGeneratedBlocks_head (b : SsaBlock) (generated blocks : List SsaBlock) :
    b ∈ prependGeneratedBlocks (b :: generated) blocks := by
  rw [prependGeneratedBlocks, prependWithin_eq, List.take_succ_cons]
  exact List.mem_append_left _ (List.mem_reverse.mpr List.mem_cons_self)

theorem mem_prependGeneratedBlocks {b : SsaBlock} {generated blocks : List SsaBlock} (h : b ∈ blocks) :
    b ∈ prependGeneratedBlocks generated blocks := by
  rw [prependGeneratedBlocks, prependWithin_eq]
  exact List.mem_append_right _ h

/-- The block before a match stays, and so do those before it. -/
theorem assembleMatch_holds {f : Form} {source : ExprBuild} {ctx : ArmBuild f} {id : Nat} {parameters : List Value}
    (h : source.Holds id parameters) : (assembleMatch source ctx).Holds id parameters := by
  obtain ⟨sourceBlock, hblocks, hid, hparameters, -⟩ := assembleMatch_generatedBlocks source ctx
  right
  rw [hblocks]
  rcases h with ⟨rfl, rfl⟩ | ⟨b, hb, hheld⟩
  · exact ⟨sourceBlock, mem_prependGeneratedBlocks_head _ _ _, hid, hparameters⟩
  · exact ⟨b, mem_prependGeneratedBlocks hb, hheld⟩

/-- A match of an expression. -/
theorem lowerMatchSubject_continues {f : Form} {st : ExprBuild} {rest : List TOp} {resultTy subjectTy : SemType}
    {arms : List f.Arm} {armCount start stop : Nat} {subject : Value} {baseStack : List Value} {own : f.Own}
    {basicOk : Bool} (hcount : basicOk = true → armCount = min 1024 arms.length) :
    st.Continues
      (lowerMatchSubject src st rest resultTy subjectTy arms armCount start stop subject baseStack own basicOk) := by
  rw [lowerMatchSubject]
  cases hbasic : basicOk with
  | false =>
      rw [Bool.not_false, if_pos rfl]
      exact ⟨⟨.refl _, id⟩, fun _ _ => id⟩
  | true =>
      rw [Bool.not_true, if_neg Bool.false_ne_true]
      dsimp only
      have hopen := @openMatch_draws src f st rest resultTy subjectTy arms armCount start stop subject baseStack own
      have hlogged : st.Logged → (openMatch src st rest resultTy subjectTy arms armCount start stop subject baseStack
        own).Logged := openMatch_logged
      have hsound := @openMatch_sound src f st rest resultTy subjectTy arms armCount start stop subject baseStack own 1
        (hcount hbasic) Nat.zero_lt_one
      obtain ⟨harms, hkeep⟩ := @iterate_armStep_draws src f _ hsound 1024 (Nat.le_refl 1024)
      generalize (armStep src)^[1024]
        (openMatch src st rest resultTy subjectTy arms armCount start stop subject baseStack own) = built
        at harms hkeep ⊢
      exact ⟨⟨(hopen.trans (harms.frame _ _)).trans (assembleMatch_draws { st with rest := rest } built),
        fun h => assembleMatch_logged (hkeep (hlogged h))⟩, fun _ _ h => assembleMatch_holds h⟩

theorem lowerOperation_continues (st : ExprBuild) (operation : TOp) (rest : List TOp) :
    st.Continues (lowerOperation src st operation rest) := by
  by_cases hmatch : isMatchOp operation = true
  · cases operation with
    | tMatch ty subjectTy arms armCount defaultCount start stop =>
        rw [lowerOperation, lowerScalarMatch]
        cases st.stack with
        | nil => exact ⟨⟨.refl _, id⟩, fun _ _ => id⟩
        | cons subject baseStack => exact lowerMatchSubject_continues scalarBasicOk_count
    | tFiniteMatch ty subjectTy arms armCount start stop =>
        rw [lowerOperation, lowerFiniteMatch]
        cases st.stack with
        | nil => exact ⟨⟨.refl _, id⟩, fun _ _ => id⟩
        | cons subject baseStack => exact lowerMatchSubject_continues finiteBasicOk_count
    | _ => exact Bool.noConfusion hmatch
  · rw [lowerOperation_of_not_match (Bool.eq_false_iff.mpr hmatch)]
    exact (lowerArmOperation_operates src st operation rest).continues

/-- **Operations number without gaps or repetition.** -/
theorem iterate_lowerOperationStep_continues (n : Nat) (st : ExprBuild) :
    st.Continues ((lowerOperationStep src)^[n] st) := by
  refine Function.Iterate.rec (fun st' => st.Continues st') (.refl st) ?_ n
  intro st' h
  refine h.trans ?_
  rw [lowerOperationStep]
  split
  · exact .refl st'
  · exact lowerOperation_continues st' _ _

/-! ## Blocks -/

def ExpressionBuild.ledger (st : ExpressionBuild) : Ledger where
  blocks := {st.block} + tally SsaBlock.ids st.generatedBlocks
  nextBlock := st.nextBlockId
  instructions := instructionIds st.instructions + tally SsaBlock.instructionIds st.generatedBlocks
  nextInstruction := st.nextInstruction

def ExpressionBuild.Logged (st : ExpressionBuild) : Prop := Logs (st.values.map Value.id) st.nextValue

def ExpressionBuild.Holds (st : ExpressionBuild) (id : Nat) (parameters : List Value) : Prop :=
  st.block = id ∧ st.parameters = parameters ∨ ∃ b ∈ st.generatedBlocks, b.id = id ∧ b.parameters = parameters

structure ExpressionBuild.Continues (st st' : ExpressionBuild) : Prop where
  ledger : st.ledger.Draws st'.ledger
  values : st.Logged → st'.Logged
  start : ∀ id parameters, st.Holds id parameters → st'.Holds id parameters

namespace ExpressionBuild.Continues

variable {st st' st'' : ExpressionBuild}

theorem refl (st : ExpressionBuild) : st.Continues st := ⟨.refl _, id, fun _ _ => id⟩

theorem trans (h : st.Continues st') (h' : st'.Continues st'') : st.Continues st'' :=
  ⟨h.ledger.trans h'.ledger, h'.values ∘ h.values,
    fun id parameters => h'.start id parameters ∘ h.start id parameters⟩

end ExpressionBuild.Continues

theorem lowerExpression_continues (st : ExpressionBuild) (expression : TypedExpr TOp) (rest : List (TypedExpr TOp)) :
    st.Continues (lowerExpression src st expression rest) := by
  have hops := @iterate_lowerOperationStep_continues src 1024 (st.seed expression)
  rw [lowerExpression]
  generalize (lowerOperationStep src)^[1024] (st.seed expression) = built at hops ⊢
  exact ⟨hops.ledger, hops.values, hops.start⟩

theorem iterate_lowerExpressionStep_continues (n : Nat) (st : ExpressionBuild) :
    st.Continues ((lowerExpressionStep src)^[n] st) := by
  refine Function.Iterate.rec (fun st' => st.Continues st') (.refl st) ?_ n
  intro st' h
  refine h.trans ?_
  rw [lowerExpressionStep]
  split
  · exact .refl st'
  · exact lowerExpression_continues st' _ _

theorem emitLoop_continues {st : ExpressionBuild} {inst : Instruction} (hid : inst.id = st.nextInstruction)
    (ok : Bool) :
    st.Continues (st.emitLoop inst ok) := by
  refine ⟨⟨.refl, ?_⟩, fun hlogged => Logs.cons hlogged, fun _ _ => id⟩
  have hone := (Counter.Draws.one (instructionIds st.instructions) st.nextInstruction).frame
    (tally SsaBlock.instructionIds st.generatedBlocks)
  rw [← instructionIds_cons hid] at hone
  exact hone

/-- The instruction of the loop role takes the next ids. -/
theorem finishLoopBlock_continues (block : Block TOp) (st : ExpressionBuild) :
    st.Continues (finishLoopBlock src block st) := by
  have hemit {inst : Instruction} (hid : inst.id = st.nextInstruction) (ok hasBranch : Bool) (env : List Binding)
      (branchValue : Nat) :
      st.Continues { st.emitLoop inst ok with env := env, branchValue := branchValue, hasBranch := hasBranch } :=
    ⟨(emitLoop_continues hid ok).ledger, (emitLoop_continues hid ok).values, (emitLoop_continues hid ok).start⟩
  rw [finishLoopBlock]
  split
  · rw [emitLoopIndexInit]
    refine hemit ?_ _ _ _ _
    rfl
  split
  · rw [emitLoopGuard]
    dsimp only
    split
    · exact ⟨.refl _, id, fun _ _ => id⟩
    split
    · rw [emitSequenceLoopGuard]
      refine hemit ?_ _ _ _ _
      rfl
    · refine hemit ?_ _ _ _ _
      rfl
  split
  · rw [emitLoopIndexAdvance]
    dsimp only
    split
    · exact ⟨.refl _, id, fun _ _ => id⟩
    · refine hemit ?_ _ _ _ _
      rfl
  · exact .refl st

theorem latchEnd_continues (st : SsaBuild) (block : Block TOp) :
    (expressionSeed src st block).Continues (latchEnd src st block) := by
  have hbody := @iterate_lowerExpressionStep_continues src 1024 (expressionSeed src st block)
  rw [latchEnd, bodyEnd, expressionsAt]
  exact hbody.trans (finishLoopBlock_continues block _)

theorem prepareBlockEnvironment_logged {block : Nat} {incoming : Incoming} {next : Nat} {values : List Value}
    {nominals : List NominalTypeIdentity} (h : Logs (values.map Value.id) next) :
    Logs ((prepareBlockEnvironment src block incoming next values nominals).values.map Value.id)
      (prepareBlockEnvironment src block incoming next values nominals).nextValue := by
  by_cases hincoming : incoming.found = true ∧ incoming.ok = true
  · rw [prepareBlockEnvironment_eq hincoming.1 hincoming.2]
    dsimp only
    rw [List.map_append, List.map_reverse, scopeParams_ids]
    exact h.append _
  · have hnone : (!incoming.found || !incoming.ok) = true := by
      simp only [Bool.or_eq_true, Bool.not_eq_true', ← Bool.not_eq_true]
      exact not_and_or.mp hincoming
    rw [prepareBlockEnvironment, if_pos hnone]
    exact h

/-- The ids of a lowering between two blocks: those of the blocks that are made, and those of the flow blocks to
    come. -/
def SsaBuild.ledger (st : SsaBuild) : Ledger where
  blocks := tally SsaBlock.ids st.blocks + ↑(st.rest.map Block.id)
  nextBlock := st.nextBlockId
  instructions := tally SsaBlock.instructionIds st.blocks
  nextInstruction := st.nextInstruction

def SsaBuild.Logged (st : SsaBuild) : Prop := Logs (st.values.map Value.id) st.nextValue

structure SsaBuild.Draws (st st' : SsaBuild) : Prop where
  ledger : st.ledger.Draws st'.ledger
  values : st.Logged → st'.Logged

/-- The last block of a flow block, in front of those that its matches have generated. -/
theorem exists_cons_prependGeneratedBlocks {P : SsaBlock → Prop} {b : SsaBlock} {generated blocks : List SsaBlock}
    (h : P b) :
    ∃ last, b :: prependGeneratedBlocks generated blocks = last :: prependGeneratedBlocks generated blocks ∧
      P last :=
  ⟨b, rfl, h⟩

theorem lowerOneBlock_blocks (st : SsaBuild) (block : Block TOp) (rest : List (Block TOp)) :
    ∃ last : SsaBlock,
      (lowerOneBlock src st block rest).blocks =
        last :: prependGeneratedBlocks (latchEnd src st block).generatedBlocks st.blocks ∧
      last.id = (latchEnd src st block).block ∧ last.parameters = (latchEnd src st block).parameters ∧
      last.instructions = reverseInstructions (latchEnd src st block).instructions := by
  rw [lowerOneBlock]
  dsimp only
  rw [show finishLoopBlock src block ((lowerExpressionStep src)^[1024] (expressionSeed src st block)) =
    latchEnd src st block by rw [latchEnd, bodyEnd, expressionsAt]]
  apply exists_cons_prependGeneratedBlocks
  simp only [and_self]

theorem expressionSeed_logged {st : SsaBuild} {block : Block TOp} (h : st.Logged) :
    (expressionSeed src st block).Logged := by
  have hprepared {incoming : Incoming} := @prepareBlockEnvironment_logged src block.id incoming _ _ st.nominals h
  simp only [ExpressionBuild.Logged, expressionSeed]
  exact hprepared

/-- A flow block gives its id to one block, and the rest of its blocks take new ones. -/
theorem lowerOneBlock_draws {st : SsaBuild} {block : Block TOp} {rest : List (Block TOp)}
    (hturn : st.rest = block :: rest) : st.Draws (lowerOneBlock src st block rest) := by
  obtain ⟨hbody, hvalues, -⟩ := @latchEnd_continues src st block
  obtain ⟨last, hblocks, hid, -, hinstructions⟩ := @lowerOneBlock_blocks src st block rest
  have hseed : st.ledger = ((expressionSeed src st block).ledger.add
      (tally SsaBlock.ids st.blocks + ↑(rest.map Block.id)) (tally SsaBlock.instructionIds st.blocks)) := by
    have hrest : (↑(st.rest.map Block.id) : Multiset Nat) = {block.id} + ↑(rest.map Block.id) := by
      rw [hturn, List.map_cons, ← Multiset.cons_coe, ← Multiset.singleton_add]
    simp only [SsaBuild.ledger, hrest, ExpressionBuild.ledger, expressionSeed, Ledger.add, tally_nil, instructionIds,
      List.map_nil, Multiset.coe_nil, add_zero, zero_add]
    congr 1
    ac_rfl
  have hframe := hbody.frame (tally SsaBlock.ids st.blocks + ↑(rest.map Block.id))
    (tally SsaBlock.instructionIds st.blocks)
  have hkept : (lowerOneBlock src st block rest).rest = rest ∧
      (lowerOneBlock src st block rest).nextBlockId = (latchEnd src st block).nextBlockId ∧
      (lowerOneBlock src st block rest).nextInstruction = (latchEnd src st block).nextInstruction ∧
      (lowerOneBlock src st block rest).values = (latchEnd src st block).values ∧
      (lowerOneBlock src st block rest).nextValue = (latchEnd src st block).nextValue := by
    rw [lowerOneBlock, latchEnd, bodyEnd, expressionsAt]
    simp only [and_self]
  rw [← hseed] at hframe
  generalize latchEnd src st block = done at *
  generalize lowerOneBlock src st block rest = st' at *
  obtain ⟨hrest, hnext, hnextInstruction, hvals, hnextValue⟩ := hkept
  obtain ⟨made, hmade⟩ : ∃ made, made = prependGeneratedBlocks done.generatedBlocks st.blocks := ⟨_, rfl⟩
  rw [← hmade] at hblocks
  constructor
  · refine hframe.trans ⟨?_, ?_⟩
    · rw [SsaBuild.ledger, hrest, hnext, hblocks, tally_cons, SsaBlock.ids, hid]
      refine .of_le ?_
      simp only [Ledger.add, ExpressionBuild.ledger]
      calc {done.block} + tally SsaBlock.ids made + ↑(rest.map Block.id)
          ≤ {done.block} + (tally SsaBlock.ids done.generatedBlocks + tally SsaBlock.ids st.blocks) +
              ↑(rest.map Block.id) :=
            add_le_add_left (add_le_add_right (tally_prependGeneratedBlocks_le SsaBlock.ids hmade) _) _
        _ = _ := by ac_rfl
    · have hlast : last.instructionIds = instructionIds (reverseInstructions done.instructions) := by
        rw [SsaBlock.instructionIds, hinstructions]
      rw [SsaBuild.ledger, hnextInstruction, hblocks, tally_cons SsaBlock.instructionIds, hlast]
      refine .of_le ?_
      simp only [Ledger.add, ExpressionBuild.ledger]
      rw [add_assoc]
      exact add_le_add (instructionIds_reverseInstructions_le _)
        (tally_prependGeneratedBlocks_le SsaBlock.instructionIds hmade)
  · intro hlogged
    rw [SsaBuild.Logged, hvals, hnextValue]
    exact hvalues (expressionSeed_logged hlogged)

/-! ## Functions -/

theorem functionParameters_logged {generics : List GenericParam} {records : List RecordDecl} {enums : List EnumDecl}
    {nominals : List NominalTypeIdentity} (fields : List Field) :
    Logs ((functionParameters src generics records enums nominals fields).values.map Value.id)
      (functionParameters src generics records enums nominals fields).nextValue := by
  unfold functionParameters
  refine iterate_post (fun _ (st r : ParamBuild) => Logs (st.values.map Value.id) st.nextValue →
    Logs (r.values.map Value.id) r.nextValue) ?_ ?_ 0 1024 _ (fun _ => id) logs_zero
  · intro j st r hret hst
    split at hret
    · cases hret
      exact hst
    · cases hret
  · intro j st st' r hnext hr hst
    split at hnext
    · cases hnext
    · cases hnext
      apply hr
      rw [functionParameterStep]
      split
      · exact hst
      · exact Logs.cons hst

theorem reverseBlocks_eq {blocks : List SsaBlock} {n : Nat} (hlength : blocks.length = n) (hn : n ≤ 1024) :
    reverseBlocks blocks n = blocks.reverse := by
  rw [reverseBlocks, if_neg (Nat.not_lt.mpr hn)]
  rw [Sweep.iterate_limited (fun acc h => h :: acc) (hlength.trans_le hn) (Nat.le_of_eq (Nat.zero_add _ ▸ hlength)),
    List.foldl_flip_cons_eq_append', List.append_nil]

def SsaBlock.failingTo (target : Nat) (b : SsaBlock) : SsaBlock :=
  { b with hasFailureTarget := true, failureTarget := target }

theorem bindFailureTargets_eq {blocks : List SsaBlock} (hlength : blocks.length ≤ 1024) (target : Nat) :
    bindFailureTargets blocks target = (blocks.map (SsaBlock.failingTo target)).reverse := by
  rw [bindFailureTargets, iterate_guard (k := Sweep.acc) (fun _ _ => rfl), settle_eq_self Sweep.step_nil,
    Sweep.iterate_step, List.take_of_length_le hlength]
  exact (List.foldl_map (f := SsaBlock.failingTo target) (g := fun acc h => h :: acc)).symm.trans (by
    rw [List.foldl_flip_cons_eq_append', List.append_nil])

theorem ssaBlockListExact_length {blocks : List SsaBlock} {n : Nat} (h : ssaBlockListExact blocks n = true) :
    blocks.length = n := by
  rw [ssaBlockListExact] at h
  split at h
  · cases h
  · have hgood := iterate_accepts (fun _ (st : BlockLengthCheck) => st.seen + st.rest.length = n) ?_ ?_ ?_ h
    · exact (Nat.zero_add _).symm.trans hgood
    · intro j st hret
      split at hret
      · next hempty =>
          rw [List.isEmpty_iff.mp hempty]
          simpa using hret
      · split at hret
        · simp at hret
        · cases hret
    · intro j st st' hnext hst'
      split at hnext
      · cases hnext
      · next hempty =>
          split at hnext
          · cases hnext
          · cases hnext
            rw [ssaBlockLengthStep] at hst'
            cases hrest : st.rest with
            | nil =>
                rw [hrest] at hempty
                exact absurd rfl hempty
            | cons b rest =>
                rw [hrest] at hst'
                rw [List.length_cons, ← hst']
                show st.seen + (rest.length + 1) = st.seen + 1 + rest.length
                omega
    · intro st hst
      simp only [Bool.and_eq_true, decide_eq_true_eq] at hst
      rw [List.isEmpty_iff.mp hst.2]
      exact hst.1

section Function

variable {header : Parser.Header} {fnDecl : FnDecl} {cfg : FunctionFlow TOp} {records : List RecordDecl}
  {enums : List EnumDecl} {nominals : List NominalTypeIdentity} {importedRecords : List ImportedRecordSchema}
  {importedEnums : List ImportedEnumSchema}

theorem lowerBlockStep_draws (st : SsaBuild) : st.Draws (lowerBlockStep src st) := by
  rw [lowerBlockStep]
  cases hturn : st.rest with
  | nil => exact ⟨.refl _, id⟩
  | cons block rest => exact lowerOneBlock_draws hturn

theorem loweringAt_draws {m n : Nat} (hle : m ≤ n) :
    (loweringAt src header fnDecl cfg records enums nominals m).Draws
      (loweringAt src header fnDecl cfg records enums nominals n) := by
  induction n, hle using Nat.le_induction with
  | base => exact ⟨.refl _, id⟩
  | succ n hle ih =>
      rw [loweringAt_succ]
      have hstep := @lowerBlockStep_draws src (loweringAt src header fnDecl cfg records enums nominals n)
      exact ⟨ih.ledger.trans hstep.ledger, hstep.values ∘ ih.values⟩

/-- After the last flow block nothing changes. -/
theorem loweringAt_end {n : Nat} (h : cfg.blocks.length ≤ n) :
    loweringAt src header fnDecl cfg records enums nominals n =
      loweringAt src header fnDecl cfg records enums nominals cfg.blocks.length := by
  induction n, h using Nat.le_induction with
  | base => rfl
  | succ n hle ih =>
      have hrest := @loweringAt_rest src header fnDecl cfg records enums nominals n
      rw [List.drop_of_length_le hle] at hrest
      rw [loweringAt_succ, lowerBlockStep, hrest]
      exact ih

/-- What the record of a function holds, from the end of its lowering. -/
structure Assembled (final : SsaBuild) (function : Function) : Prop where
  room : final.nextBlockId < 1024
  length : final.blocks.length = final.nextBlockId
  blockCount : function.blockCount = final.nextBlockId + 1
  blocks : function.blocks =
    final.blocks.reverse.map (SsaBlock.failingTo final.nextBlockId) ++ [failureBlock final.nextBlockId]
  values : function.values = final.values
  valueCount : function.valueCount = final.nextValue

theorem lowerFunction_assembled
    (h : (lowerFunction src header fnDecl cfg records enums nominals importedRecords importedEnums).supported = true) :
    Assembled (loweringAt src header fnDecl cfg records enums nominals cfg.blocks.length)
      (lowerFunction src header fnDecl cfg records enums nominals importedRecords importedEnums) := by
  obtain ⟨k, hk⟩ := @lowerFlowBlocks_build src cfg.blockCount
    (initialBuild src header fnDecl cfg records enums nominals)
  have hrun := @loweringAt_rest src header fnDecl cfg records enums nominals k
  have hend := @loweringAt_end src header fnDecl cfg records enums nominals k
  rw [loweringAt, ← hk] at hrun hend
  unfold lowerFunction at h ⊢
  dsimp only at h ⊢
  generalize lowerFlowBlocks src cfg.blockCount (initialBuild src header fnDecl cfg records enums nominals) = walk
    at h hrun hend ⊢
  simp only [Bool.and_eq_true, decide_eq_true_eq, List.isEmpty_iff] at h
  obtain ⟨-, ⟨⟨hcount, -⟩, hrest⟩, hexact⟩ := h
  have hroom : walk.build.nextBlockId < 1024 := by
    by_contra hroom
    rw [if_neg hroom] at hcount
    exact Nat.lt_irrefl 0 hcount
  have hlength := ssaBlockListExact_length hexact
  rw [hrest] at hrun
  rw [← hend (List.drop_eq_nil_iff.mp hrun.symm)]
  have hnormal := reverseBlocks_eq hlength (Nat.le_of_lt hroom)
  have hbound := @bindFailureTargets_eq walk.build.blocks.reverse
    (by rw [List.length_reverse, hlength]; exact Nat.le_of_lt hroom) walk.build.nextBlockId
  refine ⟨hroom, hlength, if_pos hroom, ?_, rfl, rfl⟩
  rw [if_pos hroom, hnormal, hbound, reverseBlocks_eq _ hroom, List.reverse_cons, List.reverse_reverse]
  rw [List.length_cons, List.length_reverse, List.length_map, List.length_reverse, hlength]

/-- A flow block that wastes no id: its blocks have its own id and all that it took, and one of them starts as it
    does. -/
theorem lowerOneBlock_made {st : SsaBuild} {block : Block TOp} {rest : List (Block TOp)}
    (hturn : st.rest = block :: rest)
    (hfull : Multiset.card st.ledger.blocks + (lowerOneBlock src st block rest).nextBlockId ≤
      Multiset.card (lowerOneBlock src st block rest).ledger.blocks + st.nextBlockId)
    (hroom : (lowerOneBlock src st block rest).nextBlockId ≤ 1024) :
    ∃ made, (lowerOneBlock src st block rest).blocks = made ++ st.blocks ∧
      (made.map SsaBlock.id).Perm (block.id :: List.range' st.nextBlockId
        ((lowerOneBlock src st block rest).nextBlockId - st.nextBlockId)) ∧
      ∃ b ∈ made, b.id = block.id ∧ b.parameters = (expressionSeed src st block).parameters := by
  obtain ⟨hbody, -, hstart⟩ := @latchEnd_continues src st block
  obtain ⟨last, hblocks, hid, hparameters, -⟩ := @lowerOneBlock_blocks src st block rest
  have hheld := hstart block.id (expressionSeed src st block).parameters (.inl ⟨rfl, rfl⟩)
  have hkept : (lowerOneBlock src st block rest).rest = rest ∧
      (lowerOneBlock src st block rest).nextBlockId = (latchEnd src st block).nextBlockId := by
    rw [lowerOneBlock, latchEnd, bodyEnd, expressionsAt]
    simp only [and_self]
  have hall := (@lowerOneBlock_draws src st block rest hturn).ledger.blocks.eq_of_card hfull
  have hgenerated := hbody.blocks.card_le
  have hseed : Multiset.card (expressionSeed src st block).ledger.blocks = 1 ∧
      (expressionSeed src st block).ledger.nextBlock = st.nextBlockId := by
    simp only [ExpressionBuild.ledger, expressionSeed, tally_nil, add_zero, Multiset.card_singleton, and_self]
  rw [hseed.1, hseed.2] at hgenerated
  generalize (expressionSeed src st block).parameters = parameters at *
  generalize latchEnd src st block = done at *
  generalize lowerOneBlock src st block rest = st' at *
  obtain ⟨hrest, hnext⟩ := hkept
  have hfits : done.generatedBlocks.length ≤ 1024 := by
    simp only [ExpressionBuild.ledger, Multiset.card_add, Multiset.card_singleton, card_tally_ids] at hgenerated
    omega
  rw [prependGeneratedBlocks, prependWithin_eq, List.take_of_length_le hfits, ← List.cons_append] at hblocks
  refine ⟨last :: done.generatedBlocks.reverse, hblocks, ?_, ?_⟩
  · simp only [SsaBuild.ledger, hblocks, tally_append, hrest, hturn, List.map_cons, ← Multiset.cons_coe,
      ← Multiset.singleton_add] at hall
    generalize tally SsaBlock.ids st.blocks = before at hall
    generalize (↑(rest.map Block.id) : Multiset Nat) = after at hall
    have hmade : tally SsaBlock.ids (last :: done.generatedBlocks.reverse) =
        {block.id} + Multiset.Ico st.nextBlockId st'.nextBlockId := by
      apply add_right_cancel (b := before + after)
      calc tally SsaBlock.ids (last :: done.generatedBlocks.reverse) + (before + after)
          = before + ({block.id} + after) + Multiset.Ico st.nextBlockId st'.nextBlockId := by rw [← hall]; ac_rfl
        _ = {block.id} + Multiset.Ico st.nextBlockId st'.nextBlockId + (before + after) := by ac_rfl
    rw [tally_ids, Multiset.singleton_add] at hmade
    exact Multiset.coe_eq_coe.mp hmade
  · rcases hheld with ⟨hsame, hown⟩ | ⟨b, hb, hkeeps⟩
    · exact ⟨last, List.mem_cons_self, hid.trans hsame, hparameters.trans hown⟩
    · exact ⟨b, List.mem_cons_of_mem _ (List.mem_reverse.mpr hb), hkeeps⟩

end Function

section Numbering

variable (src) (header : Parser.Header) (fnDecl : FnDecl) (cfg : FunctionFlow TOp) (records : List RecordDecl)
  (enums : List EnumDecl) (nominals : List NominalTypeIdentity)

/-- The blocks that the lowering of flow block `n` makes. -/
def madeAt (n : Nat) : List SsaBlock :=
  (loweringAt src header fnDecl cfg records enums nominals (n + 1)).blocks.reverse.drop
    (loweringAt src header fnDecl cfg records enums nominals n).blocks.length

/-- What is meant by dense and unique numbers. -/
structure Numbered (function : Function) : Prop where
  blocks : function.blocks =
    ((List.range cfg.blockCount).flatMap (madeAt src header fnDecl cfg records enums nominals)).map
        (SsaBlock.failingTo (function.blockCount - 1)) ++
      [failureBlock (function.blockCount - 1)]
  ids : (function.blocks.map SsaBlock.id).Perm (List.range function.blockCount)
  flow : ∀ n block, cfg.blocks[n]? = some block →
    ∃ fresh, ((madeAt src header fnDecl cfg records enums nominals n).map SsaBlock.id).Perm (block.id :: fresh) ∧
      (∀ id ∈ fresh, cfg.blockCount ≤ id) ∧
      ∃ b ∈ madeAt src header fnDecl cfg records enums nominals n, b.id = block.id ∧
        b.parameters =
          (expressionSeed src (loweringAt src header fnDecl cfg records enums nominals n) block).parameters
  values : function.values.map Value.id = (List.range function.valueCount).reverse
  instructions : (function.blocks.flatMap fun b => b.instructions.map Instruction.id).Nodup

variable {src header fnDecl cfg records enums nominals}

theorem loweringAt_zero_ledger :
    (loweringAt src header fnDecl cfg records enums nominals 0).ledger =
      { blocks := ↑(cfg.blocks.map Block.id), nextBlock := cfg.blockCount, instructions := 0
        nextInstruction := 0 } := by
  have hnone : (loweringAt src header fnDecl cfg records enums nominals 0).blocks = [] := rfl
  rw [SsaBuild.ledger, loweringAt_zero_rest, hnone, tally_nil, tally_nil, zero_add]
  rfl

/-- A lowering that ends with as many blocks as ids has done so before every flow block. -/
theorem loweringAt_full (hcount : cfg.blocks.length = cfg.blockCount)
    (hlength : (loweringAt src header fnDecl cfg records enums nominals cfg.blocks.length).blocks.length =
      (loweringAt src header fnDecl cfg records enums nominals cfg.blocks.length).nextBlockId)
    {n : Nat} (hn : n ≤ cfg.blocks.length) :
    Multiset.card (loweringAt src header fnDecl cfg records enums nominals n).ledger.blocks =
      (loweringAt src header fnDecl cfg records enums nominals n).nextBlockId := by
  have hrun {k m : Nat} (hle : k ≤ m) :=
    (@loweringAt_draws src header fnDecl cfg records enums nominals k m hle).ledger
  have hbefore := (hrun (Nat.zero_le n)).blocks.card_le
  have hafter := (hrun hn).blocks.card_le
  have hend : Multiset.card (loweringAt src header fnDecl cfg records enums nominals cfg.blocks.length).ledger.blocks =
      (loweringAt src header fnDecl cfg records enums nominals cfg.blocks.length).nextBlockId := by
    rw [SsaBuild.ledger, loweringAt_rest, List.drop_length, Multiset.card_add, card_tally_ids, hlength]
    rfl
  rw [loweringAt_zero_ledger] at hbefore
  simp only [Multiset.coe_card, List.length_map] at hbefore
  rw [hend] at hafter
  have hnow : (loweringAt src header fnDecl cfg records enums nominals n).ledger.nextBlock =
    (loweringAt src header fnDecl cfg records enums nominals n).nextBlockId := rfl
  have hlast : (loweringAt src header fnDecl cfg records enums nominals cfg.blocks.length).ledger.nextBlock =
    (loweringAt src header fnDecl cfg records enums nominals cfg.blocks.length).nextBlockId := rfl
  omega

theorem madeAt_append (n : Nat)
    (h : ∃ made, (loweringAt src header fnDecl cfg records enums nominals (n + 1)).blocks =
      made ++ (loweringAt src header fnDecl cfg records enums nominals n).blocks) :
    (loweringAt src header fnDecl cfg records enums nominals (n + 1)).blocks =
      (madeAt src header fnDecl cfg records enums nominals n).reverse ++
        (loweringAt src header fnDecl cfg records enums nominals n).blocks := by
  obtain ⟨made, hmade⟩ := h
  rw [madeAt, hmade, List.reverse_append, List.drop_left' List.length_reverse, List.reverse_reverse]

theorem loweringAt_turn {n : Nat} {block : Block TOp} (h : cfg.blocks[n]? = some block) :
    (loweringAt src header fnDecl cfg records enums nominals n).rest = block :: cfg.blocks.drop (n + 1) := by
  obtain ⟨hn, rfl⟩ := List.getElem?_eq_some_iff.mp h
  rw [loweringAt_rest, List.drop_eq_getElem_cons hn]

/-- The blocks of a flow block, in a lowering that wastes no id. -/
theorem madeAt_numbered (hcount : cfg.blocks.length = cfg.blockCount)
    (hlength : (loweringAt src header fnDecl cfg records enums nominals cfg.blocks.length).blocks.length =
      (loweringAt src header fnDecl cfg records enums nominals cfg.blocks.length).nextBlockId)
    (hroom : (loweringAt src header fnDecl cfg records enums nominals cfg.blocks.length).nextBlockId < 1024)
    {n : Nat} {block : Block TOp} (hblock : cfg.blocks[n]? = some block) :
    (loweringAt src header fnDecl cfg records enums nominals (n + 1)).blocks =
        (madeAt src header fnDecl cfg records enums nominals n).reverse ++
          (loweringAt src header fnDecl cfg records enums nominals n).blocks ∧
      ∃ fresh, ((madeAt src header fnDecl cfg records enums nominals n).map SsaBlock.id).Perm (block.id :: fresh) ∧
        (∀ id ∈ fresh, cfg.blockCount ≤ id) ∧
        ∃ b ∈ madeAt src header fnDecl cfg records enums nominals n, b.id = block.id ∧
          b.parameters =
            (expressionSeed src (loweringAt src header fnDecl cfg records enums nominals n) block).parameters := by
  have hn : n < cfg.blocks.length := (List.getElem?_eq_some_iff.mp hblock).1
  have hnow := loweringAt_full hcount hlength (Nat.le_of_lt hn)
  have hnext := loweringAt_full hcount hlength (Nat.succ_le_of_lt hn)
  have hturn := @loweringAt_turn src header fnDecl cfg records enums nominals n block hblock
  have hrun {k m : Nat} (hle : k ≤ m) :=
    (@loweringAt_draws src header fnDecl cfg records enums nominals k m hle).ledger
  have hstart := (hrun (Nat.zero_le n)).blocks.counter
  have hbound := (hrun (Nat.succ_le_of_lt hn)).blocks.counter
  have hstep := @loweringAt_succ src header fnDecl cfg records enums nominals n
  rw [lowerBlockStep, hturn] at hstep
  dsimp only at hstep
  rw [hstep] at hnext hbound
  have hmade := @lowerOneBlock_made src _ _ _ hturn (by rw [hnow, hnext, Nat.add_comm])
    (Nat.le_of_lt (Nat.lt_of_le_of_lt hbound hroom))
  rw [← hstep] at hmade
  obtain ⟨made, happend, hids, b, hb, hheld⟩ := hmade
  have hblocks := madeAt_append n ⟨made, happend⟩
  have hreverse : made = (madeAt src header fnDecl cfg records enums nominals n).reverse :=
    List.append_cancel_right (happend.symm.trans hblocks)
  rw [hreverse] at hids hb
  rw [List.map_reverse] at hids
  rw [loweringAt_zero_ledger] at hstart
  have hfresh {id count : Nat}
      (hid : id ∈ List.range' (loweringAt src header fnDecl cfg records enums nominals n).nextBlockId count) :
      cfg.blockCount ≤ id :=
    Nat.le_trans hstart (List.mem_range'_1.mp hid).1
  exact ⟨hblocks, _, (List.reverse_perm _).symm.trans hids, fun id => hfresh, b, List.mem_reverse.mp hb, hheld⟩

/-- The blocks of a lowering are those of its flow blocks, in order. -/
theorem loweringAt_blocks {n : Nat}
    (h : ∀ k < n, (loweringAt src header fnDecl cfg records enums nominals (k + 1)).blocks =
      (madeAt src header fnDecl cfg records enums nominals k).reverse ++
        (loweringAt src header fnDecl cfg records enums nominals k).blocks) :
    (loweringAt src header fnDecl cfg records enums nominals n).blocks.reverse =
      (List.range n).flatMap (madeAt src header fnDecl cfg records enums nominals) := by
  induction n with
  | zero => rfl
  | succ n ih =>
      have hprev := ih fun k hk => h k (Nat.lt_succ_of_lt hk)
      rw [h n (Nat.lt_succ_self n), List.reverse_append, List.reverse_reverse, hprev, List.range_succ,
        List.flatMap_append, List.flatMap_singleton]

end Numbering

/-- **SSA numbering is dense and unique.** In every supported function the blocks of each flow block have its id, one of
    them starting as it does, and new ids above those of the graph; the failure block comes last; all ids of blocks are
    in use once, and so are those of values and of instructions. -/
theorem lowerFunction_numbered (src : Source) (header : Parser.Header) (fnDecl : FnDecl) (cfg : FunctionFlow TOp)
    (records : List RecordDecl) (enums : List EnumDecl) (nominals : List NominalTypeIdentity)
    (importedRecords : List ImportedRecordSchema) (importedEnums : List ImportedEnumSchema) {text : Source} {h : FnDecl}
    (hcfg : LoweredFrom text h cfg) (hverified : cfg.verified = true)
    (hsupported :
      (lowerFunction src header fnDecl cfg records enums nominals importedRecords importedEnums).supported = true) :
    Numbered src header fnDecl cfg records enums nominals
      (lowerFunction src header fnDecl cfg records enums nominals importedRecords importedEnums) := by
  obtain ⟨hroom, hlength, hcount, hassembled, hvalues, hvalueCount⟩ := lowerFunction_assembled hsupported
  have hrun := @loweringAt_draws src header fnDecl cfg records enums nominals 0 cfg.blocks.length (Nat.zero_le _)
  have hmade {n : Nat} {block : Block TOp} (hblock : cfg.blocks[n]? = some block) :=
    madeAt_numbered hcfg.blocks_length hlength hroom hblock
  have hlogged : (loweringAt src header fnDecl cfg records enums nominals 0).Logged :=
    functionParameters_logged fnDecl.sig.params
  have hall : (loweringAt src header fnDecl cfg records enums nominals cfg.blocks.length).blocks.reverse =
      (List.range cfg.blockCount).flatMap (madeAt src header fnDecl cfg records enums nominals) := by
    rw [← hcfg.blocks_length]
    apply loweringAt_blocks
    intro k hk
    exact (hmade (List.getElem?_eq_getElem hk)).1
  have hlast :
      (lowerFunction src header fnDecl cfg records enums nominals importedRecords importedEnums).blockCount - 1 =
        (loweringAt src header fnDecl cfg records enums nominals cfg.blocks.length).nextBlockId := by
    rw [hcount, Nat.add_sub_cancel]
  have hinitial : (↑(cfg.blocks.map Block.id) : Multiset Nat) ≤ Multiset.Ico 0 cfg.blockCount := by
    rw [Multiset.coe_eq_coe.mpr (hcfg.ids_perm hverified), List.range_eq_range']
    exact le_of_eq rfl
  have hids := hrun.ledger.blocks
  have hinstructions := hrun.ledger.instructions
  rw [loweringAt_zero_ledger] at hids hinstructions
  have hnormal := hids.within hinitial
  have hused := hinstructions.within (Multiset.zero_le _)
  simp only [SsaBuild.ledger, loweringAt_rest, List.drop_length, List.map_nil, Multiset.coe_nil, add_zero]
    at hnormal hused
  generalize loweringAt src header fnDecl cfg records enums nominals cfg.blocks.length = final at *
  have hheld {held : SsaBlock → Multiset Nat} (hf : ∀ b, held (b.failingTo final.nextBlockId) = held b) :
      tally held (lowerFunction src header fnDecl cfg records enums nominals importedRecords importedEnums).blocks =
        tally held final.blocks + held (failureBlock final.nextBlockId) := by
    rw [hassembled, tally_append, tally_map held hf, tally_reverse, tally_cons, tally_nil, add_zero]
  refine ⟨?_, ?_, fun n block hblock => (hmade hblock).2, ?_, ?_⟩
  · rw [hlast, ← hall, hassembled]
  · apply perm_range
    · rw [← tally_ids, hheld fun _ => rfl, hcount, Ico_succ_right (Nat.zero_le _), add_comm]
      exact add_le_add_right hnormal _
    · rw [List.length_map, hassembled, List.length_append, List.length_map, List.length_reverse, hlength, hcount]
      rfl
  · rw [hvalues, hvalueCount]
    exact hrun.values hlogged
  · rw [← Multiset.coe_nodup, ← tally_instructionIds, hheld fun _ => rfl]
    exact nodup_of_within ((add_zero _).trans_le hused)

/-! ## A match in an arm

A function takes `x`, and the second arm of its match has a match of its own. -/

def nestedSource : Source :=
  { pages :=
      [[109, 110, 99, 115, 32, 48, 46, 49, 56, 59, 109, 111, 100, 117, 108, 101, 32, 109, 59, 102, 110, 32, 102, 40,
        120, 58, 117, 54, 52, 41, 45, 62, 40, 114, 58, 117, 54, 52, 41, 123, 114, 101, 116, 117, 114, 110, 32, 109,
        97, 116, 99, 104, 32, 120, 123, 48, 61, 62, 49, 44, 95, 61, 62, 109, 97, 116, 99, 104, 32, 120, 123, 49, 61,
        62, 50, 44, 95, 61, 62, 51, 125, 125, 59, 125]]
    stride := 1024, total := 84 }

def nestedHeader : Parser.Header :=
  { code := 0, start := 0, stop := 0, versionStart := 5, versionStop := 9, moduleStart := 17, moduleStop := 18
    nextOffset := 19, state := 8 }

def nestedFn : FnDecl :=
  { ok := true, errStart := 0, errStop := 0
    sig :=
      { nameStart := 22, nameStop := 23, generics := []
        params := [{ nameStart := 24, nameStop := 25, typeStart := 26, typeStop := 29, typeKind := 1 }]
        results := [{ nameStart := 33, nameStop := 34, typeStart := 35, typeStop := 38, typeKind := 1 }]
        contracts := [], effects := [], capabilities := [] }
    body :=
      { body := []
        ret :=
          .scalarMatch (.name 53 54)
            [.mk false false 0 false 55 56 (.integer 58 59 1 false),
              .mk true false 0 false 60 61
                (.scalarMatch (.name 69 70)
                  [.mk false false 1 false 71 72 (.integer 74 75 2 false),
                    .mk true false 0 false 76 77 (.integer 79 80 3 false)] 63 81)] 47 82
        hasRet := true }
    fnStart := 19, fnStop := 84, cursor := 84 }

def nestedOps : List TOp :=
  [.tName loopIntegerType 53 54,
    .tMatch loopIntegerType loopIntegerType
      [.mk false false 0 false 55 56 [.tInt 1 loopIntegerType 58 59] 1,
        .mk true false 0 false 60 61
          [.tName loopIntegerType 69 70,
            .tMatch loopIntegerType loopIntegerType
              [.mk false false 1 false 71 72 [.tInt 2 loopIntegerType 74 75] 1,
                .mk true false 0 false 76 77 [.tInt 3 loopIntegerType 79 80] 1] 2 1 63 81] 2] 2 1 47 82]

/-- The graph of `nestedFn`: one block. -/
def nestedFlow : FunctionFlow TOp :=
  functionFlow nestedFn
    (finishBuild (walk nestedSource.pages nestedSource.stride nestedSource.total
      (Flow.initialBuild nestedSource.total
        { rest := [], typedRest := [nestedOps], acc := [], diagnostics := [], blockCount := 0, functionCount := 0
          ok := true } nestedFn)))

def nestedFunction : Function := lowerFunction nestedSource nestedHeader nestedFn nestedFlow [] [] [] [] []

set_option maxRecDepth 10000 in
/-- Two matches make two blocks and a join each. -/
theorem nestedFunction_supported :
    nestedFlow.verified = true ∧ nestedFunction.supported = true ∧ nestedFunction.blockCount = 8 := by
  -- the loops are put in their short form before the source, the function and the graph are known
  suffices h : ∀ src header fnDecl, src = nestedSource → header = nestedHeader → fnDecl = nestedFn → ∀ cfg,
      cfg = functionFlow fnDecl (finishBuild (walk src.pages src.stride src.total
        (Flow.initialBuild src.total
          { rest := [], typedRest := [nestedOps], acc := [], diagnostics := [], blockCount := 0, functionCount := 0
            ok := true } fnDecl))) →
      cfg.verified = true ∧ (lowerFunction src header fnDecl cfg [] [] [] [] []).supported = true ∧
        (lowerFunction src header fnDecl cfg [] [] [] [] []).blockCount = 8 from
    h nestedSource nestedHeader nestedFn rfl rfl rfl nestedFlow rfl
  intro src header fnDecl hsrc hheader hfn cfg hcfg
  simp -zeta only [↓iterate_eq_run, functionFlow, Flow.reverseBlocks, reverseTypedExpressions, reverseWithin_eq, blockCount,
    countWithin_eq, diagnosticCount, verifyTargets_eq, walk, step, stepEmpty, finishTail, attachExpression,
    attachExpressionAt, attachTypedOps, Flow.countTops] at hcfg
  simp -zeta only [↓iterate_eq_run, lowerFunction, lowerFlowBlocks, lowerFlowBlockStep, lowerBlockStep, lowerOneBlock,
    expressionSeed, incomingFor, prepareBlockEnvironment, lowerExpressionStep, lowerExpression, lowerOperationStep,
    initialBuild, canonicalFunctionIdentity, callableIdentitySpan, ↓run_callableIdentitySpanStep, blockParameterStep,
    addBlockParameter, lowerOperation, lowerScalarMatch, lowerMatchSubject, openMatch, scalarBasicOk,
    typedScalarMatchArmTotal_eq, matchContextParameters, matchStackParameterStep,
    matchStackParameterOne, armStep, lowerArm, ArmBuild.prepared, ArmBuild.enterArm, lowerNestedArmOps, nestDriverStep,
    nestDriverOp, nestDriverPop, nestArmDone, nestArmStart, nestScalarSetup, nestSetupSubject, nestAssemble,
    ArmBuild.closeArm, assembleMatch, armJumpArgs, projectEnvironment, projectEnvironmentStep,
    projectEnvironmentBinding, appendIds, matchContextIds, valueStackIds, reverseIdList, bindingIds, lowerArmOperation,
    lowerName, lookupBinding, ExpressionBuild.after, reverseEnvironment, reverseInstructions, prependGeneratedBlocks,
    reverseWithin_eq, prependWithin_eq, makeTerminator, addBlockEdgesFrom, collectWithin_eq]
  subst hsrc hheader hfn hcfg
  decide +kernel

theorem lowerFunction_numbered_nested :
    nestedFunction.blockCount = 8 ∧
      Numbered nestedSource nestedHeader nestedFn nestedFlow [] [] [] nestedFunction :=
  ⟨nestedFunction_supported.2.2,
    lowerFunction_numbered nestedSource nestedHeader nestedFn nestedFlow [] [] [] [] [] ⟨_, rfl⟩
      nestedFunction_supported.1 nestedFunction_supported.2.1⟩

end MncsCompiler.Ssa
