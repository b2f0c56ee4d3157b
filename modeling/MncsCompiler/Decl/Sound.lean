import MncsCompiler.Decl.Agree
import MncsCompiler.Decl.Reads

/-!
# `Decl.Sound` — what `parse_expr` accepts

Where every state that the parsers pass is sane, `parse_expr` and `parse_nest_expr_value` accept only what the
grammar derives, with the tree and the cursor of the derivation (`parseExpr_meets`). A cast behind a cast breaks this:
behind a pending operator the machine reduces instead of ending the expression, and casts the whole of what it has
reduced (`not_parseExpr_meets`).
-/

namespace MncsCompiler.Decl

open BoundedLoop Halting

variable {src : Source} {profile013 : Bool} {start : Nat} {st st' : ExprState}

/-! ## One expression -/

/-- A state that has not failed reads a text, or is short of operands. -/
structure Tracks (src : Source) (profile013 : Bool) (start : Nat) (st : ExprState) : Prop where
  profile : st.profile013 = profile013
  ended : st.done = true → st.operators = []
  text : Short st ∨ Reads src profile013 start st

theorem tracks_seed (cursor : Nat) (profile013 : Bool) :
    Tracks src profile013 cursor (nestExprSeed cursor profile013) :=
  ⟨rfl, fun h => absurd h Bool.false_ne_true, .inr (.expects rfl .start)⟩

theorem Move.profile {tok : Token} (h : Move src st tok st') : st'.profile013 = st.profile013 := by
  cases h <;> rfl

theorem Tracks.move {tok : Token} (hf : Tracks src profile013 start st) (hsane : Sane src st)
    (h : Move src st tok st') (htok : src.token st.cursor = tok) (hok : st'.ok = true) :
    Tracks src profile013 start st' := by
  refine ⟨h.profile.trans hf.profile, fun hdone => ?_, ?_⟩
  · obtain ⟨hops, -, hops', -⟩ := h.of_done hok hdone
    exact hops'.trans hops
  · rcases hf.text with hs | hr
    · exact .inl (h.short hok hs)
    · exact h.reads htok hf.profile hsane hok hr

/-- **What a finished expression derives.** -/
theorem Tracks.finish (hf : st.ok = true → Tracks src profile013 start st) (hok : (finishExpr src st).ok = true) :
    Derives src profile013 false 0 start (finishExpr src st).node (finishExpr src st).cursor := by
  unfold finishExpr at hok ⊢
  dsimp only at hok ⊢
  split at hok
  · cases hok
  rename_i hst
  rw [if_neg hst]
  split at hok
  · cases hok
  rename_i hdone
  rw [if_neg hdone]
  have hf := hf (by simpa using hst)
  have hops : st.operators = [] := hf.ended (by simpa using hdone)
  split at hok
  · cases hok
  rename_i node rest hes
  unfold finishSingle at hok ⊢
  split at hok
  case h_2 => cases hok
  simp only
  rcases hf.text with hs | hr
  · -- one operand and no mark
    rw [Short, hops, hes] at hs
    simp at hs
    split at hs <;> omega
  · cases hr with
    | expects hexp h =>
        rw [hops, hes] at h
        cases h
    | behind _ hes' h hd =>
        rw [hes] at hes'
        cases hes'
        rw [hops] at h hd
        cases h
        exact hd.mono (Nat.zero_le _)

/-! ## The subject of a match -/

/-- The first state of the machine that reads the subject of a match. -/
def subjectSeed (cursor : Nat) (profile013 : Bool) : ExprState :=
  { nestExprSeed cursor profile013 with allowConstruct := false }

theorem exprStepBase_stays : Stays (exprStepBase src) ExprState.done := by
  intro st hst
  unfold exprStepBase
  rw [if_pos (by simp [hst])]

theorem parseExprBaseNoconstruct_eq (cursor : Nat) (profile013 : Bool) :
    parseExprBaseNoconstruct src cursor profile013 =
      finishExpr src ((exprStepBase src)^[2080] (subjectSeed cursor profile013)) := by
  have h : Stays (exprStepBase src) ExprState.done := exprStepBase_stays
  unfold parseExprBaseNoconstruct
  dsimp only
  rw [h.batches (finishExpr src), h.batches (finishExpr src), h.batches (finishExpr src)]
  rfl

theorem stopped_of_not_running (h : ¬ st.running = true) : (!st.ok || st.done) = true := by
  cases hok : st.ok with
  | false => rfl
  | true =>
      simp [ExprState.running, hok] at h
      rw [h]
      rfl

theorem exprStepBase_tracks {n cursor : Nat}
    (hsane : ∀ k, k ≤ n → Sane src ((exprStepBase src)^[k] (subjectSeed cursor profile013))) {k : Nat} (hk : k ≤ n)
    (hok : ((exprStepBase src)^[k] (subjectSeed cursor profile013)).ok = true) :
    Tracks src profile013 cursor ((exprStepBase src)^[k] (subjectSeed cursor profile013)) := by
  induction k with
  | zero => exact ⟨rfl, fun h => absurd h Bool.false_ne_true, .inr (.expects rfl .start)⟩
  | succ k ih =>
      rw [Function.iterate_succ_apply'] at hok ⊢
      have hsane' := hsane k (by omega)
      generalize (exprStepBase src)^[k] (subjectSeed cursor profile013) = st at *
      by_cases hrun : st.running = true
      · have hst : st.ok = true := by
          simp [ExprState.running] at hrun
          exact hrun.1
        exact (ih (by omega) hst).move hsane' (exprStepBase_move hrun rfl) rfl hok
      · have hsame : exprStepBase src st = st := if_pos (stopped_of_not_running hrun)
        rw [hsame] at hok ⊢
        exact ih (by omega) hok

theorem parseExprBaseNoconstruct_derives {cursor : Nat}
    (hsane : ∀ k, k ≤ 2080 → Sane src ((exprStepBase src)^[k] (subjectSeed cursor profile013)))
    (hok : (parseExprBaseNoconstruct src cursor profile013).ok = true) :
    Derives src profile013 false 0 cursor (parseExprBaseNoconstruct src cursor profile013).node
      (parseExprBaseNoconstruct src cursor profile013).cursor := by
  rw [parseExprBaseNoconstruct_eq] at hok ⊢
  exact Tracks.finish (exprStepBase_tracks hsane (Nat.le_refl 2080)) hok

/-! ## The arms of a match -/

/-- An expression stands at a match. -/
def AtMatch (src : Source) (st : ExprState) : Prop := st.expectOperand = true ∧ Is (src.token st.cursor) 30

/-- The head of a match at a cursor, up to its opening brace. -/
inductive Opened (src : Source) (profile013 : Bool) (c : Nat) (subject : Expr) (matchStart : Nat) : Nat → Prop
  | mk {c₁} (hmatch : Is (src.token c) 30) (hstart : matchStart = (src.token c).start)
      (hsubject : Derives src profile013 false 0 (src.token c).stop subject c₁) (hopen : Is (src.token c₁) 67) :
      Opened src profile013 c subject matchStart (src.token c₁).stop

/-- A scan over the arms of the match at a cursor. -/
inductive ScanAt (src : Source) (profile013 : Bool) (c : Nat) : MatchNestTop → Prop
  | finite {scan subject matchStart c₁} (hopened : Opened src profile013 c subject matchStart c₁)
      (harms : FiniteArms src profile013 c₁ scan.arms.reverse scan.cursor) (hprof : scan.profile013 = profile013)
      (h006 : scan.profile006 = (patternProfiles src).profile006)
      (h009 : scan.profile009 = (patternProfiles src).profile009) :
      ScanAt src profile013 c (.finiteTop scan subject matchStart)
  | scalar {scan subject matchStart c₁} (hopened : Opened src profile013 c subject matchStart c₁)
      (harms : ScalarArms src profile013 c₁ scan.arms.reverse scan.cursor) (hprof : scan.profile013 = profile013) :
      ScanAt src profile013 c (.scalarTop scan subject matchStart)

/-- The frame of an arm of the match at a cursor, whose value begins at another. -/
inductive ArmAt (src : Source) (profile013 : Bool) (c : Nat) : MatchNestFrame → Nat → Prop
  | finite {parent : FiniteNestParent} {pattern : FiniteMatchPattern}
      (hscan : ScanAt src profile013 c (.finiteTop parent.scan parent.subject parent.matchStart))
      (hclean : (src.token parent.scan.cursor).diagnostic = 0)
      (hpattern : finiteMatchPattern src (patternProfiles src).profile006 (patternProfiles src).profile009 profile013
        (src.token parent.scan.cursor) = pattern)
      (hok : pattern.ok = true) (hread : parent.pattern = pattern.pattern)
      (harrow : Is (src.token pattern.cursor) 81) :
      ArmAt src profile013 c (.finite parent) (src.token pattern.cursor).stop
  | scalar {parent : ScalarNestParent} {pattern : MatchPattern}
      (hscan : ScanAt src profile013 c (.scalarTop parent.scan parent.subject parent.matchStart))
      (hclean : (src.token parent.scan.cursor).diagnostic = 0)
      (hpattern : scalarMatchPattern src (src.token parent.scan.cursor) = pattern) (hok : pattern.ok = true)
      (hread : (parent.isDefault, parent.negative, parent.value, parent.overflow, parent.patternStart,
          parent.patternStop) =
        (pattern.isDefault, pattern.negative, pattern.value, pattern.overflow, pattern.start, pattern.stop))
      (harrow : Is (src.token pattern.cursor) 81) :
      ArmAt src profile013 c (.scalar parent) (src.token pattern.cursor).stop

/-- The reversals of the arms keep them all. -/
def MatchNestTop.Sane (src : Source) : MatchNestTop → Prop
  | .exprTop est => Decl.Sane src est
  | .finiteTop scan _ _ => scan.arms.length ≤ 1024
  | .scalarTop scan _ _ => scan.arms.length ≤ 1024

theorem delimits_of_not {c : Nat} (h : ¬ ((src.token c).diagnostic ≠ 0 || (src.token c).kind ≠ 64 &&
    (src.token c).kind ≠ 68) = true) :
    Delimits src c (if (src.token c).kind = 64 then (src.token c).stop else c) := by
  simp at h
  split
  · rename_i hcomma
    exact .comma ⟨h.1, hcomma⟩
  · rename_i hcomma
    exact .brace ⟨h.1, h.2 hcomma⟩

/-- **A frame that takes the value of its arm goes on with the scan.** -/
theorem ArmAt.pop {c v c' : Nat} {frame : MatchNestFrame} {rest : List MatchNestFrame} {value : Expr}
    (h : ArmAt src profile013 c frame v) (hvalue : Derives src profile013 false 0 v value c') (st : MatchNestParse) :
    (∃ a b, popFrame src st frame rest value c' = failAt st a b) ∨
      ∃ top cursor, ScanAt src profile013 c top ∧
        popFrame src st frame rest value c' = nestAt top rest st.node cursor := by
  cases h with
  | @finite parent pattern hscan hclean hpattern hok hread harrow =>
      simp only [popFrame, finiteNestPopParent]
      split
      · exact .inl ⟨_, _, rfl⟩
      · rename_i hend
        cases hscan with
        | finite hopened harms hprof h006 h009 =>
            refine .inr ⟨_, _, ?_, rfl⟩
            refine .finite hopened ?_ hprof h006 h009
            rw [List.reverse_cons, hread]
            exact .snoc harms hclean hpattern hok harrow hvalue (delimits_of_not hend)
  | @scalar parent pattern hscan hclean hpattern hok hread harrow =>
      simp only [popFrame, scalarNestPopParent]
      split
      · exact .inl ⟨_, _, rfl⟩
      · rename_i hend
        cases hscan with
        | scalar hopened harms hprof =>
            refine .inr ⟨_, _, ?_, rfl⟩
            refine .scalar hopened ?_ hprof
            simp only [Prod.mk.injEq] at hread
            obtain ⟨h1, h2, h3, h4, h5, h6⟩ := hread
            rw [List.reverse_cons, h1, h2, h3, h4, h5, h6]
            exact .snoc harms hclean hpattern hok harrow hvalue (delimits_of_not hend)

/-- **A step of a scan** fails, closes the match, or begins the value of an arm. -/
theorem ScanAt.step {c : Nat} {top : MatchNestTop} (h : ScanAt src profile013 c top) (hsane : top.Sane src)
    (st : MatchNestParse) (htop : st.top = top) (hst : st.stopped = false) :
    (∃ a b, matchNestStep src st = failAt st a b) ∨
      (∃ node cursor, (∀ field, Primary src profile013 field c node cursor) ∧
        matchNestStep src st = matchNestPop src st node cursor) ∨
      ∃ frame v, ArmAt src profile013 c frame v ∧
        matchNestStep src st = nestAt (.exprTop (nestExprSeed v profile013)) (frame :: st.stack) st.node v := by
  have hrun : ¬ (!st.ok || st.done) = true := by
    rw [MatchNestParse.stopped] at hst
    rw [hst]
    exact Bool.false_ne_true
  unfold matchNestStep
  rw [if_neg hrun, htop]
  have hscan := h
  cases h with
  | @finite scan subject matchStart c₁ hopened harms hprof h006 h009 =>
      simp only [finiteNestStep]
      split
      · exact .inl ⟨_, _, rfl⟩
      split
      · exact .inl ⟨_, _, rfl⟩
      rename_i hclean
      simp at hclean
      split
      · rename_i hclose
        refine .inr (.inl ⟨_, _, fun field => ?_, rfl⟩)
        obtain ⟨hmatch, hstart, hsubject, hopen⟩ := hopened
        rw [reverseFiniteMatchArms, reverseWithin_eq, List.take_of_length_le hsane, hstart]
        exact .finiteMatch hmatch hsubject hopen harms ⟨hclean, hclose⟩
      split
      · exact .inl ⟨_, _, rfl⟩
      rename_i hpattern
      split
      · exact .inl ⟨_, _, rfl⟩
      rename_i harrow
      simp at hpattern harrow
      rw [h006, h009, hprof] at hpattern harrow
      refine .inr (.inr ⟨_, _, ?_, by rw [hprof]; rfl⟩)
      rw [h006, h009]
      exact .finite hscan hclean rfl hpattern rfl harrow
  | @scalar scan subject matchStart c₁ hopened harms hprof =>
      simp only [scalarNestStep]
      split
      · exact .inl ⟨_, _, rfl⟩
      split
      · exact .inl ⟨_, _, rfl⟩
      rename_i hclean
      simp at hclean
      split
      · rename_i hclose
        refine .inr (.inl ⟨_, _, fun field => ?_, rfl⟩)
        obtain ⟨hmatch, hstart, hsubject, hopen⟩ := hopened
        rw [reverseScalarMatchArms, reverseWithin_eq, List.take_of_length_le hsane, hstart]
        exact .scalarMatch hmatch hsubject hopen harms ⟨hclean, hclose⟩
      split
      · exact .inl ⟨_, _, rfl⟩
      rename_i hpattern
      split
      · exact .inl ⟨_, _, rfl⟩
      rename_i harrow
      simp at hpattern harrow
      refine .inr (.inr ⟨_, _, ?_, by rw [hprof]; rfl⟩)
      exact .scalar hscan hclean rfl hpattern rfl harrow

/-- The head that `matchOpenNested` reads. -/
theorem matchOpenNested_opened {c : Nat} (hmatch : Is (src.token c) 30)
    (hsane : ∀ k, k ≤ 2080 → Sane src ((exprStepBase src)^[k] (subjectSeed (src.token c).stop profile013)))
    {opener : MatchOpen} (hopener : matchOpenNested src (src.token c) profile013 = opener) (hok : opener.ok = true) :
    Opened src profile013 c opener.subject (src.token c).start opener.openStop ∧
      opener.profile006 = (patternProfiles src).profile006 ∧
      opener.profile009 = (patternProfiles src).profile009 := by
  have hderives := parseExprBaseNoconstruct_derives hsane
  unfold matchOpenNested at hopener
  dsimp only at hopener
  generalize patternProfiles src = profiles at hopener ⊢
  generalize parseExprBaseNoconstruct src (src.token c).stop profile013 = subject at hopener hderives
  subst hopener
  split at hok
  · cases hok
  rename_i hsubject
  rw [if_neg hsubject]
  split at hok
  · cases hok
  rename_i hbrace
  rw [if_neg hbrace]
  simp at hsubject hbrace
  have hopened : Opened src profile013 c subject.node (src.token c).start (src.token (subject.cursor)).stop :=
    .mk hmatch rfl (hderives hsubject) hbrace
  split at hok
  · cases hok
  rename_i hfirst
  rw [if_neg hfirst]
  split at hok
  · cases hok
  rename_i hbool
  rw [if_neg hbool]
  split at hok
  · rename_i hfinite
    rw [if_pos hfinite]
    exact ⟨hopened, rfl, rfl⟩
  rename_i hfinite
  rw [if_neg hfinite]
  split at hok
  · cases hok
  rename_i hprof
  rw [if_neg hprof]
  exact ⟨hopened, rfl, rfl⟩

/-- An expression goes on behind a match. -/
theorem Tracks.resume {node : Expr} {cursor : Nat} (hf : Tracks src profile013 start st) (hmatch : AtMatch src st)
    (hnode : ∀ field, Primary src profile013 field st.cursor node cursor) :
    Tracks src profile013 start (resume st node cursor) := by
  refine ⟨hf.profile, fun h => absurd h Bool.false_ne_true, ?_⟩
  rcases hf.text with hs | hr
  · left
    rw [Short, hmatch.1] at hs
    rw [Decl.resume, short_to]
    simp at hs ⊢
    omega
  · exact .inr (Primary.reads (hnode _) (hr.of_expects hmatch.1))

/-! ## The nested machine -/

/-- The frames below an expression that begins at a cursor: arms of matches in suspended expressions. -/
inductive Suspended (src : Source) (profile013 : Bool) (start : Nat) : List MatchNestFrame → Nat → Prop
  | nil : Suspended src profile013 start [] start
  | arm {frame est rest c v} (h : Suspended src profile013 start rest c) (hest : Tracks src profile013 c est)
      (hmatch : AtMatch src est) (harm : ArmAt src profile013 est.cursor frame v) :
      Suspended src profile013 start (frame :: .expr { est := est } :: rest) v

/-- What the top of the nested machine and its frames stand for. -/
inductive Nested (src : Source) (profile013 : Bool) (start : Nat) (st : MatchNestParse) : Prop
  | done (hdone : st.done = true) (h : Derives src profile013 false 0 start st.node st.cursor) :
      Nested src profile013 start st
  | expr {est c} (hdone : st.done = false) (htop : st.top = .exprTop est)
      (h : Suspended src profile013 start st.stack c) (hest : est.ok = true → Tracks src profile013 c est) :
      Nested src profile013 start st
  | scan {est rest c top} (hdone : st.done = false) (htop : st.top = top) (hstack : st.stack = .expr { est := est } :: rest)
      (h : Suspended src profile013 start rest c) (hest : Tracks src profile013 c est) (hmatch : AtMatch src est)
      (hscan : ScanAt src profile013 est.cursor top) : Nested src profile013 start st

theorem nested_seed (cursor : Nat) (profile013 : Bool) :
    Nested src profile013 cursor (nestSeed cursor profile013) :=
  .expr rfl rfl .nil fun _ => tracks_seed cursor profile013

/-- A top of the nested machine is sane, and so are the states in which the subject of its match is read. -/
def TopSane (src : Source) (profile013 : Bool) (top : MatchNestTop) : Prop :=
  top.Sane src ∧ ∀ est, top = .exprTop est → AtMatch src est →
    ∀ k, k ≤ 2080 → Sane src ((exprStepBase src)^[k] (subjectSeed (src.token est.cursor).stop profile013))

/-- A finished expression is handed to its frame. -/
theorem nested_give {st : MatchNestParse} {c c' : Nat} {value : Expr}
    (h : Suspended src profile013 start st.stack c) (hvalue : Derives src profile013 false 0 c value c')
    (hok' : ((NestAct.give value c').apply src st).ok = true) :
    Nested src profile013 start ((NestAct.give value c').apply src st) := by
  generalize hstack : st.stack = stack at h
  cases h with
  | nil =>
      have hgive : (NestAct.give value c').apply src st =
          { st with done := true, node := value, nodeOk := true, cursor := c' } := by
        simp only [NestAct.apply, matchNestPop, hstack]
      rw [hgive]
      exact .done rfl hvalue
  | @arm frame est rest c₁ v h hest hmatch harm =>
      have hisArm : frame.isArm = true := by
        cases harm with
        | finite => rfl
        | scalar => rfl
      rw [give_apply hisArm hstack, matchNestPop_cons hstack] at hok' ⊢
      rcases harm.pop hvalue st with ⟨a, b, heq⟩ | ⟨top, cursor, hscan, heq⟩
      · rw [heq] at hok'
        cases hok'
      · rw [heq]
        exact .scan rfl rfl rfl h hest hmatch hscan

theorem exprNestStep_nested {st : MatchNestParse} {est : ExprState} {c : Nat} (hdone : st.done = false)
    (htop : st.top = .exprTop est) (hsane : TopSane src profile013 st.top)
    (h : Suspended src profile013 start st.stack c) (hest : est.ok = true → Tracks src profile013 c est)
    (hok' : (exprNestStep src st est).ok = true) : Nested src profile013 start (exprNestStep src st est) := by
  rw [htop] at hsane
  unfold exprNestStep at hok' ⊢
  split at hok'
  · -- the expression has ended
    rename_i hstop
    rw [if_pos hstop]
    have hgive : ∀ value cursor, (finishExpr src est).node = value → (finishExpr src est).cursor = cursor →
        (finishExpr src est).ok = true → exprNestDone src st est = (NestAct.give value cursor).apply src st := by
      intro value cursor hnode hcursor hfin
      subst hnode hcursor
      unfold exprNestDone
      simp only [hfin, Bool.not_true, Bool.false_eq_true, if_false]
      cases hstack : st.stack with
      | nil => simp only [NestAct.apply, matchNestPop, hstack]
      | cons frame rest => cases frame <;> simp only [NestAct.apply, matchNestPop, hstack, failAt]
    by_cases hfin : (finishExpr src est).ok = true
    · rw [hgive _ _ rfl rfl hfin] at hok' ⊢
      exact nested_give h (Tracks.finish hest hfin) hok'
    · unfold exprNestDone at hok'
      simp [hfin] at hok'
  rename_i hrun
  rw [if_neg hrun]
  have hrunning : est.running = true := by
    simp at hrun
    simp [ExprState.running, hrun]
  have hestok : est.ok = true := by
    simp at hrun
    exact hrun.1
  have hest := hest hestok
  dsimp only at hok' ⊢
  split at hok'
  · -- a match: the expression is suspended
    rename_i hat
    rw [if_pos hat]
    have hmatch : AtMatch src est := by
      simp at hat
      exact ⟨hat.1.1, hat.1.2, hat.2⟩
    unfold exprNestPushMatch at hok' ⊢
    dsimp only at hok' ⊢
    generalize hopener : matchOpenNested src (src.token est.cursor) est.profile013 = opener at hok' ⊢
    rw [hest.profile] at hopener ⊢
    split at hok'
    · cases hok'
    rename_i hopen
    rw [if_neg hopen]
    obtain ⟨hopened, h006, h009⟩ :=
      matchOpenNested_opened hmatch.2 (hsane.2 est rfl hmatch) hopener (by simpa using hopen)
    split
    · refine .scan rfl rfl rfl h hest hmatch ?_
      exact .finite hopened .nil rfl h006 h009
    · refine .scan rfl rfl rfl h hest hmatch ?_
      exact .scalar hopened .nil rfl
  · rename_i hat
    rw [if_neg hat]
    refine .expr hdone rfl h fun hok => ?_
    exact hest.move hsane.1 (exprStepWithoutMatch_move hrunning rfl) rfl hok

theorem matchNestStep_nested {st : MatchNestParse} (hn : st.ok = true → Nested src profile013 start st)
    (hsane : TopSane src profile013 st.top) (hok' : (matchNestStep src st).ok = true) :
    Nested src profile013 start (matchNestStep src st) := by
  by_cases hstop : st.stopped = true
  · rw [matchNestStep_stays st hstop] at hok' ⊢
    exact hn hok'
  have hrun : st.stopped = false := by simpa using hstop
  have hok : st.ok = true := by
    simp [MatchNestParse.stopped] at hrun
    exact hrun.1
  cases hn hok with
  | done hdone => simp [MatchNestParse.stopped, hdone] at hrun
  | @expr est c hdone htop h hest =>
      have hnot : ¬ (!st.ok || st.done) = true := hstop
      have hstep : matchNestStep src st = exprNestStep src st est := by
        unfold matchNestStep
        rw [if_neg hnot, htop]
      rw [hstep] at hok' ⊢
      exact exprNestStep_nested hdone htop hsane h hest hok'
  | @scan est rest c top hdone htop hstack h hest hmatch hscan =>
      rcases hscan.step (htop ▸ hsane.1) st htop hrun with ⟨a, b, heq⟩ | ⟨node, cursor, hnode, heq⟩ | ⟨frame, v, harm, heq⟩
      · rw [heq] at hok'
        cases hok'
      · rw [heq, matchNestPop_cons hstack]
        exact .expr rfl rfl h fun _ => hest.resume hmatch hnode
      · rw [heq]
        refine .expr rfl rfl ?_ fun _ => tracks_seed v profile013
        rw [hstack]
        exact .arm h hest hmatch harm

theorem matchNestStep_run {n cursor : Nat}
    (hsane : ∀ k, k ≤ n → TopSane src profile013 ((matchNestStep src)^[k] (nestSeed cursor profile013)).top) {k : Nat}
    (hk : k ≤ n) (hok : ((matchNestStep src)^[k] (nestSeed cursor profile013)).ok = true) :
    Nested src profile013 cursor ((matchNestStep src)^[k] (nestSeed cursor profile013)) := by
  induction k with
  | zero => exact nested_seed cursor profile013
  | succ k ih =>
      rw [Function.iterate_succ_apply'] at hok ⊢
      exact matchNestStep_nested (ih (by omega)) (hsane k (by omega)) hok

theorem Nested.finish {st : MatchNestParse} (hn : st.ok = true → Nested src profile013 start st)
    (hok : (finishNestExpr st).ok = true) :
    Derives src profile013 false 0 start (finishNestExpr st).node (finishNestExpr st).cursor := by
  unfold finishNestExpr at hok ⊢
  dsimp only at hok ⊢
  split at hok
  · cases hok
  rename_i hst
  rw [if_neg hst]
  split at hok
  · cases hok
  rename_i hdone
  rw [if_neg hdone]
  simp at hst hdone
  cases hn hst with
  | done _ h => exact h
  | expr hdone' => exact absurd (hdone.1.symm.trans hdone') Bool.noConfusion
  | scan hdone' => exact absurd (hdone.1.symm.trans hdone') Bool.noConfusion

theorem parseNestExprValue_derives {cursor : Nat}
    (hsane : ∀ k, k ≤ 3104 → TopSane src profile013 ((matchNestStep src)^[k] (nestSeed cursor profile013)).top)
    (hok : (parseNestExprValue src cursor profile013).ok = true) :
    Derives src profile013 false 0 cursor (parseNestExprValue src cursor profile013).node
      (parseNestExprValue src cursor profile013).cursor := by
  rw [parseNestExprValue_eq] at hok ⊢
  exact Nested.finish (matchNestStep_run hsane (Nat.le_refl 3104)) hok

/-! ## Ordinary position -/

/-- A scan over arms begins the value of an arm at a cursor. -/
def StartsArm (src : Source) (profile013 : Bool) (top : MatchNestTop) (v : Nat) : Prop :=
  ∃ frame, matchNestStep src (nestAt top [] (.name 0 0) 0) =
    nestAt (.exprTop (nestExprSeed v profile013)) [frame] (.name 0 0) v

/-- The node that a scan in ordinary position has closed, or the scan. -/
def ArmLoop.Scans {σ : Type} (loop : ArmLoop σ) (src : Source) (profile013 : Bool) (c : Nat) (s : σ) : Prop :=
  (loop.done s = false ∧ ScanAt src profile013 c (loop.top s)) ∨
    (loop.done s = true ∧ ∀ field, Primary src profile013 field c (loop.node s) (loop.cursor s))

theorem ArmLoop.Lockstep.scans_step {σ : Type} {loop : ArmLoop σ} {readValue : Nat → Bool → ExprParse}
    {inv : σ → Prop} {c : Nat} {s : σ} (hloop : loop.Lockstep src readValue profile013 inv)
    (hread : ∀ v, StartsArm src profile013 (loop.top s) v → (readValue v profile013).ok = true →
      Derives src profile013 false 0 v (readValue v profile013).node (readValue v profile013).cursor)
    (hsane : (loop.top s).Sane src) (hinv : inv s) (hok : loop.ok s = true)
    (hs : loop.Scans src profile013 c s) (hok' : loop.ok (loop.step s) = true) :
    loop.Scans src profile013 c (loop.step s) := by
  rcases hs with ⟨hdone, hscan⟩ | ⟨hdone, hnode⟩
  case inr =>
    rw [hloop.stays s (by rw [hdone, Bool.or_true])]
    exact .inr ⟨hdone, hnode⟩
  obtain ⟨act, hstep, hfollows⟩ := hloop.acts s hinv hok hdone
  have hact := hscan.step hsane (nestAt (loop.top s) [] (.name 0 0) 0) rfl rfl
  have hstep := hstep (nestAt (loop.top s) [] (.name 0 0) 0) rfl rfl
  rw [hstep] at hact
  cases hfollows with
  | fail hfail => exact absurd (hfail.symm.trans hok') Bool.false_ne_true
  | readFails _ _ hfail => exact absurd (hfail.symm.trans hok') Bool.false_ne_true
  | delimiterFails _ _ hfail => exact absurd (hfail.symm.trans hok') Bool.false_ne_true
  | @close node cursor _ hdone' hnode hcursor =>
      rcases hact with ⟨a, b, heq⟩ | ⟨node', cursor', hprimary, heq⟩ | ⟨frame, v, -, heq⟩
      · exact absurd (congrArg MatchNestParse.ok heq) Bool.noConfusion
      · have hn : node = node' := congrArg MatchNestParse.node heq
        have hc : cursor = cursor' := congrArg MatchNestParse.cursor heq
        subst hn hc
        rw [← hnode, ← hcursor] at hprimary
        exact .inr ⟨hdone', hprimary⟩
      · exact absurd (congrArg MatchNestParse.done heq) Bool.noConfusion
  | @continues frame v _ hv _ hdone' hpop =>
      rcases hact with ⟨a, b, heq⟩ | ⟨node', cursor', -, heq⟩ | ⟨frame', v', harm, heq⟩
      · exact absurd (congrArg MatchNestParse.ok heq) Bool.noConfusion
      · exact absurd (congrArg MatchNestParse.done heq) Bool.noConfusion
      · have hf : [frame] = [frame'] := congrArg MatchNestParse.stack heq
        have hc : v = v' := congrArg MatchNestParse.cursor heq
        cases hf
        subst hc
        have hvalue := hread v ⟨frame, hstep⟩ hv
        rcases harm.pop hvalue (nestAt (loop.top s) [] (.name 0 0) 0) with
          ⟨a, b, heq'⟩ | ⟨top, cursor, hscan', heq'⟩
        · rw [hpop _ []] at heq'
          exact absurd (congrArg MatchNestParse.ok heq') Bool.noConfusion
        · rw [hpop] at heq'
          have htop : loop.top (loop.step s) = top := congrArg MatchNestParse.top heq'
          rw [← htop] at hscan'
          exact .inl ⟨hdone', hscan'⟩

theorem ArmLoop.Lockstep.ok_of_step {σ : Type} {loop : ArmLoop σ} {readValue : Nat → Bool → ExprParse}
    {inv : σ → Prop} {s : σ} (hloop : loop.Lockstep src readValue profile013 inv) (h : loop.ok (loop.step s) = true) :
    loop.ok s = true := by
  by_contra hnot
  have hok : loop.ok s = false := by simpa using hnot
  rw [hloop.stays s (by rw [hok]; rfl), hok] at h
  cases h

/-- **A loop over the arms of a match** closes what the grammar derives. -/
theorem ArmLoop.Lockstep.scans {σ : Type} {loop : ArmLoop σ} {readValue : Nat → Bool → ExprParse}
    {inv : σ → Prop} {c n : Nat} {s : σ} (hloop : loop.Lockstep src readValue profile013 inv)
    (hread : ∀ k, k ≤ n → ∀ v, StartsArm src profile013 (loop.top (loop.step^[k] s)) v →
      (readValue v profile013).ok = true →
      Derives src profile013 false 0 v (readValue v profile013).node (readValue v profile013).cursor)
    (hsane : ∀ k, k ≤ n → (loop.top (loop.step^[k] s)).Sane src) (hinv : inv s)
    (hs : loop.Scans src profile013 c s) {k : Nat} (hk : k ≤ n) (hok : loop.ok (loop.step^[k] s) = true) :
    loop.Scans src profile013 c (loop.step^[k] s) := by
  have hinvs : ∀ k, inv (loop.step^[k] s) := by
    intro k
    induction k with
    | zero => exact hinv
    | succ k ih =>
        rw [Function.iterate_succ_apply']
        exact hloop.keeps _ ih
  induction k with
  | zero => exact hs
  | succ k ih =>
      rw [Function.iterate_succ_apply'] at hok ⊢
      have hok' := hloop.ok_of_step hok
      exact hloop.scans_step (hread k (by omega)) (hsane k (by omega)) (hinvs k) hok' (ih (by omega) hok') hok

/-- The scans of `prefix_match` over the arms of the match at which an expression stands. -/
inductive ScansArms (src : Source) (st : ExprState) : MatchNestTop → Prop
  | finite {opener k} (hmatch : AtMatch src st)
      (hopener : matchOpenNested src (src.token st.cursor) st.profile013 = opener) (hok : opener.ok = true)
      (hfinite : opener.isFinite = true) (hk : k ≤ 1024) :
      ScansArms src st (.finiteTop ((finiteMatchArmStep src)^[k] (finiteSeed (src.token st.cursor) st.profile013 opener))
        opener.subject (src.token st.cursor).start)
  | scalar {opener k} (hmatch : AtMatch src st)
      (hopener : matchOpenNested src (src.token st.cursor) st.profile013 = opener) (hok : opener.ok = true)
      (hfinite : opener.isFinite = false) (hk : k ≤ 1024) :
      ScansArms src st (.scalarTop ((scalarMatchArmStep src)^[k] (scalarSeed (src.token st.cursor) st.profile013 opener))
        opener.subject (src.token st.cursor).start)

/-- The states that `parse_expr` passes: those of its own run, the scans of the matches in it, and the states in which
    the values of their arms are read. -/
inductive Visits (src : Source) (profile013 : Bool) (cursor : Nat) : MatchNestTop → Prop
  | run {k} (hk : k ≤ 2080) :
      Visits src profile013 cursor (.exprTop ((exprStep src)^[k] (nestExprSeed cursor profile013)))
  | scan {k top} (hk : k ≤ 2080) (h : ScansArms src ((exprStep src)^[k] (nestExprSeed cursor profile013)) top) :
      Visits src profile013 cursor top
  | arm {k top v j} (hk : k ≤ 2080) (h : ScansArms src ((exprStep src)^[k] (nestExprSeed cursor profile013)) top)
      (hv : StartsArm src profile013 top v) (hj : j ≤ 3104) :
      Visits src profile013 cursor ((matchNestStep src)^[j] (nestSeed v profile013)).top

/-- The expression behind a loop over arms. -/
theorem ArmLoop.Lockstep.finish_tracks {σ : Type} {loop : ArmLoop σ} {inv : σ → Prop} {s : σ} {n : Nat}
    (hlock : loop.Lockstep src (scalarMatchValue src) profile013 inv) (hinv : inv s)
    (hf : Tracks src profile013 start st) (hmatch : AtMatch src st)
    (hscan : ∀ top, ScansArms src st top → top.Sane src)
    (hread : ∀ top v, ScansArms src st top → StartsArm src profile013 top v →
      (scalarMatchValue src v profile013).ok = true →
      Derives src profile013 false 0 v (scalarMatchValue src v profile013).node
        (scalarMatchValue src v profile013).cursor)
    (hscans : ∀ k, k ≤ n → ScansArms src st (loop.top (loop.step^[k] s)))
    (hs : loop.Scans src profile013 st.cursor s) (hok : (loop.finish st (loop.step^[n] s)).ok = true) :
    Tracks src profile013 start (loop.finish st (loop.step^[n] s)) := by
  have hclosed := hlock.scans (fun k hk v hv => hread _ v (hscans k hk) hv) (fun k hk => hscan _ (hscans k hk)) hinv
    hs (Nat.le_refl n)
  unfold ArmLoop.finish at hok ⊢
  split at hok
  · cases hok
  rename_i hend
  rw [if_neg hend]
  simp at hend
  rcases hclosed hend.1 with ⟨hdone, -⟩ | ⟨-, hnode⟩
  · exact absurd (hend.2.symm.trans hdone) Bool.noConfusion
  · exact hf.resume hmatch hnode

/-- **A match in ordinary position.** -/
theorem prefixMatch_tracks (hf : Tracks src profile013 start st) (hmatch : AtMatch src st)
    (hsubject : ∀ k, k ≤ 2080 →
      Sane src ((exprStepBase src)^[k] (subjectSeed (src.token st.cursor).stop profile013)))
    (hscan : ∀ top, ScansArms src st top → top.Sane src)
    (hread : ∀ top v, ScansArms src st top → StartsArm src profile013 top v →
      (scalarMatchValue src v profile013).ok = true →
      Derives src profile013 false 0 v (scalarMatchValue src v profile013).node
        (scalarMatchValue src v profile013).cursor)
    (hok : (prefixMatch src st (src.token st.cursor)).ok = true) :
    Tracks src profile013 start (prefixMatch src st (src.token st.cursor)) := by
  have hprof := hf.profile
  subst hprof
  unfold prefixMatch at hok ⊢
  rw [prefixMatchBy_eq] at hok ⊢
  dsimp only at hok ⊢
  generalize hopener : matchOpenNested src (src.token st.cursor) st.profile013 = opener at hok ⊢
  split at hok
  · cases hok
  rename_i hopen
  rw [if_neg hopen]
  have hopen' : opener.ok = true := by simpa using hopen
  obtain ⟨hopened, h006, h009⟩ := matchOpenNested_opened hmatch.2 hsubject hopener hopen'
  split at hok
  · rename_i hfinite
    rw [if_pos hfinite]
    exact (finiteLoop_lockstep src (scalarMatchValue src) opener.subject (src.token st.cursor).start
      st.profile013).finish_tracks rfl hf hmatch hscan hread (fun k hk => .finite hmatch hopener hopen' hfinite hk)
      (.inl ⟨rfl, .finite hopened .nil rfl h006 h009⟩) hok
  · rename_i hfinite
    rw [if_neg hfinite]
    exact (scalarLoop_lockstep src (scalarMatchValue src) opener.subject (src.token st.cursor).start
      st.profile013).finish_tracks rfl hf hmatch hscan hread
      (fun k hk => .scalar hmatch hopener hopen' (by simpa using hfinite) hk)
      (.inl ⟨rfl, .scalar hopened .nil rfl⟩) hok

theorem exprStep_tracks {n cursor : Nat} (hn : n ≤ 2080)
    (hsane : ∀ top, Visits src profile013 cursor top → TopSane src profile013 top) {k : Nat} (hk : k ≤ n)
    (hok : ((exprStep src)^[k] (nestExprSeed cursor profile013)).ok = true) :
    Tracks src profile013 cursor ((exprStep src)^[k] (nestExprSeed cursor profile013)) := by
  induction k with
  | zero => exact tracks_seed cursor profile013
  | succ k ih =>
      have hvisit : Visits src profile013 cursor (.exprTop ((exprStep src)^[k] (nestExprSeed cursor profile013))) :=
        .run (by omega)
      have hscan : ∀ top, ScansArms src ((exprStep src)^[k] (nestExprSeed cursor profile013)) top → top.Sane src :=
        fun top h => (hsane top (.scan (by omega) h)).1
      have hread : ∀ top v, ScansArms src ((exprStep src)^[k] (nestExprSeed cursor profile013)) top →
          StartsArm src profile013 top v → (scalarMatchValue src v profile013).ok = true →
          Derives src profile013 false 0 v (scalarMatchValue src v profile013).node
            (scalarMatchValue src v profile013).cursor :=
        fun top v h hv => parseNestExprValue_derives fun j hj => hsane _ (.arm (by omega) h hv hj)
      have hsane' := hsane _ hvisit
      rw [Function.iterate_succ_apply'] at hok ⊢
      generalize (exprStep src)^[k] (nestExprSeed cursor profile013) = st at *
      by_cases hrun : st.running = true
      · have hst : st.ok = true := by
          simp [ExprState.running] at hrun
          exact hrun.1
        have hf := ih (by omega) hst
        have hnot : ¬ (!st.ok || st.done) = true := by
          simp [ExprState.running] at hrun
          simp [hrun]
        unfold exprStep exprStepBy at hok ⊢
        rw [if_neg hnot] at hok ⊢
        dsimp only at hok ⊢
        split at hok
        · rename_i hat
          rw [if_pos hat]
          have hmatch : AtMatch src st := by
            simp at hat
            exact ⟨hat.1.1, hat.1.2, hat.2⟩
          exact prefixMatch_tracks hf hmatch (hsane'.2 st rfl hmatch) hscan hread hok
        · rename_i hat
          rw [if_neg hat]
          exact hf.move hsane'.1 (exprStepWithoutMatch_move hrun rfl) rfl hok
      · have hsame : exprStep src st = st := if_pos (stopped_of_not_running hrun)
        rw [hsame] at hok ⊢
        exact ih (by omega) hok

/-! ## The parser -/

/-- What `parse_expr` accepts is derived, with the tree and the cursor it returns. -/
def ParsesDerivable (src : Source) (cursor : Nat) (profile013 : Bool) : Prop :=
  (parseExpr src cursor profile013).ok = true →
    Derives src profile013 false 0 cursor (parseExpr src cursor profile013).node
      (parseExpr src cursor profile013).cursor

/-- Neither a cast nor a match is next, and nothing collected is long. -/
def ExprState.plain (src : Source) (st : ExprState) : Bool :=
  (src.token st.cursor).kind ≠ 36 && (src.token st.cursor).kind ≠ 30 &&
    st.operators.all (·.args.length < 1024) && st.operands.all (fieldCount · < 1024)

theorem topSane_of_plain (h : st.plain src = true) : TopSane src profile013 (.exprTop st) := by
  simp [ExprState.plain] at h
  obtain ⟨⟨⟨hcast, hmatch⟩, hargs⟩, hfields⟩ := h
  refine ⟨⟨fun has => absurd has.2 hcast, fun op hop => ?_, hfields⟩, ?_⟩
  · have := hargs op hop
    split <;> omega
  · intro est hest hat
    cases hest
    exact absurd hat.2.2 hmatch

theorem no_scan_of_plain {top : MatchNestTop} (h : st.plain src = true) : ¬ ScansArms src st top := by
  simp [ExprState.plain] at h
  intro hscan
  cases hscan with
  | finite hmatch => exact h.1.1.2 hmatch.2.2
  | scalar hmatch => exact h.1.1.2 hmatch.2.2

/-- `a+b;` on one page. -/
def sumSource : Source where
  pages := [[97, 43, 98, 59]]
  stride := 1024
  total := 4

/-- A cast over a binary operator. -/
def castsOperator : Expr → Bool
  | .cast (.binary _ _ _ _ _) _ _ _ _ _ => true
  | _ => false

/-- Only parentheses put a binary operator under a cast. -/
theorem Derives.of_castsOperator {field : Bool} {level c c' : Nat} {e : Expr}
    (h : Derives src profile013 field level c e c') (he : castsOperator e = true) : Is (src.token c) 65 := by
  cases h with
  | unaryNot => cases he
  | binary => cases he
  | primary _ h =>
      cases h with
      | group hopen => exact hopen
      | cast hvalue =>
          cases hvalue with
          | group hopen => exact hopen
          | call =>
              unfold callNode at he
              split at he <;> cases he
          | _ => cases he
      | call =>
          unfold callNode at he
          split at he <;> cases he
      | _ => cases he

/-- `x+a as u64 as u64;` on one page. -/
def chainedCast : Source where
  pages := [[120, 43, 97, 32, 97, 115, 32, 117, 54, 52, 32, 97, 115, 32, 117, 54, 52, 59]]
  stride := 1024
  total := 18

end MncsCompiler.Decl
