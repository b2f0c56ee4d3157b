import MncsCompiler.Decl.Moves
import MncsCompiler.Lib.Halting

/-!
# `Decl.Frames` — the nested machine above a frame of its stack

A step of the nested machine depends on the top of the machine only and does one of five things to the rest
(`matchNestStep_act`). So a run above the frame of an arm is the run of `parse_nest_expr_value` on that arm, until it
hands its value to the frame (`arm_run`). The loops over the arms of a match in ordinary position go in lockstep with
the scans of the nested machine (`finiteLoop_lockstep`, `scalarLoop_lockstep`).
-/

namespace MncsCompiler.Decl

open BoundedLoop Halting

variable {src : Source}

/-! ## The two parsers as runs -/

def MatchNestParse.stopped (st : MatchNestParse) : Bool := !st.ok || st.done

/-- The first state of `parse_nest_expr_value`. -/
def nestSeed (cursor : Nat) (profile013 : Bool) : MatchNestParse :=
  { top := .exprTop (nestExprSeed cursor profile013), stack := [], ok := true, done := false, errStart := 0
    errStop := 0, node := .name cursor cursor, nodeOk := false, cursor := cursor }

theorem matchNestStep_stays : Stays (matchNestStep src) MatchNestParse.stopped := by
  intro st hst
  unfold matchNestStep
  exact if_pos hst

theorem exprStepBy_stays {readValue : Nat → Bool → ExprParse} {arms : Nat} :
    Stays (exprStepBy src readValue arms) ExprState.done := by
  intro st hst
  unfold exprStepBy
  rw [if_pos (by simp [hst])]

theorem parseNestExprValue_eq (cursor : Nat) (profile013 : Bool) :
    parseNestExprValue src cursor profile013 =
      finishNestExpr ((matchNestStep src)^[3104] (nestSeed cursor profile013)) := by
  have h : Stays (matchNestStep src) fun st => !st.ok || st.done := matchNestStep_stays
  unfold parseNestExprValue
  dsimp only
  rw [h.batches finishNestExpr, h.batches finishNestExpr, h.batches finishNestExpr, h.batches finishNestExpr]
  rfl

theorem parseExpr_eq (cursor : Nat) (profile013 : Bool) :
    parseExpr src cursor profile013 =
      finishExpr src ((exprStep src)^[2080] (nestExprSeed cursor profile013)) := by
  have h : Stays (exprStep src) ExprState.done := exprStepBy_stays
  unfold parseExpr
  dsimp only
  rw [h.batches (finishExpr src), h.batches (finishExpr src), h.batches (finishExpr src)]
  rfl

/-! ## A run above a frame -/

/-- A state of the nested machine with further frames below its stack. -/
def embed (below : List MatchNestFrame) (node : Expr) (st : MatchNestParse) : MatchNestParse :=
  { st with stack := st.stack ++ below, node := node }

/-- The state after the frame on top of the stack takes a value. -/
def popFrame (src : Source) (st : MatchNestParse) (frame : MatchNestFrame) (rest : List MatchNestFrame) (node : Expr)
    (cursor : Nat) : MatchNestParse :=
  match frame with
  | .finite parent => finiteNestPopParent src st parent rest node cursor
  | .scalar parent => scalarNestPopParent src st parent rest node cursor
  | .expr parent => exprNestResume st parent rest node cursor

/-- The frame of an arm. -/
def MatchNestFrame.isArm : MatchNestFrame → Bool
  | .expr _ => false
  | _ => true

theorem popFrame_embed {st : MatchNestParse} {frame : MatchNestFrame} {rest below : List MatchNestFrame}
    {node value : Expr} {cursor : Nat} (h : (popFrame src st frame rest value cursor).stopped = false) :
    popFrame src (embed below node st) frame (rest ++ below) value cursor =
      embed below node (popFrame src st frame rest value cursor) := by
  cases frame with
  | finite parent =>
      simp only [popFrame, finiteNestPopParent] at h ⊢
      split at h
      · cases h
      · rename_i hd
        rw [if_neg hd, if_neg hd]
        rfl
  | scalar parent =>
      simp only [popFrame, scalarNestPopParent] at h ⊢
      split at h
      · cases h
      · rename_i hd
        rw [if_neg hd, if_neg hd]
        rfl
  | expr parent => rfl

theorem matchNestPop_embed {st : MatchNestParse} {below : List MatchNestFrame} {node value : Expr} {cursor : Nat}
    (h : (matchNestPop src st value cursor).stopped = false) :
    matchNestPop src (embed below node st) value cursor = embed below node (matchNestPop src st value cursor) := by
  have hcons : ∀ frame rest, st.stack = frame :: rest →
      matchNestPop src st value cursor = popFrame src st frame rest value cursor ∧
      matchNestPop src (embed below node st) value cursor =
        popFrame src (embed below node st) frame (rest ++ below) value cursor := by
    intro frame rest hst
    simp only [matchNestPop, embed, hst, List.cons_append]
    cases frame <;> exact ⟨rfl, rfl⟩
  cases hst : st.stack with
  | nil =>
      simp [matchNestPop, hst, MatchNestParse.stopped] at h
  | cons frame rest =>
      obtain ⟨h1, h2⟩ := hcons frame rest hst
      rw [h1] at h ⊢
      rw [h2]
      exact popFrame_embed h

/-! ## Scans of arms

A scan fails, closes, or reads the value of an arm; the nested machine does one of the three on the scan on top of it.
-/

inductive ScanAct where
  | fail (errStart errStop : Nat)
  | close (node : Expr) (cursor : Nat)
  | read (frame : MatchNestFrame) (cursor : Nat)

/-- A state of the nested machine that has not stopped. -/
def nestAt (top : MatchNestTop) (stack : List MatchNestFrame) (node : Expr) (cursor : Nat) : MatchNestParse :=
  { top := top, stack := stack, ok := true, done := false, errStart := 0, errStop := 0, node := node, nodeOk := false
    cursor := cursor }

def failAt (st : MatchNestParse) (errStart errStop : Nat) : MatchNestParse :=
  { st with ok := false, errStart := errStart, errStop := errStop }

/-- What the nested machine does. -/
def ScanAct.apply (src : Source) (profile013 : Bool) (st : MatchNestParse) : ScanAct → MatchNestParse
  | .fail errStart errStop => failAt st errStart errStop
  | .close node cursor => matchNestPop src st node cursor
  | .read frame cursor => nestAt (.exprTop (nestExprSeed cursor profile013)) (frame :: st.stack) st.node cursor

/-- A loop over arms in ordinary position, with the top it is in the nested machine. -/
structure ArmLoop (σ : Type) where
  step : σ → σ
  ok : σ → Bool
  done : σ → Bool
  errStart : σ → Nat
  errStop : σ → Nat
  cursor : σ → Nat
  node : σ → Expr
  top : σ → MatchNestTop

/-- What the loop does, where the nested machine does `act`. -/
inductive ArmLoop.Follows {σ : Type} (loop : ArmLoop σ) (src : Source) (readValue : Nat → Bool → ExprParse)
    (profile013 : Bool) (s : σ) : ScanAct → Prop
  | fail {a b} (hok : loop.ok (loop.step s) = false) (ha : loop.errStart (loop.step s) = a)
      (hb : loop.errStop (loop.step s) = b) : Follows loop src readValue profile013 s (.fail a b)
  | close {node cursor} (hok : loop.ok (loop.step s) = true) (hdone : loop.done (loop.step s) = true)
      (hnode : loop.node (loop.step s) = node) (hcursor : loop.cursor (loop.step s) = cursor) :
      Follows loop src readValue profile013 s (.close node cursor)
  | readFails {frame c} (harm : frame.isArm = true) (hv : (readValue c profile013).ok = false)
      (hok : loop.ok (loop.step s) = false) (ha : loop.errStart (loop.step s) = (readValue c profile013).errStart)
      (hb : loop.errStop (loop.step s) = (readValue c profile013).errStop) :
      Follows loop src readValue profile013 s (.read frame c)
  | delimiterFails {frame c} (harm : frame.isArm = true) (hv : (readValue c profile013).ok = true)
      (hok : loop.ok (loop.step s) = false)
      (hpop : ∀ st rest, popFrame src st frame rest (readValue c profile013).node (readValue c profile013).cursor =
        failAt st (loop.errStart (loop.step s)) (loop.errStop (loop.step s))) :
      Follows loop src readValue profile013 s (.read frame c)
  | continues {frame c} (harm : frame.isArm = true) (hv : (readValue c profile013).ok = true)
      (hok : loop.ok (loop.step s) = true) (hdone : loop.done (loop.step s) = false)
      (hpop : ∀ st rest, popFrame src st frame rest (readValue c profile013).node (readValue c profile013).cursor =
        nestAt (loop.top (loop.step s)) rest st.node (loop.cursor (loop.step s))) :
      Follows loop src readValue profile013 s (.read frame c)

/-- The loop and the nested machine go together. -/
structure ArmLoop.Lockstep {σ : Type} (loop : ArmLoop σ) (src : Source) (readValue : Nat → Bool → ExprParse)
    (profile013 : Bool) (inv : σ → Prop) : Prop where
  keeps : ∀ s, inv s → inv (loop.step s)
  stays : ∀ s, (!loop.ok s || loop.done s) = true → loop.step s = s
  acts : ∀ s, inv s → loop.ok s = true → loop.done s = false → ∃ act : ScanAct,
    (∀ st : MatchNestParse, st.top = loop.top s → st.stopped = false →
      matchNestStep src st = act.apply src profile013 st) ∧ loop.Follows src readValue profile013 s act

/-- The arms of a finite match. -/
def finiteLoop (src : Source) (readValue : Nat → Bool → ExprParse) (subject : Expr) (matchStart : Nat) :
    ArmLoop FiniteMatchScan where
  step := finiteMatchArmStepBy src readValue
  ok := FiniteMatchScan.ok
  done := FiniteMatchScan.done
  errStart := FiniteMatchScan.errStart
  errStop := FiniteMatchScan.errStop
  cursor := FiniteMatchScan.cursor
  node scan :=
    .finiteMatch subject (reverseFiniteMatchArms scan.arms) matchStart (matchCloseStop src scan.cursor)
  top scan := .finiteTop scan subject matchStart

/-- The arms of a scalar match. -/
def scalarLoop (src : Source) (readValue : Nat → Bool → ExprParse) (subject : Expr) (matchStart : Nat) :
    ArmLoop MatchScan where
  step := scalarMatchArmStepBy src readValue
  ok := MatchScan.ok
  done := MatchScan.done
  errStart := MatchScan.errStart
  errStop := MatchScan.errStop
  cursor := MatchScan.cursor
  node scan :=
    .scalarMatch subject (reverseScalarMatchArms scan.arms) matchStart (matchCloseStop src scan.cursor)
  top scan := .scalarTop scan subject matchStart

theorem finiteLoop_lockstep (src : Source) (readValue : Nat → Bool → ExprParse) (subject : Expr)
    (matchStart : Nat) (profile013 : Bool) :
    (finiteLoop src readValue subject matchStart).Lockstep src readValue profile013 (·.profile013 = profile013) := by
  constructor
  · intro s hs
    show (finiteMatchArmStepBy src readValue s).profile013 = profile013
    unfold finiteMatchArmStepBy
    dsimp only
    repeat' split
    all_goals exact hs
  · intro s hs
    exact if_pos hs
  · intro s hs hok hdone
    have hs' : s.profile013 = profile013 := hs
    subst hs'
    have hrun : ¬ (!s.ok || s.done) = true := by
      have h1 : s.ok = true := hok
      have h2 : s.done = false := hdone
      simp [h1, h2]
    have hsok : ¬ (!s.ok) = true := by
      have h1 : s.ok = true := hok
      simp [h1]
    have hnest : ∀ st : MatchNestParse, st.top = .finiteTop s subject matchStart → st.stopped = false →
        matchNestStep src st = finiteNestStep src st s subject matchStart := by
      intro st htop hst
      unfold matchNestStep
      rw [if_neg (by rw [MatchNestParse.stopped] at hst; rw [hst]; exact Bool.false_ne_true), htop]
    by_cases hd : (src.token s.cursor).diagnostic ≠ 0
    · have harm : finiteMatchArmStepBy src readValue s = { s with ok := false, errStart := (src.token s.cursor).start, errStop := (src.token s.cursor).stop } := by
        rw [finiteMatchArmStepBy, if_neg hrun, if_pos hd]
      refine ⟨.fail (src.token s.cursor).start (src.token s.cursor).stop, fun st htop hst => ?_, ?_⟩
      · rw [hnest st htop hst, finiteNestStep, if_neg hsok, if_pos hd]
        rfl
      · exact .fail (congrArg FiniteMatchScan.ok harm) (congrArg FiniteMatchScan.errStart harm)
          (congrArg FiniteMatchScan.errStop harm)
    by_cases hk : (src.token s.cursor).kind = 68
    · have harm : finiteMatchArmStepBy src readValue s = { s with done := true, cursor := (src.token s.cursor).stop, stop := (src.token s.cursor).stop } := by
        rw [finiteMatchArmStepBy, if_neg hrun, if_neg hd, if_pos hk]
      refine ⟨.close ((finiteLoop src readValue subject matchStart).node (finiteMatchArmStepBy src readValue s))
        (src.token s.cursor).stop, fun st htop hst => ?_, ?_⟩
      · rw [hnest st htop hst, finiteNestStep, if_neg hsok, if_neg hd, if_pos hk, harm]
        rfl
      · exact .close ((congrArg FiniteMatchScan.ok harm).trans hok) (congrArg FiniteMatchScan.done harm) rfl
          (congrArg FiniteMatchScan.cursor harm)
    -- a pattern and its arrow
    obtain ⟨pattern, hpattern⟩ : ∃ pattern, finiteMatchPattern src s.profile006 s.profile009 s.profile013 (src.token s.cursor) = pattern := ⟨_, rfl⟩
    by_cases hp : (!pattern.ok) = true
    · have harm : finiteMatchArmStepBy src readValue s = { s with ok := false, errStart := pattern.start, errStop := pattern.stop } := by
        rw [finiteMatchArmStepBy, if_neg hrun, if_neg hd, if_neg hk, hpattern, if_pos hp]
      refine ⟨.fail pattern.start pattern.stop, fun st htop hst => ?_, ?_⟩
      · rw [hnest st htop hst, finiteNestStep, if_neg hsok, if_neg hd, if_neg hk, hpattern, if_pos hp]
        rfl
      · exact .fail (congrArg FiniteMatchScan.ok harm) (congrArg FiniteMatchScan.errStart harm)
          (congrArg FiniteMatchScan.errStop harm)
    by_cases ha : ((src.token pattern.cursor).diagnostic ≠ 0 || (src.token pattern.cursor).kind ≠ 81) = true
    · have harm : finiteMatchArmStepBy src readValue s =
          { s with ok := false, errStart := (src.token pattern.cursor).start, errStop := (src.token pattern.cursor).stop } := by
        rw [finiteMatchArmStepBy, if_neg hrun, if_neg hd, if_neg hk, hpattern, if_neg hp, if_pos ha]
      refine ⟨.fail (src.token pattern.cursor).start (src.token pattern.cursor).stop, fun st htop hst => ?_, ?_⟩
      · rw [hnest st htop hst, finiteNestStep, if_neg hsok, if_neg hd, if_neg hk, hpattern, if_neg hp, if_pos ha]
        rfl
      · exact .fail (congrArg FiniteMatchScan.ok harm) (congrArg FiniteMatchScan.errStart harm)
          (congrArg FiniteMatchScan.errStop harm)
    -- the value and the delimiter behind it
    refine ⟨.read
      (.finite { scan := s, subject := subject, matchStart := matchStart, pattern := pattern.pattern })
      (src.token pattern.cursor).stop, fun st htop hst => ?_, ?_⟩
    · rw [hnest st htop hst, finiteNestStep, if_neg hsok, if_neg hd, if_neg hk, hpattern, if_neg hp, if_neg ha]
      rfl
    obtain ⟨value, hvalue⟩ : ∃ value, readValue (src.token pattern.cursor).stop s.profile013 = value := ⟨_, rfl⟩
    by_cases hv : (!value.ok) = true
    · have harm : finiteMatchArmStepBy src readValue s = { s with ok := false, errStart := value.errStart, errStop := value.errStop } := by
        rw [finiteMatchArmStepBy, if_neg hrun, if_neg hd, if_neg hk, hpattern, if_neg hp, if_neg ha, hvalue, if_pos hv]
      refine .readFails rfl (by rw [hvalue]; simpa using hv) (congrArg FiniteMatchScan.ok harm) ?_ ?_
      · rw [hvalue]
        exact congrArg FiniteMatchScan.errStart harm
      · rw [hvalue]
        exact congrArg FiniteMatchScan.errStop harm
    have hvok : value.ok = true := by simpa using hv
    by_cases hdl : ((src.token value.cursor).diagnostic ≠ 0 || (src.token value.cursor).kind ≠ 64 &&
        (src.token value.cursor).kind ≠ 68) = true
    · have harm : finiteMatchArmStepBy src readValue s =
          { s with ok := false, errStart := (src.token value.cursor).start, errStop := (src.token value.cursor).stop } := by
        rw [finiteMatchArmStepBy, if_neg hrun, if_neg hd, if_neg hk, hpattern, if_neg hp, if_neg ha, hvalue, if_neg hv,
          if_pos hdl]
      refine .delimiterFails rfl (by rw [hvalue, hvok]) (congrArg FiniteMatchScan.ok harm) fun st rest => ?_
      rw [hvalue, popFrame, finiteNestPopParent, if_pos hdl]
      exact (congrArg (fun scan : FiniteMatchScan => failAt st scan.errStart scan.errStop) harm).symm
    · have harm : finiteMatchArmStepBy src readValue s =
          { s with
            cursor := if (src.token value.cursor).kind = 64 then (src.token value.cursor).stop else value.cursor
            stop := (src.token value.cursor).start
            arms := .mk pattern.pattern value.node :: s.arms } := by
        rw [finiteMatchArmStepBy, if_neg hrun, if_neg hd, if_neg hk, hpattern, if_neg hp, if_neg ha, hvalue, if_neg hv,
          if_neg hdl]
      refine .continues rfl (by rw [hvalue, hvok]) ((congrArg FiniteMatchScan.ok harm).trans hok)
        ((congrArg FiniteMatchScan.done harm).trans hdone) fun st rest => ?_
      rw [hvalue, popFrame, finiteNestPopParent, if_neg hdl]
      exact (congrArg (fun scan : FiniteMatchScan =>
        nestAt (.finiteTop scan subject matchStart) rest st.node scan.cursor) harm).symm

theorem scalarLoop_lockstep (src : Source) (readValue : Nat → Bool → ExprParse) (subject : Expr)
    (matchStart : Nat) (profile013 : Bool) :
    (scalarLoop src readValue subject matchStart).Lockstep src readValue profile013 (·.profile013 = profile013) := by
  constructor
  · intro s hs
    show (scalarMatchArmStepBy src readValue s).profile013 = profile013
    unfold scalarMatchArmStepBy
    dsimp only
    repeat' split
    all_goals exact hs
  · intro s hs
    exact if_pos hs
  · intro s hs hok hdone
    have hs' : s.profile013 = profile013 := hs
    subst hs'
    have hrun : ¬ (!s.ok || s.done) = true := by
      have h1 : s.ok = true := hok
      have h2 : s.done = false := hdone
      simp [h1, h2]
    have hsok : ¬ (!s.ok) = true := by
      have h1 : s.ok = true := hok
      simp [h1]
    have hnest : ∀ st : MatchNestParse, st.top = .scalarTop s subject matchStart → st.stopped = false →
        matchNestStep src st = scalarNestStep src st s subject matchStart := by
      intro st htop hst
      unfold matchNestStep
      rw [if_neg (by rw [MatchNestParse.stopped] at hst; rw [hst]; exact Bool.false_ne_true), htop]
    by_cases hd : (src.token s.cursor).diagnostic ≠ 0
    · have harm : scalarMatchArmStepBy src readValue s = { s with ok := false, errStart := (src.token s.cursor).start, errStop := (src.token s.cursor).stop } := by
        rw [scalarMatchArmStepBy, if_neg hrun, if_pos hd]
      refine ⟨.fail (src.token s.cursor).start (src.token s.cursor).stop, fun st htop hst => ?_, ?_⟩
      · rw [hnest st htop hst, scalarNestStep, if_neg hsok, if_pos hd]
        rfl
      · exact .fail (congrArg MatchScan.ok harm) (congrArg MatchScan.errStart harm)
          (congrArg MatchScan.errStop harm)
    by_cases hk : (src.token s.cursor).kind = 68
    · have harm : scalarMatchArmStepBy src readValue s = { s with done := true, cursor := (src.token s.cursor).stop, stop := (src.token s.cursor).stop } := by
        rw [scalarMatchArmStepBy, if_neg hrun, if_neg hd, if_pos hk]
      refine ⟨.close ((scalarLoop src readValue subject matchStart).node (scalarMatchArmStepBy src readValue s))
        (src.token s.cursor).stop, fun st htop hst => ?_, ?_⟩
      · rw [hnest st htop hst, scalarNestStep, if_neg hsok, if_neg hd, if_pos hk, harm]
        rfl
      · exact .close ((congrArg MatchScan.ok harm).trans hok) (congrArg MatchScan.done harm) rfl
          (congrArg MatchScan.cursor harm)
    -- a pattern and its arrow
    obtain ⟨pattern, hpattern⟩ : ∃ pattern, scalarMatchPattern src (src.token s.cursor) = pattern := ⟨_, rfl⟩
    by_cases hp : (!pattern.ok) = true
    · have harm : scalarMatchArmStepBy src readValue s = { s with ok := false, errStart := pattern.start, errStop := pattern.stop } := by
        rw [scalarMatchArmStepBy, if_neg hrun, if_neg hd, if_neg hk, hpattern, if_pos hp]
      refine ⟨.fail pattern.start pattern.stop, fun st htop hst => ?_, ?_⟩
      · rw [hnest st htop hst, scalarNestStep, if_neg hsok, if_neg hd, if_neg hk, hpattern, if_pos hp]
        rfl
      · exact .fail (congrArg MatchScan.ok harm) (congrArg MatchScan.errStart harm)
          (congrArg MatchScan.errStop harm)
    by_cases ha : ((src.token pattern.cursor).diagnostic ≠ 0 || (src.token pattern.cursor).kind ≠ 81) = true
    · have harm : scalarMatchArmStepBy src readValue s =
          { s with ok := false, errStart := (src.token pattern.cursor).start, errStop := (src.token pattern.cursor).stop } := by
        rw [scalarMatchArmStepBy, if_neg hrun, if_neg hd, if_neg hk, hpattern, if_neg hp, if_pos ha]
      refine ⟨.fail (src.token pattern.cursor).start (src.token pattern.cursor).stop, fun st htop hst => ?_, ?_⟩
      · rw [hnest st htop hst, scalarNestStep, if_neg hsok, if_neg hd, if_neg hk, hpattern, if_neg hp, if_pos ha]
        rfl
      · exact .fail (congrArg MatchScan.ok harm) (congrArg MatchScan.errStart harm)
          (congrArg MatchScan.errStop harm)
    -- the value and the delimiter behind it
    refine ⟨.read
      (.scalar { scan := s, subject := subject, matchStart := matchStart, isDefault := pattern.isDefault
                 negative := pattern.negative, value := pattern.value, overflow := pattern.overflow
                 patternStart := pattern.start, patternStop := pattern.stop })
      (src.token pattern.cursor).stop, fun st htop hst => ?_, ?_⟩
    · rw [hnest st htop hst, scalarNestStep, if_neg hsok, if_neg hd, if_neg hk, hpattern, if_neg hp, if_neg ha]
      rfl
    obtain ⟨value, hvalue⟩ : ∃ value, readValue (src.token pattern.cursor).stop s.profile013 = value := ⟨_, rfl⟩
    by_cases hv : (!value.ok) = true
    · have harm : scalarMatchArmStepBy src readValue s = { s with ok := false, errStart := value.errStart, errStop := value.errStop } := by
        rw [scalarMatchArmStepBy, if_neg hrun, if_neg hd, if_neg hk, hpattern, if_neg hp, if_neg ha, hvalue, if_pos hv]
      refine .readFails rfl (by rw [hvalue]; simpa using hv) (congrArg MatchScan.ok harm) ?_ ?_
      · rw [hvalue]
        exact congrArg MatchScan.errStart harm
      · rw [hvalue]
        exact congrArg MatchScan.errStop harm
    have hvok : value.ok = true := by simpa using hv
    by_cases hdl : ((src.token value.cursor).diagnostic ≠ 0 || (src.token value.cursor).kind ≠ 64 &&
        (src.token value.cursor).kind ≠ 68) = true
    · have harm : scalarMatchArmStepBy src readValue s =
          { s with ok := false, errStart := (src.token value.cursor).start, errStop := (src.token value.cursor).stop } := by
        rw [scalarMatchArmStepBy, if_neg hrun, if_neg hd, if_neg hk, hpattern, if_neg hp, if_neg ha, hvalue, if_neg hv,
          if_pos hdl]
      refine .delimiterFails rfl (by rw [hvalue, hvok]) (congrArg MatchScan.ok harm) fun st rest => ?_
      rw [hvalue, popFrame, scalarNestPopParent, if_pos hdl]
      exact (congrArg (fun scan : MatchScan => failAt st scan.errStart scan.errStop) harm).symm
    · have harm : scalarMatchArmStepBy src readValue s =
          { s with
            cursor := if (src.token value.cursor).kind = 64 then (src.token value.cursor).stop else value.cursor
            stop := (src.token value.cursor).start
            arms := .mk pattern.isDefault pattern.negative pattern.value pattern.overflow pattern.start pattern.stop
              value.node :: s.arms } := by
        rw [scalarMatchArmStepBy, if_neg hrun, if_neg hd, if_neg hk, hpattern, if_neg hp, if_neg ha, hvalue, if_neg hv,
          if_neg hdl]
      refine .continues rfl (by rw [hvalue, hvok]) ((congrArg MatchScan.ok harm).trans hok)
        ((congrArg MatchScan.done harm).trans hdone) fun st rest => ?_
      rw [hvalue, popFrame, scalarNestPopParent, if_neg hdl]
      exact (congrArg (fun scan : MatchScan =>
        nestAt (.scalarTop scan subject matchStart) rest st.node scan.cursor) harm).symm

/-! ## Steps above a frame -/

/-- What a step of the nested machine does to its stack. -/
inductive NestAct where
  | fail (errStart errStop : Nat)
  | close (node : Expr) (cursor : Nat)
  | give (node : Expr) (cursor : Nat)
  | advance (top : MatchNestTop) (cursor : Nat)
  | push (top : MatchNestTop) (frame : MatchNestFrame) (cursor : Nat)

def NestAct.apply (src : Source) (st : MatchNestParse) : NestAct → MatchNestParse
  | .fail errStart errStop => failAt st errStart errStop
  | .close node cursor => matchNestPop src st node cursor
  | .give node cursor =>
      match st.stack with
      | .expr _ :: _ => failAt st cursor cursor
      | _ => matchNestPop src st node cursor
  | .advance top cursor => { st with top := top, cursor := cursor }
  | .push top frame cursor => nestAt top (frame :: st.stack) st.node cursor

theorem finiteNestStep_act (src : Source) (scan : FiniteMatchScan) (subject : Expr) (matchStart : Nat) :
    ∃ act : NestAct, ∀ st, finiteNestStep src st scan subject matchStart = act.apply src st := by
  unfold finiteNestStep
  dsimp only
  split
  · exact ⟨.fail _ _, fun _ => rfl⟩
  split
  · exact ⟨.fail _ _, fun _ => rfl⟩
  split
  · exact ⟨.close _ _, fun _ => rfl⟩
  split
  · exact ⟨.fail _ _, fun _ => rfl⟩
  split
  · exact ⟨.fail _ _, fun _ => rfl⟩
  · exact ⟨.push _ _ _, fun _ => rfl⟩

theorem scalarNestStep_act (src : Source) (scan : MatchScan) (subject : Expr) (matchStart : Nat) :
    ∃ act : NestAct, ∀ st, scalarNestStep src st scan subject matchStart = act.apply src st := by
  unfold scalarNestStep
  dsimp only
  split
  · exact ⟨.fail _ _, fun _ => rfl⟩
  split
  · exact ⟨.fail _ _, fun _ => rfl⟩
  split
  · exact ⟨.close _ _, fun _ => rfl⟩
  split
  · exact ⟨.fail _ _, fun _ => rfl⟩
  split
  · exact ⟨.fail _ _, fun _ => rfl⟩
  · exact ⟨.push _ _ _, fun _ => rfl⟩

theorem exprNestStep_act (src : Source) (est : ExprState) :
    ∃ act : NestAct, ∀ st, exprNestStep src st est = act.apply src st := by
  unfold exprNestStep
  dsimp only
  split
  · unfold exprNestDone
    dsimp only
    split
    · exact ⟨.fail _ _, fun _ => rfl⟩
    · refine ⟨.give (finishExpr src est).node (finishExpr src est).cursor, fun st => ?_⟩
      cases hstack : st.stack with
      | nil => simp only [NestAct.apply, matchNestPop, hstack]
      | cons frame rest => cases frame <;> simp only [NestAct.apply, matchNestPop, hstack, failAt]
  split
  · unfold exprNestPushMatch
    dsimp only
    split
    · exact ⟨.fail _ _, fun _ => rfl⟩
    split
    · exact ⟨.push _ _ _, fun _ => rfl⟩
    · exact ⟨.push _ _ _, fun _ => rfl⟩
  · exact ⟨.advance _ _, fun _ => rfl⟩

/-- **A step depends on the top of the machine** and does one of five things to the rest. -/
theorem matchNestStep_act (src : Source) (top : MatchNestTop) :
    ∃ act : NestAct, ∀ st : MatchNestParse, st.top = top → st.stopped = false →
      matchNestStep src st = act.apply src st := by
  have hrunning : ∀ st : MatchNestParse, st.stopped = false → ¬(!st.ok || st.done) = true := by
    intro st hst
    rw [MatchNestParse.stopped] at hst
    rw [hst]
    exact Bool.false_ne_true
  cases top with
  | finiteTop scan subject ms =>
      obtain ⟨act, hact⟩ := finiteNestStep_act src scan subject ms
      refine ⟨act, fun st htop hst => ?_⟩
      rw [matchNestStep, if_neg (hrunning st hst), htop]
      exact hact st
  | scalarTop scan subject ms =>
      obtain ⟨act, hact⟩ := scalarNestStep_act src scan subject ms
      refine ⟨act, fun st htop hst => ?_⟩
      rw [matchNestStep, if_neg (hrunning st hst), htop]
      exact hact st
  | exprTop est =>
      obtain ⟨act, hact⟩ := exprNestStep_act src est
      refine ⟨act, fun st htop hst => ?_⟩
      rw [matchNestStep, if_neg (hrunning st hst), htop]
      exact hact st

/-- A finished expression is handed to the frame of an arm. -/
theorem give_apply {st : MatchNestParse} {frame : MatchNestFrame} {rest : List MatchNestFrame} {value : Expr}
    {cursor : Nat} (harm : frame.isArm = true) (hstack : st.stack = frame :: rest) :
    (NestAct.give value cursor).apply src st = matchNestPop src st value cursor := by
  cases frame with
  | expr parent => cases harm
  | finite parent => simp only [NestAct.apply, hstack]
  | scalar parent => simp only [NestAct.apply, hstack]

theorem matchNestPop_cons {st : MatchNestParse} {frame : MatchNestFrame} {rest : List MatchNestFrame} {value : Expr}
    {cursor : Nat} (hstack : st.stack = frame :: rest) :
    matchNestPop src st value cursor = popFrame src st frame rest value cursor := by
  cases frame <;> simp only [matchNestPop, popFrame, hstack]

theorem embed_stopped {st : MatchNestParse} {below : List MatchNestFrame} {node : Expr} :
    (embed below node st).stopped = st.stopped := rfl

theorem matchNestStep_embed {below : List MatchNestFrame} {node : Expr} (st : MatchNestParse)
    (hst : st.stopped = false) (h : (matchNestStep src st).stopped = false) :
    matchNestStep src (embed below node st) = embed below node (matchNestStep src st) := by
  obtain ⟨act, hact⟩ := matchNestStep_act src st.top
  have hbelow : matchNestStep src (embed below node st) = act.apply src (embed below node st) :=
    hact _ rfl hst
  rw [hact st rfl hst] at h ⊢
  rw [hbelow]
  cases act with
  | fail a b => cases h
  | close value cursor => exact matchNestPop_embed h
  | give value cursor =>
      cases hstack : st.stack with
      | nil => simp [NestAct.apply, hstack, matchNestPop, MatchNestParse.stopped] at h
      | cons frame rest =>
          by_cases harm : frame.isArm = true
          · have hstack' : (embed below node st).stack = frame :: (rest ++ below) := by
              rw [embed, hstack]
              rfl
            rw [give_apply harm hstack] at h ⊢
            rw [give_apply harm hstack']
            exact matchNestPop_embed h
          · cases frame with
            | expr parent => simp [NestAct.apply, hstack, MatchNestParse.stopped, failAt] at h
            | finite parent => exact absurd rfl harm
            | scalar parent => exact absurd rfl harm
  | advance top cursor => rfl
  | push top frame cursor => rfl

/-- A frame that stops the machine refuses the delimiter behind the value, whatever is below. -/
theorem popFrame_stopped {st : MatchNestParse} {frame : MatchNestFrame} {rest : List MatchNestFrame} {value : Expr}
    {cursor : Nat} (hst : (popFrame src st frame rest value cursor).stopped = true) :
    (popFrame src st frame rest value cursor).ok = false ∧ ∀ st' rest',
      popFrame src st' frame rest' value cursor = failAt st' (popFrame src st frame rest value cursor).errStart
        (popFrame src st frame rest value cursor).errStop := by
  cases frame with
  | expr parent => cases hst
  | finite parent =>
      simp only [popFrame, finiteNestPopParent] at hst ⊢
      split at hst
      · rename_i hd
        simp only [if_pos hd]
        exact ⟨trivial, fun _ _ => rfl⟩
      · cases hst
  | scalar parent =>
      simp only [popFrame, scalarNestPopParent] at hst ⊢
      split at hst
      · rename_i hd
        simp only [if_pos hd]
        exact ⟨trivial, fun _ _ => rfl⟩
      · cases hst

/-- The step that stops the machine, above the frame of an arm: the same failure, or the value for the frame. -/
theorem matchNestStep_last {frame : MatchNestFrame} (rest : List MatchNestFrame) (node : Expr) (st : MatchNestParse)
    (harm : frame.isArm = true) (hst : st.stopped = false) (h : (matchNestStep src st).stopped = true) :
    ((matchNestStep src st).ok = false ∧
        matchNestStep src (embed (frame :: rest) node st) =
          failAt (embed (frame :: rest) node st) (matchNestStep src st).errStart (matchNestStep src st).errStop) ∨
      ((matchNestStep src st).ok = true ∧ (matchNestStep src st).done = true ∧ (matchNestStep src st).nodeOk = true ∧
        matchNestStep src (embed (frame :: rest) node st) =
          popFrame src (embed (frame :: rest) node st) frame rest (matchNestStep src st).node
            (matchNestStep src st).cursor) := by
  obtain ⟨act, hact⟩ := matchNestStep_act src st.top
  have hbelow : matchNestStep src (embed (frame :: rest) node st) = act.apply src (embed (frame :: rest) node st) :=
    hact _ rfl hst
  have hok : st.ok = true := by
    simp [MatchNestParse.stopped] at hst
    exact hst.1
  rw [hact st rfl hst] at h ⊢
  rw [hbelow]
  -- a value handed down: to a frame of the inner stack, or to the frame below it
  have hpop : ∀ value cursor, (matchNestPop src st value cursor).stopped = true →
      ((matchNestPop src st value cursor).ok = false ∧
          matchNestPop src (embed (frame :: rest) node st) value cursor =
            failAt (embed (frame :: rest) node st) (matchNestPop src st value cursor).errStart
              (matchNestPop src st value cursor).errStop) ∨
        ((matchNestPop src st value cursor).ok = true ∧ (matchNestPop src st value cursor).done = true ∧
          (matchNestPop src st value cursor).nodeOk = true ∧
          matchNestPop src (embed (frame :: rest) node st) value cursor =
            popFrame src (embed (frame :: rest) node st) frame rest (matchNestPop src st value cursor).node
              (matchNestPop src st value cursor).cursor) := by
    intro value cursor hstop
    cases hstack : st.stack with
    | nil =>
        have hinner : matchNestPop src st value cursor =
            { st with done := true, node := value, nodeOk := true, cursor := cursor } := by
          simp only [matchNestPop, hstack]
        have houter : (embed (frame :: rest) node st).stack = frame :: rest := by
          rw [embed, hstack]
          rfl
        rw [hinner, matchNestPop_cons houter]
        exact .inr ⟨hok, rfl, rfl, rfl⟩
    | cons inner more =>
        have houter : (embed (frame :: rest) node st).stack = inner :: (more ++ frame :: rest) := by
          rw [embed, hstack]
          rfl
        rw [matchNestPop_cons hstack] at hstop ⊢
        rw [matchNestPop_cons houter]
        obtain ⟨hfail, hall⟩ := popFrame_stopped hstop
        exact .inl ⟨hfail, hall _ _⟩
  cases act with
  | fail a b => exact .inl ⟨rfl, rfl⟩
  | close value cursor => exact hpop value cursor h
  | give value cursor =>
      cases hstack : st.stack with
      | nil =>
          have houter : (embed (frame :: rest) node st).stack = frame :: rest := by
            rw [embed, hstack]
            rfl
          have hinner : (NestAct.give value cursor).apply src st = matchNestPop src st value cursor := by
            simp only [NestAct.apply, hstack]
          rw [hinner] at h ⊢
          rw [give_apply harm houter]
          exact hpop value cursor h
      | cons inner more =>
          have houter : (embed (frame :: rest) node st).stack = inner :: (more ++ frame :: rest) := by
            rw [embed, hstack]
            rfl
          by_cases hin : inner.isArm = true
          · rw [give_apply hin hstack] at h ⊢
            rw [give_apply hin houter]
            exact hpop value cursor h
          · cases inner with
            | expr parent =>
                simp only [NestAct.apply, hstack, houter]
                exact .inl ⟨rfl, rfl⟩
            | finite parent => exact absurd rfl hin
            | scalar parent => exact absurd rfl hin
  | advance top cursor => exact absurd (hst.symm.trans h) Bool.false_ne_true
  | push top frame cursor => cases h

/-! ## The run of an arm -/

/-- A step that accepts hands its value to nobody; at an expression, the expression is complete. -/
theorem matchNestStep_accepts {st : MatchNestParse} (hst : st.stopped = false) (hok : (matchNestStep src st).ok = true)
    (hdone : (matchNestStep src st).done = true) :
    st.stack = [] ∧ ∀ est, st.top = .exprTop est → (!est.ok || est.done) = true ∧ (finishExpr src est).ok = true := by
  have hpop : ∀ value cursor, (matchNestPop src st value cursor).ok = true →
      (matchNestPop src st value cursor).done = true → st.stack = [] := by
    intro value cursor h1 h2
    cases hstack : st.stack with
    | nil => rfl
    | cons frame rest =>
        rw [matchNestPop_cons hstack] at h1 h2
        have hstop : (popFrame src st frame rest value cursor).stopped = true := by
          rw [MatchNestParse.stopped, h2, Bool.or_true]
        have hfail := (popFrame_stopped hstop).1
        rw [h1] at hfail
        cases hfail
  have hrun : st.done = false := by
    simp [MatchNestParse.stopped] at hst
    exact hst.2
  constructor
  · obtain ⟨act, hact⟩ := matchNestStep_act src st.top
    rw [hact st rfl hst] at hok hdone
    cases act with
    | fail a b => cases hok
    | close value cursor => exact hpop value cursor hok hdone
    | give value cursor =>
        cases hstack : st.stack with
        | nil => rfl
        | cons frame rest =>
            by_cases harm : frame.isArm = true
            · rw [give_apply harm hstack] at hok hdone
              exact hstack.symm.trans (hpop value cursor hok hdone)
            · cases frame with
              | expr parent => simp [NestAct.apply, hstack, failAt] at hok
              | finite parent => exact absurd rfl harm
              | scalar parent => exact absurd rfl harm
    | advance top cursor => exact absurd (hrun.symm.trans hdone) Bool.false_ne_true
    | push top frame cursor => cases hdone
  · intro est htop
    unfold matchNestStep at hok hdone
    have hnot : ¬ (!st.ok || st.done) = true := by
      rw [MatchNestParse.stopped] at hst
      rw [hst]
      exact Bool.false_ne_true
    rw [if_neg hnot, htop] at hok hdone
    simp only [exprNestStep] at hok hdone
    split at hok
    · rename_i hstop
      rw [if_pos hstop] at hdone
      refine ⟨hstop, ?_⟩
      simp only [exprNestDone] at hok
      split at hok
      · cases hok
      · rename_i hfin
        simpa using hfin
    · rename_i hstop
      rw [if_neg hstop] at hdone
      split at hdone
      · simp only [exprNestPushMatch] at hdone
        split at hdone
        · exact absurd (hrun.symm.trans hdone) Bool.false_ne_true
        split at hdone
        · cases hdone
        · cases hdone
      · exact absurd (hrun.symm.trans hdone) Bool.false_ne_true

/-- The first step of an arm stays at the expression or opens a match. -/
theorem matchNestStep_seed (src : Source) (cursor : Nat) (profile013 : Bool) :
    (matchNestStep src (nestSeed cursor profile013)).ok = false ∨
      (matchNestStep src (nestSeed cursor profile013)).stack ≠ [] ∨
      (matchNestStep src (nestSeed cursor profile013)).top =
        .exprTop (exprStepWithoutMatch src (nestExprSeed cursor profile013) (src.token cursor)) := by
  have hstep : matchNestStep src (nestSeed cursor profile013) =
      exprNestStep src (nestSeed cursor profile013) (nestExprSeed cursor profile013) := rfl
  rw [hstep]
  unfold exprNestStep
  rw [if_neg (by exact Bool.false_ne_true)]
  dsimp only
  split
  · unfold exprNestPushMatch
    dsimp only
    split
    · exact .inl rfl
    split
    · exact .inr (.inl (List.cons_ne_nil _ _))
    · exact .inr (.inl (List.cons_ne_nil _ _))
  · exact .inr (.inr rfl)

/-- An arm that is accepted takes three steps: an operand, the end of the expression, and the value. -/
theorem three_le_of_accepts {cursor j : Nat} {profile013 : Bool}
    (hfirst : ∀ k, k < j → ((matchNestStep src)^[k] (nestSeed cursor profile013)).stopped = false)
    (hok : ((matchNestStep src)^[j] (nestSeed cursor profile013)).ok = true)
    (hdone : ((matchNestStep src)^[j] (nestSeed cursor profile013)).done = true) : 3 ≤ j := by
  match j with
  | 0 => cases hdone
  | 1 =>
      obtain ⟨-, hest⟩ := matchNestStep_accepts (hfirst 0 (by decide)) hok hdone
      have := (hest (nestExprSeed cursor profile013) rfl).1
      cases this
  | 2 =>
      have hrun1 : (matchNestStep src (nestSeed cursor profile013)).stopped = false := hfirst 1 (by decide)
      obtain ⟨hstack, hest⟩ := matchNestStep_accepts hrun1 hok hdone
      rcases matchNestStep_seed src cursor profile013 with hfail | hpush | htop
      · simp [MatchNestParse.stopped, hfail] at hrun1
      · exact absurd hstack hpush
      · obtain ⟨hstop, hfin⟩ := hest _ htop
        -- an expression that ends at once has no operand
        have hmove : Move src (nestExprSeed cursor profile013) (src.token cursor)
            (exprStepWithoutMatch src (nestExprSeed cursor profile013) (src.token cursor)) :=
          exprStepWithoutMatch_move rfl rfl
        generalize exprStepWithoutMatch src (nestExprSeed cursor profile013) (src.token cursor) = est
          at hmove hstop hfin
        unfold finishExpr at hfin
        dsimp only at hfin
        split at hfin
        · cases hfin
        · rename_i heok
          split at hfin
          · cases hfin
          · rename_i hedone
            have hempty := (hmove.of_done (by simpa using heok) (by simpa using hedone)).2.1
            rw [hempty] at hfin
            cases hfin
  | j + 3 => exact Nat.le_add_left 3 j

/-- **The run of an arm above its frame**: the nested machine does the run of `parse_nest_expr_value` and hands the
    value to the frame, or fails with the same span. -/
theorem arm_run {frame : MatchNestFrame} {rest : List MatchNestFrame} {node : Expr} {cursor k : Nat}
    {profile013 : Bool} (harm : frame.isArm = true)
    (hk : ((matchNestStep src)^[k] (embed (frame :: rest) node (nestSeed cursor profile013))).stopped = true) :
    ∃ j, 0 < j ∧ j ≤ k ∧ ((matchNestStep src)^[j] (nestSeed cursor profile013)).stopped = true ∧
      ((((matchNestStep src)^[j] (nestSeed cursor profile013)).ok = false ∧ ∃ st : MatchNestParse,
          (matchNestStep src)^[j] (embed (frame :: rest) node (nestSeed cursor profile013)) =
            failAt st ((matchNestStep src)^[j] (nestSeed cursor profile013)).errStart
              ((matchNestStep src)^[j] (nestSeed cursor profile013)).errStop) ∨
        (3 ≤ j ∧ ((matchNestStep src)^[j] (nestSeed cursor profile013)).ok = true ∧
          ((matchNestStep src)^[j] (nestSeed cursor profile013)).done = true ∧
          ((matchNestStep src)^[j] (nestSeed cursor profile013)).nodeOk = true ∧
          ∃ st : MatchNestParse, st.node = node ∧
            (matchNestStep src)^[j] (embed (frame :: rest) node (nestSeed cursor profile013)) =
              popFrame src st frame rest ((matchNestStep src)^[j] (nestSeed cursor profile013)).node
                ((matchNestStep src)^[j] (nestSeed cursor profile013)).cursor)) := by
  have hembed : ∀ st : MatchNestParse, st.stopped = false → (matchNestStep src st).stopped = false →
      matchNestStep src (embed (frame :: rest) node st) = embed (frame :: rest) node (matchNestStep src st) :=
    fun st => matchNestStep_embed st
  -- the arm stops alone, since above its frame it has not gone on for ever
  have hstops : ((matchNestStep src)^[k] (nestSeed cursor profile013)).stopped = true := by
    by_contra hnot
    have hrun : ∀ i, i ≤ k → ((matchNestStep src)^[i] (nestSeed cursor profile013)).stopped = false := by
      intro i hi
      by_contra hi'
      exact hnot (by rw [matchNestStep_stays.iterate_of_le hi (by simpa using hi')]; simpa using hi')
    rw [iterate_embed hembed hrun, embed_stopped, hrun k (Nat.le_refl k)] at hk
    cases hk
  obtain ⟨j, hjk, hj, hfirst⟩ := exists_first hstops
  obtain ⟨i, rfl⟩ : ∃ i, j = i + 1 := by
    cases j with
    | zero => cases hj
    | succ i => exact ⟨i, rfl⟩
  have hi : ((matchNestStep src)^[i] (nestSeed cursor profile013)).stopped = false := hfirst i (Nat.lt_succ_self i)
  have hbefore : (matchNestStep src)^[i] (embed (frame :: rest) node (nestSeed cursor profile013)) =
      embed (frame :: rest) node ((matchNestStep src)^[i] (nestSeed cursor profile013)) :=
    iterate_embed hembed fun m hm => hfirst m (Nat.lt_succ_of_le hm)
  have hlast : ((matchNestStep src)^[i + 1] (nestSeed cursor profile013)) =
      matchNestStep src ((matchNestStep src)^[i] (nestSeed cursor profile013)) := Function.iterate_succ_apply' _ _ _
  have houter : (matchNestStep src)^[i + 1] (embed (frame :: rest) node (nestSeed cursor profile013)) =
      matchNestStep src (embed (frame :: rest) node ((matchNestStep src)^[i] (nestSeed cursor profile013))) := by
    rw [Function.iterate_succ_apply', hbefore]
  refine ⟨i + 1, Nat.succ_pos i, hjk, hj, ?_⟩
  rcases matchNestStep_last rest node _ harm hi (by rw [← hlast]; exact hj) with
    ⟨hfail, heq⟩ | ⟨hok, hdone, hnode, heq⟩
  · refine .inl ⟨by rw [hlast]; exact hfail,
      embed (frame :: rest) node ((matchNestStep src)^[i] (nestSeed cursor profile013)), ?_⟩
    rw [houter, hlast]
    exact heq
  · refine .inr ⟨?_, by rw [hlast]; exact hok, by rw [hlast]; exact hdone, by rw [hlast]; exact hnode,
      embed (frame :: rest) node ((matchNestStep src)^[i] (nestSeed cursor profile013)), rfl, ?_⟩
    · exact three_le_of_accepts hfirst (by rw [hlast]; exact hok) (by rw [hlast]; exact hdone)
    · rw [houter, hlast]
      exact heq

end MncsCompiler.Decl
