import MncsCompiler.Decl.Frames

/-!
# `Decl.Agree` — arm position and ordinary position

`parse_expr` reads the arms of a match in a loop and the value of an arm with `parse_nest_expr_value`; the nested
machine reads the same text with one stack. The two agree wherever neither runs out of fuel, and both agree with the
recursive reading, in which the value of an arm is read as an expression in ordinary position.
-/

namespace MncsCompiler.Decl

open BoundedLoop Halting

variable {src : Source} {readValue : Nat → Bool → ExprParse}

/-- Equal verdicts: the same tree and cursor on acceptance, the same span on refusal. -/
structure Agrees (a b : ExprParse) : Prop where
  verdict : a.ok = b.ok
  accepted : a.ok = true → a.node = b.node ∧ a.cursor = b.cursor
  refused : a.ok = false → a.errStart = b.errStart ∧ a.errStop = b.errStop

/-- The values of arms are read as the nested machine reads them in fewer than `n` steps. -/
def ReadsWithin (src : Source) (readValue : Nat → Bool → ExprParse) (n : Nat) : Prop :=
  ∀ cursor profile013 j, j < n → ((matchNestStep src)^[j] (nestSeed cursor profile013)).stopped = true →
    Agrees (readValue cursor profile013) (finishNestExpr ((matchNestStep src)^[j] (nestSeed cursor profile013)))

theorem finishNestExpr_of_fail {st : MatchNestParse} (h : st.ok = false) :
    (finishNestExpr st).ok = false ∧ (finishNestExpr st).errStart = st.errStart ∧
      (finishNestExpr st).errStop = st.errStop := by
  unfold finishNestExpr
  simp [h]

theorem finishNestExpr_of_done {st : MatchNestParse} (hok : st.ok = true) (hdone : st.done = true)
    (hnode : st.nodeOk = true) :
    (finishNestExpr st).ok = true ∧ (finishNestExpr st).node = st.node ∧ (finishNestExpr st).cursor = st.cursor := by
  unfold finishNestExpr
  simp [hok, hdone, hnode]

/-! ## The arms of a match -/

/-- An expression that goes on behind a match. -/
def resume (est : ExprState) (node : Expr) (cursor : Nat) : ExprState :=
  est.to cursor (node :: est.operands) est.operators est.depth false false true

/-- The value of an arm as the nested machine reads it above the arm's frame. -/
theorem ReadsWithin.arm {n i c : Nat} {profile013 : Bool} {frame : MatchNestFrame} {below : List MatchNestFrame}
    {node : Expr} (hread : ReadsWithin src readValue n) (hin : i < n) (harm : frame.isArm = true)
    (hi : ((matchNestStep src)^[i]
      (nestAt (.exprTop (nestExprSeed c profile013)) (frame :: below) node c)).stopped = true) :
    ∃ j, 0 < j ∧ j ≤ i ∧
      (((readValue c profile013).ok = false ∧ ∃ st : MatchNestParse,
          (matchNestStep src)^[j] (nestAt (.exprTop (nestExprSeed c profile013)) (frame :: below) node c) =
            failAt st (readValue c profile013).errStart (readValue c profile013).errStop) ∨
        (3 ≤ j ∧ (readValue c profile013).ok = true ∧ ∃ st : MatchNestParse, st.node = node ∧
          (matchNestStep src)^[j] (nestAt (.exprTop (nestExprSeed c profile013)) (frame :: below) node c) =
            popFrame src st frame below (readValue c profile013).node (readValue c profile013).cursor)) := by
  have hembed : nestAt (.exprTop (nestExprSeed c profile013)) (frame :: below) node c =
      embed (frame :: below) node (nestSeed c profile013) := rfl
  rw [hembed] at hi ⊢
  obtain ⟨j, hpos, hji, hstop, hcases⟩ := arm_run harm hi
  have hagree := hread c profile013 j (by omega) hstop
  refine ⟨j, hpos, hji, ?_⟩
  rcases hcases with ⟨hfail, st, heq⟩ | ⟨hthree, hok, hdone, hnode, st, hst, heq⟩
  · obtain ⟨hverdict, ha, hb⟩ := finishNestExpr_of_fail hfail
    have hv : (readValue c profile013).ok = false := hagree.verdict.trans hverdict
    obtain ⟨ha', hb'⟩ := hagree.refused hv
    exact .inl ⟨hv, st, by rw [heq, ha', hb', ha, hb]⟩
  · obtain ⟨hverdict, hnode', hcursor⟩ := finishNestExpr_of_done hok hdone hnode
    have hv : (readValue c profile013).ok = true := hagree.verdict.trans hverdict
    obtain ⟨hn, hc⟩ := hagree.accepted hv
    exact .inr ⟨hthree, hv, st, hst, by rw [heq, hn, hc, hnode', hcursor]⟩

/-- **The arms of a match agree.** Where the nested machine stops within `k` steps from a scan over a suspended
    expression, the loop in ordinary position ends after `a` arms, four steps of the machine each: it fails with the
    span of the machine, or it closes and the machine goes on with the expression behind the match. -/
theorem ArmLoop.Lockstep.run {σ : Type} {loop : ArmLoop σ} {profile013 : Bool} {inv : σ → Prop} {n : Nat}
    (hloop : loop.Lockstep src readValue profile013 inv) (hread : ReadsWithin src readValue n)
    (parent : NestExprParent) (rest : List MatchNestFrame) (node : Expr) {k : Nat} (hkn : k ≤ n) {s : σ}
    {cursor : Nat} (hinv : inv s) (hok : loop.ok s = true) (hdone : loop.done s = false)
    (hk : ((matchNestStep src)^[k] (nestAt (loop.top s) (.expr parent :: rest) node cursor)).stopped = true) :
    ∃ a, 4 * a ≤ k + 3 ∧
      ((loop.ok (loop.step^[a] s) = false ∧
          ((matchNestStep src)^[k] (nestAt (loop.top s) (.expr parent :: rest) node cursor)).ok = false ∧
          ((matchNestStep src)^[k] (nestAt (loop.top s) (.expr parent :: rest) node cursor)).errStart =
            loop.errStart (loop.step^[a] s) ∧
          ((matchNestStep src)^[k] (nestAt (loop.top s) (.expr parent :: rest) node cursor)).errStop =
            loop.errStop (loop.step^[a] s)) ∨
        (loop.ok (loop.step^[a] s) = true ∧ loop.done (loop.step^[a] s) = true ∧ ∃ j, 0 < j ∧ j ≤ k ∧
          (matchNestStep src)^[j] (nestAt (loop.top s) (.expr parent :: rest) node cursor) =
            nestAt (.exprTop (resume parent.est (loop.node (loop.step^[a] s)) (loop.cursor (loop.step^[a] s)))) rest
              node (loop.cursor (loop.step^[a] s)))) := by
  induction k using Nat.strongRecOn generalizing s cursor with
  | ind k ih =>
      obtain ⟨i, rfl⟩ : ∃ i, k = i + 1 := by
        cases k with
        | zero => cases hk
        | succ i => exact ⟨i, rfl⟩
      obtain ⟨act, hstep, hfollows⟩ := hloop.acts s hinv hok hdone
      have hfirst := hstep (nestAt (loop.top s) (.expr parent :: rest) node cursor) rfl rfl
      rw [Function.iterate_succ_apply, hfirst] at hk ⊢
      cases hfollows with
      | fail hfail ha hb =>
          refine ⟨1, by omega, .inl ⟨hfail, ?_⟩⟩
          rw [matchNestStep_stays.iterate rfl]
          exact ⟨rfl, ha.symm, hb.symm⟩
      | close hclosed hdone' hnode hcursor =>
          refine ⟨1, by omega, .inr ⟨hclosed, hdone', 1, Nat.one_pos, by omega, ?_⟩⟩
          rw [Function.iterate_one, hfirst, ← hnode, ← hcursor]
          rfl
      | @readFails frame c harm hv hfail ha hb =>
          obtain ⟨j, -, hji, ⟨-, st, heq⟩ | ⟨-, hv', -⟩⟩ := hread.arm (by omega) harm hk
          · have hlast : (matchNestStep src)^[i]
                ((ScanAct.read frame c).apply src profile013 (nestAt (loop.top s) (.expr parent :: rest) node cursor)) =
                failAt st (readValue c profile013).errStart (readValue c profile013).errStop :=
              (matchNestStep_stays.iterate_of_le hji (congrArg MatchNestParse.stopped heq)).trans heq
            refine ⟨1, by omega, .inl ⟨hfail, ?_⟩⟩
            rw [hlast]
            exact ⟨rfl, ha.symm, hb.symm⟩
          · rw [hv] at hv'
            cases hv'
      | @delimiterFails frame c harm hv hfail hpop =>
          obtain ⟨j, -, hji, ⟨hv', -⟩ | ⟨-, -, st, -, heq⟩⟩ := hread.arm (by omega) harm hk
          · rw [hv] at hv'
            cases hv'
          · rw [hpop] at heq
            have hlast : (matchNestStep src)^[i]
                ((ScanAct.read frame c).apply src profile013 (nestAt (loop.top s) (.expr parent :: rest) node cursor)) =
                failAt st (loop.errStart (loop.step s)) (loop.errStop (loop.step s)) :=
              (matchNestStep_stays.iterate_of_le hji (congrArg MatchNestParse.stopped heq)).trans heq
            refine ⟨1, by omega, .inl ⟨hfail, ?_⟩⟩
            rw [hlast]
            exact ⟨rfl, rfl, rfl⟩
      | @continues frame c harm hv hok' hdone' hpop =>
          obtain ⟨j, -, hji, ⟨hv', -⟩ | ⟨hthree, -, st, hst, heq⟩⟩ := hread.arm (by omega) harm hk
          · rw [hv] at hv'
            cases hv'
          · rw [hpop, hst] at heq
            -- the machine is back at the scan, behind the arm
            obtain ⟨d, rfl⟩ := Nat.exists_eq_add_of_le hji
            have hrest : (matchNestStep src)^[j + d]
                ((ScanAct.read frame c).apply src profile013 (nestAt (loop.top s) (.expr parent :: rest) node cursor)) =
                (matchNestStep src)^[d] (nestAt (loop.top (loop.step s)) (.expr parent :: rest) node
                  (loop.cursor (loop.step s))) := by
              rw [Nat.add_comm, Function.iterate_add_apply]
              exact congrArg _ heq
            rw [hrest] at hk ⊢
            obtain ⟨a, ha, hcases⟩ := ih d (by omega) (by omega) (hloop.keeps s hinv) hok' hdone' hk
            refine ⟨a + 1, by omega, ?_⟩
            rw [Function.iterate_succ_apply]
            rcases hcases with hfail | ⟨h1, h2, m, hm, hmd, hgoal⟩
            · exact .inl hfail
            · refine .inr ⟨h1, h2, m + j + 1, by omega, by omega, ?_⟩
              rw [Function.iterate_succ_apply, hfirst, Function.iterate_add_apply, ← hgoal]
              exact congrArg _ heq

/-! ## Expressions -/

def ExprState.stopped (st : ExprState) : Bool := !st.ok || st.done

theorem exprStepBy_stays_stopped {arms : Nat} : Stays (exprStepBy src readValue arms) ExprState.stopped :=
  fun _ hst => if_pos hst

/-- What ordinary position makes of a loop over arms. -/
def ArmLoop.finish {σ : Type} (loop : ArmLoop σ) (st : ExprState) (s : σ) : ExprState :=
  if !loop.ok s || !loop.done s then exprFail st (loop.errStart s) (loop.errStop s)
  else resume st (loop.node s) (loop.cursor s)

def finiteSeed (matchToken : Token) (profile013 : Bool) (opener : MatchOpen) : FiniteMatchScan :=
  { ok := true, done := false, errStart := 0, errStop := 0, cursor := opener.openStop, start := matchToken.start
    stop := opener.openStop, profile013 := profile013, profile006 := opener.profile006
    profile009 := opener.profile009, arms := [] }

def scalarSeed (matchToken : Token) (profile013 : Bool) (opener : MatchOpen) : MatchScan :=
  { ok := true, done := false, errStart := 0, errStop := 0, cursor := opener.openStop, start := matchToken.start
    stop := opener.openStop, profile013 := profile013, arms := [] }

/-- A match in ordinary position is opened as the nested machine opens it. -/
theorem prefixMatchBy_eq (arms : Nat) (st : ExprState) (tok : Token) :
    prefixMatchBy src readValue arms st tok =
      let opener := matchOpenNested src tok st.profile013
      if !opener.ok then exprFail st opener.errStart opener.errStop
      else if opener.isFinite then
        (finiteLoop src readValue opener.subject tok.start).finish st
          ((finiteMatchArmStepBy src readValue)^[arms] (finiteSeed tok st.profile013 opener))
      else
        (scalarLoop src readValue opener.subject tok.start).finish st
          ((scalarMatchArmStepBy src readValue)^[arms] (scalarSeed tok st.profile013 opener)) := by
  unfold prefixMatchBy matchOpenNested prefixFiniteMatchBy
  dsimp only
  -- opaque: unfolding the header's loop is no help below
  generalize patternProfiles src = profiles
  generalize parseExprBaseNoconstruct src tok.stop st.profile013 = subject
  by_cases hsubject : (!subject.ok) = true
  · rw [if_pos hsubject, if_pos hsubject]
    rfl
  rw [if_neg hsubject, if_neg hsubject]
  by_cases hopen : ((src.token subject.cursor).diagnostic ≠ 0 || (src.token subject.cursor).kind ≠ 67) = true
  · rw [if_pos hopen, if_pos hopen]
    rfl
  rw [if_neg hopen, if_neg hopen]
  generalize src.token subject.cursor = opener
  by_cases hfirst : (src.token opener.stop).diagnostic ≠ 0
  · rw [if_pos hfirst, if_pos hfirst]
    rfl
  rw [if_neg hfirst, if_neg hfirst]
  generalize src.token opener.stop = first
  by_cases hbool : ((first.kind = 38 || first.kind = 39) &&
      ((src.token first.stop).diagnostic = 0 && (src.token first.stop).kind = 61)) = true
  · rw [if_pos hbool, if_pos hbool]
    rfl
  rw [if_neg hbool, if_neg hbool]
  by_cases hfinite : finitePatternStart src first = true
  · rw [if_pos hfinite, if_pos hfinite]
    rfl
  rw [if_neg hfinite, if_neg hfinite]
  by_cases hprof : (!st.profile013) = true
  · rw [if_pos hprof, if_pos hprof]
    rfl
  rw [if_neg hprof, if_neg hprof]
  rfl

/-- Where the nested machine stops, ordinary position stops as early and agrees. -/
def AgreesWithin (src : Source) (readValue : Nat → Bool → ExprParse) (arms k : Nat) : Prop :=
  ∀ (est : ExprState) (node : Expr) (cursor : Nat),
    ((matchNestStep src)^[k] (nestAt (.exprTop est) [] node cursor)).stopped = true →
      ∃ m, m ≤ k ∧ ((exprStepBy src readValue arms)^[m] est).stopped = true ∧
        Agrees (finishExpr src ((exprStepBy src readValue arms)^[m] est))
          (finishNestExpr ((matchNestStep src)^[k] (nestAt (.exprTop est) [] node cursor)))

/-- An expression at a match. -/
theorem agrees_match {σ : Type} {loop : ArmLoop σ} {profile013 : Bool} {inv : σ → Prop} {n arms i : Nat}
    (hloop : loop.Lockstep src readValue profile013 inv) (hread : ReadsWithin src readValue n)
    (harms : n + 3 ≤ 4 * arms) (hin : i < n) (ih : ∀ d, d ≤ i → AgreesWithin src readValue arms d)
    {est : ExprState} {node : Expr} {cursor : Nat} {s : σ} (hinv : inv s) (hok : loop.ok s = true)
    (hdone : loop.done s = false)
    (hstep : exprStepBy src readValue arms est = loop.finish est (loop.step^[arms] s))
    (hi : ((matchNestStep src)^[i] (nestAt (loop.top s) [.expr { est := est }] node cursor)).stopped = true) :
    ∃ m, m ≤ i + 1 ∧ ((exprStepBy src readValue arms)^[m] est).stopped = true ∧
      Agrees (finishExpr src ((exprStepBy src readValue arms)^[m] est))
        (finishNestExpr ((matchNestStep src)^[i] (nestAt (loop.top s) [.expr { est := est }] node cursor))) := by
  obtain ⟨a, ha, hcases⟩ := hloop.run hread { est := est } [] node (Nat.le_of_lt hin) hinv hok hdone hi
  have hstays : Stays loop.step fun s => !loop.ok s || loop.done s := hloop.stays
  rcases hcases with ⟨hfail, hnok, herr1, herr2⟩ | ⟨hok', hdone', j, hj, hji, heq⟩
  · have hall : loop.step^[arms] s = loop.step^[a] s :=
      hstays.iterate_of_le (by omega) (by simp [hfail])
    have hfinish : exprStepBy src readValue arms est =
        exprFail est (loop.errStart (loop.step^[a] s)) (loop.errStop (loop.step^[a] s)) := by
      rw [hstep, hall, ArmLoop.finish, if_pos (by simp [hfail])]
    refine ⟨1, by omega, by rw [Function.iterate_one, hfinish]; rfl, ?_⟩
    rw [Function.iterate_one, hfinish]
    obtain ⟨h1, h2, h3⟩ := finishNestExpr_of_fail hnok
    exact ⟨h1.symm, fun h => absurd h Bool.false_ne_true, fun _ =>
      ⟨(h2.trans herr1).symm, (h3.trans herr2).symm⟩⟩
  · have hall : loop.step^[arms] s = loop.step^[a] s :=
      hstays.iterate_of_le (by omega) (by simp [hdone'])
    have hfinish : exprStepBy src readValue arms est =
        resume est (loop.node (loop.step^[a] s)) (loop.cursor (loop.step^[a] s)) := by
      rw [hstep, hall, ArmLoop.finish, if_neg (by simp [hok', hdone'])]
    obtain ⟨d, rfl⟩ := Nat.exists_eq_add_of_le hji
    have hrest : (matchNestStep src)^[j + d] (nestAt (loop.top s) [.expr { est := est }] node cursor) =
        (matchNestStep src)^[d] (nestAt (.exprTop (resume est (loop.node (loop.step^[a] s))
          (loop.cursor (loop.step^[a] s)))) [] node (loop.cursor (loop.step^[a] s))) := by
      rw [Nat.add_comm, Function.iterate_add_apply]
      exact congrArg _ heq
    rw [hrest] at hi ⊢
    obtain ⟨m, hm, hstop, hagree⟩ := ih d (by omega) _ _ _ hi
    refine ⟨m + 1, by omega, ?_⟩
    rw [Function.iterate_succ_apply, hfinish]
    exact ⟨hstop, hagree⟩

/-- **The two readings of an expression agree**, when the values of its arms are read alike. -/
theorem ReadsWithin.agrees {n arms : Nat} (hread : ReadsWithin src readValue n) (harms : n + 3 ≤ 4 * arms) {k : Nat}
    (hkn : k ≤ n) : AgreesWithin src readValue arms k := by
  induction k using Nat.strongRecOn with
  | ind k ih =>
      intro est node cursor hk
      obtain ⟨i, rfl⟩ : ∃ i, k = i + 1 := by
        cases k with
        | zero => cases hk
        | succ i => exact ⟨i, rfl⟩
      have hstep : matchNestStep src (nestAt (.exprTop est) [] node cursor) =
          exprNestStep src (nestAt (.exprTop est) [] node cursor) est := rfl
      rw [Function.iterate_succ_apply, hstep] at hk ⊢
      unfold exprNestStep at hk ⊢
      by_cases hstop : (!est.ok || est.done) = true
      · -- the expression is complete
        rw [if_pos hstop] at hk ⊢
        refine ⟨0, Nat.zero_le _, hstop, ?_⟩
        unfold exprNestDone at hk ⊢
        dsimp only at hk ⊢
        by_cases hfin : (!(finishExpr src est).ok) = true
        · rw [if_pos hfin, matchNestStep_stays.iterate rfl]
          have hfail : (finishExpr src est).ok = false := by simpa using hfin
          exact ⟨hfail, fun h => absurd (h.symm.trans hfail) Bool.noConfusion, fun _ => ⟨rfl, rfl⟩⟩
        · rw [if_neg hfin]
          have hfin' : (finishExpr src est).ok = true := by simpa using hfin
          rw [matchNestStep_stays.iterate rfl]
          exact ⟨hfin', fun _ => ⟨rfl, rfl⟩, fun h => absurd (h.symm.trans hfin') Bool.noConfusion⟩
      rw [if_neg hstop] at hk ⊢
      dsimp only at hk ⊢
      have hexpr : exprStepBy src readValue arms est =
          if est.expectOperand && (src.token est.cursor).diagnostic = 0 && (src.token est.cursor).kind = 30 then
            prefixMatchBy src readValue arms est (src.token est.cursor)
          else exprStepWithoutMatch src est (src.token est.cursor) := by
        unfold exprStepBy
        rw [if_neg hstop]
      by_cases hmatch : (est.expectOperand && (src.token est.cursor).diagnostic = 0 &&
          (src.token est.cursor).kind = 30) = true
      · rw [if_pos hmatch] at hk ⊢
        rw [if_pos hmatch, prefixMatchBy_eq] at hexpr
        unfold exprNestPushMatch at hk ⊢
        dsimp only at hk hexpr ⊢
        generalize matchOpenNested src (src.token est.cursor) est.profile013 = opener at hk hexpr ⊢
        by_cases hopen : (!opener.ok) = true
        · rw [if_pos hopen] at hexpr ⊢
          rw [matchNestStep_stays.iterate rfl]
          refine ⟨1, by omega, by rw [Function.iterate_one, hexpr]; rfl, ?_⟩
          rw [Function.iterate_one, hexpr]
          exact ⟨rfl, fun h => absurd h Bool.false_ne_true, fun _ => ⟨rfl, rfl⟩⟩
        rw [if_neg hopen] at hk hexpr ⊢
        have ih' : ∀ d, d ≤ i → AgreesWithin src readValue arms d :=
          fun d hd => ih d (by omega) (by omega)
        by_cases hfinite : opener.isFinite = true
        · rw [if_pos hfinite] at hk hexpr ⊢
          exact agrees_match (finiteLoop_lockstep src readValue opener.subject (src.token est.cursor).start
            est.profile013) hread harms (by omega) ih' rfl rfl rfl hexpr hk
        · rw [if_neg hfinite] at hk hexpr ⊢
          exact agrees_match (scalarLoop_lockstep src readValue opener.subject (src.token est.cursor).start
            est.profile013) hread harms (by omega) ih' rfl rfl rfl hexpr hk
      · rw [if_neg hmatch] at hk ⊢
        rw [if_neg hmatch] at hexpr
        obtain ⟨m, hm, hstop', hagree⟩ := ih i (by omega) (by omega) _ _ _ hk
        refine ⟨m + 1, by omega, ?_⟩
        rw [Function.iterate_succ_apply, hexpr]
        exact ⟨hstop', hagree⟩

/-! ## The parsers -/

theorem Agrees.refl (a : ExprParse) : Agrees a a := ⟨rfl, fun _ => ⟨rfl, rfl⟩, fun _ => ⟨rfl, rfl⟩⟩

/-- The recursive reading: the value of an arm is read as an expression in ordinary position. The fuel bounds the
    steps, the arms and the nesting. -/
def parseExprRec (src : Source) : Nat → Nat → Bool → ExprParse
  | 0, cursor, _ =>
      { cursor := cursor, ok := false, errStart := cursor, errStop := cursor, node := .name cursor cursor
        start := cursor, stop := cursor }
  | fuel + 1, cursor, profile013 =>
      finishExpr src ((exprStepBy src (parseExprRec src fuel) fuel)^[fuel] (nestExprSeed cursor profile013))

theorem scalarMatchValue_readsWithin : ReadsWithin src (scalarMatchValue src) 3104 := by
  intro cursor profile013 j hj hstop
  unfold scalarMatchValue
  rw [parseNestExprValue_eq, matchNestStep_stays.iterate_of_le (Nat.le_of_lt hj) hstop]
  exact .refl _

/-- Enough fuel for the recursive reading is a bound on the steps of the nested machine. -/
theorem parseExprRec_agrees {k n cursor : Nat} {profile013 : Bool} (hkn : k < n)
    (hk : ((matchNestStep src)^[k] (nestSeed cursor profile013)).stopped = true) :
    Agrees (parseExprRec src n cursor profile013)
      (finishNestExpr ((matchNestStep src)^[k] (nestSeed cursor profile013))) := by
  induction k using Nat.strongRecOn generalizing n cursor profile013 with
  | ind k ih =>
      obtain ⟨fuel, rfl⟩ : ∃ fuel, n = fuel + 1 := ⟨n - 1, by omega⟩
      have hpos : 0 < k := by
        cases k with
        | zero => cases hk
        | succ i => exact Nat.succ_pos i
      have hread : ReadsWithin src (parseExprRec src fuel) k :=
        fun c p j hj hstop => ih j hj (by omega) hstop
      obtain ⟨m, hm, hstop, hagree⟩ := hread.agrees (show k + 3 ≤ 4 * fuel by omega) (Nat.le_refl k) _ _ _ hk
      unfold parseExprRec
      rw [exprStepBy_stays_stopped.iterate_of_le (Nat.le_trans hm (by omega)) hstop]
      exact hagree

/-- **Arm position and ordinary position agree.** Where neither parser runs out of steps, `parse_expr` and
    `parse_nest_expr_value` give the same verdict, tree and cursor, or the same error span, and so does the recursive
    reading with enough fuel. -/
theorem parseExpr_agrees_parseNestExprValue (src : Source) (cursor : Nat) (profile013 : Bool)
    (hexpr : ((exprStep src)^[2080] (nestExprSeed cursor profile013)).done = true)
    (hnest : ((matchNestStep src)^[3104] (nestSeed cursor profile013)).stopped = true) :
    Agrees (parseExpr src cursor profile013) (parseNestExprValue src cursor profile013) ∧
      ∃ enough, ∀ fuel, enough ≤ fuel →
        Agrees (parseExprRec src fuel cursor profile013) (parseNestExprValue src cursor profile013) := by
  rw [parseExpr_eq, parseNestExprValue_eq]
  constructor
  · obtain ⟨m, -, hstop, hagree⟩ :=
      scalarMatchValue_readsWithin.agrees (show 3104 + 3 ≤ 4 * 1024 by decide) (Nat.le_refl 3104) _ _ _ hnest
    have hstop' : ((exprStep src)^[2080] (nestExprSeed cursor profile013)).stopped = true := by
      rw [ExprState.stopped, hexpr, Bool.or_true]
    have hsame : (exprStep src)^[2080] (nestExprSeed cursor profile013) =
        (exprStep src)^[m] (nestExprSeed cursor profile013) := by
      have hstays : Stays (exprStep src) ExprState.stopped := exprStepBy_stays_stopped
      rcases Nat.le_total m 2080 with h | h
      · exact hstays.iterate_of_le h hstop
      · exact (hstays.iterate_of_le h hstop').symm
    rw [hsame]
    exact hagree
  · exact ⟨3105, fun fuel hfuel => parseExprRec_agrees (by omega) hnest⟩

/-- `match a{B=>match c{D=>e,},}` on one page. -/
def nestedMatch : Source where
  pages := [[109, 97, 116, 99, 104, 32, 97, 123, 66, 61, 62, 109, 97, 116, 99, 104, 32, 99, 123, 68, 61, 62, 101, 44,
    125, 44, 125]]
  stride := 1024
  total := 27

set_option maxRecDepth 4000 in
theorem parseExpr_agrees_parseNestExprValue_match :
    Agrees (parseExpr nestedMatch 0 false) (parseNestExprValue nestedMatch 0 false) ∧
      ∃ enough, ∀ fuel, enough ≤ fuel →
        Agrees (parseExprRec nestedMatch fuel 0 false) (parseNestExprValue nestedMatch 0 false) := by
  apply parseExpr_agrees_parseNestExprValue
  · have hstays : Stays (exprStep nestedMatch) ExprState.stopped := exprStepBy_stays_stopped
    rw [hstays.iterate_eq_run]
    decide +kernel
  · rw [matchNestStep_stays.iterate_eq_run]
    decide +kernel

end MncsCompiler.Decl
