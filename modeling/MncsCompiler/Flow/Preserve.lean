import MncsCompiler.Flow.Blocks
import MncsCompiler.Flow.Code

/-!
# `Flow.Preserve` — lowering preserves meaning

From a build at the start of a statement list the walk comes to the end of that list with the same frames
(`Segment`), and on the way lists blocks that hold the statements: one lemma per statement form, then an induction on
the steps left. The whole body is such a segment with no frames, so a verified graph holds the typed body at block 0
and behaves as it does.
-/

namespace MncsCompiler.Flow

open BoundedLoop Decl Simulation

variable {α : Type}

/-! ## Typing a statement list -/

theorem takeTyped_of_takes {st : Build α} {role start stop bindingStart bindingStop : Nat} {x : TypedExpr α}
    {rest : List (List α)} (h : Takes st role start stop bindingStart bindingStop x rest) :
    takeTyped role start stop bindingStart bindingStop st.typedRest = some (x, rest) := by
  obtain ⟨htyped, hcount, hx⟩ := h
  rw [htyped, takeTyped, if_neg hcount, ← hx]

theorem Takes.span {st : Build α} {role start stop bindingStart bindingStop : Nat} {x : TypedExpr α}
    {rest : List (List α)} (h : Takes st role start stop bindingStart bindingStop x rest) :
    start = x.start ∧ stop = x.stop := by
  rw [h.2.2]
  exact ⟨rfl, rfl⟩

theorem TakesSource.typed {st mid : Build α} {ho : Bool} {iterated : Expr} {s e : Nat} {source : Option (TypedExpr α)}
    (h : TakesSource st ho iterated s e source mid) :
    takeSource ho iterated s e st.typedRest = some (source, mid.typedRest) := by
  cases ho with
  | false =>
      cases source with
      | none =>
          have hmid : mid = st := h
          rw [hmid]
          rfl
      | some x => exact h.elim
  | true =>
      cases source with
      | none => exact h.elim
      | some x =>
          obtain ⟨rest, htakes, rfl⟩ := h
          rw [takeSource, if_pos rfl, takeTyped_of_takes htakes]
          rfl

/-- The expressions of the current block after the source is taken, latest first. -/
theorem TakesSource.expressions {st mid : Build α} {ho : Bool} {iterated : Expr} {s e : Nat}
    {source : Option (TypedExpr α)} (h : TakesSource st ho iterated s e source mid) :
    mid.current.expressions = source.toList ++ st.current.expressions := by
  cases ho with
  | false =>
      cases source with
      | none =>
          have hmid : mid = st := h
          rw [hmid]
          rfl
      | some x => exact h.elim
  | true =>
      cases source with
      | none => exact h.elim
      | some x =>
          obtain ⟨rest, htakes, rfl⟩ := h
          rfl

theorem reverseTypedExpressions_eq {expressions : List (TypedExpr α)} (h : expressions.length ≤ 1024) :
    reverseTypedExpressions expressions = expressions.reverse := by
  rw [reverseTypedExpressions, reverseWithin_eq, List.take_of_length_le h]

theorem reverseTypedExpressions_cons {x : TypedExpr α} {expressions : List (TypedExpr α)}
    (h : expressions.length + 1 ≤ 1024) :
    reverseTypedExpressions (x :: expressions) = expressions.reverse ++ [x] := by
  have hlength : (x :: expressions).length ≤ 1024 := by
    rw [List.length_cons]
    exact h
  rw [reverseTypedExpressions_eq hlength, List.reverse_cons]

theorem typeStmts_cons {h : Stmt} {t : List Stmt} {tops mid rest : List (List α)} {x : TStmt α} {xs : List (TStmt α)}
    (hx : typeStmt h tops = some (x, mid)) (hxs : typeStmts t mid = some (xs, rest)) :
    typeStmts (h :: t) tops = some (x :: xs, rest) := by
  simp [typeStmts, hx, hxs]

@[simp] theorem endsClosed_bind (x : TypedExpr α) (rest : List (TStmt α)) :
    endsClosed (.bind x :: rest) = endsClosed rest := by
  cases rest <;> rfl

@[simp] theorem endsClosed_branch (cond : TypedExpr α) (yes no rest : List (TStmt α)) :
    endsClosed (.branch cond yes no :: rest) = endsClosed rest := by
  cases rest <;> rfl

@[simp] theorem endsClosed_loop (source : Option (TypedExpr α)) (initial next : TypedExpr α)
    (body rest : List (TStmt α)) (s e : Nat) :
    endsClosed (.loop source initial body next s e :: rest) = endsClosed rest := by
  cases rest <;> rfl

/-! ## Segments -/

/-- From `st`, at the start of its statement list, the walk comes to `st'` at the end of the list: the frames are
    back, the statements are typed as `stmts`, and if some path comes to `st` every graph with the listed blocks holds
    them. -/
structure Segment (st st' : Build α) (stmts : List (TStmt α)) : Prop where
  rest : st'.rest = []
  frames : st'.frames = st.frames
  tail : st'.tail = st.tail ∧ st'.hasTail = st.hasTail
  done : st'.done = false
  typed : typeStmts st.rest st.typedRest = some (stmts, st'.typedRest)
  blocks : st.blocks ⊆ st'.blocks
  closed : endsClosed stmts = decide (st'.current.kind ≠ 0)
  dead : st.current.reachable = false → st'.current.reachable = false
  code : ∀ blocks exit, st'.blocks ⊆ blocks → st.current.reachable = true →
    (st'.falls = true → Closes blocks st'.current.id st'.current.expressions.reverse exit) →
    Code blocks st.current.id st.current.expressions.reverse stmts exit st'.falls

theorem Build.not_falls_of_dead {st : Build α} (h : st.current.reachable = false) : st.falls = false := by
  rw [Build.falls, h, Bool.and_false]

theorem Segment.nil {st : Build α} (hrest : st.rest = []) (hdone : st.done = false) (hopen : st.current.kind = 0) :
    Segment st st [] where
  rest := hrest
  frames := rfl
  tail := ⟨rfl, rfl⟩
  done := hdone
  typed := by rw [hrest, typeStmts]
  blocks := List.Subset.refl _
  closed := by simp [endsClosed, hopen]
  dead := id
  code := by
    intro blocks exit hblocks hlive hcloses
    have hfalls : st.falls = true := by simp [Build.falls, hopen, hlive]
    rw [hfalls]
    exact .nil (hcloses hfalls)

theorem Segment.letStmt {st st' : Build α} {nameStart nameStop a b c s e : Nat} {value : Expr} {t : List Stmt}
    {x : TypedExpr α} {rest : List (List α)} {stmts : List (TStmt α)}
    (hrest : st.rest = .letStmt nameStart nameStop a b c value s e :: t)
    (htakes : Takes st 1 (exprStart value) (exprEnd value) nameStart nameStop x rest)
    (hatt : attachExpression st value 1 nameStart nameStop = st.attach x rest)
    (h : Segment (addLet st t value nameStart nameStop) st' stmts) : Segment st st' (.bind x :: stmts) := by
  rw [addLet, hatt] at h
  constructor
  · exact h.rest
  · exact h.frames
  · exact h.tail
  · exact h.done
  · rw [hrest]
    exact typeStmts_cons (by simp [typeStmt, takeTyped_of_takes htakes, Build.attach]) h.typed
  · exact h.blocks
  · rw [endsClosed_bind, h.closed]
  · exact h.dead
  · intro blocks exit hblocks hlive hcloses
    have hcode := h.code blocks exit hblocks hlive hcloses
    rw [show (st.attach x rest).current.expressions = x :: st.current.expressions from rfl, List.reverse_cons] at hcode
    exact .bind hcode

theorem Segment.failStmt {st : Build α} {a b s e : Nat} (hrest : st.rest = [.failStmt a b s e])
    (hdone : st.done = false) (hroom : st.current.expressions.length ≤ 1024) :
    Segment st (addFail st [] s e) [.fail s e] := by
  constructor
  · rfl
  · rfl
  · exact ⟨rfl, rfl⟩
  · exact hdone
  · rw [hrest]
    rfl
  · exact List.subset_cons_self _ _
  · rfl
  · exact id
  · intro blocks exit hblocks hlive hcloses
    refine .fail (b := (addFail st [] s e).current) ⟨hblocks List.mem_cons_self, rfl, rfl, ?_⟩ ⟨rfl, rfl⟩
    simp only [addFail, reverseTypedExpressions_eq hroom]

theorem Segment.returnStmt {st : Build α} {value : Expr} {s e : Nat} {x : TypedExpr α} {rest : List (List α)}
    (hrest : st.rest = [.returnStmt value s e]) (hdone : st.done = false)
    (htakes : Takes st 3 (exprStart value) (exprEnd value) 0 0 x rest)
    (hatt : attachExpression st value 3 0 0 = st.attach x rest) (hroom : st.current.expressions.length + 1 ≤ 1024) :
    Segment st (addReturn st [] value) [.ret x] := by
  rw [addReturn, hatt]
  constructor
  · rfl
  · rfl
  · exact ⟨rfl, rfl⟩
  · exact hdone
  · rw [hrest]
    exact typeStmts_cons (by simp [typeStmt, takeTyped_of_takes htakes, Build.attach]) rfl
  · exact List.subset_cons_self _ _
  · rfl
  · exact id
  · intro blocks exit hblocks hlive hcloses
    refine .ret ⟨hblocks List.mem_cons_self, rfl, rfl, ?_⟩ htakes.span
    simp only [Build.attach, reverseTypedExpressions_cons hroom]

/-! ## Branches -/

/-- Closing to the join leaves the rest of the build. -/
theorem closeToJoin_frame (st : Build α) (joinId : Nat) :
    (closeToJoin st joinId).typedRest = st.typedRest ∧
      ((closeToJoin st joinId).tail = st.tail ∧ (closeToJoin st joinId).hasTail = st.hasTail) ∧
      (closeToJoin st joinId).done = st.done ∧ st.blocks ⊆ (closeToJoin st joinId).blocks := by
  unfold closeToJoin
  split
  · exact ⟨rfl, ⟨rfl, rfl⟩, rfl, List.Subset.refl _⟩
  · exact ⟨rfl, ⟨rfl, rfl⟩, rfl, List.subset_cons_self _ _⟩

/-- The end of a branch that some path reaches jumps to the join. -/
theorem closeToJoin_closes {st : Build α} {joinId : Nat} {blocks : List (Block α)}
    (hroom : st.current.kind = 0 → st.current.expressions.length ≤ 1024)
    (hblocks : (closeToJoin st joinId).blocks ⊆ blocks) (hfalls : st.falls = true) :
    Closes blocks st.current.id st.current.expressions.reverse (.join joinId) := by
  have hopen := Build.open_of_falls hfalls
  rw [closeToJoin, if_neg (by simp [hopen]), reverseTypedExpressions_eq (hroom hopen)] at hblocks
  exact ⟨_, ⟨hblocks List.mem_cons_self, rfl, rfl, rfl⟩, rfl⟩

theorem Segment.ifStmt {st s₁ s₂ s₃ : Build α} {cond : Expr} {thenB elseB t : List Stmt} {s e : Nat} {x : TypedExpr α}
    {rest : List (List α)} {f : FlowFrame} {yes no stmts : List (TStmt α)}
    (hrest : st.rest = .ifStmt cond thenB elseB s e :: t)
    (htakes : Takes st 2 (exprStart cond) (exprEnd cond) 0 0 x rest)
    (hatt : attachExpression st cond 2 0 0 = st.attach x rest) (hroom : st.current.expressions.length + 1 ≤ 1024)
    (hf : (addBranch st t cond thenB elseB).frames = f :: st.frames)
    (h₁ : Segment (addBranch st t cond thenB elseB) s₁ yes)
    (hroom₁ : s₁.current.kind = 0 → s₁.current.expressions.length ≤ 1024)
    (h₂ : Segment (unwindThen s₁ f st.frames) s₂ no)
    (hroom₂ : s₂.current.kind = 0 → s₂.current.expressions.length ≤ 1024)
    (h₃ : Segment (unwindElse s₂ { f with phase := 1, thenFalls := s₁.falls } st.frames) s₃ stmts) :
    Segment st s₃ (.branch x yes no :: stmts) := by
  rw [addBranch, hatt] at h₁ hf
  obtain ⟨rfl, -⟩ := List.cons.inj hf
  obtain ⟨htyped₁, htail₁, -, hsub₁⟩ := closeToJoin_frame s₁ (st.nextId + 2)
  obtain ⟨htyped₂, htail₂, -, hsub₂⟩ := closeToJoin_frame s₂ (st.nextId + 2)
  have hb₁ : _ ⊆ s₁.blocks := h₁.blocks
  have hb₂ : (closeToJoin s₁ (st.nextId + 2)).blocks ⊆ s₂.blocks := h₂.blocks
  have hb₃ : (closeToJoin s₂ (st.nextId + 2)).blocks ⊆ s₃.blocks := h₃.blocks
  have helse : s₂.blocks ⊆ s₃.blocks := List.Subset.trans hsub₂ hb₃
  have hthen : (closeToJoin s₁ (st.nextId + 2)).blocks ⊆ s₃.blocks := List.Subset.trans hb₂ helse
  have hthrough : s₁.blocks ⊆ s₃.blocks := List.Subset.trans hsub₁ hthen
  constructor
  · exact h₃.rest
  · exact h₃.frames
  · have hthree : s₃.tail = (closeToJoin s₂ (st.nextId + 2)).tail ∧
        s₃.hasTail = (closeToJoin s₂ (st.nextId + 2)).hasTail := h₃.tail
    have htwo : s₂.tail = (closeToJoin s₁ (st.nextId + 2)).tail ∧
        s₂.hasTail = (closeToJoin s₁ (st.nextId + 2)).hasTail := h₂.tail
    constructor
    · rw [hthree.1, htail₂.1, htwo.1, htail₁.1]
      exact h₁.tail.1
    · rw [hthree.2, htail₂.2, htwo.2, htail₁.2]
      exact h₁.tail.2
  · exact h₃.done
  · have hone : typeStmts thenB rest = some (yes, s₁.typedRest) := h₁.typed
    have htwo : typeStmts elseB (closeToJoin s₁ (st.nextId + 2)).typedRest = some (no, s₂.typedRest) := h₂.typed
    have hthree : typeStmts t (closeToJoin s₂ (st.nextId + 2)).typedRest = some (stmts, s₃.typedRest) := h₃.typed
    rw [htyped₁] at htwo
    rw [htyped₂] at hthree
    rw [hrest]
    exact typeStmts_cons (by simp [typeStmt, takeTyped_of_takes htakes, hone, htwo]) hthree
  · exact List.Subset.trans (List.subset_of_cons_subset hb₁) hthrough
  · rw [endsClosed_branch, h₃.closed]
  · intro hdead
    have hfalls₁ : s₁.falls = false := Build.not_falls_of_dead (h₁.dead hdead)
    have hfalls₂ : s₂.falls = false := Build.not_falls_of_dead (h₂.dead hdead)
    apply h₃.dead
    show (s₁.falls || s₂.falls) = false
    rw [hfalls₁, hfalls₂]
    rfl
  · intro blocks exit hblocks hlive hcloses
    have hyes := h₁.code blocks (.join (st.nextId + 2)) (List.Subset.trans hthrough hblocks) hlive
      (closeToJoin_closes hroom₁ (List.Subset.trans hthen hblocks))
    have hno := h₂.code blocks (.join (st.nextId + 2)) (List.Subset.trans helse hblocks) hlive
      (closeToJoin_closes hroom₂ (List.Subset.trans hb₃ hblocks))
    have hmem := hblocks (hthrough (hb₁ List.mem_cons_self))
    refine .branch ⟨hmem, rfl, rfl, ?_⟩ htakes.span hyes hno ?_ ?_
    · simp only [Build.attach, reverseTypedExpressions_cons hroom]
    · intro hjoin
      exact h₃.code blocks exit hblocks hjoin hcloses
    · intro hjoin
      exact Build.not_falls_of_dead (h₃.dead hjoin)

/-! ## Loops -/

/-- Closing the unreached end of a loop body leaves the rest of the build. -/
theorem closeUnreachableLoopJoin_frame (st : Build α) :
    (closeUnreachableLoopJoin st).typedRest = st.typedRest ∧
      ((closeUnreachableLoopJoin st).tail = st.tail ∧ (closeUnreachableLoopJoin st).hasTail = st.hasTail) ∧
      st.blocks ⊆ (closeUnreachableLoopJoin st).blocks := by
  unfold closeUnreachableLoopJoin
  split
  · exact ⟨rfl, ⟨rfl, rfl⟩, List.Subset.refl _⟩
  · split
    · exact ⟨rfl, ⟨rfl, rfl⟩, List.Subset.refl _⟩
    · exact ⟨rfl, ⟨rfl, rfl⟩, List.subset_cons_self _ _⟩

/-- The end of a loop body: the next state is taken, and a path that comes to the end goes back to the header with
    it. -/
theorem unwindIterate_frame {st : Build α} {f : FlowFrame} {tail : List FlowFrame}
    (hok : (unwindIterate st f tail).ok = true)
    (hroom : st.current.kind = 0 → st.current.expressions.length + 1 ≤ 1024) :
    ∃ x mid, unwindIterate st f tail = finishIterate mid f tail ∧
      Takes st 6 f.iterationNextStart f.iterationNextStop f.iterationStateStart f.iterationStateStop x mid.typedRest ∧
      (mid.tail = st.tail ∧ mid.hasTail = st.hasTail) ∧ st.blocks ⊆ mid.blocks ∧
      ∀ blocks, mid.blocks ⊆ blocks → st.falls = true →
        Closes blocks st.current.id st.current.expressions.reverse (.back f.elseId x) := by
  obtain ⟨x, rest, htakes, hatt, helide⟩ := unwindIterate_ok hok
  cases hfalls : st.falls with
  | true =>
      refine ⟨x, _, unwindIterate_of_falls hfalls (hatt hfalls) tail, htakes, ⟨rfl, rfl⟩,
        List.subset_cons_self _ _, ?_⟩
      intro blocks hblocks _
      refine ⟨_, ⟨hblocks List.mem_cons_self, rfl, rfl, ?_⟩, rfl⟩
      simp only [Build.attach, reverseTypedExpressions_cons (hroom (Build.open_of_falls hfalls))]
  | false =>
      obtain ⟨htyped, htail, hsub⟩ := closeUnreachableLoopJoin_frame (elideIterateNext st f)
      rw [helide hfalls] at htyped htail hsub
      refine ⟨x, _, unwindIterate_of_not_falls hfalls f tail, ?_, ?_, ?_, fun _ _ h => absurd h (by decide)⟩
      · rw [helide hfalls, htyped]
        exact htakes
      · rw [helide hfalls]
        exact htail
      · rw [helide hfalls]
        exact hsub

section Pages

variable {pages : List View} {stride total : Nat}

theorem Segment.iterateStmt {st mid s₁ s₂ : Build α} {ns ne bs be ss se a b c xs xe s e : Nat}
    {iterated initial nv : Expr} {ho : Bool} {body t : List Stmt} {source : Option (TypedExpr α)} {x : TypedExpr α}
    {rest : List (List α)} {f : FlowFrame} {stmts₁ stmts : List (TStmt α)}
    (hrest : st.rest = .iterateStmt ns ne iterated ho bs be ss se a b c initial body xs xe nv s e :: t)
    (hsource : TakesSource st ho iterated s e source mid) (hmid : attachIterateSource st iterated ho s e = mid)
    (htakes : Takes mid 5 (exprStart initial) (exprEnd initial) ss se x rest)
    (hatt : attachExpression mid initial 5 ss se = mid.attach x rest)
    (hroom : st.current.expressions.length + 2 ≤ 1024)
    (hf : (addIterate pages stride total st t ns ne iterated ho bs be ss se initial body nv s e).frames = f :: st.frames)
    (h₁ : Segment (addIterate pages stride total st t ns ne iterated ho bs be ss se initial body nv s e) s₁ stmts₁)
    (hroom₁ : s₁.current.kind = 0 → s₁.current.expressions.length + 1 ≤ 1024)
    (hok : (unwindIterate s₁ f st.frames).ok = true)
    (h₂ : Segment (unwindIterate s₁ f st.frames) s₂ stmts) :
    ∃ next, Segment st s₂ (.loop source x stmts₁ next s e :: stmts) := by
  obtain ⟨next, back, heq, hnext, htail, hsub, hback⟩ := unwindIterate_frame hok hroom₁
  rw [heq, finishIterate] at h₂
  rw [addIterate, hmid, hatt] at h₁ hf
  obtain ⟨rfl, -⟩ := List.cons.inj hf
  have hleft := hsource.typed
  have hexpressions := hsource.expressions
  obtain ⟨left, instructions, expressions, rfl⟩ := hsource.eq
  simp only at hexpressions
  subst hexpressions
  have hlength : (source.toList ++ st.current.expressions).length + 1 ≤ 1024 := by
    have hone : source.toList.length ≤ 1 := by cases source <;> simp
    rw [List.length_append]
    omega
  have hb₁ : _ ⊆ s₁.blocks := h₁.blocks
  have hb₂ : back.blocks ⊆ s₂.blocks := h₂.blocks
  have hthrough : s₁.blocks ⊆ s₂.blocks := List.Subset.trans hsub hb₂
  refine ⟨next, ?_⟩
  constructor
  · exact h₂.rest
  · exact h₂.frames
  · have htwo : s₂.tail = back.tail ∧ s₂.hasTail = back.hasTail := h₂.tail
    constructor
    · rw [htwo.1, htail.1]
      exact h₁.tail.1
    · rw [htwo.2, htail.2]
      exact h₁.tail.2
  · exact h₂.done
  · have hone : typeStmts body rest = some (stmts₁, s₁.typedRest) := h₁.typed
    have htwo : typeStmts t back.typedRest = some (stmts, s₂.typedRest) := h₂.typed
    rw [hrest]
    have hx := takeTyped_of_takes htakes
    have hy := takeTyped_of_takes hnext
    simp only at hx hy
    exact typeStmts_cons (by simp [typeStmt, hleft, hx, hone, hy]) htwo
  · exact List.Subset.trans (List.subset_of_cons_subset (List.subset_of_cons_subset hb₁)) hthrough
  · rw [endsClosed_loop, h₂.closed]
  · exact h₂.dead
  · intro blocks exit hblocks hlive hcloses
    have hbody := h₁.code blocks (.back st.nextId next) (List.Subset.trans hthrough hblocks) hlive
      (hback blocks (List.Subset.trans hb₂ hblocks))
    have hheader := hblocks (hthrough (hb₁ List.mem_cons_self))
    have hpre := hblocks (hthrough (hb₁ (List.mem_cons_of_mem _ List.mem_cons_self)))
    have hafter := h₂.code blocks exit hblocks hlive hcloses
    refine .loop ⟨hpre, rfl, rfl, ?_⟩ rfl ⟨_, ⟨hheader, rfl, rfl, rfl⟩, rfl, rfl, rfl, rfl⟩ hbody hafter
    have hsource : source.toList.reverse = source.toList := by cases source <;> rfl
    simp only [Build.attach, reverseTypedExpressions_cons hlength, List.reverse_append, hsource, List.append_assoc]

/-! ## The walk of a body -/

variable (pages stride total) in
/-- The walk comes from `st` to its end `w` in `n` steps, in order; the open block has room for an expression at
    every one of them. -/
structure Reaches (n : Nat) (st w : Build α) : Prop where
  run : (step pages stride total)^[n] st = w
  ok : w.ok = true
  done : w.done = true
  budget : n ≤ 1024
  room : st.current.kind = 0 → st.current.expressions.length + n ≤ 1024

variable {w : Build α}

theorem Reaches.step {n : Nat} {st : Build α} (h : Reaches pages stride total n st w) (hdone : st.done = false) :
    ∃ m, n = m + 1 ∧ st.ok = true ∧ (step pages stride total st).ok = true ∧
      Moves pages stride total st (step pages stride total st) ∧
      (((step pages stride total st).current.kind = 0 →
          (step pages stride total st).current.expressions.length + m ≤ 1024) →
        Reaches pages stride total m (step pages stride total st) w) := by
  obtain ⟨hrun, hok, hend, hbudget, hroom⟩ := h
  cases n with
  | zero =>
      have hst : st = w := hrun
      rw [hst, hend] at hdone
      cases hdone
  | succ m =>
      rw [Function.iterate_succ_apply] at hrun
      have hstep : (Flow.step pages stride total st).ok = true := ok_of_steps_ok (n := m) (by rw [hrun, hok])
      obtain ⟨hst, hmove⟩ := step_moves hdone hstep
      exact ⟨m, rfl, hst, hstep, hmove, fun hroom' => ⟨hrun, hok, hend, by omega, hroom'⟩⟩

@[simp] theorem unwind_expressions (st : Build α) (f : FlowFrame) (tail : List FlowFrame) :
    (unwind st f tail).current.expressions = [] := by
  unfold unwind unwindIterate
  split
  · split <;> rfl
  · split <;> rfl

/-- At the end of a statement list inside a frame the walk unwinds it. -/
theorem Reaches.unwind {n : Nat} {st : Build α} (h : Reaches pages stride total n st w) (hdone : st.done = false)
    (hrest : st.rest = []) {f : FlowFrame} {tail : List FlowFrame} (hframes : st.frames = f :: tail) :
    ∃ m, n = m + 1 ∧ (unwind st f tail).ok = true ∧ Reaches pages stride total m (unwind st f tail) w := by
  obtain ⟨m, rfl, hok, hstep, -, hnext⟩ := h.step hdone
  have heq : Flow.step pages stride total st = Flow.unwind st f tail := by
    rw [Flow.step, if_neg (by simp [hdone, hok]), hrest]
    simp only [stepEmpty, hframes]
  rw [heq] at hstep hnext
  refine ⟨m, rfl, hstep, hnext ?_⟩
  intro _
  rw [unwind_expressions, List.length_nil]
  have := h.budget
  omega

theorem Reaches.fits {n : Nat} {st : Build α} (h : Reaches pages stride total n st w) (hopen : st.current.kind = 0) :
    st.current.expressions.length ≤ 1024 :=
  Nat.le_trans (Nat.le_add_right _ _) (h.room hopen)

/-- After a `fail` or a `return` no statement follows in a walk in order. -/
theorem Reaches.rest_nil {n : Nat} {st : Build α} (h : Reaches pages stride total n st w) (hdone : st.done = false)
    (hclosed : st.current.kind ≠ 0) : st.rest = [] := by
  obtain ⟨m, -, hok, hstep, -, -⟩ := h.step hdone
  cases hrest : st.rest with
  | nil => rfl
  | cons s t =>
      rw [Flow.step, if_neg (by simp [hdone, hok]), hrest] at hstep
      simp only [stepStmt, if_pos hclosed] at hstep
      cases hstep

variable (pages stride total w) in
/-- The walk ends the statement list of an open block with at most `n` steps left. -/
def Segments (n : Nat) : Prop :=
  ∀ st, Reaches pages stride total n st w → st.done = false → st.current.kind = 0 →
    ∃ m st' stmts, m ≤ n ∧ Reaches pages stride total m st' w ∧ Segment st st' stmts

theorem segments_ifStmt {n : Nat} (ih : ∀ m, m ≤ n → Segments pages stride total w m) {st : Build α}
    {cond : Expr} {thenB elseB t : List Stmt} {s e : Nat} {x : TypedExpr α} {rest : List (List α)}
    (hrest : st.rest = .ifStmt cond thenB elseB s e :: t) (hdone : st.done = false)
    (htakes : Takes st 2 (exprStart cond) (exprEnd cond) 0 0 x rest)
    (hatt : attachExpression st cond 2 0 0 = st.attach x rest) (hroom : st.current.expressions.length + 1 ≤ 1024)
    (h : Reaches pages stride total n (addBranch st t cond thenB elseB) w) :
    ∃ m st' stmts, m ≤ n ∧ Reaches pages stride total m st' w ∧ Segment st st' stmts := by
  obtain ⟨f, hf, hkind, hphase⟩ :
      ∃ f, (addBranch st t cond thenB elseB).frames = f :: st.frames ∧ f.kind ≠ 1 ∧ f.phase = 0 :=
    ⟨_, rfl, Nat.zero_ne_one, rfl⟩
  have hdone₁ : (addBranch st t cond thenB elseB).done = false := by
    rw [addBranch, hatt]
    exact hdone
  -- the then part
  obtain ⟨n₁, s₁, yes, hn₁, hr₁, hseg₁⟩ := ih n le_rfl _ h hdone₁ rfl
  obtain ⟨m₁, rfl, -, hthen⟩ := hr₁.unwind hseg₁.done hseg₁.rest (hseg₁.frames.trans hf)
  rw [unwind, if_neg hkind, if_pos hphase] at hthen
  -- the else part
  have hdone₂ : (unwindThen s₁ f st.frames).done = false := (closeToJoin_frame s₁ f.joinId).2.2.1.trans hseg₁.done
  obtain ⟨n₂, s₂, no, hn₂, hr₂, hseg₂⟩ := ih m₁ (by omega) _ hthen hdone₂ rfl
  obtain ⟨m₂, rfl, -, helse⟩ := hr₂.unwind hseg₂.done hseg₂.rest hseg₂.frames
  rw [unwind, if_neg hkind, if_neg (by simp)] at helse
  -- what follows the join
  have hdone₃ : (unwindElse s₂ { f with phase := 1, thenFalls := s₁.falls } st.frames).done = false :=
    (closeToJoin_frame s₂ f.joinId).2.2.1.trans hseg₂.done
  obtain ⟨n₃, s₃, stmts, hn₃, hr₃, hseg₃⟩ := ih m₂ (by omega) _ helse hdone₃ rfl
  exact ⟨n₃, s₃, _, by omega, hr₃, .ifStmt hrest htakes hatt hroom hf hseg₁ hr₁.fits hseg₂ hr₂.fits hseg₃⟩

theorem segments_iterateStmt {n : Nat} (ih : ∀ m, m ≤ n → Segments pages stride total w m) {st mid : Build α}
    {ns ne bs be ss se a b c xs xe s e : Nat} {iterated initial nv : Expr} {ho : Bool} {body t : List Stmt}
    {source : Option (TypedExpr α)} {x : TypedExpr α} {rest : List (List α)}
    (hrest : st.rest = .iterateStmt ns ne iterated ho bs be ss se a b c initial body xs xe nv s e :: t)
    (hsource : TakesSource st ho iterated s e source mid) (hmid : attachIterateSource st iterated ho s e = mid)
    (htakes : Takes mid 5 (exprStart initial) (exprEnd initial) ss se x rest)
    (hatt : attachExpression mid initial 5 ss se = mid.attach x rest)
    (hroom : st.current.expressions.length + (n + 1) ≤ 1024)
    (h : Reaches pages stride total n
      (addIterate pages stride total st t ns ne iterated ho bs be ss se initial body nv s e) w) :
    ∃ m st' stmts, m ≤ n ∧ Reaches pages stride total m st' w ∧ Segment st st' stmts := by
  obtain ⟨f, hf, hkind⟩ :
      ∃ f, (addIterate pages stride total st t ns ne iterated ho bs be ss se initial body nv s e).frames =
        f :: st.frames ∧ f.kind = 1 := ⟨_, rfl, rfl⟩
  -- the body
  obtain ⟨n₁, s₁, stmts₁, hn₁, hr₁, hseg₁⟩ := ih n le_rfl _ h rfl rfl
  obtain ⟨m₁, rfl, hok, hback⟩ := hr₁.unwind hseg₁.done hseg₁.rest (hseg₁.frames.trans hf)
  rw [unwind, if_pos hkind] at hback hok
  have hroom₁ : s₁.current.kind = 0 → s₁.current.expressions.length + 1 ≤ 1024 := by
    intro hopen
    have := hr₁.room hopen
    omega
  -- what follows the loop
  obtain ⟨hopen₂, hdone₂⟩ :
      (unwindIterate s₁ f st.frames).current.kind = 0 ∧ (unwindIterate s₁ f st.frames).done = false := by
    obtain ⟨-, back, heq, -⟩ := unwindIterate_frame hok hroom₁
    rw [heq]
    exact ⟨rfl, rfl⟩
  obtain ⟨n₂, s₂, stmts, hn₂, hr₂, hseg₂⟩ := ih m₁ (by omega) _ hback hdone₂ hopen₂
  obtain ⟨next, hseg⟩ := Segment.iterateStmt hrest hsource hmid htakes hatt (by omega) hf hseg₁ hroom₁ hok hseg₂
  exact ⟨n₂, s₂, _, by omega, hr₂, hseg⟩

/-- **The walk of a statement list is a segment.** By strong induction on the steps left: the parts of a statement
    and the statements after it are walked with fewer. -/
theorem segments (n : Nat) : Segments pages stride total w n := by
  induction n using Nat.strong_induction_on with
  | _ n ih =>
      intro st h hdone hopen
      have hroom := h.room hopen
      cases hrest : st.rest with
      | nil => exact ⟨n, st, [], le_rfl, h, .nil hrest hdone hopen⟩
      | cons stmt t =>
          obtain ⟨m, rfl, -, -, hmove, hnext⟩ := h.step hdone
          have ih : ∀ k, k ≤ m → Segments pages stride total w k := fun k hk => ih k (by omega)
          generalize Flow.step pages stride total st = st₁ at hmove hnext
          cases hmove with
          | @letStmt nameStart nameStop _ _ _ _ _ value t x rest hrest hopen htakes hatt =>
              have hadd : addLet st t value nameStart nameStop = { st.attach x rest with rest := t } := by
                rw [addLet, hatt]
              have hfits : st.current.expressions.length + 1 + m ≤ 1024 := by omega
              obtain ⟨k, st', stmts, hk, hr, hseg⟩ := ih m le_rfl _ (hnext fun _ => by rw [hadd]; exact hfits)
                (by rw [hadd]; exact hdone) (by rw [hadd]; exact hopen)
              exact ⟨k, st', _, by omega, hr, .letStmt hrest htakes hatt hseg⟩
          | ifStmt hrest hopen htakes hatt =>
              obtain ⟨k, st', stmts, hk, hr, hseg⟩ :=
                segments_ifStmt ih hrest hdone htakes hatt (by omega) (hnext (fun _ => by simp [addBranch]; omega))
              exact ⟨k, st', stmts, by omega, hr, hseg⟩
          | failStmt hrest hopen =>
              have hr := hnext (fun h => absurd h (Nat.succ_ne_zero 3))
              obtain rfl := hr.rest_nil hdone (Nat.succ_ne_zero 3)
              exact ⟨m, _, _, by omega, hr, .failStmt hrest hdone (by omega)⟩
          | @returnStmt value _ _ t x rest hrest hopen htakes hatt =>
              have hr := hnext (fun h => absurd h (Nat.succ_ne_zero 2))
              have hdone₁ : (addReturn st t value).done = false := by
                rw [addReturn, hatt]
                exact hdone
              obtain rfl := hr.rest_nil hdone₁ (Nat.succ_ne_zero 2)
              exact ⟨m, _, _, by omega, hr, .returnStmt hrest hdone htakes hatt (by omega)⟩
          | iterateStmt hrest hopen hsource hmid htakes hatt =>
              obtain ⟨k, st', stmts, hk, hr, hseg⟩ :=
                segments_iterateStmt ih hrest hsource hmid htakes hatt hroom (hnext (fun _ => by simp [addIterate]; omega))
              exact ⟨k, st', stmts, by omega, hr, hseg⟩
          | backedge h => simp [h] at hrest
          | sink h => simp [h] at hrest
          | thenEnd h => simp [h] at hrest
          | elseEnd h => simp [h] at hrest
          | tail h => simp [h] at hrest
          | closed h => simp [h] at hrest

/-! ## Bodies -/

/-- The graph of a body: the blocks of a walk that ends in order hold the typed body at the entry. -/
theorem body_code {st : Build α} {body : FnBody} (h : Reaches pages stride total 1024 st w) (hdone : st.done = false)
    (hcurrent : st.current = emptyBlock 0 true false) (hframes : st.frames = []) (hrest : st.rest = body.body)
    (htail : st.tail = body.ret) :
    ∃ typed live, typeBody body st.typedRest = some typed ∧
      ∀ blocks, w.blocks ⊆ blocks → Code blocks 0 [] typed.stmts (.tail typed.tail) live := by
  obtain ⟨m, st', stmts, -, hr, hseg⟩ := segments 1024 st h hdone (by rw [hcurrent]; rfl)
  have htyped := hseg.typed
  have hclosed := hseg.closed
  have hcode := hseg.code
  rw [hrest] at htyped
  rw [hcurrent] at hcode
  obtain ⟨k, rfl, -, -, hmove, hnext⟩ := hr.step hseg.done
  have hroom := hr.room
  have hstay : (Flow.step pages stride total st').done = true → w = Flow.step pages stride total st' := by
    intro hend
    have hrun := hr.run
    rw [Function.iterate_succ_apply, Function.iterate_fixed (step_of_done hend)] at hrun
    exact hrun.symm
  generalize Flow.step pages stride total st' = last at hmove hstay
  have hno : ∀ {f : FlowFrame} {tail : List FlowFrame}, st'.frames ≠ f :: tail := by
    intro f tail
    rw [hseg.frames, hframes]
    exact (List.cons_ne_nil f tail).symm
  cases hmove with
  | @tail x rest _ _ hhas hopen htakes hatt =>
      rw [hseg.tail.1, htail] at htakes
      have hw := finishTail_of_open hhas hopen hatt
      rw [hw] at hstay
      have hw := hstay rfl
      subst hw
      refine ⟨{ stmts := stmts, tail := some x }, st'.falls, ?_, ?_⟩
      · have hx := takeTyped_of_takes htakes
        simp [typeBody, htyped, hclosed, hopen, hx]
      · intro blocks hblocks
        refine hcode blocks (.tail (some x)) (List.subset_of_cons_subset hblocks) rfl ?_
        intro _
        refine ⟨x, _, rfl, ⟨hblocks List.mem_cons_self, rfl, rfl, ?_⟩, ?_⟩
        · have hfits : st'.current.expressions.length + 1 ≤ 1024 := by
            have := hroom hopen
            omega
          simp only [reverseTypedExpressions_cons hfits]
        · rw [hseg.tail.1, htail]
          exact htakes.span
  | closed _ _ hhas hkind =>
      rw [finishTail_of_closed hhas hkind] at hstay
      have hw := hstay rfl
      subst hw
      refine ⟨{ stmts := stmts, tail := none }, st'.falls, ?_, ?_⟩
      · simp [typeBody, htyped, hclosed, hkind]
      · intro blocks hblocks
        refine hcode blocks (.tail none) hblocks rfl ?_
        intro hfalls
        exact absurd (Build.open_of_falls hfalls) hkind
  | letStmt h => cases hseg.rest.symm.trans h
  | ifStmt h => cases hseg.rest.symm.trans h
  | failStmt h => cases hseg.rest.symm.trans h
  | returnStmt h => cases hseg.rest.symm.trans h
  | iterateStmt h => cases hseg.rest.symm.trans h
  | backedge _ h => exact absurd h hno
  | sink _ h => exact absurd h hno
  | thenEnd _ h => exact absurd h hno
  | elseEnd _ h => exact absurd h hno

/-- **Lowering preserves meaning.** For every body whose graph is verified the operation lists type the body, and for
    every oracle the typed body and the graph, from block 0, evaluate the same expressions and make the same choices
    in the same order, and end in the same way. -/
theorem lowerOneFn_preserves (pages : List View) (stride total : Nat) (st : FnWalk α) (h : FnDecl)
    (t : List FnDecl) : ∃ flow, (lowerOneFn pages stride total st h t).acc = flow :: st.acc ∧
      (flow.verified = true → ∃ typed, typeBody h.body st.typedRest = some typed ∧ ∀ oracle : Oracle α,
        Same (exec oracle typed.tail) (execGraph oracle flow.blocks) Config.ending GConfig.ending Config.events
            GConfig.events (.run typed.stmts [] []) (.block 0 []) ∧
          ∀ m, ((execGraph oracle flow.blocks)^[m] (.block 0 [])).ending ≠ some none) := by
  refine ⟨_, rfl, ?_⟩
  intro hv
  have hflow := functionFlow_fromWalk walk_inv hv
  have hreaches : Reaches pages stride total 1024 (initialBuild total st h)
      (walk pages stride total (initialBuild total st h)) :=
    ⟨rfl, hflow.ok, hflow.done, Nat.le_refl 1024, fun _ => Nat.le_of_eq (Nat.zero_add 1024)⟩
  obtain ⟨typed, live, htyped, hcode⟩ := body_code hreaches rfl rfl rfl rfl rfl
  have hsub : (walk pages stride total (initialBuild total st h)).blocks ⊆
      (functionFlow h (finishBuild (walk pages stride total (initialBuild total st h)))).blocks := by
    rw [hflow.blocks]
    intro b hb
    exact List.mem_reverse.mpr hb
  have hnodup := hflow.wellFormed.ids.nodup_iff.mpr List.nodup_range
  exact ⟨typed, htyped, fun oracle => (hcode _ hsub).same hnodup oracle⟩

set_option maxRecDepth 2000 in
/-- `if c { return c; } else { }` and a tail: four blocks, verified. -/
example :
    (lowerOneFn [] 0 0
      { rest := [], typedRest := [[1], [1], [1]], acc := [], diagnostics := [], blockCount := 0, functionCount := 0,
        ok := true }
      { ok := true, errStart := 0, errStop := 0
        sig :=
          { nameStart := 0, nameStop := 1, generics := [], params := [], results := [], contracts := [], effects := []
            capabilities := [] }
        body :=
          { body := [.ifStmt (.name 3 4) [.returnStmt (.name 6 7) 5 8] [] 2 9], ret := .name 9 10, hasRet := true }
        fnStart := 0, fnStop := 11, cursor := 11 } []).acc.map (fun f => (f.verified, f.blockCount)) = [(true, 4)] := by
  simp -zeta only [↓Halting.iterate_eq_run, lowerOneFn, walk, step, stepStmt, addBranch, addReturn, stepEmpty, unwind,
    unwindThen, unwindElse, closeToJoin, finishTail, attachExpression, attachExpressionAt, attachTypedOps,
    Flow.countTops, functionFlow, reverseBlocks, reverseTypedExpressions, appendDiagnostics, reverseWithin_eq,
    blockCount, countWithin_eq, verifyTargets_eq, Sweep.iterate_step]
  decide +kernel

end Pages

end MncsCompiler.Flow
