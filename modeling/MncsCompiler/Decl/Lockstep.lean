import MncsCompiler.Decl.Obligations

/-!
# `Decl.Lockstep` — one operation list for each expression

The walk over a body pushes the operations of an expression when it proves it, branch by branch and loop by loop. In a
unit that is accepted, what it has pushed at the end is one list for each expression of the bodies, in program order
(`proveParsedUnit_handsOn`). Three things can break that, and each of them is silent: a bounded list that is full, a
proof that fails without a failed obligation, and a sequence whose type is not known, whose loop is left out.
-/

namespace MncsCompiler.Decl

open BoundedLoop

variable {src : Source}

/-! ## Expressions in program order -/

mutual

/-- The expressions of a statement in program order: of a loop its source, initial state, body and next state. -/
def Stmt.evaluated : Stmt → List Expr
  | .letStmt _ _ _ _ _ value _ _ => [value]
  | .ifStmt cond thenB elseB _ _ => cond :: (evaluatedAll thenB ++ evaluatedAll elseB)
  | .failStmt _ _ _ _ => []
  | .returnStmt value _ _ => [value]
  | .iterateStmt _ _ iterated hasOver _ _ _ _ _ _ _ initial body _ _ nextValue _ _ =>
      (if hasOver then [iterated] else []) ++ initial :: (evaluatedAll body ++ [nextValue])

def evaluatedAll : List Stmt → List Expr
  | [] => []
  | h :: t => h.evaluated ++ evaluatedAll t

end

def FnBody.evaluated (body : FnBody) : List Expr := evaluatedAll body.body ++ [body.ret]

/-- A statement that leaves the function. -/
def Stmt.leaves : Stmt → Bool
  | .returnStmt _ _ _ => true
  | .failStmt _ _ _ _ => true
  | _ => false

/-- Whether a block is left at its end. -/
def leftAfter : Bool → List Stmt → Bool
  | left, [] => left
  | _, h :: t => leftAfter h.leaves t

/-! ## Obligations -/

/-- Obligations that no bound has cut, none of them failed. -/
structure Clean (obls : List Obligation) : Prop where
  room : obls.length < 1024
  passed : ∀ o ∈ obls, o.status ≠ 1

theorem Clean.of_append {first second : List Obligation} (h : Clean (first ++ second)) :
    Clean first ∧ Clean second := by
  have hroom := h.room
  rw [List.length_append] at hroom
  constructor
  · exact ⟨by omega, fun o ho => h.passed o (List.mem_append_left _ ho)⟩
  · exact ⟨by omega, fun o ho => h.passed o (List.mem_append_right _ ho)⟩

theorem Clean.of_appendObls {first second : List Obligation} (h : Clean (appendObls first second)) :
    Clean first ∧ Clean second := by
  have hroom := h.room
  rw [appendObls_eq, List.length_append, List.length_take] at hroom
  rw [appendObls_eq, List.take_of_length_le (by omega)] at h
  exact h.of_append

theorem not_clean_failed {obls : List Obligation} {o : Obligation} (hmem : o ∈ obls) (hfailed : o.status = 1) :
    ¬ Clean obls := by
  intro h
  exact h.passed o hmem hfailed

theorem Clean.of_matchObl (st : StmtWalk) {actual wanted : SemType} {obls : List Obligation} {kind s e : Nat}
    (h : Clean (matchObl src st actual wanted obls kind s e)) : Clean obls := by
  unfold matchObl at h
  split at h
  · exact h
  · split at h
    · exact h
    · exact h.of_appendObls.1

theorem Clean.of_dupObl (st : StmtWalk) {bind : BindRes} {obls : List Obligation} {a b : Nat}
    (h : Clean (dupObl st bind obls a b)) : Clean obls := by
  unfold dupObl at h
  split at h
  · exact h
  · exact h.of_appendObls.1

/-! ## What is asked and handed on -/

/-- A proof is loud: it fails an obligation, or it hands on operations, and knows the type of a sequence. -/
def Loud (src : Source) (st : StmtWalk) (e : Expr) (want : ExpTy) : Prop :=
  (∃ o ∈ (st.proof src e want).obls, o.status = 1) ∨
    (st.proof src e want).ok = true ∧ (st.proof src e want).tops ≠ [] ∧
      (want = .xNone → isPoison (st.proof src e want).ty = false)

/-- The expressions that the step of a walk asks to be proved. -/
inductive Asks (src : Source) (st : StmtWalk) : Expr → ExpTy → Prop
  | value {a b c d k x y : Nat} {v : Expr} {t : List Stmt} : st.rest = .letStmt a b c d k v x y :: t →
      Asks src st v (.xSome (paramBoundType (st.annotated src k c d)))
  | cond {c : Expr} {thenB elseB t : List Stmt} {x y : Nat} : st.rest = .ifStmt c thenB elseB x y :: t →
      Asks src st c (.xSome .tBool)
  | returned {v : Expr} {x y : Nat} {t : List Stmt} : st.rest = .returnStmt v x y :: t →
      Asks src st v (.xSome st.sig.result)
  | source {ns ne bs be ss se ts te tk xs xe x y : Nat} {o init nv : Expr} {body t : List Stmt} :
      st.rest = .iterateStmt ns ne o true bs be ss se ts te tk init body xs xe nv x y :: t → Asks src st o .xNone
  | initial {ns ne bs be ss se ts te tk xs xe x y : Nat} {o init nv : Expr} {hasOver : Bool} {body t : List Stmt} :
      st.rest = .iterateStmt ns ne o hasOver bs be ss se ts te tk init body xs xe nv x y :: t →
      Asks src st init (.xSome (st.annotated src tk ts te).ty)
  | next {f : StmtFrame} {frames : List StmtFrame} : st.rest = [] → st.frames = f :: frames → f.kind = 1 →
      Asks src st f.nextValue (.xSome f.stateTy)

/-- The operations that a walk hands on for an expression: those of its proof, which the verifier accepts unless the
    type of the expression is not known, or the name that is returned. -/
inductive HandedAt (src : Source) (st : StmtWalk) : Expr → List TOp → Prop
  | proved {e : Expr} {want : ExpTy} : (st.proof src e want).ok = true →
      (skipVerify (st.proof src e want).ty want || verifyTops src (st.proof src e want).tops .xNone) = true →
      (st.proof src e want).tops ≠ [] → HandedAt src st e (st.proof src e want).tops
  | named {a b : Nat} : (envLookup src st.env a b).found = true →
      HandedAt src st (.name a b) [.tName (envLookup src st.env a b).ty a b]

theorem HandedAt.ne_nil {st : StmtWalk} {e : Expr} {ops : List TOp} (h : HandedAt src st e ops) : ops ≠ [] := by
  cases h with
  | proved _ _ hops => exact hops
  | named _ => exact List.cons_ne_nil _ _

/-- What is handed on does not depend on what was handed on before. -/
theorem HandedAt.of_checked {st : StmtWalk} {obls : List Obligation} {tops : List (List TOp)} {e : Expr}
    {ops : List TOp} (h : HandedAt src { st with obls := obls, tops := tops } e ops) : HandedAt src st e ops := by
  cases h with
  | proved hok hverified hops => exact .proved hok hverified hops
  | named hfound => exact .named hfound

/-- A loud proof without a failed obligation. -/
theorem Loud.done {st : StmtWalk} {e : Expr} {want : ExpTy} (h : Loud src st e want)
    (hclean : Clean (st.proof src e want).obls) :
    (st.proof src e want).ok = true ∧ (st.proof src e want).tops ≠ [] ∧
      (want = .xNone → isPoison (st.proof src e want).ty = false) := by
  rcases h with ⟨o, ho, hfailed⟩ | h
  · exact absurd hclean (not_clean_failed ho hfailed)
  · exact h

theorem Loud.not_refused {st : StmtWalk} {e : Expr} {want : ExpTy} (h : Loud src st e want)
    (hclean : Clean (st.proof src e want).obls) : ¬ (!(st.proof src e want).ok) = true := by
  rw [(h.done hclean).1]
  exact Bool.false_ne_true

/-- What a walk goes on with has been verified. -/
theorem Loud.handed {st : StmtWalk} {e : Expr} {want : ExpTy} (h : Loud src st e want)
    (hclean : Clean (st.proof src e want).obls)
    (hverified : ¬ (!skipVerify (st.proof src e want).ty want &&
      !verifyTops src (st.proof src e want).tops .xNone) = true) :
    HandedAt src st e (st.proof src e want).tops := by
  obtain ⟨hok, hops, -⟩ := h.done hclean
  refine .proved hok ?_ hops
  rw [Bool.and_eq_true, Bool.not_eq_true', Bool.not_eq_true', not_and, Bool.not_eq_false] at hverified
  rw [Bool.or_eq_true]
  cases hskip : skipVerify (st.proof src e want).ty want with
  | true => exact .inl rfl
  | false => exact .inr (hverified hskip)

/-! ## Steps -/

/-- What the step at a statement does that fails nothing. -/
inductive Treats (src : Source) (st st' : StmtWalk) : Stmt → List Stmt → Prop
  | straight {h : Stmt} {t : List Stmt} {lists : List (List TOp)} (hnext : st'.rest = t)
      (hframes : st'.frames = st.frames)
      (hclosed : st'.closed = h.leaves) (htops : st'.tops = lists.reverse ++ st.tops)
      (hlists : List.Forall₂ (HandedAt src st) h.evaluated lists) : Treats src st st' h t
  | branch {c : Expr} {thenB elseB t : List Stmt} {x y : Nat} {f : StmtFrame} {ops : List TOp}
      (hnext : st'.rest = thenB)
      (hframes : st'.frames = f :: st.frames) (hkind : f.kind = 0) (hphase : f.phase = 0) (hbehind : f.next = t)
      (helse : f.elseB = elseB) (hclosed : st'.closed = false) (htops : st'.tops = ops :: st.tops)
      (hops : HandedAt src st c ops) : Treats src st st' (.ifStmt c thenB elseB x y) t
  | loop {ns ne bs be ss se ts te tk xs xe x y : Nat} {o init nv : Expr} {hasOver : Bool} {body t : List Stmt}
      {f : StmtFrame} {lists : List (List TOp)} (hnext : st'.rest = body) (hframes : st'.frames = f :: st.frames)
      (hkind : f.kind = 1) (hbehind : f.next = t) (hvalue : f.nextValue = nv) (hclosed : st'.closed = false)
      (htops : st'.tops = lists.reverse ++ st.tops)
      (hlists : List.Forall₂ (HandedAt src st) ((if hasOver then [o] else []) ++ [init]) lists) :
      Treats src st st' (.iterateStmt ns ne o hasOver bs be ss se ts te tk init body xs xe nv x y) t

/-- What the step at the end of a block does that fails nothing. -/
inductive Unwinds (src : Source) (st st' : StmtWalk) (f : StmtFrame) (frames : List StmtFrame) : Prop
  | thenEnd (hkind : f.kind ≠ 1) (hphase : f.phase = 0) (hnext : st'.rest = f.elseB)
      (hframes : st'.frames = { f with phase := 1 } :: frames) (hclosed : st'.closed = false)
      (htops : st'.tops = st.tops)
  | elseEnd (hkind : f.kind ≠ 1) (hphase : f.phase ≠ 0) (hnext : st'.rest = f.next) (hframes : st'.frames = frames)
      (hclosed : st'.closed = false) (htops : st'.tops = st.tops)
  | backedge {ops : List TOp} (hkind : f.kind = 1) (hnext : st'.rest = f.next) (hframes : st'.frames = frames)
      (hclosed : st'.closed = false) (htops : st'.tops = ops :: st.tops) (hops : HandedAt src st f.nextValue ops)

section Statements

variable {st : StmtWalk}

/-- A statement that was passed after the proof of one expression. -/
structure Passed (src : Source) (st st' : StmtWalk) (t : List Stmt) (closed : Bool) (e : Expr) : Prop where
  clean : Clean st.obls
  ok : st.ok = true
  rest : st'.rest = t
  frames : st'.frames = st.frames
  closed : st'.closed = closed
  handed : ∃ ops, st'.tops = ops :: st.tops ∧ HandedAt src st e ops

theorem Passed.treats {st' : StmtWalk} {h : Stmt} {t : List Stmt} {e : Expr} (hpassed : Passed src st st' t h.leaves e)
    (he : h.evaluated = [e]) : Clean st.obls ∧ Treats src st st' h t := by
  obtain ⟨ops, htops, hops⟩ := hpassed.handed
  have hlists : List.Forall₂ (HandedAt src st) h.evaluated [ops] := by
    rw [he]
    exact .cons hops .nil
  have hpushed : st'.tops = [ops].reverse ++ st.tops := htops
  exact ⟨hpassed.clean, .straight hpassed.rest hpassed.frames hpassed.closed hpushed hlists⟩

theorem proveLet_passed {t : List Stmt} {a b c d k x y : Nat} {v : Expr}
    (hloud : Loud src st v (.xSome (paramBoundType (st.annotated src k c d))))
    (hok : (proveLet src st t a b c d k v x y).ok = true) (hclean : Clean (proveLet src st t a b c d k v x y).obls) :
    Passed src st (proveLet src st t a b c d k v x y) t st.closed v := by
  have hhanded := hloud.handed
  have hproved := hloud.not_refused
  unfold proveLet at hok hclean ⊢
  unfold StmtWalk.proof StmtWalk.annotated at hhanded hproved
  dsimp only at hok hclean ⊢
  generalize proveExprWithImportedSchemas src st.env st.sigs st.rectab st.enumtab st.nominals st.importedRecords
    st.importedEnums st.sig.effects st.sig.fx st.sig.rawCapabilities st.gparams v _ =
      res at hok hclean hhanded hproved ⊢
  split at hok
  · next hrefused =>
      rw [if_pos hrefused] at hclean
      dsimp only at hclean
      exact absurd hrefused (hproved hclean.of_appendObls.2)
  · next hrefused =>
      rw [if_neg hrefused] at hclean ⊢
      split at hok
      · cases hok
      · next hverified =>
          rw [if_neg hverified] at hclean ⊢
          obtain ⟨hfirst, hres⟩ := (Clean.of_matchObl st (Clean.of_dupObl st hclean)).of_appendObls
          exact ⟨hfirst.of_appendObls.1, hok, rfl, rfl, rfl, res.tops, rfl, hhanded hres hverified⟩

theorem proveReturnExpr_passed {t : List Stmt} {v : Expr} {x y : Nat} (hloud : Loud src st v (.xSome st.sig.result))
    (hok : (proveReturnExpr src st v t x y).ok = true) (hclean : Clean (proveReturnExpr src st v t x y).obls) :
    Passed src st (proveReturnExpr src st v t x y) t true v := by
  have hhanded := hloud.handed
  have hproved := hloud.not_refused
  unfold proveReturnExpr at hok hclean ⊢
  unfold StmtWalk.proof at hhanded hproved
  dsimp only at hok hclean ⊢
  generalize proveExprWithImportedSchemas src st.env st.sigs st.rectab st.enumtab st.nominals st.importedRecords
    st.importedEnums st.sig.effects st.sig.fx st.sig.rawCapabilities st.gparams v _ =
      res at hok hclean hhanded hproved ⊢
  split at hok
  · next hrefused =>
      rw [if_pos hrefused] at hclean
      dsimp only at hclean
      exact absurd hrefused (hproved hclean.of_appendObls.2)
  · next hrefused =>
      rw [if_neg hrefused] at hclean ⊢
      split at hok
      · cases hok
      · next hverified =>
          rw [if_neg hverified] at hclean ⊢
          obtain ⟨hfirst, hres⟩ := (Clean.of_matchObl st hclean).of_appendObls
          exact ⟨hfirst, hok, rfl, rfl, rfl, res.tops, rfl, hhanded hres hverified⟩

theorem proveReturnName_passed {t : List Stmt} {a b x y : Nat} (hok : (proveReturnName src st t a b x y).ok = true)
    (hclean : Clean (proveReturnName src st t a b x y).obls) :
    Passed src st (proveReturnName src st t a b x y) t true (.name a b) := by
  have hnamed := @HandedAt.named src st a b
  unfold proveReturnName at hok hclean ⊢
  dsimp only at hok hclean ⊢
  generalize envLookup src st.env a b = got at hok hclean hnamed ⊢
  split at hok
  · next hmissing =>
      rw [if_pos hmissing] at hclean
      dsimp only at hclean
      obtain ⟨-, hfailed⟩ := hclean.of_appendObls
      exact absurd hfailed (not_clean_failed (List.mem_singleton_self _) rfl)
  · next hmissing =>
      rw [if_neg hmissing] at hclean ⊢
      rw [Bool.not_eq_true, Bool.not_eq_false'] at hmissing
      exact ⟨Clean.of_matchObl st hclean, hok, rfl, rfl, rfl, _, rfl, hnamed hmissing⟩

theorem proveReturnVal_passed {t : List Stmt} {v : Expr} {x y : Nat} (hloud : Loud src st v (.xSome st.sig.result))
    (hok : (proveReturnVal src st v t x y).ok = true) (hclean : Clean (proveReturnVal src st v t x y).obls) :
    Passed src st (proveReturnVal src st v t x y) t true v := by
  revert hok hclean
  unfold proveReturnVal
  split
  · intro hok hclean
    exact proveReturnName_passed hok hclean
  · unfold proveReturnRecordExpr
    exact proveReturnExpr_passed hloud
  · exact proveReturnExpr_passed hloud

/-- A failure that does not say how is refused. -/
theorem proveFail_clean {t : List Stmt} {a b x y : Nat} (hclean : Clean (proveFail src st t a b x y).obls) :
    Clean st.obls ∧ proveFail src st t a b x y = { st with rest := t, closed := true } := by
  unfold proveFail at hclean ⊢
  split at hclean
  · next hmode =>
      rw [if_pos hmode]
      exact ⟨hclean, rfl⟩
  · dsimp only at hclean
    exact absurd hclean.of_appendObls.2 (not_clean_failed (List.mem_singleton_self _) rfl)

theorem proveIf_treats {t thenB elseB : List Stmt} {c : Expr} {x y : Nat} (hloud : Loud src st c (.xSome .tBool))
    (hok : (proveIf src st t c thenB elseB x y).ok = true)
    (hclean : Clean (proveIf src st t c thenB elseB x y).obls) :
    Clean st.obls ∧ Treats src st (proveIf src st t c thenB elseB x y) (.ifStmt c thenB elseB x y) t := by
  have hhanded := hloud.handed
  have hproved := hloud.not_refused
  unfold proveIf at hok hclean ⊢
  unfold StmtWalk.proof at hhanded hproved
  dsimp only at hok hclean ⊢
  generalize proveExprWithImportedSchemas src st.env st.sigs st.rectab st.enumtab st.nominals st.importedRecords
    st.importedEnums st.sig.effects st.sig.fx st.sig.rawCapabilities st.gparams c _ =
      res at hok hclean hhanded hproved ⊢
  split at hok
  · next hrefused =>
      rw [if_pos hrefused] at hclean
      dsimp only at hclean
      exact absurd hrefused (hproved hclean.of_appendObls.2)
  · next hrefused =>
      rw [if_neg hrefused] at hclean ⊢
      split at hok
      · cases hok
      · next hverified =>
          rw [if_neg hverified] at hclean ⊢
          split at hclean
          · next hbool =>
              rw [if_pos hbool]
              unfold proveIfArms at hclean ⊢
              dsimp only at hclean
              obtain ⟨hfirst, hres⟩ := hclean.of_appendObls
              exact ⟨hfirst, .branch rfl rfl rfl rfl rfl rfl rfl rfl (hhanded hres hverified)⟩
          · unfold proveIfReject at hclean
            dsimp only at hclean
            exact absurd hclean.of_appendObls.2 (not_clean_failed (List.mem_singleton_self _) rfl)

/-! ## Loops -/

/-- A loop that is entered after the proofs of some expressions. -/
structure Entered (src : Source) (st st' : StmtWalk) (t : List Stmt) (info : IterateInfo)
    (asked : List Expr) : Prop where
  clean : Clean st.obls
  rest : st'.rest = info.body
  frames : ∃ f, st'.frames = f :: st.frames ∧ f.kind = 1 ∧ f.next = t ∧ f.nextValue = info.nextValue
  closed : st'.closed = false
  handed : ∃ lists, st'.tops = lists.reverse ++ st.tops ∧ List.Forall₂ (HandedAt src st) asked lists

/-- A step that fails nothing enters the loop. -/
def Opens (src : Source) (st st' : StmtWalk) (t : List Stmt) (info : IterateInfo) (asked : List Expr) : Prop :=
  st'.ok = true → Clean st'.obls → Entered src st st' t info asked

theorem Opens.ite {s s' : StmtWalk} {t : List Stmt} {info : IterateInfo} {asked : List Expr} {c : Prop} [Decidable c]
    (hs : c → Opens src st s t info asked) (hs' : ¬ c → Opens src st s' t info asked) :
    Opens src st (if c then s else s') t info asked := by
  split
  · exact hs ‹_›
  · exact hs' ‹_›

theorem Opens.rejected (mid : StmtWalk) (rest : List Stmt) (kind start stop : Nat) {t : List Stmt} {info : IterateInfo}
    {asked : List Expr} : Opens src st (rejectIterate mid rest kind start stop) t info asked := by
  intro _ hclean
  unfold rejectIterate at hclean
  dsimp only at hclean
  exact absurd hclean.of_appendObls.2 (not_clean_failed (List.mem_singleton_self _) rfl)

theorem Clean.of_typed {obls : List Obligation} {field : Field} {state : TyRes}
    (h : Clean (appendObls obls (paramTypeObl field state))) : Clean obls ∧ state.ok = true := by
  obtain ⟨hfirst, htyped⟩ := h.of_appendObls
  refine ⟨hfirst, ?_⟩
  unfold paramTypeObl at htyped
  split at htyped
  · assumption
  · split at htyped
    · exact absurd htyped (not_clean_failed (List.mem_singleton_self _) rfl)
    · exact absurd htyped (not_clean_failed (List.mem_singleton_self _) rfl)

theorem proveIterateInitial_opens {t : List Stmt} {info : IterateInfo} (bound : Nat) {stateTy : SemType}
    {obls : List Obligation} (hobls : Clean obls → Clean st.obls) (hloud : Loud src st info.initial (.xSome stateTy)) :
    Opens src st (proveIterateInitial src st t info bound stateTy obls) t info [info.initial] := by
  have hhanded := hloud.handed
  have hproved := hloud.not_refused
  unfold proveIterateInitial
  unfold StmtWalk.proof at hhanded hproved
  dsimp only
  generalize proveExprWithImportedSchemas src st.env st.sigs st.rectab st.enumtab st.nominals st.importedRecords
    st.importedEnums st.sig.effects st.sig.fx st.sig.rawCapabilities st.gparams info.initial _ =
      res at hhanded hproved ⊢
  refine .ite ?_ fun _ => .ite ?_ fun hverified => .ite (fun _ => .rejected _ _ _ _ _) fun _ => ?_
  · intro hrefused _ hclean
    dsimp only at hclean
    exact absurd hrefused (hproved hclean.of_appendObls.2)
  · intro _ hok
    cases hok
  · intro _ hclean
    unfold openIterate bindIterateState at hclean ⊢
    dsimp only at hclean
    obtain ⟨hfirst, hres⟩ := hclean.of_appendObls.1.of_appendObls
    refine ⟨hobls hfirst, rfl, ⟨_, rfl, rfl, rfl, rfl⟩, rfl, [res.tops], rfl, ?_⟩
    exact .cons (hhanded hres hverified) .nil

theorem prepareIterate_opens {t : List Stmt} {info : IterateInfo} (active : ActiveLoops) (bound : Nat)
    (hloud : Loud src st info.initial (.xSome (st.annotated src info.typeKind info.typeStart info.typeStop).ty)) :
    Opens src st (prepareIterate src st t info active bound) t info [info.initial] := by
  unfold prepareIterate
  refine .ite (fun _ => .rejected _ _ _ _ _) fun _ => .ite (fun _ => .rejected _ _ _ _ _) fun _ => .ite ?_ fun _ => ?_
  · intro hrefused _ hclean
    dsimp only at hclean
    rw [hclean.of_typed.2] at hrefused
    cases hrefused
  · exact proveIterateInitial_opens bound (fun h => h.of_typed.1) hloud

theorem validateIterateSequence_opens {t : List Stmt} {info : IterateInfo} (active : ActiveLoops) (sourceTy : SemType)
    (hloud : Loud src st info.initial (.xSome (st.annotated src info.typeKind info.typeStart info.typeStop).ty)) :
    Opens src st (validateIterateSequence src st t info active sourceTy) t info [info.initial] := by
  unfold validateIterateSequence
  refine .ite (fun _ => .rejected _ _ _ _ _) fun _ => .ite (fun _ => .rejected _ _ _ _ _) fun _ =>
    .ite (fun _ => .rejected _ _ _ _ _) fun _ => ?_
  exact prepareIterate_opens active _ hloud

theorem proveIterateOver_opens {t : List Stmt} {info : IterateInfo} (active : ActiveLoops)
    (hsource : Loud src st info.overSource .xNone)
    (hloud : Loud src st info.initial (.xSome (st.annotated src info.typeKind info.typeStart info.typeStop).ty)) :
    Opens src st (proveIterateOver src st t info active) t info [info.overSource, info.initial] := by
  have hhanded := hsource.handed
  have hproved := hsource.not_refused
  have hdone := hsource.done
  have hnext := fun obls tops active ty =>
    @validateIterateSequence_opens src { st with obls := obls, tops := tops } t info active ty hloud
  unfold proveIterateOver
  unfold StmtWalk.proof at hhanded hproved hdone
  dsimp only
  generalize proveExprWithImportedSchemas src st.env st.sigs st.rectab st.enumtab st.nominals st.importedRecords
    st.importedEnums st.sig.effects st.sig.fx st.sig.rawCapabilities st.gparams info.overSource _ = res
    at hhanded hproved hdone ⊢
  refine .ite ?_ fun _ => .ite ?_ fun hverified => .ite ?_ fun _ => .ite (fun _ => .rejected _ _ _ _ _) fun _ => ?_
  · intro hrefused _ hclean
    dsimp only at hclean
    exact absurd hrefused (hproved hclean.of_appendObls.2)
  · intro _ hok
    cases hok
  · intro hpoison _ hclean
    dsimp only at hclean
    rw [(hdone hclean.of_appendObls.2).2.2 rfl] at hpoison
    cases hpoison
  · intro hok hclean
    obtain ⟨hfirst, hrest, hframes, hclosed, lists, htops, hlists⟩ := hnext _ _ _ _ hok hclean
    dsimp only at hfirst hframes htops
    obtain ⟨hfirst, hres⟩ := hfirst.of_appendObls
    refine ⟨hfirst, hrest, hframes, hclosed, res.tops :: lists, ?_, ?_⟩
    · rw [htops, List.reverse_cons, List.append_assoc]
      rfl
    · exact .cons (hhanded hres hverified) (hlists.imp fun _ _ h => h.of_checked)

theorem proveIterate_opens {t : List Stmt} {ns ne bs be ss se ts te tk xs xe x y : Nat} {o init nv : Expr}
    {hasOver : Bool} {body : List Stmt} (hsource : hasOver = true → Loud src st o .xNone)
    (hloud : Loud src st init (.xSome (st.annotated src tk ts te).ty)) :
    Opens src st (proveIterate src st t ns ne o hasOver bs be ss se ts te tk init body xs xe nv x y) t
      (iterateInfo ns ne o hasOver bs be ss se ts te tk init body xs xe nv x y)
      ((if hasOver then [o] else []) ++ [init]) := by
  unfold proveIterate
  refine .ite (fun _ => .rejected _ _ _ _ _) fun _ => .ite ?_ fun hcounted => ?_
  · intro hover
    rw [if_pos hover]
    exact proveIterateOver_opens _ (hsource hover) hloud
  · rw [if_neg hcounted]
    exact .ite (fun _ => .rejected _ _ _ _ _) fun _ => prepareIterate_opens _ _ hloud

/-- The end of a loop body. -/
theorem unwindLoopFrame_unwinds {f : StmtFrame} {frames : List StmtFrame} (hkind : f.kind = 1)
    (hloud : Loud src st f.nextValue (.xSome f.stateTy)) (hok : (unwindLoopFrame src st f frames).ok = true)
    (hclean : Clean (unwindLoopFrame src st f frames).obls) :
    Clean st.obls ∧ Unwinds src st (unwindLoopFrame src st f frames) f frames := by
  have hhanded := hloud.handed
  have hproved := hloud.not_refused
  unfold unwindLoopFrame at hok hclean ⊢
  split at hclean
  · dsimp only [rejectIterate] at hclean
    exact absurd hclean.of_appendObls.2 (not_clean_failed (List.mem_singleton_self _) rfl)
  · next hopen =>
      rw [if_neg hopen] at hok ⊢
      unfold proveIterateNextName proveIterateNextValue at hok hclean ⊢
      unfold StmtWalk.proof at hhanded hproved
      dsimp only at hok hclean ⊢
      generalize proveExprWithImportedSchemas src st.env st.sigs st.rectab st.enumtab st.nominals st.importedRecords
        st.importedEnums st.sig.effects st.sig.fx st.sig.rawCapabilities st.gparams f.nextValue _ = res
        at hok hclean hhanded hproved ⊢
      split at hok
      · next hrefused =>
          rw [if_pos hrefused] at hclean
          dsimp only at hclean
          exact absurd hrefused (hproved hclean.of_appendObls.2)
      · next hrefused =>
          rw [if_neg hrefused] at hclean ⊢
          split at hok
          · cases hok
          · next hverified =>
              rw [if_neg hverified] at hclean ⊢
              unfold closeIterateNext at hclean ⊢
              dsimp only at hclean
              obtain ⟨hnamed, hres⟩ := hclean.of_appendObls.1.of_appendObls.1.of_appendObls
              exact ⟨hnamed.of_appendObls.1, .backedge hkind rfl rfl rfl rfl (hhanded hres hverified)⟩

/-- **The step at a statement**: what fails nothing hands on the operations of the expressions that it asks to be
    proved. -/
theorem proveStmtStep_treats {h : Stmt} {t : List Stmt} (hrest : st.rest = h :: t)
    (hloud : ∀ e want, Asks src st e want → Loud src st e want) (hok : (proveStmtStep src st).ok = true)
    (hclean : Clean (proveStmtStep src st).obls) : Clean st.obls ∧ Treats src st (proveStmtStep src st) h t := by
  have hstep : proveStmtStep src st = proveStmtCons src st h t := by
    rw [proveStmtStep, if_neg (by rw [ok_of_step hok]; decide), hrest]
  unfold proveStmtCons at hstep
  cases hclosed : st.closed with
  | true =>
      -- behind a statement that leaves the function
      rw [if_pos hclosed] at hstep
      rw [hstep] at hclean
      dsimp only at hclean
      exact absurd hclean.of_appendObls.2 (not_clean_failed (List.mem_singleton_self _) rfl)
  | false =>
      rw [if_neg (by rw [hclosed]; decide)] at hstep
      cases h with
      | letStmt a b c d k v x y =>
          have hone : proveStmtStep src st = proveLet src st t a b c d k v x y := hstep
          rw [hone] at hok hclean ⊢
          have hpassed := proveLet_passed (hloud _ _ (.value hrest)) hok hclean
          rw [hclosed] at hpassed
          exact hpassed.treats (by rw [Stmt.evaluated])
      | ifStmt c thenB elseB x y =>
          have hone : proveStmtStep src st = proveIf src st t c thenB elseB x y := hstep
          rw [hone] at hok hclean ⊢
          exact proveIf_treats (hloud _ _ (.cond hrest)) hok hclean
      | failStmt a b x y =>
          have hone : proveStmtStep src st = proveFail src st t a b x y := hstep
          rw [hone] at hclean ⊢
          obtain ⟨hfirst, heq⟩ := proveFail_clean hclean
          rw [heq]
          have hlists : List.Forall₂ (HandedAt src st) (Stmt.failStmt a b x y).evaluated [] := by
            rw [Stmt.evaluated]
            exact .nil
          exact ⟨hfirst, .straight rfl rfl rfl rfl hlists⟩
      | returnStmt v x y =>
          have hone : proveStmtStep src st = proveReturnVal src st v t x y := hstep
          rw [hone] at hok hclean ⊢
          have hpassed := proveReturnVal_passed (hloud _ _ (.returned hrest)) hok hclean
          exact hpassed.treats (by rw [Stmt.evaluated])
      | iterateStmt ns ne o hasOver bs be ss se ts te tk init body xs xe nv x y =>
          have hone : proveStmtStep src st =
              proveIterate src st t ns ne o hasOver bs be ss se ts te tk init body xs xe nv x y := hstep
          rw [hone] at hok hclean ⊢
          have hsource : hasOver = true → Loud src st o .xNone := by
            intro hover
            subst hover
            exact hloud _ _ (.source hrest)
          obtain ⟨hfirst, hnext, ⟨f, hframes, hkind, hbehind, hvalue⟩, hleft, lists, htops, hlists⟩ :=
            proveIterate_opens hsource (hloud _ _ (.initial hrest)) hok hclean
          exact ⟨hfirst, .loop hnext hframes hkind hbehind hvalue hleft htops hlists⟩

/-- **The step at the end of a block.** -/
theorem proveStmtStep_unwinds {f : StmtFrame} {frames : List StmtFrame} (hrest : st.rest = [])
    (hframes : st.frames = f :: frames) (hloud : ∀ e want, Asks src st e want → Loud src st e want)
    (hok : (proveStmtStep src st).ok = true) (hclean : Clean (proveStmtStep src st).obls) :
    Clean st.obls ∧ Unwinds src st (proveStmtStep src st) f frames := by
  have hstep : proveStmtStep src st = unwindFrame src st f frames := by
    rw [proveStmtStep, if_neg (by rw [ok_of_step hok]; decide), hrest]
    dsimp only
    rw [unwindOrDone, hframes]
  unfold unwindFrame at hstep
  by_cases hkind : f.kind = 1
  · rw [if_pos hkind] at hstep
    rw [hstep] at hok hclean ⊢
    exact unwindLoopFrame_unwinds hkind (hloud _ _ (.next hrest hframes hkind)) hok hclean
  · rw [if_neg hkind] at hstep
    by_cases hphase : f.phase = 0
    · rw [if_pos hphase] at hstep
      rw [hstep] at hclean ⊢
      exact ⟨hclean, .thenEnd hkind hphase rfl rfl rfl rfl⟩
    · rw [if_neg hphase] at hstep
      rw [hstep] at hclean ⊢
      exact ⟨hclean, .elseEnd hkind hphase rfl rfl rfl rfl⟩

/-- A step loses no obligation of a walk that ends clean. -/
theorem clean_of_step (hloud : ∀ e want, Asks src st e want → Loud src st e want)
    (hok : (proveStmtStep src st).ok = true) (hclean : Clean (proveStmtStep src st).obls) : Clean st.obls := by
  cases hrest : st.rest with
  | cons h t => exact (proveStmtStep_treats hrest hloud hok hclean).1
  | nil =>
      cases hframes : st.frames with
      | cons f frames => exact (proveStmtStep_unwinds hrest hframes hloud hok hclean).1
      | nil =>
          have hstep : proveStmtStep src st = st := by
            rw [proveStmtStep, if_neg (by rw [ok_of_step hok]; decide), hrest]
            dsimp only
            rw [unwindOrDone, hframes]
          rw [hstep] at hclean
          exact hclean

end Statements

/-! ## Runs -/

/-- The operations that a walk hands on for an expression, at one of its states. -/
def Handed (src : Source) (w : StmtWalk) (e : Expr) (ops : List TOp) : Prop :=
  ∃ n, HandedAt src ((proveStmtStep src)^[n] w) e ops

/-- No proof that the walk asks for is silent. -/
def AllLoud (src : Source) (w : StmtWalk) : Prop :=
  ∀ n e want, Asks src ((proveStmtStep src)^[n] w) e want → Loud src ((proveStmtStep src)^[n] w) e want

/-- A state of a walk from which it comes to its end in so many steps and fails nothing. -/
structure Completes (src : Source) (w st : StmtWalk) (n : Nat) : Prop where
  reached : ∃ k, (proveStmtStep src)^[k] w = st
  ok : ((proveStmtStep src)^[n] st).ok = true
  clean : Clean ((proveStmtStep src)^[n] st).obls
  rest : ((proveStmtStep src)^[n] st).rest = []
  frames : ((proveStmtStep src)^[n] st).frames = []

/-- A block has been passed: one list for each of its expressions, in program order. -/
structure Covers (src : Source) (w st s : StmtWalk) (stmts : List Stmt) : Prop where
  rest : s.rest = []
  frames : s.frames = st.frames
  closed : s.closed = leftAfter st.closed stmts
  handed : ∃ lists, s.tops = lists.reverse ++ st.tops ∧ List.Forall₂ (Handed src w) (evaluatedAll stmts) lists

section Runs

variable {w st : StmtWalk} {n : Nat}

theorem Completes.step (h : Completes src w st (n + 1)) : Completes src w (proveStmtStep src st) n := by
  obtain ⟨⟨k, hk⟩, hok, hclean, hrest, hframes⟩ := h
  rw [Function.iterate_succ_apply] at hok hclean hrest hframes
  refine ⟨⟨k + 1, ?_⟩, hok, hclean, hrest, hframes⟩
  rw [Function.iterate_succ_apply', hk]

theorem Completes.pos (h : Completes src w st n) (hopen : st.rest ≠ [] ∨ st.frames ≠ []) : ∃ k, n = k + 1 := by
  cases n with
  | zero =>
      rcases hopen with hrest | hframes
      · exact absurd h.rest hrest
      · exact absurd h.frames hframes
  | succ k => exact ⟨k, rfl⟩

theorem Completes.loud (hloud : AllLoud src w) (h : Completes src w st n) :
    ∀ e want, Asks src st e want → Loud src st e want := by
  obtain ⟨k, rfl⟩ := h.reached
  exact hloud k

/-- What ends clean is clean. -/
theorem Completes.now (hloud : AllLoud src w) (h : Completes src w st n) : st.ok = true ∧ Clean st.obls := by
  induction n generalizing st with
  | zero => exact ⟨h.ok, h.clean⟩
  | succ n ih =>
      obtain ⟨hok, hclean⟩ := ih h.step
      exact ⟨ok_of_step hok, clean_of_step (h.loud hloud) hok hclean⟩

theorem Completes.treats (hloud : AllLoud src w) (h : Completes src w st (n + 1)) {stmt : Stmt} {t : List Stmt}
    (hrest : st.rest = stmt :: t) : Treats src st (proveStmtStep src st) stmt t := by
  obtain ⟨hok, hclean⟩ := h.step.now hloud
  exact (proveStmtStep_treats hrest (h.loud hloud) hok hclean).2

theorem Completes.unwinds (hloud : AllLoud src w) (h : Completes src w st (n + 1)) {f : StmtFrame}
    {frames : List StmtFrame} (hrest : st.rest = []) (hframes : st.frames = f :: frames) :
    Unwinds src st (proveStmtStep src st) f frames := by
  obtain ⟨hok, hclean⟩ := h.step.now hloud
  exact (proveStmtStep_unwinds hrest hframes (h.loud hloud) hok hclean).2

theorem Completes.handed (h : Completes src w st n) {e : Expr} {ops : List TOp} (hops : HandedAt src st e ops) :
    Handed src w e ops := by
  obtain ⟨k, rfl⟩ := h.reached
  exact ⟨k, hops⟩

/-! ## Blocks -/

theorem Covers.nil (hrest : st.rest = []) : Covers src w st st [] :=
  ⟨hrest, rfl, rfl, [], rfl, by rw [evaluatedAll]; exact .nil⟩

theorem Covers.straight {s' s : StmtWalk} {stmt : Stmt} {t : List Stmt} {lists : List (List TOp)}
    (hframes : s'.frames = st.frames) (hclosed : s'.closed = stmt.leaves) (htops : s'.tops = lists.reverse ++ st.tops)
    (hlists : List.Forall₂ (Handed src w) stmt.evaluated lists) (h : Covers src w s' s t) :
    Covers src w st s (stmt :: t) := by
  obtain ⟨others, hothers, hall⟩ := h.handed
  refine ⟨h.rest, h.frames.trans hframes, ?_, lists ++ others, ?_, ?_⟩
  · rw [h.closed, hclosed, leftAfter]
  · rw [hothers, htops, List.reverse_append, List.append_assoc]
  · rw [evaluatedAll]
    exact List.rel_append hlists hall

/-- A block inside a statement, passed to its end and left. -/
theorem Covers.inner {s₁ s : StmtWalk} {stmts : List Stmt} (h : Covers src w s₁ s stmts) {lists : List (List TOp)}
    {es : List Expr} {base : List (List TOp)} (htops : s₁.tops = lists.reverse ++ base)
    (hlists : List.Forall₂ (Handed src w) es lists) :
    ∃ others, s.tops = others.reverse ++ base ∧ List.Forall₂ (Handed src w) (es ++ evaluatedAll stmts) others := by
  obtain ⟨others, hothers, hall⟩ := h.handed
  refine ⟨lists ++ others, ?_, List.rel_append hlists hall⟩
  rw [hothers, htops, List.reverse_append, List.append_assoc]

/-- **Blocks are covered**: a walk that comes to its end and fails nothing passes the statements at which it stands, and
    has handed on one list for each of their expressions, in program order. -/
theorem Completes.covers (hloud : AllLoud src w) (h : Completes src w st n) :
    ∃ s k, k ≤ n ∧ Completes src w s k ∧ Covers src w st s st.rest := by
  induction n using Nat.strongRecOn generalizing st with
  | _ n ih =>
    cases hrest : st.rest with
    | nil => exact ⟨st, n, Nat.le_refl n, h, .nil hrest⟩
    | cons stmt t =>
      obtain ⟨n, rfl⟩ := h.pos (.inl (by rw [hrest]; exact List.cons_ne_nil _ _))
      cases h.treats hloud hrest with
      | straight hnext hframes hclosed htops hlists =>
          obtain ⟨s, k, hk, hs, hcovers⟩ := ih n (Nat.lt_succ_self n) h.step
          rw [hnext] at hcovers
          exact ⟨s, k, by omega, hs, hcovers.straight hframes hclosed htops (hlists.imp fun _ _ => h.handed)⟩
      | @branch c thenB elseB t x y f ops hnext hframes hkind hphase hbehind helse hclosed htops hops =>
          -- the first arm
          obtain ⟨s₁, k₁, hk₁, h₁, hthen⟩ := ih n (Nat.lt_succ_self n) h.step
          rw [hnext] at hthen
          obtain ⟨lists₁, htops₁, hlists₁⟩ := hthen.inner (show _ = [ops].reverse ++ st.tops from htops)
            (.cons (h.handed hops) .nil)
          have hframes₁ := hthen.frames.trans hframes
          obtain ⟨k₁, rfl⟩ := h₁.pos (.inr (by rw [hframes₁]; exact List.cons_ne_nil _ _))
          cases h₁.unwinds hloud hthen.rest hframes₁ with
          | elseEnd _ hnot => exact absurd hphase hnot
          | backedge hloop => rw [hkind] at hloop; cases hloop
          | thenEnd _ _ hnext₁ hframes₁' hclosed₁ htops₁' =>
              -- the second arm
              obtain ⟨s₂, k₂, hk₂, h₂, helseB⟩ := ih k₁ (by omega) h₁.step
              rw [hnext₁, helse] at helseB
              obtain ⟨lists₂, htops₂, hlists₂⟩ := helseB.inner (htops₁'.trans htops₁) hlists₁
              have hframes₂ := helseB.frames.trans hframes₁'
              obtain ⟨k₂, rfl⟩ := h₂.pos (.inr (by rw [hframes₂]; exact List.cons_ne_nil _ _))
              cases h₂.unwinds hloud helseB.rest hframes₂ with
              | thenEnd _ hnot => cases hnot
              | backedge hloop => rw [show _ = f.kind from rfl, hkind] at hloop; cases hloop
              | elseEnd _ _ hnext₂ hframes₂' hclosed₂ htops₂' =>
                  -- behind the statement
                  obtain ⟨s, k, hk, hs, hcovers⟩ := ih k₂ (by omega) h₂.step
                  rw [hnext₂, show _ = f.next from rfl, hbehind] at hcovers
                  refine ⟨s, k, by omega, hs, hcovers.straight hframes₂' hclosed₂ (htops₂'.trans htops₂) ?_⟩
                  rw [Stmt.evaluated]
                  simpa using hlists₂
      | @loop ns ne bs be ss se ts te tk xs xe x y o init nv hasOver body t f lists hnext hframes hkind hbehind hvalue
          hclosed htops hlists =>
          -- the body
          obtain ⟨s₁, k₁, hk₁, h₁, hbody⟩ := ih n (Nat.lt_succ_self n) h.step
          rw [hnext] at hbody
          obtain ⟨lists₁, htops₁, hlists₁⟩ := hbody.inner htops (hlists.imp fun _ _ => h.handed)
          have hframes₁ := hbody.frames.trans hframes
          obtain ⟨k₁, rfl⟩ := h₁.pos (.inr (by rw [hframes₁]; exact List.cons_ne_nil _ _))
          cases h₁.unwinds hloud hbody.rest hframes₁ with
          | thenEnd hnot => exact absurd hkind hnot
          | elseEnd hnot => exact absurd hkind hnot
          | @backedge ops _ hnext₁ hframes₁' hclosed₁ htops₁' hops =>
              -- behind the loop, with the next state
              obtain ⟨s, k, hk, hs, hcovers⟩ := ih k₁ (by omega) h₁.step
              rw [hnext₁, hbehind] at hcovers
              rw [hvalue] at hops
              have hpushed : (proveStmtStep src s₁).tops = (lists₁ ++ [ops]).reverse ++ st.tops := by
                rw [htops₁', htops₁, List.reverse_append]
                rfl
              refine ⟨s, k, by omega, hs, hcovers.straight hframes₁' hclosed₁ hpushed ?_⟩
              rw [Stmt.evaluated]
              simpa using List.rel_append hlists₁ (.cons (h₁.handed hops) .nil)

end Runs

/-! ## Functions -/

/-- The walk over the body of a function, at its beginning. -/
def bodyWalk (src : Source) (st : BodyWalk) (h : FnDecl) : StmtWalk :=
  let callable := sigLookup src st.tab h.sig.nameStart h.sig.nameStop
  { rest := h.body.body, frames := [], env := { binds := callable.sig.params } :: [], closed := false, ok := true
    obls := [], tops := [], sig := callable.sig, gparams := h.sig.generics, sigs := st.tab, rectab := st.rectab
    enumtab := st.enumtab, nominals := st.nominals, importedRecords := st.importedRecords
    importedEnums := st.importedEnums, total := src.total
    profile011 := st.profile011, profile013 := st.profile013, iterationNames := [] }

/-- No proof that a function asks for is silent. -/
structure FnLoud (src : Source) (st : BodyWalk) (h : FnDecl) : Prop where
  body : AllLoud src (bodyWalk src st h)
  tail : Loud src (proveStmts src (bodyWalk src st h)) h.body.ret
    (.xSome (proveStmts src (bodyWalk src st h)).sig.result)

theorem walkStuck_eq_false {w : StmtWalk} (h : walkStuck w = false) : w.rest = [] ∧ w.frames = [] := by
  unfold walkStuck framesStuck at h
  cases hrest : w.rest with
  | cons _ _ => rw [hrest] at h; cases h
  | nil =>
      rw [hrest] at h
      cases hframes : w.frames with
      | cons _ _ => rw [hframes] at h; cases h
      | nil => exact ⟨rfl, rfl⟩

theorem iterate_step_ended {w : StmtWalk} (hok : w.ok = true) (hrest : w.rest = []) (hframes : w.frames = [])
    (n : Nat) :
    (proveStmtStep src)^[n] w = w := by
  apply Function.iterate_fixed
  rw [proveStmtStep, if_neg (by rw [hok]; decide), hrest]
  dsimp only
  rw [unwindOrDone, hframes]

theorem Asks.not_ended {w : StmtWalk} {e : Expr} {want : ExpTy} (h : Asks src w e want) (hrest : w.rest = [])
    (hframes : w.frames = []) : False := by
  cases h with
  | value hnext => rw [hrest] at hnext; cases hnext
  | cond hnext => rw [hrest] at hnext; cases hnext
  | returned hnext => rw [hrest] at hnext; cases hnext
  | source hnext => rw [hrest] at hnext; cases hnext
  | initial hnext => rw [hrest] at hnext; cases hnext
  | next _ hopen => rw [hframes] at hopen; cases hopen

/-- A body without statements asks for its tail only. -/
theorem FnLoud.of_tail {st : BodyWalk} {h : FnDecl} (hbody : h.body.body = [])
    (htail : Loud src (bodyWalk src st h) h.body.ret (.xSome (bodyWalk src st h).sig.result)) : FnLoud src st h := by
  have hok : (bodyWalk src st h).ok = true := rfl
  have hrest : (bodyWalk src st h).rest = [] := hbody
  have hframes : (bodyWalk src st h).frames = [] := rfl
  have hended := @iterate_step_ended src (bodyWalk src st h) hok hrest hframes
  constructor
  · intro n e want hasks
    rw [hended] at hasks
    exact (hasks.not_ended hrest hframes).elim
  · rw [proveStmts, hended]
    exact htail

/-- A state of a walk where it ends is the one that its run comes to. -/
theorem proveStmts_ended {w s : StmtWalk} (hreached : ∃ k, (proveStmtStep src)^[k] w = s) (hs : s.ok = true)
    (hrest : s.rest = []) (hframes : s.frames = []) (hok : (proveStmts src w).ok = true)
    (hstuck : walkStuck (proveStmts src w) = false) : proveStmts src w = s := by
  obtain ⟨k, hk⟩ := hreached
  obtain ⟨hrest', hframes'⟩ := walkStuck_eq_false hstuck
  have hmeet : (proveStmtStep src)^[k] ((proveStmtStep src)^[1024] w) =
      (proveStmtStep src)^[1024] ((proveStmtStep src)^[k] w) := by
    rw [← Function.iterate_add_apply, Nat.add_comm, Function.iterate_add_apply]
  rw [hk, iterate_step_ended hs hrest hframes] at hmeet
  rw [← hmeet]
  exact (iterate_step_ended hok hrest' hframes' k).symm

/-- The tail of a body is open, and its operations are handed on last. -/
theorem proveTail_passed {w : StmtWalk} {ret : Expr} (hloud : Loud src w ret (.xSome w.sig.result))
    (hok : (proveTail src w ret).ok = true) (hclean : Clean (proveTail src w ret).obls) :
    w.closed = false ∧ Passed src w (proveTail src w ret) [] true ret := by
  unfold proveTail at hok hclean ⊢
  dsimp only at hok hclean ⊢
  split at hclean
  · dsimp only at hclean
    exact absurd hclean.of_appendObls.2 (not_clean_failed (List.mem_singleton_self _) rfl)
  · next hopen =>
      rw [if_neg hopen] at hok ⊢
      rw [Bool.not_eq_true] at hopen
      exact ⟨hopen, proveReturnVal_passed hloud hok hclean⟩

theorem topslistReverse_room {list : List (List TOp)} (h : (topslistReverse list).length < 1024) :
    topslistReverse list = list.reverse := by
  rw [topslistReverse_eq, List.length_reverse, List.length_take] at h
  rw [topslistReverse_eq, List.take_of_length_le (by omega)]

/-- The proof of a function with one result. -/
theorem fnProof_eq {st : BodyWalk} {h : FnDecl} (hresults : ¬ countResultsFields h.sig.results ≠ 1) :
    fnProof src st h =
      let par := fieldTypeObls src h.sig.params st.rectab st.enumtab st.nominals h.sig.generics
      let res := fieldTypeObls src h.sig.results st.rectab st.enumtab st.nominals h.sig.generics
      let w1 := proveStmts src (bodyWalk src st h)
      if walkStuck w1 then
        { ok := false, obls := appendObls par (appendObls res w1.obls), tops := topslistReverse w1.tops }
      else
        { ok := (proveTail src w1 h.body.ret).ok
          obls := appendObls par (appendObls res (proveTail src w1 h.body.ret).obls)
          tops := topslistReverse (proveTail src w1 h.body.ret).tops } := by
  unfold fnProof proveFnWithImportedSchemas
  rw [if_neg hresults]
  rfl

/-- The last state of a walk in the proof that is made of it. -/
theorem ended_of_eq {proof : FnProve} {last : StmtWalk} {par res : List Obligation}
    (hproof : proof = { ok := last.ok, obls := appendObls par (appendObls res last.obls)
                        tops := topslistReverse last.tops })
    (hok : proof.ok = true) (hclean : Clean proof.obls) (hroom : proof.tops.length < 1024) :
    last.ok = true ∧ Clean last.obls ∧ proof.tops = last.tops.reverse := by
  subst hproof
  dsimp only at hok hclean hroom ⊢
  exact ⟨hok, hclean.of_appendObls.2.of_appendObls.2, topslistReverse_room hroom⟩

/-- **A function hands on one list for each expression** of its body, in program order, and its tail is reached. -/
theorem fnProof_handed {st : BodyWalk} {h : FnDecl} (hresults : ¬ countResultsFields h.sig.results ≠ 1)
    (hloud : FnLoud src st h) (hok : (fnProof src st h).ok = true) (hclean : Clean (fnProof src st h).obls)
    (hroom : (fnProof src st h).tops.length < 1024) :
    List.Forall₂ (Handed src (bodyWalk src st h)) h.body.evaluated (fnProof src st h).tops ∧
      leftAfter false h.body.body = false := by
  have hbody := hloud.body
  have htail := hloud.tail
  have hfirst : (bodyWalk src st h).rest = h.body.body := rfl
  have hnone : (bodyWalk src st h).frames = [] := rfl
  have hopened : (bodyWalk src st h).closed = false := rfl
  have hempty : (bodyWalk src st h).tops = [] := rfl
  have hfn := @fnProof_eq src st h hresults
  dsimp only at hfn
  generalize bodyWalk src st h = w at hbody htail hfirst hnone hopened hempty hfn ⊢
  cases hstuck : walkStuck (proveStmts src w) with
  | true =>
      rw [hstuck, if_pos rfl] at hfn
      rw [hfn] at hok
      cases hok
  | false =>
      rw [hstuck, if_neg Bool.false_ne_true] at hfn
      obtain ⟨hended, hkept, htops⟩ := ended_of_eq hfn hok hclean hroom
      obtain ⟨hleft, htailed⟩ := proveTail_passed htail hended hkept
      obtain ⟨hrest, hframes⟩ := walkStuck_eq_false hstuck
      have hcompletes : Completes src w w 1024 := by
        have hok₁ := htailed.ok
        have hclean₁ := htailed.clean
        rw [proveStmts] at hok₁ hclean₁ hrest hframes
        exact ⟨⟨0, rfl⟩, hok₁, hclean₁, hrest, hframes⟩
      obtain ⟨s, k, -, hs, hcovers⟩ := hcompletes.covers hbody
      have hend := proveStmts_ended hs.reached (hs.now hbody).1 hcovers.rest (hcovers.frames.trans hnone) htailed.ok
        hstuck
      rw [hend] at htailed htops hleft
      obtain ⟨lists, hlists, hall⟩ := hcovers.handed
      obtain ⟨ops, hops, hlast⟩ := htailed.handed
      constructor
      · rw [htops, hops, hlists, hempty, List.append_nil, List.reverse_cons, List.reverse_reverse, FnBody.evaluated,
          ← hfirst]
        exact List.rel_append hall (.cons (hs.handed hlast) .nil)
      · have hclosed := hcovers.closed
        rw [hopened, hfirst, hleft] at hclosed
        exact hclosed.symm

/-! ## Units -/

/-- What a unit hands on: for each function one operation list for each expression of its body, in program order. -/
def HandsOn (src : Source) (st : BodyWalk) (fns : List FnDecl) (tops : List (List TOp)) : Prop :=
  ∃ lists, List.Forall₂ (fun h ls => List.Forall₂ (Handed src (bodyWalk src st h)) h.body.evaluated ls ∧
    leftAfter false h.body.body = false) fns lists ∧ tops = lists.flatten

theorem bodyProof_handed {st : BodyWalk} {h : FnDecl} (hloud : FnLoud src st h) (hok : (bodyProof src st h).ok = true)
    (hclean : Clean (bodyProof src st h).obls) (hroom : (bodyProof src st h).tops.length < 1024) :
    List.Forall₂ (Handed src (bodyWalk src st h)) h.body.evaluated (bodyProof src st h).tops ∧
      leftAfter false h.body.body = false := by
  have hhanded := @fnProof_handed src st h
  unfold bodyProof at hok hclean hroom ⊢
  generalize fnProof src st h = proof at hhanded hok hclean hroom ⊢
  split at hclean
  · dsimp only at hclean
    exact absurd hclean (not_clean_failed (List.mem_singleton_self _) rfl)
  · next hresults =>
      rw [if_neg hresults] at hok hroom ⊢
      exact hhanded hresults hloud hok hclean.of_append.2 hroom

theorem Clean.of_flatMap {α : Type} {f : α → List Obligation} {l : List α} (h : Clean (l.flatMap f)) {a : α}
    (ha : a ∈ l) : Clean (f a) := by
  obtain ⟨before, behind, rfl⟩ := List.append_of_mem ha
  rw [List.flatMap_append, List.flatMap_cons] at h
  exact h.of_append.2.of_append.1

/-- A list that a bound has not cut. -/
theorem eq_of_take_eq {α : Type} {n : Nat} {l l' : List α} (h : l.take n = l'.take n) (hroom : l.length < n) :
    l = l' := by
  have hlength := congrArg List.length h
  rw [List.length_take, List.length_take] at hlength
  rw [List.take_of_length_le (by omega), List.take_of_length_le (by omega)] at h
  exact h

theorem proveBodies_handsOn {st done : BodyWalk} {fns : List FnDecl}
    (hrun : Proves st done (fns.map (bodyProof src st))) (hloud : ∀ h ∈ fns, FnLoud src st h) (hok : done.ok = true)
    (hclean : Clean done.obls) (hst : st.tops = []) (hroom : done.tops.length < 1024) :
    HandsOn src st fns done.tops := by
  have hobls := eq_of_take_eq hrun.obls hclean.room
  have htops := eq_of_take_eq hrun.tops hroom
  rw [hobls] at hclean
  rw [htops, hst, List.nil_append, List.flatMap_map, List.flatMap_def] at hroom
  rw [hrun.ok, Bool.and_eq_true, List.all_map, List.all_eq_true] at hok
  refine ⟨fns.map fun h => (bodyProof src st h).tops, ?_, ?_⟩
  · rw [List.forall₂_map_right_iff, List.forall₂_same]
    intro h hmem
    have hpart : Clean (bodyProof src st h).obls := by
      apply hclean.of_append.2.of_flatMap
      exact List.mem_map_of_mem hmem
    have hfits : (bodyProof src st h).tops.length < 1024 := by
      apply Nat.lt_of_le_of_lt _ hroom
      apply List.Sublist.length_le
      apply List.sublist_flatten_of_mem
      exact List.mem_map_of_mem hmem
    exact bodyProof_handed (hloud h hmem) (hok.2 h hmem) hpart hfits
  · rw [htops, hst, List.nil_append, List.flatMap_map]
    rfl

/-- What an accepted verdict says of the walk. -/
theorem accepted_of_verdict {u : Unit} {done : BodyWalk} {proof : UnitProve} (hproof : proof = done.verdict u)
    (hok : proof.ok = true) (hobls : proof.obls.length < 1024) :
    done.ok = true ∧ Clean done.obls ∧ proof.tops = done.tops := by
  subst hproof
  unfold BodyWalk.verdict at hok hobls ⊢
  dsimp only at hok hobls ⊢
  rw [closeAnd_eq, Bool.and_eq_true, Bool.not_eq_true', oblHasFail_eq, List.take_of_length_le (Nat.le_of_lt hobls),
    not_failed_iff] at hok
  exact ⟨hok.1, ⟨hobls, hok.2⟩, rfl⟩

section Unit

variable (src) (u : Unit) (imported : List Sig) (nominals : List NominalTypeIdentity)
  (importedRecords : List ImportedRecordSchema) (importedEnums : List ImportedEnumSchema)

theorem accepted_walked
    (hok : (proveParsedUnitWithImportedSchemas src u imported nominals importedRecords importedEnums).ok = true) :
    u.ok = true ∧ (duplicateFnNames src (collectFnNames u.fns)).found = false := by
  cases hparsed : u.ok with
  | false =>
      rw [proveParsedUnit_unparsed src imported nominals importedRecords importedEnums hparsed] at hok
      cases hok
  | true =>
      cases hdup : (duplicateFnNames src (collectFnNames u.fns)).found with
      | true =>
          rw [proveParsedUnit_repeats src imported nominals importedRecords importedEnums hparsed hdup] at hok
          cases hok
      | false => exact ⟨rfl, rfl⟩

/-- A unit that is accepted, with no bound reached and no silent proof, hands on what its bodies ask for. -/
theorem proveParsedUnit_handsOn (hfns : u.fns.length ≤ 1024)
    (hloud : ∀ h ∈ u.fns, FnLoud src (unitWalk src u imported nominals importedRecords importedEnums) h)
    (hok : (proveParsedUnitWithImportedSchemas src u imported nominals importedRecords importedEnums).ok = true)
    (hobls :
      (proveParsedUnitWithImportedSchemas src u imported nominals importedRecords importedEnums).obls.length < 1024)
    (htops :
      (proveParsedUnitWithImportedSchemas src u imported nominals importedRecords importedEnums).tops.length < 1024) :
    HandsOn src (unitWalk src u imported nominals importedRecords importedEnums) u.fns
      (proveParsedUnitWithImportedSchemas src u imported nominals importedRecords importedEnums).tops := by
  obtain ⟨hparsed, hdup⟩ := accepted_walked src u imported nominals importedRecords importedEnums hok
  have hproof := proveParsedUnit_walked src imported nominals importedRecords importedEnums hparsed hdup
  have hrun := proveBodies_unitWalk src u imported nominals importedRecords importedEnums
  obtain ⟨hdone, hclean, hhanded⟩ := accepted_of_verdict hproof hok hobls
  rw [unitParts, List.take_of_length_le hfns] at hrun
  rw [hhanded] at htops ⊢
  exact proveBodies_handsOn hrun hloud hdone hclean rfl htops

end Unit

end MncsCompiler.Decl
