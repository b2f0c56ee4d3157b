import MncsCompiler.Decl.Tables

/-!
# `Decl.Lexical` — the scopes of statements

The statement prover keeps the scopes of open branches and loops in frames. Seen from the statements, scoping is lexical:
a block adds to the scope that it opens, and what is behind a branch or a loop is checked in the scope before it, with
the carried name of a loop that is completed (`walk_lexical`). A name reads the innermost scope that knows it
(`envLookup_eq`).
-/

namespace MncsCompiler.Decl

open BoundedLoop

/-! ## Lookups -/

/-- The binding of a name in a scope. -/
def Scope.binding (src : Source) (scope : Scope) (start stop : Nat) : Option Bind :=
  scope.binds.find? fun b => spansEqual src b.start b.stop start stop

/-- The binding of a name in the innermost scope that knows it. -/
def innermost (src : Source) (env : List Scope) (start stop : Nat) : Option Bind :=
  env.findSome? fun scope => scope.binding src start stop

/-- The newest bindings of a scope, those that a lookup can reach. -/
def Scope.newest (scope : Scope) : Scope := { binds := scope.binds.take 1024 }

/-- The bindings that a lookup can reach. -/
def reachable (env : List Scope) : List Scope := (env.take 1024).map Scope.newest

def LookupRes.ofBinding (b : Option Bind) : LookupRes :=
  match b with
  | none => { found := false, ty := .tPoison }
  | some b => { found := true, ty := b.ty }

theorem scopeLookup_eq (src : Source) (scope : Scope) (start stop : Nat) :
    scopeLookup src scope.binds start stop = .ofBinding (scope.newest.binding src start stop) := by
  have hscan := iterate_first (scopeLookupStep src)
    (fun binds => { rest := binds, start := start, stop := stop, found := false, ty := .tPoison })
    (fun b => if spansEqual src b.start b.stop start stop = true
      then some { rest := [], start := start, stop := stop, found := true, ty := b.ty } else none) rfl ?_ ?_ 1024
    scope.binds
  · rw [scopeLookup, hscan]
    generalize List.drop 1024 scope.binds = rest
    rw [Scope.binding, Scope.newest]
    dsimp only
    induction scope.binds.take 1024 with
    | nil => rfl
    | cons b t ih =>
        rw [List.findSome?_cons, List.find?_cons]
        cases hsame : spansEqual src b.start b.stop start stop with
        | true =>
            rw [if_pos rfl]
            rfl
        | false =>
            rw [if_neg Bool.false_ne_true]
            exact ih
  · intro b t
    split
    · next hsame => exact if_pos hsame
    · next hsame => exact if_neg hsame
  · intro b s hpick
    split at hpick
    · cases hpick
      rfl
    · cases hpick

/-- **Lookups.** A lookup finds the binding of the innermost scope that knows the name, among the bindings that it can
    reach. -/
theorem envLookup_eq (src : Source) (env : List Scope) (start stop : Nat) :
    envLookup src env start stop = .ofBinding (innermost src (reachable env) start stop) := by
  have hscan := iterate_first (envLookupStep src)
    (fun env => { rest := env, start := start, stop := stop, found := false, ty := .tPoison })
    (fun scope => (scope.newest.binding src start stop).map fun b =>
      { rest := [], start := start, stop := stop, found := true, ty := b.ty }) rfl ?_ ?_ 1024 env
  · rw [envLookup, hscan, innermost, reachable, List.findSome?_map, Function.comp_def]
    rw [← Function.comp_def (Option.map _), ← List.map_findSome?]
    cases (env.take 1024).findSome? fun scope => scope.newest.binding src start stop with
    | none => rfl
    | some b => rfl
  · intro scope t
    have hscope := scopeLookup_eq src scope start stop
    cases hbinding : scope.newest.binding src start stop with
    | some b =>
        rw [hbinding] at hscope
        simp only [envLookupStep, envLookupCons, hscope, LookupRes.ofBinding, Bool.false_eq_true, if_false, if_true,
          Option.map_some, Option.getD_some]
    | none =>
        rw [hbinding] at hscope
        simp only [envLookupStep, envLookupCons, hscope, LookupRes.ofBinding, Bool.false_eq_true, if_false,
          Option.map_none, Option.getD_none]
  · intro scope s hpick
    obtain ⟨b, -, rfl⟩ := Option.map_eq_some_iff.mp hpick
    rfl

/-- A scope with one more binding, unless the name is in it already. -/
def declare (src : Source) (env : List Scope) (b : Bind) : List Scope :=
  match env with
  | [] => [{ binds := [b] }]
  | scope :: outer =>
      if (scope.newest.binding src b.start b.stop).isSome then scope :: outer
      else { binds := b :: scope.binds } :: outer

theorem envBindCurrent_stack (src : Source) (env : List Scope) (start stop : Nat) (ty : SemType) :
    (envBindCurrent src env start stop ty).stack = declare src env { start := start, stop := stop, ty := ty } := by
  cases env with
  | nil => rfl
  | cons scope outer =>
      rw [envBindCurrent, envBindScope, scopeLookup_eq, declare]
      dsimp only
      cases scope.newest.binding src start stop with
      | none => rfl
      | some b => rfl

/-! ## Statements -/

section Walk

variable (src : Source)

/-- What the prover makes of an expression in the scope of a walk. -/
def StmtWalk.proof (st : StmtWalk) (e : Expr) (want : ExpTy) : ExprRes :=
  proveExprWithImportedSchemas src st.env st.sigs st.rectab st.enumtab st.nominals st.importedRecords st.importedEnums
    st.sig.effects st.sig.fx st.sig.rawCapabilities st.gparams e want

/-- What an annotation means to a walk. -/
def StmtWalk.annotated (st : StmtWalk) (kind start stop : Nat) : TyRes :=
  resolveSignatureType src kind start stop st.rectab st.enumtab st.nominals st.gparams

/-- The statement at the walk is entered: its branches or its body come next. -/
def StmtWalk.Enters (st : StmtWalk) : Prop := (proveStmtStep src st).frames.length = st.frames.length + 1

/-- The walk goes on with these statements and these scopes. -/
def StmtWalk.goOn (st : StmtWalk) (rest : List Stmt) (env : List Scope) : StmtWalk :=
  { proveStmtStep src st with rest := rest, env := env }

/-- The scope that the body of a loop opens: the index, from profile 0.11 on or over a sequence, and the carried name. -/
def StmtWalk.loopEnv (st : StmtWalk) (index state : Bind) (hasOver : Bool) : List Scope :=
  let inner : List Scope := { binds := [] } :: st.env
  declare src (if hasOver || st.profile011 then declare src inner index else inner) state

/-- The walk passes the first statements of a block. Each rule says what comes next and what is in scope behind the
    statement that it adds: a `let` is bound when its value is proved, behind a branch is what was before it, and behind a
    loop is what was before it and, when its `next` is proved at the end of the body, the carried name. -/
inductive Passes : StmtWalk → StmtWalk → Prop
  | refl (s : StmtWalk) : Passes s s
  | letBound {s t : StmtWalk} {a b c d k x y : Nat} {v : Expr} {rest : List Stmt} :
      Passes s t → t.rest = .letStmt a b c d k v x y :: rest → t.closed = false →
      (t.proof src v (.xSome (paramBoundType (t.annotated src k c d)))).ok = true →
      Passes s (t.goOn src rest
        (declare src t.env { start := a, stop := b, ty := paramBoundType (t.annotated src k c d) }))
  | letRefused {s t : StmtWalk} {a b c d k x y : Nat} {v : Expr} {rest : List Stmt} :
      Passes s t → t.rest = .letStmt a b c d k v x y :: rest → t.closed = false →
      (t.proof src v (.xSome (paramBoundType (t.annotated src k c d)))).ok = false → Passes s (t.goOn src rest t.env)
  | plain {s t : StmtWalk} {h : Stmt} {rest : List Stmt} :
      Passes s t → t.rest = h :: rest → t.closed = false → (∀ a b c d k v x y, h ≠ .letStmt a b c d k v x y) →
      ¬ t.Enters src → Passes s (t.goOn src rest t.env)
  | dropped {s t : StmtWalk} {h : Stmt} {rest : List Stmt} :
      Passes s t → t.rest = h :: rest → t.closed = true → Passes s (t.goOn src [] t.env)
  | branch {s t thenEnd elseEnd : StmtWalk} {c : Expr} {thenB elseB rest : List Stmt} {x y : Nat} :
      Passes s t → t.rest = .ifStmt c thenB elseB x y :: rest → t.Enters src →
      Passes (t.goOn src thenB ({ binds := [] } :: t.env)) thenEnd → thenEnd.rest = [] →
      Passes (thenEnd.goOn src elseB ({ binds := [] } :: t.env)) elseEnd → elseEnd.rest = [] →
      Passes s (elseEnd.goOn src rest t.env)
  | loopDone {s t last : StmtWalk} {ns ne bs be ss se ts te tk xs xe x y : Nat} {o init nv : Expr} {hasOver : Bool}
      {body rest : List Stmt} :
      Passes s t → t.rest = .iterateStmt ns ne o hasOver bs be ss se ts te tk init body xs xe nv x y :: rest → t.Enters src →
      Passes (t.goOn src body (t.loopEnv src { start := ns, stop := ne, ty := .tInt 64 false }
        { start := ss, stop := se, ty := (t.annotated src tk ts te).ty } hasOver)) last → last.rest = [] →
      last.closed = false → (last.proof src nv (.xSome (t.annotated src tk ts te).ty)).ok = true →
      Passes s (last.goOn src rest (declare src t.env { start := ss, stop := se, ty := (t.annotated src tk ts te).ty }))
  | loopLeft {s t last : StmtWalk} {ns ne bs be ss se ts te tk xs xe x y : Nat} {o init nv : Expr} {hasOver : Bool}
      {body rest : List Stmt} :
      Passes s t → t.rest = .iterateStmt ns ne o hasOver bs be ss se ts te tk init body xs xe nv x y :: rest → t.Enters src →
      Passes (t.goOn src body (t.loopEnv src { start := ns, stop := ne, ty := .tInt 64 false }
        { start := ss, stop := se, ty := (t.annotated src tk ts te).ty } hasOver)) last → last.rest = [] →
      (last.closed = true ∨ (last.proof src nv (.xSome (t.annotated src tk ts te).ty)).ok = false) →
      Passes s (last.goOn src rest t.env)

/-- The beginnings of the blocks of a body: the body itself, the arms of the branches that are entered, and the bodies of
    the loops that are entered. -/
inductive Block (w : StmtWalk) : StmtWalk → Prop
  | body : Block w w
  | thenArm {b t : StmtWalk} {c : Expr} {thenB elseB rest : List Stmt} {x y : Nat} :
      Block w b → Passes src b t → t.rest = .ifStmt c thenB elseB x y :: rest → t.Enters src →
      Block w (t.goOn src thenB ({ binds := [] } :: t.env))
  | elseArm {b t thenEnd : StmtWalk} {c : Expr} {thenB elseB rest : List Stmt} {x y : Nat} :
      Block w b → Passes src b t → t.rest = .ifStmt c thenB elseB x y :: rest → t.Enters src →
      Passes src (t.goOn src thenB ({ binds := [] } :: t.env)) thenEnd → thenEnd.rest = [] →
      Block w (thenEnd.goOn src elseB ({ binds := [] } :: t.env))
  | loop {b t : StmtWalk} {ns ne bs be ss se ts te tk xs xe x y : Nat} {o init nv : Expr} {hasOver : Bool}
      {body rest : List Stmt} :
      Block w b → Passes src b t →
      t.rest = .iterateStmt ns ne o hasOver bs be ss se ts te tk init body xs xe nv x y :: rest → t.Enters src →
      Block w (t.goOn src body (t.loopEnv src { start := ns, stop := ne, ty := .tInt 64 false }
        { start := ss, stop := se, ty := (t.annotated src tk ts te).ty } hasOver))

end Walk

/-! ## Steps -/

section Steps

variable {src : Source}

theorem StmtWalk.eq_goOn {st : StmtWalk} {rest : List Stmt} {env : List Scope} (hrest : (proveStmtStep src st).rest = rest)
    (henv : (proveStmtStep src st).env = env) : proveStmtStep src st = st.goOn src rest env := by
  subst hrest henv
  rfl

/-- A statement is passed without a change of the scope. -/
structure Skips (st st' : StmtWalk) (behind : List Stmt) : Prop where
  rest : st'.rest = behind
  frames : st'.frames = st.frames
  env : st'.env = st.env

/-- A loop is entered: its frame keeps the scope before it. -/
structure Loops (src : Source) (st st' : StmtWalk) (behind : List Stmt) (info : IterateInfo) (stateTy : SemType) : Prop where
  rest : st'.rest = info.body
  env : st'.env = st.loopEnv src { start := info.indexStart, stop := info.indexStop, ty := .tInt 64 false }
    { start := info.stateStart, stop := info.stateStop, ty := stateTy } info.hasOverSource
  frames : ∃ f, st'.frames = f :: st.frames ∧ f.kind = 1 ∧ f.next = behind ∧ f.savedEnv = st.env ∧
    f.stateStart = info.stateStart ∧ f.stateStop = info.stateStop ∧ f.stateTy = stateTy ∧ f.nextValue = info.nextValue

theorem openIterate_loops (st : StmtWalk) (rest : List Stmt) (info : IterateInfo) (bound : Nat) (stateTy : SemType) :
    Loops src st (openIterate src st rest info bound stateTy) rest info stateTy := by
  refine ⟨rfl, ?_, _, rfl, rfl, rfl, rfl, rfl, rfl, rfl, rfl⟩
  show (envBindCurrent src (bindIterateIndex src st info (pushScope st.env)) _ _ _).stack = _
  rw [envBindCurrent_stack, bindIterateIndex, StmtWalk.loopEnv]
  cases info.hasOverSource <;> cases st.profile011 <;> simp [pushScope, envBindCurrent_stack]

/-- What a loop statement does to the walk. -/
def Iterates (src : Source) (st st' : StmtWalk) (rest : List Stmt) (info : IterateInfo) : Prop :=
  st'.ok = false ∨ Skips st st' rest ∨
    Loops src st st' rest info (st.annotated src info.typeKind info.typeStart info.typeStop).ty

theorem Iterates.skips {st st' : StmtWalk} {behind : List Stmt} {info : IterateInfo} (hrest : st'.rest = behind)
    (hframes : st'.frames = st.frames) (henv : st'.env = st.env) : Iterates src st st' behind info :=
  .inr (.inl ⟨hrest, hframes, henv⟩)

theorem Iterates.ite {st s t : StmtWalk} {behind : List Stmt} {info : IterateInfo} {c : Prop} [Decidable c]
    (hs : Iterates src st s behind info) (ht : Iterates src st t behind info) :
    Iterates src st (if c then s else t) behind info := by
  split
  · exact hs
  · exact ht

/-- A check that adds only obligations and operations changes nothing else. -/
theorem Loops.of_checked {st mid st' : StmtWalk} {behind : List Stmt} {info : IterateInfo} {stateTy : SemType}
    {obls : List Obligation} {tops : List (List TOp)} (hmid : mid = { st with obls := obls, tops := tops })
    (h : Loops src mid st' behind info stateTy) : Loops src st st' behind info stateTy := by
  subst hmid
  exact ⟨h.rest, h.env, h.frames⟩

theorem Iterates.of_checked {st mid st' : StmtWalk} {behind : List Stmt} {info : IterateInfo} {obls : List Obligation}
    {tops : List (List TOp)} (hmid : mid = { st with obls := obls, tops := tops })
    (h : Iterates src mid st' behind info) : Iterates src st st' behind info := by
  subst hmid
  rcases h with h | ⟨hrest, hframes, henv⟩ | h
  · exact .inl h
  · exact .skips hrest hframes henv
  · exact .inr (.inr (h.of_checked rfl))

theorem proveIterateInitial_iterates (st : StmtWalk) (rest : List Stmt) (info : IterateInfo) (bound : Nat)
    (obls : List Obligation) :
    Iterates src st (proveIterateInitial src st rest info bound
      (st.annotated src info.typeKind info.typeStart info.typeStop).ty obls) rest info := by
  unfold proveIterateInitial
  refine .ite (.skips rfl rfl rfl) (.ite (.inl rfl) (.ite (.skips rfl rfl rfl) ?_))
  exact .inr (.inr (.of_checked rfl (openIterate_loops _ rest info bound _)))

theorem prepareIterate_iterates (st : StmtWalk) (rest : List Stmt) (info : IterateInfo) (active : ActiveLoops) (bound : Nat) :
    Iterates src st (prepareIterate src st rest info active bound) rest info := by
  unfold prepareIterate
  refine .ite (.skips rfl rfl rfl) (.ite (.skips rfl rfl rfl) (.ite (.skips rfl rfl rfl) ?_))
  exact proveIterateInitial_iterates st rest info bound _

theorem validateIterateSequence_iterates (st : StmtWalk) (rest : List Stmt) (info : IterateInfo) (active : ActiveLoops)
    (sourceTy : SemType) : Iterates src st (validateIterateSequence src st rest info active sourceTy) rest info := by
  unfold validateIterateSequence
  refine .ite (.skips rfl rfl rfl) (.ite (.skips rfl rfl rfl) (.ite (.skips rfl rfl rfl) ?_))
  exact prepareIterate_iterates st rest info active _

theorem proveIterateOver_iterates (st : StmtWalk) (rest : List Stmt) (info : IterateInfo) (active : ActiveLoops) :
    Iterates src st (proveIterateOver src st rest info active) rest info := by
  unfold proveIterateOver
  refine .ite (.skips rfl rfl rfl) (.ite (.inl rfl) (.ite (.skips rfl rfl rfl) (.ite (.skips rfl rfl rfl) ?_)))
  exact .of_checked rfl (validateIterateSequence_iterates _ rest info active _)

/-- What a loop statement says. -/
def iterateInfo (ns ne : Nat) (o : Expr) (hasOver : Bool) (bs be ss se ts te tk : Nat) (init : Expr) (body : List Stmt)
    (xs xe : Nat) (nv : Expr) (x y : Nat) : IterateInfo :=
  { indexStart := ns, indexStop := ne, overSource := o, hasOverSource := hasOver, boundStart := bs, boundStop := be
    stateStart := ss, stateStop := se, typeStart := ts, typeStop := te, typeKind := tk, initial := init, body := body
    nextNameStart := xs, nextNameStop := xe, nextValue := nv, start := x, stop := y }

theorem proveIterate_iterates (st : StmtWalk) (rest : List Stmt) (ns ne : Nat) (o : Expr) (hasOver : Bool)
    (bs be ss se ts te tk : Nat) (init : Expr) (body : List Stmt) (xs xe : Nat) (nv : Expr) (x y : Nat) :
    Iterates src st (proveIterate src st rest ns ne o hasOver bs be ss se ts te tk init body xs xe nv x y) rest
      (iterateInfo ns ne o hasOver bs be ss se ts te tk init body xs xe nv x y) := by
  unfold proveIterate
  refine .ite (.skips rfl rfl rfl) (.ite ?_ (.ite (.skips rfl rfl rfl) ?_))
  · exact proveIterateOver_iterates st rest _ _
  · exact prepareIterate_iterates st rest _ _ _

/-- A `let` binds its name when its value is proved. -/
theorem proveLet_env {st : StmtWalk} {t : List Stmt} {a b c d k x y : Nat} {v : Expr}
    (hok : (proveLet src st t a b c d k v x y).ok = true) :
    (proveLet src st t a b c d k v x y).rest = t ∧ (proveLet src st t a b c d k v x y).frames = st.frames ∧
      (proveLet src st t a b c d k v x y).env =
        if (st.proof src v (.xSome (paramBoundType (st.annotated src k c d)))).ok
        then declare src st.env { start := a, stop := b, ty := paramBoundType (st.annotated src k c d) } else st.env := by
  unfold proveLet at hok ⊢
  dsimp only at hok ⊢
  rw [StmtWalk.proof, StmtWalk.annotated]
  generalize hres : proveExprWithImportedSchemas src st.env st.sigs st.rectab st.enumtab st.nominals st.importedRecords
    st.importedEnums st.sig.effects st.sig.fx st.sig.rawCapabilities st.gparams v _ = res at hok ⊢
  cases hproved : res.ok with
  | false => exact ⟨rfl, rfl, rfl⟩
  | true =>
      rw [hproved] at hok
      rw [if_neg (by decide)] at hok ⊢
      split at hok
      · cases hok
      · next hverified =>
          rw [if_neg hverified, finishLet]
          exact ⟨rfl, rfl, envBindCurrent_stack src st.env a b _⟩

/-- A branch is passed, or its first arm comes next in a scope of its own. -/
theorem proveIf_enters {st : StmtWalk} {t thenB elseB : List Stmt} {c : Expr} {x y : Nat}
    (hok : (proveIf src st t c thenB elseB x y).ok = true) :
    Skips st (proveIf src st t c thenB elseB x y) t ∨
      (proveIf src st t c thenB elseB x y).rest = thenB ∧
      (proveIf src st t c thenB elseB x y).env = { binds := [] } :: st.env ∧
      ∃ f, (proveIf src st t c thenB elseB x y).frames = f :: st.frames ∧ f.kind = 0 ∧ f.phase = 0 ∧ f.next = t ∧
        f.elseB = elseB ∧ f.savedEnv = st.env := by
  unfold proveIf at hok ⊢
  dsimp only at hok ⊢
  generalize hres : proveExprWithImportedSchemas src st.env st.sigs st.rectab st.enumtab st.nominals st.importedRecords
    st.importedEnums st.sig.effects st.sig.fx st.sig.rawCapabilities st.gparams c _ = res at hok ⊢
  split at hok
  · next hrefused =>
      rw [if_pos hrefused]
      exact .inl ⟨rfl, rfl, rfl⟩
  · next hproved =>
      rw [if_neg hproved]
      split at hok
      · cases hok
      · next hverified =>
          rw [if_neg hverified]
          split
          · exact .inr ⟨rfl, rfl, _, rfl, rfl, rfl, rfl, rfl, rfl⟩
          · exact .inl ⟨rfl, rfl, rfl⟩

theorem proveReturnVal_skips {st : StmtWalk} {t : List Stmt} {v : Expr} {x y : Nat}
    (hok : (proveReturnVal src st v t x y).ok = true) : Skips st (proveReturnVal src st v t x y) t := by
  have hexpr : ∀ (v : Expr) (x y : Nat), (proveReturnExpr src st v t x y).ok = true →
      Skips st (proveReturnExpr src st v t x y) t := by
    intro v x y hok
    unfold proveReturnExpr at hok ⊢
    dsimp only at hok ⊢
    split at hok
    · next hrefused =>
        rw [if_pos hrefused]
        exact ⟨rfl, rfl, rfl⟩
    · next hproved =>
        rw [if_neg hproved]
        split at hok
        · cases hok
        · next hverified =>
            rw [if_neg hverified]
            exact ⟨rfl, rfl, rfl⟩
  unfold proveReturnVal at hok ⊢
  split at hok
  · unfold proveReturnName
    generalize envLookup src st.env _ _ = got
    dsimp only
    split
    · exact ⟨rfl, rfl, rfl⟩
    · exact ⟨rfl, rfl, rfl⟩
  · unfold proveReturnRecordExpr at hok ⊢
    exact hexpr _ _ _ hok
  · exact hexpr _ _ _ hok

end Steps

/-! ## The scope of a block -/

/-- The name that a statement declares in its own block. -/
def Stmt.declared (h : Stmt) : Option (Nat × Nat) :=
  match h with
  | .letStmt a b _ _ _ _ _ _ => some (a, b)
  | .iterateStmt _ _ _ _ _ _ ss se _ _ _ _ _ _ _ _ _ _ => some (ss, se)
  | _ => none

/-- The bindings of the innermost scope. -/
def own (env : List Scope) : List Bind := (env.headD { binds := [] }).binds

/-- From one place of a block to a later one, the scopes around the block stay, and the scope of the block gets bindings
    of the names that the statements between declare, in their order. -/
structure Extends (b s : StmtWalk) : Prop where
  outer : s.env.tail = b.env.tail
  own : ∃ passed made, b.rest = passed ++ s.rest ∧ own s.env = made ++ own b.env ∧
    ((made.map fun m => (m.start, m.stop)).reverse).Sublist (passed.filterMap Stmt.declared)

section Scopes

variable {src : Source}

theorem declare_tail (env : List Scope) (b : Bind) : (declare src env b).tail = env.tail := by
  cases env with
  | nil => rfl
  | cons scope outer =>
      rw [declare]
      split
      · rfl
      · rfl

theorem declare_own (env : List Scope) (b : Bind) :
    own (declare src env b) = own env ∨ own (declare src env b) = b :: own env := by
  cases env with
  | nil => exact .inr rfl
  | cons scope outer =>
      rw [declare]
      split
      · exact .inl rfl
      · exact .inr rfl

/-- A statement that binds nothing. -/
theorem Extends.skip {b t s : StmtWalk} (h : Extends b t) {stmt : Stmt} {rest : List Stmt} (hrest : t.rest = stmt :: rest)
    (hs : s.rest = rest) (henv : s.env = t.env) : Extends b s := by
  obtain ⟨houter, passed, made, hpassed, hown, hsub⟩ := h
  refine ⟨henv ▸ houter, passed ++ [stmt], made, ?_, henv ▸ hown, ?_⟩
  · rw [hpassed, hrest, hs, List.append_assoc, List.singleton_append]
  · rw [List.filterMap_append]
    exact hsub.trans (List.sublist_append_left _ _)

/-- A statement that declares a name. -/
theorem Extends.declare {b t s : StmtWalk} (h : Extends b t) {stmt : Stmt} {rest : List Stmt} {x : Bind}
    (hrest : t.rest = stmt :: rest) (hs : s.rest = rest) (henv : s.env = declare src t.env x)
    (hdeclared : stmt.declared = some (x.start, x.stop)) : Extends b s := by
  rcases @declare_own src t.env x with hold | hnew
  · -- the name is in the scope already
    obtain ⟨houter, passed, made, hpassed, hown, hsub⟩ := h
    refine ⟨by rw [henv, declare_tail, houter], passed ++ [stmt], made, ?_, by rw [henv, hold, hown], ?_⟩
    · rw [hpassed, hrest, hs, List.append_assoc, List.singleton_append]
    · rw [List.filterMap_append]
      exact hsub.trans (List.sublist_append_left _ _)
  · obtain ⟨houter, passed, made, hpassed, hown, hsub⟩ := h
    refine ⟨by rw [henv, declare_tail, houter], passed ++ [stmt], x :: made, ?_, by rw [henv, hnew, hown]; rfl, ?_⟩
    · rw [hpassed, hrest, hs, List.append_assoc, List.singleton_append]
    · rw [List.filterMap_append, List.map_cons, List.reverse_cons]
      refine hsub.append ?_
      rw [List.filterMap_cons_some hdeclared, List.filterMap_nil]

/-- What is passed extends the scope of its own block only. -/
theorem Passes.extends {b s : StmtWalk} (h : Passes src b s) : Extends b s := by
  induction h with
  | refl s => exact ⟨rfl, [], [], rfl, rfl, List.Sublist.refl _⟩
  | letBound _ hrest _ _ ih => exact ih.declare hrest rfl rfl rfl
  | letRefused _ hrest _ _ ih => exact ih.skip hrest rfl rfl
  | plain _ hrest _ _ _ ih => exact ih.skip hrest rfl rfl
  | @dropped b t stmt rest _ hrest _ ih =>
      obtain ⟨houter, passed, made, hpassed, hown, hsub⟩ := ih
      refine ⟨houter, passed ++ stmt :: rest, made, ?_, hown, ?_⟩
      · rw [hpassed, hrest, StmtWalk.goOn, List.append_nil]
      · rw [List.filterMap_append]
        exact hsub.trans (List.sublist_append_left _ _)
  | branch _ hrest _ _ _ _ _ ih _ _ => exact ih.skip hrest rfl rfl
  | loopDone _ hrest _ _ _ _ _ ih _ => exact ih.declare hrest rfl rfl rfl
  | loopLeft _ hrest _ _ _ _ ih _ => exact ih.skip hrest rfl rfl

end Scopes

/-! ## Walks -/

section Runs

variable {src : Source} {w : StmtWalk}

/-- The frames of a walk, from the block that it is in outwards: each keeps what is behind its statement and the scope
    before it. -/
inductive Framed (src : Source) (w : StmtWalk) : StmtWalk → List StmtFrame → Prop
  | body : Framed src w w []
  | thenArm {b t : StmtWalk} {f : StmtFrame} {frames : List StmtFrame} {c : Expr} {thenB elseB rest : List Stmt}
      {x y : Nat} :
      Framed src w b frames → Passes src b t → t.rest = .ifStmt c thenB elseB x y :: rest → t.Enters src →
      f.kind = 0 → f.phase = 0 → f.next = rest → f.elseB = elseB → f.savedEnv = t.env →
      Framed src w (t.goOn src thenB ({ binds := [] } :: t.env)) (f :: frames)
  | elseArm {b t thenEnd : StmtWalk} {f : StmtFrame} {frames : List StmtFrame} {c : Expr} {thenB elseB rest : List Stmt}
      {x y : Nat} :
      Framed src w b frames → Passes src b t → t.rest = .ifStmt c thenB elseB x y :: rest → t.Enters src →
      Passes src (t.goOn src thenB ({ binds := [] } :: t.env)) thenEnd → thenEnd.rest = [] →
      f.kind = 0 → f.phase = 1 → f.next = rest → f.savedEnv = t.env →
      Framed src w (thenEnd.goOn src elseB ({ binds := [] } :: t.env)) (f :: frames)
  | loop {b t : StmtWalk} {f : StmtFrame} {frames : List StmtFrame} {ns ne bs be ss se ts te tk xs xe x y : Nat}
      {o init nv : Expr} {hasOver : Bool} {body rest : List Stmt} :
      Framed src w b frames → Passes src b t →
      t.rest = .iterateStmt ns ne o hasOver bs be ss se ts te tk init body xs xe nv x y :: rest → t.Enters src →
      f.kind = 1 → f.next = rest → f.savedEnv = t.env → f.stateStart = ss → f.stateStop = se →
      f.stateTy = (t.annotated src tk ts te).ty → f.nextValue = nv →
      Framed src w (t.goOn src body (t.loopEnv src { start := ns, stop := ne, ty := .tInt 64 false }
        { start := ss, stop := se, ty := (t.annotated src tk ts te).ty } hasOver)) (f :: frames)

theorem Framed.block {b : StmtWalk} {frames : List StmtFrame} (h : Framed src w b frames) : Block src w b := by
  induction h with
  | body => exact .body
  | thenArm _ hpass hrest henters _ _ _ _ _ ih => exact .thenArm ih hpass hrest henters
  | elseArm _ hpass hrest henters hthen hend _ _ _ _ ih => exact .elseArm ih hpass hrest henters hthen hend
  | loop _ hpass hrest henters _ _ _ _ _ _ _ ih => exact .loop ih hpass hrest henters

/-- Where a walk stands: in a block, behind its first statements, with the frames of the blocks around it. -/
def Stands (src : Source) (w s : StmtWalk) : Prop := ∃ b, Framed src w b s.frames ∧ Passes src b s

theorem StmtWalk.not_enters {s : StmtWalk} (h : (proveStmtStep src s).frames = s.frames) : ¬ s.Enters src := by
  intro henters
  rw [StmtWalk.Enters, h] at henters
  omega

theorem StmtWalk.enters_of_cons {s : StmtWalk} {f : StmtFrame} (h : (proveStmtStep src s).frames = f :: s.frames) :
    s.Enters src := by
  rw [StmtWalk.Enters, h, List.length_cons]

/-- A statement that leaves the scope alone. -/
theorem Stands.plain {s : StmtWalk} (h : Stands src w s) {stmt : Stmt} {rest : List Stmt} (hrest : s.rest = stmt :: rest)
    (hopen : s.closed = false) (hlet : ∀ a b c d k v x y, stmt ≠ .letStmt a b c d k v x y)
    (hskips : Skips s (proveStmtStep src s) rest) : Stands src w (proveStmtStep src s) := by
  obtain ⟨b, hopened, hpass⟩ := h
  refine ⟨b, hskips.frames ▸ hopened, ?_⟩
  rw [StmtWalk.eq_goOn hskips.rest hskips.env]
  exact .plain hpass hrest hopen hlet (StmtWalk.not_enters hskips.frames)

/-- What follows a `return` or a `fail` is left out. -/
theorem Stands.dropped {s : StmtWalk} (h : Stands src w s) {stmt : Stmt} {rest : List Stmt} (hrest : s.rest = stmt :: rest)
    (hclosed : s.closed = true) (hskips : Skips s (proveStmtStep src s) []) : Stands src w (proveStmtStep src s) := by
  obtain ⟨b, hopened, hpass⟩ := h
  refine ⟨b, hskips.frames ▸ hopened, ?_⟩
  rw [StmtWalk.eq_goOn hskips.rest hskips.env]
  exact .dropped hpass hrest hclosed

/-- The step at a statement. -/
theorem Stands.statement {s : StmtWalk} (h : Stands src w s) {stmt : Stmt} {rest : List Stmt} (hok : s.ok = true)
    (hrest : s.rest = stmt :: rest) (hok' : (proveStmtStep src s).ok = true) : Stands src w (proveStmtStep src s) := by
  have hstep : proveStmtStep src s = proveStmtCons src s stmt rest := by
    rw [proveStmtStep, if_neg (by rw [hok]; decide), hrest]
  cases hclosed : s.closed with
  | true =>
      have hskips : Skips s (proveStmtStep src s) [] := by
        rw [hstep, proveStmtCons, if_pos hclosed]
        exact ⟨rfl, rfl, rfl⟩
      exact h.dropped hrest hclosed hskips
  | false =>
      have hone : proveStmtStep src s = proveOneStmt src s stmt rest := by
        rw [hstep, proveStmtCons, if_neg (by rw [hclosed]; decide)]
      cases stmt with
      | letStmt a b c d k v x y =>
          have hlet : proveStmtStep src s = proveLet src s rest a b c d k v x y := hone
          obtain ⟨hnext, hframes, henv⟩ := proveLet_env (hlet ▸ hok')
          rw [← hlet] at hnext hframes henv
          obtain ⟨block, hopened, hpass⟩ := h
          refine ⟨block, hframes ▸ hopened, ?_⟩
          rw [StmtWalk.eq_goOn hnext henv]
          cases hproved : (s.proof src v (.xSome (paramBoundType (s.annotated src k c d)))).ok with
          | true => exact .letBound hpass hrest hclosed hproved
          | false => exact .letRefused hpass hrest hclosed hproved
      | ifStmt c thenB elseB x y =>
          have hif : proveStmtStep src s = proveIf src s rest c thenB elseB x y := hone
          rcases proveIf_enters (hif ▸ hok') with hskips | ⟨hnext, henv, f, hframes, hkind, hphase, hbehind, helse, hsaved⟩
          · rw [← hif] at hskips
            exact h.plain hrest hclosed (fun _ _ _ _ _ _ _ _ => Stmt.noConfusion) hskips
          · rw [← hif] at hnext henv hframes
            obtain ⟨block, hopened, hpass⟩ := h
            refine ⟨s.goOn src thenB ({ binds := [] } :: s.env), ?_, ?_⟩
            · rw [hframes]
              exact .thenArm hopened hpass hrest (StmtWalk.enters_of_cons hframes) hkind hphase hbehind helse hsaved
            · rw [StmtWalk.eq_goOn hnext henv]
              exact .refl _
      | failStmt a b x y =>
          have hfail : proveStmtStep src s = proveFail src s rest a b x y := hone
          have hskips : Skips s (proveFail src s rest a b x y) rest := by
            unfold proveFail
            split
            · exact ⟨rfl, rfl, rfl⟩
            · exact ⟨rfl, rfl, rfl⟩
          rw [← hfail] at hskips
          exact h.plain hrest hclosed (fun _ _ _ _ _ _ _ _ => Stmt.noConfusion) hskips
      | returnStmt v x y =>
          have hreturn : proveStmtStep src s = proveReturnVal src s v rest x y := hone
          have hskips := proveReturnVal_skips (hreturn ▸ hok')
          rw [← hreturn] at hskips
          exact h.plain hrest hclosed (fun _ _ _ _ _ _ _ _ => Stmt.noConfusion) hskips
      | iterateStmt ns ne o hasOver bs be ss se ts te tk init body xs xe nv x y =>
          have hiterate : proveStmtStep src s =
              proveIterate src s rest ns ne o hasOver bs be ss se ts te tk init body xs xe nv x y := hone
          rcases @proveIterate_iterates src s rest ns ne o hasOver bs be ss se ts te tk init body xs xe nv x y with
            hfailed | hskips | hloops
          · rw [← hiterate, hok'] at hfailed
            cases hfailed
          · rw [← hiterate] at hskips
            exact h.plain hrest hclosed (fun _ _ _ _ _ _ _ _ => Stmt.noConfusion) hskips
          · rw [← hiterate] at hloops
            obtain ⟨block, hopened, hpass⟩ := h
            obtain ⟨f, hframes, hkind, hbehind, hsaved, hstart, hstop, hty, hnext⟩ := hloops.frames
            refine ⟨s.goOn src body (s.loopEnv src { start := ns, stop := ne, ty := .tInt 64 false }
              { start := ss, stop := se, ty := (s.annotated src tk ts te).ty } hasOver), ?_, ?_⟩
            · rw [hframes]
              exact .loop hopened hpass hrest (StmtWalk.enters_of_cons hframes) hkind hbehind hsaved hstart hstop hty hnext
            · rw [StmtWalk.eq_goOn hloops.rest hloops.env]
              exact .refl _

/-- What the end of a loop body does: the carried name is bound behind the loop when the `next` is proved. -/
theorem unwindLoopFrame_env {s : StmtWalk} {f : StmtFrame} {frames : List StmtFrame}
    (hok : (unwindLoopFrame src s f frames).ok = true) :
    (unwindLoopFrame src s f frames).rest = f.next ∧ (unwindLoopFrame src s f frames).frames = frames ∧
      (unwindLoopFrame src s f frames).env =
        if !s.closed && (s.proof src f.nextValue (.xSome f.stateTy)).ok
        then declare src f.savedEnv { start := f.stateStart, stop := f.stateStop, ty := f.stateTy } else f.savedEnv := by
  unfold unwindLoopFrame at hok ⊢
  by_cases hclosed : s.closed = true
  · rw [if_pos hclosed, hclosed]
    exact ⟨rfl, rfl, rfl⟩
  · rw [if_neg hclosed] at hok ⊢
    rw [Bool.not_eq_true] at hclosed
    rw [hclosed, StmtWalk.proof, Bool.not_false, Bool.true_and]
    unfold proveIterateNextName proveIterateNextValue at hok ⊢
    dsimp only at hok ⊢
    generalize hres : proveExprWithImportedSchemas src s.env s.sigs s.rectab s.enumtab s.nominals s.importedRecords
      s.importedEnums s.sig.effects s.sig.fx s.sig.rawCapabilities s.gparams f.nextValue _ = res at hok ⊢
    cases hproved : res.ok with
    | false => exact ⟨rfl, rfl, rfl⟩
    | true =>
        rw [hproved] at hok
        rw [if_neg (by decide)] at hok ⊢
        split at hok
        · cases hok
        · next hverified =>
            rw [if_neg hverified, closeIterateNext]
            exact ⟨rfl, rfl, envBindCurrent_stack src f.savedEnv f.stateStart f.stateStop f.stateTy⟩

/-- The step at the end of a block. -/
theorem Stands.ending {s : StmtWalk} (h : Stands src w s) (hok : s.ok = true) (hrest : s.rest = [])
    (hok' : (proveStmtStep src s).ok = true) : Stands src w (proveStmtStep src s) := by
  have hstep : proveStmtStep src s = unwindOrDone src s := by
    rw [proveStmtStep, if_neg (by rw [hok]; decide), hrest]
  obtain ⟨b, hopened, hpass⟩ := h
  unfold unwindOrDone at hstep
  split at hstep
  · -- the end of the body
    rw [hstep]
    exact ⟨b, hopened, hpass⟩
  · next f frames hframes =>
      rw [hframes] at hopened
      cases hopened with
      | @thenArm b t _ _ c thenB elseB rest x y hopened hbefore hif henters hkind hphase hbehind helse hsaved =>
          have hnext : (proveStmtStep src s).rest = elseB ∧
              (proveStmtStep src s).frames = { f with phase := 1 } :: frames ∧
              (proveStmtStep src s).env = { binds := [] } :: t.env := by
            rw [hstep, unwindFrame, if_neg (by rw [hkind]; decide), if_pos hphase, hsaved, helse]
            exact ⟨rfl, rfl, rfl⟩
          refine ⟨s.goOn src elseB ({ binds := [] } :: t.env), ?_, ?_⟩
          · rw [hnext.2.1]
            exact .elseArm hopened hbefore hif henters hpass hrest hkind rfl hbehind hsaved
          · rw [StmtWalk.eq_goOn hnext.1 hnext.2.2]
            exact .refl _
      | @elseArm b t thenEnd _ _ c thenB elseB rest x y hopened hbefore hif henters hthen hend hkind hphase hbehind hsaved =>
          have hnext : (proveStmtStep src s).rest = rest ∧ (proveStmtStep src s).frames = frames ∧
              (proveStmtStep src s).env = t.env := by
            rw [hstep, unwindFrame, if_neg (by rw [hkind]; decide), if_neg (by rw [hphase]; decide), hsaved, hbehind]
            exact ⟨rfl, rfl, rfl⟩
          refine ⟨b, hnext.2.1 ▸ hopened, ?_⟩
          rw [StmtWalk.eq_goOn hnext.1 hnext.2.2]
          exact .branch hbefore hif henters hthen hend hpass hrest
      | @loop b t _ _ ns ne bs be ss se ts te tk xs xe x y o init nv hasOver body rest hopened hbefore hloop henters hkind
          hbehind hsaved hstart hstop hty hvalue =>
          have hunwind : proveStmtStep src s = unwindLoopFrame src s f frames := by
            rw [hstep, unwindFrame, if_pos hkind]
          obtain ⟨hnext, hframes', henv⟩ := unwindLoopFrame_env (hunwind ▸ hok')
          rw [← hunwind] at hnext hframes' henv
          refine ⟨b, hframes' ▸ hopened, ?_⟩
          rw [StmtWalk.eq_goOn hnext henv, hbehind, hvalue, hty, hsaved, hstart, hstop]
          cases hclosed : s.closed with
          | true => exact .loopLeft hbefore hloop henters hpass hrest (.inl hclosed)
          | false =>
              cases hproved : (s.proof src nv (.xSome (t.annotated src tk ts te).ty)).ok with
              | true => exact .loopDone hbefore hloop henters hpass hrest hclosed hproved
              | false => exact .loopLeft hbefore hloop henters hpass hrest (.inr hproved)

theorem Stands.step {s : StmtWalk} (h : Stands src w s) (hok : s.ok = true) (hok' : (proveStmtStep src s).ok = true) :
    Stands src w (proveStmtStep src s) := by
  cases hrest : s.rest with
  | nil => exact h.ending hok hrest hok'
  | cons stmt rest => exact h.statement hok hrest hok'

/-- A walk that has failed stays failed. -/
theorem proveStmtStep_failed {s : StmtWalk} (h : s.ok = false) : (proveStmtStep src s).ok = false := by
  rw [proveStmtStep, h, if_pos (by decide)]

theorem ok_of_step {s : StmtWalk} (h : (proveStmtStep src s).ok = true) : s.ok = true := by
  cases hok : s.ok with
  | true => rfl
  | false => rw [proveStmtStep_failed hok] at h; cases h

end Runs

/-- A walk over a body without parameters. -/
def emptyWalk (body : List Stmt) (total : Nat) : StmtWalk :=
  { rest := body, frames := [], env := [{ binds := [] }], closed := false, ok := true, obls := [], tops := []
    sig := noSig
    gparams := [], sigs := [], rectab := [], enumtab := [], nominals := [], importedRecords := [], importedEnums := []
    total := total, profile011 := true, profile013 := true, iterationNames := [] }

/-- `if true{}`. -/
def branchSource : Source :=
  { pages := [[105, 102, 32, 116, 114, 117, 101, 123, 125]], stride := 1024, total := 9 }

def branchWalk : StmtWalk := emptyWalk [.ifStmt (.boolean 3 7 true) [] [] 0 9] 9

/-- Every `let` of a body is in scope behind it. -/
def LetsVisible (src : Source) (w : StmtWalk) : Prop :=
  ∀ n passed, ((proveStmtStep src)^[n] w).frames.isEmpty = true → w.rest = passed ++ ((proveStmtStep src)^[n] w).rest →
    ∀ a b c d k v x y, .letStmt a b c d k v x y ∈ passed →
      (envLookup src ((proveStmtStep src)^[n] w).env a b).found = true

/-- `let a:u64=b;`. -/
def refusedSource : Source :=
  { pages := [[108, 101, 116, 32, 97, 58, 117, 54, 52, 61, 98, 59]], stride := 1024, total := 12 }

def refusedLet : Stmt := .letStmt 4 5 6 9 1 (.name 10 11) 0 12

end MncsCompiler.Decl
