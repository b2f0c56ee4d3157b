import MncsCompiler.Flow.Exec

/-!
# `Flow.Code` — graphs that hold a statement list

`Code blocks id pre stmts exit live` says that the graph, at block `id` after the expressions `pre`, holds the
statements `stmts` and then goes on as `exit` says; `live` is whether some path reaches the end of the statements.
What no path reaches need not be held: the walk closes it as it likes. A graph that holds a body at its entry has
the behaviour of the body (`Code.same`).
-/

namespace MncsCompiler.Flow

open BoundedLoop Decl Simulation

variable {α : Type}

/-! ## Holding statements -/

/-- Where the end of a statement list leads: to the join of an `if`, back to the header of a loop with its next
    state, or to the tail of the body. -/
inductive Exit (α : Type) where
  | join (id : Nat)
  | back (header : Nat) (next : TypedExpr α)
  | tail (value : Option (TypedExpr α))

variable (blocks : List (Block α))

/-- A listed block with its kind and expressions. -/
structure BlockAt (id kind : Nat) (expressions : List (TypedExpr α)) (b : Block α) : Prop where
  mem : b ∈ blocks
  id : b.id = id
  kind : b.kind = kind
  expressions : b.expressions = expressions

/-- The end of a statement list at block `id` after the expressions `pre`. -/
def Closes (id : Nat) (pre : List (TypedExpr α)) : Exit α → Prop
  | .join j => ∃ b, BlockAt blocks id 2 pre b ∧ b.succ0 = j
  | .back header next => ∃ b, BlockAt blocks id 2 (pre ++ [next]) b ∧ b.succ0 = header
  | .tail value => ∃ x b, value = some x ∧ BlockAt blocks id 3 (pre ++ [x]) b ∧ b.termStart = x.start ∧
      b.termStop = x.stop

/-- The header of a loop. -/
def HeaderAt (header body exit start stop : Nat) : Prop :=
  ∃ b, BlockAt blocks header 1 [] b ∧ b.succ0 = body ∧ b.succ1 = exit ∧ b.termStart = start ∧ b.termStop = stop

inductive Code : Nat → List (TypedExpr α) → List (TStmt α) → Exit α → Bool → Prop
  | nil {id : Nat} {pre : List (TypedExpr α)} {exit : Exit α} (hcloses : Closes blocks id pre exit) :
      Code id pre [] exit true
  | bind {id : Nat} {pre : List (TypedExpr α)} {x : TypedExpr α} {rest : List (TStmt α)} {exit : Exit α} {live : Bool}
      (hrest : Code id (pre ++ [x]) rest exit live) : Code id pre (.bind x :: rest) exit live
  | fail {id : Nat} {pre : List (TypedExpr α)} {s e : Nat} {exit : Exit α} {b : Block α}
      (hb : BlockAt blocks id 4 pre b) (hspan : b.termStart = s ∧ b.termStop = e) :
      Code id pre [.fail s e] exit false
  | ret {id : Nat} {pre : List (TypedExpr α)} {x : TypedExpr α} {exit : Exit α} {b : Block α}
      (hb : BlockAt blocks id 3 (pre ++ [x]) b) (hspan : b.termStart = x.start ∧ b.termStop = x.stop) :
      Code id pre [.ret x] exit false
  | branch {id join : Nat} {pre : List (TypedExpr α)} {cond : TypedExpr α} {yes no rest : List (TStmt α)}
      {exit : Exit α} {live₁ live₂ live : Bool} {b : Block α}
      (hb : BlockAt blocks id 1 (pre ++ [cond]) b) (hspan : b.termStart = cond.start ∧ b.termStop = cond.stop)
      (hyes : Code b.succ0 [] yes (.join join) live₁) (hno : Code b.succ1 [] no (.join join) live₂)
      (hrest : (live₁ || live₂) = true → Code join [] rest exit live)
      (hdead : (live₁ || live₂) = false → live = false) :
      Code id pre (.branch cond yes no :: rest) exit live
  | loop {id header body exitId s e : Nat} {pre : List (TypedExpr α)} {source : Option (TypedExpr α)}
      {initial next : TypedExpr α} {stmts rest : List (TStmt α)} {exit : Exit α} {live₁ live : Bool} {b : Block α}
      (hb : BlockAt blocks id 2 (pre ++ (source.toList ++ [initial])) b) (hsucc : b.succ0 = header)
      (hheader : HeaderAt blocks header body exitId s e) (hbody : Code body [] stmts (.back header next) live₁)
      (hrest : Code exitId [] rest exit live) :
      Code id pre (.loop source initial stmts next s e :: rest) exit live

/-- What is left to do and the exit agree, as far as the end is reached. -/
inductive ContsAt (tail : Option (TypedExpr α)) : List (Cont α) → Exit α → Bool → Prop
  | dead {conts : List (Cont α)} {exit : Exit α} : ContsAt tail conts exit false
  | done : ContsAt tail [] (.tail tail) true
  | seq {join : Nat} {rest : List (TStmt α)} {conts : List (Cont α)} {exit : Exit α} {live : Bool}
      (hrest : Code blocks join [] rest exit live) (hconts : ContsAt tail conts exit live) :
      ContsAt tail (.seq rest :: conts) (.join join) true
  | loop {header body exitId s e : Nat} {next : TypedExpr α} {stmts rest : List (TStmt α)} {conts : List (Cont α)}
      {exit : Exit α} {live : Bool} (hheader : HeaderAt blocks header body exitId s e)
      (hbody : Code blocks body [] stmts (.back header next) true) (hrest : Code blocks exitId [] rest exit live)
      (hconts : ContsAt tail conts exit live) :
      ContsAt tail (.loop stmts next s e rest :: conts) (.back header next) true

/-- The structured machine and the graph machine are at the same place: the start of a block, a loop's header, or
    the end. -/
inductive Aligned (tail : Option (TypedExpr α)) : Config α → GConfig α → Prop
  | run {id : Nat} {stmts : List (TStmt α)} {conts : List (Cont α)} {exit : Exit α} {live : Bool}
      {events : List (Event α)} (hcode : Code blocks id [] stmts exit live)
      (hconts : ContsAt blocks tail conts exit live) : Aligned tail (.run stmts conts events) (.block id events)
  | header {header body exitId s e : Nat} {next : TypedExpr α} {stmts rest : List (TStmt α)} {conts : List (Cont α)}
      {exit : Exit α} {live₁ live : Bool} {events : List (Event α)}
      (hheader : HeaderAt blocks header body exitId s e)
      (hbody : Code blocks body [] stmts (.back header next) live₁) (hrest : Code blocks exitId [] rest exit live)
      (hconts : ContsAt blocks tail conts exit live) :
      Aligned tail (.header stmts next s e rest conts events) (.block header events)
  | ended {ending : Ending} {events : List (Event α)} : Aligned tail (.ended ending events) (.ended ending events)

/-! ## The simulation -/

section Simulation

variable {blocks} {tail : Option (TypedExpr α)} {oracle : Oracle α}

/-- With unique ids a listed block is the one found. -/
theorem find_of_mem {l : List (Block α)} (hnodup : (l.map Block.id).Nodup) {b : Block α} (hb : b ∈ l) :
    l.find? (fun c => c.id == b.id) = some b := by
  induction l with
  | nil => cases hb
  | cons c t ih =>
      obtain ⟨hnot, hnodup⟩ := List.nodup_cons.mp hnodup
      rcases List.mem_cons.mp hb with rfl | hb
      · simp
      · have hne : c.id ≠ b.id := by
          intro heq
          rw [heq] at hnot
          exact hnot (List.mem_map_of_mem hb)
        rw [List.find?_cons_of_neg (by simpa using hne)]
        exact ih hnodup hb

theorem BlockAt.execGraph (hnodup : (blocks.map Block.id).Nodup) {id kind : Nat} {expressions : List (TypedExpr α)}
    {b : Block α} (hb : BlockAt blocks id kind expressions b) (events : List (Event α)) :
    execGraph oracle blocks (.block id events) = leave oracle b (events ++ expressions.map .eval) := by
  have hfind : blocks.find? (fun b => b.id == id) = some b := by
    rw [← hb.id]
    exact find_of_mem hnodup hb.mem
  simp only [Flow.execGraph, hfind, hb.expressions]

/-- The rest of a loop body that may reach its end. -/
theorem ContsAt.of_loop {header body exitId s e : Nat} {next : TypedExpr α} {stmts rest : List (TStmt α)}
    {conts : List (Cont α)} {exit : Exit α} {live₁ live : Bool} (hheader : HeaderAt blocks header body exitId s e)
    (hbody : Code blocks body [] stmts (.back header next) live₁) (hrest : Code blocks exitId [] rest exit live)
    (hconts : ContsAt blocks tail conts exit live) :
    ContsAt blocks tail (.loop stmts next s e rest :: conts) (.back header next) live₁ := by
  cases live₁ with
  | false => exact .dead
  | true => exact .loop hheader hbody hrest hconts

/-- The rest after a branch that may reach its end. -/
theorem ContsAt.of_branch {join : Nat} {rest : List (TStmt α)} {conts : List (Cont α)} {exit : Exit α}
    {live₁ live : Bool} (hrest : live₁ = true → Code blocks join [] rest exit live)
    (hconts : ContsAt blocks tail conts exit live) :
    ContsAt blocks tail (.seq rest :: conts) (.join join) live₁ := by
  cases live₁ with
  | false => exact .dead
  | true => exact .seq (hrest rfl) hconts

/-- **A block of the graph is some steps of the statements it holds.** -/
theorem Code.matches (hnodup : (blocks.map Block.id).Nodup) {id : Nat} {pre : List (TypedExpr α)}
    {stmts : List (TStmt α)} {exit : Exit α} {live : Bool} (hcode : Code blocks id pre stmts exit live)
    {conts : List (Cont α)} (hconts : ContsAt blocks tail conts exit live) (events : List (Event α)) :
    ∃ n, 0 < n ∧ Aligned blocks tail ((exec oracle tail)^[n] (.run stmts conts (events ++ pre.map .eval)))
      (execGraph oracle blocks (.block id events)) := by
  induction hcode generalizing conts with
  | @nil id pre exit hcloses =>
      refine ⟨1, Nat.one_pos, ?_⟩
      cases hconts with
      | done =>
          obtain ⟨x, b, htail, hb, hspan⟩ := hcloses
          subst htail
          rw [hb.execGraph hnodup]
          simp only [leave, hb.kind, hspan, List.map_append, ← List.append_assoc]
          exact .ended
      | seq hrest hconts =>
          obtain ⟨b, hb, hsucc⟩ := hcloses
          rw [hb.execGraph hnodup]
          simp only [leave, hb.kind, hsucc]
          exact .run hrest hconts
      | loop hheader hbody hrest hconts =>
          obtain ⟨b, hb, hsucc⟩ := hcloses
          rw [hb.execGraph hnodup]
          simp only [leave, hb.kind, hsucc, List.map_append, ← List.append_assoc]
          exact .header hheader hbody hrest hconts
  | @bind id pre x rest exit live hrest ih =>
      obtain ⟨n, -, hn⟩ := ih hconts
      refine ⟨n + 1, Nat.succ_pos n, ?_⟩
      rw [Function.iterate_succ_apply]
      simpa [exec] using hn
  | @fail id pre s e exit b hb hspan =>
      refine ⟨1, Nat.one_pos, ?_⟩
      rw [hb.execGraph hnodup]
      simp only [leave, hb.kind, hspan]
      exact .ended
  | @ret id pre x exit b hb hspan =>
      refine ⟨1, Nat.one_pos, ?_⟩
      rw [hb.execGraph hnodup]
      simp only [leave, hb.kind, hspan, List.map_append, ← List.append_assoc]
      exact .ended
  | @branch id join pre cond yes no rest exit live₁ live₂ live b hb hspan hyes hno hrest hdead ihyes ihno ihrest =>
      refine ⟨1, Nat.one_pos, ?_⟩
      rw [hb.execGraph hnodup]
      simp only [leave, hb.kind, hspan, List.map_append, List.map_cons, List.map_nil, ← List.append_assoc, if_true,
        Function.iterate_one, exec]
      -- the branch taken runs with the join behind it
      cases oracle (events ++ pre.map .eval ++ [.eval cond]) cond.start cond.stop with
      | true => exact .run hyes (.of_branch (fun h => hrest (by rw [h, Bool.true_or])) hconts)
      | false => exact .run hno (.of_branch (fun h => hrest (by rw [h, Bool.or_true])) hconts)
  | @loop id header body exitId s e pre source initial next stmts rest exit live₁ live b hb hsucc hheader hbody hrest
      ihbody ihrest =>
      refine ⟨1, Nat.one_pos, ?_⟩
      rw [hb.execGraph hnodup, List.map_append, ← List.append_assoc]
      simp only [leave, hb.kind, hsucc]
      exact .header hheader hbody hrest hconts

/-- **The two machines stay aligned.** -/
theorem aligned_matches (hnodup : (blocks.map Block.id).Nodup) (oracle : Oracle α) (tail : Option (TypedExpr α)) :
    Matches (exec oracle tail) (execGraph oracle blocks) (Aligned blocks tail) := by
  intro c g h
  cases h with
  | @run id stmts conts exit live events hcode hconts =>
      have hsome : ∃ n, 0 < n ∧ Aligned blocks tail ((exec oracle tail)^[n] (.run stmts conts (events ++ [])))
          (execGraph oracle blocks (.block id events)) := hcode.matches hnodup hconts events
      rwa [List.append_nil] at hsome
  | @header header body exitId s e next stmts rest conts exit live₁ live events hheader hbody hrest hconts =>
      refine ⟨1, Nat.one_pos, ?_⟩
      obtain ⟨b, hb, hbody0, hexit, hstart, hstop⟩ := hheader
      rw [hb.execGraph hnodup]
      simp only [leave, hb.kind, hbody0, hexit, hstart, hstop, List.map_nil, List.append_nil, if_true,
        Function.iterate_one, exec]
      cases oracle events s e with
      | true => exact .run hbody (.of_loop ⟨b, hb, hbody0, hexit, hstart, hstop⟩ hbody hrest hconts)
      | false => exact .run hrest hconts
  | ended => exact ⟨1, Nat.one_pos, .ended⟩

/-- A body at its start is aligned with the graph that holds it. -/
theorem Code.aligned {id : Nat} {stmts : List (TStmt α)} {live : Bool}
    (hcode : Code blocks id [] stmts (.tail tail) live) : Aligned blocks tail (.run stmts [] []) (.block id []) := by
  cases live with
  | false => exact .run hcode .dead
  | true => exact .run hcode .done

/-- Aligned machines show the same, and are not stuck. -/
theorem Aligned.alike {c : Config α} {g : GConfig α} (h : Aligned blocks tail c g) :
    (c.ending = g.ending ∧ c.events = g.events) ∧ g.ending ≠ some none := by
  cases h with
  | run hcode hconts => exact ⟨⟨rfl, rfl⟩, by rintro ⟨⟩⟩
  | header hheader hbody hrest hconts => exact ⟨⟨rfl, rfl⟩, by rintro ⟨⟩⟩
  | ended => exact ⟨⟨rfl, rfl⟩, by rintro ⟨⟩⟩

/-- **A graph that holds a body behaves as the body**: the same events in the same order, and the same end; and it is
    never stuck. -/
theorem Code.same (hnodup : (blocks.map Block.id).Nodup) {id : Nat} {stmts : List (TStmt α)} {live : Bool}
    (hcode : Code blocks id [] stmts (.tail tail) live) (oracle : Oracle α) :
    Same (exec oracle tail) (execGraph oracle blocks) Config.ending GConfig.ending Config.events GConfig.events
        (.run stmts [] []) (.block id []) ∧
      ∀ m, ((execGraph oracle blocks)^[m] (.block id [])).ending ≠ some none := by
  have hmatches := aligned_matches hnodup oracle tail
  refine ⟨hmatches.same (exec_observes oracle tail) (fun c g h => h.alike.1) hcode.aligned, fun m => ?_⟩
  obtain ⟨n, -, h⟩ := hmatches.iterate hcode.aligned m
  exact h.alike.2

end Simulation

end MncsCompiler.Flow
