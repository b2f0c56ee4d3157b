import MncsCompiler.Flow.Blocks
import Mathlib.Logic.Relation

/-!
# `Flow.Reach` — reachability flags against paths

Lowering never searches the graph: it hands a flag on from block to block. A chart keeps what matters of a build, the
marks of its blocks, their edges, the exits of its loops and one gate for each frame. Its moves keep three things: a
live mark has a path (`Chart.Sound`), a live edge leads to a live mark or to a live gate (`Chart.Complete`), and the
joins that have died are counted (`Chart.Counted`). Every move of the walk is a move of its chart (`Moves.chart`), and
when the walk ends no gate is left.
-/

namespace MncsCompiler.Flow

open BoundedLoop Decl

variable {α : Type}

/-! ## The chart -/

/-- A block that is open or listed. -/
structure Mark where
  id : Nat
  live : Bool
  join : Bool
  deriving DecidableEq, Repr

/-- What an enclosing statement has promised: the else part and the join of an `if`, or the exit of a loop. -/
inductive Gate where
  | thenPart (elseId joinId : Nat) (live : Bool)
  | elsePart (joinId : Nat) (live falls : Bool)
  | loop (headerId exitId : Nat) (live : Bool)
  deriving DecidableEq, Repr

namespace Gate

/-- The statement itself is live. -/
def live : Gate → Bool
  | thenPart _ _ l => l
  | elsePart _ l _ => l
  | loop _ _ l => l

/-- The id that is opened next. -/
def due : Gate → Nat
  | thenPart e _ _ => e
  | elsePart j _ _ => j
  | loop _ e _ => e

/-- An edge from a live block leads to the id that is opened next. -/
def dueLive : Gate → Bool
  | thenPart _ _ l => l
  | elsePart _ _ f => f
  | loop _ _ l => l

/-- The join of an `if`. -/
def joins : Gate → List Nat
  | thenPart _ j _ => [j]
  | elsePart j _ _ => [j]
  | loop _ _ _ => []

end Gate

structure Chart where
  opened : List Mark
  listed : List Mark
  edges : List (Mark × Nat)
  exits : List Nat
  gates : List Gate
  dead : Nat
  nextId : Nat

namespace Chart

def marks (c : Chart) : List Mark := c.opened ++ c.listed

def Edge (c : Chart) (i j : Nat) : Prop := ∃ m, m.id = i ∧ (m, j) ∈ c.edges

/-- A path from the entry. -/
def Reaches (c : Chart) (i : Nat) : Prop := Relation.ReflTransGen c.Edge 0 i

/-- A live mark, or a live promise of one. -/
def Live (c : Chart) (i : Nat) : Prop :=
  (∃ m ∈ c.marks, m.id = i ∧ m.live = true) ∨ ∃ g ∈ c.gates, g.due = i ∧ g.dueLive = true

inductive Move : Chart → Chart → Prop
  | keep (c : Chart) : Move c c
  | close (m : Mark) (l : List Mark) (es : List (Mark × Nat)) (xs : List Nat) (gs : List Gate) (d n : Nat) :
      Move ⟨[m], l, es, xs, gs, d, n⟩ ⟨[], m :: l, es, xs, gs, d, n⟩
  | branch (m : Mark) (l : List Mark) (es : List (Mark × Nat)) (xs : List Nat) (gs : List Gate) (d n : Nat) :
      Move ⟨[m], l, es, xs, gs, d, n⟩
        ⟨[⟨n, m.live, false⟩], m :: l, (m, n) :: (m, n + 1) :: es, xs, .thenPart (n + 1) (n + 2) m.live :: gs, d,
          n + 3⟩
  | loop (m : Mark) (l : List Mark) (es : List (Mark × Nat)) (xs : List Nat) (gs : List Gate) (d n : Nat) :
      Move ⟨[m], l, es, xs, gs, d, n⟩
        ⟨[⟨n + 1, m.live, false⟩], ⟨n, m.live, false⟩ :: m :: l,
          (⟨n, m.live, false⟩, n + 1) :: (⟨n, m.live, false⟩, n + 2) :: (m, n) :: es, (n + 2) :: xs,
          .loop n (n + 2) m.live :: gs, d, n + 3⟩
  | back (m : Mark) (hlive : m.live = true) (h e : Nat) (live : Bool) (l : List Mark) (es : List (Mark × Nat))
      (xs : List Nat) (gs : List Gate) (d n : Nat) :
      Move ⟨[m], l, es, xs, .loop h e live :: gs, d, n⟩ ⟨[⟨e, live, true⟩], m :: l, (m, h) :: es, xs, gs, d, n⟩
  | sink (o : List Mark) (h e : Nat) (live : Bool) (l : List Mark) (es : List (Mark × Nat)) (xs : List Nat)
      (gs : List Gate) (d n : Nat) :
      Move ⟨o, l, es, xs, .loop h e live :: gs, d, n⟩ ⟨[⟨e, live, true⟩], o ++ l, es, xs, gs, d, n⟩
  | thenEnd (o : List Mark) (e j : Nat) (live : Bool) (l : List Mark) (es : List (Mark × Nat)) (xs : List Nat)
      (gs : List Gate) (d n : Nat) :
      Move ⟨o, l, es, xs, .thenPart e j live :: gs, d, n⟩
        ⟨[⟨e, live, false⟩], o ++ l, o.map (·, j) ++ es, xs, .elsePart j live (o.any Mark.live) :: gs, d, n⟩
  | elseEnd (o : List Mark) (j : Nat) (live falls : Bool) (l : List Mark) (es : List (Mark × Nat)) (xs : List Nat)
      (gs : List Gate) (d n : Nat) :
      Move ⟨o, l, es, xs, .elsePart j live falls :: gs, d, n⟩
        ⟨[⟨j, falls || o.any Mark.live, true⟩], o ++ l, o.map (·, j) ++ es, xs, gs,
          if falls || o.any Mark.live then d else d + 1, n⟩

/-! ## Live marks have paths -/

theorem Move.edges_subset {c c' : Chart} (h : Move c c') : c.edges ⊆ c'.edges := by
  cases h with
  | keep => exact List.Subset.refl _
  | close => exact List.Subset.refl _
  | branch => exact fun _ hx => List.mem_cons_of_mem _ (List.mem_cons_of_mem _ hx)
  | loop => exact fun _ hx => List.mem_cons_of_mem _ (List.mem_cons_of_mem _ (List.mem_cons_of_mem _ hx))
  | back => exact fun _ hx => List.mem_cons_of_mem _ hx
  | sink => exact List.Subset.refl _
  | thenEnd => exact fun _ hx => List.mem_append_right _ hx
  | elseEnd => exact fun _ hx => List.mem_append_right _ hx

/-- Paths stay paths. -/
theorem Move.reaches {c c' : Chart} (h : Move c c') {i : Nat} (hi : c.Reaches i) : c'.Reaches i := by
  induction hi with
  | refl => exact Relation.ReflTransGen.refl
  | tail hpath hedge ih =>
      obtain ⟨m, hm, hedge⟩ := hedge
      exact ih.tail ⟨m, hm, h.edges_subset hedge⟩

theorem Reaches.step {c : Chart} {m : Mark} {j : Nat} (h : c.Reaches m.id) (hedge : (m, j) ∈ c.edges) : c.Reaches j :=
  Relation.ReflTransGen.tail h ⟨m, rfl, hedge⟩

structure Sound (c : Chart) : Prop where
  marks : ∀ m ∈ c.marks, m.live = true → c.Reaches m.id
  due : ∀ g ∈ c.gates, g.dueLive = true → c.Reaches g.due

/-- An id with an edge from a live mark has a path. -/
theorem Sound.any {c c' : Chart} (hc : c.Sound) (h : Move c c') {j : Nat}
    (hedges : ∀ m ∈ c.opened, (m, j) ∈ c'.edges) (hany : c.opened.any Mark.live = true) : c'.Reaches j := by
  obtain ⟨m, hm, hlive⟩ := List.any_eq_true.mp hany
  exact (h.reaches (hc.marks m (List.mem_append_left _ hm) hlive)).step (hedges m hm)

theorem Move.sound {c c' : Chart} (h : Move c c') (hc : c.Sound) : c'.Sound := by
  have hold : ∀ m ∈ c.marks, m.live = true → c'.Reaches m.id := fun m hm hlive => h.reaches (hc.marks m hm hlive)
  have hgates : ∀ g ∈ c.gates, g.dueLive = true → c'.Reaches g.due := fun g hg hlive => h.reaches (hc.due g hg hlive)
  have hcopy := h
  cases h with
  | keep => exact hc
  | close m l es xs gs d n => exact ⟨hold, hgates⟩
  | branch m l es xs gs d n =>
      have hsource : m.live = true → _ := hold m List.mem_cons_self
      constructor
      · intro m' hm' hlive
        rcases List.mem_cons.mp hm' with rfl | hm'
        · exact (hsource hlive).step List.mem_cons_self
        · exact hold m' hm' hlive
      · intro g hg hlive
        rcases List.mem_cons.mp hg with rfl | hg
        · exact (hsource hlive).step (List.mem_cons_of_mem _ List.mem_cons_self)
        · exact hgates g hg hlive
  | loop m l es xs gs d n =>
      have hsource : m.live = true → _ := hold m List.mem_cons_self
      have hheader : m.live = true → Reaches _ n := fun hlive =>
        (hsource hlive).step (List.mem_cons_of_mem _ (List.mem_cons_of_mem _ List.mem_cons_self))
      constructor
      · intro m' hm' hlive
        rcases List.mem_cons.mp hm' with rfl | hm'
        · exact Reaches.step (m := ⟨n, m.live, false⟩) (hheader hlive) List.mem_cons_self
        · rcases List.mem_cons.mp hm' with rfl | hm'
          · exact hheader hlive
          · exact hold m' hm' hlive
      · intro g hg hlive
        rcases List.mem_cons.mp hg with rfl | hg
        · exact Reaches.step (m := ⟨n, m.live, false⟩) (hheader hlive) (List.mem_cons_of_mem _ List.mem_cons_self)
        · exact hgates g hg hlive
  | back m hmlive h e live l es xs gs d n =>
      constructor
      · intro m' hm' hlive
        rcases List.mem_cons.mp hm' with rfl | hm'
        · exact hgates _ List.mem_cons_self hlive
        · exact hold m' hm' hlive
      · exact fun g hg hlive => hgates g (List.mem_cons_of_mem _ hg) hlive
  | sink o h e live l es xs gs d n =>
      constructor
      · intro m' hm' hlive
        rcases List.mem_cons.mp hm' with rfl | hm'
        · exact hgates _ List.mem_cons_self hlive
        · exact hold m' hm' hlive
      · exact fun g hg hlive => hgates g (List.mem_cons_of_mem _ hg) hlive
  | thenEnd o e j live l es xs gs d n =>
      have hjoin := hc.any hcopy (j := j) fun m hm => List.mem_append_left _ (List.mem_map_of_mem hm)
      constructor
      · intro m' hm' hlive
        rcases List.mem_cons.mp hm' with rfl | hm'
        · exact hgates _ List.mem_cons_self hlive
        · exact hold m' hm' hlive
      · intro g hg hlive
        rcases List.mem_cons.mp hg with rfl | hg
        · exact hjoin hlive
        · exact hgates g (List.mem_cons_of_mem _ hg) hlive
  | elseEnd o j live falls l es xs gs d n =>
      have hjoin := hc.any hcopy (j := j) fun m hm => List.mem_append_left _ (List.mem_map_of_mem hm)
      constructor
      · intro m' hm' hlive
        rcases List.mem_cons.mp hm' with rfl | hm'
        · rcases Bool.or_eq_true_iff.mp hlive with hfalls | hany
          · exact hgates _ List.mem_cons_self hfalls
          · exact hjoin hany
        · exact hold m' hm' hlive
      · exact fun g hg hlive => hgates g (List.mem_cons_of_mem _ hg) hlive

/-! ## Live edges lead to live marks -/

/-- What is inside a statement is live only if the statement is. -/
structure Nested (c : Chart) : Prop where
  opened : ∀ m ∈ c.opened, m.live = true → ∀ g ∈ c.gates, g.live = true
  due : ∀ g ∈ c.gates, g.dueLive = true → g.live = true
  order : c.gates.Pairwise fun g g' => g.live = true → g'.live = true

theorem Move.nested {c c' : Chart} (h : Move c c') (hc : c.Nested) : c'.Nested := by
  obtain ⟨hopened, hdue, horder⟩ := hc
  cases h with
  | keep => exact ⟨hopened, hdue, horder⟩
  | close m l es xs gs d n => exact ⟨fun _ hm => (List.not_mem_nil hm).elim, hdue, horder⟩
  | branch m l es xs gs d n =>
      have hall := hopened m List.mem_cons_self
      refine ⟨?_, ?_, List.pairwise_cons.mpr ⟨fun g hg hlive => hall hlive g hg, horder⟩⟩
      · intro m' hm' hlive g hg
        obtain rfl := List.mem_singleton.mp hm'
        rcases List.mem_cons.mp hg with rfl | hg
        · exact hlive
        · exact hall hlive g hg
      · intro g hg hlive
        rcases List.mem_cons.mp hg with rfl | hg
        · exact hlive
        · exact hdue g hg hlive
  | loop m l es xs gs d n =>
      have hall := hopened m List.mem_cons_self
      refine ⟨?_, ?_, List.pairwise_cons.mpr ⟨fun g hg hlive => hall hlive g hg, horder⟩⟩
      · intro m' hm' hlive g hg
        obtain rfl := List.mem_singleton.mp hm'
        rcases List.mem_cons.mp hg with rfl | hg
        · exact hlive
        · exact hall hlive g hg
      · intro g hg hlive
        rcases List.mem_cons.mp hg with rfl | hg
        · exact hlive
        · exact hdue g hg hlive
  | back m hmlive h e live l es xs gs d n =>
      obtain ⟨hinner, hrest⟩ := List.pairwise_cons.mp horder
      refine ⟨?_, fun g hg => hdue g (List.mem_cons_of_mem _ hg), hrest⟩
      intro m' hm' hlive g hg
      obtain rfl := List.mem_singleton.mp hm'
      exact hinner g hg hlive
  | sink o h e live l es xs gs d n =>
      obtain ⟨hinner, hrest⟩ := List.pairwise_cons.mp horder
      refine ⟨?_, fun g hg => hdue g (List.mem_cons_of_mem _ hg), hrest⟩
      intro m' hm' hlive g hg
      obtain rfl := List.mem_singleton.mp hm'
      exact hinner g hg hlive
  | thenEnd o e j live l es xs gs d n =>
      obtain ⟨hinner, hrest⟩ := List.pairwise_cons.mp horder
      refine ⟨?_, ?_, List.pairwise_cons.mpr ⟨hinner, hrest⟩⟩
      · intro m' hm' hlive g hg
        obtain rfl := List.mem_singleton.mp hm'
        rcases List.mem_cons.mp hg with rfl | hg
        · exact hlive
        · exact hinner g hg hlive
      · intro g hg hlive
        rcases List.mem_cons.mp hg with rfl | hg
        · obtain ⟨m, hm, hmlive⟩ := List.any_eq_true.mp hlive
          exact hopened m hm hmlive (.thenPart e j live) List.mem_cons_self
        · exact hdue g (List.mem_cons_of_mem _ hg) hlive
  | elseEnd o j live falls l es xs gs d n =>
      obtain ⟨hinner, hrest⟩ := List.pairwise_cons.mp horder
      refine ⟨?_, fun g hg => hdue g (List.mem_cons_of_mem _ hg), hrest⟩
      intro m' hm' hlive g hg
      obtain rfl := List.mem_singleton.mp hm'
      rcases Bool.or_eq_true_iff.mp hlive with hfalls | hany
      · exact hinner g hg (hdue _ List.mem_cons_self hfalls)
      · obtain ⟨m, hm, hmlive⟩ := List.any_eq_true.mp hany
        exact hopened m hm hmlive g (List.mem_cons_of_mem _ hg)

theorem Live.of_mark {c : Chart} {m : Mark} (hm : m ∈ c.marks) (hlive : m.live = true) : c.Live m.id :=
  .inl ⟨m, hm, rfl, hlive⟩

theorem Live.of_gate {c : Chart} {g : Gate} (hg : g ∈ c.gates) (hlive : g.dueLive = true) : c.Live g.due :=
  .inr ⟨g, hg, rfl, hlive⟩

/-- Live ids stay live: a gate that is left opens its mark. -/
theorem Move.live {c c' : Chart} (h : Move c c') {i : Nat} (hi : c.Live i) : c'.Live i := by
  rcases hi with ⟨m₀, hm₀, rfl, hlive⟩ | ⟨g₀, hg₀, rfl, hlive⟩
  · cases h with
    | keep => exact .of_mark hm₀ hlive
    | close => exact .of_mark hm₀ hlive
    | branch => exact .of_mark (List.mem_cons_of_mem _ hm₀) hlive
    | loop => exact .of_mark (List.mem_cons_of_mem _ (List.mem_cons_of_mem _ hm₀)) hlive
    | back => exact .of_mark (List.mem_cons_of_mem _ hm₀) hlive
    | sink => exact .of_mark (List.mem_cons_of_mem _ hm₀) hlive
    | thenEnd => exact .of_mark (List.mem_cons_of_mem _ hm₀) hlive
    | elseEnd => exact .of_mark (List.mem_cons_of_mem _ hm₀) hlive
  · cases h with
    | keep => exact .of_gate hg₀ hlive
    | close => exact .of_gate hg₀ hlive
    | branch => exact .of_gate (List.mem_cons_of_mem _ hg₀) hlive
    | loop => exact .of_gate (List.mem_cons_of_mem _ hg₀) hlive
    | back m hmlive h e live l es xs gs d n =>
        rcases List.mem_cons.mp hg₀ with rfl | hg
        · exact Live.of_mark (m := ⟨e, live, true⟩) List.mem_cons_self hlive
        · exact .of_gate hg hlive
    | sink o h e live l es xs gs d n =>
        rcases List.mem_cons.mp hg₀ with rfl | hg
        · exact Live.of_mark (m := ⟨e, live, true⟩) List.mem_cons_self hlive
        · exact .of_gate hg hlive
    | thenEnd o e j live l es xs gs d n =>
        rcases List.mem_cons.mp hg₀ with rfl | hg
        · exact Live.of_mark (m := ⟨e, live, false⟩) List.mem_cons_self hlive
        · exact .of_gate (List.mem_cons_of_mem _ hg) hlive
    | elseEnd o j live falls l es xs gs d n =>
        rcases List.mem_cons.mp hg₀ with rfl | hg
        · exact Live.of_mark (m := ⟨j, falls || o.any Mark.live, true⟩) List.mem_cons_self
            (Bool.or_eq_true_iff.mpr (.inl hlive))
        · exact .of_gate hg hlive

structure Complete (c : Chart) : Prop where
  entry : c.Live 0
  edges : ∀ m i, (m, i) ∈ c.edges → m.live = true → c.Live i
  headers : ∀ h e, .loop h e true ∈ c.gates → c.Live h

theorem Move.complete {c c' : Chart} (h : Move c c') (hnested : c.Nested) (hc : c.Complete) : c'.Complete := by
  have hold : ∀ m i, (m, i) ∈ c.edges → m.live = true → c'.Live i := fun m i hedge hlive =>
    h.live (hc.edges m i hedge hlive)
  have hheaders : ∀ h e, .loop h e true ∈ c.gates → c'.Live h := fun _ _ hg => h.live (hc.headers _ _ hg)
  refine ⟨h.live hc.entry, ?_, ?_⟩
  · cases h with
    | keep => exact hold
    | close => exact hold
    | branch m l es xs gs d n =>
        intro m' i hedge hlive
        rcases List.mem_cons.mp hedge with heq | hedge
        · obtain ⟨rfl, rfl⟩ := Prod.mk.inj heq
          exact Live.of_mark (m := ⟨i, m'.live, false⟩) List.mem_cons_self hlive
        · rcases List.mem_cons.mp hedge with heq | hedge
          · obtain ⟨rfl, rfl⟩ := Prod.mk.inj heq
            exact Live.of_gate (g := .thenPart (n + 1) (n + 2) m'.live) List.mem_cons_self hlive
          · exact hold m' i hedge hlive
    | loop m l es xs gs d n =>
        intro m' i hedge hlive
        rcases List.mem_cons.mp hedge with heq | hedge
        · obtain ⟨rfl, rfl⟩ := Prod.mk.inj heq
          exact Live.of_mark (m := ⟨n + 1, m.live, false⟩) List.mem_cons_self hlive
        · rcases List.mem_cons.mp hedge with heq | hedge
          · obtain ⟨rfl, rfl⟩ := Prod.mk.inj heq
            exact Live.of_gate (g := .loop n (n + 2) m.live) List.mem_cons_self hlive
          · rcases List.mem_cons.mp hedge with heq | hedge
            · obtain ⟨rfl, rfl⟩ := Prod.mk.inj heq
              exact Live.of_mark (m := ⟨i, m'.live, false⟩) (List.mem_cons_of_mem _ List.mem_cons_self) hlive
            · exact hold m' i hedge hlive
    | back m hmlive h e live l es xs gs d n =>
        intro m' i hedge hlive
        rcases List.mem_cons.mp hedge with heq | hedge
        · -- the loop is live because its end is
          obtain ⟨rfl, rfl⟩ := Prod.mk.inj heq
          have hloop : live = true := hnested.opened m' List.mem_cons_self hlive (.loop i e live) List.mem_cons_self
          exact hheaders i e (hloop ▸ List.mem_cons_self)
        · exact hold m' i hedge hlive
    | sink => exact hold
    | thenEnd o e j live l es xs gs d n =>
        intro m' i hedge hlive
        rcases List.mem_append.mp hedge with hedge | hedge
        · obtain ⟨m, hm, heq⟩ := List.mem_map.mp hedge
          obtain ⟨rfl, rfl⟩ := Prod.mk.inj heq
          exact Live.of_gate (g := .elsePart j live (o.any Mark.live)) List.mem_cons_self
            (List.any_eq_true.mpr ⟨m, hm, hlive⟩)
        · exact hold m' i hedge hlive
    | elseEnd o j live falls l es xs gs d n =>
        intro m' i hedge hlive
        rcases List.mem_append.mp hedge with hedge | hedge
        · obtain ⟨m, hm, heq⟩ := List.mem_map.mp hedge
          obtain ⟨rfl, rfl⟩ := Prod.mk.inj heq
          exact Live.of_mark (m := ⟨j, falls || o.any Mark.live, true⟩) List.mem_cons_self
            (Bool.or_eq_true_iff.mpr (.inr (List.any_eq_true.mpr ⟨m, hm, hlive⟩)))
        · exact hold m' i hedge hlive
  · cases h with
    | keep => exact hheaders
    | close => exact hheaders
    | branch m l es xs gs d n =>
        intro h e hg
        rcases List.mem_cons.mp hg with heq | hg
        · cases heq
        · exact hheaders h e hg
    | loop m l es xs gs d n =>
        intro h e hg
        rcases List.mem_cons.mp hg with heq | hg
        · obtain ⟨rfl, rfl, hlive⟩ := Gate.loop.inj heq
          exact Live.of_mark (m := ⟨h, m.live, false⟩) (List.mem_cons_of_mem _ List.mem_cons_self) hlive.symm
        · exact hheaders h e hg
    | back => exact fun h e hg => hheaders h e (List.mem_cons_of_mem _ hg)
    | sink => exact fun h e hg => hheaders h e (List.mem_cons_of_mem _ hg)
    | thenEnd o e j live l es xs gs d n =>
        intro h e' hg
        rcases List.mem_cons.mp hg with heq | hg
        · cases heq
        · exact hheaders h e' (List.mem_cons_of_mem _ hg)
    | elseEnd => exact fun h e hg => hheaders h e (List.mem_cons_of_mem _ hg)

/-- Every id with a path is live. -/
theorem Complete.live_of_reaches {c : Chart} (hc : c.Complete)
    (hfunctional : ∀ m ∈ c.marks, ∀ x ∈ c.edges, x.1.id = m.id → x.1.live = m.live) (hgates : c.gates = []) {i : Nat}
    (hi : c.Reaches i) : c.Live i := by
  induction hi with
  | refl => exact hc.entry
  | tail hpath hedge ih =>
      obtain ⟨m, rfl, hedge⟩ := hedge
      rcases ih with ⟨m', hm', hid, hlive⟩ | ⟨g, hg, -⟩
      · exact hc.edges m _ hedge ((hfunctional m' hm' _ hedge hid.symm).trans hlive)
      · rw [hgates] at hg
        exact (List.not_mem_nil hg).elim

/-! ## Dead joins are counted -/

/-- Ids are reserved before they are used, and the join of an `if` is the exit of no loop. -/
structure Fresh (c : Chart) : Prop where
  marks : ∀ m ∈ c.marks, m.id < c.nextId
  exits : ∀ e ∈ c.exits, e < c.nextId
  due : ∀ g ∈ c.gates, g.due < c.nextId
  joins : ∀ g ∈ c.gates, ∀ j ∈ g.joins, j < c.nextId ∧ j ∉ c.exits
  loops : ∀ h e live, .loop h e live ∈ c.gates → e ∈ c.exits

theorem Move.fresh {c c' : Chart} (h : Move c c') (hc : c.Fresh) : c'.Fresh := by
  obtain ⟨hmarks, hexits, hdue, hjoins, hloops⟩ := hc
  cases h with
  | keep => exact ⟨hmarks, hexits, hdue, hjoins, hloops⟩
  | close m l es xs gs d n => exact ⟨hmarks, hexits, hdue, hjoins, hloops⟩
  | branch m l es xs gs d n =>
      simp only [marks, List.singleton_append, List.mem_cons, forall_eq_or_imp] at hmarks hexits hdue hjoins hloops
      refine ⟨?_, ?_, ?_, ?_, ?_⟩
      · simp only [marks, List.singleton_append, List.mem_cons, forall_eq_or_imp]
        exact ⟨by omega, by omega, fun m' hm' => Nat.lt_add_right 3 (hmarks.2 m' hm')⟩
      · exact fun e he => Nat.lt_add_right 3 (hexits e he)
      · simp only [List.mem_cons, forall_eq_or_imp]
        exact ⟨Nat.add_lt_add_left (by decide) n, fun g hg => Nat.lt_add_right 3 (hdue g hg)⟩
      · simp only [List.mem_cons, forall_eq_or_imp, Gate.joins, List.not_mem_nil, forall_eq, or_false]
        refine ⟨⟨by omega, ?_⟩, fun g hg j hj => ⟨Nat.lt_add_right 3 (hjoins g hg j hj).1, (hjoins g hg j hj).2⟩⟩
        intro hmem
        have := hexits _ hmem
        omega
      · intro h e live hg
        rcases List.mem_cons.mp hg with heq | hg
        · cases heq
        · exact hloops h e live hg
  | loop m l es xs gs d n =>
      simp only [marks, List.singleton_append, List.mem_cons, forall_eq_or_imp] at hmarks hexits hdue hjoins hloops
      refine ⟨?_, ?_, ?_, ?_, ?_⟩
      · simp only [marks, List.singleton_append, List.mem_cons, forall_eq_or_imp]
        exact ⟨by omega, by omega, by omega, fun m' hm' => Nat.lt_add_right 3 (hmarks.2 m' hm')⟩
      · simp only [List.mem_cons, forall_eq_or_imp]
        exact ⟨Nat.lt_succ_self _, fun e he => Nat.lt_add_right 3 (hexits e he)⟩
      · simp only [List.mem_cons, forall_eq_or_imp]
        exact ⟨Nat.lt_succ_self _, fun g hg => Nat.lt_add_right 3 (hdue g hg)⟩
      · intro g hg j hj
        rcases List.mem_cons.mp hg with rfl | hg
        · exact (List.not_mem_nil hj).elim
        · obtain ⟨hlt, hnot⟩ := hjoins g hg j hj
          refine ⟨by show j < n + 3; omega, ?_⟩
          intro hmem
          rcases List.mem_cons.mp hmem with heq | hmem
          · have hj : j < n := hlt
            omega
          · exact hnot hmem
      · intro h e live hg
        rcases List.mem_cons.mp hg with heq | hg
        · cases heq
          exact List.mem_cons_self
        · exact List.mem_cons_of_mem _ (hloops h e live hg)
  | back m hmlive h e live l es xs gs d n =>
      refine ⟨?_, hexits, fun g hg => hdue g (List.mem_cons_of_mem _ hg),
        fun g hg => hjoins g (List.mem_cons_of_mem _ hg), fun h e live hg => hloops h e live (List.mem_cons_of_mem _ hg)⟩
      intro m' hm'
      rcases List.mem_cons.mp hm' with rfl | hm'
      · exact hdue _ List.mem_cons_self
      · exact hmarks m' hm'
  | sink o h e live l es xs gs d n =>
      refine ⟨?_, hexits, fun g hg => hdue g (List.mem_cons_of_mem _ hg),
        fun g hg => hjoins g (List.mem_cons_of_mem _ hg), fun h e live hg => hloops h e live (List.mem_cons_of_mem _ hg)⟩
      intro m' hm'
      rcases List.mem_cons.mp hm' with rfl | hm'
      · exact hdue _ List.mem_cons_self
      · exact hmarks m' hm'
  | thenEnd o e j live l es xs gs d n =>
      have hjoin := hjoins _ List.mem_cons_self j List.mem_cons_self
      refine ⟨?_, hexits, ?_, ?_, ?_⟩
      · intro m' hm'
        rcases List.mem_cons.mp hm' with rfl | hm'
        · exact hdue _ List.mem_cons_self
        · exact hmarks m' hm'
      · intro g hg
        rcases List.mem_cons.mp hg with rfl | hg
        · exact hjoin.1
        · exact hdue g (List.mem_cons_of_mem _ hg)
      · intro g hg i hi
        rcases List.mem_cons.mp hg with rfl | hg
        · obtain rfl := List.mem_singleton.mp hi
          exact hjoin
        · exact hjoins g (List.mem_cons_of_mem _ hg) i hi
      · intro h e' live' hg
        rcases List.mem_cons.mp hg with heq | hg
        · cases heq
        · exact hloops h e' live' (List.mem_cons_of_mem _ hg)
  | elseEnd o j live falls l es xs gs d n =>
      refine ⟨?_, hexits, fun g hg => hdue g (List.mem_cons_of_mem _ hg),
        fun g hg => hjoins g (List.mem_cons_of_mem _ hg), fun h e live hg => hloops h e live (List.mem_cons_of_mem _ hg)⟩
      intro m' hm'
      rcases List.mem_cons.mp hm' with rfl | hm'
      · exact hdue _ List.mem_cons_self
      · exact hmarks m' hm'

/-- The join of an `if` that no live block reaches. -/
def deadJoin (exits : List Nat) (m : Mark) : Bool := m.join && !m.live && !decide (m.id ∈ exits)

def Counted (c : Chart) : Prop := c.dead = c.marks.countP (deadJoin c.exits)

theorem Move.counted {c c' : Chart} (h : Move c c') (hfresh : c.Fresh) (hc : c.Counted) : c'.Counted := by
  unfold Counted at hc ⊢
  cases h with
  | keep => exact hc
  | close m l es xs gs d n => exact hc
  | branch m l es xs gs d n =>
      have hnew : deadJoin xs ⟨n, m.live, false⟩ = false := rfl
      show d = List.countP _ (⟨n, m.live, false⟩ :: m :: l)
      rw [List.countP_cons_of_neg (by rw [hnew]; decide)]
      exact hc
  | loop m l es xs gs d n =>
      have hnew : ∀ i, deadJoin ((n + 2) :: xs) ⟨i, m.live, false⟩ = false := fun _ => rfl
      show d = List.countP _ (⟨n + 1, m.live, false⟩ :: ⟨n, m.live, false⟩ :: m :: l)
      rw [List.countP_cons_of_neg (by rw [hnew]; decide), List.countP_cons_of_neg (by rw [hnew]; decide)]
      refine hc.trans (List.countP_congr ?_)
      intro m' hm'
      have hlt : m'.id < n := hfresh.marks m' hm'
      have hne : m'.id ≠ n + 2 := by omega
      simp [deadJoin, hne]
  | back m hmlive h e live l es xs gs d n =>
      have hexit : e ∈ xs := hfresh.loops h e live List.mem_cons_self
      have hnew : deadJoin xs ⟨e, live, true⟩ = false := by simp [deadJoin, hexit]
      show d = List.countP _ (⟨e, live, true⟩ :: m :: l)
      rw [List.countP_cons_of_neg (by rw [hnew]; decide)]
      exact hc
  | sink o h e live l es xs gs d n =>
      have hexit : e ∈ xs := hfresh.loops h e live List.mem_cons_self
      have hnew : deadJoin xs ⟨e, live, true⟩ = false := by simp [deadJoin, hexit]
      show d = List.countP _ (⟨e, live, true⟩ :: (o ++ l))
      rw [List.countP_cons_of_neg (by rw [hnew]; decide)]
      exact hc
  | thenEnd o e j live l es xs gs d n =>
      have hnew : deadJoin xs ⟨e, live, false⟩ = false := rfl
      show d = List.countP _ (⟨e, live, false⟩ :: (o ++ l))
      rw [List.countP_cons_of_neg (by rw [hnew]; decide)]
      exact hc
  | elseEnd o j live falls l es xs gs d n =>
      have hjoin : j ∉ xs := (hfresh.joins _ List.mem_cons_self j List.mem_cons_self).2
      show (if falls || o.any Mark.live then d else d + 1) =
        List.countP _ (⟨j, falls || o.any Mark.live, true⟩ :: (o ++ l))
      cases hlive : falls || o.any Mark.live with
      | true =>
          rw [if_pos rfl, List.countP_cons_of_neg (by simp [deadJoin])]
          exact hc
      | false =>
          rw [if_neg Bool.false_ne_true, List.countP_cons_of_pos (by simp [deadJoin, hjoin])]
          exact congrArg (· + 1) hc

/-! ## The invariant -/

structure Inv (c : Chart) : Prop where
  sound : c.Sound
  nested : c.Nested
  complete : c.Complete
  fresh : c.Fresh
  counted : c.Counted

theorem Move.inv {c c' : Chart} (h : Move c c') (hc : c.Inv) : c'.Inv where
  sound := h.sound hc.sound
  nested := h.nested hc.nested
  complete := h.complete hc.nested hc.complete
  fresh := h.fresh hc.fresh
  counted := h.counted hc.fresh hc.counted

end Chart

/-! ## The chart of a build -/

def Block.mark (b : Block α) : Mark := { id := b.id, live := b.reachable, join := b.isJoin }

def FlowFrame.gate (f : FlowFrame) : Gate :=
  if f.kind = 1 then .loop f.elseId f.joinId f.parentLive
  else if f.phase = 0 then .thenPart f.elseId f.joinId f.parentLive
  else .elsePart f.joinId f.parentLive f.thenFalls

/-- The edges out of a block. -/
def Block.edges (b : Block α) : List (Mark × Nat) := b.successors.map (b.mark, ·)

/-- The exit of a block that is the header of a loop. -/
def Block.exit? (b : Block α) : Option Nat := if b.isIterationHeader then some b.succ1 else none

def Build.chart (st : Build α) : Chart :=
  { opened := if st.current.kind = 0 then [st.current.mark] else []
    listed := st.blocks.map Block.mark
    edges := st.blocks.flatMap Block.edges
    exits := st.blocks.filterMap Block.exit?
    gates := st.frames.map FlowFrame.gate
    dead := st.diagnostics.length
    nextId := st.nextId }

section Moves

variable {pages : List View} {stride total : Nat} {st st' : Build α}

theorem Build.chart_of_open (h : st.current.kind = 0) : st.chart =
    ⟨[st.current.mark], st.blocks.map Block.mark, st.blocks.flatMap Block.edges, st.blocks.filterMap Block.exit?,
      st.frames.map FlowFrame.gate, st.diagnostics.length, st.nextId⟩ := by
  simp [Build.chart, h]

theorem Build.any_opened (st : Build α) : st.chart.opened.any Mark.live = st.falls := by
  unfold Build.chart Build.falls
  dsimp only
  split
  · next hopen => simp [hopen, Block.mark]
  · next hopen => simp [hopen]

/-- The end of a part of an `if`. -/
theorem closeToJoin_chart (st : Build α) (joinId : Nat) (hplain : st.current.isIterationHeader = false) :
    (closeToJoin st joinId).blocks.map Block.mark = st.chart.opened ++ st.chart.listed ∧
      (closeToJoin st joinId).blocks.flatMap Block.edges = st.chart.opened.map (·, joinId) ++ st.chart.edges ∧
      (closeToJoin st joinId).blocks.filterMap Block.exit? = st.chart.exits ∧
      (closeToJoin st joinId).diagnostics = st.diagnostics ∧ (closeToJoin st joinId).nextId = st.nextId := by
  unfold closeToJoin Build.chart
  split
  · next hclosed => simp
  · next hopen =>
      have hopen : st.current.kind = 0 := not_not.mp hopen
      simp [hopen, Block.mark, Block.edges, Block.successors, Block.exit?, hplain]

/-- The end of a loop body that is not reached. -/
theorem closeUnreachableLoopJoin_chart (st : Build α) (hfalls : st.falls = false)
    (hplain : st.current.isIterationHeader = false) :
    (closeUnreachableLoopJoin st).blocks.map Block.mark = st.chart.opened ++ st.chart.listed ∧
      (closeUnreachableLoopJoin st).blocks.flatMap Block.edges = st.chart.edges ∧
      (closeUnreachableLoopJoin st).blocks.filterMap Block.exit? = st.chart.exits ∧
      (closeUnreachableLoopJoin st).diagnostics = st.diagnostics ∧
      (closeUnreachableLoopJoin st).nextId = st.nextId := by
  unfold closeUnreachableLoopJoin Build.chart
  split
  · next hclosed => simp
  · next hopen =>
      have hopen : st.current.kind = 0 := not_not.mp hopen
      have hdead : st.current.reachable = false := by simpa [Build.falls, hopen] using hfalls
      simp [hopen, hdead, Block.mark, Block.edges, Block.successors, Block.exit?, hplain]

/-- **A move of the walk is a move of its chart.** -/
theorem Moves.chart (h : Moves pages stride total st st') (hplain : st.current.isIterationHeader = false) :
    Chart.Move st.chart st'.chart := by
  cases h with
  | letStmt hrest hopen htakes hatt =>
      rw [addLet, hatt]
      exact .keep _
  | @ifStmt cond thenB elseB t s e x rest hrest hopen htakes hatt =>
      rw [Build.chart_of_open hopen]
      have hbranch := Chart.Move.branch st.current.mark (st.blocks.map Block.mark) (st.blocks.flatMap Block.edges)
        (st.blocks.filterMap Block.exit?) (st.frames.map FlowFrame.gate) st.diagnostics.length st.nextId
      rw [addBranch, hatt]
      simpa [Build.chart, Build.attach, Block.mark, Block.edges, Block.successors, Block.exit?, hplain, emptyBlock,
        FlowFrame.gate] using hbranch
  | failStmt hrest hopen =>
      rw [Build.chart_of_open hopen]
      have hclose := Chart.Move.close st.current.mark (st.blocks.map Block.mark) (st.blocks.flatMap Block.edges)
        (st.blocks.filterMap Block.exit?) (st.frames.map FlowFrame.gate) st.diagnostics.length st.nextId
      simpa [Build.chart, addFail, Block.mark, Block.edges, Block.successors, Block.exit?, hplain] using hclose
  | returnStmt hrest hopen htakes hatt =>
      rw [Build.chart_of_open hopen]
      have hclose := Chart.Move.close st.current.mark (st.blocks.map Block.mark) (st.blocks.flatMap Block.edges)
        (st.blocks.filterMap Block.exit?) (st.frames.map FlowFrame.gate) st.diagnostics.length st.nextId
      rw [addReturn, hatt]
      simpa [Build.chart, Build.attach, Block.mark, Block.edges, Block.successors, Block.exit?, hplain] using hclose
  | iterateStmt hrest hopen hsource hmid htakes hatt =>
      obtain ⟨_, _, _, rfl⟩ := hsource.eq
      rw [Build.chart_of_open hopen]
      have hloop := Chart.Move.loop st.current.mark (st.blocks.map Block.mark) (st.blocks.flatMap Block.edges)
        (st.blocks.filterMap Block.exit?) (st.frames.map FlowFrame.gate) st.diagnostics.length st.nextId
      rw [addIterate, hmid, hatt]
      simpa [Build.chart, Build.attach, closeToLoopPreheader, Block.mark, Block.edges, Block.successors, Block.exit?,
        hplain, emptyBlock, FlowFrame.gate] using hloop
  | @backedge f tail x rest hrest hframes hkind hfalls htakes hatt =>
      rw [Build.chart_of_open (Build.open_of_falls hfalls), unwindIterate_of_falls hfalls hatt]
      have hlive : st.current.mark.live = true := by
        simp [Build.falls] at hfalls
        exact hfalls.2
      have hback := Chart.Move.back st.current.mark hlive f.elseId f.joinId f.parentLive (st.blocks.map Block.mark)
        (st.blocks.flatMap Block.edges) (st.blocks.filterMap Block.exit?) (tail.map FlowFrame.gate)
        st.diagnostics.length st.nextId
      simpa [Build.chart, Build.attach, finishIterate, closeToLoopBackedge, Block.mark, Block.edges,
        Block.successors, Block.exit?, hplain, emptyBlock, FlowFrame.gate, hframes, hkind] using hback
  | @sink f tail x rest hrest hframes hkind hfalls htakes helide =>
      rw [unwindIterate_of_not_falls hfalls, helide]
      obtain ⟨hmarks, hedges, hexits, hdiagnostics, hnext⟩ := closeUnreachableLoopJoin_chart
        { st with typedRest := rest, elidedExpressions := x :: st.elidedExpressions } hfalls hplain
      have hsink := Chart.Move.sink st.chart.opened f.elseId f.joinId f.parentLive st.chart.listed st.chart.edges
        st.chart.exits (tail.map FlowFrame.gate) st.chart.dead st.chart.nextId
      have hst : st.chart = ⟨st.chart.opened, st.chart.listed, st.chart.edges, st.chart.exits,
          .loop f.elseId f.joinId f.parentLive :: tail.map FlowFrame.gate, st.chart.dead, st.chart.nextId⟩ := by
        simp [Build.chart, hframes, FlowFrame.gate, hkind]
      rw [hst]
      simpa [Build.chart, finishIterate, hmarks, hedges, hexits, hdiagnostics, hnext, emptyBlock, Block.mark]
        using hsink
  | @thenEnd f tail hrest hframes hkind hphase =>
      obtain ⟨hmarks, hedges, hexits, hdiagnostics, hnext⟩ := closeToJoin_chart st f.joinId hplain
      have hthen := Chart.Move.thenEnd st.chart.opened f.elseId f.joinId f.parentLive st.chart.listed st.chart.edges
        st.chart.exits (tail.map FlowFrame.gate) st.chart.dead st.chart.nextId
      have hst : st.chart = ⟨st.chart.opened, st.chart.listed, st.chart.edges, st.chart.exits,
          .thenPart f.elseId f.joinId f.parentLive :: tail.map FlowFrame.gate, st.chart.dead, st.chart.nextId⟩ := by
        simp [Build.chart, hframes, FlowFrame.gate, hkind, hphase]
      rw [Build.any_opened] at hthen
      rw [hst]
      simpa [Build.chart, unwindThen, hmarks, hedges, hexits, hdiagnostics, hnext, emptyBlock, Block.mark,
        FlowFrame.gate, hkind] using hthen
  | @elseEnd f tail hrest hframes hkind hphase =>
      obtain ⟨hmarks, hedges, hexits, hdiagnostics, hnext⟩ := closeToJoin_chart st f.joinId hplain
      have helse := Chart.Move.elseEnd st.chart.opened f.joinId f.parentLive f.thenFalls st.chart.listed st.chart.edges
        st.chart.exits (tail.map FlowFrame.gate) st.chart.dead st.chart.nextId
      have hst : st.chart = ⟨st.chart.opened, st.chart.listed, st.chart.edges, st.chart.exits,
          .elsePart f.joinId f.parentLive f.thenFalls :: tail.map FlowFrame.gate, st.chart.dead,
          st.chart.nextId⟩ := by
        simp [Build.chart, hframes, FlowFrame.gate, hkind, hphase]
      rw [Build.any_opened] at helse
      have hdead : (addJoinDiagnostic (closeToJoin st f.joinId) (f.thenFalls || st.falls) 0 st.sourceStop).length =
          if f.thenFalls || st.falls then st.diagnostics.length else st.diagnostics.length + 1 := by
        unfold addJoinDiagnostic
        rw [hdiagnostics]
        split
        · rfl
        · rfl
      rw [hst]
      simpa [Build.chart, unwindElse, hmarks, hedges, hexits, hdead, hnext, emptyBlock, Block.mark] using helse
  | tail hrest hframes htail hopen htakes hatt =>
      rw [Build.chart_of_open hopen, finishTail_of_open htail hopen hatt]
      have hclose := Chart.Move.close st.current.mark (st.blocks.map Block.mark) (st.blocks.flatMap Block.edges)
        (st.blocks.filterMap Block.exit?) (st.frames.map FlowFrame.gate) st.diagnostics.length st.nextId
      simpa [Build.chart, Build.attach, Block.mark, Block.edges, Block.successors, Block.exit?, hplain] using hclose
  | closed hrest hframes htail hclosed =>
      rw [finishTail_of_closed htail hclosed]
      exact .keep _

/-- The open block is no loop header. -/
theorem Moves.plain (h : Moves pages stride total st st') (hplain : st.current.isIterationHeader = false) :
    st'.current.isIterationHeader = false := by
  cases h with
  | letStmt hrest hopen htakes hatt =>
      rw [addLet, hatt]
      exact hplain
  | ifStmt hrest hopen htakes hatt => rfl
  | failStmt hrest hopen => exact hplain
  | returnStmt hrest hopen htakes hatt =>
      rw [addReturn, hatt]
      exact hplain
  | iterateStmt hrest hopen hsource hmid htakes hatt => rfl
  | backedge hrest hframes hkind hfalls htakes hatt =>
      rw [unwindIterate_of_falls hfalls hatt]
      rfl
  | sink hrest hframes hkind hfalls htakes helide =>
      rw [unwindIterate_of_not_falls hfalls, helide]
      rfl
  | thenEnd hrest hframes hkind hphase => rfl
  | elseEnd hrest hframes hkind hphase => rfl
  | tail hrest hframes htail hopen htakes hatt =>
      rw [finishTail_of_open htail hopen hatt]
      exact hplain
  | closed hrest hframes htail hclosed =>
      rw [finishTail_of_closed htail hclosed]
      exact hplain

end Moves

theorem closeToJoin_diagnostics (st : Build α) (joinId : Nat) :
    (closeToJoin st joinId).diagnostics = st.diagnostics := by
  unfold closeToJoin
  split
  · rfl
  · rfl

/-- Diagnostics of the walk are about dead joins. -/
def Build.Reports (st : Build α) : Prop := ∀ d ∈ st.diagnostics, d.code = 38

theorem Moves.reports {pages : List View} {stride total : Nat} {st st' : Build α}
    (h : Moves pages stride total st st') (hst : st.Reports) : st'.Reports := by
  cases h with
  | letStmt hrest hopen htakes hatt =>
      rw [addLet, hatt]
      exact hst
  | ifStmt hrest hopen htakes hatt =>
      rw [addBranch, hatt]
      exact hst
  | failStmt hrest hopen => exact hst
  | returnStmt hrest hopen htakes hatt =>
      rw [addReturn, hatt]
      exact hst
  | iterateStmt hrest hopen hsource hmid htakes hatt =>
      obtain ⟨_, _, _, rfl⟩ := hsource.eq
      rw [addIterate, hmid, hatt]
      exact hst
  | backedge hrest hframes hkind hfalls htakes hatt =>
      rw [unwindIterate_of_falls hfalls hatt]
      exact hst
  | sink hrest hframes hkind hfalls htakes helide =>
      rw [unwindIterate_of_not_falls hfalls, helide]
      show ∀ d ∈ (closeUnreachableLoopJoin _).diagnostics, d.code = 38
      unfold closeUnreachableLoopJoin
      split
      · exact hst
      · split
        · exact hst
        · exact hst
  | @thenEnd f tail hrest hframes hkind hphase =>
      show ∀ d ∈ (closeToJoin st f.joinId).diagnostics, d.code = 38
      rw [closeToJoin_diagnostics]
      exact hst
  | @elseEnd f tail hrest hframes hkind hphase =>
      show ∀ d ∈ addJoinDiagnostic (closeToJoin st f.joinId) _ _ _, d.code = 38
      unfold addJoinDiagnostic
      rw [closeToJoin_diagnostics]
      split
      · exact hst
      · intro d hd
        rcases List.mem_cons.mp hd with rfl | hd
        · rfl
        · exact hst d hd
  | tail hrest hframes htail hopen htakes hatt =>
      rw [finishTail_of_open htail hopen hatt]
      exact hst
  | closed hrest hframes htail hclosed =>
      rw [finishTail_of_closed htail hclosed]
      exact hst

/-! ## Verified graphs -/

/-- The invariant of walks in order. -/
structure Charted (st : Build α) : Prop where
  plain : st.current.isIterationHeader = false
  chart : st.chart.Inv
  reports : st.Reports

namespace FunctionFlow

def Edge (flow : FunctionFlow α) (i j : Nat) : Prop := ∃ b ∈ flow.blocks, b.id = i ∧ j ∈ b.successors

/-- A path of successor edges from block 0. -/
def Reachable (flow : FunctionFlow α) (i : Nat) : Prop := Relation.ReflTransGen flow.Edge 0 i

/-- A join that is not the exit of a loop. -/
def IfJoin (flow : FunctionFlow α) (b : Block α) : Prop :=
  b.isJoin = true ∧ ∀ h ∈ flow.blocks, h.isIterationHeader = true → h.succ1 ≠ b.id

end FunctionFlow

section Verified

variable {pages : List View} {stride total : Nat}

theorem initialBuild_charted (st : FnWalk α) (h : FnDecl) : Charted (initialBuild total st h) := by
  have hchart : (initialBuild total st h).chart = ⟨[⟨0, true, false⟩], [], [], [], [], 0, 1⟩ := rfl
  refine ⟨rfl, ?_, fun d hd => (List.not_mem_nil hd).elim⟩
  rw [hchart]
  constructor
  · constructor
    · intro m hm _
      obtain rfl := List.mem_singleton.mp hm
      exact Relation.ReflTransGen.refl
    · exact fun _ hg => (List.not_mem_nil hg).elim
  · exact ⟨fun _ _ _ _ hg => (List.not_mem_nil hg).elim, fun _ hg => (List.not_mem_nil hg).elim, List.Pairwise.nil⟩
  · exact ⟨.inl ⟨_, List.mem_singleton_self _, rfl, rfl⟩, fun _ _ hedge => (List.not_mem_nil hedge).elim,
      fun _ _ hg => (List.not_mem_nil hg).elim⟩
  · constructor
    · intro m hm
      obtain rfl := List.mem_singleton.mp hm
      exact Nat.zero_lt_one
    · exact fun _ he => (List.not_mem_nil he).elim
    · exact fun _ hg => (List.not_mem_nil hg).elim
    · exact fun _ hg => (List.not_mem_nil hg).elim
    · exact fun _ _ _ hg => (List.not_mem_nil hg).elim
  · rfl

theorem walk_charted {st : FnWalk α} {h : FnDecl}
    (hok : (walk pages stride total (initialBuild total st h)).ok = true) :
    Charted (walk pages stride total (initialBuild total st h)) := by
  unfold walk at hok ⊢
  refine steps_invariant ?_ (initialBuild_charted st h) 1024 hok
  intro st st' hdone hmove hst
  exact ⟨hmove.plain hst.plain, (hmove.chart hst.plain).inv hst.chart, hmove.reports hst.reports⟩

section Walk

variable {w : Build α} {flow : FunctionFlow α} (hflow : FromWalk w flow) (hw : Charted w)

include hflow

/-- Nothing is open or promised at the end. -/
theorem FromWalk.chart_eq : w.chart =
    ⟨[], w.blocks.map Block.mark, w.blocks.flatMap Block.edges, w.blocks.filterMap Block.exit?, [],
      w.diagnostics.length, w.nextId⟩ := by
  obtain ⟨hframes, hclosed⟩ := hflow.inv.finished hflow.done
  simp [Build.chart, hframes, hclosed]

theorem FromWalk.mem_blocks {b : Block α} : b ∈ flow.blocks ↔ b ∈ w.blocks := by
  rw [hflow.blocks, List.mem_reverse]

/-- Blocks with one id are one block. -/
theorem FromWalk.eq_of_id {b b' : Block α} (hb : b ∈ w.blocks) (hb' : b' ∈ w.blocks) (hid : b.id = b'.id) : b = b' :=
  List.inj_on_of_nodup_map ((hflow.inv.listed_perm hflow.done).nodup_iff.mpr List.nodup_range) hb hb' hid

theorem FromWalk.reaches_iff {i : Nat} : w.chart.Reaches i ↔ flow.Reachable i := by
  have hedge : w.chart.Edge = flow.Edge := by
    funext i j
    rw [Chart.Edge, hflow.chart_eq]
    apply propext
    constructor
    · rintro ⟨m, rfl, hm⟩
      obtain ⟨b, hb, hin⟩ := List.mem_flatMap.mp hm
      obtain ⟨j', hj', heq⟩ := List.mem_map.mp hin
      obtain ⟨rfl, rfl⟩ := Prod.mk.inj heq
      exact ⟨b, hflow.mem_blocks.mpr hb, rfl, hj'⟩
    · rintro ⟨b, hb, rfl, hj⟩
      exact ⟨b.mark, rfl, List.mem_flatMap.mpr ⟨b, hflow.mem_blocks.mp hb, List.mem_map_of_mem hj⟩⟩
  rw [Chart.Reaches, FunctionFlow.Reachable, hedge]

include hw

/-- **The flags are reachability.** -/
theorem FromWalk.reachable_iff {b : Block α} (hb : b ∈ flow.blocks) : b.reachable = true ↔ flow.Reachable b.id := by
  have hbw := hflow.mem_blocks.mp hb
  have hmark : b.mark ∈ w.chart.marks := by
    rw [hflow.chart_eq]
    exact List.mem_map_of_mem hbw
  rw [← hflow.reaches_iff]
  constructor
  · exact hw.chart.sound.marks b.mark hmark
  · intro hpath
    have hfunctional : ∀ m ∈ w.chart.marks, ∀ x ∈ w.chart.edges, x.1.id = m.id → x.1.live = m.live := by
      rw [hflow.chart_eq]
      intro m hm x hx hid
      obtain ⟨c, hc, rfl⟩ := List.mem_map.mp hm
      obtain ⟨d, hd, hin⟩ := List.mem_flatMap.mp hx
      obtain ⟨j, -, rfl⟩ := List.mem_map.mp hin
      obtain rfl := hflow.eq_of_id hd hc hid
      rfl
    have hgates : w.chart.gates = [] := by rw [hflow.chart_eq]
    rcases hw.chart.complete.live_of_reaches hfunctional hgates hpath with ⟨m, hm, hid, hlive⟩ | ⟨g, hg, -⟩
    · rw [hflow.chart_eq] at hm
      obtain ⟨c, hc, rfl⟩ := List.mem_map.mp hm
      obtain rfl := hflow.eq_of_id hc hbw hid
      exact hlive
    · rw [hgates] at hg
      exact (List.not_mem_nil hg).elim

theorem FromWalk.deadJoin_iff {b : Block α} (hb : b ∈ flow.blocks) :
    Chart.deadJoin w.chart.exits b.mark = true ↔ flow.IfJoin b ∧ ¬ flow.Reachable b.id := by
  have hexits : b.id ∈ w.chart.exits ↔ ∃ h ∈ flow.blocks, h.isIterationHeader = true ∧ h.succ1 = b.id := by
    rw [hflow.chart_eq]
    constructor
    · intro hmem
      obtain ⟨h, hh, hexit⟩ := List.mem_filterMap.mp hmem
      unfold Block.exit? at hexit
      split at hexit
      · next hheader => exact ⟨h, hflow.mem_blocks.mpr hh, hheader, Option.some.inj hexit⟩
      · cases hexit
    · rintro ⟨h, hh, hheader, hsucc⟩
      exact List.mem_filterMap.mpr ⟨h, hflow.mem_blocks.mp hh, by rw [Block.exit?, if_pos hheader, hsucc]⟩
  have hlive := hflow.reachable_iff hw hb
  show (b.isJoin && !b.reachable && !decide (b.id ∈ w.chart.exits)) = true ↔ _
  rw [Bool.and_eq_true, Bool.and_eq_true, Bool.not_eq_true', Bool.not_eq_true', decide_eq_false_iff_not, hexits,
    ← hlive, Bool.not_eq_true, FunctionFlow.IfJoin]
  constructor
  · rintro ⟨⟨hjoin, hdead⟩, hnone⟩
    exact ⟨⟨hjoin, fun h hh hheader hsucc => hnone ⟨h, hh, hheader, hsucc⟩⟩, hdead⟩
  · rintro ⟨⟨hjoin, hall⟩, hdead⟩
    exact ⟨⟨hjoin, hdead⟩, fun ⟨h, hh, hheader, hsucc⟩ => hall h hh hheader hsucc⟩

open Classical in
theorem FromWalk.diagnostics_length :
    w.diagnostics.length = (flow.blocks.filter fun b => flow.IfJoin b ∧ ¬ flow.Reachable b.id).length := by
  have hcounted := hw.chart.counted
  rw [Chart.Counted, hflow.chart_eq] at hcounted
  rw [← List.countP_eq_length_filter]
  refine hcounted.trans ?_
  show List.countP _ (w.blocks.map Block.mark) = _
  rw [List.countP_map, hflow.blocks, List.countP_reverse]
  apply List.countP_congr
  intro b hb
  have hiff := hflow.deadJoin_iff hw (hflow.mem_blocks.mpr hb)
  rw [hflow.chart_eq] at hiff
  rw [decide_eq_true_iff]
  exact hiff

end Walk

theorem appendDiagnostics_eq {first second : List Diagnostic} :
    appendDiagnostics first second = first.take 1024 ++ second := by
  have hshort : (first.take 1024).reverse.length ≤ 1024 := by
    rw [List.length_reverse, List.length_take]
    exact Nat.min_le_left _ _
  have happend : appendDiagnostics first second = prependWithin 1024 (reverseDiagnostics first) second := by
    rw [appendDiagnostics, prependWithin]
  rw [happend, prependWithin_eq, reverseDiagnostics, reverseWithin_eq, List.take_of_length_le hshort,
    List.reverse_reverse]

theorem functionFlow_unreachableJoins (h : FnDecl) (w : Build α) :
    (functionFlow h w).unreachableJoins = min 1024 w.diagnostics.length := by
  simp only [functionFlow, diagnosticCount, countWithin_eq]

theorem functionFlow_length_blocks (h : FnDecl) (w : Build α) : (functionFlow h w).blocks.length ≤ 1024 := by
  simp only [functionFlow, reverseBlocks, reverseWithin_eq, List.length_reverse, List.length_take]
  exact Nat.min_le_left _ _

open Classical in
/-- **Reachability of verified graphs**: the flags are paths from block 0, and every diagnostic is a join of an `if`
    that no path reaches. -/
theorem lowerOneFn_reachability (pages : List View) (stride total : Nat) (st : FnWalk α) (h : FnDecl)
    (t : List FnDecl) : ∃ flow diagnostics, (lowerOneFn pages stride total st h t).acc = flow :: st.acc ∧
      (lowerOneFn pages stride total st h t).diagnostics = st.diagnostics.take 1024 ++ diagnostics ∧
      (flow.verified = true →
        (∀ b ∈ flow.blocks, b.reachable = true ↔ flow.Reachable b.id) ∧ (∀ d ∈ diagnostics, d.code = 38) ∧
          diagnostics.length = (flow.blocks.filter fun b => flow.IfJoin b ∧ ¬ flow.Reachable b.id).length ∧
            flow.unreachableJoins = diagnostics.length) := by
  have hdiagnostics : (lowerOneFn pages stride total st h t).diagnostics = st.diagnostics.take 1024 ++
      (finishBuild (walk pages stride total (initialBuild total st h))).diagnostics := by
    simp only [lowerOneFn, appendDiagnostics_eq]
  refine ⟨_, _, rfl, hdiagnostics, ?_⟩
  intro hv
  have hflow := functionFlow_fromWalk walk_inv hv
  have hw := walk_charted hflow.ok
  have hlength := hflow.diagnostics_length hw
  have hfinish : finishBuild (walk pages stride total (initialBuild total st h)) =
      walk pages stride total (initialBuild total st h) := if_pos hflow.done
  have hshort := functionFlow_length_blocks h (finishBuild (walk pages stride total (initialBuild total st h)))
  rw [functionFlow_unreachableJoins]
  rw [hfinish] at hflow hlength hshort ⊢
  refine ⟨fun b hb => hflow.reachable_iff hw hb, hw.reports, hlength, Nat.min_eq_right ?_⟩
  -- there are no more dead joins than blocks
  rw [hlength]
  exact Nat.le_trans (List.length_filter_le _ _) hshort

end Verified

end MncsCompiler.Flow
