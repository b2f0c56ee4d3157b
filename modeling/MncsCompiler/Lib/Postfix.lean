import Mathlib.Algebra.GroupWithZero.Nat
import MncsCompiler.Lib.Traversal

/-!
# `Lib.Postfix` — trees as postfix code

The postfix code of a tree lists the operators of its nodes, every one behind its operands. A stack machine that is
given how many operands an operator takes reads it without brackets: it takes the operands off the stack and puts the
value there. A depth verifier runs the machine on the height of the stack alone.

Key results: code of a tree leaves **the value of the tree** on the stack (`run_postorder`); the verifier accepts
**exactly the codes of trees** (`depth_eq_one_iff`), each the code of one tree (`Term.code_injective`); and a walk that
pushes the operands in order lists the code backwards (`preorder_mirror`).
-/

namespace Postfix

open Traversal

variable {α β ω : Type}

/-! ## Postorders -/

section Postorder

variable (B : Branching α)

/-- Everything below a node, and then the node. -/
def postorder (a : α) : List α := ((B.children a).attach.flatMap fun c => postorder c.1) ++ [a]
  termination_by B.size a
  decreasing_by exact B.smaller c.2

theorem postorder_eq (a : α) : postorder B a = (B.children a).flatMap (postorder B) ++ [a] := by
  rw [postorder]
  congr 1
  conv_rhs => rw [← List.attach_map_subtype_val (B.children a)]
  rw [List.flatMap_map]

theorem mem_preorder_self (a : α) : a ∈ B.preorder a := by
  rw [B.preorder_eq]
  exact List.mem_cons_self

theorem mem_preorder_of_child {a b c : α} (hc : c ∈ B.children a) (hb : b ∈ B.preorder c) : b ∈ B.preorder a := by
  rw [B.preorder_eq]
  exact List.mem_cons_of_mem a (List.mem_flatMap.mpr ⟨c, hc, hb⟩)

theorem preorder_pos (a : α) : 0 < (B.preorder a).length := List.length_pos_of_mem (mem_preorder_self B a)

theorem length_le_preorders (l : List α) : l.length ≤ (l.flatMap B.preorder).length := by
  induction l with
  | nil => exact Nat.le_refl 0
  | cons a l ih =>
      have hpos := preorder_pos B a
      rw [List.flatMap_cons, List.length_append, List.length_cons]
      omega

theorem length_preorder_le_of_mem {a b : α} (hb : b ∈ B.preorder a) :
    (B.preorder b).length ≤ (B.preorder a).length := by
  induction a using B.induction with
  | _ a ih =>
      rw [B.preorder_eq] at hb
      rcases List.mem_cons.mp hb with rfl | hb
      · exact Nat.le_refl _
      · obtain ⟨c, hc, hb⟩ := List.mem_flatMap.mp hb
        have hin : B.preorder c ∈ (B.children a).map B.preorder := List.mem_map_of_mem hc
        have hsub := (List.sublist_flatten_of_mem hin).length_le
        have hchild := ih c hc hb
        rw [B.preorder_eq a, List.length_cons, List.flatMap_def]
        omega

/-- A node has fewer children than there are nodes. -/
theorem length_children_lt {a b : α} (hb : b ∈ B.preorder a) : (B.children b).length < (B.preorder a).length := by
  have hle := length_preorder_le_of_mem B hb
  have hchildren := length_le_preorders B (B.children b)
  rw [B.preorder_eq, List.length_cons] at hle
  omega

theorem length_preorder_le_of_mem_flatMap {l : List α} {b : α} (hb : b ∈ l.flatMap B.preorder) :
    (B.preorder b).length ≤ (l.flatMap B.preorder).length := by
  obtain ⟨a, ha, hb⟩ := List.mem_flatMap.mp hb
  have hin : B.preorder a ∈ l.map B.preorder := List.mem_map_of_mem ha
  rw [List.flatMap_def]
  exact Nat.le_trans (length_preorder_le_of_mem B hb) (List.sublist_flatten_of_mem hin).length_le

theorem postorder_perm (a : α) : (postorder B a).Perm (B.preorder a) := by
  induction a using B.induction with
  | _ a ih =>
      rw [postorder_eq, B.preorder_eq]
      exact (List.perm_append_singleton a _).trans ((List.Perm.flatMap_left _ ih).cons a)

theorem reverse_flatMap_reverse (f : α → List α) (l : List α) :
    l.reverse.flatMap (fun a => (f a).reverse) = (l.flatMap f).reverse := by
  induction l with
  | nil => rfl
  | cons a l ih =>
      rw [List.reverse_cons, List.flatMap_append, ih, List.flatMap_singleton, List.flatMap_cons, List.reverse_append]

variable {B}

/-- Trees with the same children in other orders have the same nodes. -/
theorem preorder_perm_congr {M : Branching α} {a : α} (h : ∀ b ∈ B.preorder a, (M.children b).Perm (B.children b)) :
    (M.preorder a).Perm (B.preorder a) := by
  induction a using B.induction with
  | _ a ih =>
      have hsub : ∀ c ∈ B.children a, (M.preorder c).Perm (B.preorder c) := fun c hc =>
        ih c hc fun b hb => h b (mem_preorder_of_child B hc hb)
      rw [M.preorder_eq, B.preorder_eq]
      apply List.Perm.cons a
      exact ((h a (mem_preorder_self B a)).flatMap_right M.preorder).trans (List.Perm.flatMap_left _ hsub)

/-- **A walk that meets the children from the last to the first** lists the nodes in the order of the code,
    backwards. -/
theorem preorder_mirror {M : Branching α} {a : α}
    (h : ∀ b ∈ B.preorder a, M.children b = (B.children b).reverse) :
    M.preorder a = (postorder B a).reverse := by
  induction a using B.induction with
  | _ a ih =>
      have hsub : ∀ c ∈ (B.children a).reverse, M.preorder c = (postorder B c).reverse := by
        intro c hc
        have hc := List.mem_reverse.mp hc
        exact ih c hc fun b hb => h b (mem_preorder_of_child B hc hb)
      rw [M.preorder_eq, h a (mem_preorder_self B a), List.flatMap_congr hsub, reverse_flatMap_reverse, postorder_eq,
        List.reverse_append, List.reverse_singleton]
      rfl

theorem length_mirror {M : Branching α} {a : α} (h : ∀ b ∈ B.preorder a, M.children b = (B.children b).reverse) :
    (M.preorder a).length = (B.preorder a).length := by
  rw [preorder_mirror h, List.length_reverse, (postorder_perm B a).length_eq]

/-- A walk that has not come to its end has pushed more than it has taken off, where `w` bounds what a node pushes. -/
theorem lt_of_unfinished {w : α → Nat} (hw : ∀ a, (B.children a).length ≤ w a) {n : Nat} {l : List α}
    (h : n < (l.flatMap B.preorder).length) : n < l.length + (((l.flatMap B.preorder).take n).map w).sum := by
  induction n generalizing l with
  | zero =>
      cases l with
      | nil => exact absurd h (Nat.lt_irrefl 0)
      | cons a l => exact Nat.lt_of_lt_of_le (Nat.succ_pos l.length) (Nat.le_add_right _ _)
  | succ n ih =>
      cases l with
      | nil => exact absurd h (Nat.not_lt_zero _)
      | cons a l =>
          have hstack : (a :: l).flatMap B.preorder = a :: (B.children a ++ l).flatMap B.preorder := by
            rw [List.flatMap_cons, B.preorder_eq, List.flatMap_append]
            rfl
          rw [hstack, List.length_cons] at h
          have hrest := ih (Nat.lt_of_succ_lt_succ h)
          have hpushed := hw a
          rw [List.length_append] at hrest
          rw [hstack, List.take_succ_cons, List.map_cons, List.sum_cons, List.length_cons]
          omega

/-- The value of a tree, from the values of its children. -/
def value (B : Branching α) (interp : α → List β → β) (a : α) : β :=
  interp a ((B.children a).attach.map fun c => value B interp c.1)
  termination_by B.size a
  decreasing_by exact B.smaller c.2

theorem value_eq (B : Branching α) (interp : α → List β → β) (a : α) :
    value B interp a = interp a ((B.children a).map (value B interp)) := by
  rw [value]
  congr 1
  conv_rhs => rw [← List.attach_map_subtype_val (B.children a)]
  rw [List.map_map]
  rfl

end Postorder

/-! ## The machine -/

section Machine

variable (arity : ω → Nat) (interp : ω → List β → β)

/-- An operator takes its operands off the stack, the last one on top, and puts its value there. -/
def exec (op : ω) (stack : List β) : Option (List β) :=
  if stack.length < arity op then none
  else some (interp op (stack.take (arity op)).reverse :: stack.drop (arity op))

def run : List ω → List β → Option (List β)
  | [], stack => some stack
  | op :: ops, stack => (exec arity interp op stack).bind (run ops)

theorem run_append (first second : List ω) (stack : List β) :
    run arity interp (first ++ second) stack = (run arity interp first stack).bind (run arity interp second) := by
  induction first generalizing stack with
  | nil => rfl
  | cons op first ih =>
      rw [List.cons_append, run, run]
      cases exec arity interp op stack with
      | none => rfl
      | some stack => exact ih stack

/-- An operator with all its operands on the stack. -/
theorem exec_operands {op : ω} {args : List β} (h : arity op = args.length) (stack : List β) :
    exec arity interp op (args.reverse ++ stack) = some (interp op args :: stack) := by
  have hlen : (args.reverse).length = arity op := by rw [List.length_reverse, h]
  have henough : ¬(args.reverse ++ stack).length < arity op := by
    rw [List.length_append, hlen]
    exact Nat.not_lt.mpr (Nat.le_add_right _ _)
  rw [exec, if_neg henough, ← hlen, List.take_left, List.drop_left, List.reverse_reverse]

/-- **Code of a tree computes its value**, whatever is on the stack. -/
theorem run_postorder {B : Branching α} {op : α → ω} {a : α}
    (h : ∀ b ∈ B.preorder a, arity (op b) = (B.children b).length) (stack : List β) :
    run arity interp ((postorder B a).map op) stack = some (value B (fun b => interp (op b)) a :: stack) := by
  induction a using B.induction generalizing stack with
  | _ a ih =>
      have hargs : ∀ (l : List α) (stack : List β), (∀ c ∈ l, c ∈ B.children a) →
          run arity interp ((l.flatMap (postorder B)).map op) stack =
            some ((l.map (value B fun b => interp (op b))).reverse ++ stack) := by
        intro l
        induction l with
        | nil =>
            intro stack hl
            rfl
        | cons c l hrest =>
            intro stack hl
            have hc := hl c List.mem_cons_self
            have hcode := ih c hc (fun b hb => h b (mem_preorder_of_child B hc hb)) stack
            rw [List.flatMap_cons, List.map_append, run_append, hcode, Option.bind_some,
              hrest _ fun d hd => hl d (List.mem_cons_of_mem c hd), List.map_cons, List.reverse_cons, List.append_assoc]
            rfl
      have harity : arity (op a) = ((B.children a).map (value B fun b => interp (op b))).length := by
        rw [List.length_map]
        exact h a (mem_preorder_self B a)
      rw [postorder_eq, List.map_append, run_append, hargs _ stack fun c hc => hc, Option.bind_some, List.map_singleton,
        run, exec_operands arity interp harity, Option.bind_some, run, value_eq]

/-! ## The verifier -/

/-- The height of the stack after a run, `none` where it has too few operands. -/
def depth : List ω → Nat → Option Nat
  | [], d => some d
  | op :: ops, d => if d < arity op then none else depth ops (d - arity op + 1)

theorem depth_run (ops : List ω) (stack : List β) :
    (run arity interp ops stack).map List.length = depth arity ops stack.length := by
  induction ops generalizing stack with
  | nil => rfl
  | cons op ops ih =>
      rw [run, exec, depth]
      by_cases hfew : stack.length < arity op
      · rw [if_pos hfew, if_pos hfew]
        rfl
      · rw [if_neg hfew, if_neg hfew, Option.bind_some, ih, List.length_cons, List.length_drop]

variable {arity}

/-- Every operator adds one and takes its operands away. -/
theorem depth_balance {ops : List ω} {d final : Nat} (h : depth arity ops d = some final) :
    final + (ops.map arity).sum = d + ops.length := by
  induction ops generalizing d with
  | nil => rw [← Option.some.inj h, List.map_nil, List.sum_nil, List.length_nil]
  | cons op ops ih =>
      rw [depth] at h
      by_cases hfew : d < arity op
      · rw [if_pos hfew] at h
        cases h
      · rw [if_neg hfew] at h
        have hrest := ih h
        rw [List.map_cons, List.sum_cons, List.length_cons]
        omega

end Machine

/-! ## Terms -/

/-- A tree of operators. -/
inductive Term (ω : Type) where
  | node (op : ω) (args : List (Term ω))

namespace Term

def op : Term ω → ω
  | .node op _ => op

def args : Term ω → List (Term ω)
  | .node _ args => args

theorem sizeOf_lt {t s : Term ω} (h : s ∈ t.args) : sizeOf s < sizeOf t := by
  cases t with
  | node op args =>
      have hin : sizeOf s < sizeOf args := List.sizeOf_lt_of_mem h
      simp only [node.sizeOf_spec]
      omega

noncomputable def branching : Branching (Term ω) where
  children := args
  size := sizeOf
  smaller := sizeOf_lt

/-- The operators of a term, every one behind its operands. -/
noncomputable def code (t : Term ω) : List ω := (postorder branching t).map op

theorem code_eq (o : ω) (args : List (Term ω)) : (node o args).code = args.flatMap code ++ [o] := by
  rw [code, postorder_eq, List.map_append, List.map_flatMap]
  rfl

/-- Every operator has as many operands as it takes. -/
def Formed (arity : ω → Nat) (t : Term ω) : Prop := ∀ s ∈ branching.preorder t, arity s.op = s.args.length

theorem Formed.node {arity : ω → Nat} {o : ω} {args : List (Term ω)} (ho : arity o = args.length)
    (hargs : ∀ s ∈ args, s.Formed arity) : (Term.node o args).Formed arity := by
  intro s hs
  rw [branching.preorder_eq] at hs
  rcases List.mem_cons.mp hs with rfl | hs
  · exact ho
  · obtain ⟨t, ht, hs⟩ := List.mem_flatMap.mp hs
    exact hargs t ht s hs

/-- Reading a term with terms for values gives it back. -/
theorem value_node (t : Term ω) : value branching (fun s => Term.node s.op) t = t := by
  induction t using branching.induction with
  | _ t ih =>
      rw [value_eq, List.map_congr_left ih, List.map_id']
      cases t with
      | node op args => rfl

theorem run_code {arity : ω → Nat} {t : Term ω} (h : t.Formed arity) (stack : List (Term ω)) :
    run arity Term.node t.code stack = some (t :: stack) := by
  have hrun : run arity Term.node ((postorder branching t).map op) stack =
      some (value branching (fun s => Term.node s.op) t :: stack) := run_postorder arity Term.node h stack
  rwa [value_node] at hrun

/-- **Code is read in one way.** -/
theorem code_injective {arity : ω → Nat} {s t : Term ω} (hs : s.Formed arity) (ht : t.Formed arity)
    (h : s.code = t.code) : s = t := by
  have hrun := run_code hs []
  rw [h, run_code ht []] at hrun
  exact (List.cons.inj (Option.some.inj hrun)).1.symm

end Term

/-- What a run has read is the code of what is on the stack. -/
theorem run_terms {arity : ω → Nat} {ops : List ω} {stack final : List (Term ω)}
    (hformed : ∀ t ∈ stack, t.Formed arity) (h : run arity Term.node ops stack = some final) :
    (∀ t ∈ final, t.Formed arity) ∧ final.reverse.flatMap Term.code = stack.reverse.flatMap Term.code ++ ops := by
  induction ops generalizing stack with
  | nil =>
      obtain rfl := Option.some.inj h
      exact ⟨hformed, (List.append_nil _).symm⟩
  | cons op ops ih =>
      rw [run, exec] at h
      by_cases hfew : stack.length < arity op
      · rw [if_pos hfew] at h
        cases h
      · rw [if_neg hfew, Option.bind_some] at h
        have hlen : arity op = (stack.take (arity op)).reverse.length := by
          rw [List.length_reverse, List.length_take]
          omega
        have hnew : ∀ t ∈ Term.node op (stack.take (arity op)).reverse :: stack.drop (arity op), t.Formed arity := by
          intro t ht
          rcases List.mem_cons.mp ht with rfl | ht
          · apply Term.Formed.node hlen
            intro s hs
            exact hformed s (List.mem_of_mem_take (List.mem_reverse.mp hs))
          · exact hformed t (List.mem_of_mem_drop ht)
        obtain ⟨hfinal, hcode⟩ := ih hnew h
        refine ⟨hfinal, hcode.trans ?_⟩
        rw [List.reverse_cons, List.flatMap_append, List.flatMap_singleton, Term.code_eq, ← List.append_assoc,
          ← List.flatMap_append, ← List.reverse_append, List.take_append_drop, List.append_assoc]
        rfl

/-- **The verifier accepts exactly the codes of terms.** -/
theorem depth_eq_one_iff {arity : ω → Nat} {ops : List ω} :
    depth arity ops 0 = some 1 ↔ ∃ t : Term ω, t.Formed arity ∧ t.code = ops := by
  constructor
  · intro h
    have hdepth : (run arity Term.node ops []).map List.length = some 1 :=
      (depth_run arity Term.node ops []).trans h
    obtain ⟨final, hrun, hlen⟩ := Option.map_eq_some_iff.mp hdepth
    obtain ⟨t, rfl⟩ := List.length_eq_one_iff.mp hlen
    obtain ⟨hformed, hcode⟩ := run_terms (fun t ht => absurd ht List.not_mem_nil) hrun
    refine ⟨t, hformed t List.mem_cons_self, ?_⟩
    simpa using hcode
  · rintro ⟨t, hformed, rfl⟩
    have hdepth := depth_run arity Term.node t.code []
    rw [Term.run_code hformed] at hdepth
    exact hdepth.symm

end Postfix
