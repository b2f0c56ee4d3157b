import Mathlib.Data.List.Perm.Basic
import Mathlib.Logic.Function.Iterate

/-!
# `Lib.Traversal` — preorders and stack walks

A branching gives every node its children, under a size that goes down. Its preorder lists a node and everything below
it; a walk that replaces the top of a stack by its children reads off the preorders of the stack, as far as its steps
reach.

A scan is a walk that stops at the first fault.

Two branchings over one type compare the tree that is meant with the tree that a walk follows: what the walk misses
lies below a child that it drops.
-/

namespace Traversal

variable {α σ ε : Type}

structure Branching (α : Type) where
  children : α → List α
  size : α → Nat
  smaller : ∀ {a c : α}, c ∈ children a → size c < size a

namespace Branching

variable (B : Branching α)

/-- A node and everything below it, in the order of a walk. -/
def preorder (a : α) : List α := a :: (B.children a).attach.flatMap fun c => preorder c.1
  termination_by B.size a
  decreasing_by exact B.smaller c.2

theorem preorder_eq (a : α) : B.preorder a = a :: (B.children a).flatMap B.preorder := by
  rw [preorder]
  congr 1
  conv_rhs => rw [← List.attach_map_subtype_val (B.children a)]
  rw [List.flatMap_map]

/-- What holds of a node when it holds of its children holds of all nodes. -/
theorem induction {P : α → Prop} (hnode : ∀ a, (∀ c ∈ B.children a, P c) → P a) (a : α) : P a := by
  induction hn : B.size a using Nat.strongRecOn generalizing a with
  | _ n ih =>
      apply hnode
      intro c hc
      exact ih (B.size c) (hn ▸ B.smaller hc) c rfl

end Branching

/-! ## Walks -/

section Walk

variable {B : Branching α} {step : σ → σ} (stack : σ → List α) (log : σ → List ε) (note : α → Option ε)

/-- **A walk** notes the nodes of its preorder that its steps reach. -/
theorem iterate_walk (hnil : ∀ s, stack s = [] → step s = s)
    (hcons : ∀ s a rest, stack s = a :: rest →
      stack (step s) = B.children a ++ rest ∧ log (step s) = (note a).toList ++ log s) (n : Nat) (s : σ) :
    log (step^[n] s) = ((((stack s).flatMap B.preorder).take n).filterMap note).reverse ++ log s := by
  induction n generalizing s with
  | zero => rfl
  | succ n ih =>
      rw [Function.iterate_succ_apply]
      cases hstack : stack s with
      | nil =>
          rw [hnil s hstack, Function.iterate_fixed (hnil s hstack)]
          rfl
      | cons a rest =>
          obtain ⟨hpush, hlog⟩ := hcons s a rest hstack
          rw [ih, hpush, hlog, List.flatMap_append, List.flatMap_cons, Branching.preorder_eq, List.cons_append,
            List.take_succ_cons, List.filterMap_cons]
          cases note a with
          | none => rfl
          | some e =>
              rw [Option.toList_some, List.reverse_cons, List.append_assoc]

end Walk

/-! ## Scans -/

section Scan

variable {γ φ : Type} {step : σ → σ} (inv : σ → Prop) (todo : σ → List α) (failed : σ → Option φ) (acc : σ → γ)
  (fault : α → Option φ) (f : γ → α → γ)

/-- **A scan** takes one element a step, folds those without a fault and stays at the first fault that it meets. -/
theorem iterate_scan (hinv : ∀ s, inv s → inv (step s)) (hfailed : ∀ s x, failed s = some x → failed (step s) = some x)
    (hnil : ∀ s, failed s = none → todo s = [] → step s = s)
    (hcons : ∀ s a rest, inv s → failed s = none → todo s = a :: rest →
      failed (step s) = fault a ∧ (fault a = none → todo (step s) = rest ∧ acc (step s) = f (acc s) a))
    (n : Nat) {s : σ} (hs : inv s) (hok : failed s = none) :
    failed (step^[n] s) = ((todo s).take n).findSome? fault ∧
      (((todo s).take n).findSome? fault = none →
        todo (step^[n] s) = (todo s).drop n ∧ acc (step^[n] s) = ((todo s).take n).foldl f (acc s)) := by
  have hstay : ∀ (n : Nat) (s : σ) (x : φ), failed s = some x → failed (step^[n] s) = some x := by
    intro n
    induction n with
    | zero => exact fun s x hx => hx
    | succ n ih =>
        intro s x hx
        rw [Function.iterate_succ_apply]
        exact ih (step s) x (hfailed s x hx)
  induction n generalizing s with
  | zero => exact ⟨hok, fun _ => ⟨rfl, rfl⟩⟩
  | succ n ih =>
      rw [Function.iterate_succ_apply]
      cases htodo : todo s with
      | nil =>
          rw [hnil s hok htodo, Function.iterate_fixed (hnil s hok htodo)]
          exact ⟨hok, fun _ => ⟨htodo, rfl⟩⟩
      | cons a rest =>
          obtain ⟨hstep, hgood⟩ := hcons s a rest hs hok htodo
          rw [List.take_succ_cons, List.findSome?_cons]
          cases hfault : fault a with
          | some x =>
              refine ⟨hstay n (step s) x (hstep.trans hfault), ?_⟩
              intro hnone
              cases hnone
          | none =>
              obtain ⟨hrest, hacc⟩ := hgood hfault
              have hnext := ih (hinv s hs) (hstep.trans hfault)
              rwa [hrest, hacc] at hnext

end Scan

/-! ## Dropped children -/

section Dropped

theorem flatMap_perm_split {f g : α → List ε} {k : ε → List ε} {l : List α}
    (h : ∀ a ∈ l, (f a).Perm (g a ++ (g a).flatMap k)) :
    (l.flatMap f).Perm (l.flatMap g ++ (l.flatMap g).flatMap k) := by
  rw [List.flatMap_assoc]
  exact (List.Perm.flatMap_left l h).trans (List.flatMap_append_perm l g fun a => (g a).flatMap k).symm

variable {whole walked : Branching α} {dropped : α → List α}

/-- A tree is the part that is walked and the trees below the children that are dropped. -/
theorem preorder_perm (hparts : ∀ a, (whole.children a).Perm (walked.children a ++ dropped a)) (a : α) :
    (whole.preorder a).Perm
      (walked.preorder a ++ (walked.preorder a).flatMap fun b => (dropped b).flatMap whole.preorder) := by
  induction a using whole.induction with
  | _ a ih =>
      have hwalked := flatMap_perm_split fun c (hc : c ∈ walked.children a) =>
        ih c ((hparts a).mem_iff.mpr (List.mem_append_left _ hc))
      rw [whole.preorder_eq, walked.preorder_eq, List.flatMap_cons, List.cons_append]
      apply List.Perm.cons a
      refine ((hparts a).flatMap_right whole.preorder).trans ?_
      rw [List.flatMap_append]
      refine (hwalked.append_right _).trans ?_
      rw [List.append_assoc]
      exact List.perm_append_comm.append_left _

theorem preorders_perm (hparts : ∀ a, (whole.children a).Perm (walked.children a ++ dropped a)) (l : List α) :
    (l.flatMap whole.preorder).Perm
      (l.flatMap walked.preorder ++
        (l.flatMap walked.preorder).flatMap fun b => (dropped b).flatMap whole.preorder) :=
  flatMap_perm_split fun a _ => preorder_perm hparts a

end Dropped

end Traversal
