import Mathlib.Data.List.Perm.Subperm
import Mathlib.Logic.Relation

/-!
# `Lib.Reach` — marks, closed sets and worklists

A search in a graph marks what it finds. Marks that hold the start, only what the start reaches, and nothing that an
edge leads out of, are exactly what the start reaches (`Marks.iff_reaches`).

A worklist keeps the marked nodes whose edges are still to be followed. `Frontier` is what holds between two nodes taken
from it, `Expanding` what holds while the edges of one node are followed; each node is taken once at most, so that as
many rounds as there are nodes empty the list (`Frontier.length_le`).
-/

namespace Reach

open Relation

variable {α : Type} {edge : α → α → Prop} {start : α} {marked marked' : α → Prop}

/-! ## Marks -/

/-- The start is marked, and only what it reaches. -/
structure Marks (edge : α → α → Prop) (start : α) (marked : α → Prop) : Prop where
  entry : marked start
  sound : ∀ a, marked a → ReflTransGen edge start a

/-- No edge leads out of the marks. -/
def Closed (edge : α → α → Prop) (marked : α → Prop) : Prop := ∀ a b, marked a → edge a b → marked b

theorem Marks.iff_reaches (h : Marks edge start marked) (hclosed : Closed edge marked) (a : α) :
    marked a ↔ ReflTransGen edge start a := by
  constructor
  · exact h.sound a
  · intro hreach
    induction hreach with
    | refl => exact h.entry
    | tail _ hedge ih => exact hclosed _ _ ih hedge

/-- The end of an edge may be marked when its start is. -/
theorem Marks.add (h : Marks edge start marked) {a b : α} (ha : marked a) (hedge : edge a b)
    (hadd : ∀ c, marked' c ↔ marked c ∨ c = b) : Marks edge start marked' := by
  constructor
  · exact (hadd start).mpr (.inl h.entry)
  · intro c hc
    rcases (hadd c).mp hc with hc | rfl
    · exact h.sound c hc
    · exact (h.sound a ha).tail hedge

/-! ## Worklists -/

/-- Between two rounds: `pending` are marked nodes that wait, `done` the nodes that were taken before. -/
structure Frontier (edge : α → α → Prop) (marked : α → Prop) (done pending : List α) : Prop where
  nodup : (done ++ pending).Nodup
  listed : ∀ a ∈ done ++ pending, marked a
  followed : ∀ a b, marked a → a ∉ pending → edge a b → marked b

/-- While the edges of `node` are followed, `left` are the ends to come. -/
structure Expanding (edge : α → α → Prop) (marked : α → Prop) (done pending : List α) (node : α) (left : List α)
    : Prop where
  nodup : (done ++ pending).Nodup
  listed : ∀ a ∈ done ++ pending, marked a
  taken : node ∈ done
  followed : ∀ a b, marked a → a ∉ pending → edge a b → marked b ∨ a = node ∧ b ∈ left

theorem Frontier.closed {done : List α} (h : Frontier edge marked done []) : Closed edge marked :=
  fun a b ha hedge => h.followed a b ha List.not_mem_nil hedge

/-- Nothing is taken twice: a list that holds all nodes bounds the rounds and what waits. -/
theorem Frontier.length_le {done pending nodes : List α} (h : Frontier edge marked done pending)
    (hnodes : ∀ a, marked a → a ∈ nodes) : done.length + pending.length ≤ nodes.length := by
  rw [← List.length_append]
  exact (List.subperm_of_subset h.nodup fun a ha => hnodes a (h.listed a ha)).length_le

/-- A node is taken from the list. -/
theorem Frontier.take {done pending : List α} {node : α} {left : List α} (h : Frontier edge marked done (node :: pending))
    (hleft : ∀ b, edge node b → b ∈ left) : Expanding edge marked (node :: done) pending node left := by
  have hperm : (node :: done ++ pending).Perm (done ++ node :: pending) := List.perm_middle.symm
  constructor
  · exact hperm.nodup_iff.mpr h.nodup
  · intro a ha
    exact h.listed a (hperm.subset ha)
  · exact List.mem_cons_self
  · intro a b ha hpending hedge
    by_cases hnode : a = node
    · exact .inr ⟨hnode, hleft b (hnode ▸ hedge)⟩
    · left
      refine h.followed a b ha ?_ hedge
      intro hmem
      rcases List.mem_cons.mp hmem with hmem | hmem
      · exact hnode hmem
      · exact hpending hmem

/-- The end of an edge that is marked already. -/
theorem Expanding.skip {done pending : List α} {node b : α} {left : List α}
    (h : Expanding edge marked done pending node (b :: left)) (hb : edge node b → marked b) :
    Expanding edge marked done pending node left := by
  refine ⟨h.nodup, h.listed, h.taken, ?_⟩
  intro a c ha hpending hedge
  rcases h.followed a c ha hpending hedge with hc | ⟨rfl, hc⟩
  · exact .inl hc
  · rcases List.mem_cons.mp hc with rfl | hc
    · exact .inl (hb hedge)
    · exact .inr ⟨rfl, hc⟩

/-- The end of an edge that is new. -/
theorem Expanding.push {done pending : List α} {node b : α} {left : List α}
    (h : Expanding edge marked done pending node (b :: left)) (hnew : ¬ marked b)
    (hadd : ∀ c, marked' c ↔ marked c ∨ c = b) : Expanding edge marked' done (b :: pending) node left := by
  have hperm : (done ++ b :: pending).Perm (b :: (done ++ pending)) := List.perm_middle
  refine ⟨?_, ?_, h.taken, ?_⟩
  · rw [hperm.nodup_iff, List.nodup_cons]
    exact ⟨fun hmem => hnew (h.listed b hmem), h.nodup⟩
  · intro a ha
    rcases List.mem_cons.mp (hperm.subset ha) with rfl | ha
    · exact (hadd a).mpr (.inr rfl)
    · exact (hadd a).mpr (.inl (h.listed a ha))
  · intro a c ha hpending hedge
    rw [List.mem_cons, not_or] at hpending
    have hold : marked a := ((hadd a).mp ha).resolve_right hpending.1
    rcases h.followed a c hold hpending.2 hedge with hc | ⟨rfl, hc⟩
    · exact .inl ((hadd c).mpr (.inl hc))
    · rcases List.mem_cons.mp hc with rfl | hc
      · exact .inl ((hadd c).mpr (.inr rfl))
      · exact .inr ⟨rfl, hc⟩

theorem Expanding.length_le {done pending nodes : List α} {node : α} {left : List α}
    (h : Expanding edge marked done pending node left) (hnodes : ∀ a, marked a → a ∈ nodes) :
    done.length + pending.length ≤ nodes.length := by
  rw [← List.length_append]
  exact (List.subperm_of_subset h.nodup fun a ha => hnodes a (h.listed a ha)).length_le

theorem Expanding.finish {done pending : List α} {node : α} (h : Expanding edge marked done pending node []) :
    Frontier edge marked done pending := by
  refine ⟨h.nodup, h.listed, ?_⟩
  intro a b ha hpending hedge
  exact (h.followed a b ha hpending hedge).resolve_right fun hleft => List.not_mem_nil hleft.2

/-- A search that starts with everything marked pending. -/
theorem frontier_of_all {pending : List α} (hnodup : pending.Nodup) (hpending : ∀ a, a ∈ pending ↔ marked a) :
    Frontier edge marked [] pending := by
  refine ⟨hnodup, fun a ha => (hpending a).mp ha, ?_⟩
  intro a b ha hnot
  exact absurd ((hpending a).mpr ha) hnot

end Reach
