import MncsCompiler.Lib.Loop
import Mathlib.Data.List.Basic

/-!
# `Lib.Memo` — lists of remembered answers

A memo is a list of facts about a function `compute`. A query hits a fact when a test says so; the memo is sound when
every fact answers each query that hits it as `compute` does. New facts keep a memo sound when they answer what they
were made for, and dropping facts always does.
-/

namespace Memo

variable {κ φ ρ : Type*} {hits : κ → φ → Prop} {answer : φ → ρ} {compute : κ → ρ}

/-- Every fact answers the queries that hit it. -/
def Sound (hits : κ → φ → Prop) (answer : φ → ρ) (compute : κ → ρ) (facts : List φ) : Prop :=
  ∀ fact ∈ facts, ∀ query, hits query fact → answer fact = compute query

theorem sound_nil : Sound hits answer compute [] := by
  intro fact h
  cases h

theorem sound_cons {fact : φ} {facts : List φ} (hfact : ∀ query, hits query fact → answer fact = compute query)
    (hfacts : Sound hits answer compute facts) : Sound hits answer compute (fact :: facts) := by
  intro other hother
  rcases List.mem_cons.mp hother with rfl | hmem
  · exact hfact
  · exact hfacts other hmem

/-- A fact that was made for one query, when all queries that hit it have the answer of that one. -/
theorem hits_of_made {fact : φ} {query : κ} (hmade : answer fact = compute query)
    (hsame : ∀ other, hits other fact → compute other = compute query) :
    ∀ other, hits other fact → answer fact = compute other :=
  fun other hother => hmade.trans (hsame other hother).symm

/-! ## Lookups -/

open BoundedLoop in
/-- A lookup that goes through a list and stops at the first hit, or at the end of its passes: what it finds is an
    element that was hit. -/
theorem iterate_lookup {σ α : Type} {p : σ → Bool} {step : σ → σ} (seed : List α → σ) (found : σ → Bool) (out : σ → ρ)
    (hit : α → Prop) (answer : α → ρ) (hdone : ∀ s, found s = true → p s = true)
    (hseed : ∀ list, found (seed list) = false) (hnil : p (seed []) = true) (hopen : ∀ a t, p (seed (a :: t)) = false)
    (hcons : ∀ a t, step (seed (a :: t)) = seed t ∨
      (found (step (seed (a :: t))) = true ∧ hit a ∧ out (step (seed (a :: t))) = answer a)) (n : Nat) (list : List α)
    (h : found ((settle p step)^[n] (seed list)) = true) :
    ∃ a ∈ list, hit a ∧ out ((settle p step)^[n] (seed list)) = answer a := by
  induction n generalizing list with
  | zero =>
      rw [Function.iterate_zero_apply, hseed] at h
      cases h
  | succ n ih =>
      cases list with
      | nil =>
          rw [iterate_settle_of_fin step hnil, hseed] at h
          cases h
      | cons a t =>
          rw [Function.iterate_succ_apply, settle_of_not_fin step (hopen a t)] at h ⊢
          rcases hcons a t with hskip | ⟨hfound, hhit, hanswer⟩
          · rw [hskip] at h ⊢
            obtain ⟨b, hb, hhit⟩ := ih t h
            exact ⟨b, List.mem_cons_of_mem a hb, hhit⟩
          · rw [iterate_settle_of_fin step (hdone _ hfound)]
            exact ⟨a, List.mem_cons_self, hhit, hanswer⟩

end Memo
