import Mathlib.Logic.Function.Iterate

/-!
# `Lib.Simulation` — two deterministic machines with the same behaviour

Machines are step functions; a machine that has ended steps to itself. If every step of the coarse machine is matched
by one or more steps of the fine one, the two end alike and show each other's histories, whether or not they end. One
simulation gives both directions, because the machines are deterministic.
-/

namespace Simulation

variable {σ τ ε ω : Type} {f : σ → σ} {g : τ → τ} {R : σ → τ → Prop}

/-- One step of `g` is matched by some steps of `f`. -/
def Matches (f : σ → σ) (g : τ → τ) (R : σ → τ → Prop) : Prop :=
  ∀ s t, R s t → ∃ n, 0 < n ∧ R (f^[n] s) (g t)

/-- Runs of `g` are matched by runs of `f` at least as long. -/
theorem Matches.iterate (h : Matches f g R) {s : σ} {t : τ} (hst : R s t) (m : Nat) :
    ∃ n, m ≤ n ∧ R (f^[n] s) (g^[m] t) := by
  induction m with
  | zero => exact ⟨0, Nat.le_refl 0, hst⟩
  | succ m ih =>
      obtain ⟨n, hmn, hr⟩ := ih
      obtain ⟨k, hk, hr'⟩ := h _ _ hr
      refine ⟨k + n, by omega, ?_⟩
      rw [Function.iterate_add_apply, Function.iterate_succ_apply']
      exact hr'

/-- An observation of a machine: how it ended, and the events so far. -/
structure Observes (f : σ → σ) (ending : σ → Option ω) (history : σ → List ε) : Prop where
  stays : ∀ s, (ending s).isSome = true → f s = s
  grows : ∀ s, history s <+: history (f s)

theorem Observes.ended {ending : σ → Option ω} {history : σ → List ε} (h : Observes f ending history) {s : σ}
    (hs : (ending s).isSome = true) (n : Nat) : f^[n] s = s :=
  Function.iterate_fixed (h.stays s hs) n

theorem Observes.history {ending : σ → Option ω} {history : σ → List ε} (h : Observes f ending history) (s : σ)
    (n : Nat) : history s <+: history (f^[n] s) := by
  induction n generalizing s with
  | zero => exact List.prefix_rfl
  | succ n ih =>
      rw [Function.iterate_succ_apply]
      exact (h.grows s).trans (ih (f s))

/-- The same behaviour: the machines end alike after equal histories, and every history of one is the beginning of
    a history of the other. -/
structure Same (f : σ → σ) (g : τ → τ) (endF : σ → Option ω) (endG : τ → Option ω) (histF : σ → List ε)
    (histG : τ → List ε) (s : σ) (t : τ) : Prop where
  ends : ∀ ending history, (∃ n, endF (f^[n] s) = some ending ∧ histF (f^[n] s) = history) ↔
    ∃ m, endG (g^[m] t) = some ending ∧ histG (g^[m] t) = history
  forth : ∀ n, ∃ m, histF (f^[n] s) <+: histG (g^[m] t)
  back : ∀ m, ∃ n, histG (g^[m] t) <+: histF (f^[n] s)

/-- **A simulation gives the same behaviour**, when related states look alike. -/
theorem Matches.same {endF : σ → Option ω} {endG : τ → Option ω} {histF : σ → List ε} {histG : τ → List ε}
    (h : Matches f g R) (hF : Observes f endF histF)
    (halike : ∀ s t, R s t → endF s = endG t ∧ histF s = histG t) {s : σ} {t : τ} (hst : R s t) :
    Same f g endF endG histF histG s t := by
  constructor
  · intro ending history
    constructor
    · rintro ⟨n, hn, rfl⟩
      obtain ⟨k, hk, hr⟩ := h.iterate hst n
      obtain ⟨d, rfl⟩ := Nat.exists_eq_add_of_le hk
      have hstay : f^[n + d] s = f^[n] s := by
        rw [Nat.add_comm, Function.iterate_add_apply, hF.ended (by rw [hn]; rfl)]
      rw [hstay] at hr
      obtain ⟨hend, hhist⟩ := halike _ _ hr
      exact ⟨n, hend.symm.trans hn, hhist.symm⟩
    · rintro ⟨m, hm, rfl⟩
      obtain ⟨n, -, hr⟩ := h.iterate hst m
      obtain ⟨hend, hhist⟩ := halike _ _ hr
      exact ⟨n, hend.trans hm, hhist⟩
  · intro n
    obtain ⟨k, hk, hr⟩ := h.iterate hst n
    obtain ⟨d, rfl⟩ := Nat.exists_eq_add_of_le hk
    refine ⟨n, ?_⟩
    rw [← (halike _ _ hr).2, Nat.add_comm, Function.iterate_add_apply]
    exact hF.history _ d
  · intro m
    obtain ⟨n, -, hr⟩ := h.iterate hst m
    exact ⟨n, (halike _ _ hr).2 ▸ List.prefix_rfl⟩

end Simulation
