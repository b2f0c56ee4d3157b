import MncsCompiler.Kernel.Evidence

/-!
# `Kernel.Resume` — coverage evidence in host-driven batches

A batch is 128 steps, and a step leaves finished evidence alone. So evidence can be persisted and resumed anywhere:
every mixture of steps and batches that finishes ends where steps alone end. On one view the global step is the
flat one, and the finished evidence is the summary.
-/

namespace MncsCompiler

open BoundedLoop

/-- Evidence no step changes: the source is covered, or the verifier has failed. -/
def LexicalEvidence.finished (total : Nat) (evidence : LexicalEvidence) : Bool :=
  evidence.cursor = total || evidence.code = 2

section Global

variable (pages : List View) (stride total : Nat)

theorem lexStepGlobal_of_finished {evidence : LexicalEvidence} (h : evidence.finished total = true) :
    lexStepGlobal pages stride total evidence = evidence := if_pos h

theorem settle_lexStepGlobal : settle (LexicalEvidence.finished total) (lexStepGlobal pages stride total) =
    lexStepGlobal pages stride total :=
  settle_eq_self (fun _ => lexStepGlobal_of_finished pages stride total)

/-- The loop of a batch, at any bound. -/
theorem batch_steps (n : Nat) (evidence : LexicalEvidence) :
    (iterate (fun _ current =>
      if decide (current.cursor = total) || decide (current.code = 2) then
        (.ret current : Pass LexicalEvidence LexicalEvidence)
      else .next (lexStepGlobal pages stride total current)) 0 n evidence).after id =
    (lexStepGlobal pages stride total)^[n] evidence := by
  have hguard := iterate_guard (p := LexicalEvidence.finished total) (f := lexStepGlobal pages stride total)
    (k := id) (b := fun _ current =>
      if current.finished total then .ret current else .next (lexStepGlobal pages stride total current))
    (fun _ _ => rfl) 0 n evidence
  rw [settle_lexStepGlobal] at hguard
  exact hguard

/-- A batch is 128 steps. -/
theorem lexEvidenceBatchGlobal_eq (evidence : LexicalEvidence) :
    lexEvidenceBatchGlobal pages stride total evidence = (lexStepGlobal pages stride total)^[128] evidence := by
  unfold lexEvidenceBatchGlobal
  rw [batch_steps]

/-- The host's calls: a step or a batch at a time. -/
def Resumes : LexicalEvidence → LexicalEvidence → Prop :=
  Relation.ReflTransGen (fun e e' =>
    e' = lexStepGlobal pages stride total e ∨ e' = lexEvidenceBatchGlobal pages stride total e)

variable {pages stride total}

/-- Calls are steps. -/
theorem Resumes.steps {e e' : LexicalEvidence} (h : Resumes pages stride total e e') :
    ∃ k, e' = (lexStepGlobal pages stride total)^[k] e := by
  induction h with
  | refl => exact ⟨0, rfl⟩
  | tail _ hcall ih =>
      obtain ⟨k, rfl⟩ := ih
      rcases hcall with rfl | rfl
      · exact ⟨k + 1, (Function.iterate_succ_apply' ..).symm⟩
      · exact ⟨128 + k, by rw [lexEvidenceBatchGlobal_eq, Function.iterate_add_apply]⟩

/-- **Finished evidence does not depend on the calls.** -/
theorem Resumes.unique {e e' : LexicalEvidence} (h : Resumes pages stride total e e')
    (hfin : e'.finished total = true) {m : Nat}
    (hm : ((lexStepGlobal pages stride total)^[m] e).finished total = true) :
    e' = (lexStepGlobal pages stride total)^[m] e := by
  obtain ⟨k, rfl⟩ := h.steps
  exact settle_unique (fun _ hs => lexStepGlobal_of_finished pages stride total hs) hfin hm

end Global

section Composition

variable {text : View} (c : Composition text)

/-- **Steps finish.** An unfinished step fails or takes a byte. -/
theorem lexStepGlobal_finishes (e : LexicalEvidence) :
    ∃ m, ((lexStepGlobal c.pages c.stride text.length)^[m] e).finished text.length = true := by
  refine ⟨text.length - e.cursor + 1, ?_⟩
  rw [← settle_lexStepGlobal]
  refine settle_done (P := fun _ => True) (w := fun e => text.length - e.cursor + 1) (fun _ _ _ => trivial)
    (fun s _ hopen => ?_) (fun s _ _ => Nat.succ_pos _) trivial (Nat.le_refl _)
  have hunf : ¬ (decide (s.cursor = text.length) || decide (s.code = 2)) = true := by
    rw [LexicalEvidence.finished] at hopen
    simp [hopen]
  unfold lexStepGlobal
  rw [if_neg hunf]
  dsimp only
  split
  · rename_i hshape
    right
    simp only [LexicalEvidence.add]
    have hlt : s.cursor < text.length := by
      simp only [LexicalEvidence.finished, Bool.or_eq_false_iff, decide_eq_false_iff_not] at hopen
      by_contra hge
      rw [tokenShapeGlobal, if_pos (by omega)] at hshape
      cases hshape
    have hprog := windowToken_progress hlt
    rw [nextTokenGlobal_eq]
    omega
  · left
    simp [LexicalEvidence.finished]

/-- On one view the global step is the flat step. -/
theorem lexStepGlobal_eq_lexStep (h : text.length ≤ 1024) :
    lexStepGlobal c.pages c.stride text.length = lexStep text := by
  funext e
  unfold lexStepGlobal lexStep
  rw [nextTokenGlobal_eq, windowToken_eq_nextToken h]
  by_cases hfin : (decide (e.cursor = text.length) || decide (e.code = 2)) = true
  · rw [if_pos hfin, if_pos hfin]
  rw [if_neg hfin, if_neg hfin]
  dsimp only
  rcases Nat.lt_or_ge e.cursor text.length with hlt | hge
  · have hlex := nextToken_lexed hlt
    have hdiag := hlex.diagnosed
    have hsix : (nextToken text e.cursor).diagnostic ≠ 6 := by
      intro h6
      rw [h6] at hdiag
      simp [diagnosticOk] at hdiag
    have hshape : tokenShapeGlobal text.length e.cursor (nextToken text e.cursor).kind
        (nextToken text e.cursor).start (nextToken text e.cursor).stop (nextToken text e.cursor).diagnostic =
        tokenShape text e.cursor (nextToken text e.cursor).kind (nextToken text e.cursor).start
          (nextToken text e.cursor).stop (nextToken text e.cursor).diagnostic := by
      simp only [tokenShapeGlobal, tokenShape, hdiag, Bool.true_or, Bool.and_true]
      rfl
    have herr : ((nextToken text e.cursor).diagnostic != 0 && (nextToken text e.cursor).diagnostic != 6) =
        ((nextToken text e.cursor).diagnostic != 0) := by
      simp [hsix]
    rw [hshape, herr]
  · have hgt : e.cursor > text.length := by
      simp only [Bool.or_eq_true, decide_eq_true_eq, not_or] at hfin
      omega
    simp [tokenShapeGlobal, tokenShape, hgt]

end Composition

/-- **Batched evidence is the summary, and resumption does not matter.** On a well-formed text of one view batches
    from the zero evidence reach the end with the summary of the text; on every composition, from any evidence on,
    the steps finish and every sequence of steps and batches that finishes ends with the same evidence. -/
theorem lexEvidenceBatchGlobal_resumable {text : View} (c : Composition text) :
    (WellFormed text → text.length ≤ 1024 →
      (∃ n, ((lexEvidenceBatchGlobal c.pages c.stride text.length)^[n] LexicalEvidence.zero).cursor = text.length) ∧
      ∀ n, ((lexEvidenceBatchGlobal c.pages c.stride text.length)^[n] LexicalEvidence.zero).cursor = text.length →
        (lexEvidenceBatchGlobal c.pages c.stride text.length)^[n] LexicalEvidence.zero = lexSummary text) ∧
      ∀ e : LexicalEvidence,
        (∃ m, ((lexStepGlobal c.pages c.stride text.length)^[m] e).finished text.length = true) ∧
        ∀ e', Resumes c.pages c.stride text.length e e' → e'.finished text.length = true →
          ∀ m, ((lexStepGlobal c.pages c.stride text.length)^[m] e).finished text.length = true →
            e' = (lexStepGlobal c.pages c.stride text.length)^[m] e := by
  refine ⟨fun hwf hsmall => ?_, fun e => ⟨lexStepGlobal_finishes c e, fun e' h hfin m hm => h.unique hfin hm⟩⟩
  have hbatches : ∀ n, (lexEvidenceBatchGlobal c.pages c.stride text.length)^[n] LexicalEvidence.zero =
      (lexStep text)^[128 * n] LexicalEvidence.zero := by
    intro n
    rw [Function.iterate_mul, ← lexStepGlobal_eq_lexStep c hsmall,
      ← funext (lexEvidenceBatchGlobal_eq c.pages c.stride text.length)]
  have hcover : ∀ n, text.length ≤ n → ((lexStep text)^[n] LexicalEvidence.zero).cursor = text.length := by
    intro n hn
    obtain ⟨ts, q, heq, -, hb, hq⟩ := lexSteps_tiles hwf n
    have := hb.le
    rw [heq]
    show q = text.length
    omega
  have hsummary : lexSummary text = (lexStep text)^[text.length] LexicalEvidence.zero := by
    simp only [lexSummary, (validateUtf8_spec text).1.mpr hwf, Bool.not_true, Bool.false_eq_true, if_false]
    exact carry_const (lexStep text) 0 text.length _
  refine ⟨⟨text.length, by rw [hbatches]; exact hcover _ (by omega)⟩, fun n hn => ?_⟩
  rw [hbatches] at hn ⊢
  rw [hsummary]
  have hfinished : ∀ e : LexicalEvidence, e.cursor = text.length → e.finished text.length = true := by
    intro e he
    simp [LexicalEvidence.finished, he]
  exact settle_unique (f := lexStep text) (p := LexicalEvidence.finished text.length) (fun e he => if_pos he)
    (hfinished _ hn) (hfinished _ (hcover _ (Nat.le_refl _)))

/-- One batch covers a keyword in two pages. -/
theorem lexEvidenceBatchGlobal_resumable_let :
    WellFormed [108, 101, 116] ∧
      ∃ n, ((lexEvidenceBatchGlobal [[108, 101], [116]] 2 3)^[n] LexicalEvidence.zero).cursor = 3 :=
  have hwf : WellFormed [108, 101, 116] := wellFormed_of_ascii (by simp)
  ⟨hwf, ((lexEvidenceBatchGlobal_resumable
    ({ pages := [[108, 101], [116]], stride := 2, valid := by decide, content := rfl, small := by decide } :
      Composition [108, 101, 116])).1 hwf (by decide)).1⟩

end MncsCompiler
