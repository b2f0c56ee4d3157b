import Mathlib.Data.List.Nodup
import MncsCompiler.Lib.Reach
import MncsCompiler.Project.Modules

/-!
# `Project.Closure` — the import closure of a target

The schemas of a target module come from the modules that it reaches by imports. `project_import_closure` marks them:
two rounds over the links in place, which are enough for shallow projects, and then a worklist over the links of each
source. `project_modules_in_closure` keeps the modules of the marked sources.
-/

namespace MncsCompiler.Project

open BoundedLoop

structure ImportLink where
  sourceIndex : Nat
  targetIndex : Nat
  moduleStart : Nat
  moduleStop : Nat
  aliasStart : Nat
  aliasStop : Nat
  hasAlias : Bool
  deriving DecidableEq, Repr

/-! ## Rounds over the links -/

structure ProjectImportClosure where
  reachable : Vector Bool 64
  changed : Bool

structure ProjectImportClosureWalk where
  rest : List ImportLink
  reachable : Vector Bool 64
  changed : Bool
  sourceCount : Nat

def projectImportClosureLinkOne (st : ProjectImportClosureWalk) (link : ImportLink) (rest : List ImportLink)
    : ProjectImportClosureWalk :=
  if link.sourceIndex ≥ 64 || link.targetIndex ≥ 64 || link.sourceIndex ≥ st.sourceCount ||
      link.targetIndex ≥ st.sourceCount then
    { st with rest := rest }
  else if !st.reachable.getD link.sourceIndex false || st.reachable.getD link.targetIndex false then
    { st with rest := rest }
  else { st with rest := rest, reachable := st.reachable.setIfInBounds link.targetIndex true, changed := true }

def projectImportClosureLink (st : ProjectImportClosureWalk) : ProjectImportClosureWalk :=
  match st.rest with
  | [] => st
  | link :: rest => projectImportClosureLinkOne st link rest

def projectImportClosurePart (initial : ProjectImportClosureWalk) : ProjectImportClosureWalk :=
  (iterate (fun _ (st : ProjectImportClosureWalk) =>
        if st.rest.isEmpty then .ret st
        else .next (projectImportClosureLink st))
      0 1024 initial).after fun st =>
    st

def projectImportClosureRound (imports : List ImportLink) (reachable : Vector Bool 64) (sourceCount : Nat)
    : ProjectImportClosure :=
  let initial : ProjectImportClosureWalk :=
    { rest := imports, reachable := reachable, changed := false, sourceCount := sourceCount }
  (iterate (fun _ (st : ProjectImportClosureWalk) =>
        if st.rest.isEmpty then .ret { reachable := st.reachable, changed := st.changed }
        else .next (projectImportClosurePart st))
      0 4 initial).after fun st =>
    { reachable := st.reachable, changed := st.changed }

def projectImportClosureComplete (reachable : Vector Bool 64) : Bool :=
  (iterate (fun i (_ : Bool) => if !reachable.getD i false then .ret false else .next true) 0 64 true).after id

def projectImportClosureCompletePrefix (reachable : Vector Bool 64) (sourceCount : Nat) : Bool :=
  (iterate (fun i (complete : Bool) =>
        if i ≥ sourceCount then .ret complete
        else if !reachable.getD i false then .ret false
        else .next true)
      0 64 true).after id

/-! ## The worklist -/

structure ProjectImportClosureWork where
  reachable : Vector Bool 64
  pending : Vector Nat 64
  pendingCount : Nat
  sourceCount : Nat

structure ProjectImportClosureSeed where
  pending : Vector Nat 64
  pendingCount : Nat

def projectImportClosureSeedStep (reachable : Vector Bool 64) (index : Nat) (st : ProjectImportClosureSeed)
    : ProjectImportClosureSeed :=
  if !reachable.getD index false then st
  else { pending := st.pending.setIfInBounds st.pendingCount index, pendingCount := st.pendingCount + 1 }

def projectImportClosureSeedWork (reachable : Vector Bool 64) (sourceCount : Nat) : ProjectImportClosureWork :=
  let initial : ProjectImportClosureSeed := { pending := Vector.replicate 64 0, pendingCount := 0 }
  (iterate (fun i (st : ProjectImportClosureSeed) =>
        if i ≥ sourceCount then
          .ret
            { reachable := reachable, pending := st.pending, pendingCount := st.pendingCount
              sourceCount := sourceCount }
        else .next (projectImportClosureSeedStep reachable i st))
      0 64 initial).after fun st =>
    { reachable := reachable, pending := st.pending, pendingCount := st.pendingCount, sourceCount := sourceCount }

structure ProjectImportAdjacencyBuild where
  rest : List ImportLink
  bySource : Vector (List ImportLink) 64
  sourceCount : Nat

def projectImportAdjacencyAdd (st : ProjectImportAdjacencyBuild) (link : ImportLink) (rest : List ImportLink)
    : ProjectImportAdjacencyBuild :=
  if link.sourceIndex ≥ 64 || link.targetIndex ≥ 64 || link.sourceIndex ≥ st.sourceCount ||
      link.targetIndex ≥ st.sourceCount then
    { st with rest := rest }
  else
    let outgoing := st.bySource.getD link.sourceIndex []
    { st with rest := rest, bySource := st.bySource.setIfInBounds link.sourceIndex (link :: outgoing) }

def projectImportAdjacencyStep (st : ProjectImportAdjacencyBuild) : ProjectImportAdjacencyBuild :=
  match st.rest with
  | [] => st
  | link :: rest => projectImportAdjacencyAdd st link rest

def projectImportAdjacencyPart (initial : ProjectImportAdjacencyBuild) : ProjectImportAdjacencyBuild :=
  (iterate (fun _ (st : ProjectImportAdjacencyBuild) =>
        if st.rest.isEmpty then .ret st
        else .next (projectImportAdjacencyStep st))
      0 1024 initial).after fun st =>
    st

def projectImportAdjacency (imports : List ImportLink) (sourceCount : Nat) : Vector (List ImportLink) 64 :=
  let initial : ProjectImportAdjacencyBuild :=
    { rest := imports, bySource := Vector.replicate 64 [], sourceCount := sourceCount }
  (iterate (fun _ (st : ProjectImportAdjacencyBuild) =>
        if st.rest.isEmpty then .ret st.bySource
        else .next (projectImportAdjacencyPart st))
      0 4 initial).after fun st =>
    st.bySource

structure ProjectImportClosureExpansion where
  rest : List ImportLink
  work : ProjectImportClosureWork

def projectImportClosureExpandLink (st : ProjectImportClosureExpansion) (link : ImportLink) (rest : List ImportLink)
    : ProjectImportClosureExpansion :=
  if link.targetIndex ≥ 64 || link.targetIndex ≥ st.work.sourceCount ||
      st.work.reachable.getD link.targetIndex false || st.work.pendingCount ≥ 64 then
    { rest := rest, work := st.work }
  else
    { rest := rest
      work :=
        { reachable := st.work.reachable.setIfInBounds link.targetIndex true
          pending := st.work.pending.setIfInBounds st.work.pendingCount link.targetIndex
          pendingCount := st.work.pendingCount + 1, sourceCount := st.work.sourceCount } }

def projectImportClosureExpandStep (st : ProjectImportClosureExpansion) : ProjectImportClosureExpansion :=
  match st.rest with
  | [] => st
  | link :: rest => projectImportClosureExpandLink st link rest

def projectImportClosureExpand (links : List ImportLink) (work : ProjectImportClosureWork) : ProjectImportClosureWork :=
  let initial : ProjectImportClosureExpansion := { rest := links, work := work }
  (iterate (fun _ (st : ProjectImportClosureExpansion) =>
        if st.rest.isEmpty then .ret st.work
        else .next (projectImportClosureExpandStep st))
      0 1024 initial).after fun st =>
    st.work

/-- The body of the loop over the worklist: the last pending source is taken and its links are followed. -/
def projectImportClosurePop (adjacency : Vector (List ImportLink) 64) (st : ProjectImportClosureWork)
    : ProjectImportClosureWork :=
  let sourceIndex := st.pending.getD (st.pendingCount - 1) 0
  let popped : ProjectImportClosureWork := { st with pendingCount := st.pendingCount - 1 }
  let outgoing := adjacency.getD sourceIndex []
  projectImportClosureExpand outgoing popped

def projectImportClosureWorklist (imports : List ImportLink) (reachable : Vector Bool 64) (sourceCount : Nat)
    : ProjectImportClosure :=
  let adjacency := projectImportAdjacency imports sourceCount
  let seeded := projectImportClosureSeedWork reachable sourceCount
  (iterate (fun _ (st : ProjectImportClosureWork) =>
        if st.pendingCount = 0 then .ret { reachable := st.reachable, changed := false }
        else .next (projectImportClosurePop adjacency st))
      0 64 seeded).after fun st =>
    { reachable := st.reachable, changed := false }

/-! ## The closure -/

/-- What follows the first two rounds. -/
def projectImportClosureDeep (imports : List ImportLink) (second : ProjectImportClosure) (sourceCount : Nat)
    : ProjectImportClosure :=
  if !second.changed then { reachable := second.reachable, changed := false }
  else if
      (if sourceCount = 64 then projectImportClosureComplete second.reachable
      else projectImportClosureCompletePrefix second.reachable sourceCount) then
    { reachable := second.reachable, changed := false }
  else projectImportClosureWorklist imports second.reachable sourceCount

def projectImportClosure (imports : List ImportLink) (targetSourceIndex sourceCount : Nat) : ProjectImportClosure :=
  let empty : Vector Bool 64 := Vector.replicate 64 false
  if targetSourceIndex ≥ 64 then { reachable := empty, changed := false }
  else if sourceCount < 64 && targetSourceIndex ≥ sourceCount then { reachable := empty, changed := false }
  else
    let first := projectImportClosureRound imports (empty.setIfInBounds targetSourceIndex true) sourceCount
    if !first.changed then first
    else if sourceCount < 64 && projectImportClosureCompletePrefix first.reachable sourceCount then
      { reachable := first.reachable, changed := false }
    else
      projectImportClosureDeep imports (projectImportClosureRound imports first.reachable sourceCount) sourceCount

/-! ## The modules -/

structure ProjectModuleClosureFilter where
  rest : List ParsedModule
  reachable : Vector Bool 64
  acc : List ParsedModule

def projectModuleClosureFilterOne (st : ProjectModuleClosureFilter) (parsed : ParsedModule) (rest : List ParsedModule)
    : ProjectModuleClosureFilter :=
  if parsed.sourceIndex ≥ 64 then { st with rest := rest }
  else if !st.reachable.getD parsed.sourceIndex false then { st with rest := rest }
  else { st with rest := rest, acc := parsed :: st.acc }

def projectModuleClosureFilterStep (st : ProjectModuleClosureFilter) : ProjectModuleClosureFilter :=
  match st.rest with
  | [] => st
  | parsed :: rest => projectModuleClosureFilterOne st parsed rest

def projectModulesInClosure (sources : List ProjectSource) (modules : List ParsedModule) (reachable : Vector Bool 64)
    : List ParsedModule :=
  (iterate (fun _ (st : ProjectModuleClosureFilter) =>
        if st.rest.isEmpty then .ret (reverseModules sources st.acc)
        else .next (projectModuleClosureFilterStep st))
      0 sources.length { rest := modules, reachable := reachable, acc := [] }).after fun st =>
    reverseModules sources st.acc

/-! ## Marks and links -/

section Closure

variable {imports : List ImportLink} {sourceCount target : Nat}

/-- A link of the project: both its ends are sources. -/
def Links (imports : List ImportLink) (sourceCount : Nat) (a b : Nat) : Prop :=
  ∃ link ∈ imports, link.sourceIndex = a ∧ link.targetIndex = b ∧ a < sourceCount ∧ b < sourceCount

def Marked (reachable : Vector Bool 64) (a : Nat) : Prop := reachable.getD a false = true

theorem getD_eq {α : Type} (xs : Vector α 64) (i : Nat) (d : α) : xs.getD i d = xs[i]?.getD d := by
  rw [Vector.getD, Array.getD_eq_getD_getElem?, Vector.getElem?_toArray]

theorem getD_setIfInBounds {α : Type} (xs : Vector α 64) {i : Nat} (hi : i < 64) (x : α) (j : Nat) (d : α) :
    (xs.setIfInBounds i x).getD j d = if i = j then x else xs.getD j d := by
  rw [getD_eq, getD_eq, Vector.getElem?_setIfInBounds, if_pos hi]
  split <;> rfl

theorem Marked.lt {reachable : Vector Bool 64} {a : Nat} (h : Marked reachable a) : a < 64 := by
  by_contra hge
  rw [Marked, getD_eq, Vector.getElem?_eq_none (Nat.not_lt.mp hge)] at h
  cases h

theorem marked_set {reachable : Vector Bool 64} {b : Nat} (hb : b < 64) (c : Nat) :
    Marked (reachable.setIfInBounds b true) c ↔ Marked reachable c ∨ c = b := by
  rw [Marked, Marked, getD_setIfInBounds reachable hb]
  by_cases hc : b = c
  · simp [hc]
  · simp [hc, Ne.symm hc]

theorem not_marked_empty (a : Nat) : ¬ Marked (Vector.replicate 64 false) a := by
  intro h
  have hlt := h.lt
  rw [Marked, getD_eq, Vector.getElem?_replicate_of_lt hlt] at h
  cases h

/-- Whatever is reached is a source. -/
theorem reaches_lt (htarget : target < sourceCount) {a : Nat}
    (h : Relation.ReflTransGen (Links imports sourceCount) target a) : a < sourceCount := by
  induction h with
  | refl => exact htarget
  | tail _ hlink ih =>
      obtain ⟨link, -, -, -, -, hlt⟩ := hlink
      exact hlt

/-- The marks so far belong to the closure. -/
abbrev Searched (imports : List ImportLink) (sourceCount target : Nat) (reachable : Vector Bool 64) : Prop :=
  Reach.Marks (Links imports sourceCount) target (Marked reachable)

/-! ## Rounds -/

/-- What a round does with a link: it is of no use, or its end is marked. -/
theorem projectImportClosureLinkOne_cases (st : ProjectImportClosureWalk) (link : ImportLink) (rest : List ImportLink)
    (hcount : st.sourceCount ≤ 64) :
    projectImportClosureLinkOne st link rest = { st with rest := rest } ∧
        (link.sourceIndex < st.sourceCount → link.targetIndex < st.sourceCount →
          Marked st.reachable link.sourceIndex → Marked st.reachable link.targetIndex) ∨
      (link.sourceIndex < st.sourceCount ∧ link.targetIndex < st.sourceCount ∧
          Marked st.reachable link.sourceIndex) ∧
        projectImportClosureLinkOne st link rest =
          { st with rest := rest, reachable := st.reachable.setIfInBounds link.targetIndex true, changed := true } := by
  rw [projectImportClosureLinkOne]
  split
  · next hout =>
      left
      refine ⟨rfl, fun hsource htarget => ?_⟩
      simp only [Bool.or_eq_true, decide_eq_true_eq] at hout
      omega
  next hin =>
  simp only [Bool.or_eq_true, decide_eq_true_eq, not_or, Nat.not_le] at hin
  obtain ⟨⟨⟨-, -⟩, hsource⟩, htarget⟩ := hin
  split
  · next huseless =>
      left
      refine ⟨rfl, fun _ _ hmarked => ?_⟩
      rw [Bool.or_eq_true, Bool.not_eq_true'] at huseless
      rcases huseless with hnot | hdone
      · rw [Marked, hnot] at hmarked
        cases hmarked
      · exact hdone
  · next huse =>
      right
      simp only [Bool.or_eq_true, Bool.not_eq_true', not_or, Bool.not_eq_false] at huse
      exact ⟨⟨hsource, htarget, huse.1⟩, rfl⟩

/-- What a round over `n` links keeps: the marks stay within the closure, and where nothing changes no link that it saw
    leads out of them. -/
theorem iterate_projectImportClosureLink (n : Nat) {st : ProjectImportClosureWalk} (hcount : st.sourceCount ≤ 64)
    (hrest : ∀ link ∈ st.rest, link ∈ imports) (h : Searched imports st.sourceCount target st.reachable) :
    let st' := projectImportClosureLink^[n] st
    Searched imports st.sourceCount target st'.reachable ∧
      (st'.changed = false → st'.reachable = st.reachable ∧
        ∀ link ∈ st.rest.take n, link.sourceIndex < st.sourceCount → link.targetIndex < st.sourceCount →
          Marked st.reachable link.sourceIndex → Marked st.reachable link.targetIndex) ∧
      (st.changed = true → st'.changed = true) := by
  induction n generalizing st with
  | zero => exact ⟨h, fun _ => ⟨rfl, fun link hlink => absurd hlink (by simp)⟩, id⟩
  | succ n ih =>
      rw [Function.iterate_succ_apply]
      cases hlist : st.rest with
      | nil =>
          have hstep : projectImportClosureLink st = st := by rw [projectImportClosureLink, hlist]
          rw [hstep]
          obtain ⟨hsearched, hsame, hchanged⟩ := ih hcount hrest h
          refine ⟨hsearched, fun hst => ⟨(hsame hst).1, fun link hlink => absurd hlink (by simp)⟩, hchanged⟩
      | cons link rest =>
          have hstep : projectImportClosureLink st = projectImportClosureLinkOne st link rest := by
            rw [projectImportClosureLink, hlist]
          have hmem : link ∈ imports := hrest link (hlist ▸ List.mem_cons_self)
          have hrest' : ∀ other ∈ rest, other ∈ imports := fun other ho =>
            hrest other (hlist ▸ List.mem_cons_of_mem link ho)
          rw [hstep]
          rcases projectImportClosureLinkOne_cases st link rest hcount with ⟨heq, huseless⟩ | ⟨⟨hsource, htarget, hmarked⟩, heq⟩
          · rw [heq]
            obtain ⟨hsearched, hsame, hchanged⟩ := @ih { st with rest := rest } hcount hrest' h
            refine ⟨hsearched, fun hst => ⟨(hsame hst).1, ?_⟩, hchanged⟩
            intro other hother
            rw [List.take_succ_cons] at hother
            rcases List.mem_cons.mp hother with rfl | hother
            · exact huseless
            · exact (hsame hst).2 other hother
          · rw [heq]
            have hadd : Searched imports st.sourceCount target (st.reachable.setIfInBounds link.targetIndex true) :=
              h.add hmarked ⟨link, hmem, rfl, rfl, hsource, htarget⟩ (marked_set (by omega))
            obtain ⟨hsearched, hsame, hchanged⟩ :=
              @ih { st with rest := rest, reachable := st.reachable.setIfInBounds link.targetIndex true, changed := true }
                hcount hrest' hadd
            refine ⟨hsearched, fun hst => ?_, fun _ => hchanged rfl⟩
            exact Bool.noConfusion ((hchanged rfl).symm.trans hst)

/-- **A round** marks only what is reached, and when nothing changes no link leads out of the marks. -/
theorem projectImportClosureRound_searched {reachable : Vector Bool 64} (hcount : sourceCount ≤ 64)
    (himports : imports.length ≤ 4096) (h : Searched imports sourceCount target reachable) :
    Searched imports sourceCount target (projectImportClosureRound imports reachable sourceCount).reachable ∧
      ((projectImportClosureRound imports reachable sourceCount).changed = false →
        Reach.Closed (Links imports sourceCount)
          (Marked (projectImportClosureRound imports reachable sourceCount).reachable)) := by
  obtain ⟨st, hst⟩ :
      ∃ st, projectImportClosureLink^[1024 * 4]
        { rest := imports, reachable := reachable, changed := false, sourceCount := sourceCount } = st := ⟨_, rfl⟩
  have hround :
      projectImportClosureRound imports reachable sourceCount = { reachable := st.reachable, changed := st.changed } := by
    rw [← hst]
    exact @iterate_chunks ProjectImportClosure ProjectImportClosureWalk (fun st => st.rest.isEmpty)
      projectImportClosureLink projectImportClosurePart
      (fun st => { reachable := st.reachable, changed := st.changed })
      (fun st hst => by rw [projectImportClosureLink, List.isEmpty_iff.mp hst]) 1024 (fun st => rfl) 4 _
  have hrun :=
    @iterate_projectImportClosureLink imports target (1024 * 4)
      { rest := imports, reachable := reachable, changed := false, sourceCount := sourceCount } hcount
      (fun _ hlink => hlink) h
  rw [hst] at hrun
  rw [hround]
  obtain ⟨hsearched, hsame, -⟩ := hrun
  refine ⟨hsearched, ?_⟩
  intro hchanged
  obtain ⟨hreachable, hclosed⟩ := hsame hchanged
  rw [hreachable]
  rintro a b ha ⟨link, hlink, rfl, rfl, hsource, htarget⟩
  have hlength : imports.length ≤ 1024 * 4 := by omega
  refine hclosed link ?_ hsource htarget ha
  rw [List.take_of_length_le hlength]
  exact hlink

/-! ## All sources marked -/

theorem projectImportClosureComplete_marked {reachable : Vector Bool 64}
    (h : projectImportClosureComplete reachable = true) : ∀ i, i < 64 → Marked reachable i := by
  have hall := iterate_accepts (fun j (_ : Bool) => ∀ i, j ≤ i → i < 64 → Marked reachable i) ?_ ?_ ?_ h
  · exact fun i hi => hall i (Nat.zero_le i) hi
  · intro j st hret
    split at hret
    · cases hret
    · cases hret
  · intro j st st' hnext hrest i hj hi
    split at hnext
    · cases hnext
    · next hmarked =>
        rcases Nat.lt_or_eq_of_le hj with hlt | rfl
        · exact hrest i hlt hi
        · rw [Bool.not_eq_true', Bool.not_eq_false] at hmarked
          exact hmarked
  · intro st hst i hj hi
    omega

theorem projectImportClosureCompletePrefix_marked {reachable : Vector Bool 64} (hcount : sourceCount ≤ 64)
    (h : projectImportClosureCompletePrefix reachable sourceCount = true) :
    ∀ i, i < sourceCount → Marked reachable i := by
  have hall := iterate_accepts (fun j (_ : Bool) => ∀ i, j ≤ i → i < sourceCount → Marked reachable i) ?_ ?_ ?_ h
  · exact fun i hi => hall i (Nat.zero_le i) hi
  · intro j st hret i hj hi
    split at hret
    · omega
    · split at hret
      · cases hret
      · cases hret
  · intro j st st' hnext hrest i hj hi
    split at hnext
    · cases hnext
    split at hnext
    · cases hnext
    · next hmarked =>
        rcases Nat.lt_or_eq_of_le hj with hlt | rfl
        · exact hrest i hlt hi
        · rw [Bool.not_eq_true', Bool.not_eq_false] at hmarked
          exact hmarked
  · intro st hst i hj hi
    omega

/-- Where all sources are marked no link leads out. -/
theorem closed_of_all {reachable : Vector Bool 64} (h : ∀ i, i < sourceCount → Marked reachable i) :
    Reach.Closed (Links imports sourceCount) (Marked reachable) := by
  rintro a b - ⟨link, -, -, -, -, hb⟩
  exact h b hb

/-! ## The links of a source -/

/-- The links that leave a source for another one. -/
def outgoing (imports : List ImportLink) (sourceCount a : Nat) : List ImportLink :=
  (imports.filter fun link =>
    link.sourceIndex = a && link.sourceIndex < sourceCount && link.targetIndex < sourceCount).reverse

theorem mem_outgoing {a : Nat} {link : ImportLink} :
    link ∈ outgoing imports sourceCount a ↔
      link ∈ imports ∧ link.sourceIndex = a ∧ a < sourceCount ∧ link.targetIndex < sourceCount := by
  rw [outgoing, List.mem_reverse, List.mem_filter]
  simp only [Bool.and_eq_true, decide_eq_true_eq]
  constructor
  · rintro ⟨hmem, ⟨rfl, hsource⟩, htarget⟩
    exact ⟨hmem, rfl, hsource, htarget⟩
  · rintro ⟨hmem, rfl, hsource, htarget⟩
    exact ⟨hmem, ⟨rfl, hsource⟩, htarget⟩

theorem outgoing_length_le (a : Nat) :
    (outgoing imports sourceCount a).length ≤ (imports.filter fun link => link.sourceIndex = a).length := by
  rw [outgoing, List.length_reverse]
  refine (List.monotone_filter_right imports ?_).length_le
  intro link hlink
  simp only [Bool.and_eq_true] at hlink
  exact hlink.1.1

theorem outgoing_cons (a : Nat) (link : ImportLink) :
    outgoing (link :: imports) sourceCount a =
      outgoing imports sourceCount a ++
        if link.sourceIndex = a ∧ link.sourceIndex < sourceCount ∧ link.targetIndex < sourceCount then [link] else [] := by
  rw [outgoing, List.filter_cons]
  by_cases h : link.sourceIndex = a ∧ link.sourceIndex < sourceCount ∧ link.targetIndex < sourceCount
  · have hkeep :
        (link.sourceIndex = a && link.sourceIndex < sourceCount && link.targetIndex < sourceCount : Bool) = true := by
      simp only [Bool.and_eq_true, decide_eq_true_eq]
      exact ⟨⟨h.1, h.2.1⟩, h.2.2⟩
    rw [if_pos h, if_pos hkeep, List.reverse_cons, outgoing]
  · rw [if_neg h, if_neg (by simpa [and_assoc] using h), List.append_nil, outgoing]

theorem projectImportAdjacencyAdd_bySource (st : ProjectImportAdjacencyBuild) (link : ImportLink)
    (rest : List ImportLink) (hcount : st.sourceCount ≤ 64) (a : Nat) :
    (projectImportAdjacencyAdd st link rest).bySource.getD a [] =
      (if link.sourceIndex = a ∧ link.sourceIndex < st.sourceCount ∧ link.targetIndex < st.sourceCount then [link]
      else []) ++ st.bySource.getD a [] := by
  rw [projectImportAdjacencyAdd]
  split
  · next hout =>
      simp only [Bool.or_eq_true, decide_eq_true_eq] at hout
      rw [if_neg (by omega)]
      rfl
  · next hin =>
      simp only [Bool.or_eq_true, decide_eq_true_eq, not_or, Nat.not_le] at hin
      obtain ⟨⟨⟨hsource, -⟩, hsource'⟩, htarget⟩ := hin
      dsimp only
      rw [getD_setIfInBounds _ hsource]
      by_cases ha : link.sourceIndex = a
      · rw [if_pos ha, if_pos ⟨ha, hsource', htarget⟩, ha]
        rfl
      · rw [if_neg ha, if_neg (fun h => ha h.1)]
        rfl

theorem iterate_projectImportAdjacencyStep (n : Nat) (st : ProjectImportAdjacencyBuild) (hcount : st.sourceCount ≤ 64)
    (a : Nat) :
    (projectImportAdjacencyStep^[n] st).bySource.getD a [] =
      outgoing (st.rest.take n) st.sourceCount a ++ st.bySource.getD a [] := by
  induction n generalizing st with
  | zero => rfl
  | succ n ih =>
      rw [Function.iterate_succ_apply]
      cases hrest : st.rest with
      | nil =>
          have hstep : projectImportAdjacencyStep st = st := by rw [projectImportAdjacencyStep, hrest]
          rw [hstep, ih st hcount, hrest, List.take_nil, List.take_nil]
      | cons link rest =>
          have hstep : projectImportAdjacencyStep st = projectImportAdjacencyAdd st link rest := by
            rw [projectImportAdjacencyStep, hrest]
          have hkept :
              (projectImportAdjacencyAdd st link rest).rest = rest ∧
                (projectImportAdjacencyAdd st link rest).sourceCount = st.sourceCount := by
            rw [projectImportAdjacencyAdd]
            split <;> exact ⟨rfl, rfl⟩
          rw [hstep, ih _ (hkept.2 ▸ hcount), hkept.1, hkept.2, projectImportAdjacencyAdd_bySource st link rest hcount,
            List.take_succ_cons, outgoing_cons, List.append_assoc]

/-- The table of links lists the links of each source, the last first. -/
theorem projectImportAdjacency_getD (hcount : sourceCount ≤ 64) (himports : imports.length ≤ 4096) (a : Nat) :
    (projectImportAdjacency imports sourceCount).getD a [] = outgoing imports sourceCount a := by
  have hlength : imports.length ≤ 1024 * 4 := by omega
  have hrun := iterate_projectImportAdjacencyStep (1024 * 4)
    { rest := imports, bySource := Vector.replicate 64 [], sourceCount := sourceCount } hcount a
  obtain ⟨st, hst⟩ :
      ∃ st, projectImportAdjacencyStep^[1024 * 4]
        { rest := imports, bySource := Vector.replicate 64 [], sourceCount := sourceCount } = st := ⟨_, rfl⟩
  have htable : projectImportAdjacency imports sourceCount = st.bySource := by
    rw [← hst]
    exact @iterate_chunks (Vector (List ImportLink) 64) ProjectImportAdjacencyBuild (fun st => st.rest.isEmpty)
      projectImportAdjacencyStep projectImportAdjacencyPart (fun st => st.bySource)
      (fun st hst => by rw [projectImportAdjacencyStep, List.isEmpty_iff.mp hst]) 1024 (fun st => rfl) 4 _
  have hempty : (Vector.replicate 64 ([] : List ImportLink)).getD a [] = [] := by
    rw [getD_eq, Vector.getElem?_replicate]
    split <;> rfl
  rw [hst] at hrun
  rw [htable, hrun]
  dsimp only
  rw [hempty, List.append_nil, List.take_of_length_le hlength]

/-! ## The worklist -/

/-- The sources that wait, the one to be taken first at the head. -/
def pendingList (pending : Vector Nat 64) (pendingCount : Nat) : List Nat := (pending.toList.take pendingCount).reverse

theorem pendingList_length {pending : Vector Nat 64} {pendingCount : Nat} (h : pendingCount ≤ 64) :
    (pendingList pending pendingCount).length = pendingCount := by
  rw [pendingList, List.length_reverse, List.length_take, Vector.length_toList, Nat.min_eq_left h]

theorem pendingList_push {pending : Vector Nat 64} {pendingCount : Nat} (h : pendingCount < 64) (a : Nat) :
    pendingList (pending.setIfInBounds pendingCount a) (pendingCount + 1) = a :: pendingList pending pendingCount := by
  have hlast : (pending.toList.set pendingCount a)[pendingCount]? = some a := by
    rw [List.getElem?_set_self (by rw [Vector.length_toList]; exact h)]
  rw [pendingList, Vector.toList_setIfInBounds, List.take_add_one, hlast, List.take_set_of_le (Nat.le_refl _),
    List.reverse_append]
  rfl

theorem pendingList_pop {pending : Vector Nat 64} {pendingCount : Nat} (hpos : 0 < pendingCount)
    (h : pendingCount ≤ 64) :
    pendingList pending pendingCount =
      pending.getD (pendingCount - 1) 0 :: pendingList pending (pendingCount - 1) := by
  obtain ⟨count, rfl⟩ := Nat.exists_eq_add_of_lt hpos
  have hlt : 0 + count < pending.toList.length := by
    rw [Vector.length_toList]
    omega
  have hlast : pending.toList[0 + count]? = some (pending.getD (0 + count) 0) := by
    rw [getD_eq, Vector.getElem?_toList, Vector.getElem?_eq_getElem (by omega)]
    rfl
  rw [pendingList, List.take_add_one, hlast, List.reverse_append, Nat.add_sub_cancel]
  rfl

/-- The worklist between two rounds: marks of the closure, and every marked source that does not wait has had its links
    followed. -/
structure Waits (imports : List ImportLink) (target : Nat) (done : List Nat) (st : ProjectImportClosureWork) : Prop where
  count : st.pendingCount ≤ 64
  sources : st.sourceCount ≤ 64
  searched : Searched imports st.sourceCount target st.reachable
  frontier : Reach.Frontier (Links imports st.sourceCount) (Marked st.reachable) done
    (pendingList st.pending st.pendingCount)

theorem marked_mem_range {reachable : Vector Bool 64} (a : Nat) (h : Marked reachable a) : a ∈ List.range 64 :=
  List.mem_range.mpr h.lt

theorem Waits.length_le {done : List Nat} {st : ProjectImportClosureWork} (h : Waits imports target done st) :
    done.length + st.pendingCount ≤ 64 := by
  have hle := h.frontier.length_le marked_mem_range
  rwa [pendingList_length h.count, List.length_range] at hle

/-- While the links of a source are followed. -/
structure Follows (imports : List ImportLink) (target : Nat) (done : List Nat) (node : Nat)
    (st : ProjectImportClosureExpansion) : Prop where
  count : st.work.pendingCount ≤ 64
  sources : st.work.sourceCount ≤ 64
  searched : Searched imports st.work.sourceCount target st.work.reachable
  links : ∀ link ∈ st.rest, link ∈ imports ∧ link.sourceIndex = node ∧ node < st.work.sourceCount ∧
    link.targetIndex < st.work.sourceCount
  expanding : Reach.Expanding (Links imports st.work.sourceCount) (Marked st.work.reachable) done
    (pendingList st.work.pending st.work.pendingCount) node (st.rest.map ImportLink.targetIndex)

/-- There is room for every source that is found: it has not waited before. -/
theorem Follows.room {done : List Nat} {node : Nat} {st : ProjectImportClosureExpansion}
    (h : Follows imports target done node st) : st.work.pendingCount < 64 := by
  have hle := h.expanding.length_le marked_mem_range
  rw [pendingList_length h.count, List.length_range] at hle
  have hpos : 0 < done.length := List.length_pos_of_mem h.expanding.taken
  omega

theorem projectImportClosureExpandLink_follows {done : List Nat} {node : Nat} {st : ProjectImportClosureExpansion}
    {link : ImportLink} {rest : List ImportLink} (h : Follows imports target done node st)
    (hrest : st.rest = link :: rest) :
    Follows imports target done node (projectImportClosureExpandLink st link rest) := by
  obtain ⟨hmem, hsource, hnode, htarget⟩ := h.links link (hrest ▸ List.mem_cons_self)
  have hsources := h.sources
  have hexpanding := h.expanding
  rw [hrest, List.map_cons] at hexpanding
  have hlinks : ∀ other ∈ rest, other ∈ imports ∧ other.sourceIndex = node ∧ node < st.work.sourceCount ∧
      other.targetIndex < st.work.sourceCount := fun other ho => h.links other (hrest ▸ List.mem_cons_of_mem link ho)
  have hroom := h.room
  rw [projectImportClosureExpandLink]
  split
  · next hskip =>
      simp only [Bool.or_eq_true, decide_eq_true_eq] at hskip
      have hmarked : Marked st.work.reachable link.targetIndex := by
        rcases hskip with ((hout | hout) | hmarked) | hfull
        · omega
        · omega
        · exact hmarked
        · omega
      exact ⟨h.count, hsources, h.searched, hlinks, hexpanding.skip fun _ => hmarked⟩
  · next hnew =>
      simp only [Bool.or_eq_true, not_or] at hnew
      have hadd := @marked_set st.work.reachable link.targetIndex (by omega)
      have htaken : Marked st.work.reachable node := hexpanding.listed node (List.mem_append_left _ hexpanding.taken)
      refine ⟨hroom, hsources, h.searched.add htaken ⟨link, hmem, hsource, rfl, hnode, htarget⟩ hadd, hlinks, ?_⟩
      dsimp only
      rw [pendingList_push hroom]
      exact hexpanding.push hnew.1.2 hadd

theorem iterate_projectImportClosureExpandStep (n : Nat) {done : List Nat} {node : Nat}
    {st : ProjectImportClosureExpansion} (h : Follows imports target done node st) :
    Follows imports target done node (projectImportClosureExpandStep^[n] st) ∧
      (projectImportClosureExpandStep^[n] st).rest = st.rest.drop n ∧
      (projectImportClosureExpandStep^[n] st).work.sourceCount = st.work.sourceCount := by
  induction n generalizing st with
  | zero => exact ⟨h, rfl, rfl⟩
  | succ n ih =>
      rw [Function.iterate_succ_apply]
      cases hrest : st.rest with
      | nil =>
          have hstep : projectImportClosureExpandStep st = st := by rw [projectImportClosureExpandStep, hrest]
          rw [hstep]
          obtain ⟨hfollows, hleft, hcount⟩ := ih h
          refine ⟨hfollows, ?_, hcount⟩
          rw [hleft, hrest, List.drop_nil, List.drop_nil]
      | cons link rest =>
          have hstep : projectImportClosureExpandStep st = projectImportClosureExpandLink st link rest := by
            rw [projectImportClosureExpandStep, hrest]
          have hkept :
              (projectImportClosureExpandLink st link rest).rest = rest ∧
                (projectImportClosureExpandLink st link rest).work.sourceCount = st.work.sourceCount := by
            rw [projectImportClosureExpandLink]
            split <;> exact ⟨rfl, rfl⟩
          rw [hstep]
          obtain ⟨hfollows, hleft, hcount⟩ := ih (projectImportClosureExpandLink_follows h hrest)
          refine ⟨hfollows, ?_, hcount.trans hkept.2⟩
          rw [hleft, hkept.1, List.drop_succ_cons]

theorem projectImportClosureExpand_eq (links : List ImportLink) (work : ProjectImportClosureWork) :
    projectImportClosureExpand links work =
      (projectImportClosureExpandStep^[1024] { rest := links, work := work }).work := by
  rw [projectImportClosureExpand, iterate_guard (fun _ _ => rfl), settle_eq_self]
  intro st hst
  rw [projectImportClosureExpandStep, List.isEmpty_iff.mp hst]

/-- One round of the worklist: a source is taken, and its links are followed. -/
theorem projectImportClosurePop_waits {done : List Nat} {st : ProjectImportClosureWork}
    (himports : imports.length ≤ 4096)
    (hper : ∀ a, (imports.filter fun link => link.sourceIndex = a).length ≤ 1024) (h : Waits imports target done st)
    (hpos : 0 < st.pendingCount) :
    Waits imports target (st.pending.getD (st.pendingCount - 1) 0 :: done)
        (projectImportClosurePop (projectImportAdjacency imports st.sourceCount) st) ∧
      (projectImportClosurePop (projectImportAdjacency imports st.sourceCount) st).sourceCount = st.sourceCount := by
  have hcount := h.count
  have hfrontier := h.frontier
  rw [pendingList_pop hpos hcount] at hfrontier
  rw [projectImportClosurePop]
  generalize st.pending.getD (st.pendingCount - 1) 0 = node at hfrontier ⊢
  rw [projectImportAdjacency_getD h.sources himports, projectImportClosureExpand_eq]
  have hfollows :
      Follows imports target (node :: done) node
        { rest := outgoing imports st.sourceCount node, work := { st with pendingCount := st.pendingCount - 1 } } := by
    have hleft : st.pendingCount - 1 ≤ 64 := by omega
    refine ⟨hleft, h.sources, h.searched, fun link hlink => mem_outgoing.mp hlink, hfrontier.take ?_⟩
    rintro b ⟨link, hmem, hsource, rfl, hnode, htarget⟩
    exact List.mem_map_of_mem (mem_outgoing.mpr ⟨hmem, hsource, hnode, htarget⟩)
  obtain ⟨hdone, hrest, hsources⟩ := iterate_projectImportClosureExpandStep 1024 hfollows
  have hlength : (outgoing imports st.sourceCount node).length ≤ 1024 :=
    Nat.le_trans (outgoing_length_le node) (hper node)
  generalize projectImportClosureExpandStep^[1024] _ = final at hdone hrest hsources ⊢
  rw [List.drop_eq_nil_of_le hlength] at hrest
  have hexpanding := hdone.expanding
  rw [hrest] at hexpanding
  exact ⟨⟨hdone.count, hdone.sources, hdone.searched, hexpanding.finish⟩, hsources⟩

/-- The worklist starts with all marked sources. -/
theorem projectImportClosureSeedWork_waits {reachable : Vector Bool 64} (hcount : sourceCount ≤ 64)
    (htarget : target < sourceCount) (h : Searched imports sourceCount target reachable) :
    Waits imports target [] (projectImportClosureSeedWork reachable sourceCount) ∧
      (projectImportClosureSeedWork reachable sourceCount).sourceCount = sourceCount := by
  -- after `i` passes the marked ones of the first `i` sources wait
  let seeded (i : Nat) (st : ProjectImportClosureSeed) : Prop :=
    i ≤ sourceCount ∧ st.pendingCount ≤ i ∧
      pendingList st.pending st.pendingCount = ((List.range i).filter fun a => reachable.getD a false).reverse
  have hlast (st : ProjectImportClosureSeed) (hseeded : seeded sourceCount st) :
      Waits imports target []
        { reachable := reachable, pending := st.pending, pendingCount := st.pendingCount, sourceCount := sourceCount } := by
    obtain ⟨-, hle, hpending⟩ := hseeded
    refine ⟨Nat.le_trans hle hcount, hcount, h, Reach.frontier_of_all ?_ ?_⟩
    · dsimp only
      rw [hpending, List.nodup_reverse]
      exact List.nodup_range.filter _
    · intro a
      dsimp only
      rw [hpending, List.mem_reverse, List.mem_filter, List.mem_range]
      exact ⟨fun ha => ha.2, fun ha => ⟨reaches_lt htarget (h.sound a ha), ha⟩⟩
  rw [projectImportClosureSeedWork]
  refine iterate_post
    (fun i (st : ProjectImportClosureSeed) (work : ProjectImportClosureWork) =>
      seeded i st → Waits imports target [] work ∧ work.sourceCount = sourceCount) ?_ ?_ 0 64 _ ?_ ?_
  · intro i st work hret hseeded
    split at hret
    · next hi =>
        obtain rfl : i = sourceCount := Nat.le_antisymm hseeded.1 hi
        cases hret
        exact ⟨hlast st hseeded, rfl⟩
    · cases hret
  · intro i st st' work hnext hrest hseeded
    split at hnext
    · cases hnext
    next hi =>
    obtain ⟨-, hle, hpending⟩ := hseeded
    obtain rfl : projectImportClosureSeedStep reachable i st = st' := by
      cases hnext
      rfl
    refine hrest ⟨by omega, ?_, ?_⟩
    · rw [projectImportClosureSeedStep]
      split
      · omega
      · show st.pendingCount + 1 ≤ i + 1
        omega
    · rw [projectImportClosureSeedStep, List.range_succ, List.filter_append, List.reverse_append, ← hpending]
      cases hmarked : reachable.getD i false with
      | false =>
          rw [List.filter_cons_of_neg (by simp [hmarked])]
          rfl
      | true =>
          rw [List.filter_cons_of_pos (by simp [hmarked])]
          exact pendingList_push (by omega) i
  · intro st hseeded
    obtain rfl : 64 = sourceCount := by
      have hi := hseeded.1
      omega
    exact ⟨hlast st hseeded, rfl⟩
  · exact ⟨Nat.zero_le _, Nat.le_refl 0, rfl⟩

/-- **The worklist** ends with the marks closed: no source waits twice, so that there are rounds enough. -/
theorem projectImportClosureWorklist_searched {reachable : Vector Bool 64} (hcount : sourceCount ≤ 64)
    (htarget : target < sourceCount) (himports : imports.length ≤ 4096)
    (hper : ∀ a, (imports.filter fun link => link.sourceIndex = a).length ≤ 1024)
    (h : Searched imports sourceCount target reachable) :
    Searched imports sourceCount target (projectImportClosureWorklist imports reachable sourceCount).reachable ∧
      Reach.Closed (Links imports sourceCount)
        (Marked (projectImportClosureWorklist imports reachable sourceCount).reachable) := by
  have hend (done : List Nat) (st : ProjectImportClosureWork) (hwaits : Waits imports target done st)
      (hsources : st.sourceCount = sourceCount) (hnone : st.pendingCount = 0) :
      Searched imports sourceCount target st.reachable ∧
        Reach.Closed (Links imports sourceCount) (Marked st.reachable) := by
    have hfrontier := hwaits.frontier
    rw [hnone, hsources] at hfrontier
    rw [← hsources]
    exact ⟨hwaits.searched, hsources ▸ hfrontier.closed⟩
  rw [projectImportClosureWorklist]
  refine iterate_post
    (fun i (st : ProjectImportClosureWork) (closure : ProjectImportClosure) =>
      (∃ done : List Nat, done.length = i ∧ Waits imports target done st ∧ st.sourceCount = sourceCount) →
        Searched imports sourceCount target closure.reachable ∧
          Reach.Closed (Links imports sourceCount) (Marked closure.reachable)) ?_ ?_ 0 64 _ ?_ ?_
  · rintro i st closure hret ⟨done, -, hwaits, hsources⟩
    split at hret
    · next hnone =>
        cases hret
        exact hend done st hwaits hsources hnone
    · cases hret
  · rintro i st st' closure hnext hrest ⟨done, hlength, hwaits, hsources⟩
    split at hnext
    · cases hnext
    next hsome =>
    obtain ⟨hwaits', hsources'⟩ := projectImportClosurePop_waits himports hper hwaits (Nat.pos_of_ne_zero hsome)
    rw [hsources] at hwaits' hsources'
    cases hnext
    exact hrest ⟨_, by rw [List.length_cons, hlength], hwaits', hsources'⟩
  · rintro st ⟨done, hlength, hwaits, hsources⟩
    have hle := hwaits.length_le
    exact hend done st hwaits hsources (by omega)
  · exact ⟨[], rfl, projectImportClosureSeedWork_waits hcount htarget h⟩

/-! ## Reachability -/

theorem searched_target (htarget : target < 64) :
    Searched imports sourceCount target ((Vector.replicate 64 false).setIfInBounds target true) := by
  constructor
  · exact (marked_set htarget target).mpr (.inr rfl)
  · intro a ha
    rcases (marked_set htarget a).mp ha with hempty | rfl
    · exact absurd hempty (not_marked_empty a)
    · exact .refl

theorem projectImportClosureDeep_searched {second : ProjectImportClosure} (hcount : sourceCount ≤ 64)
    (htarget : target < sourceCount) (himports : imports.length ≤ 4096)
    (hper : ∀ a, (imports.filter fun link => link.sourceIndex = a).length ≤ 1024)
    (h : Searched imports sourceCount target second.reachable)
    (hclosed : second.changed = false → Reach.Closed (Links imports sourceCount) (Marked second.reachable)) :
    Searched imports sourceCount target (projectImportClosureDeep imports second sourceCount).reachable ∧
      Reach.Closed (Links imports sourceCount)
        (Marked (projectImportClosureDeep imports second sourceCount).reachable) := by
  rw [projectImportClosureDeep]
  split
  · next hsame => exact ⟨h, hclosed (by simpa using hsame)⟩
  by_cases hcomplete :
      (if sourceCount = 64 then projectImportClosureComplete second.reachable
      else projectImportClosureCompletePrefix second.reachable sourceCount) = true
  · rw [if_pos hcomplete]
    refine ⟨h, closed_of_all ?_⟩
    split at hcomplete
    · intro i hi
      exact projectImportClosureComplete_marked hcomplete i (by omega)
    · exact projectImportClosureCompletePrefix_marked hcount hcomplete
  · rw [if_neg hcomplete]
    exact projectImportClosureWorklist_searched hcount htarget himports hper h

/-- The closure of a source of the project. -/
theorem projectImportClosure_searched (hcount : sourceCount ≤ 64) (htarget : target < sourceCount)
    (himports : imports.length ≤ 4096)
    (hper : ∀ a, (imports.filter fun link => link.sourceIndex = a).length ≤ 1024) :
    Searched imports sourceCount target (projectImportClosure imports target sourceCount).reachable ∧
      Reach.Closed (Links imports sourceCount) (Marked (projectImportClosure imports target sourceCount).reachable) := by
  obtain ⟨hfirst, hfirstClosed⟩ :=
    projectImportClosureRound_searched hcount himports (@searched_target imports sourceCount target (by omega))
  rw [projectImportClosure]
  split
  · omega
  split
  · next hout =>
      simp only [Bool.and_eq_true, decide_eq_true_eq] at hout
      omega
  dsimp only
  split
  · next hsame => exact ⟨hfirst, hfirstClosed (by simpa using hsame)⟩
  split
  · next hcomplete =>
      rw [Bool.and_eq_true] at hcomplete
      exact ⟨hfirst, closed_of_all (projectImportClosureCompletePrefix_marked hcount hcomplete.2)⟩
  · obtain ⟨hsecond, hsecondClosed⟩ := projectImportClosureRound_searched hcount himports hfirst
    exact projectImportClosureDeep_searched hcount htarget himports hper hsecond hsecondClosed

theorem projectImportClosure_outside (hcount : sourceCount ≤ 64) (htarget : sourceCount ≤ target) :
    (projectImportClosure imports target sourceCount).reachable = Vector.replicate 64 false := by
  rw [projectImportClosure]
  split
  · rfl
  · next hin =>
      have hboth : (sourceCount < 64 && target ≥ sourceCount : Bool) = true := by
        simp only [Bool.and_eq_true, decide_eq_true_eq]
        omega
      rw [if_pos hboth]

end Closure

/-! ## The modules of the closure -/

theorem buildModules_length_le (inp : Input) (targetSourceIndex : Nat) (targetOnly : Bool) :
    (buildModules inp targetSourceIndex targetOnly).acc.length ≤ inp.sources.length := by
  have hrun := carry_invariant (f := buildOneModule inp targetSourceIndex targetOnly)
    (P := fun i (st : ModuleBuild) => st.acc.length ≤ i) (i := 0) (n := inp.sources.length)
    (s := { acc := [], valid := true, count := 0, parseFailed := false, parseIndex := 0, parseStart := 0
            parseStop := 0 }) (Nat.le_refl 0) ?_
  · rw [Nat.zero_add] at hrun
    exact hrun
  · intro j st hj hlt hst
    rw [buildOneModule]
    cases inp.sources[j]? with
    | none => exact Nat.le_succ_of_le hst
    | some item => exact Nat.succ_le_succ hst

theorem iterate_projectModuleClosureFilterStep (n : Nat) (st : ProjectModuleClosureFilter) :
    (projectModuleClosureFilterStep^[n] st).acc =
      ((st.rest.take n).filter fun parsed => st.reachable.getD parsed.sourceIndex false).reverse ++ st.acc := by
  induction n generalizing st with
  | zero => rfl
  | succ n ih =>
      rw [Function.iterate_succ_apply, ih]
      cases hrest : st.rest with
      | nil =>
          have hstep : projectModuleClosureFilterStep st = st := by rw [projectModuleClosureFilterStep, hrest]
          rw [hstep, hrest, List.take_nil, List.take_nil]
      | cons parsed rest =>
          have hstep : projectModuleClosureFilterStep st = projectModuleClosureFilterOne st parsed rest := by
            rw [projectModuleClosureFilterStep, hrest]
          rw [hstep, projectModuleClosureFilterOne, List.take_succ_cons]
          split
          · next hout =>
              have hfalse : st.reachable.getD parsed.sourceIndex false = false := by
                rw [Bool.eq_false_iff]
                intro htrue
                have hlt := Marked.lt htrue
                omega
              rw [List.filter_cons_of_neg (by rw [hfalse]; exact Bool.false_ne_true)]
          split
          · next hnot =>
              have hfalse : st.reachable.getD parsed.sourceIndex false = false := by simpa using hnot
              rw [List.filter_cons_of_neg (by rw [hfalse]; exact Bool.false_ne_true)]
          · next hmarked =>
              have htrue : st.reachable.getD parsed.sourceIndex false = true := by simpa using hmarked
              rw [List.filter_cons_of_pos (by exact htrue), List.reverse_cons, List.append_assoc]
              rfl

/-- The marked modules, in order. There is a module for each source at most. -/
theorem projectModulesInClosure_eq {sources : List ProjectSource} {modules : List ParsedModule}
    (hmodules : modules.length ≤ sources.length) (reachable : Vector Bool 64) :
    projectModulesInClosure sources modules reachable =
      modules.filter fun parsed => reachable.getD parsed.sourceIndex false := by
  have hfilter : (modules.filter fun parsed => reachable.getD parsed.sourceIndex false).length ≤ sources.length :=
    Nat.le_trans (List.length_filter_le _ _) hmodules
  rw [projectModulesInClosure, iterate_guard (fun _ _ => rfl), settle_eq_self, iterate_projectModuleClosureFilterStep]
  · dsimp only
    rw [List.append_nil, List.take_of_length_le hmodules, reverseModules, reverseWithin_eq,
      List.take_of_length_le (by rwa [List.length_reverse]), List.reverse_reverse]
  · intro st hst
    rw [projectModuleClosureFilterStep, List.isEmpty_iff.mp hst]

/-- **The import closure is reachability**, and the modules that it marks are kept in their order. -/
theorem projectImportClosure_exact (imports : List ImportLink) (target sourceCount : Nat)
    (himports : imports.length ≤ 4096)
    (hper : ∀ a, (imports.filter fun link => link.sourceIndex = a).length ≤ 1024) (hcount : sourceCount ≤ 64) :
    (∀ j, Marked (projectImportClosure imports target sourceCount).reachable j ↔
      target < sourceCount ∧ Relation.ReflTransGen (Links imports sourceCount) target j) ∧
    ∀ (sources : List ProjectSource) (modules : List ParsedModule), modules.length ≤ sources.length →
      projectModulesInClosure sources modules (projectImportClosure imports target sourceCount).reachable =
        modules.filter fun parsed =>
          (projectImportClosure imports target sourceCount).reachable.getD parsed.sourceIndex false := by
  refine ⟨?_, fun sources modules hmodules => projectModulesInClosure_eq hmodules _⟩
  intro j
  rcases Nat.lt_or_ge target sourceCount with htarget | htarget
  · obtain ⟨hsearched, hclosed⟩ := projectImportClosure_searched hcount htarget himports hper
    rw [hsearched.iff_reaches hclosed j]
    exact ⟨fun hreach => ⟨htarget, hreach⟩, fun h => h.2⟩
  · rw [projectImportClosure_outside hcount htarget]
    exact iff_of_false (not_marked_empty j) fun h => absurd h.1 (Nat.not_lt.mpr htarget)

def importLink (sourceIndex targetIndex : Nat) : ImportLink :=
  { sourceIndex := sourceIndex, targetIndex := targetIndex, moduleStart := 0, moduleStop := 0, aliasStart := 0
    aliasStop := 0, hasAlias := false }

def chainLinks : List ImportLink :=
  [importLink 3 4, importLink 2 3, importLink 1 2, importLink 0 1, importLink 4 2]

/-- A chain of links in reverse order with a cycle at its end. -/
theorem projectImportClosure_exact_chain :
    Marked (projectImportClosure chainLinks 0 6).reachable 4 ↔
      0 < 6 ∧ Relation.ReflTransGen (Links chainLinks 6) 0 4 :=
  (projectImportClosure_exact chainLinks 0 6 (by decide)
    (fun a => Nat.le_trans (List.length_filter_le _ _) (by decide)) (by decide)).1 4

end MncsCompiler.Project
