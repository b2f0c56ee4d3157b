import MncsCompiler.Lexer.Batches
import MncsCompiler.Source.Admission

/-!
# `Parser.Header` — the header machine

`parser.mncs`: an eight-state machine that reads one significant token a step. `header` runs it on one view with
the view's length as fuel, `header_global` on a page composition with four batches of 1024 tokens. Both are a
number of steps from the same seed, and both step functions are one move on the token they read.

## Codes
0 success; 1 lexical; 2 expected `mncs`; 3 expected version; 4 expected semicolon; 5 expected `module`;
6 expected identifier; 7 expected dot or semicolon; 8 invalid UTF-8; 9 out of fuel (global form only).
-/

namespace MncsCompiler.Parser

open BoundedLoop

structure Header where
  code : Nat
  start : Nat
  stop : Nat
  versionStart : Nat
  versionStop : Nat
  moduleStart : Nat
  moduleStop : Nat
  nextOffset : Nat
  state : Nat
  deriving DecidableEq, Repr

def seed : Header :=
  { code := 0, start := 0, stop := 0, versionStart := 0, versionStop := 0, moduleStart := 0, moduleStop := 0,
    nextOffset := 0, state := 0 }

/-- The machine has failed or accepted. -/
def Header.ended (st : Header) : Bool := st.code ≠ 0 || st.state = 8

/-- The refusal of a token. -/
def refuse (st : Header) (code : Nat) (token : Token) : Header :=
  { st with code := code, start := token.start, stop := token.stop }

/-- The move of an open machine on a token. -/
def move (token : Token) (st : Header) : Header :=
  if token.diagnostic ≠ 0 then refuse st 1 token
  else if st.state = 0 then
    if token.kind = 10 then { st with state := 1, nextOffset := token.stop } else refuse st 2 token
  else if st.state = 1 then
    if token.kind = 6 then
      { st with state := 2, nextOffset := token.stop, versionStart := token.start, versionStop := token.stop }
    else refuse st 3 token
  else if st.state = 2 then
    if token.kind = 63 then { st with state := 3, nextOffset := token.stop } else refuse st 4 token
  else if st.state = 3 then
    if token.kind = 11 then { st with state := 4, nextOffset := token.stop } else refuse st 5 token
  else if st.state = 4 || st.state = 6 then
    if token.kind = 4 || token.kind = 10 then
      { st with
        state := 5, nextOffset := token.stop
        moduleStart := if st.state = 4 then token.start else st.moduleStart
        moduleStop := token.stop }
    else refuse st 6 token
  else if token.kind = 61 then { st with state := 6, nextOffset := token.stop }
  else if token.kind = 63 then { st with state := 8, nextOffset := token.stop }
  else refuse st 7 token

/-- The refusal of a source that is not UTF-8. -/
def refuseUtf8 (total errorOffset : Nat) : Header :=
  { seed with
    code := 8, start := errorOffset, stop := if errorOffset < total then errorOffset + 1 else total }

/-! ## One view -/

def step (text : View) (st : Header) : Header :=
  if st.ended then st else move (significant text st.nextOffset) st

def finish (text : View) (st : Header) : Header := if st.ended then st else step text st

def header (text : View) : Header :=
  let utf8 := validateUtf8 text
  if !utf8.valid then refuseUtf8 text.length utf8.errorOffset
  else
    (iterate (fun _ st =>
        let advanced := step text st
        if advanced.ended then .ret advanced else .next advanced) 0 text.length seed).after (finish text)

/-! ## Page compositions -/

def stepGlobal (pages : List View) (stride total : Nat) (st : Header) : Header :=
  if st.ended then st else move (significantGlobal pages stride total st.nextOffset) st

/-- Four batches of 1024 tokens. -/
def scanHeaderGlobal (pages : List View) (stride total : Nat) (initial : Header) : Header :=
  (iterate (fun _ outer =>
      (iterate (fun _ inner =>
          let advanced := stepGlobal pages stride total inner
          if advanced.ended then .ret advanced else .next advanced) 0 1024 outer).bind .next) 0 4 initial).after id

def finishGlobal (pages : List View) (stride total : Nat) (st : Header) : Header :=
  if st.ended then st
  else
    let stepped := stepGlobal pages stride total st
    if stepped.ended then stepped else { stepped with code := 9 }

def headerGlobal (pages : List View) (stride total : Nat) : Header :=
  let utf8 := validateUtf8Global pages stride total
  if !utf8.valid then refuseUtf8 total utf8.errorOffset
  else finishGlobal pages stride total (scanHeaderGlobal pages stride total seed)

/-! ## What a move does -/

/-- The state after an accepted token: the grammar of headers, as a machine over token kinds. -/
def next (state kind : Nat) : Option Nat :=
  if state = 0 then if kind = 10 then some 1 else none
  else if state = 1 then if kind = 6 then some 2 else none
  else if state = 2 then if kind = 63 then some 3 else none
  else if state = 3 then if kind = 11 then some 4 else none
  else if state = 4 || state = 6 then if kind = 4 || kind = 10 then some 5 else none
  else if kind = 61 then some 6
  else if kind = 63 then some 8
  else none

/-- The record after an accepted token. -/
def accept (st : Header) (state : Nat) (token : Token) : Header :=
  { st with
    state := state, nextOffset := token.stop
    versionStart := if st.state = 1 then token.start else st.versionStart
    versionStop := if st.state = 1 then token.stop else st.versionStop
    moduleStart := if st.state = 4 then token.start else st.moduleStart
    moduleStop := if st.state = 4 ∨ st.state = 6 then token.stop else st.moduleStop }

/-- **A move accepts or refuses**: it accepts exactly a clean token that the grammar has next. -/
theorem move_cases (token : Token) (st : Header) :
    (∃ state, token.diagnostic = 0 ∧ next st.state token.kind = some state ∧
        move token st = accept st state token) ∨
      ((token.diagnostic ≠ 0 ∨ next st.state token.kind = none) ∧
        ∃ code, code ≠ 0 ∧ code < 8 ∧ move token st = refuse st code token) := by
  fun_cases move token st with
  | case1 hd => exact .inr ⟨.inl hd, 1, by decide, by decide, rfl⟩
  | case2 hd h0 hk => exact .inl ⟨1, not_not.mp hd, by simp [next, h0, hk], by simp [accept, h0]⟩
  | case3 hd h0 hk => exact .inr ⟨.inr (by simp [next, h0, hk]), 2, by decide, by decide, rfl⟩
  | case4 hd _ h1 hk => exact .inl ⟨2, not_not.mp hd, by simp [next, h1, hk], by simp [accept, h1]⟩
  | case5 hd _ h1 hk => exact .inr ⟨.inr (by simp [next, h1, hk]), 3, by decide, by decide, rfl⟩
  | case6 hd _ _ h2 hk => exact .inl ⟨3, not_not.mp hd, by simp [next, h2, hk], by simp [accept, h2]⟩
  | case7 hd _ _ h2 hk => exact .inr ⟨.inr (by simp [next, h2, hk]), 4, by decide, by decide, rfl⟩
  | case8 hd _ _ _ h3 hk => exact .inl ⟨4, not_not.mp hd, by simp [next, h3, hk], by simp [accept, h3]⟩
  | case9 hd _ _ _ h3 hk => exact .inr ⟨.inr (by simp [next, h3, hk]), 5, by decide, by decide, rfl⟩
  | case10 hd _ _ _ _ h46 hk =>
      have hstate : st.state = 4 ∨ st.state = 6 := by simpa using h46
      have hid : token.kind = 4 ∨ token.kind = 10 := by simpa using hk
      refine .inl ⟨5, not_not.mp hd, ?_, ?_⟩
      · rcases hstate with h | h <;> rcases hid with h' | h' <;> simp [next, h, h']
      · rcases hstate with h | h <;> simp [accept, h]
  | case11 hd _ _ _ _ h46 hk =>
      have hstate : st.state = 4 ∨ st.state = 6 := by simpa using h46
      refine .inr ⟨.inr ?_, 6, by decide, by decide, rfl⟩
      rcases hstate with h | h <;> simp [next, h] <;> simpa using hk
  | case12 hd h0 h1 h2 h3 h46 hk =>
      have hstate : ¬ (st.state = 4 ∨ st.state = 6) := by simpa using h46
      exact .inl ⟨6, not_not.mp hd, by simp [next, h0, h1, h2, h3, not_or.mp hstate, hk],
        by simp [accept, h1, not_or.mp hstate]⟩
  | case13 hd h0 h1 h2 h3 h46 _ hk =>
      have hstate : ¬ (st.state = 4 ∨ st.state = 6) := by simpa using h46
      exact .inl ⟨8, not_not.mp hd, by simp [next, h0, h1, h2, h3, not_or.mp hstate, hk],
        by simp [accept, h1, not_or.mp hstate]⟩
  | case14 hd h0 h1 h2 h3 h46 hk hk' =>
      have hstate : ¬ (st.state = 4 ∨ st.state = 6) := by simpa using h46
      exact .inr ⟨.inr (by simp [next, h0, h1, h2, h3, not_or.mp hstate, hk, hk']), 7, by decide, by decide, rfl⟩

/-- No state has the end of the source next. -/
theorem next_eof (state : Nat) : next state 0 = none := by
  simp [next]

theorem refuse_ended {code : Nat} (h : code ≠ 0) (st : Header) (token : Token) :
    (refuse st code token).ended = true := by
  simp [refuse, Header.ended, h]

/-! ## The steps of a run -/

theorem step_of_ended {text : View} {st : Header} (h : st.ended = true) : step text st = st := if_pos h

theorem step_of_open {text : View} {st : Header} (h : st.ended = false) :
    step text st = move (significant text st.nextOffset) st := by
  simp [step, h]

theorem finish_eq (text : View) : finish text = step text := by
  funext st
  cases h : st.ended with
  | true => simp [finish, step_of_ended h, h]
  | false => simp [finish, h]

/-- **The run of `header`**: a step for each byte and one more. -/
theorem header_eq {text : View} (h : (validateUtf8 text).valid = true) :
    header text = (step text)^[text.length + 1] seed := by
  unfold header
  dsimp only
  rw [h, Bool.not_true, if_neg Bool.false_ne_true, finish_eq,
    iterate_exit (p := Header.ended) (f := step text) (fun _ => step_of_ended) (fun _ _ => rfl) 0 _ (.inr rfl),
    Function.iterate_succ_apply']
  cases hend : ((step text)^[text.length] seed).ended with
  | true => simp [step_of_ended hend]
  | false => simp

/-- A step of an open machine ends it or takes a byte. -/
theorem step_progress {text : View} {st : Header} (h : st.ended = false) :
    (step text st).ended = true ∨
      (st.nextOffset < (step text st).nextOffset ∧ (step text st).nextOffset ≤ text.length) := by
  have hfirst := significant_first text st.nextOffset
  rw [step_of_open h]
  rcases move_cases (significant text st.nextOffset) st with ⟨state, -, hnext, heq⟩ | ⟨-, code, hcode, -, heq⟩
  · right
    have hkind : (significant text st.nextOffset).kind ≠ 0 := by
      intro h0
      rw [h0, next_eof] at hnext
      cases hnext
    rw [heq]
    exact hfirst.progress hkind
  · left
    rw [heq]
    exact refuse_ended hcode st _

/-- **The fuel is enough**: a step for each byte and one more end every run. -/
theorem header_ended (text : View) : ((step text)^[text.length + 1] seed).ended = true := by
  rw [← settle_eq_self (p := Header.ended) (f := step text) (fun _ => step_of_ended)]
  refine settle_done (P := fun _ => True) (w := fun st => text.length - st.nextOffset + 1)
    (fun _ _ _ => trivial) (fun st _ hopen => ?_) (fun _ _ _ => Nat.succ_pos _) trivial (Nat.le_refl _)
  rcases step_progress hopen with hend | ⟨hlt, hle⟩
  · exact .inl hend
  · right
    omega

/-- The codes of the steps. -/
theorem steps_code (text : View) (n : Nat) : ((step text)^[n] seed).code < 8 := by
  induction n with
  | zero => exact Nat.zero_lt_succ 7
  | succ n ih =>
      rw [Function.iterate_succ_apply']
      generalize (step text)^[n] seed = st at ih
      cases hopen : st.ended with
      | true => rwa [step_of_ended hopen]
      | false =>
          rw [step_of_open hopen]
          rcases move_cases (significant text st.nextOffset) st with ⟨_, -, -, heq⟩ | ⟨-, code, -, hlt, heq⟩
          · rwa [heq]
          · rwa [heq]

theorem header_code_lt (text : View) : (header text).code < 9 := by
  cases hvalid : (validateUtf8 text).valid with
  | false => simp [header, hvalid, refuseUtf8]
  | true =>
      rw [header_eq hvalid]
      exact Nat.lt_succ_of_lt (steps_code text _)

/-! ## The global machine -/

section Global

variable (pages : List View) (stride total : Nat)

theorem stepGlobal_of_ended {st : Header} (h : st.ended = true) : stepGlobal pages stride total st = st := if_pos h

/-- A batch of any number of tokens. -/
theorem header_batch {n : Nat} (hn : n ≠ 0) (st : Header) :
    (iterate (fun _ inner =>
      let advanced := stepGlobal pages stride total inner
      if advanced.ended then Pass.ret advanced else .next advanced) 0 n st).bind .next =
    if ((stepGlobal pages stride total)^[n] st).ended then .ret ((stepGlobal pages stride total)^[n] st)
    else .next ((stepGlobal pages stride total)^[n] st) := by
  rw [iterate_exit (p := Header.ended) (f := stepGlobal pages stride total)
    (fun _ => stepGlobal_of_ended pages stride total) (fun _ _ => rfl) 0 n (.inl hn)]
  split <;> rfl

/-- Batches of any number of tokens. -/
theorem header_batches (m : Nat) {n : Nat} (hn : n ≠ 0) {st : Header} (hst : st.ended = false) :
    (iterate (fun _ outer =>
      (iterate (fun _ inner =>
        let advanced := stepGlobal pages stride total inner
        if advanced.ended then Pass.ret advanced else .next advanced) 0 n outer).bind .next) 0 m st).after id =
    (stepGlobal pages stride total)^[n * m] st := by
  rw [iterate_exit (p := Header.ended) (f := (stepGlobal pages stride total)^[n])
    (fun _ h => Function.iterate_fixed (stepGlobal_of_ended pages stride total h) n)
    (fun _ st => header_batch pages stride total hn st) 0 m (.inr hst), Function.iterate_mul]
  split <;> rfl

/-- **The run of `header_global`**: 4096 steps. -/
theorem scanHeaderGlobal_eq : scanHeaderGlobal pages stride total seed =
    (stepGlobal pages stride total)^[1024 * 4] seed := by
  unfold scanHeaderGlobal
  rw [header_batches pages stride total 4 (by decide) rfl]

/-- A scan that has ended is not continued. -/
theorem finishGlobal_of_ended {st : Header} (h : st.ended = true) : finishGlobal pages stride total st = st :=
  if_pos h

end Global

/-- **The two header machines agree** on every text of one view and every page composition of it: field by field,
    so out of fuel is never the answer. -/
theorem headerGlobal_eq_header {text : View} (c : Composition text) (h : text.length ≤ 1024) :
    headerGlobal c.pages c.stride text.length = header text ∧
      (headerGlobal c.pages c.stride text.length).code ≠ 9 := by
  have hstep : stepGlobal c.pages c.stride text.length = step text := by
    funext st
    rw [stepGlobal, step, significantGlobal_eq_significant c h]
  have heq : headerGlobal c.pages c.stride text.length = header text := by
    unfold headerGlobal
    rw [validateUtf8Global_eq, scanHeaderGlobal_eq, hstep]
    dsimp only
    cases hvalid : (validateUtf8 text).valid with
    | false => simp [header, hvalid]
    | true =>
        have hend := header_ended text
        have hscan : ((step text)^[1024 * 4] seed).ended = true := by
          obtain ⟨k, hk⟩ := Nat.exists_eq_add_of_le (show text.length + 1 ≤ 1024 * 4 by omega)
          rw [hk, Nat.add_comm, Function.iterate_add_apply, Function.iterate_fixed (step_of_ended hend)]
          exact hend
        rw [Bool.not_true, if_neg Bool.false_ne_true, finishGlobal_of_ended _ _ _ hscan, header_eq hvalid]
        exact settle_unique (p := Header.ended) (fun _ => step_of_ended) hscan hend
  refine ⟨heq, ?_⟩
  rw [heq]
  exact Nat.ne_of_lt (header_code_lt text)

/-- A header in pages of three bytes. -/
theorem headerGlobal_eq_header_mncs : headerGlobal [[109, 110, 99], [115]] 3 4 = header [109, 110, 99, 115] ∧
    (headerGlobal [[109, 110, 99], [115]] 3 4).code ≠ 9 :=
  headerGlobal_eq_header
    ({ pages := [[109, 110, 99], [115]], stride := 3, valid := by decide, content := rfl, small := by decide } :
      Composition [109, 110, 99, 115])
    (by decide)

/-! ## Strides -/

/-- **Nothing depends on the stride.** Two page compositions of one text give equal tokens, significant tokens,
    batches, verdicts, headers and locations, whether or not a budget runs out. -/
theorem stride_stable {text : View} (c c' : Composition text) :
    (∀ start, nextTokenGlobal c.pages c.stride text.length start =
        nextTokenGlobal c'.pages c'.stride text.length start) ∧
      (∀ start, significantGlobal c.pages c.stride text.length start =
        significantGlobal c'.pages c'.stride text.length start) ∧
      (∀ start, lexTokensFrom c.pages c.stride text.length start =
        lexTokensFrom c'.pages c'.stride text.length start) ∧
      validateUtf8Global c.pages c.stride text.length = validateUtf8Global c'.pages c'.stride text.length ∧
      headerGlobal c.pages c.stride text.length = headerGlobal c'.pages c'.stride text.length ∧
      (∀ offset, lineColGlobal c.pages c.stride text.length offset =
        lineColGlobal c'.pages c'.stride text.length offset) := by
  have hnext : nextTokenGlobal c.pages c.stride text.length = nextTokenGlobal c'.pages c'.stride text.length := by
    funext start
    rw [nextTokenGlobal_eq, nextTokenGlobal_eq]
  have hsig : significantGlobal c.pages c.stride text.length =
      significantGlobal c'.pages c'.stride text.length := by
    funext start
    rw [significantGlobal, significantGlobal, hnext]
  have hstep : stepGlobal c.pages c.stride text.length = stepGlobal c'.pages c'.stride text.length := by
    funext st
    rw [stepGlobal, stepGlobal, hsig]
  have hfinish : finishGlobal c.pages c.stride text.length = finishGlobal c'.pages c'.stride text.length := by
    funext st
    rw [finishGlobal, finishGlobal, hstep]
  refine ⟨congrFun hnext, congrFun hsig, fun start => ?_, ?_, ?_, fun offset => ?_⟩
  · rw [lexTokensFrom_eq, lexTokensFrom_eq, hnext]
  · rw [validateUtf8Global_eq, validateUtf8Global_eq]
  · rw [headerGlobal, headerGlobal, validateUtf8Global_eq, validateUtf8Global_eq, scanHeaderGlobal_eq,
      scanHeaderGlobal_eq, hstep, hfinish]
  · rw [c.lineColGlobal_eq, c'.lineColGlobal_eq]

end MncsCompiler.Parser
