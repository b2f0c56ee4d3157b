import MncsCompiler.Lexer.Significant

/-!
# `Lexer.Batches` — resumable token batches

`lex_tokens_from` collects up to 1024 tokens in reverse, in 64 blocks of 16 steps, and turns them round with one
of two bounded loops. Its tokens are the first 1024 of the token sequence at most (`tokensUpTo`), so batches taken
one after the other spell the whole sequence.
-/

namespace MncsCompiler

open BoundedLoop

/-- A token no batch goes past: EOF, an invalid cursor, or an overlong significant token. -/
def finalToken (t : Token) : Bool := t.kind == 0 || t.diagnostic == 5

/-- The clean end of the source. -/
def cleanEof (t : Token) : Bool := t.kind == 0 && t.diagnostic == 0

/-- The token sequence from a start, up to its final token and `n` tokens at most. -/
def tokensUpTo (next : Nat → Token) : Nat → Nat → List Token
  | 0, _ => []
  | n + 1, start =>
      if finalToken (next start) then [next start] else next start :: tokensUpTo next n (next start).stop

theorem length_tokensUpTo_le (next : Nat → Token) (n start : Nat) : (tokensUpTo next n start).length ≤ n := by
  induction n generalizing start with
  | zero => exact Nat.le_refl _
  | succ n ih =>
      unfold tokensUpTo
      split
      · simp
      · simpa using ih _

/-! ## The reversing loops -/

theorem reverseTokenStep_iterate (k : Nat) (l acc : List Token) :
    reverseTokenStep^[k] { rest := l, acc := acc } = { rest := l.drop k, acc := (l.take k).reverse ++ acc } := by
  induction k generalizing l acc with
  | zero => rfl
  | succ k ih =>
      rw [Function.iterate_succ_apply]
      cases l with
      | nil => rw [show reverseTokenStep { rest := [], acc := acc } = { rest := [], acc := acc } from rfl, ih]; simp
      | cons h t =>
          rw [show reverseTokenStep { rest := h :: t, acc := acc } = { rest := t, acc := h :: acc } from rfl, ih]
          simp

/-- The counted loop stops after `count` steps. -/
theorem reverse_loop (count i n : Nat) (st : TokenReverse) :
    (iterate (fun i st => if i ≥ count then .ret st.acc else .next (reverseTokenStep st)) i n st).after
      TokenReverse.acc = (reverseTokenStep^[min n (count - i)] st).acc := by
  induction n generalizing i st with
  | zero => simp
  | succ n ih =>
      rw [iterate_succ]
      by_cases hi : i ≥ count
      · simp [hi, Nat.sub_eq_zero_of_le hi]
      · rw [if_neg hi, Pass.bind_next, ih, show min (n + 1) (count - i) = min n (count - (i + 1)) + 1 by omega,
          Function.iterate_succ_apply]

/-- **Both loops reverse** a list of `count` tokens. -/
theorem reverseTokens_eq (tokens : List Token) (h : tokens.length ≤ 1024) :
    reverseTokens tokens tokens.length = tokens.reverse := by
  unfold reverseTokens
  split
  · rename_i hfull
    rw [reverseTokensFull, ← hfull, reverseTokenStep_iterate]
    simp
  · rw [reverse_loop, Nat.sub_zero, Nat.min_eq_right h, reverseTokenStep_iterate]
    simp

/-! ## The collecting loop -/

section Collect

variable (pages : List View) (stride total : Nat)

theorem batchStep_of_done {st : BatchState} (h : st.done = true) : batchStep pages stride total st = st := by
  simp [batchStep, h]

theorem batchStep_of_open {st : BatchState} (h : st.done = false) : batchStep pages stride total st =
    { cursor := (nextTokenGlobal pages stride total st.cursor).stop
      tokens := nextTokenGlobal pages stride total st.cursor :: st.tokens
      count := st.count + 1
      done := finalToken (nextTokenGlobal pages stride total st.cursor)
      eof := cleanEof (nextTokenGlobal pages stride total st.cursor) } := by
  unfold batchStep finalToken cleanEof
  simp only [h, Bool.false_eq_true, if_false]
  generalize nextTokenGlobal pages stride total st.cursor = t
  by_cases h0 : t.kind = 0
  · simp [h0]
  · by_cases h5 : t.diagnostic = 5 <;> simp [h0, h5]

/-- **Run lemma.** What `n` steps have collected. -/
theorem batchStep_iterate (n : Nat) {st : BatchState} (h : st.done = false) (he : st.eof = false) :
    (batchStep pages stride total)^[n] st =
      { cursor := ((tokensUpTo (nextTokenGlobal pages stride total) n st.cursor).getLast?.map Token.stop).getD st.cursor
        tokens := (tokensUpTo (nextTokenGlobal pages stride total) n st.cursor).reverse ++ st.tokens
        count := st.count + (tokensUpTo (nextTokenGlobal pages stride total) n st.cursor).length
        done := ((tokensUpTo (nextTokenGlobal pages stride total) n st.cursor).getLast?.map finalToken).getD false
        eof := ((tokensUpTo (nextTokenGlobal pages stride total) n st.cursor).getLast?.map cleanEof).getD false } := by
  induction n generalizing st with
  | zero =>
      cases st
      simp_all [tokensUpTo]
  | succ n ih =>
      rw [Function.iterate_succ_apply, batchStep_of_open pages stride total h]
      cases hfin : finalToken (nextTokenGlobal pages stride total st.cursor) with
      | true =>
          rw [Function.iterate_fixed (batchStep_of_done pages stride total rfl)]
          simp [tokensUpTo, hfin]
      | false =>
          have heof : cleanEof (nextTokenGlobal pages stride total st.cursor) = false := by
            simp only [finalToken, Bool.or_eq_false_iff] at hfin
            simp [cleanEof, hfin.1]
          rw [ih rfl heof]
          simp only [tokensUpTo, hfin, Bool.false_eq_true, if_false, List.reverse_cons, List.append_assoc,
            List.singleton_append, List.length_cons]
          cases hrest : tokensUpTo (nextTokenGlobal pages stride total) n
            (nextTokenGlobal pages stride total st.cursor).stop with
          | nil => simp [hfin, heof]
          | cons a as =>
              rw [List.getLast?_cons_cons, List.getLast?_cons]
              simp only [Option.map_some, Option.getD_some, BatchState.mk.injEq, true_and, and_true]
              omega

/-- A loop over blocks `g` that tests for completion between blocks only. -/
theorem block_loop {g : BatchState → BatchState} (hfix : ∀ st : BatchState, st.done = true → g st = st)
    (result : BatchState → BatchResult) (n : Nat) (st : BatchState) (h : st.done = false) :
    (iterate (fun _ st => if (g st).done then .ret (result (g st)) else .next (g st)) 0 n st).after result =
      result (g^[n] st) := by
  have hsettle : settle BatchState.done g = g := by
    funext st
    cases hd : st.done with
    | true => rw [settle_of_fin _ hd, hfix st hd]
    | false => rw [settle_of_not_fin _ hd]
  rw [iterate_settle (p := BatchState.done) (f := g) (k := result) (fun _ s => ?_) 0 n (.inr h), hsettle]
  · split <;> rfl
  · cases hd : s.done with
    | true => simp [hfix s hd, hd]
    | false => simp

/-- A batch is the first 1024 tokens of the sequence at most. -/
theorem lexTokensFrom_eq (start : Nat) : lexTokensFrom pages stride total start =
    { tokens := tokensUpTo (nextTokenGlobal pages stride total) 1024 start
      next := ((tokensUpTo (nextTokenGlobal pages stride total) 1024 start).getLast?.map Token.stop).getD start
      eof := ((tokensUpTo (nextTokenGlobal pages stride total) 1024 start).getLast?.map cleanEof).getD false
      count := (tokensUpTo (nextTokenGlobal pages stride total) 1024 start).length } := by
  have hblocks := block_loop (g := (batchStep pages stride total)^[16])
    (fun st hd => Function.iterate_fixed (batchStep_of_done pages stride total hd) 16)
    (fun st => { tokens := reverseTokens st.tokens st.count, next := st.cursor, eof := st.eof, count := st.count })
    64 { cursor := start, tokens := [], count := 0, done := false, eof := false } rfl
  have hsteps : ((batchStep pages stride total)^[16])^[64] = (batchStep pages stride total)^[1024] :=
    (Function.iterate_mul (batchStep pages stride total) 16 64).symm
  rw [hsteps, batchStep_iterate pages stride total 1024 rfl rfl] at hblocks
  have hle := length_tokensUpTo_le (nextTokenGlobal pages stride total) 1024 start
  have hrev := reverseTokens_eq (tokensUpTo (nextTokenGlobal pages stride total) 1024 start).reverse
    (by simpa using hle)
  simp only [List.length_reverse, List.reverse_reverse] at hrev
  simp only [List.append_nil, Nat.zero_add, hrev] at hblocks
  exact hblocks

end Collect

/-! ## Whole sequences -/

/-- The tokens from a start on, each taken at the end of the one before, up to the final token. -/
inductive TokenRun (next : Nat → Token) : Nat → List Token → Prop
  | last {start : Nat} (h : finalToken (next start) = true) : TokenRun next start [next start]
  | more {start : Nat} {ts : List Token} (h : finalToken (next start) = false)
      (hrest : TokenRun next (next start).stop ts) : TokenRun next start (next start :: ts)

/-- The concatenated batches from a start on, each taken at the cursor the one before left. -/
inductive BatchRun (batch : Nat → BatchResult) : Nat → List Token → Prop
  | last {start : Nat} (h : (batch start).tokens.getLast?.any finalToken = true) :
      BatchRun batch start (batch start).tokens
  | more {start : Nat} {ts : List Token} (h : (batch start).tokens.getLast?.any finalToken = false)
      (hrest : BatchRun batch (batch start).next ts) : BatchRun batch start ((batch start).tokens ++ ts)

section Runs

variable {next : Nat → Token}

theorem TokenRun.unique {start : Nat} {ts us : List Token} (h : TokenRun next start ts)
    (h' : TokenRun next start us) : ts = us := by
  induction h generalizing us with
  | last h =>
      cases h' with
      | last _ => rfl
      | more hu _ => rw [h] at hu; cases hu
  | more h _ ih =>
      cases h' with
      | last hu => rw [h] at hu; cases hu
      | more _ hrest => rw [ih hrest]

variable (next) in
theorem tokensUpTo_ne_nil (n start : Nat) : tokensUpTo next (n + 1) start ≠ [] := by
  unfold tokensUpTo
  split <;> simp

/-- One more token in front: the last one is the same. -/
theorem tokensUpTo_more {n start : Nat} (h : finalToken (next start) = false) :
    tokensUpTo next (n + 1 + 1) start = next start :: tokensUpTo next (n + 1) (next start).stop ∧
      (tokensUpTo next (n + 1 + 1) start).getLast? = (tokensUpTo next (n + 1) (next start).stop).getLast? ∧
      ((tokensUpTo next (n + 1 + 1) start).getLast?.map Token.stop).getD start =
        ((tokensUpTo next (n + 1) (next start).stop).getLast?.map Token.stop).getD (next start).stop := by
  have hcons : tokensUpTo next (n + 1 + 1) start =
      next start :: tokensUpTo next (n + 1) (next start).stop := by
    rw [tokensUpTo, h, if_neg Bool.false_ne_true]
  obtain ⟨a, as, hne⟩ := List.exists_cons_of_ne_nil (tokensUpTo_ne_nil next n (next start).stop)
  have hlast : (tokensUpTo next (n + 1 + 1) start).getLast? =
      (tokensUpTo next (n + 1) (next start).stop).getLast? := by
    rw [hcons, hne, List.getLast?_cons_cons]
  refine ⟨hcons, hlast, ?_⟩
  rw [hlast, hne, List.getLast?_cons]
  rfl

/-- A run starts with the tokens of a batch: all of them if the batch ends it, and otherwise the run goes on at
    the end of the last one. -/
theorem TokenRun.split (n start : Nat) {ts : List Token} (h : TokenRun next start ts) :
    ((tokensUpTo next (n + 1) start).getLast?.any finalToken = true ∧ ts = tokensUpTo next (n + 1) start) ∨
      ((tokensUpTo next (n + 1) start).getLast?.any finalToken = false ∧
        ∃ us, ts = tokensUpTo next (n + 1) start ++ us ∧
          TokenRun next (((tokensUpTo next (n + 1) start).getLast?.map Token.stop).getD start) us) := by
  induction n generalizing start ts with
  | zero =>
      cases h with
      | last h => exact .inl (by simp [tokensUpTo, h])
      | @more _ us h hrest =>
          refine .inr ⟨by simp [tokensUpTo, h], us, by simp [tokensUpTo, h], ?_⟩
          simpa [tokensUpTo, h] using hrest
  | succ n ih =>
      cases h with
      | last h => exact .inl (by simp [tokensUpTo, h])
      | @more _ us h hrest =>
          obtain ⟨hcons, hlast, hstop⟩ := tokensUpTo_more (n := n) h
          rw [hstop, hlast, hcons]
          rcases ih (next start).stop hrest with ⟨hf, rfl⟩ | ⟨hf, vs, rfl, hvs⟩
          · exact .inl ⟨hf, rfl⟩
          · exact .inr ⟨hf, vs, rfl, hvs⟩

/-- A batch that ends with a final token is a run. -/
theorem tokensUpTo_final {n start : Nat} (h : (tokensUpTo next n start).getLast?.any finalToken = true) :
    TokenRun next start (tokensUpTo next n start) := by
  induction n generalizing start with
  | zero => simp [tokensUpTo] at h
  | succ n ih =>
      cases hfin : finalToken (next start) with
      | true =>
          have hone : tokensUpTo next (n + 1) start = [next start] := by rw [tokensUpTo, hfin, if_pos rfl]
          rw [hone]
          exact .last hfin
      | false =>
          cases n with
          | zero => simp [tokensUpTo, hfin] at h
          | succ n =>
              obtain ⟨hcons, hlast, -⟩ := tokensUpTo_more (n := n) hfin
              rw [hlast] at h
              rw [hcons]
              exact .more hfin (ih h)

/-- Tokens before a run, from a batch that does not end it. -/
theorem TokenRun.prepend (n start : Nat) {us : List Token}
    (hf : (tokensUpTo next (n + 1) start).getLast?.any finalToken = false)
    (h : TokenRun next (((tokensUpTo next (n + 1) start).getLast?.map Token.stop).getD start) us) :
    TokenRun next start (tokensUpTo next (n + 1) start ++ us) := by
  induction n generalizing start with
  | zero =>
      cases hfin : finalToken (next start) with
      | true => simp [tokensUpTo, hfin] at hf
      | false =>
          simp only [tokensUpTo, hfin, Bool.false_eq_true, if_false, List.getLast?_singleton, Option.map_some,
            Option.getD_some] at h
          simpa [tokensUpTo, hfin] using .more hfin h
  | succ n ih =>
      cases hfin : finalToken (next start) with
      | true => simp [tokensUpTo, hfin] at hf
      | false =>
          obtain ⟨hcons, hlast, hstop⟩ := tokensUpTo_more (n := n) hfin
          rw [hlast] at hf
          rw [hstop] at h
          rw [hcons]
          exact .more hfin (ih (next start).stop hf h)

end Runs

/-- **Batches spell the run.** -/
theorem batchRun_iff {next : Nat → Token} {batch : Nat → BatchResult}
    (htokens : ∀ s, (batch s).tokens = tokensUpTo next 1024 s)
    (hresume : ∀ s, (batch s).next = ((tokensUpTo next 1024 s).getLast?.map Token.stop).getD s)
    (start : Nat) (ts : List Token) : BatchRun batch start ts ↔ TokenRun next start ts := by
  constructor
  · intro h
    induction h with
    | @last start h =>
        rw [htokens] at h ⊢
        exact tokensUpTo_final h
    | @more start ts h _ ih =>
        rw [htokens] at h ⊢
        rw [hresume] at ih
        exact TokenRun.prepend 1023 start h ih
  · -- a batch is not empty, so what is left of the run is shorter
    intro h
    induction hlen : ts.length using Nat.strongRecOn generalizing start ts with
    | _ len ih =>
        rcases TokenRun.split 1023 start h with ⟨hf, rfl⟩ | ⟨hf, us, rfl, hus⟩
        · rw [← htokens] at hf ⊢
          exact .last hf
        · have hpos := List.length_pos_iff.mpr (tokensUpTo_ne_nil next 1023 start)
          have hrest := ih us.length (by rw [← hlen, List.length_append]; omega) _ us hus rfl
          rw [← hresume] at hrest
          rw [← htokens] at hf ⊢
          exact .more hf hrest

/-! ## Batches of a composition -/

section Composition

variable {text : View}

/-- A token lies past its start, inside the text. -/
theorem windowToken_ordered {start : Nat} (h : start ≤ text.length) :
    start ≤ (windowToken text start).start ∧ (windowToken text start).start ≤ (windowToken text start).stop ∧
      (windowToken text start).stop ≤ text.length := by
  rcases Nat.lt_or_eq_of_le h with hlt | rfl
  · rcases windowToken_eq_or_cut hlt with heq | ⟨c, st, hcut, heq⟩
    · have hlex := nextToken_lexed hlt
      have h1 := hlex.lt
      have h2 := hlex.le
      rw [heq]
      rcases hlex.begins with hb | ⟨-, hb, hstop, -⟩ <;> omega
    · have h1 := hcut.inv.lt
      have h2 := hcut.inv.le
      rw [heq, (cutToken_span start c st).1, (cutToken_span start c st).2]
      omega
  · simp [windowToken, eofToken]

theorem tokensUpTo_ge {n start : Nat} (h : start ≤ text.length) :
    ∀ t ∈ tokensUpTo (windowToken text) n start, start ≤ t.start ∧ start ≤ t.stop := by
  induction n generalizing start with
  | zero => simp [tokensUpTo]
  | succ n ih =>
      obtain ⟨h1, h2, h3⟩ := windowToken_ordered h
      intro t ht
      unfold tokensUpTo at ht
      split at ht
      · obtain rfl := List.mem_singleton.mp ht
        omega
      · rcases List.mem_cons.mp ht with rfl | ht
        · omega
        · have := ih h3 t ht
          omega

/-- Spans follow one another. -/
theorem tokensUpTo_pairwise {n start : Nat} (h : start ≤ text.length) :
    (tokensUpTo (windowToken text) n start).Pairwise (fun a b => a.stop ≤ b.start) := by
  induction n generalizing start with
  | zero => exact .nil
  | succ n ih =>
      have h3 := (windowToken_ordered h).2.2
      unfold tokensUpTo
      split
      · exact List.pairwise_singleton _ _
      · exact .cons (fun t ht => (tokensUpTo_ge h3 t ht).1) (ih h3)

theorem tokensUpTo_isChain (next : Nat → Token) (n start : Nat) :
    (tokensUpTo next n start).IsChain (fun a b => b = next a.stop) := by
  induction n generalizing start with
  | zero => exact .nil
  | succ n ih =>
      unfold tokensUpTo
      split
      · exact .singleton _
      · cases n with
        | zero => exact .singleton _
        | succ n =>
            have hrest := ih (next start).stop
            unfold tokensUpTo at hrest ⊢
            split
            · exact .cons_cons rfl (.singleton _)
            · rename_i hfin
              rw [if_neg hfin] at hrest
              exact .cons_cons rfl hrest

/-- What one batch promises. -/
structure BatchOk (next : Nat → Token) (start : Nat) (b : BatchResult) : Prop where
  first : b.tokens.head? = some (next start)
  follow : b.tokens.IsChain (fun s t => t = next s.stop)
  ordered : b.tokens.Pairwise (fun s t => s.stop ≤ t.start)
  count : b.count = b.tokens.length
  bounded : b.count ≤ 1024
  resume : b.tokens.getLast?.map Token.stop = some b.next
  eof : b.eof = true ↔ ∃ t, b.tokens.getLast? = some t ∧ t.kind = 0 ∧ t.diagnostic = 0
  progress : (next start).kind ≠ 0 → start < b.next

/-- Every run comes to an end. -/
theorem tokenRun_exists (text : View) (start : Nat) : ∃ ts, TokenRun (windowToken text) start ts := by
  induction hn : text.length - start using Nat.strongRecOn generalizing start with
  | _ n ih =>
      cases hfin : finalToken (windowToken text start) with
      | true => exact ⟨_, .last hfin⟩
      | false =>
          have hlt : start < text.length := by
            by_contra hge
            have hk := (nextToken_of_ge (Nat.not_lt.mp hge)).1
            rw [← windowToken_of_ge (Nat.not_lt.mp hge)] at hk
            simp [finalToken, hk] at hfin
          have hprog := windowToken_progress hlt
          obtain ⟨ts, hts⟩ := ih (text.length - (windowToken text start).stop) (by omega) _ rfl
          exact ⟨_, .more hfin hts⟩

/-- The first 1024 tokens from a start, as a batch. -/
theorem batchOk_tokensUpTo (text : View) (start : Nat) : BatchOk (windowToken text) start
    { tokens := tokensUpTo (windowToken text) 1024 start
      next := ((tokensUpTo (windowToken text) 1024 start).getLast?.map Token.stop).getD start
      eof := ((tokensUpTo (windowToken text) 1024 start).getLast?.map cleanEof).getD false
      count := (tokensUpTo (windowToken text) 1024 start).length } := by
  have hfirst : (tokensUpTo (windowToken text) 1024 start).head? = some (windowToken text start) := by
    rw [tokensUpTo]
    split <;> rfl
  obtain ⟨t, hlast⟩ : ∃ t, (tokensUpTo (windowToken text) 1024 start).getLast? = some t := by
    obtain ⟨a, as, h⟩ := List.exists_cons_of_ne_nil (tokensUpTo_ne_nil (windowToken text) 1023 start)
    exact ⟨_, by rw [h, List.getLast?_cons]⟩
  refine ⟨hfirst, tokensUpTo_isChain _ _ _, ?_, rfl, length_tokensUpTo_le _ _ _, by simp [hlast], ?_, fun hk => ?_⟩
  · rcases Nat.lt_or_ge text.length start with hgt | hle
    · have hfin : finalToken (windowToken text start) = true := by simp [finalToken, windowToken, hgt, invalidCursor]
      rw [tokensUpTo, hfin, if_pos rfl]
      exact List.pairwise_singleton _ _
    · exact tokensUpTo_pairwise hle
  · simp [hlast, cleanEof]
  · have hlt : start < text.length := by
      by_contra hge
      rw [windowToken_of_ge (Nat.not_lt.mp hge)] at hk
      exact hk (nextToken_of_ge (Nat.not_lt.mp hge)).1
    obtain ⟨hprog, hin, -⟩ := windowToken_progress hlt
    simp only [hlast, Option.map_some, Option.getD_some]
    rw [tokensUpTo] at hlast
    split at hlast
    · obtain rfl := Option.some.inj hlast
      exact hprog
    · rw [List.getLast?_cons] at hlast
      obtain rfl := Option.some.inj hlast
      cases hrest : (tokensUpTo (windowToken text) 1023 (windowToken text start).stop).getLast? with
      | none => exact hprog
      | some u =>
          have := (tokensUpTo_ge hin u (List.mem_of_getLast? hrest)).2
          exact Nat.lt_of_lt_of_le hprog this

end Composition

/-- **Resumable batches.** Batches taken one after the other spell the token sequence, the sequence always comes
    to an end, and every batch is ordered, counted, bounded and resumable. -/
theorem lexTokensFrom_resumable {text : View} (c : Composition text) (start : Nat) :
    (∃ ts, TokenRun (nextTokenGlobal c.pages c.stride text.length) start ts) ∧
      (∀ ts, BatchRun (lexTokensFrom c.pages c.stride text.length) start ts ↔
        TokenRun (nextTokenGlobal c.pages c.stride text.length) start ts) ∧
      BatchOk (nextTokenGlobal c.pages c.stride text.length) start
        (lexTokensFrom c.pages c.stride text.length start) := by
  have hnext : nextTokenGlobal c.pages c.stride text.length = windowToken text := funext (nextTokenGlobal_eq c)
  have hbatch := lexTokensFrom_eq c.pages c.stride text.length
  rw [hnext] at hbatch ⊢
  refine ⟨tokenRun_exists text start, batchRun_iff (fun s => ?_) (fun s => ?_) start, ?_⟩
  · rw [hbatch]
  · rw [hbatch]
  · rw [hbatch]
    exact batchOk_tokensUpTo text start

end MncsCompiler
