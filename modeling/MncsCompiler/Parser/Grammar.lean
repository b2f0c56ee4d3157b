import MncsCompiler.Parser.Header

/-!
# `Parser.Grammar` — the headers that are accepted

A header is `mncs` VERSION `;` `module` ID (`.` ID)* `;`, as a list of clean significant tokens. `Reads` is the
machine on token lists; it accepts exactly the headers (`HeaderTokens.reads`, `Reads.headerTokens`), and every list
it has read so far is the beginning of a header (`Reads.continues`). A run of `header` reads the significant tokens
of the text until it accepts or meets the first token that continues no header.
-/

namespace MncsCompiler.Parser

/-! ## The grammar -/

/-- An identifier, or the word `mncs` in its place. -/
def isId (token : Token) : Prop := token.kind = 4 ∨ token.kind = 10

/-- ID (`.` ID)*, with its first and its last segment. -/
inductive Dotted : List Token → Token → Token → Prop
  | one {t : Token} (hid : isId t) : Dotted [t] t t
  | more {t dot first last : Token} {ts : List Token} (hid : isId t) (hdot : dot.kind = 61)
      (hrest : Dotted ts first last) : Dotted (t :: dot :: ts) t last

/-- A complete header: its tokens, the version, the first and the last segment of the name, and the semicolon that
    closes it. -/
inductive HeaderTokens : List Token → Token → Token → Token → Token → Prop
  | mk {mncs version semicolon module close first last : Token} {name : List Token}
      (hmncs : mncs.kind = 10) (hversion : version.kind = 6) (hsemicolon : semicolon.kind = 63)
      (hmodule : module.kind = 11) (hname : Dotted name first last) (hclose : close.kind = 63)
      (hclean : ∀ t ∈ mncs :: version :: semicolon :: module :: (name ++ [close]), t.diagnostic = 0) :
      HeaderTokens (mncs :: version :: semicolon :: module :: (name ++ [close])) version first last close

/-- The beginning of a header. -/
def Continues (ts : List Token) : Prop :=
  ∃ rest version first last close, HeaderTokens (ts ++ rest) version first last close

/-- The significant tokens of the text from one offset to another. -/
inductive Significants (text : View) : Nat → List Token → Nat → Prop
  | nil (p : Nat) : Significants text p [] p
  | cons {p q : Nat} {t : Token} {ts : List Token} (h : FirstSignificant text p t)
      (hrest : Significants text t.stop ts q) : Significants text p (t :: ts) q

theorem Significants.snoc {text : View} {p q : Nat} {ts : List Token} (h : Significants text p ts q) {t : Token}
    (ht : FirstSignificant text q t) : Significants text p (ts ++ [t]) t.stop := by
  induction h with
  | nil p => exact .cons ht (.nil _)
  | cons h _ ih => exact .cons h (ih ht)

/-- The first token that continues no header. -/
def FirstOffending (text : View) (t : Token) : Prop :=
  ∃ ts p, Significants text 0 ts p ∧ Continues ts ∧ FirstSignificant text p t ∧ ¬ Continues (ts ++ [t])

/-! ## The machine on token lists -/

/-- The machine accepts the tokens of a list in turn. -/
inductive Reads : Header → List Token → Header → Prop
  | nil (st : Header) : Reads st [] st
  | cons {st st' : Header} {t : Token} {ts : List Token} {s : Nat} (hopen : st.ended = false)
      (hclean : t.diagnostic = 0) (hnext : next st.state t.kind = some s)
      (hrest : Reads (accept st s t) ts st') : Reads st (t :: ts) st'

namespace Reads

theorem append {st st' st'' : Header} {ts us : List Token} (h : Reads st ts st') (h' : Reads st' us st'') :
    Reads st (ts ++ us) st'' := by
  induction h with
  | nil _ => exact h'
  | cons hopen hclean hnext _ ih => exact .cons hopen hclean hnext (ih h')

theorem split {st st'' : Header} {ts us : List Token} (h : Reads st (ts ++ us) st'') :
    ∃ st', Reads st ts st' ∧ Reads st' us st'' := by
  induction ts generalizing st with
  | nil => exact ⟨st, .nil st, h⟩
  | cons t ts ih =>
      cases h with
      | cons hopen hclean hnext hrest =>
          obtain ⟨st', hts, hus⟩ := ih hrest
          exact ⟨st', .cons hopen hclean hnext hts, hus⟩

theorem unique {st st' st'' : Header} {ts : List Token} (h : Reads st ts st') (h' : Reads st ts st'') :
    st' = st'' := by
  induction h with
  | nil _ => cases h'; rfl
  | cons _ _ hnext _ ih =>
      cases h' with
      | cons _ _ hnext' hrest =>
          rw [hnext] at hnext'
          cases hnext'
          exact ih hrest

theorem code {st st' : Header} {ts : List Token} (h : Reads st ts st') : st'.code = st.code := by
  induction h with
  | nil _ => rfl
  | cons _ _ _ _ ih => exact ih

/-- An ended machine reads nothing. -/
theorem of_ended {st st' : Header} {ts : List Token} (h : Reads st ts st') (hend : st.ended = true) : ts = [] := by
  cases h with
  | nil _ => rfl
  | cons hopen _ _ _ => rw [hend] at hopen; cases hopen

/-- Steps over the significant tokens read them. -/
theorem steps {text : View} {st st' : Header} {ts : List Token} (h : Reads st ts st') {q : Nat}
    (hsig : Significants text st.nextOffset ts q) : (step text)^[ts.length] st = st' := by
  induction h with
  | nil _ => rfl
  | @cons st st' t ts state hopen hclean hnext _ ih =>
      cases hsig with
      | cons hfirst hrest =>
          have ht : significant text st.nextOffset = t := (significant_first text _).unique hfirst
          have hstep : step text st = accept st state t := by
            rw [step_of_open hopen, ht]
            rcases move_cases t st with ⟨state', -, hnext', heq⟩ | ⟨hbad, -⟩
            · rw [hnext] at hnext'
              cases hnext'
              exact heq
            · simp [hclean, hnext] at hbad
          rw [List.length_cons, Function.iterate_succ_apply, hstep]
          exact ih hrest

end Reads

/-! ## Headers are read -/

/-- The clean tokens of a dotted name are read, from either state that has an identifier next. -/
theorem Dotted.reads {name : List Token} {first last : Token} (h : Dotted name first last)
    (hclean : ∀ t ∈ name, t.diagnostic = 0) {st : Header} (hcode : st.code = 0) (hst : st.state = 4 ∨ st.state = 6) :
    Reads st name
      { st with
        state := 5, nextOffset := last.stop
        moduleStart := if st.state = 4 then first.start else st.moduleStart
        moduleStop := last.stop } := by
  have hid_next : ∀ {st : Header} {t : Token}, st.state = 4 ∨ st.state = 6 → isId t → next st.state t.kind = some 5 := by
    intro st t hst hid
    rcases hst with h | h <;> rcases hid with h' | h' <;> simp [next, h, h']
  have hid_accept : ∀ {st : Header} (t : Token), st.state = 4 ∨ st.state = 6 → accept st 5 t =
      { st with
        state := 5, nextOffset := t.stop
        moduleStart := if st.state = 4 then t.start else st.moduleStart
        moduleStop := t.stop } := by
    intro st t hst
    rcases hst with h | h <;> simp [accept, h]
  have hopen : ∀ {st : Header}, st.code = 0 → st.state = 4 ∨ st.state = 6 → st.ended = false := by
    intro st hcode hst
    rcases hst with h | h <;> simp [Header.ended, hcode, h]
  induction h generalizing st with
  | @one t hid =>
      rw [← hid_accept t hst]
      exact .cons (hopen hcode hst) (hclean t (by simp)) (hid_next hst hid) (.nil _)
  | @more t dot first last ts hid hdot hrest ih =>
      refine .cons (hopen hcode hst) (hclean t (by simp)) (hid_next hst hid) ?_
      rw [hid_accept t hst]
      refine .cons (s := 6) (by simp [Header.ended, hcode]) (hclean dot (by simp)) (by simp [next, hdot]) ?_
      have htail := fun st' => @ih (fun u hu => hclean u (by simp [hu])) st'
      simpa [accept] using htail (accept { st with
        state := 5, nextOffset := t.stop
        moduleStart := if st.state = 4 then t.start else st.moduleStart
        moduleStop := t.stop } 6 dot) hcode (.inr rfl)

/-- **A header is accepted**, with the spans of its parts. -/
theorem HeaderTokens.reads {ts : List Token} {version first last close : Token}
    (h : HeaderTokens ts version first last close) :
    Reads seed ts
      { code := 0, start := 0, stop := 0, versionStart := version.start, versionStop := version.stop,
        moduleStart := first.start, moduleStop := last.stop, nextOffset := close.stop, state := 8 } := by
  cases h with
  | @mk mncs version semicolon module close first last name hmncs hversion hsemicolon hmodule hname hclose hclean =>
      refine .cons (s := 1) rfl (hclean mncs (by simp)) (by simp [next, seed, hmncs]) ?_
      refine .cons (s := 2) rfl (hclean version (by simp)) (by simp [next, accept, hversion]) ?_
      refine .cons (s := 3) rfl (hclean semicolon (by simp)) (by simp [next, accept, hsemicolon]) ?_
      refine .cons (s := 4) rfl (hclean module (by simp)) (by simp [next, accept, hmodule]) ?_
      refine (hname.reads (fun t ht => hclean t (by simp [ht])) rfl (.inl rfl)).append ?_
      refine .cons (s := 8) rfl (hclean close (by simp)) (by simp [next, hclose]) ?_
      exact .nil _

/-! ## What is read is a header -/

/-- An identifier is next in two states. -/
theorem next_id {state state' kind : Nat} (h : next state kind = some state') (hst : state = 4 ∨ state = 6) :
    state' = 5 ∧ (kind = 4 ∨ kind = 10) := by
  by_cases hid : kind = 4 ∨ kind = 10
  · refine ⟨?_, hid⟩
    rcases hst with rfl | rfl <;> rcases hid with rfl | rfl <;> simpa [next, eq_comm] using h
  · obtain ⟨h4, h10⟩ := not_or.mp hid
    rcases hst with rfl | rfl <;> simp [next, h4, h10] at h

/-- After a segment: segments and the closing semicolon. -/
theorem Reads.dotted {st st' : Header} {ts : List Token} (h : Reads st ts st') (hst : st.state = 5)
    (hend : st'.state = 8) {t : Token} (ht : isId t) :
    ∃ name last close, t :: ts = name ++ [close] ∧ Dotted name t last ∧ close.kind = 63 := by
  -- two tokens a time: a dot and a segment
  induction hlen : ts.length using Nat.strongRecOn generalizing st ts t with
  | _ n ih =>
      cases h with
      | nil _ => omega
      | @cons _ _ u us state hopen hclean hnext hrest =>
          have hcases : (u.kind = 61 ∧ state = 6) ∨ (u.kind = 63 ∧ state = 8) := by
            by_cases hdot : u.kind = 61
            · left
              simp only [next, hst, hdot] at hnext
              exact ⟨hdot, by simpa using hnext.symm⟩
            · by_cases hsemi : u.kind = 63
              · right
                simp only [next, hst, hsemi] at hnext
                exact ⟨hsemi, by simpa using hnext.symm⟩
              · simp [next, hst, hdot, hsemi] at hnext
          rcases hcases with ⟨hdot, rfl⟩ | ⟨hsemi, rfl⟩
          · cases hrest with
            | nil _ => simp [accept] at hend
            | @cons _ _ v vs state' hopen' hclean' hnext' hrest' =>
                obtain ⟨rfl, hv⟩ := next_id hnext' (.inr rfl)
                obtain ⟨name, last, close, heq, hname, hclose⟩ :=
                  ih vs.length (by simp only [← hlen, List.length_cons]; omega) hrest' rfl hv rfl
                exact ⟨t :: u :: name, last, close, by simp [heq], .more ht hdot hname, hclose⟩
          · have hnil := hrest.of_ended (by simp [Header.ended, accept])
            subst hnil
            exact ⟨[t], t, u, rfl, .one ht, hsemi⟩

/-- The tokens read are clean. -/
theorem Reads.clean {st st' : Header} {ts : List Token} (h : Reads st ts st') : ∀ t ∈ ts, t.diagnostic = 0 := by
  induction h with
  | nil _ => simp
  | cons _ hclean _ _ ih =>
      intro t ht
      rcases List.mem_cons.mp ht with rfl | ht
      · exact hclean
      · exact ih t ht

/-- The kinds of the fixed part of a header. -/
def fixedKind : Nat → Nat
  | 0 => 10
  | 1 => 6
  | 2 => 63
  | _ => 11

theorem next_fixed {state state' kind : Nat} (h : next state kind = some state') (hlt : state < 4) :
    state' = state + 1 ∧ kind = fixedKind state := by
  obtain rfl | rfl | rfl | rfl : state = 0 ∨ state = 1 ∨ state = 2 ∨ state = 3 := by omega
  all_goals
    simp only [next] at h
    split_ifs at h <;> simp_all [fixedKind]

/-- The fixed part of a header, a token at a time. -/
theorem Reads.fixed {st st' : Header} {ts : List Token} (h : Reads st ts st') (hend : st'.state = 8)
    (hlt : st.state < 4) :
    ∃ t us st₁, ts = t :: us ∧ t.kind = fixedKind st.state ∧ st₁.state = st.state + 1 ∧ Reads st₁ us st' := by
  cases h with
  | nil _ => omega
  | @cons _ _ t us _ _ _ hnext hrest =>
      obtain ⟨rfl, hkind⟩ := next_fixed hnext hlt
      exact ⟨t, us, _, rfl, hkind, rfl, hrest⟩

/-- **What is accepted is a header.** -/
theorem Reads.headerTokens {ts : List Token} {st : Header} (h : Reads seed ts st) (hend : st.state = 8) :
    ∃ version first last close, HeaderTokens ts version first last close := by
  have hclean := h.clean
  obtain ⟨mncs, ts₁, st₁, rfl, hmncs, hst₁, h₁⟩ := h.fixed hend (by decide)
  obtain ⟨version, ts₂, st₂, rfl, hversion, hst₂, h₂⟩ := h₁.fixed hend (by rw [hst₁]; decide)
  rw [hst₁] at hversion hst₂
  obtain ⟨semicolon, ts₃, st₃, rfl, hsemicolon, hst₃, h₃⟩ := h₂.fixed hend (by rw [hst₂]; decide)
  rw [hst₂] at hsemicolon hst₃
  obtain ⟨module, ts₄, st₄, rfl, hmodule, hst₄, h₄⟩ := h₃.fixed hend (by rw [hst₃]; decide)
  rw [hst₃] at hmodule hst₄
  cases h₄ with
  | nil _ => exact absurd (hst₄.symm.trans hend) (by decide)
  | @cons _ _ t us state _ _ hnext hrest =>
      obtain ⟨rfl, hid⟩ := next_id hnext (.inl hst₄)
      obtain ⟨name, last, close, heq, hname, hclose⟩ := hrest.dotted rfl hend hid
      rw [heq] at hclean ⊢
      exact ⟨version, t, last, close, .mk hmncs hversion hsemicolon hmodule hname hclose hclean⟩

/-! ## Beginnings of headers -/

/-- Some tokens take the machine to acceptance. -/
def Completes (st : Header) : Prop := ∃ rest st', Reads st rest st' ∧ st'.state = 8

theorem Completes.of_next {st : Header} {k s : Nat} (hopen : st.ended = false) (hnext : next st.state k = some s)
    (h : Completes (accept st s { kind := k, start := 0, stop := 0, diagnostic := 0 })) : Completes st := by
  obtain ⟨rest, st', hreads, hend⟩ := h
  exact ⟨_ :: rest, st', .cons hopen rfl hnext hreads, hend⟩

/-- **The machine is never stuck**: without an error it can be completed. -/
theorem completes {st : Header} (hcode : st.code = 0) : Completes st := by
  have hopen : ∀ {st : Header}, st.code = 0 → st.state ≠ 8 → st.ended = false := by
    intro st hcode hstate
    simp [Header.ended, hcode, hstate]
  have h8 : ∀ {st : Header}, st.state = 8 → Completes st := fun {st} h => ⟨[], st, .nil st, h⟩
  -- the states in which a dot or a semicolon is next, then backwards
  have h5 : ∀ {st : Header}, st.code = 0 → 4 < st.state → st.state ≠ 6 → Completes st := by
    intro st hcode hlt h6
    by_cases h : st.state = 8
    · exact h8 h
    · refine .of_next (k := 63) (s := 8) (hopen hcode h) ?_ (h8 rfl)
      have h0 : st.state ≠ 0 ∧ st.state ≠ 1 ∧ st.state ≠ 2 ∧ st.state ≠ 3 ∧ st.state ≠ 4 := by omega
      simp [next, h0, h6]
  have h46 : ∀ {st : Header}, st.code = 0 → st.state = 4 ∨ st.state = 6 → Completes st := by
    intro st hcode h
    refine .of_next (k := 4) (s := 5) (hopen hcode (by omega)) ?_ (h5 hcode (by simp [accept]) (by simp [accept]))
    rcases h with h | h <;> simp [next, h]
  have h3 : ∀ {st : Header}, st.code = 0 → st.state = 3 → Completes st := fun hcode h =>
    .of_next (k := 11) (s := 4) (hopen hcode (by omega)) (by simp [next, h]) (h46 hcode (.inl rfl))
  have h2 : ∀ {st : Header}, st.code = 0 → st.state = 2 → Completes st := fun hcode h =>
    .of_next (k := 63) (s := 3) (hopen hcode (by omega)) (by simp [next, h]) (h3 hcode rfl)
  have h1 : ∀ {st : Header}, st.code = 0 → st.state = 1 → Completes st := fun hcode h =>
    .of_next (k := 6) (s := 2) (hopen hcode (by omega)) (by simp [next, h]) (h2 hcode rfl)
  have h0 : ∀ {st : Header}, st.code = 0 → st.state = 0 → Completes st := fun hcode h =>
    .of_next (k := 10) (s := 1) (hopen hcode (by omega)) (by simp [next, h]) (h1 hcode rfl)
  obtain h | h | h | h | h | h : st.state = 0 ∨ st.state = 1 ∨ st.state = 2 ∨ st.state = 3 ∨
      (st.state = 4 ∨ st.state = 6) ∨ (4 < st.state ∧ st.state ≠ 6) := by omega
  · exact h0 hcode h
  · exact h1 hcode h
  · exact h2 hcode h
  · exact h3 hcode h
  · exact h46 hcode h
  · exact h5 hcode h.1 h.2

/-- What has been read begins a header. -/
theorem Reads.continues {ts : List Token} {st : Header} (h : Reads seed ts st) : Continues ts := by
  obtain ⟨rest, st', hrest, hend⟩ := completes h.code
  exact ⟨rest, (h.append hrest).headerTokens hend⟩

/-- What is refused begins no header. -/
theorem Reads.not_continues {ts : List Token} {st : Header} (h : Reads seed ts st) {t : Token}
    (hbad : t.diagnostic ≠ 0 ∨ next st.state t.kind = none) : ¬ Continues (ts ++ [t]) := by
  rintro ⟨rest, version, first, last, close, hheader⟩
  have hall := hheader.reads
  rw [List.append_assoc] at hall
  obtain ⟨st', hts, hrest⟩ := hall.split
  obtain rfl := h.unique hts
  cases hrest with
  | cons _ hclean hnext _ => simp [hclean, hnext] at hbad

/-! ## Runs -/

/-- The refusal that ends a run: at the first token that continues no header. -/
def Refused (text : View) (st : Header) : Prop :=
  st.code ≠ 0 ∧ ∃ t, FirstOffending text t ∧ st.start = t.start ∧ st.stop = t.stop

/-- **A run reads the significant tokens of the text** until it refuses one. -/
theorem steps_reads (text : View) (n : Nat) :
    (∃ ts, Significants text 0 ts ((step text)^[n] seed).nextOffset ∧ Reads seed ts ((step text)^[n] seed)) ∨
      Refused text ((step text)^[n] seed) := by
  induction n with
  | zero => exact .inl ⟨[], .nil 0, .nil seed⟩
  | succ n ih =>
      rw [Function.iterate_succ_apply']
      generalize (step text)^[n] seed = st at ih
      cases hopen : st.ended with
      | true => rwa [step_of_ended hopen]
      | false =>
          rcases ih with ⟨ts, hsig, hreads⟩ | hrefused
          · have hfirst := significant_first text st.nextOffset
            rw [step_of_open hopen]
            rcases move_cases (significant text st.nextOffset) st with
              ⟨state, hclean, hnext, heq⟩ | ⟨hbad, code, hcode, -, heq⟩
            · rw [heq]
              exact .inl ⟨_, hsig.snoc hfirst, hreads.append (.cons hopen hclean hnext (.nil _))⟩
            · rw [heq]
              exact .inr ⟨hcode, _, ⟨ts, _, hsig, hreads.continues, hfirst, hreads.not_continues hbad⟩, rfl, rfl⟩
          · simp [Header.ended, hrefused.1] at hopen

/-- The record of an accepted header. -/
theorem header_of_headerTokens {text : View} (hwf : WellFormed text) {ts : List Token} {q : Nat}
    {version first last close : Token} (hsig : Significants text 0 ts q)
    (h : HeaderTokens ts version first last close) :
    header text =
      { code := 0, start := 0, stop := 0, versionStart := version.start, versionStop := version.stop,
        moduleStart := first.start, moduleStop := last.stop, nextOffset := close.stop, state := 8 } := by
  rw [header_eq ((validateUtf8_spec text).1.mpr hwf)]
  have hsteps := h.reads.steps hsig
  rw [← hsteps]
  refine BoundedLoop.settle_unique (p := Header.ended) (fun _ => step_of_ended) (header_ended text) ?_
  rw [hsteps]
  rfl

/-- **The header grammar.** A text is accepted exactly when it is UTF-8 and its significant tokens begin with a
    header; the record then holds the spans of the version and of the name, and the end of the closing semicolon.
    Any other text is refused at the first invalid byte or the first token that continues no header. -/
theorem header_grammar (text : View) :
    ((header text).code = 0 ∧ (header text).state = 8 ↔
      WellFormed text ∧ ∃ ts q version first last close,
        Significants text 0 ts q ∧ HeaderTokens ts version first last close) ∧
    (∀ ts q version first last close, WellFormed text → Significants text 0 ts q →
      HeaderTokens ts version first last close →
        (header text).versionStart = version.start ∧ (header text).versionStop = version.stop ∧
        (header text).moduleStart = first.start ∧ (header text).moduleStop = last.stop ∧
        (header text).nextOffset = close.stop) ∧
    (¬ ((header text).code = 0 ∧ (header text).state = 8) →
      (header text).code ≠ 0 ∧
      (¬ WellFormed text → FirstInvalid text (header text).start ∧
        (header text).stop = min ((header text).start + 1) text.length) ∧
      (WellFormed text →
        ∃ t, FirstOffending text t ∧ (header text).start = t.start ∧ (header text).stop = t.stop)) := by
  by_cases hwf : WellFormed text
  · -- the run ends accepting or refusing
    have hvalid := (validateUtf8_spec text).1.mpr hwf
    have hend := header_ended text
    have hrun := steps_reads text (text.length + 1)
    rw [← header_eq hvalid] at hend hrun
    have haccept : (header text).code = 0 ∧ (header text).state = 8 →
        ∃ ts q version first last close, Significants text 0 ts q ∧ HeaderTokens ts version first last close := by
      rintro ⟨hcode, hstate⟩
      rcases hrun with ⟨ts, hsig, hreads⟩ | hrefused
      · obtain ⟨version, first, last, close, hheader⟩ := hreads.headerTokens hstate
        exact ⟨ts, _, version, first, last, close, hsig, hheader⟩
      · exact absurd hcode hrefused.1
    refine ⟨⟨fun h => ⟨hwf, haccept h⟩, ?_⟩, ?_, fun hnot => ?_⟩
    · rintro ⟨-, ts, q, version, first, last, close, hsig, hheader⟩
      rw [header_of_headerTokens hwf hsig hheader]
      exact ⟨rfl, rfl⟩
    · intro ts q version first last close _ hsig hheader
      rw [header_of_headerTokens hwf hsig hheader]
      exact ⟨rfl, rfl, rfl, rfl, rfl⟩
    · rcases hrun with ⟨ts, hsig, hreads⟩ | ⟨hcode, hoffending⟩
      · have hcode : (header text).code = 0 := hreads.code
        simp only [Header.ended, hcode, ne_eq, not_true_eq_false, decide_false, Bool.false_or,
          decide_eq_true_eq] at hend
        exact absurd ⟨hcode, hend⟩ hnot
      · exact ⟨hcode, fun h => absurd hwf h, fun _ => hoffending⟩
  · have hvalid : (validateUtf8 text).valid = false := by
      rw [← Bool.not_eq_true, (validateUtf8_spec text).1]
      exact hwf
    have hinvalid := (validateUtf8_spec text).2 hvalid
    have hheader : header text = refuseUtf8 text.length (validateUtf8 text).errorOffset := by
      simp [header, hvalid]
    have hle := hinvalid.le
    rw [hheader]
    refine ⟨⟨fun h => absurd h.1 (by simp [refuseUtf8]), fun h => absurd h.1 hwf⟩,
      fun _ _ _ _ _ _ h => absurd h hwf, fun _ => ?_⟩
    refine ⟨by simp [refuseUtf8], fun _ => ⟨hinvalid, ?_⟩, fun h => absurd h hwf⟩
    simp only [refuseUtf8]
    split <;> omega

end MncsCompiler.Parser
