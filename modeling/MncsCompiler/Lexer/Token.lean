import MncsCompiler.Source.Pages

/-!
# `Lexer.Token` — tokens, scan states and the byte tables both lexers share

Token kinds are the wire vocabulary of `token-kinds.json`. Diagnostics: 0 none, 1 unterminated block comment,
2 unknown character, 3 invalid UTF-8 scalar, 4 invalid cursor, 5 significant token over the scan budget,
6 trivia prefix whose remainder continues at its end. EOF is kind 0 with an empty span. The field the source
calls `end` is `stop` here.

`lexer.mncs` spells its keyword table twice, once for a single view and once for global offsets, in two
different orders; both are kept, and `keywordKind_global` says they classify alike.
-/

namespace MncsCompiler

structure Token where
  kind : Nat
  start : Nat
  stop : Nat
  diagnostic : Nat
  deriving DecidableEq, Repr

structure Scan where
  stop : Nat
  depth : Nat
  dotted : Bool
  done : Bool
  pageIndex : Nat
  pageIntra : Nat
  scanError : Nat
  errorStart : Nat
  deriving DecidableEq, Repr

/-- The loop test of every scan: done, or at the end of a source of `total` bytes. -/
def Scan.ended (total : Nat) (st : Scan) : Bool := st.done || st.stop ≥ total

/-- The starting-byte classes a scan is run for. -/
structure ScanClass where
  line : Bool
  block : Bool
  word : Bool
  number : Bool
  ws : Bool
  deriving DecidableEq, Repr

def digit (c : Nat) : Bool := 48 ≤ c && c ≤ 57

/-- ASCII identifier continuation. -/
def wordChar (c : Nat) : Bool :=
  let folded := c ||| 32
  (48 ≤ c && c ≤ 57) || (97 ≤ folded && folded ≤ 122) || c == 95

def space (c : Nat) : Bool := c == 32 || (9 ≤ c && c ≤ 13)

/-! ## Keywords -/

/-- The keyword table of `keyword`. -/
def keywordTable : List (List Nat × Nat) := [
  ([102, 110], 12),
  ([105, 102], 15),
  ([97, 115], 36),
  ([108, 101, 116], 14),
  ([117, 115, 101], 28),
  ([109, 110, 99, 115], 10),
  ([101, 108, 115, 101], 16),
  ([102, 97, 105, 108], 17),
  ([101, 110, 117, 109], 27),
  ([110, 101, 120, 116], 34),
  ([111, 118, 101, 114], 35),
  ([116, 114, 117, 101], 38),
  ([109, 97, 116, 99, 104], 30),
  ([117, 112, 95, 116, 111], 32),
  ([119, 104, 105, 108, 101], 37),
  ([102, 97, 108, 115, 101], 39),
  ([109, 111, 100, 117, 108, 101], 11),
  ([114, 101, 116, 117, 114, 110], 13),
  ([101, 102, 102, 101, 99, 116], 24),
  ([114, 101, 99, 111, 114, 100], 29),
  ([114, 101, 113, 117, 105, 114, 101, 115], 18),
  ([112, 114, 111, 112, 101, 114, 116, 121], 21),
  ([99, 97, 114, 114, 121, 105, 110, 103], 33),
  ([101, 110, 115, 117, 114, 101, 115], 19),
  ([97, 115, 115, 117, 109, 101, 115], 20),
  ([105, 116, 101, 114, 97, 116, 101], 31),
  ([105, 110, 118, 97, 114, 105, 97, 110, 116], 22),
  ([109, 101, 116, 97, 109, 111, 114, 112, 104, 105, 99], 23),
  ([99, 97, 112, 97, 98, 105, 108, 105, 116, 121], 25),
  ([97, 117, 116, 104, 111, 114, 105, 122, 101, 100, 95, 98, 121], 26)]

/-- The keyword table of `keyword_global`. -/
def keywordGlobalTable : List (List Nat × Nat) := [
  ([109, 110, 99, 115], 10),
  ([101, 108, 115, 101], 16),
  ([102, 97, 105, 108], 17),
  ([101, 110, 117, 109], 27),
  ([110, 101, 120, 116], 34),
  ([111, 118, 101, 114], 35),
  ([116, 114, 117, 101], 38),
  ([109, 111, 100, 117, 108, 101], 11),
  ([114, 101, 116, 117, 114, 110], 13),
  ([101, 102, 102, 101, 99, 116], 24),
  ([114, 101, 99, 111, 114, 100], 29),
  ([102, 110], 12),
  ([105, 102], 15),
  ([97, 115], 36),
  ([108, 101, 116], 14),
  ([117, 115, 101], 28),
  ([114, 101, 113, 117, 105, 114, 101, 115], 18),
  ([112, 114, 111, 112, 101, 114, 116, 121], 21),
  ([99, 97, 114, 114, 121, 105, 110, 103], 33),
  ([101, 110, 115, 117, 114, 101, 115], 19),
  ([97, 115, 115, 117, 109, 101, 115], 20),
  ([105, 116, 101, 114, 97, 116, 101], 31),
  ([105, 110, 118, 97, 114, 105, 97, 110, 116], 22),
  ([109, 101, 116, 97, 109, 111, 114, 112, 104, 105, 99], 23),
  ([99, 97, 112, 97, 98, 105, 108, 105, 116, 121], 25),
  ([97, 117, 116, 104, 111, 114, 105, 122, 101, 100, 95, 98, 121], 26),
  ([109, 97, 116, 99, 104], 30),
  ([117, 112, 95, 116, 111], 32),
  ([119, 104, 105, 108, 101], 37),
  ([102, 97, 108, 115, 101], 39)]

/-- The kind of a word: its table entry, or 4 for a plain identifier. -/
def keywordKind (table : List (List Nat × Nat)) (word : List Nat) : Nat := (table.lookup word).getD 4

/-- The `length` bytes read from `start` on. -/
def spelling (read : Nat → Nat) (start length : Nat) : List Nat :=
  (List.range length).map (fun k => read (start + k))

def keyword (text : View) (start stop : Nat) : Nat :=
  if start > stop || stop > text.length then 4
  else keywordKind keywordTable (spelling (byte text) start (stop - start))

/-! ## Punctuation -/

/-- Two-character operators group under their first byte; the inner default is the one-character kind. -/
def punctuation (a b : Nat) : Nat :=
  match a with
  | 45 => match b with | 62 => 80 | 37 => 92 | 124 => 95 | _ => 51
  | 61 => match b with | 62 => 81 | 61 => 84 | _ => 60
  | 38 => match b with | 38 => 82 | _ => 55
  | 124 => match b with | 124 => 83 | _ => 56
  | 33 => match b with | 61 => 85 | _ => 7
  | 60 => match b with | 61 => 86 | 60 => 88 | _ => 58
  | 62 => match b with | 61 => 87 | 62 => 89 | _ => 59
  | 46 => match b with | 46 => 90 | _ => 61
  | 43 => match b with | 37 => 91 | 124 => 94 | _ => 50
  | 42 => match b with | 37 => 93 | 124 => 96 | _ => 52
  | 47 => 53
  | 37 => 54
  | 94 => 57
  | 58 => 62
  | 59 => 63
  | 44 => 64
  | 40 => 65
  | 41 => 66
  | 123 => 67
  | 125 => 68
  | 91 => 69
  | 93 => 70
  | _ => 7

/-! ## Tokens both lexers build alike -/

/-- A start past the end. -/
def invalidCursor (total : Nat) : Token := { kind := 0, start := total, stop := total, diagnostic := 4 }

/-- The clean end of the source. -/
def eofToken (start : Nat) : Token := { kind := 0, start := start, stop := start, diagnostic := 0 }

/-- A non-ASCII start that is neither an identifier start nor white space. -/
def nonAsciiError (start : Nat) (firstScalar : Utf8Scalar) : Token :=
  { kind := 7, start := start
    stop := if firstScalar.valid then firstScalar.next else start + 1
    diagnostic := if firstScalar.valid then 2 else 3 }

def punctuationToken (start a b : Nat) : Token :=
  let kind := punctuation a b
  { kind := kind, start := start, stop := start + (if kind ≥ 80 then 2 else 1)
    diagnostic := if kind = 7 then 2 else 0 }

/-- The token a scan error makes; its start is the offending byte. -/
def scanErrorToken (st : Scan) : Token :=
  { kind := 7, start := st.errorStart, stop := st.stop, diagnostic := st.scanError }

/-! ## Scan moves both lexers make alike -/

/-- Inside a comment: one whole scalar, or the end of the scan at an invalid one. -/
def commentScalar (scalar : Utf8Scalar) (st : Scan) : Scan :=
  if !scalar.valid then
    { st with stop := scalar.next, done := true, scanError := 3, errorStart := st.stop }
  else { st with stop := scalar.next }

/-- In a word or white space: past an accepted scalar, or the end of the scan before it. -/
def runScalar (accepted : Bool) (scalar : Utf8Scalar) (st : Scan) : Scan :=
  { st with stop := if accepted then scalar.next else st.stop, done := !accepted }

/-! ## Token shape -/

/-- The kinds of the wire vocabulary, EOF apart. -/
def knownKind (kind : Nat) : Bool :=
  (1 ≤ kind && kind ≤ 7) || (10 ≤ kind && kind ≤ 39) || (50 ≤ kind && kind ≤ 70) || (80 ≤ kind && kind ≤ 96)

/-- The diagnostics a kind may carry. -/
def diagnosticOk (kind diagnostic : Nat) : Bool :=
  (diagnostic == 0 && kind != 7) || (diagnostic == 1 && kind == 3) ||
    ((diagnostic == 2 || diagnostic == 3) && kind == 7)

theorem punctuation_range (a b : Nat) :
    punctuation a b = 7 ∨ (50 ≤ punctuation a b ∧ punctuation a b ≤ 70 ∧ a < 128) ∨
      (80 ≤ punctuation a b ∧ punctuation a b ≤ 96 ∧ a < 128 ∧ b < 128) := by
  unfold punctuation
  repeat' split
  all_goals simp

/-! ## The two keyword tables agree -/

theorem keywordKind_global (word : List Nat) :
    keywordKind keywordGlobalTable word = keywordKind keywordTable word := by
  have hkeys : ∀ w ∈ keywordTable.map Prod.fst, keywordGlobalTable.lookup w = keywordTable.lookup w := by
    decide +kernel
  have hsub : ∀ w ∈ keywordGlobalTable.map Prod.fst, w ∈ keywordTable.map Prod.fst := by decide +kernel
  unfold keywordKind
  by_cases h : word ∈ keywordTable.map Prod.fst
  · rw [hkeys word h]
  · have hnone : ∀ table : List (List Nat × Nat), word ∉ table.map Prod.fst → table.lookup word = none := by
      intro table hnot
      refine List.lookup_eq_none_iff.mpr (fun p hp => ?_)
      have hne : word ≠ p.1 := fun he => hnot (he ▸ List.mem_map_of_mem hp)
      simpa using hne
    rw [hnone keywordTable h, hnone keywordGlobalTable (fun hg => h (hsub word hg))]

/-- Reads that agree on the span spell the same word. -/
theorem spelling_congr {f g : Nat → Nat} {start start' length : Nat}
    (h : ∀ k < length, f (start + k) = g (start' + k)) :
    spelling f start length = spelling g start' length :=
  List.map_congr_left (fun k hk => h k (List.mem_range.mp hk))

/-- Every word kind is 4 or a keyword kind. -/
theorem keywordKind_range (word : List Nat) :
    keywordKind keywordTable word = 4 ∨
      (10 ≤ keywordKind keywordTable word ∧ keywordKind keywordTable word ≤ 39) := by
  have hall : ∀ e ∈ keywordTable, 10 ≤ e.2 ∧ e.2 ≤ 39 := by decide
  unfold keywordKind
  cases hl : keywordTable.lookup word with
  | none => exact .inl rfl
  | some k =>
      obtain ⟨l₁, l₂, hsplit, -⟩ := List.lookup_eq_some_iff.mp hl
      exact .inr (hall (word, k) (by rw [hsplit]; simp))

theorem keyword_range (text : View) (start stop : Nat) :
    keyword text start stop = 4 ∨ (10 ≤ keyword text start stop ∧ keyword text start stop ≤ 39) := by
  unfold keyword
  split
  · exact .inl rfl
  · exact keywordKind_range _

end MncsCompiler
