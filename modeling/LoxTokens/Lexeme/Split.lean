import LoxTokens.Lexeme
import LoxTokens.Options

/-!
# Splitting a text into lexemes

`Lexeme.next` reads the lexeme at the front of a text that begins with a given character and hands
back the rest.  It has one case for each branch of `_scan_token`, and one function for each branch
that looks further than one character: at a `=` (`nextPair`), at a second star (`nextStar`), or for
the end of a comment or a string (`nextLineComment`, `nextBlockComment`, `nextString`).
`Lexeme.split` repeats this to the end.

Each of these functions recurs on the text alone, and what they leave is shorter than what they were
given; there is no position in them that would have to be kept right.

Nothing is lost on the way: `text_next` says so of one step and `flatMap_text_split` of the whole.
That the pieces are those of a grammar, and the only ones, is shown in `LoxTokens.Proofs.Grammar`.
-/

set_option autoImplicit false

namespace LoxTokens.Lexeme

/-- The text before the first `*/` and the text behind it. -/
def closing? : Text → Option (Text × Text)
  | [] => none
  | '*' :: '/' :: rest => some ([], rest)
  | c :: rest => (closing? rest).map fun (body, rest) ↦ (c :: body, rest)

/-- The lexeme behind a double quote, and the rest. -/
def nextString (t : Text) : Lexeme × Text :=
  match t.dropWhile (· != '"') with
  | [] => (openString t, [])
  | _ :: rest => (string (t.takeWhile (· != '"')), rest)

/-- The comment up to the end of the line behind `/` and `second`, and the rest. -/
def nextLineComment (second : Char) (t : Text) : Lexeme × Text :=
  (lineComment second (t.takeWhile (· != '\n')), t.dropWhile (· != '\n'))

/-- The comment behind `/*`, and the rest. -/
def nextBlockComment (t : Text) : Lexeme × Text :=
  match closing? t with
  | some (body, rest) => (blockComment body, rest)
  | none => (openComment t, [])

/-- The lexeme that begins with `/`, and the rest. -/
def nextSlash (o : Options) : Text → Lexeme × Text
  | '/' :: rest => nextLineComment '/' rest
  | '*' :: rest => if o.blockComments then nextBlockComment rest else nextLineComment '*' rest
  | rest => (symbol .slash, rest)

/-- The lexeme that begins with `*`, and the rest. -/
def nextStar (o : Options) : Text → Lexeme × Text
  | '*' :: rest =>
    if o.exponentOperator then (symbol .starStar, rest) else (symbol .star, '*' :: rest)
  | rest => (symbol .star, rest)

/-- Of two symbols the longer if `=` follows, and the rest. -/
def nextPair (short long : Symbol) : Text → Lexeme × Text
  | '=' :: rest => (symbol long, rest)
  | rest => (symbol short, rest)

/-- The blanks that a scan skips. -/
def isBlank (c : Char) : Bool := c = ' ' || c = '\t' || c = '\r' || c = '\n'

/-- The lexeme at the front of `c :: t`, and the rest: one call of `_scan_token`. -/
def next (o : Options) (c : Char) (t : Text) : Lexeme × Text :=
  match Symbol.single? c, Symbol.pair? c with
  | some s, _ => (symbol s, t)
  | none, some (short, long) => nextPair short long t
  | none, none =>
    if c = '*' then nextStar o t
    else if c = '/' then nextSlash o t
    else if c = '"' then nextString t
    else if isBlank c then (blank c, t)
    else (stray c, t)

/-! ## Nothing is lost -/

theorem append_of_closing? {t body rest : Text} (h : closing? t = some (body, rest)) :
    t = body ++ '*' :: '/' :: rest := by
  fun_induction closing? t generalizing body rest with
  | case1 => simp at h
  | case2 r =>
    simp only [Option.some.injEq, Prod.mk.injEq] at h
    simp [← h.1, h.2]
  | case3 c r _ ih =>
    obtain ⟨⟨b, q⟩, hb, he⟩ := Option.map_eq_some_iff.1 h
    simp only [Prod.mk.injEq] at he
    rw [ih hb, ← he.1, ← he.2, List.cons_append]

theorem text_nextString (t : Text) : (nextString t).1.text ++ (nextString t).2 = '"' :: t := by
  have h := List.takeWhile_append_dropWhile (p := (· != '"')) (l := t)
  unfold nextString
  split
  · simp [text]
  · next c rest e =>
    have hne : t.dropWhile (· != '"') ≠ [] := e ▸ List.cons_ne_nil _ _
    have hc : c = '"' := by
      have := List.head_dropWhile_not (· != '"') hne
      simpa [e] using this
    rw [e, hc] at h
    simpa [text] using h

theorem text_nextLineComment (second : Char) (t : Text) :
    (nextLineComment second t).1.text ++ (nextLineComment second t).2 = '/' :: second :: t := by
  simp [nextLineComment, text]

theorem text_nextBlockComment (t : Text) :
    (nextBlockComment t).1.text ++ (nextBlockComment t).2 = '/' :: '*' :: t := by
  unfold nextBlockComment
  split
  · next body rest h => simp [text, append_of_closing? h]
  · simp [text]

theorem text_nextSlash (o : Options) (t : Text) :
    (nextSlash o t).1.text ++ (nextSlash o t).2 = '/' :: t := by
  unfold nextSlash
  split
  · exact text_nextLineComment _ _
  · split
    · exact text_nextBlockComment _
    · exact text_nextLineComment _ _
  · simp [text, Symbol.spelling]

theorem text_nextStar (o : Options) (t : Text) :
    (nextStar o t).1.text ++ (nextStar o t).2 = '*' :: t := by
  unfold nextStar
  split
  · split <;> simp [text, Symbol.spelling]
  · simp [text, Symbol.spelling]

/-- A character of the first table spells its symbol. -/
theorem spelling_of_single? {c : Char} {s : Symbol} (h : Symbol.single? c = some s) :
    s.spelling = [c] := by
  have hmem : (c, s) ∈ Symbol.singles := by
    obtain ⟨l₁, l₂, e, -⟩ := List.lookup_eq_some_iff.1 h
    simp [e]
  revert hmem
  simp only [Symbol.singles, List.mem_cons, Prod.mk.injEq, List.not_mem_nil, or_false]
  rintro (h | h | h | h | h | h | h | h | h) <;> rw [h.1, h.2] <;> rfl

/-- A character of the second table spells its shorter symbol, and with `=` its longer one. -/
theorem spelling_of_pair? {c : Char} {short long : Symbol}
    (h : Symbol.pair? c = some (short, long)) :
    short.spelling = [c] ∧ long.spelling = [c, '='] := by
  have hmem : (c, short, long) ∈ Symbol.pairs := by
    obtain ⟨l₁, l₂, e, -⟩ := List.lookup_eq_some_iff.1 h
    simp [e]
  revert hmem
  simp only [Symbol.pairs, List.mem_cons, Prod.mk.injEq, List.not_mem_nil, or_false]
  rintro (h | h | h | h) <;> rw [h.1, h.2.1, h.2.2] <;> exact ⟨rfl, rfl⟩

/-- A step reads exactly the front of the text. -/
theorem text_next (o : Options) (c : Char) (t : Text) :
    (next o c t).1.text ++ (next o c t).2 = c :: t := by
  unfold next
  split
  · next s _ h => simp [text, spelling_of_single? h]
  · next short long _ h =>
    obtain ⟨h₁, h₂⟩ := spelling_of_pair? h
    unfold nextPair
    split <;> simp [text, h₁, h₂]
  · split
    · next h => rw [h]; exact text_nextStar o t
    · split
      · next h => rw [h]; exact text_nextSlash o t
      · split
        · next h => rw [h]; exact text_nextString t
        · split <;> simp [text]

/-- The rest is shorter than the text. -/
theorem length_next (o : Options) (c : Char) (t : Text) :
    (next o c t).2.length < (c :: t).length := by
  have h := congrArg List.length (text_next o c t)
  have hpos := List.length_pos_iff.2 (next o c t).1.text_ne_nil
  rw [List.length_append] at h
  omega

/-! ## The whole text -/

/-- The lexemes of a text, in order. -/
def split (o : Options) : Text → List Lexeme
  | [] => []
  | c :: t => (next o c t).1 :: split o (next o c t).2
termination_by t => t.length
decreasing_by exact length_next o c t

@[simp] theorem split_nil (o : Options) : split o [] = [] := by rw [split]

theorem split_cons (o : Options) (c : Char) (t : Text) :
    split o (c :: t) = (next o c t).1 :: split o (next o c t).2 := by rw [split]

/-- The lexemes of a text make up the text. -/
theorem flatMap_text_split (o : Options) (t : Text) : (split o t).flatMap text = t := by
  fun_induction split o t with
  | case1 => rfl
  | case2 c t ih => rw [List.flatMap_cons, ih, text_next]

end LoxTokens.Lexeme
