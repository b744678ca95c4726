import LoxTokens.Proofs.Position
import Mathlib.Data.List.Infix
import Mathlib.Data.List.TakeWhile

/-!
# The grammar of lexemes

`Lexeme.split` reads a text from the front and never looks back, as `scan_tokens` does with its
calls of `_scan_token`.  This file says what a lexeme is without saying how one is read.

* `Lexeme.Fits o x rest` — where the text goes on with `rest`, the lexeme `x` is one piece of the
  grammar.  A string ends at the next quote, a comment at the end of the line or at the first `*/`,
  a symbol is the longest one that the options allow, and what is open reaches to the end.
* `Lexeme.Pieces o t xs` — the lexemes `xs` make up `t`, and each of them fits in front of those
  behind it.

What a step reads fits (`fits_next`), and what fits is what a step reads (`next_of_fits`).  Hence
`pieces_iff`: a text has exactly one decomposition by the grammar, and it is `Lexeme.split`.  The
laws of scans that compare two texts are proved on `Pieces`, where it is seen at once how little of
`rest` and of the options a lexeme depends on (`Fits.of_head?`, `Fits.of_options`).

A change of the language is a change of one rule, of the two lemmas that say of it that it is what a
step reads, and of the turns that a cursor takes for it.  What is proved of whole texts uses the
rules through `Fits.of_head?`, `Fits.of_options` and the cases of `Fits`, and hardly ever through
the functions of `Lexeme.Split`.
-/

set_option autoImplicit false

namespace LoxTokens.Lexeme

variable {o : Options}

/-!
## The rules

There is one rule for each branch of `_scan_token` and each way in which it can end.  No rule
mentions the text in front of a lexeme: a lexeme is what it is, whatever came before it.
-/

/-- The characters that begin a lexeme of their own.  Any other character is stray, be it a letter,
a digit, or one from outside ASCII. -/
def openers : List Char :=
  Symbol.singles.map Prod.fst ++ Symbol.pairs.map Prod.fst ++ ['*', '/', '"', ' ', '\r', '\t', '\n']

/-- In front of `rest`, the lexeme is a piece of the grammar.  A rule looks at the lexeme and at the
options, and of `rest` at no more than its first character. -/
inductive Fits (o : Options) : Lexeme → Text → Prop
  /-- A mark that is a symbol whatever follows. -/
  | single {c : Char} {s : Symbol} {rest : Text} (h : (c, s) ∈ Symbol.singles) :
      Fits o (symbol s) rest
  /-- A mark together with the `=` behind it. -/
  | long {c : Char} {short long : Symbol} {rest : Text} (h : (c, short, long) ∈ Symbol.pairs) :
      Fits o (symbol long) rest
  /-- The same mark without a `=` behind it. -/
  | short {c : Char} {short long : Symbol} {rest : Text} (h : (c, short, long) ∈ Symbol.pairs)
      (hrest : rest.head? ≠ some '=') : Fits o (symbol short) rest
  /-- Two stars, if they are one symbol. -/
  | starStar {rest : Text} (h : o.exponentOperator = true) : Fits o (symbol .starStar) rest
  /-- One star that is not the first of two that are one symbol. -/
  | star {rest : Text} (h : ¬ (o.exponentOperator = true ∧ rest.head? = some '*')) :
      Fits o (symbol .star) rest
  /-- A slash that opens no comment. -/
  | slash {rest : Text} (h₁ : rest.head? ≠ some '/') (h₂ : rest.head? ≠ some '*') :
      Fits o (symbol .slash) rest
  /-- A comment with all that follows on its line. -/
  | lineComment {second : Char} {body rest : Text}
      (h : second = '/' ∨ second = '*' ∧ o.blockComments = false) (hbody : '\n' ∉ body)
      (hrest : ∀ c ∈ rest.head?, c = '\n') : Fits o (lineComment second body) rest
  /-- A comment up to the first `*/`. -/
  | blockComment {body rest : Text} (h : o.blockComments = true) (hbody : ¬ ['*', '/'] <:+: body) :
      Fits o (blockComment body) rest
  /-- A comment behind which no `*/` comes any more. -/
  | openComment {body : Text} (h : o.blockComments = true) (hbody : ¬ ['*', '/'] <:+: body) :
      Fits o (openComment body) []
  /-- A string up to the next quote. -/
  | string {body rest : Text} (hbody : '"' ∉ body) : Fits o (string body) rest
  /-- A string behind which no quote comes any more. -/
  | openString {body : Text} (hbody : '"' ∉ body) : Fits o (openString body) []
  /-- A space, tab, carriage return or line feed. -/
  | blank {c : Char} {rest : Text} (h : c ∈ [' ', '\r', '\t', '\n']) : Fits o (blank c) rest
  /-- A character that begins nothing else. -/
  | stray {c : Char} {rest : Text} (h : c ∉ openers) : Fits o (stray c) rest

/-- The lexemes make up the text, and each of them is a piece in front of the next ones. -/
inductive Pieces (o : Options) : Text → List Lexeme → Prop
  | nil : Pieces o [] []
  | cons {x : Lexeme} {rest : Text} {xs : List Lexeme} (hx : Fits o x rest)
      (hxs : Pieces o rest xs) : Pieces o (x.text ++ rest) (x :: xs)

/-- The lexeme is not closed where the text ends. -/
def isOpen : Lexeme → Bool
  | openString _ => true
  | openComment _ => true
  | _ => false

/-- The lexeme is a comment, closed or not. -/
def isComment : Lexeme → Bool
  | lineComment _ _ => true
  | blockComment _ => true
  | openComment _ => true
  | _ => false

/-- Nothing comes behind an open lexeme. -/
theorem Fits.eq_nil_of_isOpen {x : Lexeme} {rest : Text} (h : Fits o x rest)
    (hx : x.isOpen = true) : rest = [] := by
  cases h with
  | openComment => rfl
  | openString => rfl
  | _ => simp [isOpen] at hx

/-!
## The end of a comment

A comment ends at the first `*/`, and the two characters that open it have no share in that: in
`/*/` the comment is still open.
-/

theorem closing?_eq_none_iff {t : Text} : closing? t = none ↔ ¬ ['*', '/'] <:+: t := by
  fun_induction closing? t with
  | case1 => simp
  | case2 rest => simpa using (List.prefix_append ['*', '/'] rest).isInfix
  | case3 c rest hne ih =>
    rw [Option.map_eq_none_iff, ih, List.infix_cons_iff, List.cons_prefix_cons, not_or,
      iff_and_self]
    rintro - ⟨rfl, r, rfl⟩
    exact hne r rfl rfl

/-- The first `*/` is found: none lies in the text before it. -/
theorem not_infix_of_closing? {t body rest : Text} (h : closing? t = some (body, rest)) :
    ¬ ['*', '/'] <:+: body := by
  fun_induction closing? t generalizing body rest with
  | case1 => simp at h
  | case2 r =>
    obtain ⟨rfl, -⟩ := Prod.mk.inj (Option.some.inj h)
    simp
  | case3 c r hne ih =>
    obtain ⟨⟨b, q⟩, hb, he⟩ := Option.map_eq_some_iff.1 h
    obtain ⟨rfl, rfl⟩ := Prod.mk.inj he
    rw [List.infix_cons_iff, List.cons_prefix_cons, not_or]
    refine ⟨?_, ih hb⟩
    rintro ⟨rfl, u, rfl⟩
    exact hne _ rfl (append_of_closing? hb)

theorem closing?_append {body : Text} (h : ¬ ['*', '/'] <:+: body) (rest : Text) :
    closing? (body ++ '*' :: '/' :: rest) = some (body, rest) := by
  induction body with
  | nil => rw [List.nil_append, closing?]
  | cons c body ih =>
    rw [List.infix_cons_iff, List.cons_prefix_cons, not_or] at h
    have hne : ∀ r, c = '*' → body ++ '*' :: '/' :: rest = '/' :: r → False := by
      rintro r rfl hr
      cases body with
      | nil => exact absurd (List.cons.inj hr).1 (by decide)
      | cons d body =>
        obtain ⟨rfl, -⟩ := List.cons.inj hr
        exact h.1 ⟨rfl, List.prefix_append ['/'] body⟩
    rw [List.cons_append, closing?, ih h.2, Option.map_some]
    exact hne

/-! ## What a step reads fits -/

theorem head?_ne_of_forall {c : Char} {t : Text} (h : ∀ rest, t = c :: rest → False) :
    t.head? ≠ some c := by
  intro hc
  obtain ⟨rest, ht⟩ := List.head?_eq_some_iff.1 hc
  exact h rest ht

theorem fits_nextString (t : Text) : Fits o (nextString t).1 (nextString t).2 := by
  fun_cases nextString t with
  | case1 h =>
    refine .openString ?_
    intro hmem
    simpa using List.dropWhile_eq_nil_iff.1 h '"' hmem
  | case2 c rest h =>
    refine .string ?_
    intro hmem
    simpa using List.mem_takeWhile_imp hmem

theorem fits_nextLineComment {second : Char}
    (h : second = '/' ∨ second = '*' ∧ o.blockComments = false) (t : Text) :
    Fits o (nextLineComment second t).1 (nextLineComment second t).2 := by
  refine .lineComment h ?_ ?_
  · intro hmem
    simpa using List.mem_takeWhile_imp hmem
  · intro c hc
    have hnot := List.head?_dropWhile_not (· != '\n') t
    rw [show (t.dropWhile (· != '\n')).head? = some c from hc] at hnot
    simpa using hnot

theorem fits_nextBlockComment (h : o.blockComments = true) (t : Text) :
    Fits o (nextBlockComment t).1 (nextBlockComment t).2 := by
  rw [nextBlockComment]
  split
  · next hc => exact .blockComment h (not_infix_of_closing? hc)
  · next hc => exact .openComment h (closing?_eq_none_iff.1 hc)

theorem fits_nextSlash (o : Options) (t : Text) : Fits o (nextSlash o t).1 (nextSlash o t).2 := by
  fun_cases nextSlash o t with
  | case1 rest => exact fits_nextLineComment (.inl rfl) rest
  | case2 rest h => exact fits_nextBlockComment h rest
  | case3 rest h => exact fits_nextLineComment (.inr ⟨rfl, eq_false_of_ne_true h⟩) rest
  | case4 _ h₁ h₂ => exact .slash (head?_ne_of_forall h₁) (head?_ne_of_forall h₂)

theorem fits_nextStar (o : Options) (t : Text) : Fits o (nextStar o t).1 (nextStar o t).2 := by
  fun_cases nextStar o t with
  | case1 rest h => exact .starStar h
  | case2 rest h => exact .star fun hstar ↦ h hstar.1
  | case3 _ h => exact .star fun hstar ↦ head?_ne_of_forall h hstar.2

theorem fits_nextPair {c : Char} {short long : Symbol} (h : (c, short, long) ∈ Symbol.pairs)
    (t : Text) : Fits o (nextPair short long t).1 (nextPair short long t).2 := by
  fun_cases nextPair short long t with
  | case1 rest => exact .long h
  | case2 _ hne => exact .short h (head?_ne_of_forall hne)

theorem isBlank_iff {c : Char} : isBlank c = true ↔ c ∈ [' ', '\r', '\t', '\n'] := by
  simp only [isBlank, Bool.or_eq_true, decide_eq_true_eq, List.mem_cons, List.not_mem_nil, or_false]
  tauto

/-- The two tables and the further tests of a step tell the openers from all other characters. -/
theorem not_mem_openers_iff {c : Char} :
    c ∉ openers ↔ Symbol.single? c = none ∧ Symbol.pair? c = none ∧ c ≠ '*' ∧ c ≠ '/' ∧ c ≠ '"' ∧
      isBlank c = false := by
  have hlookup {β : Type} (l : List (Char × β)) : l.lookup c = none ↔ c ∉ l.map Prod.fst := by
    rw [List.lookup_eq_none_iff, List.mem_map]
    constructor
    · rintro h ⟨p, hp, hc⟩
      exact bne_iff_ne.1 (h p hp) hc.symm
    · intro h p hp
      exact bne_iff_ne.2 fun hc ↦ h ⟨p, hp, hc.symm⟩
  rw [openers, Symbol.single?, Symbol.pair?, hlookup, hlookup]
  simp only [List.mem_append, not_or, and_assoc]
  rw [← Bool.not_eq_true, isBlank_iff]
  simp

theorem single?_eq_some_iff {c : Char} {s : Symbol} :
    Symbol.single? c = some s ↔ (c, s) ∈ Symbol.singles := by
  constructor
  · intro h
    obtain ⟨l₁, l₂, e, -⟩ := List.lookup_eq_some_iff.1 h
    rw [e]
    exact List.mem_append_right _ List.mem_cons_self
  · intro h
    have hall : ∀ p ∈ Symbol.singles, Symbol.single? p.1 = some p.2 := by decide
    exact hall _ h

theorem pair?_eq_some_iff {c : Char} {p : Symbol × Symbol} :
    Symbol.pair? c = some p ↔ (c, p) ∈ Symbol.pairs := by
  constructor
  · intro h
    obtain ⟨l₁, l₂, e, -⟩ := List.lookup_eq_some_iff.1 h
    rw [e]
    exact List.mem_append_right _ List.mem_cons_self
  · intro h
    have hall : ∀ p ∈ Symbol.pairs, Symbol.pair? p.1 = some p.2 := by decide
    exact hall _ h

/-- The two tables have no character in common. -/
theorem single?_eq_none_of_mem_pairs {c : Char} {p : Symbol × Symbol} (h : (c, p) ∈ Symbol.pairs) :
    Symbol.single? c = none := by
  have hall : ∀ q ∈ Symbol.pairs, Symbol.single? q.1 = none := by decide
  exact hall _ h

/-- What a step reads is a piece of the grammar.  So there is at least one piece at the front of a
text, and it is found. -/
theorem fits_next (o : Options) (c : Char) (t : Text) : Fits o (next o c t).1 (next o c t).2 := by
  rw [next]
  split
  · next hs => exact .single (single?_eq_some_iff.1 hs)
  · next hp => exact fits_nextPair (pair?_eq_some_iff.1 hp) t
  · next hs hp =>
    split
    · exact fits_nextStar o t
    · next hstar =>
      split
      · exact fits_nextSlash o t
      · next hslash =>
        split
        · exact fits_nextString t
        · next hquote =>
          split
          · next hb => exact .blank (isBlank_iff.1 hb)
          · next hb =>
            exact .stray (not_mem_openers_iff.2 ⟨hs, hp, hstar, hslash, hquote, by simpa using hb⟩)

/-!
## What fits is what a step reads

One lemma for each branch of a step, by the character that leads there, and one for each function
that looks for an end.
-/

theorem next_of_mem_singles {c : Char} {s : Symbol} (h : (c, s) ∈ Symbol.singles) (t : Text) :
    next o c t = (symbol s, t) := by
  rw [next, single?_eq_some_iff.2 h]

theorem next_of_mem_pairs {c : Char} {short long : Symbol} (h : (c, short, long) ∈ Symbol.pairs)
    (t : Text) : next o c t = nextPair short long t := by
  rw [next, single?_eq_none_of_mem_pairs h, pair?_eq_some_iff.2 h]

theorem next_star (t : Text) : next o '*' t = nextStar o t := rfl

theorem next_slash (t : Text) : next o '/' t = nextSlash o t := rfl

theorem next_quote (t : Text) : next o '"' t = nextString t := rfl

theorem next_of_mem_blanks {c : Char} (h : c ∈ [' ', '\r', '\t', '\n']) (t : Text) :
    next o c t = (blank c, t) := by
  simp only [List.mem_cons, List.not_mem_nil, or_false] at h
  rcases h with rfl | rfl | rfl | rfl <;> rfl

theorem next_of_not_mem_openers {c : Char} (h : c ∉ openers) (t : Text) :
    next o c t = (stray c, t) := by
  obtain ⟨hs, hp, hstar, hslash, hquote, hblank⟩ := not_mem_openers_iff.1 h
  rw [next, hs, hp]
  simp [hstar, hslash, hquote, hblank]

theorem nextPair_of_head?_ne {short long : Symbol} {t : Text} (h : t.head? ≠ some '=') :
    nextPair short long t = (symbol short, t) := by
  fun_cases nextPair short long t with
  | case1 rest => exact absurd rfl h
  | case2 => rfl

theorem nextStar_of_head? {t : Text} (h : ¬ (o.exponentOperator = true ∧ t.head? = some '*')) :
    nextStar o t = (symbol .star, t) := by
  fun_cases nextStar o t with
  | case1 rest ho => exact absurd ⟨ho, rfl⟩ h
  | case2 => rfl
  | case3 => rfl

theorem nextSlash_of_head?_ne {t : Text} (h₁ : t.head? ≠ some '/') (h₂ : t.head? ≠ some '*') :
    nextSlash o t = (symbol .slash, t) := by
  fun_cases nextSlash o t with
  | case1 rest => exact absurd rfl h₁
  | case2 rest _ => exact absurd rfl h₂
  | case3 rest _ => exact absurd rfl h₂
  | case4 => rfl

theorem forall_bne_of_not_mem {d : Char} {body : Text} (h : d ∉ body) :
    ∀ c ∈ body, (c != d) = true :=
  fun _ hc ↦ bne_iff_ne.2 fun hcd ↦ h (hcd ▸ hc)

theorem nextLineComment_append {second : Char} {body rest : Text} (hbody : '\n' ∉ body)
    (hrest : ∀ c ∈ rest.head?, c = '\n') :
    nextLineComment second (body ++ rest) = (lineComment second body, rest) := by
  have hpos := forall_bne_of_not_mem hbody
  rw [nextLineComment, List.takeWhile_append_of_pos hpos, List.dropWhile_append_of_pos hpos]
  cases rest with
  | nil => simp
  | cons c rest =>
    obtain rfl := hrest c rfl
    simp

theorem nextString_append {body : Text} (hbody : '"' ∉ body) (rest : Text) :
    nextString (body ++ '"' :: rest) = (string body, rest) := by
  have hpos := forall_bne_of_not_mem hbody
  rw [nextString, List.dropWhile_append_of_pos hpos, List.takeWhile_append_of_pos hpos]
  simp

theorem nextString_of_not_mem {body : Text} (hbody : '"' ∉ body) :
    nextString body = (openString body, []) := by
  rw [nextString, List.dropWhile_eq_nil_iff.2 (forall_bne_of_not_mem hbody)]

/-- A step reads what fits in front of the rest, and leaves the rest.  So there is at most one piece
at the front of a text. -/
theorem next_of_fits {x : Lexeme} {rest : Text} (h : Fits o x rest) :
    ∃ c t, x.text = c :: t ∧ next o c (t ++ rest) = (x, rest) := by
  cases h with
  | @single c s _ h =>
    exact ⟨c, [], spelling_of_single? (single?_eq_some_iff.2 h), next_of_mem_singles h rest⟩
  | @long c short long _ h =>
    refine ⟨c, ['='], (spelling_of_pair? (pair?_eq_some_iff.2 h)).2, ?_⟩
    rw [next_of_mem_pairs h]
    rfl
  | @short c short long _ h hrest =>
    refine ⟨c, [], (spelling_of_pair? (pair?_eq_some_iff.2 h)).1, ?_⟩
    rw [next_of_mem_pairs h]
    exact nextPair_of_head?_ne hrest
  | starStar h => exact ⟨'*', ['*'], rfl, by simp [next_star, nextStar, h]⟩
  | star h => exact ⟨'*', [], rfl, nextStar_of_head? h⟩
  | slash h₁ h₂ => exact ⟨'/', [], rfl, nextSlash_of_head?_ne h₁ h₂⟩
  | @lineComment second body _ h hbody hrest =>
    refine ⟨'/', second :: body, rfl, ?_⟩
    rw [next_slash, List.cons_append, ← nextLineComment_append hbody hrest]
    rcases h with rfl | ⟨rfl, h⟩
    · rfl
    · rw [nextSlash, h]
      rfl
  -- the search for the end comes out at the first `*/`, which is behind the body
  | @blockComment body _ h hbody =>
    refine ⟨'/', '*' :: (body ++ ['*', '/']), rfl, ?_⟩
    rw [next_slash, List.cons_append, nextSlash, if_pos h, nextBlockComment, List.append_assoc]
    rw [List.cons_append, List.cons_append, List.nil_append, closing?_append hbody]
  | @openComment body h hbody =>
    refine ⟨'/', '*' :: body, rfl, ?_⟩
    rw [next_slash, List.append_nil, nextSlash, if_pos h, nextBlockComment,
      closing?_eq_none_iff.2 hbody]
  | @string body _ hbody =>
    refine ⟨'"', body ++ ['"'], rfl, ?_⟩
    rw [next_quote, List.append_assoc]
    exact nextString_append hbody rest
  | @openString body hbody =>
    refine ⟨'"', body, rfl, ?_⟩
    rw [next_quote, List.append_nil, nextString_of_not_mem hbody]
  | @blank c _ h => exact ⟨c, [], rfl, next_of_mem_blanks h rest⟩
  | @stray c _ h => exact ⟨c, [], rfl, next_of_not_mem_openers h rest⟩

/-!
## What a lexeme depends on

Two facts that carry nearly all comparisons of scans.  The scanner looks one character ahead, so a
lexeme stays one if what comes behind it begins alike, or if nothing comes behind it.  And it asks
for an option in one branch each.
-/

/-- **Of the text behind a lexeme no more than its first character matters**, and it does not matter
either if the text ends there.  An open lexeme is no exception: it has no text behind it, and so has
none to lose. -/
theorem Fits.of_head? {x : Lexeme} {r q : Text} (h : Fits o x r)
    (hq : ∀ c, q.head? = some c → r.head? = some c) : Fits o x q := by
  have hnil (hr : r = []) : q = [] := by
    cases q with
    | nil => rfl
    | cons c q =>
      rw [hr] at hq
      exact absurd (hq c rfl) nofun
  cases h with
  | single h => exact .single h
  | long h => exact .long h
  | short h hrest => exact .short h fun hc ↦ hrest (hq _ hc)
  | starStar h => exact .starStar h
  | star h => exact .star fun hc ↦ h ⟨hc.1, hq _ hc.2⟩
  | slash h₁ h₂ => exact .slash (fun hc ↦ h₁ (hq _ hc)) fun hc ↦ h₂ (hq _ hc)
  | lineComment h hbody hrest => exact .lineComment h hbody fun c hc ↦ hrest c (hq c hc)
  | blockComment h hbody => exact .blockComment h hbody
  -- what is open has nothing behind it, so nothing is behind it now
  | openComment h hbody => exact hnil rfl ▸ .openComment h hbody
  | string hbody => exact .string hbody
  | openString hbody => exact hnil rfl ▸ .openString hbody
  | blank h => exact .blank h
  | stray h => exact .stray h

/-- **Of the options only what concerns a lexeme matters to it**: the one of block comments to a
comment, and the one of the exponent operator to stars. -/
theorem Fits.of_options {o' : Options} {x : Lexeme} {r : Text} (h : Fits o x r)
    (hcomment : x.isComment = true → o'.blockComments = o.blockComments)
    (hstar : x = .symbol .star → o'.exponentOperator = true → o.exponentOperator = true)
    (hstarStar : x = .symbol .starStar → o.exponentOperator = true → o'.exponentOperator = true) :
    Fits o' x r := by
  cases h with
  | single h => exact .single h
  | long h => exact .long h
  | short h hrest => exact .short h hrest
  | starStar h => exact .starStar (hstarStar rfl h)
  | star h => exact .star fun hc ↦ h ⟨hstar rfl hc.1, hc.2⟩
  | slash h₁ h₂ => exact .slash h₁ h₂
  | lineComment h hbody hrest =>
    refine .lineComment (h.imp_right ?_) hbody hrest
    rintro ⟨rfl, hblock⟩
    exact ⟨rfl, (hcomment rfl).trans hblock⟩
  | blockComment h hbody => exact .blockComment ((hcomment rfl).trans h) hbody
  | openComment h hbody => exact .openComment ((hcomment rfl).trans h) hbody
  | string hbody => exact .string hbody
  | openString hbody => exact .openString hbody
  | blank h => exact .blank h
  | stray h => exact .stray h

/-! ## The whole text -/

theorem split_text_append {x : Lexeme} {rest : Text} (h : Fits o x rest) :
    split o (x.text ++ rest) = x :: split o rest := by
  obtain ⟨c, t, hc, hnext⟩ := next_of_fits h
  rw [hc, List.cons_append, split_cons, hnext]

theorem pieces_split (o : Options) (t : Text) : Pieces o t (split o t) := by
  fun_induction split o t with
  | case1 => exact .nil
  | case2 c t ih =>
    have h := Pieces.cons (fits_next o c t) ih
    rwa [text_next] at h

theorem Pieces.split_eq {t : Text} {xs : List Lexeme} (h : Pieces o t xs) : split o t = xs := by
  induction h with
  | nil => exact split_nil o
  | cons hx _ ih => rw [split_text_append hx, ih]

/-- **The splitting of a text is its only decomposition by the grammar.**  It follows that
`Scan.ofText` is determined by the rules, and could be computed in any other way. -/
theorem pieces_iff {t : Text} {xs : List Lexeme} : Pieces o t xs ↔ split o t = xs :=
  ⟨Pieces.split_eq, fun h ↦ h ▸ pieces_split o t⟩

theorem Pieces.flatMap_text {t : Text} {xs : List Lexeme} (h : Pieces o t xs) :
    xs.flatMap text = t := by
  rw [← h.split_eq, flatMap_text_split]

/-- Each piece fits in front of those behind it. -/
theorem Pieces.fits {t : Text} {pre post : List Lexeme} {x : Lexeme}
    (h : Pieces o t (pre ++ x :: post)) : Fits o x (post.flatMap text) := by
  induction pre generalizing t with
  | nil =>
    cases h with
    | cons hx hxs => rwa [hxs.flatMap_text]
  | cons y pre ih =>
    cases h with
    | cons _ hxs => exact ih hxs

theorem flatMap_text_concat_ne_nil (xs : List Lexeme) (x : Lexeme) :
    (xs ++ [x]).flatMap text ≠ [] := by
  rw [List.flatMap_append, List.flatMap_singleton]
  exact List.append_ne_nil_of_right_ne_nil _ x.text_ne_nil

/-- All pieces but the last stay what they are when the text goes on.  Only the last one has to be
looked at, because no other has seen the end of the text. -/
theorem Pieces.append_of_concat {a b : Text} {xs ys : List Lexeme} {x : Lexeme}
    (h : Pieces o a (xs ++ [x])) (hb : Pieces o (x.text ++ b) ys) :
    Pieces o (a ++ b) (xs ++ ys) := by
  induction xs generalizing a with
  | nil =>
    rw [← h.flatMap_text]
    simpa using hb
  | cons y xs ih =>
    cases h with
    | @cons _ rest _ hy hxs =>
      rw [List.append_assoc]
      refine .cons (hy.of_head? ?_) (ih hxs)
      -- `x` is still to come, so `y` is read in sight of the same character as before
      have hrest : rest ≠ [] := hxs.flatMap_text ▸ flatMap_text_concat_ne_nil xs x
      intro c hc
      rwa [List.head?_append_of_ne_nil _ hrest] at hc

/-- Each lexeme of a text is a piece in front of what comes behind it. -/
theorem exists_fits_of_mem_split {t : Text} {x : Lexeme} (h : x ∈ split o t) :
    ∃ rest, Fits o x rest := by
  obtain ⟨pre, post, hsplit⟩ := List.append_of_mem h
  exact ⟨post.flatMap text, (pieces_iff.2 hsplit).fits⟩

end LoxTokens.Lexeme
