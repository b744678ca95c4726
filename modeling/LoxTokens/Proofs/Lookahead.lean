import LoxTokens.Proofs.Grammar

/-!
# A text that goes on

What is found in a text stays found when more text is put behind it, except at its very end.  A
lexeme is read in sight of at most one character behind it (`_peek` and `_match` ask for no more),
so that all lexemes but the last are those of the longer text too
(`Lexeme.split_append_of_eq_concat`).

The last one may grow.  If it is a token, it grows in two ways only (`Lexeme.Grows`): a symbol of
one character becomes the symbol of two characters that it is the beginning of, and a slash becomes
the beginning of a comment.  If it is a stray character it stays one, and what is open has no token
and is no stray character.

* `Lexeme.Fits.exists_grows` — one lexeme at the end of a text.
* `Scan.Continued o t p k` — the same of tokens: what the longer text has where the shorter one
  ended with the token `k`.
* `Scan.ofText_append` — the tokens and the stray characters of the whole, as prefixes.

Reports of open constructs are left out of this.  They speak of the end of the text, and the end is
no longer where it was.
-/

set_option autoImplicit false

namespace LoxTokens

namespace Lexeme

variable {o : Options} {a : Text} {xs : List Lexeme} {x : Lexeme}

/-! ## All lexemes but the last -/

theorem split_append_of_eq_concat (h : split o a = xs ++ [x]) (b : Text) :
    split o (a ++ b) = xs ++ split o (x.text ++ b) :=
  ((pieces_iff.2 h).append_of_concat (pieces_split o _)).split_eq

/-- A lexeme in front of others is not open. -/
theorem isOpen_eq_false_of_concat (h : Pieces o a (xs ++ [x])) {y : Lexeme} (hy : y ∈ xs) :
    y.isOpen = false := by
  obtain ⟨pre, post, rfl⟩ := List.append_of_mem hy
  rw [List.append_assoc, List.cons_append] at h
  by_contra hopen
  exact flatMap_text_concat_ne_nil post x (h.fits.eq_nil_of_isOpen (eq_true_of_ne_false hopen))

/-!
## The last lexeme

The cases are those of the grammar in front of the empty text.  The character that comes next is the
only thing that is asked for, and for most lexemes not even that.
-/

/-- What a lexeme at the end of a text can be when the text goes on, if it is a token.  A comment
may be closed or open, and of any length. -/
inductive Grows : Lexeme → Lexeme → Prop
  /-- It stays what it is. -/
  | same (x : Lexeme) : Grows x x
  /-- A symbol of one character makes a symbol with the character behind it. -/
  | longer {s s' : Symbol} {c d : Char} (hs : s.spelling = [c]) (hs' : s'.spelling = [c, d]) :
      Grows (symbol s) (symbol s')
  /-- A slash opens a comment. -/
  | comment {y : Lexeme} (hy : y.isComment = true) : Grows (symbol .slash) y

theorem isComment_nextSlash {b : Text} (h : b.head? = some '/' ∨ b.head? = some '*') :
    (nextSlash o b).1.isComment = true := by
  fun_cases nextSlash o b with
  | case1 rest => rfl
  | case2 rest _ =>
    rw [nextBlockComment]
    split <;> rfl
  | case3 rest _ => rfl
  | case4 _ h₁ h₂ => exact absurd h (not_or.2 ⟨head?_ne_of_forall h₁, head?_ne_of_forall h₂⟩)

/-- What fits in front of the longer text is found there. -/
theorem exists_grows_of_fits {b : Text} (h : Fits o x b) :
    ∃ y ys, split o (x.text ++ b) = y :: ys ∧ Grows x y :=
  ⟨x, split o b, split_text_append h, .same x⟩

/-- A symbol makes a longer one with the character behind it. -/
theorem exists_grows_of_spelling {s s' : Symbol} {c d : Char} {b : Text} (hs : s.spelling = [c])
    (hs' : s'.spelling = [c, d]) (hb : b.head? = some d)
    (h : ∀ rest, Fits o (symbol s') rest) :
    ∃ y ys, split o ((symbol s).text ++ b) = y :: ys ∧ Grows (symbol s) y := by
  obtain ⟨rest, rfl⟩ := List.head?_eq_some_iff.1 hb
  have htext : (symbol s).text ++ d :: rest = (symbol s').text ++ rest := by simp [text, hs, hs']
  exact ⟨symbol s', split o rest, by rw [htext, split_text_append (h rest)], .longer hs hs'⟩

/-- **A token at the end of a text grows by one character at most**, unless it is a slash. -/
theorem Fits.exists_grows (h : Fits o x []) (hx : x.isToken = true) (b : Text) :
    ∃ y ys, split o (x.text ++ b) = y :: ys ∧ Grows x y := by
  cases h with
  | single h => exact exists_grows_of_fits (.single h)
  | long h => exact exists_grows_of_fits (.long h)
  | short h _ =>
    by_cases hb : b.head? = some '='
    · obtain ⟨hs, hs'⟩ := spelling_of_pair? (pair?_eq_some_iff.2 h)
      exact exists_grows_of_spelling hs hs' hb fun _ ↦ .long h
    · exact exists_grows_of_fits (.short h hb)
  | starStar h => exact exists_grows_of_fits (.starStar h)
  -- the second star is taken only if two stars are one symbol
  | star _ =>
    by_cases hb : o.exponentOperator = true ∧ b.head? = some '*'
    · have hs : Symbol.starStar.spelling = ['*', '*'] := rfl
      exact exists_grows_of_spelling rfl hs hb.2 fun _ ↦ .starStar hb.1
    · exact exists_grows_of_fits (.star hb)
  | slash _ _ =>
    by_cases hb : b.head? = some '/' ∨ b.head? = some '*'
    · exact ⟨_, _, split_cons o '/' b, .comment (next_slash b ▸ isComment_nextSlash hb)⟩
    · obtain ⟨h₁, h₂⟩ := not_or.1 hb
      exact exists_grows_of_fits (.slash h₁ h₂)
  | string h => exact exists_grows_of_fits (.string h)
  | _ => simp [isToken] at hx

end Lexeme

namespace Scan

open Lexeme

variable {o : Options} {a : Text} {xs : List Lexeme} {x : Lexeme}

/-! ## Tokens -/

/-- The tokens of the lexemes in front of the last one. -/
theorem tokensAt_of_eq_concat (h : split o a = xs ++ [x]) :
    tokensAt o a = (locate 0 xs).filterMap (tokenAt a)
      ++ (tokenAt a ((xs.flatMap text).length, x)).toList := by
  rw [tokensAt, h, locate_append, List.filterMap_append, locate, locate, Nat.zero_add,
    List.filterMap_cons]
  cases tokenAt a ((xs.flatMap text).length, x) <;> rfl

theorem length_of_eq_concat (h : split o a = xs ++ [x]) :
    a.length = (xs.flatMap text).length + x.text.length := by
  rw [← flatMap_text_split o a, h, List.flatMap_append, List.length_append, List.flatMap_singleton]

/-- A token in front of the last lexeme ends before the text does. -/
theorem end_lt_of_mem (h : split o a = xs ++ [x]) {q : Nat × Token}
    (hq : q ∈ (locate 0 xs).filterMap (tokenAt a)) : q.1 + q.2.lexeme.length < a.length := by
  obtain ⟨p, hp, hk⟩ := List.mem_filterMap.1 hq
  obtain ⟨hq, hk⟩ := tokenAt_eq_some_iff.1 hk
  have hle := add_length_le_of_mem_locate (show (p.1, p.2) ∈ _ from hp)
  have hpos := List.length_pos_iff.2 x.text_ne_nil
  rw [hq, (eq_of_token? hk).1, length_of_eq_concat h]
  omega

/-- The tokens of the lexemes in front of the last one are those of the longer text too. -/
theorem filterMap_tokenAt_append (h : split o a = xs ++ [x]) (b : Text) :
    (locate 0 xs).filterMap (tokenAt (a ++ b)) = (locate 0 xs).filterMap (tokenAt a) := by
  refine List.filterMap_congr fun p hp ↦ ?_
  have hle := add_length_le_of_mem_locate (show (p.1, p.2) ∈ _ from hp)
  have hlen := length_of_eq_concat h
  rw [tokenAt, tokenAt, Text.lineAt_append_of_le (by omega)]

/-- The tokens that end before the text does are the first tokens of the longer text.  A token that
ends where the text does is left out of them, since it may have grown. -/
theorem filter_tokensAt_isPrefix (o : Options) (a b : Text) :
    ((tokensAt o a).filter fun p ↦ p.1 + p.2.lexeme.length < a.length) <+: tokensAt o (a ++ b) := by
  rcases List.eq_nil_or_concat (split o a) with h | ⟨xs, x, h⟩
  · simp [tokensAt, h, locate]
  · rw [List.concat_eq_append] at h
    -- the last lexeme ends where the text does, so its token is filtered out
    have hlast : ((tokenAt a ((xs.flatMap text).length, x)).toList.filter
        fun p ↦ p.1 + p.2.lexeme.length < a.length) = [] := by
      rw [List.filter_eq_nil_iff]
      intro q hq
      obtain ⟨hp, hk⟩ := tokenAt_eq_some_iff.1 (Option.mem_toList.1 hq)
      rw [hp, (eq_of_token? hk).1, length_of_eq_concat h]
      simp
    have hfirst : ((locate 0 xs).filterMap (tokenAt a)).filter
        (fun p ↦ p.1 + p.2.lexeme.length < a.length) = (locate 0 xs).filterMap (tokenAt a) :=
      List.filter_eq_self.2 fun q hq ↦ decide_eq_true (end_lt_of_mem h hq)
    rw [tokensAt_of_eq_concat h, List.filter_append, hlast, hfirst, List.append_nil, tokensAt,
      split_append_of_eq_concat h, locate_append, List.filterMap_append,
      filterMap_tokenAt_append h b]
    exact List.prefix_append _ _

/-- What a text holds at the position `p`, where a shorter text that it begins with ended with the
token `k`.  There is no fourth case: such a token never vanishes but into a comment. -/
inductive Continued (o : Options) (t : Text) (p : Nat) (k : Token) : Prop
  /-- The token. -/
  | same (h : (p, k) ∈ tokensAt o t)
  /-- A symbol of two characters, of which the token is the first, on the same line. -/
  | longer {s : Symbol} {c d : Char} (hk : k.lexeme = [c]) (hs : s.spelling = [c, d])
      (h : (p, ⟨.symbol s, [c, d], none, k.line⟩) ∈ tokensAt o t)
  /-- A comment, if the token is a slash. -/
  | comment {y : Lexeme} (hk : k.kind = .symbol .slash) (hy : y.isComment = true)
      (h : (p, y) ∈ locate 0 (split o t))

theorem continued_of_grows {t : Text} {p : Nat} {k : Token} {y : Lexeme} (hg : Grows x y)
    (hk : x.token? (Text.lineAt t p) = some k) (hy : (p, y) ∈ locate 0 (split o t)) :
    Continued o t p k := by
  cases hg with
  | same => exact .same (mem_tokensAt_iff.2 ⟨x, hy, hk⟩)
  | longer hs hs' =>
    obtain rfl := Option.some.inj hk
    exact .longer hs hs' (mem_tokensAt_iff.2 ⟨_, hy, by rw [token?, hs']⟩)
  | comment hcomment =>
    obtain rfl := Option.some.inj hk
    exact .comment rfl hcomment hy

/-- What becomes of a token that ends where the text does. -/
theorem continued_of_mem_tokensAt {p : Nat} {k : Token} (hk : (p, k) ∈ tokensAt o a)
    (hend : p + k.lexeme.length = a.length) (b : Text) : Continued o (a ++ b) p k := by
  rcases List.eq_nil_or_concat (split o a) with h | ⟨xs, x, h⟩
  · simp [tokensAt, h, locate] at hk
  · rw [List.concat_eq_append] at h
    rw [tokensAt_of_eq_concat h, List.mem_append] at hk
    rcases hk with hk | hk
    · exact absurd hend (Nat.ne_of_lt (end_lt_of_mem h hk))
    · obtain ⟨rfl, hk⟩ := tokenAt_eq_some_iff.1 (Option.mem_toList.1 hk)
      have hfits : Fits o x [] := (pieces_iff.2 h).fits
      obtain ⟨y, ys, hsplit, hg⟩ := hfits.exists_grows (isToken_of_token? hk) b
      refine continued_of_grows hg ?_ ?_
      · rwa [Text.lineAt_append_of_le (Nat.le.intro hend)]
      · rw [split_append_of_eq_concat h, hsplit, locate_append, Nat.zero_add, locate]
        exact List.mem_append_right _ List.mem_cons_self

/-! ## Reports -/

/-- What is reported of a lexeme that is not open is a stray character. -/
theorem fault_of_isOpen_eq_false {line : Nat} {r : Report} (hx : x.isOpen = false)
    (hr : x.report? line = some r) : r.fault = .unexpectedCharacter := by
  cases x with
  | stray c =>
    obtain rfl := Option.some.inj hr
    rfl
  | openString body => simp [isOpen] at hx
  | openComment body => simp [isOpen] at hx
  | _ => simp [report?] at hr

/-- The report of a stray character at the end of a text is the first one of the text from there
on. -/
theorem filter_report?_isPrefix (hx : Fits o x []) (line : Nat) (b : Text) :
    ((x.report? line).toList.filter fun r ↦ r.fault = .unexpectedCharacter) <+:
      collect report? line (split o (x.text ++ b)) := by
  cases hx with
  | stray h =>
    rw [split_text_append (.stray h), collect_cons]
    exact List.prefix_append _ _
  | _ => simp [report?]

/-- The stray characters of a text are the first things that are wrong with the longer text. -/
theorem filter_reports_isPrefix (o : Options) (a b : Text) :
    ((ofText o a).reports.filter fun r ↦ r.fault = .unexpectedCharacter)
      <+: (ofText o (a ++ b)).reports := by
  have hreports (t : Text) : (ofText o t).reports = collect report? 1 (split o t) := rfl
  rcases List.eq_nil_or_concat (split o a) with h | ⟨xs, x, h⟩
  · simp [hreports, h]
  · rw [List.concat_eq_append] at h
    have hpieces : Pieces o a (xs ++ [x]) := pieces_iff.2 h
    have hfirst : ((collect report? 1 xs).filter fun r ↦ r.fault = .unexpectedCharacter) =
        collect report? 1 xs := by
      refine List.filter_eq_self.2 fun r hr ↦ decide_eq_true ?_
      obtain ⟨n, y, hy, hr⟩ := exists_of_mem_collect hr
      exact fault_of_isOpen_eq_false (isOpen_eq_false_of_concat hpieces hy) hr
    rw [hreports, hreports, h, split_append_of_eq_concat h, collect_append, collect_append,
      List.filter_append, hfirst, collect_singleton]
    exact (List.prefix_append_right_inj _).2 (filter_report?_isPrefix hpieces.fits _ b)

/-! ## The whole scan -/

/-- **A text that goes on keeps what was found in it.**  The tokens of a text, each of which lies
where `tokensAt` says, are the first tokens of the longer text as far as they end before the text
does, and its stray characters are the first reports of the longer text.  A token that ends where
the text does is found again, or is the beginning of a symbol of two characters, or is a slash and
opens a comment. -/
theorem ofText_append (o : Options) (a b : Text) :
    (∀ t, (ofText o t).tokens = (tokensAt o t).map Prod.snd ++ [Token.closing t]) ∧
      ((tokensAt o a).filter fun p ↦ p.1 + p.2.lexeme.length < a.length)
        <+: tokensAt o (a ++ b) ∧
      ((ofText o a).reports.filter fun r ↦ r.fault = .unexpectedCharacter)
        <+: (ofText o (a ++ b)).reports ∧
      ∀ p k, (p, k) ∈ tokensAt o a → k.lexeme <+: a.drop p ∧
        (p + k.lexeme.length = a.length → Continued o (a ++ b) p k) := by
  refine ⟨tokens_eq_tokensAt o, filter_tokensAt_isPrefix o a b, filter_reports_isPrefix o a b, ?_⟩
  intro p k hk
  exact ⟨lexeme_isPrefix_of_mem_tokensAt hk, fun hend ↦ continued_of_mem_tokensAt hk hend b⟩

/-- A slash behind a string of two lines opens a comment with the star that comes behind it. -/
theorem ofText_append_slash :
    ((3, ⟨.symbol .slash, ['/'], none, 2⟩) ∈ tokensAt {} ['"', '\n', '"', '/'] ∧
      3 + ['/'].length = ['"', '\n', '"', '/'].length) ∧
      ['/'] <+: ['"', '\n', '"', '/'].drop 3 ∧
      Continued {} (['"', '\n', '"', '/'] ++ ['*', '@']) 3 ⟨.symbol .slash, ['/'], none, 2⟩ := by
  have hslash : (3, ⟨.symbol .slash, ['/'], none, 2⟩) ∈ tokensAt {} ['"', '\n', '"', '/'] := by
    decide +kernel
  obtain ⟨-, -, -, htokens⟩ := ofText_append {} ['"', '\n', '"', '/'] ['*', '@']
  obtain ⟨hlies, hcontinued⟩ := htokens 3 _ hslash
  exact ⟨⟨hslash, rfl⟩, hlies, hcontinued rfl⟩

end Scan

end LoxTokens
