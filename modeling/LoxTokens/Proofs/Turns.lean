import LoxTokens.Cursor
import LoxTokens.Proofs.Grammar

/-!
# The turns that a lexeme takes

A `Cursor` takes one turn for a symbol, and one for nearly every character of a comment or a string,
as `_scan_token` takes one call for the one and a round of a loop for each of the other.  This file
follows a cursor from the beginning of a lexeme to its end.

* `Cursor.unread t w` — what the cursor `w` has still to read of the text `t`.  Nothing else of the
  text matters to the turns, and everything below is said in terms of it; positions come back only
  where a token is cut out of the text (`extract_of_unread`).
* `Cursor.Leads o t w w'` — turns from `w` to `w'` with no stop between two lexemes on the way.
* `Cursor.pass w x` — the cursor `w` behind the lexeme `x`, with what this yields written down.

`Cursor.leads_pass` has one case for each rule of the grammar: in front of a piece the turns lead
behind it.  The turns inside of a comment or a string are gone through once for all of them, in
`leads_of_move`; what differs is the character at which they end.

Only here are the branches of `Cursor.after` and `Cursor.step` looked into for what they write down.
If a branch of `_scan_token` changes, it is the lemmas of that one lexeme that change with it.
-/

set_option autoImplicit false

namespace LoxTokens.Cursor

open Lexeme

variable {o : Options} {t s u rest body : Text} {c : Char} {w w' : Cursor} {x : Lexeme}

/-!
## What is not read yet

A cursor behind some more characters is again a cursor, and has read them (`Cursor.move`).  The
methods `_at_end`, `_peek`, `_advance` and `_match` are restated by the first character that is not
read yet.
-/

/-- What the cursor has still to read: the text behind it. -/
def unread (t : Text) (w : Cursor) : Text := t.drop w.current

/-- The cursor behind the text `s`. -/
def move (w : Cursor) (s : Text) : Cursor :=
  { w with current := w.current + s.length, line := w.line + Text.newlines s }

@[simp] theorem mode_move (w : Cursor) (s : Text) : (w.move s).mode = w.mode := rfl

@[simp] theorem startLine_move (w : Cursor) (s : Text) : (w.move s).startLine = w.startLine := rfl

theorem move_append (w : Cursor) (s u : Text) : w.move (s ++ u) = (w.move s).move u := by
  simp only [move, List.length_append, Text.newlines_append, Nat.add_assoc]

theorem unread_move (h : w.unread t = s ++ u) : (w.move s).unread t = u := by
  rw [unread] at h
  rw [unread, move, ← List.drop_drop, h, List.drop_left]

theorem getElem?_current (t : Text) (w : Cursor) : t[w.current]? = (w.unread t).head? := by
  rw [unread, List.head?_drop]

theorem atEnd_eq_false (h : w.unread t = c :: u) : w.atEnd t = false := by
  rw [unread] at h
  have hlt : w.current < t.length := by
    by_contra hle
    rw [List.drop_eq_nil_of_le (Nat.le_of_not_lt hle)] at h
    exact absurd h nofun
  simpa [atEnd] using hlt

theorem atEnd_of_unread (h : w.unread t = []) : w.atEnd t = true := by
  simpa [atEnd, unread] using h

theorem peek_of_unread (h : w.unread t = c :: u) : w.peek t = c := by
  rw [peek, getElem?_current, h]
  rfl

theorem advance?_of_unread (h : w.unread t = c :: u) : w.advance? t = some (c, w.move [c]) := by
  rw [advance?, getElem?_current, h, List.head?_cons, Option.map_some, move]
  by_cases hc : c = '\n'
  · rw [if_pos hc, hc]
    rfl
  · rw [if_neg hc, Text.newlines, List.count_cons_of_ne hc]
    rfl

theorem accept?_of_unread (h : w.unread t = c :: u) (hc : c ≠ '\n') :
    w.accept? t c = some (w.move [c]) := by
  rw [accept?, getElem?_current, h, List.head?_cons, if_pos rfl, move, Text.newlines,
    List.count_cons_of_ne hc]
  rfl

theorem accept?_of_head?_ne (h : (w.unread t).head? ≠ some c) : w.accept? t c = none := by
  rw [accept?, getElem?_current, if_neg h]

/-- What a token cuts out of the text between two positions is what was unread at the first. -/
theorem extract_of_unread (h : w.unread t = s ++ u) :
    t.extract w.current (w.current + s.length) = s := by
  rw [unread] at h
  rw [List.extract_eq_take_drop, h, Nat.add_sub_cancel_left, List.take_left]

/-!
## Turns

One lemma for each thing that a turn can do in each mode: read on, or stop.  The two loops of
`_skip_line_comment` and `_scan_string` ask for the next character before they read it; the one of
`_skip_block_comment` reads first and asks then, so that its lemma speaks of what lies behind the
character.
-/

/-- Turns from one cursor to another, with no stop between two lexemes on the way.  Not all that is
reached in many turns is led to: the way may not go over another lexeme. -/
inductive Leads (o : Options) (t : Text) : Cursor → Cursor → Prop
  | one {w w' : Cursor} (h : w.step o t = some w') : Leads o t w w'
  | more {w v w' : Cursor} (h : w.step o t = some v) (hv : v.mode ≠ .between)
      (hl : Leads o t v w') : Leads o t w w'

/-- Inside a lexeme, turns that read `s` character by character come first.  The induction is on
`s`.  What a turn does may depend on what is left of `s`, and not only on the character, since a
star ends a comment only in front of a slash; hence the suffix in `hstep`. -/
theorem leads_of_move (hw : w.mode ≠ .between) (h : w.unread t = s ++ rest)
    (hstep : ∀ (v : Cursor) c post, v.mode = w.mode → c :: post <:+ s →
      v.unread t = c :: (post ++ rest) → v.step o t = some (v.move [c]))
    (hl : Leads o t (w.move s) w') : Leads o t w w' := by
  induction s generalizing w with
  | nil => exact hl
  | cons c s ih =>
    have hfirst : w.step o t = some (w.move [c]) := hstep w c s rfl List.suffix_rfl h
    have hnext : (w.move [c]).unread t = s ++ rest := unread_move h
    -- the rest of `s` is a suffix of it, so the same hypothesis serves for the turns behind
    refine .more hfirst hw (ih hw hnext ?_ ?_)
    · intro v d post hv hs
      exact hstep v d post hv (hs.trans (List.suffix_cons c s))
    · rwa [← move_append]

/-- Between two lexemes, the mark is set and the first character read, in one turn. -/
theorem step_between (hw : w.mode = .between) (h : w.unread t = c :: u) :
    w.step o t = some ((w.mark.move [c]).after o t c) := by
  have hend : w.atEnd t = false := atEnd_eq_false h
  have hmark : w.mark.advance? t = some (c, w.mark.move [c]) := advance?_of_unread h
  rw [step, hw]
  simp [hend, hmark]

theorem step_finish (hw : w.mode = .between) (h : w.unread t = []) :
    w.step o t = some w.finish := by
  rw [step, hw]
  simp [atEnd_of_unread h]

theorem step_lineComment (hw : w.mode = .lineComment) (h : w.unread t = c :: u) (hc : c ≠ '\n') :
    w.step o t = some (w.move [c]) := by
  rw [step, hw]
  simp [peek_of_unread h, atEnd_eq_false h, advance?_of_unread h, hc]

theorem step_string (hw : w.mode = .string) (h : w.unread t = c :: u) (hc : c ≠ '"') :
    w.step o t = some (w.move [c]) := by
  rw [step, hw]
  simp [peek_of_unread h, atEnd_eq_false h, advance?_of_unread h, hc]

/-- Inside of a comment that ends with `*/`, any character is read, and with a star perhaps a
slash. -/
theorem step_blockComment (hw : w.mode = .blockComment) (h : w.unread t = c :: u) :
    w.step o t = some ((w.move [c]).afterComment t c) := by
  rw [step, hw]
  simp [atEnd_eq_false h, advance?_of_unread h]

/-- A comment to the end of the line is left in front of the line feed, or at the end. -/
theorem step_lineComment_stop (hw : w.mode = .lineComment)
    (h : ∀ c ∈ (w.unread t).head?, c = '\n') : w.step o t = some { w with mode := .between } := by
  rw [step, hw]
  cases hun : w.unread t with
  | nil => simp [atEnd_of_unread hun]
  | cons c u =>
    rw [hun] at h
    simp [peek_of_unread hun, h c rfl]

theorem step_blockComment_stop (hw : w.mode = .blockComment) (h : w.unread t = []) :
    w.step o t = some (w.addReport w.startLine .unterminatedComment) := by
  rw [step, hw]
  simp [atEnd_of_unread h]

theorem step_string_stop (hw : w.mode = .string) (h : w.unread t = []) :
    w.step o t = some (w.addReport w.line .unterminatedString) := by
  rw [step, hw]
  simp [atEnd_of_unread h]

/-- At the quote that closes a string, the quote is read and the string is over. -/
theorem step_string_quote (hw : w.mode = .string) (h : w.unread t = '"' :: u) :
    w.step o t = some ((w.move ['"']).afterString t) := by
  rw [step, hw]
  simp [peek_of_unread h, atEnd_eq_false h, advance?_of_unread h]

theorem ne_of_cons_suffix {d : Char} {post : Text} (hd : d ∉ body) (hs : c :: post <:+ body) :
    c ≠ d := by
  rintro rfl
  exact hd (hs.subset List.mem_cons_self)

/-- Turns through a comment that ends with its line. -/
theorem leads_lineComment (hw : w.mode = .lineComment) (h : w.unread t = body ++ rest)
    (hbody : '\n' ∉ body) (hrest : ∀ c ∈ rest.head?, c = '\n') :
    Leads o t w { w.move body with mode := .between } := by
  refine leads_of_move (by simp [hw]) h ?_ (.one ?_)
  · intro v c post hv hs hun
    exact step_lineComment (hv.trans hw) hun (ne_of_cons_suffix hbody hs)
  · have hun : (w.move body).unread t = rest := unread_move h
    exact step_lineComment_stop ((mode_move w body).trans hw) (hun ▸ hrest)

/-- Turns up to the quote that closes a string. -/
theorem leads_string (hw : w.mode = .string) (h : w.unread t = body ++ '"' :: rest)
    (hbody : '"' ∉ body) : Leads o t w ((w.move (body ++ ['"'])).afterString t) := by
  refine leads_of_move (by simp [hw]) h ?_ (.one ?_)
  · intro v c post hv hs hun
    exact step_string (hv.trans hw) hun (ne_of_cons_suffix hbody hs)
  · have hun : (w.move body).unread t = '"' :: rest := unread_move h
    rw [move_append]
    exact step_string_quote ((mode_move w body).trans hw) hun

/-- Turns through a string that is never closed. -/
theorem leads_openString (hw : w.mode = .string) (h : w.unread t = body) (hbody : '"' ∉ body) :
    Leads o t w ((w.move body).addReport (w.move body).line .unterminatedString) := by
  rw [← List.append_nil body] at h
  refine leads_of_move (by simp [hw]) h ?_ (.one ?_)
  · intro v c post hv hs hun
    exact step_string (hv.trans hw) hun (ne_of_cons_suffix hbody hs)
  · have hun : (w.move body).unread t = [] := unread_move h
    exact step_string_stop ((mode_move w body).trans hw) hun

/-- Inside a comment that ends with `*/`, what is not that end is read on.  This is where it matters
that `body` holds no `*/`. -/
theorem step_blockComment_of_not_infix {post : Text} (hw : w.mode = .blockComment)
    (h : w.unread t = c :: (post ++ rest)) (hs : c :: post <:+ body)
    (hbody : ¬ ['*', '/'] <:+: body) (hrest : rest.head? ≠ some '/') :
    w.step o t = some (w.move [c]) := by
  rw [step_blockComment hw h, afterComment]
  by_cases hc : c = '*'
  · have hnext : ((w.move [c]).unread t).head? ≠ some '/' := by
      rw [unread_move (s := [c]) h]
      cases post with
      | nil => exact hrest
      | cons d post =>
        intro hd
        obtain rfl := Option.some.inj hd
        subst hc
        exact hbody ((List.prefix_append ['*', '/'] post).isInfix.trans hs.isInfix)
    rw [if_pos hc, accept?_of_head?_ne hnext]
  · rw [if_neg hc]

/-- Turns through a comment up to the first `*/`. -/
theorem leads_blockComment (hw : w.mode = .blockComment)
    (h : w.unread t = body ++ '*' :: '/' :: rest) (hbody : ¬ ['*', '/'] <:+: body) :
    Leads o t w { w.move (body ++ ['*', '/']) with mode := .between } := by
  refine leads_of_move (by simp [hw]) h ?_ (.one ?_)
  · intro v c post hv hs hun
    exact step_blockComment_of_not_infix (hv.trans hw) hun hs hbody (by simp)
  -- at the first `*/` the star is read and the slash accepted
  · have hun : (w.move body).unread t = '*' :: '/' :: rest := unread_move h
    have hstar : ((w.move body).move ['*']).unread t = '/' :: rest := unread_move hun
    rw [step_blockComment ((mode_move w body).trans hw) hun, afterComment, if_pos rfl,
      accept?_of_unread hstar (by decide), ← move_append, ← move_append]
    rfl

/-- Turns through a comment that is never closed. -/
theorem leads_openComment (hw : w.mode = .blockComment) (h : w.unread t = body)
    (hbody : ¬ ['*', '/'] <:+: body) :
    Leads o t w ((w.move body).addReport w.startLine .unterminatedComment) := by
  rw [← List.append_nil body] at h
  refine leads_of_move (by simp [hw]) h ?_ (.one ?_)
  · intro v c post hv hs hun
    exact step_blockComment_of_not_infix (hv.trans hw) hun hs hbody (by simp)
  · have hun : (w.move body).unread t = [] := unread_move h
    exact step_blockComment_stop ((mode_move w body).trans hw) hun

/-!
## One lexeme

Between two lexemes a cursor keeps nothing of those before but what they have left in the lists and
how far they reach.  So there is a cursor behind a lexeme that is known before any turn is taken
(`Cursor.pass`), and the turns only have to be seen to lead there.
-/

/-- The lexeme that begins at the mark is over, and what it yields is written down. -/
def close (w : Cursor) (x : Lexeme) : Cursor :=
  { w with
    mode := .between
    tokens := w.tokens ++ (x.token? w.startLine).toList
    reports := w.reports ++ (x.report? w.startLine).toList }

/-- The cursor behind the lexeme.  It is the meaning of a call of `_scan_token`, in one step. -/
def pass (w : Cursor) (x : Lexeme) : Cursor := (w.mark.move x.text).close x

theorem addToken_eq_pass {kind : Kind} {literal : Option Text} (h : w.unread t = x.text ++ rest)
    (hx : x.token? w.line = some ⟨kind, x.text, literal, w.line⟩) :
    (w.mark.move x.text).addToken t kind literal = w.pass x := by
  have htext : t.extract (w.mark.move x.text).start (w.mark.move x.text).current = x.text :=
    extract_of_unread h
  have htoken : x.token? (w.mark.move x.text).startLine = some ⟨kind, x.text, literal, w.line⟩ := hx
  rw [pass, close, addToken, htext, htoken, report?_eq_none_of_token? htoken]
  simp [mark]

/-- A symbol is written down as soon as it is read. -/
theorem addToken_symbol {k : Symbol} (h : w.unread t = k.spelling ++ rest) :
    (w.mark.move k.spelling).addToken t (.symbol k) none = w.pass (symbol k) :=
  addToken_eq_pass (x := symbol k) h rfl

/-- What is wrong is written down. -/
theorem addReport_eq_pass {line : Nat} {fault : Fault} (htoken : x.token? w.line = none)
    (hreport : x.report? w.line = some ⟨line, fault⟩) :
    (w.mark.move x.text).addReport line fault = w.pass x := by
  have htoken' : x.token? (w.mark.move x.text).startLine = none := htoken
  have hreport' : x.report? (w.mark.move x.text).startLine = some ⟨line, fault⟩ := hreport
  rw [pass, close, addReport, htoken', hreport']
  simp

/-- A lexeme that yields nothing is only left. -/
theorem pass_of_silent (htoken : x.token? w.line = none) (hreport : x.report? w.line = none) :
    w.pass x = { w.mark.move x.text with mode := .between } := by
  have htoken' : x.token? (w.mark.move x.text).startLine = none := htoken
  have hreport' : x.report? (w.mark.move x.text).startLine = none := hreport
  rw [pass, close, htoken', hreport']
  simp

/-- A string is written down with what lies between its quotes. -/
theorem afterString_eq_pass (h : w.unread t = '"' :: (body ++ '"' :: rest)) :
    (w.mark.move (string body).text).afterString t = w.pass (string body) := by
  have hbody : (w.move ['"']).unread t = body ++ '"' :: rest := unread_move (s := ['"']) h
  have hliteral : t.extract (w.current + 1) (w.current + 1 + body.length) = body :=
    extract_of_unread hbody
  have hend : w.current + (string body).text.length - 1 = w.current + 1 + body.length := by
    simp only [text, List.length_cons, List.length_append, List.length_nil]
    omega
  have htext : w.unread t = (string body).text ++ rest := by
    rw [h]
    simp [text]
  rw [← hend] at hliteral
  have htoken : (w.mark.move (string body).text).addToken t .string (some body) = w.pass _ :=
    addToken_eq_pass htext rfl
  rw [← htoken, afterString]
  exact congrArg (fun l ↦ addToken t .string (some l) _) hliteral

/-!
## Behind the first character

The branches of `_scan_token`, each with the characters that lead to it.  The tables come first, so
that a character of one of them is never looked up further down.
-/

theorem after_of_mem_singles {k : Symbol} (h : (c, k) ∈ Symbol.singles) :
    w.after o t c = w.addToken t (.symbol k) none := by
  rw [after, single?_eq_some_iff.2 h]

theorem after_of_mem_pairs {short long : Symbol} (h : (c, short, long) ∈ Symbol.pairs) :
    w.after o t c = w.afterPair t short long := by
  rw [after, single?_eq_none_of_mem_pairs h, pair?_eq_some_iff.2 h]

theorem after_star : w.after o t '*' = w.afterStar o t := rfl

theorem after_slash : w.after o t '/' = w.afterSlash o t := rfl

theorem after_quote : w.after o t '"' = { w with mode := .string } := rfl

theorem after_of_mem_blanks (h : c ∈ [' ', '\r', '\t', '\n']) : w.after o t c = w := by
  simp only [List.mem_cons, List.not_mem_nil, or_false] at h
  rcases h with rfl | rfl | rfl | rfl <;> rfl

theorem after_of_not_mem_openers (h : c ∉ openers) :
    w.after o t c = w.addReport w.line .unexpectedCharacter := by
  obtain ⟨hs, hp, hstar, hslash, hquote, hblank⟩ := not_mem_openers_iff.1 h
  rw [after, hs, hp]
  simp [hstar, hslash, hquote, hblank]

/-!
## The turns of a lexeme

A symbol takes a single turn, in which at most one more character is accepted.  A comment or a
string is opened in one turn, gone through in many, and ends as its rule of the grammar says.
-/

/-- A symbol takes one turn, which only has to find out where it ends. -/
theorem leads_symbol {k : Symbol} (hw : w.mode = .between) (hk : k.spelling = c :: s)
    (h : w.unread t = k.spelling ++ rest)
    (hafter : (w.mark.move [c]).unread t = s ++ rest →
      (w.mark.move [c]).after o t c = (w.mark.move k.spelling).addToken t (.symbol k) none) :
    Leads o t w (w.pass (symbol k)) := by
  have hfirst : w.unread t = c :: (s ++ rest) := by rw [h, hk, List.cons_append]
  have hsecond : (w.mark.move [c]).unread t = s ++ rest := unread_move (s := [c]) hfirst
  refine .one ?_
  rw [step_between hw hfirst, hafter hsecond, addToken_symbol h]

theorem leads_single {k : Symbol} (hw : w.mode = .between) (hk : (c, k) ∈ Symbol.singles)
    (h : w.unread t = k.spelling ++ rest) : Leads o t w (w.pass (symbol k)) := by
  have hs : k.spelling = [c] := spelling_of_single? (single?_eq_some_iff.2 hk)
  refine leads_symbol hw hs h ?_
  intro _
  rw [after_of_mem_singles hk, hs]

theorem leads_long {short long : Symbol} (hw : w.mode = .between)
    (hk : (c, short, long) ∈ Symbol.pairs) (h : w.unread t = long.spelling ++ rest) :
    Leads o t w (w.pass (symbol long)) := by
  have hs : long.spelling = [c] ++ ['='] := (spelling_of_pair? (pair?_eq_some_iff.2 hk)).2
  refine leads_symbol hw hs h ?_
  intro hsecond
  rw [after_of_mem_pairs hk, afterPair, accept?_of_unread hsecond (by decide), ← move_append, ← hs]

theorem leads_short {short long : Symbol} (hw : w.mode = .between)
    (hk : (c, short, long) ∈ Symbol.pairs) (hrest : rest.head? ≠ some '=')
    (h : w.unread t = short.spelling ++ rest) : Leads o t w (w.pass (symbol short)) := by
  have hs : short.spelling = [c] := (spelling_of_pair? (pair?_eq_some_iff.2 hk)).1
  refine leads_symbol hw hs h ?_
  intro hsecond
  rw [after_of_mem_pairs hk, afterPair, accept?_of_head?_ne (hsecond ▸ hrest), ← hs]

theorem leads_starStar (hw : w.mode = .between) (ho : o.exponentOperator = true)
    (h : w.unread t = '*' :: '*' :: rest) : Leads o t w (w.pass (symbol .starStar)) := by
  refine leads_symbol (s := ['*']) hw rfl h ?_
  intro hsecond
  rw [after_star, afterStar, if_pos ho, accept?_of_unread hsecond (by decide), ← move_append]
  rfl

theorem leads_star (hw : w.mode = .between)
    (ho : ¬ (o.exponentOperator = true ∧ rest.head? = some '*'))
    (h : w.unread t = '*' :: rest) : Leads o t w (w.pass (symbol .star)) := by
  refine leads_symbol (s := []) hw rfl h ?_
  intro hsecond
  rw [List.nil_append] at hsecond
  have hnone : (if o.exponentOperator then (w.mark.move ['*']).accept? t '*' else none) = none := by
    by_cases he : o.exponentOperator = true
    · rw [if_pos he]
      exact accept?_of_head?_ne fun hhead ↦ ho ⟨he, hsecond ▸ hhead⟩
    · rw [if_neg he]
  rw [after_star, afterStar, hnone]
  rfl

theorem leads_slash (hw : w.mode = .between) (h₁ : rest.head? ≠ some '/')
    (h₂ : rest.head? ≠ some '*') (h : w.unread t = '/' :: rest) :
    Leads o t w (w.pass (symbol .slash)) := by
  refine leads_symbol (s := []) hw rfl h ?_
  intro hsecond
  rw [after_slash, afterSlash, accept?_of_head?_ne (hsecond ▸ h₁),
    accept?_of_head?_ne (hsecond ▸ h₂)]
  rfl

/-- Two characters open a comment, in one turn.  Which of the two loops it leads to depends on the
second one and on the options. -/
theorem step_openComment {second : Char} (hw : w.mode = .between)
    (hsecond : second = '/' ∨ second = '*') (h : w.unread t = '/' :: second :: rest) :
    w.step o t = some { w.mark.move ['/', second] with
      mode := if second = '*' ∧ o.blockComments = true then .blockComment else .lineComment } := by
  have hnext : (w.mark.move ['/']).unread t = second :: rest := unread_move (s := ['/']) h
  rw [step_between hw h, after_slash, afterSlash]
  rcases hsecond with rfl | rfl
  · rw [accept?_of_unread hnext (by decide), ← move_append]
    rfl
  · have hslash : (w.mark.move ['/']).accept? t '/' = none :=
      accept?_of_head?_ne (by simp [hnext])
    rw [hslash, accept?_of_unread hnext (by decide), ← move_append]
    simp

theorem leads_pass_lineComment {second : Char} (hw : w.mode = .between)
    (hsecond : second = '/' ∨ second = '*' ∧ o.blockComments = false) (hbody : '\n' ∉ body)
    (hrest : ∀ c ∈ rest.head?, c = '\n') (h : w.unread t = '/' :: second :: (body ++ rest)) :
    Leads o t w (w.pass (lineComment second body)) := by
  have hmode : ¬ (second = '*' ∧ o.blockComments = true) := by
    rintro ⟨rfl, ho⟩
    simp [ho] at hsecond
  have hstep := step_openComment (o := o) hw (hsecond.imp_right And.left) h
  rw [if_neg hmode] at hstep
  have hun : (w.mark.move ['/', second]).unread t = body ++ rest := unread_move h
  have htext : (lineComment second body).text = ['/', second] ++ body := rfl
  refine .more hstep (by simp) ?_
  rw [pass_of_silent rfl rfl, htext, move_append]
  exact leads_lineComment (w := { w.mark.move _ with mode := .lineComment }) rfl hun hbody hrest

theorem leads_pass_blockComment (hw : w.mode = .between) (ho : o.blockComments = true)
    (hbody : ¬ ['*', '/'] <:+: body) (h : w.unread t = (blockComment body).text ++ rest) :
    Leads o t w (w.pass (blockComment body)) := by
  rw [text, List.cons_append, List.cons_append, List.append_assoc] at h
  have hstep := step_openComment (o := o) hw (.inr rfl) h
  rw [if_pos ⟨rfl, ho⟩] at hstep
  have hun : (w.mark.move ['/', '*']).unread t = body ++ '*' :: '/' :: rest := unread_move h
  have htext : (blockComment body).text = ['/', '*'] ++ (body ++ ['*', '/']) := rfl
  refine .more hstep (by simp) ?_
  rw [pass_of_silent rfl rfl, htext, move_append]
  exact leads_blockComment (w := { w.mark.move _ with mode := .blockComment }) rfl hun hbody

theorem leads_pass_openComment (hw : w.mode = .between) (ho : o.blockComments = true)
    (hbody : ¬ ['*', '/'] <:+: body) (h : w.unread t = (openComment body).text ++ []) :
    Leads o t w (w.pass (openComment body)) := by
  rw [text, List.append_nil] at h
  have hstep := step_openComment (o := o) hw (.inr rfl) h
  rw [if_pos ⟨rfl, ho⟩] at hstep
  have hun : (w.mark.move ['/', '*']).unread t = body :=
    unread_move (u := body) (s := ['/', '*']) h
  have htext : (openComment body).text = ['/', '*'] ++ body := rfl
  refine .more hstep (by simp) ?_
  rw [← addReport_eq_pass rfl rfl, htext, move_append]
  exact leads_openComment (w := { w.mark.move _ with mode := .blockComment }) rfl hun hbody

theorem leads_pass_string (hw : w.mode = .between) (hbody : '"' ∉ body)
    (h : w.unread t = (string body).text ++ rest) : Leads o t w (w.pass (string body)) := by
  rw [text, List.cons_append, List.append_assoc] at h
  have hun : (w.mark.move ['"']).unread t = body ++ '"' :: rest := unread_move (s := ['"']) h
  have htext : (string body).text = ['"'] ++ (body ++ ['"']) := rfl
  refine .more (step_between hw h) (by simp [after_quote]) ?_
  rw [← afterString_eq_pass h, after_quote, htext, move_append]
  exact leads_string (w := { w.mark.move _ with mode := .string }) rfl hun hbody

theorem leads_pass_openString (hw : w.mode = .between) (hbody : '"' ∉ body)
    (h : w.unread t = (openString body).text ++ []) : Leads o t w (w.pass (openString body)) := by
  rw [text, List.append_nil] at h
  have hun : (w.mark.move ['"']).unread t = body := unread_move (s := ['"']) h
  have htext : (openString body).text = ['"'] ++ body := rfl
  refine .more (step_between hw h) (by simp [after_quote]) ?_
  rw [← addReport_eq_pass rfl rfl, after_quote, htext, move_append]
  exact leads_openString (w := { w.mark.move _ with mode := .string }) rfl hun hbody

theorem leads_pass_blank (hw : w.mode = .between) (hc : c ∈ [' ', '\r', '\t', '\n'])
    (h : w.unread t = c :: rest) : Leads o t w (w.pass (blank c)) := by
  refine .one ?_
  rw [step_between hw h, after_of_mem_blanks hc, pass_of_silent rfl rfl, ← hw]
  rfl

theorem leads_pass_stray (hw : w.mode = .between) (hc : c ∉ openers)
    (h : w.unread t = c :: rest) : Leads o t w (w.pass (stray c)) := by
  have hline : (w.mark.move [c]).line = w.line := by
    have hfeed : c ≠ '\n' := by
      rintro rfl
      exact hc (by decide)
    rw [move, Text.newlines, List.count_cons_of_ne hfeed]
    rfl
  refine .one ?_
  rw [step_between hw h, after_of_not_mem_openers hc, hline]
  exact congrArg some (addReport_eq_pass (x := stray c) rfl rfl)

/-- **In front of a piece of the grammar the turns lead behind it.**  The cases are the rules. -/
theorem leads_pass (hw : w.mode = .between) (hx : Fits o x rest)
    (h : w.unread t = x.text ++ rest) : Leads o t w (w.pass x) := by
  cases hx with
  | single hk => exact leads_single hw hk h
  | long hk => exact leads_long hw hk h
  | short hk hrest => exact leads_short hw hk hrest h
  | starStar ho => exact leads_starStar hw ho h
  | star ho => exact leads_star hw ho h
  | slash h₁ h₂ => exact leads_slash hw h₁ h₂ h
  | lineComment hsecond hbody hrest => exact leads_pass_lineComment hw hsecond hbody hrest h
  | blockComment ho hbody => exact leads_pass_blockComment hw ho hbody h
  | openComment ho hbody => exact leads_pass_openComment hw ho hbody h
  | string hbody => exact leads_pass_string hw hbody h
  | openString hbody => exact leads_pass_openString hw hbody h
  | blank hc => exact leads_pass_blank hw hc h
  | stray hc => exact leads_pass_stray hw hc h

end LoxTokens.Cursor
