import LoxTokens.Findings
import LoxTokens.Proofs.Grammar
import LoxTokens.Proofs.Trailing

/-!
# Line breaks of two characters

`Text.crlf t` is the text `t` with a carriage return in front of each line feed.  A scan takes
carriage returns for blanks, for text of comments or for text of strings, as they come, and findings
leave them out where they quote a line (`_source_line`).  All this fits together: `Scan.ofText_crlf`
says that the tokens change by the carriage returns inside of strings only, and what is found and
told not at all.

Nearly every lexeme keeps its place (`Lexeme.crlf`).  What becomes of a line feed depends on what
stands before it: behind a comment that ends with its line the carriage return belongs to the
comment, and is a blank of its own otherwise.  Hence the lexemes of the text are rewritten by
`Lexeme.breakLines`, which looks at two of them at a time, and this is the one law of its kind that
is no `Lexeme.Rewriting`.

* `Lexeme.Pieces.breakLines` — the broken pieces are the pieces of the new text.
* `Text.map_dropTrailing_lines_crlf` — the lines of both texts are the same without the carriage
  returns at their ends, those that were there before included.
* `Findings.problem_crlf` — so the same lines are quoted.

The command never sees such a text, for line breaks are unified when a source is read as text; a
`Scanner` that is handed a text does.
-/

set_option autoImplicit false

namespace LoxTokens

/-!
## Texts

What counts stays as it is: the new text has as many line feeds, and each `*/` in it was there
before.
-/

namespace Text

/-- The text with a carriage return in front of each line feed. -/
def crlf (t : Text) : Text := t.flatMap fun c ↦ if c = '\n' then ['\r', '\n'] else [c]

@[simp] theorem crlf_nil : crlf [] = [] := rfl

@[simp] theorem crlf_feed (t : Text) : crlf ('\n' :: t) = '\r' :: '\n' :: crlf t := rfl

@[simp] theorem crlf_append (s t : Text) : crlf (s ++ t) = crlf s ++ crlf t := List.flatMap_append

theorem crlf_cons_of_ne {c : Char} (h : c ≠ '\n') (t : Text) : crlf (c :: t) = c :: crlf t := by
  simp [crlf, h]

theorem crlf_eq_self {t : Text} (h : '\n' ∉ t) : crlf t = t := by
  induction t with
  | nil => rfl
  | cons c t ih =>
    rw [List.mem_cons, not_or] at h
    rw [crlf_cons_of_ne (Ne.symm h.1), ih h.2]

theorem newlines_crlf (t : Text) : newlines (crlf t) = newlines t := by
  induction t with
  | nil => rfl
  | cons c t ih =>
    by_cases hc : c = '\n'
    · rw [hc, crlf_feed, newlines_cons_of_ne (by decide), newlines_feed, newlines_feed, ih]
    · rw [crlf_cons_of_ne hc, newlines_cons_of_ne hc, newlines_cons_of_ne hc, ih]

theorem mem_crlf {c : Char} {t : Text} (h : c ∈ crlf t) : c = '\r' ∨ c ∈ t := by
  obtain ⟨d, hd, hc⟩ := List.mem_flatMap.1 h
  split at hc
  · next hfeed =>
    rcases List.mem_cons.1 hc with rfl | hc
    · exact .inl rfl
    · rw [List.mem_singleton.1 hc, ← hfeed]
      exact .inr hd
  · rw [List.mem_singleton.1 hc]
    exact .inr hd

/-- What is no carriage return and stands at the front of the new text has stood there before. -/
theorem head?_of_head?_crlf {c : Char} {t : Text} (h : (crlf t).head? = some c) (hc : c ≠ '\r') :
    t.head? = some c := by
  cases t with
  | nil => exact h
  | cons d t =>
    by_cases hd : d = '\n'
    · rw [hd, crlf_feed] at h
      exact absurd (Option.some.inj h).symm hc
    · rwa [crlf_cons_of_ne hd] at h

/-- No `*/` comes about. -/
theorem infix_of_infix_crlf {t : Text} (h : ['*', '/'] <:+: crlf t) : ['*', '/'] <:+: t := by
  induction t with
  | nil => exact h
  | cons d t ih =>
    by_cases hd : d = '\n'
    · rw [hd, crlf_feed, List.infix_cons_iff, List.infix_cons_iff] at h
      simp only [List.cons_prefix_cons] at h
      rcases h with h | h | h
      · exact absurd h.1 (by decide)
      · exact absurd h.1 (by decide)
      · exact (ih h).trans (List.infix_cons_iff.2 (.inr List.infix_rfl))
    · rw [crlf_cons_of_ne hd, List.infix_cons_iff, List.cons_prefix_cons] at h
      rcases h with ⟨rfl, u, hu⟩ | h
      · have hhead : t.head? = some '/' := head?_of_head?_crlf (by rw [← hu]; rfl) (by decide)
        obtain ⟨v, rfl⟩ := List.head?_eq_some_iff.1 hhead
        exact (List.prefix_append ['*', '/'] v).isInfix
      · exact (ih h).trans (List.infix_cons_iff.2 (.inr List.infix_rfl))

/-! ### Quoted lines -/

/-- What comes first in all lines comes first in what is left of them without carriage returns. -/
theorem map_dropTrailing_modifyHead {p : Char → Bool} {ls ls' : List Text} (c : Char)
    (h : ls.map (dropTrailing p) = ls'.map (dropTrailing p)) :
    (ls.modifyHead (c :: ·)).map (dropTrailing p) =
      (ls'.modifyHead (c :: ·)).map (dropTrailing p) := by
  cases ls with
  | nil =>
    rw [List.map_nil, eq_comm, List.map_eq_nil_iff] at h
    rw [h]
  | cons l ls =>
    cases ls' with
    | nil => exact absurd h (List.cons_ne_nil _ _)
    | cons l' ls' =>
      obtain ⟨hl, hls⟩ := List.cons.inj h
      rw [List.modifyHead_cons, List.modifyHead_cons, List.map_cons, List.map_cons,
        dropTrailing_cons, dropTrailing_cons, hl, hls]

/-- Without the carriage returns at their ends the lines are the same. -/
theorem map_dropTrailing_lines_crlf (t : Text) :
    (lines (crlf t)).map (dropTrailing (· = '\r')) = (lines t).map (dropTrailing (· = '\r')) := by
  rw [lines, lines]
  induction t with
  | nil => rfl
  | cons c t ih =>
    by_cases hc : c = '\n'
    · rw [hc, crlf_feed, fields, fields, fields, if_neg (by decide), if_pos rfl, if_pos rfl,
        List.modifyHead_cons, List.map_cons, List.map_cons, ih]
      rfl
    · rw [crlf_cons_of_ne hc, fields, fields, if_neg hc, if_neg hc]
      exact map_dropTrailing_modifyHead c ih

/-- By every number the same line is quoted from both texts. -/
theorem quotedLine?_lines_crlf (t : Text) (n : Int) :
    quotedLine? (lines (crlf t)) n = quotedLine? (lines t) n := by
  rw [quotedLine?, quotedLine?, ← List.getElem?_map, ← List.getElem?_map,
    map_dropTrailing_lines_crlf]

end Text

/-!
## Lexemes

A carriage return in front of a line feed neither opens nor closes anything.  Inside of a lexeme it
is one character more.  Between two lexemes it belongs to the one in front only if this is a comment
that ends with its line.
-/

namespace Lexeme

/-- The lexeme with a carriage return in front of each line feed inside of it. -/
def crlf : Lexeme → Lexeme
  | string body => string (Text.crlf body)
  | openString body => openString (Text.crlf body)
  | blockComment body => blockComment (Text.crlf body)
  | openComment body => openComment (Text.crlf body)
  | x => x

/-- The lexemes with a carriage return in front of each line feed.  A comment in front of a line
feed comes first, and is the case in which two lexemes are looked at. -/
def breakLines : List Lexeme → List Lexeme
  | [] => []
  | lineComment second body :: blank '\n' :: xs =>
    lineComment second (body ++ ['\r']) :: blank '\n' :: breakLines xs
  | blank '\n' :: xs => blank '\r' :: blank '\n' :: breakLines xs
  | x :: xs => x.crlf :: breakLines xs

variable {o : Options} {x : Lexeme} {r t : Text} {xs : List Lexeme}

theorem newlines_text_crlf (x : Lexeme) : Text.newlines x.crlf.text = Text.newlines x.text := by
  fun_cases crlf x with
  | case5 => rfl
  | _ => simp [text, Text.newlines_crlf, Text.newlines_cons_of_ne]

/-- A symbol is spelled on one line. -/
theorem not_mem_spelling (s : Symbol) : '\n' ∉ s.spelling := by cases s <;> decide

/-- Apart from the line feed itself, a lexeme has its line feeds inside. -/
theorem Fits.text_crlf (h : Fits o x r) (hx : x ≠ .blank '\n') :
    x.crlf.text = Text.crlf x.text := by
  cases x with
  | symbol s => exact (Text.crlf_eq_self (not_mem_spelling s)).symm
  | string body =>
    rw [crlf, text, text, Text.crlf_cons_of_ne (by decide), Text.crlf_append]
    rfl
  | openString body => exact (Text.crlf_cons_of_ne (by decide) body).symm
  -- a comment that ends with its line has no line feed inside
  | lineComment second body =>
    cases h with
    | lineComment hsecond hbody _ =>
      have hfeed : second ≠ '\n' := by
        rintro rfl
        simp at hsecond
      have hsame : (Lexeme.lineComment second body).crlf = .lineComment second body := rfl
      rw [hsame, text, Text.crlf_cons_of_ne (by decide), Text.crlf_cons_of_ne hfeed,
        Text.crlf_eq_self hbody]
  | blockComment body =>
    rw [crlf, text, text, Text.crlf_cons_of_ne (by decide), Text.crlf_cons_of_ne (by decide),
      Text.crlf_append]
    rfl
  | openComment body =>
    rw [crlf, text, text, Text.crlf_cons_of_ne (by decide), Text.crlf_cons_of_ne (by decide)]
  | blank c =>
    have hc : c ≠ '\n' := fun hc ↦ hx (hc ▸ rfl)
    exact (Text.crlf_cons_of_ne hc []).symm
  | stray c =>
    cases h with
    | stray hc =>
      have hfeed : c ≠ '\n' := by
        rintro rfl
        exact hc (by decide)
      exact (Text.crlf_cons_of_ne hfeed []).symm

/-- A lexeme fits in front of the new text if it is no comment that a line feed ends. -/
theorem Fits.crlf (h : Fits o x r) (hx : ∀ second body, x = .lineComment second body → r = []) :
    Fits o x.crlf (Text.crlf r) := by
  have hhead {c : Char} (hne : r.head? ≠ some c) (hc : c ≠ '\r') :
      (Text.crlf r).head? ≠ some c := fun hr ↦ hne (Text.head?_of_head?_crlf hr hc)
  have hquote {body : Text} (hbody : '"' ∉ body) : '"' ∉ Text.crlf body := fun hmem ↦
    (Text.mem_crlf hmem).elim (by decide) hbody
  cases h with
  | single h => exact .single h
  | long h => exact .long h
  | short h hrest => exact .short h (hhead hrest (by decide))
  | starStar h => exact .starStar h
  | star h =>
    refine .star fun hstar ↦ h ⟨hstar.1, ?_⟩
    exact Text.head?_of_head?_crlf hstar.2 (by decide)
  | slash h₁ h₂ => exact .slash (hhead h₁ (by decide)) (hhead h₂ (by decide))
  | lineComment h hbody _ =>
    rw [hx _ _ rfl]
    exact .lineComment h hbody nofun
  | blockComment h hbody => exact .blockComment h (mt Text.infix_of_infix_crlf hbody)
  | openComment h hbody => exact .openComment h (mt Text.infix_of_infix_crlf hbody)
  | string hbody => exact .string (hquote hbody)
  | openString hbody => exact .openString (hquote hbody)
  | blank h => exact .blank h
  | stray h => exact .stray h

/-- A line feed at the front of a text is a lexeme of its own. -/
theorem Pieces.of_feed (h : Pieces o ('\n' :: t) xs) :
    ∃ ys, xs = .blank '\n' :: ys ∧ Pieces o t ys := by
  refine ⟨split o t, ?_, pieces_split o t⟩
  rw [← h.split_eq]
  exact split_text_append (.blank (by decide))

/-- Only in front of a line feed does a comment that ends with its line get more text. -/
theorem Pieces.eq_nil_of_lineComment {second : Char} {body : Text}
    (hx : Fits o (.lineComment second body) r) (h : Pieces o r xs)
    (hxs : ∀ ys, xs ≠ .blank '\n' :: ys) : r = [] := by
  cases hx with
  | lineComment _ _ hrest =>
    cases r with
    | nil => rfl
    | cons c r =>
      obtain rfl := hrest c rfl
      obtain ⟨ys, hys, -⟩ := h.of_feed
      exact absurd hys (hxs ys)

/-- A comment takes the carriage return of the line feed that ends it. -/
theorem Fits.lineComment_return {second : Char} {body : Text}
    (h : Fits o (.lineComment second body) ('\n' :: r)) (q : Text) :
    Fits o (.lineComment second (body ++ ['\r'])) ('\n' :: q) := by
  cases h with
  | lineComment hsecond hbody _ =>
    refine .lineComment hsecond ?_ (by simp)
    simpa using hbody

theorem Fits.crlf_lineComment_append {second : Char} {body : Text}
    (h : Fits o (.lineComment second body) ('\n' :: r)) :
    Text.crlf ((Lexeme.lineComment second body).text ++ '\n' :: r) =
      (Lexeme.lineComment second (body ++ ['\r'])).text ++ '\n' :: Text.crlf r := by
  have htext : Text.crlf (Lexeme.lineComment second body).text = '/' :: second :: body :=
    (h.text_crlf nofun).symm
  rw [Text.crlf_append, htext, Text.crlf_feed, text]
  simp

/-- **The pieces of the new text** are the broken pieces of the text.  The induction follows
`breakLines`, so that a comment and the line feed behind it are one case. -/
theorem Pieces.breakLines (h : Pieces o t xs) : Pieces o (Text.crlf t) (breakLines xs) := by
  fun_induction Lexeme.breakLines xs generalizing t with
  | case1 =>
    cases h
    exact .nil
  | case2 second body xs ih =>
    cases h with
    | cons hx hxs =>
      cases hxs with
      | cons _ hxs =>
        refine hx.crlf_lineComment_append ▸ ?_
        exact .cons (hx.lineComment_return _) (.cons (.blank (by decide)) (ih hxs))
  | case3 xs ih =>
    cases h with
    | cons _ hxs => exact .cons (.blank (by decide)) (.cons (.blank (by decide)) (ih hxs))
  | case4 x xs hcomment hfeed ih =>
    cases h with
    | cons hx hxs =>
      rw [Text.crlf_append, ← hx.text_crlf hfeed]
      refine .cons (hx.crlf ?_) (ih hxs)
      rintro second body rfl
      exact Pieces.eq_nil_of_lineComment hx hxs fun ys ↦ hcomment second body ys rfl

/-- Of two line feeds behind a comment, the comment takes one carriage return. -/
example : Lexeme.breakLines [.lineComment '/' [], .blank '\n', .blank '\n'] =
    [.lineComment '/' ['\r'], .blank '\n', .blank '\r', .blank '\n'] := rfl

/-- What the broken lexemes yield is made from what the lexemes yield, if it is so for each of them
and comes neither from comments nor from blanks. -/
theorem collect_breakLines {α : Type} {f : Nat → Lexeme → Option α} {g : α → α}
    (hf : ∀ line x, f line (crlf x) = (f line x).map g)
    (hcomment : ∀ line second body, f line (lineComment second body) = none)
    (hblank : ∀ line c, f line (blank c) = none) (line : Nat) (xs : List Lexeme) :
    collect f line (breakLines xs) = (collect f line xs).map g := by
  fun_induction breakLines xs generalizing line with
  | case1 => rfl
  | case2 second body xs ih =>
    have hlines : Text.newlines (lineComment second (body ++ ['\r'])).text =
        Text.newlines (lineComment second body).text := by
      simp [text, Text.newlines, List.count_cons]
    simp only [collect_cons, hcomment, hblank, hlines, ih]
    rfl
  | case3 xs ih =>
    simp only [collect_cons, hblank, ih]
    rfl
  | case4 x xs _ _ ih =>
    rw [collect_cons, collect_cons, hf, newlines_text_crlf, ih, List.map_append]
    cases f line x <;> rfl

end Lexeme

/-! ## Scans -/

/-- The token with a carriage return in front of each line feed. -/
def Token.crlf (k : Token) : Token :=
  { k with lexeme := Text.crlf k.lexeme, literal := k.literal.map Text.crlf }

namespace Lexeme

theorem token?_crlf (line : Nat) (x : Lexeme) :
    x.crlf.token? line = (x.token? line).map Token.crlf := by
  cases x with
  | symbol s => simp [crlf, token?, Token.crlf, Text.crlf_eq_self (not_mem_spelling s)]
  | string body => simp [crlf, token?, text, Token.crlf, Text.crlf_cons_of_ne]
  | _ => rfl

theorem report?_crlf (line : Nat) (x : Lexeme) : x.crlf.report? line = x.report? line := by
  cases x with
  | openString body => rw [crlf, report?, report?, Text.newlines_crlf]
  | _ => rfl

end Lexeme

namespace Scan

open Lexeme

/-- The tokens of the new text are those of the text, with carriage returns in them. -/
theorem tokens_crlf (o : Options) (t : Text) :
    (ofText o (Text.crlf t)).tokens = (ofText o t).tokens.map Token.crlf := by
  have hcollect := collect_breakLines token?_crlf (fun _ _ _ ↦ rfl) (fun _ _ ↦ rfl) 1 (split o t)
  rw [ofText_eq, ofText_eq, (pieces_split o t).breakLines.split_eq, hcollect, List.map_append,
    Token.closing, Text.newlines_crlf]
  rfl

/-- The reports are the same. -/
theorem reports_crlf (o : Options) (t : Text) :
    (ofText o (Text.crlf t)).reports = (ofText o t).reports := by
  have hreport (line : Nat) (x : Lexeme) : x.crlf.report? line = (x.report? line).map id := by
    rw [report?_crlf, Option.map_id_fun, id]
  have hcollect := collect_breakLines hreport (fun _ _ _ ↦ rfl) (fun _ _ ↦ rfl) 1 (split o t)
  rw [ofText_eq, ofText_eq, (pieces_split o t).breakLines.split_eq, hcollect, List.map_id]

end Scan

/-!
## Findings

A line is quoted without the carriage returns at its end, be there one or more.  So one more in
front of the line feed is not seen.
-/

namespace Findings

/-- The same lines are quoted from both texts. -/
theorem problem_crlf (file t : Text) (n : Int) (message : Text) :
    (ofSource (some (Text.crlf t)) file).problem n message =
      (ofSource (some t) file).problem n message :=
  congrArg (Problem.mk _ message _) (Text.quotedLine?_lines_crlf t n)

theorem diagnostics_crlf (o : Options) (file t : Text) :
    ((ofSource (some (Text.crlf t)) file).addScan (.ofText o (Text.crlf t))).diagnostics =
      ((ofSource (some t) file).addScan (.ofText o t)).diagnostics := by
  simp only [addScan, Scan.reports_crlf, problem_crlf]
  rfl

/-- What is told depends on the diagnostics alone. -/
theorem summary_congr {f g : Findings} (h : f.diagnostics = g.diagnostics) :
    f.summary = g.summary := by
  rw [summary, summary, size, size, h]

end Findings

/-- **A text with CR LF for each line feed** has the same tokens on the same lines, with CR LF for
each line feed in what was read as a string.  The same is reported, in the same order, and is told
in the same words, with the same lines quoted.  Carriage returns that have been in the text before
make no difference to this. -/
theorem Scan.ofText_crlf (o : Options) (file t : Text) :
    (ofText o (Text.crlf t)).tokens = (ofText o t).tokens.map (fun k ↦
        ⟨k.kind, Text.crlf k.lexeme, k.literal.map Text.crlf, k.line⟩) ∧
      (ofText o (Text.crlf t)).reports = (ofText o t).reports ∧
      ((Findings.ofSource (some (Text.crlf t)) file).addScan (ofText o (Text.crlf t))).diagnostics =
        ((Findings.ofSource (some t) file).addScan (ofText o t)).diagnostics ∧
      ((Findings.ofSource (some (Text.crlf t)) file).addScan (ofText o (Text.crlf t))).summary =
        ((Findings.ofSource (some t) file).addScan (ofText o t)).summary := by
  have hfound := Findings.diagnostics_crlf o file t
  exact ⟨tokens_crlf o t, reports_crlf o t, hfound, Findings.summary_congr hfound⟩

end LoxTokens
