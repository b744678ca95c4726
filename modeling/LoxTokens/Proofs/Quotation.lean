import LoxTokens.Findings
import LoxTokens.Proofs.LineNumbers
import LoxTokens.Proofs.Trailing
import Mathlib.Data.List.Forall2

/-!
# The lines that findings quote

A `Scanner` numbers lines as it goes.  An `ErrorCollector` cuts the text into lines of its own,
looks them up by number, and strips them of carriage returns.  The two share nothing but the number.
This file brings both together.

* `Text.lineStart t p` and `Text.column t p` — where the line of the position `p` begins, and how
  far behind its beginning `p` lies.
* `Text.quotedLine?_lineAt` — by the number of its line every position has a line to quote: the text
  from the beginning of the line to the next line feed.
* `Text.isPrefix_quotedAt` — what stands at a position stands in its quoted line, at its column,
  unless it ends with a line feed or a carriage return.

Hence each diagnostic of a scan quotes the line on which its lexeme begins, or ends if the lexeme is
an open string, and the lexeme can be seen there (`Findings.forall₂_tells`).  A line is quoted
always: that `_source_line` may come back with nothing concerns reports from elsewhere.
-/

set_option autoImplicit false

namespace LoxTokens

/-! ## The line of a position -/

namespace Text

variable {s t : Text}

/-- The position at which the line of a position begins, behind the last line feed before it. -/
def lineStart (t : Text) (p : Nat) : Nat := (dropTrailing (· != '\n') (t.take p)).length

/-- How many characters of its line lie before a position. -/
def column (t : Text) (p : Nat) : Nat := p - lineStart t p

/-- The first line ends with the first line feed. -/
theorem getElem?_zero_lines (t : Text) : (lines t)[0]? = some (t.takeWhile (· != '\n')) := by
  rw [lines]
  induction t with
  | nil => rfl
  | cons c t ih =>
    obtain ⟨l, ls, hls⟩ := List.exists_cons_of_ne_nil (fields_ne_nil '\n' t)
    by_cases hc : c = '\n'
    · simp [fields, hc]
    · rw [hls] at ih
      obtain rfl := Option.some.inj ih
      simp [fields, hc, hls]

/-- A text, as what lies before the line of a position, what lies on it before the position, and the
rest. -/
theorem exists_eq_append_drop (t : Text) (p : Nat) :
    ∃ before on, t = before ++ (on ++ t.drop p) ∧ t.take p = before ++ on ∧
      before.length = lineStart t p ∧ t.drop (lineStart t p) = on ++ t.drop p ∧ '\n' ∉ on ∧
      (before = [] ∨ ∃ s, before = s ++ ['\n']) := by
  obtain ⟨on, htake, hon, hlast⟩ := exists_eq_dropTrailing_append (· != '\n') (t.take p)
  have ht : t = dropTrailing (· != '\n') (t.take p) ++ (on ++ t.drop p) := by
    rw [← List.append_assoc, ← htake, List.take_append_drop]
  have hdrop : t.drop (lineStart t p) = on ++ t.drop p :=
    (congrArg (List.drop (lineStart t p)) ht).trans List.drop_left
  refine ⟨_, on, ht, htake, rfl, hdrop, fun hmem ↦ ?_, ?_⟩
  · simpa using hon _ hmem
  · rcases List.eq_nil_or_concat (dropTrailing (· != '\n') (t.take p)) with h | ⟨s, c, h⟩
    · exact .inl h
    · rw [h, List.concat_eq_append] at hlast ⊢
      obtain rfl : c = '\n' := by simpa using hlast c (by simp)
      exact .inr ⟨s, rfl⟩

/-- **The line of a position**, among the lines of the text, is the text from the beginning of the
line to the next line feed.  What lies before this line is empty or ends with a line feed, and so
consists of whole lines. -/
theorem getElem?_lines (t : Text) (p : Nat) :
    (lines t)[newlines (t.take p)]? = some ((t.drop (lineStart t p)).takeWhile (· != '\n')) := by
  obtain ⟨before, on, ht, htake, -, hdrop, hon, hbefore⟩ := exists_eq_append_drop t p
  have hnewlines : newlines (t.take p) = newlines before := by
    rw [htake, newlines_append, show newlines on = 0 from List.count_eq_zero_of_not_mem hon,
      Nat.add_zero]
  rw [hnewlines, hdrop, ← getElem?_zero_lines]
  conv_lhs => rw [ht]
  rcases hbefore with rfl | ⟨s, rfl⟩
  · rfl
  · rw [List.append_assoc, List.singleton_append, lines_append_feed, newlines_append,
      List.getElem?_append_right (by rw [length_lines]; rfl), length_lines]
    exact congrArg (fun i ↦ (lines _)[i]?) (Nat.sub_self _)

/-! ## What is quoted -/

/-- The line of a position without the carriage returns at its end. -/
def quotedAt (t : Text) (p : Nat) : Text :=
  dropTrailing (· = '\r') ((t.drop (lineStart t p)).takeWhile (· != '\n'))

theorem getElem?_lines_lineAt (t : Text) (p : Nat) :
    (lines t)[lineAt t p - 1]?.map (dropTrailing (· = '\r')) = some (quotedAt t p) := by
  rw [lineAt, Nat.add_sub_cancel_left, getElem?_lines]
  rfl

/-- Every position has a line to quote. -/
theorem quotedLine?_lineAt (t : Text) (p : Nat) :
    quotedLine? (lines t) (lineAt t p) = some (quotedAt t p) := by
  have hline : (lineAt t p : Int) = newlines (t.take p) + 1 := by
    rw [lineAt]
    omega
  rw [hline, quotedLine?_succ, getElem?_lines]
  rfl

/-- The last line is that of the end. -/
theorem getLast?_lines (t : Text) :
    (lines t).getLast?.map (dropTrailing (· = '\r')) = some (quotedAt t t.length) := by
  have hline := getElem?_lines_lineAt t t.length
  rwa [lineAt_length, Nat.add_comm, ← length_lines, ← List.getLast?_eq_getElem?] at hline

/-- **What stands at a position is seen in its quoted line, at its column.**  A line feed ends the
line, and a carriage return may be one of those that are dropped at its end. -/
theorem isPrefix_quotedAt {c : Char} {p : Nat} (hs : s ++ [c] <+: t.drop p)
    (hfeed : '\n' ∉ s ++ [c]) (hc : c ≠ '\r') :
    s ++ [c] <+: (quotedAt t p).drop (column t p) := by
  obtain ⟨rest, hrest⟩ := hs
  obtain ⟨before, on, ht, htake, hlength, hdrop, hon, -⟩ := exists_eq_append_drop t p
  have hcolumn : column t p = on.length := by
    have hp : p < t.length := by
      by_contra hp
      rw [List.drop_eq_nil_of_le (Nat.le_of_not_lt hp)] at hrest
      simp at hrest
    have htotal := congrArg List.length htake
    rw [List.length_take, List.length_append, Nat.min_eq_left (Nat.le_of_lt hp)] at htotal
    rw [column, ← hlength, htotal, Nat.add_sub_cancel_left]
  have hpos : ∀ d ∈ on ++ (s ++ [c]), (d != '\n') = true := by
    intro d hd
    rw [bne_iff_ne]
    rintro rfl
    exact (List.mem_append.1 hd).elim hon hfeed
  rw [quotedAt, hdrop, ← hrest, ← List.append_assoc, List.takeWhile_append_of_pos hpos,
    ← List.append_assoc, List.append_assoc, List.singleton_append,
    dropTrailing_append_cons (by simpa using hc), hcolumn, List.append_assoc, List.drop_left]
  exact ⟨_, by rw [List.append_assoc, List.singleton_append]⟩

theorem getElem?_quotedAt {c : Char} {p : Nat} (hp : t[p]? = some c) (hfeed : c ≠ '\n')
    (hc : c ≠ '\r') : (quotedAt t p)[column t p]? = some c := by
  rw [← List.head?_drop] at hp ⊢
  obtain ⟨rest, hrest⟩ := List.head?_eq_some_iff.1 hp
  have hs : [] ++ [c] <+: t.drop p := ⟨rest, hrest.symm⟩
  obtain ⟨q, hq⟩ := isPrefix_quotedAt hs (by simpa using hfeed.symm) hc
  rw [← hq]
  rfl

end Text

/-! ## Where reports come from -/

namespace Scan

open Lexeme

/-- The report of a lexeme that lies at a position of `t`, with this position. -/
def reportAt (t : Text) (p : Nat × Lexeme) : Option (Nat × Report) :=
  (p.2.reportAt t p.1).map (Prod.mk p.1)

/-- The reports of a text, each with the position at which its lexeme begins. -/
def reportsAt (o : Options) (t : Text) : List (Nat × Report) :=
  (locate 0 (split o t)).filterMap (reportAt t)

theorem reports_eq_reportsAt (o : Options) (t : Text) :
    (ofText o t).reports = (reportsAt o t).map Prod.snd := by
  have hreport (p : Nat × Lexeme) : (reportAt t p).map Prod.snd = p.2.reportAt t p.1 := by
    rw [reportAt, Option.map_map]
    exact Option.map_id'
  rw [reports_eq_reportAt, reportsAt, List.map_filterMap]
  simp only [hreport]

theorem mem_reportsAt_iff {o : Options} {t : Text} {p : Nat} {r : Report} :
    (p, r) ∈ reportsAt o t ↔
      ∃ x, (p, x) ∈ locate 0 (split o t) ∧ x.reportAt t p = some r := by
  rw [reportsAt, List.mem_filterMap]
  constructor
  · rintro ⟨⟨q, x⟩, hx, hr⟩
    obtain ⟨r', hx', he⟩ := Option.map_eq_some_iff.1 hr
    obtain ⟨rfl, rfl⟩ := Prod.mk.inj he
    exact ⟨x, hx, hx'⟩
  · rintro ⟨x, hx, hr⟩
    exact ⟨(p, x), hx, Option.map_eq_some_iff.2 ⟨r, hr, rfl⟩⟩

end Scan

/-!
## What a diagnostic shows

The position of a report is that of its lexeme.  For an open string it need not be on the line that
is quoted, which is the last one.
-/

namespace Findings

open Lexeme

/-- The line shows the lexeme at the position `p` of `t` that is at fault. -/
inductive Shows (o : Options) (t : Text) (p : Nat) (quoted : Text) : Fault → Prop
  /-- A stray character stands in the line, at its column. -/
  | character {c : Char} (hx : (p, stray c) ∈ locate 0 (split o t)) (hp : t[p]? = some c)
      (hline : quoted[Text.column t p]? = some c) : Shows o t p quoted .unexpectedCharacter
  /-- A comment is opened in the line, at its column. -/
  | comment {body : Text} (hx : (p, openComment body) ∈ locate 0 (split o t))
      (hp : ['/', '*'] <+: t.drop p) (hline : ['/', '*'] <+: quoted.drop (Text.column t p)) :
      Shows o t p quoted .unterminatedComment
  /-- Of an open string the last line of the text is shown. -/
  | string {body : Text} (hx : (p, openString body) ∈ locate 0 (split o t))
      (hline : (Text.lines t).getLast?.map (Text.dropTrailing (· = '\r')) = some quoted) :
      Shows o t p quoted .unterminatedString

/-- The diagnostic tells the report of the lexeme at a position of `t`, which was read from `file`.
Its line is one of the text, and is the one that is quoted. -/
inductive Tells (o : Options) (file t : Text) : Nat × Report → Diagnostic → Prop
  | problem {p n : Nat} {fault : Fault} {quoted : Text} (hn : 1 ≤ n ∧ n ≤ 1 + Text.newlines t)
      (hquote : (Text.lines t)[n - 1]?.map (Text.dropTrailing (· = '\r')) = some quoted)
      (hshows : Shows o t p quoted fault) :
      Tells o file t (p, ⟨n, fault⟩)
        (.problem ⟨.fault fault, fault.message, some ⟨file, n⟩, some quoted⟩)

variable {o : Options} {file t : Text} {p : Nat} {x : Lexeme} {r : Report}

theorem tells_of_shows {q : Nat} {fault : Fault} (h : Shows o t p (Text.quotedAt t q) fault) :
    Tells o file t (p, ⟨Text.lineAt t q, fault⟩)
      (.problem ((ofSource (some t) file).problem (Text.lineAt t q) fault.message)) := by
  have hquoted : (ofSource (some t) file).sourceLine? (Text.lineAt t q) =
      some (Text.quotedAt t q) := Text.quotedLine?_lineAt t q
  rw [problem_message, hquoted]
  exact .problem ⟨Text.one_le_lineAt t q, Text.lineAt_le t q⟩ (Text.getElem?_lines_lineAt t q) h

theorem tells_of_reportAt (hx : (p, x) ∈ locate 0 (split o t)) (hr : x.reportAt t p = some r) :
    Tells o file t (p, r)
      (.problem ((ofSource (some t) file).problem r.line r.fault.message)) := by
  have htext : x.text <+: t.drop p := by
    have hprefix := text_isPrefix_of_mem_locate hx
    rwa [flatMap_text_split] at hprefix
  obtain ⟨rest, hfits⟩ := exists_fits_of_mem_split (mem_of_mem_locate hx)
  cases x with
  | stray c =>
    obtain rfl := Option.some.inj hr
    have hp : t[p]? = some c := by
      obtain ⟨u, hu⟩ := htext
      rw [← List.head?_drop, ← hu]
      rfl
    cases hfits with
    | stray hc =>
      -- carriage returns and line feeds begin a lexeme of their own
      have hne {d : Char} (hd : d ∈ openers) : c ≠ d := fun hcd ↦ hc (hcd ▸ hd)
      have hcolumn := Text.getElem?_quotedAt hp (hne (by decide)) (hne (by decide))
      exact tells_of_shows (.character hx hp hcolumn)
  | openComment body =>
    obtain rfl := Option.some.inj hr
    have hp : ['/', '*'] <+: t.drop p := (List.prefix_append ['/', '*'] body).trans htext
    have hcolumn := Text.isPrefix_quotedAt (s := ['/']) (c := '*') hp (by decide) (by decide)
    exact tells_of_shows (.comment hx hp hcolumn)
  | openString body =>
    obtain rfl := Option.some.inj hr
    exact tells_of_shows (.string hx (Text.getLast?_lines t))
  | _ => simp [reportAt] at hr

/-- **Each diagnostic quotes the line at fault.**  The diagnostics of a scan tell its reports one
for one.  The line of each is one of the text, and a line is quoted always: the one on which a stray
character or an open comment begins, with this character or `/*` at its column, or the last one if a
string is open.  The lines are those that a cursor counts. -/
theorem forall₂_tells (o : Options) (file t : Text) :
    Cursor.scan o t = some (.ofText o t) ∧
      (Scan.ofText o t).reports = (Scan.reportsAt o t).map Prod.snd ∧
      List.Forall₂ (Tells o file t) (Scan.reportsAt o t)
        ((ofSource (some t) file).addScan (.ofText o t)).diagnostics := by
  have hreports := Scan.reports_eq_reportsAt o t
  refine ⟨Cursor.scan_eq o t, hreports, ?_⟩
  rw [addScan, hreports, List.map_map]
  refine List.forall₂_map_right_iff.2 (List.forall₂_same.2 ?_)
  rintro ⟨p, r⟩ hr
  obtain ⟨x, hx, hr⟩ := Scan.mem_reportsAt_iff.1 hr
  exact tells_of_reportAt hx hr

end Findings

end LoxTokens
