import LoxTokens.Proofs.Cutting
import LoxTokens.Proofs.Lookahead

/-!
# What the hints are worth

The hint that goes with a fault names the characters that are missing (`Fault.remedy`): a quote in
`UnterminatedStringError`, and `*/` in `UnterminatedCommentError`.  This file shows that a text is
mended by them: put behind it, they close what is open and touch nothing else.

* `Lexeme.closed x` — what the lexeme `x` becomes.  An open string turns into a token, an open
  comment into another comment.
* `Lexeme.split_append_remedy` — all other lexemes stay, whatever the text ends with.  A star at the
  end of an open comment, or the slash or star of its beginning, is not mistaken for a part of the
  `*/` that comes behind it.
* `Scan.exists_concat_of_mem_reports` — a fault that has a remedy is that of the last lexeme.  So
  there is at most one, and it is reported last.

There is no remedy for a stray character, and its class has no hint.
-/

set_option autoImplicit false

namespace LoxTokens

/-- The characters that are missing. -/
def Fault.remedy : Fault → Text
  | unexpectedCharacter => []
  | unterminatedString => ['"']
  | unterminatedComment => ['*', '/']

/-- A hint names the remedy. -/
theorem Fault.remedy_isInfix_hint {f : Fault} {hint : Text} (h : f.hint = some hint) :
    f.remedy <:+: hint := by
  cases f with
  | unexpectedCharacter => exact absurd h nofun
  | unterminatedString =>
    obtain rfl := Option.some.inj h
    exact ⟨"add a closing '".toList, "' to complete the string".toList, rfl⟩
  | unterminatedComment =>
    obtain rfl := Option.some.inj h
    exact ⟨"add closing ".toList, " to terminate the comment".toList, rfl⟩

/-- There is no line feed in a remedy. -/
theorem Fault.newlines_remedy (f : Fault) : Text.newlines f.remedy = 0 := by
  cases f <;> rfl

namespace Lexeme

variable {o : Options} {t : Text} {xs : List Lexeme} {x : Lexeme} {r : Report} {line : Nat}

/-! ## The last lexeme is closed -/

/-- What is reported with a remedy is open. -/
theorem isOpen_of_report? (hr : x.report? line = some r)
    (hfault : r.fault ≠ .unexpectedCharacter) : x.isOpen = true := by
  by_contra hopen
  exact hfault (Scan.fault_of_isOpen_eq_false (eq_false_of_ne_true hopen) hr)

theorem eq_openString_of_report? (hr : x.report? line = some r)
    (hfault : r.fault = .unterminatedString) : ∃ body, x = openString body := by
  cases x with
  | openString body => exact ⟨body, rfl⟩
  | _ =>
    have hmap := congrArg (Option.map Report.fault) hr
    rw [Option.map_some, hfault] at hmap
    exact absurd hmap nofun

theorem eq_openComment_of_report? (hr : x.report? line = some r)
    (hfault : r.fault = .unterminatedComment) : ∃ body, x = openComment body := by
  cases x with
  | openComment body => exact ⟨body, rfl⟩
  | _ =>
    have hmap := congrArg (Option.map Report.fault) hr
    rw [Option.map_some, hfault] at hmap
    exact absurd hmap nofun

/-- The lexeme with what is missing behind it. -/
def closed : Lexeme → Lexeme
  | openString body => string body
  | openComment body => blockComment body
  | x => x

/-- A lexeme is closed by the remedy of its fault. -/
theorem text_closed (hr : x.report? line = some r) : x.closed.text = x.text ++ r.fault.remedy := by
  cases x with
  | openString body =>
    obtain rfl := Option.some.inj hr
    rfl
  | openComment body =>
    obtain rfl := Option.some.inj hr
    rfl
  | stray c =>
    obtain rfl := Option.some.inj hr
    rfl
  | _ => exact absurd hr nofun

theorem token?_eq_none_of_isOpen (hopen : x.isOpen = true) : x.token? line = none := by
  cases x with
  | openString body => rfl
  | openComment body => rfl
  | _ => exact absurd hopen nofun

/-- Nothing is wrong with an open lexeme once it is closed. -/
theorem report?_closed (hopen : x.isOpen = true) : x.closed.report? line = none := by
  cases x with
  | openString body => rfl
  | openComment body => rfl
  | _ => exact absurd hopen nofun

/-- An open lexeme that is closed is a piece of the grammar, because it does not hold what closes
it. -/
theorem Fits.closed {rest : Text} (h : Fits o x []) (hopen : x.isOpen = true) :
    Fits o x.closed rest := by
  cases h with
  | openString hbody => exact .string hbody
  | openComment ho hbody => exact .blockComment ho hbody
  | _ => exact absurd hopen nofun

/-- **The remedy closes the last lexeme and leaves all others as they are.** -/
theorem split_append_remedy (h : split o t = xs ++ [x]) (hr : x.report? line = some r)
    (hopen : x.isOpen = true) : split o (t ++ r.fault.remedy) = xs ++ [x.closed] := by
  have hfits : Fits o x [] := (pieces_iff.2 h).fits
  have hclosed : Fits o x.closed [] := hfits.closed hopen
  have hlast := split_text_append hclosed
  rw [List.append_nil, split_nil] at hlast
  rw [split_append_of_eq_concat h, ← text_closed hr, hlast]

end Lexeme

namespace Scan

open Lexeme

variable {o : Options} {t : Text} {xs : List Lexeme} {x : Lexeme} {r : Report}

/-! ## A scan by its last lexeme -/

/-- Where the last lexeme begins, the text is cut into the other lexemes and this one. -/
theorem drop_of_eq_concat (h : split o t = xs ++ [x]) :
    t.drop (xs.flatMap text).length = x.text := by
  rw [← flatMap_text_split o t, h, List.flatMap_append, List.drop_left, List.flatMap_singleton]

theorem lineAt_of_eq_concat (h : split o t = xs ++ [x]) :
    Text.lineAt t (xs.flatMap text).length = 1 + Text.newlines (xs.flatMap text) := by
  rw [← flatMap_text_split o t, h, List.flatMap_append, Text.lineAt_append_left]

/-- What the last lexeme yields comes behind what the others yield. -/
theorem ofText_of_eq_concat (h : split o t = xs ++ [x]) :
    let line := Text.lineAt t (xs.flatMap text).length
    ofText o t = ⟨collect token? 1 xs ++ (x.token? line).toList ++ [Token.closing t],
      collect report? 1 xs ++ (x.report? line).toList⟩ := by
  rw [ofText_eq, h, collect_append, collect_append, collect_singleton, collect_singleton,
    lineAt_of_eq_concat h]

/-- Of the lexemes in front of the last one, only stray characters are reported. -/
theorem fault_of_mem_of_concat (h : split o t = xs ++ [x]) (hr : r ∈ collect report? 1 xs) :
    r.fault = .unexpectedCharacter := by
  obtain ⟨line, y, hy, hreport⟩ := exists_of_mem_collect hr
  exact fault_of_isOpen_eq_false (isOpen_eq_false_of_concat (pieces_iff.2 h) hy) hreport

/-- A report with a remedy is that of the last lexeme.  Open lexemes have nothing behind them. -/
theorem exists_concat_of_mem_reports (hr : r ∈ (ofText o t).reports)
    (hfault : r.fault ≠ .unexpectedCharacter) :
    ∃ xs x, split o t = xs ++ [x] ∧ x.isOpen = true ∧
      x.report? (Text.lineAt t (xs.flatMap text).length) = some r := by
  rcases List.eq_nil_or_concat (split o t) with h | ⟨xs, x, h⟩
  · rw [ofText_eq, h] at hr
    exact absurd hr List.not_mem_nil
  · rw [List.concat_eq_append] at h
    rw [ofText_of_eq_concat h, List.mem_append] at hr
    rcases hr with hr | hr
    · exact absurd (fault_of_mem_of_concat h hr) hfault
    · have hreport := Option.mem_toList.1 hr
      exact ⟨xs, x, h, isOpen_of_report? hreport hfault, hreport⟩

/-- **A text is mended by the remedy of its last fault.**  The other tokens and reports stay, the
report is gone, and the closed lexeme yields its token, if it has one, in front of the end. -/
theorem ofText_append_remedy (h : split o t = xs ++ [x]) (hopen : x.isOpen = true)
    (hr : x.report? (Text.lineAt t (xs.flatMap text).length) = some r) :
    ofText o t = ⟨collect token? 1 xs ++ [Token.closing t], collect report? 1 xs ++ [r]⟩ ∧
      ofText o (t ++ r.fault.remedy) =
        ⟨collect token? 1 xs ++ (x.closed.token? (Text.lineAt t (xs.flatMap text).length)).toList
            ++ [Token.closing t],
          collect report? 1 xs⟩ := by
  have hend : Token.closing (t ++ r.fault.remedy) = Token.closing t := by
    rw [Token.closing, Text.newlines_append, Fault.newlines_remedy]
    rfl
  have hsplit := split_append_remedy h hr hopen
  constructor
  · rw [ofText_of_eq_concat h, token?_eq_none_of_isOpen hopen, hr, Option.toList_none,
      List.append_nil]
    rfl
  · rw [ofText_of_eq_concat hsplit, hend, lineAt_of_eq_concat hsplit, ← lineAt_of_eq_concat h,
      report?_closed hopen, Option.toList_none, List.append_nil]

/-- An open string begins with a quote, and holds no other. -/
theorem quote_of_eq_concat {body : Text} (h : split o t = xs ++ [openString body]) :
    t[(xs.flatMap text).length]? = some '"' ∧ t.drop ((xs.flatMap text).length + 1) = body ∧
      '"' ∉ body := by
  have hdrop := drop_of_eq_concat h
  have hfits : Fits o (openString body) [] := (pieces_iff.2 h).fits
  refine ⟨?_, ?_, ?_⟩
  · rw [← List.head?_drop, hdrop]
    rfl
  · rw [← List.drop_drop, hdrop]
    rfl
  · cases hfits with
    | openString hbody => exact hbody

/-- **The hints mend what they go with, and nothing else.**  If a scan reports an open string, this
is its last report, all others are of stray characters, and the text ends with a quote and
characters that are no quotes.  One more quote, for which the hint asks, makes a string of them,
which is a token on the line of its first quote, in front of the end.  If a scan reports an open
comment, this too is its last report, and the tokens stay as they are when the comment is closed.
In both cases the other reports stay. -/
theorem ofText_mended (o : Options) (t : Text) :
    (∀ s, Cursor.scan o s = some (ofText o s)) ∧
      (∀ r ∈ (ofText o t).reports, r.fault = .unterminatedString →
        ∃ p ts rs, Boundary o t p ∧ t[p]? = some '"' ∧ '"' ∉ t.drop (p + 1) ∧
          ofText o t = ⟨ts ++ [Token.closing t], rs ++ [r]⟩ ∧
          (∀ r' ∈ rs, r'.fault = .unexpectedCharacter) ∧
          (∃ hint, r.fault.hint = some hint ∧ ['"'] <:+: hint) ∧
          ofText o (t ++ ['"']) = ⟨ts ++ [⟨.string, t.drop p ++ ['"'], some (t.drop (p + 1)),
            Text.lineAt t p⟩, Token.closing t], rs⟩) ∧
      ∀ r ∈ (ofText o t).reports, r.fault = .unterminatedComment →
        ∃ rs, ofText o t = ⟨(ofText o t).tokens, rs ++ [r]⟩ ∧
          (∀ r' ∈ rs, r'.fault = .unexpectedCharacter) ∧
          (∃ hint, r.fault.hint = some hint ∧ ['*', '/'] <:+: hint) ∧
          ofText o (t ++ ['*', '/']) = ⟨(ofText o t).tokens, rs⟩ := by
  refine ⟨Cursor.scan_eq o, fun r hr hfault ↦ ?_, fun r hr hfault ↦ ?_⟩
  · obtain ⟨xs, x, hsplit, hopen, hreport⟩ := exists_concat_of_mem_reports hr (by simp [hfault])
    obtain ⟨body, rfl⟩ := eq_openString_of_report? hreport hfault
    obtain ⟨hquote, hrest, hbody⟩ := quote_of_eq_concat hsplit
    obtain ⟨hscan, hmended⟩ := ofText_append_remedy hsplit hopen hreport
    rw [hfault, List.append_assoc] at hmended
    refine ⟨(xs.flatMap text).length, collect token? 1 xs, collect report? 1 xs,
      boundary_iff_exists.2 ⟨xs, _, hsplit, rfl⟩, hquote, hrest ▸ hbody, hscan,
      fun r' ↦ fault_of_mem_of_concat hsplit, ?_, ?_⟩
    · rw [hfault]
      exact ⟨_, rfl, Fault.remedy_isInfix_hint (f := .unterminatedString) rfl⟩
    · rw [hrest, drop_of_eq_concat hsplit]
      exact hmended
  · obtain ⟨xs, x, hsplit, hopen, hreport⟩ := exists_concat_of_mem_reports hr (by simp [hfault])
    obtain ⟨body, rfl⟩ := eq_openComment_of_report? hreport hfault
    obtain ⟨hscan, hmended⟩ := ofText_append_remedy hsplit hopen hreport
    -- a closed comment is no token, so that nothing is put in front of the end
    have htoken (line : Nat) : (openComment body).closed.token? line = none := rfl
    rw [hfault, htoken, Option.toList_none, List.append_nil] at hmended
    refine ⟨collect report? 1 xs, ?_, fun r' ↦ fault_of_mem_of_concat hsplit, ?_, ?_⟩
    · rw [hscan]
    · rw [hfault]
      exact ⟨_, rfl, Fault.remedy_isInfix_hint (f := .unterminatedComment) rfl⟩
    · rw [hscan]
      exact hmended

/-- A string that stays open over two lines, behind a stray character; and a comment that begins
with `/*/` and ends with a star. -/
theorem ofText_mended_star :
    (⟨2, .unterminatedString⟩ ∈ (ofText {} ['@', '"', '\n', '/', '*']).reports ∧
      ∃ p ts rs, Boundary {} ['@', '"', '\n', '/', '*'] p ∧
        (ofText {} ['@', '"', '\n', '/', '*']).reports = rs ++ [⟨2, .unterminatedString⟩] ∧
        ofText {} ['@', '"', '\n', '/', '*', '"'] =
          ⟨ts ++ [⟨.string, ['@', '"', '\n', '/', '*'].drop p ++ ['"'],
            some (['@', '"', '\n', '/', '*'].drop (p + 1)),
            Text.lineAt ['@', '"', '\n', '/', '*'] p⟩, Token.closing ['\n']], rs⟩) ∧
      ⟨1, .unterminatedComment⟩ ∈ (ofText {} ['+', '/', '*', '/', '*']).reports ∧
      ∃ rs, (ofText {} ['+', '/', '*', '/', '*']).reports = rs ++ [⟨1, .unterminatedComment⟩] ∧
        ofText {} ['+', '/', '*', '/', '*', '*', '/'] =
          ⟨(ofText {} ['+', '/', '*', '/', '*']).tokens, rs⟩ := by
  have hstring : ⟨2, .unterminatedString⟩ ∈ (ofText {} ['@', '"', '\n', '/', '*']).reports := by
    decide +kernel
  have hcomment : ⟨1, .unterminatedComment⟩ ∈ (ofText {} ['+', '/', '*', '/', '*']).reports := by
    decide +kernel
  obtain ⟨-, hstrings, -⟩ := ofText_mended {} ['@', '"', '\n', '/', '*']
  obtain ⟨p, ts, rs, hp, -, -, hscan, -, -, hmended⟩ := hstrings _ hstring rfl
  obtain ⟨-, -, hcomments⟩ := ofText_mended {} ['+', '/', '*', '/', '*']
  obtain ⟨rs', hscan', -, -, hmended'⟩ := hcomments _ hcomment rfl
  exact ⟨⟨hstring, p, ts, rs, hp, congrArg Scan.reports hscan, hmended⟩, hcomment, rs',
    congrArg Scan.reports hscan', hmended'⟩

end Scan

end LoxTokens
