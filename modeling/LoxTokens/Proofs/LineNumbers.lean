import LoxTokens.Proofs.Reading

/-!
# The lines of tokens and reports

Every line that a scan names is the line of a position of the text, and this file says of which one.
A token stands at its first character (`_start_line`), the end of the text at the last position, a
stray character and an open comment where they begin; an open string is the one construct that is
reported where the text ends (`Lexeme.reportAt`), because `_scan_string` reports the line that it
has come to.  Since lexemes lie one behind the other, lines never decrease, neither along the tokens
nor along the reports (`pairwise_line_tokens`, `pairwise_line_reports`).

The numbers of `Scanner` are added up as it goes; the ones here are counted off the text.  That they
are the same is `Lexeme.place_eq_map_locate`, and the rest follows from where lexemes lie.
-/

set_option autoImplicit false

namespace LoxTokens

namespace Lexeme

variable {o : Options} {t : Text} {p : Nat} {x : Lexeme}

/-- The report of a lexeme that begins at the position `p` of `t`, its line counted off the text.
An open string is reported on the line of the end, and so on no line of its own. -/
def reportAt (t : Text) (p : Nat) : Lexeme → Option Report
  | stray _ => some ⟨Text.lineAt t p, .unexpectedCharacter⟩
  | openComment _ => some ⟨Text.lineAt t p, .unterminatedComment⟩
  | openString _ => some ⟨Text.lineAt t t.length, .unterminatedString⟩
  | _ => none

/-- An open lexeme reaches to the end of the text. -/
theorem text_eq_of_isOpen (hx : (p, x) ∈ locate 0 (split o t)) (hopen : x.isOpen = true) :
    ∃ before, t = before ++ x.text ∧ p = before.length := by
  obtain ⟨pre, post, hsplit, hp⟩ := exists_of_mem_locate hx
  have hpieces := pieces_iff.2 hsplit
  have hnil := hpieces.fits.eq_nil_of_isOpen hopen
  refine ⟨pre.flatMap text, ?_, by rw [hp, Nat.zero_add]⟩
  rw [← hpieces.flatMap_text, List.flatMap_append, List.flatMap_cons, hnil, List.append_nil]

theorem report?_eq_reportAt (hx : (p, x) ∈ locate 0 (split o t)) :
    x.report? (Text.lineAt t p) = x.reportAt t p := by
  cases x with
  | openString body =>
    obtain ⟨before, rfl, rfl⟩ := text_eq_of_isOpen hx rfl
    rw [report?, reportAt, Text.lineAt_length, Text.lineAt_append_left, Text.newlines_append, text,
      show Text.newlines ('"' :: body) = Text.newlines body from List.count_cons_of_ne (by decide),
      Nat.add_assoc]
  | _ => rfl

/-- The line of a report is that of a position between both ends of its lexeme. -/
theorem line_of_reportAt {r : Report} (hx : (p, x) ∈ locate 0 (split o t))
    (hr : x.reportAt t p = some r) :
    Text.lineAt t p ≤ r.line ∧ r.line ≤ Text.lineAt t (p + x.text.length) := by
  have hmono := Text.lineAt_mono t (Nat.le_add_right p x.text.length)
  cases x with
  | stray c =>
    obtain rfl := Option.some.inj hr
    exact ⟨Nat.le_refl _, hmono⟩
  | openComment body =>
    obtain rfl := Option.some.inj hr
    exact ⟨Nat.le_refl _, hmono⟩
  | openString body =>
    obtain rfl := Option.some.inj hr
    obtain ⟨before, ht, hp⟩ := text_eq_of_isOpen hx rfl
    have hend : p + (openString body).text.length = t.length := by
      rw [ht, hp, List.length_append]
    rw [hend] at hmono ⊢
    exact ⟨hmono, Nat.le_refl _⟩
  | _ => simp [reportAt] at hr

end Lexeme

namespace Scan

open Lexeme

theorem reports_eq_reportAt (o : Options) (t : Text) :
    (ofText o t).reports = (locate 0 (split o t)).filterMap fun p ↦ p.2.reportAt t p.1 := by
  rw [reports_ofText]
  exact List.filterMap_congr fun p hp ↦ report?_eq_reportAt hp

variable {o : Options} {t : Text}

/-- Every line that a token carries is the line of a position. -/
theorem exists_line_of_mem_tokens {k : Token} (h : k ∈ (ofText o t).tokens) :
    ∃ p, k.line = Text.lineAt t p := by
  rw [tokens_ofText, List.mem_append, List.mem_singleton] at h
  rcases h with h | rfl
  · obtain ⟨p, -, hk⟩ := List.mem_filterMap.1 h
    exact ⟨p.1, (eq_of_token? hk).2⟩
  · exact ⟨t.length, by rw [Text.lineAt_length]; rfl⟩

/-- The line of a token is one of the text. -/
theorem line_of_mem_tokens {k : Token} (h : k ∈ (ofText o t).tokens) :
    1 ≤ k.line ∧ k.line ≤ (1 + Text.newlines t : Nat) := by
  obtain ⟨p, hp⟩ := exists_line_of_mem_tokens h
  have := Text.one_le_lineAt t p
  have := Text.lineAt_le t p
  omega

/-- So is the line of a report. -/
theorem line_of_mem_reports {r : Report} (h : r ∈ (ofText o t).reports) :
    1 ≤ r.line ∧ r.line ≤ 1 + Text.newlines t := by
  rw [reports_eq_reportAt] at h
  obtain ⟨p, hp, hr⟩ := List.mem_filterMap.1 h
  obtain ⟨hle, hge⟩ := line_of_reportAt hp hr
  exact ⟨(Text.one_le_lineAt t p.1).trans hle, hge.trans (Text.lineAt_le t _)⟩

/-- Along the tokens the lines do not decrease. -/
theorem pairwise_line_tokens (o : Options) (t : Text) :
    ((ofText o t).tokens.map Token.line).Pairwise (· ≤ ·) := by
  rw [List.pairwise_map, tokens_ofText, List.pairwise_append, List.pairwise_filterMap]
  refine ⟨(pairwise_locate 0 (split o t)).imp ?_, List.pairwise_singleton _ _, ?_⟩
  · intro a b hab j hj k hk
    rw [(eq_of_token? hj).2, (eq_of_token? hk).2]
    exact_mod_cast Text.lineAt_mono t ((Nat.le_add_right _ _).trans hab)
  · intro j hj k hk
    have hmem : j ∈ (ofText o t).tokens := by
      rw [tokens_ofText]
      exact List.mem_append_left _ hj
    rw [List.mem_singleton.1 hk]
    exact (line_of_mem_tokens hmem).2

/-- Along the reports they do not either, though an open string is reported behind its place: it is
the last lexeme. -/
theorem pairwise_line_reports (o : Options) (t : Text) :
    ((ofText o t).reports.map Report.line).Pairwise (· ≤ ·) := by
  rw [List.pairwise_map, reports_eq_reportAt, List.pairwise_filterMap]
  refine (pairwise_locate 0 (split o t)).imp_of_mem ?_
  intro a b ha hb hab r hr s hs
  calc r.line ≤ Text.lineAt t (a.1 + a.2.text.length) := (line_of_reportAt ha hr).2
    _ ≤ Text.lineAt t b.1 := Text.lineAt_mono t hab
    _ ≤ s.line := (line_of_reportAt hb hs).1

/-- **The lines of a scan**, whether they are added up along the lexemes or counted by a cursor.
Each lexeme lies at its position; a token carries the line of the position at which it begins, and
the token of the end that of the last position.  A stray character and an open comment are reported
on the line on which they begin, an open string on the last.  The lines never decrease, and all of
them are lines of the text. -/
theorem ofText_lines (o : Options) (t : Text) :
    Cursor.scan o t = some (ofText o t) ∧
      (∀ p ∈ locate 0 (split o t), p.2.text <+: t.drop p.1) ∧
      (ofText o t).tokens =
        (locate 0 (split o t)).filterMap (fun p ↦ p.2.token? (Text.lineAt t p.1))
          ++ [⟨.endOfInput, [], none, (1 + Text.newlines t : Nat)⟩] ∧
      (ofText o t).reports = (locate 0 (split o t)).filterMap (fun p ↦ p.2.reportAt t p.1) ∧
      ((ofText o t).tokens.map Token.line).Pairwise (· ≤ ·) ∧
      ((ofText o t).reports.map Report.line).Pairwise (· ≤ ·) ∧
      (∀ k ∈ (ofText o t).tokens, 1 ≤ k.line ∧ k.line ≤ (1 + Text.newlines t : Nat)) ∧
      ∀ r ∈ (ofText o t).reports, 1 ≤ r.line ∧ r.line ≤ 1 + Text.newlines t := by
  refine ⟨Cursor.scan_eq o t, ?_, tokens_ofText o t, reports_eq_reportAt o t,
    pairwise_line_tokens o t, pairwise_line_reports o t, fun k ↦ line_of_mem_tokens,
    fun r ↦ line_of_mem_reports⟩
  intro p hp
  have hprefix := text_isPrefix_of_mem_locate hp
  rwa [flatMap_text_split] at hprefix

/-- A string over two lines, a stray character behind it, and a string that stays open on the third
line. -/
theorem ofText_lines_string :
    ((3, stray '@') ∈ locate 0 (split {} ['"', '\n', '"', '@', '\n', '"']) ∧
      (stray '@').text <+: ['"', '\n', '"', '@', '\n', '"'].drop 3) ∧
      ((⟨.string, ['"', '\n', '"'], some ['\n'], 1⟩ : Token) ∈
          (ofText {} ['"', '\n', '"', '@', '\n', '"']).tokens ∧
        (1 : Int) ≤ (1 + Text.newlines ['"', '\n', '"', '@', '\n', '"'] : Nat)) ∧
      (⟨3, .unterminatedString⟩ ∈ (ofText {} ['"', '\n', '"', '@', '\n', '"']).reports ∧
        3 ≤ 1 + Text.newlines ['"', '\n', '"', '@', '\n', '"']) := by
  obtain ⟨-, hplace, -, -, -, -, htokens, hreports⟩ :=
    ofText_lines {} ['"', '\n', '"', '@', '\n', '"']
  have hstray : (3, stray '@') ∈ locate 0 (split {} ['"', '\n', '"', '@', '\n', '"']) := by
    decide +kernel
  have hstring : (⟨.string, ['"', '\n', '"'], some ['\n'], 1⟩ : Token) ∈
      (ofText {} ['"', '\n', '"', '@', '\n', '"']).tokens := by decide +kernel
  have hopen : ⟨3, .unterminatedString⟩ ∈
      (ofText {} ['"', '\n', '"', '@', '\n', '"']).reports := by decide +kernel
  exact ⟨⟨hstray, hplace _ hstray⟩, ⟨hstring, (htokens _ hstring).2⟩, hopen, (hreports _ hopen).2⟩

end Scan

end LoxTokens
