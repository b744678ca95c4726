import LoxTokens.Fault
import LoxTokens.Text.Lines
import LoxTokens.Token

/-!
# Lexemes

A lexeme is a piece of a text that is read as one unit: a symbol, a string, a blank, a comment, a
construct that is still open where the text ends, or a single character that begins nothing.  It is
what one call of `_scan_token` reads.  `Lexeme.text` is the piece itself, so that lexemes can be put
together again to the text that they were read from.

A lexeme that begins on a given line yields at most one token (`token?`, what `_add_token` appends)
and at most one report (`report?`, what `_error` is called with), and never both.  A comment that is
closed and a blank yield neither.  Of an open construct the report is all that is left: the
characters in it are no tokens, whatever they are.
-/

set_option autoImplicit false

namespace LoxTokens

/-- A piece of a text. -/
inductive Lexeme
  /-- An operator or punctuation mark. -/
  | symbol (s : Symbol)
  /-- A string with the inner text `body`. -/
  | string (body : Text)
  /-- A string that is never closed. -/
  | openString (body : Text)
  /-- A comment up to the end of the line, opened by `/` and the character `second`. -/
  | lineComment (second : Char) (body : Text)
  /-- A comment between `/*` and `*/`. -/
  | blockComment (body : Text)
  /-- A comment behind `/*` that is never closed. -/
  | openComment (body : Text)
  /-- A space, tab, carriage return or line feed. -/
  | blank (c : Char)
  /-- A character that begins no other lexeme. -/
  | stray (c : Char)
  deriving DecidableEq, Repr

namespace Lexeme

/-- The piece of text that a lexeme is. -/
def text : Lexeme → Text
  | symbol s => s.spelling
  | string body => '"' :: (body ++ ['"'])
  | openString body => '"' :: body
  | lineComment second body => '/' :: second :: body
  | blockComment body => '/' :: '*' :: (body ++ ['*', '/'])
  | openComment body => '/' :: '*' :: body
  | blank c => [c]
  | stray c => [c]

theorem text_ne_nil (x : Lexeme) : x.text ≠ [] := by
  cases x <;> simp [text, Symbol.spelling_ne_nil]

/-- The token of a lexeme that begins on the given line (`_add_token`). -/
def token? (line : Nat) : Lexeme → Option Token
  | symbol s => some ⟨.symbol s, s.spelling, none, line⟩
  | string body => some ⟨.string, (string body).text, some body, line⟩
  | _ => none

/-- The report of a lexeme that begins on the given line.  An open comment is reported where it
begins, because it swallows all that follows; an open string is reported where the text ends. -/
def report? (line : Nat) : Lexeme → Option Report
  | stray _ => some ⟨line, .unexpectedCharacter⟩
  | openComment _ => some ⟨line, .unterminatedComment⟩
  | openString body => some ⟨line + Text.newlines body, .unterminatedString⟩
  | _ => none

/-- The token of a lexeme carries its text and its line. -/
theorem eq_of_token? {x : Lexeme} {line : Nat} {t : Token} (h : x.token? line = some t) :
    t.lexeme = x.text ∧ t.line = line := by
  cases x with
  | symbol s => obtain rfl := Option.some.inj h; exact ⟨rfl, rfl⟩
  | string body => obtain rfl := Option.some.inj h; exact ⟨rfl, rfl⟩
  | _ => simp [token?] at h

theorem report?_eq_none_of_token? {x : Lexeme} {line : Nat} {t : Token}
    (h : x.token? line = some t) : x.report? line = none := by
  cases x <;> simp_all [token?, report?]

end Lexeme

end LoxTokens
