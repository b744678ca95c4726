import LoxTokens.Lexeme.Split
import LoxTokens.Text.Decimal

/-!
# Scanning a text

`Scan.ofText o t` holds the tokens of `t` under the options `o`, closed by one token for the end of
the input, and the reports of all that is wrong with `t`, both in the order of the text.  It says
what `scan_tokens` returns and what it calls the reporter with.

It is read off the lexemes of `t`, each of which knows the line it begins on (`Lexeme.place`).  A
fault never ends a scan: its lexeme yields no token, and the scan goes on behind it.  There is no
loop, no position and no counter in this; those are in `LoxTokens.Cursor`, which goes through a text
as `Scanner` does, and the two are proved to agree (`Cursor.scan_eq`).  What is said of scans is
said of `Scan.ofText`, since all of its parts can be taken apart at a lexeme.

`Scan.log` is the account of a scan that a user may ask for: one line at the beginning, one for each
report, and one at the end.
-/

set_option autoImplicit false

namespace LoxTokens

/-- The lexemes that follow each other from the given line on, each with the line it begins on. -/
def Lexeme.place (line : Nat) : List Lexeme → List (Nat × Lexeme)
  | [] => []
  | x :: xs => (line, x) :: Lexeme.place (line + Text.newlines x.text) xs

@[simp] theorem Lexeme.map_snd_place (line : Nat) (xs : List Lexeme) :
    (Lexeme.place line xs).map Prod.snd = xs := by
  induction xs generalizing line with
  | nil => rfl
  | cons x xs ih => rw [Lexeme.place, List.map_cons, ih]

theorem Lexeme.place_append (line : Nat) (xs ys : List Lexeme) :
    Lexeme.place line (xs ++ ys) = Lexeme.place line xs
      ++ Lexeme.place (line + Text.newlines (xs.flatMap Lexeme.text)) ys := by
  induction xs generalizing line with
  | nil => simp [Lexeme.place]
  | cons x xs ih => simp [Lexeme.place, ih, Nat.add_assoc]

/-- The token that closes a text.  It has the line behind the last line feed. -/
def Token.closing (t : Text) : Token := ⟨.endOfInput, [], none, (1 + Text.newlines t : Nat)⟩

/-- What a text yields: the tokens that `scan_tokens` returns and the reports that it makes. -/
structure Scan where
  tokens : List Token
  reports : List Report
  deriving DecidableEq, Repr

namespace Scan

/-- The scan of a text. -/
def ofText (o : Options) (t : Text) : Scan where
  tokens := (Lexeme.place 1 (Lexeme.split o t)).filterMap (fun p ↦ p.2.token? p.1)
    ++ [Token.closing t]
  reports := (Lexeme.place 1 (Lexeme.split o t)).filterMap (fun p ↦ p.2.report? p.1)

/-- One line of a log for a report. -/
def reportLine (file : Text) (r : Report) : Text :=
  file ++ [':'] ++ Decimal.ofNat r.line ++ ": ".toList ++ r.fault.message

/-- The line of a log with which a scan begins: how many characters there are. -/
def openingLine (file t : Text) : Text :=
  "scanning ".toList ++ file ++ " (".toList ++ Decimal.ofNat t.length ++ " chars)".toList

/-- The line of a log with which a scan ends: how many tokens and reports there were. -/
def closingLine (file : Text) (tokenCount reportCount : Nat) : Text :=
  "scanned ".toList ++ file ++ ": ".toList ++ Decimal.ofNat tokenCount ++ " tokens, ".toList
    ++ Decimal.ofNat reportCount ++ " errors".toList

/-- The log of the scan of `t` from the given file. -/
def log (file t : Text) (s : Scan) : List Text :=
  openingLine file t
    :: (s.reports.map (reportLine file) ++ [closingLine file s.tokens.length s.reports.length])

end Scan

end LoxTokens
