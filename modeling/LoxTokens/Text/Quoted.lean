import LoxTokens.Text.Hexadecimal
import LoxTokens.Text.Printable

/-!
# Quoted texts

`Quoted.encode t` writes `t` between quotes so that it can be read back, on one line and without
any character that does not print.  The quote is an apostrophe, unless `t` holds apostrophes and no
double quotes; then it is a double quote and nothing needs escaping on that account.  Inside, the
quote and the backslash are written behind a backslash, line feed, carriage return and tab as
`\n`, `\r`, `\t`, and every other character that does not print by its code point, with the
fewest of two, four or eight hexadecimal digits that hold it.

Texts are quoted in the record of a token (`Token.__repr__`), in what the log says of a variable,
and in the names of files and options that are refused.  Of the first it is proved that it can be
read back (`LoxTokens.Proofs.QuotedRecord`).
-/

set_option autoImplicit false

namespace LoxTokens.Quoted

open Text

/-- The quote that stands on both sides of `t`. -/
def delimiter (t : Text) : Char := if '\'' ∈ t ∧ '"' ∉ t then '"' else '\''

/-- A code point by number: `\x` and two digits, `\u` and four, or `\U` and eight. -/
def codeEscape (n : Nat) : Text :=
  if n < 0x100 then '\\' :: 'x' :: Hexadecimal.padded 2 n
  else if n < 0x10000 then '\\' :: 'u' :: Hexadecimal.padded 4 n
  else '\\' :: 'U' :: Hexadecimal.padded 8 n

/-- One character between the quotes `q`. -/
def escape (q c : Char) : Text :=
  if c = q ∨ c = '\\' then ['\\', c]
  else if c = '\n' then ['\\', 'n']
  else if c = '\r' then ['\\', 'r']
  else if c = '\t' then ['\\', 't']
  else if isPrintable c then [c]
  else codeEscape c.toNat

/-- The quoted form of a text. -/
def encode (t : Text) : Text :=
  let q := delimiter t
  q :: (t.flatMap (escape q) ++ [q])

end LoxTokens.Quoted
