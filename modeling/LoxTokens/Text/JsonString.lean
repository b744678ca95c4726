import LoxTokens.Text.Hexadecimal

/-!
# JSON strings in ASCII

`JsonString.encode t` is `t` as a JSON string of printable ASCII only.  The quote, the backslash
and the five controls that have a letter are written with it; every other character outside the
range from space to tilde is written as `\u` and four digits, and one above U+FFFF as the two
surrogates that stand for it.

So there is no ESC in it, and nothing for the console to strip, whatever the text is.
-/

set_option autoImplicit false

namespace LoxTokens.JsonString

/-- The sixteen-bit units of a character: itself, or a high and a low surrogate. -/
def units (c : Char) : List Nat :=
  if c.toNat < 0x10000 then [c.toNat]
  else [0xD800 + (c.toNat - 0x10000) / 0x400, 0xDC00 + (c.toNat - 0x10000) % 0x400]

/-- One character of a string. -/
def escape (c : Char) : Text :=
  if c = '"' ∨ c = '\\' then ['\\', c]
  else if c = '\n' then ['\\', 'n']
  else if c = '\r' then ['\\', 'r']
  else if c = '\t' then ['\\', 't']
  else if c = '\x08' then ['\\', 'b']
  else if c = '\x0c' then ['\\', 'f']
  else if 0x20 ≤ c.toNat ∧ c.toNat ≤ 0x7E then [c]
  else (units c).flatMap fun u ↦ '\\' :: 'u' :: Hexadecimal.padded 4 u

/-- A text as a JSON string, quotes included. -/
def encode (t : Text) : Text := '"' :: (t.flatMap escape ++ ['"'])

end LoxTokens.JsonString
