/-!
# Texts

A text is a list of characters, so that its length counts characters and every statement about it
can follow the list.  An index into it counts code points, and no encoding is in sight before
`LoxTokens.Text.Utf8`.

This file holds two general operations that the core library does not name:

* `Text.dropTrailing p t` — `t` without the longest run of characters at its end that satisfy `p`.
  Carriage returns are dropped in this way from a quoted line, and white space from the value of a
  variable.  What is known of it is in `LoxTokens.Proofs.Trailing`.
* `Text.covers ranges c` — whether a table of code point ranges has the character `c`.  The tables
  of white space, of letters and of what cannot be printed are all read in this way.
-/

set_option autoImplicit false

namespace LoxTokens

/-- A text is a sequence of characters. -/
abbrev Text := List Char

namespace Text

/-- The text without the longest run of characters at its end that all satisfy `p`. -/
def dropTrailing (p : Char → Bool) (t : Text) : Text := (t.reverse.dropWhile p).reverse

/-- Some range of the table, ends included, holds the code point of `c`. -/
def covers (ranges : List (Nat × Nat)) (c : Char) : Bool :=
  ranges.any fun r ↦ r.1 ≤ c.toNat && c.toNat ≤ r.2

end Text

end LoxTokens
