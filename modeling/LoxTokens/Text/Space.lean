import LoxTokens.Text.Basic

/-!
# White space

White space in the sense of Unicode, together with the four information separators U+001C to
U+001F: twenty-nine characters.  Zero-width spaces and the byte order mark are not among them.

This is the white space that `_env_flag` takes away from the value of a variable (`Text.trim`).  The
scanner has blanks of its own, four of them (`Lexeme.isBlank`), and neither notion is defined by the
other.  What `Text.trim` leaves of a text is said without saying how it is found by `Text.Trimmed`,
in `LoxTokens.Proofs.Trailing`.
-/

set_option autoImplicit false

namespace LoxTokens.Text

/-- The ranges of white-space characters. -/
def spaceRanges : List (Nat × Nat) :=
  [(0x9, 0xD), (0x1C, 0x20), (0x85, 0x85), (0xA0, 0xA0), (0x1680, 0x1680), (0x2000, 0x200A),
   (0x2028, 0x2029), (0x202F, 0x202F), (0x205F, 0x205F), (0x3000, 0x3000)]

/-- The character is white space. -/
def isSpace (c : Char) : Bool := covers spaceRanges c

/-- The text without white space on either side. -/
def trim (t : Text) : Text := dropTrailing isSpace (t.dropWhile isSpace)

end LoxTokens.Text
