import LoxTokens.Text.Decimal
import LoxTokens.Text.Quoted
import LoxTokens.Token

/-!
# Tokens as plain texts

A token is printed in two ways, and says why it cannot be changed.

* `Token.plain` (`Token.__str__`) is the kind, the lexeme and the literal with a space between, and
  `null` for a literal that is absent.  It leaves out the line and escapes nothing, so that it takes
  an argument to tell the tokens from it (`LoxTokens.Proofs.PlainDump`).
* `Token.quoted` (`Token.__repr__`) is the record of all that a token holds, with its texts in
  quotes.  It leaves out a literal that is absent, and the lexeme and the literal are told apart
  nevertheless (`LoxTokens.Proofs.QuotedRecord`).
* `Token.refusal` is what is said to whoever tries to change a field.
-/

set_option autoImplicit false

namespace LoxTokens.Token

/-- Kind, lexeme and literal. -/
def plain (t : Token) : Text :=
  t.kind.name ++ ' ' :: t.lexeme ++ ' ' :: t.literal.getD "null".toList

/-- The whole record. -/
def quoted (t : Token) : Text :=
  let literal := match t.literal with
    | none => []
    | some body => ", ".toList ++ Quoted.encode body
  "Token(".toList ++ t.kind.name ++ ", ".toList ++ Quoted.encode t.lexeme ++ literal
    ++ ", ".toList ++ Decimal.ofInt t.line ++ [')']

/-- Why a token cannot be changed: its fields can neither be assigned nor, with `delete`, be taken
away. -/
def refusal (field : Text) (delete : Bool) : Text :=
  (if delete then "cannot delete field " else "cannot assign to field ").toList
    ++ Quoted.encode field

end LoxTokens.Token
