import LoxTokens.Text.Decimal
import LoxTokens.Text.JsonString
import LoxTokens.Token

/-!
# Tokens as JSON

`Token.jsonArray` writes a list of tokens as a JSON array of objects, in ASCII, indented by two
spaces a level.  Each object has the members `type`, `lexeme`, `literal` and `line`, in this order:
those of `Token.to_dict`.  The literal of a token that is no string is `null`, which is not the same
as a string with nothing in it.

This is what `--json` prints.  What the array says, by a reader of JSON, is proved in
`LoxTokens.Proofs.JsonDump`.
-/

set_option autoImplicit false

namespace LoxTokens.Token

/-- The members of the object of a token: names and values. -/
def jsonMembers (t : Token) : List (Text × Text) :=
  [("type".toList, JsonString.encode t.kind.name),
   ("lexeme".toList, JsonString.encode t.lexeme),
   ("literal".toList, (t.literal.map JsonString.encode).getD "null".toList),
   ("line".toList, Decimal.ofInt t.line)]

/-- Items with a comma and a line break between them. -/
def jsonItems (items : List Text) : Text := [',', '\n'].intercalate items

/-- The object of a token, as an item of an array. -/
def jsonObject (t : Token) : Text :=
  "  \x7b\n".toList
    ++ jsonItems (t.jsonMembers.map fun (name, value) ↦
        "    ".toList ++ JsonString.encode name ++ ": ".toList ++ value)
    ++ "\n  \x7d".toList

/-- The array of the objects of the tokens. -/
def jsonArray (ts : List Token) : Text :=
  if ts.isEmpty then "[]".toList else "[\n".toList ++ jsonItems (ts.map jsonObject) ++ "\n]".toList

end LoxTokens.Token
