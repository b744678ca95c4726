import LoxTokens.Text.Basic

/-!
# Options of a scan

Two points of the language can be switched off: comments between `/*` and `*/`, and the operator
`**`.  This is `ScannerOptions`.  Both are on unless someone says otherwise, be it the environment
(`LoxTokens.Options.Environment`) or a flag of the command (`LoxTokens.Command.Run`).

Without the first, `/*` is no more than another way to write `//`; without the second, `**` is two
stars.  That neither changes anything else is proved in `LoxTokens.Proofs.Dialects`.
-/

set_option autoImplicit false

namespace LoxTokens

/-- What a scan recognises (`ScannerOptions`). -/
structure Options where
  /-- Whether `/*` opens a comment that runs to the next `*/`.  If not, it opens one that runs to
  the end of the line, as `//` does. -/
  blockComments : Bool := true
  /-- Whether `**` is one symbol.  If not, it is two stars. -/
  exponentOperator : Bool := true
  deriving DecidableEq, Repr

namespace Options

/-- A truth value as it is shown to a user. -/
def switchText (b : Bool) : Text := if b then "True".toList else "False".toList

/-- The options as they are shown in a log. -/
def text (o : Options) : Text :=
  "ScannerOptions(block_comments=".toList ++ switchText o.blockComments
    ++ ", exponent_operator=".toList ++ switchText o.exponentOperator ++ [')']

end Options

end LoxTokens
