import LoxTokens.Options
import LoxTokens.Text.Lowercase
import LoxTokens.Text.Quoted
import LoxTokens.Text.Space

/-!
# Options from the environment

Each option can be given in a variable of the environment, as one of four words for yes or one of
four for no.  White space around the word and the case of its letters do not matter.  Any other
value is passed over in favour of the default, and the log says so.

* `Setting.ofVariable` — what a variable says, and `Setting.value` and `Setting.log` — what comes of
  it.  Together they are `_env_flag`.
* `Options.ofEnvironment` — both options (`ScannerOptions.from_env`).
* `Options.environmentLog` — what the log says about them.

A variable that is set to nothing but white space is set, and says nothing that is known; so it is
logged, unlike one that is not set.  Which characters count as white space, and what lower case is,
are matters of `LoxTokens.Text.Space` and `LoxTokens.Text.Lowercase`.
-/

set_option autoImplicit false

namespace LoxTokens

/-- The variables that are set, and their values. -/
abbrev Environment := Text → Option Text

/-- What a variable says about an option. -/
inductive Setting
  /-- The variable is not set. -/
  | unset
  /-- It says yes or no. -/
  | given (value : Bool)
  /-- It says this word, which is neither. -/
  | invalid (word : Text)
  deriving DecidableEq, Repr

namespace Setting

/-- The words for yes (`_TRUE_VALUES`). -/
def yesWords : List Text := ["1".toList, "true".toList, "yes".toList, "on".toList]

/-- The words for no (`_FALSE_VALUES`). -/
def noWords : List Text := ["0".toList, "false".toList, "no".toList, "off".toList]

/-- What a word in lower case says. -/
def ofWord (word : Text) : Setting :=
  if word ∈ yesWords then given true
  else if word ∈ noWords then given false
  else invalid word

/-- What a variable says, by its value if it is set.  White space is taken away first, lower case
comes second. -/
def ofVariable : Option Text → Setting
  | none => unset
  | some value => ofWord (Text.lowercase (Text.trim value))

/-- The value of the option, given its default. -/
def value (default : Bool) : Setting → Bool
  | unset | invalid _ => default
  | given value => value

/-- What the log says about the variable of the given name.  The word is quoted as it was looked
up. -/
def log (name : Text) : Setting → List Text
  | unset | given _ => []
  | invalid word =>
    ["ignoring invalid value ".toList ++ Quoted.encode word ++ " for ".toList ++ name]

end Setting

namespace Options

/-- The variable for comments between `/*` and `*/`. -/
def blockCommentsVariable : Text := "LOXLEX_BLOCK_COMMENTS".toList

/-- The variable for the operator `**`. -/
def exponentOperatorVariable : Text := "LOXLEX_EXPONENT_OPERATOR".toList

/-- The options that an environment asks for (`from_env`). -/
def ofEnvironment (env : Environment) : Options where
  blockComments := (Setting.ofVariable (env blockCommentsVariable)).value true
  exponentOperator := (Setting.ofVariable (env exponentOperatorVariable)).value true

/-- What the log says about them. -/
def environmentLog (env : Environment) : List Text :=
  [blockCommentsVariable, exponentOperatorVariable].flatMap fun name ↦
    (Setting.ofVariable (env name)).log name

end Options

end LoxTokens
