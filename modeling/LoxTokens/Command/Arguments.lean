import LoxTokens.Command.Path
import LoxTokens.Console
import LoxTokens.Text.Quoted

/-!
# Arguments of the command

`Request.ofArguments` is what the arguments of a call of `loxscan` ask for.  Options come before
everything else: a fault in one of them refuses the call, and then the first of `--help` and
`--version` decides.  Otherwise the first argument that is no option names the input, which must be
a file or `-`, and there must be no second one.

* `Flag` — the options, with their long names and their letters.
* `Refusal` — why a call is refused, and `Refusal.report` — what is then written.
* `Source` — what is read: the standard input, or the bytes of a file under the name that is shown.
* `Request` — one of four things that a call can ask for.

The input is named by a path, and `-` names the standard input by two rules that differ: of the
argument as it was given, in the check that the file exists, and of the path as it is shown, when
the source is read.  What follows from this is in `LoxTokens.Proofs.Sources`.
-/

set_option autoImplicit false

namespace LoxTokens

/-- An option of the command. -/
inductive Flag
  | json
  | noBlockComments
  | noExponent
  | verbose
  | version
  | help
  deriving DecidableEq, Repr

namespace Flag

/-- The options by their long names. -/
def names : List (Text × Flag) :=
  [("--json".toList, json), ("--no-block-comments".toList, noBlockComments),
   ("--no-exponent".toList, noExponent), ("--verbose".toList, verbose),
   ("--version".toList, version), ("--help".toList, help)]

/-- The options by their letters. -/
def letters : List (Char × Flag) := [('v', verbose)]

end Flag

/-- Why a call is refused. -/
inductive Refusal
  | unknownOption (name : Text)
  | needlessValue (name : Text)
  | noInput
  | missing (path : Text)
  | directory (path : Text)
  | extra (arguments : List Text)
  deriving DecidableEq, Repr

namespace Refusal

/-- The reason in words. -/
def message : Refusal → Text
  | unknownOption name => "No such option ".toList ++ Quoted.encode name ++ ['.']
  | needlessValue name => "Option ".toList ++ Quoted.encode name ++ " does not take a value.".toList
  | noInput => "Missing argument 'INPUT_FILE'.".toList
  | missing path =>
    "Invalid value for 'INPUT_FILE': File ".toList ++ Quoted.encode path
      ++ " does not exist.".toList
  | directory path =>
    "Invalid value for 'INPUT_FILE': File ".toList ++ Quoted.encode path
      ++ " is a directory.".toList
  | extra arguments =>
    "Got unexpected extra argument".toList ++ (if arguments.length = 1 then [] else ['s'])
      ++ " (".toList ++ [' '].intercalate arguments ++ [')']

/-- How the command is to be called. -/
def usage : Text :=
  "Usage: loxscan [OPTIONS] INPUT_FILE\nTry 'loxscan --help' for help.\n\n".toList

/-- What is written on the error stream. -/
def report (r : Refusal) : Text :=
  (match r with
    | needlessValue _ => []
    | _ => usage)
  ++ echo ("Error: ".toList ++ r.message)

end Refusal

/-- Arguments that are sorted: the options in their order, and the others. -/
structure Arguments where
  flags : List Flag
  others : List Text
  deriving DecidableEq, Repr

namespace Arguments

/-- The options behind one dash. -/
def readLetters : Text → Except Refusal (List Flag)
  | [] => .ok []
  | c :: rest =>
    match Flag.letters.lookup c with
    | none => .error (.unknownOption ['-', c])
    | some flag => (readLetters rest).map (flag :: ·)

/-- The options in an argument that begins with a dash: one by its name, or any number by their
letters.  No option takes a value. -/
def readOption (argument : Text) : Except Refusal (List Flag) :=
  let name := argument.takeWhile (· != '=')
  match Flag.names.lookup name with
  | some flag => if '=' ∈ argument then .error (.needlessValue name) else .ok [flag]
  | none =>
    if ['-', '-'].isPrefixOf argument then .error (.unknownOption name)
    else readLetters (argument.drop 1)

/-- Sort the arguments.  Behind `--` there are no options; a dash by itself is none. -/
def read : List Text → Except Refusal Arguments
  | [] => .ok ⟨[], []⟩
  | argument :: rest =>
    if argument = ['-', '-'] then .ok ⟨[], rest⟩
    else if argument.head? = some '-' && argument ≠ ['-'] then
      (readOption argument).bind fun flags ↦
        (read rest).map fun a ↦ { a with flags := flags ++ a.flags }
    else (read rest).map fun a ↦ { a with others := argument :: a.others }

end Arguments

/-- Where the text comes from: what `read_source` opens. -/
inductive Source
  | standardInput
  | file (name : Text) (bytes : List UInt8)
  deriving DecidableEq, Repr

namespace Source

/-- The source that an argument names, or why it cannot be used.  A file whose path is shown as `-`
gives way to the standard input. -/
def ofArgument (resolve : Text → Option Node) (argument : Text) : Except Refusal Source :=
  if argument = ['-'] then .ok standardInput
  else match resolve argument with
    | none => .error (.missing argument)
    | some .directory => .error (.directory argument)
    | some (.file bytes) =>
      let name := Path.normalise argument
      .ok (if name = ['-'] then standardInput else file name bytes)

/-- The name that is shown for it. -/
def name : Source → Text
  | standardInput => "<stdin>".toList
  | file name _ => name

end Source

/-- What a call asks for. -/
inductive Request
  | help
  | version
  | refuse (r : Refusal)
  /-- Dump the tokens of a source. -/
  | dump (flags : List Flag) (source : Source)
  deriving DecidableEq, Repr

namespace Request

/-- What sorted arguments ask for. -/
def ofSorted (resolve : Text → Option Node) (a : Arguments) : Request :=
  match a.flags.find? fun flag ↦ flag = .help || flag = .version with
  | some .help => help
  | some _ => version
  | none =>
    match a.others with
    | [] => refuse .noInput
    | argument :: extra =>
      match Source.ofArgument resolve argument with
      | .error r => refuse r
      | .ok source => if extra = [] then dump a.flags source else refuse (.extra extra)

/-- What the arguments of a call ask for, where `resolve` tells what a path names. -/
def ofArguments (resolve : Text → Option Node) (arguments : List Text) : Request :=
  match Arguments.read arguments with
  | .error r => refuse r
  | .ok a => ofSorted resolve a

end Request

end LoxTokens
