import LoxTokens.Findings
import LoxTokens.Command.Arguments
import LoxTokens.Command.Failure
import LoxTokens.Options.Environment
import LoxTokens.Token.Json
import LoxTokens.Token.Plain

/-!
# Running the command

`Request.outcome` is all that a call does: how it ends and what it writes on its two streams.  It
depends on nothing but the request, the environment and the bytes of the standard input.

* `Request.options` — the options of the environment, less those that a flag switches off.
* `Request.scanOutcome` — the part of `main` behind `read_source`: the text is scanned, the tokens
  are written as lines or as JSON, and `raise_if_errors` decides how the call ends.
* `Request.dumpOutcome` — the same from the bytes of the source on.
* `Request.outcome` — a whole call.

The tokens go to the output and the diagnostics to the error stream, so that the output is the same
whether or not there are faults.  Input that is no text has no tokens at all: it is refused before
anything is scanned, and the options are not logged either.

The scan is `Scan.ofText`, and the diagnostics are `Findings`; that a `Reader`, which works as the
program does, gives the same is part of what is proved of calls (`LoxTokens.Proofs.Calls`).
-/

set_option autoImplicit false

namespace LoxTokens

/-- How a call ends and what it writes. -/
structure Outcome where
  exit : Exit
  output : Text
  error : Text
  deriving DecidableEq, Repr

/-- What `--help` shows. -/
def helpText : Text :=
  ['\n'].intercalate (List.map String.toList
    ["Usage: loxscan [OPTIONS] INPUT_FILE",
     "",
     "  Print the tokens of a Lox source file.",
     "",
     "  INPUT_FILE is the Lox source file to scan, or - for stdin.",
     "",
     "  Lexical errors are printed to stderr after the tokens, and the exit status is",
     "  1 when any were found.",
     "",
     "  Examples:",
     "      loxscan script.lox           # One token per line",
     "      loxscan --json script.lox    # JSON array of tokens",
     "      cat script.lox | loxscan -   # Read from stdin",
     "",
     "Options:",
     "  --json               Print tokens as a JSON array",
     "  --no-block-comments  Treat /* like // (skip to end of line only)",
     "  --no-exponent        Scan ** as two STAR tokens",
     "  -v, --verbose        Verbose output",
     "  --version            Show the version and exit.",
     "  --help               Show this message and exit.",
     ""])

/-- The version of the program. -/
def versionNumber : Text := "1.0.0".toList

/-- What `--version` shows. -/
def versionText : Text := "loxscan, version ".toList ++ versionNumber ++ ['\n']

namespace Request

/-- The options of a scan: those of the environment, less those that are switched off. -/
def options (flags : List Flag) (env : Environment) : Options :=
  let o := Options.ofEnvironment env
  { blockComments := o.blockComments && !flags.contains .noBlockComments
    exponentOperator := o.exponentOperator && !flags.contains .noExponent }

/-- The lines of a log as they are written, if they are asked for. -/
def logged (flags : List Flag) (lines : List Text) : Text :=
  if flags.contains .verbose then lines.flatMap fun line ↦ "DEBUG: ".toList ++ line ++ ['\n']
  else []

/-- The tokens as they are written: as one array, or each on a line of its own. -/
def tokenText (flags : List Flag) (tokens : List Token) : Text :=
  if flags.contains .json then echo (Token.jsonArray tokens)
  else tokens.flatMap fun token ↦ echo token.plain

/-- The outcome for a text that was read, of the given name.  What the user is told of the faults is
the summary of the `ErrorCollector`; it goes to the error stream after the tokens are out. -/
def scanOutcome (flags : List Flag) (env : Environment) (name text : Text) : Outcome :=
  let o := options flags env
  let scan := Scan.ofText o text
  let log := logged flags
    (Options.environmentLog env ++ ["options: ".toList ++ o.text] ++ scan.log name text)
  let output := tokenText flags scan.tokens
  match ((Findings.ofSource text name).addScan scan).failure? with
  | none => ⟨.success, output, log⟩
  | some d =>
    let failure := Failure.diagnostic d
    ⟨failure.exit, output, log ++ failure.report (flags.contains .verbose)⟩

/-- The outcome for the bytes of a source of the given name. -/
def dumpOutcome (flags : List Flag) (env : Environment) (name : Text) (bytes : List UInt8) :
    Outcome :=
  match Utf8.decode bytes with
  | .ok text => scanOutcome flags env name (Text.unifyBreaks text)
  | .error u =>
    let failure := Failure.undecodable u
    ⟨failure.exit, [], logged flags (Options.environmentLog env)
      ++ failure.report (flags.contains .verbose)⟩

/-- The outcome of a request, given the environment and the bytes of the standard input (`main`). -/
def outcome (env : Environment) (input : List UInt8) : Request → Outcome
  | help => ⟨.success, helpText, []⟩
  | version => ⟨.success, versionText, []⟩
  | refuse r => ⟨.invalidArguments, [], r.report⟩
  | dump flags source =>
    dumpOutcome flags env source.name (match source with
      | .standardInput => input
      | .file _ bytes => bytes)

end Request

end LoxTokens
