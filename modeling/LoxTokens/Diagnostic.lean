import LoxTokens.Fault
import LoxTokens.Text.Decimal

/-!
# Diagnostics

What can be told to a user about a text that was scanned.  The program raises and collects errors of
a few classes; here they are values.

* `Location` — a file and a line (`SourceLocation`).
* `Problem` — one thing that is wrong, with the place and the source line where these are known: a
  `LexicalError` that is no aggregate.  It is either one of the `Fault`s, whose class fixes the
  hint, or something else with a hint of its own.
* `Diagnostic` — a bare note (`LoxError`), a problem, or a failure (`ScanFailedError`): the sum of
  several diagnostics under one message.
* `Problem.lines` — the layout of `_format_message`: place and message, the source line, the hint.
* `ErrorClass` — the class of a diagnostic, by which it is caught.

`Diagnostic.text` is what the user reads.  It never changes, because a diagnostic never does: the
program fixes it when the error is built.
-/

set_option autoImplicit false

namespace LoxTokens

/-- A place in a source: a file and a line (`SourceLocation`).  The line may be any integer. -/
structure Location where
  file : Text
  line : Int
  deriving DecidableEq, Repr

/-- A place as `file:line`. -/
def Location.text (l : Location) : Text := l.file ++ ':' :: Decimal.ofInt l.line

/-- What sort of thing is wrong.  A fault has a class of its own, which brings its hint with it;
anything else is a plain `LexicalError`, to which a hint may be given. -/
inductive Nature
  | fault (f : Fault)
  | other (hint : Option Text)
  deriving DecidableEq, Repr

/-- The remedy that goes with it. -/
def Nature.hint : Nature → Option Text
  | fault f => f.hint
  | other hint => hint

/-- One thing that is wrong: a `LexicalError` that is no `ScanFailedError`. -/
structure Problem where
  nature : Nature
  message : Text
  location : Option Location := none
  sourceLine : Option Text := none
  deriving DecidableEq, Repr

namespace Problem

/-- How the problem can be mended. -/
def hint (p : Problem) : Option Text := p.nature.hint

/-- The lines in which a problem is told (`_format_message`): place and message, the source line
behind four spaces if it is known, and the hint if there is one with any text. -/
def lines (p : Problem) : List Text :=
  let place := match p.location with
    | none => []
    | some l => l.text ++ ": ".toList
  let source := match p.sourceLine with
    | none => []
    | some line => ["    ".toList ++ line]
  let remedy := match p.hint with
    | none | some [] => []
    | some hint => ["hint: ".toList ++ hint]
  [place ++ "error: ".toList ++ p.message] ++ source ++ remedy

/-- The lines as one text. -/
def text (p : Problem) : Text := ['\n'].intercalate p.lines

end Problem

/-- What a user can be told. -/
inductive Diagnostic
  | note (text : Text)
  | problem (p : Problem)
  | failure (message : Text) (causes : List Diagnostic)

/-- What the user reads.  The message of a failure is already a whole report. -/
def Diagnostic.text : Diagnostic → Text
  | note text => text
  | problem p => p.text
  | failure message _ => message

/-! ## Classes -/

/-- The classes of errors, which are known by their names to those who catch them. -/
inductive ErrorClass
  | lox
  | lexical
  | fault (f : Fault)
  | scanFailed
  deriving DecidableEq, Repr

namespace ErrorClass

def all : List ErrorClass := [lox, lexical] ++ Fault.all.map fault ++ [scanFailed]

/-- The name of a class. -/
def name : ErrorClass → Text
  | lox => "LoxError".toList
  | lexical => "LexicalError".toList
  | fault .unexpectedCharacter => "UnexpectedCharacterError".toList
  | fault .unterminatedString => "UnterminatedStringError".toList
  | fault .unterminatedComment => "UnterminatedCommentError".toList
  | scanFailed => "ScanFailedError".toList

/-- The class of a name. -/
def ofName? (name : Text) : Option ErrorClass := all.find? (·.name = name)

/-- The classes above a class, the nearest one first. -/
def above : ErrorClass → List ErrorClass
  | lox => []
  | lexical => [lox]
  | fault _ => [lexical, lox]
  | scanFailed => [lexical, lox]

/-- The names of the classes above a class, up to that of all exceptions. -/
def baseNames (c : ErrorClass) : List Text := c.above.map name ++ ["Exception".toList]

/-- Whoever catches `d` catches `c`. -/
def IsA (c d : ErrorClass) : Prop := c = d ∨ d ∈ c.above

instance (c d : ErrorClass) : Decidable (c.IsA d) := inferInstanceAs (Decidable (_ ∨ _))

/-- The names tell the classes apart. -/
theorem ofName?_name (c : ErrorClass) : ofName? c.name = some c := by
  cases c with
  | fault f => cases f <;> decide
  | _ => decide

end ErrorClass

/-- The class of a diagnostic. -/
def Diagnostic.errorClass : Diagnostic → ErrorClass
  | note _ => .lox
  | problem ⟨.fault f, _, _, _⟩ => .fault f
  | problem ⟨.other _, _, _, _⟩ => .lexical
  | failure _ _ => .scanFailed

end LoxTokens
