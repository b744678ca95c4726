import LoxTokens.Console
import LoxTokens.Diagnostic
import LoxTokens.Text.Quoted
import LoxTokens.Text.Utf8

/-!
# How the command ends

The command ends with one of four codes (`Exit`, the enumeration `ExitCode`).  Whatever goes wrong
on the way reaches one handler, `handle_cli_exception`, as an exception of some class.

* `Raised` — what can reach the handler: a diagnostic, a fault in the encoding of the input, or an
  exception of another class, known by its class and by what it was given.
* `Failure` — what the handler makes of it.  It asks for the class, in a fixed order
  (`Failure.ofRaised`), and so has four answers only.
* `Failure.exit` and `Failure.report` — the code that the command ends with, and what is written on
  the error stream.

The handler asks whether an exception is a `LexicalError`, which a bare note is not
(`Failure.exit_diagnostic_eq_iff`).
-/

set_option autoImplicit false

namespace LoxTokens

/-- The way the command ends. -/
inductive Exit
  | success
  /-- The text has faults. -/
  | lexicalError
  /-- The arguments or the input cannot be used. -/
  | invalidArguments
  /-- Something that was not foreseen. -/
  | internalError
  deriving DecidableEq, Repr

namespace Exit

def all : List Exit := [success, lexicalError, invalidArguments, internalError]

/-- The code that the command ends with. -/
def code : Exit → Nat
  | success => 0
  | lexicalError => 1
  | invalidArguments => 2
  | internalError => 3

/-- The name of the code. -/
def name : Exit → Text
  | success => "SUCCESS".toList
  | lexicalError => "LEXICAL_ERROR".toList
  | invalidArguments => "INVALID_ARGS".toList
  | internalError => "INTERNAL_ERROR".toList

end Exit

/-! ## What reaches the handler -/

/-- The classes of exceptions that are neither diagnostics nor faults in an encoding. -/
inductive Raised.Class
  | badParameter
  | usage
  | fileNotFound
  | permission
  | directory
  | system
  | runtime
  | value
  | key
  deriving DecidableEq, Repr

namespace Raised.Class

def all : List Class :=
  [badParameter, usage, fileNotFound, permission, directory, system, runtime, value, key]

/-- The name of a class. -/
def name : Class → Text
  | badParameter => "BadParameter".toList
  | usage => "UsageError".toList
  | fileNotFound => "FileNotFoundError".toList
  | permission => "PermissionError".toList
  | directory => "IsADirectoryError".toList
  | system => "OSError".toList
  | runtime => "RuntimeError".toList
  | value => "ValueError".toList
  | key => "KeyError".toList

/-- The class of a name. -/
def ofName? (name : Text) : Option Class := all.find? (·.name = name)

end Raised.Class

/-- What an exception was given when it was raised. -/
inductive Raised.Arguments
  | nothing
  | words (text : Text)
  /-- A call of the operating system failed: its number, the reason, and the file if there is
  one. -/
  | call (number : Int) (reason : Text) (file : Option Text)
  deriving DecidableEq, Repr

/-- What reaches the handler. -/
inductive Raised
  | diagnostic (d : Diagnostic)
  | undecodable (u : Utf8.Undecodable)
  | other (c : Raised.Class) (arguments : Raised.Arguments)

/-- The account that the operating system gives of a call that failed. -/
def Raised.callText (number : Int) (reason : Text) (file : Option Text) : Text :=
  let place := match file with
    | none => []
    | some name => ": ".toList ++ Quoted.encode name
  "[Errno ".toList ++ Decimal.ofInt number ++ "] ".toList ++ reason ++ place

/-- An exception as a text.  A key that is missing is quoted. -/
def Raised.Arguments.text (c : Raised.Class) : Raised.Arguments → Text
  | nothing => []
  | words text => if c = .key then Quoted.encode text else text
  | call number reason file => callText number reason file

/-! ## What the handler makes of it -/

/-- What the command can fail of. -/
inductive Failure
  /-- Something is wrong with the text. -/
  | diagnostic (d : Diagnostic)
  /-- The input cannot be had, for the reason given. -/
  | unusable (reason : Text)
  /-- The input is no text. -/
  | undecodable (u : Utf8.Undecodable)
  /-- Something that was not foreseen. -/
  | unexpected (reason : Text)

namespace Failure

/-- The failure of a call of the operating system.  By the numbers 1, 2 and 13 the exception is one
of a missing file or of a refused permission; any other is not foreseen. -/
def ofSystem (number : Int) (reason : Text) (file : Option Text) : Failure :=
  if number = 1 ∨ number = 2 ∨ number = 13 then unusable (Raised.callText number reason file)
  else unexpected (Raised.callText number reason file)

/-- What the handler makes of an exception. -/
def ofRaised : Raised → Failure
  | .diagnostic d => diagnostic d
  | .undecodable u => undecodable u
  | .other .system (.call number reason file) => ofSystem number reason file
  | .other c arguments =>
    if c = .badParameter ∨ c = .fileNotFound ∨ c = .permission then unusable (arguments.text c)
    else unexpected (arguments.text c)

/-- How the command ends.  A bare note says nothing of the text, so it is not foreseen. -/
def exit : Failure → Exit
  | diagnostic (.note _) => .internalError
  | diagnostic (.problem _) => .lexicalError
  | diagnostic (.failure _ _) => .lexicalError
  | unusable _ => .invalidArguments
  | undecodable _ => .invalidArguments
  | unexpected _ => .internalError

/-- What the user is told.  A diagnostic of the text speaks for itself. -/
def message : Failure → Text
  | diagnostic (.note text) => "Internal error: ".toList ++ text
  | diagnostic d => d.text
  | unusable reason => "Error: ".toList ++ reason
  | undecodable u => "Error: input is not valid UTF-8 (".toList ++ u.message ++ [')']
  | unexpected reason => "Internal error: ".toList ++ reason

/-- What is written on the error stream.  With `verbose`, what was not foreseen is followed by the
trace of its cause, and one line stands for a trace that is empty, as it always is here. -/
def report (verbose : Bool) (f : Failure) : Text :=
  echo f.message
    ++ if verbose && f.exit = .internalError then "NoneType: None\n".toList else []

/-- The command says that the text has faults just if a diagnostic is caught as such. -/
theorem exit_diagnostic_eq_iff (d : Diagnostic) :
    exit (.diagnostic d) = .lexicalError ↔ d.errorClass.IsA .lexical := by
  rcases d with text | ⟨f | hint, message, location, sourceLine⟩ | ⟨message, causes⟩
  · exact iff_of_false nofun (by rw [Diagnostic.errorClass]; decide)
  · exact iff_of_true rfl (.inr List.mem_cons_self)
  · exact iff_of_true rfl (.inl rfl)
  · exact iff_of_true rfl (.inr List.mem_cons_self)

end Failure

end LoxTokens
