import LoxTokens.Text.Basic

/-!
# Faults

The three things that can be wrong with a Lox text, as far as its lexemes go.  A letter or a digit
is among the first of them: this stage of Lox has no rule for names and numbers.

Each fault has a message, by which it is known to those it is reported to: nothing but the line and
the message goes to a reporter, and `Fault.ofMessage?` is how an `ErrorCollector` finds the class of
the error again (`ERROR_KINDS`).  Two faults come with a hint at the remedy, which is fixed by the
class of the error and not by the report.

A `Report` is a fault at a line, as it is handed to `Scanner._error`.  The line is that of the
character, of the opening of a comment, or of the end of the text for a string, as
`LoxTokens.Lexeme` has it.
-/

set_option autoImplicit false

namespace LoxTokens

/-- What is wrong at some place of a text.  There is one class of errors for each, from
`UnexpectedCharacterError` to `UnterminatedCommentError`. -/
inductive Fault
  /-- A character that begins no lexeme. -/
  | unexpectedCharacter
  /-- A string without its closing quote. -/
  | unterminatedString
  /-- A comment without its closing `*/`. -/
  | unterminatedComment
  deriving DecidableEq, Repr

namespace Fault

def all : List Fault := [unexpectedCharacter, unterminatedString, unterminatedComment]

/-- The message of a fault. -/
def message : Fault → Text
  | unexpectedCharacter => "Unexpected Character.".toList
  | unterminatedString => "Unterminated string.".toList
  | unterminatedComment => "Unterminated block comment.".toList

/-- How a fault can be mended. -/
def hint : Fault → Option Text
  | unexpectedCharacter => none
  | unterminatedString => some "add a closing '\"' to complete the string".toList
  | unterminatedComment => some "add closing */ to terminate the comment".toList

/-- The fault that a message stands for (`ERROR_KINDS`).  Messages are compared as they are, so that
one that differs in a single character stands for none. -/
def ofMessage? (message : Text) : Option Fault := all.find? (·.message = message)

/-- A message tells its fault. -/
theorem ofMessage?_message (f : Fault) : ofMessage? f.message = some f := by cases f <;> rfl

theorem message_inj {f g : Fault} : f.message = g.message ↔ f = g := by
  refine ⟨fun h ↦ ?_, fun h ↦ h ▸ rfl⟩
  have hofMessage := congrArg ofMessage? h
  rwa [ofMessage?_message, ofMessage?_message, Option.some.injEq] at hofMessage

end Fault

/-- A fault and the line it is reported at: the two arguments of `Scanner._error`. -/
structure Report where
  line : Nat
  fault : Fault
  deriving DecidableEq, Repr

end LoxTokens
