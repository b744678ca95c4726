import LoxTokens.Command.Run

/-!
# What the package offers

The names that can be imported from the package, `__all__`, in alphabetical order.  What stands for
them here:

* `Token` and `TokenType` — `LoxTokens.Token` and `LoxTokens.Kind`;
* `Scanner`, `ScannerOptions` and `scan_tokens` — `LoxTokens.Reader`, `LoxTokens.Options` and
  `LoxTokens.Scan.ofText`;
* `ErrorReporter`, `ErrorCollector` and `ConsoleReporter` — `LoxTokens.Sink`,
  `LoxTokens.Archive`, whose values are `LoxTokens.Findings`, and `LoxTokens.Console`;
* `SourceLocation` and the errors — `LoxTokens.Location` and `LoxTokens.Diagnostic`, whose classes
  are `LoxTokens.ErrorClass`;
* `__version__` — `LoxTokens.versionNumber`.
-/

set_option autoImplicit false

namespace LoxTokens

/-- The names that the package exports. -/
def exports : List Text :=
  ["ConsoleReporter".toList, "ErrorCollector".toList, "ErrorReporter".toList,
   ErrorClass.lexical.name, ErrorClass.lox.name, ErrorClass.scanFailed.name, "Scanner".toList,
   "ScannerOptions".toList, "SourceLocation".toList, "Token".toList, "TokenType".toList,
   (ErrorClass.fault .unexpectedCharacter).name, (ErrorClass.fault .unterminatedComment).name,
   (ErrorClass.fault .unterminatedString).name, "__version__".toList, "scan_tokens".toList]

/-- All errors can be imported. -/
theorem name_mem_exports (c : ErrorClass) : c.name ∈ exports := by
  cases c with
  | fault f => cases f <;> decide
  | _ => decide

end LoxTokens
