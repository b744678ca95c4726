import LoxTokens.Findings

/-!
# A session of scans

A `Session` holds a source, the name of its file, the options, and the findings that the reports of
its scans go to: the public attributes of a `Scanner`, and its reporter.  All of them can be
exchanged between scans.  The findings know a source and a file of their own, and keep them when
those of the session are exchanged.

A scan starts afresh every time: its tokens are those of the source under the options
(`Session.current`), whatever was scanned before.  The tokens go to whoever asked for the scan; the
session only remembers them, as that holder left them, to say whether the next scan gives the same.

There is nothing in a session that a scan would have to set back.  A `Reader` has private fields as
well and works with them, and holds the same as a session after any history (`Reader.exists_after`).
-/

set_option autoImplicit false

namespace LoxTokens

/-- The name of an option. -/
inductive Options.Name
  | blockComments
  | exponentOperator
  deriving DecidableEq, Repr

/-- The options with one of them set. -/
def Options.set (o : Options) (name : Options.Name) (value : Bool) : Options :=
  match name with
  | .blockComments => { o with blockComments := value }
  | .exponentOperator => { o with exponentOperator := value }

/-- A source, the way it is to be scanned, and where its reports go: a `Scanner` as it is seen from
outside. -/
structure Session where
  source : Text
  file : Text
  options : Options
  findings : Findings
  /-- The tokens that the last scan handed out, as their holder left them. -/
  handed : List Token := []

namespace Session

/-- A session with nothing found yet on its source. -/
def ofSource (source file : Text) (o : Options) : Session where
  source := source
  file := file
  options := o
  findings := .ofSource source file

/-- The scan of the source as it is now. -/
def current (s : Session) : Scan := .ofText s.options s.source

/-- Scan the source. -/
def scan (s : Session) : Session :=
  { s with findings := s.findings.addScan s.current, handed := s.current.tokens }

/-- The log of a scan of the source. -/
def log (s : Session) : List Text := s.current.log s.file s.source

end Session

end LoxTokens
