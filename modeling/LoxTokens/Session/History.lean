import LoxTokens.Session

/-!
# The history of a session

What may happen in one session over time, as a list of steps, and what each step gives back: a scan,
an assignment to an attribute of the `Scanner`, another reporter, a call of `clear` or of
`format_report` on the reporter, and the loss of the tokens that were handed out last.

The last of these is a step because the tokens are a list that others hold.  It is seen in no scan
that comes after it, but only in the answer whether a scan gives the same tokens as the one before.
-/

set_option autoImplicit false

namespace LoxTokens.Session

/-- One thing that happens in a session. -/
inductive Step
  /-- Scan the source. -/
  | scan
  /-- Empty the list of tokens that the last scan handed out. -/
  | spoil
  /-- Exchange the source. -/
  | setSource (t : Text)
  /-- Exchange the name of the file. -/
  | setFile (file : Text)
  /-- Set an option. -/
  | setOption (name : Options.Name) (value : Bool)
  /-- Start new findings in the place of the old ones. -/
  | renewFindings (source : Option Text) (file : Text)
  /-- Forget the diagnostics. -/
  | clear
  /-- Tell all that was found. -/
  | summary
  deriving DecidableEq, Repr

/-- What a step gives back. -/
inductive Answer
  | nothing
  /-- The tokens of a scan, its log, and whether the tokens are those handed out last. -/
  | scanned (tokens : List Token) (log : List Text) (same : Bool)
  | text (t : Text)
  deriving DecidableEq, Repr

/-- What a step does, and what it gives back. -/
def step (s : Session) : Step → Session × Answer
  | .scan => (s.scan, .scanned s.current.tokens s.log (s.current.tokens = s.handed))
  | .spoil => ({ s with handed := [] }, .nothing)
  | .setSource t => ({ s with source := t }, .nothing)
  | .setFile file => ({ s with file := file }, .nothing)
  | .setOption name value => ({ s with options := s.options.set name value }, .nothing)
  | .renewFindings source file => ({ s with findings := .ofSource source file }, .nothing)
  | .clear => ({ s with findings := s.findings.clear }, .nothing)
  | .summary => (s, .text s.findings.summary)

/-- Each step with its answer and the session after it. -/
def run (s : Session) : List Step → List (Answer × Session)
  | [] => []
  | x :: steps =>
    let (s', answer) := s.step x
    (answer, s') :: s'.run steps

end LoxTokens.Session
