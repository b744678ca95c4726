import LoxTokens.Findings

/-!
# The history of findings

What may happen over time to the findings on one source, as a list of steps, with what each of them
gives back.  Besides the findings, a history remembers the failure that was raised last, which may
be taken up among the findings like any other diagnostic.

A diagnostic is a value here: it is given with all its causes, and what is given back has all of
them.  So a history says what an `ErrorCollector` answers to those who only call its methods.  A
`Collector` gives the same answers, and works on lists that lie at places
(`LoxTokens.Findings.Collector`); the two are compared in `LoxTokens.Proofs.Collecting`.
-/

set_option autoImplicit false

namespace LoxTokens.Findings

/-- One thing that happens. -/
inductive Step
  /-- Take up a report. -/
  | report (line : Int) (message : Text)
  /-- Take up a diagnostic. -/
  | push (d : Diagnostic)
  /-- Scan a text and take up its reports. -/
  | scan (o : Options) (t : Text)
  /-- Make one failure of all that was found, if anything was. -/
  | raise
  /-- Look at the failure that was raised last. -/
  | raised
  /-- Take up the failure that was raised last. -/
  | pushRaised
  /-- Forget the diagnostics. -/
  | clear
  /-- Tell all that was found. -/
  | summary
  /-- Tell each diagnostic by itself. -/
  | texts

/-- What a step gives back. -/
inductive Answer
  | nothing
  | diagnostic (d : Diagnostic)
  | tokens (ts : List Token)
  | text (t : Text)
  | texts (ts : List Text)

/-- Findings and the failure that was raised last. -/
structure History where
  findings : Findings
  raised : Option Diagnostic := none

namespace History

/-- What a step does, and what it gives back. -/
def step (h : History) : Step → History × Answer
  | .report line message =>
    let d := Diagnostic.problem (h.findings.problem line message)
    ({ h with findings := h.findings.push d }, .diagnostic d)
  | .push d => ({ h with findings := h.findings.push d }, .diagnostic d)
  | .scan o t =>
    let s := Scan.ofText o t
    ({ h with findings := h.findings.addScan s }, .tokens s.tokens)
  | .raise =>
    match h.findings.failure? with
    | none => (h, .nothing)
    | some d => ({ h with raised := some d }, .diagnostic d)
  | .raised => (h, (h.raised.map .diagnostic).getD .nothing)
  | .pushRaised =>
    match h.raised with
    | none => (h, .nothing)
    | some d => ({ h with findings := h.findings.push d }, .diagnostic d)
  | .clear => ({ h with findings := h.findings.clear }, .nothing)
  | .summary => (h, .text h.findings.summary)
  | .texts => (h, .texts (h.findings.diagnostics.map Diagnostic.text))

/-- Each step with its answer and the history after it. -/
def run (h : History) : List Step → List (Answer × History)
  | [] => []
  | s :: steps =>
    let (h', answer) := h.step s
    (answer, h') :: h'.run steps

end History

end LoxTokens.Findings
