import LoxTokens.Console
import LoxTokens.Cursor
import LoxTokens.Findings

/-!
# Scanning with any sink for the reports

The reports of a scan may go anywhere.  The program asks of an `ErrorReporter` only that it can be
called with a line and a message; it gives nothing back and must not interrupt the scan.  A `Sink`
is just that, and what it holds is its own affair.  Findings are a sink (`Findings.report`), and so
is a console together with all that is written on it (`Console.tell`).

* `Reporting` — a scan on its way: the cursor, what the sink holds by now, the count of the reports
  (`_error_count`) and the log.
* `Reporting.handOn` — `Scanner._error`: a report is counted, noted in the log and handed on.
* `Reporting.turn` — a turn of the cursor, and the reports that it has found, at once.
* `Reporting.scan` — `scan_tokens` as a whole: what an earlier scan has left is set back, the loop
  is run, and the tokens are handed over.

This is the only loop that hands reports on; a `Reader` scans by it, with its findings for a sink.
What comes of a scan is one equation for all sinks (`Reporting.exists_scan_eq`).
-/

set_option autoImplicit false

namespace LoxTokens

/-- What is done with a report, by something whose state is of type `σ` (`ErrorReporter`). -/
abbrev Sink (σ : Type) := σ → Int → Text → σ

/-- Tell a report on a console, behind what is written there. -/
def Console.tell : Sink (Console × Text) := fun c line message ↦
  ((c.1.report line message).1, c.2 ++ (c.1.report line message).2)

/-- A scan on its way. -/
structure Reporting (σ : Type) where
  /-- What the sink holds. -/
  held : σ
  /-- The two positions and their lines, and what was found so far. -/
  cursor : Cursor := {}
  /-- How many reports there were. -/
  reportCount : Nat := 0
  log : List Text := []

namespace Reporting

variable {σ : Type}

/-- Write a line to the log. -/
def note (s : Reporting σ) (line : Text) : Reporting σ := { s with log := s.log ++ [line] }

variable (sink : Sink σ) (o : Options) (file t : Text)

/-- Count a report, note it and hand it on (`_error`). -/
def handOn (s : Reporting σ) (r : Report) : Reporting σ :=
  { s.note (Scan.reportLine file r) with
    reportCount := s.reportCount + 1
    held := sink s.held r.line r.fault.message }

/-- One turn of the cursor.  What it has found is handed on at once. -/
def turn (s : Reporting σ) : Option (Reporting σ) :=
  (s.cursor.step o t).map fun w ↦
    (w.reports.drop s.cursor.reports.length).foldl (handOn sink file) { s with cursor := w }

variable {sink o file t}

/-- To hand reports on leaves the cursor where it is, and takes up the rest. -/
theorem foldl_handOn (s : Reporting σ) (rs : List Report) :
    rs.foldl (handOn sink file) s = { s with
      held := rs.foldl (fun held r ↦ sink held r.line r.fault.message) s.held
      reportCount := s.reportCount + rs.length
      log := s.log ++ rs.map (Scan.reportLine file) } := by
  induction rs generalizing s with
  | nil => simp
  | cons r rs ih =>
    rw [List.foldl_cons, ih]
    simp [handOn, note, Nat.add_right_comm, Nat.add_assoc]

/-- Every turn brings the end nearer. -/
theorem remaining_turn {s s' : Reporting σ} (hs : s.cursor.mode ≠ .finished)
    (h : s.turn sink o file t = some s') : s'.cursor.remaining t < s.cursor.remaining t := by
  obtain ⟨w, hw, rfl⟩ := Option.map_eq_some_iff.1 h
  have hlt : w.remaining t < s.cursor.remaining t := Cursor.remaining_step hs hw
  rwa [foldl_handOn]

variable (sink o file t)

/-- All turns that are left. -/
def run (s : Reporting σ) : Option (Reporting σ) :=
  if _ : s.cursor.mode = .finished then some s
  else
    match _ : s.turn sink o file t with
    | none => none
    | some s' => s'.run
termination_by s.cursor.remaining t
decreasing_by exact remaining_turn ‹_› ‹_›

/-- A scan begins: what an earlier one has left is set back. -/
def start (s : Reporting σ) : Reporting σ :=
  { s.note (Scan.openingLine file t) with cursor := {}, reportCount := 0 }

/-- A scan is over, and its tokens are handed over. -/
def finish (s : Reporting σ) : Reporting σ × List Token :=
  (s.note (Scan.closingLine file s.cursor.tokens.length s.reportCount), s.cursor.tokens)

/-- Scan the text, whatever was scanned before. -/
def scan (s : Reporting σ) : Option (Reporting σ × List Token) :=
  ((s.start file t).run sink o file t).map (finish file)

end Reporting

end LoxTokens
