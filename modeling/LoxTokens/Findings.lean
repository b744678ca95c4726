import LoxTokens.Diagnostic
import LoxTokens.Scan

/-!
# Findings on a source

The `Findings` on a source are the diagnostics that were gathered for it, in the order in which they
came.  This is what an `ErrorCollector` is, as long as nobody holds one of its lists.  They know the
name of the file and, if they were given the text, its lines, from which they quote.

* `Findings.problem` — what a report becomes.  It is known by its message alone: the message of a
  `Fault` makes it that fault, any other message something else.
* `Findings.report`, `push`, `addScan`, `clear` — `report`, `add`, a scan into the collector, and
  `clear`.
* `Findings.sourceLine?` — the line that is quoted (`_source_line`).  The number may be any integer,
  and one that the text does not have is no reason to fail.
* `Findings.summary` — all that was found, as `format_report` tells it.
* `Findings.failure?` — one diagnostic for all of it, if `raise_if_errors` has anything to raise.

Neither of the last two changes the findings.  What becomes of findings when lists of errors are
handed around, by reference, is another matter: see `LoxTokens.Findings.Archive`.
-/

set_option autoImplicit false

namespace LoxTokens

/-- The diagnostics gathered for a source (`ErrorCollector`). -/
structure Findings where
  file : Text
  /-- The lines of the text, if it is known. -/
  source : Option (List Text)
  diagnostics : List Diagnostic := []

namespace Findings

/-- Nothing found yet. -/
def ofSource (source : Option Text) (file : Text) : Findings where
  file := file
  source := source.map Text.lines

/-- How many diagnostics there are. -/
def size (f : Findings) : Nat := f.diagnostics.length

/-- There are none. -/
def isEmpty (f : Findings) : Bool := f.diagnostics.isEmpty

/-- The source line of a number, if the text is known and has one (`_source_line`). -/
def sourceLine? (f : Findings) (line : Int) : Option Text :=
  f.source.bind fun ls ↦ Text.quotedLine? ls line

/-- What a report at a line becomes: an error of the class that `ERROR_KINDS` has for the message,
and a plain `LexicalError` without a hint for any other. -/
def problem (f : Findings) (line : Int) (message : Text) : Problem where
  nature := match Fault.ofMessage? message with
    | some fault => .fault fault
    | none => .other none
  message := message
  location := some ⟨f.file, line⟩
  sourceLine := f.sourceLine? line

/-- Take up a diagnostic. -/
def push (f : Findings) (d : Diagnostic) : Findings :=
  { f with diagnostics := f.diagnostics ++ [d] }

/-- Take up a report. -/
def report (f : Findings) (line : Int) (message : Text) : Findings :=
  f.push (.problem (f.problem line message))

/-- Take up all reports of a scan. -/
def addScan (f : Findings) (s : Scan) : Findings :=
  { f with diagnostics :=
      f.diagnostics ++ s.reports.map fun r ↦ .problem (f.problem r.line r.fault.message) }

/-- Forget the diagnostics. -/
def clear (f : Findings) : Findings := { f with diagnostics := [] }

/-- All diagnostics with a blank line behind each, and their number (`format_report`). -/
def summary (f : Findings) : Text :=
  (f.diagnostics.flatMap fun d ↦ d.text ++ ['\n', '\n'])
    ++ Decimal.ofNat f.size ++ (if f.size = 1 then " error" else " errors").toList

/-- One failure for all that was found, if anything was: what `raise_if_errors` raises. -/
def failure? (f : Findings) : Option Diagnostic :=
  if f.isEmpty then none else some (.failure f.summary f.diagnostics)

/-- Nothing is quoted if the text is not known, or has no such line. -/
theorem sourceLine?_eq_none_iff {f : Findings} {n : Int} :
    f.sourceLine? n = none ↔ ∀ ls, f.source = some ls → n < 1 ∨ ls.length < n := by
  rw [sourceLine?, Option.bind_eq_none_iff]
  exact ⟨fun h ls hls ↦ Text.quotedLine?_eq_none_iff.1 (h ls hls),
    fun h ls hls ↦ Text.quotedLine?_eq_none_iff.2 (h ls hls)⟩

theorem sourceLine?_succ {f : Findings} {ls : List Text} (h : f.source = some ls) (i : Nat) :
    f.sourceLine? (i + 1) = ls[i]?.map (Text.dropTrailing (· = '\r')) := by
  rw [sourceLine?, h, Option.bind_some, Text.quotedLine?_succ]

/-- The message of a fault makes it that fault. -/
theorem problem_message (f : Findings) (line : Int) (fault : Fault) :
    f.problem line fault.message =
      ⟨.fault fault, fault.message, some ⟨f.file, line⟩, f.sourceLine? line⟩ := by
  rw [problem, Fault.ofMessage?_message]

/-- To take up a scan is to take up its reports one after the other. -/
theorem addScan_eq_foldl (f : Findings) (s : Scan) :
    f.addScan s = s.reports.foldl (fun f r ↦ f.report r.line r.fault.message) f := by
  obtain ⟨tokens, reports⟩ := s
  induction reports generalizing f with
  | nil => simp [addScan]
  | cons r rs ih =>
    rw [List.foldl_cons, ← ih]
    simp [addScan, report, push, problem, sourceLine?]

end Findings

end LoxTokens
