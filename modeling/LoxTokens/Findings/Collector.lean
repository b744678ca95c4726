import LoxTokens.Findings.Archive
import LoxTokens.Findings.History

/-!
# A collector that is asked

A `Findings.History` says in values what an `ErrorCollector` answers when it is reported to, added
to, scanned into, raised, cleared and told.  A `Collector` answers the same requests, but it works
on an `Archive`, as the program does: the failure that it has raised last is known by its place, and
taken up by its place when it is added again.

* `Archive.enter` — a diagnostic that is given as a value comes to lie at a new place, behind its
  causes, by steps of the archive.
* `Collector.step` — what a request does, and what it gives back.

That both answer alike is proved in `LoxTokens.Proofs.Collecting`.
-/

set_option autoImplicit false

namespace LoxTokens

namespace Archive

mutual

/-- Put a diagnostic at a new place, with all its causes at new places before it. -/
def enter (a : Archive) : Diagnostic → Archive × Nat
  | .note text => (a.step (.note text), a.entries.length)
  | .problem p => (a.step (.problem p), a.entries.length)
  | .failure message causes =>
    let (b, places) := a.enterAll causes
    (b.step (.failure message (.fresh places)), b.entries.length)

/-- Put diagnostics at new places, one after the other. -/
def enterAll (a : Archive) : List Diagnostic → Archive × List Nat
  | [] => (a, [])
  | d :: ds =>
    let (b, i) := a.enter d
    let (c, is) := b.enterAll ds
    (c, i :: is)

end

end Archive

/-- An archive, and the place of the failure that was raised last. -/
structure Collector where
  archive : Archive
  raised : Option Nat := none

namespace Collector

/-- Nothing found yet. -/
def ofSource (source : Option Text) (file : Text) : Collector where
  archive := .ofSource source file

/-- The diagnostic at a place, as it is now. -/
def answerAt (c : Collector) (i : Nat) : Findings.Answer :=
  (c.archive.contents[i]?.map .diagnostic).getD .nothing

/-- Take up the diagnostic at a place. -/
def add (c : Collector) (i : Nat) : Collector := { c with archive := c.archive.step (.add i) }

/-- What a request does, and what it gives back. -/
def step (c : Collector) : Findings.Step → Collector × Findings.Answer
  | .report line message =>
    let c' := { c with archive := c.archive.step (.report line message) }
    (c', c'.answerAt c.archive.entries.length)
  | .push d =>
    let (a, i) := c.archive.enter d
    let c' := { c with archive := a }.add i
    (c', c'.answerAt i)
  | .scan o t =>
    ({ c with archive := c.archive.step (.scan o t) }, .tokens (Scan.ofText o t).tokens)
  | .raise =>
    match c.archive.raise? with
    | none => (c, .nothing)
    | some (a, i) => (⟨a, some i⟩, answerAt ⟨a, some i⟩ i)
  | .raised => (c, (c.raised.map c.answerAt).getD .nothing)
  | .pushRaised =>
    match c.raised with
    | none => (c, .nothing)
    | some i => (c.add i, (c.add i).answerAt i)
  | .clear => ({ c with archive := c.archive.step .clear }, .nothing)
  | .summary => (c, .text c.archive.summary)
  | .texts => (c, .texts c.archive.texts)

/-- Each request with its answer and the collector after it. -/
def run (c : Collector) : List Findings.Step → List (Findings.Answer × Collector)
  | [] => []
  | x :: xs => ((c.step x).2, (c.step x).1) :: (c.step x).1.run xs

end Collector

end LoxTokens
