import LoxTokens.Reporting
import LoxTokens.Session.History

/-!
# A reader and the fields it works with

A `Session` says what a scan of its source gives.  A `Reader` brings this about, as a `Scanner`
does: it has a source, the name of its file and options, which may be assigned at any time, a
reporter, and private fields that stay as they are when a scan is over.

* `Reader.scan` — `scan_tokens`.  The loop itself is that of a `Reporting` whose sink is the
  findings (`Reader.reporting`); it has no second copy here.  Around it the reader exchanges the
  list that its tokens go to.
* `Reader.step` — one thing that happens in the history of a reader, from a scan to the loss of
  the tokens that an earlier one has handed over.

The private fields `_start`, `_current`, `_line` and `_start_line` are those of `Reader.cursor`, and
`_error_count` is `Reader.reportCount`.  A list of tokens can be known to others, who may change it.
Therefore all lists that there are lie in `Reader.lists`, and the reader knows the place of the one
that it writes to: this is `_tokens` (`Reader.own`).  It begins every scan with a new list, and with
another one when it has handed this over.  The reporters that were replaced are kept as well
(`Reader.former`), so that it can be said that nothing happens to them.
-/

set_option autoImplicit false

namespace LoxTokens

/-- A source, the way it is to be scanned, where the reports go, and what a scan works with: a
`Scanner` with an `ErrorCollector` for its reporter. -/
structure Reader where
  source : Text
  file : Text
  options : Options
  /-- Where the reports go. -/
  findings : Findings
  /-- Where the reports went earlier. -/
  former : List Findings := []
  /-- The lists of tokens that there are, as they were left. -/
  lists : List (List Token) := [[]]
  /-- The place of the list that tokens are written to. -/
  own : Nat := 0
  /-- The two positions and their lines. -/
  cursor : Cursor := {}
  /-- How many reports there were. -/
  reportCount : Nat := 0
  log : List Text := []

namespace Reader

/-- A reader that has not scanned yet. -/
def ofSource (source file : Text) (o : Options) : Reader where
  source := source
  file := file
  options := o
  findings := .ofSource source file

/-! ## A scan -/

/-- Write tokens to a new list from now on. -/
def renewList (s : Reader) : Reader :=
  { s with lists := s.lists ++ [[]], own := s.lists.length }

/-- Write tokens behind those that are in the list. -/
def write (s : Reader) (ts : List Token) : Reader :=
  { s with lists := s.lists.modify s.own (· ++ ts) }

/-- The scan that the reader is in, as far as it has come. -/
def reporting (s : Reader) : Reporting Findings :=
  ⟨s.findings, s.cursor, s.reportCount, s.log⟩

/-- Take over what a scan has left.  Its tokens are no part of the cursor any more. -/
def takeOver (s : Reader) (r : Reporting Findings) : Reader :=
  { s with
    findings := r.held
    cursor := { r.cursor with tokens := [], reports := [] }
    reportCount := r.reportCount
    log := r.log }

/-- Scan the source into a new list.  Nobody else knows this list before the scan is over.  Then it
is handed over by its place, and another one is taken in its stead. -/
def scan (s : Reader) : Option (Reader × Nat) :=
  (s.reporting.scan Findings.report s.options s.file s.source).map fun (r, ts) ↦
    (((s.renewList.takeOver r).write ts).renewList, s.renewList.own)

/-! ## The history of a reader -/

/-- One thing that happens to a reader. -/
inductive Step
  /-- Scan the source (`scan_tokens`). -/
  | scan
  /-- Exchange the source. -/
  | setSource (t : Text)
  /-- Exchange the name of the file. -/
  | setFile (file : Text)
  /-- Set an option. -/
  | setOption (name : Options.Name) (value : Bool)
  /-- Have the reports go to new findings. -/
  | renewFindings (source : Option Text) (file : Text)
  /-- Forget the diagnostics. -/
  | clear
  /-- Empty the list of tokens at the place. -/
  | empty (list : Nat)
  deriving DecidableEq, Repr

/-- What a step does. -/
def step (s : Reader) : Step → Option Reader
  | .scan => s.scan.map Prod.fst
  | .setSource t => some { s with source := t }
  | .setFile file => some { s with file := file }
  | .setOption name value => some { s with options := s.options.set name value }
  | .renewFindings source file =>
    some { s with findings := .ofSource source file, former := s.former ++ [s.findings] }
  | .clear => some { s with findings := s.findings.clear }
  | .empty list => some { s with lists := s.lists.set list [] }

/-- What the steps do, one after the other. -/
def after (s : Reader) (steps : List Step) : Option Reader := steps.foldlM step s

end Reader

end LoxTokens
