import LoxTokens.Findings

/-!
# Findings by their places

`Findings` are values: whoever holds a diagnostic holds all of it, for good.  The program hands
references around.  An `ErrorCollector` keeps one list, `errors`, appends to it and clears it where
it lies; a `ScanFailedError` keeps the very list that it is given, and only replaces one with
nothing in it; an error may be added twice, or be among the causes of an error that is added to the
collector it came from.  So a later step might spoil what an earlier one has left, and in values
this cannot even be said.

In an `Archive` every diagnostic lies at a place, and so does every list of diagnostics.

* `Entry` — a diagnostic at its place.  A failure knows the place of the list of its causes, not
  the causes.
* `Archive` — all entries, all lists, and the place of the list that is filled (`Archive.own`).
  `Archive.held` is what is in this list by now.
* `Archive.report`, `add`, `addScan`, `clear`, `summary`, `raise?` — the methods of the collector.
  `Archive.raise?` copies: the failure that it makes has a new list.
* `Archive.Step` — one thing that happens: a method is called, or a diagnostic comes about
  elsewhere.  A failure that does may be given a new list or any list there is, the one that is
  filled included (`Archive.Causes`).
* `Archive.findings` — the findings as values, read off entry by entry.

What a whole history leaves of all this is the matter of `LoxTokens.Proofs.Archiving`.
-/

set_option autoImplicit false

namespace LoxTokens

/-- A diagnostic at its place.  A failure knows the place of the list of its causes: this is the
attribute `errors` of a `ScanFailedError`. -/
inductive Entry
  | note (text : Text)
  | problem (p : Problem)
  | failure (message : Text) (causes : Nat)
  deriving DecidableEq, Repr

namespace Entry

/-- What the user reads. -/
def text : Entry → Text
  | note text => text
  | problem p => p.text
  | failure message _ => message

/-- The diagnostic, given the lists and the diagnostics that lie at earlier places.  Causes at later
places are left out: a failure that is given the list that is filled may come to be its own cause,
and then it is no value. -/
def read (lists : List (List Nat)) (earlier : List Diagnostic) : Entry → Diagnostic
  | note text => .note text
  | problem p => .problem p
  | failure message causes =>
    .failure message ((lists[causes]?.getD []).filterMap (earlier[·]?))

/-- The diagnostics at all places. -/
def readAll (lists : List (List Nat)) (es : List Entry) : List Diagnostic :=
  es.foldl (fun ds e ↦ ds ++ [e.read lists ds]) []

end Entry

/-- All diagnostics that there are, and which of them an `ErrorCollector` has taken up. -/
structure Archive where
  /-- The name of the file in what is reported. -/
  file : Text
  /-- The lines of the text, if it is known. -/
  source : Option (List Text)
  /-- The diagnostics that there are. -/
  entries : List Entry := []
  /-- The lists of places of diagnostics that there are. -/
  lists : List (List Nat) := [[]]
  /-- The place of the list of what was taken up: `errors` of the collector. -/
  own : Nat := 0

namespace Archive

/-- Nothing found yet. -/
def ofSource (source : Option Text) (file : Text) : Archive where
  file := file
  source := source.map Text.lines

/-- The places in a list. -/
def listed (a : Archive) (list : Nat) : List Nat := a.lists[list]?.getD []

/-- The places of what was taken up. -/
def held (a : Archive) : List Nat := a.listed a.own

/-- How many diagnostics were taken up. -/
def size (a : Archive) : Nat := a.held.length

/-- None was taken up. -/
def isEmpty (a : Archive) : Bool := a.held.isEmpty

/-- The diagnostics at all places. -/
def contents (a : Archive) : List Diagnostic := Entry.readAll a.lists a.entries

/-- The findings that the archive holds. -/
def findings (a : Archive) : Findings where
  file := a.file
  source := a.source
  diagnostics := a.held.filterMap (a.contents[·]?)

/-! ## What is done with it -/

/-- Put a diagnostic at a new place. -/
def put (a : Archive) (e : Entry) : Archive := { a with entries := a.entries ++ [e] }

/-- Put a failure at a new place, with a new list of its causes. -/
def putFailure (a : Archive) (message : Text) (causes : List Nat) : Archive :=
  { a.put (.failure message a.lists.length) with lists := a.lists ++ [causes] }

/-- Put a failure at a new place, with the list at the place `list` for its causes: the list itself
and no copy of it.  Only a list with nothing in it is not kept, and a new one taken instead. -/
def putFailureOver (a : Archive) (message : Text) (list : Nat) : Archive :=
  if a.listed list = [] then a.putFailure message []
  else a.put (.failure message list)

/-- Take up the diagnostic at a place, if there is one. -/
def add (a : Archive) (i : Nat) : Archive :=
  if i < a.entries.length then { a with lists := a.lists.modify a.own (· ++ [i]) } else a

/-- Take up a report. -/
def report (a : Archive) (line : Int) (message : Text) : Archive :=
  (a.put (.problem (a.findings.problem line message))).add a.entries.length

/-- Take up all reports of a scan. -/
def addScan (a : Archive) (s : Scan) : Archive :=
  s.reports.foldl (fun a r ↦ a.report r.line r.fault.message) a

/-- Forget what was taken up. -/
def clear (a : Archive) : Archive := { a with lists := a.lists.set a.own [] }

/-- What the user reads of each diagnostic that was taken up. -/
def texts (a : Archive) : List Text := a.held.filterMap fun i ↦ a.entries[i]?.map Entry.text

/-- All these texts with a blank line behind each, and their number. -/
def summary (a : Archive) : Text :=
  a.texts.flatMap (· ++ ['\n', '\n'])
    ++ Decimal.ofNat a.size ++ (if a.size = 1 then " error" else " errors").toList

/-- One failure for all that was taken up, if anything was, and its place.  Its list of causes is a
copy, so that nobody else knows the list that is filled. -/
def raise? (a : Archive) : Option (Archive × Nat) :=
  if a.isEmpty then none else some (a.putFailure a.summary a.held, a.entries.length)

/-! ## The history of an archive -/

/-- What a failure that comes about elsewhere is given for its causes. -/
inductive Causes
  /-- A new list of the diagnostics at these places. -/
  | fresh (places : List Nat)
  /-- The list at this place. -/
  | shared (list : Nat)
  deriving DecidableEq, Repr

/-- One thing that happens to an archive. -/
inductive Step
  /-- Take up a report. -/
  | report (line : Int) (message : Text)
  /-- Scan a text and take up its reports. -/
  | scan (o : Options) (t : Text)
  /-- A note comes about elsewhere. -/
  | note (text : Text)
  /-- A problem comes about elsewhere. -/
  | problem (p : Problem)
  /-- A failure comes about elsewhere. -/
  | failure (message : Text) (causes : Causes)
  /-- Take up the diagnostic at a place. -/
  | add (i : Nat)
  /-- Tell all that was taken up. -/
  | summary
  /-- Make one failure of all that was taken up, if anything was. -/
  | raise
  /-- Forget what was taken up. -/
  | clear
  deriving DecidableEq, Repr

/-- What a step does. -/
def step (a : Archive) : Step → Archive
  | .report line message => a.report line message
  | .scan o t => a.addScan (.ofText o t)
  | .note text => a.put (.note text)
  | .problem p => a.put (.problem p)
  | .failure message (.fresh places) =>
    a.putFailure message (places.filter (· < a.entries.length))
  | .failure message (.shared list) => a.putFailureOver message list
  | .add i => a.add i
  | .summary => a
  | .raise => (a.raise?.map Prod.fst).getD a
  | .clear => a.clear

/-- What the steps do, one after the other. -/
def after (a : Archive) (steps : List Step) : Archive := steps.foldl step a

/-- The places of what a step takes up. -/
def recorded (a : Archive) : Step → List Nat
  | .report _ _ => [a.entries.length]
  | .scan o t => List.range' a.entries.length (Scan.ofText o t).reports.length
  | .add i => if i < a.entries.length then [i] else []
  | _ => []

/-- The places of what the steps take up, one after the other. -/
def records (a : Archive) : List Step → List Nat
  | [] => []
  | x :: steps => a.recorded x ++ (a.step x).records steps

end Archive

end LoxTokens
