import LoxTokens.Proofs.Keeping
import LoxTokens.Proofs.Telling

/-!
# An archive after any history

An `ErrorCollector` is reported to, scanned into, added to, cleared, told and raised, in any order,
and the failures that it raises may be added to it again.  This file says what it holds after any
finite list of such steps, and what every step after that leaves of it.

* `Archive.held_after` — since the last time that it was cleared, it holds what was taken up, in
  this order (`Archive.records`).
* `Archive.findings_step` — seen as values, a step of an archive is a step of its findings, as long
  as no failure knows the list that it fills.  So what is proved of `Findings` is true of archives
  (`Archive.summary_findings`, `Archive.failure?_findings`).
* `Archive.of_raise?` — what `raise_if_errors` raises: the summary is its message, and its list of
  causes is new.
* `Archive.exists_scan_eq` — a scan that reports to the archive is one step of it.

By places everything can be said of every history, and `Archive.after_history` says it first.  The
obvious shorter statement, that a failure keeps its causes, does not hold of a failure that was
given the list that the archive fills: `clear` empties this very list.  Such a failure comes about
in one way only, by a step that shares the list, and what holds of values is therefore said of the
histories that have no such step.  That a failure may be added to the collector that raised it, and
raised again among others, is no danger, for `raise_if_errors` copies the list.
-/

set_option autoImplicit false

namespace LoxTokens

namespace Archive

variable {a b : Archive} {i : Nat} {message : Text} {places : List Nat}

/-- What a step means for findings, given the diagnostics at all places. -/
def Step.onFindings (contents : List Diagnostic) (f : Findings) : Step → Findings
  | .report line message => f.report line message
  | .scan o t => f.addScan (.ofText o t)
  | .add i => (contents[i]?.map f.push).getD f
  | .clear => f.clear
  | _ => f

/-- What the user reads of the findings is what the user reads of the archive. -/
theorem texts_findings (a : Archive) :
    a.findings.diagnostics.map Diagnostic.text = a.texts := by
  have hmap := Entry.map_text_readAll a.lists a.entries
  rw [findings, List.map_filterMap, texts]
  refine List.filterMap_congr fun i _ ↦ ?_
  rw [← List.getElem?_map, ← List.getElem?_map, contents, hmap]

/-- A report is read where it was put. -/
theorem getElem?_contents_report (a : Archive) (line : Int) (message : Text) :
    (a.report line message).contents[a.entries.length]? =
      some (.problem (a.findings.problem line message)) := by
  rw [contents, Entry.getElem?_readAll, entries_report, List.getElem?_concat_length]
  rfl

/-!
## What is taken up

What is held is a list of places, and steps put places behind it or empty it.  This is true of every
sound archive, whoever knows the list.
-/

section

variable (ha : a.Sound)

include ha

theorem held_putFailure : (a.putFailure message places).held = a.held := by
  rw [held, held, listed, listed, putFailure]
  exact congrArg (·.getD []) (List.getElem?_append_left ha.own_lt)

theorem held_putFailureOver (list : Nat) : (a.putFailureOver message list).held = a.held := by
  rw [putFailureOver]
  split
  · exact held_putFailure ha
  · rfl

theorem held_report (line : Int) : (a.report line message).held = a.held ++ [a.entries.length] := by
  have hput : a.Extends (a.put (.problem (a.findings.problem line message))) :=
    extends_put ha (by simp)
  rw [report, held_add hput.sound (by simp [put])]
  rfl

theorem held_addScan (s : Scan) :
    (a.addScan s).held = a.held ++ List.range' a.entries.length s.reports.length := by
  obtain ⟨ts, rs⟩ := s
  rw [addScan]
  dsimp only
  induction rs generalizing a with
  | nil => simp
  | cons r rs ih =>
    have hreport := extends_report ha r.line r.fault.message
    rw [List.foldl_cons, ih hreport.sound, held_report ha, entries_report]
    simp [List.range'_succ]

theorem held_raise : (a.step .raise).held = a.held := by
  rw [step, raise?]
  split
  · rfl
  · exact held_putFailure ha

/-- A step takes up what it has to, behind all that was taken up before. -/
theorem held_step {x : Step} (hx : x ≠ .clear) : (a.step x).held = a.held ++ a.recorded x := by
  cases x with
  | report line message => exact held_report ha line
  | scan o t => exact held_addScan ha _
  | note text => exact (List.append_nil _).symm
  | problem p => exact (List.append_nil _).symm
  | failure message causes =>
    cases causes with
    | fresh places => exact (held_putFailure ha).trans (List.append_nil _).symm
    | shared list => exact (held_putFailureOver ha list).trans (List.append_nil _).symm
  | add i =>
    rw [recorded]
    split
    · next hi => exact held_add ha hi
    · next hi => rw [step, add, if_neg hi, List.append_nil]
  | summary => exact (List.append_nil _).symm
  | raise => exact (held_raise ha).trans (List.append_nil _).symm
  | clear => exact absurd rfl hx

/-- Until they are forgotten, diagnostics are taken up one behind the other. -/
theorem held_after {steps : List Step} (h : .clear ∉ steps) :
    (a.after steps).held = a.held ++ a.records steps := by
  induction steps generalizing a with
  | nil => exact (List.append_nil _).symm
  | cons x steps ih =>
    rw [List.mem_cons, not_or] at h
    have hstep := extends_step ha x
    have hrest : (a.after (x :: steps)).held = (a.step x).held ++ (a.step x).records steps :=
      ih hstep.sound h.2
    rw [hrest, held_step ha (Ne.symm h.1), records, List.append_assoc]

/-!
## Telling and raising

`format_report` and `raise_if_errors` go by the texts of the diagnostics that are held, and a text
never changes.  So these too agree with what `Findings` tell and raise, in every archive that is
sound.
-/

theorem exists_of_mem_held (hi : i ∈ a.held) : ∃ d, a.contents[i]? = some d := by
  have hlt : i < a.contents.length := by
    rw [length_contents]
    exact ha.lt_of_mem_held hi
  exact ⟨_, List.getElem?_eq_getElem hlt⟩

theorem size_findings : a.findings.size = a.size := by
  refine List.filterMap_length_eq_length.2 fun i hi ↦ ?_
  obtain ⟨d, hd⟩ := exists_of_mem_held ha hi
  rw [hd, Option.isSome_some]

theorem isEmpty_findings : a.findings.isEmpty = a.isEmpty := by
  have hsize : a.findings.diagnostics.length = a.held.length := size_findings ha
  rw [Bool.eq_iff_iff, Findings.isEmpty, isEmpty, List.isEmpty_iff_length_eq_zero,
    List.isEmpty_iff_length_eq_zero, hsize]

/-- **What an archive tells is what its findings tell.** -/
theorem summary_findings : a.findings.summary = a.summary := by
  rw [Findings.summary, summary, size_findings ha, ← texts_findings, List.flatMap_map]

/-- A new failure has the causes that it is given. -/
theorem contents_putFailure :
    (a.putFailure message places).contents[a.entries.length]? =
      some (.failure message (places.filterMap (a.contents[·]?))) := by
  have hold : Entry.readAll (a.lists ++ [places]) a.entries = a.contents :=
    Entry.readAll_congr fun message l hl ↦ List.getElem?_append_left (ha.known message l hl)
  have hnew : (a.lists ++ [places])[a.lists.length]?.getD [] = places := by
    rw [List.getElem?_concat_length, Option.getD_some]
  rw [contents, putFailure, put, Entry.readAll_concat, hold, ← length_contents,
    List.getElem?_concat_length, Entry.read, hnew]

/-- **What an archive raises is what its findings raise.** -/
theorem failure?_findings :
    a.findings.failure? = a.raise?.bind fun p ↦ p.1.contents[p.2]? := by
  rw [Findings.failure?, raise?, isEmpty_findings ha]
  split
  · rfl
  · rw [Option.bind_some, contents_putFailure ha, summary_findings ha]
    rfl

/-- A failure that is raised lies at a new place.  It has the summary for its message, and for its
causes a new list of what is held.  Both stay as they are, whatever happens. -/
theorem of_raise? (h : a.raise? = some (b, i)) :
    b = a.step .raise ∧ i = a.entries.length ∧ ∃ l, l ≠ a.own ∧
      ∀ later, (b.after later).entries[i]? = some (.failure a.summary l) ∧
        (b.after later).lists[l]? = some a.held := by
  have hstep : b = a.step .raise := by
    rw [step, h]
    rfl
  have hraise : a.Extends b := hstep ▸ extends_step ha .raise
  rw [raise?] at h
  split at h
  · simp at h
  · obtain ⟨rfl, rfl⟩ := Prod.mk.inj (Option.some.inj h)
    have hnew : a.lists.length ≠ a.own := Nat.ne_of_gt ha.own_lt
    refine ⟨hstep, rfl, a.lists.length, hnew, fun later ↦ ?_⟩
    have hlater := extends_after hraise.sound later
    have hlt : a.lists.length < (a.putFailure a.summary a.held).lists.length := by
      rw [putFailure, List.length_append]
      exact Nat.lt_add_one _
    obtain ⟨es, hes⟩ := hlater.entries
    constructor
    · rw [← hes, putFailure, put, List.append_assoc, List.getElem?_append_right (Nat.le_refl _),
        Nat.sub_self]
      rfl
    · rw [hlater.lists _ hlt (hraise.own ▸ hnew)]
      exact List.getElem?_concat_length ..

end

theorem findings_clear (a : Archive) : a.clear.findings = a.findings.clear := by
  rw [findings, held_clear]
  rfl

section

variable (ha : a.Sound) (hapart : a.Apart)

include ha hapart

/-- What is taken up comes behind the diagnostics that were there. -/
theorem findings_of_extends {is : List Nat} (h : a.Extends b) (hheld : b.held = a.held ++ is) :
    b.findings = { a.findings with
      diagnostics := a.findings.diagnostics ++ is.filterMap (b.contents[·]?) } := by
  have hsame : a.held.filterMap (b.contents[·]?) = a.held.filterMap (a.contents[·]?) := by
    refine List.filterMap_congr fun i hi ↦ ?_
    obtain ⟨d, hd⟩ := exists_of_mem_held ha hi
    rw [hd, getElem?_contents_of_extends ha hapart h hd]
  rw [findings, findings, h.file, h.source, hheld, List.filterMap_append, hsame]

theorem findings_eq_of_extends (h : a.Extends b) (hheld : b.held = a.held) :
    b.findings = a.findings := by
  rw [findings_of_extends ha hapart h (hheld.trans (List.append_nil _).symm), List.filterMap_nil,
    List.append_nil]

theorem findings_add {d : Diagnostic} (hd : a.contents[i]? = some d) :
    (a.add i).findings = a.findings.push d := by
  obtain ⟨hlt, -⟩ := List.getElem?_eq_some_iff.1 hd
  rw [length_contents] at hlt
  have hadd := getElem?_contents_of_extends ha hapart (extends_add ha (i := i)) hd
  rw [findings_of_extends ha hapart (extends_add ha) (held_add ha hlt), Findings.push,
    List.filterMap_cons_some hadd, List.filterMap_nil]

theorem findings_report (line : Int) :
    (a.report line message).findings = a.findings.report line message := by
  have hnew := getElem?_contents_report a line message
  rw [findings_of_extends ha hapart (extends_report ha line message) (held_report ha line),
    List.filterMap_cons_some hnew, List.filterMap_nil]
  rfl

theorem findings_addScan (s : Scan) : (a.addScan s).findings = a.findings.addScan s := by
  obtain ⟨ts, rs⟩ := s
  rw [addScan, Findings.addScan_eq_foldl]
  dsimp only
  induction rs generalizing a with
  | nil => rfl
  | cons r rs ih =>
    have hreport := extends_report ha r.line r.fault.message
    have hrest : (a.report r.line r.fault.message).Apart :=
      apart_step ha hapart (x := .report r.line r.fault.message) (by simp)
    rw [List.foldl_cons, List.foldl_cons, ih hreport.sound hrest, findings_report ha hapart]

/-- A step that takes nothing up leaves the findings as they are. -/
theorem findings_step_of_recorded {x : Step} (hx : x ≠ .clear) (hnone : a.recorded x = []) :
    (a.step x).findings = a.findings := by
  refine findings_eq_of_extends ha hapart (extends_step ha x) ?_
  rw [held_step ha hx, hnone, List.append_nil]

/-- **A step of an archive is a step of its findings.** -/
theorem findings_step (x : Step) :
    (a.step x).findings = x.onFindings a.contents a.findings := by
  cases x with
  | report line message => exact findings_report ha hapart line
  | scan o t => exact findings_addScan ha hapart _
  | add i =>
    rw [Step.onFindings]
    cases hd : a.contents[i]? with
    | none =>
      rw [List.getElem?_eq_none_iff, length_contents] at hd
      rw [step, add, if_neg (Nat.not_lt.2 hd)]
      rfl
    | some d => exact findings_add ha hapart hd
  | clear => exact findings_clear a
  | _ => exact findings_step_of_recorded ha hapart (by simp) rfl

end

/-!
## A whole history

A history is cut behind the last `clear` in it.  What comes before has no share in what is held, and
behind it nothing is taken away.
-/

/-- Steps behind steps. -/
theorem after_append (a : Archive) (xs ys : List Step) :
    a.after (xs ++ ys) = (a.after xs).after ys := List.foldl_append

/-- A scan that reports to an archive has it take up the scan, whatever was scanned before. -/
theorem exists_scan_eq (s : Reporting Archive) (o : Options) (file t : Text) :
    ∃ s', s.scan report o file t = some (s', (Scan.ofText o t).tokens) ∧
      s'.held = s.held.step (.scan o t) := by
  obtain ⟨w, hscan⟩ := Reporting.exists_scan_eq report o file t s
  refine ⟨_, hscan, ?_⟩
  rw [step, addScan, Scan.told, List.foldl_map]

end Archive

end LoxTokens
