import LoxTokens.Findings.Collector
import LoxTokens.Proofs.Archiving
import Mathlib.Data.List.Forall2

/-!
# A collector answers as its findings do

`Findings.History` and `Collector` answer the same requests, the one on values and the other on an
archive.  This file shows that nobody who only asks can tell them apart, and that every archive that
a collector comes to is one that steps of an archive lead to.  So what is proved of the histories of
an archive (`LoxTokens.Proofs.Archiving`) is true of every collector, and what is proved of findings
is true of what a collector tells.

* `Archive.exists_enter`, `Archive.exists_enterAll` — a diagnostic that is given as a value comes
  about by steps that take nothing up and share no list (`Archive.Step.Puts`), and it reads as the
  value that was given.  The two are proved together, as a diagnostic has diagnostics among its
  causes.
* `Collector.Shows source file c h` — the archive of `c` was reached from a new one, and its
  findings and the failure that was raised last are those of `h`.
* `Collector.Shows.step` — a request keeps this so and has the same answer on both sides.

A request cannot have a list shared: a failure that is added is given with its causes, and has a
list of its own.  This is why values are enough here, while the histories of an archive need places.
-/

set_option autoImplicit false

namespace LoxTokens

namespace Archive

/-- The step puts a diagnostic at a new place, takes nothing up and shares no list. -/
def Step.Puts : Step → Prop
  | .note _ | .problem _ | .failure _ (.fresh _) => True
  | _ => False

variable {a : Archive} {steps : List Step}

/-!
## Diagnostics that are given as values

Whoever adds an error to an `ErrorCollector` has built it first, with all the errors in it.  In an
archive this takes as many steps as there are diagnostics in it, each behind its causes.
-/

theorem not_mem_of_puts (h : ∀ x ∈ steps, x.Puts) (message : Text) (l : Nat) :
    .failure message (.shared l) ∉ steps := fun hmem ↦ h _ hmem

theorem records_of_puts (h : ∀ x ∈ steps, x.Puts) (a : Archive) : a.records steps = [] := by
  induction steps generalizing a with
  | nil => rfl
  | cons x steps ih =>
    obtain ⟨hx, hsteps⟩ := List.forall_mem_cons.1 h
    have hnone : a.recorded x = [] := by
      cases x with
      | note text => rfl
      | problem p => rfl
      | failure message causes => rfl
      | _ => exact absurd hx id
    rw [records, hnone, ih hsteps, List.nil_append]

/-- To put diagnostics is not to take them up. -/
theorem held_of_puts (ha : a.Sound) (h : ∀ x ∈ steps, x.Puts) : (a.after steps).held = a.held := by
  have hclear : .clear ∉ steps := fun hmem ↦ h _ hmem
  rw [held_after ha hclear, records_of_puts h, List.append_nil]

/-- Places at which the given diagnostics are read name just these diagnostics. -/
theorem filterMap_eq_of_map_eq {is : List Nat} {ds : List Diagnostic}
    (h : is.map (a.contents[·]?) = ds.map some) : is.filterMap (a.contents[·]?) = ds := by
  have hid := congrArg (List.filterMap id) h
  simpa [List.filterMap_map] using hid

theorem filter_eq_self_of_map_eq {is : List Nat} {ds : List Diagnostic}
    (h : is.map (a.contents[·]?) = ds.map some) : is.filter (· < a.entries.length) = is := by
  refine List.filter_eq_self.2 fun i hi ↦ decide_eq_true ?_
  obtain ⟨d, -, hd⟩ := List.mem_map.1 (h ▸ List.mem_map_of_mem hi)
  rw [← length_contents]
  exact (List.getElem?_eq_some_iff.1 hd.symm).1

theorem enter_failure (a : Archive) (message : Text) (causes : List Diagnostic) :
    a.enter (.failure message causes) =
      ((a.enterAll causes).1.step (.failure message (.fresh (a.enterAll causes).2)),
        (a.enterAll causes).1.entries.length) := by
  rw [enter]

theorem enterAll_cons (a : Archive) (d : Diagnostic) (ds : List Diagnostic) :
    a.enterAll (d :: ds) = (((a.enter d).1.enterAll ds).1,
      (a.enter d).2 :: ((a.enter d).1.enterAll ds).2) := by
  rw [enterAll]

mutual

/-- **A diagnostic that is put reads as it was given.** -/
theorem exists_enter (a : Archive) (ha : a.Sound) (hapart : a.Apart) (d : Diagnostic) :
    ∃ steps, (∀ x ∈ steps, x.Puts) ∧ (a.enter d).1 = a.after steps ∧
      (a.enter d).1.contents[(a.enter d).2]? = some d := by
  cases d with
  | note text =>
    refine ⟨[.note text], List.forall_mem_singleton.2 trivial, by rw [enter]; rfl, ?_⟩
    rw [enter, contents, Entry.getElem?_readAll, step, put, List.getElem?_concat_length]
    rfl
  | problem p =>
    refine ⟨[.problem p], List.forall_mem_singleton.2 trivial, by rw [enter]; rfl, ?_⟩
    rw [enter, contents, Entry.getElem?_readAll, step, put, List.getElem?_concat_length]
    rfl
  | failure message causes =>
    obtain ⟨steps, hputs, hsteps, hcauses⟩ := exists_enterAll a ha hapart causes
    have hb : (a.enterAll causes).1.Sound := hsteps ▸ (extends_after ha steps).sound
    refine ⟨steps ++ [.failure message (.fresh (a.enterAll causes).2)], ?_, ?_, ?_⟩
    · exact fun x hx ↦ (List.mem_append.1 hx).elim (hputs x)
        fun hx ↦ List.mem_singleton.1 hx ▸ trivial
    · rw [enter_failure, after_append, ← hsteps]
      rfl
    · rw [enter_failure]
      dsimp only [step]
      rw [filter_eq_self_of_map_eq hcauses, contents_putFailure hb,
        filterMap_eq_of_map_eq hcauses]

/-- So do several, one after the other. -/
theorem exists_enterAll (a : Archive) (ha : a.Sound) (hapart : a.Apart) (ds : List Diagnostic) :
    ∃ steps, (∀ x ∈ steps, x.Puts) ∧ (a.enterAll ds).1 = a.after steps ∧
      (a.enterAll ds).2.map ((a.enterAll ds).1.contents[·]?) = ds.map some := by
  cases ds with
  | nil =>
    have hnil : a.enterAll [] = (a, []) := by rw [enterAll]
    rw [hnil]
    exact ⟨[], fun _ h ↦ absurd h List.not_mem_nil, rfl, rfl⟩
  | cons d ds =>
    obtain ⟨first, hfirst, hafter, hd⟩ := exists_enter a ha hapart d
    have hb : (a.enter d).1.Sound := hafter ▸ (extends_after ha first).sound
    have hbapart : (a.enter d).1.Apart :=
      hafter ▸ apart_after ha hapart fun message ↦ not_mem_of_puts hfirst message _
    obtain ⟨rest, hrest, hafter', hds⟩ := exists_enterAll _ hb hbapart ds
    refine ⟨first ++ rest, ?_, ?_, ?_⟩
    · exact fun x hx ↦ (List.mem_append.1 hx).elim (hfirst x) (hrest x)
    · rw [enterAll_cons, after_append, ← hafter, ← hafter']
    · have hkept := getElem?_contents_of_extends hb hbapart (extends_after hb rest) hd
      rw [← hafter'] at hkept
      rw [enterAll_cons, List.map_cons, List.map_cons, hds, hkept]

end

end Archive

namespace Collector

variable {source : Option Text} {file : Text} {c : Collector} {h : Findings.History}

/-!
## One request

The relation between a collector and a history of findings, and the step lemma for it.  There is one
case for each request, and the longer ones are lemmas of their own.
-/

/-- The collector shows what the findings are, and the failure that was raised last. -/
structure Shows (source : Option Text) (file : Text) (c : Collector) (h : Findings.History) :
    Prop where
  /-- Its archive was reached from a new one, and no list was shared on the way. -/
  reached : ∃ steps, c.archive = (Archive.ofSource source file).after steps ∧
    ∀ message l, .failure message (.shared l) ∉ steps
  findings : c.archive.findings = h.findings
  raised : c.raised.map (c.archive.contents[·]?) = h.raised.map some

theorem shows_ofSource (source : Option Text) (file : Text) :
    Shows source file (ofSource source file) ⟨.ofSource source file, none⟩ where
  reached := ⟨[], rfl, fun _ _ ↦ List.not_mem_nil⟩
  findings := rfl
  raised := rfl

namespace Shows

variable (hs : Shows source file c h)

include hs

/-- The archive was reached by steps, so it is sound. -/
theorem sound : c.archive.Sound := by
  obtain ⟨steps, hsteps, -⟩ := hs.reached
  exact hsteps ▸ (Archive.extends_after (Archive.sound_ofSource source file) steps).sound

/-- None of these steps has shared a list, so it is apart. -/
theorem apart : c.archive.Apart := by
  obtain ⟨steps, hsteps, hshared⟩ := hs.reached
  exact hsteps ▸ Archive.apart_after (Archive.sound_ofSource source file)
    (Archive.apart_ofSource source file) fun message ↦ hshared message _

/-- Either nothing was raised, or the failure that was raised last lies at the place. -/
theorem raised_cases : (c.raised = none ∧ h.raised = none) ∨
    ∃ i d, c.raised = some i ∧ h.raised = some d ∧ c.archive.contents[i]? = some d := by
  have hraised := hs.raised
  cases hi : c.raised with
  | none =>
    rw [hi, Option.map_none, eq_comm, Option.map_eq_none_iff] at hraised
    exact .inl ⟨rfl, hraised⟩
  | some i =>
    rw [hi, Option.map_some] at hraised
    obtain ⟨d, hd, heq⟩ := Option.map_eq_some_iff.1 hraised.symm
    exact .inr ⟨i, d, rfl, hd, heq.symm⟩

/-- Steps of the archive that share no list do to the findings what they have to. -/
theorem archive_after (steps : List Archive.Step) {f : Findings}
    (hshared : ∀ message l, .failure message (.shared l) ∉ steps)
    (hf : (c.archive.after steps).findings = f) :
    Shows source file { c with archive := c.archive.after steps } { h with findings := f } where
  reached := by
    obtain ⟨before, hbefore, hshared'⟩ := hs.reached
    refine ⟨before ++ steps, ?_, fun message l hmem ↦ ?_⟩
    · rw [Archive.after_append, ← hbefore]
    · exact (List.mem_append.1 hmem).elim (hshared' message l) (hshared message l)
  findings := hf
  raised := by
    rcases hs.raised_cases with ⟨hi, hd⟩ | ⟨i, d, hi, hd, hplace⟩
    · rw [hi, hd]
      rfl
    · rw [hi, hd, Option.map_some, Option.map_some]
      exact congrArg some (Archive.getElem?_contents_of_extends hs.sound hs.apart
        (Archive.extends_after hs.sound steps) hplace)

/-- So does one step. -/
theorem archive_step {x : Archive.Step} (hx : ∀ message l, x ≠ .failure message (.shared l)) :
    Shows source file { c with archive := c.archive.step x }
      { h with findings := x.onFindings c.archive.contents h.findings } := by
  refine hs.archive_after [x] (fun message l hmem ↦ ?_) ?_
  · exact hx message l (List.mem_singleton.1 hmem).symm
  · rw [← hs.findings]
    exact Archive.findings_step hs.sound hs.apart x

/-- To take up a diagnostic by its place is to take it up. -/
theorem add {i : Nat} {d : Diagnostic} (hd : c.archive.contents[i]? = some d) :
    Shows source file (c.add i) { h with findings := h.findings.push d } ∧
      (c.add i).answerAt i = .diagnostic d := by
  have hadd := hs.archive_step (x := .add i) (by simp)
  rw [Archive.Step.onFindings, hd] at hadd
  have hkept : (c.add i).archive.contents[i]? = some d :=
    Archive.getElem?_contents_of_extends hs.sound hs.apart
      (Archive.extends_step hs.sound (.add i)) hd
  refine ⟨hadd, ?_⟩
  rw [answerAt, hkept]
  rfl

/-- A diagnostic that is given as a value is put first, and taken up by its place. -/
theorem step_push (d : Diagnostic) :
    Shows source file (c.step (.push d)).1 (h.step (.push d)).1 ∧
      (c.step (.push d)).2 = (h.step (.push d)).2 := by
  obtain ⟨steps, hputs, hsteps, hd⟩ := Archive.exists_enter _ hs.sound hs.apart d
  have hfindings : (c.archive.after steps).findings = h.findings := by
    rw [← hs.findings]
    exact Archive.findings_eq_of_extends hs.sound hs.apart
      (Archive.extends_after hs.sound steps) (Archive.held_of_puts hs.sound hputs)
  have hput := hs.archive_after steps (Archive.not_mem_of_puts hputs) hfindings
  rw [← hsteps] at hput
  exact hput.add hd

/-- A failure that is raised is read at its new place. -/
theorem step_raise :
    Shows source file (c.step .raise).1 (h.step .raise).1 ∧
      (c.step .raise).2 = (h.step .raise).2 := by
  have hraise := Archive.failure?_findings hs.sound
  rw [hs.findings] at hraise
  rw [Collector.step, Findings.History.step]
  cases hr : c.archive.raise? with
  | none =>
    rw [hr, Option.bind_none] at hraise
    rw [hraise]
    exact ⟨hs, rfl⟩
  | some p =>
    obtain ⟨a, i⟩ := p
    obtain ⟨rfl, rfl, l, -, hlater⟩ := Archive.of_raise? hs.sound hr
    obtain ⟨d, hd⟩ : ∃ d, (c.archive.step .raise).contents[c.archive.entries.length]? = some d :=
      Archive.exists_contents (hlater []).1
    rw [hr, Option.bind_some, show (c.archive.step .raise).contents[_]? = some d from hd]
      at hraise
    rw [hraise]
    have hstep := hs.archive_step (x := .raise) (by simp)
    refine ⟨⟨hstep.reached, hstep.findings, congrArg some hd⟩, ?_⟩
    dsimp only
    rw [answerAt, hd]
    rfl

/-- The failure that was raised last is taken up where it lies, and no copy of it. -/
theorem step_pushRaised :
    Shows source file (c.step .pushRaised).1 (h.step .pushRaised).1 ∧
      (c.step .pushRaised).2 = (h.step .pushRaised).2 := by
  rw [Collector.step, Findings.History.step]
  rcases hs.raised_cases with ⟨hi, hd⟩ | ⟨i, d, hi, hd, hplace⟩
  · rw [hi, hd]
    exact ⟨hs, rfl⟩
  · have hadd := hs.add hplace
    rw [hd] at hadd
    rw [hi, hd]
    exact hadd

/-- **A request has the same answer on both sides**, and they go on showing the same. -/
theorem step (x : Findings.Step) :
    Shows source file (c.step x).1 (h.step x).1 ∧ (c.step x).2 = (h.step x).2 := by
  cases x with
  | report line message =>
    refine ⟨hs.archive_step (by simp), ?_⟩
    have hnew := Archive.getElem?_contents_report c.archive line message
    rw [hs.findings] at hnew
    rw [Collector.step, answerAt, Archive.step, hnew]
    rfl
  | push d => exact hs.step_push d
  | scan o t => exact ⟨hs.archive_step (by simp), rfl⟩
  | raise => exact hs.step_raise
  | raised =>
    refine ⟨hs, ?_⟩
    rw [Collector.step, Findings.History.step]
    dsimp only
    rcases hs.raised_cases with ⟨hi, hd⟩ | ⟨i, d, hi, hd, hplace⟩
    · rw [hi, hd]
      rfl
    · rw [hi, hd, Option.map_some, answerAt, hplace]
      rfl
  | pushRaised => exact hs.step_pushRaised
  | clear => exact ⟨hs.archive_step (by simp), rfl⟩
  | summary =>
    have hsummary := Archive.summary_findings hs.sound
    rw [hs.findings] at hsummary
    exact ⟨hs, congrArg Findings.Answer.text hsummary.symm⟩
  | texts =>
    have htexts := Archive.texts_findings c.archive
    rw [hs.findings] at htexts
    exact ⟨hs, congrArg Findings.Answer.texts htexts.symm⟩

end Shows

/-! ## All requests -/

/-- Requests are answered alike, one after the other. -/
theorem Shows.run (hs : Shows source file c h) (xs : List Findings.Step) :
    List.Forall₂ (fun p q ↦ p.1 = q.1 ∧ Shows source file p.2 q.2) (c.run xs) (h.run xs) := by
  induction xs generalizing c h with
  | nil => exact .nil
  | cons x xs ih =>
    obtain ⟨hstep, hanswer⟩ := hs.step x
    exact .cons ⟨hanswer, hstep⟩ (ih hstep)

/-- **A collector answers as its findings do.**  To any requests a new collector gives the answers
that its findings give as values, one by one.  Each time its archive has just the findings that
there are, and was reached from a new archive by steps that share no list. -/
theorem run_ofSource (source : Option Text) (file : Text) (xs : List Findings.Step) :
    List.Forall₂ (fun p q ↦ p.1 = q.1 ∧ p.2.archive.findings = q.2.findings ∧
        ∃ steps, p.2.archive = (Archive.ofSource source file).after steps ∧
          ∀ message l, .failure message (.shared l) ∉ steps)
      ((ofSource source file).run xs)
      (Findings.History.run ⟨.ofSource source file, none⟩ xs) :=
  .imp (fun _ _ h ↦ ⟨h.1, h.2.findings, h.2.reached⟩) ((shows_ofSource source file).run xs)

end Collector

end LoxTokens
