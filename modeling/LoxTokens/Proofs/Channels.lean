import LoxTokens.Proofs.Rescanning
import Mathlib.Data.List.Forall2

/-!
# All outputs of a scan tell the same

A report shows in four places: in the calls of the sink, in the log, in the count with which the log
ends, and in what the sink makes of the calls.  They are written at different times of a scan:
`Scanner._error` counts, logs and calls `report` on whatever reporter there is, and `scan_tokens`
writes the count at its end.  This file shows that none of them misses, repeats or reorders a
report, by comparing each with the one list of calls (`Scan.told`).

* `Scan.log_eq` — the log names the calls one by one and counts them.
* `Findings.exists_addScan_eq` — an `ErrorCollector` takes up one diagnostic for each call, of the
  class that stands for its message.
* `Console.foldl_tell` — a `ConsoleReporter` writes one line for each call and remembers that there
  was one.

Any other reporter is covered by `Reporting.exists_scan_eq`, in which the sink is any function.  All
of it is put together in `Reporting.scan_tells`, which also has the scan of a `Reader`, whose log
and findings are fields of its own.
-/

set_option autoImplicit false

namespace LoxTokens

theorem Scan.log_eq (s : Scan) (file t : Text) :
    s.log file t =
      ("scanning ".toList ++ file ++ " (".toList ++ Decimal.ofNat t.length ++ " chars)".toList) ::
        (s.told.map (fun p ↦ file ++ [':'] ++ Decimal.ofInt p.1 ++ ": ".toList ++ p.2) ++
          ["scanned ".toList ++ file ++ ": ".toList ++ Decimal.ofNat s.tokens.length
            ++ " tokens, ".toList ++ Decimal.ofNat s.told.length ++ " errors".toList]) := by
  rw [log, told, List.map_map, List.length_map]
  rfl

/-! ## What the sinks make of it -/

/-- Findings take up one diagnostic for each call. -/
theorem Findings.exists_addScan_eq (f : Findings) (s : Scan) :
    ∃ ds, f.addScan s = { f with diagnostics := f.diagnostics ++ ds } ∧
      List.Forall₂ (fun p d ↦ ∃ fault, Fault.ofMessage? p.2 = some fault ∧
        d = .problem ⟨.fault fault, p.2, some ⟨f.file, p.1⟩, f.sourceLine? p.1⟩) s.told ds := by
  refine ⟨_, rfl, ?_⟩
  rw [Scan.told, List.forall₂_map_left_iff, List.forall₂_map_right_iff, List.forall₂_same]
  intro r _
  exact ⟨r.fault, Fault.ofMessage?_message r.fault, congrArg _ (problem_message f r.line r.fault)⟩

theorem Findings.isEmpty_addScan (f : Findings) (s : Scan) :
    (f.addScan s).isEmpty = false ↔ f.isEmpty = false ∨ s.told ≠ [] := by
  simp [isEmpty, addScan, Scan.told, imp_iff_not_or]

/-- Nothing is stripped from the line for a report. -/
theorem Console.line_message (n : Nat) (fault : Fault) :
    line n fault.message =
      "[line ".toList ++ Decimal.ofInt n ++ "] Error: ".toList ++ fault.message ++ ['\n'] := by
  have hmessage : '\x1b' ∉ fault.message := by
    cases fault <;> decide
  have hnumber : '\x1b' ∉ Decimal.ofInt n := Decimal.not_mem_ofNat rfl n
  rw [line, echo, ControlSequence.strip_eq_self]
  simp [hmessage, hnumber]

/-- A console that is called with what a scan tells writes one line for each call, and remembers
whether there was one. -/
theorem Console.foldl_tell (c : Console × Text) (s : Scan) :
    s.told.foldl (fun c p ↦ tell c p.1 p.2) c =
      (⟨c.1.hadError || !s.told.isEmpty⟩, c.2 ++ s.told.flatMap fun p ↦
        "[line ".toList ++ Decimal.ofInt p.1 ++ "] Error: ".toList ++ p.2 ++ ['\n']) := by
  obtain ⟨tokens, reports⟩ := s
  rw [Scan.told]
  dsimp only
  induction reports generalizing c with
  | nil => simp
  | cons r rs ih =>
    rw [List.map_cons, List.foldl_cons, ih, tell, report, line_message]
    simp

/-! ## One story -/

/-- **All outputs of a scan tell the same.**  For every text, options and file there are calls such
that a scan, whatever was scanned before, calls any sink at all with them and with nothing else, in
this order, whatever the sink holds.  Its log names the same lines and messages and counts them, and
its tokens do not depend on the sink.  Findings take up one diagnostic for each call, which is the
fault that its message stands for, and a console writes one line for each.  Both know afterwards
that something was reported just if they knew it before or there was a call. -/
theorem Reporting.scan_tells (o : Options) (file t : Text) :
    ∃ (calls : List (Int × Text)) (ts : List Token) (log : List Text),
      calls = (Scan.ofText o t).told ∧ ts = (Scan.ofText o t).tokens ∧
      log =
        ("scanning ".toList ++ file ++ " (".toList ++ Decimal.ofNat t.length ++ " chars)".toList) ::
          (calls.map (fun p ↦ file ++ [':'] ++ Decimal.ofInt p.1 ++ ": ".toList ++ p.2) ++
            ["scanned ".toList ++ file ++ ": ".toList ++ Decimal.ofNat ts.length
              ++ " tokens, ".toList ++ Decimal.ofNat calls.length ++ " errors".toList]) ∧
      (∀ (σ : Type) (sink : Sink σ) (s : Reporting σ), ∃ s',
        s.scan sink o file t = some (s', ts) ∧ s'.log = s.log ++ log ∧
          s'.held = calls.foldl (fun held p ↦ sink held p.1 p.2) s.held) ∧
      (∀ s : Reporting Findings, ∃ s' ds,
        s.scan Findings.report o file t = some (s', ts) ∧ s'.log = s.log ++ log ∧
          s'.held = { s.held with diagnostics := s.held.diagnostics ++ ds } ∧
          List.Forall₂ (fun p d ↦ ∃ fault, Fault.ofMessage? p.2 = some fault ∧
            d = .problem ⟨.fault fault, p.2, some ⟨s.held.file, p.1⟩, s.held.sourceLine? p.1⟩)
            calls ds ∧
          (s'.held.isEmpty = false ↔ s.held.isEmpty = false ∨ calls ≠ [])) ∧
      (∀ s : Reporting (Console × Text), ∃ s',
        s.scan Console.tell o file t = some (s', ts) ∧ s'.log = s.log ++ log ∧
          s'.held.2 = s.held.2 ++ calls.flatMap (fun p ↦
            "[line ".toList ++ Decimal.ofInt p.1 ++ "] Error: ".toList ++ p.2 ++ ['\n']) ∧
          (s'.held.1.hadError = true ↔ s.held.1.hadError = true ∨ calls ≠ [])) ∧
      ∀ s : Reader, ∃ s' i,
        Reader.scan { s with source := t, file := file, options := o } = some (s', i) ∧
          s'.lists[i]? = some ts ∧ s'.log = s.log ++ log ∧
          s'.findings = calls.foldl (fun f p ↦ f.report p.1 p.2) s.findings := by
  refine ⟨_, _, _, rfl, rfl, Scan.log_eq (.ofText o t) file t, ?_, ?_, ?_, ?_⟩
  · intro σ sink s
    obtain ⟨w, hscan⟩ := exists_scan_eq _ o file t s
    exact ⟨_, hscan, rfl, rfl⟩
  · intro s
    obtain ⟨w, hscan⟩ := exists_scan_eq _ o file t s
    obtain ⟨ds, hadd, hds⟩ := s.held.exists_addScan_eq (.ofText o t)
    rw [Findings.foldl_report_told] at hscan
    exact ⟨_, ds, hscan, rfl, hadd, hds, s.held.isEmpty_addScan (.ofText o t)⟩
  · intro s
    obtain ⟨w, hscan⟩ := exists_scan_eq _ o file t s
    rw [Console.foldl_tell] at hscan
    refine ⟨_, hscan, rfl, rfl, ?_⟩
    simp
  · intro s
    obtain ⟨w, hscan⟩ := Reader.exists_scan_eq { s with source := t, file := file, options := o }
    refine ⟨_, _, hscan, ?_, rfl, (Findings.foldl_report_told _ _).symm⟩
    simp

end LoxTokens
