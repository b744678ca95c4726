import LoxTokens.Proofs.Renaming
import LoxTokens.Reporting

/-!
# A scan hands on what its cursor finds

The loop of `Reporting.run` and that of `Cursor.run` are the same turns; the first one hands every
report on as soon as it is found, counts it and writes it to the log, while the second one only
writes it down.  Since nothing comes back from a sink, the first loop goes the way of the second
whatever the sink does, and so both can be told apart: what is found is a matter of the cursor alone
(`Cursor.exists_run_eq`), and what is made of it is a matter of the sink.

* `Scan.told` — what a sink is called with: the line and the message of each report.
* `Reporting.tell s w` — the scan `s` behind the turns of the cursor `w`.  It has handed on
  everything that `w` has found, and nothing else.
* `Reporting.turn_tell` — one turn keeps this so, hence all turns do (`Reporting.run_tell`).
* `Reporting.exists_scan_eq` — the outcome of a whole scan in one equation, for any sink and for
  whatever an earlier scan has left.

The equation is all that is needed of the loop from here on: for a reader, whose sink is its
findings (`LoxTokens.Proofs.Rescanning`), for an archive (`LoxTokens.Proofs.Archiving`), and for the
comparison of all sinks with each other (`LoxTokens.Proofs.Channels`).
-/

set_option autoImplicit false

namespace LoxTokens

/-- What the sink of a scan is called with. -/
def Scan.told (s : Scan) : List (Int × Text) :=
  s.reports.map fun r ↦ ((r.line : Int), r.fault.message)

/-! ## The turns of a scan -/

namespace Reporting

variable {σ : Type} {sink : Sink σ} {o : Options} {file t : Text} {s : Reporting σ} {w : Cursor}

/-- The scan behind the turns of a cursor. -/
def tell (sink : Sink σ) (file : Text) (s : Reporting σ) (w : Cursor) : Reporting σ :=
  w.reports.foldl (handOn sink file) { s with cursor := w }

theorem cursor_tell : (s.tell sink file w).cursor = w := by
  rw [tell, foldl_handOn]

/-- **One turn tells what it has found**, behind all that was told before.  A turn of a `Reporting`
hands on what its cursor has written down in this turn, so it is enough to know that a turn writes
behind what is there. -/
theorem turn_tell : (s.tell sink file w).turn sink o file t =
    (w.step o t).map (s.tell sink file) := by
  rw [turn, cursor_tell]
  cases hstep : w.step o t with
  | none => rfl
  | some w' =>
    -- the turn hands on what the cursor has written down behind the reports told before
    obtain ⟨rs, hrs⟩ := Cursor.reports_isPrefix_of_step hstep
    have hcursor : { s.tell sink file w with cursor := w' } =
        w.reports.foldl (handOn sink file) { s with cursor := w' } := by
      rw [tell, foldl_handOn, foldl_handOn]
    rw [Option.map_some, Option.map_some, ← hrs, List.drop_left, hcursor, ← List.foldl_append, hrs,
      tell]

theorem run_of_finished (hs : s.cursor.mode = .finished) : s.run sink o file t = some s := by
  rw [run, dif_pos hs]

theorem run_of_turn (hs : s.cursor.mode ≠ .finished) :
    s.run sink o file t = (s.turn sink o file t).bind (run sink o file t) := by
  rw [run, dif_neg hs]
  split
  · next h => rw [h, Option.bind_none]
  · next s' h => rw [h, Option.bind_some]

/-- **All turns tell what was found**, in the order in which it was found. -/
theorem run_tell (s : Reporting σ) (w : Cursor) : (s.tell sink file w).run sink o file t =
    (w.run o t).map (s.tell sink file) := by
  fun_induction Cursor.run o t w with
  | case1 w hw =>
    refine run_of_finished ?_
    rwa [cursor_tell]
  | case2 w hw hstep =>
    rw [run_of_turn (cursor_tell ▸ hw), turn_tell, hstep]
    rfl
  | case3 w hw w' hstep ih =>
    rw [run_of_turn (cursor_tell ▸ hw), turn_tell, hstep, ← ih]
    rfl

/-- What a whole scan tells.  It does not matter what was scanned before. -/
theorem exists_scan_eq (sink : Sink σ) (o : Options) (file t : Text) (s : Reporting σ) :
    ∃ w, s.scan sink o file t =
      some ({ s with
        held := (Scan.ofText o t).told.foldl (fun held p ↦ sink held p.1 p.2) s.held
        cursor := w
        reportCount := (Scan.ofText o t).reports.length
        log := s.log ++ (Scan.ofText o t).log file t }, (Scan.ofText o t).tokens) := by
  obtain ⟨w, hw, hscan⟩ := Cursor.exists_run_eq o t
  have hrun : (s.start file t).run sink o file t = some ((s.start file t).tell sink file w) := by
    have hstart : s.start file t = (s.start file t).tell sink file {} := rfl
    rw [hstart, run_tell, ← hstart, hw, Option.map_some]
  refine ⟨w, ?_⟩
  rw [scan, hrun, Option.map_some, tell, foldl_handOn, ← hscan]
  simp [finish, start, note, Scan.log, Scan.told, List.foldl_map]

end Reporting

/-- Findings that are called with what a scan tells take up the scan. -/
theorem Findings.foldl_report_told (f : Findings) (s : Scan) :
    s.told.foldl (fun f p ↦ f.report p.1 p.2) f = f.addScan s := by
  rw [addScan_eq_foldl, Scan.told, List.foldl_map]

end LoxTokens
