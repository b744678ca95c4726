import LoxTokens.Scan
import LoxTokens.Text.ControlSequence

/-!
# Reports on a console

A `Console` is a `ConsoleReporter`: it tells each report at once, in one line, and remembers that
there was one (`had_error`).  Its state is that memory.  What is written is no part of it, so every
operation also gives the text that it writes.

A line is written without control sequences (`echo`), as every line of the command is.  For a report
of a scan this changes nothing, because there is none in a message (`Console.line_message`).
-/

set_option autoImplicit false

namespace LoxTokens

/-- A text as it is written on a line of its own: without control sequences. -/
def echo (t : Text) : Text := ControlSequence.strip t ++ ['\n']

/-- Whether anything was reported (`ConsoleReporter`). -/
structure Console where
  hadError : Bool := false
  deriving DecidableEq, Repr

namespace Console

/-- The line for a report. -/
def line (line : Int) (message : Text) : Text :=
  echo ("[line ".toList ++ Decimal.ofInt line ++ "] Error: ".toList ++ message)

/-- Tell a report (`report`). -/
def report (_ : Console) (line : Int) (message : Text) : Console × Text :=
  (⟨true⟩, Console.line line message)

/-- Tell the reports of a scan. -/
def addScan (c : Console) (s : Scan) : Console × Text :=
  (⟨c.hadError || !s.reports.isEmpty⟩,
   s.reports.flatMap fun r ↦ Console.line r.line r.fault.message)

/-- Forget that anything was reported (`reset`). -/
def reset (_ : Console) : Console := ⟨false⟩

/-- To tell the reports of a scan is to tell them one after the other. -/
theorem addScan_eq_foldl (c : Console) (s : Scan) :
    c.addScan s = s.reports.foldl
      (fun p r ↦ ((p.1.report r.line r.fault.message).1,
        p.2 ++ (p.1.report r.line r.fault.message).2)) (c, []) := by
  have key : ∀ (rs : List Report) (c : Console) (written : Text),
      rs.foldl (fun p r ↦ ((p.1.report r.line r.fault.message).1,
          p.2 ++ (p.1.report r.line r.fault.message).2)) (c, written)
        = (⟨c.hadError || !rs.isEmpty⟩,
            written ++ rs.flatMap fun r ↦ Console.line r.line r.fault.message) := by
    intro rs
    induction rs with
    | nil => intro c written; simp
    | cons r rs ih => intro c written; rw [List.foldl_cons, ih]; simp [report]
  rw [key, addScan, List.nil_append]

end Console

end LoxTokens
