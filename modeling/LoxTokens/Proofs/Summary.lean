import LoxTokens.Proofs.Calls
import LoxTokens.Proofs.Quotation
import LoxTokens.Text.Delimiting

/-!
# The summary of a scan

`Findings.summary` tells the diagnostics one behind the other and quotes source lines as they are,
so that a line of source may look like anything that `format_report` itself writes.  This file shows
that the diagnostics of a scan can be told from their summary nevertheless, if the file is known.

* `Findings.Quotes file d` — what is true of every diagnostic of a scan: its message is that of a
  fault, it knows its place, and it quotes a line, which has no line feed in it.
* `Findings.delimits_text` — behind the name of the file, the colon ends the number of the line, and
  line feeds end the message and the quoted line.  The message tells the fault, and with it whether
  a hint follows.
* `Findings.getLast?_lines_summary` — the last line tells the number of the diagnostics.  It has no
  line feed, so it does not begin like one more diagnostic.

The name of the file has to be the same for both scans.  It may hold anything, a colon included, and
is the only part of a diagnostic that has no end of its own.
-/

set_option autoImplicit false

namespace LoxTokens

/-- There is no line feed in a message. -/
theorem Fault.not_mem_message (f : Fault) : '\n' ∉ f.message := by
  cases f <;> decide

namespace Findings

variable {o : Options} {file t : Text} {d : Diagnostic}

/-! ## One diagnostic -/

/-- A diagnostic for a fault in the given file, with the source line.  An error that somebody else
has added need not be like this; so only summaries of scans are told apart. -/
inductive Quotes (file : Text) : Diagnostic → Prop
  | problem (fault : Fault) (line : Nat) {quoted : Text} (hquoted : '\n' ∉ quoted) :
      Quotes file (.problem ⟨.fault fault, fault.message, some ⟨file, line⟩, some quoted⟩)

/-- What tells a report quotes a line. -/
theorem Tells.quotes {p : Nat × Report} (h : Tells o file t p d) : Quotes file d := by
  cases h with
  | @problem p n fault quoted hn hquote _ =>
    obtain ⟨l, hl, rfl⟩ := Option.map_eq_some_iff.1 hquote
    have hfeed : '\n' ∉ l := Text.not_mem_of_mem_fields (List.mem_of_getElem? hl)
    exact .problem fault n fun hmem ↦ hfeed (Text.mem_of_mem_dropTrailing hmem)

/-- The diagnostics of a scan quote lines of its text. -/
theorem quotes_of_mem_addScan (o : Options) (file t : Text) :
    ∀ d ∈ ((ofSource (some t) file).addScan (.ofText o t)).diagnostics, Quotes file d := by
  intro d hd
  rw [addScan, Scan.reports_eq_reportsAt] at hd
  obtain ⟨_, hreport, rfl⟩ := List.mem_map.1 hd
  obtain ⟨⟨p, r⟩, hmem, rfl⟩ := List.mem_map.1 hreport
  obtain ⟨x, hx, hr⟩ := Scan.mem_reportsAt_iff.1 hmem
  exact (tells_of_reportAt hx hr).quotes

/-- The lines behind the quoted one: the hint, if there is one, and a blank line. -/
def closing (fault : Fault) : Text :=
  (fault.hint.elim [] fun hint ↦ "hint: ".toList ++ hint ++ ['\n']) ++ ['\n']

/-- A diagnostic from left to right. -/
theorem text_problem (fault : Fault) (file : Text) (line : Nat) (quoted : Text) :
    (Diagnostic.problem ⟨.fault fault, fault.message, some ⟨file, line⟩, some quoted⟩).text
        ++ ['\n', '\n'] =
      file ++ ':' :: (Decimal.ofNat line ++ ':' :: (" error: ".toList ++
        (fault.message ++ '\n' :: ("    ".toList ++ (quoted ++ '\n' :: closing fault))))) := by
  have hlines : Problem.lines ⟨.fault fault, fault.message, some ⟨file, line⟩, some quoted⟩ =
      [file ++ ':' :: Decimal.ofNat line ++ ": ".toList ++ "error: ".toList ++ fault.message,
        "    ".toList ++ quoted] ++ (fault.hint.map ("hint: ".toList ++ ·)).toList := by
    cases fault <;> rfl
  have hplace : ": ".toList ++ "error: ".toList = ':' :: " error: ".toList := rfl
  rw [Diagnostic.text, Problem.text, hlines, closing]
  cases fault.hint with
  | none =>
    simp only [Option.map_none, Option.toList_none, List.append_nil, List.intercalate_cons_cons,
      List.intercalate_singleton, Option.elim_none, List.append_assoc, List.cons_append]
    rw [← List.append_assoc ": ".toList, hplace]
    rfl
  | some hint =>
    simp only [Option.map_some, Option.toList_some, List.cons_append, List.nil_append,
      List.intercalate_cons_cons, List.intercalate_singleton, Option.elim_some, List.append_assoc]
    rw [← List.append_assoc ": ".toList, hplace]
    rfl

/-- **A diagnostic tells where it ends, and all that is in it**, whatever it quotes.  The message is
one of three and has no line feed in it, so it is known where the quoted line begins, whatever that
line holds. -/
theorem delimits_text (file : Text) :
    Text.Delimits (fun d : Diagnostic ↦ d.text ++ ['\n', '\n']) id (Quotes file) := by
  intro a b ha hb s t h
  obtain ⟨fault, line, hquoted⟩ := ha
  obtain ⟨fault', line', hquoted'⟩ := hb
  dsimp only at h
  rw [text_problem, text_problem] at h
  simp only [List.append_assoc, List.cons_append] at h
  -- The name of the file may hold anything, but it is the same on both sides.
  have hplace := (List.cons.inj (List.append_cancel_left h)).2
  obtain ⟨hline, hrest⟩ := (Text.append_cons_inj (Decimal.not_mem_ofNat rfl line)
    (Decimal.not_mem_ofNat rfl line')).1 hplace
  obtain ⟨hmessage, hquote⟩ := (Text.append_cons_inj fault.not_mem_message
    fault'.not_mem_message).1 (List.append_cancel_left hrest)
  obtain ⟨rfl, hclosing⟩ :=
    (Text.append_cons_inj hquoted hquoted').1 (List.append_cancel_left hquote)
  obtain rfl := Decimal.ofNat_inj.1 hline
  -- The message tells the fault, and the fault settles whether a hint comes next.
  obtain rfl := Fault.message_inj.1 hmessage
  exact ⟨rfl, List.append_cancel_left hclosing⟩

/-! ## The summary -/

/-- The line that tells how many diagnostics there are. -/
def countLine (n : Nat) : Text :=
  Decimal.ofNat n ++ (if n = 1 then " error" else " errors").toList

theorem not_mem_countLine (n : Nat) : '\n' ∉ countLine n := by
  rw [countLine, List.mem_append, not_or]
  refine ⟨Decimal.not_mem_ofNat rfl n, ?_⟩
  split <;> decide

theorem summary_eq (f : Findings) :
    f.summary = (f.diagnostics.flatMap fun d ↦ d.text ++ ['\n', '\n']) ++
      countLine f.diagnostics.length := by
  rw [summary, List.append_assoc]
  rfl

/-- The last line of the summary is the one that tells the number. -/
theorem getLast?_lines_summary (f : Findings) :
    (Text.lines f.summary).getLast? = some (countLine f.diagnostics.length) := by
  have hcount := Text.lines_of_not_mem (not_mem_countLine f.diagnostics.length)
  rw [summary_eq]
  rcases List.eq_nil_or_concat f.diagnostics with hnil | ⟨ds, d, hds⟩
  · rw [hnil] at hcount ⊢
    rw [List.flatMap_nil, List.nil_append, hcount]
    rfl
  · have hblank : (f.diagnostics.flatMap fun d ↦ d.text ++ ['\n', '\n']) =
        (ds.flatMap fun d ↦ d.text ++ ['\n', '\n']) ++ d.text ++ ['\n'] ++ ['\n'] := by
      simp [hds]
    rw [hblank, List.append_assoc, List.singleton_append, Text.lines_append_feed, hcount,
      List.getLast?_concat]

/-- Two summaries for the same file are of the same diagnostics, if these quote lines. -/
theorem summary_inj {f g : Findings} (hf : ∀ d ∈ f.diagnostics, Quotes file d)
    (hg : ∀ d ∈ g.diagnostics, Quotes file d) :
    f.summary = g.summary ↔ f.diagnostics = g.diagnostics := by
  have hfeed (n : Nat) (d : Diagnostic) (_ : Quotes file d) :
      ¬ d.text ++ ['\n', '\n'] <+: countLine n :=
    fun h ↦ not_mem_countLine n (h.subset (List.mem_append_right _ List.mem_cons_self))
  rw [summary_eq, summary_eq]
  constructor
  · intro h
    have hall := (delimits_text file).map_eq hf hg (hfeed _) (hfeed _) h
    simpa using hall.1
  · intro h
    rw [h]

/-- **The summary is unambiguous.**  Take two texts, read from the same file and scanned under any
options by two readers.  The findings of the readers have the same summary just if they are the same
diagnostics: faults, lines, messages, quoted lines and hints agree one by one.  Their number is the
one that the last line of the summary tells. -/
theorem summary_eq_iff_of_scan (file : Text) (o o' : Options) (t t' : Text) :
    ∃ n i n' i', (Reader.ofSource t file o).scan = some (n, i) ∧
      (Reader.ofSource t' file o').scan = some (n', i') ∧
      n.findings = (ofSource (some t) file).addScan (.ofText o t) ∧
      n'.findings = (ofSource (some t') file).addScan (.ofText o' t') ∧
      (n.findings.summary = n'.findings.summary ↔
        n.findings.diagnostics = n'.findings.diagnostics) ∧
      (Text.lines n.findings.summary).getLast? =
        some (Decimal.ofNat n.findings.diagnostics.length ++
          (if n.findings.diagnostics.length = 1 then " error" else " errors").toList) := by
  obtain ⟨n, i, hscan, -, -, -, hfindings⟩ := Reader.exists_scan_new t file o
  obtain ⟨n', i', hscan', -, -, -, hfindings'⟩ := Reader.exists_scan_new t' file o'
  refine ⟨n, i, n', i', hscan, hscan', hfindings, hfindings', ?_, getLast?_lines_summary _⟩
  rw [hfindings, hfindings']
  exact summary_inj (quotes_of_mem_addScan o file t) (quotes_of_mem_addScan o' file t')

end Findings

end LoxTokens
