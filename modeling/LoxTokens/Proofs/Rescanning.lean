import LoxTokens.Proofs.Telling
import LoxTokens.Reader

/-!
# A reader starts over with every scan

A `Scanner` can be scanned again.  Its private fields stay as the last scan has left them, its
source, file, options and reporter may have been assigned since, and whoever was given the tokens of
the last scan may have changed them.  This file shows that none of this matters.

* `Reader.exists_scan_eq` — what a scan does to any reader at all, in one equation.  The loop is
  that of a `Reporting`, so the equation is that of `Reporting.exists_scan_eq`, together with the
  two exchanges of the list of tokens.  Nothing is asked of the cursor, the count or the lists: the
  scan sets them back itself.
* `Reader.exists_after` — over a whole history a reader holds what a `Session` holds that has the
  same history.  A session has no private fields, so nothing of them is ever seen from outside.
* `Reader.exists_step_allFindings` — which steps change what a reporter has recorded.

Both come together in `Reader.scan_after_history`.  The findings have a file and lines of their own
there: a reader quotes from its reporter's source, not from its own.
-/

set_option autoImplicit false

namespace LoxTokens

/-! ## The steps of a session -/

namespace Session

/-- The session after the steps. -/
def after (p : Session) (steps : List Step) : Session := steps.foldl (fun p x ↦ (p.step x).1) p

theorem after_append (p : Session) (xs ys : List Step) :
    p.after (xs ++ ys) = (p.after xs).after ys := List.foldl_append

end Session

namespace Reader

/-! ## A whole scan -/

/-- **What a scan does to a reader.**  It does not matter what the cursor, the count and the lists
were before. -/
theorem exists_scan_eq (s : Reader) : ∃ w,
    s.scan = some ({ s with
      findings := s.findings.addScan (.ofText s.options s.source)
      lists := s.lists ++ [(Scan.ofText s.options s.source).tokens, []]
      own := s.lists.length + 1
      cursor := w
      reportCount := (Scan.ofText s.options s.source).reports.length
      log := s.log ++ (Scan.ofText s.options s.source).log s.file s.source }, s.lists.length) := by
  obtain ⟨w, hscan⟩ :=
    Reporting.exists_scan_eq Findings.report s.options s.file s.source s.reporting
  have hlists (ts : List Token) :
      (s.lists ++ [[]]).modify s.lists.length (· ++ ts) = s.lists ++ [ts] := by
    simp [List.modify_eq_take_drop]
  refine ⟨{ w with tokens := [], reports := [] }, ?_⟩
  rw [scan, hscan, Findings.foldl_report_told]
  simp [takeOver, write, renewList, reporting, hlists]

/-- A reader that has not scanned yet hands over the tokens of its source, and has a diagnostic for
each of its reports. -/
theorem exists_scan_ofSource (source file : Text) (o : Options) :
    ∃ n i, (ofSource source file o).scan = some (n, i) ∧
      n.lists[i]? = some (Scan.ofText o source).tokens ∧
      n.findings = (Findings.ofSource source file).addScan (.ofText o source) := by
  obtain ⟨w, hw⟩ := exists_scan_eq (ofSource source file o)
  exact ⟨_, _, hw, rfl, rfl⟩

/-! ## A whole history -/

/-- The session that a reader carries on, given the tokens handed out last. -/
def session (s : Reader) (handed : List Token) : Session :=
  ⟨s.source, s.file, s.options, s.findings, handed⟩

/-- What a step means in a session.  The lists of tokens are no part of it. -/
def Step.inSession : Step → List Session.Step
  | .scan => [.scan]
  | .setSource t => [.setSource t]
  | .setFile file => [.setFile file]
  | .setOption name value => [.setOption name value]
  | .renewFindings source file => [.renewFindings source file]
  | .clear => [.clear]
  | .empty _ => []

/-- One step of a reader is that of its session. -/
theorem exists_step (s : Reader) (x : Step) (handed : List Token) :
    ∃ s' handed', s.step x = some s' ∧
      (s.session handed).after x.inSession = s'.session handed' := by
  cases x with
  | scan =>
    obtain ⟨w, hw⟩ := exists_scan_eq s
    exact ⟨_, (Scan.ofText s.options s.source).tokens, congrArg (Option.map Prod.fst) hw, rfl⟩
  | _ => exact ⟨_, handed, rfl, rfl⟩

/-- **A reader holds what a session holds** that has the same history. -/
theorem exists_after (s : Reader) (steps : List Step) (handed : List Token) :
    ∃ s' handed', s.after steps = some s' ∧
      (s.session handed).after (steps.flatMap Step.inSession) = s'.session handed' := by
  induction steps generalizing s handed with
  | nil => exact ⟨s, handed, rfl, rfl⟩
  | cons x steps ih =>
    obtain ⟨u, handed, hstep, hsession⟩ := exists_step s x handed
    obtain ⟨s', handed', hafter, hrest⟩ := ih u handed
    refine ⟨s', handed', ?_, ?_⟩
    · rw [after, List.foldlM_cons, hstep]
      exact hafter
    · rw [List.flatMap_cons, Session.after_append, hsession, hrest]

/-- All findings that reports went to, the present ones last. -/
def allFindings (s : Reader) : List Findings := s.former ++ [s.findings]

/-- No step changes former findings, and only two change the present ones. -/
theorem exists_step_allFindings (s : Reader) (x : Step) :
    ∃ s', s.step x = some s' ∧ s.former <+: s'.former ∧
      (x ≠ .scan → x ≠ .clear → s.allFindings <+: s'.allFindings) := by
  cases x with
  | scan =>
    obtain ⟨w, hw⟩ := exists_scan_eq s
    exact ⟨_, congrArg (Option.map Prod.fst) hw, List.prefix_rfl, fun h ↦ absurd rfl h⟩
  | clear => exact ⟨_, rfl, List.prefix_rfl, fun _ h ↦ absurd rfl h⟩
  | renewFindings source file =>
    exact ⟨_, rfl, List.prefix_append _ _, fun _ _ ↦ List.prefix_append _ _⟩
  | _ => exact ⟨_, rfl, List.prefix_rfl, fun _ _ ↦ List.prefix_rfl⟩

/-- **A scan starts over after any history.**  Let a reader begin with any fields, and let anything
happen to it.  Then it holds what a session holds with the same history, and its next scan is that
of a new reader: it hands over a new list with the same tokens, has a diagnostic for each of the
same reports come behind those of the present findings, which name their own file and quote their
own lines, and logs these tokens and reports under the present name of the file.  Apart from a scan,
only forgetting the diagnostics changes any findings, and never former ones. -/
theorem scan_after_history (s : Reader) (steps : List Step) (handed : List Token) :
    ∃ m x, s.after steps = some m ∧ x = Scan.ofText m.options m.source ∧
      (∃ handed', (s.session handed).after (steps.flatMap Step.inSession) = m.session handed') ∧
      (∃ w, m.scan = some ({ m with
        findings := { m.findings with
          diagnostics := m.findings.diagnostics ++ x.reports.map fun r ↦
            .problem ⟨.fault r.fault, r.fault.message, some ⟨m.findings.file, r.line⟩,
              m.findings.sourceLine? r.line⟩ }
        lists := m.lists ++ [x.tokens, []]
        own := m.lists.length + 1
        cursor := w
        reportCount := x.reports.length
        log := m.log ++ x.log m.file m.source }, m.lists.length)) ∧
      (∀ file, ∃ n i, (ofSource m.source file m.options).scan = some (n, i) ∧
        n.lists[i]? = some x.tokens ∧
        n.findings = (Findings.ofSource m.source file).addScan x) ∧
      (∀ n : Int, m.findings.sourceLine? n = none ↔
        ∀ ls, m.findings.source = some ls → n < 1 ∨ ls.length < n) ∧
      (∀ ls, m.findings.source = some ls → ∀ i : Nat,
        m.findings.sourceLine? (i + 1) = ls[i]?.map (Text.dropTrailing (· = '\r'))) ∧
      ∀ y, ∃ m', m.step y = some m' ∧ m.former <+: m'.former ∧
        (y ≠ .scan → y ≠ .clear → m.allFindings <+: m'.allFindings) := by
  obtain ⟨m, handed', hafter, hsession⟩ := exists_after s steps handed
  obtain ⟨w, hscan⟩ := exists_scan_eq m
  refine ⟨m, _, hafter, rfl, ⟨handed', hsession⟩, ⟨w, ?_⟩,
    fun file ↦ exists_scan_ofSource m.source file m.options,
    fun n ↦ Findings.sourceLine?_eq_none_iff, fun ls h ↦ Findings.sourceLine?_succ h,
    exists_step_allFindings m⟩
  simp only [hscan, Findings.addScan, Findings.problem_message]

/-- A reader that is in the middle of a string.  It scans another source, and then goes on with
other findings. -/
theorem scan_after_history_string :
    ∃ m n, after ⟨['"'], ['f'], {}, .ofSource none ['f'], [], [[⟨.string, [], none, 9⟩]], 0,
        ⟨.string, 5, 7, 3, 2, [], []⟩, 9, []⟩
        [.setSource ['"', 'x', '"', '@'], .scan, .empty 1, .renewFindings (some ['a']) ['h']] =
          some m ∧
      m.scan.bind (fun p ↦ p.1.lists[p.2]?) = some
        [⟨.string, ['"', 'x', '"'], some ['x'], 1⟩, ⟨.endOfInput, [], none, 1⟩] ∧
      m.scan.map (fun p ↦ p.1.findings.diagnostics) = some
        [.problem ⟨.fault .unexpectedCharacter, Fault.unexpectedCharacter.message,
          some ⟨['h'], 1⟩, some ['a']⟩] ∧
      m.step (.setFile ['k']) = some n ∧ m.allFindings <+: n.allFindings := by
  obtain ⟨m, x, hafter, hx, ⟨handed, hsession⟩, ⟨w, hscan⟩, -, -, -, hsteps⟩ :=
    scan_after_history ⟨['"'], ['f'], {}, .ofSource none ['f'], [], [[⟨.string, [], none, 9⟩]], 0,
        ⟨.string, 5, 7, 3, 2, [], []⟩, 9, []⟩
      [.setSource ['"', 'x', '"', '@'], .scan, .empty 1, .renewFindings (some ['a']) ['h']] []
  have hsource : m.source = ['"', 'x', '"', '@'] := (congrArg Session.source hsession).symm
  have hoptions : m.options = {} := (congrArg Session.options hsession).symm
  have hfindings : m.findings = .ofSource (some ['a']) ['h'] :=
    (congrArg Session.findings hsession).symm
  obtain rfl : x = ⟨[⟨.string, ['"', 'x', '"'], some ['x'], 1⟩, ⟨.endOfInput, [], none, 1⟩],
      [⟨1, .unexpectedCharacter⟩]⟩ := by
    rw [hx, hsource, hoptions]
    decide +kernel
  obtain ⟨n, hn, -, hkept⟩ := hsteps (.setFile ['k'])
  refine ⟨m, n, hafter, ?_, ?_, hn, hkept nofun nofun⟩
  · simp [hscan]
  · rw [hscan, hfindings]
    rfl

end Reader

end LoxTokens
