import LoxTokens.Command.Run
import LoxTokens.Proofs.Decoding
import LoxTokens.Proofs.Rescanning

/-!
# Calls of the command

A `Call` is all that the command sees of the world: its arguments, what paths name, the environment
and the standard input.  This file says what a call that dumps the tokens of a source does, without
going through the arguments one by one.

* `Arguments.Spells flags others arguments` — how options and other arguments can be written, in any
  order and as often as one likes.  What is spelled is what is read (`Arguments.read_of_spells`).
* `Call.Dumps c flags name bytes` — the call `c` is for the tokens of a source that is shown under
  `name` and consists of `bytes`.  All that is proved of the output of calls has this for its
  hypothesis, and the arguments do not come up again.
* `Findings.failure?_addScan` — the diagnostics of a scan are raised just if it has reports.

The main result brings these together with the scan of a `Reader`: for every text that bytes can
spell, it gives the exit, the output and the error stream.  It is the account of `main` from
`read_source` to the exit: a `Scanner` with an `ErrorCollector` goes through the text, its tokens
are printed, and `raise_if_errors` either does nothing or raises the summary, which
`handle_cli_exception` prints as it is, with `LEXICAL_ERROR` for the exit.  The tokens are printed
first, and so they are printed in either case.
-/

set_option autoImplicit false

namespace LoxTokens

/-! ## How arguments are spelled -/

namespace Arguments

/-- The arguments spell the options `flags` and the others, both in this order.  A letter can be
repeated behind one dash, as in `-vv`, and what comes behind `--` is no option. -/
inductive Spells : (flags : List Flag) → (others arguments : List Text) → Prop
  | nil : Spells [] [] []
  /-- Behind two dashes there are no options. -/
  | dashes (others : List Text) : Spells [] others (['-', '-'] :: others)
  /-- An option by its name. -/
  | name {flags : List Flag} {others arguments : List Text} {word : Text} {flag : Flag}
      (hword : (word, flag) ∈ Flag.names) (h : Spells flags others arguments) :
      Spells (flag :: flags) others (word :: arguments)
  /-- The one letter that is an option, any number of times. -/
  | letters {flags : List Flag} {others arguments : List Text} (n : Nat)
      (h : Spells flags others arguments) :
      Spells (List.replicate (n + 1) .verbose ++ flags) others
        (('-' :: List.replicate (n + 1) 'v') :: arguments)
  /-- An argument that is no option. -/
  | other {flags : List Flag} {others arguments : List Text} {argument : Text}
      (hargument : argument.head? ≠ some '-' ∨ argument = ['-'])
      (h : Spells flags others arguments) :
      Spells flags (argument :: others) (argument :: arguments)

theorem readLetters_replicate (n : Nat) :
    readLetters (List.replicate n 'v') = .ok (List.replicate n .verbose) := by
  induction n with
  | zero => rfl
  | succ n ih =>
    rw [List.replicate_succ, readLetters, show Flag.letters.lookup 'v' = some .verbose from rfl, ih]
    rfl

theorem readOption_letters (n : Nat) :
    readOption ('-' :: List.replicate (n + 1) 'v') = .ok (List.replicate (n + 1) .verbose) := by
  have hname : ('-' :: List.replicate (n + 1) 'v').takeWhile (· != '=') =
      '-' :: List.replicate (n + 1) 'v' := by
    simp
  have hlookup : Flag.names.lookup ('-' :: List.replicate (n + 1) 'v') = none := by
    simp [List.lookup_eq_none_iff, Flag.names, List.replicate_succ]
  rw [readOption, hname, hlookup]
  exact readLetters_replicate (n + 1)

/-- An argument that begins with a dash stands for the options in it. -/
theorem read_cons_of_readOption {argument : Text} {arguments others : List Text}
    {flags more : List Flag} (hdash : argument.head? = some '-') (hone : argument ≠ ['-'])
    (htwo : argument ≠ ['-', '-']) (hoption : readOption argument = .ok more)
    (h : read arguments = .ok ⟨flags, others⟩) :
    read (argument :: arguments) = .ok ⟨more ++ flags, others⟩ := by
  rw [read, if_neg htwo, if_pos (by simp [hdash, hone]), hoption, h]
  rfl

/-- **What the arguments spell is what is read in them.** -/
theorem read_of_spells {flags : List Flag} {others arguments : List Text}
    (h : Spells flags others arguments) : read arguments = .ok ⟨flags, others⟩ := by
  induction h with
  | nil => rfl
  | dashes others => rw [read, if_pos rfl]
  | @name flags others arguments word flag hword _ ih =>
    have hnames : ∀ p ∈ Flag.names, p.1.head? = some '-' ∧ p.1 ≠ ['-'] ∧ p.1 ≠ ['-', '-'] ∧
        readOption p.1 = .ok [p.2] := by decide
    obtain ⟨hdash, hone, htwo, hoption⟩ := hnames _ hword
    exact read_cons_of_readOption hdash hone htwo hoption ih
  | letters n _ ih =>
    exact read_cons_of_readOption rfl (by simp) (by simp [List.replicate_succ])
      (readOption_letters n) ih
  | @other flags others arguments argument hargument _ ih =>
    have hone : ¬ (argument.head? = some '-' ∧ argument ≠ ['-']) := by tauto
    have htwo : argument ≠ ['-', '-'] := by
      rintro rfl
      simp at hargument
    rw [read, if_neg htwo, if_neg (by simpa using hone), ih]
    rfl

end Arguments

/-! ## Which requests are for tokens -/

/-- A file stands for itself, unless its path is shown as a dash. -/
theorem Source.ofArgument_of_file {resolve : Text → Option Node} {path : Text}
    {bytes : List UInt8} (h : resolve path = some (.file bytes)) :
    ofArgument resolve path = .ok
      (if Path.normalise path = ['-'] then standardInput
        else file (Path.normalise path) bytes) := by
  rw [ofArgument, h]
  split
  · next hdash =>
    subst hdash
    rfl
  · rfl

/-- Sorted arguments are for the tokens of a source, just if no option asks for something else and
there is one argument besides, which names the source. -/
theorem Request.ofSorted_eq_dump_iff {resolve : Text → Option Node} {a : Arguments}
    {flags : List Flag} {source : Source} :
    ofSorted resolve a = .dump flags source ↔
      (∀ flag ∈ flags, flag ≠ .version ∧ flag ≠ .help) ∧
        ∃ argument, a = ⟨flags, [argument]⟩ ∧ Source.ofArgument resolve argument = .ok source := by
  have hfind (flags : List Flag) :
      flags.find? (fun flag ↦ flag = .help || flag = .version) = none ↔
        ∀ flag ∈ flags, flag ≠ .version ∧ flag ≠ .help := by
    simp [and_comm]
  constructor
  · intro h
    obtain ⟨given, others⟩ := a
    rw [ofSorted] at h
    split at h
    · exact absurd h nofun
    · exact absurd h nofun
    · next hnone =>
      cases others with
      | nil => exact absurd h nofun
      | cons argument extra =>
        dsimp only at h
        cases hsource : Source.ofArgument resolve argument with
        | error r =>
          rw [hsource] at h
          exact absurd h nofun
        | ok found =>
          rw [hsource] at h
          dsimp only at h
          split at h
          · next hextra =>
            injection h with hflags hfound
            subst hflags hfound hextra
            exact ⟨(hfind given).1 hnone, argument, rfl, hsource⟩
          · exact absurd h nofun
  · rintro ⟨hflags, argument, rfl, hsource⟩
    rw [ofSorted, (hfind flags).2 hflags]
    dsimp only
    rw [hsource]
    rfl

/-- A request is for the tokens of a source, just if the arguments can be read and are for it. -/
theorem Request.ofArguments_eq_dump_iff {resolve : Text → Option Node} {arguments : List Text}
    {flags : List Flag} {source : Source} :
    ofArguments resolve arguments = .dump flags source ↔
      (∀ flag ∈ flags, flag ≠ .version ∧ flag ≠ .help) ∧
        ∃ argument, Arguments.read arguments = .ok ⟨flags, [argument]⟩ ∧
          Source.ofArgument resolve argument = .ok source := by
  rw [ofArguments]
  cases hread : Arguments.read arguments with
  | error r => simp
  | ok a => simp [ofSorted_eq_dump_iff]

/-!
## What a call dumps

The source is named by one argument, in one of three ways: by `-`, by the path of a file that is
shown otherwise, and by the path of a file that is shown as `-`, for which the standard input is
read nevertheless.  Which paths these are is the matter of `LoxTokens.Proofs.Sources`.
-/

/-- What the command is given.  There is nothing else that `main` could depend on. -/
structure Call where
  arguments : List Text
  /-- What a path names. -/
  resolve : Text → Option Node
  env : Environment
  /-- The bytes of the standard input. -/
  input : List UInt8

namespace Call

variable {c : Call} {flags : List Flag} {name : Text} {bytes : List UInt8}

/-- What the command does. -/
def outcome (c : Call) : Outcome :=
  (Request.ofArguments c.resolve c.arguments).outcome c.env c.input

/-- What the source of a call is, by the argument that names it. -/
inductive Reads (c : Call) : (argument name : Text) → (bytes : List UInt8) → Prop
  /-- A dash stands for the standard input. -/
  | standardInput : Reads c ['-'] "<stdin>".toList c.input
  /-- A path stands for the file that it names, which is shown under this path. -/
  | file {path : Text} {bytes : List UInt8} (hpath : c.resolve path = some (.file bytes))
      (hname : Path.normalise path ≠ ['-']) : Reads c path (Path.normalise path) bytes
  /-- A file that would be shown as a dash gives way to the standard input. -/
  | dash {path : Text} {bytes : List UInt8} (hpath : c.resolve path = some (.file bytes))
      (hname : Path.normalise path = ['-']) : Reads c path "<stdin>".toList c.input

/-- The call is for the tokens of the source that is shown under `name` and consists of `bytes`. -/
structure Dumps (c : Call) (flags : List Flag) (name : Text) (bytes : List UInt8) : Prop where
  /-- Besides the options there is one argument. -/
  spells : ∃ argument, Arguments.Spells flags [argument] c.arguments ∧ c.Reads argument name bytes
  /-- No option asks for something else. -/
  dumps : ∀ flag ∈ flags, flag ≠ .version ∧ flag ≠ .help

/-- An argument that stands for a source is taken for it. -/
theorem Reads.exists_source {argument : Text} (h : c.Reads argument name bytes) :
    ∃ source, Source.ofArgument c.resolve argument = .ok source ∧
      ∀ flags, (Request.dump flags source).outcome c.env c.input =
        Request.dumpOutcome flags c.env name bytes := by
  cases h with
  | standardInput => exact ⟨_, rfl, fun _ ↦ rfl⟩
  | file hpath hname =>
    rw [Source.ofArgument_of_file hpath, if_neg hname]
    exact ⟨_, rfl, fun _ ↦ rfl⟩
  | dash hpath hname =>
    rw [Source.ofArgument_of_file hpath, if_pos hname]
    exact ⟨_, rfl, fun _ ↦ rfl⟩

/-- The bytes of the source decide what the call does. -/
theorem outcome_eq_dumpOutcome (h : c.Dumps flags name bytes) :
    c.outcome = Request.dumpOutcome flags c.env name bytes := by
  obtain ⟨⟨argument, hspells, hreads⟩, hdumps⟩ := h
  obtain ⟨source, hsource, houtcome⟩ := hreads.exists_source
  have hrequest : Request.ofArguments c.resolve c.arguments = .dump flags source :=
    Request.ofArguments_eq_dump_iff.2
      ⟨hdumps, argument, Arguments.read_of_spells hspells, hsource⟩
  rw [outcome, hrequest, houtcome]

end Call

/-!
## What a dump does

What is left is a function of the bytes, the flags and the environment.  First the log and the
tokens, then the diagnostics, each as an equation.
-/

/-- The diagnostics of a scan are raised just if there are any. -/
theorem Findings.failure?_addScan (source : Option Text) (file : Text) (s : Scan) :
    ((Findings.ofSource source file).addScan s).failure? =
      if s.reports = [] then none
      else some (.failure ((Findings.ofSource source file).addScan s).summary
        ((Findings.ofSource source file).addScan s).diagnostics) := by
  rw [failure?]
  by_cases h : s.reports = [] <;> simp [isEmpty, addScan, ofSource, h]

namespace Request

variable {flags : List Flag} {env : Environment} {name t : Text}

theorem logged_eq (flags : List Flag) (lines : List Text) :
    logged flags lines =
      if .verbose ∈ flags then lines.flatMap fun line ↦ "DEBUG: ".toList ++ line ++ ['\n']
      else [] := by
  simp only [logged, List.contains_iff_mem]

theorem tokenText_eq (flags : List Flag) (tokens : List Token) :
    tokenText flags tokens =
      if .json ∈ flags then echo (Token.jsonArray tokens)
      else tokens.flatMap fun k ↦ echo k.plain := by
  simp only [tokenText, List.contains_iff_mem]

/-- Of a failure the user is told its message. -/
theorem report_failure (verbose : Bool) (message : Text) (causes : List Diagnostic) :
    (Failure.diagnostic (.failure message causes)).report verbose = echo message := by
  have hexit : (Failure.diagnostic (.failure message causes)).exit = .lexicalError := rfl
  have hmessage : (Failure.diagnostic (.failure message causes)).message = message := rfl
  have htrace : ¬ (verbose && decide (Exit.lexicalError = .internalError)) = true := by
    cases verbose <;> decide
  rw [Failure.report, hexit, hmessage, if_neg htrace]
  exact List.append_nil _

/-- Bytes that spell a text have the outcome for this text, with every line break written as a line
feed. -/
theorem dumpOutcome_encode (flags : List Flag) (env : Environment) (name t : Text) :
    dumpOutcome flags env name (Utf8.encode t) =
      scanOutcome flags env name (Text.unifyBreaks t) := by
  rw [dumpOutcome, Utf8.decode_encode]

/-- The outcome for a text, by the scan of it. -/
theorem scanOutcome_eq (flags : List Flag) (env : Environment) (name source : Text) :
    scanOutcome flags env name source =
      let o := options flags env
      let s := Scan.ofText o source
      { exit := if s.reports = [] then .success else .lexicalError
        output := tokenText flags s.tokens
        error := logged flags
            (Options.environmentLog env ++ ["options: ".toList ++ o.text] ++ s.log name source)
          ++ if s.reports = [] then []
            else echo ((Findings.ofSource source name).addScan s).summary } := by
  rw [scanOutcome, Findings.failure?_addScan]
  by_cases h : (Scan.ofText (options flags env) source).reports = []
  · dsimp only
    rw [if_pos h, if_pos h, if_pos h, List.append_nil]
  · dsimp only
    rw [if_neg h, if_neg h, if_neg h]
    dsimp only
    rw [report_failure]
    rfl

end Request

/-- What a reader holds that has scanned for the first time, and the tokens that it hands over. -/
theorem Reader.exists_scan_new (source file : Text) (o : Options) :
    ∃ n i, (ofSource source file o).scan = some (n, i) ∧
      n.lists[i]? = some (Scan.ofText o source).tokens ∧
      n.reportCount = (Scan.ofText o source).reports.length ∧
      n.log = (Scan.ofText o source).log file source ∧
      n.findings = (Findings.ofSource source file).addScan (.ofText o source) := by
  obtain ⟨w, hw⟩ := exists_scan_eq (ofSource source file o)
  exact ⟨_, _, hw, rfl, rfl, rfl, rfl⟩

namespace Call

variable {c : Call} {flags : List Flag} {name t : Text}

/-- The text that a call for a source that spells `t` scans. -/
theorem outcome_eq_scanOutcome (h : c.Dumps flags name (Utf8.encode t)) :
    c.outcome = Request.scanOutcome flags c.env name (Text.unifyBreaks t) := by
  rw [outcome_eq_dumpOutcome h, Request.dumpOutcome_encode]

/-- The output of a call for a source that spells `t` is made of the tokens of `t`. -/
theorem output_eq_tokenText (h : c.Dumps flags name (Utf8.encode t)) :
    c.outcome.output =
      Request.tokenText flags
        (Scan.ofText (Request.options flags c.env) (Text.unifyBreaks t)).tokens := by
  rw [outcome_eq_scanOutcome h, Request.scanOutcome_eq]

/-- Where the source comes from and whether the log is asked for makes no difference to the output
and the exit. -/
theorem output_eq_and_exit_eq {c' : Call} {flags' : List Flag} {name' : Text}
    (h : c.Dumps flags name (Utf8.encode t)) (h' : c'.Dumps flags' name' (Utf8.encode t))
    (henv : Options.ofEnvironment c'.env = Options.ofEnvironment c.env)
    (hflags : ∀ flag, flag ≠ .verbose → (flag ∈ flags' ↔ flag ∈ flags)) :
    c'.outcome.output = c.outcome.output ∧ c'.outcome.exit = c.outcome.exit := by
  have hcontains {flag : Flag} (hflag : flag ≠ .verbose) :
      flags'.contains flag = flags.contains flag := by
    rw [Bool.eq_iff_iff, List.contains_iff_mem, List.contains_iff_mem, hflags flag hflag]
  have hoptions : Request.options flags' c'.env = Request.options flags c.env := by
    rw [Request.options, Request.options, henv, hcontains (by decide), hcontains (by decide)]
  have htokens (ks : List Token) : Request.tokenText flags' ks = Request.tokenText flags ks := by
    rw [Request.tokenText, Request.tokenText, hcontains (by decide)]
  rw [outcome_eq_scanOutcome h, outcome_eq_scanOutcome h', Request.scanOutcome_eq,
    Request.scanOutcome_eq, hoptions]
  exact ⟨htokens _, rfl⟩

/-- **What a call for the tokens of a text does.**  Let the source spell the text `t`.  The command
has a reader scan `t`, with every line break written as a line feed, under the options of the
environment less those that are switched off.  The output holds the tokens, and the exit says
whether there are reports.  On the error stream follow each other the log, if it is asked for, and
the summary of the findings, if there are any.  Another call for the same text with the same options
does not differ in output and exit. -/
theorem outcome_of_readable (h : c.Dumps flags name (Utf8.encode t)) :
    let o := Request.options flags c.env
    let source := Text.unifyBreaks t
    let s := Scan.ofText o source
    ∃ n i, (Reader.ofSource source name o).scan = some (n, i) ∧
      n.lists[i]? = some s.tokens ∧ n.reportCount = s.reports.length ∧
      n.log = s.log name source ∧ n.findings = (Findings.ofSource source name).addScan s ∧
      c.outcome.output = (if .json ∈ flags then echo (Token.jsonArray s.tokens)
        else s.tokens.flatMap fun k ↦ echo k.plain) ∧
      c.outcome.exit.code = (if n.reportCount = 0 then 0 else 1) ∧
      c.outcome.error =
        (if .verbose ∈ flags then
          (Options.environmentLog c.env ++ ["options: ".toList ++ o.text] ++ n.log).flatMap
            fun line ↦ "DEBUG: ".toList ++ line ++ ['\n']
        else []) ++
        (if n.reportCount = 0 then [] else echo n.findings.summary) ∧
      ∀ {c' : Call} {flags' : List Flag} {name' : Text},
        c'.Dumps flags' name' (Utf8.encode t) →
        Options.ofEnvironment c'.env = Options.ofEnvironment c.env →
        (∀ flag, flag ≠ .verbose → (flag ∈ flags' ↔ flag ∈ flags)) →
        c'.outcome.output = c.outcome.output ∧ c'.outcome.exit = c.outcome.exit := by
  intro o source s
  obtain ⟨n, i, hscan, htokens, hcount, hlog, hfindings⟩ := Reader.exists_scan_new source name o
  have houtcome := outcome_eq_scanOutcome h
  rw [Request.scanOutcome_eq] at houtcome
  have hnone : n.reportCount = 0 ↔ s.reports = [] := by rw [hcount, List.length_eq_zero_iff]
  refine ⟨n, i, hscan, htokens, hcount, hlog, hfindings, ?_, ?_, ?_, output_eq_and_exit_eq h⟩
  · rw [houtcome]
    exact Request.tokenText_eq flags s.tokens
  · rw [houtcome]
    by_cases hs : s.reports = []
    · rw [if_pos (hnone.2 hs)]
      exact congrArg Exit.code (if_pos hs)
    · rw [if_neg (hnone.not.2 hs)]
      exact congrArg Exit.code (if_neg hs)
  · rw [houtcome, hlog, hfindings, if_congr hnone rfl rfl, ← Request.logged_eq]

/-- Two stars and a stray character on the second line, once in a file and once as standard
input. -/
theorem outcome_of_readable_stars :
    ∃ c c' : Call, c.Dumps [.noExponent, .verbose] ['a'] (Utf8.encode ['*', '*', '\r', '@']) ∧
      c'.Dumps [.noExponent] "<stdin>".toList (Utf8.encode ['*', '*', '\r', '@']) ∧
      Options.ofEnvironment c'.env = Options.ofEnvironment c.env ∧
      (∀ flag : Flag, flag ≠ .verbose →
        (flag ∈ [Flag.noExponent] ↔ flag ∈ [Flag.noExponent, Flag.verbose])) ∧
      c.outcome.output = "STAR * null\nSTAR * null\nEOF  null\n".toList ∧
      c.outcome.exit.code = 1 ∧
      c'.outcome.output = c.outcome.output ∧ c'.outcome.exit = c.outcome.exit := by
  let bytes := Utf8.encode ['*', '*', '\r', '@']
  let c : Call := ⟨["--no-exponent".toList, "-v".toList, "./a".toList],
    fun path ↦ if path = "./a".toList then some (.file bytes) else none, fun _ ↦ none, []⟩
  let c' : Call := ⟨["-".toList, "--no-exponent".toList], fun _ ↦ none, fun _ ↦ none, bytes⟩
  have hc : c.Dumps [.noExponent, .verbose] ['a'] bytes := by
    refine ⟨⟨"./a".toList, ?_, .file rfl (by decide)⟩, by decide⟩
    exact .name (by decide) (.letters 0 (.other (by decide) .nil))
  have hc' : c'.Dumps [.noExponent] "<stdin>".toList bytes :=
    ⟨⟨['-'], .other (by decide) (.name (by decide) .nil), .standardInput⟩, by decide⟩
  have hflags : ∀ flag : Flag, flag ≠ .verbose →
      (flag ∈ [Flag.noExponent] ↔ flag ∈ [Flag.noExponent, Flag.verbose]) := by
    intro flag hflag
    simp [hflag]
  obtain ⟨n, i, -, -, hcount, -, -, houtput, hexit, -, hother⟩ := outcome_of_readable hc
  refine ⟨c, c', hc, hc', rfl, hflags, ?_, ?_, hother hc' rfl hflags⟩
  · rw [houtput]
    decide +kernel
  · rw [hexit, hcount]
    decide +kernel

end Call

end LoxTokens
