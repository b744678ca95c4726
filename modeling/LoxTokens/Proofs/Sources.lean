import LoxTokens.Proofs.Calls

/-!
# Where the text of a call comes from

An argument names the source of a call: `-` is the standard input, and a path is the file that it
names.  Which of the two it is, `read_source` asks of the spelling of the path that is shown
(`Path.normalise`), and a file of the name `-` is shown as `-` too, if its path has no other name in
it.  The check of the argument that comes before asks something else, namely whether the argument is
`-` as it was given.  This file says which calls read the standard input.

* `Path.IsDash` — the paths that are shown as `-`: those that have this one component, and none
  besides but such as stay where they are (`Path.normalise_eq_dash_iff`).
* `Directory.resolve_normalise` — the path that is shown names the same file.
* `Call.Names` — the call is for the tokens of the source that its one argument names.

The main result is that a file is read under the path that is shown, whatever is on the standard
input, unless it is one of those paths (`Call.source_of_argument`).  For these the file is passed
over, and the standard input is read under its own name (`Call.outcome_of_dash_file`): the file has
been found, and is not read.  The way to name such a file is by a path with another name in it, such
as that of its directory.
-/

set_option autoImplicit false

namespace LoxTokens

/-!
## The paths that are shown as a dash

A path is shown as the components that are left of it, behind the slashes that are left at its
front.  So it is shown as `-` just if this is the one component and no slash is left.
-/

namespace Path

/-- The components of a path that are shown. -/
def shown (path : Text) : List Text := (components path).filter fun name ↦ !isIdle name

/-- The path leads from where one is to the name `-`, and no other name is in it.  A dash behind
`./` is such a path, and one behind `a/` or `../` is none. -/
def IsDash (path : Text) : Prop := root path = [] ∧ shown path = [['-']]

instance (path : Text) : Decidable (IsDash path) := inferInstanceAs (Decidable (_ ∧ _))

variable {path : Text}

theorem root_eq_nil_iff : root path = [] ↔ path.head? ≠ some '/' := by
  cases path with
  | nil => simp [root]
  | cons c path =>
    by_cases hc : c = '/'
    · rw [root]
      split <;> simp_all
    · simp [root, hc]

theorem root_eq_nil_or_cons (path : Text) : root path = [] ∨ ∃ s, root path = '/' :: s := by
  rw [root]
  split
  · exact .inl rfl
  · exact .inr ⟨['/'], rfl⟩
  · exact .inr ⟨[], rfl⟩

/-- A component without characters is not shown. -/
theorem nil_not_mem_shown (path : Text) : [] ∉ shown path := by
  intro h
  exact absurd (List.mem_filter.1 h).2 (by decide)

/-- A path that is shown consists of the components that are shown. -/
theorem components_normalise (hroot : root path = []) (hne : shown path ≠ []) :
    components (normalise path) = shown path := by
  have hslash : ∀ name ∈ shown path, '/' ∉ name := fun name h ↦
    Text.not_mem_of_mem_fields (List.mem_filter.1 h).1
  have hfields := Text.fields_intercalate hne hslash
  rw [normalise, hroot, List.nil_append]
  split
  next hnil =>
    -- Only a component without characters would be shown as nothing.
    rw [show ['/'].intercalate (shown path) = [] from hnil] at hfields
    exact absurd (hfields ▸ List.mem_cons_self) (nil_not_mem_shown path)
  next => exact hfields

/-- These are all the paths that are shown as a dash. -/
theorem normalise_eq_dash_iff : normalise path = ['-'] ↔ IsDash path := by
  constructor
  · intro h
    have hroot : root path = [] := by
      refine (root_eq_nil_or_cons path).resolve_right ?_
      rintro ⟨s, hs⟩
      rw [normalise, hs] at h
      exact absurd (List.cons.inj h).1 (by decide)
    have hne : shown path ≠ [] := by
      intro hnil
      rw [normalise, hroot, show (components path).filter _ = [] from hnil] at h
      exact absurd h (by decide)
    have hcomponents := components_normalise hroot hne
    rw [h] at hcomponents
    exact ⟨hroot, hcomponents.symm⟩
  · rintro ⟨hroot, hshown⟩
    rw [normalise, hroot, show (components path).filter _ = [['-']] from hshown]
    rfl

end Path

/-! ## The file that a path names -/

namespace Directory

variable {d : Directory} {path : Text} {bytes : List UInt8}

/-- Only a relative path names a file. -/
theorem resolve_eq_file_iff :
    d.resolve path = some (.file bytes) ↔
      Path.root path = [] ∧ d.follow [] (Path.components path) = some (.file bytes) := by
  rw [Path.root_eq_nil_iff]
  cases path with
  | nil =>
    -- Nothing is no path, and by no components one stays in the directory.
    have hstay : d.follow [] (Path.components []) = some .directory := rfl
    rw [hstay]
    exact ⟨nofun, fun h ↦ absurd h.2 nofun⟩
  | cons c path =>
    by_cases hc : c = '/'
    · subst hc
      refine ⟨fun h ↦ ?_, fun h ↦ absurd rfl h.1⟩
      rw [resolve] at h
      split at h <;> exact absurd h nofun
    · have hresolve : d.resolve (c :: path) = d.follow [] (Path.components (c :: path)) := by
        rw [resolve.eq_def]
        split <;> simp_all
      rw [hresolve]
      simp [hc]

/-- Components that stay where they are can be left out on the way to a file. -/
theorem follow_filter {way names : List Text} (h : d.follow way names = some (.file bytes)) :
    d.follow way (names.filter fun name ↦ !Path.isIdle name) = some (.file bytes) := by
  induction names generalizing way with
  | nil => exact h
  | cons name names ih =>
    rw [follow] at h
    split at h
    next hdirectory =>
      cases hidle : Path.isIdle name with
      | true =>
        rw [List.filter_cons_of_neg (by simp [hidle])]
        rw [Path.step, if_pos hidle] at h
        exact ih h
      | false =>
        rw [List.filter_cons_of_pos (by simp [hidle]), follow, if_pos hdirectory]
        exact ih h
    next => exact absurd h nofun

/-- **The path that is shown names the same file.** -/
theorem resolve_normalise (h : d.resolve path = some (.file bytes)) :
    d.resolve (Path.normalise path) = some (.file bytes) := by
  obtain ⟨hroot, hfollow⟩ := resolve_eq_file_iff.1 h
  have hshown : d.follow [] (Path.shown path) = some (.file bytes) := follow_filter hfollow
  have hne : Path.shown path ≠ [] := by
    intro hnil
    rw [hnil] at hshown
    exact absurd hshown nofun
  have hcomponents := Path.components_normalise hroot hne
  refine resolve_eq_file_iff.2 ⟨Path.root_eq_nil_iff.2 fun hhead ↦ ?_, hcomponents ▸ hshown⟩
  obtain ⟨rest, hrest⟩ := List.head?_eq_some_iff.1 hhead
  rw [hrest] at hcomponents
  exact Path.nil_not_mem_shown path (hcomponents ▸ List.mem_cons_self)

end Directory

/-! ## What a call reads -/

/-- The standard input is read for a dash, and in place of a file whose path is shown as a dash. -/
theorem Source.ofArgument_eq_standardInput_iff {resolve : Text → Option Node} {argument : Text} :
    ofArgument resolve argument = .ok standardInput ↔
      argument = ['-'] ∨ (∃ bytes, resolve argument = some (.file bytes)) ∧
        Path.IsDash argument := by
  rw [← Path.normalise_eq_dash_iff]
  by_cases hdash : argument = ['-']
  · rw [ofArgument, if_pos hdash]
    exact ⟨fun _ ↦ .inl hdash, fun _ ↦ rfl⟩
  · cases hnode : resolve argument with
    | none => simp [ofArgument, hdash, hnode]
    | some node =>
      cases node with
      | directory => simp [ofArgument, hdash, hnode]
      | file bytes =>
        rw [ofArgument_of_file hnode]
        by_cases hname : Path.normalise argument = ['-'] <;> simp [hname, hdash]

/-- Not all bytes have the same tokens, whatever is asked for. -/
theorem Request.dumpOutcome_ne (flags : List Flag) (env : Environment) (name : Text) :
    dumpOutcome flags env name (Utf8.encode []) ≠
      dumpOutcome flags env name (Utf8.encode ['(']) := by
  have htokens (o : Options) :
      tokenText flags (Scan.ofText o []).tokens ≠ tokenText flags (Scan.ofText o ['(']).tokens := by
    rw [tokenText_eq, tokenText_eq]
    rcases o with ⟨_ | _, _ | _⟩ <;> split <;> decide +kernel
  intro h
  rw [dumpOutcome_encode, dumpOutcome_encode, scanOutcome_eq, scanOutcome_eq] at h
  exact htokens _ (congrArg Outcome.output h)

namespace Call

/-- The call is for the tokens of the source that `argument` names: it is the only argument besides
the options, none of which asks for something else. -/
structure Names (c : Call) (flags : List Flag) (argument : Text) : Prop where
  read : Arguments.read c.arguments = .ok ⟨flags, [argument]⟩
  dumps : ∀ flag ∈ flags, flag ≠ .version ∧ flag ≠ .help

/-- An argument for which the standard input is read. -/
def TakesInput (c : Call) (argument : Text) : Prop :=
  argument = ['-'] ∨ (∃ bytes, c.resolve argument = some (.file bytes)) ∧ Path.IsDash argument

/-- The same call with these bytes on the standard input. -/
def withInput (c : Call) (input : List UInt8) : Call := { c with input }

variable {c : Call} {flags : List Flag} {path : Text} {bytes : List UInt8}

theorem outcome_withInput (c : Call) (input : List UInt8) :
    (c.withInput input).outcome =
      (Request.ofArguments c.resolve c.arguments).outcome c.env input := rfl

theorem Names.ofArguments_eq (h : c.Names flags path) {source : Source}
    (hsource : Source.ofArgument c.resolve path = .ok source) :
    Request.ofArguments c.resolve c.arguments = .dump flags source :=
  Request.ofArguments_eq_dump_iff.2 ⟨h.dumps, path, h.read, hsource⟩

/-- A file is read, if its path is not shown as a dash. -/
theorem Names.outcome_of_file (h : c.Names flags path)
    (hfile : c.resolve path = some (.file bytes)) (hdash : ¬ Path.IsDash path)
    (input : List UInt8) :
    (c.withInput input).outcome =
      Request.dumpOutcome flags c.env (Path.normalise path) bytes := by
  have hsource := Source.ofArgument_of_file hfile
  rw [if_neg (Path.normalise_eq_dash_iff.not.2 hdash)] at hsource
  rw [outcome_withInput, h.ofArguments_eq hsource]
  rfl

/-- The standard input is read under its own name. -/
theorem Names.outcome_of_takesInput (h : c.Names flags path) (hinput : c.TakesInput path)
    (input : List UInt8) :
    (c.withInput input).outcome = Request.dumpOutcome flags c.env "<stdin>".toList input := by
  rw [outcome_withInput, h.ofArguments_eq (Source.ofArgument_eq_standardInput_iff.2 hinput)]
  rfl

/-- Where the standard input is read, it makes a difference. -/
theorem Names.not_forall_outcome_eq (h : c.Names flags path) (hinput : c.TakesInput path)
    (r : Outcome) : ¬ ∀ input, (c.withInput input).outcome = r := by
  intro hall
  refine Request.dumpOutcome_ne flags c.env "<stdin>".toList ?_
  rw [← h.outcome_of_takesInput hinput, ← h.outcome_of_takesInput hinput, hall, hall]

/-- The outcome depends on the standard input just if the standard input is read. -/
theorem exists_outcome_ne_iff :
    (∃ input, (c.withInput input).outcome ≠ c.outcome) ↔
      ∃ flags path, c.Names flags path ∧ c.TakesInput path := by
  constructor
  · rintro ⟨input, hne⟩
    rw [outcome_withInput, outcome] at hne
    cases hrequest : Request.ofArguments c.resolve c.arguments with
    | dump flags source =>
      cases source with
      | standardInput =>
        obtain ⟨hdumps, path, hread, hsource⟩ := Request.ofArguments_eq_dump_iff.1 hrequest
        exact ⟨flags, path, ⟨hread, hdumps⟩, Source.ofArgument_eq_standardInput_iff.1 hsource⟩
      | file name bytes =>
        rw [hrequest] at hne
        exact absurd rfl hne
    | help | version | refuse r =>
      rw [hrequest] at hne
      exact absurd rfl hne
  -- no outcome is that of all inputs
  · rintro ⟨flags, path, h, hinput⟩
    by_contra hsame
    exact h.not_forall_outcome_eq hinput c.outcome (by simpa using hsame)

/-- **Which source a call reads.**  Let the argument of a call name a file.  What the call does is
what the bytes of the file give, under the path that is shown, whatever is on the standard input,
just if the path is not shown as a dash; then, if the bytes spell a text, this text is scanned, and
the log and the errors go by the path that is shown.  In a directory this path names the same file.

The standard input makes a difference just to the calls whose argument is a dash, or names a file
that is shown as one.  These do what the standard input gives, under its own name. -/
theorem source_of_argument (c : Call) :
    (∀ flags path bytes, c.Names flags path → c.resolve path = some (.file bytes) →
        ((∀ input, (c.withInput input).outcome =
          Request.dumpOutcome flags c.env (Path.normalise path) bytes) ↔ ¬ Path.IsDash path) ∧
        (¬ Path.IsDash path → ∀ t, bytes = Utf8.encode t →
          let o := Request.options flags c.env
          let source := Text.unifyBreaks t
          let s := Scan.ofText o source
          c.outcome.output = Request.tokenText flags s.tokens ∧
          c.outcome.error =
            Request.logged flags (Options.environmentLog c.env ++ ["options: ".toList ++ o.text]
              ++ s.log (Path.normalise path) source) ++
            if s.reports = [] then []
            else echo ((Findings.ofSource source (Path.normalise path)).addScan s).summary) ∧
        ∀ d : Directory, c.resolve = d.resolve →
          c.resolve (Path.normalise path) = some (.file bytes)) ∧
    ((∃ input, (c.withInput input).outcome ≠ c.outcome) ↔
      ∃ flags path, c.Names flags path ∧ c.TakesInput path) ∧
    ∀ flags path, c.Names flags path → c.TakesInput path → ∀ input,
      (c.withInput input).outcome = Request.dumpOutcome flags c.env "<stdin>".toList input := by
  refine ⟨fun flags path bytes h hfile ↦ ⟨⟨fun hall hdash ↦ ?_, fun hdash ↦ ?_⟩, ?_, ?_⟩,
    exists_outcome_ne_iff, fun flags path h hinput ↦ h.outcome_of_takesInput hinput⟩
  · exact h.not_forall_outcome_eq (.inr ⟨⟨bytes, hfile⟩, hdash⟩) _ hall
  · exact h.outcome_of_file hfile hdash
  · rintro hdash t rfl
    have houtcome : c.outcome = _ := h.outcome_of_file hfile hdash c.input
    rw [Request.dumpOutcome_encode, Request.scanOutcome_eq] at houtcome
    rw [houtcome]
    exact ⟨rfl, rfl⟩
  · intro d hd
    rw [hd] at hfile ⊢
    exact Directory.resolve_normalise hfile

/-- A path that goes round by the directory itself, to a file that is shown by its name. -/
theorem source_of_argument_dotted :
    let d := Directory.ofList [(['a'], [0x29])]
    let c : Call := ⟨["./a".toList], d.resolve, fun _ ↦ none, [0x28]⟩
    c.Names [] "./a".toList ∧ c.resolve "./a".toList = some (.file [0x29]) ∧
      c.resolve ['a'] = some (.file [0x29]) ∧
      ∀ input, (c.withInput input).outcome = Request.dumpOutcome [] c.env ['a'] [0x29] := by
  intro d c
  have h : c.Names [] "./a".toList := ⟨rfl, nofun⟩
  have hfile : c.resolve "./a".toList = some (.file [0x29]) := by decide +kernel
  have hdash : ¬ Path.IsDash "./a".toList := by decide
  have hshown : Path.normalise "./a".toList = ['a'] := by decide
  obtain ⟨⟨-, hall⟩, -, hsame⟩ := (source_of_argument c).1 [] _ [0x29] h hfile
  rw [hshown] at hall hsame
  exact ⟨h, hfile, hsame d rfl, hall hdash⟩

/-- A file of the name `-` that is named by the directory and its name is passed over: the
standard input is read instead, under another name than that of the file. -/
theorem outcome_of_dash_file :
    let path := ['.', '/', '-']
    let d := Directory.ofList [(['-'], [0x29])]
    let c : Call := ⟨[path], d.resolve, fun _ ↦ none, [0x28]⟩
    c.Names [] path ∧ path ≠ ['-'] ∧ c.resolve path = some (.file [0x29]) ∧
      c.outcome = Request.dumpOutcome [] c.env "<stdin>".toList [0x28] ∧
      c.outcome.output = "LEFT_PAREN ( null\nEOF  null\n".toList ∧
      (Request.dumpOutcome [] c.env (Path.normalise path) [0x29]).output =
        "RIGHT_PAREN ) null\nEOF  null\n".toList := by
  intro path d c
  have h : c.Names [] path := ⟨rfl, nofun⟩
  have hfile : c.resolve path = some (.file [0x29]) := by decide +kernel
  have hdash : Path.IsDash path := by decide
  have houtcome := h.outcome_of_takesInput (.inr ⟨⟨_, hfile⟩, hdash⟩) c.input
  exact ⟨h, by decide, hfile, houtcome, by decide +kernel, by decide +kernel⟩

end Call

end LoxTokens
