import LoxTokens.Scan

/-!
# Scanning character by character

`Scan.ofText` reads a text lexeme by lexeme.  A `Cursor` goes through the text as a `Scanner` does:
one character at a time, looking at most one character ahead.  It keeps two positions, that of the
lexeme it is in and that of the next character, each with its line, and writes down what it finds.

* `Cursor` — the private fields `_start`, `_current`, `_line`, `_start_line` and `_tokens`, the
  reports so far, and the loop that the scanner is in (`Cursor.Mode`).
* `Cursor.atEnd`, `peek`, `advance?`, `accept?` — the methods `_at_end`, `_peek`, `_advance` and
  `_match`.  Only `advance?` counts lines, and it fails behind the end, where the scanner would fail
  with an index out of range.
* `Cursor.addToken`, `addReport` — what `_add_token` and `_error` leave behind.
* `Cursor.after` — what `_scan_token` does with the first character of a lexeme, branch by branch.
* `Cursor.step` — one turn of a loop: a lexeme begins, or one more character of a comment or of a
  string is looked at.  `Cursor.run` goes on until the end is written down.

Every turn brings the end nearer (`remaining_step`), though not every turn reads on: a comment to
the end of its line is left in front of the line feed, without a character being read.  So the
measure counts characters and, behind them, the loop that the cursor is in.

That the turns lead to `Scan.ofText`, and that `advance?` never fails on the way, is the matter of
`LoxTokens.Proofs.Turns` and `LoxTokens.Proofs.Reading`.
-/

set_option autoImplicit false

namespace LoxTokens

/-- What a cursor is in the middle of. -/
inductive Cursor.Mode
  /-- Between two lexemes, or at an end of the text. -/
  | between
  /-- Inside a comment that ends with its line. -/
  | lineComment
  /-- Inside a comment that ends with `*/`. -/
  | blockComment
  /-- Inside a string. -/
  | string
  /-- Behind the end, which is written down. -/
  | finished
  deriving DecidableEq, Repr

/-- How far a text is read, and what was found in it: the private fields of a `Scanner`, apart from
its count of errors.  Behind a lexeme, `start` and `startLine` stay where it began until the next
one is marked. -/
structure Cursor where
  mode : Cursor.Mode := .between
  /-- The position at which the lexeme begins. -/
  start : Nat := 0
  /-- The position of the next character. -/
  current : Nat := 0
  /-- The line of the next character. -/
  line : Nat := 1
  /-- The line on which the lexeme begins. -/
  startLine : Nat := 1
  tokens : List Token := []
  reports : List Report := []
  deriving DecidableEq, Repr

namespace Cursor

/-! ## Reading characters -/

/-- All characters are read. -/
def atEnd (t : Text) (w : Cursor) : Bool := t.length ≤ w.current

/-- The next character, and NUL if there is none (`_peek`).  A text may have a NUL of its own; who
asks for the next character in order to go on has to ask for the end as well. -/
def peek (t : Text) (w : Cursor) : Char := t[w.current]?.getD '\x00'

/-- Read the next character, if there is one (`_advance`).  A line feed is counted here. -/
def advance? (t : Text) (w : Cursor) : Option (Char × Cursor) :=
  t[w.current]?.map fun c ↦
    (c, { w with current := w.current + 1, line := if c = '\n' then w.line + 1 else w.line })

/-- Read the next character if it is `c`, which is no line feed (`_match`).  No line is counted. -/
def accept? (t : Text) (c : Char) (w : Cursor) : Option Cursor :=
  if t[w.current]? = some c then some { w with current := w.current + 1 } else none

/-! ## Writing down -/

/-- A lexeme begins with the next character. -/
def mark (w : Cursor) : Cursor := { w with start := w.current, startLine := w.line }

/-- The lexeme is over, and is a token (`_add_token`).  Its text is what lies behind the mark. -/
def addToken (t : Text) (kind : Kind) (literal : Option Text) (w : Cursor) : Cursor :=
  { w with
    mode := .between
    tokens := w.tokens ++ [⟨kind, t.extract w.start w.current, literal, w.startLine⟩] }

/-- The lexeme is over, and is wrong (`_error`). -/
def addReport (line : Nat) (fault : Fault) (w : Cursor) : Cursor :=
  { w with mode := .between, reports := w.reports ++ [⟨line, fault⟩] }

/-- The end of the text is a token of its own. -/
def finish (w : Cursor) : Cursor :=
  { w with mode := .finished, tokens := w.tokens ++ [⟨.endOfInput, [], none, w.line⟩] }

/-! ## One turn -/

/-- Behind a mark that `=` makes longer. -/
def afterPair (t : Text) (short long : Symbol) (w : Cursor) : Cursor :=
  match w.accept? t '=' with
  | some w => w.addToken t (.symbol long) none
  | none => w.addToken t (.symbol short) none

/-- Behind a star. -/
def afterStar (o : Options) (t : Text) (w : Cursor) : Cursor :=
  match if o.exponentOperator then w.accept? t '*' else none with
  | some w => w.addToken t (.symbol .starStar) none
  | none => w.addToken t (.symbol .star) none

/-- Behind a slash. -/
def afterSlash (o : Options) (t : Text) (w : Cursor) : Cursor :=
  match w.accept? t '/' with
  | some w => { w with mode := .lineComment }
  | none =>
    match w.accept? t '*' with
    | some w => { w with mode := if o.blockComments then .blockComment else .lineComment }
    | none => w.addToken t (.symbol .slash) none

/-- Behind the first character of a lexeme: the branches of `_scan_token`, in their order. -/
def after (o : Options) (t : Text) (c : Char) (w : Cursor) : Cursor :=
  match Symbol.single? c, Symbol.pair? c with
  | some s, _ => w.addToken t (.symbol s) none
  | none, some (short, long) => w.afterPair t short long
  | none, none =>
    if c = '*' then w.afterStar o t
    else if c = '/' then w.afterSlash o t
    else if Lexeme.isBlank c then w
    else if c = '"' then { w with mode := .string }
    else w.addReport w.line .unexpectedCharacter

/-- Behind a character of a comment that ends with `*/` (`_skip_block_comment`).  It ends at a star
that a slash follows, and only then is more than this character read. -/
def afterComment (t : Text) (c : Char) (w : Cursor) : Cursor :=
  match if c = '*' then w.accept? t '/' else none with
  | some w => { w with mode := .between }
  | none => w

/-- Behind the quote that closes a string (the end of `_scan_string`).  The literal is cut out of
the text between the quotes. -/
def afterString (t : Text) (w : Cursor) : Cursor :=
  w.addToken t .string (some (t.extract (w.start + 1) (w.current - 1)))

/-- One turn.  It fails where it has to read a character and there is none. -/
def step (o : Options) (t : Text) (w : Cursor) : Option Cursor :=
  match w.mode with
  | .between =>
    if w.atEnd t then some w.finish
    else (w.mark.advance? t).map fun (c, w) ↦ w.after o t c
  | .lineComment =>
    if w.peek t ≠ '\n' ∧ ¬ w.atEnd t then (w.advance? t).map Prod.snd
    else some { w with mode := .between }
  | .blockComment =>
    if w.atEnd t then some (w.addReport w.startLine .unterminatedComment)
    else (w.advance? t).map fun (c, w) ↦ w.afterComment t c
  | .string =>
    if w.peek t ≠ '"' ∧ ¬ w.atEnd t then (w.advance? t).map Prod.snd
    else if w.atEnd t then some (w.addReport w.line .unterminatedString)
    else (w.advance? t).map fun (_, w) ↦ w.afterString t
  | .finished => some w

/-! ## The end comes nearer -/

variable {o : Options} {t : Text} {c : Char} {w w' : Cursor}

theorem of_advance? (h : w.advance? t = some (c, w')) :
    w.current < t.length ∧ w'.current = w.current + 1 := by
  obtain ⟨d, hd, hw⟩ := Option.map_eq_some_iff.1 h
  obtain ⟨rfl, rfl⟩ := Prod.mk.inj hw
  exact ⟨(List.getElem?_eq_some_iff.1 hd).1, rfl⟩

theorem current_le_of_accept? (h : w.accept? t c = some w') : w.current ≤ w'.current := by
  rw [accept?] at h
  split at h
  · obtain rfl := Option.some.inj h
    exact Nat.le_succ _
  · exact absurd h nofun

theorem current_le_afterPair (short long : Symbol) :
    w.current ≤ (w.afterPair t short long).current := by
  rw [afterPair]
  cases h : w.accept? t '=' with
  | none => exact Nat.le_refl _
  | some v =>
    have hle := current_le_of_accept? h
    exact hle

theorem current_le_afterStar : w.current ≤ (w.afterStar o t).current := by
  rw [afterStar]
  by_cases ho : o.exponentOperator = true
  · rw [if_pos ho]
    cases h : w.accept? t '*' with
    | none => exact Nat.le_refl _
    | some v =>
      have hle := current_le_of_accept? h
      exact hle
  · rw [if_neg ho]
    exact Nat.le_refl _

theorem current_le_afterSlash : w.current ≤ (w.afterSlash o t).current := by
  rw [afterSlash]
  cases h : w.accept? t '/' with
  | some v =>
    have hle := current_le_of_accept? h
    exact hle
  | none =>
    cases hstar : w.accept? t '*' with
    | some v =>
      have hle := current_le_of_accept? hstar
      exact hle
    | none => exact Nat.le_refl _

theorem current_le_after : w.current ≤ (w.after o t c).current := by
  rw [after]
  split
  · exact Nat.le_refl _
  · exact current_le_afterPair _ _
  · by_cases hstar : c = '*'
    · rw [if_pos hstar]
      exact current_le_afterStar
    · rw [if_neg hstar]
      by_cases hslash : c = '/'
      · rw [if_pos hslash]
        exact current_le_afterSlash
      · rw [if_neg hslash]
        repeat' split
        all_goals exact Nat.le_refl _

theorem current_le_afterComment : w.current ≤ (w.afterComment t c).current := by
  rw [afterComment]
  by_cases hc : c = '*'
  · rw [if_pos hc]
    cases h : w.accept? t '/' with
    | none => exact Nat.le_refl _
    | some v =>
      have hle := current_le_of_accept? h
      exact hle
  · exact Nat.le_of_eq (by rw [if_neg hc])

/-- An upper bound for the number of turns that are left. -/
def remaining (t : Text) (w : Cursor) : Nat :=
  3 * (t.length - w.current) + match w.mode with
    | .finished => 0
    | .between => 1
    | _ => 2

/-- To read a character is worth more turns than any mode is. -/
theorem remaining_lt (hw : w.current < t.length) (h : w.current < w'.current) :
    w'.remaining t < w.remaining t := by
  rw [remaining, remaining]
  have hmode : (match w'.mode with | .finished => 0 | .between => 1 | _ => 2) ≤ 2 := by
    split <;> decide
  omega

theorem remaining_lt_of_advance? {v : Cursor} {f : Char × Cursor → Cursor}
    (h : (v.advance? t).map f = some w') (hv : v.current = w.current)
    (hf : ∀ p, p.2.current ≤ (f p).current) : w'.remaining t < w.remaining t := by
  obtain ⟨⟨c, u⟩, hu, rfl⟩ := Option.map_eq_some_iff.1 h
  obtain ⟨hlt, hcurrent⟩ := of_advance? hu
  have hle : u.current ≤ (f (c, u)).current := hf (c, u)
  exact remaining_lt (hv ▸ hlt) (by omega)

/-- **Every turn brings the end nearer.** -/
theorem remaining_step (hw : w.mode ≠ .finished) (h : w.step o t = some w') :
    w'.remaining t < w.remaining t := by
  rw [step] at h
  cases hmode : w.mode with
  | between =>
    rw [hmode] at h
    dsimp only at h
    split at h
    · obtain rfl := Option.some.inj h
      simp [remaining, finish, hmode]
    · exact remaining_lt_of_advance? h rfl fun p ↦ current_le_after
  | lineComment =>
    rw [hmode] at h
    dsimp only at h
    split at h
    · exact remaining_lt_of_advance? h rfl fun p ↦ Nat.le_refl _
    · obtain rfl := Option.some.inj h
      simp [remaining, hmode]
  | blockComment =>
    rw [hmode] at h
    dsimp only at h
    split at h
    · obtain rfl := Option.some.inj h
      simp [remaining, addReport, hmode]
    · exact remaining_lt_of_advance? h rfl fun p ↦ current_le_afterComment
  | string =>
    rw [hmode] at h
    dsimp only at h
    split at h
    · exact remaining_lt_of_advance? h rfl fun p ↦ Nat.le_refl _
    · split at h
      · obtain rfl := Option.some.inj h
        simp [remaining, addReport, hmode]
      · exact remaining_lt_of_advance? h rfl fun p ↦ Nat.le_refl _
  | finished => exact absurd hmode hw

/-- All turns that are left. -/
def run (o : Options) (t : Text) (w : Cursor) : Option Cursor :=
  if _ : w.mode = .finished then some w
  else
    match _ : w.step o t with
    | none => none
    | some w' => w'.run o t
termination_by w.remaining t
decreasing_by exact remaining_step ‹_› ‹_›

/-- What a cursor finds in a text. -/
def scan (o : Options) (t : Text) : Option Scan :=
  (run o t {}).map fun w ↦ ⟨w.tokens, w.reports⟩

end Cursor

end LoxTokens
