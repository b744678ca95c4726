import LoxTokens.Proofs.Reading

/-!
# A cursor keeps in place and gets on

The two positions of a `Cursor` and their lines are kept by hand, in several loops and in two ways:
a character is read with its line counted (`_advance`), or accepted without (`_match`).  This file
says what holds of them all the time, and how far a cursor gets with each turn.

* `Cursor.Placed t w` — the positions of `w` lie one behind the other in the text, and the lines are
  those of the positions.  This is kept by everything that reads.
* `Cursor.Continues t w w'` — what every branch of `_scan_token` and of the loops has in common: the
  mark stays, some characters are read, and at most one token or report is written down.
* `Cursor.Turn t w w'` — what one turn can do, by the phase that the cursor is in.  There always is
  such a turn (`Cursor.exists_turn`), so that none reads behind the end.
* `Cursor.Rounds o t n w` — the cursor `w` is reached, and on its way `n` lexemes have begun.  These
  are the rounds of the loop of `scan_tokens`.
* `Cursor.due w` — how much the cursor has written down, and will have when the lexeme is over that
  it is in the middle of.  Every lexeme takes at least one character and adds at most one to this,
  hence the bounds on rounds, tokens and reports (`Cursor.Sound`).

None of this refers to the grammar, and the scan is mentioned in the last result only.  That lines
are not counted in `_match` does no harm, because no branch accepts a line feed.
-/

set_option autoImplicit false

namespace LoxTokens

namespace Text

/-- Between the first and the last character of a part of a text lies the rest of it. -/
theorem extract_of_ends {t : Text} {i j : Nat} {c d : Char} (hi : t[i]? = some c)
    (hj : t[j]? = some d) (hij : i < j) :
    t.extract i (j + 1) = c :: (t.extract (i + 1) j ++ [d]) := by
  obtain ⟨hilt, hic⟩ := List.getElem?_eq_some_iff.1 hi
  obtain ⟨k, rfl⟩ := Nat.exists_eq_add_of_lt hij
  have houter : i + k + 1 + 1 - i = k + 2 := by omega
  have hinner : i + k + 1 - (i + 1) = k := by omega
  have hlast : (t.drop (i + 1))[k]? = some d := by
    rw [List.getElem?_drop, ← hj, Nat.add_right_comm]
  rw [List.extract_eq_take_drop, List.extract_eq_take_drop, houter, hinner,
    List.drop_eq_getElem_cons hilt, hic, List.take_succ_cons, List.take_add_one, hlast]
  rfl

/-- The line of a position behind some more characters. -/
theorem lineAt_add {t s : Text} {p : Nat} (h : s <+: t.drop p) :
    lineAt t (p + s.length) = lineAt t p + newlines s := by
  rw [lineAt, lineAt, List.take_add, newlines_append, ← List.prefix_iff_eq_take.1 h,
    Nat.add_assoc]

end Text

namespace Cursor

variable {o : Options} {t s u : Text} {c : Char} {n : Nat} {w v w' : Cursor}

/-!
## Keeping in place

To keep in place is a matter of what was read, be it one character or many (`Placed.of_read`).  A
cursor that is in place, and reads what is there to be read, is in place.
-/

/-- The positions and lines of a cursor are sound. -/
structure Placed (t : Text) (w : Cursor) : Prop where
  /-- The lexeme does not begin behind the next character. -/
  start_le : w.start ≤ w.current
  /-- The next character is not behind the end. -/
  current_le : w.current ≤ t.length
  /-- The one line is that of the next character. -/
  line_eq : w.line = Text.lineAt t w.current
  /-- The other line is that on which the lexeme begins. -/
  startLine_eq : w.startLine = Text.lineAt t w.start

theorem placed_new (t : Text) : Placed t {} where
  start_le := Nat.le_refl 0
  current_le := Nat.zero_le _
  line_eq := rfl
  startLine_eq := rfl

theorem Placed.mark (h : Placed t w) : Placed t w.mark where
  start_le := Nat.le_refl _
  current_le := h.current_le
  line_eq := h.line_eq
  startLine_eq := h.line_eq

/-- A cursor that has read on is in place. -/
theorem Placed.of_read (h : Placed t w) (hs : s <+: w.unread t) (hstart : w'.start = w.start)
    (hstartLine : w'.startLine = w.startLine) (hcurrent : w'.current = w.current + s.length)
    (hline : w'.line = w.line + Text.newlines s) : Placed t w' where
  start_le := by
    rw [hstart, hcurrent]
    exact h.start_le.trans (Nat.le_add_right _ _)
  current_le := by
    have hle := hs.length_le
    rw [unread, List.length_drop] at hle
    have hw := h.current_le
    omega
  line_eq := by rw [hline, hcurrent, h.line_eq, Text.lineAt_add hs]
  startLine_eq := by rw [hstartLine, hstart, h.startLine_eq]

theorem Placed.move (h : Placed t w) (hs : s <+: w.unread t) : Placed t (w.move s) :=
  h.of_read hs rfl rfl rfl rfl

/-- To read a character is to move by it. -/
theorem prefix_of_advance? (h : w.advance? t = some (c, v)) :
    [c] <+: w.unread t ∧ v = w.move [c] := by
  cases hun : w.unread t with
  | nil =>
    rw [advance?, getElem?_current, hun] at h
    cases h
  | cons d u =>
    rw [advance?_of_unread hun] at h
    obtain ⟨rfl, rfl⟩ := Prod.mk.inj (Option.some.inj h)
    exact ⟨List.prefix_append [d] u, rfl⟩

/-- So is to accept one, if it is no line feed. -/
theorem prefix_of_accept? (hc : c ≠ '\n') (h : w.accept? t c = some v) :
    [c] <+: w.unread t ∧ v = w.move [c] := by
  by_cases hhead : (w.unread t).head? = some c
  · obtain ⟨u, hun⟩ := List.head?_eq_some_iff.1 hhead
    rw [accept?_of_unread hun hc] at h
    exact ⟨hun ▸ List.prefix_append [c] u, (Option.some.inj h).symm⟩
  · rw [accept?_of_head?_ne hhead] at h
    cases h

theorem Placed.advance? (hw : Placed t w) (h : w.advance? t = some (c, v)) : Placed t v := by
  obtain ⟨hs, rfl⟩ := prefix_of_advance? h
  exact hw.move hs

/-- To accept a character that is no line feed need not count lines. -/
theorem Placed.accept? (hw : Placed t w) (hc : c ≠ '\n') (h : w.accept? t c = some v) :
    Placed t v := by
  obtain ⟨hs, rfl⟩ := prefix_of_accept? hc h
  exact hw.move hs

/-!
## Going on inside of a lexeme

A step lemma for each function that a turn is made of.  `Continues` is reflexive but for the last
mode, and can be put behind a character that is read (`Continues.of_move`), which is all that is
needed to go through the branches.
-/

/-- How much is written down. -/
def written (w : Cursor) : Nat := w.tokens.length + w.reports.length

/-- How much is written down when the lexeme is over that the cursor is in the middle of. -/
def due (w : Cursor) : Nat :=
  w.written + match w.mode with
    | .between | .finished => 0
    | _ => 1

theorem due_of_between (hw : w.mode = .between) : w.due = w.written := by
  rw [due, hw, Nat.add_zero]

theorem due_of_inside (hbetween : w.mode ≠ .between) (hfinished : w.mode ≠ .finished) :
    w.due = w.written + 1 := by
  rw [due]
  split <;> simp_all

/-- From the middle of a lexeme the cursor `w` goes on to `w'`, which may be behind the lexeme. -/
structure Continues (t : Text) (w w' : Cursor) : Prop where
  start_eq : w'.start = w.start
  startLine_eq : w'.startLine = w.startLine
  /-- The positions are those behind the characters that are read, if any. -/
  read : ∃ s, s <+: w.unread t ∧ w'.current = w.current + s.length ∧
    w'.line = w.line + Text.newlines s
  mode_ne : w'.mode ≠ .finished
  /-- A lexeme is one thing at most. -/
  due_le : w'.due ≤ w.written + 1

theorem Continues.current_le (h : Continues t w w') : w.current ≤ w'.current := by
  obtain ⟨s, -, hcurrent, -⟩ := h.read
  omega

theorem Continues.placed (h : Continues t w w') (hw : Placed t w) : Placed t w' := by
  obtain ⟨s, hs, hcurrent, hline⟩ := h.read
  exact hw.of_read hs h.start_eq h.startLine_eq hcurrent hline

/-- What is read first lies in front of what is read then. -/
theorem Continues.of_move (hs : s <+: w.unread t) (h : Continues t (w.move s) w') :
    Continues t w w' := by
  obtain ⟨u, hu⟩ := hs
  obtain ⟨r, hr, hcurrent, hline⟩ := h.read
  rw [unread_move hu.symm] at hr
  refine ⟨h.start_eq, h.startLine_eq, ⟨s ++ r, ?_, ?_, ?_⟩, h.mode_ne, h.due_le⟩
  · rw [← hu]
    exact (List.prefix_append_right_inj s).2 hr
  · rw [hcurrent, move, List.length_append, Nat.add_assoc]
  · rw [hline, move, Text.newlines_append, Nat.add_assoc]

theorem Continues.of_accept? (hc : c ≠ '\n') (hv : w.accept? t c = some v)
    (h : Continues t v w') : Continues t w w' := by
  obtain ⟨hs, rfl⟩ := prefix_of_accept? hc hv
  exact h.of_move hs

theorem continues_addToken (kind : Kind) (literal : Option Text) :
    Continues t w (w.addToken t kind literal) where
  start_eq := rfl
  startLine_eq := rfl
  read := ⟨[], List.nil_prefix, rfl, rfl⟩
  mode_ne := nofun
  due_le := by simp [due, written, addToken, Nat.add_right_comm]

theorem continues_addReport (line : Nat) (fault : Fault) :
    Continues t w (w.addReport line fault) where
  start_eq := rfl
  startLine_eq := rfl
  read := ⟨[], List.nil_prefix, rfl, rfl⟩
  mode_ne := nofun
  due_le := by simp [due, written, addReport, Nat.add_assoc]

theorem continues_setMode {m : Mode} (hm : m ≠ .finished) :
    Continues t w { w with mode := m } where
  start_eq := rfl
  startLine_eq := rfl
  read := ⟨[], List.nil_prefix, rfl, rfl⟩
  mode_ne := hm
  due_le := by
    rw [due]
    refine Nat.add_le_add_left ?_ w.written
    split <;> decide

theorem continues_self (hw : w.mode ≠ .finished) : Continues t w w := continues_setMode hw

theorem continues_afterPair (short long : Symbol) : Continues t w (w.afterPair t short long) := by
  rw [afterPair]
  cases h : w.accept? t '=' with
  | none => exact continues_addToken _ _
  | some v => exact (continues_addToken _ _).of_accept? (by decide) h

theorem continues_afterStar : Continues t w (w.afterStar o t) := by
  rw [afterStar]
  split
  · next v h =>
    split at h
    · exact (continues_addToken _ _).of_accept? (by decide) h
    · cases h
  · exact continues_addToken _ _

theorem continues_afterSlash : Continues t w (w.afterSlash o t) := by
  rw [afterSlash]
  cases h : w.accept? t '/' with
  | some v => exact (continues_setMode (m := .lineComment) (by decide)).of_accept? (by decide) h
  | none =>
    cases hstar : w.accept? t '*' with
    | some v =>
      have hmode : (if o.blockComments then Mode.blockComment else .lineComment) ≠ .finished := by
        split <;> decide
      exact (continues_setMode hmode).of_accept? (by decide) hstar
    | none => exact continues_addToken _ _

/-- The branches of `_scan_token`, one by one. -/
theorem continues_after (hw : w.mode = .between) (o : Options) (c : Char) :
    Continues t w (w.after o t c) := by
  rw [after]
  split
  · exact continues_addToken _ _
  · exact continues_afterPair _ _
  · split
    · exact continues_afterStar
    · split
      · exact continues_afterSlash
      · split
        · exact continues_self (by simp [hw])
        · split
          · exact continues_setMode (by decide)
          · exact continues_addReport _ _

theorem continues_afterComment (hw : w.mode ≠ .finished) (c : Char) :
    Continues t w (w.afterComment t c) := by
  rw [afterComment]
  split
  · next v h =>
    split at h
    · exact (continues_setMode (m := .between) (by decide)).of_accept? (by decide) h
    · cases h
  · exact continues_self hw

/-- A string is entered behind a quote only. -/
theorem eq_quote_of_mode_after (hw : w.mode = .between) (h : (w.after o t c).mode = .string) :
    c = '"' := by
  rw [after] at h
  split at h
  · cases h
  · rw [afterPair] at h
    split at h <;> cases h
  · split at h
    · rw [afterStar] at h
      split at h <;> cases h
    · split at h
      · rw [afterSlash] at h
        split at h
        · cases h
        · split at h
          · split at h <;> cases h
          · cases h
      · split at h
        · rw [hw] at h
          cases h
        · split at h
          · assumption
          · cases h

theorem mode_afterComment_ne (hw : w.mode = .blockComment) :
    (w.afterComment t c).mode ≠ .string := by
  rw [afterComment]
  split
  · rintro ⟨⟩
  · rw [hw]
    decide

/-!
## One turn

The inversion of `Cursor.step`.  All that is said of turns from here on is read off its four cases,
and `step` is not unfolded again.
-/

/-- The cursor stands where a loop goes on: in front of a lexeme, or inside of one and in front of a
character that does not end it.  These are the conditions of the four loops, that of `scan_tokens`
among them. -/
def goesOn (t : Text) (w : Cursor) : Bool :=
  match w.mode with
  | .between | .blockComment => !w.atEnd t
  | .lineComment => w.peek t != '\n' && !w.atEnd t
  | .string => w.peek t != '"' && !w.atEnd t
  | .finished => false

theorem goesOn_lineComment_stop (hw : w.mode = .lineComment)
    (h : ∀ c ∈ (w.unread t).head?, c = '\n') : w.goesOn t = false := by
  rw [goesOn, hw]
  cases hun : w.unread t with
  | nil => simp [atEnd_of_unread hun]
  | cons c u =>
    rw [hun] at h
    simp [peek_of_unread hun, h c rfl]

/-- What one turn does. -/
inductive Turn (t : Text) (w : Cursor) : Cursor → Prop
  /-- Behind the end nothing is done. -/
  | rest (hw : w.mode = .finished) : Turn t w w
  /-- The end is written down. -/
  | finish (hw : w.mode = .between) (hend : w.current = t.length) : Turn t w w.finish
  /-- A lexeme begins, and its first character is read. -/
  | round {w' : Cursor} (hw : w.mode = .between) (h : Continues t w.mark w')
      (hread : w.current < w'.current) (hquote : w'.mode = .string → t[w.current]? = some '"') :
      Turn t w w'
  /-- A lexeme goes on or ends. -/
  | inside {w' : Cursor} (hbetween : w.mode ≠ .between) (hfinished : w.mode ≠ .finished)
      (h : Continues t w w') (hread : w.goesOn t = true → w.current < w'.current)
      (hquote : w'.mode = .string → w.mode = .string) : Turn t w w'

/-- A character inside of a lexeme is read. -/
theorem turn_of_read (hbetween : w.mode ≠ .between) (hfinished : w.mode ≠ .finished)
    (hun : w.unread t = c :: u) (h : Continues t (w.move [c]) w')
    (hquote : w'.mode = .string → w.mode = .string) : Turn t w w' :=
  .inside hbetween hfinished (h.of_move (hun ▸ List.prefix_append [c] u)) (fun _ ↦ h.current_le)
    hquote

/-- A lexeme is left without a character being read. -/
theorem turn_of_stop (hbetween : w.mode ≠ .between) (hfinished : w.mode ≠ .finished)
    (hstop : w.goesOn t = false) (h : Continues t w w') (hquote : w'.mode ≠ .string) :
    Turn t w w' :=
  .inside hbetween hfinished h (fun hgoes ↦ absurd (hgoes.symm.trans hstop) nofun) fun hstring ↦
    absurd hstring hquote

/-- Between two lexemes, the end is written down or a lexeme begins. -/
theorem exists_turn_between (o : Options) (hw : w.current ≤ t.length) (hmode : w.mode = .between) :
    ∃ w', w.step o t = some w' ∧ Turn t w w' := by
  cases hun : w.unread t with
  | nil =>
    have hend : w.current = t.length := Nat.le_antisymm hw (List.drop_eq_nil_iff.1 hun)
    exact ⟨w.finish, step_finish hmode hun, .finish hmode hend⟩
  | cons c u =>
    have hafter : Continues t (w.mark.move [c]) ((w.mark.move [c]).after o t c) :=
      continues_after (w := w.mark.move [c]) hmode o c
    refine ⟨_, step_between hmode hun, .round hmode
      (hafter.of_move (hun ▸ List.prefix_append [c] u)) hafter.current_le fun hstring ↦ ?_⟩
    rw [getElem?_current, hun, eq_quote_of_mode_after (w := w.mark.move [c]) hmode hstring]
    rfl

/-- A comment to the end of its line is left there, or one more character of it is read. -/
theorem exists_turn_lineComment (o : Options) (hmode : w.mode = .lineComment) :
    ∃ w', w.step o t = some w' ∧ Turn t w w' := by
  have hbetween : w.mode ≠ .between := by simp [hmode]
  have hfinished : w.mode ≠ .finished := by simp [hmode]
  by_cases hstop : ∀ c ∈ (w.unread t).head?, c = '\n'
  · exact ⟨_, step_lineComment_stop hmode hstop, turn_of_stop hbetween hfinished
      (goesOn_lineComment_stop hmode hstop) (continues_setMode (by decide)) (by rintro ⟨⟩)⟩
  · cases hun : w.unread t with
    | nil => simp [hun] at hstop
    | cons c u =>
      have hc : c ≠ '\n' := by simpa [hun] using hstop
      exact ⟨_, step_lineComment hmode hun hc,
        turn_of_read hbetween hfinished hun (continues_self hfinished) id⟩

/-- A comment up to `*/` is reported at the end of the text, or one more character of it is read,
and with a star perhaps the slash behind it. -/
theorem exists_turn_blockComment (o : Options) (hmode : w.mode = .blockComment) :
    ∃ w', w.step o t = some w' ∧ Turn t w w' := by
  have hbetween : w.mode ≠ .between := by simp [hmode]
  have hfinished : w.mode ≠ .finished := by simp [hmode]
  cases hun : w.unread t with
  | nil =>
    have hstop : w.goesOn t = false := by simp [goesOn, hmode, atEnd_of_unread hun]
    exact ⟨_, step_blockComment_stop hmode hun,
      turn_of_stop hbetween hfinished hstop (continues_addReport _ _) (by rintro ⟨⟩)⟩
  | cons c u =>
    have hafter : Continues t (w.move [c]) ((w.move [c]).afterComment t c) :=
      continues_afterComment (w := w.move [c]) hfinished c
    have hquote : ((w.move [c]).afterComment t c).mode ≠ .string :=
      mode_afterComment_ne (w := w.move [c]) hmode
    exact ⟨_, step_blockComment hmode hun,
      turn_of_read hbetween hfinished hun hafter fun hstring ↦ absurd hstring hquote⟩

/-- A string is reported at the end of the text, or is over behind a quote, or one more character of
it is read. -/
theorem exists_turn_string (o : Options) (hmode : w.mode = .string) :
    ∃ w', w.step o t = some w' ∧ Turn t w w' := by
  have hbetween : w.mode ≠ .between := by simp [hmode]
  have hfinished : w.mode ≠ .finished := by simp [hmode]
  cases hun : w.unread t with
  | nil =>
    have hstop : w.goesOn t = false := by simp [goesOn, hmode, atEnd_of_unread hun]
    exact ⟨_, step_string_stop hmode hun,
      turn_of_stop hbetween hfinished hstop (continues_addReport _ _) (by rintro ⟨⟩)⟩
  | cons c u =>
    by_cases hc : c = '"'
    · subst hc
      exact ⟨_, step_string_quote hmode hun,
        turn_of_read hbetween hfinished hun (continues_addToken _ _) (by rintro ⟨⟩)⟩
    · exact ⟨_, step_string hmode hun hc,
        turn_of_read hbetween hfinished hun (continues_self hfinished) id⟩

/-- **There is a turn from every cursor, and it is one of these.** -/
theorem exists_turn (o : Options) (hw : w.current ≤ t.length) :
    ∃ w', w.step o t = some w' ∧ Turn t w w' := by
  cases hmode : w.mode with
  | finished => exact ⟨w, by rw [step, hmode], .rest hmode⟩
  | between => exact exists_turn_between o hw hmode
  | lineComment => exact exists_turn_lineComment o hmode
  | blockComment => exact exists_turn_blockComment o hmode
  | string => exact exists_turn_string o hmode

theorem turn_of_step (hw : w.current ≤ t.length) (h : w.step o t = some w') : Turn t w w' := by
  obtain ⟨v, hv, hturn⟩ := exists_turn o hw
  obtain rfl := Option.some.inj (h.symm.trans hv)
  exact hturn

/-- Nothing is read twice, and where a loop goes on, something is read. -/
theorem Turn.current_le (h : Turn t w w') :
    w.current ≤ w'.current ∧ (w.goesOn t = true → w.current < w'.current) := by
  cases h with
  | rest hw => simp [goesOn, hw]
  | finish hw hend => simp [goesOn, hw, atEnd, hend, Cursor.finish]
  | round _ _ hread _ => exact ⟨Nat.le_of_lt hread, fun _ ↦ hread⟩
  | inside _ _ hcontinues hread _ => exact ⟨hcontinues.current_le, hread⟩

/-!
## Rounds

The invariant is `Sound`, and the induction is on `Rounds`.  What is due is bounded by the position
and not by the number of rounds, so that the token of a string, which comes many turns after the
round has begun, is paid for from the start.
-/

/-- The cursor is reached, and on its way `n` lexemes have begun. -/
inductive Rounds (o : Options) (t : Text) : Nat → Cursor → Prop
  | start : Rounds o t 0 {}
  /-- In this turn a lexeme begins. -/
  | round {n : Nat} {w w' : Cursor} (h : Rounds o t n w) (hw : w.mode = .between)
      (hend : w.atEnd t = false) (hstep : w.step o t = some w') : Rounds o t (n + 1) w'
  /-- In this turn none begins. -/
  | turn {n : Nat} {w w' : Cursor} (h : Rounds o t n w) (hw : w.mode = .between → w.atEnd t = true)
      (hstep : w.step o t = some w') : Rounds o t n w'

/-- Every cursor that is reached is reached in some number of rounds. -/
theorem exists_rounds (h : Steps o t {} w) : ∃ n, Rounds o t n w := by
  induction h with
  | refl => exact ⟨0, .start⟩
  | @tail v w' _ hlast ih =>
    obtain ⟨n, hn⟩ := ih
    by_cases hbegins : v.mode = .between ∧ v.atEnd t = false
    · exact ⟨n + 1, .round hn hbegins.1 hbegins.2 hlast⟩
    · exact ⟨n, .turn hn (fun hmode ↦ by simpa [hmode] using hbegins) hlast⟩

/-- What is true of a cursor that is reached in `n` rounds. -/
structure Sound (t : Text) (n : Nat) (w : Cursor) : Prop extends Placed t w where
  /-- Every round takes a character. -/
  rounds_le : n ≤ w.current
  /-- So does all that is written down, and the lexeme that is not over. -/
  due_le : w.mode ≠ .finished → w.due ≤ w.current
  /-- The end comes on top of that. -/
  finished : w.mode = .finished → w.current = t.length ∧ w.written ≤ t.length + 1
  /-- The quote that opens a string is read. -/
  quote : w.mode = .string → w.start < w.current ∧ t[w.start]? = some '"'

theorem sound_new (t : Text) : Sound t 0 {} where
  toPlaced := placed_new t
  rounds_le := Nat.le_refl 0
  due_le _ := Nat.le_refl 0
  finished := nofun
  quote := nofun

/-- A lexeme that begins takes a character, and adds one to the rounds and to what is due. -/
theorem Sound.round (hw : Sound t n w) (hmode : w.mode = .between) (h : Continues t w.mark w')
    (hread : w.current < w'.current) (hquote : w'.mode = .string → t[w.current]? = some '"') :
    Sound t (n + 1) w' where
  toPlaced := h.placed hw.mark
  rounds_le := hw.rounds_le.trans_lt hread
  due_le _ := calc
    w'.due ≤ w.written + 1 := h.due_le
    _ = w.due + 1 := by rw [due_of_between hmode]
    _ ≤ w.current + 1 := Nat.succ_le_succ (hw.due_le (by simp [hmode]))
    _ ≤ w'.current := hread
  finished hfinished := absurd hfinished h.mode_ne
  quote hstring := by
    rw [h.start_eq]
    exact ⟨hread, hquote hstring⟩

/-- A lexeme that goes on or ends is due before. -/
theorem Sound.inside (hw : Sound t n w) (hbetween : w.mode ≠ .between)
    (hfinished : w.mode ≠ .finished) (h : Continues t w w')
    (hquote : w'.mode = .string → w.mode = .string) : Sound t n w' where
  toPlaced := h.placed hw.toPlaced
  rounds_le := hw.rounds_le.trans h.current_le
  due_le _ := calc
    w'.due ≤ w.written + 1 := h.due_le
    _ = w.due := (due_of_inside hbetween hfinished).symm
    _ ≤ w.current := hw.due_le hfinished
    _ ≤ w'.current := h.current_le
  finished hend := absurd hend h.mode_ne
  quote hstring := by
    obtain ⟨hlt, hfirst⟩ := hw.quote (hquote hstring)
    rw [h.start_eq]
    exact ⟨hlt.trans_le h.current_le, hfirst⟩

theorem Sound.finish (hw : Sound t n w) (hmode : w.mode = .between) (hend : w.current = t.length) :
    Sound t n w.finish where
  toPlaced := ⟨hw.start_le, hw.current_le, hw.line_eq, hw.startLine_eq⟩
  rounds_le := hw.rounds_le
  due_le hne := absurd rfl hne
  finished _ := by
    have hdue := hw.due_le (by simp [hmode])
    rw [due_of_between hmode, hend] at hdue
    have hwritten : w.finish.written = w.written + 1 := by
      simp [written, Cursor.finish, Nat.add_right_comm]
    exact ⟨hend, hwritten ▸ Nat.succ_le_succ hdue⟩
  quote := nofun

/-- **Every cursor that is reached is sound.**  The induction is on the rounds, and each of the
turns is one of four. -/
theorem sound_of_rounds (h : Rounds o t n w) : Sound t n w := by
  induction h with
  | start => exact sound_new t
  | @round n w w' _ hw hend hstep ih =>
    cases turn_of_step ih.current_le hstep with
    | rest hmode => simp [hw] at hmode
    | finish hmode hcurrent => simp [atEnd, hcurrent] at hend
    | round hmode hcontinues hread hquote => exact ih.round hmode hcontinues hread hquote
    | inside hbetween => exact absurd hw hbetween
  | @turn n w w' _ hw hstep ih =>
    cases turn_of_step ih.current_le hstep with
    | rest hmode => exact ih
    | finish hmode hcurrent => exact ih.finish hmode hcurrent
    | round hmode hcontinues hread hquote =>
      have hend : t.length ≤ w.current := by simpa [atEnd] using hw hmode
      have hle := (hcontinues.placed ih.mark).current_le
      omega
    | inside hbetween hfinished hcontinues hread hquote =>
      exact ih.inside hbetween hfinished hcontinues hquote

/-!
## The way to the end

The turns of a new cursor come to an end (`Cursor.scan_eq`), and at the end the invariant says how
far they have come and how many they were.
-/

/-- What a run leads to is reached, and finished. -/
theorem steps_of_run (h : w.run o t = some w') : Steps o t w w' ∧ w'.mode = .finished := by
  fun_induction run o t w with
  | case1 w hw =>
    obtain rfl := Option.some.inj h
    exact ⟨.refl, hw⟩
  | case2 => cases h
  | case3 w _ v hstep ih =>
    obtain ⟨hsteps, hmode⟩ := ih h
    exact ⟨.head hstep hsteps, hmode⟩

/-- The turns of a new cursor end, with all characters read. -/
theorem exists_run_rounds (o : Options) (t : Text) :
    ∃ n w, Rounds o t n w ∧ run o t {} = some w ∧ n ≤ t.length ∧ w.current = t.length ∧
      w.tokens.length + w.reports.length ≤ t.length + 1 := by
  obtain ⟨w, hrun, -⟩ := exists_run_eq o t
  obtain ⟨hsteps, hmode⟩ := steps_of_run hrun
  obtain ⟨n, hn⟩ := exists_rounds hsteps
  have hsound := sound_of_rounds hn
  obtain ⟨hcurrent, hwritten⟩ := hsound.finished hmode
  exact ⟨n, w, hn, hrun, hcurrent ▸ hsound.rounds_le, hcurrent, hwritten⟩

/-- At the quote that closes a string, the literal is the lexeme without its two quotes. -/
theorem Sound.exists_step_string (hw : Sound t n w) (hmode : w.mode = .string)
    (hstop : w.goesOn t = false) (hend : w.atEnd t = false) :
    ∃ w', w.step o t = some w' ∧ w.start + 1 ≤ w'.current - 1 ∧
      w'.tokens = w.tokens ++ [⟨.string, t.extract w.start w'.current,
        some (t.extract (w.start + 1) (w'.current - 1)), w.startLine⟩] ∧
      t.extract w.start w'.current =
        '"' :: (t.extract (w.start + 1) (w'.current - 1) ++ ['"']) := by
  cases hun : w.unread t with
  | nil => exact absurd ((atEnd_of_unread hun).symm.trans hend) nofun
  | cons c u =>
    have hc : c = '"' := by simpa [goesOn, hmode, hend, peek_of_unread hun] using hstop
    subst hc
    obtain ⟨hlt, hfirst⟩ := hw.quote hmode
    have hlast : t[w.current]? = some '"' := by rw [getElem?_current, hun, List.head?_cons]
    exact ⟨_, step_string_quote hmode hun, hlt, rfl, Text.extract_of_ends hfirst hlast hlt⟩

/-- **How a cursor gets through a text.**  Take any cursor that is reached, between two lexemes or
in the middle of one.  It is in place, behind its mark too, and stays there whatever it reads in its
turn.  The turn comes about, so that nothing is read behind the end, and it never goes back.  It
goes ahead wherever a loop goes on: at the beginning of a lexeme, in a comment and in a string.  At
the quote that closes a string, the literal is the lexeme without its two quotes.  In all, there are
at most as many rounds as characters, and then all characters are read.  There are at most as many
tokens and reports, with one more for the end. -/
theorem steps_progress (o : Options) (t : Text) :
    (∀ w, Steps o t {} w →
      (∀ v ∈ [w, w.mark], Placed t v ∧
        ∀ c v', v.advance? t = some (c, v') → Placed t v' ∧
          ∀ d v'', d ≠ '\n' → v'.accept? t d = some v'' → Placed t v'') ∧
      (∃ w', w.step o t = some w' ∧ w.current ≤ w'.current ∧
        (w.goesOn t = true → w.current < w'.current)) ∧
      (w.mode = .string → w.goesOn t = false → w.atEnd t = false →
        ∃ w', w.step o t = some w' ∧ w.start + 1 ≤ w'.current - 1 ∧
          w'.tokens = w.tokens ++ [⟨.string, t.extract w.start w'.current,
            some (t.extract (w.start + 1) (w'.current - 1)), w.startLine⟩] ∧
          t.extract w.start w'.current =
            '"' :: (t.extract (w.start + 1) (w'.current - 1) ++ ['"']))) ∧
    ∃ n w, Rounds o t n w ∧ run o t {} = some w ∧ n ≤ t.length ∧ w.current = t.length ∧
      ⟨w.tokens, w.reports⟩ = Scan.ofText o t ∧
      (Scan.ofText o t).tokens.length + (Scan.ofText o t).reports.length ≤ t.length + 1 := by
  refine ⟨fun w hw ↦ ?_, ?_⟩
  · obtain ⟨n, hn⟩ := exists_rounds hw
    have hsound := sound_of_rounds hn
    refine ⟨fun v hv ↦ ?_, ?_, hsound.exists_step_string⟩
    · have hplaced : Placed t v := by
        rcases List.mem_pair.1 hv with rfl | rfl
        · exact hsound.toPlaced
        · exact hsound.mark
      exact ⟨hplaced, fun c v' hread ↦ ⟨hplaced.advance? hread, fun d v'' hd haccept ↦
        (hplaced.advance? hread).accept? hd haccept⟩⟩
    · obtain ⟨w', hstep, hturn⟩ := exists_turn o hsound.current_le
      exact ⟨w', hstep, hturn.current_le⟩
  · obtain ⟨n, w, hn, hrun, hle, hcurrent, hwritten⟩ := exists_run_rounds o t
    obtain ⟨w', hrun', hscan⟩ := exists_run_eq o t
    obtain rfl := Option.some.inj (hrun.symm.trans hrun')
    rw [← hscan]
    exact ⟨n, w, hn, hrun, hle, hcurrent, rfl, hwritten⟩

/-- Two stars and a string, at the mark in front of the stars and at the quote behind the string. -/
theorem steps_progress_string :
    let t := ['*', '*', '"', 'a', '"']
    let w : Cursor := {
      mode := .string
      start := 2
      current := 4
      tokens := [⟨.symbol .starStar, ['*', '*'], none, 1⟩] }
    Steps {} t {} {} ∧ advance? t (mark {}) = some ('*', { current := 1 }) ∧
      '*' ≠ '\n' ∧ accept? t '*' { current := 1 } = some { current := 2 } ∧
      Placed t { current := 2 } ∧
      Steps {} t {} w ∧ w.mode = .string ∧ w.goesOn t = false ∧ w.atEnd t = false ∧
      (∃ w', w.step {} t = some w' ∧
        w'.tokens = w.tokens ++ [⟨.string, t.extract w.start w'.current,
          some (t.extract (w.start + 1) (w'.current - 1)), w.startLine⟩]) := by
  intro t w
  obtain ⟨hreached, -⟩ := steps_progress {} t
  have hstars : step {} t {} = some { w with mode := .between, start := 0, current := 2 } := rfl
  have hopen : step {} t { w with mode := .between, start := 0, current := 2 } =
      some { w with current := 3 } := rfl
  have hletter : step {} t { w with current := 3 } = some w := rfl
  have hsteps : Steps {} t {} w := .tail (.tail (.single hstars) hopen) hletter
  obtain ⟨hmark, -, -⟩ := hreached {} .refl
  obtain ⟨-, hread⟩ := hmark (mark {}) (by simp)
  obtain ⟨-, haccept⟩ := hread '*' { current := 1 } rfl
  obtain ⟨-, -, hstring⟩ := hreached w hsteps
  obtain ⟨w', hstep, -, htokens, -⟩ := hstring rfl rfl rfl
  exact ⟨.refl, rfl, by decide, rfl, haccept '*' { current := 2 } (by decide) rfl, hsteps, rfl, rfl,
    rfl, w', hstep, htokens⟩

end Cursor

end LoxTokens
