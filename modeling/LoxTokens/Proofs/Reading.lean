import LoxTokens.Proofs.Turns
import Mathlib.Logic.Relation

/-!
# A cursor reads a text lexeme by lexeme

A `Cursor` and `Scan.ofText` read a text in two ways, with two positions and two line counters that
are kept character by character, and as a list of lexemes with their lines added up.  Both give the
same (`Cursor.scan_eq`), so that what is proved of the one holds of the other.  In particular no
cursor ever has to read behind the end.

`Cursor.Steps o t w w'` says that `w'` is reached from `w`.  Between two lexemes, a cursor has
passed the first lexemes of the text and nothing else (`Cursor.steps_between_iff`).

The induction is on the list of pieces.  One piece is one use of `Cursor.leads_pass`, and behind it
the cursor is between two lexemes again, with the rest of the text unread.  What was written down on
the way is the same sum that `Scan.ofText` makes: the tokens and the reports of the pieces, each on
the line that the line feeds before it lead to.
-/

set_option autoImplicit false

namespace LoxTokens.Cursor

open Lexeme

variable {o : Options} {t s rest : Text} {w w' : Cursor} {x : Lexeme} {xs : List Lexeme}

/-! ## Any number of turns -/

/-- The second cursor is reached from the first one, in any number of turns. -/
def Steps (o : Options) (t : Text) : Cursor → Cursor → Prop :=
  Relation.ReflTransGen fun a b ↦ a.step o t = some b

theorem Leads.steps (h : Leads o t w w') : Steps o t w w' := by
  induction h with
  | one h => exact .single h
  | more h _ _ ih => exact .head h ih

theorem run_of_finished (hw : w.mode = .finished) : w.run o t = some w := by
  rw [run, dif_pos hw]

theorem run_of_step (h : w.step o t = some w') : w.run o t = w'.run o t := by
  by_cases hw : w.mode = .finished
  · have hstay : w.step o t = some w := by rw [step, hw]
    rw [hstay] at h
    rw [Option.some.inj h]
  · rw [run, dif_neg hw]
    split
    · next hnone => exact absurd (hnone ▸ h) nofun
    · next v hv => rw [Option.some.inj (hv.symm.trans h)]

theorem run_of_step_eq_none (h : w.step o t = none) : w.run o t = none := by
  have hw : w.mode ≠ .finished := by
    intro hw
    rw [step, hw] at h
    exact absurd h (Option.some_ne_none w)
  rw [run, dif_neg hw]
  split
  · rfl
  · next v hv => exact absurd (hv.symm.trans h) (Option.some_ne_none v)

theorem Steps.run_eq (h : Steps o t w w') : w.run o t = w'.run o t := by
  induction h with
  | refl => rfl
  | tail _ hlast ih => rw [ih, run_of_step hlast]

/-! ## Behind a list of lexemes -/

theorem current_foldl_pass (w : Cursor) (xs : List Lexeme) :
    (xs.foldl pass w).current = w.current + (xs.flatMap text).length := by
  induction xs generalizing w with
  | nil => rfl
  | cons x xs ih =>
    rw [List.foldl_cons, ih, List.flatMap_cons, List.length_append, ← Nat.add_assoc]
    rfl

theorem line_foldl_pass (w : Cursor) (xs : List Lexeme) :
    (xs.foldl pass w).line = w.line + Text.newlines (xs.flatMap text) := by
  induction xs generalizing w with
  | nil => rfl
  | cons x xs ih =>
    rw [List.foldl_cons, ih, List.flatMap_cons, Text.newlines_append, ← Nat.add_assoc]
    rfl

theorem tokens_foldl_pass (w : Cursor) (xs : List Lexeme) :
    (xs.foldl pass w).tokens = w.tokens ++ collect token? w.line xs := by
  induction xs generalizing w with
  | nil => exact (List.append_nil _).symm
  | cons x xs ih =>
    rw [List.foldl_cons, ih, collect_cons, ← List.append_assoc]
    rfl

theorem reports_foldl_pass (w : Cursor) (xs : List Lexeme) :
    (xs.foldl pass w).reports = w.reports ++ collect report? w.line xs := by
  induction xs generalizing w with
  | nil => exact (List.append_nil _).symm
  | cons x xs ih =>
    rw [List.foldl_cons, ih, collect_cons, ← List.append_assoc]
    rfl

theorem mode_foldl_pass (hw : w.mode = .between) (xs : List Lexeme) :
    (xs.foldl pass w).mode = .between := by
  induction xs generalizing w with
  | nil => exact hw
  | cons x xs ih => exact ih rfl

theorem unread_pass (h : w.unread t = x.text ++ rest) : (w.pass x).unread t = rest :=
  unread_move (w := w.mark) h

/-- A cursor passes the pieces of the text behind it, one after the other.  The induction is on the
pieces, and one piece is one use of `leads_pass`. -/
theorem steps_foldl_pass {pre post : List Lexeme} (h : Pieces o s (pre ++ post))
    (hw : w.mode = .between) (hs : w.unread t = s) : Steps o t w (pre.foldl pass w) := by
  induction pre generalizing w s with
  | nil => exact .refl
  | cons x pre ih =>
    cases h with
    | cons hx hxs =>
      have hsteps : Steps o t w (w.pass x) := (leads_pass hw hx hs).steps
      exact hsteps.trans (ih hxs rfl (unread_pass hs))

/-- **A cursor finds what the scan says**, and never reads behind the end. -/
theorem scan_eq (o : Options) (t : Text) : scan o t = some (.ofText o t) := by
  have hpieces : Pieces o t (split o t ++ []) := by
    rw [List.append_nil]
    exact pieces_split o t
  have hsteps := steps_foldl_pass (t := t) (w := {}) hpieces rfl rfl
  have hend : ((split o t).foldl pass {}).unread t = [] := by
    rw [unread, current_foldl_pass, flatMap_text_split, Nat.zero_add, List.drop_length]
  have hlast := step_finish (o := o) (mode_foldl_pass rfl (split o t)) hend
  rw [scan, hsteps.run_eq, run_of_step hlast, run_of_finished rfl, Option.map_some, finish]
  rw [tokens_foldl_pass, reports_foldl_pass, line_foldl_pass, flatMap_text_split, Scan.ofText_eq]
  rfl

/-- The turns of a new cursor end, and what it has written down is the scan. -/
theorem exists_run_eq (o : Options) (t : Text) :
    ∃ w, run o t {} = some w ∧ ⟨w.tokens, w.reports⟩ = Scan.ofText o t :=
  Option.map_eq_some_iff.1 (scan_eq o t)

/-! ## The stops -/

/-- A stop that is reached is the cursor itself, or is reached from where its turns lead. -/
theorem Leads.eq_or_steps {v : Cursor} (h : Leads o t w w') (hv : v.mode = .between)
    (hs : Steps o t w v) : v = w ∨ Steps o t w' v := by
  -- a turn has one outcome, so the way to the stop begins with the same turns
  induction h with
  | one h =>
    rcases hs.cases_head with rfl | ⟨u, hu, hs⟩
    · exact .inl rfl
    · obtain rfl := Option.some.inj (h.symm.trans hu)
      exact .inr hs
  | more h hne _ ih =>
    rcases hs.cases_head with rfl | ⟨u, hu, hs⟩
    · exact .inl rfl
    · obtain rfl := Option.some.inj (h.symm.trans hu)
      rcases ih hs with rfl | hs
      · exact absurd hv hne
      · exact .inr hs

theorem eq_of_steps_finished (hw : w.mode = .finished) (h : Steps o t w w') : w' = w := by
  induction h with
  | refl => rfl
  | tail _ hlast ih =>
    rw [ih, step, hw] at hlast
    exact (Option.some.inj hlast).symm

/-- Between two lexemes a cursor has passed those before it.  The induction is on the pieces: a way
to a stop ends where it begins, or goes by the stop behind the first piece. -/
theorem exists_of_steps {v : Cursor} (h : Pieces o s xs) (hw : w.mode = .between)
    (hs : w.unread t = s) (hsteps : Steps o t w v) (hv : v.mode = .between) :
    ∃ pre post, xs = pre ++ post ∧ v = pre.foldl pass w := by
  induction h generalizing w with
  | nil =>
    rcases hsteps.cases_head with rfl | ⟨u, hu, hsteps⟩
    · exact ⟨[], [], rfl, rfl⟩
    · rw [step_finish hw hs] at hu
      obtain rfl := Option.some.inj hu
      rw [eq_of_steps_finished rfl hsteps] at hv
      exact absurd hv nofun
  | @cons x rest xs hx _ ih =>
    rcases (leads_pass hw hx hs).eq_or_steps hv hsteps with rfl | hsteps
    · exact ⟨[], x :: xs, rfl, rfl⟩
    · obtain ⟨pre, post, rfl, rfl⟩ := ih rfl (unread_pass hs) hsteps
      exact ⟨x :: pre, post, rfl, rfl⟩

/-- **The stops between two lexemes are those behind the first lexemes of the text.** -/
theorem steps_between_iff {w : Cursor} :
    Steps o t {} w ∧ w.mode = .between ↔
      ∃ pre post, split o t = pre ++ post ∧ w = pre.foldl pass {} := by
  constructor
  · rintro ⟨hsteps, hw⟩
    exact exists_of_steps (pieces_split o t) rfl rfl hsteps hw
  · rintro ⟨pre, post, hsplit, rfl⟩
    exact ⟨steps_foldl_pass (pieces_iff.2 hsplit) rfl rfl, mode_foldl_pass rfl pre⟩

end LoxTokens.Cursor

namespace LoxTokens.Scan

open Lexeme

/-- **A scan reads a text by the grammar**, and a cursor that goes through the text does.  The text
has exactly one decomposition into pieces, and none of them is empty.  Each symbol and each closed
string is a token, in this order, with the line on which it begins; then follows one token for the
end.  Each piece that is open or stray is a report. -/
theorem ofText_reads_pieces (o : Options) (t : Text) :
    Cursor.scan o t = some (ofText o t) ∧
      ∃ xs, (∀ ys, Pieces o t ys ↔ ys = xs) ∧ xs.flatMap text = t ∧ [] ∉ xs.map text ∧
        (ofText o t).tokens =
          (locate 0 xs).filterMap (fun p ↦ p.2.token? (Text.lineAt t p.1)) ++ [Token.closing t] ∧
        (ofText o t).reports =
          (locate 0 xs).filterMap fun p ↦ p.2.report? (Text.lineAt t p.1) := by
  refine ⟨Cursor.scan_eq o t, split o t, fun ys ↦ pieces_iff.trans eq_comm, flatMap_text_split o t,
    ?_, tokens_ofText o t, reports_ofText o t⟩
  rw [List.mem_map]
  rintro ⟨x, -, hx⟩
  exact x.text_ne_nil hx

/-- The star that opens a comment is none of the two characters that close it. -/
example : split {} ['/', '*', '/'] = [openComment ['/']] := by cbv

end LoxTokens.Scan
