import LoxTokens.Proofs.Grammar

/-!
# Rewriting a text lexeme by lexeme

Many laws of scans compare two texts, or two ways to read one text, where each lexeme of the first
becomes one or more lexemes of the second.  What has to be known of a single lexeme for this to
carry over to a whole text is gathered in a `Lexeme.Rewriting`: that its parts are pieces of the
grammar again, in front of any rest that is like the old one, and that they take as many lines.  In
what the rests have to be alike is for each rewriting to choose.  It has to be enough for the lexeme
in front of them, and has to hold again where that lexeme begins.

* `Lexeme.Rewriting.split_apply` — the lexemes of the rewritten text are the parts of those of the
  text.
* `Lexeme.Rewriting.tokens_apply`, `Lexeme.Rewriting.reports_apply` — what becomes of the tokens and
  the reports of one lexeme becomes of those of the text.
* `Scan.mapIdx_eq_flatMap` — a text that is changed character by character, each according to its
  position, is changed lexeme by lexeme.

The rewritings are in `LoxTokens.Proofs.Blanking` and `LoxTokens.Proofs.Dialects`.  Each of them has
to prove something of one lexeme at a time, and nothing of texts.
-/

set_option autoImplicit false

namespace LoxTokens

namespace Lexeme

variable {o o' : Options}

/-- A way to rewrite the lexemes that are read under the options `o` into lexemes that are read
under `o'`.  A rewriting knows the lexemes one at a time.  What it asks of the text behind a lexeme
is that the old and the new one are `Alike`. -/
structure Rewriting (o o' : Options) where
  /-- What a lexeme becomes. -/
  parts : Lexeme → List Lexeme
  /-- What the text behind a lexeme and the rewritten text have in common. -/
  Alike : Text → Text → Prop
  alike_nil : Alike [] []
  alike_append {x : Lexeme} {r q : Text} (hx : Fits o x r) (h : Alike r q) :
    Alike (x.text ++ r) ((parts x).flatMap text ++ q)
  /-- In front of a rest that is like the old one, the parts are pieces. -/
  pieces_append {x : Lexeme} {r q : Text} {ys : List Lexeme} (hx : Fits o x r) (h : Alike r q)
    (hys : Pieces o' q ys) : Pieces o' ((parts x).flatMap text ++ q) (parts x ++ ys)
  /-- The parts take as many lines. -/
  newlines_parts (x : Lexeme) : Text.newlines ((parts x).flatMap text) = Text.newlines x.text

namespace Rewriting

variable (w : Rewriting o o')

/-- The rewritten text. -/
def apply (t : Text) : Text := ((split o t).flatMap w.parts).flatMap text

theorem alike_and_pieces {t : Text} {xs : List Lexeme} (h : Pieces o t xs) :
    w.Alike t ((xs.flatMap w.parts).flatMap text) ∧
      Pieces o' ((xs.flatMap w.parts).flatMap text) (xs.flatMap w.parts) := by
  induction h with
  | nil => exact ⟨w.alike_nil, .nil⟩
  | cons hx _ ih =>
    rw [List.flatMap_cons, List.flatMap_append]
    exact ⟨w.alike_append hx ih.1, w.pieces_append hx ih.1 ih.2⟩

theorem alike_apply (t : Text) : w.Alike t (w.apply t) := (w.alike_and_pieces (pieces_split o t)).1

/-- **The lexemes of the rewritten text are the parts of the lexemes.** -/
theorem split_apply (t : Text) : split o' (w.apply t) = (split o t).flatMap w.parts :=
  (w.alike_and_pieces (pieces_split o t)).2.split_eq

theorem newlines_flatMap_parts (xs : List Lexeme) :
    Text.newlines ((xs.flatMap w.parts).flatMap text) = Text.newlines (xs.flatMap text) := by
  induction xs with
  | nil => rfl
  | cons x xs ih =>
    rw [List.flatMap_cons, List.flatMap_append, Text.newlines_append, ih, w.newlines_parts,
      List.flatMap_cons, Text.newlines_append]

theorem newlines_apply (t : Text) : Text.newlines (w.apply t) = Text.newlines t := by
  rw [apply, newlines_flatMap_parts, flatMap_text_split]

/-- What the parts yield is made from what the lexemes yield, if it is so for each of them. -/
theorem collect_parts {α : Type} {f : Nat → Lexeme → Option α} {g : α → List α}
    (hf : ∀ line x, collect f line (w.parts x) = (f line x).toList.flatMap g) (line : Nat)
    (xs : List Lexeme) : collect f line (xs.flatMap w.parts) = (collect f line xs).flatMap g := by
  induction xs generalizing line with
  | nil => rfl
  | cons x xs ih =>
    rw [List.flatMap_cons, collect_append, hf, w.newlines_parts, ih, collect_cons,
      List.flatMap_append]

theorem tokens_apply {g : Token → List Token}
    (hg : ∀ line x, collect token? line (w.parts x) = (x.token? line).toList.flatMap g) (t : Text)
    (hend : g (Token.closing t) = [Token.closing t]) :
    (Scan.ofText o' (w.apply t)).tokens = (Scan.ofText o t).tokens.flatMap g := by
  rw [Scan.ofText_eq, Scan.ofText_eq, split_apply, w.collect_parts hg, List.flatMap_append,
    List.flatMap_singleton, hend, Token.closing, newlines_apply]
  rfl

theorem reports_apply {g : Report → List Report}
    (hg : ∀ line x, collect report? line (w.parts x) = (x.report? line).toList.flatMap g)
    (t : Text) : (Scan.ofText o' (w.apply t)).reports = (Scan.ofText o t).reports.flatMap g := by
  rw [Scan.ofText_eq, Scan.ofText_eq, split_apply, w.collect_parts hg]

end Rewriting

end Lexeme

namespace Scan

open Lexeme

/-! ## Changing the characters of a text -/

/-- Lexemes whose characters are changed according to their positions. -/
theorem mapIdx_flatMap_text {g : Nat → Char → Char} {h : Lexeme → Text} {q : Nat}
    {xs : List Lexeme}
    (hg : ∀ p x, (p, x) ∈ locate q xs → x.text.mapIdx (fun i ↦ g (i + p)) = h x) :
    (xs.flatMap text).mapIdx (fun i ↦ g (i + q)) = xs.flatMap h := by
  induction xs generalizing q with
  | nil => rfl
  | cons x xs ih =>
    have hfirst := hg q x List.mem_cons_self
    have hrest := ih fun p y hy ↦ hg p y (List.mem_cons_of_mem _ hy)
    rw [List.flatMap_cons, List.mapIdx_append, hfirst, List.flatMap_cons, ← hrest]
    simp only [Nat.add_assoc, Nat.add_comm q]

/-- A text that is changed according to positions is changed lexeme by lexeme, if it is so for each
of its lexemes.  In this way a law can be stated of positions, where it is plain what it says, and
proved of lexemes. -/
theorem mapIdx_eq_flatMap {o : Options} {t : Text} {g : Nat → Char → Char} {h : Lexeme → Text}
    (hg : ∀ p x, (p, x) ∈ locate 0 (split o t) → x.text.mapIdx (fun i ↦ g (i + p)) = h x) :
    t.mapIdx g = (split o t).flatMap h := by
  have := mapIdx_flatMap_text hg
  rwa [flatMap_text_split] at this

end Scan

end LoxTokens
