import LoxTokens.Proofs.Reading

/-!
# Cutting a text between two lexemes

A text that is cut where one lexeme ends and the next begins can be scanned in parts: the scan of
the whole is the scan of the front without its last token, followed by the scan of the back with its
lines counted on.

* `Lexeme.Boundary o t p` — a cursor that goes through `t` comes to the position `p` when it is
  between two lexemes.  This is the state in which the loop of `scan_tokens` asks `_at_end`.
* `split_eq_append_of_boundary` — at a boundary the two parts split into the lexemes of the whole.
  The lexeme in front of the cut was read in sight of the character behind it and is now read in
  front of the end, but a lexeme stays one if the text ends behind it (`Fits.of_head?`).
* `boundary_of_closed` — a text that ends with its last line, and leaves nothing open, ends at a
  boundary whatever is put behind it.

The last of these is the practical one, because it can be seen from the front alone: a file that
ends with a line feed, and whose scan reports nothing open, can be put in front of any other.
-/

set_option autoImplicit false

namespace LoxTokens

namespace Lexeme

variable {o : Options}

/-! ## Boundaries -/

/-- Going through the text, a cursor comes to the position between two lexemes.  There the front of
the text has been read, and of the back nothing has been looked at that matters any more. -/
def Boundary (o : Options) (t : Text) (p : Nat) : Prop :=
  ∃ w, Cursor.Steps o t {} w ∧ w.mode = .between ∧ w.current = p

/-- A boundary is where some first lexemes of the text end. -/
theorem boundary_iff_exists {t : Text} {p : Nat} :
    Boundary o t p ↔ ∃ xs ys, split o t = xs ++ ys ∧ p = (xs.flatMap text).length := by
  have hcurrent (xs : List Lexeme) :
      (xs.foldl Cursor.pass {}).current = (xs.flatMap text).length := by
    rw [Cursor.current_foldl_pass, Nat.zero_add]
  constructor
  · rintro ⟨w, hsteps, hmode, rfl⟩
    obtain ⟨xs, ys, hsplit, rfl⟩ := Cursor.steps_between_iff.1 ⟨hsteps, hmode⟩
    exact ⟨xs, ys, hsplit, hcurrent xs⟩
  · rintro ⟨xs, ys, hsplit, rfl⟩
    obtain ⟨hsteps, hmode⟩ := Cursor.steps_between_iff.2 ⟨xs, ys, hsplit, rfl⟩
    exact ⟨_, hsteps, hmode, hcurrent xs⟩

/-! ## The lexemes of the parts -/

theorem Pieces.right {t : Text} {xs ys : List Lexeme} (h : Pieces o t (xs ++ ys)) :
    Pieces o (ys.flatMap text) ys := by
  induction xs generalizing t with
  | nil =>
    rw [List.nil_append] at h
    rwa [h.flatMap_text]
  | cons x xs ih =>
    cases h with
    | cons _ hxs => exact ih hxs

theorem Pieces.left {t : Text} {xs ys : List Lexeme} (h : Pieces o t (xs ++ ys)) :
    Pieces o (xs.flatMap text) xs := by
  induction xs generalizing t with
  | nil => exact .nil
  | cons x xs ih =>
    cases h with
    | @cons _ rest _ hx hxs =>
      have hrest : (xs ++ ys).flatMap text = rest := hxs.flatMap_text
      rw [List.flatMap_append] at hrest
      -- the last of the lexemes sees the end instead of `ys`, all others see the same character
      refine .cons (hx.of_head? ?_) (ih hxs)
      intro c hc
      rw [← hrest, List.head?_append, show (xs.flatMap text).head? = some c from hc]
      rfl

/-- **At a boundary the lexemes of a text are those of its two parts.**  The front has to be looked
at once more, since its last lexeme has lost what came behind it; the back is read as it was. -/
theorem split_eq_append_of_boundary {t : Text} {p : Nat} (h : Boundary o t p) :
    split o t = split o (t.take p) ++ split o (t.drop p) := by
  obtain ⟨xs, ys, hsplit, rfl⟩ := boundary_iff_exists.1 h
  have hpieces := pieces_iff.2 hsplit
  have htext := hpieces.flatMap_text
  rw [List.flatMap_append] at htext
  rw [hsplit, ← htext, List.take_left, List.drop_left, hpieces.left.split_eq,
    hpieces.right.split_eq]

theorem boundary_append {a b : Text} (h : split o (a ++ b) = split o a ++ split o b) :
    Boundary o (a ++ b) a.length :=
  boundary_iff_exists.2 ⟨split o a, split o b, h, by rw [flatMap_text_split]⟩

theorem boundary_zero (o : Options) (t : Text) : Boundary o t 0 := ⟨{}, .refl, rfl, rfl⟩

theorem boundary_length (o : Options) (t : Text) : Boundary o t t.length := by
  have h := boundary_append (o := o) (a := t) (b := []) (by simp)
  rwa [List.append_nil] at h

/-! ## A text that leaves nothing open -/

/-- Of the lexemes that are closed only a line feed ends with one.  So what ends with a line feed
ends with a lexeme that no text behind it can change. -/
theorem Fits.eq_blank_of_getLast? {x : Lexeme} {rest : Text} (h : Fits o x rest)
    (hclosed : x.isOpen = false) (hlast : x.text.getLast? = some '\n') : x = .blank '\n' := by
  cases x with
  | symbol s =>
    revert hlast
    cases s <;> decide
  | string body => simp [text, List.getLast?_cons] at hlast
  | openString body => simp [isOpen] at hclosed
  | lineComment second body =>
    cases h with
    | lineComment hsecond hbody _ =>
      have hmem : '\n' ∈ second :: body := List.mem_of_getLast? hlast
      rcases List.mem_cons.1 hmem with rfl | hmem
      · simp at hsecond
      · exact absurd hmem hbody
  | blockComment body => simp [text, List.getLast?_cons] at hlast
  | openComment body => simp [isOpen] at hclosed
  | blank c =>
    obtain rfl := Option.some.inj hlast
    rfl
  | stray c =>
    obtain rfl := Option.some.inj hlast
    cases h with
    | stray hc => exact absurd (by decide) hc

/-- Lexemes that leave nothing open and end with a line feed stay what they are in front of any
text. -/
theorem Pieces.append_of_closed {a b : Text} {xs ys : List Lexeme} (h : Pieces o a xs)
    (hb : Pieces o b ys) (hend : a = [] ∨ a.getLast? = some '\n')
    (hclosed : ∀ x ∈ xs, x.isOpen = false) : Pieces o (a ++ b) (xs ++ ys) := by
  rcases List.eq_nil_or_concat xs with rfl | ⟨init, x, rfl⟩
  · rwa [← h.flatMap_text]
  · rw [List.concat_eq_append] at h hclosed ⊢
    have htext : init.flatMap text ++ x.text = a := by
      rw [← h.flatMap_text, List.flatMap_append, List.flatMap_singleton]
    have hlast : x.text.getLast? = some '\n' := by
      rw [← htext] at hend
      rw [← List.getLast?_append_of_ne_nil _ x.text_ne_nil]
      exact hend.resolve_left (List.append_ne_nil_of_right_ne_nil _ x.text_ne_nil)
    have hx : x.isOpen = false := hclosed x (List.mem_append_right _ List.mem_cons_self)
    obtain rfl := h.fits.eq_blank_of_getLast? hx hlast
    rw [List.append_assoc]
    exact h.append_of_concat (.cons (.blank (by simp)) hb)

/-- An open lexeme is reported as one. -/
theorem exists_report_of_isOpen {x : Lexeme} (h : x.isOpen = true) (line : Nat) :
    ∃ r, x.report? line = some r ∧
      (r.fault = .unterminatedString ∨ r.fault = .unterminatedComment) := by
  cases x with
  | openString body => exact ⟨_, rfl, .inl rfl⟩
  | openComment body => exact ⟨_, rfl, .inr rfl⟩
  | _ => simp [isOpen] at h

/-- **A text that ends with its last line, and leaves nothing open, ends at a boundary** whatever
comes behind it. -/
theorem boundary_of_closed {a : Text} (b : Text) (hend : a = [] ∨ a.getLast? = some '\n')
    (hclosed : ∀ r ∈ (Scan.ofText o a).reports,
      r.fault ≠ .unterminatedString ∧ r.fault ≠ .unterminatedComment) :
    Boundary o (a ++ b) a.length := by
  refine boundary_append ((pieces_split o a).append_of_closed (pieces_split o b) hend ?_).split_eq
  intro x hx
  by_contra hopen
  obtain ⟨n, hmem⟩ := exists_mem_collect hx
  obtain ⟨r, hr, hfault⟩ := exists_report_of_isOpen (eq_true_of_ne_false hopen) n
  obtain ⟨hstring, hcomment⟩ := hclosed r (hmem r hr)
  exact hfault.elim hstring hcomment

end Lexeme

/-!
## Counting lines on

A scan that begins further down yields the same further down.  Neither tokens nor reports depend on
the line in any other way.
-/

/-- The token a number of lines further down. -/
def Token.shift (k : Nat) (t : Token) : Token := { t with line := t.line + k }

/-- The report a number of lines further down. -/
def Report.shift (k : Nat) (r : Report) : Report := { r with line := r.line + k }

namespace Lexeme

theorem token?_add (k line : Nat) (x : Lexeme) :
    x.token? (line + k) = (x.token? line).map (Token.shift k) := by
  cases x <;> simp [token?, Token.shift]

theorem report?_add (k line : Nat) (x : Lexeme) :
    x.report? (line + k) = (x.report? line).map (Report.shift k) := by
  cases x <;> simp [report?, Report.shift, Nat.add_right_comm]

/-- What is yielded further down is what is yielded here, moved down. -/
theorem collect_add {α : Type} {f : Nat → Lexeme → Option α} {g : α → α} {k : Nat}
    (hf : ∀ line x, f (line + k) x = (f line x).map g) (line : Nat) (xs : List Lexeme) :
    collect f (line + k) xs = (collect f line xs).map g := by
  induction xs generalizing line with
  | nil => rfl
  | cons x xs ih =>
    rw [collect_cons, collect_cons, hf, Nat.add_right_comm, ih, List.map_append]
    cases f line x <;> rfl

end Lexeme

namespace Scan

open Lexeme

variable {o : Options}

/-- The scan of a text is made up of the scans of its two parts. -/
theorem ofText_of_split_eq {t a b : Text} (ht : t = a ++ b)
    (hsplit : split o t = split o a ++ split o b) :
    (ofText o t).tokens = (ofText o a).tokens.dropLast
        ++ (ofText o b).tokens.map (Token.shift (Text.newlines a)) ∧
      (ofText o t).reports = (ofText o a).reports
        ++ (ofText o b).reports.map (Report.shift (Text.newlines a)) := by
  have hclosing : Token.closing t = (Token.closing b).shift (Text.newlines a) := by
    rw [Token.closing, Token.closing, Token.shift, ht, Text.newlines_append, ← Int.natCast_add,
      Nat.add_assoc, Nat.add_comm (Text.newlines b)]
  rw [ofText_eq, ofText_eq, ofText_eq, hsplit, collect_append, collect_append, flatMap_text_split,
    collect_add (token?_add _), collect_add (report?_add _), hclosing]
  refine ⟨?_, rfl⟩
  rw [List.dropLast_concat, List.map_append, List.append_assoc]
  rfl

/-- **Scanning in parts.**  At every boundary of a text its tokens are those of the front without
the last, followed by those of the back with the lines of the front counted on, and its reports are
made up in the same way.  Both ends of a text are boundaries.  So is the end of a text that is empty
or ends with its last line, and leaves nothing open, in front of any other text. -/
theorem ofText_cut (o : Options) :
    (∀ t p, Boundary o t p →
      (ofText o t).tokens = (ofText o (t.take p)).tokens.dropLast
          ++ (ofText o (t.drop p)).tokens.map (Token.shift (Text.newlines (t.take p))) ∧
        (ofText o t).reports = (ofText o (t.take p)).reports
          ++ (ofText o (t.drop p)).reports.map (Report.shift (Text.newlines (t.take p)))) ∧
      (∀ t, Boundary o t 0 ∧ Boundary o t t.length) ∧
      ∀ a b : Text, (a = [] ∨ a.getLast? = some '\n') →
        (∀ r ∈ (ofText o a).reports,
          r.fault ≠ .unterminatedString ∧ r.fault ≠ .unterminatedComment) →
        Boundary o (a ++ b) a.length := by
  refine ⟨?_, fun t ↦ ⟨boundary_zero o t, boundary_length o t⟩, fun a b ↦ boundary_of_closed b⟩
  intro t p h
  exact ofText_of_split_eq (List.take_append_drop p t).symm (split_eq_append_of_boundary h)

/-- A string over two lines and a slash, cut off in front of a star that belongs to no comment; and
a line with a stray character in front of a quote. -/
theorem ofText_cut_slash :
    (Boundary {} ['"', '\n', '"', '/', ' ', '*'] 4 ∧
      (ofText {} ['"', '\n', '"', '/', ' ', '*']).tokens =
        (ofText {} ['"', '\n', '"', '/']).tokens.dropLast
          ++ (ofText {} [' ', '*']).tokens.map (Token.shift 1)) ∧
      (∀ r ∈ (ofText {} ['@', '\n']).reports,
        r.fault ≠ .unterminatedString ∧ r.fault ≠ .unterminatedComment) ∧
      Boundary {} (['@', '\n'] ++ ['"']) 2 := by
  have hcut : Boundary {} (['"', '\n', '"', '/'] ++ [' ', '*']) 4 :=
    boundary_append (by decide +kernel)
  have hclosed : ∀ r ∈ (ofText {} ['@', '\n']).reports,
      r.fault ≠ .unterminatedString ∧ r.fault ≠ .unterminatedComment := by decide +kernel
  exact ⟨⟨hcut, ((ofText_cut {}).1 _ 4 hcut).1⟩, hclosed,
    (ofText_cut {}).2.2 ['@', '\n'] ['"'] (.inr rfl) hclosed⟩

end Scan

end LoxTokens
