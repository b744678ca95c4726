import LoxTokens.Proofs.Reading

/-!
# Renaming characters

Of the characters of a text only the twenty that begin a lexeme of their own are told apart
(`Lexeme.openers`).  A `Lexeme.Renaming` keeps each of them and mixes no other character up with
them; what it does among the others is left open, so that two of them may become the same.

A cursor that goes through the renamed text takes the very turns that it takes through the text, and
writes down renamed tokens, whatever it has written down before (`Cursor.step_relay`).  Hence its
whole way is the same (`Cursor.steps_relay`, `Cursor.run_relay`), and `Scan.ofText_map` says what
this means for a scan.  If every character keeps its name, what is left is that a turn adds to what
was written down before, and does not look at it (`Cursor.step_eq_map_relay`).

`Cursor.peek` answers with NUL where a text ends, as `_peek` does with `NULL_CHAR`.  Nevertheless
NUL is read like any other character that begins nothing, wherever it stands
(`Cursor.exists_step_of_nul`).  No loop takes the answer for the end without asking `_at_end` as
well.

So letters, digits and all of Unicode beyond ASCII are one class to the scanner.  This is a fact of
the cursor and not only of its result, and it is shown by going through the functions that a turn is
made of, in the order in which they are defined.
-/

set_option autoImplicit false

namespace LoxTokens

namespace Lexeme

/-- The twenty openers, one by one. -/
theorem openers_eq : openers =
    ['(', ')', '{', '}', ',', '.', '-', '+', ';', '!', '=', '<', '>', '*', '/', '"', ' ', '\r',
      '\t', '\n'] := rfl

/-- A renaming of characters under which the openers, and no other characters, are openers.  It need
not be one to one, and none is lost by that: the scanner asks nothing of the other characters but
whether they are openers. -/
structure Renaming (f : Char → Char) : Prop where
  /-- An opener keeps its name. -/
  fixes : ∀ c ∈ openers, f c = c
  /-- What is no opener does not become one. -/
  keeps : ∀ c, c ∉ openers → f c ∉ openers

namespace Renaming

variable {f : Char → Char} (hf : Renaming f)

include hf

theorem eq_iff {c d : Char} (hd : d ∈ openers) : f c = d ↔ c = d := by
  constructor
  · intro h
    by_cases hc : c ∈ openers
    · rwa [hf.fixes c hc] at h
    · exact absurd (h ▸ hd) (hf.keeps c hc)
  · rintro rfl
    exact hf.fixes c hd

end Renaming

end Lexeme

/-- The token with its characters renamed. -/
def Token.rename (f : Char → Char) (k : Token) : Token :=
  { k with lexeme := k.lexeme.map f, literal := k.literal.map (List.map f) }

namespace Cursor

open Lexeme

/-- The cursor with the characters of its tokens renamed, and with tokens and reports in front of
those that it has written down. -/
def relay (f : Char → Char) (ts : List Token) (rs : List Report) (w : Cursor) : Cursor :=
  { w with tokens := ts ++ w.tokens.map (.rename f), reports := rs ++ w.reports }

/-- The cursor with the characters of its tokens renamed. -/
def rename (f : Char → Char) (w : Cursor) : Cursor := w.relay f [] []

variable {f : Char → Char} {ts : List Token} {rs : List Report} {o : Options} {t : Text}
  {w w' : Cursor}

/-! ## One turn -/

theorem atEnd_relay : (w.relay f ts rs).atEnd (t.map f) = w.atEnd t := by
  simp [atEnd, relay]

theorem addToken_relay (kind : Kind) (literal : Option Text) :
    (w.relay f ts rs).addToken (t.map f) kind (literal.map (List.map f)) =
      (w.addToken t kind literal).relay f ts rs := by
  simp [addToken, relay, Token.rename, List.extract_eq_take_drop, List.map_take, List.map_drop]

theorem addReport_relay (line : Nat) (fault : Fault) :
    (w.relay f ts rs).addReport line fault = (w.addReport line fault).relay f ts rs := by
  simp [addReport, relay]

theorem afterString_relay :
    (w.relay f ts rs).afterString (t.map f) = (w.afterString t).relay f ts rs := by
  rw [afterString, afterString, ← addToken_relay]
  simp [relay, List.extract_eq_take_drop, List.map_take, List.map_drop]

section

variable (hf : Renaming f)

include hf

/-- To read a character of the renamed text is to read its original. -/
theorem advance?_relay :
    (w.relay f ts rs).advance? (t.map f) =
      (w.advance? t).map fun p ↦ (f p.1, p.2.relay f ts rs) := by
  have hfeed (c : Char) : f c = '\n' ↔ c = '\n' := hf.eq_iff (by decide)
  simp [advance?, relay, Function.comp_def, hfeed]

/-- A character is accepted in both texts or in neither, since all that is ever accepted are
openers. -/
theorem accept?_relay {d : Char} (hd : d ∈ openers) :
    (w.relay f ts rs).accept? (t.map f) d = (w.accept? t d).map (relay f ts rs) := by
  have hnext : (t.map f)[w.current]? = some d ↔ t[w.current]? = some d := by
    simp [hf.eq_iff hd]
  rw [accept?, accept?, show (w.relay f ts rs).current = w.current from rfl]
  by_cases h : t[w.current]? = some d
  · rw [if_pos h, if_pos (hnext.2 h)]
    rfl
  · rw [if_neg h, if_neg (mt hnext.1 h)]
    rfl

/-- At `d`, whichever of the openers it is, the turns of a comment or string go on or end alike. -/
theorem peek_relay {d : Char} (hd : d ∈ openers) :
    ((w.relay f ts rs).peek (t.map f) ≠ d ∧ ¬ (w.relay f ts rs).atEnd (t.map f)) ↔
      (w.peek t ≠ d ∧ ¬ w.atEnd t) := by
  rw [atEnd_relay]
  refine and_congr_left fun hend ↦ not_congr ?_
  have hlt : w.current < t.length := by simpa [atEnd] using hend
  simp [peek, relay, hlt, hf.eq_iff hd]

theorem afterPair_relay (short long : Symbol) :
    (w.relay f ts rs).afterPair (t.map f) short long =
      (w.afterPair t short long).relay f ts rs := by
  rw [afterPair, afterPair, accept?_relay hf (by decide)]
  cases w.accept? t '=' <;> exact addToken_relay _ none

theorem afterStar_relay :
    (w.relay f ts rs).afterStar o (t.map f) = (w.afterStar o t).relay f ts rs := by
  rw [afterStar, afterStar, accept?_relay hf (by decide)]
  cases o.exponentOperator with
  | false => exact addToken_relay _ none
  | true => cases w.accept? t '*' <;> exact addToken_relay _ none

theorem afterSlash_relay :
    (w.relay f ts rs).afterSlash o (t.map f) = (w.afterSlash o t).relay f ts rs := by
  rw [afterSlash, afterSlash, accept?_relay hf (by decide), accept?_relay hf (by decide)]
  cases w.accept? t '/' with
  | some v => rfl
  | none =>
    cases w.accept? t '*' with
    | some v => rfl
    | none => exact addToken_relay _ none

theorem after_relay (c : Char) :
    (w.relay f ts rs).after o (t.map f) (f c) = (w.after o t c).relay f ts rs := by
  by_cases hc : c ∈ openers
  · rw [hf.fixes c hc, after, after]
    cases Symbol.single? c with
    | some s => exact addToken_relay _ none
    | none =>
      cases Symbol.pair? c with
      | some p => exact afterPair_relay hf p.1 p.2
      | none =>
        simp only [afterStar_relay hf, afterSlash_relay hf]
        repeat' split
        · rfl
        · rfl
        · rfl
        · rfl
        · exact addReport_relay _ _
  · rw [after_of_not_mem_openers hc, after_of_not_mem_openers (hf.keeps c hc)]
    exact addReport_relay _ _

theorem afterComment_relay (c : Char) :
    (w.relay f ts rs).afterComment (t.map f) (f c) = (w.afterComment t c).relay f ts rs := by
  have hstar : f c = '*' ↔ c = '*' := hf.eq_iff (by decide)
  rw [afterComment, afterComment, accept?_relay hf (by decide)]
  by_cases hc : c = '*'
  · rw [if_pos hc, if_pos (hstar.2 hc)]
    cases w.accept? t '/' <;> rfl
  · rw [if_neg hc, if_neg (mt hstar.1 hc)]

/-- What is done with a character that is read goes along with a renaming if it does so for each
character. -/
theorem map_advance?_relay {g g' : Char × Cursor → Cursor}
    (hg : ∀ c v, g' (f c, relay f ts rs v) = (g (c, v)).relay f ts rs) :
    ((w.relay f ts rs).advance? (t.map f)).map g' = ((w.advance? t).map g).map (relay f ts rs) := by
  rw [advance?_relay hf, Option.map_map, Option.map_map]
  exact congrArg (Option.map · (w.advance? t)) (funext fun p ↦ hg p.1 p.2)

/-- **Renaming takes turns to turns**, whatever was written down before.  The cases are the modes,
and every test in them is of an opener or of the end. -/
theorem step_relay : (w.relay f ts rs).step o (t.map f) = (w.step o t).map (relay f ts rs) := by
  have hmode : (w.relay f ts rs).mode = w.mode := rfl
  have hmark : (w.relay f ts rs).mark = w.mark.relay f ts rs := rfl
  rw [step, step, hmode]
  cases w.mode with
  | between =>
    dsimp only
    rw [atEnd_relay, hmark]
    split
    · simp [finish, relay, Token.rename]
    · exact map_advance?_relay hf fun c v ↦ after_relay hf c
  -- the line feed is an opener, since it is a blank
  | lineComment =>
    dsimp only
    rw [if_congr (peek_relay hf (by decide)) rfl rfl]
    split
    · exact map_advance?_relay hf fun c v ↦ rfl
    · rfl
  | blockComment =>
    dsimp only
    rw [atEnd_relay]
    split
    · exact congrArg some (addReport_relay _ _)
    · exact map_advance?_relay hf fun c v ↦ afterComment_relay hf c
  | string =>
    dsimp only
    -- so is the quote
    rw [if_congr (peek_relay hf (by decide)) rfl rfl, atEnd_relay]
    split
    · exact map_advance?_relay hf fun c v ↦ rfl
    · split
      · exact congrArg some (addReport_relay _ _)
      · exact map_advance?_relay hf fun c v ↦ afterString_relay
  | finished => rfl

/-! ## The whole way -/

theorem steps_relay (h : Steps o t w w') :
    Steps o (t.map f) (w.relay f ts rs) (w'.relay f ts rs) := by
  induction h with
  | refl => exact .refl
  | tail _ hlast ih =>
    refine ih.tail ?_
    rw [step_relay hf, hlast, Option.map_some]

/-- The renamed text is gone through to the end by the same turns. -/
theorem run_relay : (w.relay f ts rs).run o (t.map f) = (w.run o t).map (relay f ts rs) := by
  fun_induction run o t w with
  | case1 w hw => exact run_of_finished hw
  | case2 w hw hstep =>
    refine run_of_step_eq_none ?_
    rw [step_relay hf, hstep, Option.map_none]
  | case3 w hw w' hstep ih =>
    have hnext : (w.relay f ts rs).step o (t.map f) = some (w'.relay f ts rs) := by
      rw [step_relay hf, hstep, Option.map_some]
    rw [run_of_step hnext, ih]

end

/-! ## What was written down before -/

/-- A turn does not look at what was written down before, and keeps it. -/
theorem step_eq_map_relay (o : Options) (t : Text) (w : Cursor) :
    w.step o t = (step o t { w with tokens := [], reports := [] }).map
      (relay id w.tokens w.reports) := by
  have hid : Renaming id := ⟨fun _ _ ↦ rfl, fun _ h ↦ h⟩
  have hw : w = relay id w.tokens w.reports { w with tokens := [], reports := [] } := by
    simp [relay]
  conv_lhs => rw [hw, ← List.map_id t]
  exact step_relay hid

theorem reports_isPrefix_of_step (h : w.step o t = some w') : w.reports <+: w'.reports := by
  rw [step_eq_map_relay] at h
  obtain ⟨v, -, rfl⟩ := Option.map_eq_some_iff.1 h
  exact List.prefix_append _ _

/-! ## A character that stands for the end -/

/-- **NUL is not taken for the end.**  Wherever a cursor comes upon it, it reads it as one character
more and stays in what it is in the middle of; between two lexemes it finds nothing wrong but the
character itself.  Behind the end `_peek` gives the same character, and `_at_end` tells the two
apart. -/
theorem exists_step_of_nul (o : Options) (hw : w.mode ≠ .finished)
    (h : t[w.current]? = some '\x00') :
    ∃ w', w.step o t = some w' ∧ w'.current = w.current + 1 ∧ w'.mode = w.mode ∧
      w'.tokens = w.tokens ∧
      w'.reports = w.reports ++
        if w.mode = .between then [⟨w.line, .unexpectedCharacter⟩] else [] := by
  obtain ⟨u, hun⟩ := List.head?_eq_some_iff.1 (getElem?_current t w ▸ h)
  cases hmode : w.mode with
  | between =>
    have hline : (w.mark.move ['\x00']).line = w.line := rfl
    refine ⟨_, step_between hmode hun, ?_⟩
    rw [after_of_not_mem_openers (by decide), hline]
    exact ⟨rfl, rfl, rfl, rfl⟩
  | lineComment =>
    exact ⟨_, step_lineComment hmode hun (by decide), rfl, hmode, rfl, (List.append_nil _).symm⟩
  | blockComment =>
    exact ⟨_, step_blockComment hmode hun, rfl, hmode, rfl, (List.append_nil _).symm⟩
  | string =>
    exact ⟨_, step_string hmode hun (by decide), rfl, hmode, rfl, (List.append_nil _).symm⟩
  | finished => exact absurd hmode hw

end Cursor

namespace Scan

open Lexeme

/-- The scan with the characters of its tokens renamed. -/
def rename (f : Char → Char) (s : Scan) : Scan := { s with tokens := s.tokens.map (.rename f) }

variable {f : Char → Char}

theorem ofText_map_eq_rename (hf : Renaming f) (o : Options) (t : Text) :
    ofText o (t.map f) = (ofText o t).rename f := by
  have hrun : Cursor.scan o (t.map f) = (Cursor.scan o t).map (rename f) := by
    have hrun : Cursor.run o (t.map f) (Cursor.rename f {}) =
        (Cursor.run o t {}).map (Cursor.rename f) := Cursor.run_relay hf
    change Cursor.run o (t.map f) {} = _ at hrun
    rw [Cursor.scan, hrun, Cursor.scan, Option.map_map, Option.map_map]
    rfl
  rw [Cursor.scan_eq, Cursor.scan_eq, Option.map_some] at hrun
  exact Option.some.inj hrun

/-- **Only twenty characters matter.**  If a renaming keeps the openers, and takes all others to
others, the renamed text has the renamed tokens on the same lines, and the same reports.  A cursor
goes through both texts by the same turns.  In particular NUL, with which a cursor is told of the
end, is nowhere taken for it. -/
theorem ofText_map (hf : Renaming f) (o : Options) (t : Text) :
    openers = ['(', ')', '{', '}', ',', '.', '-', '+', ';', '!', '=', '<', '>', '*', '/', '"', ' ',
        '\r', '\t', '\n'] ∧
      (ofText o (t.map f)).tokens = (ofText o t).tokens.map (fun k ↦
        ⟨k.kind, k.lexeme.map f, k.literal.map (List.map f), k.line⟩) ∧
      (ofText o (t.map f)).reports = (ofText o t).reports ∧
      (∀ w w', Cursor.Steps o t w w' → Cursor.Steps o (t.map f) (w.rename f) (w'.rename f)) ∧
      ∀ w : Cursor, w.mode ≠ .finished → t[w.current]? = some '\x00' →
        ∃ w', w.step o t = some w' ∧ w'.current = w.current + 1 ∧ w'.mode = w.mode ∧
          w'.tokens = w.tokens ∧
          w'.reports = w.reports ++
            if w.mode = .between then [⟨w.line, .unexpectedCharacter⟩] else [] := by
  rw [ofText_map_eq_rename hf]
  exact ⟨openers_eq, rfl, rfl, fun w w' ↦ Cursor.steps_relay hf,
    fun w ↦ Cursor.exists_step_of_nul o⟩

/-- A letter for NUL and for all else that is no opener. -/
theorem ofText_map_letter :
    Renaming (fun c ↦ if c ∈ openers then c else 'x') ∧
      (ofText {} ['"', 'x', '"', 'x', '/', '*', 'x']).tokens =
        [⟨.string, ['"', 'x', '"'], some ['x'], 1⟩, ⟨.endOfInput, [], none, 1⟩] ∧
      (ofText {} ['"', 'x', '"', 'x', '/', '*', 'x']).reports =
        [⟨1, .unexpectedCharacter⟩, ⟨1, .unterminatedComment⟩] ∧
      (Cursor.Steps {} ['"', '\x00', '"', '@', '/', '*', '\x00'] {} ⟨.string, 0, 1, 1, 1, [], []⟩ ∧
        Cursor.Steps {} ['"', 'x', '"', 'x', '/', '*', 'x'] {} ⟨.string, 0, 1, 1, 1, [], []⟩) ∧
      ∃ w', Cursor.step {} ['"', '\x00', '"', '@', '/', '*', '\x00']
          ⟨.string, 0, 1, 1, 1, [], []⟩ = some w' ∧ w'.current = 2 ∧ w'.mode = .string := by
  have hf : Renaming fun c ↦ if c ∈ openers then c else 'x' := by
    refine ⟨fun c hc ↦ if_pos hc, fun c hc ↦ ?_⟩
    rw [if_neg hc]
    decide
  obtain ⟨-, htokens, hreports, hsteps, hnul⟩ :=
    ofText_map hf {} ['"', '\x00', '"', '@', '/', '*', '\x00']
  have hstring : Cursor.Steps {} ['"', '\x00', '"', '@', '/', '*', '\x00'] {}
      ⟨.string, 0, 1, 1, 1, [], []⟩ := .single rfl
  obtain ⟨w', hw, hcurrent, hmode, -⟩ := hnul ⟨.string, 0, 1, 1, 1, [], []⟩ (by decide) rfl
  exact ⟨hf, htokens.trans (by decide +kernel), hreports.trans (by decide +kernel),
    ⟨hstring, hsteps _ _ hstring⟩, w', hw, hcurrent, hmode⟩

end Scan

end LoxTokens
