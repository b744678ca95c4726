import LoxTokens.Proofs.Rewriting

/-!
# What the options change

What each of the two options of `ScannerOptions` changes can be written down as a rewriting of
lexemes.

* Without block comments, `/*` is read as `//`.  `Scan.slashed o t` is the text `t` with `//` for
  each `/*` that a lexeme begins with, and `Scan.ofText_slashed` says that it has the scan of `t`,
  whether block comments are switched on or not.
* Without the exponent operator, `**` is two stars.  `Scan.ofText_splitStars` says that nothing else
  changes.  The text is the same here, and only its decomposition is another one.

The rewritings are `Lexeme.slashing` and `Lexeme.splittingStars`.  Neither changes the first
character of a lexeme, so that every lexeme is read in sight of the character that was behind it
before.  What the lexeme itself has to do with the option is settled by `Lexeme.Fits.of_options`.

That a lexeme begins with `/*` cannot be told by looking at the two characters.  They may stand in a
string, or in a comment; so the positions are asked of the scan (`Scan.isOpeningStar`).
-/

set_option autoImplicit false

namespace LoxTokens

/-! ## Comments that end with their line -/

namespace Lexeme

variable {o : Options} {x : Lexeme} {r : Text}

/-- The lexeme, but opened by `//` if it is a comment to the end of the line opened by `/*`. -/
def slashed : Lexeme → Lexeme
  | lineComment '*' body => lineComment '/' body
  | x => x

/-- Without block comments no lexeme is one, be it closed or open. -/
theorem Fits.ne_blockComment (h : Fits { o with blockComments := false } x r) (body : Text) :
    x ≠ .blockComment body ∧ x ≠ .openComment body := by
  constructor
  · rintro rfl
    cases h with
    | blockComment h _ => exact absurd h Bool.false_ne_true
  · rintro rfl
    cases h with
    | openComment h _ => exact absurd h Bool.false_ne_true

/-- What is read without block comments is, with `//` for `/*`, read with and without them. -/
theorem Fits.slashed (h : Fits { o with blockComments := false } x r) (b : Bool) :
    Fits { o with blockComments := b } x.slashed r := by
  cases x with
  | lineComment second body =>
    cases h with
    | lineComment h hbody hrest =>
      have hslashed : Fits { o with blockComments := b } (.lineComment '/' body) r :=
        .lineComment (.inl rfl) hbody hrest
      rcases h with rfl | ⟨rfl, -⟩ <;> exact hslashed
  | blockComment body => exact absurd rfl (h.ne_blockComment body).1
  | openComment body => exact absurd rfl (h.ne_blockComment body).2
  | _ => exact h.of_options nofun (fun _ he ↦ he) fun _ he ↦ he

theorem head?_text_slashed (x : Lexeme) : x.slashed.text.head? = x.text.head? := by
  fun_cases slashed x <;> rfl

theorem newlines_text_slashed (x : Lexeme) :
    Text.newlines x.slashed.text = Text.newlines x.text := by
  fun_cases slashed x <;> simp [text, Text.newlines]

/-- Opening comments by `//`, lexeme by lexeme.  The new text is read with block comments or
without, as `b` says. -/
def slashing (o : Options) (b : Bool) :
    Rewriting { o with blockComments := false } { o with blockComments := b } where
  parts x := [x.slashed]
  Alike r q := r.head? = q.head?
  alike_nil := rfl
  alike_append {x _ _} _ _ := by
    rw [List.flatMap_singleton, List.head?_append_of_ne_nil _ x.text_ne_nil,
      List.head?_append_of_ne_nil _ x.slashed.text_ne_nil, head?_text_slashed]
  pieces_append {x _ _ _} hx h hys := by
    rw [List.flatMap_singleton]
    refine .cons ((hx.slashed b).of_head? ?_) hys
    intro c hc
    rwa [h]
  newlines_parts x := by rw [List.flatMap_singleton, newlines_text_slashed]

theorem collect_token?_slashed (o : Options) (b : Bool) (line : Nat) (x : Lexeme) :
    collect token? line ((slashing o b).parts x) = (x.token? line).toList.flatMap fun k ↦ [k] := by
  rw [List.flatMap_singleton', slashing, collect_singleton]
  fun_cases slashed x <;> rfl

theorem collect_report?_slashed (o : Options) (b : Bool) (line : Nat) (x : Lexeme) :
    collect report? line ((slashing o b).parts x) =
      (x.report? line).toList.flatMap fun r ↦ [r] := by
  rw [List.flatMap_singleton', slashing, collect_singleton]
  fun_cases slashed x <;> rfl

/-- Without block comments, only a comment to the end of the line begins with `/*`. -/
theorem Fits.exists_eq_lineComment (hx : Fits { o with blockComments := false } x r)
    (h : ['/', '*'].isPrefixOf x.text = true) : ∃ body, x = .lineComment '*' body := by
  cases x with
  | symbol s => cases s <;> simp [text, Symbol.spelling] at h
  | lineComment second body =>
    obtain rfl : '*' = second := by simpa [text] using h
    exact ⟨body, rfl⟩
  | blockComment body => exact absurd rfl (hx.ne_blockComment body).1
  | openComment body => exact absurd rfl (hx.ne_blockComment body).2
  | _ => simp [text] at h

/-- To open a comment by `//` is to change its second character. -/
theorem Fits.mapIdx_text (hx : Fits { o with blockComments := false } x r) :
    x.text.mapIdx (fun i c ↦ if i = 1 && ['/', '*'].isPrefixOf x.text then '/' else c) =
      x.slashed.text := by
  by_cases h : ['/', '*'].isPrefixOf x.text = true
  · obtain ⟨body, rfl⟩ := hx.exists_eq_lineComment h
    refine List.ext_getElem (List.length_mapIdx ..) fun i _ _ ↦ ?_
    rcases i with _ | _ | i <;> simp [text, Lexeme.slashed]
  · have hslashed : x.slashed = x := by
      fun_cases Lexeme.slashed x with
      | case1 body => exact absurd rfl h
      | case2 => rfl
    rw [hslashed]
    refine List.ext_getElem (List.length_mapIdx ..) fun i _ _ ↦ ?_
    simp [h]

end Lexeme

namespace Scan

open Lexeme

/-- The character at the position is the second one of a lexeme that begins with `/*`.  The lexemes
have to be asked, since the same two characters may lie inside of a string or a comment. -/
def isOpeningStar (o : Options) (t : Text) (i : Nat) : Bool :=
  (locate 0 (split o t)).any fun p ↦ p.1 + 1 = i && ['/', '*'].isPrefixOf p.2.text

/-- The text with `//` for each `/*` that a lexeme begins with. -/
def slashed (o : Options) (t : Text) : Text :=
  t.mapIdx fun i c ↦ if isOpeningStar o t i then '/' else c

/-- Inside of a lexeme, it is told by this lexeme whether a star opens a comment. -/
theorem isOpeningStar_eq {o : Options} {t : Text} {p i : Nat} {x : Lexeme}
    (hx : (p, x) ∈ locate 0 (split o t)) (hi : i < x.text.length) :
    isOpeningStar o t (i + p) = (i = 1 && ['/', '*'].isPrefixOf x.text) := by
  rw [Bool.eq_iff_iff, isOpeningStar, List.any_eq_true]
  simp only [Bool.and_eq_true, decide_eq_true_eq]
  constructor
  · rintro ⟨⟨q, y⟩, hy, hq, hopen⟩
    have hq : q + 1 = i + p := hq
    -- the second character of `y` is a character of `x`, so that both are the same lexeme
    have hlen : 2 ≤ y.text.length := (List.isPrefixOf_iff_prefix.1 hopen).length_le
    have hmem : q ≤ i + p ∧ i + p < q + y.text.length := by omega
    obtain ⟨rfl, rfl⟩ := Prod.mk.inj
      (eq_of_mem_locate hx hy ⟨Nat.le_add_left p i, by omega⟩ hmem)
    exact ⟨by omega, hopen⟩
  · rintro ⟨rfl, hopen⟩
    exact ⟨(p, x), hx, Nat.add_comm p 1, hopen⟩

theorem slashed_eq_apply (o : Options) (t : Text) (b : Bool) :
    slashed { o with blockComments := false } t = (slashing o b).apply t := by
  rw [slashed, Rewriting.apply, List.flatMap_assoc]
  refine mapIdx_eq_flatMap fun p x hx ↦ ?_
  show _ = [x.slashed].flatMap text
  obtain ⟨rest, hfits⟩ := exists_fits_of_mem_split (mem_of_mem_locate hx)
  rw [List.flatMap_singleton, ← hfits.mapIdx_text]
  refine List.ext_getElem (by simp) fun i hi _ ↦ ?_
  rw [List.length_mapIdx] at hi
  rw [List.getElem_mapIdx, List.getElem_mapIdx, isOpeningStar_eq hx hi]

/-- Without block comments, none is reported. -/
theorem unterminatedComment_notMem (o : Options) (t : Text) :
    .unterminatedComment ∉
      (ofText { o with blockComments := false } t).reports.map Report.fault := by
  rw [List.mem_map]
  rintro ⟨r, hr, hfault⟩
  obtain ⟨n, x, hx, hr⟩ := exists_of_mem_collect hr
  obtain ⟨rest, hfits⟩ := exists_fits_of_mem_split hx
  cases x with
  | openComment body => exact absurd rfl (hfits.ne_blockComment body).2
  | stray c =>
    obtain rfl := Option.some.inj hr
    exact absurd hfault nofun
  | openString body =>
    obtain rfl := Option.some.inj hr
    exact absurd hfault nofun
  | _ => simp [report?] at hr

/-- **Without block comments, `/*` is read as `//`.**  With `//` for each `/*` that a lexeme begins
with, a text has the scan that it has without block comments, and has it with block comments and
without.  None of them reports a block comment. -/
theorem ofText_slashed (o : Options) (t : Text) :
    (∀ b, ofText { o with blockComments := b } (slashed { o with blockComments := false } t) =
      ofText { o with blockComments := false } t) ∧
      .unterminatedComment ∉
        (ofText { o with blockComments := false } t).reports.map Report.fault := by
  refine ⟨fun b ↦ ?_, unterminatedComment_notMem o t⟩
  have htokens := (slashing o b).tokens_apply (collect_token?_slashed o b) t rfl
  have hreports := (slashing o b).reports_apply (collect_report?_slashed o b) t
  rw [← slashed_eq_apply, List.flatMap_singleton'] at htokens hreports
  exact congrArg₂ Scan.mk htokens hreports

end Scan

/-! ## Stars -/

/-- The token, or two stars on its line if it is two stars that are one symbol. -/
def Token.splitStars (k : Token) : List Token :=
  if k.kind = .symbol .starStar then
    [⟨.symbol .star, ['*'], none, k.line⟩, ⟨.symbol .star, ['*'], none, k.line⟩]
  else [k]

namespace Lexeme

variable {o : Options} {x : Lexeme} {r : Text}

/-- The lexeme, or two stars for two stars that are one symbol. -/
def splitStars : Lexeme → List Lexeme
  | symbol .starStar => [symbol .star, symbol .star]
  | x => [x]

theorem flatMap_text_splitStars (x : Lexeme) : x.splitStars.flatMap text = x.text := by
  fun_cases splitStars x with
  | case1 => rfl
  | case2 => exact List.flatMap_singleton ..

theorem splitStars_of_ne (h : x ≠ symbol .starStar) : x.splitStars = [x] := by
  fun_cases splitStars x with
  | case1 => exact absurd rfl h
  | case2 => rfl

/-- Without the exponent operator, one star is read in front of anything. -/
theorem fits_star (o : Options) (rest : Text) :
    Fits { o with exponentOperator := false } (symbol .star) rest :=
  .star fun h ↦ absurd h.1 Bool.false_ne_true

/-- What is read with the exponent operator is read without it, unless it is that operator. -/
theorem Fits.withoutExponent (h : Fits { o with exponentOperator := true } x r)
    (hx : x ≠ symbol .starStar) : Fits { o with exponentOperator := false } x r :=
  h.of_options (fun _ ↦ rfl) (fun _ _ ↦ rfl) fun hstars ↦ absurd hstars hx

/-- Splitting the exponent operator, lexeme by lexeme. -/
def splittingStars (o : Options) :
    Rewriting { o with exponentOperator := true } { o with exponentOperator := false } where
  parts := splitStars
  Alike := Eq
  alike_nil := rfl
  alike_append {x _ _} _ h := by rw [flatMap_text_splitStars, h]
  pieces_append {x r q ys} hx h hys := by
    rw [flatMap_text_splitStars]
    by_cases hstars : x = symbol .starStar
    · rw [hstars]
      exact .cons (fits_star o _) (.cons (fits_star o _) hys)
    · rw [splitStars_of_ne hstars]
      exact .cons (h ▸ hx.withoutExponent hstars) hys
  newlines_parts x := by rw [flatMap_text_splitStars]

theorem collect_token?_splitStars (line : Nat) (x : Lexeme) :
    collect token? line x.splitStars = (x.token? line).toList.flatMap Token.splitStars := by
  by_cases hstars : x = symbol .starStar
  · rw [hstars]
    rfl
  · rw [splitStars_of_ne hstars, collect_singleton]
    cases x with
    | symbol s =>
      have hs : s ≠ .starStar := fun hs ↦ hstars (hs ▸ rfl)
      simp [token?, Token.splitStars, hs]
    | _ => simp [token?, Token.splitStars]

theorem collect_report?_splitStars (line : Nat) (x : Lexeme) :
    collect report? line x.splitStars = (x.report? line).toList.flatMap fun r ↦ [r] := by
  rw [List.flatMap_singleton']
  fun_cases splitStars x with
  | case1 => rfl
  | case2 => exact collect_singleton report? line x

end Lexeme

namespace Scan

open Lexeme

/-- **Without the exponent operator, it is two stars.**  Each token for two stars is replaced by two
tokens for one star on its line, all other tokens and all reports stay the same. -/
theorem ofText_splitStars (o : Options) (t : Text) :
    (ofText { o with exponentOperator := false } t).tokens =
        (ofText { o with exponentOperator := true } t).tokens.flatMap Token.splitStars ∧
      (ofText { o with exponentOperator := false } t).reports =
        (ofText { o with exponentOperator := true } t).reports := by
  have happly : (splittingStars o).apply t = t := ((splittingStars o).alike_apply t).symm
  have htokens := (splittingStars o).tokens_apply collect_token?_splitStars t rfl
  have hreports := (splittingStars o).reports_apply collect_report?_splitStars t
  rw [happly] at htokens hreports
  rw [List.flatMap_singleton'] at hreports
  exact ⟨htokens, hreports⟩

end Scan

end LoxTokens
