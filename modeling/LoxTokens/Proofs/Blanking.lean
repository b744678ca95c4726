import LoxTokens.Proofs.Rewriting

/-!
# Text that belongs to no token

Blanks, comments, stray characters and what is left open have no bearing on the tokens of a text
beyond keeping them apart and taking up lines.  `Scan.blanked o t` is the text `t` with a space for
each character that belongs to no token, line feeds excepted, and `Scan.ofText_blanked` says that it
has the tokens of `t` on the lines of `t`, with nothing wrong.

Where a lexeme is blanked, the token in front of it gets a space or a line feed to see instead of
what it saw before.  A line feed it has seen before as well.  In front of a space every token stays
what it is (`Lexeme.Fits.of_head?_or_space`), but nothing else can be said to: a comment that ends
with its line goes on behind a space.

Each character is replaced by one character, so that all positions stay what they are, and so do the
lines, since line feeds are kept.  Which characters belong to a token is asked of the scan
(`Scan.inToken`), position by position.
-/

set_option autoImplicit false

namespace LoxTokens

namespace Text

/-- A space for any character but a line feed. -/
def blankOut (c : Char) : Char := if c = '\n' then '\n' else ' '

theorem blankOut_mem_blanks (c : Char) : blankOut c ∈ [' ', '\r', '\t', '\n'] := by
  rw [blankOut]
  split <;> decide

theorem newlines_map_blankOut (t : Text) : newlines (t.map blankOut) = newlines t := by
  induction t with
  | nil => rfl
  | cons c t ih =>
    have hfeed : (blankOut c == '\n') = (c == '\n') := by
      by_cases hc : c = '\n' <;> simp [blankOut, hc]
    rw [newlines, newlines] at ih
    rw [newlines, newlines, List.map_cons, List.count_cons, List.count_cons, ih, hfeed]

end Text

namespace Lexeme

variable {o : Options} {x : Lexeme} {r q : Text}

/-! ## Tokens in front of spaces -/

/-- A token fits in front of a space. -/
theorem Fits.of_space (h : Fits o x r) (hx : x.isToken = true) (q : Text) :
    Fits o x (' ' :: q) := by
  cases h with
  | single h => exact .single h
  | long h => exact .long h
  | short h _ => exact .short h (by simp)
  | starStar h => exact .starStar h
  | star _ => exact .star (by simp)
  | slash _ _ => exact .slash (by simp) (by simp)
  | string h => exact .string h
  | _ => simp [isToken] at hx

/-- A token fits in front of a text that begins as before or with a space.  It has to be a token: a
comment or an open string would take the space in. -/
theorem Fits.of_head?_or_space (h : Fits o x r) (hx : x.isToken = true)
    (hq : ∀ c, q.head? = some c → c = ' ' ∨ r.head? = some c) : Fits o x q := by
  cases q with
  | nil => exact h.of_head? nofun
  | cons c q =>
    rcases hq c rfl with rfl | hc
    · exact h.of_space hx q
    · refine h.of_head? ?_
      intro d hd
      obtain rfl := Option.some.inj hd
      exact hc

/-! ## Blanking lexemes -/

/-- The lexeme if it is a token, and blanks in its place if it is not.  A comment of several lines
becomes as many blanks as it has characters, and keeps its line feeds. -/
def blankedParts (x : Lexeme) : List Lexeme :=
  if x.isToken then [x] else x.text.map fun c ↦ blank (Text.blankOut c)

theorem flatMap_text_map_blank (s : Text) :
    (s.map fun c ↦ blank (Text.blankOut c)).flatMap text = s.map Text.blankOut := by
  induction s with
  | nil => rfl
  | cons c s ih =>
    rw [List.map_cons, List.flatMap_cons, ih]
    rfl

theorem flatMap_text_blankedParts (x : Lexeme) :
    x.blankedParts.flatMap text = if x.isToken then x.text else x.text.map Text.blankOut := by
  rw [blankedParts]
  split
  · rw [List.flatMap_singleton]
  · exact flatMap_text_map_blank x.text

theorem pieces_map_blank (s : Text) {ys : List Lexeme} (h : Pieces o q ys) :
    Pieces o (s.map Text.blankOut ++ q) (s.map (fun c ↦ blank (Text.blankOut c)) ++ ys) := by
  induction s with
  | nil => exact h
  | cons c s ih => exact .cons (.blank (Text.blankOut_mem_blanks c)) ih

/-- A blanked lexeme begins as the lexeme does or with a space. -/
theorem head?_blankedParts {c : Char} (x : Lexeme)
    (h : (x.blankedParts.flatMap text ++ q).head? = some c) :
    c = ' ' ∨ (x.text ++ r).head? = some c := by
  obtain ⟨d, s, hs⟩ := List.exists_cons_of_ne_nil x.text_ne_nil
  rw [flatMap_text_blankedParts, hs] at h
  rw [hs, List.cons_append, List.head?_cons]
  split at h
  · exact .inr h
  · rw [List.map_cons, List.cons_append, List.head?_cons, Text.blankOut] at h
    split at h
    · next hd => exact .inr (hd ▸ h)
    · exact .inl (Option.some.inj h).symm

/-- Blanking, lexeme by lexeme. -/
def blanking (o : Options) : Rewriting o o where
  parts := blankedParts
  Alike r q := ∀ c, q.head? = some c → c = ' ' ∨ r.head? = some c
  alike_nil := nofun
  alike_append {x _ _} _ _ _ hc := head?_blankedParts x hc
  pieces_append {x r q ys} hx h hys := by
    rw [flatMap_text_blankedParts, blankedParts]
    by_cases htoken : x.isToken = true
    · rw [if_pos htoken, if_pos htoken]
      exact .cons (hx.of_head?_or_space htoken h) hys
    · rw [if_neg htoken, if_neg htoken]
      exact pieces_map_blank x.text hys
  newlines_parts x := by
    rw [flatMap_text_blankedParts]
    split
    · rfl
    · exact Text.newlines_map_blankOut x.text

theorem collect_map_blank {α : Type} {f : Nat → Lexeme → Option α}
    (hf : ∀ n c, f n (blank c) = none) (line : Nat) (s : Text) :
    collect f line (s.map fun c ↦ blank (Text.blankOut c)) = [] := by
  refine collect_eq_nil ?_ line
  intro y hy n
  obtain ⟨c, -, rfl⟩ := List.mem_map.1 hy
  exact hf n _

/-- Blanking keeps the token of a lexeme. -/
theorem collect_token?_blankedParts (line : Nat) (x : Lexeme) :
    collect token? line x.blankedParts = (x.token? line).toList.flatMap fun k ↦ [k] := by
  rw [List.flatMap_singleton', blankedParts]
  split
  · exact collect_singleton token? line x
  · next htoken =>
    have hnone : x.token? line = none := by
      rwa [← isSome_token? line, Option.not_isSome_iff_eq_none] at htoken
    rw [collect_map_blank fun _ _ ↦ rfl, hnone]
    rfl

/-- Blanking leaves nothing to report. -/
theorem collect_report?_blankedParts (line : Nat) (x : Lexeme) :
    collect report? line x.blankedParts = (x.report? line).toList.flatMap fun _ ↦ [] := by
  rw [List.flatMap_eq_nil_iff.2 fun _ _ ↦ rfl, blankedParts]
  split
  · next htoken =>
    rw [← isSome_token? line, Option.isSome_iff_exists] at htoken
    obtain ⟨k, hk⟩ := htoken
    rw [collect_singleton, report?_eq_none_of_token? hk]
    rfl
  · exact collect_map_blank (fun _ _ ↦ rfl) line x.text

end Lexeme

namespace Scan

open Lexeme

/-! ## Blanking a text -/

/-- The character at the position belongs to a token. -/
def inToken (o : Options) (t : Text) (i : Nat) : Bool :=
  (tokensAt o t).any fun p ↦ p.1 ≤ i && i < p.1 + p.2.lexeme.length

/-- The text with a space for each character that belongs to no token and is no line feed. -/
def blanked (o : Options) (t : Text) : Text :=
  t.mapIdx fun i c ↦ if inToken o t i then c else Text.blankOut c

variable {o : Options} {t : Text}

/-- A character belongs to a token if its lexeme is one. -/
theorem inToken_eq_isToken {p i : Nat} {x : Lexeme} (hx : (p, x) ∈ locate 0 (split o t))
    (hp : p ≤ i) (hi : i < p + x.text.length) : inToken o t i = x.isToken := by
  rw [Bool.eq_iff_iff, inToken, List.any_eq_true]
  constructor
  · rintro ⟨⟨q, k⟩, hk, hq⟩
    obtain ⟨y, hy, hk⟩ := mem_tokensAt_iff.1 hk
    simp only [(eq_of_token? hk).1, Bool.and_eq_true, decide_eq_true_eq] at hq
    obtain ⟨rfl, rfl⟩ := Prod.mk.inj (eq_of_mem_locate hx hy ⟨hp, hi⟩ hq)
    exact isToken_of_token? hk
  · intro htoken
    rw [← isSome_token? (Text.lineAt t p), Option.isSome_iff_exists] at htoken
    obtain ⟨k, hk⟩ := htoken
    refine ⟨(p, k), mem_tokensAt_iff.2 ⟨x, hx, hk⟩, ?_⟩
    simp only [(eq_of_token? hk).1, Bool.and_eq_true, decide_eq_true_eq]
    exact ⟨hp, hi⟩

theorem blanked_eq_apply (o : Options) (t : Text) : blanked o t = (blanking o).apply t := by
  rw [blanked, Rewriting.apply, List.flatMap_assoc]
  refine mapIdx_eq_flatMap fun p x hx ↦ ?_
  show _ = x.blankedParts.flatMap text
  have hin (i : Nat) (hi : i < x.text.length) : inToken o t (i + p) = x.isToken :=
    inToken_eq_isToken hx (Nat.le_add_left p i) (by omega)
  rw [flatMap_text_blankedParts]
  refine List.ext_getElem (by split <;> simp) fun i hi _ ↦ ?_
  rw [List.length_mapIdx] at hi
  by_cases htoken : x.isToken = true <;> simp [hin i hi, htoken]

/-- **Text that belongs to no token is inert.**  With a space for each of its characters but the
line feeds, a text has the same tokens on the same lines, and nothing is wrong with it. -/
theorem ofText_blanked (o : Options) (t : Text) :
    ofText o (blanked o t) = ⟨(ofText o t).tokens, []⟩ := by
  have htokens := (blanking o).tokens_apply collect_token?_blankedParts t rfl
  have hreports := (blanking o).reports_apply collect_report?_blankedParts t
  rw [← blanked_eq_apply, List.flatMap_singleton'] at htokens
  rw [← blanked_eq_apply, List.flatMap_eq_nil_iff.2 fun _ _ ↦ rfl] at hreports
  rw [← htokens, ← hreports]

end Scan

end LoxTokens
