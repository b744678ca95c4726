import LoxTokens.Text.Basic
import LoxTokens.Text.Lowercase.Table

/-!
# Lower case

`Text.lowercase` writes a text in lower case by the full rules of Unicode.  Each character is
mapped by the table, save two: the dotted capital I becomes an i and a combining dot, and a capital
sigma becomes the final form where it ends a word (`endsWord`) and the common form elsewhere.

Only eight words of ASCII are ever looked up in lower case, so one would think that ASCII would do.
But a value of a variable is any text, and a word that is not known is quoted in the log as it is in
lower case.  And there are characters outside ASCII with a lower-case form within it, so that it has
to be shown that they make no word (`Text.lowercase_eq_iff`).
-/

set_option autoImplicit false

namespace LoxTokens.Text

/-- A letter with a case. -/
def isLetter (c : Char) : Bool := covers letterRanges c

/-- A character that neither is a letter nor ends a word. -/
def isJoiner (c : Char) : Bool := covers joinerRanges c

/-- The first character that is not a joiner is a letter. -/
def meetsLetter (t : Text) : Bool :=
  match t.dropWhile isJoiner with
  | [] => false
  | c :: _ => isLetter c

/-- Between `before`, read backwards, and `after`, a word comes to its end. -/
def endsWord (before after : Text) : Bool := meetsLetter before && !meetsLetter after

/-- The lower-case form of a character that has one above ASCII. -/
def lowercaseRun? (n : Nat) : Option Nat :=
  (lowercaseRuns.find? fun (first, last, step, _) ↦
    first ≤ n && n ≤ last && (n - first) % step == 0).map
      fun (first, _, _, target) ↦ n - first + target

/-- The lower-case form of one character by itself. -/
def lowercaseChar (c : Char) : Text :=
  if c.toNat < 0x80 then [c.toLower]
  else if c = 'İ' then ['i', '\u0307']
  else [((lowercaseRun? c.toNat).map Char.ofNat).getD c]

/-- The lower-case form of what follows `before`, which is read backwards. -/
def lowercaseAfter (before : Text) : Text → Text
  | [] => []
  | c :: after =>
    (if c = 'Σ' then [if endsWord before after then 'ς' else 'σ'] else lowercaseChar c)
      ++ lowercaseAfter (c :: before) after

/-- The text in lower case. -/
def lowercase (t : Text) : Text := lowercaseAfter [] t

/-! ## Lower case and ASCII

On ASCII the rules of Unicode are the common ones.  Above ASCII only two characters have an ASCII
letter in their lower-case form: the Kelvin sign, of which it is all, and the dotted capital I,
which keeps its dot. -/

theorem lowercaseAfter_eq_map {t : Text} (h : ∀ c ∈ t, c.toNat < 0x80) (before : Text) :
    lowercaseAfter before t = t.map Char.toLower := by
  induction t generalizing before with
  | nil => rfl
  | cons c t ih =>
    obtain ⟨hc, ht⟩ := List.forall_mem_cons.1 h
    have hsigma : c ≠ 'Σ' := by
      rintro rfl
      exact absurd hc (by decide)
    rw [lowercaseAfter, if_neg hsigma, lowercaseChar, if_pos hc, ih ht, List.map_cons,
      List.singleton_append]

/-- No run but that of the Kelvin sign leads into ASCII. -/
theorem lowercaseRuns_above : ∀ r ∈ lowercaseRuns, r = (0x212A, 0x212A, 1, 0x6B) ∨
    0x80 ≤ r.2.2.2 ∧ (r.2.1 - r.1 + r.2.2.2 < 0xD800 ∨
      0xDFFF < r.2.2.2 ∧ r.2.1 - r.1 + r.2.2.2 < 0x110000) := by
  decide +kernel

theorem lowercaseRun?_above {n m : Nat} (h : lowercaseRun? n = some m) :
    m = 0x6B ∨ 0x80 ≤ m ∧ m.isValidChar := by
  rw [lowercaseRun?, Option.map_eq_some_iff] at h
  obtain ⟨⟨first, last, step, target⟩, hfind, rfl⟩ := h
  have htest := List.find?_some hfind
  simp only [Bool.and_eq_true, decide_eq_true_eq] at htest
  obtain ⟨⟨hfirst, hlast⟩, -⟩ := htest
  rcases lowercaseRuns_above _ (List.mem_of_find?_eq_some hfind) with h | ⟨htarget, hvalid⟩
  · cases h
    obtain rfl : n = 0x212A := Nat.le_antisymm hlast hfirst
    exact .inl rfl
  · dsimp only at htarget hvalid ⊢
    refine .inr ⟨by omega, ?_⟩
    rcases hvalid with hvalid | ⟨hlow, hhigh⟩
    · exact .inl (by omega)
    · exact .inr ⟨by omega, by omega⟩

/-- Above ASCII the lower-case form is never made of other ASCII letters than k alone. -/
theorem exists_mem_lowercaseChar {c : Char} (h : 0x80 ≤ c.toNat) :
    ∃ d ∈ lowercaseChar c, d = 'k' ∨ 0x80 ≤ d.toNat := by
  rw [lowercaseChar, if_neg (by omega)]
  split
  next => exact ⟨'\u0307', by decide, .inr (by decide)⟩
  next =>
    refine ⟨_, List.mem_singleton.2 rfl, ?_⟩
    cases hrun : lowercaseRun? c.toNat with
    | none => exact .inr h
    | some m =>
      rw [Option.map_some, Option.getD_some]
      rcases lowercaseRun?_above hrun with rfl | ⟨hm, hvalid⟩
      · exact .inl rfl
      · refine .inr ?_
        rw [Char.ofNat, dif_pos hvalid]
        exact hm

theorem exists_mem_lowercaseAfter {t : Text} {c : Char} (hc : c ∈ t) (h : 0x80 ≤ c.toNat)
    (before : Text) : ∃ d ∈ lowercaseAfter before t, d = 'k' ∨ 0x80 ≤ d.toNat := by
  induction t generalizing before with
  | nil => exact absurd hc List.not_mem_nil
  | cons x t ih =>
    rw [lowercaseAfter]
    rcases List.mem_cons.1 hc with rfl | hc
    · split
      next =>
        refine ⟨_, List.mem_append_left _ (List.mem_singleton.2 rfl), .inr ?_⟩
        split <;> decide
      next =>
        obtain ⟨d, hd, hor⟩ := exists_mem_lowercaseChar h
        exact ⟨d, List.mem_append_left _ hd, hor⟩
    · obtain ⟨d, hd, hor⟩ := ih hc (x :: before)
      exact ⟨d, List.mem_append_right _ hd, hor⟩

/-- Only ASCII is written in ASCII by the common rules. -/
theorem ascii_of_map_toLower {t : Text} (h : ∀ c ∈ t.map Char.toLower, c.toNat < 0x80) :
    ∀ c ∈ t, c.toNat < 0x80 := by
  intro c hc
  have hlower := h _ (List.mem_map_of_mem hc)
  unfold Char.toLower at hlower
  split at hlower
  next hrange =>
    have hupper := UInt32.le_iff_toNat_le.1 hrange.2
    exact Nat.lt_of_le_of_lt hupper (by decide)
  next => exact hlower

/-- **A word in lower case without the letter k is the lower-case form of ASCII only**, if it is
ASCII itself; and there the common rules apply. -/
theorem lowercase_eq_iff {word : Text} (h : ∀ c ∈ word, c.toNat < 0x80 ∧ c ≠ 'k') {t : Text} :
    lowercase t = word ↔ t.map Char.toLower = word := by
  constructor
  · rintro rfl
    have hascii : ∀ c ∈ t, c.toNat < 0x80 := by
      intro c hc
      refine Nat.lt_of_not_le fun habove ↦ ?_
      obtain ⟨d, hd, hor⟩ := exists_mem_lowercaseAfter hc habove []
      obtain ⟨hd₁, hd₂⟩ := h d hd
      rcases hor with hk | hor
      · exact hd₂ hk
      · omega
    exact (lowercaseAfter_eq_map hascii []).symm
  · rintro rfl
    exact lowercaseAfter_eq_map (ascii_of_map_toLower fun c hc ↦ (h c hc).1) []

end LoxTokens.Text
