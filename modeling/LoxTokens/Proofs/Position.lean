import LoxTokens.Scan

/-!
# Positions and lines

A position of a text is a number of characters that lie before it.  A scan numbers lines as it goes
(`Lexeme.place`); this file counts them off the text instead.

* `Lexeme.collect f line xs` — what the lexemes `xs` yield by `f` when the first of them begins on
  the given line.  A scan is made of its tokens and its reports (`Scan.ofText_eq`), and both are
  collected lexeme by lexeme.
* `Text.lineAt t p` — the number of the line on which the position `p` of `t` lies.
* `Lexeme.locate p xs` — the lexemes `xs`, each with the position at which it begins, the first one
  at `p`.
* `Scan.tokensAt o t` — the tokens of `t` before the one for its end, each with the position at
  which it begins.

`Scan.tokens_ofText` and `Scan.reports_ofText` restate a scan by the last two: the line that a
lexeme is given is the line of the position at which it begins.

A `Token` does not know its position, although the scanner does while it makes one (`_start`).  So
whatever is to be said of where tokens lie is said of `Scan.tokensAt`, and carries over to the
tokens by `Scan.tokens_eq_tokensAt`.
-/

set_option autoImplicit false

namespace LoxTokens

namespace Text

/-- The number of the line on which a position lies, which is one more than there are line feeds
before it. -/
def lineAt (t : Text) (p : Nat) : Nat := 1 + newlines (t.take p)

@[simp] theorem lineAt_length (t : Text) : lineAt t t.length = 1 + newlines t := by
  rw [lineAt, List.take_length]

theorem one_le_lineAt (t : Text) (p : Nat) : 1 ≤ lineAt t p := Nat.le_add_right 1 _

theorem lineAt_append_left (s t : Text) : lineAt (s ++ t) s.length = 1 + newlines s := by
  rw [lineAt, List.take_left]

/-- What comes behind a position does not change its line. -/
theorem lineAt_append_of_le {s : Text} {p : Nat} (h : p ≤ s.length) (t : Text) :
    lineAt (s ++ t) p = lineAt s p := by
  rw [lineAt, lineAt, List.take_append_of_le_length h]

theorem lineAt_mono (t : Text) {p q : Nat} (h : p ≤ q) : lineAt t p ≤ lineAt t q := by
  obtain ⟨d, rfl⟩ := Nat.exists_eq_add_of_le h
  rw [lineAt, lineAt, List.take_add, newlines_append]
  omega

theorem lineAt_le (t : Text) (p : Nat) : lineAt t p ≤ 1 + newlines t := by
  rcases Nat.le_total p t.length with h | h
  · exact lineAt_length t ▸ lineAt_mono t h
  · exact Nat.le_of_eq (by rw [lineAt, List.take_of_length_le h])

end Text

namespace Lexeme

/-!
## What lexemes yield

Tokens and reports are collected alike, and most of what is to be said of one is to be said of the
other in the same words.  It is said of `collect`, for any function of a lexeme and its line.
-/

/-- What lexemes that follow each other from the given line on yield, if each of them yields by `f`
on the line on which it begins. -/
def collect {α : Type} (f : Nat → Lexeme → Option α) (line : Nat) (xs : List Lexeme) : List α :=
  (place line xs).filterMap fun p ↦ f p.1 p.2

variable {α : Type} {f : Nat → Lexeme → Option α}

@[simp] theorem collect_nil (line : Nat) : collect f line [] = [] := rfl

theorem collect_cons (line : Nat) (x : Lexeme) (xs : List Lexeme) :
    collect f line (x :: xs) =
      (f line x).toList ++ collect f (line + Text.newlines x.text) xs := by
  rw [collect, place, List.filterMap_cons]
  cases f line x <;> rfl

theorem collect_singleton (f : Nat → Lexeme → Option α) (line : Nat) (x : Lexeme) :
    collect f line [x] = (f line x).toList := by
  rw [collect_cons, collect_nil, List.append_nil]

/-- Behind some lexemes, others yield what they yield on the line that these lead to. -/
theorem collect_append (line : Nat) (xs ys : List Lexeme) :
    collect f line (xs ++ ys) =
      collect f line xs ++ collect f (line + Text.newlines (xs.flatMap text)) ys := by
  rw [collect, place_append, List.filterMap_append]
  rfl

theorem mem_of_mem_place {line : Nat} {xs : List Lexeme} {p : Nat × Lexeme}
    (h : p ∈ place line xs) : p.2 ∈ xs :=
  map_snd_place line xs ▸ List.mem_map_of_mem h

/-- What is collected comes from one of the lexemes. -/
theorem exists_of_mem_collect {line : Nat} {xs : List Lexeme} {a : α}
    (h : a ∈ collect f line xs) : ∃ n, ∃ x ∈ xs, f n x = some a := by
  obtain ⟨p, hp, ha⟩ := List.mem_filterMap.1 h
  exact ⟨p.1, p.2, mem_of_mem_place hp, ha⟩

/-- Each of the lexemes gives what it yields on some line. -/
theorem exists_mem_collect {line : Nat} {xs : List Lexeme} {x : Lexeme} (h : x ∈ xs) :
    ∃ n, ∀ a, f n x = some a → a ∈ collect f line xs := by
  rw [← map_snd_place line xs, List.mem_map] at h
  obtain ⟨p, hp, rfl⟩ := h
  exact ⟨p.1, fun a ha ↦ List.mem_filterMap.2 ⟨p, hp, ha⟩⟩

theorem collect_eq_nil {xs : List Lexeme} (h : ∀ x ∈ xs, ∀ n, f n x = none) (line : Nat) :
    collect f line xs = [] := by
  rw [List.eq_nil_iff_forall_not_mem]
  intro a ha
  obtain ⟨n, x, hx, ha⟩ := exists_of_mem_collect ha
  rw [h x hx n] at ha
  exact absurd ha nofun

/-- The lexeme is a token. -/
def isToken : Lexeme → Bool
  | symbol _ => true
  | string _ => true
  | _ => false

theorem isSome_token? (line : Nat) (x : Lexeme) : (x.token? line).isSome = x.isToken := by
  cases x <;> rfl

theorem isToken_of_token? {line : Nat} {x : Lexeme} {k : Token} (h : x.token? line = some k) :
    x.isToken = true := by
  rw [← isSome_token? line, h]
  rfl

/-! ## Where lexemes lie -/

/-- The lexemes that follow each other from the given position on, each with the position at which
it begins.  Positions are those of `_start`. -/
def locate (p : Nat) : List Lexeme → List (Nat × Lexeme)
  | [] => []
  | x :: xs => (p, x) :: locate (p + x.text.length) xs

theorem locate_append (p : Nat) (xs ys : List Lexeme) :
    locate p (xs ++ ys) = locate p xs ++ locate (p + (xs.flatMap text).length) ys := by
  induction xs generalizing p with
  | nil => rfl
  | cons x xs ih =>
    rw [List.cons_append, locate, ih, locate, List.cons_append, List.flatMap_cons,
      List.length_append, Nat.add_assoc]

/-- A lexeme begins where those before it end. -/
theorem exists_of_mem_locate {p q : Nat} {x : Lexeme} {xs : List Lexeme}
    (h : (p, x) ∈ locate q xs) :
    ∃ pre post, xs = pre ++ x :: post ∧ p = q + (pre.flatMap text).length := by
  induction xs generalizing q with
  | nil => simp [locate] at h
  | cons y ys ih =>
    rw [locate, List.mem_cons] at h
    rcases h with h | h
    · obtain ⟨rfl, rfl⟩ := Prod.mk.inj h
      exact ⟨[], ys, rfl, rfl⟩
    · obtain ⟨pre, post, rfl, rfl⟩ := ih h
      refine ⟨y :: pre, post, rfl, ?_⟩
      rw [List.flatMap_cons, List.length_append, Nat.add_assoc]

theorem mem_of_mem_locate {p q : Nat} {x : Lexeme} {xs : List Lexeme} (h : (p, x) ∈ locate q xs) :
    x ∈ xs := by
  obtain ⟨pre, post, rfl, -⟩ := exists_of_mem_locate h
  exact List.mem_append_right _ List.mem_cons_self

/-- A lexeme lies where it is located. -/
theorem text_isPrefix_of_mem_locate {p : Nat} {x : Lexeme} {xs : List Lexeme}
    (h : (p, x) ∈ locate 0 xs) : x.text <+: (xs.flatMap text).drop p := by
  obtain ⟨pre, post, rfl, rfl⟩ := exists_of_mem_locate h
  rw [Nat.zero_add, List.flatMap_append, List.drop_left, List.flatMap_cons]
  exact List.prefix_append _ _

/-- A lexeme ends where the text of all of them ends, or before. -/
theorem add_length_le_of_mem_locate {p q : Nat} {x : Lexeme} {xs : List Lexeme}
    (h : (p, x) ∈ locate q xs) : p + x.text.length ≤ q + (xs.flatMap text).length := by
  obtain ⟨pre, post, rfl, rfl⟩ := exists_of_mem_locate h
  rw [List.flatMap_append, List.flatMap_cons, List.length_append, List.length_append]
  omega

/-- Lexemes do not overlap. -/
theorem pairwise_locate (p : Nat) (xs : List Lexeme) :
    (locate p xs).Pairwise fun a b ↦ a.1 + a.2.text.length ≤ b.1 := by
  induction xs generalizing p with
  | nil => exact .nil
  | cons x xs ih =>
    refine List.pairwise_cons.2 ⟨?_, ih _⟩
    intro b hb
    obtain ⟨pre, post, -, hp⟩ := exists_of_mem_locate (show (b.1, b.2) ∈ _ from hb)
    rw [hp]
    exact Nat.le_add_right _ _

/-- Each character of a text belongs to one lexeme. -/
theorem eq_of_mem_locate {p q r i : Nat} {x y : Lexeme} {xs : List Lexeme}
    (hx : (p, x) ∈ locate r xs) (hy : (q, y) ∈ locate r xs) (hp : p ≤ i ∧ i < p + x.text.length)
    (hq : q ≤ i ∧ i < q + y.text.length) : (p, x) = (q, y) := by
  obtain ⟨m, hm, hmx⟩ := List.getElem_of_mem hx
  obtain ⟨n, hn, hny⟩ := List.getElem_of_mem hy
  have hapart := List.pairwise_iff_getElem.1 (pairwise_locate r xs)
  rcases Nat.lt_trichotomy m n with hlt | rfl | hlt
  · have hle := hapart m n hm hn hlt
    simp only [hmx, hny] at hle
    omega
  · exact hmx.symm.trans hny
  · have hle := hapart n m hn hm hlt
    simp only [hmx, hny] at hle
    omega

/-- Lines that are added up along the lexemes are the lines of their positions.  The text before the
lexemes is a parameter, so that the induction on the lexemes can move them to it one by one. -/
theorem place_eq_map_locate (before : Text) (xs : List Lexeme) :
    place (1 + Text.newlines before) xs = (locate before.length xs).map fun p ↦
      (Text.lineAt (before ++ xs.flatMap text) p.1, p.2) := by
  induction xs generalizing before with
  | nil => rfl
  | cons x xs ih =>
    have h := ih (before ++ x.text)
    rw [Text.newlines_append, List.length_append, List.append_assoc, ← List.flatMap_cons] at h
    rw [place, locate, List.map_cons, Nat.add_assoc, h, Text.lineAt_append_left]

end Lexeme

namespace Scan

open Lexeme

theorem ofText_eq (o : Options) (t : Text) :
    ofText o t = ⟨collect token? 1 (split o t) ++ [Token.closing t],
      collect report? 1 (split o t)⟩ := rfl

/-- What a text yields, from the lines of the positions at which its lexemes begin. -/
theorem collect_split {α : Type} (f : Nat → Lexeme → Option α) (o : Options) (t : Text) :
    collect f 1 (split o t) =
      (locate 0 (split o t)).filterMap fun p ↦ f (Text.lineAt t p.1) p.2 := by
  have h := place_eq_map_locate [] (split o t)
  rw [List.nil_append, flatMap_text_split] at h
  rw [collect, show place 1 (split o t) = _ from h, List.filterMap_map]
  rfl

theorem tokens_ofText (o : Options) (t : Text) :
    (ofText o t).tokens = (locate 0 (split o t)).filterMap (fun p ↦ p.2.token? (Text.lineAt t p.1))
      ++ [Token.closing t] := by
  rw [ofText_eq, collect_split]

theorem reports_ofText (o : Options) (t : Text) :
    (ofText o t).reports =
      (locate 0 (split o t)).filterMap fun p ↦ p.2.report? (Text.lineAt t p.1) :=
  collect_split report? o t

/-! ## Where tokens lie -/

/-- The token of a lexeme that lies at a position of `t`, with this position. -/
def tokenAt (t : Text) (p : Nat × Lexeme) : Option (Nat × Token) :=
  (p.2.token? (Text.lineAt t p.1)).map (Prod.mk p.1)

/-- The tokens of a text before the one for its end, each with the position at which it begins.
Unlike the tokens themselves, these can be compared with places of the text. -/
def tokensAt (o : Options) (t : Text) : List (Nat × Token) :=
  (locate 0 (split o t)).filterMap (tokenAt t)

theorem tokens_eq_tokensAt (o : Options) (t : Text) :
    (ofText o t).tokens = (tokensAt o t).map Prod.snd ++ [Token.closing t] := by
  have htoken (p : Nat × Lexeme) :
      (tokenAt t p).map Prod.snd = p.2.token? (Text.lineAt t p.1) := by
    rw [tokenAt, Option.map_map]
    exact Option.map_id'
  rw [tokens_ofText, tokensAt, List.map_filterMap]
  simp only [htoken]

theorem tokenAt_eq_some_iff {t : Text} {p : Nat × Lexeme} {q : Nat × Token} :
    tokenAt t p = some q ↔ q.1 = p.1 ∧ p.2.token? (Text.lineAt t p.1) = some q.2 := by
  rw [tokenAt, Option.map_eq_some_iff]
  constructor
  · rintro ⟨k, hk, rfl⟩
    exact ⟨rfl, hk⟩
  · rintro ⟨hq, hk⟩
    exact ⟨q.2, hk, by rw [← hq]⟩

theorem mem_tokensAt_iff {o : Options} {t : Text} {p : Nat} {k : Token} :
    (p, k) ∈ tokensAt o t ↔
      ∃ x, (p, x) ∈ locate 0 (split o t) ∧ x.token? (Text.lineAt t p) = some k := by
  rw [tokensAt, List.mem_filterMap]
  constructor
  · rintro ⟨⟨q, x⟩, hx, hk⟩
    obtain ⟨rfl, hk⟩ := tokenAt_eq_some_iff.1 hk
    exact ⟨x, hx, hk⟩
  · rintro ⟨x, hx, hk⟩
    exact ⟨(p, x), hx, tokenAt_eq_some_iff.2 ⟨rfl, hk⟩⟩

/-- A token lies where it is placed. -/
theorem lexeme_isPrefix_of_mem_tokensAt {o : Options} {t : Text} {p : Nat} {k : Token}
    (h : (p, k) ∈ tokensAt o t) : k.lexeme <+: t.drop p := by
  obtain ⟨x, hx, hk⟩ := mem_tokensAt_iff.1 h
  have hprefix := text_isPrefix_of_mem_locate hx
  rwa [flatMap_text_split, ← (eq_of_token? hk).1] at hprefix

end Scan

end LoxTokens
