import LoxTokens.Proofs.Grammar
import Mathlib.Data.List.Chain

/-!
# The token lists that a scan can give

`Token.Scannable o ts` says by properties of the tokens alone that `ts` are the tokens of some text:
each but the last is a symbol or a string in its one spelling, the last is the end, and no token
begins before the one ahead of it is over.  This is what may be relied on by whoever goes on with
the tokens and has not seen the text, such as a parser.

Every scan gives such a list (`Token.scannable_tokens`).  Conversely `Token.spread` writes such a
list out: before each token as many line feeds as lead to its line, behind it a space.  The space
keeps neighbours from being read as one — as `==`, `**`, or the beginning of a comment — and does
not count for the lines, so that the text scans to the very list it was made of.

* `Token.Spelled o k` — a token before the end, by the kind that it has.  What `_add_token` cuts out
  of the text is fixed by the kind of a symbol, and by the literal of a string.
* `Token.Follows a b` — the line of `b` is not before the one on which `a` is over.  A string may
  have line feeds in it, so this says more than that the lines do not decrease.
* `Scan.exists_tokens_ofText_iff` — both directions, with a text in which nothing is wrong.
-/

set_option autoImplicit false

namespace LoxTokens

open Lexeme

variable {o : Options}

namespace Token

/-! ## The condition -/

/-- A token that a scan can give before the end.  These are the tokens that `_add_token` can
append. -/
inductive Spelled (o : Options) : Token → Prop
  /-- A symbol in its spelling, and two stars only if they are one symbol. -/
  | symbol (s : Symbol) (line : Int) (h : s = .starStar → o.exponentOperator = true) :
      Spelled o ⟨.symbol s, s.spelling, none, line⟩
  /-- A string in quotes, with no quote inside. -/
  | string (body : Text) (line : Int) (h : '"' ∉ body) :
      Spelled o ⟨.string, '"' :: (body ++ ['"']), some body, line⟩

/-- The token for the end of a text on the given line. -/
def final (line : Int) : Token := ⟨.endOfInput, [], none, line⟩

/-- A token begins, at the earliest, on the line on which the one before it is over. -/
def Follows (a b : Token) : Prop := a.line + Text.newlines a.lexeme ≤ b.line

/-- The lists that are the tokens of a text.  Nothing is asked of the lines but that the first is at
least 1 and that tokens follow each other. -/
structure Scannable (o : Options) (ts : List Token) : Prop where
  /-- The end comes last, and there only. -/
  ends : ∃ init line, ts = init ++ [final line] ∧ ∀ k ∈ init, k.Spelled o
  /-- Lines are counted from 1. -/
  starts : ∀ k ∈ ts.head?, 1 ≤ k.line
  /-- The tokens follow each other. -/
  chain : ts.IsChain Follows

/-! ## Every scan meets it -/

theorem spelled_of_token? {x : Lexeme} {rest : Text} {line : Nat} {k : Token} (hx : Fits o x rest)
    (hk : x.token? line = some k) : k.Spelled o := by
  cases hx with
  | @single c s _ h =>
    obtain rfl := Option.some.inj hk
    have hne : ∀ p ∈ Symbol.singles, p.2 ≠ .starStar := by decide
    exact .symbol _ _ fun hs ↦ absurd hs (hne _ h)
  | @long c short long _ h =>
    obtain rfl := Option.some.inj hk
    have hne : ∀ p ∈ Symbol.pairs, p.2.2 ≠ .starStar := by decide
    exact .symbol _ _ fun hs ↦ absurd hs (hne _ h)
  | @short c short long _ h _ =>
    obtain rfl := Option.some.inj hk
    have hne : ∀ p ∈ Symbol.pairs, p.2.1 ≠ .starStar := by decide
    exact .symbol _ _ fun hs ↦ absurd hs (hne _ h)
  | starStar h =>
    obtain rfl := Option.some.inj hk
    exact .symbol _ _ fun _ ↦ h
  | star _ =>
    obtain rfl := Option.some.inj hk
    exact .symbol _ _ nofun
  | slash _ _ =>
    obtain rfl := Option.some.inj hk
    exact .symbol _ _ nofun
  | string hbody =>
    obtain rfl := Option.some.inj hk
    exact .string _ _ hbody
  | _ => simp [token?] at hk

/-- To follow the end of a line is to begin on that line or later. -/
theorem isChain_final_cons {line : Int} {ts : List Token} :
    (final line :: ts).IsChain Follows ↔ (∀ k ∈ ts.head?, line ≤ k.line) ∧ ts.IsChain Follows := by
  simp [List.isChain_cons, Follows, final]

/-- The end of the text lies on no earlier line than its beginning. -/
theorem le_of_isChain {first last : Int} {ks : List Token}
    (h : (final first :: (ks ++ [final last])).IsChain Follows) : first ≤ last := by
  induction ks generalizing first with
  | nil => simpa [Follows, final] using h
  | cons k ks ih =>
    obtain ⟨hhead, hchain⟩ := isChain_final_cons.1 h
    obtain ⟨hnext, hchain⟩ := List.isChain_cons.1 hchain
    have hk : first ≤ k.line := hhead k rfl
    refine Int.le_trans hk (ih (isChain_final_cons.2 ⟨?_, hchain⟩))
    intro j hj
    have hj := hnext j hj
    rw [Follows] at hj
    omega

/-- Tokens read off lexemes follow the line on which these begin, and each other. -/
theorem isChain_collect (line : Nat) (xs : List Lexeme) :
    (final line :: (collect token? line xs
      ++ [final (line + Text.newlines (xs.flatMap text) : Nat)])).IsChain Follows := by
  induction xs generalizing line with
  | nil => simp [Follows, final]
  | cons x xs ih =>
    have h := ih (line + Text.newlines x.text)
    rw [Nat.add_assoc, ← Text.newlines_append, ← List.flatMap_cons] at h
    obtain ⟨hhead, hchain⟩ := isChain_final_cons.1 h
    rw [collect_cons]
    cases hk : x.token? line with
    -- nothing is yielded, but the line feeds of the lexeme are passed
    | none =>
      refine isChain_final_cons.2 ⟨?_, hchain⟩
      intro k hmem
      have := hhead k hmem
      omega
    | some k =>
      obtain ⟨hlexeme, hline⟩ := eq_of_token? hk
      refine isChain_final_cons.2 ⟨?_, List.isChain_cons.2 ⟨?_, hchain⟩⟩
      · intro j hj
        obtain rfl := Option.some.inj hj
        exact Int.le_of_eq hline.symm
      · intro j hj
        rw [Follows, hlexeme, hline]
        exact_mod_cast hhead j hj

theorem scannable_tokens (o : Options) (t : Text) : Scannable o (Scan.ofText o t).tokens := by
  have h := isChain_collect 1 (split o t)
  rw [flatMap_text_split] at h
  obtain ⟨hstart, hchain⟩ := isChain_final_cons.1 h
  refine ⟨⟨_, _, rfl, ?_⟩, hstart, hchain⟩
  intro k hk
  obtain ⟨n, x, hx, hk⟩ := exists_of_mem_collect hk
  obtain ⟨rest, hfits⟩ := exists_fits_of_mem_split hx
  exact spelled_of_token? hfits hk

/-!
## Every list that meets it can be scanned

The induction is on the tokens, from the line that is reached so far.  It goes through because a
space is put behind every token and not only where two of them would be read as one.
-/

/-- The lexeme that a token is read from. -/
def toLexeme (k : Token) : Lexeme :=
  match k.kind with
  | .symbol s => symbol s
  | _ => string (k.literal.getD [])

/-- Lexemes for tokens, on from the given line: before each of them as many line feeds as lead to
its line, and behind it a space.  Line feeds to the line `last` come at the end.  The space behind a
token is not needed everywhere, and it is simplest to have it always. -/
def spread (last line : Nat) : List Token → List Lexeme
  | [] => List.replicate (last - line) (blank '\n')
  | k :: ks => List.replicate (k.line.toNat - line) (blank '\n') ++
      k.toLexeme :: blank ' ' :: spread last (k.line.toNat + Text.newlines k.lexeme) ks

theorem Spelled.text_toLexeme {k : Token} (h : k.Spelled o) : k.toLexeme.text = k.lexeme := by
  cases h <;> rfl

theorem Spelled.token?_toLexeme {k : Token} (h : k.Spelled o) {line : Nat}
    (hline : k.line = line) : k.toLexeme.token? line = some k := by
  cases h with
  | symbol s l => obtain rfl := hline; rfl
  | string body l => obtain rfl := hline; rfl

theorem Spelled.report?_toLexeme {k : Token} (h : k.Spelled o) (line : Nat) :
    k.toLexeme.report? line = none := by
  cases h <;> rfl

/-- Where the symbols come from: the two tables, the slash and the stars. -/
theorem symbol_cases (s : Symbol) :
    (∃ c, (c, s) ∈ Symbol.singles) ∨ (∃ c short, (c, short, s) ∈ Symbol.pairs) ∨
      (∃ c long, (c, s, long) ∈ Symbol.pairs) ∨ s = .slash ∨ s = .star ∨ s = .starStar := by
  cases s <;> simp [Symbol.singles, Symbol.pairs]

/-- The lexeme of a token fits in front of a space. -/
theorem Spelled.fits_toLexeme {k : Token} (h : k.Spelled o) (rest : Text) :
    Fits o k.toLexeme (' ' :: rest) := by
  cases h with
  | symbol s l h =>
    show Fits o (.symbol s) _
    rcases symbol_cases s with ⟨c, hs⟩ | ⟨c, short, hs⟩ | ⟨c, long, hs⟩ | rfl | rfl | rfl
    · exact .single hs
    · exact .long hs
    · exact .short hs (by simp)
    · exact .slash (by simp) (by simp)
    · exact .star (by simp)
    · exact .starStar (h rfl)
  | string body l h => exact .string h

theorem newlines_gap (n : Nat) :
    Text.newlines ((List.replicate n (blank '\n')).flatMap text) = n := by
  induction n with
  | zero => rfl
  | succ n ih =>
    rw [List.replicate_succ, List.flatMap_cons, Text.newlines_append, ih, Nat.add_comm]
    rfl

theorem collect_gap {α : Type} {f : Nat → Lexeme → Option α} (hf : ∀ n c, f n (blank c) = none)
    (line n : Nat) : collect f line (List.replicate n (blank '\n')) = [] := by
  refine collect_eq_nil ?_ line
  intro x hx m
  rw [List.eq_of_mem_replicate hx, hf]

theorem pieces_gap {xs : List Lexeme} (n : Nat) (h : Pieces o (xs.flatMap text) xs) :
    Pieces o ((List.replicate n (blank '\n') ++ xs).flatMap text)
      (List.replicate n (blank '\n') ++ xs) := by
  induction n with
  | zero => exact h
  | succ n ih => exact .cons (.blank (by simp)) ih

theorem pieces_spread (last line : Nat) {ks : List Token} (h : ∀ k ∈ ks, k.Spelled o) :
    Pieces o ((spread last line ks).flatMap text) (spread last line ks) := by
  induction ks generalizing line with
  | nil =>
    have hnil : Pieces o (([] : List Lexeme).flatMap text) [] := .nil
    simpa [spread] using pieces_gap (last - line) hnil
  | cons k ks ih =>
    have hk : k.Spelled o := h k List.mem_cons_self
    have hks : ∀ j ∈ ks, j.Spelled o := fun j hj ↦ h j (List.mem_cons_of_mem k hj)
    exact pieces_gap _ (.cons (hk.fits_toLexeme _) (.cons (.blank (by simp)) (ih _ hks)))

/-- What stands before and behind a lexeme in `spread` only takes the scan to its line. -/
theorem collect_gap_cons {α : Type} {f : Nat → Lexeme → Option α}
    (hf : ∀ n c, f n (blank c) = none) {line m : Nat} (hle : line ≤ m) (x : Lexeme)
    (ys : List Lexeme) :
    collect f line (List.replicate (m - line) (blank '\n') ++ x :: blank ' ' :: ys) =
      (f m x).toList ++ collect f (m + Text.newlines x.text) ys := by
  rw [collect_append, collect_gap hf, newlines_gap, Nat.add_sub_cancel' hle, collect_cons,
    collect_cons, hf]
  rfl

theorem newlines_gap_cons {line m : Nat} (hle : line ≤ m) (x : Lexeme) (ys : List Lexeme) :
    line + Text.newlines
        ((List.replicate (m - line) (blank '\n') ++ x :: blank ' ' :: ys).flatMap text) =
      m + Text.newlines x.text + Text.newlines (ys.flatMap text) := by
  rw [List.flatMap_append, Text.newlines_append, newlines_gap, List.flatMap_cons,
    Text.newlines_append, List.flatMap_cons, Text.newlines_append,
    show Text.newlines (blank ' ').text = 0 from rfl]
  omega

/-- The lexemes of `spread` yield the tokens they were made of and no report, and reach the line of
the end.  The induction is on the tokens, for any line to begin on; the chain says that there are
line feeds enough to put in. -/
theorem spread_spec {last : Nat} (line : Nat) {ks : List Token} (h : ∀ k ∈ ks, k.Spelled o)
    (hchain : (final line :: (ks ++ [final last])).IsChain Follows) :
    collect token? line (spread last line ks) = ks ∧
      collect report? line (spread last line ks) = [] ∧
      line + Text.newlines ((spread last line ks).flatMap text) = last := by
  induction ks generalizing line with
  | nil =>
    have hle : line ≤ last := by simpa [Follows, final] using hchain
    refine ⟨collect_gap (fun _ _ ↦ rfl) _ _, collect_gap (fun _ _ ↦ rfl) _ _, ?_⟩
    rw [spread, newlines_gap, Nat.add_sub_cancel' hle]
  | cons k ks ih =>
    have hk : k.Spelled o := h k List.mem_cons_self
    obtain ⟨hhead, hchain⟩ := isChain_final_cons.1 hchain
    have hline : (line : Int) ≤ k.line := hhead k rfl
    obtain ⟨m, hm⟩ := Int.eq_ofNat_of_zero_le (Int.le_trans (Int.natCast_nonneg line) hline)
    have hle : line ≤ m := by omega
    -- behind this token the next one is to begin on the line on which this one is over, or later
    obtain ⟨hnext, hchain⟩ := List.isChain_cons.1 hchain
    have hfollow : (final (m + Text.newlines k.lexeme : Nat) ::
        (ks ++ [final last])).IsChain Follows := by
      refine isChain_final_cons.2 ⟨?_, hchain⟩
      intro j hj
      have := hnext j hj
      rw [Follows, hm] at this
      exact_mod_cast this
    have hks : ∀ j ∈ ks, j.Spelled o := fun j hj ↦ h j (List.mem_cons_of_mem k hj)
    obtain ⟨htokens, hreports, hlast⟩ := ih _ hks hfollow
    rw [spread, show k.line.toNat = m by omega]
    refine ⟨?_, ?_, ?_⟩
    · rw [collect_gap_cons (fun _ _ ↦ rfl) hle, hk.token?_toLexeme hm, hk.text_toLexeme, htokens]
      rfl
    · rw [collect_gap_cons (fun _ _ ↦ rfl) hle, hk.report?_toLexeme, hk.text_toLexeme, hreports]
      rfl
    · rw [newlines_gap_cons hle, hk.text_toLexeme, hlast]

/-- The text of `spread` is one that the tokens are read from, without a report. -/
theorem Scannable.exists_ofText {ts : List Token} (h : Scannable o ts) :
    ∃ t, Scan.ofText o t = ⟨ts, []⟩ := by
  obtain ⟨⟨init, line, rfl, hinit⟩, hstart, hchain⟩ := h
  have hchain := isChain_final_cons.2 ⟨hstart, hchain⟩
  have hline : 1 ≤ line := le_of_isChain hchain
  obtain ⟨last, rfl⟩ := Int.eq_ofNat_of_zero_le (Int.le_trans Int.one_nonneg hline)
  obtain ⟨htokens, hreports, hlast⟩ := spread_spec 1 hinit hchain
  refine ⟨(spread last 1 init).flatMap text, ?_⟩
  rw [Scan.ofText_eq, (pieces_spread last 1 hinit).split_eq, htokens, hreports, closing, hlast]
  rfl

end Token

namespace Scan

/-- **The image of the scanner.**  The lists of tokens that a text can be scanned to are the
scannable ones, and each of them is the scan of a text in which nothing is wrong. -/
theorem exists_tokens_ofText_iff (o : Options) (ts : List Token) :
    ((∃ t, (ofText o t).tokens = ts) ↔ Token.Scannable o ts) ∧
      ((∃ t, ofText o t = ⟨ts, []⟩) ↔ Token.Scannable o ts) := by
  refine ⟨⟨?_, ?_⟩, ⟨?_, fun h ↦ h.exists_ofText⟩⟩
  · rintro ⟨t, rfl⟩
    exact Token.scannable_tokens o t
  · intro h
    obtain ⟨t, ht⟩ := h.exists_ofText
    exact ⟨t, by rw [ht]⟩
  · rintro ⟨t, ht⟩
    have hs := Token.scannable_tokens o t
    rwa [ht] at hs

end Scan

end LoxTokens
