import LoxTokens.Text.Json
import LoxTokens.Token.Json
import Mathlib.Data.List.Basic
import Mathlib.Tactic.SplitIfs

/-!
# What is written as JSON can be read

This file shows that the reader of `Json` undoes what is written for strings, numbers and lists of
items, going up from the escape of one character.

* `JsonString.read_flatMap_escape` — a string is read as the text that it was written for.  A
  character above U+FFFF is written as two surrogates, which the reader puts together again.
* `Json.Finds item s a` — a reader finds `a` in `s`, whatever follows the comma or the line feed
  behind it.  Strings, numbers and members are found in what is written for them.
* `Json.readList_jsonItems` — a list of things is read that are found one by one.

What may follow matters for numbers only: a number ends where no digit, point or exponent comes, and
its writing does not say so.  So `Finds` has the comma or the line feed in it from the beginning,
since one of the two stands behind everything that `Token.jsonArray` writes.
-/

set_option autoImplicit false

namespace LoxTokens

/-!
## Strings

A string is read in two steps, and each is undone by itself: escapes to units, and units to
characters.  In between, the units of a text are those of its characters, one behind the other.
-/

namespace JsonString

/-- An escape is read before anything else is tried. -/
theorem readUnits_escape {t rest : Text} {us : List Nat} (h : readEscape t = some (us, rest)) :
    readUnits ('\\' :: t) = (readUnits rest).map fun (vs, left) ↦ (us ++ vs, left) := by
  rw [readUnits, if_neg (by decide), if_pos rfl]
  split
  · next hnone =>
    rw [h] at hnone
    cases hnone
  · next us' rest' hsome =>
    rw [h] at hsome
    obtain ⟨rfl, rfl⟩ := Prod.mk.inj (Option.some.inj hsome)
    rfl

/-- Any other character is its own unit, or its own two units. -/
theorem readUnits_character {c : Char} (hquote : c ≠ '"') (hescape : c ≠ '\\')
    (hc : 0x20 ≤ c.toNat) (t : Text) :
    readUnits (c :: t) = (readUnits t).map fun (vs, left) ↦ (units c ++ vs, left) := by
  rw [readUnits, if_neg hquote, if_neg hescape, if_neg (Nat.not_lt.2 hc)]

/-- A unit in four digits is read. -/
theorem readEscape_padded {unit : Nat} (hunit : unit < 0x10000) (t : Text) :
    readEscape ('u' :: (Hexadecimal.padded 4 unit ++ t)) = some ([unit], t) := by
  have hlength : (Hexadecimal.padded 4 unit).length = 4 := Hexadecimal.length_padded 4 unit
  have hvalue : Hexadecimal.value? (Hexadecimal.padded 4 unit) = some unit := by
    rw [Hexadecimal.value?_padded]
    exact congrArg some (Nat.mod_eq_of_lt hunit)
  rw [readEscape, if_neg (by rw [List.length_append, hlength]; omega), List.take_left' hlength,
    List.drop_left' hlength, hvalue]
  rfl

theorem readUnits_padded {us : List Nat} (hus : ∀ unit ∈ us, unit < 0x10000) (t : Text) :
    readUnits (us.flatMap (fun unit ↦ '\\' :: 'u' :: Hexadecimal.padded 4 unit) ++ t) =
      (readUnits t).map fun (vs, left) ↦ (us ++ vs, left) := by
  induction us with
  | nil => simp
  | cons unit us ih =>
    have hunit := readEscape_padded (hus unit List.mem_cons_self)
      (us.flatMap (fun unit ↦ '\\' :: 'u' :: Hexadecimal.padded 4 unit) ++ t)
    rw [List.flatMap_cons, List.append_assoc, List.cons_append, List.cons_append,
      readUnits_escape hunit, ih fun v hv ↦ hus v (List.mem_cons_of_mem unit hv), Option.map_map]
    rfl

/-- The units of a character are sixteen bits wide. -/
theorem lt_of_mem_units {c : Char} {unit : Nat} (h : unit ∈ units c) : unit < 0x10000 := by
  have hvalid : c.toNat < 0xD800 ∨ 0xDFFF < c.toNat ∧ c.toNat < 0x110000 := c.valid
  rw [units] at h
  split at h
  · rw [List.mem_singleton.1 h]
    assumption
  · rw [List.mem_pair] at h
    omega

/-- What a character is escaped to is read as its units.  Behind it, reading goes on as if it had
begun there. -/
theorem readUnits_escape_append (c : Char) (t : Text) :
    readUnits (escape c ++ t) = (readUnits t).map fun (vs, left) ↦ (units c ++ vs, left) := by
  rw [escape]
  split_ifs with hmark h h h h h hplain
  · rcases hmark with rfl | rfl
    · exact readUnits_escape rfl
    · exact readUnits_escape rfl
  · exact h ▸ readUnits_escape rfl
  · exact h ▸ readUnits_escape rfl
  · exact h ▸ readUnits_escape rfl
  · exact h ▸ readUnits_escape rfl
  · exact h ▸ readUnits_escape rfl
  · rw [not_or] at hmark
    exact readUnits_character hmark.1 hmark.2 hplain.1 t
  · exact readUnits_padded (fun _ ↦ lt_of_mem_units) t

theorem readUnits_append (s t : Text) :
    readUnits (s.flatMap escape ++ '"' :: t) = some (s.flatMap units, t) := by
  induction s with
  | nil => rw [List.flatMap_nil, List.nil_append, readUnits, if_pos rfl, List.flatMap_nil]
  | cons c s ih =>
    rw [List.flatMap_cons, List.append_assoc, readUnits_escape_append, ih, List.flatMap_cons]
    rfl

/-- A unit that is no surrogate is a character. -/
theorem ofUnits_cons {unit : Nat} (hunit : unit < 0xD800 ∨ 0xDFFF < unit) (us : List Nat) :
    ofUnits (unit :: us) = (ofUnits us).map (Char.ofNat unit :: ·) := by
  cases us with
  | nil => simp [ofUnits, hunit]
  | cons v us => rw [ofUnits, if_pos hunit]

/-- A high surrogate and a low one behind it are a character. -/
theorem ofUnits_pair {high low : Nat} (hhigh : 0xD800 ≤ high ∧ high < 0xDC00)
    (hlow : 0xDC00 ≤ low ∧ low ≤ 0xDFFF) (us : List Nat) :
    ofUnits (high :: low :: us) = (ofUnits us).map
      (Char.ofNat (0x10000 + (high - 0xD800) * 0x400 + (low - 0xDC00)) :: ·) := by
  rw [ofUnits, if_neg (by omega), if_pos ⟨hhigh.2, hlow⟩]

/-- The units of a character spell this character. -/
theorem ofUnits_units_append (c : Char) (us : List Nat) :
    ofUnits (units c ++ us) = (ofUnits us).map (c :: ·) := by
  have hvalid : c.toNat < 0xD800 ∨ 0xDFFF < c.toNat ∧ c.toNat < 0x110000 := c.valid
  rw [units]
  split
  · rw [List.singleton_append, ofUnits_cons (by omega), Char.ofNat_toNat]
  · have hunits : 0x10000 + (0xD800 + (c.toNat - 0x10000) / 0x400 - 0xD800) * 0x400 +
        (0xDC00 + (c.toNat - 0x10000) % 0x400 - 0xDC00) = c.toNat := by
      omega
    rw [List.cons_append, List.singleton_append, ofUnits_pair (by omega) (by omega), hunits,
      Char.ofNat_toNat]

/-- The units of a text spell this text. -/
theorem ofUnits_flatMap_units (s : Text) : ofUnits (s.flatMap units) = some s := by
  induction s with
  | nil => rfl
  | cons c s ih => rw [List.flatMap_cons, ofUnits_units_append, ih, Option.map_some]

/-- **What is written as a string is read as what it was.** -/
theorem read_flatMap_escape (s t : Text) : read (s.flatMap escape ++ '"' :: t) = some (s, t) := by
  rw [read, readUnits_append, Option.bind_some]
  dsimp only
  rw [ofUnits_flatMap_units, Option.map_some]

end JsonString

/-!
## Values

From here on something is found rather than read: what stands behind it is left open, but for its
first character.
-/

namespace Json

variable {α : Type} {item : Text → Option (α × Text)} {depth : Nat}

theorem skip_append {space : Text} (h : ∀ c ∈ space, isSpace c = true) (t : Text) :
    skip (space ++ t) = skip t :=
  List.dropWhile_append_of_pos h

theorem skip_cons {c : Char} (h : isSpace c = false) (t : Text) : skip (c :: t) = c :: t :=
  List.dropWhile_cons_of_neg (by simp [h])

/-- The reader finds `a` in `s`, if the item or its line ends behind it.  This is what an item needs
to stand in a list, whatever its neighbours are. -/
def Finds (item : Text → Option (α × Text)) (s : Text) (a : α) : Prop :=
  ∀ c t, c = ',' ∨ c = '\n' → item (skip (s ++ c :: t)) = some (a, c :: t)

/-- White space in front does not matter. -/
theorem Finds.space {s space : Text} {a : α} (h : Finds item s a)
    (hspace : ∀ c ∈ space, isSpace c = true) : Finds item (space ++ s) a := by
  intro c t hc
  rw [List.append_assoc, skip_append hspace, h c t hc]

/-- A string is found in what is written for it. -/
theorem finds_string (s : Text) : Finds (readValue depth) (JsonString.encode s) (string s) := by
  intro c t _
  rw [JsonString.encode, List.cons_append, skip_cons (by decide), readValue, List.append_assoc,
    List.singleton_append, JsonString.read_flatMap_escape, Option.map_some]

theorem finds_null : Finds (readValue depth) "null".toList null := by
  intro c t _
  cases depth <;> rfl

/-!
### Numbers

Digits are read as long as there are any, and the number without a leading zero is not cut short.
What follows a number in an array or an object is a comma or a line feed, which is no digit, point
or exponent.
-/

/-- Digits are read up to the first character that is none. -/
theorem readDigits_append {ds : Text} (hne : ds ≠ []) (hds : ∀ c ∈ ds, c.isDigit = true)
    {c : Char} (hc : c.isDigit = false) (t : Text) :
    readDigits (ds ++ c :: t) = some (ds, c :: t) := by
  have htake : (ds ++ c :: t).takeWhile Char.isDigit = ds := by
    rw [List.takeWhile_append_of_pos hds, List.takeWhile_cons_of_neg (by simp [hc]),
      List.append_nil]
  have hdrop : (ds ++ c :: t).dropWhile Char.isDigit = c :: t := by
    rw [List.dropWhile_append_of_pos hds, List.dropWhile_cons_of_neg (by simp [hc])]
  rw [readDigits, htake, hdrop, if_neg hne]

/-- Only zero is written with a zero in front. -/
theorem eq_zero_of_head?_ofNat {n : Nat} (h : (Decimal.ofNat n).head? = some '0') : n = 0 := by
  induction n using Nat.strongRecOn with
  | ind n ih =>
    rcases Nat.lt_or_ge n 10 with hn | hn
    · have hdigit : ∀ m < 10, some (Nat.digitChar m) = some '0' → m = 0 := by decide
      rw [Decimal.ofNat, Nat.toDigits_of_lt_base hn] at h
      exact hdigit n hn h
    · have hdigits : Decimal.ofNat n = Decimal.ofNat (n / 10) ++ [(n % 10).digitChar] :=
        Nat.toDigits_of_base_le (by decide) hn
      rw [hdigits, List.head?_append_of_ne_nil _ (Decimal.ofNat_ne_nil _)] at h
      have := ih (n / 10) (by omega) h
      omega

/-- A whole number is read as itself. -/
theorem readUnsigned_ofNat (sign : Int) (n : Nat) {c : Char} (hc : c = ',' ∨ c = '\n') (t : Text) :
    readUnsigned sign (Decimal.ofNat n ++ c :: t) = some (number (sign * n) 0, c :: t) := by
  have hend : c.isDigit = false := by rcases hc with rfl | rfl <;> rfl
  have hdigits := readDigits_append (Decimal.ofNat_ne_nil n)
    (fun _ ↦ Decimal.isDigit_of_mem_ofNat) hend t
  have hzero : ¬ ((Decimal.ofNat n).head? = some '0' ∧ Decimal.ofNat n ≠ ['0']) :=
    fun h ↦ h.2 (eq_zero_of_head?_ofNat h.1 ▸ rfl)
  have hvalue : Nat.ofDigitChars 10 (Decimal.ofNat n) 0 = n :=
    Nat.ofDigitChars_toDigits (by decide) (by decide)
  have hfraction : readFraction (c :: t) = some ([], c :: t) := by
    rcases hc with rfl | rfl <;> rfl
  have hexponent : readExponent (c :: t) = some (0, c :: t) := by
    rcases hc with rfl | rfl <;> rfl
  rw [readUnsigned, hdigits, Option.bind_some]
  dsimp only
  rw [if_neg hzero, hfraction, Option.bind_some]
  dsimp only
  rw [hexponent, List.append_nil, hvalue]
  rfl

theorem readValue_eq_readNumber {c : Char} (hc : c ∉ ['"', '[', '\x7b', 'n', 't', 'f']) (t : Text) :
    readValue depth (c :: t) = readNumber (c :: t) := by
  simp only [List.mem_cons, List.not_mem_nil, or_false, not_or] at hc
  have hscalar : readValue depth (c :: t) = readScalar (c :: t) := by
    unfold readValue
    split <;> simp_all
  rw [hscalar, readScalar]
  simp [words, List.isPrefixOf, Ne.symm hc.2.2.2.1, Ne.symm hc.2.2.2.2.1, Ne.symm hc.2.2.2.2.2]

theorem readNumber_of_ne {c : Char} (hc : c ≠ '-') (t : Text) :
    readNumber (c :: t) = readUnsigned 1 (c :: t) := by
  rw [readNumber]
  rintro _ h
  exact hc (List.cons.inj h).1

/-- A number is found in what is written for it. -/
theorem finds_ofInt (n : Int) : Finds (readValue depth) (Decimal.ofInt n) (number n 0) := by
  cases n with
  | ofNat n =>
    obtain ⟨d, ds, hds⟩ := List.exists_cons_of_ne_nil (Decimal.ofNat_ne_nil n)
    have hcons (t : Text) : Decimal.ofInt (.ofNat n) ++ t = d :: (ds ++ t) := by
      rw [Decimal.ofInt, hds, List.cons_append]
    -- the first character is a digit, and none of the marks by which values are told apart
    have hnot {cs : Text} (hcs : cs.all (!·.isDigit) = true) : d ∉ cs := by
      intro hmem
      have hd : d.isDigit = false := by simpa using List.all_eq_true.1 hcs d hmem
      exact Decimal.not_mem_ofNat hd n (hds ▸ List.mem_cons_self)
    have hspace : d ∉ [' ', '\t', '\n', '\r'] := hnot rfl
    have hmark : d ∉ ['"', '[', '\x7b', 'n', 't', 'f'] := hnot rfl
    have hminus : d ∉ ['-'] := hnot rfl
    intro c t hc
    rw [hcons, skip_cons (by simpa [isSpace, and_assoc] using hspace),
      readValue_eq_readNumber hmark, readNumber_of_ne (by simpa using hminus), ← hcons,
      Decimal.ofInt, readUnsigned_ofNat 1 n hc, Int.one_mul]
    rfl
  | negSucc n =>
    intro c t hc
    rw [Decimal.ofInt, List.cons_append, skip_cons (by decide),
      readValue_eq_readNumber (by decide), readNumber, readUnsigned_ofNat (-1) (n + 1) hc,
      Int.neg_one_mul]
    rfl

/-!
### Arrays and objects

Both are lists of items between two marks, with a comma behind each item but the last.  The reader
of an item is a parameter, and so the same lemma serves for the tokens of the array and for the
members of each object.
-/

variable {close : Char} {xs : List (Text × α)} {indent : Text}

/-- Items are read that are found one by one, with commas and line breaks between them. -/
theorem readItems_jsonItems (hclose : close ≠ ',' ∧ isSpace close = false)
    (hindent : ∀ c ∈ indent, isSpace c = true) (hne : xs ≠ [])
    (hxs : ∀ x ∈ xs, Finds item x.1 x.2) (t : Text) :
    readItems item close
        ('\n' :: (Token.jsonItems (xs.map Prod.fst) ++ '\n' :: (indent ++ close :: t))) =
      some (xs.map Prod.snd, t) := by
  have hfeed (u : Text) : skip ('\n' :: u) = skip u := List.dropWhile_cons_of_pos (by decide)
  induction xs with
  | nil => exact absurd rfl hne
  | cons x xs ih =>
    have hx := hxs x List.mem_cons_self
    cases xs with
    -- the last item: behind it come a line feed, white space and the mark that closes
    | nil =>
      have hitems : Token.jsonItems ([x].map Prod.fst) = x.1 := by simp [Token.jsonItems]
      have hskip : skip ('\n' :: (indent ++ close :: t)) = close :: t := by
        rw [hfeed, skip_append hindent, skip_cons hclose.2]
      rw [readItems, hfeed, hitems, hx _ _ (.inr rfl)]
      dsimp only
      rw [hskip]
      dsimp only
      rw [if_pos rfl]
      rfl
    | cons y ys =>
      have hitems : Token.jsonItems ((x :: y :: ys).map Prod.fst) =
          x.1 ++ ',' :: ('\n' :: Token.jsonItems ((y :: ys).map Prod.fst)) := by
        simp [Token.jsonItems, List.intercalate_cons_cons]
      -- the reader goes on only if what is left is shorter, and so it always ends
      have hshorter (u : Text) : u.length < ('\n' :: (x.1 ++ ',' :: u)).length := by
        simp only [List.length_append, List.length_cons]
        omega
      have hrest := ih (by simp) fun z hz ↦ hxs z (List.mem_cons_of_mem x hz)
      rw [readItems, hfeed, hitems, List.append_assoc, List.cons_append, hx _ _ (.inl rfl)]
      dsimp only
      rw [skip_cons (by decide)]
      dsimp only
      rw [if_neg hclose.1.symm, if_pos ⟨rfl, hshorter _⟩, List.cons_append, hrest]
      rfl

/-- So they are in a list that may be empty, if no item begins with the mark that closes it. -/
theorem readList_jsonItems (hclose : close ≠ ',' ∧ isSpace close = false)
    (hnil : item [] = none) (hitem : ∀ u, item (close :: u) = none)
    (hindent : ∀ c ∈ indent, isSpace c = true) (hne : xs ≠ [])
    (hxs : ∀ x ∈ xs, Finds item x.1 x.2) (t : Text) :
    readList item close
        ('\n' :: (Token.jsonItems (xs.map Prod.fst) ++ '\n' :: (indent ++ close :: t))) =
      some (xs.map Prod.snd, t) := by
  have h := readItems_jsonItems hclose hindent hne hxs t
  rw [readList]
  split
  · next hskip =>
    rw [readItems, hskip, hnil] at h
    cases h
  · next c u hskip =>
    refine (if_neg ?_).trans h
    rintro rfl
    rw [readItems, hskip, hitem] at h
    cases h

/-- A member is found if its value is. -/
theorem finds_member {name value : Text} {v : Json} (h : Finds (readValue depth) value v) :
    Finds (readMember (readValue depth)) (JsonString.encode name ++ ": ".toList ++ value)
      (name, v) := by
  intro c t hc
  have hspace : Finds (readValue depth) ([' '] ++ value) v := h.space (List.all_eq_true.1 rfl)
  have hvalue : readValue depth (skip (' ' :: (value ++ c :: t))) = some (v, c :: t) :=
    hspace c t hc
  have htext : JsonString.encode name ++ ": ".toList ++ value ++ c :: t =
      '"' :: (name.flatMap JsonString.escape ++ '"' :: ':' :: ' ' :: (value ++ c :: t)) := by
    simp [JsonString.encode]
  rw [htext, skip_cons (by decide), readMember, JsonString.read_flatMap_escape, Option.bind_some]
  dsimp only
  rw [skip_cons (by decide)]
  exact congrArg (Option.map fun p ↦ ((name, p.1), p.2)) hvalue

end Json

end LoxTokens
