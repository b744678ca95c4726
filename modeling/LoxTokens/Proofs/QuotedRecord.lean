import LoxTokens.Text.Delimiting
import LoxTokens.Token.Plain

/-!
# Records with quoted texts

`Token.quoted` shows all that a token holds, with its texts in quotes; it is what `Token.__repr__`
returns.  A text may hold quotes of both kinds, backslashes, commas and whole records, and the
literal is left out if it is absent.  This file shows that nothing of this is ever confusing.

* `Quoted.readCharacter` — the way back for one character.  What stands for a character is the same
  between either quotes, and it tells where it ends (`Quoted.readCharacter_escape`).
* `Quoted.delimits_encode` — so a quoted text tells the text and where it ends: the quote in front
  is known, and no character between the quotes is written with that quote in front.
* `Token.delimits_quoted` — so a record tells the token and where it ends.  The comma ends the name
  of the kind.  Behind the lexeme, a literal begins with a quote and a line number does not.

Every character of a record is printable, so none of them is a control character
(`Token.isPrintable_of_mem_quoted`), and a record stands on one line whatever the lines of its
texts.

Unlike what is proved of plain tokens, this is true of every `Token` that can be made, not only of
those of a scan.
-/

set_option autoImplicit false

namespace LoxTokens

namespace Quoted

open Text

/-! ## The way back for one character -/

/-- A character by its code point, in `width` digits, and what follows it. -/
def readCode (width : Nat) (t : Text) : Option (Char × Text) :=
  (Hexadecimal.value? (t.take width)).map fun n ↦ (Char.ofNat n, t.drop width)

/-- What stands behind a backslash, and what follows it. -/
def readEscape : Text → Option (Char × Text)
  | [] => none
  | 'n' :: t => some ('\n', t)
  | 'r' :: t => some ('\r', t)
  | 't' :: t => some ('\t', t)
  | 'x' :: t => readCode 2 t
  | 'u' :: t => readCode 4 t
  | 'U' :: t => readCode 8 t
  | c :: t => some (c, t)

/-- The first character that is written between quotes, and what follows it.  It is here only to
show that nothing is lost; nobody reads records. -/
def readCharacter : Text → Option (Char × Text)
  | [] => none
  | c :: t => if c = '\\' then readEscape t else some (c, t)

/-- A code in as many digits as it needs is read. -/
theorem readCode_padded {width : Nat} {c : Char} (h : c.toNat < Nat.pow 16 width) (s : Text) :
    readCode width (Hexadecimal.padded width c.toNat ++ s) = some (c, s) := by
  have hlength := Hexadecimal.length_padded width c.toNat
  rw [readCode, List.take_left' hlength, List.drop_left' hlength, Hexadecimal.value?_padded,
    Nat.mod_eq_of_lt h, Option.map_some, Char.ofNat_toNat]

/-- Every code point has at most eight digits. -/
theorem readCharacter_codeEscape (c : Char) (s : Text) :
    readCharacter (codeEscape c.toNat ++ s) = some (c, s) := by
  rw [codeEscape]
  split
  next h => exact readCode_padded h s
  next =>
    split
    next h => exact readCode_padded h s
    next =>
      have hvalid : c.toNat < 0xD800 ∨ 0xDFFF < c.toNat ∧ c.toNat < 0x110000 := c.valid
      have hpow : Nat.pow 16 8 = 0x100000000 := rfl
      exact readCode_padded (by omega) s

/-- A code is written with a backslash, a letter and digits. -/
theorem isPrintable_of_mem_codeEscape {n : Nat} {d : Char} (h : d ∈ codeEscape n) :
    isPrintable d = true := by
  have hdigit : ∀ m < 16, isPrintable (Nat.digitChar m) = true := by decide
  obtain ⟨letter, width, hletter, hcode⟩ : ∃ letter width, isPrintable letter = true ∧
      codeEscape n = '\\' :: letter :: Hexadecimal.padded width n := by
    rw [codeEscape]
    split
    · exact ⟨'x', 2, rfl, rfl⟩
    · split
      · exact ⟨'u', 4, rfl, rfl⟩
      · exact ⟨'U', 8, rfl, rfl⟩
  rw [hcode] at h
  rcases List.mem_cons.1 h with rfl | h
  · rfl
  · rcases List.mem_cons.1 h with rfl | h
    · exact hletter
    · obtain ⟨m, hm, rfl⟩ := Hexadecimal.exists_of_mem_padded h
      exact hdigit m hm

variable {q c : Char}

/-- A character stands for itself, or there is one letter or its code behind a backslash.  Which of
these it is depends on the character, and on the quote only if the character is one. -/
theorem escape_cases (hq : q = '\'' ∨ q = '"') (c : Char) :
    (c ≠ '\\' ∧ isPrintable c = true ∧ escape q c = [c]) ∨
      (∃ letter, isPrintable letter = true ∧ (∀ s, readEscape (letter :: s) = some (c, s)) ∧
        escape q c = ['\\', letter]) ∨
      escape q c = codeEscape c.toNat := by
  rw [escape]
  split
  next h =>
    obtain ⟨hprintable, hread⟩ : isPrintable c = true ∧
        ∀ s, readEscape (c :: s) = some (c, s) := by
      rcases h with rfl | rfl
      · rcases hq with rfl | rfl <;> exact ⟨rfl, fun _ ↦ rfl⟩
      · exact ⟨rfl, fun _ ↦ rfl⟩
    exact .inr (.inl ⟨c, hprintable, hread, rfl⟩)
  next h =>
    split
    next h => exact .inr (.inl ⟨'n', rfl, fun _ ↦ h ▸ rfl, rfl⟩)
    next =>
      split
      next h => exact .inr (.inl ⟨'r', rfl, fun _ ↦ h ▸ rfl, rfl⟩)
      next =>
        split
        next h => exact .inr (.inl ⟨'t', rfl, fun _ ↦ h ▸ rfl, rfl⟩)
        next =>
          split
          next hprintable => exact .inl ⟨(not_or.1 h).2, hprintable, rfl⟩
          next => exact .inr (.inr rfl)

/-- What stands for a character tells the character and where it ends. -/
theorem readCharacter_escape (hq : q = '\'' ∨ q = '"') (c : Char) (s : Text) :
    readCharacter (escape q c ++ s) = some (c, s) := by
  rcases escape_cases hq c with ⟨hslash, -, h⟩ | ⟨letter, -, hread, h⟩ | h
  · rw [h]
    exact if_neg hslash
  · rw [h]
    exact hread s
  · rw [h]
    exact readCharacter_codeEscape c s

/-- What stands for a character can be printed, whatever the character. -/
theorem isPrintable_of_mem_escape (hq : q = '\'' ∨ q = '"') {d : Char} (hd : d ∈ escape q c) :
    isPrintable d = true := by
  rcases escape_cases hq c with ⟨-, hc, h⟩ | ⟨letter, hletter, -, h⟩ | h <;> rw [h] at hd
  · rwa [List.mem_singleton.1 hd]
  · rcases List.mem_cons.1 hd with rfl | hd
    · rfl
    · rwa [List.mem_singleton.1 hd]
  · exact isPrintable_of_mem_codeEscape hd

/-! ## Quoted texts -/

/-- The delimiter is one of the two quotes. -/
theorem delimiter_eq (t : Text) : delimiter t = '\'' ∨ delimiter t = '"' := by
  rw [delimiter]
  split
  · exact .inr rfl
  · exact .inl rfl

/-- What stands for a character tells where it ends, between given quotes. -/
theorem delimits_escape (hq : q = '\'' ∨ q = '"') :
    Delimits (escape q) id fun _ ↦ True := by
  intro c d _ _ s t h
  have hread := congrArg readCharacter h
  rw [readCharacter_escape hq, readCharacter_escape hq] at hread
  exact Prod.mk.inj (Option.some.inj hread)

/-- A character is written as itself, if it is not the quote, or with a backslash in front. -/
theorem not_escape_isPrefix (hq : q = '\'' ∨ q = '"') (c : Char) (s : Text) :
    ¬ escape q c <+: q :: s := by
  rintro ⟨t, h⟩
  have hread := congrArg readCharacter h
  have hslash : q ≠ '\\' := by rcases hq with rfl | rfl <;> decide
  rw [readCharacter_escape hq, readCharacter, if_neg hslash] at hread
  obtain ⟨rfl, -⟩ := Prod.mk.inj (Option.some.inj hread)
  rw [escape, if_pos (.inl rfl)] at h
  exact hslash (List.cons.inj h).1.symm

/-- A quoted text from left to right. -/
theorem encode_append (t s : Text) :
    encode t ++ s = delimiter t :: (t.flatMap (escape (delimiter t)) ++ delimiter t :: s) := by
  simp [encode]

/-- **A quoted text tells the text and where it ends.** -/
theorem delimits_encode : Delimits encode id fun _ ↦ True := by
  intro a b _ _ s t h
  rw [encode_append, encode_append] at h
  obtain ⟨hquote, hrest⟩ := List.cons.inj h
  rw [← hquote] at hrest
  have hq := delimiter_eq a
  obtain ⟨hmap, hend⟩ := (delimits_escape hq).map_eq (fun _ _ ↦ trivial) (fun _ _ ↦ trivial)
    (fun c _ ↦ not_escape_isPrefix hq c s) (fun c _ ↦ not_escape_isPrefix hq c t) hrest
  rw [List.map_id, List.map_id] at hmap
  exact ⟨hmap, (List.cons.inj hend).2⟩

/-- A quoted text can be printed, and so it stands on one line. -/
theorem isPrintable_of_mem_encode {t : Text} {d : Char} (h : d ∈ encode t) :
    isPrintable d = true := by
  have hq := delimiter_eq t
  have hquote : isPrintable (delimiter t) = true := by
    rcases hq with hq | hq <;> rw [hq] <;> rfl
  rw [encode, List.mem_cons, List.mem_append, List.mem_flatMap, List.mem_singleton] at h
  rcases h with rfl | ⟨c, -, hd⟩ | rfl
  · exact hquote
  · exact isPrintable_of_mem_escape hq hd
  · exact hquote

/-- A quoted text begins unlike a number. -/
theorem encode_append_ne_ofInt_append (t s s' : Text) (n : Int) :
    encode t ++ s ≠ Decimal.ofInt n ++ s' := by
  intro h
  cases hdigits : Decimal.ofInt n with
  | nil => exact Decimal.ofInt_ne_nil n hdigits
  | cons d digits =>
    rw [hdigits, encode_append, List.cons_append] at h
    have hmem : delimiter t ∈ Decimal.ofInt n := by
      rw [hdigits, (List.cons.inj h).1]
      exact List.mem_cons_self
    have hq := delimiter_eq t
    rcases Decimal.eq_minus_or_isDigit_of_mem_ofInt hmem with hc | hc
    all_goals rcases hq with hq | hq <;> rw [hq] at hc <;> exact absurd hc (by decide)

end Quoted

/-! ## Records -/

namespace Token

/-- The end of a record, which begins with a literal if there is one. -/
def quotedEnd (literal : Option Text) (line : Int) (s : Text) : Text :=
  match literal with
  | none => Decimal.ofInt line ++ ')' :: s
  | some body => Quoted.encode body ++ (", ".toList ++ (Decimal.ofInt line ++ ')' :: s))

/-- A record, from left to right. -/
theorem quoted_append (k : Token) (s : Text) :
    k.quoted ++ s = "Token(".toList ++ (k.kind.name ++ ',' :: (' ' ::
      (Quoted.encode k.lexeme ++ (", ".toList ++ quotedEnd k.literal k.line s)))) := by
  unfold quoted quotedEnd
  cases k.literal
  all_goals
    simp only [List.append_assoc, List.nil_append, List.singleton_append]
    rfl

/-- A line number ends at the bracket behind it. -/
theorem ofInt_append_inj {m n : Int} {s t : Text}
    (h : Decimal.ofInt m ++ ')' :: s = Decimal.ofInt n ++ ')' :: t) : m = n ∧ s = t := by
  have hbracket (n : Int) : ')' ∉ Decimal.ofInt n := fun hmem ↦
    (Decimal.eq_minus_or_isDigit_of_mem_ofInt hmem).elim (by decide) (by decide)
  obtain ⟨hdigits, hrest⟩ := (Text.append_cons_inj (hbracket m) (hbracket n)).1 h
  exact ⟨Decimal.ofInt_inj.1 hdigits, hrest⟩

/-- The end of a record tells whether there is a literal. -/
theorem quotedEnd_inj {l l' : Option Text} {m n : Int} {s t : Text}
    (h : quotedEnd l m s = quotedEnd l' n t) : l = l' ∧ m = n ∧ s = t := by
  cases l with
  | none =>
    cases l' with
    | none => exact ⟨rfl, ofInt_append_inj h⟩
    | some body' => exact absurd h.symm (Quoted.encode_append_ne_ofInt_append _ _ _ _)
  | some body =>
    cases l' with
    | none => exact absurd h (Quoted.encode_append_ne_ofInt_append _ _ _ _)
    | some body' =>
      obtain ⟨hbody, hrest⟩ := Quoted.delimits_encode trivial trivial h
      exact ⟨congrArg some hbody, ofInt_append_inj (List.append_cancel_left hrest)⟩

/-- **A record tells the token and where it ends.** -/
theorem delimits_quoted : Text.Delimits quoted id fun _ ↦ True := by
  intro j k _ _ s t h
  have hcomma (k : Kind) : ',' ∉ k.name := k.not_mem_name (by decide)
  rw [quoted_append, quoted_append, List.append_cancel_left_eq] at h
  obtain ⟨hname, hrest⟩ := (Text.append_cons_inj (hcomma _) (hcomma _)).1 h
  obtain ⟨hlexeme, hrest⟩ := Quoted.delimits_encode trivial trivial (List.cons.inj hrest).2
  obtain ⟨hliteral, hline, hend⟩ := quotedEnd_inj (List.append_cancel_left hrest)
  refine ⟨?_, hend⟩
  cases j
  cases k
  obtain rfl := Kind.name_inj.1 hname
  cases hlexeme
  cases hliteral
  cases hline
  rfl

/-! ### What a record is made of -/

theorem isPrintable_of_mem_name {k : Kind} {c : Char} (h : c ∈ k.name) :
    Text.isPrintable c = true := by
  have hname := Kind.toNat_of_mem_name h
  exact Text.isPrintable_of_ascii (by omega) (by omega)

theorem isPrintable_of_mem_ofInt {n : Int} {c : Char} (h : c ∈ Decimal.ofInt n) :
    Text.isPrintable c = true := by
  rcases Decimal.eq_minus_or_isDigit_of_mem_ofInt h with rfl | hc
  · rfl
  · have hdigit := Decimal.toNat_of_isDigit hc
    exact Text.isPrintable_of_ascii (by omega) (by omega)

theorem isPrintable_of_mem_separator : ∀ c ∈ ", ".toList, Text.isPrintable c = true :=
  List.all_eq_true.1 rfl

theorem isPrintable_of_mem_quotedEnd {literal : Option Text} {line : Int} {c : Char}
    (h : c ∈ quotedEnd literal line []) : Text.isPrintable c = true := by
  have hline : ∀ c ∈ Decimal.ofInt line ++ [')'], Text.isPrintable c = true := by
    intro c hc
    rcases List.mem_append.1 hc with hc | hc
    · exact isPrintable_of_mem_ofInt hc
    · rw [List.mem_singleton.1 hc]
      rfl
  cases literal with
  | none => exact hline c h
  | some body =>
    rw [quotedEnd, List.mem_append, List.mem_append] at h
    rcases h with h | h | h
    · exact Quoted.isPrintable_of_mem_encode h
    · exact isPrintable_of_mem_separator c h
    · exact hline c h

/-- A record can be printed, whatever is in the texts of the token. -/
theorem isPrintable_of_mem_quoted {k : Token} {c : Char} (h : c ∈ k.quoted) :
    Text.isPrintable c = true := by
  have hopen : ("Token(".toList).all Text.isPrintable = true := rfl
  rw [← List.append_nil k.quoted, quoted_append, List.mem_append, List.mem_append, List.mem_cons,
    List.mem_cons, List.mem_append, List.mem_append] at h
  rcases h with h | h | rfl | rfl | h | h | h
  · exact List.all_eq_true.1 hopen c h
  · exact isPrintable_of_mem_name h
  · rfl
  · rfl
  · exact Quoted.isPrintable_of_mem_encode h
  · exact isPrintable_of_mem_separator c h
  · exact isPrintable_of_mem_quotedEnd h

/-- **A record is one of one token only, and stands on one line.**  The records of two tokens are
the same if and only if the tokens are; and there is no line feed, no ESC and no other control
character in a record. -/
theorem quoted_inj_and_printable (j k : Token) :
    (j.quoted = k.quoted ↔ j = k) ∧
      ∀ c ∈ k.quoted, Text.isPrintable c = true ∧ 0x20 ≤ c.toNat ∧
        ¬ (0x7F ≤ c.toNat ∧ c.toNat ≤ 0x9F) := by
  refine ⟨⟨fun h ↦ ?_, fun h ↦ h ▸ rfl⟩, fun c hc ↦ ?_⟩
  · have happend : j.quoted ++ [] = k.quoted ++ [] := by rw [h]
    exact (delimits_quoted trivial trivial happend).1
  · have hprintable := isPrintable_of_mem_quoted hc
    have hcontrol : ¬ (c.toNat < 0x20 ∨ 0x7F ≤ c.toNat ∧ c.toNat ≤ 0xA0) := by
      intro h
      rw [Text.isPrintable_eq_false_of_control h] at hprintable
      exact absurd hprintable nofun
    exact ⟨hprintable, by omega, by omega⟩

/-- A literal that is empty is shown, and its quotes keep it apart from none. -/
example : (⟨.string, ['"', '"'], some [], 1⟩ : Token).quoted =
    "Token(STRING, '\"\"', '', 1)".toList := by decide

end Token

end LoxTokens
