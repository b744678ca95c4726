import LoxTokens.Text.JsonString

/-!
# Reading JSON

`Json` holds the values of JSON, and `Json.decode` reads a text by its grammar: white space may
stand around every mark and every value, and nothing else may be left over.

* A string is read in two steps.  `JsonString.readUnits` undoes the escapes and gives sixteen-bit
  units, up to the closing quote; `JsonString.ofUnits` puts the units together to characters.  A
  high surrogate and the low one behind it are one character, and no surrogate is one alone.
* A number is kept exactly, as a whole number and a power of ten.
* `Json.readItems` reads what stands between the brackets of an array or the braces of an object,
  given a reader for one item; `Json.readValue` ties the knot, to any depth of nesting.

Every reader of a part begins where the part does, white space having been skipped, and hands back
what stands behind the part.

The program only writes JSON.  The reader is here to say what that means: it knows nothing of
tokens, nor of how they are laid out, and what is written can be read by it
(`LoxTokens.Proofs.JsonDump`).
-/

set_option autoImplicit false

namespace LoxTokens

/-! ## Strings -/

namespace JsonString

/-- The letters that may stand behind a backslash, with the characters that they mean. -/
def letters : List (Char × Char) :=
  [('"', '"'), ('\\', '\\'), ('/', '/'), ('b', '\x08'), ('f', '\x0c'), ('n', '\n'), ('r', '\r'),
   ('t', '\t')]

/-- The units that are written behind a backslash: a letter, or `u` and four digits. -/
def readEscape : Text → Option (List Nat × Text)
  | [] => none
  | 'u' :: t =>
    if t.length < 4 then none
    else (Hexadecimal.value? (t.take 4)).map fun unit ↦ ([unit], t.drop 4)
  | c :: t => (letters.lookup c).map fun c ↦ (units c, t)

theorem length_readEscape {t rest : Text} {us : List Nat} (h : readEscape t = some (us, rest)) :
    rest.length < t.length := by
  unfold readEscape at h
  split at h
  · exact absurd h nofun
  · next t =>
    split at h
    · exact absurd h nofun
    · obtain ⟨unit, -, hpair⟩ := Option.map_eq_some_iff.1 h
      rw [← (Prod.mk.inj hpair).2, List.length_drop, List.length_cons]
      omega
  · obtain ⟨c, -, hpair⟩ := Option.map_eq_some_iff.1 h
    rw [← (Prod.mk.inj hpair).2]
    exact Nat.lt_succ_self _

/-- The units up to the closing quote, and what stands behind the quote.  Controls must be
escaped. -/
def readUnits : Text → Option (List Nat × Text)
  | [] => none
  | c :: t =>
    if c = '"' then some ([], t)
    else if c = '\\' then
      match _h : readEscape t with
      | none => none
      | some (us, rest) => (readUnits rest).map fun (vs, rest) ↦ (us ++ vs, rest)
    else if c.toNat < 0x20 then none
    else (readUnits t).map fun (vs, rest) ↦ (units c ++ vs, rest)
termination_by t => t.length
decreasing_by
  · exact Nat.lt_succ_of_lt (length_readEscape _h)
  · exact Nat.lt_succ_self _

/-- The text that units spell. -/
def ofUnits : List Nat → Option Text
  | [] => some []
  | unit :: us =>
    if unit < 0xD800 ∨ 0xDFFF < unit then (ofUnits us).map (Char.ofNat unit :: ·)
    else match us with
      | [] => none
      | low :: us =>
        if unit < 0xDC00 ∧ 0xDC00 ≤ low ∧ low ≤ 0xDFFF then
          (ofUnits us).map (Char.ofNat (0x10000 + (unit - 0xD800) * 0x400 + (low - 0xDC00)) :: ·)
        else none

/-- The text of a string behind its opening quote, and what stands behind the closing one. -/
def read (t : Text) : Option (Text × Text) :=
  (readUnits t).bind fun (us, rest) ↦ (ofUnits us).map fun s ↦ (s, rest)

end JsonString

/-! ## Values -/

/-- A value of JSON. -/
inductive Json
  | null
  | bool (value : Bool)
  /-- The number `mantissa` times ten to the power of `exponent`. -/
  | number (mantissa exponent : Int)
  | string (t : Text)
  | array (items : List Json)
  /-- Names and values, in the order in which they are written. -/
  | object (members : List (Text × Json))

namespace Json

/-- The characters that may stand between marks and values. -/
def isSpace (c : Char) : Bool := c = ' ' || c = '\t' || c = '\n' || c = '\r'

/-- The text without the white space in front. -/
def skip (t : Text) : Text := t.dropWhile isSpace

/-- One digit or more. -/
def readDigits (t : Text) : Option (Text × Text) :=
  if t.takeWhile Char.isDigit = [] then none
  else some (t.takeWhile Char.isDigit, t.dropWhile Char.isDigit)

/-- The digits behind the point, if there is one. -/
def readFraction : Text → Option (Text × Text)
  | '.' :: t => readDigits t
  | t => some ([], t)

/-- The power of ten, if there is one. -/
def readExponent : Text → Option (Int × Text)
  | c :: t =>
    if c = 'e' ∨ c = 'E' then
      match t with
      | '-' :: t => (readDigits t).map fun (ds, rest) ↦ (-(Nat.ofDigitChars 10 ds 0 : Int), rest)
      | '+' :: t => (readDigits t).map fun (ds, rest) ↦ (Nat.ofDigitChars 10 ds 0, rest)
      | t => (readDigits t).map fun (ds, rest) ↦ (Nat.ofDigitChars 10 ds 0, rest)
    else some (0, c :: t)
  | [] => some (0, [])

/-- A number without its sign.  Before the point stands no needless zero. -/
def readUnsigned (sign : Int) (t : Text) : Option (Json × Text) :=
  (readDigits t).bind fun (whole, t) ↦
    if whole.head? = some '0' ∧ whole ≠ ['0'] then none
    else (readFraction t).bind fun (fraction, t) ↦
      (readExponent t).map fun (exponent, t) ↦
        (number (sign * Nat.ofDigitChars 10 (whole ++ fraction) 0) (exponent - fraction.length), t)

/-- A number. -/
def readNumber : Text → Option (Json × Text)
  | '-' :: t => readUnsigned (-1) t
  | t => readUnsigned 1 t

/-- The values that are words. -/
def words : List (Text × Json) :=
  [("null".toList, null), ("true".toList, bool true), ("false".toList, bool false)]

/-- A word or a number. -/
def readScalar (t : Text) : Option (Json × Text) :=
  match words.find? fun (word, _) ↦ word.isPrefixOf t with
  | some (word, value) => some (value, t.drop word.length)
  | none => readNumber t

variable {α : Type}

/-- Items with commas between them, up to the mark that closes them.  Each item is read by `item`,
which uses up some of the text. -/
def readItems (item : Text → Option (α × Text)) (close : Char) (t : Text) :
    Option (List α × Text) :=
  match item (skip t) with
  | none => none
  | some (a, rest) =>
    match skip rest with
    | [] => none
    | c :: more =>
      if c = close then some ([a], more)
      else if c = ',' ∧ more.length < t.length then
        (readItems item close more).map fun (as, rest) ↦ (a :: as, rest)
      else none
termination_by t.length

/-- The same if there may be no item at all. -/
def readList (item : Text → Option (α × Text)) (close : Char) (t : Text) :
    Option (List α × Text) :=
  match skip t with
  | [] => none
  | c :: rest => if c = close then some ([], rest) else readItems item close t

/-- A member of an object, whose value is read by `value`. -/
def readMember (value : Text → Option (Json × Text)) : Text → Option ((Text × Json) × Text)
  | '"' :: t =>
    (JsonString.read t).bind fun (name, t) ↦
      match skip t with
      | ':' :: t => (value (skip t)).map fun (v, t) ↦ ((name, v), t)
      | _ => none
  | _ => none

/-- A value with at most `depth` arrays and objects around each other. -/
def readValue : (depth : Nat) → Text → Option (Json × Text)
  | _, '"' :: t => (JsonString.read t).map fun (s, t) ↦ (string s, t)
  | depth + 1, '[' :: t =>
    (readList (readValue depth) ']' t).map fun (items, t) ↦ (array items, t)
  | depth + 1, '\x7b' :: t =>
    (readList (readMember (readValue depth)) '\x7d' t).map fun (members, t) ↦ (object members, t)
  | _, t => readScalar t

/-- The value that a text stands for.  No text is nested deeper than it is long. -/
def decode (t : Text) : Option Json :=
  (readValue t.length (skip t)).bind fun (v, rest) ↦ if skip rest = [] then some v else none

/-- Two surrogates are one character, and a backslash may stand in front of a slash. -/
example : decode " [ -1.50e2, \"\\ud83d\\ude00\\/\" ] ".toList =
    some (.array [.number (-150) 0, .string ['😀', '/']]) := by cbv

end Json

end LoxTokens
