import LoxTokens.Proofs.Calls
import LoxTokens.Proofs.JsonReading

/-!
# The JSON that a call writes

`Token.jsonArray` writes tokens as JSON, as `--json` asks for.  This file shows what such an array
looks like and that it is read as the tokens, by a reader that knows JSON and no tokens.

* `Token.finds_jsonObject` — a token is read as the object of its kind, lexeme, literal and line.
* `Token.decode_jsonArray` and `Token.json_inj` — an array is read as the objects of its tokens, and
  no two tokens have the same object.
* `Json.IsWritten` — the characters that are written.  ESC is none of them, so nothing is stripped
  from an array on its way to the output (`Json.strip_jsonArray`).  This is what sets this output
  apart from the plain one, which has to ask for a text without ESC.

The empty literal of `""` and the absent one of a symbol are kept apart by `null`, and characters
above U+FFFF come back although they are written as two units.  So two calls write the same just if
their texts have the same tokens (`Call.decode_output_of_json`), lines included.
-/

set_option autoImplicit false

namespace LoxTokens

/-!
## Tokens

A token is compared with a value of JSON, `Token.json`, and what is written for it is found to be
this value.  The members are taken as a list, each with what is written for it, since nothing in the
proof depends on their number or order.
-/

namespace Token

/-- The object of a token. -/
def json (k : Token) : Json :=
  .object [("type".toList, .string k.kind.name), ("lexeme".toList, .string k.lexeme),
    ("literal".toList, (k.literal.map .string).getD .null), ("line".toList, .number k.line 0)]

/-- The members of the object of a token: names, what is written for their values, and the
values. -/
def jsonFields (k : Token) : List (Text × Text × Json) :=
  [("type".toList, JsonString.encode k.kind.name, .string k.kind.name),
   ("lexeme".toList, JsonString.encode k.lexeme, .string k.lexeme),
   ("literal".toList, (k.literal.map JsonString.encode).getD "null".toList,
    (k.literal.map .string).getD .null),
   ("line".toList, Decimal.ofInt k.line, .number k.line 0)]

/-- Each member is found in what is written for its value. -/
theorem finds_of_mem_jsonFields {depth : Nat} {k : Token} {name value : Text} {v : Json}
    (h : (name, value, v) ∈ k.jsonFields) : Json.Finds (Json.readValue depth) value v := by
  have hliteral : Json.Finds (Json.readValue depth)
      ((k.literal.map JsonString.encode).getD "null".toList)
      ((k.literal.map .string).getD .null) := by
    cases k.literal with
    | none => exact Json.finds_null
    | some body => exact Json.finds_string body
  simp only [jsonFields, List.mem_cons, Prod.mk.injEq, List.not_mem_nil, or_false] at h
  rcases h with ⟨-, rfl, rfl⟩ | ⟨-, rfl, rfl⟩ | ⟨-, rfl, rfl⟩ | ⟨-, rfl, rfl⟩
  · exact Json.finds_string _
  · exact Json.finds_string _
  · exact hliteral
  · exact Json.finds_ofInt _

/-- The members of the object of a token, each with the line that is written for it. -/
def jsonLines (k : Token) : List (Text × Text × Json) :=
  k.jsonFields.map fun (name, value, v) ↦
    ("    ".toList ++ JsonString.encode name ++ ": ".toList ++ value, name, v)

/-- So it is in its whole line, with its name in front. -/
theorem finds_of_mem_jsonLines {depth : Nat} {k : Token} :
    ∀ x ∈ k.jsonLines, Json.Finds (Json.readMember (Json.readValue depth)) x.1 x.2 := by
  intro x hx
  obtain ⟨⟨name, value, v⟩, hmem, rfl⟩ := List.mem_map.1 hx
  have hmember : Json.Finds (Json.readMember (Json.readValue depth))
      ("    ".toList ++ (JsonString.encode name ++ ": ".toList ++ value)) (name, v) :=
    (Json.finds_member (finds_of_mem_jsonFields hmem)).space (List.all_eq_true.1 rfl)
  rwa [← List.append_assoc, ← List.append_assoc] at hmember

/-- The object of a token is found in what is written for it. -/
theorem finds_jsonObject {depth : Nat} (k : Token) :
    Json.Finds (Json.readValue (depth + 1)) (jsonObject k) k.json := by
  intro c t hc
  have hne : k.jsonLines ≠ [] := List.cons_ne_nil _ _
  have hmembers : Json.readList (Json.readMember (Json.readValue depth)) '\x7d'
      ('\n' :: (jsonItems (k.jsonLines.map Prod.fst) ++ '\n' :: ([' ', ' '] ++ '\x7d' :: c :: t))) =
      some (k.jsonLines.map Prod.snd, c :: t) :=
    Json.readList_jsonItems (by decide) rfl (fun _ ↦ rfl) (List.all_eq_true.1 rfl) hne
      finds_of_mem_jsonLines _
  have htext : jsonObject k ++ c :: t = ' ' :: ' ' :: '\x7b' :: '\n' ::
      (jsonItems (k.jsonLines.map Prod.fst) ++ '\n' :: ([' ', ' '] ++ '\x7d' :: c :: t)) := by
    rw [jsonObject, List.append_assoc, List.append_assoc]
    rfl
  have hskip (u : Text) : Json.skip (' ' :: ' ' :: '\x7b' :: u) = '\x7b' :: u := rfl
  rw [htext, hskip, Json.readValue, hmembers]
  rfl

/-- **The array of tokens stands for the tokens.** -/
theorem decode_jsonArray (ks : List Token) :
    Json.decode (jsonArray ks ++ ['\n']) = some (.array (ks.map json)) := by
  cases ks with
  | nil => rfl
  | cons k ks =>
    -- no value begins with the bracket that closes, so a list with items is not taken for an empty
    -- one
    have hitem (depth : Nat) (u : Text) : Json.readValue depth (']' :: u) = none := by
      rw [Json.readValue_eq_readNumber (by decide)]
      rfl
    have hnil (depth : Nat) : Json.readValue depth [] = none := by
      cases depth <;> rfl
    have hfinds (depth : Nat) : ∀ x ∈ (k :: ks).map fun k ↦ (jsonObject k, k.json),
        Json.Finds (Json.readValue (depth + 1)) x.1 x.2 := by
      intro x hx
      obtain ⟨k, -, rfl⟩ := List.mem_map.1 hx
      exact finds_jsonObject k
    have hlist (depth : Nat) : Json.readList (Json.readValue (depth + 1)) ']'
        ('\n' :: (jsonItems ((k :: ks).map jsonObject) ++ '\n' :: ([] ++ ']' :: ['\n']))) =
        some ((k :: ks).map json, ['\n']) := by
      have hne : (k :: ks).map (fun k ↦ (jsonObject k, k.json)) ≠ [] := List.cons_ne_nil _ _
      have h := Json.readList_jsonItems (by decide) (hnil (depth + 1)) (hitem (depth + 1))
        (List.forall_mem_nil _) hne (hfinds depth) ['\n']
      rw [List.map_map, List.map_map] at h
      exact h
    have htext : jsonArray (k :: ks) ++ ['\n'] =
        '[' :: '\n' :: (jsonItems ((k :: ks).map jsonObject) ++ '\n' :: ([] ++ ']' :: ['\n'])) := by
      rw [jsonArray, List.isEmpty_cons, if_neg nofun, List.append_assoc, List.append_assoc]
      rfl
    rw [htext, Json.decode, Json.skip_cons (by decide), List.length_cons, List.length_cons,
      Json.readValue, hlist]
    rfl

/-- No two tokens have the same object. -/
theorem json_inj {j k : Token} : j.json = k.json ↔ j = k := by
  refine ⟨fun h ↦ ?_, fun h ↦ h ▸ rfl⟩
  simp only [json, Json.object.injEq, List.cons.injEq, Prod.mk.injEq, Json.string.injEq,
    Json.number.injEq, true_and, and_true] at h
  obtain ⟨hname, hlexeme, hliteral, hline⟩ := h
  have hkind : j.kind = k.kind := Kind.name_inj.1 hname
  -- The literal that is absent has another value than any text.
  have hbody : j.literal = k.literal := by
    cases hj : j.literal <;> cases hk : k.literal <;> simp_all
  cases j
  cases k
  rw [Token.mk.injEq]
  exact ⟨hkind, hlexeme, hbody, hline⟩

end Token

/-!
## The characters of a dump

Every part of a dump is put together from a few kinds of texts: fixed ones, digits, and escapes.  It
is enough to look at those.
-/

namespace Json

/-- A character that a dump may hold: a line feed, or one from space to tilde. -/
def IsWritten (c : Char) : Prop := c = '\n' ∨ 0x20 ≤ c.toNat ∧ c.toNat ≤ 0x7E

instance (c : Char) : Decidable (IsWritten c) := inferInstanceAs (Decidable (_ ∨ _ ∧ _))

theorem isWritten_of_mem_append {s t : Text} (hs : ∀ c ∈ s, IsWritten c)
    (ht : ∀ c ∈ t, IsWritten c) : ∀ c ∈ s ++ t, IsWritten c :=
  fun c hc ↦ (List.mem_append.1 hc).elim (hs c) (ht c)

theorem isWritten_of_all {s : Text} (h : s.all (fun c ↦ IsWritten c) = true) :
    ∀ c ∈ s, IsWritten c := by
  simpa using h

theorem isWritten_of_isDigit {c : Char} (h : c.isDigit = true) : IsWritten c := by
  obtain ⟨hle, hge⟩ := Decimal.toNat_of_isDigit h
  exact .inr ⟨by omega, by omega⟩

theorem isWritten_of_mem_padded {width n : Nat} :
    ∀ c ∈ Hexadecimal.padded width n, IsWritten c := by
  have hdigit : ∀ m < 16, IsWritten (Nat.digitChar m) := by decide
  intro c hc
  obtain ⟨m, hm, rfl⟩ := Hexadecimal.exists_of_mem_padded hc
  exact hdigit m hm

theorem isWritten_of_mem_ofInt {n : Int} : ∀ c ∈ Decimal.ofInt n, IsWritten c := by
  intro c hc
  rcases Decimal.eq_minus_or_isDigit_of_mem_ofInt hc with rfl | hdigit
  · decide
  · exact isWritten_of_isDigit hdigit

theorem isWritten_of_mem_escape {d : Char} : ∀ c ∈ JsonString.escape d, IsWritten c := by
  rw [JsonString.escape]
  split_ifs with hmark _ _ _ _ _ hplain
  · rcases hmark with rfl | rfl <;> exact isWritten_of_all rfl
  · exact isWritten_of_all rfl
  · exact isWritten_of_all rfl
  · exact isWritten_of_all rfl
  · exact isWritten_of_all rfl
  · exact isWritten_of_all rfl
  · exact List.forall_mem_singleton.2 (.inr hplain)
  · intro c hc
    obtain ⟨unit, -, hc⟩ := List.mem_flatMap.1 hc
    exact isWritten_of_mem_append (s := ['\\', 'u']) (isWritten_of_all rfl)
      isWritten_of_mem_padded c hc

theorem isWritten_of_mem_encode {t : Text} : ∀ c ∈ JsonString.encode t, IsWritten c := by
  have hbody : ∀ c ∈ t.flatMap JsonString.escape, IsWritten c := by
    intro c hc
    obtain ⟨d, -, hc⟩ := List.mem_flatMap.1 hc
    exact isWritten_of_mem_escape c hc
  exact List.forall_mem_cons.2 ⟨by decide, isWritten_of_mem_append hbody (isWritten_of_all rfl)⟩

theorem isWritten_of_mem_jsonItems {items : List Text}
    (h : ∀ item ∈ items, ∀ c ∈ item, IsWritten c) : ∀ c ∈ Token.jsonItems items, IsWritten c := by
  induction items with
  | nil => exact List.forall_mem_nil _
  | cons item items ih =>
    obtain ⟨hitem, hitems⟩ := List.forall_mem_cons.1 h
    cases items with
    | nil => simpa [Token.jsonItems] using hitem
    | cons next items =>
      rw [Token.jsonItems, List.intercalate_cons_cons, List.append_assoc]
      exact isWritten_of_mem_append hitem
        (isWritten_of_mem_append (isWritten_of_all rfl) (ih hitems))

theorem isWritten_of_mem_jsonObject {k : Token} : ∀ c ∈ k.jsonObject, IsWritten c := by
  have hvalue : ∀ p ∈ k.jsonMembers, ∀ c ∈ p.2, IsWritten c := by
    have hliteral : ∀ c ∈ (k.literal.map JsonString.encode).getD "null".toList, IsWritten c := by
      cases k.literal with
      | none => exact isWritten_of_all rfl
      | some body => exact isWritten_of_mem_encode
    intro p hp
    simp only [Token.jsonMembers, List.mem_cons, List.not_mem_nil, or_false] at hp
    rcases hp with rfl | rfl | rfl | rfl
    · exact isWritten_of_mem_encode
    · exact isWritten_of_mem_encode
    · exact hliteral
    · exact isWritten_of_mem_ofInt
  rw [Token.jsonObject]
  refine isWritten_of_mem_append (isWritten_of_mem_append (isWritten_of_all rfl)
    (isWritten_of_mem_jsonItems ?_)) (isWritten_of_all rfl)
  intro item hmem
  obtain ⟨⟨name, value⟩, hp, rfl⟩ := List.mem_map.1 hmem
  have hname := isWritten_of_mem_append (s := "    ".toList) (isWritten_of_all rfl)
    (isWritten_of_mem_encode (t := name))
  have hcolon := isWritten_of_mem_append (t := ": ".toList) hname (isWritten_of_all rfl)
  exact isWritten_of_mem_append hcolon (hvalue _ hp)

/-- An array of tokens is written in ASCII without controls, but for the ends of its lines. -/
theorem isWritten_of_mem_jsonArray {ks : List Token} :
    ∀ c ∈ Token.jsonArray ks, IsWritten c := by
  have hitems : ∀ item ∈ ks.map Token.jsonObject, ∀ c ∈ item, IsWritten c := by
    intro item hmem
    obtain ⟨k, -, rfl⟩ := List.mem_map.1 hmem
    exact isWritten_of_mem_jsonObject
  rw [Token.jsonArray]
  split
  · exact isWritten_of_all rfl
  · have hopen := isWritten_of_mem_append (s := "[\n".toList) (isWritten_of_all rfl)
      (isWritten_of_mem_jsonItems hitems)
    exact isWritten_of_mem_append hopen (isWritten_of_all rfl)

/-- There is nothing to strip from it. -/
theorem strip_jsonArray (ks : List Token) :
    ControlSequence.strip (Token.jsonArray ks) = Token.jsonArray ks :=
  ControlSequence.strip_eq_self fun h ↦
    absurd (isWritten_of_mem_jsonArray _ h) (by decide)

end Json

namespace Call

variable {c : Call} {flags : List Flag} {name t : Text}

/-- What a call writes that asks for JSON. -/
theorem output_eq_jsonArray (h : c.Dumps flags name (Utf8.encode t)) (hjson : .json ∈ flags) :
    c.outcome.output = Token.jsonArray
      (Scan.ofText (Request.options flags c.env) (Text.unifyBreaks t)).tokens ++ ['\n'] := by
  rw [output_eq_tokenText h, Request.tokenText_eq, if_pos hjson, echo, Json.strip_jsonArray]

/-- **JSON loses nothing.**  Let a call ask for JSON and its source spell a text.  What it writes is
ASCII without controls, but for the ends of its lines, has nothing in it to strip, and is read as
the array of the tokens of the scan, each with its kind, its lexeme, its literal and its line.  So
two such calls write the same just if their texts have the same tokens. -/
theorem decode_output_of_json (h : c.Dumps flags name (Utf8.encode t)) (hjson : .json ∈ flags) :
    let ks := (Scan.ofText (Request.options flags c.env) (Text.unifyBreaks t)).tokens
    (∀ d ∈ c.outcome.output, d = '\n' ∨ 0x20 ≤ d.toNat ∧ d.toNat ≤ 0x7E) ∧
      c.outcome.output = Token.jsonArray ks ++ ['\n'] ∧
      ControlSequence.strip (Token.jsonArray ks) = Token.jsonArray ks ∧
      ControlSequence.strip c.outcome.output = c.outcome.output ∧
      Json.decode c.outcome.output = some (.array (ks.map Token.json)) ∧
      ∀ {c' : Call} {flags' : List Flag} {name' t' : Text},
        c'.Dumps flags' name' (Utf8.encode t') → .json ∈ flags' →
        (c'.outcome.output = c.outcome.output ↔
          (Scan.ofText (Request.options flags' c'.env) (Text.unifyBreaks t')).tokens = ks) := by
  intro ks
  have houtput : c.outcome.output = Token.jsonArray ks ++ ['\n'] := output_eq_jsonArray h hjson
  have hwritten : ∀ d ∈ Token.jsonArray ks ++ ['\n'], Json.IsWritten d :=
    Json.isWritten_of_mem_append Json.isWritten_of_mem_jsonArray (Json.isWritten_of_all rfl)
  rw [houtput]
  refine ⟨hwritten, rfl, Json.strip_jsonArray ks, ?_, Token.decode_jsonArray ks, ?_⟩
  · exact ControlSequence.strip_eq_self fun hesc ↦ absurd (hwritten _ hesc) (by decide)
  · intro c' flags' name' t' h' hjson'
    rw [output_eq_jsonArray h' hjson']
    refine ⟨fun heq ↦ ?_, fun heq ↦ by rw [heq]⟩
    have hdecode := congrArg Json.decode heq
    rw [Token.decode_jsonArray, Token.decode_jsonArray, Option.some.injEq, Json.array.injEq]
      at hdecode
    have hjson_inj : Function.Injective Token.json := fun _ _ ↦ Token.json_inj.1
    exact hjson_inj.list_map hdecode

/-- A string of a control sequence, a backslash and a character that needs two surrogates, and an
empty string. -/
theorem decode_output_of_json_strings :
    ∃ c c' : Call,
      c.Dumps [.json] "<stdin>".toList (Utf8.encode "\"\x1b[0m\\😀\"".toList) ∧
      c'.Dumps [.verbose, .json] "<stdin>".toList (Utf8.encode "\"\"".toList) ∧
      Flag.json ∈ [Flag.json] ∧ Flag.json ∈ [Flag.verbose, Flag.json] ∧
      (∀ d ∈ c.outcome.output, d = '\n' ∨ 0x20 ≤ d.toNat ∧ d.toNat ≤ 0x7E) ∧
      Json.decode c.outcome.output = some (.array
        [.object [("type".toList, .string "STRING".toList),
            ("lexeme".toList, .string "\"\x1b[0m\\😀\"".toList),
            ("literal".toList, .string "\x1b[0m\\😀".toList), ("line".toList, .number 1 0)],
          .object [("type".toList, .string "EOF".toList), ("lexeme".toList, .string []),
            ("literal".toList, .null), ("line".toList, .number 1 0)]]) ∧
      c'.outcome.output ≠ c.outcome.output := by
  let c : Call := ⟨["--json".toList, "-".toList], fun _ ↦ none, fun _ ↦ none,
    Utf8.encode "\"\x1b[0m\\😀\"".toList⟩
  let c' : Call := ⟨["-".toList, "-v".toList, "--json".toList], fun _ ↦ none, fun _ ↦ none,
    Utf8.encode "\"\"".toList⟩
  have hc : c.Dumps [.json] "<stdin>".toList (Utf8.encode "\"\x1b[0m\\😀\"".toList) :=
    ⟨⟨['-'], .name (by decide) (.other (by decide) .nil), .standardInput⟩, by decide⟩
  have hc' : c'.Dumps [.verbose, .json] "<stdin>".toList (Utf8.encode "\"\"".toList) :=
    ⟨⟨['-'], .other (by decide) (.letters 0 (.name (by decide) .nil)), .standardInput⟩, by decide⟩
  obtain ⟨hwritten, -, -, -, hdecode, hother⟩ := decode_output_of_json hc (by decide)
  refine ⟨c, c', hc, hc', by decide, by decide, hwritten, ?_, ?_⟩
  · have htokens : (Scan.ofText (Request.options [.json] c.env)
        (Text.unifyBreaks "\"\x1b[0m\\😀\"".toList)).tokens =
        [⟨.string, "\"\x1b[0m\\😀\"".toList, some "\x1b[0m\\😀".toList, 1⟩,
          ⟨.endOfInput, [], none, 1⟩] := by
      decide +kernel
    rw [hdecode, htokens]
    rfl
  · rw [Ne, hother hc' (by decide)]
    decide +kernel

end Call

end LoxTokens
