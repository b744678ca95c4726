import LoxTokens.Proofs.Calls
import LoxTokens.Proofs.Image
import LoxTokens.Text.Delimiting

/-!
# The plain tokens that a call writes

`Token.plain` escapes nothing.  A string is written twice, over as many lines as it has, and any of
these may look like a token of its own.  This file shows that the tokens can be told nevertheless,
but for their lines.

* `Token.Regular` — what is true of every token of a scan, whatever the options: its kind decides
  its texts, unless it is a string, and there is no quote in a string.
* `Token.delimits_plain` — so the first space ends the name of the kind, and the second quote ends
  the lexeme of a string; after that it is known what follows.
* `Token.flatMap_plain_inj` — a whole dump, one token after the other.

What is written is what the tokens spell only as long as nothing is stripped from it.  This is so if
there is no ESC in the text (`Token.echo_plain`).  With ESC it is not: `click.echo` takes control
sequences out of what is not written to a terminal, and two strings that differ in nothing else are
written alike.

For a token that nobody has scanned none of this need hold.  A symbol with a foreign lexeme, or a
string whose lexeme is not its literal between quotes, can make two lists of tokens look the same.
-/

set_option autoImplicit false

namespace LoxTokens

variable {o : Options} {t : Text}

namespace Token

/-! ## Tokens of a scan -/

/-- The lexeme of a kind that has only one. -/
def fixedLexeme : Kind → Text
  | .symbol s => s.spelling
  | .string | .endOfInput => []

/-- A token whose texts go with its kind.  A string is its literal between quotes, and a symbol has
no literal. -/
structure Regular (k : Token) : Prop where
  /-- Other kinds than the string have one lexeme, and no literal. -/
  fixed : k.kind ≠ .string → k.lexeme = fixedLexeme k.kind ∧ k.literal = none
  /-- A string is its literal in quotes, with no quote inside. -/
  quoted : k.kind = .string →
    ∃ body, '"' ∉ body ∧ k.lexeme = '"' :: (body ++ ['"']) ∧ k.literal = some body

theorem Spelled.regular {k : Token} (h : k.Spelled o) : k.Regular := by
  cases h with
  | symbol s line => exact ⟨fun _ ↦ ⟨rfl, rfl⟩, nofun⟩
  | string body line h => exact ⟨fun hkind ↦ absurd rfl hkind, fun _ ↦ ⟨body, h, rfl, rfl⟩⟩

theorem regular_of_mem_tokens {k : Token} (hk : k ∈ (Scan.ofText o t).tokens) : k.Regular := by
  obtain ⟨⟨init, line, htokens, hinit⟩, -, -⟩ := scannable_tokens o t
  rw [htokens] at hk
  rcases List.mem_append.1 hk with hk | hk
  · exact (hinit k hk).regular
  · rw [List.mem_singleton.1 hk]
    exact ⟨fun _ ↦ ⟨rfl, rfl⟩, nofun⟩

/-- The lexeme of a token is made of characters of the text. -/
theorem mem_of_mem_lexeme {k : Token} (hk : k ∈ (Scan.ofText o t).tokens) {c : Char}
    (hc : c ∈ k.lexeme) : c ∈ t := by
  rcases List.mem_append.1 hk with hk | hk
  · obtain ⟨line, x, hx, hk⟩ := Lexeme.exists_of_mem_collect hk
    rw [(Lexeme.eq_of_token? hk).1] at hc
    rw [← Lexeme.flatMap_text_split o t]
    exact List.mem_flatMap.2 ⟨x, hx, hc⟩
  · rw [List.mem_singleton.1 hk] at hc
    exact absurd hc List.not_mem_nil

/-- So is the literal, which is part of the lexeme. -/
theorem Regular.mem_lexeme {k : Token} (h : k.Regular) {body : Text} (hbody : k.literal = some body)
    {c : Char} (hc : c ∈ body) : c ∈ k.lexeme := by
  by_cases hkind : k.kind = .string
  · obtain ⟨_, -, hlexeme, hliteral⟩ := h.quoted hkind
    obtain rfl := Option.some.inj (hliteral.symm.trans hbody)
    rw [hlexeme]
    exact List.mem_cons_of_mem _ (List.mem_append_left _ hc)
  · rw [(h.fixed hkind).2] at hbody
    exact absurd hbody nofun

/-!
## What is written for a token

From here on a token is seen as its kind and its two texts.  The line is not written, and nothing in
what is written depends on it.
-/

/-- Nothing is stripped from a token of a text without ESC. -/
theorem echo_plain (hesc : '\x1b' ∉ t) {k : Token} (hk : k ∈ (Scan.ofText o t).tokens) :
    echo k.plain = k.plain ++ ['\n'] := by
  have hlexeme : '\x1b' ∉ k.lexeme := fun h ↦ hesc (mem_of_mem_lexeme hk h)
  have hliteral : '\x1b' ∉ k.literal.getD "null".toList := by
    cases hbody : k.literal with
    | none => decide
    | some body =>
      exact fun h ↦ hlexeme ((regular_of_mem_tokens hk).mem_lexeme hbody h)
  have hname : '\x1b' ∉ k.kind.name := k.kind.not_mem_name (by decide)
  have hplain : '\x1b' ∉ k.plain := by
    rw [plain, List.mem_append, List.mem_cons, List.mem_append, List.mem_cons]
    tauto
  rw [echo, ControlSequence.strip_eq_self hplain]

/-- What a token tells besides its line. -/
def content (k : Token) : Kind × Text × Option Text := (k.kind, k.lexeme, k.literal)

/-- What is written of this in plain. -/
def writeContent (p : Kind × Text × Option Text) : Text :=
  p.1.name ++ ' ' :: p.2.1 ++ ' ' :: p.2.2.getD "null".toList ++ ['\n']

/-- A token in plain, from left to right. -/
theorem plain_append (k : Token) (s : Text) :
    k.plain ++ ['\n'] ++ s =
      k.kind.name ++ ' ' :: (k.lexeme ++ ' ' :: (k.literal.getD "null".toList ++ '\n' :: s)) := by
  simp [plain]

/-- The texts of two tokens of one kind are told from what is written for them. -/
theorem Regular.content_eq {j k : Token} (hj : j.Regular) (hk : k.Regular)
    (hkind : j.kind = k.kind) {s t : Text}
    (h : j.lexeme ++ ' ' :: (j.literal.getD "null".toList ++ '\n' :: s) =
      k.lexeme ++ ' ' :: (k.literal.getD "null".toList ++ '\n' :: t)) :
    j.content = k.content ∧ s = t := by
  rw [content, content]
  by_cases hstring : k.kind = .string
  · obtain ⟨body, hbody, hlexeme, hliteral⟩ := hj.quoted (hkind.trans hstring)
    obtain ⟨body', hbody', hlexeme', hliteral'⟩ := hk.quoted hstring
    have hquote : body ++ '"' :: (' ' :: (body ++ '\n' :: s)) =
        body' ++ '"' :: (' ' :: (body' ++ '\n' :: t)) := by
      simpa [hlexeme, hliteral, hlexeme', hliteral'] using h
    -- There is no quote in a body, so the first one ends its first copy, and the second copy is
    -- then known.
    obtain ⟨rfl, hrest⟩ := (Text.append_cons_inj hbody hbody').1 hquote
    have hend := List.append_cancel_left (List.cons.inj hrest).2
    exact ⟨by rw [hkind, hlexeme, hliteral, hlexeme', hliteral'], (List.cons.inj hend).2⟩
  · obtain ⟨hlexeme, hliteral⟩ := hj.fixed (hkind ▸ hstring)
    obtain ⟨hlexeme', hliteral'⟩ := hk.fixed hstring
    rw [hlexeme, hliteral, hlexeme', hliteral', hkind] at h
    have hnull := List.append_cancel_left h
    have hend := List.append_cancel_left (List.cons.inj hnull).2
    exact ⟨by rw [hkind, hlexeme, hliteral, hlexeme', hliteral', hkind], (List.cons.inj hend).2⟩

/-- A token in plain tells where it ends, and all of the token but its line.  The literal of a
string is written again behind its lexeme, and by then it is known. -/
theorem delimits_plain : Text.Delimits (fun k ↦ k.plain ++ ['\n']) content Regular := by
  intro j k hj hk s t h
  rw [plain_append, plain_append] at h
  have hspace (k : Kind) : ' ' ∉ k.name := k.not_mem_name (by decide)
  obtain ⟨hname, hrest⟩ := (Text.append_cons_inj (hspace _) (hspace _)).1 h
  exact hj.content_eq hk (Kind.name_inj.1 hname) hrest

/-- Lists of tokens are told, but for the lines, from what is written for them. -/
theorem flatMap_plain_inj {js ks : List Token} (hjs : ∀ j ∈ js, j.Regular)
    (hks : ∀ k ∈ ks, k.Regular) :
    (js.flatMap fun k ↦ k.plain ++ ['\n']) = (ks.flatMap fun k ↦ k.plain ++ ['\n']) ↔
      js.map content = ks.map content := by
  constructor
  · intro h
    have hnil : ∀ k : Token, k.Regular → ¬ k.plain ++ ['\n'] <+: [] := by
      intro k _ h
      simp at h
    have hall := delimits_plain.map_eq hjs hks hnil hnil
      (by rw [List.append_nil, List.append_nil]; exact h)
    exact hall.1
  · intro h
    have hwrite (ks : List Token) : (ks.flatMap fun k ↦ k.plain ++ ['\n']) =
        (ks.map content).flatMap writeContent := (List.flatMap_map content writeContent ks).symm
    rw [hwrite, hwrite, h]

end Token

/-! ## What calls write -/

/-- Without ESC in the text nothing is stripped from its tokens. -/
theorem Scan.flatMap_echo_plain (o : Options) (hesc : '\x1b' ∉ t) :
    ((ofText o t).tokens.flatMap fun k ↦ echo k.plain) =
      (ofText o t).tokens.flatMap fun k ↦ k.plain ++ ['\n'] :=
  List.flatMap_congr fun _ hk ↦ Token.echo_plain hesc hk

theorem Text.not_mem_unifyBreaks {c : Char} (hc : c ≠ '\n') {t : Text} (h : c ∉ t) :
    c ∉ unifyBreaks t := by
  fun_induction unifyBreaks t with
  | case1 => exact h
  | case2 rest ih => simp_all
  | case3 d rest _ ih =>
    rw [List.mem_cons, not_or] at h ⊢
    refine ⟨?_, ih h.2⟩
    split
    · exact hc
    · exact h.1

namespace Call

variable {c c' : Call} {flags flags' : List Flag} {name name' t t' : Text}

/-- What a call writes that does not ask for JSON, if nothing is to be stripped. -/
theorem output_eq_flatMap_plain (h : c.Dumps flags name (Utf8.encode t)) (hjson : .json ∉ flags)
    (hesc : '\x1b' ∉ t) :
    c.outcome.output =
      (Scan.ofText (Request.options flags c.env) (Text.unifyBreaks t)).tokens.flatMap
        fun k ↦ k.plain ++ ['\n'] := by
  rw [output_eq_tokenText h, Request.tokenText_eq, if_neg hjson,
    Scan.flatMap_echo_plain _ (Text.not_mem_unifyBreaks (by decide) hesc)]

end Call

/-- **The plain tokens forget only the lines.**  Take two texts without ESC.  Scanned under any
options, they give the same plain tokens, one behind the other and each with a line feed, just if
their tokens agree one by one in kind, lexeme and literal.  Nothing is stripped when the tokens are
written, so the same holds for what two calls write that do not ask for JSON. -/
theorem Scan.flatMap_plain_eq_iff {t t' : Text} (hesc : '\x1b' ∉ t) (hesc' : '\x1b' ∉ t') :
    (∀ o o', ((ofText o t).tokens.flatMap fun k ↦ k.plain ++ ['\n']) =
        ((ofText o' t').tokens.flatMap fun k ↦ k.plain ++ ['\n']) ↔
      (ofText o t).tokens.map (fun k ↦ (k.kind, k.lexeme, k.literal)) =
        (ofText o' t').tokens.map fun k ↦ (k.kind, k.lexeme, k.literal)) ∧
    (∀ o, ((ofText o t).tokens.flatMap fun k ↦ echo k.plain) =
      (ofText o t).tokens.flatMap fun k ↦ k.plain ++ ['\n']) ∧
    ∀ {c c' : Call} {flags flags' : List Flag} {name name' : Text},
      c.Dumps flags name (Utf8.encode t) → .json ∉ flags →
      c'.Dumps flags' name' (Utf8.encode t') → .json ∉ flags' →
      let ks := (ofText (Request.options flags c.env) (Text.unifyBreaks t)).tokens
      let ks' := (ofText (Request.options flags' c'.env) (Text.unifyBreaks t')).tokens
      c.outcome.output = (ks.flatMap fun k ↦ k.plain ++ ['\n']) ∧
        (c.outcome.output = c'.outcome.output ↔
          ks.map (fun k ↦ (k.kind, k.lexeme, k.literal)) =
            ks'.map fun k ↦ (k.kind, k.lexeme, k.literal)) := by
  have hinj {o o' : Options} {u u' : Text} :=
    Token.flatMap_plain_inj (fun _ ↦ Token.regular_of_mem_tokens (o := o) (t := u))
      (fun _ ↦ Token.regular_of_mem_tokens (o := o') (t := u'))
  refine ⟨fun o o' ↦ hinj, fun o ↦ flatMap_echo_plain o hesc, ?_⟩
  intro c c' flags flags' name name' h hjson h' hjson' ks ks'
  have houtput := Call.output_eq_flatMap_plain h hjson hesc
  have houtput' := Call.output_eq_flatMap_plain h' hjson' hesc'
  refine ⟨houtput, ?_⟩
  rw [houtput, houtput']
  exact hinj

/-- A string that looks like further tokens, with a plus on the next line and on the same. -/
theorem Scan.flatMap_plain_eq_iff_plus :
    '\x1b' ∉ "\"\nPLUS + null\n\"\n+".toList ∧ '\x1b' ∉ "\"\nPLUS + null\n\" +".toList ∧
      ∃ c c' : Call,
        c.Dumps [] "<stdin>".toList (Utf8.encode "\"\nPLUS + null\n\"\n+".toList) ∧
        c'.Dumps [.verbose] "<stdin>".toList (Utf8.encode "\"\nPLUS + null\n\" +".toList) ∧
        Flag.json ∉ ([] : List Flag) ∧ Flag.json ∉ [Flag.verbose] ∧
        (ofText {} "\"\nPLUS + null\n\"\n+".toList).tokens ≠
          (ofText {} "\"\nPLUS + null\n\" +".toList).tokens ∧
        c.outcome.output = c'.outcome.output := by
  let t := "\"\nPLUS + null\n\"\n+".toList
  let t' := "\"\nPLUS + null\n\" +".toList
  let c : Call := ⟨[['-']], fun _ ↦ none, fun _ ↦ none, Utf8.encode t⟩
  let c' : Call := ⟨[['-'], "-v".toList], fun _ ↦ none, fun _ ↦ none, Utf8.encode t'⟩
  have hc : c.Dumps [] "<stdin>".toList (Utf8.encode t) :=
    ⟨⟨['-'], .other (by decide) .nil, .standardInput⟩, by decide⟩
  have hc' : c'.Dumps [.verbose] "<stdin>".toList (Utf8.encode t') :=
    ⟨⟨['-'], .other (by decide) (.letters 0 .nil), .standardInput⟩, by decide⟩
  have hesc : '\x1b' ∉ t ∧ '\x1b' ∉ t' := by decide
  obtain ⟨-, -, hcalls⟩ := flatMap_plain_eq_iff hesc.1 hesc.2
  refine ⟨hesc.1, hesc.2, c, c', hc, hc', by decide, by decide, by decide +kernel, ?_⟩
  rw [(hcalls hc (by decide) hc' (by decide)).2]
  decide +kernel

end LoxTokens
