import LoxTokens.Options.Environment
import LoxTokens.Proofs.Trailing

/-!
# The words that a variable can hold

A variable of the environment is trimmed, written in lower case and looked up among eight words
(`_env_flag`, here `Setting.ofVariable`).  White space and lower case are those of Unicode, by which
characters outside ASCII are dropped or become ASCII letters.  This file shows that the words are
found as if letters had no case but in ASCII.

* `Text.IsOneOf` — a text is one of some words but for the case of its ASCII letters;
  `Setting.SaysYes` and `Setting.SaysNo` — it is one of the four words for yes, or for no.
* `Setting.lowercase_mem_iff` — a text in lower case is a word for yes or for no if and only if the
  text is one of these words in this sense: `Text.lowercase_eq_iff` applies, since no word has the
  letter that the Kelvin sign becomes.
* `Setting.Follows` — what a variable says about an option, and what the log says about the
  variable, according to the text within its white space.

Hence what all variables say, set or not, and what options they give
(`Options.environment_follows`).
-/

set_option autoImplicit false

namespace LoxTokens

/-- The text is one of the words, whatever the case of its ASCII letters. -/
def Text.IsOneOf (words : List String) (t : Text) : Prop :=
  ∃ word ∈ words, t.map Char.toLower = word.toList

namespace Setting

open Text

/-- The text is one of the four words for yes. -/
def SaysYes (t : Text) : Prop := IsOneOf ["1", "true", "yes", "on"] t

/-- The text is one of the four words for no. -/
def SaysNo (t : Text) : Prop := IsOneOf ["0", "false", "no", "off"] t

/-! ## One word -/

/-- There is ASCII in the words only, and no `k`. -/
theorem plain_of_mem_words :
    ∀ word ∈ yesWords ++ noWords, ∀ c ∈ word, c.toNat < 0x80 ∧ c ≠ 'k' := by
  have hall : ∀ word ∈ yesWords ++ noWords,
      (word.all fun c ↦ c.toNat < 0x80 && c ≠ 'k') = true := by decide
  intro word hword c hc
  simpa using List.all_eq_true.1 (hall word hword) c hc

/-- Lower case finds the words that are found in ASCII alone. -/
theorem lowercase_mem_iff {words : List Text}
    (h : ∀ word ∈ words, ∀ c ∈ word, c.toNat < 0x80 ∧ c ≠ 'k') {t : Text} :
    lowercase t ∈ words ↔ t.map Char.toLower ∈ words := by
  constructor
  · intro hmem
    rwa [(lowercase_eq_iff (h _ hmem)).1 rfl]
  · intro hmem
    rwa [(lowercase_eq_iff (h _ hmem)).2 rfl]

theorem lowercase_mem_yesWords_iff {t : Text} : lowercase t ∈ yesWords ↔ SaysYes t := by
  rw [lowercase_mem_iff fun word hword ↦ plain_of_mem_words word (List.mem_append_left _ hword)]
  simp [SaysYes, IsOneOf, yesWords]

theorem lowercase_mem_noWords_iff {t : Text} : lowercase t ∈ noWords ↔ SaysNo t := by
  rw [lowercase_mem_iff fun word hword ↦ plain_of_mem_words word (List.mem_append_right _ hword)]
  simp [SaysNo, IsOneOf, noWords]

/-- No word says both. -/
theorem not_mem_noWords_of_mem_yesWords : ∀ word ∈ yesWords, word ∉ noWords := by decide

/-- A word of ASCII is one of the words only of a text of ASCII. -/
theorem ascii_of_lowercase_mem {t : Text} (h : lowercase t ∈ yesWords ++ noWords) :
    ∀ c ∈ t, c.toNat < 0x80 := by
  have hmap := (lowercase_mem_iff plain_of_mem_words).1 h
  exact ascii_of_map_toLower fun c hc ↦ (plain_of_mem_words _ hmap c hc).1

/-! ## One variable -/

/-- What the setting is by the variable `name`, which holds the text `w` within white space. -/
structure Follows (name w : Text) (s : Setting) : Prop where
  /-- It is yes for four words, whatever the default. -/
  yes_iff : (∀ default, s.value default = true) ↔ SaysYes w
  /-- It is no for four other words, whatever the default. -/
  no_iff : (∀ default, s.value default = false) ↔ SaysNo w
  /-- Neither is logged, or is said by anything but ASCII. -/
  silent : SaysYes w ∨ SaysNo w → s.log name = [] ∧ ∀ c ∈ w, c.toNat < 0x80
  /-- For every other text it is the default, and there is one line in the log, which quotes the
  text in lower case. -/
  default_of_not : ¬ SaysYes w → ¬ SaysNo w →
    (∀ default, s.value default = default) ∧
    s.log name = ["ignoring invalid value ".toList ++ Quoted.encode (lowercase w)
      ++ " for ".toList ++ name]

/-- What a word says that is looked up in lower case. -/
theorem ofWord_lowercase_cases (w : Text) :
    (SaysYes w ∧ ¬ SaysNo w ∧ (∀ c ∈ w, c.toNat < 0x80) ∧ ofWord (lowercase w) = given true) ∨
    (¬ SaysYes w ∧ SaysNo w ∧ (∀ c ∈ w, c.toNat < 0x80) ∧ ofWord (lowercase w) = given false) ∨
    (¬ SaysYes w ∧ ¬ SaysNo w ∧ ofWord (lowercase w) = invalid (lowercase w)) := by
  rw [← lowercase_mem_yesWords_iff, ← lowercase_mem_noWords_iff, ofWord]
  by_cases hyes : lowercase w ∈ yesWords
  · exact .inl ⟨hyes, not_mem_noWords_of_mem_yesWords _ hyes,
      ascii_of_lowercase_mem (List.mem_append_left _ hyes), if_pos hyes⟩
  · rw [if_neg hyes]
    by_cases hno : lowercase w ∈ noWords
    · exact .inr (.inl ⟨hyes, hno, ascii_of_lowercase_mem (List.mem_append_right _ hno),
        if_pos hno⟩)
    · exact .inr (.inr ⟨hyes, hno, if_neg hno⟩)

theorem follows_ofWord (name w : Text) : Follows name w (ofWord (lowercase w)) := by
  -- a word says yes, or it says no, or it is neither; no word is both
  rcases ofWord_lowercase_cases w with
    ⟨hyes, hno, hascii, h⟩ | ⟨hyes, hno, hascii, h⟩ | ⟨hyes, hno, h⟩
  · rw [h]
    exact
      { yes_iff := ⟨fun _ ↦ hyes, fun _ _ ↦ rfl⟩
        no_iff := ⟨fun hall ↦ absurd (hall true) nofun, fun hword ↦ absurd hword hno⟩
        silent := fun _ ↦ ⟨rfl, hascii⟩
        default_of_not := fun hnot _ ↦ absurd hyes hnot }
  · rw [h]
    exact
      { yes_iff := ⟨fun hall ↦ absurd (hall true) nofun, fun hword ↦ absurd hword hyes⟩
        no_iff := ⟨fun _ ↦ hno, fun _ _ ↦ rfl⟩
        silent := fun _ ↦ ⟨rfl, hascii⟩
        default_of_not := fun _ hnot ↦ absurd hno hnot }
  · rw [h]
    exact
      { yes_iff := ⟨fun hall ↦ absurd (hall false) nofun, fun hword ↦ absurd hword hyes⟩
        no_iff := ⟨fun hall ↦ absurd (hall true) nofun, fun hword ↦ absurd hword hno⟩
        silent := fun hor ↦ absurd hor (not_or.2 ⟨hyes, hno⟩)
        default_of_not := fun _ _ ↦ ⟨fun _ ↦ rfl, rfl⟩ }

end Setting

/-! ## The environment -/

/-- **What the variables of an environment say.**  One that is not set gives the default of the
option.  One that is set holds one text within its white space, and what it says is what this text
says: yes or no for four words each, in ASCII letters of either case, and otherwise nothing, which
is logged.  The options are given by a variable each, and default to yes. -/
theorem Options.environment_follows (env : Environment) :
    (∀ name, env name = none →
      (∀ default, (Setting.ofVariable (env name)).value default = default) ∧
      (Setting.ofVariable (env name)).log name = []) ∧
    (∀ name v, env name = some v → ∃ w, (∀ w', Text.Trimmed v w' ↔ w' = w) ∧
      (Setting.ofVariable (env name)).Follows name w) ∧
    (ofEnvironment env).blockComments =
      (Setting.ofVariable (env blockCommentsVariable)).value true ∧
    (ofEnvironment env).exponentOperator =
      (Setting.ofVariable (env exponentOperatorVariable)).value true ∧
    environmentLog env =
      (Setting.ofVariable (env blockCommentsVariable)).log blockCommentsVariable
        ++ (Setting.ofVariable (env exponentOperatorVariable)).log exponentOperatorVariable := by
  refine ⟨fun name h ↦ ?_, fun name v h ↦ ⟨Text.trim v, fun w' ↦ ?_, ?_⟩, rfl, rfl, ?_⟩
  · rw [h]
    exact ⟨fun _ ↦ rfl, rfl⟩
  · rw [← Text.trim_eq_iff, eq_comm]
  · rw [h]
    exact Setting.follows_ofWord name (Text.trim v)
  · simp [environmentLog]

/-- White space and letters from outside ASCII: the one is dropped, the other make no word. -/
example : Setting.ofVariable (some "\u3000oN\u0085".toList) = .given true ∧
    Setting.ofVariable (some "ｏn".toList) = .invalid "ｏn".toList := by decide +kernel

end LoxTokens
