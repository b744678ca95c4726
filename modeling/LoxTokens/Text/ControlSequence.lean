import LoxTokens.Text.Basic

/-!
# Control sequences of a terminal

A control sequence is ESC, `[`, any number of parameter characters, any number of intermediate
characters, and one final character.  `ControlSequence.strip` removes them from a text in one
pass from left to right: what comes to stand side by side by a removal is not looked at again, and
an ESC that starts no sequence stays.

Everything that the command writes goes through this, since it writes to no terminal.  Hence a
token or a quoted line may lose characters on its way to the output, if its text has sequences in
it; what is proved of the output of a call is proved for texts that have no ESC, where nothing is
removed (`strip_eq_self`), or of JSON, which has none.
-/

set_option autoImplicit false

namespace LoxTokens.ControlSequence

/-- From `0` to `?`. -/
def isParameter (c : Char) : Bool := 0x30 ≤ c.toNat && c.toNat ≤ 0x3F

/-- From space to `/`. -/
def isIntermediate (c : Char) : Bool := 0x20 ≤ c.toNat && c.toNat ≤ 0x2F

/-- From `@` to `~`. -/
def isFinal (c : Char) : Bool := 0x40 ≤ c.toNat && c.toNat ≤ 0x7E

/-- What follows the control sequence whose ESC has just been read, if it is one.  The three
classes of characters are disjoint, so a sequence can end in one way only. -/
def rest? : Text → Option Text
  | '[' :: t =>
    match (t.dropWhile isParameter).dropWhile isIntermediate with
    | c :: after => if isFinal c then some after else none
    | [] => none
  | _ => none

theorem length_dropWhile_le (p : Char → Bool) (t : Text) : (t.dropWhile p).length ≤ t.length :=
  (List.dropWhile_suffix p).length_le

theorem length_rest? {t after : Text} (h : rest? t = some after) : after.length < t.length := by
  unfold rest? at h
  split at h
  · next t =>
    split at h
    · next c rest e =>
      split at h <;> simp at h
      subst h
      have h₁ := length_dropWhile_le isIntermediate (t.dropWhile isParameter)
      have h₂ := length_dropWhile_le isParameter t
      rw [e] at h₁
      simp only [List.length_cons] at h₁ ⊢
      omega
    · simp at h
  · simp at h

/-- The text without its control sequences. -/
def strip : Text → Text
  | [] => []
  | c :: t =>
    if c = '\x1b' then
      match _h : rest? t with
      | some after => strip after
      | none => c :: strip t
    else c :: strip t
termination_by t => t.length
decreasing_by
  · have := length_rest? _h
    simp only [List.length_cons]
    omega
  all_goals simp

/-- A text without ESC has nothing to remove. -/
theorem strip_eq_self {t : Text} (h : '\x1b' ∉ t) : strip t = t := by
  induction t with
  | nil => rw [strip]
  | cons c t ih =>
    rw [List.mem_cons, not_or] at h
    rw [strip, if_neg (Ne.symm h.1), ih h.2]

end LoxTokens.ControlSequence
