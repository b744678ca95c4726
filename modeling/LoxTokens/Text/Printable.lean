import LoxTokens.Text.Basic
import LoxTokens.Text.Printable.Table

/-!
# Printable characters

A character is printable if it has a picture of its own.  The space is printable, every other
separator and every control, format, private or unassigned code point is not.

Below U+007F this is a matter of two bounds; above, it is looked up in a table.  It decides which
characters of a quoted text are written by their code point (`LoxTokens.Text.Quoted`), and so the
result is printable again.
-/

set_option autoImplicit false

namespace LoxTokens.Text

/-- The character can be shown as itself. -/
def isPrintable (c : Char) : Bool :=
  if c.toNat < 0x7F then 0x20 ≤ c.toNat else !covers nonPrintableRanges c

/-- From the space to the tilde all characters are printable. -/
theorem isPrintable_of_ascii {c : Char} (h₁ : 0x20 ≤ c.toNat) (h₂ : c.toNat < 0x7F) :
    isPrintable c = true := by
  rw [isPrintable, if_pos h₂]
  simpa using h₁

/-- The C1 controls and DEL are in the table, and below it every control is excluded outright. -/
theorem isPrintable_eq_false_of_control {c : Char}
    (h : c.toNat < 0x20 ∨ 0x7F ≤ c.toNat ∧ c.toNat ≤ 0xA0) : isPrintable c = false := by
  rcases h with h | ⟨h₁, h₂⟩
  · rw [isPrintable, if_pos (by omega)]; simpa using h
  · have hmem : (0x7F, 0xA0) ∈ nonPrintableRanges := List.mem_cons_self
    have hcov : covers nonPrintableRanges c = true :=
      List.any_eq_true.2 ⟨_, hmem, by simp [h₁, h₂]⟩
    rw [isPrintable, if_neg (by omega), hcov, Bool.not_true]

end LoxTokens.Text
