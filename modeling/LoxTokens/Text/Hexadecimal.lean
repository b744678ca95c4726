import LoxTokens.Text.Basic

/-!
# Hexadecimal numbers of a fixed width

`Hexadecimal.padded width n` is the last `width` hexadecimal digits of `n`, with lower-case
letters and with zeros in front where `n` is short.  `Hexadecimal.value?` reads digits with letters
of either case, and reads back what was written (`value?_padded`) if the number has no more digits
than there is room for.

Both kinds of escapes are written with it: those of JSON with four digits, and those of a quoted
text with two, four or eight.
-/

set_option autoImplicit false

namespace LoxTokens.Hexadecimal

/-- The last `width` hexadecimal digits of `n`, the highest first. -/
def padded : (width n : Nat) → Text
  | 0, _ => []
  | width + 1, n => padded width (n / 16) ++ [Nat.digitChar (n % 16)]

@[simp] theorem length_padded (width n : Nat) : (padded width n).length = width := by
  induction width generalizing n with
  | zero => rfl
  | succ width ih => simp [padded, ih]

/-- Only digits are written. -/
theorem exists_of_mem_padded {width n : Nat} {c : Char} (h : c ∈ padded width n) :
    ∃ m < 16, c = Nat.digitChar m := by
  induction width generalizing n with
  | zero => exact absurd h List.not_mem_nil
  | succ width ih =>
    rcases List.mem_append.1 h with h | h
    · exact ih h
    · exact ⟨n % 16, Nat.mod_lt n (by decide), List.mem_singleton.1 h⟩

/-- The value of a digit. -/
def digit? (c : Char) : Option Nat :=
  if '0' ≤ c ∧ c ≤ '9' then some (c.toNat - '0'.toNat)
  else if 'a' ≤ c ∧ c ≤ 'f' then some (10 + (c.toNat - 'a'.toNat))
  else if 'A' ≤ c ∧ c ≤ 'F' then some (10 + (c.toNat - 'A'.toNat))
  else none

/-- The number that digits write, if all of them are digits. -/
def value? (digits : Text) : Option Nat :=
  digits.foldlM (fun n c ↦ (digit? c).map (n * 16 + ·)) 0

theorem digit?_digitChar {n : Nat} (h : n < 16) : digit? (Nat.digitChar n) = some n := by
  revert n
  decide

theorem value?_concat (digits : Text) (c : Char) :
    value? (digits ++ [c]) = (value? digits).bind fun n ↦ (digit? c).map (n * 16 + ·) := by
  simp [value?, Option.bind_eq_bind]

/-- What is written is read, as far as it was written. -/
theorem value?_padded (width n : Nat) : value? (padded width n) = some (n % Nat.pow 16 width) := by
  induction width generalizing n with
  | zero => simp [value?, padded, Nat.mod_one]
  | succ width ih =>
    have hdigit := digit?_digitChar (Nat.mod_lt n (by decide : 0 < 16))
    have hpow : Nat.pow 16 (width + 1) = 16 * Nat.pow 16 width := Nat.mul_comm _ _
    rw [padded, value?_concat, ih, Option.bind_some, hdigit, Option.map_some, hpow, Nat.mod_mul,
      Nat.mul_comm, Nat.add_comm]

end LoxTokens.Hexadecimal
