import LoxTokens.Text.Basic

/-!
# Whole numbers in decimal

A natural number is written with its decimal digits and no leading zero, a negative integer with
a minus sign in front.  The digits are those of the core library, which also has the way back.

Two facts are used again and again where a number is written next to something else: numbers are
told apart by their digits (`ofNat_inj`, `ofInt_inj`), and there is nothing but digits in them
(`isDigit_of_mem_ofNat`), so that a number ends where anything else begins.
-/

set_option autoImplicit false

namespace LoxTokens.Decimal

/-- The decimal digits of a natural number. -/
def ofNat (n : Nat) : Text := Nat.toDigits 10 n

/-- The decimal digits of an integer, behind a minus sign if it is negative. -/
def ofInt : Int → Text
  | .ofNat n => ofNat n
  | .negSucc n => '-' :: ofNat (n + 1)

/-- Different numbers are written differently. -/
theorem ofNat_inj {m n : Nat} : ofNat m = ofNat n ↔ m = n := by
  refine ⟨fun h ↦ ?_, fun h ↦ h ▸ rfl⟩
  have e := congrArg (Nat.ofDigitChars 10 · 0) h
  simpa [ofNat, Nat.ofDigitChars_toDigits] using e

/-- A natural number is written with digits only. -/
theorem isDigit_of_mem_ofNat {n : Nat} {c : Char} (h : c ∈ ofNat n) : c.isDigit = true :=
  Nat.isDigit_of_mem_toDigits (by decide) (by decide) h

theorem toNat_of_isDigit {c : Char} (h : c.isDigit = true) : 0x30 ≤ c.toNat ∧ c.toNat ≤ 0x39 := by
  simpa [Char.isDigit, UInt32.le_iff_toNat_le] using h

theorem not_mem_ofNat {c : Char} (hc : c.isDigit = false) (n : Nat) : c ∉ ofNat n := by
  intro h
  rw [isDigit_of_mem_ofNat h] at hc
  exact absurd hc nofun

theorem ofNat_ne_nil (n : Nat) : ofNat n ≠ [] := Nat.toDigits_ne_nil

/-- An integer is written with digits and the minus sign. -/
theorem eq_minus_or_isDigit_of_mem_ofInt {n : Int} {c : Char} (h : c ∈ ofInt n) :
    c = '-' ∨ c.isDigit = true := by
  cases n with
  | ofNat n => exact .inr (isDigit_of_mem_ofNat h)
  | negSucc n => exact (List.mem_cons.1 h).imp_right isDigit_of_mem_ofNat

theorem ofInt_ne_nil (n : Int) : ofInt n ≠ [] := by
  cases n with
  | ofNat n => exact ofNat_ne_nil n
  | negSucc n => exact List.cons_ne_nil _ _

/-- No digit is a minus sign, so different integers are written differently. -/
theorem ofInt_inj {m n : Int} : ofInt m = ofInt n ↔ m = n := by
  refine ⟨fun h ↦ ?_, fun h ↦ h ▸ rfl⟩
  have hminus (k l : Nat) : '-' :: ofNat (k + 1) ≠ ofNat l := fun h ↦
    not_mem_ofNat (by decide : ('-').isDigit = false) l (h ▸ List.mem_cons_self)
  cases m with
  | ofNat k =>
    cases n with
    | ofNat l => rw [ofNat_inj.1 h]
    | negSucc l => exact absurd h.symm (hminus l k)
  | negSucc k =>
    cases n with
    | ofNat l => exact absurd h (hminus k l)
    | negSucc l => rw [Nat.succ.inj (ofNat_inj.1 (List.cons.inj h).2)]

end LoxTokens.Decimal
