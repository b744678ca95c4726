import LoxTokens.Symbol
import LoxTokens.Text.Decimal

/-!
# Tokens

A `Token` has a kind, the text that it was read from, the inner text if it is a string, and the
number of the line on which it begins.  Kinds (`TokenType`) are the symbols, the string, and the end
of the input; they are numbered from 1 in this order, and can be looked up by name and by number.

The line of a token may be any integer and its texts need not fit its kind: those are properties of
the tokens that a scan gives (`LoxTokens.Proofs.Image`), not of tokens.  Anyone can make a token,
and what is proved of the ways in which a token is printed is proved of all of them.
-/

set_option autoImplicit false

namespace LoxTokens

/-- The kind of a token (`TokenType`). -/
inductive Kind
  | symbol (s : Symbol)
  | string
  | endOfInput
  deriving DecidableEq, Repr

namespace Kind

/-- All kinds, in the order of their numbers. -/
def all : List Kind := Symbol.all.map symbol ++ [string, endOfInput]

theorem mem_all (k : Kind) : k ∈ all := by
  cases k with
  | symbol s => exact List.mem_append_left _ (List.mem_map_of_mem s.mem_all)
  | string => decide
  | endOfInput => decide

/-- The name under which a kind is printed. -/
def name : Kind → Text
  | symbol s => s.name
  | string => "STRING".toList
  | endOfInput => "EOF".toList

/-- The number of a kind, from 1. -/
def number (k : Kind) : Nat := all.idxOf k + 1

/-- The kind of a name. -/
def ofName? (name : Text) : Option Kind := all.find? (·.name = name)

/-- The kind of a number. -/
def ofNumber? (n : Int) : Option Kind := if n < 1 then none else all[(n - 1).toNat]?

/-- What is said of a number that no kind has. -/
def unknownNumber (n : Int) : Text := Decimal.ofInt n ++ " is not a valid TokenType".toList

/-- The names tell the kinds apart. -/
theorem ofName?_name (k : Kind) : ofName? k.name = some k := by
  have hall : ∀ k ∈ all, ofName? k.name = some k := by decide +kernel
  exact hall k k.mem_all

theorem name_inj {j k : Kind} : j.name = k.name ↔ j = k := by
  refine ⟨fun h ↦ ?_, fun h ↦ h ▸ rfl⟩
  have hofName := congrArg ofName? h
  rwa [ofName?_name, ofName?_name, Option.some.injEq] at hofName

/-- Names are written with capital letters, and with a low line between words. -/
theorem toNat_of_mem_name {k : Kind} {c : Char} (h : c ∈ k.name) :
    0x41 ≤ c.toNat ∧ c.toNat ≤ 0x5F := by
  have hall : ∀ k ∈ all, (k.name.all fun c ↦ 0x41 ≤ c.toNat && c.toNat ≤ 0x5F) = true := by decide
  simpa using List.all_eq_true.1 (hall k k.mem_all) c h

theorem not_mem_name {c : Char} (hc : c.toNat < 0x41) (k : Kind) : c ∉ k.name := fun h ↦
  Nat.not_lt.2 (toNat_of_mem_name h).1 hc

theorem ofNumber?_number (k : Kind) : ofNumber? k.number = some k := by
  have hall : ∀ k ∈ all, ofNumber? k.number = some k := by decide +kernel
  exact hall k k.mem_all

end Kind

/-- A token (`Token`).  No definition changes one.  Where tokens change hands it is lists of them,
and those can be changed. -/
structure Token where
  kind : Kind
  /-- The text of the token, quotes included. -/
  lexeme : Text
  /-- The text between the quotes of a string. -/
  literal : Option Text
  /-- The number of the line on which the token begins. -/
  line : Int
  deriving DecidableEq, Repr

end LoxTokens
