import LoxTokens.Text.Basic

/-!
# Symbols

The twenty operators and punctuation marks of Lox, their names and their spellings.  They are all
members of `TokenType` but `STRING` and `EOF`, in the order of their numbers.

Two tables say how a symbol is recognised by its first character.  They are the tables that
`_scan_token` looks its first character up in:

* `Symbol.singles` (`SINGLE_CHAR_TOKENS`) holds the characters that are a symbol whatever follows;
* `Symbol.pairs` (`EQUAL_SUFFIXED_TOKENS`) holds those that make a longer symbol with a directly
  following `=`.

The star and the slash are in neither table, because what they begin depends on the options and on
comments.  So the tables alone do not say where a symbol ends; the rules for that are those of
`Lexeme.Fits`, in `LoxTokens.Proofs.Grammar`.
-/

set_option autoImplicit false

namespace LoxTokens

/-- An operator or punctuation mark. -/
inductive Symbol
  | leftParen | rightParen | leftBrace | rightBrace | comma | dot | minus | plus | semicolon
  | slash | star | bang | bangEqual | equal | equalEqual | less | lessEqual | greater
  | greaterEqual | starStar
  deriving DecidableEq, Repr

namespace Symbol

/-- All symbols, in the order of their numbers. -/
def all : List Symbol :=
  [leftParen, rightParen, leftBrace, rightBrace, comma, dot, minus, plus, semicolon, slash, star,
   bang, bangEqual, equal, equalEqual, less, lessEqual, greater, greaterEqual, starStar]

theorem mem_all (s : Symbol) : s ∈ all := by cases s <;> decide

/-- The name under which a symbol is printed. -/
def name : Symbol → Text
  | leftParen => "LEFT_PAREN".toList
  | rightParen => "RIGHT_PAREN".toList
  | leftBrace => "LEFT_BRACE".toList
  | rightBrace => "RIGHT_BRACE".toList
  | comma => "COMMA".toList
  | dot => "DOT".toList
  | minus => "MINUS".toList
  | plus => "PLUS".toList
  | semicolon => "SEMICOLON".toList
  | slash => "SLASH".toList
  | star => "STAR".toList
  | bang => "BANG".toList
  | bangEqual => "BANG_EQUAL".toList
  | equal => "EQUAL".toList
  | equalEqual => "EQUAL_EQUAL".toList
  | less => "LESS".toList
  | lessEqual => "LESS_EQUAL".toList
  | greater => "GREATER".toList
  | greaterEqual => "GREATER_EQUAL".toList
  | starStar => "STAR_STAR".toList

/-- The characters that spell a symbol. -/
def spelling : Symbol → Text
  | leftParen => ['(']
  | rightParen => [')']
  | leftBrace => ['{']
  | rightBrace => ['}']
  | comma => [',']
  | dot => ['.']
  | minus => ['-']
  | plus => ['+']
  | semicolon => [';']
  | slash => ['/']
  | star => ['*']
  | bang => ['!']
  | bangEqual => ['!', '=']
  | equal => ['=']
  | equalEqual => ['=', '=']
  | less => ['<']
  | lessEqual => ['<', '=']
  | greater => ['>']
  | greaterEqual => ['>', '=']
  | starStar => ['*', '*']

theorem spelling_ne_nil (s : Symbol) : s.spelling ≠ [] := by cases s <;> decide

/-- The characters that are a symbol whatever follows (`SINGLE_CHAR_TOKENS`). -/
def singles : List (Char × Symbol) :=
  [('(', leftParen), (')', rightParen), ('{', leftBrace), ('}', rightBrace), (',', comma),
   ('.', dot), ('-', minus), ('+', plus), (';', semicolon)]

/-- The characters that are one symbol alone and another before `=` (`EQUAL_SUFFIXED_TOKENS`). -/
def pairs : List (Char × Symbol × Symbol) :=
  [('!', bang, bangEqual), ('=', equal, equalEqual), ('<', less, lessEqual),
   ('>', greater, greaterEqual)]

/-- The symbol that a character is whatever follows. -/
def single? (c : Char) : Option Symbol := singles.lookup c

/-- The symbols that a character is alone and before `=`. -/
def pair? (c : Char) : Option (Symbol × Symbol) := pairs.lookup c

end Symbol

end LoxTokens
