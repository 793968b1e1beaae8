import Primer.Numeral

/-!
# Tokens

A token is the smallest unit of a source text that the grammar speaks about: its
kind, its text and the line it stands on.

Main definitions:

- `Token` with its kinds, and `Token.endsLine` for the two kinds that close a
  statement.
- `isSymbolChar` and `isPairSymbol` fix which characters, and which pairs of
  characters, are symbols.
- `Token.render` writes a token as `TAG(text, line)`.
- `Token.describe` names a token inside a message.
-/

namespace Primer

/-- What sort of unit a token is. -/
inductive TokenKind where
  | number
  | stringLiteral
  | symbol
  | identifier
  /-- A line feed, or the end of a last line that has none. -/
  | endOfLine
  /-- A character that belongs to no other kind. -/
  | unknown
  | endOfInput
  deriving DecidableEq, Repr, Inhabited

/-- The short name under which a kind is listed. -/
def TokenKind.tag : TokenKind → String
  | .number => "NUM"
  | .stringLiteral => "STR"
  | .symbol => "SYM"
  | .identifier => "ID"
  | .endOfLine => "EOL"
  | .unknown => "?"
  | .endOfInput => "EOI"

/-- One unit of the source, with the 1-based line it stands on. -/
structure Token where
  kind : TokenKind
  text : String
  line : Nat
  deriving DecidableEq, Repr, Inhabited

/-! ## Symbols -/

/-- The characters that start a symbol. -/
def symbolChars : List Char :=
  ['(', ')', '{', '}', '.', ',', ';', '*', '&', '[', ']', '<', '>', '=', '!', '+', '-', '/', '?']

/-- The characters that form one symbol together with a following `=`. -/
def pairStarts : List Char :=
  ['<', '>', '!', '=']

/-- A character that is a symbol, or starts one. -/
def isSymbolChar (c : Char) : Bool :=
  symbolChars.contains c

/-- Two characters that are taken together as one symbol. -/
def isPairSymbol (first second : Char) : Bool :=
  pairStarts.contains first && second == '='

namespace Token

/-- The token is the given symbol. -/
def isSymbol (t : Token) (symbol : String) : Bool :=
  t.kind == .symbol && t.text == symbol

/-- The token closes a statement. -/
def endsLine (t : Token) : Bool :=
  t.kind == .endOfLine || t.kind == .endOfInput

/-- The listed form of a token. -/
def render (t : Token) : String :=
  t.kind.tag ++ "(" ++ t.text ++ ", " ++ Numeral.ofNat t.line ++ ")"

/-- How a message names a token that was not expected. -/
def describe (t : Token) : String :=
  match t.kind with
  | .endOfLine => "end of line"
  | .endOfInput => "end of input"
  | _ => t.text

/-- A token is a given symbol by its kind and its text. -/
theorem isSymbol_iff {t : Token} {symbol : String} :
    t.isSymbol symbol = true ↔ t.kind = .symbol ∧ t.text = symbol := by
  simp [isSymbol]

/-- Two kinds of token end a line. -/
theorem endsLine_iff {t : Token} :
    t.endsLine = true ↔ t.kind = .endOfLine ∨ t.kind = .endOfInput := by
  simp [endsLine]

end Token
end Primer
