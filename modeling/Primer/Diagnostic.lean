import Primer.Arithmetic
import Primer.Statement

/-!
# Diagnostics

Everything that can be wrong with a source text.  A diagnostic is recorded and
the work goes on; none of them ends it.

Main definitions:

- `LexicalError`, `GrammarError`, `SemanticError` and `ArithmeticFault`, the
  causes, by the stage that finds them.
- `Diagnostic` joins the four families.
- `Diagnostic.message` is the wording of each cause.
- `Diagnostic.line?` is the line a cause names.
-/

namespace Primer

/-- Found while cutting the source into tokens. -/
inductive LexicalError where
  /-- A line feed inside quotation marks. -/
  | unterminatedString (line : Nat)
  /-- A character that starts no token. -/
  | undefinedToken (c : Char) (line : Nat)
  /-- The source ends inside quotation marks. -/
  | unexpectedEnd (line : Nat)
  deriving DecidableEq, Repr, Inhabited

/-- A sequence of tokens that matches no rule of the grammar. -/
inductive GrammarError where
  | missingClosingBracket (line : Nat) (found : String)
  | invalidStatement (line : Nat) (found : String)
  | expectedIdentifier (line : Nat) (found : String)
  | expectedOperand (line : Nat) (found : String)
  | unexpectedToken (line : Nat) (found : String)
  | expressionTooComplex (line : Nat) (limit : Nat)
  deriving DecidableEq, Repr, Inhabited

/-- A well-formed statement that breaks a rule of the language. -/
inductive SemanticError where
  | undeclaredVariable (line : Nat) (name : String)
  | invalidDeclaration (line : Nat) (name : String)
  | undeclaredAssignment (line : Nat) (name : String)
  | invalidArgument (line : Nat) (command : Command) (found : String)
  | integerOutOfRange (line : Nat) (numeral : String)
  /-- A name looked up on its own, without a place in the source. -/
  | unknownVariable (name : String)
  deriving DecidableEq, Repr, Inhabited

/-- A constant operation that has no result. -/
inductive ArithmeticFault where
  | divisionByZero (line : Nat) (left : Int32)
  | overflow (line : Nat) (op : BinaryOp) (left right : Int32)
  deriving DecidableEq, Repr, Inhabited

/-- Something wrong with a source text. -/
inductive Diagnostic where
  | lexical (e : LexicalError)
  | grammar (e : GrammarError)
  | semantic (e : SemanticError)
  | arithmetic (f : ArithmeticFault)
  deriving DecidableEq, Repr, Inhabited

/-! ## Wording -/

/-- The beginning of a message about the given line. -/
def atLine (line : Nat) : String :=
  "line " ++ Numeral.ofNat line ++ ": "

/-- A text between single quotation marks. -/
def inQuotes (text : String) : String :=
  "'" ++ text ++ "'"

namespace LexicalError

/-- The wording of a lexical error. -/
def message : LexicalError → String
  | .unterminatedString line => atLine line ++ "expected ending quotation mark"
  | .undefinedToken c line => atLine line ++ "undefined token " ++ inQuotes (String.singleton c)
  | .unexpectedEnd line => atLine line ++ "no more characters in source"

/-- The line a lexical error names. -/
def line : LexicalError → Nat
  | .unterminatedString line => line
  | .undefinedToken _ line => line
  | .unexpectedEnd line => line

end LexicalError

namespace GrammarError

/-- The wording of a grammar error. -/
def message : GrammarError → String
  | .missingClosingBracket line found =>
      atLine line ++ "expected closing bracket, found " ++ inQuotes found
  | .invalidStatement line found =>
      atLine line ++ "invalid statement starting with " ++ inQuotes found
  | .expectedIdentifier line found =>
      atLine line ++ "expected an identifier, found " ++ inQuotes found
  | .expectedOperand line found =>
      atLine line ++ "expected an operand, found " ++ inQuotes found
  | .unexpectedToken line found =>
      atLine line ++ "unexpected token " ++ inQuotes found
  | .expressionTooComplex line limit =>
      atLine line ++ "expression has more than " ++ Numeral.ofNat limit ++
        " operators and brackets"

/-- The line a grammar error names. -/
def line : GrammarError → Nat
  | .missingClosingBracket line _ => line
  | .invalidStatement line _ => line
  | .expectedIdentifier line _ => line
  | .expectedOperand line _ => line
  | .unexpectedToken line _ => line
  | .expressionTooComplex line _ => line

end GrammarError

namespace SemanticError

/-- The wording of a semantic error. -/
def message : SemanticError → String
  | .undeclaredVariable line name =>
      atLine line ++ "undeclared variable " ++ inQuotes name
  | .invalidDeclaration line name =>
      atLine line ++ inQuotes name ++ " is a keyword or is already declared"
  | .undeclaredAssignment line name =>
      atLine line ++ "cannot assign to undeclared variable " ++ inQuotes name
  | .invalidArgument line command found =>
      atLine line ++ "invalid argument " ++ inQuotes found ++ " to " ++ command.keyword
  | .integerOutOfRange line numeral =>
      atLine line ++ "integer literal " ++ inQuotes numeral ++ " is out of range"
  | .unknownVariable name =>
      "unknown variable " ++ inQuotes name

/-- The line a semantic error names, if it stands in a source. -/
def line? : SemanticError → Option Nat
  | .undeclaredVariable line _ => some line
  | .invalidDeclaration line _ => some line
  | .undeclaredAssignment line _ => some line
  | .invalidArgument line _ _ => some line
  | .integerOutOfRange line _ => some line
  | .unknownVariable _ => none

end SemanticError

namespace ArithmeticFault

/-- The fault of an operation that was refused for the given reason. -/
def ofError (line : Nat) (op : BinaryOp) (left right : Int32) : ArithmeticError → ArithmeticFault
  | .divisionByZero => .divisionByZero line left
  | .overflow => .overflow line op left right

/-- The wording of an arithmetic fault. -/
def message : ArithmeticFault → String
  | .divisionByZero line left =>
      atLine line ++ "division by zero in constant expression " ++ Numeral.ofInt left.toInt ++
        " / 0"
  | .overflow line op left right =>
      atLine line ++ "constant expression " ++ Numeral.ofInt left.toInt ++ " " ++ op.symbol ++
        " " ++ Numeral.ofInt right.toInt ++ " overflows"

/-- The line an arithmetic fault names. -/
def line : ArithmeticFault → Nat
  | .divisionByZero line _ => line
  | .overflow line _ _ _ => line

end ArithmeticFault

namespace Diagnostic

/-- The wording of a diagnostic. -/
def message : Diagnostic → String
  | .lexical e => e.message
  | .grammar e => e.message
  | .semantic e => e.message
  | .arithmetic f => f.message

/-- The line a diagnostic names, if it names one. -/
def line? : Diagnostic → Option Nat
  | .lexical e => some e.line
  | .grammar e => some e.line
  | .semantic e => e.line?
  | .arithmetic f => some f.line

end Diagnostic
end Primer
