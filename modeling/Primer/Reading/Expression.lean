import Primer.Reading.Cursor

/-!
# Reading expressions

The type of the variable that is assigned to selects the grammar of the
expression.  An integer is a sum of products, with unary minus; a truth value is
one such sum, or two of them with a comparison between; a text is a row of
operands with `+` between.  Brackets hold an expression of the same grammar, but
inside a product the grammar is the one for integers.

Operators of equal strength group to the left.  Each operator and each opening
bracket uses up some of what the statement may hold; the depth up to which
operands are nested is bounded by the same number.

Main definitions:

- `Reading.chain` reads the operators and operands that follow a first operand.
- `Reading.sum`, `Reading.condition` and `Reading.concatenation` are the three
  grammars over a given way to read an operand, and `Reading.expression` selects
  one of them.
- `Reading.factor` reads an operand; `Reading.whole` reads the expression of a
  statement.

Main results:

- Theorem `chain_of_none`: a row ends in front of anything but its operators.
- Theorem `factor_nil`: an operand that is not there is missing.
-/

namespace Primer
namespace Reading

/-! ## Rows of operands -/

/-- Read operators out of `ops`, each followed by an operand, and group them to
the left of what was read before.  At most `n` operators are read. -/
def chain (scope : Scope) (ops : List BinaryOp) (operand : Cursor → Reading) :
    Nat → Expr → Cursor → Reading
  | n, left, c =>
      match c.binaryOp? ops with
      | none => ⟨left, [], c⟩
      | some op =>
          match n, c.advance.grow? with
          | n + 1, some inside =>
              let right := operand inside
              (chain scope ops operand n (.binary op left right.expr) right.cursor).after
                right.reports
          | _, _ => abandon scope left c.advance

/-- Read a first operand and the row of operators and operands behind it. -/
def row (scope : Scope) (ops : List BinaryOp) (operand : Cursor → Reading) (n : Nat)
    (c : Cursor) : Reading :=
  let first := operand c
  (chain scope ops operand n first.expr first.cursor).after first.reports

/-- A row ends in front of anything but its operators. -/
theorem chain_of_none {scope : Scope} {ops : List BinaryOp} {operand : Cursor → Reading} {n : Nat}
    {left : Expr} {c : Cursor} (h : c.binaryOp? ops = none) :
    chain scope ops operand n left c = ⟨left, [], c⟩ := by
  unfold chain
  rw [h]

/-! ## The three grammars -/

/-- Sums of products of integer operands. -/
def sum (scope : Scope) (n : Nat) (operand : DataType → Cursor → Reading) (c : Cursor) : Reading :=
  row scope [.add, .sub] (row scope [.mul, .div] (operand .integer) n) n c

/-- One sum, or two sums with a comparison between them. -/
def condition (scope : Scope) (n : Nat) (operand : DataType → Cursor → Reading)
    (c : Cursor) : Reading :=
  let left := sum scope n operand c
  match left.cursor.comparison? with
  | none => left
  | some comparison =>
      match left.cursor.advance.grow? with
      | none => (abandon scope left.expr left.cursor.advance).after left.reports
      | some inside =>
          ((sum scope n operand inside).mapExpr (.compare comparison left.expr)).after left.reports

/-- Text operands with `+` between them. -/
def concatenation (scope : Scope) (n : Nat) (operand : DataType → Cursor → Reading)
    (c : Cursor) : Reading :=
  row scope [.add] (operand .string) n c

/-- The grammar that a type selects. -/
def expression (scope : Scope) (n : Nat) (operand : DataType → Cursor → Reading) :
    DataType → Cursor → Reading
  | .boolean => condition scope n operand
  | .string => concatenation scope n operand
  | .integer => sum scope n operand
  | .unknown => sum scope n operand

/-! ## Operands -/

/-- An operand that is not there. -/
def noOperand (found : Token) (behind : Cursor) : Reading :=
  ⟨.missing, [.grammar (.expectedOperand found.line found.describe)], behind⟩

/-- Read an operand of one token. -/
def atom (scope : Scope) (t : Token) (c : Cursor) : Reading :=
  match t.kind with
  | .identifier =>
      if scope.symbols.contains t.text then ⟨.named t.text, [], c.advance⟩
      else ⟨.named t.text, [.semantic (.undeclaredVariable t.line t.text)], c.advance⟩
  | .number =>
      match Numeral.read? t.text with
      | some n => ⟨.int n, [], c.advance⟩
      | none => ⟨.missing, [.semantic (.integerOutOfRange t.line t.text)], c.advance⟩
  | .stringLiteral => ⟨.literal (.text t.text), [], c.advance⟩
  | .symbol | .unknown => noOperand t c.advance
  | .endOfLine | .endOfInput => noOperand t c

/-- Take the bracket that closes the one at `opening`. -/
def closeBracket (scope : Scope) (opening : Token) (inner : Reading) : Reading :=
  if inner.cursor.abandoned then inner
  else if inner.cursor.symbol? = some ")" then { inner with cursor := inner.cursor.advance }
  else
    { inner with
      reports := inner.reports ++
        [.grammar (.missingClosingBracket opening.line (inner.cursor.peek scope).describe)] }

/-- Read an operand; operands nested in it are at most `n` deep.  A minus sign in
front of a text is no operand. -/
def factor (scope : Scope) : Nat → DataType → Cursor → Reading
  | n, type, c =>
      match c.rest with
      | [] => noOperand scope.closing c
      | t :: _ =>
          if t.isSymbol "(" then
            match n, c.advance.grow? with
            | n + 1, some inside =>
                closeBracket scope t (expression scope n (factor scope n) type inside)
            | _, _ => abandon scope .missing c.advance
          else if t.isSymbol "-" && type != .string then
            match n, c.advance.grow? with
            | n + 1, some inside => (factor scope n type inside).mapExpr .negate
            | _, _ => abandon scope .missing c.advance
          else atom scope t c

/-- Read the expression of a statement that assigns to a variable of the type. -/
def whole (scope : Scope) (type : DataType) (tokens : List Token) : Reading :=
  expression scope growthLimit (factor scope growthLimit) type (Cursor.start tokens)

/-- At the end of the line the operand is missing. -/
theorem factor_nil (scope : Scope) (n : Nat) (type : DataType) {c : Cursor} (h : c.rest = []) :
    factor scope n type c = noOperand scope.closing c := by
  unfold factor
  rw [h]

end Reading
end Primer
