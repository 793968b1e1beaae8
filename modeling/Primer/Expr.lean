import Primer.DataType
import Primer.Numeral

/-!
# Expressions

The right-hand side of an assignment, as a tree.

Main definitions:

- `Literal`, `BinaryOp` and `Comparison`, the parts of an expression, with the
  symbols that write them.
- `Expr`, whose constructor `missing` marks an operand that could not be read.

Main results:

- Theorems `BinaryOp.ofSymbol?_eq_some_iff` and
  `Comparison.ofSymbol?_eq_some_iff`: reading an operator inverts writing it.
-/

namespace Primer

/-! ## Literals -/

/-- A constant of the language. -/
inductive Literal where
  | int (n : Int32)
  | text (s : String)
  deriving DecidableEq, Repr, Inhabited

namespace Literal

/-- The type of a literal. -/
def type : Literal → DataType
  | .int _ => .integer
  | .text _ => .string

/-- The text of a literal, without quotation marks. -/
def render : Literal → String
  | .int n => Numeral.ofInt n.toInt
  | .text s => s

end Literal

/-! ## Operators -/

/-- An operator with a number as its result, or `+` between texts. -/
inductive BinaryOp where
  | add
  | sub
  | mul
  | div
  deriving DecidableEq, Repr, Inhabited

namespace BinaryOp

/-- The symbol that writes the operator. -/
def symbol : BinaryOp → String
  | .add => "+"
  | .sub => "-"
  | .mul => "*"
  | .div => "/"

/-- The operator that a symbol writes. -/
def ofSymbol? (symbol : String) : Option BinaryOp :=
  if symbol = "+" then some .add
  else if symbol = "-" then some .sub
  else if symbol = "*" then some .mul
  else if symbol = "/" then some .div
  else none

/-- Reading an operator inverts writing it. -/
theorem ofSymbol?_eq_some_iff {symbol : String} {op : BinaryOp} :
    ofSymbol? symbol = some op ↔ symbol = op.symbol := by
  unfold ofSymbol?
  constructor
  · intro h
    repeat' split at h
    all_goals first
      | (cases h; assumption)
      | cases h
  · rintro rfl
    cases op <;> rfl

end BinaryOp

/-- A comparison of two numbers.  Strict order is not among them. -/
inductive Comparison where
  | equal
  | notEqual
  | lessEqual
  | greaterEqual
  deriving DecidableEq, Repr, Inhabited

namespace Comparison

/-- The symbol that writes the comparison. -/
def symbol : Comparison → String
  | .equal => "=="
  | .notEqual => "!="
  | .lessEqual => "<="
  | .greaterEqual => ">="

/-- The comparison that a symbol writes. -/
def ofSymbol? (symbol : String) : Option Comparison :=
  if symbol = "==" then some .equal
  else if symbol = "!=" then some .notEqual
  else if symbol = "<=" then some .lessEqual
  else if symbol = ">=" then some .greaterEqual
  else none

/-- Reading a comparison inverts writing it. -/
theorem ofSymbol?_eq_some_iff {symbol : String} {comparison : Comparison} :
    ofSymbol? symbol = some comparison ↔ symbol = comparison.symbol := by
  unfold ofSymbol?
  constructor
  · intro h
    repeat' split at h
    all_goals first
      | (cases h; assumption)
      | cases h
  · rintro rfl
    cases comparison <;> rfl

end Comparison

/-! ## Trees -/

/-- An expression. -/
inductive Expr where
  | literal (l : Literal)
  | named (name : String)
  | negate (operand : Expr)
  | binary (op : BinaryOp) (left right : Expr)
  | compare (comparison : Comparison) (left right : Expr)
  /-- An operand that could not be read. -/
  | missing
  deriving DecidableEq, Repr, Inhabited

namespace Expr

/-- The expression that is an integer constant. -/
def int (n : Int32) : Expr :=
  .literal (.int n)

/-- The value of an expression that is an integer constant. -/
def int? : Expr → Option Int32
  | .literal (.int n) => some n
  | _ => none

/-- The integer that an expression shows is the one it was built from. -/
theorem int?_eq_some_iff {e : Expr} {n : Int32} : e.int? = some n ↔ e = int n := by
  cases e with
  | literal l => cases l <;> simp [int?, int]
  | _ => simp [int?, int]

@[simp]
theorem int?_int (n : Int32) : (int n).int? = some n :=
  rfl

end Expr
end Primer
