import Primer.Statement
import Primer.Text.Quoted

/-!
# Outlines

The structure of a statement written out on one line, with the name of every part.
The log shows statements and expressions in this form.

Main definitions:

- `Outline.fields` and `Outline.items` write a named part with named fields, and
  one with unnamed items.
- `Expr.outline` and `Statement.outline` write expressions and statements.
-/

namespace Primer

namespace Outline

/-- A part with named fields, between braces. -/
def fields (name : String) (parts : List (String × String)) : String :=
  name ++ " \x7b " ++ String.intercalate ", " (parts.map fun part => part.1 ++ ": " ++ part.2) ++
    " \x7d"

/-- A part with unnamed items, between brackets. -/
def items (name : String) (parts : List String) : String :=
  name ++ "(" ++ String.intercalate ", " parts ++ ")"

end Outline

open Outline

/-- The name of a type. -/
def DataType.outline : DataType → String
  | .integer => "Integer"
  | .boolean => "Boolean"
  | .string => "String"
  | .unknown => "Unknown"

/-- The name of an operator. -/
def BinaryOp.outline : BinaryOp → String
  | .add => "Add"
  | .sub => "Sub"
  | .mul => "Mul"
  | .div => "Div"

/-- The name of a comparison. -/
def Comparison.outline : Comparison → String
  | .equal => "Equal"
  | .notEqual => "NotEqual"
  | .lessEqual => "LessEqual"
  | .greaterEqual => "GreaterEqual"

/-- The outline of a literal. -/
def Literal.outline : Literal → String
  | .int n => items "Literal" [items "Int" [Numeral.ofInt n.toInt]]
  | .text s => items "Literal" [items "Str" [Quoted.render s]]

/-- The outline of an expression. -/
def Expr.outline : Expr → String
  | .literal l => l.outline
  | .named name => items "Variable" [Quoted.render name]
  | .negate operand => items "Unary" ["Neg", operand.outline]
  | .binary op left right => items "Binary" [op.outline, left.outline, right.outline]
  | .compare comparison left right =>
      items "Compare" [comparison.outline, left.outline, right.outline]
  | .missing => "Missing"

/-- The outline of an argument. -/
def Argument.outline : Argument → String
  | .named name type => fields "Variable" [("name", Quoted.render name), ("ty", type.outline)]
  | .literal l => l.outline

/-- The name of a command. -/
def Command.outline : Command → String
  | .print => "Print"
  | .input => "Input"

/-- The outline of a statement. -/
def Statement.outline : Statement → String
  | .declare name type line =>
      fields "Declare"
        [("name", Quoted.render name), ("ty", type.outline), ("line", Numeral.ofNat line)]
  | .assign target type value line =>
      fields "Assign"
        [("target", Quoted.render target), ("ty", type.outline), ("value", value.outline),
          ("line", Numeral.ofNat line)]
  | .perform command argument line =>
      fields command.outline [("arg", argument.outline), ("line", Numeral.ofNat line)]

end Primer
