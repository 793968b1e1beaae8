import Primer.Statement
import Primer.SyntaxTree

/-!
# Lowering programs to trees

A program becomes a chain of statements in the generic tree, with the operands
that could not be read left out.

Main definitions:

- `Expr.toTree` and `Statement.toTree` give the tree of one expression and of one
  statement.
- `lower` gives the pruned tree of a program.

Labels of nodes, with their attributes:

- a variable in an expression has its name as value and the tag of a variable in
  the first attribute;
- a literal in an expression has its text as value and the tag of a literal in
  the second attribute;
- a declaration is `DECLARE` with name and type;
- an assignment is `ASSIGN` with the type of its target, the target on the left
  and the expression on the right;
- a command is its keyword, with the text of the argument, its type and its tag;
- an operator is its symbol, a negation `NEG`, a comparison `CONDITION` with its
  symbol as first attribute.
-/

namespace Primer

/-- The tree of an expression.  A missing operand is an empty leaf. -/
def Expr.toTree : Expr → SyntaxTree
  | .literal l => .leaf (.ofLiteral l.render)
  | .named name => .leaf (.ofVariable name)
  | .negate operand => .node (.plain "NEG") operand.toTree .absent
  | .binary op left right => .node (.plain op.symbol) left.toTree right.toTree
  | .compare comparison left right =>
      .node ⟨"CONDITION", ⟨comparison.symbol, "", ""⟩⟩ left.toTree right.toTree
  | .missing => .leaf (.plain "")

/-- The attributes of a command with the given argument: its text, the keyword of
its type and its tag. -/
def Argument.attributes : Argument → Attributes
  | .named name type => ⟨name, type.keyword, Label.variableTag⟩
  | .literal l => ⟨l.render, l.type.keyword, Label.valueTag⟩

/-- The tree of a statement. -/
def Statement.toTree : Statement → SyntaxTree
  | .declare name type _ => .leaf ⟨"DECLARE", ⟨name, type.keyword, ""⟩⟩
  | .assign target type value _ =>
      .node ⟨"ASSIGN", ⟨type.keyword, "", ""⟩⟩ (.leaf (.ofVariable target)) value.toTree
  | .perform command argument _ => .leaf ⟨command.keyword, argument.attributes⟩

/-- The tree of a program: the chain of its statements, without empty leaves. -/
def lower (program : Program) : SyntaxTree :=
  (SyntaxTree.ofStatements (program.map Statement.toTree)).prune

end Primer
