import Primer.Lowering

/-!
# What a tree tells of a program

Lowering a program loses the lines of its statements, and of a literal in an expression
whether it is a number or a text.  Everything else can be read back from the tree.  An
operand that could not be read becomes a child that is not there, and nothing else is
left out.

Main definitions:

- `Expr.treeWith` and `Statement.treeWith` are trees with a given tree in the place of
  each missing operand.
- `Expr.displayed` and `Statement.displayed` forget what is lost.
- `SyntaxTree.expr` and `SyntaxTree.statement?` read a tree back.

Main results:

- Theorem `lower_eq_ofStatements`: pruning takes out the missing operands only.
- Theorems `expr_treeWith_absent` and `statement?_treeWith_absent`: a tree is read back
  as what is displayed in it.
- Theorem `lower_eq_iff_displayed`: programs have the same tree exactly when they are
  displayed the same.
-/

namespace Primer

/-! ## Missing operands -/

/-- The tree of an expression, with a tree for each operand that could not be read. -/
def Expr.treeWith (hole : SyntaxTree) : Expr → SyntaxTree
  | .literal l => .leaf (.ofLiteral l.render)
  | .named name => .leaf (.ofVariable name)
  | .negate operand => .node (.plain "NEG") (operand.treeWith hole) .absent
  | .binary op left right => .node (.plain op.symbol) (left.treeWith hole) (right.treeWith hole)
  | .compare comparison left right =>
      .node ⟨"CONDITION", ⟨comparison.symbol, "", ""⟩⟩ (left.treeWith hole) (right.treeWith hole)
  | .missing => hole

/-- The tree of a statement, with a tree for each operand that could not be read. -/
def Statement.treeWith (hole : SyntaxTree) : Statement → SyntaxTree
  | .declare name type _ => .leaf ⟨"DECLARE", ⟨name, type.keyword, ""⟩⟩
  | .assign target type value _ =>
      .node ⟨"ASSIGN", ⟨type.keyword, "", ""⟩⟩ (.leaf (.ofVariable target)) (value.treeWith hole)
  | .perform command argument _ => .leaf ⟨command.keyword, argument.attributes⟩

namespace SyntaxTree

/-- The leaf that carries nothing. -/
def emptyLeaf : SyntaxTree :=
  .leaf (.plain "")

/-- A label that carries something keeps its node from being dropped. -/
theorem dropEmptyLeaf_node {label : Label} (h : label.isBlank = false) (left right : SyntaxTree) :
    dropEmptyLeaf (.node label left right) = .node label left right := by
  simp [dropEmptyLeaf, isEmptyLeaf, h]

end SyntaxTree

namespace Label

theorem isBlank_of_value {label : Label} (h : label.value ≠ "") : label.isBlank = false := by
  simp [isBlank, h]

/-- The label of a literal is never blank, not even for the empty text. -/
theorem isBlank_ofLiteral (text : String) : (ofLiteral text).isBlank = false := by
  simp [isBlank, ofLiteral, Attributes.isBlank, valueTag]

/-- The label of a variable is never blank. -/
theorem isBlank_ofVariable (name : String) : (ofVariable name).isBlank = false := by
  simp [isBlank, ofVariable, Attributes.isBlank, variableTag]

end Label

open SyntaxTree

/-- Lowering puts an empty leaf where an operand is missing. -/
theorem Expr.toTree_eq_treeWith (e : Expr) : e.toTree = e.treeWith emptyLeaf := by
  induction e with
  | literal l => rfl
  | named name => rfl
  | missing => rfl
  | negate operand ih => rw [toTree, treeWith, ih]
  | binary op left right ihl ihr => rw [toTree, treeWith, ihl, ihr]
  | compare comparison left right ihl ihr => rw [toTree, treeWith, ihl, ihr]

/-- So it does in a statement. -/
theorem Statement.toTree_eq_treeWith (s : Statement) : s.toTree = s.treeWith emptyLeaf := by
  cases s with
  | declare name type line => rfl
  | perform command argument line => rfl
  | assign target type value line => rw [toTree, treeWith, Expr.toTree_eq_treeWith]

/-- Pruning the tree of an expression takes out the missing operands only. -/
theorem Expr.dropEmptyLeaf_prune (e : Expr) :
    dropEmptyLeaf (e.treeWith emptyLeaf).prune = e.treeWith .absent := by
  induction e with
  | literal l => exact dropEmptyLeaf_node (Label.isBlank_ofLiteral l.render) _ _
  | named name => exact dropEmptyLeaf_node (Label.isBlank_ofVariable name) _ _
  | missing => rfl
  | negate operand ih =>
      rw [treeWith, prune_node, ih, dropEmptyLeaf_node (Label.isBlank_of_value (by decide))]
      rfl
  | binary op left right ihl ihr =>
      have hvalue : (Label.plain op.symbol).value ≠ "" := by cases op <;> decide
      rw [treeWith, prune_node, ihl, ihr, dropEmptyLeaf_node (Label.isBlank_of_value hvalue)]
      rfl
  | compare comparison left right ihl ihr =>
      rw [treeWith, prune_node, ihl, ihr, dropEmptyLeaf_node (Label.isBlank_of_value (by simp))]
      rfl

/-- Pruning the tree of a statement takes out the missing operands only, and never the
tree itself. -/
theorem Statement.dropEmptyLeaf_prune (s : Statement) :
    dropEmptyLeaf (s.treeWith emptyLeaf).prune = s.treeWith .absent := by
  cases s with
  | declare name type line =>
      exact dropEmptyLeaf_node (Label.isBlank_of_value (by simp)) _ _
  | perform command argument line =>
      have hvalue : command.keyword ≠ "" := by cases command <;> decide
      exact dropEmptyLeaf_node (Label.isBlank_of_value hvalue) _ _
  | assign target type value line =>
      rw [treeWith, prune_node, Expr.dropEmptyLeaf_prune,
        dropEmptyLeaf_node (Label.isBlank_of_value (by simp))]
      congr 1
      exact dropEmptyLeaf_node (Label.isBlank_ofVariable target) _ _

theorem isBlank_statementsLabel : (Label.plain Label.statementsValue).isBlank = false :=
  Label.isBlank_of_value (by decide)

/-- Pruning a chain prunes its statements and keeps all links. -/
theorem dropEmptyLeaf_prune_chain (ts : List SyntaxTree) :
    dropEmptyLeaf (ts.foldr link .absent).prune =
      (ts.map fun t => dropEmptyLeaf t.prune).foldr link .absent := by
  induction ts with
  | nil => rfl
  | cons t ts ih =>
      rw [List.foldr_cons, link, prune_node, ih, dropEmptyLeaf_node isBlank_statementsLabel]
      rfl

/-- The tree of a program is the chain of the trees of its statements, with nothing in
the place of an operand that could not be read. -/
theorem lower_eq_ofStatements (program : Program) :
    lower program = ofStatements (program.map (Statement.treeWith .absent)) := by
  cases program with
  | nil => rfl
  | cons s program =>
      -- The root is a link, so it would stay below another node as well.
      have hroot : dropEmptyLeaf (lower (s :: program)) = lower (s :: program) := by
        show dropEmptyLeaf (prune (link _ _)) = prune (link _ _)
        rw [link, prune_node, dropEmptyLeaf_node isBlank_statementsLabel]
      calc
        lower (s :: program)
            = dropEmptyLeaf (((s :: program).map Statement.toTree).foldr link .absent).prune :=
          hroot.symm
        _ = (((s :: program).map Statement.toTree).map fun t => dropEmptyLeaf t.prune).foldr link
              .absent :=
          dropEmptyLeaf_prune_chain _
        _ = ofStatements ((s :: program).map (Statement.treeWith .absent)) := by
          rw [List.map_map, funext Statement.toTree_eq_treeWith]
          simp only [Function.comp_def, Statement.dropEmptyLeaf_prune]
          rfl

/-- The chain of a lowered program holds one tree for each statement. -/
theorem statements_lower (program : Program) :
    (lower program).statements = program.map (Statement.treeWith .absent) := by
  rw [lower_eq_ofStatements]
  refine statements_ofStatements fun t ht => ?_
  obtain ⟨s, -, rfl⟩ := List.mem_map.1 ht
  cases s <;> rfl

/-! ## What is lost -/

/-- The expression with every literal as the text that is displayed for it. -/
def Expr.displayed : Expr → Expr
  | .literal l => .literal (.text l.render)
  | .named name => .named name
  | .negate operand => .negate operand.displayed
  | .binary op left right => .binary op left.displayed right.displayed
  | .compare comparison left right => .compare comparison left.displayed right.displayed
  | .missing => .missing

/-- The statement without its line, and with the literals of an expression as they are
displayed.  The literal of a command stays what it is. -/
def Statement.displayed : Statement → Statement
  | .declare name type _ => .declare name type 0
  | .assign target type value _ => .assign target type value.displayed 0
  | .perform command argument _ => .perform command argument 0

/-- A tree shows nothing of an expression but what is displayed. -/
theorem Expr.treeWith_displayed (hole : SyntaxTree) (e : Expr) :
    e.displayed.treeWith hole = e.treeWith hole := by
  induction e with
  | literal l => rfl
  | named name => rfl
  | missing => rfl
  | negate operand ih => rw [displayed, treeWith, treeWith, ih]
  | binary op left right ihl ihr => rw [displayed, treeWith, treeWith, ihl, ihr]
  | compare comparison left right ihl ihr => rw [displayed, treeWith, treeWith, ihl, ihr]

/-- A tree shows nothing of a statement but what is displayed. -/
theorem Statement.treeWith_displayed (hole : SyntaxTree) (s : Statement) :
    s.displayed.treeWith hole = s.treeWith hole := by
  cases s with
  | declare name type line => rfl
  | perform command argument line => rfl
  | assign target type value line => rw [displayed, treeWith, treeWith, Expr.treeWith_displayed]

/-! ## Reading back -/

/-- The expression that a tree shows.  The tags come first: a name or a text may be the
same as the value of an operator. -/
def SyntaxTree.expr : SyntaxTree → Expr
  | .absent => .missing
  | .node label left right =>
      if label.isLiteral then .literal (.text label.value)
      else if label.isVariable then .named label.value
      else if label.value = "NEG" then .negate left.expr
      else
        match BinaryOp.ofSymbol? label.value, Comparison.ofSymbol? label.attributes.first with
        | some op, _ => .binary op left.expr right.expr
        | none, some comparison => .compare comparison left.expr right.expr
        | none, none => .missing

/-- The type that a keyword stands for; the empty text stands for the unknown type. -/
def DataType.ofKeyword (word : String) : DataType :=
  (DataType.ofKeyword? word).getD .unknown

/-- The argument that the attributes of a command show. -/
def Attributes.argument? (a : Attributes) : Option Argument :=
  if a.third = Label.variableTag then some (.named a.first (.ofKeyword a.second))
  else
    match DataType.ofKeyword a.second with
    | .integer => (Numeral.read? a.first).map fun n => .literal (.int n)
    | _ => some (.literal (.text a.first))

/-- The value at the root of a tree. -/
def SyntaxTree.rootValue? : SyntaxTree → Option String
  | .absent => none
  | .node label _ _ => some label.value

/-- The statement that a tree shows, on no particular line. -/
def SyntaxTree.statement? : SyntaxTree → Option Statement
  | .absent => none
  | .node label left right =>
      if label.value = "DECLARE" then
        some (.declare label.attributes.first (.ofKeyword label.attributes.second) 0)
      else if label.value = "ASSIGN" then
        left.rootValue?.map fun target =>
          .assign target (.ofKeyword label.attributes.first) right.expr 0
      else
        (Command.ofKeyword? label.value).bind fun command =>
          label.attributes.argument?.map fun argument => .perform command argument 0

/-- The tree of an expression is read back as what is displayed in it. -/
theorem expr_treeWith_absent (e : Expr) : (e.treeWith .absent).expr = e.displayed := by
  induction e with
  | literal l => rfl
  | named name => rfl
  | missing => rfl
  | negate operand ih =>
      rw [Expr.treeWith, SyntaxTree.expr, ih]
      rfl
  | binary op left right ihl ihr =>
      rw [Expr.treeWith, SyntaxTree.expr, ihl, ihr]
      cases op <;> rfl
  | compare comparison left right ihl ihr =>
      rw [Expr.treeWith, SyntaxTree.expr, ihl, ihr]
      cases comparison <;> rfl

@[simp]
theorem ofKeyword_keyword (type : DataType) : DataType.ofKeyword type.keyword = type := by
  cases type <;> rfl

/-- The attributes of a command show its argument, and of which type a literal is. -/
theorem argument?_attributes (argument : Argument) :
    argument.attributes.argument? = some argument := by
  unfold Attributes.argument?
  cases argument with
  | named name type => simp [Argument.attributes]
  | literal l =>
      have htag : Label.valueTag ≠ Label.variableTag := by decide
      cases l with
      | int n =>
          have hread : Numeral.read? (Literal.int n).render = some n := by
            rw [Literal.render, Numeral.read?_ofInt, Numeral.word?_toInt]
          simp [Argument.attributes, htag, Literal.type, hread]
      | text s => simp [Argument.attributes, htag, Literal.type, Literal.render]

/-- The tree of a statement is read back as what is displayed in it. -/
theorem statement?_treeWith_absent (s : Statement) :
    (s.treeWith .absent).statement? = some s.displayed := by
  cases s with
  | declare name type line =>
      simp [Statement.treeWith, SyntaxTree.leaf, SyntaxTree.statement?, Statement.displayed]
  | assign target type value line =>
      simp [Statement.treeWith, SyntaxTree.leaf, SyntaxTree.statement?, SyntaxTree.rootValue?,
        Label.ofVariable, expr_treeWith_absent, Statement.displayed]
  | perform command argument line =>
      have hword : Command.ofKeyword? command.keyword = some command :=
        Command.ofKeyword?_eq_some_iff.2 rfl
      have hdeclare : command.keyword ≠ "DECLARE" := by cases command <;> decide
      have hassign : command.keyword ≠ "ASSIGN" := by cases command <;> decide
      simp [Statement.treeWith, SyntaxTree.leaf, SyntaxTree.statement?, hdeclare, hassign, hword,
        argument?_attributes, Statement.displayed]

/-! ## Programs -/

/-- The chain of a lowered program is read back as what is displayed of the program. -/
theorem map_statement?_statements_lower (program : Program) :
    (lower program).statements.map statement? = (program.map Statement.displayed).map some := by
  rw [statements_lower, List.map_map, List.map_map]
  exact List.map_congr_left fun s _ => statement?_treeWith_absent s

/-- Lowering loses the lines of statements and what kind of literal stands in an
expression, and nothing else: two programs have the same tree exactly when they are
displayed the same.  Of the tree in which a missing operand is an empty leaf, pruning
makes the one in which there is no child in its place, and the chain holds one tree for
each statement, in order. -/
theorem lower_eq_iff_displayed :
    (∀ p q : Program,
      lower p = lower q ↔ p.map Statement.displayed = q.map Statement.displayed) ∧
    ∀ p : Program,
      lower p = (ofStatements (p.map (Statement.treeWith emptyLeaf))).prune ∧
        lower p = ofStatements (p.map (Statement.treeWith .absent)) ∧
        (lower p).statements = p.map (Statement.treeWith .absent) := by
  constructor
  · intro p q
    constructor
    · intro htrees
      have hp := map_statement?_statements_lower p
      rw [htrees, map_statement?_statements_lower q] at hp
      exact (List.map_inj_right fun _ _ => Option.some.inj).1 hp.symm
    · intro hdisplayed
      have hshown (program : Program) : program.map (Statement.treeWith .absent) =
          (program.map Statement.displayed).map (Statement.treeWith .absent) := by
        rw [List.map_map]
        exact List.map_congr_left fun s _ => (Statement.treeWith_displayed .absent s).symm
      rw [lower_eq_ofStatements, lower_eq_ofStatements, hshown p, hdisplayed, ← hshown q]
  · intro p
    refine ⟨?_, lower_eq_ofStatements p, statements_lower p⟩
    rw [lower, funext Statement.toTree_eq_treeWith]

end Primer
