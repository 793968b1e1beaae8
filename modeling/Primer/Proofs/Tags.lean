import Primer.Compilation
import Primer.Proofs.Lowering
import Primer.Proofs.Pruning

/-!
# What the tags of a node tell

The tag of a variable is looked for in the first attribute of a node, and the tag of a
literal in the second.  The leaves of expressions and the targets of assignments have them
there.  The second attribute never holds anything that a source can choose, so the tag of a
literal is met on literals only.  The first attribute of a declaration is its name, and that
of a command is the text of its argument; where this is the word `VARIABLE`, a statement
is taken for a variable.

Main definitions:

- `Part` is what a node of the tree of a program stands for.
- `Part.child?` steps from a part to one below it, and `Part.at?` follows a path.

Main results:

- Theorem `Part.child_tree`: a step in the tree is a step from part to part.
- Theorem `Part.subtree_tree`: a path in the tree leads to the tree of the part to which it
  leads.
- Theorem `tags_iff`: which nodes have the tags.
-/

namespace Primer

/-! ## Parts of a program -/

/-- What a node of the tree of a program stands for. -/
inductive Part where
  /-- A link of the chain, with all statements from there on. -/
  | chain (program : Program)
  | statement (s : Statement)
  /-- The variable that is assigned to. -/
  | target (name : String)
  | expression (e : Expr)
  deriving DecidableEq, Repr

namespace Part

/-- The part that an operand is.  A missing one is none. -/
def ofExpr? : Expr → Option Part
  | .missing => none
  | e => some (.expression e)

/-- The part on one side below a link of the chain. -/
def chainChild? (side : Side) : Program → Option Part
  | [] => none
  | s :: rest =>
      match side, rest with
      | .left, _ => some (.statement s)
      | .right, [] => none
      | .right, next :: behind => some (.chain (next :: behind))

/-- The part on one side below a statement. -/
def statementChild? (side : Side) : Statement → Option Part
  | .declare _ _ _ => none
  | .assign name _ value _ =>
      match side with
      | .left => some (.target name)
      | .right => ofExpr? value
  | .perform _ _ _ => none

/-- The part on one side below an expression. -/
def exprChild? (side : Side) : Expr → Option Part
  | .negate operand =>
      match side with
      | .left => ofExpr? operand
      | .right => none
  | .binary _ left right =>
      match side with
      | .left => ofExpr? left
      | .right => ofExpr? right
  | .compare _ left right =>
      match side with
      | .left => ofExpr? left
      | .right => ofExpr? right
  | _ => none

/-- The part on one side below a part. -/
def child? (side : Side) : Part → Option Part
  | .chain program => chainChild? side program
  | .statement s => statementChild? side s
  | .target _ => none
  | .expression e => exprChild? side e

/-- The part to which a path leads. -/
def at? : List Side → Part → Option Part
  | [], p => some p
  | side :: path, p => (p.child? side).bind (at? path)

/-- The tree of a part, with nothing in the place of an operand that could not be read. -/
def tree : Part → SyntaxTree
  | .chain program => .ofStatements (program.map (Statement.treeWith .absent))
  | .statement s => s.treeWith .absent
  | .target name => .leaf (.ofVariable name)
  | .expression e => e.treeWith .absent

/-- The part is an identifier: the target of an assignment, or a variable in an
expression. -/
def isIdentifier : Part → Bool
  | .target _ => true
  | .expression (.named _) => true
  | _ => false

/-- The part is a literal in an expression. -/
def isLiteral : Part → Bool
  | .expression (.literal _) => true
  | _ => false

/-- The text that a declaration or a command is about: the name that is declared, or the
argument as it is written into the tree. -/
def subject? : Part → Option String
  | .statement (.declare name _ _) => some name
  | .statement (.perform _ argument _) => some argument.attributes.first
  | _ => none

/-! ## Following a path -/

/-- The tree of an operand is that of its part, or none where it is missing. -/
theorem elim_ofExpr? (e : Expr) : (ofExpr? e).elim .absent tree = e.treeWith .absent := by
  cases e <;> rfl

/-- A step from a node to a child is a step from a part to one below it. -/
theorem child_tree (side : Side) (p : Part) :
    p.tree.child side = (p.child? side).elim .absent tree := by
  cases p with
  | chain program =>
      match side, program with
      | .left, [] => rfl
      | .right, [] => rfl
      | .left, _ :: _ => rfl
      | .right, [_] => rfl
      | .right, _ :: _ :: _ => rfl
  | statement s =>
      cases s with
      | declare name type line => cases side <;> rfl
      | perform command argument line => cases side <;> rfl
      | assign target type value line =>
          cases side with
          | left => rfl
          | right => exact (elim_ofExpr? value).symm
  | target name => cases side <;> rfl
  | expression e =>
      cases e with
      | literal l => cases side <;> rfl
      | named name => cases side <;> rfl
      | missing => cases side <;> rfl
      | negate operand =>
          cases side with
          | left => exact (elim_ofExpr? operand).symm
          | right => rfl
      | binary op left right =>
          cases side with
          | left => exact (elim_ofExpr? left).symm
          | right => exact (elim_ofExpr? right).symm
      | compare comparison left right =>
          cases side with
          | left => exact (elim_ofExpr? left).symm
          | right => exact (elim_ofExpr? right).symm

/-- A path leads in the tree of a part to the tree of the part to which it leads. -/
theorem subtree_tree (path : List Side) (p : Part) :
    p.tree.subtree path = (p.at? path).elim .absent tree := by
  induction path generalizing p with
  | nil => rfl
  | cons side path ih =>
      rw [SyntaxTree.subtree_cons, child_tree, at?]
      cases p.child? side with
      | none => exact SyntaxTree.subtree_absent path
      | some q => exact ih q

/-! ## Tags -/

/-- No keyword of a type is the tag of a variable. -/
theorem keyword_ne_variableTag (type : DataType) : type.keyword ≠ Label.variableTag := by
  cases type <;> decide

theorem keyword_ne_valueTag (type : DataType) : type.keyword ≠ Label.valueTag := by
  cases type <;> decide

/-- A node is taken for a variable by the first of its attributes. -/
theorem isVariable_node {label : Label} {left right : SyntaxTree} :
    (SyntaxTree.node label left right).isVariable = true ↔
      label.attributes.first = Label.variableTag :=
  beq_iff_eq

/-- A node is taken for a literal by the second of its attributes. -/
theorem isLiteral_node {label : Label} {left right : SyntaxTree} :
    (SyntaxTree.node label left right).isLiteral = true ↔
      label.attributes.second = Label.valueTag :=
  beq_iff_eq

/-- A node whose first attribute is not used is not tagged as a variable. -/
theorem not_isVariable_node {label : Label} (h : label.attributes.first = "")
    (left right : SyntaxTree) : ¬ (SyntaxTree.node label left right).isVariable = true := by
  rw [isVariable_node, h]
  decide

/-- A node whose second attribute is not used is not tagged as a literal. -/
theorem not_isLiteral_node {label : Label} (h : label.attributes.second = "")
    (left right : SyntaxTree) : ¬ (SyntaxTree.node label left right).isLiteral = true := by
  rw [isLiteral_node, h]
  decide

/-- The root of a chain is a link. -/
theorem ofStatements_eq_link (ts : List SyntaxTree) :
    ∃ first rest, SyntaxTree.ofStatements ts = .link first rest := by
  cases ts with
  | nil => exact ⟨.absent, .absent, rfl⟩
  | cons t ts => exact ⟨t, ts.foldr .link .absent, rfl⟩

/-- The tag of a variable is on identifiers, and on the statements that are about the very
word. -/
theorem isVariable_tree {p : Part} :
    p.tree.isVariable = true ↔
      p.isIdentifier = true ∨ p.subject? = some Label.variableTag := by
  cases p with
  | chain program =>
      obtain ⟨first, rest, hlink⟩ :=
        ofStatements_eq_link (program.map (Statement.treeWith .absent))
      rw [tree, hlink]
      exact iff_of_false (not_isVariable_node rfl _ _) (by simp [isIdentifier, subject?])
  | target name => exact iff_of_true rfl (.inl rfl)
  | statement s =>
      cases s with
      | declare name type line =>
          rw [tree, Statement.treeWith, SyntaxTree.leaf, isVariable_node]
          simp [isIdentifier, subject?]
      | perform command argument line =>
          rw [tree, Statement.treeWith, SyntaxTree.leaf, isVariable_node]
          simp [isIdentifier, subject?]
      | assign target type value line =>
          rw [tree, Statement.treeWith, isVariable_node]
          simp [isIdentifier, subject?, keyword_ne_variableTag]
  | expression e =>
      have hsubject : (expression e).subject? ≠ some Label.variableTag := by simp [subject?]
      rw [or_iff_left hsubject]
      cases e with
      | named name => exact iff_of_true rfl rfl
      | missing => exact iff_of_false Bool.false_ne_true Bool.false_ne_true
      | literal l => exact iff_of_false (not_isVariable_node rfl _ _) Bool.false_ne_true
      | negate operand => exact iff_of_false (not_isVariable_node rfl _ _) Bool.false_ne_true
      | binary op left right => exact iff_of_false (not_isVariable_node rfl _ _) Bool.false_ne_true
      | compare comparison left right =>
          have hsymbol : comparison.symbol ≠ Label.variableTag := by cases comparison <;> decide
          exact iff_of_false (fun h => hsymbol (isVariable_node.1 h)) Bool.false_ne_true

/-- The tag of a literal is on the literals of expressions only. -/
theorem isLiteral_tree {p : Part} : p.tree.isLiteral = true ↔ p.isLiteral = true := by
  cases p with
  | chain program =>
      obtain ⟨first, rest, hlink⟩ :=
        ofStatements_eq_link (program.map (Statement.treeWith .absent))
      rw [tree, hlink]
      exact iff_of_false (not_isLiteral_node rfl _ _) Bool.false_ne_true
  | target name => exact iff_of_false (not_isLiteral_node rfl _ _) Bool.false_ne_true
  | statement s =>
      refine iff_of_false ?_ Bool.false_ne_true
      cases s with
      | declare name type line => exact fun h => keyword_ne_valueTag type (isLiteral_node.1 h)
      | assign target type value line => exact not_isLiteral_node rfl _ _
      | perform command argument line =>
          cases argument with
          | named name type => exact fun h => keyword_ne_valueTag type (isLiteral_node.1 h)
          | literal l => exact fun h => keyword_ne_valueTag l.type (isLiteral_node.1 h)
  | expression e =>
      cases e with
      | literal l => exact iff_of_true rfl rfl
      | missing => exact iff_of_false Bool.false_ne_true Bool.false_ne_true
      | named name => exact iff_of_false (not_isLiteral_node rfl _ _) Bool.false_ne_true
      | negate operand => exact iff_of_false (not_isLiteral_node rfl _ _) Bool.false_ne_true
      | binary op left right => exact iff_of_false (not_isLiteral_node rfl _ _) Bool.false_ne_true
      | compare comparison left right =>
          exact iff_of_false (not_isLiteral_node rfl _ _) Bool.false_ne_true

/-- A property that an absent tree does not have is one of the tree of a part. -/
theorem elim_tree_iff {part : Option Part} {test : SyntaxTree → Bool}
    (habsent : test .absent = false) :
    test (part.elim .absent tree) = true ↔ ∃ p ∈ part, test p.tree = true := by
  cases part with
  | none => simp [habsent]
  | some p => simp

end Part

/-- Every path in the tree of a program leads to the tree of the part of the program to which
it leads, if there is one.  The node there has the tag of a literal exactly if the part is a
literal of an expression.  It has the tag of a variable exactly if the part is an
identifier, or a statement that declares the name `VARIABLE` or acts on the variable or
the text `VARIABLE`. -/
theorem tags_iff (options : Options) (source : String) (path : List Side) :
    let c := compile options source
    let node := c.tree.subtree path
    let part := (Part.chain c.program).at? path
    node = part.elim .absent Part.tree ∧
      (node.isVariable = true ↔
        ∃ p ∈ part, p.isIdentifier = true ∨ p.subject? = some Label.variableTag) ∧
      (node.isLiteral = true ↔ ∃ p ∈ part, p.isLiteral = true) := by
  intro c node part
  have hnode : node = part.elim .absent Part.tree := by
    show (lower c.program).subtree path = _
    rw [lower_eq_ofStatements]
    exact Part.subtree_tree path (.chain c.program)
  refine ⟨hnode, ?_, ?_⟩
  · rw [hnode, Part.elim_tree_iff rfl]
    simp only [Part.isVariable_tree]
  · rw [hnode, Part.elim_tree_iff rfl]
    simp only [Part.isLiteral_tree]

/-- Where a variable is called like the tag, its declaration has the tag of a variable, and
there is nothing to complain about. -/
theorem declaration_tagged_as_variable :
    let c := compile .standard "INT variable"
    (Part.chain c.program).at? [.left] = some (.statement (.declare "VARIABLE" .integer 1)) ∧
      (c.tree.subtree [.left]).isVariable = true ∧ c.diagnostics = [] := by
  decide +kernel

end Primer
