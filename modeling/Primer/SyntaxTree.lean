/-!
# Generic syntax trees

A binary tree whose nodes are told apart by a text and three attributes only.
This is the form in which a program is handed on and printed.

Main definitions:

- `Label` is what a node carries; `SyntaxTree` is a tree, possibly absent.
- `SyntaxTree.prune` removes the empty leaves below a node, and what becomes an
  empty leaf by that.
- `SyntaxTree.ofStatements` links trees into a chain that leans to the right, and
  `SyntaxTree.statements` reads such a chain back.
- `SyntaxTree.dump` prints a tree on indented lines.

Main results:

- Theorem `prune_node`: pruning prunes both subtrees and drops what is empty.
- Theorem `statements_ofStatements`: reading a chain back yields what was linked.
- Theorem `dump_node`: a tree is printed before its left subtree, and that before
  its right subtree.
-/

namespace Primer

/-! ## Labels -/

/-- The three attributes of a node; an unused one is empty. -/
structure Attributes where
  first : String
  second : String
  third : String
  deriving DecidableEq, Repr, Inhabited

namespace Attributes

/-- No attribute is used. -/
def none : Attributes :=
  ⟨"", "", ""⟩

/-- Replace the attribute in a slot, counted from zero, if there is such a slot. -/
def set? (a : Attributes) (slot : Nat) (text : String) : Option Attributes :=
  match slot with
  | 0 => some { a with first := text }
  | 1 => some { a with second := text }
  | 2 => some { a with third := text }
  | _ => Option.none

/-- No attribute is used. -/
def isBlank (a : Attributes) : Bool :=
  a.first.isEmpty && a.second.isEmpty && a.third.isEmpty

end Attributes

/-- What a node carries. -/
structure Label where
  value : String
  attributes : Attributes
  deriving DecidableEq, Repr, Inhabited

namespace Label

/-- A label without attributes. -/
def plain (value : String) : Label :=
  ⟨value, Attributes.none⟩

/-- Neither value nor attributes are used. -/
def isBlank (l : Label) : Bool :=
  l.value.isEmpty && l.attributes.isBlank

/-- The value that the links of a chain of statements carry. -/
def statementsValue : String :=
  "STATEMENTS"

/-- The tag of a variable. -/
def variableTag : String :=
  "VARIABLE"

/-- The tag of a literal. -/
def valueTag : String :=
  "VALUE"

/-- The label of a variable, written as an expression. -/
def ofVariable (name : String) : Label :=
  ⟨name, ⟨variableTag, "", ""⟩⟩

/-- The label of a literal, written as an expression. -/
def ofLiteral (text : String) : Label :=
  ⟨text, ⟨"", valueTag, ""⟩⟩

/-- The first attribute is the tag of a variable. -/
def isVariable (l : Label) : Bool :=
  l.attributes.first == variableTag

/-- The second attribute is the tag of a literal. -/
def isLiteral (l : Label) : Bool :=
  l.attributes.second == valueTag

/-- A label as it is printed: its value, then its attributes if one is used. -/
def render (l : Label) : String :=
  if l.attributes.isBlank then l.value
  else
    l.value ++ " [" ++ l.attributes.first ++ ", " ++ l.attributes.second ++ ", " ++
      l.attributes.third ++ "]"

end Label

/-! ## Trees -/

/-- A binary tree; a child that is not there is `absent`. -/
inductive SyntaxTree where
  | absent
  | node (label : Label) (left right : SyntaxTree)
  deriving DecidableEq, Repr, Inhabited

namespace SyntaxTree

/-- A node without children. -/
def leaf (label : Label) : SyntaxTree :=
  .node label .absent .absent

/-- There is no tree here. -/
def isAbsent : SyntaxTree → Bool
  | .absent => true
  | .node _ _ _ => false

/-- A node without children. -/
def isLeaf : SyntaxTree → Bool
  | .absent => false
  | .node _ left right => left.isAbsent && right.isAbsent

/-- A node that carries nothing and has no children. -/
def isEmptyLeaf : SyntaxTree → Bool
  | .absent => false
  | .node label left right => label.isBlank && (left.isAbsent && right.isAbsent)

/-- The root is tagged as a variable. -/
def isVariable : SyntaxTree → Bool
  | .absent => false
  | .node label _ _ => label.isVariable

/-- The root is tagged as a literal. -/
def isLiteral : SyntaxTree → Bool
  | .absent => false
  | .node label _ _ => label.isLiteral

/-- The same node with an attribute replaced, if it has the slot. -/
def withAttribute? (slot : Nat) (text : String) : SyntaxTree → Option SyntaxTree
  | .absent => none
  | .node label left right =>
      (label.attributes.set? slot text).map fun attributes =>
        .node { label with attributes := attributes } left right

/-- The same node with another left child. -/
def withLeft : SyntaxTree → SyntaxTree → SyntaxTree
  | .absent, _ => .absent
  | .node label _ right, child => .node label child right

/-- The same node with another right child. -/
def withRight : SyntaxTree → SyntaxTree → SyntaxTree
  | .absent, _ => .absent
  | .node label left _, child => .node label left child

/-! ## Pruning -/

/-- A child that is an empty leaf is dropped. -/
def dropEmptyLeaf (t : SyntaxTree) : SyntaxTree :=
  if t.isEmptyLeaf then .absent else t

/-- Put nodes back on top of a right subtree, lowest node first, dropping every
right child that is an empty leaf. -/
def relink (above : List (Label × SyntaxTree)) (bottom : SyntaxTree) : SyntaxTree :=
  above.foldl (fun below node => .node node.1 node.2 (dropEmptyLeaf below)) bottom

/-- Go down the right children of a tree, pruning the left ones, and put it
together again on the way back; `above` holds the nodes passed, lowest first. -/
def pruneBelow (above : List (Label × SyntaxTree)) : SyntaxTree → SyntaxTree
  | .absent => relink above .absent
  | .node label left right =>
      pruneBelow ((label, dropEmptyLeaf (pruneBelow [] left)) :: above) right

/-- Remove the empty leaves below the root, and every node that becomes an empty
leaf by that.  The root stays. -/
def prune (t : SyntaxTree) : SyntaxTree :=
  pruneBelow [] t

/-- Pruning down the spine relinks the pruned end of it to what is above. -/
theorem pruneBelow_eq (above : List (Label × SyntaxTree)) (t : SyntaxTree) :
    pruneBelow above t = relink above (prune t) := by
  induction t generalizing above with
  | absent => rfl
  | node label left right _ ih =>
      rw [prune, pruneBelow, pruneBelow, ih, ih [_]]
      rfl

@[simp]
theorem prune_absent : prune .absent = .absent :=
  rfl

/-- Pruning prunes both subtrees and drops those that are empty leaves then. -/
@[simp]
theorem prune_node (label : Label) (left right : SyntaxTree) :
    prune (.node label left right) =
      .node label (dropEmptyLeaf (prune left)) (dropEmptyLeaf (prune right)) := by
  rw [prune, pruneBelow, pruneBelow_eq]
  rfl

/-! ## Chains of statements -/

/-- One link of a chain: a statement on the left, the rest on the right. -/
def link (statement rest : SyntaxTree) : SyntaxTree :=
  .node (.plain Label.statementsValue) statement rest

/-- Link trees into a chain, first one at the top.  Without trees it is a single
link that holds none. -/
def ofStatements (ts : List SyntaxTree) : SyntaxTree :=
  match ts with
  | [] => link .absent .absent
  | _ => ts.foldr link .absent

/-- Read a chain, behind the statements already read, latest first. -/
def statementsOnto (read : List SyntaxTree) : SyntaxTree → List SyntaxTree
  | .absent => read.reverse
  | .node label left right =>
      if label.value = Label.statementsValue then
        statementsOnto (if left.isAbsent then read else left :: read) right
      else read.reverse

/-- The statements that the links of a chain hold, from the top. -/
def statements (t : SyntaxTree) : List SyntaxTree :=
  statementsOnto [] t

/-- The statements read before stand in front of those of the rest. -/
theorem statementsOnto_eq (read : List SyntaxTree) (t : SyntaxTree) :
    statementsOnto read t = read.reverse ++ statements t := by
  unfold statements
  induction t generalizing read with
  | absent => simp [statementsOnto]
  | node label left right _ ih =>
      rw [statementsOnto, statementsOnto]
      split
      · rw [ih, ih (if left.isAbsent then [] else [left])]
        split <;> simp
      · simp

@[simp]
theorem statements_absent : statements .absent = [] :=
  rfl

@[simp]
theorem statements_link (statement rest : SyntaxTree) :
    statements (link statement rest) =
      (if statement.isAbsent then [] else [statement]) ++ statements rest := by
  have hvalue : (Label.plain Label.statementsValue).value = Label.statementsValue := rfl
  rw [statements, link, statementsOnto, if_pos hvalue, statementsOnto_eq]
  split <;> simp

/-- Reading a chain back yields what its links hold, where there is something. -/
theorem statements_foldr_link (held : List SyntaxTree) :
    statements (held.foldr link .absent) = held.filter fun t => !t.isAbsent := by
  induction held with
  | nil => rfl
  | cons t held ih =>
      rw [List.foldr_cons, statements_link, ih, List.filter_cons]
      cases t.isAbsent <;> rfl

/-- Reading a chain back yields what was linked. -/
theorem statements_ofStatements {ts : List SyntaxTree} (h : ∀ t ∈ ts, t.isAbsent = false) :
    statements (ofStatements ts) = ts := by
  have hall : ts.filter (fun t => !t.isAbsent) = ts :=
    List.filter_eq_self.2 fun t ht => by simp [h t ht]
  cases ts with
  | nil => rfl
  | cons t ts => exact (statements_foldr_link (t :: ts)).trans hall

/-! ## Printing -/

/-- Two blanks for each level of depth. -/
def indentation (depth : Nat) : String :=
  String.ofList (List.replicate (2 * depth) ' ')

/-- Print a tree behind a text, at a depth and with a mark for its side. -/
def dumpOnto (text : String) (depth : Nat) (side : String) : SyntaxTree → String
  | .absent => text
  | .node label left right =>
      dumpOnto
        (dumpOnto (text ++ indentation depth ++ side ++ label.render ++ "\n") (depth + 1) "L: "
          left)
        (depth + 1) "R: " right

/-- The printed form of a tree: one line for each node, children indented below. -/
def dump (t : SyntaxTree) : String :=
  dumpOnto "" 0 "" t

/-- A tree is dumped behind whatever text is there. -/
theorem dumpOnto_eq (text : String) (depth : Nat) (side : String) (t : SyntaxTree) :
    dumpOnto text depth side t = text ++ dumpOnto "" depth side t := by
  induction t generalizing text depth side with
  | absent => simp [dumpOnto]
  | node label left right ihl ihr =>
      rw [dumpOnto, dumpOnto, ihr, ihl, ihr (dumpOnto ("" ++ _ ++ _ ++ _ ++ _) _ _ _),
        ihl ("" ++ _ ++ _ ++ _ ++ _)]
      simp [String.append_assoc]

/-- A node is printed before its left subtree, and that before its right one. -/
theorem dump_node (depth : Nat) (side : String) (label : Label) (left right : SyntaxTree) :
    dumpOnto "" depth side (.node label left right) =
      indentation depth ++ side ++ label.render ++ "\n" ++ dumpOnto "" (depth + 1) "L: " left ++
        dumpOnto "" (depth + 1) "R: " right := by
  rw [dumpOnto, dumpOnto_eq, dumpOnto_eq ("" ++ _ ++ _ ++ _ ++ _)]
  simp

end SyntaxTree
end Primer
