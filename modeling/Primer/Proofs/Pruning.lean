import Primer.SyntaxTree

/-!
# What pruning keeps

A node below the root stays in its place exactly when something is written on it or on a
node below it.  Going down the right children in a loop comes to the same as pruning both
subtrees of every node first.

Main definitions:

- `Side` is a step from a node to a child, and `SyntaxTree.subtree` follows such steps.
- `SyntaxTree.Occupied` says that something is written on a node of a tree.
- `SyntaxTree.pruneBottomUp` is pruning by plain recursion.

Main results:

- Theorem `dropEmptyLeaf_prune_eq_absent_iff`: nothing is left of a subtree exactly when
  nothing is written in it.
- Theorem `subtree_prune`: below the root, pruning commutes with following a path.
- Theorem `pruned_node_iff`: which nodes a pruned tree has, and where.
-/

namespace Primer

/-! ## Paths -/

/-- A step from a node to one of its children. -/
inductive Side where
  | left
  | right
  deriving DecidableEq, Repr

namespace Label

/-- The value or an attribute is a text that is not empty. -/
def Carries (l : Label) : Prop :=
  l.value ≠ "" ∨ l.attributes.first ≠ "" ∨ l.attributes.second ≠ "" ∨ l.attributes.third ≠ ""

/-- A blank label is one that carries nothing. -/
theorem isBlank_iff_not_carries {l : Label} : l.isBlank = true ↔ ¬ l.Carries := by
  simp [isBlank, Attributes.isBlank, Carries, and_assoc]

end Label

namespace SyntaxTree

/-- The child on the given side. -/
def child (side : Side) : SyntaxTree → SyntaxTree
  | .absent => .absent
  | .node _ left right =>
      match side with
      | .left => left
      | .right => right

/-- The tree that a path from the root leads to. -/
def subtree (path : List Side) (t : SyntaxTree) : SyntaxTree :=
  path.foldl (fun below side => below.child side) t

/-- The label of the root, if there is one. -/
def label? : SyntaxTree → Option Label
  | .absent => none
  | .node label _ _ => some label

/-- Something is written on the root or on a node below it. -/
def Occupied (t : SyntaxTree) : Prop :=
  ∃ path label, (t.subtree path).label? = some label ∧ label.Carries

@[simp]
theorem subtree_cons (side : Side) (path : List Side) (t : SyntaxTree) :
    t.subtree (side :: path) = (t.child side).subtree path :=
  rfl

@[simp]
theorem subtree_absent (path : List Side) : subtree path .absent = .absent := by
  induction path with
  | nil => rfl
  | cons side path ih => exact ih

/-- A missing tree is not occupied. -/
theorem not_occupied_absent : ¬ Occupied .absent := by
  rintro ⟨path, label, hlabel, -⟩
  rw [subtree_absent] at hlabel
  cases hlabel

/-- What is written in a tree is written on its root or in one of the subtrees. -/
theorem occupied_node {label : Label} {left right : SyntaxTree} :
    (node label left right).Occupied ↔ label.Carries ∨ left.Occupied ∨ right.Occupied := by
  constructor
  · rintro ⟨path, found, hfound, hcarries⟩
    cases path with
    | nil =>
        obtain rfl : label = found := Option.some.inj hfound
        exact .inl hcarries
    | cons side path =>
        cases side with
        | left => exact .inr (.inl ⟨path, found, hfound, hcarries⟩)
        | right => exact .inr (.inr ⟨path, found, hfound, hcarries⟩)
  · rintro (hcarries | ⟨path, found, hfound, hcarries⟩ | ⟨path, found, hfound, hcarries⟩)
    · exact ⟨[], label, rfl, hcarries⟩
    · exact ⟨.left :: path, found, hfound, hcarries⟩
    · exact ⟨.right :: path, found, hfound, hcarries⟩

/-! ## Plain recursion -/

/-- Prune both subtrees, and then drop each of them that is an empty leaf. -/
def pruneBottomUp : SyntaxTree → SyntaxTree
  | .absent => .absent
  | .node label left right =>
      .node label (dropEmptyLeaf left.pruneBottomUp) (dropEmptyLeaf right.pruneBottomUp)

/-- Pruning along the spine is pruning from the bottom up. -/
theorem prune_eq_pruneBottomUp (t : SyntaxTree) : t.prune = t.pruneBottomUp := by
  induction t with
  | absent => rfl
  | node label left right ihl ihr => rw [prune_node, pruneBottomUp, ihl, ihr]

/-! ## What is dropped -/

/-- What is left of a leaf that may be dropped is no empty leaf. -/
theorem isEmptyLeaf_dropEmptyLeaf (t : SyntaxTree) : (dropEmptyLeaf t).isEmptyLeaf = false := by
  unfold dropEmptyLeaf
  split
  · rfl
  next h => simpa using h

/-- Pruning keeps the label at the root. -/
theorem label?_prune (t : SyntaxTree) : t.prune.label? = t.label? := by
  cases t with
  | absent => rfl
  | node label left right => rw [prune_node, label?, label?]

/-- An empty leaf carries nothing and has no children. -/
theorem isEmptyLeaf_node_iff {label : Label} {left right : SyntaxTree} :
    (node label left right).isEmptyLeaf = true ↔
      ¬ label.Carries ∧ left = .absent ∧ right = .absent := by
  have habsent (t : SyntaxTree) : t.isAbsent = true ↔ t = .absent := by
    cases t <;> simp [isAbsent]
  simp [isEmptyLeaf, habsent, Label.isBlank_iff_not_carries]

/-- A node is dropped exactly if it carries nothing and has no children. -/
theorem dropEmptyLeaf_node_eq_absent_iff {label : Label} {left right : SyntaxTree} :
    dropEmptyLeaf (.node label left right) = .absent ↔
      ¬ label.Carries ∧ left = .absent ∧ right = .absent := by
  rw [← isEmptyLeaf_node_iff, dropEmptyLeaf]
  split
  next h => exact iff_of_true rfl h
  next h => exact iff_of_false nofun h

/-- Nothing is left of a subtree exactly when nothing is written in it. -/
theorem dropEmptyLeaf_prune_eq_absent_iff {t : SyntaxTree} :
    dropEmptyLeaf t.prune = .absent ↔ ¬ t.Occupied := by
  induction t with
  | absent => exact iff_of_true rfl not_occupied_absent
  | node label left right ihl ihr =>
      rw [prune_node, dropEmptyLeaf_node_eq_absent_iff, ihl, ihr, occupied_node]
      simp only [not_or]

/-- A child that is pruned is one of the pruned children. -/
theorem child_prune (side : Side) (t : SyntaxTree) :
    t.prune.child side = dropEmptyLeaf (t.child side).prune := by
  cases t with
  | absent => rfl
  | node label left right => cases side <;> rw [prune_node] <;> rfl

/-- If a node is dropped, there was nothing left of its children. -/
theorem child_dropEmptyLeaf_prune (side : Side) (t : SyntaxTree) :
    (dropEmptyLeaf t.prune).child side = dropEmptyLeaf (t.child side).prune := by
  by_cases hempty : t.prune.isEmptyLeaf = true
  · have hdropped : dropEmptyLeaf t.prune = .absent := if_pos hempty
    have hfree : ¬ t.Occupied := dropEmptyLeaf_prune_eq_absent_iff.1 hdropped
    have hchild : ¬ (t.child side).Occupied := by
      rintro ⟨path, label, hlabel, hcarries⟩
      exact hfree ⟨side :: path, label, hlabel, hcarries⟩
    rw [hdropped, dropEmptyLeaf_prune_eq_absent_iff.2 hchild]
    rfl
  · rw [dropEmptyLeaf, if_neg hempty, child_prune]

/-- Below the root, a path leads in the pruned tree to what is left of the tree to which it
leads before. -/
theorem subtree_prune (side : Side) (path : List Side) (t : SyntaxTree) :
    t.prune.subtree (side :: path) = dropEmptyLeaf (t.subtree (side :: path)).prune := by
  rw [subtree_cons, subtree_cons, child_prune]
  generalize t.child side = u
  induction path generalizing u with
  | nil => rfl
  | cons next path ih => rw [subtree_cons, subtree_cons, child_dropEmptyLeaf_prune, ih]

/-! ## What is kept -/

/-- What is occupied is not dropped. -/
theorem dropEmptyLeaf_prune_of_occupied {t : SyntaxTree} (h : t.Occupied) :
    dropEmptyLeaf t.prune = t.prune := by
  have hkept : dropEmptyLeaf t.prune ≠ .absent := fun habsent =>
    dropEmptyLeaf_prune_eq_absent_iff.1 habsent h
  unfold dropEmptyLeaf at hkept ⊢
  split
  next hempty => exact absurd (if_pos hempty) hkept
  next => rfl

/-- What is left of a tree has the label of the tree at its root. -/
theorem label?_dropEmptyLeaf_prune {t : SyntaxTree} {label : Label} :
    (dropEmptyLeaf t.prune).label? = some label ↔ t.label? = some label ∧ t.Occupied := by
  by_cases hoccupied : t.Occupied
  · rw [dropEmptyLeaf_prune_of_occupied hoccupied, label?_prune]
    exact (and_iff_left hoccupied).symm
  · rw [dropEmptyLeaf_prune_eq_absent_iff.2 hoccupied]
    exact iff_of_false nofun fun h => hoccupied h.2

/-- What was pruned once has nothing left to prune. -/
theorem prune_prune (t : SyntaxTree) : t.prune.prune = t.prune := by
  have hdrop {u : SyntaxTree} (h : u.prune.prune = u.prune) :
      dropEmptyLeaf (dropEmptyLeaf u.prune).prune = dropEmptyLeaf u.prune := by
    by_cases hempty : u.prune.isEmptyLeaf = true
    · have hdropped : dropEmptyLeaf u.prune = .absent := if_pos hempty
      rw [hdropped]
      rfl
    · have hkept : dropEmptyLeaf u.prune = u.prune := if_neg hempty
      rw [hkept, h, hkept]
  induction t with
  | absent => rfl
  | node label left right ihl ihr =>
      rw [prune_node, prune_node, hdrop ihl, hdrop ihr]

/-- Pruning is the plain recursion.  Below the root, a pruned tree has a node with a label
in a place exactly when the tree has it there and something is written on it or on a node
below it.  The root stays, no empty leaf is left below it, and pruning again changes
nothing. -/
theorem pruned_node_iff (t : SyntaxTree) :
    t.prune = t.pruneBottomUp ∧
      (∀ side path label, (t.prune.subtree (side :: path)).label? = some label ↔
        (t.subtree (side :: path)).label? = some label ∧
          (t.subtree (side :: path)).Occupied) ∧
      t.prune.label? = t.label? ∧
      (∀ side path, (t.prune.subtree (side :: path)).isEmptyLeaf = false) ∧
      t.prune.prune = t.prune := by
  refine ⟨prune_eq_pruneBottomUp t, ?_, label?_prune t, ?_, prune_prune t⟩
  · intro side path label
    rw [subtree_prune]
    exact label?_dropEmptyLeaf_prune
  · intro side path
    rw [subtree_prune]
    exact isEmptyLeaf_dropEmptyLeaf _

/-- Empty nodes that hang on each other are dropped together, on whichever sides they
hang. -/
example :
    prune (.node (.plain "ROOT")
        (.node (.plain "") .absent (.node (.plain "") (.leaf (.plain "")) .absent))
        (.node (.plain "") (.leaf (.plain "")) (.leaf (.plain "X")))) =
      .node (.plain "ROOT") .absent (.node (.plain "") .absent (.leaf (.plain "X"))) := by
  decide

end SyntaxTree
end Primer
