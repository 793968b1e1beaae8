import Mathlib.Data.List.Forall2
import Primer.Proofs.Residues
import Primer.Proofs.Size
import Primer.Proofs.Usage.Yield

/-!
# Folding shrinks expressions and touches nothing else

Where a walk puts a constant, it stood on constants alone: all other leaves of an expression
stay, in their order, and the tree above them does not grow.  Of a program only assigned
expressions change, each on its own.

Main definitions:

- `Expr.openLeaves` lists the leaves of an expression that are no integer constants.
- `Expr.Shrinks` says that an expression keeps these leaves and does not grow.
- `Statement.Shrinks` says that a statement changes in its assigned expression only, which
  shrinks.

Main results:

- Theorems `foldArithmetic_shrinks` and `foldComparisons_shrinks`: either walk shrinks an
  expression.
- Theorem `program_foldConstants_append`: two programs, one behind the other, are folded
  each on its own.
- Theorem `folding_shrinks`: what folding does to a program and leaves alone in it.
-/

namespace Primer

namespace Expr

/-- The names, texts and missing operands of an expression, from left to right. -/
def openLeaves (e : Expr) : List Expr :=
  e.leaves.filter fun leaf => leaf.int?.isNone

/-- The number of nodes of an expression. -/
def nodes (e : Expr) : Nat :=
  e.postorder.length

section

variable (op : BinaryOp) (comparison : Comparison) (operand left right : Expr)

@[simp]
theorem openLeaves_int (n : Int32) : (int n).openLeaves = [] :=
  rfl

@[simp]
theorem openLeaves_negate : (negate operand).openLeaves = operand.openLeaves :=
  rfl

@[simp]
theorem openLeaves_binary :
    (binary op left right).openLeaves = left.openLeaves ++ right.openLeaves :=
  List.filter_append ..

@[simp]
theorem openLeaves_compare :
    (compare comparison left right).openLeaves = left.openLeaves ++ right.openLeaves :=
  List.filter_append ..

@[simp]
theorem nodes_negate : (negate operand).nodes = operand.nodes + 1 :=
  List.length_append

@[simp]
theorem nodes_binary : (binary op left right).nodes = left.nodes + right.nodes + 1 := by
  simp [nodes, postorder, Nat.add_assoc]

@[simp]
theorem nodes_compare :
    (compare comparison left right).nodes = left.nodes + right.nodes + 1 := by
  simp [nodes, postorder, Nat.add_assoc]

end

/-- There is at least the root. -/
theorem nodes_pos (e : Expr) : 0 < e.nodes :=
  List.length_pos_of_mem (List.mem_of_getLast? e.getLast?_postorder)

/-! ## Shrinking -/

/-- The second expression has the open leaves of the first, in order, and is no larger and no
higher. -/
structure Shrinks (e e' : Expr) : Prop where
  openLeaves_eq : e'.openLeaves = e.openLeaves
  nodes_le : e'.nodes ≤ e.nodes
  height_le : e'.height ≤ e.height

namespace Shrinks

variable {e e' e'' left left' right right' : Expr}

theorem refl (e : Expr) : e.Shrinks e :=
  ⟨rfl, Nat.le_refl _, Nat.le_refl _⟩

theorem trans (h : e.Shrinks e') (h' : e'.Shrinks e'') : e.Shrinks e'' :=
  ⟨h'.openLeaves_eq.trans h.openLeaves_eq, Nat.le_trans h'.nodes_le h.nodes_le,
    Nat.le_trans h'.height_le h.height_le⟩

/-- An expression without open leaves may become a constant. -/
theorem int (h : e.openLeaves = []) (n : Int32) : e.Shrinks (.int n) :=
  ⟨h.symm, e.nodes_pos, Nat.zero_le _⟩

/-- A negation shrinks with its operand. -/
theorem negate (h : e.Shrinks e') : (Expr.negate e).Shrinks (.negate e') := by
  refine ⟨h.openLeaves_eq, ?_, Nat.succ_le_succ h.height_le⟩
  rw [nodes_negate, nodes_negate]
  exact Nat.succ_le_succ h.nodes_le

/-- A node with two operands shrinks with its operands. -/
theorem joined {join : Expr → Expr → Expr}
    (hopen : ∀ x y, (join x y).openLeaves = x.openLeaves ++ y.openLeaves)
    (hnodes : ∀ x y, (join x y).nodes = x.nodes + y.nodes + 1)
    (hheight : ∀ x y, (join x y).height = max x.height y.height + 1)
    (hleft : left.Shrinks left') (hright : right.Shrinks right') :
    (join left right).Shrinks (join left' right') where
  openLeaves_eq := by rw [hopen, hopen, hleft.openLeaves_eq, hright.openLeaves_eq]
  nodes_le := by
    rw [hnodes, hnodes]
    exact Nat.succ_le_succ (Nat.add_le_add hleft.nodes_le hright.nodes_le)
  height_le := by
    have hl := hleft.height_le
    have hr := hright.height_le
    rw [hheight, hheight]
    omega

theorem binary (hleft : left.Shrinks left') (hright : right.Shrinks right') (op : BinaryOp) :
    (Expr.binary op left right).Shrinks (.binary op left' right') :=
  joined (openLeaves_binary op) (nodes_binary op) (fun _ _ => rfl) hleft hright

theorem compare (hleft : left.Shrinks left') (hright : right.Shrinks right')
    (comparison : Comparison) :
    (Expr.compare comparison left right).Shrinks (.compare comparison left' right') :=
  joined (openLeaves_compare comparison) (nodes_compare comparison) (fun _ _ => rfl) hleft hright

end Shrinks
end Expr

/-! ## Walks -/

section

variable (line : Nat)

/-- Settling a negation shrinks it, or leaves it. -/
theorem settleNegate_shrinks (x : Expr) : (Expr.negate x).Shrinks (settleNegate line x).expr := by
  rcases settleNegate_cases line x with hkept | ⟨m, n, rfl, hn, -⟩
  · rw [hkept]
    exact .refl _
  · rw [hn]
    exact .int rfl n

theorem settleBinary_shrinks (op : BinaryOp) (x y : Expr) :
    (Expr.binary op x y).Shrinks (settleBinary line op x y).expr := by
  rcases settleBinary_cases line op x y with hkept | ⟨l, r, n, rfl, rfl, hn, -⟩
  · rw [hkept]
    exact .refl _
  · rw [hn]
    exact .int rfl n

/-- Deciding a comparison shrinks it, or leaves it. -/
theorem settleCompare_shrinks (comparison : Comparison) (x y : Expr) :
    (Expr.compare comparison x y).Shrinks (settleCompare line comparison x y).expr := by
  rcases settleCompare_cases line comparison x y with hkept | ⟨l, r, n, rfl, rfl, hn⟩
  · rw [hkept]
    exact .refl _
  · rw [hn]
    exact .int rfl n

/-- The walk that does arithmetic shrinks an expression. -/
theorem foldArithmetic_shrinks (e : Expr) : e.Shrinks (foldArithmetic line e).expr := by
  induction e with
  | literal l => exact .refl _
  | named name => exact .refl _
  | missing => exact .refl _
  | negate operand ih => exact ih.negate.trans (settleNegate_shrinks line _)
  | binary op left right ihl ihr =>
      exact (ihl.binary ihr op).trans (settleBinary_shrinks line op _ _)
  | compare comparison left right ihl ihr => exact ihl.compare ihr comparison

/-- The walk over comparisons shrinks an expression. -/
theorem foldComparisons_shrinks (e : Expr) : e.Shrinks (foldComparisons line e).expr := by
  induction e with
  | literal l => exact .refl _
  | named name => exact .refl _
  | missing => exact .refl _
  | negate operand ih => exact ih.negate
  | binary op left right ihl ihr => exact ihl.binary ihr op
  | compare comparison left right ihl ihr =>
      exact (ihl.compare ihr comparison).trans (settleCompare_shrinks line comparison _ _)

end

/-! ## Programs -/

/-- The second statement is the first one, but for an assigned expression, which shrinks. -/
inductive Statement.Shrinks : Statement → Statement → Prop where
  | declare (name : String) (type : DataType) (line : Nat) :
      Shrinks (.declare name type line) (.declare name type line)
  | assign (target : String) (type : DataType) {value value' : Expr} (line : Nat)
      (h : value.Shrinks value') :
      Shrinks (.assign target type value line) (.assign target type value' line)
  | perform (command : Command) (argument : Argument) (line : Nat) :
      Shrinks (.perform command argument line) (.perform command argument line)

/-- Folding shrinks a statement, or leaves it. -/
theorem Statement.folded_shrinks (s : Statement) : s.Shrinks s.folded := by
  cases s with
  | declare name type line => exact .declare name type line
  | assign target type value line =>
      exact .assign target type line
        ((foldArithmetic_shrinks line value).trans (foldComparisons_shrinks line _))
  | perform command argument line => exact .perform command argument line

/-- Two programs, one behind the other, are folded each on its own. -/
theorem program_foldConstants_append (p q : Program) :
    (foldConstants (p ++ q)).program = (foldConstants p).program ++ (foldConstants q).program := by
  simp only [foldConstants, arithmeticWalk_append, comparisonWalk_append]

/-- The faults of two programs are those of the first and then those of the second. -/
theorem faults_foldConstants_append (p q : Program) :
    (foldConstants (p ++ q)).faults = (foldConstants p).faults ++ (foldConstants q).faults := by
  rw [faults_foldConstants, faults_foldConstants, faults_foldConstants, List.flatMap_append]

/-- Folding leaves the statements of a program in their places and changes nothing in them
but assigned expressions.  An expression keeps its names, texts and missing operands, from
left to right, and gets neither more nodes nor a greater height.  No statement matters to
what becomes of another one, nor to the faults in it. -/
theorem folding_shrinks (p q : Program) :
    List.Forall₂ Statement.Shrinks p (foldConstants p).program ∧
      (foldConstants (p ++ q)).program =
        (foldConstants p).program ++ (foldConstants q).program ∧
      (foldConstants (p ++ q)).faults = (foldConstants p).faults ++ (foldConstants q).faults := by
  refine ⟨?_, program_foldConstants_append p q, faults_foldConstants_append p q⟩
  rw [program_foldConstants]
  exact List.forall₂_map_right_iff.2 (List.forall₂_same.2 fun s _ => s.folded_shrinks)

end Primer
