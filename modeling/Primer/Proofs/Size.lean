import Mathlib.Algebra.GroupWithZero.Nat
import Primer.Folding

/-!
# The size of expressions

How many operators an expression has, and how deep it is.  Folding takes one operator
off for each operation that it carries out, and nothing else changes the number.

Main definitions:

- `Expr.operators` counts the operators and comparisons of an expression, and
  `Expr.height` the most of them on the way to a leaf.
- `operatorsOf` counts the operators of a program.
- `FoldEvent.isDone` recognizes the operations that folding carried out.

Main results:

- Theorem `height_le_operators`: an expression is no deeper than it has operators.
- Theorem `operators_foldConstants`: each operation that is carried out is one operator
  less.
-/

namespace Primer

namespace Expr

/-- The number of operators and comparisons in an expression. -/
def operators : Expr → Nat
  | .literal _ => 0
  | .named _ => 0
  | .negate operand => operand.operators + 1
  | .binary _ left right => left.operators + right.operators + 1
  | .compare _ left right => left.operators + right.operators + 1
  | .missing => 0

/-- The most operators and comparisons that stand above one leaf. -/
def height : Expr → Nat
  | .literal _ => 0
  | .named _ => 0
  | .negate operand => operand.height + 1
  | .binary _ left right => max left.height right.height + 1
  | .compare _ left right => max left.height right.height + 1
  | .missing => 0

@[simp]
theorem operators_int (n : Int32) : (int n).operators = 0 :=
  rfl

/-- An expression is no deeper than it has operators. -/
theorem height_le_operators (e : Expr) : e.height ≤ e.operators := by
  induction e with
  | literal l => exact Nat.le_refl _
  | named name => exact Nat.le_refl _
  | missing => exact Nat.le_refl _
  | negate operand ih => exact Nat.succ_le_succ ih
  | binary op left right ihl ihr =>
      simp only [height, operators]
      omega
  | compare comparison left right ihl ihr =>
      simp only [height, operators]
      omega

end Expr

/-- The number of operators and comparisons in a statement. -/
def Statement.operators : Statement → Nat
  | .declare _ _ _ => 0
  | .assign _ _ value _ => value.operators
  | .perform _ _ _ => 0

/-- The number of operators and comparisons in a program. -/
def operatorsOf (program : Program) : Nat :=
  (program.map Statement.operators).sum

/-! ## Operations carried out -/

/-- The event records that an operation was carried out. -/
def FoldEvent.isDone : FoldEvent → Bool
  | .folded _ _ _ => true
  | .compared _ _ _ _ _ => true
  | .refused _ => false

namespace FoldedExpr

/-- The number of operations that were carried out. -/
def done (f : FoldedExpr) : Nat :=
  f.events.countP FoldEvent.isDone

@[simp]
theorem done_after (events : List FoldEvent) (f : FoldedExpr) :
    (f.after events).done = events.countP FoldEvent.isDone + f.done :=
  List.countP_append

@[simp]
theorem expr_after (events : List FoldEvent) (f : FoldedExpr) : (f.after events).expr = f.expr :=
  rfl

end FoldedExpr

section

variable (line : Nat)

/-- An operation on two constants is one operator, unless it is carried out. -/
theorem operators_settle {before : Expr} (hbefore : before.operators = 1) (op : BinaryOp)
    (l r : Int32) :
    (settle line before op l r).expr.operators + (settle line before op l r).done = 1 := by
  unfold settle
  cases op.apply l r with
  | ok n => rfl
  | error reason => exact hbefore

/-- Settling a negation carries it out or keeps it. -/
theorem operators_settleNegate (x : Expr) :
    (settleNegate line x).expr.operators + (settleNegate line x).done = x.operators + 1 := by
  unfold settleNegate
  cases hint : x.int? with
  | none => rfl
  | some n =>
      obtain rfl := Expr.int?_eq_some_iff.1 hint
      exact operators_settle line rfl .sub 0 n

theorem operators_settleBinary (op : BinaryOp) (x y : Expr) :
    (settleBinary line op x y).expr.operators + (settleBinary line op x y).done =
      x.operators + y.operators + 1 := by
  unfold settleBinary
  cases hx : x.int? with
  | none => rfl
  | some l =>
      cases hy : y.int? with
      | none => rfl
      | some r =>
          obtain rfl := Expr.int?_eq_some_iff.1 hx
          obtain rfl := Expr.int?_eq_some_iff.1 hy
          exact operators_settle line rfl op l r

theorem operators_settleCompare (comparison : Comparison) (x y : Expr) :
    (settleCompare line comparison x y).expr.operators + (settleCompare line comparison x y).done =
      x.operators + y.operators + 1 := by
  unfold settleCompare
  cases hx : x.int? with
  | none => rfl
  | some l =>
      cases hy : y.int? with
      | none => rfl
      | some r =>
          obtain rfl := Expr.int?_eq_some_iff.1 hx
          obtain rfl := Expr.int?_eq_some_iff.1 hy
          rfl

/-- The walk that does arithmetic takes one operator off for each operation it does. -/
theorem operators_foldArithmetic (e : Expr) :
    (foldArithmetic line e).expr.operators + (foldArithmetic line e).done = e.operators := by
  induction e with
  | literal l => rfl
  | named name => rfl
  | missing => rfl
  | negate operand ih =>
      have hsettle := operators_settleNegate line (foldArithmetic line operand).expr
      simp only [foldArithmetic, Expr.operators, FoldedExpr.expr_after, FoldedExpr.done_after]
      simp only [FoldedExpr.done] at ih hsettle ⊢
      omega
  | binary op left right ihl ihr =>
      have hsettle := operators_settleBinary line op (foldArithmetic line left).expr
        (foldArithmetic line right).expr
      simp only [foldArithmetic, Expr.operators, FoldedExpr.expr_after, FoldedExpr.done_after,
        List.countP_append]
      simp only [FoldedExpr.done] at ihl ihr hsettle ⊢
      omega
  | compare comparison left right ihl ihr =>
      simp only [foldArithmetic, Expr.operators, FoldedExpr.done, List.countP_append] at ihl ihr ⊢
      omega

/-- The walk over comparisons takes one off for each that it decides. -/
theorem operators_foldComparisons (e : Expr) :
    (foldComparisons line e).expr.operators + (foldComparisons line e).done = e.operators := by
  induction e with
  | literal l => rfl
  | named name => rfl
  | missing => rfl
  | negate operand ih =>
      simp only [foldComparisons, Expr.operators, FoldedExpr.done] at ih ⊢
      omega
  | binary op left right ihl ihr =>
      simp only [foldComparisons, Expr.operators, FoldedExpr.done, List.countP_append] at ihl ihr ⊢
      omega
  | compare comparison left right ihl ihr =>
      have hsettle := operators_settleCompare line comparison
        (foldComparisons line left).expr (foldComparisons line right).expr
      simp only [foldComparisons, Expr.operators, FoldedExpr.expr_after, FoldedExpr.done_after,
        List.countP_append]
      simp only [FoldedExpr.done] at ihl ihr hsettle ⊢
      omega

end

/-! ## Programs -/

/-- A walk that accounts for the operators of each expression accounts for those of a
program. -/
theorem operators_walkProgram {visit : Nat → Expr → FoldedExpr}
    (hvisit : ∀ line e, (visit line e).expr.operators + (visit line e).done = e.operators)
    (program : Program) :
    operatorsOf (walkProgram visit program).program +
        (walkProgram visit program).events.countP FoldEvent.isDone =
      operatorsOf program := by
  have hstatement (s : Statement) : (s.walk visit).1.operators +
      (s.walk visit).2.countP FoldEvent.isDone = s.operators := by
    cases s with
    | declare name type line => rfl
    | assign target type value line => exact hvisit line value
    | perform command argument line => rfl
  induction program with
  | nil => rfl
  | cons s program ih =>
      have hs := hstatement s
      simp only [walkProgram, operatorsOf, List.map_cons, List.flatMap_cons, List.sum_cons,
        List.countP_append] at ih ⊢
      omega

/-- Each operation that folding carries out is one operator less. -/
theorem operators_foldConstants (program : Program) :
    operatorsOf (foldConstants program).program +
        (foldConstants program).events.countP FoldEvent.isDone =
      operatorsOf program := by
  have harithmetic : operatorsOf (arithmeticWalk program).program +
      (arithmeticWalk program).events.countP FoldEvent.isDone = operatorsOf program :=
    operators_walkProgram operators_foldArithmetic program
  have hcomparisons : operatorsOf (comparisonWalk (arithmeticWalk program).program).program +
      (comparisonWalk (arithmeticWalk program).program).events.countP FoldEvent.isDone =
        operatorsOf (arithmeticWalk program).program :=
    operators_walkProgram operators_foldComparisons _
  simp only [foldConstants, List.countP_append]
  omega

end Primer
