import Primer.Diagnostic

/-!
# Folding constants

Operations on integer constants are carried out in advance.  A first walk over
the whole program does arithmetic, a second one does comparisons.  Both go from
the operands to the operator, so an operation whose operands fold is met with
constant operands and folds in the same walk.  An operation without result stays
as it is and is recorded.

Main definitions:

- `FoldEvent` is what a walk records, and `FoldEvent.fault?` picks the faults.
- `foldArithmetic` and `foldComparisons` walk over one expression.
- `foldConstants` does both walks over a program.

Main results:

- Theorems `arithmeticWalk_append` and `comparisonWalk_append`: a walk treats each
  statement on its own.
- Theorem `fault?_eq_none_of_mem_foldComparisons`: only arithmetic has faults.
-/

namespace Primer

/-- What a walk over an expression records. -/
inductive FoldEvent where
  /-- An arithmetic operation, its operands already folded, became a constant. -/
  | folded (line : Nat) (before : Expr) (value : Int32)
  /-- A comparison of two constants was decided. -/
  | compared (line : Nat) (left : Int32) (comparison : Comparison) (right : Int32) (holds : Bool)
  /-- An arithmetic operation on two constants has no result. -/
  | refused (fault : ArithmeticFault)
  deriving DecidableEq, Repr, Inhabited

/-- The fault that an event records. -/
def FoldEvent.fault? : FoldEvent → Option ArithmeticFault
  | .refused fault => some fault
  | _ => none

/-- An expression after a walk, and what the walk recorded. -/
structure FoldedExpr where
  expr : Expr
  events : List FoldEvent
  deriving DecidableEq, Repr, Inhabited

namespace FoldedExpr

/-- An expression that stays as it is. -/
def keep (e : Expr) : FoldedExpr :=
  ⟨e, []⟩

/-- Put earlier events in front. -/
def after (events : List FoldEvent) (f : FoldedExpr) : FoldedExpr :=
  { f with events := events ++ f.events }

end FoldedExpr

/-! ## Arithmetic -/

/-- Carry out an operation on two constants that is written as `before`. -/
def settle (line : Nat) (before : Expr) (op : BinaryOp) (left right : Int32) : FoldedExpr :=
  match op.apply left right with
  | .ok n => ⟨.int n, [.folded line before n]⟩
  | .error reason => ⟨before, [.refused (.ofError line op left right reason)]⟩

/-- Negate an operand: a constant is subtracted from zero. -/
def settleNegate (line : Nat) (operand : Expr) : FoldedExpr :=
  match operand.int? with
  | some n => settle line (.negate operand) .sub 0 n
  | none => .keep (.negate operand)

/-- Join two operands by an operator, carrying it out on two constants. -/
def settleBinary (line : Nat) (op : BinaryOp) (left right : Expr) : FoldedExpr :=
  match left.int?, right.int? with
  | some l, some r => settle line (.binary op left right) op l r
  | _, _ => .keep (.binary op left right)

/-- Carry out all arithmetic on constants, operands first. -/
def foldArithmetic (line : Nat) : Expr → FoldedExpr
  | .literal l => .keep (.literal l)
  | .named name => .keep (.named name)
  | .missing => .keep .missing
  | .negate operand =>
      let inner := foldArithmetic line operand
      (settleNegate line inner.expr).after inner.events
  | .binary op left right =>
      let l := foldArithmetic line left
      let r := foldArithmetic line right
      (settleBinary line op l.expr r.expr).after (l.events ++ r.events)
  | .compare comparison left right =>
      let l := foldArithmetic line left
      let r := foldArithmetic line right
      ⟨.compare comparison l.expr r.expr, l.events ++ r.events⟩

/-! ## Comparisons -/

/-- Compare two operands, deciding the comparison of two constants. -/
def settleCompare (line : Nat) (comparison : Comparison) (left right : Expr) : FoldedExpr :=
  match left.int?, right.int? with
  | some l, some r =>
      ⟨.int (truthWord (comparison.holds l r)),
        [.compared line l comparison r (comparison.holds l r)]⟩
  | _, _ => .keep (.compare comparison left right)

/-- Decide all comparisons of constants, operands first. -/
def foldComparisons (line : Nat) : Expr → FoldedExpr
  | .literal l => .keep (.literal l)
  | .named name => .keep (.named name)
  | .missing => .keep .missing
  | .negate operand =>
      let inner := foldComparisons line operand
      ⟨.negate inner.expr, inner.events⟩
  | .binary op left right =>
      let l := foldComparisons line left
      let r := foldComparisons line right
      ⟨.binary op l.expr r.expr, l.events ++ r.events⟩
  | .compare comparison left right =>
      let l := foldComparisons line left
      let r := foldComparisons line right
      (settleCompare line comparison l.expr r.expr).after (l.events ++ r.events)

/-! ## Programs -/

/-- A program after folding, and what was recorded. -/
structure Folding where
  program : Program
  events : List FoldEvent
  deriving DecidableEq, Repr, Inhabited

/-- The operations without result, in the order in which they were met. -/
def Folding.faults (f : Folding) : List ArithmeticFault :=
  f.events.filterMap FoldEvent.fault?

/-- Walk over the expression of a statement that has one. -/
def Statement.walk (visit : Nat → Expr → FoldedExpr) : Statement → Statement × List FoldEvent
  | .assign target type value line =>
      (.assign target type (visit line value).expr line, (visit line value).events)
  | s => (s, [])

/-- Walk over the expressions of a program. -/
def walkProgram (visit : Nat → Expr → FoldedExpr) (program : Program) : Folding :=
  let walked := program.map (Statement.walk visit)
  ⟨walked.map Prod.fst, walked.flatMap Prod.snd⟩

/-- The walk over a program that does arithmetic. -/
def arithmeticWalk (program : Program) : Folding :=
  walkProgram foldArithmetic program

/-- The walk over a program that decides comparisons. -/
def comparisonWalk (program : Program) : Folding :=
  walkProgram foldComparisons program

/-- Fold the constants of a program: arithmetic first, then comparisons. -/
def foldConstants (program : Program) : Folding :=
  let arithmetic := arithmeticWalk program
  let comparisons := comparisonWalk arithmetic.program
  ⟨comparisons.program, arithmetic.events ++ comparisons.events⟩

/-! ## Elementary facts -/

/-- A walk over two programs, one behind the other, joins the two walks. -/
theorem walkProgram_append (visit : Nat → Expr → FoldedExpr) (p q : Program) :
    walkProgram visit (p ++ q) =
      ⟨(walkProgram visit p).program ++ (walkProgram visit q).program,
        (walkProgram visit p).events ++ (walkProgram visit q).events⟩ := by
  simp [walkProgram]

/-- The arithmetic walk treats each statement on its own. -/
theorem arithmeticWalk_append (p q : Program) :
    arithmeticWalk (p ++ q) =
      ⟨(arithmeticWalk p).program ++ (arithmeticWalk q).program,
        (arithmeticWalk p).events ++ (arithmeticWalk q).events⟩ :=
  walkProgram_append foldArithmetic p q

/-- The walk over comparisons treats each statement on its own. -/
theorem comparisonWalk_append (p q : Program) :
    comparisonWalk (p ++ q) =
      ⟨(comparisonWalk p).program ++ (comparisonWalk q).program,
        (comparisonWalk p).events ++ (comparisonWalk q).events⟩ :=
  walkProgram_append foldComparisons p q

/-- A decided comparison reports no fault. -/
theorem fault?_eq_none_of_mem_settleCompare {line : Nat} {comparison : Comparison}
    {left right : Expr} {event : FoldEvent}
    (h : event ∈ (settleCompare line comparison left right).events) : event.fault? = none := by
  unfold settleCompare at h
  split at h
  · cases List.mem_singleton.1 h
    rfl
  · cases h

/-- Only arithmetic has faults. -/
theorem fault?_eq_none_of_mem_foldComparisons {line : Nat} {e : Expr} {event : FoldEvent}
    (h : event ∈ (foldComparisons line e).events) : event.fault? = none := by
  induction e with
  | literal l => cases h
  | named name => cases h
  | missing => cases h
  | negate operand ih => exact ih h
  | binary op left right ihl ihr =>
      rcases List.mem_append.1 h with h | h
      · exact ihl h
      · exact ihr h
  | compare comparison left right ihl ihr =>
      rcases List.mem_append.1 h with h | h
      · rcases List.mem_append.1 h with h | h
        · exact ihl h
        · exact ihr h
      · exact fault?_eq_none_of_mem_settleCompare h

end Primer
