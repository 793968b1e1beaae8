import Primer.Folding

/-!
# What folding leaves alone

Folding keeps an expression and finds no fault in it exactly when no operator of the
expression has only constants as operands.  A fault names the line of the statement
it was found in.

Main definitions:

- `Expr.calculates` says that some operator of an expression has only constants as
  operands.
- `FoldedExpr.Keeps` says that a walk left an expression alone.
- `Statement.faults` are the faults found in one statement.

Main results:

- Theorem `foldArithmetic_keeps_iff`: the walk that does arithmetic leaves exactly the
  expressions alone that calculate nothing.
- Theorem `line_of_mem_faults`: a fault names the line of its statement.
- Theorem `faults_foldConstants`: the faults of a program are those of its statements.
- Theorem `getElem?_program_foldConstants`: statements are folded each in its place.
-/

namespace Primer

/-- Some operator of the expression has only constants as operands. -/
def Expr.calculates : Expr → Bool
  | .literal _ => false
  | .named _ => false
  | .missing => false
  | .negate operand => operand.int?.isSome || operand.calculates
  | .binary _ left right =>
      (left.int?.isSome && right.int?.isSome) || left.calculates || right.calculates
  | .compare _ left right => left.calculates || right.calculates

namespace FoldedExpr

/-- The faults that were recorded. -/
def faults (f : FoldedExpr) : List ArithmeticFault :=
  f.events.filterMap FoldEvent.fault?

/-- The expression is as it was, and there was no fault in it. -/
def Keeps (f : FoldedExpr) (e : Expr) : Prop :=
  f.expr = e ∧ f.faults = []

@[simp]
theorem keep_keeps_iff {e e' : Expr} : (keep e).Keeps e' ↔ e = e' := by
  simp [keep, Keeps, faults]

@[simp]
theorem faults_after (events : List FoldEvent) (f : FoldedExpr) :
    (f.after events).faults = events.filterMap FoldEvent.fault? ++ f.faults :=
  List.filterMap_append

/-- An expression is kept behind events exactly if there is no fault among them. -/
theorem after_keeps_iff {events : List FoldEvent} {f : FoldedExpr} {e : Expr} :
    (f.after events).Keeps e ↔ events.filterMap FoldEvent.fault? = [] ∧ f.Keeps e := by
  unfold Keeps
  rw [faults_after, List.append_eq_nil_iff]
  exact and_left_comm

end FoldedExpr

/-! ## One operation -/

/-- An operation on constants becomes a constant or a fault. -/
theorem not_settle_keeps {line : Nat} {before e : Expr} {op : BinaryOp} {l r : Int32}
    (he : e.int? = none) : ¬ (settle line before op l r).Keeps e := by
  unfold settle
  rintro ⟨hexpr, hfaults⟩
  cases happly : op.apply l r with
  | ok n =>
      rw [happly] at hexpr
      simp [← hexpr] at he
  | error reason => simp [happly, FoldedExpr.faults, FoldEvent.fault?] at hfaults

/-- A negation is kept exactly if its operand is no integer. -/
theorem settleNegate_keeps_iff {line : Nat} {operand before : Expr} :
    (settleNegate line operand).Keeps (.negate before) ↔
      operand = before ∧ operand.int?.isSome = false := by
  unfold settleNegate
  cases hint : operand.int? with
  | some n => simpa using not_settle_keeps rfl
  | none => simp

/-- An operator is kept exactly if its operands are not both integers. -/
theorem settleBinary_keeps_iff {line : Nat} {op : BinaryOp} {left right l r : Expr} :
    (settleBinary line op left right).Keeps (.binary op l r) ↔
      left = l ∧ right = r ∧ (left.int?.isSome && right.int?.isSome) = false := by
  unfold settleBinary
  cases hleft : left.int? with
  | none => simp
  | some m =>
      cases hright : right.int? with
      | none => simp
      | some n => simpa using not_settle_keeps rfl

/-! ## Expressions -/

/-- The walk that does arithmetic leaves an expression alone exactly when no operator of
it has only constants as operands. -/
theorem foldArithmetic_keeps_iff (line : Nat) (e : Expr) :
    (foldArithmetic line e).Keeps e ↔ e.calculates = false := by
  induction e with
  | literal l => simp [foldArithmetic, Expr.calculates]
  | named name => simp [foldArithmetic, Expr.calculates]
  | missing => simp [foldArithmetic, Expr.calculates]
  | negate operand ih =>
      rw [foldArithmetic, FoldedExpr.after_keeps_iff, settleNegate_keeps_iff, Expr.calculates,
        Bool.or_eq_false_iff, ← ih]
      constructor
      · rintro ⟨hfaults, hexpr, hint⟩
        rw [hexpr] at hint
        exact ⟨hint, hexpr, hfaults⟩
      · rintro ⟨hint, hexpr, hfaults⟩
        rw [hexpr]
        exact ⟨hfaults, rfl, hint⟩
  | binary op left right ihl ihr =>
      rw [foldArithmetic, FoldedExpr.after_keeps_iff, settleBinary_keeps_iff, Expr.calculates,
        Bool.or_eq_false_iff, Bool.or_eq_false_iff, ← ihl, ← ihr, List.filterMap_append,
        List.append_eq_nil_iff]
      -- Operands that were kept are constants after the walk exactly if they were before.
      constructor
      · rintro ⟨⟨hleft, hright⟩, hl, hr, hint⟩
        rw [hl, hr] at hint
        exact ⟨⟨hint, hl, hleft⟩, hr, hright⟩
      · rintro ⟨⟨hint, hl, hleft⟩, hr, hright⟩
        rw [hl, hr]
        exact ⟨⟨hleft, hright⟩, rfl, rfl, hint⟩
  | compare comparison left right ihl ihr =>
      rw [Expr.calculates, Bool.or_eq_false_iff, ← ihl, ← ihr]
      simp only [foldArithmetic, FoldedExpr.Keeps, FoldedExpr.faults, List.filterMap_append,
        List.append_eq_nil_iff, Expr.compare.injEq, true_and]
      exact and_and_and_comm

/-- The fault of an operation names the line that is folded. -/
theorem line_of_mem_faults_settle {line : Nat} {before : Expr} {op : BinaryOp} {l r : Int32}
    {fault : ArithmeticFault} (h : fault ∈ (settle line before op l r).faults) :
    fault.line = line := by
  unfold settle FoldedExpr.faults at h
  cases happly : op.apply l r with
  | ok n => simp [happly, FoldEvent.fault?] at h
  | error reason =>
      simp only [happly, List.filterMap_cons, FoldEvent.fault?, List.filterMap_nil,
        List.mem_singleton] at h
      subst h
      cases reason <;> rfl

/-- A fault names the line of its expression. -/
theorem line_of_mem_faults_foldArithmetic {line : Nat} {e : Expr} {fault : ArithmeticFault}
    (h : fault ∈ (foldArithmetic line e).faults) : fault.line = line := by
  induction e with
  | literal l => cases h
  | named name => cases h
  | missing => cases h
  | negate operand ih =>
      rw [foldArithmetic, FoldedExpr.faults_after, List.mem_append] at h
      rcases h with h | h
      · exact ih h
      · unfold settleNegate at h
        split at h
        · exact line_of_mem_faults_settle h
        · cases h
  | binary op left right ihl ihr =>
      rw [foldArithmetic, FoldedExpr.faults_after, List.filterMap_append, List.mem_append,
        List.mem_append] at h
      rcases h with (h | h) | h
      · exact ihl h
      · exact ihr h
      · unfold settleBinary at h
        split at h
        · exact line_of_mem_faults_settle h
        · cases h
  | compare comparison left right ihl ihr =>
      rw [foldArithmetic, FoldedExpr.faults, List.filterMap_append, List.mem_append] at h
      rcases h with h | h
      · exact ihl h
      · exact ihr h

/-! ## Programs -/

/-- The faults that folding finds in one statement. -/
def Statement.faults (s : Statement) : List ArithmeticFault :=
  (s.walk foldArithmetic).2.filterMap FoldEvent.fault?

/-- A fault names the line of its statement. -/
theorem line_of_mem_faults {s : Statement} {fault : ArithmeticFault} (h : fault ∈ s.faults) :
    fault.line = s.line := by
  cases s with
  | declare name type line => cases h
  | assign target type value line => exact line_of_mem_faults_foldArithmetic h
  | perform command argument line => cases h

/-- Deciding the comparisons reports no fault. -/
theorem faults_comparisonWalk (program : Program) : (comparisonWalk program).faults = [] := by
  refine List.filterMap_eq_nil_iff.2 fun event h => ?_
  rcases List.mem_flatMap.1 h with ⟨_, hwalked, hevent⟩
  rcases List.mem_map.1 hwalked with ⟨s, -, rfl⟩
  cases s with
  | declare name type line => cases hevent
  | assign target type value line => exact fault?_eq_none_of_mem_foldComparisons hevent
  | perform command argument line => cases hevent

/-- The faults of a program are those of its statements, in order. -/
theorem faults_foldConstants (program : Program) :
    (foldConstants program).faults = program.flatMap Statement.faults := by
  have hcomparisons := faults_comparisonWalk (arithmeticWalk program).program
  unfold Folding.faults at hcomparisons
  simp only [Folding.faults, foldConstants, List.filterMap_append, hcomparisons, List.append_nil]
  simp only [arithmeticWalk, walkProgram, List.filterMap_flatMap, List.flatMap_map]
  rfl

/-- Both walks over one statement. -/
def Statement.folded (s : Statement) : Statement :=
  ((s.walk foldArithmetic).1.walk foldComparisons).1

/-- Every statement is folded in its place. -/
theorem getElem?_program_foldConstants (program : Program) (i : Nat) :
    (foldConstants program).program[i]? = program[i]?.map Statement.folded := by
  simp only [foldConstants, comparisonWalk, arithmeticWalk, walkProgram, List.getElem?_map,
    Option.map_map]
  rfl

end Primer
