import Primer.Folding

/-!
# Values of expressions

What an expression comes to when values are given to the names in it, and that
folding constants leaves this as it is.  Arithmetic is carried out on exact integers
and fails if the result leaves the range of a word; operands are evaluated from left
to right, and the first failure is the outcome.

Main definitions:

- `Failure` lists what can go wrong, with the operands it went wrong on.
- `calculate` is checked arithmetic, written operator by operator.
- `Expr.evaluate` evaluates an expression in an environment.
- `Statement.outcome?` is what the expression of an assignment comes to.

Main results:

- Theorem `calculate_eq_apply`: checked arithmetic is what the operators do to words.
- Theorems `evaluate_foldArithmetic` and `evaluate_foldComparisons`: neither walk
  changes the value of an expression, or its first failure.
- Theorem `outcomes_foldConstants`: folding changes no outcome of a program.
-/

namespace Primer

/-! ## The evaluator -/

/-- Why an expression has no value. -/
inductive Failure where
  | unbound (name : String)
  | missing
  | divisionByZero (left : Int32)
  | overflow (op : BinaryOp) (left right : Int32)
  | negatedText (text : String)
  | mismatched (op : BinaryOp) (left right : Literal)
  | incomparable (comparison : Comparison) (left right : Literal)
  deriving DecidableEq, Repr

/-- The values of the names. -/
abbrev Environment := String → Option Literal

/-- An exact result that lies in the range of a word is the value. -/
def inRange (op : BinaryOp) (l r : Int32) (exact : Int) : Except Failure Literal :=
  if -2147483648 ≤ exact ∧ exact ≤ 2147483647 then .ok (.int (Int32.ofInt exact))
  else .error (.overflow op l r)

/-- Checked arithmetic.  A quotient is truncated toward zero. -/
def calculate (op : BinaryOp) (l r : Int32) : Except Failure Literal :=
  match op with
  | .add => inRange .add l r (l.toInt + r.toInt)
  | .sub => inRange .sub l r (l.toInt - r.toInt)
  | .mul => inRange .mul l r (l.toInt * r.toInt)
  | .div => if r = 0 then .error (.divisionByZero l) else inRange .div l r (l.toInt.tdiv r.toInt)

/-- The value of a negated operand: a number is subtracted from zero. -/
def negated : Literal → Except Failure Literal
  | .int n => calculate .sub 0 n
  | .text s => .error (.negatedText s)

/-- The value of two operands with an operator between them. -/
def combined (op : BinaryOp) : Literal → Literal → Except Failure Literal
  | .int l, .int r => calculate op l r
  | .text l, .text r =>
      if op = .add then .ok (.text (l ++ r)) else .error (.mismatched op (.text l) (.text r))
  | l, r => .error (.mismatched op l r)

/-- The relation between integers that a comparison asks about. -/
def Comparison.Relates : Comparison → Int → Int → Prop
  | .equal, l, r => l = r
  | .notEqual, l, r => l ≠ r
  | .lessEqual, l, r => l ≤ r
  | .greaterEqual, l, r => r ≤ l

instance (comparison : Comparison) (l r : Int) : Decidable (comparison.Relates l r) :=
  match comparison with
  | .equal => inferInstanceAs (Decidable (l = r))
  | .notEqual => inferInstanceAs (Decidable (l ≠ r))
  | .lessEqual => inferInstanceAs (Decidable (l ≤ r))
  | .greaterEqual => inferInstanceAs (Decidable (r ≤ l))

/-- The value of a comparison: one if it holds between two numbers, zero if not. -/
def compared (comparison : Comparison) : Literal → Literal → Except Failure Literal
  | .int l, .int r => .ok (.int (if comparison.Relates l.toInt r.toInt then 1 else 0))
  | l, r => .error (.incomparable comparison l r)

/-- Evaluate an expression. -/
def Expr.evaluate (env : Environment) : Expr → Except Failure Literal
  | .literal l => .ok l
  | .named name =>
      match env name with
      | some l => .ok l
      | none => .error (.unbound name)
  | .negate operand => do
      let l ← operand.evaluate env
      negated l
  | .binary op left right => do
      let l ← left.evaluate env
      let r ← right.evaluate env
      combined op l r
  | .compare comparison left right => do
      let l ← left.evaluate env
      let r ← right.evaluate env
      compared comparison l r
  | .missing => .error .missing

/-- What the expression of an assignment comes to. -/
def Statement.outcome? (env : Environment) : Statement → Option (Except Failure Literal)
  | .assign _ _ value _ => some (value.evaluate env)
  | _ => none

/-! ## Arithmetic -/

/-- The failure that an operation on words is refused for. -/
def Failure.ofError (op : BinaryOp) (l r : Int32) : ArithmeticError → Failure
  | .divisionByZero => .divisionByZero l
  | .overflow => .overflow op l r

/-- The value or failure that an operation on words gives. -/
def ofApply (op : BinaryOp) (l r : Int32) : Except ArithmeticError Int32 → Except Failure Literal
  | .ok w => .ok (.int w)
  | .error reason => .error (.ofError op l r reason)

/-- An exact result is checked as the word operation checks it. -/
theorem inRange_eq_ofApply {op : BinaryOp} {l r : Int32} {exact : Int}
    (h : op.result? l.toInt r.toInt = some exact) :
    inRange op l r exact = ofApply op l r (op.apply l r) := by
  unfold inRange BinaryOp.apply Numeral.word? Numeral.Fits
  rw [h]
  by_cases hfits : -2147483648 ≤ exact ∧ exact ≤ 2147483647
  · simp [hfits, ofApply]
  · simp [hfits, ofApply, Failure.ofError]

/-- Checked arithmetic is what the operators do to words. -/
theorem calculate_eq_apply (op : BinaryOp) (l r : Int32) :
    calculate op l r = ofApply op l r (op.apply l r) := by
  cases op with
  | add => exact inRange_eq_ofApply rfl
  | sub => exact inRange_eq_ofApply rfl
  | mul => exact inRange_eq_ofApply rfl
  | div =>
      by_cases hzero : r = 0
      · subst hzero
        have hrefused : BinaryOp.div.apply l 0 = .error .divisionByZero :=
          BinaryOp.apply_eq_divisionByZero_iff.2 ⟨rfl, rfl⟩
        simp [calculate, hrefused, ofApply, Failure.ofError]
      · have hr : r.toInt ≠ 0 := fun h => hzero (Int32.toInt_inj.1 h)
        simp only [calculate, if_neg hzero]
        exact inRange_eq_ofApply (by simp [BinaryOp.result?, hr])

/-- What an operation is settled to has the value that it calculates. -/
theorem evaluate_settle (env : Environment) (line : Nat) {before : Expr} {op : BinaryOp}
    {l r : Int32} (h : before.evaluate env = calculate op l r) :
    (settle line before op l r).expr.evaluate env = before.evaluate env := by
  unfold settle
  rw [calculate_eq_apply] at h
  cases happly : op.apply l r with
  | ok n => simp [h, happly, ofApply, Expr.int, Expr.evaluate]
  | error reason => rfl

/-- Settling a negation keeps its value, or its failure. -/
theorem evaluate_settleNegate (env : Environment) (line : Nat) (operand : Expr) :
    (settleNegate line operand).expr.evaluate env = (Expr.negate operand).evaluate env := by
  unfold settleNegate
  cases hint : operand.int? with
  | none => rfl
  | some n =>
      have hconstant : operand = .int n := Expr.int?_eq_some_iff.1 hint
      subst hconstant
      exact evaluate_settle env line rfl

theorem evaluate_settleBinary (env : Environment) (line : Nat) (op : BinaryOp) (left right : Expr) :
    (settleBinary line op left right).expr.evaluate env =
      (Expr.binary op left right).evaluate env := by
  unfold settleBinary
  split
  next l r hl hr =>
    have hleft : left = .int l := Expr.int?_eq_some_iff.1 hl
    have hright : right = .int r := Expr.int?_eq_some_iff.1 hr
    subst hleft hright
    exact evaluate_settle env line rfl
  next => rfl

/-- The arithmetic walk keeps the value of an expression, or its first failure. -/
theorem evaluate_foldArithmetic (env : Environment) (line : Nat) (e : Expr) :
    (foldArithmetic line e).expr.evaluate env = e.evaluate env := by
  induction e with
  | literal l => rfl
  | named name => rfl
  | missing => rfl
  | negate operand ih =>
      calc
        (foldArithmetic line (.negate operand)).expr.evaluate env
            = (Expr.negate (foldArithmetic line operand).expr).evaluate env :=
          evaluate_settleNegate env line _
        _ = (Expr.negate operand).evaluate env := by simp only [Expr.evaluate, ih]
  | binary op left right ihl ihr =>
      calc
        (foldArithmetic line (.binary op left right)).expr.evaluate env
            = (Expr.binary op (foldArithmetic line left).expr
                (foldArithmetic line right).expr).evaluate env :=
          evaluate_settleBinary env line op _ _
        _ = (Expr.binary op left right).evaluate env := by simp only [Expr.evaluate, ihl, ihr]
  | compare comparison left right ihl ihr => simp only [foldArithmetic, Expr.evaluate, ihl, ihr]

/-! ## Comparisons -/

/-- A comparison of words holds as it does between their integers. -/
theorem holds_eq_decide (comparison : Comparison) (l r : Int32) :
    comparison.holds l r = decide (comparison.Relates l.toInt r.toInt) := by
  cases comparison <;> exact decide_eq_decide.2 Iff.rfl

/-- Deciding a comparison keeps its value, or its failure. -/
theorem evaluate_settleCompare (env : Environment) (line : Nat) (comparison : Comparison)
    (left right : Expr) :
    (settleCompare line comparison left right).expr.evaluate env =
      (Expr.compare comparison left right).evaluate env := by
  unfold settleCompare
  split
  next l r hl hr =>
    have hleft : left = .int l := Expr.int?_eq_some_iff.1 hl
    have hright : right = .int r := Expr.int?_eq_some_iff.1 hr
    subst hleft hright
    have hvalue : compared comparison (.int l) (.int r) =
        .ok (.int (truthWord (comparison.holds l r))) := by
      simp [compared, truthWord, holds_eq_decide]
    exact hvalue.symm
  next => rfl

/-- The walk over comparisons keeps the value of an expression, or its first failure. -/
theorem evaluate_foldComparisons (env : Environment) (line : Nat) (e : Expr) :
    (foldComparisons line e).expr.evaluate env = e.evaluate env := by
  induction e with
  | literal l => rfl
  | named name => rfl
  | missing => rfl
  | negate operand ih => simp only [foldComparisons, Expr.evaluate, ih]
  | binary op left right ihl ihr => simp only [foldComparisons, Expr.evaluate, ihl, ihr]
  | compare comparison left right ihl ihr =>
      calc
        (foldComparisons line (.compare comparison left right)).expr.evaluate env
            = (Expr.compare comparison (foldComparisons line left).expr
                (foldComparisons line right).expr).evaluate env :=
          evaluate_settleCompare env line comparison _ _
        _ = (Expr.compare comparison left right).evaluate env := by
          simp only [Expr.evaluate, ihl, ihr]

/-! ## Programs -/

/-- A walk that keeps the value of every expression keeps every outcome. -/
theorem outcomes_walkProgram {visit : Nat → Expr → FoldedExpr} {env : Environment}
    (hvisit : ∀ line e, (visit line e).expr.evaluate env = e.evaluate env) (program : Program) :
    (walkProgram visit program).program.map (Statement.outcome? env) =
      program.map (Statement.outcome? env) := by
  have hstatement (s : Statement) : (s.walk visit).1.outcome? env = s.outcome? env := by
    cases s with
    | assign target type value line => exact congrArg some (hvisit line value)
    | declare name type line => rfl
    | perform command argument line => rfl
  simp [walkProgram, Function.comp_def, hstatement]

/-- Folding constants changes no outcome: statement by statement, the expression of an
assignment comes to the same value, or fails with the same first failure. -/
theorem outcomes_foldConstants (program : Program) (env : Environment) :
    (foldConstants program).program.map (Statement.outcome? env) =
      program.map (Statement.outcome? env) := by
  have harithmetic := outcomes_walkProgram (evaluate_foldArithmetic env) program
  have hcomparisons := outcomes_walkProgram (evaluate_foldComparisons env)
    (arithmeticWalk program).program
  exact hcomparisons.trans harithmetic

end Primer
