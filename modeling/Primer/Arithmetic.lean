import Primer.Expr

/-!
# Checked arithmetic

What the operators and comparisons of the language do to 32-bit integers.  An
operation is carried out on exact integers and refused if its result does not
fit; it never wraps around.

Main definitions:

- `BinaryOp.result?` is the operation on exact integers, where division truncates
  toward zero and has no result for a zero divisor.
- `BinaryOp.apply` is the operation on words, with the reason of a refusal.
- `Comparison.holds` decides a comparison.

Main results:

- Theorem `apply_eq_ok_iff`: an operation gives a word exactly when the exact
  operation gives its value.
- Theorem `apply_eq_divisionByZero_iff` and `apply_eq_overflow_iff`: when each
  refusal arises.
-/

namespace Primer

/-- Why a constant operation has no result. -/
inductive ArithmeticError where
  | divisionByZero
  /-- The exact result does not fit a word. -/
  | overflow
  deriving DecidableEq, Repr, Inhabited

namespace BinaryOp

/-- The operation on exact integers. -/
def result? (op : BinaryOp) (l r : Int) : Option Int :=
  match op with
  | .add => some (l + r)
  | .sub => some (l - r)
  | .mul => some (l * r)
  | .div => if r = 0 then none else some (l.tdiv r)

/-- The operation on words. -/
def apply (op : BinaryOp) (l r : Int32) : Except ArithmeticError Int32 :=
  match op.result? l.toInt r.toInt with
  | none => .error .divisionByZero
  | some n =>
      match Numeral.word? n with
      | none => .error .overflow
      | some w => .ok w

/-- Only a division by zero has no exact result. -/
theorem result?_eq_none_iff {op : BinaryOp} {l r : Int} :
    op.result? l r = none ↔ op = .div ∧ r = 0 := by
  cases op <;> simp [result?]

/-- An operation gives a word exactly when the exact operation gives its value. -/
theorem apply_eq_ok_iff {op : BinaryOp} {l r w : Int32} :
    op.apply l r = .ok w ↔ op.result? l.toInt r.toInt = some w.toInt := by
  unfold apply
  split
  next hexact => simp [hexact]
  next n hexact =>
    rw [hexact, Option.some.injEq]
    split
    next hword =>
      have hfit := Numeral.word?_eq_none_iff.1 hword
      constructor
      · intro h
        cases h
      · rintro rfl
        exact absurd (Numeral.fits_toInt w) hfit
    next v hword =>
      rw [← Numeral.word?_eq_some_iff.1 hword, Except.ok.injEq, Int32.toInt_inj]

/-- Division by zero is refused as such, and nothing else is. -/
theorem apply_eq_divisionByZero_iff {op : BinaryOp} {l r : Int32} :
    op.apply l r = .error .divisionByZero ↔ op = .div ∧ r.toInt = 0 := by
  rw [← result?_eq_none_iff (l := l.toInt)]
  unfold apply
  split
  next hexact => simp [hexact]
  next n hexact =>
    rw [hexact]
    split <;> simp

/-- An operation overflows exactly when its exact result does not fit. -/
theorem apply_eq_overflow_iff {op : BinaryOp} {l r : Int32} :
    op.apply l r = .error .overflow ↔
      ∃ n, op.result? l.toInt r.toInt = some n ∧ ¬ Numeral.Fits n := by
  unfold apply
  split
  next hexact => simp [hexact]
  next n hexact =>
    simp only [hexact, Option.some.injEq, exists_eq_left', ← Numeral.word?_eq_none_iff]
    split
    next hword => simp [hword]
    next v hword => simp [hword]

end BinaryOp

namespace Comparison

/-- The comparison holds between two words. -/
def holds (comparison : Comparison) (l r : Int32) : Bool :=
  match comparison with
  | .equal => decide (l.toInt = r.toInt)
  | .notEqual => decide (l.toInt ≠ r.toInt)
  | .lessEqual => decide (l.toInt ≤ r.toInt)
  | .greaterEqual => decide (r.toInt ≤ l.toInt)

end Comparison

/-- The word that stands for a truth value. -/
def truthWord (b : Bool) : Int32 :=
  if b then 1 else 0

end Primer
