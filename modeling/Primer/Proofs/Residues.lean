import Mathlib.Data.List.Forall2
import Primer.Proofs.Refolding

/-!
# What folding leaves behind

Folding carries out every operation on constants that has a result.  What is left of
such operations are those without one, and the faults tell of each of them, in the
order in which the expressions are evaluated.

Main definitions:

- `ExactResult` is the arithmetic of unbounded integers, and `ComesTo` the value of an
  expression when every value on the way fits a word.
- `Expr.postorder` lists the nodes of an expression, and `Statement.operations` those
  of a statement that are operations on constants.
- `Operation.Fails` relates an operation on constants to the fault it has.
- `Calculation` says that an expression consists of constants and operators.

Main results:

- Theorem `fails_foldArithmetic`: what arithmetic leaves behind fails, and with the
  faults that were recorded.
- Theorem `foldArithmetic_eq_int_iff`: a calculation becomes the constant that it comes
  to.
- Theorem `folding_exact`: both for a program.
-/

namespace Primer

/-! ## Exact arithmetic -/

/-- The result of an operation on integers of any size.  A quotient is truncated toward
zero; there is none for the divisor zero. -/
inductive ExactResult : BinaryOp → Int → Int → Int → Prop where
  | add (l r : Int) : ExactResult .add l r (l + r)
  | sub (l r : Int) : ExactResult .sub l r (l - r)
  | mul (l r : Int) : ExactResult .mul l r (l * r)
  | div {l r : Int} (hr : r ≠ 0) : ExactResult .div l r (l.tdiv r)

/-- The value of an expression, calculated exactly and with every value on the way in
the range of a word. -/
inductive ComesTo : Expr → Int → Prop where
  | int (n : Int32) : ComesTo (.int n) n.toInt
  | negate {operand : Expr} {m : Int} (hoperand : ComesTo operand m)
      (hfits : Numeral.Fits (0 - m)) : ComesTo (.negate operand) (0 - m)
  | binary {op : BinaryOp} {left right : Expr} {l r n : Int} (hleft : ComesTo left l)
      (hright : ComesTo right r) (hexact : ExactResult op l r n) (hfits : Numeral.Fits n) :
      ComesTo (.binary op left right) n

/-- The expression consists of constants, negations and operators. -/
inductive Calculation : Expr → Prop where
  | int (n : Int32) : Calculation (.int n)
  | negate {operand : Expr} (hoperand : Calculation operand) : Calculation (.negate operand)
  | binary {op : BinaryOp} {left right : Expr} (hleft : Calculation left)
      (hright : Calculation right) : Calculation (.binary op left right)

/-- The relation and the function have the same results. -/
theorem exactResult_iff_result? {op : BinaryOp} {l r n : Int} :
    ExactResult op l r n ↔ op.result? l r = some n := by
  constructor
  · intro h
    cases h with
    | add => rfl
    | sub => rfl
    | mul => rfl
    | div hr => simp [BinaryOp.result?, hr]
  · intro h
    cases op with
    | add => cases h; exact .add l r
    | sub => cases h; exact .sub l r
    | mul => cases h; exact .mul l r
    | div =>
        by_cases hr : r = 0
        · simp [BinaryOp.result?, hr] at h
        · simp only [BinaryOp.result?, hr, if_false, Option.some.injEq] at h
          exact h ▸ .div hr

/-! ## Operations on constants -/

/-- An operation on two constants, and the line it stands on. -/
structure Operation where
  line : Nat
  op : BinaryOp
  left : Int32
  right : Int32
  deriving DecidableEq, Repr

/-- The operation has no result, and this is its fault. -/
inductive Operation.Fails : Operation → ArithmeticFault → Prop where
  | divisionByZero (line : Nat) (left : Int32) :
      Fails ⟨line, .div, left, 0⟩ (.divisionByZero line left)
  | overflow {line : Nat} {op : BinaryOp} {left right : Int32} {n : Int}
      (hexact : ExactResult op left.toInt right.toInt n) (hfits : ¬ Numeral.Fits n) :
      Fails ⟨line, op, left, right⟩ (.overflow line op left right)

namespace Expr

/-- The nodes of an expression, operands in front of their operator. -/
def postorder : Expr → List Expr
  | .literal l => [.literal l]
  | .named name => [.named name]
  | .negate operand => operand.postorder ++ [.negate operand]
  | .binary op left right => left.postorder ++ right.postorder ++ [.binary op left right]
  | .compare comparison left right =>
      left.postorder ++ right.postorder ++ [.compare comparison left right]
  | .missing => [.missing]

/-- The root is the last of the nodes. -/
theorem getLast?_postorder (e : Expr) : e.postorder.getLast? = some e := by
  cases e <;> simp [postorder]

/-- The node as an operation on constants.  A negation takes its operand from zero. -/
def operation? (line : Nat) : Expr → Option Operation
  | .negate (.literal (.int n)) => some ⟨line, .sub, 0, n⟩
  | .binary op (.literal (.int l)) (.literal (.int r)) => some ⟨line, op, l, r⟩
  | _ => none

/-- The operations on constants in an expression, in the order of its nodes. -/
def operations (line : Nat) (e : Expr) : List Operation :=
  e.postorder.filterMap (operation? line)

section

variable (line : Nat)

@[simp]
theorem operations_negate (operand : Expr) :
    (negate operand).operations line =
      operand.operations line ++ (operation? line (.negate operand)).toList := by
  cases h : operation? line (.negate operand) <;> simp [operations, postorder, h]

@[simp]
theorem operations_binary (op : BinaryOp) (left right : Expr) :
    (binary op left right).operations line =
      left.operations line ++ right.operations line ++
        (operation? line (.binary op left right)).toList := by
  cases h : operation? line (.binary op left right) <;> simp [operations, postorder, h]

@[simp]
theorem operations_compare (comparison : Comparison) (left right : Expr) :
    (compare comparison left right).operations line =
      left.operations line ++ right.operations line := by
  simp [operations, postorder, operation?]

/-- A negation is an operation on constants only if its operand is one. -/
theorem operation?_negate_eq_none {operand : Expr} (h : operand.int? = none) :
    operation? line (.negate operand) = none := by
  cases operand with
  | literal l =>
      cases l with
      | int n => cases h
      | text s => rfl
  | _ => rfl

/-- An operator is an operation on constants only if both operands are. -/
theorem operation?_binary_eq_none {op : BinaryOp} {left right : Expr}
    (h : left.int? = none ∨ right.int? = none) :
    operation? line (.binary op left right) = none := by
  unfold operation?
  split
  next hnode => cases hnode
  next hnode =>
    cases hnode
    simp [int?] at h
  next => rfl

end
end Expr

/-- The operations on constants in a statement. -/
def Statement.operations : Statement → List Operation
  | .assign _ _ value line => value.operations line
  | .declare _ _ _ => []
  | .perform _ _ _ => []

/-! ## One operation -/

section

variable {line : Nat}

/-- An operation on constants becomes its exact result, if that fits, and otherwise stays
as it is written, with its fault. -/
theorem settle_outcome (line : Nat) (before : Expr) (op : BinaryOp) (l r : Int32) :
    (∃ n : Int32, ExactResult op l.toInt r.toInt n.toInt ∧
        (settle line before op l r).expr = .int n ∧ (settle line before op l r).faults = []) ∨
      ∃ fault, Operation.Fails ⟨line, op, l, r⟩ fault ∧
        (settle line before op l r).expr = before ∧
        (settle line before op l r).faults = [fault] := by
  unfold settle
  cases happly : op.apply l r with
  | ok n =>
      have hexact := exactResult_iff_result?.2 (BinaryOp.apply_eq_ok_iff.1 happly)
      exact .inl ⟨n, hexact, rfl, rfl⟩
  | error reason =>
      refine .inr ⟨.ofError line op l r reason, ?_, rfl, rfl⟩
      cases reason with
      | divisionByZero =>
          obtain ⟨rfl, hzero⟩ := BinaryOp.apply_eq_divisionByZero_iff.1 happly
          obtain rfl : r = 0 := Int32.toInt_inj.1 hzero
          exact .divisionByZero line l
      | overflow =>
          obtain ⟨n, hexact, hfits⟩ := BinaryOp.apply_eq_overflow_iff.1 happly
          exact .overflow (exactResult_iff_result?.2 hexact) hfits

/-- The operation that settling leaves behind fails with the fault that is reported. -/
theorem settle_fails {before : Expr} {op : BinaryOp} {l r : Int32}
    (h : before.operations line = [⟨line, op, l, r⟩]) :
    List.Forall₂ Operation.Fails ((settle line before op l r).expr.operations line)
      (settle line before op l r).faults := by
  rcases settle_outcome line before op l r with ⟨n, -, hn, hfaults⟩ | ⟨fault, hfails, hkept, hfault⟩
  · rw [hn, hfaults]
    exact .nil
  · rw [hkept, hfault, h]
    exact .cons hfails .nil

/-- Negating an operand adds at most one failing operation, and its fault. -/
theorem settleNegate_fails {operand : Expr} {faults : List ArithmeticFault}
    (h : List.Forall₂ Operation.Fails (operand.operations line) faults) :
    List.Forall₂ Operation.Fails ((settleNegate line operand).expr.operations line)
      (faults ++ (settleNegate line operand).faults) := by
  unfold settleNegate
  cases hint : operand.int? with
  | none =>
      simpa [FoldedExpr.keep, FoldedExpr.faults, Expr.operation?_negate_eq_none line hint] using h
  | some n =>
      obtain rfl := Expr.int?_eq_some_iff.1 hint
      -- There is no operation in a constant, so its own fault is the first one.
      obtain rfl := List.forall₂_nil_left_iff.1 h
      exact settle_fails rfl

/-- Joining two operands adds at most one failing operation, and its fault. -/
theorem settleBinary_fails {op : BinaryOp} {left right : Expr}
    {leftFaults rightFaults : List ArithmeticFault}
    (hleft : List.Forall₂ Operation.Fails (left.operations line) leftFaults)
    (hright : List.Forall₂ Operation.Fails (right.operations line) rightFaults) :
    List.Forall₂ Operation.Fails ((settleBinary line op left right).expr.operations line)
      (leftFaults ++ rightFaults ++ (settleBinary line op left right).faults) := by
  have hkept (h : left.int? = none ∨ right.int? = none) :
      List.Forall₂ Operation.Fails ((Expr.binary op left right).operations line)
        (leftFaults ++ rightFaults ++ []) := by
    rw [Expr.operations_binary, Expr.operation?_binary_eq_none line h]
    exact List.rel_append (List.rel_append hleft hright) .nil
  unfold settleBinary
  cases hl : left.int? with
  | none => exact hkept (.inl hl)
  | some l =>
      cases hr : right.int? with
      | none => exact hkept (.inr hr)
      | some r =>
          obtain rfl := Expr.int?_eq_some_iff.1 hl
          obtain rfl := Expr.int?_eq_some_iff.1 hr
          obtain rfl := List.forall₂_nil_left_iff.1 hleft
          obtain rfl := List.forall₂_nil_left_iff.1 hright
          exact settle_fails rfl

/-! ## Expressions -/

/-- What arithmetic leaves behind of operations on constants fails, one for one with the
faults that were recorded. -/
theorem fails_foldArithmetic (line : Nat) (e : Expr) :
    List.Forall₂ Operation.Fails ((foldArithmetic line e).expr.operations line)
      (foldArithmetic line e).faults := by
  induction e with
  | literal l => cases l <;> exact .nil
  | named name => exact .nil
  | missing => exact .nil
  | negate operand ih =>
      rw [foldArithmetic, FoldedExpr.faults_after]
      exact settleNegate_fails ih
  | binary op left right ihl ihr =>
      rw [foldArithmetic, FoldedExpr.faults_after, List.filterMap_append]
      exact settleBinary_fails ihl ihr
  | compare comparison left right ihl ihr =>
      simp only [foldArithmetic, Expr.operations_compare, FoldedExpr.faults,
        List.filterMap_append]
      exact List.rel_append ihl ihr

/-- Settling a negation brings no comparison in. -/
theorem compares_settleNegate {operand : Expr} (h : operand.compares = false) :
    (settleNegate line operand).expr.compares = false := by
  rcases settleNegate_cases line operand with hkept | ⟨_, n, -, hn, -⟩
  · rw [hkept]
    exact h
  · rw [hn]
    rfl

theorem compares_settleBinary {op : BinaryOp} {left right : Expr} (hleft : left.compares = false)
    (hright : right.compares = false) :
    (settleBinary line op left right).expr.compares = false := by
  rcases settleBinary_cases line op left right with hkept | ⟨_, _, n, -, -, hn, -⟩
  · rw [hkept]
    exact Bool.or_eq_false_iff.2 ⟨hleft, hright⟩
  · rw [hn]
    rfl

/-- Arithmetic brings no comparison into an expression. -/
theorem compares_foldArithmetic (line : Nat) {e : Expr} (h : e.compares = false) :
    (foldArithmetic line e).expr.compares = false := by
  induction e with
  | literal l => rfl
  | named name => rfl
  | missing => rfl
  | negate operand ih => exact compares_settleNegate (ih h)
  | binary op left right ihl ihr =>
      obtain ⟨hleft, hright⟩ := Bool.or_eq_false_iff.1 h
      exact compares_settleBinary (ihl hleft) (ihr hright)
  | compare comparison left right => cases h

/-- Without a comparison there is nothing to decide. -/
theorem foldComparisons_of_not_compares {e : Expr} (h : e.compares = false) :
    (foldComparisons line e).expr = e := by
  induction e with
  | literal l => rfl
  | named name => rfl
  | missing => rfl
  | negate operand ih => simp only [foldComparisons, ih h]
  | binary op left right ihl ihr =>
      obtain ⟨hleft, hright⟩ := Bool.or_eq_false_iff.1 h
      simp only [foldComparisons, ihl hleft, ihr hright]
  | compare comparison left right => cases h

/-- No node of an expression without comparisons is one. -/
theorem not_compare_mem_postorder {e : Expr} (h : e.compares = false) (comparison : Comparison)
    (left right : Expr) : .compare comparison left right ∉ e.postorder := by
  induction e with
  | literal l => simp [Expr.postorder]
  | named name => simp [Expr.postorder]
  | missing => simp [Expr.postorder]
  | negate operand ih => simpa [Expr.postorder] using ih h
  | binary op l r ihl ihr =>
      obtain ⟨hl, hr⟩ := Bool.or_eq_false_iff.1 h
      simpa [Expr.postorder] using ⟨ihl hl, ihr hr⟩
  | compare comparison l r => cases h

/-- There is no comparison of two constants in the expression. -/
def Expr.Decided (e : Expr) : Prop :=
  ∀ (comparison : Comparison) (l r : Int32), .compare comparison (.int l) (.int r) ∉ e.postorder

/-- Without comparisons there is nothing to decide. -/
theorem decided_of_not_compares {e : Expr} (h : e.compares = false) : e.Decided :=
  fun comparison l r => not_compare_mem_postorder h comparison (.int l) (.int r)

/-- A comparison at the root is decided if both sides are constants, and no operation is
lost by that. -/
theorem settleCompare_decided {comparison : Comparison} {left right : Expr}
    (hleft : left.compares = false) (hright : right.compares = false) :
    (settleCompare line comparison left right).expr.Decided ∧
      (settleCompare line comparison left right).expr.operations line =
        left.operations line ++ right.operations line := by
  unfold settleCompare
  split
  next l r hl hr =>
    obtain rfl := Expr.int?_eq_some_iff.1 hl
    obtain rfl := Expr.int?_eq_some_iff.1 hr
    exact ⟨decided_of_not_compares rfl, rfl⟩
  next hnot =>
    refine ⟨?_, Expr.operations_compare line comparison left right⟩
    intro other l r hmem
    simp only [FoldedExpr.keep, Expr.postorder, List.mem_append, List.mem_singleton] at hmem
    rcases hmem with (hmem | hmem) | hnode
    · exact not_compare_mem_postorder hleft _ _ _ hmem
    · exact not_compare_mem_postorder hright _ _ _ hmem
    · obtain ⟨-, rfl, rfl⟩ := Expr.compare.inj hnode
      exact hnot l r rfl rfl

/-- Deciding the comparison at the root of an expression loses no operation. -/
theorem decided_foldComparisons {e : Expr} (h : e.IsCondition) :
    (foldComparisons line (foldArithmetic line e).expr).expr.Decided ∧
      (foldComparisons line (foldArithmetic line e).expr).expr.operations line =
        (foldArithmetic line e).expr.operations line := by
  have hplain (hplain : e.compares = false) :
      (foldComparisons line (foldArithmetic line e).expr).expr.Decided ∧
        (foldComparisons line (foldArithmetic line e).expr).expr.operations line =
          (foldArithmetic line e).expr.operations line := by
    have hfolded := compares_foldArithmetic line hplain
    rw [foldComparisons_of_not_compares hfolded]
    exact ⟨decided_of_not_compares hfolded, rfl⟩
  cases e with
  | compare comparison left right =>
      have hleft := compares_foldArithmetic line h.1
      have hright := compares_foldArithmetic line h.2
      rw [decides_foldComparisons_foldArithmetic.compare_eq, foldComparisons_of_not_compares hleft,
        foldComparisons_of_not_compares hright]
      have hsides : (foldArithmetic line (.compare comparison left right)).expr.operations line =
          (foldArithmetic line left).expr.operations line ++
            (foldArithmetic line right).expr.operations line :=
        Expr.operations_compare line comparison _ _
      exact hsides ▸ settleCompare_decided hleft hright
  | _ => exact hplain h

/-! ## Calculations -/

/-- Settling a negation leaves a calculation. -/
theorem calculation_settleNegate {operand : Expr} (h : Calculation operand) :
    Calculation (settleNegate line operand).expr := by
  rcases settleNegate_cases line operand with hkept | ⟨_, n, -, hn, -⟩
  · rw [hkept]
    exact .negate h
  · rw [hn]
    exact .int n

theorem calculation_settleBinary {op : BinaryOp} {left right : Expr} (hleft : Calculation left)
    (hright : Calculation right) : Calculation (settleBinary line op left right).expr := by
  rcases settleBinary_cases line op left right with hkept | ⟨_, _, n, -, -, hn, -⟩
  · rw [hkept]
    exact .binary hleft hright
  · rw [hn]
    exact .int n

/-- Arithmetic makes a calculation of a calculation. -/
theorem calculation_foldArithmetic {e : Expr} (h : Calculation e) :
    Calculation (foldArithmetic line e).expr := by
  induction h with
  | int n => exact .int n
  | negate hoperand ih => exact calculation_settleNegate ih
  | binary hleft hright ihleft ihright => exact calculation_settleBinary ihleft ihright

/-- A calculation in which nothing is left to calculate is a constant. -/
theorem exists_int_of_calculation {e : Expr} (h : Calculation e) (hnone : e.operations line = []) :
    ∃ n, e = .int n := by
  induction h with
  | int n => exact ⟨n, rfl⟩
  | negate hoperand ih =>
      rw [Expr.operations_negate, List.append_eq_nil_iff] at hnone
      obtain ⟨n, rfl⟩ := ih hnone.1
      cases hnone.2
  | binary hleft hright ihleft ihright =>
      rw [Expr.operations_binary, List.append_eq_nil_iff, List.append_eq_nil_iff] at hnone
      obtain ⟨l, rfl⟩ := ihleft hnone.1.1
      obtain ⟨r, rfl⟩ := ihright hnone.1.2
      cases hnone.2

theorem comesTo_int_iff {k : Int32} {n : Int} : ComesTo (.int k) n ↔ k.toInt = n := by
  constructor
  · intro h
    cases h with
    | int => rfl
  · rintro rfl
    exact .int k

/-- What an expression comes to is the value of a word. -/
theorem ComesTo.exists_word {e : Expr} {n : Int} (h : ComesTo e n) :
    ∃ w : Int32, w.toInt = n := by
  have hword {n : Int} (hfits : Numeral.Fits n) : ∃ w : Int32, w.toInt = n :=
    ⟨Int32.ofInt n, Numeral.toInt_ofInt hfits⟩
  cases h with
  | int w => exact ⟨w, rfl⟩
  | negate hoperand hfits => exact hword hfits
  | binary hleft hright hexact hfits => exact hword hfits

/-- A negation comes to the difference of zero and its operand. -/
theorem comesTo_negate_iff {operand : Expr} {n : Int32} :
    ComesTo (.negate operand) n.toInt ↔
      ∃ m : Int32, ComesTo operand m.toInt ∧ ExactResult .sub 0 m.toInt n.toInt := by
  have hfits := Numeral.fits_toInt n
  generalize n.toInt = k at hfits ⊢
  constructor
  · intro h
    cases h with
    | negate hoperand _ =>
        obtain ⟨m, rfl⟩ := hoperand.exists_word
        exact ⟨m, hoperand, .sub 0 m.toInt⟩
  · rintro ⟨m, hoperand, hexact⟩
    cases hexact
    exact .negate hoperand hfits

/-- An operator comes to the exact result on what its operands come to. -/
theorem comesTo_binary_iff {op : BinaryOp} {left right : Expr} {n : Int32} :
    ComesTo (.binary op left right) n.toInt ↔
      ∃ l r : Int32, ComesTo left l.toInt ∧ ComesTo right r.toInt ∧
        ExactResult op l.toInt r.toInt n.toInt := by
  have hfits := Numeral.fits_toInt n
  generalize n.toInt = k at hfits ⊢
  constructor
  · intro h
    cases h with
    | binary hleft hright hexact _ =>
        obtain ⟨l, rfl⟩ := hleft.exists_word
        obtain ⟨r, rfl⟩ := hright.exists_word
        exact ⟨l, r, hleft, hright, hexact⟩
  · rintro ⟨l, r, hleft, hright, hexact⟩
    exact .binary hleft hright hexact hfits

/-- Settling an operation on words yields the word of its exact result, or none. -/
theorem settle_eq_int_iff {before : Expr} (hbefore : before.int? = none) {op : BinaryOp}
    {l r n : Int32} :
    (settle line before op l r).expr = .int n ↔ ExactResult op l.toInt r.toInt n.toInt := by
  rw [exactResult_iff_result?, ← BinaryOp.apply_eq_ok_iff]
  unfold settle
  cases op.apply l r with
  | ok k => simp [Expr.int]
  | error reason =>
      have hne : before ≠ .int n := by
        rintro rfl
        cases hbefore
      simp [hne]

/-- A negation is settled to a word exactly if its operand is one and the result fits. -/
theorem settleNegate_eq_int_iff {operand : Expr} {n : Int32} :
    (settleNegate line operand).expr = .int n ↔
      ∃ m : Int32, operand = .int m ∧ ExactResult .sub 0 m.toInt n.toInt := by
  unfold settleNegate
  constructor
  · intro h
    cases hint : operand.int? with
    | none =>
        rw [hint] at h
        cases h
    | some m =>
        rw [hint] at h
        exact ⟨m, Expr.int?_eq_some_iff.1 hint, (settle_eq_int_iff rfl).1 h⟩
  · rintro ⟨m, rfl, hexact⟩
    exact (settle_eq_int_iff rfl).2 hexact

/-- An operator is settled to a word exactly if its operands are words and the result fits. -/
theorem settleBinary_eq_int_iff {op : BinaryOp} {left right : Expr} {n : Int32} :
    (settleBinary line op left right).expr = .int n ↔
      ∃ l r : Int32, left = .int l ∧ right = .int r ∧ ExactResult op l.toInt r.toInt n.toInt := by
  unfold settleBinary
  constructor
  · intro h
    split at h
    next l r hl hr =>
      exact ⟨l, r, Expr.int?_eq_some_iff.1 hl, Expr.int?_eq_some_iff.1 hr,
        (settle_eq_int_iff rfl).1 h⟩
    next => cases h
  · rintro ⟨l, r, rfl, rfl, hexact⟩
    exact (settle_eq_int_iff rfl).2 hexact

/-- A calculation becomes a constant exactly when it comes to the value of that
constant. -/
theorem foldArithmetic_eq_int_iff (line : Nat) {e : Expr} (h : Calculation e) {n : Int32} :
    (foldArithmetic line e).expr = .int n ↔ ComesTo e n.toInt := by
  induction h generalizing n with
  | int k =>
      rw [comesTo_int_iff, Int32.toInt_inj]
      constructor
      · intro h
        cases h
        rfl
      · rintro rfl
        rfl
  | negate hoperand ih =>
      rw [carriesOut_foldArithmetic.negate_eq, settleNegate_eq_int_iff, comesTo_negate_iff]
      simp only [ih]
  | binary hleft hright ihleft ihright =>
      rw [carriesOut_foldArithmetic.binary_eq, settleBinary_eq_int_iff, comesTo_binary_iff]
      simp only [ihleft, ihright]

/-- A calculation that comes to nothing has a fault. -/
theorem faults_ne_nil_of_calculation {e : Expr} (h : Calculation e)
    (hnone : ∀ n, ¬ ComesTo e n) : (foldArithmetic line e).faults ≠ [] := by
  intro hfaults
  have hfails := fails_foldArithmetic line e
  rw [hfaults] at hfails
  obtain ⟨n, hn⟩ :=
    exists_int_of_calculation (calculation_foldArithmetic h) (List.forall₂_nil_right_iff.1 hfails)
  exact hnone n.toInt ((foldArithmetic_eq_int_iff line h).1 hn)

/-- A calculation has no comparison in it. -/
theorem Calculation.not_compares {e : Expr} (h : Calculation e) : e.compares = false := by
  induction h with
  | int n => rfl
  | negate hoperand ih => exact ih
  | binary hleft hright ihleft ihright => exact Bool.or_eq_false_iff.2 ⟨ihleft, ihright⟩

end

/-! ## Programs -/

/-- What folding leaves behind of one statement fails, with the faults of the statement. -/
theorem Statement.fails_folded {s : Statement}
    (hroots : ∀ value, s.value? = some value → value.IsCondition) :
    List.Forall₂ Operation.Fails s.folded.operations s.faults := by
  cases s with
  | declare name type line => exact .nil
  | perform command argument line => exact .nil
  | assign target type value line =>
      have hfails := fails_foldArithmetic line value
      rw [← (decided_foldComparisons (hroots value rfl)).2] at hfails
      exact hfails

/-- Folding decides every comparison of constants in a condition. -/
theorem Statement.decided_folded {s : Statement}
    (hroots : ∀ value, s.value? = some value → value.IsCondition) {value : Expr}
    (hvalue : s.folded.value? = some value) : value.Decided := by
  cases s with
  | declare name type line => cases hvalue
  | perform command argument line => cases hvalue
  | assign target type before line =>
      cases hvalue
      exact (decided_foldComparisons (hroots before rfl)).1

/-- What folding leaves behind of the statements of a program fails, with the faults that
are returned. -/
theorem fails_foldConstants {program : Program}
    (hroots : ∀ s ∈ program, ∀ value, s.value? = some value → value.IsCondition) :
    List.Forall₂ Operation.Fails ((foldConstants program).program.flatMap Statement.operations)
      (foldConstants program).faults := by
  rw [program_foldConstants, faults_foldConstants, List.flatMap_map]
  induction program with
  | nil => exact .nil
  | cons s program ih =>
      have hs := Statement.fails_folded (hroots s List.mem_cons_self)
      have hprogram := ih fun t ht => hroots t (List.mem_cons_of_mem s ht)
      exact List.rel_append hs hprogram

/-- A calculation that is assigned becomes the constant it comes to. -/
theorem folded_assign_eq_int_iff {value : Expr} (h : Calculation value) (target : String)
    (type : DataType) (line : Nat) (n : Int32) :
    (Statement.assign target type value line).folded = .assign target type (.int n) line ↔
      ComesTo value n.toInt := by
  have hfolded : (Statement.assign target type value line).folded =
      .assign target type (foldArithmetic line value).expr line := by
    show Statement.assign target type _ line = _
    rw [foldComparisons_of_not_compares (compares_foldArithmetic line h.not_compares)]
  rw [hfolded, ← foldArithmetic_eq_int_iff line h]
  simp

/-- Folding is complete, and the faults tell exactly what it could not do.  In a program
with comparisons at the roots of its expressions only, no comparison of two constants is
left, and the operations on constants that are left, statement by statement and operands
first, have no result and are one for one the faults.  An assigned calculation becomes the
constant that it comes to, exactly; if it comes to nothing, it adds a fault at least. -/
theorem folding_exact (program : Program)
    (hroots : ∀ s ∈ program, ∀ value, s.value? = some value → value.IsCondition) :
    (∀ s ∈ (foldConstants program).program, ∀ value, s.value? = some value →
        ∀ (comparison : Comparison) (l r : Int32),
          .compare comparison (.int l) (.int r) ∉ value.postorder) ∧
      List.Forall₂ Operation.Fails ((foldConstants program).program.flatMap Statement.operations)
        (foldConstants program).faults ∧
      ∀ front target type value line behind,
        program = front ++ .assign target type value line :: behind → Calculation value →
          (∀ n : Int32,
            (foldConstants program).program[front.length]? =
                some (.assign target type (.int n) line) ↔ ComesTo value n.toInt) ∧
          ((∀ n, ¬ ComesTo value n) → ∃ own : List ArithmeticFault, own ≠ [] ∧
            (∀ fault ∈ own, fault.line = line) ∧
            (foldConstants program).faults =
              (foldConstants front).faults ++ own ++ (foldConstants behind).faults) := by
  refine ⟨?_, fails_foldConstants hroots, ?_⟩
  · intro s hs value hvalue
    rw [program_foldConstants] at hs
    obtain ⟨before, hbefore, rfl⟩ := List.mem_map.1 hs
    exact Statement.decided_folded (hroots before hbefore) hvalue
  · rintro front target type value line behind rfl hvalue
    refine ⟨fun n => ?_, fun hnone => ?_⟩
    · rw [program_foldConstants, ← folded_assign_eq_int_iff hvalue target type line n]
      simp
    · refine ⟨(foldArithmetic line value).faults, faults_ne_nil_of_calculation hvalue hnone,
        fun fault => line_of_mem_faults_foldArithmetic, ?_⟩
      simp only [faults_foldConstants, List.flatMap_append, List.flatMap_cons, List.append_assoc]
      rfl

/-- The quotient of the least word and `-1`, which is one more than the greatest word. -/
def overflowingQuotient : Expr :=
  .binary .add (.int 1) (.binary .div (.int (-2147483648)) (.int (-1)))

/-- `B = 1 == 2 - 1`, and below it the assignment of the overflowing quotient. -/
def residueSample : Program :=
  [.assign "B" .boolean (.compare .equal (.int 1) (.binary .sub (.int 2) (.int 1))) 1,
    .assign "A" .integer overflowingQuotient 2]

/-- The comparison is decided, and the overflow is the one fault. -/
theorem folding_exact_of_residueSample :
    (∀ s ∈ residueSample, ∀ value, s.value? = some value → value.IsCondition) ∧
      Calculation overflowingQuotient ∧ (∀ n, ¬ ComesTo overflowingQuotient n) ∧
      (foldConstants residueSample).faults = [.overflow 2 .div (-2147483648) (-1)] ∧
      (foldConstants residueSample).program[0]? = some (.assign "B" .boolean (.int 1) 1) ∧
      List.Forall₂ Operation.Fails
        ((foldConstants residueSample).program.flatMap Statement.operations)
        (foldConstants residueSample).faults ∧
      ∃ own : List ArithmeticFault, own ≠ [] ∧ (∀ fault ∈ own, fault.line = 2) ∧
        (foldConstants residueSample).faults =
          (foldConstants (residueSample.take 1)).faults ++ own ++ (foldConstants []).faults := by
  have hroots : ∀ s ∈ residueSample, ∀ value, s.value? = some value → value.IsCondition := by
    simp [residueSample, Statement.value?, Expr.IsCondition, Expr.compares, Expr.int,
      overflowingQuotient]
  have hcalculation : Calculation overflowingQuotient :=
    .binary (.int 1) (.binary (.int _) (.int _))
  have hkept : (foldArithmetic 2 overflowingQuotient).expr = overflowingQuotient := by
    decide +kernel
  have hnone : ∀ n, ¬ ComesTo overflowingQuotient n := by
    intro n hn
    obtain ⟨w, rfl⟩ := hn.exists_word
    have hword := (foldArithmetic_eq_int_iff 2 hcalculation).2 hn
    rw [hkept] at hword
    cases hword
  have hexact := folding_exact residueSample hroots
  exact ⟨hroots, hcalculation, hnone, by decide +kernel, by decide +kernel, hexact.2.1,
    (hexact.2.2 (residueSample.take 1) "A" .integer overflowingQuotient 2 [] rfl
      hcalculation).2 hnone⟩

end Primer
