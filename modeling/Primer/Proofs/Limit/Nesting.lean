import Primer.Proofs.Grammar.Composition
import Primer.Proofs.Simulation
import Primer.Proofs.Size

/-!
# How large and how deep an expression is read

Each operator of a tree was paid for when it was read, and so was each operand that stands
inside another one.  What a statement may hold therefore bounds the size of its expression
and the depth to which operands are nested while it is read.

Main definitions:

- `Reading.operandOver` reads one operand, given a reader for those that stand in it.
- `Reading.factorWithin` reads operands up to a depth, and leaves those that are nested
  deeper to any other reader.

Main results:

- Theorem `Composed.operators_le`: the operators of a tree are paid for.
- Theorem `expression_congr`: a form depends on how operands are read only where there is
  room for them.
- Theorem `factorWithin_eq`: the reader of deeper operands is never used.
-/

namespace Primer
namespace Reading

/-! ## Size -/

/-- Closing a bracket leaves the room that there is. -/
theorem room_closeBracket (scope : Scope) (opening : Token) (r : Reading) :
    (closeBracket scope opening r).cursor.room = r.cursor.room := by
  unfold closeBracket
  split
  · rfl
  split
  · rfl
  · rfl

/-- The operators of a tree are paid for. -/
theorem Composed.operators_le {scope : Scope} {form : Nonterminal} {c : Cursor} {r : Reading}
    (h : Composed scope form c r) : r.expr.operators + r.cursor.room ≤ c.room := by
  induction h with
  | named hrest hkind => exact Nat.le_of_eq (Nat.zero_add _)
  | literal hrest hliteral => exact Nat.le_of_eq (Nat.zero_add _)
  | outOfRange hrest hkind hvalue => exact Nat.le_of_eq (Nat.zero_add _)
  | absent hends => exact Nat.le_of_eq (Nat.zero_add _)
  | misplaced hrest hkind hbracket hminus => exact Nat.le_of_eq (Nat.zero_add _)
  | bracketed hrest hbracket hgrow hinner ih =>
      have hroom := Cursor.room_of_advance_grow? hgrow
      rw [closeBracket_expr, room_closeBracket]
      omega
  | negated hrest hminus hgrow hinner ih =>
      have hroom := Cursor.room_of_advance_grow? hgrow
      simp only [mapExpr_expr, mapExpr_cursor, Expr.operators]
      omega
  | refused hrest hopens hroom => exact Nat.le_of_eq (Nat.zero_add _)
  | single h ih => exact ih
  | joined hleft hop hgrow hright ihleft ihright =>
      have hroom := Cursor.room_of_advance_grow? hgrow
      simp only [after_expr, mapExpr_expr, after_cursor, mapExpr_cursor, Expr.operators]
      omega
  | cutRow hleft hop hroom ih => exact ih
  | plain h ih => exact ih
  | compared hleft hcomparison hgrow hright ihleft ihright =>
      have hroom := Cursor.room_of_advance_grow? hgrow
      simp only [after_expr, mapExpr_expr, after_cursor, mapExpr_cursor, Expr.operators]
      omega
  | cutCondition hleft hcomparison hroom ih => exact ih

/-- The expression of a statement has no more operators than a statement may hold. -/
theorem operators_whole_le (scope : Scope) (type : DataType) (tokens : List Token) :
    (whole scope type tokens).expr.operators ≤ growthLimit :=
  Nat.le_trans (Nat.le_add_right _ _) (composed_whole scope type tokens).operators_le

/-! ## Depth -/

/-- Read an operand, with the given reader for the operands that stand in it. -/
def operandOver (scope : Scope) (n : Nat) (deeper : DataType → Cursor → Reading) (type : DataType)
    (c : Cursor) : Reading :=
  match c.rest with
  | [] => noOperand scope.closing c
  | t :: _ =>
      if t.isSymbol "(" then
        match c.advance.grow? with
        | some inside => closeBracket scope t (expression scope n deeper type inside)
        | none => abandon scope .missing c.advance
      else if t.isSymbol "-" && type != .string then
        match c.advance.grow? with
        | some inside => (deeper type inside).mapExpr .negate
        | none => abandon scope .missing c.advance
      else atom scope t c

section

variable {scope : Scope} {n : Nat} {deeper : DataType → Cursor → Reading} {type : DataType}
  {c inside : Cursor} {t : Token} {rest : List Token}

theorem operandOver_nil (hrest : c.rest = []) :
    operandOver scope n deeper type c = noOperand scope.closing c := by
  simp [operandOver, hrest]

/-- What stands between brackets is read one level deeper. -/
theorem operandOver_opening (hrest : c.rest = t :: rest) (hbracket : t.isSymbol "(" = true)
    (hgrow : c.advance.grow? = some inside) :
    operandOver scope n deeper type c =
      closeBracket scope t (expression scope n deeper type inside) := by
  simp [operandOver, hrest, hbracket, hgrow]

theorem operandOver_sign (hrest : c.rest = t :: rest) (hbracket : t.isSymbol "(" = false)
    (hminus : (t.isSymbol "-" && type != .string) = true) (hgrow : c.advance.grow? = some inside) :
    operandOver scope n deeper type c = (deeper type inside).mapExpr .negate := by
  simp [operandOver, hrest, hbracket, hminus, hgrow]

/-- Without room the line is given up at a bracket or a sign. -/
theorem operandOver_refused (hrest : c.rest = t :: rest)
    (hopens : (t.isSymbol "(" || t.isSymbol "-" && type != .string) = true)
    (hgrow : c.advance.grow? = none) :
    operandOver scope n deeper type c = abandon scope .missing c.advance := by
  rcases Bool.or_eq_true_iff.1 hopens with h | h <;> simp [operandOver, hrest, h, hgrow]

theorem operandOver_atom (hrest : c.rest = t :: rest) (hbracket : t.isSymbol "(" = false)
    (hminus : (t.isSymbol "-" && type != .string) = false) :
    operandOver scope n deeper type c = atom scope t c := by
  simp [operandOver, hrest, hbracket, hminus]

end

/-- Read an operand; of the operands nested in it, those that are more than `n` deep are
read by the given reader. -/
def factorWithin (scope : Scope) (beyond : DataType → Cursor → Reading) :
    Nat → DataType → Cursor → Reading
  | 0 => operandOver scope 0 beyond
  | n + 1 => operandOver scope n (factorWithin scope beyond n)

/-- An operand is read over those that stand in it. -/
theorem factor_succ (scope : Scope) (n : Nat) :
    factor scope (n + 1) = operandOver scope n (factor scope n) := by
  funext type c
  unfold factor operandOver
  cases c.rest with
  | nil => rfl
  | cons t rest => cases c.advance.grow? <;> rfl

attribute [ext] Reading

/-- One line is read twice, with room for at most `m` operators and brackets. -/
def within (scope : Scope) (m : Nat) : Simulation scope scope where
  Position c c' := c' = c ∧ c.room ≤ m
  Value e e' := e' = e
  Reports reports reports' := reports' = reports
  symbol?_eq h := congrArg Cursor.symbol? h.1
  advance h := ⟨congrArg Cursor.advance h.1, h.2⟩
  grow? {c c'} h := by
    obtain ⟨rfl, hroom⟩ := h
    cases hgrow : c'.grow? with
    | none => exact .none
    | some inside =>
        obtain ⟨-, hless, -⟩ := Cursor.grow?_eq_some hgrow
        rw [hless] at hroom
        exact .some ⟨rfl, Nat.le_of_succ_le hroom⟩
  giveUp h := ⟨congrArg (fun c => Cursor.mk [] c.room true) h.1, h.2⟩
  negate h := congrArg Expr.negate h
  binary := Expr.binary_congr
  compare := Expr.compare_congr
  missing := rfl
  nil := rfl
  append hfront hback := congrArg₂ (· ++ ·) hfront hback
  tooComplex {c c'} h := by
    obtain ⟨rfl, -⟩ := h
    rfl

/-- A form depends on how operands are read only where there is room for them. -/
theorem expression_congr {scope : Scope} {m n : Nat}
    {operand operand' : DataType → Cursor → Reading}
    (hread : ∀ type, ∀ c : Cursor, c.room ≤ m → operand type c = operand' type c)
    (hadvances : ∀ type, ∀ c : Cursor, c.Advances (operand type c).cursor) (type : DataType)
    {c : Cursor} (hroom : c.room ≤ m) :
    expression scope n operand type c = expression scope n operand' type c := by
  have hoperand : ∀ type, ∀ ⦃c c' : Cursor⦄, (within scope m).Position c c' →
      (within scope m).Related (operand type c) (operand' type c') := by
    rintro type _ c ⟨rfl, hroom⟩
    have hle := (hadvances type c).room_le
    rw [← hread type c hroom]
    exact ⟨rfl, rfl, rfl, by omega⟩
  have hstart : (within scope m).Position c c := ⟨rfl, hroom⟩
  obtain ⟨hexpr, hreports, hcursor, -⟩ := Simulation.related_expression hoperand n type hstart
  exact (Reading.ext hexpr hreports hcursor).symm

/-- Where there is no room for another operator, no operand is read inside of one. -/
theorem operandOver_of_full {scope : Scope} {n : Nat} {deeper : DataType → Cursor → Reading}
    {type : DataType} {c : Cursor} (hroom : c.room = 0) :
    operandOver scope n deeper type c = factor scope 0 type c := by
  have hfull : c.advance.grow? = none := Cursor.grow?_eq_none_iff.2 hroom
  unfold operandOver factor
  cases c.rest with
  | nil => rfl
  | cons t rest =>
      cases hgrow : c.advance.grow? with
      | none => rfl
      | some inside => cases hfull.symm.trans hgrow

/-- The reader of deeper operands is never used, as each operand that stands inside another
one has taken up some of the room. -/
theorem factorWithin_eq (scope : Scope) (beyond : DataType → Cursor → Reading) (n : Nat)
    (type : DataType) {c : Cursor} (hroom : c.room ≤ n) :
    factorWithin scope beyond n type c = factor scope n type c := by
  induction n generalizing type c with
  | zero => exact operandOver_of_full (Nat.le_zero.1 hroom)
  | succ n ih =>
      have hinside {inside : Cursor} (h : c.advance.grow? = some inside) : inside.room ≤ n := by
        have hsucc := Cursor.room_of_advance_grow? h
        omega
      have hexpression {inside : Cursor} (h : c.advance.grow? = some inside) :
          expression scope n (factor scope n) type inside =
            expression scope n (factorWithin scope beyond n) type inside :=
        expression_congr (fun type c h => (ih type h).symm) (factor_advances scope n) type
          (hinside h)
      rw [factor_succ, factorWithin]
      unfold operandOver
      cases hrest : c.rest with
      | nil => rfl
      | cons t rest =>
          cases hgrow : c.advance.grow? with
          | none => rfl
          | some inside => simp only [hexpression hgrow, ih type (hinside hgrow)]

/-- No operand of a statement is nested more than 512 deep inside another one: however such
operands were read, the expression would be read as it is. -/
theorem whole_eq_factorWithin (scope : Scope) (beyond : DataType → Cursor → Reading)
    (type : DataType) (tokens : List Token) :
    expression scope growthLimit (factorWithin scope beyond growthLimit) type
        (Cursor.start tokens) =
      whole scope type tokens :=
  (expression_congr (fun type _ h => (factorWithin_eq scope beyond growthLimit type h).symm)
    (factor_advances scope growthLimit) type (Nat.le_refl growthLimit)).symm

end Reading
end Primer
