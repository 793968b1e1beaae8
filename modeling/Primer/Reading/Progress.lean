import Primer.Reading.Statement

/-!
# Progress of reading

Reading moves forward only: what is left of a line is always an end of it, and what
a statement may still hold never grows.  A line that is given up is used up.

Main definitions:

- `Cursor.Advances` relates a position to a later one.

Main results:

- Theorem `factor_advances`: reading an operand moves forward.
- Theorem `whole_rest_suffix`: an expression leaves an end of its tokens.
- Theorem `readStatement_rest_suffix`: a statement leaves an end of its line.
-/

namespace Primer
namespace Cursor

/-- A position is not before another one in the same line. -/
structure Advances (c later : Cursor) : Prop where
  rest_suffix : later.rest <:+ c.rest
  room_le : later.room ≤ c.room
  rest_of_abandoned : later.abandoned = true → c.abandoned = false → later.rest = []

namespace Advances

theorem refl (c : Cursor) : c.Advances c :=
  ⟨List.suffix_refl _, Nat.le_refl _, fun h h' => absurd h (by simp [h'])⟩

theorem trans {c d e : Cursor} (hcd : c.Advances d) (hde : d.Advances e) : c.Advances e := by
  refine ⟨hde.rest_suffix.trans hcd.rest_suffix, Nat.le_trans hde.room_le hcd.room_le, ?_⟩
  intro he hc
  cases hd : d.abandoned with
  | false => exact hde.rest_of_abandoned he hd
  | true =>
      have hrest := hcd.rest_of_abandoned hd hc
      exact List.suffix_nil.1 (hrest ▸ hde.rest_suffix)

theorem advance (c : Cursor) : c.Advances c.advance :=
  ⟨List.tail_suffix _, Nat.le_refl _, fun h h' => absurd h (by simp [h'])⟩

/-- Growing moves no token back. -/
theorem grow {c inside : Cursor} (h : c.grow? = some inside) : c.Advances inside := by
  obtain ⟨hrest, hroom, habandoned⟩ := grow?_eq_some h
  refine ⟨hrest ▸ List.suffix_refl _, by omega, ?_⟩
  intro hinside hc
  rw [habandoned, hc] at hinside
  cases hinside

/-- A position is followed by the one inside what comes after the next token. -/
theorem advance_grow {c inside : Cursor} (h : c.advance.grow? = some inside) :
    c.Advances inside :=
  (advance c).trans (grow h)

end Advances
end Cursor

namespace Reading

open Cursor

/-- Giving up behind the next token is an advance. -/
theorem abandon_advances (scope : Scope) (e : Expr) (c : Cursor) :
    c.Advances (abandon scope e c.advance).cursor :=
  ⟨List.nil_suffix, Nat.le_refl _, fun _ _ => rfl⟩

/-- A chain of operators advances as its operands do. -/
theorem chain_advances {scope : Scope} {ops : List BinaryOp} {operand : Cursor → Reading}
    (hoperand : ∀ c : Cursor, c.Advances (operand c).cursor) (n : Nat) (left : Expr) (c : Cursor) :
    c.Advances (chain scope ops operand n left c).cursor := by
  induction n generalizing left c with
  | zero =>
      unfold chain
      split
      · exact Advances.refl c
      · exact abandon_advances scope left c
  | succ n ih =>
      unfold chain
      split
      · exact Advances.refl c
      split
      next inside hn hgrow =>
        cases hn
        have hoperand := (Advances.advance_grow hgrow).trans (hoperand inside)
        exact hoperand.trans (ih _ _)
      · exact abandon_advances scope left c

/-- A row advances as its operands do. -/
theorem row_advances {scope : Scope} {ops : List BinaryOp} {operand : Cursor → Reading}
    (hoperand : ∀ c : Cursor, c.Advances (operand c).cursor) (n : Nat) (c : Cursor) :
    c.Advances (row scope ops operand n c).cursor :=
  (hoperand c).trans (chain_advances hoperand n _ _)

theorem sum_advances {scope : Scope} {n : Nat} {operand : DataType → Cursor → Reading}
    (hoperand : ∀ (type : DataType) (c : Cursor), c.Advances (operand type c).cursor) (c : Cursor) :
    c.Advances (sum scope n operand c).cursor :=
  row_advances (row_advances (hoperand .integer) n) n c

theorem condition_advances {scope : Scope} {n : Nat} {operand : DataType → Cursor → Reading}
    (hoperand : ∀ (type : DataType) (c : Cursor), c.Advances (operand type c).cursor) (c : Cursor) :
    c.Advances (condition scope n operand c).cursor := by
  have hleft : c.Advances (sum scope n operand c).cursor := sum_advances hoperand c
  unfold condition
  simp only
  split
  · exact hleft
  split
  · exact hleft.trans (abandon_advances scope (sum scope n operand c).expr _)
  next inside hgrow =>
    exact (hleft.trans (Advances.advance_grow hgrow)).trans (sum_advances hoperand inside)

theorem expression_advances {scope : Scope} {n : Nat} {operand : DataType → Cursor → Reading}
    (hoperand : ∀ (type : DataType) (c : Cursor), c.Advances (operand type c).cursor)
    (type : DataType) (c : Cursor) :
    c.Advances (expression scope n operand type c).cursor := by
  cases type with
  | boolean => exact condition_advances hoperand c
  | string => exact row_advances (hoperand .string) n c
  | integer => exact sum_advances hoperand c
  | unknown => exact sum_advances hoperand c

theorem atom_advances (scope : Scope) (t : Token) (c : Cursor) :
    c.Advances (atom scope t c).cursor := by
  unfold atom
  split
  · split <;> exact Advances.advance c
  · split <;> exact Advances.advance c
  · exact Advances.advance c
  · exact Advances.advance c
  · exact Advances.advance c
  · exact Advances.refl c
  · exact Advances.refl c

/-- Closing a bracket advances behind what stands inside it. -/
theorem closeBracket_advances (scope : Scope) (opening : Token) {c : Cursor} {inner : Reading}
    (hinner : c.Advances inner.cursor) :
    c.Advances (closeBracket scope opening inner).cursor := by
  unfold closeBracket
  split
  · exact hinner
  split
  · exact hinner.trans (Advances.advance inner.cursor)
  · exact hinner

/-- Reading an operand moves forward. -/
theorem factor_advances (scope : Scope) (n : Nat) (type : DataType) (c : Cursor) :
    c.Advances (factor scope n type c).cursor := by
  induction n generalizing type c with
  | zero =>
      unfold factor
      split
      · exact Advances.refl c
      split
      · exact abandon_advances scope .missing c
      split
      · exact abandon_advances scope .missing c
      · exact atom_advances scope _ c
  | succ n ih =>
      unfold factor
      split
      · exact Advances.refl c
      split
      · split
        next inside hn hgrow =>
          cases hn
          have hinside := Advances.advance_grow hgrow
          exact closeBracket_advances scope _ (hinside.trans (expression_advances ih type inside))
        · exact abandon_advances scope .missing c
      split
      · split
        next inside hn hgrow =>
          cases hn
          exact (Advances.advance_grow hgrow).trans (ih type inside)
        · exact abandon_advances scope .missing c
      · exact atom_advances scope _ c

/-- Reading the expression of a statement moves forward. -/
theorem whole_advances (scope : Scope) (type : DataType) (tokens : List Token) :
    (Cursor.start tokens).Advances (whole scope type tokens).cursor :=
  expression_advances (factor_advances scope growthLimit) type _

/-- An expression leaves an end of its tokens. -/
theorem whole_rest_suffix (scope : Scope) (type : DataType) (tokens : List Token) :
    (whole scope type tokens).cursor.rest <:+ tokens :=
  (whole_advances scope type tokens).rest_suffix

end Reading

namespace StatementReading

/-- A declaration leaves an end of its line. -/
theorem declaration_rest_suffix (scope : Scope) (type : DataType) (line : Nat)
    (tokens : List Token) : (declaration scope type line tokens).rest <:+ tokens := by
  unfold declaration
  split
  · exact List.suffix_refl _
  split
  · exact List.suffix_cons _ _
  · exact List.suffix_refl _

/-- A command with a literal leaves what is behind the literal. -/
theorem literalCommand_rest (scope : Scope) (command : Command) (line : Nat) (l : Literal)
    (rest : List Token) : (literalCommand scope command line l rest).rest = rest := by
  cases command <;> rfl

theorem command_rest_suffix (scope : Scope) (command : Command) (line : Nat)
    (tokens : List Token) :
    (StatementReading.command scope command line tokens).rest <:+ tokens := by
  unfold StatementReading.command
  split
  · exact List.suffix_refl _
  split
  · exact List.suffix_cons _ _
  · split
    · exact literalCommand_rest .. ▸ List.suffix_cons _ _
    · exact List.suffix_cons _ _
  · exact literalCommand_rest .. ▸ List.suffix_cons _ _
  · exact List.suffix_refl _

theorem assignment_rest_suffix (scope : Scope) (target : String) (line : Nat)
    (tokens : List Token) : (assignment scope target line tokens).rest <:+ tokens :=
  Reading.whole_rest_suffix scope _ tokens

end StatementReading

/-- A statement leaves an end of its line. -/
theorem readStatement_rest_suffix (scope : Scope) (t : Token) (rest : List Token) :
    (readStatement scope t rest).rest <:+ t :: rest := by
  have hrest : rest <:+ t :: rest := List.suffix_cons t rest
  unfold readStatement
  simp only
  split
  · split
    · exact (StatementReading.declaration_rest_suffix ..).trans hrest
    split
    · exact (StatementReading.command_rest_suffix ..).trans hrest
    split
    · exact List.suffix_refl _
    split
    · exact ((StatementReading.assignment_rest_suffix ..).trans (List.suffix_cons _ _)).trans hrest
    · exact List.suffix_refl _
  · exact List.suffix_refl _

end Primer
