import Primer.Proofs.Faults
import Primer.Proofs.Placement

/-!
# Concatenations under folding

An expression that is assigned to a text joins its operands by `+` and does nothing
else.  Folding does not know the type of the target: it carries out a `+` between two
numbers also where texts are joined.  Without such a `+` it leaves the expression alone.

Main definitions:

- `Concatenates` says that an expression joins operands by `+` only.

Main results:

- Theorem `concatenates_of_composed`: what is read where texts are joined is such an
  expression.
- Theorem `text_assignment_kept_iff`: folding leaves the assignment to a text alone
  exactly when no `+` in it has two numbers as operands.
-/

namespace Primer

/-- The expression joins names and constants by `+`. -/
inductive Concatenates : Expr → Prop where
  | literal (l : Literal) : Concatenates (.literal l)
  | named (name : String) : Concatenates (.named name)
  | missing : Concatenates .missing
  | joined {left right : Expr} (hleft : Concatenates left) (hright : Concatenates right) :
      Concatenates (.binary .add left right)

/-! ## Reading -/

/-- The form is one in which texts are joined. -/
def Nonterminal.joinsTexts : Nonterminal → Bool
  | .operand mode => mode == .text
  | .row kind => kind == .concatenation
  | .condition => false

theorem joinsTexts_operand : Nonterminal.joinsTexts (Row.operand .concatenation) = true :=
  rfl

/-- What is read where texts are joined, in silence or not, is a concatenation. -/
theorem concatenates_of_composed {scope : Scope} {form : Nonterminal} {c : Cursor} {r : Reading}
    (h : Reading.Composed scope form c r) (hform : form.joinsTexts = true) :
    Concatenates r.expr := by
  induction h with
  | named hrest hkind => exact .named _
  | literal hrest hliteral => exact .literal _
  | outOfRange hrest hkind hvalue => exact .missing
  | absent hends => exact .missing
  | misplaced hrest hkind hbracket hminus => exact .missing
  | @bracketed mode c inside t rest inner hrest hbracket hgrow hinner ih =>
      have hmode : mode = .text := by simpa [Nonterminal.joinsTexts] using hform
      subst hmode
      rw [Reading.closeBracket_expr]
      exact ih rfl
  | negated hrest hminus hgrow hinner ih => cases hform
  | refused hrest hopens hroom => exact .missing
  | @single row c r h ih =>
      have hrow : row = .concatenation := by simpa [Nonterminal.joinsTexts] using hform
      subst hrow
      exact ih joinsTexts_operand
  | @joined row c inside left right op hleft hop hgrow hright ihleft ihright =>
      have hrow : row = .concatenation := by simpa [Nonterminal.joinsTexts] using hform
      subst hrow
      have hadd : op = .add := List.mem_singleton.1 (Cursor.binaryOp?_eq_some hop).1
      subst hadd
      exact .joined (ihleft hform) (ihright joinsTexts_operand)
  | cutRow hleft hop hroom ih => exact ih hform
  | plain h ih => cases hform
  | compared hleft hcomparison hgrow hright ihleft ihright => cases hform
  | cutCondition hleft hcomparison hroom ih => cases hform

/-- The expressions that a program assigns to texts are concatenations. -/
theorem concatenates_of_mem_program {tokens : List Token} {target : String} {value : Expr}
    {line : Nat} (h : .assign target .string value line ∈ (parse tokens).program) :
    Concatenates value := by
  rcases exists_whole_of_mem_program h with ⟨scope, rest, hvalue⟩
  have hwhole := Reading.composed_whole scope .string rest
  rw [hvalue]
  exact concatenates_of_composed hwhole rfl

/-! ## Folding -/

/-- Arithmetic makes a concatenation of a concatenation. -/
theorem Concatenates.foldArithmetic {e : Expr} (h : Concatenates e) (line : Nat) :
    Concatenates (foldArithmetic line e).expr := by
  induction h with
  | literal l => exact .literal l
  | named name => exact .named name
  | missing => exact .missing
  | @joined left right hleft hright ihleft ihright =>
      show Concatenates (settleBinary line .add _ _).expr
      unfold settleBinary
      split
      · unfold settle
        split
        · exact .literal _
        · exact .joined ihleft ihright
      · exact .joined ihleft ihright

/-- There is no comparison to decide in a concatenation. -/
theorem Concatenates.foldComparisons {e : Expr} (h : Concatenates e) (line : Nat) :
    (foldComparisons line e).expr = e := by
  induction h with
  | literal l => rfl
  | named name => rfl
  | missing => rfl
  | joined hleft hright ihleft ihright =>
      show Expr.binary .add _ _ = _
      rw [ihleft, ihright]

/-- Of an assigned concatenation folding leaves what the walk over it that does
arithmetic leaves. -/
theorem Concatenates.folded_assign {value : Expr} (h : Concatenates value) (target : String)
    (type : DataType) (line : Nat) :
    (Statement.assign target type value line).folded =
      .assign target type (Primer.foldArithmetic line value).expr line := by
  show Statement.assign target type _ line = _
  rw [(h.foldArithmetic line).foldComparisons line]

/-! ## Programs -/

/-- A statement of a source has no fault exactly when no fault of the whole program names
its line. -/
theorem faults_eq_nil_iff (source : String) {i : Nat} {s : Statement}
    (hs : (parse (scan source).tokens).program[i]? = some s) :
    s.faults = [] ↔
      ∀ fault ∈ (foldConstants (parse (scan source).tokens).program).faults,
        fault.line ≠ s.line := by
  have hs := List.mem_of_getElem? hs
  rw [faults_foldConstants]
  constructor
  · intro hnone fault hfault hline
    rcases List.mem_flatMap.1 hfault with ⟨other, hother, hfault⟩
    have hsame : other.line = s.line := (line_of_mem_faults hfault).symm.trans hline
    have heq : other = s := eq_of_line_eq hother hs hsame
    subst heq
    simp [hnone] at hfault
  · intro hfree
    refine List.eq_nil_iff_forall_not_mem.2 fun fault hfault => ?_
    exact hfree fault (List.mem_flatMap.2 ⟨s, hs, hfault⟩) (line_of_mem_faults hfault)

/-- Folding leaves the assignment of an expression to a text alone, and reports no fault
for it, exactly when no operator of the expression has two numbers as operands. -/
theorem text_assignment_kept_iff (source : String) {i : Nat} {target : String} {value : Expr}
    {line : Nat}
    (hs : (parse (scan source).tokens).program[i]? = some (.assign target .string value line)) :
    ((foldConstants (parse (scan source).tokens).program).program[i]? =
          some (.assign target .string value line) ∧
        ∀ fault ∈ (foldConstants (parse (scan source).tokens).program).faults,
          fault.line ≠ line) ↔
      value.calculates = false := by
  have hvalue := concatenates_of_mem_program (List.mem_of_getElem? hs)
  have hfolded : (foldConstants (parse (scan source).tokens).program).program[i]? =
      some (.assign target .string (foldArithmetic line value).expr line) := by
    rw [getElem?_program_foldConstants, hs, Option.map_some, hvalue.folded_assign]
  have hfaults : (foldArithmetic line value).faults = [] ↔
      ∀ fault ∈ (foldConstants (parse (scan source).tokens).program).faults, fault.line ≠ line :=
    faults_eq_nil_iff source hs
  rw [hfolded, ← hfaults, ← foldArithmetic_keeps_iff line value]
  simp [FoldedExpr.Keeps]

/-- Two quoted texts stay as they are written. -/
theorem text_assignment_kept_quoted :
    (foldConstants (parse (scan "STRING s\ns = \"1\" + \"2\"\n").tokens).program).program[1]? =
        some (.assign "S" .string (.binary .add (.literal (.text "1")) (.literal (.text "2"))) 2) ∧
      ∀ fault ∈
          (foldConstants (parse (scan "STRING s\ns = \"1\" + \"2\"\n").tokens).program).faults,
        fault.line ≠ 2 := by
  have hs : (parse (scan "STRING s\ns = \"1\" + \"2\"\n").tokens).program[1]? =
      some (.assign "S" .string
        (.binary .add (.literal (.text "1")) (.literal (.text "2"))) 2) := by
    decide +kernel
  exact (text_assignment_kept_iff _ hs).2 rfl

/-- Two numbers that are joined and assigned to a text are added instead, in a source with
which nothing is wrong. -/
theorem numbers_added_in_text :
    (parse (scan "STRING s\ns = 1 + 2\n").tokens).diagnostics = [] ∧
      (parse (scan "STRING s\ns = 1 + 2\n").tokens).program[1]? =
        some (.assign "S" .string (.binary .add (.int 1) (.int 2)) 2) ∧
      (foldConstants (parse (scan "STRING s\ns = 1 + 2\n").tokens).program).program[1]? =
        some (.assign "S" .string (.int 3) 2) := by
  refine ⟨?_, ?_, ?_⟩
  · decide +kernel
  · decide +kernel
  · decide +kernel

end Primer
