import Primer.Proofs.Concatenation
import Primer.Proofs.Residues

/-!
# The shape of an expression fits its target

The type of the variable that is assigned to decides which nodes an expression may have.
Below the root there is never a comparison, and at the root only where a truth value is
asked for; where texts are joined there is no operator but `+`.  This holds of every
expression that is read, whatever is wrong with it, and folding does not change it.

Main definitions:

- `Expr.Fits` says that the nodes of an expression are such as the grammar of a type
  builds.

Main results:

- Theorems `not_compares_iff`, `isCondition_iff` and `concatenates_iff`: the three shapes,
  told by the nodes.
- Theorem `fits_of_mem_program`: an expression fits the type it was read for.
- Theorem `Expr.Fits.folded`: folding keeps every shape.
- Theorem `expressions_fit`: both together.
-/

namespace Primer

namespace Expr

/-- The node has no operands. -/
def isLeaf : Expr → Bool
  | .literal _ => true
  | .named _ => true
  | .missing => true
  | _ => false

/-- The node is a `+` with two operands. -/
def isSum : Expr → Bool
  | .binary .add _ _ => true
  | _ => false

/-- The nodes of the expression are such as the grammar of the type builds.  The root of an
expression is the last of its nodes. -/
def Fits : DataType → Expr → Prop
  | .integer, e => ∀ node ∈ e.postorder, node.isComparison = false
  | .unknown, e => ∀ node ∈ e.postorder, node.isComparison = false
  | .boolean, e => ∀ node ∈ e.postorder.dropLast, node.isComparison = false
  | .string, e => ∀ node ∈ e.postorder, node.isLeaf = true ∨ node.isSum = true

end Expr

/-! ## Shapes and nodes -/

/-- No comparison is met exactly if none is among the nodes. -/
theorem not_compares_iff {e : Expr} :
    e.compares = false ↔ ∀ node ∈ e.postorder, node.isComparison = false := by
  induction e with
  | literal l => simp [Expr.compares, Expr.postorder, Expr.isComparison]
  | named name => simp [Expr.compares, Expr.postorder, Expr.isComparison]
  | missing => simp [Expr.compares, Expr.postorder, Expr.isComparison]
  | negate operand ih =>
      rw [Expr.compares, ih, Expr.postorder]
      simp [or_imp, forall_and, Expr.isComparison]
  | binary op left right ihl ihr =>
      rw [Expr.compares, Bool.or_eq_false_iff, ihl, ihr, Expr.postorder]
      simp [or_imp, forall_and, Expr.isComparison]
  | compare comparison left right ihl ihr =>
      have hcompares : (Expr.compare comparison left right).compares = true := rfl
      refine iff_of_false (by simp [hcompares]) fun hnone => ?_
      have hroot := hnone (.compare comparison left right) (by simp [Expr.postorder])
      cases hroot

/-- An expression is a condition exactly if no node but the root is a comparison. -/
theorem isCondition_iff {e : Expr} :
    e.IsCondition ↔ ∀ node ∈ e.postorder.dropLast, node.isComparison = false := by
  cases e with
  | literal l => simp [Expr.IsCondition, Expr.compares, Expr.postorder]
  | named name => simp [Expr.IsCondition, Expr.compares, Expr.postorder]
  | missing => simp [Expr.IsCondition, Expr.compares, Expr.postorder]
  | negate operand =>
      show operand.compares = false ↔ _
      rw [not_compares_iff, Expr.postorder, List.dropLast_concat]
  | binary op left right =>
      show (left.compares || right.compares) = false ↔ _
      rw [Bool.or_eq_false_iff, not_compares_iff, not_compares_iff, Expr.postorder,
        List.dropLast_concat, List.forall_mem_append]
  | compare comparison left right =>
      rw [Expr.IsCondition, not_compares_iff, not_compares_iff, Expr.postorder,
        List.dropLast_concat, List.forall_mem_append]

/-- An expression joins texts exactly if its inner nodes are all written by `+`. -/
theorem concatenates_iff {e : Expr} :
    Concatenates e ↔ ∀ node ∈ e.postorder, node.isLeaf = true ∨ node.isSum = true := by
  constructor
  · intro h
    induction h with
    | literal l => simp [Expr.postorder, Expr.isLeaf]
    | named name => simp [Expr.postorder, Expr.isLeaf]
    | missing => simp [Expr.postorder, Expr.isLeaf]
    | joined hleft hright ihleft ihright =>
        rw [Expr.postorder, List.forall_mem_append, List.forall_mem_append]
        exact ⟨⟨ihleft, ihright⟩, by simp [Expr.isSum]⟩
  · intro h
    -- The root, as one of the nodes, is a leaf or a `+`.
    have hroot := h e (List.mem_of_getLast? e.getLast?_postorder)
    induction e with
    | literal l => exact .literal l
    | named name => exact .named name
    | missing => exact .missing
    | negate operand ih => simp [Expr.isLeaf, Expr.isSum] at hroot
    | compare comparison left right ihl ihr => simp [Expr.isLeaf, Expr.isSum] at hroot
    | binary op left right ihl ihr =>
        rw [Expr.postorder, List.forall_mem_append, List.forall_mem_append] at h
        obtain ⟨⟨hleft, hright⟩, -⟩ := h
        have hl := ihl hleft (hleft left (List.mem_of_getLast? left.getLast?_postorder))
        have hr := ihr hright (hright right (List.mem_of_getLast? right.getLast?_postorder))
        cases op with
        | add => exact .joined hl hr
        | _ => simp [Expr.isLeaf, Expr.isSum] at hroot

/-! ## Reading -/

/-- An expression fits the type it was read for. -/
theorem fits_of_mem_program {tokens : List Token} {target : String} {type : DataType}
    {value : Expr} {line : Nat} (h : .assign target type value line ∈ (parse tokens).program) :
    value.Fits type := by
  have hsum (hrow : Nonterminal.ofType type = .row .sum) : value.compares = false := by
    rcases exists_whole_of_mem_program h with ⟨scope, rest, rfl⟩
    refine Reading.compares_of_composed (Reading.composed_whole scope type rest) ?_
    rw [hrow]
    exact Nonterminal.noConfusion
  cases type with
  | integer => exact not_compares_iff.1 (hsum rfl)
  | unknown => exact not_compares_iff.1 (hsum rfl)
  | boolean => exact isCondition_iff.1 (isCondition_of_mem_program h)
  | string => exact concatenates_iff.1 (concatenates_of_mem_program h)

/-! ## Folding -/

/-- Folding brings no comparison into an expression. -/
theorem compares_folded (line : Nat) {e : Expr} (h : e.compares = false) :
    (foldComparisons line (foldArithmetic line e).expr).expr.compares = false := by
  have harithmetic := compares_foldArithmetic line h
  rwa [foldComparisons_of_not_compares harithmetic]

/-- A comparison at the root stays there or is decided. -/
theorem isCondition_folded (line : Nat) {e : Expr} (h : e.IsCondition) :
    (foldComparisons line (foldArithmetic line e).expr).expr.IsCondition := by
  cases e with
  | compare comparison left right =>
      have hleft := compares_folded line h.1
      have hright := compares_folded line h.2
      rw [decides_foldComparisons_foldArithmetic.compare_eq]
      rcases settleCompare_cases line comparison
          (foldComparisons line (foldArithmetic line left).expr).expr
          (foldComparisons line (foldArithmetic line right).expr).expr with
        hkept | ⟨_, _, n, -, -, hn⟩
      · rw [hkept]
        exact ⟨hleft, hright⟩
      · rw [hn]
        rfl
  | _ => exact Expr.isCondition_of_not_compares (compares_folded line h)

/-- Folding keeps every shape. -/
theorem Expr.Fits.folded {type : DataType} {e : Expr} (h : e.Fits type) (line : Nat) :
    (foldComparisons line (foldArithmetic line e).expr).expr.Fits type := by
  cases type with
  | integer => exact not_compares_iff.1 (compares_folded line (not_compares_iff.2 h))
  | unknown => exact not_compares_iff.1 (compares_folded line (not_compares_iff.2 h))
  | boolean => exact isCondition_iff.1 (isCondition_folded line (isCondition_iff.2 h))
  | string =>
      have hfolded := (concatenates_iff.2 h).foldArithmetic line
      rw [Expr.Fits, hfolded.foldComparisons line]
      exact concatenates_iff.1 hfolded

/-- Whatever is wrong with the tokens of a program, an expression in it has no comparison,
if its target is an integer or not declared; none below the root, if its target is a truth
value; and no operator but `+`, if its target is a text.  Folding leaves an expression of
each of these shapes, in any program, in its place and in its shape. -/
theorem expressions_fit :
    (∀ (tokens : List Token) (target : String) (type : DataType) (value : Expr) (line : Nat),
      .assign target type value line ∈ (parse tokens).program → value.Fits type) ∧
    ∀ (program : Program) (i : Nat) (target : String) (type : DataType) (value : Expr)
      (line : Nat), program[i]? = some (.assign target type value line) →
        ∃ folded,
          (foldConstants program).program[i]? = some (.assign target type folded line) ∧
            ∀ shape, value.Fits shape → folded.Fits shape := by
  refine ⟨fun tokens target type value line h => fits_of_mem_program h, ?_⟩
  intro program i target type value line h
  refine ⟨_, ?_, fun shape hfits => hfits.folded line⟩
  rw [getElem?_program_foldConstants, h]
  rfl

/-- A comparison between brackets is an error.  What is read of it has the comparison at the
root, and keeps its shape when it is folded. -/
theorem expressions_fit_bracketedComparison :
    let tokens := (scan "BOOL b\nb = 1 + (2 == 3) * x\n").tokens
    let value : Expr := .compare .equal (.binary .add (.int 1) (.int 2)) (.int 3)
    (parse tokens).diagnostics =
        [.grammar (.missingClosingBracket 2 "=="), .grammar (.unexpectedToken 2 ")")] ∧
      (parse tokens).program[1]? = some (.assign "B" .boolean value 2) ∧
      value.Fits .boolean ∧
      ∃ folded, (foldConstants (parse tokens).program).program[1]? =
          some (.assign "B" .boolean folded 2) ∧
        ∀ shape, value.Fits shape → folded.Fits shape := by
  intro tokens value
  have hdiagnostics : (parse tokens).diagnostics =
      [.grammar (.missingClosingBracket 2 "=="), .grammar (.unexpectedToken 2 ")")] := by
    decide +kernel
  have hvalue : (parse tokens).program[1]? = some (.assign "B" .boolean value 2) := by
    decide +kernel
  exact ⟨hdiagnostics, hvalue,
    expressions_fit.1 tokens "B" .boolean value 2 (List.mem_of_getElem? hvalue),
    expressions_fit.2 (parse tokens).program 1 "B" .boolean value 2 hvalue⟩

end Primer
