import Primer.Proofs.Grammar.Composition

/-!
# Comparisons in expressions

Reading puts a comparison at the root of an expression and nowhere else.  An
expression that was not read may hold comparisons anywhere, also below operators;
how deep they are buried is counted along the paths from the root to the leaves.

Main definitions:

- `Expr.compares` says that there is a comparison in an expression, and
  `Expr.IsCondition` that there is none but at its root.
- `Expr.paths` lists the paths of an expression, and `buriedComparisons` counts the
  comparisons below an operator on one of them.
- `comparisonDepth` is the greatest such number in a program.

Main results:

- Theorem `isCondition_of_mem_program`: the expressions of a program that was read
  have comparisons only at their roots.
- Theorem `comparisonDepth_parse`: no comparison in such a program is buried.
-/

namespace Primer

/-! ## Where comparisons stand -/

namespace Expr

/-- The node is a comparison. -/
def isComparison : Expr → Bool
  | .compare _ _ _ => true
  | _ => false

/-- There is a comparison in the expression. -/
def compares : Expr → Bool
  | .literal _ => false
  | .named _ => false
  | .negate operand => operand.compares
  | .binary _ left right => left.compares || right.compares
  | .compare _ _ _ => true
  | .missing => false

/-- There is no comparison in the expression but at its root. -/
def IsCondition : Expr → Prop
  | .compare _ left right => left.compares = false ∧ right.compares = false
  | e => e.compares = false

/-- The paths from the root to the leaves, each as the nodes on it, root first. -/
def paths : Expr → List (List Expr)
  | .literal l => [[.literal l]]
  | .named name => [[.named name]]
  | .negate operand => operand.paths.map (.negate operand :: ·)
  | .binary op left right => (left.paths ++ right.paths).map (.binary op left right :: ·)
  | .compare comparison left right =>
      (left.paths ++ right.paths).map (.compare comparison left right :: ·)
  | .missing => [[.missing]]

/-- Every expression has a path to a leaf. -/
theorem paths_ne_nil (e : Expr) : e.paths ≠ [] := by
  induction e with
  | literal l => simp [paths]
  | named name => simp [paths]
  | negate operand ih => simpa [paths] using ih
  | binary op left right ihl ihr => simp [paths, ihl]
  | compare comparison left right ihl ihr => simp [paths, ihl]
  | missing => simp [paths]

/-- A path starts at the root. -/
theorem exists_cons_of_mem_paths {e : Expr} {path : List Expr} (h : path ∈ e.paths) :
    ∃ below, path = e :: below := by
  cases e with
  | literal l => exact ⟨[], List.mem_singleton.1 h⟩
  | named name => exact ⟨[], List.mem_singleton.1 h⟩
  | missing => exact ⟨[], List.mem_singleton.1 h⟩
  | negate operand =>
      rcases List.mem_map.1 h with ⟨below, -, rfl⟩
      exact ⟨below, rfl⟩
  | binary op left right =>
      rcases List.mem_map.1 h with ⟨below, -, rfl⟩
      exact ⟨below, rfl⟩
  | compare comparison left right =>
      rcases List.mem_map.1 h with ⟨below, -, rfl⟩
      exact ⟨below, rfl⟩

theorem isCondition_of_not_compares {e : Expr} (h : e.compares = false) : e.IsCondition := by
  cases e with
  | compare comparison left right => cases h
  | _ => exact h

end Expr

/-- The number of comparisons on a path that have an operator above them. -/
def buriedComparisons (path : List Expr) : Nat :=
  (path.dropWhile Expr.isComparison).countP Expr.isComparison

/-- The expression that a statement assigns. -/
def Statement.value? : Statement → Option Expr
  | .assign _ _ value _ => some value
  | _ => none

/-- The greatest number of comparisons below an operator on one path of an assigned
expression. -/
def comparisonDepth (program : Program) : Nat :=
  (((program.filterMap Statement.value?).flatMap Expr.paths).map buriedComparisons).max?.getD 0

/-- No path of an assigned expression has more buried comparisons than the depth. -/
theorem buriedComparisons_le {program : Program} {s : Statement} {value : Expr} {path : List Expr}
    (hs : s ∈ program) (hvalue : s.value? = some value) (hpath : path ∈ value.paths) :
    buriedComparisons path ≤ comparisonDepth program := by
  refine List.le_max?_getD_of_mem (List.mem_map_of_mem ?_)
  exact List.mem_flatMap.2 ⟨value, List.mem_filterMap.2 ⟨s, hs, hvalue⟩, hpath⟩

/-- The depth is the number on some path, unless it is zero. -/
theorem comparisonDepth_eq_zero {program : Program}
    (h : ∀ s ∈ program, ∀ value, s.value? = some value → ∀ path ∈ value.paths,
      buriedComparisons path = 0) : comparisonDepth program = 0 := by
  unfold comparisonDepth
  cases hmax : (((program.filterMap Statement.value?).flatMap Expr.paths).map
      buriedComparisons).max? with
  | none => rfl
  | some n =>
      rcases List.mem_map.1 (List.max?_mem hmax) with ⟨path, hpath, rfl⟩
      rcases List.mem_flatMap.1 hpath with ⟨value, hvalue, hpath⟩
      rcases List.mem_filterMap.1 hvalue with ⟨s, hs, hvalue⟩
      exact h s hs value hvalue path hpath

/-! ## Expressions without buried comparisons -/

/-- No path through an expression without comparisons meets one. -/
theorem countP_path_of_not_compares {e : Expr} (h : e.compares = false) {path : List Expr}
    (hpath : path ∈ e.paths) : path.countP Expr.isComparison = 0 := by
  induction e generalizing path with
  | literal l => simp_all [Expr.paths, Expr.isComparison]
  | named name => simp_all [Expr.paths, Expr.isComparison]
  | missing => simp_all [Expr.paths, Expr.isComparison]
  | negate operand ih =>
      rcases List.mem_map.1 hpath with ⟨below, hbelow, rfl⟩
      simpa [Expr.isComparison] using ih h hbelow
  | binary op left right ihl ihr =>
      rcases List.mem_map.1 hpath with ⟨below, hbelow, rfl⟩
      rcases Bool.or_eq_false_iff.1 h with ⟨hleft, hright⟩
      rcases List.mem_append.1 hbelow with hbelow | hbelow
      · simpa [Expr.isComparison] using ihl hleft hbelow
      · simpa [Expr.isComparison] using ihr hright hbelow
  | compare comparison left right ihl ihr => cases h

/-- A path buries no more comparisons than it has. -/
theorem buriedComparisons_le_countP (path : List Expr) :
    buriedComparisons path ≤ path.countP Expr.isComparison :=
  (List.dropWhile_sublist _).countP_le

/-- Below a comparison at the root nothing is buried yet. -/
theorem buriedComparisons_compare (comparison : Comparison) (left right : Expr)
    (path : List Expr) :
    buriedComparisons (.compare comparison left right :: path) = buriedComparisons path := by
  simp [buriedComparisons, Expr.isComparison, List.dropWhile_cons]

/-- A comparison at the root is not buried. -/
theorem buriedComparisons_of_isCondition {e : Expr} (h : e.IsCondition) {path : List Expr}
    (hpath : path ∈ e.paths) : buriedComparisons path = 0 := by
  have hplain (operand : Expr) (hoperand : operand.compares = false) (below : List Expr)
      (hbelow : below ∈ operand.paths) : buriedComparisons below = 0 := by
    have hcount := countP_path_of_not_compares hoperand hbelow
    have hle := buriedComparisons_le_countP below
    omega
  cases e with
  | compare comparison left right =>
      rcases List.mem_map.1 hpath with ⟨below, hbelow, rfl⟩
      rw [buriedComparisons_compare]
      rcases List.mem_append.1 hbelow with hbelow | hbelow
      · exact hplain left h.1 below hbelow
      · exact hplain right h.2 below hbelow
  | _ => exact hplain _ h path hpath

/-! ## Reading -/

theorem Row.operand_ne_condition (row : Row) : row.operand ≠ .condition := by
  cases row <;> exact Nonterminal.noConfusion

theorem Mode.bracketed_ne_condition (mode : Mode) : mode.bracketed ≠ .condition := by
  cases mode <;> exact Nonterminal.noConfusion

namespace Reading

/-- Only a condition is read with a comparison in it. -/
theorem compares_of_composed {scope : Scope} {form : Nonterminal} {c : Cursor} {r : Reading}
    (h : Composed scope form c r) (hform : form ≠ .condition) : r.expr.compares = false := by
  induction h with
  | named hrest hkind => rfl
  | literal hrest hliteral => rfl
  | outOfRange hrest hkind hvalue => rfl
  | absent hends => rfl
  | misplaced hrest hkind hbracket hminus => rfl
  | @bracketed mode c inside t rest inner hrest hbracket hgrow hinner ih =>
      rw [closeBracket_expr]
      exact ih mode.bracketed_ne_condition
  | negated hrest hminus hgrow hinner ih => exact ih Nonterminal.noConfusion
  | refused hrest hopens hroom => rfl
  | @single row c r h ih => exact ih row.operand_ne_condition
  | @joined row c inside left right op hleft hop hgrow hright ihleft ihright =>
      exact Bool.or_eq_false_iff.2 ⟨ihleft hform, ihright row.operand_ne_condition⟩
  | cutRow hleft hop hroom ih => exact ih hform
  | plain h ih => exact absurd rfl hform
  | compared hleft hcomparison hgrow hright ihleft ihright => exact absurd rfl hform
  | cutCondition hleft hcomparison hroom ih => exact absurd rfl hform

/-- A comparison is read at the root of an expression only. -/
theorem isCondition_of_composed {scope : Scope} {form : Nonterminal} {c : Cursor} {r : Reading}
    (h : Composed scope form c r) : r.expr.IsCondition := by
  have hrow {c : Cursor} {r : Reading} (hr : Composed scope (.row .sum) c r) :
      r.expr.compares = false := compares_of_composed hr Nonterminal.noConfusion
  by_cases hform : form = .condition
  · subst hform
    cases h with
    | plain h => exact Expr.isCondition_of_not_compares (hrow h)
    | compared hleft hcomparison hgrow hright => exact ⟨hrow hleft, hrow hright⟩
    | cutCondition hleft hcomparison hroom =>
        have hkept := hrow hleft
        exact Expr.isCondition_of_not_compares hkept
  · exact Expr.isCondition_of_not_compares (compares_of_composed h hform)

end Reading

/-- The expressions of a program that was read have comparisons only at their roots. -/
theorem isCondition_of_mem_program {tokens : List Token} {target : String} {type : DataType}
    {value : Expr} {line : Nat} (h : .assign target type value line ∈ (parse tokens).program) :
    value.IsCondition := by
  rcases exists_whole_of_mem_program h with ⟨scope, rest, rfl⟩
  exact Reading.isCondition_of_composed (Reading.composed_whole scope type rest)

/-- No comparison in a program that was read is buried. -/
theorem comparisonDepth_parse (tokens : List Token) :
    comparisonDepth (parse tokens).program = 0 := by
  refine comparisonDepth_eq_zero fun s hs value hvalue path hpath => ?_
  cases s with
  | declare name type line => cases hvalue
  | perform command argument line => cases hvalue
  | assign target type value line =>
      cases hvalue
      exact buriedComparisons_of_isCondition (isCondition_of_mem_program hs) hpath

end Primer
