import Mathlib.Data.List.Basic
import Primer.Proofs.Comparisons
import Primer.Proofs.Faults

/-!
# Folding again

Deciding a comparison below an operator can make room for more arithmetic, which is
only carried out when the program is folded again.  Each such round uses up one buried
comparison of every path, so the number of rounds that can change something is known
in advance.

Main definitions:

- `refold` is a program after a number of rounds of folding, and `Expr.refolded` the
  same for an expression.
- `Expr.settled` is the form in which an expression stays.
- `CarriesOut` and `Decides` say what a walk does to the operators of an expression
  on which it acts.

Main results:

- Theorem `foldArithmetic_refolded`: as many rounds as there are comparisons on a path
  leave no arithmetic that one more walk cannot do.
- Theorem `refolded_eq_settled`: one more round than there are buried comparisons on a
  path settles an expression.
- Theorem `folding_settles`: the same for a program and its faults.
-/

namespace Primer

/-- A program after `n` rounds of folding. -/
def refold (program : Program) : Nat → Program
  | 0 => program
  | n + 1 => (foldConstants (refold program n)).program

namespace Expr

/-- An expression after `n` rounds, each of arithmetic first and comparisons then. -/
def refolded (line : Nat) (e : Expr) : Nat → Expr
  | 0 => e
  | n + 1 => (foldComparisons line (foldArithmetic line (e.refolded line n)).expr).expr

/-- The form in which an expression stays: every operation that has a result on
constants is carried out, from the leaves to the root. -/
def settled (line : Nat) : Expr → Expr
  | .literal l => .literal l
  | .named name => .named name
  | .negate operand => (settleNegate line (operand.settled line)).expr
  | .binary op left right => (settleBinary line op (left.settled line) (right.settled line)).expr
  | .compare comparison left right =>
      (settleCompare line comparison (left.settled line) (right.settled line)).expr
  | .missing => .missing

end Expr

section

variable {line : Nat}

/-! ## One operation -/

/-- An operation stays as it is written, or becomes a constant without a fault. -/
theorem settle_cases (line : Nat) (before : Expr) (op : BinaryOp) (l r : Int32) :
    (settle line before op l r).expr = before ∨
      ∃ n, (settle line before op l r).expr = .int n ∧ (settle line before op l r).faults = [] := by
  unfold settle
  cases op.apply l r with
  | ok n => exact .inr ⟨n, rfl, rfl⟩
  | error reason => exact .inl rfl

/-- Only the negation of a constant becomes a constant. -/
theorem settleNegate_cases (line : Nat) (x : Expr) :
    (settleNegate line x).expr = .negate x ∨
      ∃ m n, x = .int m ∧ (settleNegate line x).expr = .int n ∧
        (settleNegate line x).faults = [] := by
  cases hint : x.int? with
  | none => simp [settleNegate, hint, FoldedExpr.keep]
  | some m =>
      obtain rfl := Expr.int?_eq_some_iff.1 hint
      rcases settle_cases line (.negate (.int m)) .sub 0 m with hkept | ⟨n, hn, hfaults⟩
      · exact .inl hkept
      · exact .inr ⟨m, n, rfl, hn, hfaults⟩

/-- Only an operation on two constants becomes a constant. -/
theorem settleBinary_cases (line : Nat) (op : BinaryOp) (x y : Expr) :
    (settleBinary line op x y).expr = .binary op x y ∨
      ∃ l r n, x = .int l ∧ y = .int r ∧ (settleBinary line op x y).expr = .int n ∧
        (settleBinary line op x y).faults = [] := by
  cases hx : x.int? with
  | none => simp [settleBinary, hx, FoldedExpr.keep]
  | some l =>
      cases hy : y.int? with
      | none => simp [settleBinary, hx, hy, FoldedExpr.keep]
      | some r =>
          obtain rfl := Expr.int?_eq_some_iff.1 hx
          obtain rfl := Expr.int?_eq_some_iff.1 hy
          rcases settle_cases line (.binary op (.int l) (.int r)) op l r with
            hkept | ⟨n, hn, hfaults⟩
          · exact .inl hkept
          · exact .inr ⟨l, r, n, rfl, rfl, hn, hfaults⟩

/-- Only a comparison of two constants becomes a constant. -/
theorem settleCompare_cases (line : Nat) (comparison : Comparison) (x y : Expr) :
    (settleCompare line comparison x y).expr = .compare comparison x y ∨
      ∃ l r n, x = .int l ∧ y = .int r ∧ (settleCompare line comparison x y).expr = .int n := by
  cases hx : x.int? with
  | none => simp [settleCompare, hx, FoldedExpr.keep]
  | some l =>
      cases hy : y.int? with
      | none => simp [settleCompare, hx, hy, FoldedExpr.keep]
      | some r =>
          obtain rfl := Expr.int?_eq_some_iff.1 hx
          obtain rfl := Expr.int?_eq_some_iff.1 hy
          exact .inr ⟨l, r, _, rfl, rfl, rfl⟩

/-! ## Walks -/

/-- The walk does arithmetic from the operands to the operator. -/
structure CarriesOut (line : Nat) (walk : Expr → Expr) : Prop where
  int_eq : ∀ n, walk (.int n) = .int n
  negate_eq : ∀ x, walk (.negate x) = (settleNegate line (walk x)).expr
  binary_eq : ∀ op x y, walk (.binary op x y) = (settleBinary line op (walk x) (walk y)).expr

/-- The walk decides comparisons from the operands to the comparison. -/
structure Decides (line : Nat) (walk : Expr → Expr) : Prop where
  int_eq : ∀ n, walk (.int n) = .int n
  compare_eq : ∀ comparison x y,
    walk (.compare comparison x y) = (settleCompare line comparison (walk x) (walk y)).expr

/-- The first walk of a round does arithmetic. -/
theorem carriesOut_foldArithmetic : CarriesOut line fun e => (foldArithmetic line e).expr :=
  ⟨fun _ => rfl, fun _ => rfl, fun _ _ _ => rfl⟩

/-- Comparisons may be decided first: that leaves the operators to the arithmetic. -/
theorem carriesOut_foldArithmetic_foldComparisons :
    CarriesOut line fun e => (foldArithmetic line (foldComparisons line e).expr).expr :=
  ⟨fun _ => rfl, fun _ => rfl, fun _ _ _ => rfl⟩

/-- The second walk of a round decides comparisons. -/
theorem decides_foldComparisons : Decides line fun e => (foldComparisons line e).expr :=
  ⟨fun _ => rfl, fun _ _ _ => rfl⟩

/-- Arithmetic may be done first: that leaves the comparisons to be decided. -/
theorem decides_foldComparisons_foldArithmetic :
    Decides line fun e => (foldComparisons line (foldArithmetic line e).expr).expr :=
  ⟨fun _ => rfl, fun _ _ _ => rfl⟩

/-- Carrying out a negation earlier makes no difference to the walk. -/
theorem CarriesOut.settleNegate {walk : Expr → Expr} (h : CarriesOut line walk) (x : Expr) :
    walk (settleNegate line x).expr = (Primer.settleNegate line (walk x)).expr := by
  rcases settleNegate_cases line x with hkept | ⟨m, n, rfl, hn, -⟩
  · rw [hkept, h.negate_eq]
  · rw [hn, h.int_eq, h.int_eq, hn]

/-- Carrying out an operation earlier makes no difference to the walk. -/
theorem CarriesOut.settleBinary {walk : Expr → Expr} (h : CarriesOut line walk) (op : BinaryOp)
    (x y : Expr) :
    walk (settleBinary line op x y).expr =
      (Primer.settleBinary line op (walk x) (walk y)).expr := by
  rcases settleBinary_cases line op x y with hkept | ⟨l, r, n, rfl, rfl, hn, -⟩
  · rw [hkept, h.binary_eq]
  · rw [hn, h.int_eq, h.int_eq, h.int_eq, hn]

/-- Deciding a comparison earlier makes no difference to the walk. -/
theorem Decides.settleCompare {walk : Expr → Expr} (h : Decides line walk)
    (comparison : Comparison) (x y : Expr) :
    walk (settleCompare line comparison x y).expr =
      (Primer.settleCompare line comparison (walk x) (walk y)).expr := by
  rcases settleCompare_cases line comparison x y with hkept | ⟨l, r, n, rfl, rfl, hn⟩
  · rw [hkept, h.compare_eq]
  · rw [hn, h.int_eq, h.int_eq, h.int_eq, hn]

/-! ## Settled expressions -/

/-- There is no more arithmetic to do in a settled expression. -/
theorem foldArithmetic_settled (e : Expr) :
    (foldArithmetic line (e.settled line)).expr = e.settled line := by
  induction e with
  | literal l => rfl
  | named name => rfl
  | missing => rfl
  | negate operand ih =>
      rw [Expr.settled, carriesOut_foldArithmetic.settleNegate, ih]
  | binary op left right ihl ihr =>
      rw [Expr.settled, carriesOut_foldArithmetic.settleBinary, ihl, ihr]
  | compare comparison left right ihl ihr =>
      rw [Expr.settled]
      rcases settleCompare_cases line comparison (left.settled line)
        (right.settled line) with hkept | ⟨l, r, n, -, -, hn⟩
      · rw [hkept, foldArithmetic, ihl, ihr]
      · rw [hn]
        rfl

/-- There is no comparison to decide in a settled expression. -/
theorem foldComparisons_settled (e : Expr) :
    (foldComparisons line (e.settled line)).expr = e.settled line := by
  induction e with
  | literal l => rfl
  | named name => rfl
  | missing => rfl
  | negate operand ih =>
      rw [Expr.settled]
      rcases settleNegate_cases line (operand.settled line) with
        hkept | ⟨m, n, -, hn, -⟩
      · rw [hkept, foldComparisons, ih]
      · rw [hn]
        rfl
  | binary op left right ihl ihr =>
      rw [Expr.settled]
      rcases settleBinary_cases line op (left.settled line) (right.settled line) with
        hkept | ⟨l, r, n, -, -, hn, -⟩
      · rw [hkept, foldComparisons, ihl, ihr]
      · rw [hn]
        rfl
  | compare comparison left right ihl ihr =>
      rw [Expr.settled, decides_foldComparisons.settleCompare, ihl, ihr]

/-! ## Rounds -/

/-- Arithmetic on the operand, after any number of rounds, is all that is left of the
arithmetic on a negation. -/
theorem foldArithmetic_refolded_negate (operand : Expr) (n : Nat) :
    (foldArithmetic line ((Expr.negate operand).refolded line n)).expr =
      (settleNegate line (foldArithmetic line (operand.refolded line n)).expr).expr := by
  induction n with
  | zero => rfl
  | succ n ih =>
      rw [Expr.refolded, ih]
      exact carriesOut_foldArithmetic_foldComparisons.settleNegate _

/-- In any round an operator is settled on its operands in the same round. -/
theorem foldArithmetic_refolded_binary (op : BinaryOp) (left right : Expr) (n : Nat) :
    (foldArithmetic line ((Expr.binary op left right).refolded line n)).expr =
      (settleBinary line op (foldArithmetic line (left.refolded line n)).expr
        (foldArithmetic line (right.refolded line n)).expr).expr := by
  induction n with
  | zero => rfl
  | succ n ih =>
      rw [Expr.refolded, ih]
      exact carriesOut_foldArithmetic_foldComparisons.settleBinary _ _ _

/-- From the first round on, a comparison is decided as soon as both sides are
constants. -/
theorem refolded_compare (comparison : Comparison) (left right : Expr) (n : Nat) :
    (Expr.compare comparison left right).refolded line (n + 1) =
      (settleCompare line comparison (left.refolded line (n + 1))
        (right.refolded line (n + 1))).expr := by
  induction n with
  | zero => rfl
  | succ n ih =>
      rw [Expr.refolded, ih]
      exact decides_foldComparisons_foldArithmetic.settleCompare _ _ _

/-- An expression that one round keeps stays in every round. -/
theorem refolded_of_kept {e : Expr}
    (h : (foldComparisons line (foldArithmetic line e).expr).expr = e) (n : Nat) :
    e.refolded line n = e := by
  induction n with
  | zero => rfl
  | succ n ih => rw [Expr.refolded, ih, h]

/-- As many rounds as there are comparisons on a path leave no arithmetic that one more
walk cannot do. -/
theorem foldArithmetic_refolded {e : Expr} {n : Nat}
    (h : ∀ path ∈ e.paths, path.countP Expr.isComparison ≤ n) :
    (foldArithmetic line (e.refolded line n)).expr = e.settled line := by
  induction e generalizing n with
  | literal l => rw [refolded_of_kept rfl]; rfl
  | named name => rw [refolded_of_kept rfl]; rfl
  | missing => rw [refolded_of_kept rfl]; rfl
  | negate operand ih =>
      rw [foldArithmetic_refolded_negate, Expr.settled, ih]
      intro path hpath
      simpa [Expr.isComparison] using h _ (List.mem_map_of_mem hpath)
  | binary op left right ihl ihr =>
      rw [foldArithmetic_refolded_binary, Expr.settled, ihl, ihr]
      · intro path hpath
        simpa [Expr.isComparison] using
          h _ (List.mem_map_of_mem (List.mem_append_right left.paths hpath))
      · intro path hpath
        simpa [Expr.isComparison] using
          h _ (List.mem_map_of_mem (List.mem_append_left right.paths hpath))
  | compare comparison left right ihl ihr =>
      have hbelow (path : List Expr) (hpath : path ∈ left.paths ++ right.paths) :
          path.countP Expr.isComparison + 1 ≤ n := by
        have hcount := h _ (List.mem_map_of_mem hpath)
        rwa [List.countP_cons_of_pos rfl] at hcount
      -- The comparison itself takes one round, so both sides have one round less.
      obtain ⟨m, rfl⟩ : ∃ m, n = m + 1 := by
        rcases List.exists_mem_of_ne_nil _ left.paths_ne_nil with ⟨path, hpath⟩
        have hcount := hbelow path (List.mem_append_left _ hpath)
        exact ⟨n - 1, by omega⟩
      have hleft := ihl fun path hpath =>
        Nat.le_of_succ_le_succ (hbelow path (List.mem_append_left _ hpath))
      have hright := ihr fun path hpath =>
        Nat.le_of_succ_le_succ (hbelow path (List.mem_append_right _ hpath))
      rw [refolded_compare, Expr.refolded, Expr.refolded, hleft, hright, foldComparisons_settled,
        foldComparisons_settled]
      exact foldArithmetic_settled (.compare comparison left right)

/-- Behind a node that is no comparison, every comparison of a path is buried. -/
theorem countP_le_of_buried {e : Expr} {n : Nat} (he : e.isComparison = false)
    (h : ∀ path ∈ e.paths, buriedComparisons path ≤ n) :
    ∀ path ∈ e.paths, path.countP Expr.isComparison ≤ n := by
  intro path hpath
  have hroot : path.dropWhile Expr.isComparison = path := by
    rcases Expr.exists_cons_of_mem_paths hpath with ⟨below, rfl⟩
    rw [List.dropWhile_cons_of_neg (by simp [he])]
  have hburied := h path hpath
  rwa [buriedComparisons, hroot] at hburied

/-- Below an operator each round uncovers one buried comparison, and then all is settled. -/
theorem refolded_of_operator {e : Expr} {n : Nat} (he : e.isComparison = false)
    (h : ∀ path ∈ e.paths, buriedComparisons path ≤ n) :
    e.refolded line (n + 1) = e.settled line := by
  rw [Expr.refolded, foldArithmetic_refolded (countP_le_of_buried he h), foldComparisons_settled]

/-- A comparison at the root buries nothing. -/
theorem buriedComparisons_sides {comparison : Comparison} {left right : Expr} {n : Nat}
    (h : ∀ path ∈ (Expr.compare comparison left right).paths, buriedComparisons path ≤ n) :
    (∀ path ∈ left.paths, buriedComparisons path ≤ n) ∧
      ∀ path ∈ right.paths, buriedComparisons path ≤ n := by
  constructor
  · intro path hpath
    rw [← buriedComparisons_compare comparison left right]
    exact h _ (List.mem_map_of_mem (List.mem_append_left _ hpath))
  · intro path hpath
    rw [← buriedComparisons_compare comparison left right]
    exact h _ (List.mem_map_of_mem (List.mem_append_right _ hpath))

/-- One more round than there are buried comparisons on a path settles an expression. -/
theorem refolded_eq_settled {e : Expr} {n : Nat}
    (h : ∀ path ∈ e.paths, buriedComparisons path ≤ n) :
    e.refolded line (n + 1) = e.settled line := by
  induction e with
  | literal l => exact refolded_of_operator rfl h
  | named name => exact refolded_of_operator rfl h
  | missing => exact refolded_of_operator rfl h
  | negate operand ih => exact refolded_of_operator rfl h
  | binary op left right ihl ihr => exact refolded_of_operator rfl h
  | compare comparison left right ihl ihr =>
      rcases buriedComparisons_sides h with ⟨hleft, hright⟩
      rw [refolded_compare, ihl hleft, ihr hright, Expr.settled]

/-! ## Faults -/

/-- The faults of a negation are those of its operand, and then its own. -/
theorem faults_negate (x : Expr) :
    (foldArithmetic line (.negate x)).faults =
      (foldArithmetic line x).faults ++ (settleNegate line (foldArithmetic line x).expr).faults :=
  FoldedExpr.faults_after _ _

theorem faults_binary (op : BinaryOp) (x y : Expr) :
    (foldArithmetic line (.binary op x y)).faults =
      ((foldArithmetic line x).faults ++ (foldArithmetic line y).faults) ++
        (settleBinary line op (foldArithmetic line x).expr
          (foldArithmetic line y).expr).faults := by
  rw [foldArithmetic, FoldedExpr.faults_after, List.filterMap_append]
  rfl

/-- A comparison adds no fault to those of its operands. -/
theorem faults_compare (comparison : Comparison) (x y : Expr) :
    (foldArithmetic line (.compare comparison x y)).faults =
      (foldArithmetic line x).faults ++ (foldArithmetic line y).faults :=
  List.filterMap_append

/-- Doing arithmetic twice does no more than doing it once. -/
theorem foldArithmetic_foldArithmetic (e : Expr) :
    (foldArithmetic line (foldArithmetic line e).expr).expr = (foldArithmetic line e).expr := by
  induction e with
  | literal l => rfl
  | named name => rfl
  | missing => rfl
  | negate operand ih =>
      rw [carriesOut_foldArithmetic.negate_eq, carriesOut_foldArithmetic.settleNegate, ih]
  | binary op left right ihl ihr =>
      rw [carriesOut_foldArithmetic.binary_eq, carriesOut_foldArithmetic.settleBinary, ihl, ihr]
  | compare comparison left right ihl ihr => simp only [foldArithmetic, ihl, ihr]

/-- The faults of a walk are those that the next walk would find. -/
theorem faults_foldArithmetic_foldArithmetic (e : Expr) :
    (foldArithmetic line (foldArithmetic line e).expr).faults = (foldArithmetic line e).faults := by
  induction e with
  | literal l => rfl
  | named name => rfl
  | missing => rfl
  | negate operand ih =>
      rw [carriesOut_foldArithmetic.negate_eq, faults_negate operand]
      rcases settleNegate_cases line (foldArithmetic line operand).expr with
        hkept | ⟨m, n, hm, hn, hnone⟩
      · rw [hkept, faults_negate, ih, foldArithmetic_foldArithmetic]
      · -- An operand that is a constant has no faults in it.
        rw [← ih, hnone, hn, hm]
        rfl
  | binary op left right ihl ihr =>
      rw [carriesOut_foldArithmetic.binary_eq, faults_binary op left right]
      rcases settleBinary_cases line op (foldArithmetic line left).expr
        (foldArithmetic line right).expr with hkept | ⟨l, r, n, hl, hr, hn, hnone⟩
      · rw [hkept, faults_binary, ihl, ihr, foldArithmetic_foldArithmetic,
          foldArithmetic_foldArithmetic]
      · rw [← ihl, ← ihr, hnone, hn, hl, hr]
        rfl
  | compare comparison left right ihl ihr =>
      rw [faults_compare, ← ihl, ← ihr]
      exact faults_compare _ _ _

/-- Deciding a comparison takes no fault away. -/
theorem faults_settleCompare (comparison : Comparison) (x y : Expr) :
    (foldArithmetic line (settleCompare line comparison x y).expr).faults =
      (foldArithmetic line x).faults ++ (foldArithmetic line y).faults := by
  rcases settleCompare_cases line comparison x y with hkept | ⟨l, r, n, rfl, rfl, hn⟩
  · rw [hkept, faults_compare]
  · rw [hn]
    rfl

/-- In any round the faults of a comparison are those of its operands. -/
theorem faults_refolded_compare (comparison : Comparison) (left right : Expr) (n : Nat) :
    (foldArithmetic line ((Expr.compare comparison left right).refolded line n)).faults =
      (foldArithmetic line (left.refolded line n)).faults ++
        (foldArithmetic line (right.refolded line n)).faults := by
  cases n with
  | zero => exact faults_compare _ _ _
  | succ n => rw [refolded_compare, faults_settleCompare]

/-- Once all is settled below an operator, the faults stay. -/
theorem faults_refolded_of_operator {e : Expr} {n : Nat} (he : e.isComparison = false)
    (h : ∀ path ∈ e.paths, buriedComparisons path ≤ n) :
    (foldArithmetic line (e.refolded line n)).faults =
      (foldArithmetic line (e.settled line)).faults := by
  rw [← faults_foldArithmetic_foldArithmetic (e.refolded line n),
    foldArithmetic_refolded (countP_le_of_buried he h)]

/-- After as many rounds as there are buried comparisons on a path, the next walk finds
the faults of the settled expression. -/
theorem faults_refolded {e : Expr} {n : Nat} (h : ∀ path ∈ e.paths, buriedComparisons path ≤ n) :
    (foldArithmetic line (e.refolded line n)).faults =
      (foldArithmetic line (e.settled line)).faults := by
  induction e with
  | literal l => exact faults_refolded_of_operator rfl h
  | named name => exact faults_refolded_of_operator rfl h
  | missing => exact faults_refolded_of_operator rfl h
  | negate operand ih => exact faults_refolded_of_operator rfl h
  | binary op left right ihl ihr => exact faults_refolded_of_operator rfl h
  | compare comparison left right ihl ihr =>
      rcases buriedComparisons_sides h with ⟨hleft, hright⟩
      rw [faults_refolded_compare, ihl hleft, ihr hright, Expr.settled, faults_settleCompare]

end

/-! ## Programs -/

/-- A statement after `n` rounds over its expression. -/
def Statement.refolded (s : Statement) (n : Nat) : Statement :=
  match s with
  | .assign target type value line => .assign target type (value.refolded line n) line
  | .declare name type line => .declare name type line
  | .perform command argument line => .perform command argument line

/-- A round folds each statement on its own. -/
theorem program_foldConstants (program : Program) :
    (foldConstants program).program = program.map Statement.folded := by
  refine List.ext_getElem? fun i => ?_
  rw [getElem?_program_foldConstants, List.getElem?_map]

theorem refold_eq_map (program : Program) (n : Nat) :
    refold program n = program.map (Statement.refolded · n) := by
  induction n with
  | zero =>
      have hsame : (Statement.refolded · 0) = id := by
        funext s
        cases s <;> rfl
      rw [hsame, List.map_id, refold]
  | succ n ih =>
      rw [refold, program_foldConstants, ih, List.map_map]
      refine List.map_congr_left fun s _ => ?_
      cases s <;> rfl

/-- From the depth of a program on, one more round changes no statement any more. -/
theorem refolded_succ {program : Program} {s : Statement} (hs : s ∈ program) {n : Nat}
    (hn : comparisonDepth program ≤ n) : s.refolded (n + 2) = s.refolded (n + 1) := by
  cases s with
  | declare name type line => rfl
  | perform command argument line => rfl
  | assign target type value line =>
      have hburied (path : List Expr) (hpath : path ∈ value.paths) : buriedComparisons path ≤ n :=
        Nat.le_trans (buriedComparisons_le hs rfl hpath) hn
      have hlater (path : List Expr) (hpath : path ∈ value.paths) :
          buriedComparisons path ≤ n + 1 := Nat.le_succ_of_le (hburied path hpath)
      rw [Statement.refolded, Statement.refolded, refolded_eq_settled hburied,
        refolded_eq_settled hlater]

/-- From the depth of a program on, one more round changes the faults of no statement any
more. -/
theorem faults_refolded_succ {program : Program} {s : Statement} (hs : s ∈ program) {n : Nat}
    (hn : comparisonDepth program ≤ n) : (s.refolded (n + 1)).faults = (s.refolded n).faults := by
  cases s with
  | declare name type line => rfl
  | perform command argument line => rfl
  | assign target type value line =>
      have hburied (path : List Expr) (hpath : path ∈ value.paths) : buriedComparisons path ≤ n :=
        Nat.le_trans (buriedComparisons_le hs rfl hpath) hn
      have hlater (path : List Expr) (hpath : path ∈ value.paths) :
          buriedComparisons path ≤ n + 1 := Nat.le_succ_of_le (hburied path hpath)
      exact (faults_refolded hlater).trans (faults_refolded hburied).symm

/-- One more round than the depth of its comparisons, and any number of further ones,
settles a program. -/
theorem refold_settles (program : Program) {n : Nat} (hn : comparisonDepth program ≤ n) :
    (foldConstants (refold program (n + 1))).program = refold program (n + 1) ∧
      (foldConstants (refold program (n + 1))).faults =
        (foldConstants (refold program n)).faults := by
  constructor
  · have hnext : (foldConstants (refold program (n + 1))).program = refold program (n + 2) := rfl
    rw [hnext, refold_eq_map, refold_eq_map]
    exact List.map_congr_left fun s hs => refolded_succ hs hn
  · rw [faults_foldConstants, faults_foldConstants, refold_eq_map, refold_eq_map, List.flatMap_map,
      List.flatMap_map]
    refine List.flatMap_congr fun s hs => ?_
    exact faults_refolded_succ hs hn

/-- Folding settles.  One more round than the greatest number of comparisons that are
buried below operators on one path, and any number of rounds behind it, leave a program
that a further round does not change and in which it finds the same faults as the round
before.  A program that was read has no buried comparisons, so one round settles it. -/
theorem folding_settles :
    (∀ (program : Program) (k : Nat),
      let settled := refold program (comparisonDepth program + 1 + k)
      (foldConstants settled).program = settled ∧
        (foldConstants settled).faults =
          (foldConstants (refold program (comparisonDepth program + k))).faults) ∧
    ∀ tokens : List Token,
      let once := foldConstants (parse tokens).program
      comparisonDepth (parse tokens).program = 0 ∧
        (foldConstants once.program).program = once.program ∧
        (foldConstants once.program).faults = once.faults := by
  constructor
  · intro program k
    rw [Nat.add_right_comm]
    exact refold_settles program (Nat.le_add_right _ _)
  · intro tokens
    have hdepth := comparisonDepth_parse tokens
    exact ⟨hdepth, refold_settles (n := 0) (parse tokens).program (Nat.le_of_eq hdepth)⟩

end Primer
