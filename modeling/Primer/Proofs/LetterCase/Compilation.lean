import Primer.Compilation
import Primer.Proofs.Faults
import Primer.Proofs.LetterCase.Reading
import Primer.Proofs.Refolding

/-!
# Compiling in either case

Two sources that differ only in the case of letters compile to the same, but for the texts
of their string literals.  Folding looks at integer constants only, so that it keeps apart
from these texts too.

Main definitions:

- `FoldedExpr.Matches` says that one folded expression is another in capitals.

Main results:

- Theorem `foldArithmetic_matches`: an expression is folded in the same way in either case.
- Theorem `compile_uncased`: so is a source compiled.
- Theorem `case_insensitive`: sources in either case compile alike.
-/

namespace Primer

/-! ## Folding -/

@[simp]
theorem Expr.int?_uncased (e : Expr) : e.uncased.int? = e.int? := by
  cases e with
  | literal l => cases l <;> rfl
  | _ => rfl

/-- The second outcome of a walk is the first one in capitals, with the same faults. -/
structure FoldedExpr.Matches (f f' : FoldedExpr) : Prop where
  expr : f'.expr = f.expr.uncased
  faults : f'.faults = f.faults

/-- Outcomes still match behind events with the same faults. -/
theorem FoldedExpr.Matches.after {f f' : FoldedExpr} (h : f.Matches f')
    {events events' : List FoldEvent}
    (hevents : events'.filterMap FoldEvent.fault? = events.filterMap FoldEvent.fault?) :
    (f.after events).Matches (f'.after events') :=
  ⟨h.expr, by rw [faults_after, faults_after, hevents, h.faults]⟩

section

variable (line : Nat)

/-- An operation on words does not depend on case. -/
theorem settle_matches (before : Expr) (op : BinaryOp) (l r : Int32) :
    (settle line before op l r).Matches (settle line before.uncased op l r) := by
  unfold settle
  cases op.apply l r with
  | ok n => exact ⟨rfl, rfl⟩
  | error reason => exact ⟨rfl, rfl⟩

/-- Settling a negation does not depend on case. -/
theorem settleNegate_matches (operand : Expr) :
    (settleNegate line operand).Matches (settleNegate line operand.uncased) := by
  unfold settleNegate
  rw [Expr.int?_uncased]
  cases operand.int? with
  | none => exact ⟨rfl, rfl⟩
  | some n => exact settle_matches line (.negate operand) .sub 0 n

theorem settleBinary_matches (op : BinaryOp) (left right : Expr) :
    (settleBinary line op left right).Matches
      (settleBinary line op left.uncased right.uncased) := by
  unfold settleBinary
  rw [Expr.int?_uncased, Expr.int?_uncased]
  cases left.int? with
  | none => exact ⟨rfl, rfl⟩
  | some l =>
      cases right.int? with
      | none => exact ⟨rfl, rfl⟩
      | some r => exact settle_matches line (.binary op left right) op l r

/-- The walk that does arithmetic does the same in either case. -/
theorem foldArithmetic_matches (e : Expr) :
    (foldArithmetic line e).Matches (foldArithmetic line e.uncased) := by
  induction e with
  | literal l => exact ⟨rfl, rfl⟩
  | named name => exact ⟨rfl, rfl⟩
  | missing => exact ⟨rfl, rfl⟩
  | negate operand ih =>
      simp only [Expr.uncased, foldArithmetic]
      rw [ih.expr]
      exact (settleNegate_matches line _).after ih.faults
  | binary op left right ihl ihr =>
      have hevents := congrArg₂ (· ++ ·) ihl.faults ihr.faults
      simp only [FoldedExpr.faults, ← List.filterMap_append] at hevents
      simp only [Expr.uncased, foldArithmetic]
      rw [ihl.expr, ihr.expr]
      exact (settleBinary_matches line op _ _).after hevents
  | compare comparison left right ihl ihr =>
      have hevents := congrArg₂ (· ++ ·) ihl.faults ihr.faults
      simp only [FoldedExpr.faults, ← List.filterMap_append] at hevents
      exact ⟨congrArg₂ (Expr.compare comparison) ihl.expr ihr.expr, hevents⟩

/-- Only integers are compared, so deciding does not depend on case. -/
theorem settleCompare_uncased (comparison : Comparison) (left right : Expr) :
    (settleCompare line comparison left.uncased right.uncased).expr =
      (settleCompare line comparison left right).expr.uncased := by
  unfold settleCompare
  rw [Expr.int?_uncased, Expr.int?_uncased]
  cases left.int? with
  | none => rfl
  | some l => cases right.int? <;> rfl

/-- The walk over comparisons decides the same in either case. -/
theorem foldComparisons_uncased (e : Expr) :
    (foldComparisons line e.uncased).expr = (foldComparisons line e).expr.uncased := by
  induction e with
  | literal l => rfl
  | named name => rfl
  | missing => rfl
  | negate operand ih => exact congrArg Expr.negate ih
  | binary op left right ihl ihr => exact congrArg₂ (Expr.binary op) ihl ihr
  | compare comparison left right ihl ihr =>
      have hsettle := settleCompare_uncased line comparison (foldComparisons line left).expr
        (foldComparisons line right).expr
      rwa [← ihl, ← ihr] at hsettle

end

theorem Statement.faults_uncased (s : Statement) : s.uncased.faults = s.faults := by
  cases s with
  | declare name type line => rfl
  | assign target type value line => exact (foldArithmetic_matches line value).faults
  | perform command argument line => rfl

/-- A statement in capitals is folded to the folded one in capitals. -/
theorem Statement.folded_uncased (s : Statement) : s.uncased.folded = s.folded.uncased := by
  cases s with
  | declare name type line => rfl
  | assign target type value line =>
      have hexpr : (foldComparisons line (foldArithmetic line value.uncased).expr).expr =
          (foldComparisons line (foldArithmetic line value).expr).expr.uncased := by
        rw [(foldArithmetic_matches line value).expr, foldComparisons_uncased]
      exact congrArg (fun e => Statement.assign target type e line) hexpr
  | perform command argument line => rfl

/-- The constants of a program are folded in the same way in either case. -/
theorem foldConstants_uncased (program : Program) :
    (foldConstants (program.map Statement.uncased)).program =
        (foldConstants program).program.map Statement.uncased ∧
      (foldConstants (program.map Statement.uncased)).faults = (foldConstants program).faults := by
  constructor
  · rw [program_foldConstants, program_foldConstants, List.map_map, List.map_map]
    exact congrArg (fun f => program.map f) (funext Statement.folded_uncased)
  · rw [faults_foldConstants, faults_foldConstants, List.flatMap_map]
    exact congrArg (fun f => program.flatMap f) (funext Statement.faults_uncased)

/-! ## Compilation -/

/-- A source compiles in capitals as it does, with its string literals in capitals. -/
theorem compile_uncased (options : Options) (source : String) :
    (compile options (uncased source)).symbols = (compile options source).symbols ∧
      (compile options (uncased source)).program =
        (compile options source).program.map Statement.uncased ∧
      (compile options (uncased source)).diagnostics.map Diagnostic.uncased =
        (compile options source).diagnostics.map Diagnostic.uncased := by
  rcases parse_uncased (scan source).tokens with ⟨hprogram, hdiagnostics, hsymbols⟩
  rw [← tokens_uncased] at hprogram hdiagnostics hsymbols
  rcases foldConstants_uncased (parse (scan source).tokens).program with ⟨hfolded, hfaults⟩
  rw [← hprogram] at hfolded hfaults
  refine ⟨hsymbols, ?_, ?_⟩
  · rcases options with ⟨fold⟩
    cases fold with
    | false => exact hprogram
    | true => exact hfolded
  · have hlexical : (compile options (uncased source)).scan.errors =
        (compile options source).scan.errors := errors_uncased source
    have hfaults : (compile options (uncased source)).folding.faults =
        (compile options source).folding.faults := by
      rcases options with ⟨fold⟩
      cases fold with
      | false => rfl
      | true => exact hfaults
    unfold Compilation.diagnostics
    rw [hlexical, hfaults]
    simp only [List.map_append]
    exact congrArg (fun reports => _ ++ reports ++ _) hdiagnostics

/-- The case of letters counts in string literals only.  Sources that are the same in
capitals have the same tokens, but for the case of the texts of string literals, and the
same lexical errors; they compile to the same declarations, to the same program but for the
case of its string literals, and with the same diagnostics but for the case of what these
quote. -/
theorem case_insensitive (options : Options) {a b : String} (h : uncased a = uncased b) :
    (scan a).tokens.map Token.uncased = (scan b).tokens.map Token.uncased ∧
      (scan a).errors = (scan b).errors ∧
      (compile options a).symbols = (compile options b).symbols ∧
      (compile options a).program.map Statement.uncased =
        (compile options b).program.map Statement.uncased ∧
      (compile options a).diagnostics.map Diagnostic.uncased =
        (compile options b).diagnostics.map Diagnostic.uncased := by
  rcases compile_uncased options a with ⟨hsymbolsA, hprogramA, hdiagnosticsA⟩
  rcases compile_uncased options b with ⟨hsymbolsB, hprogramB, hdiagnosticsB⟩
  refine ⟨?_, ?_, ?_, ?_, ?_⟩
  · rw [← tokens_uncased, ← tokens_uncased, h]
  · rw [← errors_uncased a, ← errors_uncased b, h]
  · rw [← hsymbolsA, ← hsymbolsB, h]
  · rw [← hprogramA, ← hprogramB, h]
  · rw [← hdiagnosticsA, ← hdiagnosticsB, h]

/-- Keywords and names may be written in either case, and of a string literal in a wrong
place the diagnostics quote what is written. -/
theorem case_insensitive_of_smallLetters :
    let a := "STRING T\nT = \"Ab\" + B\nINPUT \"Ab\""
    let b := "String t\nt = \"aB\" + b\ninput \"aB\""
    uncased a = uncased b ∧
      (compile .standard b).diagnostics =
        [.semantic (.undeclaredVariable 2 "B"), .semantic (.invalidArgument 3 .input "aB")] ∧
      (scan a).tokens.map Token.uncased = (scan b).tokens.map Token.uncased ∧
      (scan a).errors = (scan b).errors ∧
      (compile .standard a).symbols = (compile .standard b).symbols ∧
      (compile .standard a).program.map Statement.uncased =
        (compile .standard b).program.map Statement.uncased ∧
      (compile .standard a).diagnostics.map Diagnostic.uncased =
        (compile .standard b).diagnostics.map Diagnostic.uncased := by
  intro a b
  have h : uncased a = uncased b := by decide +kernel
  have hdiagnostics : (compile .standard b).diagnostics =
      [.semantic (.undeclaredVariable 2 "B"), .semantic (.invalidArgument 3 .input "aB")] := by
    decide +kernel
  exact ⟨h, hdiagnostics, case_insensitive .standard h⟩

end Primer
