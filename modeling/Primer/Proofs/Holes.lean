import Mathlib.Data.List.Forall2
import Primer.Proofs.Grammar.Acceptance
import Primer.Proofs.NameResolution
import Primer.Proofs.Usage.Following

/-!
# Holes are explained

The operands that could not be read leave holes in a program.  Each hole has its
diagnostic on the same line, in the same order, and each diagnostic about an operand has
its hole; one more hole stands at the end of an expression that was given up in front of
an operand.

Main definitions:

- `Statement.leaves` lists the operands that a statement holds, and `Statement.holes`
  counts those that are missing.
- `HolesExplained` says that the holes of an expression and the diagnostics of its line
  are those of the operands that its tokens are used as.
- `Statement.Explained` says so of the expression in a statement, and that a statement
  without one has no holes.

Main results:

- Theorem `holesExplained_whole`: the holes of an expression that was read are explained.
- Theorem `type_ne_unknown_of_programForm`: no statement of a program of the grammar
  stores the unknown type.
- Theorem `holes_explained`: the holes of a list of tokens are explained line by line, and
  there is none where nothing is reported.
-/

namespace Primer

/-! ## Holes of statements -/

/-- The operands that a statement holds. -/
def Statement.leaves : Statement → List Expr
  | .declare _ _ _ => []
  | .assign _ _ value _ => value.leaves
  | .perform _ (.named name _) _ => [.named name]
  | .perform _ (.literal l) _ => [.literal l]

/-- The number of operands of a statement that could not be read. -/
def Statement.holes (s : Statement) : Nat :=
  s.leaves.count .missing

/-- The type that a statement stores. -/
def Statement.type : Statement → DataType
  | .declare _ type _ => type
  | .assign _ type _ _ => type
  | .perform _ (.named _ type) _ => type
  | .perform _ (.literal l) _ => l.type

/-- The holes of an expression and the diagnostics of its line are those of the operands
among the uses that the statement has room for.  If the use behind these is refused, that
is reported once, and where it stands in front of an operand it leaves the last hole. -/
structure HolesExplained (closing : Token) (type : DataType) (tokens : List Token) (value : Expr)
    (diagnostics : List Diagnostic) : Prop where
  leaves : value.leaves = (operandsOf closing (keptUses type tokens)).map Operand.expr ++
    (refusedUse? type tokens).toList.filterMap Use.hole?
  causes : diagnostics.filter Diagnostic.isOperandError =
    (operandsOf closing (keptUses type tokens)).filterMap Operand.cause?
  refusals : diagnostics.countP Diagnostic.isRefusal = (refusedUse? type tokens).toList.length
  count : value.leaves.count .missing = diagnostics.countP Diagnostic.isOperandError +
    (refusedUse? type tokens).toList.countP fun u => u.hole?.isSome

/-- The holes of a statement are explained by the diagnostics of its line. -/
def Statement.Explained (line : Line) (diagnostics : List Diagnostic) : Statement → Prop
  | .assign _ type value _ =>
      HolesExplained line.closing type (line.tokens.drop 2) value diagnostics
  | s => s.holes = 0

/-! ## Expressions -/

/-- Among operands there is one hole for each cause of a hole. -/
theorem count_missing_map_expr (operands : List Operand) :
    (operands.map Operand.expr).count .missing = (operands.filterMap Operand.cause?).length := by
  rw [List.count_eq_countP, List.countP_map, List.length_filterMap_eq_countP]
  refine List.countP_congr fun o _ => ?_
  simpa using o.expr_eq_missing_iff

theorem count_missing_hole? (refused? : Option Use) :
    (refused?.toList.filterMap Use.hole?).count .missing =
      refused?.toList.countP fun u => u.hole?.isSome := by
  cases refused? with
  | none => rfl
  | some u => cases u <;> rfl

/-- The holes of an expression that was read are explained, whatever else is reported of
its line. -/
theorem holesExplained_whole (scope : Scope) (type : DataType) {tokens : List Token}
    (htokens : ∀ t ∈ tokens, t.endsLine = false) {before behind : List Diagnostic}
    (hbefore : ∀ d ∈ before, d.isOperandError = false ∧ d.isRefusal = false)
    (hbehind : ∀ d ∈ behind, d.isOperandError = false ∧ d.isRefusal = false) :
    HolesExplained scope.closing type tokens (Reading.whole scope type tokens).expr
      (before ++ (Reading.whole scope type tokens).reports ++ behind) := by
  have hmakes := Reading.makes_whole scope type htokens
  have hcauses : (before ++ (Reading.whole scope type tokens).reports ++ behind).filter
      Diagnostic.isOperandError =
        (operandsOf scope.closing (keptUses type tokens)).filterMap Operand.cause? := by
    have hfront : before.filter Diagnostic.isOperandError = [] :=
      List.filter_eq_nil_iff.2 fun d hd => by simp [(hbefore d hd).1]
    have hback : behind.filter Diagnostic.isOperandError = [] :=
      List.filter_eq_nil_iff.2 fun d hd => by simp [(hbehind d hd).1]
    rw [List.filter_append, List.filter_append, hfront, hback, hmakes.causes, List.nil_append,
      List.append_nil]
  refine ⟨hmakes.leaves, hcauses, ?_, ?_⟩
  · rcases hmakes.refusal with ⟨earlier, line, hearlier, hreports⟩
    have hfront : before.countP Diagnostic.isRefusal = 0 :=
      List.countP_eq_zero.2 fun d hd => by simp [(hbefore d hd).2]
    have hback : behind.countP Diagnostic.isRefusal = 0 :=
      List.countP_eq_zero.2 fun d hd => by simp [(hbehind d hd).2]
    have hmiddle : earlier.countP Diagnostic.isRefusal = 0 :=
      List.countP_eq_zero.2 fun d hd => by simp [hearlier d hd]
    rw [List.countP_append, List.countP_append, hfront, hback, hreports, List.countP_append,
      hmiddle]
    cases refusedUse? type tokens <;> rfl
  · rw [hmakes.leaves, List.count_append, count_missing_map_expr, count_missing_hole?, ← hcauses,
      ← List.countP_eq_length_filter]

/-! ## Lines -/

/-- The report about the end of a line says nothing about operands. -/
theorem silent_of_trailing? {statement? : Option Statement} {rest : List Token} {d : Diagnostic}
    (h : trailing? statement? rest = some d) : d.isOperandError = false ∧ d.isRefusal = false := by
  unfold trailing? at h
  split at h
  · cases h
    exact ⟨rfl, rfl⟩
  · cases h

/-- The holes of the statement on a line are explained by the diagnostics of the line. -/
theorem explained_of_composed {scope : Scope} {t : Token} {rest : List Token}
    {r : StatementReading} (h : StatementComposed scope t rest r)
    (hline : ∀ u ∈ t :: rest, u.endsLine = false) {s : Statement} (hs : r.statement? = some s) :
    s.Explained ⟨t :: rest, scope.closing⟩
      (r.reports ++ (trailing? r.statement? r.rest).toList) := by
  cases h with
  | invalid => cases hs
  | declared hword htype hname => cases hs; rfl
  | nameless => cases hs
  | @named command name behind hword htext hname =>
      cases hs
      unfold StatementReading.variableArgument
      split <;> rfl
  | printed hword htext hconstant => cases hs; rfl
  | inputLiteral hconstant => cases hs
  | outOfRange => cases hs
  | argumentless => cases hs
  | @assigned equals value hword hkeyword hequals =>
      cases hs
      have hvalue : ∀ u ∈ value, u.endsLine = false := fun u hu =>
        hline u (List.mem_cons_of_mem _ (List.mem_cons_of_mem _ hu))
      refine holesExplained_whole scope _ hvalue ?_ ?_
      · intro d hd
        split at hd
        · cases hd
        · rw [List.mem_singleton.1 hd]
          exact ⟨rfl, rfl⟩
      · intro d hd
        exact silent_of_trailing? (Option.mem_toList.1 hd)

/-- The statement of any line that is read is explained by what is reported there. -/
theorem explained_readLineFrom (symbols : SymbolTable) {line : Line}
    (hline : ∀ t ∈ line.tokens, t.endsLine = false) :
    ∀ s ∈ (readLineFrom symbols line).1.statement?,
      s.Explained line (readLineFrom symbols line).1.diagnostics := by
  intro s hs
  rcases line with ⟨tokens, closing⟩
  cases tokens with
  | nil => cases hs
  | cons t rest =>
      exact explained_of_composed (composed_readStatement ⟨symbols, closing⟩ t rest) hline hs

/-- What holds of every line that is read on its own holds of lines read one after
another. -/
theorem forall₂_readLines {P : Line → LineReading → Prop} {lines : List Line}
    (h : ∀ symbols, ∀ line ∈ lines, P line (readLineFrom symbols line).1) (symbols : SymbolTable) :
    List.Forall₂ P lines (readLines symbols lines).1 := by
  induction lines generalizing symbols with
  | nil => exact .nil
  | cons line lines ih =>
      rw [readLines_cons]
      exact .cons (h symbols line List.mem_cons_self)
        (ih (fun symbols line hline => h symbols line (List.mem_cons_of_mem _ hline)) _)

/-! ## Types -/

/-- A table without unknown types gives none away. -/
theorem SymbolTable.Known.type?_ne {table : SymbolTable} (hknown : table.Known) {name : String}
    {type : DataType} (h : table.type? name = some type) : type ≠ .unknown := by
  rcases Option.map_eq_some_iff.1 h with ⟨d, hfind, rfl⟩
  exact hknown d (List.mem_of_find?_eq_some hfind)

/-- A statement of the grammar has a known type, and declares no other. -/
theorem type_ne_unknown_of_statementForm {symbols : SymbolTable} (hknown : symbols.Known)
    {tokens : List Token} {s : Statement} (h : StatementForm symbols tokens s) :
    s.type ≠ .unknown ∧ (symbols.behind s).Known := by
  cases h with
  | declare hword htype hname hprint hinput hfresh =>
      have hne := (DataType.ofKeyword?_eq_some_iff.1 htype).2
      exact ⟨hne, hknown.declare hne⟩
  | input hword htext hname htype => exact ⟨hknown.type?_ne htype, hknown⟩
  | printNamed hword htext hname htype => exact ⟨hknown.type?_ne htype, hknown⟩
  | @printLiteral word constant l hword htext hconstant =>
      refine ⟨?_, hknown⟩
      cases l <;> simp [Statement.type, Literal.type]
  | assign htarget hkeyword hequals htype hvalue hsize => exact ⟨hknown.type?_ne htype, hknown⟩

/-- No statement of a program of the grammar stores the unknown type. -/
theorem type_ne_unknown_of_programForm {symbols : SymbolTable} {lines : List (List Token)}
    {program : Program} (h : ProgramForm symbols lines program) (hknown : symbols.Known) :
    ∀ s ∈ program, s.type ≠ .unknown := by
  induction h with
  | nil => simp
  | cons hline hlines ih =>
      rcases type_ne_unknown_of_statementForm hknown hline with ⟨hne, hbehind⟩
      intro s hs
      rcases List.mem_cons.1 hs with rfl | hs
      · exact hne
      · exact ih hbehind s hs

/-! ## Programs -/

/-- A statement whose line has no diagnostic has no holes. -/
theorem Statement.Explained.holes_of_silent {line : Line} {s : Statement}
    (h : s.Explained line []) : s.holes = 0 := by
  cases s with
  | declare name type n => rfl
  | perform command argument n => exact h
  | assign target type value n =>
      have hrefusals : (refusedUse? type (line.tokens.drop 2)).toList = [] :=
        List.eq_nil_of_length_eq_zero h.refusals.symm
      have hcount : value.leaves.count .missing = 0 := by simpa [hrefusals] using h.count
      exact hcount

/-- Line by line, the holes of the statement are explained by the diagnostics of the line:
one for each about an operand, in the same order, and one more behind them where the
expression was given up in front of an operand.  Without a diagnostic there is no hole, and
no unknown type either. -/
theorem holes_explained (tokens : List Token) :
    List.Forall₂
        (fun line outcome => ∀ s ∈ outcome.statement?, s.Explained line outcome.diagnostics)
        (splitLines (closeTokens tokens)) (parse tokens).lines ∧
      ((parse tokens).diagnostics = [] →
        ∀ s ∈ (parse tokens).program, s.holes = 0 ∧ s.type ≠ .unknown) := by
  have hexplained : List.Forall₂
      (fun (line : Line) (outcome : LineReading) =>
        ∀ s ∈ outcome.statement?, s.Explained line outcome.diagnostics)
      (splitLines (closeTokens tokens)) (parse tokens).lines :=
    forall₂_readLines (fun symbols line hline =>
      explained_readLineFrom symbols (not_endsLine_of_mem_splitLines hline).1) SymbolTable.empty
  refine ⟨hexplained, ?_⟩
  intro hsilent s hs
  have hknown : SymbolTable.empty.Known := by simp [SymbolTable.Known, SymbolTable.empty]
  have htype := type_ne_unknown_of_programForm (grammatical_iff.2 ⟨hsilent, rfl⟩) hknown s hs
  refine ⟨?_, htype⟩
  -- The line of the statement has no diagnostic, so nothing on it is left to explain.
  rcases List.mem_filterMap.1 hs with ⟨outcome, hmem, hstatement⟩
  rcases List.mem_iff_get.1 hmem with ⟨i, rfl⟩
  have hquiet : ((parse tokens).lines.get i).diagnostics = [] :=
    List.flatMap_eq_nil_iff.1 hsilent _ hmem
  have hi : i.val < (splitLines (closeTokens tokens)).length := by
    rw [hexplained.length_eq]
    exact i.isLt
  have hline := hexplained.get hi i.isLt s hstatement
  rw [hquiet] at hline
  exact hline.holes_of_silent

/-- In `A = (1 + ) * 9999999999 +` the bracket that was to close, the numeral and the end of
the line leave one hole each. -/
example :
    let broken := parse [⟨.identifier, "A", 1⟩, ⟨.symbol, "=", 1⟩, ⟨.symbol, "(", 1⟩,
      ⟨.number, "1", 1⟩, ⟨.symbol, "+", 1⟩, ⟨.symbol, ")", 1⟩, ⟨.symbol, "*", 1⟩,
      ⟨.number, "9999999999", 1⟩, ⟨.symbol, "+", 1⟩]
    broken.program.map Statement.holes = [3] ∧
      broken.diagnostics.filter Diagnostic.isOperandError =
        [.grammar (.expectedOperand 1 ")"), .semantic (.integerOutOfRange 1 "9999999999"),
          .grammar (.expectedOperand 1 "end of line")] := by
  decide +kernel

/-- The lines `INT A`, `A = (1 + 2)` and `PRINT A`. -/
def sumLines : List Token :=
  [⟨.identifier, "INT", 1⟩, ⟨.identifier, "A", 1⟩, ⟨.endOfLine, "", 1⟩,
    ⟨.identifier, "A", 2⟩, ⟨.symbol, "=", 2⟩, ⟨.symbol, "(", 2⟩, ⟨.number, "1", 2⟩,
    ⟨.symbol, "+", 2⟩, ⟨.number, "2", 2⟩, ⟨.symbol, ")", 2⟩, ⟨.endOfLine, "", 2⟩,
    ⟨.identifier, "PRINT", 3⟩, ⟨.identifier, "A", 3⟩]

theorem holes_explained_of_sumLines :
    (parse sumLines).diagnostics = [] ∧ (parse sumLines).program.length = 3 ∧
      ∀ s ∈ (parse sumLines).program, s.holes = 0 ∧ s.type ≠ .unknown := by
  have hsilent : (parse sumLines).diagnostics = [] := by decide +kernel
  exact ⟨hsilent, by decide +kernel, (holes_explained sumLines).2 hsilent⟩

end Primer
