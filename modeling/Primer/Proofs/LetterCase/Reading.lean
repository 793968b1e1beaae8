import Primer.Proofs.LetterCase.Scanning
import Primer.Proofs.Simulation
import Primer.Reading.Program

/-!
# The case of string literals while reading

Reading never looks at the text of a string literal.  With these texts in capitals, the
same statements are read with their literals in capitals, and the same is reported, up to
what is quoted of the source.

Main definitions:

- `Statement.uncased` writes the string literals of a statement in capitals.
- `Diagnostic.uncased` does so with the part of the source that a diagnostic quotes.
- `Reading.Matches` and `StatementReading.Matches` say that one reading is another in
  capitals; `Reading.capitals` is the simulation that this is for expressions.

Main results:

- Theorem `whole_matches`: an expression is read in the same way in either case.
- Theorem `readStatement_matches`: so is a statement.
- Theorem `parse_uncased`: so is a list of tokens.
-/

namespace Primer

/-! ## In capitals -/

/-- The literal in capitals. -/
def Literal.uncased : Literal → Literal
  | .int n => .int n
  | .text s => .text (Primer.uncased s)

/-- The expression with its string literals in capitals. -/
def Expr.uncased : Expr → Expr
  | .literal l => .literal l.uncased
  | .named name => .named name
  | .negate operand => .negate operand.uncased
  | .binary op left right => .binary op left.uncased right.uncased
  | .compare comparison left right => .compare comparison left.uncased right.uncased
  | .missing => .missing

/-- The argument in capitals, if it is a literal. -/
def Argument.uncased : Argument → Argument
  | .named name type => .named name type
  | .literal l => .literal l.uncased

/-- The statement with its string literals in capitals. -/
def Statement.uncased : Statement → Statement
  | .declare name type line => .declare name type line
  | .assign target type value line => .assign target type value.uncased line
  | .perform command argument line => .perform command argument.uncased line

/-- The error with what was found in capitals. -/
def GrammarError.uncased : GrammarError → GrammarError
  | .missingClosingBracket line found => .missingClosingBracket line (Primer.uncased found)
  | .invalidStatement line found => .invalidStatement line (Primer.uncased found)
  | .expectedIdentifier line found => .expectedIdentifier line (Primer.uncased found)
  | .expectedOperand line found => .expectedOperand line (Primer.uncased found)
  | .unexpectedToken line found => .unexpectedToken line (Primer.uncased found)
  | .expressionTooComplex line limit => .expressionTooComplex line limit

/-- The error with what was found in capitals.  Names and numerals stay as they are. -/
def SemanticError.uncased : SemanticError → SemanticError
  | .invalidArgument line command found => .invalidArgument line command (Primer.uncased found)
  | e => e

/-- The diagnostic with what was found in capitals. -/
def Diagnostic.uncased : Diagnostic → Diagnostic
  | .lexical e => .lexical e
  | .grammar e => .grammar e.uncased
  | .semantic e => .semantic e.uncased
  | .arithmetic f => .arithmetic f

/-- The tokens of the line in capitals. -/
def Line.uncased (line : Line) : Line :=
  ⟨line.tokens.map Token.uncased, line.closing.uncased⟩

/-- The scope of the line in capitals. -/
def Scope.uncased (scope : Scope) : Scope :=
  ⟨scope.symbols, scope.closing.uncased⟩

/-- The position in the line in capitals. -/
def Cursor.uncased (c : Cursor) : Cursor :=
  ⟨c.rest.map Token.uncased, c.room, c.abandoned⟩

/-! ## Tokens and positions -/

namespace Token

/-- Only the token of a string literal changes in capitals. -/
theorem uncased_of_kind {t : Token} (h : t.kind ≠ .stringLiteral) : t.uncased = t :=
  if_neg h

@[simp]
theorem uncased_kind (t : Token) : t.uncased.kind = t.kind := by
  unfold uncased
  split <;> rfl

@[simp]
theorem uncased_line (t : Token) : t.uncased.line = t.line := by
  unfold uncased
  split <;> rfl

@[simp]
theorem isSymbol_uncased (t : Token) (symbol : String) :
    t.uncased.isSymbol symbol = t.isSymbol symbol := by
  by_cases h : t.kind = .stringLiteral
  · have hkind : (t.kind == .symbol) = false := by
      rw [h]
      rfl
    rw [isSymbol, isSymbol, uncased_kind, hkind, Bool.false_and, Bool.false_and]
  · rw [uncased_of_kind h]

@[simp]
theorem uncased_text (t : Token) : Primer.uncased t.uncased.text = Primer.uncased t.text := by
  unfold uncased
  split
  · exact uncased_uncased t.text
  · rfl

@[simp]
theorem uncased_describe (t : Token) :
    Primer.uncased t.uncased.describe = Primer.uncased t.describe := by
  by_cases h : t.kind = .stringLiteral
  · simp [describe, h]
  · rw [uncased_of_kind h]

end Token

namespace Cursor

@[simp]
theorem rest_uncased (c : Cursor) : c.uncased.rest = c.rest.map Token.uncased :=
  rfl

@[simp]
theorem room_uncased (c : Cursor) : c.uncased.room = c.room :=
  rfl

@[simp]
theorem abandoned_uncased (c : Cursor) : c.uncased.abandoned = c.abandoned :=
  rfl

@[simp]
theorem advance_uncased (c : Cursor) : c.uncased.advance = c.advance.uncased := by
  simp [advance, uncased, List.map_tail]

@[simp]
theorem peek_uncased (scope : Scope) (c : Cursor) :
    c.uncased.peek scope.uncased = (c.peek scope).uncased := by
  unfold peek
  rw [rest_uncased]
  cases c.rest <;> rfl

@[simp]
theorem grow?_uncased (c : Cursor) : c.uncased.grow? = c.grow?.map uncased := by
  unfold grow?
  rw [room_uncased]
  cases c.room <;> rfl

@[simp]
theorem symbol?_uncased (c : Cursor) : c.uncased.symbol? = c.symbol? := by
  unfold symbol?
  rw [rest_uncased]
  cases c.rest with
  | nil => rfl
  | cons t rest =>
      by_cases h : t.kind = .stringLiteral
      · simp [h]
      · simp [Token.uncased_of_kind h]

end Cursor

/-! ## Expressions -/

namespace Reading

/-- The second reading is the first one in capitals, and what they report is the same but
for the case of what is quoted. -/
structure Matches (r r' : Reading) : Prop where
  expr : r'.expr = r.expr.uncased
  reports : r'.reports.map Diagnostic.uncased = r.reports.map Diagnostic.uncased
  cursor : r'.cursor = r.cursor.uncased

/-- A missing operand is reported in either case. -/
theorem noOperand_matches (found : Token) (behind : Cursor) :
    (noOperand found behind).Matches (noOperand found.uncased behind.uncased) :=
  ⟨rfl, by simp [noOperand, Diagnostic.uncased, GrammarError.uncased], rfl⟩

section

variable (scope : Scope)

theorem atom_matches (t : Token) (c : Cursor) :
    (atom scope t c).Matches (atom scope.uncased t.uncased c.uncased) := by
  have hnone := noOperand_matches t c
  have hskip := noOperand_matches t c.advance
  rw [← Cursor.advance_uncased] at hskip
  unfold atom
  rw [Token.uncased_kind]
  cases hkind : t.kind with
  | identifier =>
      simp only [Token.uncased_of_kind (t := t) (by simp [hkind]), Scope.uncased]
      split <;> exact ⟨rfl, rfl, Cursor.advance_uncased c⟩
  | number =>
      simp only [Token.uncased_of_kind (t := t) (by simp [hkind])]
      split <;> exact ⟨rfl, rfl, Cursor.advance_uncased c⟩
  | stringLiteral =>
      have htext : t.uncased.text = Primer.uncased t.text := by simp [Token.uncased, hkind]
      exact ⟨by simp [htext, Expr.uncased, Literal.uncased], rfl, Cursor.advance_uncased c⟩
  | symbol => exact hskip
  | unknown => exact hskip
  | endOfLine => exact hnone
  | endOfInput => exact hnone

/-- A bracket is closed, or left open, in either case. -/
theorem closeBracket_matches (opening : Token) {inner inner' : Reading} (h : inner.Matches inner') :
    (closeBracket scope opening inner).Matches
      (closeBracket scope.uncased opening.uncased inner') := by
  unfold closeBracket
  simp only [h.cursor, Cursor.abandoned_uncased, Cursor.symbol?_uncased, Cursor.advance_uncased,
    Cursor.peek_uncased]
  split
  · exact h
  split
  · exact ⟨h.expr, h.reports, rfl⟩
  · refine ⟨h.expr, ?_, rfl⟩
    simp [h.reports, Diagnostic.uncased, GrammarError.uncased]

/-- One line is read, and the same line in capitals. -/
def capitals : Simulation scope scope.uncased where
  Position c c' := c' = c.uncased
  Value e e' := e' = e.uncased
  Reports reports reports' := reports'.map Diagnostic.uncased = reports.map Diagnostic.uncased
  symbol?_eq {c c'} h := by
    obtain rfl := h
    exact c.symbol?_uncased
  advance {c c'} h := by
    obtain rfl := h
    exact c.advance_uncased
  grow? {c c'} h := by
    obtain rfl := h
    rw [Cursor.grow?_uncased]
    cases c.grow? with
    | none => exact .none
    | some inside => exact .some rfl
  giveUp {c c'} h := by
    obtain rfl := h
    rfl
  negate h := congrArg Expr.negate h
  binary := Expr.binary_congr
  compare := Expr.compare_congr
  missing := rfl
  nil := rfl
  append hfront hback := by rw [List.map_append, List.map_append, hfront, hback]
  tooComplex {c c'} h := by
    obtain rfl := h
    simp

theorem related_capitals_iff {r r' : Reading} : (capitals scope).Related r r' ↔ r.Matches r' :=
  ⟨fun h => ⟨h.expr, h.reports, h.cursor⟩, fun h => ⟨h.expr, h.reports, h.cursor⟩⟩

theorem operands_capitals : (capitals scope).Operands where
  ends {c c'} hposition hrest := by
    obtain rfl : c' = c.uncased := hposition
    exact ⟨by simp [hrest], (related_capitals_iff scope).2 (noOperand_matches scope.closing c)⟩
  first {c c' t rest} hposition hrest := by
    obtain rfl : c' = c.uncased := hposition
    refine ⟨t.uncased, rest.map Token.uncased, by simp [hrest], t.isSymbol_uncased,
      (related_capitals_iff scope).2 (atom_matches scope t c), fun hinner => ?_⟩
    rw [related_capitals_iff] at hinner ⊢
    exact closeBracket_matches scope t hinner

end

/-- The expression of a statement is read in the same way in either case. -/
theorem whole_matches (scope : Scope) (type : DataType) (tokens : List Token) :
    (whole scope type tokens).Matches (whole scope.uncased type (tokens.map Token.uncased)) :=
  (related_capitals_iff scope).1 (Simulation.related_whole (operands_capitals scope) type rfl)

end Reading

/-! ## Statements -/

/-- The second reading of a statement is the first one in capitals. -/
structure StatementReading.Matches (r r' : StatementReading) : Prop where
  statement? : r'.statement? = r.statement?.map Statement.uncased
  reports : r'.reports.map Diagnostic.uncased = r.reports.map Diagnostic.uncased
  rest : r'.rest = r.rest.map Token.uncased
  symbols : r'.symbols = r.symbols

namespace StatementReading

variable (scope : Scope)

/-- A line is rejected in either case. -/
theorem reject_matches {report report' : Diagnostic} (h : report'.uncased = report.uncased)
    (rest : List Token) :
    (reject scope report rest).Matches
      (reject scope.uncased report' (rest.map Token.uncased)) :=
  ⟨rfl, by simp [reject, h], rfl, rfl⟩

theorem declaration_matches (type : DataType) (line : Nat) (tokens : List Token) :
    (declaration scope type line tokens).Matches
      (declaration scope.uncased type line (tokens.map Token.uncased)) := by
  have hreject (found : Token) (rest : List Token) :
      (reject scope (.grammar (.expectedIdentifier line found.describe)) rest).Matches
        (reject scope.uncased (.grammar (.expectedIdentifier line found.uncased.describe))
          (rest.map Token.uncased)) :=
    reject_matches scope (by simp [Diagnostic.uncased, GrammarError.uncased]) rest
  cases tokens with
  | nil => exact hreject scope.closing []
  | cons t rest =>
      simp only [declaration, List.map_cons, Token.uncased_kind]
      split
      next hkind =>
        rw [Token.uncased_of_kind (by simp [hkind])]
        exact ⟨rfl, rfl, rfl, rfl⟩
      next => exact hreject t (t :: rest)

theorem literalCommand_matches (command : Command) (line : Nat) (l : Literal)
    (rest : List Token) :
    (literalCommand scope command line l rest).Matches
      (literalCommand scope.uncased command line l.uncased (rest.map Token.uncased)) := by
  cases command with
  | print => exact ⟨rfl, rfl, rfl, rfl⟩
  | input =>
      refine reject_matches scope ?_ rest
      cases l <;> simp [Diagnostic.uncased, SemanticError.uncased, Literal.uncased, Literal.render]

theorem command_matches (command : Command) (line : Nat) (tokens : List Token) :
    (StatementReading.command scope command line tokens).Matches
      (StatementReading.command scope.uncased command line (tokens.map Token.uncased)) := by
  have hreject (found : Token) (rest : List Token) :
      (reject scope (.semantic (.invalidArgument line command found.describe)) rest).Matches
        (reject scope.uncased (.semantic (.invalidArgument line command found.uncased.describe))
          (rest.map Token.uncased)) :=
    reject_matches scope (by simp [Diagnostic.uncased, SemanticError.uncased]) rest
  cases tokens with
  | nil => exact hreject scope.closing []
  | cons t rest =>
      simp only [StatementReading.command, List.map_cons, Token.uncased_kind]
      cases hkind : t.kind with
      | identifier =>
          simp only [Token.uncased_of_kind (t := t) (by simp [hkind])]
          unfold variableArgument
          simp only [Scope.uncased]
          split <;> exact ⟨rfl, rfl, rfl, rfl⟩
      | number =>
          simp only [Token.uncased_of_kind (t := t) (by simp [hkind])]
          split
          · exact literalCommand_matches scope command line _ rest
          · exact reject_matches scope rfl rest
      | stringLiteral =>
          have htext : t.uncased.text = Primer.uncased t.text := by simp [Token.uncased, hkind]
          simp only [htext]
          exact literalCommand_matches scope command line (.text t.text) rest
      | symbol => exact hreject t (t :: rest)
      | unknown => exact hreject t (t :: rest)
      | endOfLine => exact hreject t (t :: rest)
      | endOfInput => exact hreject t (t :: rest)

theorem assignment_matches (target : String) (line : Nat) (tokens : List Token) :
    (assignment scope target line tokens).Matches
      (assignment scope.uncased target line (tokens.map Token.uncased)) := by
  have hvalue := Reading.whole_matches scope ((scope.symbols.type? target).getD .unknown) tokens
  refine ⟨?_, ?_, ?_, rfl⟩
  · exact congrArg (fun e => some (Statement.assign target _ e line)) hvalue.expr
  · simp only [assignment, List.map_append, Scope.uncased]
    exact congrArg _ hvalue.reports
  · exact congrArg Cursor.rest hvalue.cursor

end StatementReading

/-- A statement is read in the same way in either case. -/
theorem readStatement_matches (scope : Scope) (t : Token) (rest : List Token) :
    (readStatement scope t rest).Matches
      (readStatement scope.uncased t.uncased (rest.map Token.uncased)) := by
  have hinvalid :
      (StatementReading.reject scope (.grammar (.invalidStatement t.line t.describe))
        (t :: rest)).Matches
      (StatementReading.reject scope.uncased
        (.grammar (.invalidStatement t.uncased.line t.uncased.describe))
        (t.uncased :: rest.map Token.uncased)) :=
    StatementReading.reject_matches scope
      (by simp [Diagnostic.uncased, GrammarError.uncased]) (t :: rest)
  unfold readStatement
  rw [Token.uncased_kind]
  by_cases hkind : t.kind = .identifier
  · rw [Token.uncased_of_kind (by simp [hkind])] at hinvalid ⊢
    simp only [hkind, if_true]
    cases DataType.ofKeyword? t.text with
    | some type => exact StatementReading.declaration_matches scope type t.line rest
    | none =>
        cases Command.ofKeyword? t.text with
        | some command => exact StatementReading.command_matches scope command t.line rest
        | none =>
            cases rest with
            | nil => exact hinvalid
            | cons u value =>
                simp only [List.map_cons, Token.isSymbol_uncased]
                split
                · exact StatementReading.assignment_matches scope t.text t.line value
                · exact hinvalid
  · simp only [hkind, if_false]
    exact hinvalid

/-! ## Lines -/

/-- What is left behind a statement is reported in either case. -/
theorem trailing?_uncased (statement? : Option Statement) (rest : List Token) :
    (trailing? (statement?.map Statement.uncased) (rest.map Token.uncased)).map
        Diagnostic.uncased =
      (trailing? statement? rest).map Diagnostic.uncased := by
  cases statement? with
  | none => rfl
  | some s => cases rest <;> simp [trailing?, Diagnostic.uncased, GrammarError.uncased]

/-- A line is read in the same way in either case. -/
theorem readLineFrom_uncased (symbols : SymbolTable) (line : Line) :
    (readLineFrom symbols line.uncased).1.statement? =
        (readLineFrom symbols line).1.statement?.map Statement.uncased ∧
      (readLineFrom symbols line.uncased).1.diagnostics.map Diagnostic.uncased =
        (readLineFrom symbols line).1.diagnostics.map Diagnostic.uncased ∧
      (readLineFrom symbols line.uncased).2 = (readLineFrom symbols line).2 := by
  rcases line with ⟨tokens, closing⟩
  cases tokens with
  | nil => exact ⟨rfl, rfl, rfl⟩
  | cons t rest =>
      have hread := readStatement_matches ⟨symbols, closing⟩ t rest
      refine ⟨hread.statement?, ?_, hread.symbols⟩
      unfold LineReading.diagnostics
      rw [List.map_append, List.map_append, ← Option.toList_map, ← Option.toList_map]
      simp only [readLineFrom]
      rw [← trailing?_uncased, ← hread.statement?, ← hread.rest, ← hread.reports]
      rfl

/-- What is read of lines is the same in either case. -/
theorem readLines_uncased (symbols : SymbolTable) (lines : List Line) :
    (readLines symbols (lines.map Line.uncased)).1.filterMap LineReading.statement? =
        ((readLines symbols lines).1.filterMap LineReading.statement?).map Statement.uncased ∧
      ((readLines symbols (lines.map Line.uncased)).1.flatMap LineReading.diagnostics).map
          Diagnostic.uncased =
        ((readLines symbols lines).1.flatMap LineReading.diagnostics).map Diagnostic.uncased ∧
      (readLines symbols (lines.map Line.uncased)).2 = (readLines symbols lines).2 := by
  induction lines generalizing symbols with
  | nil => exact ⟨rfl, rfl, rfl⟩
  | cons line lines ih =>
      rcases readLineFrom_uncased symbols line with ⟨hstatement, hdiagnostics, hsymbols⟩
      rcases ih (readLineFrom symbols line).2 with ⟨hstatements, hlater, hbehind⟩
      rw [List.map_cons, readLines_cons, readLines_cons, hsymbols]
      refine ⟨?_, ?_, hbehind⟩
      · rw [List.filterMap_cons, List.filterMap_cons, hstatement, hstatements]
        cases (readLineFrom symbols line).1.statement? <;> rfl
      · rw [List.flatMap_cons, List.flatMap_cons, List.map_append, List.map_append, hdiagnostics,
          hlater]

/-- Tokens in capitals are split into the same lines in capitals. -/
theorem splitLinesOnto_uncased (lines : List Line) (current ts : List Token) :
    splitLinesOnto (lines.map Line.uncased) (current.map Token.uncased) (ts.map Token.uncased) =
      (splitLinesOnto lines current ts).map Line.uncased := by
  induction ts generalizing lines current with
  | nil => simp [splitLinesOnto]
  | cons t ts ih =>
      have hline : (⟨(current.map Token.uncased).reverse, t.uncased⟩ : Line) =
          Line.uncased ⟨current.reverse, t⟩ := by simp [Line.uncased]
      cases hkind : t.kind
      case endOfLine =>
        simp only [List.map_cons, splitLinesOnto, Token.uncased_kind, hkind, hline]
        exact ih (_ :: lines) []
      case endOfInput =>
        simp only [List.map_cons, splitLinesOnto, Token.uncased_kind, hkind, hline]
        simp
      all_goals
        simp only [List.map_cons, splitLinesOnto, Token.uncased_kind, hkind]
        exact ih lines (t :: current)

theorem splitClosing_uncased (tokens : List Token) :
    splitClosing (tokens.map Token.uncased) =
      ((splitClosing tokens).1.map Token.uncased, (splitClosing tokens).2.uncased) := by
  have hends (n : Nat) : Token.uncased ⟨.endOfInput, "", n⟩ = ⟨.endOfInput, "", n⟩ := rfl
  unfold splitClosing
  rw [List.getLast?_map]
  cases tokens.getLast? with
  | none => rfl
  | some last =>
      by_cases hkind : last.kind = .endOfInput
      · simp [hkind, List.map_dropLast]
      · simp [hkind, hends]

theorem endLastLine_uncased (tokens : List Token) :
    endLastLine (tokens.map Token.uncased) = (endLastLine tokens).map Token.uncased := by
  have hends (n : Nat) : Token.uncased ⟨.endOfLine, "", n⟩ = ⟨.endOfLine, "", n⟩ := rfl
  unfold endLastLine
  rw [List.getLast?_map]
  cases tokens.getLast? with
  | none => rfl
  | some last =>
      by_cases hkind : last.kind = .endOfLine
      · simp [hkind]
      · simp [hkind, hends]

/-- Closing the tokens does not depend on case. -/
theorem closeTokens_uncased (tokens : List Token) :
    closeTokens (tokens.map Token.uncased) = (closeTokens tokens).map Token.uncased := by
  unfold closeTokens
  rw [splitClosing_uncased, endLastLine_uncased, List.map_append]
  rfl

/-- A list of tokens is read in the same way in either case. -/
theorem parse_uncased (tokens : List Token) :
    (parse (tokens.map Token.uncased)).program =
        (parse tokens).program.map Statement.uncased ∧
      (parse (tokens.map Token.uncased)).diagnostics.map Diagnostic.uncased =
        (parse tokens).diagnostics.map Diagnostic.uncased ∧
      (parse (tokens.map Token.uncased)).symbols = (parse tokens).symbols := by
  have hlines : splitLines (closeTokens (tokens.map Token.uncased)) =
      (splitLines (closeTokens tokens)).map Line.uncased := by
    rw [closeTokens_uncased]
    exact splitLinesOnto_uncased [] [] (closeTokens tokens)
  have hread := readLines_uncased SymbolTable.empty (splitLines (closeTokens tokens))
  rwa [← hlines] at hread

end Primer
