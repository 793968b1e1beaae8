import Mathlib.Data.List.Forall2
import Mathlib.Data.List.Induction
import Primer.Proofs.LineLocality
import Primer.Proofs.Simulation

/-!
# The end of the input

Reading stops at the first token for the end of the input.  A line that is unfinished there is
ended by that token if others follow it, and by an end of line that is supplied in front of it
if none does, or if the token is not there.  Either way the same is read of the line; what is
said about its end names the token that ends it.

Main definitions:

- `Diagnostic.EndsAlike` relates what is reported of a line at the end of the input to what is
  reported of it at an end of line.
- `Reading.endings` is the simulation between two readings of an expression whose line is ended
  by these tokens.
- `StatementReading.EndsAlike` relates two readings of a statement.

Main results:

- Theorem `whole_endings`: an expression is read in the same way whichever token ends the line.
- Theorem `readStatement_endsAlike`: so is a statement.
- Theorem `parse_endOfInput`: the tokens in front of the first end of the input are read as if
  they stood alone, whatever follows.
-/

namespace Primer

/-! ## Diagnostics -/

/-- The diagnostics are of the same family and kind.  They are the same, but that the end of the
input on `line`, which the first one meets, is an end of line on `line'` in the second. -/
inductive Diagnostic.EndsAlike (line line' : Nat) : Diagnostic → Diagnostic → Prop
  | same (d : Diagnostic) : EndsAlike line line' d d
  | bracket (opening : Nat) :
      EndsAlike line line' (.grammar (.missingClosingBracket opening "end of input"))
        (.grammar (.missingClosingBracket opening "end of line"))
  | identifier (keyword : Nat) :
      EndsAlike line line' (.grammar (.expectedIdentifier keyword "end of input"))
        (.grammar (.expectedIdentifier keyword "end of line"))
  | operand :
      EndsAlike line line' (.grammar (.expectedOperand line "end of input"))
        (.grammar (.expectedOperand line' "end of line"))
  | tooComplex (limit : Nat) :
      EndsAlike line line' (.grammar (.expressionTooComplex line limit))
        (.grammar (.expressionTooComplex line' limit))
  | argument (keyword : Nat) (command : Command) :
      EndsAlike line line' (.semantic (.invalidArgument keyword command "end of input"))
        (.semantic (.invalidArgument keyword command "end of line"))

instance (line line' : Nat) : Std.Refl (Diagnostic.EndsAlike line line') :=
  ⟨.same⟩

namespace Token

theorem describe_endOfLine {t : Token} (h : t.kind = .endOfLine) : t.describe = "end of line" := by
  simp [describe, h]

theorem describe_endOfInput {t : Token} (h : t.kind = .endOfInput) :
    t.describe = "end of input" := by
  simp [describe, h]

end Token

/-! ## Expressions -/

namespace Reading

section

variable (symbols : SymbolTable) (input feed : Token)

/-- The same line is read, ended by the end of the input and by an end of line. -/
def endings : Simulation ⟨symbols, input⟩ ⟨symbols, feed⟩ where
  Position c c' := c' = c
  Value e e' := e' = e
  Reports := List.Forall₂ (Diagnostic.EndsAlike input.line feed.line)
  symbol?_eq h := congrArg Cursor.symbol? h
  advance h := congrArg Cursor.advance h
  grow? {c c'} h := by
    obtain rfl := h
    cases c'.grow? with
    | none => exact .none
    | some inside => exact .some rfl
  giveUp h := congrArg (fun c => Cursor.mk [] c.room true) h
  negate h := congrArg Expr.negate h
  binary := Expr.binary_congr
  compare := Expr.compare_congr
  missing := rfl
  nil := .nil
  append hfront hback := List.rel_append hfront hback
  tooComplex {c c'} h := by
    obtain rfl := h
    refine .cons ?_ .nil
    unfold Cursor.peek
    cases c'.rest with
    | nil => exact .tooComplex growthLimit
    | cons t rest => exact .same _

end

section

variable {symbols : SymbolTable} {input feed : Token}

theorem endings_refl (r : Reading) : (endings symbols input feed).Related r r :=
  ⟨rfl, List.forall₂_refl _, rfl⟩

variable (hinput : input.kind = .endOfInput) (hfeed : feed.kind = .endOfLine)
include hinput hfeed

/-- A bracket left open is reported with the token that ends the line. -/
theorem closeBracket_endings (opening : Token) {inner inner' : Reading}
    (h : (endings symbols input feed).Related inner inner') :
    (endings symbols input feed).Related (closeBracket ⟨symbols, input⟩ opening inner)
      (closeBracket ⟨symbols, feed⟩ opening inner') := by
  have hcursor : inner'.cursor = inner.cursor := h.cursor
  unfold closeBracket
  rw [hcursor]
  split
  · exact h
  split
  · exact ⟨h.expr, h.reports, rfl⟩
  · refine ⟨h.expr, List.rel_append h.reports (.cons ?_ .nil), rfl⟩
    unfold Cursor.peek
    cases inner.cursor.rest with
    | nil =>
        simp only [List.headD_nil, Token.describe_endOfInput hinput,
          Token.describe_endOfLine hfeed]
        exact .bracket opening.line
    | cons t rest => exact .same _

/-- An operand that is missing at the end of the line is missed on the line of the token that
ends it; any other one is read without a look at that token, but for a closing bracket. -/
theorem operands_endings : (endings symbols input feed).Operands where
  ends {c c'} hposition hrest := by
    obtain rfl : c' = c := hposition
    refine ⟨hrest, rfl, .cons ?_ .nil, rfl⟩
    rw [Token.describe_endOfInput hinput, Token.describe_endOfLine hfeed]
    exact .operand
  first {c c' t rest} hposition hrest := by
    obtain rfl : c' = c := hposition
    exact ⟨t, rest, hrest, fun _ => rfl, endings_refl _, closeBracket_endings hinput hfeed t⟩

/-- The expression of a statement is read in the same way whichever token ends the line. -/
theorem whole_endings (type : DataType) (tokens : List Token) :
    (endings symbols input feed).Related (whole ⟨symbols, input⟩ type tokens)
      (whole ⟨symbols, feed⟩ type tokens) :=
  Simulation.related_whole (operands_endings hinput hfeed) type rfl

end

end Reading

/-! ## Statements -/

/-- The readings of a statement are the same, but for what they report about the end of the
line. -/
structure StatementReading.EndsAlike (line line' : Nat) (r r' : StatementReading) : Prop where
  statement? : r'.statement? = r.statement?
  reports : List.Forall₂ (Diagnostic.EndsAlike line line') r.reports r'.reports
  rest : r'.rest = r.rest
  symbols : r'.symbols = r.symbols

section

variable {symbols : SymbolTable} {input feed : Token}

namespace StatementReading

theorem EndsAlike.refl {line line' : Nat} (r : StatementReading) : r.EndsAlike line line' r :=
  ⟨rfl, List.forall₂_refl _, rfl, rfl⟩

variable (hinput : input.kind = .endOfInput) (hfeed : feed.kind = .endOfLine)
include hinput hfeed

/-- A declaration without a name is reported with the token that ends the line. -/
theorem declaration_endsAlike (type : DataType) (keyword : Nat) (tokens : List Token) :
    (declaration ⟨symbols, input⟩ type keyword tokens).EndsAlike input.line feed.line
      (declaration ⟨symbols, feed⟩ type keyword tokens) := by
  cases tokens with
  | nil =>
      refine ⟨rfl, .cons ?_ .nil, rfl, rfl⟩
      rw [Token.describe_endOfInput hinput, Token.describe_endOfLine hfeed]
      exact .identifier keyword
  | cons t rest => exact .refl _

theorem command_endsAlike (command : Command) (keyword : Nat) (tokens : List Token) :
    (StatementReading.command ⟨symbols, input⟩ command keyword tokens).EndsAlike input.line
      feed.line (StatementReading.command ⟨symbols, feed⟩ command keyword tokens) := by
  cases tokens with
  | nil =>
      refine ⟨rfl, .cons ?_ .nil, rfl, rfl⟩
      rw [Token.describe_endOfInput hinput, Token.describe_endOfLine hfeed]
      exact .argument keyword command
  | cons t rest => exact .refl _

theorem assignment_endsAlike (target : String) (start : Nat) (tokens : List Token) :
    (assignment ⟨symbols, input⟩ target start tokens).EndsAlike input.line feed.line
      (assignment ⟨symbols, feed⟩ target start tokens) := by
  have hvalue : (Reading.endings symbols input feed).Related _ _ :=
    Reading.whole_endings hinput hfeed ((symbols.type? target).getD .unknown) tokens
  refine ⟨?_, ?_, congrArg Cursor.rest hvalue.cursor, rfl⟩
  · exact congrArg (fun e => some (Statement.assign target _ e start)) hvalue.expr
  · exact List.rel_append (List.forall₂_refl _) hvalue.reports

end StatementReading

variable (hinput : input.kind = .endOfInput) (hfeed : feed.kind = .endOfLine)
include hinput hfeed

/-- A statement is read in the same way whichever token ends the line. -/
theorem readStatement_endsAlike (t : Token) (rest : List Token) :
    (readStatement ⟨symbols, input⟩ t rest).EndsAlike input.line feed.line
      (readStatement ⟨symbols, feed⟩ t rest) := by
  unfold readStatement
  split
  · cases DataType.ofKeyword? t.text with
    | some type => exact StatementReading.declaration_endsAlike hinput hfeed type t.line rest
    | none =>
        cases Command.ofKeyword? t.text with
        | some command =>
            exact StatementReading.command_endsAlike hinput hfeed command t.line rest
        | none =>
            cases rest with
            | nil => exact .refl _
            | cons u value =>
                simp only
                split
                · exact StatementReading.assignment_endsAlike hinput hfeed t.text t.line value
                · exact .refl _
  · exact .refl _

/-- A line is read in the same way whichever token ends it. -/
theorem readLineFrom_endsAlike (symbols : SymbolTable) (tokens : List Token) :
    (readLineFrom symbols ⟨tokens, input⟩).1.statement? =
        (readLineFrom symbols ⟨tokens, feed⟩).1.statement? ∧
      List.Forall₂ (Diagnostic.EndsAlike input.line feed.line)
        (readLineFrom symbols ⟨tokens, input⟩).1.diagnostics
        (readLineFrom symbols ⟨tokens, feed⟩).1.diagnostics ∧
      (readLineFrom symbols ⟨tokens, input⟩).2 = (readLineFrom symbols ⟨tokens, feed⟩).2 := by
  cases tokens with
  | nil => exact ⟨rfl, .nil, rfl⟩
  | cons t rest =>
      have hread : (readStatement ⟨symbols, input⟩ t rest).EndsAlike input.line feed.line
          (readStatement ⟨symbols, feed⟩ t rest) := readStatement_endsAlike hinput hfeed t rest
      refine ⟨hread.statement?.symm, List.rel_append hread.reports ?_, hread.symbols.symm⟩
      simp only [readLineFrom]
      rw [hread.statement?, hread.rest]
      exact List.forall₂_refl _

end

/-! ## Closing -/

/-- Tokens in which the input does not end are whole lines and the tokens of an unfinished one,
if there is any. -/
theorem exists_closed_append {tokens : List Token} (h : ∀ t ∈ tokens, t.kind ≠ .endOfInput) :
    ∃ whole inside, tokens = whole ++ inside ∧ Closed whole ∧
      ∀ t ∈ inside, t.endsLine = false := by
  induction tokens using List.reverseRecOn with
  | nil => exact ⟨[], [], rfl, ⟨List.forall_mem_nil _, nofun⟩, List.forall_mem_nil _⟩
  | append_singleton tokens last ih =>
      by_cases hlast : last.kind = .endOfLine
      · exact ⟨tokens ++ [last], [], (List.append_nil _).symm, ⟨h, by simpa using hlast⟩,
          List.forall_mem_nil _⟩
      · obtain ⟨hbefore, hinput⟩ := List.forall_mem_append.1 h
        obtain ⟨whole, inside, rfl, hwhole, hinside⟩ := ih hbefore
        have hends : last.endsLine = false := by
          simpa [Token.endsLine, hlast] using hinput
        exact ⟨whole, inside ++ [last], List.append_assoc .., hwhole,
          List.forall_mem_append.2 ⟨hinside, List.forall_mem_singleton.2 hends⟩⟩

/-- Closing a list of tokens changes nothing in front of its last token. -/
theorem exists_closeTokens_append (front : List Token) {back : List Token} (hback : back ≠ []) :
    ∃ rest, closeTokens (front ++ back) = front ++ rest := by
  have hends (ts : List Token) : ∃ added, endLastLine ts = ts ++ added := by
    unfold endLastLine
    cases hlast : ts.getLast? with
    | none => exact ⟨[], by simp [List.getLast?_eq_none_iff.1 hlast]⟩
    | some last =>
        by_cases hkind : last.kind = .endOfLine
        · exact ⟨[], by simp [hkind]⟩
        · exact ⟨[⟨.endOfLine, "", last.line⟩], by simp [hkind]⟩
  obtain ⟨added, hadded⟩ := hends (front ++ (splitClosing back).1)
  refine ⟨(splitClosing back).1 ++ added ++ [(splitClosing back).2], ?_⟩
  rw [closeTokens, splitClosing_append front hback, hadded]
  simp

/-- The end of line that is supplied behind an unfinished line stands on the line of its last
token. -/
theorem endLastLine_unfinished {inside : List Token} (hinside : ∀ t ∈ inside, t.endsLine = false)
    (hne : inside ≠ []) :
    endLastLine inside = inside ++ [⟨.endOfLine, "", (splitClosing inside).2.line⟩] := by
  have hlast := List.getLast?_eq_some_getLast hne
  have hkind := hinside _ (List.getLast_mem hne)
  simp only [Token.endsLine, Bool.or_eq_false_iff, beq_eq_false_iff_ne] at hkind
  simp [endLastLine, splitClosing, hlast, hkind.1, hkind.2]

/-! ## Reading -/

/-- An end of the input behind all other tokens is the one that would be supplied. -/
theorem parseFrom_append_endOfInput (symbols : SymbolTable) {front : List Token}
    (hfront : ∀ t ∈ front, t.kind ≠ .endOfInput) {closing : Token}
    (hclosing : closing.kind = .endOfInput) :
    parseFrom symbols (front ++ [closing]) = parseFrom symbols front := by
  have hclosed := closed_endLastLine hfront
  unfold parseFrom
  rw [closeTokens_endOfInput _ hclosing, closeTokens_of_not_endOfInput hfront,
    splitLines_append_endOfInput hclosed hclosing,
    splitLines_append_endOfInput hclosed (kind_splitClosing front), readLines_append,
    readLines_append]
  -- A blank line is read in the same way whichever token ends it.
  rfl

section

variable {inside : List Token} (hinside : ∀ t ∈ inside, t.endsLine = false)
include hinside

/-- An unfinished line is ended by the end of the input if tokens follow it. -/
theorem parseFrom_of_endOfInput (symbols : SymbolTable) {closing : Token}
    (hclosing : closing.kind = .endOfInput) {back : List Token} (hback : back ≠ []) :
    parseFrom symbols (inside ++ closing :: back) =
      ⟨[(readLineFrom symbols ⟨inside, closing⟩).1],
        (readLineFrom symbols ⟨inside, closing⟩).2⟩ := by
  obtain ⟨rest, hrest⟩ := exists_closeTokens_append (inside ++ [closing]) hback
  rw [List.append_assoc, List.append_assoc, List.singleton_append, List.singleton_append] at hrest
  unfold parseFrom
  rw [hrest, splitLines_endOfInput hinside hclosing, readLines_cons, readLines_nil]

/-- An unfinished line is ended by an end of line if nothing follows it. -/
theorem parseFrom_unfinished (symbols : SymbolTable) (hne : inside ≠ []) :
    let feed : Token := ⟨.endOfLine, "", (splitClosing inside).2.line⟩
    parseFrom symbols inside =
      ⟨[(readLineFrom symbols ⟨inside, feed⟩).1, ⟨none, [], none⟩],
        (readLineFrom symbols ⟨inside, feed⟩).2⟩ := by
  intro feed
  have hinput : ∀ t ∈ inside, t.kind ≠ .endOfInput := by
    intro t ht hkind
    have hends := hinside t ht
    simp [Token.endsLine, hkind] at hends
  have hlines : splitLines (closeTokens inside) =
      [⟨inside, feed⟩, ⟨[], (splitClosing inside).2⟩] := by
    have hlast : splitLines [(splitClosing inside).2] = [⟨[], (splitClosing inside).2⟩] :=
      splitLines_endOfInput (List.forall_mem_nil _) (kind_splitClosing inside) []
    rw [closeTokens_of_not_endOfInput hinput, endLastLine_unfinished hinside hne,
      List.append_assoc, List.singleton_append, splitLines_endOfLine hinside rfl, hlast]
  unfold parseFrom
  rw [hlines, readLines_cons, readLines_cons, readLineFrom_blank, readLines_nil]

/-- An unfinished line is read in the same way with and without an end of the input and tokens
behind it. -/
theorem parseFrom_endsAlike (symbols : SymbolTable) {closing : Token}
    (hclosing : closing.kind = .endOfInput) {back : List Token} (hback : back ≠ []) {line : Nat}
    (hline : inside ≠ [] → (splitClosing inside).2.line = line) :
    (parseFrom symbols (inside ++ closing :: back)).program =
        (parseFrom symbols inside).program ∧
      (parseFrom symbols (inside ++ closing :: back)).symbols =
        (parseFrom symbols inside).symbols ∧
      List.Forall₂ (Diagnostic.EndsAlike closing.line line)
        (parseFrom symbols (inside ++ closing :: back)).diagnostics
        (parseFrom symbols inside).diagnostics := by
  rw [parseFrom_of_endOfInput hinside symbols hclosing hback]
  by_cases hne : inside = []
  · subst hne
    exact ⟨rfl, rfl, .nil⟩
  · obtain rfl := hline hne
    let feed : Token := ⟨.endOfLine, "", (splitClosing inside).2.line⟩
    have hfeed : feed.kind = .endOfLine := rfl
    obtain ⟨hstatement, hreports, hsymbols⟩ :=
      readLineFrom_endsAlike hclosing hfeed symbols inside
    rw [parseFrom_unfinished hinside symbols hne]
    refine ⟨?_, hsymbols, ?_⟩
    · simp [Parse.program, List.filterMap_cons, hstatement, feed]
    · simpa [Parse.diagnostics, LineReading.diagnostics, feed] using hreports

end

/-- Reading stops at the first end of the input.  Whatever follows it, the tokens in front of it
give the statements and the declarations that they give alone, and diagnostics of the same kinds
in the same order.  One that is about the end of an unfinished line may name the end of the
input, on its line, where it names an end of line, on that of the last token, when the tokens
stand alone. -/
theorem parse_endOfInput {front : List Token} (hfront : ∀ t ∈ front, t.kind ≠ .endOfInput)
    {closing : Token} (hclosing : closing.kind = .endOfInput) (back : List Token) :
    (parse (front ++ closing :: back)).program = (parse front).program ∧
      (parse (front ++ closing :: back)).symbols = (parse front).symbols ∧
      List.Forall₂ (Diagnostic.EndsAlike closing.line (splitClosing front).2.line)
        (parse (front ++ closing :: back)).diagnostics (parse front).diagnostics := by
  unfold parse
  by_cases hback : back = []
  · subst hback
    rw [parseFrom_append_endOfInput _ hfront hclosing]
    exact ⟨rfl, rfl, List.forall₂_refl _⟩
  · obtain ⟨whole, inside, rfl, hwhole, hinside⟩ := exists_closed_append hfront
    have hline : inside ≠ [] →
        (splitClosing inside).2.line = (splitClosing (whole ++ inside)).2.line := by
      intro hne
      rw [splitClosing_append whole hne]
    obtain ⟨hprogram, hsymbols, hdiagnostics⟩ := parseFrom_endsAlike hinside
      (parseFrom SymbolTable.empty whole).symbols hclosing hback hline
    obtain ⟨hstopped, hsaid, hknown⟩ :=
      parseFrom_append SymbolTable.empty hwhole (inside ++ closing :: back)
    obtain ⟨hstopped', hsaid', hknown'⟩ := parseFrom_append SymbolTable.empty hwhole inside
    rw [List.append_assoc, hstopped, hstopped', hsaid, hsaid', hknown, hknown', hprogram]
    exact ⟨rfl, hsymbols, List.rel_append (List.forall₂_refl _) hdiagnostics⟩

/-- Behind the end of the input, the rest of a sum and a declaration are not read. -/
theorem parse_endOfInput_unfinishedSum :
    let front : List Token :=
      [⟨.identifier, "INT", 1⟩, ⟨.identifier, "A", 1⟩, ⟨.endOfLine, "", 1⟩,
        ⟨.identifier, "A", 2⟩, ⟨.symbol, "=", 2⟩, ⟨.symbol, "(", 2⟩, ⟨.number, "1", 2⟩,
        ⟨.symbol, "+", 2⟩]
    let closing : Token := ⟨.endOfInput, "", 3⟩
    let back : List Token :=
      [⟨.number, "2", 3⟩, ⟨.symbol, ")", 3⟩, ⟨.endOfLine, "", 3⟩, ⟨.identifier, "INT", 4⟩,
        ⟨.identifier, "B", 4⟩]
    (∀ t ∈ front, t.kind ≠ .endOfInput) ∧ closing.kind = .endOfInput ∧
      (parse (front ++ closing :: back)).diagnostics =
        [.grammar (.expectedOperand 3 "end of input"),
          .grammar (.missingClosingBracket 2 "end of input")] ∧
      (parse front).diagnostics =
        [.grammar (.expectedOperand 2 "end of line"),
          .grammar (.missingClosingBracket 2 "end of line")] ∧
      (parse (front ++ closing :: back)).program = (parse front).program ∧
      (parse (front ++ closing :: back)).symbols = (parse front).symbols ∧
      List.Forall₂ (Diagnostic.EndsAlike closing.line (splitClosing front).2.line)
        (parse (front ++ closing :: back)).diagnostics (parse front).diagnostics := by
  intro front closing back
  have hfront : ∀ t ∈ front, t.kind ≠ .endOfInput := by decide
  have hclosing : closing.kind = .endOfInput := rfl
  have hstopped : (parse (front ++ closing :: back)).diagnostics =
      [.grammar (.expectedOperand 3 "end of input"),
        .grammar (.missingClosingBracket 2 "end of input")] := by decide +kernel
  have halone : (parse front).diagnostics =
      [.grammar (.expectedOperand 2 "end of line"),
        .grammar (.missingClosingBracket 2 "end of line")] := by decide +kernel
  exact ⟨hfront, hclosing, hstopped, halone, parse_endOfInput hfront hclosing back⟩

end Primer
