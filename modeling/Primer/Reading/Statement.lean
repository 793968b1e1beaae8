import Primer.Reading.Expression

/-!
# Reading lines

A line holds at most one statement.  A line that starts no statement, or breaks
off inside one other than an assignment, is rejected and gives one diagnostic;
tokens left behind a complete statement give one as well.

Main definitions:

- `StatementReading` is the outcome of reading a statement at the start of a line.
- `StatementReading.declaration`, `StatementReading.command` and
  `StatementReading.assignment` read the three forms behind the word or words
  that start them; `readStatement` selects the form.
- `LineReading` is the outcome of reading a line, and `readLine` reads one.

Main results:

- Theorem `readLineFrom_blank`: a blank line has no outcome.
-/

namespace Primer

/-- The outcome of reading a statement. -/
structure StatementReading where
  statement? : Option Statement
  reports : List Diagnostic
  /-- The tokens of the line behind the statement. -/
  rest : List Token
  /-- The declarations known behind the statement. -/
  symbols : SymbolTable
  deriving DecidableEq, Repr, Inhabited

namespace StatementReading

/-- There is no statement, for one reason. -/
def reject (scope : Scope) (report : Diagnostic) (rest : List Token) : StatementReading :=
  ⟨none, [report], rest, scope.symbols⟩

/-- Read the name behind the keyword of a type.  The name is declared even if it
should not be. -/
def declaration (scope : Scope) (type : DataType) (line : Nat) : List Token → StatementReading
  | [] => reject scope (.grammar (.expectedIdentifier line scope.closing.describe)) []
  | t :: rest =>
      if t.kind = .identifier then
        ⟨some (.declare t.text type line),
          if scope.symbols.isFresh t.text then []
          else [.semantic (.invalidDeclaration line t.text)],
          rest, scope.symbols.declare t.text type⟩
      else reject scope (.grammar (.expectedIdentifier line t.describe)) (t :: rest)

/-- The variable that a command names, with its declared type. -/
def variableArgument (scope : Scope) (line : Nat) (name : String) : Argument × List Diagnostic :=
  match scope.symbols.type? name with
  | some type => (.named name type, [])
  | none => (.named name .unknown, [.semantic (.undeclaredVariable line name)])

/-- A command with a literal.  There is no input into a literal. -/
def literalCommand (scope : Scope) (command : Command) (line : Nat) (l : Literal)
    (rest : List Token) : StatementReading :=
  match command with
  | .print => ⟨some (.perform .print (.literal l) line), [], rest, scope.symbols⟩
  | .input => reject scope (.semantic (.invalidArgument line .input l.render)) rest

/-- Read the argument behind the keyword of a command. -/
def command (scope : Scope) (command : Command) (line : Nat) : List Token → StatementReading
  | [] => reject scope (.semantic (.invalidArgument line command scope.closing.describe)) []
  | t :: rest =>
      match t.kind with
      | .identifier =>
          let (argument, reports) := variableArgument scope line t.text
          ⟨some (.perform command argument line), reports, rest, scope.symbols⟩
      | .number =>
          match Numeral.read? t.text with
          | some n => literalCommand scope command line (.int n) rest
          | none => reject scope (.semantic (.integerOutOfRange t.line t.text)) rest
      | .stringLiteral => literalCommand scope command line (.text t.text) rest
      | _ => reject scope (.semantic (.invalidArgument line command t.describe)) (t :: rest)

/-- Read the expression behind a target and an equals sign.  Without declaration
the target counts as an integer. -/
def assignment (scope : Scope) (target : String) (line : Nat) (tokens : List Token) :
    StatementReading :=
  let type := (scope.symbols.type? target).getD .unknown
  let value := Reading.whole scope type tokens
  ⟨some (.assign target type value.expr line),
    (if scope.symbols.contains target then []
      else [.semantic (.undeclaredAssignment line target)]) ++ value.reports,
    value.cursor.rest, scope.symbols⟩

end StatementReading

/-- Read the statement that starts with the token `t`. -/
def readStatement (scope : Scope) (t : Token) (rest : List Token) : StatementReading :=
  let invalid := StatementReading.reject scope
    (.grammar (.invalidStatement t.line t.describe)) (t :: rest)
  if t.kind = .identifier then
    match DataType.ofKeyword? t.text with
    | some type => StatementReading.declaration scope type t.line rest
    | none =>
        match Command.ofKeyword? t.text with
        | some command => StatementReading.command scope command t.line rest
        | none =>
            match rest with
            | [] => invalid
            | u :: value =>
                if u.isSymbol "=" then StatementReading.assignment scope t.text t.line value
                else invalid
  else invalid

/-- The outcome of reading a line. -/
structure LineReading where
  statement? : Option Statement
  /-- Reported while the statement was read. -/
  reports : List Diagnostic
  /-- Reported about what stands behind the statement. -/
  trailing? : Option Diagnostic
  deriving DecidableEq, Repr, Inhabited

/-- All diagnostics of a line, in order. -/
def LineReading.diagnostics (r : LineReading) : List Diagnostic :=
  r.reports ++ r.trailing?.toList

/-- What is reported about tokens behind a complete statement. -/
def trailing? (statement? : Option Statement) (rest : List Token) : Option Diagnostic :=
  match statement?, rest with
  | some _, t :: _ => some (.grammar (.unexpectedToken t.line t.text))
  | _, _ => none

/-- Read a line against the declarations of the lines before it; the second
component holds the declarations known behind it. -/
def readLineFrom (symbols : SymbolTable) (line : Line) : LineReading × SymbolTable :=
  match line.tokens with
  | [] => (⟨none, [], none⟩, symbols)
  | t :: rest =>
      let r := readStatement ⟨symbols, line.closing⟩ t rest
      (⟨r.statement?, r.reports, trailing? r.statement? r.rest⟩, r.symbols)

/-- Read a line, keeping the declarations. -/
def readLine (line : Line) : StateM SymbolTable LineReading :=
  fun symbols => readLineFrom symbols line

/-- A blank line has no outcome. -/
theorem readLineFrom_blank (symbols : SymbolTable) (closing : Token) :
    readLineFrom symbols ⟨[], closing⟩ = (⟨none, [], none⟩, symbols) :=
  rfl

end Primer
