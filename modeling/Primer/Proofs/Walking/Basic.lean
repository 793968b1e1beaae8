import Primer.Proofs.Grammar.Basic
import Primer.Reading.Program

/-!
# Reading by position

The reading of a program as a walk along the closed tokens.  A walker stands at an index
and looks at the token there without asking whether there is one, and its loops go on
until a token stops them.  So a walk that looks behind the last token has no result, and
neither has a walk that never ends.  The walker keeps a record of every index at which it
has stood, and of every attempt at a statement.

Main definitions:

- `Walker` is where a walk has come to; `Walk` is the monad of its steps.
- `Walk.advance` moves to the next token, and nothing else moves.
- `DataType.walk` and `Walk.statement` read an expression and a statement.
- `Walk.attempt` reads a statement and goes to the token that ends the line.
- `Program.walkOn` reads statements up to the end of the input.
- `walk` reads a list of tokens as a program.
-/

namespace Primer

/-- Where a statement was attempted: the index at which the attempt began, and the one
at which it ended. -/
structure Attempt where
  first : Nat
  last : Nat
  deriving DecidableEq, Repr

/-- Where a walk has come to. -/
structure Walker where
  /-- The index of the next token. -/
  index : Nat
  symbols : SymbolTable
  reports : List Diagnostic
  /-- How many operators and brackets the statement holds so far. -/
  growth : Nat
  /-- The rest of the line was given up. -/
  abandoned : Bool
  /-- Every index at which the walker has stood, in order. -/
  trail : List Nat
  attempts : List Attempt
  deriving DecidableEq, Repr

namespace Walker

/-- The walker in front of the first token. -/
def start : Walker :=
  ⟨0, SymbolTable.empty, [], 0, false, [0], []⟩

/-- The walker at the next index. -/
def forward (w : Walker) : Walker :=
  { w with index := w.index + 1, trail := w.trail ++ [w.index + 1] }

/-- The walker in front of a new statement. -/
def fresh (w : Walker) : Walker :=
  { w with growth := 0, abandoned := false }

end Walker

/-- Steps along the given tokens.  There is no result if a step looks where no token is,
or if the steps do not end. -/
abbrev Walk : Type → Type :=
  ReaderT (List Token) (StateT Walker Option)

namespace Walk

variable {α : Type}

/-! ## Single steps -/

/-- Look at the token at the index. -/
def peek : Walk Token :=
  fun tokens w => tokens[w.index]?.map fun t => (t, w)

/-- Look for a token behind the one at the index. -/
def peekNext : Walk (Option Token) :=
  fun tokens w => some (tokens[w.index + 1]?, w)

/-- Look at something that the walker keeps. -/
def look (f : Walker → α) : Walk α :=
  fun _ w => some (f w, w)

/-- Move to the next token, but never past the end of the input. -/
def advance : Walk Unit := do
  let t ← peek
  if t.kind = .endOfInput then return ()
  else modify Walker.forward

/-- Move past the token if it is the symbol. -/
def takeSymbol (symbol : String) : Walk Bool := do
  let t ← peek
  if t.isSymbol symbol then
    advance
    return true
  else return false

def report (d : Diagnostic) : Walk Unit :=
  modify fun w => { w with reports := w.reports ++ [d] }

def reportUnless (fine : Bool) (d : Diagnostic) : Walk Unit :=
  if fine then return () else report d

def declare (name : String) (type : DataType) : Walk Unit :=
  modify fun w => { w with symbols := w.symbols.declare name type }

/-- Take steps until the walker comes to a token at which to stop. -/
def upTo (m : Walk Unit) (stop : Token → Bool) : Walk Unit := do
  let t ← peek
  if stop t then return ()
  else
    m
    m |>.upTo stop
partial_fixpoint

/-- Go to the token that ends the line. -/
def skipLine : Walk Unit :=
  advance.upTo Token.endsLine

/-- Count one more operator or bracket.  Where no more are allowed the rest of the line is
given up. -/
def grow : Walk Bool := do
  if ← look Walker.abandoned then return false
  else if (← look Walker.growth) < growthLimit then
    modify fun w => { w with growth := w.growth + 1 }
    return true
  else
    let t ← peek
    report (.grammar (.expressionTooComplex t.line growthLimit))
    modify fun w => { w with abandoned := true }
    skipLine
    return false

/-! ## Expressions -/

/-- Move past an operator that is among the given ones. -/
def takeOperator (ops : List BinaryOp) : Walk (Option BinaryOp) := do
  let t ← peek
  if t.kind = .symbol then
    match (BinaryOp.ofSymbol? t.text).filter fun op => ops.contains op with
    | none => return none
    | some op =>
        advance
        return some op
  else return none

/-- The comparison that the token at the index writes. -/
def peekComparison : Walk (Option Comparison) := do
  let t ← peek
  if t.kind = .symbol then return Comparison.ofSymbol? t.text
  else return none

/-- Report an operand that is not there. -/
def noOperand (found : Token) : Walk Expr := do
  report (.grammar (.expectedOperand found.line found.describe))
  return .missing

/-- Read an operand of one token, which is the one at the index. -/
def atom (t : Token) : Walk Expr := do
  match t.kind with
  | .identifier =>
      advance
      let symbols ← look Walker.symbols
      reportUnless (symbols.contains t.text) (.semantic (.undeclaredVariable t.line t.text))
      return .named t.text
  | .number =>
      advance
      match Numeral.read? t.text with
      | some n => return .int n
      | none =>
          report (.semantic (.integerOutOfRange t.line t.text))
          return .missing
  | .stringLiteral =>
      advance
      return .literal (.text t.text)
  | .symbol | .unknown =>
      advance
      noOperand t
  | .endOfLine | .endOfInput => noOperand t

/-- Move past the bracket that closes the one at `opening`. -/
def closeBracket (opening : Token) : Walk Unit := do
  if ← look Walker.abandoned then return ()
  else if ← takeSymbol ")" then return ()
  else
    let t ← peek
    report (.grammar (.missingClosingBracket opening.line t.describe))

end Walk

open Walk

mutual

/-- Read an expression by the grammar that a type selects: a row, or for truth values one
sum, or two with a comparison between them. -/
def DataType.walk (type : DataType) : Walk Expr := do
  match type with
  | .boolean =>
      let left ← Row.sum |>.walk
      match ← peekComparison with
      | none => return left
      | some comparison =>
          advance
          if ← grow then
            let right ← Row.sum |>.walk
            return .compare comparison left right
          else return left
  | .string => Row.concatenation |>.walk
  | .integer | .unknown => Row.sum |>.walk
partial_fixpoint

/-- Read a row of operands. -/
def Row.walk (r : Row) : Walk Expr := do
  let first ← r |>.walkOperand
  r |>.walkBehind first
partial_fixpoint

/-- Read an operand of a row. -/
def Row.walkOperand (r : Row) : Walk Expr :=
  match r with
  | .product => DataType.integer |>.walkOperand
  | .sum => Row.product |>.walk
  | .concatenation => DataType.string |>.walkOperand
partial_fixpoint

/-- Read the operators and operands of a row behind what was read of it. -/
def Row.walkBehind (r : Row) (left : Expr) : Walk Expr := do
  match ← takeOperator r.ops with
  | none => return left
  | some op =>
      if ← grow then
        let right ← r |>.walkOperand
        r |>.walkBehind (.binary op left right)
      else return left
partial_fixpoint

/-- Read an operand. -/
def DataType.walkOperand (type : DataType) : Walk Expr := do
  let t ← peek
  if t.isSymbol "(" then
    advance
    if ← grow then
      let inner ← type |>.walk
      closeBracket t
      return inner
    else return .missing
  else if t.isSymbol "-" && type != .string then
    advance
    if ← grow then
      let inner ← type |>.walkOperand
      return .negate inner
    else return .missing
  else atom t
partial_fixpoint

end

namespace Walk

/-! ## Statements -/

/-- Report why there is no statement. -/
def reject (d : Diagnostic) : Walk (Option Statement) := do
  report d
  return none

/-- Read the name behind the keyword of a type. -/
def declaration (type : DataType) (line : Nat) : Walk (Option Statement) := do
  let t ← peek
  if t.kind = .identifier then
    advance
    let symbols ← look Walker.symbols
    reportUnless (symbols.isFresh t.text) (.semantic (.invalidDeclaration line t.text))
    declare t.text type
    return some (.declare t.text type line)
  else reject (.grammar (.expectedIdentifier line t.describe))

/-- Read the argument of a command. -/
def argument (command : Command) (line : Nat) : Walk (Option Argument) := do
  let t ← peek
  match t.kind with
  | .identifier =>
      advance
      let symbols ← look Walker.symbols
      match symbols.type? t.text with
      | some type => return some (.named t.text type)
      | none =>
          report (.semantic (.undeclaredVariable line t.text))
          return some (.named t.text .unknown)
  | .number =>
      advance
      match Numeral.read? t.text with
      | some n => return some (.literal (.int n))
      | none =>
          report (.semantic (.integerOutOfRange t.line t.text))
          return none
  | .stringLiteral =>
      advance
      return some (.literal (.text t.text))
  | _ =>
      report (.semantic (.invalidArgument line command t.describe))
      return none

/-- Read a command behind its keyword. -/
def command (command : Command) (line : Nat) : Walk (Option Statement) := do
  match ← argument command line with
  | none => return none
  | some (.named name type) => return some (.perform command (.named name type) line)
  | some (.literal l) =>
      match command with
      | .print => return some (.perform .print (.literal l) line)
      | .input => reject (.semantic (.invalidArgument line .input l.render))

/-- Read the expression behind a target and an equals sign. -/
def assignment (target : String) (line : Nat) : Walk (Option Statement) := do
  let symbols ← look Walker.symbols
  match symbols.type? target with
  | some type =>
      let value ← type.walk
      return some (.assign target type value line)
  | none =>
      report (.semantic (.undeclaredAssignment line target))
      let value ← DataType.unknown.walk
      return some (.assign target .unknown value line)

/-- Read a statement. -/
def statement : Walk (Option Statement) := do
  let t ← peek
  if t.kind = .identifier then
    match DataType.ofKeyword? t.text with
    | some type =>
        advance
        declaration type t.line
    | none =>
        match Command.ofKeyword? t.text with
        | some c =>
            advance
            command c t.line
        | none =>
            let next? ← peekNext
            if next?.any fun u => u.isSymbol "=" then
              advance
              advance
              assignment t.text t.line
            else reject (.grammar (.invalidStatement t.line t.describe))
  else reject (.grammar (.invalidStatement t.line t.describe))

/-- Report what stands behind a statement. -/
def endStatement : Walk Unit := do
  let t ← peek
  if t.endsLine then return ()
  else
    report (.grammar (.unexpectedToken t.line t.text))
    skipLine

/-- Go to the token that ends the line, from behind a statement or from where there is
none. -/
def endLine : Option Statement → Walk Unit
  | some _ => endStatement
  | none => skipLine

/-- Read a statement, go to the token that ends the line, and record the attempt. -/
def attempt : Walk (Option Statement) := do
  let first ← look Walker.index
  let statement? ← statement
  endLine statement?
  modify fun w => { w with attempts := w.attempts ++ [⟨first, w.index⟩] }
  return statement?

end Walk

/-- Read statements up to the end of the input, behind those of the program. -/
def Program.walkOn (program : Program) : Walk Program := do
  let t ← peek
  match t.kind with
  | .endOfInput => return program
  | .endOfLine =>
      advance
      program |>.walkOn
  | _ =>
      modify Walker.fresh
      let statement? ← attempt
      program ++ statement?.toList |>.walkOn
partial_fixpoint

/-- Walk along the closed tokens; the result is the program and where the walk ended. -/
def walk (tokens : List Token) : Option (Program × Walker) :=
  ((Program.walkOn []).run (closeTokens tokens)).run Walker.start

end Primer
