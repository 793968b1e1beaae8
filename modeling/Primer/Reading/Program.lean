import Primer.Reading.Statement

/-!
# Reading programs

The lines of a list of tokens are read one after another.  From one line to the
next only the declarations are carried on.

Main definitions:

- `readLines` reads lines against given declarations.
- `Parse` is the outcome for a list of tokens; its program, its diagnostics and
  its declarations are views of the outcomes of the lines.
- `parse` closes a list of tokens and reads its lines.

Main results:

- Theorem `readLines_cons`: a line is read against the declarations known before
  it.
- Theorem `readLines_append`: lines are read independently but for the
  declarations.
-/

namespace Primer

/-- Read lines in order; the second component holds all declarations. -/
def readLines (symbols : SymbolTable) (lines : List Line) : List LineReading × SymbolTable :=
  (lines.mapM readLine).run symbols

@[simp]
theorem readLines_nil (symbols : SymbolTable) : readLines symbols [] = ([], symbols) :=
  rfl

/-- A line is read against the declarations known before it. -/
theorem readLines_cons (symbols : SymbolTable) (line : Line) (lines : List Line) :
    readLines symbols (line :: lines) =
      ((readLineFrom symbols line).1 :: (readLines (readLineFrom symbols line).2 lines).1,
        (readLines (readLineFrom symbols line).2 lines).2) := by
  unfold readLines
  rw [List.mapM_cons]
  rfl

/-- Lines are read independently of those before them but for the declarations. -/
theorem readLines_append (symbols : SymbolTable) (front back : List Line) :
    readLines symbols (front ++ back) =
      ((readLines symbols front).1 ++ (readLines (readLines symbols front).2 back).1,
        (readLines (readLines symbols front).2 back).2) := by
  induction front generalizing symbols with
  | nil => simp
  | cons line front ih => simp [readLines_cons, ih]

/-- The outcome of reading a list of tokens. -/
structure Parse where
  /-- The outcome of each line, blank lines included. -/
  lines : List LineReading
  symbols : SymbolTable
  deriving DecidableEq, Repr, Inhabited

namespace Parse

/-- The statements that were read, in order. -/
def program (p : Parse) : Program :=
  p.lines.filterMap LineReading.statement?

/-- What was reported, in order. -/
def diagnostics (p : Parse) : List Diagnostic :=
  p.lines.flatMap LineReading.diagnostics

end Parse

/-- Read a list of tokens against given declarations. -/
def parseFrom (symbols : SymbolTable) (tokens : List Token) : Parse :=
  let outcome := readLines symbols (splitLines (closeTokens tokens))
  ⟨outcome.1, outcome.2⟩

/-- Read a list of tokens as a program. -/
def parse (tokens : List Token) : Parse :=
  parseFrom SymbolTable.empty tokens

end Primer
