import Primer.CommandLine.Arguments
import Primer.Compilation

/-!
# The outcome of a run

What a run prints for a compiled source: the source itself, the lists that were asked
for, its tree, the log, and what is wrong with it.

Main definitions:

- `Outcome` is what a run prints and how it ends; `Outcome.ofCompilation` is the
  outcome for a compiled source.
- `errorLines` are the lines about the diagnostics.

Main results:

- Theorem `exitCode_eq_zero_iff`: a run ends well exactly when nothing is wrong
  with the source.
-/

namespace Primer
namespace CommandLine

/-- What a run prints, and how it ends. -/
structure Outcome where
  exitCode : Nat
  /-- Printed on standard output. -/
  output : String
  /-- The lines of the log. -/
  log : List String
  /-- The lines printed on standard error behind the log. -/
  errors : List String
  deriving DecidableEq, Repr, Inhabited

/-- A text of lines, each ended by a line feed. -/
def textLines (lines : List String) : String :=
  String.join (lines.map (· ++ "\n"))

/-- A heading, lines, and an empty line. -/
def listing (heading : String) (lines : List String) : String :=
  textLines (heading :: lines ++ [""])

/-- The version of the program, as it is printed. -/
def versionText : String :=
  "esperc 0.1.0"

/-- The outcome of asking for the version. -/
def Outcome.version : Outcome :=
  ⟨0, textLines [versionText], [], []⟩

/-- What is printed on standard output for a compiled source. -/
def Settings.output (s : Settings) (source : String) (c : Compilation) : String :=
  textLines ["-Code-", source] ++
    (if s.tokens then listing "-Lexical Analysis-" (c.tokens.map Token.render) else "") ++
    (if s.symbols then
      listing "-Symbol Table-" (c.symbols.declarations.map Declaration.render) else "") ++
    textLines ["-Parsing-"] ++ c.tree.dump

/-- The lines printed on standard error about the diagnostics. -/
def errorLines (diagnostics : List Diagnostic) : List String :=
  if diagnostics = [] then [] else "-Errors-" :: diagnostics.map Diagnostic.message

/-- The outcome for a compiled source, with a threshold for the log. -/
def Outcome.ofCompilation (s : Settings) (threshold : Threshold) (source : String)
    (c : Compilation) : Outcome where
  exitCode := if c.diagnostics = [] then 0 else 1
  output := s.output source c
  log := (shownEvents threshold c.log).map Event.render
  errors := errorLines c.diagnostics

/-- A run ends well exactly when nothing is wrong with the source. -/
theorem exitCode_eq_zero_iff {s : Settings} {threshold : Threshold} {source : String}
    {c : Compilation} :
    (Outcome.ofCompilation s threshold source c).exitCode = 0 ↔ c.diagnostics = [] := by
  simp [Outcome.ofCompilation]

end CommandLine
end Primer
