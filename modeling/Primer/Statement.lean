import Primer.Expr

/-!
# Statements and programs

A program is a list of statements, each with the line it stands on.

Main definitions:

- `Command`, the two words that act on an argument, and `Argument`.
- `Statement` and `Program`.
- `reservedWords`, the words that cannot name a variable.
-/

namespace Primer

/-- A word that transfers one value out of or into the program. -/
inductive Command where
  | print
  | input
  deriving DecidableEq, Repr, Inhabited

namespace Command

/-- The word that starts the command. -/
def keyword : Command → String
  | .print => "PRINT"
  | .input => "INPUT"

/-- The command that a word starts. -/
def ofKeyword? (word : String) : Option Command :=
  if word = "PRINT" then some .print
  else if word = "INPUT" then some .input
  else none

/-- A word starts a command exactly when it is the keyword of that command. -/
theorem ofKeyword?_eq_some_iff {word : String} {command : Command} :
    ofKeyword? word = some command ↔ word = command.keyword := by
  unfold ofKeyword?
  constructor
  · intro h
    repeat' split at h
    all_goals first
      | (cases h; assumption)
      | cases h
  · rintro rfl
    cases command <;> rfl

end Command

/-- The words that cannot name a variable. -/
def reservedWords : List String :=
  [Command.print.keyword, Command.input.keyword]

/-- What a command acts on. -/
inductive Argument where
  /-- A variable, with the type it is declared with. -/
  | named (name : String) (type : DataType)
  | literal (l : Literal)
  deriving DecidableEq, Repr, Inhabited

/-- One statement. -/
inductive Statement where
  | declare (name : String) (type : DataType) (line : Nat)
  /-- The type is the declared type of the target, unknown without declaration. -/
  | assign (target : String) (type : DataType) (value : Expr) (line : Nat)
  | perform (command : Command) (argument : Argument) (line : Nat)
  deriving DecidableEq, Repr, Inhabited

/-- The line a statement stands on. -/
def Statement.line : Statement → Nat
  | .declare _ _ line => line
  | .assign _ _ _ line => line
  | .perform _ _ line => line

/-- The statements of a source, in order. -/
abbrev Program := List Statement

end Primer
