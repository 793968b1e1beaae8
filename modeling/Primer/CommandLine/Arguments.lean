import Primer.Log

/-!
# Command line arguments

A command line names one input and may hold options.  Options with one dash can be
joined; two dashes alone end the options.

Main definitions:

- `Settings` is what a command line asks for, and `Request` is that or the version.
- `UsageError` is what can be wrong with a command line.
- `parseArguments` reads a command line from left to right; the version is given as
  soon as it is asked for, whatever follows.
-/

namespace Primer
namespace CommandLine

/-- Where the source text comes from. -/
inductive Input where
  | standard
  | file (name : String)
  deriving DecidableEq, Repr, Inhabited

/-- The input that an argument names. -/
def Input.ofArgument (text : String) : Input :=
  if text = "-" then .standard else .file text

/-- What a run is asked for. -/
structure Settings where
  input : Input
  /-- List the tokens. -/
  tokens : Bool
  /-- List the declarations. -/
  symbols : Bool
  /-- Fold constants. -/
  fold : Bool
  /-- How often the log was asked to show more. -/
  verbose : Nat
  /-- How often the log was asked to show less. -/
  quiet : Nat
  deriving DecidableEq, Repr, Inhabited

/-- What a command line asks for. -/
inductive Request where
  | version
  | run (settings : Settings)
  deriving DecidableEq, Repr, Inhabited

/-- What can be wrong with a command line. -/
inductive UsageError where
  | unknownOption (text : String)
  /-- An option that may be given once was given again, or a repeatable one too
  often. -/
  | repeatedOption (text : String)
  /-- A second input. -/
  | unexpectedArgument (text : String)
  /-- Both more and less log was asked for. -/
  | conflictingOptions
  | missingInput
  deriving DecidableEq, Repr, Inhabited

/-- The wording of a usage error. -/
def UsageError.message : UsageError → String
  | .unknownOption text => "unknown option " ++ inQuotes text
  | .repeatedOption text => "option " ++ inQuotes text ++ " is given too often"
  | .unexpectedArgument text => "unexpected argument " ++ inQuotes text
  | .conflictingOptions => "options '-v' and '-q' exclude each other"
  | .missingInput => "an input is required"

/-- Why reading a command line ends before its end. -/
inductive Stop where
  | version
  | failure (e : UsageError)
  deriving DecidableEq, Repr, Inhabited

/-- What was read of a command line so far. -/
structure Draft where
  input? : Option Input
  tokens : Bool
  symbols : Bool
  noFold : Bool
  verbose : Nat
  quiet : Nat
  /-- The options are over. -/
  optionsEnded : Bool
  deriving DecidableEq, Repr, Inhabited

namespace Draft

/-- Nothing was read. -/
def empty : Draft :=
  ⟨none, false, false, false, 0, 0, false⟩

/-- How often each of the two repeatable options may be given. -/
def repetitionLimit : Nat :=
  2

/-- Read an argument that is no option. -/
def positional (d : Draft) (text : String) : Except Stop Draft :=
  match d.input? with
  | none => .ok { d with input? := some (.ofArgument text) }
  | some _ => .error (.failure (.unexpectedArgument text))

/-- Read an option with two dashes. -/
def longOption (d : Draft) (text : String) : Except Stop Draft :=
  let once (given : Bool) (next : Draft) : Except Stop Draft :=
    if given then .error (.failure (.repeatedOption text)) else .ok next
  if text = "--tokens" then once d.tokens { d with tokens := true }
  else if text = "--symbols" then once d.symbols { d with symbols := true }
  else if text = "--no-optimize" then once d.noFold { d with noFold := true }
  else if text = "--version" then .error .version
  else .error (.failure (.unknownOption text))

/-- Read one letter behind a dash. -/
def shortOption (d : Draft) (letter : Char) : Except Stop Draft :=
  let name := String.ofList ['-', letter]
  if letter = 'v' then
    if d.verbose < repetitionLimit then .ok { d with verbose := d.verbose + 1 }
    else .error (.failure (.repeatedOption name))
  else if letter = 'q' then
    if d.quiet < repetitionLimit then .ok { d with quiet := d.quiet + 1 }
    else .error (.failure (.repeatedOption name))
  else if letter = 'V' then .error .version
  else .error (.failure (.unknownOption name))

/-- Read one argument. -/
def step (d : Draft) (text : String) : Except Stop Draft :=
  if d.optionsEnded then d.positional text
  else if text = "--" then .ok { d with optionsEnded := true }
  else
    match text.toList with
    | '-' :: '-' :: _ => d.longOption text
    | '-' :: letter :: letters => (letter :: letters).foldlM shortOption d
    | _ => d.positional text

/-- Complete what was read. -/
def finish (d : Draft) : Except UsageError Settings :=
  if 0 < d.verbose ∧ 0 < d.quiet then .error .conflictingOptions
  else
    match d.input? with
    | none => .error .missingInput
    | some input => .ok ⟨input, d.tokens, d.symbols, !d.noFold, d.verbose, d.quiet⟩

end Draft

/-- Read a command line. -/
def parseArguments (arguments : List String) : Except UsageError Request :=
  match arguments.foldlM Draft.step Draft.empty with
  | .ok d => d.finish.map Request.run
  | .error .version => .ok .version
  | .error (.failure e) => .error e

/-- The threshold of the log that the settings ask for. -/
def Settings.threshold (s : Settings) : Threshold :=
  match s.verbose, s.quiet with
  | 0, 0 => some .warn
  | 0, 1 => some .error
  | 0, _ => none
  | 1, _ => some .debug
  | _, _ => some .trace

end CommandLine
end Primer
