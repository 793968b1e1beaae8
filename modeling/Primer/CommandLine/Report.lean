import Primer.CommandLine.Outcome
import Primer.Text.Blank
import Primer.Text.Plain

/-!
# Running

A run reads a source text, compiles it and prints the outcome.  How the bytes of an input
become a text, and how the lines of the log look where they are written, is settled here
and nowhere else.

Main definitions:

- `readSource` decodes the bytes of an input.
- `Display` is how a place shows the lines of a log; `Display.plain` is one that is no
  terminal.
- `Outcome.standardError` is what the log and the lines behind it look like on
  standard error.
- `run` is the whole program, from the command line to its outcome.
-/

namespace Primer
namespace CommandLine

/-- The source text that an input holds: its bytes as UTF-8, without the white
space at the end. -/
def readSource (bytes : ByteArray) : Option String :=
  (String.fromUTF8? bytes).map trimEnd

/-! ## Standard error -/

/-- How a place shows the lines of a log. -/
structure Display where
  /-- What is shown of a line. -/
  shown : String → String
  /-- The line feed behind a line is left out. -/
  takesLineFeed : String → Bool

/-- Lines are shown as plain text. -/
def Display.plain : Display :=
  ⟨plainText, Primer.takesLineFeed⟩

/-- The lines on standard error: those of the log, and those behind it. -/
structure ErrorOutput where
  log : List String
  errors : List String
  deriving DecidableEq, Repr, Inhabited

/-- Put a line of the log in front.  If its line feed is left out, the next line goes on
where it stops. -/
def ErrorOutput.precede (d : Display) (line : String) (output : ErrorOutput) : ErrorOutput :=
  if d.takesLineFeed line then
    match output with
    | ⟨next :: log, errors⟩ => ⟨(d.shown line ++ next) :: log, errors⟩
    | ⟨[], next :: errors⟩ => ⟨[d.shown line ++ next], errors⟩
    | ⟨[], []⟩ => ⟨[d.shown line], []⟩
  else ⟨d.shown line :: output.log, output.errors⟩

/-- What an outcome looks like on standard error. -/
def Outcome.standardError (o : Outcome) (d : Display := .plain) : ErrorOutput :=
  o.log.foldr (ErrorOutput.precede d) ⟨[], o.errors⟩

/-! ## Running -/

/-- The threshold of the log: a level named by the environment overrides what the
settings ask for. -/
def Settings.thresholdUnder (s : Settings) (logLevel? : Option String) : Threshold :=
  (logLevel?.bind Threshold.ofName?).getD s.threshold

/-- Why a run has no outcome. -/
inductive Failure where
  | usage (e : UsageError)
  /-- The input cannot be read, or is no text. -/
  | unreadable (input : Input)
  deriving DecidableEq, Repr, Inhabited

/-- Compile what an input holds. -/
def runOn (s : Settings) (logLevel? : Option String) (bytes? : Option ByteArray) :
    Except Failure Outcome :=
  match bytes?.bind readSource with
  | none => .error (.unreadable s.input)
  | some source =>
      .ok (.ofCompilation s (s.thresholdUnder logLevel?) source (compile ⟨s.fold⟩ source))

/-- The whole program: the arguments, a level for the log from the environment, and
a way to read inputs give an outcome. -/
def run (arguments : List String) (logLevel? : Option String)
    (read : Input → Option ByteArray) : Except Failure Outcome :=
  match parseArguments arguments with
  | .error e => .error (.usage e)
  | .ok .version => .ok .version
  | .ok (.run settings) => runOn settings logLevel? (read settings.input)

end CommandLine
end Primer
