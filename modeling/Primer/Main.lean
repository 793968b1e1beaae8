import Primer.CommandLine.Report

/-!
# The program

Reads the command line and the input, and prints what the run yields.
-/

namespace Primer
namespace CommandLine

/-- The environment variable that names a level for the log. -/
def logVariable : String :=
  "RUST_LOG"

/-- The bytes of an input, if it can be read. -/
def readInput : Input → IO (Option ByteArray)
  | .standard => do
      let stream ← IO.getStdin
      let mut bytes := ByteArray.empty
      let mut more := true
      while more do
        let chunk ← stream.read 65536
        bytes := bytes ++ chunk
        more := !chunk.isEmpty
      return some bytes
  | .file name => do
      match ← (IO.FS.readBinFile name).toBaseIO with
      | .ok bytes => return some bytes
      | .error _ => return none

/-- Print an outcome and end with its exit code. -/
def Outcome.present (o : Outcome) : IO UInt32 := do
  IO.eprint (textLines o.standardError.log)
  IO.print o.output
  IO.eprint (textLines o.standardError.errors)
  return o.exitCode.toUInt32

/-- Print why there is no outcome and end with the matching exit code. -/
def Failure.present : Failure → IO UInt32
  | .usage e => do
      IO.eprintln ("error: " ++ e.message)
      return 2
  | .unreadable _ => do
      IO.eprintln "error: the input cannot be read"
      return 1

end CommandLine
end Primer

open Primer.CommandLine in
/-- Run the program on the arguments of the command line. -/
def main (arguments : List String) : IO UInt32 := do
  match parseArguments arguments with
  | .error e => (Failure.usage e).present
  | .ok .version => Outcome.version.present
  | .ok (.run settings) =>
      let logLevel? ← IO.getEnv logVariable
      let bytes? ← readInput settings.input
      match runOn settings logLevel? bytes? with
      | .error failure => failure.present
      | .ok outcome => outcome.present
