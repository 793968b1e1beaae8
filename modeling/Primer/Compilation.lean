import Primer.Log
import Primer.Lowering

/-!
# Compiling a source text

The whole front end: a text is scanned, its tokens are parsed, the constants of
the program are folded, and the program is lowered to a tree.  Nothing stops the
work; what is wrong is collected.

Main definitions:

- `Options` tells whether constants are folded.
- `Compilation` holds what the stages yield; its program, declarations,
  diagnostics, tree and log are views of that.
- `compile` runs the stages.

Main results:

- Theorem `diagnostic?_log`: the log reports exactly the diagnostics, in order.
-/

namespace Primer

/-- What can be chosen about compiling. -/
structure Options where
  fold : Bool
  deriving DecidableEq, Repr

/-- Constants are folded unless something else is chosen. -/
def Options.standard : Options :=
  ⟨true⟩

/-- What the stages yield for one source text. -/
structure Compilation where
  scan : Scan
  parse : Parse
  folding : Folding
  deriving DecidableEq, Repr, Inhabited

/-- A program whose constants are not folded. -/
def Folding.skipped (program : Program) : Folding :=
  ⟨program, []⟩

/-- Run all stages on a source text. -/
def compile (options : Options) (source : String) : Compilation :=
  let scanned := scan source
  let parsed := parse scanned.tokens
  ⟨scanned, parsed,
    if options.fold then foldConstants parsed.program else .skipped parsed.program⟩

namespace Compilation

/-- The tokens of the source. -/
def tokens (c : Compilation) : List Token :=
  c.scan.tokens

/-- The program, folded if that was chosen. -/
def program (c : Compilation) : Program :=
  c.folding.program

/-- The declarations of the program. -/
def symbols (c : Compilation) : SymbolTable :=
  c.parse.symbols

/-- All that is wrong with the source, stage by stage. -/
def diagnostics (c : Compilation) : List Diagnostic :=
  c.scan.errors.map Diagnostic.lexical ++ c.parse.diagnostics ++
    c.folding.faults.map Diagnostic.arithmetic

/-- The tree of the program. -/
def tree (c : Compilation) : SyntaxTree :=
  lower c.program

/-- All that was done, stage by stage. -/
def log (c : Compilation) : List Event :=
  c.scan.log ++ c.parse.log ++ c.folding.log ++
    [.compiled c.program.length c.diagnostics.length]

/-- The log reports exactly the diagnostics, in order. -/
theorem diagnostic?_log (c : Compilation) :
    c.log.filterMap Event.diagnostic? = c.diagnostics := by
  simp [log, diagnostics, diagnostic?_scan_log, diagnostic?_parse_log, diagnostic?_folding_log,
    Event.diagnostic?]

end Compilation
end Primer
