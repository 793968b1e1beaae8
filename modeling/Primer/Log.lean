import Primer.Folding
import Primer.Outline
import Primer.Reading.Program
import Primer.Scan

/-!
# The log

Every stage leaves a trace of what it did, as a list of events.  An event has a
level, and a threshold decides which levels are shown.

Main definitions:

- `Level` and `Threshold`.
- `Event`, with its level and its wording.
- `Scan.log`, `Parse.log` and `Folding.log` list what the stages did.

Main results:

- Theorems `diagnostic?_scan_log`, `diagnostic?_parse_log` and
  `diagnostic?_folding_log`: the events about something wrong are the diagnostics
  of the stage.
-/

namespace Primer

/-! ## Levels -/

/-- How much an event matters, most important first. -/
inductive Level where
  | error
  | warn
  | info
  | debug
  | trace
  deriving DecidableEq, Repr, Inhabited

namespace Level

/-- The name of a level. -/
def name : Level → String
  | .error => "ERROR"
  | .warn => "WARN"
  | .info => "INFO"
  | .debug => "DEBUG"
  | .trace => "TRACE"

/-- The place of a level in the order of importance. -/
def rank : Level → Nat
  | .error => 1
  | .warn => 2
  | .info => 3
  | .debug => 4
  | .trace => 5

end Level

/-- The least important level that is shown; without one, nothing is. -/
abbrev Threshold := Option Level

namespace Threshold

/-- The place of a threshold in the order of importance. -/
def rank : Threshold → Nat
  | none => 0
  | some level => level.rank

/-- The threshold shows events of a level. -/
def shows (threshold : Threshold) (level : Level) : Bool :=
  decide (level.rank ≤ rank threshold)

/-- The threshold that a word names, in capital or small letters. -/
def ofName? (word : String) : Option Threshold :=
  let lower := String.ofList (word.toList.map Char.toLower)
  if lower = "off" then some none
  else if lower = "error" then some (some .error)
  else if lower = "warn" then some (some .warn)
  else if lower = "info" then some (some .info)
  else if lower = "debug" then some (some .debug)
  else if lower = "trace" then some (some .trace)
  else none

end Threshold

/-! ## Events -/

/-- Something that a stage did. -/
inductive Event where
  | token (t : Token)
  | diagnosed (d : Diagnostic)
  | parsed (s : Statement)
  | folded (line : Nat) (before : Expr) (value : Int32)
  | compared (line : Nat) (left : Int32) (comparison : Comparison) (right : Int32) (holds : Bool)
  | compiled (statements diagnostics : Nat)
  deriving DecidableEq, Repr, Inhabited

namespace Event

/-- How much an event matters. -/
def level : Event → Level
  | .token _ => .trace
  | .diagnosed _ => .warn
  | .parsed _ => .debug
  | .folded _ _ _ => .debug
  | .compared _ _ _ _ _ => .debug
  | .compiled _ _ => .debug

/-- The wording of an event. -/
def message : Event → String
  | .token t => "token " ++ t.render
  | .diagnosed d => d.message
  | .parsed s => atLine s.line ++ s.outline
  | .folded line before value =>
      atLine line ++ "folded " ++ before.outline ++ " to " ++ Numeral.ofInt value.toInt
  | .compared line left comparison right holds =>
      atLine line ++ "folded " ++ Numeral.ofInt left.toInt ++ " " ++ comparison.symbol ++ " " ++
        Numeral.ofInt right.toInt ++ " to " ++ Numeral.ofInt (truthWord holds).toInt
  | .compiled statements diagnostics =>
      "compiled " ++ Numeral.ofNat statements ++ " statements with " ++
        Numeral.ofNat diagnostics ++ " diagnostics"

/-- An event as it is shown. -/
def render (e : Event) : String :=
  e.level.name ++ " " ++ e.message

/-- The diagnostic that an event is about. -/
def diagnostic? : Event → Option Diagnostic
  | .diagnosed d => some d
  | _ => none

/-- What folding recorded, as an event. -/
def ofFold : FoldEvent → Event
  | .folded line before value => .folded line before value
  | .compared line left comparison right holds => .compared line left comparison right holds
  | .refused fault => .diagnosed (.arithmetic fault)

end Event

/-- The events that a threshold shows. -/
def shownEvents (threshold : Threshold) (events : List Event) : List Event :=
  events.filter fun e => threshold.shows e.level

/-! ## What the stages did -/

/-- Making a token: what is wrong with it comes first. -/
def PlacedLexeme.events (p : PlacedLexeme) : List Event :=
  (p.error?.map fun e => Event.diagnosed (.lexical e)).toList ++ [.token p.token]

/-- What scanning did. -/
def Scan.log (s : Scan) : List Event :=
  s.lexemes.flatMap PlacedLexeme.events ++ [.token s.closing]

/-- Reading a line: the statement is complete before what stands behind it is
looked at. -/
def LineReading.log (r : LineReading) : List Event :=
  r.reports.map Event.diagnosed ++ (r.statement?.map Event.parsed).toList ++
    (r.trailing?.map Event.diagnosed).toList

/-- What parsing did. -/
def Parse.log (p : Parse) : List Event :=
  p.lines.flatMap LineReading.log

/-- What folding did. -/
def Folding.log (f : Folding) : List Event :=
  f.events.map Event.ofFold

/-- The events about something wrong, in the log of scanning, are its errors. -/
theorem diagnostic?_scan_log (s : Scan) :
    s.log.filterMap Event.diagnostic? = s.errors.map Diagnostic.lexical := by
  have hall : ∀ ps : List PlacedLexeme,
      (ps.flatMap PlacedLexeme.events).filterMap Event.diagnostic? =
        (ps.filterMap PlacedLexeme.error?).map Diagnostic.lexical := by
    intro ps
    induction ps with
    | nil => rfl
    | cons p ps ih =>
        rw [List.flatMap_cons, List.filterMap_append, ih, List.filterMap_cons]
        cases h : p.error? <;> simp [PlacedLexeme.events, h, Event.diagnostic?]
  simp [Scan.log, hall, Scan.errors, Event.diagnostic?]

/-- The diagnostics logged are read back from their events. -/
theorem diagnostic?_map_diagnosed (ds : List Diagnostic) :
    (ds.map Event.diagnosed).filterMap Event.diagnostic? = ds := by
  induction ds with
  | nil => rfl
  | cons d ds ih => simp [Event.diagnostic?, ih]

/-- The log of a line holds its diagnostics, in their order. -/
theorem diagnostic?_line_log (r : LineReading) :
    r.log.filterMap Event.diagnostic? = r.diagnostics := by
  unfold LineReading.log LineReading.diagnostics
  rw [List.filterMap_append, List.filterMap_append, diagnostic?_map_diagnosed]
  cases r.statement? <;> cases r.trailing? <;> simp [Event.diagnostic?]

/-- The events about something wrong, in the log of parsing, are its diagnostics. -/
theorem diagnostic?_parse_log (p : Parse) :
    p.log.filterMap Event.diagnostic? = p.diagnostics := by
  unfold Parse.log Parse.diagnostics
  induction p.lines with
  | nil => rfl
  | cons r rs ih => rw [List.flatMap_cons, List.filterMap_append, ih, diagnostic?_line_log,
      List.flatMap_cons]

/-- The events about something wrong, in the log of folding, are its faults. -/
theorem diagnostic?_folding_log (f : Folding) :
    f.log.filterMap Event.diagnostic? = f.faults.map Diagnostic.arithmetic := by
  unfold Folding.log Folding.faults
  induction f.events with
  | nil => rfl
  | cons e es ih =>
      rw [List.map_cons, List.filterMap_cons, List.filterMap_cons, ih]
      cases e <;> simp [Event.ofFold, Event.diagnostic?, FoldEvent.fault?]

end Primer
