import Mathlib.Data.List.Basic
import Primer.CommandLine.Outcome
import Primer.Proofs.Outlines
import Primer.Proofs.Size

/-!
# What the log tells

The log of a run is a list of lines, each of which starts with the name of a level.  Read
level by level, a full log lists the tokens, the diagnostics and the statements of the
source, and as many folds as folding takes operators away.

Main definitions:

- `messagesAt` are the messages in lines that start with the name of a level.
- `Event.messageAt?` is the message of an event of the given level.

Main results:

- Theorem `messagesAt_render`: the lines of a level are those of its events.
- Theorem `log_tells_outcome`: what a full log tells is what the run yields.
-/

namespace Primer

/-! ## Lines and levels -/

/-- What follows the name of the level at the start of a line. -/
def Level.message? (level : Level) (line : String) : Option String :=
  ((level.name ++ " ").toList.isPrefixOf? line.toList).map String.ofList

/-- The messages in the lines that start with the name of a level. -/
def messagesAt (level : Level) (lines : List String) : List String :=
  lines.filterMap level.message?

/-- The message of an event, if it has the given level. -/
def Event.messageAt? (level : Level) (e : Event) : Option String :=
  if e.level = level then some e.message else none

/-- A line of the log is read back to the message of its event, at its level. -/
theorem Level.message?_render (level : Level) (e : Event) :
    level.message? e.render = e.messageAt? level := by
  unfold Level.message? Event.render Event.messageAt?
  generalize e.message = message
  cases level <;> cases e.level <;>
    simp [Level.name, List.isPrefixOf?, String.toList_append]

/-- The lines of a level are those of its events. -/
theorem messagesAt_render (level : Level) (log : List Event) :
    messagesAt level (log.map Event.render) = log.filterMap (Event.messageAt? level) := by
  rw [messagesAt, List.filterMap_map]
  exact List.filterMap_congr fun e _ => level.message?_render e

/-- No level but its own has the message of an event. -/
theorem messageAt?_eq_nil {level : Level} {log : List Event} (h : ∀ e ∈ log, e.level ≠ level) :
    log.filterMap (Event.messageAt? level) = [] :=
  List.filterMap_eq_nil_iff.2 fun e he => if_neg (h e he)

/-! ## The stages -/

/-- The warnings of a log are the messages of its diagnostics. -/
theorem messageAt?_warn (log : List Event) :
    log.filterMap (Event.messageAt? .warn) =
      (log.filterMap Event.diagnostic?).map Diagnostic.message := by
  rw [List.map_filterMap]
  refine List.filterMap_congr fun e _ => ?_
  cases e <;> rfl

/-- The trace of scanning writes the tokens. -/
theorem messageAt?_trace_scan_log (s : Scan) :
    s.log.filterMap (Event.messageAt? .trace) = s.tokens.map fun t => "token " ++ t.render := by
  have hevents (p : PlacedLexeme) :
      p.events.filterMap (Event.messageAt? .trace) = ["token " ++ p.token.render] := by
    cases h : p.error? <;>
      simp [PlacedLexeme.events, h, Event.messageAt?, Event.level, Event.message]
  simp only [Scan.log, Scan.tokens, List.filterMap_append, List.filterMap_flatMap, hevents,
    List.map_append, List.map_map]
  rw [← List.map_eq_flatMap]
  rfl

/-- Scanning logs tokens and warnings. -/
theorem level_of_mem_scan_log {s : Scan} {e : Event} (h : e ∈ s.log) :
    e.level = .trace ∨ e.level = .warn := by
  simp only [Scan.log, PlacedLexeme.events, List.mem_append, List.mem_flatMap, Option.mem_toList,
    Option.map_eq_some_iff, List.mem_singleton] at h
  rcases h with ⟨p, -, ⟨error, -, rfl⟩ | rfl⟩ | rfl
  · exact .inr rfl
  · exact .inl rfl
  · exact .inl rfl

theorem level_of_mem_parse_log {p : Parse} {e : Event} (h : e ∈ p.log) :
    e.level = .warn ∨ e.level = .debug := by
  simp only [Parse.log, LineReading.log, List.mem_append, List.mem_flatMap, List.mem_map,
    Option.mem_toList, Option.map_eq_some_iff] at h
  rcases h with ⟨r, -, (⟨d, -, rfl⟩ | ⟨s, -, rfl⟩) | ⟨d, -, rfl⟩⟩
  · exact .inl rfl
  · exact .inr rfl
  · exact .inl rfl

theorem level_of_mem_folding_log {f : Folding} {e : Event} (h : e ∈ f.log) :
    e.level = .warn ∨ e.level = .debug := by
  rcases List.mem_map.1 h with ⟨event, -, rfl⟩
  cases event with
  | folded line before value => exact .inr rfl
  | compared line left comparison right holds => exact .inr rfl
  | refused fault => exact .inl rfl

/-- The statements parsed are logged one by one, with their lines. -/
theorem messageAt?_debug_parse_log (p : Parse) :
    p.log.filterMap (Event.messageAt? .debug) =
      p.program.map fun s => atLine s.line ++ s.outline := by
  have hreports (ds : List Diagnostic) :
      (ds.map Event.diagnosed).filterMap (Event.messageAt? .debug) = [] :=
    messageAt?_eq_nil fun e he => by
      rcases List.mem_map.1 he with ⟨d, -, rfl⟩
      exact nofun
  unfold Parse.log Parse.program
  induction p.lines with
  | nil => rfl
  | cons r rs ih =>
      rw [List.flatMap_cons, List.filterMap_append, ih, LineReading.log, List.filterMap_append,
        List.filterMap_append, hreports, List.filterMap_cons]
      cases r.statement? <;> cases r.trailing? <;>
        simp [Event.messageAt?, Event.level, Event.message]

/-- There is one message for each operation carried out. -/
theorem length_messageAt?_debug_folding_log (f : Folding) :
    (f.log.filterMap (Event.messageAt? .debug)).length = f.events.countP FoldEvent.isDone := by
  rw [Folding.log, List.filterMap_map, List.length_filterMap_eq_countP]
  refine List.countP_congr fun event _ => ?_
  cases event with
  | folded line before value => exact iff_of_true rfl rfl
  | compared line left comparison right holds => exact iff_of_true rfl rfl
  | refused fault => exact iff_of_false nofun nofun

/-- A fold is worded as one. -/
theorem exists_eq_of_mem_folding_log {f : Folding} {message : String}
    (h : message ∈ f.log.filterMap (Event.messageAt? .debug)) :
    ∃ line rest, message = atLine line ++ "folded " ++ rest := by
  rcases List.mem_filterMap.1 h with ⟨e, he, hmessage⟩
  rcases List.mem_map.1 he with ⟨event, -, rfl⟩
  cases event with
  | folded line before value =>
      cases hmessage
      exact ⟨line, _, by simp only [Event.message, String.append_assoc]; rfl⟩
  | compared line left comparison right holds =>
      cases hmessage
      exact ⟨line, _, by simp only [Event.message, String.append_assoc]; rfl⟩
  | refused fault => cases hmessage

namespace Compilation

/-- The lines of the lowest level list the tokens of the source. -/
theorem messageAt?_trace_log (c : Compilation) :
    c.log.filterMap (Event.messageAt? .trace) = c.tokens.map fun t => "token " ++ t.render := by
  have hparse : c.parse.log.filterMap (Event.messageAt? .trace) = [] :=
    messageAt?_eq_nil fun e he => by rcases level_of_mem_parse_log he with h | h <;> simp [h]
  have hfolding : c.folding.log.filterMap (Event.messageAt? .trace) = [] :=
    messageAt?_eq_nil fun e he => by rcases level_of_mem_folding_log he with h | h <;> simp [h]
  rw [log, List.filterMap_append, List.filterMap_append, List.filterMap_append, hparse, hfolding,
    messageAt?_trace_scan_log]
  simp [tokens, Event.messageAt?, Event.level]

/-- The lines in between list the statements, the folds and the numbers. -/
theorem messageAt?_debug_log (c : Compilation) :
    c.log.filterMap (Event.messageAt? .debug) =
      c.parse.program.map (fun s => atLine s.line ++ s.outline) ++
        c.folding.log.filterMap (Event.messageAt? .debug) ++
          [(Event.compiled c.program.length c.diagnostics.length).message] := by
  have hscan : c.scan.log.filterMap (Event.messageAt? .debug) = [] :=
    messageAt?_eq_nil fun e he => by rcases level_of_mem_scan_log he with h | h <;> simp [h]
  rw [log, List.filterMap_append, List.filterMap_append, List.filterMap_append, hscan,
    messageAt?_debug_parse_log, List.nil_append]
  rfl

end Compilation

namespace CommandLine

/-! ## Runs -/

/-- Each fold in the log of a compilation is one operator less in its program. -/
theorem length_folds_add_operatorsOf (options : Options) (source : String) :
    ((compile options source).folding.log.filterMap (Event.messageAt? .debug)).length +
        operatorsOf (compile options source).program =
      operatorsOf (compile ⟨false⟩ source).program := by
  rw [length_messageAt?_debug_folding_log, Nat.add_comm]
  rcases options with ⟨_ | _⟩
  · rfl
  · exact operators_foldConstants (parse (scan source).tokens).program

/-- A threshold leaves out whole levels. -/
theorem messagesAt_log (settings : Settings) (threshold : Threshold) (source : String)
    (c : Compilation) (level : Level) :
    messagesAt level (Outcome.ofCompilation settings threshold source c).log =
      if threshold.shows level then c.log.filterMap (Event.messageAt? level) else [] := by
  unfold Outcome.ofCompilation shownEvents
  rw [messagesAt_render, List.filterMap_filter]
  split
  next hshown =>
    refine List.filterMap_congr fun e _ => ?_
    by_cases hlevel : e.level = level
    · simp [hlevel, hshown]
    · simp [Event.messageAt?, hlevel]
  next hhidden =>
    refine List.filterMap_eq_nil_iff.2 fun e _ => ?_
    by_cases hlevel : e.level = level
    · simp [hlevel, hhidden]
    · simp [Event.messageAt?, hlevel]

/-- The log of a run and what the run yields tell the same story.  With everything logged,
the lines of the lowest level list the tokens of the source, those that warn list its
diagnostics, which are also the lines that a run prints about them, and the run ends well
exactly when there are none.  The other lines list the statements as they were read, then as
many folds as folding took operators away, and last the numbers of statements and
diagnostics.  No other tokens and no other statements have the same lines.  Any other
threshold leaves out whole levels. -/
theorem log_tells_outcome (settings : Settings) (source : String) :
    let c := compile ⟨settings.fold⟩ source
    let unfolded := compile ⟨false⟩ source
    let o := Outcome.ofCompilation settings (some .trace) source c
    messagesAt .trace o.log = c.tokens.map (fun t => "token " ++ t.render) ∧
      (∀ tokens : List Token,
        tokens.map (fun t => "token " ++ t.render) = messagesAt .trace o.log →
          tokens = c.tokens) ∧
      messagesAt .warn o.log = c.diagnostics.map Diagnostic.message ∧
      o.errors = (if c.diagnostics = [] then [] else "-Errors-" :: messagesAt .warn o.log) ∧
      (o.exitCode = 0 ↔ c.diagnostics = []) ∧
      (∃ statements folds, messagesAt .debug o.log = statements ++ folds ++
            ["compiled " ++ Numeral.ofNat c.program.length ++ " statements with " ++
              Numeral.ofNat c.diagnostics.length ++ " diagnostics"] ∧
          statements = unfolded.program.map (fun s => atLine s.line ++ s.outline) ∧
          (∀ program : Program,
            program.map (fun s => atLine s.line ++ s.outline) = statements →
              program = unfolded.program) ∧
          (∀ message ∈ folds, ∃ line rest, message = atLine line ++ "folded " ++ rest) ∧
          folds.length + operatorsOf c.program = operatorsOf unfolded.program) ∧
      ∀ threshold level,
        messagesAt level (Outcome.ofCompilation settings threshold source c).log =
          if Threshold.shows threshold level then messagesAt level o.log else [] := by
  intro c unfolded o
  have hfull (level : Level) :
      messagesAt level o.log = c.log.filterMap (Event.messageAt? level) := by
    rw [messagesAt_log, if_pos (by cases level <;> rfl)]
  have htrace : messagesAt .trace o.log = c.tokens.map (fun t => "token " ++ t.render) := by
    rw [hfull, c.messageAt?_trace_log]
  have hwarn : messagesAt .warn o.log = c.diagnostics.map Diagnostic.message := by
    rw [hfull, messageAt?_warn, c.diagnostic?_log]
  refine ⟨htrace, fun tokens htokens => ?_, hwarn, ?_, exitCode_eq_zero_iff,
    ⟨_, c.folding.log.filterMap (Event.messageAt? .debug), ?_, rfl, fun program hprogram => ?_,
      fun message => ?_, ?_⟩,
    fun threshold level => ?_⟩
  · exact (List.map_inj_right fun _ _ => Event.message_token_inj).1 (htokens.trans htrace)
  · rw [hwarn]
    rfl
  · rw [hfull, c.messageAt?_debug_log]
    rfl
  · exact (List.map_inj_right fun _ _ => Event.message_parsed_inj).1 hprogram
  · exact exists_eq_of_mem_folding_log
  · exact length_folds_add_operatorsOf ⟨settings.fold⟩ source
  · rw [messagesAt_log, hfull]

/-- The log of a run over one line of each sort, one of them with an undeclared name. -/
theorem log_tells_outcome_sample :
    let source := "INT a\na = (1 + 2) * b\nPRINT \"a\tb\""
    let o := Outcome.ofCompilation ⟨.standard, false, false, true, 2, 0⟩ (some .trace) source
      (compile ⟨true⟩ source)
    let statements := ["line 1: Declare \x7b name: \"A\", ty: Integer, line: 1 \x7d",
      "line 2: Assign \x7b target: \"A\", ty: Integer, value: Binary(Mul, Binary(Add, " ++
        "Literal(Int(1)), Literal(Int(2))), Variable(\"B\")), line: 2 \x7d",
      "line 3: Print \x7b arg: Literal(Str(\"a\\tb\")), line: 3 \x7d"]
    o.log = ["TRACE token ID(INT, 1)", "TRACE token ID(A, 1)", "TRACE token EOL(, 1)",
        "TRACE token ID(A, 2)", "TRACE token SYM(=, 2)", "TRACE token SYM((, 2)",
        "TRACE token NUM(1, 2)", "TRACE token SYM(+, 2)", "TRACE token NUM(2, 2)",
        "TRACE token SYM(), 2)", "TRACE token SYM(*, 2)", "TRACE token ID(B, 2)",
        "TRACE token EOL(, 2)", "TRACE token ID(PRINT, 3)", "TRACE token STR(a\tb, 3)",
        "TRACE token EOI(, 3)",
        "DEBUG line 1: Declare \x7b name: \"A\", ty: Integer, line: 1 \x7d",
        "WARN line 2: undeclared variable 'B'",
        "DEBUG line 2: Assign \x7b target: \"A\", ty: Integer, value: Binary(Mul, Binary(Add, " ++
          "Literal(Int(1)), Literal(Int(2))), Variable(\"B\")), line: 2 \x7d",
        "DEBUG line 3: Print \x7b arg: Literal(Str(\"a\\tb\")), line: 3 \x7d",
        "DEBUG line 2: folded Binary(Add, Literal(Int(1)), Literal(Int(2))) to 3",
        "DEBUG compiled 3 statements with 1 diagnostics"] ∧
      o.errors = ["-Errors-", "line 2: undeclared variable 'B'"] ∧ o.exitCode = 1 ∧
      ∀ program : Program, program.map (fun s => atLine s.line ++ s.outline) = statements →
        program = [.declare "A" .integer 1,
          .assign "A" .integer
            (.binary .mul (.binary .add (.int 1) (.int 2)) (.named "B")) 2,
          .perform .print (.literal (.text "a\tb")) 3] := by
  intro source o statements
  have hprogram : (compile ⟨false⟩ source).program = [.declare "A" .integer 1,
      .assign "A" .integer (.binary .mul (.binary .add (.int 1) (.int 2)) (.named "B")) 2,
      .perform .print (.literal (.text "a\tb")) 3] := by decide +kernel
  have hstatements : (compile ⟨false⟩ source).program.map
      (fun s => atLine s.line ++ s.outline) = statements := by decide +kernel
  obtain ⟨-, -, -, -, -, ⟨_, _, -, rfl, htold, -⟩, -⟩ :=
    log_tells_outcome ⟨.standard, false, false, true, 2, 0⟩ source
  refine ⟨by decide +kernel, by decide +kernel, by decide +kernel, ?_⟩
  intro program hlines
  rw [← hprogram]
  exact htold program (hlines.trans hstatements.symm)

end CommandLine

end Primer
