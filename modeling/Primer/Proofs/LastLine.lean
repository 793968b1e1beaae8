import Primer.Proofs.InputEnd
import Primer.Proofs.Shrinking
import Primer.Proofs.TrailingBlanks
import Primer.Proofs.Writing.Scanning

/-!
# One more line

A line is put behind a text that is compiled without a diagnostic.  What is compiled of the
longer text is what is compiled of the text, and behind that what the line holds when it is
read against the declarations of the text.

Main definitions:

- `endedLines` are the tokens of a text, its last line ended.
- `Options.folding` folds the constants of a program if that is chosen.
- `LineGives` says what a line adds to a text in front of it.

Main results:

- Theorem `tokens_append_line`: which tokens there are.
- Theorem `parse_append_line`: what is read.
- Theorem `lineGives_of_silent`: which statements there are more, and which diagnostics.
-/

namespace Primer

/-! ## Scanning -/

/-- The tokens of a text with an end of line behind them. -/
def endedLines (source : String) : List Token :=
  (scan source).lexemes.map PlacedLexeme.token ++ [⟨.endOfLine, "", (scan source).lastLine⟩]

/-- The tokens of ended lines stop at the end of a line. -/
theorem closed_endedLines (source : String) : Closed (endedLines source) := by
  constructor
  · intro t ht
    rcases List.mem_append.1 ht with ht | ht
    · exact kind_ne_endOfInput_of_mem ht
    · rw [List.mem_singleton.1 ht]
      exact nofun
  · intro t ht
    rw [endedLines, List.getLast?_append, List.getLast?_singleton, Option.some_or] at ht
    rw [← Option.some.inj ht]

/-- A text without an error about its end has no lexeme that a line feed would change. -/
theorem map_brokenOff_of_closed {source : String}
    (hclosed : ∀ n, LexicalError.unexpectedEnd n ∉ (scan source).errors) :
    (scan source).lexemes.map PlacedLexeme.brokenOff = (scan source).lexemes := by
  refine (List.map_congr_left fun p hp => ?_).trans (List.map_id _)
  have hplaced : (scan source).lexemes.map PlacedLexeme.lexeme = lexemes source.toList :=
    map_lexeme_placeAll 1 _
  have hlexeme : p.lexeme.brokenOff = p.lexeme :=
    brokenOff_of_closed hclosed _ (hplaced ▸ List.mem_map_of_mem hp)
  rw [PlacedLexeme.brokenOff, hlexeme]
  rfl

section

variable {front line : String} {ls : List Lexeme}
  (hclosed : ∀ n, LexicalError.unexpectedEnd n ∉ (scan front).errors)
  (hline : lexemes line.toList = ls) (hsound : ∀ l ∈ ls, l.isSound = true)

include hclosed hline hsound

/-- The lexemes of the line stand one line below the last line of the text. -/
theorem scan_append_line :
    scan (front ++ "\n" ++ line) =
      ⟨(scan front).lexemes ++ ⟨.lineFeed, (scan front).lastLine⟩ ::
          ls.map (⟨·, 1 + (scan front).lastLine⟩),
        1 + (scan front).lastLine⟩ := by
  have hback : scan line = ⟨ls.map (⟨·, 1⟩), 1⟩ := by
    rw [scan, hline, placeAll_of_isSound hsound]
  rw [scan_append_lineFeed_eq, map_brokenOff_of_closed hclosed, hback, List.map_map]
  rfl

/-- The tokens of the line follow those of the text, one line further down. -/
theorem tokens_append_line :
    (scan (front ++ "\n" ++ line)).tokens =
      endedLines front ++ (tokensOn (1 + (scan front).lastLine) ls ++
        [⟨.endOfInput, "", 1 + (scan front).lastLine⟩]) := by
  rw [Scan.tokens, scan_append_line hclosed hline hsound, endedLines, tokensOn, List.map_append,
    List.map_cons, List.map_map, List.append_assoc, List.append_assoc]
  rfl

/-- Nothing is wrong with the lexemes of the line. -/
theorem errors_append_line : (scan (front ++ "\n" ++ line)).errors = (scan front).errors := by
  have hsilent : (ls.map fun l => (⟨l, 1 + (scan front).lastLine⟩ : PlacedLexeme)).filterMap
      PlacedLexeme.error? = [] := by
    rw [List.filterMap_map, List.filterMap_eq_nil_iff]
    exact fun l hl => error?_of_isSound (hsound l hl) _
  rw [Scan.errors, scan_append_line hclosed hline hsound, List.filterMap_append,
    List.filterMap_cons_none rfl, hsilent, List.append_nil]
  rfl

end

/-! ## Reading -/

/-- The end of the last line makes no difference to what is read. -/
theorem parse_endedLines {source : String}
    (hclosed : ∀ n, LexicalError.unexpectedEnd n ∉ (scan source).errors) :
    (parse (endedLines source)).Agrees (parse (scan source).tokens) := by
  have hfeed : ∀ c ∈ "\n".toList, IsBlank c ∨ c = '\n' := by simp
  have htokens : (scan (source ++ "\n")).tokens = endedLines source ++
      [(scan (source ++ "\n")).closing] := by
    rw [Scan.tokens, scan_append_blanks hclosed hfeed, List.map_append]
    rfl
  have hsame : parse (scan (source ++ "\n")).tokens = parse (endedLines source) := by
    rw [htokens]
    exact parseFrom_append_endOfInput _ (closed_endedLines source).not_endOfInput rfl
  rw [← hsame]
  exact parse_append_blanks hclosed hfeed

/-- The end of the input is put on the line of the last token. -/
theorem line_splitClosing_tokensOn {ls : List Lexeme} (hne : ls ≠ []) (line : Nat) :
    (splitClosing (tokensOn line ls)).2.line = line := by
  obtain ⟨front, l, rfl⟩ := List.eq_nil_or_concat ls |>.resolve_left hne
  have hkind : (PlacedLexeme.token ⟨l, line⟩).kind ≠ .endOfInput := by cases l <;> exact nofun
  simp [splitClosing, tokensOn, hkind]

/-- The tokens of one line are read as that line. -/
theorem parseFrom_tokensOn {ls : List Lexeme} (hne : ls ≠ []) (hsound : ∀ l ∈ ls, l.isSound = true)
    (symbols : SymbolTable) (line : Nat) :
    let closing : Token := ⟨.endOfInput, "", line⟩
    let outcome := readLineFrom symbols ⟨tokensOn line ls, ⟨.endOfLine, "", line⟩⟩
    parseFrom symbols (tokensOn line ls ++ [closing]) =
      ⟨[outcome.1, ⟨none, [], none⟩], outcome.2⟩ := by
  intro closing outcome
  have hinside : ∀ t ∈ tokensOn line ls, t.endsLine = false := by
    intro t ht
    obtain ⟨l, hl, rfl⟩ := List.mem_map.1 ht
    exact endsLine_of_isSound (hsound l hl) line
  have hinput : ∀ t ∈ tokensOn line ls, t.kind ≠ .endOfInput := by
    intro t ht hkind
    have hends := hinside t ht
    simp [Token.endsLine, hkind] at hends
  have hunfinished := parseFrom_unfinished hinside symbols (List.map_eq_nil_iff.not.2 hne)
  rw [line_splitClosing_tokensOn hne line] at hunfinished
  rw [parseFrom_append_endOfInput symbols hinput rfl, hunfinished]

/-- The line is read against the declarations of the text in front of it. -/
theorem parse_append_line {front line : String} {ls : List Lexeme}
    (hclosed : ∀ n, LexicalError.unexpectedEnd n ∉ (scan front).errors)
    (hline : lexemes line.toList = ls) (hne : ls ≠ []) (hsound : ∀ l ∈ ls, l.isSound = true) :
    let number := 2 + front.toList.count '\n'
    let known := parse (scan front).tokens
    let outcome := (readLineFrom known.symbols
      ⟨tokensOn number ls, ⟨.endOfLine, "", number⟩⟩).1
    (parse (scan (front ++ "\n" ++ line)).tokens).program =
        known.program ++ outcome.statement?.toList ∧
      (parse (scan (front ++ "\n" ++ line)).tokens).diagnostics =
        known.diagnostics ++ outcome.diagnostics := by
  intro number known outcome
  have hnumber : 1 + (scan front).lastLine = number := by
    rw [lastLine_scan, ← Nat.add_assoc]
  have hended := parse_endedLines hclosed
  have hlast := parseFrom_tokensOn hne hsound (parse (endedLines front)).symbols number
  rw [hended.symbols_eq] at hlast
  obtain ⟨hprogram, hdiagnostics, -⟩ := parseFrom_append SymbolTable.empty
    (closed_endedLines front) (tokensOn number ls ++ [⟨.endOfInput, "", number⟩])
  change _ = (parse (endedLines front)).program ++
    (parseFrom (parse (endedLines front)).symbols _).program at hprogram
  change _ = (parse (endedLines front)).diagnostics ++
    (parseFrom (parse (endedLines front)).symbols _).diagnostics at hdiagnostics
  rw [hended.symbols_eq, hlast, hended.program_eq] at hprogram
  rw [hended.symbols_eq, hlast, hended.diagnostics_eq] at hdiagnostics
  rw [tokens_append_line hclosed hline hsound, hnumber]
  constructor
  · refine hprogram.trans (congrArg (known.program ++ ·) ?_)
    cases hstatement : outcome.statement? <;> simp [Parse.program, outcome, known, hstatement]
  · refine hdiagnostics.trans (congrArg (known.diagnostics ++ ·) ?_)
    simp [Parse.diagnostics, LineReading.diagnostics, outcome, known]

/-! ## Compiling -/

/-- Fold the constants of a program if that is chosen. -/
def Options.folding (options : Options) (program : Program) : Folding :=
  if options.fold then foldConstants program else .skipped program

namespace Options

variable (options : Options)

/-- Folding two programs, one behind the other, folds each. -/
theorem program_folding_append (p q : Program) :
    (options.folding (p ++ q)).program =
      (options.folding p).program ++ (options.folding q).program := by
  cases hfold : options.fold with
  | true => simpa [folding, hfold] using program_foldConstants_append p q
  | false => simp [folding, hfold, Folding.skipped]

/-- The faults of two programs are those of the first and then those of the second. -/
theorem faults_folding_append (p q : Program) :
    (options.folding (p ++ q)).faults =
      (options.folding p).faults ++ (options.folding q).faults := by
  cases hfold : options.fold with
  | true => simpa [folding, hfold] using faults_foldConstants_append p q
  | false => simp [folding, hfold, Folding.skipped, Folding.faults]

end Options

/-- The program compiled is the one parsed, folded as the options say. -/
theorem program_compile (options : Options) (source : String) :
    (compile options source).program =
      (options.folding (parse (scan source).tokens).program).program :=
  rfl

/-- The diagnostics come in the order of the stages: scanning, parsing, folding. -/
theorem diagnostics_compile (options : Options) (source : String) :
    (compile options source).diagnostics =
      (scan source).errors.map Diagnostic.lexical ++ (parse (scan source).tokens).diagnostics ++
        (options.folding (parse (scan source).tokens).program).faults.map Diagnostic.arithmetic :=
  rfl

/-- Put behind the text, the line gives these statements more, and all diagnostics there are. -/
structure LineGives (options : Options) (front line : String) (program : Program)
    (diagnostics : List Diagnostic) : Prop where
  program_eq : (compile options (front ++ "\n" ++ line)).program =
    (compile options front).program ++ program
  diagnostics_eq : (compile options (front ++ "\n" ++ line)).diagnostics = diagnostics

/-- A line behind a text that is compiled without a diagnostic is read against the declarations
of the text.  Its statement follows those of the text, folded on its own, and there are the
diagnostics of the line only. -/
theorem lineGives_of_silent {options : Options} {front line : String} {ls : List Lexeme}
    (hsilent : (compile options front).diagnostics = []) (hline : lexemes line.toList = ls)
    (hne : ls ≠ []) (hsound : ∀ l ∈ ls, l.isSound = true) :
    let number := 2 + front.toList.count '\n'
    let outcome := (readLineFrom (compile options front).symbols
      ⟨tokensOn number ls, ⟨.endOfLine, "", number⟩⟩).1
    let folded := options.folding outcome.statement?.toList
    LineGives options front line folded.program
      (outcome.diagnostics ++ folded.faults.map Diagnostic.arithmetic) := by
  intro number outcome folded
  rw [diagnostics_compile, List.append_eq_nil_iff, List.append_eq_nil_iff, List.map_eq_nil_iff,
    List.map_eq_nil_iff] at hsilent
  obtain ⟨⟨herrors, hreports⟩, hfaults⟩ := hsilent
  have hclosed : ∀ n, LexicalError.unexpectedEnd n ∉ (scan front).errors := by simp [herrors]
  obtain ⟨hprogram, hdiagnostics⟩ := parse_append_line hclosed hline hne hsound
  constructor
  · rw [program_compile, hprogram, options.program_folding_append]
    rfl
  · rw [diagnostics_compile, errors_append_line hclosed hline hsound, herrors, hdiagnostics,
      hreports, hprogram, options.faults_folding_append, hfaults]
    rfl

/-- The same for a line that is read to its end and folds without a fault. -/
theorem lineGives_of_read {options : Options} {front line : String} {ls : List Lexeme}
    (hsilent : (compile options front).diagnostics = []) (hline : lexemes line.toList = ls)
    (hne : ls ≠ []) (hsound : ∀ l ∈ ls, l.isSound = true) {statement? : Option Statement}
    {reports : List Diagnostic}
    (hread : let number := 2 + front.toList.count '\n'
      (readLineFrom (compile options front).symbols
        ⟨tokensOn number ls, ⟨.endOfLine, "", number⟩⟩).1 = ⟨statement?, reports, none⟩)
    (hfaults : (options.folding statement?.toList).faults = []) :
    LineGives options front line (options.folding statement?.toList).program reports := by
  have hgives := lineGives_of_silent hsilent hline hne hsound
  simp only [hread, LineReading.diagnostics, hfaults] at hgives
  simpa using hgives

end Primer
