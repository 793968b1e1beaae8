import Primer.Proofs.Grammar.Completeness
import Primer.Proofs.Grammar.Soundness
import Primer.Reading.Program

/-!
# The grammar is what is accepted

Reading a list of tokens reports nothing exactly when its lines are a program of the
grammar, and then the program that was read is that one.

Main results:

- Theorem `statementForm_iff`: a line is a statement of the grammar exactly when it
  is read in silence as that statement.
- Theorem `programForm_iff`: the same for lines read one after another.
- Theorem `accepted_iff_grammatical`: the same for a list of tokens.
-/

namespace Primer

/-- A line with a token in it is a statement of the grammar exactly when it is read in
silence as that statement. -/
theorem statementForm_iff {symbols : SymbolTable} {line : Line} (hline : line.tokens ≠ [])
    {s : Statement} :
    StatementForm symbols line.tokens s ↔
      (readLineFrom symbols line).1.diagnostics = [] ∧
        (readLineFrom symbols line).1.statement? = some s := by
  rcases line with ⟨tokens, closing⟩
  rcases List.exists_cons_of_ne_nil hline with ⟨t, rest, rfl⟩
  constructor
  · intro h
    simp [readLineFrom, readStatement_of_statementForm h closing, LineReading.diagnostics,
      trailing?]
  · rintro ⟨hsilent, hstatement⟩
    rcases List.append_eq_nil_iff.1 hsilent with ⟨hreports, htrailing⟩
    obtain ⟨read, hread, hform, -⟩ := readsForm_of_composed
      (composed_readStatement ⟨symbols, closing⟩ t rest) hreports
      (Option.toList_eq_nil_iff.1 htrailing)
    obtain rfl : read = s := Option.some.inj (hread.symm.trans hstatement)
    exact hform

/-- A line with a token in it that is read in silence holds a statement. -/
theorem exists_statement_of_silent {symbols : SymbolTable} {line : Line} (hline : line.tokens ≠ [])
    (hsilent : (readLineFrom symbols line).1.diagnostics = []) :
    ∃ s, (readLineFrom symbols line).1.statement? = some s := by
  rcases line with ⟨tokens, closing⟩
  rcases List.exists_cons_of_ne_nil hline with ⟨t, rest, rfl⟩
  rcases List.append_eq_nil_iff.1 hsilent with ⟨hreports, htrailing⟩
  obtain ⟨s, hstatement, -, -⟩ := readsForm_of_composed
    (composed_readStatement ⟨symbols, closing⟩ t rest) hreports
    (Option.toList_eq_nil_iff.1 htrailing)
  exact ⟨s, hstatement⟩

/-- A statement of the grammar leaves the declarations behind it. -/
theorem symbols_of_statementForm {symbols : SymbolTable} {line : Line} {s : Statement}
    (h : StatementForm symbols line.tokens s) :
    (readLineFrom symbols line).2 = symbols.behind s := by
  rcases line with ⟨tokens, closing⟩
  cases tokens with
  | nil => cases h
  | cons t rest => simp [readLineFrom, readStatement_of_statementForm h closing]

/-- Lines are a program of the grammar exactly when they are read in silence as that
program. -/
theorem programForm_iff {symbols : SymbolTable} {lines : List Line} {program : Program} :
    ProgramForm symbols ((lines.map Line.tokens).filter fun line => line != []) program ↔
      (readLines symbols lines).1.flatMap LineReading.diagnostics = [] ∧
        (readLines symbols lines).1.filterMap LineReading.statement? = program := by
  induction lines generalizing symbols program with
  | nil =>
      constructor
      · intro h
        cases h
        exact ⟨rfl, rfl⟩
      · rintro ⟨-, rfl⟩
        exact .nil
  | cons line lines ih =>
      rw [readLines_cons, List.map_cons]
      by_cases hline : line.tokens = []
      · have hblank : readLineFrom symbols line = (⟨none, [], none⟩, symbols) := by
          rcases line with ⟨tokens, closing⟩
          obtain rfl : tokens = [] := hline
          exact readLineFrom_blank symbols closing
        simpa [hline, hblank, LineReading.diagnostics] using ih
      · rw [List.filter_cons_of_pos (by simpa using hline), List.flatMap_cons,
          List.append_eq_nil_iff]
        constructor
        · intro h
          cases h with
          | cons hstatement hlines =>
              rcases (statementForm_iff hline).1 hstatement with ⟨hsilent, hread⟩
              rw [← symbols_of_statementForm hstatement] at hlines
              rcases ih.1 hlines with ⟨hlater, hprogram⟩
              exact ⟨⟨hsilent, hlater⟩, by simp [hread, hprogram]⟩
        · rintro ⟨⟨hsilent, hlater⟩, hprogram⟩
          rcases exists_statement_of_silent hline hsilent with ⟨s, hread⟩
          have hstatement := (statementForm_iff hline).2 ⟨hsilent, hread⟩
          have hlines := ih.2 ⟨hlater, rfl⟩
          rw [symbols_of_statementForm hstatement] at hlines
          rw [List.filterMap_cons_some hread] at hprogram
          subst hprogram
          rw [symbols_of_statementForm hstatement]
          exact .cons hstatement hlines

/-- Tokens form a program exactly if it is what parsing them yields without a diagnostic. -/
theorem grammatical_iff {tokens : List Token} {program : Program} :
    Grammatical tokens program ↔
      (parse tokens).diagnostics = [] ∧ (parse tokens).program = program := by
  unfold Grammatical
  rw [← filter_map_tokens_closeTokens]
  exact programForm_iff

/-- A list of tokens is read without a diagnostic exactly when its lines are a program
of the grammar.  There is one such program at most, and it is the one that was read. -/
theorem accepted_iff_grammatical (tokens : List Token) :
    ((parse tokens).diagnostics = [] ↔ ∃ program, Grammatical tokens program) ∧
      ∀ program, Grammatical tokens program ↔
        (parse tokens).diagnostics = [] ∧ (parse tokens).program = program := by
  refine ⟨⟨?_, ?_⟩, fun program => grammatical_iff⟩
  · intro hsilent
    exact ⟨_, grammatical_iff.2 ⟨hsilent, rfl⟩⟩
  · rintro ⟨program, h⟩
    exact (grammatical_iff.1 h).1

end Primer
