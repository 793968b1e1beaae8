import Primer.Proofs.TokenLines
import Primer.Reading.Program

/-!
# Lines are read on their own

What follows a line is not touched by what is wrong in it: tokens that end with an end
of line can be read first, and all that the tokens behind them need to know of that are
the declarations.

Main definitions:

- `Closed` says that tokens are whole lines.

Main results:

- Theorem `splitLines_append`: whole lines are split off in front of what follows.
- Theorem `parseFrom_append`: whole lines are read first, and what follows is read
  against the declarations behind them.
- Theorem `parse_append_of_lines`: the same for reading without declarations before.
-/

namespace Primer

/-- The tokens are whole lines: the input does not end among them, and the last of them,
if there is one, ends a line. -/
structure Closed (tokens : List Token) : Prop where
  not_endOfInput : ∀ t ∈ tokens, t.kind ≠ .endOfInput
  endOfLine_of_getLast? : ∀ t ∈ tokens.getLast?, t.kind = .endOfLine

/-! ## Splitting -/

/-- Whatever was read of a line, the lines behind whole lines are split as if they stood
alone. -/
theorem splitLinesOnto_append_of_closed (lines : List Line) (current : List Token)
    {front : List Token} (hfront : Closed front) (hne : front ≠ []) (back : List Token) :
    splitLinesOnto lines current (front ++ back) =
      splitLinesOnto lines current front ++ splitLines back := by
  induction front generalizing lines current with
  | nil => exact absurd rfl hne
  | cons t front ih =>
      have hinput : t.kind ≠ .endOfInput := hfront.not_endOfInput t List.mem_cons_self
      have hlater (hfrontNe : front ≠ []) : Closed front := by
        refine ⟨fun u hu => hfront.not_endOfInput u (List.mem_cons_of_mem _ hu), ?_⟩
        obtain ⟨u, rest, rfl⟩ := List.exists_cons_of_ne_nil hfrontNe
        simpa using hfront.endOfLine_of_getLast?
      by_cases hline : t.kind = .endOfLine
      · rw [List.cons_append]
        simp only [splitLinesOnto, hline]
        by_cases hempty : front = []
        · subst hempty
          rw [splitLinesOnto_eq]
          simp [splitLinesOnto, splitLines]
        · exact ih _ _ (hlater hempty) hempty
      · have hends : t.endsLine = false := by simp [Token.endsLine, hline, hinput]
        -- A token inside a line is not the last one.
        have hmore : front ≠ [] := by
          rintro rfl
          exact hline (hfront.endOfLine_of_getLast? t rfl)
        rw [List.cons_append, splitLinesOnto_cons_of_not_endsLine _ _ _ hends,
          splitLinesOnto_cons_of_not_endsLine _ _ _ hends]
        exact ih _ _ (hlater hmore) hmore

/-- Whole lines are split off in front of what follows. -/
theorem splitLines_append {front : List Token} (hfront : Closed front) (back : List Token) :
    splitLines (front ++ back) = splitLines front ++ splitLines back := by
  by_cases hempty : front = []
  · subst hempty
    rfl
  · exact splitLinesOnto_append_of_closed [] [] hfront hempty back

/-- Behind whole lines, the end of the input ends a blank one. -/
theorem splitLines_append_endOfInput {front : List Token} (hfront : Closed front)
    {closing : Token} (hclosing : closing.kind = .endOfInput) :
    splitLines (front ++ [closing]) = splitLines front ++ [⟨[], closing⟩] := by
  rw [splitLines_append hfront]
  exact congrArg _ (splitLines_endOfInput (List.forall_mem_nil _) hclosing [])

/-! ## Closing -/

/-- Tokens that are whole lines have their last line ended. -/
theorem endLastLine_of_closed {front : List Token} (hfront : Closed front) :
    endLastLine front = front := by
  unfold endLastLine
  cases hlast : front.getLast? with
  | none => rw [List.getLast?_eq_none_iff.1 hlast]
  | some last => simp [hfront.endOfLine_of_getLast? last hlast]

/-- Tokens in which the input does not end are closed by ending their last line, and the end of
the input behind it. -/
theorem closeTokens_of_not_endOfInput {ts : List Token} (h : ∀ t ∈ ts, t.kind ≠ .endOfInput) :
    closeTokens ts = endLastLine ts ++ [(splitClosing ts).2] := by
  have hbody : (splitClosing ts).1 = ts := by
    unfold splitClosing
    cases hlast : ts.getLast? with
    | none => exact (List.getLast?_eq_none_iff.1 hlast).symm
    | some last => simp [h last (List.mem_of_getLast? hlast)]
  rw [closeTokens, hbody]

/-- Whole lines are closed by the end of the input alone. -/
theorem closeTokens_of_closed {front : List Token} (hfront : Closed front) :
    closeTokens front = front ++ [(splitClosing front).2] := by
  rw [closeTokens_of_not_endOfInput hfront.not_endOfInput, endLastLine_of_closed hfront]

/-- Only the last line is ended. -/
theorem endLastLine_append {front back : List Token} (hfront : Closed front) :
    endLastLine (front ++ back) = front ++ endLastLine back := by
  cases hlast : back.getLast? with
  | none =>
      obtain rfl := List.getLast?_eq_none_iff.1 hlast
      rw [List.append_nil, endLastLine_of_closed hfront]
      exact (List.append_nil _).symm
  | some last =>
      unfold endLastLine
      rw [List.getLast?_append, hlast, Option.some_or]
      by_cases hkind : last.kind = .endOfLine
      · simp [hkind]
      · simp [hkind]

/-- The end of the input is split off the last part of a list of tokens. -/
theorem splitClosing_append (front : List Token) {back : List Token} (hback : back ≠ []) :
    splitClosing (front ++ back) = (front ++ (splitClosing back).1, (splitClosing back).2) := by
  unfold splitClosing
  rw [List.getLast?_append]
  cases hlast : back.getLast? with
  | none => exact absurd (List.getLast?_eq_none_iff.1 hlast) hback
  | some last =>
      by_cases hkind : last.kind = .endOfInput
      · simp [hkind, List.dropLast_append_of_ne_nil hback]
      · simp [hkind]

/-- Whole lines do not change how what follows them is closed. -/
theorem closeTokens_append {front back : List Token} (hfront : Closed front) (hback : back ≠ []) :
    closeTokens (front ++ back) = front ++ closeTokens back := by
  unfold closeTokens
  rw [splitClosing_append front hback, endLastLine_append hfront, List.append_assoc]

/-- Tokens in which the input does not end are made whole lines by ending the last one. -/
theorem closed_endLastLine {ts : List Token} (h : ∀ t ∈ ts, t.kind ≠ .endOfInput) :
    Closed (endLastLine ts) := by
  unfold endLastLine
  cases hlast : ts.getLast? with
  | none => exact ⟨List.forall_mem_nil _, nofun⟩
  | some last =>
      by_cases hkind : last.kind = .endOfLine
      · simp only [hkind, if_true]
        exact ⟨h, by simp [hlast, hkind]⟩
      · simp only [hkind, if_false]
        exact ⟨by simpa [or_imp, forall_and] using h, by simp⟩

/-- Tokens with the end of the input behind them are closed by ending their last line. -/
theorem closeTokens_endOfInput (ts : List Token) {closing : Token}
    (hclosing : closing.kind = .endOfInput) :
    closeTokens (ts ++ [closing]) = endLastLine ts ++ [closing] := by
  simp [closeTokens, splitClosing, hclosing]

/-! ## Reading -/

/-- A statement of lines that are read one after another is that of one of the lines, read
against the declarations before it. -/
theorem exists_line_of_mem_readLines {symbols : SymbolTable} {lines : List Line} {s : Statement}
    (h : s ∈ (readLines symbols lines).1.filterMap LineReading.statement?) :
    ∃ before line behind, lines = before ++ line :: behind ∧
      (readLineFrom (readLines symbols before).2 line).1.statement? = some s := by
  induction lines generalizing symbols with
  | nil => cases h
  | cons line lines ih =>
      rw [readLines_cons, List.mem_filterMap] at h
      rcases h with ⟨outcome, hmem, hs⟩
      rcases List.mem_cons.1 hmem with rfl | hmem
      · exact ⟨[], line, lines, rfl, hs⟩
      · rcases ih (List.mem_filterMap.2 ⟨outcome, hmem, hs⟩) with
          ⟨before, other, behind, rfl, hread⟩
        refine ⟨line :: before, other, behind, rfl, ?_⟩
        rwa [readLines_cons]

/-- A blank line at the end of a program makes no difference to what is read. -/
theorem parseFrom_of_closed (symbols : SymbolTable) {front : List Token} (hfront : Closed front) :
    (parseFrom symbols front).program =
        (readLines symbols (splitLines front)).1.filterMap LineReading.statement? ∧
      (parseFrom symbols front).diagnostics =
        (readLines symbols (splitLines front)).1.flatMap LineReading.diagnostics ∧
      (parseFrom symbols front).symbols = (readLines symbols (splitLines front)).2 := by
  have hread : parseFrom symbols front =
      ⟨(readLines symbols (splitLines front)).1 ++ [⟨none, [], none⟩],
        (readLines symbols (splitLines front)).2⟩ := by
    unfold parseFrom
    rw [closeTokens_of_closed hfront,
      splitLines_append_endOfInput hfront (kind_splitClosing front), readLines_append]
    simp [readLines_cons, readLineFrom_blank]
  rw [hread]
  simp [Parse.program, Parse.diagnostics, LineReading.diagnostics]

/-- Whole lines are read first, and what follows is read against the declarations behind
them. -/
theorem parseFrom_append (symbols : SymbolTable) {front : List Token} (hfront : Closed front)
    (back : List Token) :
    (parseFrom symbols (front ++ back)).program =
        (parseFrom symbols front).program ++
          (parseFrom (parseFrom symbols front).symbols back).program ∧
      (parseFrom symbols (front ++ back)).diagnostics =
        (parseFrom symbols front).diagnostics ++
          (parseFrom (parseFrom symbols front).symbols back).diagnostics ∧
      (parseFrom symbols (front ++ back)).symbols =
        (parseFrom (parseFrom symbols front).symbols back).symbols := by
  by_cases hback : back = []
  · subst hback
    have hnil (known : SymbolTable) : parseFrom known [] = ⟨[⟨none, [], none⟩], known⟩ := rfl
    rw [List.append_nil, hnil]
    simp [Parse.program, Parse.diagnostics, LineReading.diagnostics]
  · rcases parseFrom_of_closed symbols hfront with ⟨hprogram, hdiagnostics, hsymbols⟩
    have hread : parseFrom symbols (front ++ back) =
        ⟨(readLines symbols (splitLines front)).1 ++
            (parseFrom (parseFrom symbols front).symbols back).lines,
          (parseFrom (parseFrom symbols front).symbols back).symbols⟩ := by
      unfold parseFrom at hsymbols ⊢
      rw [closeTokens_append hfront hback, splitLines_append hfront, readLines_append, hsymbols]
    rw [hread, hprogram, hdiagnostics]
    simp [Parse.program, Parse.diagnostics]

/-- Lines are read on their own.  Of tokens that are whole lines, whatever is wrong with
them, nothing is carried over to the tokens behind them but the declarations: the
statements and the diagnostics of both follow one another, and the declarations in the
end are those behind the second. -/
theorem parse_append_of_lines {front : List Token} (back : List Token)
    (hinput : ∀ t ∈ front, t.kind ≠ .endOfInput)
    (hline : ∀ t ∈ front.getLast?, t.kind = .endOfLine) :
    (parse (front ++ back)).program =
        (parse front).program ++ (parseFrom (parse front).symbols back).program ∧
      (parse (front ++ back)).diagnostics =
        (parse front).diagnostics ++ (parseFrom (parse front).symbols back).diagnostics ∧
      (parse (front ++ back)).symbols = (parseFrom (parse front).symbols back).symbols :=
  parseFrom_append SymbolTable.empty ⟨hinput, hline⟩ back

/-- The line `A = ---…` with one sign more than a statement may hold. -/
def overlongLine : List Token :=
  [⟨.identifier, "A", 1⟩, ⟨.symbol, "=", 1⟩] ++
    (List.replicate 513 ⟨.symbol, "-", 1⟩ ++ [⟨.endOfLine, "", 1⟩])

/-- Behind a line that is given up, a declaration is read as if it stood alone. -/
theorem parse_append_of_overlongLine :
    let behind : List Token := [⟨.identifier, "INT", 2⟩, ⟨.identifier, "A", 2⟩]
    (∀ t ∈ overlongLine, t.kind ≠ .endOfInput) ∧
      (∀ t ∈ overlongLine.getLast?, t.kind = .endOfLine) ∧
      (parse overlongLine).diagnostics =
        [.semantic (.undeclaredAssignment 1 "A"), .grammar (.expressionTooComplex 1 512)] ∧
      (parse (overlongLine ++ behind)).program =
        (parse overlongLine).program ++
          (parseFrom (parse overlongLine).symbols behind).program ∧
      (parse (overlongLine ++ behind)).diagnostics =
        (parse overlongLine).diagnostics ++
          (parseFrom (parse overlongLine).symbols behind).diagnostics ∧
      (parse (overlongLine ++ behind)).symbols =
        (parseFrom (parse overlongLine).symbols behind).symbols := by
  have hinput : ∀ t ∈ overlongLine, t.kind ≠ .endOfInput := by decide +kernel
  have hline : ∀ t ∈ overlongLine.getLast?, t.kind = .endOfLine := by decide +kernel
  have hdiagnostics : (parse overlongLine).diagnostics =
      [.semantic (.undeclaredAssignment 1 "A"), .grammar (.expressionTooComplex 1 512)] := by
    decide +kernel
  exact ⟨hinput, hline, hdiagnostics, parse_append_of_lines _ hinput hline⟩

end Primer
