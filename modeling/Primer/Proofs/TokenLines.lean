import Primer.Line

/-!
# Lines of a list of tokens

The lines that are read are the runs of tokens between ends of lines, up to the first
end of the input.  Closing a list of tokens adds at most a blank line to them.

Main definitions:

- `tokenLines` are these runs, and `nonblankLines` those that hold a token.

Main results:

- Theorem `map_tokens_splitLines`: tokens with an end of the input are split into
  these runs.
- Theorem `filter_map_tokens_closeTokens`: the lines of a closed list that hold a
  token are those of the list.
-/

namespace Primer

/-- The runs of tokens between ends of lines, before the first end of the input. -/
def tokenLines (tokens : List Token) : List (List Token) :=
  (tokens.takeWhile fun t => t.kind != .endOfInput).splitOnP fun t => t.kind == .endOfLine

/-- The lines that hold a token. -/
def nonblankLines (tokens : List Token) : List (List Token) :=
  (tokenLines tokens).filter fun line => line != []

/-- Behind the end of the input there are no lines. -/
theorem tokenLines_endOfInput {t : Token} (h : t.kind = .endOfInput) (ts : List Token) :
    tokenLines (t :: ts) = [[]] := by
  simp [tokenLines, h]

/-- An end of line starts the next line. -/
theorem tokenLines_endOfLine {t : Token} (h : t.kind = .endOfLine) (ts : List Token) :
    tokenLines (t :: ts) = [] :: tokenLines ts := by
  simp [tokenLines, h, List.splitOnP_cons_eq_if_modifyHead]

theorem tokenLines_cons {t : Token} (h : t.endsLine = false) (ts : List Token) :
    tokenLines (t :: ts) = (tokenLines ts).modifyHead (t :: ·) := by
  obtain ⟨hline, hinput⟩ : t.kind ≠ .endOfLine ∧ t.kind ≠ .endOfInput := by
    simpa [Token.endsLine] using h
  simp [tokenLines, hline, hinput, List.splitOnP_cons_eq_if_modifyHead]

/-! ## Splitting -/

theorem modifyHead_nil_append (lines : List (List Token)) :
    lines.modifyHead ([] ++ ·) = lines := by
  cases lines <;> rfl

/-- Splitting goes on with the run of which some tokens are already read. -/
theorem map_tokens_splitLinesOnto (current ts : List Token)
    (hend : ∃ t ∈ ts, t.kind = .endOfInput) :
    (splitLinesOnto [] current ts).map Line.tokens =
      (tokenLines ts).modifyHead (current.reverse ++ ·) := by
  induction ts generalizing current with
  | nil => simp at hend
  | cons t ts ih =>
      have hlater (hkind : t.kind ≠ .endOfInput) : ∃ u ∈ ts, u.kind = .endOfInput := by
        simpa [hkind] using hend
      cases hends : t.endsLine with
      | false =>
          have hinput : t.kind ≠ .endOfInput := fun h => by simp [Token.endsLine, h] at hends
          rw [splitLinesOnto_cons_of_not_endsLine _ _ _ hends, ih _ (hlater hinput),
            tokenLines_cons hends]
          simp [Function.comp_def]
      | true =>
          rcases Token.endsLine_iff.1 hends with hkind | hkind
          · simp only [splitLinesOnto, hkind]
            rw [splitLinesOnto_eq, List.map_append, ih [] (hlater (by simp [hkind])),
              tokenLines_endOfLine hkind]
            rw [List.reverse_nil, modifyHead_nil_append]
            simp
          · simp [splitLinesOnto, hkind, tokenLines_endOfInput]

/-- Tokens with an end of the input are split into their runs. -/
theorem map_tokens_splitLines {ts : List Token} (hend : ∃ t ∈ ts, t.kind = .endOfInput) :
    (splitLines ts).map Line.tokens = tokenLines ts := by
  rw [splitLines, map_tokens_splitLinesOnto [] ts hend]
  exact modifyHead_nil_append _

/-! ## Closing -/

/-- The end of the input adds nothing to the last line. -/
theorem tokenLines_append_endOfInput (ts : List Token) {closing : Token}
    (hclosing : closing.kind = .endOfInput) : tokenLines (ts ++ [closing]) = tokenLines ts := by
  unfold tokenLines
  rw [List.takeWhile_append]
  split
  next hall =>
    have hwhole := (List.takeWhile_sublist fun t : Token => t.kind != .endOfInput).eq_of_length hall
    simp [hwhole, hclosing]
  next => rfl

/-- An end of line at the end adds at most a blank line. -/
theorem filter_tokenLines_append_endOfLine (ts : List Token) {ending : Token}
    (hending : ending.kind = .endOfLine) :
    (tokenLines (ts ++ [ending])).filter (fun line => line != []) = nonblankLines ts := by
  unfold nonblankLines tokenLines
  rw [List.takeWhile_append]
  split
  next hall =>
    have hwhole := (List.takeWhile_sublist fun t : Token => t.kind != .endOfInput).eq_of_length hall
    have hends : (ending.kind == .endOfLine) = true := by simp [hending]
    have hsplit :=
      List.splitOnP_append_cons (p := fun t : Token => t.kind == .endOfLine) ts [] hends
    simp [hwhole, hending, hsplit]
  next => rfl

/-- What stands behind the end of the input belongs to no line. -/
theorem nonblankLines_splitClosing (tokens : List Token) :
    nonblankLines (splitClosing tokens).1 = nonblankLines tokens := by
  unfold splitClosing
  cases hlast : tokens.getLast? with
  | none => rw [List.getLast?_eq_none_iff.1 hlast]
  | some last =>
      simp only
      split
      next hkind =>
        rcases List.getLast?_eq_some_iff.1 hlast with ⟨front, rfl⟩
        rw [List.dropLast_concat, nonblankLines, nonblankLines,
          tokenLines_append_endOfInput _ hkind]
      next => rfl

/-- Ending the last line adds no line with tokens. -/
theorem filter_tokenLines_endLastLine (tokens : List Token) :
    (tokenLines (endLastLine tokens)).filter (fun line => line != []) = nonblankLines tokens := by
  unfold endLastLine
  cases hlast : tokens.getLast? with
  | none => rw [List.getLast?_eq_none_iff.1 hlast]; rfl
  | some last =>
      simp only
      split
      next => rfl
      next => exact filter_tokenLines_append_endOfLine tokens rfl

/-- The tokens are closed by an end of the input. -/
theorem kind_splitClosing (tokens : List Token) : (splitClosing tokens).2.kind = .endOfInput := by
  unfold splitClosing
  split
  · rfl
  · split
    next hkind => exact hkind
    next => rfl

/-- The lines of a closed list that hold a token are those of the list. -/
theorem filter_map_tokens_closeTokens (tokens : List Token) :
    ((splitLines (closeTokens tokens)).map Line.tokens).filter (fun line => line != []) =
      nonblankLines tokens := by
  have hkind := kind_splitClosing tokens
  have hend : ∃ t ∈ closeTokens tokens, t.kind = .endOfInput :=
    ⟨_, by simp [closeTokens], hkind⟩
  rw [map_tokens_splitLines hend, closeTokens, tokenLines_append_endOfInput _ hkind,
    filter_tokenLines_endLastLine, nonblankLines_splitClosing]

end Primer
