import Primer.Token

/-!
# Lines

Statements stand one to a line.  A list of tokens is closed, so that its last
line has an end, and is then split into lines; what follows the first token for
the end of the input is not looked at.

Main definitions:

- `closeTokens` appends what is missing at the end of a list of tokens.
- `Line` is what stands between two ends of lines, with the token that ends it.
- `splitLines` splits closed tokens into lines.

Main results:

- Theorem `splitLines_endOfLine`: an end of line splits the tokens in two.
- Theorem `splitLines_endOfInput`: the first end of input ends the last line.
- Theorem `not_endsLine_of_mem_splitLines`: no token inside a line ends it, and
  the closing one does.
-/

namespace Primer

/-! ## Closing a list of tokens -/

/-- The token for the end of the input, and the tokens before it.  It is supplied
on the line of the last token if the list does not end with one. -/
def splitClosing (tokens : List Token) : List Token × Token :=
  match tokens.getLast? with
  | none => ([], ⟨.endOfInput, "", 1⟩)
  | some last =>
      if last.kind = .endOfInput then (tokens.dropLast, last)
      else (tokens, ⟨.endOfInput, "", last.line⟩)

/-- Append an end of line unless the list is empty or has one at its end. -/
def endLastLine (tokens : List Token) : List Token :=
  match tokens.getLast? with
  | none => []
  | some last =>
      if last.kind = .endOfLine then tokens
      else tokens ++ [⟨.endOfLine, "", last.line⟩]

/-- Close a list of tokens: the last line is ended, and the end of the input
follows. -/
def closeTokens (tokens : List Token) : List Token :=
  endLastLine (splitClosing tokens).1 ++ [(splitClosing tokens).2]

/-! ## Splitting into lines -/

/-- The tokens of one line and the token that ends it. -/
structure Line where
  tokens : List Token
  closing : Token
  deriving DecidableEq, Repr, Inhabited

/-- Split tokens into lines, behind the lines already split off and the tokens
already read of the current line, both latest first. -/
def splitLinesOnto (lines : List Line) (current : List Token) : List Token → List Line
  | [] => lines.reverse
  | t :: ts =>
      match t.kind with
      | .endOfInput => (⟨current.reverse, t⟩ :: lines).reverse
      | .endOfLine => splitLinesOnto (⟨current.reverse, t⟩ :: lines) [] ts
      | _ => splitLinesOnto lines (t :: current) ts

/-- The lines of a closed list of tokens, up to the first end of input. -/
def splitLines (tokens : List Token) : List Line :=
  splitLinesOnto [] [] tokens

/-- A token that ends no line joins the current one. -/
theorem splitLinesOnto_cons_of_not_endsLine (lines : List Line) (current : List Token)
    {t : Token} (ts : List Token) (h : t.endsLine = false) :
    splitLinesOnto lines current (t :: ts) = splitLinesOnto lines (t :: current) ts := by
  rw [splitLinesOnto]
  cases hk : t.kind <;> simp_all [Token.endsLine]

/-- Tokens that end no line all join the current one. -/
theorem splitLinesOnto_append (lines : List Line) (current front : List Token)
    (h : ∀ t ∈ front, t.endsLine = false) (ts : List Token) :
    splitLinesOnto lines current (front ++ ts) =
      splitLinesOnto lines (front.reverse ++ current) ts := by
  induction front generalizing current with
  | nil => rfl
  | cons t front ih =>
      rw [List.cons_append, splitLinesOnto_cons_of_not_endsLine _ _ _ (h t (by simp)),
        ih _ fun u hu => h u (by simp [hu])]
      simp

/-- The lines found before stand in front of those of the rest. -/
theorem splitLinesOnto_eq (lines : List Line) (current ts : List Token) :
    splitLinesOnto lines current ts = lines.reverse ++ splitLinesOnto [] current ts := by
  induction ts generalizing lines current with
  | nil => simp [splitLinesOnto]
  | cons t ts ih =>
      cases hk : t.kind
      case endOfLine =>
        simp only [splitLinesOnto, hk]
        rw [ih (_ :: lines), ih [_]]
        simp
      case endOfInput => simp [splitLinesOnto, hk]
      all_goals
        simp only [splitLinesOnto, hk]
        exact ih lines (t :: current)

/-- An end of line splits the tokens: the line before it, and the lines after it. -/
theorem splitLines_endOfLine {front : List Token} (h : ∀ t ∈ front, t.endsLine = false)
    {closing : Token} (hclosing : closing.kind = .endOfLine) (ts : List Token) :
    splitLines (front ++ closing :: ts) = ⟨front, closing⟩ :: splitLines ts := by
  rw [splitLines, splitLinesOnto_append _ _ _ h]
  simp only [splitLinesOnto, hclosing]
  rw [splitLinesOnto_eq]
  simp [splitLines]

/-- The first end of input ends the last line. -/
theorem splitLines_endOfInput {front : List Token} (h : ∀ t ∈ front, t.endsLine = false)
    {closing : Token} (hclosing : closing.kind = .endOfInput) (ts : List Token) :
    splitLines (front ++ closing :: ts) = [⟨front, closing⟩] := by
  rw [splitLines, splitLinesOnto_append _ _ _ h]
  simp [splitLinesOnto, hclosing]

/-- No token inside a line ends it, and the token that closes it does. -/
theorem splitLinesOnto_wellFormed (current ts : List Token)
    (hcurrent : ∀ t ∈ current, t.endsLine = false) {line : Line}
    (hline : line ∈ splitLinesOnto [] current ts) :
    (∀ t ∈ line.tokens, t.endsLine = false) ∧ line.closing.endsLine = true := by
  induction ts generalizing current with
  | nil => simp [splitLinesOnto] at hline
  | cons t ts ih =>
      cases hends : t.endsLine with
      | false =>
          rw [splitLinesOnto_cons_of_not_endsLine _ _ _ hends] at hline
          refine ih (t :: current) ?_ hline
          intro u hu
          rcases List.mem_cons.1 hu with rfl | hu
          · exact hends
          · exact hcurrent u hu
      | true =>
          have hfirst : (∀ u ∈ current.reverse, u.endsLine = false) ∧ t.endsLine = true :=
            ⟨fun u hu => hcurrent u (List.mem_reverse.1 hu), hends⟩
          rcases Token.endsLine_iff.1 hends with hk | hk
          · simp only [splitLinesOnto, hk] at hline
            rw [splitLinesOnto_eq] at hline
            simp only [List.reverse_cons, List.reverse_nil, List.nil_append, List.singleton_append,
              List.mem_cons] at hline
            rcases hline with rfl | hline
            · exact hfirst
            · exact ih [] (by simp) hline
          · simp only [splitLinesOnto, hk, List.reverse_cons, List.reverse_nil, List.nil_append,
              List.mem_singleton] at hline
            subst hline
            exact hfirst

/-- No token inside a line ends it, and the closing one does. -/
theorem not_endsLine_of_mem_splitLines {tokens : List Token} {line : Line}
    (h : line ∈ splitLines tokens) :
    (∀ t ∈ line.tokens, t.endsLine = false) ∧ line.closing.endsLine = true :=
  splitLinesOnto_wellFormed [] tokens (by simp) h

end Primer
