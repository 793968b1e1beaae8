import Primer.Proofs.LetterCase.Scanning

/-!
# Writing tokens out

The tokens of a source text can be written out and scanned again.  With a blank behind each
of them none runs into the next one; what a comment or a blank held is gone, and so is the
fault of a text whose closing mark was missing, but every token comes back on its line.

Main definitions:

- `Token.spelled` writes one token and `spelledOut` a list of them.
- `Lexeme.respelled` is the lexeme that is scanned where the token of a lexeme was written.

Main results:

- Theorem `Segment.Whole.respelled`: a lexeme that is written out is whole in front of a
  blank.
- Theorem `lexemes_spelledOut`: what is scanned of tokens that were written out.
- Theorem `scan_spelledOut`: the tokens of a source text come back, with the errors that
  belong to them.
-/

namespace Primer

/-- A token as it is written in a source.  For the end of the input nothing is written. -/
def Token.spelled (t : Token) : String :=
  match t.kind with
  | .stringLiteral => "\"" ++ t.text ++ "\""
  | .endOfLine => "\n"
  | .endOfInput => ""
  | _ => t.text

/-- Tokens written one after another, with one blank behind each. -/
def spelledOut (tokens : List Token) : String :=
  String.join (tokens.map fun t => t.spelled ++ " ")

/-- The error is about a character that starts no token. -/
def LexicalError.isUndefinedToken : LexicalError → Bool
  | .undefinedToken _ _ => true
  | _ => false

/-- The lexeme that the token of a lexeme is written as: a word in capitals, and a text
between two marks. -/
def Lexeme.respelled : Lexeme → Lexeme
  | .word text => .word (text.map capital)
  | .quoted text _ => .quoted text .mark
  | l => l

/-- The token of a lexeme is written as the characters of the lexeme it is written as. -/
theorem toList_spelled (p : PlacedLexeme) : p.token.spelled.toList = p.lexeme.respelled.chars := by
  rcases p with ⟨l, line⟩
  have hcapital : Char.toUpper = capital := funext toUpper_eq_capital
  cases l <;> simp [PlacedLexeme.token, Token.spelled, Lexeme.respelled, Lexeme.chars, hcapital]

/-- A lexeme that is written out is whole in front of a blank. -/
theorem Segment.Whole.respelled {l : Lexeme} {before : List Char}
    (h : (Segment.lexeme l).Whole before) (rest : List Char) :
    (Segment.lexeme l.respelled).Whole (' ' :: rest) := by
  have hword : ∀ d ∈ (' ' :: rest).head?, ¬ ContinuesWord d := by
    simp [← isWordChar_iff, isWordChar]
  cases h with
  | lineFeed => exact .lineFeed
  | word hc htext hrest =>
      exact .word (isLetter_capital.2 hc)
        (forall_mem_map_capital (fun _ => continuesWord_capital.2) htext) hword
  | digits hc htext hrest => exact .digits hc htext fun d hd h => hword d hd (.inr (.inl h))
  | closedText htext => exact .closedText htext
  | brokenText htext hrest => exact .closedText htext
  | openText htext => exact .closedText htext
  | pair hpair => exact .pair hpair
  | single hc hpair hcomment => exact .single hc (by simp [symbolPairs]) (by simp)
  | stray hblank hfeed hletter hdecimal hmark hsymbol =>
      exact .stray hblank hfeed hletter hdecimal hmark hsymbol

/-- Lexemes that are written out with a blank behind each are scanned as what they are
written as. -/
theorem lexemes_respelled {ls : List Lexeme}
    (h : ∀ l ∈ ls, ∃ before, (Segment.lexeme l).Whole before) (rest : List Char) :
    lexemes ((ls.flatMap fun l => l.respelled.chars ++ [' ']) ++ rest) =
      ls.map Lexeme.respelled ++ lexemes rest := by
  induction ls with
  | nil => rfl
  | cons l ls ih =>
      obtain ⟨⟨before, hl⟩, hls⟩ := List.forall_mem_cons.1 h
      have hfirst := lexemes_append_of_whole
        (hl.respelled ((ls.flatMap fun l => l.respelled.chars ++ [' ']) ++ rest))
      have hblank : ∀ c ∈ [' '], IsBlank c := List.forall_mem_singleton.2 (.inl rfl)
      have hgap := lexemes_gap hblank
        ((ls.flatMap fun l => l.respelled.chars ++ [' ']) ++ rest)
      rw [List.singleton_append] at hgap
      rw [hgap, ih hls] at hfirst
      simpa [Segment.chars, Segment.lexeme?] using hfirst

/-- What the tokens of a source text are written as: its lexemes, and nothing for its end. -/
theorem toList_spelledOut (source : String) :
    (spelledOut (scan source).tokens).toList =
      ((lexemes source.toList).flatMap fun l => l.respelled.chars ++ [' ']) ++ [' '] := by
  have htoken (p : PlacedLexeme) :
      (p.token.spelled ++ " ").toList = p.lexeme.respelled.chars ++ [' '] := by
    rw [String.toList_append, toList_spelled]
    simp
  have hclosing : ((scan source).closing.spelled ++ " ").toList = [' '] := by
    simp [Scan.closing, Token.spelled]
  have hlexemes : (scan source).lexemes.map PlacedLexeme.lexeme = lexemes source.toList :=
    map_lexeme_placeAll 1 _
  rw [← hlexemes, spelledOut, String.toList_join, List.flatMap_map, Scan.tokens,
    List.flatMap_append, List.flatMap_map, List.flatMap_map, List.flatMap_singleton, hclosing]
  simp only [htoken]

/-- What is scanned of the tokens of a source text that were written out. -/
theorem lexemes_spelledOut (source : String) :
    lexemes (spelledOut (scan source).tokens).toList =
      (lexemes source.toList).map Lexeme.respelled := by
  have hblank : lexemes [' '] = lexemes [] :=
    lexemes_gap (List.forall_mem_singleton.2 (.inl rfl)) []
  have hnil : lexemes [] = [] := by simp [lexemes]
  rw [toList_spelledOut, lexemes_respelled fun l hl => exists_whole_of_mem_lexemes hl, hblank,
    hnil, List.append_nil]

/-! ## Tokens and errors -/

/-- The lexeme that is scanned where the token of a lexeme was written, where it stands. -/
def PlacedLexeme.respelled (p : PlacedLexeme) : PlacedLexeme :=
  ⟨p.lexeme.respelled, p.line⟩

theorem PlacedLexeme.token_respelled (p : PlacedLexeme) : p.respelled.token = p.token := by
  rcases p with ⟨l, line⟩
  have hcapital : Char.toUpper = capital := funext toUpper_eq_capital
  cases l with
  | word text =>
      simp [PlacedLexeme.respelled, Lexeme.respelled, PlacedLexeme.token, hcapital,
        Function.comp_def]
  | _ => rfl

/-- What is wrong with a lexeme spelled out can only be a stray character. -/
theorem PlacedLexeme.error?_respelled (p : PlacedLexeme) :
    p.respelled.error? = p.error?.filter LexicalError.isUndefinedToken := by
  rcases p with ⟨l, line⟩
  cases l with
  | quoted text closing => cases closing <;> rfl
  | _ => rfl

/-- The lexemes of a source text that was written out stand where those of the text do. -/
theorem scan_spelledOut_eq (source : String) :
    scan (spelledOut (scan source).tokens) =
      ⟨(scan source).lexemes.map PlacedLexeme.respelled, (scan source).lastLine⟩ := by
  have hlines (l : Lexeme) : l.respelled.lineFeeds = l.lineFeeds := by cases l <;> rfl
  have hplaced := placeAll_map hlines 1 (lexemes source.toList)
  rw [scan, lexemes_spelledOut, hplaced]
  rfl

/-- The tokens of a source text that are written out are scanned as they were, each on its
line.  Of the errors those are left that are about a character that starts no token. -/
theorem scan_spelledOut (source : String) :
    (scan (spelledOut (scan source).tokens)).tokens = (scan source).tokens ∧
      (scan (spelledOut (scan source).tokens)).errors =
        (scan source).errors.filter LexicalError.isUndefinedToken := by
  rw [scan_spelledOut_eq]
  constructor
  · have htoken : PlacedLexeme.token ∘ PlacedLexeme.respelled = PlacedLexeme.token :=
      funext PlacedLexeme.token_respelled
    rw [Scan.tokens, List.map_map, htoken]
    rfl
  · have herror : PlacedLexeme.error? ∘ PlacedLexeme.respelled =
        fun p => p.error?.filter LexicalError.isUndefinedToken :=
      funext PlacedLexeme.error?_respelled
    rw [Scan.errors, Scan.errors, List.filterMap_map, herror, List.filter_filterMap]

end Primer
