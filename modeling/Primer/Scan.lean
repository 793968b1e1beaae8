import Primer.Diagnostic
import Primer.Lexeme

/-!
# Scanning a source text

The lexemes of a text, each placed on its line, and what they give: tokens and
lexical errors.

Main definitions:

- `PlacedLexeme.token` and `PlacedLexeme.error?` are what one lexeme gives.
- `placeAll` places lexemes on lines.
- `scan` cuts a text and places its lexemes; `Scan.tokens` ends with the one
  token for the end of the input, `Scan.errors` lists the lexical errors.

Main results:

- Theorem `placeAll_cons`: a lexeme stands on the line reached before it.
- Theorem `placeAll_append`: placing is compositional.
- Theorem `placeAll_map`: a change that keeps the line feeds keeps the lines.
-/

namespace Primer

/-- A lexeme and the line it stands on. -/
structure PlacedLexeme where
  lexeme : Lexeme
  line : Nat
  deriving DecidableEq, Repr, Inhabited

namespace PlacedLexeme

/-- The token that a lexeme becomes.  Words are written in capital letters. -/
def token (p : PlacedLexeme) : Token :=
  match p.lexeme with
  | .lineFeed => ⟨.endOfLine, "", p.line⟩
  | .word text => ⟨.identifier, String.ofList (text.map Char.toUpper), p.line⟩
  | .digits text => ⟨.number, String.ofList text, p.line⟩
  | .quoted text _ => ⟨.stringLiteral, String.ofList text, p.line⟩
  | .symbol text => ⟨.symbol, String.ofList text, p.line⟩
  | .stray c => ⟨.unknown, String.singleton c, p.line⟩

/-- What is wrong with a lexeme. -/
def error? (p : PlacedLexeme) : Option LexicalError :=
  match p.lexeme with
  | .quoted _ .lineFeed => some (.unterminatedString p.line)
  | .quoted _ .sourceEnd => some (.unexpectedEnd p.line)
  | .stray c => some (.undefinedToken c p.line)
  | _ => none

@[simp]
theorem token_line (p : PlacedLexeme) : p.token.line = p.line := by
  unfold token
  split <;> rfl

/-- The error of a lexeme names the line on which the lexeme stands. -/
theorem line_of_error? {p : PlacedLexeme} {e : LexicalError} (h : p.error? = some e) :
    e.line = p.line := by
  unfold error? at h
  split at h <;> cases h <;> rfl

end PlacedLexeme

/-- Place a lexeme on the current line, and move on by its line feeds. -/
def place (l : Lexeme) : StateM Nat PlacedLexeme := do
  let line ← get
  set (line + l.lineFeeds)
  return ⟨l, line⟩

/-- Place lexemes from the given line on; the second component is the line
reached. -/
def placeAll (line : Nat) (ls : List Lexeme) : List PlacedLexeme × Nat :=
  (ls.mapM place).run line

@[simp]
theorem placeAll_nil (line : Nat) : placeAll line [] = ([], line) :=
  rfl

/-- A lexeme stands on the line reached before it. -/
@[simp]
theorem placeAll_cons (line : Nat) (l : Lexeme) (ls : List Lexeme) :
    placeAll line (l :: ls) =
      (⟨l, line⟩ :: (placeAll (line + l.lineFeeds) ls).1,
        (placeAll (line + l.lineFeeds) ls).2) := by
  unfold placeAll
  rw [List.mapM_cons]
  rfl

/-- Lexemes placed one after another are placed where the first ones end. -/
theorem placeAll_append (line : Nat) (ls ms : List Lexeme) :
    placeAll line (ls ++ ms) =
      ((placeAll line ls).1 ++ (placeAll (placeAll line ls).2 ms).1,
        (placeAll (placeAll line ls).2 ms).2) := by
  induction ls generalizing line with
  | nil => simp
  | cons l ls ih => simp [ih]

/-- Placing keeps the lexemes and their order. -/
@[simp]
theorem map_lexeme_placeAll (line : Nat) (ls : List Lexeme) :
    (placeAll line ls).1.map PlacedLexeme.lexeme = ls := by
  induction ls generalizing line with
  | nil => rfl
  | cons l ls ih => simp [ih]

/-- Lexemes that are changed in a way that keeps the line feeds are placed where they were. -/
theorem placeAll_map {change : Lexeme → Lexeme}
    (hchange : ∀ l, (change l).lineFeeds = l.lineFeeds) (line : Nat) (ls : List Lexeme) :
    placeAll line (ls.map change) =
      ((placeAll line ls).1.map fun p => ⟨change p.lexeme, p.line⟩, (placeAll line ls).2) := by
  induction ls generalizing line with
  | nil => rfl
  | cons l ls ih => simp [hchange, ih]

/-- What scanning a text yields. -/
structure Scan where
  lexemes : List PlacedLexeme
  /-- The line on which the text ends. -/
  lastLine : Nat
  deriving DecidableEq, Repr, Inhabited

namespace Scan

/-- The token that stands for the end of the text. -/
def closing (s : Scan) : Token :=
  ⟨.endOfInput, "", s.lastLine⟩

/-- The tokens of the text, the last of them for its end. -/
def tokens (s : Scan) : List Token :=
  s.lexemes.map PlacedLexeme.token ++ [s.closing]

/-- The lexical errors of the text, in order. -/
def errors (s : Scan) : List LexicalError :=
  s.lexemes.filterMap PlacedLexeme.error?

end Scan

/-- Cut a text into lexemes and place them, the first on line 1. -/
def scan (source : String) : Scan :=
  let placed := placeAll 1 (Primer.lexemes source.toList)
  ⟨placed.1, placed.2⟩

end Primer
