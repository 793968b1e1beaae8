import Primer.Token

/-!
# Lexemes

A source text is cut, from left to right, into blanks, comments and lexemes; a
lexeme is a stretch of text that becomes a token.  Every cut takes the longest
stretch of its kind.

Main definitions:

- `Lexeme` and `Segment`, each with the characters it was cut from.
- `Segment.first` cuts the first segment off a non-empty text.
- `segments` cuts a whole text.

Main results:

- Theorem `Segment.chars_append_first`: a cut splits the text, losing nothing.
- Theorem `flatMap_chars_segments`: the segments of a text, joined, are the text.
- Theorem `segments_cons`: the first segment of a text is followed by the
  segments of the rest.
- Theorem `cut_induction`: the induction that follows the cuts.
-/

namespace Primer

/-! ## Character classes -/

/-- A character that separates lexemes and is otherwise skipped. -/
def isBlankChar (c : Char) : Bool :=
  c == ' ' || c == '\t' || c == '\r'

/-- A character that may follow the first letter of a word. -/
def isWordChar (c : Char) : Bool :=
  c.isAlphanum || c == '_'

/-- A character that does not end a comment. -/
def isCommentChar (c : Char) : Bool :=
  c != '\n'

/-- A character that may stand inside quotation marks. -/
def isQuotedChar (c : Char) : Bool :=
  c != '"' && c != '\n'

/-! ## Lexemes and segments -/

/-- What ended a quoted text. -/
inductive Closing where
  /-- The closing quotation mark. -/
  | mark
  /-- A line feed, which is not part of the lexeme. -/
  | lineFeed
  /-- The end of the source. -/
  | sourceEnd
  deriving DecidableEq, Repr, Inhabited

/-- A stretch of the source that becomes one token. -/
inductive Lexeme where
  | lineFeed
  /-- A letter and the word characters after it, as written. -/
  | word (text : List Char)
  | digits (text : List Char)
  /-- The text after an opening quotation mark, and what ended it. -/
  | quoted (text : List Char) (closing : Closing)
  | symbol (text : List Char)
  /-- A character that starts no other lexeme. -/
  | stray (c : Char)
  deriving DecidableEq, Repr, Inhabited

/-- A stretch of the source: skipped, or a lexeme. -/
inductive Segment where
  | blank (c : Char)
  /-- Two slashes and the given text. -/
  | comment (text : List Char)
  | lexeme (l : Lexeme)
  deriving DecidableEq, Repr, Inhabited

namespace Lexeme

/-- The characters the lexeme was cut from. -/
def chars : Lexeme → List Char
  | .lineFeed => ['\n']
  | .word text => text
  | .digits text => text
  | .quoted text .mark => '"' :: (text ++ ['"'])
  | .quoted text _ => '"' :: text
  | .symbol text => text
  | .stray c => [c]

/-- How far the lexeme moves the line number. -/
def lineFeeds : Lexeme → Nat
  | .lineFeed => 1
  | _ => 0

end Lexeme

namespace Segment

/-- The characters the segment was cut from. -/
def chars : Segment → List Char
  | .blank c => [c]
  | .comment text => '/' :: '/' :: text
  | .lexeme l => l.chars

/-- The lexeme of a segment that is not skipped. -/
def lexeme? : Segment → Option Lexeme
  | .lexeme l => some l
  | _ => none

/-! ## Cutting one segment -/

/-- Cut the text after an opening quotation mark. -/
def cutQuoted (cs : List Char) : Lexeme × List Char :=
  let text := cs.takeWhile isQuotedChar
  match cs.dropWhile isQuotedChar with
  | [] => (.quoted text .sourceEnd, [])
  | c :: rest => if c = '"' then (.quoted text .mark, rest) else (.quoted text .lineFeed, c :: rest)

/-- Cut a symbol of two characters if the first two form one, else of one. -/
def cutSymbol (c : Char) : List Char → Lexeme × List Char
  | [] => (.symbol [c], [])
  | d :: rest => if isPairSymbol c d then (.symbol [c, d], rest) else (.symbol [c], d :: rest)

/-- Cut the lexeme that starts with `c`. -/
def cutLexeme (c : Char) (cs : List Char) : Lexeme × List Char :=
  if c = '\n' then (.lineFeed, cs)
  else if c.isAlpha then (.word (c :: cs.takeWhile isWordChar), cs.dropWhile isWordChar)
  else if c.isDigit then (.digits (c :: cs.takeWhile Char.isDigit), cs.dropWhile Char.isDigit)
  else if c = '"' then cutQuoted cs
  else if isSymbolChar c then cutSymbol c cs
  else (.stray c, cs)

/-- Two slashes start a comment. -/
def startsComment (c : Char) (cs : List Char) : Bool :=
  c == '/' && cs.head? == some '/'

/-- Cut the first segment of the text `c :: cs`; the second component is what is
left of the text. -/
def first (c : Char) (cs : List Char) : Segment × List Char :=
  if isBlankChar c then (.blank c, cs)
  else if startsComment c cs then
    (.comment (cs.tail.takeWhile isCommentChar), cs.tail.dropWhile isCommentChar)
  else (.lexeme (cutLexeme c cs).1, (cutLexeme c cs).2)

/-- The characters of a quoted lexeme and what is left are the whole text. -/
theorem chars_append_cutQuoted (cs : List Char) :
    (cutQuoted cs).1.chars ++ (cutQuoted cs).2 = '"' :: cs := by
  have hcs : cs.takeWhile isQuotedChar ++ cs.dropWhile isQuotedChar = cs :=
    List.takeWhile_append_dropWhile
  unfold cutQuoted
  split
  next hrest =>
    rw [hrest] at hcs
    simp_all [Lexeme.chars]
  next c rest hrest =>
    rw [hrest] at hcs
    split
    next hc =>
      subst hc
      simpa [Lexeme.chars] using hcs
    next =>
      simpa [Lexeme.chars] using hcs

/-- The characters of a symbol and what is left are the whole text. -/
theorem chars_append_cutSymbol (c : Char) (cs : List Char) :
    (cutSymbol c cs).1.chars ++ (cutSymbol c cs).2 = c :: cs := by
  unfold cutSymbol
  split
  · rfl
  · split <;> rfl

/-- The characters of the first lexeme and what is left are the whole text. -/
theorem chars_append_cutLexeme (c : Char) (cs : List Char) :
    (cutLexeme c cs).1.chars ++ (cutLexeme c cs).2 = c :: cs := by
  unfold cutLexeme
  split
  next hc => simp [hc, Lexeme.chars]
  split
  · simp [Lexeme.chars, List.takeWhile_append_dropWhile]
  split
  · simp [Lexeme.chars, List.takeWhile_append_dropWhile]
  split
  next hc => exact hc ▸ chars_append_cutQuoted cs
  split
  · exact chars_append_cutSymbol c cs
  · rfl

/-- A comment starts with two slashes. -/
theorem startsComment_iff {c : Char} {cs : List Char} :
    startsComment c cs = true ↔ c = '/' ∧ ∃ rest, cs = '/' :: rest := by
  cases cs with
  | nil => simp [startsComment]
  | cons d rest => simp [startsComment]

/-- A cut splits the text in two, losing nothing. -/
theorem chars_append_first (c : Char) (cs : List Char) :
    (first c cs).1.chars ++ (first c cs).2 = c :: cs := by
  unfold first
  split
  · rfl
  split
  next hcomment =>
    obtain ⟨rfl, rest, rfl⟩ := startsComment_iff.1 hcomment
    simp [chars, List.takeWhile_append_dropWhile]
  · exact chars_append_cutLexeme c cs

/-- The first segment takes at least one character, so the cutting ends. -/
theorem chars_ne_nil (c : Char) (cs : List Char) : (first c cs).1.chars ≠ [] := by
  unfold first
  split
  · simp [chars]
  split
  · simp [chars]
  · simp only [chars, cutLexeme]
    split
    · simp [Lexeme.chars]
    split
    · simp [Lexeme.chars]
    split
    · simp [Lexeme.chars]
    split
    · unfold cutQuoted
      split
      · simp [Lexeme.chars]
      · split <;> simp [Lexeme.chars]
    split
    · unfold cutSymbol
      split
      · simp [Lexeme.chars]
      · split <;> simp [Lexeme.chars]
    · simp [Lexeme.chars]

/-- What is left after a cut is shorter than the text. -/
theorem length_first_lt (c : Char) (cs : List Char) : (first c cs).2.length < cs.length + 1 := by
  have hlen := congrArg List.length (chars_append_first c cs)
  have hpos := List.length_pos_iff.2 (chars_ne_nil c cs)
  simp only [List.length_append, List.length_cons] at hlen
  omega

end Segment

/-! ## Cutting a whole text -/

/-- Cut a text into segments, behind those already cut, which come latest first. -/
def segmentsOnto (cut : List Segment) : List Char → List Segment
  | [] => cut.reverse
  | c :: cs => segmentsOnto ((Segment.first c cs).1 :: cut) (Segment.first c cs).2
termination_by cs => cs.length
decreasing_by exact Segment.length_first_lt c cs

/-- The segments of a text, in order. -/
def segments (source : List Char) : List Segment :=
  segmentsOnto [] source

/-- The lexemes of a text, in order. -/
def lexemes (source : List Char) : List Lexeme :=
  (segments source).filterMap Segment.lexeme?

/-- What holds of the empty text, and of a text whenever it holds of what the first
cut leaves, holds of every text. -/
theorem cut_induction {motive : List Char → Prop} (nil : motive [])
    (cons : ∀ c cs, motive (Segment.first c cs).2 → motive (c :: cs)) (source : List Char) :
    motive source :=
  match source with
  | [] => nil
  | c :: cs => cons c cs (cut_induction nil cons (Segment.first c cs).2)
termination_by source.length
decreasing_by exact Segment.length_first_lt c cs

/-- What was cut before stands in front of the segments of the rest. -/
theorem segmentsOnto_eq (cut : List Segment) (source : List Char) :
    segmentsOnto cut source = cut.reverse ++ segments source := by
  unfold segments
  induction source using cut_induction generalizing cut with
  | nil => simp [segmentsOnto]
  | cons c cs ih =>
      rw [segmentsOnto, segmentsOnto, ih ((Segment.first c cs).1 :: cut),
        ih [(Segment.first c cs).1]]
      simp

@[simp]
theorem segments_nil : segments [] = [] := by
  simp [segments, segmentsOnto]

/-- The first segment of a text is followed by the segments of the rest. -/
theorem segments_cons (c : Char) (cs : List Char) :
    segments (c :: cs) = (Segment.first c cs).1 :: segments (Segment.first c cs).2 := by
  rw [segments, segmentsOnto, segmentsOnto_eq]
  rfl

/-- The segments of a text, joined, are the text. -/
theorem flatMap_chars_segments (source : List Char) :
    (segments source).flatMap Segment.chars = source := by
  induction source using cut_induction with
  | nil => simp
  | cons c cs ih =>
      rw [segments_cons, List.flatMap_cons, ih]
      exact Segment.chars_append_first c cs

end Primer
