import Primer.Proofs.Segmentation

/-!
# A line feed between two texts

Nothing that is scanned reaches over a line feed.  Two texts with a line feed between them
are scanned as if each stood alone, the second one below the first.  The one thing that the
first text sees of what follows is that it does not end there: a quoted text that was still
open is broken by the line feed.

Main definitions:

- `Lexeme.brokenOff`, with its like for segments, placed lexemes and errors, puts a line feed
  where the source would end.
- `PlacedLexeme.lower`, `Token.lower` and `LexicalError.lower` move what stands on a line
  down by a number of lines.

Main results:

- Theorem `Segment.Whole.brokenOff`: a whole segment of a text is whole in front of a line
  feed behind that text.
- Theorem `lexemes_append_lineFeed`: the lexemes of two texts around a line feed.
- Theorem `placeAll_add`: lexemes that are placed from a later line on are moved down.
- Theorem `scan_append_lineFeed`: the tokens and errors of two texts around a line feed.
-/

namespace Primer

/-! ## Segments in front of a line feed -/

/-- The lexeme, with a line feed where the source would end. -/
def Lexeme.brokenOff : Lexeme → Lexeme
  | .quoted text .sourceEnd => .quoted text .lineFeed
  | l => l

/-- The segment, with a line feed where the source would end. -/
def Segment.brokenOff : Segment → Segment
  | .lexeme l => .lexeme l.brokenOff
  | s => s

/-- A segment broken off has the same characters. -/
theorem Segment.chars_brokenOff (s : Segment) : s.brokenOff.chars = s.chars := by
  cases s with
  | blank c => rfl
  | comment text => rfl
  | lexeme l =>
      cases l with
      | quoted text closing => cases closing <;> rfl
      | _ => rfl

theorem Segment.lexeme?_brokenOff (s : Segment) :
    s.brokenOff.lexeme? = s.lexeme?.map Lexeme.brokenOff := by
  cases s <;> rfl

/-- A lexeme broken off has as many line feeds in it. -/
theorem Lexeme.lineFeeds_brokenOff (l : Lexeme) : l.brokenOff.lineFeeds = l.lineFeeds := by
  cases l with
  | quoted text closing => cases closing <;> rfl
  | _ => rfl

/-- What holds of the first character of each of two texts, if it has one, holds of the first
character of the two joined. -/
theorem forall_mem_head?_append {p : Char → Prop} {text back : List Char}
    (htext : ∀ d ∈ text.head?, p d) (hback : ∀ d ∈ back.head?, p d) :
    ∀ d ∈ (text ++ back).head?, p d := by
  cases text with
  | nil => simpa using hback
  | cons c text => simpa using htext

/-- A whole segment of a text is whole in front of a line feed behind that text. -/
theorem Segment.Whole.brokenOff {s : Segment} {rest : List Char} (h : s.Whole rest)
    (back : List Char) : s.brokenOff.Whole (rest ++ '\n' :: back) := by
  cases h with
  | blank hc => exact .blank hc
  | comment htext hrest =>
      exact .comment htext (forall_mem_head?_append hrest (by simp))
  | lineFeed => exact .lineFeed
  | word hc htext hrest =>
      have hfeed : ¬ ContinuesWord '\n' := mt isWordChar_iff.2 (by decide)
      exact .word hc htext (forall_mem_head?_append hrest (by simpa using hfeed))
  | digits hc htext hrest =>
      exact .digits hc htext (forall_mem_head?_append hrest (by simp [IsDecimal]))
  | closedText htext => exact .closedText htext
  | brokenText htext hrest =>
      exact .brokenText htext (by simp [List.head?_append, hrest])
  | openText htext => exact .brokenText htext rfl
  | pair hpair => exact .pair hpair
  | @single c rest hc hpair hcomment =>
      have hfeed : [c, '\n'] ∉ symbolPairs := by simp [symbolPairs]
      refine .single hc (forall_mem_head?_append hpair (by simpa using hfeed)) fun hslash => ?_
      cases rest with
      | nil => simp
      | cons d rest => simpa using hcomment hslash
  | stray hblank hfeed hletter hdecimal hmark hsymbol =>
      exact .stray hblank hfeed hletter hdecimal hmark hsymbol

/-- A segment that is whole in front of a text sees that the source does not end. -/
theorem Segment.Whole.brokenOff_of_ne_nil {s : Segment} {rest : List Char} (h : s.Whole rest)
    (hrest : rest ≠ []) : s.brokenOff = s := by
  cases h with
  | openText htext => exact absurd rfl hrest
  | _ => rfl

/-! ## Lexemes in front of a line feed -/

/-- Texts around a line feed are segmented each on its own. -/
theorem segmented_append_lineFeed {front back : List Char} {ss after : List Segment}
    (hfront : Segmented front ss) (hback : Segmented back after) :
    Segmented (front ++ '\n' :: back)
      (ss.map Segment.brokenOff ++ .lexeme .lineFeed :: after) := by
  induction hfront with
  | nil => exact .cons (s := .lexeme .lineFeed) .lineFeed hback
  | @cons s rest ss hs hss ih =>
      rw [List.append_assoc, ← s.chars_brokenOff]
      exact .cons (hs.brokenOff back) ih

/-- A line feed breaks the lexemes in front of it off, and is one itself. -/
theorem lexemes_append_lineFeed (front back : List Char) :
    lexemes (front ++ '\n' :: back) =
      (lexemes front).map Lexeme.brokenOff ++ .lineFeed :: lexemes back := by
  have hsegmented :=
    segmented_append_lineFeed (segmented_segments front) (segmented_segments back)
  rw [lexemes_of_segmented hsegmented, List.filterMap_append,
    filterMap_lexeme?_map Segment.lexeme?_brokenOff]
  rfl

/-- Of the lexemes of a text only the last can see where the source ends. -/
theorem brokenOff_of_mem_dropLast_lexemes {text : List Char} :
    ∀ l ∈ (lexemes text).dropLast, l.brokenOff = l := by
  induction text using cut_induction with
  | nil => simp [lexemes]
  | cons c cs ih =>
      have hwhole := Segment.whole_first c cs
      have hsplit := lexemes_append_of_whole hwhole
      rw [Segment.chars_append_first] at hsplit
      rw [hsplit]
      cases hl : (Segment.first c cs).1.lexeme? with
      | none => simpa using ih
      | some l =>
          by_cases hlast : lexemes (Segment.first c cs).2 = []
          · simp [hlast]
          · have hrest : (Segment.first c cs).2 ≠ [] := by
              intro hnil
              exact hlast (by simp [hnil, lexemes])
            have hkeep : l.brokenOff = l := by
              have hsegment := congrArg Segment.lexeme? (hwhole.brokenOff_of_ne_nil hrest)
              rw [Segment.lexeme?_brokenOff, hl] at hsegment
              exact Option.some.inj hsegment
            rw [Option.toList_some, List.singleton_append, List.dropLast_cons_of_ne_nil hlast]
            exact List.forall_mem_cons.2 ⟨hkeep, ih⟩

/-! ## Tokens and errors -/

/-- The lexeme where it stands, with a line feed where the source would end. -/
def PlacedLexeme.brokenOff (p : PlacedLexeme) : PlacedLexeme :=
  ⟨p.lexeme.brokenOff, p.line⟩

/-- The error, with a line feed where the source would end. -/
def LexicalError.brokenOff : LexicalError → LexicalError
  | .unexpectedEnd line => .unterminatedString line
  | e => e

/-- The token of a lexeme broken off is the same. -/
theorem PlacedLexeme.token_brokenOff (p : PlacedLexeme) : p.brokenOff.token = p.token := by
  rcases p with ⟨l, line⟩
  cases l with
  | quoted text closing => cases closing <;> rfl
  | _ => rfl

/-- A text broken off is reported as not terminated. -/
theorem PlacedLexeme.error?_brokenOff (p : PlacedLexeme) :
    p.brokenOff.error? = p.error?.map LexicalError.brokenOff := by
  rcases p with ⟨l, line⟩
  cases l with
  | quoted text closing => cases closing <;> rfl
  | _ => rfl

/-- The lexeme, the given number of lines further down. -/
def PlacedLexeme.lower (n : Nat) (p : PlacedLexeme) : PlacedLexeme :=
  ⟨p.lexeme, p.line + n⟩

/-- The token, the given number of lines further down. -/
def Token.lower (n : Nat) (t : Token) : Token :=
  { t with line := t.line + n }

/-- The error, the given number of lines further down. -/
def LexicalError.lower (n : Nat) : LexicalError → LexicalError
  | .unterminatedString line => .unterminatedString (line + n)
  | .undefinedToken c line => .undefinedToken c (line + n)
  | .unexpectedEnd line => .unexpectedEnd (line + n)

/-- A lexeme further down gives its token further down. -/
theorem PlacedLexeme.token_lower (n : Nat) (p : PlacedLexeme) :
    (p.lower n).token = p.token.lower n := by
  rcases p with ⟨l, line⟩
  cases l <;> rfl

theorem PlacedLexeme.error?_lower (n : Nat) (p : PlacedLexeme) :
    (p.lower n).error? = p.error?.map (LexicalError.lower n) := by
  rcases p with ⟨l, line⟩
  cases l with
  | quoted text closing => cases closing <;> rfl
  | _ => rfl

/-- Lexemes that are placed from a later line on are moved down. -/
theorem placeAll_add (line n : Nat) (ls : List Lexeme) :
    placeAll (line + n) ls =
      ((placeAll line ls).1.map (PlacedLexeme.lower n), (placeAll line ls).2 + n) := by
  induction ls generalizing line with
  | nil => rfl
  | cons l ls ih =>
      rw [placeAll_cons, placeAll_cons, Nat.add_right_comm, ih]
      rfl

/-! ## Two texts -/

/-- The lexemes of two texts around a line feed, each where it stands. -/
theorem scan_append_lineFeed_eq (front back : String) :
    scan (front ++ "\n" ++ back) =
      ⟨(scan front).lexemes.map PlacedLexeme.brokenOff ++
          ⟨.lineFeed, (scan front).lastLine⟩ ::
            (scan back).lexemes.map (PlacedLexeme.lower (scan front).lastLine),
        (scan back).lastLine + (scan front).lastLine⟩ := by
  have hsource : (front ++ "\n" ++ back).toList = front.toList ++ '\n' :: back.toList := by
    simp
  have hfront : placeAll 1 ((lexemes front.toList).map Lexeme.brokenOff) =
      ((scan front).lexemes.map PlacedLexeme.brokenOff, (scan front).lastLine) :=
    placeAll_map Lexeme.lineFeeds_brokenOff 1 _
  have hback : placeAll ((scan front).lastLine + Lexeme.lineFeed.lineFeeds)
      (lexemes back.toList) =
        ((scan back).lexemes.map (PlacedLexeme.lower (scan front).lastLine),
          (scan back).lastLine + (scan front).lastLine) := by
    have hlower := placeAll_add 1 (scan front).lastLine (lexemes back.toList)
    rwa [Nat.add_comm 1] at hlower
  rw [scan, hsource, lexemes_append_lineFeed, placeAll_append, hfront, placeAll_cons, hback]

/-- The last line is one more than the number of line feeds. -/
theorem lastLine_scan (source : String) :
    (scan source).lastLine = 1 + source.toList.count '\n' :=
  line_placeAll_of_segmented (segmented_segments source.toList) []

/-- What is given by some members of a list, the last of it left out, is given by members
before the last. -/
theorem exists_mem_dropLast_of_mem_dropLast_filterMap {α β : Type} {give : α → Option β}
    {xs : List α} {y : β} (h : y ∈ (xs.filterMap give).dropLast) :
    ∃ x ∈ xs.dropLast, give x = some y := by
  rcases List.eq_nil_or_concat xs with rfl | ⟨front, last, rfl⟩
  · simp at h
  · have hfront : y ∈ front.filterMap give := by
      rw [List.concat_eq_append, List.filterMap_append] at h
      cases hlast : give last with
      | none => exact List.dropLast_subset _ (by simpa [hlast] using h)
      | some z => simpa [hlast] using h
    simpa using hfront

/-- Only the last error of a text can be about where the source ends. -/
theorem brokenOff_of_mem_dropLast_errors {source : String} {e : LexicalError}
    (h : e ∈ (scan source).errors.dropLast) : e.brokenOff = e := by
  obtain ⟨p, hp, he⟩ := exists_mem_dropLast_of_mem_dropLast_filterMap h
  have hlexeme : p.lexeme ∈ (lexemes source.toList).dropLast := by
    have hplaced : (scan source).lexemes.map PlacedLexeme.lexeme = lexemes source.toList :=
      map_lexeme_placeAll 1 _
    rw [← hplaced, ← List.map_dropLast]
    exact List.mem_map_of_mem hp
  have hbroken : p.error? = p.error?.map LexicalError.brokenOff := by
    rw [← p.error?_brokenOff, PlacedLexeme.brokenOff,
      brokenOff_of_mem_dropLast_lexemes _ hlexeme]
  rw [he] at hbroken
  exact (Option.some.inj hbroken).symm

/-- No token and no state of the scanner crosses a line feed.  The tokens of two texts with
one between them are those of the first without the end of its input, the end of the line on
which it stops, and those of the second, that many lines further down.  The errors follow
one another in the same way; of those of the first only the last can change, from a text
that the source ends in to one that the line feed ends. -/
theorem scan_append_lineFeed (front back : String) :
    (scan front).lastLine = 1 + front.toList.count '\n' ∧
      (∃ tokens, (scan front).tokens = tokens ++ [⟨.endOfInput, "", (scan front).lastLine⟩] ∧
        (scan (front ++ "\n" ++ back)).tokens =
          tokens ++ ⟨.endOfLine, "", (scan front).lastLine⟩ ::
            (scan back).tokens.map (Token.lower (scan front).lastLine)) ∧
      (scan (front ++ "\n" ++ back)).errors =
        (scan front).errors.map LexicalError.brokenOff ++
          (scan back).errors.map (LexicalError.lower (scan front).lastLine) ∧
      ∀ e ∈ (scan front).errors.dropLast, e.brokenOff = e := by
  refine ⟨lastLine_scan front, ⟨_, rfl, ?_⟩, ?_, fun e he => brokenOff_of_mem_dropLast_errors he⟩
  · have hfront : PlacedLexeme.token ∘ PlacedLexeme.brokenOff = PlacedLexeme.token :=
      funext PlacedLexeme.token_brokenOff
    have hback : PlacedLexeme.token ∘ PlacedLexeme.lower (scan front).lastLine =
        Token.lower (scan front).lastLine ∘ PlacedLexeme.token :=
      funext (PlacedLexeme.token_lower _)
    rw [scan_append_lineFeed_eq, Scan.tokens, Scan.tokens, List.map_append, List.map_map, hfront,
      List.map_cons, List.map_map, hback, List.map_append, List.map_map, List.append_assoc]
    rfl
  · have hfront : PlacedLexeme.error? ∘ PlacedLexeme.brokenOff =
        fun p => p.error?.map LexicalError.brokenOff :=
      funext PlacedLexeme.error?_brokenOff
    have hback : PlacedLexeme.error? ∘ PlacedLexeme.lower (scan front).lastLine =
        fun p => p.error?.map (LexicalError.lower (scan front).lastLine) :=
      funext (PlacedLexeme.error?_lower _)
    rw [scan_append_lineFeed_eq, Scan.errors, List.filterMap_append, List.filterMap_map, hfront,
      List.filterMap_cons_none rfl, List.filterMap_map, hback, ← List.map_filterMap,
      ← List.map_filterMap]
    rfl

end Primer
