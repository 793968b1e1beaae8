import Mathlib.Data.Bool.AllAny
import Mathlib.Data.List.TakeWhile
import Primer.Scan

/-!
# Segmentation of a text

The segments of a text are laid down without speaking of how it is cut: each of them is
whole, which means that it holds what its kind asks for and that nothing of the text
behind it could be added to it.  A text has exactly one such segmentation, and the
tokens and lexical errors of the text are those of its segments.

Main definitions:

- `Segment.Whole` says that a segment is whole in front of the rest of the text.
- `Segmented` says that a text is a sequence of whole segments.
- `Segment.token?` and `Segment.error?` are what a segment on a given line stands for,
  and `onLines` collects this along a text, counting line feeds.

Main results:

- Theorem `whole_first`: the first segment that is cut off a text is whole.
- Theorem `first_of_whole`: a whole segment in front of a text is the first one cut.
- Theorem `segmented_iff`: a text is segmented in one way, which is how it is cut.
- Theorem `lexemes_append_of_whole`: so a whole segment in front of a text is scanned first.
- Theorem `scan_segmented`: scanning yields the tokens and errors of that segmentation.
-/

namespace Primer

/-! ## Kinds of characters -/

/-- The character separates lexemes. -/
def IsBlank (c : Char) : Prop :=
  c = ' ' ∨ c = '\t' ∨ c = '\r'

/-- The character is a letter, and one of the first 128 characters. -/
def IsLetter (c : Char) : Prop :=
  ('A' ≤ c ∧ c ≤ 'Z') ∨ ('a' ≤ c ∧ c ≤ 'z')

/-- The character is a decimal digit, and one of the first 128 characters. -/
def IsDecimal (c : Char) : Prop :=
  '0' ≤ c ∧ c ≤ '9'

instance (c : Char) : Decidable (IsDecimal c) :=
  inferInstanceAs (Decidable (_ ∧ _))

/-- The character may stand in a word behind its first letter. -/
def ContinuesWord (c : Char) : Prop :=
  IsLetter c ∨ IsDecimal c ∨ c = '_'

/-- The symbols of two characters. -/
def symbolPairs : List (List Char) :=
  [['<', '='], ['>', '='], ['!', '='], ['=', '=']]

/-- The capital letter of a small one; any other character stays as it is. -/
def capital (c : Char) : Char :=
  if 'a' ≤ c ∧ c ≤ 'z' then Char.ofNat (c.toNat - 32) else c

theorem isBlankChar_iff {c : Char} : isBlankChar c = true ↔ IsBlank c := by
  simp [isBlankChar, IsBlank, or_assoc]

theorem isAlpha_iff {c : Char} : c.isAlpha = true ↔ IsLetter c := by
  have hupper : c.isUpper = true ↔ 'A' ≤ c ∧ c ≤ 'Z' := decide_eq_true_iff
  have hlower : c.isLower = true ↔ 'a' ≤ c ∧ c ≤ 'z' := by
    have hbounds : c.isLower = (decide ('a' ≤ c) && decide (c ≤ 'z')) := rfl
    simp [hbounds]
  have hletter : c.isAlpha = (c.isUpper || c.isLower) := rfl
  rw [hletter, Bool.or_eq_true, hupper, hlower, IsLetter]

theorem isDigit_iff {c : Char} : c.isDigit = true ↔ IsDecimal c := by
  simp [Char.isDigit, Char.le_def, IsDecimal]

theorem isWordChar_iff {c : Char} : isWordChar c = true ↔ ContinuesWord c := by
  simp [isWordChar, Char.isAlphanum, ContinuesWord, isAlpha_iff, isDigit_iff, or_assoc]

theorem isSymbolChar_iff {c : Char} : isSymbolChar c = true ↔ c ∈ symbolChars := by
  simp [isSymbolChar]

theorem isPairSymbol_iff {c d : Char} : isPairSymbol c d = true ↔ [c, d] ∈ symbolPairs := by
  simp [isPairSymbol, pairStarts, symbolPairs, or_and_right]

theorem IsDecimal.not_isLetter {c : Char} (h : IsDecimal c) : ¬ IsLetter c := by
  simp only [IsDecimal, IsLetter, Char.le_def, UInt32.le_iff_toNat_le] at h ⊢
  have hhigh : c.val.toNat ≤ 57 := h.2
  rintro (⟨hlow, -⟩ | ⟨hlow, -⟩)
  · exact absurd (Nat.le_trans hlow hhigh) (by decide)
  · exact absurd (Nat.le_trans hlow hhigh) (by decide)

/-- A character that belongs to a kind is none of those that do not. -/
theorem ne_of_isLetter {c d : Char} (h : IsLetter c) (hd : d.isAlpha = false) : c ≠ d := by
  rintro rfl
  simp [isAlpha_iff.2 h] at hd

/-- A digit is none of the characters that are no digits. -/
theorem ne_of_isDecimal {c d : Char} (h : IsDecimal c) (hd : d.isDigit = false) : c ≠ d := by
  rintro rfl
  simp [isDigit_iff.2 h] at hd

/-- What starts a symbol starts nothing else. -/
theorem not_of_mem_symbolChars : ∀ c ∈ symbolChars,
    isBlankChar c = false ∧ c ≠ '\n' ∧ c.isAlpha = false ∧ c.isDigit = false ∧ c ≠ '"' :=
  List.all_iff_forall_prop.1 (by decide)

/-- What holds of the 26 small letters holds of every character among them. -/
theorem forall_small_letter {p : Char → Prop} (h : ∀ k : Fin 26, p (Char.ofNat (97 + k)))
    {c : Char} (hc : 'a' ≤ c ∧ c ≤ 'z') : p c := by
  have hlow : 97 ≤ c.toNat := UInt32.le_iff_toNat_le.1 hc.1
  have hhigh : c.toNat ≤ 122 := UInt32.le_iff_toNat_le.1 hc.2
  have hletter := h ⟨c.toNat - 97, by omega⟩
  rwa [Nat.add_sub_cancel' hlow, Char.ofNat_toNat] at hletter

/-- Case is changed among the first 128 characters only. -/
theorem toUpper_eq_capital (c : Char) : c.toUpper = capital c := by
  by_cases hsmall : 'a' ≤ c ∧ c ≤ 'z'
  · exact forall_small_letter (p := fun c => c.toUpper = capital c) (by decide) hsmall
  · rw [capital, if_neg hsmall]
    exact dif_neg hsmall

/-! ## Whole segments -/

/-- In front of the given text the segment is whole: it is what its kind asks for, and
nothing of that text belongs to it. -/
inductive Segment.Whole : Segment → List Char → Prop where
  | blank {c : Char} {rest : List Char} (hc : IsBlank c) : Whole (.blank c) rest
  /-- A comment goes on to the next line feed or to the end. -/
  | comment {text rest : List Char} (htext : ∀ d ∈ text, d ≠ '\n')
      (hrest : ∀ d ∈ rest.head?, d = '\n') : Whole (.comment text) rest
  | lineFeed {rest : List Char} : Whole (.lexeme .lineFeed) rest
  | word {c : Char} {text rest : List Char} (hc : IsLetter c) (htext : ∀ d ∈ text, ContinuesWord d)
      (hrest : ∀ d ∈ rest.head?, ¬ ContinuesWord d) : Whole (.lexeme (.word (c :: text))) rest
  | digits {c : Char} {text rest : List Char} (hc : IsDecimal c) (htext : ∀ d ∈ text, IsDecimal d)
      (hrest : ∀ d ∈ rest.head?, ¬ IsDecimal d) : Whole (.lexeme (.digits (c :: text))) rest
  | closedText {text rest : List Char} (htext : ∀ d ∈ text, d ≠ '"' ∧ d ≠ '\n') :
      Whole (.lexeme (.quoted text .mark)) rest
  /-- The line feed that ends the text is left in place. -/
  | brokenText {text rest : List Char} (htext : ∀ d ∈ text, d ≠ '"' ∧ d ≠ '\n')
      (hrest : rest.head? = some '\n') : Whole (.lexeme (.quoted text .lineFeed)) rest
  | openText {text : List Char} (htext : ∀ d ∈ text, d ≠ '"' ∧ d ≠ '\n') :
      Whole (.lexeme (.quoted text .sourceEnd)) []
  | pair {c d : Char} {rest : List Char} (hpair : [c, d] ∈ symbolPairs) :
      Whole (.lexeme (.symbol [c, d])) rest
  | single {c : Char} {rest : List Char} (hc : c ∈ symbolChars)
      (hpair : ∀ d ∈ rest.head?, [c, d] ∉ symbolPairs)
      (hcomment : c = '/' → rest.head? ≠ some '/') : Whole (.lexeme (.symbol [c])) rest
  | stray {c : Char} {rest : List Char} (hblank : ¬ IsBlank c) (hfeed : c ≠ '\n')
      (hletter : ¬ IsLetter c) (hdecimal : ¬ IsDecimal c) (hmark : c ≠ '"')
      (hsymbol : c ∉ symbolChars) : Whole (.lexeme (.stray c)) rest

/-- The text is a sequence of whole segments. -/
inductive Segmented : List Char → List Segment → Prop where
  | nil : Segmented [] []
  | cons {s : Segment} {rest : List Char} {ss : List Segment} (hs : s.Whole rest)
      (hss : Segmented rest ss) : Segmented (s.chars ++ rest) (s :: ss)

/-- Joined, the segments are the text. -/
theorem Segmented.flatMap_chars {text : List Char} {ss : List Segment} (h : Segmented text ss) :
    ss.flatMap Segment.chars = text := by
  induction h with
  | nil => rfl
  | cons hs hss ih => rw [List.flatMap_cons, ih]

/-! ## What is cut is whole -/

section

variable {p : Char → Bool} {cs : List Char}

/-- A longest run stops in front of a character that does not belong to it. -/
theorem not_of_mem_head?_dropWhile : ∀ d ∈ (cs.dropWhile p).head?, p d = false := by
  intro d hd
  have hstop := List.head?_dropWhile_not p cs
  rw [Option.mem_def.1 hd] at hstop
  exact hstop

/-- A run that is followed by a character outside it is the longest. -/
theorem takeWhile_append_of_stop (p : Char → Bool) {text : List Char} (rest : List Char)
    (htext : ∀ d ∈ text, p d = true) (hrest : ∀ d ∈ rest.head?, p d = false) :
    (text ++ rest).takeWhile p = text ∧ (text ++ rest).dropWhile p = rest := by
  rw [List.takeWhile_append_of_pos htext, List.dropWhile_append_of_pos htext]
  cases rest with
  | nil => simp
  | cons d rest =>
      have hd : p d = false := hrest d rfl
      simp [hd]

end

namespace Segment

/-- A text is cut from its quotation mark to the next one, or to the end of its line. -/
theorem whole_cutQuoted (cs : List Char) :
    (Segment.lexeme (cutQuoted cs).1).Whole (cutQuoted cs).2 := by
  have htext : ∀ d ∈ cs.takeWhile isQuotedChar, d ≠ '"' ∧ d ≠ '\n' := by
    intro d hd
    simpa [isQuotedChar] using List.mem_takeWhile_imp hd
  have hstop : ∀ d ∈ (cs.dropWhile isQuotedChar).head?, isQuotedChar d = false :=
    not_of_mem_head?_dropWhile
  unfold cutQuoted
  split
  next hrest => exact .openText htext
  next c rest hrest =>
    rw [hrest] at hstop
    have hc : isQuotedChar c = false := hstop c rfl
    split
    next hmark => exact .closedText htext
    next hmark =>
      have hfeed : c = '\n' := by
        simp only [isQuotedChar, Bool.and_eq_false_iff, bne_eq_false_iff_eq] at hc
        exact hc.resolve_left hmark
      exact .brokenText htext (by rw [List.head?_cons, hfeed])

/-- A symbol is cut as long as it goes, unless a comment starts there. -/
theorem whole_cutSymbol {c : Char} (hc : c ∈ symbolChars) (cs : List Char)
    (hcomment : c = '/' → cs.head? ≠ some '/') :
    (Segment.lexeme (cutSymbol c cs).1).Whole (cutSymbol c cs).2 := by
  unfold cutSymbol
  split
  next => exact .single hc (by simp) (by simp)
  next d rest =>
    split
    next hpair => exact .pair (isPairSymbol_iff.1 hpair)
    next hpair =>
      refine .single hc ?_ hcomment
      intro e he
      cases he
      exact mt isPairSymbol_iff.2 hpair

/-- A lexeme is cut as long as it goes, unless a comment starts there. -/
theorem whole_cutLexeme {c : Char} (hblank : ¬ IsBlank c) (cs : List Char)
    (hcomment : c = '/' → cs.head? ≠ some '/') :
    (Segment.lexeme (cutLexeme c cs).1).Whole (cutLexeme c cs).2 := by
  unfold cutLexeme
  split
  next => exact .lineFeed
  next hfeed =>
  split
  next hletter =>
    refine .word (isAlpha_iff.1 hletter) ?_ ?_
    · exact fun d hd => isWordChar_iff.1 (List.mem_takeWhile_imp hd)
    · exact fun d hd => mt isWordChar_iff.2 (by simp [not_of_mem_head?_dropWhile d hd])
  next hletter =>
  split
  next hdecimal =>
    refine .digits (isDigit_iff.1 hdecimal) ?_ ?_
    · exact fun d hd => isDigit_iff.1 (List.mem_takeWhile_imp hd)
    · exact fun d hd => mt isDigit_iff.2 (by simp [not_of_mem_head?_dropWhile d hd])
  next hdecimal =>
  split
  next => exact whole_cutQuoted cs
  next hmark =>
  split
  next hsymbol => exact whole_cutSymbol (isSymbolChar_iff.1 hsymbol) cs hcomment
  next hsymbol =>
    exact .stray hblank hfeed (mt isAlpha_iff.2 hletter) (mt isDigit_iff.2 hdecimal) hmark
      (mt isSymbolChar_iff.2 hsymbol)

/-- Two slashes, and nothing else, start a comment. -/
theorem startsComment_eq_false_iff {c : Char} {cs : List Char} :
    startsComment c cs = false ↔ (c = '/' → cs.head? ≠ some '/') := by
  by_cases hslash : c = '/' <;> simp [startsComment, hslash]

/-- The first segment that is cut off a text is whole. -/
theorem whole_first (c : Char) (cs : List Char) : (first c cs).1.Whole (first c cs).2 := by
  unfold first
  split
  next hblank => exact .blank (isBlankChar_iff.1 hblank)
  next hblank =>
  split
  next hcomment =>
    refine .comment ?_ ?_
    · intro d hd
      simpa [isCommentChar] using List.mem_takeWhile_imp hd
    · intro d hd
      simpa [isCommentChar] using not_of_mem_head?_dropWhile d hd
  next hcomment =>
    exact whole_cutLexeme (mt isBlankChar_iff.2 hblank) cs
      (startsComment_eq_false_iff.1 (by simpa using hcomment))

/-! ## What is whole is cut -/

/-- What is neither a blank nor a comment is a lexeme. -/
theorem first_eq_cutLexeme {c : Char} {cs : List Char} (hblank : isBlankChar c = false)
    (hcomment : c = '/' → cs.head? ≠ some '/') :
    first c cs = (.lexeme (cutLexeme c cs).1, (cutLexeme c cs).2) := by
  have hstarts : startsComment c cs = false := startsComment_eq_false_iff.2 hcomment
  simp [first, hblank, hstarts]

/-- No character of a kind without blanks is a blank. -/
theorem isBlankChar_eq_false {c : Char} {p : Char → Bool} (hc : p c = true)
    (hblank : p ' ' = false ∧ p '\t' = false ∧ p '\r' = false) : isBlankChar c = false := by
  rw [← Bool.not_eq_true, isBlankChar_iff]
  rintro (rfl | rfl | rfl)
  · simp [hblank.1] at hc
  · simp [hblank.2.1] at hc
  · simp [hblank.2.2] at hc

/-- A comment is cut up to the end of its line. -/
theorem first_of_comment {text rest : List Char} (htext : ∀ d ∈ text, d ≠ '\n')
    (hrest : ∀ d ∈ rest.head?, d = '\n') :
    first '/' ('/' :: (text ++ rest)) = (.comment text, rest) := by
  obtain ⟨htake, hdrop⟩ := takeWhile_append_of_stop isCommentChar rest
    (fun d hd => by simpa [isCommentChar] using htext d hd)
    (fun d hd => by simp [isCommentChar, hrest d hd])
  simp [first, isBlankChar, startsComment, htake, hdrop]

/-- A word is cut up to where it is not continued. -/
theorem first_of_word {c : Char} {text rest : List Char} (hc : IsLetter c)
    (htext : ∀ d ∈ text, ContinuesWord d) (hrest : ∀ d ∈ rest.head?, ¬ ContinuesWord d) :
    first c (text ++ rest) = (.lexeme (.word (c :: text)), rest) := by
  obtain ⟨htake, hdrop⟩ := takeWhile_append_of_stop isWordChar rest
    (fun d hd => isWordChar_iff.2 (htext d hd))
    (fun d hd => by simpa [← isWordChar_iff] using hrest d hd)
  have hletter := isAlpha_iff.2 hc
  have hfeed : c ≠ '\n' := ne_of_isLetter hc rfl
  have hslash : c ≠ '/' := ne_of_isLetter hc rfl
  rw [first_eq_cutLexeme (isBlankChar_eq_false hletter ⟨rfl, rfl, rfl⟩) (absurd · hslash)]
  simp [cutLexeme, hfeed, hletter, htake, hdrop]

theorem first_of_digits {c : Char} {text rest : List Char} (hc : IsDecimal c)
    (htext : ∀ d ∈ text, IsDecimal d) (hrest : ∀ d ∈ rest.head?, ¬ IsDecimal d) :
    first c (text ++ rest) = (.lexeme (.digits (c :: text)), rest) := by
  obtain ⟨htake, hdrop⟩ := takeWhile_append_of_stop Char.isDigit rest
    (fun d hd => isDigit_iff.2 (htext d hd))
    (fun d hd => by simpa [← isDigit_iff] using hrest d hd)
  have hdigit := isDigit_iff.2 hc
  have hletter : c.isAlpha = false := by simpa [← isAlpha_iff] using hc.not_isLetter
  have hfeed : c ≠ '\n' := ne_of_isDecimal hc rfl
  have hslash : c ≠ '/' := ne_of_isDecimal hc rfl
  rw [first_eq_cutLexeme (isBlankChar_eq_false hdigit ⟨rfl, rfl, rfl⟩) (absurd · hslash)]
  simp [cutLexeme, hfeed, hletter, hdigit, htake, hdrop]

/-- Behind an opening mark, a text is cut up to the first mark or line feed. -/
theorem first_of_quoted {text rest : List Char} (htext : ∀ d ∈ text, d ≠ '"' ∧ d ≠ '\n')
    (hrest : ∀ d ∈ rest.head?, d = '"' ∨ d = '\n') :
    first '"' (text ++ rest) =
      match rest with
      | [] => (.lexeme (.quoted text .sourceEnd), [])
      | c :: rest =>
          if c = '"' then (.lexeme (.quoted text .mark), rest)
          else (.lexeme (.quoted text .lineFeed), c :: rest) := by
  obtain ⟨htake, hdrop⟩ := takeWhile_append_of_stop isQuotedChar rest
    (fun d hd => by simpa [isQuotedChar] using htext d hd)
    (fun d hd => by rcases hrest d hd with rfl | rfl <;> rfl)
  have hcut : first '"' (text ++ rest) =
      (.lexeme (cutQuoted (text ++ rest)).1, (cutQuoted (text ++ rest)).2) := rfl
  rw [hcut, cutQuoted, htake, hdrop]
  cases rest with
  | nil => rfl
  | cons c rest => by_cases hmark : c = '"' <;> simp [hmark]

theorem first_of_symbolChar {c : Char} (hc : c ∈ symbolChars) {cs : List Char}
    (hcomment : c = '/' → cs.head? ≠ some '/') :
    first c cs = (.lexeme (cutSymbol c cs).1, (cutSymbol c cs).2) := by
  obtain ⟨hblank, hfeed, hletter, hdigit, hmark⟩ := not_of_mem_symbolChars _ hc
  rw [first_eq_cutLexeme hblank hcomment]
  simp [cutLexeme, hfeed, hletter, hdigit, hmark, isSymbolChar_iff.2 hc]

/-- Two characters that make a symbol are cut as one. -/
theorem first_of_pair {c d : Char} (hpair : [c, d] ∈ symbolPairs) (rest : List Char) :
    first c (d :: rest) = (.lexeme (.symbol [c, d]), rest) := by
  have hstart : c ∈ symbolChars ∧ d ≠ '/' := by
    simp only [symbolPairs, List.mem_cons, List.cons.injEq, and_true, List.not_mem_nil,
      or_false] at hpair
    rcases hpair with ⟨rfl, rfl⟩ | ⟨rfl, rfl⟩ | ⟨rfl, rfl⟩ | ⟨rfl, rfl⟩ <;> decide
  rw [first_of_symbolChar hstart.1 (by simp [hstart.2]), cutSymbol,
    if_pos (isPairSymbol_iff.2 hpair)]

/-- A character that makes no symbol with the next one is cut alone. -/
theorem first_of_single {c : Char} {rest : List Char} (hc : c ∈ symbolChars)
    (hpair : ∀ d ∈ rest.head?, [c, d] ∉ symbolPairs)
    (hcomment : c = '/' → rest.head? ≠ some '/') :
    first c rest = (.lexeme (.symbol [c]), rest) := by
  rw [first_of_symbolChar hc hcomment]
  cases rest with
  | nil => rfl
  | cons d rest => simp [cutSymbol, mt isPairSymbol_iff.1 (hpair d rfl)]

/-- A whole segment in front of a text is the first one cut. -/
theorem first_of_whole {s : Segment} {rest : List Char} (h : s.Whole rest) {c : Char}
    {cs : List Char} (hchars : s.chars ++ rest = c :: cs) : first c cs = (s, rest) := by
  cases h with
  | blank hc =>
      cases hchars
      simp [first, isBlankChar_iff.2 hc]
  | comment htext hrest =>
      cases hchars
      exact first_of_comment htext hrest
  | lineFeed =>
      cases hchars
      rfl
  | word hc htext hrest =>
      cases hchars
      exact first_of_word hc htext hrest
  | digits hc htext hrest =>
      cases hchars
      exact first_of_digits hc htext hrest
  | @closedText text rest htext =>
      have htokens : '"' :: (text ++ '"' :: rest) = c :: cs := by
        simpa [chars, Lexeme.chars] using hchars
      cases htokens
      exact first_of_quoted htext (by simp)
  | brokenText htext hrest =>
      obtain ⟨behind, rfl⟩ := List.head?_eq_some_iff.1 hrest
      cases hchars
      exact first_of_quoted htext (by simp)
  | openText htext =>
      cases hchars
      exact first_of_quoted htext (by simp)
  | pair hpair =>
      cases hchars
      exact first_of_pair hpair rest
  | single hc hpair hcomment =>
      cases hchars
      exact first_of_single hc hpair hcomment
  | stray hblank hfeed hletter hdecimal hmark hsymbol =>
      cases hchars
      have hslash : c ≠ '/' := by
        rintro rfl
        exact hsymbol (by decide)
      rw [first_eq_cutLexeme (by simpa [← isBlankChar_iff] using hblank) (absurd · hslash)]
      simp [cutLexeme, hfeed, mt isAlpha_iff.1 hletter, mt isDigit_iff.1 hdecimal, hmark,
        mt isSymbolChar_iff.1 hsymbol]

end Segment

/-! ## The one segmentation of a text -/

/-- A whole segment has at least one character. -/
theorem Segment.Whole.chars_ne_nil {s : Segment} {rest : List Char} (h : s.Whole rest) :
    s.chars ≠ [] := by
  cases h <;> simp [Segment.chars, Lexeme.chars]

/-- The segments that are cut are whole, and they are the text. -/
theorem segmented_segments (text : List Char) : Segmented text (segments text) := by
  induction text using cut_induction with
  | nil => exact segments_nil ▸ .nil
  | cons c cs ih =>
      rw [segments_cons, ← Segment.chars_append_first c cs]
      exact .cons (Segment.whole_first c cs) ih

/-- A text is segmented in one way, which is how it is cut. -/
theorem segmented_iff {text : List Char} {ss : List Segment} :
    Segmented text ss ↔ ss = segments text := by
  constructor
  · intro h
    induction h with
    | nil => exact segments_nil.symm
    | @cons s rest ss hs hss ih =>
        obtain ⟨c, cs, hchars⟩ := List.exists_cons_of_ne_nil hs.chars_ne_nil
        have hfirst : Segment.first c (cs ++ rest) = (s, rest) :=
          Segment.first_of_whole hs (by rw [hchars, List.cons_append])
        rw [hchars, List.cons_append, segments_cons, hfirst, ← ih]
  · rintro rfl
    exact segmented_segments text

/-! ## Lexemes of a text -/

/-- The lexemes of a text are those of its segments. -/
theorem lexemes_of_segmented {text : List Char} {ss : List Segment} (h : Segmented text ss) :
    lexemes text = ss.filterMap Segment.lexeme? := by
  rw [lexemes, segmented_iff.1 h]

/-- Segments whose lexemes are changed have the changed lexemes. -/
theorem filterMap_lexeme?_map {change : Segment → Segment} {changed : Lexeme → Lexeme}
    (hchange : ∀ s, (change s).lexeme? = s.lexeme?.map changed) (ss : List Segment) :
    (ss.map change).filterMap Segment.lexeme? =
      (ss.filterMap Segment.lexeme?).map changed := by
  have hlexeme : Segment.lexeme? ∘ change = fun s => s.lexeme?.map changed := funext hchange
  rw [List.filterMap_map, hlexeme, List.map_filterMap]

/-- A lexeme of a text is whole in front of what follows it. -/
theorem exists_whole_of_mem_lexemes {text : List Char} {l : Lexeme} (h : l ∈ lexemes text) :
    ∃ rest, (Segment.lexeme l).Whole rest := by
  induction text using cut_induction with
  | nil => simp [lexemes] at h
  | cons c cs ih =>
      have hwhole := Segment.whole_first c cs
      rw [lexemes, segments_cons] at h
      cases hfirst : (Segment.first c cs).1 with
      | blank d => exact ih (by simpa [hfirst, lexemes, Segment.lexeme?] using h)
      | comment text => exact ih (by simpa [hfirst, lexemes, Segment.lexeme?] using h)
      | lexeme m =>
          rw [hfirst] at h hwhole
          rcases List.mem_cons.1 h with rfl | h
          · exact ⟨_, hwhole⟩
          · exact ih h

/-- In front of a text, a whole segment is scanned as what it stands for. -/
theorem lexemes_append_of_whole {s : Segment} {rest : List Char} (h : s.Whole rest) :
    lexemes (s.chars ++ rest) = s.lexeme?.toList ++ lexemes rest := by
  rw [lexemes_of_segmented (.cons h (segmented_segments rest))]
  cases hs : s.lexeme? <;> simp [hs, lexemes]

/-- Blanks in front of a text give no lexemes. -/
theorem lexemes_gap {gap : List Char} (hgap : ∀ c ∈ gap, IsBlank c) (rest : List Char) :
    lexemes (gap ++ rest) = lexemes rest := by
  induction gap with
  | nil => rfl
  | cons c gap ih =>
      have hblank : (Segment.blank c).Whole (gap ++ rest) := .blank (hgap c List.mem_cons_self)
      have hrest := ih fun d hd => hgap d (List.mem_cons_of_mem c hd)
      exact (lexemes_append_of_whole hblank).trans hrest

theorem lexemes_lineFeed (rest : List Char) : lexemes ('\n' :: rest) = .lineFeed :: lexemes rest :=
  lexemes_append_of_whole .lineFeed

/-! ## Tokens and errors -/

/-- The token that a segment on the given line stands for. -/
def Segment.token? (line : Nat) : Segment → Option Token
  | .blank _ => none
  | .comment _ => none
  | .lexeme .lineFeed => some ⟨.endOfLine, "", line⟩
  | .lexeme (.word text) => some ⟨.identifier, String.ofList (text.map capital), line⟩
  | .lexeme (.digits text) => some ⟨.number, String.ofList text, line⟩
  | .lexeme (.quoted text _) => some ⟨.stringLiteral, String.ofList text, line⟩
  | .lexeme (.symbol text) => some ⟨.symbol, String.ofList text, line⟩
  | .lexeme (.stray c) => some ⟨.unknown, String.ofList [c], line⟩

/-- The error in a segment on the given line. -/
def Segment.error? (line : Nat) : Segment → Option LexicalError
  | .lexeme (.stray c) => some (.undefinedToken c line)
  | .lexeme (.quoted _ .lineFeed) => some (.unterminatedString line)
  | .lexeme (.quoted _ .sourceEnd) => some (.unexpectedEnd line)
  | _ => none

/-- What the segments behind a text give, each on the line that is one more than the
number of line feeds in front of it. -/
def onLines {α : Type} (give : Nat → Segment → Option α) (before : List Char) :
    List Segment → List α
  | [] => []
  | s :: ss =>
      (give (1 + before.count '\n') s).toList ++ onLines give (before ++ s.chars) ss

/-- The token of a segment is that of its lexeme. -/
theorem Segment.token?_eq (line : Nat) (s : Segment) :
    s.token? line = s.lexeme?.map fun l => PlacedLexeme.token ⟨l, line⟩ := by
  have hcapital : Char.toUpper = capital := funext toUpper_eq_capital
  cases s with
  | blank c => rfl
  | comment text => rfl
  | lexeme l =>
      cases l with
      | word text => simp [Segment.token?, Segment.lexeme?, PlacedLexeme.token, hcapital]
      | _ => rfl

theorem Segment.error?_eq (line : Nat) (s : Segment) :
    s.error? line = s.lexeme?.bind fun l => PlacedLexeme.error? ⟨l, line⟩ := by
  cases s with
  | blank c => rfl
  | comment text => rfl
  | lexeme l =>
      cases l with
      | quoted text closing => cases closing <;> rfl
      | _ => rfl

/-- The only segment with a line feed in it is the line feed. -/
theorem Segment.Whole.count_lineFeed {s : Segment} {rest : List Char} (h : s.Whole rest) :
    s.chars.count '\n' = (s.lexeme?.map Lexeme.lineFeeds).getD 0 := by
  have hnone {text : List Char} (htext : ∀ d ∈ text, d ≠ '\n') : text.count '\n' = 0 :=
    List.count_eq_zero.2 fun hmem => htext _ hmem rfl
  have hword {d : Char} (hd : ContinuesWord d) : d ≠ '\n' := by
    rintro rfl
    exact absurd (isWordChar_iff.2 hd) (by decide)
  cases h with
  | @blank c rest hc =>
      refine hnone fun d hd => ?_
      rw [List.mem_singleton.1 hd]
      rintro rfl
      exact absurd (isBlankChar_iff.2 hc) (by decide)
  | comment htext hrest => exact hnone (by simpa [Segment.chars] using htext)
  | lineFeed => rfl
  | word hc htext hrest =>
      refine hnone fun d hd => ?_
      rcases List.mem_cons.1 hd with rfl | hd
      · exact hword (.inl hc)
      · exact hword (htext d hd)
  | digits hc htext hrest =>
      refine hnone fun d hd => ?_
      rcases List.mem_cons.1 hd with rfl | hd
      · exact hword (.inr (.inl hc))
      · exact hword (.inr (.inl (htext d hd)))
  | closedText htext =>
      refine hnone ?_
      simpa [Segment.chars, Lexeme.chars, or_imp, forall_and] using fun d hd => (htext d hd).2
  | brokenText htext hrest =>
      refine hnone ?_
      simpa [Segment.chars, Lexeme.chars] using fun d hd => (htext d hd).2
  | openText htext =>
      refine hnone ?_
      simpa [Segment.chars, Lexeme.chars] using fun d hd => (htext d hd).2
  | @pair c d rest hpair =>
      refine hnone ?_
      simp only [symbolPairs, List.mem_cons, List.cons.injEq, and_true, List.not_mem_nil,
        or_false] at hpair
      rcases hpair with ⟨rfl, rfl⟩ | ⟨rfl, rfl⟩ | ⟨rfl, rfl⟩ | ⟨rfl, rfl⟩ <;>
        simp [Segment.chars, Lexeme.chars]
  | single hc hpair hcomment =>
      refine hnone fun d hd => ?_
      rw [List.mem_singleton.1 hd]
      exact (not_of_mem_symbolChars _ hc).2.1
  | stray hblank hfeed hletter hdecimal hmark hsymbol =>
      refine hnone fun d hd => ?_
      rwa [List.mem_singleton.1 hd]

/-- Behind a whole segment, the line has moved on as placing the lexeme moves it on. -/
theorem Segment.Whole.line_behind {s : Segment} {rest : List Char} (h : s.Whole rest)
    (before : List Char) :
    1 + (before ++ s.chars).count '\n' =
      1 + before.count '\n' + (s.lexeme?.map Lexeme.lineFeeds).getD 0 := by
  rw [List.count_append, h.count_lineFeed, Nat.add_assoc]

/-- What segments give on their lines is what their lexemes give where they are placed. -/
theorem onLines_eq {α : Type} {give : Nat → Segment → Option α} (part : PlacedLexeme → Option α)
    (hgive : ∀ line s, give line s = s.lexeme?.bind fun l => part ⟨l, line⟩)
    {text : List Char} {ss : List Segment} (h : Segmented text ss) (before : List Char) :
    onLines give before ss =
      (placeAll (1 + before.count '\n') (ss.filterMap Segment.lexeme?)).1.filterMap part := by
  induction h generalizing before with
  | nil => rfl
  | @cons s rest ss hs hss ih =>
      rw [onLines, ih, hs.line_behind, hgive]
      cases hl : s.lexeme? with
      | none => simp [hl]
      | some l =>
          rw [List.filterMap_cons_some hl, placeAll_cons, Option.bind_some]
          cases hpart : part ⟨l, 1 + before.count '\n'⟩ <;> simp [hpart]

/-- The line reached is one more than the number of line feeds in the text. -/
theorem line_placeAll_of_segmented {text : List Char} {ss : List Segment} (h : Segmented text ss)
    (before : List Char) :
    (placeAll (1 + before.count '\n') (ss.filterMap Segment.lexeme?)).2 =
      1 + (before ++ text).count '\n' := by
  induction h generalizing before with
  | nil => simp
  | @cons s rest ss hs hss ih =>
      have hnext := ih (before ++ s.chars)
      rw [hs.line_behind, List.append_assoc] at hnext
      rw [← hnext]
      cases hl : s.lexeme? with
      | none => simp [hl]
      | some l => simp [List.filterMap_cons_some hl]

/-- Every text is a sequence of whole segments in exactly one way.  Joined, they are the
text; its tokens are those of the segments and one for the end of the input, each on the
line that one more than the number of line feeds in front of it tells, and its errors are
those of the segments. -/
theorem scan_segmented (source : String) :
    ∃ ss, (∀ other, Segmented source.toList other ↔ other = ss) ∧
      ss.flatMap Segment.chars = source.toList ∧
      (scan source).tokens =
        onLines Segment.token? [] ss ++ [⟨.endOfInput, "", 1 + source.toList.count '\n'⟩] ∧
      (scan source).errors = onLines Segment.error? [] ss := by
  have hsegmented := segmented_segments source.toList
  refine ⟨segments source.toList, fun other => segmented_iff, hsegmented.flatMap_chars, ?_, ?_⟩
  · have hgive (line : Nat) (s : Segment) : s.token? line =
        s.lexeme?.bind fun l => some (PlacedLexeme.token ⟨l, line⟩) := by
      rw [Segment.token?_eq, Option.map_eq_bind]
      rfl
    have htokens := onLines_eq (fun p => some p.token) hgive hsegmented []
    have hline := line_placeAll_of_segmented hsegmented []
    rw [htokens, List.filterMap_eq_map']
    exact congrArg (fun n => _ ++ [(⟨.endOfInput, "", n⟩ : Token)]) hline
  · exact (onLines_eq _ Segment.error?_eq hsegmented []).symm

end Primer
