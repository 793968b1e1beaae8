import Primer.Proofs.Segmentation

/-!
# The case of letters in a source text

Writing a source in capitals changes none of the places where it is cut, so it changes no
token but for the text of a string literal, and no error.

Main definitions:

- `uncased` writes a text in capitals.
- `Token.uncased` writes a token in capitals if it is a string literal.

Main results:

- Theorem `capital_eq_iff`: only a letter is changed, and into a letter.
- Theorem `Segment.Whole.uncased`: a segment is whole in either case.
- Theorems `tokens_uncased` and `errors_uncased`: the tokens and errors of a source in
  capitals.
-/

namespace Primer

/-! ## Characters -/

/-- A character that is no letter stays as it is. -/
theorem capital_of_not_isLetter {c : Char} (h : ¬ IsLetter c) : capital c = c :=
  if_neg fun hsmall => h (.inr hsmall)

/-- A letter in capitals is a letter. -/
theorem isLetter_capital_of_isLetter {c : Char} (h : IsLetter c) : IsLetter (capital c) := by
  by_cases hsmall : 'a' ≤ c ∧ c ≤ 'z'
  · have hletter : (capital c).isAlpha = true :=
      forall_small_letter (p := fun c => (capital c).isAlpha = true) (by decide) hsmall
    exact isAlpha_iff.1 hletter
  · rwa [capital, if_neg hsmall]

/-- A letter stays a letter, and nothing else becomes one. -/
theorem isLetter_capital {c : Char} : IsLetter (capital c) ↔ IsLetter c := by
  constructor
  · intro h
    by_contra hc
    rw [capital_of_not_isLetter hc] at h
    exact hc h
  · exact isLetter_capital_of_isLetter

/-- Only a letter is changed, and into a letter. -/
theorem capital_eq_iff {c d : Char} (hd : ¬ IsLetter d) : capital c = d ↔ c = d := by
  by_cases hc : IsLetter c
  · constructor
    · rintro rfl
      exact absurd (isLetter_capital.2 hc) hd
    · rintro rfl
      exact absurd hc hd
  · rw [capital_of_not_isLetter hc]

/-- A capital letter is its own. -/
@[simp]
theorem capital_capital (c : Char) : capital (capital c) = capital c := by
  by_cases hsmall : 'a' ≤ c ∧ c ≤ 'z'
  · exact forall_small_letter (p := fun c => capital (capital c) = capital c) (by decide) hsmall
  · have hkeep : capital c = c := if_neg hsmall
    rw [hkeep, hkeep]

/-- What holds of no letter holds of a character in either case. -/
theorem capital_iff {p : Char → Prop} (hp : ∀ c, p c → ¬ IsLetter c) {c : Char} :
    p (capital c) ↔ p c := by
  by_cases hc : IsLetter c
  · exact iff_of_false (fun h => hp _ h (isLetter_capital.2 hc)) (fun h => hp _ h hc)
  · rw [capital_of_not_isLetter hc]

theorem IsBlank.not_isLetter {c : Char} (h : IsBlank c) : ¬ IsLetter c := by
  intro hletter
  rcases h with rfl | rfl | rfl <;> exact absurd (isAlpha_iff.2 hletter) (by decide)

theorem isDecimal_capital {c : Char} : IsDecimal (capital c) ↔ IsDecimal c :=
  capital_iff fun _ hc => hc.not_isLetter

/-- In capitals the same characters continue a word. -/
theorem continuesWord_capital {c : Char} : ContinuesWord (capital c) ↔ ContinuesWord c := by
  have hunderscore : ¬ IsLetter '_' := fun h => absurd (isAlpha_iff.2 h) (by decide)
  rw [ContinuesWord, ContinuesWord, isLetter_capital, isDecimal_capital,
    capital_eq_iff hunderscore]

/-- No letter starts a symbol. -/
theorem not_isLetter_of_mem_symbolChars {c : Char} (hc : c ∈ symbolChars) : ¬ IsLetter c := by
  intro h
  have hletter : c.isAlpha = false := (not_of_mem_symbolChars c hc).2.2.1
  rw [isAlpha_iff.2 h] at hletter
  cases hletter

/-- No letter stands in a symbol of two characters. -/
theorem not_isLetter_of_mem_symbolPairs {c d : Char} (h : [c, d] ∈ symbolPairs) :
    ¬ IsLetter c ∧ ¬ IsLetter d := by
  simp only [symbolPairs, List.mem_cons, List.cons.injEq, and_true, List.not_mem_nil,
    or_false] at h
  rcases h with ⟨rfl, rfl⟩ | ⟨rfl, rfl⟩ | ⟨rfl, rfl⟩ | ⟨rfl, rfl⟩ <;>
    exact ⟨not_isLetter_of_mem_symbolChars (by decide), not_isLetter_of_mem_symbolChars (by decide)⟩

/-! ## Texts -/

/-- The text in capitals: only the case of its letters is lost. -/
def uncased (s : String) : String :=
  String.ofList (s.toList.map capital)

@[simp]
theorem toList_uncased (s : String) : (uncased s).toList = s.toList.map capital :=
  String.toList_ofList

@[simp]
theorem uncased_uncased (s : String) : uncased (uncased s) = uncased s := by
  simp [uncased, Function.comp_def]

/-- The token, in capitals if it is a string literal. -/
def Token.uncased (t : Token) : Token :=
  if t.kind = .stringLiteral then { t with text := Primer.uncased t.text } else t

/-! ## Segments -/

/-- The lexeme in capitals. -/
def Lexeme.uncased : Lexeme → Lexeme
  | .word text => .word (text.map capital)
  | .quoted text closing => .quoted (text.map capital) closing
  | l => l

/-- The segment in capitals. -/
def Segment.uncased : Segment → Segment
  | .blank c => .blank c
  | .comment text => .comment (text.map capital)
  | .lexeme l => .lexeme l.uncased

theorem Segment.lexeme?_uncased (s : Segment) :
    s.uncased.lexeme? = s.lexeme?.map Lexeme.uncased := by
  cases s <;> rfl

section

variable {p q : Char → Prop}

theorem forall_mem_map_capital (hpq : ∀ c, p c → q (capital c)) {text : List Char}
    (h : ∀ d ∈ text, p d) : ∀ d ∈ text.map capital, q d :=
  List.forall_mem_map.2 fun d hd => hpq d (h d hd)

theorem forall_mem_head?_map_capital (hpq : ∀ c, p c → q (capital c)) {text : List Char}
    (h : ∀ d ∈ text.head?, p d) : ∀ d ∈ (text.map capital).head?, q d := by
  cases text with
  | nil => exact fun d hd => nomatch hd
  | cons c text =>
      intro d hd
      obtain rfl : capital c = d := Option.some.inj hd
      exact hpq c (h c rfl)

end

/-- A text without letters stays as it is. -/
theorem map_capital_of_forall {text : List Char} (h : ∀ d ∈ text, ¬ IsLetter d) :
    text.map capital = text :=
  (List.map_congr_left fun d hd => capital_of_not_isLetter (h d hd)).trans (List.map_id' text)

namespace Segment.Whole

/-- The characters of a whole segment are those of the segment in capitals. -/
theorem chars_uncased {s : Segment} {rest : List Char} (h : s.Whole rest) :
    s.uncased.chars = s.chars.map capital := by
  have hslash : capital '/' = '/' := by decide
  have hmark : capital '"' = '"' := by decide
  have hquoted (text : List Char) (closing : Closing) :
      (Segment.lexeme (.quoted text closing)).uncased.chars =
        (Segment.lexeme (.quoted text closing)).chars.map capital := by
    cases closing <;> simp [Segment.uncased, Segment.chars, Lexeme.uncased, Lexeme.chars, hmark]
  cases h with
  | blank hc => exact (map_capital_of_forall (List.forall_mem_singleton.2 hc.not_isLetter)).symm
  | comment htext hrest => simp [Segment.uncased, Segment.chars, hslash]
  | lineFeed => rfl
  | word hc htext hrest => rfl
  | digits hc htext hrest =>
      have hdigits := List.forall_mem_cons.2 ⟨hc, htext⟩
      exact (map_capital_of_forall fun d hd => (hdigits d hd).not_isLetter).symm
  | closedText htext => exact hquoted _ _
  | brokenText htext hrest => exact hquoted _ _
  | openText htext => exact hquoted _ _
  | @pair c d rest hpair =>
      have hletters : ∀ x ∈ [c, d], ¬ IsLetter x := by
        simpa using not_isLetter_of_mem_symbolPairs hpair
      exact (map_capital_of_forall hletters).symm
  | single hc hpair hcomment =>
      have hletter := not_isLetter_of_mem_symbolChars hc
      exact (map_capital_of_forall (List.forall_mem_singleton.2 hletter)).symm
  | stray hblank hfeed hletter hdecimal hmark hsymbol =>
      exact (map_capital_of_forall (List.forall_mem_singleton.2 hletter)).symm

/-- A segment is whole in either case. -/
theorem uncased {s : Segment} {rest : List Char} (h : s.Whole rest) :
    s.uncased.Whole (rest.map capital) := by
  have hfeed (c : Char) : capital c = '\n' ↔ c = '\n' :=
    capital_eq_iff fun h => absurd (isAlpha_iff.2 h) (by decide)
  have hslash (c : Char) : capital c = '/' ↔ c = '/' :=
    capital_eq_iff fun h => absurd (isAlpha_iff.2 h) (by decide)
  have hquoted (c : Char) (h : c ≠ '"' ∧ c ≠ '\n') : capital c ≠ '"' ∧ capital c ≠ '\n' := by
    have hmark : capital c = '"' ↔ c = '"' :=
      capital_eq_iff fun h => absurd (isAlpha_iff.2 h) (by decide)
    rwa [Ne, Ne, hmark, hfeed]
  cases h with
  | blank hc => exact .blank hc
  | comment htext hrest =>
      exact .comment (forall_mem_map_capital (fun c => (hfeed c).not.2) htext)
        (forall_mem_head?_map_capital (fun c => (hfeed c).2) hrest)
  | lineFeed => exact .lineFeed
  | word hc htext hrest =>
      exact .word (isLetter_capital.2 hc)
        (forall_mem_map_capital (fun _ => continuesWord_capital.2) htext)
        (forall_mem_head?_map_capital (fun _ => continuesWord_capital.not.2) hrest)
  | digits hc htext hrest =>
      exact .digits hc htext
        (forall_mem_head?_map_capital (fun _ => isDecimal_capital.not.2) hrest)
  | closedText htext => exact .closedText (forall_mem_map_capital hquoted htext)
  | brokenText htext hrest =>
      refine .brokenText (forall_mem_map_capital hquoted htext) ?_
      rw [List.head?_map, hrest]
      exact congrArg some ((hfeed _).2 rfl)
  | openText htext => exact .openText (forall_mem_map_capital hquoted htext)
  | pair hpair => exact .pair hpair
  | @single c rest hc hpair hcomment =>
      refine .single hc (forall_mem_head?_map_capital (fun d hd h => ?_) hpair) fun hc => ?_
      · -- The second character of a pair is no letter, so it is the same in capitals.
        have hletter : ¬ IsLetter d := isLetter_capital.not.1 (not_isLetter_of_mem_symbolPairs h).2
        rw [capital_of_not_isLetter hletter] at h
        exact hd h
      · have hrest := hcomment hc
        cases rest with
        | nil => exact nofun
        | cons d rest => simpa [hslash] using hrest
  | stray hblank hfeed hletter hdecimal hmark hsymbol =>
      exact .stray hblank hfeed hletter hdecimal hmark hsymbol

end Segment.Whole

/-- A text in capitals is cut where the text is. -/
theorem segmented_map_capital {text : List Char} {ss : List Segment} (h : Segmented text ss) :
    Segmented (text.map capital) (ss.map Segment.uncased) := by
  induction h with
  | nil => exact .nil
  | cons hs hss ih =>
      rw [List.map_append, ← hs.chars_uncased]
      exact .cons hs.uncased ih

/-- The lexemes of a text in capitals are its lexemes in capitals. -/
theorem lexemes_map_capital (text : List Char) :
    lexemes (text.map capital) = (lexemes text).map Lexeme.uncased := by
  rw [lexemes_of_segmented (segmented_map_capital (segmented_segments text)),
    filterMap_lexeme?_map Segment.lexeme?_uncased, lexemes]

/-! ## Tokens and errors -/

/-- The lexeme in capitals, where it stands. -/
def PlacedLexeme.uncased (p : PlacedLexeme) : PlacedLexeme :=
  ⟨p.lexeme.uncased, p.line⟩

/-- Lexemes in capitals stand where they stood. -/
theorem placeAll_map_uncased (n : Nat) (ls : List Lexeme) :
    placeAll n (ls.map Lexeme.uncased) =
      ((placeAll n ls).1.map PlacedLexeme.uncased, (placeAll n ls).2) :=
  placeAll_map (fun l => by cases l <;> rfl) n ls

/-- Scanning a text in capitals cuts the same lexemes, in capitals. -/
theorem scan_uncased (source : String) :
    scan (uncased source) =
      ⟨(scan source).lexemes.map PlacedLexeme.uncased, (scan source).lastLine⟩ := by
  unfold scan
  rw [toList_uncased, lexemes_map_capital, placeAll_map_uncased]

theorem PlacedLexeme.token_uncased (p : PlacedLexeme) : p.uncased.token = p.token.uncased := by
  rcases p with ⟨l, line⟩
  have hcapital : Char.toUpper = capital := funext toUpper_eq_capital
  cases l with
  | word text =>
      simp [PlacedLexeme.uncased, Lexeme.uncased, PlacedLexeme.token, Token.uncased, hcapital,
        Function.comp_def]
  | quoted text closing =>
      simp [PlacedLexeme.uncased, Lexeme.uncased, PlacedLexeme.token, Token.uncased,
        Primer.uncased]
  | _ => rfl

/-- What is wrong with a lexeme does not depend on case. -/
theorem PlacedLexeme.error?_uncased (p : PlacedLexeme) : p.uncased.error? = p.error? := by
  rcases p with ⟨l, line⟩
  cases l with
  | quoted text closing => cases closing <;> rfl
  | _ => rfl

/-- The tokens of a source in capitals are the same but for the texts of string literals. -/
theorem tokens_uncased (source : String) :
    (scan (uncased source)).tokens = (scan source).tokens.map Token.uncased := by
  rw [scan_uncased, Scan.tokens, Scan.tokens, List.map_append, List.map_map, List.map_map]
  have htoken : PlacedLexeme.token ∘ PlacedLexeme.uncased = Token.uncased ∘ PlacedLexeme.token :=
    funext PlacedLexeme.token_uncased
  rw [htoken]
  rfl

/-- The errors of a source in capitals are the same. -/
theorem errors_uncased (source : String) :
    (scan (uncased source)).errors = (scan source).errors := by
  have herror : PlacedLexeme.error? ∘ PlacedLexeme.uncased = PlacedLexeme.error? :=
    funext PlacedLexeme.error?_uncased
  rw [scan_uncased, Scan.errors, Scan.errors, List.filterMap_map, herror]

end Primer
