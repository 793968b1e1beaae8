import Mathlib.Data.List.Nodup
import Primer.Proofs.Grammar.Composition
import Primer.Reading.Program
import Primer.Scan

/-!
# Where statements stand

The tokens of a source text stand line by line, and a statement stands on the line of
the token it starts with.  So no two statements of a source stand on one line.

Main definitions:

- `StandsFrom` says that lines of tokens stand one below the other.
- `firstLines` lists where the lines that hold a token start.

Main results:

- Theorem `standsFrom_scan`: the lines of a scanned text stand from line 1 on.
- Theorem `line_of_readLineFrom`: a statement stands where its first token does.
- Theorem `pairwise_line_program`: the statements of a source stand on lines that
  strictly increase.
-/

namespace Primer

/-! ## Lines of tokens -/

/-- The lines stand one below the other, the first of them on the given line. -/
def StandsFrom : Nat → List (List Token) → Prop
  | _, [] => True
  | n, line :: lines => (∀ t ∈ line, t.line = n) ∧ StandsFrom (n + 1) lines

/-- One more token of the first line keeps the lines in place. -/
theorem standsFrom_modifyHead {n : Nat} {t : Token} {lines : List (List Token)} (ht : t.line = n)
    (h : StandsFrom n lines) : StandsFrom n (lines.modifyHead (t :: ·)) := by
  cases lines with
  | nil => trivial
  | cons line lines =>
      rcases h with ⟨hline, hlines⟩
      exact ⟨by simpa [ht] using hline, hlines⟩

/-- Any lexeme but a line feed stays on its line. -/
theorem not_endsLine_token {l : Lexeme} (h : l ≠ .lineFeed) (n : Nat) :
    (PlacedLexeme.token ⟨l, n⟩).endsLine = false ∧ l.lineFeeds = 0 := by
  cases l with
  | lineFeed => exact absurd rfl h
  | word text => exact ⟨rfl, rfl⟩
  | digits text => exact ⟨rfl, rfl⟩
  | quoted text closing => exact ⟨rfl, rfl⟩
  | symbol text => exact ⟨rfl, rfl⟩
  | stray c => exact ⟨rfl, rfl⟩

/-- The lines of placed lexemes stand one below the other. -/
theorem standsFrom_placeAll (n : Nat) (ls : List Lexeme) :
    StandsFrom n (tokenLines ((placeAll n ls).1.map PlacedLexeme.token)) := by
  induction ls generalizing n with
  | nil => exact ⟨by simp, trivial⟩
  | cons l ls ih =>
      rw [placeAll_cons, List.map_cons]
      by_cases hfeed : l = .lineFeed
      · subst hfeed
        rw [tokenLines_endOfLine rfl]
        exact ⟨by simp, ih (n + 1)⟩
      · rcases not_endsLine_token hfeed n with ⟨hends, hstays⟩
        rw [tokenLines_cons hends, hstays]
        exact standsFrom_modifyHead (PlacedLexeme.token_line _) (ih n)

/-- The lines of a scanned text stand from line 1 on. -/
theorem standsFrom_scan (source : String) : StandsFrom 1 (tokenLines (scan source).tokens) := by
  unfold Scan.tokens
  rw [tokenLines_append_endOfInput _ rfl]
  exact standsFrom_placeAll 1 _

/-- Where the lines that hold a token start. -/
def firstLines (lines : List (List Token)) : List Nat :=
  lines.filterMap fun line => line.head?.map Token.line

/-- A line starts where its first token stands. -/
theorem firstLines_cons (line : List Token) (lines : List (List Token)) :
    firstLines (line :: lines) = (line.head?.map Token.line).toList ++ firstLines lines := by
  unfold firstLines
  cases h : line.head?.map Token.line with
  | none => simp [h]
  | some n => simp [h]

/-- Lines without tokens start nowhere. -/
theorem firstLines_filter (lines : List (List Token)) :
    firstLines (lines.filter fun line => line != []) = firstLines lines := by
  induction lines with
  | nil => rfl
  | cons line lines ih =>
      cases line with
      | nil => simpa [firstLines_cons] using ih
      | cons t rest => simpa [firstLines_cons] using ih

/-- Lines that stand one below the other start further and further down. -/
theorem firstLines_of_standsFrom {n : Nat} {lines : List (List Token)} (h : StandsFrom n lines) :
    (∀ k ∈ firstLines lines, n ≤ k) ∧ (firstLines lines).Pairwise (· < ·) := by
  induction lines generalizing n with
  | nil => exact ⟨by simp [firstLines], .nil⟩
  | cons line lines ih =>
      rcases h with ⟨hline, hlines⟩
      rcases ih hlines with ⟨hbound, hpairwise⟩
      cases line with
      | nil => exact ⟨fun k hk => Nat.le_of_succ_le (hbound k hk), hpairwise⟩
      | cons t rest =>
          have ht : t.line = n := hline t List.mem_cons_self
          have hsplit : firstLines ((t :: rest) :: lines) = n :: firstLines lines := by
            simp [firstLines_cons, ht]
          rw [hsplit]
          -- The lines behind start at `n + 1` or later, so the first one is less than each.
          refine ⟨?_, List.pairwise_cons.2 ⟨hbound, hpairwise⟩⟩
          intro k hk
          rcases List.mem_cons.1 hk with rfl | hk
          · exact Nat.le_refl _
          · exact Nat.le_of_succ_le (hbound k hk)

/-! ## Statements -/

/-- A statement stands on the line of its first token. -/
theorem line_of_composed {scope : Scope} {t : Token} {rest : List Token} {r : StatementReading}
    (h : StatementComposed scope t rest r) {s : Statement} (hs : r.statement? = some s) :
    s.line = t.line := by
  cases h with
  | invalid => cases hs
  | declared hword htype hname => cases hs; rfl
  | nameless => cases hs
  | named hword htext hname => cases hs; rfl
  | printed hword htext hconstant => cases hs; rfl
  | inputLiteral hconstant => cases hs
  | outOfRange => cases hs
  | argumentless => cases hs
  | assigned hword hkeyword hequals => cases hs; rfl

/-- A statement stands where the first token of its line does. -/
theorem line_of_readLineFrom {symbols : SymbolTable} {line : Line} {s : Statement}
    (h : (readLineFrom symbols line).1.statement? = some s) :
    line.tokens.head?.map Token.line = some s.line := by
  rcases line with ⟨tokens, closing⟩
  cases tokens with
  | nil => cases h
  | cons t rest =>
      have hline : s.line = t.line :=
        line_of_composed (composed_readStatement ⟨symbols, closing⟩ t rest) h
      exact congrArg some hline.symm

/-- The statements of lines stand where some of the lines start, in the same order. -/
theorem sublist_line_readLines (symbols : SymbolTable) (lines : List Line) :
    (((readLines symbols lines).1.filterMap LineReading.statement?).map Statement.line).Sublist
      (firstLines (lines.map Line.tokens)) := by
  induction lines generalizing symbols with
  | nil => exact .slnil
  | cons line lines ih =>
      rw [readLines_cons, List.map_cons, firstLines_cons]
      cases hstatement : (readLineFrom symbols line).1.statement? with
      | some s =>
          rw [List.filterMap_cons_some hstatement, List.map_cons, line_of_readLineFrom hstatement]
          exact (ih _).cons_cons _
      | none =>
          rw [List.filterMap_cons_none hstatement]
          exact (ih _).trans (List.sublist_append_right _ _)

/-- The statements of a source stand on lines that strictly increase. -/
theorem pairwise_line_program (source : String) :
    ((parse (scan source).tokens).program.map Statement.line).Pairwise (· < ·) := by
  have hlines : firstLines ((splitLines (closeTokens (scan source).tokens)).map Line.tokens) =
      firstLines (tokenLines (scan source).tokens) := by
    rw [← firstLines_filter, filter_map_tokens_closeTokens, nonblankLines, firstLines_filter]
  have hpairwise := (firstLines_of_standsFrom (standsFrom_scan source)).2
  rw [← hlines] at hpairwise
  exact hpairwise.sublist (sublist_line_readLines SymbolTable.empty _)

/-- No two statements of a source stand on one line. -/
theorem eq_of_line_eq {source : String} {s other : Statement}
    (hs : s ∈ (parse (scan source).tokens).program)
    (hother : other ∈ (parse (scan source).tokens).program) (h : s.line = other.line) :
    s = other := by
  have hlines : ((parse (scan source).tokens).program.map Statement.line).Nodup :=
    (pairwise_line_program source).imp Nat.ne_of_lt
  exact List.inj_on_of_nodup_map hlines hs hother h

end Primer
