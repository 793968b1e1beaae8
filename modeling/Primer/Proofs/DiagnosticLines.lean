import Mathlib.Data.List.Forall2
import Primer.Compilation
import Primer.Proofs.Faults
import Primer.Proofs.LineLocality
import Primer.Proofs.Placement
import Primer.Proofs.Segmentation

/-!
# The lines that diagnostics name

A diagnostic names the line of the source on which the text stands that it is about.  The
lines that are read are the lines of the source, and all that is reported while one of them
is read names that line; the token that ends a last line without line feed stands on it too.

Main definitions:

- `Segment.StandsOn` says that a segment of the source stands on a line of it.
- `StandInOrder` says that tokens follow one another line by line.
- `ReadOnLine` says that a line was read on its place in the source.

Main results:

- Theorem `numbered_splitLines`: tokens that follow one another are split into numbered
  lines.
- Theorem `line_of_composed_reports`: an expression reports on the line it stands on.
- Theorem `diagnostics_on_their_lines`: every diagnostic of a compilation names its line.
-/

namespace Primer

/-! ## The source -/

/-- The segment is one of those of the source, and there are as many line feeds in front of
it as there are lines above the given one. -/
def Segment.StandsOn (source : String) (line : Nat) (s : Segment) : Prop :=
  ∃ front back, segments source.toList = front ++ s :: back ∧
    line = 1 + (front.flatMap Segment.chars).count '\n'

/-- A segment stands between the first and the last line of the source. -/
theorem Segment.StandsOn.bounds {source : String} {line : Nat} {s : Segment}
    (h : s.StandsOn source line) : 1 ≤ line ∧ line ≤ 1 + source.toList.count '\n' := by
  rcases h with ⟨front, back, hsplit, rfl⟩
  have htext := flatMap_chars_segments source.toList
  rw [hsplit, List.flatMap_append] at htext
  have hcount := congrArg (List.count '\n') htext
  rw [List.count_append] at hcount
  omega

/-- What is given along segments is given by one of them, on its line. -/
theorem exists_of_mem_onLines {α : Type} {give : Nat → Segment → Option α} {before : List Char}
    {ss : List Segment} {x : α} (h : x ∈ onLines give before ss) :
    ∃ front s back, ss = front ++ s :: back ∧
      give (1 + (before ++ front.flatMap Segment.chars).count '\n') s = some x := by
  induction ss generalizing before with
  | nil => cases h
  | cons s ss ih =>
      rcases List.mem_append.1 h with h | h
      · exact ⟨[], s, ss, rfl, by simpa using h⟩
      · rcases ih h with ⟨front, other, back, rfl, hgive⟩
        exact ⟨s :: front, other, back, rfl, by simpa using hgive⟩

/-- The token of a segment names the line on which the segment stands. -/
theorem Segment.line_of_token? {line : Nat} {s : Segment} {t : Token} (h : s.token? line = some t) :
    t.line = line := by
  rw [Segment.token?_eq, Option.map_eq_some_iff] at h
  rcases h with ⟨l, -, rfl⟩
  exact PlacedLexeme.token_line _

theorem Segment.line_of_error? {line : Nat} {s : Segment} {e : LexicalError}
    (h : s.error? line = some e) : e.line = line := by
  rw [Segment.error?_eq, Option.bind_eq_some_iff] at h
  rcases h with ⟨l, -, he⟩
  exact PlacedLexeme.line_of_error? he

/-- A token of the source is that of a segment, on its line. -/
theorem exists_segment_of_mem_tokens {source : String} {t : Token}
    (h : t ∈ (scan source).lexemes.map PlacedLexeme.token) :
    ∃ s : Segment, s.StandsOn source t.line ∧ s.token? t.line = some t := by
  have hgive (line : Nat) (s : Segment) :
      s.token? line = s.lexeme?.bind fun l => some (PlacedLexeme.token ⟨l, line⟩) := by
    rw [Segment.token?_eq, Option.map_eq_bind]
    rfl
  have hlexemes : (scan source).lexemes.map PlacedLexeme.token =
      onLines Segment.token? [] (segments source.toList) := by
    rw [onLines_eq (fun p => some p.token) hgive (segmented_segments source.toList) [],
      List.filterMap_eq_map']
    rfl
  rw [hlexemes] at h
  rcases exists_of_mem_onLines h with ⟨front, s, back, hsplit, hgive⟩
  have hline := Segment.line_of_token? hgive
  rw [← hline] at hgive
  exact ⟨s, ⟨front, back, hsplit, by simpa using hline⟩, hgive⟩

/-- A lexical error of the source is that of a segment, on its line. -/
theorem exists_segment_of_mem_errors {source : String} {e : LexicalError}
    (h : e ∈ (scan source).errors) :
    ∃ s : Segment, s.StandsOn source e.line ∧ s.error? e.line = some e := by
  have hlexemes : (scan source).errors = onLines Segment.error? [] (segments source.toList) :=
    (onLines_eq _ Segment.error?_eq (segmented_segments source.toList) []).symm
  rw [hlexemes] at h
  rcases exists_of_mem_onLines h with ⟨front, s, back, hsplit, hgive⟩
  have hline := Segment.line_of_error? hgive
  rw [← hline] at hgive
  exact ⟨s, ⟨front, back, hsplit, by simpa using hline⟩, hgive⟩

/-! ## Numbered lines -/

/-- The tokens follow one another line by line, from the given line on. -/
def StandInOrder : Nat → List Token → Prop
  | _, [] => True
  | n, t :: ts => t.line = n ∧ StandInOrder (if t.kind = .endOfLine then n + 1 else n) ts

/-- Lexemes are placed line by line, from the first line on. -/
theorem standInOrder_placeAll (n : Nat) (ls : List Lexeme) :
    StandInOrder n ((placeAll n ls).1.map PlacedLexeme.token) := by
  induction ls generalizing n with
  | nil => trivial
  | cons l ls ih =>
      rw [placeAll_cons, List.map_cons]
      refine ⟨PlacedLexeme.token_line _, ?_⟩
      cases l <;> exact ih _

/-- The end of a last line stands where the line does. -/
theorem standInOrder_endLastLine {n : Nat} {ts : List Token} (h : StandInOrder n ts) :
    StandInOrder n (endLastLine ts) := by
  induction ts generalizing n with
  | nil => trivial
  | cons t ts ih =>
      rcases h with ⟨ht, hts⟩
      cases ts with
      | nil =>
          by_cases hkind : t.kind = .endOfLine
          · simpa [endLastLine, hkind, StandInOrder] using ht
          · simpa [endLastLine, hkind, StandInOrder] using ht
      | cons u ts =>
          have hcons : endLastLine (t :: u :: ts) = t :: endLastLine (u :: ts) := by
            unfold endLastLine
            rw [List.getLast?_cons_cons]
            cases hlast : (u :: ts).getLast? with
            | none => simp at hlast
            | some last => by_cases hkind : last.kind = .endOfLine <;> simp [hkind]
          rw [hcons]
          exact ⟨ht, ih hts⟩

/-- A line with its number: its tokens stand on it, and so does its end if it holds a
token. -/
def Numbered (line : Line) (n : Nat) : Prop :=
  (∀ t ∈ line.tokens, t.line = n) ∧ (line.tokens ≠ [] → line.closing.line = n)

/-- The lines of tokens that stand in order are numbered from the first one on. -/
theorem numbered_splitLinesOnto {n : Nat} {current ts : List Token}
    (hcurrent : ∀ t ∈ current, t.line = n) (h : StandInOrder n ts) :
    ∀ p ∈ (splitLinesOnto [] current ts).zipIdx n, Numbered p.1 p.2 := by
  induction ts generalizing n current with
  | nil => simp [splitLinesOnto]
  | cons t ts ih =>
      rcases h with ⟨ht, hts⟩
      have hfirst : Numbered ⟨current.reverse, t⟩ n :=
        ⟨fun u hu => hcurrent u (List.mem_reverse.1 hu), fun _ => ht⟩
      cases hends : t.endsLine with
      | false =>
          have hkind : t.kind ≠ .endOfLine := fun h => by simp [Token.endsLine, h] at hends
          rw [splitLinesOnto_cons_of_not_endsLine _ _ _ hends]
          rw [if_neg hkind] at hts
          exact ih (List.forall_mem_cons.2 ⟨ht, hcurrent⟩) hts
      | true =>
          rcases Token.endsLine_iff.1 hends with hkind | hkind
          · rw [if_pos hkind] at hts
            simp only [splitLinesOnto, hkind]
            rw [splitLinesOnto_eq, List.reverse_singleton, List.singleton_append, List.zipIdx_cons]
            exact List.forall_mem_cons.2 ⟨hfirst, ih (List.forall_mem_nil _) hts⟩
          · simpa [splitLinesOnto, hkind] using hfirst

/-- The lines of a scanned source carry the numbers of the lines of the source. -/
theorem numbered_splitLines (source : String) :
    ∀ p ∈ (splitLines (closeTokens (scan source).tokens)).zipIdx 1, Numbered p.1 p.2 := by
  let placed := (scan source).lexemes.map PlacedLexeme.token
  have hinput : ∀ t ∈ placed, t.kind ≠ .endOfInput := by
    intro t ht
    rcases List.mem_map.1 ht with ⟨⟨l, n⟩, -, rfl⟩
    cases l <;> exact nofun
  have hlines : splitLines (closeTokens (scan source).tokens) =
      splitLines (endLastLine placed) ++ [⟨[], (scan source).closing⟩] := by
    rw [Scan.tokens, closeTokens_endOfInput _ rfl,
      splitLines_append_endOfInput (closed_endLastLine hinput) rfl]
  have horder : StandInOrder 1 (endLastLine placed) :=
    standInOrder_endLastLine (standInOrder_placeAll 1 _)
  -- Behind the last line of the source, closing its tokens adds a blank one.
  rw [hlines, List.zipIdx_append]
  refine List.forall_mem_append.2 ⟨numbered_splitLinesOnto (List.forall_mem_nil _) horder, ?_⟩
  simp [Numbered]

/-! ## Reports of a line -/

namespace Reading

variable {scope : Scope} {n : Nat}

/-- The token that comes next stands on the line that is read. -/
theorem line_peek {c : Cursor} (hrest : ∀ t ∈ c.rest, t.line = n)
    (hclosing : scope.closing.line = n) : (c.peek scope).line = n := by
  unfold Cursor.peek
  cases hc : c.rest with
  | nil => exact hclosing
  | cons t rest => exact hrest t (by simp [hc])

/-- What is reported where a line is given up names the line. -/
theorem line_abandon {e : Expr} {c : Cursor} (hrest : ∀ t ∈ c.rest, t.line = n)
    (hclosing : scope.closing.line = n) : ∀ d ∈ (abandon scope e c).reports, d.line? = some n := by
  intro d hd
  rw [List.mem_singleton.1 hd]
  exact congrArg some (line_peek hrest hclosing)

/-- An operand that is missing is reported on the line. -/
theorem line_noOperand {found : Token} (hfound : found.line = n) (behind : Cursor) :
    ∀ d ∈ (noOperand found behind).reports, d.line? = some n := by
  intro d hd
  rw [List.mem_singleton.1 hd]
  exact congrArg some hfound

/-- A bracket left open is reported on the line on which it was opened. -/
theorem line_closeBracket {opening : Token} (hopening : opening.line = n) {inner : Reading}
    (hinner : ∀ d ∈ inner.reports, d.line? = some n) :
    ∀ d ∈ (closeBracket scope opening inner).reports, d.line? = some n := by
  unfold closeBracket
  split
  · exact hinner
  split
  · exact hinner
  · intro d hd
    rcases List.mem_append.1 hd with hd | hd
    · exact hinner d hd
    · rw [List.mem_singleton.1 hd]
      exact congrArg some hopening

/-- An expression reports on the line it stands on. -/
theorem line_of_composed_reports {form : Nonterminal} {c : Cursor} {r : Reading}
    (h : Composed scope form c r) (hrest : ∀ t ∈ c.rest, t.line = n)
    (hclosing : scope.closing.line = n) : ∀ d ∈ r.reports, d.line? = some n := by
  -- Each position inside the expression has an end of its tokens in front of it.
  have hlater {c later : Cursor} (h : c.Advances later) (hrest : ∀ t ∈ c.rest, t.line = n) :
      ∀ t ∈ later.rest, t.line = n := fun t ht => hrest t (h.rest_suffix.subset ht)
  have hhead {c : Cursor} {t : Token} {rest : List Token} (hc : c.rest = t :: rest)
      (hrest : ∀ t ∈ c.rest, t.line = n) : t.line = n := hrest t (by simp [hc])
  induction h with
  | @named mode c t rest hc hkind =>
      split
      · exact List.forall_mem_nil _
      · exact List.forall_mem_singleton.2 (congrArg some (hhead hc hrest))
  | literal hc hliteral => exact List.forall_mem_nil _
  | outOfRange hc hkind hvalue =>
      exact List.forall_mem_singleton.2 (congrArg some (hhead hc hrest))
  | absent hends => exact line_noOperand (line_peek hrest hclosing) _
  | misplaced hc hkind hbracket hminus => exact line_noOperand (hhead hc hrest) _
  | bracketed hc hbracket hgrow hinner ih =>
      exact line_closeBracket (hhead hc hrest) (ih (hlater (.advance_grow hgrow) hrest))
  | negated hc hminus hgrow hinner ih => exact ih (hlater (.advance_grow hgrow) hrest)
  | refused hc hopens hroom => exact line_abandon (hlater (.advance _) hrest) hclosing
  | single h ih => exact ih hrest
  | joined hleft hop hgrow hright ihleft ihright =>
      have hinside := hlater (hleft.advances.trans (.advance_grow hgrow)) hrest
      exact List.forall_mem_append.2 ⟨ihleft hrest, ihright hinside⟩
  | cutRow hleft hop hroom ih =>
      have hinside := hlater (hleft.advances.trans (.advance _)) hrest
      exact List.forall_mem_append.2 ⟨ih hrest, line_abandon hinside hclosing⟩
  | plain h ih => exact ih hrest
  | compared hleft hcomparison hgrow hright ihleft ihright =>
      have hinside := hlater (hleft.advances.trans (.advance_grow hgrow)) hrest
      exact List.forall_mem_append.2 ⟨ihleft hrest, ihright hinside⟩
  | cutCondition hleft hcomparison hroom ih =>
      have hinside := hlater (hleft.advances.trans (.advance _)) hrest
      exact List.forall_mem_append.2 ⟨ih hrest, line_abandon hinside hclosing⟩

end Reading

/-- A statement reports on the line it stands on. -/
theorem line_of_composed_statement_reports {scope : Scope} {n : Nat} {t : Token}
    {rest : List Token} {r : StatementReading} (h : StatementComposed scope t rest r)
    (ht : t.line = n) (hrest : ∀ u ∈ rest, u.line = n) (hclosing : scope.closing.line = n) :
    ∀ d ∈ r.reports, d.line? = some n := by
  have hword : some t.line = some n := congrArg some ht
  cases h with
  | invalid => exact List.forall_mem_singleton.2 hword
  | declared hkind htype hname =>
      split
      · exact List.forall_mem_nil _
      · exact List.forall_mem_singleton.2 hword
  | nameless => exact List.forall_mem_singleton.2 hword
  | named hkind htext hname =>
      unfold StatementReading.variableArgument
      split
      · exact List.forall_mem_nil _
      · exact List.forall_mem_singleton.2 hword
  | printed hkind htext hconstant => exact List.forall_mem_nil _
  | inputLiteral hconstant => exact List.forall_mem_singleton.2 hword
  | @outOfRange numeral behind =>
      exact List.forall_mem_singleton.2 (congrArg some (hrest numeral List.mem_cons_self))
  | argumentless => exact List.forall_mem_singleton.2 hword
  | @assigned equals value hkind hkeyword hequals =>
      have hvalue : ∀ u ∈ (Cursor.start value).rest, u.line = n := fun u hu =>
        hrest u (List.mem_cons_of_mem _ hu)
      refine List.forall_mem_append.2 ⟨?_, ?_⟩
      · split
        · exact List.forall_mem_nil _
        · exact List.forall_mem_singleton.2 hword
      · exact Reading.line_of_composed_reports (Reading.composed_whole scope _ value) hvalue
          hclosing

/-- The line stands on a line of the source, and what was read of it stands there too: each
of its tokens is that of a segment on this line, and the statement and all diagnostics name
the line.  Nothing is read where there is no token. -/
structure ReadOnLine (source : String) (n : Nat) (line : Line) (outcome : LineReading) : Prop where
  tokens : ∀ t ∈ line.tokens, ∃ s : Segment, s.StandsOn source n ∧ s.token? n = some t
  blank : line.tokens = [] → outcome = ⟨none, [], none⟩
  statement : ∀ s ∈ outcome.statement?, s.line = n
  diagnostics : ∀ d ∈ outcome.diagnostics, d.line? = some n

/-- All that is read of a numbered line names its number. -/
theorem line_of_readLineFrom_numbered (symbols : SymbolTable) {line : Line} {n : Nat}
    (h : Numbered line n) :
    (∀ s ∈ (readLineFrom symbols line).1.statement?, s.line = n) ∧
      ∀ d ∈ (readLineFrom symbols line).1.diagnostics, d.line? = some n := by
  rcases line with ⟨tokens, closing⟩
  rcases h with ⟨htokens, hclosing⟩
  cases tokens with
  | nil => exact ⟨by simp [readLineFrom], by simp [readLineFrom, LineReading.diagnostics]⟩
  | cons t rest =>
      have hrest : ∀ u ∈ rest, u.line = n := fun u hu => htokens u (List.mem_cons_of_mem _ hu)
      have ht : t.line = n := htokens t List.mem_cons_self
      have hread := composed_readStatement ⟨symbols, closing⟩ t rest
      refine ⟨fun s hs => (line_of_composed hread hs).trans ht, List.forall_mem_append.2 ⟨?_, ?_⟩⟩
      · exact line_of_composed_statement_reports hread ht hrest (hclosing (List.cons_ne_nil _ _))
      · -- What stands behind the statement is an end of the line.
        have hbehind : ∀ u ∈ (readStatement ⟨symbols, closing⟩ t rest).rest, u.line = n :=
          fun u hu => htokens u ((readStatement_rest_suffix _ t rest).subset hu)
        intro d hd
        simp only [readLineFrom, trailing?] at hd
        split at hd
        next s u left hs hleft =>
          rw [List.mem_singleton.1 hd]
          exact congrArg some (hbehind u (by simp [hleft]))
        next => cases hd

namespace ReadOnLine

variable {source : String} {n : Nat} {line : Line} {outcome : LineReading}

/-- Only on a line of the source is anything read. -/
theorem bounds (h : ReadOnLine source n line outcome) (hread : outcome ≠ ⟨none, [], none⟩) :
    1 ≤ n ∧ n ≤ 1 + source.toList.count '\n' := by
  rcases List.exists_mem_of_ne_nil _ fun hblank => hread (h.blank hblank) with ⟨t, ht⟩
  rcases h.tokens t ht with ⟨s, hs, -⟩
  exact hs.bounds

/-- A statement read on a line of the source stands between its first and its last line. -/
theorem bounds_of_statement (h : ReadOnLine source n line outcome) {s : Statement}
    (hs : s ∈ outcome.statement?) : 1 ≤ n ∧ n ≤ 1 + source.toList.count '\n' := by
  refine h.bounds ?_
  rintro rfl
  cases hs

theorem bounds_of_diagnostic (h : ReadOnLine source n line outcome) {d : Diagnostic}
    (hd : d ∈ outcome.diagnostics) : 1 ≤ n ∧ n ≤ 1 + source.toList.count '\n' := by
  refine h.bounds ?_
  rintro rfl
  cases hd

end ReadOnLine

/-! ## Lines of a source -/

/-- No token comes into a line that was not there before. -/
theorem mem_of_mem_splitLinesOnto {current ts : List Token} {line : Line}
    (hline : line ∈ splitLinesOnto [] current ts) {t : Token} (ht : t ∈ line.tokens) :
    t ∈ current ∨ t ∈ ts := by
  induction ts generalizing current with
  | nil => cases hline
  | cons u ts ih =>
      cases hends : u.endsLine with
      | false =>
          rw [splitLinesOnto_cons_of_not_endsLine _ _ _ hends] at hline
          rcases ih hline with h | h
          · rcases List.mem_cons.1 h with rfl | h
            · exact .inr List.mem_cons_self
            · exact .inl h
          · exact .inr (List.mem_cons_of_mem _ h)
      | true =>
          rcases Token.endsLine_iff.1 hends with hkind | hkind
          · simp only [splitLinesOnto, hkind] at hline
            rw [splitLinesOnto_eq, List.reverse_singleton, List.singleton_append] at hline
            rcases List.mem_cons.1 hline with rfl | hline
            · exact .inl (List.mem_reverse.1 ht)
            · rcases ih hline with h | h
              · cases h
              · exact .inr (List.mem_cons_of_mem _ h)
          · simp only [splitLinesOnto, hkind, List.reverse_singleton] at hline
            rw [List.mem_singleton.1 hline] at ht
            exact .inl (List.mem_reverse.1 ht)

/-- Closing tokens adds none that stands inside a line. -/
theorem mem_of_mem_closeTokens {tokens : List Token} {t : Token} (h : t ∈ closeTokens tokens)
    (hends : t.endsLine = false) : t ∈ tokens := by
  have hsplit : ∀ u ∈ (splitClosing tokens).1, u ∈ tokens := by
    unfold splitClosing
    split
    · simp
    · split
      · exact fun u hu => List.dropLast_subset _ hu
      · exact fun u hu => hu
  rcases List.mem_append.1 h with h | h
  · unfold endLastLine at h
    split at h
    · cases h
    · split at h
      · exact hsplit t h
      · rcases List.mem_append.1 h with h | h
        · exact hsplit t h
        · rw [List.mem_singleton.1 h] at hends
          cases hends
  · rw [List.mem_singleton.1 h, Token.endsLine, kind_splitClosing] at hends
    cases hends

/-- What holds of every numbered line that is read on its own holds of lines read one after
another. -/
theorem forall₂_readLines_zipIdx {P : Line × Nat → LineReading → Prop} {lines : List Line} {n : Nat}
    (h : ∀ symbols, ∀ p ∈ lines.zipIdx n, P p (readLineFrom symbols p.1).1)
    (symbols : SymbolTable) : List.Forall₂ P (lines.zipIdx n) (readLines symbols lines).1 := by
  induction lines generalizing symbols n with
  | nil => exact .nil
  | cons line lines ih =>
      rw [readLines_cons, List.zipIdx_cons]
      rw [List.zipIdx_cons] at h
      exact .cons (h symbols _ List.mem_cons_self)
        (ih (fun symbols p hp => h symbols p (List.mem_cons_of_mem _ hp)) _)

/-- What is related on the right is related to something on the left. -/
theorem exists_of_mem_right {α β : Type} {R : α → β → Prop} {as : List α} {bs : List β}
    (h : List.Forall₂ R as bs) {b : β} (hb : b ∈ bs) : ∃ a, R a b := by
  induction h with
  | nil => cases hb
  | @cons a b' as bs hab hrest ih =>
      rcases List.mem_cons.1 hb with rfl | hb
      · exact ⟨a, hab⟩
      · exact ih hb

/-- The lines of the source are read each on its place. -/
theorem forall₂_readOnLine (source : String) :
    List.Forall₂ (fun numbered outcome => ReadOnLine source numbered.2 numbered.1 outcome)
      ((splitLines (closeTokens (scan source).tokens)).zipIdx 1)
      (parse (scan source).tokens).lines := by
  refine forall₂_readLines_zipIdx (fun symbols p hp => ?_) SymbolTable.empty
  rcases p with ⟨line, n⟩
  have hnumbered : Numbered line n := numbered_splitLines source _ hp
  have hline : line ∈ splitLines (closeTokens (scan source).tokens) := List.fst_mem_of_mem_zipIdx hp
  rcases line_of_readLineFrom_numbered symbols hnumbered with ⟨hstatement, hdiagnostics⟩
  refine ⟨fun t ht => ?_, fun hblank => ?_, hstatement, hdiagnostics⟩
  · have hends : t.endsLine = false := (not_endsLine_of_mem_splitLines hline).1 t ht
    have hclosed : t ∈ closeTokens (scan source).tokens :=
      (mem_of_mem_splitLinesOnto hline ht).resolve_left (List.not_mem_nil)
    rcases List.mem_append.1 (mem_of_mem_closeTokens hclosed hends) with htoken | hclosing
    · exact hnumbered.1 t ht ▸ exists_segment_of_mem_tokens htoken
    · rw [List.mem_singleton.1 hclosing] at hends
      cases hends
  · rcases line with ⟨tokens, closing⟩
    obtain rfl : tokens = [] := hblank
    exact congrArg Prod.fst (readLineFrom_blank symbols closing)

/-! ## Order -/

/-- The lines of placed lexemes never go down. -/
theorem pairwise_line_placeAll (n : Nat) (ls : List Lexeme) :
    (∀ p ∈ (placeAll n ls).1, n ≤ p.line) ∧
      (placeAll n ls).1.Pairwise fun p q => p.line ≤ q.line := by
  induction ls generalizing n with
  | nil => exact ⟨List.forall_mem_nil _, .nil⟩
  | cons l ls ih =>
      rw [placeAll_cons]
      rcases ih (n + l.lineFeeds) with ⟨hbound, hpairwise⟩
      have hlater : ∀ p ∈ (placeAll (n + l.lineFeeds) ls).1, n ≤ p.line := fun p hp =>
        Nat.le_of_add_right_le (hbound p hp)
      exact ⟨List.forall_mem_cons.2 ⟨Nat.le_refl n, hlater⟩, .cons hlater hpairwise⟩

/-- The lexical errors of a source stand in its order. -/
theorem pairwise_line_errors (source : String) :
    ((scan source).errors.map LexicalError.line).Pairwise (· ≤ ·) := by
  rw [List.pairwise_map, Scan.errors, List.pairwise_filterMap]
  refine (pairwise_line_placeAll 1 _).2.imp ?_
  intro p q hle e he e' he'
  rwa [PlacedLexeme.line_of_error? he, PlacedLexeme.line_of_error? he']

/-- The diagnostics of lines that are read each on its place stand in their order. -/
theorem pairwise_line?_of_forall₂ {source : String} {n : Nat} {lines : List Line}
    {outcomes : List LineReading}
    (h : List.Forall₂ (fun numbered outcome => ReadOnLine source numbered.2 numbered.1 outcome)
      (lines.zipIdx n) outcomes) :
    (∀ k ∈ (outcomes.flatMap LineReading.diagnostics).filterMap Diagnostic.line?, n ≤ k) ∧
      ((outcomes.flatMap LineReading.diagnostics).filterMap Diagnostic.line?).Pairwise (· ≤ ·) := by
  induction lines generalizing n outcomes with
  | nil =>
      cases h
      exact ⟨List.forall_mem_nil _, .nil⟩
  | cons line lines ih =>
      rw [List.zipIdx_cons] at h
      cases h with
      | @cons _ outcome _ outcomes hline hlines =>
          rcases ih hlines with ⟨hbound, hpairwise⟩
          have hfirst : ∀ k ∈ outcome.diagnostics.filterMap Diagnostic.line?, k = n := by
            intro k hk
            rcases List.mem_filterMap.1 hk with ⟨d, hd, hk⟩
            rw [hline.diagnostics d hd] at hk
            exact (Option.some.inj hk).symm
          have hlater : ∀ k ∈ (outcomes.flatMap LineReading.diagnostics).filterMap Diagnostic.line?,
              n ≤ k := fun k hk => Nat.le_of_succ_le (hbound k hk)
          rw [List.flatMap_cons, List.filterMap_append]
          refine ⟨List.forall_mem_append.2 ⟨fun k hk => (hfirst k hk).ge, hlater⟩,
            List.pairwise_append.2 ⟨?_, hpairwise, ?_⟩⟩
          · exact List.pairwise_of_forall_mem_list fun j hj k hk =>
              (hfirst j hj).trans (hfirst k hk).symm |>.le
          · exact fun j hj k hk => (hfirst j hj).trans_le (hlater k hk)

/-- The faults of a source stand in the order of its assignments. -/
theorem pairwise_line_faults (source : String) :
    ((foldConstants (parse (scan source).tokens).program).faults.map
      ArithmeticFault.line).Pairwise (· ≤ ·) := by
  rw [faults_foldConstants, List.pairwise_map, List.pairwise_flatMap]
  refine ⟨fun s _ => List.pairwise_of_forall_mem_list fun f hf g hg => ?_, ?_⟩
  · exact (line_of_mem_faults hf).trans (line_of_mem_faults hg).symm |>.le
  · refine (List.pairwise_map.1 (pairwise_line_program source)).imp ?_
    intro s s' hlt f hf g hg
    rw [line_of_mem_faults hf, line_of_mem_faults hg]
    exact hlt.le

/-! ## Compilation -/

/-- The faults of a compilation are those of its program, if its constants are folded. -/
theorem faults_compile (options : Options) (source : String) :
    (compile options source).folding.faults =
      if options.fold then (foldConstants (parse (scan source).tokens).program).faults else [] := by
  unfold compile
  split
  · rfl
  · rfl

/-- A fault is one of an assignment that stands on its line. -/
theorem exists_assign_of_mem_faults {program : Program} {f : ArithmeticFault}
    (h : f ∈ (foldConstants program).faults) :
    ∃ target type value, .assign target type value f.line ∈ program ∧
      f ∈ (foldArithmetic f.line value).faults := by
  rw [faults_foldConstants, List.mem_flatMap] at h
  rcases h with ⟨s, hs, hf⟩
  have hline := line_of_mem_faults hf
  cases s with
  | declare name type line => cases hf
  | assign target type value line =>
      obtain rfl : f.line = line := hline
      exact ⟨target, type, value, hs, hf⟩
  | perform command argument line => cases hf

/-- Every diagnostic of a compilation names its line.  A lexical error names the line of the
segment of the source that it is found in.  The lines read are the lines of the source, and
all that is reported while one of them is read names this line, which is that of its tokens
and of its statement.  A fault names the line of the assignment whose value it is found in.
So every diagnostic names a line, and one of the source; those of each stage follow the
order of the lines; and none is that of a name looked up on its own, which names none. -/
theorem diagnostics_on_their_lines (options : Options) (source : String) :
    let c := compile options source
    (∀ e ∈ c.scan.errors, ∃ s : Segment, s.StandsOn source e.line ∧ s.error? e.line = some e) ∧
      List.Forall₂ (fun numbered outcome => ReadOnLine source numbered.2 numbered.1 outcome)
        ((splitLines (closeTokens c.tokens)).zipIdx 1) c.parse.lines ∧
      (∀ f ∈ c.folding.faults, ∃ target type value,
        .assign target type value f.line ∈ c.parse.program ∧
          f ∈ (foldArithmetic f.line value).faults) ∧
      (∀ d ∈ c.diagnostics, ∃ n, d.line? = some n ∧ 1 ≤ n ∧ n ≤ 1 + source.toList.count '\n') ∧
      (c.scan.errors.map LexicalError.line).Pairwise (· ≤ ·) ∧
      (c.parse.diagnostics.filterMap Diagnostic.line?).Pairwise (· ≤ ·) ∧
      (c.folding.faults.map ArithmeticFault.line).Pairwise (· ≤ ·) ∧
      ∀ name, .semantic (.unknownVariable name) ∉ c.diagnostics := by
  intro c
  have herrors : ∀ e ∈ c.scan.errors,
      ∃ s : Segment, s.StandsOn source e.line ∧ s.error? e.line = some e :=
    fun e he => exists_segment_of_mem_errors he
  have hlines := forall₂_readOnLine source
  have hread : ∀ outcome ∈ c.parse.lines, ∃ n line, ReadOnLine source n line outcome := by
    intro outcome hmem
    rcases exists_of_mem_right hlines hmem with ⟨⟨line, n⟩, h⟩
    exact ⟨n, line, h⟩
  have hfaults : ∀ f ∈ c.folding.faults, ∃ target type value,
      .assign target type value f.line ∈ c.parse.program ∧
        f ∈ (foldArithmetic f.line value).faults := by
    intro f hf
    rw [faults_compile] at hf
    split at hf
    · exact exists_assign_of_mem_faults hf
    · cases hf
  have hbounds : ∀ d ∈ c.diagnostics, ∃ n, d.line? = some n ∧ 1 ≤ n ∧
      n ≤ 1 + source.toList.count '\n' := by
    intro d hd
    rcases List.mem_append.1 hd with hd | hd
    · rcases List.mem_append.1 hd with hd | hd
      · rcases List.mem_map.1 hd with ⟨e, he, rfl⟩
        rcases herrors e he with ⟨s, hs, -⟩
        exact ⟨e.line, rfl, hs.bounds⟩
      · rcases List.mem_flatMap.1 hd with ⟨outcome, hmem, hd⟩
        rcases hread outcome hmem with ⟨n, line, h⟩
        exact ⟨n, h.diagnostics d hd, h.bounds_of_diagnostic hd⟩
    · rcases List.mem_map.1 hd with ⟨f, hf, rfl⟩
      rcases hfaults f hf with ⟨target, type, value, hs, -⟩
      rcases List.mem_filterMap.1 hs with ⟨outcome, hmem, hs⟩
      rcases hread outcome hmem with ⟨n, line, h⟩
      have hline : f.line = n := h.statement _ hs
      exact ⟨f.line, rfl, hline ▸ h.bounds_of_statement hs⟩
  refine ⟨herrors, hlines, hfaults, hbounds, pairwise_line_errors source,
    (pairwise_line?_of_forall₂ hlines).2, ?_, ?_⟩
  · rw [faults_compile]
    split
    · exact pairwise_line_faults source
    · exact .nil
  · intro name h
    rcases hbounds _ h with ⟨n, hn, -⟩
    cases hn

end Primer
