import Primer.Proofs.Limit.Assignments
import Primer.Proofs.Walking.Statement

/-!
# Walking through a program

A walk never leaves the tokens and always comes to an end.  It goes from line to line:
each attempt at a statement begins at the first token of a line and ends, further on, at
the token that ends the line, and the walk ends at the first end of the input.

Main definitions:

- `EndAhead` says that an end of the input stands at an index or behind it.
- `Attempt.EndsItsLine` says where an attempt has come to.
- `Passed` is what holds of the tokens and the attempts before an index.

Main results:

- Theorems `Visit.passed_line` and `Visit.passed_closing`: what holds before a line holds
  behind it.
- Theorem `Walk.exists_walkOn`: from line to line, a walk reads a program.
- Theorem `walk_within_tokens`: every walk along closed tokens has a result, stays within
  the tokens and ends at the first end of the input.
-/

namespace Primer

variable {tokens : List Token}

/-- An end of the input stands at the index or behind it. -/
def EndAhead (tokens : List Token) (i : Nat) : Prop :=
  ∃ j t, i ≤ j ∧ tokens[j]? = some t ∧ t.kind = .endOfInput

/-- The attempt went forward, to the token that ends the line on which it began. -/
structure Attempt.EndsItsLine (tokens : List Token) (a : Attempt) : Prop where
  first_lt_last : a.first < a.last
  inside : ∀ i, a.first ≤ i → i < a.last → ∃ t, tokens[i]? = some t ∧ t.endsLine = false
  closing : ∃ t, tokens[a.last]? = some t ∧ t.endsLine = true

/-- What a walk leaves behind when it has come to the index between two lines. -/
structure Passed (tokens : List Token) (index : Nat) (attempts : List Attempt) : Prop where
  not_endOfInput : ∀ i t, i < index → tokens[i]? = some t → t.kind ≠ .endOfInput
  endsItsLine : ∀ a ∈ attempts, a.EndsItsLine tokens
  last_le : ∀ a ∈ attempts, a.last ≤ index
  ordered : attempts.Pairwise fun a b => a.last ≤ b.first
  attempted : ∀ i t, i < index → tokens[i]? = some t → t.endsLine = false →
    ∃ a ∈ attempts, a.first ≤ i ∧ i < a.last

/-! ## One line -/

namespace Visit

variable {v : Visit tokens}

theorem getElem?_last (v : Visit tokens) : tokens[v.last]? = some v.line.closing :=
  getElem?_index (c := Cursor.start []) (List.nil_suffix)

/-- From the start of the line to its end there are tokens, and none of them ends it. -/
theorem exists_getElem?_inside {i : Nat} (hfirst : v.ahead.length ≤ i) (hlast : i < v.last) :
    ∃ t, tokens[i]? = some t ∧ t.endsLine = false := by
  have hi : i - v.ahead.length < v.line.tokens.length := by
    unfold last at hlast
    omega
  refine ⟨v.line.tokens[i - v.ahead.length], ?_, v.inside _ (List.getElem_mem hi)⟩
  calc tokens[i]?
      = (v.ahead ++ (v.line.tokens ++ v.line.closing :: v.behind))[i]? :=
        congrArg (fun ts => ts[i]?) v.tokens_eq
    _ = some v.line.tokens[i - v.ahead.length] := by
        rw [List.getElem?_append_right hfirst, List.getElem?_append_left hi,
          List.getElem?_eq_getElem hi]

/-- An attempt on a line that holds a token. -/
theorem endsItsLine (hne : v.line.tokens ≠ []) :
    Attempt.EndsItsLine tokens ⟨v.ahead.length, v.last⟩ := by
  have hlength : 0 < v.line.tokens.length := List.length_pos_iff.2 hne
  exact ⟨Nat.lt_add_of_pos_right hlength, fun i hfirst hlast => exists_getElem?_inside hfirst hlast,
    ⟨_, v.getElem?_last, v.closes⟩⟩

/-- What holds before a line holds at the token that ends it. -/
theorem passed_line (hne : v.line.tokens ≠ []) (h : Passed tokens v.ahead.length v.attempts) :
    Passed tokens v.last (v.attempts ++ [⟨v.ahead.length, v.last⟩]) := by
  have hle : v.ahead.length ≤ v.last := Nat.le_add_right _ _
  constructor
  case not_endOfInput =>
    intro i t hi ht
    by_cases hfirst : i < v.ahead.length
    · exact h.not_endOfInput i t hfirst ht
    · obtain ⟨u, hu, hends⟩ := exists_getElem?_inside (Nat.le_of_not_lt hfirst) hi
      cases ht.symm.trans hu
      intro hkind
      simp [Token.endsLine, hkind] at hends
  case endsItsLine =>
    intro a ha
    rcases List.mem_append.1 ha with ha | ha
    · exact h.endsItsLine a ha
    · cases List.mem_singleton.1 ha
      exact endsItsLine hne
  case last_le =>
    intro a ha
    rcases List.mem_append.1 ha with ha | ha
    · exact Nat.le_trans (h.last_le a ha) hle
    · cases List.mem_singleton.1 ha
      exact Nat.le_refl _
  case ordered =>
    refine List.pairwise_append.2 ⟨h.ordered, List.pairwise_singleton _ _, ?_⟩
    intro a ha b hb
    cases List.mem_singleton.1 hb
    exact h.last_le a ha
  case attempted =>
    intro i t hi ht hends
    by_cases hfirst : i < v.ahead.length
    · obtain ⟨a, ha, hwithin⟩ := h.attempted i t hfirst ht hends
      exact ⟨a, List.mem_append_left _ ha, hwithin⟩
    · exact ⟨_, List.mem_append_right _ (List.mem_singleton.2 rfl), Nat.le_of_not_lt hfirst, hi⟩

/-- What holds at an end of line holds behind it. -/
theorem passed_closing {attempts : List Attempt} (hkind : v.line.closing.kind = .endOfLine)
    (h : Passed tokens v.last attempts) : Passed tokens (v.last + 1) attempts := by
  constructor
  case not_endOfInput =>
    intro i t hi ht
    rcases Nat.lt_succ_iff_lt_or_eq.1 hi with hi | rfl
    · exact h.not_endOfInput i t hi ht
    · cases ht.symm.trans v.getElem?_last
      simp [hkind]
  case endsItsLine => exact h.endsItsLine
  case last_le =>
    intro a ha
    exact Nat.le_succ_of_le (h.last_le a ha)
  case ordered => exact h.ordered
  case attempted =>
    intro i t hi ht hends
    rcases Nat.lt_succ_iff_lt_or_eq.1 hi with hi | rfl
    · exact h.attempted i t hi ht hends
    · cases ht.symm.trans v.getElem?_last
      rw [v.closes] at hends
      cases hends

end Visit

/-! ## From line to line -/

/-- From between two lines one step forward leads past the end of line there. -/
theorem Walker.Between.forward {w : Walker} {index : Nat} {symbols : SymbolTable}
    {reports : List Diagnostic} {attempts : List Attempt}
    (h : w.Between index symbols reports attempts) :
    w.forward.Between (index + 1) symbols reports attempts where
  index_eq := by simp [Walker.forward, h.index_eq]
  symbols_eq := h.symbols_eq
  reports_eq := h.reports_eq
  attempts_eq := h.attempts_eq
  trail_eq := by simp [Walker.forward, h.index_eq, h.trail_eq, List.range_succ]

namespace Walk

variable {w w' : Walker} {t : Token} {program : Program}

/-- Steps with a result go on from where they led. -/
theorem run_bind_of {α β : Type} {m : Walk α} {f : α → Walk β} {a : α}
    (h : (m.run tokens).run w = some (a, w')) :
    ((m >>= f).run tokens).run w = ((f a).run tokens).run w' := by
  rw [ReaderT.run_bind, StateT.run_bind, h]
  rfl

theorem run_peek (ht : tokens[w.index]? = some t) : (peek.run tokens).run w = some (t, w) :=
  congrArg (Option.map fun t => (t, w)) ht

/-- A walk stops at an end of the input. -/
theorem run_walkOn_endOfInput (ht : tokens[w.index]? = some t) (hkind : t.kind = .endOfInput) :
    (program.walkOn.run tokens).run w = some (program, w) := by
  rw [Program.walkOn, run_bind_of (run_peek ht), hkind]
  rfl

/-- A walk goes on behind an end of line. -/
theorem run_walkOn_endOfLine (ht : tokens[w.index]? = some t) (hkind : t.kind = .endOfLine) :
    (program.walkOn.run tokens).run w = (program.walkOn.run tokens).run w.forward := by
  have hadvance : (advance.run tokens).run w = some ((), w.forward) := by
    rw [advance, run_bind_of (run_peek ht), if_neg (by simp [hkind])]
    rfl
  conv =>
    lhs
    rw [Program.walkOn, run_bind_of (run_peek ht), hkind]
  exact run_bind_of hadvance

/-- A walk goes on behind an attempt. -/
theorem run_walkOn_attempt {statement? : Option Statement} (ht : tokens[w.index]? = some t)
    (hends : t.endsLine = false)
    (hattempt : (attempt.run tokens).run w.fresh = some (statement?, w')) :
    (program.walkOn.run tokens).run w =
      ((program ++ statement?.toList).walkOn.run tokens).run w' := by
  have hfresh : ((modify Walker.fresh : Walk Unit).run tokens).run w = some ((), w.fresh) := rfl
  conv =>
    lhs
    rw [Program.walkOn, run_bind_of (run_peek ht)]
  split
  next hkind => simp [Token.endsLine, hkind] at hends
  next hkind => simp [Token.endsLine, hkind] at hends
  next => rw [run_bind_of hfresh, run_bind_of hattempt]

end Walk

namespace Visit

open Walk

variable {v : Visit tokens}

/-- A walk goes on at the token that ends the line, whether or not the line is blank. -/
theorem exists_run_line {w : Walker} {reports : List Diagnostic} (program : Program)
    (hw : w.Between v.ahead.length v.symbols reports v.attempts)
    (hpassed : Passed tokens v.ahead.length v.attempts) :
    ∃ w' attempts,
      (program.walkOn.run tokens).run w =
        ((program ++ (readLineFrom v.symbols v.line).1.statement?.toList).walkOn.run
          tokens).run w' ∧
      w'.Between v.last (readLineFrom v.symbols v.line).2
        (reports ++ (readLineFrom v.symbols v.line).1.diagnostics) attempts ∧
      Passed tokens v.last attempts := by
  by_cases hne : v.line.tokens = []
  · have hlast : v.last = v.ahead.length := by simp [last, hne]
    have hread : readLineFrom v.symbols v.line = (⟨none, [], none⟩, v.symbols) := by
      rw [readLineFrom, hne]
    rw [hread, hlast]
    exact ⟨w, v.attempts, by simp, by simpa [LineReading.diagnostics] using hw, hpassed⟩
  · obtain ⟨w', hattempt, hw'⟩ := exists_attempt hne hw
    have hlength : 0 < v.line.tokens.length := List.length_pos_iff.2 hne
    obtain ⟨t, ht, hends⟩ : ∃ t, tokens[w.index]? = some t ∧ t.endsLine = false := by
      rw [hw.index_eq]
      exact exists_getElem?_inside (Nat.le_refl _) (Nat.lt_add_of_pos_right hlength)
    exact ⟨w', _, run_walkOn_attempt ht hends hattempt, hw', passed_line hne hpassed⟩

/-- The input ends behind a line that an end of line ends. -/
theorem exists_endOfInput_behind (hkind : v.line.closing.kind = .endOfLine)
    (hend : ∃ t ∈ v.line.tokens ++ v.line.closing :: v.behind, t.kind = .endOfInput) :
    ∃ t ∈ v.behind, t.kind = .endOfInput := by
  obtain ⟨t, ht, hinput⟩ := hend
  rcases List.mem_append.1 ht with ht | ht
  · have hends := v.inside t ht
    simp [Token.endsLine, hinput] at hends
  · rcases List.mem_cons.1 ht with rfl | ht
    · cases hkind.symm.trans hinput
    · exact ⟨t, ht, hinput⟩

end Visit

/-! ## Programs -/

/-- Closed tokens have at least one line. -/
theorem splitLines_ne_nil {ts : List Token} (hend : ∃ t ∈ ts, t.kind = .endOfInput) :
    splitLines ts ≠ [] := by
  intro hnil
  have hlines := map_tokens_splitLines hend
  rw [hnil] at hlines
  exact List.splitOnP_ne_nil _ _ hlines.symm

theorem filterMap_statement?_cons (r : LineReading) (rs : List LineReading) :
    (r :: rs).filterMap LineReading.statement? =
      r.statement?.toList ++ rs.filterMap LineReading.statement? := by
  cases h : r.statement? with
  | none => simp [h]
  | some s => simp [h]

namespace Walk

open Visit

/-- From line to line, a walk reads what is left of a program. -/
theorem exists_walkOn (lines : List Line) {ahead rest : List Token} {w : Walker}
    {symbols : SymbolTable} {reports : List Diagnostic} {attempts : List Attempt}
    (program : Program) (htokens : tokens = ahead ++ rest) (hlines : splitLines rest = lines)
    (hend : ∃ t ∈ rest, t.kind = .endOfInput)
    (hw : w.Between ahead.length symbols reports attempts)
    (hpassed : Passed tokens ahead.length attempts) :
    ∃ w' index attempts' closing,
      (program.walkOn.run tokens).run w =
        some (program ++ (readLines symbols lines).1.filterMap LineReading.statement?, w') ∧
      w'.Between index (readLines symbols lines).2
        (reports ++ (readLines symbols lines).1.flatMap LineReading.diagnostics) attempts' ∧
      Passed tokens index attempts' ∧
      tokens[index]? = some closing ∧ closing.kind = .endOfInput := by
  induction lines generalizing ahead rest w symbols reports attempts program with
  | nil => exact absurd hlines (splitLines_ne_nil hend)
  | cons line lines ih =>
      obtain ⟨hinside, hcloses⟩ := not_endsLine_of_mem_splitLines (hlines ▸ List.mem_cons_self)
      obtain ⟨after, rfl, hafter⟩ := exists_of_splitLines_cons hlines
      obtain ⟨v, rfl, rfl, rfl, rfl, rfl⟩ : ∃ v : Visit tokens, v.ahead = ahead ∧ v.line = line ∧
          v.behind = after ∧ v.symbols = symbols ∧ v.attempts = attempts :=
        ⟨⟨ahead, line, after, symbols, attempts, htokens, hinside, hcloses⟩,
          rfl, rfl, rfl, rfl, rfl⟩
      obtain ⟨w₁, attempts₁, hrun, hw₁, hpassed₁⟩ := exists_run_line program hw hpassed
      have hclosing : tokens[w₁.index]? = some v.line.closing := by
        rw [hw₁.index_eq]
        exact v.getElem?_last
      rw [readLines_cons, filterMap_statement?_cons, List.flatMap_cons, ← List.append_assoc,
        ← List.append_assoc, hrun]
      rcases hafter with ⟨hkind, hafter⟩ | ⟨hkind, rfl⟩
      · rw [run_walkOn_endOfLine hclosing hkind]
        have hlength : (v.ahead ++ v.line.tokens ++ [v.line.closing]).length = v.last + 1 := by
          simp [last, Nat.add_assoc]
        have hw₂ := hw₁.forward
        have hpassed₂ := passed_closing hkind hpassed₁
        rw [← hlength] at hw₂ hpassed₂
        have hahead : tokens = v.ahead ++ v.line.tokens ++ [v.line.closing] ++ v.behind := by
          simpa using htokens
        exact ih _ hahead hafter (exists_endOfInput_behind hkind hend) hw₂ hpassed₂
      · rw [run_walkOn_endOfInput hclosing hkind]
        refine ⟨w₁, v.last, attempts₁, v.line.closing, ?_, ?_, hpassed₁, v.getElem?_last, hkind⟩
        · simp
        · simpa using hw₁

end Walk

/-- Every walk along closed tokens has a result, and it is what is read.  So no walk looks
behind the last token, and none goes on forever.  The walker stands on one token after the
other, and wherever it stands, there is a token, and an end of the input there or ahead.
Each attempt at a statement goes forward, to the token that ends the line on which it
began; the attempts follow one another, and every token in front of the end that does not
end a line belongs to one of them.  The walk ends at the first end of the input. -/
theorem walk_within_tokens (tokens : List Token) :
    ∃ w, walk tokens = some ((parse tokens).program, w) ∧
      w.symbols = (parse tokens).symbols ∧ w.reports = (parse tokens).diagnostics ∧
      w.trail = List.range (w.index + 1) ∧
      (∀ i ∈ w.trail, i < (closeTokens tokens).length ∧ EndAhead (closeTokens tokens) i) ∧
      (∀ a ∈ w.attempts, a.EndsItsLine (closeTokens tokens)) ∧
      w.attempts.Pairwise (fun a b => a.last ≤ b.first) ∧
      (∀ i t, i < w.index → (closeTokens tokens)[i]? = some t → t.endsLine = false →
        ∃ a ∈ w.attempts, a.first ≤ i ∧ i < a.last) ∧
      (closeTokens tokens).findIdx? (fun t => t.kind == .endOfInput) = some w.index := by
  have hend : ∃ t ∈ closeTokens tokens, t.kind = .endOfInput :=
    ⟨_, by simp [closeTokens], kind_splitClosing tokens⟩
  have hstart : Walker.start.Between 0 SymbolTable.empty [] [] := ⟨rfl, rfl, rfl, rfl, rfl⟩
  have hpassed : Passed (closeTokens tokens) 0 [] :=
    ⟨by simp, by simp, by simp, .nil, by simp⟩
  obtain ⟨w, index, attempts, closing, hrun, hw, hpassed, hclosing, hkind⟩ :=
    Walk.exists_walkOn (splitLines (closeTokens tokens)) [] (List.nil_append _).symm rfl hend
      hstart hpassed
  obtain ⟨rfl, hsymbols, hreports, rfl, htrail⟩ := hw
  obtain ⟨hlength, hlast⟩ := List.getElem?_eq_some_iff.1 hclosing
  have hinside : ∀ i ∈ w.trail,
      i < (closeTokens tokens).length ∧ EndAhead (closeTokens tokens) i := by
    intro i hi
    have hle : i ≤ w.index := by
      rw [htrail, List.mem_range] at hi
      exact Nat.le_of_lt_succ hi
    exact ⟨Nat.lt_of_le_of_lt hle hlength, w.index, closing, hle, hclosing, hkind⟩
  have hfirst : (closeTokens tokens).findIdx? (fun t => t.kind == .endOfInput) = some w.index := by
    rw [List.findIdx?_eq_some_iff_getElem]
    refine ⟨hlength, by simp [hlast, hkind], ?_⟩
    intro i hi
    simpa using hpassed.not_endOfInput i _ hi (List.getElem?_eq_getElem _)
  exact ⟨w, hrun, hsymbols, hreports, htrail, hinside, hpassed.endsItsLine, hpassed.ordered,
    hpassed.attempted, hfirst⟩

end Primer
