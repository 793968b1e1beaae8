import Primer.Proofs.LineLocality
import Primer.Proofs.Limit.Cutting
import Primer.Proofs.TokenLines

/-!
# The limit of an assignment

A statement holds at most 512 operators and opening brackets.  The line is read as far as
they reach; there it is given up with one report, and what was read so far is kept.

Main definitions:

- `RefusedAt` says which token is the first one for which an expression has no room.
- `StartsAssignment` says that two tokens are a target and an equals sign.

Main results:

- Theorem `exists_refusedAt`: there is such a token if the expression takes more room than
  there is.
- Theorem `diagnostics_assignment`: only then is the line given up, and that is reported
  last.
- Theorem `exists_parse_eq`: a line may be changed to one that holds the same statement.
- Theorem `assignment_within_limit`: the value of an assignment is bounded, and is what is
  read in front of that token.
-/

namespace Primer

/-! ## The first token without room -/

/-- A use takes at most one of what a statement may hold. -/
theorem Use.cost_le_one (u : Use) : u.cost ≤ 1 := by
  cases u <;> simp [cost]

/-- What takes room is the use of a token. -/
theorem Use.exists_token_of_cost {u : Use} (h : u.cost = 1) : ∃ t, u.token? = some t := by
  cases u with
  | absent => cases h
  | opening t => exact ⟨t, rfl⟩
  | sign t => exact ⟨t, rfl⟩
  | operator t => exact ⟨t, rfl⟩
  | closing t => exact ⟨t, rfl⟩
  | operand t => exact ⟨t, rfl⟩

/-- Nothing is refused exactly if the limit covers all uses. -/
theorem allot_snd_eq_none_iff {limit : Nat} {us : List Use} :
    (allot limit us).2 = none ↔ totalCost us ≤ limit := by
  induction us generalizing limit with
  | nil => simp [allot]
  | cons u us ih =>
      rw [allot, totalCost_cons]
      by_cases h : limit < u.cost
      · simp only [h, if_true, reduceCtorEq, false_iff]
        omega
      · simp only [h, if_false, ih]
        omega

/-- What is refused stands behind what is kept, and the limit does not cover both. -/
theorem exists_of_allot_snd {limit : Nat} {us : List Use} {u : Use}
    (h : (allot limit us).2 = some u) :
    ∃ later, us = (allot limit us).1 ++ u :: later ∧ totalCost (allot limit us).1 ≤ limit ∧
      limit < totalCost (allot limit us).1 + u.cost := by
  induction us generalizing limit with
  | nil => cases h
  | cons v us ih =>
      rw [allot] at h ⊢
      by_cases hcost : limit < v.cost
      · simp only [hcost, if_true, Option.some.injEq] at h ⊢
        subst h
        exact ⟨us, rfl, Nat.zero_le _, by simpa using hcost⟩
      · simp only [hcost, if_false] at h ⊢
        rcases ih h with ⟨later, hsplit, hle, hlt⟩
        refine ⟨later, congrArg (v :: ·) hsplit, ?_, ?_⟩
        · rw [totalCost_cons]
          omega
        · rw [totalCost_cons]
          omega

/-- Of the tokens of an expression, those in front are used up to where all room is taken,
and the given one behind them would take up more: it is the next operator or opening
bracket. -/
def RefusedAt (type : DataType) (tokens front : List Token) (t : Token) : Prop :=
  ∃ kept u later, expressionUses type tokens = kept ++ u :: later ∧
    kept.filterMap Use.token? = front ∧ u.token? = some t ∧ totalCost kept = growthLimit ∧
    u.cost = 1

/-- An expression that takes more room than there is has a first token without room. -/
theorem exists_refusedAt {type : DataType} {tokens : List Token}
    (h : growthLimit < totalCost (expressionUses type tokens)) :
    ∃ t back, tokens = Reading.keptTokens type tokens ++ t :: back ∧
      RefusedAt type tokens (Reading.keptTokens type tokens) t := by
  cases hrefused : refusedUse? type tokens with
  | none =>
      have hle := allot_snd_eq_none_iff.1 hrefused
      omega
  | some u =>
      rcases exists_of_allot_snd hrefused with ⟨later, hsplit, hle, hlt⟩
      have hcost := u.cost_le_one
      have hone : u.cost = 1 := by omega
      rcases Use.exists_token_of_cost hone with ⟨t, ht⟩
      have htokens : (expressionUses type tokens).filterMap Use.token? =
          Reading.keptTokens type tokens ++ t :: later.filterMap Use.token? := by
        rw [hsplit, List.filterMap_append, List.filterMap_cons_some ht]
        rfl
      rcases prefix_tokens_uses (.ofType type) .operand 0 (type == .boolean) tokens with ⟨q, hq⟩
      refine ⟨t, later.filterMap Use.token? ++ q, ?_, _, u, later, hsplit, rfl, ht, ?_, hone⟩
      · calc tokens = (expressionUses type tokens).filterMap Use.token? ++ q := hq.symm
          _ = _ := by rw [htokens, List.append_assoc, List.cons_append]
      · omega

/-! ## Assignments -/

/-- The line starts with a name that may be assigned to, and an equals sign. -/
structure StartsAssignment (first equals : Token) : Prop where
  name : first.kind = .identifier
  notKeyword : ¬ IsKeyword first.text
  sign : equals.isSymbol "=" = true

section

variable {first equals : Token}

/-- A line that starts with a target and an equals sign is read as an assignment. -/
theorem readStatement_assignment (h : StartsAssignment first equals) (scope : Scope)
    (tokens : List Token) :
    readStatement scope first (equals :: tokens) =
      StatementReading.assignment scope first.text first.line tokens := by
  rcases ofKeyword?_of_not_isKeyword h.notKeyword with ⟨hdeclaration, hcommand⟩
  simp [readStatement, h.name, hdeclaration, hcommand, h.sign]

/-- An assignment is read of a line that starts as one. -/
theorem startsAssignment_of_composed {scope : Scope} {rest : List Token} {r : StatementReading}
    (h : StatementComposed scope first rest r) {target : String} {type : DataType} {e : Expr}
    {n : Nat} (hs : r.statement? = some (.assign target type e n)) :
    ∃ equals tokens, rest = equals :: tokens ∧ StartsAssignment first equals ∧
      first.text = target ∧ first.line = n ∧ (scope.symbols.type? target).getD .unknown = type ∧
      (Reading.whole scope type tokens).expr = e := by
  cases h with
  | invalid => cases hs
  | declared hword htype hname => cases hs
  | nameless => cases hs
  | named hword htext hname => cases hs
  | printed hword htext hconstant => cases hs
  | inputLiteral hconstant => cases hs
  | outOfRange => cases hs
  | argumentless => cases hs
  | @assigned equals tokens hword hkeyword hequals =>
      cases hs
      exact ⟨equals, tokens, rfl, ⟨hword, hkeyword, hequals⟩, rfl, rfl, rfl, rfl⟩

/-- The report about the end of a line refuses no expression. -/
theorem not_isRefusal_trailing? (statement? : Option Statement) (rest : List Token) :
    ∀ d ∈ (trailing? statement? rest).toList, d.isRefusal = false := by
  unfold trailing?
  split
  · simp [Diagnostic.isRefusal]
  · simp

/-- What the line of an assignment holds, what is reported of it, and that it leaves the
declarations as they are. -/
theorem readLineFrom_assignment (h : StartsAssignment first equals) (symbols : SymbolTable)
    (closing : Token) (tokens : List Token) :
    let type := (symbols.type? first.text).getD .unknown
    let value := Reading.whole ⟨symbols, closing⟩ type tokens
    let statement : Statement := .assign first.text type value.expr first.line
    let outcome := readLineFrom symbols ⟨first :: equals :: tokens, closing⟩
    outcome.1.statement? = some statement ∧
      outcome.1.diagnostics =
        (if symbols.contains first.text then []
          else [.semantic (.undeclaredAssignment first.line first.text)]) ++
          value.reports ++ (trailing? (some statement) value.cursor.rest).toList ∧
      outcome.2 = symbols := by
  simp only [readLineFrom, LineReading.diagnostics, readStatement_assignment h]
  exact ⟨rfl, rfl, rfl⟩

/-- An expression is given up exactly if it takes more room than there is; that is reported
once, and last, and nothing of the line is left to read. -/
theorem reports_whole (scope : Scope) (type : DataType) {tokens : List Token}
    (htokens : ∀ t ∈ tokens, t.endsLine = false) :
    ∃ earlier n, (∀ d ∈ earlier, d.isRefusal = false) ∧
      if growthLimit < totalCost (expressionUses type tokens) then
        (Reading.whole scope type tokens).reports =
            earlier ++ [.grammar (.expressionTooComplex n growthLimit)] ∧
          (Reading.whole scope type tokens).cursor.rest = []
      else (Reading.whole scope type tokens).reports = earlier := by
  have hmakes := Reading.makes_whole scope type htokens
  rcases hmakes.refusal with ⟨earlier, n, hearlier, hreports⟩
  refine ⟨earlier, n, hearlier, ?_⟩
  rw [hreports]
  cases hrefused : refusedUse? type tokens with
  | none =>
      rw [if_neg (Nat.not_lt.2 (allot_snd_eq_none_iff.1 hrefused))]
      exact List.append_nil earlier
  | some u =>
      have hroom : growthLimit < totalCost (expressionUses type tokens) := by
        refine Nat.lt_of_not_le fun hle => ?_
        cases hrefused.symm.trans (allot_snd_eq_none_iff.2 hle)
      rw [if_pos hroom]
      exact ⟨rfl, (hmakes.givenUp u hrefused).2⟩

/-- A line that holds an assignment is given up exactly if its expression takes more room
than there is; that is reported once, and last. -/
theorem diagnostics_assignment (h : StartsAssignment first equals) (symbols : SymbolTable)
    (closing : Token) {tokens : List Token} (htokens : ∀ t ∈ tokens, t.endsLine = false) :
    ∃ earlier n, (∀ d ∈ earlier, d.isRefusal = false) ∧
      (readLineFrom symbols ⟨first :: equals :: tokens, closing⟩).1.diagnostics =
        earlier ++
          if growthLimit <
              totalCost (expressionUses ((symbols.type? first.text).getD .unknown) tokens) then
            [.grammar (.expressionTooComplex n growthLimit)]
          else [] := by
  have hundeclared : ∀ d ∈ (if symbols.contains first.text then [] else
      [.semantic (.undeclaredAssignment first.line first.text)] : List Diagnostic),
      d.isRefusal = false := by
    split <;> simp [Diagnostic.isRefusal]
  rcases reports_whole ⟨symbols, closing⟩ ((symbols.type? first.text).getD .unknown) htokens with
    ⟨earlier, n, hearlier, hreports⟩
  have hfront := List.forall_mem_append.2 ⟨hundeclared, hearlier⟩
  rw [(readLineFrom_assignment h symbols closing tokens).2.1]
  split at hreports
  · rename_i hroom
    refine ⟨_, n, hfront, ?_⟩
    rw [if_pos hroom, hreports.1, hreports.2]
    simp [trailing?]
  · rename_i hroom
    simp only [hreports, if_neg hroom, List.append_nil]
    exact ⟨_, n, List.forall_mem_append.2 ⟨hfront, not_isRefusal_trailing? _ _⟩, rfl⟩

end

/-! ## Changing a line -/

/-- The first line is what stands in front of the first token that ends a line. -/
theorem exists_of_splitLines_cons {tokens : List Token} {line : Line} {lines : List Line}
    (h : splitLines tokens = line :: lines) :
    ∃ after, tokens = line.tokens ++ line.closing :: after ∧
      (line.closing.kind = .endOfLine ∧ splitLines after = lines ∨
        line.closing.kind = .endOfInput ∧ lines = []) := by
  cases hfind : tokens.find? Token.endsLine with
  | none =>
      have hnone : ∀ t ∈ tokens, t.endsLine = false := by
        simpa using List.find?_eq_none.1 hfind
      have hlines := splitLinesOnto_append [] [] tokens hnone []
      rw [List.append_nil] at hlines
      cases h.symm.trans hlines
  | some closing =>
      rcases List.find?_eq_some_iff_append.1 hfind with ⟨hends, front, after, rfl, hfront⟩
      have hfront : ∀ t ∈ front, t.endsLine = false := by simpa using hfront
      rcases Token.endsLine_iff.1 hends with hkind | hkind
      · rw [splitLines_endOfLine hfront hkind] at h
        cases h
        exact ⟨after, rfl, .inl ⟨hkind, rfl⟩⟩
      · rw [splitLines_endOfInput hfront hkind] at h
        cases h
        exact ⟨after, rfl, .inr ⟨hkind, rfl⟩⟩

/-- The tokens of a line stand among the others, and may be changed without changing the
other lines. -/
theorem exists_of_splitLines_append {tokens : List Token} {before behind : List Line}
    {line : Line} (h : splitLines tokens = before ++ line :: behind) :
    ∃ ahead after, tokens = ahead ++ line.tokens ++ line.closing :: after ∧
      ∀ other : List Token, (∀ t ∈ other, t.endsLine = false) →
        splitLines (ahead ++ other ++ line.closing :: after) =
          before ++ ⟨other, line.closing⟩ :: behind := by
  induction before generalizing tokens with
  | nil =>
      rcases exists_of_splitLines_cons h with ⟨after, htokens, ⟨hkind, hafter⟩ | ⟨hkind, hafter⟩⟩
      · refine ⟨[], after, htokens, fun other hother => ?_⟩
        rw [List.nil_append, splitLines_endOfLine hother hkind, hafter]
        rfl
      · refine ⟨[], after, htokens, fun other hother => ?_⟩
        rw [List.nil_append, splitLines_endOfInput hother hkind, hafter]
        rfl
  | cons first before ih =>
      have hmem : first ∈ splitLines tokens := h ▸ List.mem_cons_self
      have hfirst := (not_endsLine_of_mem_splitLines hmem).1
      rcases exists_of_splitLines_cons h with ⟨rest, htokens, ⟨hkind, hrest⟩ | ⟨-, hrest⟩⟩
      · rcases ih hrest with ⟨ahead, after, rfl, hchange⟩
        refine ⟨first.tokens ++ first.closing :: ahead, after, by simp [htokens], ?_⟩
        intro other hother
        have hsplit := splitLines_endOfLine hfirst hkind (ahead ++ other ++ line.closing :: after)
        rw [hchange other hother] at hsplit
        simpa using hsplit
      · simp at hrest

/-- A closed list of tokens ends with an end of line and the end of the input. -/
theorem exists_closeTokens_eq (tokens : List Token) :
    ∃ body last, closeTokens tokens = body ++ [last] ∧ last.kind = .endOfInput ∧
      ∀ t ∈ body.getLast?, t.kind = .endOfLine := by
  refine ⟨endLastLine (splitClosing tokens).1, (splitClosing tokens).2, rfl,
    kind_splitClosing tokens, ?_⟩
  unfold endLastLine
  cases hlast : (splitClosing tokens).1.getLast? with
  | none => simp
  | some last =>
      by_cases hkind : last.kind = .endOfLine
      · simp [hkind, hlast]
      · simp [hkind]

/-- Nothing is appended to a list of tokens that is closed. -/
theorem closeTokens_append_endOfInput {body : List Token} {last : Token}
    (hlast : last.kind = .endOfInput) (hbody : ∀ t ∈ body.getLast?, t.kind = .endOfLine) :
    closeTokens (body ++ [last]) = body ++ [last] := by
  rw [closeTokens_endOfInput _ hlast]
  unfold endLastLine
  cases hend : body.getLast? with
  | none => rw [List.getLast?_eq_none_iff.1 hend]
  | some t => simp [hbody t hend]

/-- How a closed list of tokens ends does not depend on what stands inside its lines. -/
theorem closeTokens_of_eq {tokens ahead inside after : List Token} {closing : Token}
    (h : closeTokens tokens = ahead ++ inside ++ closing :: after) (hne : inside ≠ [])
    (hinside : ∀ t ∈ inside, t.endsLine = false) (other : List Token) :
    closeTokens (ahead ++ other ++ closing :: after) = ahead ++ other ++ closing :: after := by
  rcases exists_closeTokens_eq tokens with ⟨body, last, hclosed, hlast, hbody⟩
  rcases List.eq_nil_or_concat after with rfl | ⟨after, final, rfl⟩
  · -- The end of the input does not stand right behind a token inside a line.
    have hsplit : body ++ [last] = ahead ++ inside ++ [closing] := hclosed.symm.trans h
    obtain ⟨rfl, -⟩ := List.append_inj' hsplit rfl
    have hmem : inside.getLast hne ∈ (ahead ++ inside).getLast? := by
      simp [List.getLast?_append, List.getLast?_eq_some_getLast hne]
    have hends : (inside.getLast hne).endsLine = true := by
      simp [Token.endsLine, hbody _ hmem]
    rw [hinside _ (List.getLast_mem hne)] at hends
    cases hends
  · have hsplit : body ++ [last] = (ahead ++ inside ++ closing :: after) ++ [final] := by
      rw [← hclosed, h]
      simp
    obtain ⟨rfl, hfinal⟩ := List.append_inj' hsplit rfl
    cases hfinal
    have hkept : ∀ t ∈ (ahead ++ other ++ closing :: after).getLast?, t.kind = .endOfLine := by
      simpa [List.getLast?_append] using hbody
    simpa using closeTokens_append_endOfInput hlast hkept

/-! ## Programs -/

/-- A line may be replaced by one that holds the same statement and leaves the same
declarations. -/
theorem readLines_replace {symbols : SymbolTable} {before : List Line} {line other : Line}
    (hstatement : (readLineFrom (readLines symbols before).2 other).1.statement? =
      (readLineFrom (readLines symbols before).2 line).1.statement?)
    (hsymbols : (readLineFrom (readLines symbols before).2 other).2 =
      (readLineFrom (readLines symbols before).2 line).2) (behind : List Line) :
    (readLines symbols (before ++ other :: behind)).1.filterMap LineReading.statement? =
        (readLines symbols (before ++ line :: behind)).1.filterMap LineReading.statement? ∧
      (readLines symbols (before ++ other :: behind)).2 =
        (readLines symbols (before ++ line :: behind)).2 := by
  simp only [readLines_append, readLines_cons, hsymbols, List.filterMap_append,
    List.filterMap_cons, hstatement, and_self]

/-- There is one outcome for each line. -/
theorem length_readLines (symbols : SymbolTable) (lines : List Line) :
    (readLines symbols lines).1.length = lines.length := by
  induction lines generalizing symbols with
  | nil => rfl
  | cons line lines ih => rw [readLines_cons, List.length_cons, List.length_cons, ih]

/-- The outcome of a line stands where the line does. -/
theorem getElem?_readLines {symbols : SymbolTable} {before behind : List Line} {line : Line} :
    (readLines symbols (before ++ line :: behind)).1[before.length]? =
      some (readLineFrom (readLines symbols before).2 line).1 := by
  rw [readLines_append, readLines_cons, ← length_readLines symbols before]
  simp

/-- The tokens of a line may be changed to others that hold the same statement and leave the
same declarations. -/
theorem exists_parse_eq {tokens : List Token} {before behind : List Line} {line : Line}
    (hlines : splitLines (closeTokens tokens) = before ++ line :: behind)
    (hne : line.tokens ≠ []) {other : List Token} (hother : ∀ t ∈ other, t.endsLine = false)
    (hstatement :
      (readLineFrom (readLines SymbolTable.empty before).2 ⟨other, line.closing⟩).1.statement? =
        (readLineFrom (readLines SymbolTable.empty before).2 line).1.statement?)
    (hsymbols : (readLineFrom (readLines SymbolTable.empty before).2 ⟨other, line.closing⟩).2 =
      (readLineFrom (readLines SymbolTable.empty before).2 line).2) :
    ∃ ahead after, closeTokens tokens = ahead ++ line.tokens ++ line.closing :: after ∧
      let changed := ahead ++ other ++ line.closing :: after
      splitLines (closeTokens changed) = before ++ ⟨other, line.closing⟩ :: behind ∧
        (parse changed).program = (parse tokens).program ∧
        (parse changed).symbols = (parse tokens).symbols := by
  rcases exists_of_splitLines_append hlines with ⟨ahead, after, hclosed, hchange⟩
  have hmem : line ∈ splitLines (closeTokens tokens) := by simp [hlines]
  have hinside := (not_endsLine_of_mem_splitLines hmem).1
  refine ⟨ahead, after, hclosed, ?_⟩
  intro changed
  have hsplit : splitLines (closeTokens changed) =
      before ++ ⟨other, line.closing⟩ :: behind := by
    rw [closeTokens_of_eq hclosed hne hinside other]
    exact hchange other hother
  have hreplace := readLines_replace hstatement hsymbols behind
  rw [← hsplit, ← hlines] at hreplace
  exact ⟨hsplit, hreplace⟩

/-- The value of an assignment has at most 512 operators, so it is no deeper than that.  While
it is read, no operand is nested deeper than 512 inside another one: those that were could be
read in any way.  The line is given up at most once, as the last that is reported of it, and
exactly if its tokens hold one operator or opening bracket more than 512.  If so, the program
that is read is the one that is read if the line is cut in front of it. -/
theorem assignment_within_limit (tokens : List Token) {target : String} {type : DataType}
    {e : Expr} {n : Nat} (h : .assign target type e n ∈ (parse tokens).program) :
    ∃ before first equals value closing behind,
      splitLines (closeTokens tokens) = before ++ ⟨first :: equals :: value, closing⟩ :: behind ∧
      let scope : Scope := ⟨(readLines SymbolTable.empty before).2, closing⟩
      let outcome := (readLineFrom scope.symbols ⟨first :: equals :: value, closing⟩).1
      (parse tokens).lines[before.length]? = some outcome ∧
      outcome.statement? = some (.assign target type e n) ∧
      (Reading.whole scope type value).expr = e ∧ e.operators ≤ 512 ∧ e.height ≤ 512 ∧
      (∀ beyond, Reading.expression scope 512 (Reading.factorWithin scope beyond 512) type
        (Cursor.start value) = Reading.whole scope type value) ∧
      (∃ earlier m, (∀ d ∈ earlier, d.isRefusal = false) ∧
        outcome.diagnostics = earlier ++
          if 512 < totalCost (expressionUses type value) then
            [.grammar (.expressionTooComplex m 512)]
          else []) ∧
      (512 < totalCost (expressionUses type value) →
        ∃ front t back ahead after, value = front ++ t :: back ∧ RefusedAt type value front t ∧
          closeTokens tokens = ahead ++ first :: equals :: value ++ closing :: after ∧
          let cut := ahead ++ first :: equals :: front ++ closing :: after
          splitLines (closeTokens cut) =
              before ++ ⟨first :: equals :: front, closing⟩ :: behind ∧
            (parse cut).program = (parse tokens).program ∧
            (parse cut).symbols = (parse tokens).symbols ∧
            ((parse cut).lines[before.length]?).bind LineReading.statement? =
              some (.assign target type e n)) := by
  rcases exists_line_of_mem_readLines h with ⟨before, line, behind, hlines, hread⟩
  let symbols := (readLines SymbolTable.empty before).2
  have hmem : line ∈ splitLines (closeTokens tokens) := by simp [hlines]
  have htokens := (not_endsLine_of_mem_splitLines hmem).1
  have houtcome {ts : List Token} {other : Line}
      (hsplit : splitLines (closeTokens ts) = before ++ other :: behind) :
      (parse ts).lines[before.length]? = some (readLineFrom symbols other).1 := by
    rw [parse, parseFrom, hsplit]
    exact getElem?_readLines
  rcases line with ⟨lineTokens, closing⟩
  cases lineTokens with
  | nil => cases hread
  | cons first rest =>
      have hcomposed := composed_readStatement ⟨symbols, closing⟩ first rest
      rcases startsAssignment_of_composed hcomposed hread with
        ⟨equals, value, rfl, hstarts, rfl, rfl, rfl, rfl⟩
      have hvalue : ∀ t ∈ value, t.endsLine = false :=
        fun t ht => htokens t (List.mem_cons_of_mem _ (List.mem_cons_of_mem _ ht))
      let scope : Scope := ⟨symbols, closing⟩
      let type := (symbols.type? first.text).getD .unknown
      have hoperators := Reading.operators_whole_le scope type value
      refine ⟨before, first, equals, value, closing, behind, hlines, houtcome hlines, hread, rfl,
        hoperators, Nat.le_trans (Expr.height_le_operators _) hoperators,
        fun beyond => Reading.whole_eq_factorWithin scope beyond type value,
        diagnostics_assignment hstarts symbols closing hvalue, ?_⟩
      intro hroom
      rcases exists_refusedAt hroom with ⟨t, back, hsplit, hrefused⟩
      have hfront : ∀ u ∈ first :: equals :: Reading.keptTokens type value,
          u.endsLine = false := by
        intro u hu
        apply htokens
        rw [hsplit]
        exact List.mem_append_left (t :: back) hu
      -- Both lines leave the declarations, and the values they assign are the same tree.
      have hkept := readLineFrom_assignment hstarts symbols closing (Reading.keptTokens type value)
      have hwhole := readLineFrom_assignment hstarts symbols closing value
      have hsame := Reading.expr_whole_keptTokens scope type hvalue
      have hstatement : (readLineFrom symbols
            ⟨first :: equals :: Reading.keptTokens type value, closing⟩).1.statement? =
          (readLineFrom symbols ⟨first :: equals :: value, closing⟩).1.statement? := by
        rw [hkept.1, hsame, hwhole.1]
      rcases exists_parse_eq hlines (List.cons_ne_nil _ _) hfront hstatement
        (hkept.2.2.trans hwhole.2.2.symm) with ⟨ahead, after, hclosed, hcut, hprogram, hsymbols⟩
      refine ⟨Reading.keptTokens type value, t, back, ahead, after, hsplit, hrefused, hclosed, hcut,
        hprogram, hsymbols, ?_⟩
      rw [houtcome hcut]
      exact hstatement.trans hread

/-- A line with one sign more than a statement may hold assigns what the 512 before it stand
for. -/
theorem assignment_within_limit_of_overlongLine :
    let e := Nat.repeat Expr.negate 512 .missing
    .assign "A" .unknown e 1 ∈ (parse overlongLine).program ∧
      ∃ before first equals value closing behind,
        splitLines (closeTokens overlongLine) =
          before ++ ⟨first :: equals :: value, closing⟩ :: behind ∧
        let scope : Scope := ⟨(readLines SymbolTable.empty before).2, closing⟩
        let outcome := (readLineFrom scope.symbols ⟨first :: equals :: value, closing⟩).1
        (parse overlongLine).lines[before.length]? = some outcome ∧
        outcome.statement? = some (.assign "A" .unknown e 1) ∧
        (Reading.whole scope .unknown value).expr = e ∧ e.operators ≤ 512 ∧ e.height ≤ 512 ∧
        (∀ beyond, Reading.expression scope 512 (Reading.factorWithin scope beyond 512) .unknown
          (Cursor.start value) = Reading.whole scope .unknown value) ∧
        (∃ earlier m, (∀ d ∈ earlier, d.isRefusal = false) ∧
          outcome.diagnostics = earlier ++
            if 512 < totalCost (expressionUses .unknown value) then
              [.grammar (.expressionTooComplex m 512)]
            else []) ∧
        (512 < totalCost (expressionUses .unknown value) →
          ∃ front t back ahead after, value = front ++ t :: back ∧
            RefusedAt .unknown value front t ∧
            closeTokens overlongLine =
              ahead ++ first :: equals :: value ++ closing :: after ∧
            let cut := ahead ++ first :: equals :: front ++ closing :: after
            splitLines (closeTokens cut) =
                before ++ ⟨first :: equals :: front, closing⟩ :: behind ∧
              (parse cut).program = (parse overlongLine).program ∧
              (parse cut).symbols = (parse overlongLine).symbols ∧
              ((parse cut).lines[before.length]?).bind LineReading.statement? =
                some (.assign "A" .unknown e 1)) := by
  have hmem : .assign "A" .unknown (Nat.repeat Expr.negate 512 .missing) 1 ∈
      (parse overlongLine).program := by
    decide +kernel
  exact ⟨hmem, assignment_within_limit overlongLine hmem⟩

end Primer
