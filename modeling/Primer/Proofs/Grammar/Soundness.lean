import Primer.Proofs.Grammar.Composition

/-!
# What is read in silence is grammatical

A reading that reports nothing took tokens that the grammar derives, one after
another and none besides, and used up room for exactly their operators and opening
brackets.

Main definitions:

- `Took` says this of one reading.

Main results:

- Theorem `took_of_composed`: it holds of every reading without reports.
- Theorem `derives_of_whole`: an expression read in silence to the end of its line
  is derived by the grammar.
- Theorem `readsForm_of_composed`: a statement read in silence to the end of
  its line is a statement of the grammar.
-/

namespace Primer
namespace Reading

/-! ## Expressions -/

/-- The reading took the given tokens, and they are what the grammar derives. -/
structure Took (symbols : SymbolTable) (form : Nonterminal) (c : Cursor) (front : List Token)
    (r : Reading) : Prop where
  rest_eq : c.rest = front ++ r.cursor.rest
  derives : Derives symbols form front r.expr
  room_eq : c.room = r.cursor.room + growth front
  not_abandoned : r.cursor.abandoned = false

section

variable {scope : Scope} {form : Nonterminal} {c : Cursor}

/-- An operand of one token took that token. -/
theorem took_of_token {mode : Mode} {t : Token} {rest : List Token} {e : Expr}
    (hrest : c.rest = t :: rest) (hc : c.abandoned = false) (hgrows : t.grows = false)
    (hderives : Derives scope.symbols (.operand mode) [t] e) :
    Took scope.symbols (.operand mode) c [t] ⟨e, [], c.advance⟩ :=
  ⟨by simp [hrest], hderives, by simp [growth_cons_of_not_grows hgrows], hc⟩

/-- If closing a bracket is silent, so is what stands inside it. -/
theorem reports_of_closeBracket {opening : Token} {r : Reading}
    (h : (closeBracket scope opening r).reports = []) : r.reports = [] := by
  unfold closeBracket at h
  split at h
  · exact h
  split at h
  · exact h
  · simp at h

/-- A bracket closed in silence took its tokens as an operand. -/
theorem took_of_closeBracket {mode : Mode} {opening : Token} {rest inner : List Token}
    {inside : Cursor} {r : Reading} (hrest : c.rest = opening :: rest)
    (hopening : opening.isSymbol "(" = true) (hgrow : c.advance.grow? = some inside)
    (hinner : Took scope.symbols mode.bracketed inside inner r)
    (hsilent : (closeBracket scope opening r).reports = []) :
    ∃ front, Took scope.symbols (.operand mode) c front (closeBracket scope opening r) := by
  rcases Cursor.grow?_eq_some hgrow with ⟨hinside, hroom, -⟩
  rw [Cursor.advance_rest, hrest, List.tail_cons] at hinside
  unfold closeBracket at hsilent ⊢
  simp only [hinner.not_abandoned, Bool.false_eq_true, if_false] at hsilent ⊢
  split at hsilent
  next hclosing =>
    rcases Cursor.symbol?_eq_some hclosing with ⟨closing, behind, hbehind, hkind, htext⟩
    have hsymbol : closing.isSymbol ")" = true := Token.isSymbol_iff.2 ⟨hkind, htext⟩
    have htokens : rest = inner ++ closing :: behind := by
      rw [← hinside, hinner.rest_eq, hbehind]
    have hsize : c.room = r.cursor.room + growth inner + 1 := by
      rw [← hinner.room_eq]
      exact hroom
    rw [if_pos hclosing]
    refine ⟨opening :: (inner ++ [closing]), ⟨?_, ?_, ?_, hinner.not_abandoned⟩⟩
    · simp [hrest, htokens, hbehind]
    · exact .bracketed hopening hinner.derives hsymbol
    · rw [growth_cons_of_grows (Token.grows_of_opening hopening), growth_append,
        growth_cons_of_not_grows (Token.not_grows_of_closing hsymbol)]
      simp only [growth_nil, Cursor.advance_room]
      omega
  next hclosing => simp at hsilent

/-- Two parts with one operator between them took the tokens of both and that one. -/
theorem took_of_parts {leftForm rightForm : Nonterminal} {left right r : Reading}
    {front back rest : List Token} {sign : Token} {inside : Cursor}
    (hleft : Took scope.symbols leftForm c front left) (hsign : left.cursor.rest = sign :: rest)
    (hgrows : sign.grows = true) (hgrow : left.cursor.advance.grow? = some inside)
    (hright : Took scope.symbols rightForm inside back right) (hcursor : r.cursor = right.cursor)
    (hderives : Derives scope.symbols form (front ++ sign :: back) r.expr) :
    Took scope.symbols form c (front ++ sign :: back) r := by
  rcases Cursor.grow?_eq_some hgrow with ⟨hinside, hroom, -⟩
  have htokens : rest = back ++ right.cursor.rest := by
    rw [← hright.rest_eq, hinside, Cursor.advance_rest, hsign, List.tail_cons]
  refine ⟨?_, hderives, ?_, hcursor ▸ hright.not_abandoned⟩
  · rw [hleft.rest_eq, hsign, htokens, hcursor]
    simp
  · have hsizeLeft := hleft.room_eq
    have hsizeRight := hright.room_eq
    rw [Cursor.advance_room] at hroom
    rw [growth_append, growth_cons_of_grows hgrows, hcursor]
    omega

/-- A reading without reports took tokens that the grammar derives. -/
theorem took_of_composed {r : Reading} (h : Composed scope form c r) (hc : c.abandoned = false)
    (hsilent : r.reports = []) : ∃ front, Took scope.symbols form c front r := by
  induction h with
  | @named mode c t rest hrest hkind =>
      have hgrows : t.grows = false := Token.not_grows_of_kind (by simp [hkind])
      cases hdeclared : scope.symbols.contains t.text with
      | true => exact ⟨[t], by simpa using took_of_token hrest hc hgrows (.named hkind hdeclared)⟩
      | false => simp [hdeclared] at hsilent
  | literal hrest hliteral =>
      exact ⟨_, took_of_token hrest hc hliteral.not_grows (.literal hliteral)⟩
  | outOfRange hrest hkind hvalue => simp at hsilent
  | absent hends => simp [noOperand] at hsilent
  | misplaced hrest hkind hbracket hminus => simp [noOperand] at hsilent
  | bracketed hrest hbracket hgrow hinner ih =>
      -- A missing bracket would be reported, unless the line was given up.
      rcases Cursor.grow?_eq_some hgrow with ⟨-, -, habandoned⟩
      rcases ih (habandoned.trans hc) (reports_of_closeBracket hsilent) with ⟨inner, htook⟩
      exact took_of_closeBracket hrest hbracket hgrow htook hsilent
  | negated hrest hminus hgrow hinner ih =>
      rcases Cursor.grow?_eq_some hgrow with ⟨hinside, hroom, habandoned⟩
      rcases ih (habandoned.trans hc) hsilent with ⟨inner, htook⟩
      refine ⟨_ :: inner, ⟨?_, .negated hminus htook.derives, ?_, htook.not_abandoned⟩⟩
      · have hinner := htook.rest_eq
        rw [hinside, Cursor.advance_rest, hrest, List.tail_cons] at hinner
        simp [hrest, hinner]
      · have hsize := htook.room_eq
        rw [Cursor.advance_room] at hroom
        rw [growth_cons_of_grows (Token.grows_of_op .sub hminus), mapExpr_cursor]
        omega
  | refused hrest hopens hroom => simp [abandon] at hsilent
  | single h ih =>
      rcases ih hc hsilent with ⟨front, htook⟩
      exact ⟨front, htook.rest_eq, .single htook.derives, htook.room_eq, htook.not_abandoned⟩
  | joined hleft hop hgrow hright ihleft ihright =>
      rcases List.append_eq_nil_iff.1 hsilent with ⟨hleftSilent, hrightSilent⟩
      rcases ihleft hc hleftSilent with ⟨front, hfront⟩
      have hinside := (Cursor.grow?_eq_some hgrow).2.2.trans hfront.not_abandoned
      rcases ihright hinside hrightSilent with ⟨back, hback⟩
      rcases Cursor.binaryOp?_eq_some hop with ⟨hmem, sign, rest, hsign, hkind, htext⟩
      have hsymbol := Token.isSymbol_iff.2 ⟨hkind, htext⟩
      exact ⟨_, took_of_parts hfront hsign (Token.grows_of_op _ hsymbol) hgrow hback rfl
        (.joined hfront.derives hmem hsymbol hback.derives)⟩
  | cutRow hleft hop hroom ih => simp [abandon] at hsilent
  | plain h ih =>
      rcases ih hc hsilent with ⟨front, htook⟩
      exact ⟨front, htook.rest_eq, .plain htook.derives, htook.room_eq, htook.not_abandoned⟩
  | compared hleft hcomparison hgrow hright ihleft ihright =>
      rcases List.append_eq_nil_iff.1 hsilent with ⟨hleftSilent, hrightSilent⟩
      rcases ihleft hc hleftSilent with ⟨front, hfront⟩
      have hinside := (Cursor.grow?_eq_some hgrow).2.2.trans hfront.not_abandoned
      rcases ihright hinside hrightSilent with ⟨back, hback⟩
      rcases Cursor.comparison?_eq_some hcomparison with ⟨sign, rest, hsign, hkind, htext⟩
      have hsymbol := Token.isSymbol_iff.2 ⟨hkind, htext⟩
      exact ⟨_, took_of_parts hfront hsign (Token.grows_of_comparison hsymbol) hgrow hback rfl
        (.compared hfront.derives hsymbol hback.derives)⟩
  | cutCondition hleft hcomparison hroom ih => simp [abandon] at hsilent

end

/-- An expression read in silence to the end of its line is derived by the grammar and
holds no more operators and brackets than allowed. -/
theorem derives_of_whole {scope : Scope} {type : DataType} {tokens : List Token}
    (hsilent : (whole scope type tokens).reports = [])
    (hrest : (whole scope type tokens).cursor.rest = []) :
    Derives scope.symbols (.ofType type) tokens (whole scope type tokens).expr ∧
      growth tokens ≤ 512 := by
  rcases took_of_composed (composed_whole scope type tokens) rfl hsilent with ⟨front, htook⟩
  have htokens : tokens = front := by
    simpa [hrest, Cursor.start] using htook.rest_eq
  subst htokens
  have hsize : 512 = (whole scope type tokens).cursor.room + growth tokens := htook.room_eq
  exact ⟨htook.derives, by omega⟩

end Reading

/-! ## Statements -/

/-- What was read is the statement that the tokens stand for. -/
def ReadsForm (scope : Scope) (tokens : List Token) (r : StatementReading) : Prop :=
  ∃ s, r.statement? = some s ∧ StatementForm scope.symbols tokens s ∧
    r.symbols = scope.symbols.behind s

section

variable {scope : Scope} {t : Token} {rest : List Token}

/-- Declaring a fresh name reads a statement of the grammar. -/
theorem readsForm_of_fresh {type : DataType} {name : Token} (hword : t.kind = .identifier)
    (htype : DataType.ofKeyword? t.text = some type) (hname : name.kind = .identifier)
    (hfresh : scope.symbols.isFresh name.text = true) (reports : List Diagnostic) :
    ReadsForm scope [t, name]
      ⟨some (.declare name.text type t.line), reports, [],
        scope.symbols.declare name.text type⟩ := by
  rcases SymbolTable.isFresh_iff_type?.1 hfresh with ⟨hprint, hinput, hnone⟩
  exact ⟨_, rfl, .declare hword htype hname hprint hinput hnone, rfl⟩

theorem readsForm_of_named {command : Command} {name : Token} {type : DataType}
    (hword : t.kind = .identifier) (htext : t.text = command.keyword)
    (hname : name.kind = .identifier) (htype : scope.symbols.type? name.text = some type)
    (reports : List Diagnostic) :
    ReadsForm scope [t, name]
      ⟨some (.perform command (.named name.text type) t.line), reports, [], scope.symbols⟩ := by
  cases command with
  | print => exact ⟨_, rfl, .printNamed hword htext hname htype, rfl⟩
  | input => exact ⟨_, rfl, .input hword htext hname htype, rfl⟩

/-- An assignment read in silence to the end of the line is a statement of the grammar. -/
theorem readsForm_of_assignment {equals : Token} (htarget : t.kind = .identifier)
    (hkeyword : ¬ IsKeyword t.text) (hequals : equals.isSymbol "=" = true)
    (hsilent : (StatementReading.assignment scope t.text t.line rest).reports = [])
    (hrest : (StatementReading.assignment scope t.text t.line rest).rest = []) :
    ReadsForm scope (t :: equals :: rest)
      (StatementReading.assignment scope t.text t.line rest) := by
  unfold StatementReading.assignment at hsilent hrest ⊢
  rcases List.append_eq_nil_iff.1 hsilent with ⟨hdeclared, hvalue⟩
  cases hcontains : scope.symbols.contains t.text with
  | false => simp [hcontains] at hdeclared
  | true =>
      rcases SymbolTable.contains_iff_type?.1 hcontains with ⟨type, htype⟩
      simp only [htype, Option.getD_some] at hvalue hrest ⊢
      rcases Reading.derives_of_whole hvalue hrest with ⟨hderives, hsize⟩
      exact ⟨_, rfl, .assign htarget hkeyword hequals htype hderives hsize, rfl⟩

/-- Nothing is left of a line behind which nothing is reported. -/
theorem rest_eq_nil_of_trailing? {s : Statement} (h : trailing? (some s) rest = none) :
    rest = [] := by
  cases rest with
  | nil => rfl
  | cons t rest => simp [trailing?] at h

/-- A statement read in silence to the end of its line is one of the grammar. -/
theorem readsForm_of_composed {r : StatementReading} (h : StatementComposed scope t rest r)
    (hsilent : r.reports = []) (htrailing : trailing? r.statement? r.rest = none) :
    ReadsForm scope (t :: rest) r := by
  cases h with
  | invalid => simp [StatementReading.reject] at hsilent
  | @declared type name behind hword htype hname =>
      cases rest_eq_nil_of_trailing? htrailing
      cases hfresh : scope.symbols.isFresh name.text with
      | true => exact readsForm_of_fresh hword htype hname hfresh _
      | false => simp [hfresh] at hsilent
  | nameless => simp [StatementReading.reject] at hsilent
  | @named command name behind hword htext hname =>
      cases rest_eq_nil_of_trailing? htrailing
      unfold StatementReading.variableArgument at hsilent ⊢
      cases htype : scope.symbols.type? name.text with
      | some type => exact readsForm_of_named hword htext hname htype _
      | none => simp [htype] at hsilent
  | printed hword htext hconstant =>
      cases rest_eq_nil_of_trailing? htrailing
      exact ⟨_, rfl, .printLiteral hword htext hconstant, rfl⟩
  | inputLiteral hconstant => simp [StatementReading.reject] at hsilent
  | outOfRange => simp [StatementReading.reject] at hsilent
  | argumentless => simp [StatementReading.reject] at hsilent
  | assigned hword hkeyword hequals =>
      exact readsForm_of_assignment hword hkeyword hequals hsilent
        (rest_eq_nil_of_trailing? htrailing)

end

end Primer
