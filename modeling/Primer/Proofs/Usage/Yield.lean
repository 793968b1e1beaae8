import Primer.Proofs.Usage.Basic

/-!
# What a reading makes of its tokens

A reading makes uses of tokens: the operands among them become the leaves of its tree, one
for one, and the holes among these are what its reports explain.  The uses of two parts
are joined as the parts are.

Main definitions:

- `Expr.leaves` lists the leaves of a tree.
- `Diagnostic.isOperandError` and `Diagnostic.isRefusal` recognize the reports about
  operands and about an expression that has grown too large.
- `Reading.Makes` says that a reading makes given uses of the tokens in front of it.

Main results:

- Theorem `Makes.joined`: two parts with an operator between them make the uses of both.
- Theorems `Makes.closed` and `Makes.unclosed`: a bracket adds no leaf and no report about an
  operand, whether or not it is closed.
- Theorem `makes_atom`: a token that stands for an operand is one use.
-/

namespace Primer

/-- The leaves of an expression, from left to right. -/
def Expr.leaves : Expr → List Expr
  | .literal l => [.literal l]
  | .named name => [.named name]
  | .negate operand => operand.leaves
  | .binary _ left right => left.leaves ++ right.leaves
  | .compare _ left right => left.leaves ++ right.leaves
  | .missing => [.missing]

/-- The diagnostic is about an operand that is not there or has no value. -/
def Diagnostic.isOperandError : Diagnostic → Bool
  | .grammar (.expectedOperand _ _) => true
  | .semantic (.integerOutOfRange _ _) => true
  | _ => false

/-- The diagnostic is about an expression that has grown too large. -/
def Diagnostic.isRefusal : Diagnostic → Bool
  | .grammar (.expressionTooComplex _ _) => true
  | _ => false

namespace Cursor

/-- The line has not been given up, and all that is left of it stands inside it. -/
structure InLine (c : Cursor) : Prop where
  going : c.abandoned = false
  inside : ∀ t ∈ c.rest, t.endsLine = false

/-- Behind a bracket or an operator with room the position is inside the line. -/
theorem InLine.grow {c inside : Cursor} (h : c.InLine) (hgrow : c.advance.grow? = some inside) :
    inside.InLine := by
  rcases grow?_eq_some hgrow with ⟨hrest, -, habandoned⟩
  refine ⟨habandoned.trans h.going, fun t ht => h.inside t ?_⟩
  rw [hrest] at ht
  exact List.mem_of_mem_tail ht

theorem rest_of_advance_grow? {c inside : Cursor} {t : Token} {rest : List Token}
    (hrest : c.rest = t :: rest) (hgrow : c.advance.grow? = some inside) : inside.rest = rest := by
  rw [(grow?_eq_some hgrow).1, advance_rest, hrest, List.tail_cons]

end Cursor

namespace Reading

/-- From a position on, the reading makes the given uses of the tokens there; behind them
one was refused, or none was. -/
structure Makes (scope : Scope) (c : Cursor) (r : Reading) (made : List Use)
    (refused? : Option Use) : Prop where
  leaves : r.expr.leaves =
    (operandsOf scope.closing made).map Operand.expr ++ refused?.toList.filterMap Use.hole?
  causes : r.reports.filter Diagnostic.isOperandError =
    (operandsOf scope.closing made).filterMap Operand.cause?
  /-- What is reported of the refused use is reported last. -/
  refusal : ∃ earlier line, (∀ d ∈ earlier, d.isRefusal = false) ∧
    r.reports = earlier ++ refused?.toList.map fun _ =>
      .grammar (.expressionTooComplex line growthLimit)
  room : totalCost made + r.cursor.room = c.room
  givenUp : ∀ u ∈ refused?, r.cursor.room < u.cost ∧ r.cursor.rest = []
  abandoned : r.cursor.abandoned = refused?.isSome
  rest : refused? = none → c.rest = made.filterMap Use.token? ++ r.cursor.rest

namespace Makes

variable {scope : Scope} {c inside : Cursor} {left r : Reading} {made later : List Use}
  {refused? : Option Use} {t : Token} {rest : List Token}

/-- Uses give no room back. -/
theorem room_le (h : Makes scope c r made refused?) : r.cursor.room ≤ c.room := by
  have hroom := h.room
  omega

/-- Where nothing was refused, reading goes on inside the line. -/
theorem inLine (h : Makes scope c r made none) (hc : c.InLine) : r.cursor.InLine := by
  refine ⟨h.abandoned, fun t ht => hc.inside t ?_⟩
  rw [h.rest rfl]
  exact List.mem_append_right _ ht

/-- Where nothing was refused, no refusal is reported. -/
theorem not_isRefusal (h : Makes scope c r made none) : ∀ d ∈ r.reports, d.isRefusal = false := by
  rcases h.refusal with ⟨earlier, line, hearlier, hreports⟩
  intro d hd
  exact hearlier d (by simpa [hreports] using hd)

/-- An operand of one token, or none. -/
theorem operand {e : Expr} {reports : List Diagnostic} {behind : Cursor} {u : Use} {o : Operand}
    (hc : c.InLine) (hu : u.operand? scope.closing = some o) (hcost : u.cost = 0)
    (he : e.leaves = [o.expr])
    (hreports : reports.filter Diagnostic.isOperandError = o.cause?.toList)
    (hrefusal : ∀ d ∈ reports, d.isRefusal = false) (hroom : behind.room = c.room)
    (habandoned : behind.abandoned = c.abandoned)
    (hrest : c.rest = u.token?.toList ++ behind.rest) :
    Makes scope c ⟨e, reports, behind⟩ [u] none := by
  have hoperands : operandsOf scope.closing [u] = [o] := by simp [operandsOf, hu]
  refine ⟨?_, ?_, ⟨reports, 0, hrefusal, by simp⟩, by simp [hcost, hroom], by simp,
    habandoned.trans hc.going, fun _ => ?_⟩
  · simp [hoperands, he]
  · rw [hoperands, hreports]
    cases o <;> rfl
  · rw [hrest]
    cases u <;> rfl

/-- An opening bracket or a sign in front of what was read behind it. -/
theorem nested {u : Use} {f : Expr → Expr} (hu : u.hole? = some .missing)
    (htoken : u.token? = some t) (hrest : c.rest = t :: rest)
    (hgrow : c.advance.grow? = some inside) (h : Makes scope inside r made refused?)
    (hf : (f r.expr).leaves = r.expr.leaves) :
    Makes scope c (r.mapExpr f) (u :: made) refused? := by
  have hroom : c.room = inside.room + 1 := Cursor.room_of_advance_grow? hgrow
  have hinside : inside.rest = rest := Cursor.rest_of_advance_grow? hrest hgrow
  have hoperands : operandsOf scope.closing (u :: made) = operandsOf scope.closing made :=
    List.filterMap_cons_none (Use.operand?_of_hole? hu scope.closing)
  refine ⟨?_, ?_, h.refusal, ?_, h.givenUp, h.abandoned, fun hnone => ?_⟩
  · rw [hoperands, mapExpr_expr, hf, h.leaves]
  · rw [hoperands, mapExpr_reports, h.causes]
  · rw [totalCost_cons, mapExpr_cursor, hroom, Use.cost_of_hole? hu, ← h.room]
    omega
  · rw [List.filterMap_cons_some htoken, mapExpr_cursor, List.cons_append, ← h.rest hnone, hinside,
      hrest]

/-- Two parts with an operator or a comparison between them. -/
theorem joined {f : Expr → Expr} (hleft : Makes scope c left made none)
    (hrest : left.cursor.rest = t :: rest) (hgrow : left.cursor.advance.grow? = some inside)
    (h : Makes scope inside r later refused?)
    (hf : (f r.expr).leaves = left.expr.leaves ++ r.expr.leaves) :
    Makes scope c ((r.mapExpr f).after left.reports) (made ++ .operator t :: later) refused? := by
  have hroom : left.cursor.room = inside.room + 1 := Cursor.room_of_advance_grow? hgrow
  have hinside : inside.rest = rest := Cursor.rest_of_advance_grow? hrest hgrow
  have hoperands : operandsOf scope.closing (made ++ .operator t :: later) =
      operandsOf scope.closing made ++ operandsOf scope.closing later := operandsOf_append ..
  -- Only the part behind can have been refused, so its refusal stays the last report.
  rcases h.refusal with ⟨earlier, line, hearlier, hlater⟩
  refine ⟨?_, ?_, ⟨left.reports ++ earlier, line, ?_, ?_⟩, ?_, h.givenUp, h.abandoned,
    fun hnone => ?_⟩
  · have hleaves : left.expr.leaves = (operandsOf scope.closing made).map Operand.expr := by
      simpa using hleft.leaves
    rw [hoperands, after_expr, mapExpr_expr, hf, h.leaves, hleaves, List.map_append,
      List.append_assoc]
  · rw [hoperands, after_reports, mapExpr_reports, List.filter_append, hleft.causes, h.causes,
      List.filterMap_append]
  · intro d hd
    rcases List.mem_append.1 hd with hd | hd
    · exact hleft.not_isRefusal d hd
    · exact hearlier d hd
  · rw [after_reports, mapExpr_reports, hlater, List.append_assoc]
  · have hmade := hleft.room
    have hlater := h.room
    simp only [totalCost_append, totalCost_cons, Use.cost, after_cursor, mapExpr_cursor]
    omega
  · rw [hleft.rest rfl, hrest, List.filterMap_append, List.append_assoc, after_cursor,
      mapExpr_cursor]
    simpa [Use.token?, hinside] using h.rest hnone

/-- A part in front of an operator or a comparison that is refused. -/
theorem cut (hleft : Makes scope c left made none) (hroom : left.cursor.room = 0) (t : Token) :
    Makes scope c ((abandon scope left.expr left.cursor.advance).after left.reports) made
      (some (.operator t)) := by
  refine ⟨?_, ?_, ⟨left.reports, _, hleft.not_isRefusal, rfl⟩, hleft.room, ?_, rfl, by simp⟩
  · exact hleft.leaves
  · simpa [abandon, Diagnostic.isOperandError] using hleft.causes
  · simp [abandon, hroom, Use.cost]

/-- Nothing but an opening bracket or a sign that is refused. -/
theorem refused {u : Use} (hu : u.hole? = some .missing) (hroom : c.room = 0) :
    Makes scope c (abandon scope .missing c.advance) [] (some u) := by
  refine ⟨?_, rfl, ⟨[], _, by simp, rfl⟩, by simp [abandon], ?_, rfl, by simp⟩
  · simp [abandon, Expr.leaves, operandsOf, hu]
  · simp [abandon, hroom, Use.cost_of_hole? hu]

/-- What was read is closed by a bracket behind it. -/
theorem closed (h : Makes scope c r made none) (hrest : r.cursor.rest = t :: rest)
    (hclosing : t.isSymbol ")" = true) (opening : Token) :
    Makes scope c (closeBracket scope opening r) (made ++ [.closing t]) none := by
  rcases Token.isSymbol_iff.1 hclosing with ⟨hkind, htext⟩
  have hsymbol : r.cursor.symbol? = some ")" := by simp [Cursor.symbol?, hrest, hkind, htext]
  have hread : closeBracket scope opening r = { r with cursor := r.cursor.advance } := by
    simp [closeBracket, h.abandoned, hsymbol]
  have hoperands : operandsOf scope.closing (made ++ [.closing t]) =
      operandsOf scope.closing made := by
    simp [operandsOf, Use.operand?]
  rw [hread]
  refine ⟨?_, ?_, h.refusal, ?_, by simp, h.abandoned, fun _ => ?_⟩
  · rw [hoperands]
    exact h.leaves
  · rw [hoperands]
    exact h.causes
  · simpa [Use.cost] using h.room
  · simpa [Use.token?, hrest] using h.rest rfl

/-- What was read is not closed; if the line goes on, that is reported. -/
theorem unclosed (h : Makes scope c r made refused?)
    (hclosing : refused? = none → r.cursor.symbol? ≠ some ")") (opening : Token) :
    Makes scope c (closeBracket scope opening r) made refused? := by
  cases refused? with
  | some u =>
      have hread : closeBracket scope opening r = r := by simp [closeBracket, h.abandoned]
      exact hread.symm ▸ h
  | none =>
      have hread : closeBracket scope opening r =
          { r with
            reports := r.reports ++
              [.grammar
                (.missingClosingBracket opening.line (r.cursor.peek scope).describe)] } := by
        simp [closeBracket, h.abandoned, hclosing rfl]
      rw [hread]
      refine ⟨h.leaves, ?_, ⟨_, 0, ?_, (List.append_nil _).symm⟩, h.room, h.givenUp, h.abandoned,
        h.rest⟩
      · simpa [Diagnostic.isOperandError] using h.causes
      · intro d hd
        rcases List.mem_append.1 hd with hd | hd
        · exact h.not_isRefusal d hd
        · rw [List.mem_singleton.1 hd]
          rfl

end Makes

/-! ## Operands -/

section

variable {scope : Scope} {c : Cursor} {t : Token} {rest : List Token}

/-- At the end of the line a reading makes one use, the lack of a token. -/
theorem makes_absent (hc : c.InLine) :
    Makes scope c (noOperand scope.closing c) [.absent] none :=
  .operand hc rfl rfl rfl rfl (by simp [Diagnostic.isRefusal]) rfl rfl rfl

/-- A reading of one token makes one use of it. -/
theorem makes_atom (hc : c.InLine) (hrest : c.rest = t :: rest) :
    Makes scope c (atom scope t c) [.operand t] none := by
  have hends : t.endsLine = false := hc.inside t (by simp [hrest])
  have hmakes {e : Expr} {reports : List Diagnostic} (o : Operand) (ho : t.operand = o)
      (he : e.leaves = [o.expr])
      (hreports : reports.filter Diagnostic.isOperandError = o.cause?.toList)
      (hrefusal : ∀ d ∈ reports, d.isRefusal = false) :
      Makes scope c ⟨e, reports, c.advance⟩ [.operand t] none :=
    .operand hc (congrArg some ho) rfl he hreports hrefusal rfl rfl (by simp [hrest, Use.token?])
  unfold atom
  cases hkind : t.kind with
  | identifier =>
      have hoperand : t.operand = .named t.text := by simp [Token.operand, hkind]
      simp only
      split
      · exact hmakes _ hoperand rfl rfl (by simp)
      · exact hmakes _ hoperand rfl rfl (by simp [Diagnostic.isRefusal])
  | number =>
      cases hvalue : Numeral.read? t.text with
      | some n =>
          have hoperand : t.operand = .literal (.int n) := by simp [Token.operand, hkind, hvalue]
          exact hmakes _ hoperand rfl rfl (by simp)
      | none =>
          have hoperand : t.operand = .hole (.semantic (.integerOutOfRange t.line t.text)) := by
            simp [Token.operand, hkind, hvalue]
          exact hmakes _ hoperand rfl rfl (by simp [Diagnostic.isRefusal])
  | stringLiteral =>
      have hoperand : t.operand = .literal (.text t.text) := by simp [Token.operand, hkind]
      exact hmakes _ hoperand rfl rfl (by simp)
  | symbol =>
      have hoperand : t.operand = .hole (.grammar (.expectedOperand t.line t.describe)) := by
        simp [Token.operand, hkind]
      exact hmakes _ hoperand rfl rfl (by simp [Diagnostic.isRefusal])
  | unknown =>
      have hoperand : t.operand = .hole (.grammar (.expectedOperand t.line t.describe)) := by
        simp [Token.operand, hkind]
      exact hmakes _ hoperand rfl rfl (by simp [Diagnostic.isRefusal])
  | endOfLine => simp [Token.endsLine, hkind] at hends
  | endOfInput => simp [Token.endsLine, hkind] at hends

end

end Reading
end Primer
