import Primer.Reading.Expression

/-!
# Two readings side by side

An expression is read twice, at positions that have something in common.  As long as the same
symbols are seen at both and there is the same room, both readings take the same way; so what
the operands have in common, the expressions that are built of them have in common as well.

Main definitions:

- `Reading.Simulation` relates the positions, the expressions and the reports of two readings,
  and says what keeps them related.
- `Simulation.Related` says that two readings are related.
- `Simulation.Operands` says what is needed of the ends of lines and of single tokens.

Main results:

- Theorem `Simulation.related_expression`: if operands are read in a related way, so are the
  forms over them.
- Theorem `Simulation.related_factor`: operands are, if their tokens are.
-/

namespace Primer

/-- Equal operands make equal expressions. -/
theorem Expr.binary_congr {left left' right right' : Expr} (op : BinaryOp) (hleft : left' = left)
    (hright : right' = right) : Expr.binary op left' right' = .binary op left right := by
  rw [hleft, hright]

theorem Expr.compare_congr {left left' right right' : Expr} (comparison : Comparison)
    (hleft : left' = left) (hright : right' = right) :
    Expr.compare comparison left' right' = .compare comparison left right := by
  rw [hleft, hright]

namespace Reading

/-- What is kept in common by a reading against `scope` and one against `scope'`. -/
structure Simulation (scope scope' : Scope) where
  Position : Cursor → Cursor → Prop
  Value : Expr → Expr → Prop
  Reports : List Diagnostic → List Diagnostic → Prop
  /-- The same symbols are seen. -/
  symbol?_eq {c c' : Cursor} : Position c c' → c'.symbol? = c.symbol?
  advance {c c' : Cursor} : Position c c' → Position c.advance c'.advance
  /-- There is the same room. -/
  grow? {c c' : Cursor} : Position c c' → Option.Rel Position c.grow? c'.grow?
  giveUp {c c' : Cursor} : Position c c' → Position ⟨[], c.room, true⟩ ⟨[], c'.room, true⟩
  negate {e e' : Expr} : Value e e' → Value (.negate e) (.negate e')
  binary {l l' r r' : Expr} (op : BinaryOp) :
    Value l l' → Value r r' → Value (.binary op l r) (.binary op l' r')
  compare {l l' r r' : Expr} (comparison : Comparison) :
    Value l l' → Value r r' → Value (.compare comparison l r) (.compare comparison l' r')
  missing : Value .missing .missing
  nil : Reports [] []
  append {front front' back back' : List Diagnostic} :
    Reports front front' → Reports back back' → Reports (front ++ back) (front' ++ back')
  tooComplex {c c' : Cursor} : Position c c' →
    Reports [.grammar (.expressionTooComplex (c.peek scope).line growthLimit)]
      [.grammar (.expressionTooComplex (c'.peek scope').line growthLimit)]

namespace Simulation

variable {scope scope' : Scope} (S : Simulation scope scope')

/-- The expressions, the reports and the positions behind them are related. -/
structure Related (r r' : Reading) : Prop where
  expr : S.Value r.expr r'.expr
  reports : S.Reports r.reports r'.reports
  cursor : S.Position r.cursor r'.cursor

variable {S} {c c' : Cursor}

/-- Readings stay related behind related reports. -/
theorem Related.after {r r' : Reading} (h : S.Related r r') {reports reports' : List Diagnostic}
    (hreports : S.Reports reports reports') : S.Related (r.after reports) (r'.after reports') :=
  ⟨h.expr, S.append hreports h.reports, h.cursor⟩

/-- Readings stay related when their trees are built upon in a related way. -/
theorem Related.mapExpr {r r' : Reading} (h : S.Related r r') {f f' : Expr → Expr}
    (hvalue : S.Value (f r.expr) (f' r'.expr)) : S.Related (r.mapExpr f) (r'.mapExpr f') :=
  ⟨hvalue, h.reports, h.cursor⟩

/-- Two lines are given up in a related way at related positions. -/
theorem related_abandon {e e' : Expr} (he : S.Value e e') (hc : S.Position c c') :
    S.Related (abandon scope e c) (abandon scope' e' c') :=
  ⟨he, S.tooComplex hc, S.giveUp hc⟩

/-- At related positions the same operator is seen. -/
theorem binaryOp?_eq (ops : List BinaryOp) (hc : S.Position c c') :
    c'.binaryOp? ops = c.binaryOp? ops := by
  rw [Cursor.binaryOp?, Cursor.binaryOp?, S.symbol?_eq hc]

theorem comparison?_eq (hc : S.Position c c') : c'.comparison? = c.comparison? := by
  rw [Cursor.comparison?, Cursor.comparison?, S.symbol?_eq hc]

/-! ## Forms -/

section

variable {read read' : Cursor → Reading}

/-- Chains of related operands are related. -/
theorem related_chain
    (hread : ∀ ⦃c c' : Cursor⦄, S.Position c c' → S.Related (read c) (read' c'))
    (ops : List BinaryOp) (n : Nat) {left left' : Expr} (hleft : S.Value left left')
    (hc : S.Position c c') :
    S.Related (chain scope ops read n left c) (chain scope' ops read' n left' c') := by
  induction n generalizing left left' c c' with
  | zero =>
      unfold chain
      rw [binaryOp?_eq ops hc]
      cases c.binaryOp? ops with
      | none => exact ⟨hleft, S.nil, hc⟩
      | some op => exact related_abandon hleft (S.advance hc)
  | succ n ih =>
      unfold chain
      rw [binaryOp?_eq ops hc]
      cases c.binaryOp? ops with
      | none => exact ⟨hleft, S.nil, hc⟩
      | some op =>
          have hgrow := S.grow? (S.advance hc)
          generalize c.advance.grow? = inside?, c'.advance.grow? = inside?' at hgrow ⊢
          cases hgrow with
          | none => exact related_abandon hleft (S.advance hc)
          | some hinside =>
              have hright := hread hinside
              exact (ih (S.binary op hleft hright.expr) hright.cursor).after hright.reports

/-- Rows of related operands are related. -/
theorem related_row
    (hread : ∀ ⦃c c' : Cursor⦄, S.Position c c' → S.Related (read c) (read' c'))
    (ops : List BinaryOp) (n : Nat) (hc : S.Position c c') :
    S.Related (row scope ops read n c) (row scope' ops read' n c') :=
  (related_chain hread ops n (hread hc).expr (hread hc).cursor).after (hread hc).reports

end

section

variable {operand operand' : DataType → Cursor → Reading}

theorem related_sum
    (hoperand : ∀ type, ∀ ⦃c c' : Cursor⦄, S.Position c c' →
      S.Related (operand type c) (operand' type c'))
    (n : Nat) (hc : S.Position c c') :
    S.Related (sum scope n operand c) (sum scope' n operand' c') :=
  related_row (fun _ _ => related_row (hoperand .integer) _ n) _ n hc

theorem related_condition
    (hoperand : ∀ type, ∀ ⦃c c' : Cursor⦄, S.Position c c' →
      S.Related (operand type c) (operand' type c'))
    (n : Nat) (hc : S.Position c c') :
    S.Related (condition scope n operand c) (condition scope' n operand' c') := by
  have hleft := related_sum hoperand n hc
  unfold condition
  simp only
  rw [comparison?_eq hleft.cursor]
  cases (sum scope n operand c).cursor.comparison? with
  | none => exact hleft
  | some comparison =>
      have hbehind := S.advance hleft.cursor
      have hgrow := S.grow? hbehind
      generalize (sum scope n operand c).cursor.advance.grow? = inside?,
        (sum scope' n operand' c').cursor.advance.grow? = inside?' at hgrow ⊢
      cases hgrow with
      | none => exact (related_abandon hleft.expr hbehind).after hleft.reports
      | some hinside =>
          have hright := related_sum hoperand n hinside
          refine Related.after (hright.mapExpr ?_) hleft.reports
          exact S.compare comparison hleft.expr hright.expr

/-- If operands are read in a related way, so are the forms over them. -/
theorem related_expression
    (hoperand : ∀ type, ∀ ⦃c c' : Cursor⦄, S.Position c c' →
      S.Related (operand type c) (operand' type c'))
    (n : Nat) (type : DataType) (hc : S.Position c c') :
    S.Related (expression scope n operand type c) (expression scope' n operand' type c') := by
  cases type with
  | boolean => exact related_condition hoperand n hc
  | string => exact related_row (hoperand .string) _ n hc
  | integer => exact related_sum hoperand n hc
  | unknown => exact related_sum hoperand n hc

end

/-! ## Operands -/

/-- Both lines end at related positions, or the tokens there are read in a related way. -/
structure Operands (S : Simulation scope scope') : Prop where
  ends {c c' : Cursor} : S.Position c c' → c.rest = [] →
    c'.rest = [] ∧ S.Related (noOperand scope.closing c) (noOperand scope'.closing c')
  first {c c' : Cursor} {t : Token} {rest : List Token} : S.Position c c' → c.rest = t :: rest →
    ∃ t' rest', c'.rest = t' :: rest' ∧ (∀ symbol, t'.isSymbol symbol = t.isSymbol symbol) ∧
      S.Related (atom scope t c) (atom scope' t' c') ∧
      ∀ {inner inner' : Reading}, S.Related inner inner' →
        S.Related (closeBracket scope t inner) (closeBracket scope' t' inner')

/-- Operands are read in a related way if their tokens are. -/
theorem related_factor (hoperands : S.Operands) (n : Nat) (type : DataType)
    (hc : S.Position c c') : S.Related (factor scope n type c) (factor scope' n type c') := by
  induction n generalizing type c c' with
  | zero =>
      cases hrest : c.rest with
      | nil =>
          obtain ⟨hrest', hmissing⟩ := hoperands.ends hc hrest
          rwa [factor_nil scope 0 type hrest, factor_nil scope' 0 type hrest']
      | cons t rest =>
          obtain ⟨t', rest', hrest', hsymbol, hatom, -⟩ := hoperands.first hc hrest
          unfold factor
          simp only [hrest, hrest', hsymbol]
          split
          · exact related_abandon S.missing (S.advance hc)
          split
          · exact related_abandon S.missing (S.advance hc)
          · exact hatom
  | succ n ih =>
      cases hrest : c.rest with
      | nil =>
          obtain ⟨hrest', hmissing⟩ := hoperands.ends hc hrest
          rwa [factor_nil scope _ type hrest, factor_nil scope' _ type hrest']
      | cons t rest =>
          obtain ⟨t', rest', hrest', hsymbol, hatom, hclose⟩ := hoperands.first hc hrest
          have hgrow := S.grow? (S.advance hc)
          unfold factor
          simp only [hrest, hrest', hsymbol]
          generalize c.advance.grow? = inside?, c'.advance.grow? = inside?' at hgrow ⊢
          split
          · cases hgrow with
            | none => exact related_abandon S.missing (S.advance hc)
            | some hinside =>
                exact hclose (related_expression (fun type _ _ => ih type) n type hinside)
          split
          · cases hgrow with
            | none => exact related_abandon S.missing (S.advance hc)
            | some hinside =>
                have hinner := ih type hinside
                exact hinner.mapExpr (S.negate hinner.expr)
          · exact hatom

/-- The expressions of two statements are read in a related way. -/
theorem related_whole (hoperands : S.Operands) (type : DataType) {tokens tokens' : List Token}
    (hstart : S.Position (Cursor.start tokens) (Cursor.start tokens')) :
    S.Related (whole scope type tokens) (whole scope' type tokens') :=
  related_expression (fun type _ _ => related_factor hoperands growthLimit type) growthLimit type
    hstart

end Simulation
end Reading
end Primer
