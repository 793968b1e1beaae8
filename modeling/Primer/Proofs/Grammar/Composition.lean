import Primer.Proofs.Grammar.Basic
import Primer.Reading.Program
import Primer.Reading.Progress

/-!
# How a reading is composed

Every reading of an expression is put together, step by step, from the readings of
its parts.  What holds of all readings is shown once for each step.

Main definitions:

- `Composed` relates a form and a position to the readings that the steps build
  there.  A row may be left anywhere between two of its operands.

Main results:

- Theorem `composed_factor`: an operand is read by these steps, as long as the depth
  allowed covers what the statement may still hold.
- Theorem `composed_whole`: the expression of a statement is read by these steps.
- Theorem `Composed.advances`: no step moves back.
- Theorem `exists_composed_of_mem_program`: every statement of a program is one of the
  outcomes of its form.
-/

namespace Primer

/-- The type that stands for a mode when an operand is read. -/
def Mode.type : Mode → DataType
  | .number => .integer
  | .text => .string

namespace Cursor

/-- Behind a bracket or an operator there is less room by one. -/
theorem room_of_advance_grow? {c inside : Cursor} (h : c.advance.grow? = some inside) :
    c.room = inside.room + 1 :=
  (grow?_eq_some h).2.1

theorem room_of_advance_grow?_none {c : Cursor} (h : c.advance.grow? = none) : c.room = 0 :=
  grow?_eq_none_iff (c := c.advance).1 h

end Cursor

namespace Reading

@[simp]
theorem after_nil (r : Reading) : r.after [] = r :=
  rfl

@[simp]
theorem after_after (later earlier : List Diagnostic) (r : Reading) :
    (r.after later).after earlier = r.after (earlier ++ later) := by
  simp [after]

@[simp]
theorem closeBracket_expr (scope : Scope) (opening : Token) (r : Reading) :
    (closeBracket scope opening r).expr = r.expr := by
  unfold closeBracket
  split
  · rfl
  split
  · rfl
  · rfl

/-- The reading is built by the steps of the grammar from the given position on. -/
inductive Composed (scope : Scope) : Nonterminal → Cursor → Reading → Prop where
  | named {mode : Mode} {c : Cursor} {t : Token} {rest : List Token} (hrest : c.rest = t :: rest)
      (hkind : t.kind = .identifier) :
      Composed scope (.operand mode) c
        ⟨.named t.text,
          if scope.symbols.contains t.text then []
          else [.semantic (.undeclaredVariable t.line t.text)], c.advance⟩
  | literal {mode : Mode} {c : Cursor} {t : Token} {rest : List Token} {l : Literal}
      (hrest : c.rest = t :: rest) (hliteral : LiteralForm t l) :
      Composed scope (.operand mode) c ⟨.literal l, [], c.advance⟩
  | outOfRange {mode : Mode} {c : Cursor} {t : Token} {rest : List Token}
      (hrest : c.rest = t :: rest) (hkind : t.kind = .number)
      (hvalue : Numeral.read? t.text = none) :
      Composed scope (.operand mode) c
        ⟨.missing, [.semantic (.integerOutOfRange t.line t.text)], c.advance⟩
  | absent {mode : Mode} {c : Cursor} (hends : (c.peek scope).endsLine = true ∨ c.rest = []) :
      Composed scope (.operand mode) c (noOperand (c.peek scope) c)
  | misplaced {mode : Mode} {c : Cursor} {t : Token} {rest : List Token}
      (hrest : c.rest = t :: rest) (hkind : t.kind = .symbol ∨ t.kind = .unknown)
      (hbracket : t.isSymbol "(" = false)
      (hminus : (t.isSymbol "-" && mode.type != .string) = false) :
      Composed scope (.operand mode) c (noOperand t c.advance)
  | bracketed {mode : Mode} {c inside : Cursor} {t : Token} {rest : List Token} {inner : Reading}
      (hrest : c.rest = t :: rest) (hbracket : t.isSymbol "(" = true)
      (hgrow : c.advance.grow? = some inside)
      (hinner : Composed scope mode.bracketed inside inner) :
      Composed scope (.operand mode) c (closeBracket scope t inner)
  | negated {c inside : Cursor} {t : Token} {rest : List Token} {inner : Reading}
      (hrest : c.rest = t :: rest) (hminus : t.isSymbol "-" = true)
      (hgrow : c.advance.grow? = some inside)
      (hinner : Composed scope (.operand .number) inside inner) :
      Composed scope (.operand .number) c (inner.mapExpr .negate)
  | refused {mode : Mode} {c : Cursor} {t : Token} {rest : List Token} (hrest : c.rest = t :: rest)
      (hopens : t.isSymbol "(" = true ∨ t.isSymbol "-" = true ∧ mode = .number)
      (hroom : c.room = 0) :
      Composed scope (.operand mode) c (abandon scope .missing c.advance)
  | single {row : Row} {c : Cursor} {r : Reading} (h : Composed scope row.operand c r) :
      Composed scope (.row row) c r
  | joined {row : Row} {c inside : Cursor} {left right : Reading} {op : BinaryOp}
      (hleft : Composed scope (.row row) c left)
      (hop : left.cursor.binaryOp? row.ops = some op)
      (hgrow : left.cursor.advance.grow? = some inside)
      (hright : Composed scope row.operand inside right) :
      Composed scope (.row row) c ((right.mapExpr (.binary op left.expr)).after left.reports)
  | cutRow {row : Row} {c : Cursor} {left : Reading} {op : BinaryOp}
      (hleft : Composed scope (.row row) c left)
      (hop : left.cursor.binaryOp? row.ops = some op) (hroom : left.cursor.room = 0) :
      Composed scope (.row row) c
        ((abandon scope left.expr left.cursor.advance).after left.reports)
  | plain {c : Cursor} {r : Reading} (h : Composed scope (.row .sum) c r) :
      Composed scope .condition c r
  | compared {c inside : Cursor} {left right : Reading} {comparison : Comparison}
      (hleft : Composed scope (.row .sum) c left)
      (hcomparison : left.cursor.comparison? = some comparison)
      (hgrow : left.cursor.advance.grow? = some inside)
      (hright : Composed scope (.row .sum) inside right) :
      Composed scope .condition c
        ((right.mapExpr (.compare comparison left.expr)).after left.reports)
  | cutCondition {c : Cursor} {left : Reading} {comparison : Comparison}
      (hleft : Composed scope (.row .sum) c left)
      (hcomparison : left.cursor.comparison? = some comparison) (hroom : left.cursor.room = 0) :
      Composed scope .condition c
        ((abandon scope left.expr left.cursor.advance).after left.reports)

/-- No step moves back. -/
theorem Composed.advances {scope : Scope} {form : Nonterminal} {c : Cursor} {r : Reading}
    (h : Composed scope form c r) : c.Advances r.cursor := by
  induction h with
  | named hrest hkind => exact .advance _
  | literal hrest hliteral => exact .advance _
  | outOfRange hrest hkind hvalue => exact .advance _
  | absent hends => exact .refl _
  | misplaced hrest hkind hbracket hminus => exact .advance _
  | bracketed hrest hbracket hgrow hinner ih =>
      exact closeBracket_advances _ _ ((Cursor.Advances.advance_grow hgrow).trans ih)
  | negated hrest hminus hgrow hinner ih => exact (Cursor.Advances.advance_grow hgrow).trans ih
  | refused hrest hopens hroom => exact abandon_advances ..
  | single h ih => exact ih
  | joined hleft hop hgrow hright ihleft ihright =>
      exact (ihleft.trans (Cursor.Advances.advance_grow hgrow)).trans ihright
  | cutRow hleft hop hroom ih => exact ih.trans (abandon_advances scope .missing _)
  | plain h ih => exact ih
  | compared hleft hcomparison hgrow hright ihleft ihright =>
      exact (ihleft.trans (Cursor.Advances.advance_grow hgrow)).trans ihright
  | cutCondition hleft hcomparison hroom ih => exact ih.trans (abandon_advances scope .missing _)

/-! ## Rows and conditions -/

section

variable {scope : Scope} {n : Nat}

/-- From a row that was read so far, the rest of it is read by the same steps. -/
theorem composed_chain {row : Row} {operand : Cursor → Reading}
    (hoperand : ∀ c : Cursor, c.room ≤ n → Composed scope row.operand c (operand c))
    {start : Cursor} (m : Nat) (left : Reading) (hleft : Composed scope (.row row) start left)
    (hm : left.cursor.room ≤ m) (hn : left.cursor.room ≤ n) :
    Composed scope (.row row) start
      ((chain scope row.ops operand m left.expr left.cursor).after left.reports) := by
  induction m generalizing left with
  | zero =>
      have hroom : left.cursor.room = 0 := by omega
      unfold chain
      cases hop : left.cursor.binaryOp? row.ops with
      | none => simpa [after] using hleft
      | some op => exact .cutRow hleft hop hroom
  | succ m ih =>
      unfold chain
      cases hop : left.cursor.binaryOp? row.ops with
      | none => simpa [after] using hleft
      | some op =>
          cases hgrow : left.cursor.advance.grow? with
          | none => exact .cutRow hleft hop (Cursor.room_of_advance_grow?_none hgrow)
          | some inside =>
              have hinside : left.cursor.room = inside.room + 1 :=
                Cursor.room_of_advance_grow? hgrow
              -- What was read so far is the left operand of the rest of the row.
              have hright := hoperand inside (by omega)
              have hroom : (operand inside).cursor.room ≤ inside.room := hright.advances.room_le
              have hnext := ih _ (.joined hleft hop hgrow hright) (by simp; omega) (by simp; omega)
              simpa using hnext

/-- A row is composed if its operands are, in the room that it has. -/
theorem composed_row (row : Row) {operand : Cursor → Reading}
    (hoperand : ∀ c : Cursor, c.room ≤ n → Composed scope row.operand c (operand c))
    {c : Cursor} (hroom : c.room ≤ n) :
    Composed scope (.row row) c (Reading.row scope row.ops operand n c) := by
  have hfirst := hoperand c hroom
  have hle : (operand c).cursor.room ≤ c.room := hfirst.advances.room_le
  exact composed_chain hoperand n _ (.single hfirst) (by omega) (by omega)

variable {operand : DataType → Cursor → Reading}

theorem composed_sum
    (hoperand : ∀ c : Cursor, c.room ≤ n →
      Composed scope (.operand .number) c (operand .integer c))
    {c : Cursor} (hroom : c.room ≤ n) : Composed scope (.row .sum) c (sum scope n operand c) :=
  composed_row .sum (fun _ h => composed_row .product hoperand h) hroom

theorem composed_condition
    (hoperand : ∀ c : Cursor, c.room ≤ n →
      Composed scope (.operand .number) c (operand .integer c))
    {c : Cursor} (hroom : c.room ≤ n) :
    Composed scope .condition c (condition scope n operand c) := by
  have hleft := composed_sum hoperand hroom
  have hle : (sum scope n operand c).cursor.room ≤ c.room := hleft.advances.room_le
  unfold condition
  simp only
  cases hcomparison : (sum scope n operand c).cursor.comparison? with
  | none => exact .plain hleft
  | some comparison =>
      cases hgrow : (sum scope n operand c).cursor.advance.grow? with
      | none => exact .cutCondition hleft hcomparison (Cursor.room_of_advance_grow?_none hgrow)
      | some inside =>
          have hinside : (sum scope n operand c).cursor.room = inside.room + 1 :=
            Cursor.room_of_advance_grow? hgrow
          exact .compared hleft hcomparison hgrow (composed_sum hoperand (by omega))

/-- The expression that a type selects is read by the steps of its form. -/
theorem composed_expression
    (hoperand : ∀ (mode : Mode) (c : Cursor), c.room ≤ n →
      Composed scope (.operand mode) c (operand mode.type c))
    (type : DataType) {c : Cursor} (hroom : c.room ≤ n) :
    Composed scope (.ofType type) c (expression scope n operand type c) := by
  cases type with
  | boolean => exact composed_condition (hoperand .number) hroom
  | string => exact composed_row .concatenation (hoperand .text) hroom
  | integer => exact composed_sum (hoperand .number) hroom
  | unknown => exact composed_sum (hoperand .number) hroom

end

/-! ## Operands -/

/-- The form read for a mode is the one between its brackets. -/
theorem ofType_type (mode : Mode) : Nonterminal.ofType mode.type = mode.bracketed := by
  cases mode <;> rfl

/-- A minus is a sign among numbers only. -/
theorem minus_of_ne_string {t : Token} {mode : Mode}
    (h : (t.isSymbol "-" && mode.type != .string) = true) :
    t.isSymbol "-" = true ∧ mode = .number := by
  cases mode with
  | number => simpa [Mode.type] using h
  | text => simp [Mode.type] at h

/-- At the end of the line an operand is composed as missing. -/
theorem composed_absent {scope : Scope} {mode : Mode} {c : Cursor} (hrest : c.rest = []) :
    Composed scope (.operand mode) c (noOperand scope.closing c) := by
  have hpeek : c.peek scope = scope.closing := by simp [Cursor.peek, hrest]
  exact hpeek ▸ .absent (.inr hrest)

/-- A token that opens nothing is composed as an operand. -/
theorem composed_atom {scope : Scope} {mode : Mode} {c : Cursor} {t : Token} {rest : List Token}
    (hrest : c.rest = t :: rest) (hbracket : t.isSymbol "(" = false)
    (hminus : (t.isSymbol "-" && mode.type != .string) = false) :
    Composed scope (.operand mode) c (atom scope t c) := by
  have hpeek : c.peek scope = t := by simp [Cursor.peek, hrest]
  unfold atom
  cases hkind : t.kind with
  | identifier =>
      have hnamed : Composed scope (.operand mode) c _ := .named hrest hkind
      cases hdeclared : scope.symbols.contains t.text <;> simpa [hdeclared] using hnamed
  | number =>
      cases hvalue : Numeral.read? t.text with
      | some n => exact .literal hrest (.number hkind hvalue)
      | none => exact .outOfRange hrest hkind hvalue
  | stringLiteral => exact .literal hrest (.text hkind)
  | symbol => exact .misplaced hrest (.inl hkind) hbracket hminus
  | unknown => exact .misplaced hrest (.inr hkind) hbracket hminus
  | endOfLine => exact hpeek ▸ .absent (.inl (by simp [hpeek, Token.endsLine, hkind]))
  | endOfInput => exact hpeek ▸ .absent (.inl (by simp [hpeek, Token.endsLine, hkind]))

/-- An operand is read by the steps of the grammar. -/
theorem composed_factor (scope : Scope) (n : Nat) (mode : Mode) (c : Cursor) (hroom : c.room ≤ n) :
    Composed scope (.operand mode) c (factor scope n mode.type c) := by
  induction n generalizing mode c with
  | zero =>
      have hzero : c.room = 0 := by omega
      unfold factor
      split
      next hrest => exact composed_absent hrest
      next t rest hrest =>
        split
        next hbracket => exact .refused hrest (.inl hbracket) hzero
        next hbracket =>
          split
          next hminus => exact .refused hrest (.inr (minus_of_ne_string hminus)) hzero
          next hminus => exact composed_atom hrest (by simpa using hbracket) (by simpa using hminus)
  | succ n ih =>
      unfold factor
      split
      next hrest => exact composed_absent hrest
      next t rest hrest =>
        split
        next hbracket =>
          cases hgrow : c.advance.grow? with
          | none =>
              exact .refused hrest (.inl hbracket) (Cursor.room_of_advance_grow?_none hgrow)
          | some inside =>
              have hinside : c.room = inside.room + 1 := Cursor.room_of_advance_grow? hgrow
              have hinner := composed_expression ih mode.type (c := inside) (by omega)
              exact .bracketed hrest hbracket hgrow (ofType_type mode ▸ hinner)
        next hbracket =>
          split
          next hminus =>
            rcases minus_of_ne_string hminus with ⟨hsign, rfl⟩
            cases hgrow : c.advance.grow? with
            | none =>
                exact .refused hrest (.inr ⟨hsign, rfl⟩) (Cursor.room_of_advance_grow?_none hgrow)
            | some inside =>
                have hinside : c.room = inside.room + 1 := Cursor.room_of_advance_grow? hgrow
                exact .negated hrest hsign hgrow (ih .number inside (by omega))
          next hminus => exact composed_atom hrest (by simpa using hbracket) (by simpa using hminus)

/-- The expression of a statement is read by the steps of the grammar. -/
theorem composed_whole (scope : Scope) (type : DataType) (tokens : List Token) :
    Composed scope (.ofType type) (Cursor.start tokens) (whole scope type tokens) :=
  composed_expression (fun mode c h => composed_factor scope growthLimit mode c h) type
    (Nat.le_refl _)

end Reading

/-! ## Statements -/

open StatementReading in
/-- The reading of a statement is one of the outcomes of its form, for the first token
and the rest of the line. -/
inductive StatementComposed (scope : Scope) (t : Token) : List Token → StatementReading → Prop where
  | invalid {rest : List Token} :
      StatementComposed scope t rest
        (reject scope (.grammar (.invalidStatement t.line t.describe)) (t :: rest))
  | declared {type : DataType} {name : Token} {behind : List Token} (hword : t.kind = .identifier)
      (htype : DataType.ofKeyword? t.text = some type) (hname : name.kind = .identifier) :
      StatementComposed scope t (name :: behind)
        ⟨some (.declare name.text type t.line),
          if scope.symbols.isFresh name.text then []
          else [.semantic (.invalidDeclaration t.line name.text)],
          behind, scope.symbols.declare name.text type⟩
  | nameless (rest : List Token) :
      StatementComposed scope t rest
        (reject scope (.grammar (.expectedIdentifier t.line (rest.headD scope.closing).describe))
          rest)
  | named {command : Command} {name : Token} {behind : List Token} (hword : t.kind = .identifier)
      (htext : t.text = command.keyword) (hname : name.kind = .identifier) :
      StatementComposed scope t (name :: behind)
        ⟨some (.perform command (variableArgument scope t.line name.text).1 t.line),
          (variableArgument scope t.line name.text).2, behind, scope.symbols⟩
  | printed {constant : Token} {behind : List Token} {l : Literal} (hword : t.kind = .identifier)
      (htext : t.text = "PRINT") (hconstant : LiteralForm constant l) :
      StatementComposed scope t (constant :: behind)
        ⟨some (.perform .print (.literal l) t.line), [], behind, scope.symbols⟩
  | inputLiteral {constant : Token} {behind : List Token} {l : Literal}
      (hconstant : LiteralForm constant l) :
      StatementComposed scope t (constant :: behind)
        (reject scope (.semantic (.invalidArgument t.line .input l.render)) behind)
  | outOfRange {numeral : Token} {behind : List Token} :
      StatementComposed scope t (numeral :: behind)
        (reject scope (.semantic (.integerOutOfRange numeral.line numeral.text)) behind)
  | argumentless {command : Command} (rest : List Token) :
      StatementComposed scope t rest
        (reject scope
          (.semantic (.invalidArgument t.line command (rest.headD scope.closing).describe)) rest)
  | assigned {equals : Token} {value : List Token} (hword : t.kind = .identifier)
      (hkeyword : ¬ IsKeyword t.text) (hequals : equals.isSymbol "=" = true) :
      StatementComposed scope t (equals :: value) (assignment scope t.text t.line value)

section

variable (scope : Scope) (t : Token)

/-- A word that stands for neither a type nor a command is no keyword. -/
theorem not_isKeyword {word : String} (htype : DataType.ofKeyword? word = none)
    (hcommand : Command.ofKeyword? word = none) : ¬ IsKeyword word := by
  rintro (rfl | rfl | rfl | rfl | rfl)
  · cases htype
  · cases htype
  · cases htype
  · cases hcommand
  · cases hcommand

/-- A command with a literal is composed, also one that needs a variable. -/
theorem composed_literalCommand {command : Command} {constant : Token} {l : Literal}
    (hword : t.kind = .identifier) (htext : t.text = command.keyword)
    (hconstant : LiteralForm constant l) (behind : List Token) :
    StatementComposed scope t (constant :: behind)
      (StatementReading.literalCommand scope command t.line l behind) := by
  cases command with
  | print => exact .printed hword htext hconstant
  | input => exact .inputLiteral hconstant

/-- A command is composed, whatever stands behind its keyword. -/
theorem composed_command {command : Command} (hword : t.kind = .identifier)
    (htext : t.text = command.keyword) (rest : List Token) :
    StatementComposed scope t rest (StatementReading.command scope command t.line rest) := by
  unfold StatementReading.command
  cases rest with
  | nil => exact .argumentless []
  | cons argument behind =>
      cases hkind : argument.kind with
      | identifier => simpa [hkind] using .named hword htext hkind
      | number =>
          cases hvalue : Numeral.read? argument.text with
          | none => simpa [hkind, hvalue] using .outOfRange
          | some n =>
              simpa [hkind, hvalue] using
                composed_literalCommand scope t hword htext (.number hkind hvalue) behind
      | stringLiteral =>
          simpa [hkind] using composed_literalCommand scope t hword htext (.text hkind) behind
      | symbol => simpa [hkind] using .argumentless (argument :: behind)
      | unknown => simpa [hkind] using .argumentless (argument :: behind)
      | endOfLine => simpa [hkind] using .argumentless (argument :: behind)
      | endOfInput => simpa [hkind] using .argumentless (argument :: behind)

theorem composed_declaration {type : DataType} (hword : t.kind = .identifier)
    (htype : DataType.ofKeyword? t.text = some type) (rest : List Token) :
    StatementComposed scope t rest (StatementReading.declaration scope type t.line rest) := by
  unfold StatementReading.declaration
  cases rest with
  | nil => exact .nameless []
  | cons name behind =>
      by_cases hname : name.kind = .identifier
      · simpa [hname] using .declared hword htype hname
      · simpa [hname] using .nameless (name :: behind)

/-- A statement is read as one of the outcomes of its form. -/
theorem composed_readStatement (rest : List Token) :
    StatementComposed scope t rest (readStatement scope t rest) := by
  unfold readStatement
  by_cases hword : t.kind = .identifier
  · rw [if_pos hword]
    cases htype : DataType.ofKeyword? t.text with
    | some type => exact composed_declaration scope t hword htype rest
    | none =>
        cases hcommand : Command.ofKeyword? t.text with
        | some command =>
            exact composed_command scope t hword (Command.ofKeyword?_eq_some_iff.1 hcommand) rest
        | none =>
            cases rest with
            | nil => exact .invalid
            | cons equals value =>
                simp only
                split
                next hequals => exact .assigned hword (not_isKeyword htype hcommand) hequals
                next => exact .invalid
  · rw [if_neg hword]
    exact .invalid

end

/-! ## Programs -/

/-- Every statement of the lines is one of the outcomes of its form. -/
theorem exists_composed_of_mem_readLines {symbols : SymbolTable} {lines : List Line} {s : Statement}
    (h : s ∈ (readLines symbols lines).1.filterMap LineReading.statement?) :
    ∃ scope t rest r, StatementComposed scope t rest r ∧ r.statement? = some s := by
  induction lines generalizing symbols with
  | nil => cases h
  | cons line lines ih =>
      rw [readLines_cons, List.mem_filterMap] at h
      rcases h with ⟨outcome, hmem, hs⟩
      rcases List.mem_cons.1 hmem with rfl | hmem
      · rcases line with ⟨tokens, closing⟩
        cases tokens with
        | nil => cases hs
        | cons t rest => exact ⟨_, t, rest, _, composed_readStatement ⟨symbols, closing⟩ t rest, hs⟩
      · exact ih (List.mem_filterMap.2 ⟨outcome, hmem, hs⟩)

/-- Every statement of a program is one of the outcomes of its form. -/
theorem exists_composed_of_mem_program {tokens : List Token} {s : Statement}
    (h : s ∈ (parse tokens).program) :
    ∃ scope t rest r, StatementComposed scope t rest r ∧ r.statement? = some s :=
  exists_composed_of_mem_readLines h

/-- The expression of an assignment is what was read behind the equals sign. -/
theorem exists_whole_of_composed {scope : Scope} {t : Token} {rest : List Token}
    {r : StatementReading} (h : StatementComposed scope t rest r) {target : String}
    {type : DataType} {value : Expr} {line : Nat}
    (hs : r.statement? = some (.assign target type value line)) :
    ∃ tokens, value = (Reading.whole scope type tokens).expr := by
  cases h with
  | invalid => cases hs
  | declared hword htype hname => cases hs
  | nameless => cases hs
  | named hword htext hname => cases hs
  | printed hword htext hconstant => cases hs
  | inputLiteral hconstant => cases hs
  | outOfRange => cases hs
  | argumentless => cases hs
  | @assigned equals tokens hword hkeyword hequals =>
      cases hs
      exact ⟨tokens, rfl⟩

/-- The expressions of a program are read by the steps of the grammar that the types
of their targets select. -/
theorem exists_whole_of_mem_program {tokens : List Token} {target : String} {type : DataType}
    {value : Expr} {line : Nat} (h : .assign target type value line ∈ (parse tokens).program) :
    ∃ scope rest, value = (Reading.whole scope type rest).expr := by
  rcases exists_composed_of_mem_program h with ⟨scope, t, rest, r, hcomposed, hs⟩
  rcases exists_whole_of_composed hcomposed hs with ⟨value, hvalue⟩
  exact ⟨scope, value, hvalue⟩

end Primer
