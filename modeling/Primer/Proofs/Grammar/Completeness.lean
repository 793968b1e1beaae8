import Primer.Proofs.Grammar.Composition

/-!
# What is grammatical is read in silence

Tokens that the grammar derives are read without reports, whatever follows them, as
long as that does not go on with the same row.  The derivation is left-recursive and
the reader is a loop, so a row is described by the loop that is still to run behind
it.

Main definitions:

- `Ends` says that no operator of a row comes next.
- `Recognized` says what reading makes of the tokens of a form.

Main results:

- Theorem `recognized_of_derives`: all that the grammar derives is recognized.
- Theorem `derives_unique`: the grammar is unambiguous.
- Theorem `whole_of_derives`: an expression of the grammar that is small enough is
  read in silence to the end of its line.
- Theorem `readStatement_of_statementForm`: a statement of the grammar is read in
  silence to the end of its line.
-/

namespace Primer
namespace Reading

/-! ## Where a row ends -/

/-- None of the operators comes next. -/
def Ends (ops : List BinaryOp) (more : List Token) : Prop :=
  ∀ c : Cursor, c.rest = more → c.binaryOp? ops = none

/-- No operator comes next that belongs to an operand of the row. -/
def OperandEnds : Row → List Token → Prop
  | .sum, more => Ends [.mul, .div] more
  | .product, _ => True
  | .concatenation, _ => True

/-- An operator of the row is seen in its sign. -/
theorem binaryOp?_of_isSymbol {c : Cursor} {t : Token} {rest : List Token} {op : BinaryOp}
    {ops : List BinaryOp} (hrest : c.rest = t :: rest) (hsign : t.isSymbol op.symbol = true)
    (hop : op ∈ ops) : c.binaryOp? ops = some op := by
  rcases Token.isSymbol_iff.1 hsign with ⟨hkind, htext⟩
  simp [Cursor.binaryOp?, Cursor.symbol?, hrest, hkind, BinaryOp.ofSymbol?_eq_some_iff.2 htext, hop]

theorem comparison?_of_isSymbol {c : Cursor} {t : Token} {rest : List Token}
    {comparison : Comparison} (hrest : c.rest = t :: rest)
    (hsign : t.isSymbol comparison.symbol = true) : c.comparison? = some comparison := by
  rcases Token.isSymbol_iff.1 hsign with ⟨hkind, htext⟩
  simp [Cursor.comparison?, Cursor.symbol?, hrest, hkind, Comparison.ofSymbol?_eq_some_iff.2 htext]

/-- At the end of the line no operator comes. -/
theorem ends_nil (ops : List BinaryOp) : Ends ops [] := by
  intro c hrest
  simp [Cursor.binaryOp?, Cursor.symbol?, hrest]

/-- A token that writes none of the operators ends the row. -/
theorem ends_cons {ops : List BinaryOp} {t : Token} (h : ∀ op ∈ ops, t.text ≠ op.symbol)
    (rest : List Token) : Ends ops (t :: rest) := by
  intro c hrest
  cases hop : c.binaryOp? ops with
  | none => rfl
  | some op =>
      rcases Cursor.binaryOp?_eq_some hop with ⟨hmem, u, behind, hbehind, -, htext⟩
      rw [hrest] at hbehind
      cases hbehind
      exact absurd htext (h op hmem)

theorem ends_closing {t : Token} (h : t.isSymbol ")" = true) (ops : List BinaryOp)
    (rest : List Token) : Ends ops (t :: rest) := by
  refine ends_cons (fun op _ => ?_) rest
  rw [(Token.isSymbol_iff.1 h).2]
  cases op <;> decide

/-- The sign of a comparison is no operator of a row. -/
theorem ends_comparison {t : Token} {comparison : Comparison}
    (h : t.isSymbol comparison.symbol = true) (ops : List BinaryOp) (rest : List Token) :
    Ends ops (t :: rest) := by
  refine ends_cons (fun op _ => ?_) rest
  rw [(Token.isSymbol_iff.1 h).2]
  cases op <;> cases comparison <;> decide

/-- The operand of a row ends in front of an operator of that row. -/
theorem operandEnds_of_op {row : Row} {t : Token} {op : BinaryOp} (hop : op ∈ row.ops)
    (h : t.isSymbol op.symbol = true) (rest : List Token) : OperandEnds row (t :: rest) := by
  cases row with
  | product => trivial
  | concatenation => trivial
  | sum =>
      refine ends_cons (fun other hother => ?_) rest
      rw [(Token.isSymbol_iff.1 h).2]
      simp only [Row.ops, List.mem_cons, List.not_mem_nil, or_false] at hop hother
      rcases hop with rfl | rfl <;> rcases hother with rfl | rfl <;> decide

/-- Where no operator comes at all, none comes that belongs to an operand. -/
theorem operandEnds_of_ends {row : Row} {more : List Token} (h : ∀ ops, Ends ops more) :
    OperandEnds row more := by
  cases row with
  | product => trivial
  | concatenation => trivial
  | sum => exact h _

/-! ## Rows -/

/-- The way in which an operand of the row is read. -/
def readOperand (scope : Scope) (n : Nat) : Row → Cursor → Reading
  | .product => factor scope n .integer
  | .sum => row scope [.mul, .div] (factor scope n .integer) n
  | .concatenation => factor scope n .string

/-- The way in which a row is read. -/
def readRow (scope : Scope) (n : Nat) (r : Row) : Cursor → Reading :=
  row scope r.ops (readOperand scope n r) n

/-- What reading makes of tokens of the form that stand for the expression.  Behind a
row the loop over its operators goes on. -/
def Recognized (scope : Scope) (tokens : List Token) (e : Expr) : Nonterminal → Prop
  | .operand mode =>
      ∀ (n : Nat) (more : List Token) (room : Nat), growth tokens ≤ n →
        factor scope n mode.type ⟨tokens ++ more, room + growth tokens, false⟩ =
          ⟨e, [], ⟨more, room, false⟩⟩
  | .row r =>
      ∀ (n : Nat) (more : List Token) (room : Nat), growth tokens ≤ n → OperandEnds r more →
        ∃ m, n ≤ m + growth tokens ∧
          readRow scope n r ⟨tokens ++ more, room + growth tokens, false⟩ =
            chain scope r.ops (readOperand scope n r) m e ⟨more, room, false⟩
  | .condition =>
      ∀ (n room : Nat), growth tokens ≤ n →
        condition scope n (factor scope n) ⟨tokens, room + growth tokens, false⟩ =
          ⟨e, [], ⟨[], room, false⟩⟩

section

variable {scope : Scope} {tokens : List Token} {e : Expr}

/-- A row is read to its end if no operator of its own comes next either. -/
theorem readRow_of_recognized {r : Row} (h : Recognized scope tokens e (.row r)) (n : Nat)
    (more : List Token) (room : Nat) (hn : growth tokens ≤ n) (hmore : OperandEnds r more)
    (hends : Ends r.ops more) :
    readRow scope n r ⟨tokens ++ more, room + growth tokens, false⟩ =
      ⟨e, [], ⟨more, room, false⟩⟩ := by
  rcases h n more room hn hmore with ⟨m, -, hread⟩
  rw [hread]
  exact chain_of_none (hends _ rfl)

/-- An operand of a row is read to its end. -/
theorem readOperand_of_recognized {r : Row} (h : Recognized scope tokens e r.operand) {n : Nat}
    {more : List Token} (room : Nat) (hn : growth tokens ≤ n) (hmore : OperandEnds r more) :
    readOperand scope n r ⟨tokens ++ more, room + growth tokens, false⟩ =
      ⟨e, [], ⟨more, room, false⟩⟩ := by
  cases r with
  | product => exact h n more room hn
  | concatenation => exact h n more room hn
  | sum => exact readRow_of_recognized (r := .product) h _ _ room hn trivial hmore

/-- The tokens of a sum are read as one, up to where no operator comes. -/
theorem sum_of_recognized (h : Recognized scope tokens e (.row .sum)) (n : Nat)
    (more : List Token) (room : Nat) (hn : growth tokens ≤ n) (hmore : ∀ ops, Ends ops more) :
    sum scope n (factor scope n) ⟨tokens ++ more, room + growth tokens, false⟩ =
      ⟨e, [], ⟨more, room, false⟩⟩ :=
  readRow_of_recognized h n more room hn (operandEnds_of_ends hmore) (hmore _)

theorem recognized_single {r : Row} (h : Recognized scope tokens e r.operand) :
    Recognized scope tokens e (.row r) := by
  intro n more room hn hmore
  refine ⟨n, Nat.le_add_right _ _, ?_⟩
  unfold readRow row
  simp only [readOperand_of_recognized h room hn hmore]
  exact after_nil _

/-- A row goes on with an operator and one more operand. -/
theorem recognized_joined {r : Row} {front back : List Token} {sign : Token} {op : BinaryOp}
    {left right : Expr} (hfront : Recognized scope front left (.row r)) (hop : op ∈ r.ops)
    (hsign : sign.isSymbol op.symbol = true) (hback : Recognized scope back right r.operand) :
    Recognized scope (front ++ sign :: back) (.binary op left right) (.row r) := by
  intro n more room hn hmore
  have hgrowth : growth (front ++ sign :: back) = growth front + growth back + 1 := by
    rw [growth_append, growth_cons_of_grows (Token.grows_of_op _ hsign), Nat.add_assoc]
  -- The row in front leaves `m` of the operators allowed; one of them is this sign.
  obtain ⟨m, hm, hread⟩ := hfront n (sign :: (back ++ more)) (room + growth back + 1) (by omega)
    (operandEnds_of_op hop hsign _)
  obtain ⟨k, rfl⟩ : ∃ k, m = k + 1 := ⟨m - 1, by omega⟩
  refine ⟨k, by omega, ?_⟩
  have hstart : (⟨front ++ sign :: back ++ more, room + growth (front ++ sign :: back), false⟩ :
      Cursor) =
        ⟨front ++ sign :: (back ++ more), room + growth back + 1 + growth front, false⟩ := by
    rw [hgrowth]
    simp only [List.append_assoc, List.cons_append, Cursor.mk.injEq, and_true, true_and]
    omega
  rw [hstart, hread]
  have hoperand := readOperand_of_recognized hback (n := n) room (by omega) hmore
  rw [chain, binaryOp?_of_isSymbol rfl hsign hop]
  simp only [Cursor.advance, Cursor.grow?, List.tail_cons, hoperand, after_nil]

/-! ## Operands -/

/-- What is not of the kind is no symbol. -/
theorem isSymbol_of_kind {t : Token} (h : t.kind ≠ .symbol) (symbol : String) :
    t.isSymbol symbol = false := by
  simp [Token.isSymbol, h]

/-- A token that is no symbol is read as the operand it writes. -/
theorem factor_of_token {t : Token} {r : Reading} (hkind : t.kind ≠ .symbol) (n : Nat)
    (type : DataType) {c : Cursor} {rest : List Token} (hrest : c.rest = t :: rest)
    (hatom : atom scope t c = r) : factor scope n type c = r := by
  unfold factor
  simp [hrest, isSymbol_of_kind hkind, hatom]

/-- A declared name is an operand. -/
theorem recognized_named {mode : Mode} {t : Token} (hkind : t.kind = .identifier)
    (hdeclared : scope.symbols.contains t.text = true) :
    Recognized scope [t] (.named t.text) (.operand mode) := by
  intro n more room hn
  rw [growth_cons_of_not_grows (Token.not_grows_of_kind (by simp [hkind]))]
  refine factor_of_token (by simp [hkind]) n mode.type rfl ?_
  simp [atom, hkind, hdeclared, Cursor.advance]

theorem recognized_literal {mode : Mode} {t : Token} {l : Literal} (h : LiteralForm t l) :
    Recognized scope [t] (.literal l) (.operand mode) := by
  intro n more room hn
  rw [growth_cons_of_not_grows h.not_grows]
  cases h with
  | number hkind hvalue =>
      refine factor_of_token (by simp [hkind]) n mode.type rfl ?_
      simp [atom, hkind, hvalue, Cursor.advance, Expr.int]
  | text hkind =>
      refine factor_of_token (by simp [hkind]) n mode.type rfl ?_
      simp [atom, hkind, Cursor.advance]

/-- What stands between brackets is read up to where no operator comes. -/
theorem expression_of_recognized {mode : Mode} (h : Recognized scope tokens e mode.bracketed)
    (n : Nat) (more : List Token) (room : Nat) (hn : growth tokens ≤ n)
    (hmore : ∀ ops, Ends ops more) :
    expression scope n (factor scope n) mode.type ⟨tokens ++ more, room + growth tokens, false⟩ =
      ⟨e, [], ⟨more, room, false⟩⟩ := by
  cases mode with
  | number => exact sum_of_recognized h n more room hn hmore
  | text => exact readRow_of_recognized (r := .concatenation) h n more room hn trivial (hmore _)

/-- An expression between brackets is an operand. -/
theorem recognized_bracketed {mode : Mode} {opening closing : Token}
    (hopening : opening.isSymbol "(" = true) (hinner : Recognized scope tokens e mode.bracketed)
    (hclosing : closing.isSymbol ")" = true) :
    Recognized scope (opening :: (tokens ++ [closing])) e (.operand mode) := by
  intro n more room hn
  have hgrowth : growth (opening :: (tokens ++ [closing])) = growth tokens + 1 := by
    rw [growth_cons_of_grows (Token.grows_of_opening hopening), growth_append,
      growth_cons_of_not_grows (Token.not_grows_of_closing hclosing)]
    rfl
  rw [hgrowth] at hn ⊢
  obtain ⟨k, rfl⟩ : ∃ k, n = k + 1 := ⟨n - 1, by omega⟩
  have hread := expression_of_recognized hinner k (closing :: more) room (by omega)
    (ends_closing hclosing · more)
  rcases Token.isSymbol_iff.1 hclosing with ⟨hkind, htext⟩
  unfold factor
  simp only [List.cons_append, List.append_assoc, List.nil_append, hopening, if_true,
    Cursor.advance, List.tail_cons, ← Nat.add_assoc, Cursor.grow?, hread]
  simp [closeBracket, Cursor.symbol?, Cursor.advance, hkind, htext]

/-- A number with a sign in front of it is an operand. -/
theorem recognized_negated {minus : Token} (hminus : minus.isSymbol "-" = true)
    (hinner : Recognized scope tokens e (.operand .number)) :
    Recognized scope (minus :: tokens) (.negate e) (.operand .number) := by
  intro n more room hn
  rw [growth_cons_of_grows (Token.grows_of_op .sub hminus)] at hn ⊢
  obtain ⟨k, rfl⟩ : ∃ k, n = k + 1 := ⟨n - 1, by omega⟩
  have hread := hinner k more room (by omega)
  have hopening : minus.isSymbol "(" = false := by
    simp [Token.isSymbol, (Token.isSymbol_iff.1 hminus).2]
  unfold factor
  simp only [List.cons_append, hopening, hminus, Cursor.advance, List.tail_cons, ← Nat.add_assoc,
    Cursor.grow?]
  rw [Mode.type] at hread ⊢
  simp [hread, mapExpr]

/-! ## Conditions -/

theorem recognized_plain (h : Recognized scope tokens e (.row .sum)) :
    Recognized scope tokens e .condition := by
  intro n room hn
  have hread := sum_of_recognized h n [] room hn ends_nil
  rw [List.append_nil] at hread
  simp [condition, hread, Cursor.comparison?, Cursor.symbol?]

/-- Two sums with a comparison between them are a condition. -/
theorem recognized_compared {front back : List Token} {sign : Token} {comparison : Comparison}
    {left right : Expr} (hfront : Recognized scope front left (.row .sum))
    (hsign : sign.isSymbol comparison.symbol = true)
    (hback : Recognized scope back right (.row .sum)) :
    Recognized scope (front ++ sign :: back) (.compare comparison left right) .condition := by
  intro n room hn
  have hgrowth : growth (front ++ sign :: back) = growth front + growth back + 1 := by
    rw [growth_append, growth_cons_of_grows (Token.grows_of_comparison hsign), Nat.add_assoc]
  have hleft := sum_of_recognized hfront n (sign :: back) (room + growth back + 1)
    (by omega) (ends_comparison hsign · back)
  have hright := sum_of_recognized hback n [] room (by omega) ends_nil
  rw [List.append_nil] at hright
  have hseen : Cursor.comparison? ⟨sign :: back, room + growth back + 1, false⟩ =
      some comparison := comparison?_of_isSymbol rfl hsign
  have hroom : room + growth (front ++ sign :: back) = room + growth back + 1 + growth front := by
    omega
  rw [hroom, condition]
  simp only [hleft, hseen, Cursor.advance, List.tail_cons, Cursor.grow?, hright]
  simp [mapExpr]

/-- All that the grammar derives is recognized. -/
theorem recognized_of_derives {form : Nonterminal} (h : Derives scope.symbols form tokens e) :
    Recognized scope tokens e form := by
  induction h with
  | named hkind hdeclared => exact recognized_named hkind hdeclared
  | literal hliteral => exact recognized_literal hliteral
  | bracketed hopening hinner hclosing ih => exact recognized_bracketed hopening ih hclosing
  | negated hminus hinner ih => exact recognized_negated hminus ih
  | single h ih => exact recognized_single ih
  | joined hfront hop hsign hback ihfront ihback =>
      exact recognized_joined ihfront hop hsign ihback
  | plain h ih => exact recognized_plain ih
  | compared hfront hsign hback ihfront ihback => exact recognized_compared ihfront hsign ihback

/-- The tokens of a form stand for one tree at most. -/
theorem derives_unique {form : Nonterminal} {other : Expr}
    (h : Derives scope.symbols form tokens e) (hother : Derives scope.symbols form tokens other) :
    e = other := by
  have hread := recognized_of_derives h
  have hread' := recognized_of_derives hother
  cases form with
  | operand mode =>
      have heq := (hread _ [] 0 (Nat.le_refl _)).symm.trans (hread' _ [] 0 (Nat.le_refl _))
      exact congrArg Reading.expr heq
  | row r =>
      have hends : OperandEnds r [] := operandEnds_of_ends ends_nil
      have heq := (readRow_of_recognized hread _ _ 0 (Nat.le_refl _) hends (ends_nil _)).symm.trans
        (readRow_of_recognized hread' _ _ 0 (Nat.le_refl _) hends (ends_nil _))
      exact congrArg Reading.expr heq
  | condition =>
      have heq := (hread _ 0 (Nat.le_refl _)).symm.trans (hread' _ 0 (Nat.le_refl _))
      exact congrArg Reading.expr heq

/-- An expression of the grammar that is small enough is read in silence, to its end. -/
theorem whole_of_derives {type : DataType} (h : Derives scope.symbols (.ofType type) tokens e)
    (hsize : growth tokens ≤ 512) :
    whole scope type tokens = ⟨e, [], ⟨[], 512 - growth tokens, false⟩⟩ := by
  have hrecognized := recognized_of_derives h
  have hroom : growthLimit = 512 - growth tokens + growth tokens := by
    rw [Nat.sub_add_cancel hsize]
    rfl
  have hrow : ∀ r : Row, Recognized scope tokens e (.row r) →
      readRow scope growthLimit r (Cursor.start tokens) =
        ⟨e, [], ⟨[], 512 - growth tokens, false⟩⟩ := by
    intro r hr
    have hread := readRow_of_recognized hr growthLimit [] (512 - growth tokens)
      hsize (operandEnds_of_ends ends_nil) (ends_nil _)
    rwa [List.append_nil, ← hroom] at hread
  cases type with
  | boolean =>
      have hread := hrecognized growthLimit (512 - growth tokens) hsize
      rwa [← hroom] at hread
  | string => exact hrow .concatenation hrecognized
  | integer => exact hrow .sum hrecognized
  | unknown => exact hrow .sum hrecognized

end

end Reading

/-! ## Statements -/

section

variable {symbols : SymbolTable}

/-- The declaration of a fresh name is read without a report. -/
theorem readStatement_of_declare {word name : Token} {type : DataType} (closing : Token)
    (hword : word.kind = .identifier) (htype : DataType.ofKeyword? word.text = some type)
    (hname : name.kind = .identifier) (hfresh : symbols.isFresh name.text = true) :
    readStatement ⟨symbols, closing⟩ word [name] =
      ⟨some (.declare name.text type word.line), [], [], symbols.declare name.text type⟩ := by
  simp [readStatement, hword, htype, StatementReading.declaration, hname, hfresh]

/-- A word that starts a command is read as that command. -/
theorem readStatement_of_command {word : Token} (command : Command) (scope : Scope)
    (hword : word.kind = .identifier) (htext : word.text = command.keyword) (rest : List Token) :
    readStatement scope word rest = StatementReading.command scope command word.line rest := by
  have htype : DataType.ofKeyword? command.keyword = none := by
    cases command <;> decide
  have hcommand : Command.ofKeyword? command.keyword = some command :=
    Command.ofKeyword?_eq_some_iff.2 rfl
  simp [readStatement, hword, htext, htype, hcommand]

/-- A command with a declared name is read without a report. -/
theorem command_of_named {command : Command} {name : Token} {type : DataType} (closing : Token)
    (hname : name.kind = .identifier) (htype : symbols.type? name.text = some type) (line : Nat) :
    StatementReading.command ⟨symbols, closing⟩ command line [name] =
      ⟨some (.perform command (.named name.text type) line), [], [], symbols⟩ := by
  simp [StatementReading.command, hname, StatementReading.variableArgument, htype]

theorem command_of_literal {constant : Token} {l : Literal} (closing : Token)
    (h : LiteralForm constant l) (line : Nat) :
    StatementReading.command ⟨symbols, closing⟩ .print line [constant] =
      ⟨some (.perform .print (.literal l) line), [], [], symbols⟩ := by
  cases h with
  | number hkind hvalue =>
      simp [StatementReading.command, hkind, hvalue, StatementReading.literalCommand]
  | text hkind => simp [StatementReading.command, hkind, StatementReading.literalCommand]

/-- A word that is no keyword stands for neither a type nor a command. -/
theorem ofKeyword?_of_not_isKeyword {word : String} (h : ¬ IsKeyword word) :
    DataType.ofKeyword? word = none ∧ Command.ofKeyword? word = none := by
  simp only [IsKeyword, not_or] at h
  simp [DataType.ofKeyword?, Command.ofKeyword?, h]

/-- The assignment to a declared name of an expression within the limit is read without a report. -/
theorem readStatement_of_assign {target equals : Token} {tokens : List Token} {type : DataType}
    {value : Expr} (closing : Token) (htarget : target.kind = .identifier)
    (hkeyword : ¬ IsKeyword target.text) (hequals : equals.isSymbol "=" = true)
    (htype : symbols.type? target.text = some type)
    (hvalue : Derives symbols (.ofType type) tokens value) (hsize : growth tokens ≤ 512) :
    readStatement ⟨symbols, closing⟩ target (equals :: tokens) =
      ⟨some (.assign target.text type value target.line), [], [], symbols⟩ := by
  rcases ofKeyword?_of_not_isKeyword hkeyword with ⟨hdeclaration, hcommand⟩
  have hcontains : symbols.contains target.text = true :=
    SymbolTable.contains_iff_type?.2 ⟨type, htype⟩
  have hread : Reading.whole ⟨symbols, closing⟩ type tokens = _ :=
    Reading.whole_of_derives hvalue hsize
  simp [readStatement, htarget, hdeclaration, hcommand, hequals, StatementReading.assignment, htype,
    hread, hcontains]

/-- A statement of the grammar is read in silence to the end of its line. -/
theorem readStatement_of_statementForm {t : Token} {rest : List Token} {s : Statement}
    (h : StatementForm symbols (t :: rest) s) (closing : Token) :
    readStatement ⟨symbols, closing⟩ t rest = ⟨some s, [], [], symbols.behind s⟩ := by
  cases h with
  | declare hword htype hname hprint hinput hfresh =>
      exact readStatement_of_declare closing hword htype hname
        (SymbolTable.isFresh_iff_type?.2 ⟨hprint, hinput, hfresh⟩)
  | input hword htext hname htype =>
      rw [readStatement_of_command .input _ hword htext]
      exact command_of_named closing hname htype _
  | printNamed hword htext hname htype =>
      rw [readStatement_of_command .print _ hword htext]
      exact command_of_named closing hname htype _
  | printLiteral hword htext hconstant =>
      rw [readStatement_of_command .print _ hword htext]
      exact command_of_literal closing hconstant _
  | assign htarget hkeyword hequals htype hvalue hsize =>
      exact readStatement_of_assign closing htarget hkeyword hequals htype hvalue hsize

end

end Primer
