import Primer.Proofs.Grammar.Completeness

/-!
# How the tokens of an expression are used

A token of an expression is an operand, an operator, a sign or a bracket.  Which of them
it is depends on the tokens before it alone: on whether an operand is due, on how many
brackets are open, and on whether a comparison may still come.  One walk over the tokens
decides it, without trees and without reports, whether or not they are an expression.

Main definitions:

- `Use` is a token in its role, or the lack of an operand.
- `Operand` is what an operand stands for: a leaf, or a hole and what caused it.
- `uses` is the walk, and `expressionUses` the walk that the type of a target selects.
- `allot` cuts uses in front of the first one that a limit does not cover; `keptUses` and
  `refusedUse?` are the two parts for the limit of a statement.

Main results:

- Theorem `Operand.expr_eq_missing_iff`: the holes are the operands with a cause.
- Theorem `allot_of_refused`: uses are cut where the limit does not cover one.
- Theorem `uses_unclosed`: brackets that are still open where a row ends do not matter
  any more.
-/

namespace Primer

/-! ## Uses -/

/-- A token in the role it plays in an expression, or the lack of a token. -/
inductive Use where
  /-- An opening bracket in front of an operand. -/
  | opening (t : Token)
  /-- A minus sign in front of an operand. -/
  | sign (t : Token)
  /-- An operator or a comparison between two operands. -/
  | operator (t : Token)
  /-- A bracket that closes an open one. -/
  | closing (t : Token)
  /-- Anything else that stands where an operand is due. -/
  | operand (t : Token)
  /-- The line ends where an operand is due. -/
  | absent
  deriving DecidableEq, Repr

/-- What an operand of one token stands for. -/
inductive Operand where
  | named (name : String)
  | literal (l : Literal)
  /-- Nothing, for the given reason. -/
  | hole (cause : Diagnostic)
  deriving DecidableEq, Repr

namespace Operand

/-- The leaf of the tree that an operand becomes. -/
def expr : Operand → Expr
  | .named name => .named name
  | .literal l => .literal l
  | .hole _ => .missing

/-- What caused a hole. -/
def cause? : Operand → Option Diagnostic
  | .named _ => none
  | .literal _ => none
  | .hole cause => some cause

/-- The holes are the operands with a cause. -/
theorem expr_eq_missing_iff (o : Operand) : o.expr = .missing ↔ o.cause?.isSome = true := by
  cases o <;> simp [expr, cause?]

end Operand

/-- What a token stands for where an operand is due. -/
def Token.operand (t : Token) : Operand :=
  match t.kind with
  | .identifier => .named t.text
  | .number =>
      match Numeral.read? t.text with
      | some n => .literal (.int n)
      | none => .hole (.semantic (.integerOutOfRange t.line t.text))
  | .stringLiteral => .literal (.text t.text)
  | _ => .hole (.grammar (.expectedOperand t.line t.describe))

namespace Use

/-- The token that is used. -/
def token? : Use → Option Token
  | .opening t => some t
  | .sign t => some t
  | .operator t => some t
  | .closing t => some t
  | .operand t => some t
  | .absent => none

/-- How much the use takes of what a statement may hold. -/
def cost : Use → Nat
  | .opening _ => 1
  | .sign _ => 1
  | .operator _ => 1
  | _ => 0

/-- What the use stands for, if it is an operand; the argument is the token that ends the
line. -/
def operand? (closing : Token) : Use → Option Operand
  | .operand t => some t.operand
  | .absent => some (.hole (.grammar (.expectedOperand closing.line closing.describe)))
  | _ => none

/-- The use leaves a hole when it is refused, since an operand was due there. -/
def hole? : Use → Option Expr
  | .opening _ => some .missing
  | .sign _ => some .missing
  | _ => none

/-- In front of an operand only what counts against the limit can be refused. -/
theorem cost_of_hole? {u : Use} {e : Expr} (h : u.hole? = some e) : u.cost = 1 := by
  cases u <;> first | rfl | cases h

/-- What is in front of an operand is none itself. -/
theorem operand?_of_hole? {u : Use} {e : Expr} (h : u.hole? = some e) (closing : Token) :
    u.operand? closing = none := by
  cases u <;> first | rfl | cases h

end Use

/-- What uses take together. -/
def totalCost : List Use → Nat
  | [] => 0
  | u :: us => u.cost + totalCost us

@[simp]
theorem totalCost_nil : totalCost [] = 0 :=
  rfl

@[simp]
theorem totalCost_cons (u : Use) (us : List Use) : totalCost (u :: us) = u.cost + totalCost us :=
  rfl

@[simp]
theorem totalCost_append (front back : List Use) :
    totalCost (front ++ back) = totalCost front + totalCost back := by
  induction front with
  | nil => simp
  | cons u front ih => rw [List.cons_append, totalCost_cons, totalCost_cons, ih, Nat.add_assoc]

/-- The operands among uses. -/
def operandsOf (closing : Token) (us : List Use) : List Operand :=
  us.filterMap (Use.operand? closing)

@[simp]
theorem operandsOf_append (closing : Token) (front back : List Use) :
    operandsOf closing (front ++ back) = operandsOf closing front ++ operandsOf closing back :=
  List.filterMap_append

/-! ## The walk -/

/-- What has to come next. -/
inductive Due where
  | operand
  | operator
  deriving DecidableEq, Repr

/-- The operators that may stand between operands. -/
def Mode.operators : Mode → List BinaryOp
  | .number => Row.sum.ops ++ Row.product.ops
  | .text => Row.concatenation.ops

/-- The mode of the operands of a row. -/
def Row.mode : Row → Mode
  | .product => .number
  | .sum => .number
  | .concatenation => .text

/-- The operators of a row are among those of its mode. -/
theorem Row.mem_operators {row : Row} {op : BinaryOp} (h : op ∈ row.ops) :
    op ∈ row.mode.operators := by
  cases row with
  | product => exact List.mem_append_right _ h
  | sum => exact List.mem_append_left _ h
  | concatenation => exact h

/-- The mode of the operands of an expression that is assigned to a variable of the
type. -/
def Mode.ofType : DataType → Mode
  | .string => .text
  | _ => .number

/-- The token is a comparison. -/
def Token.isComparison (t : Token) : Bool :=
  t.kind == .symbol && (Comparison.ofSymbol? t.text).isSome

/-- The uses of tokens, up to the first token that has none.  The numbers of open brackets
and whether a comparison may still follow are carried along; a comparison leaves all open
brackets behind. -/
def uses (mode : Mode) : Due → Nat → Bool → List Token → List Use
  | .operand, _, _, [] => [.absent]
  | .operand, depth, comparable, t :: rest =>
      if t.isSymbol "(" then .opening t :: uses mode .operand (depth + 1) comparable rest
      else if t.isSymbol "-" && mode == .number then
        .sign t :: uses mode .operand depth comparable rest
      else .operand t :: uses mode .operator depth comparable rest
  | .operator, _, _, [] => []
  | .operator, depth, comparable, t :: rest =>
      if mode.operators.any fun op => t.isSymbol op.symbol then
        .operator t :: uses mode .operand depth comparable rest
      else if comparable && t.isComparison then .operator t :: uses mode .operand 0 false rest
      else if t.isSymbol ")" && depth != 0 then
        .closing t :: uses mode .operator (depth - 1) comparable rest
      else []

/-- The uses of the tokens of an expression that is assigned to a variable of the type. -/
def expressionUses (type : DataType) (tokens : List Token) : List Use :=
  uses (.ofType type) .operand 0 (type == .boolean) tokens

/-! ## The limit -/

/-- The uses that a limit covers, and the one behind them that it does not. -/
def allot : Nat → List Use → List Use × Option Use
  | _, [] => ([], none)
  | limit, u :: us =>
      if limit < u.cost then ([], some u)
      else (u :: (allot (limit - u.cost) us).1, (allot (limit - u.cost) us).2)

/-- What there is room for is used first, and then the rest gets the room left. -/
theorem allot_append {limit : Nat} {front : List Use} (h : totalCost front ≤ limit)
    (back : List Use) :
    allot limit (front ++ back) =
      (front ++ (allot (limit - totalCost front) back).1,
        (allot (limit - totalCost front) back).2) := by
  induction front generalizing limit with
  | nil => simp
  | cons u front ih =>
      rw [totalCost_cons] at h
      have hcost : ¬ limit < u.cost := by omega
      rw [List.cons_append, allot, if_neg hcost, ih (by omega), totalCost_cons, Nat.sub_sub,
        List.cons_append]

/-- All uses are kept if the limit covers them. -/
theorem allot_of_le {limit : Nat} {us : List Use} (h : totalCost us ≤ limit) :
    allot limit us = (us, none) := by
  simpa [allot] using allot_append h []

/-- Uses are cut in front of the first one that the limit does not cover. -/
theorem allot_of_refused {limit : Nat} {front : List Use} {u : Use} (h : totalCost front ≤ limit)
    (hu : limit - totalCost front < u.cost) (back : List Use) :
    allot limit (front ++ u :: back) = (front, some u) := by
  rw [allot_append h, allot, if_pos hu, List.append_nil]

/-- The uses in an expression that a statement has room for. -/
def keptUses (type : DataType) (tokens : List Token) : List Use :=
  (allot growthLimit (expressionUses type tokens)).1

/-- The use behind them, for which the statement has no room. -/
def refusedUse? (type : DataType) (tokens : List Token) : Option Use :=
  (allot growthLimit (expressionUses type tokens)).2

/-! ## One step of the walk -/

namespace Reading

section

variable {mode : Mode} {depth : Nat} {comparable : Bool} {t : Token} {rest : List Token}

/-- An opening bracket is used where an operand is due. -/
theorem uses_opening (h : t.isSymbol "(" = true) :
    uses mode .operand depth comparable (t :: rest) =
      .opening t :: uses mode .operand (depth + 1) comparable rest := by
  simp [uses, h]

/-- A sign is used where a number is due. -/
theorem uses_sign (h : t.isSymbol "-" = true) :
    uses .number .operand depth comparable (t :: rest) =
      .sign t :: uses .number .operand depth comparable rest := by
  have hbracket : t.isSymbol "(" = false := by
    simp [Token.isSymbol, (Token.isSymbol_iff.1 h).2]
  simp [uses, h, hbracket]

/-- Any other token is used as an operand where one is due. -/
theorem uses_operand (hbracket : t.isSymbol "(" = false)
    (hminus : (t.isSymbol "-" && mode.type != .string) = false) :
    uses mode .operand depth comparable (t :: rest) =
      .operand t :: uses mode .operator depth comparable rest := by
  cases mode with
  | number =>
      have hminus : t.isSymbol "-" = false := by simpa [Mode.type] using hminus
      simp [uses, hbracket, hminus]
  | text => simp [uses, hbracket]

/-- An operator is used behind an operand, and the next operand is due. -/
theorem uses_operator {op : BinaryOp} (hop : op ∈ mode.operators)
    (hsign : t.isSymbol op.symbol = true) :
    uses mode .operator depth comparable (t :: rest) =
      .operator t :: uses mode .operand depth comparable rest := by
  have hany : (mode.operators.any fun op => t.isSymbol op.symbol) = true :=
    List.any_eq_true.2 ⟨op, hop, hsign⟩
  rw [uses, if_pos hany]

/-- A row ends in front of a token that is none of its operators. -/
theorem ends_cons_iff {ops : List BinaryOp} :
    Ends ops (t :: rest) ↔ (ops.any fun op => t.isSymbol op.symbol) = false := by
  rw [List.any_eq_false]
  constructor
  · intro h op hop hsign
    have hnone := h ⟨t :: rest, 0, false⟩ rfl
    rw [binaryOp?_of_isSymbol rfl hsign hop] at hnone
    cases hnone
  · intro h c hrest
    cases hop : c.binaryOp? ops with
    | none => rfl
    | some op =>
        rcases Cursor.binaryOp?_eq_some hop with ⟨hmem, u, behind, hbehind, hkind, htext⟩
        rw [hrest] at hbehind
        cases hbehind
        exact absurd (Token.isSymbol_iff.2 ⟨hkind, htext⟩) (h op hmem)

/-- A comparison is used once, outside all brackets. -/
theorem uses_comparison {comparison : Comparison} (h : t.isSymbol comparison.symbol = true) :
    uses mode .operator depth true (t :: rest) =
      .operator t :: uses mode .operand 0 false rest := by
  have hany := ends_cons_iff.1 (ends_comparison h mode.operators rest)
  rcases Token.isSymbol_iff.1 h with ⟨hkind, htext⟩
  have hcomparison : t.isComparison = true := by
    simp [Token.isComparison, hkind, Comparison.ofSymbol?_eq_some_iff.2 htext]
  simp [uses, hany, hcomparison]

/-- A closing bracket is used if one is open. -/
theorem uses_closing (h : t.isSymbol ")" = true) :
    uses mode .operator (depth + 1) comparable (t :: rest) =
      .closing t :: uses mode .operator depth comparable rest := by
  have hany := ends_cons_iff.1 (ends_closing h mode.operators rest)
  have hcomparison : t.isComparison = false := by
    simp [Token.isComparison, (Token.isSymbol_iff.1 h).2, Comparison.ofSymbol?]
  simp [uses, hany, hcomparison, h]

theorem not_isSymbol_of_symbol? {c : Cursor} {symbol : String} (h : c.symbol? ≠ some symbol) :
    ∀ u ∈ c.rest.head?, u.isSymbol symbol = false := by
  intro u hu
  rcases List.head?_eq_some_iff.1 hu with ⟨rest, hrest⟩
  rw [Bool.eq_false_iff]
  intro hsymbol
  rcases Token.isSymbol_iff.1 hsymbol with ⟨hkind, htext⟩
  exact h (by simp [Cursor.symbol?, hrest, hkind, htext])

/-- A bracket that is not closed where its row ends does not matter any more. -/
theorem uses_unclosed {more : List Token} (hends : Ends mode.operators more)
    (hclosing : ∀ u ∈ more.head?, u.isSymbol ")" = false) :
    uses mode .operator (depth + 1) comparable more =
      uses mode .operator depth comparable more := by
  cases more with
  | nil => rfl
  | cons t rest =>
      have hclosing : t.isSymbol ")" = false := hclosing t rfl
      simp [uses, ends_cons_iff.1 hends, hclosing]

end

end Reading
end Primer
