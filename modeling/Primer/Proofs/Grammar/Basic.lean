import Primer.Proofs.TokenLines
import Primer.SymbolTable

/-!
# The grammar

Which lists of tokens are expressions, statements and programs, and which tree each
of them stands for.  The grammar is ambiguous nowhere and knows nothing of
reading positions: it joins lists of tokens.

Main definitions:

- `Nonterminal` names the forms of an expression; `Nonterminal.ofType` is the form
  that the type of a target selects.
- `Derives` is the grammar of expressions.
- `growth` counts the operators and opening brackets among tokens.
- `StatementForm` is the grammar of one line, relative to the names declared.
- `ProgramForm` is the grammar of lines, each relative to the declarations of those
  before it; `Grammatical` applies it to the lines of a list of tokens.
-/

namespace Primer

/-! ## Forms of an expression -/

/-- Where an operand stands.  Only among numbers a minus sign may precede it. -/
inductive Mode where
  | number
  | text
  deriving DecidableEq, Repr

/-- A row of operands with operators of one strength between them. -/
inductive Row where
  | product
  | sum
  | concatenation
  deriving DecidableEq, Repr

/-- The forms of an expression. -/
inductive Nonterminal where
  | operand (mode : Mode)
  | row (row : Row)
  /-- A sum, or two sums with a comparison between them. -/
  | condition
  deriving DecidableEq, Repr

/-- The operators between the operands of a row. -/
def Row.ops : Row → List BinaryOp
  | .product => [.mul, .div]
  | .sum => [.add, .sub]
  | .concatenation => [.add]

/-- The form of the operands of a row. -/
def Row.operand : Row → Nonterminal
  | .product => .operand .number
  | .sum => .row .product
  | .concatenation => .operand .text

/-- The form of what stands between brackets. -/
def Mode.bracketed : Mode → Nonterminal
  | .number => .row .sum
  | .text => .row .concatenation

/-- The form of an expression that is assigned to a variable of the type. -/
def Nonterminal.ofType : DataType → Nonterminal
  | .boolean => .condition
  | .string => .row .concatenation
  | .integer => .row .sum
  | .unknown => .row .sum

/-- The token is a constant: a number in range or a text. -/
inductive LiteralForm : Token → Literal → Prop where
  | number {t : Token} {n : Int32} (hkind : t.kind = .number)
      (hvalue : Numeral.read? t.text = some n) : LiteralForm t (.int n)
  | text {t : Token} (hkind : t.kind = .stringLiteral) : LiteralForm t (.text t.text)

/-- The tokens are an expression of the given form, and the tree is what they stand
for.  All names are declared and all numbers in range.  Rows group to the left. -/
inductive Derives (symbols : SymbolTable) : Nonterminal → List Token → Expr → Prop where
  | named {mode : Mode} {t : Token} (hkind : t.kind = .identifier)
      (hdeclared : symbols.contains t.text = true) :
      Derives symbols (.operand mode) [t] (.named t.text)
  | literal {mode : Mode} {t : Token} {l : Literal} (hliteral : LiteralForm t l) :
      Derives symbols (.operand mode) [t] (.literal l)
  | bracketed {mode : Mode} {opening closing : Token} {inner : List Token} {e : Expr}
      (hopening : opening.isSymbol "(" = true) (hinner : Derives symbols mode.bracketed inner e)
      (hclosing : closing.isSymbol ")" = true) :
      Derives symbols (.operand mode) (opening :: (inner ++ [closing])) e
  | negated {minus : Token} {inner : List Token} {e : Expr}
      (hminus : minus.isSymbol "-" = true) (hinner : Derives symbols (.operand .number) inner e) :
      Derives symbols (.operand .number) (minus :: inner) (.negate e)
  | single {row : Row} {tokens : List Token} {e : Expr}
      (h : Derives symbols row.operand tokens e) : Derives symbols (.row row) tokens e
  | joined {row : Row} {front back : List Token} {sign : Token} {op : BinaryOp}
      {left right : Expr} (hfront : Derives symbols (.row row) front left)
      (hop : op ∈ row.ops) (hsign : sign.isSymbol op.symbol = true)
      (hback : Derives symbols row.operand back right) :
      Derives symbols (.row row) (front ++ sign :: back) (.binary op left right)
  | plain {tokens : List Token} {e : Expr} (h : Derives symbols (.row .sum) tokens e) :
      Derives symbols .condition tokens e
  | compared {front back : List Token} {sign : Token} {comparison : Comparison}
      {left right : Expr} (hfront : Derives symbols (.row .sum) front left)
      (hsign : sign.isSymbol comparison.symbol = true)
      (hback : Derives symbols (.row .sum) back right) :
      Derives symbols .condition (front ++ sign :: back) (.compare comparison left right)

/-! ## Size of an expression -/

/-- The token is an operator or an opening bracket. -/
def Token.grows (t : Token) : Bool :=
  t.kind == .symbol && (t.text == "(" || (BinaryOp.ofSymbol? t.text).isSome ||
    (Comparison.ofSymbol? t.text).isSome)

/-- The number of operators and opening brackets. -/
def growth (tokens : List Token) : Nat :=
  tokens.countP Token.grows

@[simp]
theorem growth_nil : growth [] = 0 :=
  rfl

@[simp]
theorem growth_append (front back : List Token) :
    growth (front ++ back) = growth front + growth back :=
  List.countP_append

/-- A token that grows the expression counts one. -/
theorem growth_cons_of_grows {t : Token} (h : t.grows = true) (tokens : List Token) :
    growth (t :: tokens) = growth tokens + 1 :=
  List.countP_cons_of_pos h

theorem growth_cons_of_not_grows {t : Token} (h : t.grows = false) (tokens : List Token) :
    growth (t :: tokens) = growth tokens :=
  List.countP_cons_of_neg (by simp [h])

/-- Only symbols grow an expression. -/
theorem Token.not_grows_of_kind {t : Token} (h : t.kind ≠ .symbol) : t.grows = false := by
  simp [Token.grows, h]

theorem LiteralForm.not_grows {t : Token} {l : Literal} (h : LiteralForm t l) :
    t.grows = false := by
  cases h with
  | number hkind hvalue => exact Token.not_grows_of_kind (by simp [hkind])
  | text hkind => exact Token.not_grows_of_kind (by simp [hkind])

/-- An opening bracket grows it. -/
theorem Token.grows_of_opening {t : Token} (h : t.isSymbol "(" = true) : t.grows = true := by
  rcases Token.isSymbol_iff.1 h with ⟨hkind, htext⟩
  simp [Token.grows, hkind, htext]

theorem Token.not_grows_of_closing {t : Token} (h : t.isSymbol ")" = true) : t.grows = false := by
  rcases Token.isSymbol_iff.1 h with ⟨hkind, htext⟩
  simp [Token.grows, htext, BinaryOp.ofSymbol?, Comparison.ofSymbol?]

/-- The sign of an operator grows it. -/
theorem Token.grows_of_op {t : Token} (op : BinaryOp) (h : t.isSymbol op.symbol = true) :
    t.grows = true := by
  rcases Token.isSymbol_iff.1 h with ⟨hkind, htext⟩
  simp [Token.grows, hkind, BinaryOp.ofSymbol?_eq_some_iff.2 htext]

theorem Token.grows_of_comparison {t : Token} {comparison : Comparison}
    (h : t.isSymbol comparison.symbol = true) : t.grows = true := by
  rcases Token.isSymbol_iff.1 h with ⟨hkind, htext⟩
  simp [Token.grows, hkind, Comparison.ofSymbol?_eq_some_iff.2 htext]

/-! ## Lines and programs -/

/-- The word starts a statement of its own and cannot be assigned to. -/
def IsKeyword (word : String) : Prop :=
  word = "INT" ∨ word = "BOOL" ∨ word = "STRING" ∨ word = "PRINT" ∨ word = "INPUT"

/-- The tokens of a line are a statement, relative to the names declared before. -/
inductive StatementForm (symbols : SymbolTable) : List Token → Statement → Prop where
  | declare {word name : Token} {type : DataType} (hword : word.kind = .identifier)
      (htype : DataType.ofKeyword? word.text = some type) (hname : name.kind = .identifier)
      (hprint : name.text ≠ "PRINT") (hinput : name.text ≠ "INPUT")
      (hfresh : symbols.type? name.text = none) :
      StatementForm symbols [word, name] (.declare name.text type word.line)
  | input {word name : Token} {type : DataType} (hword : word.kind = .identifier)
      (htext : word.text = "INPUT") (hname : name.kind = .identifier)
      (htype : symbols.type? name.text = some type) :
      StatementForm symbols [word, name] (.perform .input (.named name.text type) word.line)
  | printNamed {word name : Token} {type : DataType} (hword : word.kind = .identifier)
      (htext : word.text = "PRINT") (hname : name.kind = .identifier)
      (htype : symbols.type? name.text = some type) :
      StatementForm symbols [word, name] (.perform .print (.named name.text type) word.line)
  | printLiteral {word constant : Token} {l : Literal} (hword : word.kind = .identifier)
      (htext : word.text = "PRINT") (hconstant : LiteralForm constant l) :
      StatementForm symbols [word, constant] (.perform .print (.literal l) word.line)
  | assign {target equals : Token} {tokens : List Token} {type : DataType} {value : Expr}
      (htarget : target.kind = .identifier) (hkeyword : ¬ IsKeyword target.text)
      (hequals : equals.isSymbol "=" = true) (htype : symbols.type? target.text = some type)
      (hvalue : Derives symbols (.ofType type) tokens value) (hsize : growth tokens ≤ 512) :
      StatementForm symbols (target :: equals :: tokens)
        (.assign target.text type value target.line)

/-- A name is not contained exactly if it has no type. -/
theorem SymbolTable.contains_eq_false_iff {table : SymbolTable} {name : String} :
    table.contains name = false ↔ table.type? name = none := by
  unfold contains type?
  cases table.find? name <;> simp

/-- A name may be declared if it starts no command and has no type yet. -/
theorem SymbolTable.isFresh_iff_type? {table : SymbolTable} {name : String} :
    table.isFresh name = true ↔ name ≠ "PRINT" ∧ name ≠ "INPUT" ∧ table.type? name = none := by
  rw [isFresh_iff, contains_eq_false_iff]
  simp [reservedWords, Command.keyword, and_assoc]

/-- The names declared behind a statement. -/
def SymbolTable.behind (symbols : SymbolTable) : Statement → SymbolTable
  | .declare name type _ => symbols.declare name type
  | _ => symbols

/-- Every line is a statement, relative to the declarations of the lines before it. -/
inductive ProgramForm : SymbolTable → List (List Token) → Program → Prop where
  | nil {symbols : SymbolTable} : ProgramForm symbols [] []
  | cons {symbols : SymbolTable} {line : List Token} {lines : List (List Token)} {s : Statement}
      {program : Program} (hline : StatementForm symbols line s)
      (hlines : ProgramForm (symbols.behind s) lines program) :
      ProgramForm symbols (line :: lines) (s :: program)

/-- The tokens are the program, line by line. -/
def Grammatical (tokens : List Token) (program : Program) : Prop :=
  ProgramForm SymbolTable.empty (nonblankLines tokens) program

end Primer
