import Primer.Line
import Primer.SymbolTable

/-!
# Reading positions

How far the reading of one line has come, and how much its expression may still
grow.

Main definitions:

- `Scope` is what a line is read against: the declared names and the token that
  ends the line.
- `Cursor` is a position in a line.
- `Cursor.grow?` takes one operator or bracket off what is allowed.
- `Reading` is an expression, what was reported on the way, and the position
  behind it.
- `abandon` gives up the rest of a line whose expression has grown too large.

Main results:

- Theorems `binaryOp?_eq_some` and `comparison?_eq_some`: an operator is seen only
  on a token that writes it.
-/

namespace Primer

/-- The most operators and opening brackets that one statement may hold. -/
def growthLimit : Nat :=
  512

/-- What a line is read against. -/
structure Scope where
  symbols : SymbolTable
  /-- The token that ends the line. -/
  closing : Token
  deriving DecidableEq, Repr, Inhabited

/-- A position in a line. -/
structure Cursor where
  /-- The tokens not read yet. -/
  rest : List Token
  /-- How many operators and brackets may still follow. -/
  room : Nat
  /-- The rest of the line was given up. -/
  abandoned : Bool
  deriving DecidableEq, Repr, Inhabited

namespace Cursor

/-- The position in front of the expression of a statement. -/
def start (tokens : List Token) : Cursor :=
  ⟨tokens, growthLimit, false⟩

/-- The token at the position; at the end of the line, the token that ends it. -/
def peek (scope : Scope) (c : Cursor) : Token :=
  c.rest.headD scope.closing

/-- The position behind the next token. -/
def advance (c : Cursor) : Cursor :=
  { c with rest := c.rest.tail }

/-- The same position with one operator or bracket less to follow. -/
def grow? (c : Cursor) : Option Cursor :=
  match c.room with
  | 0 => none
  | room + 1 => some { c with room := room }

/-- The text of the next token, if it is a symbol. -/
def symbol? (c : Cursor) : Option String :=
  match c.rest with
  | [] => none
  | t :: _ => if t.kind = .symbol then some t.text else none

/-- The next token as one of the given operators. -/
def binaryOp? (ops : List BinaryOp) (c : Cursor) : Option BinaryOp :=
  (c.symbol?.bind BinaryOp.ofSymbol?).filter fun op => ops.contains op

/-- The next token as a comparison. -/
def comparison? (c : Cursor) : Option Comparison :=
  c.symbol?.bind Comparison.ofSymbol?

@[simp]
theorem advance_rest (c : Cursor) : c.advance.rest = c.rest.tail :=
  rfl

@[simp]
theorem advance_room (c : Cursor) : c.advance.room = c.room :=
  rfl

@[simp]
theorem advance_abandoned (c : Cursor) : c.advance.abandoned = c.abandoned :=
  rfl

/-- Growing takes one of the room left and nothing else. -/
theorem grow?_eq_some {c c' : Cursor} (h : c.grow? = some c') :
    c'.rest = c.rest ∧ c.room = c'.room + 1 ∧ c'.abandoned = c.abandoned := by
  unfold grow? at h
  split at h
  · cases h
  next room hroom =>
    cases h
    exact ⟨rfl, hroom, rfl⟩

/-- Growing is refused exactly where no room is left. -/
theorem grow?_eq_none_iff {c : Cursor} : c.grow? = none ↔ c.room = 0 := by
  unfold grow?
  split
  next hroom => simp [hroom]
  next room hroom => simp [hroom]

/-- The symbol seen is the text of the next token. -/
theorem symbol?_eq_some {c : Cursor} {text : String} (h : c.symbol? = some text) :
    ∃ t rest, c.rest = t :: rest ∧ t.kind = .symbol ∧ t.text = text := by
  unfold symbol? at h
  split at h
  · cases h
  next t rest hrest =>
    split at h
    next hkind =>
      cases h
      exact ⟨t, rest, hrest, hkind, rfl⟩
    next => cases h

/-- An operator is seen only on a token that writes it. -/
theorem binaryOp?_eq_some {ops : List BinaryOp} {c : Cursor} {op : BinaryOp}
    (h : c.binaryOp? ops = some op) :
    op ∈ ops ∧ ∃ t rest, c.rest = t :: rest ∧ t.kind = .symbol ∧ t.text = op.symbol := by
  unfold binaryOp? at h
  rw [Option.filter_eq_some_iff] at h
  obtain ⟨hop, hmem⟩ := h
  obtain ⟨text, htext, hsymbol⟩ := Option.bind_eq_some_iff.1 hop
  rw [BinaryOp.ofSymbol?_eq_some_iff] at hsymbol
  subst hsymbol
  exact ⟨by simpa using hmem, symbol?_eq_some htext⟩

/-- A comparison is seen only on a token that writes it. -/
theorem comparison?_eq_some {c : Cursor} {comparison : Comparison}
    (h : c.comparison? = some comparison) :
    ∃ t rest, c.rest = t :: rest ∧ t.kind = .symbol ∧ t.text = comparison.symbol := by
  obtain ⟨text, htext, hsymbol⟩ := Option.bind_eq_some_iff.1 h
  rw [Comparison.ofSymbol?_eq_some_iff] at hsymbol
  subst hsymbol
  exact symbol?_eq_some htext

end Cursor

/-- An expression that was read, what was reported on the way, and the position
behind it. -/
structure Reading where
  expr : Expr
  reports : List Diagnostic
  cursor : Cursor
  deriving DecidableEq, Repr, Inhabited

namespace Reading

/-- Put earlier reports in front. -/
def after (reports : List Diagnostic) (r : Reading) : Reading :=
  { r with reports := reports ++ r.reports }

/-- Change the expression only. -/
def mapExpr (f : Expr → Expr) (r : Reading) : Reading :=
  { r with expr := f r.expr }

@[simp]
theorem after_expr (reports : List Diagnostic) (r : Reading) : (r.after reports).expr = r.expr :=
  rfl

@[simp]
theorem after_reports (reports : List Diagnostic) (r : Reading) :
    (r.after reports).reports = reports ++ r.reports :=
  rfl

@[simp]
theorem after_cursor (reports : List Diagnostic) (r : Reading) :
    (r.after reports).cursor = r.cursor :=
  rfl

@[simp]
theorem mapExpr_expr (f : Expr → Expr) (r : Reading) : (r.mapExpr f).expr = f r.expr :=
  rfl

@[simp]
theorem mapExpr_reports (f : Expr → Expr) (r : Reading) : (r.mapExpr f).reports = r.reports :=
  rfl

@[simp]
theorem mapExpr_cursor (f : Expr → Expr) (r : Reading) : (r.mapExpr f).cursor = r.cursor :=
  rfl

/-- Keep the expression as it is and give up the rest of the line, because one
more operator or bracket is not allowed. -/
def abandon (scope : Scope) (e : Expr) (c : Cursor) : Reading :=
  ⟨e, [.grammar (.expressionTooComplex (c.peek scope).line growthLimit)],
    ⟨[], c.room, true⟩⟩

end Reading
end Primer
