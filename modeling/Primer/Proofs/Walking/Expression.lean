import Primer.Proofs.Limit.Cutting
import Primer.Proofs.Walking.Steps

/-!
# Walking through an expression

A walker that reads an expression goes where the reading goes: it gives the same
expression, reports the same, and stands in the end at the position behind it.  The depth
to which the reading is bounded plays no part in this, as what a statement may hold is
used up first.

Main definitions:

- `Visit.Follows` says that the steps of an expression go where a reading goes.

Main results:

- Theorems `follows_chain` and `follows_operandOver`: a row is followed if its operands
  are, and an operand if what stands in it is.
- Theorem `follows_factor`: operands are followed.
- Theorem `follows_whole`: the expression of a statement is followed.
-/

namespace Primer
namespace Visit

open Walk

variable {tokens : List Token} {v : Visit tokens} {c inside : Cursor} {t : Token}
  {rest : List Token}

/-- The steps go where the reading goes. -/
def Follows (v : Visit tokens) (m : Walk Expr) (c : Cursor) (r : Reading) : Prop :=
  Leads tokens m (v.walker c) (v.walker r.cursor) r.expr r.reports

namespace Follows

variable {m : Walk Expr} {r : Reading}

/-- Steps behind others follow the reading behind theirs. -/
theorem bind {f : Expr → Walk Expr} {next : Reading} (hm : v.Follows m c r)
    (hf : v.Follows (f r.expr) r.cursor next) : v.Follows (m >>= f) c (next.after r.reports) :=
  Leads.bind hm hf

/-- Building upon the tree takes no further step. -/
theorem mapExpr (hm : v.Follows m c r) (f : Expr → Expr) :
    v.Follows (m >>= fun e => pure (f e)) c (r.mapExpr f) :=
  Leads.silently hm .pure

end Follows

/-! ## Operators -/

theorem leads_takeOperator_none {ops : List BinaryOp} (h : v.Holds c)
    (hop : c.binaryOp? ops = none) :
    Leads tokens (takeOperator ops) (v.walker c) (v.walker c) none [] := by
  rw [Cursor.binaryOp?, v.symbol?_eq c] at hop
  unfold takeOperator
  refine (leads_peek h.rest_suffix).andThen ?_
  by_cases hkind : (c.peek v.scope).kind = .symbol
  · rw [if_pos hkind] at hop ⊢
    rw [Option.bind_some] at hop
    rw [hop]
    exact .pure
  · rw [if_neg hkind]
    exact .pure

/-- The operator that is seen is taken. -/
theorem leads_takeOperator_some {ops : List BinaryOp} {op : BinaryOp} (h : v.Holds c)
    (hop : c.binaryOp? ops = some op) :
    Leads tokens (takeOperator ops) (v.walker c) (v.walker c.advance) (some op) [] := by
  obtain ⟨-, t, rest, hrest, -⟩ := Cursor.binaryOp?_eq_some hop
  rw [Cursor.binaryOp?, v.symbol?_eq c] at hop
  unfold takeOperator
  refine (leads_peek h.rest_suffix).andThen ?_
  by_cases hkind : (c.peek v.scope).kind = .symbol
  · rw [if_pos hkind] at hop ⊢
    rw [Option.bind_some] at hop
    rw [hop]
    exact (leads_advance h.rest_suffix hrest).andThen .pure
  · rw [if_neg hkind] at hop
    cases hop

theorem leads_peekComparison (h : v.Holds c) :
    Leads tokens peekComparison (v.walker c) (v.walker c) c.comparison? [] := by
  rw [Cursor.comparison?, v.symbol?_eq c]
  unfold peekComparison
  refine (leads_peek h.rest_suffix).andThen ?_
  by_cases hkind : (c.peek v.scope).kind = .symbol
  · rw [if_pos hkind, if_pos hkind]
    exact .pure
  · rw [if_neg hkind, if_neg hkind]
    exact .pure

/-- Where there is no room for an operator or bracket, the walker stops as the reading is
given up. -/
theorem leads_grow_abandon (h : v.Holds c) (hrest : c.rest = t :: rest)
    (hgrow : c.advance.grow? = none) (e : Expr) :
    Leads tokens grow (v.walker c.advance)
      (v.walker (Reading.abandon v.scope e c.advance).cursor) false
      (Reading.abandon v.scope e c.advance).reports :=
  leads_grow_none h.advance (h.not_abandoned hrest) hgrow

/-- A bracket or an operator with room is counted. -/
theorem leads_grow_inside (h : v.Holds c) (hrest : c.rest = t :: rest)
    (hgrow : c.advance.grow? = some inside) :
    Leads tokens grow (v.walker c.advance) (v.walker inside) true [] :=
  leads_grow_some h.advance (h.not_abandoned hrest) hgrow

/-! ## Rows and conditions -/

section

variable {r : Row} {n : Nat} {left : Expr} {op : BinaryOp}

/-- A row ends in front of anything but its operators. -/
theorem follows_rowBehind_of_none (h : v.Holds c) (hop : c.binaryOp? r.ops = none) :
    v.Follows (r.walkBehind left) c ⟨left, [], c⟩ := by
  rw [Row.walkBehind]
  exact (leads_takeOperator_none h hop).andThen .pure

/-- A row is given up behind an operator for which there is no room. -/
theorem follows_rowBehind_of_full (h : v.Holds c) (hop : c.binaryOp? r.ops = some op)
    (hgrow : c.advance.grow? = none) :
    v.Follows (r.walkBehind left) c (Reading.abandon v.scope left c.advance) := by
  obtain ⟨-, t, rest, hrest, -⟩ := Cursor.binaryOp?_eq_some hop
  rw [Row.walkBehind]
  refine (leads_takeOperator_some h hop).andThen ?_
  refine (leads_grow_abandon h hrest hgrow left).silently ?_
  exact .pure

/-- A row goes on behind an operator for which there is room. -/
theorem follows_rowBehind_of_grow {right next : Reading} (h : v.Holds c)
    (hop : c.binaryOp? r.ops = some op) (hgrow : c.advance.grow? = some inside)
    (hright : v.Follows r.walkOperand inside right)
    (hnext : v.Follows (r.walkBehind (.binary op left right.expr)) right.cursor next) :
    v.Follows (r.walkBehind left) c (next.after right.reports) := by
  obtain ⟨-, t, rest, hrest, -⟩ := Cursor.binaryOp?_eq_some hop
  rw [Row.walkBehind]
  refine (leads_takeOperator_some h hop).andThen ?_
  refine (leads_grow_inside h hrest hgrow).andThen ?_
  exact hright.bind hnext

variable {read : Cursor → Reading}

/-- A row is followed if its operands are. -/
theorem follows_chain
    (hread : ∀ {c}, v.Holds c → c.room ≤ n → v.Follows r.walkOperand c (read c))
    (hadvances : ∀ c : Cursor, c.Advances (read c).cursor) (m : Nat) (left : Expr)
    (h : v.Holds c) (hm : c.room ≤ m) (hn : c.room ≤ n) :
    v.Follows (r.walkBehind left) c (Reading.chain v.scope r.ops read m left c) := by
  induction m generalizing left c with
  | zero =>
      have hroom : c.room = 0 := Nat.le_zero.1 hm
      cases hop : c.binaryOp? r.ops with
      | none =>
          rw [Reading.chain_of_none hop]
          exact follows_rowBehind_of_none h hop
      | some op =>
          rw [Reading.chain_of_full 0 left hop hroom]
          exact follows_rowBehind_of_full h hop (Cursor.grow?_eq_none_iff.2 hroom)
  | succ m ih =>
      cases hop : c.binaryOp? r.ops with
      | none =>
          rw [Reading.chain_of_none hop]
          exact follows_rowBehind_of_none h hop
      | some op =>
          cases hgrow : c.advance.grow? with
          | none =>
              have hroom : c.room = 0 := Cursor.room_of_advance_grow?_none hgrow
              rw [Reading.chain_of_full (m + 1) left hop hroom]
              exact follows_rowBehind_of_full h hop hgrow
          | some inside =>
              have hinside : v.Holds inside := h.advances (.advance_grow hgrow)
              have hless : c.room = inside.room + 1 := Cursor.room_of_advance_grow? hgrow
              have hle := (hadvances inside).room_le
              have hright := hread hinside (by omega)
              rw [Reading.chain_of_grow m left hop hgrow]
              exact follows_rowBehind_of_grow h hop hgrow hright
                (ih _ (hinside.advances (hadvances inside)) (by omega) (by omega))

/-- A row is walked as it is read. -/
theorem follows_row
    (hread : ∀ {c}, v.Holds c → c.room ≤ n → v.Follows r.walkOperand c (read c))
    (hadvances : ∀ c : Cursor, c.Advances (read c).cursor) (h : v.Holds c) (hn : c.room ≤ n) :
    v.Follows r.walk c (Reading.row v.scope r.ops read n c) := by
  have hle := (hadvances c).room_le
  rw [Row.walk]
  exact (hread h hn).bind
    (follows_chain hread hadvances n _ (h.advances (hadvances c)) (by omega) (by omega))

end

section

variable {n : Nat} {read : DataType → Cursor → Reading}

theorem follows_sum
    (hread : ∀ {type c}, v.Holds c → c.room ≤ n → v.Follows type.walkOperand c (read type c))
    (hadvances : ∀ type, ∀ c : Cursor, c.Advances (read type c).cursor) (h : v.Holds c)
    (hn : c.room ≤ n) : v.Follows Row.sum.walk c (Reading.sum v.scope n read c) := by
  have hoperand {c : Cursor} (h : v.Holds c) (hn : c.room ≤ n) :
      v.Follows Row.product.walkOperand c (read .integer c) := by
    rw [Row.walkOperand]
    exact hread h hn
  have hproduct {c : Cursor} (h : v.Holds c) (hn : c.room ≤ n) :
      v.Follows Row.sum.walkOperand c (Reading.row v.scope [.mul, .div] (read .integer) n c) := by
    rw [Row.walkOperand]
    exact follows_row hoperand (hadvances .integer) h hn
  exact follows_row hproduct (Reading.row_advances (hadvances .integer) n) h hn

theorem follows_condition
    (hread : ∀ {type c}, v.Holds c → c.room ≤ n → v.Follows type.walkOperand c (read type c))
    (hadvances : ∀ type, ∀ c : Cursor, c.Advances (read type c).cursor) (h : v.Holds c)
    (hn : c.room ≤ n) : v.Follows DataType.boolean.walk c (Reading.condition v.scope n read c) := by
  have hleft := follows_sum hread hadvances h hn
  have hleftAdvances : c.Advances (Reading.sum v.scope n read c).cursor :=
    Reading.sum_advances hadvances c
  have hbehind := h.advances hleftAdvances
  have hle := hleftAdvances.room_le
  rw [DataType.walk]
  unfold Reading.condition
  generalize Reading.sum v.scope n read c = left at *
  cases hcomparison : left.cursor.comparison? with
  | none =>
      simp only [hcomparison]
      refine Leads.silently hleft ?_
      refine (leads_peekComparison hbehind).andThen ?_
      rw [hcomparison]
      exact .pure
  | some comparison =>
      obtain ⟨t, rest, hrest, -⟩ := Cursor.comparison?_eq_some hcomparison
      cases hgrow : left.cursor.advance.grow? with
      | none =>
          simp only [hcomparison, hgrow]
          refine hleft.bind ?_
          refine (leads_peekComparison hbehind).andThen ?_
          rw [hcomparison]
          refine (leads_advance hbehind.rest_suffix hrest).andThen ?_
          refine (leads_grow_abandon hbehind hrest hgrow left.expr).silently ?_
          exact .pure
      | some inside =>
          have hinside : v.Holds inside := hbehind.advances (.advance_grow hgrow)
          have hless : left.cursor.room = inside.room + 1 := Cursor.room_of_advance_grow? hgrow
          have hright := follows_sum hread hadvances hinside (by omega)
          simp only [hcomparison, hgrow]
          refine hleft.bind ?_
          refine (leads_peekComparison hbehind).andThen ?_
          rw [hcomparison]
          refine (leads_advance hbehind.rest_suffix hrest).andThen ?_
          refine (leads_grow_inside hbehind hrest hgrow).andThen ?_
          exact hright.mapExpr (.compare comparison left.expr)

/-- An expression is followed if its operands are. -/
theorem follows_expression
    (hread : ∀ {type c}, v.Holds c → c.room ≤ n → v.Follows type.walkOperand c (read type c))
    (hadvances : ∀ type, ∀ c : Cursor, c.Advances (read type c).cursor) (type : DataType)
    (h : v.Holds c) (hn : c.room ≤ n) :
    v.Follows type.walk c (Reading.expression v.scope n read type c) := by
  have htext {c : Cursor} (h : v.Holds c) (hn : c.room ≤ n) :
      v.Follows Row.concatenation.walkOperand c (read .string c) := by
    rw [Row.walkOperand]
    exact hread h hn
  cases type with
  | boolean => exact follows_condition hread hadvances h hn
  | string =>
      rw [DataType.walk]
      exact follows_row htext (hadvances .string) h hn
  | integer =>
      rw [DataType.walk]
      exact follows_sum hread hadvances h hn
  | unknown =>
      rw [DataType.walk]
      exact follows_sum hread hadvances h hn

end

/-! ## Operands -/

/-- A missing operand is reported. -/
theorem follows_noOperand (t : Token) :
    v.Follows (noOperand t) c (Reading.noOperand t c) :=
  (leads_report _).silently .pure

/-- An operand of one token is followed. -/
theorem follows_atom (h : v.Holds c) (hrest : c.rest = t :: rest) :
    v.Follows (atom t) c (Reading.atom v.scope t c) := by
  have hadvance := leads_advance h.rest_suffix hrest
  unfold atom Reading.atom
  cases t.kind with
  | identifier =>
      refine hadvance.andThen ?_
      refine leads_symbols.andThen ?_
      cases hdeclared : v.symbols.contains t.text with
      | true =>
          simp only [scope, hdeclared, if_true]
          exact (leads_reportUnless true _).silently .pure
      | false =>
          simp only [scope, hdeclared, Bool.false_eq_true, if_false]
          exact (leads_reportUnless false _).silently .pure
  | number =>
      refine hadvance.andThen ?_
      cases Numeral.read? t.text with
      | some n => exact .pure
      | none => exact (leads_report _).silently .pure
  | stringLiteral => exact hadvance.andThen .pure
  | symbol => exact hadvance.andThen (follows_noOperand t)
  | unknown => exact hadvance.andThen (follows_noOperand t)
  | endOfLine => exact follows_noOperand t
  | endOfInput => exact follows_noOperand t

/-- The token that ends the line is no operand. -/
theorem follows_atom_closing :
    v.Follows (atom v.line.closing) c (Reading.noOperand v.line.closing c) := by
  unfold atom
  rcases Token.endsLine_iff.1 v.closes with hkind | hkind
  · rw [hkind]
    exact follows_noOperand _
  · rw [hkind]
    exact follows_noOperand _

/-- The symbol that is seen is taken. -/
theorem leads_takeSymbol_some {symbol : String} (h : v.Holds c)
    (hsymbol : c.symbol? = some symbol) :
    Leads tokens (takeSymbol symbol) (v.walker c) (v.walker c.advance) true [] := by
  obtain ⟨t, rest, hrest, hkind, htext⟩ := Cursor.symbol?_eq_some hsymbol
  have htaken : (c.peek v.scope).isSymbol symbol = true := by
    simp [Cursor.peek, hrest, Token.isSymbol, hkind, htext]
  unfold takeSymbol
  refine (leads_peek h.rest_suffix).andThen ?_
  rw [if_pos htaken]
  exact (leads_advance h.rest_suffix hrest).andThen .pure

theorem leads_takeSymbol_none {symbol : String} (h : v.Holds c)
    (hsymbol : c.symbol? ≠ some symbol) :
    Leads tokens (takeSymbol symbol) (v.walker c) (v.walker c) false [] := by
  have hother : ¬ (c.peek v.scope).isSymbol symbol = true := by
    intro htaken
    obtain ⟨hkind, htext⟩ := Token.isSymbol_iff.1 htaken
    exact hsymbol (by rw [v.symbol?_eq c, if_pos hkind, htext])
  unfold takeSymbol
  refine (leads_peek h.rest_suffix).andThen ?_
  rw [if_neg hother]
  exact .pure

/-- The bracket at the end of an operand is taken as the reading takes it. -/
theorem leads_closeBracket (opening : Token) {inner : Reading} (h : v.Holds inner.cursor) :
    ∃ new, (Reading.closeBracket v.scope opening inner).reports = inner.reports ++ new ∧
      Leads tokens (closeBracket opening) (v.walker inner.cursor)
        (v.walker (Reading.closeBracket v.scope opening inner).cursor) () new := by
  unfold closeBracket Reading.closeBracket
  by_cases habandoned : inner.cursor.abandoned = true
  · refine ⟨[], by simp [habandoned], ?_⟩
    refine leads_abandoned.andThen ?_
    rw [if_pos habandoned, if_pos habandoned]
    exact .pure
  by_cases hclosing : inner.cursor.symbol? = some ")"
  · refine ⟨[], by simp [habandoned, hclosing], ?_⟩
    refine leads_abandoned.andThen ?_
    rw [if_neg habandoned, if_neg habandoned, if_pos hclosing]
    exact (leads_takeSymbol_some h hclosing).andThen .pure
  · refine ⟨_, by rw [if_neg habandoned, if_neg hclosing], ?_⟩
    refine leads_abandoned.andThen ?_
    rw [if_neg habandoned, if_neg habandoned, if_neg hclosing]
    refine (leads_takeSymbol_none h hclosing).andThen ?_
    exact (leads_peek h.rest_suffix).andThen (leads_report _)

/-- A bracket is closed, or reported, as it is read. -/
theorem follows_closeBracket {m : Walk Expr} {inner : Reading} (opening : Token)
    (hm : v.Follows m c inner) (h : v.Holds inner.cursor) :
    v.Follows (m >>= fun e => closeBracket opening >>= fun _ => pure e) c
      (Reading.closeBracket v.scope opening inner) := by
  obtain ⟨new, hreports, hclose⟩ := leads_closeBracket opening h
  unfold Follows
  rw [hreports, Reading.closeBracket_expr]
  exact Leads.bind hm (hclose.silently .pure)

/-- An operand is followed if what stands in it is. -/
theorem follows_operandOver {n : Nat} {deeper : DataType → Cursor → Reading} {type : DataType}
    (hinside : ∀ {inside}, c.advance.grow? = some inside →
      v.Follows type.walk inside (Reading.expression v.scope n deeper type inside) ∧
        v.Follows type.walkOperand inside (deeper type inside))
    (hadvances : ∀ type, ∀ c : Cursor, c.Advances (deeper type c).cursor) (h : v.Holds c) :
    v.Follows type.walkOperand c (Reading.operandOver v.scope n deeper type c) := by
  rw [DataType.walkOperand]
  refine (leads_peek h.rest_suffix).andThen ?_
  cases hrest : c.rest with
  | nil =>
      have hpeek : c.peek v.scope = v.line.closing := by simp [Cursor.peek, hrest, scope]
      rw [hpeek, if_neg (by simp), if_neg (by simp), Reading.operandOver_nil hrest]
      exact follows_atom_closing
  | cons t rest =>
      have hpeek : c.peek v.scope = t := by simp [Cursor.peek, hrest]
      rw [hpeek]
      cases hbracket : t.isSymbol "(" with
      | true =>
          rw [if_pos rfl]
          refine (leads_advance h.rest_suffix hrest).andThen ?_
          cases hgrow : c.advance.grow? with
          | none =>
              rw [Reading.operandOver_refused hrest (by simp [hbracket]) hgrow]
              exact (leads_grow_abandon h hrest hgrow .missing).silently .pure
          | some inside =>
              have hopened : v.Holds inside := h.advances (.advance_grow hgrow)
              rw [Reading.operandOver_opening hrest hbracket hgrow]
              refine (leads_grow_inside h hrest hgrow).andThen ?_
              exact follows_closeBracket t (hinside hgrow).1
                (hopened.advances (Reading.expression_advances hadvances type inside))
      | false =>
          rw [if_neg Bool.false_ne_true]
          cases hminus : t.isSymbol "-" && type != .string with
          | true =>
              rw [if_pos rfl]
              refine (leads_advance h.rest_suffix hrest).andThen ?_
              cases hgrow : c.advance.grow? with
              | none =>
                  rw [Reading.operandOver_refused hrest (by simp [hminus]) hgrow]
                  exact (leads_grow_abandon h hrest hgrow .missing).silently .pure
              | some inside =>
                  rw [Reading.operandOver_sign hrest hbracket hminus hgrow]
                  refine (leads_grow_inside h hrest hgrow).andThen ?_
                  exact (hinside hgrow).2.mapExpr .negate
          | false =>
              rw [if_neg Bool.false_ne_true, Reading.operandOver_atom hrest hbracket hminus]
              exact follows_atom h hrest

/-- Operands are followed: what a statement may hold bounds how deep they are nested. -/
theorem follows_factor (n : Nat) (type : DataType) (h : v.Holds c) (hn : c.room ≤ n) :
    v.Follows type.walkOperand c (Reading.factor v.scope n type c) := by
  induction n generalizing type c with
  | zero =>
      have hroom : c.room = 0 := Nat.le_zero.1 hn
      have hfull : c.advance.grow? = none := Cursor.grow?_eq_none_iff.2 hroom
      have hflat : Reading.operandOver v.scope 0 (Reading.factor v.scope 0) type c =
          Reading.factor v.scope 0 type c := Reading.operandOver_of_full hroom
      rw [← hflat]
      refine follows_operandOver ?_ (Reading.factor_advances v.scope 0) h
      intro inside hgrow
      cases hfull.symm.trans hgrow
  | succ n ih =>
      rw [Reading.factor_succ]
      refine follows_operandOver ?_ (Reading.factor_advances v.scope n) h
      intro inside hgrow
      have hinside : v.Holds inside := h.advances (.advance_grow hgrow)
      have hless : c.room = inside.room + 1 := Cursor.room_of_advance_grow? hgrow
      exact ⟨follows_expression (fun h hn => ih _ h hn) (Reading.factor_advances v.scope n) type
        hinside (by omega), ih type hinside (by omega)⟩

/-- The expression of a statement is followed. -/
theorem follows_whole (type : DataType) (h : rest <:+ v.line.tokens) :
    v.Follows type.walk (Cursor.start rest) (Reading.whole v.scope type rest) :=
  follows_expression (fun h hn => follows_factor growthLimit _ h hn)
    (Reading.factor_advances v.scope growthLimit) type (.start h) (Nat.le_refl _)

end Visit
end Primer
