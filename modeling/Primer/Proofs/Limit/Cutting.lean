import Primer.Proofs.Limit.Nesting
import Primer.Proofs.Usage.Following

/-!
# Cutting a line at the limit

An expression that grows too large is given up in front of the first token for which there
is no room.  The tree that is kept is the one that the tokens in front of it stand for:
reading these alone goes through the same steps, and stops where the line now ends.

Main definitions:

- `Cursor.cut` leaves of a line only the tokens that the walk uses and that there is room
  for.
- `Reading.Retraced` says that one reading is another one of a line that is cut so.

Main results:

- Theorem `prefix_rest_cut`: a line that is cut is an initial part of the line.
- Theorem `retraced_chain`: a row is read up to where the line is cut.
- Theorem `retraces_factor`: so is an operand.
- Theorem `expr_whole_keptTokens`: an expression is the same tree when it is cut.
-/

namespace Primer

/-! ## Cutting -/

/-- What there is room for comes first among the uses. -/
theorem prefix_allot (limit : Nat) (us : List Use) : (allot limit us).1 <+: us := by
  induction us generalizing limit with
  | nil => exact List.prefix_refl _
  | cons u us ih =>
      unfold allot
      split
      · exact List.nil_prefix
      · exact (List.prefix_cons_inj u).2 (ih _)

/-- The tokens that are used stand in front, in their order. -/
theorem prefix_tokens_uses (mode : Mode) (due : Due) (depth : Nat) (comparable : Bool)
    (tokens : List Token) :
    (uses mode due depth comparable tokens).filterMap Use.token? <+: tokens := by
  induction tokens generalizing due depth comparable with
  | nil => cases due <;> exact List.prefix_refl _
  | cons t rest ih =>
      have hcons (u : Use) (hu : u.token? = some t) (due : Due) (depth : Nat) (comparable : Bool) :
          (u :: uses mode due depth comparable rest).filterMap Use.token? <+: t :: rest := by
        rw [List.filterMap_cons_some hu]
        exact (List.prefix_cons_inj t).2 (ih due depth comparable)
      cases due with
      | operand =>
          unfold uses
          split
          · exact hcons (.opening t) rfl ..
          split
          · exact hcons (.sign t) rfl ..
          · exact hcons (.operand t) rfl ..
      | operator =>
          unfold uses
          split
          · exact hcons (.operator t) rfl ..
          split
          · exact hcons (.operator t) rfl ..
          split
          · exact hcons (.closing t) rfl ..
          · exact List.nil_prefix

namespace Cursor

/-- The position in the line that is cut behind the last token that the walk from here on
uses and that there is room for. -/
def cut (mode : Mode) (due : Due) (depth : Nat) (comparable : Bool) (c : Cursor) : Cursor :=
  ⟨(allot c.room (uses mode due depth comparable c.rest)).1.filterMap Use.token?, c.room, false⟩

section

variable {mode : Mode} {due : Due} {depth : Nat} {comparable : Bool} {c inside : Cursor} {t : Token}
  {rest : List Token} {u : Use}

/-- A line that is cut is an initial part of the line. -/
theorem prefix_rest_cut (mode : Mode) (due : Due) (depth : Nat) (comparable : Bool) (c : Cursor) :
    (c.cut mode due depth comparable).rest <+: c.rest :=
  ((prefix_allot _ _).filterMap Use.token?).trans (prefix_tokens_uses ..)

theorem cut_operator_nil (hrest : c.rest = []) :
    c.cut mode .operator depth comparable = ⟨[], c.room, false⟩ := by
  simp [cut, hrest, uses, allot]

theorem cut_operand_nil (hrest : c.rest = []) :
    c.cut mode .operand depth comparable = ⟨[], c.room, false⟩ := by
  simp [cut, hrest, uses, allot, Use.cost, Use.token?]

/-- In front of a token that is used for nothing, the cut goes on behind it. -/
theorem cut_of_free {later : Due} {depth' : Nat} (hrest : c.rest = t :: rest)
    (huses : uses mode due depth comparable (t :: rest) =
      u :: uses mode later depth' comparable rest)
    (htoken : u.token? = some t) (hcost : u.cost = 0) :
    c.cut mode due depth comparable =
      ⟨t :: (c.advance.cut mode later depth' comparable).rest, c.room, false⟩ := by
  simp [cut, hrest, huses, allot, hcost, htoken]

/-- In front of a token that takes up room, the cut goes on behind it if there is some. -/
theorem cut_of_grow {comparable' : Bool} {depth' : Nat} (hrest : c.rest = t :: rest)
    (hgrow : c.advance.grow? = some inside)
    (huses : uses mode due depth comparable (t :: rest) =
      u :: uses mode .operand depth' comparable' rest)
    (htoken : u.token? = some t) (hcost : u.cost = 1) :
    c.cut mode due depth comparable =
      ⟨t :: (inside.cut mode .operand depth' comparable').rest, inside.room + 1, false⟩ := by
  have hroom : c.room = inside.room + 1 := room_of_advance_grow? hgrow
  have hinside : inside.rest = rest := rest_of_advance_grow? hrest hgrow
  simp [cut, hrest, hinside, hroom, huses, allot, hcost, htoken]

/-- Otherwise the line is cut in front of it. -/
theorem cut_of_full {us : List Use} (hroom : c.room = 0)
    (huses : uses mode due depth comparable c.rest = u :: us) (hcost : u.cost = 1) :
    c.cut mode due depth comparable = ⟨[], 0, false⟩ := by
  simp [cut, hroom, huses, allot, hcost]

/-- In the line that is cut the same symbol comes next, or none. -/
theorem symbol?_cut (mode : Mode) (due : Due) (depth : Nat) (comparable : Bool) (c : Cursor) :
    (c.cut mode due depth comparable).symbol? = none ∨
      (c.cut mode due depth comparable).symbol? = c.symbol? := by
  unfold symbol?
  cases hcut : (c.cut mode due depth comparable).rest with
  | nil => exact .inl rfl
  | cons t rest =>
      rcases prefix_rest_cut mode due depth comparable c with ⟨q, hq⟩
      rw [hcut, List.cons_append] at hq
      rw [← hq]
      exact .inr rfl

/-- Where no operator comes next, none does after the line is cut. -/
theorem binaryOp?_cut {ops : List BinaryOp} (h : c.binaryOp? ops = none) :
    (c.cut mode due depth comparable).binaryOp? ops = none := by
  unfold binaryOp? at h ⊢
  rcases symbol?_cut mode due depth comparable c with hnone | hsame
  · rw [hnone]
    rfl
  · rw [hsame, h]

/-- Cutting a line brings no comparison to the front. -/
theorem comparison?_cut (h : c.comparison? = none) :
    (c.cut mode due depth comparable).comparison? = none := by
  unfold comparison? at h ⊢
  rcases symbol?_cut mode due depth comparable c with hnone | hsame
  · rw [hnone]
    rfl
  · rw [hsame, h]

/-- Behind a step the line goes on, or nothing of it is left. -/
theorem Advances.inLine_or_nil {later : Cursor} (h : c.Advances later) (hc : c.InLine) :
    later.InLine ∨ later.rest = [] := by
  cases habandoned : later.abandoned with
  | true => exact .inr (h.rest_of_abandoned habandoned hc.going)
  | false => exact .inl ⟨habandoned, fun t ht => hc.inside t (h.rest_suffix.subset ht)⟩

end

end Cursor

/-! ## Reading a line that is cut -/

namespace Reading

/-- The second reading has the tree of the first one, and stops there in the line that is
cut. -/
structure Retraced (mode : Mode) (depth : Nat) (comparable : Bool) (r s : Reading) : Prop where
  expr : s.expr = r.expr
  cursor : s.cursor = r.cursor.cut mode .operator depth comparable

/-- With no more than the given room, cutting a line changes nothing about what is read
there. -/
def Retraces (mode : Mode) (room : Nat) (read : Cursor → Reading) : Prop :=
  ∀ c : Cursor, c.room ≤ room → c.InLine → ∀ depth comparable,
    Retraced mode depth comparable (read c) (read (c.cut mode .operand depth comparable))

section

variable {scope : Scope} {mode : Mode} {depth : Nat} {comparable : Bool} {c inside : Cursor}
  {t : Token} {rest : List Token} {n : Nat}

/-! ### Rows -/

/-- A chain is given up at an operator where no room is left. -/
theorem chain_of_full {ops : List BinaryOp} {operand : Cursor → Reading} {op : BinaryOp} (m : Nat)
    (left : Expr) (hop : c.binaryOp? ops = some op) (hroom : c.room = 0) :
    chain scope ops operand m left c = abandon scope left c.advance := by
  have hgrow : c.advance.grow? = none := Cursor.grow?_eq_none_iff.2 hroom
  unfold chain
  simp only [hop, hgrow]

/-- A chain goes on over an operator for which there is room. -/
theorem chain_of_grow {ops : List BinaryOp} {operand : Cursor → Reading} {op : BinaryOp} (m : Nat)
    (left : Expr) (hop : c.binaryOp? ops = some op) (hgrow : c.advance.grow? = some inside) :
    chain scope ops operand (m + 1) left c =
      (chain scope ops operand m (.binary op left (operand inside).expr)
        (operand inside).cursor).after (operand inside).reports := by
  rw [chain, hop, hgrow]

/-- An operator that is seen is used as one. -/
theorem uses_of_binaryOp? {row : Row} {op : BinaryOp} (hop : c.binaryOp? row.ops = some op)
    (hrest : c.rest = t :: rest) (depth : Nat) (comparable : Bool) :
    uses row.mode .operator depth comparable (t :: rest) =
      .operator t :: uses row.mode .operand depth comparable rest := by
  rcases Cursor.binaryOp?_eq_some hop with ⟨hmem, u, behind, hbehind, hkind, htext⟩
  rw [hrest] at hbehind
  cases hbehind
  exact uses_operator (Row.mem_operators hmem) (Token.isSymbol_iff.2 ⟨hkind, htext⟩)

/-- Where a row stops, or is given up, it stops when the line is cut. -/
theorem retraced_chain_of_stop {row : Row} {operand : Cursor → Reading} (m : Nat) (left : Expr)
    (h : c.binaryOp? row.ops = none ∨ c.room = 0) (depth : Nat) (comparable : Bool) :
    Retraced row.mode depth comparable (chain scope row.ops operand m left c)
      (chain scope row.ops operand m left (c.cut row.mode .operator depth comparable)) := by
  cases hop : c.binaryOp? row.ops with
  | none =>
      rw [chain_of_none hop, chain_of_none (Cursor.binaryOp?_cut hop)]
      exact ⟨rfl, rfl⟩
  | some op =>
      have hroom : c.room = 0 := h.resolve_left (by simp [hop])
      rcases Cursor.binaryOp?_eq_some hop with ⟨-, t, rest, hrest, -⟩
      have huses := uses_of_binaryOp? hop hrest depth comparable
      rw [← hrest] at huses
      have hstop : chain scope row.ops operand m left ⟨[], 0, false⟩ = ⟨left, [], ⟨[], 0, false⟩⟩ :=
        chain_of_none rfl
      rw [chain_of_full m left hop hroom, Cursor.cut_of_full hroom huses rfl, hstop]
      refine ⟨rfl, ?_⟩
      rw [Cursor.cut_operator_nil rfl]
      exact congrArg (fun room => (⟨[], room, false⟩ : Cursor)) hroom.symm

/-- A row is read up to where the line is cut. -/
theorem retraced_chain {row : Row} {operand : Cursor → Reading}
    (hoperand : Retraces row.mode n operand)
    (hadvances : ∀ c : Cursor, c.Advances (operand c).cursor) (m : Nat) (left : Expr)
    (hm : c.room ≤ m) (hn : c.room ≤ n) (hc : c.InLine ∨ c.rest = []) (depth : Nat)
    (comparable : Bool) :
    Retraced row.mode depth comparable (chain scope row.ops operand m left c)
      (chain scope row.ops operand m left (c.cut row.mode .operator depth comparable)) := by
  induction m generalizing left c with
  | zero => exact retraced_chain_of_stop 0 left (.inr (Nat.le_zero.1 hm)) depth comparable
  | succ m ih =>
      cases hop : c.binaryOp? row.ops with
      | none => exact retraced_chain_of_stop (m + 1) left (.inl hop) depth comparable
      | some op =>
          cases hgrow : c.advance.grow? with
          | none =>
              have hroom := Cursor.room_of_advance_grow?_none hgrow
              exact retraced_chain_of_stop (m + 1) left (.inr hroom) depth comparable
          | some inside =>
              have hroom : c.room = inside.room + 1 := Cursor.room_of_advance_grow? hgrow
              rcases Cursor.binaryOp?_eq_some hop with ⟨hmem, t, rest, hrest, hkind, htext⟩
              have hline : c.InLine := hc.resolve_right (by simp [hrest])
              have hinside : inside.InLine := hline.grow hgrow
              have hright := hoperand inside (by omega) hinside depth comparable
              have hle := (hadvances inside).room_le
              -- The cut goes on behind the operator, and reading goes on there.
              have hcut := Cursor.cut_of_grow hrest hgrow
                (uses_of_binaryOp? hop hrest depth comparable) rfl rfl
              have hopcut : (c.cut row.mode .operator depth comparable).binaryOp? row.ops =
                  some op :=
                binaryOp?_of_isSymbol (congrArg Cursor.rest hcut)
                  (Token.isSymbol_iff.2 ⟨hkind, htext⟩) hmem
              have hgrowcut : (c.cut row.mode .operator depth comparable).advance.grow? =
                  some (inside.cut row.mode .operand depth comparable) := by
                rw [hcut]
                rfl
              rw [chain_of_grow m left hop hgrow, chain_of_grow m left hopcut hgrowcut, hright.expr,
                hright.cursor]
              have hrow := ih (.binary op left (operand inside).expr) (by omega) (by omega)
                ((hadvances inside).inLine_or_nil hinside)
              exact ⟨hrow.expr, hrow.cursor⟩

/-- A row is read the same where the line is cut, if its operands are. -/
theorem retraces_row (scope : Scope) (row : Row) {operand : Cursor → Reading}
    (hoperand : Retraces row.mode n operand)
    (hadvances : ∀ c : Cursor, c.Advances (operand c).cursor) :
    Retraces row.mode n (Reading.row scope row.ops operand n) := by
  intro c hroom hc depth comparable
  have hfirst := hoperand c hroom hc depth comparable
  have hle := (hadvances c).room_le
  have hrow : Retraced row.mode depth comparable
      (chain scope row.ops operand n (operand c).expr (operand c).cursor)
      (chain scope row.ops operand n (operand c).expr
        ((operand c).cursor.cut row.mode .operator depth comparable)) :=
    retraced_chain hoperand hadvances n _ (by omega) (by omega) ((hadvances c).inLine_or_nil hc)
      depth comparable
  unfold Reading.row
  simp only [hfirst.expr, hfirst.cursor]
  exact ⟨hrow.expr, hrow.cursor⟩

variable {operand : DataType → Cursor → Reading}

theorem retraces_sum (scope : Scope) (hoperand : Retraces .number n (operand .integer))
    (hadvances : ∀ (type : DataType) (c : Cursor), c.Advances (operand type c).cursor) :
    Retraces .number n (sum scope n operand) :=
  retraces_row scope .sum (retraces_row scope .product hoperand (hadvances .integer))
    (row_advances (hadvances .integer) n)

/-- What stands between brackets is read up to where the line is cut. -/
theorem retraces_bracketed (scope : Scope)
    (hoperand : ∀ mode : Mode, Retraces mode n (operand mode.type))
    (hadvances : ∀ (type : DataType) (c : Cursor), c.Advances (operand type c).cursor)
    (mode : Mode) : Retraces mode n (expression scope n operand mode.type) := by
  cases mode with
  | number => exact retraces_sum scope (hoperand .number) hadvances
  | text => exact retraces_row scope .concatenation (hoperand .text) (hadvances .string)

/-! ### Operands -/

/-- The tree of an operand depends on its token alone. -/
theorem expr_atom (scope : Scope) (t : Token) (c d : Cursor) :
    (atom scope t d).expr = (atom scope t c).expr := by
  unfold atom
  cases t.kind with
  | identifier => cases scope.symbols.contains t.text <;> rfl
  | number => cases Numeral.read? t.text <;> rfl
  | _ => rfl

theorem cursor_atom (h : t.endsLine = false) : (atom scope t c).cursor = c.advance := by
  unfold atom
  cases hkind : t.kind with
  | identifier => cases scope.symbols.contains t.text <;> rfl
  | number => cases Numeral.read? t.text <;> rfl
  | stringLiteral => rfl
  | symbol => rfl
  | unknown => rfl
  | endOfLine => simp [Token.endsLine, hkind] at h
  | endOfInput => simp [Token.endsLine, hkind] at h

/-- A bracket that is left open takes no token. -/
theorem cursor_closeBracket_of_open {inner : Reading} (opening : Token)
    (hsymbol : inner.cursor.symbol? ≠ some ")") :
    (closeBracket scope opening inner).cursor = inner.cursor := by
  unfold closeBracket
  split
  · rfl
  · rfl

/-- A bracket that is closed takes the one that closes it. -/
theorem cursor_closeBracket_of_closing {inner : Reading} (opening : Token)
    (hgoing : inner.cursor.abandoned = false) (hsymbol : inner.cursor.symbol? = some ")") :
    (closeBracket scope opening inner).cursor = inner.cursor.advance := by
  simp [closeBracket, hgoing, hsymbol]

/-- A bracket is closed, or left open, as in the line that is cut. -/
theorem retraced_closeBracket {inner inner' : Reading} (opening : Token)
    (hgoing : inner.cursor.abandoned = true → inner.cursor.rest = [])
    (hends : Ends mode.operators inner.cursor.rest)
    (h : Retraced mode (depth + 1) comparable inner inner') :
    Retraced mode depth comparable (closeBracket scope opening inner)
      (closeBracket scope opening inner') := by
  refine ⟨by rw [closeBracket_expr, closeBracket_expr, h.expr], ?_⟩
  by_cases hsymbol : inner.cursor.symbol? = some ")"
  · rcases Cursor.symbol?_eq_some hsymbol with ⟨u, behind, hrest, hkind, htext⟩
    have hclosing : u.isSymbol ")" = true := Token.isSymbol_iff.2 ⟨hkind, htext⟩
    have hwithin : inner.cursor.abandoned = false := by
      cases habandoned : inner.cursor.abandoned with
      | false => rfl
      | true =>
          have hnil := hgoing habandoned
          rw [hrest] at hnil
          cases hnil
    have hcut := h.cursor
    rw [Cursor.cut_of_free hrest (uses_closing hclosing) rfl rfl] at hcut
    have hsymbol' : inner'.cursor.symbol? = some ")" := by
      simp [hcut, Cursor.symbol?, hkind, htext]
    rw [cursor_closeBracket_of_closing opening hwithin hsymbol,
      cursor_closeBracket_of_closing opening (congrArg Cursor.abandoned hcut) hsymbol', hcut]
    rfl
  · have hsymbol' : inner'.cursor.symbol? ≠ some ")" := by
      rw [h.cursor]
      rcases Cursor.symbol?_cut mode .operator (depth + 1) comparable inner.cursor with
        hnone | hsame
      · rw [hnone]
        exact (Option.some_ne_none _).symm
      · rwa [hsame]
    rw [cursor_closeBracket_of_open opening hsymbol, cursor_closeBracket_of_open opening hsymbol',
      h.cursor]
    -- The walk goes on inside the bracket, but finds the same as outside of it.
    unfold Cursor.cut
    rw [uses_unclosed hends (not_isSymbol_of_symbol? hsymbol)]

/-- Where a bracket or a sign is refused, the line that is cut ends in front of it. -/
theorem retraced_refused (hroom : c.room = 0) :
    Retraced mode depth comparable (abandon scope .missing c.advance)
      (noOperand scope.closing ⟨[], 0, false⟩) := by
  refine ⟨rfl, ?_⟩
  rw [Cursor.cut_operator_nil rfl]
  exact congrArg (fun room => (⟨[], room, false⟩ : Cursor)) hroom.symm

/-- An operand is read up to where the line is cut, if those nested in it are. -/
theorem retraced_operandOver {deeper : DataType → Cursor → Reading}
    (hdeeper : 0 < c.room → ∀ mode : Mode, Retraces mode n (deeper mode.type))
    (hadvances : ∀ (type : DataType) (c : Cursor), c.Advances (deeper type c).cursor)
    (hn : c.room ≤ n + 1) (hc : c.InLine) (mode : Mode) (depth : Nat) (comparable : Bool) :
    Retraced mode depth comparable (operandOver scope n deeper mode.type c)
      (operandOver scope n deeper mode.type (c.cut mode .operand depth comparable)) := by
  cases hrest : c.rest with
  | nil =>
      rw [operandOver_nil hrest, Cursor.cut_operand_nil hrest, operandOver_nil rfl]
      exact ⟨rfl, (Cursor.cut_operator_nil hrest).symm⟩
  | cons t rest =>
      cases hbracket : t.isSymbol "(" with
      | true =>
          have huses : uses mode .operand depth comparable (t :: rest) =
              .opening t :: uses mode .operand (depth + 1) comparable rest := uses_opening hbracket
          cases hgrow : c.advance.grow? with
          | none =>
              have hroom := Cursor.room_of_advance_grow?_none hgrow
              rw [operandOver_refused hrest (by simp [hbracket]) hgrow,
                Cursor.cut_of_full hroom (hrest.symm ▸ huses) rfl, operandOver_nil rfl]
              exact retraced_refused hroom
          | some inside =>
              have hroom : c.room = inside.room + 1 := Cursor.room_of_advance_grow? hgrow
              have hinside : inside.InLine := hc.grow hgrow
              have hforward : inside.Advances (expression scope n deeper mode.type inside).cursor :=
                expression_advances hadvances mode.type inside
              have hinner := retraces_bracketed scope (hdeeper (by omega)) hadvances mode inside
                (by omega) hinside (depth + 1) comparable
              rw [operandOver_opening hrest hbracket hgrow,
                Cursor.cut_of_grow hrest hgrow huses rfl rfl, operandOver_opening rfl hbracket rfl]
              exact retraced_closeBracket t (fun h => hforward.rest_of_abandoned h hinside.going)
                (ends_expression mode deeper inside) hinner
      | false =>
          cases hminus : t.isSymbol "-" && mode.type != .string with
          | true =>
              rcases minus_of_ne_string hminus with ⟨hsign, rfl⟩
              have huses : uses .number .operand depth comparable (t :: rest) =
                  .sign t :: uses .number .operand depth comparable rest := uses_sign hsign
              cases hgrow : c.advance.grow? with
              | none =>
                  have hroom := Cursor.room_of_advance_grow?_none hgrow
                  rw [operandOver_refused hrest (by simp [hminus]) hgrow,
                    Cursor.cut_of_full hroom (hrest.symm ▸ huses) rfl, operandOver_nil rfl]
                  exact retraced_refused hroom
              | some inside =>
                  have hroom : c.room = inside.room + 1 := Cursor.room_of_advance_grow? hgrow
                  have hinner := hdeeper (by omega) .number inside (by omega) (hc.grow hgrow) depth
                    comparable
                  rw [operandOver_sign hrest hbracket hminus hgrow,
                    Cursor.cut_of_grow hrest hgrow huses rfl rfl,
                    operandOver_sign rfl hbracket hminus rfl]
                  exact ⟨congrArg Expr.negate hinner.expr, hinner.cursor⟩
          | false =>
              have hends : t.endsLine = false := hc.inside t (by simp [hrest])
              have huses : uses mode .operand depth comparable (t :: rest) =
                  .operand t :: uses mode .operator depth comparable rest :=
                uses_operand hbracket hminus
              rw [operandOver_atom hrest hbracket hminus,
                Cursor.cut_of_free hrest huses rfl rfl, operandOver_atom rfl hbracket hminus]
              refine ⟨expr_atom scope t c _, ?_⟩
              rw [cursor_atom hends, cursor_atom hends]
              rfl

/-- An operand is read up to where the line is cut. -/
theorem retraces_factor (scope : Scope) (n : Nat) (mode : Mode) :
    Retraces mode n (factor scope n mode.type) := by
  induction n generalizing mode with
  | zero =>
      intro c hroom hc depth comparable
      have hzero : c.room = 0 := Nat.le_zero.1 hroom
      have hcut : (c.cut mode .operand depth comparable).room = 0 := hzero
      -- Nothing is read inside of the operand, so any reader will do for that.
      have hover : Retraced mode depth comparable
          (operandOver scope 0 (factor scope 0) mode.type c)
          (operandOver scope 0 (factor scope 0) mode.type (c.cut mode .operand depth comparable)) :=
        retraced_operandOver (fun h => by omega) (factor_advances scope 0) (by omega) hc mode depth
          comparable
      rwa [operandOver_of_full hzero, operandOver_of_full hcut] at hover
  | succ n ih =>
      intro c hroom hc depth comparable
      rw [factor_succ]
      exact retraced_operandOver (fun _ => ih) (factor_advances scope n) hroom hc mode depth
        comparable

end

/-! ### Expressions -/

section

variable {scope : Scope} {n : Nat} {operand : DataType → Cursor → Reading}

/-- One sum, or two with a comparison between them, are read up to where the line is cut. -/
theorem expr_condition_cut (hoperand : Retraces .number n (operand .integer))
    (hadvances : ∀ (type : DataType) (c : Cursor), c.Advances (operand type c).cursor) {c : Cursor}
    (hroom : c.room ≤ n) (hc : c.InLine) :
    (condition scope n operand (c.cut .number .operand 0 true)).expr =
      (condition scope n operand c).expr := by
  have hsums : Retraces .number n (sum scope n operand) := retraces_sum scope hoperand hadvances
  have hleft := hsums c hroom hc 0 true
  have hforward : c.Advances (sum scope n operand c).cursor := sum_advances hadvances c
  unfold condition
  simp only [hleft.cursor, hleft.expr]
  cases hcomparison : (sum scope n operand c).cursor.comparison? with
  | none =>
      rw [Cursor.comparison?_cut hcomparison]
      exact hleft.expr
  | some comparison =>
      rcases Cursor.comparison?_eq_some hcomparison with ⟨t, rest, hrest, hkind, htext⟩
      have hsign : t.isSymbol comparison.symbol = true := Token.isSymbol_iff.2 ⟨hkind, htext⟩
      have huses : uses .number .operator 0 true (t :: rest) =
          .operator t :: uses .number .operand 0 false rest := uses_comparison hsign
      have hline : (sum scope n operand c).cursor.InLine :=
        (hforward.inLine_or_nil hc).resolve_right (by simp [hrest])
      cases hgrow : (sum scope n operand c).cursor.advance.grow? with
      | none =>
          have hfull := Cursor.room_of_advance_grow?_none hgrow
          have hnone : (⟨[], 0, false⟩ : Cursor).comparison? = none := rfl
          rw [Cursor.cut_of_full hfull (hrest.symm ▸ huses) rfl, hnone]
          exact hleft.expr
      | some inside =>
          have hinside := Cursor.room_of_advance_grow? hgrow
          have hle := hforward.room_le
          have hright := hsums inside (by omega) (hline.grow hgrow) 0 false
          have hcut := Cursor.cut_of_grow hrest hgrow huses rfl rfl
          have hnext : ((sum scope n operand c).cursor.cut .number .operator 0 true).comparison? =
              some comparison := comparison?_of_isSymbol (congrArg Cursor.rest hcut) hsign
          have hgrowcut :
              ((sum scope n operand c).cursor.cut .number .operator 0 true).advance.grow? =
                some (inside.cut .number .operand 0 false) := by
            rw [hcut]
            rfl
          simp only [hnext, hgrowcut]
          exact congrArg (Expr.compare comparison _) hright.expr

/-- The tokens of an expression that are used and that there is room for. -/
def keptTokens (type : DataType) (tokens : List Token) : List Token :=
  (keptUses type tokens).filterMap Use.token?

/-- The tokens of an expression are cut to those that are kept. -/
theorem cut_start (type : DataType) (tokens : List Token) :
    (Cursor.start tokens).cut (.ofType type) .operand 0 (type == .boolean) =
      Cursor.start (keptTokens type tokens) :=
  rfl

/-- An expression is the same tree if only the tokens are left of it that it has room for. -/
theorem expr_whole_keptTokens (scope : Scope) (type : DataType) {tokens : List Token}
    (htokens : ∀ t ∈ tokens, t.endsLine = false) :
    (whole scope type (keptTokens type tokens)).expr = (whole scope type tokens).expr := by
  have hstart : (Cursor.start tokens).InLine := ⟨rfl, htokens⟩
  have hroom : (Cursor.start tokens).room ≤ growthLimit := Nat.le_refl growthLimit
  have hoperand (mode : Mode) : Retraces mode growthLimit (factor scope growthLimit mode.type) :=
    retraces_factor scope growthLimit mode
  have hadvances := factor_advances scope growthLimit
  have hrow (mode : Mode) :=
    (retraces_bracketed scope hoperand hadvances mode _ hroom hstart 0 false).expr
  unfold whole
  rw [← cut_start]
  cases type with
  | boolean => exact expr_condition_cut (hoperand .number) hadvances hroom hstart
  | string => exact hrow .text
  | integer => exact hrow .number
  | unknown => exact hrow .number

end

end Reading
end Primer
