import Primer.Proofs.Usage.Yield

/-!
# Reading follows the walk

Reading an expression decides about each token as the walk over its tokens does, however
broken the expression is.  A reader knows by its place in the recursion which operators
and brackets are its own, and leaves the others to its callers; it stops in front of a
token only where all rows it stands in end.

Main definitions:

- `Reading.Follows` says that a reading makes the uses that the walk finds in front of it,
  up to where it stopped or was refused; `Reading.Followed` that it does so for some uses.

Main results:

- Theorem `ends_expression`: between brackets, reading stops in front of no operator.
- Theorem `followed_factor`: reading an operand follows the walk.
- Theorem `makes_whole`: an expression is read as the walk and the limit say.
-/

namespace Primer
namespace Reading

/-! ## Where rows end -/

section

variable {scope : Scope} {n : Nat}

/-- No operator comes where none is seen. -/
theorem ends_of_binaryOp?_none {ops : List BinaryOp} {c : Cursor} (h : c.binaryOp? ops = none) :
    Ends ops c.rest := by
  intro d hrest
  simpa [Cursor.binaryOp?, Cursor.symbol?, hrest] using h

/-- No operator of either list comes if none of each does. -/
theorem ends_append {front back : List BinaryOp} {more : List Token} (hfront : Ends front more)
    (hback : Ends back more) : Ends (front ++ back) more := by
  cases more with
  | nil => exact ends_nil _
  | cons t rest =>
      rw [ends_cons_iff, List.any_append, ends_cons_iff.1 hfront, ends_cons_iff.1 hback]
      rfl

/-- A row ends with its line, or behind one of its operands, in front of none of its
operators. -/
theorem cursor_chain (scope : Scope) (ops : List BinaryOp) (operand : Cursor → Reading) (m : Nat)
    (left : Expr) (c : Cursor) :
    (chain scope ops operand m left c).cursor.rest = [] ∨
      (chain scope ops operand m left c).cursor.binaryOp? ops = none ∧
        ((chain scope ops operand m left c).cursor = c ∨
          ∃ d, (chain scope ops operand m left c).cursor = (operand d).cursor) := by
  induction m generalizing left c with
  | zero =>
      unfold chain
      cases hop : c.binaryOp? ops with
      | none => exact .inr ⟨hop, .inl rfl⟩
      | some op => exact .inl rfl
  | succ m ih =>
      unfold chain
      cases hop : c.binaryOp? ops with
      | none => exact .inr ⟨hop, .inl rfl⟩
      | some op =>
          cases hgrow : c.advance.grow? with
          | none => exact .inl rfl
          | some inside =>
              let right := operand inside
              rcases ih (.binary op left right.expr) right.cursor with
                hnil | ⟨hnone, hsame | ⟨d, hd⟩⟩
              · exact .inl hnil
              · exact .inr ⟨hnone, .inr ⟨inside, hsame⟩⟩
              · exact .inr ⟨hnone, .inr ⟨d, hd⟩⟩

/-- A row is read up to the last of its operators. -/
theorem ends_chain (ops : List BinaryOp) (operand : Cursor → Reading) (m : Nat) (left : Expr)
    (c : Cursor) : Ends ops (chain scope ops operand m left c).cursor.rest := by
  rcases cursor_chain scope ops operand m left c with hnil | ⟨hnone, -⟩
  · rw [hnil]
    exact ends_nil ops
  · exact ends_of_binaryOp?_none hnone

/-- A row goes no further than its operands do. -/
theorem ends_chain_of_operand {ops others : List BinaryOp} {operand : Cursor → Reading}
    (hoperand : ∀ c, Ends others (operand c).cursor.rest) (m : Nat) (left : Expr) {c : Cursor}
    (hc : Ends others c.rest) : Ends others (chain scope ops operand m left c).cursor.rest := by
  rcases cursor_chain scope ops operand m left c with
    hnil | ⟨-, hsame | ⟨d, hd⟩⟩
  · rw [hnil]
    exact ends_nil others
  · rw [hsame]
    exact hc
  · rw [hd]
    exact hoperand d

/-- Behind a sum no operator on numbers comes. -/
theorem ends_sum (operand : DataType → Cursor → Reading) (c : Cursor) :
    Ends Mode.number.operators (sum scope n operand c).cursor.rest := by
  have hproduct : ∀ c, Ends Row.product.ops
      (row scope Row.product.ops (operand .integer) n c).cursor.rest :=
    fun c => ends_chain _ _ _ _ _
  exact ends_append (ends_chain _ _ _ _ _) (ends_chain_of_operand hproduct _ _ (hproduct c))

/-- What stands between brackets is read up to the last of its operators. -/
theorem ends_expression (mode : Mode) (operand : DataType → Cursor → Reading) (c : Cursor) :
    Ends mode.operators (expression scope n operand mode.type c).cursor.rest := by
  cases mode with
  | number => exact ends_sum operand c
  | text => exact ends_chain _ _ _ _ _

end

/-! ## Reading follows the walk -/

/-- The walk has come to the uses behind a reading: to the one that was refused, or to
those of the tokens that are left. -/
def Resumes (mode : Mode) (refused? : Option Use) (depth : Nat) (comparable : Bool)
    (rest : List Token) (later : List Use) : Prop :=
  match refused? with
  | none => later = uses mode .operator depth comparable rest
  | some u => later.head? = some u

/-- The reading makes of the tokens in front of it what the walk says, whatever brackets
are open there. -/
structure Follows (scope : Scope) (mode : Mode) (c : Cursor) (r : Reading) (made : List Use)
    (refused? : Option Use) : Prop extends Makes scope c r made refused? where
  walk : ∀ depth comparable, ∃ later,
    uses mode .operand depth comparable c.rest = made ++ later ∧
      Resumes mode refused? depth comparable r.cursor.rest later

/-- The reading follows the walk to where it goes. -/
def Followed (scope : Scope) (mode : Mode) (c : Cursor) (r : Reading) : Prop :=
  ∃ made refused?, Follows scope mode c r made refused?

section

variable {scope : Scope} {mode : Mode} {c inside : Cursor} {t : Token} {rest : List Token}

/-- The use of an operand at the end of the line is the lack of it. -/
theorem followed_absent (hc : c.InLine) (hrest : c.rest = []) :
    Followed scope mode c (noOperand scope.closing c) := by
  refine ⟨_, none, makes_absent hc, fun depth comparable => ⟨[], ?_, ?_⟩⟩
  · simp [hrest, uses]
  · simp [Resumes, noOperand, hrest, uses]

/-- An operand of one token follows its use. -/
theorem followed_atom (hc : c.InLine) (hrest : c.rest = t :: rest)
    (hbracket : t.isSymbol "(" = false)
    (hminus : (t.isSymbol "-" && mode.type != .string) = false) :
    Followed scope mode c (atom scope t c) := by
  have hmakes : Makes scope c (atom scope t c) [.operand t] none := makes_atom hc hrest
  have hbehind : (atom scope t c).cursor.rest = rest := by
    simpa [hrest, Use.token?] using (hmakes.rest rfl).symm
  refine ⟨_, none, hmakes, fun depth comparable => ⟨_, ?_, rfl⟩⟩
  rw [hrest, uses_operand hbracket hminus, hbehind]
  rfl

/-- A bracket without room is refused. -/
theorem followed_opening_refused (hrest : c.rest = t :: rest) (hbracket : t.isSymbol "(" = true)
    (hroom : c.room = 0) : Followed scope mode c (abandon scope .missing c.advance) := by
  refine ⟨[], some (.opening t), .refused rfl hroom, fun depth comparable => ⟨_, rfl, ?_⟩⟩
  rw [hrest, uses_opening hbracket]
  rfl

/-- A sign without room is refused. -/
theorem followed_sign_refused (hrest : c.rest = t :: rest) (hminus : t.isSymbol "-" = true)
    (hroom : c.room = 0) : Followed scope .number c (abandon scope .missing c.advance) := by
  refine ⟨[], some (.sign t), .refused rfl hroom, fun depth comparable => ⟨_, rfl, ?_⟩⟩
  rw [hrest, uses_sign hminus]
  rfl

/-- An operand behind a sign follows the uses behind that of the sign. -/
theorem followed_sign {r : Reading} (hrest : c.rest = t :: rest) (hminus : t.isSymbol "-" = true)
    (hgrow : c.advance.grow? = some inside) (h : Followed scope .number inside r) :
    Followed scope .number c (r.mapExpr .negate) := by
  rcases h with ⟨made, refused?, h⟩
  refine ⟨_, refused?, h.nested (u := .sign t) rfl rfl hrest hgrow rfl, fun depth comparable => ?_⟩
  rcases h.walk depth comparable with ⟨later, hwalk, hresumes⟩
  refine ⟨later, ?_, hresumes⟩
  rw [hrest, uses_sign hminus, ← Cursor.rest_of_advance_grow? hrest hgrow, hwalk]
  rfl

/-- A bracket is followed with what stands in it, whether or not it is closed. -/
theorem followed_bracket {r : Reading} (hrest : c.rest = t :: rest)
    (hbracket : t.isSymbol "(" = true) (hgrow : c.advance.grow? = some inside)
    (hends : Ends mode.operators r.cursor.rest) (h : Followed scope mode inside r) :
    Followed scope mode c (closeBracket scope t r) := by
  rcases h with ⟨made, refused?, h⟩
  have hnested : Makes scope c r (.opening t :: made) refused? :=
    h.nested (u := .opening t) (f := id) rfl rfl hrest hgrow rfl
  have hopening (depth : Nat) (comparable : Bool) :
      uses mode .operand depth comparable c.rest =
        .opening t :: uses mode .operand (depth + 1) comparable inside.rest := by
    rw [hrest, uses_opening hbracket, Cursor.rest_of_advance_grow? hrest hgrow]
  cases refused? with
  | some u =>
      refine ⟨_, some u, hnested.unclosed (by simp) t, fun depth comparable => ?_⟩
      rcases h.walk (depth + 1) comparable with ⟨later, hwalk, hresumes⟩
      exact ⟨later, by rw [hopening, hwalk, List.cons_append], hresumes⟩
  | none =>
      by_cases hsymbol : r.cursor.symbol? = some ")"
      · rcases Cursor.symbol?_eq_some hsymbol with ⟨u, behind, hbehind, hkind, htext⟩
        have hclosing : u.isSymbol ")" = true := Token.isSymbol_iff.2 ⟨hkind, htext⟩
        have hclosed := hnested.closed hbehind hclosing t
        have hleft : (closeBracket scope t r).cursor.rest = behind := by
          simp [closeBracket, h.abandoned, hsymbol, hbehind]
        refine ⟨_, none, hclosed, fun depth comparable => ⟨_, ?_, rfl⟩⟩
        rcases h.walk (depth + 1) comparable with ⟨_, hwalk, rfl⟩
        rw [hopening, hwalk, hbehind, uses_closing hclosing, hleft]
        simp
      · -- The walk goes on inside the bracket, but finds the same as outside of it.
        have hopen := hnested.unclosed (fun _ => hsymbol) t
        have hleft : (closeBracket scope t r).cursor.rest = r.cursor.rest := by
          simp [closeBracket, h.abandoned, hsymbol]
        refine ⟨_, none, hopen, fun depth comparable => ⟨_, ?_, rfl⟩⟩
        rcases h.walk (depth + 1) comparable with ⟨_, hwalk, rfl⟩
        rw [hopening, hwalk, uses_unclosed hends (not_isSymbol_of_symbol? hsymbol), hleft,
          List.cons_append]

/-! ### Rows -/

theorem Followed.room_le {r : Reading} (h : Followed scope mode c r) :
    r.cursor.room ≤ c.room := by
  rcases h with ⟨made, refused?, h⟩
  exact h.room_le

/-- Nothing was refused where something is left of the line. -/
theorem Followed.unrefused {r : Reading} (h : Followed scope mode c r)
    (hrest : r.cursor.rest = t :: rest) : ∃ made, Follows scope mode c r made none := by
  rcases h with ⟨made, _ | u, h⟩
  · exact ⟨made, h⟩
  · have hnil := (h.givenUp u rfl).2
    rw [hrest] at hnil
    cases hnil

variable {row : Row} {op : BinaryOp} {left : Reading}

/-- A row goes on with an operator and an operand. -/
theorem Followed.joined {r : Reading} (hleft : Followed scope row.mode c left)
    (hop : left.cursor.binaryOp? row.ops = some op)
    (hgrow : left.cursor.advance.grow? = some inside) (h : Followed scope row.mode inside r) :
    Followed scope row.mode c ((r.mapExpr (.binary op left.expr)).after left.reports) := by
  rcases Cursor.binaryOp?_eq_some hop with ⟨hmem, t, rest, hrest, hkind, htext⟩
  rcases hleft.unrefused hrest with ⟨made, hleft⟩
  rcases h with ⟨later, refused?, h⟩
  refine ⟨_, refused?, hleft.toMakes.joined hrest hgrow h.toMakes rfl, fun depth comparable => ?_⟩
  rcases hleft.walk depth comparable with ⟨_, hfront, rfl⟩
  rcases h.walk depth comparable with ⟨behind, hback, hresumes⟩
  refine ⟨behind, ?_, hresumes⟩
  rw [hfront, hrest, uses_operator (Row.mem_operators hmem) (Token.isSymbol_iff.2 ⟨hkind, htext⟩),
    ← Cursor.rest_of_advance_grow? hrest hgrow, hback, List.append_assoc, List.cons_append]

/-- A row ends in front of an operator that is refused. -/
theorem Followed.cut (hleft : Followed scope row.mode c left)
    (hop : left.cursor.binaryOp? row.ops = some op) (hroom : left.cursor.room = 0) :
    Followed scope row.mode c
      ((abandon scope left.expr left.cursor.advance).after left.reports) := by
  rcases Cursor.binaryOp?_eq_some hop with ⟨hmem, t, rest, hrest, hkind, htext⟩
  rcases hleft.unrefused hrest with ⟨made, hleft⟩
  refine ⟨_, _, hleft.toMakes.cut hroom t, fun depth comparable => ?_⟩
  rcases hleft.walk depth comparable with ⟨_, hfront, rfl⟩
  refine ⟨_, hfront, ?_⟩
  rw [hrest, uses_operator (Row.mem_operators hmem) (Token.isSymbol_iff.2 ⟨hkind, htext⟩)]
  rfl

/-- Where something is left of the line, reading goes on inside it. -/
theorem Followed.inLine {r : Reading} (h : Followed scope mode c r) (hc : c.InLine)
    (hrest : r.cursor.rest = t :: rest) : r.cursor.InLine := by
  rcases h.unrefused hrest with ⟨made, h⟩
  exact h.inLine hc

variable {n : Nat}

/-- From a row that was followed so far, the rest of it is followed. -/
theorem followed_chain {operand : Cursor → Reading}
    (hoperand : ∀ c : Cursor, c.room ≤ n → c.InLine → Followed scope row.mode c (operand c))
    {start : Cursor} (hstart : start.InLine) (m : Nat) (left : Reading)
    (hleft : Followed scope row.mode start left) (hm : left.cursor.room ≤ m)
    (hn : left.cursor.room ≤ n) :
    Followed scope row.mode start
      ((chain scope row.ops operand m left.expr left.cursor).after left.reports) := by
  induction m generalizing left with
  | zero =>
      have hroom : left.cursor.room = 0 := by omega
      unfold chain
      cases hop : left.cursor.binaryOp? row.ops with
      | none => simpa [after] using hleft
      | some op => exact hleft.cut hop hroom
  | succ m ih =>
      unfold chain
      cases hop : left.cursor.binaryOp? row.ops with
      | none => simpa [after] using hleft
      | some op =>
          cases hgrow : left.cursor.advance.grow? with
          | none => exact hleft.cut hop (Cursor.room_of_advance_grow?_none hgrow)
          | some inside =>
              have hinside : left.cursor.room = inside.room + 1 :=
                Cursor.room_of_advance_grow? hgrow
              rcases Cursor.binaryOp?_eq_some hop with ⟨-, t, rest, hrest, -⟩
              have hright := hoperand inside (by omega) ((hleft.inLine hstart hrest).grow hgrow)
              have hroom : (operand inside).cursor.room ≤ inside.room := hright.room_le
              -- What was followed so far is the left operand of the rest of the row.
              have hnext := ih _ (hleft.joined hop hgrow hright) (by simp; omega) (by simp; omega)
              simpa using hnext

/-- A row follows the uses of its operands and operators. -/
theorem followed_row (row : Row) {operand : Cursor → Reading}
    (hoperand : ∀ c : Cursor, c.room ≤ n → c.InLine → Followed scope row.mode c (operand c))
    (hroom : c.room ≤ n) (hc : c.InLine) :
    Followed scope row.mode c (Reading.row scope row.ops operand n c) := by
  have hfirst := hoperand c hroom hc
  have hle : (operand c).cursor.room ≤ c.room := hfirst.room_le
  exact followed_chain hoperand hc n _ hfirst (by omega) (by omega)

variable {operand : DataType → Cursor → Reading}

theorem followed_sum
    (hoperand : ∀ c : Cursor, c.room ≤ n → c.InLine → Followed scope .number c (operand .integer c))
    (hroom : c.room ≤ n) (hc : c.InLine) : Followed scope .number c (sum scope n operand c) :=
  followed_row .sum (fun _ h h' => followed_row .product hoperand h h') hroom hc

/-- What stands between brackets is followed. -/
theorem followed_bracketed
    (hoperand : ∀ (mode : Mode) (c : Cursor), c.room ≤ n → c.InLine →
      Followed scope mode c (operand mode.type c))
    (mode : Mode) (hroom : c.room ≤ n) (hc : c.InLine) :
    Followed scope mode c (expression scope n operand mode.type c) := by
  cases mode with
  | number => exact followed_sum (hoperand .number) hroom hc
  | text => exact followed_row .concatenation (hoperand .text) hroom hc

/-- Reading an operand follows the walk. -/
theorem followed_factor (scope : Scope) (n : Nat) (mode : Mode) (c : Cursor) (hroom : c.room ≤ n)
    (hc : c.InLine) : Followed scope mode c (factor scope n mode.type c) := by
  induction n generalizing mode c with
  | zero =>
      have hzero : c.room = 0 := by omega
      unfold factor
      split
      next hrest => exact followed_absent hc hrest
      next t rest hrest =>
        split
        next hbracket => exact followed_opening_refused hrest hbracket hzero
        next hbracket =>
          split
          next hminus =>
            rcases minus_of_ne_string hminus with ⟨hsign, rfl⟩
            exact followed_sign_refused hrest hsign hzero
          next hminus =>
            exact followed_atom hc hrest (by simpa using hbracket) (by simpa using hminus)
  | succ n ih =>
      unfold factor
      split
      next hrest => exact followed_absent hc hrest
      next t rest hrest =>
        split
        next hbracket =>
          cases hgrow : c.advance.grow? with
          | none =>
              exact followed_opening_refused hrest hbracket
                (Cursor.room_of_advance_grow?_none hgrow)
          | some inside =>
              have hinside : c.room = inside.room + 1 := Cursor.room_of_advance_grow? hgrow
              have hinner := followed_bracketed ih mode (by omega) (hc.grow hgrow)
              exact followed_bracket hrest hbracket hgrow (ends_expression mode _ inside) hinner
        next hbracket =>
          split
          next hminus =>
            rcases minus_of_ne_string hminus with ⟨hsign, rfl⟩
            cases hgrow : c.advance.grow? with
            | none =>
                exact followed_sign_refused hrest hsign (Cursor.room_of_advance_grow?_none hgrow)
            | some inside =>
                have hinside : c.room = inside.room + 1 := Cursor.room_of_advance_grow? hgrow
                exact followed_sign hrest hsign hgrow (ih .number inside (by omega) (hc.grow hgrow))
          next hminus =>
            exact followed_atom hc hrest (by simpa using hbracket) (by simpa using hminus)

/-! ### Expressions -/

/-- The walk ends where an expression does: outside all brackets, in front of no operator
and of no comparison that may follow. -/
theorem Follows.walk_ends {r : Reading} {made : List Use} {refused? : Option Use}
    (h : Follows scope mode c r made refused?) (comparable : Bool)
    (hends : Ends mode.operators r.cursor.rest)
    (hcomparison : comparable = true → ∀ u ∈ r.cursor.rest.head?, u.isComparison = false) :
    ∃ later, uses mode .operand 0 comparable c.rest = made ++ later ∧ later.head? = refused? := by
  rcases h.walk 0 comparable with ⟨later, hwalk, hresumes⟩
  refine ⟨later, hwalk, ?_⟩
  cases refused? with
  | some u => exact hresumes
  | none =>
      obtain rfl : later = uses mode .operator 0 comparable r.cursor.rest := hresumes
      cases hrest : r.cursor.rest with
      | nil => rfl
      | cons u behind =>
          rw [hrest] at hends hcomparison
          have hno : (comparable && u.isComparison) = false := by
            cases comparable with
            | false => rfl
            | true => exact hcomparison rfl u rfl
          simp [uses, ends_cons_iff.1 hends, hno]

/-- Where the walk ends or goes on with what was refused, the limit cuts it. -/
theorem Makes.of_walk {r : Reading} {us made later : List Use} {refused? : Option Use}
    (h : Makes scope c r made refused?) (hwalk : us = made ++ later)
    (hlater : later.head? = refused?) :
    Makes scope c r (allot c.room us).1 (allot c.room us).2 := by
  have hroom := h.room
  have hcut : allot c.room us = (made, refused?) := by
    rw [hwalk]
    cases refused? with
    | none =>
        rw [List.head?_eq_none_iff.1 hlater, List.append_nil]
        exact allot_of_le (by omega)
    | some u =>
        rcases List.head?_eq_some_iff.1 hlater with ⟨behind, rfl⟩
        have hexceeds := (h.givenUp u rfl).1
        exact allot_of_refused (by omega) (by omega) behind
  rw [hcut]
  exact h

/-- No comparison comes where none is seen. -/
theorem isComparison_of_comparison?_none (h : c.comparison? = none) :
    ∀ u ∈ c.rest.head?, u.isComparison = false := by
  intro u hu
  rcases List.head?_eq_some_iff.1 hu with ⟨rest, hrest⟩
  by_cases hkind : u.kind = .symbol
  · have hnone : Comparison.ofSymbol? u.text = none := by
      simpa [Cursor.comparison?, Cursor.symbol?, hrest, hkind] using h
    simp [Token.isComparison, hnone]
  · simp [Token.isComparison, hkind]

/-- One sum, or two with a comparison between them, make what the walk says. -/
theorem makes_condition
    (hoperand : ∀ c : Cursor, c.room ≤ n → c.InLine → Followed scope .number c (operand .integer c))
    (hroom : c.room ≤ n) (hc : c.InLine) :
    Makes scope c (condition scope n operand c)
      (allot c.room (uses .number .operand 0 true c.rest)).1
      (allot c.room (uses .number .operand 0 true c.rest)).2 := by
  have hleft := followed_sum hoperand hroom hc
  have hends : Ends Mode.number.operators (sum scope n operand c).cursor.rest := ends_sum operand c
  unfold condition
  simp only
  cases hcomparison : (sum scope n operand c).cursor.comparison? with
  | none =>
      rcases hleft with ⟨made, refused?, hleft⟩
      rcases hleft.walk_ends true hends (fun _ => isComparison_of_comparison?_none hcomparison) with
        ⟨later, hwalk, hlater⟩
      exact hleft.toMakes.of_walk hwalk hlater
  | some comparison =>
      rcases Cursor.comparison?_eq_some hcomparison with ⟨t, rest, hrest, hkind, htext⟩
      have hsign : t.isSymbol comparison.symbol = true := Token.isSymbol_iff.2 ⟨hkind, htext⟩
      have hinLine := hleft.inLine hc hrest
      have hle := hleft.room_le
      rcases hleft.unrefused hrest with ⟨made, hleft⟩
      -- The walk comes to the same comparison, and starts again behind it.
      rcases hleft.walk 0 true with ⟨_, hfront, rfl⟩
      rw [hrest, uses_comparison hsign] at hfront
      cases hgrow : (sum scope n operand c).cursor.advance.grow? with
      | none =>
          have hzero := Cursor.room_of_advance_grow?_none hgrow
          exact (hleft.toMakes.cut hzero t).of_walk hfront rfl
      | some inside =>
          have hinside : (sum scope n operand c).cursor.room = inside.room + 1 :=
            Cursor.room_of_advance_grow? hgrow
          rcases followed_sum hoperand (by omega) (hinLine.grow hgrow) with ⟨back, refused?, hright⟩
          rcases hright.walk_ends false (ends_sum operand inside) (by simp) with
            ⟨later, hback, hlater⟩
          have hwalk : uses .number .operand 0 true c.rest =
              (made ++ .operator t :: back) ++ later := by
            rw [hfront, ← Cursor.rest_of_advance_grow? hrest hgrow, hback, List.append_assoc,
              List.cons_append]
          exact (hleft.toMakes.joined hrest hgrow hright.toMakes rfl).of_walk hwalk hlater

end

/-- An expression is read as the walk and the limit say. -/
theorem makes_whole (scope : Scope) (type : DataType) {tokens : List Token}
    (htokens : ∀ t ∈ tokens, t.endsLine = false) :
    Makes scope (Cursor.start tokens) (whole scope type tokens) (keptUses type tokens)
      (refusedUse? type tokens) := by
  have hstart : (Cursor.start tokens).InLine := ⟨rfl, htokens⟩
  have hoperand (mode : Mode) (c : Cursor) (hroom : c.room ≤ growthLimit) (hc : c.InLine) :
      Followed scope mode c (factor scope growthLimit mode.type c) :=
    followed_factor scope growthLimit mode c hroom hc
  -- Without a comparison the walk ends behind the one row that was read.
  have hplain (mode : Mode) :
      Makes scope (Cursor.start tokens)
        (expression scope growthLimit (factor scope growthLimit) mode.type (Cursor.start tokens))
        (allot growthLimit (uses mode .operand 0 false tokens)).1
        (allot growthLimit (uses mode .operand 0 false tokens)).2 := by
    rcases followed_bracketed hoperand mode (Nat.le_refl _) hstart with ⟨made, refused?, h⟩
    rcases h.walk_ends false (ends_expression mode _ _) (by simp) with
      ⟨later, hwalk, hlater⟩
    exact h.toMakes.of_walk hwalk hlater
  cases type with
  | boolean => exact makes_condition (hoperand .number) (Nat.le_refl _) hstart
  | string => exact hplain .text
  | integer => exact hplain .number
  | unknown => exact hplain .number

end Reading
end Primer
