import Primer.Proofs.Walking.Basic
import Primer.Reading.Progress

/-!
# Steps along a line

A walker on a line of the tokens stands where a position of that line is, as long as the
position is one that the reading can come to.  Every single step leads it to where the
reading goes.

Main definitions:

- `Walk.Leads` says where steps lead, with which result, and what they report.
- `Visit` is a line among the tokens with what the walker knows when it comes to it, and
  `Visit.walker` stands on the line at a position.
- `Visit.Holds` says that the reading can come to a position.

Main results:

- Theorem `Visit.Holds.getElem?_index`: at such a position there is a token.
- Theorems `leads_peek`, `leads_advance`, `leads_skipLine`, `leads_grow_some` and
  `leads_grow_none`: the single steps.
-/

namespace Primer

variable {α β : Type} {tokens : List Token}

namespace Walk

/-- From each walker of the first family, whatever was reported before, the steps lead to
the one of the second family, with the result `a`; `new` is reported on the way. -/
def Leads (tokens : List Token) (m : Walk α) (here there : List Diagnostic → Walker) (a : α)
    (new : List Diagnostic) : Prop :=
  ∀ reports, (m.run tokens).run (here reports) = some (a, there (reports ++ new))

namespace Leads

variable {m : Walk α} {f : α → Walk β} {here there beyond : List Diagnostic → Walker} {a : α}
  {b : β} {new later : List Diagnostic}

/-- A result without a step leads nowhere else. -/
theorem pure : Leads tokens (Pure.pure a) here here a [] := by
  intro reports
  simp

/-- Steps lead on from where those in front of them led. -/
theorem bind (hm : Leads tokens m here there a new)
    (hf : Leads tokens (f a) there beyond b later) :
    Leads tokens (m >>= f) here beyond b (new ++ later) := by
  intro reports
  rw [ReaderT.run_bind, StateT.run_bind, hm reports, ← List.append_assoc]
  exact hf (reports ++ new)

/-- Steps that report nothing come before others. -/
theorem andThen (hm : Leads tokens m here there a [])
    (hf : Leads tokens (f a) there beyond b later) :
    Leads tokens (m >>= f) here beyond b later :=
  hm.bind hf

/-- Steps that report nothing come behind others. -/
theorem silently (hm : Leads tokens m here there a new)
    (hf : Leads tokens (f a) there beyond b []) : Leads tokens (m >>= f) here beyond b new := by
  have h := hm.bind hf
  rwa [List.append_nil] at h

end Leads

/-- What the walker keeps is looked at without a move. -/
theorem leads_look {f : Walker → α} {here : List Diagnostic → Walker} {a : α}
    (h : ∀ reports, f (here reports) = a) : Leads tokens (look f) here here a [] := by
  intro reports
  rw [List.append_nil, ← h reports]
  rfl

/-- What the walker keeps is changed. -/
theorem leads_modify {f : Walker → Walker} {here there : List Diagnostic → Walker}
    (h : ∀ reports, f (here reports) = there reports) :
    Leads tokens (modify f) here there () [] := by
  intro reports
  rw [List.append_nil, ← h reports]
  rfl

end Walk

/-! ## Lines among the tokens -/

/-- A line among the tokens, with what the walker knows when it comes to it. -/
structure Visit (tokens : List Token) where
  ahead : List Token
  line : Line
  behind : List Token
  symbols : SymbolTable
  attempts : List Attempt
  tokens_eq : tokens = ahead ++ (line.tokens ++ line.closing :: behind)
  inside : ∀ t ∈ line.tokens, t.endsLine = false
  closes : line.closing.endsLine = true

namespace Visit

variable (v : Visit tokens)

/-- What the line is read against. -/
def scope : Scope :=
  ⟨v.symbols, v.line.closing⟩

/-- The index of the token that ends the line. -/
def last : Nat :=
  v.ahead.length + v.line.tokens.length

/-- The index of the next token at a position of the line. -/
def index (c : Cursor) : Nat :=
  v.last - c.rest.length

/-- The walker at a position of the line. -/
def walker (c : Cursor) (reports : List Diagnostic) : Walker :=
  { index := v.index c
    symbols := v.symbols
    reports := reports
    growth := growthLimit - c.room
    abandoned := c.abandoned
    trail := List.range (v.index c + 1)
    attempts := v.attempts }

/-- The reading of the line can come to the position. -/
structure Holds (c : Cursor) : Prop where
  rest_suffix : c.rest <:+ v.line.tokens
  room_le : c.room ≤ growthLimit
  rest_of_abandoned : c.abandoned = true → c.rest = []

namespace Holds

variable {v} {c d inside : Cursor} {t : Token} {rest : List Token}

theorem start (h : rest <:+ v.line.tokens) : v.Holds (Cursor.start rest) :=
  ⟨h, Nat.le_refl _, nofun⟩

theorem advances (h : v.Holds c) (hadvances : c.Advances d) : v.Holds d := by
  refine ⟨hadvances.rest_suffix.trans h.rest_suffix,
    Nat.le_trans hadvances.room_le h.room_le, ?_⟩
  intro hd
  cases hc : c.abandoned with
  | false => exact hadvances.rest_of_abandoned hd hc
  | true => exact List.suffix_nil.1 (h.rest_of_abandoned hc ▸ hadvances.rest_suffix)

theorem advance (h : v.Holds c) : v.Holds c.advance :=
  h.advances (.advance c)

/-- Where tokens are left the line has not been given up. -/
theorem not_abandoned (h : v.Holds c) (hrest : c.rest = t :: rest) : c.abandoned = false := by
  cases habandoned : c.abandoned with
  | false => rfl
  | true => cases (h.rest_of_abandoned habandoned).symm.trans hrest

end Holds

variable {v} {c inside : Cursor} {t : Token} {rest : List Token}

/-- No token inside the line ends it. -/
theorem not_endsLine (h : c.rest <:+ v.line.tokens) (hrest : c.rest = t :: rest) :
    t.endsLine = false :=
  v.inside t (h.subset (hrest ▸ List.mem_cons_self))

/-- At a position of the line there is a token, and it is the one that is read there. -/
theorem getElem?_index (h : c.rest <:+ v.line.tokens) :
    tokens[v.index c]? = some (c.peek v.scope) := by
  obtain ⟨front, hfront⟩ := h
  have hlength := congrArg List.length hfront
  rw [List.length_append] at hlength
  have hindex : v.index c = v.ahead.length + front.length := by
    unfold index last
    omega
  calc tokens[v.index c]?
      = (v.ahead ++ (v.line.tokens ++ v.line.closing :: v.behind))[v.index c]? :=
        congrArg (fun ts => ts[v.index c]?) v.tokens_eq
    _ = (c.rest ++ v.line.closing :: v.behind)[0]? := by
        rw [hindex, List.getElem?_append_right (Nat.le_add_right _ _), Nat.add_sub_cancel_left,
          ← hfront, List.append_assoc, List.getElem?_append_right (Nat.le_refl _), Nat.sub_self]
    _ = some (c.peek v.scope) := by
        unfold Cursor.peek
        cases c.rest with
        | nil => rfl
        | cons t rest => rfl

/-- The next token stands one further. -/
theorem index_advance (h : c.rest <:+ v.line.tokens) (hrest : c.rest = t :: rest) :
    v.index c.advance = v.index c + 1 := by
  have hlength := h.length_le
  rw [hrest, List.length_cons] at hlength
  simp only [index, last, Cursor.advance_rest, hrest, List.tail_cons, List.length_cons]
  omega

variable (v) in
/-- The token that ends the line is no symbol. -/
@[simp]
theorem isSymbol_closing (symbol : String) : v.line.closing.isSymbol symbol = false := by
  rcases Token.endsLine_iff.1 v.closes with hkind | hkind <;> simp [Token.isSymbol, hkind]

theorem kind_closing_ne_identifier : v.line.closing.kind ≠ .identifier := by
  rcases Token.endsLine_iff.1 v.closes with hkind | hkind <;> simp [hkind]

/-- A symbol is seen only inside the line. -/
theorem symbol?_eq (c : Cursor) :
    c.symbol? =
      if (c.peek v.scope).kind = .symbol then some (c.peek v.scope).text else none := by
  unfold Cursor.symbol? Cursor.peek
  cases c.rest with
  | nil =>
      have hkind : v.line.closing.kind ≠ .symbol := by
        rcases Token.endsLine_iff.1 v.closes with hkind | hkind <;> simp [hkind]
      simp [scope, hkind]
  | cons t rest => rfl

/-! ## Single steps -/

open Walk

/-- The next token is looked at without a move. -/
theorem leads_peek (h : c.rest <:+ v.line.tokens) :
    Leads tokens peek (v.walker c) (v.walker c) (c.peek v.scope) [] := by
  intro reports
  rw [List.append_nil]
  exact congrArg (Option.map fun t => (t, v.walker c reports)) (getElem?_index h)

/-- Inside the line there is a token behind the next one. -/
theorem leads_peekNext (h : c.rest <:+ v.line.tokens) (hrest : c.rest = t :: rest) :
    Leads tokens peekNext (v.walker c) (v.walker c) (some (c.advance.peek v.scope)) [] := by
  have hbehind : c.advance.rest <:+ v.line.tokens := (List.tail_suffix _).trans h
  have htoken : tokens[v.index c + 1]? = some (c.advance.peek v.scope) := by
    rw [← index_advance h hrest]
    exact getElem?_index hbehind
  intro reports
  rw [List.append_nil, ← htoken]
  rfl

theorem leads_symbols :
    Leads tokens (look Walker.symbols) (v.walker c) (v.walker c) v.symbols [] :=
  leads_look fun _ => rfl

/-- What has been counted is what the room has lost. -/
theorem leads_growth :
    Leads tokens (look Walker.growth) (v.walker c) (v.walker c) (growthLimit - c.room) [] :=
  leads_look fun _ => rfl

theorem leads_abandoned :
    Leads tokens (look Walker.abandoned) (v.walker c) (v.walker c) c.abandoned [] :=
  leads_look fun _ => rfl

/-- A report is put behind those made before. -/
theorem leads_report (d : Diagnostic) :
    Leads tokens (report d) (v.walker c) (v.walker c) () [d] :=
  fun _ => rfl

theorem leads_reportUnless (fine : Bool) (d : Diagnostic) :
    Leads tokens (reportUnless fine d) (v.walker c) (v.walker c) () (if fine then [] else [d]) := by
  cases fine with
  | true => exact .pure
  | false => exact leads_report d

/-- Inside the line the walker moves to the next token. -/
theorem leads_advance (h : c.rest <:+ v.line.tokens) (hrest : c.rest = t :: rest) :
    Leads tokens advance (v.walker c) (v.walker c.advance) () [] := by
  have hkind : (c.peek v.scope).kind ≠ .endOfInput := by
    intro hinput
    have hends := not_endsLine h hrest
    simp [Cursor.peek, hrest] at hinput
    simp [Token.endsLine, hinput] at hends
  refine (leads_peek h).andThen ?_
  rw [if_neg hkind]
  refine leads_modify fun reports => ?_
  simp [walker, Walker.forward, index_advance h hrest, List.range_succ]

/-- The walker goes to the end of the line. -/
theorem leads_skipLine (h : c.rest <:+ v.line.tokens) :
    Leads tokens skipLine (v.walker c) (v.walker { c with rest := [] }) () [] := by
  obtain ⟨rest, room, abandoned⟩ := c
  unfold skipLine
  induction rest with
  | nil =>
      have hends : (Cursor.peek v.scope ⟨[], room, abandoned⟩).endsLine = true := v.closes
      rw [upTo]
      refine (leads_peek h).andThen ?_
      rw [if_pos hends]
      exact .pure
  | cons t rest ih =>
      have hends : (Cursor.peek v.scope ⟨t :: rest, room, abandoned⟩).endsLine = false :=
        not_endsLine h rfl
      have hbehind : rest <:+ v.line.tokens := (List.suffix_cons t rest).trans h
      rw [upTo]
      refine (leads_peek h).andThen ?_
      rw [if_neg (by simp [hends])]
      exact (leads_advance h rfl).andThen (ih hbehind)

/-- One more operator or bracket is counted where there is room. -/
theorem leads_grow_some (h : v.Holds c) (habandoned : c.abandoned = false)
    (hgrow : c.grow? = some inside) :
    Leads tokens grow (v.walker c) (v.walker inside) true [] := by
  obtain ⟨hrest, hroom, hkept⟩ := Cursor.grow?_eq_some hgrow
  have hlimit := h.room_le
  unfold grow
  refine leads_abandoned.andThen ?_
  rw [if_neg (by simp [habandoned])]
  refine leads_growth.andThen ?_
  rw [if_pos (by omega)]
  refine (leads_modify fun reports => ?_).andThen .pure
  simp only [walker, index, hrest, hkept, Walker.mk.injEq, true_and, and_true]
  omega

/-- Where there is no room the rest of the line is given up. -/
theorem leads_grow_none (h : v.Holds c) (habandoned : c.abandoned = false)
    (hgrow : c.grow? = none) :
    Leads tokens grow (v.walker c) (v.walker ⟨[], c.room, true⟩) false
      [.grammar (.expressionTooComplex (c.peek v.scope).line growthLimit)] := by
  have hroom := Cursor.grow?_eq_none_iff.1 hgrow
  have hgivenUp : Leads tokens (modify fun w => { w with abandoned := true }) (v.walker c)
      (v.walker { c with abandoned := true }) () [] := leads_modify fun _ => rfl
  unfold grow
  refine leads_abandoned.andThen ?_
  rw [if_neg (by simp [habandoned])]
  refine leads_growth.andThen ?_
  rw [if_neg (by omega)]
  refine (leads_peek h.rest_suffix).andThen ?_
  refine (leads_report _).bind ?_
  refine hgivenUp.andThen ?_
  exact (leads_skipLine (c := { c with abandoned := true }) h.rest_suffix).andThen .pure

end Visit
end Primer
