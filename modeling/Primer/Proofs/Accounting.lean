import Mathlib.Data.List.Forall2
import Primer.Proofs.NameResolution
import Primer.Proofs.Placement
import Primer.Proofs.Usage.Following

/-!
# Every line is accounted for

Each line with a token in it adds one statement if it starts as one, and otherwise one
diagnostic that says why there is none; a blank line adds nothing.  What is read of a
list of tokens is what its lines add, in their order.

Main definitions:

- `StartsAs` says as which statement a line starts, whatever follows.
- `unusedTokens` are the tokens behind an expression that the walk over it does not use,
  and `Statement.leftover` those behind a statement.
- `Contribution` is what a line adds to the outcome of reading.
- `Accounted` says what the contribution of a line may be.

Main results:

- Theorem `not_isUnexpected_of_composed`: no part of an expression reports what stands
  behind it.
- Theorem `rest_whole`: an expression leaves the tokens that the walk does not use.
- Theorem `exists_statement_of_startsAs`: a line that starts as a statement holds one.
- Theorem `contributes_readLineFrom`: a line that is read is accounted for.
- Theorem `lines_accounted`: so are all lines of a list of tokens, in order.
-/

namespace Primer

/-! ## What a line adds -/

/-- The diagnostic says why a line holds no statement. -/
def Diagnostic.isRejection : Diagnostic → Bool
  | .grammar (.invalidStatement _ _) => true
  | .grammar (.expectedIdentifier _ _) => true
  | .semantic (.invalidArgument _ _ _) => true
  | .semantic (.integerOutOfRange _ _) => true
  | _ => false

/-- The diagnostic is about a token behind a complete statement. -/
def Diagnostic.isUnexpected : Diagnostic → Bool
  | .grammar (.unexpectedToken _ _) => true
  | _ => false

/-- What is reported of the tokens behind a complete statement: the first of them. -/
def unexpected : List Token → List Diagnostic
  | [] => []
  | t :: _ => [.grammar (.unexpectedToken t.line t.text)]

/-- The line starts as the statement, up to the types of names and the value assigned. -/
inductive StartsAs : List Token → Statement → Prop where
  | declare {word name : Token} {rest : List Token} {type : DataType}
      (hword : word.kind = .identifier) (htype : DataType.ofKeyword? word.text = some type)
      (hname : name.kind = .identifier) :
      StartsAs (word :: name :: rest) (.declare name.text type word.line)
  | named {word name : Token} {rest : List Token} {command : Command} {type : DataType}
      (hword : word.kind = .identifier) (htext : word.text = command.keyword)
      (hname : name.kind = .identifier) :
      StartsAs (word :: name :: rest) (.perform command (.named name.text type) word.line)
  | literal {word constant : Token} {rest : List Token} {l : Literal}
      (hword : word.kind = .identifier) (htext : word.text = "PRINT")
      (hconstant : LiteralForm constant l) :
      StartsAs (word :: constant :: rest) (.perform .print (.literal l) word.line)
  | assign {target equals : Token} {rest : List Token} {type : DataType} {value : Expr}
      (htarget : target.kind = .identifier) (hkeyword : ¬ IsKeyword target.text)
      (hequals : equals.isSymbol "=" = true) :
      StartsAs (target :: equals :: rest) (.assign target.text type value target.line)

/-- The tokens that an expression does not use; if a use is refused, none are left. -/
def unusedTokens (type : DataType) (tokens : List Token) : List Token :=
  match refusedUse? type tokens with
  | none => tokens.drop ((keptUses type tokens).filterMap Use.token?).length
  | some _ => []

/-- The tokens behind a statement, of those behind its first token. -/
def Statement.leftover (rest : List Token) : Statement → List Token
  | .declare _ _ _ => rest.drop 1
  | .assign _ type _ _ => unusedTokens type (rest.drop 1)
  | .perform _ _ _ => rest.drop 1

/-- What a line adds to the outcome of reading. -/
structure Contribution where
  statement? : Option Statement
  diagnostics : List Diagnostic
  declarations : List Declaration

/-- A line with a token in it is the statement that it starts as, which stands where the
line does, and behind all else the first token left over is reported; or it starts as no
statement and is rejected, for one reason. -/
inductive Accounted : List Token → Contribution → Prop where
  | accepted {t : Token} {rest : List Token} {s : Statement} {reports : List Diagnostic}
      (hstarts : StartsAs (t :: rest) s) (hline : s.line = t.line)
      (hreports : ∀ d ∈ reports, d.isUnexpected = false) :
      Accounted (t :: rest)
        ⟨some s, reports ++ unexpected (s.leftover rest), s.declaration?.toList⟩
  | rejected {t : Token} {rest : List Token} {reason : Diagnostic}
      (hstarts : ∀ s, ¬ StartsAs (t :: rest) s) (hreason : reason.isRejection = true) :
      Accounted (t :: rest) ⟨none, [reason], []⟩

/-! ## Expressions -/

namespace Reading

/-- Closing a bracket reports no token that stands behind a statement. -/
theorem not_isUnexpected_closeBracket {scope : Scope} {opening : Token} {r : Reading}
    (h : ∀ d ∈ r.reports, d.isUnexpected = false) :
    ∀ d ∈ (closeBracket scope opening r).reports, d.isUnexpected = false := by
  unfold closeBracket
  split
  · exact h
  split
  · exact h
  · simpa [or_imp, forall_and, Diagnostic.isUnexpected] using h

/-- No part of an expression reports what stands behind it. -/
theorem not_isUnexpected_of_composed {scope : Scope} {form : Nonterminal} {c : Cursor}
    {r : Reading} (h : Composed scope form c r) : ∀ d ∈ r.reports, d.isUnexpected = false := by
  induction h with
  | @named mode c t rest hrest hkind =>
      cases scope.symbols.contains t.text <;> simp [Diagnostic.isUnexpected]
  | literal hrest hliteral => simp
  | outOfRange hrest hkind hvalue => simp [Diagnostic.isUnexpected]
  | absent hends => simp [noOperand, Diagnostic.isUnexpected]
  | misplaced hrest hkind hbracket hminus => simp [noOperand, Diagnostic.isUnexpected]
  | bracketed hrest hbracket hgrow hinner ih => exact not_isUnexpected_closeBracket ih
  | negated hrest hminus hgrow hinner ih => exact ih
  | refused hrest hopens hroom => simp [abandon, Diagnostic.isUnexpected]
  | single h ih => exact ih
  | joined hleft hop hgrow hright ihleft ihright =>
      simpa [or_imp, forall_and] using ⟨ihleft, ihright⟩
  | cutRow hleft hop hroom ih =>
      simpa [or_imp, forall_and, abandon, Diagnostic.isUnexpected] using ih
  | plain h ih => exact ih
  | compared hleft hcomparison hgrow hright ihleft ihright =>
      simpa [or_imp, forall_and] using ⟨ihleft, ihright⟩
  | cutCondition hleft hcomparison hroom ih =>
      simpa [or_imp, forall_and, abandon, Diagnostic.isUnexpected] using ih

/-- An expression leaves the tokens that the walk over them does not use. -/
theorem rest_whole (scope : Scope) (type : DataType) {tokens : List Token}
    (htokens : ∀ t ∈ tokens, t.endsLine = false) :
    (whole scope type tokens).cursor.rest = unusedTokens type tokens := by
  have hmakes := makes_whole scope type htokens
  unfold unusedTokens
  split
  next hnone =>
    have hsplit : (keptUses type tokens).filterMap Use.token? ++
        (whole scope type tokens).cursor.rest = tokens := (hmakes.rest hnone).symm
    calc (whole scope type tokens).cursor.rest
        = ((keptUses type tokens).filterMap Use.token? ++
            (whole scope type tokens).cursor.rest).drop
              ((keptUses type tokens).filterMap Use.token?).length := List.drop_left.symm
      _ = tokens.drop ((keptUses type tokens).filterMap Use.token?).length := by rw [hsplit]
  next u hsome => exact (hmakes.givenUp u hsome).2

end Reading

/-! ## Lines -/

/-- Behind a statement the first token left is the unexpected one. -/
theorem toList_trailing? (s : Statement) (rest : List Token) :
    (trailing? (some s) rest).toList = unexpected rest := by
  cases rest <;> rfl

/-- The contribution is what was read of a line, and what it added to the declarations. -/
structure Contributes (before : SymbolTable) (outcome : LineReading) (behind : SymbolTable)
    (c : Contribution) : Prop where
  statement_eq : outcome.statement? = c.statement?
  diagnostics_eq : outcome.diagnostics = c.diagnostics
  declarations_eq : behind.declarations = before.declarations ++ c.declarations

section

variable {scope : Scope} {t : Token} {rest : List Token}

/-- A line that starts as a statement holds a statement. -/
theorem exists_statement_of_startsAs (scope : Scope) {s : Statement}
    (h : StartsAs (t :: rest) s) : ∃ read, (readStatement scope t rest).statement? = some read := by
  cases h with
  | declare hword htype hname =>
      simp [readStatement, hword, htype, StatementReading.declaration, hname]
  | named hword htext hname =>
      rw [readStatement_of_command _ scope hword htext]
      simp [StatementReading.command, hname]
  | literal hword htext hconstant =>
      rw [readStatement_of_command .print scope hword htext]
      cases hconstant with
      | number hkind hvalue =>
          simp [StatementReading.command, hkind, hvalue, StatementReading.literalCommand]
      | text hkind => simp [StatementReading.command, hkind, StatementReading.literalCommand]
  | assign htarget hkeyword hequals =>
      rcases ofKeyword?_of_not_isKeyword hkeyword with ⟨hdeclaration, hcommand⟩
      simp [readStatement, htarget, hdeclaration, hcommand, hequals, StatementReading.assignment]

/-- A rejected line is accounted for by its reason, and adds no statement. -/
theorem contributes_rejected {reason : Diagnostic} (hstarts : ∀ s, ¬ StartsAs (t :: rest) s)
    (hreason : reason.isRejection = true) (left : List Token) :
    let r := StatementReading.reject scope reason left
    ∃ c, Accounted (t :: rest) c ∧
      Contributes scope.symbols ⟨r.statement?, r.reports, trailing? r.statement? r.rest⟩ r.symbols
        c :=
  ⟨_, .rejected hstarts hreason, rfl, rfl, (List.append_nil _).symm⟩

/-- A line accepted contributes its statement, and what is left behind it is reported. -/
theorem contributes_accepted {s : Statement} {reports : List Diagnostic} {left : List Token}
    {symbols : SymbolTable} (hstarts : StartsAs (t :: rest) s) (hline : s.line = t.line)
    (hreports : ∀ d ∈ reports, d.isUnexpected = false) (hleft : left = s.leftover rest)
    (hsymbols : symbols.declarations = scope.symbols.declarations ++ s.declaration?.toList) :
    ∃ c, Accounted (t :: rest) c ∧
      Contributes scope.symbols ⟨some s, reports, trailing? (some s) left⟩ symbols c := by
  refine ⟨_, .accepted hstarts hline hreports, rfl, ?_, hsymbols⟩
  rw [LineReading.diagnostics, toList_trailing?, hleft]

/-- Each outcome of reading a statement is accounted for, if there is none only where the
line starts as none. -/
theorem contributes_of_composed {r : StatementReading} (h : StatementComposed scope t rest r)
    (hstarts : r.statement? = none → ∀ s, ¬ StartsAs (t :: rest) s)
    (hrest : ∀ u ∈ rest, u.endsLine = false) :
    ∃ c, Accounted (t :: rest) c ∧
      Contributes scope.symbols ⟨r.statement?, r.reports, trailing? r.statement? r.rest⟩ r.symbols
        c := by
  cases h with
  | invalid => exact contributes_rejected (hstarts rfl) rfl _
  | @declared type name behind hword htype hname =>
      refine contributes_accepted (.declare hword htype hname) rfl ?_ rfl rfl
      split <;> simp [Diagnostic.isUnexpected]
  | nameless => exact contributes_rejected (hstarts rfl) rfl _
  | @named command name behind hword htext hname =>
      unfold StatementReading.variableArgument
      split
      · exact contributes_accepted (.named hword htext hname) rfl (by simp) rfl
          (List.append_nil _).symm
      · exact contributes_accepted (.named hword htext hname) rfl
          (by simp [Diagnostic.isUnexpected]) rfl (List.append_nil _).symm
  | printed hword htext hconstant =>
      exact contributes_accepted (.literal hword htext hconstant) rfl (by simp) rfl
        (List.append_nil _).symm
  | inputLiteral hconstant => exact contributes_rejected (hstarts rfl) rfl _
  | outOfRange => exact contributes_rejected (hstarts rfl) rfl _
  | argumentless => exact contributes_rejected (hstarts rfl) rfl _
  | @assigned equals value hword hkeyword hequals =>
      have hvalue : ∀ u ∈ value, u.endsLine = false := fun u hu =>
        hrest u (List.mem_cons_of_mem _ hu)
      refine contributes_accepted (.assign hword hkeyword hequals) rfl ?_
        (Reading.rest_whole scope _ hvalue) (List.append_nil _).symm
      intro d hd
      rcases List.mem_append.1 hd with hd | hd
      · split at hd
        · cases hd
        · rw [List.mem_singleton.1 hd]
          rfl
      · exact Reading.not_isUnexpected_of_composed (Reading.composed_whole scope _ value) d hd

end

/-- A line with a token in it is accounted for. -/
theorem contributes_readLineFrom (symbols : SymbolTable) {line : Line} (hline : line.tokens ≠ [])
    (htokens : ∀ t ∈ line.tokens, t.endsLine = false) :
    ∃ c, Accounted line.tokens c ∧
      Contributes symbols (readLineFrom symbols line).1 (readLineFrom symbols line).2 c := by
  rcases line with ⟨tokens, closing⟩
  rcases List.exists_cons_of_ne_nil hline with ⟨t, rest, rfl⟩
  have hstarts (hnone : (readStatement ⟨symbols, closing⟩ t rest).statement? = none)
      (s : Statement) : ¬ StartsAs (t :: rest) s := by
    intro h
    rcases exists_statement_of_startsAs ⟨symbols, closing⟩ h with ⟨read, hread⟩
    rw [hnone] at hread
    cases hread
  exact contributes_of_composed (composed_readStatement ⟨symbols, closing⟩ t rest) hstarts
    (fun u hu => htokens u (List.mem_cons_of_mem _ hu))

/-- What is read of lines is what those that hold a token add, in order. -/
theorem contributes_readLines (symbols : SymbolTable) {lines : List Line}
    (htokens : ∀ line ∈ lines, ∀ t ∈ line.tokens, t.endsLine = false) :
    ∃ contributions : List Contribution,
      List.Forall₂ Accounted ((lines.map Line.tokens).filter fun line => line != [])
          contributions ∧
        (readLines symbols lines).1.filterMap LineReading.statement? =
          contributions.filterMap Contribution.statement? ∧
        (readLines symbols lines).1.flatMap LineReading.diagnostics =
          contributions.flatMap Contribution.diagnostics ∧
        (readLines symbols lines).2.declarations =
          symbols.declarations ++ contributions.flatMap Contribution.declarations := by
  induction lines generalizing symbols with
  | nil => exact ⟨[], .nil, rfl, rfl, (List.append_nil _).symm⟩
  | cons line lines ih =>
      have hlater : ∀ other ∈ lines, ∀ t ∈ other.tokens, t.endsLine = false :=
        fun other hother => htokens other (List.mem_cons_of_mem _ hother)
      rw [readLines_cons, List.map_cons]
      by_cases hline : line.tokens = []
      · have hblank : readLineFrom symbols line = (⟨none, [], none⟩, symbols) := by
          rcases line with ⟨tokens, closing⟩
          obtain rfl : tokens = [] := hline
          exact readLineFrom_blank symbols closing
        rcases ih symbols hlater with ⟨contributions, haccounted, hcontributions⟩
        exact ⟨contributions, by simpa [hline] using haccounted,
          by simpa [hblank, LineReading.diagnostics] using hcontributions⟩
      · rcases contributes_readLineFrom symbols hline (htokens line List.mem_cons_self) with
          ⟨c, hc, hcontributes⟩
        -- The lines behind are read against the declarations that this line adds to.
        rcases ih (readLineFrom symbols line).2 hlater with
          ⟨contributions, haccounted, hstatements, hdiagnostics, hdeclarations⟩
        refine ⟨c :: contributions, ?_, ?_, ?_, ?_⟩
        · rw [List.filter_cons_of_pos (by simpa using hline)]
          exact .cons hc haccounted
        · rw [List.filterMap_cons, List.filterMap_cons, hcontributes.statement_eq, hstatements]
        · rw [List.flatMap_cons, List.flatMap_cons, hcontributes.diagnostics_eq, hdiagnostics]
        · rw [hdeclarations, hcontributes.declarations_eq, List.flatMap_cons, List.append_assoc]

/-! ## Programs -/

/-- The lines of a list of tokens that hold a token are accounted for: in their order, and
with nothing in between, they add the statements, the diagnostics and the declarations that
are read.  A line adds the statement that it starts as, with a report of the first token
left over behind it as its last diagnostic; if it starts as none, it adds one diagnostic
that rejects it and no declaration. -/
theorem lines_accounted (tokens : List Token) :
    ∃ contributions : List Contribution,
      List.Forall₂ Accounted (nonblankLines tokens) contributions ∧
        (parse tokens).program = contributions.filterMap Contribution.statement? ∧
        (parse tokens).diagnostics = contributions.flatMap Contribution.diagnostics ∧
        (parse tokens).symbols.declarations =
          contributions.flatMap Contribution.declarations := by
  rw [← filter_map_tokens_closeTokens]
  exact contributes_readLines SymbolTable.empty fun line hline =>
    (not_endsLine_of_mem_splitLines hline).1

end Primer
