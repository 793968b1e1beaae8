import Primer.Proofs.Walking.Expression

/-!
# Walking through a line

A walker that attempts a statement goes where the reading of the line goes, and ends on
the token that ends the line.

Main definitions:

- `Visit.Ends` says that the steps of a statement end where its reading ends.
- `Walker.Between` is where a walk has come to between two lines.

Main results:

- Theorem `ends_statement`: a statement is followed.
- Theorem `exists_attempt`: an attempt reads the line and ends on the token that ends it.
-/

namespace Primer
namespace Visit

open Walk

variable {tokens : List Token} {v : Visit tokens} {c : Cursor} {t : Token} {rest : List Token}

/-- The same line, with other declarations known. -/
def knowing (v : Visit tokens) (symbols : SymbolTable) : Visit tokens :=
  { v with symbols := symbols }

/-- The steps lead to a position at which the reading has left the same tokens. -/
def Ends (v : Visit tokens) (m : Walk (Option Statement)) (c : Cursor)
    (r : StatementReading) : Prop :=
  ∃ behind : Cursor, behind.rest = r.rest ∧
    Leads tokens m (v.walker c) ((v.knowing r.symbols).walker behind) r.statement? r.reports

/-- Steps that report nothing may come in front of a statement. -/
theorem Ends.andThen {α : Type} {m : Walk α} {f : α → Walk (Option Statement)} {a : α}
    {next : Cursor} {r : StatementReading}
    (hm : Leads tokens m (v.walker c) (v.walker next) a []) (hf : v.Ends (f a) next r) :
    v.Ends (m >>= f) c r := by
  obtain ⟨behind, hrest, hf⟩ := hf
  exact ⟨behind, hrest, hm.andThen hf⟩

theorem leads_reject (d : Diagnostic) :
    Leads tokens (reject d) (v.walker c) (v.walker c) none [d] :=
  (leads_report d).silently .pure

/-- A rejection leaves the line where it is. -/
theorem ends_reject (d : Diagnostic) :
    v.Ends (reject d) c (StatementReading.reject v.scope d c.rest) :=
  ⟨c, rfl, leads_reject d⟩

/-! ## Declarations -/

/-- The name is known from there on. -/
theorem leads_declare (name : String) (type : DataType) :
    Leads tokens (declare name type) (v.walker c)
      ((v.knowing (v.symbols.declare name type)).walker c) () [] :=
  leads_modify fun _ => rfl

/-- A declaration is walked as it is read. -/
theorem ends_declaration (type : DataType) (line : Nat) (h : rest <:+ v.line.tokens) :
    v.Ends (declaration type line) (Cursor.start rest)
      (StatementReading.declaration v.scope type line rest) := by
  unfold declaration
  refine .andThen (leads_peek h) ?_
  cases rest with
  | nil =>
      have hkind : ¬ v.line.closing.kind = .identifier := v.kind_closing_ne_identifier
      have hpeek : (Cursor.start []).peek v.scope = v.line.closing := rfl
      rw [hpeek, if_neg hkind]
      exact ends_reject _
  | cons t rest =>
      have hpeek : (Cursor.start (t :: rest)).peek v.scope = t := rfl
      rw [hpeek, StatementReading.declaration]
      by_cases hkind : t.kind = .identifier
      · rw [if_pos hkind, if_pos hkind]
        refine .andThen (leads_advance h rfl) (.andThen leads_symbols ?_)
        refine ⟨Cursor.start rest, rfl, ?_⟩
        refine (leads_reportUnless _ _).silently ?_
        exact (leads_declare t.text type).andThen .pure
      · rw [if_neg hkind, if_neg hkind]
        exact ends_reject _

/-! ## Commands -/

section

variable {command : Command} {line : Nat} {behind : Cursor}

/-- Without an argument there is no command. -/
theorem ends_command_of_none {d : Diagnostic} (hrest : behind.rest = rest)
    (hargument : Leads tokens (argument command line) (v.walker c) (v.walker behind) none [d]) :
    v.Ends (Walk.command command line) c (StatementReading.reject v.scope d rest) := by
  refine ⟨behind, hrest, ?_⟩
  exact hargument.silently .pure

/-- A command takes the name behind its keyword. -/
theorem ends_command_of_named {name : String} {type : DataType} {reports : List Diagnostic}
    (hrest : behind.rest = rest)
    (hargument : Leads tokens (argument command line) (v.walker c) (v.walker behind)
      (some (.named name type)) reports) :
    v.Ends (Walk.command command line) c
      ⟨some (.perform command (.named name type) line), reports, rest, v.symbols⟩ := by
  refine ⟨behind, hrest, ?_⟩
  exact hargument.silently .pure

theorem ends_command_of_literal {l : Literal} (hrest : behind.rest = rest)
    (hargument : Leads tokens (argument command line) (v.walker c) (v.walker behind)
      (some (.literal l)) []) :
    v.Ends (Walk.command command line) c
      (StatementReading.literalCommand v.scope command line l rest) := by
  refine ⟨behind, ?_⟩
  cases command with
  | print => exact ⟨hrest, hargument.andThen .pure⟩
  | input => exact ⟨hrest, hargument.andThen (leads_reject _)⟩

/-- No other token is an argument. -/
theorem leads_argument_none (h : c.rest <:+ v.line.tokens)
    (hword : (c.peek v.scope).kind ≠ .identifier) (hnumber : (c.peek v.scope).kind ≠ .number)
    (htext : (c.peek v.scope).kind ≠ .stringLiteral) :
    Leads tokens (argument command line) (v.walker c) (v.walker c) none
      [.semantic (.invalidArgument line command (c.peek v.scope).describe)] := by
  unfold argument
  refine (leads_peek h).andThen ?_
  split
  next hkind => exact absurd hkind hword
  next hkind => exact absurd hkind hnumber
  next hkind => exact absurd hkind htext
  next => exact (leads_report _).silently .pure

end

/-- A command is walked as it is read. -/
theorem ends_command (command : Command) (line : Nat) (h : rest <:+ v.line.tokens) :
    v.Ends (Walk.command command line) (Cursor.start rest)
      (StatementReading.command v.scope command line rest) := by
  cases rest with
  | nil =>
      have hkind : v.line.closing.kind = .endOfLine ∨ v.line.closing.kind = .endOfInput :=
        Token.endsLine_iff.1 v.closes
      refine ends_command_of_none rfl (leads_argument_none h ?_ ?_ ?_)
      · exact v.kind_closing_ne_identifier
      · rcases hkind with hkind | hkind <;> simp [Cursor.peek, Cursor.start, scope, hkind]
      · rcases hkind with hkind | hkind <;> simp [Cursor.peek, Cursor.start, scope, hkind]
  | cons t rest =>
      have hpeek : (Cursor.start (t :: rest)).peek v.scope = t := rfl
      have hadvance := leads_advance (c := Cursor.start (t :: rest)) h rfl
      unfold StatementReading.command
      cases hkind : t.kind with
      | identifier =>
          cases htype : v.symbols.type? t.text with
          | some type =>
              simp only [hkind, StatementReading.variableArgument, scope, htype]
              refine ends_command_of_named (rfl : (Cursor.start rest).rest = rest) ?_
              refine (leads_peek h).andThen ?_
              rw [hpeek, hkind]
              refine hadvance.andThen (leads_symbols.andThen ?_)
              rw [htype]
              exact .pure
          | none =>
              simp only [hkind, StatementReading.variableArgument, scope, htype]
              refine ends_command_of_named (rfl : (Cursor.start rest).rest = rest) ?_
              refine (leads_peek h).andThen ?_
              rw [hpeek, hkind]
              refine hadvance.andThen (leads_symbols.andThen ?_)
              rw [htype]
              exact (leads_report _).silently .pure
      | number =>
          cases hvalue : Numeral.read? t.text with
          | some n =>
              simp only [hkind, hvalue]
              refine ends_command_of_literal (rfl : (Cursor.start rest).rest = rest) ?_
              refine (leads_peek h).andThen ?_
              rw [hpeek, hkind]
              refine hadvance.andThen ?_
              rw [hvalue]
              exact .pure
          | none =>
              simp only [hkind, hvalue]
              refine ends_command_of_none (rfl : (Cursor.start rest).rest = rest) ?_
              refine (leads_peek h).andThen ?_
              rw [hpeek, hkind]
              refine hadvance.andThen ?_
              rw [hvalue]
              exact (leads_report _).silently .pure
      | stringLiteral =>
          simp only [hkind]
          refine ends_command_of_literal (rfl : (Cursor.start rest).rest = rest) ?_
          refine (leads_peek h).andThen ?_
          rw [hpeek, hkind]
          exact hadvance.andThen .pure
      | _ =>
          simp only [hkind]
          refine ends_command_of_none rfl (leads_argument_none h ?_ ?_ ?_)
          · simp [hpeek, hkind]
          · simp [hpeek, hkind]
          · simp [hpeek, hkind]

/-! ## Assignments -/

/-- An assignment is walked as it is read. -/
theorem ends_assignment (target : String) (line : Nat) (h : rest <:+ v.line.tokens) :
    v.Ends (assignment target line) (Cursor.start rest)
      (StatementReading.assignment v.scope target line rest) := by
  have hvalue (type : DataType) := follows_whole type h
  unfold assignment StatementReading.assignment
  refine .andThen leads_symbols ?_
  cases htype : v.symbols.type? target with
  | some type =>
      have hcontains : v.symbols.contains target = true :=
        SymbolTable.contains_iff_type?.2 ⟨type, htype⟩
      simp only [scope, htype, hcontains, Option.getD_some, if_true, List.nil_append]
      exact ⟨_, rfl, Leads.silently (hvalue type) .pure⟩
  | none =>
      have hcontains : v.symbols.contains target = false :=
        SymbolTable.contains_eq_false_iff.2 htype
      simp only [scope, htype, hcontains, Option.getD_none, Bool.false_eq_true, if_false]
      exact ⟨_, rfl, (leads_report _).bind (Leads.silently (hvalue .unknown) .pure)⟩

/-! ## Statements -/

/-- A statement is followed. -/
theorem ends_statement (h : t :: rest <:+ v.line.tokens) :
    v.Ends statement (Cursor.start (t :: rest)) (readStatement v.scope t rest) := by
  have hrest : rest <:+ v.line.tokens := (List.suffix_cons t rest).trans h
  have hpeek : (Cursor.start (t :: rest)).peek v.scope = t := rfl
  have hadvance := leads_advance (c := Cursor.start (t :: rest)) h rfl
  have hinvalid : v.Ends (reject (.grammar (.invalidStatement t.line t.describe)))
      (Cursor.start (t :: rest)) (StatementReading.reject v.scope
        (.grammar (.invalidStatement t.line t.describe)) (t :: rest)) := ends_reject _
  unfold statement readStatement
  refine .andThen (leads_peek h) ?_
  rw [hpeek]
  by_cases hkind : t.kind = .identifier
  · rw [if_pos hkind, if_pos hkind]
    cases DataType.ofKeyword? t.text with
    | some type => exact .andThen hadvance (ends_declaration type t.line hrest)
    | none =>
        cases Command.ofKeyword? t.text with
        | some command => exact .andThen hadvance (ends_command command t.line hrest)
        | none =>
            refine .andThen (leads_peekNext (c := Cursor.start (t :: rest)) h rfl) ?_
            cases rest with
            | nil =>
                rw [if_neg (by simp [Cursor.peek, Cursor.start, scope])]
                exact hinvalid
            | cons u value =>
                have hvalue : value <:+ v.line.tokens := (List.suffix_cons u value).trans hrest
                have hnext : (Cursor.start (t :: u :: value)).advance.peek v.scope = u := rfl
                rw [hnext, Option.any_some]
                simp only
                by_cases hequals : u.isSymbol "=" = true
                · rw [if_pos hequals, if_pos hequals]
                  refine .andThen hadvance ?_
                  refine .andThen (leads_advance (c := Cursor.start (u :: value)) hrest rfl) ?_
                  exact ends_assignment t.text t.line hvalue
                · rw [if_neg hequals, if_neg hequals]
                  exact hinvalid
  · rw [if_neg hkind, if_neg hkind]
    exact hinvalid

/-! ## Lines -/

/-- Behind a statement the walker goes to the end of the line. -/
theorem leads_endLine {r : StatementReading} (h : c.rest <:+ v.line.tokens)
    (hrest : c.rest = r.rest) :
    Leads tokens (endLine r.statement?) (v.walker c)
      (v.walker { c with rest := [] }) () (trailing? r.statement? r.rest).toList := by
  rw [← hrest]
  cases r.statement? with
  | none => exact leads_skipLine h
  | some s =>
      rw [endLine, endStatement]
      refine (leads_peek h).andThen ?_
      obtain ⟨left, room, abandoned⟩ := c
      cases left with
      | nil =>
          have hends : (Cursor.peek v.scope ⟨[], room, abandoned⟩).endsLine = true := v.closes
          rw [if_pos hends]
          exact .pure
      | cons t left =>
          have hends : (Cursor.peek v.scope ⟨t :: left, room, abandoned⟩).endsLine = false :=
            not_endsLine h rfl
          rw [if_neg (by simp [hends])]
          exact (leads_report _).silently (leads_skipLine h)

end Visit

/-- Where a walk has come to between two lines.  What it has counted of the last statement
makes no difference. -/
structure Walker.Between (w : Walker) (index : Nat) (symbols : SymbolTable)
    (reports : List Diagnostic) (attempts : List Attempt) : Prop where
  index_eq : w.index = index
  symbols_eq : w.symbols = symbols
  reports_eq : w.reports = reports
  attempts_eq : w.attempts = attempts
  trail_eq : w.trail = List.range (index + 1)

namespace Visit

open Walk

variable {tokens : List Token} {v : Visit tokens}

/-- In front of a new statement the walker stands at the start of its line. -/
theorem fresh_eq {w : Walker} {reports : List Diagnostic}
    (hw : w.Between v.ahead.length v.symbols reports v.attempts) :
    w.fresh = v.walker (Cursor.start v.line.tokens) reports := by
  have hindex : v.index (Cursor.start v.line.tokens) = v.ahead.length := Nat.add_sub_cancel ..
  simp only [Walker.fresh, walker, hindex, hw.index_eq, hw.symbols_eq, hw.reports_eq,
    hw.attempts_eq, hw.trail_eq]
  rfl

/-- An attempt at a statement reads the line, and ends on the token that ends it. -/
theorem exists_attempt {w : Walker} {reports : List Diagnostic} (hne : v.line.tokens ≠ [])
    (hw : w.Between v.ahead.length v.symbols reports v.attempts) :
    ∃ w', (attempt.run tokens).run w.fresh =
        some ((readLineFrom v.symbols v.line).1.statement?, w') ∧
      w'.Between v.last (readLineFrom v.symbols v.line).2
        (reports ++ (readLineFrom v.symbols v.line).1.diagnostics)
        (v.attempts ++ [⟨v.ahead.length, v.last⟩]) := by
  obtain ⟨t, rest, htokens⟩ := List.exists_cons_of_ne_nil hne
  have hsuffix : t :: rest <:+ v.line.tokens := htokens ▸ List.suffix_refl _
  have hline : readLineFrom v.symbols v.line =
      (⟨(readStatement v.scope t rest).statement?, (readStatement v.scope t rest).reports,
        trailing? (readStatement v.scope t rest).statement? (readStatement v.scope t rest).rest⟩,
        (readStatement v.scope t rest).symbols) := by
    rw [readLineFrom, htokens]
    rfl
  have hbehind : (readStatement v.scope t rest).rest <:+ v.line.tokens :=
    (readStatement_rest_suffix v.scope t rest).trans hsuffix
  obtain ⟨behind, hrest, hstatement⟩ := ends_statement hsuffix
  have hindex : v.index (Cursor.start (t :: rest)) = v.ahead.length := by
    rw [← htokens]
    exact Nat.add_sub_cancel ..
  rw [hline, fresh_eq hw, htokens]
  generalize readStatement v.scope t rest = r at *
  have hend := leads_endLine (v := v.knowing r.symbols) (hrest ▸ hbehind) hrest
  have hattempt : Leads tokens attempt (v.walker (Cursor.start (t :: rest)))
      (fun reports => { (v.knowing r.symbols).walker { behind with rest := [] } reports with
        attempts := v.attempts ++ [⟨v.ahead.length, v.last⟩] })
      r.statement? (r.reports ++ (trailing? r.statement? r.rest).toList) := by
    unfold attempt
    refine (leads_look fun _ => hindex).andThen ?_
    refine hstatement.bind (hend.silently ?_)
    exact (leads_modify fun _ => rfl).andThen .pure
  exact ⟨_, hattempt reports, rfl, rfl, rfl, rfl, rfl⟩

end Visit
end Primer
