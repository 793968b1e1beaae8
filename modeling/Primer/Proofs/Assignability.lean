import Primer.Proofs.Grammar.Acceptance
import Primer.Proofs.Limit.Assignments
import Primer.Scan

/-!
# Declared names can be assigned to

A name that was declared without complaint keeps its type whatever is read behind it, so that
later lines can assign to it.  The one exception are the words of the types.  They may be
declared, as they start no command; but a line that starts with one is read as a
declaration, and an equals sign is no name that it could declare.

Main results:

- Theorem `type?_readLines`: what has a type keeps it, whatever lines are read.
- Theorem `type?_of_declared`: a name that is declared without complaint has its type from
  there on.
- Theorem `assignable_iff`: which of the declared names can be assigned to.
-/

namespace Primer

/-! ## Types are kept -/

/-- A declaration takes no name its type. -/
theorem SymbolTable.type?_declare_of_type? {table : SymbolTable} {x : String} {type : DataType}
    (h : table.type? x = some type) (name : String) (other : DataType) :
    (table.declare name other).type? x = some type := by
  rw [type?_declare, h]
  rfl

section

variable {symbols : SymbolTable} {x : String} {type : DataType}

/-- A statement keeps the type of every name declared before it. -/
theorem type?_of_composed {scope : Scope} {t : Token} {rest : List Token} {r : StatementReading}
    (hread : StatementComposed scope t rest r) (h : scope.symbols.type? x = some type) :
    r.symbols.type? x = some type := by
  cases hread with
  | declared hword htype hname => exact SymbolTable.type?_declare_of_type? h _ _
  | invalid => exact h
  | nameless => exact h
  | named hword htext hname => exact h
  | printed hword htext hconstant => exact h
  | inputLiteral hconstant => exact h
  | outOfRange => exact h
  | argumentless => exact h
  | assigned hword hkeyword hequals => exact h

/-- What has a type in front of a line has it behind the line. -/
theorem type?_readLineFrom (h : symbols.type? x = some type) (line : Line) :
    (readLineFrom symbols line).2.type? x = some type := by
  rcases line with ⟨tokens, closing⟩
  cases tokens with
  | nil => exact h
  | cons t rest => exact type?_of_composed (composed_readStatement ⟨symbols, closing⟩ t rest) h

/-- What has a type keeps it, whatever lines are read. -/
theorem type?_readLines (h : symbols.type? x = some type) (lines : List Line) :
    (readLines symbols lines).2.type? x = some type := by
  induction lines generalizing symbols with
  | nil => exact h
  | cons line lines ih =>
      rw [readLines_cons]
      exact ih (type?_readLineFrom h line)

end

/-! ## Declarations without complaint -/

section

variable {symbols : SymbolTable} {line : Line} {name : String} {type : DataType} {n : Nat}

/-- A line that declares a name without complaint is a declaration of the grammar. -/
theorem statementForm_of_declared
    (h : (readLineFrom symbols line).1 = ⟨some (.declare name type n), [], none⟩) :
    StatementForm symbols line.tokens (.declare name type n) := by
  have hne : line.tokens ≠ [] := by
    intro hnil
    rcases line with ⟨tokens, closing⟩
    obtain rfl : tokens = [] := hnil
    cases h
  rw [statementForm_iff hne, h]
  exact ⟨rfl, rfl⟩

/-- A name that the grammar lets a line declare starts no command and has no type yet. -/
theorem fresh_of_statementForm {tokens : List Token}
    (h : StatementForm symbols tokens (.declare name type n)) :
    name ≠ "PRINT" ∧ name ≠ "INPUT" ∧ symbols.type? name = none := by
  cases h with
  | declare hword htype hname hprint hinput hfresh => exact ⟨hprint, hinput, hfresh⟩

/-- A name that is declared without complaint has its type from there on. -/
theorem type?_of_declared
    (h : (readLineFrom symbols line).1 = ⟨some (.declare name type n), [], none⟩)
    (lines : List Line) :
    (readLines symbols (line :: lines)).2.type? name = some type := by
  have hform := statementForm_of_declared h
  obtain ⟨-, -, hfresh⟩ := fresh_of_statementForm hform
  have hbehind : (readLineFrom symbols line).2 = symbols.declare name type :=
    symbols_of_statementForm hform
  rw [readLines_cons]
  refine type?_readLines ?_ lines
  rw [hbehind, SymbolTable.type?_declare, hfresh]
  simp

end

/-! ## Later lines -/

/-- A word is no keyword if it starts neither a command nor a declaration. -/
theorem not_isKeyword_iff {word : String} (hprint : word ≠ "PRINT") (hinput : word ≠ "INPUT") :
    ¬ IsKeyword word ↔ DataType.ofKeyword? word = none := by
  constructor
  · intro h
    exact (ofKeyword?_of_not_isKeyword h).1
  · rintro h (rfl | rfl | rfl | rfl | rfl)
    · cases h
    · cases h
    · cases h
    · exact hprint rfl
    · exact hinput rfl

/-- Behind the word of a type, an equals sign stands in the place of a name. -/
theorem readLineFrom_of_typeWord {target equals : Token} {type : DataType}
    (htarget : target.kind = .identifier) (htype : DataType.ofKeyword? target.text = some type)
    (hequals : equals.isSymbol "=" = true) (symbols : SymbolTable) (value : List Token)
    (closing : Token) :
    (readLineFrom symbols ⟨target :: equals :: value, closing⟩).1 =
      ⟨none, [.grammar (.expectedIdentifier target.line equals.describe)], none⟩ := by
  have hkind : equals.kind ≠ .identifier := by simp [(Token.isSymbol_iff.1 hequals).1]
  simp [readLineFrom, readStatement, htarget, htype, StatementReading.declaration, hkind,
    StatementReading.reject, trailing?]

/-- Behind a line that declares a name without complaint, a later line may hold the name, an
equals sign and an expression of the grammar for the type of the name.  It is read as this
assignment, without a diagnostic, exactly if the name is not the word of a type.  If it is
one, the line is rejected, as the equals sign is no name to declare. -/
theorem assignable_iff {tokens : List Token} {before between behind : List Line}
    {declaring later : Line} {name : String} {type : DataType} {n : Nat} {target equals : Token}
    {value : List Token} {e : Expr}
    (hlines : splitLines (closeTokens tokens) =
      before ++ declaring :: (between ++ later :: behind))
    (hdeclared : (parse tokens).lines[before.length]? =
      some ⟨some (.declare name type n), [], none⟩)
    (hlater : later.tokens = target :: equals :: value) (htarget : target.kind = .identifier)
    (hname : target.text = name) (hequals : equals.isSymbol "=" = true)
    (hvalue : Derives (readLines SymbolTable.empty (before ++ declaring :: between)).2
      (.ofType type) value e)
    (hsize : growth value ≤ 512) :
    let outcome := (parse tokens).lines[(before ++ declaring :: between).length]?
    (outcome = some ⟨some (.assign name type e target.line), [], none⟩ ↔
        DataType.ofKeyword? name = none) ∧
      (DataType.ofKeyword? name ≠ none → outcome =
        some ⟨none, [.grammar (.expectedIdentifier target.line equals.describe)], none⟩) := by
  intro outcome
  subst hname
  rcases later with ⟨laterTokens, closing⟩
  obtain rfl : laterTokens = target :: equals :: value := hlater
  have hread : (readLineFrom (readLines SymbolTable.empty before).2 declaring).1 =
      ⟨some (.declare target.text type n), [], none⟩ := by
    refine Option.some.inj (Eq.trans ?_ hdeclared)
    show _ = (readLines SymbolTable.empty (splitLines (closeTokens tokens))).1[before.length]?
    rw [hlines, getElem?_readLines]
  have houtcome : outcome =
      some (readLineFrom (readLines SymbolTable.empty (before ++ declaring :: between)).2
        ⟨target :: equals :: value, closing⟩).1 := by
    show (readLines SymbolTable.empty (splitLines (closeTokens tokens))).1[_]? = _
    rw [hlines, ← getElem?_readLines, List.append_assoc, List.cons_append]
  generalize hsymbols : (readLines SymbolTable.empty (before ++ declaring :: between)).2 = symbols
    at hvalue houtcome
  have htype : symbols.type? target.text = some type := by
    rw [← hsymbols, readLines_append]
    exact type?_of_declared hread between
  obtain ⟨hprint, hinput, -⟩ := fresh_of_statementForm (statementForm_of_declared hread)
  cases hword : DataType.ofKeyword? target.text with
  | none =>
      have hkeyword := (not_isKeyword_iff hprint hinput).2 hword
      have hform : StatementForm symbols (target :: equals :: value)
          (.assign target.text type e target.line) :=
        .assign htarget hkeyword hequals htype hvalue hsize
      refine ⟨iff_of_true ?_ rfl, fun h => absurd rfl h⟩
      rw [houtcome]
      simp [readLineFrom, readStatement_of_statementForm hform closing, trailing?]
  | some other =>
      rw [readLineFrom_of_typeWord htarget hword hequals] at houtcome
      rw [houtcome]
      exact ⟨iff_of_false (by simp) (by simp), fun _ => rfl⟩

/-- Behind the declaration of `A` and a line that is rejected, `A = A + 1` is read. -/
theorem assignable_iff_sum :
    let declaring : Line := ⟨[⟨.identifier, "INT", 1⟩, ⟨.identifier, "A", 1⟩], ⟨.endOfLine, "", 1⟩⟩
    let rejected : Line := ⟨[⟨.symbol, ")", 2⟩], ⟨.endOfLine, "", 2⟩⟩
    let target : Token := ⟨.identifier, "A", 3⟩
    let equals : Token := ⟨.symbol, "=", 3⟩
    let value : List Token := [⟨.identifier, "A", 3⟩, ⟨.symbol, "+", 3⟩, ⟨.number, "1", 3⟩]
    let later : Line := ⟨target :: equals :: value, ⟨.endOfLine, "", 3⟩⟩
    let tokens := declaring.tokens ++ declaring.closing ::
      (rejected.tokens ++ rejected.closing :: later.tokens)
    let symbols := (readLines SymbolTable.empty ([] ++ declaring :: [rejected])).2
    splitLines (closeTokens tokens) =
        [] ++ declaring :: ([rejected] ++ later :: [⟨[], ⟨.endOfInput, "", 3⟩⟩]) ∧
      (parse tokens).lines[0]? = some ⟨some (.declare "A" .integer 1), [], none⟩ ∧
      Derives symbols (.ofType .integer) value (.binary .add (.named "A") (.int 1)) ∧
      (parse tokens).lines[2]? =
        some ⟨some (.assign "A" .integer (.binary .add (.named "A") (.int 1)) 3), [], none⟩ := by
  intro declaring rejected target equals value later tokens symbols
  have hlines : splitLines (closeTokens tokens) =
      [] ++ declaring :: ([rejected] ++ later :: [⟨[], ⟨.endOfInput, "", 3⟩⟩]) := by
    decide +kernel
  have hdeclared : (parse tokens).lines[0]? =
      some ⟨some (.declare "A" .integer 1), [], none⟩ := by
    decide +kernel
  have hcontains : symbols.contains "A" = true := by decide +kernel
  have hone : Numeral.read? "1" = some 1 := by decide +kernel
  have hfront : Derives symbols (.row .sum) [⟨.identifier, "A", 3⟩] (.named "A") :=
    .single (.single (.named rfl hcontains))
  have hback : Derives symbols (.row .product) [⟨.number, "1", 3⟩] (.int 1) :=
    .single (.literal (.number rfl hone))
  have hvalue : Derives symbols (.ofType .integer) value (.binary .add (.named "A") (.int 1)) :=
    .joined hfront List.mem_cons_self rfl hback
  exact ⟨hlines, hdeclared, hvalue,
    (assignable_iff hlines hdeclared rfl rfl rfl rfl hvalue (by decide +kernel)).1.2 rfl⟩

/-- The name `INT` is declared without complaint, but the line that assigns to it is
rejected. -/
theorem typeWord_not_assignable :
    let tokens := (scan "INT int\nint = 1\n").tokens
    let value : Token := ⟨.number, "1", 2⟩
    (splitLines (closeTokens tokens)).map Line.tokens =
        [[⟨.identifier, "INT", 1⟩, ⟨.identifier, "INT", 1⟩],
          [⟨.identifier, "INT", 2⟩, ⟨.symbol, "=", 2⟩, value], []] ∧
      (∀ symbols, Derives symbols (.ofType .integer) [value] (.int 1)) ∧
      (parse tokens).lines =
        [⟨some (.declare "INT" .integer 1), [], none⟩,
          ⟨none, [.grammar (.expectedIdentifier 2 "=")], none⟩, ⟨none, [], none⟩] := by
  intro tokens value
  have hvalue : Numeral.read? value.text = some 1 := by decide +kernel
  refine ⟨by decide +kernel, ?_, by decide +kernel⟩
  intro symbols
  exact .single (.single (.literal (.number rfl hvalue)))

end Primer
