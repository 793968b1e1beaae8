import Primer.Proofs.LastLine
import Primer.Proofs.Limit.Assignments
import Primer.Proofs.Writing.RoundTrip

/-!
# The range of integers

A number is read if it fits a signed 32-bit word without a sign in front.  The sign is an
operator and takes part only when constants are folded, so the least integer, whose digits
alone do not fit, cannot be written with them.

Main definitions:

- `Expr.ofNumeral` is what stands for a number that was read, and `rangeReports` is what is
  reported of it.

Main results:

- Theorem `whole_number`: a number alone is a whole expression.
- Theorem `lineGives_assignment`, `lineGives_print` and `lineGives_negation`: what three lines
  with the same digits give.
- Theorem `integers_written`: which integers can be written.
-/

namespace Primer

/-! ## Reading a number -/

/-- The number that digits write, or nothing if it is out of range. -/
def Expr.ofNumeral (text : String) : Expr :=
  match Numeral.read? text with
  | some n => .int n
  | none => .missing

/-- A number out of range is reported. -/
def rangeReports (line : Nat) (text : String) : List Diagnostic :=
  match Numeral.read? text with
  | some _ => []
  | none => [.semantic (.integerOutOfRange line text)]

namespace Reading

/-- A row is its first operand if nothing is left behind that. -/
theorem row_of_last {scope : Scope} {ops : List BinaryOp} {operand : Cursor → Reading} {n : Nat}
    {c : Cursor} (h : (operand c).cursor.rest = []) : row scope ops operand n c = operand c := by
  have hnone : (operand c).cursor.binaryOp? ops = none := by
    simp [Cursor.binaryOp?, Cursor.symbol?, h]
  rw [row, chain_of_none hnone]
  simp [after]

/-- A sum is its first operand if nothing is left behind that. -/
theorem whole_of_last {scope : Scope} {tokens : List Token}
    (h : (factor scope growthLimit .integer (Cursor.start tokens)).cursor.rest = []) :
    whole scope .integer tokens = factor scope growthLimit .integer (Cursor.start tokens) := by
  have hproduct : row scope [.mul, .div] (factor scope growthLimit .integer) growthLimit
      (Cursor.start tokens) = factor scope growthLimit .integer (Cursor.start tokens) :=
    row_of_last h
  exact (row_of_last (by rw [hproduct, h])).trans hproduct

section

variable {t : Token} (hkind : t.kind = .number)

include hkind

/-- A number is read as its numeral, and reported if it is out of range. -/
theorem atom_of_number (scope : Scope) (c : Cursor) :
    atom scope t c = ⟨.ofNumeral t.text, rangeReports t.line t.text, c.advance⟩ := by
  unfold atom Expr.ofNumeral rangeReports
  cases Numeral.read? t.text <;> simp [hkind]

/-- An operand that is a number takes one token. -/
theorem factor_of_number (scope : Scope) (n : Nat) {c : Cursor} {rest : List Token}
    (hrest : c.rest = t :: rest) :
    factor scope n .integer c =
      ⟨.ofNumeral t.text, rangeReports t.line t.text, c.advance⟩ :=
  factor_of_token (by simp [hkind]) n .integer hrest (atom_of_number hkind scope c)

/-- A number is a whole expression. -/
theorem whole_number (scope : Scope) :
    whole scope .integer [t] =
      ⟨.ofNumeral t.text, rangeReports t.line t.text, ⟨[], growthLimit, false⟩⟩ := by
  have hfactor : factor scope growthLimit .integer (Cursor.start [t]) =
      ⟨.ofNumeral t.text, rangeReports t.line t.text, ⟨[], growthLimit, false⟩⟩ :=
    factor_of_number hkind scope growthLimit rfl
  rw [whole_of_last (by rw [hfactor]), hfactor]

/-- A minus sign in front of a number negates it, whether or not the number is in range. -/
theorem whole_negated {minus : Token} (hminus : minus.isSymbol "-" = true) (scope : Scope) :
    whole scope .integer [minus, t] =
      ⟨.negate (.ofNumeral t.text), rangeReports t.line t.text, ⟨[], 511, false⟩⟩ := by
  have hbracket : minus.isSymbol "(" = false := by
    simp [Token.isSymbol, (Token.isSymbol_iff.1 hminus).2]
  have hinner : factor scope 511 .integer ⟨[t], 511, false⟩ =
      ⟨.ofNumeral t.text, rangeReports t.line t.text, ⟨[], 511, false⟩⟩ :=
    factor_of_number hkind scope 511 rfl
  have hfactor : factor scope growthLimit .integer (Cursor.start [minus, t]) =
      ⟨.negate (.ofNumeral t.text), rangeReports t.line t.text, ⟨[], 511, false⟩⟩ := by
    have hgrow : (Cursor.start [minus, t]).advance.grow? = some ⟨[t], 511, false⟩ := rfl
    show factor scope (511 + 1) .integer (Cursor.start [minus, t]) = _
    rw [factor_succ, operandOver_sign rfl hbracket (by simp [hminus]) hgrow, hinner]
    rfl
  rw [whole_of_last (by rw [hfactor]), hfactor]

end

end Reading

/-! ## Reading a line -/

section

variable {symbols : SymbolTable} {closing : Token}

/-- A line that starts an assignment and holds a whole expression behind it is the
assignment. -/
theorem readLineFrom_of_whole {first equals : Token} (h : StartsAssignment first equals)
    {type : DataType} (htype : symbols.type? first.text = some type) {tokens : List Token}
    {e : Expr} {reports : List Diagnostic} {room : Nat}
    (hwhole : Reading.whole ⟨symbols, closing⟩ type tokens = ⟨e, reports, ⟨[], room, false⟩⟩) :
    (readLineFrom symbols ⟨first :: equals :: tokens, closing⟩).1 =
      ⟨some (.assign first.text type e first.line), reports, none⟩ := by
  have hcontains : symbols.contains first.text = true :=
    SymbolTable.contains_iff_type?.2 ⟨type, htype⟩
  simp [readLineFrom, readStatement_assignment h, StatementReading.assignment, htype, hwhole,
    hcontains, trailing?]

/-- A number behind the keyword is printed if it is in range. -/
theorem readLineFrom_print {word t : Token} (hword : word.kind = .identifier)
    (htext : word.text = "PRINT") (hkind : t.kind = .number) :
    (readLineFrom symbols ⟨[word, t], closing⟩).1 =
      ⟨(Numeral.read? t.text).map fun n => .perform .print (.literal (.int n)) word.line,
        rangeReports t.line t.text, none⟩ := by
  have hread := readStatement_of_command .print ⟨symbols, closing⟩ hword htext [t]
  simp only [readLineFrom, hread, StatementReading.command, hkind, rangeReports]
  cases Numeral.read? t.text with
  | none => rfl
  | some n => rfl

end

/-! ## Digits -/

/-- Digits that fit are read as their value; nothing is reported then. -/
theorem read?_of_fits {d : List Char} (hne : d ≠ []) (hdigits : ∀ c ∈ d, IsDecimal c)
    (h : Numeral.value d ≤ 2147483647) :
    ∃ n : Int32, n.toInt = Numeral.value d ∧ Numeral.read? (String.ofList d) = some n := by
  have hread := Numeral.read?_of_isDigit hne fun c hc => isDigit_iff.2 (hdigits c hc)
  have hfits : Numeral.Fits (Numeral.value d) := ⟨by omega, by omega⟩
  cases hword : Numeral.word? (Numeral.value d) with
  | none => exact absurd hfits (Numeral.word?_eq_none_iff.1 hword)
  | some n => exact ⟨n, Numeral.word?_eq_some_iff.1 hword, hread.trans hword⟩

/-- Digits above the greatest word have no value. -/
theorem read?_of_not_fits {d : List Char} (hne : d ≠ []) (hdigits : ∀ c ∈ d, IsDecimal c)
    (h : 2147483647 < Numeral.value d) : Numeral.read? (String.ofList d) = none := by
  rw [Numeral.read?_of_isDigit hne fun c hc => isDigit_iff.2 (hdigits c hc),
    Numeral.word?_eq_none_iff]
  rintro ⟨-, hhigh⟩
  omega

/-! ## Scanning a line -/

/-- A text that is scanned as lexemes alone gives them. -/
theorem ScannedAs.lexemes_toList {text : String} {ls : List Lexeme} (h : ScannedAs text ls) :
    lexemes text.toList = ls := by
  have hend := h.lexemes_eq [] nofun
  simpa [lexemes] using hend

section

variable {name value : String} {ls : List Lexeme}

/-- An assignment with blanks around the equals sign. -/
theorem lexemes_assignment (hname : IsName name) (hvalue : ScannedAs value ls) :
    lexemes (name ++ " = " ++ value).toList = .word name.toList :: .symbol ['='] :: ls := by
  have hgap : ∀ c ∈ " ".toList, IsBlank c := by simp [IsBlank]
  have hjoined : ScannedAs (name ++ " " ++ "=" ++ " " ++ value) _ :=
    .joined hgap separates_equals (.name hname) hvalue
  have htext : name ++ " = " ++ value = name ++ " " ++ "=" ++ " " ++ value := by
    rw [← String.toList_inj]
    simp
  rw [htext]
  exact hjoined.lexemes_toList

/-- The tokens of an assignment are its target, the equals sign and its expression. -/
theorem tokensOn_assignment (hname : IsName name) (line : Nat) (ls : List Lexeme) :
    tokensOn line (.word name.toList :: .symbol ['='] :: ls) =
      ⟨.identifier, name, line⟩ :: ⟨.symbol, "=", line⟩ :: tokensOn line ls := by
  rw [tokensOn_cons, token_of_isName hname, tokensOn_cons]
  rfl

end

/-! ## Three lines with the same digits -/

/-- A number that was read is a constant, or there is nothing to fold. -/
theorem folding_ofNumeral (options : Options) (name text : String) (line : Nat) :
    options.folding [.assign name .integer (.ofNumeral text) line] =
      ⟨[.assign name .integer (.ofNumeral text) line], []⟩ := by
  unfold Expr.ofNumeral Options.folding
  cases Numeral.read? text <;> cases options.fold <;> rfl

/-- A command is left as it is by folding. -/
theorem folding_print (options : Options) (n? : Option Int32) (line : Nat) :
    options.folding (n?.map fun n => .perform .print (.literal (.int n)) line).toList =
      ⟨(n?.map fun n => .perform .print (.literal (.int n)) line).toList, []⟩ := by
  unfold Options.folding
  cases n? <;> cases options.fold <;> rfl

/-- A number is negated when constants are folded, if the result is in range. -/
theorem foldConstants_negated {m n : Int32} (h : m.toInt = -n.toInt) (name : String) (line : Nat) :
    (foldConstants [.assign name .integer (.negate (.int n)) line]).program =
        [.assign name .integer (.int m) line] ∧
      (foldConstants [.assign name .integer (.negate (.int n)) line]).faults = [] := by
  have happly : BinaryOp.sub.apply 0 n = .ok m := by
    rw [BinaryOp.apply_eq_ok_iff, h]
    exact congrArg some (Int.zero_sub n.toInt)
  have hfold : foldArithmetic line (.negate (.int n)) =
      ⟨.int m, [.folded line (.negate (.int n)) m]⟩ := by
    simp [foldArithmetic, Expr.int, FoldedExpr.keep, settleNegate, Expr.int?, settle, happly,
      FoldedExpr.after]
  have hwalk : arithmeticWalk [.assign name .integer (.negate (.int n)) line] =
      ⟨[.assign name .integer (.int m) line], [.folded line (.negate (.int n)) m]⟩ := by
    simp only [arithmeticWalk, walkProgram, List.map_cons, List.map_nil, Statement.walk, hfold,
      List.flatMap_cons, List.flatMap_nil, List.append_nil]
  rw [foldConstants, hwalk]
  exact ⟨rfl, rfl⟩

section

variable {options : Options} {front : String}
  (hsilent : (compile options front).diagnostics = [])

include hsilent

/-- Behind an integer variable and an equals sign, an expression is assigned that folds without
a fault. -/
theorem lineGives_of_whole {name : String} (hname : IsName name) (hkeyword : ¬ IsKeyword name)
    (htype : (compile options front).symbols.type? name = some .integer) {value : String}
    {ls : List Lexeme} (hvalue : ScannedAs value ls) (hsound : ∀ l ∈ ls, l.isSound = true)
    {e : Expr} {reports : List Diagnostic} {room : Nat}
    (hwhole : ∀ scope, Reading.whole scope .integer (tokensOn (2 + front.toList.count '\n') ls) =
      ⟨e, reports, ⟨[], room, false⟩⟩)
    (hfaults : (options.folding
      [.assign name .integer e (2 + front.toList.count '\n')]).faults = []) :
    LineGives options front (name ++ " = " ++ value)
      (options.folding [.assign name .integer e (2 + front.toList.count '\n')]).program
      reports := by
  have hread (closing : Token) : (readLineFrom (compile options front).symbols
      ⟨tokensOn (2 + front.toList.count '\n') (.word name.toList :: .symbol ['='] :: ls),
        closing⟩).1 =
      ⟨some (.assign name .integer e (2 + front.toList.count '\n')), reports, none⟩ := by
    rw [tokensOn_assignment hname]
    exact readLineFrom_of_whole ⟨rfl, hkeyword, rfl⟩ htype (hwhole _)
  exact lineGives_of_read hsilent (lexemes_assignment hname hvalue) (List.cons_ne_nil _ _)
    (by simpa [Lexeme.isSound] using hsound) (hread _) hfaults

variable {d : List Char} (hne : d ≠ []) (hdigits : ∀ c ∈ d, IsDecimal c)

include hne hdigits

/-- Behind the keyword of a command, the number is printed if it is in range. -/
theorem lineGives_print :
    let line := 2 + front.toList.count '\n'
    LineGives options front ("PRINT " ++ String.ofList d)
      ((Numeral.read? (String.ofList d)).map fun n =>
        .perform .print (.literal (.int n)) line).toList
      (rangeReports line (String.ofList d)) := by
  intro line
  have hlexemes : lexemes ("PRINT " ++ String.ofList d).toList =
      [.word "PRINT".toList, .digits d] :=
    (ScannedAs.spaced (.name (isName_commandKeyword .print)) (.digits hne hdigits)).lexemes_toList
  let word : Token := ⟨.identifier, "PRINT", line⟩
  let number : Token := ⟨.number, String.ofList d, line⟩
  have hread : (readLineFrom (compile options front).symbols
      ⟨[word, number], ⟨.endOfLine, "", line⟩⟩).1 = _ := readLineFrom_print rfl rfl rfl
  have hfolding := folding_print options (Numeral.read? (String.ofList d)) line
  have hgives := lineGives_of_read hsilent hlexemes (List.cons_ne_nil _ _)
    (by simp [Lexeme.isSound]) hread (congrArg Folding.faults hfolding)
  rwa [hfolding] at hgives

variable {name : String} (hname : IsName name) (hkeyword : ¬ IsKeyword name)
  (htype : (compile options front).symbols.type? name = some .integer)

include hname hkeyword htype

/-- The number is assigned if it is in range, and otherwise there is nothing in its place. -/
theorem lineGives_assignment :
    let line := 2 + front.toList.count '\n'
    LineGives options front (name ++ " = " ++ String.ofList d)
      [.assign name .integer (.ofNumeral (String.ofList d)) line]
      (rangeReports line (String.ofList d)) := by
  intro line
  have hwhole (scope : Scope) : Reading.whole scope .integer (tokensOn line [.digits d]) =
      ⟨.ofNumeral (String.ofList d), rangeReports line (String.ofList d),
        ⟨[], growthLimit, false⟩⟩ := Reading.whole_number rfl scope
  have hfolding := folding_ofNumeral options name (String.ofList d) line
  have hgives := lineGives_of_whole hsilent hname hkeyword htype (.digits hne hdigits)
    (by simp [Lexeme.isSound]) hwhole (congrArg Folding.faults hfolding)
  rwa [congrArg Folding.program hfolding] at hgives

/-- What was read of the number is negated, if that folds without a fault. -/
theorem lineGives_negation {e : Expr} {reports : List Diagnostic} :
    let line := 2 + front.toList.count '\n'
    let statement := Statement.assign name .integer (.negate e) line
    Expr.ofNumeral (String.ofList d) = e → rangeReports line (String.ofList d) = reports →
      (options.folding [statement]).faults = [] →
      LineGives options front (name ++ " = " ++ ("-" ++ String.ofList d))
        (options.folding [statement]).program reports := by
  rintro line statement rfl rfl hfaults
  have hwhole (scope : Scope) :
      Reading.whole scope .integer (tokensOn line [.symbol ['-'], .digits d]) =
        ⟨.negate (.ofNumeral (String.ofList d)), rangeReports line (String.ofList d),
          ⟨[], 511, false⟩⟩ := Reading.whole_negated rfl rfl scope
  exact lineGives_of_whole hsilent hname hkeyword htype (ScannedAs.digits hne hdigits).negated
    (by simp [Lexeme.isSound]) hwhole hfaults

/-- When constants are folded, a number in range is replaced by its negative. -/
theorem lineGives_negative (hfold : options.fold = true) {m n : Int32}
    (hread : Numeral.read? (String.ofList d) = some n) (hm : m.toInt = -n.toInt) :
    let line := 2 + front.toList.count '\n'
    LineGives options front (name ++ " = " ++ ("-" ++ String.ofList d))
      [.assign name .integer (.int m) line] [] := by
  intro line
  have hnumber : Expr.ofNumeral (String.ofList d) = .int n := by rw [Expr.ofNumeral, hread]
  have hreports : rangeReports line (String.ofList d) = [] := by rw [rangeReports, hread]
  have hfolding : options.folding [.assign name .integer (.negate (.int n)) line] =
      foldConstants [.assign name .integer (.negate (.int n)) line] := if_pos hfold
  obtain ⟨hprogram, hfaults⟩ := foldConstants_negated hm name line
  rw [← hfolding] at hprogram hfaults
  have hgives := lineGives_negation hsilent hne hdigits hname hkeyword htype hnumber hreports
    hfaults
  rwa [hprogram] at hgives

/-- A number out of range is reported, and its negative is not known. -/
theorem lineGives_negated_missing (hread : Numeral.read? (String.ofList d) = none) :
    let line := 2 + front.toList.count '\n'
    LineGives options front (name ++ " = " ++ ("-" ++ String.ofList d))
      [.assign name .integer (.negate .missing) line]
      [.semantic (.integerOutOfRange line (String.ofList d))] := by
  intro line
  have hnumber : Expr.ofNumeral (String.ofList d) = .missing := by rw [Expr.ofNumeral, hread]
  have hreports : rangeReports line (String.ofList d) =
      [.semantic (.integerOutOfRange line (String.ofList d))] := by rw [rangeReports, hread]
  have hfolding : options.folding [.assign name .integer (.negate .missing) line] =
      ⟨[.assign name .integer (.negate .missing) line], []⟩ := by
    unfold Options.folding
    cases options.fold <;> rfl
  have hgives := lineGives_negation hsilent hne hdigits hname hkeyword htype hnumber hreports
    (congrArg Folding.faults hfolding)
  rwa [hfolding] at hgives

end

/-! ## Which integers can be written -/

/-- Digits write every number up to `2 ^ 31 - 1`, whatever zeros stand in front; behind a text
that is compiled without a diagnostic and declares the variable as an integer, it is assigned
and printed without a diagnostic.  A larger number is reported, once, and there is nothing in
its place, so that it is not printed.  Since it is reported without regard to a sign in front,
the negated number is assigned, when constants are folded, for the same digits: the least
integer is not among them, although it is in range. -/
theorem integers_written {options : Options} {front name : String} {d : List Char}
    (hsilent : (compile options front).diagnostics = []) (hname : IsName name)
    (hkeyword : ¬ IsKeyword name)
    (htype : (compile options front).symbols.type? name = some .integer) (hne : d ≠ [])
    (hdigits : ∀ c ∈ d, '0' ≤ c ∧ c ≤ '9') :
    let text := String.ofList d
    let v := Numeral.value d
    let line := 2 + front.toList.count '\n'
    let report : Diagnostic := .semantic (.integerOutOfRange line text)
    (v ≤ 2147483647 → ∃ n : Int32, n.toInt = v ∧
        LineGives options front (name ++ " = " ++ text) [.assign name .integer (.int n) line] [] ∧
        LineGives options front ("PRINT " ++ text) [.perform .print (.literal (.int n)) line] []) ∧
      (2147483647 < v →
        LineGives options front (name ++ " = " ++ text) [.assign name .integer .missing line]
            [report] ∧
          LineGives options front ("PRINT " ++ text) [] [report]) ∧
      (options.fold = true →
        ((∃ n : Int32, n.toInt = -(v : Int) ∧
            LineGives options front (name ++ " = " ++ ("-" ++ text))
              [.assign name .integer (.int n) line] []) ↔
          v ≤ 2147483647)) := by
  intro text v line report
  have hassign := lineGives_assignment hsilent hne hdigits hname hkeyword htype
  have hprint := lineGives_print hsilent hne hdigits
  simp only [Expr.ofNumeral, rangeReports] at hassign hprint
  refine ⟨?_, ?_, ?_⟩
  · intro hfits
    obtain ⟨n, hn, hread⟩ := read?_of_fits hne hdigits hfits
    rw [hread] at hassign hprint
    exact ⟨n, hn, hassign, hprint⟩
  · intro hlarge
    rw [read?_of_not_fits hne hdigits hlarge] at hassign hprint
    exact ⟨hassign, hprint⟩
  · intro hfold
    constructor
    · rintro ⟨n, -, hgives⟩
      by_contra hlarge
      have hread := read?_of_not_fits hne hdigits (Nat.lt_of_not_le hlarge)
      have hmissing := lineGives_negated_missing hsilent hne hdigits hname hkeyword htype hread
      cases hgives.diagnostics_eq.symm.trans hmissing.diagnostics_eq
    · intro hfits
      obtain ⟨n, hn, hread⟩ := read?_of_fits hne hdigits hfits
      have hnegative : Numeral.Fits (-n.toInt) := ⟨by omega, by omega⟩
      have hm := Numeral.toInt_ofInt hnegative
      exact ⟨Int32.ofInt (-n.toInt), by rw [hm, hn],
        lineGives_negative hsilent hne hdigits hname hkeyword htype hfold hread hm⟩

/-- The greatest integer, with a zero in front, is written with and without a sign. -/
theorem integers_written_greatest :
    let front := "INT a"
    let d := "02147483647".toList
    let text := String.ofList d
    (compile .standard front).diagnostics = [] ∧ IsName "A" ∧ ¬ IsKeyword "A" ∧
      (compile .standard front).symbols.type? "A" = some .integer ∧ d ≠ [] ∧
      (∀ c ∈ d, '0' ≤ c ∧ c ≤ '9') ∧ Numeral.value d = 2147483647 ∧
      (∃ n : Int32, n.toInt = Numeral.value d ∧
        LineGives .standard front ("A" ++ " = " ++ text) [.assign "A" .integer (.int n) 2] [] ∧
        LineGives .standard front ("PRINT " ++ text) [.perform .print (.literal (.int n)) 2] []) ∧
      ∃ n : Int32, n.toInt = -(Numeral.value d : Int) ∧
        LineGives .standard front ("A" ++ " = " ++ ("-" ++ text))
          [.assign "A" .integer (.int n) 2] [] := by
  intro front d text
  have hsilent : (compile .standard front).diagnostics = [] := by decide +kernel
  have htype : (compile .standard front).symbols.type? "A" = some .integer := by decide +kernel
  have hdigits : ∀ c ∈ d, '0' ≤ c ∧ c ≤ '9' := by simp [d]
  have hvalue : Numeral.value d = 2147483647 := by decide +kernel
  have hname : IsName "A" := by decide
  have hkeyword : ¬ IsKeyword "A" := by decide
  have hne : d ≠ [] := by decide +kernel
  have hline : 2 + front.toList.count '\n' = 2 := by decide +kernel
  have hwritten := integers_written hsilent hname hkeyword htype hne hdigits
  simp only [hline] at hwritten
  have hfits : Numeral.value d ≤ 2147483647 := Nat.le_of_eq hvalue
  exact ⟨hsilent, hname, hkeyword, htype, hne, hdigits, hvalue, hwritten.1 hfits,
    (hwritten.2.2 rfl).2 hfits⟩

/-- The least integer is in range, but its digits alone are not. -/
theorem least_integer_not_written :
    let c := compile .standard "INT A\nA = -2147483648"
    Numeral.Fits (-(Numeral.value "2147483648".toList : Int)) ∧
      c.symbols.type? "A" = some .integer ∧
      c.program = [.declare "A" .integer 1, .assign "A" .integer (.negate .missing) 2] ∧
      c.diagnostics = [.semantic (.integerOutOfRange 2 "2147483648")] := by
  decide +kernel

end Primer
