import Primer.Compilation
import Primer.Proofs.Grammar.Acceptance
import Primer.Proofs.Writing.Scanning

/-!
# Reading what was written

The tokens of what was written are derived by the grammar, with the tree that was written.
Brackets are put exactly where an operand of a row is weaker than the row, and so each
form of the grammar belongs to one strength.

Main definitions:

- `Mode.level` is the form in which an operand of a given strength is read.

Main results:

- Theorem `derives_lexemes`: an expression that was written is derived at its level.
- Theorem `growth_tokensOn`: the operators and opening brackets in its tokens are counted
  along the tree.
- Theorem `programForm_tokens`: the statements of a program are derived one after
  another.
- Theorem `compile_written`: compiling a program that was written gives it back.
-/

namespace Primer

/-! ## Levels of the grammar -/

/-- The form in which an operand of the strength is read. -/
def Mode.level : Mode → Nat → Nonterminal
  | .number, 0 => .row .sum
  | .number, 1 => .row .product
  | .number, _ => .operand .number
  | .text, 0 => .row .concatenation
  | .text, _ => .operand .text

/-- The expression holds only what operands of the mode admit. -/
def Mode.Admits : Mode → Expr → Prop
  | .number, e => e.compares = false
  | .text, e => Concatenates e

/-- The weakest level is what stands between brackets. -/
theorem Mode.level_zero (mode : Mode) : mode.level 0 = mode.bracketed := by
  cases mode <;> rfl

section

variable {symbols : SymbolTable} {mode : Mode} {tokens : List Token} {e : Expr}

/-- A single operand is read at every level. -/
theorem Derives.atLevel (h : Derives symbols (.operand mode) tokens e) (strength : Nat) :
    Derives symbols (mode.level strength) tokens e :=
  match mode, strength with
  | .number, 0 => .single (.single h)
  | .number, 1 => .single h
  | .number, _ + 2 => h
  | .text, 0 => .single h
  | .text, _ + 1 => h

/-- What is read at a level is read at any weaker one. -/
theorem Derives.loosen {m n : Nat} (hle : n ≤ m) (h : Derives symbols (mode.level m) tokens e) :
    Derives symbols (mode.level n) tokens e := by
  induction hle with
  | refl => exact h
  | @step m hle ih =>
      refine ih ?_
      match mode, m with
      | .number, 0 => exact .single h
      | .number, 1 => exact .single h
      | .number, _ + 2 => exact h
      | .text, 0 => exact .single h
      | .text, _ + 1 => exact h

end

/-- The level of an operator is a row of it, and the operand on the right is read one
level above. -/
theorem Mode.Admits.exists_row {mode : Mode} {op : BinaryOp} {left right : Expr}
    (h : mode.Admits (.binary op left right)) :
    ∃ row : Row, mode.level op.strength = .row row ∧ op ∈ row.ops ∧
      row.operand = mode.level (op.strength + 1) := by
  cases mode with
  | number =>
      cases op with
      | add => exact ⟨.sum, rfl, by decide, rfl⟩
      | sub => exact ⟨.sum, rfl, by decide, rfl⟩
      | mul => exact ⟨.product, rfl, by decide, rfl⟩
      | div => exact ⟨.product, rfl, by decide, rfl⟩
  | text =>
      cases h with
      | joined hleft hright => exact ⟨.concatenation, rfl, by decide, rfl⟩

/-- What a mode admits has operands that it admits. -/
theorem Mode.Admits.operands {mode : Mode} {op : BinaryOp} {left right : Expr}
    (h : mode.Admits (.binary op left right)) : mode.Admits left ∧ mode.Admits right := by
  cases mode with
  | number => exact Bool.or_eq_false_iff.1 h
  | text =>
      cases h with
      | joined hleft hright => exact ⟨hleft, hright⟩

/-! ## Tokens -/

theorem tokensOn_append (line : Nat) (ls ms : List Lexeme) :
    tokensOn line (ls ++ ms) = tokensOn line ls ++ tokensOn line ms :=
  List.map_append

theorem tokensOn_cons (line : Nat) (l : Lexeme) (ls : List Lexeme) :
    tokensOn line (l :: ls) = PlacedLexeme.token ⟨l, line⟩ :: tokensOn line ls :=
  rfl

/-- A symbol is read as it was written. -/
theorem isSymbol_token (symbol : String) (line : Nat) :
    (PlacedLexeme.token ⟨.symbol symbol.toList, line⟩).isSymbol symbol = true := by
  simp [PlacedLexeme.token, Token.isSymbol]

/-- Names are in capital letters already. -/
theorem token_of_isName {name : String} (h : IsName name) (line : Nat) :
    PlacedLexeme.token ⟨.word name.toList, line⟩ = ⟨.identifier, name, line⟩ := by
  have hkept : ∀ c ∈ name.toList, c.toUpper = id c := by
    intro c hc
    have hsmall : ¬ 'a' ≤ c := by
      intro hle
      rcases h.2 c hc with hc | hc | rfl
      · exact absurd (Char.le_trans hle hc.2) (by decide)
      · exact absurd (Char.le_trans hle hc.2) (by decide)
      · exact absurd hle (by decide)
    rw [toUpper_eq_capital, capital, if_neg fun h => hsmall h.1]
    rfl
  have htext : String.ofList (name.toList.map Char.toUpper) = name := by
    rw [List.map_congr_left hkept, List.map_id, String.ofList_toList]
  exact congrArg (fun text => (⟨.identifier, text, line⟩ : Token)) htext

/-- A constant is read as it was written. -/
theorem literalForm_token {l : Literal} (h : l.Writable) (line : Nat) :
    LiteralForm (PlacedLexeme.token ⟨l.lexeme, line⟩) l := by
  cases l with
  | int n =>
      have hvalue : ((n.toInt.toNat : Nat) : Int) = n.toInt := Int.toNat_of_nonneg h
      refine .number rfl ?_
      exact (Numeral.read?_ofNat _).trans (by rw [hvalue, Numeral.word?_toInt])
  | text s =>
      have htext : (⟨.stringLiteral, s, line⟩ : Token) =
          PlacedLexeme.token ⟨.quoted s.toList .mark, line⟩ := by simp [PlacedLexeme.token]
      exact htext ▸ .text rfl

/-! ## Expressions -/

section

variable {symbols : SymbolTable} {mode : Mode} {e : Expr} {line : Nat}

/-- What is read at the weakest level is an operand when it stands between brackets. -/
theorem derives_bracketLexemes {ls : List Lexeme}
    (h : Derives symbols (mode.level 0) (tokensOn line ls) e) :
    Derives symbols (.operand mode) (tokensOn line (bracketLexemes true ls)) e := by
  have hopening := isSymbol_token "(" line
  have hclosing := isSymbol_token ")" line
  rw [Mode.level_zero] at h
  have hderives := Derives.bracketed hopening h hclosing
  simpa [bracketLexemes, tokensOn_append, tokensOn_cons, tokensOn] using hderives

/-- An expression that was written is derived at its level.  The induction is on the tree;
an operator that is weaker than its surroundings is read between brackets, and one that
is not is read on its own level and then taken as part of a weaker one. -/
theorem derives_lexemes (mode : Mode) (hwritable : e.Writable) (hadmits : mode.Admits e)
    (hnames : ∀ name ∈ e.names, IsName name ∧ symbols.contains name = true) (strength : Nat) :
    Derives symbols (mode.level strength) (tokensOn line (e.lexemes strength)) e := by
  induction e generalizing mode strength with
  | literal l =>
      exact (Derives.literal (literalForm_token hwritable line)).atLevel strength
  | named name =>
      obtain ⟨hname, hdeclared⟩ := hnames name List.mem_cons_self
      have hderives : Derives symbols (.operand mode) [⟨.identifier, name, line⟩] (.named name) :=
        .named rfl hdeclared
      rw [Expr.lexemes, tokensOn_cons, token_of_isName hname]
      exact hderives.atLevel strength
  | negate operand ih =>
      cases mode with
      | number =>
          have hoperand := ih .number hwritable hadmits hnames 2
          exact (Derives.negated (isSymbol_token "-" line) hoperand).atLevel strength
      | text => cases hadmits
  | binary op left right ihl ihr =>
      obtain ⟨row, hlevel, hop, hoperand⟩ := hadmits.exists_row
      have hleft := ihl mode hwritable.1 hadmits.operands.1
        (fun n hn => hnames n (List.mem_append_left _ hn)) op.strength
      have hright := ihr mode hwritable.2 hadmits.operands.2
        (fun n hn => hnames n (List.mem_append_right _ hn)) (op.strength + 1)
      rw [hlevel] at hleft
      rw [← hoperand] at hright
      have hinner := Derives.joined hleft hop (isSymbol_token op.symbol line) hright
      rw [← hlevel, ← tokensOn_cons, ← tokensOn_append] at hinner
      by_cases hweak : op.strength < strength
      · rw [Expr.lexemes, decide_eq_true hweak]
        exact (derives_bracketLexemes (hinner.loosen (Nat.zero_le _))).atLevel strength
      · rw [Expr.lexemes, decide_eq_false hweak]
        exact hinner.loosen (Nat.le_of_not_lt hweak)
  | compare comparison left right ihl ihr =>
      cases mode with
      | number => cases hadmits
      | text => cases hadmits
  | missing => exact hwritable.elim

/-- The expression that was written is derived in the form that the type of its target
selects. -/
theorem derives_value {type : DataType} (hwritable : e.Writable) (hadmits : type.Admits e)
    (hnames : ∀ name ∈ e.names, IsName name ∧ symbols.contains name = true) :
    Derives symbols (.ofType type) (tokensOn line (e.lexemes 0)) e := by
  have hsum {operand : Expr} (hwritable : operand.Writable) (hplain : operand.compares = false)
      (hnames : ∀ name ∈ operand.names, IsName name ∧ symbols.contains name = true) :
      Derives symbols (.row .sum) (tokensOn line (operand.lexemes 0)) operand :=
    derives_lexemes .number hwritable hplain hnames 0
  cases type with
  | integer => exact hsum hwritable hadmits hnames
  | string => exact derives_lexemes .text hwritable hadmits hnames 0
  | unknown => exact hadmits.elim
  | boolean =>
      cases e with
      | compare comparison left right =>
          have hleft := hsum hwritable.1 hadmits.1
            fun n hn => hnames n (List.mem_append_left _ hn)
          have hright := hsum hwritable.2 hadmits.2
            fun n hn => hnames n (List.mem_append_right _ hn)
          have hcompared := Derives.compared hleft (isSymbol_token comparison.symbol line) hright
          rwa [← tokensOn_cons, ← tokensOn_append] at hcompared
      | _ => exact .plain (hsum hwritable hadmits hnames)

end

/-! ## Size -/

section

variable (line : Nat)

/-- Lexemes grow an expression by what each of them does. -/
theorem growth_tokensOn_append (ls ms : List Lexeme) :
    growth (tokensOn line (ls ++ ms)) = growth (tokensOn line ls) + growth (tokensOn line ms) := by
  rw [tokensOn_append, growth_append]

/-- The symbol of an operator or an opening bracket counts one. -/
theorem growth_tokensOn_cons_symbol {symbol : String}
    (h : (PlacedLexeme.token ⟨.symbol symbol.toList, line⟩).grows = true) (ls : List Lexeme) :
    growth (tokensOn line (.symbol symbol.toList :: ls)) = growth (tokensOn line ls) + 1 :=
  growth_cons_of_grows h _

/-- Brackets that are needed count one. -/
theorem growth_bracketLexemes (needed : Bool) (ls : List Lexeme) :
    growth (tokensOn line (bracketLexemes needed ls)) =
      growth (tokensOn line ls) + if needed then 1 else 0 := by
  cases needed with
  | false => rfl
  | true =>
      have hopening := growth_tokensOn_cons_symbol line
        (Token.grows_of_opening (isSymbol_token "(" line)) (ls ++ [.symbol [')']])
      have hclosing : growth (tokensOn line [.symbol [')']]) = 0 :=
        growth_cons_of_not_grows (Token.not_grows_of_closing (isSymbol_token ")" line)) []
      rw [growth_tokensOn_append, hclosing] at hopening
      exact hopening

/-- The operators and opening brackets among the tokens are those counted along the tree. -/
theorem growth_tokensOn (e : Expr) (strength : Nat) :
    growth (tokensOn line (e.lexemes strength)) = e.writtenGrowth strength := by
  induction e generalizing strength with
  | literal l =>
      have hkind : (PlacedLexeme.token ⟨l.lexeme, line⟩).kind ≠ .symbol := by
        cases l <;> exact TokenKind.noConfusion
      exact growth_cons_of_not_grows (Token.not_grows_of_kind hkind) []
  | named name =>
      have hkind : (PlacedLexeme.token ⟨.word name.toList, line⟩).kind ≠ .symbol :=
        TokenKind.noConfusion
      exact growth_cons_of_not_grows (Token.not_grows_of_kind hkind) []
  | negate operand ih =>
      have hminus := growth_tokensOn_cons_symbol line
        (Token.grows_of_op .sub (isSymbol_token "-" line)) (operand.lexemes 2)
      rw [ih] at hminus
      exact hminus
  | binary op left right ihl ihr =>
      have hop := growth_tokensOn_cons_symbol line
        (Token.grows_of_op op (isSymbol_token op.symbol line)) (right.lexemes (op.strength + 1))
      rw [Expr.lexemes, growth_bracketLexemes, growth_tokensOn_append, hop, ihl, ihr,
        Expr.writtenGrowth]
      simp [Nat.add_assoc]
  | compare comparison left right ihl ihr =>
      have hsign := growth_tokensOn_cons_symbol line
        (Token.grows_of_comparison (isSymbol_token comparison.symbol line)) (right.lexemes 0)
      rw [Expr.lexemes, growth_tokensOn_append, hsign, ihl, ihr, Expr.writtenGrowth,
        Nat.add_assoc]
  | missing => rfl

end

/-! ## Statements -/

/-- A name that is declared once has the type of its declaration. -/
theorem SymbolTable.type?_of_mem {table : SymbolTable} {d : Declaration}
    (hnodup : (table.declarations.map Declaration.name).Nodup) (hd : d ∈ table.declarations) :
    table.type? d.name = some d.type := by
  obtain ⟨first, hfirst⟩ := Option.isSome_iff_exists.1
    (SymbolTable.contains_iff_declared.2 ⟨d, hd, rfl⟩)
  have hmem : first ∈ table.declarations := List.mem_of_find?_eq_some hfirst
  have hname : first.name = d.name := by simpa using List.find?_some hfirst
  obtain rfl : first = d := List.inj_on_of_nodup_map hnodup hmem hd hname
  rw [SymbolTable.type?, hfirst, Option.map_some]

theorem SymbolTable.type?_of_not_declared {table : SymbolTable} {name : String}
    (h : ¬ Declared table.declarations name) : table.type? name = none := by
  rw [← SymbolTable.contains_eq_false_iff, Bool.eq_false_iff, ne_eq,
    SymbolTable.contains_iff_declared]
  exact h

/-- A line with a keyword and a name. -/
theorem tokensOn_words {keyword name : String} (hkeyword : IsName keyword) (hname : IsName name)
    (line : Nat) :
    tokensOn line [.word keyword.toList, .word name.toList] =
      [⟨.identifier, keyword, line⟩, ⟨.identifier, name, line⟩] := by
  rw [tokensOn_cons, tokensOn_cons, token_of_isName hkeyword, token_of_isName hname]
  rfl

section

variable {table : SymbolTable} (hearlier : ∀ d ∈ table.declarations, IsName d.name)
  (hnodup : (table.declarations.map Declaration.name).Nodup)

include hearlier hnodup

/-- A writable assignment is written as a statement of the grammar. -/
theorem statementForm_assign {target : String} {type : DataType} {value : Expr} {line : Nat}
    (htarget : ⟨target, type⟩ ∈ table.declarations) (hkeyword : ¬ IsKeyword target)
    (hnames : ∀ name ∈ value.names, Declared table.declarations name)
    (hwritable : value.Writable) (hadmits : type.Admits value)
    (hsize : value.writtenGrowth 0 ≤ 512) :
    StatementForm table (Statement.assign target type value line).tokens
      (.assign target type value line) := by
  have htype : table.type? target = some type := SymbolTable.type?_of_mem hnodup htarget
  have hdeclared (name : String) (hname : name ∈ value.names) :
      IsName name ∧ table.contains name = true := by
    have hcontains := SymbolTable.contains_iff_declared.2 (hnames name hname)
    obtain ⟨d, hd, rfl⟩ := hnames name hname
    exact ⟨hearlier d hd, hcontains⟩
  have hvalue : Derives table (.ofType type) (tokensOn line (value.lexemes 0)) value :=
    derives_value hwritable hadmits hdeclared
  have hgrowth : growth (tokensOn line (value.lexemes 0)) ≤ 512 := by
    rwa [growth_tokensOn]
  have hequals : Token.isSymbol ⟨.symbol, "=", line⟩ "=" = true := isSymbol_token "=" line
  have htokens : (Statement.assign target type value line).tokens =
      ⟨.identifier, target, line⟩ :: ⟨.symbol, "=", line⟩ :: tokensOn line (value.lexemes 0) := by
    rw [← token_of_isName (hearlier _ htarget)]
    rfl
  rw [htokens]
  exact .assign rfl hkeyword hequals htype hvalue hgrowth

/-- A writable command is written as a statement of the grammar. -/
theorem statementForm_perform (command : Command) (argument : Argument) (line : Nat)
    (h : (Statement.perform command argument line).Writable table.declarations) :
    StatementForm table (Statement.perform command argument line).tokens
      (.perform command argument line) := by
  have hword := isName_commandKeyword command
  cases argument with
  | named name type =>
      have htype : table.type? name = some type := SymbolTable.type?_of_mem hnodup h
      have htokens := tokensOn_words hword (hearlier _ h) line
      rw [Statement.tokens, Statement.lexemes, Statement.line, htokens]
      cases command with
      | print => exact .printNamed rfl rfl rfl htype
      | input => exact .input rfl rfl rfl htype
  | literal l =>
      obtain ⟨rfl, hwritable⟩ := h
      have hconstant := literalForm_token hwritable line
      rw [Statement.tokens, Statement.lexemes, Statement.line, tokensOn_cons,
        token_of_isName hword]
      exact .printLiteral rfl rfl hconstant

end

/-- The declaration of a fresh name is written as a statement of the grammar. -/
theorem statementForm_declare {table : SymbolTable} {name : String} {type : DataType} {line : Nat}
    (hname : IsName name) (hkeyword : ¬ IsKeyword name) (htype : type ≠ .unknown)
    (hfresh : ¬ Declared table.declarations name) :
    StatementForm table (Statement.declare name type line).tokens (.declare name type line) := by
  have hword : DataType.ofKeyword? type.keyword = some type :=
    DataType.ofKeyword?_eq_some_iff.2 ⟨rfl, htype⟩
  have hprint : name ≠ "PRINT" := fun heq => hkeyword (by simp [IsKeyword, heq])
  have hinput : name ≠ "INPUT" := fun heq => hkeyword (by simp [IsKeyword, heq])
  rw [Statement.tokens, Statement.lexemes, Statement.line,
    tokensOn_words (isName_keyword htype) hname]
  exact .declare rfl hword rfl hprint hinput (SymbolTable.type?_of_not_declared hfresh)

/-! ## Programs -/

/-- Behind the statements in front of it, a statement of a program that was written is
derived from its tokens. -/
theorem statementForm_tokens {front back : Program} {s : Statement}
    (h : Writable (front ++ s :: back)) (hsize : s.writtenGrowth ≤ 512) :
    StatementForm ⟨declarationsOf front⟩ s.tokens s := by
  have hearlier (d : Declaration) (hd : d ∈ declarationsOf front) :
      IsName d.name ∧ ¬ IsKeyword d.name := h.of_mem_declarations (by simp [hd])
  have hnames (d : Declaration) (hd : d ∈ declarationsOf front) : IsName d.name :=
    (hearlier d hd).1
  have hwritable := h.statement
  cases s with
  | declare name type line =>
      obtain ⟨hname, hkeyword, htype⟩ := hwritable
      exact statementForm_declare hname hkeyword htype (h.not_declared rfl)
  | assign target type value line =>
      obtain ⟨htarget, huses, hvalue, hadmits⟩ := hwritable
      exact statementForm_assign hnames h.nodup_front htarget (hearlier _ htarget).2 huses hvalue
        hadmits hsize
  | perform command argument line =>
      exact statementForm_perform hnames h.nodup_front command argument line hwritable

/-- The statements of a program that was written are derived one after another. -/
theorem programForm_tokens (front : Program) {back : Program} (h : Writable (front ++ back))
    (hsize : ∀ s ∈ back, s.writtenGrowth ≤ 512) :
    ProgramForm ⟨declarationsOf front⟩ (back.map Statement.tokens) back := by
  induction back generalizing front with
  | nil => exact .nil
  | cons s back ih =>
      have hstatement := statementForm_tokens h (hsize s List.mem_cons_self)
      have hbehind : (⟨declarationsOf front⟩ : SymbolTable).behind s =
          ⟨declarationsOf (front ++ [s])⟩ := by
        rw [declarationsOf_append]
        cases s <;> simp [SymbolTable.behind, SymbolTable.declare, declarationsOf,
          Statement.declaration?]
      have hrest := ih (front ++ [s]) (by simpa using h)
        fun t ht => hsize t (List.mem_cons_of_mem s ht)
      exact .cons hstatement (hbehind ▸ hrest)

/-- Reading undoes writing.  A program that can be written, with at most 512 operators
and opening brackets in each statement, is what its text is compiled to, with any blanks
around operators or none; its declarations are the symbol table, and nothing is
reported. -/
theorem compile_written {gap : String} (hgap : ∀ c ∈ gap.toList, IsBlank c) {program : Program}
    (h : Writable program) (hsize : ∀ s ∈ program, s.writtenGrowth ≤ 512) :
    let compiled := compile ⟨false⟩ (written gap program)
    compiled.program = program ∧ compiled.symbols = ⟨declarationsOf program⟩ ∧
      compiled.diagnostics = [] := by
  obtain ⟨herrors, closing, hclosing, htokens⟩ := scan_written hgap h
  have hform : Grammatical (scan (written gap program)).tokens program := by
    rw [Grammatical, htokens, nonblankLines_statements program hclosing]
    exact programForm_tokens [] h hsize
  obtain ⟨hsilent, hprogram⟩ := grammatical_iff.1 hform
  have hempty : SymbolTable.empty.Known := by simp [SymbolTable.Known, SymbolTable.empty]
  have htracks : Tracks SymbolTable.empty (parse (scan (written gap program)).tokens).program
      (parse (scan (written gap program)).tokens).diagnostics
      (parse (scan (written gap program)).tokens).symbols := tracks_readLines hempty _
  have hsymbols := htracks.declarations_eq
  rw [hprogram] at hsymbols
  refine ⟨hprogram, congrArg SymbolTable.mk hsymbols, ?_⟩
  simp [compile, Compilation.diagnostics, Folding.skipped, Folding.faults, herrors, hsilent]

/-- A program with each kind of statement.  Its expressions need brackets on either side of
an operator, and signs and comparisons stand next to each other. -/
def writtenSample : Program :=
  [.declare "A" .integer 1,
    .declare "OK_2" .boolean 2,
    .declare "S" .string 3,
    .perform .input (.named "A" .integer) 4,
    .assign "A" .integer
      (.binary .sub (.int 7)
        (.binary .sub (.negate (.negate (.named "A")))
          (.binary .div (.binary .add (.named "A") (.int 1)) (.binary .mul (.int 2) (.int 3))))) 5,
    .assign "OK_2" .boolean
      (.compare .lessEqual (.negate (.named "A")) (.negate (.binary .sub (.int 0) (.int 9)))) 6,
    .assign "S" .string
      (.binary .add (.named "S") (.binary .add (.literal (.text "// = ")) (.int 5))) 7,
    .perform .print (.literal (.text "done")) 8]

example : written "" writtenSample =
    "INT A\nBOOL OK_2\nSTRING S\nINPUT A\nA=7-(--A-(A+1)/(2*3))\nOK_2=-A<=-(0-9)\n" ++
      "S=S+(\"// = \"+5)\nPRINT \"done\"\n" := by
  decide +kernel

theorem writable_writtenSample : Writable writtenSample := by
  refine ⟨rfl, by decide, fun i hi => ?_⟩
  match i, hi with
  | 0, _ => exact ⟨by decide, by decide, by decide⟩
  | 1, _ => exact ⟨by decide, by decide, by decide⟩
  | 2, _ => exact ⟨by decide, by decide, by decide⟩
  | 3, _ => exact List.mem_cons_self
  | 4, _ => exact ⟨by decide, by decide, by decide, rfl⟩
  | 5, _ => exact ⟨by decide, by decide, by decide, rfl, rfl⟩
  | 6, _ =>
      have hadmits := Concatenates.joined (.named "S")
        (.joined (.literal (.text "// = ")) (.literal (.int 5)))
      exact ⟨by decide, by decide, by decide, hadmits⟩
  | 7, _ => exact ⟨rfl, by decide⟩

/-- The theorem at this program, with blanks around operators and without. -/
theorem compile_written_sample :
    Writable writtenSample ∧ (∀ s ∈ writtenSample, s.writtenGrowth ≤ 512) ∧
      ∀ gap ∈ ["", " \t"],
        let compiled := compile ⟨false⟩ (written gap writtenSample)
        compiled.program = writtenSample ∧
          compiled.symbols = ⟨declarationsOf writtenSample⟩ ∧ compiled.diagnostics = [] := by
  have hsize : ∀ s ∈ writtenSample, s.writtenGrowth ≤ 512 := by decide
  refine ⟨writable_writtenSample, hsize, fun gap hgap => ?_⟩
  refine compile_written ?_ writable_writtenSample hsize
  have hblank : ∀ gap ∈ ["", " \t"], ∀ c ∈ gap.toList, IsBlank c := by simp [IsBlank]
  exact hblank gap hgap

end Primer
