import Primer.Proofs.Writing.Basic

/-!
# Scanning what was written

The lexemes of a text that was written are laid down from the tree.  That they are what is
scanned is shown from the back: a text is scanned in front of whatever may follow it, and
of what follows only the first character matters.

Main definitions:

- `Expr.lexemes` and `Statement.lexemes` are the lexemes of what is written, and
  `Statement.tokens` the tokens of a statement.
- `ScannedAs` says that a text is scanned as given lexemes wherever a word may end.

Main results:

- Theorem `ScannedAs.joined`: two texts may be joined by a symbol, with blanks around it
  or without.
- Theorem `scannedAs_expr`: an expression is scanned as its lexemes.
- Theorem `scan_written`: scanning a program finds no errors, and the tokens of its
  statements.
-/

namespace Primer

/-! ## Lexemes of what is written -/

/-- The lexeme of a constant. -/
def Literal.lexeme : Literal → Lexeme
  | .int n => .digits (Numeral.digits n.toInt.toNat)
  | .text s => .quoted s.toList .mark

/-- The lexemes, between brackets if they are needed. -/
def bracketLexemes (needed : Bool) (ls : List Lexeme) : List Lexeme :=
  if needed then .symbol ['('] :: (ls ++ [.symbol [')']]) else ls

/-- The lexemes of an expression where an operand of the given strength is expected. -/
def Expr.lexemes (strength : Nat) : Expr → List Lexeme
  | .literal l => [l.lexeme]
  | .named name => [.word name.toList]
  | .negate operand => .symbol ['-'] :: operand.lexemes 2
  | .binary op left right =>
      bracketLexemes (op.strength < strength)
        (left.lexemes op.strength ++ .symbol op.symbol.toList :: right.lexemes (op.strength + 1))
  | .compare comparison left right =>
      left.lexemes 0 ++ .symbol comparison.symbol.toList :: right.lexemes 0
  | .missing => []

/-- The lexemes of a statement. -/
def Statement.lexemes : Statement → List Lexeme
  | .declare name type _ => [.word type.keyword.toList, .word name.toList]
  | .assign target _ value _ => .word target.toList :: .symbol ['='] :: value.lexemes 0
  | .perform command (.named name _) _ => [.word command.keyword.toList, .word name.toList]
  | .perform command (.literal l) _ => [.word command.keyword.toList, l.lexeme]

/-! ## What may follow -/

/-- The text does not continue a word or a number in front of it. -/
def EndsWord (rest : List Char) : Prop :=
  ∀ d ∈ rest.head?, ¬ ContinuesWord d

/-- The text does not make another symbol of the one in front of it. -/
def EndsSymbol (rest : List Char) : Prop :=
  ∀ d ∈ rest.head?, d ≠ '=' ∧ d ≠ '/'

theorem endsWord_cons {c : Char} (hc : isWordChar c = false) (rest : List Char) :
    EndsWord (c :: rest) := by
  intro d hd
  obtain rfl : c = d := by simpa using hd
  simp [← isWordChar_iff, hc]

theorem endsSymbol_cons {c : Char} (hc : c ≠ '=' ∧ c ≠ '/') (rest : List Char) :
    EndsSymbol (c :: rest) := by
  intro d hd
  obtain rfl : c = d := by simpa using hd
  exact hc

section

variable {gap rest : List Char} (hgap : ∀ c ∈ gap, IsBlank c)

include hgap

/-- Blanks in front of such a text end a word. -/
theorem endsWord_gap (h : EndsWord rest) : EndsWord (gap ++ rest) := by
  cases gap with
  | nil => exact h
  | cons c gap =>
      refine endsWord_cons ?_ _
      rcases hgap c List.mem_cons_self with rfl | rfl | rfl <;> decide

theorem endsSymbol_gap (h : EndsSymbol rest) : EndsSymbol (gap ++ rest) := by
  cases gap with
  | nil => exact h
  | cons c gap =>
      refine endsSymbol_cons ?_ _
      rcases hgap c List.mem_cons_self with rfl | rfl | rfl <;> decide

end

/-! ## Single segments -/

/-- These symbols start no other one. -/
theorem lone_symbols : ∀ c ∈ ['(', ')', '*', '+', '-'],
    c ∈ symbolChars ∧ c ∉ pairStarts ∧ c ≠ '/' :=
  List.all_iff_forall_prop.1 (by decide)

/-- Most symbols of one character are taken alone whatever follows. -/
theorem lexemes_lone {c : Char} (hc : c ∈ ['(', ')', '*', '+', '-']) (rest : List Char) :
    lexemes (c :: rest) = .symbol [c] :: lexemes rest := by
  obtain ⟨hsymbol, hstarts, hslash⟩ := lone_symbols c hc
  have hpair (d : Char) : [c, d] ∉ symbolPairs := by
    rw [← isPairSymbol_iff]
    simp [isPairSymbol, hstarts]
  exact lexemes_append_of_whole (.single hsymbol (fun d _ => hpair d) (absurd · hslash))

/-- The others are taken alone in front of what makes no other symbol of them. -/
theorem lexemes_single {c : Char} {rest : List Char} (hc : c ∈ symbolChars)
    (hrest : EndsSymbol rest) : lexemes (c :: rest) = .symbol [c] :: lexemes rest := by
  refine lexemes_append_of_whole (.single hc ?_ ?_)
  · intro d hd hpair
    have hequals : d = '=' := by
      have hsecond := isPairSymbol_iff.2 hpair
      simp only [isPairSymbol, Bool.and_eq_true, beq_iff_eq] at hsecond
      exact hsecond.2
    exact (hrest d hd).1 hequals
  · intro _ hslash
    exact (hrest '/' hslash).2 rfl

/-! ## Operators -/

/-- Between two operands the symbol is scanned as itself. -/
structure Separates (sign : List Char) : Prop where
  lexemes_eq : ∀ rest, EndsSymbol rest → lexemes (sign ++ rest) = .symbol sign :: lexemes rest
  endsWord : ∀ rest, EndsWord (sign ++ rest)

/-- The sign of an operator is scanned alone between operands. -/
theorem separates_op (op : BinaryOp) : Separates op.symbol.toList := by
  constructor
  · intro rest hrest
    cases op with
    | add => exact lexemes_lone (by decide) rest
    | sub => exact lexemes_lone (by decide) rest
    | mul => exact lexemes_lone (by decide) rest
    | div => exact lexemes_single (by decide) hrest
  · intro rest
    cases op <;> exact endsWord_cons (by decide) rest

/-- The sign of a comparison is scanned alone between operands. -/
theorem separates_comparison (comparison : Comparison) :
    Separates comparison.symbol.toList := by
  constructor
  · intro rest hrest
    cases comparison <;> exact lexemes_append_of_whole (.pair (by decide))
  · intro rest
    cases comparison <;> exact endsWord_cons (by decide) _

theorem separates_equals : Separates "=".toList :=
  ⟨fun _ hrest => lexemes_single (by decide) hrest, fun rest => endsWord_cons (by decide) rest⟩

/-! ## Texts -/

/-- Wherever a word may end, the text is scanned as the lexemes, and in front of it any
symbol is taken alone. -/
structure ScannedAs (text : String) (ls : List Lexeme) : Prop where
  lexemes_eq : ∀ rest, EndsWord rest → lexemes (text.toList ++ rest) = ls ++ lexemes rest
  endsSymbol : ∀ rest, EndsSymbol (text.toList ++ rest)

namespace ScannedAs

/-- A name is scanned as one word. -/
theorem name {name : String} (h : IsName name) : ScannedAs name [.word name.toList] := by
  obtain ⟨c, hc, hcapital⟩ := h.1
  obtain ⟨text, htext⟩ := List.head?_eq_some_iff.1 hc
  have hall (d : Char) (hd : d ∈ text) : ContinuesWord d := by
    rcases h.2 d (by simp [htext, hd]) with hd | hd | hd
    · exact .inl (.inl hd)
    · exact .inr (.inl hd)
    · exact .inr (.inr hd)
  have hletter : IsLetter c := .inl hcapital
  constructor
  · intro rest hrest
    rw [htext]
    exact lexemes_append_of_whole (.word hletter hall hrest)
  · intro rest
    rw [htext]
    exact endsSymbol_cons ⟨ne_of_isLetter hletter rfl, ne_of_isLetter hletter rfl⟩ _

/-- Digits are scanned as one number, whatever zeros stand in front. -/
theorem digits {text : List Char} (hne : text ≠ []) (hall : ∀ d ∈ text, IsDecimal d) :
    ScannedAs (String.ofList text) [.digits text] := by
  obtain ⟨c, text, rfl⟩ := List.exists_cons_of_ne_nil hne
  have hc := hall c List.mem_cons_self
  constructor
  · intro rest hrest
    have hstop : ∀ d ∈ rest.head?, ¬ IsDecimal d := fun d hd h => hrest d hd (.inr (.inl h))
    rw [String.toList_ofList]
    exact lexemes_append_of_whole
      (.digits hc (fun d hd => hall d (List.mem_cons_of_mem c hd)) hstop)
  · intro rest
    rw [String.toList_ofList]
    exact endsSymbol_cons ⟨ne_of_isDecimal hc rfl, ne_of_isDecimal hc rfl⟩ _

/-- A numeral is scanned as its digits. -/
theorem number (n : Nat) : ScannedAs (Numeral.ofNat n) [.digits (Numeral.digits n)] :=
  digits (Numeral.digits_ne_nil n) fun _ hd => isDigit_iff.1 (Numeral.isDigit_of_mem_digits hd)

/-- A text between quotation marks is scanned as one lexeme. -/
theorem quoted {s : String} (h : ∀ c ∈ s.toList, c ≠ '"' ∧ c ≠ '\n') :
    ScannedAs ("\"" ++ s ++ "\"") [.quoted s.toList .mark] := by
  have htext : ("\"" ++ s ++ "\"").toList = '"' :: (s.toList ++ ['"']) := by simp
  constructor
  · intro rest hrest
    rw [htext]
    exact lexemes_append_of_whole (.closedText h)
  · intro rest
    rw [htext]
    exact endsSymbol_cons (by decide) _

theorem literal {l : Literal} (h : l.Writable) : ScannedAs l.written [l.lexeme] := by
  cases l with
  | int n => exact number _
  | text s => exact quoted h

variable {text left right : String} {ls ms : List Lexeme}

/-- Brackets that are needed are scanned around the lexemes. -/
theorem bracketedIf (h : ScannedAs text ls) (needed : Bool) :
    ScannedAs (Primer.bracketedIf needed text) (bracketLexemes needed ls) := by
  cases needed with
  | false => exact h
  | true =>
      have htext : (Primer.bracketedIf true text).toList = '(' :: (text.toList ++ [')']) := by
        simp [Primer.bracketedIf]
      constructor
      · intro rest hrest
        have hclosing := lexemes_lone (by decide : ')' ∈ _) rest
        have hinner := h.lexemes_eq (')' :: rest) (endsWord_cons (by decide) rest)
        have hopening := lexemes_lone (by decide : '(' ∈ _) (text.toList ++ ')' :: rest)
        simp [htext, hopening, hinner, hclosing, bracketLexemes]
      · intro rest
        rw [htext]
        exact endsSymbol_cons (by decide) _

/-- A sign is scanned in front of the lexemes. -/
theorem negated (h : ScannedAs text ls) : ScannedAs ("-" ++ text) (.symbol ['-'] :: ls) := by
  have htext : ("-" ++ text).toList = '-' :: text.toList := by simp
  constructor
  · intro rest hrest
    rw [htext, List.cons_append, lexemes_lone (by decide), h.lexemes_eq rest hrest,
      List.cons_append]
  · intro rest
    rw [htext]
    exact endsSymbol_cons (by decide) _

/-- Blanks may be put around a symbol between two texts, or left out. -/
theorem joined {gap sign : String} (hgap : ∀ c ∈ gap.toList, IsBlank c)
    (hsign : Separates sign.toList) (hleft : ScannedAs left ls) (hright : ScannedAs right ms) :
    ScannedAs (left ++ gap ++ sign ++ gap ++ right) (ls ++ .symbol sign.toList :: ms) := by
  constructor
  · intro rest hrest
    -- Behind the symbol comes a blank or the start of a text, and neither belongs to it.
    have hback : EndsSymbol (gap.toList ++ (right.toList ++ rest)) :=
      endsSymbol_gap hgap (hright.endsSymbol rest)
    have hfront : EndsWord (gap.toList ++ (sign.toList ++
        (gap.toList ++ (right.toList ++ rest)))) := endsWord_gap hgap (hsign.endsWord _)
    simp [hleft.lexemes_eq _ hfront, lexemes_gap hgap, hsign.lexemes_eq _ hback,
      hright.lexemes_eq rest hrest]
  · intro rest
    simpa using hleft.endsSymbol _

/-- With a blank between them two texts are scanned one after the other. -/
theorem spaced (hleft : ScannedAs left ls) (hright : ScannedAs right ms) :
    ScannedAs (left ++ " " ++ right) (ls ++ ms) := by
  constructor
  · intro rest hrest
    have hblank (c : Char) (hc : c ∈ [' ']) : IsBlank c := .inl (List.mem_singleton.1 hc)
    have hfront : EndsWord (' ' :: (right.toList ++ rest)) := endsWord_cons (by decide) _
    have hspace : lexemes (' ' :: (right.toList ++ rest)) = lexemes (right.toList ++ rest) :=
      lexemes_gap hblank _
    simp [hleft.lexemes_eq _ hfront, hspace, hright.lexemes_eq rest hrest]
  · intro rest
    simpa using hleft.endsSymbol _

end ScannedAs

/-! ## Expressions and statements -/

/-- The keyword of a type has the form of a name. -/
theorem isName_keyword {type : DataType} (h : type ≠ .unknown) : IsName type.keyword := by
  cases type with
  | unknown => exact absurd rfl h
  | _ => decide

theorem isName_commandKeyword (command : Command) : IsName command.keyword := by
  cases command <;> decide

section

variable {gap : String} (hgap : ∀ c ∈ gap.toList, IsBlank c)

include hgap

/-- An expression is scanned as its lexemes. -/
theorem scannedAs_expr {e : Expr} (hwritable : e.Writable) (hnames : ∀ name ∈ e.names, IsName name)
    (strength : Nat) : ScannedAs (e.written gap strength) (e.lexemes strength) := by
  induction e generalizing strength with
  | literal l => exact .literal hwritable
  | named name => exact .name (hnames name List.mem_cons_self)
  | negate operand ih => exact (ih hwritable hnames 2).negated
  | binary op left right ihl ihr =>
      have hleft := ihl hwritable.1 (fun n hn => hnames n (List.mem_append_left _ hn)) op.strength
      have hright := ihr hwritable.2 (fun n hn => hnames n (List.mem_append_right _ hn))
        (op.strength + 1)
      exact (ScannedAs.joined hgap (separates_op op) hleft hright).bracketedIf _
  | compare comparison left right ihl ihr =>
      have hleft := ihl hwritable.1 (fun n hn => hnames n (List.mem_append_left _ hn)) 0
      have hright := ihr hwritable.2 (fun n hn => hnames n (List.mem_append_right _ hn)) 0
      exact .joined hgap (separates_comparison comparison) hleft hright
  | missing => exact hwritable.elim

/-- A writable statement is scanned as its lexemes, whatever the blanks. -/
theorem scannedAs_statement {earlier : List Declaration} (hearlier : ∀ d ∈ earlier, IsName d.name)
    {s : Statement} (h : s.Writable earlier) : ScannedAs (s.written gap) s.lexemes := by
  cases s with
  | declare name type line =>
      obtain ⟨hname, hkeyword, htype⟩ := h
      exact (ScannedAs.name (isName_keyword htype)).spaced (.name hname)
  | assign target type value line =>
      obtain ⟨htarget, hnames, hwritable, hadmits⟩ := h
      have hvalue (name : String) (hname : name ∈ value.names) : IsName name := by
        obtain ⟨d, hd, rfl⟩ := hnames name hname
        exact hearlier d hd
      exact .joined hgap separates_equals (.name (hearlier _ htarget))
        (scannedAs_expr hgap hwritable hvalue 0)
  | perform command argument line =>
      have hword := ScannedAs.name (isName_commandKeyword command)
      cases argument with
      | named name type => exact hword.spaced (.name (hearlier _ h))
      | literal l => exact hword.spaced (.literal h.2)

end

/-! ## Programs -/

/-- The lexeme is within a line, and there is nothing wrong with it. -/
def Lexeme.isSound : Lexeme → Bool
  | .word _ => true
  | .digits _ => true
  | .quoted _ closing => closing == .mark
  | .symbol _ => true
  | .lineFeed => false
  | .stray _ => false

theorem Literal.isSound_lexeme (l : Literal) : l.lexeme.isSound = true := by
  cases l <;> rfl

/-- Brackets around sound lexemes are sound. -/
theorem isSound_bracketLexemes {ls : List Lexeme} (h : ∀ l ∈ ls, l.isSound = true)
    (needed : Bool) : ∀ l ∈ bracketLexemes needed ls, l.isSound = true := by
  cases needed with
  | false => exact h
  | true => simpa [bracketLexemes, Lexeme.isSound, or_imp, forall_and] using h

theorem Expr.isSound_lexemes (e : Expr) (strength : Nat) :
    ∀ l ∈ e.lexemes strength, l.isSound = true := by
  induction e generalizing strength with
  | literal l => simpa [Expr.lexemes] using l.isSound_lexeme
  | named name => simp [Expr.lexemes, Lexeme.isSound]
  | negate operand ih => simpa [Expr.lexemes, Lexeme.isSound] using ih 2
  | binary op left right ihl ihr =>
      refine isSound_bracketLexemes ?_ _
      simpa [Lexeme.isSound, or_imp, forall_and] using ⟨ihl op.strength, ihr (op.strength + 1)⟩
  | compare comparison left right ihl ihr =>
      simpa [Expr.lexemes, Lexeme.isSound, or_imp, forall_and] using ⟨ihl 0, ihr 0⟩
  | missing => simp [Expr.lexemes]

theorem Statement.isSound_lexemes (s : Statement) : ∀ l ∈ s.lexemes, l.isSound = true := by
  cases s with
  | declare name type line => simp [Statement.lexemes, Lexeme.isSound]
  | assign target type value line =>
      simpa [Statement.lexemes, Lexeme.isSound] using value.isSound_lexemes 0
  | perform command argument line =>
      cases argument with
      | named name type => simp [Statement.lexemes, Lexeme.isSound]
      | literal l => simpa [Statement.lexemes, Lexeme.isSound] using l.isSound_lexeme

/-- A sound lexeme has no line feed in it. -/
theorem Lexeme.lineFeeds_of_isSound {l : Lexeme} (h : l.isSound = true) : l.lineFeeds = 0 := by
  cases l with
  | lineFeed => cases h
  | _ => rfl

/-- There is no error in a sound lexeme. -/
theorem error?_of_isSound {l : Lexeme} (h : l.isSound = true) (line : Nat) :
    PlacedLexeme.error? ⟨l, line⟩ = none := by
  cases l with
  | quoted text closing =>
      obtain rfl : closing = .mark := by simpa [Lexeme.isSound] using h
      rfl
  | stray c => cases h
  | _ => rfl

/-- The token of a sound lexeme ends no line. -/
theorem endsLine_of_isSound {l : Lexeme} (h : l.isSound = true) (line : Nat) :
    (PlacedLexeme.token ⟨l, line⟩).endsLine = false := by
  cases l with
  | lineFeed => cases h
  | _ => rfl

/-- Within a line all lexemes are placed on it. -/
theorem placeAll_of_isSound {ls : List Lexeme} (h : ∀ l ∈ ls, l.isSound = true) (line : Nat) :
    placeAll line ls = (ls.map (⟨·, line⟩), line) := by
  induction ls with
  | nil => rfl
  | cons l ls ih =>
      have hfeeds := Lexeme.lineFeeds_of_isSound (h l List.mem_cons_self)
      have hrest := ih fun m hm => h m (List.mem_cons_of_mem l hm)
      simp [hfeeds, hrest]

/-- The tokens that lexemes on one line become. -/
def tokensOn (line : Nat) (ls : List Lexeme) : List Token :=
  ls.map fun l => PlacedLexeme.token ⟨l, line⟩

/-- The tokens of a statement. -/
def Statement.tokens (s : Statement) : List Token :=
  tokensOn s.line s.lexemes

/-- The token that ends the line of a statement. -/
def Statement.lineEnd (s : Statement) : Token :=
  ⟨.endOfLine, "", s.line⟩

/-- A program is scanned as the lexemes of its statements, with a line feed behind each. -/
theorem lexemes_written {gap : String} {program : Program}
    (h : ∀ s ∈ program, ScannedAs (s.written gap) s.lexemes) :
    lexemes (written gap program).toList = program.flatMap fun s => s.lexemes ++ [.lineFeed] := by
  unfold written
  rw [String.toList_join]
  induction program with
  | nil => simp [lexemes]
  | cons s program ih =>
      have hrest := ih fun t ht => h t (List.mem_cons_of_mem s ht)
      have hfeed (rest : List Char) : EndsWord ('\n' :: rest) := endsWord_cons (by decide) rest
      simp [(h s List.mem_cons_self).lexemes_eq _ (hfeed _), lexemes_lineFeed, hrest]

/-- Statements that stand on consecutive lines are placed on them. -/
theorem placeAll_statements {program : Program} {first : Nat}
    (hlines : program.map Statement.line = List.range' first program.length) :
    (placeAll first (program.flatMap fun s => s.lexemes ++ [.lineFeed])).1 =
      program.flatMap fun s => (s.lexemes ++ [.lineFeed]).map (⟨·, s.line⟩) := by
  induction program generalizing first with
  | nil => rfl
  | cons s program ih =>
      rw [List.map_cons, List.length_cons, List.range'_succ, List.cons.injEq] at hlines
      obtain ⟨rfl, hrest⟩ := hlines
      simp [placeAll_append, placeAll_of_isSound s.isSound_lexemes, Lexeme.lineFeeds, ih hrest]

/-- Scanning a program that was written finds no errors, and the tokens of its
statements. -/
theorem scan_written {gap : String} (hgap : ∀ c ∈ gap.toList, IsBlank c) {program : Program}
    (h : Writable program) :
    (scan (written gap program)).errors = [] ∧
      ∃ closing : Token, closing.kind = .endOfInput ∧ (scan (written gap program)).tokens =
        (program.flatMap fun s => s.tokens ++ [s.lineEnd]) ++ [closing] := by
  have hscanned (s : Statement) (hs : s ∈ program) : ScannedAs (s.written gap) s.lexemes := by
    obtain ⟨front, back, rfl⟩ := List.append_of_mem hs
    have hearlier (d : Declaration) (hd : d ∈ declarationsOf front) : IsName d.name :=
      (h.of_mem_declarations (by simp [hd])).1
    exact scannedAs_statement hgap hearlier h.statement
  have hplaced : (scan (written gap program)).lexemes =
      program.flatMap fun s => (s.lexemes ++ [.lineFeed]).map (⟨·, s.line⟩) := by
    rw [scan, lexemes_written hscanned]
    exact placeAll_statements h.lines_eq
  constructor
  · rw [Scan.errors, hplaced, List.filterMap_flatMap, List.flatMap_eq_nil_iff]
    intro s hs
    have hsound : ∀ l ∈ s.lexemes, PlacedLexeme.error? ⟨l, s.line⟩ = none := fun l hl =>
      error?_of_isSound (s.isSound_lexemes l hl) s.line
    simpa [List.filterMap_map, PlacedLexeme.error?] using hsound
  · refine ⟨(scan (written gap program)).closing, rfl, ?_⟩
    rw [Scan.tokens, hplaced, List.map_flatMap]
    simp [Statement.tokens, tokensOn, Statement.lineEnd, PlacedLexeme.token, Function.comp_def]

/-! ## Lines -/

/-- Tokens up to an end of line are one line. -/
theorem tokenLines_append_endOfLine {front : List Token} (h : ∀ t ∈ front, t.endsLine = false)
    {ending : Token} (hending : ending.kind = .endOfLine) (ts : List Token) :
    tokenLines (front ++ ending :: ts) = front :: tokenLines ts := by
  induction front with
  | nil => exact tokenLines_endOfLine hending ts
  | cons t front ih =>
      have hrest := ih fun u hu => h u (List.mem_cons_of_mem t hu)
      rw [List.cons_append, tokenLines_cons (h t List.mem_cons_self), hrest]
      rfl

theorem Statement.tokens_ne_nil (s : Statement) : s.tokens ≠ [] := by
  cases s with
  | declare name type line => exact List.cons_ne_nil _ _
  | assign target type value line => exact List.cons_ne_nil _ _
  | perform command argument line => cases argument <;> exact List.cons_ne_nil _ _

/-- The lines of a program that was written are the tokens of its statements. -/
theorem nonblankLines_statements (program : Program) {closing : Token}
    (hclosing : closing.kind = .endOfInput) :
    nonblankLines ((program.flatMap fun s => s.tokens ++ [s.lineEnd]) ++ [closing]) =
      program.map Statement.tokens := by
  induction program with
  | nil => simp [nonblankLines, tokenLines_endOfInput hclosing]
  | cons s program ih =>
      have hinside : ∀ t ∈ s.tokens, t.endsLine = false := by
        intro t ht
        obtain ⟨l, hl, rfl⟩ := List.mem_map.1 ht
        exact endsLine_of_isSound (s.isSound_lexemes l hl) s.line
      have hline := tokenLines_append_endOfLine hinside (rfl : s.lineEnd.kind = .endOfLine)
      rw [nonblankLines] at ih ⊢
      rw [List.flatMap_cons, List.append_assoc, List.append_assoc, List.singleton_append, hline,
        List.filter_cons_of_pos (by simpa using s.tokens_ne_nil), ih, List.map_cons]

end Primer
