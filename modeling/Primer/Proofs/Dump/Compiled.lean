import Primer.Proofs.DiagnosticLines
import Primer.Proofs.Dump.Lines
import Primer.Proofs.LetterCase.Scanning
import Primer.Proofs.Lowering
import Primer.Proofs.Refolding

/-!
# Printed trees of source texts

The tree of a source text can be told from its printed form.  The scanner ends a text in
front of a line feed, so the tree has no label with a line feed in it, and it puts no blank
into a name, so the parts of a label can be told.

Main definitions:

- `Token.Legible`, `Expr.Legible` and `Statement.Legible` say that what is to be printed
  stands on one line, and that a name that is declared is one word.

Main results:

- Theorem `legible_of_mem_tokens`: the tokens of a source text are legible.
- Theorem `legible_of_mem_program`: so are the statements that are read of them.
- Theorem `legible_lower`: legible statements have a tree with legible labels.
- Theorem `dump_faithful`: trees of source texts are printed the same only if they are the
  same.
-/

namespace Primer

/-! ## Tokens -/

/-- A name is one word, and a text in quotation marks stands on one line. -/
structure Token.Legible (t : Token) : Prop where
  name : t.kind = .identifier → OneWord t.text
  text : t.kind = .stringLiteral → OneLine t.text

/-- A word in capital letters is one word. -/
theorem oneWord_ofList_map_toUpper {text : List Char} (h : ∀ d ∈ text, ContinuesWord d) :
    OneWord (String.ofList (text.map Char.toUpper)) := by
  have hne {d : Char} (hd : isWordChar d = false) (hletter : d.isAlpha = false) :
      d ∉ text.map Char.toUpper := by
    intro hmem
    obtain ⟨c, hc, heq⟩ := List.mem_map.1 hmem
    rw [toUpper_eq_capital, capital_eq_iff (by simp [← isAlpha_iff, hletter])] at heq
    have hword := isWordChar_iff.2 (h c hc)
    rw [heq, hd] at hword
    cases hword
  rw [OneWord, String.toList_ofList]
  exact ⟨hne (by decide) (by decide), hne (by decide) (by decide)⟩

/-- The token of a whole lexeme is legible. -/
theorem legible_token {l : Lexeme} {rest : List Char} (h : (Segment.lexeme l).Whole rest)
    (line : Nat) : (PlacedLexeme.token ⟨l, line⟩).Legible := by
  have hquoted {text : List Char} (htext : ∀ d ∈ text, d ≠ '"' ∧ d ≠ '\n') :
      OneLine (String.ofList text) := by
    rw [OneLine, String.toList_ofList]
    exact fun hmem => (htext _ hmem).2 rfl
  refine ⟨fun hkind => ?_, fun hkind => ?_⟩
  · cases h with
    | word hc htext hrest =>
        exact oneWord_ofList_map_toUpper (List.forall_mem_cons.2 ⟨.inl hc, htext⟩)
    | _ => cases hkind
  · cases h with
    | closedText htext => exact hquoted htext
    | brokenText htext hrest => exact hquoted htext
    | openText htext => exact hquoted htext
    | _ => cases hkind

/-- The tokens of a source text are legible. -/
theorem legible_of_mem_tokens {source : String} {t : Token} (h : t ∈ (scan source).tokens) :
    t.Legible := by
  rcases List.mem_append.1 h with h | h
  · obtain ⟨⟨l, line⟩, hmem, rfl⟩ := List.mem_map.1 h
    have hl : l ∈ lexemes source.toList := by
      rw [← map_lexeme_placeAll 1 (lexemes source.toList)]
      exact List.mem_map_of_mem hmem
    obtain ⟨rest, hwhole⟩ := exists_whole_of_mem_lexemes hl
    exact legible_token hwhole line
  · rw [List.mem_singleton.1 h]
    exact ⟨nofun, nofun⟩

/-! ## Statements -/

/-- The names and the constants of the expression stand each on one line. -/
def Expr.Legible : Expr → Prop
  | .literal l => OneLine l.render
  | .named name => OneLine name
  | .missing => True
  | .negate operand => operand.Legible
  | .binary _ left right => left.Legible ∧ right.Legible
  | .compare _ left right => left.Legible ∧ right.Legible

/-- What the statement has to print stands on one line, and a name is declared as one word
and with a type. -/
def Statement.Legible : Statement → Prop
  | .declare name type _ => OneWord name ∧ type ≠ .unknown
  | .assign target _ value _ => OneLine target ∧ value.Legible
  | .perform _ argument _ => OneLine argument.attributes.first

/-- An integer is written on one line. -/
theorem oneLine_int (n : Int32) : OneLine (Literal.int n).render := by
  have hdigits (k : Nat) : '\n' ∉ (Numeral.ofNat k).toList := by
    rw [Numeral.ofNat, String.toList_ofList]
    exact fun hmem => absurd (Numeral.isDigit_of_mem_digits hmem) (by decide)
  rw [Literal.render, Numeral.ofInt, OneLine]
  split
  · simp [hdigits]
  · exact hdigits _

/-- A literal that a legible token stands for is printed on one line. -/
theorem Token.Legible.literal {t : Token} (h : t.Legible) {l : Literal} (hl : LiteralForm t l) :
    OneLine l.render := by
  cases hl with
  | number hkind hvalue => exact oneLine_int _
  | text hkind => exact h.text hkind

namespace Reading

/-- What is read of legible tokens is a legible expression. -/
theorem legible_of_composed {scope : Scope} {form : Nonterminal} {c : Cursor} {r : Reading}
    (h : Composed scope form c r) (hrest : ∀ t ∈ c.rest, t.Legible) : r.expr.Legible := by
  have hlater {c later : Cursor} (h : c.Advances later) (hrest : ∀ t ∈ c.rest, t.Legible) :
      ∀ t ∈ later.rest, t.Legible := fun t ht => hrest t (h.rest_suffix.subset ht)
  have hhead {c : Cursor} {t : Token} {rest : List Token} (hc : c.rest = t :: rest)
      (hrest : ∀ t ∈ c.rest, t.Legible) : t.Legible := hrest t (by simp [hc])
  induction h with
  | named hc hkind => exact ((hhead hc hrest).name hkind).2
  | literal hc hliteral => exact (hhead hc hrest).literal hliteral
  | outOfRange hc hkind hvalue => trivial
  | absent hends => trivial
  | misplaced hc hkind hbracket hminus => trivial
  | bracketed hc hbracket hgrow hinner ih =>
      rw [closeBracket_expr]
      exact ih (hlater (.advance_grow hgrow) hrest)
  | negated hc hminus hgrow hinner ih => exact ih (hlater (.advance_grow hgrow) hrest)
  | refused hc hopens hroom => trivial
  | single h ih => exact ih hrest
  | joined hleft hop hgrow hright ihleft ihright =>
      exact ⟨ihleft hrest, ihright (hlater (hleft.advances.trans (.advance_grow hgrow)) hrest)⟩
  | cutRow hleft hop hroom ih => exact ih hrest
  | plain h ih => exact ih hrest
  | compared hleft hcomparison hgrow hright ihleft ihright =>
      exact ⟨ihleft hrest, ihright (hlater (hleft.advances.trans (.advance_grow hgrow)) hrest)⟩
  | cutCondition hleft hcomparison hroom ih => exact ih hrest

end Reading

/-- What is read of legible tokens is a legible statement. -/
theorem legible_of_composed_statement {scope : Scope} {t : Token} {rest : List Token}
    {r : StatementReading} (h : StatementComposed scope t rest r)
    (htokens : ∀ u ∈ t :: rest, u.Legible) {s : Statement} (hs : r.statement? = some s) :
    s.Legible := by
  obtain ⟨hfirst, hrest⟩ := List.forall_mem_cons.1 htokens
  cases h with
  | invalid => cases hs
  | declared hword htype hname =>
      cases hs
      exact ⟨(hrest _ List.mem_cons_self).name hname, (DataType.ofKeyword?_eq_some_iff.1 htype).2⟩
  | nameless => cases hs
  | @named command name behind hword htext hname =>
      cases hs
      have hargument :
          (StatementReading.variableArgument scope t.line name.text).1.attributes.first =
            name.text := by
        unfold StatementReading.variableArgument
        split <;> rfl
      rw [Statement.Legible, hargument]
      exact ((hrest _ List.mem_cons_self).name hname).2
  | printed hword htext hconstant =>
      cases hs
      exact (hrest _ List.mem_cons_self).literal hconstant
  | inputLiteral hconstant => cases hs
  | outOfRange => cases hs
  | argumentless => cases hs
  | @assigned equals value hword hkeyword hequals =>
      cases hs
      refine ⟨(hfirst.name hword).2,
        Reading.legible_of_composed (Reading.composed_whole scope _ value) fun u hu => ?_⟩
      exact hrest u (List.mem_cons_of_mem _ hu)

/-- The statements of a source text are legible. -/
theorem legible_of_mem_program {source : String} {s : Statement}
    (h : s ∈ (parse (scan source).tokens).program) : s.Legible := by
  obtain ⟨before, line, behind, hlines, hread⟩ := exists_line_of_mem_readLines h
  have hmem : line ∈ splitLines (closeTokens (scan source).tokens) := by simp [hlines]
  have htokens : ∀ t ∈ line.tokens, t.Legible := by
    intro t ht
    have hends := (not_endsLine_of_mem_splitLines hmem).1 t ht
    have hclosed := (mem_of_mem_splitLinesOnto hmem ht).resolve_left List.not_mem_nil
    exact legible_of_mem_tokens (mem_of_mem_closeTokens hclosed hends)
  rcases line with ⟨tokens, closing⟩
  cases tokens with
  | nil => cases hread
  | cons t rest =>
      exact legible_of_composed_statement (composed_readStatement _ t rest) htokens hread

/-! ## Folding -/

namespace Expr.Legible

/-- Settling the arithmetic leaves what is printed legible. -/
theorem foldArithmetic {e : Expr} (h : e.Legible) (line : Nat) :
    (foldArithmetic line e).expr.Legible := by
  induction e with
  | literal l => exact h
  | named name => exact h
  | missing => trivial
  | negate operand ih =>
      rcases settleNegate_cases line (Primer.foldArithmetic line operand).expr with
        hkept | ⟨m, n, -, hn, -⟩
      · exact hkept ▸ ih h
      · exact hn ▸ oneLine_int n
  | binary op left right ihl ihr =>
      rcases settleBinary_cases line op (Primer.foldArithmetic line left).expr
        (Primer.foldArithmetic line right).expr with hkept | ⟨l, r, n, -, -, hn, -⟩
      · exact hkept ▸ ⟨ihl h.1, ihr h.2⟩
      · exact hn ▸ oneLine_int n
  | compare comparison left right ihl ihr => exact ⟨ihl h.1, ihr h.2⟩

/-- Deciding the comparisons leaves what is printed legible. -/
theorem foldComparisons {e : Expr} (h : e.Legible) (line : Nat) :
    (foldComparisons line e).expr.Legible := by
  induction e with
  | literal l => exact h
  | named name => exact h
  | missing => trivial
  | negate operand ih => exact ih h
  | binary op left right ihl ihr => exact ⟨ihl h.1, ihr h.2⟩
  | compare comparison left right ihl ihr =>
      rcases settleCompare_cases line comparison (Primer.foldComparisons line left).expr
        (Primer.foldComparisons line right).expr with hkept | ⟨l, r, n, -, -, hn⟩
      · exact hkept ▸ ⟨ihl h.1, ihr h.2⟩
      · exact hn ▸ oneLine_int n

end Expr.Legible

/-- A legible statement stays so when its constants are folded. -/
theorem Statement.Legible.folded {s : Statement} (h : s.Legible) : s.folded.Legible := by
  cases s with
  | declare name type line => exact h
  | assign target type value line => exact ⟨h.1, (h.2.foldArithmetic line).foldComparisons line⟩
  | perform command argument line => exact h

/-! ## Trees -/

namespace Label

/-- Attributes that are words, the last one not used, leave the value free. -/
theorem legible_of_words {value : String} {a : Attributes}
    (ha : a ≠ Attributes.none ∧ OneWord a.first ∧ OneWord a.second ∧ a.third = "")
    (hvalue : OneLine value) : Legible ⟨value, a⟩ := by
  obtain ⟨hused, hfirst, hsecond, hthird⟩ := ha
  have hlast : OneWord a.third := hthird ▸ (by decide : OneWord "")
  exact .tagged ⟨hused, hsecond, hlast⟩ hvalue hfirst hthird

/-- A last attribute that is a word leaves the first one free. -/
theorem legible_of_tag {value first second tag : String} (hvalue : OneWord value)
    (hfirst : OneLine first) (hsecond : OneWord second) (htag : OneWord tag ∧ tag ≠ "") :
    Legible ⟨value, first, second, tag⟩ :=
  .argued ⟨fun h => htag.2 (congrArg Attributes.third h), hsecond, htag.1⟩ hvalue hfirst htag.2

theorem legible_ofLiteral {text : String} (h : OneLine text) : (ofLiteral text).Legible :=
  legible_of_words (a := ⟨"", valueTag, ""⟩) (by decide) h

/-- The label of a variable is legible, whatever blanks its name has. -/
theorem legible_ofVariable {name : String} (h : OneLine name) : (ofVariable name).Legible :=
  legible_of_words (a := ⟨variableTag, "", ""⟩) (by decide) h

end Label

open SyntaxTree

/-- A legible expression has a tree with legible labels. -/
theorem Expr.Legible.treeWith_absent {e : Expr} (h : e.Legible) :
    (e.treeWith .absent).Legible := by
  induction e with
  | literal l => exact ⟨Label.legible_ofLiteral h, trivial, trivial⟩
  | named name => exact ⟨Label.legible_ofVariable h, trivial, trivial⟩
  | missing => trivial
  | negate operand ih => exact ⟨.bare (by decide), ih h, trivial⟩
  | binary op left right ihl ihr =>
      have hsymbol : OneWord op.symbol := by cases op <;> decide
      exact ⟨.bare hsymbol, ihl h.1, ihr h.2⟩
  | compare comparison left right ihl ihr =>
      have hlabel : Label.Legible ⟨"CONDITION", ⟨comparison.symbol, "", ""⟩⟩ := by
        cases comparison <;> exact Label.legible_of_words (by decide) (by decide)
      exact ⟨hlabel, ihl h.1, ihr h.2⟩

/-- A legible statement has a tree with legible labels. -/
theorem Statement.Legible.treeWith_absent {s : Statement} (h : s.Legible) :
    (s.treeWith .absent).Legible := by
  cases s with
  | declare name type line =>
      have hkeyword : OneWord type.keyword := by cases type <;> decide
      have hknown : type.keyword ≠ "" := by
        cases type with
        | unknown => exact absurd rfl h.2
        | _ => decide
      have hused : (⟨name, type.keyword, ""⟩ : Attributes) ≠ Attributes.none := fun heq =>
        hknown (congrArg Attributes.second heq)
      exact ⟨Label.legible_of_words ⟨hused, h.1, hkeyword, rfl⟩ (by decide), trivial, trivial⟩
  | assign target type value line =>
      have hlabel : Label.Legible ⟨"ASSIGN", ⟨type.keyword, "", ""⟩⟩ := by
        cases type with
        | unknown => exact .bare (by decide)
        | _ => exact Label.legible_of_words (by decide) (by decide)
      exact ⟨hlabel, ⟨Label.legible_ofVariable h.1, trivial, trivial⟩, h.2.treeWith_absent⟩
  | perform command argument line =>
      have hvalue : OneWord command.keyword := by cases command <;> decide
      have htype (type : DataType) : OneWord type.keyword := by cases type <;> decide
      have hlabel : Label.Legible ⟨command.keyword, argument.attributes⟩ := by
        cases argument with
        | named name type => exact Label.legible_of_tag hvalue h (htype type) (by decide)
        | literal l => exact Label.legible_of_tag hvalue h (htype l.type) (by decide)
      exact ⟨hlabel, trivial, trivial⟩

/-- Legible statements have a tree with legible labels. -/
theorem legible_lower {program : Program} (h : ∀ s ∈ program, s.Legible) :
    (lower program).Legible := by
  have hlink : (Label.plain Label.statementsValue).Legible := .bare (by decide)
  have hchain {ts : List SyntaxTree} (hts : ∀ t ∈ ts, t.Legible) :
      (ts.foldr link .absent).Legible := by
    induction ts with
    | nil => trivial
    | cons t ts ih =>
        obtain ⟨ht, hts⟩ := List.forall_mem_cons.1 hts
        exact ⟨hlink, ht, ih hts⟩
  have htrees : ∀ t ∈ program.map (Statement.treeWith .absent), t.Legible :=
    List.forall_mem_map.2 fun s hs => (h s hs).treeWith_absent
  rw [lower_eq_ofStatements]
  unfold ofStatements
  split
  · exact ⟨hlink, trivial, trivial⟩
  · exact hchain htrees

/-- The tree of a source text has legible labels. -/
theorem legible_tree_compile (options : Options) (source : String) :
    (compile options source).tree.Legible := by
  refine legible_lower fun s hs => ?_
  have hprogram : ∀ s ∈ (parse (scan source).tokens).program, s.Legible := fun s hs =>
    legible_of_mem_program hs
  unfold Compilation.program compile at hs
  simp only at hs
  split at hs
  · rw [program_foldConstants] at hs
    obtain ⟨before, hbefore, rfl⟩ := List.mem_map.1 hs
    exact (hprogram before hbefore).folded
  · exact hprogram s hs

/-- A tree is printed by plain recursion: each node on a line of its own, with its
attributes if one is used, then its left and its right subtree, marked and set in by two
blanks.  For source texts the printed form tells the tree: two of them, whether their
constants are folded or not, have trees that are printed the same exactly when they have
the same tree. -/
theorem dump_faithful :
    (∀ t : SyntaxTree, t.dump = t.printed "" "") ∧
      ∀ (options options' : Options) (source source' : String),
        (compile options source).tree.dump = (compile options' source').tree.dump ↔
          (compile options source).tree = (compile options' source').tree := by
  refine ⟨dump_eq_printed, fun options options' source source' => ?_⟩
  constructor
  · exact (legible_tree_compile options source).dump_inj (legible_tree_compile options' source')
  · exact congrArg dump

end Primer
