import Primer.Compilation
import Primer.Proofs.DiagnosticLines
import Primer.Proofs.LineBreaks
import Primer.Text.Blank

/-!
# Blanks and line feeds at the end of a text

A text that does not end inside quotation marks may be followed by any blanks and line feeds.
Blanks are skipped, or belong to a comment; the first line feed ends the last line where
closing the tokens would have ended it, and the others add blank lines.  So nothing that is
compiled changes, and white space may be cut off before a text is compiled.

Main definitions:

- `Parse.Agrees` and `Compilation.Agrees` say that two outcomes are the same, but for the
  tokens, the log and the blank lines.
- `CutsOnlyEnd` describes a reader that cuts something off the end of a text.

Main results:

- Theorem `lexemes_append_blanks`: only the line feeds are scanned.
- Theorem `parse_of_endLastLine`: lines behind the last one that holds a token yield nothing.
- Theorem `trailing_blanks_ignored`: a text is compiled as it is without the blanks and line
  feeds at its end, and so is what a reader leaves that cuts off nothing else.
-/

namespace Primer

/-! ## Lexemes -/

/-- Blanks at the end of a text leave its segments whole, but for a last comment, which goes on
into them. -/
theorem Segment.Whole.append_gap {s : Segment} {rest gap : List Char} (h : s.Whole rest)
    (hclosed : s.brokenOff = s) (hgap : ∀ c ∈ gap, IsBlank c) :
    s.Whole (rest ++ gap) ∨
      ∃ text, s = .comment text ∧ rest = [] ∧ (Segment.comment (text ++ gap)).Whole [] := by
  have hhead {p : Char → Prop} (hp : p ' ' ∧ p '\t' ∧ p '\r') : ∀ d ∈ gap.head?, p d := by
    intro d hd
    rcases hgap d (List.mem_of_head? hd) with rfl | rfl | rfl
    · exact hp.1
    · exact hp.2.1
    · exact hp.2.2
  cases h with
  | blank hc => exact .inl (.blank hc)
  | @comment text rest htext hrest =>
      cases rest with
      | nil =>
          have hfeed : ∀ d ∈ gap, d ≠ '\n' := by
            intro d hd
            rcases hgap d hd with rfl | rfl | rfl <;> decide
          have hlonger := List.forall_mem_append.2 ⟨htext, hfeed⟩
          exact .inr ⟨text, rfl, rfl, .comment hlonger (by simp)⟩
      | cons d rest => exact .inl (.comment htext (by simpa using hrest))
  | lineFeed => exact .inl .lineFeed
  | word hc htext hrest =>
      have hblank : ∀ d ∈ gap.head?, ¬ ContinuesWord d :=
        hhead ⟨mt isWordChar_iff.2 (by decide), mt isWordChar_iff.2 (by decide),
          mt isWordChar_iff.2 (by decide)⟩
      exact .inl (.word hc htext (forall_mem_head?_append hrest hblank))
  | digits hc htext hrest =>
      have hblank : ∀ d ∈ gap.head?, ¬ IsDecimal d := hhead (by decide)
      exact .inl (.digits hc htext (forall_mem_head?_append hrest hblank))
  | closedText htext => exact .inl (.closedText htext)
  | brokenText htext hrest => exact .inl (.brokenText htext (by simp [List.head?_append, hrest]))
  | openText htext => cases hclosed
  | pair hpair => exact .inl (.pair hpair)
  | @single c rest hc hpair hcomment =>
      have hblank : ∀ d ∈ gap.head?, [c, d] ∉ symbolPairs := hhead (by simp [symbolPairs])
      refine .inl (.single hc (forall_mem_head?_append hpair hblank) fun hslash => ?_)
      cases rest with
      | nil =>
          intro hd
          exact hhead (p := (· ≠ '/')) (by decide) '/' hd rfl
      | cons d rest => simpa using hcomment hslash
  | stray hblank hfeed hletter hdecimal hmark hsymbol =>
      exact .inl (.stray hblank hfeed hletter hdecimal hmark hsymbol)

/-- Blanks behind a text are not scanned. -/
theorem lexemes_append_gap {text gap : List Char} (hclosed : ∀ l ∈ lexemes text, l.brokenOff = l)
    (hgap : ∀ c ∈ gap, IsBlank c) : lexemes (text ++ gap) = lexemes text := by
  have hsegmented := segmented_segments text
  generalize segments text = ss at hsegmented
  induction hsegmented with
  | nil => simpa [lexemes] using lexemes_gap hgap []
  | @cons s rest ss hs hss ih =>
      rw [lexemes_append_of_whole hs] at hclosed ⊢
      rw [List.forall_mem_append] at hclosed
      have hsegment : s.brokenOff = s := by
        cases s with
        | lexeme l => exact congrArg Segment.lexeme (hclosed.1 l (by simp [Segment.lexeme?]))
        | _ => rfl
      rcases hs.append_gap hsegment hgap with hwhole | ⟨text, rfl, rfl, hlonger⟩
      · rw [List.append_assoc, lexemes_append_of_whole hwhole, ih hclosed.2]
      · have hskip : lexemes ('/' :: '/' :: (text ++ gap) ++ []) = lexemes [] :=
          lexemes_append_of_whole hlonger
        simpa [Segment.chars, Segment.lexeme?] using hskip

/-- Of blanks and line feeds behind a text, only the line feeds are scanned. -/
theorem lexemes_append_blanks {text blanks : List Char}
    (hclosed : ∀ l ∈ lexemes text, l.brokenOff = l)
    (hblanks : ∀ c ∈ blanks, IsBlank c ∨ c = '\n') :
    lexemes (text ++ blanks) =
      lexemes text ++ List.replicate (blanks.count '\n') .lineFeed := by
  induction blanks generalizing text with
  | nil => simp
  | cons c blanks ih =>
      obtain ⟨hc, hrest⟩ := List.forall_mem_cons.1 hblanks
      rw [List.append_cons]
      rcases hc with hc | rfl
      · have hgap : lexemes (text ++ [c]) = lexemes text :=
          lexemes_append_gap hclosed (List.forall_mem_singleton.2 hc)
        have hfeed : c ≠ '\n' := by rcases hc with rfl | rfl | rfl <;> decide
        rw [ih (hgap ▸ hclosed) hrest, hgap, List.count_cons_of_ne hfeed]
      · have hfeed : lexemes (text ++ ['\n']) = lexemes text ++ [.lineFeed] := by
          rw [lexemes_append_lineFeed, List.map_congr_left hclosed, List.map_id']
          simp [lexemes]
        have hclosed' : ∀ l ∈ lexemes (text ++ ['\n']), l.brokenOff = l := by
          rw [hfeed]
          exact List.forall_mem_append.2 ⟨hclosed, by simp [Lexeme.brokenOff]⟩
        rw [ih hclosed' hrest, hfeed, List.count_cons_self, List.replicate_succ,
          List.append_assoc, List.singleton_append]

/-! ## Reading -/

/-- The outcomes have the same statements, diagnostics and declarations. -/
structure Parse.Agrees (p q : Parse) : Prop where
  program_eq : p.program = q.program
  diagnostics_eq : p.diagnostics = q.diagnostics
  symbols_eq : p.symbols = q.symbols

theorem Parse.Agrees.symm {p q : Parse} (h : p.Agrees q) : q.Agrees p :=
  ⟨h.program_eq.symm, h.diagnostics_eq.symm, h.symbols_eq.symm⟩

theorem Parse.Agrees.trans {p q r : Parse} (h : p.Agrees q) (h' : q.Agrees r) : p.Agrees r :=
  ⟨h.program_eq.trans h'.program_eq, h.diagnostics_eq.trans h'.diagnostics_eq,
    h.symbols_eq.trans h'.symbols_eq⟩

/-- Blank lines give nothing and declare nothing. -/
theorem readLines_of_blank (symbols : SymbolTable) {lines : List Line}
    (h : ∀ line ∈ lines, line.tokens = []) :
    readLines symbols lines = (lines.map fun _ => ⟨none, [], none⟩, symbols) := by
  induction lines with
  | nil => rfl
  | cons line lines ih =>
      obtain ⟨hline, hlines⟩ := List.forall_mem_cons.1 h
      obtain ⟨tokens, closing⟩ := line
      obtain rfl : tokens = [] := hline
      rw [readLines_cons, readLineFrom_blank, ih hlines]
      rfl

/-- Tokens that only end lines yield nothing. -/
theorem parseFrom_of_endsLine (symbols : SymbolTable) {tokens : List Token}
    (h : ∀ t ∈ tokens, t.endsLine = true) :
    (parseFrom symbols tokens).program = [] ∧ (parseFrom symbols tokens).diagnostics = [] ∧
      (parseFrom symbols tokens).symbols = symbols := by
  have hblank : ∀ line ∈ splitLines (closeTokens tokens), line.tokens = [] := by
    intro line hline
    refine List.eq_nil_iff_forall_not_mem.2 fun t ht => ?_
    have hends : t.endsLine = false := (not_endsLine_of_mem_splitLines hline).1 t ht
    have hclosed : t ∈ closeTokens tokens :=
      (mem_of_mem_splitLinesOnto hline ht).resolve_left List.not_mem_nil
    rw [h t (mem_of_mem_closeTokens hclosed hends)] at hends
    cases hends
  unfold parseFrom
  rw [readLines_of_blank symbols hblank]
  simp [Parse.program, Parse.diagnostics, LineReading.diagnostics]

/-- Lines behind the last one that holds a token yield nothing. -/
theorem parse_of_endLastLine {body whole feeds : List Token} {closing : Token}
    (hwhole : Closed whole) (hfeeds : ∀ t ∈ feeds, t.kind = .endOfLine)
    (hclosing : closing.kind = .endOfInput) (h : endLastLine body = whole ++ feeds) :
    (parse (body ++ [closing])).Agrees (parse whole) := by
  have hclosed : Closed feeds :=
    ⟨fun t ht => by simp [hfeeds t ht], fun t ht => hfeeds t (List.mem_of_getLast? ht)⟩
  have hends : ∀ t ∈ feeds ++ [closing], t.endsLine = true := by
    refine List.forall_mem_append.2 ⟨fun t ht => ?_, List.forall_mem_singleton.2 ?_⟩
    · simp [Token.endsLine, hfeeds t ht]
    · simp [Token.endsLine, hclosing]
  have hclose : closeTokens (body ++ [closing]) = closeTokens (whole ++ (feeds ++ [closing])) := by
    rw [closeTokens_endOfInput _ hclosing, closeTokens_append hwhole (by simp),
      closeTokens_endOfInput _ hclosing, endLastLine_of_closed hclosed, h, List.append_assoc]
  have hparse : parse (body ++ [closing]) = parse (whole ++ (feeds ++ [closing])) := by
    unfold parse parseFrom
    rw [hclose]
  obtain ⟨hprogram, hdiagnostics, hsymbols⟩ :=
    parseFrom_append SymbolTable.empty hwhole (feeds ++ [closing])
  obtain ⟨hnothing, hsilent, hkept⟩ := parseFrom_of_endsLine (parse whole).symbols hends
  rw [hparse]
  unfold parse at hnothing hsilent hkept ⊢
  refine ⟨?_, ?_, hsymbols.trans hkept⟩
  · rw [hprogram, hnothing, List.append_nil]
  · rw [hdiagnostics, hsilent, List.append_nil]

/-- Ends of lines behind tokens end the last line where it would have been ended. -/
theorem endLastLine_append_feeds {front feeds : List Token}
    (hfeeds : ∀ t ∈ feeds, t.kind = .endOfLine)
    (hfirst : ∀ t ∈ feeds.head?, ∀ last ∈ front.getLast?, last.kind ≠ .endOfLine →
      t = ⟨.endOfLine, "", last.line⟩) :
    ∃ more, (∀ t ∈ more, t.kind = .endOfLine) ∧
      endLastLine (front ++ feeds) = endLastLine front ++ more := by
  cases feeds with
  | nil => exact ⟨[], List.forall_mem_nil _, by simp⟩
  | cons t feeds =>
      have hlast : endLastLine (front ++ t :: feeds) = front ++ t :: feeds := by
        obtain ⟨last, hlast⟩ := Option.isSome_iff_exists.1
          (List.getLast?_isSome.2 (List.cons_ne_nil t feeds))
        have hkind : last.kind = .endOfLine := hfeeds last (List.mem_of_getLast? hlast)
        simp [endLastLine, List.getLast?_append, hlast, hkind]
      obtain ⟨ht, hmore⟩ := List.forall_mem_cons.1 hfeeds
      rw [hlast]
      unfold endLastLine
      cases hfront : front.getLast? with
      | none =>
          rw [List.getLast?_eq_none_iff.1 hfront]
          exact ⟨t :: feeds, hfeeds, rfl⟩
      | some last =>
          by_cases hkind : last.kind = .endOfLine
          · exact ⟨t :: feeds, hfeeds, by simp [hkind]⟩
          · refine ⟨feeds, hmore, ?_⟩
            simp [hkind, hfirst t rfl last hfront hkind]

/-! ## Scanning -/

/-- A lexeme that is not a line feed stands on the line reached behind it. -/
theorem line_of_getLast?_placeAll {line : Nat} {ls : List Lexeme} {p : PlacedLexeme}
    (hp : p ∈ (placeAll line ls).1.getLast?) (hfeed : p.lexeme ≠ .lineFeed) :
    p.line = (placeAll line ls).2 := by
  rcases List.eq_nil_or_concat ls with rfl | ⟨front, l, rfl⟩
  · cases hp
  · rw [List.concat_eq_append, placeAll_append] at hp ⊢
    obtain rfl : p = ⟨l, (placeAll line front).2⟩ := by simpa [eq_comm] using hp
    cases l with
    | lineFeed => exact absurd rfl hfeed
    | _ => rfl

/-- Among line feeds every lexeme is one. -/
theorem lexeme_of_mem_placeAll_lineFeeds {line n : Nat} {p : PlacedLexeme}
    (hp : p ∈ (placeAll line (List.replicate n .lineFeed)).1) : p.lexeme = .lineFeed := by
  have hlexeme := List.mem_map_of_mem (f := PlacedLexeme.lexeme) hp
  rw [map_lexeme_placeAll] at hlexeme
  exact List.eq_of_mem_replicate hlexeme

/-- The first of some line feeds stands on the line they are placed from. -/
theorem head?_placeAll_lineFeeds {line n : Nat} {p : PlacedLexeme}
    (hp : p ∈ (placeAll line (List.replicate n .lineFeed)).1.head?) : p = ⟨.lineFeed, line⟩ := by
  cases n with
  | zero => cases hp
  | succ n =>
      rw [List.replicate_succ, placeAll_cons, List.head?_cons] at hp
      exact (Option.some.inj hp).symm

/-- No lexeme becomes the end of the input. -/
theorem kind_ne_endOfInput_of_mem {placed : List PlacedLexeme} {t : Token}
    (ht : t ∈ placed.map PlacedLexeme.token) : t.kind ≠ .endOfInput := by
  obtain ⟨⟨l, line⟩, -, rfl⟩ := List.mem_map.1 ht
  cases l <;> exact nofun

/-- A text without an error about its end has no lexeme that it ends in. -/
theorem brokenOff_of_closed {source : String}
    (hclosed : ∀ n, LexicalError.unexpectedEnd n ∉ (scan source).errors) :
    ∀ l ∈ lexemes source.toList, l.brokenOff = l := by
  intro l hl
  have hplaced : (scan source).lexemes.map PlacedLexeme.lexeme = lexemes source.toList :=
    map_lexeme_placeAll 1 _
  rw [← hplaced] at hl
  obtain ⟨p, hp, rfl⟩ := List.mem_map.1 hl
  obtain ⟨l, line⟩ := p
  cases l with
  | quoted text closing =>
      cases closing with
      | sourceEnd =>
          have herror : .unexpectedEnd line ∈ (scan source).errors :=
            List.mem_filterMap.2 ⟨_, hp, rfl⟩
          exact absurd herror (hclosed line)
      | _ => rfl
  | _ => rfl

section

variable {source blanks : String}

/-- Behind a text, only the line feeds are placed. -/
theorem scan_append_blanks
    (hclosed : ∀ n, LexicalError.unexpectedEnd n ∉ (scan source).errors)
    (hblanks : ∀ c ∈ blanks.toList, IsBlank c ∨ c = '\n') :
    (scan (source ++ blanks)).lexemes = (scan source).lexemes ++
      (placeAll (scan source).lastLine
        (List.replicate (blanks.toList.count '\n') .lineFeed)).1 := by
  have hlexemes := lexemes_append_blanks (brokenOff_of_closed hclosed) hblanks
  rw [scan, String.toList_append, hlexemes, placeAll_append]
  rfl

/-- Blanks behind a source whose last text is closed bring no error. -/
theorem errors_append_blanks
    (hclosed : ∀ n, LexicalError.unexpectedEnd n ∉ (scan source).errors)
    (hblanks : ∀ c ∈ blanks.toList, IsBlank c ∨ c = '\n') :
    (scan (source ++ blanks)).errors = (scan source).errors := by
  rw [Scan.errors, scan_append_blanks hclosed hblanks, List.filterMap_append]
  have hsilent := List.filterMap_eq_nil_iff.2 fun p
      (hp : p ∈ (placeAll (scan source).lastLine
        (List.replicate (blanks.toList.count '\n') .lineFeed)).1) =>
    show p.error? = none by rw [PlacedLexeme.error?, lexeme_of_mem_placeAll_lineFeeds hp]
  rw [hsilent, List.append_nil]
  rfl

/-- The tokens of a text are read as they are without the line feeds behind it. -/
theorem parse_append_blanks
    (hclosed : ∀ n, LexicalError.unexpectedEnd n ∉ (scan source).errors)
    (hblanks : ∀ c ∈ blanks.toList, IsBlank c ∨ c = '\n') :
    (parse (scan (source ++ blanks)).tokens).Agrees (parse (scan source).tokens) := by
  let front := (scan source).lexemes.map PlacedLexeme.token
  let placed := (placeAll (scan source).lastLine
    (List.replicate (blanks.toList.count '\n') .lineFeed)).1
  let feeds := placed.map PlacedLexeme.token
  have hfront : ∀ t ∈ front, t.kind ≠ .endOfInput := fun t ht => kind_ne_endOfInput_of_mem ht
  have hfeeds : ∀ t ∈ feeds, t.kind = .endOfLine := by
    intro t ht
    obtain ⟨p, hp, rfl⟩ := List.mem_map.1 ht
    rw [PlacedLexeme.token, lexeme_of_mem_placeAll_lineFeeds hp]
  have hfirst : ∀ t ∈ feeds.head?, ∀ last ∈ front.getLast?, last.kind ≠ .endOfLine →
      t = ⟨.endOfLine, "", last.line⟩ := by
    intro t ht last hlast hkind
    obtain ⟨p, hp, rfl⟩ := Option.map_eq_some_iff.1 (List.getLast?_map ▸ hlast)
    obtain ⟨feed, hfeed, rfl⟩ := Option.map_eq_some_iff.1 (List.head?_map ▸ ht)
    have hlexeme : p.lexeme ≠ .lineFeed := by
      intro hlexeme
      exact hkind (by rw [PlacedLexeme.token, hlexeme])
    rw [head?_placeAll_lineFeeds hfeed, p.token_line, line_of_getLast?_placeAll hp hlexeme]
    rfl
  obtain ⟨more, hmore, hends⟩ := endLastLine_append_feeds hfeeds hfirst
  have hlonger : (parse (scan (source ++ blanks)).tokens).Agrees (parse (endLastLine front)) := by
    rw [Scan.tokens, scan_append_blanks hclosed hblanks, List.map_append]
    exact parse_of_endLastLine (closed_endLastLine hfront) hmore rfl hends
  have hshorter : (parse (scan source).tokens).Agrees (parse (endLastLine front)) :=
    parse_of_endLastLine (closed_endLastLine hfront) (List.forall_mem_nil _) rfl
      (List.append_nil _).symm
  exact hlonger.trans hshorter.symm

end

/-! ## Compiling -/

/-- The outcomes have the same program, declarations, tree and diagnostics. -/
structure Compilation.Agrees (c d : Compilation) : Prop where
  program_eq : c.program = d.program
  symbols_eq : c.symbols = d.symbols
  tree_eq : c.tree = d.tree
  diagnostics_eq : c.diagnostics = d.diagnostics

/-- What is compiled depends on the lexical errors and on what is read of the tokens. -/
theorem agrees_compile (options : Options) {source source' : String}
    (herrors : (scan source).errors = (scan source').errors)
    (hparse : (parse (scan source).tokens).Agrees (parse (scan source').tokens)) :
    (compile options source).Agrees (compile options source') := by
  have hfolding : (compile options source).folding = (compile options source').folding := by
    simp only [compile, hparse.program_eq]
  have hprogram : (compile options source).program = (compile options source').program :=
    congrArg Folding.program hfolding
  refine ⟨hprogram, hparse.symbols_eq, congrArg lower hprogram, ?_⟩
  have hfaults := congrArg Folding.faults hfolding
  have hscan : (compile options source).scan.errors = (compile options source').scan.errors :=
    herrors
  have hread : (compile options source).parse.diagnostics =
      (compile options source').parse.diagnostics := hparse.diagnostics_eq
  rw [Compilation.diagnostics, Compilation.diagnostics, hscan, hread, hfaults]

/-- Blanks behind such a source change nothing that is compiled. -/
theorem agrees_append_blanks (options : Options) {source blanks : String}
    (hclosed : ∀ n, LexicalError.unexpectedEnd n ∉ (scan source).errors)
    (hblanks : ∀ c ∈ blanks.toList, c = ' ' ∨ c = '\t' ∨ c = '\r' ∨ c = '\n') :
    (compile options (source ++ blanks)).Agrees (compile options source) := by
  have hkinds : ∀ c ∈ blanks.toList, IsBlank c ∨ c = '\n' := by
    simpa only [IsBlank, or_assoc] using hblanks
  exact agrees_compile options (errors_append_blanks hclosed hkinds)
    (parse_append_blanks hclosed hkinds)

/-- A reader that cuts something off the end of each text, and nothing else. -/
def CutsOnlyEnd (reader : String → String) : Prop :=
  ∀ text, ∃ cut, text = reader text ++ cut

/-- Cutting white space off the end is such a reader. -/
theorem cutsOnlyEnd_trimEnd : CutsOnlyEnd trimEnd := by
  intro text
  refine ⟨String.ofList (text.toList.reverse.takeWhile isWhiteSpace).reverse, ?_⟩
  rw [← String.toList_inj, String.toList_append, String.toList_ofList, toList_trimEnd_append]

/-- Blanks and line feeds behind a text that does not end inside quotation marks make no
difference to its program, declarations, tree and diagnostics.  So whatever reads a text and
cuts something off its end, and nothing else, makes none either, if it cuts off white space of
these kinds only. -/
theorem trailing_blanks_ignored (options : Options) :
    (∀ source blanks : String,
      (∀ n, LexicalError.unexpectedEnd n ∉ (scan source).errors) →
      (∀ c ∈ blanks.toList, c = ' ' ∨ c = '\t' ∨ c = '\r' ∨ c = '\n') →
      (compile options (source ++ blanks)).Agrees (compile options source)) ∧
    ∀ reader : String → String, CutsOnlyEnd reader → ∀ text : String,
      ∃ cut, text = reader text ++ cut ∧
        ((∀ n, LexicalError.unexpectedEnd n ∉ (scan (reader text)).errors) →
          (∀ c ∈ cut.toList, c = ' ' ∨ c = '\t' ∨ c = '\r' ∨ c = '\n') →
          (compile options text).Agrees (compile options (reader text))) := by
  refine ⟨fun source blanks hclosed hblanks => agrees_append_blanks options hclosed hblanks, ?_⟩
  intro reader hreader text
  obtain ⟨cut, htext⟩ := hreader text
  refine ⟨cut, htext, fun hclosed hcut => ?_⟩
  have hagrees := agrees_append_blanks options hclosed hcut
  rwa [← htext] at hagrees

/-- A line that breaks off in front of a comment is reported in the same way with and without
an end, and white space behind it is what is cut off. -/
theorem trailing_blanks_ignored_brokenLine :
    let source := "INT a\na = (1 + // sum"
    let blanks := " \t\r\n\n "
    (∀ n, LexicalError.unexpectedEnd n ∉ (scan source).errors) ∧
      (∀ c ∈ blanks.toList, c = ' ' ∨ c = '\t' ∨ c = '\r' ∨ c = '\n') ∧
      (compile .standard source).diagnostics =
        [.grammar (.expectedOperand 2 "end of line"),
          .grammar (.missingClosingBracket 2 "end of line")] ∧
      (compile .standard (source ++ blanks)).Agrees (compile .standard source) ∧
      CutsOnlyEnd trimEnd ∧ trimEnd (source ++ blanks) = source ∧
      (compile .standard (source ++ blanks)).Agrees
        (compile .standard (trimEnd (source ++ blanks))) := by
  intro source blanks
  have herrors : (scan source).errors = [] := by decide +kernel
  have hclosed : ∀ n, LexicalError.unexpectedEnd n ∉ (scan source).errors := by simp [herrors]
  have hblanks : ∀ c ∈ blanks.toList, c = ' ' ∨ c = '\t' ∨ c = '\r' ∨ c = '\n' := by
    simp [blanks]
  have hdiagnostics : (compile .standard source).diagnostics =
      [.grammar (.expectedOperand 2 "end of line"),
        .grammar (.missingClosingBracket 2 "end of line")] := by decide +kernel
  have hread : trimEnd (source ++ blanks) = source := by decide +kernel
  obtain ⟨happended, hreader⟩ := trailing_blanks_ignored .standard
  obtain ⟨cut, hcut, hagrees⟩ := hreader trimEnd cutsOnlyEnd_trimEnd (source ++ blanks)
  rw [hread] at hcut hagrees
  obtain rfl : blanks = cut := (String.append_right_inj _).1 hcut
  exact ⟨hclosed, hblanks, hdiagnostics, happended source blanks hclosed hblanks,
    cutsOnlyEnd_trimEnd, hread, hread.symm ▸ hagrees hclosed hblanks⟩

end Primer
