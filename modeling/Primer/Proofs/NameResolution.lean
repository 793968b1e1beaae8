import Primer.Proofs.Grammar.Composition
import Primer.Reading.Program

/-!
# Resolution of names

The declarations, the types stored in statements and the complaints about names
that come out of reading a list of tokens are those that a walk over the statements
finds, knowing at each statement the declarations in front of it.

Main definitions:

- `declarationsOf` lists what a program declares.
- `ResolvesTo` is the type that a name has behind given declarations.
- `NameIssue` is a complaint about a name; `nameIssuesAfter` lists those of a
  program, and `Diagnostic.nameIssue?` recognizes them among all diagnostics.
- `Tracks` says that statements and reports agree on the names in them.

Main results:

- Theorem `nameIssues_of_composed`: an expression that was read, given up or not,
  has one report for each name in it without declaration.
- Theorem `tracks_readLines`: lines agree with their reports on the names in them.
- Theorem `names_resolved`: the same for a list of tokens.
-/

namespace Primer

/-! ## What a program declares -/

/-- What a statement declares. -/
def Statement.declaration? : Statement → Option Declaration
  | .declare name type _ => some ⟨name, type⟩
  | .assign _ _ _ _ => none
  | .perform _ _ _ => none

/-- The declarations of a program, in order. -/
def declarationsOf (program : Program) : List Declaration :=
  program.filterMap Statement.declaration?

/-- The name is among the declarations. -/
def Declared (earlier : List Declaration) (name : String) : Prop :=
  ∃ d ∈ earlier, d.name = name

instance (earlier : List Declaration) (name : String) : Decidable (Declared earlier name) :=
  inferInstanceAs (Decidable (∃ d ∈ earlier, d.name = name))

/-- The type that a name has behind the given declarations: the one it was first
declared with, or the unknown type if it was not declared. -/
structure ResolvesTo (earlier : List Declaration) (name : String) (type : DataType) : Prop where
  unknown_iff : type = .unknown ↔ ¬ Declared earlier name
  first_of_known : type ≠ .unknown → ∃ front behind, earlier = front ++ ⟨name, type⟩ :: behind ∧
    ¬ Declared front name

/-- The types stored in a statement are those of its names. -/
def Statement.Resolved (earlier : List Declaration) : Statement → Prop
  | .declare _ _ _ => True
  | .assign target type _ _ => ResolvesTo earlier target type
  | .perform _ (.named name type) _ => ResolvesTo earlier name type
  | .perform _ (.literal _) _ => True

/-! ## Complaints about names -/

/-- A complaint about a name. -/
inductive NameIssue where
  | invalidDeclaration (name : String)
  | undeclaredAssignment (name : String)
  | undeclaredVariable (name : String)
  deriving DecidableEq, Repr

/-- The diagnostic as a complaint about a name. -/
def Diagnostic.nameIssue? : Diagnostic → Option NameIssue
  | .semantic (.invalidDeclaration _ name) => some (.invalidDeclaration name)
  | .semantic (.undeclaredAssignment _ name) => some (.undeclaredAssignment name)
  | .semantic (.undeclaredVariable _ name) => some (.undeclaredVariable name)
  | _ => none

/-- The names in an expression, from left to right. -/
def Expr.names : Expr → List String
  | .literal _ => []
  | .named name => [name]
  | .negate operand => operand.names
  | .binary _ left right => left.names ++ right.names
  | .compare _ left right => left.names ++ right.names
  | .missing => []

/-- The complaints about names that are used without declaration. -/
def undeclaredUses (earlier : List Declaration) (names : List String) : List NameIssue :=
  (names.filter fun name => ¬ Declared earlier name).map .undeclaredVariable

/-- The complaints about the names in a statement. -/
def Statement.nameIssues (earlier : List Declaration) : Statement → List NameIssue
  | .declare name _ _ =>
      if name = "PRINT" ∨ name = "INPUT" ∨ Declared earlier name then [.invalidDeclaration name]
      else []
  | .assign target _ value _ =>
      (if Declared earlier target then [] else [.undeclaredAssignment target]) ++
        undeclaredUses earlier value.names
  | .perform _ (.named name _) _ => undeclaredUses earlier [name]
  | .perform _ (.literal _) _ => []

/-- The complaints about the names in a program, behind the given declarations. -/
def nameIssuesAfter (earlier : List Declaration) : Program → List NameIssue
  | [] => []
  | s :: program =>
      s.nameIssues earlier ++ nameIssuesAfter (earlier ++ s.declaration?.toList) program

/-- The types stored in a program are those of its names, behind the given
declarations. -/
def ResolvedAfter (earlier : List Declaration) : Program → Prop
  | [] => True
  | s :: program =>
      s.Resolved earlier ∧ ResolvedAfter (earlier ++ s.declaration?.toList) program

/-- What the first statement declares comes first. -/
theorem declarationsOf_cons (s : Statement) (program : Program) :
    declarationsOf (s :: program) = s.declaration?.toList ++ declarationsOf program := by
  unfold declarationsOf
  cases h : s.declaration? with
  | none => simp [h]
  | some d => simp [h]

@[simp]
theorem declarationsOf_append (front back : Program) :
    declarationsOf (front ++ back) = declarationsOf front ++ declarationsOf back :=
  List.filterMap_append

/-- The complaints about a program are those about its parts, the second part behind the
declarations of the first. -/
theorem nameIssuesAfter_append (earlier : List Declaration) (front back : Program) :
    nameIssuesAfter earlier (front ++ back) =
      nameIssuesAfter earlier front ++ nameIssuesAfter (earlier ++ declarationsOf front) back := by
  induction front generalizing earlier with
  | nil => simp [nameIssuesAfter, declarationsOf]
  | cons s front ih => simp [nameIssuesAfter, ih, declarationsOf_cons]

/-- A program is resolved exactly if its parts are, the second part behind the declarations of
the first. -/
theorem resolvedAfter_append {earlier : List Declaration} {front back : Program} :
    ResolvedAfter earlier (front ++ back) ↔
      ResolvedAfter earlier front ∧ ResolvedAfter (earlier ++ declarationsOf front) back := by
  induction front generalizing earlier with
  | nil => simp [ResolvedAfter, declarationsOf]
  | cons s front ih => simp [ResolvedAfter, ih, declarationsOf_cons, and_assoc]

/-! ## Symbol tables -/

namespace SymbolTable

variable {table : SymbolTable} {name : String}

/-- A table contains the names among its declarations. -/
theorem contains_iff_declared :
    table.contains name = true ↔ Declared table.declarations name := by
  simp [contains, find?, Declared]

/-- A name is fresh unless it is declared or the keyword of a command. -/
theorem isFresh_iff_not_declared :
    table.isFresh name = true ↔
      ¬ (name = "PRINT" ∨ name = "INPUT" ∨ Declared table.declarations name) := by
  rw [isFresh_iff_type?, ← contains_eq_false_iff, ← contains_iff_declared]
  simp

/-- No declaration has the unknown type. -/
def Known (table : SymbolTable) : Prop :=
  ∀ d ∈ table.declarations, d.type ≠ .unknown

/-- Declaring a known type keeps all types known. -/
theorem Known.declare (hknown : table.Known) {type : DataType} (htype : type ≠ .unknown) :
    (table.declare name type).Known := by
  intro d hd
  rcases List.mem_append.1 hd with hd | hd
  · exact hknown d hd
  · rw [List.mem_singleton.1 hd]
    exact htype

/-- The type that the table has for a name is that of its first declaration. -/
theorem resolvesTo_type? (hknown : table.Known) (name : String) :
    ResolvesTo table.declarations name ((table.type? name).getD .unknown) := by
  cases hfind : table.find? name with
  | none =>
      have hnone : ¬ Declared table.declarations name := by
        rw [← contains_iff_declared]
        simp [contains, hfind]
      refine ⟨?_, ?_⟩
      · simp [type?, hfind, hnone]
      · simp [type?, hfind]
  | some d =>
      rcases List.find?_eq_some_iff_append.1 hfind with ⟨hname, front, behind, hsplit, hfront⟩
      have hname : d.name = name := by simpa using hname
      have hmem : d ∈ table.declarations := by simp [hsplit]
      have htype : (table.type? name).getD .unknown = d.type := by simp [type?, hfind]
      rw [htype]
      refine ⟨?_, ?_⟩
      · -- Both sides are false: the name is declared, and no declaration is of unknown type.
        constructor
        · intro h
          exact absurd h (hknown d hmem)
        · intro h
          exact absurd ⟨d, hmem, hname⟩ h
      · intro _
        refine ⟨front, behind, ?_, ?_⟩
        · rw [hsplit, ← hname]
        · rintro ⟨other, hother, hsame⟩
          simpa [hsame] using hfront other hother

end SymbolTable

/-! ## Expressions -/

namespace Reading

/-- A bracket that is not closed is no complaint about a name. -/
@[simp]
theorem nameIssues_closeBracket (scope : Scope) (opening : Token) (r : Reading) :
    (closeBracket scope opening r).reports.filterMap Diagnostic.nameIssue? =
      r.reports.filterMap Diagnostic.nameIssue? := by
  unfold closeBracket
  split
  · rfl
  split
  · rfl
  · simp [Diagnostic.nameIssue?]

/-- However an expression was read, its reports name the undeclared names in it, from
left to right. -/
theorem nameIssues_of_composed {scope : Scope} {form : Nonterminal} {c : Cursor} {r : Reading}
    (h : Composed scope form c r) :
    r.reports.filterMap Diagnostic.nameIssue? =
      undeclaredUses scope.symbols.declarations r.expr.names := by
  induction h with
  | @named mode c t rest hrest hkind =>
      by_cases hdeclared : Declared scope.symbols.declarations t.text
      · simp [SymbolTable.contains_iff_declared, undeclaredUses, Expr.names, hdeclared]
      · simp [SymbolTable.contains_iff_declared, undeclaredUses, Expr.names, hdeclared,
          Diagnostic.nameIssue?]
  | literal hrest hliteral => rfl
  | outOfRange hrest hkind hvalue => rfl
  | absent hends => rfl
  | misplaced hrest hkind hbracket hminus => rfl
  | bracketed hrest hbracket hgrow hinner ih => simpa using ih
  | negated hrest hminus hgrow hinner ih => simpa [Expr.names] using ih
  | refused hrest hopens hroom => rfl
  | single h ih => exact ih
  | joined hleft hop hgrow hright ihleft ihright =>
      simp [Expr.names, undeclaredUses, ihleft, ihright]
  | cutRow hleft hop hroom ih => simp [abandon, Diagnostic.nameIssue?, ih]
  | plain h ih => exact ih
  | compared hleft hcomparison hgrow hright ihleft ihright =>
      simp [Expr.names, undeclaredUses, ihleft, ihright]
  | cutCondition hleft hcomparison hroom ih => simp [abandon, Diagnostic.nameIssue?, ih]

end Reading

/-! ## Statements and lines -/

/-- Between two symbol tables, statements and reports agree on the names in them. -/
structure Tracks (before : SymbolTable) (program : Program) (reports : List Diagnostic)
    (behind : SymbolTable) : Prop where
  declarations_eq : behind.declarations = before.declarations ++ declarationsOf program
  resolved : ResolvedAfter before.declarations program
  issues_eq : reports.filterMap Diagnostic.nameIssue? =
    nameIssuesAfter before.declarations program
  known : behind.Known

namespace Tracks

variable {before between behind : SymbolTable}

/-- Nothing was read and no name complained about. -/
theorem silent {reports : List Diagnostic} (hknown : before.Known)
    (hreports : reports.filterMap Diagnostic.nameIssue? = []) : Tracks before [] reports before :=
  ⟨by simp [declarationsOf], trivial, hreports, hknown⟩

/-- A statement was read that declares nothing. -/
theorem single {s : Statement} {reports : List Diagnostic} (hknown : before.Known)
    (hnone : s.declaration? = none) (hresolved : s.Resolved before.declarations)
    (hreports : reports.filterMap Diagnostic.nameIssue? = s.nameIssues before.declarations) :
    Tracks before [s] reports before :=
  ⟨by simp [declarationsOf, hnone], ⟨hresolved, trivial⟩, by simp [nameIssuesAfter, hreports],
    hknown⟩

/-- What is tracked in two parts is tracked in both, one behind the other. -/
theorem append {front back : Program} {earlier later : List Diagnostic}
    (hfront : Tracks before front earlier between) (hback : Tracks between back later behind) :
    Tracks before (front ++ back) (earlier ++ later) behind := by
  refine ⟨?_, ?_, ?_, hback.known⟩
  · rw [hback.declarations_eq, hfront.declarations_eq, declarationsOf_append, List.append_assoc]
  · rw [resolvedAfter_append, ← hfront.declarations_eq]
    exact ⟨hfront.resolved, hback.resolved⟩
  · rw [List.filterMap_append, hfront.issues_eq, hback.issues_eq, nameIssuesAfter_append,
      ← hfront.declarations_eq]

end Tracks

section

variable {scope : Scope} {t : Token} {rest : List Token}

/-- A declaration is tracked: it is complained about unless its name is fresh. -/
theorem tracks_declare (hknown : scope.symbols.Known) {name : String} {type : DataType}
    (htype : type ≠ .unknown) (line : Nat) :
    Tracks scope.symbols [.declare name type line]
      (if scope.symbols.isFresh name then [] else [.semantic (.invalidDeclaration line name)])
      (scope.symbols.declare name type) := by
  refine ⟨rfl, ⟨trivial, trivial⟩, ?_, hknown.declare htype⟩
  by_cases hfresh : scope.symbols.isFresh name = true
  · have hfree := SymbolTable.isFresh_iff_not_declared.1 hfresh
    simp [hfresh, nameIssuesAfter, Statement.nameIssues, hfree]
  · have htaken := Classical.not_not.1 (mt SymbolTable.isFresh_iff_not_declared.2 hfresh)
    simp [hfresh, nameIssuesAfter, Statement.nameIssues, htaken, Diagnostic.nameIssue?]

/-- A command with a name is tracked: it is complained about unless the name is declared. -/
theorem tracks_variableArgument (hknown : scope.symbols.Known) (command : Command)
    (name : String) (line : Nat) :
    Tracks scope.symbols
      [.perform command (StatementReading.variableArgument scope line name).1 line]
      (StatementReading.variableArgument scope line name).2 scope.symbols := by
  have hresolved := SymbolTable.resolvesTo_type? hknown name
  have hdeclared : scope.symbols.contains name = true ↔ Declared scope.symbols.declarations name :=
    SymbolTable.contains_iff_declared
  unfold StatementReading.variableArgument
  cases htype : scope.symbols.type? name with
  | some type =>
      have hcontains := hdeclared.1 (SymbolTable.contains_iff_type?.2 ⟨type, htype⟩)
      refine .single hknown rfl (by simpa [htype, Statement.Resolved] using hresolved) ?_
      simp [Statement.nameIssues, undeclaredUses, hcontains]
  | none =>
      have hmissing := mt hdeclared.2 (by simp [SymbolTable.contains_eq_false_iff.2 htype])
      refine .single hknown rfl (by simpa [htype, Statement.Resolved] using hresolved) ?_
      simp [Statement.nameIssues, undeclaredUses, hmissing, Diagnostic.nameIssue?]

/-- An assignment is tracked with its target and the names in its expression. -/
theorem tracks_assignment (hknown : scope.symbols.Known) (target : String) (line : Nat)
    (tokens : List Token) :
    Tracks scope.symbols
      (StatementReading.assignment scope target line tokens).statement?.toList
      (StatementReading.assignment scope target line tokens).reports scope.symbols := by
  refine .single hknown rfl (SymbolTable.resolvesTo_type? hknown target) ?_
  have hvalue := Reading.nameIssues_of_composed
    (Reading.composed_whole scope ((scope.symbols.type? target).getD .unknown) tokens)
  unfold StatementReading.assignment
  rw [List.filterMap_append, hvalue, Statement.nameIssues]
  by_cases hdeclared : Declared scope.symbols.declarations target
  · simp [SymbolTable.contains_iff_declared, hdeclared]
  · simp [SymbolTable.contains_iff_declared, hdeclared, Diagnostic.nameIssue?]

/-- A statement agrees with its reports on the names in it. -/
theorem tracks_of_composed (hknown : scope.symbols.Known) {r : StatementReading}
    (h : StatementComposed scope t rest r) :
    Tracks scope.symbols r.statement?.toList r.reports r.symbols := by
  cases h with
  | invalid => exact .silent hknown rfl
  | declared hword htype hname =>
      exact tracks_declare hknown (DataType.ofKeyword?_eq_some_iff.1 htype).2 t.line
  | nameless => exact .silent hknown rfl
  | named hword htext hname => exact tracks_variableArgument hknown _ _ t.line
  | printed hword htext hconstant => exact .single hknown rfl trivial rfl
  | inputLiteral hconstant => exact .silent hknown rfl
  | outOfRange => exact .silent hknown rfl
  | argumentless => exact .silent hknown rfl
  | assigned hword hkeyword hequals => exact tracks_assignment hknown t.text t.line _

end

/-- What stands behind a statement is no complaint about a name. -/
theorem nameIssues_trailing? (statement? : Option Statement) (rest : List Token) :
    (trailing? statement? rest).toList.filterMap Diagnostic.nameIssue? = [] := by
  unfold trailing?
  split
  · rfl
  · rfl

/-- A line agrees with its reports on the names in it. -/
theorem tracks_readLineFrom {symbols : SymbolTable} (hknown : symbols.Known) (line : Line) :
    Tracks symbols (readLineFrom symbols line).1.statement?.toList
      (readLineFrom symbols line).1.diagnostics (readLineFrom symbols line).2 := by
  rcases line with ⟨tokens, closing⟩
  cases tokens with
  | nil => exact .silent hknown rfl
  | cons t rest =>
      have hread := tracks_of_composed hknown (composed_readStatement ⟨symbols, closing⟩ t rest)
      have htrailing := nameIssues_trailing? (readStatement ⟨symbols, closing⟩ t rest).statement?
        (readStatement ⟨symbols, closing⟩ t rest).rest
      simpa [readLineFrom, LineReading.diagnostics] using
        hread.append (.silent hread.known htrailing)

/-- Lines agree with their reports on the names in them. -/
theorem tracks_readLines {symbols : SymbolTable} (hknown : symbols.Known) (lines : List Line) :
    Tracks symbols ((readLines symbols lines).1.filterMap LineReading.statement?)
      ((readLines symbols lines).1.flatMap LineReading.diagnostics)
      (readLines symbols lines).2 := by
  induction lines generalizing symbols with
  | nil => exact .silent hknown rfl
  | cons line lines ih =>
      have hline := tracks_readLineFrom hknown line
      have hlines := hline.append (ih hline.known)
      rw [readLines_cons, List.flatMap_cons]
      cases hstatement : (readLineFrom symbols line).1.statement? with
      | none => simpa [hstatement] using hlines
      | some s => simpa [hstatement] using hlines

/-! ## Programs -/

/-- At each of its statements a program is resolved against the declarations in front
of it. -/
theorem resolved_of_resolvedAfter {earlier : List Declaration} {front behind : Program}
    {s : Statement} (h : ResolvedAfter earlier (front ++ s :: behind)) :
    s.Resolved (earlier ++ declarationsOf front) :=
  (resolvedAfter_append.1 h).2.1

/-- Reading a list of tokens resolves the names in its statements: the declarations are
those of the program, each stored type is that of the first declaration in front of the
statement, and the complaints about names are those that a walk over the statements
finds. -/
theorem names_resolved (tokens : List Token) :
    (parse tokens).symbols.declarations = declarationsOf (parse tokens).program ∧
      (∀ front s behind, (parse tokens).program = front ++ s :: behind →
        s.Resolved (declarationsOf front)) ∧
      (parse tokens).diagnostics.filterMap Diagnostic.nameIssue? =
        nameIssuesAfter [] (parse tokens).program := by
  have hempty : SymbolTable.empty.Known := by simp [SymbolTable.Known, SymbolTable.empty]
  have htracks : Tracks SymbolTable.empty (parse tokens).program (parse tokens).diagnostics
      (parse tokens).symbols := tracks_readLines hempty _
  refine ⟨htracks.declarations_eq, ?_, htracks.issues_eq⟩
  intro front s behind hprogram
  have hafter : ResolvedAfter [] (front ++ s :: behind) := hprogram ▸ htracks.resolved
  exact resolved_of_resolvedAfter hafter

end Primer
