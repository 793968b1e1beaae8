import Primer.Diagnostic

/-!
# Symbol tables

The declarations of a program, in the order in which they were met.  A name that
is declared twice is listed twice; its first declaration counts.

Main definitions:

- `SymbolTable.declare` appends a declaration.
- `SymbolTable.find?`, `SymbolTable.type?` and `SymbolTable.contains` look a name
  up.
- `SymbolTable.isFresh` tells whether a name may be declared.

Main results:

- Theorem `find?_declare`: a declaration is found exactly where none was before.
- Theorem `type?_declare`: so is its type.
-/

namespace Primer

/-- A name and the type it is declared with. -/
structure Declaration where
  name : String
  type : DataType
  deriving DecidableEq, Repr, Inhabited

/-- The listed form of a declaration. -/
def Declaration.render (d : Declaration) : String :=
  d.name ++ ": " ++ d.type.render

/-- The declarations met so far, first one first. -/
structure SymbolTable where
  declarations : List Declaration
  deriving DecidableEq, Repr, Inhabited

namespace SymbolTable

/-- The table without declarations. -/
def empty : SymbolTable :=
  ⟨[]⟩

/-- Append a declaration, whether or not the name is declared already. -/
def declare (table : SymbolTable) (name : String) (type : DataType) : SymbolTable :=
  ⟨table.declarations ++ [⟨name, type⟩]⟩

/-- The first declaration of a name. -/
def find? (table : SymbolTable) (name : String) : Option Declaration :=
  table.declarations.find? fun d => d.name == name

/-- The type of a name. -/
def type? (table : SymbolTable) (name : String) : Option DataType :=
  (table.find? name).map Declaration.type

/-- The type of a name, or the error of not knowing it. -/
def typeOf (table : SymbolTable) (name : String) : Except SemanticError DataType :=
  match table.type? name with
  | some type => .ok type
  | none => .error (.unknownVariable name)

/-- The name is declared. -/
def contains (table : SymbolTable) (name : String) : Bool :=
  (table.find? name).isSome

/-- The name may be declared: it is no reserved word and not declared yet. -/
def isFresh (table : SymbolTable) (name : String) : Bool :=
  !reservedWords.contains name && !table.contains name

/-- The number of declarations. -/
def size (table : SymbolTable) : Nat :=
  table.declarations.length

/-- The table has no declaration. -/
def isEmpty (table : SymbolTable) : Bool :=
  table.declarations.isEmpty

/-- A declaration is found exactly where none was before. -/
theorem find?_declare (table : SymbolTable) (name : String) (type : DataType) (x : String) :
    (table.declare name type).find? x =
      (table.find? x).or (if name = x then some ⟨name, type⟩ else none) := by
  by_cases h : name = x <;> simp [find?, declare, List.find?_append, h]

/-- A name declared before keeps its type; the new one gets its own. -/
theorem type?_declare (table : SymbolTable) (name : String) (type : DataType) (x : String) :
    (table.declare name type).type? x =
      (table.type? x).or (if name = x then some type else none) := by
  unfold type?
  rw [find?_declare]
  cases table.find? x with
  | none => by_cases h : name = x <;> simp [h]
  | some d => simp

/-- A name is contained exactly if it has a type. -/
theorem contains_iff_type? {table : SymbolTable} {name : String} :
    table.contains name = true ↔ ∃ type, table.type? name = some type := by
  unfold contains type?
  cases table.find? name <;> simp

/-- A fresh name is neither reserved nor declared. -/
theorem isFresh_iff {table : SymbolTable} {name : String} :
    table.isFresh name = true ↔ name ∉ reservedWords ∧ table.contains name = false := by
  simp [isFresh]

end SymbolTable
end Primer
