/-!
# Data types

A variable is declared with one of three types.  A fourth value stands for the
type of a name that was never declared.

Main definitions:

- `DataType.keyword` and `DataType.ofKeyword?` tie a type to the word that
  declares it.
- `DataType.render` is the form in which a type is listed.

Main results:

- Theorem `ofKeyword?_eq_some_iff`: a word declares a type exactly when it is
  the keyword of that type and the type is known.
-/

namespace Primer

/-- The type of a variable. -/
inductive DataType where
  | integer
  | boolean
  | string
  /-- The type of a name without declaration. -/
  | unknown
  deriving DecidableEq, Repr, Inhabited

namespace DataType

/-- The word that declares a variable of the type; empty for an unknown type. -/
def keyword : DataType → String
  | .integer => "INT"
  | .boolean => "BOOL"
  | .string => "STRING"
  | .unknown => ""

/-- The type that a word declares. -/
def ofKeyword? (word : String) : Option DataType :=
  if word = "INT" then some .integer
  else if word = "BOOL" then some .boolean
  else if word = "STRING" then some .string
  else none

/-- The listed form of a type. -/
def render : DataType → String
  | .unknown => "?"
  | type => type.keyword

/-- A word declares a type exactly when it is the keyword of a known type. -/
theorem ofKeyword?_eq_some_iff {word : String} {type : DataType} :
    ofKeyword? word = some type ↔ word = type.keyword ∧ type ≠ .unknown := by
  unfold ofKeyword?
  constructor
  · intro h
    split at h
    next hw =>
      cases h
      exact ⟨hw, by decide⟩
    split at h
    next hw =>
      cases h
      exact ⟨hw, by decide⟩
    split at h
    next hw =>
      cases h
      exact ⟨hw, by decide⟩
    next => cases h
  · rintro ⟨rfl, hknown⟩
    cases type
    · rfl
    · rfl
    · rfl
    · exact absurd rfl hknown

end DataType
end Primer
