import Primer.Proofs.Comparisons
import Primer.Proofs.Concatenation
import Primer.Proofs.NameResolution
import Primer.Proofs.Segmentation

/-!
# Writing a program

A program as a source text.  Each statement stands on a line of its own, and an operand
is put between brackets only if it would be read differently without them.  Around
operators there may be any blanks, or none at all.

Main definitions:

- `Expr.written`, `Statement.written` and `written` are the text of an expression, a
  statement and a program.
- `Expr.writtenGrowth` is the number of operators and opening brackets in the text of an
  expression.
- `Statement.Writable` says that a statement can be written behind given declarations,
  and `Writable` that a program can be written.
-/

namespace Primer

/-! ## The text of a program -/

/-- The text of a constant. -/
def Literal.written : Literal → String
  | .int n => Numeral.ofNat n.toInt.toNat
  | .text s => "\"" ++ s ++ "\""

/-- How strongly an operator holds its operands together.  What is not joined by an
operator has strength 2. -/
def BinaryOp.strength : BinaryOp → Nat
  | .add => 0
  | .sub => 0
  | .mul => 1
  | .div => 1

/-- The text, between brackets if they are needed. -/
def bracketedIf (needed : Bool) (text : String) : String :=
  if needed then "(" ++ text ++ ")" else text

/-- The text of an expression where an operand of the given strength is expected, with
the given blanks around its operators.  Operators of equal strength group to the left, so
that the operand on the right has to be stronger than its operator. -/
def Expr.written (gap : String) (strength : Nat) : Expr → String
  | .literal l => l.written
  | .named name => name
  | .negate operand => "-" ++ operand.written gap 2
  | .binary op left right =>
      bracketedIf (op.strength < strength)
        (left.written gap op.strength ++ gap ++ op.symbol ++ gap ++
          right.written gap (op.strength + 1))
  | .compare comparison left right =>
      left.written gap 0 ++ gap ++ comparison.symbol ++ gap ++ right.written gap 0
  | .missing => ""

/-- The text of a statement. -/
def Statement.written (gap : String) : Statement → String
  | .declare name type _ => type.keyword ++ " " ++ name
  | .assign target _ value _ => target ++ gap ++ "=" ++ gap ++ value.written gap 0
  | .perform command (.named name _) _ => command.keyword ++ " " ++ name
  | .perform command (.literal l) _ => command.keyword ++ " " ++ l.written

/-- The text of a program. -/
def written (gap : String) (program : Program) : String :=
  String.join (program.map fun s => s.written gap ++ "\n")

/-- The number of operators and opening brackets in the text of an expression. -/
def Expr.writtenGrowth (strength : Nat) : Expr → Nat
  | .literal _ => 0
  | .named _ => 0
  | .negate operand => operand.writtenGrowth 2 + 1
  | .binary op left right =>
      left.writtenGrowth op.strength + right.writtenGrowth (op.strength + 1) + 1 +
        if op.strength < strength then 1 else 0
  | .compare _ left right => left.writtenGrowth 0 + right.writtenGrowth 0 + 1
  | .missing => 0

/-- The number of operators and opening brackets in the text of a statement. -/
def Statement.writtenGrowth : Statement → Nat
  | .assign _ _ value _ => value.writtenGrowth 0
  | .declare _ _ _ => 0
  | .perform _ _ _ => 0

/-! ## What can be written -/

/-- The character is a capital letter, and one of the first 128 characters. -/
def IsCapital (c : Char) : Prop :=
  'A' ≤ c ∧ c ≤ 'Z'

instance (c : Char) : Decidable (IsCapital c) :=
  inferInstanceAs (Decidable (_ ∧ _))

/-- The word is a capital letter with capital letters, digits and underscores behind it. -/
def IsName (name : String) : Prop :=
  (∃ c ∈ name.toList.head?, IsCapital c) ∧
    ∀ c ∈ name.toList, IsCapital c ∨ IsDecimal c ∨ c = '_'

instance (name : String) : Decidable (IsName name) :=
  @instDecidableAnd _ _ (Option.decidableExistsMem _) (List.decidableBAll _ _)

instance (word : String) : Decidable (IsKeyword word) :=
  inferInstanceAs (Decidable (_ ∨ _ ∨ _ ∨ _ ∨ _))

/-- There is a text for the constant.  A negative number has none, and neither has a text
that a quotation mark or the end of the line would cut short. -/
def Literal.Writable : Literal → Prop
  | .int n => 0 ≤ n.toInt
  | .text s => ∀ c ∈ s.toList, c ≠ '"' ∧ c ≠ '\n'

instance Literal.decidableWritable : (l : Literal) → Decidable l.Writable
  | .int n => inferInstanceAs (Decidable (0 ≤ n.toInt))
  | .text s => List.decidableBAll (fun c => c ≠ '"' ∧ c ≠ '\n') s.toList

/-- All constants in the expression can be written, and no operand is missing. -/
def Expr.Writable : Expr → Prop
  | .literal l => l.Writable
  | .named _ => True
  | .negate operand => operand.Writable
  | .binary _ left right => left.Writable ∧ right.Writable
  | .compare _ left right => left.Writable ∧ right.Writable
  | .missing => False

instance Expr.decidableWritable : (e : Expr) → Decidable e.Writable
  | .literal l => l.decidableWritable
  | .named _ => .isTrue trivial
  | .negate operand => operand.decidableWritable
  | .binary _ left right =>
      @instDecidableAnd _ _ left.decidableWritable right.decidableWritable
  | .compare _ left right =>
      @instDecidableAnd _ _ left.decidableWritable right.decidableWritable
  | .missing => .isFalse not_false

/-- The expression holds only what the type of its target admits. -/
def DataType.Admits : DataType → Expr → Prop
  | .integer, e => e.compares = false
  | .boolean, e => e.IsCondition
  | .string, e => Concatenates e
  | .unknown, _ => False

/-- Behind the given declarations, the statement can be written.  A declaration of an
unknown type cannot, as there is no word for it. -/
def Statement.Writable (earlier : List Declaration) : Statement → Prop
  | .declare name type _ => IsName name ∧ ¬ IsKeyword name ∧ type ≠ .unknown
  | .assign target type value _ =>
      ⟨target, type⟩ ∈ earlier ∧ (∀ name ∈ value.names, Declared earlier name) ∧
        value.Writable ∧ type.Admits value
  | .perform _ (.named name type) _ => ⟨name, type⟩ ∈ earlier
  | .perform command (.literal l) _ => command = .print ∧ l.Writable

/-- The program can be written: its statements stand on the lines from the first one on,
no name is declared twice, and each statement can be written behind the declarations in
front of it. -/
structure Writable (program : Program) : Prop where
  lines_eq : program.map Statement.line = List.range' 1 program.length
  names_nodup : ((declarationsOf program).map Declaration.name).Nodup
  statements : ∀ i (h : i < program.length),
    program[i].Writable (declarationsOf (program.take i))

namespace Writable

/-- Each statement can be written behind the declarations in front of it. -/
theorem statement {front back : Program} {s : Statement} (h : Writable (front ++ s :: back)) :
    s.Writable (declarationsOf front) := by
  have hs := h.statements front.length (by simp)
  simpa using hs

/-- All that a program declares are names, and none is a keyword. -/
theorem of_mem_declarations {program : Program} (h : Writable program) {d : Declaration}
    (hd : d ∈ declarationsOf program) : IsName d.name ∧ ¬ IsKeyword d.name := by
  obtain ⟨s, hs, hdeclares⟩ := List.mem_filterMap.1 hd
  obtain ⟨front, back, rfl⟩ := List.append_of_mem hs
  have hwritable := h.statement
  cases s with
  | declare name type line =>
      cases hdeclares
      exact ⟨hwritable.1, hwritable.2.1⟩
  | assign target type value line => cases hdeclares
  | perform command argument line => cases hdeclares

/-- The names declared in front of a statement are distinct. -/
theorem nodup_front {front back : Program} (h : Writable (front ++ back)) :
    ((declarationsOf front).map Declaration.name).Nodup := by
  have hnodup := h.names_nodup
  rw [declarationsOf_append, List.map_append] at hnodup
  exact (List.nodup_append.1 hnodup).1

/-- A name is not declared in front of its declaration. -/
theorem not_declared {front back : Program} {s : Statement} (h : Writable (front ++ s :: back))
    {d : Declaration} (hd : s.declaration? = some d) :
    ¬ Declared (declarationsOf front) d.name := by
  have hnodup := h.names_nodup
  rw [declarationsOf_append, declarationsOf_cons, hd, List.map_append] at hnodup
  rintro ⟨other, hother, hname⟩
  refine (List.nodup_append.1 hnodup).2.2 other.name (List.mem_map_of_mem hother) d.name ?_ hname
  simp

end Writable
end Primer
