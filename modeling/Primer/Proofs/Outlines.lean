import Primer.Log
import Primer.Proofs.Delimiting

/-!
# What an outline tells

An outline names every part of a statement, and each part tells where it ends: names and
quoted texts by themselves, a number by the mark behind it, and what has parts by the
bracket that closes it.  So two statements with the same outline are the same statement,
and the lines of the log about statements tell a program.

Main definitions:

- `Outline.behindItem` and `Outline.behindField` are what stands behind one part of an
  outline.
- `Expr.initial` and `Statement.initial` are the letters that outlines start with.

Main results:

- Theorem `Expr.outline_selfDelimiting`: the outline of an expression tells the expression,
  and where it ends.
- Theorem `Statement.outline_selfDelimiting`: so does the outline of a statement.
- Theorem `Token.render_inj`: a listed token tells the token.
- Theorems `Event.message_parsed_inj` and `Event.message_token_inj`: what the log says of a
  statement or a token tells which one it is.
-/

namespace Primer

open Outline

variable {back back' : List Char}

/-! ## Parts -/

namespace Outline

variable {name p q : String}

/-- What stands behind an item: the items that follow, and the bracket. -/
def behindItem (back : List Char) : List String → List Char
  | [] => ')' :: back
  | p :: ps => ',' :: ' ' :: (p.toList ++ behindItem back ps)

/-- What stands behind the value of a field: the fields that follow, and the brace. -/
def behindField (back : List Char) : List (String × String) → List Char
  | [] => ' ' :: '\x7d' :: back
  | (key, p) :: ps => ',' :: ' ' :: (key.toList ++ ':' :: ' ' :: (p.toList ++ behindField back ps))

/-- A part with items: its name, the first of them, and what stands behind it. -/
theorem toList_items_append (name p : String) (ps : List String) (back : List Char) :
    (items name (p :: ps)).toList ++ back =
      name.toList ++ '(' :: (p.toList ++ behindItem back ps) := by
  induction ps generalizing name p with
  | nil => simp [items, behindItem]
  | cons q ps ih =>
      have hrest := ih "" q
      simp only [items, String.toList_append, List.append_assoc] at hrest
      simpa [items, behindItem] using hrest

/-- A part with fields: its name, the first of them, and what stands behind it. -/
theorem toList_fields_append (name key p : String) (ps : List (String × String))
    (back : List Char) :
    (fields name ((key, p) :: ps)).toList ++ back =
      name.toList ++ ' ' :: '\x7b' :: ' ' ::
        (key.toList ++ ':' :: ' ' :: (p.toList ++ behindField back ps)) := by
  induction ps generalizing name key p with
  | nil => simp [fields, behindField]
  | cons field ps ih =>
      have hrest := ih "" field.1 field.2
      simpa [fields, behindField] using hrest

/-- Parts of one name with the same text have the same text from the first item on. -/
theorem items_inj {ps qs : List String}
    (h : (items name (p :: ps)).toList ++ back = (items name (q :: qs)).toList ++ back') :
    p.toList ++ behindItem back ps = q.toList ++ behindItem back' qs := by
  rw [toList_items_append, toList_items_append] at h
  exact (List.cons.inj (List.append_cancel_left h)).2

/-- The same text behind an item is the same text from the next item on. -/
theorem behindItem_inj {ps qs : List String}
    (h : behindItem back (p :: ps) = behindItem back' (q :: qs)) :
    p.toList ++ behindItem back ps = q.toList ++ behindItem back' qs :=
  (List.cons.inj (List.cons.inj h).2).2

/-- Parts of one name and with the same first field have the same text from its value on. -/
theorem fields_inj {key : String} {ps qs : List (String × String)}
    (h : (fields name ((key, p) :: ps)).toList ++ back =
      (fields name ((key, q) :: qs)).toList ++ back') :
    p.toList ++ behindField back ps = q.toList ++ behindField back' qs := by
  rw [toList_fields_append, toList_fields_append] at h
  have hkey := List.append_cancel_left h
  simp only [List.cons.injEq, true_and] at hkey
  exact (List.cons.inj (List.cons.inj (List.append_cancel_left hkey)).2).2

/-- The same text behind a field is the same text from the value of the next one on, if both
have one key. -/
theorem behindField_inj {key : String} {ps qs : List (String × String)}
    (h : behindField back ((key, p) :: ps) = behindField back' ((key, q) :: qs)) :
    p.toList ++ behindField back ps = q.toList ++ behindField back' qs := by
  have hkey := List.append_cancel_left (List.cons.inj (List.cons.inj h).2).2
  exact (List.cons.inj (List.cons.inj hkey).2).2

/-- The line of a statement stands in its last field, and the brace behind it ends the
outline. -/
theorem line_inj {line line' : Nat}
    (h : (Numeral.ofNat line).toList ++ behindField back [] =
      (Numeral.ofNat line').toList ++ behindField back' []) : line = line' ∧ back = back' := by
  obtain ⟨rfl, hback⟩ := Numeral.ofNat_append_inj (by decide) h
  exact ⟨rfl, (List.cons.inj hback).2⟩

end Outline

/-! ## Names -/

/-- The name of a type does not start the name of another one. -/
theorem DataType.outline_selfDelimiting : SelfDelimiting DataType.outline :=
  .of_apart fun a b => by cases a <;> cases b <;> decide

/-- The name of an operator does not start the name of another one. -/
theorem BinaryOp.outline_selfDelimiting : SelfDelimiting BinaryOp.outline :=
  .of_apart fun a b => by cases a <;> cases b <;> decide

/-- The name of a comparison does not start the name of another one. -/
theorem Comparison.outline_selfDelimiting : SelfDelimiting Comparison.outline :=
  .of_apart fun a b => by cases a <;> cases b <;> decide

/-! ## Expressions -/

/-- The outline of a literal tells the literal, and where it ends. -/
theorem Literal.outline_selfDelimiting : SelfDelimiting Literal.outline := by
  intro l l' back back' h
  cases l with
  | int n =>
      cases l' with
      | int m =>
          obtain ⟨hvalue, hback⟩ := Numeral.ofInt_append_inj (by decide) (items_inj (items_inj h))
          exact ⟨by rw [Int32.toInt_inj.1 hvalue], (List.cons.inj hback).2⟩
      | text s => simp [outline, items] at h
  | text s =>
      cases l' with
      | int m => simp [outline, items] at h
      | text s' =>
          obtain ⟨rfl, hback⟩ := Quoted.render_selfDelimiting (items_inj (items_inj h))
          exact ⟨rfl, (List.cons.inj (List.cons.inj hback).2).2⟩

/-- The letter that the outline of an expression starts with. -/
def Expr.initial : Expr → Char
  | .literal _ => 'L'
  | .named _ => 'V'
  | .negate _ => 'U'
  | .binary _ _ _ => 'B'
  | .compare _ _ _ => 'C'
  | .missing => 'M'

/-- An outline starts with its letter. -/
theorem Expr.exists_outline_eq (e : Expr) : ∃ rest, e.outline.toList = e.initial :: rest := by
  cases e with
  | literal l => cases l <;> exact ⟨_, by simp [outline, Literal.outline, items, initial]; rfl⟩
  | _ => exact ⟨_, by simp [outline, items, initial]; rfl⟩

/-- The letter in front tells how an expression is made. -/
theorem Expr.initial_eq {e e' : Expr} (h : e.outline.toList ++ back = e'.outline.toList ++ back') :
    e.initial = e'.initial := by
  obtain ⟨rest, hrest⟩ := e.exists_outline_eq
  obtain ⟨rest', hrest'⟩ := e'.exists_outline_eq
  rw [hrest, hrest'] at h
  exact (List.cons.inj h).1

/-- The outline of an expression tells the expression, and where it ends. -/
theorem Expr.outline_selfDelimiting : SelfDelimiting Expr.outline := by
  intro e
  induction e with
  | literal l =>
      intro e' back back' h
      have hinitial := initial_eq h
      cases e' with
      | literal l' =>
          obtain ⟨rfl, hback⟩ := Literal.outline_selfDelimiting h
          exact ⟨rfl, hback⟩
      | _ => simp [initial] at hinitial
  | named name =>
      intro e' back back' h
      have hinitial := initial_eq h
      cases e' with
      | named name' =>
          obtain ⟨rfl, hback⟩ := Quoted.render_selfDelimiting (items_inj h)
          exact ⟨rfl, (List.cons.inj hback).2⟩
      | _ => simp [initial] at hinitial
  | negate operand ih =>
      intro e' back back' h
      have hinitial := initial_eq h
      cases e' with
      | negate operand' =>
          have hoperand := List.append_cancel_left (items_inj h)
          obtain ⟨rfl, hback⟩ := ih (behindItem_inj hoperand)
          exact ⟨rfl, (List.cons.inj hback).2⟩
      | _ => simp [initial] at hinitial
  | binary op left right ihl ihr =>
      intro e' back back' h
      have hinitial := initial_eq h
      cases e' with
      | binary op' left' right' =>
          obtain ⟨rfl, hleft⟩ := BinaryOp.outline_selfDelimiting (items_inj h)
          obtain ⟨rfl, hright⟩ := ihl (behindItem_inj hleft)
          obtain ⟨rfl, hback⟩ := ihr (behindItem_inj hright)
          exact ⟨rfl, (List.cons.inj hback).2⟩
      | _ => simp [initial] at hinitial
  | compare comparison left right ihl ihr =>
      intro e' back back' h
      have hinitial := initial_eq h
      cases e' with
      | compare comparison' left' right' =>
          obtain ⟨rfl, hleft⟩ := Comparison.outline_selfDelimiting (items_inj h)
          obtain ⟨rfl, hright⟩ := ihl (behindItem_inj hleft)
          obtain ⟨rfl, hback⟩ := ihr (behindItem_inj hright)
          exact ⟨rfl, (List.cons.inj hback).2⟩
      | _ => simp [initial] at hinitial
  | missing =>
      intro e' back back' h
      have hinitial := initial_eq h
      cases e' with
      | missing => exact ⟨rfl, List.append_cancel_left h⟩
      | _ => simp [initial] at hinitial

/-! ## Statements -/

/-- The outline of an argument tells the argument, and where it ends. -/
theorem Argument.outline_selfDelimiting : SelfDelimiting Argument.outline := by
  intro a a' back back' h
  cases a with
  | named name type =>
      cases a' with
      | named name' type' =>
          obtain ⟨rfl, htype⟩ := Quoted.render_selfDelimiting (fields_inj h)
          obtain ⟨rfl, hback⟩ := DataType.outline_selfDelimiting (behindField_inj htype)
          exact ⟨rfl, (List.cons.inj (List.cons.inj hback).2).2⟩
      | literal l' => cases l' <;> simp [outline, Literal.outline, fields, items] at h
  | literal l =>
      cases a' with
      | named name' type' => cases l <;> simp [outline, Literal.outline, fields, items] at h
      | literal l' =>
          obtain ⟨rfl, hback⟩ := Literal.outline_selfDelimiting h
          exact ⟨rfl, hback⟩

/-- The letter that the outline of a statement starts with. -/
def Statement.initial : Statement → Char
  | .declare _ _ _ => 'D'
  | .assign _ _ _ _ => 'A'
  | .perform .print _ _ => 'P'
  | .perform .input _ _ => 'I'

/-- An outline starts with its letter. -/
theorem Statement.exists_outline_eq (s : Statement) :
    ∃ rest, s.outline.toList = s.initial :: rest := by
  cases s with
  | perform command argument line =>
      cases command <;> exact ⟨_, by simp [outline, Command.outline, fields, initial]; rfl⟩
  | _ => exact ⟨_, by simp [outline, fields, initial]; rfl⟩

/-- The letter in front tells the form of a statement. -/
theorem Statement.initial_eq {s s' : Statement}
    (h : s.outline.toList ++ back = s'.outline.toList ++ back') : s.initial = s'.initial := by
  obtain ⟨rest, hrest⟩ := s.exists_outline_eq
  obtain ⟨rest', hrest'⟩ := s'.exists_outline_eq
  rw [hrest, hrest'] at h
  exact (List.cons.inj h).1

/-- The outline of a statement tells the statement, and where it ends. -/
theorem Statement.outline_selfDelimiting : SelfDelimiting Statement.outline := by
  intro s s' back back' h
  have hinitial := initial_eq h
  cases s with
  | declare name type line =>
      cases s' with
      | declare name' type' line' =>
          obtain ⟨rfl, htype⟩ := Quoted.render_selfDelimiting (fields_inj h)
          obtain ⟨rfl, hline⟩ := DataType.outline_selfDelimiting (behindField_inj htype)
          obtain ⟨rfl, hback⟩ := line_inj (behindField_inj hline)
          exact ⟨rfl, hback⟩
      | perform command' argument' line' => cases command' <;> simp [initial] at hinitial
      | _ => simp [initial] at hinitial
  | assign target type value line =>
      cases s' with
      | assign target' type' value' line' =>
          obtain ⟨rfl, htype⟩ := Quoted.render_selfDelimiting (fields_inj h)
          obtain ⟨rfl, hvalue⟩ := DataType.outline_selfDelimiting (behindField_inj htype)
          obtain ⟨rfl, hline⟩ := Expr.outline_selfDelimiting (behindField_inj hvalue)
          obtain ⟨rfl, hback⟩ := line_inj (behindField_inj hline)
          exact ⟨rfl, hback⟩
      | perform command' argument' line' => cases command' <;> simp [initial] at hinitial
      | _ => simp [initial] at hinitial
  | perform command argument line =>
      cases s' with
      | perform command' argument' line' =>
          obtain rfl : command = command' := by
            cases command <;> cases command' <;> simp [initial] at hinitial <;> rfl
          obtain ⟨rfl, hline⟩ := Argument.outline_selfDelimiting (fields_inj h)
          obtain ⟨rfl, hback⟩ := line_inj (behindField_inj hline)
          exact ⟨rfl, hback⟩
      | _ => cases command <;> simp [initial] at hinitial

/-! ## Tokens -/

/-- The short name of a kind does not start the short name of another one. -/
theorem TokenKind.tag_selfDelimiting : SelfDelimiting TokenKind.tag :=
  .of_apart fun a b => by cases a <;> cases b <;> decide

/-- A listed token, split at the blank in front of its line. -/
theorem Token.toList_render (t : Token) :
    t.render.toList = t.kind.tag.toList ++ '(' :: ((t.text.toList ++ [',']) ++
      ' ' :: ((Numeral.ofNat t.line).toList ++ [')'])) := by
  simp [render]

/-- There is no blank in the line of a listed token. -/
theorem Token.blank_not_mem_line (n : Nat) : ' ' ∉ (Numeral.ofNat n).toList ++ [')'] := by
  intro hblank
  rcases List.mem_append.1 hblank with hblank | hblank
  · rw [Numeral.ofNat, String.toList_ofList] at hblank
    exact absurd (Numeral.isDigit_of_mem_digits hblank) (by decide)
  · exact absurd hblank (by decide)

/-- A listed token tells the token: its text may hold blanks, but its line does not. -/
theorem Token.render_inj {t t' : Token} (h : t.render = t'.render) : t = t' := by
  obtain ⟨kind, text, line⟩ := t
  obtain ⟨kind', text', line'⟩ := t'
  have hlisted := congrArg String.toList h
  rw [toList_render, toList_render] at hlisted
  obtain ⟨rfl, hrest⟩ := TokenKind.tag_selfDelimiting hlisted
  obtain ⟨htext, hline⟩ :=
    split_last (blank_not_mem_line line) (blank_not_mem_line line') (List.cons.inj hrest).2
  obtain rfl := String.toList_inj.1 (List.append_cancel_right htext)
  obtain ⟨rfl, -⟩ := Numeral.ofNat_append_inj (by decide) hline
  rfl

/-! ## Lines of the log -/

/-- What the log says of a statement tells the statement. -/
theorem Event.message_parsed_inj {s s' : Statement}
    (h : (Event.parsed s).message = (Event.parsed s').message) : s = s' := by
  have htext : (Numeral.ofNat s.line).toList ++ ':' :: ' ' :: s.outline.toList =
      (Numeral.ofNat s'.line).toList ++ ':' :: ' ' :: s'.outline.toList := by
    simpa [message, atLine] using congrArg String.toList h
  obtain ⟨-, houtline⟩ := Numeral.ofNat_append_inj (by decide) htext
  exact Statement.outline_selfDelimiting.inj (String.toList_inj.1 (List.cons.inj houtline).2)

/-- What the log says of a token tells the token. -/
theorem Event.message_token_inj {t t' : Token}
    (h : (Event.token t).message = (Event.token t').message) : t = t' :=
  Token.render_inj ((String.append_right_inj _).1 h)

end Primer
