import Primer.Proofs.Delimiting
import Primer.Proofs.Pruning
import Primer.Proofs.Segmentation

/-!
# The lines of a printed tree

A printed tree has one line for each node, in preorder.  How far in a line starts tells the
depth of its node and the mark behind that tells the side, so the lines tell the tree if
each of them tells a label.  Not every label can be told: its parts may themselves hold
the blanks and brackets that are put between them.

Main definitions:

- `SyntaxTree.printed` prints a tree by plain recursion.
- `SyntaxTree.entries` lists what stands on the lines below the root.
- `Label.Legible` describes the labels that can be told from their printed form.

Main results:

- Theorem `dump_eq_printed`: printing is the plain recursion.
- Theorem `Label.Legible.render_inj`: legible labels that are printed the same are the same.
- Theorem `entries_inj`: the entries below a node tell its subtrees.
- Theorem `SyntaxTree.Legible.dump_inj`: so do trees with such labels.
-/

namespace Primer

/-! ## Plain recursion -/

/-- A label as it is printed: its value, and behind that its attributes between brackets
unless all of them are empty. -/
def Label.printed (l : Label) : String :=
  if l.attributes = Attributes.none then l.value
  else
    l.value ++ " [" ++
      ", ".intercalate [l.attributes.first, l.attributes.second, l.attributes.third] ++ "]"

/-- The mark of a child on the given side. -/
def Side.mark : Side → String
  | .left => "L: "
  | .right => "R: "

/-- Print a node, then its left subtree, then its right subtree; a subtree is set in by two
blanks more than the node. -/
def SyntaxTree.printed (margin mark : String) : SyntaxTree → String
  | .absent => ""
  | .node label left right =>
      margin ++ mark ++ label.printed ++ "\n" ++ left.printed (margin ++ "  ") "L: " ++
        right.printed (margin ++ "  ") "R: "

/-- Attributes are blank if all of them are empty. -/
theorem Attributes.isBlank_iff {a : Attributes} : a.isBlank = true ↔ a = Attributes.none := by
  cases a
  simp [Attributes.isBlank, Attributes.none, and_assoc]

/-- A label is printed as its value and its attributes. -/
theorem Label.render_eq_printed (l : Label) : l.render = l.printed := by
  unfold Label.render Label.printed
  simp only [Attributes.isBlank_iff]
  split
  · rfl
  · simp [String.append_assoc]

/-- One level more sets a line in by two blanks. -/
theorem indentation_succ (depth : Nat) :
    SyntaxTree.indentation (depth + 1) = SyntaxTree.indentation depth ++ "  " := by
  have hblanks : List.replicate (2 * (depth + 1)) ' ' =
      List.replicate (2 * depth) ' ' ++ [' ', ' '] :=
    (List.replicate_append_replicate (n := 2 * depth) (m := 2)).symm
  rw [SyntaxTree.indentation, SyntaxTree.indentation, hblanks, String.ofList_append]

/-- Below any node, at its depth, printing is the plain recursion. -/
theorem dumpOnto_eq_printed (depth : Nat) (mark : String) (t : SyntaxTree) :
    t.dumpOnto "" depth mark = t.printed (SyntaxTree.indentation depth) mark := by
  induction t generalizing depth mark with
  | absent => rfl
  | node label left right ihl ihr =>
      rw [SyntaxTree.dump_node, SyntaxTree.printed, ihl, ihr, indentation_succ,
        Label.render_eq_printed]

/-- Printing is the plain recursion. -/
theorem dump_eq_printed (t : SyntaxTree) : t.dump = t.printed "" "" :=
  dumpOnto_eq_printed 0 "" t

/-! ## Labels that can be told -/

/-- The text has no line feed in it. -/
def OneLine (s : String) : Prop :=
  '\n' ∉ s.toList

/-- The text has neither a blank nor a line feed in it. -/
def OneWord (s : String) : Prop :=
  ' ' ∉ s.toList ∧ '\n' ∉ s.toList

instance (s : String) : Decidable (OneLine s) :=
  inferInstanceAs (Decidable (¬ _))

instance (s : String) : Decidable (OneWord s) :=
  inferInstanceAs (Decidable (_ ∧ _))

/-- The label has attributes, and no blank belongs to the last two of them. -/
structure Label.Attributed (l : Label) : Prop where
  used : l.attributes ≠ Attributes.none
  second : OneWord l.attributes.second
  third : OneWord l.attributes.third

/-- The label can be told from its printed form.  The last attribute tells which of the
value and the first attribute may hold blanks. -/
inductive Label.Legible : Label → Prop where
  | bare {value : String} (hvalue : OneWord value) : Legible (.plain value)
  | tagged {l : Label} (h : l.Attributed) (hvalue : OneLine l.value)
      (hfirst : OneWord l.attributes.first) (hthird : l.attributes.third = "") : Legible l
  | argued {l : Label} (h : l.Attributed) (hvalue : OneWord l.value)
      (hfirst : OneLine l.attributes.first) (hthird : l.attributes.third ≠ "") : Legible l

namespace Label

theorem render_plain (value : String) : (plain value).render = value :=
  rfl

/-- The printed form of a label with attributes, split at the blanks in front of them. -/
theorem Attributed.toList_render {l : Label} (h : l.Attributed) :
    l.render.toList =
      l.value.toList ++ ' ' :: ('[' :: l.attributes.first.toList ++ [',']) ++
        ' ' :: (l.attributes.second.toList ++ [',']) ++
        ' ' :: (l.attributes.third.toList ++ [']']) := by
  have hblank : l.attributes.isBlank = false := by
    rw [← Bool.not_eq_true, Attributes.isBlank_iff]
    exact h.used
  simp [render, hblank]

/-- A label with attributes is never printed as one without them. -/
theorem Attributed.render_ne_plain {l : Label} (h : l.Attributed) {value : String}
    (hvalue : OneWord value) : l.render ≠ (plain value).render := by
  intro heq
  refine hvalue.1 ?_
  rw [← render_plain value, ← heq, h.toList_render]
  simp

/-- The last two attributes can be told, and what is printed in front of them. -/
theorem Attributed.parts_of_render_eq {l m : Label} (hl : l.Attributed) (hm : m.Attributed)
    (h : l.render = m.render) :
    l.value.toList ++ ' ' :: ('[' :: l.attributes.first.toList ++ [',']) =
        m.value.toList ++ ' ' :: ('[' :: m.attributes.first.toList ++ [',']) ∧
      l.attributes.second = m.attributes.second ∧ l.attributes.third = m.attributes.third := by
  have htext := congrArg String.toList h
  rw [hl.toList_render, hm.toList_render] at htext
  have hword {s : String} (hs : OneWord s) {c : Char} (hc : ' ' ≠ c) : ' ' ∉ s.toList ++ [c] := by
    simpa [hc] using hs.1
  obtain ⟨hfront, hthird⟩ :=
    split_last (hword hl.third (by decide)) (hword hm.third (by decide)) htext
  obtain ⟨hfront, hsecond⟩ :=
    split_last (hword hl.second (by decide)) (hword hm.second (by decide)) hfront
  exact ⟨hfront, String.toList_inj.1 (List.append_cancel_right hsecond),
    String.toList_inj.1 (List.append_cancel_right hthird)⟩

/-- Labels agree if the four parts that are told apart agree. -/
theorem ext_parts {l m : Label} (hvalue : l.value.toList = m.value.toList)
    (hfirst : '[' :: l.attributes.first.toList ++ [','] =
      '[' :: m.attributes.first.toList ++ [','])
    (hsecond : l.attributes.second = m.attributes.second)
    (hthird : l.attributes.third = m.attributes.third) : l = m := by
  rcases l with ⟨value, first, second, third⟩
  rcases m with ⟨value', first', second', third'⟩
  simp only [String.toList_inj, List.cons_append, List.cons.injEq, true_and,
    List.append_cancel_right_eq] at hvalue hfirst hsecond hthird
  rw [hvalue, hfirst, hsecond, hthird]

/-- Legible labels that are printed the same are the same. -/
theorem Legible.render_inj {l m : Label} (hl : l.Legible) (hm : m.Legible)
    (h : l.render = m.render) : l = m := by
  have hbracketed {s : String} (hs : OneWord s) : ' ' ∉ '[' :: s.toList ++ [','] := by
    simpa using hs.1
  cases hl with
  | bare hvalue =>
      cases hm with
      | bare hvalue' => exact congrArg plain h
      | tagged hm => exact absurd h.symm (hm.render_ne_plain hvalue)
      | argued hm => exact absurd h.symm (hm.render_ne_plain hvalue)
  | tagged hl hvalue hfirst hthird =>
      cases hm with
      | bare hvalue' => exact absurd h (hl.render_ne_plain hvalue')
      | tagged hm hvalue' hfirst' hthird' =>
          obtain ⟨hfront, hsecond, hlast⟩ := hl.parts_of_render_eq hm h
          obtain ⟨hleft, hright⟩ := split_last (hbracketed hfirst) (hbracketed hfirst') hfront
          exact ext_parts hleft hright hsecond hlast
      | argued hm hvalue' hfirst' hthird' =>
          exact absurd ((hl.parts_of_render_eq hm h).2.2 ▸ hthird) hthird'
  | argued hl hvalue hfirst hthird =>
      cases hm with
      | bare hvalue' => exact absurd h (hl.render_ne_plain hvalue')
      | tagged hm hvalue' hfirst' hthird' =>
          exact absurd ((hl.parts_of_render_eq hm h).2.2.trans hthird') hthird
      | argued hm hvalue' hfirst' hthird' =>
          obtain ⟨hfront, hsecond, hlast⟩ := hl.parts_of_render_eq hm h
          obtain ⟨hleft, hright⟩ := split_first hvalue.1 hvalue'.1 hfront
          exact ext_parts hleft hright hsecond hlast

/-- Labels that are not legible may be printed the same: here a blank in a value that has no
attributes is taken for the end of one that has. -/
example : (plain "A [B, , ]").render = render ⟨"A", "B", "", ""⟩ := by decide

/-- A legible label is printed on one line. -/
theorem Legible.oneLine_render {l : Label} (h : l.Legible) : OneLine l.render := by
  cases h with
  | bare hvalue => exact hvalue.2
  | tagged h hvalue hfirst hthird =>
      rw [OneLine, h.toList_render]
      simpa [OneLine, or_imp, not_or] using ⟨hvalue, hfirst.2, h.second.2, h.third.2⟩
  | argued h hvalue hfirst hthird =>
      rw [OneLine, h.toList_render]
      simpa [OneLine, or_imp, not_or] using ⟨hvalue.2, hfirst, h.second.2, h.third.2⟩

end Label

/-! ## Entries -/

/-- What stands on one line below the root: how deep its node is, on which side of the node
above it hangs, and its label. -/
structure Entry where
  depth : Nat
  side : Side
  label : Label

/-- The line of an entry, without the line feed behind it. -/
def Entry.line (e : Entry) : List Char :=
  (SyntaxTree.indentation e.depth).toList ++ e.side.mark.toList ++ e.label.render.toList

namespace SyntaxTree

/-- The entries of a tree that hangs on the given side, in the order of their lines. -/
def entries (depth : Nat) (side : Side) : SyntaxTree → List Entry
  | .absent => []
  | .node label left right =>
      ⟨depth, side, label⟩ :: (left.entries (depth + 1) .left ++ right.entries (depth + 1) .right)

/-- A subtree is printed as its lines, each with a line feed behind it. -/
theorem toList_dumpOnto (depth : Nat) (side : Side) (t : SyntaxTree) :
    (t.dumpOnto "" depth side.mark).toList =
      (t.entries depth side).flatMap fun e => e.line ++ ['\n'] := by
  induction t generalizing depth side with
  | absent => rfl
  | node label left right ihl ihr =>
      have hleft := ihl (depth + 1) .left
      have hright := ihr (depth + 1) .right
      rw [dump_node, entries, List.flatMap_cons, List.flatMap_append, ← hleft, ← hright]
      simp [Entry.line, Side.mark]

/-- The entries of the trees below a node. -/
def entriesBelow (left right : SyntaxTree) : List Entry :=
  left.entries 1 .left ++ right.entries 1 .right

/-- A tree is printed as the line of its root and the lines of what is below it. -/
theorem toList_dump (label : Label) (left right : SyntaxTree) :
    (node label left right).dump.toList =
      (label.render.toList :: (entriesBelow left right).map Entry.line).flatMap
        fun line => line ++ ['\n'] := by
  have hleft := toList_dumpOnto 1 .left left
  have hright := toList_dumpOnto 1 .right right
  rw [entriesBelow, List.flatMap_cons, List.flatMap_map, List.flatMap_append, ← hleft, ← hright,
    dump, dump_node]
  simp [indentation, Side.mark]

end SyntaxTree

/-- A line tells its entry: the blanks in front tell the depth, the mark tells the side. -/
theorem Entry.line_inj {e f : Entry} (he : e.label.Legible) (hf : f.label.Legible)
    (h : e.line = f.line) : e = f := by
  rcases e with ⟨depth, side, label⟩
  rcases f with ⟨depth', side', label'⟩
  -- No mark starts with a blank, so the blanks in front of it are those of the depth.
  have hblank (n : Nat) : ∀ d ∈ List.replicate n ' ', (d == ' ') = true := by simp
  have hcut (n : Nat) (side : Side) (rest : List Char) :=
    takeWhile_append_of_stop (· == ' ') (side.mark.toList ++ rest) (hblank n)
      (by cases side <;> simp [Side.mark])
  have hline (n : Nat) (side : Side) (label : Label) : Entry.line ⟨n, side, label⟩ =
      List.replicate (2 * n) ' ' ++ (side.mark.toList ++ label.render.toList) := by
    simp [Entry.line, SyntaxTree.indentation]
  rw [hline, hline] at h
  have hblanks := congrArg (List.takeWhile (· == ' ')) h
  have htext := congrArg (List.dropWhile (· == ' ')) h
  rw [(hcut _ side _).1, (hcut _ side' _).1] at hblanks
  rw [(hcut _ side _).2, (hcut _ side' _).2] at htext
  have hdepth : depth = depth' := by
    have hlength := congrArg List.length hblanks
    rw [List.length_replicate, List.length_replicate] at hlength
    omega
  have hmark : side.mark.toList.length = side'.mark.toList.length := by
    cases side <;> cases side' <;> rfl
  obtain ⟨hside, hrender⟩ := List.append_inj htext hmark
  have hsame : side = side' := by
    cases side <;> cases side' <;> first | rfl | exact absurd hside (by decide)
  have hlabel : label = label' := he.render_inj hf (String.toList_inj.1 hrender)
  rw [hdepth, hsame, hlabel]

/-- So the lines of entries tell the entries. -/
theorem Entry.map_line_inj {es fs : List Entry} (hes : ∀ e ∈ es, e.label.Legible)
    (hfs : ∀ f ∈ fs, f.label.Legible) (h : es.map Entry.line = fs.map Entry.line) : es = fs := by
  induction es generalizing fs with
  | nil => exact (List.map_eq_nil_iff.1 h.symm).symm
  | cons e es ih =>
      cases fs with
      | nil => cases h
      | cons f fs =>
          obtain ⟨hline, hrest⟩ := List.cons.inj h
          obtain ⟨he, hes⟩ := List.forall_mem_cons.1 hes
          obtain ⟨hf, hfs⟩ := List.forall_mem_cons.1 hfs
          rw [Entry.line_inj he hf hline, ih hes hfs hrest]

/-- A legible label takes one line. -/
theorem Entry.lineFeed_not_mem_line {e : Entry} (h : e.label.Legible) : '\n' ∉ e.line := by
  have hmark : '\n' ∉ e.side.mark.toList := by cases e.side <;> decide
  have hrender : '\n' ∉ e.label.render.toList := h.oneLine_render
  simp [Entry.line, SyntaxTree.indentation, hmark, hrender]

/-- Lines that are joined with a line feed behind each can be told. -/
theorem lines_inj {ls ms : List (List Char)} (hls : ∀ l ∈ ls, '\n' ∉ l)
    (hms : ∀ m ∈ ms, '\n' ∉ m)
    (h : (ls.flatMap fun l => l ++ ['\n']) = ms.flatMap fun m => m ++ ['\n']) : ls = ms := by
  induction ls generalizing ms with
  | nil =>
      cases ms with
      | nil => rfl
      | cons m ms => simp at h
  | cons l ls ih =>
      cases ms with
      | nil => simp at h
      | cons m ms =>
          simp only [List.flatMap_cons, List.append_assoc, List.singleton_append] at h
          obtain ⟨hline, hrest⟩ :=
            split_first (hls l List.mem_cons_self) (hms m List.mem_cons_self) h
          rw [hline, ih (List.forall_mem_cons.1 hls).2 (List.forall_mem_cons.1 hms).2 hrest]

/-! ## Trees -/

namespace SyntaxTree

/-- The first of the entries does not belong to a tree of the given depth and side whose
entries are in front of it. -/
def Behind (depth : Nat) (side : Side) (rest : List Entry) : Prop :=
  ∀ e ∈ rest.head?, e.depth < depth ∨ e.depth = depth ∧ side = .left ∧ e.side = .right

/-- What may stand behind a subtree may stand behind its right child. -/
theorem Behind.deeper {depth : Nat} {side : Side} {rest : List Entry} (h : Behind depth side rest) :
    Behind (depth + 1) .right rest := by
  intro e he
  rcases h e he with hdepth | ⟨hdepth, -⟩
  · exact .inl (by omega)
  · exact .inl (by omega)

/-- Behind the left child the lines of the right one come first. -/
theorem Behind.right {depth : Nat} {side : Side} {rest : List Entry} (h : Behind depth side rest)
    (right : SyntaxTree) : Behind (depth + 1) .left (right.entries (depth + 1) .right ++ rest) := by
  cases right with
  | absent =>
      intro e he
      exact .inl ((h.deeper e he).elim id fun hright => nomatch hright.2.1)
  | node label left right =>
      intro e he
      obtain rfl := Option.some.inj he
      exact .inr ⟨rfl, rfl, rfl⟩

/-- A node of a tree is no entry behind it. -/
theorem Behind.ne_cons {depth : Nat} {side : Side} {rest : List Entry} (h : Behind depth side rest)
    (label : Label) (more : List Entry) : rest ≠ ⟨depth, side, label⟩ :: more := by
  rintro rfl
  rcases h _ rfl with hdepth | ⟨-, rfl, hside⟩
  · exact Nat.lt_irrefl _ hdepth
  · cases hside

/-- The entries of a tree and what is behind them can be told apart. -/
theorem entries_inj {t u : SyntaxTree} {depth : Nat} {side : Side} {rest rest' : List Entry}
    (hrest : Behind depth side rest) (hrest' : Behind depth side rest')
    (h : t.entries depth side ++ rest = u.entries depth side ++ rest') : t = u ∧ rest = rest' := by
  induction t generalizing u depth side rest rest' with
  | absent =>
      cases u with
      | absent => exact ⟨rfl, h⟩
      | node label left right => exact absurd h (hrest.ne_cons _ _)
  | node label left right ihl ihr =>
      cases u with
      | absent => exact absurd h.symm (hrest'.ne_cons _ _)
      | node label' left' right' =>
          simp only [entries, List.cons_append, List.append_assoc, List.cons.injEq,
            Entry.mk.injEq, true_and] at h
          obtain ⟨hlabel, hbelow⟩ := h
          obtain ⟨hleft, hbehind⟩ := ihl (hrest.right right) (hrest'.right right') hbelow
          obtain ⟨hright, hrest⟩ := ihr hrest.deeper hrest'.deeper hbehind
          exact ⟨by rw [hlabel, hleft, hright], hrest⟩

/-- The lines below the root tell both subtrees. -/
theorem entriesBelow_inj {left right left' right' : SyntaxTree}
    (h : entriesBelow left right = entriesBelow left' right') : left = left' ∧ right = right' := by
  have hnone (depth : Nat) (side : Side) : Behind depth side [] := fun e he => nomatch he
  have hbelow : left.entries 1 .left ++ (right.entries 1 .right ++ []) =
      left'.entries 1 .left ++ (right'.entries 1 .right ++ []) := by
    simpa [entriesBelow] using h
  obtain ⟨hleft, hbehind⟩ :=
    entries_inj ((hnone 0 .left).right right) ((hnone 0 .left).right right') hbelow
  exact ⟨hleft, (entries_inj (hnone 1 .right) (hnone 1 .right) hbehind).1⟩

/-- All labels of the tree are legible. -/
def Legible : SyntaxTree → Prop
  | .absent => True
  | .node label left right => label.Legible ∧ left.Legible ∧ right.Legible

/-- All lines of a legible tree have legible labels. -/
theorem Legible.of_mem_entries {t : SyntaxTree} (h : t.Legible) {depth : Nat} {side : Side} :
    ∀ e ∈ t.entries depth side, e.label.Legible := by
  induction t generalizing depth side with
  | absent => exact List.forall_mem_nil _
  | node label left right ihl ihr =>
      obtain ⟨hlabel, hleft, hright⟩ := h
      exact List.forall_mem_cons.2 ⟨hlabel, List.forall_mem_append.2 ⟨ihl hleft, ihr hright⟩⟩

theorem Legible.of_mem_entriesBelow {left right : SyntaxTree} (hleft : left.Legible)
    (hright : right.Legible) : ∀ e ∈ entriesBelow left right, e.label.Legible :=
  List.forall_mem_append.2 ⟨hleft.of_mem_entries, hright.of_mem_entries⟩

/-- No line of a printed tree has a line feed in it. -/
theorem lineFeed_not_mem_lines {label : Label} (hlabel : label.Legible) {es : List Entry}
    (hes : ∀ e ∈ es, e.label.Legible) :
    ∀ line ∈ label.render.toList :: es.map Entry.line, '\n' ∉ line := by
  refine List.forall_mem_cons.2 ⟨hlabel.oneLine_render, List.forall_mem_map.2 ?_⟩
  exact fun e he => Entry.lineFeed_not_mem_line (hes e he)

/-- Trees with legible labels that are printed the same are the same. -/
theorem Legible.dump_inj {t u : SyntaxTree} (ht : t.Legible) (hu : u.Legible)
    (h : t.dump = u.dump) : t = u := by
  have htext := congrArg String.toList h
  cases t with
  | absent =>
      cases u with
      | absent => rfl
      | node label left right =>
          rw [toList_dump] at htext
          simp [dump, dumpOnto] at htext
  | node label left right =>
      cases u with
      | absent =>
          rw [toList_dump] at htext
          simp [dump, dumpOnto] at htext
      | node label' left' right' =>
          obtain ⟨hlabel, hleft, hright⟩ := ht
          obtain ⟨hlabel', hleft', hright'⟩ := hu
          have hbelow := hleft.of_mem_entriesBelow hright
          have hbelow' := hleft'.of_mem_entriesBelow hright'
          rw [toList_dump, toList_dump] at htext
          have hlines := lines_inj (lineFeed_not_mem_lines hlabel hbelow)
            (lineFeed_not_mem_lines hlabel' hbelow') htext
          obtain ⟨hroot, hrest⟩ := List.cons.inj hlines
          obtain ⟨rfl, rfl⟩ := entriesBelow_inj (Entry.map_line_inj hbelow hbelow' hrest)
          rw [hlabel.render_inj hlabel' (String.toList_inj.1 hroot)]

end SyntaxTree

end Primer
