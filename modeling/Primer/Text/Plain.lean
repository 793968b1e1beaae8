/-!
# Plain text

A terminal obeys control characters and the control sequences that the escape
character opens.  Where a text is written to something that is no terminal, they
are left out, and what remains is plain: only the control characters that are
white space still stand in it.

Main definitions:

- `isPlain` decides which characters may remain.
- `ControlSequence` says how far a control sequence has been read, and
  `Progress` where a reader of a text stands.
- `step` reads one character, and `visibleOnto` a list of them.
- `plainText` is what remains of a text.
- `takesLineFeed` decides whether a line feed behind a text would be left out with
  a control string that the text does not close.
-/

namespace Primer

/-! ## Characters -/

/-- The character is a control character of ASCII. -/
def isControl (c : Char) : Bool :=
  decide (c.toNat < 0x20) || c == '\x7f'

/-- The control characters that are white space: tab, line feed, form feed and
carriage return. -/
def isLayout (c : Char) : Bool :=
  c == '\t' || c == '\n' || c == '\x0c' || c == '\r'

/-- The character may stand in a plain text. -/
def isPlain (c : Char) : Bool :=
  !isControl c || isLayout c

/-- The code point of the character lies between two others. -/
def isBetween (low high : Nat) (c : Char) : Bool :=
  decide (low ≤ c.toNat) && decide (c.toNat ≤ high)

/-- The byte that closes a control string occurs in the encoding of the character. -/
def holdsTerminator (c : Char) : Bool :=
  (String.utf8EncodeChar c).contains 0x9c

/-! ## Control sequences -/

/-- How far a control sequence has been read. -/
inductive ControlSequence where
  /-- Only the escape character. -/
  | escape
  /-- An escape with characters that qualify it. -/
  | qualified
  /-- The parameters of a control sequence proper. -/
  | parameters
  /-- A command to the operating system, which the bell closes. -/
  | systemCommand
  /-- A device control string without anything in front of its command. -/
  | device
  /-- The parameters of a device control string. -/
  | deviceParameters
  /-- A device control string with characters that qualify its command. -/
  | deviceQualified
  /-- The text of a control string, up to the terminator. -/
  | controlString
  deriving DecidableEq, Repr, Inhabited

/-- Where the reader of a text stands. -/
inductive Progress where
  | outside
  | inside (s : ControlSequence)
  /-- White space has interrupted a control sequence: the text behind it is visible,
  and the next control character takes the sequence up again. -/
  | paused (s : ControlSequence)
  deriving DecidableEq, Repr, Inhabited

namespace ControlSequence

/-- White space stays visible inside the control sequence. -/
def showsLayout : ControlSequence → Bool
  | .escape | .qualified | .parameters => true
  | _ => false

/-- What follows an escape character is the kind of its sequence. -/
def afterEscape (c : Char) : Progress :=
  if c = '[' then .inside .parameters
  else if c = ']' then .inside .systemCommand
  else if c = 'P' then .inside .device
  else if c = 'X' ∨ c = '^' ∨ c = '_' then .inside .controlString
  else if isBetween 0x20 0x2f c then .inside .qualified
  else if isBetween 0x30 0x7e c then .outside
  else .inside .escape

/-- Where a reader inside a control sequence stands behind one more character.
Characters that have no part in the sequence leave it as it is. -/
def after (s : ControlSequence) (c : Char) : Progress :=
  match s with
  | .escape => afterEscape c
  | .qualified => if isBetween 0x30 0x7e c then .outside else .inside .qualified
  | .parameters => if isBetween 0x40 0x7e c then .outside else .inside .parameters
  | .systemCommand => if c = '\x07' then .outside else .inside .systemCommand
  | .device =>
      if isBetween 0x20 0x2f c then .inside .deviceQualified
      else if isBetween 0x30 0x3f c then .inside .deviceParameters
      else if isBetween 0x40 0x7e c then .inside .controlString
      else .inside .device
  | .deviceParameters =>
      if isBetween 0x20 0x2f c then .inside .deviceQualified
      else if isBetween 0x3c 0x7e c then .inside .controlString
      else .inside .deviceParameters
  | .deviceQualified =>
      if isBetween 0x30 0x7e c then .inside .controlString else .inside .deviceQualified
  | .controlString => if holdsTerminator c then .outside else .inside .controlString

end ControlSequence

/-! ## Reading a text -/

/-- Read one character: where the reader stands behind it, and whether it is
visible.  The escape character opens a control sequence wherever it stands, and
cancel and substitute close one. -/
def step (p : Progress) (c : Char) : Progress × Bool :=
  if c = '\x1b' then (.inside .escape, false)
  else if c = '\x18' ∨ c = '\x1a' then (.outside, false)
  else match p with
    | .outside => (.outside, isPlain c)
    | .inside s =>
        if s.showsLayout && isLayout c then (.paused s, true) else (s.after c, false)
    | .paused s =>
        if isPlain c then (if c.toNat < 0x80 then .paused s else .outside, true)
        else (.inside s, false)

/-- Where the reader stands behind a list of characters. -/
def progressAfter (p : Progress) (cs : List Char) : Progress :=
  cs.foldl (fun q c => (step q c).1) p

/-- Put the visible characters of a list behind those found before, which are in
reverse order. -/
def visibleOnto (p : Progress) (found : List Char) : List Char → List Char
  | [] => found.reverse
  | c :: cs => visibleOnto (step p c).1 (if (step p c).2 then c :: found else found) cs

/-- What remains of a text. -/
def plainText (text : String) : String :=
  String.ofList (visibleOnto .outside [] text.toList)

/-- A line feed behind the text would be left out. -/
def takesLineFeed (text : String) : Bool :=
  !(step (progressAfter .outside text.toList) '\n').2

end Primer
