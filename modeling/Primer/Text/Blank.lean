/-!
# White space at the end of a text

Main definitions:

- `isWhiteSpace` decides the Unicode property `White_Space`.
- `trimEnd` cuts white space off the end of a text.

Main results:

- Theorem `toList_trimEnd_append`: only white space is cut off.
-/

namespace Primer

/-- The code points of white space: each pair is the first and the last one of a
range. -/
def whiteSpaceRanges : List (Nat × Nat) :=
  [(0x9, 0xd), (0x20, 0x20), (0x85, 0x85), (0xa0, 0xa0), (0x1680, 0x1680), (0x2000, 0x200a),
    (0x2028, 0x2029), (0x202f, 0x202f), (0x205f, 0x205f), (0x3000, 0x3000)]

/-- The character has the Unicode property `White_Space`. -/
def isWhiteSpace (c : Char) : Bool :=
  whiteSpaceRanges.any fun range => decide (range.1 ≤ c.toNat) && decide (c.toNat ≤ range.2)

/-- A text without the white space at its end. -/
def trimEnd (text : String) : String :=
  String.ofList (text.toList.reverse.dropWhile isWhiteSpace).reverse

/-- Only white space is cut off, and only at the end. -/
theorem toList_trimEnd_append (text : String) :
    (trimEnd text).toList ++ (text.toList.reverse.takeWhile isWhiteSpace).reverse =
      text.toList := by
  rw [trimEnd, String.toList_ofList, ← List.reverse_append, List.takeWhile_append_dropWhile,
    List.reverse_reverse]

end Primer
