/-!
# Blank characters

The characters that Unicode counts as white space.
-/

namespace GuidedDecoding

namespace Text

/-- Whether a character is white space. -/
def isBlank (c : Char) : Bool :=
  let v := c.val
  (0x09 ≤ v && v ≤ 0x0D) || v == 0x20 || v == 0x85 || v == 0xA0 || v == 0x1680
    || (0x2000 ≤ v && v ≤ 0x200A) || v == 0x2028 || v == 0x2029 || v == 0x202F || v == 0x205F
    || v == 0x3000

/-- Whether a text has nothing but white space in it. -/
def allBlank (s : String) : Bool := s.toList.all isBlank

/-- A text without the white space in front of it. -/
def trimmed (cs : List Char) : List Char := cs.dropWhile isBlank

end Text

end GuidedDecoding
