/-! # Blank text

A character is blank if it has the Unicode property `White_Space`. The table is complete.
-/

namespace DriverMonitor.Text

/-- The code points with the property `White_Space`, as ranges with both ends. -/
def blankRanges : List (Nat × Nat) :=
  [(0x09, 0x0d), (0x20, 0x20), (0x85, 0x85), (0xa0, 0xa0), (0x1680, 0x1680), (0x2000, 0x200a),
    (0x2028, 0x2029), (0x202f, 0x202f), (0x205f, 0x205f), (0x3000, 0x3000)]

def isBlankChar (c : Char) : Bool :=
  blankRanges.any fun (first, last) => first ≤ c.toNat && c.toNat ≤ last

/-- Whether a text holds nothing but blanks. -/
def isBlank (text : String) : Bool := text.toList.all isBlankChar

example : (blankRanges.map fun (first, last) => last - first + 1).sum = 25 := rfl

example : [' ', '\t', '\n', '\r'].all isBlankChar := rfl

end DriverMonitor.Text
