import GuestInit.Text.Runs

/-! White space of Unicode: the code points with the property `White_Space`. -/

namespace GuestInit.Blank

def runs : Runs :=
  [(0x9, 0xD), (0x20, 0x20), (0x85, 0x85), (0xA0, 0xA0), (0x1680, 0x1680), (0x2000, 0x200A),
   (0x2028, 0x2029), (0x202F, 0x202F), (0x205F, 0x205F), (0x3000, 0x3000)]

def isBlank (c : Char) : Bool := runs.covers c.toNat

/-- Drops white space at both ends. -/
def trim (text : String) : String :=
  String.ofList ((text.toList.dropWhile isBlank).reverse.dropWhile isBlank).reverse

end GuestInit.Blank
