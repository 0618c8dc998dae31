import SqlReader.Text.Ranges

set_option autoImplicit false

namespace SqlReader

-- The Unicode property White_Space.
def blankRanges : Ranges :=
  [(0x9, 0xd), (0x20, 0x20), (0x85, 0x85), (0xa0, 0xa0), (0x1680, 0x1680), (0x2000, 0x200a),
    (0x2028, 0x2029), (0x202f, 0x202f), (0x205f, 0x205f), (0x3000, 0x3000)]

def isBlank (c : Char) : Bool := blankRanges.holds c.toNat

def trimRight (s : List Char) : List Char := (s.reverse.dropWhile isBlank).reverse

end SqlReader
