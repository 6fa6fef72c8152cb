/-!
Blank characters, and texts without the blanks around them.

The blanks are the characters with the property White_Space.
-/

namespace RadioInterrupt.Text

def isBlank (c : Char) : Bool :=
  let code := c.toNat
  (9 ≤ code && code ≤ 13) || code = 0x20 || code = 0x85 || code = 0xA0 || code = 0x1680 ||
    (0x2000 ≤ code && code ≤ 0x200A) || code = 0x2028 || code = 0x2029 || code = 0x202F ||
    code = 0x205F || code = 0x3000

def trim (text : String) : String :=
  let left := text.toList.dropWhile isBlank
  String.ofList (left.reverse.dropWhile isBlank).reverse

end RadioInterrupt.Text
