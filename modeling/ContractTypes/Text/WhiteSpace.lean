import ContractTypes.Text.CodePoint

/-!
White space: the 25 members of the property White_Space of Unicode, and texts without them at their
ends.
-/

namespace ContractTypes

namespace CodePoint

def isWhiteSpace (point : CodePoint) : Bool :=
  point.isBetween 0x09 0x0D || point.val == 0x20 || point.val == 0x85 || point.val == 0xA0 ||
    point.val == 0x1680 || point.isBetween 0x2000 0x200A || point.isBetween 0x2028 0x2029 ||
    point.val == 0x202F || point.val == 0x205F || point.val == 0x3000

end CodePoint

namespace Text

def trimmed (dropped : CodePoint → Bool) (text : Text) : Text :=
  ((text.dropWhile dropped).reverse.dropWhile dropped).reverse

end Text

end ContractTypes
