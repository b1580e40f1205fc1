import Stencil.Unicode.Ranges

/-!
Blank code points, and text without the blanks at its ends.
-/

namespace Stencil.Unicode

/-- White space of Unicode 14 together with the information separators U+001C to U+001F. -/
def blankRanges : Ranges :=
  [(0x9, 0xD), (0x1C, 0x20), (0x85, 0x85), (0xA0, 0xA0), (0x1680, 0x1680), (0x2000, 0x200A),
   (0x2028, 0x2029), (0x202F, 0x202F), (0x205F, 0x205F), (0x3000, 0x3000)]

def isBlank (c : CodePoint) : Bool :=
  blankRanges.contains c.val

/-- White space alone, without the information separators. -/
def isSpace (c : CodePoint) : Bool :=
  isBlank c && !(0x1C ≤ c.val && c.val ≤ 0x1F)

end Stencil.Unicode

namespace Stencil

def Text.stripOf (inClass : CodePoint → Bool) (t : Text) : Text :=
  ((t.dropWhile inClass).reverse.dropWhile inClass).reverse

def Text.strip (t : Text) : Text :=
  t.stripOf Unicode.isBlank

end Stencil
