import Stencil.Text.Numeral

/-!
Escapes of single code points inside quoted text.
-/

namespace Stencil.Escape

/-- A code point by its number, in the shortest of the three widths that holds it. -/
def numeric (c : CodePoint) : Text :=
  if c.val < 0x100 then "\\x" ++ Numeral.hex 2 c.val
  else if c.val < 0x10000 then "\\u" ++ Numeral.hex 4 c.val
  else "\\U" ++ Numeral.hex 8 c.val

/-- The two-character escapes of the control characters that have one. -/
def control? (c : CodePoint) : Option Text :=
  if c = CodePoint.ofChar '\n' then some "\\n"
  else if c = CodePoint.ofChar '\r' then some "\\r"
  else if c = CodePoint.ofChar '\t' then some "\\t"
  else none

end Stencil.Escape
