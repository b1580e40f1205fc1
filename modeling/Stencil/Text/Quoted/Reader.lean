import Stencil.Text.Quoted
import Stencil.Text.Unescape

/-!
Reading quoted text back: one complete literal on one line, from its opening quote to the first one
of the kind that is not escaped, with nothing after it.
-/

namespace Stencil.Quoted

/-- The text from inside a literal on, or from inside an escape in it. -/
def readInside? (quote : CodePoint) : Option Escape.Pending → Text → Option Text
  | _, [] => none
  | none, c :: rest =>
    if c = quote then if rest = [] then some [] else none
    else if c = backslash then readInside? quote (some .start) rest
    else if Escape.endsLine c then none
    else (readInside? quote none rest).map (c :: ·)
  | some p, c :: rest =>
    match p.step? c with
    | some (.done d) => (readInside? quote none rest).map (d :: ·)
    | some (.more p) => readInside? quote (some p) rest
    | none => none

def read? : Text → Option Text
  | [] => none
  | c :: rest => if c = single ∨ c = double then readInside? c none rest else none

end Stencil.Quoted
