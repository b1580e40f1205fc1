import Stencil.Program.Source
import Stencil.Text.Unescape

/-!
Reading a format string between single quotes back. The first quote that is not escaped ends it, two
equal braces stand for one, and a name between braces is a field.
-/

namespace Stencil.FormatString

/-- What a format string is made of: fixed code points, and fields by their names. -/
inductive Token
  | fixed (c : CodePoint)
  | field (name : Text)
deriving DecidableEq

inductive Place
  | plain
  | escape (p : Escape.Pending)
  /-- After an opening brace. -/
  | opened
  /-- Inside a field, after some of its name. -/
  | name (t : Text)
  /-- After a closing brace outside a field. -/
  | closed
deriving DecidableEq

def openBrace : CodePoint := CodePoint.ofChar '\x7b'
def closeBrace : CodePoint := CodePoint.ofChar '\x7d'

/-- ASCII letters, digits and the low line. -/
def isNameMember (c : CodePoint) : Bool :=
  (48 ≤ c.val && c.val ≤ 57) || (65 ≤ c.val && c.val ≤ 90) || (97 ≤ c.val && c.val ≤ 122) ||
    c.val = 95

/-- The tokens up to the quote that ends the string, and the text after that quote. -/
def readFrom? : Place → Text → Option (List Token × Text)
  | _, [] => none
  | .plain, c :: rest =>
    if c = Quoted.single then some ([], rest)
    else if c = Quoted.backslash then readFrom? (.escape .start) rest
    else if c = openBrace then readFrom? .opened rest
    else if c = closeBrace then readFrom? .closed rest
    else if Escape.endsLine c then none
    else (readFrom? .plain rest).map fun (ts, after) => (.fixed c :: ts, after)
  | .escape p, c :: rest =>
    match p.step? c with
    | some (.done d) => (readFrom? .plain rest).map fun (ts, after) => (.fixed d :: ts, after)
    | some (.more p) => readFrom? (.escape p) rest
    | none => none
  | .opened, c :: rest =>
    if c = openBrace then
      (readFrom? .plain rest).map fun (ts, after) => (.fixed openBrace :: ts, after)
    else if isNameMember c then readFrom? (.name [c]) rest
    else none
  | .name t, c :: rest =>
    if c = closeBrace then
      (readFrom? .plain rest).map fun (ts, after) => (.field t :: ts, after)
    else if isNameMember c then readFrom? (.name (t ++ [c])) rest
    else none
  | .closed, c :: rest =>
    if c = closeBrace then
      (readFrom? .plain rest).map fun (ts, after) => (.fixed closeBrace :: ts, after)
    else none

def read? (t : Text) : Option (List Token × Text) :=
  readFrom? .plain t

def value (field : Text → Text) : List Token → Text
  | [] => []
  | .fixed c :: rest => c :: value field rest
  | .field name :: rest => field name ++ value field rest

def tokens : Piece → List Token
  | .fixed t => t.map .fixed
  | .field target => [.field (localName target)]

end Stencil.FormatString
