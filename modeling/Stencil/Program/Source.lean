import Stencil.Program
import Stencil.Text.Quoted
import Stencil.Unicode.Identifier

/-!
The text of a program: one line for each statement, all of it printable but for the ends of lines.
-/

namespace Stencil

/--
The fixed text of a format string between single quotes: what would end the string or open or close
a field is escaped, and so is all that is not printable.
-/
def escapeFormat (c : CodePoint) : Text :=
  if c = CodePoint.ofChar '\\' then "\\\\"
  else if c = CodePoint.ofChar '\'' then "\\'"
  else if c = CodePoint.ofChar '\x7b' then "\x7b\x7b"
  else if c = CodePoint.ofChar '\x7d' then "\x7d\x7d"
  else match Escape.control? c with
    | some e => e
    | none => if Unicode.isPrintable c then [c] else Escape.numeric c

def escapeFragment (t : Text) : Text :=
  t.flatMap escapeFormat

def itemSource (index : Nat) : Text :=
  "items[" ++ Numeral.decimal index ++ "]"

/-- An identifier goes between double quotes as it is, any other text in its quoted form. -/
def InlineKey.source : InlineKey → Text
  | .text t => if Unicode.isIdentifier t then "\"" ++ t ++ "\"" else Quoted.text t
  | .int n => Numeral.signed n
  | .bool b => if b then "True" else "False"

def keySource (item : Value) (index : Nat) : Text :=
  match item with
  | .key k =>
    match k.inline? with
    | some i => i.source
    | none => itemSource index
  | _ => itemSource index

def Argument.source : Argument → Text
  | .inline k => k.source
  | .item index => itemSource index

def Expression.source : Expression → Text
  | .get argument => "get(" ++ argument.source ++ ")"
  | .item index => itemSource index
  | .callItem index => itemSource index ++ "(context)"

def localName (target : Nat) : Text :=
  CodePoint.ofChar 's' :: Numeral.decimal target

def Assignment.line (a : Assignment) : Text :=
  "    " ++ localName a.target ++ " = text(" ++ a.expression.source ++ ")"

def Assignment.source (a : Assignment) : Text :=
  a.line ++ "\n"

def Piece.source : Piece → Text
  | .fixed t => escapeFragment t
  | .field target => "\x7b" ++ localName target ++ "\x7d"

namespace Program

def bodySource (body : List Piece) : Text :=
  body.flatMap Piece.source

def source (p : Program) : Text :=
  "def render_template(context):\n" ++
  "    if not is_structured(context):\n" ++
  "        raise InvalidContextError(context)\n" ++
  (if p.bindsGetter then ("    get = getter(context)\n" : Text) else []) ++
  p.assignments.flatMap Assignment.source ++
  "    return f'" ++ bodySource p.body ++ "'\n"

end Program
end Stencil
