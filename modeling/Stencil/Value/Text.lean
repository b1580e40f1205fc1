import Stencil.Value.Repr

/-!
The text of a value as a reader sees it. It differs from the text that shows the value from inside
for texts, wrapped values, named constants, decimal numbers and objects with a text of their own.
Taking the text of a counter counts.
-/

namespace Stencil

namespace Value

/-- Takes the text of a value through at most so many wrappers. -/
def textWithin : (depth : Nat) → Value → Action Text
  | _, .key (.text t) => return t
  | _, .key (.strategy s) => return "Strategy." ++ s.constant
  | _, .kind k => return "ItemKind." ++ k.constant
  | _, .decimal d => return d.text
  | depth, .object a => do
    match (← Reading.cell a) with
    | .literal none => throw .missingValue
    | .literal (some v) =>
      match depth with
      | 0 => throw (.depthLimit .text)
      | depth + 1 => textWithin depth v
    | .plain shown _ _ => return shown
    | .counter taken =>
      Action.write a (.counter (taken + 1))
      return Numeral.decimal (taken + 1)
    | .mapping .proxy entries =>
      let depth ← Reading.depth
      Cell.pairs (reprWithin (3 * depth + 1) [a]) entries
    | _ => Value.repr (.object a)
  | _, v => v.repr

def toText (v : Value) : Action Text := do
  textWithin (← Reading.depth) v

end Value
end Stencil
