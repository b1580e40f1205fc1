import Stencil.Store

/-!
Which values count as false: nothing, zero of every kind, and whatever is empty.
-/

namespace Stencil

def rangeLength (start stop step : Int) : Nat :=
  if 0 < step then ((stop - start + step - 1) / step).toNat
  else if step < 0 then ((start - stop - step - 1) / -step).toNat
  else 0

def Key.isTrue : Key → Bool
  | .text t => !t.isEmpty
  | .strategy _ => true
  | .int n => n != 0
  | .bool b => b
  | .float x => !x.isZero

def Cell.isTrue : Cell → Bool
  | .list members | .tuple members | .deque members => !members.isEmpty
  | .set members => !members.isEmpty
  | .mapping _ entries => !entries.isEmpty
  | _ => true

def Value.isTrue : Value → Reading Bool
  | .nothing => return false
  | .key k => return k.isTrue
  | .complex re im => return !(re.isZero && im.isZero)
  | .decimal d => return !d.isZero
  | .bytes bs => return !bs.isEmpty
  | .byteArray a => return !(← Reading.bytes a).isEmpty
  | .range start stop step => return rangeLength start stop step != 0
  | .object a => return (← Reading.cell a).isTrue
  | .kind _ | .part .. | .foreign .. | .callable _ => return true

end Stencil
