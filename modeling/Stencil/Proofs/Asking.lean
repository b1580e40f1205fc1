import Stencil.Call
import Stencil.Proofs.Counting

/-!
How contexts are asked for keys. Whether a context has a `get` of its own can be told in every
store; one that has none is looked into as its type says, which changes nothing.
-/

namespace Stencil

/-- Whether an object is a mapping that takes attributes, and so a `get` of its own. -/
def Cell.takesGet : Cell → Bool
  | .mapping form _ => form.isOpen
  | _ => false

namespace Value

private theorem total_laterDictionary? (v : Value) : v.laterDictionary?.Total := by
  refine .bind (.extra? v _) fun e => ?_
  split <;> exact .pure _

private theorem total_dictionary? (v : Value) : v.dictionary?.Total := by
  unfold dictionary?
  split
  · exact .pure _
  · exact .pure _
  · refine .bind (.cell _) fun c => ?_
    split
    · exact .pure _
    · exact .pure _
    · exact .pure _
    · exact total_laterDictionary? _
  · exact total_laterDictionary? _

private theorem total_givenAttribute? (v : Value) (name : Text) :
    (v.givenAttribute? name).Total := by
  refine .bind v.total_dictionary? fun attributes => ?_
  cases attributes with
  | none => exact .bind (.extra? v name) fun _ => .pure _
  | some a => exact .bind (.entries a) fun _ => .pure _

theorem total_ownGet? (v : Value) : v.ownGet?.Total := by
  unfold ownGet?
  split
  · refine .bind (.cell _) fun c => ?_
    split
    · split
      · exact .bind (total_givenAttribute? _ _) fun _ => .pure _
      · exact .pure _
    · exact .pure _
  · exact .pure _

variable {context : Value} {s : Store}

/-- Only what takes attributes can have a `get` of its own. -/
theorem ownGet?_of_takesGet {a : Address} (h : ¬ (s.cells.getD a (.tuple [])).takesGet) :
    (object a).ownGet? s = .ok none := by
  unfold ownGet?
  dsimp only
  rw [Reading.bind_cell]
  cases hc : s.cells.getD a (.tuple []) with
  | mapping form entries =>
    have hform : ¬ form.isOpen := by rwa [hc] at h
    dsimp only
    rw [if_neg hform]
    rfl
  | _ => rfl

@[simp] theorem ask_none (nested : NestedCall) (key : Value) :
    context.ask nested none key s = (context.typeLookup key s, s) :=
  rfl

@[simp] theorem ask_some (nested : NestedCall) (get key : Value) :
    context.ask nested (some get) key = nested get key :=
  rfl

theorem lookup_eq_ask {get : Option Value} (bound : context.ownGet? s = .ok get) (key : Value) :
    context.lookup key s = context.ask (callWithin callDepth) get key s :=
  Action.bind_lift_ok bound

theorem lookup_eq_typeLookup (bound : context.ownGet? s = .ok none) (key : Value) :
    context.lookup key s = (context.typeLookup key s, s) :=
  lookup_eq_ask bound key

end Value
end Stencil
