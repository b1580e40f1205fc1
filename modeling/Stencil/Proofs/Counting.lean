import Stencil.Proofs.Effects
import Stencil.Value.Text
import Stencil.Value.Truth

/-!
Taking a text may count, and changes nothing else: a store in which a text was taken holds the same
values for true.
-/

namespace Stencil

/-- Stores that differ at most in one counter, which is one ahead in the second. -/
inductive Counted (s : Store) : Store → Prop
  | none : Counted s s
  | one {a : Address} {taken : Nat} (h : s.cells.getD a (.tuple []) = .counter taken) :
      Counted s { s with cells := s.cells.setIfInBounds a (.counter (taken + 1)) }

variable {s s' : Store}

theorem Counted.cell (h : Counted s s') (b : Address) :
    s'.cells.getD b (.tuple []) = s.cells.getD b (.tuple []) ∨
      ∃ taken, s.cells.getD b (.tuple []) = .counter taken ∧
        s'.cells.getD b (.tuple []) = .counter (taken + 1) := by
  cases h with
  | none => exact .inl rfl
  | @one a taken h =>
    by_cases hb : a = b
    · subst hb
      by_cases ha : a < s.cells.size
      · exact .inr ⟨taken, h, by simp [Array.getD, ha]⟩
      · simp [Array.getD, ha] at h
    · exact .inl (by simp [Array.getD_eq_getD_getElem?, hb])

theorem Counted.bytes (h : Counted s s') (a : Address) :
    Reading.bytes a s' = Reading.bytes a s := by
  unfold Reading.bytes
  rw [Reading.bind_cell, Reading.bind_cell]
  rcases h.cell a with heq | ⟨taken, hs, hs'⟩
  · rw [heq]
    cases s.cells.getD a (.tuple []) <;> rfl
  · rw [hs, hs']
    rfl

theorem Counted.isTrue (h : Counted s s') (v : Value) : v.isTrue s' = v.isTrue s := by
  cases v with
  | object a =>
    change Except.ok (s'.cells.getD a (.tuple [])).isTrue = .ok (s.cells.getD a (.tuple [])).isTrue
    rcases h.cell a with heq | ⟨taken, hs, hs'⟩
    · rw [heq]
    · rw [hs, hs']
      rfl
  | byteArray a =>
    unfold Value.isTrue
    dsimp only
    cases hb : Reading.bytes a s with
    | error f => rw [Reading.bind_error ((h.bytes a).trans hb), Reading.bind_error hb]
    | ok bs => rw [Reading.bind_ok ((h.bytes a).trans hb), Reading.bind_ok hb]; rfl
  | _ => rfl

namespace Value

/-- A value is true or false in every store. -/
theorem total_isTrue (v : Value) : v.isTrue.Total := by
  cases v with
  | byteArray a => exact .bind (.bytes a) fun _ => .pure _
  | object a => exact .bind (.cell a) fun _ => .pure _
  | _ => exact .pure _

/-- The type of every value has a name in every store. -/
theorem total_typeName (v : Value) : v.typeName.Total := by
  cases v with
  | object a => exact .bind (.cell a) fun _ => .pure _
  | part type name => cases type <;> exact .pure _
  | _ => exact .pure _

theorem total_bareTypeName (v : Value) : v.bareTypeName.Total :=
  .bind v.total_typeName fun _ => .pure _

theorem total_fullTypeName (v : Value) : v.fullTypeName.Total :=
  .bind v.total_typeName fun _ => .pure _

private theorem counted_textWithin (depth : Nat) (v : Value) (s : Store) :
    Counted s (textWithin depth v s).2 := by
  unfold textWithin
  cases v with
  | object a =>
    dsimp only
    rw [Action.bind_cell]
    cases hc : s.cells.getD a (.tuple []) with
    | literal held =>
      match held, depth with
      | none, _ | some _, 0 => exact .none
      | some v, depth + 1 => exact counted_textWithin depth v s
    | counter taken => exact .one hc
    | mapping form entries => cases form <;> exact .none
    | _ => exact .none
  | key k => cases k <;> exact .none
  | _ => exact .none

theorem counted_toText (v : Value) (s : Store) : Counted s (v.toText s).2 :=
  counted_textWithin s.cells.size v s

@[simp] theorem toText_text (t : Text) : (Value.text t).toText = pure t := by
  funext s
  unfold toText textWithin
  rfl

end Value
end Stencil
