import Stencil.Store

/-!
What readings and actions give where they are run in a store: one after the other, up to the first
fault.
-/

namespace Stencil

variable {α β : Type}

namespace Reading

variable {r : Reading α} {f : α → Reading β} {s : Store}

theorem bind_ok {x : α} (h : r s = .ok x) : (r >>= f) s = f x s := by
  change (r s >>= fun x => f x s) = f x s
  rw [h]
  rfl

theorem bind_error {e : Fault} (h : r s = .error e) : (r >>= f) s = .error e := by
  change (r s >>= fun x => f x s) = .error e
  rw [h]
  rfl

theorem bind_cell {f : Cell → Reading β} (a : Address) (s : Store) :
    (cell a >>= f) s = f (s.cells.getD a (.tuple [])) s :=
  rfl

/-- A sequence that succeeds has a first part that does. -/
theorem bind_eq_ok {y : β} (h : (r >>= f) s = .ok y) : ∃ x, r s = .ok x ∧ f x s = .ok y := by
  cases hr : r s with
  | error e => rw [bind_error hr] at h; cases h
  | ok x => exact ⟨x, rfl, (bind_ok hr).symm.trans h⟩

/-- A reading that fails in no store. -/
def Total (r : Reading α) : Prop :=
  ∀ s, ∃ x, r s = .ok x

namespace Total

theorem pure (x : α) : Total (pure x) :=
  fun _ => ⟨x, rfl⟩

theorem bind (first : Total r) (next : ∀ x, Total (f x)) : Total (r >>= f) := by
  intro s
  obtain ⟨x, hx⟩ := first s
  rw [bind_ok hx]
  exact next x s

theorem cell (a : Address) : Total (cell a) :=
  fun _ => ⟨_, rfl⟩

theorem bytes (a : Address) : Total (bytes a) := by
  refine .bind (.cell a) fun c => ?_
  cases c <;> exact .pure _

theorem entries (a : Address) : Total (entries a) := by
  refine .bind (.cell a) fun c => ?_
  cases c <;> exact .pure _

theorem extra? (v : Value) (name : Text) : Total (extra? v name) :=
  .bind (fun s => ⟨s.extras, rfl⟩) fun _ => .pure _

end Total
end Reading

namespace Action

section State

variable {σ : Type} {a : ExceptT Fault (StateM σ) α} {f : α → ExceptT Fault (StateM σ) β} {s s' : σ}

theorem bind_ok {x : α} (h : a s = (.ok x, s')) : (a >>= f) s = f x s' := by
  change ExceptT.bindCont f (a s).1 (a s).2 = f x s'
  rw [h]
  rfl

theorem bind_error {e : Fault} (h : a s = (.error e, s')) : (a >>= f) s = (.error e, s') := by
  change ExceptT.bindCont f (a s).1 (a s).2 = (.error e, s')
  rw [h]
  rfl

end State

variable {a : Action α} {f : α → Action β} {s s' : Store}

/-- Actions that begin alike go on alike, if they do so from what the beginning comes to. -/
theorem bind_congr_at {b : Action α} {g : α → Action β} (first : a s = b s)
    (next : ∀ x s', b s = (.ok x, s') → f x s' = g x s') : (a >>= f) s = (b >>= g) s := by
  rcases hb : b s with ⟨e | x, s'⟩
  · rw [bind_error (first.trans hb), bind_error hb]
  · rw [bind_ok (first.trans hb), bind_ok hb, next x s' hb]

/-- An outcome together with the store that is left. -/
theorem eq_of_fst {r : Except Fault α} (h : (a s).1 = r) : a s = (r, (a s).2) :=
  Prod.ext h rfl

theorem bind_lift_ok {r : Reading α} {x : α} (h : r s = .ok x) :
    ((liftM r : Action α) >>= f) s = f x s :=
  bind_ok (congrArg (·, s) h)

theorem bind_lift_error {r : Reading α} {e : Fault} (h : r s = .error e) :
    ((liftM r : Action α) >>= f) s = (.error e, s) :=
  bind_error (congrArg (·, s) h)

theorem bind_cell {f : Cell → Action β} (a : Address) (s : Store) :
    ((liftM (Reading.cell a) : Action Cell) >>= f) s = f (s.cells.getD a (.tuple [])) s :=
  rfl

/-- A sequence that succeeds has a first part that does. -/
theorem bind_eq_ok {y : β} (h : (a >>= f) s = (.ok y, s')) :
    ∃ x s₁, a s = (.ok x, s₁) ∧ f x s₁ = (.ok y, s') := by
  rcases ha : a s with ⟨e | x, s₁⟩
  · rw [bind_error ha] at h
    cases h
  · exact ⟨x, s₁, rfl, (bind_ok ha).symm.trans h⟩

theorem bind_lift_eq_ok {r : Reading α} {y : β}
    (h : ((liftM r : Action α) >>= f) s = (.ok y, s')) :
    ∃ x, r s = .ok x ∧ f x s = (.ok y, s') := by
  cases hr : r s with
  | error e =>
    rw [bind_lift_error hr] at h
    cases h
  | ok x => exact ⟨x, rfl, (bind_lift_ok hr).symm.trans h⟩

end Action
end Stencil
