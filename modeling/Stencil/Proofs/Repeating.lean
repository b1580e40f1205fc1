import Stencil.Proofs.Compiling
import Stencil.Proofs.Steadiness

/-!
Compiling again. From stores that show the same, the same fragments and items fail to compile with
one fault, or compile to templates that only their identities tell apart.
-/

namespace Stencil

variable {α β γ δ : Type}

namespace Action

/-- Two outcomes that are one fault or related results, in stores that show the same. -/
inductive Agrees (P : α → β → Prop) : Except Fault α × Store → Except Fault β × Store → Prop
  | failed {f : Fault} {s t : Store} (shown : s.inert = t.inert) :
      Agrees P (.error f, s) (.error f, t)
  | done {x : α} {y : β} {s t : Store} (related : P x y) (shown : s.inert = t.inert) :
      Agrees P (.ok x, s) (.ok y, t)

theorem Agrees.error {P : α → β → Prop} {r : Except Fault α × Store} {r' : Except Fault β × Store}
    (h : Agrees P r r') {f : Fault} (hf : r.1 = .error f) : r'.1 = .error f := by
  cases h with
  | failed _ => cases hf; rfl
  | done _ _ => cases hf

theorem Agrees.ok {P : α → β → Prop} {r : Except Fault α × Store} {r' : Except Fault β × Store}
    (h : Agrees P r r') {x : α} (hx : r.1 = .ok x) : ∃ y, r'.1 = .ok y ∧ P x y := by
  cases h with
  | failed _ => cases hx
  | done related _ => cases hx; exact ⟨_, rfl, related⟩

def Parallel (P : α → β → Prop) (a : Action α) (b : Action β) : Prop :=
  ∀ s t, s.inert = t.inert → Agrees P (a s) (b t)

namespace Parallel

variable {P : α → β → Prop} {Q : γ → δ → Prop}

theorem pure {x : α} {y : β} (h : P x y) : Parallel P (pure x) (pure y) :=
  fun _ _ => .done h

theorem throw (f : Fault) : Parallel P (throw f) (throw f) :=
  fun _ _ => .failed

theorem bind {a : Action α} {b : Action β} {f : α → Action γ} {g : β → Action δ}
    (first : Parallel P a b) (next : ∀ x y, P x y → Parallel Q (f x) (g y)) :
    Parallel Q (a >>= f) (b >>= g) := by
  intro s t hst
  have h := first s t hst
  rcases ha : a s with ⟨e | x, s'⟩ <;> rcases hb : b t with ⟨e' | y, t'⟩ <;> rw [ha, hb] at h
  · cases h with
    | failed shown =>
      rw [bind_error ha, bind_error hb]
      exact .failed shown
  · cases h
  · cases h
  · cases h with
    | done related shown =>
      rw [bind_ok ha, bind_ok hb]
      exact next x y related s' t' shown

theorem reading {r : Reading α} (h : r.Steady) : Parallel Eq (liftM r) (liftM r) := by
  intro s t hst
  have heq : r s = r t := by rw [← h s, hst, h t]
  change Agrees Eq (r s, s) (r t, t)
  rw [heq]
  cases r t with
  | error f => exact .failed hst
  | ok x => exact .done rfl hst

theorem reading_bind {r : Reading α} {f : α → Action γ} {g : α → Action δ} (h : r.Steady)
    (next : ∀ x, Parallel Q (f x) (g x)) : Parallel Q (liftM r >>= f) (liftM r >>= g) := by
  refine .bind (.reading h) fun x y hxy => ?_
  subst hxy
  exact next x

theorem strategy : Parallel (fun s t => s.strategy = t.strategy) (get : Action Store) get := by
  intro s t hst
  have hstrategy : s.inert.strategy = t.inert.strategy := congrArg Store.strategy hst
  exact .done hstrategy hst

theorem newIdentity : Parallel (fun _ _ => True) newIdentity newIdentity := by
  intro s t hst
  exact .done trivial hst

/-- New objects are put behind the old ones, of which there are as many. -/
theorem newObject (c : Cell) : Parallel Eq (newObject c) (newObject c) := by
  intro s t hst
  have hcells : s.cells.map Cell.inert = t.cells.map Cell.inert := congrArg Store.cells hst
  have hsize : s.cells.size = t.cells.size := by
    simpa using congrArg Array.size hcells
  have hpush : ∀ u : Store, ({ u with cells := u.cells.push c } : Store).inert =
      { u.inert with cells := u.inert.cells.push c.inert } := by
    intro u
    simp only [Store.inert, Array.map_push]
  refine .done (congrArg Value.object hsize) ?_
  rw [hpush, hst, ← hpush]

end Parallel
end Action

/-- Callables that nothing but their identity tells apart when they are called. -/
def Callable.CalledAlike (c d : Callable) : Prop :=
  ∀ nested : NestedCall, c.callWith nested = d.callWith nested

namespace Callable.CalledAlike

protected theorem refl (c : Callable) : c.CalledAlike c :=
  fun _ => rfl

theorem symm {c d : Callable} (h : c.CalledAlike d) : d.CalledAlike c :=
  fun nested => (h nested).symm

theorem template {c d : Callable} (h : c.CalledAlike d) (id id' : Identity) :
    (Callable.template id c).CalledAlike (.template id' d) := by
  intro nested
  funext context
  unfold callWith
  rw [h nested]

theorem evaluator (id id' : Identity) (strategy : Strategy) (fragments : List Text)
    (slots : List Slot) :
    (Callable.evaluator id strategy fragments slots).CalledAlike
      (.evaluator id' strategy fragments slots) := by
  intro nested
  funext context
  cases strategy <;> rfl

theorem chain {c d : Callable} (h : c.CalledAlike d) (id id' : Identity) (head : Callable)
    (delimiter : Text) :
    (Callable.chain id head delimiter c).CalledAlike (.chain id' head delimiter d) := by
  intro nested
  funext context
  unfold callWith
  rw [h nested]

end Callable.CalledAlike

namespace Template

open Stencil.Action (Parallel)

theorem wrap_parallel {c d : Callable} (h : c.CalledAlike d) :
    Parallel Callable.CalledAlike (wrap c) (wrap d) := by
  refine .bind .newIdentity fun id id' _ => .pure ?_
  exact h.template id id'

theorem compileEvaluator_parallel (fragments : Value) (items : Option Value) :
    Parallel Callable.CalledAlike (compileEvaluator fragments items)
      (compileEvaluator fragments items) := by
  refine .bind .strategy fun s t hst => ?_
  unfold compileWith
  rw [hst]
  refine .reading_bind (Layout.steady_prepare fragments items) fun l => ?_
  refine .bind .newIdentity fun id id' _ => .pure ?_
  exact .evaluator id id' t.strategy l.texts l.slots

theorem compile_parallel (fragments : Value) (items : Option Value) :
    Parallel Callable.CalledAlike (compile fragments items) (compile fragments items) := by
  have hplain : ∀ fs is, Parallel Callable.CalledAlike (compileEvaluator fs is >>= wrap)
      (compileEvaluator fs is >>= wrap) :=
    fun fs is => .bind (compileEvaluator_parallel fs is) fun _ _ => wrap_parallel
  unfold compile
  refine .reading_bind (steady_isTemplateString fragments) fun isTemplateString => ?_
  cases isTemplateString with
  | false => exact hplain fragments items
  | true =>
    refine .reading_bind (steady_hasItems items) fun given => ?_
    cases given with
    | true => exact .throw .itemsWithTemplateString
    | false =>
      refine .reading_bind (fragments.steady_getAttribute "interpolations") fun parts => ?_
      refine .reading_bind (steady_interpolatedParts parts) fun members => ?_
      refine .reading_bind (steady_interpolatedValues members) fun values => ?_
      refine .bind (.newObject (.tuple values)) fun is is' his => ?_
      subst his
      exact .reading_bind (fragments.steady_getAttribute "strings") fun fs => hplain fs (some is)

end Template
end Stencil
