import Stencil.Proofs.Ordering
import Stencil.Proofs.Refusing

/-!
Compiling takes copies. What happens to the lists that a template was compiled from, between its
renderings or within one, does not reach the template.
-/

namespace Stencil

/-- What can happen to a template after it was compiled: anything at all to the store, or a call. -/
inductive Event
  | operation (a : Action Unit)
  | render (context : Value)

structure Rendering where
  context : Value
  before : Store
  outcome : Except Fault Value
  after : Store

namespace Callable

def rendering (c : Callable) (context : Value) (s : Store) : Rendering :=
  ⟨context, s, (c.call context s).1, (c.call context s).2⟩

private theorem rendering_eq {c : Callable} {context : Value} {outcome : Except Fault Value}
    {s s' : Store} (h : c.call context s = (outcome, s')) :
    c.rendering context s = ⟨context, s, outcome, s'⟩ := by
  rw [rendering, h]

def history (c : Callable) : List Event → Store → List Rendering
  | [], _ => []
  | .operation a :: events, s => c.history events (a s).2
  | .render context :: events, s =>
    c.rendering context s :: c.history events (c.rendering context s).after

/-- What holds of a call in every store holds of the calls of every history. -/
private theorem forall_history {c : Callable} {P : Rendering → Prop}
    (h : ∀ context s, P (c.rendering context s)) (events : List Event) (s : Store) :
    ∀ r ∈ c.history events s, P r := by
  induction events generalizing s with
  | nil => simp [history]
  | cons event events ih =>
    cases event with
    | operation a => exact ih (a s).2
    | render context =>
      intro r hr
      rcases List.mem_cons.mp hr with rfl | hr
      · exact h context s
      · exact ih _ r hr

end Callable

/--
A call that uses exactly these fragments and items: of the items, those that have a fragment before
them are evaluated in order, each by its kind, and what they contribute goes between the fragments.
-/
inductive Frozen (fragments : List Fragment) (items : List Value) : Rendering → Prop
  | refused {context : Value} {name : Text} {s : Store} (unfit : ¬ context.isStructured)
      (named : context.bareTypeName s = .ok name) :
      Frozen fragments items ⟨context, s, .error (.invalidContext context name), s⟩
  | rendered {context : Value} {get : Option Value} {reached : List Slot} {requests : List Request}
      {outcome : Except Fault (List Text)} {s s' : Store} (fit : context.isStructured)
      (bound : context.ownGet? s = .ok get)
      (evaluated : Evaluated get context 0 ((items.take fragments.length).map Value.classify) s
        reached requests outcome s') :
      Frozen fragments items ⟨context, s,
        outcome.map fun ts => .text (interleave (fragments.map Fragment.text) ts), s'⟩

/-- The evaluator holds the items themselves, so that no store matters but the one of the call. -/
theorem Layout.evaluator_frozen {fs : Value} {is : Option Value} {s : Store} {l : Layout}
    (h : prepare fs is s = .ok l) {items : List Value}
    (hslots : l.slots = (items.take l.fragments.length).map Value.classify) (id : Identity)
    (strategy : Strategy) (context : Value) (t : Store) :
    Frozen l.fragments items
      ((Callable.evaluator id strategy l.texts l.slots).rendering context t) := by
  by_cases hc : context.isStructured
  · obtain ⟨get, bound⟩ := context.total_ownGet? t
    obtain ⟨reached, requests, outcome, t', hevaluated, hobserved⟩ :=
      evaluated_observed get context 0 l.slots t
    rw [Callable.rendering_eq (observed h hc bound hobserved strategy id).run]
    rw [hslots] at hevaluated
    exact .rendered hc bound hevaluated
  · obtain ⟨name, hn⟩ := context.total_bareTypeName t
    have hrefuses := Refuses.evaluator id strategy l.texts l.slots
    rw [Callable.rendering_eq (hrefuses (callWithin callDepth) context name t hc hn)]
    exact .refused hc hn

open Template in
/--
What lists of fragments and of items hold when an evaluator or a template is compiled from them is
what every later call uses. Whatever happens to the store before a call, and whatever an item does
to the lists while it is called, there are those fragments and items and no other.
-/
theorem templates_frozen {s : Store} {fs is : Value} {fragments : List Fragment}
    {items : List Value} (hf : s.IsList fs (fragments.map Fragment.value))
    (hi : s.IsList is items) :
    (∀ strategy, ∃ c, (compileWith strategy fs (some is) s).1 = .ok c ∧
      ∀ events t, ∀ r ∈ c.history events t, Frozen fragments items r) ∧
    ∃ c, (compile fs (some is) s).1 = .ok c ∧
      ∀ events t, ∀ r ∈ c.history events t, Frozen fragments items r := by
  have hprepare := prepare_lists hf hi
  have hevaluator := Layout.evaluator_frozen hprepare rfl
  constructor
  · intro strategy
    have hcompile := congrArg Prod.fst (compileWith_ok strategy hprepare)
    exact ⟨_, hcompile, Callable.forall_history (hevaluator s.nextIdentity strategy)⟩
  · have hcompile := congrArg Prod.fst (compile_lists hf hi)
    -- A template is called as what is in it.
    exact ⟨_, hcompile, Callable.forall_history (hevaluator s.nextIdentity s.strategy)⟩

/-- Fragments; a routine that appends to the context, and an index; the routine. -/
def appendingStore : Store :=
  ⟨#[.list [.text "a", .text "b"], .list [.callable (.routine 2), .int 0],
    .routine ⟨none, .append (.text "z")⟩ 0], [], #[], 0, .generated, 100⟩

/-- The fragments are replaced and rendered on, then the items are emptied and rendered on; the
routine appends to either while it is an item of the template. -/
def appendingEvents : List Event :=
  [.operation (Action.write 0 (.list [.text "q"])), .render (.object 0),
    .operation (Action.write 1 (.list [])), .render (.object 1)]

theorem templates_frozen_appending :
    ∃ c, (Template.compile (.object 0) (some (.object 1)) appendingStore).1 = .ok c ∧
      (c.history appendingEvents appendingStore).map Rendering.outcome =
        [.ok (.text "abq"), .ok (.text "abz")] ∧
      ∀ r ∈ c.history appendingEvents appendingStore,
        Frozen [.plain "a", .plain "b"] [.callable (.routine 2), .int 0] r := by
  have hfragments : appendingStore.IsList (.object 0)
      ([Fragment.plain "a", Fragment.plain "b"].map Fragment.value) := ⟨⟨0, rfl, rfl⟩, nofun⟩
  have hitems : appendingStore.IsList (.object 1) [.callable (.routine 2), .int 0] :=
    ⟨⟨1, rfl, rfl⟩, nofun⟩
  obtain ⟨c, hcompile, hfrozen⟩ := (templates_frozen hfragments hitems).2
  refine ⟨c, hcompile, ?_, hfrozen appendingEvents appendingStore⟩
  have hlists := congrArg Prod.fst (compile_lists hfragments hitems)
  cases hcompile.symm.trans hlists
  rfl

end Stencil
