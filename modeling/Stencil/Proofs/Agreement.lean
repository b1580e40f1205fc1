import Stencil.Proofs.Compiling
import Stencil.Proofs.Rendering

/-!
The two strategies agree. Templates that they compile from the same fragments and items fail to
compile with the same fault, or answer the same in every call and leave the same store, and while
they run they ask the same of the world in the same order.
-/

namespace Stencil

def Callable.outcomes (c : Callable) : List Value → Store → List (Except Fault Value × Store)
  | [], _ => []
  | context :: contexts, s =>
    let outcome := c.call context s
    outcome :: outcomes c contexts outcome.2

def bindWith {m : Type → Type} (call : Nat → Value → m Value) (slots : List Slot) :
    List (Bound m) :=
  slots.mapIdx fun i slot => ⟨slot, call i⟩

/--
Whatever a world answers, and whatever calling the items does in it, the program of a layout and the
fold of it are one computation: the same requests and calls in the same order.
-/
def Layout.RunsAlike (l : Layout) : Prop :=
  ∀ (m : Type → Type) [Monad m] [LawfulMonad m] [MonadExceptOf Fault m] (host : Host m)
    (call : Nat → Value → m Value) (context : Value),
    (Program.ofSlots l.texts l.slots).run host (bindWith call l.slots) context =
      Fold.run host l.texts (bindWith call l.slots) context

@[simp] theorem map_slot_bindWith {m : Type → Type} (call : Nat → Value → m Value)
    (slots : List Slot) :
    (bindWith call slots).map Bound.slot = slots := by
  refine List.ext_getElem (by simp [bindWith]) fun i _ _ => ?_
  simp [bindWith]

@[simp] theorem Slot.slot_bind (nested : NestedCall) (slot : Slot) :
    (slot.bind nested).slot = slot := by
  cases slot <;> rfl

theorem bindAll_eq_map (nested : NestedCall) (slots : List Slot) :
    bindAll nested slots = slots.map (Slot.bind nested) := by
  induction slots with
  | nil => rfl
  | cons slot slots ih => rw [bindAll, ih, List.map_cons]

@[simp] theorem map_slot_bindAll (nested : NestedCall) (slots : List Slot) :
    (bindAll nested slots).map Bound.slot = slots := by
  have hslot : Bound.slot ∘ Slot.bind nested = id := funext (Slot.slot_bind nested)
  rw [bindAll_eq_map, List.map_map, hslot, List.map_id]

theorem getElem?_bindAll (nested : NestedCall) (slots : List Slot) (i : Nat) :
    (bindAll nested slots)[i]? = slots[i]?.map (Slot.bind nested) := by
  rw [bindAll_eq_map, List.getElem?_map]

namespace Layout

variable {s : Store} {fragments : Value} {items : Option Value} {l : Layout}

theorem run_eq_of_prepare {m : Type → Type} [Monad m] [LawfulMonad m] [MonadExceptOf Fault m]
    (h : prepare fragments items s = .ok l) (host : Host m) (context : Value)
    {bs : List (Bound m)} (hb : bs.map Bound.slot = l.slots) :
    (Program.ofSlots l.texts l.slots).run host bs context = Fold.run host l.texts bs context := by
  obtain ⟨hl, hn⟩ := prepare_slots h
  have hlen : bs.length ≤ l.texts.length := by
    simpa [← hb] using hl
  have hslots : ∀ b ∈ bs, b.slot ≠ .literal .nothing := fun b hmem =>
    hn b.slot (hb ▸ List.mem_map_of_mem hmem)
  rw [← hb]
  exact Program.run_eq_fold_run host context l.texts bs hlen hslots

theorem runsAlike_of_prepare (h : prepare fragments items s = .ok l) : l.RunsAlike :=
  fun _ _ _ _ host call context =>
    run_eq_of_prepare h host context (map_slot_bindWith call l.slots)

theorem callWith_eq_of_prepare (h : prepare fragments items s = .ok l) (id : Identity)
    (nested : NestedCall) (context : Value) :
    (Callable.evaluator id .generated l.texts l.slots).callWith nested context =
      (Callable.evaluator id .interpreted l.texts l.slots).callWith nested context := by
  unfold Callable.callWith
  dsimp only
  refine bind_congr fun get => ?_
  rw [run_eq_of_prepare h (.store nested get) context (map_slot_bindAll nested l.slots)]

/-- A call binds how the context is asked for keys and checks the context, then puts the fragments
between what the items contribute. -/
theorem callWith_of_prepare (h : prepare fragments items s = .ok l) (strategy : Strategy)
    (id : Identity) (nested : NestedCall) (context : Value) :
    (Callable.evaluator id strategy l.texts l.slots).callWith nested context =
      (do let get ← context.ownGet?
          (Host.store nested get).requireStructured context
          let ts ← (bindAll nested l.slots).mapM (Fold.contribution (.store nested get) · context)
          pure (Value.text (interleave l.texts ts))) := by
  have hlength : (bindAll nested l.slots).length ≤ l.texts.length := by
    simpa [bindAll_eq_map] using (prepare_slots h).1
  have hinterpreted : (Callable.evaluator id .interpreted l.texts l.slots).callWith nested context =
      (do let get ← context.ownGet?
          (Host.store nested get).requireStructured context
          let ts ← (bindAll nested l.slots).mapM (Fold.contribution (.store nested get) · context)
          pure (Value.text (interleave l.texts ts))) := by
    unfold Callable.callWith
    dsimp only
    refine bind_congr fun get => ?_
    rw [Fold.run_eq (.store nested get) context _ _ hlength]
    simp only [bind_assoc, pure_bind]
  cases strategy with
  | generated => rw [callWith_eq_of_prepare h, hinterpreted]
  | interpreted => exact hinterpreted

end Layout

/-- Callables that answer every call alike do so in every run of calls. -/
theorem Callable.outcomes_congr {c d : Callable} (h : ∀ context, c.call context = d.call context)
    (contexts : List Value) (s : Store) : c.outcomes contexts s = d.outcomes contexts s := by
  induction contexts generalizing s with
  | nil => rfl
  | cons context contexts ih => simp only [outcomes, h context, ih]

open Template in
/--
From the same fragments and items, both strategies fail with the same fault, or compile evaluators
that nothing tells apart: not by what they answer and leave, nor by what they ask for on the way.
-/
theorem strategies_agree (fragments : Value) (items : Option Value) (s : Store) :
    (∃ f, compileWith .generated fragments items s = (.error f, s) ∧
      compileWith .interpreted fragments items s = (.error f, s)) ∨
    ∃ (l : Layout) (id : Identity) (s' : Store), compileWith .generated fragments items s =
        (.ok (.evaluator id .generated l.texts l.slots), s') ∧
      compileWith .interpreted fragments items s =
        (.ok (.evaluator id .interpreted l.texts l.slots), s') ∧
      (∀ contexts t, (Callable.evaluator id .generated l.texts l.slots).outcomes contexts t =
        (Callable.evaluator id .interpreted l.texts l.slots).outcomes contexts t) ∧
      l.RunsAlike := by
  cases hp : Layout.prepare fragments items s with
  | error f => exact .inl ⟨f, compileWith_error _ hp, compileWith_error _ hp⟩
  | ok l =>
    refine .inr ⟨l, _, _, compileWith_ok _ hp, compileWith_ok _ hp, fun contexts t => ?_,
      Layout.runsAlike_of_prepare hp⟩
    exact Callable.outcomes_congr (Layout.callWith_eq_of_prepare hp _ _) contexts t

end Stencil
