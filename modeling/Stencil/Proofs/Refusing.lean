import Stencil.Proofs.Agreement
import Stencil.Proofs.Asking
import Stencil.Proofs.Gates

/-!
Rendering on a value that is no context. However a compiled template is extended, the check of the
context comes before everything else that a render does: no item, no continuation and no text is
reached, and the store is left as it was.
-/

namespace Stencil

/-- Nothing that comes after the check of a value that is no context is run. -/
private theorem requireStructured_bind_error {α : Type} (nested : NestedCall) (get : Option Value)
    {context : Value} {name : Text} {s : Store} (h : ¬ context.isStructured)
    (hn : context.bareTypeName s = .ok name) (k : Unit → Action α) :
    ((Host.store nested get).requireStructured context >>= k) s =
      (.error (.invalidContext context name), s) := by
  have hname : (Host.store nested get).typeName context s = (.ok name, s) := congrArg (·, s) hn
  refine Action.bind_error ?_
  unfold Host.requireStructured
  rw [if_pos h, Action.bind_ok hname]
  rfl

/-- A callable that fails on whatever is no context, before it changes anything. -/
def Refuses (c : Callable) : Prop :=
  ∀ (nested : NestedCall) (context : Value) (name : Text) (s : Store), ¬ context.isStructured →
    context.bareTypeName s = .ok name →
    c.callWith nested context s = (.error (.invalidContext context name), s)

namespace Refuses

variable {c : Callable}

theorem evaluator (id : Identity) (strategy : Strategy) (fragments : List Text)
    (slots : List Slot) : Refuses (.evaluator id strategy fragments slots) := by
  intro nested context name s hs hn
  obtain ⟨get, bound⟩ := context.total_ownGet? s
  unfold Callable.callWith
  rw [Action.bind_lift_ok bound]
  cases strategy with
  | generated =>
    dsimp only
    unfold Program.run
    rw [bind_assoc]
    exact requireStructured_bind_error nested get hs hn _
  | interpreted =>
    dsimp only
    unfold Fold.run
    rw [bind_assoc]
    exact requireStructured_bind_error nested get hs hn _

theorem template (h : Refuses c) (id : Identity) : Refuses (.template id c) := by
  intro nested context name s hs hn
  unfold Callable.callWith
  exact h nested context name s hs hn

/-- The head of a chain is called before its tail. -/
theorem chain (h : Refuses c) (id : Identity) (d : Text) (tail : Callable) :
    Refuses (.chain id c d tail) := by
  intro nested context name s hs hn
  unfold Callable.callWith
  rw [Action.bind_error (h nested context name s hs hn)]

/-- What is put behind a callable is called after it. -/
theorem extension (h : Refuses c) {allowed : Callable → Prop} {c' : Callable}
    (he : Extension c allowed c') : Refuses c' := by
  cases he with
  | kept template => exact h
  | wrapped => exact h.template _
  | chained _ => exact (h.chain _ _ _).template _

end Refuses

/--
Templates that compiling gives, and what extending them again and again gives. Each step may be
taken in any other store, with any condition, delimiter and continuation; a tag may be called on any
fragments and items.
-/
inductive Built : Callable → Prop
  | compiled {fragments : Value} {items : Option Value} {c : Callable} {s s' : Store}
      (compile : Template.compile fragments items s = (.ok c, s')) : Built c
  | extended {c c' : Callable} {condition continuation : Value} {delimiter : Option Value}
      {s s' : Store} (prior : Built c)
      (extend : Template.extendIf (.callable c) condition delimiter continuation s =
        (.ok (.callable c'), s'))
      (template : c'.isTemplate) : Built c'
  | continued {c c' tag : Callable} {condition continuation fragments : Value}
      {delimiter items : Option Value} {s s' t t' : Store} (prior : Built c)
      (extend : Template.extendIf (.callable c) condition delimiter continuation s =
        (.ok (.callable tag), s'))
      (waits : ¬ tag.isTemplate)
      (apply : (Value.callable tag).callTag fragments items t = (.ok (.callable c'), t')) :
      Built c'

theorem Built.refuses {c : Callable} (h : Built c) : c.isTemplate ∧ Refuses c := by
  induction h with
  | compiled compile =>
    obtain ⟨id, id', strategy, l, -, rfl⟩ := Template.compile_eq_ok compile
    exact ⟨rfl, (Refuses.evaluator id' strategy l.texts l.slots).template id⟩
  | @extended c c' condition continuation delimiter s s' prior extend template ih =>
    rcases Template.extendIf_eq_ok extend with ⟨id, d, hv⟩ | ⟨k, hv, hk⟩
    · -- A tag is no template.
      cases hv
      cases template
    · cases hv
      exact ⟨hk.isTemplate, ih.2.extension hk⟩
  | @continued c c' tag condition continuation fragments delimiter items s s' t t' prior extend
      waits apply ih =>
    rcases Template.extendIf_eq_ok extend with ⟨id, d, hv⟩ | ⟨k, hv, hk⟩
    · cases hv
      unfold Value.callTag at apply
      obtain ⟨k, t₁, hrun, apply⟩ := Action.bind_eq_ok apply
      cases apply
      have hextension := Template.applyTag_eq_ok hrun
      exact ⟨hextension.isTemplate, ih.2.extension hextension⟩
    · cases hv
      exact absurd hk.isTemplate waits

def Callable.storeAfter (c : Callable) (contexts : List Value) (s : Store) : Store :=
  (c.outcomes contexts s).foldl (fun _ outcome => outcome.2) s

theorem Callable.outcomes_append (c : Callable) (before after : List Value) (s : Store) :
    c.outcomes (before ++ after) s =
      c.outcomes before s ++ c.outcomes after (c.storeAfter before s) := by
  induction before generalizing s with
  | nil => rfl
  | cons context before ih =>
    simp only [List.cons_append, outcomes, ih, storeAfter, List.foldl_cons]

/--
A compiled template, however it is extended, fails on a value that is no context, with that value,
and changes nothing; in a run of calls the one on such a value might as well be left out.
-/
theorem built_refuses {c : Callable} (h : Built c) {context : Value}
    (hs : ¬ context.isStructured) :
    (∀ s, ∃ name, context.bareTypeName s = .ok name ∧
      c.call context s = (.error (.invalidContext context name), s)) ∧
    ∀ before after s, ∃ name, c.outcomes (before ++ context :: after) s =
      c.outcomes before s ++ (.error (.invalidContext context name), c.storeAfter before s) ::
        c.outcomes after (c.storeAfter before s) := by
  have hcall : ∀ s, ∃ name, context.bareTypeName s = .ok name ∧
      c.call context s = (.error (.invalidContext context name), s) := by
    intro s
    obtain ⟨name, hn⟩ := context.total_bareTypeName s
    exact ⟨name, hn, h.refuses.2 _ context name s hs hn⟩
  refine ⟨hcall, fun before after s => ?_⟩
  obtain ⟨name, -, hrun⟩ := hcall (c.storeAfter before s)
  refine ⟨name, ?_⟩
  rw [Callable.outcomes_append]
  simp only [Callable.outcomes, hrun]

/-- A compiled template behind which the length of the context was put. -/
def lengthBehind : Callable :=
  .template 3 (.chain 2 (.template 1 (.evaluator 0 .generated ["b"] [])) defaultDelimiter
    (.builtin .length))

theorem built_refuses_number :
    Built lengthBehind ∧ ¬ (Value.int 5).isStructured ∧
      ∃ name, lengthBehind.call (.int 5) fragmentStore =
        (.error (.invalidContext (.int 5) name), fragmentStore) := by
  have hextended : Template.extendIf (.callable (.template 1 (.evaluator 0 .generated ["b"] [])))
      (.bool true) none (.callable (.builtin .length)) { fragmentStore with nextIdentity := 2 } =
        (.ok (.callable lengthBehind), { fragmentStore with nextIdentity := 4 }) := rfl
  have hbuilt : Built lengthBehind := .extended (.compiled compile_fragmentStore) hextended rfl
  have hnumber : ¬ (Value.int 5).isStructured := Bool.false_ne_true
  obtain ⟨name, -, hcall⟩ := (built_refuses hbuilt hnumber).1 fragmentStore
  exact ⟨hbuilt, hnumber, name, hcall⟩

end Stencil
