import Stencil.Call
import Stencil.Proofs.Effects

/-!
Callables that are called one after the other on one context, each for a text. A chain calls its
head and its tail in this way.
-/

namespace Stencil

structure Part where
  before : Text
  callable : Callable

/--
What calling parts in order on a context comes to: the text of all of them, or the fault of the
first call that fails or whose answer has no text, and the store that is left. No part after a fault
is called.
-/
inductive Rendered (context : Value) : List Part → Store → Except Fault Text → Store → Prop
  | nil {s : Store} : Rendered context [] s (.ok []) s
  | raised {p : Part} {parts : List Part} {f : Fault} {s s₁ : Store}
      (call : p.callable.call context s = (.error f, s₁)) :
      Rendered context (p :: parts) s (.error f) s₁
  | unshown {p : Part} {parts : List Part} {v : Value} {f : Fault} {s s₁ s₂ : Store}
      (call : p.callable.call context s = (.ok v, s₁)) (text : v.toText s₁ = (.error f, s₂)) :
      Rendered context (p :: parts) s (.error f) s₂
  | shown {p : Part} {parts : List Part} {v : Value} {t : Text} {rest : Except Fault Text}
      {s s₁ s₂ s₃ : Store} (call : p.callable.call context s = (.ok v, s₁))
      (text : v.toText s₁ = (.ok t, s₂)) (next : Rendered context parts s₂ rest s₃) :
      Rendered context (p :: parts) s (rest.map fun t' => p.before ++ t ++ t') s₃

namespace Callable

def textOn (c : Callable) (context : Value) : Action Text := do
  (← c.call context).toText

end Callable

namespace Part

def textOn (context : Value) : List Part → Action Text
  | [] => return []
  | p :: parts => do
    let t ← p.callable.textOn context
    return p.before ++ t ++ (← textOn context parts)

theorem textOn_append (context : Value) (ps qs : List Part) :
    textOn context (ps ++ qs) =
      (do let t ← textOn context ps
          let t' ← textOn context qs
          pure (t ++ t')) := by
  induction ps with
  | nil => simp [textOn]
  | cons p ps ih =>
    simp only [List.cons_append, textOn, ih, bind_assoc, pure_bind, List.append_assoc]

private theorem rendered_textOn (context : Value) (parts : List Part) (s : Store) :
    Rendered context parts s (textOn context parts s).1 (textOn context parts s).2 := by
  induction parts generalizing s with
  | nil => exact .nil
  | cons p parts ih =>
    unfold textOn Callable.textOn
    rw [bind_assoc]
    rcases hc : p.callable.call context s with ⟨_ | v, s₁⟩
    · rw [Action.bind_error hc]
      exact .raised hc
    rw [Action.bind_ok hc]
    rcases ht : v.toText s₁ with ⟨_ | t, s₂⟩
    · rw [Action.bind_error ht]
      exact .unshown hc ht
    rw [Action.bind_ok ht]
    have hrest := ih s₂
    rcases hr : textOn context parts s₂ with ⟨_ | t', s₃⟩
    · rw [Action.bind_error hr]
      rw [hr] at hrest
      exact .shown hc ht hrest
    · rw [Action.bind_ok hr]
      rw [hr] at hrest
      exact .shown hc ht hrest

/-- The relation is the run. -/
theorem rendered_iff {context : Value} {parts : List Part} {r : Except Fault Text} {s s' : Store} :
    Rendered context parts s r s' ↔ textOn context parts s = (r, s') := by
  constructor
  · intro h
    induction h with
    | nil => rfl
    | raised call =>
      unfold textOn Callable.textOn
      rw [bind_assoc, Action.bind_error call]
    | unshown call text =>
      unfold textOn Callable.textOn
      rw [bind_assoc, Action.bind_ok call, Action.bind_error text]
    | @shown p parts v t rest s s₁ s₂ s₃ call text next ih =>
      unfold textOn Callable.textOn
      rw [bind_assoc, Action.bind_ok call, Action.bind_ok text]
      cases rest with
      | error f => rw [Action.bind_error ih]; rfl
      | ok t' => rw [Action.bind_ok ih]; rfl
  · intro h
    have hrun := rendered_textOn context parts s
    rw [h] at hrun
    exact hrun

end Part

namespace Callable

theorem call_chain (id : Identity) (head tail : Callable) (delimiter : Text) (context : Value) :
    (chain id head delimiter tail).call context =
      (do let t ← head.textOn context
          let t' ← Part.textOn context [⟨delimiter, tail⟩]
          pure (Value.text (t ++ t'))) := by
  have hcall : (chain id head delimiter tail).call context =
      (do let t ← head.textOn context
          let t' ← tail.textOn context
          pure (Value.text (t ++ delimiter ++ t'))) := by
    simp only [textOn, bind_assoc]
    rfl
  rw [hcall]
  simp only [Part.textOn, bind_assoc, pure_bind, List.append_nil, List.append_assoc]

end Callable
end Stencil
