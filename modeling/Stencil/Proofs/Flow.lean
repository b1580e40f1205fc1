import Stencil.Proofs.Agreement
import Stencil.Proofs.Chaining
import Stencil.Proofs.Lists

/-!
The text of a template as a flow: each fragment, then what the item in its place contributes. What
flows from a template inside another one, or behind another one, can be spliced into one flow.
-/

namespace Stencil

structure Flat where
  fragments : List Fragment
  items : List Value

def fit (n : Nat) (items : List Value) : List Value :=
  items.take n ++ List.replicate (n - items.length) .nothing

@[simp] theorem fit_succ_nil (n : Nat) : fit (n + 1) [] = .nothing :: fit n [] := by
  simp [fit, List.replicate_succ]

@[simp] theorem fit_succ_cons (n : Nat) (v : Value) (vs : List Value) :
    fit (n + 1) (v :: vs) = v :: fit n vs := by
  simp [fit]

@[simp] theorem length_fit (n : Nat) (vs : List Value) : (fit n vs).length = n := by
  simp only [fit, List.length_append, List.length_take, List.length_replicate]
  omega

/-- What an item contributes to the text of a template, in which the `get` of the context is
bound. -/
def Value.contributed (v : Value) (nested : NestedCall) (get : Option Value) (context : Value) :
    Action Text :=
  Fold.contribution (.store nested get) (v.classify.bind nested) context

/-- Items that have no fragment before them are left out. -/
def flow (nested : NestedCall) (get : Option Value) (context : Value) :
    List Fragment → List Value → Action Text
  | [], _ => return []
  | f :: fs, [] => return f.text ++ (← flow nested get context fs [])
  | f :: fs, v :: vs => do
    let t ← v.contributed nested get context
    return f.text ++ t ++ (← flow nested get context fs vs)

section Flow

variable (nested : NestedCall) (get : Option Value) (context : Value)

@[simp] theorem contributed_nothing : Value.nothing.contributed nested get context = pure [] :=
  rfl

@[simp] theorem flow_take (fs : List Fragment) (vs : List Value) :
    flow nested get context fs (vs.take fs.length) = flow nested get context fs vs := by
  induction fs generalizing vs with
  | nil => rfl
  | cons f fs ih =>
    cases vs with
    | nil => rfl
    | cons v vs => simp only [List.length_cons, List.take_succ_cons, flow, ih]

/-- Padding adds nothing. -/
@[simp] theorem flow_fit (fs : List Fragment) (vs : List Value) :
    flow nested get context fs (fit fs.length vs) = flow nested get context fs vs := by
  induction fs generalizing vs with
  | nil => rfl
  | cons f fs ih =>
    cases vs with
    | nil =>
      simp only [List.length_cons, fit_succ_nil, flow, contributed_nothing, pure_bind,
        List.append_nil, ih]
    | cons v vs => simp only [List.length_cons, fit_succ_cons, flow, ih]

theorem flow_append {fs : List Fragment} {vs : List Value} (h : vs.length = fs.length)
    (gs : List Fragment) (ws : List Value) :
    flow nested get context (fs ++ gs) (vs ++ ws) =
      (do let t ← flow nested get context fs vs
          let t' ← flow nested get context gs ws
          pure (t ++ t')) := by
  induction fs generalizing vs with
  | nil =>
    have hv : vs = [] := List.length_eq_zero_iff.mp h
    subst hv
    simp [flow]
  | cons f fs ih =>
    obtain ⟨v, vs, rfl⟩ := List.exists_cons_of_length_eq_add_one h
    have hl : vs.length = fs.length := by simpa using h
    simp only [List.cons_append, flow, ih hl, bind_assoc, pure_bind, List.append_assoc]

/-- What the items contribute one after the other, with the fragments put between them. -/
theorem flow_eq_mapM {fs : List Fragment} {vs : List Value} (h : vs.length ≤ fs.length) :
    flow nested get context fs vs =
      (do let ts ← (bindAll nested (vs.map Value.classify)).mapM
            (Fold.contribution (.store nested get) · context)
          pure (interleave (fs.map Fragment.text) ts)) := by
  induction fs generalizing vs with
  | nil =>
    have hv : vs = [] := List.length_eq_zero_iff.mp (Nat.le_zero.mp h)
    subst hv
    simp [flow, bindAll, interleave]
  | cons f fs ih =>
    cases vs with
    | nil =>
      have hrest := @ih [] (Nat.zero_le fs.length)
      simp only [List.map_nil, bindAll, List.mapM_nil, pure_bind] at hrest
      simp [flow, bindAll, interleave, hrest]
    | cons v vs =>
      have hl : vs.length ≤ fs.length := by simpa using h
      simp only [flow, List.map_cons, bindAll, List.mapM_cons, interleave, ih hl, bind_assoc,
        pure_bind, List.headD_cons, List.tail_cons, Value.contributed]

/-- After each item that is evaluated the context has the `get` that was bound before them. -/
def StaysBound (nested : NestedCall) (get : Option Value) (context : Value) :
    List Fragment → List Value → Store → Prop
  | _ :: fs, v :: vs, s => ∀ t s', v.contributed nested get context s = (.ok t, s') →
      context.ownGet? s' = .ok get ∧ StaysBound nested get context fs vs s'
  | _, _, _ => True

variable {nested get context} {s : Store}

@[simp] theorem staysBound_take_iff {fs : List Fragment} {vs : List Value} :
    StaysBound nested get context fs (vs.take fs.length) s ↔
      StaysBound nested get context fs vs s := by
  induction fs generalizing vs s with
  | nil => exact Iff.rfl
  | cons f fs ih =>
    cases vs with
    | nil => exact Iff.rfl
    | cons v vs => exact forall₃_congr fun t s' hv => and_congr_right fun _ => ih

variable (bound : context.ownGet? s = .ok get)

include bound

/-- Nothing changes nothing, so that padding does not matter. -/
theorem staysBound_fit_iff {fs : List Fragment} {vs : List Value} :
    StaysBound nested get context fs (fit fs.length vs) s ↔
      StaysBound nested get context fs vs s := by
  induction fs generalizing vs s with
  | nil => exact Iff.rfl
  | cons f fs ih =>
    cases vs with
    | nil =>
      rw [List.length_cons, fit_succ_nil]
      refine iff_of_true (fun t s' hv => ?_) trivial
      cases hv
      exact ⟨bound, (ih bound).mpr (by cases fs <;> trivial)⟩
    | cons v vs =>
      rw [List.length_cons, fit_succ_cons]
      exact forall₃_congr fun t s' hv => and_congr_right fun bound' => ih bound'

/-- Items stay bound if those before a place do, and then those behind it. -/
theorem staysBound_append_iff {fs gs : List Fragment} {vs ws : List Value}
    (hl : vs.length = fs.length) :
    StaysBound nested get context (fs ++ gs) (vs ++ ws) s ↔
      StaysBound nested get context fs vs s ∧
        ∀ t s', flow nested get context fs vs s = (.ok t, s') →
          context.ownGet? s' = .ok get ∧ StaysBound nested get context gs ws s' := by
  induction fs generalizing vs s with
  | nil =>
    have hv : vs = [] := List.length_eq_zero_iff.mp hl
    subst hv
    refine ⟨fun h => ⟨trivial, fun t s' hrun => ?_⟩, fun h => (h.2 [] s rfl).2⟩
    cases hrun
    exact ⟨bound, h⟩
  | cons f fs ih =>
    obtain ⟨v, vs, rfl⟩ := List.exists_cons_of_length_eq_add_one hl
    have hrest : vs.length = fs.length := by simpa using hl
    constructor
    · refine fun h => ⟨fun t s' hv => ?_, fun t s' hrun => ?_⟩
      · obtain ⟨bound', h'⟩ := h t s' hv
        exact ⟨bound', ((ih bound' hrest).mp h').1⟩
      · obtain ⟨u, s₁, hv, hrun⟩ := Action.bind_eq_ok hrun
        obtain ⟨bound', h'⟩ := h u s₁ hv
        obtain ⟨t', s₂, hflow, hrun⟩ := Action.bind_eq_ok hrun
        cases hrun
        exact ((ih bound' hrest).mp h').2 t' s' hflow
    · rintro ⟨hfirst, hnext⟩ t s' hv
      obtain ⟨bound', h'⟩ := hfirst t s' hv
      refine ⟨bound', (ih bound' hrest).mpr ⟨h', fun t' s₁ hflow => ?_⟩⟩
      exact hnext (f.text ++ t ++ t') s₁ ((Action.bind_ok hv).trans (Action.bind_ok hflow))

end Flow
end Stencil
