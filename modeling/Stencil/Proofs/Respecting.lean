import Stencil.Proofs.Extending

/-!
What actions keep of a store, by relations between the store that they are run in and the one that
they leave. Compiling, extending and what a tag does may take a text, make objects and give out
identities, and no more: they call no routine.
-/

namespace Stencil

variable {α β : Type}

/-- Relations that hold where objects are made, identities given out and texts taken. -/
class Passive (R : Store → Store → Prop) : Prop where
  refl : ∀ s, R s s
  trans : ∀ {s s₁ s'}, R s s₁ → R s₁ s' → R s s'
  identity : ∀ s n, R s { s with nextIdentity := n }
  object : ∀ s c, R s { s with cells := s.cells.push c }
  counted : ∀ {s s'}, Counted s s' → R s s'

/-- An action that relates every store that it is run in to the one that it leaves. -/
def Action.Respects (R : Store → Store → Prop) (a : Action α) : Prop :=
  ∀ s, R s (a s).2

namespace Passive

open Stencil.Action

variable {R : Store → Store → Prop} [Passive R] {f : α → Action β} {s : Store}

theorem bind {a : Action α} (first : R s (a s).2) (next : ∀ x, Respects R (f x)) :
    R s ((a >>= f) s).2 := by
  rcases ha : a s with ⟨e | x, s₁⟩
  · rw [ha] at first
    rwa [bind_error ha]
  · rw [ha] at first
    rw [bind_ok ha]
    exact trans first (next x s₁)

/-- What comes after a reading is run in the same store. -/
theorem reading_bind {r : Reading α} (next : ∀ x, R s (f x s).2) :
    R s (((liftM r : Action α) >>= f) s).2 := by
  cases hr : r s with
  | error e =>
    rw [bind_lift_error hr]
    exact refl s
  | ok x =>
    rw [bind_lift_ok hr]
    exact next x

end Passive

namespace Action.Respects

variable {R : Store → Store → Prop} [Passive R]

theorem pure (x : α) : Respects R (pure x) :=
  Passive.refl

theorem throw (f : Fault) : Respects R (throw f : Action α) :=
  Passive.refl

theorem reading (r : Reading α) : Respects R (liftM r : Action α) :=
  Passive.refl

theorem get : Respects R (get : Action Store) :=
  Passive.refl

theorem bind {a : Action α} {f : α → Action β} (first : Respects R a)
    (next : ∀ x, Respects R (f x)) : Respects R (a >>= f) :=
  fun s => Passive.bind (first s) next

omit [Passive R] in
theorem ite {p : Prop} [Decidable p] {a b : Action α} (ha : Respects R a) (hb : Respects R b) :
    Respects R (if p then a else b) := by
  split
  · exact ha
  · exact hb

theorem foldlM {f : β → α → Action β} {xs : List α} (h : ∀ y, ∀ x ∈ xs, Respects R (f y x))
    (y : β) : Respects R (xs.foldlM f y) := by
  induction xs generalizing y with
  | nil => exact .pure y
  | cons x xs ih =>
    rw [List.foldlM_cons]
    exact .bind (h y x List.mem_cons_self) (ih fun y x hx => h y x (List.mem_cons_of_mem _ hx))

theorem newIdentity : Respects R newIdentity :=
  fun s => Passive.identity s _

theorem newObject (c : Cell) : Respects R (newObject c) :=
  fun s => Passive.object s c

theorem toText (v : Value) : Respects R v.toText :=
  fun s => Passive.counted (v.counted_toText s)

end Action.Respects

namespace Template

open Stencil.Action (Respects)

variable {R : Store → Store → Prop} [Passive R]

theorem respects_wrap (c : Callable) : Respects R (wrap c) :=
  .bind .newIdentity fun _ => .pure _

theorem respects_compileEvaluator (fragments : Value) (items : Option Value) :
    Respects R (compileEvaluator fragments items) := by
  refine .bind .get fun s => ?_
  refine .bind (.reading (Layout.prepare fragments items)) fun l => ?_
  exact .bind .newIdentity fun _ => .pure _

theorem respects_compile (fragments : Value) (items : Option Value) :
    Respects R (compile fragments items) := by
  have hplain : ∀ fs is, Respects R (compileEvaluator fs is >>= wrap) :=
    fun fs is => .bind (respects_compileEvaluator fs is) respects_wrap
  refine .bind (.reading (isTemplateString fragments)) fun isTemplateString => ?_
  cases isTemplateString with
  | false => exact hplain fragments items
  | true =>
    refine .bind (.reading (hasItems items)) fun given => ?_
    cases given with
    | true => exact .throw _
    | false =>
      refine .bind (.reading (fragments.getAttribute "interpolations")) fun parts => ?_
      refine .bind (.reading (interpolatedParts parts)) fun members => ?_
      refine .bind (.reading (interpolatedValues members)) fun values => ?_
      refine .bind (.newObject (.tuple values)) fun is => ?_
      exact .bind (.reading (fragments.getAttribute "strings")) fun fs => hplain fs (some is)

theorem respects_unextended (c : Callable) : Respects R (unextended c) := by
  unfold unextended ofValue
  split
  · exact .pure _
  · exact respects_wrap _
  · exact .bind (.reading _) fun _ => .throw _

theorem respects_extend (c : Callable) (d : Text) (k : Callable) : Respects R (extend c d k) :=
  .bind .newIdentity fun _ => respects_wrap _

theorem respects_arguments (delimiter : Option Value) (continuation : Value) :
    Respects R (arguments delimiter continuation) := by
  unfold arguments
  split
  · exact .pure _
  · exact .pure _
  · exact .pure _
  · exact .bind (.toText _) fun _ => .pure _

theorem respects_extendIf (receiver condition : Value) (delimiter : Option Value)
    (continuation : Value) : Respects R (extendIf receiver condition delimiter continuation) := by
  unfold extendIf
  split
  · refine .bind (respects_arguments delimiter continuation) fun meant => ?_
    dsimp only
    split
    · exact .bind .newIdentity fun _ => .pure _
    · refine .bind (.reading condition.isTrue) fun holds => ?_
      split
      · exact .bind (respects_extend _ _ _) fun _ => .pure _
      · exact .bind (respects_unextended _) fun _ => .pure _
    · exact .bind (.reading _) fun _ => .throw _
  · exact .bind (.reading _) fun _ => .throw _

theorem respects_applyTag (c : Callable) (condition : Value) (d : Text) (fragments : Value)
    (items : Option Value) : Respects R (applyTag c condition d fragments items) := by
  refine .bind (.reading condition.isTrue) fun holds => ?_
  split
  · exact .bind (respects_compile fragments items) fun k => respects_extend c d k
  · exact respects_unextended c

end Template

/-- No routine was called between two stores: a call counts, and may be logged. -/
structure Uncalled (s s' : Store) : Prop where
  log : s'.log = s.log
  routines : ∀ a r n, s.cells.getD a (.tuple []) = .routine r n →
    s'.cells.getD a (.tuple []) = .routine r n

theorem Counted.uncalled {s s' : Store} (h : Counted s s') : Uncalled s s' := by
  constructor
  · cases h <;> rfl
  · intro a r n hr
    rcases h.cell a with heq | ⟨taken, hs, -⟩
    · exact heq.trans hr
    · rw [hr] at hs
      cases hs

/-- A new object is put where nothing was. -/
theorem uncalled_push (s : Store) (c : Cell) : Uncalled s { s with cells := s.cells.push c } := by
  refine ⟨rfl, fun a r n hr => ?_⟩
  by_cases ha : a < s.cells.size
  · rw [← hr]
    simp [Array.getD, ha, Array.getElem_push, Nat.lt_succ_of_lt ha]
  · simp [Array.getD, ha] at hr

instance : Passive Uncalled where
  refl _ := ⟨rfl, fun _ _ _ h => h⟩
  trans h h' := ⟨h'.log.trans h.log, fun a r n hr => h'.routines a r n (h.routines a r n hr)⟩
  identity _ _ := ⟨rfl, fun _ _ _ h => h⟩
  object := uncalled_push
  counted := Counted.uncalled

end Stencil
