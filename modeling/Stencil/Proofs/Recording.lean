import Stencil.Call
import Stencil.Proofs.Rendering
import Stencil.Proofs.Effects

/-!
Renderings that keep a record. What a running template asks of the world, and which of its items it
calls, is recorded in order beside the store; without the record it is the rendering of every call.
-/

namespace Stencil

/-- What a running template asks of the world, or the call of its item at a position. -/
inductive Request
  | typeName (v : Value)
  | lookup (context key : Value)
  | text (v : Value)
  | call (index : Nat) (context : Value)

/-- Actions beside which a record of requests is kept. -/
abbrev Recorded (α : Type) := ExceptT Fault (StateM (List Request × Store)) α

variable {α β : Type}

def Recorded.ask (request : Request) (answer : Action α) : Recorded α :=
  fun (record, s) => ((answer s).1, record ++ [request], (answer s).2)

def Host.recorded (host : Host Action) : Host Recorded where
  typeName v := .ask (.typeName v) (host.typeName v)
  lookup context key := .ask (.lookup context key) (host.lookup context key)
  text v := .ask (.text v) (host.text v)

def Slot.recorded (index : Nat) (slot : Slot) : Bound Recorded where
  slot := slot
  call context := .ask (.call index context) ((slot.bind (callWithin callDepth)).call context)

def recordedFrom (index : Nat) : List Slot → List (Bound Recorded)
  | [] => []
  | slot :: slots => slot.recorded index :: recordedFrom (index + 1) slots

@[simp] theorem map_slot_recordedFrom (index : Nat) (slots : List Slot) :
    (recordedFrom index slots).map Bound.slot = slots := by
  induction slots generalizing index with
  | nil => rfl
  | cons slot slots ih => simp only [recordedFrom, List.map_cons, ih, Slot.recorded]

def Layout.recorded (l : Layout) (strategy : Strategy) (host : Host Action) (context : Value) :
    Recorded Value := do
  let items := recordedFrom 0 l.slots
  match strategy with
  | .generated =>
    return .text (← (Program.ofSlots l.texts l.slots).run host.recorded items context)
  | .interpreted => return .text (← Fold.run host.recorded l.texts items context)

/--
Run in a store, an action and the recorded form of it come to the same outcome and leave the same
store, and the latter has added the requests to the record.
-/
structure Observed (recorded : Recorded α) (action : Action α) (s : Store)
    (requests : List Request) (outcome : Except Fault α) (s' : Store) : Prop where
  run : action s = (outcome, s')
  record : ∀ record, recorded (record, s) = (outcome, record ++ requests, s')

namespace Observed

variable {r : Recorded α} {a : Action α} {s s₁ s' : Store} {requests : List Request}

theorem pure (x : α) (s : Store) : Observed (pure x) (pure x) s [] (.ok x) s :=
  ⟨rfl, fun record => by rw [List.append_nil]; rfl⟩

theorem ask {outcome : Except Fault α} (request : Request) (h : a s = (outcome, s')) :
    Observed (.ask request a) a s [request] outcome s' :=
  ⟨h, fun record => by unfold Recorded.ask; dsimp only; rw [h]⟩

theorem bind {f : α → Recorded β} {g : α → Action β} {x : α} {more : List Request}
    {outcome : Except Fault β} (first : Observed r a s requests (.ok x) s₁)
    (next : Observed (f x) (g x) s₁ more outcome s') :
    Observed (r >>= f) (a >>= g) s (requests ++ more) outcome s' where
  run := (Action.bind_ok first.run).trans next.run
  record record := by
    rw [Action.bind_ok (first.record record), next.record, List.append_assoc]

/-- Nothing is asked for after a fault. -/
theorem bind_error {f : α → Recorded β} {g : α → Action β} {e : Fault}
    (first : Observed r a s requests (.error e) s') :
    Observed (r >>= f) (a >>= g) s requests (.error e) s' where
  run := Action.bind_error first.run
  record record := Action.bind_error (first.record record)

theorem map {outcome : Except Fault α} (f : α → β)
    (h : Observed r a s requests outcome s') :
    Observed (do return f (← r)) (do return f (← a)) s requests (outcome.map f) s' := by
  cases outcome with
  | error e => exact h.bind_error
  | ok x =>
    have hbind := h.bind (f := fun x => Pure.pure (f x)) (g := fun x => Pure.pure (f x))
      (.pure (f x) s')
    rwa [List.append_nil] at hbind

end Observed

/-- What is asked for the text that a value contributes: for that of nothing, nothing. -/
def Value.requests : Value → List Request
  | .nothing => []
  | v => [.text v]

theorem observed_contribution (nested : NestedCall) (get : Option Value) {v : Value} {s s' : Store}
    {outcome : Except Fault Text} (h : v.contribution s = (outcome, s')) :
    Observed ((Host.store nested get).recorded.contribution v) v.contribution s v.requests
      outcome s' := by
  by_cases hv : v = .nothing
  · subst hv
    cases h
    exact .pure [] s
  · have hrequests : v.requests = [.text v] := by
      cases v <;> simp_all [Value.requests]
    have hrecorded : (Host.store nested get).recorded.contribution v =
        .ask (.text v) v.contribution := by
      cases v <;> first | exact absurd rfl hv | rfl
    rw [hrequests, hrecorded]
    exact .ask _ h

end Stencil
