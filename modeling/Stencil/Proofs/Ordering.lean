import Stencil.Proofs.Agreement
import Stencil.Proofs.Asking
import Stencil.Proofs.Lists
import Stencil.Proofs.Recording

/-!
The order in which slots are evaluated. They contribute one after the other, each in the store that
the one before it left, up to the first that raises; what comes after that one is never asked for.
-/

namespace Stencil

/--
What the slot at a position comes to in a store: what it asks for, the text that it contributes or
the fault that it raises, and the store that it leaves. A key is asked for by the `get` that was
bound, and of the context as the store has it by then.
-/
inductive Contributes (get : Option Value) (context : Value) (index : Nat) :
    Slot → Store → List Request → Except Fault Text → Store → Prop
  | absent {s : Store} : Contributes get context index .absent s [] (.ok []) s
  | literal {v : Value} {s s' : Store} {outcome : Except Fault Text}
      (text : v.toText s = (outcome, s')) :
      Contributes get context index (.literal v) s [.text v] outcome s'
  | raised {c : Callable} {f : Fault} {s s' : Store} (call : c.call context s = (.error f, s')) :
      Contributes get context index (.callable c) s [.call index context] (.error f) s'
  | called {c : Callable} {v : Value} {s s₁ s' : Store} {outcome : Except Fault Text}
      (call : c.call context s = (.ok v, s₁)) (text : v.contribution s₁ = (outcome, s')) :
      Contributes get context index (.callable c) s (.call index context :: v.requests) outcome s'
  | unread {k : Key} {f : Fault} {s s' : Store}
      (lookup : context.ask (callWithin callDepth) get (.key k) s = (.error f, s')) :
      Contributes get context index (.key k) s [.lookup context (.key k)] (.error f) s'
  | found {k : Key} {v : Value} {s s₁ s' : Store} {outcome : Except Fault Text}
      (lookup : context.ask (callWithin callDepth) get (.key k) s = (.ok v, s₁))
      (text : v.contribution s₁ = (outcome, s')) :
      Contributes get context index (.key k) s (.lookup context (.key k) :: v.requests) outcome s'

inductive Contributed (get : Option Value) (context : Value) :
    Nat → List Slot → Store → List Request → List Text → Store → Prop
  | nil {index : Nat} {s : Store} : Contributed get context index [] s [] [] s
  | cons {index : Nat} {slot : Slot} {slots : List Slot} {asked requests : List Request}
      {t : Text} {ts : List Text} {s s₁ s' : Store}
      (first : Contributes get context index slot s asked (.ok t) s₁)
      (rest : Contributed get context (index + 1) slots s₁ requests ts s') :
      Contributed get context index (slot :: slots) s (asked ++ requests) (t :: ts) s'

/--
What slots come to, the first of them at a position. Those that are reached are all of them, or
those up to the first that raises.
-/
inductive Evaluated (get : Option Value) (context : Value) (index : Nat) (slots : List Slot)
    (s : Store) :
    (reached : List Slot) → List Request → Except Fault (List Text) → Store → Prop
  | all {requests : List Request} {ts : List Text} {s' : Store}
      (contributed : Contributed get context index slots s requests ts s') :
      Evaluated get context index slots s slots requests (.ok ts) s'
  | upTo {before after : List Slot} {slot : Slot} {requests asked : List Request}
      {ts : List Text} {f : Fault} {s₁ s' : Store} (split : slots = before ++ slot :: after)
      (contributed : Contributed get context index before s requests ts s₁)
      (raises : Contributes get context (index + before.length) slot s₁ asked (.error f) s') :
      Evaluated get context index slots s (before ++ [slot]) (requests ++ asked) (.error f) s'

def callsFrom (context : Value) (index : Nat) : List Slot → List Request
  | [] => []
  | .callable _ :: slots => .call index context :: callsFrom context (index + 1) slots
  | _ :: slots => callsFrom context (index + 1) slots

def Request.isCall : Request → Bool
  | .call _ _ => true
  | _ => false

section Calls

variable {get : Option Value} {context : Value} {index : Nat} {s s' : Store}
  {requests : List Request}

private theorem callsFrom_append (before after : List Slot) :
    callsFrom context index (before ++ after) =
      callsFrom context index before ++ callsFrom context (index + before.length) after := by
  induction before generalizing index with
  | nil => rfl
  | cons slot before ih =>
    have hindex : index + (before.length + 1) = index + 1 + before.length := by omega
    cases slot <;> simp [callsFrom, ih, hindex]

private theorem Value.filter_requests (v : Value) : v.requests.filter Request.isCall = [] := by
  cases v <;> rfl

/-- Only a callable is called, and no more than once. -/
theorem Contributes.calls {slot : Slot} {outcome : Except Fault Text}
    (h : Contributes get context index slot s requests outcome s') :
    requests.filter Request.isCall = callsFrom context index [slot] := by
  cases h with
  | absent | literal _ | raised _ | unread _ => rfl
  | called _ _ => exact congrArg (Request.call index context :: ·) (Value.filter_requests _)
  | found _ _ => exact Value.filter_requests _

theorem Contributed.calls {slots : List Slot} {ts : List Text}
    (h : Contributed get context index slots s requests ts s') :
    requests.filter Request.isCall = callsFrom context index slots := by
  induction h with
  | nil => rfl
  | @cons index slot slots asked requests t ts s s₁ s' first rest ih =>
    rw [List.filter_append, first.calls, ih]
    exact (callsFrom_append [slot] slots).symm

theorem Evaluated.calls {slots reached : List Slot} {outcome : Except Fault (List Text)}
    (h : Evaluated get context index slots s reached requests outcome s') :
    requests.filter Request.isCall = callsFrom context index reached := by
  cases h with
  | all contributed => exact contributed.calls
  | upTo split contributed raises =>
    rw [List.filter_append, contributed.calls, raises.calls, callsFrom_append]

end Calls

theorem Evaluated.cons {get : Option Value} {context : Value} {index : Nat} {slot : Slot}
    {slots reached : List Slot} {asked requests : List Request} {t : Text}
    {outcome : Except Fault (List Text)} {s s₁ s' : Store}
    (first : Contributes get context index slot s asked (.ok t) s₁)
    (h : Evaluated get context (index + 1) slots s₁ reached requests outcome s') :
    Evaluated get context index (slot :: slots) s (slot :: reached) (asked ++ requests)
      (outcome.map (t :: ·)) s' := by
  cases h with
  | all contributed => exact .all (.cons first contributed)
  | @upTo before after next earlier last ts f s₂ s' split contributed raises =>
    -- The position of the slot that raises is counted from the first one, which is now before it.
    have hindex : index + 1 + before.length = index + (slot :: before).length := by
      rw [List.length_cons]
      omega
    rw [hindex] at raises
    rw [← List.append_assoc]
    exact .upTo (congrArg (slot :: ·) split) (.cons first contributed) raises

section Runs

variable (get : Option Value) (context : Value)

private theorem contributes_observed (index : Nat) (slot : Slot) (s : Store) :
    ∃ requests outcome s', Contributes get context index slot s requests outcome s' ∧
      Observed
        (Fold.contribution (Host.store (callWithin callDepth) get).recorded (slot.recorded index)
          context)
        (Fold.contribution (.store (callWithin callDepth) get) (slot.bind (callWithin callDepth))
          context)
        s requests outcome s' := by
  cases slot with
  | absent => exact ⟨_, _, _, .absent, .pure [] s⟩
  | literal v => exact ⟨_, _, _, .literal rfl, .ask _ rfl⟩
  | callable c =>
    rcases hc : c.call context s with ⟨f | v, s₁⟩
    · exact ⟨_, _, _, .raised hc, (Observed.ask _ hc).bind_error⟩
    · refine ⟨_, _, _, .called hc rfl, (Observed.ask _ hc).bind ?_⟩
      rw [Host.contribution_store]
      exact observed_contribution _ _ rfl
  | key k =>
    rcases hk : context.ask (callWithin callDepth) get (.key k) s with ⟨f | v, s₁⟩
    · exact ⟨_, _, _, .unread hk, (Observed.ask _ hk).bind_error⟩
    · refine ⟨_, _, _, .found hk rfl, (Observed.ask _ hk).bind ?_⟩
      rw [Host.contribution_store]
      exact observed_contribution _ _ rfl

/-- By induction on the slots, each run in the store that the contribution before it left. -/
theorem evaluated_observed (index : Nat) (slots : List Slot) (s : Store) :
    ∃ reached requests outcome s', Evaluated get context index slots s reached requests outcome s' ∧
      Observed
        ((recordedFrom index slots).mapM
          (Fold.contribution (Host.store (callWithin callDepth) get).recorded · context))
        ((bindAll (callWithin callDepth) slots).mapM
          (Fold.contribution (.store (callWithin callDepth) get) · context))
        s requests outcome s' := by
  induction slots generalizing index s with
  | nil => exact ⟨_, _, _, _, .all .nil, .pure [] s⟩
  | cons slot slots ih =>
    simp only [recordedFrom, bindAll, List.mapM_cons]
    obtain ⟨asked, outcome, s₁, hslot, hfirst⟩ := contributes_observed get context index slot s
    cases outcome with
    | error f =>
      -- No slot is before this one.
      exact ⟨_, _, _, _, .upTo rfl .nil hslot, hfirst.bind_error⟩
    | ok t =>
      obtain ⟨reached, requests, rest, s', hrest, hnext⟩ := ih (index + 1) s₁
      exact ⟨_, _, _, _, hrest.cons hslot, hfirst.bind (hnext.map (t :: ·))⟩

end Runs

namespace Layout

variable {context : Value} {fragments : Value} {items : Option Value} {l : Layout} {s₀ : Store}

/-- On a structured context both strategies do no more than put the fragments between what the
items contribute. -/
theorem run_structured {m : Type → Type} [Monad m] [LawfulMonad m] [MonadExceptOf Fault m]
    (h : prepare fragments items s₀ = .ok l) (hc : context.isStructured) (host : Host m)
    {bs : List (Bound m)} (hb : bs.map Bound.slot = l.slots) :
    Fold.run host l.texts bs context =
        (do return interleave l.texts (← bs.mapM (Fold.contribution host · context))) ∧
      (Program.ofSlots l.texts l.slots).run host bs context =
        (do return interleave l.texts (← bs.mapM (Fold.contribution host · context))) := by
  have hlen : bs.length ≤ l.texts.length := by
    simpa [← hb] using (prepare_slots h).1
  have hfold := Fold.run_eq host context l.texts bs hlen
  rw [Host.requireStructured_of_isStructured host hc, pure_bind] at hfold
  exact ⟨hfold, (run_eq_of_prepare h host context hb).trans hfold⟩

/-- So that a call of the evaluator, of either strategy, does no more once it has bound the `get` of
the context. -/
theorem call_structured (h : prepare fragments items s₀ = .ok l) (hc : context.isStructured)
    {get : Option Value} {s : Store} (bound : context.ownGet? s = .ok get) (strategy : Strategy)
    (id : Identity) :
    (Callable.evaluator id strategy l.texts l.slots).call context s =
      (do let ts ← (bindAll (callWithin callDepth) l.slots).mapM
            (Fold.contribution (.store (callWithin callDepth) get) · context)
          pure (Value.text (interleave l.texts ts)) : Action Value) s := by
  unfold Callable.call
  rw [callWith_of_prepare h, Action.bind_lift_ok bound,
    Host.requireStructured_of_isStructured _ hc, pure_bind]

theorem observed (h : prepare fragments items s₀ = .ok l) (hc : context.isStructured)
    {get : Option Value} {s s' : Store} {requests : List Request}
    {outcome : Except Fault (List Text)} (bound : context.ownGet? s = .ok get)
    (hitems : Observed
      ((recordedFrom 0 l.slots).mapM
        (Fold.contribution (Host.store (callWithin callDepth) get).recorded · context))
      ((bindAll (callWithin callDepth) l.slots).mapM
        (Fold.contribution (.store (callWithin callDepth) get) · context))
      s requests outcome s') (strategy : Strategy) (id : Identity) :
    Observed (l.recorded strategy (.store (callWithin callDepth) get) context)
      ((Callable.evaluator id strategy l.texts l.slots).call context) s requests
      (outcome.map fun ts => Value.text (interleave l.texts ts)) s' := by
  have hmap := hitems.map fun ts => Value.text (interleave l.texts ts)
  have hrecorded := run_structured h hc (Host.store (callWithin callDepth) get).recorded
    (map_slot_recordedFrom 0 l.slots)
  refine ⟨(call_structured h hc bound strategy id).trans hmap.run, ?_⟩
  cases strategy with
  | generated => simpa only [recorded, hrecorded.2, bind_assoc, pure_bind] using hmap.record
  | interpreted => simpa only [recorded, hrecorded.1, bind_assoc, pure_bind] using hmap.record

end Layout

/--
However the items of a layout answer, its slots are evaluated in order, up to the first that raises.
The callables among those, and nothing else, are called, once each and on the context itself; and
under either strategy the rendering asks for just what they ask for, and gives the fault of the slot
that raises, or the fragments with the contributions between them. The `get` of the context is the
one that it has when the rendering begins.
-/
theorem slots_evaluated_in_order {fragments : Value} {items : Option Value} {s₀ : Store}
    {l : Layout} (h : Layout.prepare fragments items s₀ = .ok l) {context : Value}
    (hc : context.isStructured) (s : Store) :
    ∃ get reached requests outcome s', context.ownGet? s = .ok get ∧
      Evaluated get context 0 l.slots s reached requests outcome s' ∧
      requests.filter Request.isCall = callsFrom context 0 reached ∧
      ∀ strategy id, Observed (l.recorded strategy (.store (callWithin callDepth) get) context)
        ((Callable.evaluator id strategy l.texts l.slots).call context) s requests
        (outcome.map fun ts => Value.text (interleave l.texts ts)) s' := by
  obtain ⟨get, bound⟩ := context.total_ownGet? s
  obtain ⟨reached, requests, outcome, s', hevaluated, hobserved⟩ :=
    evaluated_observed get context 0 l.slots s
  exact ⟨get, reached, requests, outcome, s', bound, hevaluated, hevaluated.calls,
    Layout.observed h hc bound hobserved⟩

/-- Fragments; a routine that sets a key, and the key; the routine; a context without the key. -/
def settingStore : Store :=
  ⟨#[.list [.text "a", .text "b"], .list [.callable (.routine 2), .text "k"],
    .routine ⟨none, .setItem (.text "k") (.text "v")⟩ 0, .mapping .plain []],
    [], #[], 0, .generated, 100⟩

/-- The key is read as the routine before it has set it. -/
theorem slots_evaluated_in_order_setting :
    ∃ (l : Layout) (requests : List Request) (s' : Store),
      Layout.prepare (.object 0) (some (.object 1)) settingStore = .ok l ∧
      Observed (l.recorded .generated (.store (callWithin callDepth) none) (.object 3))
        ((Callable.evaluator 0 .generated l.texts l.slots).call (.object 3)) settingStore requests
        (.ok (.text "abv")) s' ∧
      requests.filter Request.isCall = [.call 0 (.object 3)] := by
  have hfragments : settingStore.IsList (.object 0)
      ([Fragment.plain "a", Fragment.plain "b"].map Fragment.value) := ⟨⟨0, rfl, rfl⟩, nofun⟩
  have hitems : settingStore.IsList (.object 1) [.callable (.routine 2), .text "k"] :=
    ⟨⟨1, rfl, rfl⟩, nofun⟩
  have hprepare := prepare_lists hfragments hitems
  have hstructured : (Value.object 3).isStructured := rfl
  obtain ⟨get, reached, requests, outcome, s', bound, hevaluated, hcalls, hobserved⟩ :=
    slots_evaluated_in_order hprepare hstructured settingStore
  cases bound
  have hrun := hobserved .generated 0
  have hanswer : outcome.map (fun ts => Value.text (interleave ["a", "b"] ts)) =
      .ok (.text "abv") := (congrArg Prod.fst hrun.run).symm.trans rfl
  refine ⟨_, requests, s', hprepare, ?_, ?_⟩
  · exact hanswer ▸ hrun
  · cases hevaluated with
    | all _ => exact hcalls
    | upTo _ _ _ => cases hanswer

end Stencil
