import Stencil.Proofs.Agreement
import Stencil.Proofs.Extending
import Stencil.Proofs.Finding
import Stencil.Proofs.Lists

/-!
What rendering leaves as it was. A template that holds no callables but templates can change a store
only by taking texts, and by asking a context that has a `get` of its own; where that changes
nothing, rendering does not either, and renderings do not disturb one another.
-/

namespace Stencil

variable {α β : Type}

/-- An action that leaves a store as it was, whether it fails there or not. -/
def Action.Keeps (a : Action α) (s : Store) : Prop :=
  (a s).2 = s

namespace Action.Keeps

variable {s : Store}

theorem pure (x : α) (s : Store) : Keeps (pure x) s :=
  rfl

theorem reading (r : Reading α) (s : Store) : Keeps (liftM r : Action α) s :=
  rfl

theorem bind {a : Action α} {f : α → Action β} (first : Keeps a s)
    (next : ∀ x, (a s).1 = .ok x → Keeps (f x) s) : Keeps (a >>= f) s := by
  rcases ha : a s with ⟨f' | x, s'⟩
  · have hs : s' = s := by rw [← first, ha]
    unfold Keeps
    rw [bind_error ha, hs]
  · have hs : s' = s := by rw [← first, ha]
    unfold Keeps
    rw [bind_ok ha, hs]
    exact next x (by rw [ha])

theorem mapM {f : α → Action β} {xs : List α} (h : ∀ x ∈ xs, Keeps (f x) s) :
    Keeps (xs.mapM f) s := by
  induction xs with
  | nil => rw [List.mapM_nil]; exact .pure [] s
  | cons x xs ih =>
    rw [List.mapM_cons]
    have hrest := ih fun y hy => h y (List.mem_cons_of_mem x hy)
    exact .bind (h x List.mem_cons_self) fun _ _ => .bind hrest fun _ _ => .pure _ s

end Action.Keeps

private theorem keeps_requireStructured (nested : NestedCall) (get : Option Value) (context : Value)
    (s : Store) : ((Host.store nested get).requireStructured context).Keeps s := by
  unfold Host.requireStructured
  split
  · exact .bind (.reading context.bareTypeName s) fun _ _ => rfl
  · exact .pure () s

private theorem keeps_contribution {v : Value} {s : Store} (h : v.toText.Keeps s) :
    v.contribution.Keeps s := by
  cases v with
  | nothing => exact .pure [] s
  | _ => exact h

namespace Callable

/-- Callables whose parts are templates and values, down to the last. -/
inductive Closed : Callable → Prop
  | evaluator {id : Identity} {strategy : Strategy} {l : Layout} (prepared : l.Prepared)
      (nested : ∀ c, .callable c ∈ l.slots → Closed c) :
      Closed (.evaluator id strategy l.texts l.slots)
  | template {id : Identity} {body : Callable} (closed : Closed body) : Closed (.template id body)
  | chain {id : Identity} {head tail : Callable} {d : Text} (first : Closed head)
      (second : Closed tail) : Closed (.chain id head d tail)

/-- The wrapped values that a callable has among its items or those of its parts. -/
inductive Inserts (v : Value) : Callable → Prop
  | item {id : Identity} {strategy : Strategy} {fragments : List Text} {slots : List Slot}
      (mem : .literal v ∈ slots) : Inserts v (.evaluator id strategy fragments slots)
  | nested {id : Identity} {strategy : Strategy} {fragments : List Text} {slots : List Slot}
      {c : Callable} (mem : .callable c ∈ slots) (inserts : Inserts v c) :
      Inserts v (.evaluator id strategy fragments slots)
  | template {id : Identity} {body : Callable} (inserts : Inserts v body) :
      Inserts v (.template id body)
  | head {id : Identity} {head tail : Callable} {d : Text} (inserts : Inserts v head) :
      Inserts v (.chain id head d tail)
  | tail {id : Identity} {head tail : Callable} {d : Text} (inserts : Inserts v tail) :
      Inserts v (.chain id head d tail)

/--
Nothing that a callable can show on a context changes the store when its text is taken, and neither
does the `get` of the context, if it has one of its own, when it is called on a key.
-/
structure Calm (c : Callable) (context : Value) (s : Store) : Prop where
  inserted : ∀ v, Inserts v c → v.toText.Keeps s
  asked : ∀ get, context.ownGet? s = .ok (some get) →
    ∀ k, (callWithin callDepth get (.key k)).Keeps s
  found : ∀ k v, (context.lookup (.key k) s).1 = .ok v → v.toText.Keeps s

/-- What a key contributes is asked of the context and then shown. -/
private theorem Calm.keeps_key {c : Callable} {context : Value} {get : Option Value} {s : Store}
    (calm : c.Calm context s) (bound : context.ownGet? s = .ok get) (k : Key) :
    (do let v ← context.ask (callWithin callDepth) get (.key k)
        (Host.store (callWithin callDepth) get).contribution v : Action Text).Keeps s := by
  have hask : (context.ask (callWithin callDepth) get (.key k)).Keeps s := by
    cases get with
    | none => exact .reading (context.typeLookup (.key k)) s
    | some get =>
      rw [Value.ask_some]
      exact calm.asked get bound k
  refine .bind hask fun v hv => ?_
  have hlookup := congrArg Prod.fst (Value.lookup_eq_ask bound (.key k))
  rw [Host.contribution_store]
  exact keeps_contribution (calm.found k v (hlookup.trans hv))

/-- The answer of a closed callable is a text, and getting it leaves the store as it was. -/
theorem Closed.keeps {c : Callable} (h : Closed c) {context : Value} {s : Store}
    (calm : c.Calm context s) :
    ∃ a : Action Text, c.callWith (callWithin callDepth) context = (do return Value.text (← a)) ∧
      a.Keeps s := by
  induction h with
  | @evaluator id strategy l prepared closed ih =>
    obtain ⟨fragments, items, s₀, hprepare⟩ := prepared
    refine ⟨(do let get ← context.ownGet?
                (Host.store (callWithin callDepth) get).requireStructured context
                let ts ← (bindAll (callWithin callDepth) l.slots).mapM
                  (Fold.contribution (.store (callWithin callDepth) get) · context)
                pure (interleave l.texts ts)), ?_, ?_⟩
    · rw [Layout.callWith_of_prepare hprepare]
      simp only [bind_assoc, pure_bind]
    refine .bind (.reading context.ownGet? s) fun get bound => ?_
    have hslots : ∀ b ∈ bindAll (callWithin callDepth) l.slots,
        (Fold.contribution (.store (callWithin callDepth) get) b context).Keeps s := by
      rw [bindAll_eq_map]
      intro b hb
      obtain ⟨slot, hslot, rfl⟩ := List.mem_map.mp hb
      cases slot with
      | absent => exact .pure [] s
      | literal v => exact calm.inserted v (.item hslot)
      | callable c =>
        have hcalm : c.Calm context s :=
          { calm with inserted := fun v hv => calm.inserted v (.nested hslot hv) }
        obtain ⟨a, hcall, ha⟩ := ih c hslot hcalm
        change (c.callWith (callWithin callDepth) context >>=
          (Host.store (callWithin callDepth) get).contribution).Keeps s
        have htext : ∀ t, (Host.store (callWithin callDepth) get).contribution (.text t) = pure t :=
          Value.toText_text
        rw [hcall]
        simp only [bind_assoc, pure_bind, htext, bind_pure]
        exact ha
      | key k => exact calm.keeps_key bound k
    refine .bind (keeps_requireStructured _ get context s) fun _ _ => ?_
    exact .bind (.mapM hslots) fun _ _ => .pure _ s
  | @template id body closed ih =>
    exact ih { calm with inserted := fun v hv => calm.inserted v (.template hv) }
  | @chain id head tail d first second ihHead ihTail =>
    obtain ⟨a, hhead, ha⟩ :=
      ihHead { calm with inserted := fun v hv => calm.inserted v (.head hv) }
    obtain ⟨b, htail, hb⟩ :=
      ihTail { calm with inserted := fun v hv => calm.inserted v (.tail hv) }
    refine ⟨(do let first ← a
                let second ← b
                pure (first ++ d ++ second)), ?_, ?_⟩
    · unfold Callable.callWith
      rw [hhead, htail]
      simp only [bind_assoc, pure_bind, Value.toText_text]
    · exact .bind ha fun _ _ => .bind hb fun _ _ => .pure _ s

theorem Closed.extension {c c' : Callable} (h : Closed c) {allowed : Callable → Prop}
    (hallowed : ∀ k, allowed k → Closed k) (he : Extension c allowed c') : Closed c' := by
  cases he with
  | kept template => exact h
  | wrapped => exact .template h
  | chained continuation => exact .template (.chain h (hallowed _ continuation))

end Callable

/--
Templates that are compiled from items which are no callables but such templates, and what comes of
extending them by one another. Each step may be taken in any store, with any condition and any
delimiter; what is passed to a tag may not compile.
-/
inductive Assembled : Callable → Prop
  | compiled {fragments : Value} {items : Option Value} {id id' : Identity} {strategy : Strategy}
      {texts : List Text} {slots : List Slot} {s s' : Store}
      (compile : Template.compile fragments items s =
        (.ok (.template id (.evaluator id' strategy texts slots)), s'))
      (nested : ∀ c, .callable c ∈ slots → Assembled c) :
      Assembled (.template id (.evaluator id' strategy texts slots))
  | extended {c c' : Callable} {condition continuation : Value} {delimiter : Option Value}
      {s s' : Store} (receiver : Assembled c)
      (passed : ∀ k, delimiter = some (.callable k) ∨ continuation = .callable k → Assembled k)
      (extend : Template.extendIf (.callable c) condition delimiter continuation s =
        (.ok (.callable c'), s'))
      (template : c'.isTemplate) : Assembled c'
  | continued {c c' tag : Callable} {condition fragments : Value} {delimiter items : Option Value}
      {s s' t t' : Store} (receiver : Assembled c)
      (extend : Template.extendIf (.callable c) condition delimiter .nothing s =
        (.ok (.callable tag), s'))
      (waits : ¬ tag.isTemplate)
      (compiled : ∀ k t₁, Template.compile fragments items t = (.ok k, t₁) → Assembled k)
      (apply : (Value.callable tag).callTag fragments items t = (.ok (.callable c'), t')) :
      Assembled c'

theorem Assembled.closed {c : Callable} (h : Assembled c) : c.Closed := by
  induction h with
  | @compiled fragments items id id' strategy texts slots s s' compile nested ih =>
    obtain ⟨_, _, _, l, hprepared, heq⟩ := Template.compile_eq_ok compile
    cases heq
    exact .template (.evaluator hprepared ih)
  | @extended c c' condition continuation delimiter s s' receiver passed extend template ih ihk =>
    rcases Template.extendIf_eq_ok extend with ⟨id, d, hv⟩ | ⟨k, hv, hk⟩
    · cases hv
      cases template
    · cases hv
      exact ih.extension ihk hk
  | @continued c c' tag condition fragments delimiter items s s' t t' receiver extend waits compiled
      apply ih ihk =>
    rcases Template.extendIf_eq_ok extend with ⟨id, d, hv⟩ | ⟨k, hv, hk⟩
    · cases hv
      unfold Value.callTag at apply
      obtain ⟨k, t₁, hrun, apply⟩ := Action.bind_eq_ok apply
      cases apply
      exact ih.extension (fun k hk => ihk k hk.choose hk.choose_spec) (Template.applyTag_eq_ok hrun)
    · cases hv
      exact absurd hk.isTemplate waits

end Stencil
