import Stencil.Proofs.Extending
import Stencil.Proofs.Flow
import Stencil.Proofs.Framing

/-!
Templates inside and behind one another. Every composition of templates answers as one template
does, whose fragments and items are those of the parts, put side by side. The parts ask the context
what it has for a `get` each on their own, so that no item may replace that on the way.
-/

namespace Stencil

/-- What compiling lists of the fragments and the items of a template gives in some store. -/
def Compiled (t : Flat) (r : Except Fault Callable) : Prop :=
  ∃ (s : Store) (fs is : Value), s.IsList fs (t.fragments.map Fragment.value) ∧
    s.IsList is t.items ∧ r = (Template.compile fs (some is) s).1

/--
A callable whose answers are those of a template, as long as the context stays bound: it checks the
context, then the text flows.
-/
def Renders (c : Callable) (t : Flat) : Prop :=
  ∀ nested get context s, context.ownGet? s = .ok get →
    (context.isStructured → StaysBound nested get context t.fragments t.items s) →
      c.callWith nested context s =
        (do (Host.store nested get).requireStructured context
            let text ← flow nested get context t.fragments t.items
            pure (Value.text text) : Action Value) s

/-- What comes after the check of a context may rely on it. -/
private theorem requireStructured_bind_congr {α : Type} {context : Value} (nested : NestedCall)
    (get : Option Value) {k k' : Unit → Action α} {s : Store}
    (h : context.isStructured → k () s = k' () s) :
    ((Host.store nested get).requireStructured context >>= k) s =
      ((Host.store nested get).requireStructured context >>= k') s := by
  by_cases hs : context.isStructured
  · rw [Host.requireStructured_of_isStructured _ hs, pure_bind, pure_bind, h hs]
  · unfold Host.requireStructured
    rw [if_pos hs]
    simp only [bind_assoc]
    rfl

namespace Renders

variable {c : Callable} {t : Flat} {nested : NestedCall} {get : Option Value} {context : Value}
  {s : Store}

theorem callWith_structured (h : Renders c t) (hs : context.isStructured)
    (bound : context.ownGet? s = .ok get)
    (stays : StaysBound nested get context t.fragments t.items s) :
    c.callWith nested context s =
      (do let text ← flow nested get context t.fragments t.items
          pure (Value.text text) : Action Value) s := by
  rw [h nested get context s bound fun _ => stays, Host.requireStructured_of_isStructured _ hs,
    pure_bind]

/-- Templates whose texts flow alike on every context that passes the check. -/
theorem congr {u : Flat} (h : Renders c t)
    (hflow : ∀ {nested get context s}, context.isStructured → context.ownGet? s = .ok get →
      StaysBound nested get context u.fragments u.items s →
        StaysBound nested get context t.fragments t.items s ∧
          flow nested get context t.fragments t.items s =
            flow nested get context u.fragments u.items s) :
    Renders c u := by
  intro nested get context s bound stays
  refine (h nested get context s bound fun hs => (hflow hs bound (stays hs)).1).trans ?_
  refine requireStructured_bind_congr nested get fun hs => ?_
  exact Action.bind_congr_at (hflow hs bound (stays hs)).2 fun _ _ _ => rfl

/-- The item that is a template contributes what flows from it. -/
theorem contributed (h : Renders c t) (hs : context.isStructured)
    (bound : context.ownGet? s = .ok get)
    (stays : StaysBound nested get context t.fragments t.items s) :
    (Value.callable c).contributed nested get context s =
      flow nested get context t.fragments t.items s := by
  change (c.callWith nested context >>= (Host.store nested get).contribution) s = _
  have htext : ∀ text, (Host.store nested get).contribution (Value.text text) = pure text :=
    Value.toText_text
  rw [Action.bind_congr_at (h.callWith_structured hs bound stays) fun _ _ _ => rfl]
  simp only [bind_assoc, pure_bind, htext, bind_pure]

end Renders

/-- Whichever strategy compiles them, lists become a callable that renders the template. -/
theorem Compiled.renders {t : Flat} {r : Except Fault Callable} (h : Compiled t r) :
    ∃ c, r = .ok c ∧ Renders c t := by
  obtain ⟨s, fs, is, hf, hi, rfl⟩ := h
  rw [compile_lists hf hi]
  have hprepare := prepare_lists hf hi
  have hitems : (t.items.take t.fragments.length).length ≤ t.fragments.length :=
    List.length_take_le _ _
  refine ⟨_, rfl, fun nested get context s' bound _ => ?_⟩
  have hcall := Layout.callWith_of_prepare hprepare s.strategy s.nextIdentity nested context
  refine (congrFun hcall s').trans ?_
  rw [Action.bind_lift_ok bound, ← flow_take, flow_eq_mapM nested get context hitems]
  simp only [bind_assoc, pure_bind]
  rfl

/-- An item of a composition: a value, or the composition of a template. -/
inductive Item
  | plain (v : Value)
  | nested (v : Value) (t : Flat)

def Item.value : Item → Value
  | .plain v => v
  | .nested v _ => v

namespace Flat

/-- A template with the templates among its items put in their places. -/
def ofItems : List Fragment → List Item → Flat
  | [], _ => ⟨[], []⟩
  | f :: fs, [] => ⟨f :: fs, []⟩
  | f :: fs, .plain v :: items =>
    let rest := ofItems fs items
    ⟨f :: rest.fragments, v :: rest.items⟩
  | f :: fs, .nested _ t :: items =>
    let rest := ofItems fs items
    ⟨f :: t.fragments ++ rest.fragments, .nothing :: fit t.fragments.length t.items ++ rest.items⟩

private theorem ofItems_plain (fs : List Fragment) (vs : List Value) :
    ofItems fs (vs.map .plain) = ⟨fs, vs.take fs.length⟩ := by
  induction fs generalizing vs with
  | nil => rfl
  | cons f fs ih =>
    cases vs with
    | nil => rfl
    | cons v vs => simp only [List.map_cons, ofItems, ih, List.length_cons, List.take_succ_cons]

/-- One template among items that are none. -/
theorem ofItems_nested {f₁ : List Fragment} {i₁ : List Value} (h : f₁.length = i₁.length + 1)
    (f₂ : List Fragment) (i₂ : List Value) (v : Value) (t : Flat) :
    ofItems (f₁ ++ f₂) (i₁.map .plain ++ .nested v t :: i₂.map .plain) =
      ⟨f₁ ++ t.fragments ++ f₂, i₁ ++ [.nothing] ++ fit t.fragments.length t.items ++
        i₂.take f₂.length⟩ := by
  induction i₁ generalizing f₁ with
  | nil =>
    obtain ⟨f, rfl⟩ := List.length_eq_one_iff.mp h
    simp [ofItems, ofItems_plain]
  | cons w i₁ ih =>
    obtain ⟨f, f₁, rfl⟩ := List.exists_cons_of_length_eq_add_one h
    have hrest : f₁.length = i₁.length + 1 := by simpa using h
    simp [ofItems, ih hrest]

/-- Two templates with a delimiter between them. -/
def join (t : Flat) (d : Text) (u : Flat) : Flat :=
  ⟨t.fragments ++ [.plain d] ++ u.fragments,
    fit t.fragments.length t.items ++ [.nothing] ++ u.items⟩

end Flat

def Item.Sound (items : List Item) : Prop :=
  ∀ v t, Item.nested v t ∈ items → ∃ c, v = .callable c ∧ Renders c t

/-- By induction on the fragments: a template among the items contributes what flows from it. -/
theorem flow_ofItems {nested : NestedCall} {get : Option Value} {context : Value} {s : Store}
    (hs : context.isStructured) (fs : List Fragment) {items : List Item}
    (h : Item.Sound items) (bound : context.ownGet? s = .ok get)
    (stays : StaysBound nested get context (Flat.ofItems fs items).fragments
      (Flat.ofItems fs items).items s) :
    StaysBound nested get context fs (items.map Item.value) s ∧
      flow nested get context fs (items.map Item.value) s =
        flow nested get context (Flat.ofItems fs items).fragments
          (Flat.ofItems fs items).items s := by
  induction fs generalizing items s with
  | nil => exact ⟨trivial, rfl⟩
  | cons f fs ih =>
    cases items with
    | nil => exact ⟨trivial, rfl⟩
    | cons item items =>
      have hsound : Item.Sound items := fun v t hv => h v t (List.mem_cons_of_mem item hv)
      cases item with
      | plain v =>
        have hrest := fun t s' hv => ih hsound (stays t s' hv).1 (stays t s' hv).2
        refine ⟨fun t s' hv => ⟨(stays t s' hv).1, (hrest t s' hv).1⟩, ?_⟩
        exact Action.bind_congr_at rfl fun t s' hv =>
          Action.bind_congr_at (hrest t s' hv).2 fun _ _ _ => rfl
      | nested v t =>
        obtain ⟨c, rfl, hc⟩ := h v t List.mem_cons_self
        have hlength : (fit t.fragments.length t.items).length = t.fragments.length :=
          length_fit _ _
        obtain ⟨staysNested, hnext⟩ := (staysBound_append_iff bound hlength).mp (stays [] s rfl).2
        have hnested := hc.contributed hs bound ((staysBound_fit_iff bound).mp staysNested)
        rw [flow_fit] at hnext
        have hrest := fun t' s' hv => ih hsound (hnext t' s' hv).1 (hnext t' s' hv).2
        refine ⟨fun t' s' hv => ?_, ?_⟩
        · have hv' := hnested.symm.trans hv
          exact ⟨(hnext t' s' hv').1, (hrest t' s' hv').1⟩
        · simp only [flow, Flat.ofItems, List.cons_append, contributed_nothing, pure_bind,
            flow_append nested get context hlength, flow_fit, bind_assoc]
          refine Action.bind_congr_at hnested fun t' s' hv => ?_
          rw [Action.bind_congr_at (hrest t' s' hv).2 fun _ _ _ => rfl]
          simp only [List.append_assoc, List.nil_append]

theorem flow_join (nested : NestedCall) (get : Option Value) (context : Value) (t u : Flat)
    (d : Text) :
    flow nested get context (t.join d u).fragments (t.join d u).items =
      (do let first ← flow nested get context t.fragments t.items
          let second ← flow nested get context u.fragments u.items
          pure (first ++ d ++ second)) := by
  have hfit : (fit t.fragments.length t.items).length = t.fragments.length := length_fit _ _
  have hdelimited : (fit t.fragments.length t.items ++ [Value.nothing]).length =
      (t.fragments ++ [Fragment.plain d]).length := by
    simp
  have hdelimiter : flow nested get context [.plain d] [.nothing] = pure d := by
    simp only [flow, contributed_nothing, pure_bind, List.append_nil, Fragment.text]
  simp only [Flat.join, flow_append nested get context hdelimited,
    flow_append nested get context hfit, flow_fit, hdelimiter, bind_assoc, pure_bind]

/-- Joined templates stay bound if each does, the second one from where the first one ends. -/
theorem staysBound_join_iff {nested : NestedCall} {get : Option Value} {context : Value}
    {s : Store} (bound : context.ownGet? s = .ok get) (t u : Flat) (d : Text) :
    StaysBound nested get context (t.join d u).fragments (t.join d u).items s ↔
      StaysBound nested get context t.fragments t.items s ∧
        ∀ x s', flow nested get context t.fragments t.items s = (.ok x, s') →
          context.ownGet? s' = .ok get ∧
            StaysBound nested get context u.fragments u.items s' := by
  have hfit : (fit t.fragments.length t.items).length = t.fragments.length := length_fit _ _
  have hdelimited : (fit t.fragments.length t.items ++ [Value.nothing]).length =
      (t.fragments ++ [Fragment.plain d]).length := by
    simp
  have hdelimiter : ∀ s', context.ownGet? s' = .ok get →
      StaysBound nested get context [.plain d] [.nothing] s' := by
    intro s' bound' x s₁ hv
    cases hv
    exact ⟨bound', trivial⟩
  have hflow : flow nested get context (t.fragments ++ [.plain d])
      (fit t.fragments.length t.items ++ [.nothing]) =
        (do let first ← flow nested get context t.fragments t.items
            pure (first ++ d)) := by
    rw [flow_append nested get context hfit, flow_fit]
    simp only [flow, contributed_nothing, pure_bind, List.append_nil, Fragment.text]
  simp only [Flat.join, staysBound_append_iff bound hdelimited, staysBound_append_iff bound hfit,
    staysBound_fit_iff bound, flow_fit, hflow]
  constructor
  · rintro ⟨⟨hfirst, -⟩, hnext⟩
    exact ⟨hfirst, fun x s' hrun => hnext _ s' (Action.bind_ok hrun)⟩
  · rintro ⟨hfirst, hnext⟩
    refine ⟨⟨hfirst, fun x s' hrun => ?_⟩, fun x s' hrun => ?_⟩
    · exact ⟨(hnext x s' hrun).1, hdelimiter s' (hnext x s' hrun).1⟩
    · obtain ⟨first, s₁, hfirst, hrun⟩ := Action.bind_eq_ok hrun
      cases hrun
      exact hnext first s' hfirst

theorem Renders.chain {c k : Callable} {t u : Flat} (hc : Renders c t) (hk : Renders k u)
    (id id' : Identity) (d : Text) :
    Renders (.template id' (.chain id c d k)) (t.join d u) := by
  intro nested get context s bound stays
  have hjoin := fun hs => (staysBound_join_iff bound t u d).mp (stays hs)
  have hhead := hc nested get context s bound fun hs => (hjoin hs).1
  change (do
    let first ← (← c.callWith nested context).toText
    let second ← (← k.callWith nested context).toText
    return Value.text (first ++ d ++ second) : Action Value) s = _
  rw [Action.bind_congr_at hhead fun _ _ _ => rfl]
  simp only [bind_assoc]
  refine requireStructured_bind_congr nested get fun hs => ?_
  simp only [pure_bind, Value.toText_text, flow_join, bind_assoc]
  refine Action.bind_congr_at rfl fun first s' hrun => ?_
  obtain ⟨bound', stays'⟩ := (hjoin hs).2 first s' hrun
  rw [Action.bind_congr_at (hk.callWith_structured hs bound' stays') fun _ _ _ => rfl]
  simp only [bind_assoc, pure_bind, Value.toText_text]

/-! ## Compositions -/

/-- What passing lists to the tag of a conditional extension gives, if the condition holds. -/
def Continued (v condition : Value) (d : Text) (t : Flat) (r : Except Fault Value) : Prop :=
  ∃ (s u : Store) (fs is : Value), u.IsList fs (t.fragments.map Fragment.value) ∧
    u.IsList is t.items ∧ condition.isTrue s = .ok true ∧ condition.isTrue u = .ok true ∧
    r = (do let tag ← (Template.extendIf v condition (some (.text d)) .nothing s).1
            (tag.callTag fs (some is) u).1)

/--
What composing templates gives, with the one template that it is to be like. A composition is
compiled with compositions among its items, or put behind another one by a condition that holds. The
store may be any other one at each step.
-/
inductive Composed : Flat → Except Fault Value → Prop
  | compiled {fragments : List Fragment} {items : List Item} {r : Except Fault Callable}
      (nested : ∀ v t, Item.nested v t ∈ items → Composed t (.ok v))
      (compile : Compiled ⟨fragments, items.map Item.value⟩ r) :
      Composed (.ofItems fragments items) (r.map Value.callable)
  | chained {t u : Flat} {v w condition : Value} {d : Text} {s : Store}
      (head : Composed t (.ok v)) (tail : Composed u (.ok w))
      (truth : condition.isTrue s = .ok true) :
      Composed (t.join d u) (Template.extendIf v condition (some (.text d)) w s).1
  | continued {t : Flat} {v condition : Value} {d : Text} {fragments : List Fragment}
      {items : List Item} {r : Except Fault Value} (head : Composed t (.ok v))
      (nested : ∀ v t, Item.nested v t ∈ items → Composed t (.ok v))
      (tail : Continued v condition d ⟨fragments, items.map Item.value⟩ r) :
      Composed (t.join d (.ofItems fragments items)) r

theorem Renders.ofItems {c : Callable} {fragments : List Fragment} {items : List Item}
    (h : Renders c ⟨fragments, items.map Item.value⟩) (hi : Item.Sound items) :
    Renders c (.ofItems fragments items) :=
  h.congr fun hs bound stays => flow_ofItems hs fragments hi bound stays

/-- An item that is a template may be put in its place, whatever stands before and behind it. -/
theorem Renders.nested {c n : Callable} {f₁ f₂ f : List Fragment} {i₁ i₂ i : List Value}
    (hn : Renders n ⟨f₁ ++ f₂, i₁ ++ [.callable c] ++ i₂⟩) (hc : Renders c ⟨f, i⟩)
    (hl : f₁.length = i₁.length + 1) :
    Renders n ⟨f₁ ++ f ++ f₂, i₁ ++ [.nothing] ++ fit f.length i ++ i₂⟩ := by
  let items := i₁.map Item.plain ++ .nested (.callable c) ⟨f, i⟩ :: i₂.map Item.plain
  have hvalues : items.map Item.value = i₁ ++ [.callable c] ++ i₂ := by
    simp [items, Item.value, Function.comp_def]
  have hsound : Item.Sound items := by
    intro v t hv
    simp only [items, List.mem_append, List.mem_map, List.mem_cons, reduceCtorEq, and_false,
      exists_false, or_false, false_or, Item.nested.injEq] at hv
    obtain ⟨rfl, rfl⟩ := hv
    exact ⟨c, rfl, hc⟩
  have hflat : Renders n (.ofItems (f₁ ++ f₂) items) := .ofItems (hvalues.symm ▸ hn) hsound
  rw [Flat.ofItems_nested hl] at hflat
  -- Items behind the last fragment are cut, which changes nothing.
  have hlength : (f₁ ++ f ++ f₂).length =
      (i₁ ++ [Value.nothing] ++ fit f.length i).length + f₂.length := by
    simp [hl]
    omega
  have htake : (i₁ ++ [Value.nothing] ++ fit f.length i ++ i₂).take (f₁ ++ f ++ f₂).length =
      i₁ ++ [Value.nothing] ++ fit f.length i ++ i₂.take f₂.length := by
    rw [hlength, List.take_length_add_append]
  refine hflat.congr fun _ _ stays => ?_
  rw [← htake]
  exact ⟨staysBound_take_iff.mpr stays, congrFun (flow_take _ _ _ _ _) _⟩

theorem Renders.extendIf {c k : Callable} {t u : Flat} (hc : Renders c t) (hk : Renders k u)
    {condition : Value} {s : Store} (truth : condition.isTrue s = .ok true) (d : Text) :
    ∃ c', (Template.extendIf (.callable c) condition (some (.text d)) (.callable k) s).1 =
      .ok (.callable c') ∧ Renders c' (t.join d u) := by
  rw [Template.extendIf_ready (text_ne_callable d) (delimiterText_text d s)]
  unfold Template.extendBy
  rw [Action.bind_lift_ok truth, if_pos rfl]
  exact ⟨_, rfl, hc.chain hk s.nextIdentity (s.nextIdentity + 1) d⟩

theorem Renders.continued {c : Callable} {t u : Flat} {condition : Value} {d : Text}
    {r : Except Fault Value} (hc : Renders c t) (h : Continued (.callable c) condition d u r) :
    ∃ c', r = .ok (.callable c') ∧ Renders c' (t.join d u) := by
  obtain ⟨s, s', fs, is, hf, hi, truth, truth', rfl⟩ := h
  obtain ⟨k, hk, hrenders⟩ := Compiled.renders ⟨s', fs, is, hf, hi, rfl⟩
  obtain ⟨u', hcompile⟩ : ∃ u', Template.compile fs (some is) s' = (.ok k, u') :=
    ⟨_, Action.eq_of_fst hk⟩
  have htag : Template.applyTag c condition d fs (some is) s' = _ :=
    (Template.applyTag_true truth' hcompile d).trans (Template.extend_ok d k u')
  rw [Template.extendIf_tag (text_ne_callable d) (delimiterText_text d s) condition]
  refine ⟨_, ?_, hc.chain hrenders u'.nextIdentity (u'.nextIdentity + 1) d⟩
  exact congrArg Prod.fst (Action.bind_ok htag (f := fun c' => pure (Value.callable c')))

/-- Compositions behind a delimiter may be put in their places there. -/
theorem Renders.join_ofItems {c : Callable} {t : Flat} {d : Text} {fragments : List Fragment}
    {items : List Item} (h : Renders c (t.join d ⟨fragments, items.map Item.value⟩))
    (hi : Item.Sound items) : Renders c (t.join d (.ofItems fragments items)) := by
  refine h.congr fun hs bound stays => ?_
  obtain ⟨hfirst, hnext⟩ := (staysBound_join_iff bound _ _ _).mp stays
  have hrest := fun x s' hrun =>
    flow_ofItems hs fragments hi (hnext x s' hrun).1 (hnext x s' hrun).2
  constructor
  · rw [staysBound_join_iff bound]
    exact ⟨hfirst, fun x s' hrun => ⟨(hnext x s' hrun).1, (hrest x s' hrun).1⟩⟩
  · rw [flow_join, flow_join]
    exact Action.bind_congr_at rfl fun x s' hrun =>
      Action.bind_congr_at (hrest x s' hrun).2 fun _ _ _ => rfl

private theorem Item.sound_of_composed {items : List Item}
    (h : ∀ v t, Item.nested v t ∈ items →
      ∃ c, (.ok v : Except Fault Value) = .ok (.callable c) ∧ Renders c t) : Item.Sound items := by
  intro v t hv
  obtain ⟨c, hc, hrenders⟩ := h v t hv
  cases hc
  exact ⟨c, rfl, hrenders⟩

theorem Composed.renders {t : Flat} {r : Except Fault Value} (h : Composed t r) :
    ∃ c, r = .ok (.callable c) ∧ Renders c t := by
  induction h with
  | @compiled fragments items r nested compile ih =>
    obtain ⟨c, rfl, hc⟩ := compile.renders
    exact ⟨c, rfl, hc.ofItems (Item.sound_of_composed ih)⟩
  | @chained t u v w condition d s head tail truth ihHead ihTail =>
    obtain ⟨c, hv, hc⟩ := ihHead
    obtain ⟨k, hw, hk⟩ := ihTail
    cases hv
    cases hw
    exact hc.extendIf hk truth d
  | @continued t v condition d fragments items r head nested tail ihHead ih =>
    obtain ⟨c, hv, hc⟩ := ihHead
    cases hv
    obtain ⟨c', rfl, hc'⟩ := hc.continued tail
    exact ⟨c', rfl, hc'.join_ofItems (Item.sound_of_composed ih)⟩

/-- A render of a template in which the context stays bound throughout. -/
def Flat.StaysBound (t : Flat) (context : Value) (s : Store) : Prop :=
  ∀ get, context.ownGet? s = .ok get →
    Stencil.StaysBound (callWithin callDepth) get context t.fragments t.items s

/--
Both are callables, and no call tells them apart on any context and in any store where the context
stays bound in a render of the template.
-/
def Alike (t : Flat) (r r' : Except Fault Value) : Prop :=
  ∃ c d, r = .ok (.callable c) ∧ r' = .ok (.callable d) ∧
    ∀ context s, t.StaysBound context s → c.call context s = d.call context s

def Flat.compiled (t : Flat) : Callable :=
  .template 1 (.evaluator 0 .generated (t.fragments.map Fragment.text)
    ((t.items.take t.fragments.length).map Value.classify))

end Stencil
