import Stencil.Proofs.Counting
import Stencil.Proofs.Finding
import Stencil.Proofs.Ordering

/-!
Rendering with keys that may be missing. A key that finds nothing leaves its place empty; only the
text of a value that was found can fail, and taking it leaves the context as it was. A mapping with
a `get` of its own answers as it likes: what it raises for a key, a missing one included, comes out
of the rendering.
-/

namespace Stencil

/-- The items that are looked up or leave their place empty. -/
inductive Value.IsKeyItem : Value → Prop
  | nothing : IsKeyItem .nothing
  | key (k : Key) : IsKeyItem (.key k)

/--
What a context answers for a key, in a store and with the `get` of its own that is bound. Without
one it answers with the value that the key finds, or with nothing, and it neither fails nor changes
anything then.
-/
inductive Value.Answers (context : Value) (t : Store) (get : Option Value) (k : Key) :
    Store → Except Fault Value → Store → Prop
  | own {g : Value} {s s' : Store} {outcome : Except Fault Value} (bound : get = some g)
      (call : callWithin callDepth g (.key k) s = (outcome, s')) :
      Answers context t get k s outcome s'
  | found {v : Value} {s : Store} (unbound : get = none) (found : context.Finds t k v) :
      Answers context t get k s (.ok v) s
  | missing {s : Store} (unbound : get = none) (missing : ∀ v, ¬ context.Finds t k v) :
      Answers context t get k s (.ok .nothing) s

inductive Value.Raises (context : Value) (t : Store) (get : Option Value) (k : Key) (s : Store)
    (f : Fault) (s' : Store) : Prop
  | get {g : Value} (bound : get = some g)
      (call : callWithin callDepth g (.key k) s = (.error f, s')) : Raises context t get k s f s'
  | text {v : Value} {s₁ : Store} (answer : context.Answers t get k s (.ok v) s₁)
      (something : v ≠ .nothing) (text : v.toText s₁ = (.error f, s')) :
      Raises context t get k s f s'

/--
What an item shows of a context. An item that is nothing and a key that is answered with nothing
show the empty text; any other value is shown by its text, as the store stands by then.
-/
inductive Shows (context : Value) (t : Store) (get : Option Value) :
    Value → Store → Except Fault Text → Store → Prop
  | absent {s : Store} : Shows context t get .nothing s (.ok []) s
  | raises {k : Key} {f : Fault} {s s' : Store} (raises : context.Raises t get k s f s') :
      Shows context t get (.key k) s (.error f) s'
  | nothing {k : Key} {s s' : Store} (answer : context.Answers t get k s (.ok .nothing) s') :
      Shows context t get (.key k) s (.ok []) s'
  | text {k : Key} {v : Value} {shown : Text} {s s₁ s' : Store}
      (answer : context.Answers t get k s (.ok v) s₁) (something : v ≠ .nothing)
      (text : v.toText s₁ = (.ok shown, s')) : Shows context t get (.key k) s (.ok shown) s'

inductive ShowsAll (context : Value) (t : Store) (get : Option Value) :
    List Value → Store → Except Fault (List Text) → Store → Prop
  | nil {s : Store} : ShowsAll context t get [] s (.ok []) s
  | raises {item : Value} {items : List Value} {f : Fault} {s s' : Store}
      (first : Shows context t get item s (.error f) s') :
      ShowsAll context t get (item :: items) s (.error f) s'
  | cons {item : Value} {items : List Value} {shown : Text} {outcome : Except Fault (List Text)}
      {s s₁ s' : Store} (first : Shows context t get item s (.ok shown) s₁)
      (rest : ShowsAll context t get items s₁ outcome s') :
      ShowsAll context t get (item :: items) s (outcome.map (shown :: ·)) s'

section Showing

variable {context : Value} {t s s' : Store} {get : Option Value}

/-- The key that raises is the first one that does. -/
theorem ShowsAll.raised {items : List Value} {f : Fault}
    (h : ShowsAll context t get items s (.error f) s') :
    ∃ before k after ts s₁, items = before ++ .key k :: after ∧
      ShowsAll context t get before s (.ok ts) s₁ ∧ context.Raises t get k s₁ f s' := by
  generalize houtcome : Except.error f = outcome at h
  induction h with
  | nil => cases houtcome
  | @raises item items f' s s' first =>
    cases houtcome
    cases first with
    | @raises k _ _ _ raises => exact ⟨[], k, items, [], s, rfl, .nil, raises⟩
  | @cons item items shown outcome s s₁ s' first rest ih =>
    cases outcome with
    | ok ts => cases houtcome
    | error f' =>
      cases houtcome
      obtain ⟨before, k, after, ts, s₂, rfl, hbefore, raises⟩ := ih rfl
      exact ⟨item :: before, k, after, shown :: ts, s₂, rfl, .cons first hbefore, raises⟩

/-- Without a `get` of its own, a context raises for no key but one that finds a value. -/
theorem Value.Raises.found {k : Key} {f : Fault} (h : context.Raises t none k s f s') :
    ∃ v, context.Finds t k v ∧ v.toText s = (.error f, s') := by
  cases h with
  | get bound call => cases bound
  | text answer something text =>
    cases answer with
    | own bound call => cases bound
    | found unbound found => exact ⟨_, found, text⟩
    | missing unbound missing => exact absurd rfl something

/-- Taking a text keeps the context, which is no counter. -/
private theorem Value.IsKeyed.kept_counted (h : context.IsKeyed t) (hkept : context.KeptBy t s)
    (hcounted : Counted s s') : context.KeptBy t s' := by
  intro a ha
  have hs := hkept a ha
  rcases hcounted.cell a with hcell | ⟨taken, hcell, -⟩
  · exact (congrArg Except.ok hcell).trans hs
  · -- Only a counter changes, and no context is one.
    have hcounter : Reading.cell a t = .ok (.counter taken) := by
      rw [← hs]
      exact congrArg Except.ok hcell
    subst ha
    cases h with
    | mapping cell => cases hcounter.symm.trans cell
    | sequence sequence structured length =>
      cases sequence with
      | list cell | tuple cell | deque cell => cases hcounter.symm.trans cell

/-- A context answers each key in one way. -/
theorem Value.IsKeyed.answers (hcontext : context.IsKeyed t)
    (hkept : get = none → context.KeptBy t s) (k : Key) :
    ∃ outcome s', context.Answers t get k s outcome s' ∧
      context.ask (callWithin callDepth) get (.key k) s = (outcome, s') ∧
      (get = none → context.KeptBy t s') := by
  cases get with
  | some g => exact ⟨_, _, .own rfl rfl, rfl, nofun⟩
  | none =>
    have hlookup := hcontext.typeLookup_kept (hkept rfl) k
    rcases hcontext.typeLookup k with ⟨v, found, hv⟩ | ⟨missing, hv⟩
    · exact ⟨.ok v, s, .found rfl found, by rw [Value.ask_none, hlookup, hv], hkept⟩
    · exact ⟨_, s, .missing rfl missing, by rw [Value.ask_none, hlookup, hv], hkept⟩

/-- The step of one item. -/
private theorem shows_contribution (hcontext : context.IsKeyed t) {item : Value}
    (hitem : item.IsKeyItem) (hkept : get = none → context.KeptBy t s) :
    ∃ outcome s', Shows context t get item s outcome s' ∧ (get = none → context.KeptBy t s') ∧
      Fold.contribution (.store (callWithin callDepth) get)
        (item.classify.bind (callWithin callDepth)) context s = (outcome, s') := by
  cases hitem with
  | nothing => exact ⟨.ok [], s, .absent, hkept, rfl⟩
  | key k =>
    obtain ⟨answer, s₁, hanswers, hask, hkept₁⟩ := hcontext.answers hkept k
    cases answer with
    | error f =>
      refine ⟨.error f, s₁, .raises ?_, hkept₁, Action.bind_error hask⟩
      cases hanswers with
      | own bound call => exact .get bound call
    | ok v =>
      have hcontribution : Fold.contribution (.store (callWithin callDepth) get)
          ((Value.key k).classify.bind (callWithin callDepth)) context s = v.contribution s₁ := by
        rw [← Host.contribution_store (callWithin callDepth) get v]
        exact Action.bind_ok hask
      by_cases hnothing : v = .nothing
      · subst hnothing
        exact ⟨.ok [], s₁, .nothing hanswers, hkept₁, hcontribution⟩
      · have htext : v.contribution s₁ = v.toText s₁ := by
          cases v with
          | nothing => exact absurd rfl hnothing
          | _ => rfl
        rcases hrun : v.toText s₁ with ⟨shown, s'⟩
        have hcounted : Counted s₁ s' := by
          have := Value.counted_toText v s₁
          rwa [hrun] at this
        have hkept' : get = none → context.KeptBy t s' := fun hget =>
          hcontext.kept_counted (hkept₁ hget) hcounted
        refine ⟨shown, s', ?_, hkept', hcontribution.trans (htext.trans hrun)⟩
        cases shown with
        | error f => exact .raises (.text hanswers hnothing hrun)
        | ok shown => exact .text hanswers hnothing hrun

/-- By induction on the items, each in the store that the one before it left. -/
private theorem showsAll_mapM (hcontext : context.IsKeyed t) {items : List Value}
    (hitems : ∀ item ∈ items, item.IsKeyItem) (hkept : get = none → context.KeptBy t s) :
    ∃ outcome s', ShowsAll context t get items s outcome s' ∧ (get = none → context.KeptBy t s') ∧
      (bindAll (callWithin callDepth) (items.map Value.classify)).mapM
        (Fold.contribution (.store (callWithin callDepth) get) · context) s = (outcome, s') := by
  induction items generalizing s with
  | nil => exact ⟨.ok [], s, .nil, hkept, rfl⟩
  | cons item items ih =>
    obtain ⟨outcome, s₁, hfirst, hkept₁, hrun⟩ :=
      shows_contribution hcontext (hitems item List.mem_cons_self) hkept
    simp only [List.map_cons, bindAll, List.mapM_cons]
    cases outcome with
    | error f => exact ⟨.error f, s₁, .raises hfirst, hkept₁, Action.bind_error hrun⟩
    | ok shown =>
      obtain ⟨rest, s', hrest, hkept', hruns⟩ :=
        ih (fun item hmem => hitems item (List.mem_cons_of_mem _ hmem)) hkept₁
      refine ⟨rest.map (shown :: ·), s', .cons hfirst hrest, hkept', ?_⟩
      rw [Action.bind_ok hrun]
      cases rest with
      | error f => exact Action.bind_error hruns
      | ok ts => exact Action.bind_ok hruns

end Showing

/--
Lists of texts, and of items that are nothing or scalars, compile under either strategy, and on
every mapping and every sequence that is no whole string the template shows what its items show. It
raises with the fault of the first key that raises; otherwise its text is the fragments with what
the items show between them. A context without a `get` of its own raises for no key but one that
finds a value whose text cannot be taken, and stays as it was.
-/
theorem missing_keys_show_nothing {s : Store} {a b : Address} {fragments : List Fragment}
    {items : List Value}
    (hfragments : Reading.cell a s = .ok (.list (fragments.map Fragment.value)))
    (hlist : Reading.cell b s = .ok (.list items)) (hitems : ∀ item ∈ items, item.IsKeyItem)
    (strategy : Strategy) :
    ∃ c s', Template.compileWith strategy (.object a) (some (.object b)) s = (.ok c, s') ∧
      ∀ (context : Value) (t : Store), context.IsKeyed t →
        ∃ get outcome t', context.ownGet? t = .ok get ∧
          ShowsAll context t get (items.take fragments.length) t outcome t' ∧
          (∀ f, outcome = .error f → ∃ before k after ts t₁,
            items.take fragments.length = before ++ .key k :: after ∧
              ShowsAll context t get before t (.ok ts) t₁ ∧ context.Raises t get k t₁ f t' ∧
              (get = none → ∃ v, context.Finds t k v ∧ v.toText t₁ = (.error f, t'))) ∧
          c.call context t =
            (outcome.map fun ts => .text (interleave (fragments.map Fragment.text) ts), t') ∧
          (get = none → context.KeptBy t t') := by
  have hprepare := prepare_cells hfragments hlist
  refine ⟨_, _, Template.compileWith_ok strategy hprepare, fun context t hcontext => ?_⟩
  have htaken : ∀ item ∈ items.take fragments.length, item.IsKeyItem := fun item hmem =>
    hitems item (List.mem_of_mem_take hmem)
  obtain ⟨get, bound⟩ := context.total_ownGet? t
  have hkept : get = none → context.KeptBy t t := fun _ _ _ => rfl
  obtain ⟨outcome, t', hshows, hkept', hrun⟩ := showsAll_mapM hcontext htaken hkept
  refine ⟨get, outcome, t', bound, hshows, fun f hf => ?_, ?_, hkept'⟩
  · obtain ⟨before, k, after, ts, t₁, hsplit, hbefore, hraises⟩ := (hf ▸ hshows).raised
    refine ⟨before, k, after, ts, t₁, hsplit, hbefore, hraises, fun hget => ?_⟩
    subst hget
    exact hraises.found
  · have hcall :=
      Layout.call_structured hprepare hcontext.isStructured bound strategy s.nextIdentity
    rw [hcall]
    cases outcome with
    | error f => exact Action.bind_error hrun
    | ok ts => exact Action.bind_ok hrun

/-- Fragments; three keys; a mapping with a factory of texts that has what is false under the first
one, nothing under the last one, and not the one between; an ordered one that was given a routine,
which raises, as its `get`. -/
def keyedStore : Store :=
  ⟨#[.list [.text "a", .text "b", .text "c"],
    .list [.text "false", .text "gone", .text "none"],
    .mapping (.withDefault (.callable (.builtin .text)))
      (.ofTexts [("false", .bool false), ("none", .nothing)]),
    .mapping .ordered [], .routine ⟨none, .raise .key "gone"⟩ 0],
    [⟨.object 3, "get", some (.callable (.routine 4))⟩], #[], 0, .generated, 100⟩

theorem missing_keys_show_nothing_false :
    ∃ c s' t', Template.compileWith .interpreted (.object 0) (some (.object 1)) keyedStore =
        (.ok c, s') ∧
      c.call (.object 2) keyedStore = (.ok (.text "aFalsebc"), t') ∧
      Reading.cell 2 t' = Reading.cell 2 keyedStore := by
  have hfragments : Reading.cell 0 keyedStore =
      .ok (.list ([Fragment.plain "a", Fragment.plain "b", Fragment.plain "c"].map
        Fragment.value)) := rfl
  have hlist : Reading.cell 1 keyedStore =
      .ok (.list [.text "false", .text "gone", .text "none"]) := rfl
  have hitems : ∀ item ∈ [Value.text "false", .text "gone", .text "none"], item.IsKeyItem := by
    intro item hitem
    simp only [List.mem_cons, List.not_mem_nil, or_false] at hitem
    rcases hitem with rfl | rfl | rfl <;> exact .key _
  have hcontext : (Value.object 2).IsKeyed keyedStore := .mapping rfl
  obtain ⟨c, s', hcompile, hcall⟩ :=
    missing_keys_show_nothing hfragments hlist hitems .interpreted
  obtain ⟨get, outcome, t', bound, -, -, hrun, hkept⟩ := hcall (.object 2) keyedStore hcontext
  have hnone : get = none := by
    cases bound
    rfl
  have hanswer : (c.call (.object 2) keyedStore).1 = .ok (.text "aFalsebc") := by
    cases hcompile
    rfl
  have hstore : (c.call (.object 2) keyedStore).2 = t' := congrArg Prod.snd hrun
  exact ⟨c, s', t', hcompile, Prod.ext hanswer hstore, hkept hnone 2 rfl⟩

/-- The mapping is empty, so that every key is missing; its `get` raises for the first one. -/
theorem missing_key_raised :
    ∃ c s', Template.compileWith .generated (.object 0) (some (.object 1)) keyedStore =
        (.ok c, s') ∧
      (Value.object 3).IsKeyed keyedStore ∧ (∀ k v, ¬ (Value.object 3).Finds keyedStore k v) ∧
      (c.call (.object 3) keyedStore).1 = .error (.ofRaise .key "gone") := by
  have hcell : Reading.cell 3 keyedStore = .ok (.mapping .ordered []) := rfl
  refine ⟨_, _, rfl, .mapping hcell, fun k v h => ?_, rfl⟩
  obtain ⟨e, hnone, -⟩ := (Value.finds_mapping_iff hcell).mp h
  cases hnone

end Stencil
