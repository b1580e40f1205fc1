import Stencil.Proofs.Lists
import Stencil.Proofs.Repeating
import Stencil.Proofs.Respecting

/-!
The shapes of a conditional extension. Its delimiter and its continuation can be passed in several
ways, at once or in two stages; the ways that mean the same do the same.
-/

namespace Stencil

open Template

/-- The ways of passing a continuation that is ready, to be put behind the default delimiter. -/
inductive Ready (k : Callable) : Option Value → Value → Prop
  | inPlace {ignored : Value} : Ready k (some (.callable k)) ignored
  | omitted : Ready k none (.callable k)
  | nothing : Ready k (some .nothing) (.callable k)
  | default : Ready k (some (.text defaultDelimiter)) (.callable k)

/-- Two results that are templates, which are called alike. -/
inductive TemplatesAlike : Except Fault Value → Except Fault Value → Prop
  | templates {c c' : Callable} (template : c.isTemplate) (template' : c'.isTemplate)
      (called : c.CalledAlike c') : TemplatesAlike (.ok (.callable c)) (.ok (.callable c'))

/--
A tag that waits for the fragments and items of a continuation. If the condition holds, it does what
extending by the compiled continuation does, wherever that is compiled in a store that shows the
same, and wherever it is passed with a delimiter of the same text. Else it compiles nothing.
-/
structure Waits (receiver : Callable) (condition : Value) (delimiter : Option Value) (d : Text)
    (tag : Callable) : Prop where
  compiled : ∀ fragments items k t u v, condition.isTrue t = .ok true → v.inert = t.inert →
    (compile fragments items v).1 = .ok k → condition.isTrue u = .ok true →
    (delimiterText delimiter u).1 = .ok d →
      TemplatesAlike ((Value.callable tag).callTag fragments items t).1
        (extendIf (.callable receiver) condition delimiter (.callable k) u).1
  uncompiled : ∀ fragments items f t v, condition.isTrue t = .ok true → v.inert = t.inert →
    (compile fragments items v).1 = .error f →
      ((Value.callable tag).callTag fragments items t).1 = .error f
  kept : ∀ fragments items t, condition.isTrue t = .ok false → receiver.isTemplate →
    (Value.callable tag).callTag fragments items t = (.ok (.callable receiver), t)
  wrapped : ∀ fragments items t, condition.isTrue t = .ok false → ¬ receiver.isTemplate →
    (Value.callable tag).callTag fragments items t =
      (.ok (.callable (.template t.nextIdentity receiver)),
        { t with nextIdentity := t.nextIdentity + 1 })
  uncalled : ∀ fragments items t,
    Uncalled t ((Value.callable tag).callTag fragments items t).2

/-- What extending a callable on a condition does, by the shape of the other arguments. -/
structure Shaped (receiver : Callable) (condition : Value) : Prop where
  /-- Nothing tells the ways of passing a continuation apart. -/
  ready : ∀ k s, ∃ c n, c.isTemplate ∧ ∀ delimiter continuation,
    Ready k delimiter continuation →
      extendIf (.callable receiver) condition delimiter continuation s =
        (.ok (.callable c), { s with nextIdentity := n })
  elsewhere : ∀ k delimiter continuation delimiter' continuation' s t,
    Ready k delimiter continuation → Ready k delimiter' continuation' →
    condition.isTrue s = condition.isTrue t →
      TemplatesAlike (extendIf (.callable receiver) condition delimiter continuation s).1
        (extendIf (.callable receiver) condition delimiter' continuation' t).1
  curried : ∀ delimiter d s s₁, (∀ c, delimiter ≠ some (.callable c)) →
    delimiterText delimiter s = (.ok d, s₁) → s₁.inert = s.inert ∧ ∃ tag,
      (extendIf (.callable receiver) condition delimiter .nothing s).1 = .ok (.callable tag) ∧
        Waits receiver condition delimiter d tag
  /-- The text of a delimiter is taken once, whatever comes then. -/
  taken : ∀ delimiter d s s₁ continuation, (∀ c, delimiter ≠ some (.callable c)) →
    delimiterText delimiter s = (.ok d, s₁) → ∃ n,
      (extendIf (.callable receiver) condition delimiter continuation s).2 =
        { s₁ with nextIdentity := n }
  textless : ∀ delimiter f s s₁ continuation, (∀ c, delimiter ≠ some (.callable c)) →
    delimiterText delimiter s = (.error f, s₁) →
      extendIf (.callable receiver) condition delimiter continuation s = (.error f, s₁)
  uncallable : ∀ delimiter d s s₁ v, (∀ c, delimiter ≠ some (.callable c)) →
    delimiterText delimiter s = (.ok d, s₁) → v.callable? = none → v.isNothing = false →
    ∃ name, v.bareTypeName s₁ = .ok name ∧
      extendIf (.callable receiver) condition delimiter v s =
        (.error (.invalidContinuation v name), s₁)
  uncalled : ∀ delimiter continuation s,
    Uncalled s (extendIf (.callable receiver) condition delimiter continuation s).2

section Shapes

variable {receiver : Callable} {condition : Value} {delimiter : Option Value} {d : Text}
  {s s₁ : Store}

theorem Ready.extendIf_eq {k : Callable} {continuation : Value}
    (h : Ready k delimiter continuation) (receiver : Callable) (condition : Value) (s : Store) :
    extendIf (.callable receiver) condition delimiter continuation s =
      extendBy receiver condition defaultDelimiter k s := by
  cases h with
  | inPlace => exact extendIf_swapped condition continuation k s
  | omitted => exact extendIf_ready (by simp) rfl condition k
  | nothing => exact extendIf_ready (by simp) rfl condition k
  | default =>
    exact extendIf_ready (text_ne_callable _) (delimiterText_text _ s) condition k

theorem extendBy_true (truth : condition.isTrue s = .ok true) (d : Text) (k : Callable) :
    extendBy receiver condition d k s =
      (.ok (.callable (.template (s.nextIdentity + 1) (.chain s.nextIdentity receiver d k))),
        { s with nextIdentity := s.nextIdentity + 2 }) := by
  unfold extendBy
  rw [Action.bind_lift_ok truth, if_pos rfl, Action.bind_ok (extend_ok d k s)]
  rfl

theorem extendBy_kept (truth : condition.isTrue s = .ok false) (hr : receiver.isTemplate)
    (d : Text) (k : Callable) :
    extendBy receiver condition d k s = (.ok (.callable receiver), s) := by
  unfold extendBy
  rw [Action.bind_lift_ok truth, if_neg Bool.false_ne_true,
    Action.bind_ok (unextended_template hr s)]
  rfl

theorem extendBy_wrapped (truth : condition.isTrue s = .ok false) (hr : ¬ receiver.isTemplate)
    (d : Text) (k : Callable) :
    extendBy receiver condition d k s =
      (.ok (.callable (.template s.nextIdentity receiver)),
        { s with nextIdentity := s.nextIdentity + 1 }) := by
  unfold extendBy
  rw [Action.bind_lift_ok truth, if_neg Bool.false_ne_true,
    Action.bind_ok (unextended_other hr s)]
  rfl

/-- Extending gives a template and takes identities. Only these depend on the store, if the
condition does not. -/
theorem extendBy_alike {t : Store} {holds : Bool} (truth : condition.isTrue s = .ok holds)
    (truth' : condition.isTrue t = .ok holds) (receiver : Callable) (d : Text) (k : Callable) :
    ∃ c c' n n', extendBy receiver condition d k s =
        (.ok (.callable c), { s with nextIdentity := n }) ∧
      extendBy receiver condition d k t = (.ok (.callable c'), { t with nextIdentity := n' }) ∧
      c.isTemplate ∧ c'.isTemplate ∧ c.CalledAlike c' := by
  have hk := Callable.CalledAlike.refl k
  have hreceiver := Callable.CalledAlike.refl receiver
  cases holds with
  | true =>
    exact ⟨_, _, _, _, extendBy_true truth d k, extendBy_true truth' d k, rfl, rfl,
      (hk.chain _ _ receiver d).template _ _⟩
  | false =>
    by_cases hr : receiver.isTemplate
    · exact ⟨_, _, _, _, extendBy_kept truth hr d k, extendBy_kept truth' hr d k, hr, hr,
        hreceiver⟩
    · exact ⟨_, _, _, _, extendBy_wrapped truth hr d k, extendBy_wrapped truth' hr d k, rfl, rfl,
        hreceiver.template _ _⟩

private theorem extendIf_textless {f : Fault} (plain : ∀ c, delimiter ≠ some (.callable c))
    (fails : delimiterText delimiter s = (.error f, s₁)) (continuation : Value) :
    extendIf (.callable receiver) condition delimiter continuation s = (.error f, s₁) := by
  unfold extendIf
  dsimp only
  rw [arguments_eq plain, bind_assoc, Action.bind_error fails]

theorem extendIf_uncallable {v : Value} (plain : ∀ c, delimiter ≠ some (.callable c))
    (fixed : delimiterText delimiter s = (.ok d, s₁)) (missing : v.callable? = none)
    (something : v.isNothing = false) :
    ∃ name, v.bareTypeName s₁ = .ok name ∧
      extendIf (.callable receiver) condition delimiter v s =
        (.error (.invalidContinuation v name), s₁) := by
  obtain ⟨name, hname⟩ := v.total_bareTypeName s₁
  refine ⟨name, hname, ?_⟩
  unfold extendIf
  dsimp only
  rw [arguments_eq plain, bind_assoc, Action.bind_ok fixed, pure_bind]
  dsimp only
  cases v with
  | nothing => cases something
  | callable k => cases missing
  | _ =>
    dsimp only
    rw [Action.bind_lift_ok hname]
    rfl

private theorem extendIf_unreceived {v : Value} (missing : v.callable? = none) (condition : Value)
    (delimiter : Option Value) (continuation : Value) (s : Store) :
    ∃ name, v.bareTypeName s = .ok name ∧
      extendIf v condition delimiter continuation s = (.error (.invalidReceiver v name), s) := by
  obtain ⟨name, hname⟩ := v.total_bareTypeName s
  refine ⟨name, hname, ?_⟩
  unfold extendIf
  cases v with
  | callable c => cases missing
  | _ =>
    dsimp only
    rw [Action.bind_lift_ok hname]
    rfl

private theorem Value.nothing_or_callable (v : Value) :
    v = .nothing ∨ (∃ k, v = .callable k) ∨ v.callable? = none ∧ v.isNothing = false := by
  cases v <;> simp [callable?, isNothing]

/-- Whatever the continuation is, the text of the delimiter is taken once. -/
theorem extendIf_taken (plain : ∀ c, delimiter ≠ some (.callable c))
    (fixed : delimiterText delimiter s = (.ok d, s₁)) (receiver : Callable) (condition : Value)
    (continuation : Value) :
    ∃ n, (extendIf (.callable receiver) condition delimiter continuation s).2 =
      { s₁ with nextIdentity := n } := by
  rcases continuation.nothing_or_callable with rfl | ⟨k, rfl⟩ | ⟨missing, something⟩
  · exact ⟨_, congrArg Prod.snd (extendIf_tag plain fixed condition)⟩
  · obtain ⟨holds, truth⟩ := condition.total_isTrue s₁
    obtain ⟨c, -, n, -, hrun, -⟩ := extendBy_alike truth truth receiver d k
    rw [extendIf_ready plain fixed condition k, hrun]
    exact ⟨n, rfl⟩
  · obtain ⟨name, -, hrun⟩ := extendIf_uncallable plain fixed missing something
    exact ⟨s₁.nextIdentity, congrArg Prod.snd hrun⟩

/-- Calling a tag does what the tag waits to do. -/
private theorem callTag_ok {fragments : Value} {items : Option Value} {c : Callable} (id : Identity)
    (h : applyTag receiver condition d fragments items s = (.ok c, s₁)) :
    (Value.callable (.tag id receiver condition d)).callTag fragments items s =
      (.ok (.callable c), s₁) := by
  unfold Value.callTag
  dsimp only
  rw [Action.bind_ok h]
  rfl

private theorem callTag_error {fragments : Value} {items : Option Value} {f : Fault} (id : Identity)
    (h : applyTag receiver condition d fragments items s = (.error f, s₁)) :
    (Value.callable (.tag id receiver condition d)).callTag fragments items s = (.error f, s₁) := by
  unfold Value.callTag
  dsimp only
  rw [Action.bind_error h]

end Shapes

theorem tag_waits (id : Identity) (receiver : Callable) (condition : Value)
    {delimiter : Option Value} (plain : ∀ c, delimiter ≠ some (.callable c)) (d : Text) :
    Waits receiver condition delimiter d (.tag id receiver condition d) where
  compiled fragments items k t u v truth shown hk truth' fixed := by
    obtain ⟨k', hk', hkk'⟩ := (compile_parallel fragments items v t shown).ok hk
    have hcompile := Action.eq_of_fst hk'
    have happlied := applyTag_true (c := receiver) truth hcompile d
    have hcall := callTag_ok id (happlied.trans (extend_ok d k' _))
    have hfixed := Action.eq_of_fst fixed
    have htruth := ((counted_delimiterText delimiter u).isTrue condition).trans truth'
    rw [hcall, extendIf_ready plain hfixed condition k, extendBy_true htruth d k]
    exact .templates rfl rfl ((hkk'.symm.chain _ _ receiver d).template _ _)
  uncompiled fragments items f t v truth shown hf := by
    have hcompile := Action.eq_of_fst ((compile_parallel fragments items v t shown).error hf)
    exact congrArg Prod.fst (callTag_error id (applyTag_error truth hcompile d))
  kept fragments items t truth hr := by
    have hrun := applyTag_false (c := receiver) truth fragments items d
    exact callTag_ok id (hrun.trans (unextended_template hr t))
  wrapped fragments items t truth hr := by
    have hrun := applyTag_false (c := receiver) truth fragments items d
    exact callTag_ok id (hrun.trans (unextended_other hr t))
  uncalled fragments items t :=
    Action.Respects.bind (respects_applyTag receiver condition d fragments items)
      (fun _ => .pure _) t

theorem shaped (receiver : Callable) (condition : Value) : Shaped receiver condition where
  ready k s := by
    obtain ⟨holds, truth⟩ := condition.total_isTrue s
    obtain ⟨c, -, n, -, hrun, -, hc, -⟩ := extendBy_alike truth truth receiver defaultDelimiter k
    exact ⟨c, n, hc, fun delimiter continuation h =>
      (h.extendIf_eq receiver condition s).trans hrun⟩
  elsewhere k delimiter continuation delimiter' continuation' s t h h' same := by
    obtain ⟨holds, truth⟩ := condition.total_isTrue s
    obtain ⟨c, c', n, n', hrun, hrun', hc, hc', hcalled⟩ :=
      extendBy_alike truth (same ▸ truth) receiver defaultDelimiter k
    rw [h.extendIf_eq, h'.extendIf_eq, hrun, hrun']
    exact .templates hc hc' hcalled
  curried delimiter d s s₁ plain fixed := by
    have hcounted := counted_delimiterText delimiter s
    rw [fixed] at hcounted
    have htag := congrArg Prod.fst (extendIf_tag (c := receiver) plain fixed condition)
    exact ⟨hcounted.inert, _, htag, tag_waits _ receiver condition plain d⟩
  taken _ _ _ _ continuation plain fixed :=
    extendIf_taken plain fixed receiver condition continuation
  textless _ _ _ _ continuation plain fails := extendIf_textless plain fails continuation
  uncallable _ _ _ _ _ plain fixed missing something :=
    extendIf_uncallable plain fixed missing something
  uncalled delimiter continuation s :=
    respects_extendIf (.callable receiver) condition delimiter continuation s

/--
Ways of extending a callable that mean the same do the same, and call nothing. What is no callable
is refused as a receiver before anything else is looked at.
-/
theorem shapes_agree (condition : Value) :
    (∀ receiver, Shaped receiver condition) ∧
      ∀ v delimiter continuation s, v.callable? = none → ∃ name, v.bareTypeName s = .ok name ∧
        extendIf v condition delimiter continuation s = (.error (.invalidReceiver v name), s) := by
  constructor
  · exact fun receiver => shaped receiver condition
  · intro v delimiter continuation s missing
    exact extendIf_unreceived missing condition delimiter continuation s

/-- A list of a fragment, a list of no items, and a counter. -/
def countingStore : Store :=
  ⟨#[.list [.text "b"], .list [], .counter 0], [], #[], 0, .generated, 100⟩

/-- The text of the counter is taken for the tag, or else when the continuation is passed. -/
theorem shapes_agree_counting :
    ∃ (tag k : Callable) (s₁ u : Store),
      extendIf (.callable (.builtin .length)) (.bool true) (some (.object 2)) .nothing
        countingStore = (.ok (.callable tag), s₁) ∧
      compile (.object 0) (some (.object 1)) countingStore = (.ok k, u) ∧
      TemplatesAlike ((Value.callable tag).callTag (.object 0) (some (.object 1)) s₁).1
        (extendIf (.callable (.builtin .length)) (.bool true) (some (.object 2))
          (.callable k) u).1 := by
  have hfragments : countingStore.IsList (.object 0) ([Fragment.plain "b"].map Fragment.value) :=
    ⟨⟨0, rfl, rfl⟩, nofun⟩
  have hitems : countingStore.IsList (.object 1) [] := ⟨⟨1, rfl, rfl⟩, nofun⟩
  have hcompile := compile_lists hfragments hitems
  have hplain : ∀ c, some (Value.object 2) ≠ some (.callable c) := by simp
  have hfixed : delimiterText (some (.object 2)) countingStore = (.ok (Numeral.decimal 1),
      { countingStore with cells := countingStore.cells.setIfInBounds 2 (.counter 1) }) := by
    unfold delimiterText Value.toText Value.textWithin
    rfl
  have hshaped := (shapes_agree (.bool true)).1 (.builtin .length)
  obtain ⟨hinert, tag, htag, hwaits⟩ := hshaped.curried _ _ _ _ hplain hfixed
  obtain ⟨n, hstore⟩ := hshaped.taken _ _ _ _ .nothing hplain hfixed
  refine ⟨tag, _, _, _, Prod.ext htag hstore, hcompile, ?_⟩
  exact hwaits.compiled _ _ _ _ _ countingStore rfl hinert.symm (congrArg Prod.fst hcompile) rfl (by
    unfold delimiterText Value.toText Value.textWithin
    rfl)

/-- If the condition does not hold, what comes of a plain callable is a template around it. -/
theorem plain_receiver_wrapped :
    ∃ (tag wrapped : Callable) (s₁ s₂ : Store),
      (Value.bool false).isTrue countingStore = .ok false ∧
      extendIf (.callable (.builtin .length)) (.bool false) none .nothing countingStore =
        (.ok (.callable tag), s₁) ∧
      (Value.callable tag).callTag (.object 0) none s₁ = (.ok (.callable wrapped), s₂) ∧
      (Value.callable wrapped).same (.callable (.builtin .length)) = false :=
  ⟨_, _, _, _, rfl, rfl, rfl, rfl⟩

end Stencil
