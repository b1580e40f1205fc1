import Stencil.Proofs.Chaining
import Stencil.Proofs.Extending
import Stencil.Proofs.Lists

/-!
Conditional extension, applied again and again. What comes of it calls the receiver and then the
continuations whose conditions held, in the order of their application, and no other.
-/

namespace Stencil

/--
One application of the conditional extension: whether its condition held, the text that its
delimiter had when it was passed, and its continuation.
-/
structure Gate where
  holds : Bool
  delimiter : Text
  continuation : Callable

namespace Gate

def part (g : Gate) : Part :=
  ⟨g.delimiter, g.continuation⟩

def parts (receiver : Callable) (gates : List Gate) : List Part :=
  ⟨[], receiver⟩ :: (gates.filter Gate.holds).map Gate.part

variable (receiver : Callable) (gates : List Gate) (d : Text) (k : Callable)

@[simp] theorem parts_append_true :
    parts receiver (gates ++ [⟨true, d, k⟩]) = parts receiver gates ++ [⟨d, k⟩] := by
  simp [parts, part]

@[simp] theorem parts_append_false :
    parts receiver (gates ++ [⟨false, d, k⟩]) = parts receiver gates := by
  simp [parts]

private theorem any_append_false :
    (gates ++ [(⟨false, d, k⟩ : Gate)]).any Gate.holds = gates.any Gate.holds := by
  simp

private theorem parts_of_none (h : ¬ gates.any Gate.holds) :
    parts receiver gates = [⟨[], receiver⟩] := by
  have hfilter : gates.filter Gate.holds = [] := by
    simpa [List.filter_eq_nil_iff] using h
  rw [parts, hfilter, List.map_nil]

end Gate

/--
What applying the conditional extension to a receiver, and then to each result, gives. The store may
be any other one at each application, and at the call of a tag; a condition has not changed by then.
-/
inductive Extended (receiver : Callable) : List Gate → Except Fault Value → Prop
  | start : Extended receiver [] (.ok (.callable receiver))
  /-- With a continuation that is ready. -/
  | direct {gates : List Gate} {v condition : Value} {delimiter : Option Value} {d : Text}
      {k : Callable} {holds : Bool} {s : Store} (prior : Extended receiver gates (.ok v))
      (plain : ∀ c, delimiter ≠ some (.callable c)) (fixed : (delimiterText delimiter s).1 = .ok d)
      (truth : condition.isTrue s = .ok holds) :
      Extended receiver (gates ++ [⟨holds, d, k⟩])
        (Template.extendIf v condition delimiter (.callable k) s).1
  /-- With a continuation in the place of the delimiter. -/
  | swapped {gates : List Gate} {v condition ignored : Value} {k : Callable} {holds : Bool}
      {s : Store} (prior : Extended receiver gates (.ok v))
      (truth : condition.isTrue s = .ok holds) :
      Extended receiver (gates ++ [⟨holds, defaultDelimiter, k⟩])
        (Template.extendIf v condition (some (.callable k)) ignored s).1
  /-- With fragments and items that are passed to the tag which is returned. -/
  | curried {gates : List Gate} {v condition fragments : Value} {delimiter items : Option Value}
      {d : Text} {k : Callable} {holds : Bool} {s t : Store}
      (prior : Extended receiver gates (.ok v)) (plain : ∀ c, delimiter ≠ some (.callable c))
      (fixed : (delimiterText delimiter s).1 = .ok d) (truth : condition.isTrue s = .ok holds)
      (unchanged : condition.isTrue t = .ok holds)
      (compiled : holds → (Template.compile fragments items t).1 = .ok k) :
      Extended receiver (gates ++ [⟨holds, d, k⟩])
        (do let tag ← (Template.extendIf v condition delimiter .nothing s).1
            (tag.callTag fragments items t).1)

/--
What a receiver is with gates. If one holds, it is a template that gives the text of the parts. If
none does, it is the receiver itself, which an application has made a template of.
-/
structure Gated (receiver : Callable) (gates : List Gate) (c : Callable) : Prop where
  template_of_any : gates.any Gate.holds → c.isTemplate
  call_of_any : gates.any Gate.holds → ∀ context s, ∃ outcome s',
    Rendered context (Gate.parts receiver gates) s outcome s' ∧
      c.call context s = (outcome.map Value.text, s')
  call_of_none : ¬ gates.any Gate.holds → ∀ context, c.call context = receiver.call context
  eq_of_none : ¬ gates.any Gate.holds → gates = [] ∨ receiver.isTemplate → c = receiver
  wrapped_of_none : ¬ gates.any Gate.holds → gates ≠ [] → ¬ receiver.isTemplate →
    ∃ id, c = .template id receiver

namespace Gated

variable {receiver c : Callable} {gates : List Gate}

theorem textOn (h : Gated receiver gates c) (context : Value) :
    c.textOn context = Part.textOn context (Gate.parts receiver gates) := by
  by_cases hany : gates.any Gate.holds
  · funext s
    obtain ⟨outcome, s', hrun, hcall⟩ := h.call_of_any hany context s
    rw [Part.rendered_iff.mp hrun]
    unfold Callable.textOn
    cases outcome with
    | error f => rw [Action.bind_error hcall]
    | ok t => rw [Action.bind_ok hcall, Value.toText_text]; rfl
  · rw [Gate.parts_of_none receiver gates hany]
    simp [Callable.textOn, Part.textOn, h.call_of_none hany]

protected theorem start (receiver : Callable) : Gated receiver [] receiver where
  template_of_any := by simp
  call_of_any := by simp
  call_of_none _ _ := rfl
  eq_of_none _ _ := rfl
  wrapped_of_none _ h := absurd rfl h

/-- A gate that holds puts its continuation behind everything before it. -/
theorem extend (h : Gated receiver gates c) (id id' : Identity) (d : Text) (k : Callable) :
    Gated receiver (gates ++ [⟨true, d, k⟩]) (.template id' (.chain id c d k)) where
  template_of_any _ := rfl
  call_of_any _ context s := by
    have hcall : (Callable.template id' (.chain id c d k)).call context =
        (do let t ← Part.textOn context (Gate.parts receiver (gates ++ [⟨true, d, k⟩]))
            pure (Value.text t)) := by
      change (Callable.chain id c d k).call context = _
      rw [Callable.call_chain, h.textOn, Gate.parts_append_true, Part.textOn_append]
      simp only [bind_assoc, pure_bind]
    rcases hrun : Part.textOn context (Gate.parts receiver (gates ++ [⟨true, d, k⟩])) s with
      ⟨outcome, s'⟩
    refine ⟨outcome, s', Part.rendered_iff.mpr hrun, ?_⟩
    rw [hcall]
    cases outcome with
    | error f => rw [Action.bind_error hrun]; rfl
    | ok t => rw [Action.bind_ok hrun]; rfl
  call_of_none := by simp
  eq_of_none := by simp
  wrapped_of_none := by simp

/-- A gate that does not hold leaves a template as it is. -/
theorem keep (h : Gated receiver gates c) (d : Text) (k : Callable) (hc : c.isTemplate) :
    Gated receiver (gates ++ [⟨false, d, k⟩]) c := by
  have hany := Gate.any_append_false gates d k
  constructor
  · rw [hany]
    exact h.template_of_any
  · rw [hany, Gate.parts_append_false]
    exact h.call_of_any
  · rw [hany]
    exact h.call_of_none
  · rw [hany]
    intro hnone hr
    refine h.eq_of_none hnone (.inr ?_)
    simpa using hr
  · rw [hany]
    intro hnone _ hr
    refine h.wrapped_of_none hnone (fun hnil => hr ?_) hr
    rw [← h.eq_of_none hnone (.inl hnil)]
    exact hc

/-- A gate that does not hold makes a template of a receiver that is none yet. -/
theorem wrap (h : Gated receiver gates c) (id : Identity) (d : Text) (k : Callable)
    (hc : ¬ c.isTemplate) : Gated receiver (gates ++ [⟨false, d, k⟩]) (.template id c) := by
  have hany := Gate.any_append_false gates d k
  have hnone : ¬ gates.any Gate.holds := fun hg => hc (h.template_of_any hg)
  have heq : c = receiver := by
    by_cases hr : gates = [] ∨ receiver.isTemplate
    · exact h.eq_of_none hnone hr
    · obtain ⟨id', hw⟩ := h.wrapped_of_none hnone (fun hn => hr (.inl hn)) fun ht => hr (.inr ht)
      subst hw
      exact absurd rfl hc
  subst heq
  constructor
  · rw [hany]
    exact fun hg => absurd hg hnone
  · rw [hany]
    exact fun hg => absurd hg hnone
  · exact fun _ _ => rfl
  · intro _ hr
    exact absurd (by simpa using hr) hc
  · exact fun _ _ _ => ⟨id, rfl⟩

end Gated

namespace Template

variable {receiver c : Callable} {gates : List Gate}

theorem unextended_gated (h : Gated receiver gates c) (d : Text) (k : Callable) (s : Store) :
    ∃ c' s', unextended c s = (.ok c', s') ∧ Gated receiver (gates ++ [⟨false, d, k⟩]) c' := by
  by_cases hc : c.isTemplate
  · exact ⟨_, _, unextended_template hc s, h.keep d k hc⟩
  · exact ⟨_, _, unextended_other hc s, h.wrap _ d k hc⟩

theorem extend_gated (h : Gated receiver gates c) (d : Text) (k : Callable) (s : Store) :
    ∃ c' s', extend c d k s = (.ok c', s') ∧ Gated receiver (gates ++ [⟨true, d, k⟩]) c' :=
  ⟨_, _, extend_ok d k s, h.extend s.nextIdentity (s.nextIdentity + 1) d k⟩

theorem extendBy_gated (h : Gated receiver gates c) {condition : Value} {holds : Bool} {s : Store}
    (truth : condition.isTrue s = .ok holds) (d : Text) (k : Callable) :
    ∃ c' s', extendBy c condition d k s = (.ok (.callable c'), s') ∧
      Gated receiver (gates ++ [⟨holds, d, k⟩]) c' := by
  unfold extendBy
  rw [Action.bind_lift_ok truth]
  cases holds with
  | true =>
    obtain ⟨c', s', hrun, hgated⟩ := extend_gated h d k s
    rw [if_pos rfl, Action.bind_ok hrun]
    exact ⟨c', s', rfl, hgated⟩
  | false =>
    obtain ⟨c', s', hrun, hgated⟩ := unextended_gated h d k s
    rw [if_neg Bool.false_ne_true, Action.bind_ok hrun]
    exact ⟨c', s', rfl, hgated⟩

theorem applyTag_gated (h : Gated receiver gates c) {condition fragments : Value}
    {items : Option Value} {holds : Bool} {k : Callable} {s : Store}
    (truth : condition.isTrue s = .ok holds)
    (compiled : holds → (compile fragments items s).1 = .ok k) (d : Text) :
    ∃ c' s', applyTag c condition d fragments items s = (.ok c', s') ∧
      Gated receiver (gates ++ [⟨holds, d, k⟩]) c' := by
  cases holds with
  | true =>
    have hcompile := Action.eq_of_fst (compiled rfl)
    rw [applyTag_true truth hcompile]
    exact extend_gated h d k _
  | false =>
    rw [applyTag_false truth]
    exact unextended_gated h d k s

end Template

/--
However a receiver is extended, every application succeeds. What comes of it calls the receiver and
then exactly what is behind the gates that hold, in order, and is the receiver if none does.
-/
theorem extended_gated {receiver : Callable} {gates : List Gate} {result : Except Fault Value}
    (h : Extended receiver gates result) :
    ∃ c, result = .ok (.callable c) ∧ Gated receiver gates c := by
  induction h with
  | start => exact ⟨receiver, rfl, .start receiver⟩
  | @direct gates v condition delimiter d k holds s prior plain fixed truth ih =>
    obtain ⟨c, hv, hc⟩ := ih
    cases hv
    have hfixed := Action.eq_of_fst fixed
    have htruth := ((counted_delimiterText delimiter s).isTrue condition).trans truth
    obtain ⟨c', s', hrun, hgated⟩ := Template.extendBy_gated hc htruth d k
    rw [Template.extendIf_ready plain hfixed condition k, hrun]
    exact ⟨c', rfl, hgated⟩
  | @swapped gates v condition ignored k holds s prior truth ih =>
    obtain ⟨c, hv, hc⟩ := ih
    cases hv
    obtain ⟨c', s', hrun, hgated⟩ := Template.extendBy_gated hc truth defaultDelimiter k
    rw [Template.extendIf_swapped, hrun]
    exact ⟨c', rfl, hgated⟩
  | @curried gates v condition fragments delimiter items d k holds s t prior plain fixed truth
      unchanged compiled ih =>
    obtain ⟨c, hv, hc⟩ := ih
    cases hv
    have hfixed := Action.eq_of_fst fixed
    obtain ⟨c', s', hrun, hgated⟩ := Template.applyTag_gated hc unchanged compiled d
    refine ⟨c', ?_, hgated⟩
    rw [Template.extendIf_tag plain hfixed condition]
    have hcall := Action.bind_ok hrun (f := fun c' => pure (Value.callable c'))
    exact congrArg Prod.fst hcall

/-- A store of two lists: one of a fragment, and an empty one. -/
def fragmentStore : Store :=
  ⟨#[.list [.text "b"], .list []], [], #[], 0, .generated, 100⟩

theorem compile_fragmentStore :
    Template.compile (.object 0) (some (.object 1)) fragmentStore =
      (.ok (.template 1 (.evaluator 0 .generated ["b"] [])),
        { fragmentStore with nextIdentity := 2 }) := by
  have hfragments : fragmentStore.IsList (.object 0) ([Fragment.plain "b"].map Fragment.value) :=
    ⟨⟨0, rfl, rfl⟩, nofun⟩
  have hitems : fragmentStore.IsList (.object 1) [] := ⟨⟨1, rfl, rfl⟩, nofun⟩
  exact compile_lists hfragments hitems

/-- A gate that does not hold, then one that does. -/
theorem extended_gated_text :
    ∃ c, (do let tag ← (Template.extendIf (.callable (.template 0 (.builtin .text))) (.bool true)
              none .nothing fragmentStore).1
             (tag.callTag (.object 0) (some (.object 1)) fragmentStore).1) = .ok (.callable c) ∧
      Gated (.builtin .text) [⟨false, "-", .builtin .length⟩,
        ⟨true, defaultDelimiter, .template 1 (.evaluator 0 .generated ["b"] [])⟩] c := by
  have hfixed := congrArg Prod.fst (delimiterText_text "-" fragmentStore)
  have hfalse : Value.nothing.isTrue fragmentStore = .ok false := rfl
  have hfirst : Extended (.builtin .text) [⟨false, "-", .builtin .length⟩]
      (.ok (.callable (.template 0 (.builtin .text)))) :=
    .direct .start (text_ne_callable "-") hfixed hfalse
  have hfragments : fragmentStore.IsList (.object 0) ([Fragment.plain "b"].map Fragment.value) :=
    ⟨⟨0, rfl, rfl⟩, nofun⟩
  have hitems : fragmentStore.IsList (.object 1) [] := ⟨⟨1, rfl, rfl⟩, nofun⟩
  have hcompile := congrArg Prod.fst (compile_lists hfragments hitems)
  exact extended_gated (.curried hfirst (fun _ => nofun) rfl rfl rfl fun _ => hcompile)

end Stencil
