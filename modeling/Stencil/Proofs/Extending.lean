import Stencil.Call
import Stencil.Proofs.Counting

/-!
What the conditional extension of a callable does, for each way of passing the delimiter and the
continuation.
-/

namespace Stencil

def Callable.isTemplate : Callable → Bool
  | .template .. => true
  | _ => false

def delimiterText : Option Value → Action Text
  | none | some .nothing => return defaultDelimiter
  | some v => v.toText

theorem counted_delimiterText (delimiter : Option Value) (s : Store) :
    Counted s (delimiterText delimiter s).2 := by
  unfold delimiterText
  split
  · exact .none
  · exact .none
  · exact Value.counted_toText _ s

theorem text_ne_callable (d : Text) (c : Callable) :
    some (Value.text d) ≠ some (.callable c) := by
  simp [Value.text]

@[simp] theorem delimiterText_text (d : Text) (s : Store) :
    delimiterText (some (.text d)) s = (.ok d, s) :=
  congrFun (Value.toText_text d) s

namespace Template

variable {c : Callable}

theorem unextended_template (h : c.isTemplate) (s : Store) : unextended c s = (.ok c, s) := by
  cases c with
  | template id body => rfl
  | _ => cases h

theorem unextended_other (h : ¬ c.isTemplate) (s : Store) :
    unextended c s =
      (.ok (.template s.nextIdentity c), { s with nextIdentity := s.nextIdentity + 1 }) := by
  cases c with
  | template id body => exact absurd rfl h
  | _ => rfl

theorem extend_ok (d : Text) (k : Callable) (s : Store) :
    extend c d k s =
      (.ok (.template (s.nextIdentity + 1) (.chain s.nextIdentity c d k)),
        { s with nextIdentity := s.nextIdentity + 2 }) :=
  rfl

theorem arguments_eq {delimiter : Option Value} (plain : ∀ c, delimiter ≠ some (.callable c))
    (continuation : Value) :
    arguments delimiter continuation =
      (do let d ← delimiterText delimiter
          pure (d, continuation)) := by
  unfold arguments delimiterText
  cases delimiter with
  | none => rfl
  | some v =>
    cases v with
    | callable c => exact absurd rfl (plain c)
    | _ => rfl

def extendBy (receiver : Callable) (condition : Value) (d : Text) (k : Callable) :
    Action Value := do
  if (← condition.isTrue) then return .callable (← extend receiver d k)
  else return .callable (← unextended receiver)

theorem extendIf_ready {delimiter : Option Value} (plain : ∀ c, delimiter ≠ some (.callable c))
    {d : Text} {s s₁ : Store} (fixed : delimiterText delimiter s = (.ok d, s₁)) (condition : Value)
    (k : Callable) :
    extendIf (.callable c) condition delimiter (.callable k) s = extendBy c condition d k s₁ := by
  unfold extendIf
  dsimp only
  rw [arguments_eq plain, bind_assoc, Action.bind_ok fixed]
  rfl

theorem extendIf_swapped (condition ignored : Value) (k : Callable) (s : Store) :
    extendIf (.callable c) condition (some (.callable k)) ignored s =
      extendBy c condition defaultDelimiter k s :=
  rfl

theorem extendIf_tag {delimiter : Option Value} (plain : ∀ c, delimiter ≠ some (.callable c))
    {d : Text} {s s₁ : Store} (fixed : delimiterText delimiter s = (.ok d, s₁))
    (condition : Value) :
    extendIf (.callable c) condition delimiter .nothing s =
      (.ok (.callable (.tag s₁.nextIdentity c condition d)),
        { s₁ with nextIdentity := s₁.nextIdentity + 1 }) := by
  unfold extendIf
  dsimp only
  rw [arguments_eq plain, bind_assoc, Action.bind_ok fixed]
  rfl

theorem applyTag_true {condition fragments : Value} {items : Option Value} {k : Callable}
    {s s₁ : Store} (truth : condition.isTrue s = .ok true)
    (compiled : compile fragments items s = (.ok k, s₁)) (d : Text) :
    applyTag c condition d fragments items s = extend c d k s₁ := by
  unfold applyTag
  rw [Action.bind_lift_ok truth, if_pos rfl, Action.bind_ok compiled]

theorem applyTag_error {condition fragments : Value} {items : Option Value} {f : Fault}
    {s s₁ : Store} (truth : condition.isTrue s = .ok true)
    (failed : compile fragments items s = (.error f, s₁)) (d : Text) :
    applyTag c condition d fragments items s = (.error f, s₁) := by
  unfold applyTag
  rw [Action.bind_lift_ok truth, if_pos rfl, Action.bind_error failed]

theorem applyTag_false {condition : Value} {s : Store} (truth : condition.isTrue s = .ok false)
    (fragments : Value) (items : Option Value) (d : Text) :
    applyTag c condition d fragments items s = unextended c s := by
  unfold applyTag
  rw [Action.bind_lift_ok truth, if_neg Bool.false_ne_true]

end Template

/-- What extending a callable comes to: at most a continuation of an allowed kind is put behind it,
and a template comes of it. -/
inductive Extension (c : Callable) (allowed : Callable → Prop) : Callable → Prop
  | kept (template : c.isTemplate) : Extension c allowed c
  | wrapped {id : Identity} : Extension c allowed (.template id c)
  | chained {id id' : Identity} {d : Text} {k : Callable} (continuation : allowed k) :
      Extension c allowed (.template id (.chain id' c d k))

theorem Extension.isTemplate {c c' : Callable} {allowed : Callable → Prop}
    (h : Extension c allowed c') : c'.isTemplate := by
  cases h with
  | kept template => exact template
  | wrapped | chained _ => rfl

namespace Template

variable {c c' : Callable} {allowed : Callable → Prop} {s s' : Store}

private theorem extension_of_unextended (run : unextended c s = (.ok c', s')) :
    Extension c allowed c' := by
  by_cases hc : c.isTemplate
  · rw [unextended_template hc s] at run
    cases run
    exact .kept hc
  · rw [unextended_other hc s] at run
    cases run
    exact .wrapped

private theorem extension_of_extend {d : Text} {k : Callable} (hk : allowed k)
    (run : extend c d k s = (.ok c', s')) : Extension c allowed c' := by
  rw [extend_ok d k s] at run
  cases run
  exact .chained hk

/-- An extension that succeeds gives a tag, or puts behind the receiver what was passed. -/
theorem extendIf_eq_ok {condition continuation v : Value} {delimiter : Option Value}
    (run : extendIf (.callable c) condition delimiter continuation s = (.ok v, s')) :
    (∃ id d, v = .callable (.tag id c condition d)) ∨
      ∃ c', v = .callable c' ∧ Extension c
        (fun k => delimiter = some (.callable k) ∨ continuation = .callable k) c' := by
  unfold extendIf at run
  dsimp only at run
  obtain ⟨⟨d, k⟩, s₁, hmeant, run⟩ := Action.bind_eq_ok run
  have hpassed : delimiter = some k ∨ continuation = k := by
    unfold arguments at hmeant
    split at hmeant
    · cases hmeant
      exact .inl rfl
    · cases hmeant
      exact .inr rfl
    · cases hmeant
      exact .inr rfl
    · obtain ⟨t, s₂, -, hmeant⟩ := Action.bind_eq_ok hmeant
      cases hmeant
      exact .inr rfl
  dsimp only at run
  cases k with
  | nothing =>
    obtain ⟨id, s₂, -, run⟩ := Action.bind_eq_ok run
    cases run
    exact .inl ⟨id, d, rfl⟩
  | callable k =>
    right
    obtain ⟨holds, -, run⟩ := Action.bind_lift_eq_ok run
    split at run
    · obtain ⟨c', s₂, hrun, run⟩ := Action.bind_eq_ok run
      cases run
      exact ⟨c', rfl, extension_of_extend hpassed hrun⟩
    · obtain ⟨c', s₂, hrun, run⟩ := Action.bind_eq_ok run
      cases run
      exact ⟨c', rfl, extension_of_unextended hrun⟩
  | _ =>
    obtain ⟨name, -, run⟩ := Action.bind_lift_eq_ok run
    cases run

/-- A tag that succeeds puts behind the receiver at most what it compiled. -/
theorem applyTag_eq_ok {condition fragments : Value} {items : Option Value} {d : Text}
    (run : applyTag c condition d fragments items s = (.ok c', s')) :
    Extension c (fun k => ∃ s₁, compile fragments items s = (.ok k, s₁)) c' := by
  unfold applyTag at run
  obtain ⟨holds, -, run⟩ := Action.bind_lift_eq_ok run
  split at run
  · obtain ⟨k, s₁, hk, run⟩ := Action.bind_eq_ok run
    exact extension_of_extend ⟨s₁, hk⟩ run
  · exact extension_of_unextended run

end Template
end Stencil
