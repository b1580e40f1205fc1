import Stencil.Proofs.Gates

/-!
When the condition of an extension decides. With a continuation at hand it decides at once, and
nothing that happens to the condition later matters. Without one the tag that is returned keeps the
condition itself and asks again whenever it is called.
-/

namespace Stencil

/--
What calling a tag gives that waits behind a receiver: the condition as it is by now decides, and
only if it holds are the fragments and items compiled.
-/
inductive Applied (receiver : Callable) (condition : Value) (d : Text) (fragments : Value)
    (items : Option Value) (s : Store) : Except Fault Value × Store → Prop
  | uncompiled {f : Fault} {s' : Store} (truth : condition.isTrue s = .ok true)
      (compile : Template.compile fragments items s = (.error f, s')) :
      Applied receiver condition d fragments items s (.error f, s')
  | extended {k c : Callable} {s₁ s' : Store} (truth : condition.isTrue s = .ok true)
      (compile : Template.compile fragments items s = (.ok k, s₁))
      (gated : Gated receiver [⟨true, d, k⟩] c) :
      Applied receiver condition d fragments items s (.ok (.callable c), s')
  /-- Nothing is compiled: the store has at most one identity less to give. -/
  | unextended {c : Callable} {n : Identity} (truth : condition.isTrue s = .ok false)
      (gated : ∀ k, Gated receiver [⟨false, d, k⟩] c) :
      Applied receiver condition d fragments items s
        (.ok (.callable c), { s with nextIdentity := n })

/--
What a conditional extension gives, by the delimiter and the continuation that its arguments mean:
the receiver, extended or not as the condition has it now; a tag; or a fault.
-/
inductive Decided (receiver : Callable) (condition : Value) (s : Store) :
    Except Fault (Text × Value) → Except Fault Value → Prop
  | undelimited {f : Fault} : Decided receiver condition s (.error f) (.error f)
  | direct {d : Text} {k c : Callable} {holds : Bool} (truth : condition.isTrue s = .ok holds)
      (gated : Gated receiver [⟨holds, d, k⟩] c) :
      Decided receiver condition s (.ok (d, .callable k)) (.ok (.callable c))
  | curried {d : Text} {tag : Callable}
      (applied : ∀ fragments items t, Applied receiver condition d fragments items t
        ((Value.callable tag).callTag fragments items t)) :
      Decided receiver condition s (.ok (d, .nothing)) (.ok (.callable tag))
  | uncallable {d : Text} {v : Value} {name : Text} (missing : v.callable? = none)
      (something : v.isNothing = false) :
      Decided receiver condition s (.ok (d, v)) (.error (.invalidContinuation v name))

namespace Template

variable {receiver : Callable}

private theorem counted_arguments (delimiter : Option Value) (continuation : Value) (s : Store) :
    Counted s (arguments delimiter continuation s).2 := by
  cases delimiter with
  | none => exact .none
  | some v =>
    by_cases hv : ∃ c, v = .callable c
    · obtain ⟨c, rfl⟩ := hv
      exact .none
    · have plain : ∀ c, some v ≠ some (.callable c) := fun c hc => hv ⟨c, Option.some.inj hc⟩
      have hcounted := counted_delimiterText (some v) s
      rw [arguments_eq plain continuation]
      rcases ht : delimiterText (some v) s with ⟨f | d, s₁⟩
      · rw [ht] at hcounted
        rwa [Action.bind_error ht]
      · rw [ht] at hcounted
        rwa [Action.bind_ok ht]

private theorem callTag_applied (id : Identity) (condition fragments : Value) (items : Option Value)
    (d : Text) (t : Store) :
    Applied receiver condition d fragments items t
      ((Value.callable (.tag id receiver condition d)).callTag fragments items t) := by
  obtain ⟨holds, truth⟩ := condition.total_isTrue t
  unfold Value.callTag
  dsimp only
  cases holds with
  | true =>
    rcases hc : compile fragments items t with ⟨f | k, t₁⟩
    · rw [Action.bind_error (applyTag_error truth hc d)]
      exact .uncompiled truth hc
    · obtain ⟨c, t₂, hrun, hgated⟩ := extend_gated (.start receiver) d k t₁
      rw [Action.bind_ok ((applyTag_true truth hc d).trans hrun)]
      exact .extended truth hc hgated
  | false =>
    have hrun := applyTag_false (c := receiver) truth fragments items d
    by_cases hr : receiver.isTemplate
    · rw [Action.bind_ok (hrun.trans (unextended_template hr t))]
      exact .unextended (n := t.nextIdentity) truth fun k => Gated.keep (.start receiver) d k hr
    · rw [Action.bind_ok (hrun.trans (unextended_other hr t))]
      exact .unextended truth fun k => Gated.wrap (.start receiver) _ d k hr

end Template

open Template in
/--
A conditional extension with a continuation is decided by the condition at that time. Without one it
is decided anew at every call of the tag, by the condition at the time of that call.
-/
theorem condition_decides (receiver : Callable) (condition continuation : Value)
    (delimiter : Option Value) (s : Store) :
    Decided receiver condition s (arguments delimiter continuation s).1
      (extendIf (.callable receiver) condition delimiter continuation s).1 := by
  have hcounted := counted_arguments delimiter continuation s
  unfold extendIf
  dsimp only
  rcases ha : arguments delimiter continuation s with ⟨f | ⟨d, k⟩, s₁⟩
  · rw [Action.bind_error ha]
    exact .undelimited
  rw [Action.bind_ok ha]
  -- The text of a delimiter may use up identities, on which no truth depends.
  rw [ha] at hcounted
  dsimp only
  split
  · exact .curried fun fragments items t => callTag_applied _ condition fragments items d t
  · rename_i k
    obtain ⟨holds, truth⟩ := condition.total_isTrue s
    obtain ⟨c, s', hrun, hgated⟩ :=
      extendBy_gated (.start receiver) ((hcounted.isTrue condition).trans truth) d k
    change Decided receiver condition s _ (extendBy receiver condition d k s₁).1
    rw [hrun]
    exact .direct truth hgated
  · rename_i something uncallable
    obtain ⟨name, hname⟩ := k.total_bareTypeName s₁
    rw [Action.bind_lift_ok hname]
    refine .uncallable ?_ ?_
    · cases k with
      | callable k => exact absurd rfl (uncallable k)
      | _ => rfl
    · cases k with
      | nothing => exact absurd rfl something
      | _ => rfl

/-- A list of a fragment, and a list that counts as true. -/
def conditionStore : Store :=
  ⟨#[.list [.text "b"], .list [.int 1]], [], #[], 2, .generated, 100⟩

/--
A condition that holds when the extension is asked for, and is emptied before the tag is called: the
receiver comes back as it was.
-/
theorem emptied_condition_unextended :
    ∃ (receiver tag : Callable) (s₁ s₂ : Store),
      (Value.object 1).isTrue conditionStore = .ok true ∧
      Template.extendIf (.callable receiver) (.object 1) none .nothing conditionStore =
        (.ok (.callable tag), s₁) ∧
      (Value.object 1).clearOrCall s₁ = (.ok .nothing, s₂) ∧
      (Value.callable tag).callTag (.object 0) none s₂ = (.ok (.callable receiver), s₂) :=
  ⟨.template 1 (.evaluator 0 .generated ["a"] []), _, _, _, rfl, rfl, rfl, rfl⟩

end Stencil
