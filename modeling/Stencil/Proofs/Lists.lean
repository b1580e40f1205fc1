import Stencil.Proofs.Compiling

/-!
Lists as fragments and items. A list is no template string, so that compiling two lists takes their
members as they are and succeeds.
-/

namespace Stencil

variable {s : Store}

/-- A list of the store with its members, to which no attribute was given: lists take none. -/
structure Store.IsList (s : Store) (v : Value) (members : List Value) : Prop where
  cell : ∃ a, v = .object a ∧ Reading.cell a s = .ok (.list members)
  bare : ∀ e ∈ s.extras, e.owner.same v = false

open Operation in
/-- No operation of a list has the name of an attribute of template strings. -/
private theorem strings_not_operation :
    (ofObject.contains ("strings" : Text) ||
      (Cell.list []).operations.contains ("strings" : Text)) = false := by
  decide +kernel

namespace Store.IsList

variable {v : Value} {members : List Value}

theorem extra? (h : s.IsList v members) (name : Text) : Reading.extra? v name s = .ok none := by
  have hfind : s.extras.find? (fun e => e.owner.same v && decide (e.name = name)) = none := by
    rw [List.find?_eq_none]
    intro e he
    simp [h.bare e he]
  exact congrArg Except.ok hfind

theorem typeAttributes (h : s.IsList v members) :
    ∃ doc, v.typeAttributes s = .ok [labelled "__hash__" .nothing, labelled "__doc__" doc] := by
  obtain ⟨a, rfl, hcell⟩ := h.cell
  have hclass : (Value.object a).class s = .ok (.type [] "list") := by
    unfold Value.class
    dsimp only
    rw [Reading.bind_ok hcell]
    rfl
  have hdescription : (Value.object a).description? s =
      .ok (some (Builtin.type [] "list").description) := by
    unfold Value.description?
    dsimp only
    rw [Reading.bind_ok hclass]
    rfl
  refine ⟨(Builtin.type [] "list").description, ?_⟩
  unfold Value.typeAttributes
  dsimp only
  rw [Reading.bind_ok hcell, pure_bind, Reading.bind_ok hdescription]
  rfl

theorem operations (h : s.IsList v members) :
    v.operations s = .ok (Cell.list members).operations := by
  obtain ⟨a, rfl, hcell⟩ := h.cell
  unfold Value.operations
  dsimp only
  rw [Reading.bind_ok hcell]
  rfl

theorem dictionary? (h : s.IsList v members) : v.dictionary? s = .ok none := by
  obtain ⟨a, rfl, hcell⟩ := h.cell
  unfold Value.dictionary?
  dsimp only
  rw [Reading.bind_ok hcell]
  unfold Value.laterDictionary?
  dsimp only
  rw [Reading.bind_ok (h.extra? _)]
  rfl

/-- A list refuses every attribute. -/
theorem setAttribute (h : s.IsList v members) (name : Text) (w : Value) :
    ∃ f, v.setAttribute name w s = (.error f, s) := by
  have hdictionary := h.dictionary?
  obtain ⟨a, rfl, hcell⟩ := h.cell
  unfold Value.setAttribute
  cases hguard : (Value.object a).guardChange .assign name (some w) s with
  | error f => exact ⟨f, Action.bind_lift_error hguard⟩
  | ok u =>
    have hpart : (Value.object a).changePart name (some w) s = (.ok false, s) := rfl
    have hextras : (Value.object a).takesExtras s = .ok false := by
      unfold Value.takesExtras
      dsimp only
      rw [Reading.bind_ok hcell]
      rfl
    rw [Action.bind_lift_ok hguard, Action.bind_ok hpart, if_neg Bool.false_ne_true,
      Action.bind_lift_ok hdictionary]
    dsimp only
    rw [Action.bind_lift_ok hcell]
    dsimp only
    unfold Value.giveExtra
    rw [Action.bind_lift_ok hextras, if_neg Bool.false_ne_true]
    cases hfault : (Value.object a).attributeFault name s with
    | error f => exact ⟨f, Action.bind_lift_error hfault⟩
    | ok f => exact ⟨f, Action.bind_lift_ok hfault⟩

theorem ownAttribute? (h : s.IsList v members) : v.ownAttribute? "strings" s = .ok none := by
  obtain ⟨doc, htype⟩ := h.typeAttributes
  have hoperation : v.hasOperation "strings" s = .ok false := by
    unfold Value.hasOperation
    rw [Reading.bind_ok h.operations]
    exact congrArg Except.ok strings_not_operation
  have htypeAttribute : v.typeAttribute? "strings" s = .ok none := by
    unfold Value.typeAttribute?
    rw [Reading.bind_ok htype]
    have hlookup : [labelled "__hash__" .nothing, labelled "__doc__" doc].lookup
        ("strings" : Text) = none := rfl
    rw [hlookup]
    dsimp only
    rw [Reading.bind_ok hoperation]
    rfl
  unfold Value.ownAttribute?
  rw [Reading.bind_ok h.dictionary?]
  dsimp only
  rw [Reading.bind_ok (h.extra? _)]
  exact htypeAttribute

theorem isTemplateString (h : s.IsList v members) :
    Template.isTemplateString v s = .ok false := by
  have hmissing : ∃ owner,
      v.missingAttribute "strings" s = .ok (.missingAttribute owner "strings") := by
    obtain ⟨a, rfl, hcell⟩ := h.cell
    have htype : (Value.object a).fullTypeName s = .ok "list" := by
      unfold Value.fullTypeName Value.typeName
      dsimp only
      rw [bind_assoc, Reading.bind_ok hcell]
      rfl
    refine ⟨Fault.object "list", ?_⟩
    unfold Value.missingAttribute Value.ownerName
    dsimp only
    rw [bind_assoc, Reading.bind_ok htype, pure_bind, Reading.bind_ok hcell]
    rfl
  obtain ⟨owner, howner⟩ := hmissing
  have hget : v.getAttribute "strings" s = .error (.missingAttribute owner "strings") := by
    unfold Value.getAttribute
    rw [if_neg (by decide), Reading.bind_ok h.ownAttribute?]
    dsimp only
    rw [Reading.bind_ok howner]
    rfl
  have hhas : v.hasAttribute "strings" s = .ok false := by
    have hget? : v.getAttribute? "strings" s = .ok none := by
      unfold Value.getAttribute?
      rw [hget]
      rfl
    unfold Value.hasAttribute
    rw [Reading.bind_ok hget?]
    rfl
  unfold Template.isTemplateString
  rw [Reading.bind_ok hhas]
  rfl

end Store.IsList

theorem fragmentsFrom_values (index : Nat) (fragments : List Fragment) (s : Store) :
    Layout.fragmentsFrom index (fragments.map Fragment.value) s = .ok fragments := by
  induction fragments generalizing index with
  | nil => rfl
  | cons f fragments ih =>
    have hf : Fragment.ofValue? f.value = some f := by cases f <;> rfl
    unfold Layout.fragmentsFrom
    rw [List.map_cons]
    dsimp only
    rw [hf]
    dsimp only
    rw [Reading.bind_ok (ih (index + 1))]
    rfl

private theorem members_of_list {a : Address} {members : List Value}
    (h : Reading.cell a s = .ok (.list members)) : (Value.object a).members s = .ok members := by
  unfold Value.members
  dsimp only
  rw [Reading.bind_ok h]
  rfl

namespace Layout

/-- Only a range is not gone through for its fragments, and it has none unless it is empty. -/
private theorem fragmentMembers_of_members {fs : Value} {fragments : List Fragment}
    (h : fs.members s = .ok (fragments.map Fragment.value)) :
    fragmentMembers fs s = .ok (fragments.map Fragment.value) := by
  cases fs with
  | range start stop step =>
    cases fragments with
    | nil => exact Value.firstMembers_of_members h 1
    | cons f fragments =>
      obtain ⟨_, -, h⟩ := Reading.bind_eq_ok h
      have hmembers : rangeMembers (rangeLength start stop step) start stop step =
          (f :: fragments).map Fragment.value := Except.ok.inj h
      have hmember : f.value ∈ rangeMembers (rangeLength start stop step) start stop step := by
        simp [hmembers]
      obtain ⟨i, -, hi⟩ := List.mem_map.mp hmember
      cases f <;> cases hi
  | _ => exact h

theorem prepare_members {fs : Value} {is : Option Value} {fragments : List Fragment}
    {items : List Value} (hs : ¬ fs.isString)
    (hf : fs.members s = .ok (fragments.map Fragment.value))
    (hi : firstItems fragments.length is s = .ok items) :
    prepare fs is s = .ok ⟨fragments, items.map Value.classify⟩ := by
  unfold prepare
  rw [if_neg hs]
  change (fragmentMembers fs >>= _) s = _
  rw [Reading.bind_ok (fragmentMembers_of_members hf),
    Reading.bind_ok (fragmentsFrom_values 0 fragments s), Reading.bind_ok hi]
  rfl

end Layout

theorem prepare_cells {a b : Address} {fragments : List Fragment} {items : List Value}
    (ha : Reading.cell a s = .ok (.list (fragments.map Fragment.value)))
    (hb : Reading.cell b s = .ok (.list items)) :
    Layout.prepare (.object a) (some (.object b)) s =
      .ok ⟨fragments, (items.take fragments.length).map Value.classify⟩ := by
  have hstring : ¬ (Value.object a).isString := Bool.false_ne_true
  have hfirst : Layout.firstItems fragments.length (some (.object b)) s =
      .ok (items.take fragments.length) :=
    Value.firstMembers_of_members (members_of_list hb) fragments.length
  exact Layout.prepare_members hstring (members_of_list ha) hfirst

theorem prepare_lists {fs is : Value} {fragments : List Fragment} {items : List Value}
    (hf : s.IsList fs (fragments.map Fragment.value)) (hi : s.IsList is items) :
    Layout.prepare fs (some is) s =
      .ok ⟨fragments, (items.take fragments.length).map Value.classify⟩ := by
  obtain ⟨a, rfl, ha⟩ := hf.cell
  obtain ⟨b, rfl, hb⟩ := hi.cell
  exact prepare_cells ha hb

/-- Compiling lists succeeds by the strategy of the process. -/
theorem compile_lists {fs is : Value} {fragments : List Fragment} {items : List Value}
    (hf : s.IsList fs (fragments.map Fragment.value)) (hi : s.IsList is items) :
    Template.compile fs (some is) s =
      (.ok (.template (s.nextIdentity + 1) (.evaluator s.nextIdentity s.strategy
          (fragments.map Fragment.text) ((items.take fragments.length).map Value.classify))),
        { s with nextIdentity := s.nextIdentity + 2 }) := by
  have hevaluator : Template.compileEvaluator fs (some is) s =
      (.ok (.evaluator s.nextIdentity s.strategy (fragments.map Fragment.text)
          ((items.take fragments.length).map Value.classify)),
        { s with nextIdentity := s.nextIdentity + 1 }) :=
    Template.compileWith_ok s.strategy (prepare_lists hf hi)
  unfold Template.compile
  rw [Action.bind_lift_ok hf.isTemplateString, if_neg Bool.false_ne_true,
    Action.bind_ok hevaluator]
  rfl

end Stencil
