import Stencil.Call
import Stencil.Proofs.Effects

/-!
What compiling makes of fragments and items: an evaluator of at most as many slots as there are
fragments, in which no literal holds nothing.
-/

namespace Stencil

variable {s : Store}

theorem Value.classify_ne (v : Value) : v.classify ≠ .literal .nothing := by
  cases v <;> simp [classify]

namespace Value

/-- The first members of a value are taken from its members. -/
theorem firstMembers_of_members {v : Value} {vs : List Value} (h : v.members s = .ok vs)
    (count : Nat) : v.firstMembers count s = .ok (vs.take count) := by
  cases v with
  | range start stop step =>
    obtain ⟨_, hroom, h⟩ := Reading.bind_eq_ok h
    have hvs : rangeMembers (rangeLength start stop step) start stop step = vs :=
      Except.ok.inj h
    have htake : rangeMembers count start stop step = vs.take count := by
      rw [← hvs]
      simp [rangeMembers, ← List.map_take, List.take_range]
    unfold firstMembers
    dsimp only
    rw [Reading.bind_ok hroom, htake]
    rfl
  | _ => exact Reading.bind_ok h

end Value

namespace Layout

theorem length_firstItems_le {count : Nat} {items : Option Value} {vs : List Value}
    (h : firstItems count items s = .ok vs) : vs.length ≤ count := by
  cases items with
  | none => cases h; exact Nat.zero_le count
  | some v =>
    unfold firstItems Value.firstMembers at h
    dsimp only at h
    split at h
    · obtain ⟨_, -, h⟩ := Reading.bind_eq_ok h
      cases h
      simp only [rangeMembers, List.length_map, List.length_range]
      omega
    · obtain ⟨members, -, h⟩ := Reading.bind_eq_ok h
      cases h
      simp only [List.length_take]
      omega

/-- The slots are those of the items that have a fragment before them. -/
theorem prepare_items {fragments : Value} {items : Option Value} {l : Layout}
    (h : prepare fragments items s = .ok l) :
    ∃ vs, firstItems l.fragments.length items s = .ok vs ∧ l.slots = vs.map Value.classify := by
  unfold prepare at h
  split at h
  · cases h
  obtain ⟨members, -, h⟩ := Reading.bind_eq_ok h
  obtain ⟨fs, -, h⟩ := Reading.bind_eq_ok h
  obtain ⟨vs, hvs, h⟩ := Reading.bind_eq_ok h
  cases h
  exact ⟨vs, hvs, rfl⟩

/-- What is copied of fragments and items: there is a fragment before each slot. -/
theorem prepare_slots {fragments : Value} {items : Option Value} {l : Layout}
    (h : prepare fragments items s = .ok l) :
    l.slots.length ≤ l.texts.length ∧ ∀ slot ∈ l.slots, slot ≠ .literal .nothing := by
  obtain ⟨vs, hvs, hslots⟩ := prepare_items h
  rw [hslots]
  refine ⟨by simpa [texts] using length_firstItems_le hvs, fun slot hslot => ?_⟩
  obtain ⟨v, -, rfl⟩ := List.mem_map.mp hslot
  exact v.classify_ne

/-- A layout that fragments and items were prepared to, in some store. -/
def Prepared (l : Layout) : Prop :=
  ∃ fragments items s, prepare fragments items s = .ok l

end Layout

namespace Template

variable (strategy : Strategy) {fragments : Value} {items : Option Value}

theorem compileWith_ok {l : Layout} (h : Layout.prepare fragments items s = .ok l) :
    compileWith strategy fragments items s =
      (.ok (.evaluator s.nextIdentity strategy l.texts l.slots),
        { s with nextIdentity := s.nextIdentity + 1 }) := by
  unfold compileWith
  rw [Action.bind_lift_ok h]
  rfl

theorem compileWith_error {f : Fault} (h : Layout.prepare fragments items s = .error f) :
    compileWith strategy fragments items s = (.error f, s) := by
  unfold compileWith
  rw [Action.bind_lift_error h]

variable {c : Callable} {s' : Store}

private theorem wrap_evaluator_eq_ok
    (run : (compileEvaluator fragments items >>= wrap) s = (.ok c, s')) :
    ∃ id id' strategy l, Layout.Prepared l ∧
      c = .template id (.evaluator id' strategy l.texts l.slots) := by
  obtain ⟨body, s₁, hbody, run⟩ := Action.bind_eq_ok run
  cases run
  unfold compileEvaluator at hbody
  obtain ⟨u, s₂, -, hbody⟩ := Action.bind_eq_ok hbody
  unfold compileWith at hbody
  obtain ⟨l, hprepare, hbody⟩ := Action.bind_lift_eq_ok hbody
  obtain ⟨id, s₃, -, hbody⟩ := Action.bind_eq_ok hbody
  cases hbody
  exact ⟨_, _, _, l, ⟨_, _, _, hprepare⟩, rfl⟩

/-- A template is compiled to an evaluator, whatever its fragments and items are. -/
theorem compile_eq_ok (run : compile fragments items s = (.ok c, s')) :
    ∃ id id' strategy l, Layout.Prepared l ∧
      c = .template id (.evaluator id' strategy l.texts l.slots) := by
  unfold compile at run
  obtain ⟨b, -, run⟩ := Action.bind_lift_eq_ok run
  split at run
  · -- A template string is taken apart, and what it holds is compiled as given parts are.
    obtain ⟨given, -, run⟩ := Action.bind_lift_eq_ok run
    split at run
    · cases run
    obtain ⟨parts, -, run⟩ := Action.bind_lift_eq_ok run
    obtain ⟨members, -, run⟩ := Action.bind_lift_eq_ok run
    obtain ⟨values, -, run⟩ := Action.bind_lift_eq_ok run
    obtain ⟨is, s₁, -, run⟩ := Action.bind_eq_ok run
    obtain ⟨fs, -, run⟩ := Action.bind_lift_eq_ok run
    exact wrap_evaluator_eq_ok run
  · exact wrap_evaluator_eq_ok run

end Template
end Stencil
