import Stencil.Proofs.Counting
import Stencil.Proofs.Finding
import Stencil.Proofs.Naming

/-!
The strategy of a process: the setting that the environment gives, and the probe, which is run only
if the setting leaves the choice open.
-/

namespace Stencil

variable {s : Store}

namespace Setting

/-- The setting that an environment gives: the one that the text of the variable names, and auto if
the variable is not set. -/
inductive GivenBy (s : Store) (environment : Value) : Setting → Prop
  | unset (h : ∀ v, ¬ environment.Finds s (.text variableName) v) : GivenBy s environment .auto
  | named {setting : Setting} {v : Value} {t : Text}
      (h : environment.Finds s (.text variableName) v) (ht : v.text? = some t)
      (hn : setting.NamedBy t) : GivenBy s environment setting

/-- A text gives the setting that it names. Nothing else gives one. -/
theorem ofValue_eq_ok_iff {v : Value} {setting : Setting} :
    ofValue v = .ok setting ↔ ∃ t, v.text? = some t ∧ setting.NamedBy t := by
  have hnamed : (∃ t, v.text? = some t ∧ setting.NamedBy t) ↔
      v.text?.bind ofText? = some setting := by
    rw [Option.bind_eq_some_iff]
    exact exists_congr fun t => and_congr_right fun _ => ofText?_eq_some_iff.symm
  rw [hnamed]
  unfold ofValue
  cases v.text?.bind ofText? with
  | some given => simp
  | none =>
    dsimp only
    split <;> exact iff_of_false nofun nofun

/-- Whatever gives no setting is not valid. -/
theorem ofValue_error {v : Value} {f : Fault} (h : ofValue v = .error f) : f.cls = .validation := by
  unfold ofValue at h
  split at h
  · cases h
  · split at h <;> cases h <;> rfl

section Environment

variable {a : Address} {form : MappingForm} {entries : Entries}

theorem load_mapping (cell : Reading.cell a s = .ok (.mapping form entries)) :
    load (.object a) s =
      match entries.find? fun e => e.1.isFor (.text variableName) with
      | some e => ofValue e.2
      | none => .ok .auto := by
  have hentries : (Value.object a).entries? s = .ok (some entries) := Reading.bind_ok cell
  have hfound : Value.find? entries (.text variableName) s =
      .ok ((entries.find? fun e => e.1.isFor (.text variableName)).map Prod.snd) :=
    congrFun (entries.find?_key (.text variableName)) s
  have hset : isSet (.object a) s =
      .ok (entries.find? fun e => e.1.isFor (.text variableName)).isSome := by
    unfold isSet
    rw [Reading.bind_ok hentries]
    dsimp only
    rw [Reading.bind_ok hfound, Option.isSome_map]
    rfl
  -- The variable is looked for once more when its value is taken.
  unfold load
  rw [Reading.bind_ok hset]
  cases hfirst : entries.find? fun e => e.1.isFor (.text variableName) with
  | none => rfl
  | some e =>
    have hitem : (Value.object a).getItem (.text variableName) s = .ok e.2 := by
      rw [hfirst] at hfound
      exact (Reading.bind_ok cell).trans (Reading.bind_ok hfound)
    exact Reading.bind_ok hitem

theorem load_eq_ok_iff (cell : Reading.cell a s = .ok (.mapping form entries))
    {setting : Setting} :
    load (.object a) s = .ok setting ↔ setting.GivenBy s (.object a) := by
  rw [load_mapping cell]
  cases hfirst : entries.find? fun e => e.1.isFor (.text variableName) with
  | none =>
    have hunset : ∀ v, ¬ (Value.object a).Finds s (.text variableName) v := by
      intro v h
      obtain ⟨e, hsome, -⟩ := (Value.finds_mapping_iff cell).mp h
      cases hfirst.symm.trans hsome
    constructor
    · intro h
      cases h
      exact .unset hunset
    · rintro (_ | ⟨h, -, -⟩)
      · rfl
      · exact absurd h (hunset _)
  | some e =>
    have hfinds := (Value.finds_mapping_iff cell).mpr ⟨e, hfirst, rfl⟩
    refine ofValue_eq_ok_iff.trans ⟨fun ⟨t, ht, hn⟩ => .named hfinds ht hn, ?_⟩
    rintro (h | ⟨h, ht, hn⟩)
    · exact absurd hfinds (h _)
    · obtain ⟨e', hsome, rfl⟩ := (Value.finds_mapping_iff cell).mp h
      cases hfirst.symm.trans hsome
      exact ⟨_, ht, hn⟩

/-- An environment that gives no setting is not valid. -/
private theorem load_ungiven (cell : Reading.cell a s = .ok (.mapping form entries))
    (h : ¬ ∃ setting : Setting, setting.GivenBy s (.object a)) :
    ∃ f, load (.object a) s = .error f ∧ f.cls = .validation := by
  cases hload : load (.object a) s with
  | ok setting => exact absurd ⟨setting, (load_eq_ok_iff cell).mp hload⟩ h
  | error f =>
    refine ⟨f, rfl, ?_⟩
    rw [load_mapping cell] at hload
    split at hload
    · exact ofValue_error hload
    · cases hload

end Environment

end Setting

/-- Actions beside which the runs of a probe are counted. -/
abbrev Tallied (α : Type) := ExceptT Fault (StateM (Nat × Store)) α

namespace Tallied

variable {α : Type}

def read (r : Reading α) : Tallied α :=
  fun (runs, s) => (r s, runs, s)

def run (probe : Action α) : Tallied α :=
  fun (runs, s) => ((probe s).1, runs + 1, (probe s).2)

variable {outcome : Except Fault α} {s' : Store}

theorem read_eq {r : Reading α} (h : r s = outcome) (before : Nat) :
    read r (before, s) = (outcome, before, s) :=
  congrArg (·, before, s) h

theorem run_eq {probe : Action α} (h : probe s = (outcome, s')) (before : Nat) :
    run probe (before, s) = (outcome, before + 1, s') := by
  unfold run
  dsimp only
  rw [h]

end Tallied

namespace Strategy

def answers (probe : Action Value) : Action Bool := do
  (← probe).isTrue

def choose (setting : Setting) (probe : Action Value) : Tallied Strategy :=
  select setting (.run (answers probe))

def ofProcess (environment : Value) (probe : Action Value) : Tallied Strategy := do
  choose (← Tallied.read (Setting.load environment)) probe

/-- What is chosen for a setting, how often the probe is run for it, and the store that is left. -/
inductive Chosen (probe : Action Value) (s : Store) :
    Setting → (runs : Nat) → Except Fault Strategy → Store → Prop
  | forced (strategy : Strategy) : Chosen probe s (.forced strategy) 0 (.ok strategy) s
  | answered {v : Value} {answer : Bool} {s' : Store} (run : probe s = (.ok v, s'))
      (truth : v.isTrue s' = .ok answer) :
      Chosen probe s .auto 1 (.ok (if answer then .generated else .interpreted)) s'
  | failed {f : Fault} {s' : Store} (run : probe s = (.error f, s')) :
      Chosen probe s .auto 1 (.error f) s'

variable {probe : Action Value}

theorem exists_chosen (probe : Action Value) (s : Store) (setting : Setting) :
    ∃ runs outcome s', Chosen probe s setting runs outcome s' := by
  cases setting with
  | forced strategy => exact ⟨_, _, _, .forced strategy⟩
  | auto =>
    cases hrun : probe s with
    | mk outcome s' =>
      cases outcome with
      | error f => exact ⟨_, _, _, .failed hrun⟩
      | ok v =>
        obtain ⟨answer, truth⟩ := v.total_isTrue s'
        exact ⟨_, _, _, .answered hrun truth⟩

variable {setting : Setting} {runs : Nat} {outcome : Except Fault Strategy} {s' : Store}

theorem Chosen.choose_eq (h : Chosen probe s setting runs outcome s') (before : Nat) :
    choose setting probe (before, s) = (outcome, before + runs, s') := by
  cases h with
  | forced strategy => rfl
  | @answered v answer _ run truth =>
    have hanswers : answers probe s = (.ok answer, s') :=
      (Action.bind_ok run).trans (congrArg (·, s') truth)
    exact Action.bind_ok (Tallied.run_eq hanswers before)
  | @failed f _ run =>
    have hanswers : answers probe s = (.error f, s') := Action.bind_error run
    exact Action.bind_error (Tallied.run_eq hanswers before)

variable {environment : Value}

private theorem ofProcess_of_load (h : Setting.load environment s = .ok setting) (before : Nat) :
    ofProcess environment probe (before, s) = choose setting probe (before, s) :=
  Action.bind_ok (Tallied.read_eq h before)

private theorem ofProcess_of_error {f : Fault} (h : Setting.load environment s = .error f)
    (before : Nat) :
    ofProcess environment probe (before, s) = (.error f, before, s) :=
  Action.bind_error (Tallied.read_eq h before)

end Strategy

/--
An environment gives a setting or is not valid. A setting that is forced is chosen without a run of
the probe; otherwise the probe is run once, and what it answers or fails with decides.
-/
theorem strategy_chosen {a : Address} {form : MappingForm} {entries : Entries}
    (cell : Reading.cell a s = .ok (.mapping form entries)) (probe : Action Value) :
    (∀ setting, Setting.load (.object a) s = .ok setting ↔ setting.GivenBy s (.object a)) ∧
      ((¬ ∃ setting : Setting, setting.GivenBy s (.object a)) →
        ∃ f, Setting.load (.object a) s = .error f ∧ f.cls = .validation ∧
          ∀ before, Strategy.ofProcess (.object a) probe (before, s) = (.error f, before, s)) ∧
      ∀ setting : Setting, ∃ runs outcome s', Strategy.Chosen probe s setting runs outcome s' ∧
        (∀ before, Strategy.choose setting probe (before, s) = (outcome, before + runs, s')) ∧
        (setting.GivenBy s (.object a) → ∀ before,
          Strategy.ofProcess (.object a) probe (before, s) = (outcome, before + runs, s')) := by
  refine ⟨fun setting => Setting.load_eq_ok_iff cell, fun h => ?_, fun setting => ?_⟩
  · obtain ⟨f, hload, hcls⟩ := Setting.load_ungiven cell h
    exact ⟨f, hload, hcls, Strategy.ofProcess_of_error hload⟩
  · obtain ⟨runs, outcome, s', hchosen⟩ := Strategy.exists_chosen probe s setting
    refine ⟨runs, outcome, s', hchosen, hchosen.choose_eq, fun hgiven before => ?_⟩
    rw [Strategy.ofProcess_of_load ((Setting.load_eq_ok_iff cell).mpr hgiven)]
    exact hchosen.choose_eq before

/-- Environments: the variable is a setting between blanks, is not set, and starts with U+0130. -/
def environmentStore : Store :=
  ⟨#[.mapping .plain (.ofTexts [(Setting.variableName, .text "\u2003GENERATED\t")]),
    .mapping .plain [],
    .mapping .proxy (.ofTexts [(Setting.variableName, .text "\u0130nterpreted")])],
    [], #[], 0, .generated, 100⟩

theorem strategy_chosen_between_blanks :
    Strategy.ofProcess (.object 0) (throw .generatorStopped) (0, environmentStore) =
        (.ok .generated, 0, environmentStore) ∧
      Strategy.ofProcess (.object 1) (pure (.int 0)) (0, environmentStore) =
        (.ok .interpreted, 1, environmentStore) ∧
      ∃ f, Setting.load (.object 2) environmentStore = .error f ∧ f.cls = .validation := by
  have hnamed : Reading.cell 0 environmentStore =
      .ok (.mapping .plain (.ofTexts [(Setting.variableName, .text "\u2003GENERATED\t")])) := rfl
  have hunset : Reading.cell 1 environmentStore = .ok (.mapping .plain []) := rfl
  have hother : Reading.cell 2 environmentStore =
      .ok (.mapping .proxy (.ofTexts [(Setting.variableName, .text "\u0130nterpreted")])) := rfl
  refine ⟨?_, ?_, ?_⟩
  · obtain ⟨-, -, hchosen⟩ := strategy_chosen hnamed (throw .generatorStopped)
    obtain ⟨runs, outcome, s', h, -, hprocess⟩ := hchosen (.forced .generated)
    have hgiven : (Setting.forced .generated).GivenBy environmentStore (.object 0) := by
      refine .named (.entry hnamed rfl) rfl ?_
      have hword : (Setting.forced .generated).NamedBy
          (("\u2003" : Text) ++ ("GENERATED" : Text) ++ ("\t" : Text)) :=
        .word (by decide) (by decide) (by decide)
      exact hword
    cases h
    exact hprocess hgiven 0
  · obtain ⟨-, -, hchosen⟩ := strategy_chosen hunset (pure (.int 0))
    obtain ⟨runs, outcome, s', h, -, hprocess⟩ := hchosen .auto
    have hgiven : Setting.auto.GivenBy environmentStore (.object 1) := by
      refine .unset fun v h => ?_
      obtain ⟨e, hnone, -⟩ := (Value.finds_mapping_iff hunset).mp h
      cases hnone
    rw [hprocess hgiven 0]
    cases h with
    | answered run truth => cases run; cases truth; rfl
    | failed run => cases run
  · obtain ⟨hload, hinvalid, -⟩ := strategy_chosen hother (pure .nothing)
    have herror : Setting.load (.object 2) environmentStore = .error .settingInput := rfl
    obtain ⟨f, hf, hcls, -⟩ := hinvalid fun ⟨setting, hgiven⟩ => by
      cases herror.symm.trans ((hload setting).mpr hgiven)
    exact ⟨f, hf, hcls⟩

end Stencil
