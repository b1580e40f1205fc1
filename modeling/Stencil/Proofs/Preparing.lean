import Stencil.Proofs.Agreement
import Stencil.Proofs.Extending
import Stencil.Proofs.Lists

/-!
What fragments and items are prepared to, or why they are not. The reasons are asked for in a fixed
order: the fragments go first, and among them the first one that is no text.
-/

namespace Stencil

variable {s : Store}

def Cell.HasMembers : Cell → Prop
  | .list _ | .tuple _ | .deque _ | .set _ | .mapping .. => True
  | _ => False

inductive Value.IsIterable (s : Store) : Value → Prop
  | text {v : Value} {t : Text} (h : v.text? = some t) : IsIterable s v
  | bytes (bs : List UInt8) : IsIterable s (.bytes bs)
  | byteArray (a : Address) : IsIterable s (.byteArray a)
  | range (start stop step : Int) : IsIterable s (.range start stop step)
  | constants (family : ConstantFamily) : IsIterable s (.callable (.builtin (.constants family)))
  | object {a : Address} {c : Cell} (cell : Reading.cell a s = .ok c) (h : c.HasMembers) :
      IsIterable s (.object a)

def Layout.itemMembers : Option Value → Reading (List Value)
  | some v => v.members
  | none => return []

/-- What preparing fragments and items comes to, by the first reason that there is. -/
inductive Layout.Prepares (s : Store) (fragments : Value) (items : Option Value) :
    Except Fault Layout → Prop
  | string (h : fragments.isString) : Prepares s fragments items (.error .singleString)
  | notIterable {typeName : Text} (hs : ¬ fragments.isString) (h : ¬ fragments.IsIterable s)
      (ht : fragments.fullTypeName s = .ok typeName) :
      Prepares s fragments items (.error (.notIterable typeName))
  | broken {f : Fault} (hs : ¬ fragments.isString) (hi : fragments.IsIterable s)
      (hf : fragments.members s = .error f) : Prepares s fragments items (.error f)
  | fragmentType {vs : List Value} {i : Nat} {v : Value} {typeName : Text}
      (hs : ¬ fragments.isString) (hvs : fragments.members s = .ok vs) (hi : vs[i]? = some v)
      (hv : v.text? = none) (earlier : ∀ w ∈ vs.take i, w.text?.isSome)
      (ht : v.bareTypeName s = .ok typeName) :
      Prepares s fragments items (.error (.fragmentType i typeName))
  | itemsNotIterable {vs : List Value} {v : Value} {typeName : Text}
      (hs : ¬ fragments.isString) (hvs : fragments.members s = .ok vs)
      (texts : ∀ w ∈ vs, w.text?.isSome) (hitems : items = some v) (h : ¬ v.IsIterable s)
      (ht : v.fullTypeName s = .ok typeName) :
      Prepares s fragments items (.error (.notIterable typeName))
  | itemsBroken {vs : List Value} {v : Value} {f : Fault}
      (hs : ¬ fragments.isString) (hvs : fragments.members s = .ok vs)
      (texts : ∀ w ∈ vs, w.text?.isSome) (hitems : items = some v) (hi : v.IsIterable s)
      (hf : v.members s = .error f) : Prepares s fragments items (.error f)
  | ready {vs ws : List Value} {l : Layout}
      (hs : ¬ fragments.isString) (hvs : fragments.members s = .ok vs)
      (hws : itemMembers items s = .ok ws) (content : l.fragments.map Fragment.value = vs)
      (count : l.slots.length = min vs.length ws.length)
      (kept : ∀ (i : Nat) (slot : Slot), l.slots[i]? = some slot →
        ws[i]? = some slot.value ∧ slot = slot.value.classify) :
      Prepares s fragments items (.ok l)

namespace Value

theorem members_of_not_iterable {v : Value} {typeName : Text} (h : ¬ v.IsIterable s)
    (ht : v.fullTypeName s = .ok typeName) : v.members s = .error (.notIterable typeName) := by
  have hfault : (do throw (.notIterable (← v.fullTypeName)) : Reading (List Value)) s =
      .error (.notIterable typeName) := Reading.bind_ok ht
  unfold members
  split
  · exact absurd (.bytes _) h
  · exact absurd (.byteArray _) h
  · exact absurd (.range _ _ _) h
  · rename_i a
    rw [Reading.bind_cell]
    cases hc : s.cells.getD a (.tuple []) with
    | list ms | tuple ms | deque ms | set ms | mapping form entries =>
      exact absurd (.object (congrArg Except.ok hc) trivial) h
    | _ => exact hfault
  · exact absurd (.constants _) h
  · cases ht : v.text? with
    | some t => exact absurd (.text ht) h
    | none => exact hfault

private theorem requireRoom_ok {length : Nat} (hposition : length < positionLimit)
    (hroom : length ≤ s.room) : requireRoom length s = .ok () := by
  have hread : Reading.room s = .ok s.room := rfl
  unfold requireRoom
  rw [if_neg (Nat.not_le.mpr hposition)]
  change (Reading.room >>= fun room => if room < length then throw .noRoom else pure ()) s = _
  rw [Reading.bind_ok hread, if_neg (Nat.not_lt.mpr hroom)]
  rfl

/-- A range that no tuple is long enough for, or that the machine has no room for. -/
def IsTooLong (s : Store) (v : Value) : Prop :=
  ∃ start stop step, v = .range start stop step ∧
    (positionLimit ≤ rangeLength start stop step ∨ s.room < rangeLength start stop step)

/-- Going through a value fails if it is too long, or if it looks for its own keys. -/
theorem broken_cases {v : Value} {f : Fault} (h : v.IsIterable s) (hf : v.members s = .error f) :
    v.IsTooLong s ∨
      ∃ a entries, v = .object a ∧ Reading.cell a s = .ok (.mapping .ordered entries) := by
  have hok : ∀ {vs : List Value}, v.members s ≠ .ok vs := by
    intro vs hvs
    cases hf.symm.trans hvs
  cases h with
  | @text v t ht =>
    cases v with
    | key k =>
      have hmembers : (Value.key k).members s = .ok (textMembers t) := by
        unfold members
        dsimp only
        rw [ht]
        rfl
      exact absurd hmembers hok
    | _ => cases ht
  | bytes bs => cases hf
  | byteArray a =>
    obtain ⟨bs, hbs⟩ := Reading.Total.bytes a s
    exact absurd (Reading.bind_ok hbs) hok
  | range start stop step =>
    refine .inl ⟨start, stop, step, rfl, ?_⟩
    by_contra hshort
    rw [not_or, Nat.not_le, Nat.not_lt] at hshort
    exact hok (Reading.bind_ok (requireRoom_ok hshort.1 hshort.2))
  | constants family => cases hf
  | @object a c cell hc =>
    cases c with
    | list ms | tuple ms | deque ms | set ms => exact absurd (Reading.bind_ok cell) hok
    | mapping form entries =>
      cases form with
      | ordered => exact .inr ⟨a, entries, rfl, cell⟩
      | _ => exact absurd (Reading.bind_ok cell) hok
    | _ => cases hc

/-- What a value has as first members is taken from its members, and so is the reason for none. -/
theorem firstMembers_of_error {v : Value} {f : Fault} (h : v.members s = .error f) (count : Nat) :
    v.firstMembers count s = .error f := by
  cases v with
  | range start stop step =>
    cases hroom : requireRoom (rangeLength start stop step) s with
    | error e =>
      have hmembers : (Value.range start stop step).members s = .error e :=
        Reading.bind_error hroom
      cases h.symm.trans hmembers
      exact Reading.bind_error hroom
    | ok u =>
      have hmembers : (Value.range start stop step).members s =
          .ok (rangeMembers (rangeLength start stop step) start stop step) := Reading.bind_ok hroom
      cases h.symm.trans hmembers
  | _ => exact Reading.bind_error h

end Value

namespace Fragment

theorem ofValue?_eq_some_iff {v : Value} {f : Fragment} : ofValue? v = some f ↔ f.value = v := by
  constructor
  · intro h
    unfold ofValue? at h
    split at h <;> cases h <;> rfl
  · rintro rfl
    cases f <;> rfl

theorem ofValue?_eq_none_iff {v : Value} : ofValue? v = none ↔ v.text? = none := by
  cases v with
  | key k => cases k <;> simp [ofValue?, Value.text?, Key.text?]
  | _ => exact iff_of_true rfl rfl

/-- Just the texts are fragments. -/
theorem exists_value_iff {v : Value} : (∃ f : Fragment, f.value = v) ↔ v.text?.isSome := by
  constructor
  · rintro ⟨f, rfl⟩
    cases f <;> rfl
  · intro h
    cases hf : ofValue? v with
    | some f => exact ⟨f, ofValue?_eq_some_iff.mp hf⟩
    | none =>
      rw [ofValue?_eq_none_iff.mp hf] at h
      cases h

end Fragment

namespace Layout

/-- Members that are all texts are fragments. -/
private theorem exists_fragments {vs : List Value} (h : ∀ w ∈ vs, w.text?.isSome) :
    ∃ fs : List Fragment, fs.map Fragment.value = vs := by
  induction vs with
  | nil => exact ⟨[], rfl⟩
  | cons v vs ih =>
    obtain ⟨f, rfl⟩ := Fragment.exists_value_iff.mpr (h v List.mem_cons_self)
    obtain ⟨fs, rfl⟩ := ih fun w hw => h w (List.mem_cons_of_mem _ hw)
    exact ⟨f :: fs, rfl⟩

/-- The first member that is no text is the one that is complained of. -/
private theorem fragmentsFrom_error {vs : List Value} {i : Nat} {v : Value} {typeName : Text}
    (hi : vs[i]? = some v) (hv : v.text? = none) (earlier : ∀ w ∈ vs.take i, w.text?.isSome)
    (ht : v.bareTypeName s = .ok typeName) (index : Nat) :
    fragmentsFrom index vs s = .error (.fragmentType (index + i) typeName) := by
  induction vs generalizing i index with
  | nil => cases hi
  | cons w vs ih =>
    unfold fragmentsFrom
    cases i with
    | zero =>
      cases hi
      rw [Fragment.ofValue?_eq_none_iff.mpr hv]
      exact Reading.bind_ok ht
    | succ i =>
      rw [List.take_succ_cons, List.forall_mem_cons] at earlier
      obtain ⟨f, hf⟩ := Fragment.exists_value_iff.mpr earlier.1
      have hrest := ih hi earlier.2 (index + 1)
      rw [Fragment.ofValue?_eq_some_iff.mpr hf, show index + (i + 1) = index + 1 + i by omega]
      exact Reading.bind_error hrest

/-- Of a range no more than one member has to be looked at. -/
theorem fragmentsFrom_members {v : Value} {vs : List Value} (h : v.members s = .ok vs) :
    (fragmentMembers v >>= fragmentsFrom 0) s = fragmentsFrom 0 vs s := by
  cases v with
  | range start stop step =>
    have hfirst : fragmentMembers (.range start stop step) s = .ok (vs.take 1) :=
      Value.firstMembers_of_members h 1
    rw [Reading.bind_ok hfirst]
    obtain ⟨_, -, h⟩ := Reading.bind_eq_ok h
    have hmembers : rangeMembers (rangeLength start stop step) start stop step = vs :=
      Except.ok.inj h
    cases vs with
    | nil => rfl
    | cons v rest =>
      have hv : v ∈ rangeMembers (rangeLength start stop step) start stop step := by
        rw [hmembers]
        exact List.mem_cons_self
      obtain ⟨n, -, rfl⟩ := List.mem_map.mp hv
      -- The first member is a number and no text, so that the others are not looked at.
      have hint : ∀ rest : List Value, fragmentsFrom 0 (.int (start + n * step) :: rest) s =
          .error (.fragmentType 0 "int") := fun _ => rfl
      exact (hint _).trans (hint _).symm
  | _ => exact Reading.bind_ok h

theorem prepare_of_members {fragments : Value} {items : Option Value} {vs : List Value}
    (hs : ¬ fragments.isString) (h : fragments.members s = .ok vs) :
    prepare fragments items s = (do
      let fs ← fragmentsFrom 0 vs
      let ws ← firstItems fs.length items
      return ⟨fs, ws.map Value.classify⟩ : Reading Layout) s := by
  unfold prepare
  rw [if_neg hs]
  change (fragmentMembers fragments >>= fun ms => fragmentsFrom 0 ms >>= fun fs => _) s = _
  rw [← bind_assoc]
  change ((fragmentMembers fragments >>= fragmentsFrom 0) s >>= fun fs => _) = _
  rw [fragmentsFrom_members h]
  rfl

variable {fragments : Value} {items : Option Value}

theorem prepare_of_error {f : Fault} (hs : ¬ fragments.isString)
    (h : fragments.members s = .error f) : prepare fragments items s = .error f := by
  have hmembers : fragmentMembers fragments s = .error f := by
    cases fragments with
    | range start stop step => exact Value.firstMembers_of_error h 1
    | _ => exact h
  unfold prepare
  rw [if_neg hs]
  exact Reading.bind_error hmembers

/-- Items are looked at when the fragments are known to be texts. -/
theorem prepare_of_items_error {vs : List Value} {v : Value} {f : Fault}
    (hs : ¬ fragments.isString) (hvs : fragments.members s = .ok vs)
    (texts : ∀ w ∈ vs, w.text?.isSome) (h : v.members s = .error f) :
    prepare fragments (some v) s = .error f := by
  obtain ⟨fs, rfl⟩ := exists_fragments texts
  rw [prepare_of_members hs hvs, Reading.bind_ok (fragmentsFrom_values 0 fs s)]
  exact Reading.bind_error (Value.firstMembers_of_error h fs.length)

theorem firstItems_of_itemMembers {ws : List Value} (h : itemMembers items s = .ok ws)
    (count : Nat) : firstItems count items s = .ok (ws.take count) := by
  cases items with
  | some v => exact Value.firstMembers_of_members h count
  | none =>
    cases h
    rw [List.take_nil]
    rfl

/-- The slots of items that have a fragment before them, given one by one. -/
private theorem slots_eq {l : Layout} {ws : List Value} {n : Nat}
    (count : l.slots.length = min n ws.length)
    (kept : ∀ (i : Nat) (slot : Slot), l.slots[i]? = some slot →
      ws[i]? = some slot.value ∧ slot = slot.value.classify) :
    l.slots = (ws.take n).map Value.classify := by
  refine List.ext_getElem (by simp [count]) fun i hi _ => ?_
  obtain ⟨hitem, hslot⟩ := kept i _ (List.getElem?_eq_getElem hi)
  obtain ⟨hi', hget⟩ := List.getElem?_eq_some_iff.mp hitem
  rw [List.getElem_map, List.getElem_take, hget, ← hslot]

theorem Prepares.prepare_eq {r : Except Fault Layout} (h : Prepares s fragments items r) :
    prepare fragments items s = r := by
  cases h with
  | string h =>
    unfold prepare
    rw [if_pos h]
    rfl
  | notIterable hs h ht => exact prepare_of_error hs (Value.members_of_not_iterable h ht)
  | broken hs _ hf => exact prepare_of_error hs hf
  | @fragmentType vs i v typeName hs hvs hi hv earlier ht =>
    have hfault := fragmentsFrom_error hi hv earlier ht 0
    rw [Nat.zero_add] at hfault
    rw [prepare_of_members hs hvs]
    exact Reading.bind_error hfault
  | itemsNotIterable hs hvs texts hitems h ht =>
    subst hitems
    exact prepare_of_items_error hs hvs texts (Value.members_of_not_iterable h ht)
  | itemsBroken hs hvs texts hitems _ hf =>
    subst hitems
    exact prepare_of_items_error hs hvs texts hf
  | @ready vs ws l hs hvs hws content count kept =>
    obtain ⟨fs, slots⟩ := l
    subst content
    rw [List.length_map] at count
    rw [prepare_members hs hvs (firstItems_of_itemMembers hws fs.length), ← slots_eq count kept]

/-- Among members that are not all texts one comes first. -/
private theorem exists_first_not_text {vs : List Value} (h : ¬ ∀ w ∈ vs, w.text?.isSome) :
    ∃ (i : Nat) (v : Value), vs[i]? = some v ∧ v.text? = none ∧
      ∀ w ∈ vs.take i, w.text?.isSome := by
  induction vs with
  | nil => exact absurd (List.forall_mem_nil _) h
  | cons w vs ih =>
    cases hw : w.text? with
    | none => exact ⟨0, w, rfl, hw, List.forall_mem_nil _⟩
    | some t =>
      have hfirst : w.text?.isSome := by rw [hw]; rfl
      obtain ⟨i, v, hi, hv, earlier⟩ := ih fun hrest => h (List.forall_mem_cons.mpr ⟨hfirst, hrest⟩)
      exact ⟨i + 1, v, hi, hv, List.forall_mem_cons.mpr ⟨hfirst, earlier⟩⟩

/-- When the fragments are texts, the items decide. -/
private theorem exists_prepares_of_texts {vs : List Value} (hs : ¬ fragments.isString)
    (hvs : fragments.members s = .ok vs) (texts : ∀ w ∈ vs, w.text?.isSome)
    (items : Option Value) : ∃ r, Prepares s fragments items r := by
  obtain ⟨fs, rfl⟩ := exists_fragments texts
  have hready : ∀ {ws : List Value}, itemMembers items s = .ok ws →
      ∃ r, Prepares s fragments items r := by
    intro ws hws
    refine ⟨.ok ⟨fs, (ws.take fs.length).map Value.classify⟩, .ready hs hvs hws rfl (by simp) ?_⟩
    intro i slot hslot
    obtain ⟨v, hv, rfl⟩ := Option.map_eq_some_iff.mp (List.getElem?_map.symm.trans hslot)
    rw [Value.value_classify]
    obtain ⟨hi, hget⟩ := List.getElem?_eq_some_iff.mp hv
    rw [List.getElem_take] at hget
    exact ⟨List.getElem?_eq_some_iff.mpr ⟨_, hget⟩, rfl⟩
  cases items with
  | none => exact hready rfl
  | some v =>
    by_cases hi : v.IsIterable s
    · cases hws : v.members s with
      | error f => exact ⟨_, .itemsBroken hs hvs texts rfl hi hws⟩
      | ok ws => exact hready hws
    · obtain ⟨typeName, ht⟩ := v.total_fullTypeName s
      exact ⟨_, .itemsNotIterable hs hvs texts rfl hi ht⟩

/-- There is a reason for one outcome at least. -/
theorem exists_prepares (s : Store) (fragments : Value) (items : Option Value) :
    ∃ r, Prepares s fragments items r := by
  by_cases hs : fragments.isString
  · exact ⟨_, .string hs⟩
  by_cases hi : fragments.IsIterable s
  · cases hvs : fragments.members s with
    | error f => exact ⟨_, .broken hs hi hvs⟩
    | ok vs =>
      by_cases texts : ∀ w ∈ vs, w.text?.isSome
      · exact exists_prepares_of_texts hs hvs texts items
      · obtain ⟨i, v, hv, htext, earlier⟩ := exists_first_not_text texts
        obtain ⟨typeName, ht⟩ := v.total_bareTypeName s
        exact ⟨_, .fragmentType hs hvs hv htext earlier ht⟩
  · obtain ⟨typeName, ht⟩ := fragments.total_fullTypeName s
    exact ⟨_, .notIterable hs hi ht⟩

/-- There is a reason for one outcome at most, which is the one that preparing comes to. -/
theorem prepare_eq_iff {r : Except Fault Layout} :
    prepare fragments items s = r ↔ Prepares s fragments items r := by
  constructor
  · rintro rfl
    obtain ⟨r, h⟩ := exists_prepares s fragments items
    rw [h.prepare_eq]
    exact h
  · exact Prepares.prepare_eq

end Layout

namespace Fold

variable {α β : Type} {as : List α} {bs : List β}

theorem map_fst_zipLongest (h : bs.length ≤ as.length) :
    (zipLongest as bs).map Prod.fst = as.map some := by
  induction as generalizing bs with
  | nil => rw [List.length_eq_zero_iff.mp (Nat.le_zero.mp h)]; rfl
  | cons a as ih =>
    have hrest : bs.tail.length ≤ as.length := by simpa using h
    rw [zipLongest, List.map_cons, ih hrest, List.map_cons]

theorem map_snd_zipLongest (h : bs.length ≤ as.length) :
    (zipLongest as bs).map Prod.snd =
      bs.map some ++ List.replicate (as.length - bs.length) none := by
  induction as generalizing bs with
  | nil => rw [List.length_eq_zero_iff.mp (Nat.le_zero.mp h)]; rfl
  | cons a as ih =>
    have hrest : bs.tail.length ≤ as.length := by simpa using h
    rw [zipLongest, List.map_cons, ih hrest]
    cases bs with
    | nil => simp [List.replicate_succ]
    | cons b bs => simp

end Fold

namespace Layout

/-- What rendering without a program goes through: each text with the slot that follows it. -/
def pairs (nested : NestedCall) (l : Layout) : List (Option Text × Option (Bound Action)) :=
  Fold.zipLongest l.texts (bindAll nested l.slots)

theorem run_eq_pairs (l : Layout) (nested : NestedCall) (host : Host Action) (context : Value) :
    Fold.run host l.texts (bindAll nested l.slots) context =
      (do host.requireStructured context
          (l.pairs nested).foldlM (Fold.step host context) []) :=
  rfl

/-- Slots may be missing at the end, texts never are. -/
theorem pairs_padded {fragments : Value} {items : Option Value} {l : Layout}
    (h : prepare fragments items s = .ok l) (nested : NestedCall) :
    (l.pairs nested).map Prod.fst = l.texts.map some ∧
      (l.pairs nested).map Prod.snd = (bindAll nested l.slots).map some ++
        List.replicate (l.texts.length - l.slots.length) none := by
  have hbound : (bindAll nested l.slots).length = l.slots.length := by
    rw [bindAll_eq_map, List.length_map]
  have hslots : (bindAll nested l.slots).length ≤ l.texts.length := hbound ▸ (prepare_slots h).1
  have hpadded := Fold.map_snd_zipLongest hslots
  rw [hbound] at hpadded
  exact ⟨Fold.map_fst_zipLongest hslots, hpadded⟩

end Layout

/--
What preparing comes to has one reason: fragments that are one text, that cannot be gone through, or
that have a member that is no text, in this order, then items that cannot be gone through. With none
of them there is a slot for each item that has a fragment before it. Each is copied whole before its
members are looked at, so that what cannot be copied fails with the reason for that.
-/
theorem prepared_by_precedence (s : Store) (fragments : Value) (items : Option Value) :
    (∀ r, Layout.prepare fragments items s = r ↔ Layout.Prepares s fragments items r) ∧
      (∀ (v : Value) (f : Fault), v.IsIterable s → v.members s = .error f → v.IsTooLong s ∨
        ∃ a entries, v = .object a ∧ Reading.cell a s = .ok (.mapping .ordered entries)) ∧
      Fault.singleString.cls = .templateStructure ∧
      (∀ i typeName, (Fault.fragmentType i typeName).cls = .templateStructure ∧
        (Fault.fragmentType i typeName).message =
          "fragment " ++ Numeral.decimal i ++ " must be a string, got " ++ typeName) ∧
      (∀ typeName, (Fault.notIterable typeName).cls = .type) ∧
      ∀ l, Layout.prepare fragments items s = .ok l → l.slots.length ≤ l.texts.length ∧
        ∀ nested : NestedCall,
          (∀ (host : Host Action) (context : Value),
            Fold.run host l.texts (bindAll nested l.slots) context =
              (do host.requireStructured context
                  (l.pairs nested).foldlM (Fold.step host context) [])) ∧
          (l.pairs nested).map Prod.fst = l.texts.map some ∧
          (l.pairs nested).map Prod.snd = (bindAll nested l.slots).map some ++
            List.replicate (l.texts.length - l.slots.length) none := by
  refine ⟨fun r => Layout.prepare_eq_iff, fun v f => Value.broken_cases, rfl, fun i typeName => ?_,
    fun typeName => rfl, fun l h => ⟨(Layout.prepare_slots h).1, fun nested => ?_⟩⟩
  · exact ⟨rfl, rfl⟩
  · exact ⟨l.run_eq_pairs nested, Layout.pairs_padded h nested⟩

/-- Two fragments; two members that are no fragments, after one that is; three items. -/
def preparedStore : Store :=
  ⟨#[.list [.text "a", .text "b"], .list [.text "a", .int 5, .nothing],
    .list [.text "k", .nothing, .int 7]], [], #[], 0, .generated, 100⟩

/-- A range that is longer than any tuple, with a first member that is no text. -/
def longRange : Value :=
  .range 0 positionLimit 1

theorem prepared_by_precedence_counted :
    Layout.Prepares preparedStore (.object 1) (some (.int 3)) (.error (.fragmentType 1 "int")) ∧
      Layout.Prepares preparedStore (.object 0) (some (.int 3)) (.error (.notIterable "int")) ∧
      longRange.IsTooLong preparedStore ∧
      ∃ l, Layout.Prepares preparedStore (.object 0) (some (.object 2)) (.ok l) ∧
        l.slots = [.key (.text "k"), .absent] ∧ l.slots.length ≤ l.texts.length ∧
        ∀ nested, (l.pairs nested).map Prod.fst = [some ("a" : Text), some ("b" : Text)] := by
  have hprepare : Layout.prepare (.object 0) (some (.object 2)) preparedStore =
      .ok ⟨[.plain "a", .plain "b"], [.key (.text "k"), .absent]⟩ := rfl
  obtain ⟨hiff, hbroken, -, -, -, hready⟩ :=
    prepared_by_precedence preparedStore (.object 0) (some (.object 2))
  obtain ⟨hlength, hpairs⟩ := hready _ hprepare
  refine ⟨?_, ?_, ?_, _, (hiff _).mp hprepare, rfl, hlength, fun nested => (hpairs nested).2.1⟩
  · exact ((prepared_by_precedence preparedStore (.object 1) (some (.int 3))).1 _).mp rfl
  · exact ((prepared_by_precedence preparedStore (.object 0) (some (.int 3))).1 _).mp rfl
  · rcases hbroken longRange .lengthLimit (.range _ _ _) rfl with hrange | ⟨_, _, h, -⟩
    · exact hrange
    · cases h

/-- The members of a range are not looked at when it is too long to be copied. -/
theorem long_range_not_checked :
    ¬ longRange.isString ∧ longRange.IsIterable preparedStore ∧
      (rangeMembers (rangeLength 0 positionLimit 1) 0 positionLimit 1)[0]? = some (.int 0) ∧
      (Value.int 0).text? = none ∧ (Value.int 0).bareTypeName preparedStore = .ok "int" ∧
      Layout.prepare longRange none preparedStore ≠ .error (.fragmentType 0 "int") ∧
      Layout.prepare longRange none preparedStore = .error .lengthLimit ∧
      Fault.lengthLimit.cls = .overflow := by
  have hprepare : Layout.prepare longRange none preparedStore = .error .lengthLimit := rfl
  refine ⟨Bool.false_ne_true, .range _ _ _, ?_, rfl, rfl, fun h => ?_, hprepare, rfl⟩
  · have hlength : rangeLength 0 positionLimit 1 = positionLimit := rfl
    rw [rangeMembers, Nat.min_self, hlength, List.getElem?_map, List.getElem?_range (by decide)]
    rfl
  · cases hprepare.symm.trans h

end Stencil
