import Stencil.Proofs.KeySource
import Stencil.Proofs.Scoping

/-!
What the source of a program reveals of the slots it is made from: the kind of each one, and the
keys that are written into it. Two lists of slots that agree on these have the same source, and two
that do not have different ones.
-/

namespace Stencil

/-- A key that is written into programs: a plain text, a truth value, a short integer. -/
def Key.IsWritten : Key → Prop
  | .text _ | .bool _ => True
  | .int n => n.natAbs < 10 ^ 18
  | .strategy _ | .float _ => False

/-- Slots of one kind. Keys are one key that is written into programs, or neither of them is. -/
structure Slot.Alike (a b : Slot) : Prop where
  kind : a.kind = b.kind
  key : ∀ j k, a = .key j → b = .key k → j = k ∧ j.IsWritten ∨ ¬ j.IsWritten ∧ ¬ k.IsWritten

theorem Key.inline?_eq_none_iff {k : Key} : k.inline? = none ↔ ¬ k.IsWritten := by
  cases k with
  | int n => exact ite_eq_right_iff.trans (by simp [IsWritten, inlineLimit])
  | _ => simp [inline?, IsWritten]

theorem Key.inline?_eq_iff {j k : Key} : j.inline? = k.inline? ↔
    j = k ∧ j.IsWritten ∨ ¬ j.IsWritten ∧ ¬ k.IsWritten := by
  constructor
  · intro h
    cases hk : k.inline? with
    | none => exact .inr ⟨inline?_eq_none_iff.mp (h.trans hk), inline?_eq_none_iff.mp hk⟩
    | some i =>
      have hj : j.inline? = some i := h.trans hk
      refine .inl ⟨(key_of_inline? hj).symm.trans (key_of_inline? hk), ?_⟩
      by_contra hwritten
      cases hj.symm.trans (inline?_eq_none_iff.mpr hwritten)
  · rintro (⟨rfl, -⟩ | ⟨hj, hk⟩)
    · rfl
    · rw [inline?_eq_none_iff.mpr hj, inline?_eq_none_iff.mpr hk]

namespace Slot

theorem expression?_key_eq_iff {j k : Key} {index : Nat} :
    (Slot.key j).expression? index = (Slot.key k).expression? index ↔ j.inline? = k.inline? := by
  cases hj : j.inline? <;> cases hk : k.inline? <;> simp [expression?, hj, hk]

/-- The expression of a slot tells slots apart that are not alike, and no others. -/
theorem expression?_eq_iff {a b : Slot} (index : Nat) :
    a.expression? index = b.expression? index ↔ a.Alike b := by
  constructor
  · intro h
    refine ⟨?_, ?_⟩
    · cases a <;> cases b <;> first | rfl | cases h
    · rintro j k rfl rfl
      exact Key.inline?_eq_iff.mp (expression?_key_eq_iff.mp h)
  · rintro ⟨hkind, hkey⟩
    cases a with
    | key j =>
      cases b with
      | key k => exact expression?_key_eq_iff.mpr (Key.inline?_eq_iff.mpr (hkey j k rfl rfl))
      | _ => cases hkind
    | _ => cases b <;> first | rfl | cases hkind

theorem Alike.isKey {a b : Slot} (h : a.Alike b) : a.isKey = b.isKey := by
  have hkind := h.kind
  cases a <;> cases b <;> first | rfl | cases hkind

end Slot

namespace Program

variable {fragments : List Text} {slots slots' : List Slot}

theorem assignmentsFrom_congr (h : List.Forall₂ Slot.Alike slots slots') (index : Nat)
    (fragments : List Text) :
    assignmentsFrom index fragments slots = assignmentsFrom index fragments slots' := by
  induction h generalizing index fragments with
  | nil => rfl
  | cons hslot _ ih =>
    cases fragments with
    | nil => rfl
    | cons fragment fragments =>
      simp only [assignmentsFrom, (Slot.expression?_eq_iff index).mpr hslot, ih]

theorem bodyFrom_congr (h : List.Forall₂ Slot.Alike slots slots') (index : Nat)
    (fragments : List Text) :
    bodyFrom index fragments slots = bodyFrom index fragments slots' := by
  induction h generalizing index fragments with
  | nil => rfl
  | cons hslot _ ih =>
    cases fragments with
    | nil => rfl
    | cons fragment fragments =>
      simp only [bodyFrom, (Slot.expression?_eq_iff index).mpr hslot, ih]

/-- Slots that are alike one by one make one program. -/
theorem ofSlots_congr (h : List.Forall₂ Slot.Alike slots slots') (fragments : List Text) :
    ofSlots fragments slots = ofSlots fragments slots' := by
  have hgetter : slots.any Slot.isKey = slots'.any Slot.isKey := by
    induction h with
    | nil => rfl
    | cons hslot _ ih => rw [List.any_cons, List.any_cons, hslot.isKey, ih]
  unfold ofSlots
  rw [hgetter, assignmentsFrom_congr h, bodyFrom_congr h]

/-- The assignments of a program tell of every slot that has a fragment before it what it is. -/
theorem alike_of_assignments (hlength : slots.length = slots'.length)
    (hfragments : slots.length ≤ fragments.length)
    (h : (ofSlots fragments slots).assignments = (ofSlots fragments slots').assignments) :
    List.Forall₂ Slot.Alike slots slots' := by
  rw [List.forall₂_iff_get]
  refine ⟨hlength, fun i hi hi' => (Slot.expression?_eq_iff i).mp ?_⟩
  -- An assignment tells its position, so that each slot has the same one in both programs or none.
  have hassigned : ∀ e, slots[i].expression? i = some e ↔ slots'[i].expression? i = some e := by
    intro e
    have hmem := mem_assignments_ofSlots hfragments ⟨i, e⟩
    have hmem' := mem_assignments_ofSlots (hlength ▸ hfragments) ⟨i, e⟩
    rw [h] at hmem
    simpa [hi, hi'] using hmem.symm.trans hmem'
  exact Option.ext hassigned

end Program

/-! ## The assignments in the source -/

namespace Numeral

/-- A numeral ends where something follows that is no digit. -/
private theorem decimal_append_cons_inj {m n : Nat} {c : CodePoint} {t u : Text}
    (hc : digit? c = none) (h : decimal m ++ c :: t = decimal n ++ c :: u) : m = n ∧ t = u := by
  have htake : ∀ k rest, (decimal k ++ c :: rest).takeWhile (· ≠ c) = decimal k := by
    intro k rest
    have hne : ∀ d ∈ decimal k, decide (d ≠ c) = true := by
      intro d hd
      obtain ⟨hlo, hhi⟩ := val_of_mem_decimal hd
      refine decide_eq_true ?_
      rintro rfl
      rw [digit?, if_pos ⟨hlo, hhi⟩] at hc
      cases hc
    rw [List.takeWhile_append_of_pos hne, List.takeWhile_cons_of_neg (by simp), List.append_nil]
  have hdecimal : decimal m = decimal n := by
    rw [← htake m t, h, htake n u]
  refine ⟨decimal_injective hdecimal, ?_⟩
  rw [hdecimal] at h
  exact (List.cons.inj (List.append_cancel_left h)).2

end Numeral

namespace InlineKey

/-- A reference to an item is read as no key. -/
private theorem ofSource?_itemSource (index : Nat) : ofSource? (itemSource index) = none := by
  have hcons : ∃ rest, itemSource index = CodePoint.ofChar 'i' :: rest := ⟨_, rfl⟩
  obtain ⟨rest, hrest⟩ := hcons
  have hne : ∀ w : Text, w.head? ≠ some (CodePoint.ofChar 'i') → itemSource index ≠ w := by
    rintro w hw rfl
    rw [hrest] at hw
    exact hw rfl
  have hsigned : Numeral.signed? (itemSource index) = none := by
    rw [hrest]
    rfl
  have hread : Quoted.read? (itemSource index) = none := by
    rw [hrest]
    rfl
  unfold ofSource?
  rw [if_neg (hne _ (by decide)), if_neg (hne _ (by decide)), hsigned, hread]
  rfl

theorem source_injective : Function.Injective InlineKey.source := by
  intro i j h
  have hread := ofSource?_source i
  rw [h, ofSource?_source] at hread
  exact (Option.some.inj hread).symm

end InlineKey

theorem itemSource_injective : Function.Injective itemSource := by
  intro m n h
  exact Numeral.decimal_injective (List.append_cancel_left (List.append_cancel_right h))

theorem Argument.source_injective : Function.Injective Argument.source := by
  have hne : ∀ i index, InlineKey.source i ≠ itemSource index := by
    intro i index h
    have hread := InlineKey.ofSource?_source i
    rw [h, InlineKey.ofSource?_itemSource] at hread
    cases hread
  intro a b h
  cases a with
  | inline i =>
    cases b with
    | inline j => exact congrArg inline (InlineKey.source_injective h)
    | item index => exact absurd h (hne i index)
  | item index =>
    cases b with
    | inline j => exact absurd h.symm (hne j index)
    | item index' => exact congrArg item (itemSource_injective h)

/-- An item and a call of one end in different characters. -/
private theorem itemSource_ne_call (m n : Nat) : itemSource m ≠ itemSource n ++ "(context)" := by
  intro h
  have hitem : (itemSource m).getLast? = some (CodePoint.ofChar ']') :=
    List.getLast?_append_of_ne_nil _ (by decide)
  have hcall : (itemSource n ++ "(context)").getLast? = some (CodePoint.ofChar ')') :=
    List.getLast?_append_of_ne_nil _ (by decide)
  rw [h, hcall] at hitem
  exact absurd hitem (by decide)

theorem Expression.source_injective : Function.Injective Expression.source := by
  intro a b h
  cases a with
  | get a =>
    cases b with
    | get b =>
      have hsource : a.source = b.source := List.append_cancel_left (List.append_cancel_right h)
      exact congrArg get (Argument.source_injective hsource)
    | item index => cases h
    | callItem index => cases h
  | item index =>
    cases b with
    | get b => cases h
    | item index' => exact congrArg item (itemSource_injective h)
    | callItem index' => exact absurd h (itemSource_ne_call index index')
  | callItem index =>
    cases b with
    | get b => cases h
    | item index' => exact absurd h.symm (itemSource_ne_call index' index)
    | callItem index' =>
      have hsource : itemSource index = itemSource index' := List.append_cancel_right h
      exact congrArg callItem (itemSource_injective hsource)

theorem Assignment.line_injective : Function.Injective Assignment.line := by
  rintro ⟨m, e⟩ ⟨n, f⟩ h
  have hopen : ∀ t : Text, " = text(" ++ t = CodePoint.ofChar ' ' :: ("= text(" ++ t) :=
    fun _ => rfl
  have hnamed : "    " ++ (localName m ++ (" = text(" ++ e.source)) =
      "    " ++ (localName n ++ (" = text(" ++ f.source)) := by
    simpa only [List.append_assoc] using List.append_cancel_right h
  have hname := List.append_cancel_left hnamed
  rw [hopen, hopen] at hname
  obtain ⟨rfl, htext⟩ := Numeral.decimal_append_cons_inj rfl (List.cons.inj hname).2
  rw [Expression.source_injective (List.append_cancel_left htext)]

namespace Program

/-- Of the lines of a program, those of the assignments start with a name that starts with s. -/
def startsLocal (t : Text) : Bool :=
  t[4]? = some (CodePoint.ofChar 's')

private theorem filter_lines (p : Program) :
    p.lines.filter startsLocal = p.assignments.map Assignment.line := by
  have hhead : startsLocal "def render_template(context):" = false := rfl
  have hopening : (p.opening.flatMap Statement.lines).filter startsLocal = [] := by
    unfold opening
    cases p.bindsGetter <;> rfl
  have hassigns : (p.assignments.map Statement.assign).flatMap Statement.lines =
      p.assignments.map Assignment.line := by
    rw [List.flatMap_map, List.map_eq_flatMap]
    rfl
  have hkept : (p.assignments.map Assignment.line).filter startsLocal =
      p.assignments.map Assignment.line := by
    refine List.filter_eq_self.mpr fun line hline => ?_
    obtain ⟨a, -, rfl⟩ := List.mem_map.mp hline
    rfl
  have hanswer : startsLocal ("    return f'" ++ bodySource p.body ++ "'") = false := rfl
  unfold lines statements
  rw [List.filter_cons_of_neg (by rw [hhead]; exact Bool.false_ne_true), List.flatMap_append,
    List.flatMap_append, List.filter_append, List.filter_append, hopening, hassigns, hkept,
    List.flatMap_singleton, Statement.lines, List.filter_singleton, hanswer, List.nil_append]
  exact List.append_nil _

/-- Programs of one source have the same assignments. -/
theorem assignments_of_source {p q : Program} (h : p.source = q.source) :
    p.assignments = q.assignments := by
  have hlines : ∀ r : Program, r.source.splitOnP Unicode.endsLine = r.lines ++ [[]] := by
    intro r
    rw [source_eq_lines]
    exact splitOnP_lines (isPrintable_lines r)
  have hpq : p.lines = q.lines := by
    have hsplit := hlines p
    rw [h, hlines q] at hsplit
    exact (List.append_cancel_right hsplit).symm
  have hmap : p.assignments.map Assignment.line = q.assignments.map Assignment.line := by
    rw [← filter_lines p, hpq, filter_lines q]
  exact Assignment.line_injective.list_map hmap

end Program
open Program in
/--
The source of a program reveals no more of the slots it is made from than their kinds and the keys
that are written into it: slots that agree on these, one by one, make one program and one text,
whatever else they hold. It reveals no less either, if every slot has a fragment before it.
-/
theorem source_reveals_kinds (fragments : List Text) (slots slots' : List Slot) :
    (List.Forall₂ Slot.Alike slots slots' →
      (ofSlots fragments slots).source = (ofSlots fragments slots').source ∧
        ofSlots fragments slots = ofSlots fragments slots') ∧
    (slots.length = slots'.length → slots.length ≤ fragments.length →
      (ofSlots fragments slots).source = (ofSlots fragments slots').source →
        List.Forall₂ Slot.Alike slots slots') := by
  refine ⟨fun h => ?_, fun hlength hfragments hsource => ?_⟩
  · have hprogram := ofSlots_congr h fragments
    exact ⟨congrArg source hprogram, hprogram⟩
  · exact alike_of_assignments hlength hfragments (assignments_of_source hsource)

open Program in
/-- Two callables, an infinite number and a long one leave no trace; a truth value is no number. -/
theorem source_reveals_kinds_unwritten :
    (ofSlots ["a", "b"] [.callable (.builtin .length), .key (.float (.infinite false))]).source =
        (ofSlots ["a", "b"] [.callable (.routine 0), .key (.int (10 ^ 18))]).source ∧
      (ofSlots ["a"] [.key (.int 1)]).source ≠ (ofSlots ["a"] [.key (.bool true)]).source := by
  constructor
  · have hcallables : (Slot.callable (.builtin .length)).Alike (.callable (.routine 0)) :=
      ⟨rfl, fun _ _ h => by cases h⟩
    have hkeys : (Slot.key (.float (.infinite false))).Alike (.key (.int (10 ^ 18))) := by
      refine ⟨rfl, ?_⟩
      rintro j k ⟨rfl⟩ ⟨rfl⟩
      exact .inr ⟨id, Nat.lt_irrefl _⟩
    exact ((source_reveals_kinds _ _ _).1 (.cons hcallables (.cons hkeys .nil))).1
  · intro hsource
    have hkinds := (source_reveals_kinds ["a"] [.key (.int 1)] [.key (.bool true)]).2
    cases hkinds rfl le_rfl hsource with
    | cons halike _ =>
      rcases halike.key _ _ rfl rfl with ⟨heq, -⟩ | ⟨-, hwritten⟩
      · cases heq
      · exact hwritten trivial

end Stencil
