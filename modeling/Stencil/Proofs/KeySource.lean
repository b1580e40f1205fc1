import Stencil.Proofs.Agreement
import Stencil.Proofs.Lists
import Stencil.Proofs.Numerals
import Stencil.Proofs.Quoting

/-!
The source of a key stands for that key. Plain texts, truth values and integers that are short
enough are literals that read back; any other key is looked up by its place among the items that the
program is bound to.
-/

namespace Stencil

namespace InlineKey

private theorem source_text_cons (t : Text) :
    ∃ quote rest, (InlineKey.text t).source = quote :: rest ∧
      (quote = Quoted.single ∨ quote = Quoted.double) := by
  unfold source
  dsimp only
  split
  · exact ⟨Quoted.double, t ++ [Quoted.double], rfl, .inr rfl⟩
  · exact ⟨Quoted.quoteOf t, _, rfl, Quoted.quoteOf_eq t⟩

private theorem read?_source_text (t : Text) : Quoted.read? (InlineKey.text t).source = some t := by
  unfold source
  dsimp only
  split
  · rename_i h
    exact Quoted.read?_between fun c hc => Unicode.plain_of_mem_identifier h hc
  · exact Quoted.read?_text t

/-- A literal of a text is told from truth values and numerals by its first character. -/
private theorem signed?_source_text (t : Text) :
    Numeral.signed? (InlineKey.text t).source = none := by
  obtain ⟨quote, rest, hs, hq⟩ := source_text_cons t
  rw [hs]
  have hread : Numeral.decimal? (quote :: rest) = none := by
    unfold Numeral.decimal? Numeral.ofDigits?
    have hdigit : Numeral.digit? quote = none := by
      rcases hq with rfl | rfl <;> rfl
    dsimp only
    rw [List.foldlM_cons, hdigit]
    split <;> rfl
  have hsign : quote ≠ CodePoint.ofChar '-' := by
    rcases hq with rfl | rfl <;> decide
  unfold Numeral.signed?
  dsimp only
  rw [if_neg hsign, hread]
  rfl

@[simp] theorem ofSource?_source (i : InlineKey) : ofSource? i.source = some i := by
  cases i with
  | text t =>
    obtain ⟨quote, rest, hs, hq⟩ := source_text_cons t
    -- The words for truth values start with a letter, a literal of a text with a quote.
    have hne : ∀ w : Text, w.head? = some (CodePoint.ofChar 'T') ∨
        w.head? = some (CodePoint.ofChar 'F') → (InlineKey.text t).source ≠ w := by
      rintro w hw rfl
      rw [hs, List.head?_cons] at hw
      rcases hq with rfl | rfl <;> rcases hw with hw | hw <;> exact absurd hw (by decide)
    unfold ofSource?
    rw [if_neg (hne _ (.inl rfl)), if_neg (hne _ (.inr rfl)), signed?_source_text,
      read?_source_text]
    rfl
  | int n =>
    have hread := Numeral.signed?_signed n
    have hne : ∀ w : Text, Numeral.signed? w = none → Numeral.signed n ≠ w := by
      rintro w hw rfl
      rw [hw] at hread
      cases hread
    change ofSource? (Numeral.signed n) = some (.int n)
    unfold ofSource?
    rw [if_neg (hne _ rfl), if_neg (hne _ rfl), hread]
  | bool b => cases b <;> rfl

end InlineKey

theorem keySource_of_inline? {k : Key} {i : InlineKey} (h : k.inline? = some i) (index : Nat) :
    keySource (.key k) index = i.source := by
  unfold keySource
  dsimp only
  rw [h]

theorem ofSource?_keySource {k : Key} {i : InlineKey} (h : k.inline? = some i) (index : Nat) :
    InlineKey.ofSource? (keySource (.key k) index) = some i := by
  rw [keySource_of_inline? h, InlineKey.ofSource?_source]

theorem Key.inline?_int {n : Int} (h : n.natAbs < 10 ^ 18) :
    (Key.int n).inline? = some (.int n) :=
  if_pos h

/-- An integer that is written into a program is far from the longest one that has a text. -/
theorem Key.repr_int {n : Int} (h : n.natAbs < 10 ^ 18) (s : Store) :
    (Key.int n).repr s = .ok (Numeral.signed n) := by
  have hpow : ∀ digits, 18 ≤ digits → n.natAbs < Nat.pow 10 digits := fun digits hdigits =>
    Nat.lt_of_lt_of_le h (Nat.pow_le_pow_right (by decide) hdigits)
  have hwithin : Numeral.withinLimit n := decide_eq_true (hpow Numeral.digitLimit (by decide))
  unfold Key.repr
  dsimp only
  rw [if_pos hwithin]
  rfl

theorem keySource_bound {v : Value} (ht : ∀ t, v ≠ .text t) (hb : ∀ b, v ≠ .bool b)
    (hn : ∀ n, v = .int n → 10 ^ 18 ≤ n.natAbs) (index : Nat) :
    keySource v index = itemSource index := by
  cases v with
  | key k =>
    cases k with
    | text t => exact absurd rfl (ht t)
    | bool b => exact absurd rfl (hb b)
    | int n =>
      have hinline : (Key.int n).inline? = none := if_neg (Nat.not_lt.mpr (hn n rfl))
      unfold keySource
      dsimp only
      rw [hinline]
    | _ => rfl
  | _ => rfl

namespace Program

/-- The expression of a slot is assigned to the local of its position. -/
private theorem mem_assignmentsFrom (index : Nat) {i : Nat} {fragments : List Text}
    {slots : List Slot} {slot : Slot} {e : Expression}
    (hs : slots[i]? = some slot) (hi : i < fragments.length)
    (he : slot.expression? (index + i) = some e) :
    ⟨index + i, e⟩ ∈ assignmentsFrom index fragments slots := by
  have htaken : (slots.take fragments.length)[i]? = some slot := by
    rw [List.getElem?_take_of_lt hi, hs]
  have hplace : (slot, index + i) ∈ (slots.take fragments.length).zipIdx index := by
    rw [List.mem_zipIdx_iff_le_and_getElem?_sub]
    refine ⟨Nat.le_add_right index i, ?_⟩
    rwa [Nat.add_sub_cancel_left]
  rw [assignmentsFrom_eq, List.mem_filterMap]
  exact ⟨_, hplace, by rw [he]; rfl⟩

/-- The argument of the look-up of a key. -/
private theorem exists_argument (k : Key) (index : Nat) :
    ∃ a, (Slot.key k).expression? index = some (.get a) ∧
      a.source = keySource (.key k) index ∧
      ∀ items : List (Bound Action), items[index]?.map Bound.value = some (.key k) →
        argument items a = pure (.key k) := by
  cases hk : k.inline? with
  | some i =>
    refine ⟨.inline i, ?_, (keySource_of_inline? hk index).symm, fun items _ => ?_⟩
    · unfold Slot.expression?
      dsimp only
      rw [hk]
    · unfold argument
      dsimp only
      rw [Key.key_of_inline? hk]
  | none =>
    refine ⟨.item index, ?_, ?_, fun items hitems => ?_⟩
    · unfold Slot.expression?
      dsimp only
      rw [hk]
    · unfold keySource
      dsimp only
      rw [hk]
      rfl
    · obtain ⟨b, hb, hv⟩ := Option.map_eq_some_iff.mp hitems
      unfold argument boundItem
      dsimp only
      rw [hb]
      simp only [pure_bind, hv]

end Program

/--
The source of a key denotes that key. A plain text becomes one complete literal of it; an integer
that is small enough and a truth value read back as what they are; anything else is the item at its
position. The items that a compiled program is bound to are those it was compiled from, and each
look-up in it has the source of its key and is given that key.
-/
theorem key_source_denotes :
    (∀ (t : Text) (index : Nat), Quoted.read? (keySource (.text t) index) = some t ∧
      InlineKey.ofSource? (keySource (.text t) index) = some (.text t)) ∧
    (∀ (n : Int) (index : Nat), n.natAbs < 10 ^ 18 →
      InlineKey.ofSource? (keySource (.int n) index) = some (.int n) ∧
        ∀ s, (Key.int n).repr s = .ok (keySource (.int n) index)) ∧
    (∀ (b : Bool) (index : Nat),
      InlineKey.ofSource? (keySource (.bool b) index) = some (.bool b)) ∧
    (∀ (v : Value) (index : Nat), (∀ t, v ≠ .text t) → (∀ b, v ≠ .bool b) →
      (∀ n, v = .int n → 10 ^ 18 ≤ n.natAbs) →
      keySource v index = "items[" ++ Numeral.decimal index ++ "]" ∧
        Numeral.ofDigits? (Numeral.decimal index) = some index) ∧
    ∀ (fragments : Value) (items : Option Value) (s : Store) (l : Layout),
      Layout.prepare fragments items s = .ok l →
      ∃ vs, Layout.firstItems l.fragments.length items s = .ok vs ∧
        ∀ (nested : NestedCall) (i : Nat) (v : Value), vs[i]? = some v →
          (bindAll nested l.slots)[i]?.map Bound.value = some v ∧
          ∀ k, v = .key k → ∃ a, ⟨i, .get a⟩ ∈ (Program.ofSlots l.texts l.slots).assignments ∧
            a.source = keySource v i ∧ Program.argument (bindAll nested l.slots) a = pure v := by
  refine ⟨fun t index => ⟨?_, ofSource?_keySource rfl index⟩, fun n index h => ⟨?_, fun s => ?_⟩,
    fun b index => ofSource?_keySource rfl index, fun v index ht hb hn => ?_, ?_⟩
  · have hsource : keySource (.text t) index = (InlineKey.text t).source := rfl
    rw [hsource, InlineKey.read?_source_text]
  · exact ofSource?_keySource (Key.inline?_int h) index
  · have hsource : keySource (.int n) index = Numeral.signed n :=
      keySource_of_inline? (Key.inline?_int h) index
    rw [hsource, Key.repr_int h]
  · exact ⟨keySource_bound ht hb hn index, Numeral.ofDigits?_decimal index⟩
  · intro fragments items s l hprepare
    obtain ⟨vs, hvs, hslots⟩ := Layout.prepare_items hprepare
    refine ⟨vs, hvs, fun nested i v hv => ?_⟩
    have hslot : l.slots[i]? = some v.classify := by
      rw [hslots, List.getElem?_map, hv, Option.map_some]
    have hbound : (bindAll nested l.slots)[i]?.map Bound.value = some v := by
      rw [getElem?_bindAll, hslot, Option.map_some, Option.map_some]
      unfold Bound.value
      rw [Slot.slot_bind, Value.value_classify]
    refine ⟨hbound, ?_⟩
    rintro k rfl
    obtain ⟨a, he, hsource, hargument⟩ := Program.exists_argument k i
    have hlength : i < l.texts.length := by
      obtain ⟨hi, -⟩ := List.getElem?_eq_some_iff.mp hv
      have hcount := Layout.length_firstItems_le hvs
      simp only [Layout.texts, List.length_map]
      omega
    refine ⟨a, ?_, hsource, hargument _ hbound⟩
    have hmem := Program.mem_assignmentsFrom 0 hslot hlength ((Nat.zero_add i).symm ▸ he)
    rwa [Nat.zero_add] at hmem

/-- A list of a fragment, and a list of a key that is no plain text. -/
def strategyStore : Store :=
  ⟨#[.list [.text "a"], .list [.strategy .generated]], [], #[], 0, .generated, 100⟩

theorem key_source_denotes_strategy :
    InlineKey.ofSource? (keySource (.int (-7)) 0) = some (.int (-7)) ∧
      keySource (.strategy .generated) 0 = "items[" ++ Numeral.decimal 0 ++ "]" ∧
      ∃ l, Layout.prepare (.object 0) (some (.object 1)) strategyStore = .ok l ∧
        (bindAll (callWithin 0) l.slots)[0]?.map Bound.value = some (.strategy .generated) := by
  obtain ⟨-, hint, -, hbound, hcompile⟩ := key_source_denotes
  have hfragments : strategyStore.IsList (.object 0) ([Fragment.plain "a"].map Fragment.value) :=
    ⟨⟨0, rfl, rfl⟩, nofun⟩
  have hitems : strategyStore.IsList (.object 1) [.strategy .generated] := ⟨⟨1, rfl, rfl⟩, nofun⟩
  have hprepare := prepare_lists hfragments hitems
  obtain ⟨vs, hvs, hplaces⟩ := hcompile _ _ _ _ hprepare
  cases hvs
  exact ⟨(hint (-7) 0 (by decide)).1, (hbound (.strategy .generated) 0 nofun nofun nofun).1, _,
    hprepare, (hplaces (callWithin 0) 0 (.strategy .generated) rfl).1⟩

end Stencil
