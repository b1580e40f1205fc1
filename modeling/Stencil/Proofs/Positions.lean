import Mathlib.Algebra.Group.Int.Defs
import Stencil.Proofs.Asking
import Stencil.Proofs.Numerals

/-!
Looking up by position. A natural number and its decimal numeral, up to eighteen digits, mean the
member at that place of a sequence; every other key, and a place behind the last member, means
nothing.
-/

namespace Stencil

/-- The values that are looked into by position: whole strings are, though no template runs on
them. -/
inductive Value.IsSequence (s : Store) : Value → Prop
  | text (t : Text) : IsSequence s (.text t)
  | strategy (strategy : Strategy) : IsSequence s (.strategy strategy)
  | bytes (bs : List UInt8) : IsSequence s (.bytes bs)
  | byteArray (a : Address) : IsSequence s (.byteArray a)
  | range (start stop step : Int) : IsSequence s (.range start stop step)
  | list {a : Address} {members : List Value} (h : Reading.cell a s = .ok (.list members)) :
      IsSequence s (.object a)
  | tuple {a : Address} {members : List Value} (h : Reading.cell a s = .ok (.tuple members)) :
      IsSequence s (.object a)
  | deque {a : Address} {members : List Value} (h : Reading.cell a s = .ok (.deque members)) :
      IsSequence s (.object a)

/-- The keys that mean a position: a natural number that is no truth value, and the decimal numeral
of one that has at most eighteen digits. -/
inductive Value.Selects : Value → Nat → Prop
  | int (n : Nat) : Selects (.int n) n
  | numeral {n : Nat} (h : (Numeral.decimal n).length ≤ 18) : Selects (.text (Numeral.decimal n)) n

namespace Value

private theorem selects_int_iff {m : Int} {n : Nat} : (Value.int m).Selects n ↔ m = n := by
  constructor
  · intro h
    cases h
    rfl
  · rintro rfl
    exact .int n

private theorem selects_text_iff {t : Text} {n : Nat} :
    (Value.text t).Selects n ↔ t = Numeral.decimal n ∧ n < 10 ^ 18 := by
  rw [← Numeral.length_decimal_le_iff (by decide)]
  constructor
  · intro h
    cases h with
    | numeral hshort => exact ⟨rfl, hshort⟩
  · rintro ⟨rfl, hshort⟩
    exact .numeral hshort

/-- The text of an integer means what the integer does. That of a negative one has a sign. -/
private theorem selects_signed_iff {m : Int} (hm : m < 10 ^ 18) {n : Nat} :
    (Value.text (Numeral.signed m)).Selects n ↔ (Value.int m).Selects n := by
  rw [selects_text_iff, selects_int_iff]
  by_cases hsign : m < 0
  · -- The sign is no digit.
    have hleft : Numeral.signed m ≠ Numeral.decimal n := by
      intro h
      unfold Numeral.signed at h
      rw [if_pos hsign] at h
      have hdigit := Numeral.val_of_mem_decimal (h ▸ List.mem_cons_self)
      exact absurd hdigit.1 (by decide)
    constructor
    · rintro ⟨h, -⟩
      exact absurd h hleft
    · intro h
      omega
  · have hsigned : Numeral.signed m = Numeral.decimal m.natAbs := if_neg hsign
    rw [hsigned]
    constructor
    · rintro ⟨h, -⟩
      have habs := Numeral.decimal_injective h
      omega
    · rintro rfl
      exact ⟨rfl, by omega⟩

/-- A text that means a position is its numeral. -/
private theorem eq_numeral_of_selects {k : Key} {n : Nat} (hk : k.text?.isSome)
    (h : (Value.key k).Selects n) : k = .text (Numeral.decimal n) := by
  cases h with
  | int => cases hk
  | numeral => rfl

/-- A key is taken for a position just when it means it; the name of a strategy never is. -/
theorem lookupPosition?_eq_some_iff {key : Value} {n : Nat} :
    key.lookupPosition? = some n ↔ key.Selects n := by
  constructor
  · intro h
    cases key with
    | key k =>
      cases k with
      | text t =>
        obtain ⟨m, hm, hmn⟩ := Option.map_eq_some_iff.mp h
        have hn : m = n := Int.ofNat.inj hmn
        subst hn
        exact selects_text_iff.mpr (Numeral.position?_eq_some_iff.mp hm)
      | strategy s =>
        have hname : Numeral.position? s.name = none := by cases s <;> decide
        simp [lookupPosition?, hname] at h
      | int m =>
        exact selects_int_iff.mpr (Option.some.inj h)
      | _ => cases h
    | _ => cases h
  · intro h
    cases h with
    | int => rfl
    | numeral hshort =>
      have hread := Numeral.position?_eq_some_iff.mpr (selects_text_iff.mp (.numeral hshort))
      simp [lookupPosition?, text, hread]

/-- A value that is looked into by position, with the members that are found there. -/
structure Holds (s : Store) (context : Value) (q : Sequence) : Prop where
  entries : context.entries? s = .ok none
  sequence : context.sequence? s = .ok (some q)
  count : context.memberCount s = .ok q.size
  member : ∀ n < q.size, n < positionLimit →
    ∃ v, q.get? n = some v ∧ context.getItem (.int n) s = .ok v

end Value

section Holds

variable {s : Store} {n : Nat}

/-- A position is taken as it is, if the sequence has it. -/
private theorem SequenceKind.index_of_lt (kind : SequenceKind) {size : Nat} (h : n < size)
    (hlimit : n < positionLimit) : kind.index false (.int n) size s = .ok n := by
  have hbounded : boundedPosition n = pure (n : Int) := by
    have hrange : ¬ ((n : Int) < -positionLimit ∨ (positionLimit : Int) ≤ n) := by omega
    unfold boundedPosition
    rw [if_neg hrange]
  have hposition : kind.position (.int n) s = .ok (n : Int) := by
    have hvalue : (Value.int n).position? = some (n : Int) := rfl
    unfold SequenceKind.position
    rw [hvalue]
    dsimp only
    rw [hbounded, ite_self]
    rfl
  have hnormal : normalPosition? n size = some n := by
    unfold normalPosition?
    have hsign : ¬ ((n : Int) < 0) := by omega
    have hrange : 0 ≤ (n : Int) ∧ (n : Int) < size := by omega
    rw [if_neg hsign]
    dsimp only
    rw [if_pos hrange]
    rfl
  unfold SequenceKind.index
  rw [Reading.bind_ok hposition]
  unfold SequenceKind.place
  rw [hnormal]
  rfl

private theorem SequenceKind.member_of_lt (kind : SequenceKind) {members : List Value}
    (h : n < members.length) (hlimit : n < positionLimit) :
    ∃ v, (Sequence.members members).get? n = some v ∧
      kind.member (.int n) members s = .ok v := by
  refine ⟨members[n], List.getElem?_eq_getElem h, ?_⟩
  unfold SequenceKind.member
  rw [Reading.bind_ok (kind.index_of_lt h hlimit)]
  have hget : members.getD n .nothing = members[n] := by simp [h]
  rw [hget]
  rfl

private theorem Value.Holds.of_members (kind : SequenceKind) {context : Value}
    {members : List Value} (hentries : context.entries? s = .ok none)
    (hsequence : context.sequence? s = .ok (some (.members members)))
    (hcount : context.memberCount s = .ok members.length)
    (hitem : ∀ key, context.getItem key s = kind.member key members s) :
    context.Holds s (.members members) where
  entries := hentries
  sequence := hsequence
  count := hcount
  member n hn hlimit := by
    obtain ⟨v, hget, hmember⟩ := kind.member_of_lt hn hlimit
    exact ⟨v, hget, (hitem _).trans hmember⟩

end Holds

namespace Value

private theorem Holds.of_text {k : Key} {t : Text} (s : Store) (h : k.text? = some t) :
    (Value.key k).Holds s (.members (textMembers t)) := by
  have htext : (Value.key k).text? = some t := h
  have hlength : (textMembers t).length = t.length := List.length_map _
  have hsequence : (Value.key k).sequence? s = .ok (some (.members (textMembers t))) := by
    unfold sequence?
    dsimp only
    rw [htext]
    rfl
  have hcount : (Value.key k).memberCount s = .ok (textMembers t).length := by
    unfold memberCount
    dsimp only
    rw [htext, hlength]
    rfl
  refine .of_members .text rfl hsequence hcount fun key => ?_
  unfold getItem
  dsimp only
  rw [htext]

private theorem Holds.of_bytes (s : Store) (bs : List UInt8) :
    (Value.bytes bs).Holds s (.members (byteMembers bs)) := by
  have hlength : (byteMembers bs).length = bs.length := List.length_map _
  have hcount : (Value.bytes bs).memberCount s = .ok (byteMembers bs).length := by
    rw [hlength]
    rfl
  exact .of_members .bytes rfl rfl hcount fun _ => rfl

private theorem Holds.of_byteArray {s : Store} {a : Address} {bs : List UInt8}
    (h : Reading.bytes a s = .ok bs) :
    (Value.byteArray a).Holds s (.members (byteMembers bs)) := by
  have hlength : (byteMembers bs).length = bs.length := List.length_map _
  have hcount : (Value.byteArray a).memberCount s = .ok (byteMembers bs).length := by
    rw [hlength]
    exact Reading.bind_ok h
  exact .of_members .byteArray rfl (Reading.bind_ok h) hcount fun _ => Reading.bind_ok h

theorem Holds.of_range (s : Store) (start stop step : Int) :
    (Value.range start stop step).Holds s (.range start stop step) where
  entries := rfl
  sequence := rfl
  count := rfl
  member n hn hlimit := by
    have hindex := SequenceKind.range.index_of_lt (s := s) hn hlimit
    refine ⟨.int (start + n * step), if_pos hn, ?_⟩
    unfold getItem
    exact Reading.bind_ok hindex

theorem Holds.of_cell {s : Store} {a : Address} {c : Cell} {members : List Value}
    (h : Reading.cell a s = .ok c)
    (hc : c = .list members ∨ c = .tuple members ∨ c = .deque members) :
    (Value.object a).Holds s (.members members) := by
  rcases hc with rfl | rfl | rfl
  all_goals
    exact .of_members _ (Reading.bind_ok h) (Reading.bind_ok h) (Reading.bind_ok h)
      fun _ => Reading.bind_ok h

/-- Every sequence holds members, each at the position that it is taken from. -/
theorem IsSequence.holds {s : Store} {context : Value} (h : context.IsSequence s) :
    ∃ q, context.Holds s q := by
  cases h with
  | text t => exact ⟨_, .of_text s rfl⟩
  | strategy strategy => exact ⟨_, .of_text s rfl⟩
  | bytes bs => exact ⟨_, .of_bytes s bs⟩
  | byteArray a =>
    obtain ⟨bs, hbs⟩ := Reading.Total.bytes a s
    exact ⟨_, .of_byteArray hbs⟩
  | range start stop step => exact ⟨_, .of_range s start stop step⟩
  | list h => exact ⟨_, .of_cell h (.inl rfl)⟩
  | tuple h => exact ⟨_, .of_cell h (.inr (.inl rfl))⟩
  | deque h => exact ⟨_, .of_cell h (.inr (.inr rfl))⟩

/-- No sequence has a `get`. -/
theorem IsSequence.ownGet? {s : Store} {context : Value} (h : context.IsSequence s) :
    context.ownGet? s = .ok none := by
  cases h with
  | list h | tuple h | deque h =>
    refine ownGet?_of_takesGet ?_
    rw [Except.ok.inj h]
    exact Bool.false_ne_true
  | _ => rfl

end Value

/-- What a sequence answers is the same in every store. -/
theorem Sequence.lookup_store (q : Sequence) (key : Value) (s s' : Store) :
    q.lookup key s' = q.lookup key s := by
  unfold lookup
  cases key.lookupPosition? with
  | none => rfl
  | some n =>
    cases n with
    | ofNat n =>
      dsimp only
      split <;> rfl
    | negSucc n => rfl

namespace Value

section Lookup

variable {s : Store} {context : Value} {q : Sequence}

/-- No sequence is longer than the number of its members that is told. -/
theorem Holds.size_of_length (h : context.Holds s q) {size : Nat}
    (hlength : context.length s = .ok size) : q.size = size ∧ size < positionLimit := by
  unfold length at hlength
  rw [Reading.bind_ok h.count] at hlength
  by_cases hlimit : q.size < positionLimit
  · rw [if_pos hlimit] at hlength
    cases hlength
    exact ⟨rfl, hlimit⟩
  · rw [if_neg hlimit] at hlength
    cases hlength

theorem Holds.typeLookup (h : context.Holds s q) (key : Value) :
    context.typeLookup key s = q.lookup key s := by
  unfold Value.typeLookup
  rw [Reading.bind_ok h.entries]
  dsimp only
  rw [Reading.bind_ok h.sequence]

theorem Holds.typeLookup_selected (h : context.Holds s q) (hlimit : q.size < positionLimit)
    {key : Value} {n : Nat} (hkey : key.Selects n) :
    context.typeLookup key s = .ok ((q.get? n).getD .nothing) := by
  have hposition : key.lookupPosition? = some (.ofNat n) := lookupPosition?_eq_some_iff.mpr hkey
  rw [h.typeLookup]
  unfold Sequence.lookup
  rw [hposition]
  dsimp only
  rw [if_neg (by omega)]
  rfl

theorem Holds.typeLookup_unselected (h : context.Holds s q) (hlimit : q.size < positionLimit)
    {key : Value} (hkey : ∀ n < q.size, ¬ key.Selects n) :
    context.typeLookup key s = .ok .nothing := by
  cases hposition : key.lookupPosition? with
  | none =>
    rw [h.typeLookup]
    unfold Sequence.lookup
    rw [hposition]
    rfl
  | some n =>
    cases n with
    | ofNat n =>
      have hselects : key.Selects n := lookupPosition?_eq_some_iff.mp hposition
      have hout : q.get? n = none := by
        have hsize : q.size ≤ n := Nat.not_lt.mp fun hn => hkey n hn hselects
        cases q with
        | members vs => exact List.getElem?_eq_none hsize
        | range start stop step => exact if_neg (Nat.not_lt.mpr hsize)
      rw [h.typeLookup_selected hlimit hselects, hout]
      rfl
    | negSucc n =>
      -- A negative number is no position, so that nothing is counted from the end.
      rw [h.typeLookup]
      unfold Sequence.lookup
      rw [hposition]
      rfl

/-- Keys that mean the same positions are looked up alike. -/
theorem Holds.typeLookup_congr (h : context.Holds s q) (hlimit : q.size < positionLimit)
    {key key' : Value} (hkeys : ∀ n, key.Selects n ↔ key'.Selects n) :
    context.typeLookup key s = context.typeLookup key' s := by
  by_cases hselects : ∃ n, key.Selects n
  · obtain ⟨n, hn⟩ := hselects
    rw [h.typeLookup_selected hlimit hn, h.typeLookup_selected hlimit ((hkeys n).mp hn)]
  · have hkey : ∀ n < q.size, ¬ key.Selects n := fun n _ hn => hselects ⟨n, hn⟩
    have hkey' : ∀ n < q.size, ¬ key'.Selects n := fun n hsize hn => hkey n hsize ((hkeys n).mpr hn)
    rw [h.typeLookup_unselected hlimit hkey, h.typeLookup_unselected hlimit hkey']

end Lookup

theorem repr_key (k : Key) (s : Store) : (Value.key k).repr s = k.repr s := by
  unfold repr reprWithin
  rfl

theorem toText_int {n : Int} (h : Numeral.withinLimit n) (s : Store) :
    (Value.int n).toText s = (.ok (Numeral.signed n), s) := by
  have hkey : Key.repr (.int n) s = .ok (Numeral.signed n) := by
    unfold Key.repr
    dsimp only
    rw [if_pos h]
    rfl
  have htext : (Value.int n).toText s = ((Value.int n).repr s, s) := by
    unfold toText textWithin
    rfl
  rw [htext]
  exact congrArg (·, s) ((repr_key (.int n) s).trans hkey)

end Value

/--
In a sequence whose length is told, a key that means a position before its end gives the member
there. A key of any type that means none, as every negative number and every other spelling of a
number does, gives nothing; no key raises, and no look-up changes anything. A number below 10^18 and
its text are looked up alike, and no two texts mean the same position.
-/
theorem lookup_by_position {s : Store} {context : Value} (hsequence : context.IsSequence s)
    {size : Nat} (hlength : context.length s = .ok size) :
    (∀ (key : Value) (n : Nat), key.Selects n → n < size →
      ∃ v, context.getItem (.int n) s = .ok v ∧ context.lookup key s = (.ok v, s)) ∧
    (∀ key : Value, (∀ n < size, ¬ key.Selects n) → context.lookup key s = (.ok .nothing, s)) ∧
    (∀ n : Int, n < 10 ^ 18 → Numeral.withinLimit n →
      ∃ t, (Value.int n).toText s = (.ok t, s) ∧
        context.lookup (.text t) s = context.lookup (.int n) s) ∧
    ∀ (k k' : Key) (n : Nat), k.text?.isSome → k'.text?.isSome →
      (Value.key k).lookupPosition? = some n → (Value.key k').lookupPosition? = some n →
        k = k' := by
  obtain ⟨q, hq⟩ := hsequence.holds
  obtain ⟨rfl, hlimit⟩ := hq.size_of_length hlength
  have hlookup : ∀ key, context.lookup key s = (context.typeLookup key s, s) :=
    Value.lookup_eq_typeLookup hsequence.ownGet?
  refine ⟨fun key n hkey hn => ?_, fun key hkey => ?_, fun n hn hwithin => ?_,
    fun k k' n hk hk' hkn hkn' => ?_⟩
  · obtain ⟨v, hget, hitem⟩ := hq.member n hn (by omega)
    refine ⟨v, hitem, ?_⟩
    rw [hlookup, hq.typeLookup_selected hlimit hkey, hget]
    rfl
  · rw [hlookup, hq.typeLookup_unselected hlimit hkey]
  · refine ⟨_, Value.toText_int hwithin s, ?_⟩
    rw [hlookup, hlookup, hq.typeLookup_congr hlimit fun m => Value.selects_signed_iff hn]
  · have hn := Value.lookupPosition?_eq_some_iff.mp hkn
    have hn' := Value.lookupPosition?_eq_some_iff.mp hkn'
    rw [Value.eq_numeral_of_selects hk hn, Value.eq_numeral_of_selects hk' hn']

/-- A list of two texts. -/
def pairStore : Store :=
  ⟨#[.list [.text "a", .text "b"]], [], #[], 0, .generated, 100⟩

/-- The last position has one numeral. Its text with a zero before it, the position counted from
the end and a truth value mean nothing. -/
theorem lookup_by_position_pair :
    (∃ v, (Value.object 0).getItem (.int 1) pairStore = .ok v ∧
      (Value.object 0).lookup (.text "1") pairStore = (.ok v, pairStore)) ∧
    ∀ key ∈ [Value.text "01", .int (-1), .bool true, .int 2],
      (Value.object 0).lookup key pairStore = (.ok .nothing, pairStore) := by
  have hsequence : (Value.object 0).IsSequence pairStore := .list rfl
  have hlength : (Value.object 0).length pairStore = .ok 2 := rfl
  obtain ⟨hselected, hother, -⟩ := lookup_by_position hsequence hlength
  refine ⟨hselected _ 1 (Value.selects_text_iff.mpr (by decide)) (by decide), fun key hkey => ?_⟩
  refine hother key fun n hn hselects => ?_
  have hposition := Value.lookupPosition?_eq_some_iff.mpr hselects
  simp only [List.mem_cons, List.not_mem_nil, or_false] at hkey
  rcases hkey with rfl | rfl | rfl | rfl
  · cases (show (Value.text "01").lookupPosition? = none by decide).symm.trans hposition
  · have hn := Option.some.inj hposition
    omega
  · cases hposition
  · have hn := Option.some.inj hposition
    omega

end Stencil
