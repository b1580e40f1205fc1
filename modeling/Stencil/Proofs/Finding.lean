import Mathlib.Data.List.TakeWhile
import Stencil.Proofs.Positions

/-!
What a key finds in a context. A mapping is searched for the first entry whose key is the wanted
one, which cannot fail: a number that refuses to be compared is never stored as a key.
-/

namespace Stencil

def Value.equalsKey : Value → Key → Bool
  | .key a, k => a.equal k
  | v, k =>
    match v.number?, (Value.key k).number? with
    | some (a, b), some (c, d) => a.equal c && b.equal d
    | _, _ => false

def StoredKey.isFor (stored : StoredKey) (k : Key) : Bool :=
  stored.imprint.agrees k.imprint && (stored.key.same (.key k) || stored.key.equalsKey k)

section Comparing

@[simp] theorem Binary64.extended_isSignaling (x : Binary64) : x.extended.isSignaling = false := by
  cases x with
  | finite negative m e => rfl
  | infinite negative => rfl
  | nan tag => rfl

theorem Key.number_isSignaling {k : Key} {x : ExtendedReal} (h : k.number? = some x) :
    x.isSignaling = false := by
  cases k with
  | float y =>
    have hx : y.extended = x := Option.some.inj h
    rw [← hx]
    exact y.extended_isSignaling
  | int n =>
    cases h
    rfl
  | bool b =>
    cases h
    rfl
  | _ => cases h

theorem DecimalNumber.extended_isSignaling {d : DecimalNumber} (h : d.isSignaling = false) :
    d.extended.isSignaling = false := by
  cases d with
  | finite negative c e =>
    unfold extended
    dsimp only
    by_cases hzero : c = 0
    · rw [if_pos hzero]
      rfl
    · rw [if_neg hzero]
      split <;> rfl
  | infinite negative => rfl
  | nan negative signaling payload tag =>
    have hquiet : signaling = false := h
    subst hquiet
    rfl

namespace Value

theorem number_isSignaling {v : Value} (h : v.isComparable) {x y : ExtendedReal}
    (hv : v.number? = some (x, y)) : x.isSignaling = false := by
  cases v with
  | key k =>
    obtain ⟨z, hz, hxy⟩ := Option.map_eq_some_iff.mp hv
    cases hxy
    exact Key.number_isSignaling hz
  | complex re im =>
    cases hv
    exact re.extended_isSignaling
  | decimal d =>
    cases hv
    have hd : d.isSignaling = false := by simpa [isComparable] using h
    exact DecimalNumber.extended_isSignaling hd
  | _ => cases hv

/-- Comparing a stored key with a scalar looks at no store. -/
private theorem equal_key {v : Value} (h : v.isComparable) (k : Key) :
    v.equal (.key k) = pure (v.equalsKey k) := by
  have hnumbers : numbersEqual v.number? (Value.key k).number? =
      (pure (match v.number?, (Value.key k).number? with
        | some (a, b), some (c, d) => a.equal c && b.equal d
        | _, _ => false) : Reading Bool) := by
    cases hv : v.number? with
    | none => rfl
    | some p =>
      cases hk : (Value.key k).number? with
      | none => rfl
      | some q =>
        obtain ⟨z, hz, rfl⟩ := Option.map_eq_some_iff.mp hk
        have hp : p.1.isSignaling = false := number_isSignaling h hv
        have hq : z.isSignaling = false := Key.number_isSignaling hz
        unfold numbersEqual
        simp [hp, hq]
  funext s
  cases v with
  | key a =>
    unfold equal equalWithin
    rfl
  | _ =>
    unfold equal equalWithin
    exact congrFun hnumbers s

end Value

def Key.stored (k : Key) : StoredKey :=
  ⟨.key k, k.imprint, rfl⟩

@[simp] theorem Key.asKey_key (k : Key) :
    (Value.key k).asKey = (pure k.stored : Reading StoredKey) := by
  unfold Value.asKey Value.imprint Value.imprintWithin
  rfl

/-- Whether a stored key fits a scalar is the same in every store. -/
private theorem StoredKey.fits_key (stored : StoredKey) (k : Key) :
    stored.fits Value.equal k.stored = pure (stored.isFor k) := by
  unfold fits isFor
  have hequal : stored.key.equal k.stored.key = pure (stored.key.equalsKey k) :=
    Value.equal_key stored.comparable k
  rw [hequal]
  change (if stored.imprint.agrees k.imprint then
    if stored.key.same (.key k) then pure true else pure (stored.key.equalsKey k)
    else pure false) = _
  cases stored.imprint.agrees k.imprint <;> cases stored.key.same (.key k) <;> rfl

end Comparing

/-- A scalar is found by the first entry whose key it is. -/
theorem Entries.find?_key (entries : Entries) (k : Key) :
    Value.find? entries (.key k) =
      pure ((entries.find? fun e => e.1.isFor k).map Prod.snd) := by
  have hseek : (seek Value.equal k.stored entries : Reading Entries) =
      pure (entries.dropWhile fun e => !e.1.isFor k) := by
    induction entries with
    | nil => rfl
    | cons e rest ih =>
      unfold seek
      rw [StoredKey.fits_key, pure_bind]
      cases hfor : e.1.isFor k with
      | true => simp [hfor]
      | false => simp [hfor, ih]
  unfold Value.find? findEntry?
  rw [k.asKey_key, pure_bind, hseek, pure_bind, List.find?_eq_head?_dropWhile_not]

/-- What a key finds in a context: the value of the first entry of a mapping whose key it is, or the
member of a sequence at the position that it means. -/
inductive Value.Finds (s : Store) (k : Key) : Value → Value → Prop
  | entry {a : Address} {form : MappingForm} {entries : Entries} {e : StoredKey × Value}
      (cell : Reading.cell a s = .ok (.mapping form entries))
      (first : entries.find? (fun e => e.1.isFor k) = some e) : Finds s k (.object a) e.2
  | member {context v : Value} {n size : Nat} (sequence : context.IsSequence s)
      (length : context.length s = .ok size) (selects : (Value.key k).Selects n) (lt : n < size)
      (item : context.getItem (.int n) s = .ok v) : Finds s k context v

/-- The contexts that keys are looked up in: mappings, and sequences that are no whole strings. -/
inductive Value.IsKeyed (s : Store) : Value → Prop
  | mapping {a : Address} {form : MappingForm} {entries : Entries}
      (cell : Reading.cell a s = .ok (.mapping form entries)) : IsKeyed s (.object a)
  | sequence {context : Value} {size : Nat} (sequence : context.IsSequence s)
      (structured : context.isStructured) (length : context.length s = .ok size) :
      IsKeyed s context

def Value.KeptBy (context : Value) (s s' : Store) : Prop :=
  ∀ a, context = .object a → Reading.cell a s' = Reading.cell a s

namespace Value

variable {s s' : Store} {context : Value}

theorem IsKeyed.isStructured (h : context.IsKeyed s) : context.isStructured := by
  cases h with
  | mapping cell => rfl
  | sequence sequence structured length => exact structured

theorem typeLookup_mapping {a : Address} {form : MappingForm} {entries : Entries} (k : Key)
    (hcell : Reading.cell a s = .ok (.mapping form entries)) :
    (Value.object a).typeLookup (.key k) s =
      .ok (((entries.find? fun e => e.1.isFor k).map Prod.snd).getD .nothing) := by
  have hentries : (Value.object a).entries? s = .ok (some entries) := Reading.bind_ok hcell
  unfold typeLookup
  rw [Reading.bind_ok hentries]
  dsimp only
  rw [entries.find?_key k, pure_bind]
  rfl

private theorem IsSequence.not_mapping {a : Address} {form : MappingForm} {entries : Entries}
    (h : (Value.object a).IsSequence s) :
    Reading.cell a s ≠ .ok (.mapping form entries) := by
  intro hmapping
  cases h with
  | list hcell | tuple hcell | deque hcell => cases hmapping.symm.trans hcell

/-- What a scalar finds in a mapping is the value of the first entry for it. -/
theorem finds_mapping_iff {a : Address} {form : MappingForm} {entries : Entries} {k : Key}
    {v : Value} (cell : Reading.cell a s = .ok (.mapping form entries)) :
    (Value.object a).Finds s k v ↔
      ∃ e, entries.find? (fun e => e.1.isFor k) = some e ∧ e.2 = v := by
  constructor
  · rintro (⟨cell', first⟩ | ⟨sequence, -, -, -, -⟩)
    · cases cell.symm.trans cell'
      exact ⟨_, first, rfl⟩
    · exact absurd cell sequence.not_mapping
  · rintro ⟨e, first, rfl⟩
    exact .entry cell first

/-- No key fails to be looked up: it finds a value, or the answer is nothing. -/
theorem IsKeyed.typeLookup (h : context.IsKeyed s) (k : Key) :
    (∃ v, Finds s k context v ∧ context.typeLookup (.key k) s = .ok v) ∨
      ((∀ v, ¬ Finds s k context v) ∧ context.typeLookup (.key k) s = .ok .nothing) := by
  cases h with
  | @mapping a form entries cell =>
    rw [typeLookup_mapping k cell]
    cases hfirst : entries.find? fun e => e.1.isFor k with
    | some e => exact .inl ⟨e.2, .entry cell hfirst, rfl⟩
    | none =>
      refine .inr ⟨fun v hfinds => ?_, rfl⟩
      cases hfinds with
      | entry cell' first =>
        cases cell.symm.trans cell'
        cases hfirst.symm.trans first
      | member sequence length selects lt item => exact sequence.not_mapping cell
  | @sequence _ size sequence structured length =>
    obtain ⟨q, hq⟩ := sequence.holds
    obtain ⟨rfl, hlimit⟩ := hq.size_of_length length
    by_cases hselects : ∃ n < q.size, (Value.key k).Selects n
    · obtain ⟨n, hn, hkey⟩ := hselects
      obtain ⟨v, hget, hitem⟩ := hq.member n hn (by omega)
      refine .inl ⟨v, .member sequence length hkey hn hitem, ?_⟩
      rw [hq.typeLookup_selected hlimit hkey, hget]
      rfl
    · have hkey : ∀ n < q.size, ¬ (Value.key k).Selects n := fun n hn h => hselects ⟨n, hn, h⟩
      refine .inr ⟨fun v hfinds => ?_, hq.typeLookup_unselected hlimit hkey⟩
      cases hfinds with
      | entry cell first => exact sequence.not_mapping cell
      | member sequence' length' selects lt item =>
        cases length.symm.trans length'
        exact hkey _ lt selects

theorem IsSequence.holds_kept (h : context.IsSequence s) (hs : context.isStructured)
    (hkept : context.KeptBy s s') : ∃ q, context.Holds s q ∧ context.Holds s' q := by
  cases h with
  | range start stop step =>
    exact ⟨_, .of_range s start stop step, .of_range s' start stop step⟩
  | list cell =>
    have cell' := (hkept _ rfl).trans cell
    exact ⟨_, .of_cell cell (.inl rfl), .of_cell cell' (.inl rfl)⟩
  | tuple cell =>
    have cell' := (hkept _ rfl).trans cell
    exact ⟨_, .of_cell cell (.inr (.inl rfl)), .of_cell cell' (.inr (.inl rfl))⟩
  | deque cell =>
    have cell' := (hkept _ rfl).trans cell
    exact ⟨_, .of_cell cell (.inr (.inr rfl)), .of_cell cell' (.inr (.inr rfl))⟩
  | _ => cases hs

/-- A lookup depends on no more of the store than the context. -/
theorem IsKeyed.typeLookup_kept (h : context.IsKeyed s) (hkept : context.KeptBy s s') (k : Key) :
    context.typeLookup (.key k) s' = context.typeLookup (.key k) s := by
  cases h with
  | mapping cell =>
    have cell' := (hkept _ rfl).trans cell
    -- What a mapping answers to a scalar does not ask what its keys hold by now.
    rw [typeLookup_mapping k cell, typeLookup_mapping k cell']
  | sequence sequence structured length =>
    obtain ⟨q, hq, hq'⟩ := sequence.holds_kept structured hkept
    rw [hq.typeLookup, hq'.typeLookup, q.lookup_store (.key k) s s']

end Value
end Stencil
