import Stencil.Proofs.Counting
import Stencil.Template

/-!
What a store shows while nothing in it acts. No reading sees how often a text was taken or a routine
called, nor what a routine would do, nor the log, nor which identities are left.
-/

namespace Stencil

variable {α β : Type}

/-- A cell without what only acting could tell. -/
def Cell.inert : Cell → Cell
  | .counter _ => .counter 0
  | .routine r _ => .routine ⟨r.label, .context⟩ 0
  | c => c

namespace Store

def inert (s : Store) : Store :=
  { s with cells := s.cells.map Cell.inert, log := #[], nextIdentity := 0 }

@[simp] theorem getD_inert (s : Store) (a : Address) :
    s.inert.cells.getD a (.tuple []) = (s.cells.getD a (.tuple [])).inert := by
  simp only [inert, Array.getD_eq_getD_getElem?, Array.getElem?_map]
  cases s.cells[a]? <;> rfl

end Store

/-- Taking a text leaves what a store shows. -/
theorem Counted.inert {s s' : Store} (h : Counted s s') : s'.inert = s.inert := by
  cases h with
  | none => rfl
  | @one a taken h =>
    have hcells : (s.cells.setIfInBounds a (.counter (taken + 1))).map Cell.inert =
        s.cells.map Cell.inert := by
      refine Array.ext (by simp) fun i _ hi => ?_
      have hsize : i < s.cells.size := by simpa using hi
      rw [Array.getElem_map, Array.getElem_map, Array.getElem_setIfInBounds hsize]
      split
      · rename_i ha
        subst ha
        have hcell : s.cells[a] = .counter taken := by simpa [Array.getD, hsize] using h
        rw [hcell]
        rfl
      · rfl
    simp only [Store.inert, hcells]

namespace Reading

/-- A reading that sees no more of a store than it shows while nothing acts. -/
def Steady (r : Reading α) : Prop :=
  ∀ s, r s.inert = r s

namespace Steady

theorem pure (x : α) : Steady (pure x) :=
  fun _ => rfl

theorem throw (f : Fault) : Steady (throw f : Reading α) :=
  fun _ => rfl

theorem depth : Steady depth := by
  intro s
  simp [Reading.depth, Store.inert]

theorem extras : Steady extras :=
  fun _ => rfl

theorem room : Steady room :=
  fun _ => rfl

theorem bind {r : Reading α} {f : α → Reading β} (first : Steady r)
    (next : ∀ x, Steady (f x)) : Steady (r >>= f) := by
  intro s
  cases h : r s with
  | error e => rw [bind_error ((first s).trans h), bind_error h]
  | ok x => rw [bind_ok ((first s).trans h), bind_ok h, next x s]

theorem cell {f : Cell → Reading α} (a : Address) (blind : ∀ c, f c.inert = f c)
    (next : ∀ c, Steady (f c)) : Steady (cell a >>= f) := by
  intro s
  rw [bind_cell, bind_cell, s.getD_inert, blind, next]

theorem mapM {f : α → Reading β} (h : ∀ x, Steady (f x)) (xs : List α) :
    Steady (xs.mapM f) := by
  induction xs with
  | nil => rw [List.mapM_nil]; exact .pure []
  | cons x xs ih =>
    rw [List.mapM_cons]
    exact .bind (h x) fun _ => .bind ih fun _ => .pure _

end Steady

theorem steady_bytes (a : Address) : Steady (bytes a) := by
  refine .cell a (fun c => by cases c <;> rfl) fun c => ?_
  cases c <;> exact .pure _

theorem steady_entries (a : Address) : Steady (entries a) := by
  refine .cell a (fun c => by cases c <;> rfl) fun c => ?_
  cases c <;> exact .pure _

theorem steady_extra? (v : Value) (name : Text) : Steady (extra? v name) :=
  .bind .extras fun _ => .pure _

theorem steady_slotParts (a : Address) : Steady (slotParts a) := by
  refine .bind (steady_entries a) fun entries => ?_
  dsimp only
  split
  · exact .pure _
  · exact .throw _

end Reading

open Reading (Steady)

/-! ## Equality and imprints -/

section Equality

variable {equal : Value → Value → Reading Bool} (h : ∀ v w, Steady (equal v w))

include h

theorem steady_listEqual (vs ws : List Value) : Steady (listEqual equal vs ws) := by
  induction vs generalizing ws with
  | nil => cases ws <;> exact .pure _
  | cons v vs ih =>
    cases ws with
    | nil => exact .pure _
    | cons w ws =>
      unfold listEqual
      split
      · exact ih ws
      · refine .bind (h v w) fun b => ?_
        cases b
        · exact .pure _
        · exact ih ws

theorem steady_fits (stored wanted : StoredKey) : Steady (stored.fits equal wanted) := by
  unfold StoredKey.fits
  split
  · split
    · exact .pure _
    · exact h _ _
  · exact .pure _

theorem steady_seek (wanted : StoredKey) (entries : Entries) :
    Steady (seek equal wanted entries) := by
  induction entries with
  | nil => exact .pure _
  | cons e entries ih =>
    refine .bind (steady_fits h e.1 wanted) fun b => ?_
    cases b
    · exact ih
    · exact .pure _

theorem steady_entry (wanted : StoredKey) (entries : Entries) :
    Steady ( findEntry? equal wanted entries) :=
  .bind (steady_seek h wanted entries) fun _ => .pure _

theorem steady_entriesWithin (other entries : Entries) :
    Steady (entriesWithin equal other entries) := by
  induction entries with
  | nil => exact .pure _
  | cons e entries ih =>
    refine .bind (steady_entry h e.1 other) fun found => ?_
    cases found with
    | none => exact .pure _
    | some w =>
      dsimp only
      split
      · exact ih
      · refine .bind (h e.2 w) fun b => ?_
        cases b
        · exact .pure _
        · exact ih

theorem steady_equalWith (c d : Cell) : Steady (c.equalWith equal d) := by
  unfold Cell.equalWith
  split
  · split
    · exact steady_listEqual h _ _
    · exact .pure _
  · split
    · exact steady_listEqual h _ _
    · exact .pure _
  · exact steady_listEqual h _ _
  · split
    · exact steady_entriesWithin h _ _
    · exact .pure _
  · -- Which of the two is gone through makes no difference to what comes then.
    have hrest : ∀ (within : Bool) (p : Prop) [Decidable p] (vs ws : List Value),
        Steady (if p then listEqual equal vs ws else pure within) := by
      intro within p _ vs ws
      split
      · exact steady_listEqual h vs ws
      · exact .pure _
    split
    · exact .pure _
    · dsimp only
      split <;> exact .bind (steady_entriesWithin h _ _) fun within => hrest within _ _ _
  · refine .bind (Reading.steady_entries _) fun as => .bind (Reading.steady_entries _) fun bs => ?_
    split
    · exact steady_entriesWithin h _ _
    · exact .pure _
  · exact .bind (Reading.steady_slotParts _) fun _ => .bind (Reading.steady_slotParts _) fun _ =>
      steady_listEqual h _ _
  · exact h _ _
  · exact .throw _
  · exact .pure _

end Equality

@[simp] theorem Cell.inert_equalWith (equal : Value → Value → Reading Bool) (c d : Cell) :
    c.inert.equalWith equal d = c.equalWith equal d := by
  cases c with
  | literal v => cases v <;> cases d <;> rfl
  | _ => cases d <;> rfl

theorem Cell.equalWith_inert (equal : Value → Value → Reading Bool) (c d : Cell) :
    c.equalWith equal d.inert = c.equalWith equal d := by
  cases c with
  | literal v => cases v <;> cases d <;> rfl
  | _ => cases d <;> rfl

theorem Cell.isSelfEqual_inert (c : Cell) : c.inert.isSelfEqual = c.isSelfEqual := by
  cases c <;> rfl

namespace Value

theorem steady_numbersEqual (a b : Option (ExtendedReal × ExtendedReal)) :
    Steady (numbersEqual a b) := by
  unfold numbersEqual
  split
  · split
    · exact .throw _
    · exact .pure _
  · exact .pure _

/-- Only objects are compared through what they hold. -/
theorem steady_equalWithin_of_objects {depth : Nat}
    (h : ∀ a b, Steady (equalWithin depth (.object a) (.object b))) (v w : Value) :
    Steady (equalWithin depth v w) := by
  unfold equalWithin
  split
  case h_12 a b =>
    have hobjects := h a b
    unfold equalWithin at hobjects
    exact hobjects
  case h_13 => exact steady_numbersEqual _ _
  case h_5 | h_6 => exact .bind (Reading.steady_bytes _) fun _ => .pure _
  case h_7 a b =>
    exact .bind (Reading.steady_bytes a) fun _ => .bind (Reading.steady_bytes b) fun _ => .pure _
  all_goals exact .pure _

theorem steady_equalWithin (depth : Nat) (v w : Value) : Steady (equalWithin depth v w) := by
  induction depth generalizing v w with
  | zero =>
    refine steady_equalWithin_of_objects (fun a b => ?_) v w
    unfold equalWithin
    refine .cell a (fun c => by rw [c.isSelfEqual_inert]) fun c => ?_
    split
    · exact .pure _
    · exact .throw _
  | succ depth ih =>
    refine steady_equalWithin_of_objects (fun a b => ?_) v w
    unfold equalWithin
    refine .cell a (fun c => ?_) fun c => ?_
    · simp only [c.isSelfEqual_inert, Cell.inert_equalWith]
    · split
      · exact .pure _
      · exact .cell b (Cell.equalWith_inert _ c) fun d => steady_equalWith ih c d

theorem steady_equal (v w : Value) : Steady (equal v w) :=
  .bind .depth fun _ => steady_equalWithin _ v w

theorem steady_imprintWithin_of_objects {depth : Nat}
    (h : ∀ a, Steady (imprintWithin depth (.object a))) (v : Value) :
    Steady (imprintWithin depth v) := by
  cases v with
  | object a => exact h a
  | byteArray a => unfold imprintWithin; exact .throw _
  | complex re im =>
    unfold imprintWithin
    split <;> exact .pure _
  | decimal d =>
    unfold imprintWithin
    dsimp only
    split
    · exact .throw _
    · split <;> exact .pure _
  | _ => unfold imprintWithin; exact .pure _

theorem steady_imprintWithin (depth : Nat) (v : Value) : Steady (imprintWithin depth v) := by
  induction depth generalizing v with
  | zero =>
    refine steady_imprintWithin_of_objects (fun a => ?_) v
    unfold imprintWithin
    exact .throw _
  | succ depth ih =>
    refine steady_imprintWithin_of_objects (fun a => ?_) v
    unfold imprintWithin
    refine .cell a (fun c => by cases c <;> rfl) fun c => ?_
    split
    · exact .bind (.mapM ih _) fun _ => .pure _
    · exact .bind (ih _) fun _ => .pure _
    · exact .throw _
    · refine .bind (Reading.steady_slotParts _) fun parts => ?_
      exact .bind (ih parts.1) fun _ => .bind (ih parts.2) fun _ => .pure _
    · exact .pure _
    · exact .pure _
    · exact .pure _
    · exact .throw _

theorem steady_imprint (v : Value) : Steady v.imprint :=
  .bind .depth fun _ => steady_imprintWithin _ v

theorem steady_asKey (v : Value) : Steady v.asKey := by
  refine .bind (steady_imprint v) fun imprint => ?_
  split
  · exact .pure _
  · exact .throw _

theorem steady_find? (entries : Entries) (key : Value) : Steady (find? entries key) :=
  .bind (steady_asKey key) fun _ => steady_entry steady_equal _ entries

end Value

/-! ## Texts that show a value from inside -/

theorem Key.steady_repr (k : Key) : Steady k.repr := by
  cases k with
  | int n =>
    unfold repr
    dsimp only
    split
    · exact .pure _
    · exact .throw _
  | _ => exact .pure _

theorem steady_rangeText (start stop step : Int) : Steady (rangeText start stop step) :=
  .bind (.mapM (fun n => Key.steady_repr (.int n)) _) fun _ => .pure _

namespace Value

theorem steady_typeName (v : Value) : Steady v.typeName := by
  cases v with
  | object a => exact .cell a (fun c => by cases c <;> rfl) fun _ => .pure _
  | part type name => cases type <;> exact .pure _
  | _ => exact .pure _

theorem steady_bareTypeName (v : Value) : Steady v.bareTypeName :=
  .bind v.steady_typeName fun _ => .pure _

theorem steady_fullTypeName (v : Value) : Steady v.fullTypeName :=
  .bind v.steady_typeName fun _ => .pure _

end Value

namespace Callable

theorem steady_functionText (first : Text) (c : Callable) : Steady (c.functionText first) := by
  refine .bind (Reading.steady_extra? _ _) fun e => ?_
  split <;> exact .pure _

theorem steady_repr (c : Callable) : Steady c.repr := by
  induction c using Callable.repr.induct with
  | case1 b => exact .pure _
  | case2 a => exact .cell a (fun c => by cases c <;> rfl) fun _ => .pure _
  | case3 id body ih => exact .bind ih fun _ => .pure _
  | case4 id head delimiter tail ihHead ihTail =>
    exact .bind ihHead fun _ => .bind ihTail fun _ => .pure _
  | case5 id receiver condition delimiter => exact steady_functionText _ _
  | case6 id fragments slots => exact steady_functionText _ _
  | case7 id fragments slots => exact steady_functionText _ _
  | case8 id body name ih => exact .bind ih fun _ => .pure _
  | case9 owner name notTemplate =>
    rw [repr]
    · exact .bind owner.steady_fullTypeName fun _ => .pure _
    · exact notTemplate

end Callable

namespace Cell

section Members

variable {member outermost : Value → Reading Text} (hm : ∀ v, Steady (member v))
  (ho : ∀ v, Steady (outermost v))

include hm in
theorem steady_pairs (entries : Entries) : Steady (pairs member entries) := by
  refine .bind (.mapM (fun e => ?_) entries) fun _ => .pure _
  exact .bind (hm e.1.key) fun _ => .bind (hm e.2) fun _ => .pure _

include ho in
theorem steady_lostKeyText (k : Value) : Steady (lostKeyText outermost k) := by
  unfold lostKeyText
  split
  · refine .cell _ (fun c => by cases c <;> rfl) fun c => ?_
    split
    · exact ho _
    · exact ho _
  · exact ho k

include ho in
theorem steady_foundPairs (entries : Entries) : Steady (foundPairs outermost entries) := by
  refine .mapM (fun e => ?_) entries
  refine .bind (Value.steady_find? entries e.1.key) fun found => ?_
  cases found with
  | none => exact .bind (steady_lostKeyText ho _) fun _ => .throw _
  | some v => exact .pure _

include hm ho in
theorem steady_reprWith (c : Cell) : Steady (c.reprWith member outermost) := by
  unfold reprWith
  split
  · exact .bind (.mapM hm _) fun _ => .pure _
  · exact .bind (hm _) fun _ => .pure _
  · exact .bind (.mapM hm _) fun _ => .pure _
  · exact .bind (.mapM hm _) fun _ => .pure _
  · exact .pure _
  · exact .bind (.mapM (fun k : StoredKey => hm k.key) _) fun _ => .pure _
  · exact .pure _
  · exact steady_pairs hm _
  · exact steady_pairs hm _
  · exact .bind (steady_pairs hm _) fun _ => .pure _
  · exact .pure _
  · exact .pure _
  · refine .bind (steady_foundPairs ho _) fun found => ?_
    refine .bind (.mapM (fun e => ?_) found) fun _ => .pure _
    exact .bind (hm e.1) fun _ => .bind (hm e.2) fun _ => .pure _
  · refine .bind (Reading.steady_entries _) fun entries => ?_
    refine .bind (.mapM (fun e => ?_) _) fun _ => .pure _
    exact .bind (hm e.2) fun _ => .pure _
  · exact .pure _
  · exact .pure _
  · exact .bind (hm _) fun _ => .pure _
  · exact .throw _
  · refine .bind (Reading.steady_slotParts _) fun parts => ?_
    exact .bind (hm parts.1) fun _ => .bind (hm parts.2) fun _ => .pure _
  · exact .pure _

end Members

theorem steady_frameWith {shown : List Address → Value → Reading Text}
    (hs : ∀ outer v, Steady (shown outer v)) (outer : List Address) (members : Text) (c : Cell) :
    Steady (c.frameWith shown outer members) := by
  unfold frameWith
  split
  · dsimp only
    split
    · refine .cell _ (fun c => by cases c <;> rfl) fun c => ?_
      split
      · exact .bind (hs _ _) fun _ => .pure _
      · exact .bind (hs _ _) fun _ => .pure _
      · split
        · exact .pure _
        · exact .bind (hs _ _) fun _ => .pure _
    · exact .bind (hs _ _) fun _ => .pure _
  · exact .pure _

@[simp] theorem inert_frameWith (shown : List Address → Value → Reading Text) (outer : List Address)
    (members : Text) (c : Cell) :
    c.inert.frameWith shown outer members = c.frameWith shown outer members := by
  cases c <;> rfl

@[simp] theorem inert_reprWith (member outermost : Value → Reading Text) (c : Cell) :
    c.inert.reprWith member outermost = c.reprWith member outermost := by
  cases c <;> rfl

@[simp] theorem cycleMark?_inert (c : Cell) : c.inert.cycleMark? = c.cycleMark? := by
  unfold Cell.inert
  split <;> rfl

end Cell

namespace Value

theorem steady_reprWithin_of_objects {depth : Nat} {outer : List Address}
    (h : ∀ a, Steady (reprWithin depth outer (.object a))) (v : Value) :
    Steady (reprWithin depth outer v) := by
  cases v with
  | object a => exact h a
  | key k => unfold reprWithin; exact k.steady_repr
  | byteArray a => unfold reprWithin; exact .bind (Reading.steady_bytes a) fun _ => .pure _
  | range start stop step => unfold reprWithin; exact steady_rangeText start stop step
  | callable c => unfold reprWithin; exact c.steady_repr
  | _ => unfold reprWithin; exact .pure _

theorem steady_reprWithin (depth : Nat) (outer : List Address) (v : Value) :
    Steady (reprWithin depth outer v) := by
  induction depth generalizing outer v with
  | zero =>
    refine steady_reprWithin_of_objects (fun a => ?_) v
    unfold reprWithin
    exact .throw _
  | succ depth ih =>
    refine steady_reprWithin_of_objects (fun a => ?_) v
    unfold reprWithin
    refine .cell a (fun c => ?_) fun c => ?_
    · simp only [c.cycleMark?_inert, Cell.inert_reprWith, Cell.inert_frameWith]
    · have hframe := fun members => Cell.steady_frameWith ih outer members c
      dsimp only
      split
      · split
        · exact hframe _
        · exact .bind (Cell.steady_reprWith (ih _) (ih _) c) hframe
      · exact .bind (Cell.steady_reprWith (ih _) (ih _) c) hframe

theorem steady_repr (v : Value) : Steady v.repr :=
  .bind .depth fun _ => steady_reprWithin _ [] v

end Value

/-! ## Members -/

theorem Entries.steady_walk (entries : Entries) (steps : Nat) (ahead : Entries) :
    Steady (walk entries steps ahead) := by
  induction steps generalizing ahead with
  | zero => cases ahead <;> first | exact .pure _ | exact .throw _
  | succ steps ih =>
    cases ahead with
    | nil => exact .pure _
    | cons e ahead =>
      refine .bind (Value.steady_asKey e.1.key) fun k => ?_
      refine .bind (steady_seek Value.steady_equal k entries) fun found => ?_
      cases found with
      | nil => exact .bind (Cell.steady_lostKeyText Value.steady_repr _) fun _ => .throw _
      | cons _ ahead => exact .bind (ih ahead) fun _ => .pure _

theorem Entries.steady_keys (form : MappingForm) (entries : Entries) :
    Steady (keys form entries) := by
  cases form with
  | ordered => exact steady_walk entries _ entries
  | _ => exact .pure _

theorem steady_requireRoom (length : Nat) : Steady (requireRoom length) := by
  have hroom : Steady (do if (← Reading.room) < length then throw .noRoom) := by
    refine .bind .room fun room => ?_
    split
    · exact .throw _
    · exact .pure _
  unfold requireRoom
  dsimp only
  split
  · exact .bind (.throw _) fun _ => hroom
  · exact hroom

namespace Value

theorem steady_members (v : Value) : Steady v.members := by
  have hnone : ∀ w : Value,
      Steady (do throw (.notIterable (← w.fullTypeName)) : Reading (List Value)) :=
    fun w => .bind w.steady_fullTypeName fun _ => .throw _
  unfold members
  split
  · exact .pure _
  · exact .bind (Reading.steady_bytes _) fun _ => .pure _
  · exact .bind (steady_requireRoom _) fun _ => .pure _
  · refine .cell _ (fun c => by cases c <;> rfl) fun c => ?_
    split
    · exact .pure _
    · exact .pure _
    · exact .pure _
    · exact .pure _
    · exact Entries.steady_keys _ _
    · exact hnone _
  · exact .pure _
  · split
    · exact .pure _
    · exact hnone _

theorem steady_firstMembers (count : Nat) (v : Value) : Steady (v.firstMembers count) := by
  unfold firstMembers
  split
  · exact .bind (steady_requireRoom _) fun _ => .pure _
  · exact .bind v.steady_members fun _ => .pure _

end Value

/-! ## Truth and attributes -/

namespace Value

theorem steady_isTrue (v : Value) : Steady v.isTrue := by
  cases v with
  | object a => exact .cell a (fun c => by cases c <;> rfl) fun _ => .pure _
  | byteArray a => exact .bind (Reading.steady_bytes a) fun _ => .pure _
  | _ => exact .pure _

theorem steady_class (v : Value) : Steady v.class := by
  cases v with
  | key k => cases k <;> exact .pure _
  | object a => exact .cell a (fun c => by cases c <;> rfl) fun _ => .pure _
  | part type name => exact .bind (steady_typeName _) fun _ => .pure _
  | _ => exact .pure _

theorem steady_ownerName (v : Value) : Steady v.ownerName := by
  unfold ownerName
  split
  · split
    · exact .pure _
    · exact .bind (steady_fullTypeName _) fun _ => .pure _
  · exact .bind (steady_fullTypeName _) fun _ => .pure _

theorem steady_description? (v : Value) : Steady v.description? := by
  unfold description?
  split
  · exact .pure _
  · exact .pure _
  · exact .pure _
  · exact .pure _
  · exact .bind (steady_class _) fun _ => .pure _

theorem steady_typeAttributes (v : Value) : Steady v.typeAttributes := by
  have hown : ∀ own, Steady (do
      return own ++ (← v.description?).toList.map (labelled "__doc__")) :=
    fun own => .bind v.steady_description? fun _ => .pure _
  cases v with
  | object a => exact .cell a (fun c => by cases c <;> rfl) fun c => hown c.attributes
  | _ => exact hown _

theorem steady_operations (v : Value) : Steady v.operations := by
  cases v with
  | object a => exact .cell a (fun c => by cases c <;> rfl) fun _ => .pure _
  | _ => exact .pure _

theorem steady_hasOperation (v : Value) (name : Text) : Steady (v.hasOperation name) :=
  .bind v.steady_operations fun _ => .pure _

theorem steady_laterDictionary? (v : Value) : Steady v.laterDictionary? := by
  refine .bind (Reading.steady_extra? v _) fun e => ?_
  split <;> exact .pure _

theorem steady_dictionary? (v : Value) : Steady v.dictionary? := by
  unfold dictionary?
  split
  · exact .pure _
  · exact .pure _
  · refine .cell _ (fun c => by cases c <;> rfl) fun c => ?_
    split
    · exact .pure _
    · exact .pure _
    · exact .pure _
    · exact steady_laterDictionary? _
  · exact steady_laterDictionary? _

theorem steady_typeAttribute? (v : Value) (name : Text) : Steady (v.typeAttribute? name) := by
  refine .bind v.steady_typeAttributes fun attributes => ?_
  split
  · exact .pure _
  · refine .bind (v.steady_hasOperation name) fun b => ?_
    split <;> exact .pure _

theorem steady_ownAttribute? (v : Value) (name : Text) : Steady (v.ownAttribute? name) := by
  refine .bind v.steady_dictionary? fun attributes => ?_
  split
  · split
    · exact .pure _
    · refine .bind (Reading.steady_entries _) fun entries => ?_
      split
      · exact .pure _
      · split
        · exact .pure _
        · exact v.steady_typeAttribute? name
  · refine .bind (Reading.steady_extra? v name) fun e => ?_
    split
    · exact .pure _
    · split
      · exact .pure _
      · exact v.steady_typeAttribute? name
    · exact v.steady_typeAttribute? name

theorem steady_missingAttribute (v : Value) (name : Text) : Steady (v.missingAttribute name) := by
  refine .bind v.steady_ownerName fun owner => ?_
  split
  · refine .cell _ (fun c => by cases c <;> rfl) fun c => ?_
    split
    · split <;> exact .pure _
    · exact .pure _
  · exact .pure _
  · exact .pure _

theorem steady_getAttribute (v : Value) (name : Text) : Steady (v.getAttribute name) := by
  unfold getAttribute
  split
  · exact .bind v.steady_class fun _ => .pure _
  · refine .bind (v.steady_ownAttribute? name) fun found => ?_
    cases found with
    | none => exact .bind (v.steady_missingAttribute name) fun _ => .throw _
    | some w => exact .pure _

theorem steady_getAttribute? (v : Value) (name : Text) : Steady (v.getAttribute? name) := by
  intro s
  unfold getAttribute?
  rw [v.steady_getAttribute name s]

theorem steady_hasAttribute (v : Value) (name : Text) : Steady (v.hasAttribute name) :=
  .bind (v.steady_getAttribute? name) fun _ => .pure _

end Value

/-! ## What templates are compiled from -/

namespace Template

theorem steady_isTemplateString (v : Value) : Steady (isTemplateString v) := by
  refine .bind (v.steady_hasAttribute _) fun b => ?_
  split
  · exact v.steady_hasAttribute _
  · exact .pure _

theorem steady_interpolatedParts (v : Value) : Steady (interpolatedParts v) := by
  unfold interpolatedParts
  split
  · exact .pure _
  · exact v.steady_members

theorem steady_interpolatedValues (parts : List Value) : Steady (interpolatedValues parts) := by
  induction parts with
  | nil => exact .pure _
  | cons part parts ih =>
    refine .bind (fun s => ?_) fun v => .bind ih fun _ => .pure _
    rw [part.steady_getAttribute "value" s]

theorem steady_hasItems (items : Option Value) : Steady (hasItems items) := by
  cases items with
  | none => exact .pure _
  | some v => exact v.steady_isTrue

end Template

namespace Layout

theorem steady_fragmentsFrom (index : Nat) (vs : List Value) : Steady (fragmentsFrom index vs) := by
  induction vs generalizing index with
  | nil => exact .pure _
  | cons v vs ih =>
    unfold fragmentsFrom
    split
    · exact .bind (ih _) fun _ => .pure _
    · exact .bind v.steady_bareTypeName fun _ => .throw _

theorem steady_fragmentMembers (v : Value) : Steady (fragmentMembers v) := by
  unfold fragmentMembers
  split
  · exact Value.steady_firstMembers 1 _
  · exact v.steady_members

theorem steady_firstItems (count : Nat) (items : Option Value) :
    Steady (firstItems count items) := by
  cases items with
  | none => exact .pure _
  | some v => exact v.steady_firstMembers count

theorem steady_prepare (fragments : Value) (items : Option Value) :
    Steady (prepare fragments items) := by
  have hparts : Steady (do
      let fs ← fragmentsFrom 0 (← fragmentMembers fragments)
      let vs ← firstItems fs.length items
      return Layout.mk fs (vs.map Value.classify)) := by
    refine .bind (steady_fragmentMembers fragments) fun members => ?_
    refine .bind (steady_fragmentsFrom 0 members) fun fs => ?_
    exact .bind (steady_firstItems fs.length items) fun _ => .pure _
  unfold prepare
  dsimp only
  split
  · exact .bind (.throw _) fun _ => hparts
  · exact hparts

end Layout
end Stencil
