import Stencil.Proofs.Asking
import Stencil.Proofs.Respecting

/-!
What no call changes. Mappings stay mappings, and those that take no attributes never take any. So
the only contexts that a call can give another `get` are mappings that take attributes.
-/

namespace Stencil

open Stencil.Action (Respects)

variable {α β : Type}

/-! ## Running -/

section Running

variable {R : Store → Store → Prop} [Passive R]

structure Host.Respects (R : Store → Store → Prop) (host : Host Action) : Prop where
  typeName : ∀ v, (host.typeName v).Respects R
  lookup : ∀ context key, (host.lookup context key).Respects R
  text : ∀ v, (host.text v).Respects R

private theorem Fold.mem_of_mem_zipLongest {as : List α} {bs : List β} {a : Option α} {b : β}
    (h : (a, some b) ∈ zipLongest as bs) : b ∈ bs := by
  induction as generalizing bs with
  | nil =>
    obtain ⟨_, hb, heq⟩ := List.mem_map.mp h
    cases heq
    exact hb
  | cons a' as ih =>
    rcases List.mem_cons.mp h with heq | h
    · have hhead : bs.head? = some b := (congrArg Prod.snd heq).symm
      exact List.mem_of_mem_head? hhead
    · exact List.mem_of_mem_tail (ih h)

variable {host : Host Action} (h : host.Respects R) {items : List (Bound Action)}
  (hitems : ∀ b ∈ items, ∀ v, (b.call v).Respects R) (context : Value)

include h

theorem Host.Respects.contribution (v : Value) : (host.contribution v).Respects R := by
  cases v with
  | nothing => exact .pure []
  | _ => exact h.text _

theorem Host.Respects.requireStructured : (host.requireStructured context).Respects R := by
  unfold Host.requireStructured
  split
  · exact .bind (h.typeName context) fun _ => .throw _
  · exact .pure ()

theorem Fold.respects_contribution {b : Bound Action} (hb : ∀ v, (b.call v).Respects R) :
    (contribution host b context).Respects R := by
  unfold contribution
  split
  · exact .pure []
  · exact h.text _
  · exact .bind (hb context) h.contribution
  · exact .bind (h.lookup context _) h.contribution

include hitems

theorem Fold.respects_run (fragments : List Text) :
    (run host fragments items context).Respects R := by
  refine .bind (h.requireStructured context) fun _ => .foldlM (fun text pair hpair => ?_) []
  obtain ⟨_ | fragment, _ | b⟩ := pair
  · exact .throw _
  · exact .throw _
  · exact .pure _
  · have hb := hitems b (mem_of_mem_zipLongest hpair)
    exact .bind (respects_contribution h context hb) fun _ => .pure _

namespace Program

private theorem respects_evaluate (bindsGetter : Bool) (e : Expression) :
    (evaluate host bindsGetter items context e).Respects R := by
  have hitem : ∀ index, (boundItem items index : Action (Bound Action)).Respects R := by
    intro index
    unfold boundItem
    split
    · exact .pure _
    · exact .throw _
  cases e with
  | get a =>
    have hargument : (argument items a : Action Value).Respects R := by
      cases a with
      | inline k => exact .pure _
      | item index => exact .bind (hitem index) fun _ => .pure _
    unfold evaluate
    dsimp only
    split
    · exact .bind hargument fun key => h.lookup context key
    · exact .throw _
  | item index => exact .bind (hitem index) fun _ => .pure _
  | callItem index =>
    unfold evaluate boundItem
    dsimp only
    split
    · rename_i b hb
      rw [pure_bind]
      exact hitems b (List.mem_of_getElem? hb) context
    · exact Passive.refl

private theorem respects_assign (bindsGetter : Bool) (bindings : Locals)
    (assignments : List Assignment) :
    (assign host bindsGetter items context bindings assignments).Respects R := by
  induction assignments generalizing bindings with
  | nil => exact .pure _
  | cons a rest ih =>
    refine .bind (respects_evaluate h hitems context bindsGetter a.expression) fun v => ?_
    exact .bind (h.contribution v) fun t => ih _

omit h hitems in
private theorem respects_joinPieces (bindings : Locals) (body : List Piece) :
    (joinPieces bindings body : Action Text).Respects R := by
  induction body with
  | nil => exact .pure _
  | cons p rest ih =>
    have hpiece : (pieceText bindings p : Action Text).Respects R := by
      unfold pieceText
      split
      · exact .pure _
      · split
        · exact .pure _
        · exact .throw _
    exact .bind hpiece fun _ => .bind ih fun _ => .pure _

theorem respects_run (p : Program) : (p.run host items context).Respects R := by
  refine .bind (h.requireStructured context) fun _ => ?_
  exact .bind (respects_assign h hitems context _ _ _) fun bindings =>
    respects_joinPieces bindings _

end Program
end Running

/-! ## Objects -/

/-- Stores of which the second has the objects of the first, and takes a `get` for no others. -/
structure Framed (s s' : Store) : Prop where
  size : s.cells.size ≤ s'.cells.size
  takesGet : ∀ a < s.cells.size,
    (s'.cells.getD a (.tuple [])).takesGet = (s.cells.getD a (.tuple [])).takesGet

variable {s s' : Store}

theorem Counted.framed (h : Counted s s') : Framed s s' where
  size := by cases h <;> simp
  takesGet a _ := by
    rcases h.cell a with heq | ⟨taken, hs, hs'⟩
    · rw [heq]
    · rw [hs, hs']
      rfl

private theorem framed_push (s : Store) (c : Cell) :
    Framed s { s with cells := s.cells.push c } where
  size := by simp
  takesGet a ha := by simp [Array.getD, ha, Array.getElem_push, Nat.lt_succ_of_lt ha]

instance : Passive Framed where
  refl _ := ⟨Nat.le_refl _, fun _ _ => rfl⟩
  trans h h' := ⟨Nat.le_trans h.size h'.size, fun a ha =>
    (h'.takesGet a (Nat.lt_of_lt_of_le ha h.size)).trans (h.takesGet a ha)⟩
  identity _ _ := ⟨Nat.le_refl _, fun _ _ => rfl⟩
  object := framed_push
  counted := Counted.framed

/-- What is written over another object takes a `get` if and only if that did. -/
theorem framed_write {a : Address} {c : Cell}
    (h : (s.cells.getD a (.tuple [])).takesGet = c.takesGet) : Framed s (Action.write a c s).2 := by
  change Framed s { s with cells := s.cells.setIfInBounds a c }
  refine ⟨by simp, fun b hb => ?_⟩
  by_cases hab : a = b
  · subst hab
    rw [h]
    simp [Array.getD, hb]
  · simp [Array.getD_eq_getD_getElem?, hab]

theorem framed_log (label : Text) : (Action.log label).Respects Framed :=
  fun _ => ⟨Nat.le_refl _, fun _ _ => rfl⟩

theorem framed_addExtra (extra : ExtraAttribute) : (Action.addExtra extra).Respects Framed :=
  fun _ => ⟨Nat.le_refl _, fun _ _ => rfl⟩

theorem framed_writeBytes (a : Address) (bs : List UInt8) :
    (Action.writeBytes a bs).Respects Framed := by
  intro s
  unfold Action.writeBytes
  rw [Action.bind_cell]
  cases hc : s.cells.getD a (.tuple []) with
  | bytes _ => exact framed_write (by rw [hc]; rfl)
  | _ => exact Passive.refl s

theorem framed_writeEntries (a : Address) (entries : Entries) :
    (Action.writeEntries a entries).Respects Framed := by
  intro s
  unfold Action.writeEntries
  rw [Action.bind_cell]
  cases hc : s.cells.getD a (.tuple []) with
  | mapping form _ => exact framed_write (by rw [hc]; rfl)
  | _ => exact Passive.refl s

theorem framed_setItem (v key w : Value) : (v.setItem key w).Respects Framed := by
  unfold Value.setItem
  split
  · rename_i a
    refine .bind (.reading _) fun n => .bind (.reading _) fun b => ?_
    refine .bind (.reading _) fun bs => .bind (.reading _) fun i => ?_
    exact framed_writeBytes a _
  · rename_i a
    intro s
    rw [Action.bind_cell]
    cases hc : s.cells.getD a (.tuple []) with
    | list members => exact Passive.reading_bind fun i => framed_write (by rw [hc]; rfl)
    | deque members => exact Passive.reading_bind fun i => framed_write (by rw [hc]; rfl)
    | mapping form entries =>
      cases form with
      | proxy => exact Passive.reading_bind fun f => Passive.refl s
      | _ => exact Passive.reading_bind fun entries => framed_write (by rw [hc]; rfl)
    | _ => exact Passive.reading_bind fun f => Passive.refl s
  · exact .bind (.reading _) fun _ => .throw _

theorem framed_append (v w : Value) : (v.append w).Respects Framed := by
  unfold Value.append
  split
  · rename_i a
    refine .bind (.reading _) fun b => .bind (.reading _) fun bs => ?_
    exact .bind (framed_writeBytes a _) fun _ => .pure true
  · rename_i a
    intro s
    rw [Action.bind_cell]
    cases hc : s.cells.getD a (.tuple []) with
    | list members | deque members =>
      exact Passive.bind (framed_write (by rw [hc]; rfl)) fun _ => .pure true
    | _ => exact Passive.refl s
  · exact .pure false

theorem framed_moveDictionary (v : Value) (attributes : Address) :
    (v.moveDictionary attributes).Respects Framed := by
  unfold Value.moveDictionary
  split
  · rename_i a
    intro s
    rw [Action.bind_cell]
    cases hc : s.cells.getD a (.tuple []) with
    | plain shown old failing => exact framed_write (by rw [hc]; rfl)
    | _ => exact framed_addExtra _ s
  · refine .bind (.reading _) fun old => ?_
    split
    · exact .bind (.reading _) fun entries => framed_writeEntries _ entries
    · exact .pure ()
  · refine .bind (.reading _) fun old => ?_
    split
    · exact .bind (.reading _) fun entries => framed_writeEntries _ entries
    · exact .pure ()
  · exact framed_addExtra _

theorem framed_functionPart (rule : PartRule) (name : Text) (w : Option Value) :
    (Value.functionPart rule name w).Respects Framed := by
  unfold Value.functionPart
  dsimp only
  generalize w.getD .nothing = part
  have hdictionary : (do
      if (← part.isDictionary) then return part
      else throw (.partRequired name "dict") : Action Value).Respects Framed :=
    .bind (.reading _) fun _ => .ite (.pure part) (.throw _)
  cases rule with
  | anything => exact .pure part
  | text => exact .ite (.pure part) (.throw _)
  | tuple =>
    cases part with
    | nothing => exact .pure _
    | object a =>
      refine .bind (.reading _) fun c => ?_
      cases c with
      | tuple members => exact .pure _
      | _ => exact .throw _
    | _ => exact .throw _
  | mapping =>
    cases part with
    | nothing => exact .pure _
    | _ => exact hdictionary
  | fullMapping =>
    cases part with
    | nothing => exact .newObject _
    | _ => exact hdictionary
  | code =>
    cases part with
    | foreign type shown => exact .ite (.pure _) (.throw _)
    | _ => exact .throw _
  | fixed => exact .throw _

theorem framed_changePart (v : Value) (name : Text) (w : Option Value) :
    (v.changePart name w).Respects Framed := by
  unfold Value.changePart
  split
  · refine .bind (framed_functionPart _ name w) fun part => ?_
    exact .bind (framed_addExtra _) fun _ => .pure true
  · exact .pure false

private theorem framed_attributeFault (v : Value) (name : Text) :
    (do throw (← v.attributeFault name) : Action Unit).Respects Framed :=
  .bind (.reading _) fun f => .throw f

theorem framed_giveExtra (v : Value) (name : Text) (w : Value) :
    (v.giveExtra name w).Respects Framed :=
  .bind (.reading _) fun _ => .ite (framed_addExtra _) (framed_attributeFault v name)

theorem framed_takeExtra (v : Value) (name : Text) : (v.takeExtra name).Respects Framed :=
  .bind (.reading _) fun _ => .bind (.reading _) fun _ =>
    .ite (framed_addExtra _) (framed_attributeFault v name)

/-- A new factory leaves a mapping one that takes no attributes. -/
theorem framed_setAttribute (v : Value) (name : Text) (w : Value) :
    (v.setAttribute name w).Respects Framed := by
  refine .bind (.reading _) fun _ => .bind (framed_changePart v name (some w)) fun changed => ?_
  split
  · exact .pure _
  refine .bind (.reading _) fun attributes => ?_
  cases attributes with
  | some attributes =>
    have hput : (do let entries ← (← Reading.entries attributes).insert (.text name) w
                    Action.writeEntries attributes entries : Action Unit).Respects Framed :=
      .bind (.reading _) fun _ => .bind (.reading _) fun _ => framed_writeEntries attributes _
    dsimp only
    split
    · split
      · exact framed_moveDictionary v _
      · exact hput
    · exact hput
  | none =>
    dsimp only
    split
    · rename_i a
      intro s
      rw [Action.bind_cell]
      cases hc : s.cells.getD a (.tuple []) with
      | literal old =>
        dsimp only
        split
        · exact framed_write (by rw [hc]; rfl)
        · exact framed_attributeFault _ name s
      | mapping form entries =>
        cases form with
        | withDefault factory =>
          dsimp only
          split
          · exact framed_write (by rw [hc]; rfl)
          · exact framed_attributeFault _ name s
        | _ => exact framed_giveExtra _ name w s
      | _ => exact framed_giveExtra _ name w s
    · exact framed_giveExtra v name w

theorem framed_deleteAttribute (v : Value) (name : Text) :
    (v.deleteAttribute name).Respects Framed := by
  refine .bind (.reading _) fun _ => .bind (framed_changePart v name none) fun changed => ?_
  split
  · exact .pure _
  refine .bind (.reading _) fun attributes => ?_
  cases attributes with
  | some attributes =>
    dsimp only
    split
    · exact .bind (fun s => Passive.object s _) fun fresh => framed_moveDictionary v fresh
    · refine .bind (.reading _) fun entries => ?_
      split
      · exact framed_writeEntries attributes _
      · exact framed_attributeFault v name
  | none =>
    dsimp only
    split
    · rename_i a
      intro s
      rw [Action.bind_cell]
      cases hc : s.cells.getD a (.tuple []) with
      | literal old =>
        dsimp only
        split
        · exact framed_attributeFault _ name s
        · split
          · exact framed_write (by rw [hc]; rfl)
          · exact Passive.refl s
      | mapping form entries =>
        cases form with
        | withDefault factory =>
          dsimp only
          split
          · exact framed_write (by rw [hc]; rfl)
          · exact framed_attributeFault _ name s
        | _ => exact framed_takeExtra _ name s
      | _ => exact framed_takeExtra _ name s
    · exact framed_takeExtra v name

theorem framed_changeAttribute (v : Value) (name : Text) (w : Option Value) :
    (v.changeAttribute name w).Respects Framed := by
  cases w with
  | some w => exact framed_setAttribute v name w
  | none => exact framed_deleteAttribute v name

private theorem framed_recordCall {a : Address} {r r' : Routine} {n n' : Nat}
    (h : s.cells.getD a (.tuple []) = .routine r' n') : Framed s (recordCall a r n s).2 := by
  refine Passive.bind (framed_write (by rw [h]; rfl)) fun _ => ?_
  split
  · exact .bind (framed_log _) fun _ => .pure _
  · exact .bind (.pure ()) fun _ => .pure _

/-! ## Calls -/

section Calls

variable {nested : NestedCall} (h : ∀ v w, (nested v w).Respects Framed)
include h

theorem HostCode.framed_run (code : HostCode) : (code.run nested).Respects Framed := by
  induction code with
  | done outcome => exact Passive.refl
  | log label next ih => exact .bind (framed_log label) fun _ => ih
  | read a next ih => exact .bind (.reading _) ih
  | write a entries next ih => exact .bind (framed_writeEntries a entries) fun _ => ih
  | change v name w next ih =>
    have hchange : (v.changeAttribute name w).toExcept.Respects Framed :=
      framed_changeAttribute v name w
    exact .bind hchange ih
  | call v argument next ih =>
    have hcall : (nested v argument).toExcept.Respects Framed := h v argument
    exact .bind hcall ih

theorem framed_appendWith (v w : Value) : (v.appendWith nested w).Respects Framed := by
  refine .bind (framed_append v w) fun appended => ?_
  split
  · exact .pure _
  · exact .bind (.reading _) fun f => h f w

omit h in
private theorem framed_emptyValues : ∀ entry ∈ emptyValues, entry.2.Respects Framed := by
  have hobject : ∀ c : Cell, (Action.newObject c).Respects Framed := .newObject
  have hbytes : (do return Value.byteArray (← Action.alloc (.bytes []))).Respects Framed :=
    .bind (fun s => Passive.object s _) fun _ => .pure _
  unfold emptyValues
  simp only [List.forall_mem_cons, hobject, hbytes, true_and]
  exact ⟨.pure _, .pure _, .pure _, .pure _, .pure _, .pure _, List.forall_mem_nil _⟩

theorem framed_callEmpty (v : Value) : (v.callEmpty nested).Respects Framed := by
  unfold Value.callEmpty
  split
  · exact .pure _
  · exact .pure _
  · exact .throw _
  · rename_i c home bare
    cases hempty : emptyValues.lookup bare with
    | none => exact .throw _
    | some a =>
      obtain ⟨before, after, hentries, -⟩ := List.lookup_eq_some_iff.mp hempty
      exact framed_emptyValues (bare, a) (by simp [hentries])
  · rename_i a
    intro s
    rw [Action.bind_cell]
    cases hc : s.cells.getD a (.tuple []) with
    | routine r calls =>
      obtain ⟨label, behaviour⟩ := r
      cases behaviour with
      | code body =>
        refine Passive.bind ?_ fun _ => (body none).framed_run h
        exact Passive.bind (framed_recordCall hc) fun _ => .pure _
      | _ => exact Passive.refl s
    | _ => exact Passive.refl s
  · exact .throw _
  · exact .bind (.reading _) fun _ => .throw _

theorem framed_subscript (v key : Value) : (v.subscript nested key).Respects Framed := by
  refine .bind (.reading _) fun factory => ?_
  split
  · exact .reading _
  · rename_i factory entries
    refine .bind (.reading _) fun found => ?_
    split
    · exact .pure _
    · refine .bind (framed_callEmpty h factory) fun w => ?_
      exact .bind (framed_setItem v key w) fun _ => .pure _

theorem Behaviour.framed_apply (calls : Nat) (context : Value) (b : Behaviour) :
    (b.apply nested calls context).Respects Framed := by
  cases b with
  | const v => exact .pure v
  | index key => exact framed_subscript h context key
  | count => exact .pure _
  | context => exact .pure _
  | typeName => exact .bind (.reading _) fun _ => .pure _
  | setItem key v => exact .bind (framed_setItem context key v) fun _ => .pure _
  | append v =>
    exact .bind (.bind (framed_appendWith h context v) fun _ => .pure _) fun _ => .pure _
  | raise cls message => exact .throw _
  | code body => exact (body (some context)).framed_run h

theorem framed_callRoutine (a : Address) (context : Value) :
    (callRoutine nested a context).Respects Framed := by
  intro s
  unfold callRoutine
  rw [Action.bind_cell]
  cases hc : s.cells.getD a (.tuple []) with
  | routine r calls =>
    exact Passive.bind (framed_recordCall hc) fun calls => r.behaviour.framed_apply h calls context
  | _ => exact Passive.refl s

theorem framed_applyOperation (owner : Value) (name : Text) (argument : Value) :
    (applyOperation nested owner name argument).Respects Framed := by
  unfold applyOperation
  split
  · exact Template.respects_extendIf _ _ _ _
  · split
    · exact framed_subscript h owner argument
    · split
      · exact .bind (.bind (framed_append owner argument) fun _ => .pure _) fun _ => .pure _
      · split
        · exact .reading _
        · split
          · exact .throw _
          · exact .bind (.reading _) fun _ => .throw _

omit h in
theorem Builtin.framed_apply (context : Value) (b : Builtin) :
    (b.apply context).Respects Framed := by
  cases b with
  | literal => exact .newObject _
  | text => exact .bind (.toText context) fun _ => .pure _
  | length | truth => exact .bind (.reading _) fun _ => .pure _
  | constants family => exact .reading _
  | type home bare =>
    unfold apply applyType
    dsimp only
    split
    · exact .bind (.reading _) fun _ => .pure _
    · split <;> exact .throw _

theorem Host.respects_store (get : Option Value) : (store nested get).Respects Framed where
  typeName _ := .reading _
  lookup context key := by
    cases get with
    | none => exact .reading _
    | some get => exact h get key
  text v := .toText v

end Calls

mutual

theorem Callable.framed_callWith {nested : NestedCall}
    (h : ∀ v w, (nested v w).Respects Framed) : (c : Callable) → (context : Value) →
      (c.callWith nested context).Respects Framed
  | .builtin b, context => b.framed_apply context
  | .routine a, context => framed_callRoutine h a context
  | .template _ body, context => body.framed_callWith h context
  | .chain _ head delimiter tail, context => by
    unfold Callable.callWith
    refine .bind (head.framed_callWith h context) fun _ => .bind (.toText _) fun _ => ?_
    exact .bind (tail.framed_callWith h context) fun _ => .bind (.toText _) fun _ => .pure _
  | .tag _ receiver condition delimiter, fragments =>
    .bind (Template.respects_applyTag _ _ _ _ _) fun _ => .pure _
  | .evaluator _ strategy fragments slots, context => by
    unfold Callable.callWith
    refine .bind (.reading _) fun get => ?_
    have hstore := Host.respects_store h get
    have hslots := framed_bindAll h slots
    cases strategy with
    | generated => exact .bind (Program.respects_run hstore hslots context _) fun _ => .pure _
    | interpreted => exact .bind (Fold.respects_run hstore hslots context _) fun _ => .pure _
  | .operation owner name, context => framed_applyOperation h owner name context

theorem Slot.framed_bind {nested : NestedCall} (h : ∀ v w, (nested v w).Respects Framed) :
    (slot : Slot) → (context : Value) → ((slot.bind nested).call context).Respects Framed
  | .callable c, context => c.framed_callWith h context
  | .absent, _ | .literal _, _ | .key _, _ => .throw _

theorem framed_bindAll {nested : NestedCall} (h : ∀ v w, (nested v w).Respects Framed) :
    (slots : List Slot) → ∀ b ∈ bindAll nested slots, ∀ context, (b.call context).Respects Framed
  | [], _, hb => nomatch hb
  | slot :: slots, b, hb => fun context => by
    rcases List.mem_cons.mp hb with rfl | hb
    · exact slot.framed_bind h context
    · exact framed_bindAll h slots b hb context

end

/-- A context whose `get` no call replaces, for it takes no attributes. -/
def Value.KeepsGet (context : Value) (s : Store) : Prop :=
  ∀ a, context = .object a → a < s.cells.size ∧ ¬ (s.cells.getD a (.tuple [])).takesGet

namespace Framed

theorem keepsGet (h : Framed s s') {context : Value} (keeps : context.KeepsGet s) :
    context.KeepsGet s' := by
  intro a hcontext
  obtain ⟨ha, hclosed⟩ := keeps a hcontext
  exact ⟨Nat.lt_of_lt_of_le ha h.size, by rwa [h.takesGet a ha]⟩

theorem ownGet? (h : Framed s s') {context : Value} (keeps : context.KeepsGet s) :
    context.ownGet? s' = context.ownGet? s := by
  cases context with
  | object a =>
    rw [Value.ownGet?_of_takesGet (keeps a rfl).2,
      Value.ownGet?_of_takesGet (h.keepsGet keeps a rfl).2]
  | _ => rfl

end Framed
end Stencil
