import Mathlib.Data.List.Nodup
import Stencil.Proofs.Ordering
import Stencil.Proofs.Refusing
import Stencil.Proofs.SourceLines

/-!
The names of an emitted program. It reads no name, no local and no item that is not bound by then,
and a program that does not can fail only where the world that it runs in does.
-/

namespace Stencil

/-! ## Programs that bind what they read -/

namespace Program

/-- What a program binds, and where it reads it; its items are those of slots. -/
structure WellBound (p : Program) (slots : List Slot) : Prop where
  closed : p.Closed
  fields : p.body.filterMap Piece.target? = p.assignments.map Assignment.target
  distinct : (p.assignments.map fun a => localName a.target).Nodup
  apart : ∀ a ∈ p.assignments, localName a.target ∉ ("get" : Text) :: parameter :: globals
  getter : p.bindsGetter ↔ ∃ a ∈ p.assignments, ("get" : Text) ∈ a.expression.names
  assigned : ∀ a, a ∈ p.assignments ↔
    ∃ slot, slots[a.target]? = some slot ∧ slot.expression? a.target = some a.expression
  positions : ∀ a ∈ p.assignments, ∀ i ∈ a.expression.positions, i = a.target ∧ i < slots.length

end Program

section Faultless

variable {m : Type → Type} [Monad m] {α β : Type}

/-- Whatever fails in an action fails in the world that it runs in, and not in the action itself. -/
def Faultless (x : ExceptT Fault m α) : Prop :=
  ∃ r : m α, x = ExceptT.lift r

def Host.lifted (host : Host m) : Host (ExceptT Fault m) where
  typeName v := ExceptT.lift (host.typeName v)
  lookup context key := ExceptT.lift (host.lookup context key)
  text v := ExceptT.lift (host.text v)

def Bound.lifted (b : Bound m) : Bound (ExceptT Fault m) :=
  ⟨b.slot, fun context => ExceptT.lift (b.call context)⟩

namespace Faultless

theorem lift (r : m α) : Faultless (ExceptT.lift r) :=
  ⟨r, rfl⟩

theorem boundItem {items : List (Bound m)} {i : Nat} (h : i < items.length) :
    ∃ b : Bound m, Program.boundItem (items.map Bound.lifted) i =
      (Pure.pure b.lifted : ExceptT Fault m (Bound (ExceptT Fault m))) := by
  refine ⟨items[i], ?_⟩
  unfold Program.boundItem
  rw [List.getElem?_map, List.getElem?_eq_getElem h]
  rfl

variable [LawfulMonad m]

theorem pure (x : α) : Faultless (Pure.pure x : ExceptT Fault m α) := by
  refine ⟨Pure.pure x, ?_⟩
  apply ExceptT.ext
  simp

theorem bind {x : ExceptT Fault m α} {f : α → ExceptT Fault m β} (hx : Faultless x)
    (hf : ∀ a, Faultless (f a)) : Faultless (x >>= f) := by
  obtain ⟨r, rfl⟩ := hx
  choose g hg using hf
  refine ⟨r >>= g, ?_⟩
  apply ExceptT.ext
  simp [hg]

theorem contribution (host : Host m) (v : Value) : Faultless (host.lifted.contribution v) := by
  cases v with
  | nothing => exact .pure []
  | _ => exact .lift _

variable {items : List (Bound m)}

theorem evaluate (host : Host m) (context : Value) {bindsGetter : Bool} {e : Expression}
    (hget : ("get" : Text) ∈ e.names → bindsGetter)
    (hitems : ∀ i ∈ e.positions, i < items.length) :
    Faultless (Program.evaluate host.lifted bindsGetter (items.map Bound.lifted) context e) := by
  cases e with
  | get a =>
    have hbinds : bindsGetter = true := by
      cases a <;> exact hget List.mem_cons_self
    unfold Program.evaluate
    dsimp only
    rw [if_pos hbinds]
    cases a with
    | inline k => exact .bind (.pure _) fun key => .lift _
    | item i =>
      obtain ⟨b, hb⟩ := boundItem (hitems i List.mem_cons_self)
      refine .bind ?_ fun key => .lift _
      unfold Program.argument
      dsimp only
      rw [hb, pure_bind]
      exact .pure _
  | item i =>
    obtain ⟨b, hb⟩ := boundItem (hitems i List.mem_cons_self)
    unfold Program.evaluate
    dsimp only
    rw [hb, pure_bind]
    exact .pure _
  | callItem i =>
    obtain ⟨b, hb⟩ := boundItem (hitems i List.mem_cons_self)
    unfold Program.evaluate
    dsimp only
    rw [hb, pure_bind]
    exact .lift _

/-- What follows assignments may rely on their locals, and on those that were bound before. -/
theorem assign (host : Host m) (context : Value) {bindsGetter : Bool}
    {assignments : List Assignment} {bindings : Locals} {k : Locals → ExceptT Fault m β}
    (hget : ∀ a ∈ assignments, ("get" : Text) ∈ a.expression.names → bindsGetter)
    (hitems : ∀ a ∈ assignments, ∀ i ∈ a.expression.positions, i < items.length)
    (hk : ∀ after : Locals,
      after.map Prod.fst = bindings.map Prod.fst ++ assignments.map Assignment.target →
        Faultless (k after)) :
    Faultless (Program.assign host.lifted bindsGetter (items.map Bound.lifted) context bindings
      assignments >>= k) := by
  induction assignments generalizing bindings with
  | nil =>
    unfold Program.assign
    rw [pure_bind]
    exact hk bindings (by simp)
  | cons a assignments ih =>
    unfold Program.assign
    have hevaluate := evaluate host context (hget a List.mem_cons_self)
      (hitems a List.mem_cons_self)
    simp only [bind_assoc]
    refine .bind hevaluate fun v => .bind (.contribution host v) fun t => ?_
    refine ih (fun b hb => hget b (List.mem_cons_of_mem a hb))
      (fun b hb => hitems b (List.mem_cons_of_mem a hb)) fun after hafter => hk after ?_
    simpa using hafter

theorem joinPieces {bindings : Locals} {body : List Piece}
    (h : ∀ i ∈ body.filterMap Piece.target?, i ∈ bindings.map Prod.fst) :
    Faultless (Program.joinPieces bindings body : ExceptT Fault m Text) := by
  induction body with
  | nil => exact .pure []
  | cons piece body ih =>
    have hpiece : Faultless (Program.pieceText bindings piece : ExceptT Fault m Text) := by
      cases piece with
      | fixed t => exact .pure t
      | field target =>
        have hbound : (bindings.lookup target).isSome := by
          obtain ⟨p, hp, heq⟩ := List.mem_map.mp (h target (by simp [Piece.target?]))
          exact List.lookup_isSome_iff.mpr ⟨p, hp, by simp [heq]⟩
        obtain ⟨t, ht⟩ := Option.isSome_iff_exists.mp hbound
        unfold Program.pieceText
        dsimp only
        rw [ht]
        exact .pure t
    unfold Program.joinPieces
    refine .bind hpiece fun t => .bind (ih fun i hi => h i ?_) fun rest => .pure _
    cases piece <;> simp_all [Piece.target?]

end Faultless

/-- A program that binds what it reads fails by itself only in the check of its context. -/
theorem Program.WellBound.run_lifted [LawfulMonad m] {p : Program} {slots : List Slot}
    (h : p.WellBound slots) (host : Host m) {items : List (Bound m)}
    (hitems : items.map Bound.slot = slots) (context : Value) :
    ∃ r : m Text, p.run host.lifted (items.map Bound.lifted) context =
      (do host.lifted.requireStructured context; ExceptT.lift r) := by
  have hlength : items.length = slots.length := by
    rw [← hitems, List.length_map]
  have hget : ∀ a ∈ p.assignments, ("get" : Text) ∈ a.expression.names → p.bindsGetter :=
    fun a ha hname => h.getter.mpr ⟨a, ha, hname⟩
  have hpositions : ∀ a ∈ p.assignments, ∀ i ∈ a.expression.positions, i < items.length :=
    fun a ha i hi => hlength ▸ (h.positions a ha i hi).2
  have hbody : ∀ after : Locals, after.map Prod.fst =
      ([] : Locals).map Prod.fst ++ p.assignments.map Assignment.target →
        Faultless (joinPieces after p.body : ExceptT Fault m Text) := by
    intro after hafter
    refine .joinPieces fun i hi => ?_
    rw [hafter, ← h.fields]
    exact hi
  obtain ⟨r, hr⟩ := Faultless.assign host context hget hpositions hbody
  refine ⟨r, ?_⟩
  unfold Program.run
  rw [hr]

end Faultless

/-! ## Emitted programs -/

namespace Program

theorem Scoped.append {own : List Text} {xs ys : List Statement} {bound : List Text}
    (hx : Scoped own bound xs) (hy : Scoped own (bound ++ xs.flatMap Statement.binds) ys) :
    Scoped own bound (xs ++ ys) := by
  induction xs generalizing bound with
  | nil => simpa using hy
  | cons x xs ih => exact ⟨hx.1, ih hx.2 (by simpa using hy)⟩

/-- What is bound stays bound. -/
theorem Scoped.of_forall {own bound : List Text} {xs : List Statement}
    (h : ∀ x ∈ xs, ∀ name ∈ x.reads, name ∈ bound ∨ name ∉ own ∧ name ∈ globals) :
    Scoped own bound xs := by
  induction xs generalizing bound with
  | nil => trivial
  | cons x xs ih =>
    refine ⟨h x List.mem_cons_self, ih fun y hy name hname => ?_⟩
    rcases h y (List.mem_cons_of_mem x hy) name hname with hbound | hglobal
    · exact .inl (List.mem_append_left _ hbound)
    · exact .inr hglobal

/-- No local has a name that means anything else in a program. -/
theorem localName_apart (target : Nat) :
    localName target ∉ ("get" : Text) :: parameter :: globals := by
  have hheads : ∀ name ∈ ("get" : Text) :: parameter :: globals,
      name.head? ≠ some (CodePoint.ofChar 's') := by
    decide
  exact fun hmem => hheads _ hmem rfl

theorem fields_tokens (body : List Piece) :
    FormatString.fields (body.flatMap FormatString.tokens) =
      (body.filterMap Piece.target?).map localName := by
  induction body with
  | nil => rfl
  | cons piece body ih =>
    have happ : ∀ ts us, FormatString.fields (ts ++ us) =
        FormatString.fields ts ++ FormatString.fields us := fun _ _ => List.filterMap_append
    rw [List.flatMap_cons, happ, ih]
    cases piece with
    | fixed t => rw [FormatString.tokens, FormatString.fields_fixed]; rfl
    | field target => rfl

private theorem target_assignmentsFrom (index : Nat) (fragments : List Text) (slots : List Slot) :
    (assignmentsFrom index fragments slots).map Assignment.target =
      FormatString.presentFrom index (slots.take fragments.length) := by
  rw [assignmentsFrom_eq, FormatString.presentFrom]
  generalize (slots.take fragments.length).zipIdx index = ps
  induction ps with
  | nil => rfl
  | cons p ps ih =>
    obtain ⟨slot, i⟩ := p
    cases he : slot.expression? i with
    | none =>
      have hs : slot.kind = .absent := by rw [expression?_eq_none.mp he]; rfl
      simpa [he, hs] using ih
    | some e =>
      have hs : slot.kind ≠ .absent := by
        rintro hs
        cases slot <;> cases hs
        cases he
      simpa [he, hs] using ih

private theorem nodup_presentFrom (index : Nat) (slots : List Slot) :
    (FormatString.presentFrom index slots).Nodup := by
  have hindices : ((slots.zipIdx index).map Prod.snd).Nodup := by
    rw [List.zipIdx_map_snd]
    exact List.nodup_range'
  exact hindices.sublist (List.filter_sublist.map Prod.snd)

section OfSlots

variable {fragments : List Text} {slots : List Slot}

theorem mem_assignments_ofSlots (h : slots.length ≤ fragments.length) (a : Assignment) :
    a ∈ (ofSlots fragments slots).assignments ↔
      ∃ slot, slots[a.target]? = some slot ∧ slot.expression? a.target = some a.expression := by
  have hassignments : (ofSlots fragments slots).assignments = slots.zipIdx.filterMap fun p =>
      (p.1.expression? p.2).map (Assignment.mk p.2) := by
    rw [ofSlots, assignmentsFrom_eq, List.take_of_length_le h]
  rw [hassignments, List.mem_filterMap]
  constructor
  · rintro ⟨⟨slot, i⟩, hmem, ha⟩
    obtain ⟨e, he, rfl⟩ := Option.map_eq_some_iff.mp ha
    exact ⟨slot, List.mem_zipIdx_iff_getElem?.mp hmem, he⟩
  · rintro ⟨slot, hslot, he⟩
    exact ⟨(slot, a.target), List.mem_zipIdx_iff_getElem?.mpr hslot, by simp [he]⟩

theorem fields_ofSlots : (ofSlots fragments slots).body.filterMap Piece.target? =
    (ofSlots fragments slots).assignments.map Assignment.target := by
  have hnames : ((ofSlots fragments slots).body.filterMap Piece.target?).map localName =
      ((ofSlots fragments slots).assignments.map Assignment.target).map localName := by
    rw [← fields_tokens, ofSlots, FormatString.fields_bodyFrom, target_assignmentsFrom]
  exact localName_injective.list_map hnames

theorem positions_of_expression? {slot : Slot} {index i : Nat} {e : Expression}
    (h : slot.expression? index = some e) (hi : i ∈ e.positions) : i = index := by
  cases slot with
  | absent => cases h
  | key k =>
    cases h
    cases hk : k.inline? with
    | none =>
      rw [hk] at hi
      exact List.mem_singleton.mp hi
    | some inline =>
      rw [hk] at hi
      cases hi
  | literal v => cases h; exact List.mem_singleton.mp hi
  | callable c => cases h; exact List.mem_singleton.mp hi

theorem get_mem_names {slot : Slot} {index : Nat} {e : Expression}
    (h : slot.expression? index = some e) : ("get" : Text) ∈ e.names ↔ slot.isKey := by
  cases slot with
  | absent => cases h
  | key k =>
    cases h
    have hnames : ∀ a : Argument, ("get" : Text) ∈ (Expression.get a).names := by
      intro a
      cases a <;> exact List.mem_cons_self
    exact iff_of_true (hnames _) rfl
  | literal v =>
    cases h
    have hnames : ("get" : Text) ∉ (["items"] : List Text) := by decide
    exact iff_of_false hnames Bool.false_ne_true
  | callable c =>
    cases h
    have hnames : ("get" : Text) ∉ (["items", "context"] : List Text) := by decide
    exact iff_of_false hnames Bool.false_ne_true

theorem getter_ofSlots (h : slots.length ≤ fragments.length) :
    (ofSlots fragments slots).bindsGetter ↔
      ∃ a ∈ (ofSlots fragments slots).assignments, ("get" : Text) ∈ a.expression.names := by
  change slots.any Slot.isKey ↔ _
  rw [List.any_eq_true]
  constructor
  · rintro ⟨slot, hmem, hkey⟩
    obtain ⟨i, hi⟩ := List.mem_iff_getElem?.mp hmem
    have hpresent : slot.expression? i ≠ none := by
      intro he
      rw [expression?_eq_none.mp he] at hkey
      cases hkey
    obtain ⟨e, he⟩ := Option.ne_none_iff_exists'.mp hpresent
    exact ⟨⟨i, e⟩, (mem_assignments_ofSlots h _).mpr ⟨slot, hi, he⟩, (get_mem_names he).mpr hkey⟩
  · rintro ⟨a, ha, hname⟩
    obtain ⟨slot, hslot, he⟩ := (mem_assignments_ofSlots h a).mp ha
    exact ⟨slot, List.mem_of_getElem? hslot, (get_mem_names he).mp hname⟩

private theorem names_cases {e : Expression} {name : Text} (h : name ∈ e.names) :
    name = "get" ∨ name = "items" ∨ name = parameter := by
  rcases e with (_ | _) | _ | _ <;> simp [Expression.names, parameter] at h ⊢ <;> tauto

private theorem binds_opening (p : Program) :
    p.opening.flatMap Statement.binds = if p.bindsGetter then ["get"] else [] := by
  unfold opening
  cases p.bindsGetter <;> rfl

private theorem binds_assign (assignments : List Assignment) :
    (assignments.map Statement.assign).flatMap Statement.binds =
      assignments.map fun a => localName a.target := by
  rw [List.flatMap_map]
  exact List.map_eq_flatMap.symm

/-- Nothing that a program binds hides what it finds around it. -/
private theorem not_bound_of_mem_globals (p : Program) {name : Text} (h : name ∈ globals) :
    name ∉ parameter :: p.statements.flatMap Statement.binds := by
  have hapart : parameter ∉ globals ∧ ("get" : Text) ∉ globals := by decide
  unfold statements
  rw [List.flatMap_append, List.flatMap_append, binds_opening, binds_assign]
  intro hmem
  simp only [List.mem_cons, List.mem_append, List.mem_map, List.flatMap_singleton,
    Statement.binds, List.not_mem_nil, or_false] at hmem
  rcases hmem with rfl | hget | ⟨a, -, rfl⟩
  · exact hapart.1 h
  · split at hget
    · rw [List.mem_singleton.mp hget] at h
      exact hapart.2 h
    · cases hget
  · exact localName_apart a.target (List.mem_cons_of_mem _ (List.mem_cons_of_mem _ h))

theorem closed_ofSlots (h : slots.length ≤ fragments.length) :
    (ofSlots fragments slots).Closed := by
  have hgetter := getter_ofSlots h
  have hfields : (ofSlots fragments slots).body.filterMap Piece.target? =
      (ofSlots fragments slots).assignments.map Assignment.target := fields_ofSlots
  generalize ofSlots fragments slots = p at hgetter hfields
  let own := parameter :: p.statements.flatMap Statement.binds
  have hglobal : ∀ name ∈ globals, name ∉ own ∧ name ∈ globals := fun name hname =>
    ⟨not_bound_of_mem_globals p hname, hname⟩
  have hopening : Scoped own [parameter] p.opening := by
    refine .of_forall fun statement hstatement name hname => ?_
    have hreads : name = parameter ∨ name ∈ globals := by
      unfold opening at hstatement
      rcases List.mem_cons.mp hstatement with rfl | hstatement
      · simp only [Statement.reads, List.mem_cons, List.not_mem_nil, or_false] at hname
        rcases hname with rfl | rfl | rfl <;> decide
      · split at hstatement
        · rw [List.mem_singleton.mp hstatement] at hname
          simp only [Statement.reads, List.mem_cons, List.not_mem_nil, or_false] at hname
          rcases hname with rfl | rfl <;> decide
        · cases hstatement
    rcases hreads with rfl | hreads
    · exact .inl List.mem_cons_self
    · exact .inr (hglobal name hreads)
  have hassign : Scoped own ([parameter] ++ p.opening.flatMap Statement.binds)
      (p.assignments.map Statement.assign) := by
    rw [binds_opening]
    refine .of_forall fun statement hstatement name hname => ?_
    obtain ⟨a, ha, rfl⟩ := List.mem_map.mp hstatement
    rcases List.mem_cons.mp hname with rfl | hname
    · exact .inr (hglobal _ (by decide))
    · rcases names_cases hname with rfl | rfl | rfl
      · rw [if_pos (hgetter.mpr ⟨a, ha, hname⟩)]
        exact .inl (List.mem_cons_of_mem _ List.mem_cons_self)
      · exact .inr (hglobal _ (by decide))
      · exact .inl List.mem_cons_self
  have hanswer : Scoped own ([parameter] ++
      (p.opening ++ p.assignments.map Statement.assign).flatMap Statement.binds)
        [.answer p.body] := by
    refine .of_forall fun statement hstatement name hname => .inl ?_
    rw [List.mem_singleton.mp hstatement, Statement.reads, hfields, List.map_map] at hname
    rw [List.flatMap_append, binds_assign]
    exact List.mem_append_right _ (List.mem_append_right _ hname)
  exact (hopening.append hassign).append hanswer

theorem wellBound_ofSlots (h : slots.length ≤ fragments.length) :
    (ofSlots fragments slots).WellBound slots where
  closed := closed_ofSlots h
  fields := fields_ofSlots
  distinct := by
    have hnodup := nodup_presentFrom 0 (slots.take fragments.length)
    rw [← target_assignmentsFrom] at hnodup
    have hnames := List.Nodup.map localName_injective hnodup
    rwa [List.map_map] at hnames
  apart a _ := localName_apart a.target
  getter := getter_ofSlots h
  assigned := mem_assignments_ofSlots h
  positions a ha i hi := by
    obtain ⟨slot, hslot, he⟩ := (mem_assignments_ofSlots h a).mp ha
    have htarget := positions_of_expression? he hi
    obtain ⟨hlength, -⟩ := List.getElem?_eq_some_iff.mp hslot
    exact ⟨htarget, htarget ▸ hlength⟩

end OfSlots
end Program

@[simp] theorem map_value_bindAll (nested : NestedCall) (slots : List Slot) :
    (bindAll nested slots).map Bound.value = slots.map Slot.value := by
  have hslots := congrArg (List.map Slot.value) (map_slot_bindAll nested slots)
  rw [List.map_map] at hslots
  exact hslots

/-- A render that fails has a value that is no context, or an item that fails. -/
theorem Layout.fault_of_call {fragments : Value} {items : Option Value} {s : Store} {l : Layout}
    (h : prepare fragments items s = .ok l) {id : Identity} {context : Value} {f : Fault}
    {t t' : Store} (run : (Callable.evaluator id .generated l.texts l.slots).call context t =
      (.error f, t')) :
    (¬ context.isStructured ∧ ∃ name, f = .invalidContext context name) ∨
      ∃ get i slot t₁ asked, context.ownGet? t = .ok get ∧ l.slots[i]? = some slot ∧
        Contributes get context i slot t₁ asked (.error f) t' := by
  by_cases hc : context.isStructured
  · obtain ⟨get, bound⟩ := context.total_ownGet? t
    obtain ⟨reached, requests, outcome, t₁, hevaluated, hobserved⟩ :=
      evaluated_observed get context 0 l.slots t
    have hrun := (observed h hc bound hobserved .generated id).run
    rw [run] at hrun
    obtain ⟨houtcome, rfl⟩ := Prod.mk.inj hrun
    cases hevaluated with
    | all contributed => cases houtcome
    | @upTo before after slot _ asked ts g t₂ t₃ split contributed raises =>
      cases houtcome
      rw [Nat.zero_add] at raises
      exact .inr ⟨get, before.length, slot, t₂, asked, bound, by simp [split], raises⟩
  · obtain ⟨name, hname⟩ := context.total_bareTypeName t
    have hrefused : (Callable.evaluator id .generated l.texts l.slots).call context t =
        (.error (.invalidContext context name), t) :=
      Refuses.evaluator id .generated l.texts l.slots _ context name t hc hname
    rw [run] at hrefused
    cases hrefused
    exact .inl ⟨hc, name, rfl⟩

open Program in
/--
The program of a compiled template binds every name, local and item that it reads before it reads
it: the fields of the line that it returns are its locals, each assigned once from the item of its
own number. So in no world does it fail by itself but for the check of its context: where a render
fails, the context is refused or an item fails.
-/
theorem emitted_program_bound {fragments : Value} {items : Option Value} {s : Store} {l : Layout}
    (h : Layout.prepare fragments items s = .ok l) :
    (ofSlots l.texts l.slots).source =
        (ofSlots l.texts l.slots).lines.flatMap (· ++ [newline]) ∧
      (∃ ts, FormatString.read? (bodySource (ofSlots l.texts l.slots).body ++ "'\n") =
          some (ts, ("\n" : Text)) ∧
        FormatString.fields ts =
          (ofSlots l.texts l.slots).assignments.map fun a => localName a.target) ∧
      (ofSlots l.texts l.slots).WellBound l.slots ∧
      (∀ nested : NestedCall, (bindAll nested l.slots).map Bound.value = l.slots.map Slot.value) ∧
      (∀ (m : Type → Type) [Monad m] [LawfulMonad m] (host : Host m) (call : Nat → Value → m Value)
        (context : Value), ∃ r : m Text,
          (ofSlots l.texts l.slots).run host.lifted ((bindWith call l.slots).map Bound.lifted)
              context =
            (do host.lifted.requireStructured context; ExceptT.lift r)) ∧
      ∀ id context t f t',
        (Callable.evaluator id .generated l.texts l.slots).call context t = (.error f, t') →
          (¬ context.isStructured ∧ ∃ name, f = .invalidContext context name) ∨
            ∃ get i slot t₁ asked, context.ownGet? t = .ok get ∧ l.slots[i]? = some slot ∧
              Contributes get context i slot t₁ asked (.error f) t' := by
  have hbound := wellBound_ofSlots (Layout.prepare_slots h).1
  refine ⟨source_eq_lines _, ?_, hbound, fun nested => map_value_bindAll nested l.slots, ?_, ?_⟩
  · refine ⟨_, FormatString.read?_bodySource _, ?_⟩
    rw [fields_tokens, hbound.fields, List.map_map]
    rfl
  · intro m _ _ host call context
    exact hbound.run_lifted host (map_slot_bindWith call l.slots) context
  · intro id context t f t' run
    exact Layout.fault_of_call h run

/-- A fragment; an item that raises an error for a name of its own; a context. -/
def namingStore : Store :=
  ⟨#[.list [.text "a", .text "b"], .list [.nothing, .callable (.routine 2)],
    .routine ⟨none, .raise .name "get"⟩ 0, .mapping .plain []], [], #[], 0, .generated, 100⟩

/-- The error is the item's, and not one of the program, which binds no such name. -/
theorem emitted_program_bound_naming : ∃ l : Layout,
    Layout.prepare (.object 0) (some (.object 1)) namingStore = .ok l ∧
      (Program.ofSlots l.texts l.slots).WellBound l.slots ∧
      ¬ (Program.ofSlots l.texts l.slots).bindsGetter ∧
      ∃ slot t₁ asked t', l.slots[1]? = some slot ∧
        Contributes none (.object 3) 1 slot t₁ asked (.error (.raised .name "get")) t' := by
  have hfragments : namingStore.IsList (.object 0)
      ([Fragment.plain "a", Fragment.plain "b"].map Fragment.value) := ⟨⟨0, rfl, rfl⟩, nofun⟩
  have hitems : namingStore.IsList (.object 1) [.nothing, .callable (.routine 2)] :=
    ⟨⟨1, rfl, rfl⟩, nofun⟩
  have hprepare := prepare_lists hfragments hitems
  obtain ⟨-, -, hbound, -, -, hfaults⟩ := emitted_program_bound hprepare
  refine ⟨_, hprepare, hbound, by decide, ?_⟩
  rcases hfaults 0 (.object 3) namingStore (.raised .name "get") _ rfl with
    ⟨hcontext, -⟩ | ⟨get, i, slot, t₁, asked, bound, hslot, hraises⟩
  · exact absurd rfl hcontext
  · cases bound
    match i with
    | 0 =>
      cases hslot
      cases hraises
    | 1 => exact ⟨slot, t₁, asked, _, hslot, hraises⟩

end Stencil
