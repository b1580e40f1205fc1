import Mathlib.Data.List.Forall2
import Stencil.Fold
import Stencil.Program.Run

/-!
Rendering as one sequence of contributions. The fold and the program of a template both ask for what
each item contributes, one after the other, and then put the fragments between the answers.
-/

namespace Stencil

def interleave : List Text → List Text → Text
  | [], _ => []
  | fragment :: fragments, ts => fragment ++ ts.headD [] ++ interleave fragments ts.tail

theorem Key.key_of_inline? {k : Key} {i : InlineKey} (h : k.inline? = some i) : i.key = k := by
  unfold Key.inline? at h
  split at h <;> simp_all [InlineKey.key]
  · subst h; rfl
  · obtain ⟨-, rfl⟩ := h; rfl
  · subst h; rfl

theorem Host.requireStructured_of_isStructured {m : Type → Type} [Monad m]
    [MonadExceptOf Fault m] (host : Host m) {context : Value} (h : context.isStructured) :
    host.requireStructured context = pure () := by
  unfold requireStructured
  rw [if_neg (not_not.mpr h)]

variable {m : Type → Type} [Monad m] [LawfulMonad m] (host : Host m) (context : Value)

def Fits (b : Bound m) (t : Text) : Prop :=
  b.slot = .absent → t = []

/-- What comes after the contributions may rely on their fitting the items. -/
private theorem mapM_contribution_congr {β : Type} (items : List (Bound m)) {k k' : List Text → m β}
    (h : ∀ ts, List.Forall₂ Fits items ts → k ts = k' ts) :
    (items.mapM (Fold.contribution host · context) >>= k) =
      items.mapM (Fold.contribution host · context) >>= k' := by
  induction items generalizing k k' with
  | nil => simpa using h [] .nil
  | cons b items ih =>
    simp only [List.mapM_cons, bind_assoc, pure_bind]
    by_cases hb : b.slot = .absent
    · have hc : Fold.contribution host b context = pure [] := by
        unfold Fold.contribution; rw [hb]
      rw [hc, pure_bind, pure_bind]
      exact ih fun ts hts => h _ (.cons (fun _ => rfl) hts)
    · refine bind_congr fun t => ih fun ts hts => ?_
      exact h _ (.cons (fun hn => absurd hn hb) hts)

namespace Fold

variable [MonadExceptOf Fault m]

private theorem foldlM_step (fragments : List Text) (items : List (Bound m)) (text : Text)
    (hl : items.length ≤ fragments.length) :
    (zipLongest fragments items).foldlM (step host context) text =
      (do let ts ← items.mapM (contribution host · context)
          pure (text ++ interleave fragments ts)) := by
  induction fragments generalizing items text with
  | nil =>
    have hi : items = [] := List.length_eq_zero_iff.mp (by simpa using hl)
    subst hi
    simp [zipLongest, interleave]
  | cons fragment fragments ih =>
    cases items with
    | nil =>
      have hi := ih [] (text ++ fragment) (by simp)
      simp only [List.mapM_nil, pure_bind] at hi
      simp [zipLongest, step, interleave, hi]
    | cons b items =>
      have hl' : items.length ≤ fragments.length := by simpa using hl
      simp [zipLongest, step, interleave, ih items _ hl', List.append_assoc]

theorem run_eq (fragments : List Text) (items : List (Bound m))
    (hl : items.length ≤ fragments.length) :
    run host fragments items context =
      (do host.requireStructured context
          let ts ← items.mapM (contribution host · context)
          pure (interleave fragments ts)) := by
  simp only [run, foldlM_step host context fragments items [] hl, List.nil_append]

end Fold

namespace Program

/-- The locals after the assignments for slots from a position on, given what each contributes. -/
def assigned (index : Nat) : List Slot → List Text → Locals
  | [], _ => []
  | slot :: slots, ts =>
    let rest := assigned (index + 1) slots ts.tail
    match slot.expression? index with
    | some _ => (index, ts.headD []) :: rest
    | none => rest

private theorem le_of_mem_assigned {index : Nat} {slots : List Slot} {ts : List Text}
    {p : Nat × Text} (h : p ∈ assigned index slots ts) : index ≤ p.1 := by
  induction slots generalizing index ts with
  | nil => simp [assigned] at h
  | cons slot slots ih =>
    have hrest : p ∈ assigned (index + 1) slots ts.tail → index ≤ p.1 :=
      fun hp => by have := ih hp; omega
    unfold assigned at h
    dsimp only at h
    split at h
    · rcases List.mem_cons.mp h with rfl | h
      · exact Nat.le_refl _
      · exact hrest h
    · exact hrest h

/-- Every local is found under its number. -/
private theorem lookup_assigned {index : Nat} {slots : List Slot} {ts : List Text} {p : Nat × Text}
    (h : p ∈ assigned index slots ts) : (assigned index slots ts).lookup p.1 = some p.2 := by
  induction slots generalizing index ts with
  | nil => simp [assigned] at h
  | cons slot slots ih =>
    unfold assigned at h ⊢
    dsimp only at h ⊢
    split at h
    · rcases List.mem_cons.mp h with rfl | h
      · exact List.lookup_cons_self
      · have hne : p.1 ≠ index := by have := le_of_mem_assigned h; omega
        rw [List.lookup_cons, beq_false_of_ne hne]
        exact ih h
    · exact ih h

variable [MonadExceptOf Fault m]

theorem evaluate_contribution {items : List (Bound m)} {index : Nat} {b : Bound m}
    (bindsGetter : Bool) {e : Expression} (hi : items[index]? = some b)
    (he : b.slot.expression? index = some e) (hg : b.slot.isKey → bindsGetter)
    (hn : b.slot ≠ .literal .nothing) :
    (evaluate host bindsGetter items context e >>= host.contribution) =
      Fold.contribution host b context := by
  have hb : boundItem items index = (pure b : m (Bound m)) := by
    unfold boundItem; rw [hi]
  unfold Fold.contribution
  cases hs : b.slot with
  | absent => simp [hs, Slot.expression?] at he
  | literal v =>
    simp only [hs, Slot.expression?, Option.some.injEq] at he
    subst he
    have hv : host.contribution v = host.text v := by
      cases v <;> simp_all [Host.contribution]
    simp [evaluate, hb, Bound.value, Slot.value, hs, hv]
  | callable c =>
    simp only [hs, Slot.expression?, Option.some.injEq] at he
    subst he
    simp [evaluate, hb]
  | key k =>
    have hget : bindsGetter = true := hg (by simp [hs, Slot.isKey])
    simp only [hs, Slot.expression?, Option.some.injEq] at he
    subst he
    cases hk : k.inline? with
    | none => simp [evaluate, argument, hget, hb, Bound.value, Slot.value, hs]
    | some i => simp [evaluate, argument, hget, Key.key_of_inline? hk]

theorem expression?_eq_none {slot : Slot} {index : Nat} :
    slot.expression? index = none ↔ slot = .absent := by
  cases slot <;> simp [Slot.expression?]

/-- The expressions of the slots that have a fragment before them, each for its own local. -/
theorem assignmentsFrom_eq (index : Nat) (fragments : List Text) (slots : List Slot) :
    assignmentsFrom index fragments slots =
      ((slots.take fragments.length).zipIdx index).filterMap fun p =>
        (p.1.expression? p.2).map (Assignment.mk p.2) := by
  induction fragments generalizing index slots with
  | nil => rfl
  | cons fragment fragments ih =>
    cases slots with
    | nil => rfl
    | cons slot slots =>
      simp only [assignmentsFrom, ih, List.length_cons, List.take_succ_cons, List.zipIdx_cons,
        List.filterMap_cons]
      cases slot.expression? index <;> rfl

/-- Each assignment adds what its item contributes; absent items have none. -/
theorem assign_assignmentsFrom {items : List (Bound m)} (pre post : List (Bound m))
    (fragments : List Text) (bindsGetter : Bool) (bindings : Locals) (hs : items = pre ++ post)
    (hl : post.length ≤ fragments.length)
    (hp : ∀ b ∈ post, (b.slot.isKey → bindsGetter) ∧ b.slot ≠ .literal .nothing) :
    assign host bindsGetter items context bindings
        (assignmentsFrom pre.length fragments (post.map Bound.slot)) =
      (do let ts ← post.mapM (Fold.contribution host · context)
          pure (bindings ++ assigned pre.length (post.map Bound.slot) ts)) := by
  induction post generalizing pre fragments bindings with
  | nil => cases fragments <;> simp [assignmentsFrom, assign, assigned]
  | cons b post ih =>
    have hpos : 0 < fragments.length := Nat.lt_of_lt_of_le (Nat.succ_pos _) hl
    obtain ⟨fragment, fragments, rfl⟩ := List.exists_cons_of_length_pos hpos
    have hl' : post.length ≤ fragments.length := by simpa using hl
    have hpost := fun b' hb' => hp b' (List.mem_cons_of_mem b hb')
    have hs' : items = (pre ++ [b]) ++ post := by simpa using hs
    have hi : items[pre.length]? = some b := by simp [hs]
    have hrest := fun bindings => ih (pre ++ [b]) fragments bindings hs' hl' hpost
    simp only [List.length_append, List.length_singleton] at hrest
    cases he : b.slot.expression? pre.length with
    | none =>
      have hb : b.slot = .absent := expression?_eq_none.mp he
      have hc : Fold.contribution host b context = pure [] := by
        unfold Fold.contribution; rw [hb]
      simp only [List.map_cons, assignmentsFrom, he, hrest, List.mapM_cons, hc, pure_bind,
        bind_assoc, assigned, List.tail_cons]
    | some e =>
      obtain ⟨hg, hn⟩ := hp b (by simp)
      have hev := evaluate_contribution host context bindsGetter hi he hg hn
      simp only [List.map_cons, assignmentsFrom, he, assign, List.mapM_cons, ← bind_assoc, hev]
      simp only [hrest, bind_assoc, pure_bind, assigned, he, List.headD_cons, List.tail_cons,
        List.append_assoc, List.singleton_append]

variable (m) in
/-- The pieces of a program, joined where its locals are bound, are the fragments with the
contributions between them. -/
theorem joinPieces_bodyFrom {index : Nat} (fragments : List Text) {slots : List Slot}
    {ts : List Text} (bindings : Locals)
    (hf : List.Forall₂ (fun slot t => slot = .absent → t = []) slots ts)
    (hb : ∀ p ∈ assigned index slots ts, bindings.lookup p.1 = some p.2) :
    joinPieces bindings (bodyFrom index fragments slots) =
      (pure (interleave fragments ts) : m Text) := by
  induction fragments generalizing index slots ts with
  | nil => simp [bodyFrom, joinPieces, interleave]
  | cons fragment fragments ih =>
    cases hf with
    | nil =>
      have hi : joinPieces bindings (bodyFrom (index + 1) fragments []) =
          (pure (interleave fragments []) : m Text) := ih .nil (by simp [assigned])
      simp [bodyFrom, joinPieces, pieceText, interleave, hi]
    | @cons slot t slots ts ht hf =>
      have hi : (∀ p ∈ assigned (index + 1) slots ts, bindings.lookup p.1 = some p.2) →
          joinPieces bindings (bodyFrom (index + 1) fragments slots) =
            (pure (interleave fragments ts) : m Text) := ih hf
      cases he : slot.expression? index with
      | none =>
        have hs : slot = .absent := expression?_eq_none.mp he
        subst hs
        have hi := hi hb
        simp [bodyFrom, he, joinPieces, pieceText, interleave, hi, ht rfl]
      | some e =>
        have hlocal : bindings.lookup index = some t := by
          simpa using hb (index, t) (by simp [assigned, he])
        have hi := hi fun p hp => hb p (by simp [assigned, he, hp])
        simp [bodyFrom, he, joinPieces, pieceText, interleave, hi, hlocal]

/-- No literal holds nothing here: the fold would show it, and a program adds no text for it. -/
theorem run_eq (fragments : List Text) (items : List (Bound m))
    (hl : items.length ≤ fragments.length) (hn : ∀ b ∈ items, b.slot ≠ .literal .nothing) :
    (ofSlots fragments (items.map Bound.slot)).run host items context =
      (do host.requireStructured context
          let ts ← items.mapM (Fold.contribution host · context)
          pure (interleave fragments ts)) := by
  have hp : ∀ b ∈ items, (b.slot.isKey → (items.map Bound.slot).any Slot.isKey) ∧
      b.slot ≠ .literal .nothing := fun b hb =>
    ⟨fun hk => List.any_eq_true.mpr ⟨b.slot, List.mem_map_of_mem hb, hk⟩, hn b hb⟩
  have ha := assign_assignmentsFrom host context [] items fragments
    ((items.map Bound.slot).any Slot.isKey) [] rfl hl hp
  simp only [List.length_nil, List.nil_append] at ha
  simp only [run, ofSlots, ha, bind_assoc, pure_bind]
  refine bind_congr fun _ => mapM_contribution_congr host context items fun ts hts => ?_
  exact joinPieces_bodyFrom m fragments _ (List.forall₂_map_left_iff.mpr hts)
    fun _ => lookup_assigned

end Program

/-- Both ways of rendering ask every world for the same, in the same order. -/
theorem Program.run_eq_fold_run [MonadExceptOf Fault m] (fragments : List Text)
    (items : List (Bound m)) (hl : items.length ≤ fragments.length)
    (hn : ∀ b ∈ items, b.slot ≠ .literal .nothing) :
    (ofSlots fragments (items.map Bound.slot)).run host items context =
      Fold.run host fragments items context := by
  rw [run_eq host context fragments items hl hn, Fold.run_eq host context fragments items hl]

end Stencil
