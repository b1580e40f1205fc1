import Stencil.Program.Source
import Stencil.Proofs.Flow

/-!
Templates that differ only in where their text is divided and in which places are empty. What a
template renders is decided by the runs of its text and the items between them.
-/

namespace Stencil

inductive Segment
  | text (t : Text)
  | item (v : Value)

namespace Segment

/-- A text in front of segments. It runs into a text there, and leaves no segment if it is empty. -/
def push : Text → List Segment → List Segment
  | [], segments => segments
  | c :: t, .text u :: segments => .text (c :: t ++ u) :: segments
  | c :: t, segments => .text (c :: t) :: segments

def ofItem : Value → List Segment
  | .nothing => []
  | v => [.item v]

private theorem push_append (t u : Text) (segments : List Segment) :
    push (t ++ u) segments = push t (push u segments) := by
  cases t with
  | nil => rfl
  | cons c t =>
    cases u with
    | nil => rw [List.append_nil]; rfl
    | cons d u =>
      cases segments with
      | nil => rfl
      | cons segment segments => cases segment <;> simp [push]

/-- Texts that are not empty and items that are not nothing, no text next to another one. -/
inductive Separate : List Segment → Prop
  | nil : Separate []
  | text {t : Text} {segments : List Segment} (ht : t ≠ [])
      (apart : ∀ u rest, segments ≠ .text u :: rest) (rest : Separate segments) :
      Separate (.text t :: segments)
  | item {v : Value} {segments : List Segment} (hv : v ≠ .nothing) (rest : Separate segments) :
      Separate (.item v :: segments)

theorem Separate.push {segments : List Segment} (h : Separate segments) (t : Text) :
    Separate (push t segments) := by
  cases t with
  | nil => exact h
  | cons c t =>
    have hne : c :: t ≠ [] := List.cons_ne_nil c t
    cases h with
    | nil => exact .text hne nofun .nil
    | text ht apart rest => exact .text (by simp) apart rest
    | item hv rest => exact .text hne nofun (.item hv rest)

theorem Separate.ofItem {segments : List Segment} (h : Separate segments) (v : Value) :
    Separate (ofItem v ++ segments) := by
  cases v with
  | nothing => exact h
  | _ => exact .item nofun h

variable {m : Type → Type} [Monad m] [LawfulMonad m] (shown : Value → m Text)

def emit : List Segment → m Text
  | [] => return []
  | .text t :: segments => return t ++ (← emit segments)
  | .item v :: segments => return (← shown v) ++ (← emit segments)

private theorem emit_push (t : Text) (segments : List Segment) :
    emit shown (push t segments) = (do return t ++ (← emit shown segments)) := by
  cases t with
  | nil => simp [push]
  | cons c t =>
    cases segments with
    | nil => rfl
    | cons segment segments => cases segment <;> simp [push, emit]

private theorem emit_ofItem (hn : shown .nothing = pure []) (v : Value) (segments : List Segment) :
    emit shown (ofItem v ++ segments) = (do return (← shown v) ++ (← emit shown segments)) := by
  cases v with
  | nothing => simp [ofItem, hn]
  | _ => rfl

end Segment

open Segment in
def segments : List Fragment → List Value → List Segment
  | [], _ => []
  | f :: fs, [] => push f.text (segments fs [])
  | f :: fs, v :: vs => push f.text (ofItem v ++ segments fs vs)

def joinAt : Nat → List Fragment → List Fragment
  | 0, f :: g :: fs => .plain (f.text ++ g.text) :: fs
  | i + 1, f :: fs => f :: joinAt i fs
  | _, fs => fs

theorem separate_segments (fs : List Fragment) (vs : List Value) :
    Segment.Separate (segments fs vs) := by
  induction fs generalizing vs with
  | nil => exact .nil
  | cons f fs ih =>
    cases vs with
    | nil => exact (ih []).push f.text
    | cons v vs => exact ((ih vs).ofItem v).push f.text

@[simp] theorem segments_take (fs : List Fragment) (vs : List Value) :
    segments fs (vs.take fs.length) = segments fs vs := by
  induction fs generalizing vs with
  | nil => rfl
  | cons f fs ih =>
    cases vs with
    | nil => rfl
    | cons v vs => simp [segments, ih]

@[simp] theorem segments_append_nothing (fs : List Fragment) (vs : List Value) (n : Nat) :
    segments fs (vs ++ List.replicate n .nothing) = segments fs vs := by
  induction fs generalizing vs n with
  | nil => rfl
  | cons f fs ih =>
    cases vs with
    | cons v vs => simp [segments, ih]
    | nil =>
      cases n with
      | zero => rfl
      | succ n =>
        have hrest := ih [] n
        simp only [List.nil_append] at hrest
        simp [List.replicate_succ, segments, Segment.ofItem, hrest]

/-- An empty place may be closed: the texts before it and behind it make one run. -/
theorem segments_joinAt {i : Nat} {fs : List Fragment} {vs : List Value} (hi : i + 1 < fs.length)
    (hv : vs.getD i .nothing = .nothing) :
    segments (joinAt i fs) (vs.eraseIdx i) = segments fs vs := by
  induction i generalizing fs vs with
  | zero =>
    obtain ⟨f, g, fs, rfl⟩ : ∃ f g rest, fs = f :: g :: rest := by
      match fs with
      | [] | [_] => simp at hi
      | f :: g :: rest => exact ⟨f, g, rest, rfl⟩
    cases vs with
    | nil => simp [joinAt, segments, Fragment.text, Segment.push_append]
    | cons v vs =>
      have hnothing : v = .nothing := by simpa using hv
      subst hnothing
      cases vs <;> simp [joinAt, segments, Fragment.text, Segment.push_append, Segment.ofItem]
  | succ i ih =>
    cases fs with
    | nil => simp at hi
    | cons f fs =>
      have hi' : i + 1 < fs.length := by simpa using hi
      cases vs with
      | nil =>
        have hrest := @ih fs [] hi' (by simp)
        simp only [List.eraseIdx_nil] at hrest
        simp [joinAt, segments, hrest]
      | cons v vs =>
        have hv' : vs.getD i .nothing = .nothing := by simpa using hv
        simp [joinAt, segments, ih hi' hv']

/-- What the items contribute, with the fragments put between, is what the segments emit. -/
theorem interleave_eq_emit {m : Type → Type} [Monad m] [LawfulMonad m] {shown : Value → m Text}
    (hn : shown .nothing = pure []) {fs : List Fragment} {vs : List Value}
    (h : vs.length ≤ fs.length) :
    (do return interleave (fs.map Fragment.text) (← vs.mapM shown)) =
      Segment.emit shown (segments fs vs) := by
  induction fs generalizing vs with
  | nil =>
    have hv : vs = [] := List.length_eq_zero_iff.mp (Nat.le_zero.mp h)
    subst hv
    simp [interleave, segments, Segment.emit]
  | cons f fs ih =>
    cases vs with
    | nil =>
      have hrest := @ih [] (Nat.zero_le fs.length)
      simp only [List.mapM_nil, pure_bind] at hrest
      simp [interleave, segments, Segment.emit_push, ← hrest]
    | cons v vs =>
      have hrest := ih (Nat.le_of_succ_le_succ h)
      simp only [List.mapM_cons, segments, Segment.emit_push, Segment.emit_ofItem shown hn, ← hrest]
      simp [interleave]

namespace Program

/-- An empty place behind the last item is in no statement of a program. -/
theorem assignmentsFrom_append_absent (index : Nat) (fragments : List Text) (slots : List Slot)
    (n : Nat) : assignmentsFrom index fragments (slots ++ List.replicate n Slot.absent) =
      assignmentsFrom index fragments slots := by
  induction fragments generalizing index slots n with
  | nil => rfl
  | cons fragment fragments ih =>
    cases slots with
    | cons slot slots => simp only [List.cons_append, assignmentsFrom, ih]
    | nil =>
      cases n with
      | zero => rfl
      | succ n =>
        have hrest := ih (index + 1) [] n
        simpa [List.replicate_succ, assignmentsFrom, Slot.expression?] using hrest

theorem bodyFrom_append_absent (index : Nat) (fragments : List Text) (slots : List Slot) (n : Nat) :
    bodyFrom index fragments (slots ++ List.replicate n Slot.absent) =
      bodyFrom index fragments slots := by
  induction fragments generalizing index slots n with
  | nil => rfl
  | cons fragment fragments ih =>
    cases slots with
    | cons slot slots => simp only [List.cons_append, bodyFrom, ih]
    | nil =>
      cases n with
      | zero => rfl
      | succ n =>
        have hrest := ih (index + 1) [] n
        simpa [List.replicate_succ, bodyFrom, Slot.expression?] using hrest

theorem ofSlots_append_absent (fragments : List Text) (slots : List Slot) (n : Nat) :
    ofSlots fragments (slots ++ List.replicate n Slot.absent) = ofSlots fragments slots := by
  have hgetter : (slots ++ List.replicate n Slot.absent).any Slot.isKey = slots.any Slot.isKey := by
    simp [List.any_append, List.any_replicate, Slot.isKey]
  unfold ofSlots
  rw [hgetter, assignmentsFrom_append_absent, bodyFrom_append_absent]

end Program

/-! ## Layouts -/

/-- Rendering a layout in a world, where the items of its slots are called in a given way. -/
def Layout.runIn {m : Type → Type} [Monad m] [MonadExceptOf Fault m] (l : Layout)
    (strategy : Strategy) (host : Host m) (call : Slot → Value → m Value) (context : Value) :
    m Text :=
  let items := l.slots.map fun slot => ⟨slot, call slot⟩
  match strategy with
  | .generated => (Program.ofSlots l.texts l.slots).run host items context
  | .interpreted => Fold.run host l.texts items context

/-- A call renders in the world of the store, where it has bound the `get` of the context. -/
theorem Layout.callWith_eq_runIn (l : Layout) (strategy : Strategy) (id : Identity)
    (nested : NestedCall) (context : Value) :
    (Callable.evaluator id strategy l.texts l.slots).callWith nested context =
      (do let get ← context.ownGet?
          let t ← l.runIn strategy (.store nested get) (fun slot => (slot.bind nested).call) context
          pure (Value.text t)) := by
  have hbind : Slot.bind nested = fun slot => ⟨slot, (slot.bind nested).call⟩ := by
    funext slot
    cases slot <;> rfl
  unfold Callable.callWith runIn
  rw [bindAll_eq_map, hbind]
  cases strategy <;> rfl

namespace Flat

/-- The layout that a template is compiled to. -/
def layout (t : Flat) : Layout :=
  ⟨t.fragments, (t.items.take t.fragments.length).map Value.classify⟩

def source (t : Flat) : Text :=
  (Program.ofSlots t.layout.texts t.layout.slots).source

def segments (t : Flat) : List Segment :=
  Stencil.segments t.fragments t.items

/-- In every world, each strategy checks the context and then emits the segments. -/
theorem runIn_layout {m : Type → Type} [Monad m] [LawfulMonad m] [MonadExceptOf Fault m]
    (t : Flat) (strategy : Strategy) (host : Host m) (call : Slot → Value → m Value)
    (context : Value) :
    t.layout.runIn strategy host call context =
      (do host.requireStructured context
          Segment.emit (fun v => Fold.contribution host ⟨v.classify, call v.classify⟩ context)
            t.segments) := by
  let shown := fun v : Value => Fold.contribution host ⟨v.classify, call v.classify⟩ context
  let items : List (Bound m) :=
    (t.items.take t.fragments.length).map fun v => ⟨v.classify, call v.classify⟩
  have hbound : (t.layout.slots.map fun slot => ⟨slot, call slot⟩) = items :=
    List.map_map
  have hslots : items.map Bound.slot = t.layout.slots := List.map_map
  have hlength : (t.items.take t.fragments.length).length ≤ t.fragments.length :=
    List.length_take_le _ _
  have hitems : items.length ≤ t.layout.texts.length := by
    simp only [items, layout, Layout.texts, List.length_map]
    exact hlength
  have hnothing : ∀ b ∈ items, b.slot ≠ .literal .nothing := by
    intro b hb
    obtain ⟨v, -, rfl⟩ := List.mem_map.mp hb
    exact v.classify_ne
  have hrun : t.layout.runIn strategy host call context =
      (do host.requireStructured context
          let ts ← items.mapM (Fold.contribution host · context)
          pure (interleave t.layout.texts ts)) := by
    unfold Layout.runIn
    rw [hbound]
    cases strategy with
    | generated =>
      dsimp only
      rw [← hslots]
      exact Program.run_eq host context t.layout.texts items hitems hnothing
    | interpreted => exact Fold.run_eq host context t.layout.texts items hitems
  have hemit : (do let ts ← items.mapM (Fold.contribution host · context)
                   pure (interleave t.layout.texts ts)) = Segment.emit shown t.segments := by
    rw [List.mapM_map, segments, ← segments_take]
    have hshown : shown .nothing = pure [] := rfl
    exact interleave_eq_emit hshown hlength
  rw [hrun, hemit]

/-- The template with empty places behind its items, and more items behind those. -/
def followedBy (t : Flat) (n : Nat) (extra : List Value) : Flat :=
  ⟨t.fragments, t.items ++ List.replicate n .nothing ++ extra⟩

def joinAt (t : Flat) (i : Nat) : Flat :=
  ⟨Stencil.joinAt i t.fragments, t.items.eraseIdx i⟩

/-- Of the items that follow, those that are not nothing have no fragment before them. -/
private theorem take_followedBy {t : Flat} {n : Nat} {extra : List Value}
    (h : t.fragments.length ≤ t.items.length + n ∨ extra = []) :
    ∃ k, (t.followedBy n extra).items.take t.fragments.length =
      t.items.take t.fragments.length ++ List.replicate k .nothing := by
  refine ⟨min (t.fragments.length - t.items.length) n, ?_⟩
  have hcut : (t.followedBy n extra).items.take t.fragments.length =
      (t.items ++ List.replicate n Value.nothing).take t.fragments.length := by
    rcases h with hlength | rfl
    · apply List.take_append_of_le_length
      simpa using hlength
    · simp [followedBy]
  rw [hcut, List.take_append, List.take_replicate]

private theorem layout_followedBy {t : Flat} {n : Nat} {extra : List Value}
    (h : t.fragments.length ≤ t.items.length + n ∨ extra = []) :
    ∃ k, (t.followedBy n extra).layout =
      ⟨t.fragments, t.layout.slots ++ List.replicate k .absent⟩ := by
  obtain ⟨k, hk⟩ := take_followedBy h
  refine ⟨k, ?_⟩
  have hslots := congrArg (List.map Value.classify) hk
  simp only [List.map_append, List.map_replicate] at hslots
  exact congrArg (Layout.mk t.fragments) hslots

theorem source_followedBy {t : Flat} {n : Nat} {extra : List Value}
    (h : t.fragments.length ≤ t.items.length + n ∨ extra = []) :
    (t.followedBy n extra).source = t.source := by
  obtain ⟨k, hk⟩ := layout_followedBy h
  unfold source
  rw [hk]
  exact congrArg Program.source (Program.ofSlots_append_absent _ _ k)

theorem segments_followedBy {t : Flat} {n : Nat} {extra : List Value}
    (h : t.fragments.length ≤ t.items.length + n ∨ extra = []) :
    (t.followedBy n extra).segments = t.segments := by
  obtain ⟨k, hk⟩ := take_followedBy h
  calc (t.followedBy n extra).segments
      = Stencil.segments t.fragments
          ((t.followedBy n extra).items.take t.fragments.length) := (segments_take _ _).symm
    _ = Stencil.segments t.fragments (t.items.take t.fragments.length) := by
        rw [hk, segments_append_nothing]
    _ = t.segments := segments_take _ _

/-- The evaluator that a strategy compiles a template to. -/
def evaluator (t : Flat) (strategy : Strategy) (id : Identity) : Callable :=
  .evaluator id strategy t.layout.texts t.layout.slots

/--
Nothing tells the evaluators of two templates apart: no call on any context in any store, and in no
world what they ask for and which items they call, in which order.
-/
def Indistinct (t u : Flat) : Prop :=
  ∀ strategy strategy' : Strategy,
    (∀ id id' context,
      (t.evaluator strategy id).call context = (u.evaluator strategy' id').call context) ∧
    ∀ (m : Type → Type) [Monad m] [LawfulMonad m] [MonadExceptOf Fault m] (host : Host m)
      (call : Slot → Value → m Value) (context : Value),
      t.layout.runIn strategy host call context = u.layout.runIn strategy' host call context

theorem indistinct_of_segments {t u : Flat} (h : t.segments = u.segments) : t.Indistinct u := by
  intro strategy strategy'
  have hrun : ∀ (m : Type → Type) [Monad m] [LawfulMonad m] [MonadExceptOf Fault m]
      (host : Host m) (call : Slot → Value → m Value) (context : Value),
      t.layout.runIn strategy host call context = u.layout.runIn strategy' host call context := by
    intro m _ _ _ host call context
    rw [runIn_layout, runIn_layout, h]
  refine ⟨fun id id' context => ?_, hrun⟩
  unfold Callable.call evaluator
  rw [Layout.callWith_eq_runIn, Layout.callWith_eq_runIn]
  exact bind_congr fun get => by rw [hrun]

/-- The values that a template is compiled from: its fragments in something that is no single
string, and its items, or none. -/
structure GivenBy (t : Flat) (fragments : Value) (items : Option Value) (s : Store) : Prop where
  separate : ¬ fragments.isString
  fragmentsHeld : fragments.members s = .ok (t.fragments.map Fragment.value)
  itemsHeld : ∀ v, items = some v → v.members s = .ok t.items
  withoutItems : items = none → t.items = []

theorem GivenBy.prepare {t : Flat} {fragments : Value} {items : Option Value} {s : Store}
    (h : t.GivenBy fragments items s) : Layout.prepare fragments items s = .ok t.layout := by
  refine Layout.prepare_members h.separate h.fragmentsHeld ?_
  cases items with
  | none =>
    rw [h.withoutItems rfl, List.take_nil]
    rfl
  | some v => exact Value.firstMembers_of_members (h.itemsHeld v rfl) _

end Flat

/--
Fragments and items compile under each strategy. Empty places behind the last item, and any items
without a fragment before them, change neither the program nor what is rendered. An empty place
between two fragments may be closed. So the segments of a template decide all that it does: its
texts, as long as nothing stands between them, and its items that are not nothing.
-/
theorem segments_decide_rendering :
    (∀ (t : Flat) (fragments : Value) (items : Option Value) (s : Store),
      t.GivenBy fragments items s → ∀ strategy,
        Template.compileWith strategy fragments items s =
          (.ok (t.evaluator strategy s.nextIdentity),
            { s with nextIdentity := s.nextIdentity + 1 })) ∧
    (∀ (t : Flat) (n : Nat) (extra : List Value),
      t.fragments.length ≤ t.items.length + n ∨ extra = [] →
        (t.followedBy n extra).source = t.source ∧ (t.followedBy n extra).Indistinct t) ∧
    (∀ (t : Flat) (i : Nat), i + 1 < t.fragments.length → t.items.getD i .nothing = .nothing →
      (t.joinAt i).Indistinct t) ∧
    ∀ t : Flat, Segment.Separate t.segments ∧
      ∀ u : Flat, t.segments = u.segments → t.Indistinct u := by
  refine ⟨?_, ?_, ?_, ?_⟩
  · intro t fragments items s h strategy
    exact Template.compileWith_ok strategy h.prepare
  · intro t n extra h
    exact ⟨Flat.source_followedBy h, Flat.indistinct_of_segments (Flat.segments_followedBy h)⟩
  · intro t i hi hv
    exact Flat.indistinct_of_segments (segments_joinAt hi hv)
  · intro t
    exact ⟨separate_segments t.fragments t.items, fun u => Flat.indistinct_of_segments⟩

/-- A template with an empty place between its first two fragments. -/
def gapped : Flat :=
  ⟨[.plain "a", .plain "b", .plain "c"], [.nothing, .text "k"]⟩

def gappedStore : Store :=
  ⟨#[.list [.text "a", .text "b", .text "c"], .list [.nothing, .text "k"]], [], #[], 0,
    .generated, 100⟩

theorem segments_decide_rendering_gapped :
    gapped.GivenBy (.object 0) (some (.object 1)) gappedStore ∧
      Template.compileWith .interpreted (.object 0) (some (.object 1)) gappedStore =
        (.ok (gapped.evaluator .interpreted 0), { gappedStore with nextIdentity := 1 }) ∧
      (gapped.followedBy 1 [.text "x"]).source = gapped.source ∧
      (⟨[.plain "ab", .plain "c"], [.text "k"]⟩ : Flat).Indistinct gapped := by
  have hgiven : gapped.GivenBy (.object 0) (some (.object 1)) gappedStore := by
    refine ⟨Bool.false_ne_true, rfl, ?_, nofun⟩
    intro v hv
    cases hv
    rfl
  obtain ⟨hcompile, hfollowed, hjoined, -⟩ := segments_decide_rendering
  have hlength : gapped.fragments.length ≤ gapped.items.length + 1 ∨ [Value.text "x"] = [] :=
    .inl (by decide)
  have hnext : 0 + 1 < gapped.fragments.length := by decide
  exact ⟨hgiven, hcompile gapped _ _ gappedStore hgiven .interpreted,
    (hfollowed gapped 1 [.text "x"] hlength).1, hjoined gapped 0 hnext rfl⟩

end Stencil
