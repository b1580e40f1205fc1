import Stencil.Program.Statement
import Stencil.Proofs.Lists
import Stencil.Proofs.Quoting
import Stencil.Proofs.ReturnLine

/-!
The lines of the source of a program. Whatever the fragments and the keys of a template hold, its
source has one line for each statement, and on these lines stands nothing that is not printable.
-/

namespace Stencil

namespace Unicode

/-- The ends of lines by any convention: of source, of text files, of printed pages. -/
def endsLine (c : CodePoint) : Bool :=
  [0x0A, 0x0B, 0x0C, 0x0D, 0x1C, 0x1D, 0x1E, 0x85, 0x2028, 0x2029].contains c.val

private theorem isPrintable_of_ascii {c : CodePoint} (h : 0x20 ≤ c.val ∧ c.val ≤ 0x7E) :
    isPrintable c :=
  Ranges.contains_iff.mpr ⟨(0x20, 0x7E), by decide, h⟩

private theorem identifiers_within : identifierStartRanges.within printableRanges ∧
    identifierContinueRanges.within printableRanges := by
  decide +kernel

theorem isPrintable_of_mem_identifier {t : Text} (h : isIdentifier t) {c : CodePoint}
    (hc : c ∈ t) : isPrintable c := by
  rcases contains_of_mem_identifier h hc with hin | hin
  · exact Ranges.contains_of_within identifiers_within.1 hin
  · exact Ranges.contains_of_within identifiers_within.2 hin

/-- No end of a line, no surrogate and no null is printable. -/
theorem plain_of_isPrintable {c : CodePoint} (h : isPrintable c) :
    endsLine c = false ∧ c.isSurrogate = false ∧ c.val ≠ 0 := by
  have hranges : printableRanges.within
      [(0x20, 0x84), (0x86, 0x2027), (0x202A, 0xD7FF), (0xE000, 0x10FFFF)] := by
    decide +kernel
  obtain ⟨p, hp, hlo, hhi⟩ := Ranges.contains_iff.mp (Ranges.contains_of_within hranges h)
  simp only [List.mem_cons, List.not_mem_nil, or_false] at hp
  simp only [endsLine, CodePoint.isSurrogate, List.contains_eq_mem, decide_eq_false_iff_not,
    List.mem_cons, List.not_mem_nil, or_false, Bool.and_eq_false_iff]
  rcases hp with rfl | rfl | rfl | rfl <;> dsimp only at hlo hhi <;> omega

end Unicode

open Unicode (isPrintable isPrintable_of_ascii)

def Text.IsPrintable (t : Text) : Prop :=
  ∀ c ∈ t, isPrintable c

namespace Text.IsPrintable

theorem append {t u : Text} (ht : IsPrintable t) (hu : IsPrintable u) : IsPrintable (t ++ u) :=
  List.forall_mem_append.mpr ⟨ht, hu⟩

theorem ascii {t : Text} (h : ∀ c ∈ t, 0x20 ≤ c.val ∧ c.val ≤ 0x7E) : IsPrintable t :=
  fun c hc => isPrintable_of_ascii (h c hc)

theorem decimal (n : Nat) : IsPrintable (Numeral.decimal n) := by
  refine .ascii fun c hc => ?_
  have hdigit := Numeral.val_of_mem_decimal hc
  omega

theorem signed (n : Int) : IsPrintable (Numeral.signed n) := by
  unfold Numeral.signed
  split
  · have hsign : IsPrintable [CodePoint.ofChar '-'] := .ascii (by decide)
    exact hsign.append (.decimal _)
  · exact .decimal _

theorem localName (target : Nat) : IsPrintable (localName target) := by
  have hletter : IsPrintable [CodePoint.ofChar 's'] := .ascii (by decide)
  exact hletter.append (.decimal target)

theorem itemSource (index : Nat) : IsPrintable (itemSource index) := by
  have hopen : IsPrintable "items[" := .ascii (by decide)
  have hclose : IsPrintable "]" := .ascii (by decide)
  exact (hopen.append (.decimal index)).append hclose

theorem quoted (t : Text) : IsPrintable (Quoted.text t) := by
  have hquote : ∀ c, c = Quoted.quoteOf t → isPrintable c := by
    rintro c rfl
    rcases Quoted.quoteOf_eq t with h | h <;> rw [h] <;> decide
  intro c hc
  simp only [Quoted.text, List.mem_append, List.mem_cons, List.not_mem_nil, or_false,
    List.mem_flatMap] at hc
  rcases hc with (hc | ⟨d, -, hc⟩) | hc
  · exact hquote c hc
  · rcases Quoted.escapeIn_cases (Quoted.quoteOf_eq t) d with hw | ⟨hd, hp, -⟩
    · exact hw.printable c hc
    · rw [hd, List.mem_singleton] at hc
      rwa [hc]
  · exact hquote c hc

theorem inlineKey (i : InlineKey) : IsPrintable i.source := by
  cases i with
  | text t =>
    unfold InlineKey.source
    dsimp only
    split
    · rename_i h
      have hquote : IsPrintable "\"" := .ascii (by decide)
      exact (hquote.append fun c => Unicode.isPrintable_of_mem_identifier h).append hquote
    · exact .quoted t
  | int n => exact .signed n
  | bool b =>
    cases b
    · exact .ascii (by decide)
    · exact .ascii (by decide)

theorem expression (e : Expression) : IsPrintable e.source := by
  have hclose : IsPrintable ")" := .ascii (by decide)
  cases e with
  | get a =>
    have hget : IsPrintable "get(" := .ascii (by decide)
    cases a with
    | inline i => exact (hget.append (.inlineKey i)).append hclose
    | item index => exact (hget.append (.itemSource index)).append hclose
  | item index => exact .itemSource index
  | callItem index =>
    have hcall : IsPrintable "(context)" := .ascii (by decide)
    exact (IsPrintable.itemSource index).append hcall

end Text.IsPrintable

namespace Statement

theorem isPrintable_lines (statement : Statement) :
    ∀ line ∈ statement.lines, Text.IsPrintable line := by
  cases statement with
  | requireStructured =>
    intro line hline
    rcases List.mem_pair.mp hline with rfl | rfl
    · exact .ascii (by decide)
    · exact .ascii (by decide)
  | bindGetter =>
    intro line hline
    rw [List.mem_singleton.mp hline]
    exact .ascii (by decide)
  | assign a =>
    intro line hline
    rw [List.mem_singleton.mp hline, Assignment.line]
    have hindent : Text.IsPrintable "    " := .ascii (by decide)
    have hopen : Text.IsPrintable " = text(" := .ascii (by decide)
    have hclose : Text.IsPrintable ")" := .ascii (by decide)
    exact (((hindent.append (.localName a.target)).append hopen).append
      (.expression a.expression)).append hclose
  | answer body =>
    intro line hline
    rw [List.mem_singleton.mp hline]
    have hopen : Text.IsPrintable "    return f'" := .ascii (by decide)
    have hclose : Text.IsPrintable "'" := .ascii (by decide)
    exact (hopen.append fun c => FormatString.isPrintable_of_mem_bodySource).append hclose

end Statement

namespace Program

theorem isPrintable_lines (p : Program) : ∀ line ∈ p.lines, Text.IsPrintable line := by
  intro line hline
  rcases List.mem_cons.mp hline with rfl | hline
  · exact .ascii (by decide)
  · obtain ⟨statement, -, hline⟩ := List.mem_flatMap.mp hline
    exact statement.isPrintable_lines line hline

theorem source_eq_lines (p : Program) : p.source = p.lines.flatMap (· ++ [newline]) := by
  have hassign : ∀ a : Assignment,
      (Statement.assign a).lines.flatMap (· ++ [newline]) = a.source := by
    intro a
    rw [Statement.lines, List.flatMap_singleton]
    rfl
  have hassigns : (p.assignments.map Statement.assign).flatMap
      (fun statement => statement.lines.flatMap (· ++ [newline])) =
        p.assignments.flatMap Assignment.source := by
    rw [List.flatMap_map]
    exact congrArg (p.assignments.flatMap ·) (funext hassign)
  have hanswer : (Statement.answer p.body).lines.flatMap (· ++ [newline]) =
      "    return f'" ++ bodySource p.body ++ "'\n" := by
    simp only [Statement.lines, List.flatMap_cons, List.flatMap_nil, List.append_nil]
    exact List.append_assoc _ "'" [newline]
  have hline : ∀ t : String, Text.ofString t ++ [newline] = Text.ofString (t ++ "\n") := fun t =>
    (Text.ofString_append t "\n").symm
  have hopening : p.opening.flatMap (fun statement => statement.lines.flatMap (· ++ [newline])) =
      "    if not is_structured(context):\n" ++
        "        raise InvalidContextError(context)\n" ++
        (if p.bindsGetter then ("    get = getter(context)\n" : Text) else []) := by
    unfold opening
    cases p.bindsGetter with
    | true =>
      simp only [if_true, List.flatMap_cons, List.flatMap_nil, Statement.lines, hline,
        String.reduceAppend, List.append_nil]
    | false =>
      simp only [Bool.false_eq_true, if_false, List.flatMap_cons, List.flatMap_nil,
        Statement.lines, hline, String.reduceAppend, List.append_nil]
  have hhead : ("def render_template(context):" : Text) ++ [newline] =
      "def render_template(context):\n" := by
    simp only [hline, String.reduceAppend]
  unfold source lines statements
  rw [List.flatMap_cons, List.flatMap_assoc, List.flatMap_append, List.flatMap_append, hopening,
    hassigns, List.flatMap_singleton, hanswer, hhead]
  simp only [List.append_assoc]

/-- Lines on which no line ends are what a text splits into where its lines end. -/
theorem splitOnP_lines {lines : List Text} (h : ∀ line ∈ lines, Text.IsPrintable line) :
    (lines.flatMap (· ++ [newline])).splitOnP Unicode.endsLine = lines ++ [[]] := by
  induction lines with
  | nil => rfl
  | cons line lines ih =>
    have hline : ∀ c ∈ line, Unicode.endsLine c = false := by
      intro c hc
      exact (Unicode.plain_of_isPrintable (h line List.mem_cons_self c hc)).1
    have hrest := ih fun other hother => h other (List.mem_cons_of_mem line hother)
    rw [List.flatMap_cons, List.append_assoc, List.singleton_append,
      List.splitOnP_append_cons_of_forall_mem hline _ (by decide), hrest]
    rfl

theorem bodySource_bodyFrom (index : Nat) (fragments : List Text) (slots : List Slot) :
    bodySource (bodyFrom index fragments slots) =
      interleave (fragments.map escapeFragment)
        (FormatString.contributedFrom index (fun i => "\x7b" ++ localName i ++ "\x7d") slots) := by
  induction fragments generalizing index slots with
  | nil => rfl
  | cons fragment fragments ih =>
    cases slots with
    | nil =>
      have hrest := ih (index + 1) []
      simp only [bodyFrom, bodySource, List.flatMap_cons, Piece.source, List.map_cons, interleave,
        FormatString.contributedFrom, List.zipIdx_nil, List.map_nil, List.headD_nil,
        List.append_nil, List.tail_nil] at hrest ⊢
      rw [hrest]
    | cons slot slots =>
      have hrest := ih (index + 1) slots
      by_cases hs : slot.kind = .absent
      · simpa [FormatString.bodyFrom_cons, hs, bodySource, Piece.source, interleave,
          FormatString.contributedFrom] using hrest
      · simpa [FormatString.bodyFrom_cons, hs, bodySource, Piece.source, interleave,
          FormatString.contributedFrom] using hrest

end Program

/-- The line of the slot at a position: its local takes the text of what the slot is. -/
def Slot.sourceLine? (index : Nat) (slot : Slot) : Option Text :=
  let expression : Option Text := match slot with
    | .absent => none
    | .literal _ => some (itemSource index)
    | .callable _ => some (itemSource index ++ "(context)")
    | .key k => some ("get(" ++ keySource (.key k) index ++ ")")
  expression.map fun e => "    s" ++ Numeral.decimal index ++ " = text(" ++ e ++ ")"

def Layout.sourceLines (l : Layout) : List Text :=
  let check : List Text :=
    ["def render_template(context):", "    if not is_structured(context):",
      "        raise InvalidContextError(context)"]
  let getter : List Text :=
    if ∃ slot ∈ l.slots, slot.kind = .key then ["    get = getter(context)"] else []
  let fields := FormatString.contributedFrom 0 (fun i => "\x7b" ++ localName i ++ "\x7d") l.slots
  check ++ getter ++
    (l.slots.zipIdx.filterMap fun p => p.1.sourceLine? p.2) ++
    ["    return f'" ++ interleave (l.texts.map escapeFragment) fields ++ "'"]

theorem Slot.sourceLine?_eq (index : Nat) (slot : Slot) :
    slot.sourceLine? index = (slot.expression? index).map fun e =>
      "    " ++ localName index ++ " = text(" ++ e.source ++ ")" := by
  cases slot with
  | key k =>
    unfold sourceLine? expression? keySource
    dsimp only
    cases k.inline? <;> rfl
  | _ => rfl

theorem Layout.lines_ofSlots {l : Layout} (h : l.slots.length ≤ l.texts.length) :
    (Program.ofSlots l.texts l.slots).lines = l.sourceLines := by
  have hgetter : (∃ slot ∈ l.slots, slot.kind = .key) ↔ l.slots.any Slot.isKey := by
    rw [List.any_eq_true]
    refine exists_congr fun slot => and_congr_right fun _ => ?_
    cases slot <;> simp [Slot.isKey, Slot.kind]
  have hassigns : ((Program.assignmentsFrom 0 l.texts l.slots).map Statement.assign).flatMap
      Statement.lines = l.slots.zipIdx.filterMap fun p => p.1.sourceLine? p.2 := by
    rw [Program.assignmentsFrom_eq, List.take_of_length_le h, List.flatMap_map]
    simp only [Statement.lines, Assignment.line, ← List.map_eq_flatMap, List.map_filterMap,
      Option.map_map, Slot.sourceLine?_eq, Function.comp_def]
  have hanswer : (Statement.answer (Program.bodyFrom 0 l.texts l.slots)).lines = ["    return f'" ++
      interleave (l.texts.map escapeFragment) (FormatString.contributedFrom 0
        (fun i => "\x7b" ++ localName i ++ "\x7d") l.slots) ++ "'"] := by
    rw [Statement.lines, Program.bodySource_bodyFrom]
  unfold Program.lines Program.statements Program.opening Program.ofSlots sourceLines
  dsimp only
  simp only [List.flatMap_append, List.flatMap_cons, List.flatMap_nil, hassigns, hanswer, hgetter]
  cases l.slots.any Slot.isKey
  · simp [Statement.lines]
  · simp [Statement.lines]

open Program in
/--
The source of a compiled program has just the lines of its layout, by any convention of where lines
end: a fragment or a key adds none, and brings nothing on them that is not printable.
-/
theorem source_has_lines {fragments : Value} {items : Option Value} {s : Store} {l : Layout}
    (h : Layout.prepare fragments items s = .ok l) :
    (ofSlots l.texts l.slots).source = l.sourceLines.flatMap (· ++ [newline]) ∧
      (ofSlots l.texts l.slots).source.splitOnP Unicode.endsLine = l.sourceLines ++ [[]] ∧
      ∀ line ∈ l.sourceLines, ∀ c ∈ line,
        Unicode.isPrintable c ∧ c.isSurrogate = false ∧ c.val ≠ 0 := by
  have hlines := Layout.lines_ofSlots (Layout.prepare_slots h).1
  have hprintable := isPrintable_lines (ofSlots l.texts l.slots)
  have hsource := source_eq_lines (ofSlots l.texts l.slots)
  rw [hlines] at hprintable hsource
  refine ⟨hsource, ?_, fun line hline c hc => ?_⟩
  · rw [hsource]
    exact splitOnP_lines hprintable
  · have hc := hprintable line hline c hc
    exact ⟨hc, (Unicode.plain_of_isPrintable hc).2⟩

/-- A fragment that ends a line, a lone surrogate, and keys that do either. -/
def breakingStore : Store :=
  ⟨#[.list [.text [⟨0x2028, by decide⟩, ⟨0xD800, by decide⟩], .text "\r\x7b"],
    .list [.text "\n", .text "name"]], [], #[], 0, .generated, 100⟩

theorem source_has_lines_breaking : ∃ l : Layout,
    Layout.prepare (.object 0) (some (.object 1)) breakingStore = .ok l ∧
      (Program.ofSlots l.texts l.slots).source.splitOnP Unicode.endsLine =
        (["def render_template(context):", "    if not is_structured(context):",
          "        raise InvalidContextError(context)", "    get = getter(context)",
          "    s0 = text(get('\\n'))", "    s1 = text(get(\"name\"))",
          "    return f'\\u2028\\ud800\x7bs0\x7d\\r\x7b\x7b\x7bs1\x7d'", ""] : List Text) := by
  have hfragments : breakingStore.IsList (.object 0)
      ([Fragment.plain [⟨0x2028, by decide⟩, ⟨0xD800, by decide⟩],
        Fragment.plain "\r\x7b"].map Fragment.value) := ⟨⟨0, rfl, rfl⟩, nofun⟩
  have hitems : breakingStore.IsList (.object 1) [.text "\n", .text "name"] :=
    ⟨⟨1, rfl, rfl⟩, nofun⟩
  have hprepare := prepare_lists hfragments hitems
  exact ⟨_, hprepare, (source_has_lines hprepare).2.1.trans (by decide +kernel)⟩

end Stencil
