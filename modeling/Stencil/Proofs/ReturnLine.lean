import Stencil.Program.FormatString
import Stencil.Proofs.Escaping
import Stencil.Proofs.Numerals
import Stencil.Proofs.Rendering

/-!
The returned line of a program reads back. Whatever the fragments hold, the format string ends at
the last quote of its line, its fields are the locals of the slots that are not absent, and the rest
of it is the text of the fragments.
-/

namespace Stencil

namespace FormatString

open Escape (Spells Pending)

/-- A code point is written as an escape, as a doubled brace, or as itself. -/
theorem escapeFormat_cases (c : CodePoint) :
    Escape.Writes (escapeFormat c) c ∨
    (c = openBrace ∨ c = closeBrace) ∧ escapeFormat c = [c, c] ∨
    escapeFormat c = [c] ∧ Unicode.isPrintable c ∧ Escape.endsLine c = false ∧
      c ≠ Quoted.single ∧ c ≠ Quoted.backslash ∧ c ≠ openBrace ∧ c ≠ closeBrace := by
  unfold escapeFormat
  split_ifs with hbackslash hsingle hopen hclose hp
  · exact .inl (.pair (by rw [hbackslash]; decide) (by decide))
  · exact .inl (.pair (by rw [hsingle]; decide) (by decide))
  · exact .inr (.inl ⟨.inl hopen, by rw [hopen]; rfl⟩)
  · exact .inr (.inl ⟨.inr hclose, by rw [hclose]; rfl⟩)
  · cases hcontrol : Escape.control? c with
    | some e => exact .inl (Escape.control?_writes hcontrol)
    | none =>
      exact .inr (.inr ⟨rfl, hp, Escape.endsLine_eq_false hcontrol, hsingle, hbackslash, hopen,
        hclose⟩)
  · cases hcontrol : Escape.control? c with
    | some e => exact .inl (Escape.control?_writes hcontrol)
    | none => exact .inl (Escape.numeric_writes c)

private theorem readFrom?_spells {p : Pending} {t : Text} {c : CodePoint} (h : Spells p t c)
    (rest : Text) : readFrom? (.escape p) (t ++ rest) =
      (readFrom? .plain rest).map fun r => (.fixed c :: r.1, r.2) := by
  induction h with
  | last hd =>
    simp only [List.singleton_append, readFrom?, hd]
  | more hd _ ih =>
    simp only [List.cons_append, readFrom?, hd]
    exact ih

private theorem readFrom?_escapeFormat (c : CodePoint) (rest : Text) :
    readFrom? .plain (escapeFormat c ++ rest) =
      (readFrom? .plain rest).map fun r => (.fixed c :: r.1, r.2) := by
  rcases escapeFormat_cases c with hw | ⟨rfl | rfl, hc⟩ | ⟨hc, -, hl, h1, h2, h3, h4⟩
  · obtain ⟨t, ht, hs⟩ := hw.spelled
    rw [ht, List.cons_append, readFrom?, if_neg (by decide), if_pos rfl]
    exact readFrom?_spells hs rest
  · rw [hc, List.cons_append, List.singleton_append, readFrom?, if_neg (by decide),
      if_neg (by decide), if_pos rfl, readFrom?, if_pos rfl]
  · rw [hc, List.cons_append, List.singleton_append, readFrom?, if_neg (by decide),
      if_neg (by decide), if_neg (by decide), if_pos rfl, readFrom?, if_pos rfl]
  · rw [hc, List.singleton_append, readFrom?, if_neg h1, if_neg h2, if_neg h3, if_neg h4, hl,
      if_neg Bool.false_ne_true]

theorem readFrom?_escapeFragment (t rest : Text) :
    readFrom? .plain (escapeFragment t ++ rest) =
      (readFrom? .plain rest).map fun r => (t.map .fixed ++ r.1, r.2) := by
  induction t with
  | nil => simp [escapeFragment]
  | cons c t ih =>
    have hc : escapeFragment (c :: t) = escapeFormat c ++ escapeFragment t := rfl
    rw [hc, List.append_assoc, readFrom?_escapeFormat, ih, Option.map_map]
    rfl

/-- A field ends at its closing brace. -/
private theorem readFrom?_name (name rest : Text) (t : Text) (h : ∀ c ∈ name, isNameMember c) :
    readFrom? (.name t) (name ++ closeBrace :: rest) =
      (readFrom? .plain rest).map fun r => (.field (t ++ name) :: r.1, r.2) := by
  induction name generalizing t with
  | nil => simp [readFrom?]
  | cons c name ih =>
    have hc : isNameMember c := h c (by simp)
    have hne : c ≠ closeBrace := by
      rintro rfl
      exact absurd hc (by decide)
    rw [List.cons_append, readFrom?, if_neg hne, if_pos hc, ih _ fun d hd => h d (by simp [hd]),
      List.append_assoc, List.singleton_append]

theorem isNameMember_of_mem_decimal {n : Nat} {c : CodePoint} (h : c ∈ Numeral.decimal n) :
    isNameMember c := by
  obtain ⟨hlo, hhi⟩ := Numeral.val_of_mem_decimal h
  simp [isNameMember, hlo, hhi]

private theorem source_field (target : Nat) : (Piece.field target).source =
    openBrace :: CodePoint.ofChar 's' :: (Numeral.decimal target ++ [closeBrace]) := rfl

private theorem readFrom?_field (target : Nat) (rest : Text) :
    readFrom? .plain ((Piece.field target).source ++ rest) =
      (readFrom? .plain rest).map fun r => (.field (localName target) :: r.1, r.2) := by
  have hs : (Piece.field target).source ++ rest =
      openBrace :: CodePoint.ofChar 's' :: (Numeral.decimal target ++ closeBrace :: rest) := by
    change openBrace :: CodePoint.ofChar 's' :: (Numeral.decimal target ++ [closeBrace]) ++ rest = _
    simp
  rw [hs, readFrom?, if_neg (by decide), if_neg (by decide), if_pos rfl, readFrom?,
    if_neg (by decide), if_pos (by decide),
    readFrom?_name _ _ _ fun c hc => isNameMember_of_mem_decimal hc]
  rfl

theorem readFrom?_bodySource (body : List Piece) (rest : Text) :
    readFrom? .plain (Program.bodySource body ++ rest) =
      (readFrom? .plain rest).map fun r => (body.flatMap tokens ++ r.1, r.2) := by
  induction body with
  | nil => simp [Program.bodySource]
  | cons p body ih =>
    have hp : Program.bodySource (p :: body) = p.source ++ Program.bodySource body := rfl
    rw [hp, List.append_assoc]
    cases p with
    | fixed t =>
      rw [Piece.source, readFrom?_escapeFragment, ih, Option.map_map]
      simp [tokens, Function.comp_def]
    | field target =>
      rw [readFrom?_field, ih, Option.map_map]
      simp [tokens, Function.comp_def]

/-- What follows the opening quote of a returned string is read up to the last quote of its line. -/
theorem read?_bodySource (body : List Piece) :
    read? (Program.bodySource body ++ "'\n") = some (body.flatMap tokens, ("\n" : Text)) := by
  have hquote : readFrom? .plain ("'\n" : Text) = some ([], ("\n" : Text)) := by decide
  unfold read?
  rw [readFrom?_bodySource, hquote]
  simp

/-- The names of the fields in order. -/
def fields (ts : List Token) : List Text :=
  ts.filterMap fun
    | .fixed _ => none
    | .field name => some name

theorem fields_fixed (t : Text) : fields (t.map .fixed) = [] := by
  simp [fields, List.filterMap_map]

theorem value_append (field : Text → Text) (ts us : List Token) :
    value field (ts ++ us) = value field ts ++ value field us := by
  induction ts with
  | nil => rfl
  | cons token ts ih => cases token <;> simp [value, ih]

theorem value_fixed (field : Text → Text) (t : Text) : value field (t.map .fixed) = t := by
  induction t with
  | nil => rfl
  | cons c t ih => simp [value, ih]

def presentFrom (index : Nat) (slots : List Slot) : List Nat :=
  ((slots.zipIdx index).filter fun p => p.1.kind ≠ .absent).map Prod.snd

def contributedFrom (index : Nat) (assigned : Nat → Text) (slots : List Slot) : List Text :=
  (slots.zipIdx index).map fun p => if p.1.kind = .absent then [] else assigned p.2

theorem bodyFrom_cons (index : Nat) (fragment : Text) (fragments : List Text) (slot : Slot)
    (slots : List Slot) : Program.bodyFrom index (fragment :: fragments) (slot :: slots) =
      .fixed fragment :: ((if slot.kind = .absent then [] else [.field index]) ++
        Program.bodyFrom (index + 1) fragments slots) := by
  cases slot <;> rfl

theorem fields_bodyFrom (index : Nat) (fragments : List Text) (slots : List Slot) :
    fields ((Program.bodyFrom index fragments slots).flatMap tokens) =
      (presentFrom index (slots.take fragments.length)).map localName := by
  have happ : ∀ ts us, fields (ts ++ us) = fields ts ++ fields us := fun _ _ =>
    List.filterMap_append
  induction fragments generalizing index slots with
  | nil => simp [Program.bodyFrom, fields, presentFrom]
  | cons fragment fragments ih =>
    cases slots with
    | nil =>
      have hi := ih (index + 1) []
      simpa [Program.bodyFrom, tokens, happ, fields_fixed, presentFrom] using hi
    | cons slot slots =>
      have hi := ih (index + 1) slots
      rw [bodyFrom_cons, List.flatMap_cons, List.flatMap_append, tokens, happ, happ, fields_fixed,
        hi]
      by_cases hs : slot.kind = .absent
      · simp [hs, fields, presentFrom]
      · simp [hs, fields, presentFrom, tokens]

theorem value_bodyFrom (field : Text → Text) (index : Nat) (fragments : List Text)
    (slots : List Slot) :
    value field ((Program.bodyFrom index fragments slots).flatMap tokens) =
      interleave fragments (contributedFrom index (field ∘ localName) slots) := by
  induction fragments generalizing index slots with
  | nil => rfl
  | cons fragment fragments ih =>
    cases slots with
    | nil =>
      have hi := ih (index + 1) []
      simpa [Program.bodyFrom, tokens, value_append, value_fixed, interleave, contributedFrom]
        using hi
    | cons slot slots =>
      have hi := ih (index + 1) slots
      rw [bodyFrom_cons, List.flatMap_cons, List.flatMap_append, tokens, value_append,
        value_append, value_fixed, hi]
      by_cases hs : slot.kind = .absent
      · simp [hs, value, interleave, contributedFrom]
      · simp [hs, value, interleave, contributedFrom, tokens]

theorem isPrintable_of_mem_escapeFormat {c d : CodePoint} (h : d ∈ escapeFormat c) :
    Unicode.isPrintable d := by
  rcases escapeFormat_cases c with hw | ⟨hb, hc⟩ | ⟨hc, hp, -⟩
  · exact hw.printable d h
  · have hd : d = c := by simpa [hc] using h
    rcases hb with rfl | rfl <;> rw [hd] <;> decide
  · have hd : d = c := by simpa [hc] using h
    rwa [hd]

theorem isPrintable_of_isNameMember {c : CodePoint} (h : isNameMember c) :
    Unicode.isPrintable c := by
  refine Unicode.Ranges.contains_iff.mpr ⟨(0x20, 0x7E), by decide, ?_⟩
  simp only [isNameMember, Bool.or_eq_true, Bool.and_eq_true, decide_eq_true_eq] at h
  dsimp only
  omega

theorem isPrintable_of_mem_bodySource {body : List Piece} {d : CodePoint}
    (h : d ∈ Program.bodySource body) : Unicode.isPrintable d := by
  obtain ⟨p, -, h⟩ := List.mem_flatMap.mp h
  cases p with
  | fixed t =>
    obtain ⟨c, -, h⟩ := List.mem_flatMap.mp h
    exact isPrintable_of_mem_escapeFormat h
  | field target =>
    have hd : d = openBrace ∨ d = CodePoint.ofChar 's' ∨ d ∈ Numeral.decimal target ∨
        d = closeBrace := by
      simpa [source_field] using h
    rcases hd with rfl | rfl | hd | rfl
    · decide
    · decide
    · exact isPrintable_of_isNameMember (isNameMember_of_mem_decimal hd)
    · decide

end FormatString

theorem CodePoint.ofChar_injective : Function.Injective CodePoint.ofChar := by
  intro c d h
  have hval : c.toNat = d.toNat := congrArg CodePoint.val h
  exact Char.toNat_inj.mp hval

theorem localName_injective : Function.Injective localName := by
  intro m n h
  have hdigits : Nat.toDigits 10 m = Nat.toDigits 10 n :=
    CodePoint.ofChar_injective.list_map (List.cons.inj h).2
  have hvalue := congrArg (fun cs => Nat.ofDigitChars 10 cs 0) hdigits
  simpa only [Nat.ofDigitChars_ten_toDigits] using hvalue

namespace Program

def newline : CodePoint := CodePoint.ofChar '\n'

private theorem getLast?_flatMap {before : Text} {assignments : List Assignment}
    (h : before.getLast? = some newline) :
    (before ++ assignments.flatMap Assignment.source).getLast? = some newline := by
  induction assignments generalizing before with
  | nil => simpa using h
  | cons a assignments ih =>
    rw [List.flatMap_cons, ← List.append_assoc]
    refine ih ?_
    have ha : a.source.getLast? = some newline := List.getLast?_append_of_ne_nil _ (by decide)
    rw [List.getLast?_append, ha]
    rfl

def beforeReturn (p : Program) : Text :=
  "def render_template(context):\n" ++
  "    if not is_structured(context):\n" ++
  "        raise InvalidContextError(context)\n" ++
  (if p.bindsGetter then ("    get = getter(context)\n" : Text) else []) ++
  p.assignments.flatMap Assignment.source

private theorem getLast?_beforeReturn (p : Program) : p.beforeReturn.getLast? = some newline := by
  unfold beforeReturn
  refine getLast?_flatMap ?_
  cases p.bindsGetter <;> decide

end Program

open FormatString Program in
/--
The last line of the source of a program returns a format string that reads back to the template:
it ends at the last quote of the line, its fields are the locals of the slots that are not absent,
and with any texts for these locals its value is the fragments with the texts between them.
-/
theorem returned_line_reads_back (fragments : List Text) (slots : List Slot) :
    ∃ (before line : Text) (ts : List Token),
      (Program.ofSlots fragments slots).source = before ++ "    return f'" ++ line ++ "\n" ∧
      before.getLast? = some newline ∧ newline ∉ line ∧
      read? (line ++ "\n") = some (ts, ("\n" : Text)) ∧
      fields ts = (presentFrom 0 (slots.take fragments.length)).map localName ∧
      (∀ field, value field ts =
        interleave fragments (contributedFrom 0 (field ∘ localName) slots)) ∧
      Function.Injective localName := by
  let p := Program.ofSlots fragments slots
  have hquote : ("'\n" : Text) = "'" ++ "\n" := rfl
  refine ⟨p.beforeReturn, bodySource p.body ++ "'", p.body.flatMap tokens, ?_,
    getLast?_beforeReturn p, ?_, ?_, fields_bodyFrom 0 fragments slots,
    fun field => value_bodyFrom field 0 fragments slots, localName_injective⟩
  · simp only [source, beforeReturn, hquote, List.append_assoc]
    rfl
  · intro hmem
    have hprintable : Unicode.isPrintable newline := by
      rcases List.mem_append.mp hmem with h | h
      · exact isPrintable_of_mem_bodySource h
      · exact absurd h (by decide)
    exact absurd hprintable (by decide +kernel)
  · rw [List.append_assoc, ← hquote]
    exact read?_bodySource p.body

end Stencil
