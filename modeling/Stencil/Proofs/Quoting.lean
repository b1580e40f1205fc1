import Stencil.Proofs.Escaping
import Stencil.Text.Quoted.Reader
import Stencil.Unicode.Identifier

/-!
Quoted text is read back: the quote that ends it is the only one in it that no backslash announces.
A text that needs no escape may as well stand between double quotes as it is.
-/

namespace Stencil.Quoted

open Escape (Spells Pending)

/-- A code point is written as an escape, or as itself where it neither ends nor escapes. -/
theorem escapeIn_cases {quote : CodePoint} (hq : quote = single ∨ quote = double) (c : CodePoint) :
    Escape.Writes (escapeIn quote c) c ∨
      escapeIn quote c = [c] ∧ Unicode.isPrintable c ∧ Escape.endsLine c = false ∧
        c ≠ quote ∧ c ≠ backslash := by
  unfold escapeIn
  split_ifs with hpair hp
  · have hc : c = backslash ∨ c = single ∨ c = double := by
      rcases hpair with rfl | rfl
      · exact .inl rfl
      · exact .inr hq
    rcases hc with rfl | rfl | rfl
    · exact .inl (.pair (by decide) (by decide))
    · exact .inl (.pair (by decide) (by decide))
    · exact .inl (.pair (by decide) (by decide))
  · cases hcontrol : Escape.control? c with
    | some e => exact .inl (Escape.control?_writes hcontrol)
    | none =>
      exact .inr ⟨rfl, hp, Escape.endsLine_eq_false hcontrol, fun h => hpair (.inr h),
        fun h => hpair (.inl h)⟩
  · cases hcontrol : Escape.control? c with
    | some e => exact .inl (Escape.control?_writes hcontrol)
    | none => exact .inl (Escape.numeric_writes c)

private theorem readInside?_spells {p : Pending} {t : Text} {c : CodePoint} (h : Spells p t c)
    (quote : CodePoint) (rest : Text) :
    readInside? quote (some p) (t ++ rest) = (readInside? quote none rest).map (c :: ·) := by
  induction h with
  | last hd => simp only [List.singleton_append, readInside?, hd]
  | more hd _ ih =>
    simp only [List.cons_append, readInside?, hd]
    exact ih

/-- A code point that is no part of the syntax stands for itself. -/
private theorem readInside?_plain {quote c : CodePoint} (hl : Escape.endsLine c = false)
    (hq : c ≠ quote) (hb : c ≠ backslash) (rest : Text) :
    readInside? quote none (c :: rest) = (readInside? quote none rest).map (c :: ·) := by
  rw [readInside?, if_neg hq, if_neg hb, hl, if_neg Bool.false_ne_true]

private theorem readInside?_escapeIn {quote : CodePoint} (hq : quote = single ∨ quote = double)
    (c : CodePoint) (rest : Text) :
    readInside? quote none (escapeIn quote c ++ rest) =
      (readInside? quote none rest).map (c :: ·) := by
  have hbackslash : backslash ≠ quote := by
    rcases hq with rfl | rfl <;> decide
  rcases escapeIn_cases hq c with hw | ⟨hc, -, hl, hne, hb⟩
  · obtain ⟨t, ht, hs⟩ := hw.spelled
    rw [ht, List.cons_append, readInside?, if_neg hbackslash, if_pos rfl]
    exact readInside?_spells hs quote rest
  · rw [hc, List.singleton_append]
    exact readInside?_plain hl hne hb rest

private theorem readInside?_end (quote : CodePoint) : readInside? quote none [quote] = some [] := by
  rw [readInside?, if_pos rfl, if_pos rfl]

private theorem readInside?_flatMap {quote : CodePoint} (hq : quote = single ∨ quote = double)
    (t : Text) :
    readInside? quote none (t.flatMap (escapeIn quote) ++ [quote]) = some t := by
  induction t with
  | nil => exact readInside?_end quote
  | cons c t ih =>
    rw [List.flatMap_cons, List.append_assoc, readInside?_escapeIn hq, ih, Option.map_some]

theorem quoteOf_eq (t : Text) : quoteOf t = single ∨ quoteOf t = double := by
  unfold quoteOf
  split
  · exact .inr rfl
  · exact .inl rfl

@[simp] theorem read?_text (t : Text) : read? (text t) = some t := by
  have hq := quoteOf_eq t
  unfold text
  rw [List.cons_append, read?, if_pos hq]
  exact readInside?_flatMap hq t

/-- Texts without quotes, backslashes and ends of lines need no escape. -/
theorem read?_between {t : Text}
    (h : ∀ c ∈ t, Escape.endsLine c = false ∧ c ≠ double ∧ c ≠ backslash) :
    read? (double :: t ++ [double]) = some t := by
  rw [List.cons_append, read?, if_pos (.inr rfl)]
  induction t with
  | nil => exact readInside?_end double
  | cons c t ih =>
    obtain ⟨hl, hq, hb⟩ := h c List.mem_cons_self
    rw [List.cons_append, readInside?_plain hl hq hb,
      ih fun d hd => h d (List.mem_cons_of_mem c hd), Option.map_some]

end Stencil.Quoted

namespace Stencil.Unicode

/-- What would end a literal or a line, or start an escape, stands in no identifier. -/
private theorem not_in_identifiers :
    ∀ d ∈ [Quoted.double, Quoted.backslash, CodePoint.ofChar '\n', CodePoint.ofChar '\r'],
      identifierStartRanges.contains d.val = false ∧
        identifierContinueRanges.contains d.val = false := by
  decide +kernel

theorem contains_of_mem_identifier {t : Text} (h : isIdentifier t) {c : CodePoint} (hc : c ∈ t) :
    identifierStartRanges.contains c.val ∨ identifierContinueRanges.contains c.val := by
  cases t with
  | nil => cases hc
  | cons d t =>
    simp only [isIdentifier, Bool.and_eq_true, List.all_eq_true] at h
    rcases List.mem_cons.mp hc with rfl | hc
    · exact .inl h.1
    · exact .inr (h.2 c hc)

theorem plain_of_mem_identifier {t : Text} (h : isIdentifier t) {c : CodePoint} (hc : c ∈ t) :
    Escape.endsLine c = false ∧ c ≠ Quoted.double ∧ c ≠ Quoted.backslash := by
  have hne : ∀ d ∈ [Quoted.double, Quoted.backslash, CodePoint.ofChar '\n', CodePoint.ofChar '\r'],
      c ≠ d := by
    rintro d hd rfl
    obtain ⟨hstart, hcontinue⟩ := not_in_identifiers c hd
    rcases contains_of_mem_identifier h hc with hin | hin
    · rw [hstart] at hin
      cases hin
    · rw [hcontinue] at hin
      cases hin
  refine ⟨?_, hne _ (by simp), hne _ (by simp)⟩
  have hn : c ≠ CodePoint.ofChar '\n' := hne _ (by simp)
  have hr : c ≠ CodePoint.ofChar '\r' := hne _ (by simp)
  simp [Escape.endsLine, hn, hr]

end Stencil.Unicode
