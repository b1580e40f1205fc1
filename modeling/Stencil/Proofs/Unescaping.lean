import Stencil.Proofs.ReturnLine

/-!
Escaped text as a code. A text is escaped one code point at a time and reads back to itself, so that
no two texts are escaped alike; and all of it gets longer but the code points that stand for
themselves.
-/

namespace Stencil

namespace Escape

/-- A code point with an escape of two characters is a control character. -/
private theorem control?_of_isPrintable {c : CodePoint} (h : Unicode.isPrintable c) :
    control? c = none := by
  have hne : ∀ d, Unicode.isPrintable d = false → c ≠ d := by
    rintro d hd rfl
    rw [hd] at h
    cases h
  unfold control?
  rw [if_neg (hne _ (by decide +kernel)), if_neg (hne _ (by decide +kernel)),
    if_neg (hne _ (by decide +kernel))]

/-- An escape has something behind its backslash. -/
theorem Writes.one_lt_length {e : Text} {c : CodePoint} (h : Writes e c) : 1 < e.length := by
  obtain ⟨t, rfl, hspells⟩ := h.spelled
  cases hspells <;> simp

end Escape

namespace FormatString

@[simp] theorem escapeFragment_append (t u : Text) :
    escapeFragment (t ++ u) = escapeFragment t ++ escapeFragment u :=
  List.flatMap_append

/-- An escaped text reads back up to the quote behind it. -/
@[simp] theorem read?_escapeFragment (t : Text) :
    read? (escapeFragment t ++ [Quoted.single]) = some (t.map .fixed, []) := by
  have hquote : readFrom? .plain [Quoted.single] = some ([], []) := rfl
  unfold read?
  rw [readFrom?_escapeFragment, hquote, Option.map_some, List.append_nil]

theorem escapeFragment_injective : Function.Injective escapeFragment := by
  intro t u h
  have hfixed : Function.Injective Token.fixed := fun _ _ => Token.fixed.inj
  have hread : some (t.map Token.fixed, ([] : Text)) = some (u.map Token.fixed, []) := by
    rw [← read?_escapeFragment t, ← read?_escapeFragment u, h]
  exact hfixed.list_map (congrArg Prod.fst (Option.some.inj hread))

/-- A code point that stands for itself: it is printable, and ends or redirects nothing. -/
structure IsPlain (c : CodePoint) : Prop where
  printable : Unicode.isPrintable c
  ne_backslash : c ≠ Quoted.backslash
  ne_single : c ≠ Quoted.single
  ne_openBrace : c ≠ openBrace
  ne_closeBrace : c ≠ closeBrace

theorem IsPlain.escapeFormat {c : CodePoint} (h : IsPlain c) : escapeFormat c = [c] := by
  have hbackslash : c ≠ CodePoint.ofChar '\\' := h.ne_backslash
  have hsingle : c ≠ CodePoint.ofChar '\'' := h.ne_single
  have hopen : c ≠ CodePoint.ofChar '\x7b' := h.ne_openBrace
  have hclose : c ≠ CodePoint.ofChar '\x7d' := h.ne_closeBrace
  unfold Stencil.escapeFormat
  rw [if_neg hbackslash, if_neg hsingle, if_neg hopen, if_neg hclose,
    Escape.control?_of_isPrintable h.printable]
  dsimp only
  rw [if_pos h.printable]

theorem one_lt_length_escapeFormat {c : CodePoint} (h : ¬ IsPlain c) :
    1 < (escapeFormat c).length := by
  rcases escapeFormat_cases c with hw | ⟨-, hc⟩ | ⟨-, hp, -, hsingle, hbackslash, hopen, hclose⟩
  · exact hw.one_lt_length
  · simp [hc]
  · exact absurd ⟨hp, hbackslash, hsingle, hopen, hclose⟩ h

theorem escapeFormat_ne_nil (c : CodePoint) : escapeFormat c ≠ [] := by
  by_cases h : IsPlain c
  · simp [h.escapeFormat]
  · exact List.ne_nil_of_length_pos (Nat.lt_of_succ_lt (one_lt_length_escapeFormat h))

theorem length_le_escapeFragment (t : Text) : t.length ≤ (escapeFragment t).length := by
  induction t with
  | nil => exact Nat.zero_le _
  | cons c t ih =>
    have hc : 0 < (escapeFormat c).length := List.length_pos_iff.mpr (escapeFormat_ne_nil c)
    rw [escapeFragment, List.flatMap_cons, List.length_append, List.length_cons]
    change t.length ≤ (t.flatMap escapeFormat).length at ih
    omega

/-- Escaping changes a text if and only if it makes the text longer. -/
theorem escapeFragment_eq_self_iff (t : Text) :
    escapeFragment t = t ↔ ∀ c ∈ t, IsPlain c := by
  induction t with
  | nil => simp [escapeFragment]
  | cons c t ih =>
    have hcons : escapeFragment (c :: t) = escapeFormat c ++ escapeFragment t := rfl
    rw [hcons, List.forall_mem_cons]
    by_cases hc : IsPlain c
    · rw [hc.escapeFormat, List.singleton_append, List.cons_inj_right, ih]
      exact (and_iff_right hc).symm
    · -- What is escaped makes the text longer, and nothing behind it makes it shorter again.
      refine iff_of_false (fun heq => ?_) fun h => hc h.1
      have hlength := congrArg List.length heq
      have hlong := one_lt_length_escapeFormat hc
      have hrest := length_le_escapeFragment t
      rw [List.length_append, List.length_cons] at hlength
      omega

end FormatString

open FormatString in
/--
Escaping is a code: the escaped form of two texts in a row is that of each in a row, no two texts
have the same one, and it is the text itself just when all of the text is printable and none of it
is a backslash, a single quote or a brace.
-/
theorem escaping_is_code :
    (∀ t u, escapeFragment (t ++ u) = escapeFragment t ++ escapeFragment u) ∧
    Function.Injective escapeFragment ∧
    ∀ t, escapeFragment t = t ↔ ∀ c ∈ t, Unicode.isPrintable c ∧ c ≠ Quoted.backslash ∧
      c ≠ Quoted.single ∧ c ≠ openBrace ∧ c ≠ closeBrace := by
  refine ⟨escapeFragment_append, escapeFragment_injective, fun t => ?_⟩
  rw [escapeFragment_eq_self_iff]
  refine forall₂_congr fun c _ => ⟨fun h => ?_, fun ⟨hp, hb, hs, ho, hc⟩ => ⟨hp, hb, hs, ho, hc⟩⟩
  exact ⟨h.printable, h.ne_backslash, h.ne_single, h.ne_openBrace, h.ne_closeBrace⟩

end Stencil
