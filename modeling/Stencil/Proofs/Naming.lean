import Mathlib.Data.List.DropRight
import Stencil.Settings

/-!
The texts that name a setting. What stands between the blanks at both ends of a text names one up to
the case of its letters, which are those of ASCII: no other code point has one of them for its
lower-case form.
-/

namespace Stencil

namespace Text

variable {inClass : CodePoint → Bool} {before word after : Text}

theorem stripOf_eq_rdropWhile (t : Text) :
    t.stripOf inClass = (t.dropWhile inClass).rdropWhile inClass :=
  rfl

/-- What is stripped from a text is before and after the rest of it. -/
private theorem exists_stripOf (inClass : CodePoint → Bool) (t : Text) :
    ∃ before after, t = before ++ t.stripOf inClass ++ after ∧
      (∀ c ∈ before, inClass c) ∧ ∀ c ∈ after, inClass c := by
  refine ⟨t.takeWhile inClass, (t.dropWhile inClass).rtakeWhile inClass, ?_,
    fun _ => List.mem_takeWhile_imp, fun _ => List.mem_rtakeWhile_imp⟩
  rw [stripOf_eq_rdropWhile, List.append_assoc, List.rdropWhile_append_rtakeWhile,
    List.takeWhile_append_dropWhile]

private theorem dropWhile_of_neg {t : Text} (h : ∀ c ∈ t, ¬ inClass c) : t.dropWhile inClass = t :=
  List.dropWhile_eq_self_iff.mpr fun _ => h _ (List.getElem_mem _)

private theorem stripOf_append (hbefore : ∀ c ∈ before, inClass c) (hafter : ∀ c ∈ after, inClass c)
    (hword : ∀ c ∈ word, ¬ inClass c) : (before ++ word ++ after).stripOf inClass = word := by
  have hreversed : ∀ c ∈ after.reverse, inClass c := fun c hc => hafter c (List.mem_reverse.mp hc)
  have hkept : ((word ++ after).reverse.dropWhile inClass).reverse = word := by
    rw [List.reverse_append, List.dropWhile_append_of_pos hreversed,
      dropWhile_of_neg fun c hc => hword c (List.mem_reverse.mp hc), List.reverse_reverse]
  unfold stripOf
  rw [List.append_assoc, List.dropWhile_append_of_pos hbefore, List.dropWhile_append,
    dropWhile_of_neg hword]
  cases word with
  | nil => rw [List.dropWhile_eq_nil_iff.mpr hafter]; rfl
  | cons c word => exact hkept

end Text

/-- The lower-case form of a letter of ASCII; every other code point is its own. -/
def CodePoint.asciiLower (c : CodePoint) : CodePoint :=
  if h : 0x41 ≤ c.val ∧ c.val ≤ 0x5A then ⟨c.val + 0x20, by omega⟩ else c

namespace Unicode

theorem asciiLower_of_le {c : CodePoint} (h : 0x80 ≤ c.val) : c.asciiLower = c :=
  dif_neg (by omega)

private theorem asciiLower_of_isBlank {c : CodePoint} (h : isBlank c) : c.asciiLower = c := by
  refine dif_neg fun hletter => ?_
  obtain ⟨p, hp, hle, hge⟩ := Ranges.contains_iff.mp h
  have houtside : ∀ p ∈ blankRanges, p.2 < 0x41 ∨ 0x5A < p.1 := by decide
  have := houtside p hp
  omega

private theorem lowerCodePoint_below : ∀ (n : Nat) (h : n < 0x80),
    lowerCodePoint ⟨n, by omega⟩ = [CodePoint.asciiLower ⟨n, by omega⟩] := by
  decide +kernel

theorem lowerCodePoint_ascii {c : CodePoint} (h : c.val < 0x80) :
    lowerCodePoint c = [c.asciiLower] :=
  lowerCodePoint_below c.val h

private theorem lowerRanges_beyond_ascii : ∀ r ∈ lowerRanges, r.last < 0x80 ∨
    0x80 ≤ r.first + r.distance ∨ r.first = 0x212A ∧ r.last = 0x212A ∧ r.distance = -0x20BF := by
  decide +kernel

/-- No range moves a code point into ASCII from beyond it, but for U+212A, which it moves to k. -/
private theorem distance_beyond_ascii {r : CaseRange} (hr : r ∈ lowerRanges) {n : Nat}
    (hn : r.contains n) (h : 0x80 ≤ n) : 0x80 ≤ n + r.distance ∨ n + r.distance = 0x6B := by
  simp only [CaseRange.contains, Bool.and_eq_true, decide_eq_true_eq] at hn
  rcases lowerRanges_beyond_ascii r hr with hlast | hmoved | ⟨hfirst, hlast, hdistance⟩
  · omega
  · omega
  · omega

/-- The lower-case form of a code point beyond ASCII has a member beyond it, or is k. -/
private theorem exists_mem_lowerCodePoint {c : CodePoint} (h : 0x80 ≤ c.val) :
    ∃ d ∈ lowerCodePoint c, 0x80 ≤ d.val ∨ d = CodePoint.ofChar 'k' := by
  unfold lowerCodePoint
  split
  · -- The form of U+0130 starts with the i of ASCII, but does not end with it.
    exact ⟨CodePoint.ofChar '\u0307', by simp, .inl (by decide)⟩
  split
  · rename_i r hr
    have hcontains := List.find?_some hr
    refine ⟨_, List.mem_singleton_self _, ?_⟩
    unfold CodePoint.ofNat?
    split
    · rw [Option.getD_some]
      rcases distance_beyond_ascii (List.mem_of_find?_eq_some hr) hcontains h with hle | hk
      · exact .inl (by dsimp only; omega)
      · exact .inr (CodePoint.ext (congrArg Int.toNat hk))
    · exact .inl h
  · exact ⟨c, List.mem_singleton_self c, .inl h⟩

end Unicode

namespace Text

theorem lower_ascii {t : Text} (h : ∀ c ∈ t, c.val < 0x80) :
    t.lower = t.map CodePoint.asciiLower := by
  unfold lower
  rw [List.map_eq_flatMap]
  exact List.flatMap_congr fun c hc => Unicode.lowerCodePoint_ascii (h c hc)

/-- A text of ASCII without k is the lower-case form of no more than its letters in any case. -/
theorem lower_eq_iff {t name : Text}
    (h : ∀ c ∈ name, c.val < 0x80 ∧ c ≠ CodePoint.ofChar 'k') :
    t.lower = name ↔ t.map CodePoint.asciiLower = name := by
  constructor
  · rintro rfl
    refine (lower_ascii fun c hc => Nat.lt_of_not_le fun hle => ?_).symm
    obtain ⟨d, hd, hbeyond⟩ := Unicode.exists_mem_lowerCodePoint hle
    obtain ⟨hlt, hk⟩ := h d (List.mem_flatMap.mpr ⟨c, hc, hd⟩)
    rcases hbeyond with hle | hk'
    · omega
    · exact hk hk'
  · rintro rfl
    refine lower_ascii fun c hc => Nat.lt_of_not_le fun hle => ?_
    have hlt := (h _ (List.mem_map_of_mem hc)).1
    rw [Unicode.asciiLower_of_le hle] at hlt
    omega

theorem strip_eq_nil_iff {t : Text} : t.strip = [] ↔ ∀ c ∈ t, Unicode.isBlank c := by
  obtain ⟨before, after, ht, hbefore, hafter⟩ := exists_stripOf Unicode.isBlank t
  constructor
  · intro h
    rw [ht, show t.stripOf Unicode.isBlank = [] from h, List.append_nil]
    exact List.forall_mem_append.mpr ⟨hbefore, hafter⟩
  · intro h
    have hstrip : (t ++ [] ++ []).strip = [] :=
      stripOf_append h (List.forall_mem_nil _) (List.forall_mem_nil _)
    rwa [List.append_nil, List.append_nil] at hstrip

end Text

namespace Setting

/-- A text of blanks alone names auto, and otherwise a word between blanks names the setting. -/
inductive NamedBy : Setting → Text → Prop
  | blank {t : Text} (h : ∀ c ∈ t, Unicode.isBlank c) : NamedBy .auto t
  | word {setting : Setting} {before word after : Text}
      (hbefore : ∀ c ∈ before, Unicode.isBlank c) (hafter : ∀ c ∈ after, Unicode.isBlank c)
      (hword : word.map CodePoint.asciiLower = setting.name) :
      NamedBy setting (before ++ word ++ after)

theorem name_ascii (setting : Setting) :
    ∀ c ∈ setting.name, c.val < 0x80 ∧ c ≠ CodePoint.ofChar 'k' := by
  rcases setting with _ | (_ | _) <;> decide

theorem name_not_isBlank (setting : Setting) : ∀ c ∈ setting.name, ¬ Unicode.isBlank c := by
  rcases setting with _ | (_ | _) <;> decide

theorem auto_name_eq_iff {setting : Setting} :
    Setting.auto.name = setting.name ↔ setting = .auto := by
  rcases setting with _ | (_ | _) <;> decide

theorem name_ne_nil (setting : Setting) : setting.name ≠ [] := by
  rcases setting with _ | (_ | _) <;> decide

/-- The words that name a setting have no blanks in them. -/
private theorem not_isBlank_of_name {setting : Setting} {word : Text}
    (h : word.map CodePoint.asciiLower = setting.name) : ∀ c ∈ word, ¬ Unicode.isBlank c := by
  intro c hc hblank
  have hmem : c.asciiLower ∈ setting.name := h ▸ List.mem_map_of_mem hc
  rw [Unicode.asciiLower_of_isBlank hblank] at hmem
  exact setting.name_not_isBlank c hmem hblank

theorem ofText?_eq_some_iff_normalize {t : Text} {setting : Setting} :
    ofText? t = some setting ↔ normalize t = setting.name := by
  constructor
  · intro h
    unfold ofText? at h
    have hname := List.find?_some h
    exact (of_decide_eq_true hname).symm
  · intro h
    unfold ofText?
    rw [h]
    rcases setting with _ | (_ | _) <;> rfl

theorem normalize_eq_iff {t : Text} {setting : Setting} :
    normalize t = setting.name ↔
      t.strip = [] ∧ setting = .auto ∨ t.strip.map CodePoint.asciiLower = setting.name := by
  unfold normalize
  cases hlower : t.strip.lower with
  | nil =>
    -- Only the empty text has an empty form, since every code point has one of its own.
    have hstrip : t.strip.map CodePoint.asciiLower = [] :=
      (Text.lower_eq_iff (List.forall_mem_nil _)).mp hlower
    rw [hstrip, List.map_eq_nil_iff.mp hstrip]
    simp [auto_name_eq_iff, setting.name_ne_nil.symm]
  | cons c rest =>
    have hstrip : t.strip ≠ [] := by
      intro h
      rw [h] at hlower
      cases hlower
    simp [← hlower, hstrip, Text.lower_eq_iff setting.name_ascii]

/-- A text gives the setting that it names, if it names one. -/
theorem ofText?_eq_some_iff {t : Text} {setting : Setting} :
    ofText? t = some setting ↔ setting.NamedBy t := by
  rw [ofText?_eq_some_iff_normalize, normalize_eq_iff]
  constructor
  · rintro (⟨hstrip, rfl⟩ | hword)
    · exact .blank (Text.strip_eq_nil_iff.mp hstrip)
    · obtain ⟨before, after, ht, hbefore, hafter⟩ := Text.exists_stripOf Unicode.isBlank t
      rw [ht]
      exact .word hbefore hafter hword
  · rintro (hblank | ⟨hbefore, hafter, hword⟩)
    · exact .inl ⟨Text.strip_eq_nil_iff.mpr hblank, rfl⟩
    · rw [Text.strip, Text.stripOf_append hbefore hafter (not_isBlank_of_name hword)]
      exact .inr hword

end Setting

end Stencil
