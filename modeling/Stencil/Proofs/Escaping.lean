import Mathlib.Tactic.Ring
import Stencil.Text.Quoted
import Stencil.Text.Unescape

/-!
Escapes are read back. Every escape that is written is a backslash and what spells the code point,
so that a reader which is told of a backslash knows where the escape ends.
-/

namespace Stencil.Escape

/-- A text is what is left to read of an escape, and the escape stands for a code point. -/
inductive Spells : Pending → Text → CodePoint → Prop
  | last {p d c} : p.step? d = some (.done c) → Spells p [d] c
  | more {p q d t c} : p.step? d = some (.more q) → Spells q t c → Spells p (d :: t) c

theorem hexValue?_hexDigit (n : Nat) : hexValue? (Numeral.hexDigit n) = some (n % 16) := by
  have hdigit : ∀ d < 16, hexValue? (CodePoint.ofChar (Nat.digitChar d)) = some d := by decide
  exact hdigit (n % 16) (Nat.mod_lt n (by decide))

private theorem step?_hexDigit (remaining value n : Nat) :
    (Pending.digits (remaining + 2) value).step? (Numeral.hexDigit n) =
      some (.more (.digits (remaining + 1) (16 * value + n % 16))) := by
  simp only [Pending.step?, hexValue?_hexDigit]
  rfl

private theorem step?_lastDigit {value n : Nat} {c : CodePoint} (h : 16 * value + n % 16 = c.val) :
    (Pending.digits 1 value).step? (Numeral.hexDigit n) = some (.done c) := by
  have hc : CodePoint.ofNat? c.val = some c := dif_pos c.val_lt
  rw [← h] at hc
  simp only [Pending.step?, hexValue?_hexDigit]
  change (CodePoint.ofNat? (16 * value + n % 16) >>= fun c => some (Progress.done c)) = _
  rw [hc]
  rfl

/-- Digits that leave some to read are added to the value. -/
private theorem spells_hex_append {width remaining value n : Nat} {t : Text} {c : CodePoint}
    (h : Spells (.digits (remaining + 1) (16 ^ width * value + n % 16 ^ width)) t c) :
    Spells (.digits (width + (remaining + 1)) value) (Numeral.hex width n ++ t) c := by
  induction width generalizing remaining n t with
  | zero => simpa [Numeral.hex, Nat.mod_one] using h
  | succ width ih =>
    have hdigit : Spells (.digits (remaining + 2) (16 ^ width * value + n / 16 % 16 ^ width))
        (Numeral.hexDigit n :: t) c := by
      have hvalue : 16 * (16 ^ width * value + n / 16 % 16 ^ width) + n % 16 =
          16 ^ (width + 1) * value + n % 16 ^ (width + 1) := by
        rw [pow_succ' 16 width, Nat.mod_mul]
        ring
      refine .more (step?_hexDigit _ _ _) ?_
      rwa [hvalue]
    have hrest := ih (n := n / 16) hdigit
    simp only [Numeral.hex, List.append_assoc, List.singleton_append]
    rwa [show width + 1 + (remaining + 1) = width + (remaining + 1 + 1) by omega]

private theorem spells_hex {width : Nat} (c : CodePoint) (hc : c.val < 16 ^ (width + 1)) :
    Spells (.digits (width + 1) 0) (Numeral.hex (width + 1) c.val) c := by
  change Spells (.digits (width + (0 + 1)) 0)
    (Numeral.hex width (c.val / 16) ++ [Numeral.hexDigit c.val]) c
  refine spells_hex_append (.last (step?_lastDigit ?_))
  have hd : c.val / 16 < 16 ^ width := by
    rw [pow_succ] at hc
    omega
  rw [Nat.mod_eq_of_lt hd]
  omega

/-- An escape of a code point: printable, a backslash first, and then what spells it. -/
structure Writes (e : Text) (c : CodePoint) : Prop where
  spelled : ∃ t, e = Quoted.backslash :: t ∧ Spells .start t c
  printable : ∀ d ∈ e, Unicode.isPrintable d

/-- A backslash and another code point that stands for a third. -/
theorem Writes.pair {d c : CodePoint} (h : first? d = some (.done c))
    (hd : Unicode.isPrintable d) : Writes [Quoted.backslash, d] c := by
  refine ⟨⟨[d], rfl, .last h⟩, fun b hb => ?_⟩
  rcases List.mem_cons.mp hb with rfl | hb
  · decide
  · rwa [List.mem_singleton.mp hb]

private theorem isPrintable_of_mem_hex {width n : Nat} {d : CodePoint}
    (h : d ∈ Numeral.hex width n) : Unicode.isPrintable d := by
  have hdigit : ∀ k < 16, Unicode.isPrintable (CodePoint.ofChar (Nat.digitChar k)) := by decide
  induction width generalizing n with
  | zero => cases h
  | succ width ih =>
    rcases List.mem_append.mp h with h | h
    · exact ih h
    · rw [List.mem_singleton.mp h]
      exact hdigit _ (Nat.mod_lt n (by decide))

/-- A backslash, a letter and the digits of the number that the letter announces. -/
theorem Writes.hex {letter : CodePoint} {width : Nat} (c : CodePoint)
    (hl : first? letter = some (.more (.digits (width + 1) 0)))
    (hp : Unicode.isPrintable letter) (hc : c.val < 16 ^ (width + 1)) :
    Writes ([Quoted.backslash, letter] ++ Numeral.hex (width + 1) c.val) c := by
  have hspells := spells_hex c hc
  refine ⟨⟨letter :: Numeral.hex (width + 1) c.val, rfl, .more hl hspells⟩, fun b hb => ?_⟩
  rcases List.mem_append.mp hb with hb | hb
  · rcases List.mem_cons.mp hb with rfl | hb
    · decide
    · rwa [List.mem_singleton.mp hb]
  · exact isPrintable_of_mem_hex hb

theorem numeric_writes (c : CodePoint) : Writes (numeric c) c := by
  have hc := c.val_lt
  unfold numeric
  split_ifs with h2 h4
  · exact .hex c (by decide) (by decide) h2
  · exact .hex c (by decide) (by decide) h4
  · have h8 : c.val < 16 ^ (7 + 1) := by omega
    exact .hex c (by decide) (by decide) h8

theorem control?_writes {c : CodePoint} {e : Text} (h : control? c = some e) : Writes e c := by
  unfold control? at h
  split_ifs at h with hn hr ht <;> cases h
  · exact .pair (by rw [hn]; decide) (by decide)
  · exact .pair (by rw [hr]; decide) (by decide)
  · exact .pair (by rw [ht]; decide) (by decide)

/-- A code point that ends a line has an escape of its own. -/
theorem endsLine_eq_false {c : CodePoint} (h : control? c = none) : endsLine c = false := by
  unfold control? at h
  split_ifs at h with hn hr
  simp [endsLine, hn, hr]

end Stencil.Escape
