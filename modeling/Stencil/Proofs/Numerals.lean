import Mathlib.Algebra.Group.Nat.Defs
import Stencil.Program.KeyReader

/-!
Numerals are read back. A decimal numeral has no leading zero, so that it is the only one of its
number, and a sign before it is told from its digits. The texts that are read as positions are the
numerals that are short enough.
-/

namespace Stencil.Numeral

private theorem decimal_of_lt {n : Nat} (h : n < 10) :
    decimal n = [CodePoint.ofChar (Nat.digitChar n)] := by
  unfold decimal
  rw [Nat.toDigits_of_lt_base h]
  rfl

/-- The last digit of a numeral stands behind the numeral of the rest. -/
private theorem decimal_of_le {n : Nat} (h : 10 ≤ n) :
    decimal n = decimal (n / 10) ++ [CodePoint.ofChar (Nat.digitChar (n % 10))] := by
  unfold decimal
  rw [Nat.toDigits_of_base_le (by decide) h]
  exact List.map_append

private theorem digit?_digitChar {d : Nat} (h : d < 10) :
    digit? (CodePoint.ofChar (Nat.digitChar d)) = some d := by
  have hdigit : ∀ d < 10, digit? (CodePoint.ofChar (Nat.digitChar d)) = some d := by decide
  exact hdigit d h

theorem decimal_ne_nil (n : Nat) : decimal n ≠ [] :=
  fun h => Nat.toDigits_ne_nil (List.map_eq_nil_iff.mp h)

theorem ofDigits?_eq_foldlM {t : Text} (h : t ≠ []) :
    ofDigits? t = t.foldlM (fun n c => (digit? c).map (10 * n + ·)) 0 := by
  cases t with
  | nil => exact absurd rfl h
  | cons c t => rfl

private theorem ofDigits?_append_digit {t : Text} (h : t ≠ []) {n d : Nat}
    (ht : ofDigits? t = some n) (hd : d < 10) :
    ofDigits? (t ++ [CodePoint.ofChar (Nat.digitChar d)]) = some (10 * n + d) := by
  rw [ofDigits?_eq_foldlM h] at ht
  rw [ofDigits?_eq_foldlM (List.append_ne_nil_of_left_ne_nil h _), List.foldlM_append, ht]
  simp only [Option.bind_eq_bind, Option.bind_some, List.foldlM_cons, List.foldlM_nil,
    digit?_digitChar hd, Option.map_some, Option.pure_def]

@[simp] theorem ofDigits?_decimal (n : Nat) : ofDigits? (decimal n) = some n := by
  induction n using Nat.strongRecOn with
  | ind n ih =>
    by_cases h : n < 10
    · rw [decimal_of_lt h]
      simp [ofDigits?, digit?_digitChar h]
    · -- Digits are read from the front and written from the back.
      have hrest := ih (n / 10) (by omega)
      have hlast : n % 10 < 10 := Nat.mod_lt n (by decide)
      rw [decimal_of_le (by omega), ofDigits?_append_digit (decimal_ne_nil _) hrest hlast]
      have hn : 10 * (n / 10) + n % 10 = n := Nat.div_add_mod n 10
      rw [hn]

/-- Only the numeral of zero starts with a zero. -/
private theorem eq_zero_of_decimal {n : Nat} {rest : Text}
    (h : decimal n = CodePoint.ofChar '0' :: rest) : n = 0 := by
  induction n using Nat.strongRecOn generalizing rest with
  | ind n ih =>
    by_cases hn : n < 10
    · have hdigit : ∀ d < 10,
          CodePoint.ofChar (Nat.digitChar d) = CodePoint.ofChar '0' → d = 0 := by
        decide
      rw [decimal_of_lt hn] at h
      exact hdigit n hn (List.cons.inj h).1
    · rw [decimal_of_le (by omega)] at h
      obtain ⟨c, t, ht⟩ := List.exists_cons_of_ne_nil (decimal_ne_nil (n / 10))
      rw [ht, List.cons_append] at h
      rw [(List.cons.inj h).1] at ht
      have hzero := ih (n / 10) (by omega) ht
      omega

/-- No numeral of more than one digit starts with a zero. -/
theorem not_zero_led {n : Nat} {c : CodePoint} {rest : Text} (h : decimal n = c :: rest) :
    ¬ (c = CodePoint.ofChar '0' ∧ rest ≠ []) := by
  rintro ⟨rfl, hrest⟩
  have hzero := eq_zero_of_decimal h
  rw [hzero] at h
  exact hrest (List.cons.inj h).2.symm

@[simp] theorem decimal?_decimal (n : Nat) : decimal? (decimal n) = some n := by
  obtain ⟨c, t, ht⟩ := List.exists_cons_of_ne_nil (decimal_ne_nil n)
  have hlead := not_zero_led ht
  have hread := ofDigits?_decimal n
  rw [ht] at hread ⊢
  unfold decimal?
  dsimp only
  rw [if_neg hlead, hread]

/-- The digits of a numeral are ASCII digits. -/
theorem val_of_mem_decimal {n : Nat} {c : CodePoint} (h : c ∈ decimal n) :
    48 ≤ c.val ∧ c.val ≤ 57 := by
  obtain ⟨d, hd, rfl⟩ := List.mem_map.mp h
  have hdigit : d.isDigit = true := Nat.isDigit_of_mem_toDigits (by decide) (by decide) hd
  simp only [Char.isDigit, Bool.and_eq_true, decide_eq_true_eq, ge_iff_le,
    UInt32.le_iff_toNat_le] at hdigit
  exact hdigit

@[simp] theorem signed?_signed (n : Int) : signed? (signed n) = some n := by
  by_cases hn : n < 0
  · unfold signed
    rw [if_pos hn]
    unfold signed?
    dsimp only
    rw [if_pos rfl, decimal?_decimal]
    change some (-(n.natAbs : Int)) = some n
    rw [Int.ofNat_natAbs_of_nonpos (Int.le_of_lt hn), Int.neg_neg]
  · unfold signed
    rw [if_neg hn]
    have hread := decimal?_decimal n.natAbs
    obtain ⟨c, t, ht⟩ := List.exists_cons_of_ne_nil (decimal_ne_nil n.natAbs)
    have hsign : c ≠ CodePoint.ofChar '-' := by
      rintro rfl
      have hval := val_of_mem_decimal (ht ▸ List.mem_cons_self)
      exact absurd hval.1 (by decide)
    rw [ht] at hread ⊢
    unfold signed?
    dsimp only
    rw [if_neg hsign, hread]
    change some (n.natAbs : Int) = some n
    rw [Int.natAbs_of_nonneg (Int.not_lt.mp hn)]

private theorem digit?_eq_some {c : CodePoint} {d : Nat} (h : digit? c = some d) :
    d < 10 ∧ c = CodePoint.ofChar (Nat.digitChar d) := by
  unfold digit? at h
  split at h
  · have hd : c.val - 48 = d := Option.some.inj h
    have hlt : d < 10 := by omega
    have hval : ∀ d < 10, (CodePoint.ofChar (Nat.digitChar d)).val = 48 + d := by decide
    refine ⟨hlt, CodePoint.ext ?_⟩
    rw [hval d hlt]
    omega
  · cases h

/-- Digits read on behind a positive number stand behind its numeral. -/
private theorem decimal_append_digits {t : Text} {m n : Nat} (hm : 0 < m)
    (h : t.foldlM (fun n c => (digit? c).map (10 * n + ·)) m = some n) :
    decimal m ++ t = decimal n := by
  induction t generalizing m with
  | nil =>
    have hn : m = n := Option.some.inj h
    simp [hn]
  | cons c t ih =>
    cases hc : digit? c with
    | none => simp [hc] at h
    | some d =>
      obtain ⟨hd, rfl⟩ := digit?_eq_some hc
      have hrest : t.foldlM (fun n c => (digit? c).map (10 * n + ·)) (10 * m + d) = some n := by
        simpa [hc] using h
      -- The digit is the last one of a numeral of at least two.
      have hnext := ih (by omega) hrest
      have hdiv : (10 * m + d) / 10 = m := by omega
      have hmod : (10 * m + d) % 10 = d := by omega
      rw [decimal_of_le (by omega), hdiv, hmod] at hnext
      simpa using hnext

theorem decimal_injective {m n : Nat} (h : decimal m = decimal n) : m = n := by
  have hm := ofDigits?_decimal m
  rw [h, ofDigits?_decimal n] at hm
  exact (Option.some.inj hm).symm

theorem length_decimal_le_iff {n k : Nat} (hk : 0 < k) :
    (decimal n).length ≤ k ↔ n < 10 ^ k := by
  have hlength : (decimal n).length = (Nat.toDigits 10 n).length := List.length_map _
  rw [hlength]
  exact Nat.length_toDigits_le_iff (by decide) hk

/-- Digits that are read without a leading zero are the numeral of the number. -/
theorem eq_decimal_of_ofDigits? {c : CodePoint} {t : Text} {n : Nat}
    (hlead : ¬ (c = CodePoint.ofChar '0' ∧ t ≠ [])) (h : ofDigits? (c :: t) = some n) :
    c :: t = decimal n := by
  unfold ofDigits? at h
  dsimp only at h
  cases hc : digit? c with
  | none => simp [hc] at h
  | some d =>
    obtain ⟨hd, rfl⟩ := digit?_eq_some hc
    have hrest : t.foldlM (fun n c => (digit? c).map (10 * n + ·)) d = some n := by
      simpa [hc] using h
    by_cases hzero : d = 0
    · subst hzero
      have ht : t = [] := Decidable.byContradiction fun hne => hlead ⟨rfl, hne⟩
      subst ht
      have hn : 0 = n := Option.some.inj hrest
      rw [← hn]
      rfl
    · have hread := decimal_append_digits (by omega) hrest
      rw [decimal_of_lt hd] at hread
      exact hread

/-- The texts that are read as positions are the numerals that are short enough. -/
theorem position?_eq_some_iff {t : Text} {n : Nat} :
    position? t = some n ↔ t = decimal n ∧ n < 10 ^ positionDigits := by
  rw [← length_decimal_le_iff (by decide)]
  constructor
  · intro h
    unfold position? at h
    cases t with
    | nil => cases h
    | cons c t =>
      dsimp only at h
      by_cases hlead : c = CodePoint.ofChar '0' ∧ t ≠ []
      · rw [if_pos hlead] at h
        cases h
      · by_cases hlong : positionDigits < (c :: t).length
        · rw [if_neg hlead, if_pos hlong] at h
          cases h
        · rw [if_neg hlead, if_neg hlong] at h
          have hread := eq_decimal_of_ofDigits? hlead h
          rw [← hread]
          exact ⟨rfl, by omega⟩
  · rintro ⟨rfl, hshort⟩
    obtain ⟨c, t, ht⟩ := List.exists_cons_of_ne_nil (decimal_ne_nil n)
    have hlead := not_zero_led ht
    have hread := ofDigits?_decimal n
    rw [ht] at hread hshort ⊢
    unfold position?
    dsimp only
    rw [if_neg hlead, if_neg (by omega), hread]

end Stencil.Numeral
