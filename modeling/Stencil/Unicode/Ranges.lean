import Stencil.Text

/-!
Sets of code points given by the ranges they cover.
-/

namespace Stencil.Unicode

/-- Closed ranges in increasing order, with a gap between neighbours. -/
abbrev Ranges := List (Nat × Nat)

namespace Ranges

def contains (r : Ranges) (n : Nat) : Bool :=
  r.any fun (lo, hi) => lo ≤ n && n ≤ hi

theorem contains_iff {r : Ranges} {n : Nat} :
    r.contains n = true ↔ ∃ p ∈ r, p.1 ≤ n ∧ n ≤ p.2 := by
  simp [contains]

def within : Ranges → Ranges → Bool
  | [], _ => true
  | (lo, hi) :: inner, outer =>
    match outer.dropWhile fun q => q.2 < lo with
    | [] => false
    | q :: outer => q.1 ≤ lo && hi ≤ q.2 && within inner (q :: outer)

theorem contains_of_within {inner outer : Ranges} (h : inner.within outer) {n : Nat}
    (hn : inner.contains n) : outer.contains n := by
  obtain ⟨⟨lo, hi⟩, hmem, hlo, hhi⟩ := contains_iff.mp hn
  clear hn
  induction inner generalizing outer with
  | nil => cases hmem
  | cons p inner ih =>
    unfold within at h
    have hsub : ∀ {q rest}, outer.dropWhile (fun r => r.2 < p.1) = q :: rest →
        ∀ r ∈ q :: rest, r ∈ outer := fun hdrop r hr =>
      (List.dropWhile_suffix _).subset (hdrop ▸ hr)
    split at h
    · cases h
    · rename_i q rest hdrop
      simp only [Bool.and_eq_true, decide_eq_true_eq] at h
      rcases List.mem_cons.mp hmem with rfl | hmem
      · have hq := hsub hdrop q List.mem_cons_self
        exact contains_iff.mpr ⟨q, hq, by omega, by omega⟩
      · obtain ⟨r, hr, hn⟩ := contains_iff.mp (ih h.2 hmem)
        exact contains_iff.mpr ⟨r, hsub hdrop r hr, hn⟩

end Ranges
end Stencil.Unicode
