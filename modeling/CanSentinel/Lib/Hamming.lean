import Mathlib

/-!
# Hamming distance of lists

Lists of different lengths are compared position by position, and every position that only
one of them has counts as a difference. This is Mathlib's `hammingDist` of the two lists as
functions on a common range of positions, with `none` beyond the end of a list.

- `listDistance`: the differing positions of the common part plus the difference of lengths.
- `hammingDist_padded`: the same number as a Hamming distance, from which the metric laws
  `listDistance_eq_zero_iff`, `listDistance_comm` and `listDistance_triangle` follow.
- `steps`, `le_sum_steps`: along a sequence of values a distance is at most the sum of the
  distances of neighbours.
-/

namespace CanSentinel

universe u v

/-! ## The distance -/

section Distance

variable {α : Type u} [DecidableEq α]

/-- The differing positions of the common part, and those of the longer list alone. -/
def listDistance (xs ys : List α) : ℕ :=
  (xs.zip ys).countP (fun p => p.1 ≠ p.2) +
    (max xs.length ys.length - min xs.length ys.length)

omit [DecidableEq α] in
/-- The entries of a list at the first `n` positions. -/
def padded (n : ℕ) (xs : List α) : Fin n → Option α := fun i => xs[(i : ℕ)]?

theorem listDistance_nil_left (ys : List α) : listDistance [] ys = ys.length := by
  simp [listDistance]

theorem listDistance_nil_right (xs : List α) : listDistance xs [] = xs.length := by
  simp [listDistance]

theorem listDistance_cons (x y : α) (xs ys : List α) :
    listDistance (x :: xs) (y :: ys) = (if x ≠ y then 1 else 0) + listDistance xs ys := by
  rw [listDistance, listDistance, List.zip_cons_cons, List.countP_cons]
  simp only [List.length_cons, decide_eq_true_eq]
  omega

variable {n : ℕ} {xs ys zs : List α}

omit [DecidableEq α] in
/-- No entry is lost when all positions are looked at. -/
theorem padded_inj (hx : xs.length ≤ n) (hy : ys.length ≤ n) :
    padded n xs = padded n ys ↔ xs = ys := by
  constructor
  · intro h
    refine List.ext_getElem? ?_
    intro i
    by_cases hi : i < n
    · exact congrFun h ⟨i, hi⟩
    · rw [List.getElem?_eq_none (by omega), List.getElem?_eq_none (by omega)]
  · rintro rfl
    rfl

/-- The first position and the rest. -/
theorem hammingDist_padded_succ (n : ℕ) (xs ys : List α) :
    hammingDist (padded (n + 1) xs) (padded (n + 1) ys) =
      (if xs.head? ≠ ys.head? then 1 else 0) +
        hammingDist (padded n xs.tail) (padded n ys.tail) := by
  have hhead (zs : List α) : padded (n + 1) zs 0 = zs.head? := List.head?_eq_getElem?.symm
  have htail (zs : List α) (i : Fin n) : padded (n + 1) zs i.succ = padded n zs.tail i :=
    List.getElem?_tail.symm
  rw [hammingDist, hammingDist, Fin.card_filter_univ_succ', hhead, hhead]
  simp only [htail]

/-- **The distance of lists is a Hamming distance.** -/
theorem hammingDist_padded (hx : xs.length ≤ n) (hy : ys.length ≤ n) :
    hammingDist (padded n xs) (padded n ys) = listDistance xs ys := by
  induction n generalizing xs ys with
  | zero =>
    obtain rfl := List.length_eq_zero_iff.mp (Nat.le_zero.mp hx)
    obtain rfl := List.length_eq_zero_iff.mp (Nat.le_zero.mp hy)
    rfl
  | succ n ih =>
    rw [hammingDist_padded_succ, ih (by rw [List.length_tail]; omega)
      (by rw [List.length_tail]; omega)]
    cases xs with
    | nil =>
      cases ys with
      | nil => rfl
      | cons y ys =>
        rw [listDistance_nil_left]
        simp [listDistance_nil_left, Nat.add_comm]
    | cons x xs =>
      cases ys with
      | nil =>
        rw [listDistance_nil_right]
        simp [listDistance_nil_right, Nat.add_comm]
      | cons y ys =>
        rw [listDistance_cons]
        simp

/-! ## The laws of a metric -/

theorem listDistance_eq_zero_iff : listDistance xs ys = 0 ↔ xs = ys := by
  have hx : xs.length ≤ max xs.length ys.length := le_max_left _ _
  have hy : ys.length ≤ max xs.length ys.length := le_max_right _ _
  rw [← hammingDist_padded hx hy, hammingDist_eq_zero, padded_inj hx hy]

theorem listDistance_comm (xs ys : List α) : listDistance xs ys = listDistance ys xs := by
  have hx : xs.length ≤ max xs.length ys.length := le_max_left _ _
  have hy : ys.length ≤ max xs.length ys.length := le_max_right _ _
  rw [← hammingDist_padded hx hy, ← hammingDist_padded hy hx, hammingDist_comm]

/-- **The triangle inequality**, whatever the order of the lengths. -/
theorem listDistance_triangle (xs ys zs : List α) :
    listDistance xs zs ≤ listDistance xs ys + listDistance ys zs := by
  obtain ⟨n, hx, hy, hz⟩ : ∃ n, xs.length ≤ n ∧ ys.length ≤ n ∧ zs.length ≤ n :=
    ⟨xs.length + ys.length + zs.length, by omega, by omega, by omega⟩
  rw [← hammingDist_padded hx hz, ← hammingDist_padded hx hy, ← hammingDist_padded hy hz]
  exact hammingDist_triangle _ _ _

/-- No more positions differ than the longer list has. -/
theorem listDistance_le_max (xs ys : List α) :
    listDistance xs ys ≤ max xs.length ys.length := by
  rw [← hammingDist_padded (le_max_left _ _) (le_max_right _ _)]
  exact hammingDist_le_card_fintype.trans_eq (Fintype.card_fin _)

/-- The positions of the longer list alone differ. -/
theorem max_sub_min_le_listDistance (xs ys : List α) :
    max xs.length ys.length - min xs.length ys.length ≤ listDistance xs ys :=
  Nat.le_add_left _ _

end Distance

/-! ## Neighbours -/

section Steps

variable {V : Type u} {M : Type v} [AddCommMonoid M] [PartialOrder M] [IsOrderedAddMonoid M]

/-- The distances of the values of a sequence from the ones before them. -/
def steps (d : V → V → M) : V → List V → List M
  | _, [] => []
  | v, w :: ws => d w v :: steps d w ws

/-- **A distance is at most the sum of the steps.** -/
theorem le_sum_steps {d : V → V → M} (htriangle : ∀ u v w, d u w ≤ d u v + d v w) (v : V)
    (ws : List V) (w : V) : d w v ≤ (steps d v (ws ++ [w])).sum := by
  induction ws generalizing v with
  | nil => exact (add_zero (d w v)).ge
  | cons x ws ih =>
    rw [List.cons_append, steps, List.sum_cons, add_comm]
    calc d w v ≤ d w x + d x v := htriangle w x v
      _ ≤ (steps d x (ws ++ [w])).sum + d x v := add_le_add_left (ih x) _

end Steps

end CanSentinel
