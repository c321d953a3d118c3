import Mathlib

/-!
# Stable sorting

A stable sort does not reorder what its keys do not tell apart.

- `mergeSort_append_of_le`: a sorted beginning that nothing after it is below stays in front.
- `filter_mergeSort`: a part of the list that was sorted before is found in the same order.
-/

namespace CanSentinel

universe u

variable {α : Type u} {le : α → α → Bool}

theorem mergeSort_append_of_le (htrans : ∀ a b c, le a b → le b c → le a c)
    (htotal : ∀ a b, le a b || le b a) {xs ys : List α} (hxs : xs.Pairwise fun a b => le a b)
    (hle : ∀ a ∈ xs, ∀ b ∈ ys, le a b) : (xs ++ ys).mergeSort le = xs ++ ys.mergeSort le := by
  induction xs with
  | nil => rfl
  | cons x xs ih =>
    rw [List.pairwise_cons] at hxs
    rw [List.forall_mem_cons] at hle
    obtain ⟨front, back, hcons, hrest, hfront⟩ := List.mergeSort_cons htrans htotal x (xs ++ ys)
    -- what is in front of `x` would be below it
    have hnil : front = [] := by
      rw [List.eq_nil_iff_forall_not_mem]
      intro b hb
      have hmem : b ∈ xs ++ ys := by
        rw [← (List.mergeSort_perm (xs ++ ys) le).mem_iff, hrest]
        exact List.mem_append_left _ hb
      have hbelow : le x b := by
        rcases List.mem_append.mp hmem with hmem | hmem
        · exact hxs.1 b hmem
        · exact hle.1 b hmem
      simpa [hbelow] using hfront b hb
    subst hnil
    rw [List.nil_append] at hcons hrest
    rw [List.cons_append, hcons, ← hrest, ih hxs.2 hle.2, List.cons_append]

theorem filter_mergeSort (htrans : ∀ a b c, le a b → le b c → le a c)
    (htotal : ∀ a b, le a b || le b a) {xs : List α} {p : α → Bool}
    (hp : (xs.filter p).Pairwise fun a b => le a b) :
    (xs.mergeSort le).filter p = xs.filter p := by
  have hsub := (List.sublist_mergeSort htrans htotal hp List.filter_sublist).filter p
  rw [List.filter_filter] at hsub
  simp only [Bool.and_self] at hsub
  exact (hsub.eq_of_length ((List.mergeSort_perm xs le).filter p).length_eq.symm).symm

end CanSentinel
