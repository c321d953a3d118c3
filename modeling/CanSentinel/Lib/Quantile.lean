import Mathlib

/-!
# Quantiles

The linearly interpolated order statistic of a list at a position `h` between `0` and
`n - 1`: the value at the position, when it is a whole number, and otherwise a point
between the two values next to it.

- `quantileAt`: the interpolated value, and `percentileLinear`, where the position is a
  percentage of `n - 1`.
- `countP_lt_of_le`, `le_countP_lt`: in a sorted list the entries below a threshold
  form a prefix, so their number is read off the entries next to it.
- `countP_quantileAt_le`, `countP_quantileAt_of_nodup`: at most `⌈h⌉` entries are below the
  quantile, and exactly so many if no two are equal.
-/

namespace CanSentinel

/-! ## Sorted lists -/

section Sorted

variable {R : Type} [LinearOrder R] {s : List R} {t : R} {k : ℕ}

/-- Nothing from position `k` on is below a threshold that the entry there reaches. -/
theorem countP_lt_of_le (hsorted : s.Pairwise (· ≤ ·)) (hk : k < s.length) (ht : t ≤ s[k]) :
    (s.countP fun x => x < t) ≤ k := by
  have hdrop : ((s.drop k).countP fun x => x < t) = 0 := by
    rw [List.countP_eq_zero]
    intro x hx
    have hle : s[k] ≤ x := by
      have hpair := hsorted.drop (i := k)
      rw [List.drop_eq_getElem_cons hk] at hpair hx
      obtain rfl | hx := List.mem_cons.mp hx
      · exact le_rfl
      · exact (List.pairwise_cons.mp hpair).1 x hx
    simpa using ht.trans hle
  calc (s.countP fun x => x < t)
      = ((s.take k).countP fun x => x < t) + ((s.drop k).countP fun x => x < t) := by
        rw [← List.countP_append, List.take_append_drop]
    _ ≤ (s.take k).length + 0 := by rw [hdrop]; exact Nat.add_le_add_right List.countP_le_length 0
    _ ≤ k := by rw [List.length_take]; omega

/-- Everything before position `k` is below. -/
theorem le_countP_lt (hk : k ≤ s.length) (hlt : ∀ x ∈ s.take k, x < t) :
    k ≤ s.countP fun x => x < t := by
  have htake : ((s.take k).countP fun x => x < t) = k := by
    rw [List.countP_eq_length.mpr fun x hx => by simpa using hlt x hx, List.length_take]
    omega
  calc k = (s.take k).countP fun x => x < t := htake.symm
    _ ≤ s.countP fun x => x < t := (List.take_sublist k s).countP_le

end Sorted

/-! ## The interpolated order statistic -/

section Quantile

variable {R : Type} [Field R] [LinearOrder R] [IsStrictOrderedRing R] [FloorRing R]

/-- The value at the position `h` of a sorted list. -/
def interpolate (s : List R) (h : R) : R :=
  let lo := ⌊h⌋₊
  let hi := min (lo + 1) (s.length - 1)
  s.getD lo 0 + (s.getD hi 0 - s.getD lo 0) * (h - lo)

/-- The value at the position `h` of a list. -/
def quantileAt (xs : List R) (h : R) : R := interpolate (xs.mergeSort fun x y => x ≤ y) h

/-- The `q`-th percentile. -/
def percentileLinear (xs : List R) (q : R) : R :=
  quantileAt xs (q / 100.0 * ((xs.length - 1 : ℕ) : R))

variable {s : List R} {h : R}

/-- A whole position holds its entry; otherwise the value is on the way from the entry
before it to the entry after it. -/
theorem interpolate_cases (h0 : 0 ≤ h) (hk : ⌈h⌉₊ < s.length) :
    interpolate s h = s[⌈h⌉₊] ∨ ∃ lo, ∃ hlo : lo < s.length, lo + 1 = ⌈h⌉₊ ∧
      ∃ γ : R, 0 < γ ∧ γ < 1 ∧ interpolate s h = s[lo] + (s[⌈h⌉₊] - s[lo]) * γ := by
  have hfloor : (⌊h⌋₊ : R) ≤ h := Nat.floor_le h0
  obtain hwhole | hpart := hfloor.eq_or_lt
  · have hceil : ⌈h⌉₊ = ⌊h⌋₊ := by
      conv_lhs => rw [← hwhole, Nat.ceil_natCast]
    refine .inl ?_
    rw [interpolate, hwhole, sub_self, mul_zero, add_zero, ← hceil, List.getD_eq_getElem _ _ hk]
  · have hlt : h < ⌊h⌋₊ + 1 := Nat.lt_floor_add_one h
    have hceil : ⌊h⌋₊ + 1 = ⌈h⌉₊ := by
      refine ((Nat.ceil_eq_iff (Nat.succ_ne_zero _)).mpr ⟨hpart, ?_⟩).symm
      push_cast
      exact hlt.le
    have hlo : ⌊h⌋₊ < s.length := by omega
    have hhi : min (⌊h⌋₊ + 1) (s.length - 1) = ⌈h⌉₊ := by omega
    refine .inr ⟨⌊h⌋₊, hlo, hceil, h - ⌊h⌋₊, sub_pos.mpr hpart, by linarith, ?_⟩
    rw [interpolate, hhi, List.getD_eq_getElem _ _ hlo, List.getD_eq_getElem _ _ hk]

theorem interpolate_le (hsorted : s.Pairwise (· ≤ ·)) (h0 : 0 ≤ h) (hk : ⌈h⌉₊ < s.length) :
    interpolate s h ≤ s[⌈h⌉₊] := by
  obtain heq | ⟨lo, hlo, hceil, γ, h0γ, hγ1, heq⟩ := interpolate_cases h0 hk
  · exact heq.le
  · have hle : s[lo] ≤ s[⌈h⌉₊] := List.pairwise_iff_getElem.mp hsorted lo _ hlo hk (by omega)
    have hscaled := mul_le_mul_of_nonneg_left hγ1.le (sub_nonneg.mpr hle)
    rw [heq]
    linarith

/-- If no two entries are equal, those before the position are below the value. -/
theorem lt_interpolate (hsorted : s.Pairwise (· < ·)) (h0 : 0 ≤ h) (hk : ⌈h⌉₊ < s.length) :
    ∀ x ∈ s.take ⌈h⌉₊, x < interpolate s h := by
  intro x hx
  obtain ⟨i, hi, rfl⟩ := List.mem_iff_getElem.mp hx
  rw [List.length_take, lt_min_iff] at hi
  rw [List.getElem_take]
  obtain heq | ⟨lo, hlo, hceil, γ, h0γ, hγ1, heq⟩ := interpolate_cases h0 hk
  · rw [heq]
    exact List.pairwise_iff_getElem.mp hsorted i _ hi.2 hk hi.1
  · have hlt : s[lo] < s[⌈h⌉₊] := List.pairwise_iff_getElem.mp hsorted lo _ hlo hk (by omega)
    have hle : s[i] ≤ s[lo] := by
      obtain rfl | hne := Nat.eq_or_lt_of_le (show i ≤ lo by omega)
      · exact le_rfl
      · exact (List.pairwise_iff_getElem.mp hsorted i lo hi.2 hlo hne).le
    have hstep := mul_pos (sub_pos.mpr hlt) h0γ
    rw [heq]
    linarith

/-- **The entries below a quantile**, counted. -/
theorem countP_quantileAt_le {xs : List R} (h0 : 0 ≤ h) (hk : ⌈h⌉₊ < xs.length) :
    (xs.countP fun x => x < quantileAt xs h) ≤ ⌈h⌉₊ := by
  have hperm := List.mergeSort_perm xs fun x y => x ≤ y
  have hsorted := List.pairwise_mergeSort' (r := (· ≤ ·)) xs
  have hk' : ⌈h⌉₊ < (xs.mergeSort fun x y => x ≤ y).length := by
    rwa [List.length_mergeSort]
  rw [← hperm.countP_eq]
  exact countP_lt_of_le hsorted hk' (interpolate_le hsorted h0 hk')

theorem countP_quantileAt_of_nodup {xs : List R} (hnodup : xs.Nodup) (h0 : 0 ≤ h)
    (hk : ⌈h⌉₊ < xs.length) : (xs.countP fun x => x < quantileAt xs h) = ⌈h⌉₊ := by
  refine le_antisymm (countP_quantileAt_le h0 hk) ?_
  have hperm := List.mergeSort_perm xs fun x y => x ≤ y
  have hsorted := List.pairwise_mergeSort' (r := (· ≤ ·)) xs
  have hstrict : (xs.mergeSort fun x y => x ≤ y).Pairwise (· < ·) :=
    (hsorted.and (hperm.nodup_iff.mpr hnodup)).imp fun hle => lt_of_le_of_ne hle.1 hle.2
  have hk' : ⌈h⌉₊ < (xs.mergeSort fun x y => x ≤ y).length := by
    rwa [List.length_mergeSort]
  rw [← hperm.countP_eq]
  exact le_countP_lt hk'.le (lt_interpolate hstrict h0 hk')

omit [IsStrictOrderedRing R] in
/-- A fraction `c` of the way through a list of `n` entries. -/
theorem percentileLinear_mul_hundred (xs : List R) (c : R) :
    percentileLinear xs (c * 100.0) = quantileAt xs (c * ((xs.length - 1 : ℕ) : R)) := by
  have hhundred : (100.0 : R) ≠ 0 := by norm_num
  rw [percentileLinear, mul_div_cancel_right₀ _ hhundred]

end Quantile

end CanSentinel
