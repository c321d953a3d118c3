import CanSentinel.Lib.Python

/-!
# Shannon entropy of a byte string

The routine

    counts = Counter(data); total = len(data)
    for count in counts.values(): p = count / total; entropy -= p * log2(p)

over any symbols and any number type: the entropy is one symbolic function of
the symbol counts.

- `shannonEntropy_eq`: over the reals, with `n` symbols of which the `i`-th occurs
  `mᵢ` times, it is `log₂ n - (1/n) * Σ mᵢ * log₂ mᵢ`.
- `shannonEntropy_of_nodup`: `log₂ n` when all symbols differ, and
  `shannonEntropy_le_of_not_nodup`: at most `log₂ n - 2/n` otherwise.
-/

namespace CanSentinel

variable {α R : Type} [DecidableEq α] [PyFloat R]

/-- The counts of a `collections.Counter`, in order of first occurrence. -/
def counterValues (data : List α) : List ℕ := data.reverse.dedup.reverse.map data.count

/-- Shannon entropy, `H(X) = - sum(P(x) * log2(P(x)))`; `0.0` of no data. -/
def shannonEntropy (data : List α) : R :=
  if data = [] then 0
  else (counterValues data).foldl (fun entropy count =>
    let p : R := (count : R) / (data.length : R)
    entropy - p * PyFloat.log2 p) 0

/-! ## Counts -/

theorem mem_counterValues (data : List α) {m : ℕ} :
    m ∈ counterValues data ↔ ∃ a ∈ data, data.count a = m := by
  simp [counterValues]

/-- The counts add up to the length. -/
theorem sum_counterValues (data : List α) : (counterValues data).sum = data.length := by
  have hperm : (data.reverse.dedup.reverse.map data.count).Perm
      (data.reverse.dedup.map data.reverse.count) := by
    have hcount : data.reverse.count = data.count := by
      funext a
      exact List.count_reverse
    rw [hcount]
    exact (List.reverse_perm _).map _
  rw [counterValues, hperm.sum_eq, List.sum_map_count_dedup_eq_length, List.length_reverse]

theorem counterValues_pos {data : List α} {m : ℕ} (hm : m ∈ counterValues data) : 0 < m := by
  obtain ⟨a, ha, rfl⟩ := (mem_counterValues data).mp hm
  exact List.count_pos_iff.mpr ha

/-- All symbols differ exactly when no count exceeds one. -/
theorem nodup_iff_counterValues (data : List α) :
    data.Nodup ↔ ∀ m ∈ counterValues data, m = 1 := by
  rw [List.nodup_iff_count_eq_one]
  constructor
  · intro hcount m hm
    obtain ⟨a, ha, rfl⟩ := (mem_counterValues data).mp hm
    exact hcount a ha
  · intro hones a ha
    exact hones _ ((mem_counterValues data).mpr ⟨a, ha, rfl⟩)

/-! ## The real-valued entropy -/

section Real

omit [PyFloat R]

theorem foldl_sub_eq {ι : Type} (f : ι → ℝ) (xs : List ι) (init : ℝ) :
    xs.foldl (fun acc x => acc - f x) init = init - (xs.map f).sum := by
  induction xs generalizing init with
  | nil => simp
  | cons x xs ih =>
    rw [List.foldl_cons, ih, List.map_cons, List.sum_cons]
    ring

/-- The weight `m * log₂ m` of a symbol that occurs `m` times. -/
noncomputable def countLog (m : ℕ) : ℝ := (m : ℝ) * PyFloat.log2 (m : ℝ)

theorem countLog_eq (m : ℕ) : countLog m = (m : ℝ) * Real.logb 2 (m : ℝ) := rfl

theorem countLog_nonneg (m : ℕ) : 0 ≤ countLog m := by
  cases m with
  | zero => simp [countLog_eq]
  | succ m =>
    have hlog : 0 ≤ Real.logb 2 ((m + 1 : ℕ) : ℝ) :=
      Real.logb_nonneg (by norm_num) (by exact_mod_cast Nat.succ_pos m)
    exact mul_nonneg (Nat.cast_nonneg _) hlog

theorem two_le_countLog {m : ℕ} (h : 2 ≤ m) : 2 ≤ countLog m := by
  have hcast : (2 : ℝ) ≤ (m : ℝ) := by exact_mod_cast h
  have hlog : 1 ≤ Real.logb 2 (m : ℝ) := by
    have := Real.logb_le_logb_of_le (b := 2) (by norm_num) (by norm_num) hcast
    rwa [Real.logb_self_eq_one (by norm_num)] at this
  calc (2 : ℝ) ≤ m := hcast
    _ = m * 1 := (mul_one _).symm
    _ ≤ m * Real.logb 2 (m : ℝ) := mul_le_mul_of_nonneg_left hlog (Nat.cast_nonneg _)

/-- **The entropy as a sum over the counts.** -/
theorem shannonEntropy_eq {data : List α} (h : data ≠ []) :
    (shannonEntropy data : ℝ) =
      Real.logb 2 data.length - ((counterValues data).map countLog).sum / data.length := by
  have hlen : 0 < data.length := List.length_pos_iff.mpr h
  have hn : (data.length : ℝ) ≠ 0 := by exact_mod_cast hlen.ne'
  -- each summand splits as `(m / n) * log₂ m - (m / n) * log₂ n`
  have hterm : ∀ m ∈ counterValues data,
      (m : ℝ) / data.length * Real.logb 2 ((m : ℝ) / data.length) =
        countLog m * (data.length : ℝ)⁻¹ + (m : ℝ) * -(Real.logb 2 data.length / data.length) := by
    intro m hm
    have hm0 : (m : ℝ) ≠ 0 := by exact_mod_cast (counterValues_pos hm).ne'
    rw [Real.logb_div hm0 hn, countLog_eq]
    ring
  have hsum : ((counterValues data).map fun m : ℕ => (m : ℝ)).sum = data.length := by
    rw [← sum_counterValues data, Nat.cast_list_sum]
  rw [shannonEntropy, if_neg h]
  show (counterValues data >>= fun m => pure (m : ℝ)).foldl (fun acc (m : ℝ) => acc -
    m / data.length * Real.logb 2 (m / data.length)) 0 = _
  rw [bind_pure_comp, List.map_eq_map, List.foldl_map,
    foldl_sub_eq fun m : ℕ => (m : ℝ) / data.length * Real.logb 2 ((m : ℝ) / data.length),
    List.map_congr_left hterm, List.sum_map_add, List.sum_map_mul_right, List.sum_map_mul_right,
    hsum, mul_neg, mul_div_cancel₀ _ hn]
  ring

/-- All symbols differ: the entropy is that of the uniform distribution. -/
theorem shannonEntropy_of_nodup {data : List α} (h : data ≠ []) (hdata : data.Nodup) :
    (shannonEntropy data : ℝ) = Real.logb 2 data.length := by
  have hzero : ((counterValues data).map countLog).sum = 0 := by
    refine List.sum_eq_zero ?_
    intro x hx
    obtain ⟨m, hm, rfl⟩ := List.mem_map.mp hx
    obtain rfl := (nodup_iff_counterValues data).mp hdata m hm
    simp [countLog_eq]
  rw [shannonEntropy_eq h, hzero, zero_div, sub_zero]

/-- Some symbol occurs twice: its count alone takes `2 / n` off the entropy. -/
theorem shannonEntropy_le_of_not_nodup {data : List α} (hdata : ¬ data.Nodup) :
    (shannonEntropy data : ℝ) ≤ Real.logb 2 data.length - 2 / data.length := by
  have hne : data ≠ [] := by
    rintro rfl
    exact hdata List.nodup_nil
  obtain ⟨m, hm, hm1⟩ : ∃ m ∈ counterValues data, m ≠ 1 := by
    by_contra hall
    push Not at hall
    exact hdata ((nodup_iff_counterValues data).mpr hall)
  have htwo : 2 ≤ m := by
    have := counterValues_pos hm
    omega
  have hsum : 2 ≤ ((counterValues data).map countLog).sum := by
    refine (two_le_countLog htwo).trans (List.single_le_sum ?_ _ (List.mem_map_of_mem hm))
    intro x hx
    obtain ⟨k, _, rfl⟩ := List.mem_map.mp hx
    exact countLog_nonneg k
  rw [shannonEntropy_eq hne]
  gcongr

end Real

end CanSentinel
