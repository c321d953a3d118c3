import CanSentinel.Lib.Entropy

/-!
# Laws of the Shannon entropy

The real-valued entropy of a string depends only on the counts of its symbols. The laws
are first proved of a list of positive counts, then of the counts of a string.

- `sum_mul_countEntropy`: the total times the entropy is a sum of terms
  `m * (log₂ n - log₂ m)`, none of which is negative.
- `countEntropy_le`: Gibbs' inequality against the uniform distribution, from
  `log x ≤ x - 1`.
- `countEntropy_scale`: multiplying all counts by one factor changes nothing.
- `shannonEntropy_perm`, `shannonEntropy_map`, `shannonEntropy_repeat`: the same string up to
  order, names, and number of copies.
-/

namespace CanSentinel

/-! ## Counts -/

section Counts

/-- The entropy of the distribution with the given counts. -/
noncomputable def countEntropy (ms : List ℕ) : ℝ :=
  PyFloat.log2 (ms.sum : ℝ) - (ms.map countLog).sum / ms.sum

variable {ms ms' : List ℕ}

theorem countEntropy_eq (ms : List ℕ) :
    countEntropy ms = Real.logb 2 ms.sum - (ms.map countLog).sum / ms.sum := rfl

/-- The order of the counts does not matter. -/
theorem countEntropy_perm (h : ms.Perm ms') : countEntropy ms = countEntropy ms' := by
  rw [countEntropy, countEntropy, h.sum_eq, (h.map countLog).sum_eq]

/-- **The total times the entropy.** -/
theorem sum_mul_countEntropy (h : ms.sum ≠ 0) : ms.sum * countEntropy ms =
    (ms.map fun m : ℕ => (m : ℝ) * (Real.logb 2 ms.sum - Real.logb 2 m)).sum := by
  have hsum : (ms.sum : ℝ) ≠ 0 := by exact_mod_cast h
  have hterm : ∀ m ∈ ms, (m : ℝ) * (Real.logb 2 ms.sum - Real.logb 2 m) =
      (m : ℝ) * Real.logb 2 ms.sum + countLog m * (-1) := by
    intro m _
    rw [countLog_eq]
    ring
  have hcast : (ms.map fun m : ℕ => (m : ℝ)).sum = ms.sum := (Nat.cast_list_sum ms).symm
  rw [List.map_congr_left hterm, List.sum_map_add, List.sum_map_mul_right,
    List.sum_map_mul_right, hcast, countEntropy_eq, mul_sub, mul_div_cancel₀ _ hsum]
  ring

/-- A positive count is at most the total, so its term is not negative. -/
theorem term_nonneg {m : ℕ} (hm : m ∈ ms) :
    0 ≤ (m : ℝ) * (Real.logb 2 ms.sum - Real.logb 2 m) := by
  obtain rfl | hpos := Nat.eq_zero_or_pos m
  · simp
  · have hle : Real.logb 2 m ≤ Real.logb 2 ms.sum :=
      Real.logb_le_logb_of_le (by norm_num) (by exact_mod_cast hpos)
        (by exact_mod_cast List.le_sum_of_mem hm)
    exact mul_nonneg (Nat.cast_nonneg m) (sub_nonneg.mpr hle)

theorem countEntropy_nonneg (h : ms.sum ≠ 0) : 0 ≤ countEntropy ms := by
  have hpos : (0 : ℝ) < ms.sum := by exact_mod_cast Nat.pos_of_ne_zero h
  refine nonneg_of_mul_nonneg_right (b := countEntropy ms) ?_ hpos
  rw [sum_mul_countEntropy h]
  refine List.sum_nonneg ?_
  intro x hx
  obtain ⟨m, hm, rfl⟩ := List.mem_map.mp hx
  exact term_nonneg hm

theorem term_eq_zero_iff {m : ℕ} (hm : m ∈ ms) (hpos : 0 < m) :
    (m : ℝ) * (Real.logb 2 ms.sum - Real.logb 2 m) = 0 ↔ m = ms.sum := by
  have hm0 : (0 : ℝ) < m := by exact_mod_cast hpos
  have hsum0 : (0 : ℝ) < ms.sum := by exact_mod_cast hpos.trans_le (List.le_sum_of_mem hm)
  rw [mul_eq_zero_iff_left hm0.ne', sub_eq_zero]
  constructor
  · intro hlog
    have hcast := Real.logb_injOn_pos (by norm_num : (1 : ℝ) < 2) hsum0 hm0 hlog
    exact_mod_cast hcast.symm
  · intro hall
    rw [← hall]

/-- No uncertainty: every count is the total. -/
theorem countEntropy_eq_zero_iff (h : ms.sum ≠ 0) (hpos : ∀ m ∈ ms, 0 < m) :
    countEntropy ms = 0 ↔ ∀ m ∈ ms, m = ms.sum := by
  have hterms : ∀ x ∈ ms.map fun m : ℕ => (m : ℝ) * (Real.logb 2 ms.sum - Real.logb 2 m),
      0 ≤ x := by
    intro x hx
    obtain ⟨m, hm, rfl⟩ := List.mem_map.mp hx
    exact term_nonneg hm
  have hsum : (ms.sum : ℝ) ≠ 0 := by exact_mod_cast h
  rw [← mul_eq_zero_iff_left hsum, sum_mul_countEntropy h]
  constructor
  · intro hzero m hm
    -- a term of a vanishing sum of nonnegative terms vanishes
    have hle := List.single_le_sum hterms _ (List.mem_map_of_mem hm)
    exact (term_eq_zero_iff hm (hpos m hm)).mp (le_antisymm (hle.trans_eq hzero) (term_nonneg hm))
  · intro hall
    refine List.sum_eq_zero ?_
    intro x hx
    obtain ⟨m, hm, rfl⟩ := List.mem_map.mp hx
    exact (term_eq_zero_iff hm (hpos m hm)).mpr (hall m hm)

/-- `log₂ x ≤ (x - 1) / ln 2`. -/
theorem logb_two_le {x : ℝ} (hx : 0 < x) : Real.logb 2 x ≤ (x - 1) / Real.log 2 := by
  rw [Real.logb]
  exact div_le_div_of_nonneg_right (Real.log_le_sub_one_of_pos hx)
    (Real.log_nonneg (by norm_num))

/-- A term exceeds its share of `log₂ k` by at most `(n / k - m) / ln 2`. -/
theorem mul_logb_sub_le {m n k : ℝ} (hm : 0 < m) (hn : 0 < n) (hk : 0 < k) :
    m * (Real.logb 2 n - Real.logb 2 m) ≤
      m * (Real.logb 2 k - 1 / Real.log 2) + n / k / Real.log 2 := by
  have hratio := logb_two_le (div_pos hn (mul_pos hm hk))
  rw [Real.logb_div hn.ne' (mul_pos hm hk).ne', Real.logb_mul hm.ne' hk.ne'] at hratio
  have hscaled := mul_le_mul_of_nonneg_left hratio hm.le
  have hexpand : m * ((n / (m * k) - 1) / Real.log 2) =
      n / k / Real.log 2 - m * (1 / Real.log 2) := by
    field_simp
  rw [hexpand] at hscaled
  linarith

/-- **Gibbs' inequality**: `k` positive counts have at most the entropy of the uniform
distribution on `k` symbols. -/
theorem countEntropy_le (h : ms.sum ≠ 0) (hpos : ∀ m ∈ ms, 0 < m) :
    countEntropy ms ≤ Real.logb 2 ms.length := by
  have hsum : (0 : ℝ) < ms.sum := by exact_mod_cast Nat.pos_of_ne_zero h
  have hlen : (0 : ℝ) < ms.length := by
    have hne : ms ≠ [] := by
      rintro rfl
      exact h rfl
    exact_mod_cast List.length_pos_iff.mpr hne
  have hterm : ∀ m ∈ ms, (m : ℝ) * (Real.logb 2 ms.sum - Real.logb 2 m) ≤
      (m : ℝ) * (Real.logb 2 ms.length - 1 / Real.log 2) +
        ms.sum / ms.length / Real.log 2 :=
    fun m hm => mul_logb_sub_le (by exact_mod_cast hpos m hm) hsum hlen
  have hcast : (ms.map fun m : ℕ => (m : ℝ)).sum = ms.sum := (Nat.cast_list_sum ms).symm
  refine le_of_mul_le_mul_left ?_ hsum
  calc ms.sum * countEntropy ms
      = (ms.map fun m : ℕ => (m : ℝ) * (Real.logb 2 ms.sum - Real.logb 2 m)).sum :=
        sum_mul_countEntropy h
    _ ≤ (ms.map fun m : ℕ => (m : ℝ) * (Real.logb 2 ms.length - 1 / Real.log 2) +
          ms.sum / ms.length / Real.log 2).sum := List.sum_le_sum hterm
    _ = ms.sum * (Real.logb 2 ms.length - 1 / Real.log 2) +
          ms.length * (ms.sum / ms.length / Real.log 2) := by
        rw [List.sum_map_add, List.sum_map_mul_right, hcast, List.map_const', List.sum_replicate,
          nsmul_eq_mul]
    _ = ms.sum * Real.logb 2 ms.length := by
        rw [← mul_div_assoc, mul_div_cancel₀ _ hlen.ne']
        ring

/-- Multiplying the counts by one factor. -/
theorem countEntropy_scale {k : ℕ} (hk : 0 < k) (h : ms.sum ≠ 0) (hpos : ∀ m ∈ ms, 0 < m) :
    countEntropy (ms.map fun m => k * m) = countEntropy ms := by
  have hk0 : (k : ℝ) ≠ 0 := by exact_mod_cast hk.ne'
  have hsum : (ms.sum : ℝ) ≠ 0 := by exact_mod_cast h
  have htotal : (ms.map fun m => k * m).sum = k * ms.sum := by
    rw [List.sum_map_mul_left, List.map_id']
  have hterm : ∀ m ∈ ms, countLog (k * m) = k * countLog m + (m : ℝ) * (k * Real.logb 2 k) := by
    intro m hm
    have hm0 : (m : ℝ) ≠ 0 := by exact_mod_cast (hpos m hm).ne'
    rw [countLog_eq, countLog_eq, Nat.cast_mul, Real.logb_mul hk0 hm0]
    ring
  have hlogs : ((ms.map fun m => k * m).map countLog).sum =
      k * (ms.map countLog).sum + ms.sum * (k * Real.logb 2 k) := by
    rw [List.map_map]
    show (ms.map fun m => countLog (k * m)).sum = _
    rw [List.map_congr_left hterm, List.sum_map_add, List.sum_map_mul_left,
      List.sum_map_mul_right, ← Nat.cast_list_sum]
  rw [countEntropy_eq, countEntropy_eq, htotal, hlogs, Nat.cast_mul, Real.logb_mul hk0 hsum]
  field_simp
  ring

end Counts

/-! ## Strings -/

section Strings

variable {α β : Type} [DecidableEq α] [DecidableEq β] {data : List α}

/-- The counts, up to their order. -/
theorem counterValues_perm (data : List α) :
    (counterValues data).Perm (data.dedup.map data.count) := by
  have hdedup : data.reverse.dedup.Perm data.dedup := (List.reverse_perm data).dedup
  exact ((List.reverse_perm _).trans hdedup).map data.count

theorem length_counterValues (data : List α) : (counterValues data).length = data.dedup.length := by
  rw [(counterValues_perm data).length_eq, List.length_map]

theorem shannonEntropy_eq_countEntropy (h : data ≠ []) :
    (shannonEntropy data : ℝ) = countEntropy (counterValues data) := by
  rw [shannonEntropy_eq h, countEntropy_eq, sum_counterValues]

theorem sum_counterValues_ne_zero (h : data ≠ []) : (counterValues data).sum ≠ 0 := by
  rw [sum_counterValues]
  exact (List.length_pos_iff.mpr h).ne'

theorem shannonEntropy_nonneg (h : data ≠ []) : 0 ≤ (shannonEntropy data : ℝ) := by
  rw [shannonEntropy_eq_countEntropy h]
  exact countEntropy_nonneg (sum_counterValues_ne_zero h)

/-- At most the logarithm of the number of different symbols. -/
theorem shannonEntropy_le_dedup (h : data ≠ []) :
    (shannonEntropy data : ℝ) ≤ Real.logb 2 data.dedup.length := by
  rw [shannonEntropy_eq_countEntropy h, ← length_counterValues]
  exact countEntropy_le (sum_counterValues_ne_zero h) fun _ hm => counterValues_pos hm

/-- The entropy is zero exactly when there is one symbol. -/
theorem shannonEntropy_eq_zero_iff (h : data ≠ []) :
    (shannonEntropy data : ℝ) = 0 ↔ ∀ a ∈ data, ∀ b ∈ data, a = b := by
  rw [shannonEntropy_eq_countEntropy h, countEntropy_eq_zero_iff (sum_counterValues_ne_zero h)
    fun _ hm => counterValues_pos hm, sum_counterValues]
  constructor
  · intro hall a ha
    exact List.count_eq_length.mp (hall _ ((mem_counterValues data).mpr ⟨a, ha, rfl⟩))
  · intro hall m hm
    obtain ⟨a, ha, rfl⟩ := (mem_counterValues data).mp hm
    exact List.count_eq_length.mpr (hall a ha)

/-- The entropy is that of the uniform distribution exactly when all symbols differ. -/
theorem shannonEntropy_eq_logb_iff (h : data ≠ []) :
    (shannonEntropy data : ℝ) = Real.logb 2 data.length ↔ data.Nodup := by
  refine ⟨fun heq => ?_, shannonEntropy_of_nodup h⟩
  by_contra hdup
  have hle := shannonEntropy_le_of_not_nodup hdup
  have hpos : (0 : ℝ) < 2 / data.length :=
    div_pos (by norm_num) (by exact_mod_cast List.length_pos_iff.mpr h)
  linarith

/-- The order of the symbols does not matter. -/
theorem shannonEntropy_perm {data' : List α} (hperm : data.Perm data') (h : data ≠ []) :
    (shannonEntropy data : ℝ) = shannonEntropy data' := by
  have h' : data' ≠ [] := fun hempty => h (hempty ▸ hperm).eq_nil
  have hcount : data.count = data'.count := funext fun a => hperm.count_eq a
  rw [shannonEntropy_eq_countEntropy h, shannonEntropy_eq_countEntropy h',
    countEntropy_perm (counterValues_perm data), countEntropy_perm (counterValues_perm data'),
    hcount]
  exact countEntropy_perm (hperm.dedup.map _)

/-- The names of the symbols do not matter. -/
theorem shannonEntropy_map {f : α → β} (hf : Function.Injective f) (h : data ≠ []) :
    (shannonEntropy (data.map f) : ℝ) = shannonEntropy data := by
  have h' : data.map f ≠ [] := fun hempty => h (List.map_eq_nil_iff.mp hempty)
  have hcounts : (data.map f).dedup.map (data.map f).count = data.dedup.map data.count := by
    rw [List.dedup_map_of_injective hf, List.map_map]
    exact List.map_congr_left fun a _ => List.count_map_of_injective data f hf a
  rw [shannonEntropy_eq_countEntropy h, shannonEntropy_eq_countEntropy h',
    countEntropy_perm (counterValues_perm data), countEntropy_perm (counterValues_perm _), hcounts]

/-- `k` copies of a string. -/
def repeated (k : ℕ) (data : List α) : List α := (List.replicate k data).flatten

theorem count_repeated (k : ℕ) (data : List α) (a : α) :
    (repeated k data).count a = k * data.count a := by
  rw [repeated, List.count_flatten, List.map_replicate, List.sum_replicate, smul_eq_mul]

omit [DecidableEq α] in
theorem mem_repeated {k : ℕ} (hk : 0 < k) {a : α} : a ∈ repeated k data ↔ a ∈ data := by
  rw [repeated, List.mem_flatten]
  constructor
  · rintro ⟨copy, hcopy, ha⟩
    rwa [List.eq_of_mem_replicate hcopy] at ha
  · intro ha
    exact ⟨data, List.mem_replicate.mpr ⟨hk.ne', rfl⟩, ha⟩

/-- The number of copies does not matter. -/
theorem shannonEntropy_repeat {k : ℕ} (hk : 0 < k) (h : data ≠ []) :
    (shannonEntropy (repeated k data) : ℝ) = shannonEntropy data := by
  obtain ⟨a, ha⟩ := List.exists_mem_of_ne_nil data h
  have h' : repeated k data ≠ [] := List.ne_nil_of_mem ((mem_repeated hk).mpr ha)
  have hsymbols : (repeated k data).dedup.Perm data.dedup := by
    refine (List.perm_ext_iff_of_nodup (List.nodup_dedup _) (List.nodup_dedup _)).mpr ?_
    intro b
    rw [List.mem_dedup, List.mem_dedup, mem_repeated hk]
  have hcounts : (counterValues (repeated k data)).Perm
      ((counterValues data).map fun m => k * m) := by
    have hcount : (repeated k data).count = (fun m => k * m) ∘ data.count :=
      funext (count_repeated k data)
    have hleft := (counterValues_perm (repeated k data)).trans (hsymbols.map _)
    have hright := (counterValues_perm data).map fun m => k * m
    rw [hcount] at hleft
    rw [List.map_map] at hright
    exact hleft.trans hright.symm
  rw [shannonEntropy_eq_countEntropy h', shannonEntropy_eq_countEntropy h,
    countEntropy_perm hcounts]
  exact countEntropy_scale hk (sum_counterValues_ne_zero h) fun _ hm => counterValues_pos hm

end Strings

end CanSentinel
