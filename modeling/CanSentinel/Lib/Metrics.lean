import CanSentinel.Lib.Python

/-!
# Classification metrics

The counts of a two-class confusion matrix and the ratios that are read off it. A ratio is
computed under a guard, `x / y if y > 0 else 0.0`, and is `0` without a denominator.

- `guardedDiv`: the guarded division, which never raises; `guardedDiv_eq`.
- `Confusion`: true and false positives and negatives, with the metrics.
- `ratio_mem`, `f1_mem`: all of them lie in the unit interval.
- `f1_eq`: the harmonic mean of precision and recall as a ratio of counts, and
  `min_le_f1`, `f1_le_max`: it lies between the two.
- `sum_countP_classes`: counts over the classes of a partition add up.
-/

namespace CanSentinel

variable {R : Type} [PyFloat R]

/-! ## Guarded division -/

/-- `x / y`. -/
def pyDiv (x y : R) : Except PyError R :=
  if y = 0 then .error (.zeroDivisionError "division by zero") else .ok (x / y)

/-- `x / y if y > 0 else 0.0`. -/
def guardedDiv (x y : R) : Except PyError R := if 0 < y then pyDiv x y else .ok 0

/-- The ratio of two counts, `0` of none. -/
def ratio (a b : ℕ) : R := if 0 < b then (a : R) / (b : R) else 0

/-- The guard excludes the division by zero. -/
theorem guardedDiv_eq (x y : R) : guardedDiv x y = .ok (if 0 < y then x / y else 0) := by
  rw [guardedDiv]
  by_cases h : 0 < y
  · rw [if_pos h, if_pos h, pyDiv, if_neg h.ne']
  · rw [if_neg h, if_neg h]

theorem guardedDiv_natCast (a b : ℕ) : guardedDiv (a : R) (b : R) = .ok (ratio a b) := by
  rw [guardedDiv_eq, ratio]
  exact congrArg Except.ok (if_congr Nat.cast_pos rfl rfl)

theorem ratio_nonneg (a b : ℕ) : (0 : R) ≤ ratio a b := by
  rw [ratio]
  by_cases h : 0 < b
  · rw [if_pos h]
    positivity
  · rw [if_neg h]

theorem ratio_le_one {a b : ℕ} (h : a ≤ b) : (ratio a b : R) ≤ 1 := by
  rw [ratio]
  by_cases hb : 0 < b
  · rw [if_pos hb]
    exact div_le_one_of_le₀ (by exact_mod_cast h) (Nat.cast_nonneg b)
  · rw [if_neg hb]
    exact zero_le_one

@[simp] theorem ratio_zero (b : ℕ) : (ratio 0 b : R) = 0 := by
  simp [ratio]

theorem ratio_pos {a b : ℕ} (ha : 0 < a) (h : a ≤ b) : (0 : R) < ratio a b := by
  have hb : 0 < b := ha.trans_le h
  rw [ratio, if_pos hb]
  have ha' : (0 : R) < a := by exact_mod_cast ha
  have hb' : (0 : R) < b := by exact_mod_cast hb
  exact div_pos ha' hb'

/-- A ratio times its denominator. -/
theorem mul_ratio {a b : ℕ} (h : a ≤ b) : (b : R) * ratio a b = a := by
  rw [ratio]
  by_cases hb : 0 < b
  · have hb' : (b : R) ≠ 0 := by exact_mod_cast hb.ne'
    rw [if_pos hb, mul_div_cancel₀ _ hb']
  · obtain rfl : b = 0 := by omega
    obtain rfl : a = 0 := by omega
    simp

/-! ## The harmonic mean -/

/-- `2 * p * r / (p + r) if (p + r) > 0 else 0.0`. -/
def harmonicMean (p r : R) : R := if 0 < p + r then 2.0 * p * r / (p + r) else 0

theorem guardedDiv_harmonicMean (p r : R) :
    guardedDiv (2.0 * p * r) (p + r) = .ok (harmonicMean p r) := guardedDiv_eq _ _

theorem harmonicMean_comm (p r : R) : harmonicMean p r = harmonicMean r p := by
  rw [harmonicMean, harmonicMean, add_comm, mul_assoc, mul_comm p r, ← mul_assoc]

section HarmonicMean

variable {p r : R}

theorem harmonicMean_eq (hp : 0 ≤ p) (hr : 0 < r) : harmonicMean p r = 2 * p * r / (p + r) := by
  have htwo : (2.0 : R) = 2 := by norm_num
  rw [harmonicMean, if_pos (by positivity), htwo]

/-- The mean of two numbers in order lies between them. -/
theorem harmonicMean_mem_of_le (hp : 0 ≤ p) (hle : p ≤ r) :
    p ≤ harmonicMean p r ∧ harmonicMean p r ≤ r := by
  obtain rfl | hr := (hp.trans hle).eq_or_lt
  · obtain rfl := le_antisymm hp hle
    simp [harmonicMean]
  · have hsum : 0 < p + r := by positivity
    rw [harmonicMean_eq hp hr, le_div_iff₀ hsum, div_le_iff₀ hsum]
    constructor
    · have hsq : p * p ≤ p * r := mul_le_mul_of_nonneg_left hle hp
      linarith
    · have hsq : p * r ≤ r * r := mul_le_mul_of_nonneg_right hle hr.le
      linarith

theorem min_le_harmonicMean (hp : 0 ≤ p) (hr : 0 ≤ r) : min p r ≤ harmonicMean p r := by
  obtain hle | hle := le_total p r
  · exact (min_le_left p r).trans (harmonicMean_mem_of_le hp hle).1
  · rw [harmonicMean_comm]
    exact (min_le_right p r).trans (harmonicMean_mem_of_le hr hle).1

theorem harmonicMean_le_max (hp : 0 ≤ p) (hr : 0 ≤ r) : harmonicMean p r ≤ max p r := by
  obtain hle | hle := le_total p r
  · exact (harmonicMean_mem_of_le hp hle).2.trans (le_max_right p r)
  · rw [harmonicMean_comm]
    exact (harmonicMean_mem_of_le hr hle).2.trans (le_max_left p r)

end HarmonicMean

/-! ## The confusion matrix -/

/-- True and false positives, true and false negatives. -/
structure Confusion where
  tp : ℕ
  fp : ℕ
  tn : ℕ
  fn : ℕ
deriving DecidableEq

namespace Confusion

def total (c : Confusion) : ℕ := c.tp + c.fp + c.tn + c.fn

def precision (c : Confusion) : R := ratio c.tp (c.tp + c.fp)

/-- The recall. -/
def recallRate (c : Confusion) : R := ratio c.tp (c.tp + c.fn)

def accuracy (c : Confusion) : R := ratio (c.tp + c.tn) c.total

def fpr (c : Confusion) : R := ratio c.fp (c.fp + c.tn)

/-- The harmonic mean of precision and recall. -/
def f1 (c : Confusion) : R := harmonicMean c.precision c.recallRate

variable (c : Confusion)

theorem precision_mem : (0 : R) ≤ c.precision ∧ (c.precision : R) ≤ 1 :=
  ⟨ratio_nonneg _ _, ratio_le_one (Nat.le_add_right _ _)⟩

theorem recallRate_mem : (0 : R) ≤ c.recallRate ∧ (c.recallRate : R) ≤ 1 :=
  ⟨ratio_nonneg _ _, ratio_le_one (Nat.le_add_right _ _)⟩

theorem accuracy_mem : (0 : R) ≤ c.accuracy ∧ (c.accuracy : R) ≤ 1 := by
  refine ⟨ratio_nonneg _ _, ratio_le_one ?_⟩
  rw [total]
  omega

theorem fpr_mem : (0 : R) ≤ c.fpr ∧ (c.fpr : R) ≤ 1 :=
  ⟨ratio_nonneg _ _, ratio_le_one (Nat.le_add_right _ _)⟩

/-- **F1 as a ratio of counts.** -/
theorem f1_eq : (c.f1 : R) =
    if 0 < c.tp then 2 * (c.tp : R) / (2 * c.tp + c.fp + c.fn) else 0 := by
  rw [f1]
  by_cases htp : 0 < c.tp
  · have hp : (0 : R) < c.precision := ratio_pos htp (Nat.le_add_right _ _)
    have hr : (0 : R) < c.recallRate := ratio_pos htp (Nat.le_add_right _ _)
    have ht : (0 : R) < c.tp := by exact_mod_cast htp
    rw [if_pos htp, harmonicMean_eq hp.le hr, precision, recallRate, ratio, ratio,
      if_pos (by omega), if_pos (by omega)]
    push_cast
    field_simp
    ring
  · have hzero : c.tp = 0 := by omega
    rw [if_neg htp, precision, recallRate, hzero, ratio_zero, ratio_zero, harmonicMean, add_zero,
      if_neg (lt_irrefl 0)]

/-- F1 lies between precision and recall. -/
theorem min_le_f1 : min (c.precision : R) c.recallRate ≤ c.f1 :=
  min_le_harmonicMean c.precision_mem.1 c.recallRate_mem.1

theorem f1_le_max : (c.f1 : R) ≤ max c.precision c.recallRate :=
  harmonicMean_le_max c.precision_mem.1 c.recallRate_mem.1

theorem f1_mem : (0 : R) ≤ c.f1 ∧ (c.f1 : R) ≤ 1 :=
  ⟨(le_min c.precision_mem.1 c.recallRate_mem.1).trans c.min_le_f1,
    c.f1_le_max.trans (max_le c.precision_mem.2 c.recallRate_mem.2)⟩

end Confusion

/-! ## Counting by classes -/

section Classes

variable {α β : Type} [DecidableEq α]

/-- The counts of distinct classes add up to the count of their union. -/
theorem sum_countP_classes {classes : List α} (hnodup : classes.Nodup) (p : β → Prop)
    [DecidablePred p] (es : List (α × β)) :
    (classes.map fun k => es.countP fun e => e.1 = k ∧ p e.2).sum =
      es.countP fun e => e.1 ∈ classes ∧ p e.2 := by
  induction classes with
  | nil => simp
  | cons k classes ih =>
    obtain ⟨hk, hnodup⟩ := List.nodup_cons.mp hnodup
    rw [List.map_cons, List.sum_cons, ih hnodup,
      List.countP_eq_countP_filter_add es (fun e => e.1 ∈ k :: classes ∧ p e.2) fun e => e.1 = k,
      List.countP_filter, List.countP_filter]
    congr 1
    · refine List.countP_congr ?_
      intro e _
      simp only [List.mem_cons, Bool.decide_and, Bool.and_eq_true, decide_eq_true_eq]
      tauto
    · refine List.countP_congr ?_
      intro e _
      have hother : e.1 ∈ classes → e.1 ≠ k := fun hmem heq => hk (heq ▸ hmem)
      simp only [List.mem_cons, Bool.decide_and, Bool.and_eq_true, decide_eq_true_eq,
        Bool.not_eq_true', decide_eq_false_iff_not]
      tauto

end Classes

end CanSentinel
