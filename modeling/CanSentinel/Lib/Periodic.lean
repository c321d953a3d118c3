import Mathlib

/-!
# Periodic events in a counted loop

A loop over the steps `0, 1, …` that does something whenever `step % p = 0` does
it at the steps `0, p, 2p, …`, and within the first `n` steps `⌈n / p⌉` times.

- `ceilDiv_succ`: how the count grows with the number of steps.
- `filter_range_mod`: the steps at which the event happens.
- `flatMap_singleton_if`: a loop that emits at most one item at each step;
  `length_filter_eq_sum` counts what a step emits.
-/

namespace CanSentinel.Periodic

/-- Rounding up a quotient, by the remainder. -/
theorem ceilDiv_eq {p : ℕ} (hp : 0 < p) (n : ℕ) :
    n ⌈/⌉ p = n / p + if n % p = 0 then 0 else 1 := by
  have hdiv := Nat.div_add_mod n p
  have hmod := Nat.mod_lt n hp
  rw [Nat.ceilDiv_eq_add_pred_div]
  by_cases h : n % p = 0
  · rw [if_pos h, Nat.div_eq_iff hp]
    rw [h] at hdiv
    constructor
    · rw [Nat.add_zero, Nat.mul_comm]
      omega
    · rw [Nat.add_zero, Nat.mul_comm]
      omega
  · rw [if_neg h, Nat.div_eq_iff hp, Nat.add_mul, Nat.mul_comm (n / p)]
    omega

/-- **One more step**: the event happens once more if the step is a multiple. -/
theorem ceilDiv_succ {p : ℕ} (hp : 0 < p) (n : ℕ) :
    (n + 1) ⌈/⌉ p = n ⌈/⌉ p + if n % p = 0 then 1 else 0 := by
  have hsucc : (n + 1) ⌈/⌉ p = n / p + 1 := by
    rw [Nat.ceilDiv_eq_add_pred_div, Nat.add_right_comm, Nat.add_sub_cancel, Nat.add_div_right _ hp]
  rw [hsucc, ceilDiv_eq hp]
  by_cases h : n % p = 0
  · rw [if_pos h, if_pos h]
  · rw [if_neg h, if_neg h]

/-- **The steps of a periodic event** among the first `n`. -/
theorem filter_range_mod {p : ℕ} (hp : 0 < p) (n : ℕ) :
    (List.range n).filter (fun step => step % p = 0) = (List.range (n ⌈/⌉ p)).map (p * ·) := by
  induction n with
  | zero => simp
  | succ n ih =>
    rw [List.range_succ, List.filter_append, ih, ceilDiv_succ hp]
    by_cases h : n % p = 0
    · -- the new step is `p` times the number of events so far
      have hstep : p * (n ⌈/⌉ p) = n := by
        rw [ceilDiv_eq hp, if_pos h, Nat.add_zero, Nat.mul_div_cancel' (Nat.dvd_of_mod_eq_zero h)]
      rw [if_pos h, List.range_succ, List.map_append, List.map_singleton, hstep,
        List.filter_cons_of_pos (by simpa using h), List.filter_nil]
    · rw [if_neg h, Nat.add_zero, List.filter_cons_of_neg (by simpa using h), List.filter_nil,
        List.append_nil]

variable {α ι : Type*}

/-- A loop that emits one item at some steps and nothing at the others. -/
theorem flatMap_singleton_if (c : ι → Prop) [DecidablePred c] (f : ι → α) (xs : List ι) :
    (xs.flatMap fun x => if c x then [f x] else []) = (xs.filter fun x => c x).map f := by
  induction xs with
  | nil => rfl
  | cons x xs ih =>
    rw [List.flatMap_cons, ih]
    by_cases h : c x
    · rw [if_pos h, List.filter_cons_of_pos (by simpa using h)]
      rfl
    · rw [if_neg h, List.filter_cons_of_neg (by simpa using h)]
      rfl

/-- The number of items that meet a condition, as a sum over the items. -/
theorem length_filter_eq_sum (c : ι → Prop) [DecidablePred c] (xs : List ι) :
    (xs.filter fun x => c x).length = (xs.map fun x => if c x then 1 else 0).sum := by
  induction xs with
  | nil => rfl
  | cons x xs ih =>
    rw [List.map_cons, List.sum_cons, ← ih]
    by_cases h : c x
    · rw [if_pos h, List.filter_cons_of_pos (by simpa using h), List.length_cons, Nat.add_comm]
    · rw [if_neg h, List.filter_cons_of_neg (by simpa using h), Nat.zero_add]

end CanSentinel.Periodic
