import Mathlib

/-!
# Events that keep a distance

- `Spaced d ts`: each time is at least `d` after all times before it.
- `Spaced.countP_le`: how many of them a window of time can hold.
-/

namespace CanSentinel

variable {R : Type} [Field R] [LinearOrder R] [IsStrictOrderedRing R]

/-- The times `ts`, in order, are at least `d` apart. -/
def Spaced (d : R) (ts : List R) : Prop := ts.Pairwise fun a b => a + d ≤ b

variable {d : R} {ts : List R}

/-- A time after the last one. -/
theorem Spaced.concat (h : Spaced d ts) (hd : 0 ≤ d) {t : R}
    (ht : ∀ last ∈ ts.getLast?, last + d ≤ t) : Spaced d (ts ++ [t]) := by
  rw [Spaced, List.pairwise_append]
  refine ⟨h, List.pairwise_singleton _ _, ?_⟩
  intro a ha b hb
  obtain rfl := List.mem_singleton.mp hb
  cases ts using List.reverseRecOn with
  | nil => cases ha
  | append_singleton ts last _ =>
    have hlast := ht last (by simp)
    rcases List.mem_append.mp ha with ha | ha
    · have hstep := (List.pairwise_append.mp h).2.2 a ha last (List.mem_singleton_self _)
      linarith
    · rw [List.mem_singleton.mp ha]
      exact hlast

/-- From the first time on, each further one takes at least `d`. -/
theorem Spaced.length_le {t upper : R} (h : Spaced d (t :: ts)) (hupper : ∀ x ∈ t :: ts, x ≤ upper) :
    t + ts.length * d ≤ upper := by
  induction ts generalizing t with
  | nil => simpa using hupper t List.mem_cons_self
  | cons u ts ih =>
    rw [Spaced, List.pairwise_cons] at h
    rw [List.forall_mem_cons] at hupper
    have hrest := ih h.2 hupper.2
    have hstep := h.1 u List.mem_cons_self
    rw [List.length_cons]
    push_cast
    linarith

/-- **The rate**: a window of length `w` holds at most `w / d + 1` of the times. -/
theorem Spaced.countP_le (h : Spaced d ts) (hd : 0 < d) (a : R) {w : R} (hw : 0 ≤ w) :
    ((ts.countP fun t => a ≤ t ∧ t ≤ a + w : ℕ) : R) ≤ w / d + 1 := by
  rw [List.countP_eq_length_filter]
  have hspaced : Spaced d (ts.filter fun t => a ≤ t ∧ t ≤ a + w) := h.sublist List.filter_sublist
  have hmem : ∀ t ∈ ts.filter (fun t => a ≤ t ∧ t ≤ a + w), a ≤ t ∧ t ≤ a + w := by
    intro t ht
    simpa using (List.mem_filter.mp ht).2
  generalize ts.filter (fun t => a ≤ t ∧ t ≤ a + w) = inside at hspaced hmem
  cases inside with
  | nil =>
    have hquot : 0 ≤ w / d := div_nonneg hw hd.le
    simpa using hquot.trans (le_add_of_nonneg_right zero_le_one)
  | cons t inside =>
    have hlast := hspaced.length_le fun x hx => (hmem x hx).2
    have hfirst := (hmem t List.mem_cons_self).1
    rw [List.length_cons, Nat.cast_succ, add_le_add_iff_right, le_div_iff₀ hd]
    linarith

end CanSentinel
