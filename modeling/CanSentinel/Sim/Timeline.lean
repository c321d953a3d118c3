import CanSentinel.Lib.Periodic
import CanSentinel.Sim.Bounds

/-!
# The timeline of a batch

What `generate_batch` returns for `n` steps: chronological, with the frames of each
id exactly at the multiples of its period, and a longer batch only adds frames at
the end.

- `filter_stepFrames`: the frames of one id within one step.
- `filter_batchFrames`: the frames of one id within a batch.
- `batch_timeline`: the whole timeline.
-/

namespace CanSentinel

open Periodic

variable {R : Type} [PyFloat R]

theorem EcuMessage.period_pos (kind : EcuMessage) : 0 < kind.period := by
  cases kind <;> decide

/-- The time between two steps `k` apart. -/
theorem batchTime_sub (a k : ℕ) : (batchTime (a + k) : R) - batchTime a = (k : R) * 0.005 := by
  unfold batchTime stepTime
  rw [Nat.cast_add, add_mul, add_sub_add_left_eq_sub, add_sub_cancel_left]

theorem batchTime_mono {a b : ℕ} (h : a ≤ b) : (batchTime a : R) ≤ batchTime b := by
  obtain ⟨k, rfl⟩ := Nat.exists_eq_add_of_le h
  have hsub := batchTime_sub (R := R) a k
  have hpos : (0 : R) ≤ (k : R) * 0.005 := by positivity
  linarith

variable (math : MathModule R)

/-! ## One id -/

/-- A step emits at most one frame of an id: if the step is a multiple of the period. -/
theorem filter_stepFrames (kind : EcuMessage) (step : ℕ) :
    (stepFrames math step).filter (fun frame => frame.canId = kind.canId) =
      if step % kind.period = 0 then [batchFrame math step kind] else [] := by
  have hkinds : (batchKinds step).filter (fun other => other = kind) =
      if step % kind.period = 0 then [kind] else [] := by
    have hone : batchOrder.filter (fun other => other = kind) = [kind] := by
      cases kind <;> rfl
    rw [batchKinds, List.filter_comm, hone]
    by_cases h : step % kind.period = 0
    · rw [if_pos h, List.filter_cons_of_pos (by simpa using h), List.filter_nil]
    · rw [if_neg h, List.filter_cons_of_neg (by simpa using h), List.filter_nil]
  have hid : ∀ other : EcuMessage, (batchFrame math step other).canId = kind.canId ↔
      other = kind := by
    intro other
    exact EcuMessage.canId_injective.eq_iff
  rw [stepFrames, List.filter_map]
  simp only [Function.comp_def, hid, hkinds]
  split <;> rfl

/-- **The frames of an id**: one at each multiple of its period. -/
theorem filter_batchFrames (kind : EcuMessage) (n : ℕ) :
    (batchFrames math n).filter (fun frame => frame.canId = kind.canId) =
      (List.range (n ⌈/⌉ kind.period)).map
        fun j => batchFrame math (kind.period * j) kind := by
  rw [batchFrames, List.filter_flatMap]
  simp only [filter_stepFrames]
  rw [flatMap_singleton_if, filter_range_mod kind.period_pos, List.map_map]
  rfl

/-! ## All ids -/

/-- The number of frames of `n` steps. -/
theorem length_batchFrames (n : ℕ) :
    (batchFrames math n).length = (batchOrder.map fun kind => n ⌈/⌉ kind.period).sum := by
  induction n with
  | zero =>
    simp [batchFrames, batchOrder]
  | succ n ih =>
    have hstep : (stepFrames math n).length =
        (batchOrder.map fun kind => if n % kind.period = 0 then 1 else 0).sum := by
      rw [stepFrames, List.length_map, batchKinds, length_filter_eq_sum]
    rw [batchFrames_succ, List.length_append, ih, hstep, ← List.sum_map_add]
    simp only [ceilDiv_succ (EcuMessage.period_pos _)]

/-- The frames are in chronological order. -/
theorem pairwise_batchFrames (n : ℕ) :
    (batchFrames math n).Pairwise fun f g => f.timestamp ≤ g.timestamp := by
  have htime : ∀ step, ∀ frame ∈ stepFrames math step, frame.timestamp = batchTime step := by
    intro step frame hframe
    obtain ⟨kind, _, rfl⟩ := List.mem_map.mp hframe
    rfl
  rw [batchFrames, List.pairwise_flatMap]
  constructor
  · intro step _
    refine List.pairwise_of_forall_mem_list ?_
    intro f hf g hg
    rw [htime step f hf, htime step g hg]
  · refine List.pairwise_lt_range.imp ?_
    intro a b hab f hf g hg
    rw [htime a f hf, htime b g hg]
    exact batchTime_mono hab.le

/-- More steps add frames at the end. -/
theorem batchFrames_append (n k : ℕ) : batchFrames math n <+: batchFrames math (n + k) := by
  induction k with
  | zero => exact List.prefix_refl _
  | succ k ih =>
    rw [← Nat.add_assoc, batchFrames_succ]
    exact ih.trans (List.prefix_append _ _)

/-- **The timeline of a batch.** For `n` steps, the list is chronological; the frames
of each id are stamped at the steps `0, p, 2p, …` below `n` for the period `p` of the
id, so there are `⌈n / p⌉` of them, one exactly `p * 5` ms after the other; nothing else
is in the list, and the list for `n` steps begins the list for any more steps. -/
theorem batch_timeline {math : MathModule R} (hsin : math.SinBounded) {n : ℕ} {durationSec : R}
    (hn : totalSteps durationSec = n) :
    ∃ frames, generateBatch math durationSec = .ok frames ∧
      frames.Pairwise (fun f g => f.timestamp ≤ g.timestamp) ∧
      (∀ kind : EcuMessage,
        let ofKind := frames.filter fun frame => frame.canId = kind.canId
        ofKind.map CANFrame.timestamp =
            (List.range (n ⌈/⌉ kind.period)).map (fun j => batchTime (kind.period * j)) ∧
          ofKind.length = n ⌈/⌉ kind.period ∧
          ∀ j f g, ofKind[j]? = some f → ofKind[j + 1]? = some g →
            g.timestamp - f.timestamp = (kind.period : R) * 0.005) ∧
      frames.length = (batchOrder.map fun kind => n ⌈/⌉ kind.period).sum ∧
      ∀ longerSec, n ≤ totalSteps longerSec → ∃ longer, generateBatch math longerSec = .ok longer ∧
        frames <+: longer := by
  subst hn
  refine ⟨_, generateBatch_ok hsin durationSec, pairwise_batchFrames math _, ?_,
    length_batchFrames math _, ?_⟩
  · intro kind
    dsimp only
    rw [filter_batchFrames, List.map_map, List.length_map, List.length_range]
    refine ⟨rfl, rfl, ?_⟩
    intro j f g hf hg
    rw [List.getElem?_map, Option.map_eq_some_iff] at hf hg
    obtain ⟨a, ha, rfl⟩ := hf
    obtain ⟨b, hb, rfl⟩ := hg
    obtain ⟨_, rfl⟩ := List.getElem?_eq_some_iff.mp ha
    obtain ⟨_, rfl⟩ := List.getElem?_eq_some_iff.mp hb
    rw [List.getElem_range, List.getElem_range]
    exact batchTime_sub (kind.period * j) kind.period
  · intro longerSec hle
    obtain ⟨k, hk⟩ := Nat.exists_eq_add_of_le hle
    refine ⟨_, generateBatch_ok hsin longerSec, ?_⟩
    rw [hk]
    exact batchFrames_append math _ k

/-- One second of traffic, with the real sine. -/
theorem batch_timeline_second :
    ∃ frames, generateBatch MathModule.real ((200 : ℕ) * 0.005) = .ok frames ∧
      frames.Pairwise (fun f g => f.timestamp ≤ g.timestamp) ∧
      (∀ kind : EcuMessage,
        let ofKind := frames.filter fun frame => frame.canId = kind.canId
        ofKind.map CANFrame.timestamp =
            (List.range (200 ⌈/⌉ kind.period)).map (fun j => batchTime (kind.period * j)) ∧
          ofKind.length = 200 ⌈/⌉ kind.period ∧
          ∀ j f g, ofKind[j]? = some f → ofKind[j + 1]? = some g →
            g.timestamp - f.timestamp = (kind.period : ℝ) * 0.005) ∧
      frames.length = (batchOrder.map fun kind => 200 ⌈/⌉ kind.period).sum ∧
      ∀ longerSec, 200 ≤ totalSteps longerSec →
        ∃ longer, generateBatch MathModule.real longerSec = .ok longer ∧ frames <+: longer :=
  batch_timeline MathModule.real_sinBounded (totalSteps_natCast 200)

end CanSentinel
