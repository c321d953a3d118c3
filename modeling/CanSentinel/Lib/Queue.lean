import Mathlib

/-!
# Bounded queues

Python's `queue.Queue(maxsize)` as a structure that carries its bound; a `maxsize` of
zero or less is no bound.

- `putNowait`, `getNowait`: `none` where the method raises `queue.Full` or
  `queue.Empty`.
- `offer`: a put whose `queue.Full` is swallowed.
-/

namespace CanSentinel

universe u

variable {α : Type u}

/-- `queue.Queue(maxsize)`, first item first. -/
structure BoundedQueue (α : Type u) where
  maxsize : ℤ
  items : List α
  bounded : 0 < maxsize → (items.length : ℤ) ≤ maxsize
deriving DecidableEq

namespace BoundedQueue

/-- A fresh queue. -/
def empty (α : Type u) (maxsize : ℤ) : BoundedQueue α := ⟨maxsize, [], fun h => h.le⟩

/-- The queue is not full. -/
def HasRoom (q : BoundedQueue α) : Prop := 0 < q.maxsize → (q.items.length : ℤ) < q.maxsize

instance (q : BoundedQueue α) : Decidable q.HasRoom :=
  inferInstanceAs (Decidable (_ → _))

/-- `put_nowait`. -/
def putNowait (q : BoundedQueue α) (a : α) : Option (BoundedQueue α) :=
  if h : q.HasRoom then
    some ⟨q.maxsize, q.items ++ [a], by
      intro hpos
      have := h hpos
      rw [List.length_append, List.length_singleton]
      omega⟩
  else none

/-- `try: put_nowait(a) except Full: pass`. -/
def offer (q : BoundedQueue α) (a : α) : BoundedQueue α := (q.putNowait a).getD q

/-- `get_nowait`. -/
def getNowait (q : BoundedQueue α) : Option (α × BoundedQueue α) :=
  match h : q.items with
  | [] => none
  | a :: rest => some (a, ⟨q.maxsize, rest, by
      intro hpos
      have := q.bounded hpos
      rw [h, List.length_cons] at this
      omega⟩)

@[simp] theorem empty_items (maxsize : ℤ) : (empty α maxsize).items = [] := rfl

@[simp] theorem empty_maxsize (maxsize : ℤ) : (empty α maxsize).maxsize = maxsize := rfl

@[simp] theorem offer_maxsize (q : BoundedQueue α) (a : α) : (q.offer a).maxsize = q.maxsize := by
  unfold offer putNowait
  by_cases h : q.HasRoom <;> simp [h]

theorem offer_items (q : BoundedQueue α) (a : α) :
    (q.offer a).items = q.items ++ if q.HasRoom then [a] else [] := by
  unfold offer putNowait
  by_cases h : q.HasRoom <;> simp [h]

/-- What a `get_nowait` that returns has done. -/
theorem getNowait_eq_some {q q' : BoundedQueue α} {a : α} (h : q.getNowait = some (a, q')) :
    q.items = a :: q'.items ∧ q'.maxsize = q.maxsize := by
  unfold getNowait at h
  split at h
  · cases h
  · next hitems =>
    cases h
    exact ⟨hitems, rfl⟩

theorem getNowait_eq_none_iff {q : BoundedQueue α} : q.getNowait = none ↔ q.items = [] := by
  unfold getNowait
  split
  · next hitems => exact ⟨fun _ => hitems, fun _ => rfl⟩
  · next hitems =>
    refine ⟨by rintro ⟨⟩, fun hnil => ?_⟩
    rw [hnil] at hitems
    cases hitems

end BoundedQueue

end CanSentinel
