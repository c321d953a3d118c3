import Mathlib

/-!
# Bounded deques

Python's `collections.deque(maxlen=n)` as a structure that carries its bound.

- `Deque.append` drops the oldest item when the deque is full; with
  `maxlen = 0` it keeps nothing.
- `Deque.Holds d H`: the deque holds the last `min(|H|, maxlen)` items of the
  history `H`. `Deque.Holds.append` is its step lemma.
-/

namespace CanSentinel

universe u

variable {α : Type u}

/-- `collections.deque(maxlen=maxlen)`: at most `maxlen` items, oldest first. -/
@[ext] structure Deque (α : Type u) where
  maxlen : ℕ
  items : List α
  bounded : items.length ≤ maxlen
deriving DecidableEq

namespace Deque

/-- A fresh deque. -/
def empty (α : Type u) (maxlen : ℕ) : Deque α := ⟨maxlen, [], Nat.zero_le _⟩

theorem length_rtake_le (xs : List α) (n : ℕ) : (xs.rtake n).length ≤ n := by
  rw [List.rtake, List.length_drop]
  omega

/-- `append`: the new item enters on the right; a full deque discards from the
left. -/
def append (d : Deque α) (a : α) : Deque α :=
  ⟨d.maxlen, (d.items ++ [a]).rtake d.maxlen, length_rtake_le _ _⟩

/-- `clear`. -/
def clear (d : Deque α) : Deque α := empty α d.maxlen

@[simp] theorem empty_items (maxlen : ℕ) : (empty α maxlen).items = [] := rfl

@[simp] theorem empty_maxlen (maxlen : ℕ) : (empty α maxlen).maxlen = maxlen := rfl

@[simp] theorem append_maxlen (d : Deque α) (a : α) : (d.append a).maxlen = d.maxlen := rfl

@[simp] theorem append_items (d : Deque α) (a : α) :
    (d.append a).items = (d.items ++ [a]).rtake d.maxlen := rfl

@[simp] theorem clear_maxlen (d : Deque α) : d.clear.maxlen = d.maxlen := rfl

@[simp] theorem clear_items (d : Deque α) : d.clear.items = [] := rfl

/-- Evicting first and appending then is appending to the whole history. -/
theorem rtake_rtake_append (xs : List α) (a : α) (n : ℕ) :
    (xs.rtake n ++ [a]).rtake n = (xs ++ [a]).rtake n := by
  cases n with
  | zero => simp
  | succ n =>
    rw [List.rtake_concat_succ, List.rtake_concat_succ]
    simp only [List.rtake, List.length_drop, List.drop_drop]
    congr 2
    omega

theorem rtake_map {β : Type*} (f : α → β) (xs : List α) (n : ℕ) :
    (xs.map f).rtake n = (xs.rtake n).map f := by
  rw [List.rtake, List.rtake, List.length_map, List.map_drop]

/-- The deque holds the most recent items of the history `H`, as many as fit. -/
def Holds (d : Deque α) (H : List α) : Prop := d.items = H.rtake d.maxlen

theorem holds_empty (maxlen : ℕ) : (empty α maxlen).Holds [] := by simp [Holds]

theorem holds_clear (d : Deque α) : d.clear.Holds [] := holds_empty _

/-- One `append` extends the history by one item. -/
theorem Holds.append {d : Deque α} {H : List α} (h : d.Holds H) (a : α) :
    (d.append a).Holds (H ++ [a]) := by
  rw [Holds, append_items, append_maxlen, h, rtake_rtake_append]

theorem length_rtake (xs : List α) (n : ℕ) : (xs.rtake n).length = min xs.length n := by
  rw [List.rtake, List.length_drop]
  omega

theorem Holds.length_items {d : Deque α} {H : List α} (h : d.Holds H) :
    d.items.length = min H.length d.maxlen := by
  rw [h, length_rtake]

/-- After an `append` the deque is non-empty, unless it holds nothing at all. -/
theorem length_append_pos (d : Deque α) (a : α) (h : 0 < d.maxlen) :
    0 < (d.append a).items.length := by
  rw [append_items, length_rtake, List.length_append, List.length_singleton]
  omega

theorem length_items_of_maxlen_zero (d : Deque α) (h : d.maxlen = 0) : d.items.length = 0 := by
  have := d.bounded
  omega

/-- A deque with no room is not changed by an `append`. -/
theorem append_of_maxlen_zero (d : Deque α) {a : α} (h : d.maxlen = 0) : d.append a = d := by
  have hitems : (d.append a).items = d.items := by
    rw [append_items, h, List.rtake_zero,
      List.eq_nil_of_length_eq_zero (d.length_items_of_maxlen_zero h)]
  exact Deque.ext rfl hitems

end Deque

end CanSentinel
