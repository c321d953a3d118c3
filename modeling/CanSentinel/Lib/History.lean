import CanSentinel.Lib.Python

/-!
# Keyed histories

A tracker that remembers, for every key, the value written last is a finite map
updated in place. Its meaning is a function of the history of writes.

- `lastOf H k`: the value of the last write of `k` in the history `H`.
- `Tracks m H`: the map `m` holds exactly the last writes of `H`;
  `Tracks.insert` is its step lemma.
- `lastOf_filter`: dropping the writes of other keys does not change what is
  remembered of `k` — the non-interference of a keyed tracker.
- `elapsed last t`: the clamped time since the last event, `0` when there was
  none; `elapsed_of_le`, `elapsed_of_lt` say when the clamp acts. `sinceKey`
  reads it off a history of arrivals.
-/

namespace CanSentinel

section History

variable {K V : Type} [DecidableEq K]

/-- The value of the last write of `k`. -/
def lastOf (H : List (K × V)) (k : K) : Option V :=
  ((H.filter fun e => e.1 = k).getLast?).map Prod.snd

@[simp] theorem lastOf_nil (k : K) : lastOf ([] : List (K × V)) k = none := rfl

@[simp] theorem lastOf_concat_self (H : List (K × V)) (k : K) (v : V) :
    lastOf (H ++ [(k, v)]) k = some v := by
  simp [lastOf, List.filter_append]

theorem lastOf_concat_ne (H : List (K × V)) {k k' : K} (v : V) (h : k ≠ k') :
    lastOf (H ++ [(k, v)]) k' = lastOf H k' := by
  simp [lastOf, List.filter_append, h]

/-- **Non-interference of a keyed tracker**: the writes of other keys do not
change what is remembered of `k`. -/
@[simp] theorem lastOf_filter (H : List (K × V)) (k : K) :
    lastOf (H.filter fun e => e.1 = k) k = lastOf H k := by
  simp [lastOf, List.filter_filter]

/-- The map `m` holds exactly the last writes of the history `H`. -/
def Tracks (m : Dict K V) (H : List (K × V)) : Prop := ∀ k, m.lookup k = lastOf H k

theorem tracks_empty : Tracks (∅ : Dict K V) [] := fun _ => by simp

/-- One assignment `m[k] = v` extends the history by one write. -/
theorem Tracks.insert {m : Dict K V} {H : List (K × V)} (h : Tracks m H) (k : K) (v : V) :
    Tracks (m.insert k v) (H ++ [(k, v)]) := by
  intro k'
  by_cases hk : k = k'
  · subst hk
    rw [Finmap.lookup_insert, lastOf_concat_self]
  · rw [Finmap.lookup_insert_of_ne _ (Ne.symm hk), lastOf_concat_ne H v hk]
    exact h k'

end History

section Elapsed

variable {R : Type} [PyFloat R]

/-- `max(0.0, t - last)`, or `0.0` when nothing happened before. -/
def elapsed (last : Option R) (t : R) : R :=
  match last with
  | some l => max 0 (t - l)
  | none => 0

/-- Forwards in time the clamp does not act. -/
theorem elapsed_of_le {l t : R} (h : l ≤ t) : elapsed (some l) t = t - l :=
  max_eq_right (sub_nonneg.mpr h)

/-- Backwards in time it does. -/
theorem elapsed_of_lt {l t : R} (h : t < l) : elapsed (some l) t = 0 :=
  max_eq_left (sub_nonpos.mpr h.le)

variable {K : Type} [DecidableEq K]

/-- The time since the last arrival of the key `k`. -/
def sinceKey (H : List (K × R)) (k : K) (t : R) : R := elapsed (lastOf H k) t

end Elapsed

end CanSentinel
