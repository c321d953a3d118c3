import CanSentinel.Lib.History
import CanSentinel.Lib.Machine

/-!
# Counting and timing arrivals

Two things a monitor keeps about a sequence of keyed events: how many there were of each
key, and how long it has been since the last one.

- `Tallies m keys`: the map `m` counts the keys; `Tallies.insert` is its step lemma,
  `Tallies.sum` adds the counters up.
- `gaps`, `keyGaps`: the times between successive events, of all keys and of each key.
- `sum_gaps`: forwards in time the gaps telescope, and `keyGaps_filter` makes the same of
  the gaps of one key.
- `gap_le_sinceKey`: the last event of a key is no later than the last event.
-/

namespace CanSentinel

/-! ## Counters -/

section Tally

variable {K : Type} [DecidableEq K]

/-- `sum(m.values())`. -/
def sumValues (m : Dict K ℕ) : ℕ := ∑ k ∈ m.keys, (m.lookup k).getD 0

/-- The map `m` holds the number of occurrences of every key. -/
def Tallies (m : Dict K ℕ) (keys : List K) : Prop :=
  ∀ k, m.lookup k = if k ∈ keys then some (keys.count k) else none

variable {m : Dict K ℕ} {keys : List K}

theorem tallies_empty : Tallies (∅ : Dict K ℕ) [] := fun _ => by simp

theorem Tallies.getD (h : Tallies m keys) (k : K) : (m.lookup k).getD 0 = keys.count k := by
  rw [h k]
  by_cases hk : k ∈ keys
  · rw [if_pos hk]
    rfl
  · rw [if_neg hk, List.count_eq_zero_of_not_mem hk]
    rfl

/-- One more occurrence: `m[k] = m.get(k, 0) + 1`. -/
theorem Tallies.insert (h : Tallies m keys) (k : K) :
    Tallies (m.insert k ((m.lookup k).getD 0 + 1)) (keys ++ [k]) := by
  intro k'
  rw [h.getD, List.count_append]
  by_cases hk : k = k'
  · subst hk
    rw [Finmap.lookup_insert, if_pos (by simp), List.count_singleton_self]
  · rw [Finmap.lookup_insert_of_ne _ (Ne.symm hk), h k']
    have hmem : k' ∈ keys ++ [k] ↔ k' ∈ keys := by simp [Ne.symm hk]
    have hcount : [k].count k' = 0 := List.count_eq_zero_of_not_mem (by simp [Ne.symm hk])
    rw [hcount, Nat.add_zero]
    exact (if_congr hmem rfl rfl).symm

theorem Tallies.keys_eq (h : Tallies m keys) : m.keys = keys.toFinset := by
  ext k
  rw [Finmap.mem_keys, ← Finmap.lookup_isSome, h k, List.mem_toFinset]
  by_cases hk : k ∈ keys
  · simp [hk]
  · simp [hk]

/-- The counters add up to the number of events. -/
theorem Tallies.sum (h : Tallies m keys) : sumValues m = keys.length := by
  rw [sumValues, h.keys_eq, Finset.sum_congr rfl fun k _ => h.getD k]
  exact List.sum_toFinset_count_eq_length keys

/-- A map that tracks values of the same keys has the same keys. -/
theorem Tracks.keys_eq {V : Type} {m : Dict K V} {H : List (K × V)} (h : Tracks m H) :
    m.keys = (H.map Prod.fst).toFinset := by
  ext k
  rw [Finmap.mem_keys, ← Finmap.lookup_isSome, h k, List.mem_toFinset, lastOf]
  simp

end Tally

/-! ## Gaps -/

section Gaps

variable {R : Type} [PyFloat R]

/-- The times since the previous event, `0` for the first. -/
def gaps (ts : List R) : List R := Machine.replay (fun pre t => elapsed pre.getLast? t) [] ts

theorem gaps_concat (ts : List R) (t : R) :
    gaps (ts ++ [t]) = gaps ts ++ [elapsed ts.getLast? t] :=
  Machine.replay_concat _ [] ts t

/-- **The gaps telescope.** -/
theorem sum_gaps {ts : List R} (hsorted : ts.Pairwise (· ≤ ·)) {first last : R}
    (hfirst : ts.head? = some first) (hlast : ts.getLast? = some last) :
    (gaps ts).sum = last - first := by
  induction ts using List.reverseRecOn generalizing last with
  | nil => cases hfirst
  | append_singleton ts t ih =>
    obtain ⟨hts, _, hle⟩ := List.pairwise_append.mp hsorted
    rw [List.getLast?_concat, Option.some.injEq] at hlast
    subst hlast
    rw [gaps_concat, List.sum_append, List.sum_singleton]
    cases hprev : ts.getLast? with
    | none =>
      rw [List.getLast?_eq_none_iff] at hprev
      subst hprev
      rw [List.nil_append, List.head?_singleton, Option.some.injEq] at hfirst
      rw [hfirst, sub_self]
      exact add_zero 0
    | some prev =>
      have hmem : prev ∈ ts := List.mem_of_getLast? hprev
      have hhead : ts.head? = some first := by
        rwa [List.head?_append_of_ne_nil _ (List.ne_nil_of_mem hmem)] at hfirst
      rw [ih hts hhead hprev, elapsed_of_le (hle prev hmem t (List.mem_singleton_self t))]
      ring

variable {K : Type} [DecidableEq K]

/-- The times since the previous event of the same key. -/
def keyGaps (H : List (K × R)) : List (K × R) :=
  Machine.replay (fun pre e => (e.1, sinceKey pre e.1 e.2)) [] H

theorem keyGaps_concat (H : List (K × R)) (k : K) (t : R) :
    keyGaps (H ++ [(k, t)]) = keyGaps H ++ [(k, sinceKey H k t)] :=
  Machine.replay_concat _ [] H (k, t)

/-- The events of one key are timed as if there were no others. -/
theorem keyGaps_filter (H : List (K × R)) (k : K) :
    ((keyGaps H).filter fun e => e.1 = k).map Prod.snd =
      gaps ((H.filter fun e => e.1 = k).map Prod.snd) := by
  induction H using List.reverseRecOn with
  | nil => rfl
  | append_singleton H e ih =>
    obtain ⟨k', t⟩ := e
    rw [keyGaps_concat, List.filter_append, List.filter_append, List.map_append,
      List.map_append, ih]
    by_cases hk : k' = k
    · subst hk
      have hlast : lastOf H k' = ((H.filter fun e => e.1 = k').map Prod.snd).getLast? := by
        rw [lastOf, List.getLast?_map]
      simp [sinceKey, hlast, gaps_concat]
    · simp [hk]

/-- Nothing in a chronological list is later than its last time. -/
theorem le_of_getLast? {ts : List R} (hsorted : ts.Pairwise (· ≤ ·)) {t last : R}
    (hlast : ts.getLast? = some last) (ht : t ∈ ts) : t ≤ last := by
  obtain ⟨init, rfl⟩ := List.getLast?_eq_some_iff.mp hlast
  obtain hmem | hmem := List.mem_append.mp ht
  · exact (List.pairwise_append.mp hsorted).2.2 t hmem last (List.mem_singleton_self last)
  · exact (List.mem_singleton.mp hmem).le

/-- A key seen before has been seen no later than the last event. -/
theorem gap_le_sinceKey {H : List (K × R)} {k : K} {t : R}
    (hsorted : (H.map Prod.snd).Pairwise (· ≤ ·)) (hseen : k ∈ H.map Prod.fst) :
    elapsed (H.map Prod.snd).getLast? t ≤ sinceKey H k t := by
  have hkey : (H.filter fun e => e.1 = k) ≠ [] := by
    obtain ⟨e, he, rfl⟩ := List.mem_map.mp hseen
    exact List.ne_nil_of_mem (List.mem_filter.mpr ⟨he, by simp⟩)
  obtain ⟨e, he⟩ := Option.isSome_iff_exists.mp (List.getLast?_isSome.mpr hkey)
  have hmem : e ∈ H := List.mem_of_mem_filter (List.mem_of_getLast? he)
  have hne : H.map Prod.snd ≠ [] := List.ne_nil_of_mem (List.mem_map_of_mem hmem)
  obtain ⟨last, hlast⟩ := Option.isSome_iff_exists.mp (List.getLast?_isSome.mpr hne)
  have hle : e.2 ≤ last := le_of_getLast? hsorted hlast (List.mem_map_of_mem hmem)
  rw [sinceKey, lastOf, he, hlast]
  exact max_le_max le_rfl (sub_le_sub_left hle t)

end Gaps

end CanSentinel
