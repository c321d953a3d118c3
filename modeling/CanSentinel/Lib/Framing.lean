import Mathlib

/-!
# Fixed-size record framing

A byte stream that carries records of `k` bytes back to back, with no
delimiter and no resynchronisation.

- `blocks k xs`: the complete records of the stream `xs`.
- `residue k xs`: what is left after them, always shorter than a record.
- `blocks_flatten_append`: a receiver that has cut `bs` off the stream and holds
  `r` has seen the records `bs` and those still in `r` — wherever the chunk
  boundaries fell.
- `blocks_mono`: what arrives later does not change the records that have arrived.
- `blocks_unique`: cutting a stream into records and a short rest can be done in
  one way only.
-/

namespace CanSentinel.Framing

universe u

variable {α : Type u} {k : ℕ}

/-- The complete records of a stream. -/
def blocks (k : ℕ) (xs : List α) : List (List α) :=
  (List.range (xs.length / k)).map fun i => (xs.drop (k * i)).take k

/-- What is left after the complete records. -/
def residue (k : ℕ) (xs : List α) : List α := xs.drop (k * (xs.length / k))

@[simp] theorem length_blocks (k : ℕ) (xs : List α) :
    (blocks k xs).length = xs.length / k := by simp [blocks]

theorem blocks_of_lt {xs : List α} (h : xs.length < k) : blocks k xs = [] := by
  simp [blocks, Nat.div_eq_of_lt h]

theorem residue_of_lt {xs : List α} (h : xs.length < k) : residue k xs = xs := by
  simp [residue, Nat.div_eq_of_lt h]

theorem length_div_append (hk : 0 < k) {b : List α} (hb : b.length = k) (xs : List α) :
    (b ++ xs).length / k = xs.length / k + 1 := by
  rw [List.length_append, hb, Nat.add_comm, Nat.add_div_right _ hk]

/-- The first record of a stream. -/
theorem blocks_append_cons (hk : 0 < k) {b : List α} (hb : b.length = k) (xs : List α) :
    blocks k (b ++ xs) = b :: blocks k xs := by
  have hdrop : ∀ i, (b ++ xs).drop (k * (i + 1)) = xs.drop (k * i) := by
    intro i
    rw [Nat.mul_succ, Nat.add_comm, ← List.drop_drop, ← hb, List.drop_left]
  have hhead : ((b ++ xs).drop (k * 0)).take k = b := by
    rw [Nat.mul_zero, List.drop_zero, ← hb, List.take_left]
  rw [blocks, length_div_append hk hb, List.range_succ_eq_map, List.map_cons, hhead,
    List.map_map, blocks]
  refine congrArg _ (List.map_congr_left ?_)
  intro i _
  show ((b ++ xs).drop (k * (i + 1))).take k = _
  rw [hdrop]

theorem residue_append_cons (hk : 0 < k) {b : List α} (hb : b.length = k) (xs : List α) :
    residue k (b ++ xs) = residue k xs := by
  rw [residue, length_div_append hk hb, Nat.mul_succ, Nat.add_comm, ← List.drop_drop, ← hb,
    List.drop_left, residue]

/-- **Chunk independence.** A receiver that has cut the records `bs` off a
stream and still holds `r` has received a stream with the records `bs` followed
by those of `r`. -/
theorem blocks_flatten_append (hk : 0 < k) {bs : List (List α)} (hbs : ∀ b ∈ bs, b.length = k)
    (r : List α) : blocks k (bs.flatten ++ r) = bs ++ blocks k r := by
  induction bs with
  | nil => rfl
  | cons b bs ih =>
    rw [List.forall_mem_cons] at hbs
    rw [List.flatten_cons, List.append_assoc, blocks_append_cons hk hbs.1, ih hbs.2]
    rfl

theorem residue_flatten_append (hk : 0 < k) {bs : List (List α)}
    (hbs : ∀ b ∈ bs, b.length = k) (r : List α) :
    residue k (bs.flatten ++ r) = residue k r := by
  induction bs with
  | nil => rfl
  | cons b bs ih =>
    rw [List.forall_mem_cons] at hbs
    rw [List.flatten_cons, List.append_assoc, residue_append_cons hk hbs.1, ih hbs.2]

/-- **Unique framing**: records followed by less than a record are the records
and the rest of the stream they make up. -/
theorem blocks_unique (hk : 0 < k) {bs : List (List α)} (hbs : ∀ b ∈ bs, b.length = k)
    {r : List α} (hr : r.length < k) :
    blocks k (bs.flatten ++ r) = bs ∧ residue k (bs.flatten ++ r) = r := by
  rw [blocks_flatten_append hk hbs, residue_flatten_append hk hbs, blocks_of_lt hr,
    residue_of_lt hr, List.append_nil]
  exact ⟨rfl, rfl⟩

/-- The records and the rest make up the stream. -/
theorem flatten_blocks_append_residue (hk : 0 < k) (xs : List α) :
    (blocks k xs).flatten ++ residue k xs = xs := by
  induction hn : xs.length using Nat.strong_induction_on generalizing xs with
  | _ n ih =>
    by_cases hlt : xs.length < k
    · rw [blocks_of_lt hlt, residue_of_lt hlt]
      rfl
    · have htake : (xs.take k).length = k := by
        rw [List.length_take]
        omega
      have hrest := ih (xs.drop k).length (by rw [List.length_drop]; omega) (xs.drop k) rfl
      rw [← List.take_append_drop k xs, blocks_append_cons hk htake,
        residue_append_cons hk htake, List.flatten_cons, List.append_assoc, hrest]

theorem length_of_mem_blocks (xs : List α) {b : List α} (hb : b ∈ blocks k xs) : b.length = k := by
  obtain ⟨i, hi, rfl⟩ := List.mem_map.mp hb
  have hlt : k * i + k ≤ k * (xs.length / k) := by
    rw [← Nat.mul_succ]
    exact Nat.mul_le_mul_left k (List.mem_range.mp hi)
  have hle := Nat.mul_div_le xs.length k
  rw [List.length_take, List.length_drop]
  omega

/-- What arrives later does not change the records that have arrived. -/
theorem blocks_mono (hk : 0 < k) {xs ys : List α} (h : xs <+: ys) :
    blocks k xs <+: blocks k ys := by
  obtain ⟨zs, rfl⟩ := h
  have hsplit := blocks_flatten_append hk (fun _ => length_of_mem_blocks xs) (residue k xs ++ zs)
  rw [← List.append_assoc, flatten_blocks_append_residue hk] at hsplit
  rw [hsplit]
  exact List.prefix_append _ _

/-- The rest has no part in the records. -/
theorem blocks_take (hk : 0 < k) (xs : List α) :
    blocks k (xs.take (k * (xs.length / k))) = blocks k xs := by
  have hflat : (blocks k xs).flatten = xs.take (k * (xs.length / k)) := by
    have hsplit := (flatten_blocks_append_residue hk xs).trans
      (List.take_append_drop (k * (xs.length / k)) xs).symm
    exact List.append_cancel_right hsplit
  have hcut := (blocks_unique (r := []) hk (fun _ => length_of_mem_blocks xs) hk).1
  rwa [List.append_nil, hflat] at hcut

end CanSentinel.Framing
