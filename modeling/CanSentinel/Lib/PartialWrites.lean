import CanSentinel.Lib.Framing

/-!
# Partial writes on a framed stream

A sender writes records of `k` bytes; a write may transfer only the first bytes of its
record, and the receiver cuts the stream at fixed positions.

- `PartialWrite`, `stream`: the writes and the bytes they put on the stream.
- `leftover k ws`: the bytes from the first short write on.
- `blocks_stream`: as long as these are less than a record, the receiver cuts exactly
  the records written in full before.
- `unmixed_iff`: this is also necessary. Once they are a record or more, the receiver
  cuts a block from the bytes of two writes.
-/

namespace CanSentinel.Framing

universe u

variable {α : Type u} {k : ℕ}

/-- A write of a record that transferred its first `count` bytes. -/
structure PartialWrite (α : Type u) where
  record : List α
  count : ℕ

/-- The bytes transferred. -/
def PartialWrite.sent (w : PartialWrite α) : List α := w.record.take w.count

/-- The bytes on the stream. -/
def stream (ws : List (PartialWrite α)) : List α := ws.flatMap PartialWrite.sent

/-- The bytes on the stream, each with the number of its write, counted from `n`. -/
def taggedStream (ws : List (PartialWrite α)) (n : ℕ) : List (α × ℕ) :=
  (ws.zipIdx n).flatMap fun w => w.1.sent.map fun x => (x, w.2)

/-- Every block the receiver cuts comes from one write. -/
def Unmixed (k : ℕ) (xs : List (α × ℕ)) : Prop :=
  ∀ block ∈ blocks k xs, ∀ x ∈ block, ∀ y ∈ block, x.2 = y.2

/-- The whole record was transferred. -/
def PartialWrite.isFull (k : ℕ) (w : PartialWrite α) : Bool := decide (k ≤ w.count)

/-- The writes from the first short one on. -/
def fromFirstShort (k : ℕ) (ws : List (PartialWrite α)) : List (PartialWrite α) :=
  ws.dropWhile (PartialWrite.isFull k)

/-- The writes before the first short one. -/
def beforeFirstShort (k : ℕ) (ws : List (PartialWrite α)) : List (PartialWrite α) :=
  ws.takeWhile (PartialWrite.isFull k)

/-- How many bytes were transferred from the first short write on. -/
def leftover (k : ℕ) (ws : List (PartialWrite α)) : ℕ :=
  ((fromFirstShort k ws).map PartialWrite.count).sum

/-- The writes of records of `k` bytes, of which only the last may transfer nothing. -/
structure Writes (k : ℕ) (ws : List (PartialWrite α)) : Prop where
  length : ∀ w ∈ ws, w.record.length = k
  le : ∀ w ∈ ws, w.count ≤ k
  pos : ∀ w ∈ ws.dropLast, 0 < w.count

theorem PartialWrite.length_sent {w : PartialWrite α} (hlen : w.record.length = k)
    (hle : w.count ≤ k) : w.sent.length = w.count := by
  rw [sent, List.length_take, hlen, min_eq_left hle]

theorem PartialWrite.sent_of_full {w : PartialWrite α} (hlen : w.record.length = k)
    (hfull : w.isFull k = true) : w.sent = w.record := by
  refine List.take_of_length_le ?_
  rw [hlen]
  exact of_decide_eq_true hfull

@[simp] theorem taggedStream_nil (n : ℕ) : taggedStream ([] : List (PartialWrite α)) n = [] := rfl

@[simp] theorem taggedStream_cons (w : PartialWrite α) (ws : List (PartialWrite α)) (n : ℕ) :
    taggedStream (w :: ws) n = (w.sent.map fun x => (x, n)) ++ taggedStream ws (n + 1) := rfl

theorem stream_append (ws vs : List (PartialWrite α)) :
    stream (ws ++ vs) = stream ws ++ stream vs := List.flatMap_append

/-- Without the numbers it is the stream. -/
theorem map_fst_taggedStream (ws : List (PartialWrite α)) (n : ℕ) :
    (taggedStream ws n).map Prod.fst = stream ws := by
  induction ws generalizing n with
  | nil => rfl
  | cons w ws ih =>
    rw [taggedStream_cons, List.map_append, ih, List.map_map]
    exact congrArg (· ++ _) (List.map_id _)

theorem length_taggedStream {ws : List (PartialWrite α)} (hlen : ∀ w ∈ ws, w.record.length = k)
    (hle : ∀ w ∈ ws, w.count ≤ k) (n : ℕ) :
    (taggedStream ws n).length = (ws.map PartialWrite.count).sum := by
  induction ws generalizing n with
  | nil => rfl
  | cons w ws ih =>
    rw [List.forall_mem_cons] at hlen hle
    rw [taggedStream_cons, List.length_append, List.length_map, w.length_sent hlen.1 hle.1,
      ih hlen.2 hle.2, List.map_cons, List.sum_cons]

/-- The numbers on the stream are not below the first. -/
theorem le_of_mem_taggedStream {ws : List (PartialWrite α)} {n : ℕ} {x : α × ℕ}
    (hx : x ∈ taggedStream ws n) : n ≤ x.2 := by
  obtain ⟨w, hw, hx⟩ := List.mem_flatMap.mp hx
  obtain ⟨a, _, rfl⟩ := List.mem_map.mp hx
  exact (List.mem_zipIdx hw).1

/-! ## Full writes -/

/-- Full writes put their records on the stream. -/
theorem stream_of_full {ws : List (PartialWrite α)} (hlen : ∀ w ∈ ws, w.record.length = k)
    (hfull : ∀ w ∈ ws, w.isFull k = true) :
    stream ws = (ws.map PartialWrite.record).flatten := by
  rw [stream, List.flatMap_def]
  refine congrArg _ (List.map_congr_left ?_)
  intro w hw
  exact w.sent_of_full (hlen w hw) (hfull w hw)

/-- Every block of full writes comes from one write, whatever follows. -/
theorem unmixed_append_iff (hk : 0 < k) {ws : List (PartialWrite α)}
    (hlen : ∀ w ∈ ws, w.record.length = k) (hfull : ∀ w ∈ ws, w.isFull k = true) (n : ℕ)
    (rest : List (α × ℕ)) : Unmixed k (taggedStream ws n ++ rest) ↔ Unmixed k rest := by
  induction ws generalizing n with
  | nil => rfl
  | cons w ws ih =>
    rw [List.forall_mem_cons] at hlen hfull
    have hblock : (w.sent.map fun x => (x, n)).length = k := by
      rw [List.length_map, w.sent_of_full hlen.1 hfull.1, hlen.1]
    rw [taggedStream_cons, List.append_assoc, Unmixed, blocks_append_cons hk hblock,
      List.forall_mem_cons, ← Unmixed, ih hlen.2 hfull.2]
    refine and_iff_right ?_
    intro x hx y hy
    obtain ⟨a, _, rfl⟩ := List.mem_map.mp hx
    obtain ⟨b, _, rfl⟩ := List.mem_map.mp hy
    rfl

/-! ## The first short write -/

theorem before_append_from (k : ℕ) (ws : List (PartialWrite α)) :
    beforeFirstShort k ws ++ fromFirstShort k ws = ws := List.takeWhile_append_dropWhile

theorem isFull_of_mem_before {ws : List (PartialWrite α)} {w : PartialWrite α}
    (hw : w ∈ beforeFirstShort k ws) : w.isFull k = true := List.mem_takeWhile_imp hw

theorem mem_of_mem_before {ws : List (PartialWrite α)} {w : PartialWrite α}
    (hw : w ∈ beforeFirstShort k ws) : w ∈ ws :=
  before_append_from k ws ▸ List.mem_append_left _ hw

theorem mem_of_mem_from {ws : List (PartialWrite α)} {w : PartialWrite α}
    (hw : w ∈ fromFirstShort k ws) : w ∈ ws :=
  before_append_from k ws ▸ List.mem_append_right _ hw

/-- Full writes and then short ones only. -/
theorem before_from_of_split {ws vs : List (PartialWrite α)} (hws : ∀ w ∈ ws, w.isFull k = true)
    (hvs : ∀ w ∈ vs, ¬ w.isFull k = true) :
    beforeFirstShort k (ws ++ vs) = ws ∧ fromFirstShort k (ws ++ vs) = vs := by
  rw [beforeFirstShort, fromFirstShort, List.takeWhile_append_of_pos hws,
    List.dropWhile_append_of_pos hws]
  cases vs with
  | nil => simp
  | cons v vs =>
    have hv : ¬ v.isFull k = true := hvs v List.mem_cons_self
    rw [List.takeWhile_cons_of_neg hv, List.dropWhile_cons_of_neg hv, List.append_nil]
    exact ⟨rfl, rfl⟩

theorem Writes.length_from {ws : List (PartialWrite α)} (h : Writes k ws) (n : ℕ) :
    (taggedStream (fromFirstShort k ws) n).length = leftover k ws :=
  length_taggedStream (fun w hw => h.length w (mem_of_mem_from hw))
    (fun w hw => h.le w (mem_of_mem_from hw)) n

theorem Writes.length_before {ws : List (PartialWrite α)} (h : Writes k ws) :
    ∀ w ∈ beforeFirstShort k ws, w.record.length = k :=
  fun w hw => h.length w (mem_of_mem_before hw)

/-- **Short of a record.** If fewer than `k` bytes follow the full writes, the receiver
cuts exactly their records and holds the rest. -/
theorem Writes.blocks_stream {ws : List (PartialWrite α)} (h : Writes k ws)
    (hlt : leftover k ws < k) :
    blocks k (stream ws) = (beforeFirstShort k ws).map PartialWrite.record ∧
      residue k (stream ws) = stream (fromFirstShort k ws) := by
  have hrest : (stream (fromFirstShort k ws)).length < k := by
    rw [← map_fst_taggedStream _ 0, List.length_map, h.length_from]
    exact hlt
  have hrecords : ∀ b ∈ (beforeFirstShort k ws).map PartialWrite.record, b.length = k := by
    intro b hb
    obtain ⟨w, hw, rfl⟩ := List.mem_map.mp hb
    exact h.length_before w hw
  have hstream : stream ws = ((beforeFirstShort k ws).map PartialWrite.record).flatten ++
      stream (fromFirstShort k ws) := by
    rw [← stream_of_full h.length_before fun w hw => isFull_of_mem_before hw, ← stream_append,
      before_append_from]
  rw [hstream]
  exact blocks_unique (Nat.zero_lt_of_lt hlt) hrecords hrest

/-- The stream by full writes and the rest. -/
theorem taggedStream_before_append_from (ws : List (PartialWrite α)) :
    taggedStream ws 0 = taggedStream (beforeFirstShort k ws) 0 ++
      taggedStream (fromFirstShort k ws) (beforeFirstShort k ws).length := by
  conv_lhs => rw [← before_append_from k ws]
  rw [taggedStream, List.zipIdx_append, List.flatMap_append, Nat.zero_add]
  rfl

/-- The first block of a stream that is long enough. -/
theorem take_mem_blocks (hk : 0 < k) {xs : List α} (hlen : k ≤ xs.length) :
    xs.take k ∈ blocks k xs := by
  have htake : (xs.take k).length = k := by
    rw [List.length_take, min_eq_left hlen]
  have hcut := blocks_append_cons hk htake (xs.drop k)
  rw [List.take_append_drop] at hcut
  rw [hcut]
  exact List.mem_cons_self

/-- A short write followed by enough bytes shares a block with the next ones. -/
theorem not_unmixed_of_short {w : PartialWrite α} {ws : List (PartialWrite α)}
    (hshort : w.sent.length < k) (hpos : 0 < w.sent.length) (n : ℕ)
    (hlen : k ≤ (taggedStream (w :: ws) n).length) : ¬ Unmixed k (taggedStream (w :: ws) n) := by
  intro hunmixed
  have hblock := take_mem_blocks (Nat.zero_lt_of_lt hshort) hlen
  rw [taggedStream_cons, List.length_append, List.length_map] at hlen
  have htake : (taggedStream (w :: ws) n).take k = (w.sent.map fun x => (x, n)) ++
      (taggedStream ws (n + 1)).take (k - w.sent.length) := by
    rw [taggedStream_cons, List.take_append, List.length_map,
      List.take_of_length_le (by rw [List.length_map]; omega)]
  -- the first block holds a byte of this write and a byte of a later one
  obtain ⟨a, ha⟩ := List.exists_mem_of_length_pos hpos
  have hnext : 0 < ((taggedStream ws (n + 1)).take (k - w.sent.length)).length := by
    rw [List.length_take]
    omega
  obtain ⟨y, hy⟩ := List.exists_mem_of_length_pos hnext
  have hle : n + 1 ≤ y.2 := le_of_mem_taggedStream (List.mem_of_mem_take hy)
  have hsame : n = y.2 := by
    refine hunmixed _ hblock (a, n) ?_ y ?_
    · rw [htake]
      exact List.mem_append_left _ (List.mem_map_of_mem ha)
    · rw [htake]
      exact List.mem_append_right _ hy
  omega

/-- **When no block is mixed**: exactly when fewer than `k` bytes are transferred from
the first short write on. -/
theorem Writes.unmixed_iff {ws : List (PartialWrite α)} (h : Writes k ws) (hk : 0 < k) :
    Unmixed k (taggedStream ws 0) ↔ leftover k ws < k := by
  rw [taggedStream_before_append_from, unmixed_append_iff hk h.length_before fun w hw =>
    isFull_of_mem_before hw]
  have hlength := h.length_from (beforeFirstShort k ws).length
  constructor
  · intro hunmixed
    by_contra hnot
    rw [not_lt] at hnot
    cases hfrom : fromFirstShort k ws with
    | nil =>
      rw [leftover, hfrom, List.map_nil, List.sum_nil] at hnot
      omega
    | cons w rest =>
      rw [hfrom] at hunmixed hlength
      have hshort : w.count < k := by
        have hhead := List.head?_dropWhile_not (PartialWrite.isFull k) ws
        rw [← fromFirstShort, hfrom] at hhead
        simpa [PartialWrite.isFull] using hhead
      have hmem : w ∈ ws := mem_of_mem_from (hfrom ▸ List.mem_cons_self)
      have hsent : w.sent.length = w.count := w.length_sent (h.length w hmem) (h.le w hmem)
      -- the short write alone is less than a record, so another one follows it
      have hrest : rest ≠ [] := by
        rintro rfl
        rw [leftover, hfrom, List.map_singleton, List.sum_singleton] at hnot
        omega
      have hpos : 0 < w.count := by
        refine h.pos w ?_
        rw [← before_append_from k ws, hfrom, List.dropLast_append_of_ne_nil (List.cons_ne_nil _ _),
          List.dropLast_cons_of_ne_nil hrest]
        exact List.mem_append_right _ List.mem_cons_self
      exact not_unmixed_of_short (hsent ▸ hshort) (hsent ▸ hpos) _ (hlength ▸ hnot) hunmixed
  · intro hlt block hblock
    rw [blocks_of_lt (hlength ▸ hlt)] at hblock
    cases hblock

/-- What arrives later mixes nothing that has arrived. -/
theorem Unmixed.mono (hk : 0 < k) {xs ys : List (α × ℕ)} (h : Unmixed k ys)
    (hpre : xs <+: ys) : Unmixed k xs :=
  fun block hblock => h block ((blocks_mono hk hpre).subset hblock)

end CanSentinel.Framing
