import CanSentinel.Lib.Machine

/-!
# Write-behind buffers shared by threads

Items are appended to a shared buffer; a flush writes the items now in the buffer to
the output and clears the buffer afterwards, in two steps. Items are numbered in the
order they are appended, so the output says what became of each.

- `Disturbs s a`: the step `a` falls between the write and the clear of some flush,
  where it can do harm.
- `Good`, `Broken`: the two invariants. Undisturbed, the items are in order; one
  disturbing step breaks the balance of two items, and no later step repairs it.
- `exactly_once_iff`: after a last flush every item is in the output exactly once if
  and only if the run was undisturbed.
-/

namespace CanSentinel

universe u

/-- A buffer shared by the threads `ι`: the number of the next item, the items in the
buffer, the output, and which threads stand between write and clear. -/
structure WriteBehind (ι : Type u) where
  next : ℕ
  buffered : List ℕ
  written : List ℕ
  pending : ι → Bool

namespace WriteBehind

variable {ι : Type u} [DecidableEq ι]

/-- A step of some thread. -/
inductive Action (ι : Type u) where
  | append
  | write (i : ι)
  | clear (i : ι)

/-- Nothing has been appended. -/
def init : WriteBehind ι := ⟨0, [], [], fun _ => false⟩

/-- One step; a write that finds the buffer empty is the whole flush. -/
def step (s : WriteBehind ι) : Action ι → Option (WriteBehind ι)
  | .append => some { s with next := s.next + 1, buffered := s.buffered ++ [s.next] }
  | .write i =>
    if s.pending i = true then none
    else if s.buffered = [] then some s
    else some { s with
      written := s.written ++ s.buffered
      pending := Function.update s.pending i true }
  | .clear i =>
    if s.pending i = true then
      some { s with buffered := [], pending := Function.update s.pending i false }
    else none

/-- What a step can do. -/
inductive Step (s : WriteBehind ι) : Action ι → WriteBehind ι → Prop
  | append : Step s .append { s with next := s.next + 1, buffered := s.buffered ++ [s.next] }
  | idle (i : ι) : s.buffered = [] → Step s (.write i) s
  | write (i : ι) : s.buffered ≠ [] → Step s (.write i) { s with
      written := s.written ++ s.buffered
      pending := Function.update s.pending i true }
  | clear (i : ι) : s.pending i = true → Step s (.clear i) { s with
      buffered := []
      pending := Function.update s.pending i false }

/-- **Inversion of a step.** -/
theorem step_of_eq_some {s s' : WriteBehind ι} {a : Action ι} (h : s.step a = some s') :
    Step s a s' := by
  cases a with
  | append =>
    cases h
    exact .append
  | write i =>
    rw [step] at h
    by_cases hpending : s.pending i = true
    · rw [if_pos hpending] at h
      cases h
    · rw [if_neg hpending] at h
      by_cases hnil : s.buffered = []
      · rw [if_pos hnil] at h
        cases h
        exact .idle i hnil
      · rw [if_neg hnil] at h
        cases h
        exact .write i hnil
  | clear i =>
    rw [step] at h
    by_cases hpending : s.pending i = true
    · rw [if_pos hpending] at h
      cases h
      exact .clear i hpending
    · rw [if_neg hpending] at h
      cases h

/-- No flush stands between its write and its clear. -/
def Quiet (s : WriteBehind ι) : Prop := ∀ i, s.pending i = false

omit [DecidableEq ι] in
theorem Quiet.not_pending {s : WriteBehind ι} (h : s.Quiet) {i : ι} :
    ¬ s.pending i = true := by
  rw [h i]
  exact Bool.false_ne_true

/-- An append, or a write of some items, while a flush has yet to clear the buffer. -/
def Disturbs (s : WriteBehind ι) : Action ι → Prop
  | .append => ¬ s.Quiet
  | .write _ => s.buffered ≠ [] ∧ ¬ s.Quiet
  | .clear _ => False

/-- No step of the run disturbs a flush. -/
def Undisturbed (as : List (Action ι)) : Prop :=
  Machine.AlongRun step (fun s a => ¬ s.Disturbs a) init as

/-! ## Undisturbed runs -/

/-- Every item is in its place: between flushes the output and the buffer hold all
items in order; during a flush, which is then the only one, the output does, and the
buffer is its last part. -/
inductive Good (s : WriteBehind ι) : Prop
  | between : s.Quiet → s.written ++ s.buffered = List.range s.next → Good s
  | during (i : ι) : s.pending i = true → (∀ j, s.pending j = true → j = i) →
      s.buffered ≠ [] → s.written = List.range s.next → s.buffered <:+ s.written → Good s

omit [DecidableEq ι] in
theorem good_init : Good (init : WriteBehind ι) := .between (fun _ => rfl) rfl

omit [DecidableEq ι] in
/-- Without a flush under way only the first case is possible. -/
theorem Good.range {s : WriteBehind ι} (h : Good s) (hquiet : s.Quiet) :
    s.written ++ s.buffered = List.range s.next := by
  cases h with
  | between _ hrange => exact hrange
  | during i hi _ _ _ _ => exact absurd hi hquiet.not_pending

/-- **The step** of an undisturbed run. -/
theorem Good.step {s s' : WriteBehind ι} {a : Action ι} (h : Good s) (ha : ¬ s.Disturbs a)
    (hstep : s.step a = some s') : Good s' := by
  cases step_of_eq_some hstep with
  | append =>
    have hquiet : s.Quiet := not_not.mp ha
    refine .between hquiet ?_
    show s.written ++ (s.buffered ++ [s.next]) = List.range (s.next + 1)
    rw [← List.append_assoc, h.range hquiet, List.range_succ]
  | idle i _ => exact h
  | write i hne =>
    have hquiet : s.Quiet := by
      by_contra hnot
      exact ha ⟨hne, hnot⟩
    refine .during i (Function.update_self _ _ _) ?_ hne (h.range hquiet) (List.suffix_append _ _)
    intro j hj
    by_contra hji
    refine hquiet.not_pending (i := j) ?_
    rw [← hj]
    exact (Function.update_of_ne hji _ _).symm
  | clear i hi =>
    cases h with
    | between hquiet _ => exact absurd hi hquiet.not_pending
    | during j _ honly _ hrange _ =>
      -- the buffer is part of the output already, so clearing it loses nothing
      refine .between ?_ ((List.append_nil _).trans hrange)
      intro k
      show Function.update s.pending i false k = false
      by_cases hki : k = i
      · rw [hki, Function.update_self]
      · rw [Function.update_of_ne hki]
        by_contra hk
        rw [Bool.not_eq_false] at hk
        exact hki ((honly k hk).trans (honly i hi).symm)

/-! ## Disturbed runs -/

/-- Some item is in the output twice, or has been written once more often than another
one while both are in the buffer equally often. -/
inductive Broken (s : WriteBehind ι) : Prop
  | twice (k : ℕ) : k < s.next → 2 ≤ s.written.count k → Broken s
  | apart (k m : ℕ) : k < s.next → m < s.next → s.written.count k = s.written.count m + 1 →
      s.buffered.count k = s.buffered.count m → Broken s

/-- No step repairs it. -/
theorem Broken.step {s s' : WriteBehind ι} {a : Action ι} (h : Broken s)
    (hstep : s.step a = some s') : Broken s' := by
  cases step_of_eq_some hstep with
  | append =>
    cases h with
    | twice k hk hcount => exact .twice k (Nat.lt_succ_of_lt hk) hcount
    | apart k m hk hm hwritten hbuffered =>
      refine .apart k m (Nat.lt_succ_of_lt hk) (Nat.lt_succ_of_lt hm) hwritten ?_
      show (s.buffered ++ [s.next]).count k = (s.buffered ++ [s.next]).count m
      rw [List.count_append, List.count_append, hbuffered, List.count_singleton,
        List.count_singleton]
      simp [hk.ne', hm.ne']
  | idle i _ => exact h
  | write i _ =>
    have hcount : ∀ k, (s.written ++ s.buffered).count k =
        s.written.count k + s.buffered.count k := fun _ => List.count_append
    cases h with
    | twice k hk htwice => exact .twice k hk (by rw [hcount]; omega)
    | apart k m hk hm hwritten hbuffered =>
      exact .apart k m hk hm (by rw [hcount, hcount]; omega) hbuffered
  | clear i _ =>
    cases h with
    | twice k hk hcount => exact .twice k hk hcount
    | apart k m hk hm hwritten _ => exact .apart k m hk hm hwritten rfl

/-- A disturbing step breaks a good state: a second write repeats the buffer, and an
appended item joins items that are already written. -/
theorem Good.broken {s s' : WriteBehind ι} {a : Action ι} (h : Good s) (ha : s.Disturbs a)
    (hstep : s.step a = some s') : Broken s' := by
  have hnot : ¬ s.Quiet := by
    cases a with
    | append => exact ha
    | write i => exact ha.2
    | clear i => exact ha.elim
  cases h with
  | between hquiet _ => exact absurd hquiet hnot
  | during i _ _ hne hrange hsuffix =>
    -- an item that is in the output and still in the buffer, once each
    obtain ⟨k, hk⟩ := List.exists_mem_of_ne_nil _ hne
    have hkw : k ∈ s.written := hsuffix.subset hk
    have hklt : k < s.next := by
      rw [hrange, List.mem_range] at hkw
      exact hkw
    have hnodup : s.written.Nodup := by
      rw [hrange]
      exact List.nodup_range
    have hwritten : s.written.count k = 1 := List.count_eq_one_of_mem hnodup hkw
    have hbuffered : s.buffered.count k = 1 :=
      List.count_eq_one_of_mem (hnodup.sublist hsuffix.sublist) hk
    cases step_of_eq_some hstep with
    | append =>
      have hfresh : s.next ∉ s.written := by
        rw [hrange]
        exact List.not_mem_range_self
      refine .apart k s.next (Nat.lt_succ_of_lt hklt) (Nat.lt_succ_self _) ?_ ?_
      · show s.written.count k = s.written.count s.next + 1
        rw [hwritten, List.count_eq_zero_of_not_mem hfresh]
      · show (s.buffered ++ [s.next]).count k = (s.buffered ++ [s.next]).count s.next
        rw [List.count_append, List.count_append, hbuffered,
          List.count_eq_zero_of_not_mem fun hmem => hfresh (hsuffix.subset hmem),
          List.count_singleton, List.count_singleton]
        simp [hklt.ne']
    | idle j hnil => exact absurd hnil hne
    | write j _ =>
      refine .twice k hklt ?_
      show 2 ≤ (s.written ++ s.buffered).count k
      rw [List.count_append, hwritten, hbuffered]
    | clear j _ => exact ha.elim

/-! ## Runs -/

/-- Along every run: good while undisturbed, broken afterwards. -/
theorem good_or_broken {as : List (Action ι)} {s : WriteBehind ι}
    (hrun : Machine.run step init as = some s) :
    (Undisturbed as ∧ Good s) ∨ (¬ Undisturbed as ∧ Broken s) := by
  refine Machine.run_induction (I := fun as s =>
    (Undisturbed as ∧ Good s) ∨ (¬ Undisturbed as ∧ Broken s)) ?_ ?_ hrun
  · exact .inl ⟨Machine.alongRun_nil _ _ _, good_init⟩
  · intro pre s a s' hpre h hstep
    rw [Undisturbed, Machine.alongRun_concat _ hpre, ← Undisturbed]
    rcases h with ⟨hundisturbed, hgood⟩ | ⟨hdisturbed, hbroken⟩
    · by_cases ha : s.Disturbs a
      · exact .inr ⟨fun hboth => hboth.2 ha, hgood.broken ha hstep⟩
      · exact .inl ⟨⟨hundisturbed, ha⟩, hgood.step ha hstep⟩
    · exact .inr ⟨fun hboth => hdisturbed hboth.1, hbroken.step hstep⟩

/-- **Exactly once.** When no flush is under way, writing out the rest of the buffer
puts every item into the output exactly once if and only if the run was undisturbed;
the output is then the items in order. -/
theorem exactly_once_iff {as : List (Action ι)} {s : WriteBehind ι}
    (hrun : Machine.run step init as = some s) (hquiet : s.Quiet) :
    ((∀ k < s.next, (s.written ++ s.buffered).count k = 1) ↔ Undisturbed as) ∧
      (Undisturbed as → s.written ++ s.buffered = List.range s.next) := by
  rcases good_or_broken hrun with ⟨hundisturbed, hgood⟩ | ⟨hdisturbed, hbroken⟩
  · have hrange := hgood.range hquiet
    refine ⟨iff_of_true ?_ hundisturbed, fun _ => hrange⟩
    intro k hk
    rw [hrange]
    exact List.count_eq_one_of_mem List.nodup_range (List.mem_range.mpr hk)
  · refine ⟨iff_of_false ?_ hdisturbed, fun h => absurd h hdisturbed⟩
    intro honce
    cases hbroken with
    | twice k hk hcount =>
      have hk1 := honce k hk
      rw [List.count_append] at hk1
      omega
    | apart k m hk hm hwritten hbuffered =>
      have hk1 := honce k hk
      have hm1 := honce m hm
      rw [List.count_append] at hk1 hm1
      omega

end WriteBehind

end CanSentinel
