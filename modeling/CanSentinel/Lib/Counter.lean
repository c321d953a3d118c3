import CanSentinel.Lib.Machine

/-!
# Counters without a lock

Threads add one to a shared counter, and no lock is held. An addition is two steps: a
thread reads the counter, and later stores one more than what it has read.

- `additions`: the additions that are complete.
- `Disturbed`: some thread has stored while another one was between its two steps.
- `value_le`: the counter never exceeds the number of additions.
- `value_eq_iff`: it is that number exactly if no addition was disturbed. What one
  disturbance loses is never made up for.
-/

namespace CanSentinel

/-- A step of the thread `i`. -/
inductive Access (ι : Type*) where
  | read (i : ι)
  | store (i : ι)
deriving DecidableEq

theorem Access.store_ne_read {ι : Type*} (i j : ι) : store i ≠ read j := nofun

/-- The counter, and what the threads have read and not yet stored. -/
structure Counter (ι : Type*) where
  value : ℕ
  held : ι → Option ℕ

namespace Counter

variable {ι : Type*} {as pre mid : List (Access ι)} {i : ι}

/-- The additions that are complete. -/
def additions : List (Access ι) → ℕ
  | [] => 0
  | .read _ :: as => additions as
  | .store _ :: as => additions as + 1

theorem additions_append (as bs : List (Access ι)) :
    additions (as ++ bs) = additions as + additions bs := by
  induction as with
  | nil => exact (Nat.zero_add _).symm
  | cons a as ih =>
    cases a with
    | read i => exact ih
    | store i =>
      show additions (as ++ bs) + 1 = additions as + 1 + additions bs
      rw [ih, Nat.add_right_comm]

theorem additions_eq_zero_iff : additions as = 0 ↔ ∀ j, Access.store j ∉ as := by
  induction as with
  | nil => exact iff_of_true rfl fun _ => List.not_mem_nil
  | cons a as ih =>
    cases a with
    | read i =>
      refine ih.trans (forall_congr' fun j => not_congr ?_)
      rw [List.mem_cons]
      exact ⟨.inr, fun h => h.resolve_left (Access.store_ne_read j i)⟩
    | store i => exact iff_of_false (Nat.succ_ne_zero _) fun h => h i List.mem_cons_self

/-- Some thread has stored while `i` was between its two steps. -/
def Disturbed (as : List (Access ι)) : Prop :=
  ∃ pre i mid post, as = pre ++ .read i :: mid ++ .store i :: post ∧ .read i ∉ mid ∧
    ∃ j, .store j ∈ mid

theorem Disturbed.append (h : Disturbed as) (bs : List (Access ι)) : Disturbed (as ++ bs) := by
  obtain ⟨pre, i, mid, post, rfl, hread, hstore⟩ := h
  refine ⟨pre, i, mid, post ++ bs, ?_, hread, hstore⟩
  rw [List.append_assoc, List.cons_append]

theorem not_disturbed_nil : ¬ Disturbed ([] : List (Access ι)) := by
  rintro ⟨pre, i, mid, post, h, -⟩
  simp at h

/-- The disturbances after one more step: those before, and those that the step completes. -/
theorem disturbed_concat_iff {a : Access ι} :
    Disturbed (as ++ [a]) ↔ Disturbed as ∨ ∃ pre i mid, as = pre ++ .read i :: mid ∧
      a = .store i ∧ .read i ∉ mid ∧ ∃ j, .store j ∈ mid := by
  constructor
  · rintro ⟨pre, i, mid, post, h, hread, hstore⟩
    cases post using List.reverseRecOn with
    | nil =>
      -- the new step is the store that completes the disturbance
      obtain ⟨rfl, hlast⟩ := List.append_inj' h rfl
      exact .inr ⟨pre, i, mid, rfl, List.singleton_inj.mp hlast, hread, hstore⟩
    | append_singleton post b =>
      rw [← List.cons_append, ← List.append_assoc] at h
      exact .inl ⟨pre, i, mid, post, (List.append_inj' h rfl).1, hread, hstore⟩
  · rintro (h | ⟨pre, i, mid, rfl, rfl, hread, hstore⟩)
    · exact h.append [a]
    · exact ⟨pre, i, mid, [], rfl, hread, hstore⟩

theorem disturbed_concat_read : Disturbed (as ++ [.read i]) ↔ Disturbed as := by
  rw [disturbed_concat_iff]
  refine or_iff_left ?_
  rintro ⟨_, _, _, _, h, _⟩
  cases h

/-- Steps that store nothing disturb nothing. -/
theorem disturbed_append_iff (hmid : ∀ j, Access.store j ∉ mid) :
    Disturbed (as ++ mid) ↔ Disturbed as := by
  induction mid using List.reverseRecOn with
  | nil => rw [List.append_nil]
  | append_singleton mid a ih =>
    have hinit : ∀ j, Access.store j ∉ mid := fun j hj => hmid j (List.mem_append_left _ hj)
    cases a with
    | read i => rw [← List.append_assoc, disturbed_concat_read, ih hinit]
    | store i => exact absurd (List.mem_append_right mid List.mem_cons_self) (hmid i)

/-- A list splits at the last occurrence of an element in one way. -/
theorem split_last_unique {α : Type*} {a : α} {xs ys xs' ys' : List α}
    (h : xs ++ a :: ys = xs' ++ a :: ys') (hys : a ∉ ys) (hys' : a ∉ ys') : ys = ys' := by
  rcases List.append_eq_append_iff.mp h with ⟨zs, -, hz⟩ | ⟨zs, -, hz⟩
  · cases zs with
    | nil => exact (List.cons.inj hz).2
    | cons z zs =>
      have hmem : a ∈ ys := by
        rw [(List.cons.inj hz).2]
        exact List.mem_append_right _ List.mem_cons_self
      exact absurd hmem hys
  · cases zs with
    | nil => exact (List.cons.inj hz).2.symm
    | cons z zs =>
      have hmem : a ∈ ys' := by
        rw [(List.cons.inj hz).2]
        exact List.mem_append_right _ List.mem_cons_self
      exact absurd hmem hys'

/-- The store of `i`, whose read is followed by `mid`. -/
theorem disturbed_concat_store (has : as = pre ++ .read i :: mid) (hread : .read i ∉ mid) :
    Disturbed (as ++ [.store i]) ↔ Disturbed as ∨ ∃ j, .store j ∈ mid := by
  rw [disturbed_concat_iff]
  refine or_congr_right ⟨?_, ?_⟩
  · rintro ⟨pre', k, mid', has', hk, hread', hstore⟩
    cases hk
    rwa [split_last_unique (has.symm.trans has') hread hread']
  · exact fun hstore => ⟨pre, i, mid, has, rfl, hread, hstore⟩

/-! ## Runs -/

section Runs

variable [DecidableEq ι]

def init : Counter ι := ⟨0, fun _ => none⟩

/-- One step of a thread; nobody stores what it has not read. -/
def step (c : Counter ι) : Access ι → Option (Counter ι)
  | .read i => some ⟨c.value, Function.update c.held i (some c.value)⟩
  | .store i => (c.held i).map fun n => ⟨n + 1, Function.update c.held i none⟩

/-- A value of the counter after the steps `as`. -/
def Agrees (as : List (Access ι)) (n : ℕ) : Prop :=
  n ≤ additions as ∧ (n = additions as ↔ ¬ Disturbed as)

/-- What a thread holds is the value at its last read. -/
structure Tracked (as : List (Access ι)) (c : Counter ι) : Prop where
  value : Agrees as c.value
  held : ∀ i n, c.held i = some n → ∃ pre mid, as = pre ++ .read i :: mid ∧ .read i ∉ mid ∧
    .store i ∉ mid ∧ Agrees pre n

omit [DecidableEq ι] in
theorem tracked_init : Tracked [] (init : Counter ι) where
  value := ⟨le_rfl, iff_of_true rfl not_disturbed_nil⟩
  held := by
    intro i n h
    cases h

omit [DecidableEq ι] in
theorem Agrees.read {n : ℕ} (h : Agrees as n) (i : ι) : Agrees (as ++ [.read i]) n := by
  have hsame : additions (as ++ [.read i]) = additions as := additions_append as [.read i]
  rw [Agrees, hsame, disturbed_concat_read]
  exact h

omit [DecidableEq ι] in
/-- The counter after a store, from the value at the read. -/
theorem Agrees.store {n : ℕ} (h : Agrees pre n) (has : as = pre ++ .read i :: mid)
    (hread : .read i ∉ mid) : Agrees (as ++ [.store i]) (n + 1) := by
  have hmore : additions (as ++ [.store i]) = additions pre + additions mid + 1 := by
    rw [additions_append, has, additions_append]
    rfl
  refine ⟨?_, ?_⟩
  · rw [hmore]
    exact Nat.succ_le_succ (h.1.trans (Nat.le_add_right _ _))
  rw [hmore, disturbed_concat_store has hread, not_or, not_exists, ← additions_eq_zero_iff]
  have hle := h.1
  constructor
  · intro heq
    -- both bounds are met with equality, so nothing was stored since the read
    have hmid : additions mid = 0 := by omega
    have hn : n = additions pre := by omega
    refine ⟨?_, hmid⟩
    have hquiet : ∀ j, Access.store j ∉ Access.read i :: mid := by
      intro j hj
      exact additions_eq_zero_iff.mp hmid j ((List.mem_cons.mp hj).resolve_left (Access.store_ne_read j i))
    rw [has, disturbed_append_iff hquiet]
    exact h.2.mp hn
  · rintro ⟨hcalm, hmid⟩
    have hpre : ¬ Disturbed pre := by
      intro hpre
      rw [has] at hcalm
      exact hcalm (hpre.append _)
    rw [h.2.mpr hpre, hmid, Nat.add_zero]

omit [DecidableEq ι] in
/-- A thread that does nothing keeps what it holds. -/
theorem Tracked.held_concat {c : Counter ι} (h : Tracked as c) {j : ι} {n : ℕ}
    (hj : c.held j = some n) {a : Access ι} (hread : a ≠ .read j) (hstore : a ≠ .store j) :
    ∃ pre mid, as ++ [a] = pre ++ .read j :: mid ∧ .read j ∉ mid ∧ .store j ∉ mid ∧
      Agrees pre n := by
  obtain ⟨pre, mid, rfl, hnoread, hnostore, hn⟩ := h.held j n hj
  refine ⟨pre, mid ++ [a], List.append_assoc _ _ _, ?_, ?_, hn⟩
  · rw [List.mem_append, List.mem_singleton, not_or]
    exact ⟨hnoread, Ne.symm hread⟩
  · rw [List.mem_append, List.mem_singleton, not_or]
    exact ⟨hnostore, Ne.symm hstore⟩

/-- **The step.** -/
theorem Tracked.step {c c' : Counter ι} {a : Access ι} (h : Tracked as c)
    (hstep : c.step a = some c') : Tracked (as ++ [a]) c' := by
  cases a with
  | read i =>
    obtain rfl := Option.some.inj hstep
    refine ⟨h.value.read i, ?_⟩
    intro j n hj
    by_cases hij : j = i
    · subst hij
      obtain rfl : c.value = n := Option.some.inj ((Function.update_self j _ _).symm.trans hj)
      exact ⟨as, [], rfl, List.not_mem_nil, List.not_mem_nil, h.value⟩
    · refine h.held_concat ((Function.update_of_ne hij _ _).symm.trans hj) ?_
        (Access.store_ne_read j i).symm
      exact fun heq => hij (Access.read.inj heq).symm
  | store i =>
    obtain ⟨n, hn, rfl⟩ := Option.map_eq_some_iff.mp hstep
    -- what is stored depends on the value at the read only, whatever was stored in between
    obtain ⟨pre, mid, has, hread, _, hagrees⟩ := h.held i n hn
    refine ⟨hagrees.store has hread, ?_⟩
    intro j m hj
    by_cases hij : j = i
    · subst hij
      exact absurd ((Function.update_self j _ _).symm.trans hj) (Option.some_ne_none m).symm
    · refine h.held_concat ((Function.update_of_ne hij _ _).symm.trans hj)
        (Access.store_ne_read i j) ?_
      exact fun heq => hij (Access.store.inj heq).symm

theorem tracked_run {c : Counter ι} (hrun : Machine.run step init as = some c) : Tracked as c :=
  Machine.run_inv tracked_init (fun _ _ _ _ h hstep => h.step hstep) hrun

/-- **No addition counts twice.** -/
theorem value_le {c : Counter ι} (hrun : Machine.run step init as = some c) :
    c.value ≤ additions as := (tracked_run hrun).value.1

/-- **Exact counting**: the counter is the number of additions if and only if no thread has
stored between the two steps of another one. -/
theorem value_eq_iff {c : Counter ι} (hrun : Machine.run step init as = some c) :
    c.value = additions as ↔ ¬ Disturbed as := (tracked_run hrun).value.2

end Runs

end Counter

end CanSentinel
