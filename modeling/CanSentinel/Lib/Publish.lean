import CanSentinel.Lib.Machine

/-!
# Publishers that interleave

Several threads pass events to the same list of callbacks, and no lock is held. A thread
calls the callbacks one after the other; between two calls the other threads may run.
`Lib/Notify.lean` has such a loop as one step.

- `Publishers.step`: a thread publishes an event, or goes on to its next callback.
- `owed`: the event a callback is still to be called with.
- `toldBy_append_owed`: per thread, every callback is told everything that was published,
  in order, and is behind by one event at most.
-/

namespace CanSentinel

/-- What thread `i` has published. -/
def publishedBy {ι α : Type*} [DecidableEq ι] (i : ι) (published : List (ι × α)) : List α :=
  (published.filter fun p => p.1 = i).map Prod.snd

/-- What callback number `k` was called with by thread `i`. -/
def toldBy {ι α : Type*} [DecidableEq ι] (i : ι) (k : ℕ) (told : List (ι × ℕ × α)) : List α :=
  (told.filter fun t => t.1 = i ∧ t.2.1 = k).map fun t => t.2.2

/-- The event of a thread, as long as callback number `k` has not been called with it;
the number of the next callback is given. -/
def owed {α : Type*} : Option (α × ℕ) → ℕ → List α
  | some (a, m), k => if m ≤ k then [a] else []
  | none, _ => []

/-- The threads. An event in flight stands with the number of its next callback;
`published` and `told` record what has been published and which callbacks were called. -/
structure Publishers (ι α : Type*) where
  inFlight : ι → Option (α × ℕ)
  published : List (ι × α)
  told : List (ι × ℕ × α)

inductive PublishEvent (ι α : Type*) where
  | publish (i : ι) (a : α)
  /-- the next callback, or the end of the loop -/
  | next (i : ι)

namespace Publishers

variable {ι α : Type*} [DecidableEq ι]

theorem publishedBy_concat (i j : ι) (published : List (ι × α)) (a : α) :
    publishedBy i (published ++ [(j, a)]) =
      publishedBy i published ++ if j = i then [a] else [] := by
  by_cases h : j = i
  · simp [publishedBy, List.filter_append, h]
  · simp [publishedBy, List.filter_append, h]

theorem toldBy_concat (i j : ι) (k m : ℕ) (told : List (ι × ℕ × α)) (a : α) :
    toldBy i k (told ++ [(j, m, a)]) = toldBy i k told ++ if j = i ∧ m = k then [a] else [] := by
  by_cases h : j = i ∧ m = k
  · simp [toldBy, List.filter_append, h]
  · simp [toldBy, List.filter_append, h]

def init : Publishers ι α := ⟨fun _ => none, [], []⟩

/-- One step of one thread, for `n` callbacks; `none` when the thread is not at that point. -/
def step (n : ℕ) (s : Publishers ι α) : PublishEvent ι α → Option (Publishers ι α)
  | .publish i a =>
    match s.inFlight i with
    | none => some { s with
        inFlight := Function.update s.inFlight i (some (a, 0))
        published := s.published ++ [(i, a)] }
    | some _ => none
  | .next i =>
    match s.inFlight i with
    | none => none
    | some (a, k) =>
      if k < n then some { s with
        inFlight := Function.update s.inFlight i (some (a, k + 1))
        told := s.told ++ [(i, k, a)] }
      else some { s with inFlight := Function.update s.inFlight i none }

/-- Going on from callback number `m`. -/
theorem owed_next (a : α) (m k : ℕ) :
    (if m = k then [a] else []) ++ owed (some (a, m + 1)) k = owed (some (a, m)) k := by
  rw [owed, owed]
  rcases lt_trichotomy m k with h | rfl | h
  · rw [if_neg h.ne, if_pos (Nat.succ_le_of_lt h), if_pos h.le, List.nil_append]
  · rw [if_pos rfl, if_neg (Nat.not_succ_le_self m), if_pos le_rfl, List.append_nil]
  · rw [if_neg h.ne', if_neg (not_le.mpr (Nat.lt_succ_of_lt h)), if_neg (not_le.mpr h),
      List.append_nil]

/-- The invariant. -/
def Told (n : ℕ) (s : Publishers ι α) : Prop :=
  ∀ i, ∀ k < n, toldBy i k s.told ++ owed (s.inFlight i) k = publishedBy i s.published

/-- A step of thread `i`. -/
theorem Told.move {n : ℕ} {s s' : Publishers ι α} (h : Told n s) {i : ι} {next : Option (α × ℕ)}
    (hs : s'.inFlight = Function.update s.inFlight i next)
    (hothers : ∀ j, i ≠ j → (∀ k, toldBy j k s'.told = toldBy j k s.told) ∧
      publishedBy j s'.published = publishedBy j s.published)
    (hi : ∀ k < n, toldBy i k s'.told ++ owed next k = publishedBy i s'.published) :
    Told n s' := by
  intro j k hk
  rw [hs]
  by_cases hij : i = j
  · subst hij
    rw [Function.update_self]
    exact hi k hk
  · rw [Function.update_of_ne (Ne.symm hij), (hothers j hij).1, (hothers j hij).2]
    exact h j k hk

/-- **The step.** -/
theorem Told.step {n : ℕ} {s s' : Publishers ι α} {e : PublishEvent ι α} (h : Told n s)
    (hstep : s.step n e = some s') : Told n s' := by
  cases e with
  | publish i a =>
    rw [Publishers.step] at hstep
    cases hi : s.inFlight i with
    | some _ =>
      rw [hi] at hstep
      cases hstep
    | none =>
      rw [hi] at hstep
      obtain rfl := Option.some.inj hstep
      refine h.move rfl ?_ ?_
      · intro j hij
        refine ⟨fun _ => rfl, ?_⟩
        rw [publishedBy_concat, if_neg hij, List.append_nil]
      · intro k hk
        -- the thread owes its new event to every callback, and owed nothing before
        have hbefore := h i k hk
        rw [hi] at hbefore
        rw [publishedBy_concat, if_pos rfl, ← hbefore, owed, owed, if_pos (Nat.zero_le k),
          List.append_nil]
  | next i =>
    rw [Publishers.step] at hstep
    rcases hi : s.inFlight i with _ | ⟨a, m⟩
    · rw [hi] at hstep
      cases hstep
    rw [hi] at hstep
    dsimp only at hstep
    by_cases hm : m < n
    · rw [if_pos hm] at hstep
      obtain rfl := Option.some.inj hstep
      refine h.move rfl ?_ ?_
      · intro j hij
        refine ⟨fun k => ?_, rfl⟩
        rw [toldBy_concat, if_neg fun hne => hij hne.1, List.append_nil]
      · intro k hk
        rw [toldBy_concat, List.append_assoc, ← h i k hk, hi, ← owed_next a m k]
        simp only [true_and]
    · rw [if_neg hm] at hstep
      obtain rfl := Option.some.inj hstep
      refine h.move rfl (fun _ _ => ⟨fun _ => rfl, rfl⟩) ?_
      intro k hk
      -- all callbacks come before `m`
      rw [← h i k hk, hi, owed, owed, if_neg (not_le.mpr (hk.trans_le (not_lt.mp hm)))]

/-- **Nothing is lost between publishers and callbacks.** In every interleaving, a callback was
called, for every thread, with all events that the thread has published, in order, but for one
that is in flight if the call is still to come. -/
theorem toldBy_append_owed {n : ℕ} {es : List (PublishEvent ι α)} {s : Publishers ι α}
    (hrun : Machine.run (step n) init es = some s) (i : ι) {k : ℕ} (hk : k < n) :
    toldBy i k s.told ++ owed (s.inFlight i) k = publishedBy i s.published :=
  Machine.run_inv (I := fun _ s => Told n s) (fun _ _ _ => rfl)
    (fun _ _ _ _ h hstep => h.step hstep) hrun i k hk

end Publishers

end CanSentinel
