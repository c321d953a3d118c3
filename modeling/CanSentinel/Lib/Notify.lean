import Mathlib

/-!
# Callback lists

A publisher calls every registered callback with every event and swallows what
a callback raises:

    for cb in callbacks:
        try: cb(event)
        except Exception: ...

A callback is a function on the world it acts on, which may raise. `Subscribers`
pairs that world with the calls made so far, so that "who was told what, in
which order" can be stated; `heard i` is what callback number `i` was told.

- `notify_calls`: one event is passed to every callback once, in registration
  order, whatever they raise.
- `heard_notify`: what a callback has been told grows by exactly that event.
-/

namespace CanSentinel

universe u v w

variable {ε : Type w} {W : Type u} {α : Type v}

/-- A callback: it acts on a world and returns or raises. -/
abbrev Callback (ε : Type w) (W : Type u) (α : Type v) := α → W → Except ε Unit × W

/-- The world callbacks act on, and the calls made so far: the number of the
callback and the event it was given. -/
structure Subscribers (W : Type u) (α : Type v) where
  world : W
  calls : List (ℕ × α) := []

namespace Subscribers

/-- The callback loop from callback number `i` on. Both outcomes of a call go
on to the next callback: the `except` branch only prints, and printing the
exception is taken not to raise. -/
def notifyFrom (a : α) : ℕ → List (Callback ε W α) → Subscribers W α → Subscribers W α
  | _, [], s => s
  | i, cb :: cbs, s =>
    match cb a s.world with
    | (.ok (), w) => notifyFrom a (i + 1) cbs ⟨w, s.calls ++ [(i, a)]⟩
    | (.error _, w) => notifyFrom a (i + 1) cbs ⟨w, s.calls ++ [(i, a)]⟩

/-- Pass one event to all callbacks. -/
def notify (cbs : List (Callback ε W α)) (a : α) (s : Subscribers W α) : Subscribers W α :=
  notifyFrom a 0 cbs s

/-- The events callback number `i` was given, in order. -/
def heard (i : ℕ) (s : Subscribers W α) : List α :=
  (s.calls.filter fun c => c.1 = i).map Prod.snd

theorem notifyFrom_cons (a : α) (i : ℕ) (cb : Callback ε W α)
    (cbs : List (Callback ε W α)) (s : Subscribers W α) :
    notifyFrom a i (cb :: cbs) s =
      notifyFrom a (i + 1) cbs ⟨(cb a s.world).2, s.calls ++ [(i, a)]⟩ := by
  rw [notifyFrom]
  split <;> next h => rw [h]

theorem notifyFrom_calls (a : α) (i : ℕ) (cbs : List (Callback ε W α)) (s : Subscribers W α) :
    (notifyFrom a i cbs s).calls = s.calls ++ (List.range' i cbs.length).map fun j => (j, a) := by
  induction cbs generalizing i s with
  | nil => simp [notifyFrom]
  | cons cb cbs ih => simp [notifyFrom_cons, ih, List.range'_succ]

/-- One event reaches every callback once, in registration order. -/
theorem notify_calls (cbs : List (Callback ε W α)) (a : α) (s : Subscribers W α) :
    (s.notify cbs a).calls = s.calls ++ (List.range cbs.length).map fun j => (j, a) := by
  rw [notify, notifyFrom_calls, List.range_eq_range']

/-- What the callbacks do to the world: each acts in turn, whatever it raises. -/
theorem notify_world (cbs : List (Callback ε W α)) (a : α) (s : Subscribers W α) :
    (s.notify cbs a).world = cbs.foldl (fun w cb => (cb a w).2) s.world := by
  suffices h : ∀ i, (notifyFrom a i cbs s).world = cbs.foldl (fun w cb => (cb a w).2) s.world
    from h 0
  induction cbs generalizing s with
  | nil => exact fun _ => rfl
  | cons cb cbs ih => exact fun i => by rw [notifyFrom_cons, ih, List.foldl_cons]

theorem heard_notify (cbs : List (Callback ε W α)) (a : α) (s : Subscribers W α) {i : ℕ}
    (hi : i < cbs.length) : (s.notify cbs a).heard i = s.heard i ++ [a] := by
  have hrange : (List.range cbs.length).filter (fun j => j = i) = [i] := by
    rw [List.filter_eq, List.count_eq_one_of_mem List.nodup_range (List.mem_range.mpr hi)]
    rfl
  rw [heard, notify_calls, List.filter_append, List.map_append, List.filter_map]
  simp [Function.comp_def, hrange, heard]

end Subscribers

end CanSentinel
