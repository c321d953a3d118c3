import CanSentinel.Lib.Machine

/-!
# A main thread, a queue and a worker

The main thread sends items into a queue, waits until the queue is empty, clears a flag and
joins the worker, with a timeout. The worker polls the queue while the flag is set or the
queue is not empty, and passes every item to a stateful step that may raise; if it raises,
the worker dies.

- `WorkQueue`, `step`: the two threads, one step at a time, in any interleaving.
- `Inv`: the items are handled in order, each once, and the worker's state is that of the
  synchronous run over them.
- `Inv.ended`, `Inv.outcome`: what is left when the main thread has joined the worker.
- `Stuck`: the worker has died with items in the queue, which the main thread waits to be empty.
- `Inv.progress`, `finishes_iff`: the main thread can end exactly if no item raises but the
  last, and then it can end from wherever it is; otherwise the threads can get stuck.
-/

namespace CanSentinel

universe u v w x

/-- Where the main thread is. -/
inductive MainStage where
  | sending
  | waiting
  | stopping
  | joining
  /-- `joined` says that the worker has ended -/
  | done (joined : Bool)
deriving DecidableEq

/-- The main thread has left the loop that waits for an empty queue. -/
def MainStage.Past : MainStage → Prop
  | .sending | .waiting => False
  | .stopping | .joining | .done _ => True

theorem MainStage.Past.ne_sending {m : MainStage} (h : m.Past) : m ≠ .sending := by
  rintro rfl
  exact h

/-- Where the worker is. -/
inductive WorkerStage (α : Type u) (ε : Type v) where
  | testing
  | getting
  | working (a : α)
  | exited
  | died (a : α) (e : ε)

namespace WorkerStage

variable {α : Type u} {ε : Type v}

/-- The thread has ended. -/
def halted : WorkerStage α ε → Bool
  | .exited | .died _ _ => true
  | _ => false

/-- The item the worker has taken and not returned from. -/
def inHand : WorkerStage α ε → List α
  | .working a | .died a _ => [a]
  | _ => []

/-- Its steps until it polls the queue again and finds an item. -/
def turn : WorkerStage α ε → ℕ
  | .working _ => 3
  | .testing => 2
  | .getting => 1
  | .exited | .died _ _ => 0

/-- Its steps until it ends, once the flag is cleared and the queue is empty. -/
def winding : WorkerStage α ε → ℕ
  | .working _ => 3
  | .getting => 2
  | .testing => 1
  | .exited | .died _ _ => 0

end WorkerStage

/-- The threads with what they share. The items handled so far are not kept by the program. -/
structure WorkQueue (σ : Type w) (α : Type u) (ε : Type v) where
  todo : List α
  main : MainStage
  running : Bool
  queue : List α
  worker : WorkerStage α ε
  state : σ
  handled : List α

/-- Which thread moves; the join may also time out. -/
inductive WorkEvent where
  | main
  | worker
  | timeout
deriving DecidableEq

namespace WorkQueue

variable {σ : Type w} {α : Type u} {ε : Type v} {β : Type x}

/-- Both threads have started. -/
def start (items : List α) (state : σ) : WorkQueue σ α ε :=
  ⟨items, .sending, true, [], .testing, state, []⟩

/-- A step of the main thread. -/
def mainStep (s : WorkQueue σ α ε) : Option (WorkQueue σ α ε) :=
  match s.main with
  | .sending =>
    match s.todo with
    | a :: todo => some { s with todo := todo, queue := s.queue ++ [a] }
    | [] => some { s with main := .waiting }
  | .waiting => if s.queue.isEmpty then some { s with main := .stopping } else some s
  | .stopping => some { s with running := false, main := .joining }
  | .joining => if s.worker.halted then some { s with main := .done true } else none
  | .done _ => none

/-- The worker's step on `a` has returned, or raised. -/
def afterItem (s : WorkQueue σ α ε) (a : α) : Except ε β × σ → WorkQueue σ α ε
  | (.ok _, state) => { s with state := state, handled := s.handled ++ [a], worker := .testing }
  | (.error e, state) => { s with state := state, worker := .died a e }

/-- A step of the worker. -/
def workerStep (f : σ → α → Except ε β × σ) (s : WorkQueue σ α ε) : Option (WorkQueue σ α ε) :=
  match s.worker with
  | .testing =>
    if s.running || !s.queue.isEmpty then some { s with worker := .getting }
    else some { s with worker := .exited }
  | .getting =>
    match s.queue with
    | [] => some { s with worker := .testing }
    | a :: queue => some { s with queue := queue, worker := .working a }
  | .working a => some (s.afterItem a (f s.state a))
  | .exited => none
  | .died _ _ => none

/-- A step. -/
def step (f : σ → α → Except ε β × σ) (s : WorkQueue σ α ε) :
    WorkEvent → Option (WorkQueue σ α ε)
  | .main => s.mainStep
  | .worker => s.workerStep f
  | .timeout => if s.main = .joining then some { s with main := .done false } else none

@[simp] theorem afterItem_running (s : WorkQueue σ α ε) (a : α) (r : Except ε β × σ) :
    (s.afterItem a r).running = s.running := by
  rcases r with ⟨_ | _, _⟩ <;> rfl

@[simp] theorem afterItem_main (s : WorkQueue σ α ε) (a : α) (r : Except ε β × σ) :
    (s.afterItem a r).main = s.main := by
  rcases r with ⟨_ | _, _⟩ <;> rfl

variable {f : σ → α → Except ε β × σ} {items : List α} {state₀ : σ} {s s' : WorkQueue σ α ε}

/-! ## The invariant -/

/-- The run so far on the items, from the state `state₀`. -/
structure Inv (f : σ → α → Except ε β × σ) (items : List α) (state₀ : σ) (s : WorkQueue σ α ε) :
    Prop where
  split : s.handled ++ (s.worker.inHand ++ (s.queue ++ s.todo)) = items
  returned : ∀ r ∈ Machine.outputs f state₀ s.handled, r.isOk
  alive : (∀ a e, s.worker ≠ .died a e) → s.state = Machine.final f state₀ s.handled
  dead : ∀ a e, s.worker = .died a e → f (Machine.final f state₀ s.handled) a = (.error e, s.state)
  sent : s.main ≠ .sending → s.todo = []
  emptied : s.main.Past → s.queue = []
  exited : s.worker = .exited → s.main.Past
  joined : s.main = .done true → s.worker.halted

theorem inv_start (f : σ → α → Except ε β × σ) (items : List α) (state₀ : σ) :
    Inv f items state₀ (start items state₀) where
  split := rfl
  returned := by
    intro r hr
    cases hr
  alive _ := rfl
  dead := by
    intro a e h
    cases h
  sent h := absurd rfl h
  emptied h := h.elim
  exited := by
    intro h
    cases h
  joined := by
    intro h
    cases h

/-- The flag is cleared behind the waiting loop, and before the join. -/
structure FlagInStep (s : WorkQueue σ α ε) : Prop where
  set : s.running = true ∨ s.main.Past
  cleared : s.main = .joining → s.running = false

theorem flagInStep_start (items : List α) (state₀ : σ) :
    (start items state₀ : WorkQueue σ α ε).FlagInStep where
  set := .inl rfl
  cleared := by rintro ⟨⟩

/-- **The step of the main thread.** -/
theorem Inv.main (h : Inv f items state₀ s) (hstep : s.mainStep = some s') :
    Inv f items state₀ s' := by
  rw [mainStep] at hstep
  cases hmain : s.main with
  | sending =>
    rw [hmain] at hstep
    cases htodo : s.todo with
    | nil =>
      rw [htodo] at hstep
      cases hstep
      have hsplit := h.split
      rw [htodo] at hsplit
      exact ⟨hsplit, h.returned, h.alive, h.dead, fun _ => rfl, fun hpast => hpast.elim,
        fun hexit => (hmain ▸ h.exited hexit : MainStage.sending.Past).elim, by rintro ⟨⟩⟩
    | cons a todo =>
      rw [htodo] at hstep
      cases hstep
      have hsplit := h.split
      rw [htodo] at hsplit
      refine ⟨?_, h.returned, h.alive, h.dead, fun hne => absurd rfl hne, fun hpast => hpast.elim,
        fun hexit => (hmain ▸ h.exited hexit : MainStage.sending.Past).elim, by rintro ⟨⟩⟩
      rw [← hsplit]
      simp
  | waiting =>
    rw [hmain] at hstep
    have htodo := h.sent (by rw [hmain]; decide)
    dsimp only at hstep
    by_cases hempty : s.queue.isEmpty
    · rw [if_pos hempty] at hstep
      cases hstep
      exact ⟨h.split, h.returned, h.alive, h.dead, fun _ => htodo,
        fun _ => List.isEmpty_iff.mp hempty, fun _ => trivial, by rintro ⟨⟩⟩
    · rw [if_neg hempty] at hstep
      cases hstep
      exact h
  | stopping =>
    rw [hmain] at hstep
    cases hstep
    have hpast : s.main.Past := by rw [hmain]; trivial
    exact ⟨h.split, h.returned, h.alive, h.dead, fun _ => h.sent (by rw [hmain]; decide),
      fun _ => h.emptied hpast, fun _ => trivial, by rintro ⟨⟩⟩
  | joining =>
    rw [hmain] at hstep
    have hpast : s.main.Past := by rw [hmain]; trivial
    dsimp only at hstep
    by_cases hhalted : s.worker.halted
    · rw [if_pos hhalted] at hstep
      cases hstep
      exact ⟨h.split, h.returned, h.alive, h.dead, fun _ => h.sent (by rw [hmain]; decide),
        fun _ => h.emptied hpast, fun _ => trivial, fun _ => hhalted⟩
    · rw [if_neg hhalted] at hstep
      cases hstep
  | done joined =>
    rw [hmain] at hstep
    cases hstep

/-- **The step of the worker.** -/
theorem Inv.worker (h : Inv f items state₀ s) (hflag : s.FlagInStep)
    (hstep : s.workerStep f = some s') : Inv f items state₀ s' := by
  have hsplit := h.split
  have halive := h.alive
  have hjoined := h.joined
  rw [workerStep] at hstep
  cases hworker : s.worker with
  | testing =>
    rw [hworker] at hstep hsplit halive hjoined
    dsimp only at hstep
    by_cases hloop : (s.running || !s.queue.isEmpty) = true
    · rw [if_pos hloop] at hstep
      cases hstep
      exact ⟨hsplit, h.returned, fun _ => halive (by rintro a e ⟨⟩), by rintro a e ⟨⟩, h.sent,
        h.emptied, by rintro ⟨⟩, fun hj => nomatch hjoined hj⟩
    · rw [if_neg hloop] at hstep
      cases hstep
      refine ⟨hsplit, h.returned, fun _ => halive (by rintro a e ⟨⟩), by rintro a e ⟨⟩, h.sent,
        h.emptied, fun _ => ?_, fun _ => rfl⟩
      rw [Bool.or_eq_true, not_or] at hloop
      exact hflag.set.resolve_left hloop.1
  | getting =>
    rw [hworker] at hstep hsplit halive hjoined
    cases hqueue : s.queue with
    | nil =>
      rw [hqueue] at hstep hsplit
      cases hstep
      exact ⟨hsplit, h.returned, fun _ => halive (by rintro a e ⟨⟩), by rintro a e ⟨⟩, h.sent,
        fun _ => rfl, by rintro ⟨⟩, fun hj => nomatch hjoined hj⟩
    | cons a queue =>
      rw [hqueue] at hstep hsplit
      cases hstep
      refine ⟨hsplit, h.returned, fun _ => halive (by rintro a e ⟨⟩), by rintro a e ⟨⟩, h.sent,
        fun hpast => ?_, by rintro ⟨⟩, fun hj => nomatch hjoined hj⟩
      rw [h.emptied hpast] at hqueue
      cases hqueue
  | working a =>
    rw [hworker] at hstep hsplit halive hjoined
    have hstate := halive (by rintro a e ⟨⟩)
    dsimp only at hstep
    cases hout : f s.state a with
    | mk out state =>
      rw [hout] at hstep
      cases out with
      | ok b =>
        cases hstep
        refine ⟨?_, ?_, fun _ => ?_, by rintro a e ⟨⟩, h.sent, h.emptied, by rintro ⟨⟩,
          fun hj => nomatch hjoined hj⟩
        · exact (List.append_assoc s.handled [a] (s.queue ++ s.todo)).trans hsplit
        · intro r hr
          rw [afterItem, Machine.outputs_concat, List.mem_append, List.mem_singleton, ← hstate,
            hout] at hr
          rcases hr with hr | rfl
          · exact h.returned r hr
          · rfl
        · rw [afterItem, Machine.final_concat, ← hstate, hout]
      | error e =>
        cases hstep
        refine ⟨hsplit, h.returned, fun hnot => absurd rfl (hnot a e), ?_, h.sent, h.emptied,
          by rintro ⟨⟩, fun _ => rfl⟩
        rintro b e' ⟨⟩
        rw [afterItem, ← hstate]
        exact hout
  | exited =>
    rw [hworker] at hstep
    cases hstep
  | died a e =>
    rw [hworker] at hstep
    cases hstep

theorem FlagInStep.next (h : s.FlagInStep) {e : WorkEvent} (hstep : s.step f e = some s') :
    s'.FlagInStep := by
  obtain ⟨todo, main, running, queue, worker, state, handled⟩ := s
  obtain ⟨hset, hcleared⟩ := h
  cases e with
  | main =>
    rw [step, mainStep] at hstep
    cases main with
    | sending => cases todo <;> cases hstep <;> exact ⟨hset, by rintro ⟨⟩⟩
    | waiting =>
      dsimp only at hstep
      split at hstep <;> cases hstep
      · exact ⟨.inr trivial, by rintro ⟨⟩⟩
      · exact ⟨hset, hcleared⟩
    | stopping =>
      cases hstep
      exact ⟨.inr trivial, fun _ => rfl⟩
    | joining =>
      dsimp only at hstep
      split at hstep <;> cases hstep
      exact ⟨.inr trivial, by rintro ⟨⟩⟩
    | done joined => cases hstep
  | worker =>
    rw [step, workerStep] at hstep
    cases worker with
    | testing =>
      dsimp only at hstep
      split at hstep <;> cases hstep <;> exact ⟨hset, hcleared⟩
    | getting => cases queue <;> cases hstep <;> exact ⟨hset, hcleared⟩
    | working a =>
      cases hstep
      refine ⟨?_, ?_⟩
      · rw [afterItem_running, afterItem_main]
        exact hset
      · rw [afterItem_running, afterItem_main]
        exact hcleared
    | exited => cases hstep
    | died a e => cases hstep
  | timeout =>
    rw [step] at hstep
    split at hstep <;> cases hstep
    exact ⟨.inr trivial, by rintro ⟨⟩⟩

/-- **The step.** -/
theorem Inv.next (h : Inv f items state₀ s) (hflag : s.FlagInStep) {e : WorkEvent}
    (hstep : s.step f e = some s') : Inv f items state₀ s' := by
  cases e with
  | main => exact h.main hstep
  | worker => exact h.worker hflag hstep
  | timeout =>
    rw [step] at hstep
    by_cases hjoining : s.main = .joining
    · rw [if_pos hjoining] at hstep
      cases hstep
      have hpast : s.main.Past := by rw [hjoining]; trivial
      exact ⟨h.split, h.returned, h.alive, h.dead, fun _ => h.sent (by rw [hjoining]; decide),
        fun _ => h.emptied hpast, fun _ => trivial, by rintro ⟨⟩⟩
    · rw [if_neg hjoining] at hstep
      cases hstep

/-- **The run.** -/
theorem inv_run {es : List WorkEvent}
    (hrun : Machine.run (step f) (start items state₀) es = some s) :
    Inv f items state₀ s ∧ s.FlagInStep := by
  refine Machine.run_inv (I := fun _ s => Inv f items state₀ s ∧ s.FlagInStep)
    ⟨inv_start f items state₀, flagInStep_start items state₀⟩ ?_ hrun
  rintro pre s e s' ⟨h, hflag⟩ hstep
  exact ⟨h.next hflag hstep, hflag.next hstep⟩

/-! ## The end of a run -/

/-- Behind the waiting loop, only the item in hand has not been handled. -/
theorem Inv.drained (h : Inv f items state₀ s) (hpast : s.main.Past) :
    s.handled ++ s.worker.inHand = items := by
  have hsplit := h.split
  rwa [h.emptied hpast, h.sent hpast.ne_sending, List.append_nil, List.append_nil] at hsplit

/-- The main thread passes the waiting loop only if no item has raised before the last. -/
theorem Inv.returned_of_past (h : Inv f items state₀ s) (hpast : s.main.Past) :
    ∀ r ∈ Machine.outputs f state₀ items.dropLast, r.isOk := by
  intro r hr
  rw [← h.drained hpast] at hr
  cases hworker : s.worker with
  | working a | died a e =>
    rw [hworker, WorkerStage.inHand, List.dropLast_concat] at hr
    exact h.returned r hr
  | testing | getting | exited =>
    simp only [hworker, WorkerStage.inHand, List.append_nil, Machine.outputs_dropLast] at hr
    exact h.returned r (List.dropLast_subset _ hr)

/-- **The end of the worker.** When the main thread has joined it, it has handled all items, or
it has died on the last. -/
theorem Inv.ended (h : Inv f items state₀ s) (hdone : s.main = .done true) :
    (s.worker = .exited ∧ s.handled = items) ∨
      ∃ a e, s.worker = .died a e ∧ s.handled ++ [a] = items := by
  have hdrained := h.drained (by rw [hdone]; trivial)
  have hhalted := h.joined hdone
  cases hworker : s.worker with
  | testing | getting | working a =>
    rw [hworker] at hhalted
    cases hhalted
  | exited =>
    simp only [hworker, WorkerStage.inHand, List.append_nil] at hdrained
    exact .inl ⟨rfl, hdrained⟩
  | died a e =>
    rw [hworker, WorkerStage.inHand] at hdrained
    exact .inr ⟨a, e, rfl, hdrained⟩

/-- **The outcome.** When the main thread has joined the worker, the state is that of the
synchronous run over all items, and the items handled are those that returned. -/
theorem Inv.outcome (h : Inv f items state₀ s) (hdone : s.main = .done true) :
    s.state = Machine.final f state₀ items ∧
      s.handled.length = (Machine.outputs f state₀ items).countP fun r => r.isOk := by
  have hcount : (Machine.outputs f state₀ s.handled).countP (fun r => r.isOk) =
      s.handled.length := by
    rw [List.countP_eq_length.mpr fun r hr => by simpa using h.returned r hr,
      Machine.length_outputs]
  rcases h.ended hdone with ⟨hexited, rfl⟩ | ⟨a, e, hdied, rfl⟩
  · refine ⟨h.alive ?_, hcount.symm⟩
    rintro a e hdied
    rw [hexited] at hdied
    cases hdied
  · have hdead := h.dead a e hdied
    rw [Machine.final_concat, Machine.outputs_concat, List.countP_append, hcount, hdead]
    exact ⟨rfl, rfl⟩

/-- The worker has died with items in the queue, and the main thread waits for the queue to be
empty. -/
structure Stuck (s : WorkQueue σ α ε) : Prop where
  main : s.main = .waiting
  worker : ∃ a e, s.worker = .died a e
  queue : s.queue ≠ []

/-- That takes an item before the last that raises. -/
theorem Inv.not_stuck (h : Inv f items state₀ s)
    (hok : ∀ r ∈ Machine.outputs f state₀ items.dropLast, r.isOk) : ¬ s.Stuck := by
  rintro ⟨hmain, ⟨a, e, hdied⟩, hqueue⟩
  have hsplit := h.split
  rw [h.sent (by rw [hmain]; decide), hdied, WorkerStage.inHand, List.append_nil] at hsplit
  have hdead := h.dead a e hdied
  obtain ⟨b, queue, hcons⟩ := List.exists_cons_of_ne_nil hqueue
  have hbad := hok (.error e) (by
    rw [← hsplit, hcons, List.singleton_append,
      List.dropLast_append_of_ne_nil (List.cons_ne_nil _ _), List.dropLast_cons_cons]
    refine (Machine.mem_outputs_iff _ _ _ _).mpr ⟨s.handled, a, _, rfl, ?_⟩
    rw [hdead])
  cases hbad

/-- What the threads may still do, as long as the worker finds an item at every turn. -/
def remaining (s : WorkQueue σ α ε) : ℕ :=
  4 * s.todo.length + 3 * s.queue.length +
    match s.main with
      | .sending => 6 + s.worker.turn
      | .waiting => 5 + s.worker.turn
      | .stopping => 4 + s.worker.turn
      | .joining => 1 + s.worker.winding
      | .done _ => 0

/-- **Progress.** Until the main thread ends or the threads are stuck, some thread can make a
step that leaves less to do, and the join need not time out. -/
theorem Inv.progress (h : Inv f items state₀ s) (hflag : s.FlagInStep)
    (hopen : ∀ joined, s.main ≠ .done joined) (hstuck : ¬ s.Stuck) :
    ∃ e s', step f s e = some s' ∧ s'.main ≠ .done false ∧ s'.remaining < s.remaining := by
  obtain ⟨todo, main, running, queue, worker, state, handled⟩ := s
  cases main with
  | sending =>
    cases todo with
    | nil => exact ⟨.main, _, rfl, by rintro ⟨⟩, by simp only [remaining]; omega⟩
    | cons a todo =>
      refine ⟨.main, _, rfl, by rintro ⟨⟩, ?_⟩
      simp only [remaining, List.length_append, List.length_cons, List.length_nil]
      omega
  | waiting =>
    cases queue with
    | nil => exact ⟨.main, _, rfl, by rintro ⟨⟩, by simp only [remaining]; omega⟩
    | cons b queue =>
      -- the worker is alive and has an item to take
      cases worker with
      | testing =>
        have hrunning : (running || true) = true := Bool.or_true _
        refine ⟨.worker, _, if_pos hrunning, by rintro ⟨⟩, ?_⟩
        simp only [remaining, WorkerStage.turn]
        omega
      | getting =>
        refine ⟨.worker, _, rfl, by rintro ⟨⟩, ?_⟩
        simp only [remaining, WorkerStage.turn, List.length_cons]
        omega
      | working a =>
        refine ⟨.worker, _, rfl, by rw [afterItem_main]; rintro ⟨⟩, ?_⟩
        rcases f state a with ⟨_ | _, next⟩ <;>
          simp only [remaining, afterItem, WorkerStage.turn] <;> omega
      | exited => exact (h.exited rfl).elim
      | died a e => exact absurd ⟨rfl, ⟨a, e, rfl⟩, List.cons_ne_nil _ _⟩ hstuck
  | stopping =>
    refine ⟨.main, _, rfl, by rintro ⟨⟩, ?_⟩
    cases worker <;> simp only [remaining, WorkerStage.turn, WorkerStage.winding] <;> omega
  | joining =>
    -- the worker finds the flag cleared and the queue empty
    obtain rfl : queue = [] := h.emptied trivial
    obtain rfl : running = false := hflag.cleared rfl
    cases worker with
    | testing => exact ⟨.worker, _, rfl, by rintro ⟨⟩, Nat.lt_succ_self _⟩
    | getting => exact ⟨.worker, _, rfl, by rintro ⟨⟩, Nat.lt_succ_self _⟩
    | working a =>
      refine ⟨.worker, _, rfl, by rw [afterItem_main]; rintro ⟨⟩, ?_⟩
      rcases f state a with ⟨_ | _, next⟩ <;>
        simp only [remaining, afterItem, WorkerStage.winding] <;> omega
    | exited => exact ⟨.main, _, rfl, by rintro ⟨⟩, Nat.lt_succ_self _⟩
    | died a e => exact ⟨.main, _, rfl, by rintro ⟨⟩, Nat.lt_succ_self _⟩
  | done joined => exact absurd rfl (hopen joined)

/-- From wherever the threads are, the main thread can join the worker, or they can get stuck. -/
theorem Inv.can_halt (h : Inv f items state₀ s) (hflag : s.FlagInStep)
    (hjoin : s.main ≠ .done false) :
    ∃ es s', Machine.run (step f) s es = some s' ∧ Inv f items state₀ s' ∧
      (s'.main = .done true ∨ s'.Stuck) := by
  induction hn : s.remaining using Nat.strong_induction_on generalizing s with
  | _ n ih =>
    by_cases hhalt : s.main = .done true ∨ s.Stuck
    · exact ⟨[], s, rfl, h, hhalt⟩
    · rw [not_or] at hhalt
      have hopen : ∀ joined, s.main ≠ .done joined := by
        rintro (_ | _)
        · exact hjoin
        · exact hhalt.1
      obtain ⟨e, t, hstep, hjoin', hlt⟩ := h.progress hflag hopen hhalt.2
      obtain ⟨es, s', hrun, h', hend⟩ :=
        ih t.remaining (hn ▸ hlt) (h.next hflag hstep) (hflag.next hstep) hjoin' rfl
      refine ⟨e :: es, s', ?_, h', hend⟩
      rw [Machine.run_cons, hstep]
      exact hrun

/-- If no item raises but the last, then the main thread can still join the worker, unless the
join has timed out. -/
theorem Inv.can_join (h : Inv f items state₀ s) (hflag : s.FlagInStep)
    (hok : ∀ r ∈ Machine.outputs f state₀ items.dropLast, r.isOk) (hjoin : s.main ≠ .done false) :
    ∃ es s', Machine.run (step f) s es = some s' ∧ s'.main = .done true := by
  obtain ⟨es, s', hrun, h', hdone | hstuck⟩ := h.can_halt hflag hjoin
  · exact ⟨es, s', hrun, hdone⟩
  · exact absurd hstuck (h'.not_stuck hok)

/-- If an item before the last raises, then the threads can get stuck, wherever they are. -/
theorem Inv.can_stick (h : Inv f items state₀ s) (hflag : s.FlagInStep)
    (hbad : ¬ ∀ r ∈ Machine.outputs f state₀ items.dropLast, r.isOk) :
    ∃ es s', Machine.run (step f) s es = some s' ∧ s'.Stuck := by
  have hjoin : s.main ≠ .done false := by
    intro hdone
    exact hbad (h.returned_of_past (by rw [hdone]; trivial))
  obtain ⟨es, s', hrun, h', hdone | hstuck⟩ := h.can_halt hflag hjoin
  · exact absurd (h'.returned_of_past (by rw [hdone]; trivial)) hbad
  · exact ⟨es, s', hrun, hstuck⟩

/-- **When the main thread ends.** Some interleaving brings it behind the join if and only if
no item but the last raises in the synchronous run. -/
theorem finishes_iff (f : σ → α → Except ε β × σ) (items : List α) (state₀ : σ) :
    (∃ es s joined, Machine.run (step f) (start items state₀) es = some s ∧
      s.main = .done joined) ↔
    ∀ r ∈ Machine.outputs f state₀ items.dropLast, r.isOk := by
  constructor
  · rintro ⟨es, s, joined, hrun, hdone⟩
    exact (inv_run hrun).1.returned_of_past (by rw [hdone]; trivial)
  · intro hok
    obtain ⟨es, s, hrun, hdone⟩ :=
      (inv_start f items state₀).can_join (flagInStep_start items state₀) hok (by rintro ⟨⟩)
    exact ⟨es, s, true, hrun, hdone⟩

end WorkQueue

end CanSentinel
