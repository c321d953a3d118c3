import CanSentinel.Bus.VirtualBus

/-!
# Delivery on the virtual bus

One thread creates, removes and drains subscribers, sends and closes.

- `accepted k ops`: the frames sent while `k` was registered on the open bus, at
  moments when its queue had room.
- `Delivered`: the invariant. What was taken from a queue followed by what is in it is
  what was accepted.
- `concerns k`: sends, closes and the operations on `k`. The view of `k` is a fold over
  these, so other subscribers cannot be noticed.
- `delivery_exact`: delivery is exact, bounded and isolated.
-/

namespace CanSentinel.VirtualCANBus

variable {κ R : Type} [DecidableEq κ]

/-- An operation on the bus, in one thread. -/
inductive BusOp (κ R : Type) where
  | call (c : BusCall κ)
  | send (frame : CANFrame R)

/-- One operation; a `send` on a closed bus raises and goes on. -/
def step (s : VirtualCANBus κ R) : BusOp κ R → Option (VirtualCANBus κ R)
  | .call c => s.call c
  | .send frame => some (s.send frame).2

theorem send_of_open {s : VirtualCANBus κ R} (h : s.isOpen = true) (frame : CANFrame R) :
    s.send frame = (.ok (), s.deliver frame) := by
  rw [send, openTest, if_pos h]

theorem send_of_closed {s : VirtualCANBus κ R} (h : s.isOpen = false) (frame : CANFrame R) :
    s.send frame =
      (.error (.runtimeError "Cannot send frame on closed Virtual CAN Bus."), s) := by
  rw [send, openTest, h]
  rfl

/-! ## The history of a subscriber -/

/-- The calls of a sequence of operations. -/
def callOf : BusOp κ R → Option (BusCall κ)
  | .call c => some c
  | .send _ => none

/-- The queues that are registered after the operations. -/
def registrations (ops : List (BusOp κ R)) : List κ :=
  (ops.filterMap callOf).foldl registered []

/-- The bus has been closed. -/
def closedBy (ops : List (BusOp κ R)) : Bool := ops.filterMap callOf |>.contains .close

/-- The queue `k` has room after the operations. -/
def hasRoomAfter (k : κ) (ops : List (BusOp κ R)) : Bool :=
  match Machine.run step new ops with
  | some s => (s.queues k).any fun q => decide q.HasRoom
  | none => false

/-- What an operation adds to the frames of `k`. -/
def accepts (k : κ) (pre : List (BusOp κ R)) : BusOp κ R → List (CANFrame R)
  | .call _ => []
  | .send frame =>
    if closedBy pre = false ∧ k ∈ registrations pre ∧ hasRoomAfter k pre = true then [frame]
    else []

/-- The frames sent while `k` was registered and the bus open, at moments when the
queue had room. -/
def accepted (k : κ) (ops : List (BusOp κ R)) : List (CANFrame R) :=
  (Machine.replay (accepts k) [] ops).flatten

@[simp] theorem accepted_concat (k : κ) (ops : List (BusOp κ R)) (op : BusOp κ R) :
    accepted k (ops ++ [op]) = accepted k ops ++ accepts k ops op := by
  simp [accepted]

@[simp] theorem registrations_call (ops : List (BusOp κ R)) (c : BusCall κ) :
    registrations (ops ++ [.call c]) = registered (registrations ops) c := by
  simp [registrations, callOf, List.filterMap_append]

@[simp] theorem registrations_send (ops : List (BusOp κ R)) (frame : CANFrame R) :
    registrations (ops ++ [.send frame]) = registrations ops := by
  rw [registrations, List.filterMap_append, List.filterMap_cons_none rfl, List.filterMap_nil,
    List.append_nil, registrations]

@[simp] theorem closedBy_call (ops : List (BusOp κ R)) (c : BusCall κ) :
    closedBy (ops ++ [.call c]) = (closedBy ops || decide (c = .close)) := by
  simp [closedBy, callOf, List.filterMap_append, eq_comm]

@[simp] theorem closedBy_send (ops : List (BusOp κ R)) (frame : CANFrame R) :
    closedBy (ops ++ [.send frame]) = closedBy ops := by
  simp [closedBy, callOf, List.filterMap_append]

theorem hasRoomAfter_eq {ops : List (BusOp κ R)} {s : VirtualCANBus κ R} {k : κ}
    {q : BoundedQueue (CANFrame R)} (hrun : Machine.run step new ops = some s)
    (hq : s.queues k = some q) : hasRoomAfter k ops = decide q.HasRoom := by
  simp [hasRoomAfter, hrun, hq]

/-- The queues and the bus after the operations `ops`. -/
structure Delivered (ops : List (BusOp κ R)) (s : VirtualCANBus κ R) : Prop where
  wellFormed : WellFormed s
  subscribers : s.subscribers = registrations ops
  isOpen : s.isOpen = !closedBy ops
  unmade : ∀ k, s.queues k = none → s.taken k = [] ∧ accepted k ops = []
  items : ∀ k q, s.queues k = some q →
    s.taken k ++ q.items = accepted k ops ∧ .call (.create k q.maxsize) ∈ ops

section Delivery

variable {ops : List (BusOp κ R)} {s s' : VirtualCANBus κ R}

theorem delivered_new : Delivered ([] : List (BusOp κ R)) new where
  wellFormed := wellFormed_new
  subscribers := rfl
  isOpen := rfl
  unmade := fun _ _ => ⟨rfl, rfl⟩
  items := by
    intro k q hq
    cases hq

/-- A call accepts no frame. -/
theorem accepted_call (k : κ) (ops : List (BusOp κ R)) (c : BusCall κ) :
    accepted k (ops ++ [.call c]) = accepted k ops := by
  rw [accepted_concat]
  exact List.append_nil _

/-- The queues and what was taken from them account for all accepted frames. -/
def Accounts (ops : List (BusOp κ R)) (queues : κ → Option (BoundedQueue (CANFrame R)))
    (taken : κ → List (CANFrame R)) : Prop :=
  (∀ k, queues k = none → taken k = [] ∧ accepted k ops = []) ∧
    ∀ k q, queues k = some q →
      taken k ++ q.items = accepted k ops ∧ .call (.create k q.maxsize) ∈ ops

/-- A call that leaves the queues alone. -/
theorem Delivered.sameQueues (h : Delivered ops s) (c : BusCall κ) :
    Accounts (ops ++ [.call c]) s.queues s.taken := by
  constructor
  · intro k hk
    rw [accepted_call]
    exact h.unmade k hk
  · intro k q hq
    rw [accepted_call]
    exact ⟨(h.items k q hq).1, List.mem_append_left _ (h.items k q hq).2⟩

/-- A call that leaves the queue `j` as `r`, with the frames `t` taken from it. -/
theorem Delivered.setQueue (h : Delivered ops s) (c : BusCall κ) {j : κ}
    {r : BoundedQueue (CANFrame R)} {t : List (CANFrame R)} (hitems : t ++ r.items = accepted j ops)
    (hcreate : .call (.create j r.maxsize) ∈ ops ++ [.call c]) :
    Accounts (ops ++ [.call c]) (Function.update s.queues j (some r))
      (Function.update s.taken j t) := by
  constructor
  · intro k hk
    by_cases hkj : k = j
    · rw [hkj, Function.update_self] at hk
      cases hk
    · rw [Function.update_of_ne hkj] at hk ⊢
      exact (h.sameQueues c).1 k hk
  · intro k q hq
    by_cases hkj : k = j
    · subst hkj
      rw [Function.update_self] at hq ⊢
      cases hq
      rw [accepted_call]
      exact ⟨hitems, hcreate⟩
    · rw [Function.update_of_ne hkj] at hq ⊢
      exact (h.sameQueues c).2 k q hq

/-- **A call.** -/
theorem Delivered.call (h : Delivered ops s) {c : BusCall κ} (hcall : Call s c s') :
    Delivered (ops ++ [.call c]) s' := by
  have haccounts : Accounts (ops ++ [.call c]) s'.queues s'.taken := by
    cases hcall with
    | create j maxsize hj =>
      -- a key is used for one queue only, so nothing was accepted under it before
      obtain ⟨htaken, haccepted⟩ := h.unmade j hj
      have hset := h.setQueue (.create j maxsize) (j := j) (r := .empty _ maxsize) (t := s.taken j)
        (by rw [htaken, haccepted]; rfl) (List.mem_append_right _ (List.mem_singleton_self _))
      rwa [Function.update_eq_self] at hset
    | get j q q' frame hq hfront hmaxsize =>
      -- the first frame of the queue moves to those taken
      obtain ⟨hbefore, hcreate⟩ := h.items j q hq
      refine h.setQueue (.get j) ?_ (List.mem_append_left _ (hmaxsize ▸ hcreate))
      rw [List.append_assoc, List.singleton_append, ← hfront, hbefore]
    | _ => exact h.sameQueues _
  refine ⟨h.wellFormed.call hcall, ?_, ?_, haccounts.1, haccounts.2⟩
  · rw [hcall.subscribers_eq, registrations_call, h.subscribers]
  · rw [hcall.isOpen_eq, closedBy_call, h.isOpen]
    by_cases hc : c = .close <;> simp [hc]

/-- A send that raises accepts no frame. -/
theorem Delivered.send_closed (h : Delivered ops s) (hopen : s.isOpen = false)
    (frame : CANFrame R) : Delivered (ops ++ [.send frame]) s := by
  have hclosed : closedBy ops = true := by
    rw [← Bool.not_eq_false', ← h.isOpen, hopen]
  have hnone : ∀ k, accepted k (ops ++ [.send frame]) = accepted k ops := by
    intro k
    rw [accepted_concat, accepts, if_neg (by simp [hclosed]), List.append_nil]
  refine ⟨h.wellFormed, ?_, ?_, ?_, ?_⟩
  · rw [registrations_send, h.subscribers]
  · rw [closedBy_send, h.isOpen]
  · intro k hk
    rw [hnone]
    exact h.unmade k hk
  · intro k q hq
    rw [hnone]
    exact ⟨(h.items k q hq).1, List.mem_append_left _ (h.items k q hq).2⟩

/-- A send on the open bus reaches every registered queue that has room. -/
theorem Delivered.send_open (h : Delivered ops s) (hrun : Machine.run step new ops = some s)
    (hopen : s.isOpen = true) (frame : CANFrame R) :
    Delivered (ops ++ [.send frame]) (s.deliver frame) := by
  have hclosed : closedBy ops = false := by
    rw [← Bool.not_eq_true', ← h.isOpen, hopen]
  refine ⟨h.wellFormed.deliver frame, ?_, ?_, ?_, ?_⟩
  · rw [registrations_send, ← h.subscribers]
    rfl
  · rw [closedBy_send, ← h.isOpen]
    rfl
  · intro k hk
    rw [h.wellFormed.deliver_queues frame k] at hk
    have hnone : s.queues k = none := by
      by_cases hmem : k ∈ s.subscribers
      · rw [if_pos hmem] at hk
        exact Option.map_eq_none_iff.mp hk
      · rwa [if_neg hmem] at hk
    -- a queue that does not exist is not registered
    have hunregistered : k ∉ registrations ops := by
      rw [← h.subscribers]
      intro hmem
      have hmade := h.wellFormed.made k hmem
      rw [hnone] at hmade
      cases hmade
    rw [accepted_concat, accepts, if_neg (by simp [hunregistered]), List.append_nil]
    exact h.unmade k hnone
  · intro k q' hq'
    rw [h.wellFormed.deliver_queues frame k] at hq'
    rw [accepted_concat, accepts]
    by_cases hmem : k ∈ s.subscribers
    · rw [if_pos hmem, Option.map_eq_some_iff] at hq'
      obtain ⟨q, hq, rfl⟩ := hq'
      obtain ⟨hitems, hcreate⟩ := h.items k q hq
      rw [hasRoomAfter_eq hrun hq, ← h.subscribers]
      simp only [hclosed, hmem, true_and, decide_eq_true_eq]
      rw [BoundedQueue.offer_items, BoundedQueue.offer_maxsize, ← hitems, List.append_assoc]
      exact ⟨rfl, List.mem_append_left _ hcreate⟩
    · rw [if_neg hmem] at hq'
      obtain ⟨hitems, hcreate⟩ := h.items k q' hq'
      rw [← h.subscribers, if_neg (by simp [hmem]), List.append_nil]
      exact ⟨hitems, List.mem_append_left _ hcreate⟩

theorem delivered_run (hrun : Machine.run step new ops = some s) : Delivered ops s := by
  refine Machine.run_induction delivered_new ?_ hrun
  intro pre s op s' hpre h hstep
  cases op with
  | call c => exact h.call (call_of_eq_some hstep)
  | send frame =>
    obtain rfl : (s.send frame).2 = s' := Option.some.inj hstep
    by_cases hopen : s.isOpen = true
    · rw [send_of_open hopen]
      exact h.send_open hpre hopen frame
    · rw [Bool.not_eq_true] at hopen
      rw [send_of_closed hopen]
      exact h.send_closed hopen frame

end Delivery

/-! ## Isolation -/

/-- The operations a subscriber can notice: sends, closes, and those on its own queue. -/
def concerns (k : κ) : BusOp κ R → Bool
  | .call (.create j _) => decide (j = k)
  | .call (.remove j) => decide (j = k)
  | .call (.get j) => decide (j = k)
  | .call .close => true
  | .send _ => true

/-- What can be seen of the bus from one subscriber. -/
structure View (R : Type) where
  isOpen : Bool
  registered : Bool
  queue : Option (BoundedQueue (CANFrame R))
  taken : List (CANFrame R)

/-- The view of the subscriber `k`. -/
def view (k : κ) (s : VirtualCANBus κ R) : View R :=
  ⟨s.isOpen, decide (k ∈ s.subscribers), s.queues k, s.taken k⟩

/-- What an operation that concerns it does to the view. -/
def View.step (v : View R) : BusOp κ R → View R
  | .call (.create _ maxsize) => { v with registered := true, queue := some (.empty _ maxsize) }
  | .call (.remove _) => { v with registered := false }
  | .call .close => { v with isOpen := false, registered := false }
  | .call (.get _) =>
    match v.queue.bind BoundedQueue.getNowait with
    | some (frame, q) => { v with queue := some q, taken := v.taken ++ [frame] }
    | none => v
  | .send frame =>
    if v.isOpen = true ∧ v.registered = true then
      { v with queue := v.queue.map fun q => q.offer frame }
    else v

variable {s s' : VirtualCANBus κ R}

/-- Draining one queue, seen from another or from its own subscriber. -/
theorem view_get (k j : κ) {q : BoundedQueue (CANFrame R)} (hq : s.queues j = some q) :
    view k (s.get j q) =
      if concerns (R := R) k (.call (.get j)) = true then
        (view k s).step (.call (.get j) : BusOp κ R) else view k s := by
  unfold get
  by_cases hjk : j = k
  · subst hjk
    have hqueue : (view j s).queue.bind BoundedQueue.getNowait = q.getNowait := by
      show (s.queues j).bind BoundedQueue.getNowait = _
      rw [hq]
      rfl
    rw [if_pos (by simp [concerns]), View.step, hqueue]
    cases hget : q.getNowait with
    | none => rfl
    | some out => simp [view]
  · rw [if_neg (by simpa [concerns] using hjk)]
    cases hget : q.getNowait with
    | none => rfl
    | some out => simp [view, Function.update_of_ne (Ne.symm hjk)]

/-- **One step, seen from `k`.** -/
theorem WellFormed.view_step (h : WellFormed s) (k : κ) {op : BusOp κ R}
    (hstep : s.step op = some s') :
    WellFormed s' ∧
      view k s' = if concerns k op = true then (view k s).step op else view k s := by
  cases op with
  | send frame =>
    obtain rfl : (s.send frame).2 = s' := Option.some.inj hstep
    rw [if_pos (by rfl), View.step]
    by_cases hopen : s.isOpen = true
    · rw [send_of_open hopen]
      refine ⟨h.deliver frame, ?_⟩
      show View.mk s.isOpen (decide (k ∈ s.subscribers)) ((s.deliver frame).queues k) (s.taken k) = _
      rw [h.deliver_queues frame k]
      by_cases hmem : k ∈ s.subscribers <;> simp [view, hopen, hmem]
    · rw [Bool.not_eq_true] at hopen
      rw [send_of_closed hopen]
      exact ⟨h, by simp [view, hopen]⟩
  | call c =>
    have hcall : Call s c s' := call_of_eq_some hstep
    refine ⟨h.call hcall, ?_⟩
    cases c with
    | create j maxsize =>
      cases hcall
      by_cases hjk : j = k
      · subst hjk
        simp [concerns, view, View.step, createSubscriber]
      · simp [concerns, view, createSubscriber, hjk, Ne.symm hjk]
    | remove j =>
      cases hcall
      by_cases hjk : j = k
      · subst hjk
        simp [concerns, view, View.step, h.nodup.not_mem_erase]
      · simp [concerns, view, hjk, List.mem_erase_of_ne (Ne.symm hjk)]
    | close =>
      cases hstep
      rfl
    | get j =>
      obtain ⟨q, hq, rfl⟩ := Option.map_eq_some_iff.mp hstep
      exact view_get k j hq

/-- The view after a run depends on what concerns the subscriber only. -/
theorem view_run (k : κ) {ops : List (BusOp κ R)}
    (hrun : Machine.run step new ops = some s) :
    view k s = (ops.filter (concerns k)).foldl View.step (view k new) :=
  Machine.run_view (I := WellFormed) wellFormed_new
    (fun _ _ _ h hstep => h.view_step k hstep) hrun

/-- **Delivery is exact, bounded and isolated.** After every sequence of operations:

- the frames taken from a queue followed by those in it are the frames sent while it
  was registered on the open bus at moments when it had room, in order; it has the
  size it was made with, and never exceeds a positive one;
- in every other sequence that has the same sends, closes and operations on this queue,
  in this order, it holds the same and the same was taken from it;
- once the bus has been closed a `send` raises and changes nothing. -/
theorem delivery_exact (ops : List (BusOp κ R)) (s : VirtualCANBus κ R)
    (hrun : Machine.run step new ops = some s) :
    (∀ k q, s.queues k = some q →
      s.taken k ++ q.items = accepted k ops ∧ .call (.create k q.maxsize) ∈ ops ∧
        (0 < q.maxsize → (q.items.length : ℤ) ≤ q.maxsize)) ∧
      (∀ k ops' s', Machine.run step new ops' = some s' →
        ops'.filter (concerns k) = ops.filter (concerns k) →
        s'.queues k = s.queues k ∧ s'.taken k = s.taken k) ∧
      (.call .close ∈ ops → ∀ frame, s.send frame =
        (.error (.runtimeError "Cannot send frame on closed Virtual CAN Bus."), s)) := by
  have h := delivered_run hrun
  refine ⟨?_, ?_, ?_⟩
  · intro k q hq
    obtain ⟨hitems, hcreate⟩ := h.items k q hq
    exact ⟨hitems, hcreate, q.bounded⟩
  · intro k ops' s' hrun' hsame
    have hview : view k s' = view k s := by
      rw [view_run k hrun', view_run k hrun, hsame]
    exact ⟨congrArg View.queue hview, congrArg View.taken hview⟩
  · intro hclose frame
    refine send_of_closed ?_ frame
    have hclosed : closedBy ops = true := by
      rw [closedBy, List.contains_iff_mem]
      exact List.mem_filterMap.mpr ⟨_, hclose, rfl⟩
    rw [h.isOpen, hclosed]
    rfl

/-- Two subscribers, one of a single place that is not drained, on a bus that is
closed. -/
def twoSubscribers : List (BusOp String ℚ) :=
  let frame (t : ℚ) := CANFrame.new 0 canIdBodyDoors [255, 0, 1] none false false false (some t)
  [.call (.create "ids" 1), .send (frame 1), .call (.create "logger" 0), .send (frame 2),
    .call (.get "logger"), .send (frame 3), .call .close, .send (frame 4)]

theorem delivery_exact_twoSubscribers :
    ∃ s : VirtualCANBus String ℚ, Machine.run step new twoSubscribers = some s ∧
      ∀ k q, s.queues k = some q → s.taken k ++ q.items = accepted k twoSubscribers := by
  have hsome : (Machine.run step new twoSubscribers : Option (VirtualCANBus String ℚ)).isSome := by
    decide +kernel
  obtain ⟨s, hs⟩ := Option.isSome_iff_exists.mp hsome
  exact ⟨s, hs, fun k q hq => ((delivery_exact twoSubscribers s hs).1 k q hq).1⟩

example : (accepted "ids" twoSubscribers).map CANFrame.timestamp = [1] ∧
    (accepted "logger" twoSubscribers).map CANFrame.timestamp = [2, 3] := by
  decide +kernel

end CanSentinel.VirtualCANBus
