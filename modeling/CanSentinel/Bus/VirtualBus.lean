import CanSentinel.Lib.Machine
import CanSentinel.Lib.Queue
import CanSentinel.Bus.Frame
import CanSentinel.Lib.Python

/-!
# The virtual bus (`sim/bus_emulator.py`)

`VirtualCANBus` delivers every frame to the queues of its subscribers. A queue is an
object of its own: it outlives its registration, and its consumer drains it.

- `openTest`, `deliver`: the two halves of `send`, the first without the lock.
- `call`: the other methods, each one locked step, and a consumer's `get_nowait`.
- `registrations`: which queues a sequence of calls leaves registered.
- `deliver_queues`: what a delivery does to one queue.
-/

namespace CanSentinel

variable {κ R : Type} [DecidableEq κ]

/-- `VirtualCANBus`, with the queues it has made; `κ` identifies queue objects. `taken`
is what the consumer of each queue has got; the program does not keep it. -/
structure VirtualCANBus (κ R : Type) where
  isOpen : Bool
  subscribers : List κ
  queues : κ → Option (BoundedQueue (CANFrame R))
  taken : κ → List (CANFrame R)

/-- A call of a method that is one locked step, or of a queue's `get_nowait`. -/
inductive BusCall (κ : Type) where
  /-- `create_subscriber(maxsize)` returns the queue `k` -/
  | create (k : κ) (maxsize : ℤ)
  | remove (k : κ)
  | close
  | get (k : κ)
deriving DecidableEq

namespace VirtualCANBus

/-- `VirtualCANBus.__init__`. -/
def new : VirtualCANBus κ R := ⟨true, [], fun _ => none, fun _ => []⟩

/-- `VirtualCANBus.create_subscriber`; `k` is the new queue. -/
def createSubscriber (self : VirtualCANBus κ R) (k : κ) (maxsize : ℤ) : VirtualCANBus κ R :=
  { self with
    queues := Function.update self.queues k (some (.empty _ maxsize))
    subscribers := self.subscribers ++ [k] }

/-- `VirtualCANBus.remove_subscriber`. -/
def removeSubscriber (self : VirtualCANBus κ R) (k : κ) : VirtualCANBus κ R :=
  if k ∈ self.subscribers then { self with subscribers := self.subscribers.erase k } else self

/-- `VirtualCANBus.close`. -/
def close (self : VirtualCANBus κ R) : VirtualCANBus κ R :=
  { self with isOpen := false, subscribers := [] }

/-- The test `send` begins with. -/
def openTest (self : VirtualCANBus κ R) : Except PyError Unit :=
  if self.isOpen then .ok ()
  else .error (.runtimeError "Cannot send frame on closed Virtual CAN Bus.")

/-- The loop of `send` over the subscribers; a full queue drops the frame. -/
def deliver (self : VirtualCANBus κ R) (frame : CANFrame R) : VirtualCANBus κ R :=
  { self with
    queues := self.subscribers.foldl
      (fun queues k => Function.update queues k ((queues k).map fun q => q.offer frame))
      self.queues }

/-- `VirtualCANBus.send`. -/
def send (self : VirtualCANBus κ R) (frame : CANFrame R) :
    Except PyError Unit × VirtualCANBus κ R :=
  match self.openTest with
  | .error e => (.error e, self)
  | .ok () => (.ok (), self.deliver frame)

/-- The consumer of the queue `k` calls `get_nowait`, which raises on an empty queue. -/
def get (self : VirtualCANBus κ R) (k : κ) (q : BoundedQueue (CANFrame R)) :
    VirtualCANBus κ R :=
  match q.getNowait with
  | none => self
  | some (frame, q') =>
    { self with
      queues := Function.update self.queues k (some q')
      taken := Function.update self.taken k (self.taken k ++ [frame]) }

/-- One call; `none` if a queue were made twice, or used before it is made. -/
def call (self : VirtualCANBus κ R) : BusCall κ → Option (VirtualCANBus κ R)
  | .create k maxsize =>
    match self.queues k with
    | none => some (self.createSubscriber k maxsize)
    | some _ => none
  | .remove k => some (self.removeSubscriber k)
  | .close => some self.close
  | .get k => (self.queues k).map (self.get k)

/-- What a call can do. -/
inductive Call (s : VirtualCANBus κ R) : BusCall κ → VirtualCANBus κ R → Prop
  | create (k : κ) (maxsize : ℤ) : s.queues k = none →
      Call s (.create k maxsize) (s.createSubscriber k maxsize)
  | remove (k : κ) : Call s (.remove k) { s with subscribers := s.subscribers.erase k }
  | close : Call s .close s.close
  | empty (k : κ) : Call s (.get k) s
  | get (k : κ) (q q' : BoundedQueue (CANFrame R)) (frame : CANFrame R) :
      s.queues k = some q → q.items = frame :: q'.items → q'.maxsize = q.maxsize →
      Call s (.get k) { s with
        queues := Function.update s.queues k (some q')
        taken := Function.update s.taken k (s.taken k ++ [frame]) }

/-- **Inversion of a call.** -/
theorem call_of_eq_some {s s' : VirtualCANBus κ R} {c : BusCall κ} (h : s.call c = some s') :
    Call s c s' := by
  cases c with
  | create k maxsize =>
    cases hk : s.queues k <;> rw [call, hk] at h <;> cases h
    exact .create k maxsize hk
  | remove k =>
    cases h
    unfold removeSubscriber
    by_cases hk : k ∈ s.subscribers
    · rw [if_pos hk]
      exact .remove k
    · rw [if_neg hk]
      have hremove := Call.remove (s := s) k
      rw [List.erase_of_not_mem hk] at hremove
      exact hremove
  | close =>
    cases h
    exact .close
  | get k =>
    rw [call, Option.map_eq_some_iff] at h
    obtain ⟨q, hk, rfl⟩ := h
    unfold get
    cases hget : q.getNowait with
    | none => exact .empty k
    | some out =>
      obtain ⟨hitems, hmaxsize⟩ := BoundedQueue.getNowait_eq_some hget
      exact .get k q out.2 out.1 hk hitems hmaxsize

/-! ## Registrations -/

/-- The registered queues after a call. -/
def registered (subscribers : List κ) : BusCall κ → List κ
  | .create k _ => subscribers ++ [k]
  | .remove k => subscribers.erase k
  | .close => []
  | .get _ => subscribers

theorem Call.subscribers_eq {s s' : VirtualCANBus κ R} {c : BusCall κ} (h : Call s c s') :
    s'.subscribers = registered s.subscribers c := by
  cases h <;> rfl

theorem Call.isOpen_eq {s s' : VirtualCANBus κ R} {c : BusCall κ} (h : Call s c s') :
    s'.isOpen = (s.isOpen && decide (c ≠ .close)) := by
  cases h <;> simp [createSubscriber, VirtualCANBus.close]

/-- Queues are registered once, and only if they have been made. -/
structure WellFormed (s : VirtualCANBus κ R) : Prop where
  nodup : s.subscribers.Nodup
  made : ∀ k ∈ s.subscribers, (s.queues k).isSome

omit [DecidableEq κ] in
theorem wellFormed_new : WellFormed (new : VirtualCANBus κ R) where
  nodup := List.nodup_nil
  made := by
    intro k hk
    cases hk

theorem WellFormed.call {s s' : VirtualCANBus κ R} {c : BusCall κ} (h : WellFormed s)
    (hcall : Call s c s') : WellFormed s' := by
  cases hcall with
  | create k maxsize hk =>
    have hfresh : k ∉ s.subscribers := by
      intro hmem
      have hmade := h.made k hmem
      rw [hk] at hmade
      cases hmade
    refine ⟨?_, ?_⟩
    · show (s.subscribers ++ [k]).Nodup
      rw [← List.concat_eq_append]
      exact h.nodup.concat hfresh
    · intro j hj
      show (Function.update s.queues k _ j).isSome
      by_cases hjk : j = k
      · rw [hjk, Function.update_self]
        rfl
      · rw [Function.update_of_ne hjk]
        refine h.made j ?_
        rcases List.mem_append.mp hj with hj | hj
        · exact hj
        · exact absurd (List.mem_singleton.mp hj) hjk
  | remove k => exact ⟨h.nodup.erase k, fun j hj => h.made j (List.mem_of_mem_erase hj)⟩
  | close =>
    refine ⟨List.nodup_nil, ?_⟩
    intro k hk
    cases hk
  | empty k => exact h
  | get k q q' frame _ _ _ =>
    refine ⟨h.nodup, ?_⟩
    intro j hj
    show (Function.update s.queues k _ j).isSome
    by_cases hjk : j = k
    · rw [hjk, Function.update_self]
      rfl
    · rw [Function.update_of_ne hjk]
      exact h.made j hj

/-- **One delivery**: a registered queue is offered the frame once, the others do not
change. -/
theorem WellFormed.deliver_queues {s : VirtualCANBus κ R} (h : WellFormed s)
    (frame : CANFrame R) (k : κ) :
    (s.deliver frame).queues k =
      if k ∈ s.subscribers then (s.queues k).map fun q => q.offer frame else s.queues k := by
  -- induction on the queues still to be served, for any state of the queues
  have hfold : ∀ (subscribers : List κ) (queues : κ → Option (BoundedQueue (CANFrame R))),
      subscribers.Nodup →
      subscribers.foldl (fun queues k =>
          Function.update queues k ((queues k).map fun q => q.offer frame)) queues k =
        if k ∈ subscribers then (queues k).map fun q => q.offer frame else queues k := by
    intro subscribers
    induction subscribers with
    | nil =>
      intro queues _
      rfl
    | cons j subscribers ih =>
      intro queues hnodup
      rw [List.nodup_cons] at hnodup
      rw [List.foldl_cons, ih _ hnodup.2]
      by_cases hkj : k = j
      · subst hkj
        rw [if_neg hnodup.1, if_pos List.mem_cons_self, Function.update_self]
      · rw [Function.update_of_ne hkj]
        simp only [List.mem_cons, hkj, false_or]
  exact hfold s.subscribers s.queues h.nodup

theorem WellFormed.deliver {s : VirtualCANBus κ R} (h : WellFormed s) (frame : CANFrame R) :
    WellFormed (s.deliver frame) where
  nodup := h.nodup
  made := by
    intro k hk
    have hmem : k ∈ s.subscribers := hk
    rw [h.deliver_queues frame k, if_pos hmem, Option.isSome_map]
    exact h.made k hmem

end VirtualCANBus

end CanSentinel
