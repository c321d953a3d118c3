import CanSentinel.Bus.Delivery

/-!
# Listening on the virtual bus

A subscriber whose queue has no bound, on a bus that other threads use. It misses nothing as
long as nobody removes it and the bus is open.

- `Hears k frames bus`: the queue `k` has got `frames`, in this order, and maybe others.
- `Hears.deliver`, `Hears.other`: a delivery adds its frame; no other operation takes a frame
  away, and a delivery on a closed bus does not either (`Hears.delivery`).
-/

namespace CanSentinel.VirtualCANBus

variable {κ R : Type} [DecidableEq κ] {bus bus' : VirtualCANBus κ R} {k : κ}
  {frames : List (CANFrame R)}

/-- The queue `k` without a bound has got the frames, and is registered as long as the bus is
open. -/
structure Hears (k : κ) (frames : List (CANFrame R)) (bus : VirtualCANBus κ R) : Prop where
  wellFormed : bus.WellFormed
  registered : bus.isOpen = true → k ∈ bus.subscribers
  got : ∃ q, bus.queues k = some q ∧ q.maxsize ≤ 0 ∧ frames.Sublist (bus.taken k ++ q.items)

omit [DecidableEq κ] in
theorem hears_nil (hwf : bus.WellFormed) (hk : k ∈ bus.subscribers)
    {q : BoundedQueue (CANFrame R)} (hq : bus.queues k = some q) (hsize : q.maxsize ≤ 0) :
    Hears k [] bus :=
  ⟨hwf, fun _ => hk, q, hq, hsize, List.nil_sublist _⟩

/-- A delivery adds its frame to an unbounded queue that is registered. -/
theorem deliver_got (hwf : bus.WellFormed) {q : BoundedQueue (CANFrame R)}
    (hq : bus.queues k = some q) (hsize : q.maxsize ≤ 0) (frame : CANFrame R) :
    ∃ q', (bus.deliver frame).queues k = some q' ∧ q'.maxsize ≤ 0 ∧
      q'.items = q.items ++ if k ∈ bus.subscribers then [frame] else [] := by
  rw [hwf.deliver_queues, hq]
  by_cases hmem : k ∈ bus.subscribers
  · rw [if_pos hmem, if_pos hmem]
    refine ⟨_, rfl, ?_, ?_⟩
    · rw [BoundedQueue.offer_maxsize]
      exact hsize
    · have hroom : q.HasRoom := fun hpos => absurd hpos (not_lt.mpr hsize)
      rw [BoundedQueue.offer_items, if_pos hroom]
  · rw [if_neg hmem, if_neg hmem]
    exact ⟨q, rfl, hsize, (List.append_nil _).symm⟩

/-- A delivery takes nothing away. -/
theorem Hears.delivery (h : Hears k frames bus) (frame : CANFrame R) :
    Hears k frames (bus.deliver frame) := by
  obtain ⟨q, hq, hsize, hgot⟩ := h.got
  obtain ⟨q', hq', hsize', hitems⟩ := deliver_got h.wellFormed hq hsize frame
  refine ⟨h.wellFormed.deliver frame, h.registered, q', hq', hsize', ?_⟩
  rw [hitems, ← List.append_assoc]
  exact hgot.trans (List.sublist_append_left _ _)

/-- A delivery on the open bus is heard. -/
theorem Hears.deliver (h : Hears k frames bus) (hopen : bus.isOpen = true)
    (frame : CANFrame R) : Hears k (frames ++ [frame]) (bus.deliver frame) := by
  obtain ⟨q, hq, hsize, hgot⟩ := h.got
  obtain ⟨q', hq', hsize', hitems⟩ := deliver_got h.wellFormed hq hsize frame
  rw [if_pos (h.registered hopen)] at hitems
  refine ⟨h.wellFormed.deliver frame, fun _ => h.registered hopen, q', hq', hsize', ?_⟩
  rw [hitems, ← List.append_assoc]
  exact hgot.append (List.Sublist.refl _)

/-- What other threads do takes nothing away, as long as they do not remove the queue. -/
theorem Hears.other (h : Hears k frames bus) {op : BusOp κ R} (hop : bus.step op = some bus')
    (hremove : op ≠ .call (.remove k)) : Hears k frames bus' := by
  obtain ⟨q, hq, hsize, hgot⟩ := h.got
  cases op with
  | send frame =>
    obtain rfl : (bus.send frame).2 = bus' := Option.some.inj hop
    cases hopen : bus.isOpen with
    | false =>
      rw [send_of_closed hopen]
      exact h
    | true =>
      rw [send_of_open hopen]
      exact h.delivery frame
  | call c =>
    have hcall := call_of_eq_some hop
    have hwf := h.wellFormed.call hcall
    cases hcall with
    | create j maxsize hj =>
      have hne : k ≠ j := by
        rintro rfl
        rw [hq] at hj
        cases hj
      refine ⟨hwf, fun ho => List.mem_append_left _ (h.registered ho), q, ?_, hsize, hgot⟩
      exact (Function.update_of_ne hne _ _).trans hq
    | remove j =>
      have hne : k ≠ j := by
        rintro rfl
        exact hremove rfl
      exact ⟨hwf, fun ho => (List.mem_erase_of_ne hne).mpr (h.registered ho), q, hq, hsize, hgot⟩
    | close =>
      refine ⟨hwf, ?_, q, hq, hsize, hgot⟩
      intro ho
      cases ho
    | empty j => exact h
    | get j p p' frame hp hitems hmaxsize =>
      by_cases hkj : k = j
      · subst hkj
        rw [hq] at hp
        obtain rfl := Option.some.inj hp
        refine ⟨hwf, h.registered, p', Function.update_self _ _ _, hmaxsize ▸ hsize, ?_⟩
        rw [hitems] at hgot
        show frames.Sublist
          (Function.update bus.taken k (bus.taken k ++ [frame]) k ++ p'.items)
        rw [Function.update_self, List.append_assoc]
        exact hgot
      · refine ⟨hwf, h.registered, q, (Function.update_of_ne hkj _ _).trans hq, hsize, ?_⟩
        show frames.Sublist
          (Function.update bus.taken j (bus.taken j ++ [frame]) k ++ q.items)
        rw [Function.update_of_ne hkj]
        exact hgot

/-- Only `close` closes the bus, and nothing opens it again. -/
theorem isOpen_step {op : BusOp κ R} (hop : bus.step op = some bus') :
    (bus.isOpen = true → op ≠ .call .close → bus'.isOpen = true) ∧
      (bus.isOpen = false → bus'.isOpen = false) := by
  cases op with
  | send frame =>
    obtain rfl : (bus.send frame).2 = bus' := Option.some.inj hop
    cases hopen : bus.isOpen with
    | false =>
      rw [send_of_closed hopen]
      exact ⟨fun h => absurd h Bool.false_ne_true, fun _ => hopen⟩
    | true =>
      rw [send_of_open hopen]
      exact ⟨fun _ _ => hopen, fun h => absurd h.symm Bool.false_ne_true⟩
  | call c =>
    have hisOpen := (call_of_eq_some hop).isOpen_eq
    constructor
    · intro hopen hne
      rw [hisOpen, hopen, Bool.true_and, decide_eq_true_eq]
      exact fun hc => hne (by rw [hc])
    · intro hclosed
      rw [hisOpen, hclosed, Bool.false_and]

end CanSentinel.VirtualCANBus
