import CanSentinel.Sim.OnBus

/-!
# Winding the simulator down

`close` and `stop` clear a flag, and every thread notices at its next test of it. Until then it
goes on with what it is doing.

- `LiveSimulator.Pays`: a thread delivers out of the messages that its position still has.
- `simulator_winds_down`: what is still put on the bus.
- `EcuPosition.stepsLeft`: how long a thread of a stopped simulator goes on.
- `simulator_threads_end`: the threads end.
-/

namespace CanSentinel

variable {κ R W : Type} [DecidableEq κ] [PyFloat R]

/-! ## After `close` and `stop` -/

/-- The message for which `bus.send` has found the bus open and that it is still to deliver. -/
def EcuPosition.passed : EcuPosition R → List (Except PyError (CANFrame R))
  | .deliver _ frame _ => [.ok frame]
  | _ => []

omit [PyFloat R] in
theorem EcuPosition.late_of_passed {p : EcuPosition R} {late : List (CANFrame R)}
    (h : late.map .ok <+: p.passed) :
    late = [] ∨ ∃ tick frame rest, p = .deliver tick frame rest ∧ late = [frame] := by
  cases p with
  | deliver tick frame rest =>
    obtain hnone | ⟨rest', hone, hrest⟩ := List.prefix_cons_iff.mp h
    · exact .inl (List.map_eq_nil_iff.mp hnone)
    · rw [List.prefix_nil.mp hrest, List.map_eq_singleton_iff] at hone
      obtain ⟨frame', rfl, hframe⟩ := hone
      obtain rfl := Except.ok.inj hframe
      exact .inr ⟨tick, frame', rest, rfl, rfl⟩
  | _ => exact .inl (List.map_eq_nil_iff.mp (List.prefix_nil.mp h))

namespace LiveSimulator

section WindDown

variable {math : MathModule R} {callbacks : List (Callback PyError W (CANFrame R))}
  {s s' : LiveSimulator κ R W} {es : List (LiveSimEvent κ R)}
  {budget : EcuPosition R → List (Except PyError (CANFrame R))} {i j : ℕ × Ecu}
  {p : EcuPosition R}

/-- What a thread puts on the bus in a step is the next message of its budget. -/
def Pays (budget : EcuPosition R → List (Except PyError (CANFrame R)))
    (s s' : LiveSimulator κ R W) (i : ℕ × Ecu) : Prop :=
  ∃ new, publishedBy i s'.sent = publishedBy i s.sent ++ new ∧
    new.map .ok ++ budget (s'.ecus i) <+: budget (s.ecus i)

omit [DecidableEq κ] [PyFloat R] in
theorem pays_idle (hsent : s'.sent = s.sent)
    (hle : budget (s'.ecus i) <+: budget (s.ecus i)) : Pays budget s s' i :=
  ⟨[], by rw [hsent, List.append_nil], hle⟩

omit [DecidableEq κ] [PyFloat R] in
/-- A step of the thread `j` that delivers nothing. -/
theorem pays_move (hs : s'.ecus = Function.update s.ecus j p) (hsent : s'.sent = s.sent)
    (hle : budget p <+: budget (s.ecus j)) : Pays budget s s' i := by
  refine pays_idle hsent ?_
  rw [hs]
  by_cases hij : i = j
  · subst hij
    rwa [Function.update_self]
  · rw [Function.update_of_ne hij]

omit [DecidableEq κ] [PyFloat R] in
/-- A delivery of the thread `j`. -/
theorem pays_deliver {frame : CANFrame R} (hs : s'.ecus = Function.update s.ecus j p)
    (hsent : s'.sent = s.sent ++ [(j, frame)]) (hle : .ok frame :: budget p = budget (s.ecus j)) :
    Pays budget s s' i := by
  rw [Pays, hs, hsent, Publishers.publishedBy_concat]
  by_cases hij : j = i
  · subst hij
    rw [if_pos rfl, Function.update_self, ← hle]
    exact ⟨[frame], rfl, List.prefix_refl _⟩
  · rw [if_neg hij, Function.update_of_ne (Ne.symm hij)]
    exact ⟨[], rfl, List.prefix_refl _⟩

/-- On a closed bus, only a thread that has passed the test delivers. -/
theorem pays_passed {e : LiveSimEvent κ R} (hclosed : s.bus.isOpen = false)
    (hstep : Step math callbacks s e s') (i : ℕ × Ecu) :
    s'.bus.isOpen = false ∧ Pays EcuPosition.passed s s' i := by
  cases hstep with
  | start _ =>
    -- the threads of the new start have passed no test yet
    refine ⟨hclosed, pays_idle rfl ?_⟩
    show EcuPosition.passed (if i.1 = s.generation then _ else _) <+: _
    split
    · exact List.nil_prefix
    · exact List.prefix_refl _
  | started _ => exact ⟨hclosed, pays_idle rfl (List.prefix_refl _)⟩
  | stop => exact ⟨hclosed, pays_idle rfl (List.prefix_refl _)⟩
  | physics _ _ _ => exact ⟨hclosed, pays_idle rfl (List.prefix_refl _)⟩
  | parked _ => exact ⟨hclosed, pays_idle rfl (List.prefix_refl _)⟩
  | other op bus hop =>
    exact ⟨(VirtualCANBus.isOpen_step hop).2 hclosed, pays_idle rfl (List.prefix_refl _)⟩
  | ecu j e s' hacts =>
    cases hacts with
    | pass tick frame rest hpos hopen =>
      rw [hclosed] at hopen
      cases hopen
    | deliver tick frame rest hpos =>
      exact ⟨hclosed, pays_deliver rfl rfl (congrArg EcuPosition.passed hpos).symm⟩
    | _ => exact ⟨hclosed, pays_move rfl rfl List.nil_prefix⟩

/-- Once `running` is cleared, a thread only goes on with the messages of its iteration. -/
theorem pays_pending {e : LiveSimEvent κ R} (hstopped : s.running = false)
    (hstep : Step math callbacks s e s') (hstart : e ≠ .start) (i : ℕ × Ecu) :
    s'.running = false ∧ Pays EcuPosition.pending s s' i := by
  have hkept {j : ℕ × Ecu} {p q : EcuPosition R} (hpos : s.ecus j = p)
      (hq : q.pending = p.pending) : q.pending <+: (s.ecus j).pending := by
    rw [hpos, hq]
  cases hstep with
  | start _ => exact absurd rfl hstart
  | started _ => exact absurd rfl hstart
  | stop => exact ⟨rfl, pays_idle rfl (List.prefix_refl _)⟩
  | physics _ _ _ => exact ⟨hstopped, pays_idle rfl (List.prefix_refl _)⟩
  | parked _ => exact ⟨hstopped, pays_idle rfl (List.prefix_refl _)⟩
  | other _ _ _ => exact ⟨hstopped, pays_idle rfl (List.prefix_refl _)⟩
  | ecu j e s' hacts =>
    cases hacts with
    | snapshot now tick hpos hrunning =>
      -- no iteration begins any more
      rw [hstopped] at hrunning
      cases hrunning
    | leave _ _ _ _ => exact ⟨hstopped, pays_move rfl rfl List.nil_prefix⟩
    | sleep _ _ => exact ⟨hstopped, pays_move rfl rfl List.nil_prefix⟩
    | unpacked _ _ _ _ => exact ⟨hstopped, pays_move rfl rfl List.nil_prefix⟩
    | closed _ _ _ _ _ => exact ⟨hstopped, pays_move rfl rfl List.nil_prefix⟩
    | pass tick frame rest hpos hopen =>
      exact ⟨hstopped, pays_move rfl rfl (hkept hpos rfl)⟩
    | deliver tick frame rest hpos =>
      exact ⟨hstopped, pays_deliver rfl rfl (congrArg EcuPosition.pending hpos).symm⟩
    | call tick frame k rest cb hpos hcb =>
      exact ⟨hstopped, pays_move rfl rfl (hkept hpos rfl)⟩
    | notified tick frame k rest hpos hend =>
      exact ⟨hstopped, pays_move rfl rfl (hkept hpos rfl)⟩

/-- A thread puts no more on the bus than its budget at the start of the run. -/
theorem late_run (i : ℕ × Ecu) {I : LiveSimulator κ R W → Prop} {P : LiveSimEvent κ R → Prop}
    (h : ∀ s e s', I s → P e → Step math callbacks s e s' → I s' ∧ Pays budget s s' i)
    (hI : I s) (hes : ∀ e ∈ es, P e)
    (hrun : Machine.run (step math callbacks) s es = some s') :
    ∃ late, publishedBy i s'.sent = publishedBy i s.sent ++ late ∧
      late.map .ok <+: budget (s.ecus i) := by
  have hpays (s : LiveSimulator κ R W) (e : LiveSimEvent κ R) (s' : LiveSimulator κ R W)
      (hs : I s) (he : P e) (hstep : s.step math callbacks e = some s') :
      I s' ∧ ∃ new, publishedBy i s'.sent = publishedBy i s.sent ++ new ∧
        new.map .ok ++ budget (s'.ecus i) <+: budget (s.ecus i) :=
    h s e s' hs he (step_of_eq_some hstep)
  exact Machine.run_budget hpays hI hes hrun

end WindDown

/-- **After `close` and after `stop`.**

- Once the bus is closed, a thread puts nothing on it but the frame for which `bus.send` has
  already found the bus open; whatever else is called, `start` included.
- Once `running` is cleared, and until the next `start`, a thread puts nothing on the bus but
  the next messages of its iteration, which are at most three. -/
theorem simulator_winds_down {math : MathModule R} (hsin : math.SinBounded)
    (callbacks : List (Callback PyError W (CANFrame R))) (bus₀ : VirtualCANBus κ R) (world : W)
    (es es' : List (LiveSimEvent κ R)) (s s' : LiveSimulator κ R W)
    (hrun : Machine.run (step math callbacks) (init bus₀ world) es = some s)
    (hrun' : Machine.run (step math callbacks) s es' = some s') :
    (s.bus.isOpen = false → ∀ i, ∃ late,
      publishedBy i s'.sent = publishedBy i s.sent ++ late ∧ (late = [] ∨
        ∃ tick frame rest, s.ecus i = .deliver tick frame rest ∧ late = [frame])) ∧
      (s.running = false → .start ∉ es' → ∀ i, ∃ late,
        publishedBy i s'.sent = publishedBy i s.sent ++ late ∧
          late.map .ok <+: (s.ecus i).pending ∧ late.length ≤ 3) := by
  constructor
  · intro hclosed i
    obtain ⟨late, hlate, hle⟩ := late_run i (I := fun s => s.bus.isOpen = false)
      (P := fun _ => True) (fun _ _ _ hclosed _ hstep => pays_passed hclosed hstep i) hclosed
      (fun _ _ => trivial) hrun'
    exact ⟨late, hlate, EcuPosition.late_of_passed hle⟩
  · intro hstopped hstart i
    have hes' : ∀ e ∈ es', e ≠ .start := by
      rintro e he rfl
      exact hstart he
    obtain ⟨late, hlate, hle⟩ := late_run i (I := fun s => s.running = false)
      (P := fun e => e ≠ .start)
      (fun _ _ _ hstopped he hstep => pays_pending hstopped hstep he i) hstopped hes' hrun'
    refine ⟨late, hlate, hle, ?_⟩
    obtain ⟨kinds, ⟨hlen, _, _, _, hpending⟩, _⟩ := ((simInv_run hsin hrun).threads i).pending
    have hbound := hle.length_le
    rw [List.length_map, hpending, List.length_map] at hbound
    exact hbound.trans hlen

/-- The bus is closed and the simulator stopped while the brakes are in `bus.send`; the engine
has not come to its test. -/
theorem simulator_winds_down_sending : ∃ s s' : LiveSimulator String ℚ Unit,
    Machine.run (step ⟨fun _ => 0, 3⟩ []) s
        [.ecu (0, .brake) .deliver, .ecu (0, .engine) (.test 2)] = some s' ∧
      ∃ late, publishedBy (0, .brake) s'.sent = publishedBy (0, .brake) s.sent ++ late ∧
        late.map .ok <+: (s.ecus (0, .brake)).pending ∧ late.length ≤ 3 := by
  let before : List (LiveSimEvent String ℚ) := [.start, .ecu (0, .brake) (.test 1),
    .ecu (0, .brake) .send, .other (.call .close), .stop]
  let after : List (LiveSimEvent String ℚ) :=
    [.ecu (0, .brake) .deliver, .ecu (0, .engine) (.test 2)]
  have hsin : (⟨fun _ => 0, 3⟩ : MathModule ℚ).SinBounded := fun _ => by norm_num
  have hsome : ((Machine.run (step ⟨fun _ => 0, 3⟩ []) (init .new ()) before).bind fun s =>
      if s.running then none else (Machine.run (step ⟨fun _ => 0, 3⟩ []) s after :
        Option (LiveSimulator String ℚ Unit))).isSome := by decide +kernel
  obtain ⟨s', hs'⟩ := Option.isSome_iff_exists.mp hsome
  obtain ⟨s, hs, hrun⟩ := Option.bind_eq_some_iff.mp hs'
  cases hrunning : s.running with
  | true =>
    rw [hrunning] at hrun
    cases hrun
  | false =>
    rw [hrunning] at hrun
    have hdown := simulator_winds_down hsin [] .new () before after s s' hs hrun
    exact ⟨s, s', hrun, hdown.2 hrunning (by simp [after]) (0, .brake)⟩

end LiveSimulator

/-! ## The end of the threads -/

/-- The steps that a thread of a stopped simulator still takes at most, for `n` callbacks. -/
def EcuPosition.stepsLeft (n : ℕ) : EcuPosition R → ℕ
  | .absent | .ended => 0
  | .test _ => 1
  | .pack _ rest => rest.length * (n + 3) + 2
  | .deliver _ _ rest => rest.length * (n + 3) + (n + 4)
  | .notify _ _ k rest => rest.length * (n + 3) + (n - k + 3)

/-- The steps of the thread `i`. -/
def LiveSimEvent.isOf (i : ℕ × Ecu) : LiveSimEvent κ R → Bool
  | .ecu j _ => j = i
  | _ => false

omit [PyFloat R] in
theorem EcuPosition.stepsLeft_le (n : ℕ) (p : EcuPosition R) (h : p.pending.length ≤ 3) :
    p.stepsLeft n ≤ 4 * n + 12 := by
  have hrest (rest : List (Except PyError (CANFrame R))) (m : ℕ) (hlen : rest.length ≤ m) :
      rest.length * (n + 3) ≤ m * (n + 3) := Nat.mul_le_mul_right _ hlen
  cases p with
  | absent => exact Nat.zero_le _
  | ended => exact Nat.zero_le _
  | test _ => exact Nat.le_add_left 1 _
  | pack _ rest =>
    have hle := hrest rest 3 h
    rw [stepsLeft]
    omega
  | deliver _ _ rest =>
    have hle := hrest rest 2 (Nat.le_of_succ_le_succ h)
    rw [stepsLeft]
    omega
  | notify _ _ k rest =>
    have hle := hrest rest 3 h
    rw [stepsLeft]
    omega

namespace LiveSimulator

section Ends

variable {math : MathModule R} {callbacks : List (Callback PyError W (CANFrame R))}
  {s s' : LiveSimulator κ R W}

/-- A step of a thread of the stopped simulator leaves it one step less. -/
theorem stepsLeft_acts {i : ℕ × Ecu} {e : EcuEvent R} (hstopped : s.running = false)
    (h : Acts callbacks s i e s') :
    (s'.ecus i).stepsLeft callbacks.length < (s.ecus i).stepsLeft callbacks.length := by
  have hset {t : LiveSimulator κ R W} {p : EcuPosition R}
      (ht : t.ecus = Function.update s.ecus i p)
      (hlt : p.stepsLeft callbacks.length < (s.ecus i).stepsLeft callbacks.length) :
      (t.ecus i).stepsLeft callbacks.length < (s.ecus i).stepsLeft callbacks.length := by
    rw [ht, Function.update_self]
    exact hlt
  cases h with
  | snapshot now tick hpos hrunning =>
    rw [hstopped] at hrunning
    cases hrunning
  | leave now tick hpos _ =>
    refine hset rfl ?_
    rw [hpos]
    exact Nat.zero_lt_one
  | sleep tick hpos =>
    refine hset rfl ?_
    rw [hpos]
    exact (Nat.lt_succ_self 1).trans_le (Nat.le_add_left _ _)
  | unpacked tick e rest hpos =>
    refine hset rfl ?_
    rw [hpos]
    exact Nat.succ_pos _
  | closed tick frame rest hpos _ =>
    refine hset rfl ?_
    rw [hpos]
    exact Nat.succ_pos _
  | pass tick frame rest hpos _ =>
    refine hset rfl ?_
    rw [hpos, EcuPosition.stepsLeft, EcuPosition.stepsLeft, List.length_cons, Nat.succ_mul]
    omega
  | deliver tick frame rest hpos =>
    refine hset rfl ?_
    rw [hpos, EcuPosition.stepsLeft, EcuPosition.stepsLeft]
    omega
  | call tick frame k rest cb hpos hcb =>
    obtain ⟨hk, _⟩ := List.getElem?_eq_some_iff.mp hcb
    refine hset rfl ?_
    rw [hpos, EcuPosition.stepsLeft, EcuPosition.stepsLeft]
    omega
  | notified tick frame k rest hpos hend =>
    refine hset rfl ?_
    rw [hpos, EcuPosition.stepsLeft, EcuPosition.stepsLeft]
    omega

/-- What other threads do does not move the thread `i`. -/
theorem ecus_of_acts {i j : ℕ × Ecu} {e : EcuEvent R} (h : Acts callbacks s j e s')
    (hij : i ≠ j) : s'.ecus i = s.ecus i := by
  cases h <;> exact Function.update_of_ne hij _ _

/-- A step after the stop. -/
theorem stepsLeft_step {e : LiveSimEvent κ R} (hstopped : s.running = false)
    (hstep : Step math callbacks s e s') (hstart : e ≠ .start) (i : ℕ × Ecu) :
    s'.running = false ∧ (s'.ecus i).stepsLeft callbacks.length + (if e.isOf i then 1 else 0) ≤
      (s.ecus i).stepsLeft callbacks.length := by
  refine ⟨(pays_pending hstopped hstep hstart i).1, ?_⟩
  cases hstep with
  | start _ => exact absurd rfl hstart
  | started _ => exact absurd rfl hstart
  | stop => exact le_rfl
  | physics _ _ _ => exact le_rfl
  | parked _ => exact le_rfl
  | other _ _ _ => exact le_rfl
  | ecu j e s' hacts =>
    by_cases hij : i = j
    · subst hij
      rw [LiveSimEvent.isOf, decide_eq_true rfl, if_pos rfl]
      exact stepsLeft_acts hstopped hacts
    · rw [LiveSimEvent.isOf, decide_eq_false (Ne.symm hij), if_neg Bool.false_ne_true,
        ecus_of_acts hacts hij]
      exact le_rfl

/-- No thread waits for another one. -/
theorem act_enabled (s : LiveSimulator κ R W) (i : ℕ × Ecu) (habsent : s.ecus i ≠ .absent)
    (hended : s.ecus i ≠ .ended) : ∃ e s', s.act callbacks i e = some s' := by
  cases hpos : s.ecus i with
  | absent => exact absurd hpos habsent
  | ended => exact absurd hpos hended
  | test tick =>
    refine ⟨.test 0, Option.isSome_iff_exists.mp ?_⟩
    simp [act, hpos]
  | pack tick rest =>
    refine ⟨.send, Option.isSome_iff_exists.mp ?_⟩
    rcases rest with _ | ⟨_ | frame, rest⟩
    · simp [act, hpos]
    · simp [act, hpos]
    · cases hopen : s.bus.openTest <;> simp [act, hpos, hopen]
  | deliver tick frame rest =>
    refine ⟨.deliver, Option.isSome_iff_exists.mp ?_⟩
    simp [act, hpos]
  | notify tick frame k rest =>
    refine ⟨.notify, Option.isSome_iff_exists.mp ?_⟩
    cases hcb : callbacks[k]? <;> simp [act, hpos, hcb]

end Ends

/-- **The threads end.** Once `running` is cleared, and until the next `start`, an ECU thread
takes at most `4 n + 12` steps more, where `n` is the number of callbacks; and as long as it has
not ended it can take one, whatever the other threads do. So `stop` waits for a thread only
while that thread is not scheduled. -/
theorem simulator_threads_end {math : MathModule R} (hsin : math.SinBounded)
    (callbacks : List (Callback PyError W (CANFrame R))) (bus₀ : VirtualCANBus κ R) (world : W)
    (es es' : List (LiveSimEvent κ R)) (s s' : LiveSimulator κ R W)
    (hrun : Machine.run (step math callbacks) (init bus₀ world) es = some s)
    (hstop : s.running = false)
    (hrun' : Machine.run (step math callbacks) s es' = some s') (hstart : .start ∉ es')
    (i : ℕ × Ecu) :
    es'.countP (LiveSimEvent.isOf i) ≤ 4 * callbacks.length + 12 ∧
      (s'.ecus i ≠ .absent → s'.ecus i ≠ .ended →
        ∃ e t, s'.step math callbacks (.ecu i e) = some t) := by
  have hes' : ∀ e ∈ es', e ≠ .start := by
    rintro e he rfl
    exact hstart he
  have hmeasure (s : LiveSimulator κ R W) (e : LiveSimEvent κ R) (s' : LiveSimulator κ R W)
      (hstopped : s.running = false) (he : e ≠ .start)
      (hstep : s.step math callbacks e = some s') :=
    stepsLeft_step hstopped (step_of_eq_some hstep) he i
  have hcount := Machine.run_measure hmeasure hstop hes' hrun'
  obtain ⟨kinds, ⟨hlen, _, _, _, hpending⟩, _⟩ := ((simInv_run hsin hrun).threads i).pending
  have hpending : (s.ecus i).pending.length ≤ 3 := by
    rw [hpending, List.length_map]
    exact hlen
  constructor
  · have hle := (s.ecus i).stepsLeft_le callbacks.length hpending
    omega
  · exact act_enabled s' i

/-- The simulator is stopped while the brakes are in `bus.send`. -/
theorem simulator_threads_end_sending : ∃ s s' : LiveSimulator String ℚ Unit,
    Machine.run (step ⟨fun _ => 0, 3⟩ []) s [.ecu (0, .brake) .deliver] = some s' ∧
      (s'.ecus (0, .brake) ≠ .absent → s'.ecus (0, .brake) ≠ .ended →
        ∃ e t, s'.step ⟨fun _ => 0, 3⟩ [] (.ecu (0, .brake) e) = some t) := by
  let before : List (LiveSimEvent String ℚ) :=
    [.start, .ecu (0, .brake) (.test 1), .ecu (0, .brake) .send, .stop]
  have hsin : (⟨fun _ => 0, 3⟩ : MathModule ℚ).SinBounded := fun _ => by norm_num
  have hsome : ((Machine.run (step ⟨fun _ => 0, 3⟩ []) (init .new ()) before).bind fun s =>
      if s.running then none else (Machine.run (step ⟨fun _ => 0, 3⟩ []) s
        [.ecu (0, .brake) .deliver] : Option (LiveSimulator String ℚ Unit))).isSome := by
    decide +kernel
  obtain ⟨s', hs'⟩ := Option.isSome_iff_exists.mp hsome
  obtain ⟨s, hs, hrun⟩ := Option.bind_eq_some_iff.mp hs'
  cases hrunning : s.running with
  | true =>
    rw [hrunning] at hrun
    cases hrun
  | false =>
    rw [hrunning] at hrun
    have hend := simulator_threads_end hsin [] .new () before _ s s' hs hrunning hrun (by simp)
      (0, .brake)
    exact ⟨s, s', hrun, hend.2⟩

end LiveSimulator

end CanSentinel
