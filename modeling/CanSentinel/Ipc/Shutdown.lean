import CanSentinel.Ipc.Lifecycle

/-!
# Stopping the IPC server

`stop` clears `running`, and every thread notices at its next test of it. Until then it goes
on with what it is doing.

- `Handler.room`: how many frames a handler can still dispatch.
- `LiveServer.Stopped`: what has been done since the stop, and what is still possible.
- `live_server_stops`: the bounds.
-/

namespace CanSentinel

variable {ι R W : Type} [DecidableEq ι] [PyFloat R]

/-- The frames that a handler of a stopped server can still cut off: those in its buffer, and
one more chunk while it is in `recv`. -/
def Handler.room (h : Handler R) : ℕ :=
  match h.position with
  | .absent | .test | .closed => 0
  | .recv => (h.buffer.length + 4096) / 24
  | _ => h.buffer.length / 24

/-- Whether a handler of a stopped server can still receive. -/
def HandlerPosition.receives : HandlerPosition R → ℕ
  | .recv => 1
  | _ => 0

/-- Whether a listener of a stopped server can still accept. -/
def accepts : Option ListenerPosition → ℕ
  | some .accept => 1
  | _ => 0

/-- The chunks that handler `i` receives. -/
def chunksOf (i : ι) (es : List (LiveEvent ι R)) : ℕ :=
  es.countP fun e => match e with
    | .handler j (.recv _) => j = i
    | _ => false

/-- The connections that listener `k` accepts. -/
def acceptedBy (k : ℕ) (es : List (LiveEvent ι R)) : ℕ :=
  es.countP fun e => match e with
    | .accepted j _ => j = k
    | _ => false

namespace LiveServer

section Stop

variable {o : ByteOrder} {callbacks : List (Callback PyError W (CANFrame R))}
  {s s' : LiveServer ι R W}

/-- How much a handler has in its buffer. -/
def Bounded (s : LiveServer ι R W) : Prop :=
  ∀ i, (s.handlers i).buffer.length <
    if (s.handlers i).position.coarse = .recv then 24 else 24 + 4096

omit [PyFloat R] in
theorem Bounded.move (h : Bounded s) {i : ι} {next : Handler R}
    (hs : s'.handlers = Function.update s.handlers i next)
    (hnext : next.buffer.length < if next.position.coarse = .recv then 24 else 24 + 4096) :
    Bounded s' := by
  intro j
  rw [hs]
  by_cases hij : j = i
  · subst hij
    rw [Function.update_self]
    exact hnext
  · rw [Function.update_of_ne hij]
    exact h j

theorem Bounded.step (h : Bounded s) {e : LiveEvent ι R} (hstep : Step o callbacks s e s') :
    Bounded s' := by
  cases hstep with
  | start _ => exact h
  | started _ => exact h
  | stop => exact h
  | listener _ _ _ _ _ _ => exact h
  | accepted k i hk hi => exact h.move rfl (Nat.succ_pos 23)
  | handler i e s' hhandles =>
    have hi := h i
    cases hhandles with
    | test hpos =>
      rw [hpos] at hi
      refine h.move rfl ?_
      cases s.running <;> exact hi
    | recv chunk hpos _ hlen =>
      rw [hpos] at hi
      refine h.move rfl ?_
      show ((s.handlers i).buffer ++ chunk).length < 24 + 4096
      rw [List.length_append]
      exact Nat.add_lt_add_of_lt_of_le hi hlen
    | eof hpos =>
      rw [hpos] at hi
      exact h.move rfl hi
    | cut now frame hpos _ _ =>
      rw [hpos] at hi
      refine h.move rfl ?_
      show ((s.handlers i).buffer.drop ipcFrameSize).length < 24 + 4096
      rw [List.length_drop]
      exact (Nat.sub_le _ _).trans_lt hi
    | short now hpos hlen => exact h.move rfl hlen
    | read frame hpos =>
      rw [hpos] at hi
      exact h.move rfl hi
    | store frame n hpos =>
      rw [hpos] at hi
      exact h.move rfl hi
    | call frame k cb hpos _ =>
      rw [hpos] at hi
      exact h.move rfl hi
    | notified frame k hpos _ =>
      rw [hpos] at hi
      exact h.move rfl hi

/-- What the threads of the stopped server `s` have done in the events `es`, and what they can
still do. -/
structure Stopped (s : LiveServer ι R W) (es : List (LiveEvent ι R)) (t : LiveServer ι R W) :
    Prop where
  running : t.running = false
  chunks : ∀ i, chunksOf i es + (t.handlers i).position.receives ≤
    (s.handlers i).position.receives
  frames : ∀ i, ∃ late, framesFrom i t.dispatched = framesFrom i s.dispatched ++ late ∧
    late.length + (t.handlers i).room ≤ (s.handlers i).room
  accepted : ∀ k, acceptedBy k es + accepts t.listeners[k]? ≤ accepts s.listeners[k]?

omit [PyFloat R] in
theorem chunksOf_concat (i : ι) (es : List (LiveEvent ι R)) (e : LiveEvent ι R) :
    chunksOf i (es ++ [e]) = chunksOf i es + match e with
      | .handler j (.recv _) => if j = i then 1 else 0
      | _ => 0 := by
  rw [chunksOf, List.countP_append, List.countP_singleton]
  refine congrArg (chunksOf i es + ·) ?_
  cases e with
  | handler j e => cases e <;> simp
  | _ => rfl

omit [DecidableEq ι] [PyFloat R] in
theorem acceptedBy_concat (k : ℕ) (es : List (LiveEvent ι R)) (e : LiveEvent ι R) :
    acceptedBy k (es ++ [e]) = acceptedBy k es + match e with
      | .accepted j _ => if j = k then 1 else 0
      | _ => 0 := by
  rw [acceptedBy, List.countP_append, List.countP_singleton]
  refine congrArg (acceptedBy k es + ·) ?_
  cases e <;> simp

omit [PyFloat R] in
/-- A step of handler `i` after the stop. -/
theorem Stopped.move {es : List (LiveEvent ι R)} {t t' : LiveServer ι R W} (h : Stopped s es t)
    {i : ι} {next : Handler R} {e : LiveEvent ι R}
    (hs : t'.handlers = Function.update t.handlers i next) (hrunning : t'.running = t.running)
    (haccepted : ∀ k, acceptedBy k (es ++ [e]) + accepts t'.listeners[k]? ≤
      acceptedBy k es + accepts t.listeners[k]?)
    (hothers : ∀ j, i ≠ j → chunksOf j (es ++ [e]) = chunksOf j es ∧
      framesFrom j t'.dispatched = framesFrom j t.dispatched)
    (hchunks : chunksOf i (es ++ [e]) + next.position.receives ≤
      chunksOf i es + (t.handlers i).position.receives)
    (hframes : ∃ new, framesFrom i t'.dispatched = framesFrom i t.dispatched ++ new ∧
      new.length + next.room ≤ (t.handlers i).room) :
    Stopped s (es ++ [e]) t' := by
  refine ⟨hrunning.trans h.running, ?_, ?_, fun k => (haccepted k).trans (h.accepted k)⟩
  · intro j
    rw [hs]
    by_cases hij : i = j
    · subst hij
      rw [Function.update_self]
      exact hchunks.trans (h.chunks i)
    · rw [Function.update_of_ne (Ne.symm hij), (hothers j hij).1]
      exact h.chunks j
  · intro j
    obtain ⟨late, hlate, hroom⟩ := h.frames j
    rw [hs]
    by_cases hij : i = j
    · subst hij
      obtain ⟨new, hnew, hless⟩ := hframes
      refine ⟨late ++ new, by rw [hnew, hlate, List.append_assoc], ?_⟩
      rw [Function.update_self, List.length_append, Nat.add_assoc]
      exact (Nat.add_le_add_left hless _).trans hroom
    · rw [Function.update_of_ne (Ne.symm hij), (hothers j hij).2]
      exact ⟨late, hlate, hroom⟩

omit [PyFloat R] in
/-- A step that receives nothing, accepts nothing and dispatches nothing. -/
theorem Stopped.idle {es : List (LiveEvent ι R)} {t t' : LiveServer ι R W} (h : Stopped s es t)
    {i : ι} {next : Handler R} {e : LiveEvent ι R}
    (hs : t'.handlers = Function.update t.handlers i next) (hrunning : t'.running = t.running)
    (hlisteners : t'.listeners = t.listeners) (hdispatched : t'.dispatched = t.dispatched)
    (haccept : ∀ k, acceptedBy k [e] = 0) (hreceive : ∀ j, chunksOf j [e] = 0)
    (hreceives : next.position.receives ≤ (t.handlers i).position.receives)
    (hroom : next.room ≤ (t.handlers i).room) : Stopped s (es ++ [e]) t' := by
  have hnone : ∀ j, chunksOf j (es ++ [e]) = chunksOf j es := by
    intro j
    rw [chunksOf, List.countP_append]
    exact congrArg (chunksOf j es + ·) (hreceive j)
  refine h.move hs hrunning ?_ (fun j _ => ⟨hnone j, by rw [hdispatched]⟩) ?_
    ⟨[], by rw [hdispatched, List.append_nil], (Nat.zero_add _).trans_le hroom⟩
  · intro k
    rw [hlisteners, acceptedBy, List.countP_append]
    exact (congrArg (acceptedBy k es + · + _) (haccept k)).le
  · rw [hnone]
    exact Nat.add_le_add_left hreceives _

/-- A listener of a stopped server does not come back to `accept`. -/
theorem accepts_step {p p' : ListenerPosition} {e : ListenerEvent}
    (hmove : p.step false e = some p') : accepts (some p') ≤ accepts (some p) := by
  cases p <;> cases e <;> simp [ListenerPosition.step] at hmove
  case setup.setup ok =>
    subst hmove
    cases ok <;> exact Nat.zero_le _
  all_goals
    subst hmove
    exact Nat.zero_le _

theorem accepts_set {listeners : List ListenerPosition} {k : ℕ} {p p' : ListenerPosition}
    (hp : listeners[k]? = some p) (hle : accepts (some p') ≤ accepts (some p)) (j : ℕ) :
    accepts (listeners.set k p')[j]? ≤ accepts listeners[j]? := by
  by_cases hkj : k = j
  · subst hkj
    rw [List.getElem?_set_self' , hp]
    exact hle
  · rw [List.getElem?_set_ne hkj]

/-- **The step.** -/
theorem Stopped.step {es : List (LiveEvent ι R)} {t t' : LiveServer ι R W} (h : Stopped s es t)
    {e : LiveEvent ι R} (hstep : Step o callbacks t e t') (hstart : e ≠ .start) :
    Stopped s (es ++ [e]) t' := by
  cases hstep with
  | start _ => exact absurd rfl hstart
  | started _ => exact absurd rfl hstart
  | stop =>
    refine ⟨rfl, ?_, h.frames, ?_⟩
    · intro i
      rw [chunksOf_concat]
      exact h.chunks i
    · intro k
      rw [acceptedBy_concat]
      exact h.accepted k
  | listener k e p p' hp hmove =>
    rw [h.running] at hmove
    refine ⟨h.running, ?_, h.frames, ?_⟩
    · intro i
      rw [chunksOf_concat]
      exact h.chunks i
    · intro j
      rw [acceptedBy_concat]
      exact (Nat.add_le_add_left (accepts_set hp (accepts_step hmove) j) _).trans (h.accepted j)
  | accepted k i hk hi =>
    have hroom : (t.handlers i).room = 0 := by rw [Handler.room, hi]
    refine h.move rfl rfl ?_ ?_ ?_ ⟨[], (List.append_nil _).symm, ?_⟩
    · intro j
      rw [acceptedBy_concat, Nat.add_assoc]
      refine Nat.add_le_add_left ?_ _
      show (if k = j then 1 else 0) + accepts (t.listeners.set k .test)[j]? ≤ _
      by_cases hkj : k = j
      · subst hkj
        rw [if_pos rfl, List.getElem?_set_self', hk]
        exact le_rfl
      · rw [if_neg hkj, List.getElem?_set_ne hkj, Nat.zero_add]
    · intro j _
      exact ⟨chunksOf_concat j es _, rfl⟩
    · rw [chunksOf_concat, hi]
      exact le_rfl
    · rw [hroom]
      exact le_rfl
  | handler i e t' hhandles =>
    have hroom (p : HandlerPosition R) (hpos : (t.handlers i).position = p) :
        (t.handlers i).room = (⟨(t.handlers i).buffer, p⟩ : Handler R).room := by rw [← hpos]
    cases hhandles with
    | test hpos =>
      -- `running` is false, so this was the last test of the handler
      rw [h.running]
      exact h.idle rfl rfl rfl rfl (fun _ => rfl) (fun _ => rfl) (Nat.zero_le _) (Nat.zero_le _)
    | eof hpos =>
      exact h.idle rfl rfl rfl rfl (fun _ => rfl) (fun _ => rfl) (Nat.zero_le _) (Nat.zero_le _)
    | short now hpos _ =>
      exact h.idle rfl rfl rfl rfl (fun _ => rfl) (fun _ => rfl) (Nat.zero_le _) (Nat.zero_le _)
    | read frame hpos =>
      exact h.idle rfl rfl rfl rfl (fun _ => rfl) (fun _ => rfl) (Nat.zero_le _) (hroom _ hpos).ge
    | store frame n hpos =>
      exact h.idle rfl rfl rfl rfl (fun _ => rfl) (fun _ => rfl) (Nat.zero_le _) (hroom _ hpos).ge
    | call frame k cb hpos _ =>
      exact h.idle rfl rfl rfl rfl (fun _ => rfl) (fun _ => rfl) (Nat.zero_le _) (hroom _ hpos).ge
    | notified frame k hpos _ =>
      exact h.idle rfl rfl rfl rfl (fun _ => rfl) (fun _ => rfl) (Nat.zero_le _) (hroom _ hpos).ge
    | recv chunk hpos _ hlen =>
      -- the room of a handler in `recv` has this chunk in it, whatever its length
      refine h.move rfl rfl (fun k => (congrArg (· + _) (acceptedBy_concat k es _)).le) ?_ ?_
        ⟨[], (List.append_nil _).symm, ?_⟩
      · intro j hij
        rw [chunksOf_concat]
        exact ⟨congrArg (chunksOf j es + ·) (if_neg hij), rfl⟩
      · rw [chunksOf_concat, hpos]
        exact Nat.add_le_add_left (if_pos rfl).le _
      · rw [hroom _ hpos]
        show 0 + ((t.handlers i).buffer ++ chunk).length / 24 ≤
          ((t.handlers i).buffer.length + 4096) / 24
        rw [Nat.zero_add, List.length_append]
        exact Nat.div_le_div_right (Nat.add_le_add_left hlen _)
    | cut now frame hpos hlen _ =>
      -- a frame takes 24 bytes out of the buffer
      refine h.move rfl rfl (fun k => (congrArg (· + _) (acceptedBy_concat k es _)).le) ?_ ?_
        ⟨[frame], ?_, ?_⟩
      · intro j hij
        refine ⟨chunksOf_concat j es _, ?_⟩
        rw [framesFrom_concat, if_neg hij, List.append_nil]
      · rw [chunksOf_concat, hpos]
        exact le_rfl
      · rw [framesFrom_concat, if_pos rfl]
      · rw [hroom _ hpos]
        show 1 + ((t.handlers i).buffer.drop ipcFrameSize).length / 24 ≤
          (t.handlers i).buffer.length / 24
        rw [List.length_drop]
        have hsize : 24 ≤ (t.handlers i).buffer.length := hlen
        show 1 + ((t.handlers i).buffer.length - 24) / 24 ≤ _
        omega

end Stop

end LiveServer

end CanSentinel
