import CanSentinel.Detection.AlertEngine

/-!
# Alert identifiers across restarts

The log file outlives the engine, the alert counter does not: every engine numbers
its alerts from 1 and appends to the same file.

- `Lifetime`: one engine on the log, from its construction on; `logAfter` is the log
  after a sequence of lifetimes.
- `Lifetime.numbers`: the numbers of the alerts a lifetime writes.
- `alert_ids_restart`: the identifiers in the log, and when they are unique.
-/

namespace CanSentinel

variable {R U : Type} [PyFloat R]

/-- The `alert_id` of alert number `number`. -/
def alertIdOf (number : ℕ) : String := "ALERT-" ++ fmtDec number 6

theorem alertIdOf_injective : Function.Injective alertIdOf := by
  intro n m h
  exact fmtDec_injective 6 (String.append_right_inj _ |>.mp h)

/-- The `alert_id` fields of the lines of a log. -/
def alertIds (log : List (JsonObject R)) : List (Option (JsonValue R)) :=
  log.map fun line => line.lookup "alert_id"

/-- An engine on the log: its history bound, its alert callbacks with the world they
act on, and the detections it evaluates. -/
structure Lifetime (R U : Type) where
  maxHistory : ℕ
  callbacks : List (Callback PyError U (SecurityAlert R))
  world : U
  detections : List (DetectionResult R)

namespace Lifetime

/-- The engine after its detections, on a log that may hold earlier lines. -/
def run (env : AlertEnv R) (life : Lifetime R U) (log : List (JsonObject R)) : AlertSystem R U :=
  Machine.final (fun sys detection => sys.evaluateDetection env life.callbacks detection)
    (AlertSystem.new life.maxHistory log life.world) life.detections

/-- The log after a sequence of lifetimes. -/
def logAfter (env : AlertEnv R) (lives : List (Lifetime R U)) (log : List (JsonObject R)) :
    List (JsonObject R) :=
  lives.foldl (fun log life => (life.run env log).log) log

/-- The numbers of the flagged detections whose time can be formatted. -/
def numbersOf (env : AlertEnv R) (detections : List (DetectionResult R)) : List ℕ :=
  (((detections.filter DetectionResult.isAnomaly).zipIdx 1).filter fun d =>
    (env.isoTime d.1.timestamp).isOk).map Prod.snd

/-- The numbers of the alerts a lifetime writes. -/
def numbers (env : AlertEnv R) (life : Lifetime R U) : List ℕ := numbersOf env life.detections

omit [PyFloat R] in
theorem numbersOf_concat (env : AlertEnv R) (detections : List (DetectionResult R))
    (detection : DetectionResult R) :
    numbersOf env (detections ++ [detection]) = numbersOf env detections ++
      if detection.isAnomaly ∧ (env.isoTime detection.timestamp).isOk then
        [(detections.filter DetectionResult.isAnomaly).length + 1] else [] := by
  cases hanom : detection.isAnomaly with
  | false => simp [numbersOf, hanom]
  | true =>
    cases hiso : (env.isoTime detection.timestamp).isOk with
    | false => simp [numbersOf, List.zipIdx_append, hanom, hiso]
    | true => simp [numbersOf, List.zipIdx_append, hanom, hiso, Nat.add_comm]

omit [PyFloat R] in
/-- Within a lifetime no number is used twice. -/
theorem nodup_numbersOf (env : AlertEnv R) (detections : List (DetectionResult R)) :
    (numbersOf env detections).Nodup := by
  have hall : (((detections.filter DetectionResult.isAnomaly).zipIdx 1).map Prod.snd).Nodup := by
    rw [List.zipIdx_map_snd]
    exact List.nodup_range'
  exact hall.sublist (List.filter_sublist.map _)

/-- Some detection of the lifetime is flagged. -/
def RaisesAlert (life : Lifetime R U) : Prop := ∃ d ∈ life.detections, d.isAnomaly = true

instance (life : Lifetime R U) : Decidable life.RaisesAlert :=
  inferInstanceAs (Decidable (∃ d ∈ life.detections, d.isAnomaly = true))

omit [PyFloat R] in
/-- When every time can be formatted, a lifetime uses the numbers from 1 on. -/
theorem mem_numbers_iff {env : AlertEnv R} (hiso : ∀ t, (env.isoTime t).isOk)
    (life : Lifetime R U) (n : ℕ) : n ∈ life.numbers env ↔
      1 ≤ n ∧ n < 1 + (life.detections.filter DetectionResult.isAnomaly).length := by
  have hall : life.numbers env =
      List.range' 1 (life.detections.filter DetectionResult.isAnomaly).length := by
    rw [numbers, numbersOf, List.filter_eq_self.mpr fun d _ => hiso d.1.timestamp,
      List.zipIdx_map_snd]
  rw [hall, List.mem_range'_1]

omit [PyFloat R] in
/-- Two lifetimes share a number exactly when both raise an alert. -/
theorem disjoint_numbers_iff {env : AlertEnv R} (hiso : ∀ t, (env.isoTime t).isOk)
    (a b : Lifetime R U) :
    List.Disjoint (a.numbers env) (b.numbers env) ↔ ¬ (a.RaisesAlert ∧ b.RaisesAlert) := by
  have hraises : ∀ life : Lifetime R U, life.RaisesAlert ↔
      0 < (life.detections.filter DetectionResult.isAnomaly).length := by
    intro life
    rw [List.length_pos_iff_exists_mem]
    simp only [List.mem_filter, RaisesAlert]
  rw [hraises, hraises]
  constructor
  · rintro hdisj ⟨ha, hb⟩
    -- both use the number 1
    refine hdisj (a := 1) ?_ ?_
    · rw [mem_numbers_iff hiso]
      omega
    · rw [mem_numbers_iff hiso]
      omega
  · intro hnot n hna hnb
    rw [mem_numbers_iff hiso] at hna hnb
    exact hnot ⟨by omega, by omega⟩

/-! ## One lifetime -/

/-- The engine has evaluated `detections` on a log that began with `log₀`. -/
structure Numbered (env : AlertEnv R) (log₀ : List (JsonObject R))
    (detections : List (DetectionResult R)) (sys : AlertSystem R U) : Prop where
  counter : sys.engine.alertCounter = (detections.filter DetectionResult.isAnomaly).length
  ids : alertIds sys.log = alertIds log₀ ++
    (numbersOf env detections).map fun n => some (.str (alertIdOf n))

variable {env : AlertEnv R} (hlog : ∀ line log, env.appendLine line log = (.ok (), log ++ [line]))

include hlog in
/-- The step. -/
theorem Numbered.evaluate {log₀ : List (JsonObject R)} {detections : List (DetectionResult R)}
    {sys : AlertSystem R U} (h : Numbered env log₀ detections sys)
    (callbacks : List (Callback PyError U (SecurityAlert R))) (detection : DetectionResult R) :
    Numbered env log₀ (detections ++ [detection])
      (sys.evaluateDetection env callbacks detection).2 := by
  cases hanom : detection.isAnomaly with
  | false =>
    rw [sys.evaluateDetection_normal env callbacks hanom]
    constructor
    · simp [h.counter, hanom]
    · simp [h.ids, numbersOf_concat, hanom]
  | true =>
    cases hiso : env.isoTime detection.timestamp with
    | error e =>
      -- the counter has moved, nothing is written
      have hout : (sys.evaluateDetection env callbacks detection).2 =
          { sys with engine := ⟨sys.engine.recentAlerts, sys.engine.alertCounter + 1⟩ } := by
        rw [AlertSystem.evaluateDetection, if_pos hanom, hiso]
      rw [hout]
      constructor
      · simp [h.counter, hanom]
      · simp [h.ids, numbersOf_concat, hanom, hiso, Except.isOk, Except.toBool]
    | ok iso =>
      rw [sys.evaluateDetection_anomaly env callbacks hanom hiso hlog]
      constructor
      · simp [h.counter, hanom]
      · show alertIds (sys.log ++ [_]) = _
        have hone : ((if detection.isAnomaly ∧ (env.isoTime detection.timestamp).isOk then
            [(detections.filter DetectionResult.isAnomaly).length + 1] else []) : List ℕ) =
            [sys.engine.alertCounter + 1] := by
          rw [if_pos ⟨hanom, by rw [hiso]; rfl⟩, h.counter]
        rw [alertIds, List.map_append, ← alertIds, h.ids, numbersOf_concat, hone,
          List.map_append, List.append_assoc]
        rfl

include hlog in
theorem numbered_run (life : Lifetime R U) (log : List (JsonObject R)) :
    Numbered env log life.detections (life.run env log) :=
  Machine.history_inv (I := fun pre sys => Numbered env log pre sys)
    ⟨rfl, by simp [AlertSystem.new, numbersOf]⟩
    (fun _ _ detection h => h.evaluate hlog life.callbacks detection) life.detections

/-! ## Several lifetimes -/

include hlog in
/-- The identifiers after a sequence of lifetimes: each counts from 1. -/
theorem alertIds_logAfter (lives : List (Lifetime R U)) (log : List (JsonObject R)) :
    alertIds (logAfter env lives log) = alertIds log ++
      (lives.flatMap (numbers env)).map fun n => some (.str (alertIdOf n)) := by
  induction lives generalizing log with
  | nil => exact (List.append_nil _).symm
  | cons life lives ih =>
    rw [logAfter, List.foldl_cons, ← logAfter, ih, (numbered_run hlog life log).ids,
      List.flatMap_cons, List.map_append, List.append_assoc]
    rfl

include hlog in
/-- **Identifiers restart with the engine.** On a fresh log that can be written, over
any sequence of engine lifetimes: the identifiers are, lifetime by lifetime, those of
the numbers of its alerts; none occurs twice within a lifetime; and when every time
can be formatted, none occurs twice in the log if and only if no two lifetimes both
raise an alert. -/
theorem alert_ids_restart (lives : List (Lifetime R U)) :
    alertIds (logAfter env lives []) =
        (lives.flatMap (numbers env)).map (fun n => some (.str (alertIdOf n))) ∧
      (∀ life ∈ lives, ((life.numbers env).map alertIdOf).Nodup) ∧
      ((∀ t, (env.isoTime t).isOk) → ((alertIds (logAfter env lives [])).Nodup ↔
        lives.Pairwise fun a b => ¬ (a.RaisesAlert ∧ b.RaisesAlert))) := by
  have hids := alertIds_logAfter hlog lives []
  have hinj : Function.Injective fun n => some (JsonValue.str (R := R) (alertIdOf n)) := by
    intro n m h
    exact alertIdOf_injective (JsonValue.str.inj (Option.some.inj h))
  refine ⟨hids, ?_, ?_⟩
  · intro life _
    exact (nodup_numbersOf env life.detections).map alertIdOf_injective
  · intro hiso
    rw [hids]
    show ((lives.flatMap (numbers env)).map _).Nodup ↔ _
    rw [List.nodup_map_iff hinj, List.nodup_flatMap]
    have hpair : lives.Pairwise (Function.onFun List.Disjoint (numbers env)) ↔
        lives.Pairwise fun a b => ¬ (a.RaisesAlert ∧ b.RaisesAlert) :=
      List.Pairwise.iff fun a b => disjoint_numbers_iff hiso a b
    rw [hpair]
    constructor
    · rintro ⟨_, h⟩
      exact h
    · intro h
      exact ⟨fun life _ => nodup_numbersOf env life.detections, h⟩

/-- A lifetime that raises one alert. -/
def oneAlert : Lifetime ℚ Unit where
  maxHistory := 100
  callbacks := []
  world := ()
  detections := [(StreamAnomalyDetector.new 50 20).resultOf
    (CANFrame.new 0 canIdEngineRpm [9, 196, 40, 1] none false false false (some 1)) [] (-1) 0]

theorem alert_ids_restart_twice :
    alertIds (logAfter (.healthy ℚ) [oneAlert, oneAlert] []) =
      ([oneAlert, oneAlert].flatMap (numbers (.healthy ℚ))).map
        fun n => some (.str (alertIdOf n)) :=
  (alert_ids_restart (fun _ _ => rfl) [oneAlert, oneAlert]).1

/-- After a restart the first identifier is used again. -/
theorem restarted_engine_repeats_id :
    alertIds (logAfter (.healthy ℚ) [oneAlert, oneAlert] []) =
        [some (.str "ALERT-000001"), some (.str "ALERT-000001")] ∧
      ¬ (alertIds (logAfter (.healthy ℚ) [oneAlert, oneAlert] [])).Nodup := by
  decide +kernel

end Lifetime

end CanSentinel
