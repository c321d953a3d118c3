import CanSentinel.Detection.Forensics
import CanSentinel.Detection.ThreatDensity
import CanSentinel.Logger.FileText
import CanSentinel.Ml.Evaluation

/-!
# The live detector and the offline evaluation

The same traffic is judged twice: frame by frame in the detector, and as a matrix that is
loaded from the CSV log. With one model in both places the judgements are the same, so
what an evaluation of the log reports is what the detector does.

- `LoadedFrom`: a matrix and its labels come from the text of a log.
- `run_of_answers`: a detector whose model answers on the extractor's vectors.
- `live_results`: same labels, same scores.
- `evaluate_counts_live`: the confusion matrix counts live results.
- `replay_false_alarms`: the alerts that replaying the training traffic raises.
-/

namespace CanSentinel

variable {R : Type} [PyFloat R]

open StreamAnomalyDetector CSVTelemetryLogger CsvText

/-- The training path loads `X` and `labels` from the text that the sessions have left on a
fresh path: every call of them has returned, no field is longer than `csv.reader` accepts, the
DLCs are not negative, and the timestamps are whole microseconds. -/
structure LoadedFrom (sessions : List (Session R)) (X : List (FeatureVector R))
    (labels : List String) : Prop where
  returned : ∀ report ∈ Machine.outputs Session.runText [] sessions,
    ∀ r ∈ report.results, r.isOk
  fits : FieldsFit sessions
  dlc : ∀ call ∈ logCallsOf sessions, 0 ≤ call.frame.dlc
  stamps : ∀ call ∈ logCallsOf sessions, ∃ k : ℤ, call.frame.timestamp = (k : R) / 10 ^ 6
  loads : ∃ file columns, readText excel (Machine.final Session.runText [] sessions) = .ok file ∧
    extractFeaturesFromCsv file = .ok (X, labels, columns)

/-- A log can be loaded. -/
theorem loadedFrom_sessions {sessions : List (Session R)}
    (hreturn : ∀ report ∈ Machine.outputs Session.runText [] sessions,
      ∀ r ∈ report.results, r.isOk)
    (hfits : FieldsFit sessions)
    (hdlc : ∀ call ∈ logCallsOf sessions, 0 ≤ call.frame.dlc)
    (hts : ∀ call ∈ logCallsOf sessions, ∃ k : ℤ, call.frame.timestamp = (k : R) / 10 ^ 6) :
    LoadedFrom sessions
      (Machine.outputs StreamingFeatureExtractor.extractFeatures (StreamingFeatureExtractor.new 50)
        ((logCallsOf sessions).map fun call => ExtractCall.ofFrame call.frame))
      (npArray ((logCallsOf sessions).map LogCall.label)) where
  returned := hreturn
  fits := hfits
  dlc := hdlc
  stamps := hts
  loads := by
    obtain ⟨htext, hrows⟩ := final_runText hreturn
    refine ⟨logRows sessions, featureColumns, ?_, extractFeaturesFromCsv_logRows hrows hdlc hts⟩
    rw [htext, render, readText_writeRows (fits_logRows hfits)]

/-- The frames of several sessions. -/
def framesOf (sessions : List (Session R)) : List (CANFrame R) :=
  (logCallsOf sessions).map LogCall.frame

/-- The calls of a detector that asks one model about every frame. -/
def modelCalls (predict : PredictSingle R) (frames : List (CANFrame R)) : List (DetectorCall R) :=
  frames.map fun frame => (predict, frame)

section Loaded

variable {sessions : List (Session R)} {X : List (FeatureVector R)} {labels : List String}

/-- The matrix is the run of a live extractor over the frames. -/
theorem LoadedFrom.eq (h : LoadedFrom sessions X labels) :
    X = Machine.outputs StreamingFeatureExtractor.extractFeatures
        (StreamingFeatureExtractor.new 50) ((framesOf sessions).map ExtractCall.ofFrame) ∧
      labels = npArray ((logCallsOf sessions).map LogCall.label) := by
  obtain ⟨file, columns, hread, hload⟩ := h.loads
  obtain ⟨htext, hrows⟩ := final_runText h.returned
  rw [htext, render, readText_writeRows (fits_logRows h.fits)] at hread
  obtain rfl := Except.ok.inj hread
  rw [extractFeaturesFromCsv_logRows hrows h.dlc h.stamps, Except.ok.injEq, Prod.mk.injEq,
    Prod.mk.injEq] at hload
  rw [framesOf, List.map_map]
  exact ⟨hload.1.symm, hload.2.1.symm⟩

theorem LoadedFrom.length_eq (h : LoadedFrom sessions X labels) :
    X.length = (framesOf sessions).length := by
  rw [h.eq.1, Machine.length_outputs, List.length_map]

/-- Every logged frame has been decoded. -/
theorem LoadedFrom.decodes (h : LoadedFrom sessions X labels) :
    ∀ frame ∈ framesOf sessions, frame.Decodes := by
  obtain ⟨houts, _⟩ := @runText_sessions R _ _ [] h.returned
  have hreturn := h.returned
  rw [show [] = render [] from rfl, houts] at hreturn
  intro frame hframe
  obtain ⟨call, hcall, rfl⟩ := List.mem_map.mp hframe
  obtain ⟨session, hsession, hmem⟩ := List.mem_flatMap.mp hcall
  obtain ⟨pre, post, hsessions⟩ := List.append_of_mem hsession
  refine session.decodes (Machine.final Session.run [] pre) ?_ call hmem
  exact hreturn _ ((Machine.mem_outputs_iff _ _ _ _).mpr ⟨pre, session, post, hsessions, rfl⟩)

end Loaded

/-! ## A detector and its model -/

/-- The step: a frame that decodes, about which the model answers. -/
theorem scoreCall_of_answer {predict : PredictSingle R} {d : StreamAnomalyDetector R}
    {frame : CANFrame R} (hroom : 0 < d.threatWindow.maxlen) (hdec : frame.Decodes)
    {pred : ℤ} {score : R} (hpred : predict (d.features frame) = .ok (pred, score)) :
    ∃ result, d.scoreCall (predict, frame) = (.ok result, d.processed frame result.isAnomaly) ∧
      result.frame = frame ∧ result.isAnomaly = decide (pred = -1) ∧
      result.anomalyScore = score := by
  obtain ⟨signals, hsignals⟩ := isOk_iff.mp hdec
  have hok : (d.scoreCall (predict, frame)).1 = .ok (d.resultOf frame signals pred score) :=
    (d.scoreCall_eq_ok_iff _ _).mpr ⟨hroom, signals, pred, score, hsignals, hpred, rfl⟩
  exact ⟨_, Prod.ext hok (scoreCall_of_ok hok), rfl, rfl, rfl⟩

/-- **A run.** If all frames decode and the model answers on the vectors that an extractor
alone computes, then every call returns and reports that answer. -/
theorem run_of_answers {predict : PredictSingle R} {label : R → ℤ} {frames : List (CANFrame R)}
    {d : StreamAnomalyDetector R} {scores : List R} (hroom : 0 < d.threatWindow.maxlen)
    (hdec : ∀ frame ∈ frames, frame.Decodes)
    (h : List.Forall₂ (fun v score => predict v = .ok (label score, score))
      (Machine.outputs StreamingFeatureExtractor.extractFeatures d.featureExtractor
        (frames.map ExtractCall.ofFrame)) scores) :
    ∃ results : List (DetectionResult R),
      Machine.outputs scoreCall d (modelCalls predict frames) = results.map .ok ∧
      results.map DetectionResult.frame = frames ∧
      results.map DetectionResult.isAnomaly = scores.map (fun score => decide (label score = -1)) ∧
      results.map DetectionResult.anomalyScore = scores := by
  induction frames generalizing d scores with
  | nil =>
    cases h
    exact ⟨[], rfl, rfl, rfl, rfl⟩
  | cons frame frames ih =>
    rw [List.forall_mem_cons] at hdec
    rw [List.map_cons, Machine.outputs_cons] at h
    obtain ⟨score, scores, hscore, hrest, rfl⟩ := List.forall₂_cons_left_iff.mp h
    obtain ⟨result, hcall, hframe, hflag, hscored⟩ := scoreCall_of_answer hroom hdec.1 hscore
    obtain ⟨results, houts, hframes, hflags, hscores⟩ :=
      ih (d := d.processed frame result.isAnomaly) hroom hdec.2 hrest
    refine ⟨result :: results, ?_, ?_, ?_, ?_⟩
    · rw [modelCalls, List.map_cons, Machine.outputs_cons, hcall, List.map_cons]
      exact congrArg _ houts
    · rw [List.map_cons, hframe, hframes]
    · rw [List.map_cons, List.map_cons, hflag, hflags]
    · rw [List.map_cons, hscored, hscores]

/-! ## Live and offline -/

section Offline

variable {S F : Type} {sk : SkLearn R (FeatureVector R) S F}
  {model : CANIsolationForestModel R S F} {sessions : List (Session R)}
  {X : List (FeatureVector R)} {labels : List String} {threatWindowSize : ℕ}

/-- The label of a result, as the model gives it. -/
def labelOf (result : DetectionResult R) : ℤ := if result.isAnomaly then -1 else 1

/-- **The live detector and the batch prediction agree**: a fresh detector, fed the logged
frames, returns for every frame, with the label and the score that its row got. -/
theorem live_results (hsk : sk.RowWise) (h : LoadedFrom sessions X labels) {preds : List ℤ}
    {scores : List R} (hpredict : model.predict sk X = .ok (preds, scores))
    (hroom : 0 < threatWindowSize) :
    ∃ results : List (DetectionResult R),
      Machine.outputs scoreCall (new 50 threatWindowSize)
        (modelCalls (model.predictSingle sk) (framesOf sessions)) = results.map .ok ∧
      results.map DetectionResult.frame = framesOf sessions ∧
      results.map labelOf = preds ∧ results.map DetectionResult.anomalyScore = scores := by
  have hanswers := CANIsolationForestModel.predictSingle_of_predict hsk hpredict
  rw [h.eq.1] at hanswers
  obtain ⟨results, houts, hframes, hflags, hscores⟩ :=
    run_of_answers (d := new 50 threatWindowSize) hroom h.decodes hanswers
  refine ⟨results, houts, hframes, ?_, hscores⟩
  obtain ⟨_, rfl, _⟩ := CANIsolationForestModel.predict_eq_ok hpredict
  have hlabel : ∀ score, (if decide (model.label score = -1) then (-1 : ℤ) else 1) =
      model.label score := by
    intro score
    rw [CANIsolationForestModel.label]
    by_cases hscore : model.threshold ≤ score <;> simp [hscore]
  have hmap : results.map labelOf =
      (results.map DetectionResult.isAnomaly).map fun flag => if flag then (-1 : ℤ) else 1 := by
    rw [List.map_map]
    rfl
  rw [hmap, hflags, List.map_map]
  exact List.map_congr_left fun score _ => hlabel score

/-! ## The evaluation of a log -/

/-- A call of `evaluate` that returns. -/
theorem evaluate_eq_ok {metrics : CANIsolationForestModel.EvaluateMetrics R}
    (heval : model.evaluate sk X labels = .ok metrics) :
    ∃ preds scores, model.predict sk X = .ok (preds, scores) ∧
      metrics.totalSamples = labels.length ∧
      metrics.truePositives = countBoth (truthOf labels) preds (-1) (-1) ∧
      metrics.falsePositives = countBoth (truthOf labels) preds 1 (-1) ∧
      metrics.trueNegatives = countBoth (truthOf labels) preds 1 1 ∧
      metrics.falseNegatives = countBoth (truthOf labels) preds (-1) 1 := by
  rw [CANIsolationForestModel.evaluate] at heval
  obtain ⟨⟨preds, scores⟩, hpredict, heval⟩ := bind_eq_ok_iff.mp heval
  refine ⟨preds, scores, hpredict, ?_⟩
  dsimp only [CANIsolationForestModel.evaluatePredictions] at heval
  obtain ⟨precision, _, heval⟩ := bind_eq_ok_iff.mp heval
  obtain ⟨recallRate, _, heval⟩ := bind_eq_ok_iff.mp heval
  obtain ⟨f1, _, heval⟩ := bind_eq_ok_iff.mp heval
  obtain ⟨accuracy, _, heval⟩ := bind_eq_ok_iff.mp heval
  obtain rfl := Except.ok.inj heval
  exact ⟨List.length_map _, rfl, rfl, rfl, rfl⟩

/-- The live results with the given label on their row (`true` for an attack) and the given
verdict. -/
def liveCount (labels : List String) (results : List (DetectionResult R)) (attack flagged : Bool) :
    ℕ :=
  (labels.zip results).countP fun e =>
    decide (e.1 ≠ "NORMAL") = attack ∧ e.2.isAnomaly = flagged

omit [PyFloat R] in
theorem countBoth_live (labels : List String) (results : List (DetectionResult R))
    (attack flagged : Bool) :
    countBoth (truthOf labels) (results.map labelOf) (if attack then -1 else 1)
      (if flagged then -1 else 1) = liveCount labels results attack flagged := by
  rw [countBoth, truthOf, List.zip_map, List.countP_map, liveCount]
  refine List.countP_congr fun e _ => ?_
  simp only [Function.comp_apply, Prod.map_fst, Prod.map_snd, labelOf, decide_eq_true_eq]
  by_cases hnormal : e.1 = "NORMAL" <;> by_cases hflag : e.2.isAnomaly = true <;>
    cases attack <;> cases flagged <;> simp [hnormal, hflag]

omit [PyFloat R] in
/-- The flagged results, by the label of their row. -/
theorem liveCount_flagged {labels : List String} {results : List (DetectionResult R)}
    (hlength : labels.length = results.length) :
    liveCount labels results true true + liveCount labels results false true =
      (results.map DetectionResult.isAnomaly).count true := by
  induction labels generalizing results with
  | nil =>
    obtain rfl := List.length_eq_zero_iff.mp hlength.symm
    rfl
  | cons label labels ih =>
    obtain ⟨result, results, rfl⟩ := List.exists_cons_of_length_eq_add_one hlength.symm
    have hrest := ih (Nat.succ.inj hlength)
    unfold liveCount at hrest ⊢
    rw [List.zip_cons_cons, List.countP_cons, List.countP_cons, List.map_cons, List.count_cons,
      ← hrest]
    by_cases hnormal : label = "NORMAL" <;> by_cases hflag : result.isAnomaly = true <;>
      simp [hnormal, hflag] <;> omega

/-- The labels of a run whose calls return are in its results. -/
theorem flags_of_outputs {d : StreamAnomalyDetector R} {calls : List (DetectorCall R)}
    {results : List (DetectionResult R)}
    (h : Machine.outputs scoreCall d calls = results.map .ok) :
    flags d calls = results.map DetectionResult.isAnomaly := by
  induction calls generalizing d results with
  | nil =>
    obtain rfl := List.map_eq_nil_iff.mp h.symm
    rfl
  | cons call calls ih =>
    rw [Machine.outputs_cons] at h
    obtain ⟨result, results, rfl, hresult, hrest⟩ := List.map_eq_cons_iff.mp h.symm
    rw [List.map_cons, ← ih hrest.symm, isAnomaly_of_ok hresult.symm]
    rfl

/-- The counters after a run whose calls return. -/
theorem counters_of_outputs {calls : List (DetectorCall R)} {results : List (DetectionResult R)}
    (h : Machine.outputs scoreCall (new 50 threatWindowSize) calls = results.map .ok) :
    let detector := Machine.final scoreCall (new 50 threatWindowSize) calls
    detector.totalProcessed = results.length ∧
      detector.totalAnomaliesFlagged = (results.map DetectionResult.isAnomaly).count true := by
  have htally := tally_final 50 threatWindowSize calls (by
    rw [h]
    intro r hr
    obtain ⟨result, _, rfl⟩ := List.mem_map.mp hr
    rfl)
  rw [flags_of_outputs h] at htally
  exact ⟨htally.processed.trans (List.length_map _), htally.flagged⟩

/-- **The confusion matrix of a log counts live results.** If `evaluate` returns for the
matrix and the labels of a log, then the detector, fed the logged frames, returns for all
of them. The four counts are those of its results against the labels in the array, which are
the logged ones without the NULs at their ends, and its counters are the sample count and the
positives. -/
theorem evaluate_counts_live (hsk : sk.RowWise) (h : LoadedFrom sessions X labels)
    {metrics : CANIsolationForestModel.EvaluateMetrics R}
    (heval : model.evaluate sk X labels = .ok metrics) (hroom : 0 < threatWindowSize) :
    let calls := modelCalls (model.predictSingle sk) (framesOf sessions)
    let detector := Machine.final scoreCall (new 50 threatWindowSize) calls
    ∃ results : List (DetectionResult R),
      Machine.outputs scoreCall (new 50 threatWindowSize) calls = results.map .ok ∧
      results.map DetectionResult.frame = framesOf sessions ∧
      labels = npArray ((logCallsOf sessions).map LogCall.label) ∧
      metrics.truePositives = liveCount labels results true true ∧
      metrics.falsePositives = liveCount labels results false true ∧
      metrics.trueNegatives = liveCount labels results false false ∧
      metrics.falseNegatives = liveCount labels results true false ∧
      detector.totalProcessed = metrics.totalSamples ∧
      detector.totalAnomaliesFlagged = metrics.truePositives + metrics.falsePositives := by
  obtain ⟨preds, scores, hpredict, htotal, htp, hfp, htn, hfn⟩ := evaluate_eq_ok heval
  obtain ⟨results, houts, hframes, rfl, -⟩ := live_results hsk h hpredict hroom
  obtain ⟨hprocessed, hflagged⟩ := counters_of_outputs houts
  have hlength : labels.length = results.length := by
    rw [h.eq.2, length_npArray, List.length_map,
      ← @List.length_map _ _ results DetectionResult.frame, hframes, framesOf, List.length_map]
  replace htp := htp.trans (countBoth_live labels results true true)
  replace hfp := hfp.trans (countBoth_live labels results false true)
  refine ⟨results, houts, hframes, h.eq.2, htp, hfp,
    htn.trans (countBoth_live labels results false false),
    hfn.trans (countBoth_live labels results true false), ?_, ?_⟩
  · rw [hprocessed, htotal, hlength]
  · rw [hflagged, htp, hfp, liveCount_flagged hlength]

/-- Frames are scored by their length. -/
def lengthSkLearn : SkLearn ℚ (FeatureVector ℚ) Unit Unit := rowSkLearn fun v => [v.dlc]

theorem loadedFrom_quotedSessions : ∃ X labels, LoadedFrom quotedSessions X labels ∧ X ≠ [] :=
  ⟨_, _, loadedFrom_sessions quotedSessions_return quotedSessions_fit (by decide) (by
    intro call hcall
    rcases List.mem_cons.mp hcall with rfl | hcall
    · exact ⟨3, rfl⟩
    · obtain rfl := List.mem_singleton.mp hcall
      exact ⟨2000000, by norm_num [CANFrame.new]⟩), List.cons_ne_nil _ _⟩

theorem fit_lengthSkLearn {X : List (FeatureVector ℚ)} (hX : X ≠ []) : ∃ fitted,
    (CANIsolationForestModel.newDefault lengthSkLearn).fit lengthSkLearn X = .ok fitted :=
  ⟨_, if_neg hX⟩

theorem evaluate_counts_live_quoted :
    ∃ (X : List (FeatureVector ℚ)) (labels : List String)
      (model : CANIsolationForestModel ℚ Unit Unit)
      (metrics : CANIsolationForestModel.EvaluateMetrics ℚ),
      model.evaluate lengthSkLearn X labels = .ok metrics ∧
      ∃ results : List (DetectionResult ℚ),
        Machine.outputs scoreCall (new 50 20)
          (modelCalls (model.predictSingle lengthSkLearn) (framesOf quotedSessions)) = results.map .ok ∧
        metrics.truePositives = liveCount labels results true true := by
  obtain ⟨X, labels, hload, hX⟩ := loadedFrom_quotedSessions
  obtain ⟨fitted, hfit⟩ := fit_lengthSkLearn hX
  obtain ⟨_, _, _, _, hpredict⟩ :=
    CANIsolationForestModel.predict_of_fit (lawful_rowSkLearn _) hfit
  have heval := evaluate_of_predict hpredict labels
  obtain ⟨results, houts, _, _, htp, _⟩ :=
    evaluate_counts_live (rowWise_rowSkLearn _) hload heval (by decide : 0 < 20)
  exact ⟨X, labels, fitted, _, heval, results, houts, htp⟩

end Offline

/-! ## The alerts of the baseline -/

section Baseline

variable {U S F : Type} {sk : SkLearn R (FeatureVector R) S F}
  {model fitted : CANIsolationForestModel R S F} {sessions : List (Session R)}
  {X : List (FeatureVector R)} {labels : List String} {threatWindowSize : ℕ}
  (env : AlertEnv R) (alertCallbacks : List (Callback PyError U (SecurityAlert R)))
  (before after : List (Callback PyError U (DetectionResult R)))

/-- Replaying the training traffic flags the rows below the threshold. -/
theorem replay_flagged (hsk : sk.Lawful) (hrow : sk.RowWise) (h : LoadedFrom sessions X labels)
    (hc : 0 ≤ model.contamination ∧ model.contamination ≤ 0.5) (hfit : model.fit sk X = .ok fitted)
    (hroom : 0 < threatWindowSize) :
    let calls := modelCalls (fitted.predictSingle sk) (framesOf sessions)
    let detector := Machine.final scoreCall (new 50 threatWindowSize) calls
    let bound := ⌈model.contamination * ((X.length : R) - 1)⌉₊
    ∃ results : List (DetectionResult R),
      Machine.outputs scoreCall (new 50 threatWindowSize) calls = results.map .ok ∧
      detector.totalProcessed = X.length ∧ detector.totalAnomaliesFlagged ≤ bound ∧
      ((results.map DetectionResult.anomalyScore).Nodup →
        detector.totalAnomaliesFlagged = bound) := by
  obtain ⟨scores, hlength, hpos, hthreshold, hpredict⟩ :=
    CANIsolationForestModel.predict_of_fit hsk hfit
  obtain ⟨results, houts, hframes, hlabels, rfl⟩ := live_results hrow h hpredict hroom
  obtain ⟨hprocessed, hflagged⟩ := counters_of_outputs houts
  rw [← hlength] at hpos ⊢
  rw [CANIsolationForestModel.percentile_eq_quantileAt hsk hc hpos, Except.ok.injEq] at hthreshold
  obtain ⟨h0, hceil⟩ := CANIsolationForestModel.position_mem hc hpos
  have hcount : (results.map DetectionResult.isAnomaly).count true =
      ((results.map DetectionResult.anomalyScore).map fitted.label).count (-1) := by
    rw [← hlabels, List.count, List.count, List.countP_map, List.countP_map]
    refine List.countP_congr fun result _ => ?_
    cases hflag : result.isAnomaly <;> simp [labelOf, hflag]
  rw [CANIsolationForestModel.count_label, ← hthreshold] at hcount
  refine ⟨results, houts, ?_, ?_, ?_⟩
  · rw [hprocessed, List.length_map]
  · rw [hflagged, hcount]
    exact countP_quantileAt_le h0 hceil
  · intro hnodup
    rw [hflagged, hcount]
    exact countP_quantileAt_of_nodup hnodup h0 hceil

/-- **Alerts on the baseline.** A model is fitted to the matrix of a log, and the logged
frames are replayed through a fresh detector with an alert engine. Every frame is
processed. With `n` frames and a contamination `c` at most `⌈c * (n - 1)⌉` are flagged, and
exactly so many if no two scores are equal. The engine has raised and logged one alert for
each. -/
theorem replay_false_alarms (hsk : sk.Lawful) (hrow : sk.RowWise)
    (h : LoadedFrom sessions X labels)
    (hc : 0 ≤ model.contamination ∧ model.contamination ≤ 0.5)
    (hfit : model.fit sk X = .ok fitted) (hroom : 0 < threatWindowSize)
    (hlog : ∀ line log, env.appendLine line log = (.ok (), log ++ [line]))
    (hiso : ∀ frame ∈ framesOf sessions, (env.isoTime frame.timestamp).isOk)
    (world : U) (log₀ : List (JsonObject R)) (maxHistory : ℕ) :
    let calls := modelCalls (fitted.predictSingle sk) (framesOf sessions)
    let step := processCall (AlertSystem.detectionCallbacks env alertCallbacks before after)
    let s₀ : StreamAnomalyDetector R × Subscribers (AlertSystem R U) (DetectionResult R) :=
      (new 50 threatWindowSize, ⟨AlertSystem.new maxHistory log₀ world, []⟩)
    let detector := (Machine.final step s₀ calls).1
    let sys := (Machine.final step s₀ calls).2.world
    let bound := ⌈model.contamination * ((X.length : R) - 1)⌉₊
    ∃ results : List (DetectionResult R),
      Machine.outputs step s₀ calls = results.map .ok ∧
      detector.totalProcessed = X.length ∧
      detector.totalAnomaliesFlagged ≤ bound ∧
      ((results.map DetectionResult.anomalyScore).Nodup →
        detector.totalAnomaliesFlagged = bound) ∧
      sys.engine.alertCounter = detector.totalAnomaliesFlagged ∧
      sys.log.length = log₀.length + detector.totalAnomaliesFlagged := by
  dsimp only
  obtain ⟨results, houts, hprocessed, hle, heq⟩ := replay_flagged hsk hrow h hc hfit hroom
  have hforensic := forensicState_final env alertCallbacks before after 50 threatWindowSize world
    log₀ maxHistory hlog (modelCalls (fitted.predictSingle sk) (framesOf sessions)) (by
      intro call hcall
      obtain ⟨frame, hframe, rfl⟩ := List.mem_map.mp hcall
      exact hiso frame hframe)
  dsimp only at hforensic
  obtain ⟨alerts, hrecorded⟩ := hforensic.recorded
  have hcounted := hforensic.counted
  have halerts := hrecorded.alertsOf.length_eq
  rw [List.length_zipIdx] at halerts
  refine ⟨results, ?_, ?_, ?_, ?_, ?_, ?_⟩
  · rw [outputs_processCall, houts]
  · rw [final_processCall, hprocessed]
  · rw [final_processCall]
    exact hle
  · rw [final_processCall]
    exact heq
  · rw [hrecorded.counter, hcounted]
  · rw [hrecorded.log, List.length_append, List.length_map, ← halerts, hcounted]

theorem replay_false_alarms_quoted :
    ∃ (X : List (FeatureVector ℚ)) (fitted : CANIsolationForestModel ℚ Unit Unit),
      (CANIsolationForestModel.newDefault lengthSkLearn).fit lengthSkLearn X = .ok fitted ∧
      let step := processCall (AlertSystem.detectionCallbacks (AlertEnv.healthy ℚ)
        [fun _ world => (.error (.keyError "siren"), world)] [] [])
      let s₀ : StreamAnomalyDetector ℚ × Subscribers (AlertSystem ℚ Unit) (DetectionResult ℚ) :=
        (new 50 20, ⟨AlertSystem.new 100 [] (), []⟩)
      (Machine.final step s₀
        (modelCalls (fitted.predictSingle lengthSkLearn) (framesOf quotedSessions))).1.totalProcessed =
          X.length := by
  obtain ⟨X, labels, hload, hX⟩ := loadedFrom_quotedSessions
  obtain ⟨fitted, hfit⟩ := fit_lengthSkLearn hX
  have hcontamination : 0 ≤ (CANIsolationForestModel.newDefault lengthSkLearn).contamination ∧
      (CANIsolationForestModel.newDefault lengthSkLearn).contamination ≤ 0.5 := by
    constructor <;> norm_num [CANIsolationForestModel.newDefault, CANIsolationForestModel.new]
  obtain ⟨_, _, hprocessed, _⟩ :=
    replay_false_alarms (AlertEnv.healthy ℚ) [fun _ world => (.error (.keyError "siren"), world)]
      [] [] (lawful_rowSkLearn _) (rowWise_rowSkLearn _) hload hcontamination hfit
      (by decide : 0 < 20) (fun _ _ => rfl) (fun _ _ => rfl) () [] 100
  exact ⟨X, fitted, hfit, hprocessed⟩

end Baseline

end CanSentinel
