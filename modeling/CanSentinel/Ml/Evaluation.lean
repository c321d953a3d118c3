import CanSentinel.Ml.Persistence

/-!
# The evaluation report (`ml/evaluate.py`)

`ModelEvaluator.evaluate_dataset` compares the predictions of a model with the labels of a
data set: a confusion matrix, metrics under guarded divisions, the mean scores, and a
breakdown by attack label. `CANIsolationForestModel.evaluate` has its own version of the
matrix and the metrics.

- `evaluateArrays`: everything the report is computed from, before it is rounded.
- `evaluationOf`: its values in closed form; `evaluateArrays_eq` says that nothing raises.
- `tp_add_fn`, `sum_count`, `sum_caught`: the counts over the frames and over the labels.
- `EvaluationConsistent`, `evaluation_consistent`: the laws of the report, for all labels
  and predictions.
-/

namespace CanSentinel

variable {R : Type} [PyFloat R] {V S F : Type}

/-! ## The report -/

/-- The breakdown of an attack label. -/
structure ClassEvaluation (R : Type) where
  totalFrames : ℕ
  detectedAnomalies : ℕ
  detectionRate : R
  avgScore : R

/-- The values of `evaluate_dataset` before rounding. -/
structure Evaluation (R : Type) where
  confusion : Confusion
  total : ℕ
  precision : R
  recallRate : R
  f1Score : R
  accuracy : R
  fpr : R
  meanNormalScore : R
  meanAttackScore : R
  scoreGap : R
  perClassMetrics : List (String × ClassEvaluation R)

/-- `float(np.mean(xs)) if len(xs) > 0 else 0.0`. -/
def meanOrZero (xs : List R) : R := if 0 < xs.length then mean xs else 0

/-- `scores[mask]`, for the mask `keys == key`. -/
def selectScores {α : Type} [DecidableEq α] (keys : List α) (scores : List R) (key : α) : List R :=
  ((keys.zip scores).filter fun e => e.1 = key).map Prod.snd

/-- `sorted(list(set(y_labels)))`. -/
def uniqueLabels (labels : List String) : List String :=
  labels.dedup.mergeSort fun a b => a ≤ b

/-- The breakdown of one label. -/
def classEvaluation (labels : List String) (preds : List ℤ) (scores : List R) (label : String) :
    Except PyError (ClassEvaluation R) := do
  let classCount := labels.count label
  let caught := (labels.zip preds).countP fun e => e.1 = label ∧ e.2 = -1
  let detectionRate : R ← guardedDiv (caught : R) (classCount : R)
  return {
    totalFrames := classCount
    detectedAnomalies := caught
    detectionRate := detectionRate
    avgScore := if 0 < classCount then mean (selectScores labels scores label) else 0 }

/-- `evaluate_dataset` after its call of `predict`, up to the rounding. -/
def evaluateArrays (labels : List String) (preds : List ℤ) (scores : List R) :
    Except PyError (Evaluation R) := do
  let yTrueBinary := truthOf labels
  let tp := countBoth yTrueBinary preds (-1) (-1)
  let fp := countBoth yTrueBinary preds 1 (-1)
  let tn := countBoth yTrueBinary preds 1 1
  let fn := countBoth yTrueBinary preds (-1) 1
  let total := yTrueBinary.length
  let precision : R ← guardedDiv (tp : R) ((tp + fp : ℕ) : R)
  let recallRate : R ← guardedDiv (tp : R) ((tp + fn : ℕ) : R)
  let f1Score ← guardedDiv (2.0 * precision * recallRate) (precision + recallRate)
  let accuracy : R ← guardedDiv ((tp + tn : ℕ) : R) (total : R)
  let fpr : R ← guardedDiv (fp : R) ((fp + tn : ℕ) : R)
  let meanNormalScore := meanOrZero (selectScores yTrueBinary scores 1)
  let meanAttackScore := meanOrZero (selectScores yTrueBinary scores (-1))
  let perClassMetrics ← ((uniqueLabels labels).filter (· ≠ "NORMAL")).mapM fun label => do
    let metrics ← classEvaluation labels preds scores label
    return (label, metrics)
  return {
    confusion := ⟨tp, fp, tn, fn⟩
    total := total
    precision := precision
    recallRate := recallRate
    f1Score := f1Score
    accuracy := accuracy
    fpr := fpr
    meanNormalScore := meanNormalScore
    meanAttackScore := meanAttackScore
    scoreGap := meanNormalScore - meanAttackScore
    perClassMetrics := perClassMetrics }

/-- The rounded breakdown of a label. -/
structure ClassReport (R : Type) where
  totalFrames : ℕ
  detectedAnomalies : ℕ
  detectionRatePct : R
  meanAnomalyScore : R

/-- The dict that `evaluate_dataset` returns. -/
structure EvaluationReport (R : Type) where
  evaluationTimestamp : String
  datasetPath : String
  totalFramesEvaluated : ℕ
  decisionThreshold : R
  confusionMatrix : Confusion
  precisionPct : R
  recallPct : R
  f1ScorePct : R
  accuracyPct : R
  falsePositiveRatePct : R
  meanNormalScore : R
  meanAttackScore : R
  scoreSeparationGap : R
  perAttackVectorBreakdown : List (String × ClassReport R)

/-- The report of an evaluation. -/
def Evaluation.report (self : Evaluation R) (now path : String) (threshold : R) :
    EvaluationReport R where
  evaluationTimestamp := now
  datasetPath := path
  totalFramesEvaluated := self.total
  decisionThreshold := pyRound threshold 6
  confusionMatrix := self.confusion
  precisionPct := pyRound (self.precision * 100.0) 2
  recallPct := pyRound (self.recallRate * 100.0) 2
  f1ScorePct := pyRound (self.f1Score * 100.0) 2
  accuracyPct := pyRound (self.accuracy * 100.0) 2
  falsePositiveRatePct := pyRound (self.fpr * 100.0) 2
  meanNormalScore := pyRound self.meanNormalScore 6
  meanAttackScore := pyRound self.meanAttackScore 6
  scoreSeparationGap := pyRound self.scoreGap 6
  perAttackVectorBreakdown := self.perClassMetrics.map fun entry =>
    (entry.1, {
      totalFrames := entry.2.totalFrames
      detectedAnomalies := entry.2.detectedAnomalies
      detectionRatePct := pyRound (entry.2.detectionRate * 100.0) 2
      meanAnomalyScore := pyRound entry.2.avgScore 6 })

/-- `ModelEvaluator.evaluate_dataset`, at the time `now`. -/
def evaluateDataset (sk : SkLearn R (FeatureVector R) S F) (model : CANIsolationForestModel R S F)
    (store : FileStore R S F) (testCsvPath now : String) :
    Except PyError (EvaluationReport R) :=
  if (store.lookup testCsvPath).isNone then
    .error (.osError ("Evaluation dataset not found: " ++ testCsvPath))
  else do
    let (X, labels, _) ← openDataset store testCsvPath
    let (preds, scores) ← model.predict sk X
    let evaluation ← evaluateArrays labels preds scores
    return evaluation.report now testCsvPath model.threshold

/-! ## The values in closed form -/

/-- The confusion matrix. -/
def confusionOf (labels : List String) (preds : List ℤ) : Confusion where
  tp := countBoth (truthOf labels) preds (-1) (-1)
  fp := countBoth (truthOf labels) preds 1 (-1)
  tn := countBoth (truthOf labels) preds 1 1
  fn := countBoth (truthOf labels) preds (-1) 1

/-- The labels of the breakdown. -/
def attackLabels (labels : List String) : List String := (uniqueLabels labels).filter (· ≠ "NORMAL")

/-- How many frames of a label were flagged. -/
def caught (labels : List String) (preds : List ℤ) (label : String) : ℕ :=
  (labels.zip preds).countP fun e => e.1 = label ∧ e.2 = -1

/-- The breakdown of a label. -/
def classOf (labels : List String) (preds : List ℤ) (scores : List R) (label : String) :
    ClassEvaluation R where
  totalFrames := labels.count label
  detectedAnomalies := caught labels preds label
  detectionRate := ratio (caught labels preds label) (labels.count label)
  avgScore := if 0 < labels.count label then mean (selectScores labels scores label) else 0

theorem classEvaluation_eq (labels : List String) (preds : List ℤ) (scores : List R)
    (label : String) :
    classEvaluation labels preds scores label = .ok (classOf labels preds scores label) := by
  rw [classEvaluation, guardedDiv_natCast]
  rfl

/-- The values of an evaluation. -/
def evaluationOf (labels : List String) (preds : List ℤ) (scores : List R) : Evaluation R :=
  let c := confusionOf labels preds
  let meanNormalScore := meanOrZero (selectScores (truthOf labels) scores 1)
  let meanAttackScore := meanOrZero (selectScores (truthOf labels) scores (-1))
  { confusion := c
    total := (truthOf labels).length
    precision := c.precision
    recallRate := c.recallRate
    f1Score := c.f1
    accuracy := ratio (c.tp + c.tn) (truthOf labels).length
    fpr := c.fpr
    meanNormalScore := meanNormalScore
    meanAttackScore := meanAttackScore
    scoreGap := meanNormalScore - meanAttackScore
    perClassMetrics := (attackLabels labels).map fun label =>
      (label, classOf labels preds scores label) }

/-- **No division by zero**: the guards hold in every case. -/
theorem evaluateArrays_eq (labels : List String) (preds : List ℤ) (scores : List R) :
    evaluateArrays labels preds scores = .ok (evaluationOf labels preds scores) := by
  have hclasses : (attackLabels labels).mapM (fun label => do
      let metrics ← classEvaluation labels preds scores label
      return (label, metrics)) = (.ok ((attackLabels labels).map fun label =>
        (label, classOf labels preds scores label)) : Except PyError _) := by
    simp only [classEvaluation_eq]
    exact List.mapM_pure
  refine bind_eq_ok_iff.mpr ⟨_, guardedDiv_natCast _ _, ?_⟩
  refine bind_eq_ok_iff.mpr ⟨_, guardedDiv_natCast _ _, ?_⟩
  refine bind_eq_ok_iff.mpr ⟨_, guardedDiv_harmonicMean _ _, ?_⟩
  refine bind_eq_ok_iff.mpr ⟨_, guardedDiv_natCast _ _, ?_⟩
  refine bind_eq_ok_iff.mpr ⟨_, guardedDiv_natCast _ _, ?_⟩
  exact bind_eq_ok_iff.mpr ⟨_, hclasses, rfl⟩

/-- The metrics of an evaluation as `evaluate` rounds them. -/
def Evaluation.metrics (self : Evaluation R) (threshold : R) :
    CANIsolationForestModel.EvaluateMetrics R where
  totalSamples := self.total
  truePositives := self.confusion.tp
  falsePositives := self.confusion.fp
  trueNegatives := self.confusion.tn
  falseNegatives := self.confusion.fn
  precision := pyRound self.precision 4
  recallRate := pyRound self.recallRate 4
  f1Score := pyRound self.f1Score 4
  accuracy := pyRound self.accuracy 4
  threshold := pyRound threshold 6

/-- The other implementation of the matrix and the metrics. -/
theorem evaluatePredictions_eq (m : CANIsolationForestModel R S F) (labels : List String)
    (preds : List ℤ) (scores : List R) :
    m.evaluatePredictions preds labels =
      .ok ((evaluationOf labels preds scores).metrics m.threshold) := by
  refine bind_eq_ok_iff.mpr ⟨_, guardedDiv_natCast _ _, ?_⟩
  refine bind_eq_ok_iff.mpr ⟨_, guardedDiv_natCast _ _, ?_⟩
  refine bind_eq_ok_iff.mpr ⟨_, guardedDiv_harmonicMean _ _, ?_⟩
  exact bind_eq_ok_iff.mpr ⟨_, guardedDiv_natCast _ _, rfl⟩

theorem evaluate_of_predict {sk : SkLearn R V S F} {m : CANIsolationForestModel R S F}
    {X : List V} {preds : List ℤ} {scores : List R} (h : m.predict sk X = .ok (preds, scores))
    (labels : List String) :
    m.evaluate sk X labels = .ok ((evaluationOf labels preds scores).metrics m.threshold) :=
  bind_eq_ok_iff.mpr ⟨_, h, evaluatePredictions_eq m labels preds scores⟩

/-- The report on a data set that can be read and predicted. -/
theorem evaluateDataset_of_predict {sk : SkLearn R (FeatureVector R) S F}
    {m : CANIsolationForestModel R S F} {store : FileStore R S F} {path : String}
    {X : List (FeatureVector R)} {labels names : List String} {preds : List ℤ} {scores : List R}
    (hdata : openDataset store path = .ok (X, labels, names))
    (h : m.predict sk X = .ok (preds, scores)) (now : String) :
    evaluateDataset sk m store path now =
      .ok ((evaluationOf labels preds scores).report now path m.threshold) := by
  have hexists : ¬ (store.lookup path).isNone := by
    intro hnone
    rw [openDataset, Option.isNone_iff_eq_none.mp hnone] at hdata
    cases hdata
  rw [evaluateDataset, if_neg hexists]
  refine bind_eq_ok_iff.mpr ⟨_, hdata, ?_⟩
  refine bind_eq_ok_iff.mpr ⟨_, h, ?_⟩
  exact bind_eq_ok_iff.mpr ⟨_, evaluateArrays_eq labels preds scores, rfl⟩

/-! ## Counts of labels and predictions -/

section Counts

variable {labels : List String} {preds : List ℤ}

/-- The frames of the data set: labels with predictions. -/
theorem countBoth_truthOf (labels : List String) (preds : List ℤ) (t p : ℤ) :
    countBoth (truthOf labels) preds t p =
      (labels.zip preds).countP fun e => (if e.1 = "NORMAL" then 1 else -1) = t ∧ e.2 = p := by
  rw [countBoth, truthOf, List.zip_map_left, List.countP_map]
  rfl

/-- A prediction of either kind. -/
theorem countP_predictions {es : List (String × ℤ)} (hpreds : ∀ e ∈ es, e.2 = 1 ∨ e.2 = -1)
    (q : String → Prop) [DecidablePred q] :
    (es.countP fun e => q e.1 ∧ e.2 = -1) + (es.countP fun e => q e.1 ∧ e.2 = 1) =
      es.countP fun e => q e.1 := by
  induction es with
  | nil => rfl
  | cons e es ih =>
    obtain ⟨hhead, hrest⟩ := List.forall_mem_cons.mp hpreds
    have hone : (if decide (q e.1 ∧ e.2 = -1) then 1 else 0) +
        (if decide (q e.1 ∧ e.2 = 1) then 1 else 0) = if decide (q e.1) then 1 else 0 := by
      obtain heq | heq := hhead <;> by_cases hq : q e.1 <;> simp [heq, hq]
    rw [List.countP_cons, List.countP_cons, List.countP_cons, ← ih hrest, ← hone]
    omega

theorem mem_attackLabels {label : String} :
    label ∈ attackLabels labels ↔ label ∈ labels ∧ label ≠ "NORMAL" := by
  simp [attackLabels, uniqueLabels]

theorem nodup_attackLabels (labels : List String) : (attackLabels labels).Nodup := by
  have hunique : (uniqueLabels labels).Nodup :=
    (List.mergeSort_perm _ _).nodup_iff.mpr (List.nodup_dedup labels)
  exact hunique.filter _

/-- The attacks of a kind of prediction. -/
theorem countBoth_attack (labels : List String) (preds : List ℤ) (p : ℤ) :
    countBoth (truthOf labels) preds (-1) p =
      (labels.zip preds).countP fun e => e.1 ≠ "NORMAL" ∧ e.2 = p := by
  rw [countBoth_truthOf]
  refine List.countP_congr ?_
  intro e _
  by_cases hnormal : e.1 = "NORMAL" <;> simp [hnormal]

/-- The normal frames of a kind of prediction. -/
theorem countBoth_normal (labels : List String) (preds : List ℤ) (p : ℤ) :
    countBoth (truthOf labels) preds 1 p =
      (labels.zip preds).countP fun e => e.1 = "NORMAL" ∧ e.2 = p := by
  rw [countBoth_truthOf]
  refine List.countP_congr ?_
  intro e _
  by_cases hnormal : e.1 = "NORMAL" <;> simp [hnormal]

section Predictions

variable (hlen : preds.length = labels.length) (hpreds : ∀ p ∈ preds, p = 1 ∨ p = -1)

include hlen in
theorem map_fst_zip_predictions : (labels.zip preds).map Prod.fst = labels :=
  List.map_fst_zip (by omega)

include hlen in
theorem count_label_eq (label : String) :
    labels.count label = (labels.zip preds).countP fun e => e.1 = label := by
  conv_lhs => rw [← map_fst_zip_predictions hlen, List.count, List.countP_map]
  refine List.countP_congr ?_
  intro e _
  simp

include hpreds in
theorem predictions_zip (labels : List String) : ∀ e ∈ labels.zip preds, e.2 = 1 ∨ e.2 = -1 :=
  fun e he => hpreds e.2 (List.of_mem_zip he).2

include hpreds in
/-- The attacks are caught or missed. -/
theorem tp_add_fn (labels : List String) :
    (confusionOf labels preds).tp + (confusionOf labels preds).fn =
      (labels.zip preds).countP fun e => e.1 ≠ "NORMAL" := by
  rw [confusionOf, countBoth_attack, countBoth_attack]
  exact countP_predictions (predictions_zip hpreds labels) fun label => label ≠ "NORMAL"

include hpreds in
theorem fp_add_tn (labels : List String) :
    (confusionOf labels preds).fp + (confusionOf labels preds).tn =
      (labels.zip preds).countP fun e => e.1 = "NORMAL" := by
  rw [confusionOf, countBoth_normal, countBoth_normal]
  exact countP_predictions (predictions_zip hpreds labels) fun label => label = "NORMAL"

include hlen hpreds in
/-- **The matrix counts every frame once.** -/
theorem total_confusionOf : (confusionOf labels preds).total = labels.length := by
  have hattacks := tp_add_fn hpreds labels
  have hnormal := fp_add_tn hpreds labels
  have hsplit : (labels.zip preds).length =
      ((labels.zip preds).countP fun e => e.1 = "NORMAL") +
        (labels.zip preds).countP fun e => e.1 ≠ "NORMAL" := by
    rw [List.length_eq_countP_add_countP fun e : String × ℤ => decide (e.1 = "NORMAL")]
    simp only [decide_eq_true_eq, ne_eq]
  rw [List.length_zip, hlen, Nat.min_self] at hsplit
  rw [Confusion.total]
  omega

end Predictions

/-- The frames of the breakdown. -/
theorem sum_caught (labels : List String) (preds : List ℤ) :
    ((attackLabels labels).map (caught labels preds)).sum = (confusionOf labels preds).tp := by
  rw [confusionOf, countBoth_attack]
  refine (sum_countP_classes (nodup_attackLabels labels) (fun p => p = -1) _).trans ?_
  refine List.countP_congr ?_
  intro e he
  have hmem : e.1 ∈ labels := (List.of_mem_zip he).1
  simp [mem_attackLabels, hmem]

/-- The frames of the labels of the breakdown are the attacks. -/
theorem sum_count (hlen : preds.length = labels.length)
    (hpreds : ∀ p ∈ preds, p = 1 ∨ p = -1) :
    ((attackLabels labels).map fun label => labels.count label).sum =
      (confusionOf labels preds).tp + (confusionOf labels preds).fn := by
  rw [tp_add_fn hpreds]
  simp only [count_label_eq hlen]
  have hsum := sum_countP_classes (nodup_attackLabels labels) (fun _ => True) (labels.zip preds)
  simp only [and_true] at hsum
  rw [hsum]
  refine List.countP_congr ?_
  intro e he
  have hmem : e.1 ∈ labels := (List.of_mem_zip he).1
  simp [mem_attackLabels, hmem]

theorem caught_le (hlen : preds.length = labels.length) (label : String) :
    caught labels preds label ≤ labels.count label := by
  rw [caught, count_label_eq hlen]
  refine List.countP_mono_left ?_
  intro e _ he
  simp only [Bool.decide_and, Bool.and_eq_true] at he
  exact he.1

/-- The detection rates, weighted with their frames. -/
theorem sum_weighted_rates (hlen : preds.length = labels.length) :
    ((attackLabels labels).map fun label =>
      (labels.count label : R) * ratio (caught labels preds label) (labels.count label)).sum =
      ((confusionOf labels preds).tp : R) := by
  have hterm : ∀ label ∈ attackLabels labels,
      (labels.count label : R) * ratio (caught labels preds label) (labels.count label) =
        (caught labels preds label : R) := fun label _ => mul_ratio (caught_le hlen label)
  rw [List.map_congr_left hterm, ← sum_caught, Nat.cast_list_sum, List.map_map]
  rfl

end Counts

/-! ## The laws of a report -/

/-- The report on the labels is consistent. -/
structure EvaluationConsistent (labels : List String) (e : Evaluation R) : Prop where
  total : e.confusion.tp + e.confusion.fp + e.confusion.tn + e.confusion.fn = e.total
  total_length : e.total = labels.length
  precision_mem : 0 ≤ e.precision ∧ e.precision ≤ 1
  recall_mem : 0 ≤ e.recallRate ∧ e.recallRate ≤ 1
  accuracy_mem : 0 ≤ e.accuracy ∧ e.accuracy ≤ 1
  f1_mem : 0 ≤ e.f1Score ∧ e.f1Score ≤ 1
  fpr_mem : 0 ≤ e.fpr ∧ e.fpr ≤ 1
  f1_eq : e.f1Score = if 0 < e.confusion.tp then
      2 * (e.confusion.tp : R) / (2 * e.confusion.tp + e.confusion.fp + e.confusion.fn)
    else 0
  min_le_f1 : min e.precision e.recallRate ≤ e.f1Score
  f1_le_max : e.f1Score ≤ max e.precision e.recallRate
  labels_mem : ∀ label, label ∈ e.perClassMetrics.map Prod.fst ↔ label ∈ labels ∧ label ≠ "NORMAL"
  labels_nodup : (e.perClassMetrics.map Prod.fst).Nodup
  frames : (e.perClassMetrics.map fun c => c.2.totalFrames).sum =
    e.confusion.tp + e.confusion.fn
  detected : (e.perClassMetrics.map fun c => c.2.detectedAnomalies).sum = e.confusion.tp
  recall_mean : 0 < e.confusion.tp + e.confusion.fn → e.recallRate =
    (e.perClassMetrics.map fun c => (c.2.totalFrames : R) * c.2.detectionRate).sum /
      ((e.perClassMetrics.map fun c => c.2.totalFrames).sum : ℕ)

/-- A column of the breakdown. -/
theorem map_perClassMetrics {α : Type} (labels : List String) (preds : List ℤ) (scores : List R)
    (column : String × ClassEvaluation R → α) :
    (evaluationOf labels preds scores).perClassMetrics.map column =
      (attackLabels labels).map fun label => column (label, classOf labels preds scores label) :=
  List.map_map

theorem consistent_evaluationOf {labels : List String} {preds : List ℤ}
    (hlen : preds.length = labels.length) (hpreds : ∀ p ∈ preds, p = 1 ∨ p = -1)
    (scores : List R) : EvaluationConsistent labels (evaluationOf labels preds scores) := by
  have hlength : (truthOf labels).length = labels.length := List.length_map _
  have htotal := total_confusionOf hlen hpreds
  have haccuracy : (evaluationOf labels preds scores).accuracy =
      (confusionOf labels preds).accuracy := by
    rw [Confusion.accuracy, htotal, ← hlength]
    rfl
  have hkeys : (evaluationOf labels preds scores).perClassMetrics.map Prod.fst =
      attackLabels labels := by
    rw [map_perClassMetrics]
    exact List.map_id _
  have hframes : ((evaluationOf labels preds scores).perClassMetrics.map
      fun c => c.2.totalFrames).sum =
        (confusionOf labels preds).tp + (confusionOf labels preds).fn := by
    rw [map_perClassMetrics]
    exact sum_count hlen hpreds
  have hweighted : ((evaluationOf labels preds scores).perClassMetrics.map
      fun c => (c.2.totalFrames : R) * c.2.detectionRate).sum =
        ((confusionOf labels preds).tp : R) := by
    rw [map_perClassMetrics]
    exact sum_weighted_rates hlen
  exact {
    total := htotal.trans hlength.symm
    total_length := hlength
    precision_mem := Confusion.precision_mem _
    recall_mem := Confusion.recallRate_mem _
    accuracy_mem := haccuracy ▸ Confusion.accuracy_mem _
    f1_mem := Confusion.f1_mem _
    fpr_mem := Confusion.fpr_mem _
    f1_eq := Confusion.f1_eq _
    min_le_f1 := Confusion.min_le_f1 _
    f1_le_max := Confusion.f1_le_max _
    labels_mem := by
      intro label
      rw [hkeys]
      exact mem_attackLabels
    labels_nodup := by
      rw [hkeys]
      exact nodup_attackLabels labels
    frames := hframes
    detected := by
      rw [map_perClassMetrics]
      exact sum_caught labels preds
    recall_mean := by
      intro hattacks
      rw [hweighted, hframes]
      exact if_pos hattacks }

/-- **The report is consistent.** For all labels and as many predictions, the values exist and
obey the laws; they are the ones `evaluate_dataset` rounds for its report on a data set, and
the ones `evaluate` rounds. -/
theorem evaluation_consistent (labels : List String) (preds : List ℤ) (scores : List R)
    (hlen : preds.length = labels.length) (hpreds : ∀ p ∈ preds, p = 1 ∨ p = -1) :
    ∃ e : Evaluation R, evaluateArrays labels preds scores = .ok e ∧
      EvaluationConsistent labels e ∧
      (∀ (sk : SkLearn R (FeatureVector R) S F) (m : CANIsolationForestModel R S F)
        (store : FileStore R S F) (path now : String) (X : List (FeatureVector R))
        (names : List String), openDataset store path = .ok (X, labels, names) →
        m.predict sk X = .ok (preds, scores) →
          evaluateDataset sk m store path now = .ok (e.report now path m.threshold)) ∧
      ∀ (sk : SkLearn R V S F) (m : CANIsolationForestModel R S F) (X : List V),
        m.predict sk X = .ok (preds, scores) →
          m.evaluate sk X labels = .ok (e.metrics m.threshold) :=
  ⟨evaluationOf labels preds scores, evaluateArrays_eq labels preds scores,
    consistent_evaluationOf hlen hpreds scores,
    fun _ _ _ _ now _ _ hdata hpredict => evaluateDataset_of_predict hdata hpredict now,
    fun _ _ _ hpredict => evaluate_of_predict hpredict labels⟩

/-- A normal frame that passes and an attack that is caught. -/
theorem evaluation_consistent_caught : ∃ e : Evaluation ℚ,
    EvaluationConsistent ["NORMAL", "ATTACK_DOS"] e ∧
      CANIsolationForestModel.evaluate identitySkLearn
        { CANIsolationForestModel.newDefault identitySkLearn with isTrained := true } [1, -1]
        ["NORMAL", "ATTACK_DOS"] = .ok (e.metrics 0) := by
  obtain ⟨e, _, hconsistent, _, hevaluate⟩ := evaluation_consistent (V := ℚ) (S := Unit) (F := Unit)
    ["NORMAL", "ATTACK_DOS"] [1, -1] [(1 : ℚ), -1] rfl (by decide)
  exact ⟨e, hconsistent, hevaluate _ _ _ rfl⟩

end CanSentinel
