import CanSentinel.Ml.Dataset
import CanSentinel.Ml.IsolationForest

/-!
# Saved models (`ml/train_isolation_forest.py`)

`save` writes a joblib payload with the scaler, the forest, the threshold and the feature
names, and a JSON file with the settings. `load` reads the payload into a model built with
the default settings; it does not open the JSON file.

- `FileStore`: the files by path, with what they contain.
- `load_save`: the model that comes back, field by field.
- `load_save_preserves_iff`: it is as good as the saved one exactly when the saved one has the
  default number of trees and the default contamination.
-/

namespace CanSentinel

variable {R : Type} [PyFloat R] {V S F : Type}

/-! ## Files -/

/-- The dict `save` dumps with joblib; a key may be missing from a file of another origin. -/
structure Payload (R S F : Type) where
  scaler : Option S
  model : Option F
  threshold : Option R
  featureNames : Option (List String)

/-- The dict `save` dumps as JSON. -/
structure ModelMetadata (R : Type) where
  modelType : String
  nEstimators : ℤ
  contamination : R
  threshold : R
  featureNames : List String
  createdAt : String
  scalerMean : List R
  scalerScale : List R

/-- The content of a file. -/
inductive FileContent (R S F : Type) where
  | csv (file : CsvFile)
  | joblib (payload : Payload R S F)
  | json (metadata : ModelMetadata R)

/-- The rows of a file opened as a data set. What `save` writes is no data set: a payload is
no text, and the columns are missing from the metadata. -/
def FileContent.rows : FileContent R S F → Except PyError CsvFile
  | .csv file => .ok file
  | .joblib _ => .error (.valueError "invalid start byte")
  | .json _ => .error (.keyError "can_id")

/-- The files by path. -/
abbrev FileStore (R S F : Type) := Dict String (FileContent R S F)

/-- `extract_features_from_csv` of a path. -/
def openDataset (store : FileStore R S F) (path : String) :
    Except PyError (List (FeatureVector R) × List String × List String) :=
  match store.lookup path with
  | none => .error (.osError ("[Errno 2] No such file or directory: '" ++ path ++ "'"))
  | some content => do
    let file ← content.rows
    extractFeaturesFromCsv file

/-- `joblib.load`: it returns what `joblib.dump` has stored. -/
def joblibLoad : FileContent R S F → Except PyError (Payload R S F)
  | .joblib payload => .ok payload
  | _ => .error (.valueError "not a joblib file")

/-- `payload[key]`. -/
def payloadItem {α : Type} (key : String) : Option α → Except PyError α
  | some value => .ok value
  | none => .error (.keyError key)

namespace CANIsolationForestModel

/-- The payload of a model. -/
def payload (self : CANIsolationForestModel R S F) : Payload R S F where
  scaler := some self.scaler
  model := some self.model
  threshold := some self.threshold
  featureNames := some self.featureNames

/-- The metadata of a model at the time `now`. -/
def metadata (sk : SkLearn R V S F) (self : CANIsolationForestModel R S F) (now : String) :
    ModelMetadata R where
  modelType := "IsolationForest"
  nEstimators := self.nEstimators
  contamination := self.contamination
  threshold := self.threshold
  featureNames := self.featureNames
  createdAt := now
  scalerMean := (sk.scalerMean self.scaler).getD []
  scalerScale := (sk.scalerScale self.scaler).getD []

/-- `CANIsolationForestModel.save`: first the payload, then the metadata. -/
def save (sk : SkLearn R V S F) (self : CANIsolationForestModel R S F)
    (modelPath metadataPath now : String) (store : FileStore R S F) : FileStore R S F :=
  (store.insert modelPath (.joblib self.payload)).insert metadataPath
    (.json (self.metadata sk now))

/-- `CANIsolationForestModel.load`; the path of the metadata is not used. -/
def load (sk : SkLearn R V S F) (modelPath _metadataPath : String) (store : FileStore R S F) :
    Except PyError (CANIsolationForestModel R S F) :=
  match store.lookup modelPath with
  | none => .error (.osError ("Model file not found: " ++ modelPath))
  | some content => do
    let payload ← joblibLoad content
    let scaler ← payloadItem "scaler" payload.scaler
    let model ← payloadItem "model" payload.model
    return { newDefault sk with
      scaler := scaler
      model := model
      threshold := payload.threshold.getD 0
      featureNames := payload.featureNames.getD featureColumns
      isTrained := true }

/-! ## The model that comes back -/

variable {sk : SkLearn R V S F} {m m' : CANIsolationForestModel R S F} {store : FileStore R S F}
  {modelPath metadataPath now : String}

/-- The parts in the payload, under the default settings. -/
def reloaded (sk : SkLearn R V S F) (m : CANIsolationForestModel R S F) :
    CANIsolationForestModel R S F :=
  { newDefault sk with
    scaler := m.scaler
    model := m.model
    threshold := m.threshold
    featureNames := m.featureNames
    isTrained := true }

/-- The payload at a path. -/
theorem load_of_payload (hfile : store.lookup modelPath = some (.joblib m.payload)) :
    load sk modelPath metadataPath store = .ok (reloaded sk m) := by
  rw [load, hfile]
  rfl

/-- **What `load` makes of a saved model**, when the paths differ. -/
theorem load_save (hpaths : modelPath ≠ metadataPath) :
    load sk modelPath metadataPath (m.save sk modelPath metadataPath now store) =
      .ok (reloaded sk m) := by
  refine load_of_payload ?_
  rw [save, Finmap.lookup_insert_of_ne _ hpaths, Finmap.lookup_insert]

/-- Under one path the metadata have replaced the payload, and `load` raises. -/
theorem not_isOk_load_save_self :
    ¬ (load sk modelPath modelPath (m.save sk modelPath modelPath now store)).isOk := by
  rw [load, save, Finmap.lookup_insert]
  exact Bool.false_ne_true

/-- A call that returns has found the payload. -/
theorem eq_reloaded_of_load
    (hload : load sk modelPath metadataPath (m.save sk modelPath metadataPath now store) = .ok m') :
    m' = reloaded sk m := by
  by_cases hpaths : modelPath = metadataPath
  · subst hpaths
    exact absurd (isOk_iff.mpr ⟨m', hload⟩) not_isOk_load_save_self
  · rw [load_save hpaths] at hload
    exact (Except.ok.inj hload).symm

/-! ## As good as the original -/

/-- What a user can tell of the loaded model `m'` against the saved model `m`. -/
structure Preserved (sk : SkLearn R V S F) (m m' : CANIsolationForestModel R S F) : Prop where
  scaler : m'.scaler = m.scaler
  model : m'.model = m.model
  threshold : m'.threshold = m.threshold
  featureNames : m'.featureNames = m.featureNames
  predictions : ∀ X : List V, m'.predict sk X = m.predict sk X

/-- A second `save` writes the settings that the first one wrote. -/
structure SavesAgain (sk : SkLearn R V S F) (m m' : CANIsolationForestModel R S F) : Prop where
  nEstimators : ∀ now later, (m'.metadata sk later).nEstimators = (m.metadata sk now).nEstimators
  contamination : ∀ now later,
    (m'.metadata sk later).contamination = (m.metadata sk now).contamination
  threshold : ∀ now later, (m'.metadata sk later).threshold = (m.metadata sk now).threshold
  featureNames : ∀ now later,
    (m'.metadata sk later).featureNames = (m.metadata sk now).featureNames

theorem predict_reloaded (htrained : m.isTrained = true) (X : List V) :
    (reloaded sk m).predict sk X = m.predict sk X := by
  rw [predict, predict, htrained]
  rfl

theorem preserved_reloaded (htrained : m.isTrained = true) : Preserved sk m (reloaded sk m) :=
  ⟨rfl, rfl, rfl, rfl, predict_reloaded htrained⟩

/-- **Saving and loading.** A trained model comes back with its parts and its predictions.
Its settings come back, in the metadata of a second `save` and in the percentile that
`fit` takes, exactly when they are the default ones. -/
theorem load_save_preserves_iff (htrained : m.isTrained = true)
    (hload : load sk modelPath metadataPath (m.save sk modelPath metadataPath now store) = .ok m') :
    Preserved sk m m' ∧
      ((SavesAgain sk m m' ∧ m'.thresholdPercentile = m.thresholdPercentile) ↔
        m.nEstimators = 150 ∧ m.contamination = 0.03) := by
  obtain rfl := eq_reloaded_of_load hload
  refine ⟨preserved_reloaded htrained, ?_⟩
  constructor
  · rintro ⟨hagain, _⟩
    exact ⟨(hagain.nEstimators "" "").symm, (hagain.contamination "" "").symm⟩
  · rintro ⟨htrees, hcontamination⟩
    refine ⟨⟨fun _ _ => htrees.symm, fun _ _ => hcontamination.symm, fun _ _ => rfl,
      fun _ _ => rfl⟩, ?_⟩
    rw [thresholdPercentile, thresholdPercentile, hcontamination]
    rfl

/-- A model with 50 trees and a contamination of five percent, trained on the rows `-1`
and `1`. -/
def fiftyTrees : CANIsolationForestModel ℚ Unit Unit :=
  { new identitySkLearn 50 0.05 .auto 42 with
    isTrained := true
    threshold := percentileLinear [-1, 1] (0.05 * 100.0) }

theorem fit_fifty :
    (new identitySkLearn 50 0.05 .auto 42).fit identitySkLearn [-1, 1] = .ok fiftyTrees := rfl

theorem load_save_preserves_fifty :
    Preserved identitySkLearn fiftyTrees (reloaded identitySkLearn fiftyTrees) :=
  have hload : load identitySkLearn "m.joblib" "m.json"
      (fiftyTrees.save identitySkLearn "m.joblib" "m.json" "2026-01-01T00:00:00Z" ∅) =
        .ok (reloaded identitySkLearn fiftyTrees) := load_save (by decide)
  (load_save_preserves_iff rfl hload).1

/-- Its reloaded copy says that it has 150 trees. -/
theorem settings_lost : ¬ ∀ (fresh m m' : CANIsolationForestModel ℚ Unit Unit) (X : List ℚ)
    (store : FileStore ℚ Unit Unit) (modelPath metadataPath now : String),
      fresh.fit identitySkLearn X = .ok m →
      load identitySkLearn modelPath metadataPath
        (m.save identitySkLearn modelPath metadataPath now store) = .ok m' →
      Preserved identitySkLearn m m' ∧ SavesAgain identitySkLearn m m' ∧
        m'.thresholdPercentile = m.thresholdPercentile := by
  intro hall
  have hagain := (hall _ fiftyTrees (reloaded identitySkLearn fiftyTrees) _ ∅ "m.joblib" "m.json"
    "" fit_fifty (load_save (by decide))).2.1
  have htrees : (150 : ℤ) = 50 := hagain.nEstimators "" ""
  omega

end CANIsolationForestModel

end CanSentinel
