import CanSentinel.Lib.Deque
import CanSentinel.Lib.Entropy
import CanSentinel.Lib.History
import CanSentinel.Bus.Frame

/-!
# Streaming features (`ml/features.py`)

`StreamingFeatureExtractor` turns a stream of frames into feature vectors. It
carries four pieces of mutable state: a bounded window of the recent ids, the
last timestamp and the last payload per id, and the last timestamp of any frame.
`extractFeatures` reads and updates them in the order of the source.

- `FeatureVector` has one field per entry of `FEATURE_COLUMNS`. The two byte
  moments are optional: `none` is the `nan` that numpy returns for an empty
  slice, which only a negative DLC can produce.
- `extractFeatures_snd`, `advance`: the state a call leaves.
-/

namespace CanSentinel

variable {R : Type} [PyFloat R]

/-- `FEATURE_COLUMNS`. -/
def featureColumns : List String :=
  ["can_id", "dlc", "delta_t", "global_delta_t", "entropy", "byte_mean", "byte_variance",
    "id_freq_window", "id_ratio_window", "payload_change_rate"]

/-- A feature vector, one field per column. -/
structure FeatureVector (R : Type) where
  canId : R
  dlc : R
  deltaT : R
  globalDeltaT : R
  entropy : R
  byteMean : Option R
  byteVariance : Option R
  idFreqWindow : R
  idRatioWindow : R
  payloadChangeRate : R
deriving DecidableEq

/-! ## `FeatureExtractor` -/

/-- The arithmetic mean. -/
def mean (xs : List R) : R := xs.sum / xs.length

/-- The population variance. -/
def variance (xs : List R) : R := mean (xs.map fun x => (x - mean xs) ^ 2)

/-- Bytes as numbers. -/
def byteNumbers (data : Bytes) : List R := data.map fun b => (b.toNat : R)

/-- `np.mean`, `nan` of no items. -/
def npMean (xs : List R) : Option R := if xs = [] then none else some (mean xs)

/-- `np.var`, `nan` of no items. -/
def npVar (xs : List R) : Option R := if xs = [] then none else some (variance xs)

namespace FeatureExtractor

/-- `FeatureExtractor.calculate_shannon_entropy`. -/
def calculateShannonEntropy (data : Bytes) : R := shannonEntropy data

/-- `FeatureExtractor.calculate_byte_stats`. -/
def calculateByteStats (data : Bytes) (dlc : ℤ) : Option R × Option R :=
  if data = [] ∨ dlc = 0 then (some 0, some 0)
  else
    let validBytes := byteNumbers (pySlice data dlc)
    (npMean validBytes, npVar validBytes)

/-- `FeatureExtractor.calculate_payload_change_rate`. -/
def calculatePayloadChangeRate (currData : Bytes) (prevData : Option Bytes) : R :=
  match prevData with
  | none => 0
  | some prevData =>
    let minLen := min currData.length prevData.length
    let changes := (List.range minLen).countP fun i => currData[i]? ≠ prevData[i]?
    let changes := changes + ((currData.length : ℤ) - prevData.length).natAbs
    (changes : R)

end FeatureExtractor

/-! ## `StreamingFeatureExtractor` -/

/-- `StreamingFeatureExtractor`; `window.maxlen` is `window_size`. -/
structure StreamingFeatureExtractor (R : Type) where
  window : Deque ℤ
  lastTimestampPerId : Dict ℤ R
  lastPayloadPerId : Dict ℤ Bytes
  lastGlobalTimestamp : Option R
deriving DecidableEq

/-- The arguments of one `extract_features` call. -/
structure ExtractCall (R : Type) where
  canId : ℤ
  dlc : ℤ
  data : Bytes
  timestamp : R
deriving DecidableEq

/-- `data[:dlc]`. -/
def ExtractCall.payload (c : ExtractCall R) : Bytes := pySlice c.data c.dlc

/-- The call the detector makes for a frame. -/
def ExtractCall.ofFrame (frame : CANFrame R) : ExtractCall R :=
  ⟨frame.canId, frame.dlc, frame.data, frame.timestamp⟩

namespace StreamingFeatureExtractor

/-- `StreamingFeatureExtractor.__init__`. -/
def new (windowSize : ℕ) : StreamingFeatureExtractor R := ⟨Deque.empty ℤ windowSize, ∅, ∅, none⟩

/-- `StreamingFeatureExtractor.reset`. -/
def reset (self : StreamingFeatureExtractor R) : StreamingFeatureExtractor R :=
  ⟨self.window.clear, ∅, ∅, none⟩

/-- `StreamingFeatureExtractor.extract_features`. -/
def extractFeatures (self : StreamingFeatureExtractor R) (call : ExtractCall R) :
    FeatureVector R × StreamingFeatureExtractor R :=
  let canId := call.canId
  let timestamp := call.timestamp
  -- 1. delta times
  let deltaT := elapsed (self.lastTimestampPerId.lookup canId) timestamp
  let lastTimestampPerId := self.lastTimestampPerId.insert canId timestamp
  let globalDeltaT := elapsed self.lastGlobalTimestamp timestamp
  let lastGlobalTimestamp := some timestamp
  -- 2. entropy and byte statistics
  let entropy := FeatureExtractor.calculateShannonEntropy call.payload
  let (byteMean, byteVar) := FeatureExtractor.calculateByteStats call.data call.dlc
  -- 3. payload change rate against the previous frame with the same id
  let prevPayload := self.lastPayloadPerId.lookup canId
  let changeRate := FeatureExtractor.calculatePayloadChangeRate call.payload prevPayload
  let lastPayloadPerId := self.lastPayloadPerId.insert canId call.payload
  -- 4. sliding-window frequency and ratio
  let window := self.window.append canId
  let idFreq := window.items.count canId
  let idRatio : R :=
    if 0 < window.items.length then (idFreq : R) / (window.items.length : R) else 0
  ({ canId := canId
     dlc := call.dlc
     deltaT := deltaT
     globalDeltaT := globalDeltaT
     entropy := entropy
     byteMean := byteMean
     byteVariance := byteVar
     idFreqWindow := idFreq
     idRatioWindow := idRatio
     payloadChangeRate := changeRate },
   ⟨window, lastTimestampPerId, lastPayloadPerId, lastGlobalTimestamp⟩)

/-- The state a call leaves. -/
def advance (self : StreamingFeatureExtractor R) (call : ExtractCall R) :
    StreamingFeatureExtractor R where
  window := self.window.append call.canId
  lastTimestampPerId := self.lastTimestampPerId.insert call.canId call.timestamp
  lastPayloadPerId := self.lastPayloadPerId.insert call.canId call.payload
  lastGlobalTimestamp := some call.timestamp

@[simp] theorem extractFeatures_snd (self : StreamingFeatureExtractor R) (call : ExtractCall R) :
    (self.extractFeatures call).2 = self.advance call := rfl

end StreamingFeatureExtractor

end CanSentinel
