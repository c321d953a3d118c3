import CanSentinel.Lib.History
import CanSentinel.Lib.Entropy
import CanSentinel.Parser.Signals

/-!
# The telemetry parser (`parser/telemetry_parser.py`)

`CANTelemetryParser` keeps, per arbitration id, the timestamp of the last frame
and a message count. `parseFrame` measures the inter-arrival times, records the
frame, and only then decodes the payload.

- `recordArrival`: the updates `parseFrame` makes before it decodes.
- `parseFrame_cases`: the inversion lemma — what a call returns, or which
  exception it raises, in terms of the state before it. The updates stay either
  way.
- `ArrivalsSeen p H`: the parser has seen exactly the arrivals `H`, a history of
  (id, timestamp) pairs; `ArrivalsSeen.record` is its step lemma.
-/

namespace CanSentinel

variable {R : Type} [PyFloat R]

/-- `ECU_NAMES`. -/
def ecuNames : List (ℤ × String) :=
  [(canIdBrakeOverride, "Brake/ABS ECU"),
    (canIdEngineRpm, "Engine RPM ECU"),
    (canIdVehicleSpeed, "Speedometer ECU"),
    (canIdEngineTemp, "Coolant/Oil Temp ECU"),
    (canIdTransmission, "Transmission ECU"),
    (canIdBodyDoors, "Body Doors ECU"),
    (canIdBodyClimate, "Climate/HVAC ECU"),
    (canIdLighting, "Lighting/Signals ECU")]

/-- `ParsedTelemetry`. -/
structure ParsedTelemetry (R : Type) where
  timestamp : R
  canId : ℤ
  canIdHex : String
  ecuName : String
  dlc : ℤ
  data : Bytes
  payloadHex : String
  deltaT : R
  globalDeltaT : R
  entropy : R
  decodedSignals : Signals R
  isExtended : Bool
  isError : Bool
deriving DecidableEq

/-! ## Flat rows -/

/-- A cell of a flat row: the dict holds integers and texts. -/
inductive Cell where
  | int (n : ℤ)
  | str (s : String)
deriving DecidableEq

/-- The text the `csv` module writes for a cell. -/
def Cell.text : Cell → String
  | .int n => toString n
  | .str s => s

/-- `ParsedTelemetry.format_decoded_signals`. -/
def ParsedTelemetry.formatDecodedSignals (self : ParsedTelemetry R) : String :=
  if self.decodedSignals = [] then "Raw Payload"
  else String.intercalate "; " (self.decodedSignals.map fun kv => kv.1 ++ "=" ++ kv.2.text)

/-- `byte_values`: the first eight payload bytes, zero-padded. -/
def byteValues (data : Bytes) : List UInt8 :=
  data.take 8 ++ List.replicate (8 - (data.take 8).length) 0

/-- `ParsedTelemetry.to_flat_dict`. -/
def ParsedTelemetry.toFlatDict (self : ParsedTelemetry R) : List (String × Cell) :=
  let byte (i : ℕ) : Cell := .int ((byteValues self.data).getD i 0).toNat
  [("timestamp", .str (fmtFixed self.timestamp 6)),
    ("can_id", .int self.canId),
    ("can_id_hex", .str self.canIdHex),
    ("ecu_name", .str self.ecuName),
    ("dlc", .int self.dlc),
    ("payload_hex", .str self.payloadHex),
    ("delta_t", .str (fmtFixed self.deltaT 6)),
    ("global_delta_t", .str (fmtFixed self.globalDeltaT 6)),
    ("entropy", .str (fmtFixed self.entropy 4)),
    ("byte_0", byte 0),
    ("byte_1", byte 1),
    ("byte_2", byte 2),
    ("byte_3", byte 3),
    ("byte_4", byte 4),
    ("byte_5", byte 5),
    ("byte_6", byte 6),
    ("byte_7", byte 7),
    ("decoded_summary", .str self.formatDecodedSignals),
    ("label", .str "NORMAL")]

/-! ## The parser state -/

/-- `CANTelemetryParser`. -/
structure CANTelemetryParser (R : Type) where
  lastSeenPerId : Dict ℤ R
  lastGlobalTimestamp : Option R
  messageCounts : Dict ℤ ℕ
  totalMessages : ℕ
deriving DecidableEq

namespace CANTelemetryParser

/-- `CANTelemetryParser.__init__`. -/
def new : CANTelemetryParser R := ⟨∅, none, ∅, 0⟩

/-- `CANTelemetryParser.calculate_shannon_entropy`. -/
def calculateShannonEntropy (data : Bytes) : R := shannonEntropy data

/-- The updates of `parse_frame`: both timestamp histories and both counters. -/
def recordArrival (self : CANTelemetryParser R) (canId : ℤ) (ts : R) : CANTelemetryParser R where
  lastSeenPerId := self.lastSeenPerId.insert canId ts
  lastGlobalTimestamp := some ts
  messageCounts := self.messageCounts.insert canId ((self.messageCounts.lookup canId).getD 0 + 1)
  totalMessages := self.totalMessages + 1

/-- The record `parse_frame` builds from the measured times and the decoded
signals. -/
def telemetryOf (frame : CANFrame R) (deltaT globalDeltaT : R) (signals : Signals R) :
    ParsedTelemetry R where
  timestamp := frame.timestamp
  canId := frame.canId
  canIdHex := "0x" ++ fmtHex frame.canId 3
  ecuName := (ecuNames.lookup frame.canId).getD "Unknown ECU"
  dlc := frame.dlc
  data := frame.payload
  payloadHex := hexOfBytes frame.payload
  deltaT := deltaT
  globalDeltaT := globalDeltaT
  entropy := calculateShannonEntropy frame.payload
  decodedSignals := signals
  isExtended := frame.isExtended
  isError := frame.isError

/-- `CANTelemetryParser.parse_frame`. -/
def parseFrame (self : CANTelemetryParser R) (frame : CANFrame R) :
    Except PyError (ParsedTelemetry R) × CANTelemetryParser R :=
  let ts := frame.timestamp
  let canId := frame.canId
  let deltaT := elapsed (self.lastSeenPerId.lookup canId) ts
  let globalDeltaT := elapsed self.lastGlobalTimestamp ts
  -- the histories are written before anything below can raise
  let self := self.recordArrival canId ts
  match decodeSignals canId frame.payload with
  | .ok signals => (.ok (telemetryOf frame deltaT globalDeltaT signals), self)
  | .error e => (.error e, self)

/-- **Inversion of `parse_frame`**: it returns the telemetry of the frame, with
the times since the arrivals recorded before, or raises what decoding raises.
Either way the arrival has been recorded. -/
theorem parseFrame_cases (self : CANTelemetryParser R) (frame : CANFrame R) :
    (∃ signals, decodeSignals frame.canId frame.payload = .ok signals ∧
      self.parseFrame frame = (.ok (telemetryOf frame
        (elapsed (self.lastSeenPerId.lookup frame.canId) frame.timestamp)
        (elapsed self.lastGlobalTimestamp frame.timestamp) signals),
        self.recordArrival frame.canId frame.timestamp)) ∨
    (∃ e, (decodeSignals frame.canId frame.payload : Except PyError (Signals R)) = .error e ∧
      self.parseFrame frame = (.error e, self.recordArrival frame.canId frame.timestamp)) := by
  rw [parseFrame]
  cases (decodeSignals frame.canId frame.payload : Except PyError (Signals R)) with
  | ok signals => exact .inl ⟨signals, rfl, rfl⟩
  | error e => exact .inr ⟨e, rfl, rfl⟩

/-! ## The history a parser has seen -/

/-- The parser has seen exactly the arrivals `H`, oldest first. -/
structure ArrivalsSeen (p : CANTelemetryParser R) (H : List (ℤ × R)) : Prop where
  perId : Tracks p.lastSeenPerId H
  global : p.lastGlobalTimestamp = H.getLast?.map Prod.snd

omit [PyFloat R] in
theorem arrivalsSeen_new : ArrivalsSeen (new : CANTelemetryParser R) [] :=
  ⟨tracks_empty, rfl⟩

omit [PyFloat R] in
/-- Recording a frame extends the history by its arrival. -/
theorem ArrivalsSeen.record {p : CANTelemetryParser R} {H : List (ℤ × R)}
    (h : p.ArrivalsSeen H) (canId : ℤ) (ts : R) :
    (p.recordArrival canId ts).ArrivalsSeen (H ++ [(canId, ts)]) :=
  ⟨h.perId.insert canId ts, by simp [recordArrival]⟩

theorem ArrivalsSeen.elapsed_perId {p : CANTelemetryParser R} {H : List (ℤ × R)}
    (h : p.ArrivalsSeen H) (canId : ℤ) (ts : R) :
    elapsed (p.lastSeenPerId.lookup canId) ts = sinceKey H canId ts := by
  rw [h.perId canId, sinceKey]

end CANTelemetryParser

end CanSentinel
