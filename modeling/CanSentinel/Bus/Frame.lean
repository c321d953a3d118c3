import CanSentinel.Lib.Struct

/-!
# CAN frames (`sim/bus_emulator.py`)

`CANFrame` is what every Python component exchanges. Its constructor caps an
explicit DLC at 8 and takes the length of the data otherwise; nothing else ties
`dlc` to `data`, so a frame may carry more or fewer bytes than its DLC says, and
a negative DLC.

The arbitration ids are the eight ECU ids that `telemetry_parser.py` and
`ecu_generator.py` both define.
-/

namespace CanSentinel

/-- `CANFrame`. -/
structure CANFrame (R : Type) where
  canId : ℤ
  data : Bytes
  dlc : ℤ
  isExtended : Bool
  isError : Bool
  isRtr : Bool
  timestamp : R
deriving DecidableEq

/-- `CANFrame.__init__`; `now` is the reading of `time.time()` that an omitted
timestamp takes. -/
def CANFrame.new {R : Type} (now : R) (canId : ℤ) (data : Bytes) (dlc : Option ℤ)
    (isExtended isError isRtr : Bool) (timestamp : Option R) : CANFrame R where
  canId := canId
  data := data
  dlc := match dlc with
    | none => data.length
    | some d => min d 8
  isExtended := isExtended
  isError := isError
  isRtr := isRtr
  timestamp := timestamp.getD now

/-- The payload a component works on: `frame.data[:frame.dlc]`. -/
def CANFrame.payload {R : Type} (frame : CANFrame R) : Bytes := pySlice frame.data frame.dlc

/-! ## ECU arbitration ids -/

def canIdBrakeOverride : ℤ := 0x0A0
def canIdEngineRpm : ℤ := 0x110
def canIdVehicleSpeed : ℤ := 0x120
def canIdEngineTemp : ℤ := 0x130
def canIdTransmission : ℤ := 0x180
def canIdBodyDoors : ℤ := 0x230
def canIdBodyClimate : ℤ := 0x240
def canIdLighting : ℤ := 0x270

end CanSentinel
