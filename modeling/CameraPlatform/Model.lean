import CameraPlatform.Protocol

/-!
# The value types and their JSON text (`model/`)

A `double` is its bit pattern. How `std::ostream` prints one is the parameter `showDouble` of the
serializers; integers print in plain decimal.
-/

namespace CameraPlatform
open ByteString

/-- An IEEE 754 binary64 value. -/
structure Double where
  bits : UInt64
deriving DecidableEq

namespace Double

def zero : Double := ⟨0⟩

/-- The exponent field is not all ones. -/
def isFinite (d : Double) : Bool := (d.bits >>> 52) &&& 0x7ff != 0x7ff

end Double

/-! ### `model/JsonUtil.hpp` -/

def hexDigits : Bytes := ascii "0123456789abcdef"

/-- What one byte appends to the output of `jsonEscape`. -/
def escapeByte (c : UInt8) : Bytes :=
  if c = 34 then ascii "\\\""
  else if c = 92 then ascii "\\\\"
  else if c = 8 then ascii "\\b"
  else if c = 12 then ascii "\\f"
  else if c = 10 then ascii "\\n"
  else if c = 13 then ascii "\\r"
  else if c = 9 then ascii "\\t"
  else if c < 0x20 then
    ascii "\\u00" ++ [hexDigits.getD ((c >>> 4) &&& 0x0F).toNat 0, hexDigits.getD (c &&& 0x0F).toNat 0]
  else [c]

def jsonEscape (value : Bytes) : Bytes :=
  value.foldl (fun out c => out ++ escapeByte c) []

/-! ### `model/Profile.hpp` -/

structure ProfileInfo where
  name : Bytes := []
  width : UInt32 := 0
  height : UInt32 := 0
  fps : UInt32 := 30
  bitrateKbps : UInt32 := 0
  state : Bytes := proto.kStateOff
  url : Bytes := []
  viewers : UInt32 := 0
  cpuPercent : Double := .zero
  lastError : Bytes := []
deriving DecidableEq

def ProfileInfo.toJson (showDouble : Double → Bytes) (info : ProfileInfo) : Bytes :=
  ascii "\x7b" ++
  ascii "\"name\":\"" ++ jsonEscape info.name ++ ascii "\"," ++
  ascii "\"width\":" ++ decimal info.width.toNat ++ ascii "," ++
  ascii "\"height\":" ++ decimal info.height.toNat ++ ascii "," ++
  ascii "\"fps\":" ++ decimal info.fps.toNat ++ ascii "," ++
  ascii "\"bitrateKbps\":" ++ decimal info.bitrateKbps.toNat ++ ascii "," ++
  ascii "\"state\":\"" ++ jsonEscape info.state ++ ascii "\"," ++
  ascii "\"url\":\"" ++ jsonEscape info.url ++ ascii "\"," ++
  ascii "\"viewers\":" ++ decimal info.viewers.toNat ++ ascii "," ++
  ascii "\"cpuPercent\":" ++ showDouble info.cpuPercent ++ ascii "," ++
  ascii "\"lastError\":\"" ++ jsonEscape info.lastError ++ ascii "\"" ++
  ascii "\x7d"

/-! ### `model/SystemStatus.hpp` -/

inductive NetworkState where
  | Unknown
  | Down
  | Wired
  | Wireless
deriving DecidableEq

def NetworkState.toString : NetworkState → Bytes
  | Unknown => ascii "unknown"
  | Down => ascii "down"
  | Wired => ascii "wired"
  | Wireless => ascii "wireless"

structure SystemStatus where
  network : NetworkState := .Unknown
  ipAddress : Bytes := []
  cpuPercent : Double := .zero
  memoryPercent : Double := .zero
  bitrateKbps : Double := .zero
  droppedFrames : UInt64 := 0
  cameraConnected : Bool := false
  uptimeMs : Int64 := 0
deriving DecidableEq

def SystemStatus.toJson (showDouble : Double → Bytes) (status : SystemStatus) : Bytes :=
  ascii "\x7b" ++
  ascii "\"network\":\"" ++ status.network.toString ++ ascii "\"," ++
  ascii "\"ipAddress\":\"" ++ jsonEscape status.ipAddress ++ ascii "\"," ++
  ascii "\"cpuPercent\":" ++ showDouble status.cpuPercent ++ ascii "," ++
  ascii "\"memoryPercent\":" ++ showDouble status.memoryPercent ++ ascii "," ++
  ascii "\"bitrateKbps\":" ++ showDouble status.bitrateKbps ++ ascii "," ++
  ascii "\"droppedFrames\":" ++ decimal status.droppedFrames.toNat ++ ascii "," ++
  ascii "\"cameraConnected\":" ++ (if status.cameraConnected then ascii "true" else ascii "false") ++
    ascii "," ++
  ascii "\"uptimeMs\":" ++ decimalInt status.uptimeMs.toInt ++
  ascii "\x7d"

/-! ### `model/CameraState.hpp` -/

inductive CameraStatus where
  | Idle
  | Starting
  | Streaming
  | Paused
  | Error
deriving DecidableEq

def CameraStatus.toString : CameraStatus → Bytes
  | Idle => ascii "idle"
  | Starting => ascii "starting"
  | Streaming => ascii "streaming"
  | Paused => ascii "paused"
  | Error => ascii "error"

structure CameraState where
  status : CameraStatus := .Idle
  sourceName : Bytes := ascii "videotestsrc"
  width : UInt32 := 640
  height : UInt32 := 480
  fpsNum : UInt32 := 30
  fpsDenom : UInt32 := 1
  pixelFormat : Bytes := ascii "I420"
  uptimeMs : Int64 := 0
  lastError : Bytes := []
deriving DecidableEq

def CameraState.toJson (state : CameraState) : Bytes :=
  ascii "\x7b" ++
  ascii "\"status\":\"" ++ state.status.toString ++ ascii "\"," ++
  ascii "\"sourceName\":\"" ++ jsonEscape state.sourceName ++ ascii "\"," ++
  ascii "\"width\":" ++ decimal state.width.toNat ++ ascii "," ++
  ascii "\"height\":" ++ decimal state.height.toNat ++ ascii "," ++
  ascii "\"fpsNum\":" ++ decimal state.fpsNum.toNat ++ ascii "," ++
  ascii "\"fpsDenom\":" ++ decimal state.fpsDenom.toNat ++ ascii "," ++
  ascii "\"pixelFormat\":\"" ++ jsonEscape state.pixelFormat ++ ascii "\"," ++
  ascii "\"uptimeMs\":" ++ decimalInt state.uptimeMs.toInt ++ ascii "," ++
  ascii "\"lastError\":\"" ++ jsonEscape state.lastError ++ ascii "\"" ++
  ascii "\x7d"

/-! ### `web/HttpMessage.hpp` -/

def jsonError (message : Bytes) : Bytes :=
  ascii "\x7b\"error\":\"" ++ jsonEscape message ++ ascii "\"\x7d"

end CameraPlatform
