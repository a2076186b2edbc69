import CameraPlatform.Base.Decimal

/-!
# Wire values (`common/Protocol.hpp`)
-/

namespace CameraPlatform.proto
open ByteString

def kControlPort : UInt16 := 8080

def kRtspPort : UInt16 := 8554

def kRtspScheme : Bytes := ascii "rtsp"

/-- The default of the parameter `host` of `rtspUrlFor`. -/
def loopback : Bytes := ascii "127.0.0.1"

def rtspUrlFor (port : UInt16) (mount : Bytes) (host : Bytes) : Bytes :=
  kRtspScheme ++ ascii "://" ++ host ++ ascii ":" ++ decimal port.toNat ++ ascii "/" ++ mount

def kApiProfiles : Bytes := ascii "/api/profiles"

def kActionOn : Bytes := ascii "/on"

def kActionOff : Bytes := ascii "/off"

def profileActionPath (name action : Bytes) : Bytes := kApiProfiles ++ ascii "/" ++ name ++ action

def kStateOff : Bytes := ascii "off"

def kStateReady : Bytes := ascii "ready"

def kStateLive : Bytes := ascii "live"

def kStateError : Bytes := ascii "error"

theorem ready_ne_off : kStateReady ≠ kStateOff := by decide

/-- The action can be told from the last byte of the path. -/
theorem profileActionPath_inj {name name' action action' : Bytes} (ha : action ∈ [kActionOn, kActionOff])
    (ha' : action' ∈ [kActionOn, kActionOff]) :
    profileActionPath name action = profileActionPath name' action' ↔ name = name' ∧ action = action' := by
  refine ⟨fun h => ?_, fun h => by rw [h.1, h.2]⟩
  simp only [profileActionPath, List.append_assoc, List.append_cancel_left_eq] at h
  have hlast := congrArg List.getLast? h
  simp only [List.mem_cons, List.not_mem_nil, or_false] at ha ha'
  rcases ha with rfl | rfl <;> rcases ha' with rfl | rfl
  · exact ⟨List.append_cancel_right h, rfl⟩
  · simp [kActionOn, kActionOff, ascii] at hlast
  · simp [kActionOn, kActionOff, ascii] at hlast
  · exact ⟨List.append_cancel_right h, rfl⟩

end CameraPlatform.proto
