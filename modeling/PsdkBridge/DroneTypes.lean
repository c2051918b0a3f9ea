import PsdkBridge.Lib.CText
import PsdkBridge.Lib.Ieee

/-!
# Shared data types and the drone control interface

This module follows `include/drone_types.h` and `bsp/drone_ctrl.h`.

The functions of `drone_ctrl.h` are the commands of `DroneCall`; each command
has the type `DroneCall.Out` of the structure its out-parameter points to.  A
build of the daemon, real or stub, is an interpreter of these commands over a
state of its own (`DroneCtrl`).

A C enumeration can hold any integer, so the two mode enumerations that are
cast from client input have a constructor for the values outside their list.
-/

namespace PsdkBridge

/-- `DRONE_MAX_MSG_LEN`: size of the receive buffer and of the reply buffers. -/
def droneMaxMsgLen : Nat := 4096

/-- `PATH_MAX` of Linux. -/
def pathMax : Nat := 4096

/-- `DroneError`. -/
inductive DroneError where
  | ok
  | errPsdk
  | errParam
  | errState
  | errTimeout
  | errUnknown
deriving DecidableEq

/-- `DroneTelemetry`. -/
structure DroneTelemetry where
  lat : FNum
  lon : FNum
  altMslM : FNum
  altRelM : FNum
  vxMs : FNum
  vyMs : FNum
  vzMs : FNum
  headingDeg : FNum
  batteryPct : UInt8
  batteryMv : UInt32
  gpsSats : UInt8
  gpsFix : UInt8
  flightStatus : UInt8
  motorsOn : Bool
deriving DecidableEq

/-- `DroneGimbalAngle`. -/
structure DroneGimbalAngle where
  pitch : FNum
  roll : FNum
  yaw : FNum
deriving DecidableEq

/-- `CameraMode`, with the integers that name no mode. -/
inductive CameraMode where
  | photo
  | video
  | other (n : Int32)
deriving DecidableEq

/-- The cast `(CameraMode)n`. -/
def CameraMode.ofInt (n : Int32) : CameraMode :=
  if n = 0 then .photo
  else if n = 1 then .video
  else .other n

/-- The integer an enumeration value is printed as. -/
def CameraMode.toInt : CameraMode → Int32
  | .photo => 0
  | .video => 1
  | .other n => n

/-- `DroneCameraState`. -/
structure DroneCameraState where
  mode : CameraMode
  isRecording : Bool
  zoomFactor : FNum
deriving DecidableEq

/-- `DroneBatteryInfo`. -/
structure DroneBatteryInfo where
  voltageMv : UInt32
  currentMa : Int32
  remainingPct : UInt8
  temperatureDc : Int16
  cycleCount : UInt32
deriving DecidableEq

/-- `DroneRtkStatus`. -/
structure DroneRtkStatus where
  enabled : Bool
  fixType : UInt8
  satellites : UInt8
  lat : FNum
  lon : FNum
  altM : FNum
deriving DecidableEq

/-- `DroneHomeLocation`. -/
structure DroneHomeLocation where
  lat : FNum
  lon : FNum
  altM : FNum
deriving DecidableEq

/-- `ObstacleAvoidMode`, with the integers that name no mode. -/
inductive ObstacleAvoidMode where
  | close
  | opened
  | brake
  | other (n : Int32)
deriving DecidableEq

/-- The cast `(ObstacleAvoidMode)n`. -/
def ObstacleAvoidMode.ofInt (n : Int32) : ObstacleAvoidMode :=
  if n = 0 then .close
  else if n = 1 then .opened
  else if n = 2 then .brake
  else .other n

/-- A call of one of the functions of `drone_ctrl.h`, with its arguments. -/
inductive DroneCall where
  | getTelemetry
  | getBatteryInfo
  | getGimbalAngle
  | getCameraState
  | getRtkStatus
  | setRthAltitude (altM : FNum)
  | setGimbalAngle (a : DroneGimbalAngle)
  | setCameraMode (mode : CameraMode)
  | setCameraZoom (zoomFactor : FNum)
  | setHomeLocation (loc : DroneHomeLocation)
  | setObstacleAvoidance (mode : ObstacleAvoidMode)
  | shootPhoto
  | startRecording
  | stopRecording
  | uploadKmz (path : Bytes)
deriving DecidableEq

/-- What the out-parameter of a call points to. -/
def DroneCall.Out : DroneCall → Type
  | .getTelemetry => DroneTelemetry
  | .getBatteryInfo => DroneBatteryInfo
  | .getGimbalAngle => DroneGimbalAngle
  | .getCameraState => DroneCameraState
  | .getRtkStatus => DroneRtkStatus
  | _ => Unit

/-- An implementation of `drone_ctrl.h` over the state `σ`. -/
abbrev DroneCtrl (σ : Type) :=
  (c : DroneCall) → σ → (DroneError × c.Out) × σ

end PsdkBridge
