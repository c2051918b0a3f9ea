import PsdkBridge.DroneTypes

/-!
# The stub build of the drone control layer

This module follows the second half of `bsp/drone_ctrl.c`, which is compiled
without `PSDK_REAL`.  Commands only update a few variables; the readings are
constants, except for the mock position, which the source computes from the
clock with `sin`, `cos` and `fmod` and which is a parameter here.
-/

namespace PsdkBridge
namespace Stub

/-- The `g_stub_*` variables. -/
structure StubState where
  rthAlt : FNum
  gimbalP : FNum
  zoom : FNum
  camMode : CameraMode
  recording : Bool
deriving DecidableEq

/-- Their initial values. -/
def initial : StubState where
  rthAlt := .fin 30
  gimbalP := .fin (-30)
  zoom := .fin 1
  camMode := .photo
  recording := false

/-- The readings that the stub derives from the clock. -/
structure MockPosition where
  lat : FNum
  lon : FNum
  altMslM : FNum
  headingDeg : FNum

/-- `drone_get_telemetry`. -/
def droneGetTelemetry (mock : MockPosition) : DroneTelemetry where
  lat := mock.lat
  lon := mock.lon
  altMslM := mock.altMslM
  altRelM := .fin 30
  vxMs := .fin (3 / 2)
  vyMs := binary32.round (3 / 10)
  vzMs := .fin 0
  headingDeg := mock.headingDeg
  batteryPct := 82
  batteryMv := 25200
  gpsSats := 14
  gpsFix := 2
  flightStatus := 2
  motorsOn := true

/-- `drone_get_battery_info`. -/
def droneGetBatteryInfo : DroneBatteryInfo where
  voltageMv := 25200
  currentMa := -3200
  remainingPct := 82
  temperatureDc := 253
  cycleCount := 47

/-- `drone_get_gimbal_angle`. -/
def droneGetGimbalAngle (s : StubState) : DroneGimbalAngle where
  pitch := s.gimbalP
  roll := .fin 0
  yaw := .fin 0

/-- `drone_get_camera_state`. -/
def droneGetCameraState (s : StubState) : DroneCameraState where
  mode := s.camMode
  isRecording := s.recording
  zoomFactor := s.zoom

/-- `drone_get_rtk_status`. -/
def droneGetRtkStatus : DroneRtkStatus where
  enabled := false
  fixType := 0
  satellites := 0
  lat := .fin 0
  lon := .fin 0
  altM := .fin 0

/-- `drone_upload_kmz`. -/
def droneUploadKmz (path : Bytes) : DroneError :=
  if cstr path = [] then .errParam else .ok

/-- The stub build. -/
def stubCtrl (mock : MockPosition) : DroneCtrl StubState
  | .getTelemetry, s => ((.ok, droneGetTelemetry mock), s)
  | .getBatteryInfo, s => ((.ok, droneGetBatteryInfo), s)
  | .getGimbalAngle, s => ((.ok, droneGetGimbalAngle s), s)
  | .getCameraState, s => ((.ok, droneGetCameraState s), s)
  | .getRtkStatus, s => ((.ok, droneGetRtkStatus), s)
  | .setRthAltitude altM, s => ((.ok, ()), { s with rthAlt := altM })
  | .setGimbalAngle a, s => ((.ok, ()), { s with gimbalP := a.pitch })
  | .setCameraMode mode, s => ((.ok, ()), { s with camMode := mode })
  | .setCameraZoom zoomFactor, s => ((.ok, ()), { s with zoom := zoomFactor })
  | .setHomeLocation _, s => ((.ok, ()), s)
  | .setObstacleAvoidance _, s => ((.ok, ()), s)
  | .shootPhoto, s => ((.ok, ()), s)
  | .startRecording, s => ((.ok, ()), { s with recording := true })
  | .stopRecording, s => ((.ok, ()), { s with recording := false })
  | .uploadKmz path, s => ((droneUploadKmz path, ()), s)

end Stub
end PsdkBridge
