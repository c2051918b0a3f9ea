import PsdkBridge.BatteryReport
import PsdkBridge.Handler
import PsdkBridge.Lib.Calls

/-!
# The real build of the drone control layer

This module follows the rest of the first half of `bsp/drone_ctrl.c`.  The
functions call the DJI SDK and the C library; both are the outside of the
program, and any sequence of answers is possible.  The own variables of the
layer are the subscription cache and the flag `s_waypoint_v3_inited`.

A return code of the SDK is a number, zero for success.
-/

namespace PsdkBridge
namespace Real

/-- `T_DjiReturnCode`. -/
abbrev ReturnCode := UInt64

/-- `DJI_ERROR_SYSTEM_MODULE_CODE_SUCCESS`. -/
def success : ReturnCode := 0

/-- `E_DjiCameraManagerWorkMode`. -/
inductive CameraWorkMode where
  | shootPhoto
  | recordVideo
  | other (n : Nat)
deriving DecidableEq

/-- The calls of the SDK and of the C library. -/
inductive SysCall where
  | monotonicMs
  | fcSubscriptionInit
  | fcSubscriptionSubscribeTopic (t : Topic)
  | fcSubscriptionDeInit
  | cameraManagerInit
  | cameraManagerDeInit
  | gimbalManagerInit
  | gimbalManagerDeinit
  | waypointV3Init
  | waypointV3RegMissionStateCallback
  | waypointV3RegActionStateCallback
  | waypointV3UploadKmzFile (buf : Bytes) (len : UInt32)
  | waypointV3DeInit
  | cameraGetMode
  | cameraGetRecordingState
  | cameraGetOpticalZoomParam
  | setGoHomeAltitude (altitude : UInt16)
  | gimbalRotate (pitch roll yaw time : FNum)
  | cameraSetMode (mode : CameraWorkMode)
  | cameraSetOpticalZoomParam (zoomIn : Bool) (factor : FNum)
  | setHomeLocationUsingGPSCoordinates (latitude longitude : FNum)
  | setHorizontalVisualObstacleAvoidanceEnableStatus (enable : Bool)
  | setUpwardsVisualObstacleAvoidanceEnableStatus (enable : Bool)
  | cameraStartShootPhoto
  | cameraStartRecordVideo
  | cameraStopRecordVideo
  | fopen (path : Bytes)
  | fseekEnd
  | ftell
  | fseekSet
  | getOsalHandler
  | osalMalloc (size : UInt32)
  | fread (size : UInt64)
  | fclose
  | osalFree

/-- What a call answers.  Pointers are only tested for NULL; `fread` answers the
bytes it stored. -/
@[reducible] def SysCall.Out : SysCall → Type
  | .monotonicMs => UInt64
  | .cameraGetMode => ReturnCode × CameraWorkMode
  | .cameraGetRecordingState => ReturnCode × Bool
  | .cameraGetOpticalZoomParam => ReturnCode × FNum
  | .fopen _ => Bool
  | .fseekEnd => Bool
  | .ftell => Int
  | .fseekSet => Bool
  | .getOsalHandler => Bool
  | .osalMalloc _ => Bool
  | .fread _ => Bytes
  | .fclose => Unit
  | .osalFree => Unit
  | _ => ReturnCode

/-- The static variables of the layer. -/
structure RealVars where
  cache : Cache
  waypointV3Inited : Bool

/-- The state of the real build. -/
abbrev RealState (τ : Type) := Machine SysCall.Out τ RealVars

/-- A function of the real build. -/
abbrev RealM (τ α : Type) := Program SysCall.Out τ RealVars α

/-- The daemon at its start. -/
def initialState {τ : Type} (outside : τ) : RealState τ where
  outside := outside
  vars := { cache := emptyCache, waypointV3Inited := false }
  trace := []

/-- `rc == SUCCESS ? DRONE_OK : DRONE_ERR_PSDK`. -/
def okOrPsdk (rc : ReturnCode) : DroneError :=
  if rc = success then .ok else .errPsdk

section Functions

variable {τ : Type} (L : Libm) (S : Outside SysCall.Out τ)

/-! ## Initialisation -/

/-- The topics in the order of their subscription. -/
def subscribedTopics : List Topic :=
  [.positionFused, .velocity, .quaternion, .gpsDetails, .statusFlight, .batteryInfo,
    .batterySingleInfoIndex1, .batterySingleInfoIndex2, .gimbalAngles]

/-- `drone_ctrl_init`; `false` is the return value `-1`. -/
def droneCtrlInit : RealM τ Bool := do
  let rc : ReturnCode ← callOut S .fcSubscriptionInit
  if rc ≠ success then
    return false
  else
    -- a subscription that fails is only logged
    for t in subscribedTopics do
      let _ ← callOut S (.fcSubscriptionSubscribeTopic t)
    let _ ← callOut S .cameraManagerInit
    let _ ← callOut S .gimbalManagerInit
    return true

/-- `drone_ctrl_deinit`. -/
def droneCtrlDeinit : RealM τ Unit := do
  let vars ← readVars
  if vars.waypointV3Inited then
    let _ ← callOut S .waypointV3DeInit
    modifyVars (fun v => { v with waypointV3Inited := false })
  let _ ← callOut S .gimbalManagerDeinit
  let _ ← callOut S .cameraManagerDeInit
  let _ ← callOut S .fcSubscriptionDeInit

/-! ## Readings -/

/-- `drone_get_camera_state`.  The structure is left alone if the first call
fails; its members are zero here. -/
def droneGetCameraState : RealM τ (DroneError × DroneCameraState) := do
  let mode : ReturnCode × CameraWorkMode ← callOut S .cameraGetMode
  if mode.1 ≠ success then
    return (.errPsdk, { mode := .photo, isRecording := false, zoomFactor := .fin 0 })
  else
    let recording : ReturnCode × Bool ← callOut S .cameraGetRecordingState
    let zoom : ReturnCode × FNum ← callOut S .cameraGetOpticalZoomParam
    return (.ok, {
      mode := if mode.2 = .shootPhoto then .photo else .video
      isRecording := decide (recording.1 = success) && recording.2
      zoomFactor :=
        if decide (zoom.1 = success) && zoom.2.gt (.fin 0) then zoom.2 else .fin 1 })

/-- `drone_get_gimbal_angle`. -/
def droneGetGimbalAngle (c : Cache) : DroneGimbalAngle :=
  let g : Vector3f := (c .gimbalAngles).sample
  { pitch := g.x, roll := g.y, yaw := g.z }

/-- `drone_get_rtk_status`. -/
def droneGetRtkStatus : DroneRtkStatus where
  enabled := false
  fixType := 0
  satellites := 0
  lat := .fin 0
  lon := .fin 0
  altM := .fin 0

/-! ## Commands -/

/-- A command that is a single call of the SDK. -/
def command (c : SysCall) (code : c.Out → ReturnCode) : RealM τ DroneError := do
  let rc ← callOut S c
  return okOrPsdk (code rc)

/-- `drone_set_rth_altitude`. -/
def droneSetRthAltitude (altM : FNum) : RealM τ DroneError :=
  command S (.setGoHomeAltitude (L.floatToUint16 altM)) id

/-- `drone_set_gimbal_angle`. -/
def droneSetGimbalAngle (a : DroneGimbalAngle) : RealM τ DroneError :=
  command S (.gimbalRotate a.pitch a.roll a.yaw (.fin (1 / 2))) id

/-- `drone_set_camera_mode`. -/
def droneSetCameraMode (mode : CameraMode) : RealM τ DroneError :=
  command S (.cameraSetMode (if mode = .photo then .shootPhoto else .recordVideo)) id

/-- `drone_set_camera_zoom`. -/
def droneSetCameraZoom (zoomFactor : FNum) : RealM τ DroneError :=
  let zoomIn := zoomFactor.gt (.fin 1) || decide (zoomFactor = .fin 1)
  command S (.cameraSetOpticalZoomParam zoomIn zoomFactor) id

/-- `drone_set_home_location`. -/
def droneSetHomeLocation (loc : DroneHomeLocation) : RealM τ DroneError :=
  command S (.setHomeLocationUsingGPSCoordinates loc.lat loc.lon) id

/-- `drone_set_obstacle_avoidance`. -/
def droneSetObstacleAvoidance (mode : ObstacleAvoidMode) : RealM τ DroneError := do
  let sw := decide (mode = .close)
  let rc : ReturnCode ←
    callOut S (.setHorizontalVisualObstacleAvoidanceEnableStatus sw)
  if rc ≠ success then
    return .errPsdk
  else
    let rc : ReturnCode ←
      callOut S (.setUpwardsVisualObstacleAvoidanceEnableStatus sw)
    if rc ≠ success then
      return .errPsdk
    else
      return .ok

/-- `drone_shoot_photo`. -/
def droneShootPhoto : RealM τ DroneError :=
  command S .cameraStartShootPhoto id

/-- `drone_start_recording`. -/
def droneStartRecording : RealM τ DroneError :=
  command S .cameraStartRecordVideo id

/-- `drone_stop_recording`. -/
def droneStopRecording : RealM τ DroneError :=
  command S .cameraStopRecordVideo id

/-! ## Mission upload -/

/-- `ensure_waypoint_v3_ready`. -/
def ensureWaypointV3Ready : RealM τ DroneError := do
  let vars ← readVars
  if vars.waypointV3Inited then
    return .ok
  else
    let rc : ReturnCode ← callOut S .waypointV3Init
    if rc ≠ success then
      return .errPsdk
    else
      let rc : ReturnCode ← callOut S .waypointV3RegMissionStateCallback
      if rc ≠ success then
        return .errPsdk
      else
        let rc : ReturnCode ← callOut S .waypointV3RegActionStateCallback
        if rc ≠ success then
          return .errPsdk
        else
          modifyVars (fun v => { v with waypointV3Inited := true })
          return .ok

/-- The part of `drone_upload_kmz` behind `ftell`, for a file of `fileSize`
bytes. -/
def uploadFile (fileSize : Int) : RealM τ DroneError := do
  let osal : Bool ← callOut S .getOsalHandler
  if !osal then
    let _ ← callOut S .fclose
    return .errPsdk
  else
    let buf : Bool ← callOut S (.osalMalloc (UInt32.ofInt fileSize))
    if !buf then
      let _ ← callOut S .fclose
      return .errUnknown
    else
      let data : Bytes ← callOut S (.fread (UInt64.ofInt fileSize))
      let _ ← callOut S .fclose
      if data.length ≠ (UInt64.ofInt fileSize).toNat then
        let _ ← callOut S .osalFree
        return .errUnknown
      else
        let rc : ReturnCode ←
          callOut S (.waypointV3UploadKmzFile data (UInt32.ofInt fileSize))
        let _ ← callOut S .osalFree
        return okOrPsdk rc

/-- The part of `drone_upload_kmz` behind `ensure_waypoint_v3_ready`. -/
def openAndUpload (path : Bytes) : RealM τ DroneError := do
  let fp : Bool ← callOut S (.fopen path)
  if !fp then
    return .errParam
  else
    let atEnd : Bool ← callOut S .fseekEnd
    if !atEnd then
      let _ ← callOut S .fclose
      return .errUnknown
    else
      let fileSize : Int ← callOut S .ftell
      if fileSize ≤ 0 then
        let _ ← callOut S .fclose
        return .errParam
      else
        let atStart : Bool ← callOut S .fseekSet
        if !atStart then
          let _ ← callOut S .fclose
          return .errUnknown
        else
          uploadFile S fileSize

/-- `drone_upload_kmz`. -/
def droneUploadKmz (path : Bytes) : RealM τ DroneError := do
  if cstr path = [] then
    return .errParam
  else
    let err ← ensureWaypointV3Ready S
    if err ≠ .ok then
      return err
    else
      openAndUpload S (cstr path)

/-- A function without an out-parameter. -/
def plain {α : Type} (x : RealM τ α) : RealM τ (α × Unit) := do
  let a ← x
  return (a, ())

/-- The clock reading of `topic_is_fresh`, which looks at the clock only behind
the first sample. -/
def readClock (stats : TopicStats) : RealM τ UInt64 :=
  if stats.lastUpdateMs = 0 then pure 0 else callOut S .monotonicMs

/-- The real build. -/
def realCtrl : DroneCtrl (RealState τ)
  | .getTelemetry => (do
      let vars ← readVars
      let now ← readClock S (vars.cache .batteryInfo).stats
      return (.ok, droneGetTelemetry L vars.cache now) : RealM τ _)
  | .getBatteryInfo => (do
      let vars ← readVars
      let now ← readClock S (vars.cache .batteryInfo).stats
      return (.ok, droneGetBatteryInfo vars.cache now) : RealM τ _)
  | .getGimbalAngle => (do
      let vars ← readVars
      return (.ok, droneGetGimbalAngle vars.cache) : RealM τ _)
  | .getCameraState => droneGetCameraState S
  | .getRtkStatus => (do return (.ok, droneGetRtkStatus) : RealM τ _)
  | .setRthAltitude altM => plain (droneSetRthAltitude L S altM)
  | .setGimbalAngle a => plain (droneSetGimbalAngle S a)
  | .setCameraMode mode => plain (droneSetCameraMode S mode)
  | .setCameraZoom zoomFactor => plain (droneSetCameraZoom S zoomFactor)
  | .setHomeLocation loc => plain (droneSetHomeLocation S loc)
  | .setObstacleAvoidance mode => plain (droneSetObstacleAvoidance S mode)
  | .shootPhoto => plain (droneShootPhoto S)
  | .startRecording => plain (droneStartRecording S)
  | .stopRecording => plain (droneStopRecording S)
  | .uploadKmz path => plain (droneUploadKmz S path)

end Functions

/-! ## The real build under the handlers -/

section Handlers

variable {τ : Type}

/-- The real build as the environment of the handlers. -/
def realEnv (P : Platform) (L : Libm) (S : Outside SysCall.Out τ) (clock : Timespec) :
    Env (RealState τ) where
  platform := P
  droneCtrl := realCtrl L S
  startClock := clock
  nowClock := clock

/-- The daemon before its first request. -/
def startWorld (outside : τ) : World (RealState τ) where
  ctrl := initialState outside
  gStart := { tvSec := 0, tvNsec := 0 }
  gStarted := false
  events := []

/-- A run of requests acts on the drone control layer through the commands that
reach it. -/
theorem foldl_ctrl
    {σ R K : Type} (handle : World σ → R → World σ) (cmd : R → Option K)
    (act : σ → K → σ)
    (h : ∀ w r, (handle w r).ctrl = (cmd r).toList.foldl act w.ctrl)
    (reqs : List R) (w : World σ) :
    (reqs.foldl handle w).ctrl = (reqs.filterMap cmd).foldl act w.ctrl := by
  induction reqs generalizing w with
  | nil =>
      rfl
  | cons r reqs ih =>
      rw [List.foldl_cons, ih, h, List.filterMap_cons]
      cases cmd r <;> rfl

end Handlers

/-! ## A concrete outside -/

/-- Answers of an SDK that accepts everything, except that the registration of
the mission callback returns `regMission`. -/
def steadyAnswer (regMission : ReturnCode) : (c : SysCall) → c.Out
  | .monotonicMs => (1000 : UInt64)
  | .cameraGetMode => (success, .shootPhoto)
  | .cameraGetRecordingState => (success, false)
  | .cameraGetOpticalZoomParam => (success, .fin 1)
  | .fopen _ | .fseekEnd | .fseekSet | .getOsalHandler | .osalMalloc _ => true
  | .ftell => (3 : Int)
  | .fread _ => ascii "kmz"
  | .fclose | .osalFree => ()
  | .waypointV3RegMissionStateCallback => regMission
  | .fcSubscriptionInit | .fcSubscriptionSubscribeTopic _ | .fcSubscriptionDeInit
  | .cameraManagerInit | .cameraManagerDeInit | .gimbalManagerInit
  | .gimbalManagerDeinit | .waypointV3Init | .waypointV3RegActionStateCallback
  | .waypointV3UploadKmzFile _ _ | .waypointV3DeInit | .setGoHomeAltitude _
  | .gimbalRotate _ _ _ _ | .cameraSetMode _ | .cameraSetOpticalZoomParam _ _
  | .setHomeLocationUsingGPSCoordinates _ _
  | .setHorizontalVisualObstacleAvoidanceEnableStatus _
  | .setUpwardsVisualObstacleAvoidanceEnableStatus _ | .cameraStartShootPhoto
  | .cameraStartRecordVideo | .cameraStopRecordVideo => success

/-- The outside with these answers. -/
def steadySdk (regMission : ReturnCode) : Outside SysCall.Out Unit :=
  fun c _ => (steadyAnswer regMission c, ())

end Real
end PsdkBridge
