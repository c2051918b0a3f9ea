import PsdkBridge.RealCtrl

/-!
# What the real build calls

`MayCall` says for every drone function which calls of the SDK and of the C library
it can make, and with which arguments.  `issues_realCtrl` is the one place where the
functions are taken apart for this; results about a certain kind of call follow from
it.
-/

namespace PsdkBridge
namespace Real

/-- A call of the initialisation of the waypoint module. -/
def IsWaypointSetup : SysCall → Prop
  | .waypointV3Init | .waypointV3RegMissionStateCallback
  | .waypointV3RegActionStateCallback => True
  | _ => False

/-- A call for the file with the path, or for its contents. -/
def IsFileUse (path : Bytes) : SysCall → Prop
  | .fopen path' => path' = path
  | .fseekEnd | .ftell | .fseekSet | .getOsalHandler | .osalMalloc _ | .fread _ | .fclose
  | .osalFree | .waypointV3UploadKmzFile _ _ => True
  | _ => False

/-- The calls that a drone function can make. -/
def MayCall (L : Libm) : DroneCall → SysCall → Prop
  | .getTelemetry, s | .getBatteryInfo, s => s = .monotonicMs
  | .getGimbalAngle, _ | .getRtkStatus, _ => False
  | .getCameraState, s =>
      s = .cameraGetMode ∨ s = .cameraGetRecordingState ∨ s = .cameraGetOpticalZoomParam
  | .setRthAltitude altM, s => s = .setGoHomeAltitude (L.floatToUint16 altM)
  | .setGimbalAngle _, s => ∃ pitch roll yaw time, s = .gimbalRotate pitch roll yaw time
  | .setCameraMode _, s => ∃ mode, s = .cameraSetMode mode
  | .setCameraZoom _, s => ∃ zoomIn factor, s = .cameraSetOpticalZoomParam zoomIn factor
  | .setHomeLocation loc, s => s = .setHomeLocationUsingGPSCoordinates loc.lat loc.lon
  | .setObstacleAvoidance _, s =>
      ∃ sw, s = .setHorizontalVisualObstacleAvoidanceEnableStatus sw ∨
        s = .setUpwardsVisualObstacleAvoidanceEnableStatus sw
  | .shootPhoto, s => s = .cameraStartShootPhoto
  | .startRecording, s => s = .cameraStartRecordVideo
  | .stopRecording, s => s = .cameraStopRecordVideo
  | .uploadKmz path, s => IsWaypointSetup s ∨ IsFileUse (cstr path) s

section Functions

variable {τ : Type} (L : Libm) (S : Outside SysCall.Out τ)
  {p : CallEvent SysCall.Out → Prop}

theorem issues_command
    {c : SysCall} (code : c.Out → ReturnCode)
    (hc : ∀ a, p ⟨c, a⟩) :
    Issues p (command S c code) :=
  issues_call S hc (fun _ => issues_pure _)

theorem issues_plain
    {α : Type} {x : RealM τ α}
    (h : Issues p x) :
    Issues p (plain x) :=
  issues_bind h (fun _ => issues_pure _)

theorem issues_readClock
    (stats : TopicStats)
    (h : ∀ now, p ⟨.monotonicMs, now⟩) :
    Issues p (readClock S stats) :=
  issues_ite (issues_pure _) (issues_call S h (fun _ => issues_pure _))

theorem issues_droneGetCameraState :
    Issues (fun e => MayCall L .getCameraState e.call) (droneGetCameraState S) := by
  unfold droneGetCameraState
  refine issues_call S (fun _ => Or.inl rfl) (fun mode => ?_)
  refine issues_ite (issues_pure _) ?_
  refine issues_call S (fun _ => Or.inr (Or.inl rfl)) (fun _ => ?_)
  exact issues_call S (fun _ => Or.inr (Or.inr rfl)) (fun _ => issues_pure _)

theorem issues_droneSetObstacleAvoidance
    (mode : ObstacleAvoidMode) :
    Issues (fun e => MayCall L (.setObstacleAvoidance mode) e.call)
      (droneSetObstacleAvoidance S mode) := by
  unfold droneSetObstacleAvoidance
  refine issues_call S (fun _ => ⟨_, Or.inl rfl⟩) (fun rc => ?_)
  refine issues_ite (issues_pure _) ?_
  refine issues_call S (fun _ => ⟨_, Or.inr rfl⟩) (fun rc => ?_)
  exact issues_ite (issues_pure _) (issues_pure _)

theorem issues_ensureWaypointV3Ready :
    Issues (fun e => IsWaypointSetup e.call) (ensureWaypointV3Ready S) := by
  unfold ensureWaypointV3Ready
  refine issues_bind issues_readVars (fun vars => ?_)
  refine issues_ite (issues_pure _) ?_
  refine issues_call S (fun _ => trivial) (fun rc => ?_)
  refine issues_ite (issues_pure _) ?_
  refine issues_call S (fun _ => trivial) (fun rc => ?_)
  refine issues_ite (issues_pure _) ?_
  refine issues_call S (fun _ => trivial) (fun rc => ?_)
  refine issues_ite (issues_pure _) ?_
  exact issues_bind (issues_modifyVars _) (fun _ => issues_pure _)

/-- A call for the file that ends the upload. -/
theorem issues_last
    {path : Bytes} {c : SysCall} (err : DroneError)
    (hc : IsFileUse path c) :
    Issues (fun e => IsFileUse path e.call)
      (callOut S c >>= fun _ => (pure err : RealM τ DroneError)) :=
  issues_call S (fun _ => hc) (fun _ => issues_pure err)

theorem issues_uploadFile
    (path : Bytes) (fileSize : Int) :
    Issues (fun e => IsFileUse path e.call) (uploadFile S fileSize) := by
  unfold uploadFile
  refine issues_call S (fun _ => trivial) (fun osal => ?_)
  refine issues_ite (issues_last S _ trivial) ?_
  refine issues_call S (fun _ => trivial) (fun buf => ?_)
  refine issues_ite (issues_last S _ trivial) ?_
  refine issues_call S (fun _ => trivial) (fun data => ?_)
  refine issues_call S (fun _ => trivial) (fun _ => ?_)
  refine issues_ite (issues_last S _ trivial) ?_
  refine issues_call S (fun _ => trivial) (fun rc => ?_)
  exact issues_last S _ trivial

theorem issues_openAndUpload
    (path : Bytes) :
    Issues (fun e => IsFileUse path e.call) (openAndUpload S path) := by
  unfold openAndUpload
  refine issues_call S (fun _ => rfl) (fun fp => ?_)
  refine issues_ite (issues_pure _) ?_
  refine issues_call S (fun _ => trivial) (fun atEnd => ?_)
  refine issues_ite (issues_last S _ trivial) ?_
  refine issues_call S (fun _ => trivial) (fun fileSize => ?_)
  refine issues_ite (issues_last S _ trivial) ?_
  refine issues_call S (fun _ => trivial) (fun atStart => ?_)
  refine issues_ite (issues_last S _ trivial) ?_
  exact issues_uploadFile S path fileSize

theorem issues_droneUploadKmz
    (path : Bytes) :
    Issues (fun e => MayCall L (.uploadKmz path) e.call) (droneUploadKmz S path) := by
  unfold droneUploadKmz
  refine issues_ite (issues_pure _) ?_
  refine issues_bind
    (issues_mono (issues_ensureWaypointV3Ready S) (fun _ => Or.inl)) (fun err => ?_)
  refine issues_ite (issues_pure _) ?_
  exact issues_mono (issues_openAndUpload S (cstr path)) (fun _ => Or.inr)

/-- **What a drone function calls.** -/
theorem issues_realCtrl
    (c : DroneCall) :
    Issues (fun e => MayCall L c e.call)
      (realCtrl L S c : RealM τ (DroneError × c.Out)) := by
  cases c with
  | getTelemetry | getBatteryInfo =>
      refine issues_bind issues_readVars (fun vars => ?_)
      exact issues_bind (issues_readClock S _ (fun _ => rfl)) (fun _ => issues_pure _)
  | getGimbalAngle =>
      exact issues_bind issues_readVars (fun _ => issues_pure _)
  | getCameraState =>
      exact issues_droneGetCameraState L S
  | getRtkStatus =>
      exact issues_pure _
  | setObstacleAvoidance mode =>
      exact issues_plain (issues_droneSetObstacleAvoidance L S mode)
  | uploadKmz path =>
      exact issues_plain (issues_droneUploadKmz L S path)
  | setRthAltitude | setHomeLocation | shootPhoto | startRecording | stopRecording =>
      exact issues_plain (issues_command S _ (fun _ => rfl))
  | setGimbalAngle =>
      exact issues_plain (issues_command S _ (fun _ => ⟨_, _, _, _, rfl⟩))
  | setCameraMode =>
      exact issues_plain (issues_command S _ (fun _ => ⟨_, rfl⟩))
  | setCameraZoom =>
      exact issues_plain (issues_command S _ (fun _ => ⟨_, _, rfl⟩))

/-- **What a drone function changes.**  Only an upload touches the variables. -/
theorem leaves_realCtrl
    {κ : Type} (g : RealVars → κ) {c : DroneCall}
    (hc : ∀ path, c ≠ .uploadKmz path) :
    Leaves g (realCtrl L S c : RealM τ (DroneError × c.Out)) := by
  have hplain : ∀ {x : SysCall} (code : x.Out → ReturnCode),
      Leaves g (plain (command S x code)) := fun code =>
    leaves_bind (leaves_call S (fun _ => leaves_pure _)) (fun _ => leaves_pure _)
  cases c with
  | getTelemetry | getBatteryInfo =>
      refine leaves_bind (fun _ => rfl) (fun vars => leaves_bind ?_ (fun _ => leaves_pure _))
      exact leaves_ite (leaves_pure _) (fun _ => rfl)
  | getGimbalAngle =>
      exact leaves_bind (fun _ => rfl) (fun _ => leaves_pure _)
  | getCameraState =>
      refine leaves_call S (fun _ => leaves_ite (leaves_pure _) ?_)
      exact leaves_call S (fun _ => leaves_call S (fun _ => leaves_pure _))
  | getRtkStatus =>
      exact leaves_pure _
  | setObstacleAvoidance mode =>
      refine leaves_bind ?_ (fun _ => leaves_pure _)
      refine leaves_call S (fun _ => leaves_ite (leaves_pure _) ?_)
      exact leaves_call S (fun _ => leaves_ite (leaves_pure _) (leaves_pure _))
  | setRthAltitude | setHomeLocation | shootPhoto | startRecording | stopRecording
  | setGimbalAngle | setCameraMode | setCameraZoom =>
      exact hplain _
  | uploadKmz path =>
      exact absurd rfl (hc path)

end Functions

end Real
end PsdkBridge
