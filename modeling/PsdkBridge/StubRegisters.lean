import PsdkBridge.FloatReplies
import PsdkBridge.Lib.Registers
import PsdkBridge.RealCtrl
import PsdkBridge.StubModes

/-!
# The variables of the stub build as registers

The stub build keeps five variables.  Each of them is written by one or two commands and
left alone by all others, so behind any run of lines it holds what was last accepted
(`ctrl_run`).  `registers_read` follows two of the reports to the client: it reads
the last accepted values, unless one of them cannot be printed as a number.
-/

namespace PsdkBridge
namespace Stub

/-! ## Commands -/

/-- What a command writes to `g_stub_rth_alt`. -/
def writesRthAlt : DroneCall → Option FNum
  | .setRthAltitude altM => some altM
  | _ => none

/-- What a command writes to `g_stub_gimbal_p`. -/
def writesGimbalP : DroneCall → Option FNum
  | .setGimbalAngle a => some a.pitch
  | _ => none

/-- What a command writes to `g_stub_zoom`. -/
def writesZoom : DroneCall → Option FNum
  | .setCameraZoom zoomFactor => some zoomFactor
  | _ => none

/-- What a command writes to `g_stub_cam_mode`. -/
def writesCamMode : DroneCall → Option CameraMode
  | .setCameraMode mode => some mode
  | _ => none

/-- What a command writes to `g_stub_recording`. -/
def writesRecording : DroneCall → Option Bool
  | .startRecording => some true
  | .stopRecording => some false
  | _ => none

/-- The variables behind a run of commands. -/
def registers (cs : List DroneCall) : StubState where
  rthAlt := lastWrite writesRthAlt (.fin 30) cs
  gimbalP := lastWrite writesGimbalP (.fin (-30)) cs
  zoom := lastWrite writesZoom (.fin 1) cs
  camMode := lastWrite writesCamMode .photo cs
  recording := lastWrite writesRecording false cs

/-- One command of the stub build. -/
def act (s : StubState) (c : MockPosition × DroneCall) : StubState :=
  (stubCtrl c.1 c.2 s).2

theorem isRegister_rthAlt :
    IsRegister act StubState.rthAlt (fun c => writesRthAlt c.2) := by
  rintro s ⟨mock, c⟩
  cases c <;> rfl

theorem isRegister_gimbalP :
    IsRegister act StubState.gimbalP (fun c => writesGimbalP c.2) := by
  rintro s ⟨mock, c⟩
  cases c <;> rfl

theorem isRegister_zoom :
    IsRegister act StubState.zoom (fun c => writesZoom c.2) := by
  rintro s ⟨mock, c⟩
  cases c <;> rfl

theorem isRegister_camMode :
    IsRegister act StubState.camMode (fun c => writesCamMode c.2) := by
  rintro s ⟨mock, c⟩
  cases c <;> rfl

theorem isRegister_recording :
    IsRegister act StubState.recording (fun c => writesRecording c.2) := by
  rintro s ⟨mock, c⟩
  cases c <;> rfl

/-! ## Lines -/

section Runs

variable (P : Platform)

/-- The command that a line makes the drone control layer carry out. -/
def Received.command (r : Received) : Option DroneCall :=
  (rpcParse P r.line).bind (fun req => (req.plan P).command)

/-- The command with the position of the moment. -/
def Received.commandAt (r : Received) : Option (MockPosition × DroneCall) :=
  (r.command P).map (fun c => (r.mock, c))

/-- The commands of a run of lines. -/
def commands (rs : List Received) : List DroneCall :=
  rs.filterMap (Received.command P)

/-- A line acts through its command. -/
theorem step_ctrl
    (w : World StubState) (r : Received) :
    (step P w r).ctrl = (r.commandAt P).toList.foldl act w.ctrl := by
  have hplatform : (r.env P).platform = P := rfl
  simp only [step, handleRpc, hplatform, Received.commandAt, Received.command]
  cases rpcParse P r.line with
  | none =>
      rfl
  | some req =>
      simp only [Option.bind_some, dispatch_eq_exec, exec_ctrl, hplatform]
      cases req.plan P <;> rfl

/-- **The variables are registers.**  Behind any run of lines they hold what was last
accepted. -/
theorem ctrl_run
    (rs : List Received) :
    (run P rs).ctrl = registers (commands P rs) := by
  have hrun : (run P rs).ctrl = (rs.filterMap (Received.commandAt P)).foldl act initial :=
    Real.foldl_ctrl (step P) (Received.commandAt P) act (step_ctrl P) rs stubWorld
  have hregister : ∀ {β : Type} {get : StubState → β} {writes : DroneCall → Option β},
      IsRegister act get (fun c => writes c.2) →
      get (run P rs).ctrl = lastWrite writes (get initial) (commands P rs) := by
    intro β get writes h
    rw [hrun, h.foldl, commands, lastWrite_filterMap, lastWrite_filterMap]
    congr 1
    funext r
    simp only [Received.commandAt]
    cases r.command P <;> rfl
  generalize hs : (run P rs).ctrl = s at hregister
  have hrthAlt := hregister isRegister_rthAlt
  have hgimbalP := hregister isRegister_gimbalP
  have hzoom := hregister isRegister_zoom
  have hcamMode := hregister isRegister_camMode
  have hrecording := hregister isRegister_recording
  cases s
  simp only at hrthAlt hgimbalP hzoom hcamMode hrecording
  rw [hrthAlt, hgimbalP, hzoom, hcamMode, hrecording]
  rfl

/-- **A client reads what was last accepted.**  Behind any run of lines, a request for the
camera state or for the gimbal angle is answered by one datagram, sent whole.  If a client
reads anything in it, it reads the mode, the recording flag and the zoom factor, or the
pitch angle, that were last accepted; and it reads something unless the zoom factor or the
pitch angle is not finite or too long for the buffer. -/
theorem registers_read
    (hP : PrintsFixed P)
    (rs : List Received) {r : Received} {req : RpcRequest}
    (hreq : rpcParse P r.line = some req) :
    (req.method = ascii "drone.get_camera_state" →
      ∃ datagram,
        r.newEvents P (run P rs) =
          [.call .getCameraState .ok, .send r.peer datagram datagram.length] ∧
        Reading.cameraState.Told P req.id ({
          mode := lastWrite writesCamMode .photo (commands P rs)
          isRecording := lastWrite writesRecording false (commands P rs)
          zoomFactor := lastWrite writesZoom (.fin 1) (commands P rs) } :
            DroneCameraState) datagram) ∧
      (req.method = ascii "drone.get_gimbal_angle" →
        ∃ datagram,
          r.newEvents P (run P rs) =
            [.call .getGimbalAngle .ok, .send r.peer datagram datagram.length] ∧
          Reading.gimbalAngle.Told P req.id ({
            pitch := lastWrite writesGimbalP (.fin (-30)) (commands P rs)
            roll := .fin 0
            yaw := .fin 0 } : DroneGimbalAngle) datagram) := by
  have hevents := newEvents_of_some (r.env P) r.peer hreq (run P rs)
  constructor
  · intro hm
    have hout : ((r.env P).droneCtrl Reading.cameraState.call (run P rs).ctrl).1 =
        (.ok, droneGetCameraState (registers (commands P rs))) := by
      rw [ctrl_run]
      rfl
    exact ⟨_, hevents.trans (events_reading (r.env P) r.peer (k := .cameraState) hm _ hout),
      told (r.env P) hP req.id .cameraState _⟩
  · intro hm
    have hout : ((r.env P).droneCtrl Reading.gimbalAngle.call (run P rs).ctrl).1 =
        (.ok, droneGetGimbalAngle (registers (commands P rs))) := by
      rw [ctrl_run]
      rfl
    exact ⟨_, hevents.trans (events_reading (r.env P) r.peer (k := .gimbalAngle) hm _ hout),
      told (r.env P) hP req.id .gimbalAngle _⟩

end Runs

/-! ## Three lines -/

/-- A line with the given parameters. -/
def lineOf (k : Method) (params : List Member) : Received :=
  { setModeSeven with line := requestLine 1 k params }

/-- The parameters of a request for a zoom factor of three. -/
def zoomThree : List Member :=
  [{ key := ascii "zoom_factor", text := decInt 3, val := .int 3 }]

theorem command_lineOf
    {k : Method} {params : List Member} {c : DroneCall}
    (hok : ∀ m ∈ params, m.Ok)
    (hstored : ∀ m ∈ params, m.val.Storable)
    (hzero : ∀ m ∈ params, (0 : UInt8) ∉ m.render)
    (hplan : (k.plan gnuPlatform (.obj (params.map (fun m => (m.key, m.val))))).command =
      some c) :
    (lineOf k params).command gnuPlatform = some c := by
  have hreq := rpcParse_requestLine (i := 1) (by decide) k hok hstored hzero
  rw [Received.command, lineOf, hreq, Option.bind_some, plan_of_name (k := k) rfl, hplan]

theorem commands_zoomThree :
    commands gnuPlatform [lineOf .setCameraZoom zoomThree, lineOf .startRecording []] =
      [.setCameraZoom (.fin 3), .startRecording] := by
  have hok : ∀ m ∈ zoomThree, m.Ok := by
    intro m hm
    obtain rfl := List.mem_singleton.mp hm
    exact ⟨by decide, reads_int 3⟩
  have hstored : ∀ m ∈ zoomThree, m.val.Storable := by
    intro m hm
    obtain rfl := List.mem_singleton.mp hm
    exact storable_int (by decide)
  have hzoom : (lineOf .setCameraZoom zoomThree).command gnuPlatform =
      some (.setCameraZoom (.fin 3)) := by
    refine command_lineOf hok hstored (by decide) ?_
    have hparam : binary32.convert (rpcParamDouble gnuPlatform
        (.obj (zoomThree.map (fun m => (m.key, m.val)))) (ascii "zoom_factor")
        (.fin (-1))) = .fin 3 := by
      decide +kernel
    have hlt : FNum.lt (.fin 3) (.fin 1) = false := by decide
    simp only [Method.plan, hparam, hlt, Bool.false_eq_true, if_false]
    rfl
  have hrecording : (lineOf .startRecording []).command gnuPlatform = some .startRecording :=
    command_lineOf (List.forall_mem_nil _) (List.forall_mem_nil _) (List.forall_mem_nil _) rfl
  simp only [commands, List.filterMap_cons, List.filterMap_nil, hzoom, hrecording]

/-- Zoom, record, and ask: the answer says so. -/
theorem registers_read_zoomThree :
    ∃ datagram v,
      .send localPeer datagram datagram.length ∈
        (lineOf .getCameraState []).newEvents gnuPlatform (run gnuPlatform
          [lineOf .setCameraZoom zoomThree, lineOf .startRecording []]) ∧
      decode datagram = some v := by
  obtain ⟨req, hreq, hm⟩ := rpcParse_reading .cameraState
  have hreads := (registers_read gnuPlatform printsFixed_gnuPlatform
    [lineOf .setCameraZoom zoomThree, lineOf .startRecording []]
    (r := lineOf .getCameraState []) hreq).1 hm
  rw [commands_zoomThree] at hreads
  obtain ⟨datagram, hevents, htold⟩ := hreads
  have hrange : Reading.cameraState.InRange ({
      mode := .photo, isRecording := true, zoomFactor := .fin 3 } : DroneCameraState) := by
    rintro q ⟨⟩
    norm_num
  obtain ⟨v, hv⟩ := htold.legible.mpr ⟨by
    simp only [Reading.items, cameraItems, List.forall_mem_cons]
    exact ⟨trivial, trivial, ⟨_, rfl⟩, List.forall_mem_nil _⟩,
    print_length_lt printsFixed_gnuPlatform .cameraState hrange⟩
  refine ⟨datagram, v, ?_, hv⟩
  rw [hevents]
  exact .tail _ (.head _)

end Stub
end PsdkBridge
