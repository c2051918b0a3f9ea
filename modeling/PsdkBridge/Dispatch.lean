import PsdkBridge.Handler

/-!
# What a request asks for

The handlers of `handler.c` all do one of three things: they answer by
themselves, they refuse the parameters, or they call one drone function and
report its outcome.  `Plan` is this abstract view of a request.  `Method.plan`
is the table of the sixteen methods, and `dispatch_eq_exec` shows that the
chain of comparisons in `handle_rpc` executes the plan of the request.

Every later statement about a request goes through `exec_events`: the events of
a request are the calls of its plan followed by one attempt to send its reply.
-/

namespace PsdkBridge

/-- The methods that `handle_rpc` compares with. -/
inductive Method where
  | systemPing
  | getTelemetry
  | getBatteryInfo
  | getGimbalAngle
  | getCameraState
  | getRtkStatus
  | uploadKmz
  | setRthAltitude
  | setGimbalAngle
  | setCameraMode
  | setCameraZoom
  | setHomeLocation
  | setObstacleAvoidance
  | shootPhoto
  | startRecording
  | stopRecording
deriving DecidableEq

namespace Method

/-- The name of a method on the wire. -/
def name : Method → String
  | systemPing => "system.ping"
  | getTelemetry => "drone.get_telemetry"
  | getBatteryInfo => "drone.get_battery_info"
  | getGimbalAngle => "drone.get_gimbal_angle"
  | getCameraState => "drone.get_camera_state"
  | getRtkStatus => "drone.get_rtk_status"
  | uploadKmz => "drone.upload_kmz"
  | setRthAltitude => "drone.set_rth_altitude"
  | setGimbalAngle => "drone.set_gimbal_angle"
  | setCameraMode => "drone.set_camera_mode"
  | setCameraZoom => "drone.set_camera_zoom"
  | setHomeLocation => "drone.set_home_location"
  | setObstacleAvoidance => "drone.set_obstacle_avoidance"
  | shootPhoto => "drone.shoot_photo"
  | startRecording => "drone.start_recording"
  | stopRecording => "drone.stop_recording"

/-- All methods. -/
def all : List Method :=
  [systemPing, getTelemetry, getBatteryInfo, getGimbalAngle, getCameraState,
    getRtkStatus, uploadKmz, setRthAltitude, setGimbalAngle, setCameraMode,
    setCameraZoom, setHomeLocation, setObstacleAvoidance, shootPhoto,
    startRecording, stopRecording]

theorem mem_all
    (k : Method) :
    k ∈ all := by
  cases k <;> decide

/-- The method with a given name. -/
def ofText (m : Bytes) : Option Method :=
  all.find? (fun k => decide (m = ascii k.name))

theorem ofText_name
    (k : Method) :
    ofText (ascii k.name) = some k := by
  cases k <;> decide

theorem ofText_eq_some
    {m : Bytes} {k : Method} :
    ofText m = some k ↔ m = ascii k.name := by
  constructor
  · intro h
    simpa using List.find?_some h
  · rintro rfl
    exact ofText_name k

theorem ofText_eq_none
    {m : Bytes} :
    ofText m = none ↔ ∀ k : Method, m ≠ ascii k.name := by
  unfold ofText
  rw [List.find?_eq_none]
  constructor
  · intro h k
    simpa using h k (mem_all k)
  · intro h k _
    simpa using h k

end Method

/-- What a request asks for. -/
inductive Plan where
  /-- Answer with the uptime. -/
  | ping
  /-- Answer with an error, without calling anything. -/
  | refuse (msg : String)
  /-- Call a drone function; `body` is the result text for what it filled in. -/
  | invoke (c : DroneCall) (failure : String) (body : c.Out → Option Bytes)

namespace Plan

variable {σ : Type}

/-- Carry out a plan. -/
def exec (E : Env σ) (peer : SockaddrIn) (id : Int32) (w : World σ) :
    Plan → World σ
  | ping => hSystemPing E peer id w
  | refuse msg => sendError peer id msg w
  | invoke c failure body =>
      let r := callDrone E c w
      if r.1 ≠ .ok then sendError peer id failure r.2.2
      else sendResult peer id (body r.2.1) r.2.2

/-- The drone calls of a plan. -/
def calls (E : Env σ) (w : World σ) : Plan → List Event
  | invoke c _ _ => [.call c (E.droneCtrl c w.ctrl).1.1]
  | _ => []

/-- The drone function that a plan calls. -/
def command : Plan → Option DroneCall
  | invoke c _ _ => some c
  | _ => none

/-- The result text of `system.ping`. -/
def pingBody (E : Env σ) (w : World σ) : Bytes :=
  (snprintf 128
    (ascii "\x7b\"pong\":true,\"uptime_ms\":" ++
      decNat (uptimeMs E w).1.toNat ++ ascii "\x7d")).stored

/-- The complete reply of a plan. -/
def reply (E : Env σ) (id : Int32) (w : World σ) : Plan → Bytes
  | ping => resultText id (some (pingBody E w))
  | refuse msg => errorText id (ascii msg)
  | invoke c failure body =>
      if (E.droneCtrl c w.ctrl).1.1 = .ok then
        resultText id (body (E.droneCtrl c w.ctrl).1.2)
      else errorText id (ascii failure)

end Plan

/-- The plan of a handler that prints the structure a drone function filled. -/
def getPlan (c : DroneCall) (failure : String) (bufSz : Nat)
    (print : c.Out → Bytes) : Plan :=
  .invoke c failure (fun out => some (snprintf bufSz (print out)).stored)

/-- The plan of a handler that only acknowledges a command. -/
def commandPlan (c : DroneCall) (failure : String) : Plan :=
  .invoke c failure (fun _ => none)

/-- The plan of an upload request for the file name `name`. -/
def uploadPlan : Option Bytes → Plan
  | none => .refuse "missing param: file"
  | some name =>
      if name = [] then .refuse "missing param: file"
      else if strstr name (ascii "..") || strchr name 47 then
        .refuse "invalid file name"
      else
        .invoke (.uploadKmz (kmzPath name)) "kmz upload failed"
          (fun _ => some (kmzResult name (kmzPath name)))

/-- The table of the methods. -/
def Method.plan (P : Platform) (params : Json) : Method → Plan
  | .systemPing => .ping
  | .getTelemetry =>
      getPlan .getTelemetry "failed to read telemetry" 512 (printTelemetry P)
  | .getBatteryInfo =>
      getPlan .getBatteryInfo "failed to read battery info" 256 printBatteryInfo
  | .getGimbalAngle =>
      getPlan .getGimbalAngle "failed to read gimbal angle" 128 (printGimbalAngle P)
  | .getCameraState =>
      getPlan .getCameraState "failed to read camera state" 128 (printCameraState P)
  | .getRtkStatus =>
      getPlan .getRtkStatus "failed to read RTK status" 256 (printRtkStatus P)
  | .uploadKmz => uploadPlan (rpcParamStr P params (ascii "file"))
  | .setRthAltitude =>
      let altM := binary32.convert
        (rpcParamDouble P params (ascii "altitude_m") (.fin (-1)))
      if altM.lt (.fin 0) then .refuse "missing param: altitude_m"
      else commandPlan (.setRthAltitude altM) "PSDK set rth altitude failed"
  | .setGimbalAngle =>
      commandPlan
        (.setGimbalAngle {
          pitch := binary32.convert
            (rpcParamDouble P params (ascii "pitch") (.fin 0))
          roll := binary32.convert
            (rpcParamDouble P params (ascii "roll") (.fin 0))
          yaw := binary32.convert
            (rpcParamDouble P params (ascii "yaw") (.fin 0)) })
        "PSDK set gimbal angle failed"
  | .setCameraMode =>
      let mode := rpcParamInt P params (ascii "mode") (-1)
      if mode < 0 then .refuse "missing param: mode (0=photo, 1=video)"
      else commandPlan (.setCameraMode (.ofInt mode)) "PSDK set camera mode failed"
  | .setCameraZoom =>
      let zoom := binary32.convert
        (rpcParamDouble P params (ascii "zoom_factor") (.fin (-1)))
      if zoom.lt (.fin 1) then
        .refuse "missing or invalid param: zoom_factor (>= 1.0)"
      else commandPlan (.setCameraZoom zoom) "PSDK set camera zoom failed"
  | .setHomeLocation =>
      let lat := rpcParamDouble P params (ascii "lat") (.fin 999)
      let lon := rpcParamDouble P params (ascii "lon") (.fin 999)
      let altM := binary32.convert
        (rpcParamDouble P params (ascii "alt_m") (.fin 0))
      if lat.gt (.fin 90) || lat.lt (.fin (-90)) ||
          lon.gt (.fin 180) || lon.lt (.fin (-180)) then
        .refuse "missing or invalid params: lat, lon"
      else
        commandPlan (.setHomeLocation { lat := lat, lon := lon, altM := altM })
          "PSDK set home location failed"
  | .setObstacleAvoidance =>
      let mode := rpcParamInt P params (ascii "mode") (-1)
      if mode < 0 then .refuse "missing param: mode (0=off, 1=on, 2=brake)"
      else
        commandPlan (.setObstacleAvoidance (.ofInt mode))
          "PSDK set obstacle avoidance failed"
  | .shootPhoto => commandPlan .shootPhoto "PSDK shoot photo failed"
  | .startRecording => commandPlan .startRecording "PSDK start recording failed"
  | .stopRecording => commandPlan .stopRecording "PSDK stop recording failed"

/-- The plan of a request. -/
def RpcRequest.plan (P : Platform) (req : RpcRequest) : Plan :=
  match Method.ofText req.method with
  | none => .refuse "method not found"
  | some k => k.plan P req.params

/-- The method that asks for a call. -/
def DroneCall.method : DroneCall → Method
  | .getTelemetry => .getTelemetry
  | .getBatteryInfo => .getBatteryInfo
  | .getGimbalAngle => .getGimbalAngle
  | .getCameraState => .getCameraState
  | .getRtkStatus => .getRtkStatus
  | .uploadKmz _ => .uploadKmz
  | .setRthAltitude _ => .setRthAltitude
  | .setGimbalAngle _ => .setGimbalAngle
  | .setCameraMode _ => .setCameraMode
  | .setCameraZoom _ => .setCameraZoom
  | .setHomeLocation _ => .setHomeLocation
  | .setObstacleAvoidance _ => .setObstacleAvoidance
  | .shootPhoto => .shootPhoto
  | .startRecording => .startRecording
  | .stopRecording => .stopRecording

/-- An upload request is refused, or uploads a name that passes both checks. -/
theorem uploadPlan_cases
    (P : Platform) (params : Json) :
    (∃ msg ∈ ["missing param: file", "invalid file name"],
      Method.uploadKmz.plan P params = .refuse msg) ∨
    ∃ name,
      rpcParamStr P params (ascii "file") = some name ∧
      name ≠ [] ∧
      strstr name (ascii "..") = false ∧
      strchr name 47 = false ∧
      Method.uploadKmz.plan P params =
        .invoke (.uploadKmz (kmzPath name)) "kmz upload failed"
          (fun _ => some (kmzResult name (kmzPath name))) := by
  simp only [Method.plan]
  cases hname : rpcParamStr P params (ascii "file") with
  | none =>
      left
      exact ⟨"missing param: file", by decide, rfl⟩
  | some name =>
      simp only [uploadPlan]
      split_ifs with hempty hbad
      · left
        exact ⟨"missing param: file", by decide, rfl⟩
      · left
        exact ⟨"invalid file name", by decide, rfl⟩
      · right
        rw [Bool.or_eq_true, not_or, Bool.not_eq_true, Bool.not_eq_true] at hbad
        exact ⟨name, rfl, hempty, hbad.1, hbad.2, rfl⟩

/-- A method is the ping, is refused, or makes its own call. -/
theorem plan_cases
    (P : Platform) (params : Json) (k : Method) :
    (k = .systemPing ∧ k.plan P params = .ping) ∨
    (∃ msg, k.plan P params = .refuse msg) ∨
    ∃ c failure body,
      k = DroneCall.method c ∧ k.plan P params = .invoke c failure body := by
  cases k with
  | systemPing =>
      left
      exact ⟨rfl, rfl⟩
  | uploadKmz =>
      right
      rcases uploadPlan_cases P params with ⟨msg, _, h⟩ | ⟨_, _, _, _, _, h⟩
      · left
        exact ⟨msg, h⟩
      · right
        exact ⟨_, _, _, rfl, h⟩
  | setRthAltitude | setCameraMode | setCameraZoom | setHomeLocation
  | setObstacleAvoidance =>
      right
      simp only [Method.plan]
      split_ifs
      · left
        exact ⟨_, rfl⟩
      · right
        exact ⟨_, _, _, rfl, rfl⟩
  | _ =>
      right
      right
      exact ⟨_, _, _, rfl, rfl⟩

/-- No other method makes the call. -/
theorem method_of_plan
    {P : Platform} {params : Json} {k : Method} {c : DroneCall} {failure : String}
    {body : c.Out → Option Bytes}
    (h : k.plan P params = .invoke c failure body) :
    k = c.method := by
  rcases plan_cases P params k with ⟨_, hping⟩ | ⟨_, hrefuse⟩ | ⟨c', _, _, hk, hinvoke⟩
  · rw [hping] at h
    cases h
  · rw [hrefuse] at h
    cases h
  · rw [hinvoke] at h
    cases h
    exact hk

theorem plan_of_name
    {req : RpcRequest} {k : Method}
    (hm : req.method = ascii k.name)
    (P : Platform) :
    req.plan P = k.plan P req.params := by
  rw [RpcRequest.plan, Method.ofText_eq_some.mpr hm]

section Refinement

variable {σ : Type} (E : Env σ) (peer : SockaddrIn)

/-- The handler of a method. -/
def Method.handle (id : Int32) (params : Json) (w : World σ) : Method → World σ
  | .systemPing => hSystemPing E peer id w
  | .getTelemetry => hDroneGetTelemetry E peer id w
  | .getBatteryInfo => hDroneGetBatteryInfo E peer id w
  | .getGimbalAngle => hDroneGetGimbalAngle E peer id w
  | .getCameraState => hDroneGetCameraState E peer id w
  | .getRtkStatus => hDroneGetRtkStatus E peer id w
  | .uploadKmz => hDroneUploadKmz E peer id params w
  | .setRthAltitude => hDroneSetRthAltitude E peer id params w
  | .setGimbalAngle => hDroneSetGimbalAngle E peer id params w
  | .setCameraMode => hDroneSetCameraMode E peer id params w
  | .setCameraZoom => hDroneSetCameraZoom E peer id params w
  | .setHomeLocation => hDroneSetHomeLocation E peer id params w
  | .setObstacleAvoidance => hDroneSetObstacleAvoidance E peer id params w
  | .shootPhoto => hDroneShootPhoto E peer id w
  | .startRecording => hDroneStartRecording E peer id w
  | .stopRecording => hDroneStopRecording E peer id w

/-- The chain of comparisons selects the handler of the named method. -/
theorem dispatch_of_name
    (k : Method) {req : RpcRequest}
    (hm : req.method = ascii k.name) (w : World σ) :
    dispatch E peer req w = k.handle E peer req.id req.params w := by
  unfold dispatch
  rw [hm]
  cases k <;> rfl

theorem dispatch_of_unknown
    {req : RpcRequest}
    (hm : ∀ k : Method, req.method ≠ ascii k.name) (w : World σ) :
    dispatch E peer req w = sendError peer req.id "method not found" w := by
  have h1 : req.method ≠ ascii "system.ping" := hm .systemPing
  have h2 : req.method ≠ ascii "drone.get_telemetry" := hm .getTelemetry
  have h3 : req.method ≠ ascii "drone.get_battery_info" := hm .getBatteryInfo
  have h4 : req.method ≠ ascii "drone.get_gimbal_angle" := hm .getGimbalAngle
  have h5 : req.method ≠ ascii "drone.get_camera_state" := hm .getCameraState
  have h6 : req.method ≠ ascii "drone.get_rtk_status" := hm .getRtkStatus
  have h7 : req.method ≠ ascii "drone.upload_kmz" := hm .uploadKmz
  have h8 : req.method ≠ ascii "drone.set_rth_altitude" := hm .setRthAltitude
  have h9 : req.method ≠ ascii "drone.set_gimbal_angle" := hm .setGimbalAngle
  have h10 : req.method ≠ ascii "drone.set_camera_mode" := hm .setCameraMode
  have h11 : req.method ≠ ascii "drone.set_camera_zoom" := hm .setCameraZoom
  have h12 : req.method ≠ ascii "drone.set_home_location" := hm .setHomeLocation
  have h13 : req.method ≠ ascii "drone.set_obstacle_avoidance" := hm .setObstacleAvoidance
  have h14 : req.method ≠ ascii "drone.shoot_photo" := hm .shootPhoto
  have h15 : req.method ≠ ascii "drone.start_recording" := hm .startRecording
  have h16 : req.method ≠ ascii "drone.stop_recording" := hm .stopRecording
  unfold dispatch
  simp only [h1, h2, h3, h4, h5, h6, h7, h8, h9, h10, h11, h12, h13, h14, h15,
    h16, if_false]

theorem hDroneUploadKmz_eq_exec
    (id : Int32) (params : Json) (w : World σ) :
    hDroneUploadKmz E peer id params w =
      (Method.uploadKmz.plan E.platform params).exec E peer id w := by
  unfold hDroneUploadKmz
  simp only [Method.plan]
  cases rpcParamStr E.platform params (ascii "file") with
  | none =>
      rfl
  | some name =>
      simp only [uploadPlan]
      split_ifs <;> simp_all [Plan.exec]

/-- A handler that checks its parameters and then commands. -/
theorem exec_guard
    (id : Int32) (w : World σ) (p : Prop) [Decidable p]
    (msg : String) (c : DroneCall) (failure : String) :
    (if p then .refuse msg else commandPlan c failure : Plan).exec E peer id w =
      if p then sendError peer id msg w
      else hDroneCommand E peer id c failure w := by
  split_ifs <;> rfl

/-- Every handler carries out the plan of its method. -/
theorem handle_eq_exec
    (k : Method) (id : Int32) (params : Json) (w : World σ) :
    k.handle E peer id params w =
      (k.plan E.platform params).exec E peer id w := by
  cases k with
  | uploadKmz =>
      exact hDroneUploadKmz_eq_exec E peer id params w
  | setRthAltitude =>
      exact (exec_guard E peer id w _ _ _ _).symm
  | setCameraMode =>
      exact (exec_guard E peer id w _ _ _ _).symm
  | setCameraZoom =>
      exact (exec_guard E peer id w _ _ _ _).symm
  | setHomeLocation =>
      exact (exec_guard E peer id w _ _ _ _).symm
  | setObstacleAvoidance =>
      exact (exec_guard E peer id w _ _ _ _).symm
  | _ =>
      rfl

/-- **Refinement.**  `handle_rpc` carries out the plan of the request. -/
theorem dispatch_eq_exec
    (req : RpcRequest) (w : World σ) :
    dispatch E peer req w =
      (req.plan E.platform).exec E peer req.id w := by
  unfold RpcRequest.plan
  cases hk : Method.ofText req.method with
  | none =>
      exact dispatch_of_unknown E peer (Method.ofText_eq_none.mp hk) w
  | some k =>
      rw [dispatch_of_name E peer k (Method.ofText_eq_some.mp hk) w]
      exact handle_eq_exec E peer k req.id req.params w

end Refinement

/-! ## The events of a request -/

section Events

variable {σ : Type} (E : Env σ) (peer : SockaddrIn)

@[simp] theorem emit_events
    (w : World σ) (e : Event) :
    (w.emit e).events = w.events ++ [e] := by
  rfl

@[simp] theorem callDrone_fst
    (c : DroneCall) (w : World σ) :
    (callDrone E c w).1 = (E.droneCtrl c w.ctrl).1.1 := by
  rfl

@[simp] theorem callDrone_out
    (c : DroneCall) (w : World σ) :
    (callDrone E c w).2.1 = (E.droneCtrl c w.ctrl).1.2 := by
  rfl

@[simp] theorem callDrone_events
    (c : DroneCall) (w : World σ) :
    (callDrone E c w).2.2.events =
      w.events ++ [.call c (E.droneCtrl c w.ctrl).1.1] := by
  rfl

@[simp] theorem uptimeMs_events
    (w : World σ) :
    (uptimeMs E w).2.events = w.events := by
  simp only [uptimeMs]
  split_ifs <;> rfl

/-- The attempt to send the text `t` from a reply buffer. -/
def sendEvent (t : Bytes) : Event :=
  .send peer (t.take (droneMaxMsgLen - 1)) t.length

theorem sendPrinted_events
    {t : Bytes}
    (ht : t ≠ [])
    (w : World σ) :
    (sendPrinted peer (snprintf droneMaxMsgLen t) w).events =
      w.events ++ [sendEvent peer t] := by
  have hpos : 0 < t.length := List.length_pos_iff.mpr ht
  simp [sendPrinted, snprintf, sendEvent, hpos]

theorem resultText_ne_nil
    (id : Int32) (body : Option Bytes) :
    resultText id body ≠ [] := by
  simp [resultText, ascii]

theorem errorText_ne_nil
    (id : Int32) (message : Bytes) :
    errorText id message ≠ [] := by
  simp [errorText, ascii]

theorem sendResult_events
    (id : Int32) (body : Option Bytes) (w : World σ) :
    (sendResult peer id body w).events =
      w.events ++ [sendEvent peer (resultText id body)] :=
  sendPrinted_events peer (resultText_ne_nil id body) w

theorem sendError_events
    (id : Int32) (msg : String) (w : World σ) :
    (sendError peer id msg w).events =
      w.events ++ [sendEvent peer (errorText id (ascii msg))] :=
  sendPrinted_events peer (errorText_ne_nil id (ascii msg)) w

/-- The events of a plan: its calls, then one attempt to send its reply. -/
theorem exec_events
    (id : Int32) (w : World σ) (pl : Plan) :
    (pl.exec E peer id w).events =
      w.events ++ pl.calls E w ++ [sendEvent peer (pl.reply E id w)] := by
  cases pl with
  | ping =>
      simp [Plan.exec, Plan.calls, Plan.reply, Plan.pingBody, hSystemPing,
        sendResult_events]
  | refuse msg =>
      simp [Plan.exec, Plan.calls, Plan.reply, sendError_events]
  | invoke c failure body =>
      by_cases hok : (E.droneCtrl c w.ctrl).1.1 = .ok
      · simp [Plan.exec, Plan.calls, Plan.reply, hok, sendResult_events]
      · simp [Plan.exec, Plan.calls, Plan.reply, hok, sendError_events]

/-- The drone control layer after a plan. -/
def Plan.ctrl (w : World σ) : Plan → σ
  | .invoke c _ _ => (E.droneCtrl c w.ctrl).2
  | _ => w.ctrl

theorem sendPrinted_ctrl
    (p : Printed) (w : World σ) :
    (sendPrinted peer p w).ctrl = w.ctrl := by
  unfold sendPrinted
  split_ifs <;> rfl

/-- A plan changes the drone control layer by its call only. -/
theorem exec_ctrl
    (id : Int32) (w : World σ) (pl : Plan) :
    (pl.exec E peer id w).ctrl = pl.ctrl E w := by
  cases pl with
  | ping =>
      simp only [Plan.exec, hSystemPing, sendResult, sendPrinted_ctrl, Plan.ctrl, uptimeMs]
      split_ifs <;> rfl
  | refuse msg =>
      simp only [Plan.exec, sendError, sendPrinted_ctrl, Plan.ctrl]
  | invoke c failure body =>
      simp only [Plan.exec, sendError, sendResult]
      split_ifs <;> rw [sendPrinted_ctrl] <;> rfl

/-- A line that is no request changes nothing. -/
theorem handleRpc_of_none
    {line : Bytes}
    (h : rpcParse E.platform line = none)
    (w : World σ) :
    handleRpc E peer line w = w := by
  simp [handleRpc, h]

/-- The events of a request. -/
theorem handleRpc_events
    {line : Bytes} {req : RpcRequest}
    (h : rpcParse E.platform line = some req)
    (w : World σ) :
    (handleRpc E peer line w).events =
      w.events ++ (req.plan E.platform).calls E w ++
        [sendEvent peer ((req.plan E.platform).reply E req.id w)] := by
  simp only [handleRpc, h]
  rw [dispatch_eq_exec, exec_events]

/-- The events that a line adds. -/
def newEvents (line : Bytes) (w : World σ) : List Event :=
  (handleRpc E peer line w).events.drop w.events.length

theorem newEvents_of_some
    {line : Bytes} {req : RpcRequest}
    (h : rpcParse E.platform line = some req)
    (w : World σ) :
    newEvents E peer line w =
      (req.plan E.platform).calls E w ++
        [sendEvent peer ((req.plan E.platform).reply E req.id w)] := by
  rw [newEvents, handleRpc_events E peer h w, List.append_assoc]
  exact List.drop_left

theorem newEvents_of_none
    {line : Bytes}
    (h : rpcParse E.platform line = none)
    (w : World σ) :
    newEvents E peer line w = [] := by
  simp [newEvents, handleRpc_of_none E peer h w]

/-- A line makes the call of the plan of its request, if it makes one at all. -/
theorem handleRpc_calls
    (line : Bytes) (w : World σ) :
    ((handleRpc E peer line w).ctrl = w.ctrl ∧
      ∀ c err, .call c err ∉ newEvents E peer line w) ∨
    ∃ req c failure body, rpcParse E.platform line = some req ∧
      req.method = ascii c.method.name ∧
      c.method.plan E.platform req.params = .invoke c failure body ∧
      (handleRpc E peer line w).ctrl = (E.droneCtrl c w.ctrl).2 ∧
      ∀ c' err, .call c' err ∈ newEvents E peer line w ↔
        c' = c ∧ err = (E.droneCtrl c w.ctrl).1.1 := by
  cases hreq : rpcParse E.platform line with
  | none =>
      left
      rw [handleRpc_of_none E peer hreq w, newEvents_of_none E peer hreq w]
      exact ⟨rfl, fun _ _ => List.not_mem_nil⟩
  | some req =>
      simp only [handleRpc, hreq, dispatch_eq_exec, exec_ctrl,
        newEvents_of_some E peer hreq w]
      cases hpl : req.plan E.platform with
      | ping | refuse =>
          left
          simp [Plan.ctrl, Plan.calls, sendEvent]
      | invoke c failure body =>
          right
          have hmethod : req.method = ascii c.method.name ∧
              c.method.plan E.platform req.params = .invoke c failure body := by
            unfold RpcRequest.plan at hpl
            cases hk : Method.ofText req.method with
            | none =>
                simp [hk] at hpl
            | some k =>
                simp only [hk] at hpl
                obtain rfl := method_of_plan hpl
                exact ⟨Method.ofText_eq_some.mp hk, hpl⟩
          refine ⟨req, c, failure, body, rfl, hmethod.1, hmethod.2, rfl, fun c' err => ?_⟩
          simp [Plan.calls, sendEvent]

end Events

end PsdkBridge
