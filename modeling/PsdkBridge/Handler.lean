import PsdkBridge.Rpc

/-!
# The command dispatcher

This module follows `core/handler/handler.c`.  A handler runs in a `World`: the
state of the drone control layer, the start instant of the uptime clock, and
the list of observable events so far.  Events are the calls of the functions of
`drone_ctrl.h`, with the value they returned, and the attempts to send a reply
with `udp_server_send`.

Log output is not modelled.
-/

namespace PsdkBridge

/-- `struct sockaddr_in`, as far as it identifies a peer. -/
structure SockaddrIn where
  addr : UInt32
  port : UInt16
deriving DecidableEq

/-- `struct timespec`. -/
structure Timespec where
  tvSec : Int
  tvNsec : Int
deriving DecidableEq

/-- What the outside can observe of the dispatcher. -/
inductive Event where
  /-- A call of a drone function and the error code it returned. -/
  | call (c : DroneCall) (err : DroneError)
  /-- `udp_server_send(g_srv, peer, buf, len)`: `buf` is the NUL-terminated
  text that the reply buffer holds. -/
  | send (peer : SockaddrIn) (buf : Bytes) (len : Nat)
deriving DecidableEq

/-- The state of the daemon between two requests. -/
structure World (σ : Type) where
  ctrl : σ
  gStart : Timespec
  gStarted : Bool
  events : List Event

/-- What one request finds: the libraries, the drone control layer, and the
readings of the monotonic clock. -/
structure Env (σ : Type) where
  platform : Platform
  droneCtrl : DroneCtrl σ
  startClock : Timespec
  nowClock : Timespec

section Handlers

variable {σ : Type}

/-- Record an event. -/
def World.emit (w : World σ) (e : Event) : World σ :=
  { w with events := w.events ++ [e] }

/-- Call a drone function. -/
def callDrone (E : Env σ) (c : DroneCall) (w : World σ) :
    DroneError × c.Out × World σ :=
  let r := E.droneCtrl c w.ctrl
  (r.1.1, r.1.2, { w with ctrl := r.2 }.emit (.call c r.1.1))

/-! ## Uptime -/

/-- `uptime_ms`: the start instant is stored by the first call. -/
def uptimeMs (E : Env σ) (w : World σ) : UInt64 × World σ :=
  let w := if w.gStarted then w else { w with gStart := E.startClock, gStarted := true }
  let sec := E.nowClock.tvSec - w.gStart.tvSec
  let nsec := E.nowClock.tvNsec - w.gStart.tvNsec
  let sec' := if nsec < 0 then sec - 1 else sec
  let nsec' := if nsec < 0 then nsec + 1000000000 else nsec
  (UInt64.ofInt sec' * 1000 + UInt64.ofInt nsec' / 1000000, w)

/-! ## Reply helpers -/

/-- Send what one of the response builders printed. -/
def sendPrinted (peer : SockaddrIn) (p : Printed) (w : World σ) : World σ :=
  if 0 < p.ret then w.emit (.send peer p.stored p.ret.toNat) else w

/-- `send_result`; a NULL `result_json` is `none`. -/
def sendResult (peer : SockaddrIn) (id : Int32) (resultJson : Option Bytes)
    (w : World σ) : World σ :=
  sendPrinted peer (rpcBuildResult droneMaxMsgLen id resultJson) w

/-- `send_error`. -/
def sendError (peer : SockaddrIn) (id : Int32) (msg : String)
    (w : World σ) : World σ :=
  sendPrinted peer (rpcBuildError droneMaxMsgLen id (ascii msg)) w

/-! ## Method handlers -/

/-- `h_system_ping`. -/
def hSystemPing (E : Env σ) (peer : SockaddrIn) (id : Int32)
    (w : World σ) : World σ :=
  let up := uptimeMs E w
  let result := snprintf 128
    (ascii "\x7b\"pong\":true,\"uptime_ms\":" ++ decNat up.1.toNat ++ ascii "\x7d")
  sendResult peer id (some result.stored) up.2

/-- The common shape of the `h_drone_get_*` handlers: the structure that the
drone function filled is printed into a buffer of size `bufSz`. -/
def hDroneGet (E : Env σ) (peer : SockaddrIn) (id : Int32)
    (c : DroneCall) (failure : String) (bufSz : Nat) (print : c.Out → Bytes)
    (w : World σ) : World σ :=
  let r := callDrone E c w
  if r.1 ≠ .ok then sendError peer id failure r.2.2
  else sendResult peer id (some (snprintf bufSz (print r.2.1)).stored) r.2.2

/-- The common ending of the `h_drone_set_*` handlers and of the actions. -/
def hDroneCommand (E : Env σ) (peer : SockaddrIn) (id : Int32)
    (c : DroneCall) (failure : String) (w : World σ) : World σ :=
  let r := callDrone E c w
  if r.1 ≠ .ok then sendError peer id failure r.2.2
  else sendResult peer id none r.2.2

/-- `true` and `false` as the format strings print them. -/
def boolText (b : Bool) : Bytes :=
  if b then ascii "true" else ascii "false"

/-- Format string of `h_drone_get_telemetry`. -/
def printTelemetry (P : Platform) (t : DroneTelemetry) : Bytes :=
  ascii "\x7b\"lat\":" ++ P.fmtFixed 8 t.lat ++
  ascii ",\"lon\":" ++ P.fmtFixed 8 t.lon ++
  ascii ",\"alt_msl_m\":" ++ P.fmtFixed 2 t.altMslM ++
  ascii ",\"alt_rel_m\":" ++ P.fmtFixed 2 t.altRelM ++
  ascii ",\"vx_ms\":" ++ P.fmtFixed 2 t.vxMs ++
  ascii ",\"vy_ms\":" ++ P.fmtFixed 2 t.vyMs ++
  ascii ",\"vz_ms\":" ++ P.fmtFixed 2 t.vzMs ++
  ascii ",\"heading_deg\":" ++ P.fmtFixed 1 t.headingDeg ++
  ascii ",\"battery_pct\":" ++ decNat t.batteryPct.toNat ++
  ascii ",\"battery_mv\":" ++ decNat t.batteryMv.toNat ++
  ascii ",\"gps_sats\":" ++ decNat t.gpsSats.toNat ++
  ascii ",\"gps_fix\":" ++ decNat t.gpsFix.toNat ++
  ascii ",\"flight_status\":" ++ decNat t.flightStatus.toNat ++
  ascii ",\"motors_on\":" ++ boolText t.motorsOn ++ ascii "\x7d"

/-- `h_drone_get_telemetry`. -/
def hDroneGetTelemetry (E : Env σ) (peer : SockaddrIn) (id : Int32) :
    World σ → World σ :=
  hDroneGet E peer id .getTelemetry "failed to read telemetry" 512
    (printTelemetry E.platform)

/-- Format string of `h_drone_get_battery_info`. -/
def printBatteryInfo (b : DroneBatteryInfo) : Bytes :=
  ascii "\x7b\"voltage_mv\":" ++ decNat b.voltageMv.toNat ++
  ascii ",\"current_ma\":" ++ decInt b.currentMa.toInt ++
  ascii ",\"remaining_pct\":" ++ decNat b.remainingPct.toNat ++
  ascii ",\"temperature_dc\":" ++ decInt b.temperatureDc.toInt ++
  ascii ",\"cycle_count\":" ++ decNat b.cycleCount.toNat ++ ascii "\x7d"

/-- `h_drone_get_battery_info`. -/
def hDroneGetBatteryInfo (E : Env σ) (peer : SockaddrIn) (id : Int32) :
    World σ → World σ :=
  hDroneGet E peer id .getBatteryInfo "failed to read battery info" 256
    printBatteryInfo

/-- Format string of `h_drone_get_gimbal_angle`. -/
def printGimbalAngle (P : Platform) (g : DroneGimbalAngle) : Bytes :=
  ascii "\x7b\"pitch\":" ++ P.fmtFixed 2 g.pitch ++
  ascii ",\"roll\":" ++ P.fmtFixed 2 g.roll ++
  ascii ",\"yaw\":" ++ P.fmtFixed 2 g.yaw ++ ascii "\x7d"

/-- `h_drone_get_gimbal_angle`. -/
def hDroneGetGimbalAngle (E : Env σ) (peer : SockaddrIn) (id : Int32) :
    World σ → World σ :=
  hDroneGet E peer id .getGimbalAngle "failed to read gimbal angle" 128
    (printGimbalAngle E.platform)

/-- Format string of `h_drone_get_camera_state`. -/
def printCameraState (P : Platform) (c : DroneCameraState) : Bytes :=
  ascii "\x7b\"mode\":" ++ decInt c.mode.toInt.toInt ++
  ascii ",\"is_recording\":" ++ boolText c.isRecording ++
  ascii ",\"zoom_factor\":" ++ P.fmtFixed 2 c.zoomFactor ++ ascii "\x7d"

/-- `h_drone_get_camera_state`. -/
def hDroneGetCameraState (E : Env σ) (peer : SockaddrIn) (id : Int32) :
    World σ → World σ :=
  hDroneGet E peer id .getCameraState "failed to read camera state" 128
    (printCameraState E.platform)

/-- Format string of `h_drone_get_rtk_status`. -/
def printRtkStatus (P : Platform) (r : DroneRtkStatus) : Bytes :=
  ascii "\x7b\"enabled\":" ++ boolText r.enabled ++
  ascii ",\"fix_type\":" ++ decNat r.fixType.toNat ++
  ascii ",\"satellites\":" ++ decNat r.satellites.toNat ++
  ascii ",\"lat\":" ++ P.fmtFixed 8 r.lat ++
  ascii ",\"lon\":" ++ P.fmtFixed 8 r.lon ++
  ascii ",\"alt_m\":" ++ P.fmtFixed 2 r.altM ++ ascii "\x7d"

/-- `h_drone_get_rtk_status`. -/
def hDroneGetRtkStatus (E : Env σ) (peer : SockaddrIn) (id : Int32) :
    World σ → World σ :=
  hDroneGet E peer id .getRtkStatus "failed to read RTK status" 256
    (printRtkStatus E.platform)

/-- `KMZ_BASE_DIR`. -/
def kmzBaseDir : Bytes :=
  ascii "/home/orangepi/PSDK/kmz_data"

/-- The path that `h_drone_upload_kmz` hands to `drone_upload_kmz`. -/
def kmzPath (name : Bytes) : Bytes :=
  (snprintf pathMax (kmzBaseDir ++ ascii "/" ++ name)).stored

/-- The result text of `h_drone_upload_kmz`. -/
def kmzResult (name path : Bytes) : Bytes :=
  (snprintf (pathMax + 64)
    (ascii "\x7b\"uploaded\":true,\"file\":\"" ++ name ++
      ascii "\",\"path\":\"" ++ path ++ ascii "\"\x7d")).stored

/-- `h_drone_upload_kmz`. -/
def hDroneUploadKmz (E : Env σ) (peer : SockaddrIn) (id : Int32)
    (params : Json) (w : World σ) : World σ :=
  match rpcParamStr E.platform params (ascii "file") with
  | none => sendError peer id "missing param: file" w
  | some name =>
      if name = [] then sendError peer id "missing param: file" w
      else if strstr name (ascii "..") || strchr name 47 then
        sendError peer id "invalid file name" w
      else
        let path := kmzPath name
        let r := callDrone E (.uploadKmz path) w
        if r.1 ≠ .ok then sendError peer id "kmz upload failed" r.2.2
        else sendResult peer id (some (kmzResult name path)) r.2.2

/-- `h_drone_set_rth_altitude`. -/
def hDroneSetRthAltitude (E : Env σ) (peer : SockaddrIn) (id : Int32)
    (params : Json) (w : World σ) : World σ :=
  let altM := binary32.convert
    (rpcParamDouble E.platform params (ascii "altitude_m") (.fin (-1)))
  if altM.lt (.fin 0) then sendError peer id "missing param: altitude_m" w
  else
    hDroneCommand E peer id (.setRthAltitude altM) "PSDK set rth altitude failed" w

/-- `h_drone_set_gimbal_angle`. -/
def hDroneSetGimbalAngle (E : Env σ) (peer : SockaddrIn) (id : Int32)
    (params : Json) (w : World σ) : World σ :=
  let a : DroneGimbalAngle := {
    pitch := binary32.convert
      (rpcParamDouble E.platform params (ascii "pitch") (.fin 0))
    roll := binary32.convert
      (rpcParamDouble E.platform params (ascii "roll") (.fin 0))
    yaw := binary32.convert
      (rpcParamDouble E.platform params (ascii "yaw") (.fin 0)) }
  hDroneCommand E peer id (.setGimbalAngle a) "PSDK set gimbal angle failed" w

/-- `h_drone_set_camera_mode`. -/
def hDroneSetCameraMode (E : Env σ) (peer : SockaddrIn) (id : Int32)
    (params : Json) (w : World σ) : World σ :=
  let mode := rpcParamInt E.platform params (ascii "mode") (-1)
  if mode < 0 then
    sendError peer id "missing param: mode (0=photo, 1=video)" w
  else
    hDroneCommand E peer id (.setCameraMode (.ofInt mode))
      "PSDK set camera mode failed" w

/-- `h_drone_set_camera_zoom`. -/
def hDroneSetCameraZoom (E : Env σ) (peer : SockaddrIn) (id : Int32)
    (params : Json) (w : World σ) : World σ :=
  let zoom := binary32.convert
    (rpcParamDouble E.platform params (ascii "zoom_factor") (.fin (-1)))
  if zoom.lt (.fin 1) then
    sendError peer id "missing or invalid param: zoom_factor (>= 1.0)" w
  else
    hDroneCommand E peer id (.setCameraZoom zoom) "PSDK set camera zoom failed" w

/-- `h_drone_set_home_location`. -/
def hDroneSetHomeLocation (E : Env σ) (peer : SockaddrIn) (id : Int32)
    (params : Json) (w : World σ) : World σ :=
  let loc : DroneHomeLocation := {
    lat := rpcParamDouble E.platform params (ascii "lat") (.fin 999)
    lon := rpcParamDouble E.platform params (ascii "lon") (.fin 999)
    altM := binary32.convert
      (rpcParamDouble E.platform params (ascii "alt_m") (.fin 0)) }
  if loc.lat.gt (.fin 90) || loc.lat.lt (.fin (-90)) ||
      loc.lon.gt (.fin 180) || loc.lon.lt (.fin (-180)) then
    sendError peer id "missing or invalid params: lat, lon" w
  else
    hDroneCommand E peer id (.setHomeLocation loc)
      "PSDK set home location failed" w

/-- `h_drone_set_obstacle_avoidance`. -/
def hDroneSetObstacleAvoidance (E : Env σ) (peer : SockaddrIn) (id : Int32)
    (params : Json) (w : World σ) : World σ :=
  let mode := rpcParamInt E.platform params (ascii "mode") (-1)
  if mode < 0 then
    sendError peer id "missing param: mode (0=off, 1=on, 2=brake)" w
  else
    hDroneCommand E peer id (.setObstacleAvoidance (.ofInt mode))
      "PSDK set obstacle avoidance failed" w

/-- `h_drone_shoot_photo`. -/
def hDroneShootPhoto (E : Env σ) (peer : SockaddrIn) (id : Int32) :
    World σ → World σ :=
  hDroneCommand E peer id .shootPhoto "PSDK shoot photo failed"

/-- `h_drone_start_recording`. -/
def hDroneStartRecording (E : Env σ) (peer : SockaddrIn) (id : Int32) :
    World σ → World σ :=
  hDroneCommand E peer id .startRecording "PSDK start recording failed"

/-- `h_drone_stop_recording`. -/
def hDroneStopRecording (E : Env σ) (peer : SockaddrIn) (id : Int32) :
    World σ → World σ :=
  hDroneCommand E peer id .stopRecording "PSDK stop recording failed"

/-! ## Main dispatch -/

/-- The dispatch on the method name in `handle_rpc`. -/
def dispatch (E : Env σ) (peer : SockaddrIn) (req : RpcRequest)
    (w : World σ) : World σ :=
  let m := req.method
  let id := req.id
  let p := req.params
  if m = ascii "system.ping" then hSystemPing E peer id w
  else if m = ascii "drone.get_telemetry" then hDroneGetTelemetry E peer id w
  else if m = ascii "drone.get_battery_info" then hDroneGetBatteryInfo E peer id w
  else if m = ascii "drone.get_gimbal_angle" then hDroneGetGimbalAngle E peer id w
  else if m = ascii "drone.get_camera_state" then hDroneGetCameraState E peer id w
  else if m = ascii "drone.get_rtk_status" then hDroneGetRtkStatus E peer id w
  else if m = ascii "drone.upload_kmz" then hDroneUploadKmz E peer id p w
  else if m = ascii "drone.set_rth_altitude" then hDroneSetRthAltitude E peer id p w
  else if m = ascii "drone.set_gimbal_angle" then hDroneSetGimbalAngle E peer id p w
  else if m = ascii "drone.set_camera_mode" then hDroneSetCameraMode E peer id p w
  else if m = ascii "drone.set_camera_zoom" then hDroneSetCameraZoom E peer id p w
  else if m = ascii "drone.set_home_location" then hDroneSetHomeLocation E peer id p w
  else if m = ascii "drone.set_obstacle_avoidance" then
    hDroneSetObstacleAvoidance E peer id p w
  else if m = ascii "drone.shoot_photo" then hDroneShootPhoto E peer id w
  else if m = ascii "drone.start_recording" then hDroneStartRecording E peer id w
  else if m = ascii "drone.stop_recording" then hDroneStopRecording E peer id w
  else sendError peer id "method not found" w

/-- `handle_rpc`. -/
def handleRpc (E : Env σ) (peer : SockaddrIn) (line : Bytes) (w : World σ) :
    World σ :=
  match rpcParse E.platform line with
  | none => w
  | some req => dispatch E peer req w

end Handlers

end PsdkBridge
