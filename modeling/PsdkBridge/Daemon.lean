import PsdkBridge.Datagrams
import PsdkBridge.RealCalls
import PsdkBridge.WaypointModule

/-!
# Startup and shutdown of the daemon

This module follows `app/main.c` behind the parsing of its options, with
`bsp/psdk_init.c`, `psdk_hal_register` and the creation of the UDP socket, in the
real build.  The SDK and the system may answer anything; a round of the poll loop
finds a datagram or none, and samples of the subscription may have arrived
before it.

`mainAfterOptions_life` lists what a run can do to the four modules of the SDK
that are initialised and deinitialised, and `cleanedUp_iff` says exactly which
return codes leave one of them in the wrong state.
-/

namespace PsdkBridge
namespace Real

/-- The calls of the daemon: those of the drone control layer and those of
startup and shutdown. -/
inductive DaemonCall where
  | sys (c : SysCall)
  | regOsalHandler
  | regHalUartHandler
  | addConsole
  | regHalNetworkHandler
  | regSocketHandler
  | regFileSystemHandler
  | coreInit
  | coreSetAlias
  | coreSetFirmwareVersion
  | coreSetSerialNumber
  | coreApplicationStart
  | coreDeInit
  | calloc
  | socket
  | setsockopt (fd : Int)
  | inetPton (bindIp : Bytes)
  | bind (fd : Int) (bindIp : Bytes) (port : UInt16)
  | close (fd : Int)
  | free

/-- What a call answers.  The pointer of `calloc` is only tested for NULL. -/
@[reducible] def DaemonCall.Out : DaemonCall → Type
  | .sys c => c.Out
  | .calloc => Bool
  | .socket => Int
  | .setsockopt _ => Int
  | .inetPton _ => Int
  | .bind _ _ _ => Int
  | .close _ => Unit
  | .free => Unit
  | _ => ReturnCode

/-- A call of the drone control layer as a call of the daemon. -/
def sysEvent (e : CallEvent SysCall.Out) : CallEvent DaemonCall.Out :=
  ⟨.sys e.call, e.answer⟩

/-- The variables of the daemon: those of the drone control layer and of the
handlers, what the handlers sent, and the buffer of the server. -/
structure DaemonVars where
  real : RealVars
  gStart : Timespec
  gStarted : Bool
  events : List Event
  srv : UdpServer

/-- A function of the daemon. -/
abbrev DaemonM (τ α : Type) := Program DaemonCall.Out τ DaemonVars α

/-- The daemon at its start. -/
def atStart {τ : Type} (outside : τ) : Machine DaemonCall.Out τ DaemonVars where
  outside := outside
  vars := {
    real := { cache := emptyCache, waypointV3Inited := false }
    gStart := { tvSec := 0, tvNsec := 0 }
    gStarted := false
    events := []
    srv := udpServerCreate }
  trace := []

/-- What one round of the poll loop finds: the samples that arrived before it,
the datagram if there is one, and the readings of the clock. -/
structure Round where
  samples : Deliveries
  rx : Option (SockaddrIn × Bytes)
  startClock : Timespec
  nowClock : Timespec

section Functions

variable {τ : Type} (P : Platform) (L : Libm) (sizeof : Sizes)
  (S : Outside DaemonCall.Out τ)

/-- The outside as the drone control layer sees it. -/
def sysOutside : Outside SysCall.Out τ :=
  fun c => S (.sys c)

/-- Run a function of the drone control layer. -/
def inCtrl {α : Type} (x : RealM τ α) : DaemonM τ α :=
  within sysEvent DaemonVars.real (fun real v => { v with real := real }) x

/-! ## Startup -/

/-- `psdk_hal_register`, for a UART and a network device; `false` is the return
value `-1`. -/
def psdkHalRegister : DaemonM τ Bool := do
  let rc : ReturnCode ← callOut S .regOsalHandler
  if rc ≠ success then
    return false
  else
    let rc : ReturnCode ← callOut S .regHalUartHandler
    if rc ≠ success then
      return false
    else
      -- a console that is refused is only logged
      let _ ← callOut S .addConsole
      let rc : ReturnCode ← callOut S .regHalNetworkHandler
      if rc ≠ success then
        return false
      else
        let rc : ReturnCode ← callOut S .regSocketHandler
        if rc ≠ success then
          return false
        else
          let rc : ReturnCode ← callOut S .regFileSystemHandler
          if rc ≠ success then
            return false
          else
            return true

/-- `psdk_init`; `false` is the return value `-1`. -/
def psdkInit : DaemonM τ Bool := do
  let registered ← psdkHalRegister S
  if !registered then
    return false
  else
    let rc : ReturnCode ← callOut S .coreInit
    if rc ≠ success then
      return false
    else
      -- the metadata is optional
      let _ ← callOut S .coreSetAlias
      let _ ← callOut S .coreSetFirmwareVersion
      let _ ← callOut S .coreSetSerialNumber
      let rc : ReturnCode ← callOut S .coreApplicationStart
      if rc ≠ success then
        return false
      else
        return true

/-- `psdk_deinit`. -/
def psdkDeinit : DaemonM τ Unit := do
  let _ ← callOut S .coreDeInit

/-- The end of a failed `udp_server_create`. -/
def abandonServer (fd : Int) : DaemonM τ (Option Int) := do
  let _ ← callOut S (.close fd)
  let _ ← callOut S .free
  return none

/-- The part of `udp_server_create` behind the choice of the address. -/
def bindServer (fd : Int) (bindIp : Bytes) (port : UInt16) : DaemonM τ (Option Int) := do
  let rc : Int ← callOut S (.bind fd bindIp port)
  if rc < 0 then
    abandonServer S fd
  else
    modifyVars (fun v => { v with srv := udpServerCreate })
    return some fd

/-- `udp_server_create`; the result is the socket, and `none` is NULL. -/
def udpServerOpen (bindIp : Bytes) (port : UInt16) : DaemonM τ (Option Int) := do
  let srv : Bool ← callOut S .calloc
  if !srv then
    return none
  else
    let fd : Int ← callOut S .socket
    if fd < 0 then
      let _ ← callOut S .free
      return none
    else
      let _ ← callOut S (.setsockopt fd)
      if bindIp = [] ∨ bindIp = ascii "0.0.0.0" then
        bindServer S fd bindIp port
      else
        let rc : Int ← callOut S (.inetPton bindIp)
        if rc ≠ 1 then
          abandonServer S fd
        else
          bindServer S fd bindIp port

/-! ## The poll loop -/

/-- Run a function of the handlers on the variables of the daemon. -/
def onWorld {α : Type} (f : World (RealState τ) → α × World (RealState τ)) :
    DaemonM τ α :=
  fun m =>
    let r := f {
      ctrl := { outside := m.outside, vars := m.vars.real, trace := [] }
      gStart := m.vars.gStart
      gStarted := m.vars.gStarted
      events := m.vars.events }
    (r.1, {
      outside := r.2.ctrl.outside
      vars := {
        real := r.2.ctrl.vars
        gStart := r.2.gStart
        gStarted := r.2.gStarted
        events := r.2.events
        srv := m.vars.srv }
      trace := m.trace ++ r.2.ctrl.trace.map sysEvent })

/-- The environment of the handlers in a round. -/
def roundEnv (r : Round) : Env (RealState τ) where
  platform := P
  droneCtrl := realCtrl L (sysOutside S)
  startClock := r.startClock
  nowClock := r.nowClock

/-- The samples that arrive before a round. -/
def receiveSamples (ds : Deliveries) (v : DaemonVars) : DaemonVars :=
  { v with
    real := { v.real with
      cache := ds.foldl (fun c d => callback sizeof d.1 d.2 c) v.real.cache } }

/-- `udp_server_poll` with `handle_rpc` as its callback. -/
def pollRound (r : Round) : DaemonM τ Unit := do
  modifyVars (receiveSamples sizeof r.samples)
  let vars ← readVars
  let srv ← onWorld (udpServerPoll
    (fun peer buf _ w => handleRpc (roundEnv P L S r) peer buf w) vars.srv r.rx)
  modifyVars (fun v => { v with srv := srv })

/-! ## The whole daemon -/

/-- `udp_server_destroy`. -/
def udpServerDestroy (fd : Int) : DaemonM τ Unit := do
  let _ ← callOut S (.close fd)
  let _ ← callOut S .free

/-- `main` behind the parsing of its options.  The rounds are those before the
signal; the result is the exit code. -/
def mainAfterOptions (bindIp : Bytes) (port : UInt16) (rounds : List Round) :
    DaemonM τ Nat := do
  let started ← psdkInit S
  if !started then
    return 2
  else
    let ctrl ← inCtrl (droneCtrlInit (sysOutside S))
    if !ctrl then
      psdkDeinit S
      return 3
    else
      let srv ← udpServerOpen S bindIp port
      match srv with
      | none =>
          inCtrl (droneCtrlDeinit (sysOutside S))
          psdkDeinit S
          return 4
      | some fd =>
          for r in rounds do
            pollRound P L sizeof S r
          udpServerDestroy S fd
          inCtrl (droneCtrlDeinit (sysOutside S))
          psdkDeinit S
          return 0

end Functions

/-! ## The modules of the SDK -/

/-- The modules that are initialised and deinitialised. -/
inductive SdkModule where
  | core
  | subscription
  | camera
  | gimbal
deriving DecidableEq

instance : Fintype SdkModule where
  elems := {.core, .subscription, .camera, .gimbal}
  complete := by
    intro X
    cases X <;> decide

/-- What happens to them; `start` is the start of the application. -/
inductive LifeEvent where
  | init (X : SdkModule) (ok : Bool)
  | start (ok : Bool)
  | deInit (X : SdkModule)
deriving DecidableEq

/-- What a call does to the modules. -/
def lifeOf : CallEvent DaemonCall.Out → Option LifeEvent
  | ⟨.coreInit, (rc : ReturnCode)⟩ => some (.init .core (decide (rc = success)))
  | ⟨.coreApplicationStart, (rc : ReturnCode)⟩ => some (.start (decide (rc = success)))
  | ⟨.coreDeInit, _⟩ => some (.deInit .core)
  | ⟨.sys .fcSubscriptionInit, (rc : ReturnCode)⟩ =>
      some (.init .subscription (decide (rc = success)))
  | ⟨.sys .fcSubscriptionDeInit, _⟩ => some (.deInit .subscription)
  | ⟨.sys .cameraManagerInit, (rc : ReturnCode)⟩ =>
      some (.init .camera (decide (rc = success)))
  | ⟨.sys .cameraManagerDeInit, _⟩ => some (.deInit .camera)
  | ⟨.sys .gimbalManagerInit, (rc : ReturnCode)⟩ =>
      some (.init .gimbal (decide (rc = success)))
  | ⟨.sys .gimbalManagerDeinit, _⟩ => some (.deInit .gimbal)
  | _ => none

/-- A module is deinitialised once if its `Init` succeeded, and not otherwise. -/
def CleanedUp (tr : List (CallEvent DaemonCall.Out)) : Prop :=
  ∀ X : SdkModule,
    (.init X true ∈ tr.filterMap lifeOf →
      (tr.filterMap lifeOf).count (.deInit X) = 1) ∧
    (.init X true ∉ tr.filterMap lifeOf →
      (tr.filterMap lifeOf).count (.deInit X) = 0)

/-- The start of the application or the `Init` of the camera or the gimbal
manager failed. -/
def LifeEvent.Uncleaned (e : LifeEvent) : Prop :=
  e = .start false ∨ e = .init .camera false ∨ e = .init .gimbal false

instance : DecidablePred LifeEvent.Uncleaned := fun e =>
  inferInstanceAs (Decidable (e = .start false ∨ e = .init .camera false ∨
    e = .init .gimbal false))

section Life

variable {τ : Type} (P : Platform) (L : Libm) (sizeof : Sizes)
  (S : Outside DaemonCall.Out τ)

theorem silent_psdkHalRegister :
    Silent lifeOf (psdkHalRegister S) := by
  unfold psdkHalRegister
  refine views_skip S (fun _ => rfl) (fun rc => ?_)
  refine views_ite (fun _ => silent_pure _) (fun _ => ?_)
  refine views_skip S (fun _ => rfl) (fun rc => ?_)
  refine views_ite (fun _ => silent_pure _) (fun _ => ?_)
  refine views_skip S (fun _ => rfl) (fun _ => ?_)
  refine views_skip S (fun _ => rfl) (fun rc => ?_)
  refine views_ite (fun _ => silent_pure _) (fun _ => ?_)
  refine views_skip S (fun _ => rfl) (fun rc => ?_)
  refine views_ite (fun _ => silent_pure _) (fun _ => ?_)
  refine views_skip S (fun _ => rfl) (fun rc => ?_)
  exact views_ite (fun _ => silent_pure _) (fun _ => silent_pure _)

/-- What `psdk_init` can do. -/
theorem views_psdkInit :
    Views lifeOf (psdkInit S) (fun ok l =>
      (ok = false ∧ l = []) ∨
      (ok = false ∧ l = [.init .core false]) ∨
      l = [.init .core true, .start ok]) := by
  unfold psdkInit
  refine views_silent_bind (silent_psdkHalRegister S) (fun registered => ?_)
  refine views_ite (fun _ => views_pure (Or.inl ⟨rfl, rfl⟩)) (fun _ => ?_)
  refine views_call S (fun rc => ?_)
  refine views_ite (fun hrc => views_pure ?_) (fun hrc => ?_)
  · exact Or.inr (Or.inl ⟨rfl, by simp [lifeOf, hrc]⟩)
  have hrc : rc = success := not_not.mp hrc
  refine views_skip S (fun _ => rfl) (fun _ => ?_)
  refine views_skip S (fun _ => rfl) (fun _ => ?_)
  refine views_skip S (fun _ => rfl) (fun _ => ?_)
  refine views_call S (fun rc' => ?_)
  refine views_ite (fun hrc' => views_pure ?_) (fun hrc' => views_pure ?_)
  · exact Or.inr (Or.inr (by simp [lifeOf, hrc, hrc']))
  · exact Or.inr (Or.inr (by simp [lifeOf, hrc, not_not.mp hrc']))

theorem views_psdkDeinit :
    Views lifeOf (psdkDeinit S) (fun _ l => l = [.deInit .core]) :=
  views_call S (fun _ => views_pure rfl)

/-- What a call of the drone control layer does to the modules. -/
def sysLife (e : CallEvent SysCall.Out) : Option LifeEvent :=
  lifeOf (sysEvent e)

/-- What `drone_ctrl_init` can do. -/
theorem views_droneCtrlInit
    (S : Outside SysCall.Out τ) :
    Views sysLife (droneCtrlInit S) (fun ok l =>
      (ok = false ∧ l = [.init .subscription false]) ∨
      (ok = true ∧ ∃ camera gimbal,
        l = [.init .subscription true, .init .camera camera, .init .gimbal gimbal])) := by
  unfold droneCtrlInit
  refine views_call S (fun rc => ?_)
  refine views_ite (fun hrc => views_pure ?_) (fun hrc => ?_)
  · exact Or.inl ⟨rfl, by simp [sysLife, sysEvent, lifeOf, hrc]⟩
  have hrc : rc = success := not_not.mp hrc
  refine views_silent_bind ?_ (fun _ => ?_)
  · refine silent_forIn (fun t _ => ?_) subscribedTopics PUnit.unit
    exact views_skip S (fun _ => rfl) (fun _ => silent_pure _)
  refine views_call S (fun camera => views_call S (fun gimbal => views_pure ?_))
  exact Or.inr ⟨rfl, decide (camera = success), decide (gimbal = success),
    by simp [sysLife, sysEvent, lifeOf, hrc]⟩

/-- The end of `drone_ctrl_deinit`. -/
theorem views_managers_deinit
    (S : Outside SysCall.Out τ) :
    Views sysLife
      (do
        let _ ← callOut S .gimbalManagerDeinit
        let _ ← callOut S .cameraManagerDeInit
        let _ ← callOut S .fcSubscriptionDeInit : RealM τ Unit)
      (fun _ l => l = [.deInit .gimbal, .deInit .camera, .deInit .subscription]) :=
  views_call S (fun _ => views_call S (fun _ => views_call S (fun _ => views_pure rfl)))

/-- What `drone_ctrl_deinit` does. -/
theorem views_droneCtrlDeinit
    (S : Outside SysCall.Out τ) :
    Views sysLife (droneCtrlDeinit S) (fun _ l =>
      l = [.deInit .gimbal, .deInit .camera, .deInit .subscription]) := by
  unfold droneCtrlDeinit
  refine views_silent_bind silent_readVars (fun vars => ?_)
  refine views_ite (fun _ => ?_) (fun _ => ?_)
  · refine views_skip S (fun _ => rfl) (fun _ => ?_)
    refine views_silent_bind (silent_modifyVars _) (fun _ => ?_)
    exact views_managers_deinit S
  · exact views_managers_deinit S

theorem silent_abandonServer
    (fd : Int) :
    Silent lifeOf (abandonServer S fd) := by
  unfold abandonServer
  refine views_skip S (fun _ => rfl) (fun _ => ?_)
  exact views_skip S (fun _ => rfl) (fun _ => silent_pure _)

theorem silent_bindServer
    (fd : Int) (bindIp : Bytes) (port : UInt16) :
    Silent lifeOf (bindServer S fd bindIp port) := by
  unfold bindServer
  refine views_skip S (fun _ => rfl) (fun rc => ?_)
  refine views_ite (fun _ => silent_abandonServer S fd) (fun _ => ?_)
  exact views_silent_bind (silent_modifyVars _) (fun _ => silent_pure _)

theorem silent_udpServerOpen
    (bindIp : Bytes) (port : UInt16) :
    Silent lifeOf (udpServerOpen S bindIp port) := by
  unfold udpServerOpen
  refine views_skip S (fun _ => rfl) (fun srv => ?_)
  refine views_ite (fun _ => silent_pure _) (fun _ => ?_)
  refine views_skip S (fun _ => rfl) (fun fd => ?_)
  refine views_ite (fun _ => ?_) (fun _ => ?_)
  · exact views_skip S (fun _ => rfl) (fun _ => silent_pure _)
  refine views_skip S (fun _ => rfl) (fun _ => ?_)
  refine views_ite (fun _ => silent_bindServer S fd bindIp port) (fun _ => ?_)
  refine views_skip S (fun _ => rfl) (fun rc => ?_)
  exact views_ite (fun _ => silent_abandonServer S fd)
    (fun _ => silent_bindServer S fd bindIp port)

theorem silent_udpServerDestroy
    (fd : Int) :
    Silent lifeOf (udpServerDestroy S fd) := by
  unfold udpServerDestroy
  refine views_skip S (fun _ => rfl) (fun _ => ?_)
  exact views_skip S (fun _ => rfl) (fun _ => silent_pure _)

/-! ## The poll loop leaves the modules alone -/

theorem sysLife_of_mayCall
    {c : DroneCall} {e : CallEvent SysCall.Out}
    (h : MayCall L c e.call) :
    sysLife e = none := by
  obtain ⟨s, a⟩ := e
  cases c with
  | getTelemetry | getBatteryInfo | setRthAltitude | setHomeLocation | shootPhoto
  | startRecording | stopRecording =>
      cases h
      rfl
  | getGimbalAngle | getRtkStatus =>
      exact h.elim
  | getCameraState =>
      rcases h with h | h | h <;> cases h <;> rfl
  | setGimbalAngle =>
      obtain ⟨_, _, _, _, h⟩ := h
      cases h
      rfl
  | setCameraMode =>
      obtain ⟨_, h⟩ := h
      cases h
      rfl
  | setCameraZoom =>
      obtain ⟨_, _, h⟩ := h
      cases h
      rfl
  | setObstacleAvoidance =>
      obtain ⟨_, h | h⟩ := h <;> cases h <;> rfl
  | uploadKmz =>
      rcases h with h | h
      · cases s with
        | waypointV3Init | waypointV3RegMissionStateCallback
        | waypointV3RegActionStateCallback =>
            rfl
        | _ =>
            exact h.elim
      · cases s with
        | fopen | fseekEnd | ftell | fseekSet | getOsalHandler | osalMalloc | fread | fclose
        | osalFree | waypointV3UploadKmzFile =>
            rfl
        | _ =>
            exact h.elim

/-- No function of the drone control layer touches the modules. -/
theorem silent_realCtrl
    (S : Outside SysCall.Out τ) (c : DroneCall) :
    Silent sysLife (realCtrl L S c : RealM τ (DroneError × c.Out)) :=
  silent_of_issues (issues_realCtrl L S c) (fun _ h => sysLife_of_mayCall L h)

/-- The handlers leave the modules alone. -/
theorem udpServerPoll_sysLife
    (E : Env (RealState τ))
    (hE : ∀ c : DroneCall,
      Silent sysLife (E.droneCtrl c : RealM τ (DroneError × c.Out)))
    (srv : UdpServer) (rx : Option (SockaddrIn × Bytes)) (w : World (RealState τ)) :
    (udpServerPoll (fun peer buf _ w => handleRpc E peer buf w) srv rx w).2.ctrl.trace.filterMap
      sysLife = w.ctrl.trace.filterMap sysLife := by
  have hline : ∀ peer line, (handleRpc E peer line w).ctrl.trace.filterMap sysLife =
      w.ctrl.trace.filterMap sysLife := by
    intro peer line
    rcases handleRpc_calls E peer line w with
      ⟨h, _⟩ | ⟨_, c, _, _, _, _, _, h, _⟩
    · rw [h]
    · obtain ⟨l, hl, rfl⟩ := hE c w.ctrl
      rw [h]
      simpa using hl
  unfold udpServerPoll
  cases rx with
  | none =>
      rfl
  | some p =>
      simp only
      split_ifs
      · rfl
      · rfl
      · exact hline p.1 _

theorem silent_pollRound
    (r : Round) :
    Silent lifeOf (pollRound P L sizeof S r) := by
  unfold pollRound
  refine views_silent_bind (silent_modifyVars _) (fun _ => ?_)
  refine views_silent_bind silent_readVars (fun vars => ?_)
  refine views_silent_bind ?_ (fun srv => silent_modifyVars _)
  intro m
  refine ⟨[], ?_, rfl⟩
  have hpoll := udpServerPoll_sysLife (roundEnv P L S r)
    (silent_realCtrl L (sysOutside S)) vars.srv r.rx {
      ctrl := { outside := m.outside, vars := m.vars.real, trace := [] }
      gStart := m.vars.gStart
      gStarted := m.vars.gStarted
      events := m.vars.events }
  simp only [List.filterMap_nil] at hpoll
  simp only [onWorld, List.filterMap_append, List.filterMap_map]
  exact congrArg _ hpoll

/-! ## Whole runs -/

/-- What a run of the daemon can do to the modules. -/
inductive LifeRun : List LifeEvent → Prop where
  | unregistered : LifeRun []
  | noCore : LifeRun [.init .core false]
  | notStarted : LifeRun [.init .core true, .start false]
  | noSubscription :
      LifeRun [.init .core true, .start true, .init .subscription false, .deInit .core]
  | complete (camera gimbal : Bool) :
      LifeRun [.init .core true, .start true, .init .subscription true,
        .init .camera camera, .init .gimbal gimbal, .deInit .gimbal, .deInit .camera,
        .deInit .subscription, .deInit .core]

/-- The shutdown that both the failure of the server and the signal lead to. -/
theorem views_shutdown
    {α : Type} (a : α) :
    Views lifeOf
      (do
        inCtrl (droneCtrlDeinit (sysOutside S))
        psdkDeinit S
        return a)
      (fun _ l => l = [.deInit .gimbal, .deInit .camera, .deInit .subscription,
        .deInit .core]) := by
  refine views_bind (views_within _ _ (views_droneCtrlDeinit (sysOutside S)))
    (fun _ l hl => ?_)
  subst hl
  refine views_bind (views_psdkDeinit S) (fun _ l hl => ?_)
  subst hl
  exact views_pure rfl

/-- The lives of the modules in a run of the daemon. -/
theorem mainAfterOptions_life
    (bindIp : Bytes) (port : UInt16) (rounds : List Round) :
    Views lifeOf (mainAfterOptions P L sizeof S bindIp port rounds)
      (fun _ l => LifeRun l) := by
  unfold mainAfterOptions
  refine views_bind (views_psdkInit S) (fun started l hl => ?_)
  cases started with
  | false =>
      refine views_pure ?_
      rcases hl with ⟨_, rfl⟩ | ⟨_, rfl⟩ | rfl
      · exact .unregistered
      · exact .noCore
      · exact .notStarted
  | true =>
      have hl : l = [.init .core true, .start true] := by simpa using hl
      subst hl
      refine views_bind (views_within _ _ (views_droneCtrlInit (sysOutside S)))
        (fun ctrl l hl => ?_)
      rcases hl with ⟨rfl, rfl⟩ | ⟨rfl, camera, gimbal, rfl⟩
      · refine views_bind (views_psdkDeinit S) (fun _ l hl => ?_)
        subst hl
        exact views_pure .noSubscription
      · refine views_silent_bind (silent_udpServerOpen S bindIp port) (fun srv => ?_)
        cases srv with
        | none =>
            refine views_mono (views_shutdown S 4) (fun _ l hl => ?_)
            subst hl
            exact .complete camera gimbal
        | some fd =>
            refine views_silent_bind ?_ (fun _ => ?_)
            · refine silent_forIn (fun r _ => ?_) rounds PUnit.unit
              exact views_silent_bind (silent_pollRound P L sizeof S r)
                (fun _ => silent_pure _)
            refine views_silent_bind (silent_udpServerDestroy S fd) (fun _ => ?_)
            refine views_mono (views_shutdown S 0) (fun _ l hl => ?_)
            subst hl
            exact .complete camera gimbal

/-- The record of a run of the daemon. -/
def daemonTrace (bindIp : Bytes) (port : UInt16) (rounds : List Round) (outside : τ) :
    List (CallEvent DaemonCall.Out) :=
  (mainAfterOptions P L sizeof S bindIp port rounds (atStart outside)).2.trace

/-- **Cleanup on every path.**  Whatever the SDK and the system answer and
whatever the rounds bring, each module is deinitialised exactly if its `Init`
succeeded, unless the start of the application or the `Init` of the camera or the
gimbal manager fails. -/
theorem cleanedUp_iff
    (bindIp : Bytes) (port : UInt16) (rounds : List Round) (outside : τ) :
    CleanedUp (daemonTrace P L sizeof S bindIp port rounds outside) ↔
      ∀ e ∈ (daemonTrace P L sizeof S bindIp port rounds outside).filterMap lifeOf,
        ¬ e.Uncleaned := by
  obtain ⟨l, hl, hrun⟩ := mainAfterOptions_life P L sizeof S bindIp port rounds
    (atStart outside)
  have hview : (daemonTrace P L sizeof S bindIp port rounds outside).filterMap lifeOf = l :=
    hl
  unfold CleanedUp
  rw [hview]
  cases hrun with
  | unregistered | noCore | notStarted | noSubscription =>
      decide
  | complete camera gimbal =>
      cases camera <;> cases gimbal <;> decide

end Life

/-- An outside that accepts everything, except that the start of the application
returns `start` and the `Init` of the camera manager returns `camera`. -/
def startupAnswer (start camera : ReturnCode) : (c : DaemonCall) → c.Out
  | .sys .cameraManagerInit => camera
  | .sys c => steadyAnswer success c
  | .coreApplicationStart => start
  | .calloc => true
  | .socket => (3 : Int)
  | .setsockopt _ => (0 : Int)
  | .inetPton _ => (1 : Int)
  | .bind _ _ _ => (0 : Int)
  | .close _ | .free => ()
  | .regOsalHandler | .regHalUartHandler | .addConsole | .regHalNetworkHandler
  | .regSocketHandler | .regFileSystemHandler | .coreInit | .coreSetAlias
  | .coreSetFirmwareVersion | .coreSetSerialNumber | .coreDeInit => success

/-- The record of a run without rounds under these answers. -/
def startupTrace (start camera : ReturnCode) : List (CallEvent DaemonCall.Out) :=
  daemonTrace gnuPlatform flatLibm plainSizes
    (fun c (_ : Unit) => (startupAnswer start camera c, ())) (ascii "0.0.0.0") 5555 [] ()

theorem startupTrace_life_of_start_failure :
    (startupTrace 1 success).filterMap lifeOf = [.init .core true, .start false] := by
  decide +kernel

theorem startupTrace_life_of_camera_failure :
    (startupTrace success 1).filterMap lifeOf =
      [.init .core true, .start true, .init .subscription true, .init .camera false,
        .init .gimbal true, .deInit .gimbal, .deInit .camera, .deInit .subscription,
        .deInit .core] := by
  decide +kernel

/-- If the start of the application fails, the core is left initialised; if the
`Init` of the camera manager fails, it is deinitialised all the same. -/
theorem startup_failures_not_cleanedUp :
    ¬ CleanedUp (startupTrace 1 success) ∧ ¬ CleanedUp (startupTrace success 1) := by
  unfold CleanedUp
  rw [startupTrace_life_of_start_failure, startupTrace_life_of_camera_failure]
  constructor <;> decide

end Real
end PsdkBridge
