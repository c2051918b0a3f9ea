import PsdkBridge.Daemon
import PsdkBridge.KmzUpload
import PsdkBridge.Lib.Typestate

/-!
# The order of the daemon's calls

What the daemon may call depends on what it called before: the handlers of the platform
are registered before the core is initialised, the application is started before the
modules, a command needs the `Init` of all of them and a bound socket, and everything is
taken down in the reverse order.  `daemonOrder` is this order, and `daemon_in_order` says
that every run keeps it, on every path out of `main`, and what is left behind.

A manager whose `Init` was refused does not count as in use, but it is deinitialised all
the same; so the order only asks whether `Init` was called.  Two things can be left
behind: the core, if the start of the application was refused, and the waypoint module,
if one of its callbacks was refused.

`follows_pollRound` reduces a round of the poll loop to the drone functions.
-/

namespace PsdkBridge
namespace Real

/-! ## The order -/

/-- What became of the camera or the gimbal manager: nothing yet, or what its `Init`
answered; the manager is in use if that was a success. -/
inductive Manager where
  | idle
  | tried (ok : Bool)
deriving DecidableEq

/-- `Init` was called. -/
def Manager.isTried : Manager → Bool
  | .idle => false
  | .tried _ => true

/-- How far the daemon has come; `refused` is a refused callback of the waypoint
module. -/
structure Standing where
  osal : Bool
  uart : Bool
  network : Bool
  sockets : Bool
  fileSystem : Bool
  core : Bool
  started : Bool
  subscription : Bool
  camera : Manager
  gimbal : Manager
  waypoint : ModuleState
  refused : Bool
  memory : Bool
  fd : Option Int
  bound : Bool
  served : Bool
deriving DecidableEq

/-- The waypoint module before its `Init`. -/
def unusedModule : ModuleState where
  inited := false
  mission := false
  action := false

namespace Standing

/-- Nothing was done. -/
def initial : Standing where
  osal := false
  uart := false
  network := false
  sockets := false
  fileSystem := false
  core := false
  started := false
  subscription := false
  camera := .idle
  gimbal := .idle
  waypoint := unusedModule
  refused := false
  memory := false
  fd := none
  bound := false
  served := false

/-- What a call changes. -/
def next (s : Standing) : CallEvent DaemonCall.Out → Standing
  | ⟨.regOsalHandler, (rc : ReturnCode)⟩ => { s with osal := decide (rc = success) }
  | ⟨.regHalUartHandler, (rc : ReturnCode)⟩ => { s with uart := decide (rc = success) }
  | ⟨.regHalNetworkHandler, (rc : ReturnCode)⟩ => { s with network := decide (rc = success) }
  | ⟨.regSocketHandler, (rc : ReturnCode)⟩ => { s with sockets := decide (rc = success) }
  | ⟨.regFileSystemHandler, (rc : ReturnCode)⟩ =>
      { s with fileSystem := decide (rc = success) }
  | ⟨.coreInit, (rc : ReturnCode)⟩ => { s with core := decide (rc = success) }
  | ⟨.coreApplicationStart, (rc : ReturnCode)⟩ => { s with started := decide (rc = success) }
  | ⟨.coreDeInit, _⟩ => { s with core := false }
  | ⟨.sys .fcSubscriptionInit, (rc : ReturnCode)⟩ =>
      { s with subscription := decide (rc = success) }
  | ⟨.sys .fcSubscriptionDeInit, _⟩ => { s with subscription := false }
  | ⟨.sys .cameraManagerInit, (rc : ReturnCode)⟩ =>
      { s with camera := .tried (decide (rc = success)) }
  | ⟨.sys .cameraManagerDeInit, _⟩ => { s with camera := .idle }
  | ⟨.sys .gimbalManagerInit, (rc : ReturnCode)⟩ =>
      { s with gimbal := .tried (decide (rc = success)) }
  | ⟨.sys .gimbalManagerDeinit, _⟩ => { s with gimbal := .idle }
  | ⟨.sys .waypointV3Init, a⟩ =>
      { s with waypoint := s.waypoint.next ⟨.waypointV3Init, a⟩ }
  | ⟨.sys .waypointV3RegMissionStateCallback, (rc : ReturnCode)⟩ =>
      { s with
        waypoint := s.waypoint.next ⟨.waypointV3RegMissionStateCallback, rc⟩
        refused := s.refused || decide (rc ≠ success) }
  | ⟨.sys .waypointV3RegActionStateCallback, (rc : ReturnCode)⟩ =>
      { s with
        waypoint := s.waypoint.next ⟨.waypointV3RegActionStateCallback, rc⟩
        refused := s.refused || decide (rc ≠ success) }
  | ⟨.sys .waypointV3DeInit, _⟩ => { s with waypoint := unusedModule }
  | ⟨.calloc, (ok : Bool)⟩ => { s with memory := ok }
  | ⟨.free, _⟩ => { s with memory := false }
  | ⟨.socket, (fd : Int)⟩ => { s with fd := if 0 ≤ fd then some fd else none }
  | ⟨.bind _ _ _, (rc : Int)⟩ =>
      { s with bound := decide (0 ≤ rc), served := s.served || decide (0 ≤ rc) }
  | ⟨.close _, _⟩ => { s with fd := none, bound := false }
  | _ => s

/-- The application runs on the core. -/
def Running (s : Standing) : Prop :=
  s.core = true ∧ s.started = true

/-- The subscription is in use, and the managers had their `Init`. -/
def ModulesUp (s : Standing) : Prop :=
  s.subscription = true ∧ s.camera.isTried = true ∧ s.gimbal.isTried = true

/-- When a call is in order. -/
def Allows (s : Standing) (e : CallEvent DaemonCall.Out) : Prop :=
  match e.call with
  | .regOsalHandler => s.osal = false ∧ s.core = false
  | .regHalUartHandler => s.osal = true ∧ s.core = false
  | .addConsole | .regHalNetworkHandler => s.uart = true ∧ s.core = false
  | .regSocketHandler => s.network = true ∧ s.core = false
  | .regFileSystemHandler => s.sockets = true ∧ s.core = false
  | .coreInit =>
      (s.osal ∧ s.uart ∧ s.network ∧ s.sockets ∧ s.fileSystem) ∧ s.core = false
  | .coreSetAlias | .coreSetFirmwareVersion | .coreSetSerialNumber | .coreApplicationStart =>
      s.core = true ∧ s.started = false
  | .sys .fcSubscriptionInit => s.Running ∧ s.subscription = false
  | .sys (.fcSubscriptionSubscribeTopic _) | .sys .cameraManagerInit =>
      s.subscription = true ∧ s.camera = .idle ∧ s.gimbal = .idle
  | .sys .gimbalManagerInit =>
      s.subscription = true ∧ s.camera.isTried = true ∧ s.gimbal = .idle
  | .calloc => s.ModulesUp ∧ s.memory = false
  | .socket => s.memory = true ∧ s.fd = none
  | .setsockopt fd => s.fd = some fd ∧ s.bound = false
  | .inetPton _ => s.memory = true ∧ s.bound = false
  | .bind fd _ _ => s.fd = some fd ∧ s.bound = false
  -- the way down
  | .close fd => s.fd = some fd
  | .free => s.memory = true ∧ s.fd = none
  | .sys .waypointV3DeInit => s.waypoint.Ready ∧ s.ModulesUp ∧ s.memory = false
  | .sys .gimbalManagerDeinit => ¬ s.waypoint.Ready ∧ s.ModulesUp ∧ s.memory = false
  | .sys .cameraManagerDeInit =>
      s.gimbal = .idle ∧ s.camera.isTried = true ∧ s.subscription = true ∧ s.memory = false
  | .sys .fcSubscriptionDeInit =>
      s.gimbal = .idle ∧ s.camera = .idle ∧ s.subscription = true ∧ s.memory = false
  | .coreDeInit =>
      (s.gimbal = .idle ∧ s.camera = .idle ∧ s.subscription = false) ∧ s.Running ∧
        s.memory = false
  -- the commands
  | .sys (.waypointV3UploadKmzFile _ _) =>
      s.waypoint.Ready ∧ s.Running ∧ s.ModulesUp ∧ s.bound = true
  | .sys _ => s.Running ∧ s.ModulesUp ∧ s.bound = true

end Standing

/-- The order of the calls. -/
def daemonOrder : Protocol (CallEvent DaemonCall.Out) Standing where
  start := .initial
  next := .next
  Allowed := Standing.Allows

/-! ## A round of the poll loop -/

/-- An upload is only asked for with a path that passed the checks. -/
def Vetted (c : DroneCall) : Prop :=
  ∀ path, c = .uploadKmz path → Confined path ∧ (0 : UInt8) ∉ path

theorem vetted_of_plan
    {P : Platform} {params : Json} {c : DroneCall} {failure : String}
    {body : c.Out → Option Bytes}
    (h : c.method.plan P params = .invoke c failure body) :
    Vetted c := by
  rintro path rfl
  exact path_of_plan h

section Rounds

variable {τ σ : Type} (P : Platform) (L : Libm) (sizeof : Sizes)
  (S : Outside DaemonCall.Out τ)

/-- What every drone function keeps, a line keeps. -/
theorem follows_handleRpc
    {Q : Protocol (CallEvent SysCall.Out) σ} {inv : Bool → σ → Prop}
    {S : Outside SysCall.Out τ} {E : Env (RealState τ)}
    (hE : E.droneCtrl = realCtrl L S)
    (hcall : ∀ c, Vetted c → ∀ v s, inv v.waypointV3Inited s →
      Q.Follows (realCtrl L S c : RealM τ (DroneError × c.Out))
        (fun _ v' s' => inv v'.waypointV3Inited s') v s)
    (peer : SockaddrIn) (line : Bytes) (w : World (RealState τ))
    {s : σ}
    (hinv : inv w.ctrl.vars.waypointV3Inited s) :
    ∃ evs, (handleRpc E peer line w).ctrl.trace = w.ctrl.trace ++ evs ∧ Q.Obeys s evs ∧
      inv (handleRpc E peer line w).ctrl.vars.waypointV3Inited (Q.after s evs) := by
  rcases handleRpc_calls E peer line w with ⟨h, _⟩ | ⟨_, c, _, _, _, _, hplan, h, _⟩
  · rw [h]
    exact ⟨[], (List.append_nil _).symm, trivial, hinv⟩
  · rw [h, hE]
    exact hcall c (vetted_of_plan hplan) w.ctrl.vars s hinv w.ctrl rfl

/-- What every drone function keeps, a datagram keeps. -/
theorem follows_udpServerPoll
    {Q : Protocol (CallEvent SysCall.Out) σ} {inv : Bool → σ → Prop}
    {S : Outside SysCall.Out τ} {E : Env (RealState τ)}
    (hE : E.droneCtrl = realCtrl L S)
    (hcall : ∀ c, Vetted c → ∀ v s, inv v.waypointV3Inited s →
      Q.Follows (realCtrl L S c : RealM τ (DroneError × c.Out))
        (fun _ v' s' => inv v'.waypointV3Inited s') v s)
    (srv : UdpServer) (rx : Option (SockaddrIn × Bytes)) (w : World (RealState τ))
    {s : σ}
    (hinv : inv w.ctrl.vars.waypointV3Inited s) :
    let w' := (udpServerPoll (fun peer buf _ w => handleRpc E peer buf w) srv rx w).2
    ∃ evs, w'.ctrl.trace = w.ctrl.trace ++ evs ∧ Q.Obeys s evs ∧
      inv w'.ctrl.vars.waypointV3Inited (Q.after s evs) := by
  have hnothing : ∃ evs, w.ctrl.trace = w.ctrl.trace ++ evs ∧ Q.Obeys s evs ∧
      inv w.ctrl.vars.waypointV3Inited (Q.after s evs) :=
    ⟨[], (List.append_nil _).symm, trivial, hinv⟩
  unfold udpServerPoll
  cases rx with
  | none =>
      exact hnothing
  | some p =>
      simp only
      split_ifs
      · exact hnothing
      · exact hnothing
      · exact follows_handleRpc L hE hcall p.1 _ w hinv

/-- A function of the handlers on the variables of the daemon. -/
theorem follows_onWorld
    {α : Type} {f : World (RealState τ) → α × World (RealState τ)}
    {Q : Protocol (CallEvent DaemonCall.Out) σ} (inv : Bool → σ → Prop)
    {v : DaemonVars} {s : σ}
    (hf : ∀ w, inv w.ctrl.vars.waypointV3Inited s →
      ∃ evs, (f w).2.ctrl.trace = w.ctrl.trace ++ evs ∧ (Q.comap sysEvent).Obeys s evs ∧
        inv (f w).2.ctrl.vars.waypointV3Inited ((Q.comap sysEvent).after s evs))
    (hinv : inv v.real.waypointV3Inited s) :
    Q.Follows (onWorld f) (fun _ v' s' => inv v'.real.waypointV3Inited s') v s := by
  rintro m rfl
  obtain ⟨evs, htrace, hobeys, hpost⟩ := hf {
    ctrl := { outside := m.outside, vars := m.vars.real, trace := [] }
    gStart := m.vars.gStart
    gStarted := m.vars.gStarted
    events := m.vars.events } hinv
  obtain ⟨hiff, hafter⟩ := Q.obeys_comap sysEvent s evs
  refine ⟨evs.map sysEvent, ?_, hiff.mp hobeys, ?_⟩
  · simp only [onWorld, htrace, List.nil_append]
  · rw [← hafter]
    exact hpost

/-- What every drone function keeps, a round keeps. -/
theorem follows_pollRound
    {Q : Protocol (CallEvent DaemonCall.Out) σ} (inv : Bool → σ → Prop)
    (hcall : ∀ c, Vetted c → ∀ v s, inv v.waypointV3Inited s →
      (Q.comap sysEvent).Follows
        (realCtrl L (sysOutside S) c : RealM τ (DroneError × c.Out))
        (fun _ v' s' => inv v'.waypointV3Inited s') v s)
    (r : Round) {v : DaemonVars} {s : σ}
    (hinv : inv v.real.waypointV3Inited s) :
    Q.Follows (pollRound P L sizeof S r)
      (fun _ v' s' => inv v'.real.waypointV3Inited s') v s := by
  unfold pollRound
  refine Protocol.follows_modifyVars (Protocol.follows_readVars (Protocol.follows_bind ?_))
  refine Protocol.follows_mono (follows_onWorld inv (fun w hw => ?_) hinv) ?_
  · exact follows_udpServerPoll L rfl hcall _ r.rx w hw
  · exact fun _ _ _ hpost => Protocol.follows_assign hpost

end Rounds

/-! ## The stations of a run -/

/-- What the daemon knows of its modules: whether the managers are in use, and what
became of the waypoint module. -/
structure Modules where
  camera : Bool
  gimbal : Bool
  waypoint : ModuleState
  refused : Bool

namespace Standing

/-- All handlers of the platform are registered. -/
def registered : Standing :=
  { initial with
    osal := true
    uart := true
    network := true
    sockets := true
    fileSystem := true }

/-- The application is started, and no module is in use but for what is left of the
waypoint module. -/
def appUp (served : Bool) (w : ModuleState) (refused : Bool) : Standing :=
  { registered with
    core := true
    started := true
    waypoint := w
    refused := refused
    served := served }

/-- The modules had their `Init`. -/
def ctrlUp (served : Bool) (x : Modules) : Standing :=
  { appUp served x.waypoint x.refused with
    subscription := true
    camera := .tried x.camera
    gimbal := .tried x.gimbal }

/-- The server has its memory and its socket. -/
def opening (fd : Int) (x : Modules) : Standing :=
  { ctrlUp false x with memory := true, fd := some fd }

/-- The server answers requests. -/
def serving (fd : Int) (x : Modules) : Standing :=
  { ctrlUp true x with memory := true, fd := some fd, bound := true }

/-- No resource is held, and every module that had its `Init` had its `DeInit`, but for
the core and the waypoint module. -/
structure Down (s : Standing) : Prop where
  subscription : s.subscription = false
  camera : s.camera = .idle
  gimbal : s.gimbal = .idle
  memory : s.memory = false
  fd : s.fd = none
  bound : s.bound = false

/-- The application was not started. -/
structure Unstarted (s : Standing) : Prop extends s.Down where
  started : s.started = false
  served : s.served = false
  waypoint : s.waypoint = unusedModule

end Standing

/-- What the flag says about the waypoint module: it is up if both callbacks were
accepted; otherwise a module that is initialised had a callback refused. -/
structure Tells (flag : Bool) (w : ModuleState) (refused : Bool) : Prop where
  action : w.action = flag
  ready : flag = true → w.Ready
  refused : flag = false → w.inited = true → refused = true

/-- Nothing was asked of the module yet. -/
theorem tells_unused :
    Tells false unusedModule false :=
  ⟨rfl, nofun, fun _ => nofun⟩

/-- The server answers requests, and the flag tells the truth. -/
def Serving (fd : Int) (flag : Bool) (s : Standing) : Prop :=
  ∃ x : Modules, s = .serving fd x ∧ Tells flag x.waypoint x.refused

section Stations

variable {τ : Type} (S : Outside DaemonCall.Out τ) {v : DaemonVars} {s s' : Standing}

/-- What a step of the startup leaves: `s'` if it succeeds.  No upload has happened. -/
structure Comes (s' : Standing) (ok : Bool) (v : DaemonVars) (s : Standing) : Prop where
  flag : v.real.waypointV3Inited = false
  granted : ok = true → s = s'
  failed : ok = false → s.Unstarted

theorem follows_refused
    (hflag : v.real.waypointV3Inited = false)
    (h : s.Unstarted) :
    daemonOrder.Follows (pure false : DaemonM τ Bool) (Comes s') v s :=
  Protocol.follows_pure ⟨hflag, nofun, fun _ => h⟩

theorem follows_granted
    (hflag : v.real.waypointV3Inited = false) :
    daemonOrder.Follows (pure true : DaemonM τ Bool) (Comes s) v s :=
  Protocol.follows_pure ⟨hflag, fun _ => rfl, nofun⟩

theorem follows_psdkHalRegister
    (hflag : v.real.waypointV3Inited = false) :
    daemonOrder.Follows (psdkHalRegister S) (Comes .registered) v .initial := by
  unfold psdkHalRegister
  refine Protocol.follows_call S
    (fun rc => ⟨⟨rfl, rfl⟩, Protocol.follows_ite (fun _ => ?_) ?_⟩)
  · exact follows_refused hflag ⟨⟨rfl, rfl, rfl, rfl, rfl, rfl⟩, rfl, rfl, rfl⟩
  intro hrc
  obtain rfl : rc = success := not_not.mp hrc
  refine Protocol.follows_call S
    (fun rc => ⟨⟨rfl, rfl⟩, Protocol.follows_ite (fun _ => ?_) ?_⟩)
  · exact follows_refused hflag ⟨⟨rfl, rfl, rfl, rfl, rfl, rfl⟩, rfl, rfl, rfl⟩
  intro hrc
  obtain rfl : rc = success := not_not.mp hrc
  refine Protocol.follows_call S (fun _ => ⟨⟨rfl, rfl⟩, ?_⟩)
  refine Protocol.follows_call S
    (fun rc => ⟨⟨rfl, rfl⟩, Protocol.follows_ite (fun _ => ?_) ?_⟩)
  · exact follows_refused hflag ⟨⟨rfl, rfl, rfl, rfl, rfl, rfl⟩, rfl, rfl, rfl⟩
  intro hrc
  obtain rfl : rc = success := not_not.mp hrc
  refine Protocol.follows_call S
    (fun rc => ⟨⟨rfl, rfl⟩, Protocol.follows_ite (fun _ => ?_) ?_⟩)
  · exact follows_refused hflag ⟨⟨rfl, rfl, rfl, rfl, rfl, rfl⟩, rfl, rfl, rfl⟩
  intro hrc
  obtain rfl : rc = success := not_not.mp hrc
  refine Protocol.follows_call S
    (fun rc => ⟨⟨rfl, rfl⟩, Protocol.follows_ite (fun _ => ?_) ?_⟩)
  · exact follows_refused hflag ⟨⟨rfl, rfl, rfl, rfl, rfl, rfl⟩, rfl, rfl, rfl⟩
  intro hrc
  obtain rfl : rc = success := not_not.mp hrc
  exact follows_granted hflag

theorem follows_psdkInit
    (hflag : v.real.waypointV3Inited = false) :
    daemonOrder.Follows (psdkInit S) (Comes (.appUp false unusedModule false)) v
      .initial := by
  unfold psdkInit
  refine Protocol.follows_bind
    (Protocol.follows_mono (follows_psdkHalRegister S hflag) (fun ok v s hs => ?_))
  cases ok with
  | false =>
      exact follows_refused hs.flag (hs.failed rfl)
  | true =>
      obtain rfl := hs.granted rfl
      refine Protocol.follows_call S (fun rc =>
        ⟨⟨⟨rfl, rfl, rfl, rfl, rfl⟩, rfl⟩, Protocol.follows_ite (fun _ => ?_) ?_⟩)
      · exact follows_refused hs.flag ⟨⟨rfl, rfl, rfl, rfl, rfl, rfl⟩, rfl, rfl, rfl⟩
      intro hrc
      obtain rfl : rc = success := not_not.mp hrc
      refine Protocol.follows_call S (fun _ => ⟨⟨rfl, rfl⟩, ?_⟩)
      refine Protocol.follows_call S (fun _ => ⟨⟨rfl, rfl⟩, ?_⟩)
      refine Protocol.follows_call S (fun _ => ⟨⟨rfl, rfl⟩, ?_⟩)
      refine Protocol.follows_call S
        (fun rc => ⟨⟨rfl, rfl⟩, Protocol.follows_ite (fun hrc => ?_) ?_⟩)
      · exact follows_refused hs.flag
          ⟨⟨rfl, rfl, rfl, rfl, rfl, rfl⟩, decide_eq_false hrc, rfl, rfl⟩
      intro hrc
      obtain rfl : rc = success := not_not.mp hrc
      exact follows_granted hs.flag

/-- What `drone_ctrl_init` leaves: the modules, or nothing new if the subscription is
refused. -/
def Initialised (ok : Bool) (v : DaemonVars) (s : Standing) : Prop :=
  v.real.waypointV3Inited = false ∧
    if ok then ∃ camera gimbal, s = .ctrlUp false ⟨camera, gimbal, unusedModule, false⟩
    else s = .appUp false unusedModule false

theorem follows_droneCtrlInit
    (hflag : v.real.waypointV3Inited = false) :
    daemonOrder.Follows (inCtrl (droneCtrlInit (sysOutside S))) Initialised v
      (.appUp false unusedModule false) := by
  refine Protocol.follows_within ?_
  unfold droneCtrlInit
  refine Protocol.follows_call (sysOutside S)
    (fun rc => ⟨⟨⟨rfl, rfl⟩, rfl⟩, Protocol.follows_ite (fun hrc => ?_) ?_⟩)
  · refine Protocol.follows_pure ⟨hflag, ?_⟩
    show { Standing.appUp false unusedModule false with
      subscription := decide (rc = success) } = _
    rw [decide_eq_false hrc]
    rfl
  intro hrc
  obtain rfl : rc = success := not_not.mp hrc
  refine Protocol.follows_bind (Protocol.follows_mono
    (Protocol.follows_forIn (fun (v : RealVars) s => v.waypointV3Inited = false ∧
      s = { Standing.appUp false unusedModule false with subscription := true })
      ?_ subscribedTopics _ ⟨hflag, rfl⟩) ?_)
  · rintro t _ v s ⟨hflag, rfl⟩
    refine Protocol.follows_call (sysOutside S) (fun _ => ⟨⟨rfl, rfl, rfl⟩, ?_⟩)
    exact Protocol.follows_pure ⟨⟨_, rfl⟩, hflag, rfl⟩
  · rintro _ v s ⟨hflag, rfl⟩
    refine Protocol.follows_call (sysOutside S) (fun camera => ⟨⟨rfl, rfl, rfl⟩, ?_⟩)
    refine Protocol.follows_call (sysOutside S) (fun gimbal => ⟨⟨rfl, rfl, rfl⟩, ?_⟩)
    exact Protocol.follows_pure
      ⟨hflag, decide (camera = success), decide (gimbal = success), rfl⟩

/-- What `udp_server_create` leaves: the socket it answers on, or everything given
back. -/
def Opened (x : Modules) (r : Option Int) (v : DaemonVars) (s : Standing) : Prop :=
  v.real.waypointV3Inited = false ∧
    s = r.elim (.ctrlUp false x) (fun fd => .serving fd x)

/-- A failed creation gives the socket and the memory back. -/
theorem follows_abandonServer
    {x : Modules}
    (hflag : v.real.waypointV3Inited = false)
    (fd : Int)
    (hs : s = .opening fd x) :
    daemonOrder.Follows (abandonServer S fd) (Opened x) v s := by
  subst hs
  unfold abandonServer
  refine Protocol.follows_call S (fun _ => ⟨rfl, ?_⟩)
  refine Protocol.follows_call S (fun _ => ⟨⟨rfl, rfl⟩, ?_⟩)
  exact Protocol.follows_pure ⟨hflag, rfl⟩

theorem follows_bindServer
    {x : Modules}
    (hflag : v.real.waypointV3Inited = false)
    (fd : Int) (bindIp : Bytes) (port : UInt16) :
    daemonOrder.Follows (bindServer S fd bindIp port) (Opened x) v (.opening fd x) := by
  unfold bindServer
  refine Protocol.follows_call S
    (fun rc => ⟨⟨rfl, rfl⟩, Protocol.follows_ite (fun hrc => ?_) (fun hrc => ?_)⟩)
  · refine follows_abandonServer S hflag fd ?_
    show { Standing.opening fd x with
      bound := decide (0 ≤ rc), served := false || decide (0 ≤ rc) } = _
    rw [decide_eq_false (not_le.mpr hrc)]
    rfl
  · refine Protocol.follows_modifyVars (Protocol.follows_pure ⟨hflag, ?_⟩)
    show { Standing.opening fd x with
      bound := decide (0 ≤ rc), served := false || decide (0 ≤ rc) } = _
    rw [decide_eq_true (not_lt.mp hrc)]
    rfl

/-- The server is created, or everything it took is given back. -/
theorem follows_udpServerOpen
    {x : Modules}
    (hflag : v.real.waypointV3Inited = false)
    (bindIp : Bytes) (port : UInt16) :
    daemonOrder.Follows (udpServerOpen S bindIp port) (Opened x) v (.ctrlUp false x) := by
  unfold udpServerOpen
  refine Protocol.follows_call S (fun ok => ⟨⟨⟨rfl, rfl, rfl⟩, rfl⟩, ?_⟩)
  cases ok with
  | false =>
      exact Protocol.follows_pure ⟨hflag, rfl⟩
  | true =>
      refine Protocol.follows_ite (fun h => absurd h (by decide)) (fun _ => ?_)
      refine Protocol.follows_call S (fun fd => ⟨⟨rfl, rfl⟩, ?_⟩)
      have hsocket : daemonOrder.next (daemonOrder.next (.ctrlUp false x) ⟨.calloc, true⟩)
          ⟨.socket, fd⟩ =
            { Standing.ctrlUp false x with
              memory := true, fd := if 0 ≤ fd then some fd else none } := rfl
      rw [hsocket]
      refine Protocol.follows_ite (fun hneg => ?_) (fun hfd => ?_)
      · rw [if_neg (not_le.mpr hneg)]
        refine Protocol.follows_call S (fun _ => ⟨⟨rfl, rfl⟩, ?_⟩)
        exact Protocol.follows_pure ⟨hflag, rfl⟩
      · rw [if_pos (not_lt.mp hfd)]
        refine Protocol.follows_call S (fun _ => ⟨⟨rfl, rfl⟩, ?_⟩)
        refine Protocol.follows_ite
          (fun _ => follows_bindServer S hflag fd bindIp port) (fun _ => ?_)
        refine Protocol.follows_call S (fun rc => ⟨⟨rfl, rfl⟩, ?_⟩)
        exact Protocol.follows_ite (fun _ => follows_abandonServer S hflag fd rfl)
          (fun _ => follows_bindServer S hflag fd bindIp port)

/-- The server gives back what it took. -/
theorem follows_udpServerDestroy
    {fd : Int}
    (h : Serving fd v.real.waypointV3Inited s) :
    daemonOrder.Follows (udpServerDestroy S fd)
      (fun _ v' s' => ∃ x : Modules, s' = .ctrlUp true x ∧
        Tells v'.real.waypointV3Inited x.waypoint x.refused) v s := by
  obtain ⟨x, rfl, htells⟩ := h
  unfold udpServerDestroy
  refine Protocol.follows_call S (fun _ => ⟨rfl, ?_⟩)
  refine Protocol.follows_call S (fun _ => ⟨⟨rfl, rfl⟩, ?_⟩)
  exact Protocol.follows_pure ⟨x, rfl, htells⟩

/-- The modules had their `DeInit`; a waypoint module that is left had a callback
refused. -/
def Released (served : Bool) (s : Standing) : Prop :=
  ∃ w refused, s = .appUp served w refused ∧ ¬ w.Ready ∧ (w.inited = true → refused = true)

/-- The last three calls of `drone_ctrl_deinit`. -/
theorem follows_managers_deinit
    (S : Outside SysCall.Out τ) (served : Bool) {x : Modules} {v : RealVars}
    (hdown : ¬ x.waypoint.Ready)
    (hrefused : x.waypoint.inited = true → x.refused = true) :
    (daemonOrder.comap sysEvent).Follows
      (do
        let _ ← callOut S .gimbalManagerDeinit
        let _ ← callOut S .cameraManagerDeInit
        let _ ← callOut S .fcSubscriptionDeInit : RealM τ Unit)
      (fun _ _ s => Released served s) v (.ctrlUp served x) := by
  refine Protocol.follows_call S (fun _ => ⟨⟨hdown, ⟨rfl, rfl, rfl⟩, rfl⟩, ?_⟩)
  refine Protocol.follows_call S (fun _ => ⟨⟨rfl, rfl, rfl, rfl⟩, ?_⟩)
  refine Protocol.follows_call S (fun _ => ⟨⟨rfl, rfl, rfl, rfl⟩, ?_⟩)
  exact Protocol.follows_pure ⟨x.waypoint, x.refused, rfl, hdown, hrefused⟩

theorem follows_droneCtrlDeinit
    (served : Bool) {x : Modules}
    (h : Tells v.real.waypointV3Inited x.waypoint x.refused) :
    daemonOrder.Follows (inCtrl (droneCtrlDeinit (sysOutside S)))
      (fun _ _ s => Released served s) v (.ctrlUp served x) := by
  refine Protocol.follows_within ?_
  unfold droneCtrlDeinit
  refine Protocol.follows_readVars (Protocol.follows_ite (fun hon => ?_) (fun hoff => ?_))
  · refine Protocol.follows_call (sysOutside S)
      (fun _ => ⟨⟨h.ready hon, ⟨rfl, rfl, rfl⟩, rfl⟩, ?_⟩)
    exact Protocol.follows_modifyVars (follows_managers_deinit (sysOutside S) served
      (x := { x with waypoint := unusedModule }) nofun nofun)
  · have hflag : v.real.waypointV3Inited = false := by
      simpa using hoff
    refine follows_managers_deinit (sysOutside S) served (fun hready => ?_) (h.refused hflag)
    exact absurd (h.action.symm.trans hready.2.2) hoff

/-- What `main` leaves behind, with its exit code. -/
structure Ended (code : Nat) (s : Standing) : Prop where
  down : s.Down
  core : s.core = true → code = 2
  waypoint : ¬ s.waypoint.Ready
  refused : s.waypoint.inited = true → s.refused = true
  started : code = 2 ↔ s.started = false
  served : code = 0 ↔ s.served = true

/-- The last step of every path behind the start of the application. -/
theorem follows_psdkDeinit
    {served : Bool} {code : Nat}
    (hcode : code ≠ 2)
    (hserved : code = 0 ↔ served = true)
    (h : Released served s) :
    daemonOrder.Follows
      (do
        psdkDeinit S
        return code)
      (fun code _ s => Ended code s) v s := by
  obtain ⟨w, refused, rfl, hdown, hrefused⟩ := h
  refine Protocol.follows_bind ?_
  unfold psdkDeinit
  refine Protocol.follows_call S (fun _ => ⟨⟨⟨rfl, rfl, rfl⟩, ⟨rfl, rfl⟩, rfl⟩, ?_⟩)
  refine Protocol.follows_pure (Protocol.follows_pure ?_)
  exact {
    down := ⟨rfl, rfl, rfl, rfl, rfl, rfl⟩
    core := nofun
    waypoint := hdown
    refused := hrefused
    started := iff_of_false hcode nofun
    served := hserved }

/-- The shutdown that both the failure of the server and the signal lead to. -/
theorem follows_shutdown
    {served : Bool} {code : Nat} {x : Modules}
    (hcode : code ≠ 2)
    (hserved : code = 0 ↔ served = true)
    (h : Tells v.real.waypointV3Inited x.waypoint x.refused) :
    daemonOrder.Follows
      (do
        inCtrl (droneCtrlDeinit (sysOutside S))
        psdkDeinit S
        return code)
      (fun code _ s => Ended code s) v (.ctrlUp served x) :=
  Protocol.follows_bind (Protocol.follows_mono (follows_droneCtrlDeinit S served h)
    (fun _ _ _ hs => follows_psdkDeinit S hcode hserved hs))

end Stations

/-! ## Commands -/

/-- A call of the functions that upload nothing. -/
def SysCall.IsDirect : SysCall → Bool
  | .monotonicMs | .cameraGetMode | .cameraGetRecordingState | .cameraGetOpticalZoomParam
  | .setGoHomeAltitude _ | .gimbalRotate _ _ _ _ | .cameraSetMode _
  | .cameraSetOpticalZoomParam _ _ | .setHomeLocationUsingGPSCoordinates _ _
  | .setHorizontalVisualObstacleAvoidanceEnableStatus _
  | .setUpwardsVisualObstacleAvoidanceEnableStatus _ | .cameraStartShootPhoto
  | .cameraStartRecordVideo | .cameraStopRecordVideo => true
  | _ => false

/-- A drone function that uploads nothing makes these calls only. -/
theorem isDirect_of_mayCall
    {L : Libm} {c : DroneCall} {x : SysCall}
    (hc : ∀ path, c ≠ .uploadKmz path)
    (h : MayCall L c x) :
    x.IsDirect = true := by
  cases c with
  | getTelemetry | getBatteryInfo | setRthAltitude | setHomeLocation | shootPhoto
  | startRecording | stopRecording =>
      cases h
      rfl
  | getGimbalAngle | getRtkStatus =>
      exact h.elim
  | getCameraState =>
      rcases h with h | h | h <;> cases h <;> rfl
  | setGimbalAngle =>
      obtain ⟨_, _, _, _, h⟩ := h
      cases h
      rfl
  | setCameraMode =>
      obtain ⟨_, h⟩ := h
      cases h
      rfl
  | setCameraZoom =>
      obtain ⟨_, _, h⟩ := h
      cases h
      rfl
  | setObstacleAvoidance =>
      obtain ⟨_, h | h⟩ := h <;> cases h <;> rfl
  | uploadKmz path =>
      exact absurd rfl (hc path)

/-- Such a function keeps what its calls and the flag leave alone. -/
theorem follows_direct
    {τ σ : Type} (L : Libm) (S : Outside SysCall.Out τ) {c : DroneCall}
    {Q : Protocol (CallEvent SysCall.Out) σ} (inv : Bool → σ → Prop) {v : RealVars} {s : σ}
    (hc : ∀ path, c ≠ .uploadKmz path)
    (hneutral : ∀ e : CallEvent SysCall.Out, e.call.IsDirect = true →
      Q.next s e = s ∧ Q.Allowed s e)
    (hinv : inv v.waypointV3Inited s) :
    Q.Follows (realCtrl L S c : RealM τ (DroneError × c.Out))
      (fun _ v' s' => inv v'.waypointV3Inited s') v s := by
  rintro m rfl
  obtain ⟨evs, htrace, hobeys, hend⟩ := Protocol.follows_of_issues (issues_realCtrl L S c)
    (fun e he => (hneutral e (isDirect_of_mayCall hc he)).1)
    (fun e he => (hneutral e (isDirect_of_mayCall hc he)).2) m rfl
  refine ⟨evs, htrace, hobeys, ?_⟩
  show inv (realCtrl L S c m).2.vars.waypointV3Inited _
  rw [leaves_realCtrl L S RealVars.waypointV3Inited hc m, hend]
  exact hinv

section Serving

variable {τ : Type} (S : Outside SysCall.Out τ) {fd : Int} {v : RealVars} {s : Standing}

/-- The order as the drone control layer sees it. -/
abbrev ctrlOrder : Protocol (CallEvent SysCall.Out) Standing :=
  daemonOrder.comap sysEvent

/-- A command changes nothing, and is in order while the server answers requests. -/
theorem neutral_of_isDirect
    {e : CallEvent SysCall.Out}
    (h : e.call.IsDirect = true)
    (x : Modules) :
    ctrlOrder.next (.serving fd x) e = .serving fd x ∧
      ctrlOrder.Allowed (.serving fd x) e := by
  obtain ⟨c, a⟩ := e
  cases c <;> first
    | exact ⟨rfl, ⟨rfl, rfl⟩, ⟨rfl, rfl, rfl⟩, rfl⟩
    | cases h

/-- So is a call for a file, when the waypoint module is ready. -/
theorem neutral_of_isFileCall
    {e : CallEvent SysCall.Out} {x : Modules}
    (h : IsFileCall e)
    (hready : x.waypoint.Ready) :
    ctrlOrder.next (.serving fd x) e = .serving fd x ∧
      ctrlOrder.Allowed (.serving fd x) e := by
  obtain ⟨c, a⟩ := e
  cases c <;> first
    | exact ⟨rfl, ⟨rfl, rfl⟩, ⟨rfl, rfl, rfl⟩, rfl⟩
    | exact ⟨rfl, hready, ⟨rfl, rfl⟩, ⟨rfl, rfl, rfl⟩, rfl⟩
    | exact h.elim

/-- A refused `Init` of the waypoint module changes nothing. -/
theorem next_of_refused_init
    {rc : ReturnCode}
    (h : rc ≠ success)
    (x : Modules) :
    ctrlOrder.next (.serving fd x) ⟨.waypointV3Init, rc⟩ = .serving fd x := by
  show Standing.serving fd { x with
    waypoint := if rc = success then { x.waypoint with inited := true } else x.waypoint } = _
  rw [if_neg h]

/-- A refused callback leaves its mark, and nothing else. -/
theorem next_of_refused_callback
    {e : CallEvent SysCall.Out}
    (h : ¬ Registers e)
    (x : Modules) :
    ctrlOrder.next (.serving fd x) e = .serving fd { x with refused := true } := by
  obtain ⟨c, a⟩ := e
  cases c with
  | waypointV3RegMissionStateCallback =>
      have hrc : a ≠ success := h
      show Standing.serving fd { x with
        waypoint := if a = success then { x.waypoint with mission := true } else x.waypoint
        refused := x.refused || decide (a ≠ success) } = _
      rw [if_neg hrc, decide_eq_true hrc, Bool.or_true]
  | waypointV3RegActionStateCallback =>
      have hrc : a ≠ success := h
      show Standing.serving fd { x with
        waypoint := if a = success then { x.waypoint with action := true } else x.waypoint
        refused := x.refused || decide (a ≠ success) } = _
      rw [if_neg hrc, decide_eq_true hrc, Bool.or_true]
  | _ =>
      exact absurd trivial h

/-- The module is ready behind a success; behind a failure it is as the flag says. -/
theorem serving_ensureWaypointV3Ready
    (h : Serving fd v.waypointV3Inited s) :
    ctrlOrder.Follows (ensureWaypointV3Ready S)
      (fun err v' s' => Serving fd v'.waypointV3Inited s' ∧
        (err = .ok → v'.waypointV3Inited = true)) v s := by
  obtain ⟨x, rfl, htells⟩ := h
  unfold ensureWaypointV3Ready
  refine Protocol.follows_readVars (Protocol.follows_ite (fun hon => ?_) (fun hoff => ?_))
  · exact Protocol.follows_pure ⟨⟨x, rfl, htells⟩, fun _ => hon⟩
  -- a refused callback leaves the flag and the third step alone
  have hrefused : ∀ y : Modules, y.waypoint.action = v.waypointV3Inited →
      Serving fd v.waypointV3Inited (.serving fd { y with refused := true }) :=
    fun y hy => ⟨_, rfl, hy, fun hon => absurd hon hoff, fun _ _ => rfl⟩
  refine Protocol.follows_call S (fun rc =>
    ⟨⟨⟨rfl, rfl⟩, ⟨rfl, rfl, rfl⟩, rfl⟩, Protocol.follows_ite (fun hrc => ?_) (fun hrc => ?_)⟩)
  · rw [next_of_refused_init hrc]
    exact Protocol.follows_pure ⟨⟨x, rfl, htells⟩, nofun⟩
  obtain rfl : rc = success := not_not.mp hrc
  have hinit : ctrlOrder.next (.serving fd x) ⟨.waypointV3Init, success⟩ =
      .serving fd { x with waypoint := { x.waypoint with inited := true } } := rfl
  rw [hinit]
  refine Protocol.follows_call S (fun rc =>
    ⟨⟨⟨rfl, rfl⟩, ⟨rfl, rfl, rfl⟩, rfl⟩, Protocol.follows_ite (fun hrc => ?_) (fun hrc => ?_)⟩)
  · rw [next_of_refused_callback (e := ⟨_, rc⟩) hrc]
    exact Protocol.follows_pure ⟨hrefused _ htells.action, nofun⟩
  obtain rfl : rc = success := not_not.mp hrc
  have hmission : ctrlOrder.next
      (.serving fd { x with waypoint := { x.waypoint with inited := true } })
      ⟨.waypointV3RegMissionStateCallback, success⟩ =
        .serving fd { x with
          waypoint := { x.waypoint with inited := true, mission := true }
          refused := x.refused || false } := rfl
  rw [hmission]
  refine Protocol.follows_call S (fun rc =>
    ⟨⟨⟨rfl, rfl⟩, ⟨rfl, rfl, rfl⟩, rfl⟩, Protocol.follows_ite (fun hrc => ?_) (fun hrc => ?_)⟩)
  · rw [next_of_refused_callback (e := ⟨_, rc⟩) hrc]
    exact Protocol.follows_pure ⟨hrefused _ htells.action, nofun⟩
  obtain rfl : rc = success := not_not.mp hrc
  refine Protocol.follows_modifyVars (Protocol.follows_pure ⟨?_, fun _ => rfl⟩)
  exact ⟨{ x with waypoint := readyModule, refused := x.refused || false || false }, rfl, rfl,
    fun _ => readyModule_ready, nofun⟩

theorem serving_droneUploadKmz
    (path : Bytes)
    (h : Serving fd v.waypointV3Inited s) :
    ctrlOrder.Follows (droneUploadKmz S path)
      (fun _ v' s' => Serving fd v'.waypointV3Inited s') v s := by
  unfold droneUploadKmz
  refine Protocol.follows_ite (fun _ => Protocol.follows_pure h) (fun _ => ?_)
  refine Protocol.follows_bind
    (Protocol.follows_mono (serving_ensureWaypointV3Ready S h) (fun err v s hs => ?_))
  obtain ⟨hserving, hflag⟩ := hs
  refine Protocol.follows_ite (fun _ => Protocol.follows_pure hserving) (fun herr => ?_)
  obtain ⟨x, rfl, htells⟩ := hserving
  refine Protocol.follows_mono (Protocol.follows_of_emits (emits_openAndUpload S (cstr path))
    (fun e he => neutral_of_isFileCall he (htells.ready (hflag (not_not.mp herr))))) ?_
  rintro _ v' s' ⟨rfl, rfl⟩
  exact ⟨x, rfl, htells⟩

/-- Every drone function keeps the order while the server answers requests. -/
theorem serving_realCtrl
    (L : Libm) {c : DroneCall}
    (h : Serving fd v.waypointV3Inited s) :
    ctrlOrder.Follows (realCtrl L S c : RealM τ (DroneError × c.Out))
      (fun _ v' s' => Serving fd v'.waypointV3Inited s') v s := by
  by_cases hupload : ∃ path, c = .uploadKmz path
  · obtain ⟨path, rfl⟩ := hupload
    refine Protocol.follows_bind (Protocol.follows_mono (serving_droneUploadKmz S path h) ?_)
    exact fun _ _ _ h => Protocol.follows_pure h
  · refine follows_direct L S (Serving fd) (fun path hc => hupload ⟨path, hc⟩)
      (fun e he => ?_) h
    obtain ⟨x, rfl, _⟩ := h
    exact neutral_of_isDirect he x

end Serving

/-! ## The whole run -/

section Runs

variable {τ : Type} (P : Platform) (L : Libm) (sizeof : Sizes)
  (S : Outside DaemonCall.Out τ) {v : DaemonVars} {s : Standing}

theorem serving_pollRound
    {fd : Int} (r : Round)
    (h : Serving fd v.real.waypointV3Inited s) :
    daemonOrder.Follows (pollRound P L sizeof S r)
      (fun _ v' s' => Serving fd v'.real.waypointV3Inited s') v s :=
  follows_pollRound P L sizeof S (Serving fd)
    (fun _ _ _ _ h => serving_realCtrl (sysOutside S) L h) r h

theorem follows_mainAfterOptions
    (bindIp : Bytes) (port : UInt16) (rounds : List Round)
    (hflag : v.real.waypointV3Inited = false) :
    daemonOrder.Follows (mainAfterOptions P L sizeof S bindIp port rounds)
      (fun code _ s => Ended code s) v .initial := by
  unfold mainAfterOptions
  refine Protocol.follows_bind
    (Protocol.follows_mono (follows_psdkInit S hflag) (fun started v s hs => ?_))
  cases started with
  | false =>
      have hs := hs.failed rfl
      exact Protocol.follows_pure {
        down := hs.toDown
        core := fun _ => rfl
        waypoint := by simp [hs.waypoint, ModuleState.Ready, unusedModule]
        refused := by simp [hs.waypoint, unusedModule]
        started := iff_of_true rfl hs.started
        served := by simp [hs.served] }
  | true =>
      have hflag := hs.flag
      obtain rfl := hs.granted rfl
      refine Protocol.follows_bind
        (Protocol.follows_mono (follows_droneCtrlInit S hflag) (fun ctrl v s hs => ?_))
      obtain ⟨hflag, hs⟩ := hs
      cases ctrl with
      | false =>
          exact follows_psdkDeinit S (by decide) (by decide)
            ⟨unusedModule, false, hs, nofun, nofun⟩
      | true =>
          obtain ⟨camera, gimbal, rfl⟩ := hs
          refine Protocol.follows_bind (Protocol.follows_mono
            (follows_udpServerOpen S hflag bindIp port) (fun srv v s hs => ?_))
          obtain ⟨hflag, rfl⟩ := hs
          have htells : Tells v.real.waypointV3Inited unusedModule false := by
            rw [hflag]
            exact tells_unused
          cases srv with
          | none =>
              exact follows_shutdown S (by decide) (by decide) htells
          | some fd =>
              refine Protocol.follows_bind (Protocol.follows_mono (Protocol.follows_forIn
                (fun (v : DaemonVars) s => Serving fd v.real.waypointV3Inited s) ?_ rounds _
                ⟨_, rfl, htells⟩) ?_)
              · intro r _ v s h
                refine Protocol.follows_bind
                  (Protocol.follows_mono (serving_pollRound P L sizeof S r h) ?_)
                exact fun _ _ _ h => Protocol.follows_pure ⟨⟨_, rfl⟩, h⟩
              · intro _ v s h
                refine Protocol.follows_bind
                  (Protocol.follows_mono (follows_udpServerDestroy S h) ?_)
                rintro _ v s ⟨x, rfl, htells⟩
                exact follows_shutdown S (by decide) (by decide) htells

end Runs

/-- **Startup and shutdown in order.**  Whatever the SDK and the system answer and
whatever the rounds bring, every call of the daemon is in order.  On every path out of
`main` the socket is closed, the memory is freed, and every module that had its `Init`
had its `DeInit`, but for the core if the application was not started, and for a waypoint
module that had a callback refused.  The exit code tells whether the application was
started and whether the server ran. -/
theorem daemon_in_order
    {τ : Type} (P : Platform) (L : Libm) (sizeof : Sizes) (S : Outside DaemonCall.Out τ)
    (bindIp : Bytes) (port : UInt16) (rounds : List Round) (outside : τ) :
    daemonOrder.Obeys .initial (daemonTrace P L sizeof S bindIp port rounds outside) ∧
      Ended (mainAfterOptions P L sizeof S bindIp port rounds (atStart outside)).1
        (daemonOrder.after .initial
          (daemonTrace P L sizeof S bindIp port rounds outside)) := by
  obtain ⟨evs, htrace, hobeys, hended⟩ := follows_mainAfterOptions P L sizeof S bindIp port
    rounds rfl (atStart outside) rfl
  have htrace : daemonTrace P L sizeof S bindIp port rounds outside = evs :=
    htrace.trans (List.nil_append evs)
  rw [htrace]
  exact ⟨hobeys, hended⟩

end Real
end PsdkBridge
