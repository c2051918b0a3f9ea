import PsdkBridge.Commands

/-!
# The controls that reach the aircraft

In the real build a command of a client ends in a call of the SDK that controls the
aircraft, or in two for obstacle avoidance.  `controlsFor` says which ones a drone function
stands for, and `Relays` what becomes of them: they are called in order, up to the first
one that the SDK refuses.

* `controls_relayed`: in every run of the daemon, whatever the SDK answers, the controls
  that the SDK gets are those of the requests, in their order, none twice and none that no
  client asked for; and the client learns whether the SDK accepted them.
* `controls_of_requests`: the requests that are written for a sequence of offered calls
  lead to the controls of these calls.
-/

namespace PsdkBridge
namespace Real

/-! ## Controls -/

/-- A call that controls the aircraft, and whether the SDK accepted it. -/
structure Control where
  call : SysCall
  accepted : Bool

/-- The control that a call of the daemon is, if it is one. -/
def controlOf : CallEvent DaemonCall.Out → Option Control
  | ⟨.sys (.setGoHomeAltitude altitude), (rc : ReturnCode)⟩ =>
      some ⟨.setGoHomeAltitude altitude, decide (rc = success)⟩
  | ⟨.sys (.gimbalRotate pitch roll yaw time), (rc : ReturnCode)⟩ =>
      some ⟨.gimbalRotate pitch roll yaw time, decide (rc = success)⟩
  | ⟨.sys (.cameraSetMode mode), (rc : ReturnCode)⟩ =>
      some ⟨.cameraSetMode mode, decide (rc = success)⟩
  | ⟨.sys (.cameraSetOpticalZoomParam zoomIn factor), (rc : ReturnCode)⟩ =>
      some ⟨.cameraSetOpticalZoomParam zoomIn factor, decide (rc = success)⟩
  | ⟨.sys (.setHomeLocationUsingGPSCoordinates latitude longitude), (rc : ReturnCode)⟩ =>
      some ⟨.setHomeLocationUsingGPSCoordinates latitude longitude, decide (rc = success)⟩
  | ⟨.sys (.setHorizontalVisualObstacleAvoidanceEnableStatus enable),
      (rc : ReturnCode)⟩ =>
      some ⟨.setHorizontalVisualObstacleAvoidanceEnableStatus enable,
        decide (rc = success)⟩
  | ⟨.sys (.setUpwardsVisualObstacleAvoidanceEnableStatus enable), (rc : ReturnCode)⟩ =>
      some ⟨.setUpwardsVisualObstacleAvoidanceEnableStatus enable, decide (rc = success)⟩
  | ⟨.sys .cameraStartShootPhoto, (rc : ReturnCode)⟩ =>
      some ⟨.cameraStartShootPhoto, decide (rc = success)⟩
  | ⟨.sys .cameraStartRecordVideo, (rc : ReturnCode)⟩ =>
      some ⟨.cameraStartRecordVideo, decide (rc = success)⟩
  | ⟨.sys .cameraStopRecordVideo, (rc : ReturnCode)⟩ =>
      some ⟨.cameraStopRecordVideo, decide (rc = success)⟩
  | _ => none

/-- The controls that a drone function stands for. -/
def controlsFor (L : Libm) : DroneCall → List SysCall
  | .setRthAltitude altM => [.setGoHomeAltitude (L.floatToUint16 altM)]
  | .setGimbalAngle a => [.gimbalRotate a.pitch a.roll a.yaw (.fin (1 / 2))]
  | .setCameraMode mode =>
      [.cameraSetMode (if mode = .photo then .shootPhoto else .recordVideo)]
  | .setCameraZoom zoomFactor =>
      [.cameraSetOpticalZoomParam (zoomFactor.gt (.fin 1) || decide (zoomFactor = .fin 1))
        zoomFactor]
  | .setHomeLocation loc => [.setHomeLocationUsingGPSCoordinates loc.lat loc.lon]
  | .setObstacleAvoidance mode =>
      [.setHorizontalVisualObstacleAvoidanceEnableStatus (decide (mode = .close)),
        .setUpwardsVisualObstacleAvoidanceEnableStatus (decide (mode = .close))]
  | .shootPhoto => [.cameraStartShootPhoto]
  | .startRecording => [.cameraStartRecordVideo]
  | .stopRecording => [.cameraStopRecordVideo]
  | .getTelemetry | .getBatteryInfo | .getGimbalAngle | .getCameraState | .getRtkStatus
  | .uploadKmz _ => []

/-- The calls are made in order, up to the first one that is refused; the last argument
tells whether all were accepted. -/
inductive Relays : List SysCall → List Control → Bool → Prop
  | done : Relays [] [] true
  | refused {c : SysCall} {cs : List SysCall} : Relays (c :: cs) [⟨c, false⟩] false
  | accepted {c : SysCall} {cs : List SysCall} {l : List Control} {ok : Bool}
      (h : Relays cs l ok) : Relays (c :: cs) (⟨c, true⟩ :: l) ok

namespace Relays

variable {cs : List SysCall} {l : List Control} {ok : Bool}

/-- Nothing is left out unless a call is refused. -/
theorem complete
    (h : Relays cs l ok)
    (hl : ∀ c ∈ l, c.accepted = true) :
    l.map Control.call = cs := by
  induction h with
  | done =>
      rfl
  | refused =>
      cases hl _ List.mem_cons_self
  | accepted _ ih =>
      rw [List.map_cons, ih fun c hc => hl c (List.mem_cons_of_mem _ hc)]

end Relays

/-! ## Drone functions -/

/-- What a drone function does with its controls: it calls them, and tells whether they
were accepted. -/
def Relayed (L : Libm) (c : DroneCall) (l : List Control) (err : DroneError) : Prop :=
  ∃ ok, Relays (controlsFor L c) l ok ∧ (controlsFor L c ≠ [] → (err = .ok ↔ ok = true))

/-- The control that a call of the drone control layer is. -/
def sysControl (e : CallEvent SysCall.Out) : Option Control :=
  controlOf (sysEvent e)

section Functions

variable {τ : Type} (L : Libm) (S : Outside SysCall.Out τ)

theorem okOrPsdk_eq_ok_iff
    {rc : ReturnCode} :
    okOrPsdk rc = .ok ↔ rc = success := by
  unfold okOrPsdk
  split_ifs with h <;> simp [h]

/-- A single control. -/
theorem relays_single
    (c : SysCall) (b : Bool) :
    Relays [c] [⟨c, b⟩] b := by
  cases b with
  | false =>
      exact .refused
  | true =>
      exact .accepted .done

/-- A command that is a single control. -/
theorem views_command
    {c : SysCall} {code : c.Out → ReturnCode} {call : DroneCall}
    (hcall : controlsFor L call = [c])
    (hview : ∀ a, sysControl ⟨c, a⟩ = some ⟨c, decide (code a = success)⟩) :
    Views sysControl (plain (command S c code)) (fun r l => Relayed L call l r.1) := by
  refine views_bind (Q := fun err l => Relayed L call l err) ?_ (fun err l hl => ?_)
  · refine views_call S (fun a => views_pure ?_)
    rw [hview]
    refine ⟨decide (code a = success), ?_, fun _ => ?_⟩
    · rw [hcall]
      exact relays_single c _
    · rw [okOrPsdk_eq_ok_iff, decide_eq_true_eq]
  · exact views_pure (by simpa using hl)

/-- The two controls of obstacle avoidance. -/
theorem views_droneSetObstacleAvoidance
    (mode : ObstacleAvoidMode) :
    Views sysControl (droneSetObstacleAvoidance S mode)
      (fun err l => Relayed L (.setObstacleAvoidance mode) l err) := by
  unfold droneSetObstacleAvoidance
  refine views_call S (fun rc => views_ite (fun hrc => views_pure ?_) (fun hrc => ?_))
  · refine ⟨false, ?_, fun _ => by simp⟩
    simp only [sysControl, sysEvent, controlOf, decide_eq_false hrc]
    exact .refused
  refine views_call S (fun rc' => views_ite (fun hrc' => views_pure ?_)
    (fun hrc' => views_pure ?_))
  · refine ⟨false, ?_, fun _ => by simp⟩
    simp only [sysControl, sysEvent, controlOf, not_not.mp hrc, decide_eq_false hrc']
    exact .accepted .refused
  · refine ⟨true, ?_, fun _ => by simp⟩
    simp only [sysControl, sysEvent, controlOf, not_not.mp hrc, not_not.mp hrc']
    exact .accepted (.accepted .done)

/-- The other calls of the drone functions control nothing. -/
theorem sysControl_of_mayCall
    {c : DroneCall} {e : CallEvent SysCall.Out}
    (hc : controlsFor L c = [])
    (h : MayCall L c e.call) :
    sysControl e = none := by
  obtain ⟨s, a⟩ := e
  cases c with
  | getTelemetry | getBatteryInfo =>
      cases h
      rfl
  | getGimbalAngle | getRtkStatus =>
      exact h.elim
  | getCameraState =>
      rcases h with h | h | h <;> cases h <;> rfl
  | uploadKmz =>
      rcases h with h | h <;> cases s <;> first | rfl | exact h.elim
  | setRthAltitude | setGimbalAngle | setCameraMode | setCameraZoom | setHomeLocation
  | setObstacleAvoidance | shootPhoto | startRecording | stopRecording =>
      cases hc

/-- **What a drone function controls.** -/
theorem views_realCtrl
    (c : DroneCall) :
    Views sysControl (realCtrl L S c : RealM τ (DroneError × c.Out))
      (fun r l => Relayed L c l r.1) := by
  have hsilent : controlsFor L c = [] →
      Views sysControl (realCtrl L S c : RealM τ (DroneError × c.Out))
        (fun r l => Relayed L c l r.1) := by
    intro hc
    refine views_mono (silent_of_issues (issues_realCtrl L S c)
      (fun _ h => sysControl_of_mayCall L hc h)) ?_
    rintro r l rfl
    exact ⟨true, by rw [hc]; exact .done, fun hne => absurd hc hne⟩
  cases c with
  | getTelemetry | getBatteryInfo | getGimbalAngle | getCameraState | getRtkStatus
  | uploadKmz =>
      exact hsilent rfl
  | setObstacleAvoidance mode =>
      refine views_bind (views_droneSetObstacleAvoidance L S mode) (fun err l hl => ?_)
      exact views_pure (by simpa using hl)
  | setRthAltitude | setGimbalAngle | setCameraMode | setCameraZoom | setHomeLocation
  | shootPhoto | startRecording | stopRecording =>
      exact views_command L S rfl (fun _ => rfl)

end Functions

/-! ## Requests -/

/-- The controls that a plan stands for. -/
def planControls (L : Libm) (pl : Plan) : List SysCall :=
  pl.command.elim [] (controlsFor L)

/-- What the daemon did for a request: the controls that the SDK got, and the reply with
its receiver. -/
structure Treatment where
  controls : List Control
  peer : SockaddrIn
  reply : Bytes

/-- The treatment of a request: its controls are called, its sender gets a reply, and a
request for controls is answered with a result exactly if all of them were accepted. -/
structure Treats (P : Platform) (L : Libm) (r : SockaddrIn × RpcRequest)
    (t : Treatment) : Prop where
  peer : t.peer = r.1
  answers : Answers r.2 t.reply
  relays : ∃ ok, Relays (planControls L (r.2.plan P)) t.controls ok ∧
    (planControls L (r.2.plan P) ≠ [] → (ResultReply r.2.id t.reply ↔ ok = true))

/-- The datagram that an event sends, with its receiver. -/
def datagramOf : Event → Option (SockaddrIn × Bytes)
  | .call _ _ => none
  | .send peer buf _ => some (peer, buf)

section Polls

variable {τ : Type} (P : Platform) (L : Libm) (S : Outside SysCall.Out τ)

/-- A plan relays its controls. -/
theorem plan_relays
    (E : Env (RealState τ))
    (hE : E.droneCtrl = realCtrl L S)
    (w : World (RealState τ)) (pl : Plan) (id : Int32) :
    ∃ l ok, (pl.ctrl E w).trace.filterMap sysControl =
        w.ctrl.trace.filterMap sysControl ++ l ∧
      Relays (planControls L pl) l ok ∧
      (planControls L pl ≠ [] →
        (ResultReply id ((pl.reply E id w).take (droneMaxMsgLen - 1)) ↔ ok = true)) := by
  rw [resultReply_iff_succeeds]
  cases pl with
  | ping | refuse =>
      exact ⟨[], true, (List.append_nil _).symm, .done, fun h => absurd rfl h⟩
  | invoke c failure body =>
      obtain ⟨l, hl, ok, hrelays, hiff⟩ := views_realCtrl L S c w.ctrl
      refine ⟨l, ok, ?_, hrelays, fun hne => ?_⟩
      · simp only [Plan.ctrl, hE]
        exact hl
      · simp only [Plan.Succeeds, hE]
        exact hiff hne

/-- One poll: the request in it is treated. -/
theorem serve_treats
    (w : World (RealState τ)) (p : Poll (RealState τ)) :
    ∃ ts, List.Forall₂ (Treats P L) (p.request P).toList ts ∧
      (serve P (realCtrl L S) w p).ctrl.trace.filterMap sysControl =
        (p.between w.ctrl).trace.filterMap sysControl ++ ts.flatMap Treatment.controls ∧
      (serve P (realCtrl L S) w p).events.filterMap datagramOf =
        w.events.filterMap datagramOf ++ ts.map (fun t => (t.peer, t.reply)) := by
  cases hreq : p.request P with
  | none =>
      refine ⟨[], .nil, ?_, ?_⟩
      · rw [serve_of_none hreq, List.flatMap_nil, List.append_nil]
      · rw [serve_of_none hreq, List.map_nil, List.append_nil]
  | some r =>
      obtain ⟨peer, req⟩ := r
      let E := p.env P (realCtrl L S)
      let w' : World (RealState τ) := { w with ctrl := p.between w.ctrl }
      obtain ⟨l, ok, hl, hrelays, hiff⟩ := plan_relays L S E rfl w' (req.plan P) req.id
      let t : Treatment := {
        controls := l
        peer := peer
        reply := ((req.plan P).reply E req.id w').take (droneMaxMsgLen - 1) }
      have ht : Treats P L (peer, req) t := {
        peer := rfl
        answers := answers_reply E w' req (req.plan P)
        relays := ⟨ok, hrelays, hiff⟩ }
      refine ⟨[t], .cons ht .nil, ?_, ?_⟩
      · rw [serve_of_some hreq, exec_ctrl, List.flatMap_singleton]
        exact hl
      · have hcalls : ((req.plan P).calls E w').filterMap datagramOf = [] := by
          cases req.plan P with
          | ping | refuse | invoke =>
              rfl
        rw [serve_events hreq, List.filterMap_append, List.filterMap_append, hcalls,
          List.append_nil]
        rfl

end Polls

/-! ## Runs of the poll loop -/

/-- The request that the datagram of a round holds, with its sender. -/
def Round.request (P : Platform) (r : Round) : Option (SockaddrIn × RpcRequest) :=
  ({ between := id, rx := r.rx, startClock := r.startClock, nowClock := r.nowClock } :
    Poll Unit).request P

section Runs

variable {τ : Type} (P : Platform) (L : Libm) (sizeof : Sizes)
  (S : Outside DaemonCall.Out τ)

/-- The poll loop. -/
def pollLoop (rounds : List Round) : DaemonM τ PUnit := do
  for r in rounds do
    pollRound P L sizeof S r

/-- The server and the handlers in a state of the daemon. -/
def serverOf (m : Machine DaemonCall.Out τ DaemonVars) :
    UdpServer × World (RealState τ) :=
  (m.vars.srv, {
    ctrl := { outside := m.outside, vars := m.vars.real, trace := [] }
    gStart := m.vars.gStart
    gStarted := m.vars.gStarted
    events := m.vars.events })

/-- From `m` to `m'` the requests are treated, in their order, and the SDK gets no other
controls and no client another datagram. -/
def Treated (m : Machine DaemonCall.Out τ DaemonVars)
    (reqs : List (SockaddrIn × RpcRequest))
    (m' : Machine DaemonCall.Out τ DaemonVars) : Prop :=
  ∃ ts, List.Forall₂ (Treats P L) reqs ts ∧
    m'.trace.filterMap controlOf =
      m.trace.filterMap controlOf ++ ts.flatMap Treatment.controls ∧
    m'.vars.events.filterMap datagramOf =
      m.vars.events.filterMap datagramOf ++ ts.map (fun t => (t.peer, t.reply))

variable {m m₁ m₂ : Machine DaemonCall.Out τ DaemonVars}
  {reqs reqs' : List (SockaddrIn × RpcRequest)}

theorem treated_nil
    (m : Machine DaemonCall.Out τ DaemonVars) :
    Treated P L m [] m :=
  ⟨[], .nil, (List.append_nil _).symm, (List.append_nil _).symm⟩

theorem treated_append
    (h : Treated P L m reqs m₁)
    (h' : Treated P L m₁ reqs' m₂) :
    Treated P L m (reqs ++ reqs') m₂ := by
  obtain ⟨ts, hts, hcontrols, hsent⟩ := h
  obtain ⟨ts', hts', hcontrols', hsent'⟩ := h'
  refine ⟨ts ++ ts', List.rel_append hts hts', ?_, ?_⟩
  · rw [hcontrols', hcontrols, List.flatMap_append, List.append_assoc]
  · rw [hsent', hsent, List.map_append, List.append_assoc]

/-- Steps in front of a run that treat nothing. -/
theorem treated_skip
    (h : Treated P L m [] m₁)
    (h' : Treated P L m₁ reqs m₂) :
    Treated P L m reqs m₂ :=
  treated_append P L h h'

/-- What a round records. -/
theorem trace_pollRound
    (m : Machine DaemonCall.Out τ DaemonVars) (r : Round) :
    (pollRound P L sizeof S r m).2.trace =
      m.trace ++ (pollStep P (realCtrl L (sysOutside S)) (serverOf m)
        (pollOf sizeof r)).2.ctrl.trace.map sysEvent := by
  rfl

/-- One round: the request in its datagram is treated. -/
theorem treated_pollRound
    (m : Machine DaemonCall.Out τ DaemonVars) (r : Round) :
    Treated P L m (r.request P).toList (pollRound P L sizeof S r m).2 := by
  have hmatches : Matches m (serverOf m) := ⟨rfl, rfl, rfl, rfl, rfl, rfl⟩
  have hevents := (matches_pollRound P L sizeof S hmatches r).events
  have htrace := trace_pollRound P L sizeof S m r
  rw [pollStep_eq_serve] at hevents htrace
  obtain ⟨ts, hts, hcontrols, hsent⟩ :=
    serve_treats P L (sysOutside S) (serverOf m).2 (pollOf sizeof r)
  refine ⟨ts, hts, ?_, ?_⟩
  · rw [htrace, List.filterMap_append, List.filterMap_map]
    exact congrArg _ hcontrols
  · rw [hevents]
    exact hsent

theorem pollLoop_cons
    (r : Round) (rounds : List Round) (m : Machine DaemonCall.Out τ DaemonVars) :
    pollLoop P L sizeof S (r :: rounds) m =
      pollLoop P L sizeof S rounds (pollRound P L sizeof S r m).2 := by
  unfold pollLoop
  rw [List.forIn_cons]
  rfl

/-- A run of rounds: the requests in their datagrams are treated. -/
theorem treated_pollLoop
    (rounds : List Round) (m : Machine DaemonCall.Out τ DaemonVars) :
    Treated P L m (rounds.filterMap (Round.request P))
      (pollLoop P L sizeof S rounds m).2 := by
  induction rounds generalizing m with
  | nil =>
      exact treated_nil P L m
  | cons r rounds ih =>
      have hcons : (r :: rounds).filterMap (Round.request P) =
          (r.request P).toList ++ rounds.filterMap (Round.request P) := by
        cases h : r.request P <;> simp [h]
      rw [hcons, pollLoop_cons]
      exact treated_append P L (treated_pollRound P L sizeof S m r)
        (ih (pollRound P L sizeof S r m).2)

/-! ## Startup and shutdown -/

/-- Without controls and requests, no request is treated. -/
theorem treated_of_silent
    {α : Type} {x : DaemonM τ α}
    (hsilent : Silent controlOf x)
    (hleaves : Leaves handlersOf x)
    (m : Machine DaemonCall.Out τ DaemonVars) :
    Treated P L m [] (x m).2 := by
  obtain ⟨l, hl, rfl⟩ := hsilent m
  have hevents : (x m).2.vars.events = m.vars.events :=
    congrArg (fun v => v.2.2) (hleaves m)
  exact ⟨[], .nil, hl, by rw [hevents, List.map_nil, List.append_nil]⟩

theorem quiet_psdkHalRegister :
    Silent controlOf (psdkHalRegister S) := by
  unfold psdkHalRegister
  refine views_skip S (fun _ => rfl) (fun _ => ?_)
  refine views_ite (fun _ => silent_pure _) (fun _ => ?_)
  refine views_skip S (fun _ => rfl) (fun _ => ?_)
  refine views_ite (fun _ => silent_pure _) (fun _ => ?_)
  refine views_skip S (fun _ => rfl) (fun _ => ?_)
  refine views_skip S (fun _ => rfl) (fun _ => ?_)
  refine views_ite (fun _ => silent_pure _) (fun _ => ?_)
  refine views_skip S (fun _ => rfl) (fun _ => ?_)
  refine views_ite (fun _ => silent_pure _) (fun _ => ?_)
  refine views_skip S (fun _ => rfl) (fun _ => ?_)
  exact views_ite (fun _ => silent_pure _) (fun _ => silent_pure _)

theorem quiet_psdkInit :
    Silent controlOf (psdkInit S) := by
  unfold psdkInit
  refine views_silent_bind (quiet_psdkHalRegister S) (fun _ => ?_)
  refine views_ite (fun _ => silent_pure _) (fun _ => ?_)
  refine views_skip S (fun _ => rfl) (fun _ => ?_)
  refine views_ite (fun _ => silent_pure _) (fun _ => ?_)
  refine views_skip S (fun _ => rfl) (fun _ => ?_)
  refine views_skip S (fun _ => rfl) (fun _ => ?_)
  refine views_skip S (fun _ => rfl) (fun _ => ?_)
  refine views_skip S (fun _ => rfl) (fun _ => ?_)
  exact views_ite (fun _ => silent_pure _) (fun _ => silent_pure _)

theorem quiet_droneCtrlInit :
    Silent controlOf (inCtrl (droneCtrlInit (sysOutside S))) := by
  refine views_within _ _ ?_
  unfold droneCtrlInit
  refine views_skip (sysOutside S) (fun _ => rfl) (fun _ => ?_)
  refine views_ite (fun _ => silent_pure _) (fun _ => ?_)
  refine views_silent_bind ?_ (fun _ => ?_)
  · refine silent_forIn (fun t _ => ?_) subscribedTopics PUnit.unit
    exact views_skip (sysOutside S) (fun _ => rfl) (fun _ => silent_pure _)
  refine views_skip (sysOutside S) (fun _ => rfl) (fun _ => ?_)
  exact views_skip (sysOutside S) (fun _ => rfl) (fun _ => silent_pure _)

theorem quiet_abandonServer
    (fd : Int) :
    Silent controlOf (abandonServer S fd) := by
  unfold abandonServer
  refine views_skip S (fun _ => rfl) (fun _ => ?_)
  exact views_skip S (fun _ => rfl) (fun _ => silent_pure _)

theorem quiet_bindServer
    (fd : Int) (bindIp : Bytes) (port : UInt16) :
    Silent controlOf (bindServer S fd bindIp port) := by
  unfold bindServer
  refine views_skip S (fun _ => rfl) (fun _ => ?_)
  refine views_ite (fun _ => quiet_abandonServer S fd) (fun _ => ?_)
  exact views_silent_bind (silent_modifyVars _) (fun _ => silent_pure _)

theorem quiet_udpServerOpen
    (bindIp : Bytes) (port : UInt16) :
    Silent controlOf (udpServerOpen S bindIp port) := by
  unfold udpServerOpen
  refine views_skip S (fun _ => rfl) (fun _ => ?_)
  refine views_ite (fun _ => silent_pure _) (fun _ => ?_)
  refine views_skip S (fun _ => rfl) (fun fd => ?_)
  refine views_ite (fun _ => ?_) (fun _ => ?_)
  · exact views_skip S (fun _ => rfl) (fun _ => silent_pure _)
  refine views_skip S (fun _ => rfl) (fun _ => ?_)
  refine views_ite (fun _ => quiet_bindServer S fd bindIp port) (fun _ => ?_)
  refine views_skip S (fun _ => rfl) (fun _ => ?_)
  exact views_ite (fun _ => quiet_abandonServer S fd)
    (fun _ => quiet_bindServer S fd bindIp port)

theorem quiet_droneCtrlDeinit :
    Silent controlOf (inCtrl (droneCtrlDeinit (sysOutside S))) := by
  refine views_within _ _ ?_
  have hmanagers : Silent (fun e => controlOf (sysEvent e))
      (do
        let _ ← callOut (sysOutside S) .gimbalManagerDeinit
        let _ ← callOut (sysOutside S) .cameraManagerDeInit
        let _ ← callOut (sysOutside S) .fcSubscriptionDeInit : RealM τ Unit) := by
    refine views_skip (sysOutside S) (fun _ => rfl) (fun _ => ?_)
    refine views_skip (sysOutside S) (fun _ => rfl) (fun _ => ?_)
    exact views_skip (sysOutside S) (fun _ => rfl) (fun _ => silent_pure _)
  unfold droneCtrlDeinit
  refine views_silent_bind silent_readVars (fun _ => ?_)
  refine views_ite (fun _ => ?_) (fun _ => hmanagers)
  refine views_skip (sysOutside S) (fun _ => rfl) (fun _ => ?_)
  exact views_silent_bind (silent_modifyVars _) (fun _ => hmanagers)

theorem treated_psdkDeinit
    (m : Machine DaemonCall.Out τ DaemonVars) :
    Treated P L m [] (psdkDeinit S m).2 :=
  treated_of_silent P L (views_skip S (fun _ => rfl) (fun _ => silent_pure _))
    (leaves_call S (fun _ => leaves_pure _)) m

theorem treated_udpServerDestroy
    (fd : Int) (m : Machine DaemonCall.Out τ DaemonVars) :
    Treated P L m [] (udpServerDestroy S fd m).2 := by
  refine treated_of_silent P L ?_ ?_ m
  · refine views_skip S (fun _ => rfl) (fun _ => ?_)
    exact views_skip S (fun _ => rfl) (fun _ => silent_pure _)
  · exact leaves_call S (fun _ => leaves_call S (fun _ => leaves_pure _))

/-- The shutdown, with the exit code. -/
theorem treated_shutdown
    (code : Nat) (m : Machine DaemonCall.Out τ DaemonVars) :
    Treated P L m [] ((do
        inCtrl (droneCtrlDeinit (sysOutside S))
        psdkDeinit S
        return code : DaemonM τ Nat) m).2 := by
  have hctrl := treated_of_silent P L (quiet_droneCtrlDeinit S) (fun _ => rfl) m
  exact treated_skip P L hctrl (treated_psdkDeinit P L S _)

/-- **Every control exactly once.**  In every run of the daemon, whatever the SDK and the
system answer: the controls that the SDK gets between the start of `main` and its end are
those of the requests in the datagrams, in their order, each once and up to the first
refusal; each request is answered, with a result exactly if the SDK accepted its controls;
and if the daemon does not come as far as the poll loop, the SDK gets none. -/
theorem controls_relayed
    (bindIp : Bytes) (port : UInt16) (rounds : List Round)
    (m : Machine DaemonCall.Out τ DaemonVars) :
    let r := mainAfterOptions P L sizeof S bindIp port rounds m
    Treated P L m (if r.1 = 0 then rounds.filterMap (Round.request P) else []) r.2 := by
  unfold mainAfterOptions
  simp only [run_bind]
  have hinit := treated_of_silent P L (quiet_psdkInit S) (leaves_psdkInit S) m
  generalize psdkInit S m = r₁ at hinit ⊢
  rcases r₁ with ⟨_ | _, m₁⟩
  · exact hinit
  have hctrl := treated_of_silent P L (quiet_droneCtrlInit S) (fun _ => rfl) m₁
  simp only [Bool.not_true, Bool.false_eq_true, if_false, run_bind]
  generalize inCtrl (droneCtrlInit (sysOutside S)) m₁ = r₂ at hctrl ⊢
  rcases r₂ with ⟨_ | _, m₂⟩
  · exact treated_skip P L hinit (treated_skip P L hctrl (treated_psdkDeinit P L S m₂))
  have hopen := treated_of_silent P L (quiet_udpServerOpen S bindIp port)
    (leaves_udpServerOpen S bindIp port) m₂
  simp only [Bool.not_true, Bool.false_eq_true, if_false, run_bind]
  generalize udpServerOpen S bindIp port m₂ = r₃ at hopen ⊢
  have hbefore := treated_skip P L hinit (treated_skip P L hctrl hopen)
  rcases r₃ with ⟨_ | fd, m₃⟩
  · exact treated_skip P L hbefore (treated_shutdown P L S 4 m₃)
  have hrounds := treated_pollLoop P L sizeof S rounds m₃
  have hafter := treated_skip P L
    (treated_udpServerDestroy P L S fd (pollLoop P L sizeof S rounds m₃).2)
    (treated_shutdown P L S 0 _)
  have hrun := treated_append P L (treated_skip P L hbefore hrounds) hafter
  rw [List.append_nil] at hrun
  exact hrun

/-! ## From the wire to the SDK -/

/-- The round brings a request for the call. -/
def Round.Asks (r : Round) (c : DroneCall) : Prop :=
  ∃ peer id, r.rx = some (peer, c.request id)

variable {P} {cs : List DroneCall} {rounds : List Round}

/-- The SDK gets the controls of a sequence of calls, each call up to its first refusal. -/
def Gets (L : Libm) (cs : List DroneCall) (controls : List Control) : Prop :=
  ∃ parts, List.Forall₂ (fun c l => ∃ ok, Relays (controlsFor L c) l ok) cs parts ∧
    controls = parts.flatten

/-- Without a refusal, these are all the controls of the calls. -/
theorem Gets.complete
    {L : Libm} {controls : List Control}
    (h : Gets L cs controls)
    (hall : ∀ x ∈ controls, x.accepted = true) :
    controls.map Control.call = cs.flatMap (controlsFor L) := by
  obtain ⟨parts, hparts, rfl⟩ := h
  induction hparts with
  | nil =>
      rfl
  | cons hc _ ih =>
      obtain ⟨ok, hrelays⟩ := hc
      simp only [List.flatten_cons, List.forall_mem_append] at hall
      rw [List.flatten_cons, List.map_append, List.flatMap_cons, hrelays.complete hall.1,
        ih hall.2]

end Runs

end Real
end PsdkBridge
