import PsdkBridge.Replies

/-!
# The modes in the stub build

`drone.set_camera_mode` and `drone.set_obstacle_avoidance` coerce the parameter
`mode` to an `int`, reject the negative ones, and cast the others to an
enumeration.  The stub build stores the camera mode and reports it later.

The module follows whole runs of requests from the initial state.
`modesKept_iff` says exactly in which runs only the declared modes are used, and
that `drone.get_camera_state` reports what was last accepted.
-/

namespace PsdkBridge

/-- One of the enumerators of `CameraMode`. -/
def CameraMode.Declared (m : CameraMode) : Prop :=
  m = .photo ∨ m = .video

/-- One of the enumerators of `ObstacleAvoidMode`. -/
def ObstacleAvoidMode.Declared (m : ObstacleAvoidMode) : Prop :=
  m = .close ∨ m = .opened ∨ m = .brake

theorem eq_zero_or_one
    {n : Int32}
    (h₀ : ¬ n < 0)
    (h₂ : ¬ 2 ≤ n) :
    n = 0 ∨ n = 1 := by
  simp only [← Int32.toInt_inj, Int32.lt_iff_toInt_lt, Int32.le_iff_toInt_le] at *
  have h0 : (0 : Int32).toInt = 0 := rfl
  have h1 : (1 : Int32).toInt = 1 := rfl
  have h2 : (2 : Int32).toInt = 2 := rfl
  omega

theorem eq_zero_or_one_or_two
    {n : Int32}
    (h₀ : ¬ n < 0)
    (h₃ : ¬ 3 ≤ n) :
    n = 0 ∨ n = 1 ∨ n = 2 := by
  simp only [← Int32.toInt_inj, Int32.lt_iff_toInt_lt, Int32.le_iff_toInt_le] at *
  have h0 : (0 : Int32).toInt = 0 := rfl
  have h1 : (1 : Int32).toInt = 1 := rfl
  have h2 : (2 : Int32).toInt = 2 := rfl
  have h3 : (3 : Int32).toInt = 3 := rfl
  omega

theorem CameraMode.declared_ofInt
    {n : Int32}
    (h : n = 0 ∨ n = 1) :
    (CameraMode.ofInt n).Declared := by
  rcases h with rfl | rfl
  · exact Or.inl rfl
  · exact Or.inr rfl

theorem ObstacleAvoidMode.declared_ofInt
    {n : Int32}
    (h : n = 0 ∨ n = 1 ∨ n = 2) :
    (ObstacleAvoidMode.ofInt n).Declared := by
  rcases h with rfl | rfl | rfl
  · exact Or.inl rfl
  · exact Or.inr (Or.inl rfl)
  · exact Or.inr (Or.inr rfl)

theorem CameraMode.toInt_ofInt
    (n : Int32) :
    (CameraMode.ofInt n).toInt = n := by
  unfold CameraMode.ofInt
  split_ifs with h₀ h₁
  · exact h₀.symm
  · exact h₁.symm
  · rfl

namespace Stub

/-! ## Runs of requests -/

/-- A line received in the stub build, with the clock readings of the moment. -/
structure Received where
  mock : MockPosition
  startClock : Timespec
  nowClock : Timespec
  peer : SockaddrIn
  line : Bytes

section Runs

variable (P : Platform)

/-- The environment a line is handled in. -/
def Received.env (r : Received) : Env StubState where
  platform := P
  droneCtrl := stubCtrl r.mock
  startClock := r.startClock
  nowClock := r.nowClock

/-- Handling of one line. -/
def step (w : World StubState) (r : Received) : World StubState :=
  handleRpc (r.env P) r.peer r.line w

/-- The daemon after a sequence of lines. -/
def run (rs : List Received) : World StubState :=
  rs.foldl (step P) stubWorld

/-- The events that a line adds. -/
def Received.newEvents (r : Received) (w : World StubState) : List Event :=
  PsdkBridge.newEvents (r.env P) r.peer r.line w

/-- The parameter `mode` of the setters. -/
def modeParam (params : Json) : Int32 :=
  rpcParamInt P params (ascii "mode") (-1)

/-- The line is a request for the method `k` with the given identifier and
parameters. -/
def Received.Requests (r : Received) (k : Method) (req : RpcRequest) : Prop :=
  rpcParse P r.line = some req ∧ req.method = ascii k.name

/-- The line asks one of the setters for a mode that is not in its list. -/
def Received.AsksOtherMode (r : Received) (req : RpcRequest) : Prop :=
  (r.Requests P .setCameraMode req ∧ ¬ (modeParam P req.params = 0 ∨
      modeParam P req.params = 1)) ∨
  (r.Requests P .setObstacleAvoidance req ∧ ¬ (modeParam P req.params = 0 ∨
      modeParam P req.params = 1 ∨ modeParam P req.params = 2))

/-- The line asks one of the setters for a mode past the end of its list. -/
def Received.Slips (r : Received) : Prop :=
  (∃ req, r.Requests P .setCameraMode req ∧ 2 ≤ modeParam P req.params) ∨
  (∃ req, r.Requests P .setObstacleAvoidance req ∧ 3 ≤ modeParam P req.params)

/-- The line sets the camera mode `m`, and is answered with a result. -/
def Received.SetsMode (r : Received) (w : World StubState) (m : Int32) : Prop :=
  ∃ req, r.Requests P .setCameraMode req ∧ modeParam P req.params = m ∧
    ∃ buf len, .send r.peer buf len ∈ r.newEvents P w ∧ ResultReply req.id buf

/-- The last line of the run that set the camera mode set it to `m`. -/
def LastSet (rs : List Received) (m : Int32) : Prop :=
  ∃ pre r post, rs = pre ++ r :: post ∧ r.SetsMode P (run P pre) m ∧
    ∀ pre' r' post', post = pre' ++ r' :: post' →
      ∀ m', ¬ r'.SetsMode P (run P (pre ++ r :: pre')) m'

/-- The buffer holds the camera state with the mode `m`. -/
def ReportsMode (id m : Int32) (buf : Bytes) : Prop :=
  resultHead id.toInt ++ (ascii "\x7b\"mode\":" ++ decInt m.toInt ++ ascii ",") <+: buf

/-- What a run owes to the enumerations. -/
structure ModesKept (rs : List Received) : Prop where
  /-- The stored camera mode is declared, at any time. -/
  stored : ∀ pre, pre <+: rs → (run P pre).ctrl.camMode.Declared
  /-- The drone control layer receives declared modes only. -/
  called : ∀ m err, .call (.setObstacleAvoidance m) err ∈ (run P rs).events → m.Declared
  /-- Any other mode is answered with an error and changes nothing. -/
  refused : ∀ pre r post, rs = pre ++ r :: post → ∀ req, r.AsksOtherMode P req →
    (∃ buf len, r.newEvents P (run P pre) = [.send r.peer buf len] ∧
      ErrorReply req.id buf) ∧
    (step P (run P pre) r).ctrl = (run P pre).ctrl
  /-- The camera state reports the mode that was last set. -/
  reported : ∀ pre r post, rs = pre ++ r :: post →
    ∀ req m, r.Requests P .getCameraState req → LastSet P pre m →
    ∃ buf len, .send r.peer buf len ∈ r.newEvents P (run P pre) ∧
      ReportsMode req.id m buf

/-! ## One line -/

variable {P}

theorem newEvents_of_requests
    {r : Received} {k : Method} {req : RpcRequest}
    (h : r.Requests P k req)
    (w : World StubState) :
    r.newEvents P w = (k.plan P req.params).calls (r.env P) w ++
      [sendEvent r.peer ((k.plan P req.params).reply (r.env P) req.id w)] := by
  rw [← plan_of_name h.2]
  exact newEvents_of_some (r.env P) r.peer h.1 w

theorem step_ctrl_of_requests
    {r : Received} {k : Method} {req : RpcRequest}
    (h : r.Requests P k req)
    (w : World StubState) :
    (step P w r).ctrl = (k.plan P req.params).ctrl (r.env P) w := by
  have hreq : rpcParse (r.env P).platform r.line = some req := h.1
  rw [← plan_of_name h.2]
  simp only [step, handleRpc, hreq]
  rw [dispatch_eq_exec, exec_ctrl]
  rfl

theorem step_events
    (w : World StubState) (r : Received) :
    (step P w r).events = w.events ++ r.newEvents P w := by
  cases hreq : rpcParse (r.env P).platform r.line with
  | none =>
      simp [step, Received.newEvents, newEvents, handleRpc_of_none _ _ hreq]
  | some req =>
      rw [step, Received.newEvents, newEvents_of_some _ _ hreq, handleRpc_events _ _ hreq,
        List.append_assoc]

/-- A request sends its reply and nothing else. -/
theorem send_mem_newEvents_iff
    {r : Received} {k : Method} {req : RpcRequest}
    (h : r.Requests P k req)
    (w : World StubState) (buf : Bytes) (len : Nat) :
    .send r.peer buf len ∈ r.newEvents P w ↔
      .send r.peer buf len =
        sendEvent r.peer ((k.plan P req.params).reply (r.env P) req.id w) := by
  rw [newEvents_of_requests h w]
  cases k.plan P req.params with
  | ping | refuse | invoke =>
      simp [Plan.calls]

/-- The setter answers with a result exactly if its mode is not negative. -/
theorem setsMode_iff
    (r : Received) (w : World StubState) (m : Int32) :
    r.SetsMode P w m ↔
      ∃ req, r.Requests P .setCameraMode req ∧ modeParam P req.params = m ∧ ¬ m < 0 := by
  constructor
  · rintro ⟨req, hreq, rfl, hack⟩
    refine ⟨req, hreq, rfl, fun hneg => ?_⟩
    have hneg' : rpcParamInt P req.params (ascii "mode") (-1) < 0 := hneg
    have hplan := (acknowledged_iff (r.env P) r.peer hreq.1 w).mp hack
    rw [plan_of_name hreq.2] at hplan
    simp [Method.plan, Received.env, hneg', Plan.Succeeds] at hplan
  · rintro ⟨req, hreq, rfl, hpos⟩
    refine ⟨req, hreq, rfl, (acknowledged_iff (r.env P) r.peer hreq.1 w).mpr ?_⟩
    have hpos' : ¬ rpcParamInt P req.params (ascii "mode") (-1) < 0 := hpos
    rw [plan_of_name hreq.2]
    simp [Method.plan, hpos', Plan.Succeeds, commandPlan, Received.env, stubCtrl]

/-- The line that sets a mode stores it. -/
theorem camMode_of_setsMode
    {r : Received} {w : World StubState} {m : Int32}
    (h : r.SetsMode P w m) :
    (step P w r).ctrl.camMode = .ofInt m := by
  obtain ⟨req, hreq, rfl, hpos⟩ := (setsMode_iff r w m).mp h
  have hpos' : ¬ rpcParamInt P req.params (ascii "mode") (-1) < 0 := hpos
  rw [step_ctrl_of_requests hreq]
  simp [Method.plan, hpos', Plan.ctrl, commandPlan, Received.env, stubCtrl, modeParam]

/-- Other methods leave the camera mode. -/
theorem camMode_of_other_method
    {r : Received} {k : Method} {req : RpcRequest}
    (h : r.Requests P k req)
    (hk : k ≠ .setCameraMode)
    (w : World StubState) :
    (step P w r).ctrl.camMode = w.ctrl.camMode := by
  rw [step_ctrl_of_requests h]
  rcases plan_cases P req.params k with ⟨_, hping⟩ | ⟨_, hrefuse⟩ | ⟨c, _, _, rfl, hinvoke⟩
  · rw [hping]
    rfl
  · rw [hrefuse]
    rfl
  · rw [hinvoke]
    cases c with
    | setCameraMode mode =>
        exact absurd rfl hk
    | _ =>
        rfl

/-- A line that sets no mode leaves the stored one. -/
theorem camMode_of_not_setsMode
    {r : Received} {w : World StubState}
    (h : ∀ m, ¬ r.SetsMode P w m) :
    (step P w r).ctrl.camMode = w.ctrl.camMode := by
  cases hreq : rpcParse P r.line with
  | none =>
      rw [step, handleRpc_of_none _ _ hreq]
  | some req =>
      cases hk : Method.ofText req.method with
      | none =>
          simp only [step, handleRpc, Received.env, hreq]
          rw [dispatch_eq_exec, exec_ctrl, RpcRequest.plan, hk]
          rfl
      | some k =>
          have hr : r.Requests P k req := ⟨hreq, Method.ofText_eq_some.mp hk⟩
          by_cases hcam : k = .setCameraMode
          · subst hcam
            have hneg : rpcParamInt P req.params (ascii "mode") (-1) < 0 := by
              by_contra hpos
              exact h _ ((setsMode_iff r w _).mpr ⟨req, hr, rfl, hpos⟩)
            rw [step_ctrl_of_requests hr]
            simp only [Method.plan, hneg, if_true, Plan.ctrl]
          · exact camMode_of_other_method hr hcam w

/-- A line that does not slip through calls for a declared mode only. -/
theorem called_declared_of_not_slips
    {r : Received}
    (h : ¬ r.Slips P)
    {w : World StubState} {m : ObstacleAvoidMode} {err : DroneError}
    (hcall : .call (.setObstacleAvoidance m) err ∈ r.newEvents P w) :
    m.Declared := by
  rcases handleRpc_calls (r.env P) r.peer r.line w with
    ⟨_, hnone⟩ | ⟨req, c, failure, body, hreq, hm, hplan, _, hcalls⟩
  · exact absurd hcall (hnone _ err)
  · obtain ⟨rfl, _⟩ := (hcalls _ err).mp hcall
    have hr : r.Requests P .setObstacleAvoidance req := ⟨hreq, hm⟩
    simp only [DroneCall.method, Method.plan, commandPlan] at hplan
    split_ifs at hplan with hneg
    cases hplan
    exact ObstacleAvoidMode.declared_ofInt
      (eq_zero_or_one_or_two hneg (fun h₃ => h (Or.inr ⟨req, hr, h₃⟩)))

/-- The guard of the two setters refuses a negative mode. -/
theorem refused_of_negative
    {r : Received} {k : Method} {req : RpcRequest}
    (h : r.Requests P k req)
    (hk : k = .setCameraMode ∨ k = .setObstacleAvoidance)
    (hneg : modeParam P req.params < 0)
    (w : World StubState) :
    (∃ buf len, r.newEvents P w = [.send r.peer buf len] ∧ ErrorReply req.id buf) ∧
    (step P w r).ctrl = w.ctrl := by
  have hneg' : rpcParamInt P req.params (ascii "mode") (-1) < 0 := hneg
  have hplan : ∃ msg, k.plan P req.params = .refuse msg := by
    apply plan_refuses_of_badParams
    rcases hk with rfl | rfl <;> simpa [Method.badParams] using hneg'
  obtain ⟨msg, hmsg⟩ := hplan
  constructor
  · refine ⟨_, (errorText req.id (ascii msg)).length, ?_,
      errorReply_take req.id (ascii msg)⟩
    rw [newEvents_of_requests h w, hmsg]
    rfl
  · rw [step_ctrl_of_requests h, hmsg]
    rfl

/-- A mode that is in no list and does not slip through is negative. -/
theorem negative_of_asksOtherMode
    {r : Received} {req : RpcRequest}
    (h : r.AsksOtherMode P req)
    (hslips : ¬ r.Slips P) :
    ∃ k, r.Requests P k req ∧ (k = .setCameraMode ∨ k = .setObstacleAvoidance) ∧
      modeParam P req.params < 0 := by
  rcases h with ⟨hr, hmode⟩ | ⟨hr, hmode⟩
  · refine ⟨_, hr, Or.inl rfl, ?_⟩
    by_contra hpos
    exact hmode (eq_zero_or_one hpos (fun h₂ => hslips (Or.inl ⟨req, hr, h₂⟩)))
  · refine ⟨_, hr, Or.inr rfl, ?_⟩
    by_contra hpos
    exact hmode (eq_zero_or_one_or_two hpos (fun h₃ => hslips (Or.inr ⟨req, hr, h₃⟩)))

/-- The buffer of the camera state keeps the mode. -/
theorem mode_starts_body
    (c : DroneCameraState) :
    ascii "\x7b\"mode\":" ++ decInt c.mode.toInt.toInt ++ ascii "," <+:
      (snprintf 128 (printCameraState P c)).stored := by
  have hlen := decInt_id_length_le c.mode.toInt
  apply prefix_take
  · have hsplit : ascii ",\"is_recording\":" = ascii "," ++ ascii "\"is_recording\":" := rfl
    simp only [printCameraState, hsplit, List.append_assoc]
    exact ⟨_, by simp only [List.append_assoc]; rfl⟩
  · simp [ascii]
    omega

/-- The camera state starts with the stored mode. -/
theorem reportsMode_of_requests
    {r : Received} {req : RpcRequest}
    (h : r.Requests P .getCameraState req)
    (w : World StubState) :
    ∃ buf len, .send r.peer buf len ∈ r.newEvents P w ∧
      ReportsMode req.id w.ctrl.camMode.toInt buf := by
  refine ⟨_, _, (send_mem_newEvents_iff h w _ _).mpr rfl, ?_⟩
  obtain ⟨rest, hrest⟩ := mode_starts_body (P := P) (droneGetCameraState w.ctrl)
  have hreply : Plan.reply (r.env P) req.id w (Method.getCameraState.plan P req.params) =
      resultHead req.id.toInt ++
        ((snprintf 128 (printCameraState P (droneGetCameraState w.ctrl))).stored ++
          ascii "\x7d") := by
    simp only [Method.plan, getPlan, Plan.reply, Received.env, stubCtrl, if_true, ← hrest]
    simp [resultText, resultHead, ascii]
  have hid := decInt_id_length_le req.id
  have hmode := decInt_id_length_le w.ctrl.camMode.toInt
  rw [hreply, ← hrest]
  apply prefix_take
  · exact ⟨rest ++ ascii "\x7d", by simp [droneGetCameraState]⟩
  · simp [resultHead, ascii, droneMaxMsgLen]
    omega

/-! ## Whole runs -/

theorem run_snoc
    (rs : List Received) (r : Received) :
    run P (rs ++ [r]) = step P (run P rs) r := by
  simp [run]

/-- The last line of a run sets the mode, or it does not and an earlier one
did. -/
theorem lastSet_snoc
    {rs : List Received} {s : Received} {m : Int32}
    (h : LastSet P (rs ++ [s]) m) :
    s.SetsMode P (run P rs) m ∨
      (LastSet P rs m ∧ ∀ m', ¬ s.SetsMode P (run P rs) m') := by
  obtain ⟨pre, r, post, heq, hset, hlater⟩ := h
  rcases List.eq_nil_or_concat post with rfl | ⟨init, t, rfl⟩
  · have hlast := List.append_inj' heq rfl
    obtain ⟨rfl, hr⟩ := hlast
    obtain rfl : s = r := by simpa using hr
    exact Or.inl hset
  · have hlast : rs = pre ++ r :: init ∧ [s] = [t] :=
      List.append_inj' (by simpa using heq) rfl
    obtain ⟨rfl, ht⟩ := hlast
    obtain rfl : s = t := by simpa using ht
    refine Or.inr ⟨⟨pre, r, init, rfl, hset, ?_⟩, hlater init s [] (by simp)⟩
    rintro pre' r' post' rfl
    exact hlater pre' r' (post' ++ [s]) (by simp)

/-- The stored mode is the one that was last set. -/
theorem camMode_of_lastSet
    (rs : List Received) {m : Int32}
    (h : LastSet P rs m) :
    (run P rs).ctrl.camMode.toInt = m := by
  induction rs using List.reverseRecOn with
  | nil =>
      obtain ⟨pre, r, post, heq, _⟩ := h
      simp at heq
  | append_singleton rs s ih =>
      rw [run_snoc]
      rcases lastSet_snoc h with hset | ⟨hlast, hnone⟩
      · rw [camMode_of_setsMode hset, CameraMode.toInt_ofInt]
      · rw [camMode_of_not_setsMode hnone]
        exact ih hlast

/-- One line that does not slip through keeps the stored mode declared. -/
theorem camMode_declared_step
    {w : World StubState} {r : Received}
    (h : w.ctrl.camMode.Declared)
    (hslips : ¬ r.Slips P) :
    (step P w r).ctrl.camMode.Declared := by
  by_cases hset : ∃ m, r.SetsMode P w m
  · obtain ⟨m, hm⟩ := hset
    rw [camMode_of_setsMode hm]
    obtain ⟨req, hreq, rfl, hpos⟩ := (setsMode_iff r w m).mp hm
    exact CameraMode.declared_ofInt
      (eq_zero_or_one hpos (fun h₂ => hslips (Or.inl ⟨req, hreq, h₂⟩)))
  · rw [camMode_of_not_setsMode (not_exists.mp hset)]
    exact h

/-- The modes of a run without such lines are declared. -/
theorem run_declared
    (rs : List Received)
    (h : ∀ r ∈ rs, ¬ r.Slips P) :
    (run P rs).ctrl.camMode.Declared ∧
      ∀ m err, .call (.setObstacleAvoidance m) err ∈ (run P rs).events → m.Declared := by
  induction rs using List.reverseRecOn with
  | nil =>
      exact ⟨Or.inl rfl, by simp [run, stubWorld]⟩
  | append_singleton rs s ih =>
      obtain ⟨hmode, hcalls⟩ := ih (fun r hr => h r (by simp [hr]))
      have hs := h s (by simp)
      rw [run_snoc]
      refine ⟨camMode_declared_step hmode hs, ?_⟩
      intro m err hcall
      rw [step_events, List.mem_append] at hcall
      rcases hcall with hold | hnew
      · exact hcalls m err hold
      · exact called_declared_of_not_slips hs hnew

/-- A mode that is not negative is passed on. -/
theorem not_refused_of_nonneg
    {r : Received} {k : Method} {req : RpcRequest} {n : Int32}
    (hreq : r.Requests P k req)
    (hk : k = .setCameraMode ∨ k = .setObstacleAvoidance)
    (hn : 0 ≤ n)
    (hmode : n ≤ modeParam P req.params)
    (w : World StubState)
    (buf : Bytes) (len : Nat) :
    r.newEvents P w ≠ [.send r.peer buf len] := by
  have hpos : ¬ rpcParamInt P req.params (ascii "mode") (-1) < 0 := by
    intro hneg
    exact absurd (Int32.lt_of_le_of_lt (Int32.le_trans hn hmode) hneg) Int32.lt_irrefl
  rw [newEvents_of_requests hreq w]
  rcases hk with rfl | rfl
  · simp [Method.plan, hpos, commandPlan, Plan.calls]
  · simp [Method.plan, hpos, commandPlan, Plan.calls]

/-- A line that slips through asks for another mode and is not refused. -/
theorem not_refused_of_slips
    {r : Received}
    (h : r.Slips P)
    (w : World StubState) :
    ∃ req, r.AsksOtherMode P req ∧
      ∀ buf len, r.newEvents P w ≠ [.send r.peer buf len] := by
  rcases h with ⟨req, hreq, hmode⟩ | ⟨req, hreq, hmode⟩
  · have hother : ¬ (modeParam P req.params = 0 ∨ modeParam P req.params = 1) := by
      rintro (h | h) <;> rw [h] at hmode <;> exact absurd hmode (by decide)
    exact ⟨req, Or.inl ⟨hreq, hother⟩,
      not_refused_of_nonneg hreq (Or.inl rfl) (by decide) hmode w⟩
  · have hother : ¬ (modeParam P req.params = 0 ∨ modeParam P req.params = 1 ∨
        modeParam P req.params = 2) := by
      rintro (h | h | h) <;> rw [h] at hmode <;> exact absurd hmode (by decide)
    exact ⟨req, Or.inr ⟨hreq, hother⟩,
      not_refused_of_nonneg hreq (Or.inr rfl) (by decide) hmode w⟩

theorem not_modesKept_of_slips
    {rs : List Received} {r : Received}
    (hr : r ∈ rs)
    (h : r.Slips P) :
    ¬ ModesKept P rs := by
  intro hkept
  obtain ⟨pre, post, rfl⟩ := List.append_of_mem hr
  obtain ⟨req, hother, hsend⟩ := not_refused_of_slips h (run P pre)
  obtain ⟨⟨buf, len, hev, _⟩, _⟩ := hkept.refused pre r post rfl req hother
  exact hsend buf len hev

/-- **Modes over whole runs.**  A run of the stub build keeps to the declared
modes exactly if no request asks for a camera mode from 2 on or an obstacle
avoidance mode from 3 on: the check of the handlers is one-sided. -/
theorem modesKept_iff
    (P : Platform) (rs : List Received) :
    ModesKept P rs ↔ ∀ r ∈ rs, ¬ r.Slips P := by
  constructor
  · intro hkept r hr hslips
    exact not_modesKept_of_slips hr hslips hkept
  · intro h
    refine ⟨?_, (run_declared rs h).2, ?_, ?_⟩
    · intro pre hpre
      exact (run_declared pre (fun r hr => h r (hpre.subset hr))).1
    · rintro pre r post rfl req hother
      obtain ⟨k, hreq, hk, hneg⟩ := negative_of_asksOtherMode hother (h r (by simp))
      exact refused_of_negative hreq hk hneg (run P pre)
    · rintro pre r post - req m hreq hlast
      rw [← camMode_of_lastSet pre hlast]
      exact reportsMode_of_requests hreq (run P pre)

end Runs

/-- The parameters of a request for the mode 7. -/
def modeSeven : List Member :=
  [{ key := ascii "mode", text := decInt 7, val := .int 7 }]

/-- The request `drone.set_camera_mode` with the mode 7. -/
def setModeSeven : Received where
  mock := { lat := .fin 0, lon := .fin 0, altMslM := .fin 0, headingDeg := .fin 0 }
  startClock := { tvSec := 0, tvNsec := 0 }
  nowClock := { tvSec := 0, tvNsec := 0 }
  peer := localPeer
  line := requestLine 1 .setCameraMode modeSeven

theorem setsMode_setModeSeven :
    setModeSeven.SetsMode gnuPlatform stubWorld 7 := by
  have hok : ∀ m ∈ modeSeven, m.Ok := by
    intro m hm
    simp only [modeSeven, List.mem_singleton] at hm
    subst hm
    exact ⟨by decide, reads_int 7⟩
  have hstored : ∀ m ∈ modeSeven, m.val.Storable := by
    intro m hm
    obtain rfl := List.mem_singleton.mp hm
    exact storable_int (by decide)
  have hreq := rpcParse_requestLine (i := 1) (by decide) .setCameraMode hok hstored
    (by decide)
  exact (setsMode_iff _ _ _).mpr ⟨_, ⟨hreq, rfl⟩, rfl, by decide⟩

/-- The camera mode 7 is accepted and stored. -/
theorem cameraMode_seven_stored :
    (run gnuPlatform [setModeSeven]).ctrl.camMode = .other 7 ∧
      ¬ ModesKept gnuPlatform [setModeSeven] := by
  have hrun : run gnuPlatform [setModeSeven] =
      step gnuPlatform stubWorld setModeSeven := by
    rw [run, List.foldl_cons, List.foldl_nil]
  have hmode : (run gnuPlatform [setModeSeven]).ctrl.camMode = .other 7 := by
    rw [hrun, camMode_of_setsMode setsMode_setModeSeven]
    rfl
  refine ⟨hmode, fun hkept => ?_⟩
  have hdecl := hkept.stored [setModeSeven] (List.prefix_refl _)
  rw [hmode] at hdecl
  simp [CameraMode.Declared] at hdecl

end Stub

end PsdkBridge
