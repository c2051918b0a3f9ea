import PsdkBridge.Dispatch
import PsdkBridge.RealCtrl

/-!
# The life of the waypoint module

The waypoint module of the SDK is initialised by the first upload that needs it,
in three steps, and deinitialised with the drone control layer.  A single flag
remembers whether all three steps were done.

`waypointProtocol` is the order in which the module may be used.  `Tracking` is
the invariant that the flag tells the truth; `Lost` is what a failed
registration of a callback leaves behind.  Both survive every further upload,
and `disciplined_iff` draws the conclusion for whole runs.
-/

namespace PsdkBridge
namespace Real

/-- The state of the waypoint module, as far as its calls determine it. -/
structure ModuleState where
  inited : Bool
  mission : Bool
  action : Bool
deriving DecidableEq

/-- Initialised, with both callbacks registered. -/
def ModuleState.Ready (st : ModuleState) : Prop :=
  st.inited = true ∧ st.mission = true ∧ st.action = true

/-- What a call does to the module.  Any call of `DeInit` ends its use. -/
def ModuleState.next (st : ModuleState) : CallEvent SysCall.Out → ModuleState
  | ⟨.waypointV3Init, (rc : ReturnCode)⟩ =>
      if rc = success then { st with inited := true } else st
  | ⟨.waypointV3RegMissionStateCallback, (rc : ReturnCode)⟩ =>
      if rc = success then { st with mission := true } else st
  | ⟨.waypointV3RegActionStateCallback, (rc : ReturnCode)⟩ =>
      if rc = success then { st with action := true } else st
  | ⟨.waypointV3DeInit, _⟩ => { inited := false, mission := false, action := false }
  | _ => st

/-- When a call is in order. -/
def ModuleState.Allows (st : ModuleState) (e : CallEvent SysCall.Out) : Prop :=
  match e.call with
  | .waypointV3Init => st.inited = false
  | .waypointV3UploadKmzFile _ _ => st.Ready
  | .waypointV3DeInit => st.inited = true
  | _ => True

/-- The order in which the waypoint module may be used. -/
def waypointProtocol : Protocol (CallEvent SysCall.Out) ModuleState where
  start := { inited := false, mission := false, action := false }
  next := ModuleState.next
  Allowed := ModuleState.Allows

/-- The state of the module after a record. -/
def moduleAfter (tr : List (CallEvent SysCall.Out)) : ModuleState :=
  waypointProtocol.after waypointProtocol.start tr

/-- Every call of the record is in order. -/
def InOrder (tr : List (CallEvent SysCall.Out)) : Prop :=
  waypointProtocol.Obeys waypointProtocol.start tr

/-- Every call is in order, and in the end no `Init` is left without its
`DeInit`. -/
def Disciplined (tr : List (CallEvent SysCall.Out)) : Prop :=
  InOrder tr ∧ (moduleAfter tr).inited = false

/-- The event is no failed registration of a callback. -/
def Registers : CallEvent SysCall.Out → Prop
  | ⟨.waypointV3RegMissionStateCallback, (rc : ReturnCode)⟩ => rc = success
  | ⟨.waypointV3RegActionStateCallback, (rc : ReturnCode)⟩ => rc = success
  | _ => True

/-- A call that reads the file or uploads it. -/
def IsFileCall (e : CallEvent SysCall.Out) : Prop :=
  match e.call with
  | .fopen _ | .fseekEnd | .ftell | .fseekSet | .getOsalHandler | .osalMalloc _
  | .fread _ | .fclose | .osalFree | .waypointV3UploadKmzFile _ _ => True
  | _ => False

/-! ## What an upload can do -/

section Upload

variable {τ : Type} (S : Outside SysCall.Out τ)

/-- A file call with a continuation of file calls. -/
theorem emits_fileCall
    {α : Type} {c : SysCall} {f : c.Out → RealM τ α}
    (hc : ∀ a, IsFileCall ⟨c, a⟩)
    (hf : ∀ a, Emits IsFileCall (f a)) :
    Emits IsFileCall (callOut S c >>= f) :=
  emits_bind (emits_callOut S hc) hf

/-- Closing the file and returning. -/
theorem emits_close
    (err : DroneError) :
    Emits IsFileCall (callOut S .fclose >>= fun _ => (pure err : RealM τ DroneError)) :=
  emits_fileCall S (fun _ => trivial) (fun _ => emits_pure err)

theorem emits_free
    (err : DroneError) :
    Emits IsFileCall (callOut S .osalFree >>= fun _ => (pure err : RealM τ DroneError)) :=
  emits_fileCall S (fun _ => trivial) (fun _ => emits_pure err)

theorem emits_uploadFile
    (fileSize : Int) :
    Emits IsFileCall (uploadFile S fileSize) := by
  unfold uploadFile
  refine emits_fileCall S (fun _ => trivial) (fun osal => ?_)
  refine emits_ite (emits_close S _) ?_
  refine emits_fileCall S (fun _ => trivial) (fun buf => ?_)
  refine emits_ite (emits_close S _) ?_
  refine emits_fileCall S (fun _ => trivial) (fun data => ?_)
  refine emits_fileCall S (fun _ => trivial) (fun _ => ?_)
  refine emits_ite (emits_free S _) ?_
  refine emits_fileCall S (fun _ => trivial) (fun rc => ?_)
  exact emits_free S _

theorem emits_openAndUpload
    (path : Bytes) :
    Emits IsFileCall (openAndUpload S path) := by
  unfold openAndUpload
  refine emits_fileCall S (fun _ => trivial) (fun fp => ?_)
  refine emits_ite (emits_pure _) ?_
  refine emits_fileCall S (fun _ => trivial) (fun atEnd => ?_)
  refine emits_ite (emits_close S _) ?_
  refine emits_fileCall S (fun _ => trivial) (fun fileSize => ?_)
  refine emits_ite (emits_close S _) ?_
  refine emits_fileCall S (fun _ => trivial) (fun atStart => ?_)
  refine emits_ite (emits_close S _) ?_
  exact emits_uploadFile S fileSize

/-- The three steps of the initialisation, with their answers. -/
def initEvents (init mission action : ReturnCode) : List (CallEvent SysCall.Out) :=
  [⟨.waypointV3Init, init⟩, ⟨.waypointV3RegMissionStateCallback, mission⟩,
    ⟨.waypointV3RegActionStateCallback, action⟩]

/-- The initialisation stopped at a registration that failed. -/
def Halfway (evs : List (CallEvent SysCall.Out)) : Prop :=
  ∃ mission action, (mission ≠ success ∧ evs = (initEvents success mission action).take 2) ∨
    (mission = success ∧ action ≠ success ∧ evs = initEvents success mission action)

/-- What `ensure_waypoint_v3_ready` can do. -/
inductive EnsureResult (s : RealState τ) : DroneError × RealState τ → Prop
  | ready (s' : RealState τ)
      (hflag : s.vars.waypointV3Inited = true) (hs : s' = s) :
      EnsureResult s (.ok, s')
  | refused (s' : RealState τ) (rc : ReturnCode)
      (hflag : s.vars.waypointV3Inited = false)
      (hflag' : s'.vars.waypointV3Inited = false)
      (hrc : rc ≠ success)
      (htrace : s'.trace = s.trace ++ [⟨.waypointV3Init, rc⟩]) :
      EnsureResult s (.errPsdk, s')
  | halfway (s' : RealState τ) (evs : List (CallEvent SysCall.Out))
      (hflag : s.vars.waypointV3Inited = false)
      (hflag' : s'.vars.waypointV3Inited = false)
      (hevs : Halfway evs)
      (htrace : s'.trace = s.trace ++ evs) :
      EnsureResult s (.errPsdk, s')
  | complete (s' : RealState τ)
      (hflag : s.vars.waypointV3Inited = false)
      (hflag' : s'.vars.waypointV3Inited = true)
      (htrace : s'.trace = s.trace ++ initEvents success success success) :
      EnsureResult s (.ok, s')

theorem ensureWaypointV3Ready_cases
    (s : RealState τ) :
    EnsureResult s (ensureWaypointV3Ready S s) := by
  by_cases hflag : s.vars.waypointV3Inited = true
  · have hr : ensureWaypointV3Ready S s = (.ok, s) := by
      simp [ensureWaypointV3Ready, hflag]
    rw [hr]
    exact .ready s hflag rfl
  · have hflag' : s.vars.waypointV3Inited = false := by
      simpa using hflag
    simp only [ensureWaypointV3Ready, run_bind, run_readVars, run_ite, run_callOut,
      run_pure, run_modifyVars]
    rw [if_neg hflag]
    split_ifs with h1 h2 h3
    · exact .refused _ _ hflag' hflag' h1 rfl
    · refine .halfway _ _ hflag' hflag' ⟨_, success, .inl ⟨h2, rfl⟩⟩ ?_
      simp [initEvents, not_not.mp h1]
    · refine .halfway _ _ hflag' hflag' ⟨success, _, .inr ⟨rfl, h3, rfl⟩⟩ ?_
      simp [initEvents, not_not.mp h1, not_not.mp h2]
    · refine .complete _ hflag' rfl ?_
      simp [initEvents, not_not.mp h1, not_not.mp h2, not_not.mp h3]

/-- What `drone_upload_kmz` can do. -/
inductive UploadStep (s s' : RealState τ) : Prop
  | idle (hs : s' = s)
  | upload (evs : List (CallEvent SysCall.Out))
      (hflag : s.vars.waypointV3Inited = true)
      (hflag' : s'.vars.waypointV3Inited = true)
      (htrace : s'.trace = s.trace ++ evs)
      (hevs : ∀ e ∈ evs, IsFileCall e)
  | refused (rc : ReturnCode)
      (hflag : s.vars.waypointV3Inited = false)
      (hflag' : s'.vars.waypointV3Inited = false)
      (hrc : rc ≠ success)
      (htrace : s'.trace = s.trace ++ [⟨.waypointV3Init, rc⟩])
  | halfway (evs : List (CallEvent SysCall.Out))
      (hflag : s.vars.waypointV3Inited = false)
      (hflag' : s'.vars.waypointV3Inited = false)
      (hevs : Halfway evs)
      (htrace : s'.trace = s.trace ++ evs)
  | complete (evs : List (CallEvent SysCall.Out))
      (hflag : s.vars.waypointV3Inited = false)
      (hflag' : s'.vars.waypointV3Inited = true)
      (htrace : s'.trace = s.trace ++ (initEvents success success success ++ evs))
      (hevs : ∀ e ∈ evs, IsFileCall e)

theorem droneUploadKmz_step
    (path : Bytes) (s : RealState τ) :
    UploadStep s (droneUploadKmz S path s).2 := by
  by_cases hpath : cstr path = []
  · refine .idle ?_
    simp [droneUploadKmz, hpath]
  · have hrun : droneUploadKmz S path s =
        if (ensureWaypointV3Ready S s).1 ≠ .ok then ensureWaypointV3Ready S s
        else openAndUpload S (cstr path) (ensureWaypointV3Ready S s).2 := by
      simp only [droneUploadKmz, if_neg hpath, run_bind, run_ite, run_pure]
      rfl
    rw [hrun]
    have hensure := ensureWaypointV3Ready_cases S s
    generalize ensureWaypointV3Ready S s = r at hensure ⊢
    cases hensure with
    | ready s' hflag hs =>
        obtain ⟨hvars, evs, htrace, hevs⟩ := emits_openAndUpload S (cstr path) s'
        rw [if_neg (by simp)]
        subst hs
        exact .upload evs hflag (by rw [hvars]; exact hflag) htrace hevs
    | refused s' rc hflag hflag' hrc htrace =>
        exact .refused rc hflag hflag' hrc htrace
    | halfway s' evs hflag hflag' hevs htrace =>
        exact .halfway evs hflag hflag' hevs htrace
    | complete s' hflag hflag' htrace =>
        obtain ⟨hvars, evs, htrace', hevs⟩ := emits_openAndUpload S (cstr path) s'
        rw [if_neg (by simp)]
        refine .complete evs hflag (by rw [hvars]; exact hflag') ?_ hevs
        rw [htrace', htrace, List.append_assoc]

end Upload

/-! ## The invariants -/

section Invariants

variable {τ : Type}

/-- The flag tells the truth about the module. -/
structure Tracking (s : RealState τ) : Prop where
  inOrder : InOrder s.trace
  inited : (moduleAfter s.trace).inited = s.vars.waypointV3Inited
  callbacks : s.vars.waypointV3Inited = true →
    (moduleAfter s.trace).mission = true ∧ (moduleAfter s.trace).action = true
  registers : ∀ e ∈ s.trace, Registers e

/-- A registration failed, and the module was used out of order or is
initialised behind the back of the flag. -/
structure Lost (s : RealState τ) : Prop where
  refused : ∃ e ∈ s.trace, ¬ Registers e
  broken : ¬ InOrder s.trace ∨
    (s.vars.waypointV3Inited = false ∧ (moduleAfter s.trace).inited = true)

theorem inOrder_append
    (tr evs : List (CallEvent SysCall.Out)) :
    InOrder (tr ++ evs) ↔
      InOrder tr ∧ waypointProtocol.Obeys (moduleAfter tr) evs :=
  waypointProtocol.obeys_append _ tr evs

theorem moduleAfter_append
    (tr evs : List (CallEvent SysCall.Out)) :
    moduleAfter (tr ++ evs) = waypointProtocol.after (moduleAfter tr) evs :=
  waypointProtocol.after_append _ tr evs

/-- File calls change nothing for the module, and are in order when it is
ready. -/
theorem IsFileCall.neutral
    {e : CallEvent SysCall.Out}
    (he : IsFileCall e)
    {st : ModuleState}
    (hst : st.Ready) :
    waypointProtocol.next st e = st ∧ waypointProtocol.Allowed st e ∧ Registers e := by
  obtain ⟨c, a⟩ := e
  cases c <;> first
    | exact he.elim
    | exact ⟨rfl, trivial, trivial⟩
    | exact ⟨rfl, hst, trivial⟩

theorem obeys_fileCalls
    {evs : List (CallEvent SysCall.Out)}
    (hevs : ∀ e ∈ evs, IsFileCall e)
    {st : ModuleState}
    (hst : st.Ready) :
    waypointProtocol.after st evs = st ∧ waypointProtocol.Obeys st evs :=
  waypointProtocol.obeys_of_neutral
    (fun e he => ((hevs e he).neutral hst).1)
    (fun e he => ((hevs e he).neutral hst).2.1)

/-- The module after a complete initialisation. -/
def readyModule : ModuleState where
  inited := true
  mission := true
  action := true

theorem readyModule_ready :
    readyModule.Ready :=
  ⟨rfl, rfl, rfl⟩

theorem obeys_initEvents
    {st : ModuleState}
    (hst : st.inited = false) :
    waypointProtocol.after st (initEvents success success success) = readyModule ∧
      waypointProtocol.Obeys st (initEvents success success success) := by
  refine ⟨?_, hst, trivial, trivial, trivial⟩
  simp [initEvents, Protocol.after, waypointProtocol, ModuleState.next, readyModule]

theorem registers_initEvents :
    ∀ e ∈ initEvents success success success, Registers e := by
  simp [initEvents, Registers]

/-- An initialisation that stops halfway leaves the module initialised. -/
theorem Halfway.leaves_inited
    {evs : List (CallEvent SysCall.Out)}
    (h : Halfway evs)
    (st : ModuleState) :
    (waypointProtocol.after st evs).inited = true ∧ ∃ e ∈ evs, ¬ Registers e := by
  obtain ⟨mission, action, ⟨hrc, rfl⟩ | ⟨hmission, hrc, rfl⟩⟩ := h
  · constructor
    · simp [initEvents, Protocol.after, waypointProtocol, ModuleState.next, hrc]
    · exact ⟨⟨.waypointV3RegMissionStateCallback, mission⟩, by simp [initEvents], hrc⟩
  · constructor
    · simp [initEvents, Protocol.after, waypointProtocol, ModuleState.next, hmission, hrc]
    · exact ⟨⟨.waypointV3RegActionStateCallback, action⟩, by simp [initEvents], hrc⟩

/-- Every initialisation begins with `Init`. -/
theorem Halfway.head
    {evs : List (CallEvent SysCall.Out)}
    (h : Halfway evs) :
    ∃ rest, evs = ⟨.waypointV3Init, success⟩ :: rest := by
  obtain ⟨mission, action, ⟨_, rfl⟩ | ⟨_, _, rfl⟩⟩ := h
  · exact ⟨_, rfl⟩
  · exact ⟨_, rfl⟩

/-- Events in order that bring the module to where the flag says it is. -/
theorem Tracking.extend
    {s s' : RealState τ}
    (h : Tracking s)
    {evs : List (CallEvent SysCall.Out)}
    (htrace : s'.trace = s.trace ++ evs)
    (hobeys : waypointProtocol.Obeys (moduleAfter s.trace) evs)
    (hregisters : ∀ e ∈ evs, Registers e)
    {st : ModuleState}
    (hafter : waypointProtocol.after (moduleAfter s.trace) evs = st)
    (hinited : st.inited = s'.vars.waypointV3Inited)
    (hcallbacks : s'.vars.waypointV3Inited = true → st.mission = true ∧ st.action = true) :
    Tracking s' := by
  have hmodule : moduleAfter s'.trace = st := by
    rw [htrace, moduleAfter_append, hafter]
  refine ⟨?_, ?_, ?_, ?_⟩
  · rw [htrace, inOrder_append]
    exact ⟨h.inOrder, hobeys⟩
  · rw [hmodule, hinited]
  · rw [hmodule]
    exact hcallbacks
  · rw [htrace, List.forall_mem_append]
    exact ⟨h.registers, hregisters⟩

/-- An upload keeps the flag true, or loses track of the module. -/
theorem Tracking.step
    {s s' : RealState τ}
    (h : Tracking s)
    (hstep : UploadStep s s') :
    Tracking s' ∨ Lost s' := by
  cases hstep with
  | idle hs =>
      left
      rw [hs]
      exact h
  | upload evs hflag hflag' htrace hevs =>
      left
      have hready : (moduleAfter s.trace).Ready :=
        ⟨h.inited.trans hflag, h.callbacks hflag⟩
      obtain ⟨hafter, hobeys⟩ := obeys_fileCalls hevs hready
      exact h.extend htrace hobeys (fun e he => ((hevs e he).neutral hready).2.2) hafter
        (hready.1.trans hflag'.symm) (fun _ => hready.2)
  | refused rc hflag hflag' hrc htrace =>
      left
      have hafter : waypointProtocol.after (moduleAfter s.trace) [⟨.waypointV3Init, rc⟩] =
          moduleAfter s.trace := by
        simp [Protocol.after, waypointProtocol, ModuleState.next, hrc]
      refine h.extend htrace ⟨h.inited.trans hflag, trivial⟩ ?_ hafter ?_ ?_
      · simp [Registers]
      · rw [h.inited, hflag, hflag']
      · simp [hflag']
  | halfway evs hflag hflag' hevs htrace =>
      right
      obtain ⟨hinited, e, he, hrefused⟩ := hevs.leaves_inited (moduleAfter s.trace)
      refine ⟨⟨e, ?_, hrefused⟩, .inr ⟨hflag', ?_⟩⟩
      · rw [htrace]
        exact List.mem_append_right _ he
      · rw [htrace, moduleAfter_append]
        exact hinited
  | complete evs hflag hflag' htrace hevs =>
      left
      obtain ⟨hinit, hobeys⟩ := obeys_initEvents (h.inited.trans hflag)
      obtain ⟨hafter, hobeys'⟩ := obeys_fileCalls hevs readyModule_ready
      have hend : waypointProtocol.after (moduleAfter s.trace)
          (initEvents success success success ++ evs) = readyModule := by
        rw [Protocol.after_append, hinit, hafter]
      refine h.extend htrace ?_ ?_ hend hflag'.symm (fun _ => ⟨rfl, rfl⟩)
      · rw [Protocol.obeys_append, hinit]
        exact ⟨hobeys, hobeys'⟩
      · rw [List.forall_mem_append]
        exact ⟨registers_initEvents,
          fun e he => ((hevs e he).neutral readyModule_ready).2.2⟩

/-- Events after which the module is still out of step. -/
theorem Lost.extend
    {s s' : RealState τ}
    (h : Lost s)
    {evs : List (CallEvent SysCall.Out)}
    (htrace : s'.trace = s.trace ++ evs)
    (hevs : (moduleAfter s.trace).inited = true → s.vars.waypointV3Inited = false →
      ¬ waypointProtocol.Obeys (moduleAfter s.trace) evs) :
    Lost s' := by
  obtain ⟨e, he, hrefused⟩ := h.refused
  refine ⟨⟨e, ?_, hrefused⟩, .inl ?_⟩
  · rw [htrace]
    exact List.mem_append_left _ he
  · rw [htrace, inOrder_append]
    rintro ⟨hinOrder, hobeys⟩
    rcases h.broken with hbroken | ⟨hflag, hinited⟩
    · exact hbroken hinOrder
    · exact hevs hinited hflag hobeys

/-- `Init` is out of order while the module is initialised. -/
theorem not_obeys_init
    {st : ModuleState}
    (hst : st.inited = true)
    (rc : ReturnCode) (evs : List (CallEvent SysCall.Out)) :
    ¬ waypointProtocol.Obeys st (⟨.waypointV3Init, rc⟩ :: evs) := by
  rintro ⟨hallowed, _⟩
  exact Bool.false_ne_true (hallowed.symm.trans hst)

/-- A module that is lost stays lost: the next upload initialises it again. -/
theorem Lost.step
    {s s' : RealState τ}
    (h : Lost s)
    (hstep : UploadStep s s') :
    Lost s' := by
  cases hstep with
  | idle hs =>
      rw [hs]
      exact h
  | upload evs hflag hflag' htrace hevs =>
      refine h.extend htrace (fun _ hflag'' => ?_)
      rw [hflag] at hflag''
      cases hflag''
  | refused rc hflag hflag' hrc htrace =>
      exact h.extend htrace (fun hinited _ => not_obeys_init hinited rc [])
  | halfway evs hflag hflag' hevs htrace =>
      obtain ⟨rest, rfl⟩ := hevs.head
      exact h.extend htrace (fun hinited _ => not_obeys_init hinited success rest)
  | complete evs hflag hflag' htrace hevs =>
      exact h.extend htrace (fun hinited _ => not_obeys_init hinited success _)

end Invariants

/-! ## The end of a run -/

section Deinit

variable {τ : Type} (S : Outside SysCall.Out τ)

/-- A call that ends the use of another manager. -/
def IsManagerCall (e : CallEvent SysCall.Out) : Prop :=
  match e.call with
  | .gimbalManagerDeinit | .cameraManagerDeInit | .fcSubscriptionDeInit => True
  | _ => False

theorem IsManagerCall.neutral
    {e : CallEvent SysCall.Out}
    (he : IsManagerCall e)
    (st : ModuleState) :
    waypointProtocol.next st e = st ∧ waypointProtocol.Allowed st e ∧ Registers e := by
  obtain ⟨c, a⟩ := e
  cases c <;> first
    | exact he.elim
    | exact ⟨rfl, trivial, trivial⟩

theorem obeys_managerCalls
    {evs : List (CallEvent SysCall.Out)}
    (hevs : ∀ e ∈ evs, IsManagerCall e)
    (st : ModuleState) :
    waypointProtocol.after st evs = st ∧ waypointProtocol.Obeys st evs :=
  waypointProtocol.obeys_of_neutral
    (fun e he => ((hevs e he).neutral st).1)
    (fun e he => ((hevs e he).neutral st).2.1)

/-- The last three calls of `drone_ctrl_deinit`. -/
def closeManagers : RealM τ Unit := do
  let _ ← callOut S .gimbalManagerDeinit
  let _ ← callOut S .cameraManagerDeInit
  let _ ← callOut S .fcSubscriptionDeInit

theorem emits_closeManagers :
    Emits IsManagerCall (closeManagers S) := by
  refine emits_bind (emits_callOut S (fun _ => trivial)) (fun _ => ?_)
  refine emits_bind (emits_callOut S (fun _ => trivial)) (fun _ => ?_)
  exact emits_bind (emits_callOut S (fun _ => trivial)) (fun _ => emits_pure ())

/-- The state after the call of `DeInit`. -/
def afterDeInit (s : RealState τ) : RealState τ where
  outside := (S .waypointV3DeInit s.outside).2
  vars := { s.vars with waypointV3Inited := false }
  trace := s.trace ++ [⟨.waypointV3DeInit, (S .waypointV3DeInit s.outside).1⟩]

/-- `drone_ctrl_deinit` deinitialises the module if the flag is set. -/
theorem droneCtrlDeinit_trace
    (s : RealState τ) :
    ∃ evs, (∀ e ∈ evs, IsManagerCall e) ∧
      ((s.vars.waypointV3Inited = true ∧ ∃ rc : ReturnCode,
          (droneCtrlDeinit S s).2.trace = s.trace ++ (⟨.waypointV3DeInit, rc⟩ :: evs)) ∨
        (s.vars.waypointV3Inited = false ∧
          (droneCtrlDeinit S s).2.trace = s.trace ++ evs)) := by
  by_cases hflag : s.vars.waypointV3Inited = true
  · have hrun : droneCtrlDeinit S s = closeManagers S (afterDeInit S s) := by
      simp only [droneCtrlDeinit, run_bind, run_readVars, run_ite, if_pos hflag]
      rfl
    obtain ⟨_, evs, htrace, hevs⟩ := emits_closeManagers S (afterDeInit S s)
    refine ⟨evs, hevs, .inl ⟨hflag, (S .waypointV3DeInit s.outside).1, ?_⟩⟩
    rw [hrun, htrace, afterDeInit, List.append_assoc]
    rfl
  · have hrun : droneCtrlDeinit S s = closeManagers S s := by
      simp only [droneCtrlDeinit, run_bind, run_readVars, run_ite, if_neg hflag]
      rfl
    obtain ⟨_, evs, htrace, hevs⟩ := emits_closeManagers S s
    refine ⟨evs, hevs, .inr ⟨by simpa using hflag, ?_⟩⟩
    rw [hrun, htrace]

/-- While the flag tells the truth, the module ends in order. -/
theorem Tracking.deinit
    {s : RealState τ}
    (h : Tracking s) :
    Disciplined (droneCtrlDeinit S s).2.trace ∧
      ∀ e ∈ (droneCtrlDeinit S s).2.trace, Registers e := by
  obtain ⟨evs, hevs, ⟨hflag, rc, htrace⟩ | ⟨hflag, htrace⟩⟩ := droneCtrlDeinit_trace S s
  · have hregisters : ∀ e ∈ evs, Registers e :=
      fun e he => ((hevs e he).neutral (moduleAfter s.trace)).2.2
    obtain ⟨hafter, hobeys⟩ := obeys_managerCalls hevs
      { inited := false, mission := false, action := false }
    have hend : moduleAfter (droneCtrlDeinit S s).2.trace =
        { inited := false, mission := false, action := false } := by
      rw [htrace, moduleAfter_append]
      exact hafter
    refine ⟨⟨?_, by rw [hend]⟩, ?_⟩
    · rw [htrace, inOrder_append]
      exact ⟨h.inOrder, h.inited.trans hflag, hobeys⟩
    · rw [htrace, List.forall_mem_append, List.forall_mem_cons]
      exact ⟨h.registers, trivial, hregisters⟩
  · have hregisters : ∀ e ∈ evs, Registers e :=
      fun e he => ((hevs e he).neutral (moduleAfter s.trace)).2.2
    obtain ⟨hafter, hobeys⟩ := obeys_managerCalls hevs (moduleAfter s.trace)
    rw [htrace, Disciplined, inOrder_append, moduleAfter_append, hafter,
      List.forall_mem_append]
    exact ⟨⟨⟨h.inOrder, hobeys⟩, h.inited.trans hflag⟩, h.registers, hregisters⟩

/-- A module that is lost was used out of order or is never deinitialised. -/
theorem Lost.deinit
    {s : RealState τ}
    (h : Lost s) :
    ¬ Disciplined (droneCtrlDeinit S s).2.trace ∧
      ¬ ∀ e ∈ (droneCtrlDeinit S s).2.trace, Registers e := by
  have hsplit : ∃ evs, (droneCtrlDeinit S s).2.trace = s.trace ++ evs ∧
      (s.vars.waypointV3Inited = false →
        waypointProtocol.after (moduleAfter s.trace) evs = moduleAfter s.trace) := by
    obtain ⟨evs, hevs, ⟨hflag, rc, htrace⟩ | ⟨hflag, htrace⟩⟩ := droneCtrlDeinit_trace S s
    · refine ⟨_, htrace, fun hflag' => ?_⟩
      rw [hflag] at hflag'
      cases hflag'
    · exact ⟨_, htrace, fun _ => (obeys_managerCalls hevs _).1⟩
  obtain ⟨evs, htrace, hafter⟩ := hsplit
  obtain ⟨e, he, hrefused⟩ := h.refused
  rw [htrace, Disciplined, inOrder_append, moduleAfter_append, List.forall_mem_append]
  constructor
  · rintro ⟨⟨hinOrder, _⟩, hinited⟩
    rcases h.broken with hbroken | ⟨hflag, hinited'⟩
    · exact hbroken hinOrder
    · rw [hafter hflag, hinited'] at hinited
      cases hinited
  · rintro ⟨hregisters, _⟩
    exact hrefused (hregisters e he)

end Deinit

/-! ## Runs of requests -/

section Runs

variable {τ : Type} (P : Platform) (L : Libm) (S : Outside SysCall.Out τ)

/-- The path that a request uploads, if it reaches the drone control layer. -/
def uploadedPath (params : Json) : Option Bytes :=
  match rpcParamStr P params (ascii "file") with
  | none => none
  | some name =>
      if name = [] then none
      else if strstr name (ascii "..") || strchr name 47 then none
      else some (kmzPath name)

/-- A run of upload requests, each with its identifier and parameters. -/
def runUploads (clock : Timespec) (peer : SockaddrIn) (reqs : List (Int32 × Json))
    (w : World (RealState τ)) : World (RealState τ) :=
  reqs.foldl (fun w r => hDroneUploadKmz (realEnv P L S clock) peer r.1 r.2 w) w

/-- The state after the uploads of a list of paths. -/
def uploadPaths (paths : List Bytes) (s : RealState τ) : RealState τ :=
  paths.foldl (fun s path => (droneUploadKmz S path s).2) s

theorem hDroneUploadKmz_ctrl
    (clock : Timespec) (peer : SockaddrIn) (w : World (RealState τ)) (r : Int32 × Json) :
    (hDroneUploadKmz (realEnv P L S clock) peer r.1 r.2 w).ctrl =
      uploadPaths S (uploadedPath P r.2).toList w.ctrl := by
  rw [hDroneUploadKmz_eq_exec, exec_ctrl]
  show (uploadPlan (rpcParamStr P r.2 (ascii "file"))).ctrl (realEnv P L S clock) w = _
  unfold uploadedPath
  cases rpcParamStr P r.2 (ascii "file") with
  | none =>
      rfl
  | some name =>
      simp only [uploadPlan]
      split_ifs <;> rfl

theorem runUploads_ctrl
    (clock : Timespec) (peer : SockaddrIn) (reqs : List (Int32 × Json))
    (w : World (RealState τ)) :
    (runUploads P L S clock peer reqs w).ctrl =
      uploadPaths S (reqs.filterMap (fun r => uploadedPath P r.2)) w.ctrl := by
  unfold runUploads uploadPaths
  rw [foldl_ctrl _ (fun r => uploadedPath P r.2)
    (fun s path => (droneUploadKmz S path s).2)]
  intro w r
  rw [hDroneUploadKmz_ctrl, uploadPaths]

/-- The flag tells the truth throughout a run, or the module is lost. -/
theorem uploadPaths_tracking_or_lost
    (paths : List Bytes) (s : RealState τ)
    (h : Tracking s ∨ Lost s) :
    Tracking (uploadPaths S paths s) ∨ Lost (uploadPaths S paths s) := by
  induction paths generalizing s with
  | nil =>
      exact h
  | cons path paths ih =>
      have hstep := droneUploadKmz_step S path s
      refine ih _ ?_
      rcases h with h | h
      · exact h.step hstep
      · exact .inr (h.step hstep)

theorem tracking_initialState
    (outside : τ) :
    Tracking (initialState outside) where
  inOrder := trivial
  inited := rfl
  callbacks := by simp [initialState]
  registers := by simp [initialState]

/-- The record of a run of requests that ends with `drone_ctrl_deinit`. -/
def uploadsThenDeinit (clock : Timespec) (peer : SockaddrIn) (reqs : List (Int32 × Json))
    (outside : τ) : List (CallEvent SysCall.Out) :=
  (droneCtrlDeinit S (runUploads P L S clock peer reqs (startWorld outside)).ctrl).2.trace

/-- **When the waypoint module is used in order.**  For every run, whatever the
SDK and the C library answer: exactly if no registration of a callback is
refused. -/
theorem disciplined_iff
    (clock : Timespec) (peer : SockaddrIn) (reqs : List (Int32 × Json)) (outside : τ) :
    Disciplined (uploadsThenDeinit P L S clock peer reqs outside) ↔
      ∀ e ∈ uploadsThenDeinit P L S clock peer reqs outside, Registers e := by
  unfold uploadsThenDeinit
  rw [runUploads_ctrl]
  have hinv := uploadPaths_tracking_or_lost S
    (reqs.filterMap (fun r => uploadedPath P r.2)) (initialState outside)
    (.inl (tracking_initialState outside))
  rcases hinv with h | h
  · exact iff_of_true (h.deinit S).1 (h.deinit S).2
  · exact iff_of_false (h.deinit S).1 (h.deinit S).2

end Runs

/-- An upload request for the file `m.kmz`. -/
def uploadRequest : Int32 × Json :=
  (1, .obj [(ascii "file", .str (ascii "m.kmz"))])

/-- The registration of the mission callback fails: the module is initialised
twice, and never deinitialised. -/
theorem refused_registration_undisciplined :
    ¬ Disciplined (uploadsThenDeinit gnuPlatform flatLibm (steadySdk 1)
      { tvSec := 0, tvNsec := 0 } { addr := 0, port := 0 }
      [uploadRequest, uploadRequest] ()) := by
  have hpath : uploadedPath gnuPlatform uploadRequest.2 =
      some (kmzPath (ascii "m.kmz")) := by
    decide
  have hne : cstr (kmzPath (ascii "m.kmz")) ≠ [] := by
    decide
  have hrun : ∀ s : RealState Unit, s.vars.waypointV3Inited = false →
      (droneUploadKmz (steadySdk 1) (kmzPath (ascii "m.kmz")) s).2 =
        { s with trace := s.trace ++ (initEvents success 1 success).take 2 } := by
    intro s hflag
    simp only [droneUploadKmz, if_neg hne, run_bind, ensureWaypointV3Ready, run_readVars,
      run_ite, hflag, run_callOut, run_pure]
    simp [steadySdk, steadyAnswer, success, initEvents]
  unfold uploadsThenDeinit
  rw [runUploads_ctrl]
  simp only [List.filterMap_cons, hpath, List.filterMap_nil, uploadPaths, List.foldl_cons,
    List.foldl_nil]
  rw [hrun _ rfl, hrun _ rfl]
  -- the third call of the record is the second `Init`
  rintro ⟨⟨_, _, hinit, _⟩, _⟩
  cases hinit

end Real
end PsdkBridge
