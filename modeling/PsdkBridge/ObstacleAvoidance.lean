import PsdkBridge.Dispatch
import PsdkBridge.RealCtrl

/-!
# Obstacle avoidance in the real build

A request for obstacle avoidance goes through two layers: the handler turns the
wire mode into an `ObstacleAvoidMode`, and the drone control layer turns that
into the status of the two SDK setters.  A setter that returns success stores
the status, one that fails stores nothing; so the settings of the aircraft can
be read off the record of the calls.

`avoidanceFollows_iff` says when the settings follow an acknowledged command:
never.  `failed_command_settings` is about the commands that fail, and about runs
of them.
-/

namespace PsdkBridge
namespace Real

/-- The two settings of the aircraft. -/
structure Avoidance where
  horizontal : Bool
  upward : Bool
deriving DecidableEq

/-- What a call of the SDK does to the settings. -/
def Avoidance.next (a : Avoidance) : CallEvent SysCall.Out → Avoidance
  | ⟨.setHorizontalVisualObstacleAvoidanceEnableStatus enable, (rc : ReturnCode)⟩ =>
      if rc = success then { a with horizontal := enable } else a
  | ⟨.setUpwardsVisualObstacleAvoidanceEnableStatus enable, (rc : ReturnCode)⟩ =>
      if rc = success then { a with upward := enable } else a
  | _ => a

/-- The settings after a record of calls. -/
def Avoidance.after (a : Avoidance) (trace : List (CallEvent SysCall.Out)) : Avoidance :=
  trace.foldl Avoidance.next a

/-- Obstacle avoidance is enabled in both directions. -/
def Avoidance.BothEnabled (a : Avoidance) : Prop :=
  a.horizontal = true ∧ a.upward = true

section Commands

variable {τ : Type} (S : Outside SysCall.Out τ)

/-- The answers of the two setters to a command of mode `m`. -/
def BothSucceed (m : ObstacleAvoidMode) (s : RealState τ) : Prop :=
  let sw := decide (m = .close)
  let r := S (.setHorizontalVisualObstacleAvoidanceEnableStatus sw) s.outside
  let r' := S (.setUpwardsVisualObstacleAvoidanceEnableStatus sw) r.2
  (r.1 : ReturnCode) = success ∧ (r'.1 : ReturnCode) = success

/-- A command is acknowledged exactly if both setters succeed. -/
theorem droneSetObstacleAvoidance_ok_iff
    (m : ObstacleAvoidMode) (s : RealState τ) :
    (droneSetObstacleAvoidance S m s).1 = .ok ↔ BothSucceed S m s := by
  simp only [droneSetObstacleAvoidance, BothSucceed, run_bind, run_callOut, run_ite,
    run_pure]
  split_ifs with h h'
  · simp [h]
  · simp [h']
  · simp [not_not.mp h, not_not.mp h']

/-- An acknowledged command sets both directions to the same status. -/
theorem after_droneSetObstacleAvoidance
    {m : ObstacleAvoidMode} {s : RealState τ}
    (h : BothSucceed S m s)
    (a : Avoidance) :
    a.after (droneSetObstacleAvoidance S m s).2.trace =
      { horizontal := decide (m = .close), upward := decide (m = .close) } := by
  obtain ⟨h, h'⟩ := h
  simp only [droneSetObstacleAvoidance, run_bind, run_callOut, run_ite, run_pure, h, h',
    ne_eq, not_true_eq_false, if_false]
  simp [Avoidance.after, Avoidance.next]

/-- The state after the commands of a list of modes. -/
def runModes (modes : List ObstacleAvoidMode) (s : RealState τ) : RealState τ :=
  modes.foldl (fun s m => (droneSetObstacleAvoidance S m s).2) s

theorem runModes_concat
    (modes : List ObstacleAvoidMode) (m : ObstacleAvoidMode) (s : RealState τ) :
    runModes S (modes ++ [m]) s =
      (droneSetObstacleAvoidance S m (runModes S modes s)).2 := by
  simp [runModes]

end Commands

/-! ## Runs of requests -/

section Requests

variable {τ : Type} (P : Platform) (L : Libm) (S : Outside SysCall.Out τ)

/-- The mode that a request commands, if it reaches the drone control layer. -/
def commandedMode (params : Json) : Option ObstacleAvoidMode :=
  let mode := rpcParamInt P params (ascii "mode") (-1)
  if mode < 0 then none else some (.ofInt mode)

/-- A run of requests for obstacle avoidance, each with its identifier and
parameters. -/
def runAvoidance (clock : Timespec) (peer : SockaddrIn) (reqs : List (Int32 × Json))
    (w : World (RealState τ)) : World (RealState τ) :=
  reqs.foldl
    (fun w r => hDroneSetObstacleAvoidance (realEnv P L S clock) peer r.1 r.2 w) w

theorem hDroneSetObstacleAvoidance_ctrl
    (clock : Timespec) (peer : SockaddrIn) (w : World (RealState τ)) (r : Int32 × Json) :
    (hDroneSetObstacleAvoidance (realEnv P L S clock) peer r.1 r.2 w).ctrl =
      runModes S (commandedMode P r.2).toList w.ctrl := by
  have hexec := handle_eq_exec (realEnv P L S clock) peer .setObstacleAvoidance r.1 r.2 w
  simp only [Method.handle] at hexec
  rw [hexec, exec_ctrl]
  unfold commandedMode
  by_cases h : rpcParamInt P r.2 (ascii "mode") (-1) < 0
  · have h' : rpcParamInt (realEnv P L S clock).platform r.2 (ascii "mode") (-1) < 0 := h
    simp only [Method.plan, if_pos h, if_pos h']
    rfl
  · have h' : ¬ rpcParamInt (realEnv P L S clock).platform r.2 (ascii "mode") (-1) < 0 :=
      h
    simp only [Method.plan, if_neg h, if_neg h']
    rfl

/-- The requests that reach the drone control layer are what a run does to it. -/
theorem runAvoidance_ctrl
    (clock : Timespec) (peer : SockaddrIn) (reqs : List (Int32 × Json))
    (w : World (RealState τ)) :
    (runAvoidance P L S clock peer reqs w).ctrl =
      runModes S (reqs.filterMap (fun r => commandedMode P r.2)) w.ctrl := by
  unfold runAvoidance runModes
  rw [foldl_ctrl _ (fun r => commandedMode P r.2)
    (fun s m => (droneSetObstacleAvoidance S m s).2)]
  intro w r
  rw [hDroneSetObstacleAvoidance_ctrl, runModes]

/-- Whenever the most recent command of a run was acknowledged, both directions
are enabled exactly if its mode was not `OBSTACLE_AVOID_CLOSE`.  The settings
were `a` when the record began. -/
def AvoidanceFollows (clock : Timespec) (peer : SockaddrIn)
    (reqs : List (Int32 × Json)) (a : Avoidance) (w : World (RealState τ)) : Prop :=
  ∀ modes m, reqs.filterMap (fun r => commandedMode P r.2) = modes ++ [m] →
    (droneSetObstacleAvoidance S m (runModes S modes w.ctrl)).1 = .ok →
    ((a.after (runAvoidance P L S clock peer reqs w).ctrl.trace).BothEnabled ↔
      m ≠ .close)

/-- The SDK accepts both settings of the most recent command. -/
def LastSettersSucceed (reqs : List (Int32 × Json)) (w : World (RealState τ)) : Prop :=
  ∃ modes m, reqs.filterMap (fun r => commandedMode P r.2) = modes ++ [m] ∧
    BothSucceed S m (runModes S modes w.ctrl)

/-- An acknowledged command leaves the opposite of what it asked for. -/
theorem not_avoidanceFollows_of_succeed
    {reqs : List (Int32 × Json)} {w : World (RealState τ)}
    (h : LastSettersSucceed P S reqs w)
    (clock : Timespec) (peer : SockaddrIn) (a : Avoidance) :
    ¬ AvoidanceFollows P L S clock peer reqs a w := by
  obtain ⟨modes, m, hmodes, hok⟩ := h
  intro hfollows
  have hiff := hfollows modes m hmodes ((droneSetObstacleAvoidance_ok_iff S m _).mpr hok)
  rw [runAvoidance_ctrl, hmodes, runModes_concat,
    after_droneSetObstacleAvoidance S hok] at hiff
  simp [Avoidance.BothEnabled] at hiff

/-- **When the settings follow the commands.**  For every run, whatever the SDK
answers: only if the SDK refused the most recent command, or there was none. -/
theorem avoidanceFollows_iff
    (clock : Timespec) (peer : SockaddrIn) (reqs : List (Int32 × Json))
    (a : Avoidance) (w : World (RealState τ)) :
    AvoidanceFollows P L S clock peer reqs a w ↔ ¬ LastSettersSucceed P S reqs w := by
  constructor
  · intro hfollows h
    exact not_avoidanceFollows_of_succeed P L S h clock peer a hfollows
  · intro h modes m hmodes hok
    exact absurd ⟨modes, m, hmodes, (droneSetObstacleAvoidance_ok_iff S m _).mp hok⟩ h

end Requests

/-- A request that switches obstacle avoidance off. -/
def switchOff : Int32 × Json :=
  (1, .obj [(ascii "mode", .int 0)])

/-- The request to switch obstacle avoidance off switches it on. -/
theorem switchOff_enables :
    commandedMode gnuPlatform switchOff.2 = some .close ∧
    ¬ AvoidanceFollows gnuPlatform flatLibm (steadySdk success)
      { tvSec := 0, tvNsec := 0 } { addr := 0, port := 0 } [switchOff]
      { horizontal := false, upward := false } (startWorld ()) := by
  have hmode : commandedMode gnuPlatform switchOff.2 = some .close := by decide
  refine ⟨hmode, not_avoidanceFollows_of_succeed _ _ _ ⟨[], .close, ?_, rfl, rfl⟩ _ _ _⟩
  simp [hmode]

/-! ## Commands that fail -/

/-- Both directions have the same setting. -/
def Avoidance.Level (a : Avoidance) : Prop :=
  a.horizontal = a.upward

section Failures

variable {τ : Type} (S : Outside SysCall.Out τ)

/-- The status that a command passes to the setters. -/
def switchFor (m : ObstacleAvoidMode) : Bool :=
  decide (m = .close)

/-- The horizontal setter accepts the command, and the upward one refuses it. -/
def UpwardRefuses (m : ObstacleAvoidMode) (s : RealState τ) : Prop :=
  let r := S (.setHorizontalVisualObstacleAvoidanceEnableStatus (switchFor m)) s.outside
  let r' := S (.setUpwardsVisualObstacleAvoidanceEnableStatus (switchFor m)) r.2
  (r.1 : ReturnCode) = success ∧ (r'.1 : ReturnCode) ≠ success

/-- What a command can do to the settings. -/
theorem droneSetObstacleAvoidance_cases
    (m : ObstacleAvoidMode) (s : RealState τ) (a : Avoidance) :
    ((droneSetObstacleAvoidance S m s).1 = .ok ∧ ¬ UpwardRefuses S m s ∧
      a.after (droneSetObstacleAvoidance S m s).2.trace =
        { horizontal := switchFor m, upward := switchFor m }) ∨
    ((droneSetObstacleAvoidance S m s).1 = .errPsdk ∧ UpwardRefuses S m s ∧
      a.after (droneSetObstacleAvoidance S m s).2.trace =
        { a.after s.trace with horizontal := switchFor m }) ∨
    ((droneSetObstacleAvoidance S m s).1 = .errPsdk ∧ ¬ UpwardRefuses S m s ∧
      a.after (droneSetObstacleAvoidance S m s).2.trace = a.after s.trace) := by
  simp only [droneSetObstacleAvoidance, UpwardRefuses, switchFor, run_bind, run_callOut,
    run_ite, run_pure]
  split_ifs with h h'
  · right
    right
    simp [Avoidance.after, Avoidance.next, h]
  · right
    left
    simp [Avoidance.after, Avoidance.next, not_not.mp h, h']
  · left
    simp [Avoidance.after, Avoidance.next, not_not.mp h, not_not.mp h']

/-- From level settings, a command keeps them level exactly unless it sets the
horizontal direction alone, and to something new. -/
theorem level_after_command_iff
    {s : RealState τ} {a : Avoidance}
    (h : (a.after s.trace).Level)
    (m : ObstacleAvoidMode) :
    (a.after (droneSetObstacleAvoidance S m s).2.trace).Level ↔
      (UpwardRefuses S m s → (a.after s.trace).horizontal = switchFor m) := by
  unfold Avoidance.Level at h ⊢
  rcases droneSetObstacleAvoidance_cases S m s a with
    ⟨_, hrefuses, hafter⟩ | ⟨_, hrefuses, hafter⟩ | ⟨_, hrefuses, hafter⟩
  · simp [hafter, hrefuses]
  · simp only [hafter, hrefuses, true_imp_iff, ← h]
    exact eq_comm
  · simp [hafter, hrefuses, h]

/-- The settings are level after every command of a run. -/
def LevelThroughout (a : Avoidance) (modes : List ObstacleAvoidMode)
    (s : RealState τ) : Prop :=
  ∀ pre post, modes = pre ++ post → (a.after (runModes S pre s).trace).Level

/-- Every command of a run that sets the horizontal direction alone finds it as
it sets it. -/
def RefusalsHarmless (a : Avoidance) (modes : List ObstacleAvoidMode)
    (s : RealState τ) : Prop :=
  ∀ pre m post, modes = pre ++ m :: post → UpwardRefuses S m (runModes S pre s) →
    (a.after (runModes S pre s).trace).horizontal = switchFor m

theorem levelThroughout_iff
    {s : RealState τ} {a : Avoidance}
    (h : (a.after s.trace).Level)
    (modes : List ObstacleAvoidMode) :
    LevelThroughout S a modes s ↔ RefusalsHarmless S a modes s := by
  constructor
  · intro hlevel pre m post hmodes
    have hbefore := hlevel pre (m :: post) hmodes
    have hafter := hlevel (pre ++ [m]) post (by simp [hmodes])
    rw [runModes_concat] at hafter
    exact (level_after_command_iff S hbefore m).mp hafter
  · intro hharmless pre
    induction pre using List.reverseRecOn with
    | nil =>
        intro _ _
        exact h
    | append_singleton pre m ih =>
        intro post hmodes
        have hsplit : modes = pre ++ m :: post := by simp [hmodes]
        rw [runModes_concat]
        exact (level_after_command_iff S (ih (m :: post) hsplit) m).mpr
          (hharmless pre m post hsplit)

/-- **What a failed command leaves behind.**  A command that returns an error
leaves the upward direction alone, and the horizontal one unless only the upward
setter refused it.  A run from level settings keeps them level exactly if every
command of the latter kind finds the horizontal direction as it sets it. -/
theorem failed_command_settings
    (s : RealState τ) (a : Avoidance) :
    (∀ m, (droneSetObstacleAvoidance S m s).1 ≠ .ok →
      (a.after (droneSetObstacleAvoidance S m s).2.trace).upward =
        (a.after s.trace).upward ∧
      (¬ UpwardRefuses S m s →
        (a.after (droneSetObstacleAvoidance S m s).2.trace).horizontal =
          (a.after s.trace).horizontal) ∧
      (UpwardRefuses S m s →
        (a.after (droneSetObstacleAvoidance S m s).2.trace).horizontal = switchFor m)) ∧
    ((a.after s.trace).Level →
      ∀ modes, LevelThroughout S a modes s ↔ RefusalsHarmless S a modes s) := by
  refine ⟨?_, fun h modes => levelThroughout_iff S h modes⟩
  intro m herr
  rcases droneSetObstacleAvoidance_cases S m s a with
    ⟨hok, _, _⟩ | ⟨_, hrefuses, hafter⟩ | ⟨_, hrefuses, hafter⟩
  · exact absurd hok herr
  · simp [hafter, hrefuses]
  · simp [hafter, hrefuses]

end Failures

/-- An SDK whose upward setter fails. -/
def noUpwardSdk : Outside SysCall.Out Unit
  | .setUpwardsVisualObstacleAvoidanceEnableStatus _, _ => ((1 : ReturnCode), ())
  | c, o => steadySdk success c o

/-- A failed command has changed the horizontal direction. -/
theorem failed_command_tears :
    (droneSetObstacleAvoidance noUpwardSdk .close (initialState ())).1 = .errPsdk ∧
    (Avoidance.mk false false).after
      (droneSetObstacleAvoidance noUpwardSdk .close (initialState ())).2.trace =
        { horizontal := true, upward := false } := by
  constructor
  · rfl
  · rfl

end Real
end PsdkBridge
