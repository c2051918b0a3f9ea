import PsdkBridge.Lib.Numerals
import PsdkBridge.Daemon

/-!
# The command line

This module follows `main` in `app/main.c` with the loop over its options.  What the
layers below do is the outside here: a call of `psdk_init` or of `udp_server_create`
may have any effect and any answer, for either build; `mainAfterOptions_eq` puts the
functions of the real build in its place.

An argument list that is a list of options has one reading (`spells_unique`), and
`parseOptions_eq_ok_iff` says that the loop accepts exactly these.  `portKept_iff` says
for which of them the port is the one that was written.
-/

namespace PsdkBridge
namespace App

/-- `DRONE_SERVER_PORT`. -/
def droneServerPort : UInt16 := 5555

/-! ## The option loop -/

/-- What the option loop sets. -/
structure Options where
  port : UInt16
  bindIp : Bytes
  debug : Bool
deriving DecidableEq

def defaultOptions : Options where
  port := droneServerPort
  bindIp := ascii "0.0.0.0"
  debug := false

/-- `(uint16_t)atoi(value)`. -/
def portOf (value : Bytes) : UInt16 :=
  UInt16.ofInt (atoi value).toInt

/-- The option loop, over the arguments that are left; an error is the exit code. -/
def parseOptions : Options → List Bytes → Except Nat Options
  | o, [] => .ok o
  | o, [arg] =>
      -- without a value, `--port` and `--bind-ip` are unknown
      if arg = ascii "--debug" then .ok { o with debug := true }
      else if arg = ascii "--help" then .error 0
      else .error 1
  | o, arg :: value :: rest =>
      if arg = ascii "--port" then parseOptions { o with port := portOf value } rest
      else if arg = ascii "--bind-ip" then parseOptions { o with bindIp := value } rest
      else if arg = ascii "--debug" then parseOptions { o with debug := true } (value :: rest)
      else if arg = ascii "--help" then .error 0
      else .error 1

/-! ## `main` -/

/-- `LogLevel`, as far as `main` sets it. -/
inductive LogLevel where
  | debug
  | info

/-- The calls of `main`. -/
inductive MainCall where
  | logSetLevel (level : LogLevel)
  | psdkInit
  | droneCtrlInit
  | udpServerCreate (bindIp : Bytes) (port : UInt16)
  | handlerSetServer (srv : Int)
  | udpServerPoll (srv : Int)
  | udpServerDestroy (srv : Int)
  | droneCtrlDeinit
  | psdkDeinit

/-- What a call answers.  A server is known by its socket, and `none` is NULL. -/
@[reducible] def MainCall.Out : MainCall → Type
  | .psdkInit => Int
  | .droneCtrlInit => Int
  | .udpServerCreate _ _ => Option Int
  | _ => Unit

section Functions

variable {τ : Type} (S : Outside MainCall.Out τ)

/-- The polls before the signal. -/
def pollLoop (srv : Int) : Nat → Program MainCall.Out τ Unit Unit
  | 0 => return ()
  | polls + 1 => do
      let _ ← callOut S (.udpServerPoll srv)
      pollLoop srv polls

/-- `main` behind the option loop; the result is the exit code. -/
def afterOptions (o : Options) (polls : Nat) : Program MainCall.Out τ Unit Nat := do
  let _ ← callOut S (.logSetLevel (if o.debug then .debug else .info))
  let rc : Int ← callOut S .psdkInit
  if rc ≠ 0 then
    return 2
  else
    let rc : Int ← callOut S .droneCtrlInit
    if rc ≠ 0 then
      let _ ← callOut S .psdkDeinit
      return 3
    else
      let srv : Option Int ← callOut S (.udpServerCreate o.bindIp o.port)
      match srv with
      | none =>
          let _ ← callOut S .droneCtrlDeinit
          let _ ← callOut S .psdkDeinit
          return 4
      | some srv =>
          let _ ← callOut S (.handlerSetServer srv)
          pollLoop S srv polls
          let _ ← callOut S (.udpServerDestroy srv)
          let _ ← callOut S .droneCtrlDeinit
          let _ ← callOut S .psdkDeinit
          return 0

/-- `main`, for the arguments behind the name of the program. -/
def main (args : List Bytes) (polls : Nat) : Program MainCall.Out τ Unit Nat :=
  match parseOptions defaultOptions args with
  | .error rc => return rc
  | .ok o => afterOptions S o polls

/-- The record of a run. -/
def mainTrace (args : List Bytes) (polls : Nat) (outside : τ) :
    List (CallEvent MainCall.Out) :=
  (main S args polls { outside := outside, vars := (), trace := [] }).2.trace

end Functions

/-! ## The real build -/

section RealBuild

open PsdkBridge.Real

variable {τ : Type} (P : Platform) (L : Libm) (sizeof : Sizes)
  (S : Outside DaemonCall.Out τ)

/-- The layers below `main` in the real build, with the rounds that are left. -/
def realOutside : Outside MainCall.Out (Machine DaemonCall.Out τ DaemonVars × List Round)
  | .logSetLevel _, t => ((), t)
  | .psdkInit, t =>
      let r := psdkInit S t.1
      (if r.1 then (0 : Int) else -1, (r.2, t.2))
  | .droneCtrlInit, t =>
      let r := inCtrl (droneCtrlInit (sysOutside S)) t.1
      (if r.1 then (0 : Int) else -1, (r.2, t.2))
  | .udpServerCreate bindIp port, t =>
      let r := udpServerOpen S bindIp port t.1
      (r.1, (r.2, t.2))
  | .handlerSetServer _, t => ((), t)
  | .udpServerPoll _, (m, []) => ((), (m, []))
  | .udpServerPoll _, (m, r :: rounds) => ((), ((pollRound P L sizeof S r m).2, rounds))
  | .udpServerDestroy srv, t => ((), ((udpServerDestroy S srv t.1).2, t.2))
  | .droneCtrlDeinit, t => ((), ((inCtrl (droneCtrlDeinit (sysOutside S)) t.1).2, t.2))
  | .psdkDeinit, t => ((), ((psdkDeinit S t.1).2, t.2))

/-- The poll loop of the daemon is that of `main`. -/
theorem pollLoop_eq
    (srv : Int) (rounds : List Round) (m : Machine DaemonCall.Out τ DaemonVars)
    (tr : List (CallEvent MainCall.Out)) :
    (pollLoop (realOutside P L sizeof S) srv rounds.length
        { outside := (m, rounds), vars := (), trace := tr }).2.outside =
      (((forIn rounds PUnit.unit (fun r _ => do
          pollRound P L sizeof S r
          pure (ForInStep.yield PUnit.unit)) : DaemonM τ PUnit) m).2, []) := by
  induction rounds generalizing m tr with
  | nil =>
      rfl
  | cons r rounds ih =>
      rw [List.forIn_cons]
      exact ih (pollRound P L sizeof S r m).2 _

/-- The daemon of the real build is `main` behind its options, over the layers of this
build. -/
theorem mainAfterOptions_eq
    (o : Options) (rounds : List Round) (m : Machine DaemonCall.Out τ DaemonVars) :
    let r := afterOptions (realOutside P L sizeof S) o rounds.length
      { outside := (m, rounds), vars := (), trace := [] }
    mainAfterOptions P L sizeof S o.bindIp o.port rounds m = (r.1, r.2.outside.1) := by
  unfold mainAfterOptions afterOptions
  simp only [run_bind, run_callOut, realOutside]
  rcases psdkInit S m with ⟨_ | _, m₁⟩
  · rfl
  simp only [Bool.not_true, Bool.false_eq_true, if_true, if_false, ne_eq, not_true,
    run_bind, run_callOut, realOutside]
  rcases inCtrl (droneCtrlInit (sysOutside S)) m₁ with ⟨_ | _, m₂⟩
  · rfl
  simp only [Bool.not_true, Bool.false_eq_true, if_true, if_false, not_true,
    run_bind, run_callOut, realOutside]
  rcases udpServerOpen S o.bindIp o.port m₂ with ⟨_ | srv, m₃⟩
  · rfl
  simp only [run_bind, run_callOut, run_pure, realOutside, pollLoop_eq]

end RealBuild

/-! ## Argument lists -/

/-- An option. -/
inductive Opt where
  | port (value : Bytes)
  | bindIp (value : Bytes)
  | debug

namespace Opt

/-- The arguments of an option. -/
def words : Opt → List Bytes
  | .port value => [ascii "--port", value]
  | .bindIp value => [ascii "--bind-ip", value]
  | .debug => [ascii "--debug"]

/-- What an option sets. -/
def set (o : Options) : Opt → Options
  | .port value => { o with port := portOf value }
  | .bindIp value => { o with bindIp := value }
  | .debug => { o with debug := true }

/-- The value of a `--port` option. -/
def portValue : Opt → Option Bytes
  | .port value => some value
  | _ => none

end Opt

/-- The arguments are those of the options. -/
def Spells (args : List Bytes) (opts : List Opt) : Prop :=
  args = opts.flatMap Opt.words

/-- The port that the options write: the number of the last `--port`, or the
default. -/
def writtenPort (opts : List Opt) : Option Int :=
  match (opts.filterMap Opt.portValue).getLast? with
  | none => some droneServerPort.toNat
  | some value => decimalNumber value

/-- The options write a port. -/
def PortInRange (opts : List Opt) : Prop :=
  ∃ n ∈ writtenPort opts, 0 ≤ n ∧ n ≤ 65535

instance : DecidablePred PortInRange := fun opts =>
  inferInstanceAs (Decidable (∃ n ∈ writtenPort opts, 0 ≤ n ∧ n ≤ 65535))

section Reading

variable (o : Options)

@[simp] theorem parseOptions_port
    (value : Bytes) (rest : List Bytes) :
    parseOptions o (ascii "--port" :: value :: rest) =
      parseOptions { o with port := portOf value } rest := by
  rw [parseOptions, if_pos rfl]

@[simp] theorem parseOptions_bindIp
    (value : Bytes) (rest : List Bytes) :
    parseOptions o (ascii "--bind-ip" :: value :: rest) =
      parseOptions { o with bindIp := value } rest := by
  rw [parseOptions, if_neg (by decide), if_pos rfl]

@[simp] theorem parseOptions_debug
    (rest : List Bytes) :
    parseOptions o (ascii "--debug" :: rest) = parseOptions { o with debug := true } rest := by
  cases rest with
  | nil =>
      exact if_pos rfl
  | cons value rest =>
      rw [parseOptions, if_neg (by decide), if_neg (by decide), if_pos rfl]

/-- The first option of a list of arguments. -/
theorem words_cancel
    {opt opt' : Opt} {rest rest' : List Bytes}
    (h : opt.words ++ rest = opt'.words ++ rest') :
    opt = opt' ∧ rest = rest' := by
  have hport : ascii "--port" ≠ ascii "--bind-ip" := by decide
  have hbind : ascii "--bind-ip" ≠ ascii "--debug" := by decide
  have hdebug : ascii "--debug" ≠ ascii "--port" := by decide
  cases opt <;> cases opt' <;>
    simp_all [Opt.words, hport.symm, hbind.symm, hdebug.symm]

/-- The loop takes the options one after the other. -/
theorem parseOptions_words
    (opts : List Opt) :
    parseOptions o (opts.flatMap Opt.words) = .ok (opts.foldl Opt.set o) := by
  induction opts generalizing o with
  | nil =>
      rfl
  | cons opt opts ih =>
      cases opt with
      | port value =>
          exact (parseOptions_port o value _).trans (ih _)
      | bindIp value =>
          exact (parseOptions_bindIp o value _).trans (ih _)
      | debug =>
          exact (parseOptions_debug o _).trans (ih _)

/-- The loop takes nothing but options. -/
theorem exists_spells
    {args : List Bytes} {o o' : Options}
    (h : parseOptions o args = .ok o') :
    ∃ opts, Spells args opts := by
  induction o, args using parseOptions.induct with
  | case1 o =>
      exact ⟨[], rfl⟩
  | case2 o =>
      exact ⟨[.debug], rfl⟩
  | case3 o =>
      cases h
  | case4 o arg hdebug hhelp =>
      rw [parseOptions, if_neg hdebug, if_neg hhelp] at h
      cases h
  | case5 o value rest ih =>
      rw [parseOptions_port] at h
      obtain ⟨opts, rfl⟩ := ih h
      exact ⟨.port value :: opts, rfl⟩
  | case6 o value rest _ ih =>
      rw [parseOptions_bindIp] at h
      obtain ⟨opts, rfl⟩ := ih h
      exact ⟨.bindIp value :: opts, rfl⟩
  | case7 o value rest _ _ ih =>
      rw [parseOptions_debug] at h
      obtain ⟨opts, hopts⟩ := ih h
      exact ⟨.debug :: opts, congrArg (ascii "--debug" :: ·) hopts⟩
  | case8 o value rest =>
      cases h
  | case9 o arg value rest hport hbind hdebug hhelp =>
      rw [parseOptions, if_neg hport, if_neg hbind, if_neg hdebug, if_neg hhelp] at h
      cases h

/-- **The option loop accepts the lists of options**, and sets what they say, the later
ones over the earlier ones. -/
theorem parseOptions_eq_ok_iff
    {args : List Bytes} {o' : Options} :
    parseOptions o args = .ok o' ↔ ∃ opts, Spells args opts ∧ o' = opts.foldl Opt.set o := by
  constructor
  · intro h
    obtain ⟨opts, rfl⟩ := exists_spells h
    rw [parseOptions_words] at h
    exact ⟨opts, rfl, (Except.ok.inj h).symm⟩
  · rintro ⟨opts, rfl, rfl⟩
    exact parseOptions_words o opts

/-- An argument list is that of one list of options at most. -/
theorem spells_unique
    {args : List Bytes} {opts opts' : List Opt}
    (h : Spells args opts)
    (h' : Spells args opts') :
    opts = opts' := by
  subst h
  induction opts generalizing opts' with
  | nil =>
      cases opts' with
      | nil => rfl
      | cons opt opts' => cases opt <;> cases h'
  | cons opt opts ih =>
      cases opts' with
      | nil => cases opt <;> cases h'
      | cons opt' opts' =>
          obtain ⟨rfl, hrest⟩ := words_cancel h'
          exact congrArg _ (ih hrest)

end Reading

/-! ## The port -/

section Port

/-- The port that the options set: that of the last `--port`. -/
theorem foldl_set_port
    (opts : List Opt) (o : Options) :
    (opts.foldl Opt.set o).port =
      match (opts.filterMap Opt.portValue).getLast? with
      | none => o.port
      | some value => portOf value := by
  induction opts using List.reverseRecOn with
  | nil =>
      rfl
  | append_singleton opts opt ih =>
      rw [List.foldl_append, List.filterMap_append]
      cases opt with
      | port value =>
          simp [Opt.set, Opt.portValue]
      | bindIp value =>
          simpa [Opt.set, Opt.portValue] using ih
      | debug =>
          simpa [Opt.set, Opt.portValue] using ih

/-- A written port is the one that `main` reads. -/
theorem portOf_of_decimalNumber
    {value : Bytes} {n : Int}
    (h : decimalNumber value = some n)
    (hlow : 0 ≤ n)
    (hhigh : n ≤ 65535) :
    ((portOf value).toNat : Int) = n := by
  rw [portOf, atoi_of_decimalNumber h (by omega) (by omega), UInt16.ofInt,
    UInt16.toNat_ofNat']
  omega

theorem writtenPort_of_inRange
    {opts : List Opt}
    (h : PortInRange opts) :
    writtenPort opts = some ((opts.foldl Opt.set defaultOptions).port.toNat : Int) := by
  obtain ⟨n, hn, hlow, hhigh⟩ := h
  rw [foldl_set_port]
  unfold writtenPort at hn ⊢
  cases hlast : (opts.filterMap Opt.portValue).getLast? with
  | none =>
      rfl
  | some value =>
      rw [hlast] at hn
      have hn : decimalNumber value = some n := hn
      simp only [hn, portOf_of_decimalNumber hn hlow hhigh]

end Port

/-! ## Whole runs -/

/-- The calls of `main` that the options decide about. -/
inductive Setup where
  | psdkInit
  | server (bindIp : Bytes) (port : UInt16)
deriving DecidableEq

def setupOf : CallEvent MainCall.Out → Option Setup
  | ⟨.psdkInit, _⟩ => some .psdkInit
  | ⟨.udpServerCreate bindIp port, _⟩ => some (.server bindIp port)
  | _ => none

/-- A server is only created on the port that was written, and without one the SDK is
not initialised. -/
structure PortKept (args : List Bytes) (tr : List (CallEvent MainCall.Out)) : Prop where
  passed : ∀ bindIp port, .server bindIp port ∈ tr.filterMap setupOf →
    ∃ opts, Spells args opts ∧ writtenPort opts = some (port.toNat : Int)
  refused : ∀ opts, Spells args opts → ¬ PortInRange opts → .psdkInit ∉ tr.filterMap setupOf

section Runs

variable {τ : Type} (S : Outside MainCall.Out τ)

theorem silent_pollLoop
    (srv : Int) (polls : Nat) :
    Silent setupOf (pollLoop S srv polls) := by
  induction polls with
  | zero =>
      exact silent_pure _
  | succ polls ih =>
      exact views_skip S (fun _ => rfl) (fun _ => ih)

/-- What `main` does behind its options. -/
theorem views_afterOptions
    (o : Options) (polls : Nat) :
    Views setupOf (afterOptions S o polls)
      (fun _ l => l = [.psdkInit] ∨ l = [.psdkInit, .server o.bindIp o.port]) := by
  unfold afterOptions
  refine views_skip S (fun _ => rfl) (fun _ => ?_)
  refine views_call S (fun rc => ?_)
  refine views_ite (fun _ => views_pure (Or.inl rfl)) (fun _ => ?_)
  refine views_skip S (fun _ => rfl) (fun rc => ?_)
  refine views_ite (fun _ => ?_) (fun _ => ?_)
  · exact views_skip S (fun _ => rfl) (fun _ => views_pure (Or.inl rfl))
  refine views_call S (fun srv => ?_)
  cases srv with
  | none =>
      refine views_skip S (fun _ => rfl) (fun _ => ?_)
      exact views_skip S (fun _ => rfl) (fun _ => views_pure (Or.inr rfl))
  | some srv =>
      refine views_skip S (fun _ => rfl) (fun _ => ?_)
      refine views_silent_bind (silent_pollLoop S srv polls) (fun _ => ?_)
      refine views_skip S (fun _ => rfl) (fun _ => ?_)
      refine views_skip S (fun _ => rfl) (fun _ => ?_)
      exact views_skip S (fun _ => rfl) (fun _ => views_pure (Or.inr rfl))

/-- What `main` does with a list of options. -/
theorem setups_of_spells
    {args : List Bytes} {opts : List Opt}
    (h : Spells args opts)
    (polls : Nat) (outside : τ) :
    let o := opts.foldl Opt.set defaultOptions
    (mainTrace S args polls outside).filterMap setupOf = [.psdkInit] ∨
      (mainTrace S args polls outside).filterMap setupOf =
        [.psdkInit, .server o.bindIp o.port] := by
  subst h
  obtain ⟨l, hl, hcases⟩ := views_afterOptions S (opts.foldl Opt.set defaultOptions) polls
    { outside := outside, vars := (), trace := [] }
  rw [mainTrace, main, parseOptions_words, hl]
  simpa using hcases

/-- What `main` does with other arguments. -/
theorem setups_of_not_spells
    {args : List Bytes}
    (h : ¬ ∃ opts, Spells args opts)
    (polls : Nat) (outside : τ) :
    (mainTrace S args polls outside).filterMap setupOf = [] := by
  rw [mainTrace, main]
  cases hparse : parseOptions defaultOptions args with
  | error rc =>
      rfl
  | ok o =>
      exact absurd (exists_spells hparse) h

/-- The SDK is initialised, whatever port the options write. -/
theorem not_portKept
    {args : List Bytes} {opts : List Opt}
    (h : Spells args opts)
    (hrange : ¬ PortInRange opts)
    (polls : Nat) (outside : τ) :
    ¬ PortKept args (mainTrace S args polls outside) := by
  intro hkept
  apply hkept.refused opts h hrange
  rcases setups_of_spells S h polls outside with hrun | hrun <;> simp [hrun]

/-- **The port is the written one** if and only if the arguments are no list of options,
so that `main` stops there, or they write a port. -/
theorem portKept_iff
    (args : List Bytes) (polls : Nat) (outside : τ) :
    PortKept args (mainTrace S args polls outside) ↔
      ∀ opts, Spells args opts → PortInRange opts := by
  constructor
  · intro hkept opts h
    by_contra hrange
    exact not_portKept S h hrange polls outside hkept
  · intro hrange
    by_cases hspells : ∃ opts, Spells args opts
    · obtain ⟨opts, h⟩ := hspells
      refine ⟨fun bindIp port hmem => ⟨opts, h, ?_⟩, fun opts' h' hnot => ?_⟩
      · rw [writtenPort_of_inRange (hrange opts h)]
        rcases setups_of_spells S h polls outside with hrun | hrun
        · rw [hrun] at hmem
          simp at hmem
        · rw [hrun] at hmem
          simp only [List.mem_cons, reduceCtorEq, List.not_mem_nil, or_false, false_or,
            Setup.server.injEq] at hmem
          rw [hmem.2]
      · exact absurd (hrange opts' h') hnot
    · have hrun := setups_of_not_spells S hspells polls outside
      constructor
      · intro bindIp port hmem
        rw [hrun] at hmem
        cases hmem
      · intro opts h
        exact absurd ⟨opts, h⟩ hspells

end Runs

/-- An outside that accepts everything. -/
def openOutside : Outside MainCall.Out Unit
  | .psdkInit, s => ((0 : Int), s)
  | .droneCtrlInit, s => ((0 : Int), s)
  | .udpServerCreate _ _, s => (some 3, s)
  | .logSetLevel _, s | .handlerSetServer _, s | .udpServerPoll _, s
  | .udpServerDestroy _, s | .droneCtrlDeinit, s | .psdkDeinit, s => ((), s)

/-- A port of five digits that does not fit into 16 bits. -/
def wrappedArgs : List Bytes :=
  [ascii "--port", ascii "70000"]

/-- The server is created on another port. -/
theorem portKept_wrapped :
    (mainTrace openOutside wrappedArgs 0 ()).filterMap setupOf =
        [.psdkInit, .server (ascii "0.0.0.0") 4464] ∧
      ¬ PortKept wrappedArgs (mainTrace openOutside wrappedArgs 0 ()) := by
  have hspells : Spells wrappedArgs [.port (ascii "70000")] := rfl
  exact ⟨by decide +kernel, not_portKept openOutside hspells (by decide) 0 ()⟩

end App
end PsdkBridge
