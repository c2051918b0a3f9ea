import PsdkBridge.RealCtrl
import PsdkBridge.Replies

/-!
# The altitude for the way home

The altitude of a request is narrowed to `float`, and the handler refuses it if it
is negative.  What passes is converted to a 16-bit number of metres, and C defines
this conversion only if the integer part of the value fits.

`altitudeKept_iff` says exactly for which requests the conversion is one that C
defines, so that an acknowledged altitude is the requested one.
-/

namespace PsdkBridge

namespace FNum

/-- A value whose integer part is an unsigned number of 16 bits. -/
def FitsUint16 (x : FNum) : Prop :=
  ∃ q, x = .fin q ∧ 0 ≤ q ∧ q < 65536

/-- A value that is not negative, but has no integer part of 16 bits. -/
def Outgrows (x : FNum) : Prop :=
  x = .nan ∨ x = .inf false ∨ x.AtLeast 65536

/-- A value that outgrows the 16 bits is not refused. -/
theorem lt_zero_of_outgrows
    {x : FNum}
    (h : x.Outgrows) :
    x.lt (.fin 0) = false := by
  rcases h with rfl | rfl | ⟨q, rfl, hq⟩
  · rfl
  · rfl
  · simp only [lt_fin_fin, decide_eq_false_iff_not, not_lt]
    linarith

/-- The values that are not refused fit, or outgrow the 16 bits. -/
theorem fitsUint16_iff
    {x : FNum}
    (h : x.lt (.fin 0) = false) :
    x.FitsUint16 ↔ ¬ x.Outgrows := by
  constructor
  · rintro ⟨q, rfl, _, hlt⟩ (hx | hx | ⟨q', hx, hle⟩)
    · cases hx
    · cases hx
    · cases hx
      exact absurd hlt (not_lt.mpr hle)
  · intro hgrow
    rcases (lt_eq_false_iff 0 x).mp h with hnan | hinf | ⟨q, rfl, hpos⟩
    · exact absurd (Or.inl hnan) hgrow
    · exact absurd (Or.inr (Or.inl hinf)) hgrow
    · refine ⟨q, rfl, hpos, not_le.mp (fun hle => ?_)⟩
      exact hgrow (Or.inr (Or.inr ⟨q, rfl, hle⟩))

end FNum

/-- The altitude that a request asks for, as the handler sees it. -/
def requestedAltitude (P : Platform) (params : Json) : FNum :=
  binary32.convert (rpcParamDouble P params (ascii "altitude_m") (.fin (-1)))

/-- The two ways a request for an altitude can go. -/
theorem plan_setRthAltitude
    (P : Platform) (params : Json) :
    ((requestedAltitude P params).lt (.fin 0) = true ∧
      ∃ msg, Method.setRthAltitude.plan P params = .refuse msg) ∨
    ((requestedAltitude P params).lt (.fin 0) = false ∧
      ∃ failure, Method.setRthAltitude.plan P params =
        commandPlan (.setRthAltitude (requestedAltitude P params)) failure) := by
  simp only [Method.plan, requestedAltitude]
  split_ifs with h
  · exact Or.inl ⟨h, _, rfl⟩
  · exact Or.inr ⟨by simpa using h, _, rfl⟩

namespace Real

/-- What C says about the conversion `(uint16_t)x`. -/
def Truncates (L : Libm) : Prop :=
  ∀ q : ℚ, 0 ≤ q → q < 65536 → ((L.floatToUint16 (.fin q)).toNat : ℤ) = ⌊q⌋

section Requests

variable {τ : Type} (L : Libm) (S : Outside SysCall.Out τ) (E : Env (RealState τ))
  (peer : SockaddrIn) {line : Bytes} {req : RpcRequest}

/-- The conversion is only reached by values that fit, and a request that is answered
with a result has set the integer part of its altitude, and nothing else. -/
structure AltitudeKept (line : Bytes) (req : RpcRequest) (w : World (RealState τ)) :
    Prop where
  converted : ∀ altM err, .call (.setRthAltitude altM) err ∈ newEvents E peer line w →
    altM.FitsUint16
  acknowledged :
    (∃ buf len, .send peer buf len ∈ newEvents E peer line w ∧ ResultReply req.id buf) →
    ∃ q, requestedAltitude E.platform req.params = .fin q ∧
      ∃ metres : UInt16, (metres.toNat : ℤ) = ⌊q⌋ ∧
        (handleRpc E peer line w).ctrl.trace =
          w.ctrl.trace ++ [⟨.setGoHomeAltitude metres, success⟩]

/-- The call of the SDK behind `drone_set_rth_altitude`. -/
theorem realCtrl_setRthAltitude
    {altM : FNum} {s : RealState τ}
    (h : (realCtrl L S (.setRthAltitude altM) s).1.1 = .ok) :
    (realCtrl L S (.setRthAltitude altM) s).2.trace =
      s.trace ++ [⟨.setGoHomeAltitude (L.floatToUint16 altM), success⟩] := by
  have hrc : (S (.setGoHomeAltitude (L.floatToUint16 altM)) s.outside).1 = success := by
    by_contra hne
    have herr : okOrPsdk (S (.setGoHomeAltitude (L.floatToUint16 altM)) s.outside).1 = .ok :=
      h
    rw [okOrPsdk, if_neg hne] at herr
    cases herr
  show s.trace ++ [⟨_, (S (.setGoHomeAltitude (L.floatToUint16 altM)) s.outside).1⟩] = _
  rw [hrc]

variable {L S E}

/-- **When an acknowledged altitude is the requested one.**  Exactly unless the
altitude, as a `float`, is NaN, the positive infinity, or at least `65536`. -/
theorem altitudeKept_iff
    (hL : Truncates L)
    (hE : E.droneCtrl = realCtrl L S)
    (hreq : rpcParse E.platform line = some req)
    (hm : req.method = ascii "drone.set_rth_altitude")
    (w : World (RealState τ)) :
    AltitudeKept E peer line req w ↔
      ¬ (requestedAltitude E.platform req.params).Outgrows := by
  have hplan : req.plan E.platform = Method.setRthAltitude.plan E.platform req.params :=
    plan_of_name hm E.platform
  have hack := acknowledged_iff E peer hreq w
  have hctrl : (handleRpc E peer line w).ctrl = (req.plan E.platform).ctrl E w := by
    simp only [handleRpc, hreq]
    rw [dispatch_eq_exec, exec_ctrl]
  rcases plan_setRthAltitude E.platform req.params with ⟨hlt, msg, h⟩ | ⟨hlt, failure, h⟩
  · rw [h] at hplan
    refine iff_of_true ⟨?_, ?_⟩ ?_
    · intro altM err hcall
      rw [newEvents_of_some E peer hreq w, hplan] at hcall
      simp [Plan.calls, sendEvent] at hcall
    · rw [hack, hplan]
      exact False.elim
    · intro hgrow
      rw [FNum.lt_zero_of_outgrows hgrow] at hlt
      cases hlt
  · rw [h] at hplan
    have hcalls : ∀ altM err, .call (.setRthAltitude altM) err ∈ newEvents E peer line w ↔
        altM = requestedAltitude E.platform req.params ∧
          err = (E.droneCtrl (.setRthAltitude (requestedAltitude E.platform req.params))
            w.ctrl).1.1 := by
      intro altM err
      rw [newEvents_of_some E peer hreq w, hplan]
      simp [commandPlan, Plan.calls, sendEvent]
    rw [← FNum.fitsUint16_iff hlt]
    constructor
    · intro hkept
      exact hkept.converted _ _ ((hcalls _ _).mpr ⟨rfl, rfl⟩)
    · intro hfits
      refine ⟨fun altM err hcall => ((hcalls altM err).mp hcall).1 ▸ hfits, ?_⟩
      rw [hack, hctrl, hplan]
      intro hok
      obtain ⟨q, hq, hpos, hmax⟩ := hfits
      refine ⟨q, hq, L.floatToUint16 (.fin q), hL q hpos hmax, ?_⟩
      rw [← hq]
      simp only [commandPlan, Plan.Succeeds, Plan.ctrl, hE] at hok ⊢
      exact realCtrl_setRthAltitude L S hok

end Requests

/-! ## Requests with an integer -/

/-- A conversion that cuts the integer part to 16 bits. -/
def cuttingLibm : Libm :=
  { flatLibm with
    floatToUint16 := fun x =>
      match x with
      | .fin q => UInt16.ofInt ⌊q⌋
      | _ => 0 }

theorem truncates_cuttingLibm :
    Truncates cuttingLibm := by
  intro q hpos hmax
  have hfloor : 0 ≤ ⌊q⌋ := Int.floor_nonneg.mpr hpos
  have hfloor' : ⌊q⌋ < 65536 := Int.floor_lt.mpr (by exact_mod_cast hmax)
  simp only [cuttingLibm, UInt16.ofInt, UInt16.toNat_ofNat']
  omega

/-- The parameters of a request for an altitude of `n` metres. -/
def altitudeParams (n : Int) : List Member :=
  [{ key := ascii "altitude_m", text := decInt n, val := .int n }]

/-- The request as the handler receives it. -/
def altitudeRequest (n : Int) : RpcRequest where
  id := 1
  method := ascii "drone.set_rth_altitude"
  params := .obj [(ascii "altitude_m", .int n)]
  root := requestObject 1 .setRthAltitude (altitudeParams n)

theorem rpcParse_altitudeRequest
    {n : Int}
    (hn : -2 ^ 63 ≤ n ∧ n < 2 ^ 64) :
    rpcParse gnuPlatform (requestLine 1 .setRthAltitude (altitudeParams n)) =
      some (altitudeRequest n) := by
  have hkey : Plain (ascii "altitude_m") := by decide
  have hzero : (0 : UInt8) ∉ decInt n := notMem_decInt rfl (by decide) n
  refine rpcParse_requestLine (by decide) .setRthAltitude (fun m hm => ?_)
    (fun m hm => ?_) (fun m hm => ?_)
  · simp only [altitudeParams, List.mem_singleton] at hm
    subst hm
    exact ⟨hkey, reads_int n⟩
  · simp only [altitudeParams, List.mem_singleton] at hm
    subst hm
    exact storable_int hn
  · simp only [altitudeParams, List.mem_singleton] at hm
    subst hm
    simp [Member.render, ascii, hzero]

/-- The real build on an SDK that accepts everything. -/
def acceptingEnv : Env (RealState Unit) :=
  realEnv gnuPlatform cuttingLibm (steadySdk success) { tvSec := 0, tvNsec := 0 }

/-- An altitude of 120 metres is kept. -/
theorem altitudeKept_hundredTwenty :
    AltitudeKept acceptingEnv localPeer
      (requestLine 1 .setRthAltitude (altitudeParams 120)) (altitudeRequest 120)
      (startWorld ()) := by
  refine (altitudeKept_iff localPeer truncates_cuttingLibm rfl
    (rpcParse_altitudeRequest (by decide)) rfl (startWorld ())).mpr ?_
  have haltitude : requestedAltitude gnuPlatform (altitudeRequest 120).params = .fin 120 := by
    decide +kernel
  show ¬ (requestedAltitude gnuPlatform (altitudeRequest 120).params).Outgrows
  rw [haltitude]
  rintro (h | h | ⟨q, h, hle⟩)
  · cases h
  · cases h
  · cases h
    norm_num at hle

/-- An altitude of 70000 metres is acknowledged, and 4464 metres are set. -/
theorem altitude_seventyThousand_cut :
    (∃ buf len, .send localPeer buf len ∈ newEvents acceptingEnv localPeer
        (requestLine 1 .setRthAltitude (altitudeParams 70000)) (startWorld ()) ∧
      ResultReply (altitudeRequest 70000).id buf) ∧
    (handleRpc acceptingEnv localPeer
        (requestLine 1 .setRthAltitude (altitudeParams 70000)) (startWorld ())).ctrl.trace =
      [⟨.setGoHomeAltitude 4464, success⟩] ∧
    ¬ AltitudeKept acceptingEnv localPeer
      (requestLine 1 .setRthAltitude (altitudeParams 70000)) (altitudeRequest 70000)
      (startWorld ()) := by
  have hreq := rpcParse_altitudeRequest (n := 70000) (by decide)
  have haltitude :
      requestedAltitude gnuPlatform (altitudeRequest 70000).params = .fin 70000 := by
    decide +kernel
  have hcut : cuttingLibm.floatToUint16 (.fin 70000) = 4464 := by
    decide +kernel
  have hplan : ∃ failure, (altitudeRequest 70000).plan gnuPlatform =
      commandPlan (.setRthAltitude (.fin 70000)) failure := by
    rw [plan_of_name (k := .setRthAltitude) rfl]
    obtain ⟨hlt, _⟩ | ⟨_, hplan⟩ :=
      plan_setRthAltitude gnuPlatform (altitudeRequest 70000).params
    · rw [haltitude] at hlt
      exact absurd hlt (by decide)
    · rwa [haltitude] at hplan
  obtain ⟨failure, hplan⟩ := hplan
  have hack : ((altitudeRequest 70000).plan gnuPlatform).Succeeds acceptingEnv
      (startWorld ()) := by
    rw [hplan]
    rfl
  have htrace : (handleRpc acceptingEnv localPeer
      (requestLine 1 .setRthAltitude (altitudeParams 70000)) (startWorld ())).ctrl.trace =
        [⟨.setGoHomeAltitude 4464, success⟩] := by
    have hplan' : (altitudeRequest 70000).plan acceptingEnv.platform = _ := hplan
    have hreq' : rpcParse acceptingEnv.platform _ = _ := hreq
    simp only [handleRpc, hreq']
    rw [dispatch_eq_exec, exec_ctrl, hplan', ← hcut]
    rfl
  have hack' := (acknowledged_iff acceptingEnv localPeer hreq (startWorld ())).mpr hack
  refine ⟨hack', htrace, fun hkept => ?_⟩
  obtain ⟨q, hq, metres, hmetres, _⟩ := hkept.acknowledged hack'
  obtain rfl : q = 70000 := FNum.fin.inj (hq.symm.trans haltitude)
  have hlt : metres.toNat < 65536 := metres.toNat_lt
  have hfloor : ⌊(70000 : ℚ)⌋ = 70000 := rfl
  omega

end Real
end PsdkBridge
