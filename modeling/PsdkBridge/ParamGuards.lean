import PsdkBridge.Replies

/-!
# Which parameters the setters let through

Five setters need numeric parameters.  Their handlers detect a missing
parameter by a default that the range check behind it rejects; a parameter that
is there, but is no number, goes through the conversions of `json-c` first.

`Setter.accepts` is the range check on the values of the required members.
`settersGuarded_iff` says exactly when a setter request that lacks a number is
refused: unless all required members are there and their converted values pass
the range check.
-/

namespace PsdkBridge

/-- The setters with required parameters. -/
inductive Setter where
  | rthAltitude
  | cameraZoom
  | homeLocation
  | cameraMode
  | obstacleAvoidance
deriving DecidableEq

namespace Setter

/-- The method of a setter. -/
def method : Setter → Method
  | rthAltitude => .setRthAltitude
  | cameraZoom => .setCameraZoom
  | homeLocation => .setHomeLocation
  | cameraMode => .setCameraMode
  | obstacleAvoidance => .setObstacleAvoidance

/-- The required members of `params`. -/
def keys : Setter → List Bytes
  | rthAltitude => [ascii "altitude_m"]
  | cameraZoom => [ascii "zoom_factor"]
  | homeLocation => [ascii "lat", ascii "lon"]
  | cameraMode => [ascii "mode"]
  | obstacleAvoidance => [ascii "mode"]

/-- The values of the required members, if all of them are there. -/
def values (s : Setter) (params : Json) : Option (List Json) :=
  s.keys.mapM (jsonObjectObjectGetEx params)

/-- The range check of a setter on the converted values. -/
def accepts (P : Platform) : Setter → List Json → Bool
  | rthAltitude, [v] =>
      !(binary32.convert (jsonObjectGetDouble P v)).lt (.fin 0)
  | cameraZoom, [v] =>
      !(binary32.convert (jsonObjectGetDouble P v)).lt (.fin 1)
  | homeLocation, [lat, lon] =>
      !((jsonObjectGetDouble P lat).gt (.fin 90) ||
        (jsonObjectGetDouble P lat).lt (.fin (-90)) ||
        (jsonObjectGetDouble P lon).gt (.fin 180) ||
        (jsonObjectGetDouble P lon).lt (.fin (-180)))
  | cameraMode, [v] => decide (¬ jsonObjectGetInt P v < 0)
  | obstacleAvoidance, [v] => decide (¬ jsonObjectGetInt P v < 0)
  | _, _ => false

/-- The parameters are an object in which every required member is a number. -/
def HasNumbers (s : Setter) (params : Json) : Prop :=
  jsonObjectIsObject params = true ∧
    ∃ vs, s.values params = some vs ∧ ∀ v ∈ vs, v.isNumber = true

/-- Every required member is there, some of them is no number, and what
`json-c` converts the members to passes the range check. -/
def SlipsThrough (P : Platform) (s : Setter) (params : Json) : Prop :=
  ∃ vs, s.values params = some vs ∧ (∃ v ∈ vs, v.isNumber = false) ∧
    s.accepts P vs = true

end Setter

/-! ## What passes the parameter check -/

theorem values_single
    {s : Setter} {key : Bytes}
    (hkeys : s.keys = [key])
    (params : Json) :
    s.values params = (jsonObjectObjectGetEx params key).map (fun v => [v]) := by
  unfold Setter.values
  rw [hkeys]
  cases h : jsonObjectObjectGetEx params key <;> simp [h]

theorem values_homeLocation
    (params : Json) :
    Setter.homeLocation.values params =
      (jsonObjectObjectGetEx params (ascii "lat")).bind (fun lat =>
        (jsonObjectObjectGetEx params (ascii "lon")).map (fun lon => [lat, lon])) := by
  unfold Setter.values Setter.keys
  cases h₁ : jsonObjectObjectGetEx params (ascii "lat") <;>
    cases h₂ : jsonObjectObjectGetEx params (ascii "lon") <;> simp [h₁, h₂]

/-- A setter goes on to its command exactly if all required members are there
and pass the range check. -/
theorem badParams_eq_false_iff
    (P : Platform) (s : Setter) (params : Json) :
    s.method.badParams P params = false ↔
      ∃ vs, s.values params = some vs ∧ s.accepts P vs = true := by
  cases s with
  | rthAltitude =>
      rw [values_single rfl]
      simp only [Setter.method, Method.badParams, rpcParamDouble]
      cases jsonObjectObjectGetEx params (ascii "altitude_m") <;>
        simp [Setter.accepts]
  | cameraZoom =>
      rw [values_single rfl]
      simp only [Setter.method, Method.badParams, rpcParamDouble]
      cases jsonObjectObjectGetEx params (ascii "zoom_factor") <;>
        simp [Setter.accepts]
  | homeLocation =>
      rw [values_homeLocation]
      simp only [Setter.method, Method.badParams, rpcParamDouble]
      cases jsonObjectObjectGetEx params (ascii "lat") <;>
        cases jsonObjectObjectGetEx params (ascii "lon") <;>
        simp [Setter.accepts]
      all_goals norm_num
  | cameraMode | obstacleAvoidance =>
      rw [values_single rfl]
      simp only [Setter.method, Method.badParams, decide_eq_false_iff_not]
      unfold rpcParamInt
      cases jsonObjectObjectGetEx params (ascii "mode") <;>
        simp [Setter.accepts]

/-! ## Guarded requests -/

/-- The setter that a drone call belongs to. -/
def DroneCall.setter : DroneCall → Option Setter
  | .setRthAltitude _ => some .rthAltitude
  | .setCameraZoom _ => some .cameraZoom
  | .setHomeLocation _ => some .homeLocation
  | .setCameraMode _ => some .cameraMode
  | .setObstacleAvoidance _ => some .obstacleAvoidance
  | _ => none

/-- Members that are there belong to an object. -/
theorem jsonObjectIsObject_of_values
    {s : Setter} {params : Json} {vs : List Json}
    (h : s.values params = some vs) :
    jsonObjectIsObject params = true := by
  cases params with
  | obj members =>
      rfl
  | _ =>
      cases s <;> simp [Setter.values, Setter.keys, jsonObjectObjectGetEx] at h

/-- Only the method of a setter calls its drone function. -/
theorem method_of_setter
    {c : DroneCall} {s : Setter}
    (hc : c.setter = some s) :
    c.method = s.method := by
  cases c <;> cases hc <;> rfl

/-- A setter whose parameters pass the check goes on to its drone function. -/
theorem plan_invokes_of_not_badParams
    {P : Platform} {params : Json} (s : Setter)
    (h : s.method.badParams P params = false) :
    ∃ c failure, s.method.plan P params = commandPlan c failure ∧
      c.setter = some s := by
  cases s with
  | cameraMode | obstacleAvoidance =>
      simp only [Setter.method, Method.badParams, decide_eq_false_iff_not] at h
      simp only [Setter.method, Method.plan, h, if_false]
      exact ⟨_, _, rfl, rfl⟩
  | _ =>
      simp only [Setter.method, Method.badParams] at h
      simp only [Setter.method, Method.plan, h, Bool.false_eq_true, if_false]
      exact ⟨_, _, rfl, rfl⟩

section Guarded

variable {σ : Type} (E : Env σ) (peer : SockaddrIn)

/-- A drone setter is called only with numbers for all required members, and a
setter request without them is answered by an error and by nothing else. -/
def SettersGuarded (line : Bytes) (req : RpcRequest) (w : World σ) : Prop :=
  (∀ c err s, .call c err ∈ newEvents E peer line w → c.setter = some s →
    s.HasNumbers req.params) ∧
  (∀ s : Setter, req.method = ascii s.method.name → ¬ s.HasNumbers req.params →
    ∃ buf len, newEvents E peer line w = [.send peer buf len] ∧
      ErrorReply req.id buf)

/-- The check lets parameters through that are numbers, or that slip through. -/
theorem hasNumbers_or_slipsThrough
    {P : Platform} {s : Setter} {params : Json}
    (h : s.method.badParams P params = false) :
    s.HasNumbers params ∨ s.SlipsThrough P params := by
  obtain ⟨vs, hvs, hok⟩ := (badParams_eq_false_iff P s params).mp h
  by_cases hnum : ∀ v ∈ vs, v.isNumber = true
  · left
    exact ⟨jsonObjectIsObject_of_values hvs, vs, hvs, hnum⟩
  · right
    push Not at hnum
    obtain ⟨v, hv, hv'⟩ := hnum
    exact ⟨vs, hvs, ⟨v, hv, by simpa using hv'⟩, hok⟩

/-- What slips through passes the check and lacks a number. -/
theorem badParams_of_slipsThrough
    {P : Platform} {s : Setter} {params : Json}
    (h : s.SlipsThrough P params) :
    s.method.badParams P params = false ∧ ¬ s.HasNumbers params := by
  obtain ⟨vs, hvs, ⟨v, hv, hnum⟩, hok⟩ := h
  refine ⟨(badParams_eq_false_iff P s params).mpr ⟨vs, hvs, hok⟩, ?_⟩
  rintro ⟨_, vs', hvs', hall⟩
  rw [hvs] at hvs'
  cases hvs'
  rw [hall v hv] at hnum
  cases hnum

/-- The calls and the reply of a setter request. -/
theorem newEvents_of_setter
    {line : Bytes} {req : RpcRequest} {s : Setter}
    (hreq : rpcParse E.platform line = some req)
    (hm : req.method = ascii s.method.name)
    (w : World σ) :
    newEvents E peer line w =
      (s.method.plan E.platform req.params).calls E w ++
        [sendEvent peer ((s.method.plan E.platform req.params).reply E req.id w)] := by
  rw [newEvents_of_some E peer hreq w, plan_of_name hm]

/-- A setter is called only for its own method, and only behind its check. -/
theorem passes_of_setter_called
    {line : Bytes} {req : RpcRequest}
    (hreq : rpcParse E.platform line = some req)
    {w : World σ} {c : DroneCall} {err : DroneError} {s : Setter}
    (hcall : .call c err ∈ newEvents E peer line w)
    (hc : c.setter = some s) :
    req.method = ascii s.method.name ∧
      s.method.badParams E.platform req.params = false := by
  rcases handleRpc_calls E peer line w with
    ⟨_, hnone⟩ | ⟨req', c', failure, body, hreq', hm, hplan, _, hcalls⟩
  · exact absurd hcall (hnone c err)
  · obtain rfl : req = req' := Option.some.inj (hreq.symm.trans hreq')
    obtain ⟨rfl, _⟩ := (hcalls c err).mp hcall
    rw [method_of_setter hc] at hm hplan
    refine ⟨hm, ?_⟩
    by_contra hbad
    obtain ⟨msg, hmsg⟩ := plan_refuses_of_badParams (by simpa using hbad)
    rw [hmsg] at hplan
    cases hplan

/-- **When the setters are guarded.**  Exactly unless the request names a setter,
has all its required members, and the values that these are converted to pass
the range check although not all of them are numbers. -/
theorem settersGuarded_iff
    {line : Bytes} {req : RpcRequest}
    (hreq : rpcParse E.platform line = some req)
    (w : World σ) :
    SettersGuarded E peer line req w ↔
      ∀ s : Setter, req.method = ascii s.method.name →
        ¬ s.SlipsThrough E.platform req.params := by
  constructor
  · rintro ⟨_, hrefused⟩ s hm hslip
    obtain ⟨hgood, hnum⟩ := badParams_of_slipsThrough hslip
    obtain ⟨c, failure, hplan, _⟩ := plan_invokes_of_not_badParams s hgood
    obtain ⟨buf, len, hev, _⟩ := hrefused s hm hnum
    rw [newEvents_of_setter E peer hreq hm w, hplan] at hev
    simp [commandPlan, Plan.calls] at hev
  · intro hslip
    constructor
    · intro c err s hcall hc
      obtain ⟨hm, hgood⟩ := passes_of_setter_called E peer hreq hcall hc
      rcases hasNumbers_or_slipsThrough hgood with h | h
      · exact h
      · exact absurd h (hslip s hm)
    · intro s hm hnum
      have hbad : s.method.badParams E.platform req.params = true := by
        by_contra hgood
        rcases hasNumbers_or_slipsThrough (by simpa using hgood) with h | h
        · exact hnum h
        · exact hslip s hm h
      obtain ⟨msg, hmsg⟩ := plan_refuses_of_badParams hbad
      rw [newEvents_of_setter E peer hreq hm w, hmsg]
      exact ⟨_, _, rfl, errorReply_take req.id _⟩

end Guarded

/-- A request for the return altitude without any parameter is refused. -/
theorem settersGuarded_missing_altitude :
    ∃ req, rpcParse gnuPlatform (requestLine 1 .setRthAltitude []) = some req ∧
      SettersGuarded stubEnv localPeer (requestLine 1 .setRthAltitude []) req
        stubWorld := by
  have hreq := rpcParse_requestLine (i := 1) (by decide) .setRthAltitude
    (List.forall_mem_nil Member.Ok) (by simp) (by simp)
  refine ⟨_, hreq, (settersGuarded_iff stubEnv localPeer hreq stubWorld).mpr ?_⟩
  rintro s - ⟨vs, hvs, -⟩
  cases s <;> simp [Setter.values, Setter.keys, jsonObjectObjectGetEx] at hvs

/-- A home location of two nulls. -/
def nullHome : List Member :=
  [{ key := ascii "lat", text := ascii "null", val := .null },
    { key := ascii "lon", text := ascii "null", val := .null }]

/-- The home location is moved to the equator by a request with two nulls. -/
theorem setHomeLocation_of_nulls :
    ∃ req, rpcParse gnuPlatform (requestLine 1 .setHomeLocation nullHome) = some req ∧
      ¬ Setter.homeLocation.HasNumbers req.params ∧
      Event.call (.setHomeLocation { lat := .fin 0, lon := .fin 0, altM := .fin 0 })
          .ok ∈
        newEvents stubEnv localPeer (requestLine 1 .setHomeLocation nullHome)
          stubWorld ∧
      ¬ SettersGuarded stubEnv localPeer (requestLine 1 .setHomeLocation nullHome)
        req stubWorld := by
  have hok : ∀ m ∈ nullHome, m.Ok := by
    have hlat : Plain (ascii "lat") := by decide
    have hlon : Plain (ascii "lon") := by decide
    intro m hm
    simp only [nullHome, List.mem_cons, List.not_mem_nil, or_false] at hm
    rcases hm with rfl | rfl
    · exact ⟨hlat, reads_null⟩
    · exact ⟨hlon, reads_null⟩
  have hstored : ∀ m ∈ nullHome, m.val.Storable := by
    intro m hm
    simp only [nullHome, List.mem_cons, List.not_mem_nil, or_false] at hm
    rcases hm with rfl | rfl <;> rfl
  have hreq := rpcParse_requestLine (i := 1) (by decide) .setHomeLocation hok hstored
    (by decide)
  have hcall : Event.call
      (.setHomeLocation { lat := .fin 0, lon := .fin 0, altM := .fin 0 }) .ok ∈
        newEvents stubEnv localPeer (requestLine 1 .setHomeLocation nullHome)
          stubWorld := by
    rw [newEvents_of_setter (s := .homeLocation) stubEnv localPeer hreq rfl]
    simp only [Setter.method, Method.plan]
    decide +kernel
  have hnum : ¬ Setter.homeLocation.HasNumbers
      (.obj (nullHome.map (fun m => (m.key, m.val)))) := by
    rintro ⟨_, vs, hvs, hall⟩
    rw [values_homeLocation] at hvs
    simp [nullHome, jsonObjectObjectGetEx, ascii] at hvs
    subst hvs
    simp [Json.isNumber] at hall
  refine ⟨_, hreq, hnum, hcall, ?_⟩
  rintro ⟨hcalls, _⟩
  exact hnum (hcalls _ _ .homeLocation hcall rfl)

end PsdkBridge
