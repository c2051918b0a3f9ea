import PsdkBridge.Replies

/-!
# Which numbers the range checks let through

Three setters check the range of their numbers before they call the drone
control layer.  The checks are written as rejections, and every ordered
comparison with NaN is false; two of the numbers are narrowed to `float` before
they are checked, which makes an infinity of a large number.

`callsInRange_iff` says exactly which requests reach the drone control layer
with a number outside the range.
-/

namespace PsdkBridge

/-- The numbers of the call are finite and in their range. -/
def DroneCall.InRange : DroneCall → Prop
  | .setHomeLocation loc => loc.lat.Between (-90) 90 ∧ loc.lon.Between (-180) 180
  | .setCameraZoom zoomFactor => zoomFactor.AtLeast 1
  | .setRthAltitude altM => altM.AtLeast 0
  | _ => True

/-- The parameters of the method contain a number that is not in its range, but
that no comparison rejects. -/
def Method.SlipsUnordered (P : Platform) (params : Json) : Method → Prop
  | .setHomeLocation =>
      let lat := rpcParamDouble P params (ascii "lat") (.fin 999)
      let lon := rpcParamDouble P params (ascii "lon") (.fin 999)
      (lat = .nan ∧ (lon = .nan ∨ lon.Between (-180) 180)) ∨
        (lon = .nan ∧ lat.Between (-90) 90)
  | .setCameraZoom =>
      let zoom := binary32.convert
        (rpcParamDouble P params (ascii "zoom_factor") (.fin (-1)))
      zoom = .nan ∨ zoom = .inf false
  | .setRthAltitude =>
      let altM := binary32.convert
        (rpcParamDouble P params (ascii "altitude_m") (.fin (-1)))
      altM = .nan ∨ altM = .inf false
  | _ => False

/-! ## Plans -/

/-- The plan calls nothing out of range. -/
def Plan.InRange : Plan → Prop
  | .invoke c _ _ => c.InRange
  | _ => True

theorem nan_not_between
    (lo hi : ℚ) :
    ¬ FNum.nan.Between lo hi := by
  rintro ⟨q, hq, _⟩
  cases hq

theorem not_atLeast_of_unordered
    {lo : ℚ} {x : FNum}
    (h : x = .nan ∨ x = .inf false) :
    ¬ x.AtLeast lo := by
  rintro ⟨q, rfl, _⟩
  simp at h

/-- A lower bound that is checked by a rejection. -/
theorem inRange_lowerBound_iff
    {lo : ℚ} {x : FNum} {msg failure : String} {c : DroneCall}
    (hc : c.InRange ↔ x.AtLeast lo) :
    (if x.lt (.fin lo) then .refuse msg else commandPlan c failure : Plan).InRange ↔
      ¬ (x = .nan ∨ x = .inf false) := by
  by_cases hlt : x.lt (.fin lo) = true
  · simp only [hlt, if_true, Plan.InRange, true_iff]
    intro hun
    have hfalse := (FNum.lt_eq_false_iff lo x).mpr (hun.imp_right Or.inl)
    rw [hlt] at hfalse
    cases hfalse
  · have hfalse : x.lt (.fin lo) = false := by simpa using hlt
    simp only [hfalse, Bool.false_eq_true, if_false, commandPlan, Plan.InRange, hc]
    constructor
    · intro hleast hun
      exact not_atLeast_of_unordered hun hleast
    · intro hun
      rcases (FNum.lt_eq_false_iff lo x).mp hfalse with hnan | hinf | hleast
      · exact absurd (Or.inl hnan) hun
      · exact absurd (Or.inr hinf) hun
      · exact hleast

/-- The check of a home location. -/
theorem inRange_homeLocation_iff
    (P : Platform) (params : Json) :
    (Method.setHomeLocation.plan P params).InRange ↔
      ¬ Method.setHomeLocation.SlipsUnordered P params := by
  simp only [Method.plan, Method.SlipsUnordered]
  generalize rpcParamDouble P params (ascii "lat") (.fin 999) = lat
  generalize rpcParamDouble P params (ascii "lon") (.fin 999) = lon
  have hlat := FNum.gt_or_lt_eq_false_iff (-90) 90 lat
  have hlon := FNum.gt_or_lt_eq_false_iff (-180) 180 lon
  split_ifs with h
  · simp only [Plan.InRange, true_iff]
    -- a number that slips passes all four comparisons
    intro hslips
    have hpass : (lat = .nan ∨ lat.Between (-90) 90) ∧
        (lon = .nan ∨ lon.Between (-180) 180) := by
      rcases hslips with ⟨hnan, hother⟩ | ⟨hnan, hother⟩
      · exact ⟨Or.inl hnan, hother⟩
      · exact ⟨Or.inr hother, Or.inl hnan⟩
    obtain ⟨hgt, hlt⟩ := hlat.mpr hpass.1
    obtain ⟨hgt', hlt'⟩ := hlon.mpr hpass.2
    simp [hgt, hlt, hgt', hlt'] at h
  · simp only [Bool.or_eq_true, not_or, Bool.not_eq_true] at h
    have hlat' := hlat.mp ⟨h.1.1.1, h.1.1.2⟩
    have hlon' := hlon.mp ⟨h.1.2, h.2⟩
    simp only [Plan.InRange, commandPlan, DroneCall.InRange]
    constructor
    · rintro ⟨hlatIn, hlonIn⟩ (⟨rfl, _⟩ | ⟨rfl, _⟩)
      · exact nan_not_between _ _ hlatIn
      · exact nan_not_between _ _ hlonIn
    · intro hslips
      rcases hlat' with hnan | hlatIn
      · exact absurd (Or.inl ⟨hnan, hlon'⟩) hslips
      · rcases hlon' with hnan | hlonIn
        · exact absurd (Or.inr ⟨hnan, hlatIn⟩) hslips
        · exact ⟨hlatIn, hlonIn⟩

/-- The plan of a method calls nothing out of range exactly unless its
parameters slip through. -/
theorem plan_inRange_iff
    (P : Platform) (params : Json) (k : Method) :
    (k.plan P params).InRange ↔ ¬ k.SlipsUnordered P params := by
  cases k with
  | setHomeLocation =>
      exact inRange_homeLocation_iff P params
  | setCameraZoom =>
      exact inRange_lowerBound_iff Iff.rfl
  | setRthAltitude =>
      exact inRange_lowerBound_iff Iff.rfl
  | uploadKmz =>
      simp only [Method.SlipsUnordered, not_false_eq_true, iff_true]
      rcases uploadPlan_cases P params with ⟨_, _, h⟩ | ⟨_, _, _, _, _, h⟩
      · rw [h]
        trivial
      · rw [h]
        trivial
  | setCameraMode | setObstacleAvoidance =>
      simp only [Method.plan, Method.SlipsUnordered, not_false_eq_true, iff_true]
      split_ifs <;> trivial
  | _ =>
      exact iff_of_true trivial (fun h => h)

/-! ## Requests -/

section Requests

variable {σ : Type} (E : Env σ) (peer : SockaddrIn)

/-- Every drone call that a line leads to has its numbers in range. -/
def CallsInRange (line : Bytes) (w : World σ) : Prop :=
  ∀ c err, .call c err ∈ newEvents E peer line w → c.InRange

/-- The calls of a request are those of its plan. -/
theorem callsInRange_of_request
    {line : Bytes} {req : RpcRequest}
    (hreq : rpcParse E.platform line = some req)
    (w : World σ) :
    CallsInRange E peer line w ↔ (req.plan E.platform).InRange := by
  unfold CallsInRange
  rw [newEvents_of_some E peer hreq w]
  cases req.plan E.platform with
  | ping | refuse =>
      simp [Plan.calls, Plan.InRange, sendEvent]
  | invoke c failure body =>
      simp [Plan.calls, Plan.InRange, sendEvent]

/-- **Which numbers reach the drone control layer.**  All of them are finite and
in range, exactly unless a coordinate is NaN and the other one is NaN or in
range, or a zoom factor or an altitude is NaN or becomes the positive infinity
as a `float`. -/
theorem callsInRange_iff
    (line : Bytes) (w : World σ) :
    CallsInRange E peer line w ↔
      ∀ req, rpcParse E.platform line = some req → ∀ k : Method,
        req.method = ascii k.name → ¬ k.SlipsUnordered E.platform req.params := by
  cases hreq : rpcParse E.platform line with
  | none =>
      simp [CallsInRange, newEvents_of_none E peer hreq w]
  | some req =>
      rw [callsInRange_of_request E peer hreq w]
      simp only [Option.some.injEq, forall_eq']
      unfold RpcRequest.plan
      cases hk : Method.ofText req.method with
      | none =>
          refine iff_of_true trivial (fun k hm => ?_)
          exact absurd hm (Method.ofText_eq_none.mp hk k)
      | some k =>
          have hm := Method.ofText_eq_some.mp hk
          simp only [plan_inRange_iff]
          constructor
          · intro hslip k' hm'
            have hk' := Method.ofText_eq_some.mpr hm'
            rw [hk] at hk'
            cases hk'
            exact hslip
          · intro h
            exact h k hm

end Requests

/-! ## A request with a special value -/

/-- The platform with the special values of `strtod`. -/
def specialPlatform : Platform :=
  { gnuPlatform with
    strtod := fun s =>
      if s = ascii "nan" then some .nan
      else if s = ascii "inf" then some (.inf false)
      else gnuPlatform.strtod s }

/-- The two platforms parse alike. -/
theorem rpcParse_specialPlatform
    (line : Bytes) :
    rpcParse specialPlatform line = rpcParse gnuPlatform line := by
  have hint : jsonObjectGetInt specialPlatform = jsonObjectGetInt gnuPlatform := by
    funext v
    cases v <;> rfl
  have hstring : jsonObjectGetString specialPlatform = jsonObjectGetString gnuPlatform := by
    funext v
    cases v <;> rfl
  have htokener : specialPlatform.tokenerParseEx = gnuPlatform.tokenerParseEx := rfl
  have hnull : specialPlatform.nullText = gnuPlatform.nullText := rfl
  simp only [rpcParse, hint, hstring, htokener, hnull]

/-- The stub build on that platform. -/
def specialEnv : Env Stub.StubState :=
  { stubEnv with platform := specialPlatform }

/-- A home location of two strings. -/
def nanHome : List Member :=
  [{ key := ascii "lat", text := ascii "\"nan\"", val := .str (ascii "nan") },
    { key := ascii "lon", text := ascii "\"nan\"", val := .str (ascii "nan") }]

/-- The home location is moved to NaN. -/
theorem setHomeLocation_of_nan :
    Event.call (.setHomeLocation { lat := .nan, lon := .nan, altM := .fin 0 }) .ok ∈
        newEvents specialEnv localPeer (requestLine 1 .setHomeLocation nanHome) stubWorld ∧
      ¬ CallsInRange specialEnv localPeer (requestLine 1 .setHomeLocation nanHome)
        stubWorld := by
  have hok : ∀ m ∈ nanHome, m.Ok := by
    have hkeys : Plain (ascii "lat") ∧ Plain (ascii "lon") := by decide
    have hnan : Plain (ascii "nan") := by decide
    intro m hm
    simp only [nanHome, List.mem_cons, List.not_mem_nil, or_false] at hm
    rcases hm with rfl | rfl
    · exact ⟨hkeys.1, reads_str hnan⟩
    · exact ⟨hkeys.2, reads_str hnan⟩
  have hstored : ∀ m ∈ nanHome, m.val.Storable := by
    intro m hm
    simp only [nanHome, List.mem_cons, List.not_mem_nil, or_false] at hm
    rcases hm with rfl | rfl <;> rfl
  have hreq := (rpcParse_specialPlatform _).trans
    (rpcParse_requestLine (i := 1) (by decide) .setHomeLocation hok hstored (by decide))
  have hcall : Event.call (.setHomeLocation { lat := .nan, lon := .nan, altM := .fin 0 })
      .ok ∈ newEvents specialEnv localPeer (requestLine 1 .setHomeLocation nanHome)
        stubWorld := by
    rw [newEvents_of_some specialEnv localPeer hreq]
    decide +kernel
  refine ⟨hcall, fun h => ?_⟩
  obtain ⟨q, hq, _⟩ := (h _ _ hcall).1
  cases hq

end PsdkBridge
