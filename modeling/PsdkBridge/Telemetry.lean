import Mathlib.Analysis.Real.Pi.Bounds
import PsdkBridge.FloatReplies
import PsdkBridge.Polls
import PsdkBridge.RealCalls

/-!
# The telemetry, from the samples to the client

The flight controller delivers angles in radians and a quaternion; a client reads degrees
and a heading with a few decimals.  In between, the callbacks store the samples, the
handlers convert and print them, and any number of other requests is answered.

* `quatToHeading_range`: the heading lies between 0 and 360 degrees.
* `cache_polls`: requests do not disturb the cache; behind any run of polls it is what the
  callbacks alone would have made of it.
* `telemetry_read`: what a client reads, compared with the latest accepted samples.
-/

namespace PsdkBridge
namespace Real

/-! ## The heading -/

/-- The value of type `float` that is closest to `π`. -/
def floatPi : ℚ := 13176795 / 4194304

/-- The arc tangent of two finite numbers is an angle. -/
def Libm.AnglesInRange (L : Libm) : Prop :=
  ∀ y x : ℚ, (L.atan2f (.fin y) (.fin x)).Within floatPi

theorem round_pi :
    binary32.round (314159265 / 100000000) = .fin floatPi := by
  decide +kernel

/-- The components of the quaternion are finite and small, as those of a rotation are. -/
structure Quaternion.Small (q : Quaternion) : Prop where
  q0 : q.q0.Within 2
  q1 : q.q1.Within 2
  q2 : q.q2.Within 2
  q3 : q.q3.Within 2

theorem within_product
    {x y : FNum}
    (hx : x.Within 2)
    (hy : y.Within 2) :
    (binary32.mul x y).Within 4 :=
  BinFormat.within_mul (by decide) hx hy (by decide +kernel) (by decide +kernel)

theorem within_sum
    {x y : FNum}
    (hx : x.Within 4)
    (hy : y.Within 4) :
    (binary32.mul (.fin 2) (binary32.add x y)).Within 16 := by
  have hadd : (binary32.add x y).Within 8 :=
    BinFormat.within_add (by decide) hx hy (by decide +kernel) (by decide +kernel)
  exact BinFormat.within_mul (by decide) (FNum.within_self zero_le_two) hadd (by decide +kernel)
    (by decide +kernel)

/-- An angle in degrees. -/
theorem within_degrees
    {yaw : FNum}
    (h : yaw.Within floatPi) :
    (binary32.div (binary32.mul yaw (.fin 180)) (.fin floatPi)).Within 180 := by
  have hmul : (binary32.mul yaw (.fin 180)).Within (binary32.roundVal (floatPi * 180)) :=
    BinFormat.within_mul (by decide) h (FNum.within_self (by norm_num)) le_rfl (by decide +kernel)
  exact BinFormat.within_div (by decide) hmul (by norm_num [floatPi]) (by decide +kernel)
    (by decide +kernel)

/-- **The heading is one.**  Whatever small quaternion is stored: the heading is a number
between 0 and 360 degrees. -/
theorem quatToHeading_range
    {L : Libm}
    (hL : L.AnglesInRange)
    {q : Quaternion}
    (hq : q.Small) :
    ∃ h, quatToHeading L q = .fin h ∧ 0 ≤ h ∧ h ≤ 360 := by
  have hsin := within_sum (within_product hq.q0 hq.q3) (within_product hq.q1 hq.q2)
  have hcos := BinFormat.within_sub (f := binary32) (c := 17) (by decide)
    (FNum.within_self zero_le_one)
    (within_sum (within_product hq.q2 hq.q2) (within_product hq.q3 hq.q3))
    (by decide +kernel) (by decide +kernel)
  obtain ⟨y, hy, _⟩ := hsin
  obtain ⟨x, hx, _⟩ := hcos
  obtain ⟨d, hd, hle⟩ := within_degrees (hL y x)
  obtain ⟨hlo, hhi⟩ := abs_le.mp hle
  have hheading : quatToHeading L q =
      if FNum.lt (.fin d) (.fin 0) then binary32.add (.fin d) (.fin 360) else .fin d := by
    simp only [quatToHeading, hx, hy, round_pi, hd]
  rw [hheading]
  by_cases hneg : d < 0
  · -- a negative angle is counted from the other side
    have hlow : binary32.roundVal 180 ≤ binary32.roundVal (d + 360) :=
      BinFormat.roundVal_mono (by decide) (by linarith)
    have hhigh : binary32.roundVal (d + 360) ≤ binary32.roundVal 360 :=
      BinFormat.roundVal_mono (by decide) (by linarith)
    have h180 : binary32.roundVal 180 = 180 := by decide +kernel
    have h360 : binary32.roundVal 360 = 360 := by decide +kernel
    rw [h180] at hlow
    rw [h360] at hhigh
    have habs : |d + 360| ≤ 360 := abs_le.mpr ⟨by linarith, by linarith⟩
    obtain ⟨hround, _⟩ := BinFormat.round_eq_fin (f := binary32) (by decide) habs
      (by rw [h360]; decide +kernel)
    refine ⟨_, ?_, by linarith, hhigh⟩
    rw [if_pos (by simpa [FNum.lt] using hneg), BinFormat.add, hround]
  · refine ⟨d, ?_, not_lt.mp hneg, by linarith⟩
    rw [if_neg (by simpa [FNum.lt] using hneg)]

/-! ## Radians and degrees -/

/-- The value of type `double` that the position is divided by. -/
def doublePi : ℚ := 7074237752028433 / 2251799813685248

theorem round_doublePi :
    binary64.round (314159265358979 / 100000000000000) = .fin doublePi := by
  decide +kernel

theorem doublePi_near :
    |(doublePi : ℝ) - Real.pi| ≤ 1 / 10 ^ 14 ∧ (3 : ℝ) ≤ doublePi := by
  have hlo := Real.pi_gt_d20
  have hhi := Real.pi_lt_d20
  rw [abs_le]
  simp only [doublePi]
  push_cast
  refine ⟨⟨?_, ?_⟩, ?_⟩ <;> norm_num at hlo hhi ⊢ <;> linarith

/-- The two roundings of the conversion. -/
theorem radToDeg_eq
    {x : ℚ}
    (hx : |x| ≤ 4) :
    ∃ d, radToDeg (.fin x) = .fin d ∧ |d| ≤ 230 ∧
      |d - x * 180 / doublePi| ≤ 1 / 10 ^ 13 := by
  have hpi : (3 : ℚ) < doublePi := by norm_num [doublePi]
  have h720 : binary64.roundVal 720 = 720 := by decide +kernel
  have h230 : binary64.roundVal 230 = 230 := by decide +kernel
  have hrange : (720 : ℚ) < 2 ^ (binary64.emax + 1) := by decide +kernel
  -- the product
  have hmul : |x * 180| ≤ 720 := by
    rw [abs_mul, abs_of_pos (by norm_num : (0 : ℚ) < 180)]
    linarith
  obtain ⟨hround₁, hle₁⟩ := BinFormat.round_eq_fin (f := binary64) (by decide) hmul
    (by rw [h720]; exact hrange)
  have herr₁ := BinFormat.abs_roundVal_sub_le_of_lt (f := binary64) (q := x * 180) (e := 9)
    (by decide) (by norm_num) (hmul.trans_lt (by norm_num))
  rw [h720] at hle₁
  -- the quotient
  generalize hr₁ : binary64.roundVal (x * 180) = r₁ at hround₁ hle₁ herr₁
  have hdiv : |r₁ / doublePi| ≤ 230 := by
    rw [abs_div, abs_of_pos (by linarith : (0 : ℚ) < doublePi), div_le_iff₀ (by linarith)]
    norm_num [doublePi]
    linarith
  obtain ⟨hround₂, hle₂⟩ := BinFormat.round_eq_fin (f := binary64) (by decide) hdiv
    (by rw [h230]; linarith)
  have herr₂ := BinFormat.abs_roundVal_sub_le_of_lt (f := binary64) (q := r₁ / doublePi)
    (e := 7) (by decide) (by norm_num) (hdiv.trans_lt (by norm_num))
  rw [h230] at hle₂
  refine ⟨binary64.roundVal (r₁ / doublePi), ?_, hle₂, ?_⟩
  · simp only [radToDeg, round_doublePi, BinFormat.mul, hround₁, BinFormat.div,
      if_neg (by linarith : doublePi ≠ 0), hround₂]
  · have hquot : |r₁ / doublePi - x * 180 / doublePi| ≤ 1 / 10 ^ 13 / 2 := by
      rw [← sub_div, abs_div, abs_of_pos (by linarith : (0 : ℚ) < doublePi),
        div_le_iff₀ (by linarith)]
      norm_num [binary64] at herr₁ ⊢
      linarith
    have htriangle := abs_sub_le (binary64.roundVal (r₁ / doublePi)) (r₁ / doublePi)
      (x * 180 / doublePi)
    norm_num [binary64] at herr₂ hquot htriangle ⊢
    linarith

/-- **Degrees.**  The conversion of an angle of at most four radians is exact up to
`10⁻¹¹` degrees. -/
theorem radToDeg_near
    {x : ℚ}
    (hx : |x| ≤ 4) :
    ∃ d, radToDeg (.fin x) = .fin d ∧ |d| ≤ 230 ∧
      |(d : ℝ) - x * 180 / Real.pi| ≤ 1 / 10 ^ 11 := by
  obtain ⟨d, hd, hle, herr⟩ := radToDeg_eq hx
  refine ⟨d, hd, hle, ?_⟩
  have herr' : |(d : ℝ) - x * 180 / doublePi| ≤ 1 / 10 ^ 13 := by
    have hcast := (Rat.cast_le (K := ℝ)).mpr herr
    push_cast at hcast
    exact hcast
  obtain ⟨hnear, hthree⟩ := doublePi_near
  have hpi := Real.pi_gt_three
  have hx' : |(x : ℝ) * 180| ≤ 720 := by
    have hcast : |(x : ℝ)| ≤ 4 := by exact_mod_cast hx
    rw [abs_mul, abs_of_pos (by norm_num : (0 : ℝ) < 180)]
    linarith
  have hpis : |(x : ℝ) * 180 / doublePi - x * 180 / Real.pi| ≤ 1 / 10 ^ 12 := by
    have hsub : (x : ℝ) * 180 / doublePi - x * 180 / Real.pi =
        x * 180 * (Real.pi - doublePi) / (doublePi * Real.pi) := by
      have h₁ : (doublePi : ℝ) ≠ 0 := by linarith
      have h₂ : Real.pi ≠ 0 := by linarith
      field_simp
    have hden : (9 : ℝ) ≤ doublePi * Real.pi := by nlinarith
    rw [hsub, abs_div, abs_of_pos (by linarith : (0 : ℝ) < doublePi * Real.pi),
      div_le_iff₀ (by linarith), abs_mul, abs_sub_comm Real.pi]
    have hprod := mul_le_mul hx' hnear (abs_nonneg _) (by norm_num)
    linarith
  have htriangle := abs_sub_le (d : ℝ) (x * 180 / doublePi) (x * 180 / Real.pi)
  norm_num at herr' hpis ⊢
  linarith

/-! ## The cache over a run -/

section Cache

variable {τ : Type} (L : Libm) (S : Outside SysCall.Out τ)

theorem leaves_ensureWaypointV3Ready :
    Leaves RealVars.cache (ensureWaypointV3Ready S) := by
  unfold ensureWaypointV3Ready
  refine leaves_bind (fun _ => rfl) (fun _ => leaves_ite (leaves_pure _) ?_)
  refine leaves_call S (fun _ => leaves_ite (leaves_pure _) ?_)
  refine leaves_call S (fun _ => leaves_ite (leaves_pure _) ?_)
  refine leaves_call S (fun _ => leaves_ite (leaves_pure _) ?_)
  exact leaves_bind (leaves_modifyVars (fun _ => rfl)) (fun _ => leaves_pure _)

/-- A call that ends the upload. -/
theorem leaves_last
    (c : SysCall) (err : DroneError) :
    Leaves RealVars.cache (callOut S c >>= fun _ => (pure err : RealM τ DroneError)) :=
  leaves_call S (fun _ => leaves_pure err)

theorem leaves_uploadFile
    (fileSize : Int) :
    Leaves RealVars.cache (uploadFile S fileSize) := by
  unfold uploadFile
  refine leaves_call S (fun _ => leaves_ite (leaves_last S .fclose _) ?_)
  refine leaves_call S (fun _ => leaves_ite (leaves_last S .fclose _) ?_)
  refine leaves_call S (fun _ => leaves_call S (fun _ => ?_))
  refine leaves_ite (leaves_last S .osalFree _) ?_
  exact leaves_call S (fun _ => leaves_last S .osalFree _)

theorem leaves_openAndUpload
    (path : Bytes) :
    Leaves RealVars.cache (openAndUpload S path) := by
  unfold openAndUpload
  refine leaves_call S (fun _ => leaves_ite (leaves_pure _) ?_)
  refine leaves_call S (fun _ => leaves_ite (leaves_last S .fclose _) ?_)
  refine leaves_call S (fun _ => leaves_ite (leaves_last S .fclose _) ?_)
  refine leaves_call S (fun _ => leaves_ite (leaves_last S .fclose _) ?_)
  exact leaves_uploadFile S _

/-- Only the callbacks write the cache. -/
theorem cache_realCtrl
    (c : DroneCall) :
    Leaves RealVars.cache (realCtrl L S c : RealM τ (DroneError × c.Out)) := by
  by_cases hc : ∀ path, c ≠ .uploadKmz path
  · exact leaves_realCtrl L S RealVars.cache hc
  · simp only [not_forall, not_not] at hc
    obtain ⟨path, rfl⟩ := hc
    refine leaves_bind (leaves_ite (leaves_pure _) ?_) (fun _ => leaves_pure _)
    refine leaves_bind (leaves_ensureWaypointV3Ready S) (fun _ => ?_)
    exact leaves_ite (leaves_pure _) (leaves_openAndUpload S _)

variable (P : Platform) (sizeof : Sizes)

/-- The samples of a run of rounds. -/
def samplesOf (rounds : List Round) : Deliveries :=
  rounds.flatMap Round.samples

/-- A poll leaves what the callbacks made of the cache. -/
theorem cache_serve
    (w : World (RealState τ)) (r : Round) :
    (serve P (realCtrl L S) w (pollOf sizeof r)).ctrl.vars.cache =
      r.samples.foldl (fun c d => callback sizeof d.1 d.2 c) w.ctrl.vars.cache := by
  rcases serve_ctrl (P := P) (D := realCtrl L S) (w := w) (p := pollOf sizeof r) with
    h | ⟨c, h⟩
  · rw [h]
    rfl
  · rw [h, cache_realCtrl L S c]
    rfl

/-- A run of requests, too. -/
theorem cache_serves
    (rounds : List Round) (w : World (RealState τ)) :
    ((rounds.map (pollOf sizeof)).foldl (serve P (realCtrl L S)) w).ctrl.vars.cache =
      (samplesOf rounds).foldl (fun c d => callback sizeof d.1 d.2 c) w.ctrl.vars.cache := by
  induction rounds generalizing w with
  | nil =>
      rfl
  | cons r rounds ih =>
      rw [List.map_cons, List.foldl_cons, ih, cache_serve]
      simp only [samplesOf, List.flatMap_cons, List.foldl_append]

/-- **Requests do not disturb the cache.**  Behind any run of rounds, whatever is
requested in them, the cache holds the latest accepted sample of each topic and the time
of its arrival. -/
theorem cache_polls
    {s : UdpServer × World (RealState τ)}
    (h : s.2.ctrl.vars.cache = emptyCache)
    (rounds : List Round) (t : Topic) :
    let after := (rounds.map (pollOf sizeof)).foldl (pollStep P (realCtrl L S)) s
    let cache := after.2.ctrl.vars.cache
    (cache t).sample = latestSample sizeof t (samplesOf rounds) ∧
      (cache t).stats.lastUpdateMs = latestUpdate sizeof t (samplesOf rounds) := by
  intro after cache
  have hcache : cache = runCallbacks sizeof (samplesOf rounds) := by
    simp only [cache, after]
    rw [pollSteps_eq_serves, cache_serves, h]
    rfl
  rw [hcache]
  exact run_topic sizeof (samplesOf rounds) t

end Cache

/-! ## What a client reads -/

/-- The number that a member of an object holds. -/
def numberMember (v : Json) (key : String) : Option ℚ :=
  match jsonObjectObjectGetEx v (ascii key) with
  | some (.dbl (.fin q)) => some q
  | _ => none

/-- The member is a number close to the value. -/
def CloseMember (result : Json) (key : String) (x err : ℝ) : Prop :=
  ∃ v, numberMember result key = some v ∧ |(v : ℝ) - x| ≤ err

/-- The number is a finite value of the type `float`. -/
def FiniteFloat (x : FNum) : Prop :=
  ∃ q, x = .fin q ∧ |q| < 2 ^ 128

section Samples

variable (sizeof : Sizes) (ds : Deliveries)

/-- The latest position. -/
def latestPosition : PositionFused :=
  latestSample sizeof .positionFused ds

/-- The latest velocity. -/
def latestVelocity : Vector3f :=
  latestSample sizeof .velocity ds

/-- The latest samples are numbers: the position is given by angles, and the attitude by
the quaternion of a rotation. -/
structure Plausible : Prop where
  latitude : (latestPosition sizeof ds).latitude.Within 4
  longitude : (latestPosition sizeof ds).longitude.Within 4
  altitude : FiniteFloat (latestPosition sizeof ds).altitude
  velocity : ∀ x ∈ [(latestVelocity sizeof ds).x, (latestVelocity sizeof ds).y,
    (latestVelocity sizeof ds).z], FiniteFloat x
  attitude : Quaternion.Small (latestSample sizeof .quaternion ds)

/-- The result shows the latest samples: the position in degrees up to `10⁻⁸`, altitude
and velocity up to half a hundredth, and a heading between 0 and 360 degrees. -/
structure ShowsSamples (result : Json) : Prop where
  lat : ∀ x : ℚ, (latestPosition sizeof ds).latitude = .fin x →
    CloseMember result "lat" (x * 180 / Real.pi) (1 / 10 ^ 8)
  lon : ∀ x : ℚ, (latestPosition sizeof ds).longitude = .fin x →
    CloseMember result "lon" (x * 180 / Real.pi) (1 / 10 ^ 8)
  altMsl : ∀ x : ℚ, (latestPosition sizeof ds).altitude = .fin x →
    CloseMember result "alt_msl_m" x (5 / 1000)
  altRel : ∀ x : ℚ, (latestPosition sizeof ds).altitude = .fin x →
    CloseMember result "alt_rel_m" x (5 / 1000)
  vx : ∀ x : ℚ, (latestVelocity sizeof ds).x = .fin x → CloseMember result "vx_ms" x (5 / 1000)
  vy : ∀ x : ℚ, (latestVelocity sizeof ds).y = .fin x → CloseMember result "vy_ms" x (5 / 1000)
  vz : ∀ x : ℚ, (latestVelocity sizeof ds).z = .fin x → CloseMember result "vz_ms" x (5 / 1000)
  heading : ∃ v, numberMember result "heading_deg" = some v ∧ 0 ≤ v ∧ v ≤ 360
  flightStatus : intMember result (ascii "flight_status") =
    some ((latestSample sizeof .statusFlight ds : UInt8).toNat : Int)

end Samples

/-- The members of the telemetry that do not come from the batteries. -/
theorem droneGetTelemetry_fields
    (L : Libm) (c : Cache) (now : UInt64) :
    let t := droneGetTelemetry L c now
    let pos : PositionFused := (c .positionFused).sample
    let vel : Vector3f := (c .velocity).sample
    (t.lat = radToDeg pos.latitude ∧ t.lon = radToDeg pos.longitude) ∧
      (t.altMslM = pos.altitude ∧ t.altRelM = pos.altitude) ∧
      (t.vxMs = vel.x ∧ t.vyMs = vel.y ∧ t.vzMs = vel.z) ∧
      t.headingDeg = quatToHeading L (c .quaternion).sample ∧
      t.flightStatus = (c .statusFlight).sample := by
  unfold droneGetTelemetry
  split_ifs <;> exact ⟨⟨rfl, rfl⟩, ⟨rfl, rfl⟩, ⟨rfl, rfl, rfl⟩, rfl, rfl⟩

/-! ### From the members to the samples -/

section Members

variable {t : DroneTelemetry} {ms : List (Bytes × Json)}
  (hshows : List.Forall₂ Item.Shows (telemetryItems t) ms)
include hshows

theorem shown_of_telemetry
    {i : Item}
    (hi : i ∈ telemetryItems t) :
    ∃ v, jsonObjectObjectGetEx (.obj ms) i.key = some v ∧ i.Shows (i.key, v) := by
  have hkeys : ((telemetryItems t).map Item.key).Nodup := by
    have hnames : [ascii "lat", ascii "lon", ascii "alt_msl_m", ascii "alt_rel_m",
        ascii "vx_ms", ascii "vy_ms", ascii "vz_ms", ascii "heading_deg",
        ascii "battery_pct", ascii "battery_mv", ascii "gps_sats", ascii "gps_fix",
        ascii "flight_status", ascii "motors_on"].Nodup := by decide
    exact hnames
  exact shown_of_mem hshows hkeys hi

/-- A number with `n` decimals. -/
theorem numberMember_of_telemetry
    {key : String} {n : Nat} {q : ℚ}
    (hi : .fixed (ascii key) n (.fin q) ∈ telemetryItems t) :
    ∃ (v : ℚ) (k : ℤ), numberMember (.obj ms) key = some v ∧ v = k / 10 ^ n ∧
      |v - q| ≤ 1 / (2 * 10 ^ n) := by
  obtain ⟨w, hget, _, q', v, k, hq, hv, hk, herr⟩ := shown_of_telemetry hshows hi
  cases hq
  have hget : jsonObjectObjectGetEx (.obj ms) (ascii key) = some w := hget
  have hv : w = .dbl (.fin v) := hv
  exact ⟨v, k, by simp only [numberMember, hget, hv], hk, herr⟩

/-- A number that is itself close to a value. -/
theorem closeMember_of_telemetry
    {key : String} {n : Nat} {q : ℚ} {x err bound : ℝ}
    (hi : .fixed (ascii key) n (.fin q) ∈ telemetryItems t)
    (hx : |(q : ℝ) - x| ≤ err)
    (hbound : 1 / (2 * 10 ^ n) + err ≤ bound) :
    CloseMember (.obj ms) key x bound := by
  obtain ⟨v, _, hv, _, herr⟩ := numberMember_of_telemetry hshows hi
  refine ⟨v, hv, ?_⟩
  have hcast := (Rat.cast_le (K := ℝ)).mpr herr
  push_cast at hcast
  have htriangle := abs_sub_le (v : ℝ) q x
  linarith

/-- Two decimals of a value. -/
theorem closeMember_self
    {key : String} {q : ℚ}
    (hi : .fixed (ascii key) 2 (.fin q) ∈ telemetryItems t) :
    CloseMember (.obj ms) key q (5 / 1000) := by
  have hself : |(q : ℝ) - q| ≤ 0 := by simp
  exact closeMember_of_telemetry hshows hi hself (by norm_num)

/-- Rounding to one decimal does not leave the circle. -/
theorem heading_of_telemetry
    {h : ℚ}
    (hi : .fixed (ascii "heading_deg") 1 (.fin h) ∈ telemetryItems t)
    (hlo : 0 ≤ h)
    (hhi : h ≤ 360) :
    ∃ v, numberMember (.obj ms) "heading_deg" = some v ∧ 0 ≤ v ∧ v ≤ 360 := by
  obtain ⟨v, k, hv, hk, herr⟩ := numberMember_of_telemetry hshows hi
  obtain ⟨herrlo, herrhi⟩ := abs_le.mp herr
  have hscaled : v * 10 = k := by
    rw [hk]
    ring
  have hklo : (-1 : ℚ) < k := by linarith
  have hkhi : (k : ℚ) < 3601 := by linarith
  have hklo : (-1 : ℤ) < k := by exact_mod_cast hklo
  have hkhi : k < 3601 := by exact_mod_cast hkhi
  have hklo : (0 : ℚ) ≤ k := by exact_mod_cast (by omega : 0 ≤ k)
  have hkhi : (k : ℚ) ≤ 3600 := by exact_mod_cast (by omega : k ≤ 3600)
  exact ⟨v, hv, by linarith, by linarith⟩

end Members

/-- The telemetry is made of plausible samples. -/
structure Converted (sizeof : Sizes) (ds : Deliveries) (t : DroneTelemetry) : Prop where
  lat : ∃ x d : ℚ, (latestPosition sizeof ds).latitude = .fin x ∧ t.lat = .fin d ∧
    |d| ≤ 230 ∧ |(d : ℝ) - x * 180 / Real.pi| ≤ 1 / 10 ^ 11
  lon : ∃ x d : ℚ, (latestPosition sizeof ds).longitude = .fin x ∧ t.lon = .fin d ∧
    |d| ≤ 230 ∧ |(d : ℝ) - x * 180 / Real.pi| ≤ 1 / 10 ^ 11
  alt : ∃ x : ℚ, (latestPosition sizeof ds).altitude = .fin x ∧ |x| < 2 ^ 128 ∧
    t.altMslM = .fin x ∧ t.altRelM = .fin x
  vx : ∃ x : ℚ, (latestVelocity sizeof ds).x = .fin x ∧ |x| < 2 ^ 128 ∧ t.vxMs = .fin x
  vy : ∃ x : ℚ, (latestVelocity sizeof ds).y = .fin x ∧ |x| < 2 ^ 128 ∧ t.vyMs = .fin x
  vz : ∃ x : ℚ, (latestVelocity sizeof ds).z = .fin x ∧ |x| < 2 ^ 128 ∧ t.vzMs = .fin x
  heading : ∃ h : ℚ, t.headingDeg = .fin h ∧ 0 ≤ h ∧ h ≤ 360
  flightStatus : t.flightStatus = latestSample sizeof .statusFlight ds

section Reported

variable {L : Libm} {sizeof : Sizes} {ds : Deliveries} {t : DroneTelemetry}

theorem converted_droneGetTelemetry
    (hL : L.AnglesInRange)
    (hsamples : Plausible sizeof ds)
    {c : Cache}
    (hc : ∀ t, (c t).sample = latestSample sizeof t ds)
    (now : UInt64) :
    Converted sizeof ds (droneGetTelemetry L c now) := by
  obtain ⟨⟨hlat, hlon⟩, ⟨hmsl, hrel⟩, ⟨hvx, hvy, hvz⟩, hheading, hstatus⟩ :=
    droneGetTelemetry_fields L c now
  rw [hc] at hlat hlon hmsl hrel hvx hvy hvz hheading hstatus
  have hvelocity := hsamples.velocity
  simp only [List.forall_mem_cons] at hvelocity
  obtain ⟨⟨x, hx, hxb⟩, ⟨y, hy, hyb⟩, ⟨z, hz, hzb⟩, _⟩ := hvelocity
  obtain ⟨lat, hlatx, hlatb⟩ := hsamples.latitude
  obtain ⟨lon, hlonx, hlonb⟩ := hsamples.longitude
  obtain ⟨alt, haltx, haltb⟩ := hsamples.altitude
  obtain ⟨d, hd, hdb, hderr⟩ := radToDeg_near hlatb
  obtain ⟨e, he, heb, heerr⟩ := radToDeg_near hlonb
  obtain ⟨h, hh, hlo, hhi⟩ := quatToHeading_range hL hsamples.attitude
  exact {
    lat := ⟨lat, d, hlatx, hlat.trans ((congrArg radToDeg hlatx).trans hd), hdb, hderr⟩
    lon := ⟨lon, e, hlonx, hlon.trans ((congrArg radToDeg hlonx).trans he), heb, heerr⟩
    alt := ⟨alt, haltx, haltb, hmsl.trans haltx, hrel.trans haltx⟩
    vx := ⟨x, hx, hxb, hvx.trans hx⟩
    vy := ⟨y, hy, hyb, hvy.trans hy⟩
    vz := ⟨z, hz, hzb, hvz.trans hz⟩
    heading := ⟨h, hheading.trans hh, hlo, hhi⟩
    flightStatus := hstatus }

/-- Plausible telemetry is legible. -/
theorem Converted.legible
    (h : Converted sizeof ds t) :
    (∀ i ∈ telemetryItems t, i.Finite) ∧ Reading.telemetry.InRange t := by
  obtain ⟨_, d, _, hd, hdb, _⟩ := h.lat
  obtain ⟨_, e, _, he, heb, _⟩ := h.lon
  obtain ⟨a, _, hab, hmsl, hrel⟩ := h.alt
  obtain ⟨x, _, hxb, hx⟩ := h.vx
  obtain ⟨y, _, hyb, hy⟩ := h.vy
  obtain ⟨z, _, hzb, hz⟩ := h.vz
  obtain ⟨g, hg, hlo, hhi⟩ := h.heading
  have hgb : |g| < 2 ^ 128 := by
    rw [abs_of_nonneg hlo]
    exact hhi.trans_lt (by norm_num)
  have hbelow : ∀ {v : FNum} {q b : ℚ}, v = .fin q → |q| < b → v.Below b := by
    rintro v q b rfl hq q' ⟨⟩
    exact hq
  constructor
  · simp only [telemetryItems, List.forall_mem_cons]
    exact ⟨⟨_, hd⟩, ⟨_, he⟩, ⟨_, hmsl⟩, ⟨_, hrel⟩, ⟨_, hx⟩, ⟨_, hy⟩, ⟨_, hz⟩, ⟨_, hg⟩,
      trivial, trivial, trivial, trivial, trivial, trivial, List.forall_mem_nil _⟩
  · refine ⟨⟨hbelow hd (by linarith), hbelow he (by linarith)⟩, ?_⟩
    simp only [List.forall_mem_cons]
    exact ⟨hbelow hmsl hab, hbelow hrel hab, hbelow hx hxb, hbelow hy hyb, hbelow hz hzb,
      hbelow hg hgb, List.forall_mem_nil _⟩

/-- What is read in it shows the samples. -/
theorem Converted.shows
    (h : Converted sizeof ds t)
    {ms : List (Bytes × Json)}
    (hshows : List.Forall₂ Item.Shows (telemetryItems t) ms) :
    ShowsSamples sizeof ds (.obj ms) where
  lat x hx := by
    obtain ⟨x', d, hx', hd, _, herr⟩ := h.lat
    obtain rfl : x' = x := FNum.fin.inj (hx'.symm.trans hx)
    exact closeMember_of_telemetry hshows (n := 8) (q := d) (by simp [telemetryItems, hd])
      herr (by norm_num)
  lon x hx := by
    obtain ⟨x', d, hx', hd, _, herr⟩ := h.lon
    obtain rfl : x' = x := FNum.fin.inj (hx'.symm.trans hx)
    exact closeMember_of_telemetry hshows (n := 8) (q := d) (by simp [telemetryItems, hd])
      herr (by norm_num)
  altMsl x hx := by
    obtain ⟨x', hx', _, ht, _⟩ := h.alt
    obtain rfl : x' = x := FNum.fin.inj (hx'.symm.trans hx)
    exact closeMember_self hshows (by simp [telemetryItems, ht])
  altRel x hx := by
    obtain ⟨x', hx', _, _, ht⟩ := h.alt
    obtain rfl : x' = x := FNum.fin.inj (hx'.symm.trans hx)
    exact closeMember_self hshows (by simp [telemetryItems, ht])
  vx x hx := by
    obtain ⟨x', hx', _, ht⟩ := h.vx
    obtain rfl : x' = x := FNum.fin.inj (hx'.symm.trans hx)
    exact closeMember_self hshows (by simp [telemetryItems, ht])
  vy x hx := by
    obtain ⟨x', hx', _, ht⟩ := h.vy
    obtain rfl : x' = x := FNum.fin.inj (hx'.symm.trans hx)
    exact closeMember_self hshows (by simp [telemetryItems, ht])
  vz x hx := by
    obtain ⟨x', hx', _, ht⟩ := h.vz
    obtain rfl : x' = x := FNum.fin.inj (hx'.symm.trans hx)
    exact closeMember_self hshows (by simp [telemetryItems, ht])
  heading := by
    obtain ⟨g, hg, hlo, hhi⟩ := h.heading
    exact heading_of_telemetry hshows (by simp [telemetryItems, hg]) hlo hhi
  flightStatus := by
    obtain ⟨v, hget, hv⟩ := shown_of_telemetry hshows
      (i := .count "flight_status" t.flightStatus.toNat) (by simp [telemetryItems])
    have hv : v = .int t.flightStatus.toNat := congrArg Prod.snd hv
    have hget : jsonObjectObjectGetEx (.obj ms) (ascii "flight_status") = some v := hget
    rw [intMember, hget, hv, h.flightStatus]

end Reported

/-! ### Over a run -/

section Run

variable {τ : Type} (P : Platform) (L : Libm) (S : Outside SysCall.Out τ) (sizeof : Sizes)

/-- The real build answers with the telemetry of its cache. -/
theorem realCtrl_getTelemetry
    (m : RealState τ) :
    ∃ now, (realCtrl L S .getTelemetry m).1 =
      (.ok, droneGetTelemetry L m.vars.cache now) :=
  ⟨(readClock S (m.vars.cache .batteryInfo).stats m).1, rfl⟩

/-- **What a client reads.**  At any point of any run of rounds from the start of the
daemon, whatever was requested before: a request for the telemetry is answered by one
datagram, sent whole, and a client reads in it the latest accepted samples, if these are
plausible. -/
theorem telemetry_read
    (hP : PrintsFixed P)
    (hL : L.AnglesInRange)
    {s : UdpServer × World (RealState τ)}
    (hs : s.2.ctrl.vars.cache = emptyCache)
    (rounds : List Round) {r : Round} {peer : SockaddrIn} {req : RpcRequest}
    (hreq : (pollOf sizeof r : Poll (RealState τ)).request P = some (peer, req))
    (hm : req.method = ascii "drone.get_telemetry")
    (hsamples : Plausible sizeof (samplesOf (rounds ++ [r]))) :
    ∃ reply result,
      (((rounds ++ [r]).map (pollOf sizeof)).foldl (pollStep P (realCtrl L S)) s).2.events =
        ((rounds.map (pollOf sizeof)).foldl (pollStep P (realCtrl L S)) s).2.events ++
          [.call .getTelemetry .ok, .send peer reply reply.length] ∧
      readResponse reply = some (req.id, result) ∧
      ShowsSamples sizeof (samplesOf (rounds ++ [r])) result := by
  generalize hw : (rounds.map (pollOf sizeof)).foldl (serve P (realCtrl L S)) s.2 = w
  -- the cache that the handler finds
  let p : Poll (RealState τ) := pollOf sizeof r
  have hcache : (p.between w.ctrl).vars.cache =
      runCallbacks sizeof (samplesOf (rounds ++ [r])) := by
    have hrounds := cache_serves L S P sizeof rounds s.2
    rw [hw, hs] at hrounds
    show r.samples.foldl (fun c d => callback sizeof d.1 d.2 c) w.ctrl.vars.cache = _
    rw [hrounds]
    simp only [runCallbacks, samplesOf, List.flatMap_append, List.flatMap_cons,
      List.flatMap_nil, List.append_nil, List.foldl_append]
  obtain ⟨now, hout⟩ := realCtrl_getTelemetry L S (p.between w.ctrl)
  have hconverted : Converted sizeof (samplesOf (rounds ++ [r]))
      (droneGetTelemetry L (p.between w.ctrl).vars.cache now) := by
    rw [hcache]
    exact converted_droneGetTelemetry hL hsamples (fun t => (run_topic sizeof _ t).1) now
  obtain ⟨hfinite, hrange⟩ := hconverted.legible
  obtain ⟨ms, hdecode, hshows⟩ := decode_reading (p.env P (realCtrl L S)) hP req.id
    (k := .telemetry) hfinite (print_length_lt hP .telemetry hrange)
  refine ⟨_, .obj ms, ?_, readResponse_of_decode hdecode, hconverted.shows hshows⟩
  rw [pollSteps_eq_serves, pollSteps_eq_serves, List.map_append, List.foldl_append, hw]
  show (serve P (realCtrl L S) w p).events = _
  rw [serve_events hreq, List.append_assoc]
  exact congrArg (w.events ++ ·) (events_reading (p.env P (realCtrl L S)) peer
    (k := .telemetry) hm { w with ctrl := p.between w.ctrl } hout)

end Run

/-! ### One round -/

/-- A position of half a radian north and one radian west, and a level attitude. -/
def levelSamples : Deliveries :=
  [⟨.positionFused, {
      data := {
        longitude := .fin (-1)
        latitude := .fin (1 / 2)
        altitude := .fin 100
        visibleSatelliteNumber := 14 }
      len := 100
      now := 1 }⟩,
    ⟨.quaternion, {
      data := { q0 := .fin 1, q1 := .fin 0, q2 := .fin 0, q3 := .fin 0 }
      len := 100
      now := 1 }⟩]

/-- A round with these samples and a request for the telemetry. -/
def levelRound : Round where
  samples := levelSamples
  rx := some (localPeer, requestLine 1 .getTelemetry [])
  startClock := ⟨5, 0⟩
  nowClock := ⟨6, 0⟩

theorem samples_level :
    Plausible plainSizes (samplesOf ([] ++ [levelRound])) where
  latitude := ⟨1 / 2, rfl, by norm_num⟩
  longitude := ⟨-1, rfl, by norm_num⟩
  altitude := ⟨100, rfl, by norm_num⟩
  velocity := by
    have hzero : FiniteFloat (.fin 0) := ⟨0, rfl, by norm_num⟩
    simp only [List.forall_mem_cons]
    exact ⟨hzero, hzero, hzero, List.forall_mem_nil _⟩
  attitude :=
    ⟨⟨1, rfl, by norm_num⟩, ⟨0, rfl, by norm_num⟩, ⟨0, rfl, by norm_num⟩,
      ⟨0, rfl, by norm_num⟩⟩

/-- The server and the handlers at their start, under an SDK that accepts everything. -/
def startServer : UdpServer × World (RealState Unit) :=
  (udpServerCreate, startWorld ())

theorem request_level :
    ∃ req, (pollOf plainSizes levelRound : Poll (RealState Unit)).request gnuPlatform =
        some (localPeer, req) ∧
      req.method = ascii "drone.get_telemetry" := by
  have hmsg : messageOf (requestLine 1 .getTelemetry []) = requestLine 1 .getTelemetry [] := by
    decide +kernel
  have hne : requestLine 1 .getTelemetry [] ≠ [] := by
    decide +kernel
  obtain ⟨req, hreq, hm⟩ := rpcParse_reading .telemetry
  refine ⟨req, ?_, hm⟩
  have hreq : rpcParse gnuPlatform (requestLine 1 .getTelemetry []) = some req := hreq
  simp only [Poll.request, pollOf, levelRound, hmsg, if_neg hne, hreq, Option.map_some]

/-- The first request of a client finds the position of this round. -/
theorem telemetry_read_level :
    ∃ reply id result,
      .send localPeer reply reply.length ∈
        (([levelRound].map (pollOf plainSizes)).foldl
          (pollStep gnuPlatform (realCtrl flatLibm (steadySdk success)))
          startServer).2.events ∧
      readResponse reply = some (id, result) ∧
      CloseMember result "lat" (1 / 2 * 180 / Real.pi) (1 / 10 ^ 8) := by
  have hangles : flatLibm.AnglesInRange := fun _ _ => ⟨0, rfl, by norm_num [floatPi]⟩
  obtain ⟨req, hreq, hm⟩ := request_level
  obtain ⟨reply, result, hevents, hread, hshows⟩ := telemetry_read gnuPlatform flatLibm
    (steadySdk success) plainSizes printsFixed_gnuPlatform hangles (s := startServer) rfl []
    hreq hm samples_level
  refine ⟨reply, _, result, ?_, hread, ?_⟩
  · rw [List.nil_append] at hevents
    rw [hevents]
    simp
  · have hlat := hshows.lat (1 / 2) rfl
    push_cast at hlat
    exact hlat

/-- The sample of the round is still there behind the request. -/
theorem cache_polls_level :
    ((([levelRound].map (pollOf plainSizes)).foldl
        (pollStep gnuPlatform (realCtrl flatLibm (steadySdk success)))
        startServer).2.ctrl.vars.cache .positionFused).stats.lastUpdateMs = 1 :=
  (cache_polls flatLibm (steadySdk success) gnuPlatform plainSizes (s := startServer) rfl
    [levelRound] .positionFused).2

end Real
end PsdkBridge
