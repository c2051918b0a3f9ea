import PsdkBridge.Subscriptions

/-!
# What the real build reports of its batteries

This module follows `drone_get_telemetry` and `drone_get_battery_info` of
`bsp/drone_ctrl.c`.  Both report the whole-battery sample while it is fresh, and
fall back to the two single-battery samples otherwise.

* `stale_invisible_iff`: when two stale whole-battery samples cannot be told
  apart in the reports.
* `reports_agree_iff`: when the two functions report the same battery.
* `aggregate_iff`: when the fall back reports the aggregate of the two packs.
-/

namespace PsdkBridge
namespace Real

/-- The arithmetic of the C implementation under the real build.  C defines the
conversion of a float to an unsigned type only for values in its range. -/
structure Libm where
  atan2f : FNum → FNum → FNum
  floatToUint8 : FNum → UInt8
  floatToUint16 : FNum → UInt16

/-- `g_battery`. -/
def gBattery (c : Cache) : WholeBatteryInfo :=
  (c .batteryInfo).sample

/-- `g_battery_single_1` with its statistics. -/
def gBatterySingle1 (c : Cache) : Cached SingleBatteryInfo :=
  c .batterySingleInfoIndex1

/-- `g_battery_single_2` with its statistics. -/
def gBatterySingle2 (c : Cache) : Cached SingleBatteryInfo :=
  c .batterySingleInfoIndex2

/-- A sample of the pack has been received. -/
def Cached.Received {α : Type} (c : Cached α) : Prop :=
  c.stats.lastUpdateMs ≠ 0

instance {α : Type} (c : Cached α) : Decidable c.Received :=
  inferInstanceAs (Decidable (_ ≠ _))

/-- `topic_is_fresh(&g_battery_stats, 5000)`. -/
def batteryFresh (c : Cache) (now : UInt64) : Bool :=
  topicIsFresh (c .batteryInfo).stats 5000 now

/-! ## Telemetry -/

/-- `quat_to_heading`. -/
def quatToHeading (L : Libm) (q : Quaternion) : FNum :=
  let m := binary32.mul
  let two : FNum := .fin 2
  let yaw := L.atan2f
    (m two (binary32.add (m q.q0 q.q3) (m q.q1 q.q2)))
    (binary32.sub (.fin 1) (m two (binary32.add (m q.q2 q.q2) (m q.q3 q.q3))))
  let pi := binary32.round (314159265 / 100000000)
  let deg := binary32.div (m yaw (.fin 180)) pi
  if deg.lt (.fin 0) then binary32.add deg (.fin 360) else deg

/-- Radians to degrees, as the position is converted. -/
def radToDeg (x : FNum) : FNum :=
  let pi := binary64.round (314159265358979 / 100000000000000)
  binary64.div (binary64.mul x (.fin 180)) pi

/-- The local variables of the fallback in `drone_get_telemetry`. -/
structure PackSum where
  pctSum : UInt32
  pctCount : UInt32
  currentSum : Int32
  voltageMv : UInt32

/-- The block of one pack in that fallback. -/
def PackSum.add (s : PackSum) (pack : Cached SingleBatteryInfo) : PackSum :=
  if pack.stats.lastUpdateMs ≠ 0 then
    { pctSum := s.pctSum + pack.sample.batteryCapacityPercent.toUInt32
      pctCount := s.pctCount + 1
      currentSum := s.currentSum + pack.sample.currentElectric
      voltageMv :=
        if s.voltageMv < pack.sample.currentVoltage.toUInt32 then
          pack.sample.currentVoltage.toUInt32
        else s.voltageMv }
  else s

/-- `drone_get_telemetry` at the clock reading `now`. -/
def droneGetTelemetry (L : Libm) (c : Cache) (now : UInt64) : DroneTelemetry :=
  let pos : PositionFused := (c .positionFused).sample
  let vel : Vector3f := (c .velocity).sample
  let gps : GpsDetails := (c .gpsDetails).sample
  let flightStatus : UInt8 := (c .statusFlight).sample
  let satsFromPos := pos.visibleSatelliteNumber.toUInt32
  let satsFromGps := gps.gpsSatelliteNumberUsed
  let out : DroneTelemetry := {
    lat := radToDeg pos.latitude
    lon := radToDeg pos.longitude
    altMslM := pos.altitude
    altRelM := pos.altitude
    vxMs := vel.x
    vyMs := vel.y
    vzMs := vel.z
    headingDeg := quatToHeading L (c .quaternion).sample
    batteryPct := (gBattery c).percentage
    batteryMv := (gBattery c).voltage.toUInt32
    gpsSats := (if satsFromPos < satsFromGps then satsFromGps else satsFromPos).toUInt8
    gpsFix := L.floatToUint8 gps.fixState
    flightStatus := flightStatus
    motorsOn := decide (0 < flightStatus) }
  if !batteryFresh c now then
    if (gBatterySingle1 c).stats.lastUpdateMs ≠ 0 ∨
        (gBatterySingle2 c).stats.lastUpdateMs ≠ 0 then
      let sum := ((⟨0, 0, 0, 0⟩ : PackSum).add (gBatterySingle1 c)).add
        (gBatterySingle2 c)
      { out with
        batteryPct :=
          if 0 < sum.pctCount then (sum.pctSum / sum.pctCount).toUInt8
          else out.batteryPct
        batteryMv := sum.voltageMv }
    else out
  else out

/-! ## Battery information -/

/-- The output and the local variables of `drone_get_battery_info`. -/
structure BatteryAcc where
  out : DroneBatteryInfo
  pctSum : UInt32
  pctCount : UInt32

/-- The block of the first pack. -/
def BatteryAcc.patchSingle1 (a : BatteryAcc) (pack : Cached SingleBatteryInfo) :
    BatteryAcc :=
  if pack.stats.lastUpdateMs ≠ 0 then
    { out := { a.out with
        voltageMv := pack.sample.currentVoltage.toUInt32
        currentMa := a.out.currentMa + pack.sample.currentElectric
        temperatureDc := pack.sample.batteryTemperature }
      pctSum := a.pctSum + pack.sample.batteryCapacityPercent.toUInt32
      pctCount := a.pctCount + 1 }
  else a

/-- The block of the second pack. -/
def BatteryAcc.patchSingle2 (a : BatteryAcc) (pack : Cached SingleBatteryInfo) :
    BatteryAcc :=
  if pack.stats.lastUpdateMs ≠ 0 then
    { out := { a.out with
        voltageMv :=
          if a.out.voltageMv < pack.sample.currentVoltage.toUInt32 then
            pack.sample.currentVoltage.toUInt32
          else a.out.voltageMv
        currentMa := a.out.currentMa + pack.sample.currentElectric
        temperatureDc :=
          if a.out.temperatureDc < pack.sample.batteryTemperature then
            pack.sample.batteryTemperature
          else a.out.temperatureDc }
      pctSum := a.pctSum + pack.sample.batteryCapacityPercent.toUInt32
      pctCount := a.pctCount + 1 }
  else a

/-- `drone_get_battery_info` at the clock reading `now`. -/
def droneGetBatteryInfo (c : Cache) (now : UInt64) : DroneBatteryInfo :=
  let out : DroneBatteryInfo := {
    voltageMv := (gBattery c).voltage.toUInt32
    currentMa := (gBattery c).current
    remainingPct := (gBattery c).percentage
    temperatureDc := 0
    cycleCount := 0 }
  if !batteryFresh c now then
    let a := ((⟨out, 0, 0⟩ : BatteryAcc).patchSingle1 (gBatterySingle1 c)).patchSingle2
      (gBatterySingle2 c)
    if 0 < a.pctCount then
      { a.out with remainingPct := (a.pctSum / a.pctCount).toUInt8 }
    else a.out
  else out

/-! ## Where the two reports differ -/

/-- `0` is below every voltage. -/
theorem ite_zero_lt
    (v : UInt32) :
    (if 0 < v then v else 0) = v := by
  split_ifs with h
  · rfl
  · rw [UInt32.not_lt] at h
    exact (UInt32.le_zero_iff.mp h).symm

theorem le_imp_eq_iff_le
    (a b : UInt32) :
    (a ≤ b → a = b) ↔ b ≤ a := by
  simp only [UInt32.le_iff_toNat_le, ← UInt32.toNat_inj]
  omega

section State

variable (L : Libm) (c : Cache) (now : UInt64)

/-- Both functions report the same charge. -/
theorem batteryPct_eq_remainingPct :
    (droneGetTelemetry L c now).batteryPct = (droneGetBatteryInfo c now).remainingPct := by
  by_cases hf : batteryFresh c now = true
  · simp [droneGetTelemetry, droneGetBatteryInfo, hf]
  · by_cases h₁ : (gBatterySingle1 c).stats.lastUpdateMs = 0 <;>
      by_cases h₂ : (gBatterySingle2 c).stats.lastUpdateMs = 0 <;>
      simp [droneGetTelemetry, droneGetBatteryInfo, PackSum.add,
        BatteryAcc.patchSingle1, BatteryAcc.patchSingle2, hf, h₁, h₂]

/-- The voltages differ exactly if the second pack alone has reported, below the
voltage of the stale whole-battery sample. -/
theorem batteryMv_eq_voltageMv_iff :
    (droneGetTelemetry L c now).batteryMv = (droneGetBatteryInfo c now).voltageMv ↔
      ¬ (batteryFresh c now = false ∧ ¬ (gBatterySingle1 c).Received ∧
        (gBatterySingle2 c).Received ∧
        (gBatterySingle2 c).sample.currentVoltage.toUInt32 <
          (gBattery c).voltage.toUInt32) := by
  by_cases hf : batteryFresh c now = true
  · simp [droneGetTelemetry, droneGetBatteryInfo, hf]
  · by_cases h₁ : (gBatterySingle1 c).stats.lastUpdateMs = 0 <;>
      by_cases h₂ : (gBatterySingle2 c).stats.lastUpdateMs = 0 <;>
      simp [droneGetTelemetry, droneGetBatteryInfo, PackSum.add,
        BatteryAcc.patchSingle1, BatteryAcc.patchSingle2, Cached.Received, hf, h₁, h₂,
        ite_zero_lt, le_imp_eq_iff_le]

end State

section Runs

variable (L : Libm) (sizeof : Sizes)

/-- At the time `now` the whole-battery sample is stale, the first pack has not
reported, and the second pack has reported less voltage than that sample. -/
def StaleVoltageWins (ds : Deliveries) (now : UInt64) : Prop :=
  ∃ (b : Delivery WholeBatteryInfo) (s₂ : Delivery SingleBatteryInfo),
    latest sizeof .batteryInfo ds = some b ∧
    latest sizeof .batterySingleInfoIndex2 ds = some s₂ ∧
    ¬ (b.now ≠ 0 ∧ b.now ≤ now ∧ now - b.now ≤ 5000) ∧
    latestUpdate sizeof .batterySingleInfoIndex1 ds = 0 ∧
    s₂.now ≠ 0 ∧
    s₂.data.currentVoltage.toUInt32 < b.data.voltage.toUInt32

/-- The same, said of the cache that the deliveries leave. -/
theorem staleVoltageWins_iff
    (ds : Deliveries) (now : UInt64) :
    StaleVoltageWins sizeof ds now ↔
      batteryFresh (runCallbacks sizeof ds) now = false ∧
      ¬ (gBatterySingle1 (runCallbacks sizeof ds)).Received ∧
      (gBatterySingle2 (runCallbacks sizeof ds)).Received ∧
      (gBatterySingle2 (runCallbacks sizeof ds)).sample.currentVoltage.toUInt32 <
        (gBattery (runCallbacks sizeof ds)).voltage.toUInt32 := by
  obtain ⟨hb, hbt⟩ := run_topic sizeof ds .batteryInfo
  obtain ⟨_, h₁t⟩ := run_topic sizeof ds .batterySingleInfoIndex1
  obtain ⟨h₂, h₂t⟩ := run_topic sizeof ds .batterySingleInfoIndex2
  have hfresh : batteryFresh (runCallbacks sizeof ds) now = false ↔
      ¬ (latestUpdate sizeof .batteryInfo ds ≠ 0 ∧
        latestUpdate sizeof .batteryInfo ds ≤ now ∧
        now - latestUpdate sizeof .batteryInfo ds ≤ 5000) := by
    rw [← hbt, ← topicIsFresh_eq_true_iff, Bool.not_eq_true]
    rfl
  simp only [hfresh, Cached.Received, gBatterySingle1, gBatterySingle2, gBattery]
  rw [hb, h₁t, h₂, h₂t]
  unfold StaleVoltageWins latestSample
  cases hbl : latest sizeof .batteryInfo ds with
  | none =>
      -- a cache without a sample holds a voltage of zero
      have hzero : ∀ v : UInt32, ¬ v < (Int32.toUInt32 0) := fun v => UInt32.not_lt_zero
      simp only [Option.map_none, Option.getD_none]
      constructor
      · rintro ⟨b, _, h, _⟩
        cases h
      · rintro ⟨_, _, _, hlt⟩
        exact absurd hlt (hzero _)
  | some b =>
      cases h₂l : latest sizeof .batterySingleInfoIndex2 ds with
      | none =>
          simp [latestUpdate, h₂l]
      | some s₂ =>
          have hbu : latestUpdate sizeof .batteryInfo ds = b.now := by
            simp [latestUpdate, hbl]
          have h₂u : latestUpdate sizeof .batterySingleInfoIndex2 ds = s₂.now := by
            simp [latestUpdate, h₂l]
          rw [hbu, h₂u]
          constructor
          · rintro ⟨b', s', hb', hs', hstale, h₁, h₂, hlt⟩
            obtain rfl : b = b' := Option.some.inj hb'
            obtain rfl : s₂ = s' := Option.some.inj hs'
            exact ⟨hstale, not_not.mpr h₁, h₂, hlt⟩
          · rintro ⟨hstale, h₁, h₂, hlt⟩
            exact ⟨b, s₂, rfl, rfl, hstale, not_not.mp h₁, h₂, hlt⟩

/-- **When the reports agree.**  After any sequence of deliveries and at any
time, the telemetry and the battery information report the same charge and the
same voltage, exactly unless the voltage of a stale whole-battery sample exceeds
that of the only pack that has reported. -/
theorem reports_agree_iff
    (ds : Deliveries) (now : UInt64) :
    ((droneGetTelemetry L (runCallbacks sizeof ds) now).batteryPct =
        (droneGetBatteryInfo (runCallbacks sizeof ds) now).remainingPct ∧
      (droneGetTelemetry L (runCallbacks sizeof ds) now).batteryMv =
        (droneGetBatteryInfo (runCallbacks sizeof ds) now).voltageMv) ↔
      ¬ StaleVoltageWins sizeof ds now := by
  rw [staleVoltageWins_iff, batteryMv_eq_voltageMv_iff]
  simp only [batteryPct_eq_remainingPct, true_and]

end Runs

/-- A library without a heading. -/
def flatLibm : Libm where
  atan2f _ _ := .fin 0
  floatToUint8 _ := 0
  floatToUint16 _ := 0

/-- A size for all sample types. -/
def plainSizes : Sizes :=
  fun _ => 16

/-- A whole-battery sample of 24 V, and half a minute later one of 22 V from the
second pack. -/
def fadingBattery : Deliveries :=
  [⟨.batteryInfo,
      { data := ({ voltage := 24000, current := -3000, percentage := 80 } :
          WholeBatteryInfo)
        len := 16
        now := 1000 }⟩,
    ⟨.batterySingleInfoIndex2,
      { data := ({ currentVoltage := 22000, currentElectric := -3000
                   batteryTemperature := 250, batteryCapacityPercent := 40 } :
          SingleBatteryInfo)
        len := 16
        now := 31000 }⟩]

/-- One function reports the pack, the other one the stale sample. -/
theorem reports_differ_fading :
    (fadingBattery.map (fun d => d.2.now)).Pairwise (fun a b => a ≤ b) ∧
    (droneGetTelemetry flatLibm (runCallbacks plainSizes fadingBattery)
      31000).batteryMv = 22000 ∧
    (droneGetBatteryInfo (runCallbacks plainSizes fadingBattery)
      31000).voltageMv = 24000 := by
  decide

/-! ## Whether a stale sample can be seen -/

section Stale

variable (L : Libm) {c c' : Cache} {now : UInt64}

/-- The caches differ at most in the contents of the whole-battery sample. -/
structure AgreeOffBattery (c c' : Cache) : Prop where
  stats : ∀ t, (c t).stats = (c' t).stats
  samples : ∀ t, t ≠ .batteryInfo → (c t).sample = (c' t).sample

/-- The reports of two caches show the same battery. -/
@[mk_iff] structure SameBattery (c c' : Cache) (now : UInt64) : Prop where
  voltageMv : (droneGetBatteryInfo c now).voltageMv =
    (droneGetBatteryInfo c' now).voltageMv
  currentMa : (droneGetBatteryInfo c now).currentMa =
    (droneGetBatteryInfo c' now).currentMa
  temperatureDc : (droneGetBatteryInfo c now).temperatureDc =
    (droneGetBatteryInfo c' now).temperatureDc
  remainingPct : (droneGetBatteryInfo c now).remainingPct =
    (droneGetBatteryInfo c' now).remainingPct
  batteryPct : (droneGetTelemetry L c now).batteryPct =
    (droneGetTelemetry L c' now).batteryPct
  batteryMv : (droneGetTelemetry L c now).batteryMv =
    (droneGetTelemetry L c' now).batteryMv

theorem cached_ext
    {α : Type} {a b : Cached α}
    (hsample : a.sample = b.sample)
    (hstats : a.stats = b.stats) :
    a = b := by
  cases a
  cases b
  simp_all

/-- Both caches hold the same packs, and agree on the freshness. -/
theorem AgreeOffBattery.packs
    (h : AgreeOffBattery c c')
    (now : UInt64) :
    gBatterySingle1 c' = gBatterySingle1 c ∧ gBatterySingle2 c' = gBatterySingle2 c ∧
      batteryFresh c' now = batteryFresh c now := by
  refine ⟨?_, ?_, ?_⟩
  · exact cached_ext (h.samples .batterySingleInfoIndex1 (by decide)).symm
      (h.stats _).symm
  · exact cached_ext (h.samples .batterySingleInfoIndex2 (by decide)).symm
      (h.stats _).symm
  · unfold batteryFresh
    rw [h.stats]

/-- The larger of `a` and `v` is the larger of `b` and `v`. -/
theorem ite_lt_eq_iff
    (a b v : UInt32) :
    ((if a < v then v else a) = if b < v then v else b) ↔
      a = b ∨ (a ≤ v ∧ b ≤ v) := by
  split_ifs with ha hb hb <;>
    simp only [UInt32.lt_iff_toNat_lt, UInt32.le_iff_toNat_le,
      ← UInt32.toNat_inj, true_iff] at ha hb ⊢ <;>
    omega

/-- **When a stale sample cannot be seen.**  Two stale whole-battery samples are
indistinguishable exactly if they carry the same current and, while the first
pack has not reported, if they carry the same voltage or none above that of the
second pack. -/
theorem stale_invisible_iff
    (hagree : AgreeOffBattery c c')
    (hstale : batteryFresh c now = false)
    (hpack : (gBatterySingle1 c).Received ∨ (gBatterySingle2 c).Received) :
    SameBattery L c c' now ↔
      (gBattery c).current = (gBattery c').current ∧
      ((gBatterySingle1 c).Received ∨
        (gBattery c).voltage.toUInt32 = (gBattery c').voltage.toUInt32 ∨
        ((gBattery c).voltage.toUInt32 ≤
            (gBatterySingle2 c).sample.currentVoltage.toUInt32 ∧
          (gBattery c').voltage.toUInt32 ≤
            (gBatterySingle2 c).sample.currentVoltage.toUInt32)) := by
  obtain ⟨h₁, h₂, hf⟩ := hagree.packs now
  rw [hstale] at hf
  unfold Cached.Received at hpack ⊢
  by_cases hr₁ : (gBatterySingle1 c).stats.lastUpdateMs = 0 <;>
    by_cases hr₂ : (gBatterySingle2 c).stats.lastUpdateMs = 0 <;>
    simp [sameBattery_iff, droneGetTelemetry, droneGetBatteryInfo, PackSum.add,
      BatteryAcc.patchSingle1, BatteryAcc.patchSingle2, hstale, hf, h₁, h₂, hr₁, hr₂]
        at hpack ⊢
  rw [ite_lt_eq_iff, and_comm]

end Stale

/-- A whole-battery sample, and half a minute later one from the first pack. -/
def packCache (battery : WholeBatteryInfo) : Cache :=
  runCallbacks plainSizes
    [⟨.batteryInfo, { data := battery, len := 16, now := 1000 }⟩,
      ⟨.batterySingleInfoIndex1,
        { data := ({ currentVoltage := 22000, currentElectric := -3000
                     batteryTemperature := 250, batteryCapacityPercent := 40 } :
            SingleBatteryInfo)
          len := 16
          now := 31000 }⟩]

theorem agreeOffBattery_packCache
    (b b' : WholeBatteryInfo) :
    AgreeOffBattery (packCache b) (packCache b') := by
  constructor
  · intro t
    cases t <;> rfl
  · intro t ht
    cases t <;> first | rfl | exact absurd rfl ht

/-- Two stale samples of the same current cannot be told apart. -/
theorem stale_voltage_invisible :
    SameBattery flatLibm (packCache ⟨24000, -3000, 80⟩) (packCache ⟨25000, -3000, 90⟩)
      31000 :=
  (stale_invisible_iff flatLibm (agreeOffBattery_packCache _ _) (by decide)
    (Or.inl (by decide))).mpr ⟨rfl, Or.inl (by decide)⟩

/-- The current of a stale sample is added to that of the pack. -/
theorem stale_current_visible :
    AgreeOffBattery (packCache ⟨24000, 0, 80⟩) (packCache ⟨24000, -3000, 80⟩) ∧
    batteryFresh (packCache ⟨24000, 0, 80⟩) 31000 = false ∧
    (gBatterySingle1 (packCache ⟨24000, 0, 80⟩)).Received ∧
    (droneGetBatteryInfo (packCache ⟨24000, 0, 80⟩) 31000).currentMa = -3000 ∧
    (droneGetBatteryInfo (packCache ⟨24000, -3000, 80⟩) 31000).currentMa = -6000 ∧
    ¬ SameBattery flatLibm (packCache ⟨24000, 0, 80⟩) (packCache ⟨24000, -3000, 80⟩)
      31000 := by
  refine ⟨agreeOffBattery_packCache _ _, by decide, by decide, by decide, by decide, ?_⟩
  intro h
  exact absurd h.currentMa (by decide)

/-! ## The aggregate of the packs -/

/-- The latest accepted sample, if it arrived at a clock reading other than
zero. -/
def reported {α : Type} (latest : Option (Delivery α)) : Option α :=
  (latest.filter (fun d => d.now ≠ 0)).map Delivery.data

/-- What the first pack has reported. -/
def reportedPack1 (sizeof : Sizes) (ds : Deliveries) : Option SingleBatteryInfo :=
  reported (latest sizeof .batterySingleInfoIndex1 ds)

/-- What the second pack has reported. -/
def reportedPack2 (sizeof : Sizes) (ds : Deliveries) : Option SingleBatteryInfo :=
  reported (latest sizeof .batterySingleInfoIndex2 ds)

/-- The packs that have reported, each with its latest accepted sample. -/
def reportedPacks (sizeof : Sizes) (ds : Deliveries) : List SingleBatteryInfo :=
  (reportedPack1 sizeof ds).toList ++ (reportedPack2 sizeof ds).toList

/-- The report is the aggregate of the packs, in exact arithmetic. -/
@[mk_iff] structure IsAggregate (packs : List SingleBatteryInfo)
    (info : DroneBatteryInfo) : Prop where
  voltageMv : (packs.map (fun p => p.currentVoltage.toUInt32.toNat)).max? =
    some info.voltageMv.toNat
  currentMa : info.currentMa.toInt = (packs.map (fun p => p.currentElectric.toInt)).sum
  temperatureDc : (packs.map (fun p => p.batteryTemperature.toInt)).max? =
    some info.temperatureDc.toInt
  remainingPct : info.remainingPct.toNat =
    (packs.map (fun p => p.batteryCapacityPercent.toNat)).sum / packs.length

/-- The second pack alone has reported, and it is below zero degrees. -/
def ColdSecondPack (sizeof : Sizes) (ds : Deliveries) : Prop :=
  reportedPack1 sizeof ds = none ∧
    ∃ p, reportedPack2 sizeof ds = some p ∧ p.batteryTemperature < 0

section Arithmetic

theorem toNat_larger
    (a b : UInt32) :
    (if a < b then b else a).toNat = max a.toNat b.toNat := by
  simp only [UInt32.lt_iff_toNat_lt]
  split_ifs <;> omega

theorem toInt_warmer
    (a b : Int16) :
    (if a < b then b else a).toInt = max a.toInt b.toInt := by
  simp only [Int16.lt_iff_toInt_lt]
  split_ifs <;> omega

theorem toInt_add_of_fits
    {a b : Int32}
    (hl : -2 ^ 31 ≤ a.toInt + b.toInt)
    (hr : a.toInt + b.toInt < 2 ^ 31) :
    (a + b).toInt = a.toInt + b.toInt := by
  rw [Int32.toInt_add]
  exact Int.bmod_eq_of_le (by omega) (by omega)

/-- The mean of two percentages is below `256`. -/
theorem toNat_meanPct
    (a b : UInt8) :
    ((a.toUInt32 + b.toUInt32) / 2).toUInt8.toNat = (a.toNat + b.toNat) / 2 := by
  have ha := a.toNat_lt
  have hb := b.toNat_lt
  simp
  omega

/-- The temperature zero that the output starts with counts as a pack. -/
theorem toInt_warmer_zero_iff
    (a : Int16) :
    a.toInt = (if 0 < a then a else 0).toInt ↔ ¬ a < 0 := by
  have hwarmer := toInt_warmer 0 a
  simp only [Int16.toInt_zero] at hwarmer
  rw [hwarmer, Int16.lt_iff_toInt_lt, Int16.toInt_zero]
  omega

end Arithmetic

section Blocks

variable {c : Cache} {now : UInt64}

/-- Both packs have reported. -/
theorem isAggregate_both
    (hzero : gBattery c = ⟨0, 0, 0⟩)
    (hstale : batteryFresh c now = false)
    (h₁ : (gBatterySingle1 c).Received)
    (h₂ : (gBatterySingle2 c).Received)
    (hl : -2 ^ 31 ≤ (gBatterySingle1 c).sample.currentElectric.toInt +
      (gBatterySingle2 c).sample.currentElectric.toInt)
    (hr : (gBatterySingle1 c).sample.currentElectric.toInt +
      (gBatterySingle2 c).sample.currentElectric.toInt < 2 ^ 31) :
    IsAggregate [(gBatterySingle1 c).sample, (gBatterySingle2 c).sample]
      (droneGetBatteryInfo c now) := by
  unfold Cached.Received at h₁ h₂
  have hinfo : droneGetBatteryInfo c now = {
      voltageMv :=
        if (gBatterySingle1 c).sample.currentVoltage.toUInt32 <
            (gBatterySingle2 c).sample.currentVoltage.toUInt32 then
          (gBatterySingle2 c).sample.currentVoltage.toUInt32
        else (gBatterySingle1 c).sample.currentVoltage.toUInt32
      currentMa := (gBatterySingle1 c).sample.currentElectric +
        (gBatterySingle2 c).sample.currentElectric
      remainingPct := (((gBatterySingle1 c).sample.batteryCapacityPercent.toUInt32 +
        (gBatterySingle2 c).sample.batteryCapacityPercent.toUInt32) / 2).toUInt8
      temperatureDc :=
        if (gBatterySingle1 c).sample.batteryTemperature <
            (gBatterySingle2 c).sample.batteryTemperature then
          (gBatterySingle2 c).sample.batteryTemperature
        else (gBatterySingle1 c).sample.batteryTemperature
      cycleCount := 0 } := by
    simp [droneGetBatteryInfo, BatteryAcc.patchSingle1, BatteryAcc.patchSingle2, hzero,
      hstale, h₁, h₂]
  rw [hinfo]
  constructor
  · simp only [List.map_cons, List.map_nil, toNat_larger]
    rfl
  · simp only [List.map_cons, List.map_nil, List.sum_cons, List.sum_nil, add_zero]
    exact toInt_add_of_fits hl hr
  · simp only [List.map_cons, List.map_nil, toInt_warmer]
    rfl
  · simp only [List.map_cons, List.map_nil, List.sum_cons, List.sum_nil, add_zero,
      List.length_cons, List.length_nil]
    exact toNat_meanPct _ _

/-- The first pack alone has reported. -/
theorem isAggregate_first
    (hzero : gBattery c = ⟨0, 0, 0⟩)
    (hstale : batteryFresh c now = false)
    (h₁ : (gBatterySingle1 c).Received)
    (h₂ : ¬ (gBatterySingle2 c).Received) :
    IsAggregate [(gBatterySingle1 c).sample] (droneGetBatteryInfo c now) := by
  unfold Cached.Received at h₁ h₂
  rw [not_not] at h₂
  constructor <;>
    simp [droneGetBatteryInfo, BatteryAcc.patchSingle1, BatteryAcc.patchSingle2, hzero,
      hstale, h₁, h₂]

/-- The second pack alone has reported. -/
theorem isAggregate_second_iff
    (hzero : gBattery c = ⟨0, 0, 0⟩)
    (hstale : batteryFresh c now = false)
    (h₁ : ¬ (gBatterySingle1 c).Received)
    (h₂ : (gBatterySingle2 c).Received) :
    IsAggregate [(gBatterySingle2 c).sample] (droneGetBatteryInfo c now) ↔
      ¬ (gBatterySingle2 c).sample.batteryTemperature < 0 := by
  unfold Cached.Received at h₁ h₂
  rw [not_not] at h₁
  have hinfo : droneGetBatteryInfo c now = {
      voltageMv := (gBatterySingle2 c).sample.currentVoltage.toUInt32
      currentMa := (gBatterySingle2 c).sample.currentElectric
      remainingPct := (gBatterySingle2 c).sample.batteryCapacityPercent
      temperatureDc :=
        if 0 < (gBatterySingle2 c).sample.batteryTemperature then
          (gBatterySingle2 c).sample.batteryTemperature
        else 0
      cycleCount := 0 } := by
    have hvoltage := ite_zero_lt (gBatterySingle2 c).sample.currentVoltage.toUInt32
    have hint : Int32.toUInt32 0 = 0 := rfl
    simp [droneGetBatteryInfo, BatteryAcc.patchSingle1, BatteryAcc.patchSingle2, hzero,
      hstale, h₁, h₂, hint, hvoltage]
  rw [hinfo, isAggregate_iff, ← toInt_warmer_zero_iff]
  simp

end Blocks

section Aggregate

variable (sizeof : Sizes) (ds : Deliveries)

/-- What a topic has reported, read off the cache. -/
theorem reported_latest
    (t : Topic) :
    reported (latest sizeof t ds) =
      if (runCallbacks sizeof ds t).Received then some (runCallbacks sizeof ds t).sample
      else none := by
  obtain ⟨hsample, hupdate⟩ := run_topic sizeof ds t
  simp only [Cached.Received, hsample, hupdate, latestSample, latestUpdate]
  cases latest sizeof t ds with
  | none =>
      simp [reported]
  | some d =>
      by_cases hd : d.now = 0 <;> simp [reported, Option.filter, hd]

/-- Before its first accepted sample, the whole battery is zero and not fresh. -/
theorem battery_of_none
    (h : latest sizeof .batteryInfo ds = none)
    (now : UInt64) :
    gBattery (runCallbacks sizeof ds) = ⟨0, 0, 0⟩ ∧
      batteryFresh (runCallbacks sizeof ds) now = false := by
  obtain ⟨hsample, hupdate⟩ := run_topic sizeof ds .batteryInfo
  rw [latestSample, h] at hsample
  rw [latestUpdate, h] at hupdate
  refine ⟨hsample, ?_⟩
  simp only [Option.map_none, Option.getD_none] at hupdate
  simp [batteryFresh, topicIsFresh, hupdate]

/-- **When the report is the aggregate of the packs.**  Without a whole-battery
sample, exactly unless the second pack alone has reported and is below zero
degrees. -/
theorem aggregate_iff
    (hbattery : latest sizeof .batteryInfo ds = none)
    (hpacks : reportedPacks sizeof ds ≠ [])
    (hl : -2 ^ 31 ≤
      ((reportedPacks sizeof ds).map (fun p => p.currentElectric.toInt)).sum)
    (hr : ((reportedPacks sizeof ds).map (fun p => p.currentElectric.toInt)).sum < 2 ^ 31)
    (now : UInt64) :
    IsAggregate (reportedPacks sizeof ds)
        (droneGetBatteryInfo (runCallbacks sizeof ds) now) ↔
      ¬ ColdSecondPack sizeof ds := by
  obtain ⟨hzero, hstale⟩ := battery_of_none sizeof ds hbattery now
  have h₁ : reportedPack1 sizeof ds = if (gBatterySingle1 (runCallbacks sizeof ds)).Received
      then some (gBatterySingle1 (runCallbacks sizeof ds)).sample else none :=
    reported_latest sizeof ds .batterySingleInfoIndex1
  have h₂ : reportedPack2 sizeof ds = if (gBatterySingle2 (runCallbacks sizeof ds)).Received
      then some (gBatterySingle2 (runCallbacks sizeof ds)).sample else none :=
    reported_latest sizeof ds .batterySingleInfoIndex2
  unfold reportedPacks at hpacks hl hr ⊢
  unfold ColdSecondPack
  rw [h₁, h₂] at hpacks hl hr ⊢
  by_cases hr₁ : (gBatterySingle1 (runCallbacks sizeof ds)).Received
  · rw [if_pos hr₁] at hpacks hl hr ⊢
    refine iff_of_true ?_ (fun hcold => nomatch hcold.1)
    by_cases hr₂ : (gBatterySingle2 (runCallbacks sizeof ds)).Received
    · rw [if_pos hr₂] at hl hr ⊢
      simp only [Option.toList_some, List.cons_append, List.nil_append, List.map_cons,
        List.map_nil, List.sum_cons, List.sum_nil, add_zero] at hl hr ⊢
      exact isAggregate_both hzero hstale hr₁ hr₂ hl hr
    · rw [if_neg hr₂]
      exact isAggregate_first hzero hstale hr₁ hr₂
  · rw [if_neg hr₁] at hpacks ⊢
    by_cases hr₂ : (gBatterySingle2 (runCallbacks sizeof ds)).Received
    · rw [if_pos hr₂]
      simpa using isAggregate_second_iff hzero hstale hr₁ hr₂
    · rw [if_neg hr₂] at hpacks
      exact absurd rfl hpacks

end Aggregate

/-- A sample of a pack with the given temperature. -/
def packSample (temperature : Int16) : Delivery SingleBatteryInfo where
  data := {
    currentVoltage := 22000
    currentElectric := -3000
    batteryTemperature := temperature
    batteryCapacityPercent := 41 }
  len := 16
  now := 1000

/-- Two packs, both below zero degrees. -/
def coldPacks : Deliveries :=
  [⟨.batterySingleInfoIndex1, packSample (-50)⟩,
    ⟨.batterySingleInfoIndex2, packSample (-20)⟩]

/-- The aggregate of two cold packs is reported. -/
theorem aggregate_coldPacks :
    IsAggregate (reportedPacks plainSizes coldPacks)
      (droneGetBatteryInfo (runCallbacks plainSizes coldPacks) 2000) :=
  (aggregate_iff plainSizes coldPacks rfl (by decide) (by decide) (by decide) 2000).mpr
    (fun h => absurd h.1 (by decide))

/-- The second pack alone, at minus five degrees. -/
def coldSecondPack : Deliveries :=
  [⟨.batterySingleInfoIndex2, packSample (-50)⟩]

/-- The temperature of the only pack is reported as zero. -/
theorem coldSecondPack_reported_warm :
    latest plainSizes .batteryInfo coldSecondPack = none ∧
    (reportedPacks plainSizes coldSecondPack).map (fun p => p.batteryTemperature) =
      [-50] ∧
    (droneGetBatteryInfo (runCallbacks plainSizes coldSecondPack) 2000).temperatureDc = 0 ∧
    ¬ IsAggregate (reportedPacks plainSizes coldSecondPack)
      (droneGetBatteryInfo (runCallbacks plainSizes coldSecondPack) 2000) := by
  refine ⟨rfl, by decide, by decide, ?_⟩
  intro h
  exact absurd h.temperatureDc (by decide)

end Real
end PsdkBridge
