import Mathlib.Logic.Function.Basic
import PsdkBridge.DroneTypes

/-!
# The subscription cache of the real build

This module follows the first part of `bsp/drone_ctrl.c`, which is compiled with
`PSDK_REAL`.  The flight controller delivers samples of nine topics; a callback
for each topic stores the sample and the time of its arrival.

The sample types hold the members that the daemon reads.  A delivery carries the
sample that its bytes denote, the number of bytes, and the reading of the
monotonic clock; it is accepted if it has at least the size of the sample type.

`run_topic` is the purpose of the cache: after any sequence of deliveries it
holds the latest accepted sample of each topic, and the time of its arrival.
-/

namespace PsdkBridge
namespace Real

/-- The subscribed topics. -/
inductive Topic where
  | positionFused
  | velocity
  | quaternion
  | gpsDetails
  | statusFlight
  | batteryInfo
  | batterySingleInfoIndex1
  | batterySingleInfoIndex2
  | gimbalAngles
deriving DecidableEq

/-- `T_DjiFcSubscriptionPositionFused`. -/
structure PositionFused where
  longitude : FNum
  latitude : FNum
  altitude : FNum
  visibleSatelliteNumber : UInt16

/-- `T_DjiVector3f`: velocities and gimbal angles. -/
structure Vector3f where
  x : FNum
  y : FNum
  z : FNum

/-- `T_DjiFcSubscriptionQuaternion`. -/
structure Quaternion where
  q0 : FNum
  q1 : FNum
  q2 : FNum
  q3 : FNum

/-- `T_DjiFcSubscriptionGpsDetails`. -/
structure GpsDetails where
  fixState : FNum
  gpsSatelliteNumberUsed : UInt32

/-- `T_DjiFcSubscriptionWholeBatteryInfo`. -/
structure WholeBatteryInfo where
  voltage : Int32
  current : Int32
  percentage : UInt8

/-- `T_DjiFcSubscriptionSingleBatteryInfo`. -/
structure SingleBatteryInfo where
  currentVoltage : Int32
  currentElectric : Int32
  batteryTemperature : Int16
  batteryCapacityPercent : UInt8

/-- The samples of a topic. -/
def Topic.Sample : Topic → Type
  | positionFused => PositionFused
  | velocity => Vector3f
  | quaternion => Quaternion
  | gpsDetails => GpsDetails
  | statusFlight => UInt8
  | batteryInfo => WholeBatteryInfo
  | batterySingleInfoIndex1 => SingleBatteryInfo
  | batterySingleInfoIndex2 => SingleBatteryInfo
  | gimbalAngles => Vector3f

/-- The static variables start at zero. -/
def Topic.zero : (t : Topic) → t.Sample
  | positionFused =>
      (⟨.fin 0, .fin 0, .fin 0, 0⟩ : PositionFused)
  | velocity => (⟨.fin 0, .fin 0, .fin 0⟩ : Vector3f)
  | quaternion => (⟨.fin 0, .fin 0, .fin 0, .fin 0⟩ : Quaternion)
  | gpsDetails => (⟨.fin 0, 0⟩ : GpsDetails)
  | statusFlight => (0 : UInt8)
  | batteryInfo => (⟨0, 0, 0⟩ : WholeBatteryInfo)
  | batterySingleInfoIndex1 => (⟨0, 0, 0, 0⟩ : SingleBatteryInfo)
  | batterySingleInfoIndex2 => (⟨0, 0, 0, 0⟩ : SingleBatteryInfo)
  | gimbalAngles => (⟨.fin 0, .fin 0, .fin 0⟩ : Vector3f)

/-- `TopicStats`.  The flag `logged` only guards a log line. -/
structure TopicStats where
  count : UInt32
  lastUpdateMs : UInt64
  logged : Bool
deriving DecidableEq

/-- `mark_topic_rx` at the clock reading `now`. -/
def markTopicRx (stats : TopicStats) (now : UInt64) : TopicStats where
  count := stats.count + 1
  lastUpdateMs := now
  logged := true

/-- `topic_is_fresh` at the clock reading `now`. -/
def topicIsFresh (stats : TopicStats) (maxAgeMs now : UInt64) : Bool :=
  if stats.lastUpdateMs = 0 then false
  else decide (stats.lastUpdateMs ≤ now ∧ now - stats.lastUpdateMs ≤ maxAgeMs)

theorem topicIsFresh_eq_true_iff
    (stats : TopicStats) (maxAgeMs now : UInt64) :
    topicIsFresh stats maxAgeMs now = true ↔
      stats.lastUpdateMs ≠ 0 ∧ stats.lastUpdateMs ≤ now ∧
        now - stats.lastUpdateMs ≤ maxAgeMs := by
  unfold topicIsFresh
  split_ifs with h <;> simp [h]

/-- The variable of a topic and its statistics. -/
structure Cached (α : Type) where
  sample : α
  stats : TopicStats

/-- What the flight controller hands to a callback. -/
structure Delivery (α : Type) where
  data : α
  len : Nat
  now : UInt64

/-- The common body of the callbacks. -/
def Cached.receive {α : Type} (size : Nat) (c : Cached α) (d : Delivery α) :
    Cached α :=
  if size ≤ d.len then { sample := d.data, stats := markTopicRx c.stats d.now }
  else c

/-- All static variables of the subscriptions. -/
abbrev Cache := (t : Topic) → Cached t.Sample

/-- The sizes of the sample types. -/
abbrev Sizes := Topic → Nat

/-- Deliver a sample of the topic `t`. -/
def deliver (sizeof : Sizes) (t : Topic) (d : Delivery t.Sample) (c : Cache) : Cache :=
  Function.update c t ((c t).receive (sizeof t) d)

/-- `cb_pos`. -/
def cbPos (sizeof : Sizes) : Delivery PositionFused → Cache → Cache :=
  deliver sizeof .positionFused

/-- `cb_vel`. -/
def cbVel (sizeof : Sizes) : Delivery Vector3f → Cache → Cache :=
  deliver sizeof .velocity

/-- `cb_quat`. -/
def cbQuat (sizeof : Sizes) : Delivery Quaternion → Cache → Cache :=
  deliver sizeof .quaternion

/-- `cb_gps`. -/
def cbGps (sizeof : Sizes) : Delivery GpsDetails → Cache → Cache :=
  deliver sizeof .gpsDetails

/-- `cb_flight_status`. -/
def cbFlightStatus (sizeof : Sizes) : Delivery UInt8 → Cache → Cache :=
  deliver sizeof .statusFlight

/-- `cb_battery`. -/
def cbBattery (sizeof : Sizes) : Delivery WholeBatteryInfo → Cache → Cache :=
  deliver sizeof .batteryInfo

/-- `cb_battery_single_1`. -/
def cbBatterySingle1 (sizeof : Sizes) : Delivery SingleBatteryInfo → Cache → Cache :=
  deliver sizeof .batterySingleInfoIndex1

/-- `cb_battery_single_2`. -/
def cbBatterySingle2 (sizeof : Sizes) : Delivery SingleBatteryInfo → Cache → Cache :=
  deliver sizeof .batterySingleInfoIndex2

/-- `cb_gimbal`. -/
def cbGimbal (sizeof : Sizes) : Delivery Vector3f → Cache → Cache :=
  deliver sizeof .gimbalAngles

/-- The callback that is subscribed to a topic. -/
def callback (sizeof : Sizes) : (t : Topic) → Delivery t.Sample → Cache → Cache
  | .positionFused => cbPos sizeof
  | .velocity => cbVel sizeof
  | .quaternion => cbQuat sizeof
  | .gpsDetails => cbGps sizeof
  | .statusFlight => cbFlightStatus sizeof
  | .batteryInfo => cbBattery sizeof
  | .batterySingleInfoIndex1 => cbBatterySingle1 sizeof
  | .batterySingleInfoIndex2 => cbBatterySingle2 sizeof
  | .gimbalAngles => cbGimbal sizeof

theorem callback_eq_deliver
    (sizeof : Sizes) (t : Topic) :
    callback sizeof t = deliver sizeof t := by
  cases t <;> rfl

/-- The cache before the first delivery. -/
def emptyCache : Cache :=
  fun t => { sample := t.zero, stats := ⟨0, 0, false⟩ }

/-- A sequence of deliveries. -/
abbrev Deliveries := List (Σ t : Topic, Delivery t.Sample)

/-- The cache after a sequence of deliveries. -/
def runCallbacks (sizeof : Sizes) (ds : Deliveries) : Cache :=
  ds.foldl (fun c d => callback sizeof d.1 d.2 c) emptyCache

/-! ## What the cache holds -/

/-- The delivery, if it belongs to the topic `t`. -/
def ofTopic (t : Topic) (d : Σ t : Topic, Delivery t.Sample) :
    Option (Delivery t.Sample) :=
  if h : d.1 = t then some (h ▸ d.2) else none

/-- The latest accepted delivery of a topic. -/
def latest (sizeof : Sizes) (t : Topic) (ds : Deliveries) :
    Option (Delivery t.Sample) :=
  ((ds.filterMap (ofTopic t)).filter (fun d => decide (sizeof t ≤ d.len))).getLast?

/-- The sample of the latest accepted delivery, and zero before it. -/
def latestSample (sizeof : Sizes) (t : Topic) (ds : Deliveries) : t.Sample :=
  ((latest sizeof t ds).map Delivery.data).getD t.zero

/-- The arrival of the latest accepted delivery, and zero before it. -/
def latestUpdate (sizeof : Sizes) (t : Topic) (ds : Deliveries) : UInt64 :=
  ((latest sizeof t ds).map Delivery.now).getD 0

theorem runCallbacks_concat
    (sizeof : Sizes) (ds : Deliveries) (d : Σ t : Topic, Delivery t.Sample) :
    runCallbacks sizeof (ds ++ [d]) =
      deliver sizeof d.1 d.2 (runCallbacks sizeof ds) := by
  simp only [runCallbacks, List.foldl_append, List.foldl_cons, List.foldl_nil,
    callback_eq_deliver]

/-- A delivery of another topic does not change the latest one. -/
theorem latest_concat_other
    (sizeof : Sizes) {t : Topic} (ds : Deliveries)
    {d : Σ t : Topic, Delivery t.Sample}
    (h : d.1 ≠ t) :
    latest sizeof t (ds ++ [d]) = latest sizeof t ds := by
  simp [latest, ofTopic, h]

theorem latest_concat_self
    (sizeof : Sizes) (t : Topic) (ds : Deliveries) (d : Delivery t.Sample) :
    latest sizeof t (ds ++ [⟨t, d⟩]) =
      if sizeof t ≤ d.len then some d else latest sizeof t ds := by
  by_cases h : sizeof t ≤ d.len <;> simp [latest, ofTopic, h]

/-- **The cache is a register of latest samples.** -/
theorem run_topic
    (sizeof : Sizes) (ds : Deliveries) (t : Topic) :
    (runCallbacks sizeof ds t).sample = latestSample sizeof t ds ∧
      (runCallbacks sizeof ds t).stats.lastUpdateMs = latestUpdate sizeof t ds := by
  induction ds using List.reverseRecOn with
  | nil =>
      exact ⟨rfl, rfl⟩
  | append_singleton ds d ih =>
      obtain ⟨t', d⟩ := d
      rw [runCallbacks_concat]
      by_cases ht : t' = t
      · subst ht
        simp only [deliver, Function.update_self, Cached.receive, latestSample,
          latestUpdate, latest_concat_self]
        split_ifs
        · exact ⟨rfl, rfl⟩
        · exact ih
      · simp only [deliver, Function.update_of_ne (Ne.symm ht), latestSample,
          latestUpdate, latest_concat_other sizeof ds (d := ⟨t', d⟩) ht]
        exact ih

end Real
end PsdkBridge
