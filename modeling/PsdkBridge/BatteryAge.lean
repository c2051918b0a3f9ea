import PsdkBridge.BatteryReport

/-!
# How old the battery readings are

While the whole-battery sample is fresh, both reports show it; behind that, they
show the samples of the single packs.  The whole-battery sample has an age limit,
and the samples of the packs have none.

A report depends on the sample of a pack if another sample would change it.
`dependsOn_iff` says for both functions when this is so, and
`fallbackNewer_iff` says exactly after which deliveries a report depends on a sample
that is older than the one it replaces.
-/

namespace PsdkBridge
namespace Real

/-- The two packs. -/
inductive Pack where
  | first
  | second
deriving DecidableEq

namespace Pack

/-- The topic of a pack. -/
def topic : Pack → Topic
  | first => .batterySingleInfoIndex1
  | second => .batterySingleInfoIndex2

/-- The other pack. -/
def other : Pack → Pack
  | first => second
  | second => first

/-- The variable of a pack. -/
def get (c : Cache) : Pack → Cached SingleBatteryInfo
  | first => gBatterySingle1 c
  | second => gBatterySingle2 c

/-- Replace the sample of a pack. -/
def put (s : SingleBatteryInfo) (c : Cache) : Pack → Cache
  | first =>
      Function.update c .batterySingleInfoIndex1 { (gBatterySingle1 c) with sample := s }
  | second =>
      Function.update c .batterySingleInfoIndex2 { (gBatterySingle2 c) with sample := s }

theorem get_put
    (k : Pack) (s : SingleBatteryInfo) (c : Cache) :
    k.get (k.put s c) = { (k.get c) with sample := s } := by
  cases k <;> rfl

theorem get_other_put
    (k : Pack) (s : SingleBatteryInfo) (c : Cache) :
    k.other.get (k.put s c) = k.other.get c := by
  cases k <;> rfl

theorem batteryFresh_put
    (k : Pack) (s : SingleBatteryInfo) (c : Cache) (now : UInt64) :
    batteryFresh (k.put s c) now = batteryFresh c now := by
  cases k <;> rfl

end Pack

/-- The report would be another one with another sample of the pack. -/
def DependsOn {β : Type} (report : Cache → β) (c : Cache) (k : Pack) : Prop :=
  ∃ s, report (k.put s c) ≠ report c

section Dependence

variable {c : Cache} {now : UInt64} {k : Pack}

/-- The charge behind a stale whole-battery sample. -/
theorem remainingPct_of_received
    (hstale : batteryFresh c now = false)
    (h : (k.get c).Received) :
    (droneGetBatteryInfo c now).remainingPct.toNat =
      if (k.other.get c).Received then
        ((k.get c).sample.batteryCapacityPercent.toNat +
          (k.other.get c).sample.batteryCapacityPercent.toNat) / 2
      else (k.get c).sample.batteryCapacityPercent.toNat := by
  cases k with
  | first =>
      have h₁ : (gBatterySingle1 c).stats.lastUpdateMs ≠ 0 := h
      split_ifs with hother
      · have h₂ : (gBatterySingle2 c).stats.lastUpdateMs ≠ 0 := hother
        rw [← toNat_meanPct]
        simp [droneGetBatteryInfo, BatteryAcc.patchSingle1, BatteryAcc.patchSingle2,
          Pack.get, Pack.other, hstale, h₁, h₂]
      · have h₂ : (gBatterySingle2 c).stats.lastUpdateMs = 0 := not_not.mp hother
        simp [droneGetBatteryInfo, BatteryAcc.patchSingle1, BatteryAcc.patchSingle2,
          Pack.get, hstale, h₁, h₂]
  | second =>
      have h₂ : (gBatterySingle2 c).stats.lastUpdateMs ≠ 0 := h
      split_ifs with hother
      · have h₁ : (gBatterySingle1 c).stats.lastUpdateMs ≠ 0 := hother
        rw [Nat.add_comm, ← toNat_meanPct]
        simp [droneGetBatteryInfo, BatteryAcc.patchSingle1, BatteryAcc.patchSingle2,
          Pack.get, Pack.other, hstale, h₁, h₂]
      · have h₁ : (gBatterySingle1 c).stats.lastUpdateMs = 0 := not_not.mp hother
        simp [droneGetBatteryInfo, BatteryAcc.patchSingle1, BatteryAcc.patchSingle2,
          Pack.get, hstale, h₁, h₂]

/-- Two samples of a pack that no report can confuse. -/
theorem remainingPct_put_ne
    (hstale : batteryFresh c now = false)
    (h : (k.get c).Received) :
    (droneGetBatteryInfo (k.put ⟨0, 0, 0, 0⟩ c) now).remainingPct ≠
      (droneGetBatteryInfo (k.put ⟨0, 0, 0, 100⟩ c) now).remainingPct := by
  have hpct : ∀ p : UInt8,
      (droneGetBatteryInfo (k.put ⟨0, 0, 0, p⟩ c) now).remainingPct.toNat =
        if (k.other.get c).Received then
          (p.toNat + (k.other.get c).sample.batteryCapacityPercent.toNat) / 2
        else p.toNat := by
    intro p
    have hstale' := (k.batteryFresh_put ⟨0, 0, 0, p⟩ c now).trans hstale
    have h' : (k.get (k.put ⟨0, 0, 0, p⟩ c)).Received := by
      rw [Pack.get_put]
      exact h
    rw [remainingPct_of_received hstale' h', Pack.get_put, Pack.get_other_put]
  intro heq
  have hnat := congrArg UInt8.toNat heq
  rw [hpct, hpct] at hnat
  have hzero : (0 : UInt8).toNat = 0 := rfl
  have hfull : (100 : UInt8).toNat = 100 := rfl
  split_ifs at hnat <;> omega

/-- A report that shows the charge depends on every pack it is computed from. -/
theorem dependsOn_of_received
    {β : Type} {report : Cache → β} {pct : β → UInt8}
    (hpct : ∀ c, pct (report c) = (droneGetBatteryInfo c now).remainingPct)
    (hstale : batteryFresh c now = false)
    (h : (k.get c).Received) :
    DependsOn report c k := by
  by_contra hnot
  have hsame : ∀ s, report (k.put s c) = report c := by
    simpa [DependsOn] using hnot
  refine remainingPct_put_ne hstale h ?_
  rw [← hpct, ← hpct, hsame, hsame]

/-- The block of a pack that has not reported does not look at its sample. -/
theorem packSum_add_skipped
    {pack : Cached SingleBatteryInfo}
    (hskip : ¬ pack.Received)
    (s : SingleBatteryInfo) (a : PackSum) :
    a.add { pack with sample := s } = a.add pack := by
  simp [PackSum.add, not_not.mp hskip]

theorem patchSingle_skipped
    {pack : Cached SingleBatteryInfo}
    (hskip : ¬ pack.Received)
    (s : SingleBatteryInfo) (a : BatteryAcc) :
    a.patchSingle1 { pack with sample := s } = a.patchSingle1 pack ∧
      a.patchSingle2 { pack with sample := s } = a.patchSingle2 pack := by
  simp [BatteryAcc.patchSingle1, BatteryAcc.patchSingle2, not_not.mp hskip]

/-- A pack changes neither a fresh report nor one that skips it. -/
theorem batteryInfo_put
    (s : SingleBatteryInfo)
    (h : ¬ (batteryFresh c now = false ∧ (k.get c).Received)) :
    droneGetBatteryInfo (k.put s c) now = droneGetBatteryInfo c now := by
  by_cases hf : batteryFresh c now = true
  · simp only [droneGetBatteryInfo, Pack.batteryFresh_put, hf]
    cases k <;> rfl
  · have hskip : ¬ (k.get c).Received := fun hr => h ⟨by simpa using hf, hr⟩
    cases k with
    | first =>
        have hpatch : ∀ a : BatteryAcc,
            a.patchSingle1 (gBatterySingle1 (Pack.first.put s c)) =
              a.patchSingle1 (gBatterySingle1 c) :=
          fun a => (patchSingle_skipped hskip s a).1
        simp only [droneGetBatteryInfo, Pack.batteryFresh_put, hpatch]
        rfl
    | second =>
        have hpatch : ∀ a : BatteryAcc,
            a.patchSingle2 (gBatterySingle2 (Pack.second.put s c)) =
              a.patchSingle2 (gBatterySingle2 c) :=
          fun a => (patchSingle_skipped hskip s a).2
        simp only [droneGetBatteryInfo, Pack.batteryFresh_put, hpatch]
        rfl

theorem telemetry_put
    (L : Libm) (s : SingleBatteryInfo)
    (h : ¬ (batteryFresh c now = false ∧ (k.get c).Received)) :
    droneGetTelemetry L (k.put s c) now = droneGetTelemetry L c now := by
  by_cases hf : batteryFresh c now = true
  · simp only [droneGetTelemetry, Pack.batteryFresh_put, hf]
    cases k <;> rfl
  · have hskip : ¬ (k.get c).Received := fun hr => h ⟨by simpa using hf, hr⟩
    cases k with
    | first =>
        have hadd : ∀ a : PackSum, a.add (gBatterySingle1 (Pack.first.put s c)) =
            a.add (gBatterySingle1 c) :=
          fun a => packSum_add_skipped hskip s a
        simp only [droneGetTelemetry, Pack.batteryFresh_put, hadd]
        rfl
    | second =>
        have hadd : ∀ a : PackSum, a.add (gBatterySingle2 (Pack.second.put s c)) =
            a.add (gBatterySingle2 c) :=
          fun a => packSum_add_skipped hskip s a
        simp only [droneGetTelemetry, Pack.batteryFresh_put, hadd]
        rfl

/-- **What the reports are computed from.**  Both depend on the sample of a pack exactly
if the whole-battery sample is not fresh and the pack has reported. -/
theorem dependsOn_iff
    (L : Libm) (c : Cache) (now : UInt64) (k : Pack) :
    (DependsOn (fun c => droneGetTelemetry L c now) c k ↔
      batteryFresh c now = false ∧ (k.get c).Received) ∧
    (DependsOn (fun c => droneGetBatteryInfo c now) c k ↔
      batteryFresh c now = false ∧ (k.get c).Received) := by
  refine ⟨⟨?_, ?_⟩, ⟨?_, ?_⟩⟩
  · rintro ⟨s, hs⟩
    by_contra hnot
    exact hs (telemetry_put L s hnot)
  · rintro ⟨hstale, h⟩
    exact dependsOn_of_received (fun c => batteryPct_eq_remainingPct L c now) hstale h
  · rintro ⟨s, hs⟩
    by_contra hnot
    exact hs (batteryInfo_put s hnot)
  · rintro ⟨hstale, h⟩
    exact dependsOn_of_received (fun _ => rfl) hstale h

end Dependence

section Runs

variable (L : Libm) (sizeof : Sizes)

/-- No report depends on a sample of a pack that is older than the whole-battery sample
it replaces. -/
structure FallbackNewer (ds : Deliveries) (now : UInt64) : Prop where
  telemetry : ∀ k : Pack,
    DependsOn (fun c => droneGetTelemetry L c now) (runCallbacks sizeof ds) k →
    latestUpdate sizeof .batteryInfo ds ≤ latestUpdate sizeof k.topic ds
  batteryInfo : ∀ k : Pack,
    DependsOn (fun c => droneGetBatteryInfo c now) (runCallbacks sizeof ds) k →
    latestUpdate sizeof .batteryInfo ds ≤ latestUpdate sizeof k.topic ds

/-- The whole-battery sample is more than five seconds old, and the latest sample of a
pack is still older. -/
def OutlivedPack (ds : Deliveries) (now : UInt64) : Prop :=
  ∃ b, latest sizeof .batteryInfo ds = some b ∧ 5000 < now - b.now ∧
    ∃ (k : Pack) (p : Delivery k.topic.Sample), latest sizeof k.topic ds = some p ∧
      p.now ≠ 0 ∧ p.now < b.now

/-- A pack has reported if its latest update was not at zero. -/
theorem received_iff
    (ds : Deliveries) (k : Pack) :
    (k.get (runCallbacks sizeof ds)).Received ↔ latestUpdate sizeof k.topic ds ≠ 0 := by
  rw [← (run_topic sizeof ds k.topic).2]
  cases k <;> rfl

theorem latestUpdate_of_some
    {ds : Deliveries} {t : Topic} {d : Delivery t.Sample}
    (h : latest sizeof t ds = some d) :
    latestUpdate sizeof t ds = d.now := by
  simp [latestUpdate, h]

theorem ne_zero_of_later
    {a b : UInt64}
    (h : a < b) :
    b ≠ 0 := by
  rintro rfl
  exact UInt64.not_lt_zero h

/-- At a query behind all deliveries, a sample is fresh for five seconds. -/
theorem batteryFresh_eq_false_iff
    {ds : Deliveries} {b : Delivery Topic.batteryInfo.Sample} {now : UInt64}
    (hb : latest sizeof .batteryInfo ds = some b)
    (hnonzero : b.now ≠ 0)
    (hlater : b.now ≤ now) :
    batteryFresh (runCallbacks sizeof ds) now = false ↔ 5000 < now - b.now := by
  have hstats := (run_topic sizeof ds .batteryInfo).2.trans (latestUpdate_of_some sizeof hb)
  rw [← Bool.not_eq_true, batteryFresh, topicIsFresh_eq_true_iff, hstats]
  simp [hnonzero, hlater]

theorem mem_of_latest
    {ds : Deliveries} {t : Topic} {d : Delivery t.Sample}
    (h : latest sizeof t ds = some d) :
    ⟨t, d⟩ ∈ ds := by
  have hmem := List.mem_of_getLast? h
  obtain ⟨⟨t', d'⟩, hds, htopic⟩ := List.mem_filterMap.mp (List.mem_of_mem_filter hmem)
  unfold ofTopic at htopic
  split_ifs at htopic with ht
  obtain rfl : t' = t := ht
  cases htopic
  exact hds

/-- What a report takes from a pack, unless the pack is outlived. -/
theorem le_of_not_outlived
    {ds : Deliveries} {now : UInt64} {k : Pack}
    (hlater : ∀ d ∈ ds, d.2.now ≤ now)
    (h : ¬ OutlivedPack sizeof ds now)
    (hstale : batteryFresh (runCallbacks sizeof ds) now = false)
    (hreceived : (k.get (runCallbacks sizeof ds)).Received) :
    latestUpdate sizeof .batteryInfo ds ≤ latestUpdate sizeof k.topic ds := by
  rw [received_iff] at hreceived
  cases hb : latest sizeof .batteryInfo ds with
  | none =>
      simp [latestUpdate, hb]
  | some b =>
      cases hp : latest sizeof k.topic ds with
      | none =>
          simp [latestUpdate, hp] at hreceived
      | some p =>
          rw [latestUpdate_of_some sizeof hp] at hreceived ⊢
          rw [latestUpdate_of_some sizeof hb]
          by_contra hlt
          have hlt : p.now < b.now := UInt64.not_le.mp hlt
          have hage := (batteryFresh_eq_false_iff sizeof hb (ne_zero_of_later hlt)
            (hlater _ (mem_of_latest sizeof hb))).mp hstale
          exact h ⟨b, hb, hage, k, p, hp, hreceived, hlt⟩

/-- **When the fallback is not older.**  At a query behind all deliveries, exactly
unless the whole-battery sample is more than five seconds old and a pack has a latest
sample that is older still. -/
theorem fallbackNewer_iff
    {ds : Deliveries} {now : UInt64}
    (hlater : ∀ d ∈ ds, d.2.now ≤ now) :
    FallbackNewer L sizeof ds now ↔ ¬ OutlivedPack sizeof ds now := by
  constructor
  · rintro hnewer ⟨b, hb, hage, k, p, hp, hnonzero, hlt⟩
    have hstale := (batteryFresh_eq_false_iff sizeof hb (ne_zero_of_later hlt)
      (hlater _ (mem_of_latest sizeof hb))).mpr hage
    have hreceived : (k.get (runCallbacks sizeof ds)).Received := by
      rw [received_iff, latestUpdate_of_some sizeof hp]
      exact hnonzero
    have hle := hnewer.telemetry k ((dependsOn_iff L _ now k).1.mpr ⟨hstale, hreceived⟩)
    rw [latestUpdate_of_some sizeof hb, latestUpdate_of_some sizeof hp] at hle
    exact absurd hlt (UInt64.not_lt.mpr hle)
  · intro h
    constructor
    · intro k hdepends
      obtain ⟨hstale, hreceived⟩ := (dependsOn_iff L _ now k).1.mp hdepends
      exact le_of_not_outlived sizeof hlater h hstale hreceived
    · intro k hdepends
      obtain ⟨hstale, hreceived⟩ := (dependsOn_iff L _ now k).2.mp hdepends
      exact le_of_not_outlived sizeof hlater h hstale hreceived

end Runs

/-- The pack of `fadingBattery` is newer than the sample it replaces. -/
theorem fallbackNewer_fading :
    FallbackNewer flatLibm plainSizes fadingBattery 31000 := by
  refine (fallbackNewer_iff flatLibm plainSizes (by decide)).mpr ?_
  rintro ⟨b, hb, _, k, p, hp, hnonzero, hlt⟩
  have hbnow : (1000 : UInt64) = b.now := latestUpdate_of_some plainSizes hb
  have hpnow := latestUpdate_of_some plainSizes hp
  cases k with
  | first =>
      exact hnonzero hpnow.symm
  | second =>
      have hpnow : (31000 : UInt64) = p.now := hpnow
      rw [← hbnow, ← hpnow] at hlt
      exact absurd hlt (by decide)

/-- A sample of the first pack, and a second later one of the whole battery. -/
def silentPack : Deliveries :=
  [⟨.batterySingleInfoIndex1, packSample 250⟩,
    ⟨.batteryInfo,
      { data := ({ voltage := 24000, current := -3000, percentage := 80 } :
          WholeBatteryInfo)
        len := 16
        now := 2000 }⟩]

/-- Eight seconds later the reports show the older sample of the two. -/
theorem silentPack_reported :
    (silentPack.map (fun d => d.2.now)).Pairwise (fun a b => a ≤ b) ∧
    (∀ d ∈ silentPack, d.2.now ≤ 10000) ∧
    (droneGetBatteryInfo (runCallbacks plainSizes silentPack) 10000).remainingPct = 41 ∧
    ¬ FallbackNewer flatLibm plainSizes silentPack 10000 := by
  refine ⟨by decide, by decide, by decide, fun hnewer => ?_⟩
  have hle := hnewer.batteryInfo .first
    ((dependsOn_iff flatLibm _ 10000 .first).2.mpr ⟨by decide, by decide⟩)
  exact absurd hle (by decide)

end Real
end PsdkBridge
