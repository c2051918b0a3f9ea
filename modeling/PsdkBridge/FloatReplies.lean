import PsdkBridge.Lib.Fixed
import PsdkBridge.Lib.JsonClosed
import PsdkBridge.Lib.Rounding
import PsdkBridge.ReplyDecoding

/-!
# Replies with floating-point numbers

Four methods print floating-point numbers.  A number that is not finite is printed as a
word that JSON does not know, and a report that is too long for its buffer is cut:
`readings_told` says that these are the only cases in which a client cannot read the
reply, and that it reads the reported values otherwise, up to half a unit of the last
decimal that is printed.  `readings_legible` says which values are never cut.
-/

namespace PsdkBridge

/-! ## What is printed -/

/-- What `%f` prints for the values that are not finite. -/
def wordTexts : List Bytes :=
  [ascii "inf", ascii "-inf", ascii "nan", ascii "-nan"]

/-- The conversion `%.Nf` of the C library. -/
structure PrintsFixed (P : Platform) : Prop where
  finite : ∀ {n : Nat}, 0 < n → ∀ q, IsFixed n q (P.fmtFixed n (.fin q))
  other : ∀ (n : Nat) {x : FNum}, (∀ q, x ≠ .fin q) → P.fmtFixed n x ∈ wordTexts

/-- A member of a report: a text that denotes its value, or a number with `n`
decimals. -/
inductive Item where
  | whole (m : Member)
  | fixed (key : Bytes) (n : Nat) (x : FNum)

namespace Item

/-- The member as it is printed. -/
def member (P : Platform) : Item → Member
  | .whole m => m
  | .fixed key n x => {
      key := key
      text := P.fmtFixed n x
      val := ((readNumber (P.fmtFixed n x)).map Prod.fst).getD .null }

/-- The number is finite. -/
def Finite : Item → Prop
  | .whole _ => True
  | .fixed _ _ x => ∃ q, x = .fin q

/-- The item can be printed and read. -/
def Sound : Item → Prop
  | .whole m => m.Ok ∧ (125 : UInt8) ∉ m.render
  | .fixed key n _ => Plain key ∧ (125 : UInt8) ∉ key ∧ 0 < n

/-- What a client reads for the item: a number with `n` decimals is off by at most half
a unit of the last one. -/
def Shows : Item → Bytes × Json → Prop
  | .whole m, p => p = (m.key, m.val)
  | .fixed key n x, p => p.1 = key ∧
      ∃ (q v : ℚ) (k : ℤ), x = .fin q ∧ p.2 = .dbl (.fin v) ∧ v = k / 10 ^ n ∧
        |v - q| ≤ 1 / (2 * 10 ^ n)

section Printed

variable {P : Platform} (hP : PrintsFixed P) {i : Item}
include hP

theorem member_ok
    (hsound : i.Sound)
    (hfinite : i.Finite) :
    (i.member P).Ok ∧ i.Shows ((i.member P).key, (i.member P).val) := by
  cases i with
  | whole m =>
      exact ⟨hsound.1, rfl⟩
  | fixed key n x =>
      obtain ⟨q, rfl⟩ := hfinite
      obtain ⟨hkey, _, hn⟩ := hsound
      obtain ⟨neg, k, htext, herr⟩ := hP.finite hn q
      have hread := readNumber_fixedNumeral hn neg k delimited_nil
      rw [List.append_nil, ← htext] at hread
      have hval : (member P (.fixed key n (.fin q))).val = .dbl (.fin (fixedVal neg n k)) := by
        simp only [member, hread, Option.map_some, Option.getD_some]
      obtain ⟨i, hi⟩ := exists_fixedVal neg n k
      refine ⟨⟨hkey, ?_⟩, rfl, q, fixedVal neg n k, i, rfl, hval, hi, herr⟩
      rw [hval]
      show Reads (P.fmtFixed n (.fin q)) _
      rw [htext]
      exact reads_fixedNumeral hn neg k

theorem member_word
    (hsound : i.Sound)
    (hinfinite : ¬ i.Finite) :
    Plain (i.member P).key ∧ (i.member P).text ∈ wordTexts := by
  cases i with
  | whole m =>
      exact absurd trivial hinfinite
  | fixed key n x =>
      exact ⟨hsound.1, hP.other n (fun q hq => hinfinite ⟨q, hq⟩)⟩

/-- No item contains a closing brace. -/
theorem brace_notMem_render
    (hsound : i.Sound) :
    (125 : UInt8) ∉ (i.member P).render := by
  cases i with
  | whole m =>
      exact hsound.2
  | fixed key n x =>
      have htext : (125 : UInt8) ∉ P.fmtFixed n x := by
        by_cases hx : ∃ q, x = .fin q
        · obtain ⟨q, rfl⟩ := hx
          obtain ⟨neg, k, htext, _⟩ := hP.finite hsound.2.2 q
          rw [htext]
          exact notMem_fixedNumeral rfl (by decide) (by decide) neg n k
        · have hwords : ∀ t ∈ wordTexts, (125 : UInt8) ∉ t := by decide
          exact hwords _ (hP.other n (fun q hq => hx ⟨q, hq⟩))
      simpa [Member.render, member, hsound.2.1] using htext

end Printed

end Item

/-- The text of a report. -/
def reportText (P : Platform) (items : List Item) : Bytes :=
  objectText (items.map (Item.member P))

/-! ## Reading a report -/

/-- The words are no values. -/
theorem readValue_word
    {t : Bytes}
    (ht : t ∈ wordTexts)
    (n : Nat) (r : Bytes) :
    readValue n (t ++ r) = none := by
  have hcases : t = ascii "inf" ∨ t = ascii "-inf" ∨ t = ascii "nan" ∨ t = ascii "-nan" := by
    simpa [wordTexts] using ht
  cases n with
  | zero =>
      rfl
  | succ n =>
      rcases hcases with rfl | rfl | rfl | rfl <;>
        simp [ascii, readValue, skipWs, isWs, readNumber, readName, isDigit]

theorem readMembers_render_word
    {m : Member}
    (hkey : Plain m.key)
    (hword : m.text ∈ wordTexts)
    (n : Nat) (r : Bytes) :
    readMembers n (m.render ++ r) = none := by
  cases n with
  | zero =>
      rfl
  | succ n =>
      have htext : m.render ++ r = 34 :: m.key ++ 34 :: 58 :: (m.text ++ r) := by
        simp [Member.render]
      rw [htext, readMembers_key hkey, readValue_word hword]
      rfl

/-- A member list with a word in it is not read. -/
theorem readMembers_word :
    ∀ (ms : List Member), (∀ m ∈ ms, m.Ok ∨ (Plain m.key ∧ m.text ∈ wordTexts)) →
      ¬ (∀ m ∈ ms, m.Ok) →
      ∀ (n : Nat) (r : Bytes), (membersText ms).length ≤ n →
        readMembers n (membersText ms ++ r) = none
  | [], _, hword, _, _, _ => absurd (List.forall_mem_nil _) hword
  | m :: ms, hms, hword, n, r, hn => by
      obtain ⟨hm, hrest⟩ := List.forall_mem_cons.mp hms
      by_cases hok : m.Ok
      · -- the word is further behind
        have hword : ¬ ∀ m ∈ ms, m.Ok := fun h => hword (List.forall_mem_cons.mpr ⟨hok, h⟩)
        cases ms with
        | nil =>
            exact absurd (List.forall_mem_nil _) hword
        | cons m' ms =>
            have hlen : m.text.length + 4 + (membersText (m' :: ms)).length ≤ n := by
              simp only [membersText, Member.render, List.length_append,
                List.length_cons] at hn
              omega
            obtain ⟨n, rfl⟩ : ∃ k, n = k + 1 := ⟨n - 1, by omega⟩
            have hread := readMembers_render hok
              (n := n) (r := 44 :: (membersText (m' :: ms) ++ r)) (by omega)
              (delimited_comma _)
            have ih := readMembers_word (m' :: ms) hrest hword n r (by omega)
            have htext : membersText (m :: m' :: ms) ++ r =
                m.render ++ 44 :: (membersText (m' :: ms) ++ r) := by
              simp [membersText]
            rw [htext, hread, closeOrComma_comma (by decide), ih]
            rfl
      · obtain ⟨hkey, hm⟩ := hm.resolve_left hok
        obtain ⟨t, ht⟩ : ∃ t, membersText (m :: ms) ++ r = m.render ++ t := by
          cases ms <;> simp [membersText]
        rw [ht]
        exact readMembers_render_word hkey hm n t

/-- The only closing brace of a member list is its last octet, if no member has one. -/
theorem membersText_shape :
    ∀ (ms : List Member), (∀ m ∈ ms, (125 : UInt8) ∉ m.render) →
      ∃ inner, membersText ms = inner ++ [125] ∧ (125 : UInt8) ∉ inner
  | [], _ => ⟨[], rfl, List.not_mem_nil⟩
  | [m], h => ⟨m.render, rfl, h m (.head _)⟩
  | m :: m' :: ms, h => by
      obtain ⟨hm, hrest⟩ := List.forall_mem_cons.mp h
      obtain ⟨inner, htext, hinner⟩ := membersText_shape (m' :: ms) hrest
      refine ⟨m.render ++ 44 :: inner, ?_, ?_⟩
      · simp [membersText, htext]
      · simp [hm, hinner]

/-- The response around a text that is no value of a member. -/
theorem decode_resultText_eq_none
    (id : Int32) {body : Bytes}
    (hbody : body ≠ [])
    (h : ∀ n, body.length < n → (readValue n (body ++ [125])).bind
      (fun p => closeOrComma 125 (ascii "result", p.1) (readMembers n) p.2) = none) :
    decode (resultText id (some body)) = none := by
  have hkey : Plain (ascii "result") := by decide
  have htext : resultText id (some body) = 123 :: ((idMember id).render ++
      44 :: (34 :: ascii "result" ++ 34 :: 58 :: (body ++ [125]))) := by
    rw [resultText_eq_objectText id hbody .null]
    simp [objectText, membersText, Member.render]
  obtain ⟨n, hn, hid, hlen⟩ : ∃ n, (resultText id (some body)).length + 1 = n + 3 ∧
      (idMember id).text.length < n + 1 ∧ body.length < n := by
    refine ⟨(resultText id (some body)).length - 2, ?_⟩
    rw [resultText_length_some id hbody]
    simp only [idMember]
    omega
  unfold decode
  rw [hn, htext, readValue_object_cons (idMember_ok id) hid, readMembers_key hkey, h n hlen]
  rfl

section Reports

variable {P : Platform} (hP : PrintsFixed P) {items : List Item}
include hP

/-- A report of finite numbers. -/
theorem reads_reportText
    (hsound : ∀ i ∈ items, i.Sound)
    (hfinite : ∀ i ∈ items, i.Finite) :
    ∃ ms, Reads (reportText P items) (.obj ms) ∧ List.Forall₂ Item.Shows items ms := by
  refine ⟨_, reads_object ?_, ?_⟩
  · intro m hm
    obtain ⟨i, hi, rfl⟩ := List.mem_map.mp hm
    exact (Item.member_ok hP (hsound i hi) (hfinite i hi)).1
  · rw [List.map_map, List.forall₂_map_right_iff, List.forall₂_same]
    exact fun i hi => (Item.member_ok hP (hsound i hi) (hfinite i hi)).2

/-- A report with a number that is not finite. -/
theorem readValue_reportText
    (hsound : ∀ i ∈ items, i.Sound)
    (hinfinite : ¬ ∀ i ∈ items, i.Finite)
    {n : Nat}
    (hn : (reportText P items).length < n)
    (r : Bytes) :
    readValue n (reportText P items ++ r) = none := by
  have hmembers : ∀ m ∈ items.map (Item.member P),
      m.Ok ∨ (Plain m.key ∧ m.text ∈ wordTexts) := by
    intro m hm
    obtain ⟨i, hi, rfl⟩ := List.mem_map.mp hm
    by_cases hfinite : i.Finite
    · exact Or.inl (Item.member_ok hP (hsound i hi) hfinite).1
    · exact Or.inr (Item.member_word hP (hsound i hi) hfinite)
  have hword : ¬ ∀ m ∈ items.map (Item.member P), m.Ok := by
    intro hok
    refine hinfinite fun i hi => ?_
    by_contra hfinite
    have hm := (Item.member_word hP (hsound i hi) hfinite).2
    have hread := (hok _ (List.mem_map_of_mem hi)).2 _ [] (Nat.lt_succ_self _) delimited_nil
    rw [readValue_word hm] at hread
    cases hread
  obtain ⟨n, rfl⟩ : ∃ k, n = k + 1 := ⟨n - 1, by omega⟩
  have hnone := readMembers_word (items.map (Item.member P)) hmembers hword n r (by
    simp only [reportText, objectText, List.length_cons] at hn
    omega)
  have hopen : expect 125 (membersText (items.map (Item.member P)) ++ r) = none := by
    cases hitems : items.map (Item.member P) with
    | nil =>
        rw [hitems] at hword
        exact absurd (List.forall_mem_nil _) hword
    | cons m ms =>
        obtain ⟨t, ht⟩ : ∃ t, membersText (m :: ms) ++ r = m.render ++ t := by
          cases ms <;> simp [membersText]
        rw [ht]
        exact expect_brace_render m t
  simp [reportText, objectText, readValue, skipWs_of_not_ws (b := 123) rfl, hopen, hnone]

/-- The only closing brace of a report is its last octet. -/
theorem reportText_shape
    (hsound : ∀ i ∈ items, i.Sound) :
    ∃ inner, reportText P items = 123 :: inner ++ [125] ∧ (125 : UInt8) ∉ inner := by
  have hmembers : ∀ m ∈ items.map (Item.member P), (125 : UInt8) ∉ m.render := by
    intro m hm
    obtain ⟨i, hi, rfl⟩ := List.mem_map.mp hm
    exact Item.brace_notMem_render hP (hsound i hi)
  obtain ⟨inner, htext, hinner⟩ := membersText_shape _ hmembers
  exact ⟨inner, by simp [reportText, objectText, htext], hinner⟩

end Reports

/-! ## The four reports -/

/-- An unsigned member. -/
def Item.count (key : String) (n : Nat) : Item :=
  .whole { key := ascii key, text := decNat n, val := .int n }

/-- A Boolean member. -/
def Item.flag (key : String) (b : Bool) : Item :=
  .whole { key := ascii key, text := boolText b, val := .bool b }

/-- The members that `h_drone_get_telemetry` prints. -/
def telemetryItems (t : DroneTelemetry) : List Item :=
  [.fixed (ascii "lat") 8 t.lat, .fixed (ascii "lon") 8 t.lon,
    .fixed (ascii "alt_msl_m") 2 t.altMslM, .fixed (ascii "alt_rel_m") 2 t.altRelM,
    .fixed (ascii "vx_ms") 2 t.vxMs, .fixed (ascii "vy_ms") 2 t.vyMs,
    .fixed (ascii "vz_ms") 2 t.vzMs, .fixed (ascii "heading_deg") 1 t.headingDeg,
    .count "battery_pct" t.batteryPct.toNat, .count "battery_mv" t.batteryMv.toNat,
    .count "gps_sats" t.gpsSats.toNat, .count "gps_fix" t.gpsFix.toNat,
    .count "flight_status" t.flightStatus.toNat, .flag "motors_on" t.motorsOn]

/-- The members that `h_drone_get_gimbal_angle` prints. -/
def gimbalItems (g : DroneGimbalAngle) : List Item :=
  [.fixed (ascii "pitch") 2 g.pitch, .fixed (ascii "roll") 2 g.roll,
    .fixed (ascii "yaw") 2 g.yaw]

/-- The members that `h_drone_get_camera_state` prints. -/
def cameraItems (c : DroneCameraState) : List Item :=
  [.whole {
      key := ascii "mode"
      text := decInt c.mode.toInt.toInt
      val := .int c.mode.toInt.toInt },
    .flag "is_recording" c.isRecording, .fixed (ascii "zoom_factor") 2 c.zoomFactor]

/-- The members that `h_drone_get_rtk_status` prints. -/
def rtkItems (r : DroneRtkStatus) : List Item :=
  [.flag "enabled" r.enabled, .count "fix_type" r.fixType.toNat,
    .count "satellites" r.satellites.toNat, .fixed (ascii "lat") 8 r.lat,
    .fixed (ascii "lon") 8 r.lon, .fixed (ascii "alt_m") 2 r.altM]

/-- The reports that contain floating-point numbers. -/
inductive Reading where
  | telemetry
  | gimbalAngle
  | cameraState
  | rtkStatus
deriving DecidableEq

namespace Reading

/-- The function that fills the report. -/
def call : Reading → DroneCall
  | telemetry => .getTelemetry
  | gimbalAngle => .getGimbalAngle
  | cameraState => .getCameraState
  | rtkStatus => .getRtkStatus

/-- The answer if the function fails. -/
def failure : Reading → String
  | telemetry => "failed to read telemetry"
  | gimbalAngle => "failed to read gimbal angle"
  | cameraState => "failed to read camera state"
  | rtkStatus => "failed to read RTK status"

/-- The size of the buffer that the report is printed into. -/
def bufSz : Reading → Nat
  | telemetry => 512
  | gimbalAngle => 128
  | cameraState => 128
  | rtkStatus => 256

/-- The report as it is printed. -/
def print (P : Platform) : (k : Reading) → k.call.Out → Bytes
  | telemetry => printTelemetry P
  | gimbalAngle => printGimbalAngle P
  | cameraState => printCameraState P
  | rtkStatus => printRtkStatus P

/-- The members of the report. -/
def items : (k : Reading) → k.call.Out → List Item
  | telemetry => telemetryItems
  | gimbalAngle => gimbalItems
  | cameraState => cameraItems
  | rtkStatus => rtkItems

/-- The handlers of the four methods. -/
theorem plan_eq
    (P : Platform) (params : Json) (k : Reading) :
    k.call.method.plan P params = getPlan k.call k.failure k.bufSz (k.print P) := by
  cases k <;> rfl

end Reading

section Literals

variable (P : Platform)

set_option maxRecDepth 2000 in
theorem printTelemetry_eq
    (t : DroneTelemetry) :
    printTelemetry P t = reportText P (telemetryItems t) := by
  unfold printTelemetry
  simp [telemetryItems, reportText, objectText, membersText, Member.render, Item.member,
    Item.count, Item.flag, ascii]

theorem printGimbalAngle_eq
    (g : DroneGimbalAngle) :
    printGimbalAngle P g = reportText P (gimbalItems g) := by
  unfold printGimbalAngle
  simp [gimbalItems, reportText, objectText, membersText, Member.render, Item.member, ascii]

theorem printCameraState_eq
    (c : DroneCameraState) :
    printCameraState P c = reportText P (cameraItems c) := by
  unfold printCameraState
  simp [cameraItems, reportText, objectText, membersText, Member.render, Item.member,
    Item.flag, ascii]

theorem printRtkStatus_eq
    (r : DroneRtkStatus) :
    printRtkStatus P r = reportText P (rtkItems r) := by
  unfold printRtkStatus
  simp [rtkItems, reportText, objectText, membersText, Member.render, Item.member,
    Item.count, Item.flag, ascii]

end Literals

namespace Reading

/-- Every format string is one of an object. -/
theorem print_eq
    (P : Platform) :
    ∀ (k : Reading) (out : k.call.Out), k.print P out = reportText P (k.items out)
  | telemetry => printTelemetry_eq P
  | gimbalAngle => printGimbalAngle_eq P
  | cameraState => printCameraState_eq P
  | rtkStatus => printRtkStatus_eq P

theorem sound_count
    {key : String}
    (hkey : Plain (ascii key) ∧ (125 : UInt8) ∉ ascii key)
    (n : Nat) :
    (Item.count key n).Sound := by
  refine ⟨⟨hkey.1, reads_nat n⟩, ?_⟩
  have hn : (125 : UInt8) ∉ decNat n := fun h =>
    absurd (isDigit_of_mem_decNat h) (by decide)
  simp [Member.render, hkey.2, hn]

theorem sound_flag
    {key : String}
    (hkey : Plain (ascii key) ∧ (125 : UInt8) ∉ ascii key)
    (b : Bool) :
    (Item.flag key b).Sound := by
  cases b with
  | true =>
      refine ⟨⟨hkey.1, reads_true⟩, ?_⟩
      have htext : (125 : UInt8) ∉ ascii "true" := by decide
      simpa [Member.render, hkey.2, boolText] using htext
  | false =>
      refine ⟨⟨hkey.1, reads_false⟩, ?_⟩
      have htext : (125 : UInt8) ∉ ascii "false" := by decide
      simpa [Member.render, hkey.2, boolText] using htext

theorem sound_fixed
    {key : String} {n : Nat}
    (hkey : Plain (ascii key) ∧ (125 : UInt8) ∉ ascii key)
    (hn : 0 < n)
    (x : FNum) :
    (Item.fixed (ascii key) n x).Sound :=
  ⟨hkey.1, hkey.2, hn⟩

theorem sound_mode
    (m : CameraMode) :
    (Item.whole {
      key := ascii "mode"
      text := decInt m.toInt.toInt
      val := .int m.toInt.toInt }).Sound := by
  have hkey : Plain (ascii "mode") ∧ (125 : UInt8) ∉ ascii "mode" := by decide
  have hm : (125 : UInt8) ∉ decInt m.toInt.toInt := fun h =>
    absurd (isDigit_or_minus_of_mem_decInt h) (by decide)
  refine ⟨⟨hkey.1, reads_int _⟩, ?_⟩
  simp [Member.render, hkey.2, hm]

/-- Every member can be printed and read. -/
theorem sound
    (k : Reading) (out : k.call.Out) :
    ∀ i ∈ k.items out, i.Sound := by
  cases k with
  | telemetry =>
      simp only [items, telemetryItems, List.forall_mem_cons]
      exact ⟨sound_fixed (by decide) (by decide) _, sound_fixed (by decide) (by decide) _,
        sound_fixed (by decide) (by decide) _, sound_fixed (by decide) (by decide) _,
        sound_fixed (by decide) (by decide) _, sound_fixed (by decide) (by decide) _,
        sound_fixed (by decide) (by decide) _, sound_fixed (by decide) (by decide) _,
        sound_count (by decide) _, sound_count (by decide) _, sound_count (by decide) _,
        sound_count (by decide) _, sound_count (by decide) _, sound_flag (by decide) _,
        List.forall_mem_nil _⟩
  | gimbalAngle =>
      simp only [items, gimbalItems, List.forall_mem_cons]
      exact ⟨sound_fixed (by decide) (by decide) _, sound_fixed (by decide) (by decide) _,
        sound_fixed (by decide) (by decide) _, List.forall_mem_nil _⟩
  | cameraState =>
      simp only [items, cameraItems, List.forall_mem_cons]
      exact ⟨sound_mode _, sound_flag (by decide) _, sound_fixed (by decide) (by decide) _,
        List.forall_mem_nil _⟩
  | rtkStatus =>
      simp only [items, rtkItems, List.forall_mem_cons]
      exact ⟨sound_flag (by decide) _, sound_count (by decide) _, sound_count (by decide) _,
        sound_fixed (by decide) (by decide) _, sound_fixed (by decide) (by decide) _,
        sound_fixed (by decide) (by decide) _, List.forall_mem_nil _⟩

end Reading

/-! ## What arrives -/

section Arriving

variable {σ : Type} (E : Env σ) (hP : PrintsFixed E.platform)
variable {req : RpcRequest} {k : Reading}

/-- The printed report as it stands in its buffer. -/
def Reading.stored (P : Platform) (k : Reading) (out : k.call.Out) : Bytes :=
  (snprintf k.bufSz (k.print P out)).stored

include hP

/-- A report of finite numbers that fits is read. -/
theorem decode_reading
    (id : Int32) {out : k.call.Out}
    (hfinite : ∀ i ∈ k.items out, i.Finite)
    (hlen : (k.print E.platform out).length < k.bufSz) :
    ∃ ms, decode (resultText id (some (k.stored E.platform out))) =
        some (resultObject id ms) ∧
      List.Forall₂ Item.Shows (k.items out) ms := by
  obtain ⟨ms, hreads, hshows⟩ := reads_reportText hP (k.sound out) hfinite
  rw [← k.print_eq, ← snprintf_stored_of_lt hlen] at hreads
  exact ⟨ms, decode_resultText id hreads, hshows⟩

/-- Any other report is not read. -/
theorem decode_reading_eq_none
    (id : Int32) {out : k.call.Out}
    (h : ¬ ((∀ i ∈ k.items out, i.Finite) ∧
      (k.print E.platform out).length < k.bufSz)) :
    decode (resultText id (some (k.stored E.platform out))) = none := by
  obtain ⟨inner, hshape, hinner⟩ := reportText_shape hP (k.sound out)
  rw [← k.print_eq] at hshape
  have hsz : 2 ≤ k.bufSz := by cases k <;> decide
  by_cases hlen : (k.print E.platform out).length < k.bufSz
  · -- printed whole, with a word in it
    have hinfinite : ¬ ∀ i ∈ k.items out, i.Finite := fun hfinite => h ⟨hfinite, hlen⟩
    have hstored : k.stored E.platform out = reportText E.platform (k.items out) := by
      rw [Reading.stored, snprintf_stored_of_lt hlen, k.print_eq]
    apply decode_resultText_eq_none
    · rw [hstored]
      exact List.cons_ne_nil _ _
    · intro n hn
      rw [hstored] at hn ⊢
      rw [readValue_reportText hP (k.sound out) hinfinite hn]
      rfl
  · -- cut in front of its closing brace
    have hstored : k.stored E.platform out = 123 :: inner.take (k.bufSz - 2) := by
      obtain ⟨m, hm⟩ : ∃ m, k.bufSz - 1 = m + 1 := ⟨k.bufSz - 2, by omega⟩
      have hmin : k.bufSz - 2 = m := by omega
      have hle : m ≤ inner.length := by
        rw [hshape] at hlen
        simp only [List.length_append, List.length_cons, List.length_nil] at hlen
        omega
      rw [Reading.stored, snprintf, hshape, hm, hmin, List.cons_append, List.take_succ_cons,
        List.take_append_of_le_length hle]
    apply decode_resultText_eq_none
    · rw [hstored]
      exact List.cons_ne_nil _ _
    · intro n _
      rw [hstored]
      exact no_object_cut fun h => hinner (List.mem_of_mem_take h)

omit hP in
theorem stored_length_le
    (P : Platform) (k : Reading) (out : k.call.Out) :
    (k.stored P out).length ≤ 511 := by
  have hle := snprintf_stored_length_le k.bufSz (k.print P out)
  have hsz : k.bufSz ≤ 512 := by cases k <;> decide
  simp only [Reading.stored]
  omega

omit hP in
/-- What the plan of a reading does. -/
theorem events_reading
    (peer : SockaddrIn)
    (hm : req.method = ascii k.call.method.name)
    (w : World σ) {out : k.call.Out}
    (hout : (E.droneCtrl k.call w.ctrl).1 = (.ok, out)) :
    (req.plan E.platform).calls E w ++
        [sendEvent peer ((req.plan E.platform).reply E req.id w)] =
      [.call k.call .ok,
        .send peer (resultText req.id (some (k.stored E.platform out)))
          (resultText req.id (some (k.stored E.platform out))).length] := by
  have hplan : req.plan E.platform = getPlan k.call k.failure k.bufSz (k.print E.platform) :=
    (plan_of_name hm E.platform).trans (k.plan_eq E.platform req.params)
  have hbody : ∀ b, some (k.stored E.platform out) = some b → b.length ≤ 511 := by
    rintro b ⟨⟩
    exact stored_length_le E.platform k out
  have hlen := resultText_length_le req.id (by norm_num) hbody
  rw [hplan]
  simp only [getPlan, Plan.calls, Plan.reply, if_true, hout, sendEvent,
    List.singleton_append]
  rw [← Reading.stored, List.take_of_length_le (by simp only [droneMaxMsgLen]; omega)]

/-- What a client makes of the answer: if it reads anything, it reads the reported
values, and it reads something unless a number is not finite or the report is cut. -/
structure Reading.Told (P : Platform) (id : Int32) (k : Reading) (out : k.call.Out)
    (datagram : Bytes) : Prop where
  right : ∀ v, decode datagram = some v →
    ∃ ms, v = resultObject id ms ∧ List.Forall₂ Item.Shows (k.items out) ms
  legible : (∃ v, decode datagram = some v) ↔
    (∀ i ∈ k.items out, i.Finite) ∧ (k.print P out).length < k.bufSz

theorem told
    (id : Int32) (k : Reading) (out : k.call.Out) :
    k.Told E.platform id out (resultText id (some (k.stored E.platform out))) := by
  by_cases h : (∀ i ∈ k.items out, i.Finite) ∧ (k.print E.platform out).length < k.bufSz
  · obtain ⟨ms, hdecode, hshows⟩ := decode_reading E hP id h.1 h.2
    refine ⟨fun v hv => ⟨ms, ?_, hshows⟩, fun _ => h, fun _ => ⟨_, hdecode⟩⟩
    rw [hdecode] at hv
    exact (Option.some.inj hv).symm
  · have hdecode := decode_reading_eq_none E hP id h
    refine ⟨fun v hv => ?_, fun ⟨v, hv⟩ => ?_, fun h' => absurd h' h⟩
    · rw [hdecode] at hv
      cases hv
    · rw [hdecode] at hv
      cases hv

/-- **Readings arrive.**  For every request for a report with floating-point numbers
that the drone functions fill: one datagram is sent, whole.  A client that can decode it
reads the identifier of the request and the reported values, the floating-point numbers
up to half a unit of their last decimal; and it can decode it exactly if all numbers are
finite and the report fits the buffer that it is printed into. -/
theorem readings_told
    (peer : SockaddrIn) {line : Bytes} {req : RpcRequest} {k : Reading}
    (hreq : rpcParse E.platform line = some req)
    (hm : req.method = ascii k.call.method.name)
    (w : World σ) {out : k.call.Out}
    (hout : (E.droneCtrl k.call w.ctrl).1 = (.ok, out)) :
    ∃ datagram,
      newEvents E peer line w = [.call k.call .ok, .send peer datagram datagram.length] ∧
      k.Told E.platform req.id out datagram :=
  ⟨_, (newEvents_of_some E peer hreq w).trans (events_reading E peer hm w hout),
    told E hP req.id k out⟩

end Arriving

/-! ## Members by their names -/

/-- The name of the member. -/
def Item.key : Item → Bytes
  | .whole m => m.key
  | .fixed key _ _ => key

theorem Item.key_of_shows
    {i : Item} {p : Bytes × Json}
    (h : i.Shows p) :
    p.1 = i.key := by
  cases i with
  | whole m =>
      rw [show p = (m.key, m.val) from h]
      rfl
  | fixed key n x =>
      exact h.1

/-- A member whose name occurs once is found. -/
theorem getEx_of_mem
    {ms : List (Bytes × Json)} {p : Bytes × Json}
    (hkeys : (ms.map Prod.fst).Nodup)
    (hp : p ∈ ms) :
    jsonObjectObjectGetEx (.obj ms) p.1 = some p.2 := by
  obtain ⟨p', hfind⟩ : ∃ p', ms.reverse.find? (fun m => m.1 == p.1) = some p' := by
    apply Option.isSome_iff_exists.mp
    rw [List.find?_isSome]
    exact ⟨p, List.mem_reverse.mpr hp, beq_self_eq_true _⟩
  have hkey : p'.1 = p.1 := by
    simpa using List.find?_some hfind
  have hmem := List.mem_reverse.mp (List.mem_of_find?_eq_some hfind)
  obtain rfl := List.inj_on_of_nodup_map hkeys hmem hp hkey
  simp only [jsonObjectObjectGetEx, hfind, Option.map_some]

/-- What a client finds under the name of an item. -/
theorem shown_of_mem
    {items : List Item} {ms : List (Bytes × Json)}
    (hshows : List.Forall₂ Item.Shows items ms)
    (hkeys : (items.map Item.key).Nodup)
    {i : Item}
    (hi : i ∈ items) :
    ∃ v, jsonObjectObjectGetEx (.obj ms) i.key = some v ∧ i.Shows (i.key, v) := by
  have hmap : ms.map Prod.fst = items.map Item.key := by
    clear hkeys hi
    induction hshows with
    | nil =>
        rfl
    | cons hp _ ih =>
        rw [List.map_cons, List.map_cons, ih, Item.key_of_shows hp]
  obtain ⟨n, hn, rfl⟩ := List.mem_iff_getElem.mp hi
  have hlen := hshows.length_eq
  have hp := hshows.get hn (hlen ▸ hn)
  simp only [List.get_eq_getElem] at hp
  have hkey := Item.key_of_shows hp
  have hget := getEx_of_mem (hmap ▸ hkeys) (List.getElem_mem (hlen ▸ hn))
  rw [hkey] at hget
  refine ⟨_, hget, ?_⟩
  rw [← hkey]
  exact hp

/-! ## Reports that are never cut -/

/-- The value is smaller than the bound, if it is finite. -/
def FNum.Below (b : ℚ) (x : FNum) : Prop :=
  ∀ q, x = .fin q → |q| < b

/-- Coordinates that are angles, values of the type `float`, and gimbal angles that are
not absurd. -/
def Reading.InRange : (k : Reading) → k.call.Out → Prop
  | telemetry => fun t : DroneTelemetry =>
      (t.lat.Below 999 ∧ t.lon.Below 999) ∧
        ∀ x ∈ [t.altMslM, t.altRelM, t.vxMs, t.vyMs, t.vzMs, t.headingDeg],
          x.Below (2 ^ 128)
  | gimbalAngle => fun g : DroneGimbalAngle =>
      ∀ x ∈ [g.pitch, g.roll, g.yaw], x.Below (10 ^ 29)
  | cameraState => fun c : DroneCameraState => c.zoomFactor.Below (2 ^ 128)
  | rtkStatus => fun r : DroneRtkStatus =>
      (r.lat.Below 999 ∧ r.lon.Below 999) ∧ r.altM.Below (2 ^ 128)

section Lengths

variable {P : Platform} (hP : PrintsFixed P)
include hP

theorem fmtFixed_length_le
    {b : ℚ} {x : FNum} {n d : Nat}
    (hx : x.Below b)
    (hn : 0 < n)
    (hd : 2 < d)
    (hb : b + 1 ≤ 10 ^ d) :
    (P.fmtFixed n x).length ≤ d + n + 2 := by
  by_cases hfin : ∃ q, x = .fin q
  · obtain ⟨q, rfl⟩ := hfin
    have hq := hx q rfl
    exact (hP.finite hn q).length_le hn (by omega) (by linarith)
  · have hwords : ∀ t ∈ wordTexts, t.length ≤ 4 := by decide
    have hle := hwords _ (hP.other n (fun q hq => hfin ⟨q, hq⟩))
    omega

theorem print_length_lt
    (k : Reading) {out : k.call.Out}
    (h : k.InRange out) :
    (k.print P out).length < k.bufSz := by
  have hu8 : ∀ v : UInt8, (decNat v.toNat).length ≤ 3 := fun v =>
    decNat_length_le (by norm_num) (v.toNat_lt.trans (by norm_num))
  have hflag : ∀ b, (boolText b).length ≤ 5 := by decide
  have hangle : ∀ {x : FNum}, x.Below 999 → (P.fmtFixed 8 x).length ≤ 13 := fun hx =>
    fmtFixed_length_le hP hx (d := 3) (by norm_num) (by norm_num) (by norm_num)
  have hfloat : ∀ {n : Nat} {x : FNum}, 0 < n → x.Below (2 ^ 128) →
      (P.fmtFixed n x).length ≤ 39 + n + 2 := fun hn hx =>
    fmtFixed_length_le hP hx (d := 39) hn (by norm_num) (by norm_num)
  rw [k.print_eq, reportText, objectText, List.length_cons]
  cases k with
  | telemetry =>
      obtain ⟨⟨hlat, hlon⟩, hrest⟩ := h
      simp only [List.forall_mem_cons] at hrest
      obtain ⟨h₁, h₂, h₃, h₄, h₅, h₆, _⟩ := hrest
      have hlat := hangle hlat
      have hlon := hangle hlon
      have h₁ := hfloat (n := 2) (by norm_num) h₁
      have h₂ := hfloat (n := 2) (by norm_num) h₂
      have h₃ := hfloat (n := 2) (by norm_num) h₃
      have h₄ := hfloat (n := 2) (by norm_num) h₄
      have h₅ := hfloat (n := 2) (by norm_num) h₅
      have h₆ := hfloat (n := 1) (by norm_num) h₆
      have hpct := hu8 (DroneTelemetry.batteryPct out)
      have hmv : (decNat (DroneTelemetry.batteryMv out).toNat).length ≤ 10 :=
        decNat_length_le (by norm_num) ((UInt32.toNat_lt _).trans (by norm_num))
      have hsats := hu8 (DroneTelemetry.gpsSats out)
      have hfix := hu8 (DroneTelemetry.gpsFix out)
      have hstatus := hu8 (DroneTelemetry.flightStatus out)
      have hmotors := hflag (DroneTelemetry.motorsOn out)
      rw [membersText_length (by simp [Reading.items, telemetryItems])]
      simp [Reading.items, telemetryItems, Item.member, Item.count, Item.flag, ascii,
        Reading.bufSz]
      omega
  | gimbalAngle =>
      simp only [Reading.InRange, List.forall_mem_cons] at h
      obtain ⟨h₁, h₂, h₃, _⟩ := h
      have hone : ∀ {x : FNum}, x.Below (10 ^ 29) → (P.fmtFixed 2 x).length ≤ 34 :=
        fun hx => fmtFixed_length_le hP hx (d := 30) (by norm_num) (by norm_num)
          (by norm_num)
      have h₁ := hone h₁
      have h₂ := hone h₂
      have h₃ := hone h₃
      rw [membersText_length (by simp [Reading.items, gimbalItems])]
      simp [Reading.items, gimbalItems, Item.member, ascii, Reading.bufSz]
      omega
  | cameraState =>
      have hzoom := hfloat (n := 2) (by norm_num) h
      have hmode := decInt_id_length_le (CameraMode.toInt (DroneCameraState.mode out))
      have hrec := hflag (DroneCameraState.isRecording out)
      rw [membersText_length (by simp [Reading.items, cameraItems])]
      simp [Reading.items, cameraItems, Item.member, Item.flag, ascii, Reading.bufSz]
      omega
  | rtkStatus =>
      obtain ⟨⟨hlat, hlon⟩, halt⟩ := h
      have hlat := hangle hlat
      have hlon := hangle hlon
      have halt := hfloat (n := 2) (by norm_num) halt
      have henabled := hflag (DroneRtkStatus.enabled out)
      have htype := hu8 (DroneRtkStatus.fixType out)
      have hsats := hu8 (DroneRtkStatus.satellites out)
      rw [membersText_length (by simp [Reading.items, rtkItems])]
      simp [Reading.items, rtkItems, Item.member, Item.count, Item.flag, ascii,
        Reading.bufSz]
      omega

end Lengths

/-- **Readings in range are legible.**  Whatever the identifier: a report whose numbers
are finite and in range is sent whole and decodes to the reported values, up to half a
unit of the last decimal of each. -/
theorem readings_legible
    {σ : Type} (E : Env σ) (hP : PrintsFixed E.platform)
    (peer : SockaddrIn) {line : Bytes} {req : RpcRequest} {k : Reading}
    (hreq : rpcParse E.platform line = some req)
    (hm : req.method = ascii k.call.method.name)
    (w : World σ) {out : k.call.Out}
    (hout : (E.droneCtrl k.call w.ctrl).1 = (.ok, out))
    (hfinite : ∀ i ∈ k.items out, i.Finite)
    (hrange : k.InRange out) :
    ∃ datagram ms,
      newEvents E peer line w = [.call k.call .ok, .send peer datagram datagram.length] ∧
      decode datagram = some (resultObject req.id ms) ∧
      List.Forall₂ Item.Shows (k.items out) ms := by
  obtain ⟨ms, hdecode, hshows⟩ :=
    decode_reading E hP req.id hfinite (print_length_lt hP k hrange)
  exact ⟨_, ms, (newEvents_of_some E peer hreq w).trans (events_reading E peer hm w hout),
    hdecode, hshows⟩

/-! ## The concrete platform -/

theorem unscaled_error
    {r a : ℚ} {n : Nat}
    (h : |r - a * 10 ^ n| ≤ 1 / 2) :
    |r / 10 ^ n - a| ≤ 1 / (2 * 10 ^ n) := by
  have hpow : (0 : ℚ) < 10 ^ n := by positivity
  have heq : r / 10 ^ n - a = (r - a * 10 ^ n) / 10 ^ n := by
    field_simp
  rw [heq, abs_div, abs_of_pos hpow, div_le_div_iff₀ hpow (by positivity)]
  nlinarith

theorem isFixed_fixedText
    (n : Nat) (q : ℚ) :
    IsFixed n q (fixedText n (.fin q)) := by
  have hround := abs_roundHalfEven_sub_le (|q| * 10 ^ n)
  have hnonneg : 0 ≤ roundHalfEven (|q| * 10 ^ n) := by
    have hscaled : 0 ≤ |q| * 10 ^ n := by positivity
    have hlow := (abs_le.mp hround).1
    have hrat : (-1 : ℚ) < roundHalfEven (|q| * 10 ^ n) := by linarith
    have hint : (-1 : ℤ) < roundHalfEven (|q| * 10 ^ n) := by exact_mod_cast hrat
    omega
  refine ⟨decide (q < 0), (roundHalfEven (|q| * 10 ^ n)).toNat, ?_, ?_⟩
  · simp [fixedText, fixedNumeral, decimals, ascii]
  · have hcast : (((roundHalfEven (|q| * 10 ^ n)).toNat : ℕ) : ℚ) =
        roundHalfEven (|q| * 10 ^ n) := by
      exact_mod_cast Int.toNat_of_nonneg hnonneg
    have herr := unscaled_error hround
    by_cases hq : q < 0
    · simp only [fixedVal, hq, decide_true, if_true, hcast]
      rw [abs_of_neg hq] at herr ⊢
      rw [← abs_neg]
      convert herr using 2
      ring
    · simp only [fixedVal, hq, decide_false, Bool.false_eq_true, if_false, hcast]
      rw [abs_of_nonneg (not_lt.mp hq)] at herr ⊢
      exact herr

theorem printsFixed_gnuPlatform :
    PrintsFixed gnuPlatform where
  finite _ q := isFixed_fixedText _ q
  other n x hx := by
    cases x with
    | nan =>
        simp [gnuPlatform, fixedText, wordTexts]
    | inf neg =>
        cases neg <;> simp [gnuPlatform, fixedText, wordTexts]
    | fin q =>
        exact absurd rfl (hx q)

theorem rpcParse_reading
    (k : Reading) :
    ∃ req, rpcParse gnuPlatform (requestLine 1 k.call.method []) = some req ∧
      req.method = ascii k.call.method.name :=
  ⟨_, rpcParse_requestLine (by decide) k.call.method (List.forall_mem_nil Member.Ok)
    (List.forall_mem_nil _) (List.forall_mem_nil fun m : Member => (0 : UInt8) ∉ m.render), rfl⟩

/-- A gimbal that does not know its roll angle. -/
def wildGimbal : DroneGimbalAngle where
  pitch := .fin (-30)
  roll := .nan
  yaw := .fin 0

/-- The stub build with this gimbal. -/
def wildEnv : Env Stub.StubState where
  platform := gnuPlatform
  droneCtrl
    | .getGimbalAngle, s => ((.ok, wildGimbal), s)
    | c, s => stubEnv.droneCtrl c s
  startClock := stubEnv.startClock
  nowClock := stubEnv.nowClock

/-- One angle that is not a number makes the whole report unreadable. -/
theorem readings_told_wild :
    ∃ datagram,
      .send localPeer datagram datagram.length ∈ newEvents wildEnv localPeer
        (requestLine 1 .getGimbalAngle []) stubWorld ∧
      decode datagram = none := by
  obtain ⟨req, hreq, hm⟩ := rpcParse_reading .gimbalAngle
  have hout : (wildEnv.droneCtrl .getGimbalAngle stubWorld.ctrl).1 = (.ok, wildGimbal) := rfl
  obtain ⟨datagram, hsent, htold⟩ := readings_told wildEnv printsFixed_gnuPlatform localPeer
    hreq hm stubWorld hout
  refine ⟨datagram, ?_, ?_⟩
  · show _ ∈ newEvents wildEnv localPeer (requestLine 1 Reading.gimbalAngle.call.method [])
      stubWorld
    rw [hsent]
    simp
  · by_contra hdecode
    obtain ⟨v, hv⟩ := Option.ne_none_iff_exists'.mp hdecode
    have hroll := (htold.legible.mp ⟨v, hv⟩).1 (.fixed (ascii "roll") 2 .nan)
      (.tail _ (.head _))
    obtain ⟨q, hq⟩ := hroll
    cases hq

/-- The gimbal of the stub build starts at thirty degrees downwards. -/
theorem readings_legible_initial :
    ∃ datagram v,
      .send localPeer datagram datagram.length ∈ newEvents stubEnv localPeer
        (requestLine 1 .getGimbalAngle []) stubWorld ∧
      decode datagram = some v := by
  obtain ⟨req, hreq, hm⟩ := rpcParse_reading .gimbalAngle
  have hfinite : ∀ i ∈ Reading.gimbalAngle.items (Stub.droneGetGimbalAngle Stub.initial),
      i.Finite := by
    simp only [Reading.items, gimbalItems, List.forall_mem_cons]
    exact ⟨⟨_, rfl⟩, ⟨_, rfl⟩, ⟨_, rfl⟩, List.forall_mem_nil _⟩
  have hrange : Reading.gimbalAngle.InRange (Stub.droneGetGimbalAngle Stub.initial) := by
    simp only [Reading.InRange, List.forall_mem_cons]
    refine ⟨?_, ?_, ?_, List.forall_mem_nil _⟩ <;>
    · rintro q hq
      cases hq
      norm_num
  obtain ⟨datagram, ms, hsent, hdecode, _⟩ := readings_legible stubEnv
    printsFixed_gnuPlatform localPeer hreq hm stubWorld rfl hfinite hrange
  refine ⟨datagram, _, ?_, hdecode⟩
  show _ ∈ newEvents stubEnv localPeer (requestLine 1 Reading.gimbalAngle.call.method [])
    stubWorld
  rw [hsent]
  simp

end PsdkBridge
