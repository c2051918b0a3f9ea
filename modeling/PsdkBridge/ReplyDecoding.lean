import PsdkBridge.ReplyText

/-!
# What a client reads in a reply

A client decodes the datagram as a JSON text and reads the members it knows.  A
number is accepted for a field only if it is a value of the field's type, so that
nothing is wrapped around on the way (`exactly`).

`reports_decode`: the answers to `drone.get_battery_info` and to `system.ping` are
sent whole, and reading them gives back the identifier of the request and the
reported values.
-/

namespace PsdkBridge

/-- The number that a member of an object holds. -/
def intMember (v : Json) (key : Bytes) : Option Int :=
  match jsonObjectObjectGetEx v key with
  | some (.int i) => some i
  | _ => none

/-- A number as a value of a machine type, if it is one. -/
def exactly {α : Type} (ofInt : Int → α) (toInt : α → Int) (i : Int) : Option α :=
  if toInt (ofInt i) = i then some (ofInt i) else none

theorem exactly_toInt
    {α : Type} {ofInt : Int → α} {toInt : α → Int}
    (h : Function.LeftInverse ofInt toInt)
    (a : α) :
    exactly ofInt toInt (toInt a) = some a := by
  simp [exactly, h a]

/-- The identifier and the result of a success response. -/
def readResponse (text : Bytes) : Option (Int32 × Json) := do
  let v ← decode text
  let id ← intMember v (ascii "id")
  let id ← exactly Int32.ofInt Int32.toInt id
  let result ← jsonObjectObjectGetEx v (ascii "result")
  return (id, result)

/-- The battery report that a result holds. -/
def readBatteryInfo (result : Json) : Option DroneBatteryInfo := do
  let voltageMv ← intMember result (ascii "voltage_mv")
  let voltageMv ← exactly (fun i => UInt32.ofNat i.toNat) (fun v => v.toNat) voltageMv
  let currentMa ← intMember result (ascii "current_ma")
  let currentMa ← exactly Int32.ofInt Int32.toInt currentMa
  let remainingPct ← intMember result (ascii "remaining_pct")
  let remainingPct ← exactly (fun i => UInt8.ofNat i.toNat) (fun v => v.toNat) remainingPct
  let temperatureDc ← intMember result (ascii "temperature_dc")
  let temperatureDc ← exactly Int16.ofInt Int16.toInt temperatureDc
  let cycleCount ← intMember result (ascii "cycle_count")
  let cycleCount ← exactly (fun i => UInt32.ofNat i.toNat) (fun v => v.toNat) cycleCount
  return { voltageMv, currentMa, remainingPct, temperatureDc, cycleCount }

/-- The uptime that a result holds. -/
def readUptime (result : Json) : Option UInt64 := do
  let ms ← intMember result (ascii "uptime_ms")
  exactly (fun i => UInt64.ofNat i.toNat) (fun v => v.toNat) ms

/-- The identifier and the battery report of a response. -/
def readBatteryReply (text : Bytes) : Option (Int32 × DroneBatteryInfo) := do
  let (id, result) ← readResponse text
  let b ← readBatteryInfo result
  return (id, b)

/-- The identifier and the uptime of a response. -/
def readPingReply (text : Bytes) : Option (Int32 × UInt64) := do
  let (id, result) ← readResponse text
  let ms ← readUptime result
  return (id, ms)

/-- The members of an object without their texts. -/
def memberValues (ms : List Member) : List (Bytes × Json) :=
  ms.map (fun m => (m.key, m.val))

/-! ## Reading undoes printing -/

/-- A number under a name that occurs once is found. -/
theorem intMember_of_mem
    {ms : List Member} {m : Member} {i : Int}
    (hkeys : (ms.map Member.key).Nodup)
    (hm : m ∈ ms)
    (hval : m.val = .int i) :
    intMember (.obj (memberValues ms)) m.key = some i := by
  obtain ⟨p, hp⟩ : ∃ p, (memberValues ms).reverse.find? (fun p => p.1 == m.key) = some p := by
    apply Option.isSome_iff_exists.mp
    rw [List.find?_isSome]
    exact ⟨(m.key, m.val), List.mem_reverse.mpr (List.mem_map_of_mem hm), beq_self_eq_true _⟩
  obtain ⟨m', hm', rfl⟩ := List.mem_map.mp (List.mem_reverse.mp (List.mem_of_find?_eq_some hp))
  have hkey : m'.key = m.key := by
    simpa using List.find?_some hp
  obtain rfl := List.inj_on_of_nodup_map hkeys hm' hm hkey
  simp only [intMember, jsonObjectObjectGetEx, hp, Option.map_some, hval]

theorem readBatteryInfo_batteryMembers
    (b : DroneBatteryInfo) :
    readBatteryInfo (.obj (memberValues (batteryMembers b))) = some b := by
  have hkeys : ((batteryMembers b).map Member.key).Nodup := by
    have hnames : [ascii "voltage_mv", ascii "current_ma", ascii "remaining_pct",
        ascii "temperature_dc", ascii "cycle_count"].Nodup := by decide
    exact hnames
  have hvoltage := intMember_of_mem hkeys (.head _) rfl
  have hcurrent := intMember_of_mem hkeys (.tail _ (.head _)) rfl
  have hremaining := intMember_of_mem hkeys (.tail _ (.tail _ (.head _))) rfl
  have htemperature := intMember_of_mem hkeys (.tail _ (.tail _ (.tail _ (.head _)))) rfl
  have hcycles :=
    intMember_of_mem hkeys (.tail _ (.tail _ (.tail _ (.tail _ (.head _))))) rfl
  have h32 : Function.LeftInverse (fun i : Int => UInt32.ofNat i.toNat)
      (fun v : UInt32 => (v.toNat : Int)) := fun v => by simp
  have h8 : Function.LeftInverse (fun i : Int => UInt8.ofNat i.toNat)
      (fun v : UInt8 => (v.toNat : Int)) := fun v => by simp
  simp only [readBatteryInfo, hvoltage, hcurrent, hremaining, htemperature, hcycles,
    Option.bind_eq_bind, Option.bind_some, exactly_toInt h32 b.voltageMv,
    exactly_toInt Int32.ofInt_toInt, exactly_toInt h8 b.remainingPct,
    exactly_toInt Int16.ofInt_toInt, exactly_toInt h32 b.cycleCount]
  rfl

theorem readUptime_pingMembers
    (ms : UInt64) :
    readUptime (.obj (memberValues (pingMembers ms.toNat))) = some ms := by
  have hkeys : ((pingMembers ms.toNat).map Member.key).Nodup := by
    have hnames : [ascii "pong", ascii "uptime_ms"].Nodup := by decide
    exact hnames
  have hms := intMember_of_mem hkeys (.tail _ (.head _)) rfl
  have h64 : Function.LeftInverse (fun i : Int => UInt64.ofNat i.toNat)
      (fun v : UInt64 => (v.toNat : Int)) := fun v => by simp
  simp only [readUptime, hms, Option.bind_eq_bind, Option.bind_some, exactly_toInt h64 ms]

theorem readResponse_of_decode
    {text : Bytes} {id : Int32} {members : List (Bytes × Json)}
    (h : decode text = some (resultObject id members)) :
    readResponse text = some (id, .obj members) := by
  have hid : intMember (resultObject id members) (ascii "id") = some id.toInt := by
    simp [intMember, jsonObjectObjectGetEx, resultObject, ascii]
  have hresult : jsonObjectObjectGetEx (resultObject id members) (ascii "result") =
      some (.obj members) := by
    simp [jsonObjectObjectGetEx, resultObject, ascii]
  simp only [readResponse, h, hid, hresult, Option.bind_eq_bind, Option.bind_some,
    exactly_toInt Int32.ofInt_toInt]
  rfl

theorem readBatteryReply_of_decode
    {text : Bytes} {id : Int32} {b : DroneBatteryInfo}
    (h : decode text = some (resultObject id (memberValues (batteryMembers b)))) :
    readBatteryReply text = some (id, b) := by
  simp only [readBatteryReply, readResponse_of_decode h, Option.bind_eq_bind,
    Option.bind_some, readBatteryInfo_batteryMembers b]
  rfl

theorem readPingReply_of_decode
    {text : Bytes} {id : Int32} {ms : UInt64}
    (h : decode text = some (resultObject id (memberValues (pingMembers ms.toNat)))) :
    readPingReply text = some (id, ms) := by
  simp only [readPingReply, readResponse_of_decode h, Option.bind_eq_bind,
    Option.bind_some, readUptime_pingMembers ms]
  rfl

/-! ## What is sent -/

section Sent

variable {σ : Type} (E : Env σ) (peer : SockaddrIn)

/-- The events are the given calls and one datagram: the whole text of the response
`body` to the request, which decodes to the given members. -/
structure Carries (id : Int32) (body : Bytes) (members : List Member)
    (calls evs : List Event) (datagram : Bytes) : Prop where
  sent : evs = calls ++ [.send peer datagram datagram.length]
  whole : datagram = resultText id (some body)
  decoded : decode datagram = some (resultObject id (memberValues members))

/-- A result text that fits is sent whole. -/
theorem carries_of_reads
    {id : Int32} {body : Bytes} {members : List Member} {calls evs : List Event}
    (hevs : evs = calls ++ [sendEvent peer (resultText id (some body))])
    (hreads : Reads body (.obj (memberValues members)))
    (hlen : body.length < 256) :
    Carries peer id body members calls evs (resultText id (some body)) where
  sent := by
    have hfits : (resultText id (some body)).length < droneMaxMsgLen := by
      have hbody : ∀ b, some body = some b → b.length ≤ 256 := by
        rintro b ⟨⟩
        exact hlen.le
      have hle := resultText_length_le id (by norm_num) hbody
      simp only [droneMaxMsgLen]
      omega
    rw [hevs, sendEvent, List.take_of_length_le (by omega)]
  whole := rfl
  decoded := decode_resultText id hreads

/-- The battery values that were read arrive at the client. -/
def BatteryArrives (line : Bytes) (req : RpcRequest) (w : World σ) : Prop :=
  ∀ b, (E.droneCtrl .getBatteryInfo w.ctrl).1 = (.ok, b) →
    ∃ datagram,
      Carries peer req.id (printBatteryInfo b) (batteryMembers b)
        [.call .getBatteryInfo .ok] (newEvents E peer line w) datagram ∧
      readBatteryReply datagram = some (req.id, b)

/-- The uptime arrives at the client. -/
def UptimeArrives (line : Bytes) (req : RpcRequest) (w : World σ) : Prop :=
  ∃ datagram,
    Carries peer req.id (pingText (uptimeMs E w).1) (pingMembers (uptimeMs E w).1.toNat)
      [] (newEvents E peer line w) datagram ∧
    readPingReply datagram = some (req.id, (uptimeMs E w).1)

variable {line : Bytes} {req : RpcRequest}

/-- The battery report as a plan prints it. -/
theorem batteryArrives_of_request
    (hreq : rpcParse E.platform line = some req)
    (hm : req.method = ascii "drone.get_battery_info")
    (w : World σ) :
    BatteryArrives E peer line req w := by
  intro b hb
  have hplan : req.plan E.platform =
      getPlan .getBatteryInfo "failed to read battery info" 256 printBatteryInfo :=
    plan_of_name (k := .getBatteryInfo) hm E.platform
  have hevs : newEvents E peer line w =
      [.call .getBatteryInfo .ok] ++
        [sendEvent peer (resultText req.id (some (printBatteryInfo b)))] := by
    rw [newEvents_of_some E peer hreq w, hplan]
    simp only [getPlan, Plan.calls, Plan.reply, if_true, hb,
      snprintf_stored_of_lt (printBatteryInfo_length_lt b)]
  have hcarries := carries_of_reads peer hevs (reads_printBatteryInfo b)
    (printBatteryInfo_length_lt b)
  exact ⟨_, hcarries, readBatteryReply_of_decode hcarries.decoded⟩

/-- The answer to a ping as a plan prints it. -/
theorem uptimeArrives_of_request
    (hreq : rpcParse E.platform line = some req)
    (hm : req.method = ascii "system.ping")
    (w : World σ) :
    UptimeArrives E peer line req w := by
  have hevs : newEvents E peer line w =
      [] ++ [sendEvent peer (resultText req.id (some (pingText (uptimeMs E w).1)))] := by
    rw [newEvents_of_some E peer hreq w, (plan_eq_ping_iff E.platform req).mpr hm,
      ← pingBody_eq E w]
    rfl
  have hlen := (pingText_length_lt (uptimeMs E w).1).trans (by norm_num : 128 < 256)
  have hcarries := carries_of_reads peer hevs (reads_pingText _) hlen
  exact ⟨_, hcarries, readPingReply_of_decode hcarries.decoded⟩

/-- **Decoding undoes encoding.**  For every request for the battery report or for the
uptime, whatever its identifier and the reported values: the answer is sent whole, and
reading it gives back the identifier and the values. -/
theorem reports_decode
    (hreq : rpcParse E.platform line = some req)
    (w : World σ) :
    (req.method = ascii "drone.get_battery_info" → BatteryArrives E peer line req w) ∧
      (req.method = ascii "system.ping" → UptimeArrives E peer line req w) :=
  ⟨fun hm => batteryArrives_of_request E peer hreq hm w,
    fun hm => uptimeArrives_of_request E peer hreq hm w⟩

end Sent

/-- A report with extreme values in all fields. -/
def extremeReport : DroneBatteryInfo where
  voltageMv := 4294967295
  currentMa := -2147483648
  remainingPct := 255
  temperatureDc := -32768
  cycleCount := 4294967295

/-- The stub build with this report, asked ten days after its first answer. -/
def extremeEnv : Env Stub.StubState where
  platform := gnuPlatform
  droneCtrl
    | .getBatteryInfo, s => ((.ok, extremeReport), s)
    | c, s => stubEnv.droneCtrl c s
  startClock := { tvSec := 5, tvNsec := 999999999 }
  nowClock := { tvSec := 864005, tvNsec := 999999998 }

/-- The report and the uptime arrive under the smallest identifier. -/
theorem reports_decode_extreme :
    (∃ datagram,
      .send localPeer datagram datagram.length ∈ newEvents extremeEnv localPeer
        (requestLine (-2147483648) .getBatteryInfo []) stubWorld ∧
      readBatteryReply datagram = some (-2147483648, extremeReport)) ∧
    ∃ datagram,
      .send localPeer datagram datagram.length ∈ newEvents extremeEnv localPeer
        (requestLine (-2147483648) .systemPing []) stubWorld ∧
      readPingReply datagram = some (-2147483648, 863999999) := by
  have hreq := fun k : Method => rpcParse_requestLine (i := -2147483648) (by decide) k
    (List.forall_mem_nil Member.Ok) (List.forall_mem_nil _)
    (List.forall_mem_nil fun m : Member => (0 : UInt8) ∉ m.render)
  constructor
  · obtain ⟨datagram, hcarries, hread⟩ := (reports_decode extremeEnv localPeer
      (hreq .getBatteryInfo) stubWorld).1 rfl extremeReport rfl
    refine ⟨datagram, ?_, hread⟩
    rw [hcarries.sent]
    simp
  · obtain ⟨datagram, hcarries, hread⟩ := (reports_decode extremeEnv localPeer
      (hreq .systemPing) stubWorld).2 rfl
    refine ⟨datagram, ?_, hread⟩
    rw [hcarries.sent]
    simp

end PsdkBridge
